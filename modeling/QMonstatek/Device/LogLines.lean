import QMonstatek.Device.Bytes
import QMonstatek.Lib.Lines
import QMonstatek.Updater.Text

/-!
# Log lines of the device

The branch of `onFrameReceived` for CMD_LOG_MESSAGE.  A message is put behind the bytes of the line
that is still open, and the scan starts over.  However the device cuts its log into messages, the
lines are those of the whole log: `logMessages_eq`.  A buffer is shorter than the largest `int`.
-/

namespace QMon.Device
open Lines
open Updater (fromUtf8)

/-- what the branch reads and writes -/
structure LogState where
  m1LogBuf : List UInt8 := []
  /-- what is written with `logToFile`; `none` where it is off or the file is not open -/
  logFile : Option (List UInt8) := none
  /-- the lines of `m1LogReceived`, oldest first -/
  received : List (List Char) := []

/-- `endsWith('\r')`, `chop(1)` -/
def chopCr (line : List UInt8) : List UInt8 :=
  if line.getLast? = some 13 then line.dropLast else line

/-- the loop over the buffer, with the start of the line it is in and the lines so far -/
def scanLog (buf : List UInt8) (start i : Nat) (lines : List (List Char)) :
    Nat × List (List Char) :=
  if i < buf.length then
    if buf.getD i 0 = 10 then
      let lineBytes := chopCr (mid buf start ((i : Int) - start))
      scanLog buf (i + 1) (i + 1)
        (if lineBytes.isEmpty then lines else lines ++ [fromUtf8 lineBytes])
    else scanLog buf start (i + 1) lines
  else (start, lines)
termination_by buf.length - i

def onLogMessage (payload : List UInt8) (s : LogState) : LogState :=
  if payload.length > 0 then
    let buf := s.m1LogBuf ++ payload
    let scanned := scanLog buf 0 0 s.received
    { m1LogBuf := mid buf scanned.1 (-1)
      logFile := s.logFile.map (· ++ payload)
      received := scanned.2 }
  else s

/-- the messages of a session, one after the other -/
def logMessages (payloads : List (List UInt8)) (s : LogState) : LogState :=
  payloads.foldl (fun s payload => onLogMessage payload s) s

/-- what is reported of completed lines -/
def logLines (lines : List (List UInt8)) : List (List Char) :=
  ((lines.map chopCr).filter fun line => !line.isEmpty).map fromUtf8

/-! ## One scan -/

theorem logLines_cons (line : List UInt8) (rest : List (List UInt8)) :
    logLines (line :: rest) =
      (if (chopCr line).isEmpty then [] else [fromUtf8 (chopCr line)]) ++ logLines rest := by
  unfold logLines
  rw [List.map_cons, List.filter_cons]
  cases (chopCr line).isEmpty <;> rfl

theorem logLines_append (lines rest : List (List UInt8)) :
    logLines (lines ++ rest) = logLines lines ++ logLines rest := by
  unfold logLines
  rw [List.map_append, List.filter_append, List.map_append]

/-- **The scan**, from the start of a line on which no line feed was met yet. -/
theorem scanLog_eq (buf : List UInt8) (start i : Nat) (lines : List (List Char)) (hle : start ≤ i)
    (hi : i ≤ buf.length) (hopen : 10 ∉ (buf.drop start).take (i - start)) :
    buf.drop (scanLog buf start i lines).1 = openPart 10 (buf.drop start) ∧
      (scanLog buf start i lines).1 ≤ buf.length ∧
      (scanLog buf start i lines).2 = lines ++ logLines (complete 10 (buf.drop start)) := by
  fun_induction scanLog buf start i lines with
  | case1 start i lines hlt hnl lineBytes ih =>
    have hcut : buf.drop start = (buf.drop start).take (i - start) ++ 10 :: buf.drop (i + 1) := by
      have hrest : (buf.drop start).drop (i - start) = 10 :: buf.drop (i + 1) := by
        rw [List.drop_drop, Nat.add_sub_cancel' hle, drop_eq_getD_cons hlt, hnl]
      rw [← hrest, List.take_append_drop]
    have hline : mid buf start ((i : Int) - start) = (buf.drop start).take (i - start) := by
      rw [← Int.ofNat_sub hle]
      exact mid_of_le buf start (i - start) (Nat.le_trans hle hi)
    obtain ⟨hdrop, hlast, hlines⟩ := ih (Nat.le_refl _) hlt (by simp)
    obtain ⟨hnone, hall⟩ := of_notMem 10 hopen
    obtain ⟨hparts, hrest⟩ := of_append_cons 10 ((buf.drop start).take (i - start))
      (buf.drop (i + 1))
    rw [hnone, hall, List.nil_append, ← hcut] at hparts
    rw [← hcut] at hrest
    refine ⟨hdrop.trans hrest.symm, hlast, hlines.trans ?_⟩
    have hbytes : lineBytes = chopCr ((buf.drop start).take (i - start)) := congrArg chopCr hline
    rw [hparts, logLines_cons, ← hbytes, ← List.append_assoc]
    split
    · rw [List.append_nil]
    · rfl
  | case2 start i lines hlt hnl ih =>
    refine ih (Nat.le_succ_of_le hle) hlt ?_
    have hnext : (buf.drop start)[i - start]? = some (buf.getD i 0) := by
      rw [List.getElem?_drop, Nat.add_sub_cancel' hle, List.getElem?_eq_getElem hlt,
        List.getD_eq_getElem?_getD, List.getElem?_eq_getElem hlt]
      rfl
    rw [Nat.succ_sub hle, List.take_add_one, hnext, List.mem_append]
    rintro (h | h)
    · exact hopen h
    · exact hnl (List.mem_singleton.mp h).symm
  | case3 start i lines hge =>
    have hend : i = buf.length := Nat.le_antisymm hi (Nat.le_of_not_lt hge)
    have hall : (buf.drop start).take (i - start) = buf.drop start := by
      rw [hend, ← List.length_drop]
      exact List.take_length
    rw [hall] at hopen
    obtain ⟨hparts, hrest⟩ := of_notMem 10 hopen
    rw [hparts, hrest]
    exact ⟨rfl, Nat.le_trans hle hi, (List.append_nil lines).symm⟩

/-! ## Any cut of the log -/

/-- **One message** completes lines of what was left open. -/
theorem onLogMessage_eq (payload : List UInt8) (s : LogState) (hopen : 10 ∉ s.m1LogBuf) :
    (onLogMessage payload s).m1LogBuf = openPart 10 (s.m1LogBuf ++ payload) ∧
      (onLogMessage payload s).received =
        s.received ++ logLines (complete 10 (s.m1LogBuf ++ payload)) := by
  unfold onLogMessage
  split
  · obtain ⟨hdrop, hle, hlines⟩ := scanLog_eq (s.m1LogBuf ++ payload) 0 0 s.received
      (Nat.le_refl 0) (Nat.zero_le _) (by simp)
    refine ⟨?_, hlines⟩
    rw [List.drop_zero] at hdrop
    exact (mid_rest _ _ hle).trans hdrop
  · rename_i hempty
    obtain rfl : payload = [] := List.eq_nil_of_length_eq_zero (Nat.eq_zero_of_not_pos hempty)
    obtain ⟨hparts, hrest⟩ := of_notMem 10 hopen
    rw [List.append_nil, hparts, hrest]
    exact ⟨rfl, (List.append_nil _).symm⟩

/-- the state after a log that has come so far -/
structure LoggedSoFar (stream : List UInt8) (s : LogState) : Prop where
  received : s.received = logLines (complete 10 stream)
  open_ : s.m1LogBuf = openPart 10 stream

theorem LoggedSoFar.message {stream : List UInt8} {s : LogState} (h : LoggedSoFar stream s)
    (payload : List UInt8) : LoggedSoFar (stream ++ payload) (onLogMessage payload s) := by
  have hopen : 10 ∉ s.m1LogBuf := h.open_ ▸ notMem_openPart 10 stream
  obtain ⟨hbuf, hlines⟩ := onLogMessage_eq payload s hopen
  obtain ⟨hparts, hrest⟩ := append 10 stream payload
  constructor
  · rw [hlines, h.received, h.open_, hparts, logLines_append]
  · rw [hbuf, h.open_, hrest]

theorem LoggedSoFar.messages {stream : List UInt8} {s : LogState} (h : LoggedSoFar stream s)
    (payloads : List (List UInt8)) :
    LoggedSoFar (stream ++ payloads.flatten) (logMessages payloads s) := by
  induction payloads generalizing stream s with
  | nil => rwa [List.flatten_nil, List.append_nil]
  | cons payload payloads ih =>
    rw [List.flatten_cons, ← List.append_assoc]
    exact ih (h.message payload)

/-- **However the log is cut into messages**, the lines are those of the whole log, and the buffer
holds what follows the last line feed. -/
theorem logMessages_eq (payloads : List (List UInt8)) (logFile : Option (List UInt8)) :
    (logMessages payloads { logFile := logFile }).received =
        logLines (complete 10 payloads.flatten) ∧
      (logMessages payloads { logFile := logFile }).m1LogBuf = openPart 10 payloads.flatten := by
  have hstart : LoggedSoFar [] { logFile := logFile } := ⟨rfl, rfl⟩
  have hend := hstart.messages payloads
  exact ⟨hend.received, hend.open_⟩

example : (logMessages [[0x61, 13], [], [10, 13, 10, 0xC3], [0xA4, 13, 13, 10, 0x62]] {}).received =
    [['a'], ['ä', '\r']] := by decide +kernel

end QMon.Device
