import QMonstatek.Views.DebugLog

/-!
# The capture file

`Captured`   what one event adds to the files, told by what the user sees;
`Reported`   what it adds to the application's own log, `qmonstatek.log`, which is written at the
             position of its stream: a capture in the same file would be overwritten.

`capture_truthful`: every event of a run adds just that, and the next start resumes the capture.
-/

namespace QMon.Logging
open Device Run
open Rpc (Thread)

def Event.now : Event → String
  | .setLogToFile _ o => o.now
  | .setLogFilePath _ o => o.now
  | _ => ""

def Event.payload : Event → List UInt8
  | .message payload => payload
  | _ => []

/-- what `e`, which makes `s'` of `s`, adds to the file `p`: a header where a capture begins, and
the bytes that come during one -/
def added (e : Event) (s s' : DebugLog) (p : String) : List UInt8 :=
  (if s'.logToFile ∧ ¬ (s.logToFile ∧ s'.logFilePath = s.logFilePath) ∧ s'.logFilePath = p then
    header e.now else []) ++
  if s.logToFile ∧ s.logFilePath = p then e.payload else []

/-- the files, but for the application's own log, change as the switch and the path on the screen
tell -/
def Captured (toLocalFile : String → String) (e : Event) (s : DebugLog) : Prop :=
  ∀ p, s.appLog ≠ some p →
    (s.handle toLocalFile e).files p = s.files p ++ added e s (s.handle toLocalFile e) p

/-- what `e` adds to the application's own log -/
def noted : Event → List UInt8
  | .note _ type msg => noteText type msg
  | _ => []

def Reported (toLocalFile : String → String) (e : Event) (s : DebugLog) : Prop :=
  ∀ p, s.appLog = some p → (s.handle toLocalFile e).files p = s.files p ++ noted e

/-- the device's log is not captured in the application's own -/
def Apart (s : DebugLog) : Prop := s.logToFile = true → s.appLog ≠ some s.logFilePath

/-- the open file is the one on the screen, and the settings are what the user chose -/
structure Kept (dir : String) (s : DebugLog) : Prop where
  open_ : s.logFile = if s.logToFile then some s.logFilePath else none
  enabled : s.settings.enabled.getD false = s.logToFile
  path : s.settings.filePath.getD (dir ++ "/m1_uart.log") = s.logFilePath

section
variable {dir : String} {s s' : DebugLog} {o : Opening} {enabled : Bool}

theorem Switch.kept (h : Switch o s enabled s') (hk : Kept dir s) : Kept dir s' := by
  cases h with
  | same => exact hk
  | on hoff ho => exact ⟨rfl, rfl, hk.path⟩
  | failed hoff e ho => exact ⟨hk.open_, hoff.symm, hk.path⟩
  | off hon => exact ⟨rfl, rfl, hk.path⟩

/-- a header where the capture begins, in the file on the screen -/
theorem Switch.files (h : Switch o s enabled s') (p : String) :
    s'.logFilePath = s.logFilePath ∧ s'.files p = s.files p ++
      if s'.logToFile ∧ ¬ s.logToFile ∧ s.logFilePath = p then header o.now else [] := by
  cases h with
  | same =>
    refine ⟨rfl, ?_⟩
    rw [if_neg fun hc => hc.2.1 hc.1, List.append_nil]
  | on hoff ho =>
    refine ⟨rfl, ?_⟩
    by_cases hp : s.logFilePath = p
    · subst hp
      rw [if_pos ⟨rfl, by rw [hoff]; exact Bool.false_ne_true, rfl⟩]
      exact Function.update_self ..
    · rw [if_neg fun hc => hp hc.2.2, List.append_nil]
      exact Function.update_of_ne (Ne.symm hp) ..
  | failed hoff e ho =>
    refine ⟨rfl, ?_⟩
    rw [if_neg fun hc => hc.2.1 hc.1, List.append_nil]
  | off hon =>
    refine ⟨rfl, ?_⟩
    rw [if_neg fun hc => Bool.false_ne_true hc.1, List.append_nil]

/-- the capture ends, whatever file is on the screen by then -/
theorem Switch.ended (h : Switch o s enabled s') (he : enabled = false)
    (hon : s.logToFile = true)
    (hpath : s.settings.filePath.getD (dir ++ "/m1_uart.log") = s.logFilePath) :
    Kept dir s' ∧ s'.logToFile = false ∧ s'.logFilePath = s.logFilePath ∧ s'.files = s.files := by
  cases h with
  | same =>
    rw [hon] at he
    cases he
  | on hoff ho => cases he
  | failed hoff e ho => cases he
  | off hon => exact ⟨⟨rfl, rfl, hpath⟩, rfl, rfl, rfl⟩

theorem Kept.at (hk : Kept dir s) (hoff : s.logToFile = false) (file : String) :
    Kept dir (s.at file) where
  open_ := by
    have hclosed : s.logFile = none := by
      rw [hk.open_, if_neg (by rw [hoff]; exact Bool.false_ne_true)]
    have hat : (s.at file).logToFile = false := hoff
    rw [if_neg (by rw [hat]; exact Bool.false_ne_true)]
    exact hclosed
  enabled := hk.enabled
  path := rfl

theorem Moved.kept (h : Moved o s s') (hk : Kept dir s) : Kept dir s' := by
  cases h with
  | same => exact hk
  | moved file hfile s₂ h =>
    have hkept : Kept dir s₂ := by
      rcases h with ⟨hoff, rfl⟩ | ⟨hon, s₁, hends, hbegins⟩
      · exact hk.at hoff file
      · exact hbegins.kept (hends.ended rfl hon rfl).1
    exact ⟨hkept.open_, hkept.enabled, hkept.path⟩

/-- a header where the capture begins anew -/
theorem Moved.files (h : Moved o s s') (p : String) :
    s'.files p = s.files p ++
      if s'.logToFile ∧ ¬ (s.logToFile ∧ s'.logFilePath = s.logFilePath) ∧ s'.logFilePath = p then
        header o.now else [] := by
  cases h with
  | same => rw [if_neg fun hc => hc.2.1 ⟨hc.1, rfl⟩, List.append_nil]
  | moved file hfile s₂ h =>
    rcases h with ⟨hoff, rfl⟩ | ⟨hon, s₁, hends, hbegins⟩
    · have hstill : (s.at file).logToFile = false := hoff
      rw [if_neg, List.append_nil]
      · rfl
      · rintro ⟨hc, -, -⟩
        exact Bool.false_ne_true (hstill.symm.trans hc)
    · have hsaved : (s.at file).settings.filePath.getD ("" ++ "/m1_uart.log") = file := rfl
      obtain ⟨-, hoff, hpath, hfiles⟩ := hends.ended rfl hon hsaved
      obtain ⟨hsame, hheader⟩ := hbegins.files p
      have hat : s₂.logFilePath = file := hsame.trans hpath
      dsimp only
      rw [hheader, hfiles]
      congr 1
      apply if_congr _ rfl rfl
      rw [hoff, hpath, hat]
      exact and_congr Iff.rfl (and_congr (iff_of_true Bool.false_ne_true fun hc => hfile hc.2)
        Iff.rfl)

/-- the bytes of a message, while the capture is on -/
theorem captured_files (hk : Kept dir s) (payload : List UInt8) (p : String) :
    (s.captured payload).files p = s.files p ++
      if s.logToFile ∧ s.logFilePath = p then payload else [] := by
  unfold DebugLog.captured DebugLog.write
  rw [hk.open_]
  cases hon : s.logToFile with
  | false => simp
  | true =>
    by_cases hempty : payload.length > 0
    · rw [if_pos ⟨hempty, rfl, rfl⟩, if_pos rfl]
      by_cases hp : s.logFilePath = p
      · subst hp
        rw [if_pos ⟨rfl, rfl⟩]
        exact Function.update_self ..
      · rw [if_neg fun hc => hp hc.2, List.append_nil]
        exact Function.update_of_ne (Ne.symm hp) ..
    · have hnil : payload = [] := List.length_eq_zero_iff.mp (Nat.eq_zero_of_not_pos hempty)
      rw [if_neg fun hc => hempty hc.1, hnil, ite_self, List.append_nil]

/-- what the capture is about stays -/
theorem added_of_same {e : Event} (h : s'.logToFile = s.logToFile)
    (hpath : s'.logFilePath = s.logFilePath) (p : String) :
    added e s s' p = if s.logToFile ∧ s.logFilePath = p then e.payload else [] := by
  unfold added
  rw [if_neg fun hc => hc.2.1 ⟨h ▸ hc.1, hpath⟩, List.nil_append]

theorem captured_kept (hk : Kept dir s) (payload : List UInt8) :
    Kept dir (s.captured payload) ∧ (s.captured payload).logToFile = s.logToFile ∧
      (s.captured payload).logFilePath = s.logFilePath := by
  unfold DebugLog.captured DebugLog.write
  split
  · split
    · exact ⟨hk, rfl, rfl⟩
    · exact ⟨⟨hk.open_, hk.enabled, hk.path⟩, rfl, rfl⟩
  · exact ⟨hk, rfl, rfl⟩

/-- the lines change, and the files do not -/
structure SameCapture (s s' : DebugLog) : Prop where
  files : s'.files = s.files
  on : s'.logToFile = s.logToFile
  path : s'.logFilePath = s.logFilePath
  file : s'.logFile = s.logFile
  settings : s'.settings = s.settings
  appLog : s'.appLog = s.appLog
  appPos : s'.appPos = s.appPos

theorem feed_sameCapture (t : Thread) (lines : List String) (s : DebugLog) :
    SameCapture s (s.feed t lines) := by
  unfold DebugLog.feed
  split <;> exact ⟨rfl, rfl, rfl, rfl, rfl, rfl, rfl⟩

theorem onMessage_sameCapture (payload : List UInt8) (s : DebugLog) :
    SameCapture (s.captured payload) (s.onMessage payload) := by
  have h := feed_sameCapture .gui ((s.captured payload).completed payload)
    { s.captured payload with log := onLogMessage payload (s.captured payload).log }
  exact ⟨h.files, h.on, h.path, h.file, h.settings, h.appLog, h.appPos⟩

theorem msgHandler_sameCapture (t : Thread) (type : MsgType) (msg : String) (s : DebugLog) :
    SameCapture (s.report (noteText type msg)) (s.msgHandler t type msg) :=
  feed_sameCapture t [noteLine type msg] (s.report (noteText type msg))

theorem Kept.congr (hk : Kept dir s) (h : SameCapture s s') : Kept dir s' := by
  refine ⟨?_, ?_, ?_⟩
  · rw [h.file, h.on, h.path]
    exact hk.open_
  · rw [h.settings, h.on]
    exact hk.enabled
  · rw [h.settings, h.path]
    exact hk.path

theorem report_kept (hk : Kept dir s) (text : List UInt8) :
    Kept dir (s.report text) ∧ (s.report text).logToFile = s.logToFile ∧
      (s.report text).logFilePath = s.logFilePath := by
  unfold DebugLog.report
  split
  · exact ⟨hk, rfl, rfl⟩
  · exact ⟨⟨hk.open_, hk.enabled, hk.path⟩, rfl, rfl⟩

theorem report_elsewhere (text : List UInt8) {p : String} (hp : s.appLog ≠ some p) :
    (s.report text).files p = s.files p := by
  unfold DebugLog.report
  split
  · rfl
  next path hlog =>
    refine Function.update_of_ne (fun h => hp ?_) ..
    rw [h]
    exact hlog

/-- an event that is no line of the application -/
theorem Kept.adds (hk : Kept dir s) (toLocalFile : String → String) {e : Event}
    (he : ∀ t type msg, e ≠ .note t type msg) (p : String) :
    (s.handle toLocalFile e).files p = s.files p ++ added e s (s.handle toLocalFile e) p := by
  have silent {s' : DebugLog} (hfiles : s'.files = s.files) (hon : s'.logToFile = s.logToFile)
      (hpath : s'.logFilePath = s.logFilePath) (hbytes : e.payload = []) :
      s'.files p = s.files p ++ added e s s' p := by
    rw [added_of_same hon hpath, hfiles, hbytes, ite_self, List.append_nil]
  cases e with
  | note t type msg => exact absurd rfl (he t type msg)
  | message payload =>
    obtain ⟨-, hon, hpath⟩ := captured_kept hk payload
    have hsame := onMessage_sameCapture payload s
    show (s.onMessage payload).files p = s.files p ++ added _ s (s.onMessage payload) p
    rw [hsame.files, added_of_same (hsame.on.trans hon) (hsame.path.trans hpath)]
    exact captured_files hk payload p
  | setGlobalLogModel => exact silent rfl rfl rfl rfl
  | deliver => exact silent rfl rfl rfl rfl
  | clear => exact silent rfl rfl rfl rfl
  | setLogToFile enabled o =>
    obtain ⟨hpath, hfiles⟩ := (setLogToFile_switch o s enabled).files p
    show (s.setLogToFile enabled o).files p = s.files p ++ (_ ++ ite _ [] [])
    rw [hfiles, ite_self, List.append_nil]
    congr 1
    apply if_congr _ rfl rfl
    show _ ↔ (s.setLogToFile enabled o).logToFile ∧
      ¬ (s.logToFile ∧ (s.setLogToFile enabled o).logFilePath = s.logFilePath) ∧
      (s.setLogToFile enabled o).logFilePath = p
    rw [hpath, and_iff_left rfl]
  | setLogFilePath path o =>
    show (s.setLogFilePath toLocalFile path o).files p = s.files p ++ (_ ++ ite _ [] [])
    rw [ite_self, List.append_nil]
    exact (setLogFilePath_moved o s toLocalFile path).files p

theorem Kept.handle (hk : Kept dir s) (toLocalFile : String → String) (e : Event) :
    Kept dir (s.handle toLocalFile e) := by
  cases e with
  | message payload => exact (captured_kept hk payload).1.congr (onMessage_sameCapture payload s)
  | note t type msg => exact (report_kept hk _).1.congr (msgHandler_sameCapture t type msg s)
  | setGlobalLogModel => exact ⟨hk.open_, hk.enabled, hk.path⟩
  | deliver => exact ⟨hk.open_, hk.enabled, hk.path⟩
  | clear => exact ⟨hk.open_, hk.enabled, hk.path⟩
  | setLogToFile enabled o => exact (setLogToFile_switch o s enabled).kept hk
  | setLogFilePath path o => exact (setLogFilePath_moved o s toLocalFile path).kept hk

theorem Kept.captured (hk : Kept dir s) (toLocalFile : String → String) (e : Event) :
    Captured toLocalFile e s := by
  intro p hp
  cases e with
  | note t type msg =>
    obtain ⟨-, hon, hpath⟩ := report_kept hk (noteText type msg)
    have hsame := msgHandler_sameCapture t type msg s
    show (s.msgHandler t type msg).files p = s.files p ++ added _ s (s.msgHandler t type msg) p
    rw [added_of_same (hsame.on.trans hon) (hsame.path.trans hpath), hsame.files,
      report_elsewhere _ hp]
    show s.files p = s.files p ++ ite _ [] []
    rw [ite_self, List.append_nil]
  | _ => exact hk.adds toLocalFile (fun _ _ _ => Event.noConfusion) p

/-! ## The application's own log -/

/-- `s_logFile` is at the end of its file -/
def Written (s : DebugLog) : Prop := ∀ p, s.appLog = some p → s.appPos = (s.files p).length

/-- the application's own log is left open, where it is -/
def SameReport (s s' : DebugLog) : Prop := s'.appLog = s.appLog ∧ s'.appPos = s.appPos

theorem SameReport.trans {s'' : DebugLog} (h : SameReport s s') (h' : SameReport s' s'') :
    SameReport s s'' := ⟨h'.1.trans h.1, h'.2.trans h.2⟩

theorem Switch.sameReport (h : Switch o s enabled s') : SameReport s s' := by
  cases h <;> exact ⟨rfl, rfl⟩

theorem Moved.sameReport (h : Moved o s s') : SameReport s s' := by
  cases h with
  | same => exact ⟨rfl, rfl⟩
  | moved file hfile s₂ h =>
    rcases h with ⟨-, rfl⟩ | ⟨-, s₁, hoff, hon⟩
    · exact ⟨rfl, rfl⟩
    · exact hoff.sameReport.trans hon.sameReport

theorem sameReport_captured (s : DebugLog) (payload : List UInt8) :
    SameReport s (s.captured payload) := by
  unfold DebugLog.captured
  split
  · unfold DebugLog.write
    split <;> exact ⟨rfl, rfl⟩
  · exact ⟨rfl, rfl⟩

theorem handle_sameReport (toLocalFile : String → String) {e : Event}
    (he : ∀ t type msg, e ≠ .note t type msg) (s : DebugLog) :
    SameReport s (s.handle toLocalFile e) := by
  cases e with
  | note t type msg => exact absurd rfl (he t type msg)
  | message payload =>
    have hsame := onMessage_sameCapture payload s
    exact (sameReport_captured s payload).trans ⟨hsame.appLog, hsame.appPos⟩
  | setLogToFile enabled o => exact (setLogToFile_switch o s enabled).sameReport
  | setLogFilePath path o => exact (setLogFilePath_moved o s toLocalFile path).sameReport
  | _ => exact ⟨rfl, rfl⟩

/-- at the end of its file a line is put behind the others -/
theorem report_written (h : Written s) (text : List UInt8) {p : String} (hp : s.appLog = some p) :
    (s.report text).files p = s.files p ++ text ∧ Written (s.report text) := by
  have hpos := h p hp
  have hfile : (s.report text).files p = s.files p ++ text := by
    unfold DebugLog.report
    rw [hp]
    dsimp only
    rw [Function.update_self, hpos, List.take_length, List.drop_of_length_le (Nat.le_add_right ..),
      List.append_nil]
  refine ⟨hfile, fun q hq => ?_⟩
  have hlog : (s.report text).appLog = some p ∧
      (s.report text).appPos = s.appPos + text.length := by
    unfold DebugLog.report
    rw [hp]
    exact ⟨rfl, rfl⟩
  obtain rfl := Option.some.inj (hlog.1.symm.trans hq)
  rw [hfile, hlog.2, hpos, List.length_append]

/-- the capture leaves the application's own log alone -/
theorem added_apart {e : Event} {p : String} (hp : s.appLog = some p) (h : Apart s)
    (hlog : s'.appLog = s.appLog) (h' : Apart s') : added e s s' p = [] := by
  unfold added
  rw [if_neg, if_neg]
  · rfl
  · rintro ⟨hon, rfl⟩
    exact h hon hp
  · rintro ⟨hon, -, rfl⟩
    exact h' hon (hlog.trans hp)

/-- a note puts its line into the log -/
theorem msgHandler_reported (h : Written s) (t : Thread) (type : MsgType) (msg : String) :
    (∀ p, s.appLog = some p → (s.msgHandler t type msg).files p = s.files p ++ noteText type msg) ∧
      Written (s.msgHandler t type msg) := by
  have hsame := msgHandler_sameCapture t type msg s
  have hwritten (hw : Written (s.report (noteText type msg))) :
      Written (s.msgHandler t type msg) := by
    intro p hp
    rw [hsame.appPos, hsame.files]
    exact hw p (hsame.appLog.symm.trans hp)
  refine ⟨fun p hp => ?_, hwritten ?_⟩
  · rw [hsame.files]
    exact (report_written h _ hp).1
  · cases hlog : s.appLog with
    | none =>
      have hstays : s.report (noteText type msg) = s := by
        unfold DebugLog.report
        rw [hlog]
      rw [hstays]
      exact h
    | some p => exact (report_written h _ hlog).2

/-- and nothing else reaches it -/
theorem handle_unreported (hk : Kept dir s) (toLocalFile : String → String) {e : Event}
    (he : ∀ t type msg, e ≠ .note t type msg) (h : Written s) (hs : Apart s)
    (hs' : Apart (s.handle toLocalFile e)) :
    Reported toLocalFile e s ∧ Written (s.handle toLocalFile e) := by
  obtain ⟨hlog, hpos⟩ := handle_sameReport toLocalFile he s
  have hfile {p : String} (hp : s.appLog = some p) :
      (s.handle toLocalFile e).files p = s.files p := by
    rw [hk.adds toLocalFile he, added_apart hp hs hlog hs', List.append_nil]
  refine ⟨fun p hp => ?_, fun p hp => ?_⟩
  · rw [hfile hp]
    cases e with
    | note t type msg => exact absurd rfl (he t type msg)
    | _ => exact (List.append_nil _).symm
  · rw [hlog] at hp
    rw [hpos, hfile hp]
    exact h p hp

theorem handle_reported (hk : Kept dir s) (toLocalFile : String → String) (e : Event)
    (h : Written s) (hs : Apart s) (hs' : Apart (s.handle toLocalFile e)) :
    Reported toLocalFile e s ∧ Written (s.handle toLocalFile e) := by
  cases e with
  | note t type msg => exact msgHandler_reported h t type msg
  | _ => exact handle_unreported hk toLocalFile (fun _ _ _ heq => Event.noConfusion heq) h hs hs'

end

/-! ## From one launch to the next -/

theorem Switch.began {dir : String} {s s' : DebugLog} {o : Opening} {enabled : Bool}
    (h : Switch o s enabled s') (he : enabled = true) (hoff : s.logToFile = false)
    (hclosed : s.logFile = none)
    (hpath : s.settings.filePath.getD (dir ++ "/m1_uart.log") = s.logFilePath) :
    Kept dir s' ∧ s'.logFilePath = s.logFilePath ∧ s'.logToFile = o.error.isNone := by
  cases h with
  | same =>
    rw [hoff] at he
    cases he
  | on hoff ho =>
    rw [ho]
    exact ⟨⟨rfl, rfl, hpath⟩, rfl, rfl⟩
  | failed hoff e ho =>
    rw [ho]
    refine ⟨⟨?_, hoff.symm, hpath⟩, rfl, hoff⟩
    rw [if_neg (by rw [hoff]; exact Bool.false_ne_true)]
    exact hclosed
  | off hon => cases he

theorem launched_closed (temp dir : String) (opens : Bool) (saved : Settings)
    (files : String → List UInt8) :
    let s := DebugLog.launched temp dir opens saved files
    s.logFilePath = saved.filePath.getD (dir ++ "/m1_uart.log") ∧ s.settings = saved ∧
      s.logToFile = false ∧ s.logFile = none ∧ Written s := by
  unfold DebugLog.launched
  dsimp only
  split
  · refine ⟨rfl, rfl, rfl, rfl, ?_⟩
    refine (report_written (fun p hp => ?_) _ rfl).2
    obtain rfl := Option.some.inj hp
    show 0 = (Function.update files _ [] _).length
    rw [Function.update_self]
    rfl
  · exact ⟨rfl, rfl, rfl, rfl, fun p hp => absurd hp (by simp)⟩

/-- the application starts, with the switch and the path of the settings -/
theorem start_kept (temp dir : String) (opens : Bool) (saved : Settings) (o : Opening)
    (files : String → List UInt8) :
    let s := DebugLog.start temp dir opens saved o files
    Kept dir s ∧ s.logFilePath = saved.filePath.getD (dir ++ "/m1_uart.log") ∧
      s.logToFile = (saved.enabled.getD false && o.error.isNone) := by
  obtain ⟨hpath, hsettings, hoff, hclosed, -⟩ := launched_closed temp dir opens saved files
  have hsaved : (DebugLog.launched temp dir opens saved files).settings.filePath.getD
      (dir ++ "/m1_uart.log") = (DebugLog.launched temp dir opens saved files).logFilePath := by
    rw [hsettings, hpath]
  unfold DebugLog.start
  dsimp only
  cases hon : saved.enabled.getD false with
  | true =>
    rw [if_pos rfl, Bool.true_and]
    obtain ⟨hkept, hsame, hend⟩ := (setLogToFile_switch o _ true).began rfl hoff hclosed hsaved
    exact ⟨hkept, hsame.trans hpath, hend⟩
  | false =>
    rw [if_neg Bool.false_ne_true, Bool.false_and]
    refine ⟨⟨?_, ?_, hsaved⟩, hpath, hoff⟩
    · rw [hoff, if_neg Bool.false_ne_true]
      exact hclosed
    · rw [hoff, hsettings]
      exact hon

/-- the header of a capture that is resumed stands in another file -/
theorem start_written (temp dir : String) (opens : Bool) (saved : Settings) (o : Opening)
    (files : String → List UInt8) (h : Apart (DebugLog.start temp dir opens saved o files)) :
    Written (DebugLog.start temp dir opens saved o files) := by
  obtain ⟨-, -, -, -, hwritten⟩ := launched_closed temp dir opens saved files
  unfold DebugLog.start at h ⊢
  dsimp only at h ⊢
  generalize DebugLog.launched temp dir opens saved files = s at h hwritten ⊢
  split
  next hon =>
    rw [if_pos hon] at h
    have hswitch := setLogToFile_switch o s true
    obtain ⟨hlog, hpos⟩ := hswitch.sameReport
    intro p hp
    obtain ⟨hpath, hfiles⟩ := hswitch.files p
    rw [hpos, hfiles, if_neg, List.append_nil]
    · exact hwritten p (hlog.symm.trans hp)
    · rintro ⟨hon', -, rfl⟩
      exact h hon' (by rw [hpath]; exact hp)
  next => exact hwritten

/-- an application that is started with the settings of `s` goes on where `s` was, if the file
can be opened -/
def Resumes (dir : String) (s : DebugLog) : Prop :=
  ∀ temp opens o files,
    (DebugLog.start temp dir opens s.settings o files).logFilePath = s.logFilePath ∧
      (DebugLog.start temp dir opens s.settings o files).logToFile =
        (s.logToFile && o.error.isNone)

theorem Kept.resumes {dir : String} {s : DebugLog} (hk : Kept dir s) : Resumes dir s := by
  intro temp opens o files
  obtain ⟨-, hpath, hon⟩ := start_kept temp dir opens s.settings o files
  exact ⟨hpath.trans hk.path, by rw [hon, hk.enabled]⟩

/-- **The capture file**: over any run from the start of the application, each event adds to the
files just what the switch and the path on the screen tell, and in every state the settings are
such that the next start resumes.  The application's own log is apart: it grows by the lines of the
application, as long as the device's log is not captured in it. -/
theorem capture_truthful (toLocalFile : String → String) (temp dir : String) (opens : Bool)
    (saved : Settings) (o : Opening) (files : String → List UInt8) (es : List Event) :
    let s := DebugLog.start temp dir opens saved o files
    Along (DebugLog.handle toLocalFile)
        (fun e s => Captured toLocalFile e s ∧ Resumes dir (s.handle toLocalFile e)) es s ∧
      (Throughout (DebugLog.handle toLocalFile) Apart es s →
        Along (DebugLog.handle toLocalFile) (Reported toLocalFile) es s) := by
  intro s
  have hkept : Kept dir s := (start_kept temp dir opens saved o files).1
  constructor
  · have hstep (e : Event) (s : DebugLog) (hk : Kept dir s) (_ : True) :
        (Captured toLocalFile e s ∧ Resumes dir (s.handle toLocalFile e)) ∧
          Kept dir (s.handle toLocalFile e) :=
      ⟨⟨hk.captured toLocalFile e, (hk.handle toLocalFile e).resumes⟩, hk.handle toLocalFile e⟩
    exact along_of_along _ hstep es s hkept (along_of_forall _ es s fun _ _ _ => trivial)
  · intro hapart
    have hsteps : Along (DebugLog.handle toLocalFile)
        (fun e s => Apart s ∧ Apart (s.handle toLocalFile e)) es s :=
      along_of_throughout _ (fun e s h h' => ⟨h, h'⟩) es s hapart
    have hstep (e : Event) (s : DebugLog) (hI : Kept dir s ∧ Written s)
        (hok : Apart s ∧ Apart (s.handle toLocalFile e)) :
        Reported toLocalFile e s ∧
          Kept dir (s.handle toLocalFile e) ∧ Written (s.handle toLocalFile e) := by
      obtain ⟨hreported, hwritten⟩ := handle_reported hI.1 toLocalFile e hI.2 hok.1 hok.2
      exact ⟨hreported, hI.1.handle toLocalFile e, hwritten⟩
    exact along_of_along _ hstep es s
      ⟨hkept, start_written temp dir opens saved o files (throughout_head _ hapart)⟩ hsteps

end QMon.Logging
