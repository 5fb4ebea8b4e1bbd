import QMonstatek.Lib.Run
import QMonstatek.Updater.Processes

/-!
# Output of the helper in pieces

`delivered host pieces x f`   a flash whose output comes in these `readyRead` deliveries, with what
                 `x` has left to read at the end;
`Shown`          what the user sees of its end: the signal, the progress, the status;
`CutKept pieces x`   what the lines of the pieces must have in common with those of the whole.

`shown_iff`: the user sees the same as of the whole output delivered at once iff the cut is kept.
Every piece is split on its own, so that a cut inside a line makes two lines of it, and the
remainder is read by another loop, for `OK` and `ERROR` only.
-/

namespace QMon.Updater
open DfuFlasher

def DfuOut.isFlashError : DfuOut → Bool
  | .flashError _ => true
  | _ => false

structure Shown where
  complete : Bool
  error : Bool
  progress : Int
  status : String
  deriving DecidableEq, Repr

def DfuFlasher.shown (f : DfuFlasher) : Shown where
  complete := f.out.any (· == .flashComplete)
  error := f.out.any DfuOut.isFlashError
  progress := f.progress
  status := f.statusMessage

def delivered (host : ToolHost) (pieces : List (List UInt8)) (x : Exit) (f : DfuFlasher) :
    DfuFlasher :=
  step (host, .finished .flash x)
    (Run.exec step (pieces.map fun raw => (host, .flashOutput raw)) f)

/-- the whole output in one delivery, and nothing left at the end -/
def deliveredAtOnce (host : ToolHost) (pieces : List (List UInt8)) (x : Exit) (f : DfuFlasher) :
    DfuFlasher :=
  delivered host [pieces.flatten ++ x.output] { x with output := [] } f

/-- `startFlash` starts the bundled helper -/
def HelperDue (host : ToolHost) (binFilePath target : String) (f : DfuFlasher) : Prop :=
  FlashDue host binFilePath target f ∧ (f.core.tool host).useCliDirect = false

/-! ## Lines -/

def isProgress (line : List Char) : Bool := startsWith line "PROGRESS:"

def isError (line : List Char) : Bool := startsWith line "ERROR:"

/-- what the last of the lines that `p` picks says, else `default` -/
def lastSaid {α : Type} (p : List Char → Bool) (said : List Char → α) (default : α)
    (lines : List (List Char)) : α :=
  ((lines.filter p).getLast?.map said).getD default

/-- the last percentage in the lines, else `pct` -/
def progressAfter (pct : Int) : List (List Char) → Int :=
  lastSaid isProgress (fun line => toInt (line.drop 9)) pct

/-- the last message of an error in the lines, else `message` -/
def errorAfter (message : List Char) : List (List Char) → List Char :=
  lastSaid isError (fun line => line.drop 6) message

/-- the lines of the deliveries -/
def pieceLines (pieces : List (List UInt8)) : List (List Char) := pieces.flatMap trimmedLines

/-- the lines of the whole output -/
def wholeLines (pieces : List (List UInt8)) (x : Exit) : List (List Char) :=
  trimmedLines (pieces.flatten ++ x.output)

def okLine : List Char := "OK".toList

/-- nothing the helper writes makes a flash of this end -/
def Fails (x : Exit) (whole : List (List Char)) : Prop :=
  x.exitStatus = .crashExit ∨ x.exitCode ≠ 0 ∨ okLine ∉ whole

structure CutKept (pieces : List (List UInt8)) (x : Exit) : Prop where
  ok : x.exitStatus ≠ .crashExit → x.exitCode = 0 →
    (okLine ∈ pieceLines pieces ++ trimmedLines x.output ↔ okLine ∈ wholeLines pieces x)
  progress : Fails x (wholeLines pieces x) →
    progressAfter 0 (pieceLines pieces) = progressAfter 0 (wholeLines pieces x)
  /-- what is left for the end has no message of its own -/
  error : x.exitStatus ≠ .crashExit → Fails x (wholeLines pieces x) →
    errorAfter [] (trimmedLines x.output) = [] ∨
      String.ofList (errorAfter [] (trimmedLines x.output)) = flashFailed x.exitCode

theorem lastSaid_cons {α : Type} (p : List Char → Bool) (said : List Char → α) (default : α)
    (line : List Char) (lines : List (List Char)) :
    lastSaid p said default (line :: lines) =
      lastSaid p said (if p line then said line else default) lines := by
  unfold lastSaid
  cases h : p line with
  | true =>
    rw [List.filter_cons_of_pos h, List.getLast?_cons]
    cases (lines.filter p).getLast? <;> rfl
  | false =>
    rw [List.filter_cons_of_neg (by rw [h]; exact Bool.false_ne_true)]
    rfl

theorem lastSaid_append {α : Type} (p : List Char → Bool) (said : List Char → α) (default : α)
    (lines more : List (List Char)) : lastSaid p said default (lines ++ more) =
      lastSaid p said (lastSaid p said default lines) more := by
  induction lines generalizing default with
  | nil => rfl
  | cons line lines ih => rw [List.cons_append, lastSaid_cons, ih, ← lastSaid_cons]

theorem isError_okLine : isError okLine = false := by decide

/-- the loop over the remainder -/
theorem readReplies_from (lines : List (List Char)) (r : Replies) :
    (lines.foldl Replies.read r).ok = (r.ok || decide (okLine ∈ lines)) ∧
      (lines.foldl Replies.read r).error = errorAfter r.error lines := by
  induction lines generalizing r with
  | nil => exact ⟨(Bool.or_false _).symm, rfl⟩
  | cons line lines ih =>
    obtain ⟨hok, herror⟩ := ih (r.read line)
    rw [List.foldl_cons, hok, herror, errorAfter, errorAfter, lastSaid_cons]
    unfold Replies.read
    by_cases hline : line = okLine
    · subst hline
      rw [if_pos (show okLine = "OK".toList from rfl), isError_okLine]
      exact ⟨by simp, rfl⟩
    · rw [if_neg (show ¬ line = "OK".toList from hline)]
      have hmem : (okLine ∈ line :: lines) ↔ okLine ∈ lines := by
        rw [List.mem_cons]
        exact or_iff_right fun h => hline h.symm
      rw [decide_eq_decide.mpr hmem]
      by_cases he : isError line = true
      · rw [if_pos he, if_pos (show startsWith line "ERROR:" = true from he)]
        exact ⟨rfl, rfl⟩
      · rw [if_neg he, if_neg (show ¬ startsWith line "ERROR:" = true from he)]
        split <;> exact ⟨rfl, rfl⟩

/-! ## Deliveries -/

namespace DfuFlasher

/-- the helper at work -/
structure Working (f : DfuFlasher) : Prop where
  running : f.running .flash = true
  helper : f.useCliDirect = false
  path : f.helperPath ≠ ""

theorem readHelperLine_progress (line : List Char) (f : DfuFlasher) :
    (f.readHelperLine line).progress =
        (if isProgress line then toInt (line.drop 9) else f.progress) ∧
      (f.readHelperLine line).flashOk = (f.flashOk || decide (line = okLine)) := by
  have hset (pct : Int) : (f.setProgress pct).progress = pct ∧
      (f.setProgress pct).flashOk = f.flashOk := by
    unfold setProgress
    split
    · exact ⟨rfl, rfl⟩
    · rename_i h
      exact ⟨(Decidable.not_not.mp h).symm, rfl⟩
  have hstatus (msg : String) : (f.setStatus msg).progress = f.progress ∧
      (f.setStatus msg).flashOk = f.flashOk := by
    unfold setStatus
    split <;> exact ⟨rfl, rfl⟩
  unfold readHelperLine
  by_cases hp : isProgress line = true
  · have hne : line ≠ okLine := by
      rintro rfl
      exact absurd hp (by decide)
    rw [if_pos hp, if_pos (show startsWith line "PROGRESS:" = true from hp), decide_eq_false hne,
      Bool.or_false]
    exact hset _
  rw [if_neg hp, if_neg (show ¬ startsWith line "PROGRESS:" = true from hp)]
  by_cases hok : line = okLine
  · subst hok
    exact ⟨rfl, (Bool.or_true _).symm⟩
  rw [if_neg (show ¬ line = "OK".toList from hok), decide_eq_false hok, Bool.or_false]
  split
  · exact hstatus _
  split
  · split
    · exact hstatus _
    · exact ⟨rfl, rfl⟩
  · exact ⟨rfl, rfl⟩

theorem readLines_progress (lines : List (List Char)) (f : DfuFlasher)
    (hcli : f.useCliDirect = false) :
    (lines.foldl (fun f line => f.readLine line) f).progress = progressAfter f.progress lines ∧
      (lines.foldl (fun f line => f.readLine line) f).flashOk =
        (f.flashOk || decide (okLine ∈ lines)) := by
  induction lines generalizing f with
  | nil => exact ⟨rfl, (Bool.or_false _).symm⟩
  | cons line lines ih =>
    have hcli' : (f.readLine line).useCliDirect = false :=
      (congrArg Core.useCliDirect (core_blind.readLine f line)).trans hcli
    obtain ⟨hprogress, hok⟩ := ih (f.readLine line) hcli'
    rw [List.foldl_cons, hprogress, hok, progressAfter, progressAfter, lastSaid_cons]
    have hline : (f.readLine line).progress =
        (if isProgress line then toInt (line.drop 9) else f.progress) ∧
        (f.readLine line).flashOk = (f.flashOk || decide (line = okLine)) := by
      unfold readLine
      split
      · rename_i hnil
        subst hnil
        exact ⟨rfl, (Bool.or_false _).symm⟩
      · rw [if_neg (by rw [hcli]; exact Bool.false_ne_true)]
        exact readHelperLine_progress line f
    rw [hline.1, hline.2]
    refine ⟨rfl, ?_⟩
    rw [Bool.or_assoc, ← Bool.decide_or]
    congr 1
    rw [decide_eq_decide, List.mem_cons, eq_comm]

theorem onFlashOutput_progress (raw : List UInt8) (f : DfuFlasher) (h : f.Working) :
    (f.onFlashOutput raw).progress = progressAfter f.progress (trimmedLines raw) ∧
      (f.onFlashOutput raw).flashOk = (f.flashOk || decide (okLine ∈ trimmedLines raw)) := by
  unfold onFlashOutput
  rw [if_neg fun hnone => ?_]
  · exact readLines_progress _ f h.helper
  · have hrun := h.running
    unfold running process at hrun
    rw [hnone] at hrun
    cases hrun

theorem Working.of_core {f g : DfuFlasher} (h : f.Working) (hcore : g.core = f.core) :
    g.Working where
  running := (congrArg (Core.running .flash) hcore).trans h.running
  helper := (congrArg Core.useCliDirect hcore).trans h.helper
  path := by
    rw [show g.helperPath = f.helperPath from congrArg Core.helperPath hcore]
    exact h.path

/-- **The deliveries**: each is read on its own. -/
theorem outputs_run (host : ToolHost) (pieces : List (List UInt8)) (f : DfuFlasher)
    (h : f.Working) :
    let g := Run.exec step (pieces.map fun raw => (host, .flashOutput raw)) f
    g.core = f.core ∧ g.progress = progressAfter f.progress (pieceLines pieces) ∧
      g.flashOk = (f.flashOk || decide (okLine ∈ pieceLines pieces)) := by
  induction pieces generalizing f with
  | nil => exact ⟨rfl, rfl, (Bool.or_false _).symm⟩
  | cons raw pieces ih =>
    have hstep : step (host, .flashOutput raw) f = f.fresh.onFlashOutput raw := by
      show (if f.fresh.running .flash then f.fresh.onFlashOutput raw else f.fresh) = _
      rw [if_pos (show f.fresh.running .flash = true from h.running)]
    have hcore : (f.fresh.onFlashOutput raw).core = f.core := core_blind.onFlashOutput _ _
    obtain ⟨hprogress, hok⟩ := onFlashOutput_progress raw f.fresh ⟨h.running, h.helper, h.path⟩
    obtain ⟨ihcore, ihprogress, ihok⟩ := ih _ (h.of_core hcore)
    rw [List.map_cons, Run.exec_cons, hstep]
    refine ⟨ihcore.trans hcore, ?_, ?_⟩
    · rw [ihprogress, hprogress, pieceLines, pieceLines, List.flatMap_cons]
      exact (lastSaid_append ..).symm
    · rw [ihok, hok, pieceLines, pieceLines, List.flatMap_cons, Bool.or_assoc, ← Bool.decide_or]
      congr 1
      rw [decide_eq_decide, List.mem_append]

/-! ## The end -/

section
variable (f : DfuFlasher)

theorem shown_put {o : DfuOut} (hc : o ≠ .flashComplete) (he : o.isFlashError = false) :
    (f.put o).shown = f.shown := by
  unfold shown put
  simp [hc, he]

theorem shown_setStatus (msg : String) :
    (f.setStatus msg).shown = { f.shown with status := msg } := by
  unfold setStatus
  split
  · exact shown_put { f with statusMessage := msg } (by simp) rfl
  · rename_i h
    rw [← Decidable.not_not.mp h]
    rfl

theorem shown_setDfuDeviceFound (found : Bool) (info : String) :
    (f.setDfuDeviceFound found info).shown = f.shown := by
  unfold setDfuDeviceFound
  dsimp only
  split
  · exact shown_put _ (by simp) rfl
  · rfl

theorem shown_flashError (message : String) :
    (f.put (.flashError message)).shown = { f.shown with error := true } := by
  unfold shown put
  simp [DfuOut.isFlashError]

theorem shown_flashComplete :
    (f.put .flashComplete).shown = { f.shown with complete := true } := by
  unfold shown put
  simp [DfuOut.isFlashError]

/-- the restart of the scans shows nothing while the tool is known -/
theorem shown_startScanning (host : ToolHost) (hpath : f.helperPath ≠ "") :
    (f.startScanning host).shown = f.shown := by
  unfold startScanning
  split
  · rfl
  · have hput : ({ f with scanning := true }.put (.scanningChanged true)).shown = f.shown :=
      shown_put { f with scanning := true } (by simp) rfl
    generalize hg : ({ f with scanning := true }.put (.scanningChanged true) : DfuFlasher) = g
      at hput
    have hgpath : g.helperPath ≠ "" := by
      rw [← hg]
      exact hpath
    have htool : g.isToolAvailable host = g := by
      unfold isToolAvailable
      rw [if_neg hgpath]
    show (g.scanOnce host).shown = f.shown
    unfold scanOnce
    dsimp only
    rw [htool, if_neg hgpath]
    split
    · exact hput
    · refine Eq.trans ?_ hput
      exact shown_put _ (by simp) rfl

/-- what is shown of a flash that ends so, where `ok` says whether `OK` was read -/
def ending (x : Exit) (ok : Prop) [Decidable ok] (progress : Int) (failure : String) : Shown :=
  if x.exitStatus = .crashExit then
    { complete := false, error := true, progress := progress
      status := "DFU flash process crashed." }
  else if x.exitCode = 0 ∧ ok then
    { complete := true, error := false, progress := 100, status := flashCompleteStatus }
  else { complete := false, error := true, progress := progress, status := failure }

/-- two ends of one process are shown alike iff `OK` decides them alike, and where it does not come
to a flash, so are progress and message -/
theorem ending_eq_iff (x : Exit) {ok ok' : Prop} [Decidable ok] [Decidable ok']
    {progress progress' : Int} {failure failure' : String} :
    ending x ok progress failure = ending x ok' progress' failure' ↔
      (x.exitStatus ≠ .crashExit → x.exitCode = 0 → (ok ↔ ok')) ∧
        ((x.exitStatus = .crashExit ∨ x.exitCode ≠ 0 ∨ ¬ ok') → progress = progress') ∧
        (x.exitStatus ≠ .crashExit → (x.exitStatus = .crashExit ∨ x.exitCode ≠ 0 ∨ ¬ ok') →
          failure = failure') := by
  unfold ending
  by_cases hcrash : x.exitStatus = .crashExit
  · simp [hcrash]
  by_cases hcode : x.exitCode = 0
  · by_cases hok : ok <;> by_cases hok' : ok' <;> simp [hcrash, hcode, hok, hok']
  · simp [hcrash, hcode]

/-- what the remainder adds to the message of a failure -/
def failureText (x : Exit) : String :=
  if errorAfter [] (trimmedLines x.output) = [] then flashFailed x.exitCode
  else String.ofList (errorAfter [] (trimmedLines x.output))

/-- nothing is left to read -/
theorem failureText_of_nil (x : Exit) :
    failureText { x with output := [] } = flashFailed x.exitCode := by
  unfold failureText
  exact if_pos rfl

theorem failureText_eq_iff (x : Exit) : failureText x = flashFailed x.exitCode ↔
    errorAfter [] (trimmedLines x.output) = [] ∨
      String.ofList (errorAfter [] (trimmedLines x.output)) = flashFailed x.exitCode := by
  unfold failureText
  split
  · rename_i hnil
    exact iff_of_true rfl (.inl hnil)
  · rename_i hnil
    exact (or_iff_right hnil).symm

/-- **The end of a flash**, as it is shown. -/
theorem onFlashFinished_shown (host : ToolHost) (x : Exit) (hp : f.flashProcess.isSome = true)
    (hcli : f.useCliDirect = false) (hpath : f.helperPath ≠ "") (hout : f.out = []) :
    (f.onFlashFinished host x).shown =
      ending x (f.flashOk = true ∨ okLine ∈ trimmedLines x.output) f.progress
        (failureText x) := by
  have hrel : (f.release .flash).flashOk = f.flashOk ∧ (f.release .flash).progress = f.progress ∧
      (f.release .flash).out = [] ∧ (f.release .flash).useCliDirect = false ∧
      (f.release .flash).helperPath = f.helperPath := by
    obtain ⟨p, hp⟩ := Option.isSome_iff_exists.mp hp
    unfold release
    rw [show f.process .flash = some p from hp]
    exact ⟨rfl, rfl, hout, hcli, rfl⟩
  unfold onFlashFinished ending
  dsimp only
  rw [if_pos hp, if_pos hp]
  generalize f.release .flash = g at hrel
  obtain ⟨hok, hprogress, hgout, hgcli, hgpath⟩ := hrel
  generalize hk : ({ g with flashing := false }.put (.flashingChanged false) : DfuFlasher) = k
  have hshown : k.shown =
      { complete := false, error := false, progress := f.progress, status := g.statusMessage } := by
    rw [← hk, shown_put _ (by simp) rfl, ← hprogress]
    unfold shown
    rw [hgout]
    rfl
  have hkpath : k.helperPath ≠ "" := by
    rw [← hk]
    exact hgpath ▸ hpath
  have hkcli : ¬ k.useCliDirect = true := by
    rw [← hk]
    exact Bool.eq_false_iff.mp hgcli
  have hreplies := readReplies_from (trimmedLines x.output) {}
  have hsuccess : k.flashSuccess x x.output = true ↔
      f.flashOk = true ∨ okLine ∈ trimmedLines x.output := by
    have hkok : k.flashOk = f.flashOk := by
      rw [← hk]
      exact hok
    unfold flashSuccess readReplies
    rw [if_neg hkcli, hreplies.1, hkok, Bool.false_or, Bool.or_eq_true_iff, decide_eq_true_iff]
  have hmsg : (if k.flashErrorMsg x x.output = [] then flashFailed x.exitCode
      else String.ofList (k.flashErrorMsg x x.output)) = failureText x := by
    unfold flashErrorMsg readReplies failureText
    rw [if_neg hkcli, hreplies.2]
  -- the scans restart with the path as it was
  have hstart (m : DfuFlasher) (hm : m.core = k.core) : (m.startScanning host).shown = m.shown := by
    refine shown_startScanning m host ?_
    rw [show m.helperPath = k.helperPath from congrArg Core.helperPath hm]
    exact hkpath
  by_cases hcrash : x.exitStatus = .crashExit
  · rw [if_pos hcrash, if_pos hcrash, hstart _ (by rw [core_put, core_setStatus]),
      shown_flashError, shown_setStatus, hshown]
  rw [if_neg hcrash, if_neg hcrash]
  by_cases hgood : x.exitCode = 0 ∧ k.flashSuccess x x.output = true
  · rw [if_pos hgood, if_pos ⟨hgood.1, hsuccess.mp hgood.2⟩,
      hstart _ (by rw [core_put, core_setDfuDeviceFound, core_setStatus]; rfl),
      shown_flashComplete, shown_setDfuDeviceFound, shown_setStatus]
    have hput : ({ k with progress := 100 }.put (.progressChanged 100)).shown =
        { k.shown with progress := 100 } := shown_put { k with progress := 100 } (by simp) rfl
    rw [hput, hshown]
  · have hbad : ¬ (x.exitCode = 0 ∧ (f.flashOk = true ∨ okLine ∈ trimmedLines x.output)) :=
      fun h => hgood ⟨h.1, hsuccess.mpr h.2⟩
    rw [if_neg hgood, if_neg hbad, hmsg, hstart _ (by rw [core_put, core_setStatus]),
      shown_flashError, shown_setStatus, hshown]

end

end DfuFlasher

/-! ## Two deliveries of one output -/

theorem delivered_shown (host : ToolHost) (pieces : List (List UInt8)) (x : Exit)
    (f : DfuFlasher) (h : f.Working) :
    (delivered host pieces x f).shown =
      ending x (f.flashOk = true ∨ okLine ∈ pieceLines pieces ++ trimmedLines x.output)
        (progressAfter f.progress (pieceLines pieces)) (failureText x) := by
  obtain ⟨hcore, hprogress, hok⟩ := outputs_run host pieces f h
  unfold delivered
  generalize Run.exec step (pieces.map fun raw => (host, .flashOutput raw)) f = g
    at hcore hprogress hok
  have hg := h.of_core hcore
  have hstep : step (host, .finished .flash x) g =
      (g.fresh.ended .flash).onFlashFinished host x := by
    show (if g.fresh.running .flash then (g.fresh.ended .flash).onFinished host .flash x
      else g.fresh) = _
    rw [if_pos (show g.fresh.running .flash = true from hg.running)]
    rfl
  have hp : (g.fresh.ended .flash).flashProcess.isSome = true := by
    have hrun := hg.running
    unfold running process at hrun
    show (g.flashProcess.map _).isSome = true
    cases hflash : g.flashProcess with
    | none =>
      rw [hflash] at hrun
      cases hrun
    | some p => rfl
  have hany : (g.flashOk = true ∨ okLine ∈ trimmedLines x.output) ↔
      (f.flashOk = true ∨ okLine ∈ pieceLines pieces ++ trimmedLines x.output) := by
    rw [hok, Bool.or_eq_true_iff, decide_eq_true_iff, or_assoc, List.mem_append]
  rw [hstep, onFlashFinished_shown _ host x hp hg.helper hg.path rfl,
    show (g.fresh.ended .flash).progress = g.progress from rfl, hprogress]
  refine (ending_eq_iff x).mpr ⟨fun _ _ => hany, fun _ => rfl, fun _ _ => rfl⟩

theorem startFlash_working {host : ToolHost} {binFilePath target : String} {f : DfuFlasher}
    (w : Wait) (h : HelperDue host binFilePath target f) :
    let g := step (host, .startFlash binFilePath target w) f
    g.Working ∧ g.flashOk = false ∧ g.progress = 0 := by
  obtain ⟨⟨hgo, hstarts⟩, hcli⟩ := h
  have hgo' : f.fresh.flashRefusal host binFilePath = none :=
    (flashRefusal_fresh host f binFilePath).trans hgo
  have hpath : (f.core.tool host).helperPath ≠ "" := by
    intro hempty
    unfold flashRefusal at hgo
    rw [isToolAvailable_path, hempty] at hgo
    split at hgo <;> cases hgo
  obtain ⟨g, hgone, hcore⟩ := startFlash_core host f.fresh target w hgo'
  have hgpath : g.helperPath = (f.core.tool host).helperPath := hgone.helperPath
  have hgcli : g.useCliDirect = (f.core.tool host).useCliDirect := hgone.useCliDirect
  rw [hgpath, hgcli] at hcore
  refine ⟨⟨?_, ?_, ?_⟩, ?_⟩
  · exact (congrArg (Core.running .flash) hcore).trans hstarts
  · exact (congrArg Core.useCliDirect hcore).trans (hgcli.trans hcli)
  · have hfpath : (f.fresh.startFlash host binFilePath target w).helperPath = _ :=
      (congrArg Core.helperPath hcore).trans hgpath
    exact fun hempty => hpath (hfpath.symm.trans hempty)
  · have hstatus (k : DfuFlasher) (msg : String) : (k.setStatus msg).flashOk = k.flashOk ∧
        (k.setStatus msg).progress = k.progress := by
      unfold setStatus
      split <;> exact ⟨rfl, rfl⟩
    show (f.fresh.startFlash host binFilePath target w).flashOk = false ∧
      (f.fresh.startFlash host binFilePath target w).progress = 0
    unfold startFlash
    rw [hgo']
    dsimp only
    generalize hk : DfuFlasher.put (.progressChanged 0) _ = k
    have hfresh : k.flashOk = false ∧ k.progress = 0 := by
      rw [← hk]
      exact ⟨rfl, rfl⟩
    obtain ⟨hok, hprogress⟩ := hstatus k "Starting DFU flash..."
    exact ⟨hok.trans hfresh.1, hprogress.trans hfresh.2⟩

/-- **Pieces of the output**, exactly: what is shown at the end is what the whole output gives
iff the lines of the pieces keep what decides it. -/
theorem shown_iff (host host' : ToolHost) (binFilePath target : String) (w : Wait)
    (f : DfuFlasher) (pieces : List (List UInt8)) (x : Exit)
    (h : HelperDue host binFilePath target f) :
    (delivered host' pieces x (step (host, .startFlash binFilePath target w) f)).shown =
        (deliveredAtOnce host' pieces x (step (host, .startFlash binFilePath target w) f)).shown ↔
      CutKept pieces x := by
  obtain ⟨hworking, hok, hprogress⟩ := startFlash_working w h
  generalize step (host, .startFlash binFilePath target w) f = g at hworking hok hprogress
  have hwhole : pieceLines [pieces.flatten ++ x.output] ++ trimmedLines [] =
      wholeLines pieces x := by
    rw [pieceLines, List.flatMap_singleton]
    exact List.append_nil _
  have hone : pieceLines [pieces.flatten ++ x.output] = wholeLines pieces x :=
    List.flatMap_singleton ..
  unfold deliveredAtOnce
  rw [delivered_shown host' pieces x g hworking, delivered_shown host' _ _ g hworking, hok,
    hprogress, failureText_of_nil]
  simp only [Bool.false_eq_true, false_or]
  rw [hwhole, hone]
  refine (ending_eq_iff x).trans ⟨fun ⟨hsame, hpct, hmsg⟩ => ?_, fun hcut => ?_⟩
  · exact ⟨hsame, hpct, fun hcrash hfails => (failureText_eq_iff x).mp (hmsg hcrash hfails)⟩
  · exact ⟨hcut.ok, hcut.progress,
      fun hcrash hfails => (failureText_eq_iff x).mpr (hcut.error hcrash hfails)⟩

/-! ## Cuts at line ends -/

theorem pieceLines_lineEnds (pieces : List (List UInt8))
    (h : ∀ piece ∈ pieces, ∃ line, piece = line ++ [10] ∧ utf8bom.isPrefixOf piece = false) :
    utf8bom.isPrefixOf pieces.flatten = false ∧
      trimmedLines pieces.flatten = pieceLines pieces := by
  induction pieces with
  | nil => exact ⟨rfl, rfl⟩
  | cons piece pieces ih =>
    obtain ⟨hbom, hlines⟩ := ih fun piece' hmem => h piece' (List.mem_cons_of_mem _ hmem)
    obtain ⟨line, rfl, hfirst⟩ := h piece List.mem_cons_self
    have happend : (line ++ [10]) ++ pieces.flatten = line ++ 10 :: pieces.flatten := by
      rw [List.append_assoc]
      rfl
    rw [bom_cut] at hfirst
    rw [List.flatten_cons, happend, bom_cut, trimmedLines_cut line _ hbom, hlines, pieceLines,
      pieceLines, List.flatMap_cons, trimmedLines_cut line [] rfl]
    exact ⟨hfirst, by rw [show trimmedLines [] = [] from rfl, List.append_nil]⟩

/-- output that comes line by line, as the helper flushes it, is read as the whole -/
theorem cutKept_lineEnds {pieces : List (List UInt8)} {x : Exit}
    (h : ∀ piece ∈ pieces, ∃ line, piece = line ++ [10] ∧ utf8bom.isPrefixOf piece = false)
    (hrest : x.output = []) : CutKept pieces x := by
  have hlines : pieceLines pieces = wholeLines pieces x := by
    rw [wholeLines, hrest, List.append_nil]
    exact (pieceLines_lineEnds pieces h).2.symm
  refine ⟨fun _ _ => ?_, fun _ => by rw [hlines], fun _ _ => Or.inl ?_⟩
  · rw [hrest, show trimmedLines [] = [] from rfl, List.append_nil, hlines]
  · rw [hrest]
    rfl

/-- a device that the first scan finds -/
def deviceFoundRun : List (ToolHost × DfuEvent) :=
  [.startScanning, .finished .scan
    { exitCode := 0, output := Device.utf8 "DEVICE:USB1|20\n" }].map fun e =>
      (ToolHost.withHelper, e)

theorem shown_twoLines :
    let f := Run.exec step deviceFoundRun (make ToolHost.withHelper)
    let g := step (ToolHost.withHelper, .startFlash "C:/M1/m1.bin" "bank2" {}) f
    let pieces := [Device.utf8 "PROGRESS:100\n", Device.utf8 "OK\n"]
    (delivered ToolHost.withHelper pieces { exitCode := 0 } g).shown =
      (deliveredAtOnce ToolHost.withHelper pieces { exitCode := 0 } g).shown := by
  refine (shown_iff ToolHost.withHelper _ _ _ _ _ _ _ ⟨⟨?_, ?_⟩, ?_⟩).mpr (cutKept_lineEnds ?_ rfl)
  · decide +kernel
  · decide +kernel
  · decide +kernel
  · intro piece hmem
    rcases List.mem_pair.mp hmem with rfl | rfl
    · exact ⟨Device.utf8 "PROGRESS:100", by decide +kernel, by decide +kernel⟩
    · exact ⟨Device.utf8 "OK", by decide +kernel, by decide +kernel⟩

/-- the last line in two pieces: neither is `OK` -/
theorem shown_cutOk :
    let f := Run.exec step deviceFoundRun (make ToolHost.withHelper)
    let g := step (ToolHost.withHelper, .startFlash "C:/M1/m1.bin" "bank2" {}) f
    let pieces := [Device.utf8 "O", Device.utf8 "K\n"]
    (delivered ToolHost.withHelper pieces { exitCode := 0 } g).shown.complete = false ∧
      (deliveredAtOnce ToolHost.withHelper pieces { exitCode := 0 } g).shown.complete = true := by
  decide +kernel

end QMon.Updater
