import QMonstatek.Updater.DfuFlasher

/-!
# What the handlers leave of the processes

`Core`                the processes with what the guards of the flasher read;
`Core.ScanDue host`   `scanOnce` would start a scan that runs;
`ScanStarted host c d`   `d` is `c` after `scanOnce`;
`Gone r c d`          `d` is `c` without the process of this role.

Texts and results change nothing here (`core_blind`); each function that does is described once,
by what it leaves of the core.
-/

namespace QMon.Updater

structure Core where
  scanProcess : Option Process
  flashProcess : Option Process
  swapProcess : Option Process
  scanTimer : Bool
  scanning : Bool
  flashing : Bool
  helperPath : String
  useCliDirect : Bool
  letGo : List Role
  deriving DecidableEq, Repr

namespace Core

def process (c : Core) : Role → Option Process
  | .scan => c.scanProcess
  | .flash => c.flashProcess
  | .swap => c.swapProcess

def setProcess (r : Role) (p : Option Process) (c : Core) : Core :=
  match r with
  | .scan => { c with scanProcess := p }
  | .flash => { c with flashProcess := p }
  | .swap => { c with swapProcess := p }

def running (r : Role) (c : Core) : Bool := (c.process r).any Process.running

section
variable (host : ToolHost)

/-- the core after `isToolAvailable()` -/
def tool (c : Core) : Core :=
  let f := ({ helperPath := c.helperPath, useCliDirect := c.useCliDirect } :
    DfuFlasher).isToolAvailable host
  { c with helperPath := f.helperPath, useCliDirect := f.useCliDirect }

def ScanDue (c : Core) : Prop :=
  c.scanProcess = none ∧ (c.tool host).helperPath ≠ "" ∧
    host.starts (c.tool host).helperPath (scanArgs (c.tool host).useCliDirect) = true

instance (c : Core) : Decidable (c.ScanDue host) := inferInstanceAs (Decidable (_ ∧ _ ∧ _))

end

end Core

/-- `d` is `c` after `scanOnce` -/
structure ScanStarted (host : ToolHost) (c d : Core) : Prop where
  scan : d.running .scan = (c.running .scan || decide (c.ScanDue host))
  flash : d.flashProcess = c.flashProcess
  swap : d.swapProcess = c.swapProcess
  flashing : d.flashing = c.flashing
  letGo : d.letGo = c.letGo

/-- `d` is `c` without the process of this role, which may have been let go -/
structure Gone (r : Role) (c d : Core) : Prop where
  eq : d = { c.setProcess r none with letGo := d.letGo }
  letGo : ∀ r' ∈ d.letGo, r' ∈ c.letGo ∨ r' = r ∧ c.running r = true

def DfuFlasher.core (f : DfuFlasher) : Core where
  scanProcess := f.scanProcess
  flashProcess := f.flashProcess
  swapProcess := f.swapProcess
  scanTimer := f.scanTimer
  scanning := f.scanning
  flashing := f.flashing
  helperPath := f.helperPath
  useCliDirect := f.useCliDirect
  letGo := f.letGo

/-- `startFlash` would come to a flash that runs -/
def FlashDue (host : ToolHost) (binFilePath target : String) (f : DfuFlasher) : Prop :=
  f.flashRefusal host binFilePath = none ∧
    host.starts (f.core.tool host).helperPath
      (flashArgs (f.core.tool host).useCliDirect (host.toNativeSeparators binFilePath)
        target) = true

namespace DfuFlasher

/-! ## Texts and results -/

/-- `p` reads neither the texts and results nor the signals, a use of a null pointer apart -/
structure Blind {α : Type} (p : DfuFlasher → α) : Prop where
  put : ∀ (f : DfuFlasher) (o : DfuOut), (∀ r, o ≠ .nullUse r) → p (f.put o) = p f
  told : ∀ (f : DfuFlasher) (found : Bool) (info : String) (ok : Bool) (pct : Int) (msg : String),
    p { f with
      dfuDeviceFound := found, dfuDeviceInfo := info, flashOk := ok
      progress := pct, statusMessage := msg } = p f

namespace Blind

variable {α : Type} {p : DfuFlasher → α} (h : Blind p) (f : DfuFlasher)
include h

theorem setStatus (msg : String) : p (f.setStatus msg) = p f := by
  unfold DfuFlasher.setStatus
  split
  · exact (h.put _ _ (by nofun)).trans (h.told f ..)
  · rfl

theorem setDfuDeviceFound (found : Bool) (info : String) :
    p (f.setDfuDeviceFound found info) = p f := by
  unfold DfuFlasher.setDfuDeviceFound
  dsimp only
  split
  · exact (h.put _ _ (by nofun)).trans (h.told f ..)
  · exact h.told f ..

theorem setProgress (pct : Int) : p (f.setProgress pct) = p f := by
  unfold DfuFlasher.setProgress
  split
  · exact (h.put _ _ (by nofun)).trans (h.told f ..)
  · rfl

theorem noDevice (msg : String) : p (f.noDevice msg) = p f := by
  have hfound := h.setDfuDeviceFound f false ""
  unfold DfuFlasher.noDevice
  dsimp only
  split
  · exact hfound
  · exact (h.setStatus _ _).trans hfound

theorem deviceFound (display : String) : p (f.deviceFound display) = p f :=
  (h.setStatus _ _).trans (h.setDfuDeviceFound f true display)

theorem readCliScan (output : List Char) : p (f.readCliScan output) = p f := by
  unfold DfuFlasher.readCliScan
  split
  · exact h.deviceFound f _
  · exact h.noDevice f _

theorem readHelperScan (lines : List (List Char)) : p (f.readHelperScan lines) = p f := by
  induction lines with
  | nil => exact h.noDevice f _
  | cons line lines ih =>
    unfold DfuFlasher.readHelperScan
    split
    · exact h.noDevice f _
    split
    · exact h.deviceFound f _
    split
    · exact (h.setStatus _ _).trans (h.setDfuDeviceFound f false "")
    · exact ih

theorem readPercent (line : List Char) : p (f.readPercent line) = p f := by
  unfold DfuFlasher.readPercent
  split
  · exact h.setProgress f _
  · rfl

theorem readCliLine (line : List Char) : p (f.readCliLine line) = p f := by
  have hpct := h.readPercent f line
  unfold DfuFlasher.readCliLine
  dsimp only
  split
  · exact (h.told _ ..).trans hpct
  split
  · exact (h.setStatus _ _).trans hpct
  split
  · exact (h.setStatus _ _).trans hpct
  split
  · exact (h.setStatus _ _).trans hpct
  · exact hpct

theorem readHelperLine (line : List Char) : p (f.readHelperLine line) = p f := by
  unfold DfuFlasher.readHelperLine
  split
  · exact h.setProgress f _
  split
  · exact h.setStatus f _
  split
  · split
    · exact h.setStatus f _
    · rfl
  split
  · exact h.told f ..
  · rfl

theorem readLine (line : List Char) : p (f.readLine line) = p f := by
  unfold DfuFlasher.readLine
  split
  · rfl
  split
  · exact h.readCliLine f line
  · exact h.readHelperLine f line

theorem readLines (lines : List (List Char)) :
    p (lines.foldl (fun f line => f.readLine line) f) = p f := by
  induction lines generalizing f with
  | nil => rfl
  | cons line lines ih => exact (ih (f.readLine line)).trans (h.readLine f line)

theorem onFlashOutput (raw : List UInt8) : p (f.onFlashOutput raw) = p f := by
  unfold DfuFlasher.onFlashOutput
  split
  · rfl
  · exact h.readLines f _

/-- the signals of a wait, before the end -/
theorem signals (r : Role) (signals : List ProcessSignal) :
    p (signals.foldl (fun f s => f.onSignal r s) f) = p f := by
  induction signals generalizing f with
  | nil => rfl
  | cons s signals ih =>
    refine (ih (f.onSignal r s)).trans ?_
    unfold onSignal
    split
    · exact h.onFlashOutput f _
    · rfl

end Blind

theorem core_blind : Blind core where
  put _ _ _ := rfl
  told _ _ _ _ _ _ := rfl

section
variable (f : DfuFlasher)

@[simp] theorem core_put (o : DfuOut) : (f.put o).core = f.core := rfl

@[simp] theorem core_setStatus (msg : String) : (f.setStatus msg).core = f.core :=
  core_blind.setStatus f msg

@[simp] theorem core_setDfuDeviceFound (found : Bool) (info : String) :
    (f.setDfuDeviceFound found info).core = f.core := core_blind.setDfuDeviceFound f found info

end

/-! ## Starts and ends -/

section
variable (host : ToolHost) (f : DfuFlasher)

theorem core_isToolAvailable : (f.isToolAvailable host).core = f.core.tool host := by
  unfold Core.tool isToolAvailable resolveHelperPath
  dsimp only
  by_cases h : f.helperPath = ""
  · rw [if_pos h, if_pos (show f.core.helperPath = "" from h)]
    split
    · rfl
    · split <;> rfl
  · rw [if_neg h, if_neg (show ¬ f.core.helperPath = "" from h)]

theorem isToolAvailable_path :
    (f.isToolAvailable host).helperPath = (f.core.tool host).helperPath :=
  congrArg Core.helperPath (core_isToolAvailable host f)

theorem scanOnce_started : ScanStarted host f.core (f.scanOnce host).core := by
  have htool := core_isToolAvailable host f
  unfold scanOnce
  dsimp only
  generalize f.isToolAvailable host = g at htool
  have hpath : g.helperPath = (f.core.tool host).helperPath := congrArg Core.helperPath htool
  have hcli : g.useCliDirect = (f.core.tool host).useCliDirect :=
    congrArg Core.useCliDirect htool
  have hscan : g.scanProcess = f.core.scanProcess := congrArg Core.scanProcess htool
  have hkept (hdue : ¬ f.core.ScanDue host) : ScanStarted host f.core g.core := by
    rw [htool]
    refine ⟨?_, rfl, rfl, rfl, rfl⟩
    rw [decide_eq_false hdue, Bool.or_false]
    rfl
  by_cases hp : g.helperPath = ""
  · rw [if_pos hp, core_setDfuDeviceFound, core_setStatus]
    exact hkept fun hdue => hdue.2.1 (hpath ▸ hp)
  rw [if_neg hp]
  by_cases hs : g.scanProcess.isSome = true
  · rw [if_pos hs]
    refine hkept fun hdue => ?_
    rw [hscan, hdue.1] at hs
    cases hs
  rw [if_neg hs]
  have hnone : f.core.scanProcess = none := by
    rw [← hscan]
    simpa using hs
  have hstart : (g.start host .scan (scanArgs g.useCliDirect)).core =
      { f.core.tool host with
        scanProcess := some
          { program := g.helperPath
            args := scanArgs g.useCliDirect
            running := host.starts g.helperPath (scanArgs g.useCliDirect) } } := by
    rw [← htool]
    rfl
  rw [hstart]
  refine ⟨?_, rfl, rfl, rfl, rfl⟩
  have hidle : f.core.running .scan = false := by
    unfold Core.running Core.process
    rw [hnone]
    rfl
  rw [hidle, Bool.false_or]
  show host.starts g.helperPath (scanArgs g.useCliDirect) = _
  rw [hpath] at hp
  rw [hpath, hcli]
  simp [Core.ScanDue, hnone, hp]

theorem startScanning_scanning (h : f.scanning = true) : f.startScanning host = f := by
  unfold startScanning
  rw [if_pos h]

theorem startScanning_started (h : f.scanning = false) :
    ScanStarted host f.core (f.startScanning host).core := by
  unfold startScanning
  rw [if_neg (by rw [h]; exact Bool.false_ne_true)]
  have h := scanOnce_started host ({ f with scanning := true }.put (.scanningChanged true))
  exact ⟨h.scan, h.flash, h.swap, h.flashing, h.letGo⟩

end

end DfuFlasher

namespace Gone

variable {r : Role} {c d e : Core}

theorem of_none (h : c.process r = none) : Gone r c c := by
  refine ⟨?_, fun r' hr => Or.inl hr⟩
  cases r <;> (cases c; cases h; rfl)

/-- a process that had ended before -/
theorem of_ended {p : Option Process} (hp : p.any Process.running = false)
    (h : Gone r (c.setProcess r p) d) : Gone r c d := by
  refine ⟨h.eq.trans (by cases r <;> rfl), fun r' hr => ?_⟩
  rcases h.letGo r' hr with hr | ⟨-, hrun⟩
  · exact Or.inl (by cases r <;> exact hr)
  · refine absurd ?_ (Bool.eq_false_iff.mp hp)
    cases r <;> exact hrun

theorem process (h : Gone r c d) : d.process r = none := by
  rw [h.eq]
  cases r <;> rfl

theorem running (h : Gone r c d) : d.running r = false := by
  unfold Core.running
  rw [h.process]
  rfl

theorem trans (h : Gone r c d) (h' : Gone r d e) : Gone r c e := by
  refine ⟨?_, fun r' hr => ?_⟩
  · rw [h'.eq, h.eq]
    cases r <;> rfl
  · rcases h'.letGo r' hr with hr | ⟨-, hrun⟩
    · exact h.letGo r' hr
    · rw [h.running] at hrun
      cases hrun

theorem other (h : Gone r c d) (r' : Role) (hne : r' ≠ r) : d.process r' = c.process r' := by
  rw [h.eq]
  cases r <;> cases r' <;> first | rfl | exact absurd rfl hne

theorem running_other (h : Gone r c d) (r' : Role) (hne : r' ≠ r) :
    d.running r' = c.running r' := by
  unfold Core.running
  rw [h.other r' hne]

theorem flashing (h : Gone r c d) : d.flashing = c.flashing := by
  rw [h.eq]
  cases r <;> rfl

theorem scanning (h : Gone r c d) : d.scanning = c.scanning := by
  rw [h.eq]
  cases r <;> rfl

theorem helperPath (h : Gone r c d) : d.helperPath = c.helperPath := by
  rw [h.eq]
  cases r <;> rfl

theorem useCliDirect (h : Gone r c d) : d.useCliDirect = c.useCliDirect := by
  rw [h.eq]
  cases r <;> rfl

end Gone

namespace DfuFlasher

section
variable (host : ToolHost) (f : DfuFlasher)

theorem core_setProcess (r : Role) (p : Option Process) :
    (f.setProcess r p).core = f.core.setProcess r p := by
  cases r <;> rfl

theorem core_ended (r : Role) :
    (f.ended r).core =
      f.core.setProcess r ((f.process r).map fun p => { p with running := false }) :=
  core_setProcess f r _

/-- the process of an ended program does not run -/
theorem ended_any (r : Role) :
    ((f.process r).map fun p => { p with running := false }).any Process.running = false := by
  cases f.process r <;> rfl

theorem core_process (r : Role) : f.core.process r = f.process r := by
  cases r <;> rfl

theorem release_gone (r : Role) : Gone r f.core (f.release r).core := by
  unfold release
  split
  · rename_i hnone
    exact Gone.of_none ((core_process f r).trans hnone)
  · rename_i p hp
    refine ⟨by cases r <;> rfl, fun r' hr => ?_⟩
    replace hr : r' ∈ if p.running = true then f.letGo ++ [r] else f.letGo := hr
    split at hr
    · rename_i hrun
      refine (List.mem_append.mp hr).imp id fun hr => ⟨List.mem_singleton.mp hr, ?_⟩
      unfold Core.running
      rw [core_process, hp]
      exact hrun
    · exact Or.inl hr

theorem onScanFinished_gone (x : Exit) : Gone .scan f.core (f.onScanFinished x).core := by
  unfold onScanFinished
  split
  · rename_i hnone
    exact Gone.of_none hnone
  · dsimp only
    split
    · rw [core_blind.readCliScan]
      exact release_gone f .scan
    · rw [core_blind.readHelperScan]
      exact release_gone f .scan

/-- the member is null when the handlers of the flash and of the swap go on -/
theorem release_isSome (r : Role) :
    Gone r f.core (if (f.process r).isSome then f.release r else f).core := by
  split
  · exact release_gone f r
  · rename_i hnone
    refine Gone.of_none ((core_process f r).trans ?_)
    simpa using hnone

theorem onFlashFinished_core (x : Exit) :
    ∃ g : DfuFlasher, f.onFlashFinished host x = g.startScanning host ∧
      Gone .flash { f.core with flashing := false } g.core := by
  have hgone := release_isSome f .flash
  unfold onFlashFinished
  dsimp only
  replace hgone : Gone .flash f.core
    (if f.flashProcess.isSome then f.release .flash else f).core := hgone
  generalize (if f.flashProcess.isSome then f.release .flash else f) = g at hgone
  generalize (if f.flashProcess.isSome then x.output else []) = remaining
  have hcore : Gone .flash { f.core with flashing := false }
      ({ g with flashing := false }.put (.flashingChanged false)).core := by
    refine ⟨?_, hgone.letGo⟩
    show { g.core with flashing := false } = _
    rw [hgone.eq]
    rfl
  split
  · refine ⟨_, rfl, ?_⟩
    rw [core_put, core_setStatus]
    exact hcore
  split
  · refine ⟨_, rfl, ?_⟩
    rw [core_put, core_setDfuDeviceFound, core_setStatus]
    exact hcore
  · refine ⟨_, rfl, ?_⟩
    rw [core_put, core_setStatus]
    exact hcore

theorem onSwapBankFinished_core (x : Exit) :
    ∃ g : DfuFlasher, f.onSwapBankFinished host x = g.startScanning host ∧
      Gone .swap f.core g.core := by
  have hgone := release_isSome f .swap
  unfold onSwapBankFinished
  dsimp only
  replace hgone : Gone .swap f.core
    (if f.swapProcess.isSome then f.release .swap else f).core := hgone
  generalize (if f.swapProcess.isSome then f.release .swap else f) = g at hgone
  generalize (if f.swapProcess.isSome then x.output else []) = output
  split
  · refine ⟨_, rfl, ?_⟩
    rw [core_put, core_setStatus]
    exact hgone
  split
  · refine ⟨_, rfl, ?_⟩
    rw [core_put, core_setDfuDeviceFound, core_setStatus]
    exact hgone
  · refine ⟨_, rfl, ?_⟩
    rw [core_put, core_setStatus]
    exact hgone

theorem release_of {r : Role} {g : DfuFlasher} (h : g.core = f.core ∨ Gone r f.core g.core) :
    Gone r f.core (g.release r).core := by
  rcases h with h | h
  · rw [← h]
    exact release_gone g r
  · exact h.trans (release_gone g r)

theorem waitForFinished_scan (w : Wait) :
    (f.waitForFinished host .scan w).core = f.core ∨
      Gone .scan f.core (f.waitForFinished host .scan w).core := by
  have hsig := core_blind.signals f .scan w.signals
  unfold waitForFinished
  dsimp only
  generalize w.signals.foldl (fun f s => f.onSignal .scan s) f = g at hsig
  split
  · rename_i x hx
    refine Or.inr (Gone.of_ended (ended_any g .scan) ?_)
    rw [← hsig, ← core_ended]
    exact onScanFinished_gone _ x
  · exact Or.inl hsig

theorem stopProcess_scan (w : Wait) : Gone .scan f.core (f.stopProcess host .scan w).core := by
  unfold stopProcess
  split
  · rename_i hnone
    exact Gone.of_none hnone
  · refine release_of f ?_
    split
    · exact waitForFinished_scan host f w
    · exact Or.inl rfl

theorem stopScanning_gone (w : Wait) :
    Gone .scan { f.core with scanTimer := false, scanning := false }
      (f.stopScanning host w).core := by
  have hgone := stopProcess_scan host { f with scanTimer := false } w
  unfold stopScanning
  dsimp only
  generalize ({ f with scanTimer := false } : DfuFlasher).stopProcess host .scan w = g at hgone
  have hcore : ∀ h : Core, h = { g.core with scanning := false } →
      Gone .scan { f.core with scanTimer := false, scanning := false } h := by
    rintro h rfl
    refine ⟨?_, hgone.letGo⟩
    rw [hgone.eq]
    rfl
  split
  · exact hcore _ rfl
  · rename_i hs
    refine hcore _ ?_
    rw [← (Bool.eq_false_iff.mpr hs : g.scanning = false)]
    rfl

/-- a restart of the scans leaves the other two processes alone -/
theorem startScanning_kept :
    (f.startScanning host).flashProcess = f.flashProcess ∧
      (f.startScanning host).swapProcess = f.swapProcess ∧
      (f.startScanning host).flashing = f.flashing ∧
      (f.startScanning host).letGo = f.letGo := by
  cases hs : f.scanning with
  | true =>
    rw [startScanning_scanning host f hs]
    exact ⟨rfl, rfl, rfl, rfl⟩
  | false =>
    have h := startScanning_started host f hs
    exact ⟨h.flash, h.swap, h.flashing, h.letGo⟩

theorem release_null {r : Role} (h : f.process r = none) : f.release r = f.put (.nullUse r) := by
  unfold release
  rw [h]

/-- where the end of the flash comes within the wait, its handler has restarted the scans -/
theorem stopProcess_flash (w : Wait) :
    Gone .flash f.core (f.stopProcess host .flash w).core ∨
      ∃ g : DfuFlasher, (f.stopProcess host .flash w).core = (g.startScanning host).core ∧
        Gone .flash { f.core with flashing := false } g.core := by
  unfold stopProcess
  split
  · rename_i hnone
    exact Or.inl (Gone.of_none hnone)
  split
  · have hsig := core_blind.signals f .flash w.signals
    unfold waitForFinished
    dsimp only
    generalize w.signals.foldl (fun f s => f.onSignal .flash s) f = g at hsig
    split
    · rename_i x hx
      obtain ⟨k, hk, hgone⟩ := onFlashFinished_core host (g.ended .flash) x
      have hnone : (k.startScanning host).process .flash = none :=
        (startScanning_kept host k).1.trans hgone.process
      refine Or.inr ⟨k, ?_, ?_⟩
      · show (((g.ended .flash).onFlashFinished host x).release .flash).core = _
        rw [hk, release_null _ hnone]
        rfl
      · rw [core_ended, hsig] at hgone
        exact Gone.of_ended (ended_any g .flash) hgone
    · exact Or.inl (release_of f (Or.inl hsig))
  · exact Or.inl (release_gone f .flash)

/-- `cancel` during a flash: the flash is gone, then the scans restart -/
theorem cancel_core (w : Wait) (h : f.flashing = true) :
    ∃ g : DfuFlasher, (f.cancel host w).core = (g.startScanning host).core ∧
      Gone .flash { f.core with flashing := false } g.core := by
  unfold cancel endFlash
  rcases stopProcess_flash host f w with hgone | ⟨k, hk, hgone⟩
  · generalize f.stopProcess host .flash w = g at hgone
    rw [if_pos (show g.flashing = true from hgone.flashing.trans h)]
    refine ⟨_, rfl, ?_⟩
    rw [core_setStatus]
    refine ⟨?_, hgone.letGo⟩
    show { g.core with flashing := false } = _
    rw [hgone.eq]
    rfl
  · generalize f.stopProcess host .flash w = g at hk
    have hflashing : g.flashing = false :=
      (congrArg Core.flashing hk).trans ((startScanning_kept host k).2.2.1.trans hgone.flashing)
    rw [if_neg (by rw [hflashing]; exact Bool.false_ne_true)]
    exact ⟨k, hk, hgone⟩

theorem cancel_idle (w : Wait) (hp : f.flashProcess = none) (h : f.flashing = false) :
    f.cancel host w = f := by
  have hstop : f.stopProcess host .flash w = f := by
    unfold stopProcess
    rw [show f.process .flash = none from hp]
  unfold cancel endFlash
  rw [hstop, if_neg (by rw [h]; exact Bool.false_ne_true)]

/-! ## Calls -/

theorem flashRefusal_fresh (binFilePath : String) :
    f.fresh.flashRefusal host binFilePath = f.flashRefusal host binFilePath := by
  unfold flashRefusal
  rw [isToolAvailable_path, isToolAvailable_path]
  rfl

theorem startFlash_refused {binFilePath target : String} (w : Wait) {message : String}
    (h : f.flashRefusal host binFilePath = some message) :
    (f.startFlash host binFilePath target w).core = f.core ∨
      (f.startFlash host binFilePath target w).core = f.core.tool host := by
  unfold startFlash
  rw [h]
  dsimp only
  split
  · exact Or.inl rfl
  · exact Or.inr (core_isToolAvailable host f)

/-- the core of a flash that starts -/
theorem startFlash_core {binFilePath : String} (target : String) (w : Wait)
    (h : f.flashRefusal host binFilePath = none) :
    ∃ g : DfuFlasher, Gone .scan { f.core.tool host with scanTimer := false, scanning := false }
        g.core ∧
      (f.startFlash host binFilePath target w).core =
        { g.core with
          flashing := true
          flashProcess := some
            { program := g.helperPath
              args := flashArgs g.useCliDirect (host.toNativeSeparators binFilePath) target
              running := host.starts g.helperPath
                (flashArgs g.useCliDirect (host.toNativeSeparators binFilePath) target) } } := by
  have hgone := stopScanning_gone host (f.isToolAvailable host) w
  rw [core_isToolAvailable] at hgone
  unfold startFlash
  rw [h]
  dsimp only
  generalize (f.isToolAvailable host).stopScanning host w = g at hgone
  refine ⟨g, hgone, ?_⟩
  generalize hk : DfuFlasher.setStatus "Starting DFU flash..." _ = k
  have hcore : k.core = { g.core with flashing := true } := by
    rw [← hk, core_setStatus]
    rfl
  have hpath : k.helperPath = g.helperPath := congrArg Core.helperPath hcore
  have hcli : k.useCliDirect = g.useCliDirect := congrArg Core.useCliDirect hcore
  rw [← hpath, ← hcli]
  show k.core.setProcess .flash _ = _
  rw [hcore]
  rfl

theorem swapBank_refused (w : Wait) {message : String} (h : f.swapRefusal host = some message) :
    (f.swapBank host w).core = f.core ∨ (f.swapBank host w).core = f.core.tool host := by
  unfold swapBank
  rw [h]
  dsimp only
  split
  · exact Or.inl rfl
  · exact Or.inr (core_isToolAvailable host f)

theorem swapBank_core (w : Wait) (h : f.swapRefusal host = none) :
    ∃ (g : DfuFlasher) (p : Process),
      Gone .scan { f.core.tool host with scanTimer := false, scanning := false } g.core ∧
        (f.swapBank host w).core = { g.core with swapProcess := some p } := by
  have hgone := stopScanning_gone host (f.isToolAvailable host) w
  rw [core_isToolAvailable] at hgone
  unfold swapBank
  rw [h]
  dsimp only
  generalize (f.isToolAvailable host).stopScanning host w = g at hgone
  rw [← core_setStatus g "Swapping flash banks..."] at hgone
  exact ⟨_, _, hgone, rfl⟩

end

end DfuFlasher

end QMon.Updater
