import QMonstatek.Lib.Run
import QMonstatek.Updater.Processes

/-!
# One programmer at a time

`AtMostOne f`   at most one of the scan, flash and swap processes runs;
`Guarded e f`   a scan that would run now finds no flash and no swap, a flash that would run no
                swap.

`oneProcess_iff`: a run keeps to one process iff every event of it meets `Guarded`.  `swapBank`
asks for both other processes; `startFlash` does not ask for a swap, and the scans ask for
neither.
-/

namespace QMon.Updater
open QMon.Updater.Core QMon.Updater.DfuFlasher

def roles : List Role := [.scan, .flash, .swap]

def Core.AtMostOne (c : Core) : Prop := (roles.filter fun r => c.running r).length ≤ 1

def DfuFlasher.AtMostOne (f : DfuFlasher) : Prop := (roles.filter fun r => f.running r).length ≤ 1

instance (f : DfuFlasher) : Decidable f.AtMostOne := inferInstanceAs (Decidable (_ ≤ _))

/-- the scans would restart with a scan that runs -/
def RestartDue (host : ToolHost) (f : DfuFlasher) : Prop :=
  f.scanning = false ∧ f.core.ScanDue host

def Guarded (e : ToolHost × DfuEvent) (f : DfuFlasher) : Prop :=
  match e.2 with
  | .startScanning =>
    RestartDue e.1 f → f.running .flash = false ∧ f.running .swap = false
  | .scanOnce => f.core.ScanDue e.1 → f.running .flash = false ∧ f.running .swap = false
  | .tick =>
    f.scanTimer = true → f.core.ScanDue e.1 →
      f.running .flash = false ∧ f.running .swap = false
  | .startFlash binFilePath target _ =>
    FlashDue e.1 binFilePath target f → f.running .swap = false
  -- the scans restart once the flash is gone
  | .cancel _ => f.flashing = true → RestartDue e.1 f → f.running .swap = false
  | .late .flash _ => .flash ∈ f.letGo → RestartDue e.1 f → f.running .swap = false
  | _ => True

/-- what holds in any case -/
structure Core.Tracked (c : Core) : Prop where
  flash : c.flashing = false → c.flashProcess = none
  swap : .swap ∉ c.letGo

/-! ## Starts -/

section
variable {host : ToolHost} {c d : Core}

theorem atMostOne_iff : c.AtMostOne ↔
    (c.running .scan = true → c.running .flash = false ∧ c.running .swap = false) ∧
      (c.running .flash = true → c.running .swap = false) := by
  unfold Core.AtMostOne roles
  cases hs : c.running .scan <;> cases hf : c.running .flash <;> cases hw : c.running .swap <;>
    simp [hs, hf, hw]

theorem running_congr {r : Role} (h : d.process r = c.process r) :
    d.running r = c.running r := by
  unfold Core.running
  rw [h]

theorem started_iff (h : ScanStarted host c d) (hP : c.AtMostOne) :
    d.AtMostOne ↔ (c.ScanDue host → c.running .flash = false ∧ c.running .swap = false) := by
  have hflash : d.running .flash = c.running .flash := running_congr h.flash
  have hswap : d.running .swap = c.running .swap := running_congr h.swap
  rw [atMostOne_iff, hflash, hswap, h.scan]
  rw [atMostOne_iff] at hP
  constructor
  · intro hd hdue
    exact hd.1 (by rw [decide_eq_true hdue, Bool.or_true])
  · intro hdue
    refine ⟨fun hscan => ?_, hP.2⟩
    rcases Bool.or_eq_true_iff.mp hscan with hscan | hnow
    · exact hP.1 hscan
    · exact hdue (of_decide_eq_true hnow)

theorem gone_atMostOne {r : Role} (h : Gone r c d) (hP : c.AtMostOne) : d.AtMostOne := by
  have hle (r' : Role) (hr : d.running r' = true) : c.running r' = true := by
    by_cases hne : r' = r
    · rw [hne, h.running] at hr
      cases hr
    · rw [← h.running_other r' hne]
      exact hr
  refine (List.Sublist.length_le ?_).trans hP
  exact List.monotone_filter_right roles hle

theorem gone_scanDue {r : Role} (h : Gone r c d) (hr : r ≠ .scan) :
    d.ScanDue host ↔ c.ScanDue host := by
  rw [h.eq]
  cases r with
  | scan => exact absurd rfl hr
  | flash => exact Iff.rfl
  | swap => exact Iff.rfl

/-- the scans restart after a process is gone -/
theorem restart_iff {r : Role} {g : DfuFlasher} (h : Gone r c g.core) (hr : r ≠ .scan)
    (hP : c.AtMostOne) : (g.startScanning host).core.AtMostOne ↔
      (c.scanning = false → c.ScanDue host → g.core.running .flash = false ∧
        g.core.running .swap = false) := by
  have hPg : g.core.AtMostOne := gone_atMostOne h hP
  rw [← gone_scanDue h hr, ← h.scanning]
  cases hs : g.scanning with
  | true =>
    rw [startScanning_scanning host g hs]
    refine iff_of_true hPg fun hf => ?_
    rw [show g.core.scanning = g.scanning from rfl, hs] at hf
    cases hf
  | false =>
    rw [started_iff (startScanning_started host g hs) hPg]
    exact ⟨fun h _ => h, fun h => h hs⟩

end

/-! ## Steps -/

section
variable (e : ToolHost × DfuEvent) (f : DfuFlasher)

theorem tracked_started {host : ToolHost} {c d : Core} (h : ScanStarted host c d)
    (ht : c.Tracked) : d.Tracked := by
  refine ⟨fun hf => ?_, ?_⟩
  · rw [h.flash]
    exact ht.flash (h.flashing ▸ hf)
  · rw [h.letGo]
    exact ht.swap

theorem tracked_startScanning (host : ToolHost) (ht : f.core.Tracked) :
    (f.startScanning host).core.Tracked := by
  obtain ⟨hflash, -, hflashing, hletGo⟩ := startScanning_kept host f
  refine ⟨fun hf => hflash.trans (ht.flash (hflashing.symm.trans hf)), ?_⟩
  show Role.swap ∉ (f.startScanning host).letGo
  rw [hletGo]
  exact ht.swap

/-- a swap is never let go while it runs -/
theorem tracked_gone {r : Role} {c d : Core} (h : Gone r c d)
    (hr : r = .swap → c.running .swap = false) (ht : c.Tracked) : d.Tracked := by
  refine ⟨fun hf => ?_, fun hmem => ?_⟩
  · cases r with
    | flash => exact h.process
    | scan => exact (h.other .flash (by decide)).trans (ht.flash (h.flashing ▸ hf))
    | swap => exact (h.other .flash (by decide)).trans (ht.flash (h.flashing ▸ hf))
  · rcases h.letGo .swap hmem with hmem | ⟨heq, hrun⟩
    · exact ht.swap hmem
    · rw [← heq, hr heq.symm] at hrun
      cases hrun

theorem tracked_handle (ht : f.core.Tracked) : (f.handle e.1 e.2).core.Tracked := by
  obtain ⟨host, e⟩ := e
  have hended (r : Role) : (f.ended r).core.Tracked := by
    rw [core_ended]
    cases r with
    | flash =>
      refine ⟨fun hf => ?_, ht.swap⟩
      show Option.map _ f.flashProcess = none
      rw [show f.flashProcess = none from ht.flash hf]
      rfl
    | scan => exact ⟨ht.flash, ht.swap⟩
    | swap => exact ⟨ht.flash, ht.swap⟩
  have hfinished (r : Role) (x : Exit) (g : DfuFlasher) (hg : g.core.Tracked)
      (hswap : r = .swap → g.core.running .swap = false) :
      (g.onFinished host r x).core.Tracked := by
    cases r with
    | scan => exact tracked_gone (onScanFinished_gone g x) (fun h => by cases h) hg
    | flash =>
      obtain ⟨k, hk, hgone⟩ := onFlashFinished_core host g x
      show (g.onFlashFinished host x).core.Tracked
      rw [hk]
      exact tracked_startScanning k host ⟨fun _ => hgone.process, fun hmem =>
        (hgone.letGo .swap hmem).elim hg.swap fun h => by cases h.1⟩
    | swap =>
      obtain ⟨k, hk, hgone⟩ := onSwapBankFinished_core host g x
      show (g.onSwapBankFinished host x).core.Tracked
      rw [hk]
      exact tracked_startScanning k host (tracked_gone hgone hswap hg)
  have htool : (f.core.tool host).Tracked := ⟨ht.flash, ht.swap⟩
  have hrefused {g : DfuFlasher} (h : g.core = f.core ∨ g.core = f.core.tool host) :
      g.core.Tracked := by
    rcases h with h | h
    · exact h ▸ ht
    · exact h ▸ htool
  cases e with
  | startScanning => exact tracked_startScanning f host ht
  | stopScanning w =>
    exact tracked_gone (stopScanning_gone host f w) (fun h => by cases h) ⟨ht.flash, ht.swap⟩
  | scanOnce => exact tracked_started (scanOnce_started host f) ht
  | tick =>
    show (if f.scanTimer then f.scanOnce host else f).core.Tracked
    split
    · exact tracked_started (scanOnce_started host f) ht
    · exact ht
  | startFlash binFilePath target w =>
    show (f.startFlash host binFilePath target w).core.Tracked
    cases h : f.flashRefusal host binFilePath with
    | some message => exact hrefused (startFlash_refused host f w h)
    | none =>
      obtain ⟨g, hgone, hcore⟩ := startFlash_core host f target w h
      rw [hcore]
      have hg : g.core.Tracked :=
        tracked_gone hgone (fun h => by cases h) ⟨ht.flash, ht.swap⟩
      exact ⟨fun hf => (by cases hf), hg.swap⟩
  | swapBank w =>
    show (f.swapBank host w).core.Tracked
    cases h : f.swapRefusal host with
    | some message => exact hrefused (swapBank_refused host f w h)
    | none =>
      obtain ⟨g, p, hgone, hcore⟩ := swapBank_core host f w h
      have hg : g.core.Tracked :=
        tracked_gone hgone (fun h => by cases h) ⟨ht.flash, ht.swap⟩
      rw [hcore]
      exact ⟨hg.flash, hg.swap⟩
  | cancel w =>
    show (f.cancel host w).core.Tracked
    cases hf : f.flashing with
    | true =>
      obtain ⟨g, hcore, hgone⟩ := cancel_core host f w hf
      rw [hcore]
      exact tracked_startScanning g host ⟨fun _ => hgone.process, fun hmem =>
        (hgone.letGo .swap hmem).elim ht.swap fun h => by cases h.1⟩
    | false =>
      rw [cancel_idle host f w (ht.flash hf) hf]
      exact ht
  | flashOutput raw =>
    show (if f.running .flash then f.onFlashOutput raw else f).core.Tracked
    split
    · rw [core_blind.onFlashOutput]
      exact ht
    · exact ht
  | finished r x =>
    show (if f.running r then (f.ended r).onFinished host r x else f).core.Tracked
    split
    · refine hfinished r x _ (hended r) ?_
      rintro rfl
      exact ended_any f .swap
    · exact ht
  | late r x =>
    show (if r ∈ f.letGo then
      { f with letGo := f.letGo.erase r }.onFinished host r x else f).core.Tracked
    split
    · rename_i hmem
      refine hfinished r x _ ⟨ht.flash, fun h => ht.swap (List.mem_of_mem_erase h)⟩ ?_
      rintro rfl
      exact absurd hmem ht.swap
    · exact ht

theorem setProcess_atMostOne {r : Role} {p : Option Process} {c : Core}
    (hp : p.any Process.running = false) (hP : c.AtMostOne) : (c.setProcess r p).AtMostOne := by
  rw [atMostOne_iff] at hP ⊢
  have hidle : (c.setProcess r p).running r = false := by
    cases r <;> exact hp
  cases r with
  | scan => exact ⟨fun hs => (by cases hidle.symm.trans hs), hP.2⟩
  | flash =>
    exact ⟨fun hs => ⟨hidle, (hP.1 hs).2⟩, fun hf => (by cases hidle.symm.trans hf)⟩
  | swap => exact ⟨fun hs => ⟨(hP.1 hs).1, hidle⟩, fun _ => hidle⟩

/-- an end of a flash or of a swap restarts the scans -/
theorem onFinished_iff (host : ToolHost) {f : DfuFlasher} {r : Role} {x : Exit}
    (hP : f.core.AtMostOne) : (f.onFinished host r x).core.AtMostOne ↔
      match r with
      | .scan => True
      | .flash => f.scanning = false → f.core.ScanDue host → f.running .swap = false
      | .swap => f.scanning = false → f.core.ScanDue host → f.running .flash = false := by
  cases r with
  | scan => exact iff_of_true (gone_atMostOne (onScanFinished_gone f x) hP) trivial
  | flash =>
    obtain ⟨g, hg, hgone⟩ := onFlashFinished_core host f x
    show (f.onFlashFinished host x).core.AtMostOne ↔ _
    rw [hg, restart_iff hgone (by decide) hP, hgone.running,
      hgone.running_other .swap (by decide)]
    exact ⟨fun h hs hdue => (h hs hdue).2, fun h hs hdue => ⟨rfl, h hs hdue⟩⟩
  | swap =>
    obtain ⟨g, hg, hgone⟩ := onSwapBankFinished_core host f x
    show (f.onSwapBankFinished host x).core.AtMostOne ↔ _
    rw [hg, restart_iff hgone (by decide) hP, hgone.running,
      hgone.running_other .flash (by decide)]
    exact ⟨fun h hs hdue => (h hs hdue).1, fun h hs hdue => ⟨h hs hdue, rfl⟩⟩

/-- **One step.** -/
theorem atMostOne_handle (ht : f.core.Tracked) (hP : f.core.AtMostOne) :
    (f.handle e.1 e.2).core.AtMostOne ↔ Guarded e f := by
  obtain ⟨host, e⟩ := e
  have hrun (r : Role) : f.core.running r = f.running r := by
    cases r <;> rfl
  have hone := atMostOne_iff.mp hP
  have hrefused {g : DfuFlasher} (h : g.core = f.core ∨ g.core = f.core.tool host) :
      g.core.AtMostOne := by
    rcases h with h | h
    · exact h ▸ hP
    · exact h ▸ hP
  cases e with
  | startScanning =>
    cases hs : f.scanning with
    | true =>
      show (f.startScanning host).core.AtMostOne ↔ _
      rw [startScanning_scanning host f hs]
      refine iff_of_true hP fun h => ?_
      rw [h.1] at hs
      cases hs
    | false =>
      refine (started_iff (startScanning_started host f hs) hP).trans ?_
      rw [hrun, hrun]
      exact ⟨fun h hdue => h hdue.2, fun h hdue => h ⟨hs, hdue⟩⟩
  | stopScanning w =>
    exact iff_of_true (gone_atMostOne (stopScanning_gone host f w) hP) trivial
  | scanOnce => exact started_iff (scanOnce_started host f) hP
  | tick =>
    show (if f.scanTimer then f.scanOnce host else f).core.AtMostOne ↔ _
    split
    · rename_i htimer
      refine (started_iff (scanOnce_started host f) hP).trans ?_
      exact ⟨fun h _ => h, fun h => h htimer⟩
    · rename_i htimer
      exact iff_of_true hP fun h => absurd h htimer
  | startFlash binFilePath target w =>
    show (f.startFlash host binFilePath target w).core.AtMostOne ↔ _
    cases h : f.flashRefusal host binFilePath with
    | some message =>
      refine iff_of_true (hrefused (startFlash_refused host f w h)) fun hdue => ?_
      rw [hdue.1] at h
      cases h
    | none =>
      obtain ⟨g, hgone, hcore⟩ := startFlash_core host f target w h
      rw [hcore, atMostOne_iff]
      have hpath : g.helperPath = (f.core.tool host).helperPath := hgone.helperPath
      have hcli : g.useCliDirect = (f.core.tool host).useCliDirect := hgone.useCliDirect
      have hswap : g.core.running .swap = f.running .swap :=
        hgone.running_other .swap (by decide)
      have hscan : g.core.running .scan = false := hgone.running
      constructor
      · intro hg hdue
        rw [← hswap]
        refine hg.2 ?_
        show host.starts _ _ = true
        rw [hpath, hcli]
        exact hdue.2
      · intro hdue
        refine ⟨fun hs => ?_, fun hf => ?_⟩
        · cases hscan.symm.trans hs
        · show g.core.running .swap = false
          rw [hswap]
          refine hdue ⟨h, ?_⟩
          rw [← hpath, ← hcli]
          exact hf
  | swapBank w =>
    show (f.swapBank host w).core.AtMostOne ↔ _
    refine iff_of_true ?_ trivial
    cases h : f.swapRefusal host with
    | some message => exact hrefused (swapBank_refused host f w h)
    | none =>
      obtain ⟨g, p, hgone, hcore⟩ := swapBank_core host f w h
      rw [hcore, atMostOne_iff]
      have hflashing : f.flashing = false := by
        unfold swapRefusal at h
        split at h
        · cases h
        · rename_i hno
          exact Bool.eq_false_iff.mpr fun hf => hno (Or.inl hf)
      have hflash : g.core.flashProcess = none :=
        (hgone.other .flash (by decide)).trans (ht.flash hflashing)
      have hidle : g.core.running .flash = false := by
        unfold Core.running Core.process
        rw [hflash]
        rfl
      refine ⟨fun hs => ?_, fun hf => ?_⟩
      · cases hgone.running.symm.trans hs
      · cases hidle.symm.trans hf
  | cancel w =>
    show (f.cancel host w).core.AtMostOne ↔ _
    cases hf : f.flashing with
    | true =>
      obtain ⟨g, hcore, hgone⟩ := cancel_core host f w hf
      rw [hcore, restart_iff hgone (by decide) hP, hgone.running,
        hgone.running_other .swap (by decide)]
      exact ⟨fun h _ hdue => (h hdue.1 hdue.2).2, fun h hs hdue => ⟨rfl, h hf ⟨hs, hdue⟩⟩⟩
    | false =>
      rw [cancel_idle host f w (ht.flash hf) hf]
      refine iff_of_true hP fun h => ?_
      rw [hf] at h
      cases h
  | flashOutput raw =>
    show (if f.running .flash then f.onFlashOutput raw else f).core.AtMostOne ↔ _
    refine iff_of_true ?_ trivial
    split
    · rw [core_blind.onFlashOutput]
      exact hP
    · exact hP
  | finished r x =>
    show (if f.running r then (f.ended r).onFinished host r x else f).core.AtMostOne ↔ _
    refine iff_of_true ?_ trivial
    split
    · rename_i hr
      have hended : (f.ended r).core.AtMostOne := by
        rw [core_ended]
        exact setProcess_atMostOne (ended_any f r) hP
      refine (onFinished_iff host hended).mpr ?_
      cases r with
      | scan => trivial
      | flash => exact fun _ _ => hone.2 hr
      | swap =>
        intro _ _
        refine Bool.eq_false_iff.mpr fun hf => ?_
        cases (hone.2 hf).symm.trans hr
    · exact hP
  | late r x =>
    show (if r ∈ f.letGo then
      { f with letGo := f.letGo.erase r }.onFinished host r x else f).core.AtMostOne ↔ _
    split
    · rename_i hmem
      refine (onFinished_iff host (f := { f with letGo := f.letGo.erase r }) hP).trans ?_
      cases r with
      | scan => exact Iff.rfl
      | flash => exact ⟨fun h _ hdue => h hdue.1 hdue.2, fun h hs hdue => h hmem ⟨hs, hdue⟩⟩
      | swap => exact absurd hmem ht.swap
    · rename_i hmem
      refine iff_of_true hP ?_
      cases r with
      | flash => exact fun h => absurd h hmem
      | scan => trivial
      | swap => trivial

end

/-! ## Runs -/

theorem guarded_fresh (e : ToolHost × DfuEvent) (f : DfuFlasher) :
    Guarded e f.fresh ↔ Guarded e f := by
  obtain ⟨host, e⟩ := e
  cases e with
  | startFlash binFilePath target w =>
    show (FlashDue host binFilePath target f.fresh → _) ↔ (FlashDue host binFilePath target f → _)
    unfold FlashDue
    rw [flashRefusal_fresh]
    rfl
  | late r x => cases r <;> exact Iff.rfl
  | _ => exact Iff.rfl

/-- **One programmer at a time**, exactly: at most one of the three processes runs in every state
of a run iff each scan and each flash that comes to run finds the others at rest. -/
theorem oneProcess_iff (host : ToolHost) (es : List (ToolHost × DfuEvent)) :
    Run.Throughout step AtMostOne es (make host) ↔ Run.Along step Guarded es (make host) := by
  have hstart : (make host).core.Tracked ∧ (make host).AtMostOne := by
    have hcore : (make host).core =
        { ({} : DfuFlasher).core with
          helperPath := (make host).helperPath
          useCliDirect := (make host).useCliDirect } := by
      unfold make resolveHelperPath
      split
      · rfl
      · split <;> rfl
    refine ⟨?_, ?_⟩
    · rw [hcore]
      exact ⟨fun _ => rfl, List.not_mem_nil⟩
    · show (make host).core.AtMostOne
      rw [hcore]
      exact Nat.zero_le 1
  refine Run.throughout_iff_along step (I := fun f => f.core.Tracked)
    (fun e f ht => tracked_handle e f.fresh ht) (fun e f ht hP => ?_) es _ hstart.1 hstart.2
  exact (atMostOne_handle e f.fresh ht hP).trans (guarded_fresh e f)

/-- the device is found, a flash started, and the main window starts the scans again -/
theorem scan_duringFlash :
    ¬ (Run.exec step
      ([.startScanning, .finished .scan { exitCode := 0, output := Device.utf8 "DEVICE:USB1|20\n" },
        .startFlash "C:/M1/m1.bin" "inactive" {}, .startScanning].map fun e =>
          (ToolHost.withHelper, e)) (make ToolHost.withHelper)).AtMostOne := by
  decide +kernel

end QMon.Updater
