import QMonstatek.Lib.Run
import QMonstatek.Updater.Processes
import QMonstatek.Updater.SwdRecovery

/-!
# Cancelling a process

`DfuFlasher.nullUses`, `SwdRecovery.nullUses`   the calls through a null pointer;
`Settled r f`, `SwdSettled g`   no such call was made, and the pointer is null.

`cancelled_iff`: `stopScanning` and both `cancel` leave their object settled, with the flag down,
iff the process does not end within the wait.  Where it does, the handler of `finished` runs
inside `waitForFinished` and has set the pointer to null when `deleteLater()` is called through it.
-/

namespace QMon.Updater

def DfuOut.isNullUse : DfuOut → Bool
  | .nullUse _ => true
  | _ => false

def DfuFlasher.nullUses (f : DfuFlasher) : List DfuOut := f.out.filter DfuOut.isNullUse

def SwdRecovery.nullUses (g : SwdRecovery) : List SwdOut := g.out.filter (· == .nullUse)

structure Settled (r : Role) (f : DfuFlasher) : Prop where
  noNullUse : f.nullUses = []
  pointer : f.process r = none

structure SwdSettled (g : SwdRecovery) : Prop where
  noNullUse : g.nullUses = []
  pointer : g.process = none

/-! ## The flasher -/

namespace DfuFlasher

section
variable (f : DfuFlasher)

theorem nullUses_put (o : DfuOut) :
    (f.put o).nullUses = f.nullUses ++ [o].filter DfuOut.isNullUse :=
  List.filter_append ..

theorem nullUses_quiet {o : DfuOut} (h : o.isNullUse = false) :
    (f.put o).nullUses = f.nullUses := by
  rw [nullUses_put, List.filter_cons_of_neg (by rw [h]; exact Bool.false_ne_true), List.filter_nil,
    List.append_nil]

theorem nullUses_blind : Blind nullUses where
  put f o ho := nullUses_quiet f (by
    cases o with
    | nullUse r => exact absurd rfl (ho r)
    | _ => rfl)
  told _ _ _ _ _ _ := rfl

theorem nullUses_scanOnce (host : ToolHost) : (f.scanOnce host).nullUses = f.nullUses := by
  have htool : (f.isToolAvailable host).nullUses = f.nullUses := by
    unfold isToolAvailable resolveHelperPath
    split
    · split
      · rfl
      · split <;> rfl
    · rfl
  unfold scanOnce
  dsimp only
  split
  · rw [nullUses_blind.setDfuDeviceFound, nullUses_blind.setStatus, htool]
  split
  · exact htool
  · unfold start
    rw [nullUses_quiet _ rfl]
    exact htool

theorem nullUses_startScanning (host : ToolHost) :
    (f.startScanning host).nullUses = f.nullUses := by
  unfold startScanning
  split
  · rfl
  · refine (nullUses_scanOnce _ host).trans ?_
    exact nullUses_quiet _ rfl

theorem nullUses_release {r : Role} (h : f.process r ≠ none) :
    (f.release r).nullUses = f.nullUses := by
  unfold release
  split
  · rename_i hnone
    exact absurd hnone h
  · cases r <;> rfl

theorem nullUses_release_null {r : Role} (h : f.process r = none) :
    (f.release r).nullUses ≠ [] := by
  rw [release_null f h, nullUses_put]
  exact List.append_ne_nil_of_right_ne_nil _ (List.cons_ne_nil _ _)

end

section
variable (host : ToolHost) (w : Wait) (f : DfuFlasher)

/-- every handler of `finished` leaves its member null -/
theorem onFinished_process (r : Role) (x : Exit) :
    (f.onFinished host r x).process r = none := by
  cases r with
  | scan => exact (onScanFinished_gone f x).process
  | flash =>
    obtain ⟨g, hg, hgone⟩ := onFlashFinished_core host f x
    show (f.onFlashFinished host x).flashProcess = none
    rw [hg, (startScanning_kept host g).1]
    exact hgone.process
  | swap =>
    obtain ⟨g, hg, hgone⟩ := onSwapBankFinished_core host f x
    show (f.onSwapBankFinished host x).swapProcess = none
    rw [hg, (startScanning_kept host g).2.1]
    exact hgone.process

theorem release_process (r : Role) : (f.release r).process r = none :=
  (core_process _ r).symm.trans (release_gone f r).process

/-- **Stopping a process**, exactly. -/
theorem stopProcess_settled (r : Role) (h0 : f.nullUses = []) :
    Settled r (f.stopProcess host r w) ↔ (f.running r = true → w.ended = none) := by
  unfold stopProcess running
  cases hp : f.process r with
  | none => exact iff_of_true ⟨h0, hp⟩ fun h => by cases h
  | some p =>
    dsimp only
    by_cases hrun : p.running = true
    · rw [if_pos hrun]
      have hsig := nullUses_blind.signals f r w.signals
      have hcore := core_blind.signals f r w.signals
      unfold waitForFinished
      dsimp only
      generalize w.signals.foldl (fun f s => f.onSignal r s) f = g at hsig hcore
      cases w.ended with
      | none =>
        have hsome : g.process r ≠ none := by
          rw [← core_process, hcore, core_process, hp]
          exact Option.some_ne_none p
        refine iff_of_true ⟨?_, release_process _ r⟩ fun _ => rfl
        exact (nullUses_release g hsome).trans (hsig.trans h0)
      | some x =>
        -- the handler of the end has run
        refine iff_of_false (fun h => ?_) fun h => by cases h hrun
        exact nullUses_release_null _ (onFinished_process host _ r x) h.noNullUse
    · rw [if_neg hrun]
      have hsome : f.process r ≠ none := by
        rw [hp]
        exact Option.some_ne_none p
      exact iff_of_true ⟨(nullUses_release f hsome).trans h0, release_process f r⟩
        fun h => absurd h hrun

theorem stopScanning_settled : Settled .scan (f.fresh.stopScanning host w) ↔
    (f.running .scan = true → w.ended = none) := by
  refine Iff.trans ?_ (stopProcess_settled host w { f.fresh with scanTimer := false } .scan rfl)
  unfold stopScanning
  dsimp only
  generalize ({ f.fresh with scanTimer := false } : DfuFlasher).stopProcess host .scan w = g
  split
  · exact ⟨fun h => ⟨(nullUses_quiet _ rfl).symm.trans h.noNullUse, h.pointer⟩,
      fun h => ⟨(nullUses_quiet _ rfl).trans h.noNullUse, h.pointer⟩⟩
  · exact Iff.rfl

theorem endFlash_settled : Settled .flash (f.endFlash host) ↔ Settled .flash f := by
  unfold endFlash
  split
  · have hnull : ∀ g : DfuFlasher, (g.startScanning host).nullUses = g.nullUses :=
      fun g => nullUses_startScanning g host
    have hflash : ∀ g : DfuFlasher, (g.startScanning host).process .flash = g.flashProcess :=
      fun g => (startScanning_kept host g).1
    have hkept : ∀ g : DfuFlasher, g.nullUses = f.nullUses → g.flashProcess = f.flashProcess →
        (Settled .flash (g.startScanning host) ↔ Settled .flash f) := by
      intro g hn hp
      constructor
      · intro h
        exact ⟨hn.symm.trans ((hnull g).symm.trans h.noNullUse),
          hp.symm.trans ((hflash g).symm.trans h.pointer)⟩
      · intro h
        exact ⟨(hnull g).trans (hn.trans h.noNullUse), (hflash g).trans (hp.trans h.pointer)⟩
    refine hkept _ ?_ ?_
    · rw [nullUses_blind.setStatus, nullUses_quiet _ rfl, nullUses_quiet _ rfl]
      rfl
    · exact congrArg Core.flashProcess (core_setStatus _ _)
  · exact Iff.rfl

theorem endFlash_flashing : (f.endFlash host).flashing = false := by
  unfold endFlash
  split
  · refine ((startScanning_kept host _).2.2.1).trans ?_
    exact congrArg Core.flashing (core_setStatus _ _)
  · rename_i h
    exact Bool.eq_false_iff.mpr h

theorem cancel_settled : Settled .flash (f.fresh.cancel host w) ↔
    (f.running .flash = true → w.ended = none) :=
  (endFlash_settled host _).trans (stopProcess_settled host w f.fresh .flash rfl)

theorem stopScanning_scanning : (f.stopScanning host w).scanning = false :=
  (stopScanning_gone host f w).scanning

end

end DfuFlasher

/-! ## The recovery -/

namespace SwdRecovery

section
variable (g : SwdRecovery)

/-- what the texts leave alone -/
structure Quiet (g h : SwdRecovery) : Prop where
  nullUses : h.nullUses = g.nullUses
  process : h.process = g.process

theorem Quiet.refl : Quiet g g := ⟨rfl, rfl⟩

theorem Quiet.trans {g h k : SwdRecovery} (h₁ : Quiet g h) (h₂ : Quiet h k) : Quiet g k :=
  ⟨h₂.nullUses.trans h₁.nullUses, h₂.process.trans h₁.process⟩

theorem quiet_put {k : SwdRecovery} (o : SwdOut) (h : o ≠ .nullUse) (hout : k.out = g.out)
    (hp : k.process = g.process) : Quiet g (k.put o) := by
  refine ⟨?_, hp⟩
  show (k.out ++ [o]).filter _ = _
  rw [List.filter_append, List.filter_cons_of_neg (by simpa using h), List.filter_nil,
    List.append_nil, hout]
  rfl

/-- a signal and nothing else -/
theorem quiet_say (o : SwdOut) (h : o ≠ .nullUse) : Quiet g (g.put o) := quiet_put g o h rfl rfl

theorem quiet_setStatus (msg : String) : Quiet g (g.setStatus msg) := by
  unfold setStatus
  split
  · exact quiet_put g (.statusMessageChanged msg) (by simp) rfl rfl
  · exact Quiet.refl g

theorem quiet_appendLog (text : String) : Quiet g (g.appendLog text) :=
  quiet_put g .outputLogChanged (by simp) rfl rfl

theorem quiet_setProgress (pct : Int) : Quiet g (g.setProgress pct) :=
  quiet_put g (.progressChanged pct) (by simp) rfl rfl

theorem quiet_stage (pct : Int) (text : String) : Quiet g (g.stage pct text) :=
  (quiet_setProgress g pct).trans (quiet_setStatus _ _)

theorem quiet_showBank (swapBankSet : Bool) : Quiet g (g.showBank swapBankSet) :=
  (quiet_appendLog g _).trans (quiet_setStatus _ _)

theorem quiet_readCubeLine (line : List Char) : Quiet g (g.readCubeLine line) := by
  unfold readCubeLine
  extract_lets g₁ g₂
  have h₁ : Quiet g g₁ := by
    unfold g₁
    repeat' split
    all_goals first
      | exact quiet_stage g _ _
      | exact quiet_setProgress g _
      | exact Quiet.refl g
  have h₂ : Quiet g₁ g₂ := by
    unfold g₂
    split
    · exact quiet_setProgress g₁ _
    · exact Quiet.refl g₁
  refine (h₁.trans h₂).trans ?_
  split
  · split
    · exact quiet_showBank g₂ _
    · exact Quiet.refl g₂
  · exact Quiet.refl g₂

theorem quiet_readOcdLine (line : List Char) : Quiet g (g.readOcdLine line) := by
  unfold readOcdLine
  extract_lets g₁
  have h₁ : Quiet g g₁ := by
    unfold g₁
    repeat' split
    all_goals first
      | exact quiet_stage g _ _
      | exact quiet_setProgress g _
      | exact Quiet.refl g
  refine h₁.trans ?_
  split
  · split
    · exact quiet_showBank g₁ _
    · exact Quiet.refl g₁
  · exact Quiet.refl g₁

theorem quiet_readLines (lines : List (List Char)) :
    Quiet g (lines.foldl (fun g line => g.readLine line) g) := by
  induction lines generalizing g with
  | nil => exact Quiet.refl g
  | cons line lines ih =>
    refine Quiet.trans ?_ (ih (g.readLine line))
    unfold readLine
    split
    · exact quiet_readCubeLine g line
    · exact quiet_readOcdLine g line

theorem quiet_onErrorOccurred (host : ToolHost) (cubeProg : Bool) (error : ProcessError) :
    Quiet g (g.onErrorOccurred host cubeProg error) := by
  have hlog := quiet_appendLog g ("\nERROR: " ++ errorText host cubeProg error ++ "\n")
  unfold onErrorOccurred
  dsimp only
  generalize g.appendLog ("\nERROR: " ++ errorText host cubeProg error ++ "\n") = k at hlog
  split
  · have hput : Quiet k ({ k with running := false }.put (.runningChanged false)) :=
      quiet_put k (.runningChanged false) (by simp) rfl rfl
    refine Quiet.trans ?_ (quiet_say _ _ (by simp))
    exact hlog.trans (hput.trans (quiet_setStatus _ _))
  · exact hlog

theorem quiet_signals (host : ToolHost) (signals : List ProcessSignal) :
    Quiet g (signals.foldl (fun g s => g.onSignal host g.usingCubeProg s) g) := by
  induction signals generalizing g with
  | nil => exact Quiet.refl g
  | cons s signals ih =>
    refine Quiet.trans ?_ (ih (g.onSignal host g.usingCubeProg s))
    unfold onSignal
    split
    · unfold onProcessOutput
      split
      · exact Quiet.refl g
      · exact (quiet_appendLog g _).trans (quiet_readLines _ _)
    · exact quiet_onErrorOccurred g host g.usingCubeProg _

theorem release_process : g.release.process = none := by
  unfold release
  split
  · rename_i hnone
    exact hnone
  · rfl

theorem release_null (h : g.process = none) : g.release.nullUses ≠ [] := by
  unfold release
  rw [h]
  show (g.out ++ [SwdOut.nullUse]).filter _ ≠ []
  rw [List.filter_append]
  exact List.append_ne_nil_of_right_ne_nil _ (List.cons_ne_nil _ _)

theorem release_nullUses (h : g.process ≠ none) : g.release.nullUses = g.nullUses := by
  unfold release
  split
  · rename_i hnone
    exact absurd hnone h
  · rfl

theorem quiet_report (x : Exit) : Quiet g (g.report x) := by
  have hput : Quiet g ({ g with running := false }.put (.runningChanged false)) :=
    quiet_put g (.runningChanged false) (by simp) rfl rfl
  unfold report
  dsimp only
  refine hput.trans ?_
  generalize ({ g with running := false }.put (.runningChanged false) : SwdRecovery) = k
  split
  · exact Quiet.trans (quiet_setStatus k _) (quiet_say _ _ (by simp))
  split
  · refine Quiet.trans ?_ (quiet_say _ _ (by simp))
    refine Quiet.trans ?_ (quiet_appendLog _ _)
    exact (quiet_setProgress k 100).trans (quiet_setStatus _ _)
  · refine Quiet.trans ?_ (quiet_say _ _ (by simp))
    exact (quiet_setStatus k _).trans (quiet_appendLog _ _)

theorem onProcessFinished_process (x : Exit) : (g.onProcessFinished x).process = none := by
  unfold onProcessFinished
  rw [(quiet_report _ x).process]
  split
  · exact release_process _
  · rename_i h
    simpa using h

end

section
variable (host : ToolHost) (w : Wait) (g : SwdRecovery)

theorem stopProcess_settled (h0 : g.nullUses = []) : SwdSettled (g.stopProcess host w) ↔
    (g.processRunning = true → w.ended = none) := by
  unfold stopProcess processRunning
  cases hp : g.process with
  | none => exact iff_of_true ⟨h0, hp⟩ fun h => by cases h
  | some p =>
    dsimp only
    by_cases hrun : p.running = true
    · rw [if_pos hrun]
      have hsig := quiet_signals g host w.signals
      unfold waitForFinished
      dsimp only
      generalize w.signals.foldl (fun g s => g.onSignal host g.usingCubeProg s) g = k at hsig
      cases w.ended with
      | none =>
        have hsome : k.process ≠ none := by
          rw [hsig.process, hp]
          exact Option.some_ne_none p
        refine iff_of_true ⟨?_, release_process k⟩ fun _ => rfl
        exact (release_nullUses k hsome).trans (hsig.nullUses.trans h0)
      | some x =>
        refine iff_of_false (fun h => ?_) fun h => by cases h hrun
        exact release_null _ (onProcessFinished_process _ x) h.noNullUse
    · rw [if_neg hrun]
      have hsome : g.process ≠ none := by
        rw [hp]
        exact Option.some_ne_none p
      exact iff_of_true ⟨(release_nullUses g hsome).trans h0, release_process g⟩
        fun h => absurd h hrun

theorem quiet_endOperation : Quiet g g.endOperation := by
  unfold endOperation
  split
  · have hput : Quiet g ({ g with running := false, progress := 0 }.put (.runningChanged false)) :=
      quiet_put g (.runningChanged false) (by simp) rfl rfl
    refine Quiet.trans ?_ (quiet_appendLog _ _)
    refine Quiet.trans ?_ (quiet_setStatus _ _)
    exact hput.trans (quiet_say _ _ (by simp))
  · exact Quiet.refl g

theorem endOperation_running : g.endOperation.running = false := by
  unfold endOperation
  split
  · unfold appendLog setStatus
    split <;> rfl
  · rename_i h
    exact Bool.eq_false_iff.mpr h

theorem cancel_settled : SwdSettled (g.fresh.cancel host w) ↔
    (g.processRunning = true → w.ended = none) := by
  refine Iff.trans ?_ (stopProcess_settled host w g.fresh rfl)
  have hend := quiet_endOperation (g.fresh.stopProcess host w)
  exact ⟨fun h => ⟨hend.nullUses.symm.trans h.noNullUse, hend.process.symm.trans h.pointer⟩,
    fun h => ⟨hend.nullUses.trans h.noNullUse, hend.process.trans h.pointer⟩⟩

end

end SwdRecovery

/-! ## Both -/

/-- **Cancelling**, exactly: each of the three calls leaves its pointer null and its flag down,
and calls nothing through null, iff the process it stops does not end within the wait. -/
theorem cancelled_iff (host : ToolHost) (w : Wait) (f : DfuFlasher) (g : SwdRecovery) :
    ((Settled .scan (DfuFlasher.step (host, .stopScanning w) f) ∧
        (DfuFlasher.step (host, .stopScanning w) f).scanning = false) ↔
      (f.running .scan = true → w.ended = none)) ∧
    ((Settled .flash (DfuFlasher.step (host, .cancel w) f) ∧
        (DfuFlasher.step (host, .cancel w) f).flashing = false) ↔
      (f.running .flash = true → w.ended = none)) ∧
    ((SwdSettled (SwdRecovery.step (host, .cancel w) g) ∧
        (SwdRecovery.step (host, .cancel w) g).running = false) ↔
      (g.processRunning = true → w.ended = none)) := by
  refine ⟨?_, ?_, ?_⟩
  · have hflag := DfuFlasher.stopScanning_scanning host w f.fresh
    exact (and_iff_left hflag).trans (DfuFlasher.stopScanning_settled host w f)
  · have hflag := DfuFlasher.endFlash_flashing host (f.fresh.stopProcess host .flash w)
    exact (and_iff_left hflag).trans (DfuFlasher.cancel_settled host w f)
  · have hflag := SwdRecovery.endOperation_running (g.fresh.stopProcess host w)
    exact (and_iff_left hflag).trans (SwdRecovery.cancel_settled host w g)

/-- a device is plugged in while the first scan runs: the scan is killed and ends at once -/
theorem stopScanning_throughNull :
    DfuOut.nullUse .scan ∈ (Run.exec DfuFlasher.step
      ([.startScanning, .stopScanning
        { ended := some { exitCode := 62097, exitStatus := .crashExit } }].map fun e =>
          (ToolHost.withHelper, e)) (DfuFlasher.make ToolHost.withHelper)).out := by
  decide +kernel

end QMon.Updater
