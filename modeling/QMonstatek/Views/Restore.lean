import QMonstatek.Lib.Stages
import QMonstatek.Views.FactoryRestore

/-!
# The factory restore, over whole runs

`Waits run v`   the stage the view is in has its flash under way, as `run` says of the flashes.

`restore_waits`: in every run the flash a stage waits for is active in the device.
-/

namespace QMon.Restore
open Device Views Run

structure Waits (run : Task → Prop) (v : FactoryRestore) : Prop where
  busy : v.busy = v.phase.task?.isSome
  flashing : ∀ t, v.phase.task? = some t → run t
  closed : v.doneDialog = true ∨ v.espDoneDialog = true → v.phase.task? = none

/-- the flashes active in the device -/
def Restoring.flashes (x : Restoring) (t : Task) : Prop := x.dev.Active t.operation

section
variable (extract : String → String) {run run' : Task → Prop} {v v' : FactoryRestore}

theorem Waits.mono (w : Waits run v) (h : ∀ t, v.phase.task? = some t → run t → run' t) :
    Waits run' v := ⟨w.busy, fun t ht => h t ht (w.flashing t ht), w.closed⟩

theorem Waits.same (w : Waits run v) (h : SameStage v v') : Waits run v' where
  busy := h.busy.trans (w.busy.trans (by rw [h.phase]))
  flashing t ht := w.flashing t (by rw [← h.phase]; exact ht)
  closed hd := by
    rw [h.phase]
    refine w.closed ?_
    rw [← h.dialogs.1, ← h.dialogs.2]
    exact hd

theorem waits_of_rest (hb : v.busy = false) (hp : v.phase.task? = none) : Waits run v where
  busy := by rw [hb, hp]; rfl
  flashing t ht := absurd (hp.symm.trans ht) (by simp)
  closed _ := hp

theorem Waits.closed_of_busy (w : Waits run v) {t : Task} (h : v.phase.task? = some t) :
    v.doneDialog = false ∧ v.espDoneDialog = false := by
  have hclosed : ¬ (v.doneDialog = true ∨ v.espDoneDialog = true) := fun hd => by
    rw [w.closed hd] at h
    exact absurd h (by simp)
  simpa using hclosed

/-! ## Signals -/

theorem hear_waits {s : Signal} {sig : List Signal}
    (w : Waits (fun t => run t ∨ ∃ s' ∈ s :: sig, Ends t s') v) :
    Waits (fun t => (run t ∨ ∃ c, (v.hear extract s).2 = some c ∧ t.asked (.call c) ≠ 0) ∨
      ∃ s' ∈ sig, Ends t s') (v.hear extract s).1 := by
  have heard := hear_heard extract s v
  generalize v.hear extract s = r at heard
  cases heard with
  | same v' h waits =>
    refine Waits.same (Waits.mono w fun t ht hrun => ?_) h
    rcases hrun with hrun | ⟨s', hs', hends⟩
    · exact .inl (.inl hrun)
    · rcases List.mem_cons.mp hs' with rfl | hs'
      · exact absurd hends (waits t ht)
      · exact .inr ⟨s', hs', hends⟩
  | halted v' h => exact waits_of_rest h.busy (by rw [h.phase]; rfl)
  | espDone heard before mode => exact waits_of_rest rfl rfl
  | finished heard before => exact waits_of_rest rfl rfl
  | swap v' heard before h => exact waits_of_rest h.busy (by rw [h.phase]; rfl)
  | next statusMsg heard before mode =>
    obtain ⟨hd, he⟩ := w.closed_of_busy (t := .espUpdate) (by rw [before]; rfl)
    refine ⟨rfl, fun t ht => ?_, fun h => ?_⟩
    · obtain rfl := Option.some.inj ht
      exact .inl (.inr ⟨_, rfl, Nat.one_ne_zero⟩)
    · rcases h with h | h
      · exact absurd (hd.symm.trans h) Bool.noConfusion
      · exact absurd (he.symm.trans h) Bool.noConfusion

/-- a signal that reports nothing done leads nowhere but back -/
theorem hear_undone_stage {s : Signal} (hs : s.isDone = false) :
    SameStage v (v.hear extract s).1 ∨ Halted v (v.hear extract s).1 := by
  have heard := hear_heard extract s v
  generalize v.hear extract s = r at heard
  cases heard with
  | same v' h waits => exact .inl h
  | halted v' h => exact .inr h
  | espDone heard before mode => exact absurd (heard ▸ hs) (by decide)
  | next statusMsg heard before mode => exact absurd (heard ▸ hs) (by decide)
  | swap v' heard before h => exact absurd (heard ▸ hs) (by decide)
  | finished heard before => exact absurd (heard ▸ hs) (by decide)

variable {extract} in
theorem hear_call_undone {s : Signal} {c : Call} (h : (v.hear extract s).2 = some c) (d : Dev) :
    Undone (Device.step (.call c) d) := by
  have heard := hear_heard extract s v
  generalize v.hear extract s = r at heard h
  cases heard with
  | next statusMsg heard before mode =>
    obtain rfl := Option.some.inj h
    exact startFwUpdate_undone _ d
  | swap v' heard before h' =>
    obtain rfl := Option.some.inj h
    exact swapBanks_undone d
  | _ => exact absurd h (by simp)

end

variable {x y z : Restoring}

/-! ## The flash of a stage -/

/-- the signals of a call that answers a signal -/
theorem answer_waits {c : Call} {pend : Task → Prop}
    (undone : Undone (Device.step (.call c) x.dev))
    (w : Waits (fun t => (x.flashes t ∨ t.asked (.call c) ≠ 0) ∨ pend t) x.view) :
    Waits (fun t => (x.answer c).flashes t ∨ pend t) (x.answer c).view := by
  let dev := Device.step (.call c) x.dev
  let Told (sig : List Signal) (v : FactoryRestore) : Prop :=
    (∀ s ∈ sig, s.isDone = false) ∧
      Waits (fun t => (dev.Active t.operation ∨ pend t) ∨ ∃ s ∈ sig, Ends t s) v
  have w1 : Told (signals dev) x.view := by
    refine ⟨undone, w.mono fun t _ hrun => ?_⟩
    rcases hrun with hrun | hpend
    · exact (goes_on t (.call c) x.dev hrun).imp .inl id
    · exact .inl (.inr hpend)
  have told (s : Signal) (sig : List Signal) (v : FactoryRestore) (h : Told (s :: sig) v) :
      Told sig (v.hear x.extract s).1 := by
    refine ⟨fun s' hs' => h.1 s' (List.mem_cons_of_mem _ hs'),
      (hear_waits x.extract h.2).mono fun t _ hrun => ?_⟩
    rcases hrun with (hrun | ⟨c', hc', -⟩) | hrun
    · exact .inl hrun
    · rw [hear_undone (h.1 s List.mem_cons_self)] at hc'
      exact absurd hc' (by simp)
    · exact .inr hrun
  have hrest := exec_rest (fun s v => (v.hear x.extract s).1) (I := Told) told (signals dev)
    x.view w1
  refine hrest.2.mono fun t _ h => ?_
  rcases h with h | ⟨s, hs, -⟩
  · exact h
  · exact absurd hs List.not_mem_nil

theorem device_waits (e : Event)
    (w : Waits (fun t => x.flashes t ∨ t.asked e ≠ 0) x.view) :
    Waits (x.device e).flashes (x.device e).view := by
  let x1 : Restoring := { x with dev := Device.step e x.dev }
  have w1 : Waits (fun t => x1.flashes t ∨ ∃ s ∈ signals x1.dev, Ends t s) x1.view :=
    w.mono fun t _ hrun => goes_on t e x.dev hrun
  have told (s : Signal) (sig : List Signal) (y : Restoring)
      (h : Waits (fun t => y.flashes t ∨ ∃ s' ∈ s :: sig, Ends t s') y.view) :
      Waits (fun t => (y.hear s).flashes t ∨ ∃ s' ∈ sig, Ends t s') (y.hear s).view := by
    have hw := hear_waits y.extract h
    have hundone (c : Call) (hc : (y.view.hear y.extract s).2 = some c) :=
      hear_call_undone hc y.dev
    unfold Restoring.hear
    generalize y.view.hear y.extract s = r at hw hundone
    obtain ⟨v', c | c⟩ := r
    · refine hw.mono fun t _ hrun => ?_
      rcases hrun with (hrun | ⟨c', hc', -⟩) | hrun
      · exact .inl hrun
      · exact absurd hc' (by simp)
      · exact .inr hrun
    · refine answer_waits (x := { y with view := v' }) (hundone c rfl) (hw.mono fun t _ hrun => ?_)
      rcases hrun with (hrun | ⟨c', hc', hasked⟩) | hrun
      · exact .inl (.inl hrun)
      · obtain rfl := Option.some.inj hc'
        exact .inl (.inr hasked)
      · exact .inr hrun
  have hrest := exec_rest Restoring.hear (I := fun sig y =>
    Waits (fun t => y.flashes t ∨ ∃ s ∈ sig, Ends t s) y.view) told (signals x1.dev) x1 w1
  refine hrest.mono fun t _ h => ?_
  rcases h with h | ⟨s, hs, -⟩
  · exact h
  · exact absurd hs List.not_mem_nil

/-! ## The user -/

/-- what the user's start of a stage does to the view -/
inductive Begun (extract : String → String) (v : FactoryRestore) :
    FactoryRestore × Option Call → Prop
  | refused : Begun extract v (v, none)
  | host (statusMsg path : String) :
      Begun extract v (v.stage .host statusMsg, some (.startFwUpdate path))
  | m1 (statusMsg : String) (mode : v.restoreMode = .m1) :
      Begun extract v (({ v with pendingM1 := "" }).stage .m1 statusMsg,
        some (.startFwUpdate (extract v.version.m1)))
  | esp (statusMsg : String) (mode : v.restoreMode ≠ .m1) :
      Begun extract v
        (({ v with pendingM1 := if v.restoreMode = Mode.full then v.version.m1 else "" }).stage
          .esp statusMsg, some (.startEspUpdate (extract v.version.esp) 0 false))

theorem startStage1_begun (extract : String → String) (v : FactoryRestore) :
    Begun extract v (v.startStage1 extract) := by
  unfold FactoryRestore.startStage1
  dsimp only
  split
  · exact .refused
  · exact .host _ _

theorem startStage2_begun (extract : String → String) (v : FactoryRestore) :
    Begun extract v (v.startStage2 extract) := by
  unfold FactoryRestore.startStage2
  dsimp only
  split
  next hm =>
    split
    · exact .refused
    · exact .m1 _ hm
  next hm =>
    split
    · exact .refused
    · exact .esp _ hm

theorem start_call_undone {extract : String → String} {v : FactoryRestore}
    {r : FactoryRestore × Option Call} (h : Begun extract v r) {c : Call} (hc : r.2 = some c)
    (d : Dev) : Undone (Device.step (.call c) d) := by
  cases h with
  | refused => exact absurd hc (by simp)
  | esp statusMsg mode =>
    obtain rfl := Option.some.inj hc
    exact startEspUpdate_undone _ 0 false d
  | _ =>
    obtain rfl := Option.some.inj hc
    exact startFwUpdate_undone _ d

theorem start_waits {r : FactoryRestore × Option Call} (hfree : x.view.free = true)
    (w : Waits x.flashes x.view) (begun : Begun x.extract x.view r) :
    Waits (x.start r).flashes (x.start r).view := by
  have hnot : x.view.doneDialog = false ∧ x.view.espDoneDialog = false := by
    unfold FactoryRestore.free at hfree
    simp only [Bool.and_eq_true, Bool.not_eq_true'] at hfree
    exact ⟨hfree.1.2, hfree.2⟩
  have hundone (c : Call) (hc : r.2 = some c) := start_call_undone begun hc x.dev
  -- the flash of the stage is the one the call asks for
  have called {v : FactoryRestore} {c : Call} {t : Task} (hr : r = (v, some c))
      (hv : v.busy = true) (ht : v.phase.task? = some t) (hc : t.asked (.call c) ≠ 0)
      (hd : v.doneDialog = x.view.doneDialog ∧ v.espDoneDialog = x.view.espDoneDialog) :
      Waits (x.start r).flashes (x.start r).view := by
    subst hr
    have w1 : Waits (fun t => (x.flashes t ∨ t.asked (.call c) ≠ 0) ∨ False) v := by
      refine ⟨by rw [hv, ht]; rfl, fun t' ht' => ?_, fun hopen => ?_⟩
      · obtain rfl := Option.some.inj (ht.symm.trans ht')
        exact .inl (.inr hc)
      · rcases hopen with ho | ho
        · exact absurd (hnot.1.symm.trans (hd.1.symm.trans ho)) Bool.noConfusion
        · exact absurd (hnot.2.symm.trans (hd.2.symm.trans ho)) Bool.noConfusion
    have h := answer_waits (x := { x with view := v }) (hundone c rfl) w1
    exact h.mono fun t _ hrun => hrun.resolve_right id
  cases begun with
  | refused => exact w
  | host statusMsg path => exact called rfl rfl rfl Nat.one_ne_zero ⟨rfl, rfl⟩
  | m1 statusMsg mode => exact called rfl rfl rfl Nat.one_ne_zero ⟨rfl, rfl⟩
  | esp statusMsg mode => exact called rfl rfl rfl Nat.one_ne_zero ⟨rfl, rfl⟩

/-! ## Every state of a run -/

theorem step_waits (a : Act) (x : Restoring) (w : Waits x.flashes x.view) :
    Waits (x.step a).flashes (x.step a).view := by
  have event (e : Event) {y : Restoring} (wy : Waits y.flashes y.view) :
      Waits (y.device e).flashes (y.device e).view :=
    device_waits e (wy.mono fun _ _ h => .inl h)
  unfold Restoring.step
  cases a with
  | device e => exact event e w
  | assets extract => exact w
  | selectVersion i =>
    dsimp only
    split
    · exact ⟨w.busy, w.flashing, w.closed⟩
    · exact w
  | setMode mode =>
    dsimp only
    split
    · exact ⟨w.busy, w.flashing, w.closed⟩
    · exact w
  | startStage1 =>
    dsimp only
    split
    next hfree => exact start_waits hfree w (startStage1_begun _ _)
    next => exact w
  | startStage2 =>
    dsimp only
    split
    next hfree => exact start_waits hfree w (startStage2_begun _ _)
    next => exact w
  | rebootDevice => exact waits_of_rest rfl rfl
  | stallTimer =>
    unfold FactoryRestore.onStallTimer
    dsimp only
    split
    · exact ⟨w.busy, w.flashing, w.closed⟩
    · exact w
  | accepted =>
    dsimp only
    split
    next hd =>
      refine event _ (waits_of_rest ?_ rfl)
      show x.view.busy = false
      rw [w.busy, w.closed (.inl hd)]
      rfl
    next => exact w
  | espAccepted =>
    dsimp only
    split
    next hd =>
      refine waits_of_rest ?_ rfl
      show x.view.busy = false
      rw [w.busy, w.closed (.inr hd)]
      rfl
    next => exact w
  | closeError => exact ⟨w.busy, w.flashing, w.closed⟩

/-- **The flash a stage waits for is active in the device**, in every state of every run; and the
view is busy just in such a stage. -/
theorem restore_waits (as : List Act) :
    Waits (exec Restoring.step as {}).flashes (exec Restoring.step as {}).view :=
  exec_inv Restoring.step (I := fun x => Waits x.flashes x.view) step_waits as {}
    (waits_of_rest rfl rfl)

end QMon.Restore
