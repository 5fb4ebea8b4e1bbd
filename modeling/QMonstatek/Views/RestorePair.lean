import Mathlib.Tactic.IntervalCases
import QMonstatek.Views.Restore

/-!
# The two images of a restore are a pair

`plan mode`         the stages of a restore on the host;
`Begins ver mode`   the user starts it, with the version `ver` and the mode chosen;
`Enters ver`        the ESP32 flash is complete, and the M1 image of `ver` is flashed next.

`doneDialog_pair`: the bank swap is offered only after the completion of an M1 flash that ends such
a restore.
-/

namespace QMon.Restore
open Device Views Run Rpc

def plan : Mode → List Phase
  | .full => [.esp, .m1]
  | .m1 => [.m1]
  | .esp => [.esp]

/-- the ESP32 image goes first where it is not the only one -/
theorem plan_esp {mode : Mode} (h : mode ≠ .esp) {n : Nat} (hn : (plan mode)[n]? = some .esp) :
    mode = .full ∧ (plan mode)[n + 1]? = some .m1 := by
  have hlt : n < (plan mode).length := (List.getElem?_eq_some_iff.mp hn).1
  cases mode with
  | full =>
    have hlt : n < 2 := hlt
    interval_cases n
    · exact ⟨rfl, rfl⟩
    · exact absurd (Option.some.inj hn) Phase.noConfusion
  | m1 =>
    have hlt : n < 1 := hlt
    interval_cases n
    exact absurd (Option.some.inj hn) Phase.noConfusion
  | esp => exact absurd rfl h

/-- the M1 image goes last -/
theorem plan_whole {mode : Mode} {n : Nat} (hn : (plan mode)[n]? = some .m1) :
    mode ≠ .esp ∧ (plan mode).take (n + 1) = plan mode := by
  have hlt : n < (plan mode).length := (List.getElem?_eq_some_iff.mp hn).1
  revert hn
  cases mode with
  | full =>
    have hlt : n < 2 := hlt
    interval_cases n <;> decide
  | m1 =>
    have hlt : n < 1 := hlt
    interval_cases n
    decide
  | esp =>
    have hlt : n < 1 := hlt
    interval_cases n
    decide

/-- the call that starts a restore -/
def firstCall (extract : String → String) (ver : Version) : Mode → Call
  | .m1 => .startFwUpdate (extract ver.m1)
  | _ => .startEspUpdate (extract ver.esp) 0 false

/-- where there is an ESP32 image, it comes first -/
theorem firstCall_esp {mode : Mode} (h : mode ≠ .m1) (extract : String → String) (ver : Version) :
    firstCall extract ver mode = .startEspUpdate (extract ver.esp) 0 false := by
  cases mode with
  | m1 => exact absurd rfl h
  | _ => rfl

theorem plan_cons_esp {mode : Mode} (h : mode ≠ .m1) : plan mode = .esp :: (plan mode).tail := by
  cases mode with
  | m1 => exact absurd rfl h
  | _ => rfl

def Begins (ver : Version) (mode : Mode) (_ : Phase) (a : Act) (x : Restoring) : Prop :=
  a = .startStage2 ∧ x.view.version = ver ∧ x.view.restoreMode = mode ∧
    (x.step a).dev = Device.step (.call (firstCall x.extract ver mode)) x.dev

def Enters (ver : Version) (b : Phase) (a : Act) (x : Restoring) : Prop :=
  match b, a with
  | .m1, .device e => .espUpdateComplete ∈ signals (Device.step e x.dev) ∧
      (x.step a).dev =
        Device.step (.call (.startFwUpdate (x.extract ver.m1))) (Device.step e x.dev)
  | _, _ => False

/-- the view flashes a stock image -/
def Phase.stock : Phase → Bool
  | .esp => true
  | .m1 => true
  | _ => false

/-- what a view of the stages keeps of a state -/
structure Seen where
  phase : Phase
  restoreMode : Mode
  pendingM1 : String
  doneDialog : Bool
  dev : Dev
  extract : String → String

def Restoring.seen (x : Restoring) : Seen :=
  ⟨x.view.phase, x.view.restoreMode, x.view.pendingM1, x.view.doneDialog, x.dev, x.extract⟩

/-! ## Signals -/

/-- no stock image is flashed any more -/
def Leaves (sig : List Signal) (b c : Seen) : Prop :=
  c.phase.stock = false ∧ (c.doneDialog = true → b.doneDialog = true ∨
    (b.phase.stock = true ∧ .fwUpdateComplete ∈ sig))

/-- the ESP32 flash is complete, and the M1 flash called for -/
def LeadsOn (s : Signal) (b c : Seen) : Prop :=
  s = .espUpdateComplete ∧ (b.phase = .esp ∧ b.restoreMode ≠ .esp) ∧ c.phase = .m1 ∧
    c.doneDialog = b.doneDialog ∧
    c.dev = Device.step (.call (.startFwUpdate (b.extract b.pendingM1))) b.dev

theorem signals_once : OnceOn Leaves LeadsOn where
  mono hsub h := ⟨h.1, fun hd => (h.2 hd).imp id fun hm => ⟨hm.1, hsub hm.2⟩⟩
  off_off h h' := by
    refine ⟨h'.1, fun hd => ?_⟩
    rcases h'.2 hd with hd | ⟨hp, -⟩
    · exact h.2 hd
    · exact absurd (h.1.symm.trans hp) Bool.false_ne_true
  on_off _ h h' := by
    obtain ⟨-, ⟨hesp, -⟩, -, hdialog, -⟩ := h
    refine ⟨h'.1, fun hd => ?_⟩
    rcases h'.2 hd with hd | ⟨-, hm⟩
    · exact .inl (hdialog.symm.trans hd)
    · exact .inr ⟨by rw [hesp]; rfl, hm⟩
  off_on h h' := by
    rw [Leaves, h'.2.1.1] at h
    exact Bool.noConfusion h.1
  on_on h h' := absurd (h.2.2.1.symm.trans h'.2.1.1) Phase.noConfusion

section
variable {x : Restoring}

theorem SameStage.refl (v : FactoryRestore) : SameStage v v := ⟨rfl, rfl, ⟨rfl, rfl, rfl⟩, rfl, rfl⟩

theorem SameStage.trans {u v w : FactoryRestore} (h : SameStage u v) (h' : SameStage v w) :
    SameStage u w where
  phase := h'.phase.trans h.phase
  busy := h'.busy.trans h.busy
  choice := ⟨h'.choice.1.trans h.choice.1, h'.choice.2.1.trans h.choice.2.1,
    h'.choice.2.2.trans h.choice.2.2⟩
  dialogs := ⟨h'.dialogs.1.trans h.dialogs.1, h'.dialogs.2.trans h.dialogs.2⟩

/-- the signals of a call that reports nothing done -/
theorem answer_stage {c : Call} (undone : Undone (Device.step (.call c) x.dev)) :
    SameStage x.view (x.answer c).view ∨ Halted x.view (x.answer c).view := by
  have told (sig : List Signal) (v : FactoryRestore) (h : ∀ s ∈ sig, s.isDone = false) :
      SameStage v (exec (fun s v => (FactoryRestore.hear x.extract s v).1) sig v) ∨
        Halted v (exec (fun s v => (FactoryRestore.hear x.extract s v).1) sig v) := by
    induction sig generalizing v with
    | nil => exact .inl (.refl v)
    | cons s sig ih =>
      have hrest := ih (v.hear x.extract s).1 fun s' hs' => h s' (List.mem_cons_of_mem _ hs')
      rcases hear_undone_stage x.extract (v := v) (h s List.mem_cons_self)
        with h1 | h1
      · rcases hrest with h2 | h2
        · exact .inl (h1.trans h2)
        · exact .inr ⟨h2.phase, h2.busy, h2.dialogs.1.trans h1.dialogs.1,
            h2.dialogs.2.trans h1.dialogs.2⟩
      · rcases hrest with h2 | h2
        · exact .inr ⟨h2.phase.trans h1.phase, h2.busy.trans h1.busy,
            h2.dialogs.1.trans h1.dialogs.1, h2.dialogs.2.trans h1.dialogs.2⟩
        · exact .inr ⟨h2.phase, h2.busy, h2.dialogs.1.trans h1.dialogs.1,
            h2.dialogs.2.trans h1.dialogs.2⟩
  exact told _ x.view undone

theorem hear_led (s : Signal) (x : Restoring) : Led Leaves LeadsOn [s] x.seen (x.hear s).seen := by
  have heard := hear_heard x.extract s x.view
  have hundone (c : Call) (hc : (x.view.hear x.extract s).2 = some c) := hear_call_undone hc x.dev
  unfold Restoring.hear
  generalize x.view.hear x.extract s = r at heard hundone
  cases heard with
  | same v' h waits =>
    unfold Restoring.seen
    dsimp only
    rw [h.phase, h.choice.2.1, h.choice.2.2, h.dialogs.1]
    exact .same
  | halted v' h =>
    refine .off ⟨?_, fun hd => .inl (h.dialogs.1.symm.trans hd)⟩
    show v'.phase.stock = false
    rw [h.phase]
    rfl
  | espDone heard before mode => exact .off ⟨rfl, .inl⟩
  | finished heard before =>
    refine .off ⟨rfl, fun _ => .inr ⟨?_, by rw [heard]; exact List.mem_singleton_self _⟩⟩
    show x.view.phase.stock = true
    rw [before]
    rfl
  | swap v' heard before h =>
    have hhost : v'.phase.stock = false := by rw [h.phase]; rfl
    rcases answer_stage (x := { x with view := v' }) (hundone _ rfl) with h1 | h1
    · refine .off ⟨(congrArg Phase.stock h1.phase).trans hhost, fun hd => .inl ?_⟩
      exact h.dialogs.1.symm.trans (h1.dialogs.1.symm.trans hd)
    · refine .off ⟨congrArg Phase.stock h1.phase, fun hd => .inl ?_⟩
      exact h.dialogs.1.symm.trans (h1.dialogs.1.symm.trans hd)
  | next statusMsg heard before mode =>
    rcases answer_stage (x := { x with view := x.view.stage .m1 statusMsg }) (hundone _ rfl)
      with h1 | h1
    · exact .on s (List.mem_singleton_self s)
        ⟨heard, ⟨before, mode⟩, h1.phase, h1.dialogs.1, rfl⟩
    · exact .off ⟨congrArg Phase.stock h1.phase, fun hd => .inl (h1.dialogs.1.symm.trans hd)⟩

theorem device_led (e : Event) (x : Restoring) : Led Leaves LeadsOn (signals (Device.step e x.dev))
    { x with dev := Device.step e x.dev }.seen (x.device e).seen :=
  exec_led signals_once hear_led _ { x with dev := Device.step e x.dev }

/-- of a call that reports nothing done no stage begins, nor does `doneDialog` open -/
theorem undone_led {c : Call} (undone : Undone (Device.step (.call c) x.dev)) :
    ((x.device (.call c)).view.phase = x.view.phase ∨
        (x.device (.call c)).view.phase.stock = false) ∧
      ((x.device (.call c)).view.doneDialog = true → x.view.doneDialog = true) := by
  have hled := device_led (.call c) x
  generalize hy : (x.device (.call c)).seen = y at hled
  have hphase : (x.device (.call c)).view.phase = y.phase := congrArg Seen.phase hy
  have hdialog : (x.device (.call c)).view.doneDialog = y.doneDialog := congrArg Seen.doneDialog hy
  rw [hphase, hdialog]
  cases hled with
  | same => exact ⟨.inl rfl, id⟩
  | off h =>
    exact ⟨.inr h.1, fun hd => (h.2 hd).elim id fun hm => absurd (undone _ hm.2) (by decide)⟩
  | on s hs h =>
    rw [h.1] at hs
    exact absurd (undone _ hs) (by decide)

/-! ## One flash at a time -/

/-- the flash of the stage is active, and no other operation -/
structure Sound (x : Restoring) : Prop where
  waits : Waits x.flashes x.view
  exclusive : {o | x.dev.Active o}.Subsingleton

theorem hear_exclusive (s : Signal) (x : Restoring) (h : {o | x.dev.Active o}.Subsingleton) :
    {o | (x.hear s).dev.Active o}.Subsingleton := by
  unfold Restoring.hear
  dsimp only
  split
  · exact h
  · exact exclusive_step _ _ h

theorem device_exclusive (e : Event) (x : Restoring) (h : {o | x.dev.Active o}.Subsingleton) :
    {o | (x.device e).dev.Active o}.Subsingleton :=
  exec_inv Restoring.hear (I := fun y => {o | y.dev.Active o}.Subsingleton) hear_exclusive _ _
    (exclusive_step e x.dev h)

theorem start_exclusive (r : FactoryRestore × Option Call) (x : Restoring)
    (h : {o | x.dev.Active o}.Subsingleton) : {o | (x.start r).dev.Active o}.Subsingleton := by
  unfold Restoring.start
  split
  · exact h
  · exact exclusive_step _ _ h

theorem step_sound (a : Act) (x : Restoring) (h : Sound x) : Sound (x.step a) := by
  refine ⟨step_waits a x h.waits, ?_⟩
  have he := h.exclusive
  unfold Restoring.step
  cases a with
  | device e => exact device_exclusive e x he
  | rebootDevice => exact device_exclusive _ x he
  | startStage1 =>
    dsimp only
    split
    · exact start_exclusive _ x he
    · exact he
  | startStage2 =>
    dsimp only
    split
    · exact start_exclusive _ x he
    · exact he
  | accepted =>
    dsimp only
    split
    · exact device_exclusive _ _ he
    · exact he
  | selectVersion i =>
    dsimp only
    split <;> exact he
  | setMode mode =>
    dsimp only
    split <;> exact he
  | espAccepted =>
    dsimp only
    split <;> exact he
  | _ => exact he

theorem sound_init : Sound {} := by
  refine ⟨waits_of_rest rfl rfl, ?_⟩
  rintro (k | -) ha
  · cases k <;> exact absurd rfl ha
  · exact absurd ha Bool.false_ne_true

/-- the ESP32 flash leaves no M1 flash to complete -/
theorem Sound.no_fwUpdateComplete (h : Sound x) (hp : x.view.phase = .esp) (e : Event) :
    .fwUpdateComplete ∉ signals (Device.step e x.dev) := by
  intro hmem
  have hesp : x.dev.Active (.transfer .espUpdate) := h.waits.flashing .espUpdate (by rw [hp]; rfl)
  have hfw : ¬ x.dev.Active (.transfer .fwUpdate) := fun ha =>
    have hsame : Operation.transfer .espUpdate = .transfer .fwUpdate := h.exclusive hesp ha
    absurd hsame (by decide)
  have hasked : Task.asked .fwUpdate e = 0 := by
    by_contra hne
    obtain ⟨path, rfl⟩ : ∃ path, e = .call (.startFwUpdate path) := by
      unfold Task.asked at hne
      split at hne <;> simp_all
    exact absurd (startFwUpdate_undone path x.dev _ hmem) (by decide)
  have hb := balanced_step .fwUpdate e x.dev
  have hp : Task.pending .fwUpdate x.dev = 0 := if_neg hfw
  have hpos : 0 < Task.answers .fwUpdate (Device.step e x.dev).out := by
    obtain ⟨o, ho, hs⟩ := List.mem_filterMap.mp hmem
    refine List.countP_pos_iff.mpr ⟨o, ho, ?_⟩
    cases o with
    | signal s =>
      obtain rfl := Option.some.inj hs
      rfl
    | _ => exact absurd hs (by simp [signal?])
  omega

/-! ## Acts -/

/-- the act completes the M1 flash -/
def Completes (a : Act) (x : Restoring) : Prop :=
  x.view.phase = .m1 ∧ ∃ e, a = .device e ∧ .fwUpdateComplete ∈ signals (Device.step e x.dev)

/-- the choice the ESP32 stage goes on with is the one the restore was started with -/
def Holds (k : Version × Mode) (x : Restoring) : Prop :=
  x.view.phase = .esp → x.view.restoreMode = k.2 ∧ (k.2 = .full → x.view.pendingM1 = k.1.m1)

/-- an act keeps to the plan, and opens `doneDialog` only at the end of the M1 flash -/
structure Keeps (a : Act) (x y : Restoring) : Prop where
  moved : Moved (fun x : Restoring => x.view.phase) (fun p => p.stock = true) (fun k => plan k.2)
    (fun k => Begins k.1 k.2) (fun k => Enters k.1) Holds a x y
  opened : y.view.doneDialog = true → x.view.doneDialog = true ∨ Completes a x

section
variable {a : Act} {y : Restoring}

theorem Keeps.same (hp : y.view.phase = x.view.phase) (hd : y.view.doneDialog = x.view.doneDialog)
    (hchoice : x.view.phase = .esp → y.view.restoreMode = x.view.restoreMode ∧
      y.view.pendingM1 = x.view.pendingM1) : Keeps a x y := by
  refine ⟨.same hp fun k h hesp => ?_, fun ho => .inl (hd.symm.trans ho)⟩
  have hesp : x.view.phase = .esp := hp.symm.trans hesp
  obtain ⟨hmode, hpending⟩ := hchoice hesp
  rw [hmode, hpending]
  exact h hesp

theorem Keeps.stays : Keeps a x x := .same rfl rfl fun _ => ⟨rfl, rfl⟩

theorem Keeps.seen {v : FactoryRestore} (h : SameStage x.view v) :
    Keeps a x { x with view := v } :=
  .same h.phase h.dialogs.1 fun _ => ⟨h.choice.2.1, h.choice.2.2⟩

theorem Keeps.halted (hp : y.view.phase.stock = false)
    (hd : y.view.doneDialog = true → x.view.doneDialog = true) : Keeps a x y :=
  ⟨.halted (by rw [hp]; exact Bool.false_ne_true), fun h => .inl (hd h)⟩

/-- a stage that a call of the user starts, unless the call is refused at once -/
theorem Keeps.called {v : FactoryRestore} {c : Call} {bs : List Phase}
    (ha : x.step .startStage2 = x.start (v, some c))
    (hundone : Undone (Device.step (.call c) x.dev))
    (hc : c = firstCall x.extract x.view.version x.view.restoreMode)
    (hplan : plan x.view.restoreMode = v.phase :: bs)
    (hmode : v.restoreMode = x.view.restoreMode)
    (hpending : x.view.restoreMode = .full → v.pendingM1 = x.view.version.m1)
    (hd : v.doneDialog = x.view.doneDialog) :
    Keeps .startStage2 x (x.start (v, some c)) := by
  subst hc
  rcases answer_stage (x := { x with view := v }) hundone with h | h
  · refine ⟨.begun (x.view.version, x.view.restoreMode) bs ?_ ⟨rfl, rfl, rfl, ?_⟩ fun _ => ?_,
      fun ho => .inl (hd.symm.trans (h.dialogs.1.symm.trans ho))⟩
    · exact hplan.trans (congrArg (· :: bs) h.phase.symm)
    · rw [ha]
      rfl
    · exact ⟨h.choice.2.1.trans hmode, fun hf => h.choice.2.2.trans (hpending hf)⟩
  · exact .halted (congrArg Phase.stock h.phase) fun ho => hd.symm.trans (h.dialogs.1.symm.trans ho)

end

theorem keeps_device (e : Event) (x : Restoring) (h : Sound x) :
    Keeps (.device e) x (x.device e) := by
  have hled := device_led e x
  generalize hy : (x.device e).seen = y at hled
  have hphase : (x.device e).view.phase = y.phase := congrArg Seen.phase hy
  have hdialog : (x.device e).view.doneDialog = y.doneDialog := congrArg Seen.doneDialog hy
  cases hled with
  | same =>
    exact .same hphase hdialog fun _ => ⟨congrArg Seen.restoreMode hy, congrArg Seen.pendingM1 hy⟩
  | off hoff =>
    refine ⟨.halted (by rw [hphase, hoff.1]; exact Bool.false_ne_true), fun hd => ?_⟩
    refine (hoff.2 (hdialog.symm.trans hd)).imp id fun ⟨hstock, hmem⟩ => ⟨?_, e, rfl, hmem⟩
    have hstock : x.view.phase.stock = true := hstock
    have hnot : x.view.phase ≠ .esp := fun hp => h.no_fwUpdateComplete hp e hmem
    revert hstock hnot
    cases x.view.phase <;> simp [Phase.stock]
  | on s hs hon =>
    obtain ⟨rfl, ⟨before, mode⟩, after, hd, hcalled⟩ := hon
    have before : x.view.phase = .esp := before
    refine ⟨.next (by rw [before]; rfl) fun k n hn hk => ?_, fun ho => .inl ?_⟩
    · obtain ⟨hmode, hpending⟩ := hk before
      have hne : k.2 ≠ .esp := fun hm => mode (hmode.trans hm)
      rw [before] at hn
      obtain ⟨hfull, hn'⟩ := plan_esp hne hn
      rw [hphase, after]
      refine ⟨hn', ⟨hs, ?_⟩, fun hesp => ?_⟩
      · rw [← hpending hfull]
        exact (congrArg Seen.dev hy).trans hcalled
      · exact absurd (after.symm.trans (hphase.symm.trans hesp)) Phase.noConfusion
    · exact hd.symm.trans (hdialog.symm.trans ho)

theorem keeps_startStage1 (x : Restoring) :
    Keeps .startStage1 x (x.start (x.view.startStage1 x.extract)) := by
  have begun : Begun x.extract x.view (x.view.startStage1 x.extract) := startStage1_begun _ _
  have hundone (c : Call) (hc : (x.view.startStage1 x.extract).2 = some c) :=
    start_call_undone begun hc x.dev
  unfold FactoryRestore.startStage1 at hundone ⊢
  dsimp only at hundone ⊢
  split at hundone
  next hp =>
    rw [if_pos hp]
    exact .stays
  next hp =>
    rw [if_neg hp]
    rcases answer_stage (x := { x with view := x.view.stage .host _ }) (hundone _ rfl) with h | h
    · exact .halted (congrArg Phase.stock h.phase) fun ho => h.dialogs.1.symm.trans ho
    · exact .halted (congrArg Phase.stock h.phase) fun ho => h.dialogs.1.symm.trans ho

theorem keeps_startStage2 (x : Restoring) (hfree : x.view.free = true) :
    Keeps .startStage2 x (x.start (x.view.startStage2 x.extract)) := by
  have ha : x.step .startStage2 = x.start (x.view.startStage2 x.extract) := if_pos hfree
  have begun : Begun x.extract x.view (x.view.startStage2 x.extract) := startStage2_begun _ _
  have hundone (c : Call) (hc : (x.view.startStage2 x.extract).2 = some c) :=
    start_call_undone begun hc x.dev
  unfold FactoryRestore.startStage2 at ha hundone ⊢
  dsimp only at ha hundone ⊢
  split at ha
  next hm =>
    rw [if_pos hm] at hundone ⊢
    split at ha
    next hp =>
      rw [if_pos hp]
      exact .stays
    next hp =>
      rw [if_neg hp] at hundone ⊢
      refine .called ha (hundone _ rfl) (by rw [hm]; rfl) (by rw [hm]; rfl) rfl (fun hf => ?_) rfl
      exact absurd (hm.symm.trans hf) Mode.noConfusion
  next hm =>
    rw [if_neg hm] at hundone ⊢
    split at ha
    next hp =>
      rw [if_pos hp]
      exact .stays
    next hp =>
      rw [if_neg hp] at hundone ⊢
      exact .called ha (hundone _ rfl) (firstCall_esp hm _ _).symm (plan_cons_esp hm) rfl
        (fun hf => if_pos hf) rfl

/-- where an act leads, and what opens `doneDialog` -/
theorem keeps_step (a : Act) (x : Restoring) (h : Sound x) : Keeps a x (x.step a) := by
  have free (hf : x.view.free = true) : x.view.phase ≠ .esp := fun hp => by
    have hbusy : x.view.busy = false := by
      unfold FactoryRestore.free at hf
      simp only [Bool.and_eq_true, Bool.not_eq_true'] at hf
      exact hf.1.1
    have hw := h.waits.busy
    rw [hbusy, hp] at hw
    exact Bool.noConfusion hw
  cases a with
  | device e => exact keeps_device e x h
  | assets extract => exact .same rfl rfl fun _ => ⟨rfl, rfl⟩
  | selectVersion i =>
    unfold Restoring.step
    dsimp only
    split
    next hf => exact .same rfl rfl fun hp => absurd hp (free hf)
    next => exact .stays
  | setMode mode =>
    unfold Restoring.step
    dsimp only
    split
    next hf => exact .same rfl rfl fun hp => absurd hp (free hf)
    next => exact .stays
  | startStage1 =>
    unfold Restoring.step
    dsimp only
    split
    · exact keeps_startStage1 x
    · exact .stays
  | startStage2 =>
    unfold Restoring.step
    dsimp only
    split
    next hf => exact keeps_startStage2 x hf
    next => exact .stays
  | rebootDevice =>
    exact .halted rfl (undone_led (reboot_undone x.dev)).2
  | stallTimer =>
    refine .seen ?_
    unfold FactoryRestore.onStallTimer
    split
    · exact ⟨rfl, rfl, ⟨rfl, rfl, rfl⟩, rfl, rfl⟩
    · exact .refl _
  | accepted =>
    unfold Restoring.step
    dsimp only
    split
    · have hled := undone_led
        (x := { x with view := { x.view with phase := .idle, doneDialog := false } })
        (swapBanks_undone x.dev)
      refine .halted ?_ fun hd => absurd (hled.2 hd) Bool.false_ne_true
      rcases hled.1 with hp | hp
      · exact congrArg Phase.stock hp
      · exact hp
    · exact .stays
  | espAccepted =>
    unfold Restoring.step
    dsimp only
    split
    · exact .halted rfl id
    · exact .stays
  | closeError => exact .seen ⟨rfl, rfl, ⟨rfl, rfl, rfl⟩, rfl, rfl⟩

end

/-! ## Runs -/

end QMon.Restore
