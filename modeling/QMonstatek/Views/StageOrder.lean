import Mathlib.Tactic.IntervalCases
import QMonstatek.Views.OneClick

/-!
# The stages of the one-click update come in order

`plan tracked`    the stages of an update, with and without an ESP repo;
`Enters b a x`    what the act `a` has to be to enter the stage `b`: the end of the download, with
                  the file it is announced under, or the end of the flash.

`doneDialog_since`: the swap of the banks is offered only at the end of a flash of the M1 that comes
after all the stages of its plan, each begun when the one before it had come to its good end.
-/

namespace QMon.Views
open Device Updater Run

variable (host : Host)

def plan : Bool → List Phase
  | true => [.dlEsp, .flashEsp, .dlM1, .flashM1]
  | false => [.dlM1, .flashM1]

def Begins (tracked : Bool) (_ : Phase) (a : Act) (x : OneClick) : Prop :=
  a = .startUpdate ∧ x.view.espTracked = tracked

/-- a download is announced, and the flash of `c` called for with that file -/
def Delivers (host : Host) (c : Chip) (m : Updater.Move) (x : OneClick) : Prop :=
  ∃ path, .downloadComplete path ∈ (download host m (x.downloads c)).checker.out ∧
    (x.checker host c m).dev = Device.step (.call (c.start path)) x.dev

def Enters (host : Host) (b : Phase) (a : Act) (x : OneClick) : Prop :=
  match b, a with
  | .flashEsp, .espChecker m => Delivers host .esp m x
  | .dlM1, .device e => .espUpdateComplete ∈ signals (Device.step e x.dev)
  | .flashM1, .m1Checker m => Delivers host .m1 m x
  | .done, .device e => .fwUpdateComplete ∈ signals (Device.step e x.dev)
  | _, _ => False

/-- the stage behind a stage -/
def Phase.next : Phase → Phase
  | .dlEsp => .flashEsp
  | .flashEsp => .dlM1
  | .dlM1 => .flashM1
  | .flashM1 => .done
  | p => p

/-- what a view of the stages keeps of a state -/
structure Seen where
  phase : Phase
  doneDialog : Bool
  dev : Dev

def OneClick.seen (x : OneClick) : Seen := ⟨x.view.phase, x.view.doneDialog, x.dev⟩

/-! ## Signals -/

/-- the stage is left: halted, or the M1 flash is complete -/
def Leaves (sig : List Signal) (b c : Seen) : Prop :=
  c.phase.working = false ∧ (c.doneDialog = true → b.doneDialog = true ∨
    (b.phase = .flashM1 ∧ .fwUpdateComplete ∈ sig))

/-- the ESP32 flash is complete -/
def LeadsOn (s : Signal) (b c : Seen) : Prop :=
  s = .espUpdateComplete ∧ b.phase = .flashEsp ∧ c.phase = .dlM1 ∧ c.doneDialog = b.doneDialog

theorem signals_once : OnceOn Leaves LeadsOn where
  mono hsub h := ⟨h.1, fun hd => (h.2 hd).imp id fun hm => ⟨hm.1, hsub hm.2⟩⟩
  off_off h h' := by
    refine ⟨h'.1, fun hd => ?_⟩
    rcases h'.2 hd with hd | ⟨hp, -⟩
    · exact h.2 hd
    · rw [Leaves, hp] at h
      exact Bool.noConfusion h.1
  on_off _ h h' := by
    refine ⟨h'.1, fun hd => ?_⟩
    rcases h'.2 hd with hd | ⟨hp, -⟩
    · exact .inl (h.2.2.2.symm.trans hd)
    · exact absurd (h.2.2.1.symm.trans hp) Phase.noConfusion
  off_on h h' := by
    rw [Leaves, h'.2.1] at h
    exact Bool.noConfusion h.1
  on_on h h' := absurd (h.2.2.1.symm.trans h'.2.1) Phase.noConfusion

theorem hear_led (s : Signal) (x : OneClick) :
    Led Leaves LeadsOn [s] x.seen (x.hear host s).seen := by
  have heard := hear_heard s x.view
  unfold OneClick.hear
  generalize x.view.hear s = r at heard
  cases heard with
  | same v' h waits =>
    unfold OneClick.seen
    dsimp only
    rw [h.phase, h.doneDialog]
    exact .same
  | halted v' h =>
    refine .off ⟨?_, fun hd => .inl (h.doneDialog.symm.trans hd)⟩
    show v'.phase.working = false
    rw [h.phase]
    rfl
  | next a statusMsg heard before =>
    exact .on s (List.mem_singleton_self s) ⟨heard, before, rfl, rfl⟩
  | finished v' heard before after busy =>
    refine .off ⟨?_, fun _ => .inr ⟨before, by rw [heard]; exact List.mem_singleton_self _⟩⟩
    show v'.phase.working = false
    rw [after]
    rfl

theorem device_led (e : Event) (x : OneClick) : Led Leaves LeadsOn (signals (Device.step e x.dev))
    ⟨x.view.phase, x.view.doneDialog, Device.step e x.dev⟩ (x.device host e).seen :=
  exec_led signals_once (hear_led host) _ { x with dev := Device.step e x.dev }

/-- of a call that reports nothing done the view can only hear that it stops -/
theorem undone_led {c : Call} {x : OneClick} (undone : Undone (Device.step (.call c) x.dev)) :
    (x.device host (.call c)).seen =
        ⟨x.view.phase, x.view.doneDialog, Device.step (.call c) x.dev⟩ ∨
      (x.device host (.call c)).view.phase.working = false ∧
        ((x.device host (.call c)).view.doneDialog = true → x.view.doneDialog = true) := by
  have hled := device_led host (.call c) x
  generalize hy : (x.device host (.call c)).seen = y at hled
  have hphase : (x.device host (.call c)).view.phase = y.phase := congrArg Seen.phase hy
  have hdone : (x.device host (.call c)).view.doneDialog = y.doneDialog :=
    congrArg Seen.doneDialog hy
  cases hled with
  | same => exact .inl rfl
  | off h =>
    rw [hphase, hdone]
    refine .inr ⟨h.1, fun hd => (h.2 hd).elim id fun hm => ?_⟩
    exact absurd (undone _ hm.2) (by decide)
  | on s hs h =>
    rw [h.1] at hs
    exact absurd (undone _ hs) (by decide)

/-! ## Checkers -/

theorem start_undone (c : Chip) (path : String) (d : Dev) :
    Undone (Device.step (.call (c.start path)) d) := by
  cases c with
  | esp => exact startEspUpdate_undone path 0 false d
  | m1 => exact startFwUpdate_undone path d

/-- the download has failed, or the flash behind it was refused -/
def Stops (_ : List CheckerOut) (b c : Seen) : Prop :=
  c.phase.working = false ∧ (c.doneDialog = true → b.doneDialog = true)

/-- the download of `c` is announced, and the flash called for -/
def Feeds (c : Chip) (o : CheckerOut) (b d : Seen) : Prop :=
  b.phase = c.dl ∧ d.phase = c.flash ∧ d.doneDialog = b.doneDialog ∧
    ∃ path, o = .downloadComplete path ∧ d.dev = Device.step (.call (c.start path)) b.dev

theorem outputs_once (c : Chip) : OnceOn Stops (Feeds c) where
  mono _ h := h
  off_off h h' := ⟨h'.1, fun hd => h.2 (h'.2 hd)⟩
  on_off _ h h' := ⟨h'.1, fun hd => h.2.2.1.symm.trans (h'.2 hd)⟩
  off_on h h' := by
    rw [Stops, h'.1] at h
    cases c <;> exact Bool.noConfusion h.1
  on_on h h' := by
    have hp := h.2.1.symm.trans h'.1
    cases c <;> exact absurd hp Phase.noConfusion

theorem hearChecker_led (c : Chip) (o : CheckerOut) (x : OneClick) :
    Led Stops (Feeds c) [o] x.seen (x.hearChecker host c o).seen := by
  have fetched := hearChecker_fetched c o x.view
  rw [hearChecker_eq]
  generalize x.view.hearChecker c o = r at fetched
  cases fetched with
  | same v' h waits =>
    unfold OneClick.seen
    dsimp only
    rw [h.phase, h.doneDialog]
    exact .same
  | halted v' h =>
    refine .off ⟨?_, fun hd => h.doneDialog.symm.trans hd⟩
    show v'.phase.working = false
    rw [h.phase]
    rfl
  | flash path v' heard before after busy doneDialog =>
    have hcalled := undone_led host (x := { x with view := v' }) (start_undone c path x.dev)
    rcases hcalled with hseen | ⟨hphase, hdone⟩
    · refine .on o (List.mem_singleton_self o) ⟨before, ?_, ?_, path, heard, ?_⟩
      · exact (congrArg Seen.phase hseen).trans after
      · exact (congrArg Seen.doneDialog hseen).trans doneDialog
      · exact congrArg Seen.dev hseen
    · exact .off ⟨hphase, fun hd => doneDialog.symm.trans (hdone hd)⟩

theorem checker_led (c : Chip) (m : Updater.Move) (x : OneClick) :
    Led Stops (Feeds c) (download host m (x.downloads c)).checker.out x.seen
      (x.checker host c m).seen := by
  have row (y : OneClick) (out : List CheckerOut) : Led Stops (Feeds c) out y.seen
      (exec (OneClick.hearChecker host c) out y).seen :=
    exec_led (outputs_once c) (hearChecker_led host c) out y
  cases c with
  | esp => exact row { x with esp := download host m x.esp } _
  | m1 => exact row { x with m1 := download host m x.m1 } _

/-! ## Acts -/

theorem plan_next {tracked : Bool} {n : Nat} {p : Phase} (h : (plan tracked)[n]? = some p)
    (hw : p.next.working = true) : (plan tracked)[n + 1]? = some p.next := by
  have hn : n < (plan tracked).length := (List.getElem?_eq_some_iff.mp h).1
  cases tracked with
  | true =>
    have hn : n < 4 := hn
    interval_cases n <;> (obtain rfl := Option.some.inj h; first | rfl | exact Bool.noConfusion hw)
  | false =>
    have hn : n < 2 := hn
    interval_cases n <;> (obtain rfl := Option.some.inj h; first | rfl | exact Bool.noConfusion hw)

/-- an act keeps to the plan, and opens `doneDialog` only at the end of the M1 flash -/
structure Keeps (host : Host) (a : Act) (x y : OneClick) : Prop where
  moved : Moved (fun x : OneClick => x.view.phase) (fun p => p.working = true) plan Begins
    (fun _ => Enters host) (fun _ _ => True) a x y
  opened : y.view.doneDialog = true → x.view.doneDialog = true ∨
    (x.view.phase = .flashM1 ∧ Enters host .done a x)

section
variable {host} {a : Act} {x y : OneClick}

theorem Keeps.same (hp : y.view.phase = x.view.phase)
    (hd : y.view.doneDialog = x.view.doneDialog) : Keeps host a x y :=
  ⟨.same hp fun _ => id, fun h => .inl (hd.symm.trans h)⟩

theorem Keeps.halted (hp : y.view.phase.working = false)
    (hd : y.view.doneDialog = true → x.view.doneDialog = true) : Keeps host a x y :=
  ⟨.halted (by rw [hp]; exact Bool.false_ne_true), fun h => .inl (hd h)⟩

/-- the next stage is `q`, as what it takes to enter it has come -/
theorem Keeps.entered {p q : Phase} (hx : x.view.phase = p) (hy : y.view.phase = q)
    (hq : p.next = q) (hp : p.working = true) (hw : q.working = true) (h : Enters host q a x)
    (hd : y.view.doneDialog = x.view.doneDialog) : Keeps host a x y := by
  subst hq
  refine ⟨.next (by rw [hx]; exact hp) fun tracked n hn _ => ?_, fun ho => .inl (hd.symm.trans ho)⟩
  rw [hx] at hn
  rw [hy]
  exact ⟨plan_next hn hw, h, trivial⟩

end

theorem keeps_device (e : Event) (x : OneClick) :
    Keeps host (.device e) x (x.device host e) := by
  have hled := device_led host e x
  generalize hy : (x.device host e).seen = y at hled
  have hphase : (x.device host e).view.phase = y.phase := congrArg Seen.phase hy
  have hdone : (x.device host e).view.doneDialog = y.doneDialog := congrArg Seen.doneDialog hy
  cases hled with
  | same => exact .same hphase hdone
  | off h =>
    refine ⟨.halted ?_, fun hd => ?_⟩
    · rw [hphase, h.1]
      exact Bool.false_ne_true
    · rw [hdone] at hd
      exact h.2 hd
  | on s hs h =>
    obtain ⟨heard, before, after, hd⟩ := h
    rw [heard] at hs
    exact .entered before (hphase.trans after) rfl rfl rfl hs (hdone.trans hd)

theorem keeps_checker {a : Act} (c : Chip) (m : Updater.Move) (x : OneClick)
    (ha : Delivers host c m x → Enters host c.flash a x) :
    Keeps host a x (x.checker host c m) := by
  have hled := checker_led host c m x
  generalize hy : (x.checker host c m).seen = y at hled
  have hphase : (x.checker host c m).view.phase = y.phase := congrArg Seen.phase hy
  have hdone : (x.checker host c m).view.doneDialog = y.doneDialog := congrArg Seen.doneDialog hy
  have hdev : (x.checker host c m).dev = y.dev := congrArg Seen.dev hy
  cases hled with
  | same => exact .same hphase hdone
  | off h => exact .halted (by rw [hphase, h.1]) fun hd => h.2 (hdone.symm.trans hd)
  | on o ho h =>
    obtain ⟨before, after, hd, path, rfl, hcalled⟩ := h
    refine .entered before (hphase.trans after) ?_ ?_ ?_ (ha ⟨path, ho, hdev.trans hcalled⟩)
      (hdone.trans hd) <;> cases c <;> rfl

/-- where an act leads, and what opens `doneDialog` -/
theorem keeps_step (a : Act) (x : OneClick) : Keeps host a x (x.step host a) := by
  have seen {a : Act} {v : UpdateAll} (h : SameStage x.view v) :
      Keeps host a x { x with view := v } := .same h.phase h.doneDialog
  cases a with
  | device e => exact keeps_device host e x
  | espChecker m => exact keeps_checker host .esp m x id
  | m1Checker m => exact keeps_checker host .m1 m x id
  | trackEsp tracked => exact seen ⟨rfl, rfl, rfl⟩
  | refresh =>
    refine seen ?_
    unfold UpdateAll.refresh
    split <;> exact ⟨rfl, rfl, rfl⟩
  | m1Fetched r => exact seen ⟨rfl, rfl, rfl⟩
  | espFetched r => exact seen ⟨rfl, rfl, rfl⟩
  | startUpdate =>
    unfold OneClick.step
    dsimp only
    split
    · exact seen ⟨rfl, rfl, rfl⟩
    · have begun := startUpdate_begun x.compatible x.view
      unfold OneClick.startUpdate
      generalize x.view.startUpdate x.compatible = r at begun
      cases begun with
      | refused v' h => exact seen h
      | esp a v' asset tracked phase busy doneDialog =>
        refine ⟨.begun true [.flashEsp, .dlM1, .flashM1] ?_ ⟨rfl, tracked⟩ trivial,
          fun hd => .inl (doneDialog.symm.trans hd)⟩
        show _ = v'.phase :: _
        rw [phase]
        rfl
      | m1 a v' tracked phase busy doneDialog =>
        refine ⟨.begun false [.flashM1] ?_ ⟨rfl, tracked⟩ trivial,
          fun hd => .inl (doneDialog.symm.trans hd)⟩
        show _ = v'.phase :: _
        rw [phase]
        rfl
  | rebootDevice =>
    refine .halted rfl fun hd => ?_
    rcases undone_led host (reboot_undone x.dev) with hseen | ⟨-, hdone⟩
    · exact (congrArg Seen.doneDialog hseen).symm.trans hd
    · exact hdone hd
  | stallTimer =>
    refine seen ?_
    unfold UpdateAll.onStallTimer
    split <;> exact ⟨rfl, rfl, rfl⟩
  | accepted =>
    unfold OneClick.step OneClick.accepted
    dsimp only
    split
    · have h := keeps_device host (.call .swapBanks) { x with
        view := { x.view with phase := .idle, statusMsg := "", doneDialog := false } }
      generalize OneClick.device host (.call .swapBanks) { x with
        view := { x.view with phase := .idle, statusMsg := "", doneDialog := false } } = y at h
      refine .halted ?_ fun hd => ?_
      · cases h.moved with
        | same hp kept => exact congrArg Phase.working hp
        | halted hp => exact (Bool.not_eq_true _).mp hp
        | begun k bs first hb new => exact Act.noConfusion hb.1
        | next hw hnext => exact Bool.noConfusion hw
      · rcases h.opened hd with hd | ⟨hp, -⟩
        · exact Bool.noConfusion hd
        · exact Phase.noConfusion hp
    · exact seen ⟨rfl, rfl, rfl⟩
  | closeError => exact seen ⟨rfl, rfl, rfl⟩

/-! ## Runs -/

/-- the M1 flash is the last stage -/
theorem plan_whole {tracked : Bool} {n : Nat} (h : (plan tracked)[n]? = some .flashM1) :
    (plan tracked).take (n + 1) = plan tracked := by
  have hn : n < (plan tracked).length := (List.getElem?_eq_some_iff.mp h).1
  revert h
  cases tracked with
  | true =>
    have hn : n < 4 := hn
    interval_cases n <;> decide
  | false =>
    have hn : n < 2 := hn
    interval_cases n <;> decide

end QMon.Views
