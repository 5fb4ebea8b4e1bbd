import QMonstatek.Device.Worked
import Mathlib.Data.Set.Subsingleton

/-!
# One exclusive operation at a time, and its timer

`exclusive`         in every reachable state at most one of the four exclusive operations is active;
`timed_iff`         along a run every active operation has an armed timer that ends it, exactly
                    when the run starts no bank erase: the erase is the one without a timer.
-/

namespace QMon.Device
open Rpc

/-- the operations that need the link for themselves -/
inductive Operation where
  | transfer (k : Kind)
  | bankErase
  deriving DecidableEq, Repr

def Dev.Active (d : Dev) : Operation → Prop
  | .transfer k => (d.get k).state ≠ .Idle
  | .bankErase => d.ops.bankErasePending = true

instance (d : Dev) (o : Operation) : Decidable (d.Active o) := by
  cases o <;> (unfold Dev.Active; infer_instance)

/-- what is newly active stands alone -/
theorem Worked.alone {e : Event} {d d' : Dev} (w : Worked e d d') {a b : Operation}
    (ha : d'.Active a) (hb : d'.Active b) (hn : ¬ d.Active a) : b = a := by
  cases a with
  | transfer k =>
    have hidle : (d.get k).state = .Idle := not_not.mp hn
    have alone : d'.Alone k := by
      cases w.change k with
      | same get sent => exact absurd (by rw [get]; exact hidle) ha
      | idle before after sent => exact absurd after ha
      | started data payload before cause alone alone' file size get sent => exact alone'
      | acked ack before get sent =>
        rw [hidle] at before
        rcases before with h | h <;> exact absurd h (by decide)
      | ended before after sent => exact absurd after ha
      | cleanup esp timeout before after sent => exact absurd after ha
    cases b with
    | transfer k' =>
      by_cases hk : k' = k
      · rw [hk]
      · exact absurd (alone.idle k' hk) hb
    | bankErase => exact absurd (alone.erase.symm.trans hb) Bool.false_ne_true
  | bankErase =>
    have hoff : d.ops.bankErasePending = false := by
      cases h : d.ops.bankErasePending with
      | false => rfl
      | true => exact absurd h hn
    have idle (k : Kind) : (d'.get k).state = .Idle := by
      cases w.erase with
      | same flag =>
        rw [hoff] at flag
        exact absurd (flag.symm.trans ha) Bool.false_ne_true
      | started call before idle idle' sent => exact idle' k
      | answered reply before after => exact absurd (after.symm.trans ha) Bool.false_ne_true
    cases b with
    | transfer k => exact absurd (idle k) hb
    | bankErase => rfl

/-- a step keeps the operations exclusive -/
theorem exclusive_step (e : Event) (d : Dev) (h : {o | d.Active o}.Subsingleton) :
    {o | (step e d).Active o}.Subsingleton := by
  have w := worked_step e d
  intro a ha b hb
  by_cases ha' : d.fresh.Active a
  · by_cases hb' : d.fresh.Active b
    · exact h ha' hb'
    · exact w.alone hb ha hb'
  · exact (w.alone ha hb ha').symm

/-- **At most one of the exclusive operations is active**, after any run. -/
theorem exclusive (es : List Event) :
    {o | (Run.exec step es init).Active o}.Subsingleton := by
  refine Reachable.induct (I := fun d => {o | d.Active o}.Subsingleton) ?_ exclusive_step
    (.exec es)
  intro a ha
  cases a with
  | transfer k => cases k <;> exact absurd rfl ha
  | bankErase => exact absurd ha Bool.false_ne_true

/-! ## Timers -/

/-- the timer of every active transfer is armed -/
def Dev.Armed (d : Dev) : Prop := ∀ k, (d.get k).state ≠ .Idle → (d.get k).timeout ≠ none

theorem armed_step (e : Event) (d : Dev) (h : d.Armed) : (step e d).Armed := by
  intro k hk
  have w := worked_step e d
  cases w.change k with
  | same get sent =>
    rw [get] at hk ⊢
    exact h k hk
  | idle before after sent => exact absurd after hk
  | started data payload before cause alone alone' file size get sent =>
    rw [get]
    simp [Transfer.fresh]
  | acked ack before get sent =>
    rw [get]
    unfold Transfer.next
    split <;> simp
  | ended before after sent => exact absurd after hk
  | cleanup esp timeout before after sent => exact absurd after hk

theorem onTransferTimeout_idle (k : Kind) (d : Dev) :
    ((d.onTransferTimeout k).get k).state = .Idle := by
  have resumed {d : Dev} (h : (d.get k).state = .Idle) (s : Signal) :
      ((d.resumeKeepaliveIfIdle.emit s).get k).state = .Idle := by
    show (d.resumeKeepaliveIfIdle.get k).state = _
    rw [(resumeKeepaliveIfIdle_calm d).get]
    exact h
  have branch := onTransferTimeout_branch k d
  generalize d.onTransferTimeout k = d' at branch
  cases branch with
  | idle before => exact (stopTimeout_state k d).trans before
  | ended message hk before => exact resumed (endTransfer_state k d) _
  | cleanup message hk before d1 sent =>
    subst hk
    refine resumed ?_ _
    exact endTransfer_state .espUpdate d1

/-- the expiry of a transfer's timer ends the transfer -/
theorem expire_transfer (k : Kind) (d : Dev) (h : (d.get k).timeout ≠ none) :
    ¬ (step (.expire (.transfer k)) d).Active (.transfer k) := by
  have hstep : step (.expire (.transfer k)) d = d.fresh.onTransferTimeout k := if_neg h
  rw [hstep]
  exact not_not.mpr (onTransferTimeout_idle k d.fresh)

/-- no timer of the device ends a bank erase -/
theorem expire_erase (t : TimerId) (d : Dev) :
    (step (.expire t) d).ops.bankErasePending = d.ops.bankErasePending := by
  cases (worked_step (.expire t) d).erase with
  | same flag => exact flag
  | started call before idle idle' sent => exact absurd call (by simp)
  | answered reply before after =>
    rcases reply with ⟨f, dialect, h, -⟩ | ⟨f, dialect, h, -⟩ <;> exact absurd h (by simp)

/-- every active operation has an armed timer whose expiry ends it -/
def Dev.Timed (d : Dev) : Prop :=
  ∀ o, d.Active o → ∃ t, d.timer t ≠ none ∧ ¬ (step (.expire t) d).Active o

theorem timed_of_armed {d : Dev} (h : d.Armed) (he : d.ops.bankErasePending = false) :
    d.Timed := by
  intro o ho
  cases o with
  | transfer k => exact ⟨.transfer k, h k ho, expire_transfer k d (h k ho)⟩
  | bankErase => exact absurd (he.symm.trans ho) Bool.false_ne_true

theorem erase_of_timed {d : Dev} (h : d.Timed) : d.ops.bankErasePending = false := by
  cases he : d.ops.bankErasePending with
  | false => rfl
  | true =>
    obtain ⟨t, -, hn⟩ := h .bankErase he
    exact absurd ((expire_erase t d).trans he) hn

/-- the step is an `eraseInactiveBank` that is not refused -/
def StartsErase (e : Event) (d : Dev) : Prop :=
  e = .call .eraseInactiveBank ∧ (∀ k, (d.get k).state = .Idle) ∧
    d.ops.bankErasePending = false

theorem erase_step (e : Event) (d : Dev) (h : d.ops.bankErasePending = false)
    (hn : ¬ StartsErase e d) : (step e d).ops.bankErasePending = false := by
  cases (worked_step e d).erase with
  | same flag => exact flag.trans h
  | started call before idle idle' sent => exact absurd ⟨call, idle, before⟩ hn
  | answered reply before after => exact after

theorem eraseInactiveBank_accepted {e : Event} {d : Dev} (h : StartsErase e d) :
    (step e d).ops.bankErasePending = true := by
  obtain ⟨rfl, hidle, he⟩ := h
  have h1 : d.ops.fwUpdate.state = .Idle := hidle .fwUpdate
  have h2 : d.ops.espUpdate.state = .Idle := hidle .espUpdate
  have h3 : d.ops.fileUpload.state = .Idle := hidle .fileUpload
  show d.fresh.eraseInactiveBank.ops.bankErasePending = true
  simp [Dev.eraseInactiveBank, Dev.fresh, h1, h2, h3, he]

/-- **Along a run every active operation has a timer that ends it, exactly when no bank erase is
started.** -/
theorem timed_iff (es : List Event) : Run.Throughout step Dev.Timed es init ↔
    Run.Along step (fun e d => ¬ StartsErase e d) es init := by
  constructor
  · refine Run.along_of_throughout step (fun e d _ ht hs => ?_) es init
    have hon := eraseInactiveBank_accepted hs
    exact absurd ((erase_of_timed ht).symm.trans hon) Bool.false_ne_true
  · intro hok
    refine Run.throughout_of_along step (I := fun d => d.Armed ∧ d.ops.bankErasePending = false)
      (fun d h => timed_of_armed h.1 h.2) (fun e d h hn => ?_) es init ⟨?_, rfl⟩ hok
    · exact ⟨armed_step e d h.1, erase_step e d h.2 hn⟩
    · intro k hk
      cases k <;> exact absurd rfl hk

/-- a silent device: connected over USB, a bank erase leaves no timer that could end it -/
theorem bankErase_untimed :
    let d := Run.exec step [.env { serialOpens := fun _ => true },
      .call (.connectToDevice "COM3"), .call .eraseInactiveBank] init
    d.isConnected = true ∧ d.keep.suspended = true ∧ d.Active .bankErase ∧ ¬ d.Timed := by
  refine ⟨by decide, by decide, by decide, fun h => ?_⟩
  exact absurd (erase_of_timed h) (by decide)

end QMon.Device
