import Mathlib.Algebra.Group.Basic
import Mathlib.Algebra.Ring.Nat
import QMonstatek.Lib.Run

/-!
# Balances along a run

`total step f es s`  the sum of what `f` counts in each step of the run.

`total_balance`: where every step pays for what it changes, a run does.
-/

namespace QMon.Run

variable {σ ε M : Type*} [AddCommMonoid M] (step : ε → σ → σ)

def total (f : ε → σ → M) : List ε → σ → M
  | [], _ => 0
  | e :: es, s => f e s + total f es (step e s)

/-- **Balance rule.** -/
theorem total_balance {paid due : ε → σ → M} {held : σ → M}
    (h : ∀ e s, paid e s + held (step e s) = due e s + held s) (es : List ε) (s : σ) :
    total step paid es s + held (exec step es s) = total step due es s + held s := by
  induction es generalizing s with
  | nil => rfl
  | cons e es ih =>
    calc paid e s + total step paid es (step e s) + held (exec step es (step e s))
        = paid e s + (total step due es (step e s) + held (step e s)) := by
          rw [add_assoc, ih]
      _ = total step due es (step e s) + (paid e s + held (step e s)) := add_left_comm _ _ _
      _ = total step due es (step e s) + (due e s + held s) := by rw [h]
      _ = due e s + total step due es (step e s) + held s := by
          rw [← add_assoc, add_comm (due e s)]

end QMon.Run
