import QMonstatek.Lib.Run

/-!
# Two machines, one finer than the other

The moves of the fine machine are read as events of the coarse one, none or several for each
move: `trace m x` is what the move `m` is in the state `x`, `traces` what a run is.

* `exec_traces`     a run of the fine machine, seen through `view`, is the run over its traces;
* `along_traces`    and its events meet what the traces of all moves meet;
* `exec_realised`   where every event has moves of its own, every run of the coarse machine is
                    one of the fine machine;
* `exec_related`    two machines that take the same events stay related.
-/

namespace QMon.Run

variable {σ ε τ μ : Type*} (step : ε → σ → σ) (move : μ → τ → τ) (trace : μ → τ → List ε)

theorem exec_append (es es' : List ε) (s : σ) :
    exec step (es ++ es') s = exec step es' (exec step es s) := by
  induction es generalizing s with
  | nil => rfl
  | cons e es ih => exact ih (step e s)

/-- the events of a run of the fine machine -/
def traces : List μ → τ → List ε
  | [], _ => []
  | m :: ms, x => trace m x ++ traces ms (move m x)

variable {step move trace} {view : τ → σ} {I : τ → Prop}

section
variable (h : ∀ m x, I x → view (move m x) = exec step (trace m x) (view x))
  (hI : ∀ m x, I x → I (move m x))
include h hI

/-- **Simulation rule**, with what the moves need and keep as `I`. -/
theorem exec_traces (ms : List μ) (x : τ) (h0 : I x) :
    view (exec move ms x) = exec step (traces move trace ms x) (view x) := by
  induction ms generalizing x with
  | nil => rfl
  | cons m ms ih =>
    show view (exec move ms (move m x)) = exec step (trace m x ++ traces move trace ms (move m x)) _
    rw [ih _ (hI m x h0), h m x h0, exec_append]

/-- what the traces of single moves meet, the traces of runs meet -/
theorem along_traces {ok : ε → σ → Prop}
    (hok : ∀ m x, I x → Along step ok (trace m x) (view x)) (ms : List μ) (x : τ) (h0 : I x) :
    Along step ok (traces move trace ms x) (view x) := by
  induction ms generalizing x with
  | nil => trivial
  | cons m ms ih =>
    refine (along_append step _ _ _).mpr ⟨hok m x h0, ?_⟩
    rw [← h m x h0]
    exact ih (move m x) (hI m x h0)

end

/-- **Rule for the converse**, with what the moves of an event need and keep as `I`. -/
theorem exec_realised {ok : ε → σ → Prop}
    (h : ∀ e x, I x → ok e (view x) → ∃ ms, view (exec move ms x) = step e (view x) ∧
      I (exec move ms x))
    (es : List ε) (x : τ) (h0 : I x) (hok : Along step ok es (view x)) :
    ∃ ms, view (exec move ms x) = exec step es (view x) := by
  induction es generalizing x with
  | nil => exact ⟨[], rfl⟩
  | cons e es ih =>
    obtain ⟨ms, hview, hI⟩ := h e x h0 hok.1
    obtain ⟨ms', hrest⟩ := ih (exec move ms x) hI (by rw [hview]; exact hok.2)
    exact ⟨ms ++ ms', by rw [exec_append, hrest, hview]; rfl⟩

/-- **Lockstep rule.** -/
theorem exec_related {step' : ε → τ → τ} {R : σ → τ → Prop}
    (h : ∀ e s x, R s x → R (step e s) (step' e x)) (es : List ε) {s : σ} {x : τ} (h0 : R s x) :
    R (exec step es s) (exec step' es x) := by
  induction es generalizing s x with
  | nil => exact h0
  | cons e es ih => exact ih (h e s x h0)

end QMon.Run
