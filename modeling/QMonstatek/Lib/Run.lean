import Mathlib.Data.List.Basic
import Mathlib.Tactic.Common

/-!
# Runs of a deterministic step function

`exec step es s`    the state after the events `es`, oldest first;
`Along step ok es s`  every event of the run meets `ok` in the state it is taken from;
`Throughout step P es s`  `P` holds in every state of the run.

The invariant rules are `exec_inv`, for an invariant that every step keeps, `exec_of_throughout`,
for one that is kept while `P` holds, and for one that the steps which meet `ok` keep
`throughout_of_along`, read off every state on the way, and `along_of_along`, read off every step.
`throughout_iff_along` and `along_iff` are for conditions that are exact.
-/

namespace QMon.Run

variable {σ ε : Type*} (step : ε → σ → σ)

def exec : List ε → σ → σ
  | [], s => s
  | e :: es, s => exec es (step e s)

theorem exec_cons (e : ε) (es : List ε) (s : σ) :
    exec step (e :: es) s = exec step es (step e s) := rfl

/-- every event of the run meets `ok` in the state it is taken from -/
def Along (ok : ε → σ → Prop) : List ε → σ → Prop
  | [], _ => True
  | e :: es, s => ok e s ∧ Along ok es (step e s)

/-- events that meet `ok` in every state -/
theorem along_of_forall {ok : ε → σ → Prop} (es : List ε) (s : σ)
    (h : ∀ e ∈ es, ∀ s, ok e s) : Along step ok es s := by
  induction es generalizing s with
  | nil => trivial
  | cons e es ih =>
    exact ⟨h e List.mem_cons_self s, ih _ fun e' he => h e' (List.mem_cons_of_mem e he)⟩

theorem along_append {ok : ε → σ → Prop} (es es' : List ε) (s : σ) :
    Along step ok (es ++ es') s ↔ Along step ok es s ∧ Along step ok es' (exec step es s) := by
  induction es generalizing s with
  | nil => exact ⟨fun h => ⟨trivial, h⟩, And.right⟩
  | cons e es ih => exact (and_congr Iff.rfl (ih (step e s))).trans and_assoc.symm

/-- **Invariant rule.** -/
theorem exec_inv {I : σ → Prop} (hstep : ∀ e s, I s → I (step e s)) (es : List ε) (s : σ)
    (h0 : I s) : I (exec step es s) := by
  induction es generalizing s with
  | nil => exact h0
  | cons e es ih => exact ih (step e s) (hstep e s h0)

def Throughout (P : σ → Prop) : List ε → σ → Prop
  | [], s => P s
  | e :: es, s => P s ∧ Throughout P es (step e s)

theorem throughout_head {P : σ → Prop} {es : List ε} {s : σ} (h : Throughout step P es s) :
    P s := by
  cases es with
  | nil => exact h
  | cons e es => exact h.1

theorem throughout_last {P : σ → Prop} (es : List ε) (s : σ) (h : Throughout step P es s) :
    P (exec step es s) := by
  induction es generalizing s with
  | nil => exact h
  | cons e es ih => exact ih (step e s) h.2

/-- **Invariant rule for a run that stays in `P`.** -/
theorem exec_of_throughout {I P : σ → Prop} (es : List ε) (s : σ)
    (hstep : ∀ e ∈ es, ∀ s, I s → P s → P (step e s) → I (step e s)) (h0 : I s)
    (hP : Throughout step P es s) : I (exec step es s) := by
  induction es generalizing s with
  | nil => exact h0
  | cons e es ih =>
    have hnext := throughout_head step hP.2
    exact ih (step e s) (fun e' he => hstep e' (List.mem_cons_of_mem e he))
      (hstep e List.mem_cons_self s h0 hP.1 hnext) hP.2

/-- **Invariant rule for every state on the way.** -/
theorem throughout_of_along {ok : ε → σ → Prop} {I P : σ → Prop} (hP : ∀ s, I s → P s)
    (hstep : ∀ e s, I s → ok e s → I (step e s)) (es : List ε) (s : σ) (h0 : I s)
    (hok : Along step ok es s) : Throughout step P es s := by
  induction es generalizing s with
  | nil => exact hP s h0
  | cons e es ih => exact ⟨hP s h0, ih (step e s) (hstep e s h0 hok.1) hok.2⟩

/-- **Invariant rule for a property of the steps**, each with the state it is taken from. -/
theorem along_of_along {ok Q : ε → σ → Prop} {I : σ → Prop}
    (hstep : ∀ e s, I s → ok e s → Q e s ∧ I (step e s)) (es : List ε) (s : σ) (h0 : I s)
    (hok : Along step ok es s) : Along step Q es s := by
  induction es generalizing s with
  | nil => trivial
  | cons e es ih =>
    obtain ⟨hq, hnext⟩ := hstep e s h0 hok.1
    exact ⟨hq, ih (step e s) hnext hok.2⟩

/-- where a step that does not meet `ok` breaks `P`, the rule has a converse -/
theorem along_of_throughout {ok : ε → σ → Prop} {P : σ → Prop}
    (h : ∀ e s, P s → P (step e s) → ok e s) (es : List ε) (s : σ) (hP : Throughout step P es s) :
    Along step ok es s := by
  induction es generalizing s with
  | nil => trivial
  | cons e es ih =>
    have hnext : P (step e s) := throughout_head step hP.2
    exact ⟨h e s hP.1 hnext, ih (step e s) hP.2⟩

/-- **Rule for an exact condition.** Where `P` is kept by the steps that meet `ok` and by no
others, a run keeps it iff all its steps do; `I` is what holds in any case. -/
theorem throughout_iff_along {I P : σ → Prop} {ok : ε → σ → Prop}
    (hI : ∀ e s, I s → I (step e s)) (h : ∀ e s, I s → P s → (P (step e s) ↔ ok e s))
    (es : List ε) (s : σ) (h0 : I s) (hP : P s) :
    Throughout step P es s ↔ Along step ok es s := by
  induction es generalizing s with
  | nil => exact iff_of_true hP trivial
  | cons e es ih =>
    constructor
    · rintro ⟨-, hnext⟩
      have hPn : P (step e s) := throughout_head step hnext
      exact ⟨(h e s h0 hP).mp hPn, (ih (step e s) (hI e s h0) hPn).mp hnext⟩
    · rintro ⟨hok, hrest⟩
      have hPn : P (step e s) := (h e s h0 hP).mpr hok
      exact ⟨hP, (ih (step e s) (hI e s h0) hPn).mpr hrest⟩

/-- the same for a property of the steps, with an invariant that the steps which have it keep -/
theorem along_iff_of_kept {I : σ → Prop} {P Q : ε → σ → Prop}
    (hI : ∀ e s, I s → P e s → I (step e s)) (h : ∀ e s, I s → (P e s ↔ Q e s)) (es : List ε)
    (s : σ) (h0 : I s) : Along step P es s ↔ Along step Q es s := by
  induction es generalizing s with
  | nil => exact Iff.rfl
  | cons e es ih =>
    have hrest (hp : P e s) := ih (step e s) (hI e s h0 hp)
    constructor
    · intro hP
      exact ⟨(h e s h0).mp hP.1, (hrest hP.1).mp hP.2⟩
    · intro hQ
      have hp := (h e s h0).mpr hQ.1
      exact ⟨hp, (hrest hp).mpr hQ.2⟩

/-- and with one that every step keeps -/
theorem along_iff {I : σ → Prop} {P Q : ε → σ → Prop} (hI : ∀ e s, I s → I (step e s))
    (h : ∀ e s, I s → (P e s ↔ Q e s)) (es : List ε) (s : σ) (h0 : I s) :
    Along step P es s ↔ Along step Q es s :=
  along_iff_of_kept step (fun e s hs _ => hI e s hs) h es s h0

/-- and among the runs whose steps meet `ok` -/
theorem along_iff_of_along {ok P Q : ε → σ → Prop} {I : σ → Prop}
    (hI : ∀ e s, I s → ok e s → I (step e s)) (h : ∀ e s, I s → ok e s → (P e s ↔ Q e s))
    (es : List ε) (s : σ) (h0 : I s) (hok : Along step ok es s) :
    Along step P es s ↔ Along step Q es s := by
  induction es generalizing s with
  | nil => exact Iff.rfl
  | cons e es ih =>
    exact and_congr (h e s h0 hok.1) (ih (step e s) (hI e s h0 hok.1) hok.2)

end QMon.Run
