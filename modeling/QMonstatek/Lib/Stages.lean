import Mathlib.Data.List.Induction
import QMonstatek.Lib.Simulation

/-!
# Runs that pass through stages

`stage s` is the stage the machine is in; `begins b e s` and `enters b e s` say what a step into
stage `b` has to be, the first or a later one.

`Passes b bs es s`  the run `es` from `s` stays in stage `b`, then in each of `bs` in turn, every
                    one of them entered by a step that `enters` allows;
`Since r es s`      the run has a step that begins with the first stage of `r`, and passes through
                    `r` from there to its end.

The rules are those for one more step at the end: it stays (`Since.stay`), enters the next stage
(`Since.enter`) or begins anew (`since_begin`).  `exec_rest` is the invariant rule for an invariant
that speaks of the events to come.

A machine that goes through the stages of a plan, one of several:

* `since_of_moved`   in a stage at work, its run has passed through the plan up to this stage, if
                     every step is `Moved`;
* `exec_opened`      what only the steps that `opens` allows bring about, such a step has brought
                     about;
* `exec_led`         a row of signals leads where one of them does (`Led`), if after one that leads
                     on no other does (`OnceOn`).
-/

namespace QMon.Run

variable {σ ε β κ ι : Type*} (step : ε → σ → σ) (stage : σ → β)
  (begins enters : β → ε → σ → Prop)

def Passes : β → List β → List ε → σ → Prop
  | b, [], es, s => Throughout step (fun s => stage s = b) es s
  | b, b' :: bs, es, s => ∃ es₁ e es₂, es = es₁ ++ e :: es₂ ∧
      Throughout step (fun s => stage s = b) es₁ s ∧ enters b' e (exec step es₁ s) ∧
      Passes b' bs es₂ (step e (exec step es₁ s))

def Since (r : List β) (es : List ε) (s : σ) : Prop :=
  ∃ es₁ e es₂, es = es₁ ++ e :: es₂ ∧ ∃ b bs, r = b :: bs ∧ begins b e (exec step es₁ s) ∧
    Passes step stage enters b bs es₂ (step e (exec step es₁ s))

theorem exec_snoc (es : List ε) (e : ε) (s : σ) :
    exec step (es ++ [e]) s = step e (exec step es s) := exec_append step es [e] s

theorem exec_rest {I : List ε → σ → Prop} (h : ∀ e es s, I (e :: es) s → I es (step e s))
    (es : List ε) (s : σ) (h0 : I es s) : I [] (exec step es s) := by
  induction es generalizing s with
  | nil => exact h0
  | cons e es ih => exact ih (step e s) (h e es s h0)

theorem throughout_snoc {P : σ → Prop} {es : List ε} {e : ε} {s : σ}
    (h : Throughout step P es s) (he : P (step e (exec step es s))) :
    Throughout step P (es ++ [e]) s := by
  induction es generalizing s with
  | nil => exact ⟨h, he⟩
  | cons e' es ih => exact ⟨h.1, ih h.2 he⟩

variable {step stage begins enters}

theorem Passes.stay {b : β} {bs : List β} {es : List ε} {e : ε} {s : σ}
    (h : Passes step stage enters b bs es s)
    (he : stage (step e (exec step es s)) = stage (exec step es s)) :
    Passes step stage enters b bs (es ++ [e]) s := by
  induction bs generalizing b es s with
  | nil =>
    have hlast : stage (exec step es s) = b := throughout_last step es s h
    exact throughout_snoc step h (he.trans hlast)
  | cons b' bs ih =>
    obtain ⟨es₁, e', es₂, rfl, h₁, hin, h₂⟩ := h
    rw [exec_append] at he
    exact ⟨es₁, e', es₂ ++ [e], List.append_assoc _ _ _, h₁, hin, ih h₂ he⟩

theorem Passes.enter {b c : β} {bs : List β} {es : List ε} {e : ε} {s : σ}
    (h : Passes step stage enters b bs es s) (hin : enters c e (exec step es s))
    (he : stage (step e (exec step es s)) = c) :
    Passes step stage enters b (bs ++ [c]) (es ++ [e]) s := by
  induction bs generalizing b es s with
  | nil => exact ⟨es, e, [], rfl, h, hin, he⟩
  | cons b' bs ih =>
    obtain ⟨es₁, e', es₂, rfl, h₁, hin', h₂⟩ := h
    rw [exec_append] at hin he
    exact ⟨es₁, e', es₂ ++ [e], List.append_assoc _ _ _, h₁, hin', ih h₂ hin he⟩

section
variable {r : List β} {es : List ε} {e : ε} {s : σ}

theorem Since.stay (h : Since step stage begins enters r es s)
    (he : stage (step e (exec step es s)) = stage (exec step es s)) :
    Since step stage begins enters r (es ++ [e]) s := by
  obtain ⟨es₁, e', es₂, rfl, b, bs, rfl, hin, h₂⟩ := h
  rw [exec_append] at he
  exact ⟨es₁, e', es₂ ++ [e], List.append_assoc _ _ _, b, bs, rfl, hin, h₂.stay he⟩

theorem Since.enter {c : β} (h : Since step stage begins enters r es s)
    (hin : enters c e (exec step es s)) (he : stage (step e (exec step es s)) = c) :
    Since step stage begins enters (r ++ [c]) (es ++ [e]) s := by
  obtain ⟨es₁, e', es₂, rfl, b, bs, rfl, hin', h₂⟩ := h
  rw [exec_append] at hin he
  exact ⟨es₁, e', es₂ ++ [e], List.append_assoc _ _ _, b, bs ++ [c], rfl, hin', h₂.enter hin he⟩

theorem since_begin {b : β} (hin : begins b e (exec step es s))
    (he : stage (step e (exec step es s)) = b) :
    Since step stage begins enters [b] (es ++ [e]) s :=
  ⟨es, e, [], rfl, b, [], rfl, hin, he⟩

end

/-! ## Plans -/

/-- what a step from `s` to `t` does to a machine at work on a plan `k`, of which it knows
`goes k` -/
inductive Moved (stage : σ → β) (working : β → Prop) (plan : κ → List β)
    (begins enters : κ → β → ε → σ → Prop) (goes : κ → σ → Prop) (e : ε) (s t : σ) : Prop
  | same (h : stage t = stage s) (kept : ∀ k, goes k s → goes k t)
  | halted (h : ¬ working (stage t))
  | begun (k : κ) (bs : List β) (first : plan k = stage t :: bs) (h : begins k (stage t) e s)
      (new : goes k t)
  | next (hw : working (stage s)) (h : ∀ k n, (plan k)[n]? = some (stage s) → goes k s →
      (plan k)[n + 1]? = some (stage t) ∧ enters k (stage t) e s ∧ goes k t)

section
variable {working : β → Prop} {plan : κ → List β} {begins enters : κ → β → ε → σ → Prop}
  {goes : κ → σ → Prop} {I : σ → Prop}

/-- **Rule for the stages of a plan.** -/
theorem since_of_moved (hI : ∀ e s, I s → I (step e s))
    (h : ∀ e s, I s → Moved stage working plan begins enters goes e s (step e s))
    {s : σ} (h0 : I s) (hrest : ¬ working (stage s)) (es : List ε)
    (hw : working (stage (exec step es s))) :
    ∃ k n, (plan k)[n]? = some (stage (exec step es s)) ∧ goes k (exec step es s) ∧
      Since step stage (begins k) (enters k) ((plan k).take (n + 1)) es s := by
  induction es using List.reverseRecOn with
  | nil => exact absurd hw hrest
  | append_singleton es e ih =>
    rw [exec_snoc] at hw ⊢
    have hmoved := h e _ (exec_inv step hI es s h0)
    cases hmoved with
    | same hs kept =>
      obtain ⟨k, n, hn, hk, hsince⟩ := ih (by rw [← hs]; exact hw)
      exact ⟨k, n, hn.trans (congrArg some hs.symm), kept k hk, hsince.stay hs⟩
    | halted hs => exact absurd hw hs
    | begun k bs first hb new =>
      refine ⟨k, 0, by rw [first]; rfl, new, ?_⟩
      rw [first]
      exact since_begin hb rfl
    | next hws hnext =>
      obtain ⟨k, n, hn, hk, hsince⟩ := ih hws
      obtain ⟨hn', henters, hk'⟩ := hnext k n hn hk
      refine ⟨k, n + 1, hn', hk', ?_⟩
      rw [List.take_add_one, hn']
      exact hsince.enter henters rfl

/-- **Rule for what a run has brought about.** -/
theorem exec_opened {P : σ → Prop} {opens : ε → σ → Prop} (hI : ∀ e s, I s → I (step e s))
    (h : ∀ e s, I s → P (step e s) → P s ∨ opens e s) {s : σ} (h0 : I s) (hnot : ¬ P s)
    (es : List ε) (hP : P (exec step es s)) :
    ∃ es₁ e es₂, es = es₁ ++ e :: es₂ ∧ opens e (exec step es₁ s) := by
  induction es using List.reverseRecOn with
  | nil => exact absurd hP hnot
  | append_singleton es e ih =>
    rw [exec_snoc] at hP
    rcases h e _ (exec_inv step hI es s h0) hP with hbefore | hopens
    · obtain ⟨es₁, e', es₂, rfl, hopens⟩ := ih hbefore
      exact ⟨es₁, e', es₂ ++ [e], by simp, hopens⟩
    · exact ⟨es, e, [], rfl, hopens⟩

end

/-! ## Rows of signals -/

/-- where the signals `sig` lead from `b`: nowhere, out of the stage, or on by one of them -/
inductive Led (off : List ι → β → β → Prop) (on : ι → β → β → Prop) (sig : List ι) (b : β) :
    β → Prop
  | same : Led off on sig b b
  | off {c : β} (h : off sig b c) : Led off on sig b c
  | on {c : β} (i : ι) (hi : i ∈ sig) (h : on i b c) : Led off on sig b c

/-- after a signal that leads on, or out, no other leads on -/
structure OnceOn (off : List ι → β → β → Prop) (on : ι → β → β → Prop) : Prop where
  mono : ∀ {sig sig' b c}, sig ⊆ sig' → off sig b c → off sig' b c
  off_off : ∀ {sig b c d}, off sig b c → off sig c d → off sig b d
  on_off : ∀ {sig i b c d}, i ∈ sig → on i b c → off sig c d → off sig b d
  off_on : ∀ {sig i b c d}, off sig b c → ¬ on i c d
  on_on : ∀ {i j b c d}, on i b c → ¬ on j c d

section
variable {off : List ι → β → β → Prop} {on : ι → β → β → Prop} (once : OnceOn off on)
include once

theorem Led.cons {i : ι} {sig : List ι} {b c d : β} (h : Led off on [i] b c)
    (h' : Led off on sig c d) : Led off on (i :: sig) b d := by
  have head : [i] ⊆ i :: sig := List.cons_subset_cons i (List.nil_subset sig)
  have tail : sig ⊆ i :: sig := List.subset_cons_self i sig
  cases h with
  | same =>
    cases h' with
    | same => exact .same
    | off h' => exact .off (once.mono tail h')
    | on j hj h' => exact .on j (tail hj) h'
  | off h =>
    cases h' with
    | same => exact .off (once.mono head h)
    | off h' => exact .off (once.off_off (once.mono head h) (once.mono tail h'))
    | on j hj h' => exact absurd h' (once.off_on h)
  | on j hj h =>
    cases h' with
    | same => exact .on j (head hj) h
    | off h' => exact .off (once.on_off (head hj) h (once.mono tail h'))
    | on j' hj' h' => exact absurd h' (once.on_on h)

/-- **Rule for a row of signals**, seen through `key`. -/
theorem exec_led {step : ι → σ → σ} {key : σ → β}
    (h : ∀ i s, Led off on [i] (key s) (key (step i s))) (sig : List ι) (s : σ) :
    Led off on sig (key s) (key (exec step sig s)) := by
  induction sig generalizing s with
  | nil => exact .same
  | cons i sig ih => exact Led.cons once (h i s) (ih (step i s))

end

end QMon.Run
