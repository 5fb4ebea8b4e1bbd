import QMonstatek.Lib.Run

/-!
# A sender with one command on its way

The sender has a list of commands left and sends the next one when the last is acknowledged; the
acknowledgement of the last one ends its work, which it reports.

`history es s`  what is seen of a run, oldest first: commands and reports;
`Sender ..`     `Left cs s` has the commands `cs` left in state `s`, one more unacknowledged:
                an acknowledgement takes the first of them, every other event leaves them.

`Sender.complete`: a run that acknowledges all it sends sends what was left, in order, reports
the end once and is `Done`.
-/

namespace QMon.StopAndWait
open Run

variable {σ ε γ δ : Type*} (step : ε → σ → σ) (seen : σ → List (γ ⊕ δ))

/-- what is seen in the states after the events -/
def history : List ε → σ → List (γ ⊕ δ)
  | [], _ => []
  | e :: es, s => seen (step e s) ++ history es (step e s)

/-- the commands among them -/
def commands (l : List (γ ⊕ δ)) : List γ := l.filterMap Sum.getLeft?

theorem commands_map_inl (l : List γ) : commands (δ := δ) (l.map .inl) = l := by
  unfold commands
  rw [List.filterMap_map]
  exact List.filterMap_some

theorem commands_append (l l' : List (γ ⊕ δ)) : commands (l ++ l') = commands l ++ commands l' :=
  List.filterMap_append

variable (ack : ε → Prop) (other : ε → σ → Prop) (Left : List γ → σ → Prop) (Done : σ → Prop)
  (total : δ)

/-- the commands `cs` were left, and one was acknowledged -/
def Answered (cs : List γ) (s' : σ) : Prop :=
  match cs with
  | [] => seen s' = [.inr total] ∧ Done s'
  | c :: cs => seen s' = [.inl c] ∧ Left cs s'

structure Sender : Prop where
  acked : ∀ {cs e s}, Left cs s → ack e → Answered seen Left Done total cs (step e s)
  waits : ∀ {cs e s}, Left cs s → other e s → seen (step e s) = [] ∧ Left cs (step e s)
  rests : ∀ {e s}, Done s → ack e ∨ other e s → seen (step e s) = [] ∧ Done (step e s)

namespace Sender

variable {step seen ack other Left Done total}
  (h : Sender step seen ack other Left Done total) (es : List ε) {s : σ}
include h

theorem done_run (hs : Done s) (hes : Along step (fun e s => ack e ∨ other e s) es s) :
    history step seen es s = [] ∧ Done (exec step es s) := by
  induction es generalizing s with
  | nil => exact ⟨rfl, hs⟩
  | cons e es ih =>
    obtain ⟨hseen, hdone⟩ := h.rests hs hes.1
    obtain ⟨hrest, hend⟩ := ih hdone hes.2
    refine ⟨?_, hend⟩
    unfold history
    rw [hseen, hrest]
    rfl

variable [DecidablePred ack]

/-- as many commands are sent as were acknowledged, or all of them -/
theorem run {cs : List γ} (hs : Left cs s)
    (hes : Along step (fun e s => ack e ∨ other e s) es s) :
    (es.countP (ack ·) ≤ cs.length ∧
        history step seen es s = (cs.take (es.countP (ack ·))).map .inl) ∨
      history step seen es s = cs.map .inl ++ [.inr total] ∧ Done (exec step es s) := by
  induction es generalizing s cs with
  | nil => exact .inl ⟨Nat.zero_le _, rfl⟩
  | cons e es ih =>
    unfold history
    by_cases he : ack e
    · rw [List.countP_cons_of_pos (by simpa using he)]
      have hacked := h.acked hs he
      cases cs with
      | nil =>
        obtain ⟨hseen, hdone⟩ := hacked
        obtain ⟨hrest, hend⟩ := h.done_run es hdone hes.2
        refine .inr ⟨?_, hend⟩
        rw [hseen, hrest]
        rfl
      | cons c cs =>
        obtain ⟨hseen, hleft⟩ := hacked
        rw [hseen]
        rcases ih hleft hes.2 with ⟨hcount, hrest⟩ | ⟨hrest, hend⟩
        · exact .inl ⟨Nat.succ_le_succ hcount, by rw [hrest]; rfl⟩
        · exact .inr ⟨by rw [hrest]; rfl, hend⟩
    · rw [List.countP_cons_of_neg (by simpa using he)]
      obtain ⟨hseen, hleft⟩ := h.waits hs (hes.1.resolve_left he)
      rw [hseen]
      exact ih hleft hes.2

/-- **Where all that is sent is acknowledged**, the command on its way at the start included, all
that was left is sent. -/
theorem complete {cs : List γ} (hs : Left cs s)
    (hes : Along step (fun e s => ack e ∨ other e s) es s)
    (hacked : (commands (history step seen es s)).length < es.countP (ack ·)) :
    history step seen es s = cs.map .inl ++ [.inr total] ∧ Done (exec step es s) := by
  rcases h.run es hs hes with ⟨hcount, hrun⟩ | hdone
  · rw [hrun, commands_map_inl, List.length_take] at hacked
    omega
  · exact hdone

end Sender

end QMon.StopAndWait
