import Mathlib.Data.List.Basic
import Mathlib.Tactic.Common

/-!
# A loop over a list that its body may change

The list is part of the state (`items`), the loop goes from its first position to the end the list
had when the loop began, and the body `act` may make the list shorter meanwhile.

`positions n i s`  the `n` positions from `i` on, and the position of the read that found nothing;
`forEach s`        the whole loop.

`positions_of_kept`: a body that leaves the list alone runs once for every item.
`positions_past_end`: once the list is shorter than the end of the loop and stays so, a read finds
nothing.
-/

namespace QMon.LiveLoop

variable {σ α : Type*} (items : σ → List α) (act : α → σ → σ)

/-- the loop ends at a read that finds nothing -/
def positions : Nat → Nat → σ → σ × Option Nat
  | 0, _, s => (s, none)
  | n + 1, i, s =>
    match (items s)[i]? with
    | none => (s, some i)
    | some a => positions n (i + 1) (act a s)

def forEach (s : σ) : σ × Option Nat := positions items act (items s).length 0 s

variable {items act}

theorem positions_cons {s : σ} {i n : Nat} {a : α} (h : (items s)[i]? = some a) :
    positions items act (n + 1) i s = positions items act n (i + 1) (act a s) := by
  rw [positions, h]

/-- **The body leaves the list alone**: it runs for the items `mid` from position `i` on, and the
loop goes on behind them. -/
theorem positions_of_kept {I : σ → Prop} {l : List α} (n : Nat) (mid pre post : List α) (s : σ)
    (hkeep : ∀ a ∈ mid, ∀ s, I s → items s = l → I (act a s) ∧ items (act a s) = l)
    (hl : l = pre ++ mid ++ post) (hI : I s) (hs : items s = l) :
    I (mid.foldl (fun s a => act a s) s) ∧ items (mid.foldl (fun s a => act a s) s) = l ∧
      positions items act (mid.length + n) pre.length s =
        positions items act n (pre.length + mid.length) (mid.foldl (fun s a => act a s) s) := by
  induction mid generalizing pre s with
  | nil => exact ⟨hI, hs, by rw [List.length_nil, Nat.zero_add]; rfl⟩
  | cons a mid ih =>
    have hread : (items s)[pre.length]? = some a := by
      rw [hs, hl, List.append_assoc, List.getElem?_append_right (Nat.le_refl _), Nat.sub_self]
      rfl
    obtain ⟨hI', hs'⟩ := hkeep a List.mem_cons_self s hI hs
    obtain ⟨hI2, hs2, hpos⟩ := ih (pre ++ [a]) (act a s)
      (fun x hx => hkeep x (List.mem_cons_of_mem a hx)) (by rw [hl]; simp) hI' hs'
    refine ⟨hI2, hs2, ?_⟩
    rw [List.length_append, List.length_singleton] at hpos
    rw [List.length_cons, Nat.add_right_comm, positions_cons hread, hpos, List.foldl_cons,
      Nat.add_right_comm pre.length, ← Nat.add_assoc]

/-- the whole loop, over a list that its body leaves alone -/
theorem forEach_of_kept {I : σ → Prop} {l : List α}
    (hkeep : ∀ a ∈ l, ∀ s, I s → items s = l → I (act a s) ∧ items (act a s) = l)
    (s : σ) (hI : I s) (hs : items s = l) :
    forEach items act s = (l.foldl (fun s a => act a s) s, none) := by
  obtain ⟨-, -, hpos⟩ := positions_of_kept 0 l [] [] s hkeep (by simp) hI hs
  rw [forEach, hs]
  exact hpos

/-- **The list has become shorter** than the end of the loop, and the body leaves it alone now. -/
theorem positions_past_end {I : σ → Prop} {l : List α}
    (hkeep : ∀ a ∈ l, ∀ s, I s → items s = l → I (act a s) ∧ items (act a s) = l)
    (n i : Nat) (s : σ) (hI : I s) (hs : items s = l) (hn : 0 < n) (hend : l.length < i + n) :
    ∃ j, (positions items act n i s).2 = some j := by
  induction n generalizing i s with
  | zero => exact absurd hn (Nat.lt_irrefl 0)
  | succ n ih =>
    cases hread : (items s)[i]? with
    | none => exact ⟨i, by rw [positions, hread]⟩
    | some a =>
      have hi : i < l.length := by
        rw [hs] at hread
        exact (List.getElem?_eq_some_iff.mp hread).1
      have hmem : a ∈ l := hs ▸ List.mem_of_getElem? hread
      obtain ⟨hI', hs'⟩ := hkeep a hmem s hI hs
      rw [positions_cons hread]
      exact ih (i + 1) (act a s) hI' hs' (by omega) (by omega)

end QMon.LiveLoop
