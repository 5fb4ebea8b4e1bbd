import Mathlib.Data.List.Basic
import Mathlib.Tactic.Common

/-!
# Lines of a stream that comes in pieces

`complete sep stream`   the parts of the stream that a separator ends, in order;
`openPart sep stream`   what follows the last separator.

`append`: of what came before, only the open part matters for what a piece completes.
-/

namespace QMon.Lines

variable {α : Type*} (sep : α)

/-- a stream has no separator, or a last one -/
theorem cut_last (stream : List α) :
    sep ∉ stream ∨ ∃ front back, stream = front ++ sep :: back ∧ sep ∉ back := by
  induction stream with
  | nil => exact .inl List.not_mem_nil
  | cons a stream ih =>
    rcases ih with h | ⟨front, back, rfl, hback⟩
    · by_cases ha : sep = a
      · exact .inr ⟨[], stream, by rw [ha, List.nil_append], h⟩
      · exact .inl fun hmem => (List.mem_cons.mp hmem).elim ha h
    · exact .inr ⟨a :: front, back, rfl, hback⟩

variable [BEq α]

def complete (stream : List α) : List (List α) := (stream.splitOn sep).dropLast

def openPart (stream : List α) : List α :=
  (stream.splitOn sep).getLast (List.splitOn_ne_nil sep stream)

theorem splitOn_eq (stream : List α) :
    stream.splitOn sep = complete sep stream ++ [openPart sep stream] :=
  (List.dropLast_concat_getLast (List.splitOn_ne_nil sep stream)).symm

/-- `complete` and `openPart` as one equation determines them -/
theorem eq_of_splitOn {stream part : List α} {parts : List (List α)}
    (h : stream.splitOn sep = parts ++ [part]) :
    complete sep stream = parts ∧ openPart sep stream = part := by
  rw [splitOn_eq] at h
  obtain ⟨hparts, hpart⟩ := List.append_inj' h rfl
  exact ⟨hparts, (List.cons.inj hpart).1⟩

variable [LawfulBEq α]

theorem of_notMem {stream : List α} (h : sep ∉ stream) :
    complete sep stream = [] ∧ openPart sep stream = stream :=
  eq_of_splitOn sep (List.splitOn_eq_singleton h)

/-- **A separator** completes the part in front of it. -/
theorem of_append_cons (front back : List α) :
    complete sep (front ++ sep :: back) =
        complete sep front ++ openPart sep front :: complete sep back ∧
      openPart sep (front ++ sep :: back) = openPart sep back := by
  refine eq_of_splitOn sep ?_
  rw [List.splitOn_append_cons_self, splitOn_eq sep front, splitOn_eq sep back]
  simp only [List.append_assoc, List.cons_append, List.nil_append]

theorem notMem_openPart (stream : List α) : sep ∉ openPart sep stream := by
  rcases cut_last sep stream with h | ⟨front, back, rfl, hback⟩
  · rwa [(of_notMem sep h).2]
  · rwa [(of_append_cons sep front back).2, (of_notMem sep hback).2]

/-- **The next piece** completes parts of what was left open. -/
theorem append (stream piece : List α) :
    complete sep (stream ++ piece) =
        complete sep stream ++ complete sep (openPart sep stream ++ piece) ∧
      openPart sep (stream ++ piece) = openPart sep (openPart sep stream ++ piece) := by
  rcases cut_last sep stream with h | ⟨front, back, rfl, hback⟩
  · obtain ⟨hnone, hall⟩ := of_notMem sep h
    rw [hnone, hall]
    exact ⟨rfl, rfl⟩
  · obtain ⟨hparts, hopen⟩ := of_append_cons sep front back
    obtain ⟨hnone, hall⟩ := of_notMem sep hback
    rw [List.append_assoc, List.cons_append, hparts, hopen, hnone, hall]
    obtain ⟨hparts', hopen'⟩ := of_append_cons sep front (back ++ piece)
    rw [hparts', hopen']
    exact ⟨by simp only [List.append_assoc, List.cons_append, List.nil_append], rfl⟩

end QMon.Lines
