import Mathlib.Algebra.Order.BigOperators.Group.List
import Mathlib.Algebra.Order.Group.Nat
import Mathlib.Algebra.Ring.Nat
import Mathlib.Data.List.Basic

/-!
# Items joined one by one

`push sep text item`   a separator, unless the text is empty, and then the item.

Items pushed one by one are joined by the separator (`foldl_push`) once the text is not empty: an
empty item in front gets no separator behind it.  `foldl_push_eq_iff` says when nothing is missing.
-/

namespace QMon.Joining

variable {α : Type*} (sep : α)

def push (text item : List α) : List α :=
  (if text.isEmpty then text else text ++ [sep]) ++ item

theorem push_nil (item : List α) : push sep [] item = item := rfl

theorem push_of_ne {text : List α} (h : text ≠ []) (item : List α) :
    push sep text item = text ++ sep :: item := by
  have hempty : ¬ text.isEmpty = true := fun he => h (List.isEmpty_iff.mp he)
  unfold push
  rw [if_neg hempty, List.append_assoc]
  rfl

theorem push_ne_nil {text : List α} (h : text ≠ []) (item : List α) : push sep text item ≠ [] := by
  rw [push_of_ne sep h]
  exact List.append_ne_nil_of_left_ne_nil h _

/-- **Behind a text** that is not empty every item gets its separator. -/
theorem foldl_push {text : List α} (h : text ≠ []) (items : List (List α)) :
    items.foldl (push sep) text = [sep].intercalate (text :: items) := by
  induction items generalizing text with
  | nil => exact List.intercalate_singleton.symm
  | cons item items ih =>
    rw [List.foldl_cons, ih (push_ne_nil sep h item), push_of_ne sep h, List.intercalate_cons_cons]
    cases items with
    | nil =>
      rw [List.intercalate_singleton, List.intercalate_singleton, List.append_assoc]
      rfl
    | cons next items =>
      rw [List.intercalate_cons_cons, List.intercalate_cons_cons]
      simp

theorem foldl_push_of_head {item : List α} (h : item ≠ []) (items : List (List α)) :
    (item :: items).foldl (push sep) [] = [sep].intercalate (item :: items) := by
  rw [List.foldl_cons, push_nil, foldl_push sep h]

/-! ## Lengths -/

/-- one separator less than items -/
theorem length_intercalate (items : List (List α)) :
    ([sep].intercalate items).length = (items.map List.length).sum + (items.length - 1) := by
  induction items with
  | nil => rfl
  | cons item items ih =>
    cases items with
    | nil =>
      rw [List.intercalate_singleton]
      rfl
    | cons next items =>
      rw [List.intercalate_cons_cons, List.length_append, List.length_append, ih]
      simp only [List.map_cons, List.sum_cons, List.length_cons, List.length_nil]
      omega

theorem length_foldl_push_le (items : List (List α)) :
    (items.foldl (push sep) []).length ≤ ([sep].intercalate items).length := by
  induction items with
  | nil => exact Nat.le_refl _
  | cons item items ih =>
    by_cases h : item = []
    · rw [h, List.foldl_cons, push_nil]
      refine Nat.le_trans ih ?_
      rw [length_intercalate, length_intercalate, List.map_cons, List.sum_cons, List.length_cons]
      omega
    · rw [foldl_push_of_head sep h]

/-- a longer item makes the joined text longer -/
theorem length_intercalate_lt {ι : Type*} {f g : ι → List α} {keys : List ι}
    (hle : ∀ i ∈ keys, (f i).length ≤ (g i).length)
    (hlt : ∃ i ∈ keys, (f i).length < (g i).length) :
    ([sep].intercalate (keys.map f)).length < ([sep].intercalate (keys.map g)).length := by
  have hsum := List.sum_lt_sum (fun i => (f i).length) (fun i => (g i).length) hle hlt
  rw [length_intercalate, length_intercalate, List.map_map, List.map_map, List.length_map,
    List.length_map]
  exact Nat.add_lt_add_right hsum _

/-- **Nothing is missing** unless the first of several items is empty. -/
theorem foldl_push_eq_iff (items : List (List α)) :
    items.foldl (push sep) [] = [sep].intercalate items ↔
      (items.head? = some [] → items.length = 1) := by
  cases items with
  | nil => exact iff_of_true rfl fun h => absurd h (by simp)
  | cons item items =>
    by_cases h : item = []
    · subst h
      cases items with
      | nil => exact iff_of_true rfl fun _ => rfl
      | cons next items =>
        refine iff_of_false (fun heq => ?_) fun himp => absurd (himp rfl) (by simp)
        -- the separator behind the empty item is the one that is missing
        have hle := length_foldl_push_le sep (next :: items)
        have hlen : ((next :: items).foldl (push sep) []).length =
            ([] ++ [sep] ++ [sep].intercalate (next :: items)).length :=
          congrArg List.length (heq.trans List.intercalate_cons_cons)
        rw [List.nil_append, List.length_append, List.length_singleton] at hlen
        omega
    · refine iff_of_true (foldl_push_of_head sep h items) fun hhead => absurd ?_ h
      exact Option.some.inj hhead

end QMon.Joining
