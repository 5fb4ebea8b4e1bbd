import Mathlib.Data.List.Basic
import Mathlib.Tactic.Common

/-!
# A list in blocks of a fixed length

`block n l i`      the block of `l` at index `i`: at most `n` items, from `i * n` on;
`blockCount n l`   how many blocks `l` has, the last one perhaps short;
`pieces n l`       the blocks of `l` with a short one at the end, empty where `n` divides the
                   length.  It is the only cut of `l` into blocks of `n` and a shorter rest
                   (`eq_pieces_iff`).
-/

namespace QMon.Blocks

variable {α β : Type*} (n : Nat) (l : List α)

def block (i : Nat) : List α := (l.drop (i * n)).take n

def blockCount : Nat := (l.length + n - 1) / n

theorem lt_blockCount {n : Nat} (hn : 0 < n) {i : Nat} :
    i < blockCount n l ↔ i * n < l.length := by
  unfold blockCount
  rw [Nat.lt_iff_add_one_le, Nat.le_div_iff_mul_le hn, Nat.add_mul, Nat.one_mul]
  omega

/-- block `i` ends with the list at the latest -/
theorem block_eq_take_min (i : Nat) :
    block n l i = (l.drop (i * n)).take (min n (l.length - i * n)) := by
  unfold block
  rw [← List.length_drop, List.take_eq_take_min]

/-- the blocks joined are the list again -/
theorem take_append_block (i : Nat) : l.take (i * n) ++ block n l i = l.take ((i + 1) * n) := by
  unfold block
  rw [Nat.add_mul, Nat.one_mul, List.take_add]

theorem flatMap_range_block (m : Nat) :
    (List.range m).flatMap (block n l) = l.take (m * n) := by
  induction m with
  | zero => simp
  | succ m ih =>
    rw [List.range_succ, List.flatMap_append, ih, List.flatMap_singleton]
    exact take_append_block n l m

theorem flatMap_blocks {n : Nat} (hn : 0 < n) :
    (List.range (blockCount n l)).flatMap (block n l) = l := by
  rw [flatMap_range_block]
  refine List.take_of_length_le ?_
  have h := lt_blockCount l hn (i := blockCount n l)
  omega

/-- one more item of a list indexed by the naturals -/
theorem take_range_succ (f : Nat → β) {i m : Nat} (hi : i < m) :
    ((List.range m).map f).take (i + 1) = ((List.range m).map f).take i ++ [f i] := by
  rw [List.take_add_one]
  simp [hi]

theorem drop_range_map (f : Nat → β) {i m : Nat} (hi : i < m) :
    ((List.range m).map f).drop i = f i :: ((List.range m).map f).drop (i + 1) := by
  have hlen : i < ((List.range m).map f).length := by
    rw [List.length_map, List.length_range]
    exact hi
  rw [List.drop_eq_getElem_cons hlen, List.getElem_map, List.getElem_range]

/-! ## Blocks with a short one at the end -/

def pieces : List (List α) := (List.range (l.length / n + 1)).map (block n l)

variable {n l}

theorem length_block_le (i : Nat) : (block n l i).length ≤ n := List.length_take_le _ _

theorem length_le_of_mem_pieces {b : List α} (h : b ∈ pieces n l) : b.length ≤ n := by
  obtain ⟨i, -, rfl⟩ := List.mem_map.mp h
  exact length_block_le i

theorem pieces_of_length_lt (h : l.length < n) : pieces n l = [l] := by
  unfold pieces
  rw [Nat.div_eq_of_lt h]
  show [block n l 0] = [l]
  unfold block
  rw [Nat.zero_mul, List.drop_zero, List.take_of_length_le (Nat.le_of_lt h)]

theorem pieces_append (hn : 0 < n) {b : List α} (hb : b.length = n) :
    pieces n (b ++ l) = b :: pieces n l := by
  unfold pieces
  have hcount : (b ++ l).length / n + 1 = (l.length / n + 1) + 1 := by
    rw [List.length_append, hb, Nat.add_comm n, Nat.add_div_right _ hn]
  rw [hcount, List.range_succ_eq_map, List.map_cons, List.map_map]
  congr 1
  · unfold block
    rw [Nat.zero_mul, List.drop_zero, ← hb, List.take_left]
  · refine List.map_congr_left fun i _ => ?_
    show block n (b ++ l) (i + 1) = block n l i
    unfold block
    rw [Nat.add_mul, Nat.one_mul, Nat.add_comm, ← List.drop_drop, List.drop_append_of_le_length
      (Nat.le_of_eq hb.symm), List.drop_of_length_le (Nat.le_of_eq hb), List.nil_append]

theorem pieces_flatten_append (hn : 0 < n) {bs : List (List α)} (hbs : ∀ b ∈ bs, b.length = n)
    (hl : l.length < n) : pieces n (bs.flatten ++ l) = bs ++ [l] := by
  induction bs with
  | nil => exact pieces_of_length_lt hl
  | cons b bs ih =>
    rw [List.flatten_cons, List.append_assoc, pieces_append hn (hbs b List.mem_cons_self),
      ih fun b' hb' => hbs b' (List.mem_cons_of_mem _ hb')]
    rfl

theorem flatten_pieces (hn : 0 < n) (l : List α) : (pieces n l).flatten = l := by
  unfold pieces
  rw [← List.flatMap_def, flatMap_range_block]
  refine List.take_of_length_le ?_
  have h := Nat.lt_div_mul_add hn (a := l.length)
  rw [Nat.add_mul, Nat.one_mul]
  omega

/-- full blocks and a short one join to `l` iff they are its pieces -/
theorem eq_pieces_iff (hn : 0 < n) {bs : List (List α)} (hbs : ∀ b ∈ bs, b.length = n)
    {r : List α} (hr : r.length < n) : bs ++ [r] = pieces n l ↔ bs.flatten ++ r = l := by
  constructor
  · intro h
    have hf := congrArg List.flatten h
    rw [flatten_pieces hn] at hf
    simpa using hf
  · rintro rfl
    exact (pieces_flatten_append hn hbs hr).symm

end QMon.Blocks
