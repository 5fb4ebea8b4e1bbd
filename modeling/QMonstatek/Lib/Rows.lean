import Mathlib.Data.List.DropRight

/-!
# A list model and its view

A model that changes its rows says so by a `Notice`, and a view keeps rows of its own: it drops
the removed ones, reads the inserted ones from the model, and reads all of them after a reset.

`follow_first`, `follow_last`   a view that was right stays right where the first row goes and
                                where a row comes behind the last;
`room_append`                   a model that drops its oldest row to make room has the last `n`.

A model that changes on another thread posts its notices, and they are followed when the rows have
moved on.  `Due rows ns view` says that the view still catches up with `rows` by the notices `ns`
that are on their way: `Due.followed`, with `Due.posted` and `Due.told` for a row that comes behind
the last while they are.
-/

namespace QMon.Rows

variable {α : Type*}

inductive Notice where
  /-- the rows `first` to `last` are gone -/
  | removed (first last : Nat)
  /-- the rows `first` to `last` are new -/
  | inserted (first last : Nat)
  | reset
  deriving DecidableEq, Repr

/-- a view with the rows `view` hears of a change that left the model with `rows` -/
def Notice.follow (rows view : List α) : Notice → List α
  | .removed first last => view.take first ++ view.drop (last + 1)
  | .inserted first last =>
    view.take first ++ (rows.drop first).take (last + 1 - first) ++ view.drop first
  | .reset => rows

theorem follow_inserted (front mid back : List α) (h : mid ≠ []) :
    (Notice.inserted front.length (front.length + mid.length - 1)).follow (front ++ mid ++ back)
      (front ++ back) = front ++ mid ++ back := by
  have hpos : 0 < mid.length := List.length_pos_iff.mpr h
  have hcount : front.length + mid.length - 1 + 1 - front.length = mid.length := by omega
  show List.take _ (front ++ back) ++ List.take _ (List.drop _ (front ++ mid ++ back)) ++
    List.drop _ (front ++ back) = _
  rw [hcount, List.append_assoc front mid back, List.drop_left, List.take_left, List.take_left,
    List.drop_left, List.append_assoc]

/-- the first row goes -/
theorem follow_first (rows view : List α) :
    (Notice.removed 0 0).follow rows view = view.tail := by
  show [] ++ view.drop 1 = view.tail
  rw [List.nil_append, List.drop_one]

/-- a row comes behind the last one -/
theorem follow_last (rows : List α) (a : α) :
    (Notice.inserted rows.length rows.length).follow (rows ++ [a]) rows = rows ++ [a] := by
  have h := follow_inserted rows [a] [] (List.cons_ne_nil a [])
  rw [List.append_nil, List.append_nil] at h
  exact h

/-! ## Notices on their way -/

theorem follow_came {rows : List α} {row : Nat} (hrow : row < rows.length) (view : List α) :
    (Notice.inserted row row).follow rows view =
      view.take row ++ rows[row] :: view.drop row := by
  show view.take row ++ (rows.drop row).take (row + 1 - row) ++ view.drop row = _
  rw [Nat.add_sub_cancel_left, List.drop_eq_getElem_cons hrow, List.take_succ_cons, List.take_zero,
    List.append_assoc]
  rfl

/-- the notices `ns`, of rows that came behind the last one and of first rows that went, bring the
view to `rows` -/
inductive Due (rows : List α) : List Notice → List α → Prop
  | done : Due rows [] rows
  | came {view : List α} {ns : List Notice} (row : Nat) (hrow : row < rows.length)
      (hview : row ≤ view.length) (h : Due rows ns ((Notice.inserted row row).follow rows view)) :
      Due rows (.inserted row row :: ns) view
  | went {a : α} {view : List α} {ns : List Notice} (h : Due rows ns view) :
      Due rows (.removed 0 0 :: ns) (a :: view)

/-- the view after the notices `ns` -/
def caughtUp (rows : List α) (ns : List Notice) (view : List α) : List α :=
  ns.foldl (fun view n => n.follow rows view) view

section
variable {rows view : List α} {ns : List Notice} {n : Notice}

theorem Due.deliver (h : Due rows (n :: ns) view) : Due rows ns (n.follow rows view) := by
  cases h with
  | came row hrow hview h => exact h
  | went h =>
    rw [follow_first]
    exact h

/-- **The view catches up.** -/
theorem Due.followed (h : Due rows ns view) : caughtUp rows ns view = rows := by
  induction ns generalizing view with
  | nil =>
    cases h
    rfl
  | cons n ns ih => exact ih h.deliver

/-- a row comes behind the last one, and the view hears of it when the notices have arrived -/
theorem Due.posted (h : Due rows ns view) (a : α) :
    Due (rows ++ [a]) (ns ++ [.inserted rows.length rows.length]) view := by
  induction h with
  | done =>
    refine .came rows.length (by simp) (Nat.le_refl _) ?_
    rw [follow_last]
    exact .done
  | @came view ns row hrow hview h ih =>
    refine .came row (by simp; omega) hview ?_
    rw [follow_came hrow] at ih
    rw [follow_came (by simp; omega), List.getElem_append_left hrow]
    exact ih
  | went h ih => exact .went ih

/-- and it hears of it at once -/
theorem Due.told (h : Due rows ns view) (a : α) : Due (rows ++ [a]) ns (view ++ [a]) := by
  induction h with
  | done => exact .done
  | @came view ns row hrow hview h ih =>
    refine .came row (by simp; omega) (by simp; omega) ?_
    rw [follow_came hrow, List.append_assoc] at ih
    rw [follow_came (by simp; omega), List.getElem_append_left hrow,
      List.take_append_of_le_length hview, List.drop_append_of_le_length hview]
    exact ih
  | went h ih => exact .went ih

/-- a view that waits for new rows only is no longer than the model -/
theorem Due.length_le (h : Due rows ns view) (hns : ∀ n ∈ ns, n ≠ .removed 0 0) :
    view.length ≤ rows.length := by
  induction h with
  | done => exact Nat.le_refl _
  | @came view ns row hrow hview h ih =>
    have hrest := ih fun n hn => hns n (List.mem_cons_of_mem _ hn)
    rw [follow_came hrow] at hrest
    simp only [List.length_append, List.length_cons, List.length_take, List.length_drop] at hrest
    omega
  | went h => exact absurd rfl (hns _ List.mem_cons_self)

theorem follow_last_of_le (h : view.length ≤ rows.length) (a : α) :
    (Notice.inserted rows.length rows.length).follow (rows ++ [a]) view = view ++ [a] := by
  rw [follow_came (by simp), List.take_of_length_le h, List.drop_of_length_le h]
  simp

end

/-! ## The last rows -/

/-- the model before a new row comes -/
def room (n : Nat) (rows : List α) : List α := if rows.length ≥ n then rows.tail else rows

theorem rtake_eq (n : Nat) (l : List α) : l.rtake n = l.drop (l.length - n) := rfl

theorem length_rtake (n : Nat) (l : List α) : (l.rtake n).length = min n l.length := by
  rw [rtake_eq, List.length_drop]
  omega

/-- **The last `n` rows** of what came, if the oldest is dropped to make room. -/
theorem room_append (n : Nat) (hn : 0 < n) (l : List α) (a : α) :
    room n (l.rtake n) ++ [a] = (l ++ [a]).rtake n := by
  obtain ⟨k, rfl⟩ := Nat.exists_eq_succ_of_ne_zero (Nat.pos_iff_ne_zero.mp hn)
  rw [List.rtake_concat_succ]
  congr 1
  unfold room
  rw [length_rtake]
  split
  · rw [rtake_eq, rtake_eq, List.tail_drop]
    congr 1
    omega
  · have hall : l.length ≤ k := by omega
    rw [rtake_eq, rtake_eq, Nat.sub_eq_zero_of_le hall,
      Nat.sub_eq_zero_of_le (Nat.le_succ_of_le hall)]

end QMon.Rows
