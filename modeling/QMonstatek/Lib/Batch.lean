import Mathlib.Data.List.Basic
import Mathlib.Tactic.Common

/-!
# Batches

A batch has a list of items and sends one command for each of them, in order, the next one when
the one before is answered.

`InOrder cmd items issued`  the commands issued so far are those of the first items;
`inOrder_append_iff`        what the next command has to be.
-/

namespace QMon.Batch

variable {α β : Type*} (cmd : α → β)

def InOrder (items : List α) (issued : List β) : Prop :=
  issued = (items.take issued.length).map cmd

theorem inOrder_singleton (item : α) (rest : List α) :
    InOrder cmd (item :: rest) [cmd item] := rfl

/-- the batch goes on in order iff the next command is that of the next item -/
theorem inOrder_append_iff {items rest : List α} {issued : List β} {next : α}
    (h : InOrder cmd items issued) (hdrop : items.drop issued.length = next :: rest) (c : β) :
    InOrder cmd items (issued ++ [c]) ↔ c = cmd next := by
  have htake : items.take (issued.length + 1) = items.take issued.length ++ [next] := by
    rw [List.take_add, hdrop]
    rfl
  unfold InOrder
  rw [List.length_append, List.length_singleton, htake, List.map_append]
  constructor
  · intro h
    exact List.singleton_inj.mp (List.append_inj_right' h rfl)
  · rintro rfl
    exact congrArg (· ++ _) h

/-- what is left after one more command -/
theorem drop_append {items rest : List α} {issued : List β} {next : α}
    (hdrop : items.drop issued.length = next :: rest) (c : β) :
    items.drop (issued ++ [c]).length = rest := by
  rw [List.length_append, List.length_singleton, ← List.drop_drop, hdrop]
  rfl

end QMon.Batch
