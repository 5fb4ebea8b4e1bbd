import QMonstatek.Lib.Run
import QMonstatek.FileManager.Batches

/-!
# Failed batches

`Awaited`       what is known of a batch: whether a command of it is without a reply, and whether
                an error or the loss of the link came while it waited for one;
`Over e x`      no signal brings a further command of a batch that failed;
`Emptied e x`   a completion that meets a failed batch finds its queue empty.

`over_iff`: a run is done with its failed batches iff every completion in it meets them with an
empty queue.  The error handlers show the message and leave the queues, which the completion
handlers take up again, whatever action the completion belongs to.
-/

namespace QMon.FileManager
open Device FileManagerView

structure Awaited where
  waiting : Bool := false
  failed : Bool := false
  deriving DecidableEq, Repr

/-- the view, the last bulk delete and the last paste -/
structure Supervised where
  view : FileManagerView := {}
  bulk : Awaited := {}
  paste : Awaited := {}

/-- an error signal, or the loss of the link -/
def isFailure : Signal → Bool
  | .errorOccurred _ => true
  | .fileOperationError _ => true
  | .connectionChanged connected => !connected
  | _ => false

/-- the first command of a batch -/
def Awaited.started : Awaited := { waiting := true, failed := false }

def Awaited.broken (a : Awaited) : Awaited := { waiting := false, failed := a.failed || a.waiting }

/-- a completion, with the commands it brings -/
def Awaited.completed (next : List Call) (a : Awaited) : Awaited :=
  { a with waiting := next != [] }

def supervise (e : ViewEvent) (x : Supervised) : Supervised :=
  let v := FileManagerView.step e x.view
  let deletes := v.calls.filter isDelete
  let renames := v.calls.filter isRename
  match e with
  | .acceptBulkDelete =>
    if deletes = [] then { x with view := v } else { x with view := v, bulk := .started }
  | .startPaste =>
    if renames = [] then { x with view := v } else { x with view := v, paste := .started }
  | .signal .fileDeleteComplete => { x with view := v, bulk := x.bulk.completed deletes }
  | .signal .fileRenameComplete => { x with view := v, paste := x.paste.completed renames }
  | .signal s =>
    if isFailure s then { view := v, bulk := x.bulk.broken, paste := x.paste.broken }
    else { x with view := v }
  | _ => { x with view := v }

/-- no signal brings a further command of a failed batch -/
structure Over (e : ViewEvent) (x : Supervised) : Prop where
  bulk : ∀ s, e = .signal s → x.bulk.failed = true →
    (FileManagerView.step e x.view).calls.filter isDelete = []
  paste : ∀ s, e = .signal s → x.paste.failed = true →
    (FileManagerView.step e x.view).calls.filter isRename = []

structure Emptied (e : ViewEvent) (x : Supervised) : Prop where
  bulk : e = .signal .fileDeleteComplete → x.bulk.failed = true → x.view.bulkDeleteQueue = []
  paste : e = .signal .fileRenameComplete → x.paste.failed = true → x.view.moveQueue = []

/-! ## The commands of a signal -/

section
variable (v : FileManagerView)

theorem onFileDeleteComplete_deletes :
    v.onFileDeleteComplete.calls.filter isDelete = v.calls.filter isDelete ↔
      v.bulkDeleteQueue = [] := by
  unfold onFileDeleteComplete
  split
  · rename_i next rest hq
    refine iff_of_false (fun h => ?_) (by rw [hq]; exact List.cons_ne_nil _ _)
    have hlen := congrArg List.length h
    unfold deleteEntry at hlen
    split at hlen <;> simp [make, isDelete] at hlen
  · rename_i hq
    exact iff_of_true (refresh_calls _ fun _ => rfl) hq

theorem onFileRenameComplete_renames :
    v.onFileRenameComplete.calls.filter isRename = v.calls.filter isRename ↔
      v.moveQueue = [] := by
  unfold onFileRenameComplete
  split
  · rename_i next rest hq
    refine iff_of_false (fun h => ?_) (by rw [hq]; exact List.cons_ne_nil _ _)
    have hlen := congrArg List.length h
    simp [make, isRename] at hlen
  · rename_i hq
    refine iff_of_true ?_ hq
    split <;> exact refresh_calls _ fun _ => rfl

/-- the other completion brings a rename or a refresh -/
theorem onFileRenameComplete_noDelete :
    v.onFileRenameComplete.calls.filter isDelete = v.calls.filter isDelete := by
  unfold onFileRenameComplete
  split
  · show List.filter isDelete (v.calls ++ [_]) = _
    rw [List.filter_append]
    exact List.append_nil _
  · split <;> exact refresh_calls _ fun _ => rfl

theorem onFileDeleteComplete_noRename :
    v.onFileDeleteComplete.calls.filter isRename = v.calls.filter isRename := by
  unfold onFileDeleteComplete
  split
  · unfold deleteEntry
    split
    all_goals
      show List.filter isRename (v.calls ++ [_]) = _
      rw [List.filter_append]
      exact List.append_nil _
  · exact refresh_calls _ fun _ => rfl

theorem worksOnBatch_signal {s : Signal} (hd : s ≠ .fileDeleteComplete)
    (hr : s ≠ .fileRenameComplete) : (ViewEvent.signal s).worksOnBatch = false := by
  cases s with
  | fileDeleteComplete => exact absurd rfl hd
  | fileRenameComplete => exact absurd rfl hr
  | _ => rfl

end

/-! ## Steps -/

section
variable (s : Signal) (v : FileManagerView)

theorem step_deletes : (FileManagerView.step (.signal s) v).calls.filter isDelete = [] ↔
    (s = .fileDeleteComplete → v.bulkDeleteQueue = []) := by
  by_cases hd : s = .fileDeleteComplete
  · subst hd
    exact (onFileDeleteComplete_deletes { v with calls := [] }).trans
      ⟨fun h _ => h, fun h => h rfl⟩
  · refine iff_of_true ?_ fun h => absurd h hd
    by_cases hr : s = .fileRenameComplete
    · subst hr
      exact onFileRenameComplete_noDelete { v with calls := [] }
    · exact onSignal_calls { v with calls := [] } (worksOnBatch_signal hd hr) fun _ => rfl

theorem step_renames : (FileManagerView.step (.signal s) v).calls.filter isRename = [] ↔
    (s = .fileRenameComplete → v.moveQueue = []) := by
  by_cases hr : s = .fileRenameComplete
  · subst hr
    exact (onFileRenameComplete_renames { v with calls := [] }).trans
      ⟨fun h _ => h, fun h => h rfl⟩
  · refine iff_of_true ?_ fun h => absurd h hr
    by_cases hd : s = .fileDeleteComplete
    · subst hd
      exact onFileDeleteComplete_noRename { v with calls := [] }
    · exact onSignal_calls { v with calls := [] } (worksOnBatch_signal hd hr) fun _ => rfl

end

theorem over_step_iff (e : ViewEvent) (x : Supervised) : Over e x ↔ Emptied e x := by
  constructor
  · rintro ⟨hbulk, hpaste⟩
    refine ⟨?_, ?_⟩
    · rintro rfl hfailed
      exact (step_deletes _ x.view).mp (hbulk _ rfl hfailed) rfl
    · rintro rfl hfailed
      exact (step_renames _ x.view).mp (hpaste _ rfl hfailed) rfl
  · rintro ⟨hbulk, hpaste⟩
    refine ⟨?_, ?_⟩
    · rintro s rfl hfailed
      refine (step_deletes s x.view).mpr fun hs => hbulk (congrArg _ hs) hfailed
    · rintro s rfl hfailed
      refine (step_renames s x.view).mpr fun hs => hpaste (congrArg _ hs) hfailed

/-- **A failed batch is over** along a run iff every completion in it finds the queue of a failed
batch empty. -/
theorem over_iff (es : List ViewEvent) :
    Run.Along supervise Over es {} ↔ Run.Along supervise Emptied es {} :=
  Run.along_iff supervise (I := fun _ => True) (fun _ _ _ => trivial)
    (fun e x _ => over_step_iff e x) es {} trivial

/-- the delete of the first of two files fails; later the user deletes a third one, and its
completion deletes the second -/
theorem failedBatch_resumed :
    let x := Run.exec supervise [.device true true,
      .fileListReceived "0:/" [⟨"a", false⟩, ⟨"b", false⟩, ⟨"c", false⟩], .toggleIndex 0,
      .toggleIndex 1, .openBulkDelete, .acceptBulkDelete,
      .signal (.errorOccurred "File not found"), .openDelete ⟨"c", false⟩, .acceptDelete] {}
    x.bulk.failed = true ∧ ¬ Over (.signal .fileDeleteComplete) x ∧
      (FileManagerView.step (.signal .fileDeleteComplete) x.view).calls
        = [.deleteFile "0:/b"] := by
  intro x
  have hfailed : x.bulk.failed = true := by decide +kernel
  have hcalls : (FileManagerView.step (.signal .fileDeleteComplete) x.view).calls
      = [.deleteFile "0:/b"] := by decide +kernel
  refine ⟨hfailed, fun h => ?_, hcalls⟩
  have hnone := h.bulk _ rfl hfailed
  rw [hcalls] at hnone
  exact absurd hnone (by decide)

end QMon.FileManager
