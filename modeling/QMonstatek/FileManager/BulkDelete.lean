import QMonstatek.Lib.Run
import QMonstatek.Lib.Batch
import QMonstatek.FileManager.Batches

/-!
# Bulk delete

`Batch`           a confirmed bulk delete: the folder that was current then, its entries, and the
                  delete commands it has issued;
`Batch.InFolder`  the commands are those of the first entries, one each, in that folder;
`SameFolder e x`  a completion that brings the next command finds the batch's folder current.

`inFolder_iff`: a run keeps every batch in its folder iff every completion of it finds the folder
current.  The path of a command is built when the reply to the one before arrives, from the folder
that a listing may have replaced in the meantime.
-/

namespace QMon.FileManager
open Device FileManagerView

def deleteCall (folder : String) (entry : FileEntry) : Call :=
  if entry.isDir then .deleteTree (pathJoin folder entry.name)
  else .deleteFile (pathJoin folder entry.name)

structure Batch where
  folder : String := ""
  entries : List FileEntry := []
  issued : List Call := []
  deriving DecidableEq, Repr

def Batch.InFolder (b : Batch) : Prop :=
  b.issued = (b.entries.take b.issued.length).map (deleteCall b.folder)

/-- the view, and the last bulk delete that was confirmed -/
structure Managed where
  view : FileManagerView := {}
  batch : Batch := {}

/-- the commands of a batch are those of its confirmation and of the completions after it -/
def manage (e : ViewEvent) (x : Managed) : Managed :=
  let v := FileManagerView.step e x.view
  let deletes := v.calls.filter isDelete
  match e with
  | .acceptBulkDelete =>
    if x.view.bulkDeleteConfirm = [] then { x with view := v }
    else
      { view := v
        batch := {
          folder := x.view.currentPath, entries := x.view.bulkDeleteConfirm, issued := deletes } }
  | .signal .fileDeleteComplete =>
    { view := v, batch := { x.batch with issued := x.batch.issued ++ deletes } }
  | _ => { x with view := v }

def SameFolder (e : ViewEvent) (x : Managed) : Prop :=
  e = .signal .fileDeleteComplete → x.view.bulkDeleteQueue ≠ [] →
    withSlash x.view.currentPath = withSlash x.batch.folder

/-! ## What the handlers leave of the queue -/

section
variable (v : FileManagerView)

theorem deleteEntry_eq (entry : FileEntry) :
    v.deleteEntry entry = v.make (deleteCall v.currentPath entry) := by
  unfold deleteEntry deleteCall
  split <;> rfl

theorem isDelete_deleteCall (folder : String) (entry : FileEntry) :
    isDelete (deleteCall folder entry) = true := by
  unfold deleteCall
  split <;> rfl

theorem refresh_bulkDeleteQueue : v.refresh.bulkDeleteQueue = v.bulkDeleteQueue :=
  congrArg BatchState.bulkDeleteQueue (refresh_batchState v)

/-- only the confirmation of entries and a completion work on the queue -/
theorem handle_bulkDeleteQueue {e : ViewEvent}
    (hconfirm : e = .acceptBulkDelete → v.bulkDeleteConfirm = [])
    (hcomplete : e ≠ .signal .fileDeleteComplete) :
    (v.handle e).bulkDeleteQueue = v.bulkDeleteQueue := by
  cases hw : e.worksOnBatch with
  | false => exact congrArg BatchState.bulkDeleteQueue (handle_batchState v hw)
  | true =>
    unfold ViewEvent.worksOnBatch at hw
    split at hw
    · show (bulkDelete v.bulkDeleteConfirm v.clearSelection).bulkDeleteQueue = _
      rw [hconfirm rfl]
      rfl
    · show v.cutSelection.bulkDeleteQueue = _
      unfold cutSelection
      dsimp only
      split <;> rfl
    · show (if v.usable then v.startPaste else v).bulkDeleteQueue = _
      split
      · unfold startPaste
        split
        · rfl
        · split <;> rfl
      · rfl
    · exact absurd rfl hcomplete
    · show v.onFileRenameComplete.bulkDeleteQueue = _
      unfold onFileRenameComplete
      split
      · rfl
      · split <;> exact refresh_bulkDeleteQueue _
    · exact Bool.noConfusion hw

end

/-! ## Steps -/

theorem deleteCall_folder_iff (p q : String) (entry : FileEntry) :
    deleteCall p entry = deleteCall q entry ↔ withSlash p = withSlash q := by
  have hjoin : pathJoin p entry.name = pathJoin q entry.name ↔ withSlash p = withSlash q :=
    String.append_left_inj entry.name
  unfold deleteCall
  split
  · rw [Call.deleteTree.injEq, hjoin]
  · rw [Call.deleteFile.injEq, hjoin]

/-- the queue holds what the batch has not issued a command for -/
def Queued (x : Managed) : Prop :=
  x.view.bulkDeleteQueue = x.batch.entries.drop x.batch.issued.length

section
variable (e : ViewEvent) (x : Managed)

/-- the events of no batch -/
theorem manage_other (hconfirm : e = .acceptBulkDelete → x.view.bulkDeleteConfirm = [])
    (hcomplete : e ≠ .signal .fileDeleteComplete) :
    (manage e x).batch = x.batch ∧
      (manage e x).view.bulkDeleteQueue = x.view.bulkDeleteQueue := by
  have hq := handle_bulkDeleteQueue { x.view with calls := [] } hconfirm hcomplete
  have hm : manage e x = { x with view := FileManagerView.step e x.view } := by
    unfold manage
    cases e with
    | acceptBulkDelete => exact if_pos (hconfirm rfl)
    | signal s =>
      cases s with
      | fileDeleteComplete => exact absurd rfl hcomplete
      | _ => rfl
    | _ => rfl
  rw [hm]
  exact ⟨rfl, hq⟩

/-- a confirmation starts a batch with its first command -/
theorem manage_confirm {entry : FileEntry} {rest : List FileEntry}
    (h : x.view.bulkDeleteConfirm = entry :: rest) :
    (manage .acceptBulkDelete x).batch =
        { folder := x.view.currentPath, entries := entry :: rest
          issued := [deleteCall x.view.currentPath entry] } ∧
      (manage .acceptBulkDelete x).view.bulkDeleteQueue = rest := by
  have hv : FileManagerView.step .acceptBulkDelete x.view =
      make (deleteCall x.view.currentPath entry)
        { clearSelection { x.view with calls := [] } with
          bulkDeleteQueue := rest, bulkDeleteTotal := (entry :: rest).length
          pendingDelete := true } := by
    show bulkDelete x.view.bulkDeleteConfirm (clearSelection { x.view with calls := [] }) = _
    rw [h]
    exact deleteEntry_eq _ _
  have hcalls : [deleteCall x.view.currentPath entry].filter isDelete =
      [deleteCall x.view.currentPath entry] := by
    rw [List.filter_cons, if_pos (isDelete_deleteCall _ _), List.filter_nil]
  unfold manage
  dsimp only
  rw [hv, h, if_neg (List.cons_ne_nil _ _)]
  exact ⟨congrArg (Batch.mk x.view.currentPath (entry :: rest)) hcalls, rfl⟩

theorem step_complete_next {next : FileEntry} {rest : List FileEntry}
    (h : x.view.bulkDeleteQueue = next :: rest) :
    FileManagerView.step (.signal .fileDeleteComplete) x.view =
      make (deleteCall x.view.currentPath next)
        { x.view with calls := [], bulkDeleteQueue := rest, pendingDelete := true } := by
  show onFileDeleteComplete { x.view with calls := [] } = _
  unfold onFileDeleteComplete
  dsimp only
  rw [h]
  exact deleteEntry_eq _ _

/-- a completion brings the command of the next entry, in the folder current now -/
theorem manage_next {next : FileEntry} {rest : List FileEntry}
    (h : x.view.bulkDeleteQueue = next :: rest) :
    (manage (.signal .fileDeleteComplete) x).batch =
        { x.batch with issued := x.batch.issued ++ [deleteCall x.view.currentPath next] } ∧
      (manage (.signal .fileDeleteComplete) x).view.bulkDeleteQueue = rest := by
  have hcalls : [deleteCall x.view.currentPath next].filter isDelete =
      [deleteCall x.view.currentPath next] := by
    rw [List.filter_cons, if_pos (isDelete_deleteCall _ _), List.filter_nil]
  unfold manage
  dsimp only
  rw [step_complete_next x h]
  exact ⟨congrArg (fun l => Batch.mk x.batch.folder x.batch.entries (x.batch.issued ++ l)) hcalls,
    rfl⟩

theorem manage_last (h : x.view.bulkDeleteQueue = []) :
    (manage (.signal .fileDeleteComplete) x).batch = x.batch ∧
      (manage (.signal .fileDeleteComplete) x).view.bulkDeleteQueue = [] := by
  have hv : FileManagerView.step (.signal .fileDeleteComplete) x.view =
      refresh { x.view with calls := [], pendingDelete := false, bulkDeleteTotal := 0 } := by
    show onFileDeleteComplete { x.view with calls := [] } = _
    unfold onFileDeleteComplete
    dsimp only
    rw [h]
  have hcalls : (refresh { x.view with
      calls := [], pendingDelete := false, bulkDeleteTotal := 0 }).calls.filter isDelete = [] := by
    unfold refresh
    split <;> rfl
  unfold manage
  dsimp only
  rw [hv, hcalls, refresh_bulkDeleteQueue, List.append_nil]
  exact ⟨rfl, h⟩

/-- an event confirms entries, completes a command, or is of no batch -/
theorem manage_cases : (e = .acceptBulkDelete ∧ ∃ entry rest,
      x.view.bulkDeleteConfirm = entry :: rest) ∨ e = .signal .fileDeleteComplete ∨
    e ≠ .signal .fileDeleteComplete ∧ (manage e x).batch = x.batch ∧
      (manage e x).view.bulkDeleteQueue = x.view.bulkDeleteQueue := by
  by_cases hcomplete : e = .signal .fileDeleteComplete
  · exact .inr (.inl hcomplete)
  · by_cases hconfirm : e = .acceptBulkDelete → x.view.bulkDeleteConfirm = []
    · exact .inr (.inr ⟨hcomplete, manage_other e x hconfirm hcomplete⟩)
    · push Not at hconfirm
      exact .inl ⟨hconfirm.1, List.exists_cons_of_ne_nil hconfirm.2⟩

theorem queued_manage (h : Queued x) : Queued (manage e x) := by
  unfold Queued at h ⊢
  rcases manage_cases e x with ⟨rfl, entry, rest, hc⟩ | rfl | ⟨-, hb, hq⟩
  · obtain ⟨hb, hq⟩ := manage_confirm x hc
    rw [hb, hq]
    rfl
  · cases hq : x.view.bulkDeleteQueue with
    | nil =>
      obtain ⟨hb, hn⟩ := manage_last x hq
      rw [hb, hn, ← h, hq]
    | cons next rest =>
      obtain ⟨hb, hn⟩ := manage_next x hq
      rw [hb, hn]
      exact (Batch.drop_append (h.symm.trans hq) _).symm
  · rw [hb, hq]
    exact h

theorem inFolder_manage_iff (hq : Queued x) (hb : x.batch.InFolder) :
    (manage e x).batch.InFolder ↔ SameFolder e x := by
  rcases manage_cases e x with ⟨rfl, entry, rest, hc⟩ | rfl | ⟨hcomplete, hbatch, -⟩
  · rw [(manage_confirm x hc).1]
    exact iff_of_true rfl fun h => ViewEvent.noConfusion h
  · cases hqueue : x.view.bulkDeleteQueue with
    | nil =>
      rw [(manage_last x hqueue).1]
      exact iff_of_true hb fun _ hne => absurd hqueue hne
    | cons next rest =>
      have hnext := Batch.inOrder_append_iff (deleteCall x.batch.folder) hb (hq.symm.trans hqueue)
        (deleteCall x.view.currentPath next)
      rw [(manage_next x hqueue).1]
      refine hnext.trans ((deleteCall_folder_iff _ _ _).trans ?_)
      unfold SameFolder
      rw [hqueue]
      exact ⟨fun h _ _ => h, fun h => h rfl (List.cons_ne_nil _ _)⟩
  · rw [hbatch]
    exact iff_of_true hb fun he => absurd he hcomplete

end

/-- **Bulk delete stays in its folder** throughout a run iff every completion that brings the next
command finds that folder current. -/
theorem inFolder_iff (es : List ViewEvent) :
    Run.Throughout manage (fun x => x.batch.InFolder) es {} ↔
      Run.Along manage SameFolder es {} :=
  Run.throughout_iff_along manage queued_manage inFolder_manage_iff es {} rfl rfl

/-- two folders are selected and deleted; before the first is gone the user opens another folder,
and its entry of the same name is deleted instead of the second -/
theorem inFolder_moved :
    let entries : List FileEntry := [⟨"a", true⟩, ⟨"b", true⟩]
    let x := Run.exec manage [.device true true, .fileListReceived "0:/IR/" entries, .selectAll,
      .openBulkDelete, .acceptBulkDelete, .navigateUp, .fileListReceived "0:/" [⟨"b", true⟩],
      .signal .fileDeleteComplete] {}
    x.batch.folder = "0:/IR/" ∧ x.batch.entries = entries ∧
      x.batch.issued = [.deleteTree "0:/IR/a", .deleteTree "0:/b"] ∧ ¬ x.batch.InFolder := by
  intro entries x
  have hfolder : x.batch.folder = "0:/IR/" := by decide +kernel
  have hentries : x.batch.entries = entries := by decide +kernel
  have hissued : x.batch.issued = [.deleteTree "0:/IR/a", .deleteTree "0:/b"] := by
    decide +kernel
  refine ⟨hfolder, hentries, hissued, fun h => ?_⟩
  unfold Batch.InFolder at h
  rw [hfolder, hentries, hissued] at h
  exact absurd h (by decide +kernel)

end QMon.FileManager
