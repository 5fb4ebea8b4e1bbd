import QMonstatek.FileManager.View

/-!
# What the handlers leave of the batches

`BatchState`          the members the two batches live in: the queue of the bulk delete, and the
                      clipboard, the queue and the source folder of the move;
`handle_batchState`   all but five handlers leave them alone.
-/

namespace QMon.FileManager
open Device FileManagerView

structure BatchState where
  bulkDeleteQueue : List FileEntry
  clipboardNames : List String
  clipboardSourcePath : String
  moveQueue : List String
  moveSrcPath : String

namespace FileManagerView

def batchState (v : FileManagerView) : BatchState :=
  { bulkDeleteQueue := v.bulkDeleteQueue, clipboardNames := v.clipboardNames
    clipboardSourcePath := v.clipboardSourcePath, moveQueue := v.moveQueue
    moveSrcPath := v.moveSrcPath }

end FileManagerView

def isDelete : Call → Bool
  | .deleteFile _ => true
  | .deleteTree _ => true
  | _ => false

def isRename : Call → Bool
  | .renameFile _ _ => true
  | _ => false

/-- the events whose handlers work on a batch -/
def FileManagerView.ViewEvent.worksOnBatch : ViewEvent → Bool
  | .acceptBulkDelete => true
  | .cutSelection => true
  | .startPaste => true
  | .signal .fileDeleteComplete => true
  | .signal .fileRenameComplete => true
  | _ => false

section
variable (v : FileManagerView)

@[simp] theorem refresh_batchState : v.refresh.batchState = v.batchState := by
  unfold refresh
  split <;> rfl

/-- a refresh is no command of a batch -/
theorem refresh_calls {p : Call → Bool} (hp : ∀ path, p (.requestFileList path) = false) :
    v.refresh.calls.filter p = v.calls.filter p := by
  unfold refresh
  split
  · show List.filter p (v.calls ++ [_]) = _
    rw [List.filter_append, List.filter_cons, hp, List.filter_nil]
    exact List.append_nil _
  · rfl

theorem onSignal_batchState {s : Signal} (h : (ViewEvent.signal s).worksOnBatch = false) :
    (v.onSignal s).batchState = v.batchState := by
  unfold onSignal
  cases s with
  | fileDeleteComplete => exact Bool.noConfusion h
  | fileRenameComplete => exact Bool.noConfusion h
  | sdMountChanged mounted =>
    show (v.onSdMountChanged mounted).batchState = _
    unfold onSdMountChanged
    split
    · exact refresh_batchState v
    · rfl
  | connectionChanged connected =>
    show (v.onConnectionChanged connected).batchState = _
    unfold onConnectionChanged
    split <;> rfl
  | fileUploadComplete => exact refresh_batchState v
  | multiUploadComplete total => exact refresh_batchState v
  | fileMkdirComplete => exact refresh_batchState v
  | _ => rfl

/-- such a signal brings a refresh at most -/
theorem onSignal_calls {s : Signal} (h : (ViewEvent.signal s).worksOnBatch = false)
    {p : Call → Bool} (hp : ∀ path, p (.requestFileList path) = false) :
    (v.onSignal s).calls.filter p = v.calls.filter p := by
  unfold onSignal
  cases s with
  | fileDeleteComplete => exact Bool.noConfusion h
  | fileRenameComplete => exact Bool.noConfusion h
  | sdMountChanged mounted =>
    show (v.onSdMountChanged mounted).calls.filter p = _
    unfold onSdMountChanged
    split
    · exact refresh_calls v hp
    · rfl
  | connectionChanged connected =>
    show (v.onConnectionChanged connected).calls.filter p = _
    unfold onConnectionChanged
    split <;> rfl
  | fileUploadComplete => exact refresh_calls v hp
  | multiUploadComplete total => exact refresh_calls v hp
  | fileMkdirComplete => exact refresh_calls v hp
  | _ => rfl

theorem handle_batchState {e : ViewEvent} (h : e.worksOnBatch = false) :
    (v.handle e).batchState = v.batchState := by
  unfold handle
  cases e with
  | acceptBulkDelete => exact Bool.noConfusion h
  | cutSelection => exact Bool.noConfusion h
  | startPaste => exact Bool.noConfusion h
  | signal s => exact onSignal_batchState v h
  | acceptRename text =>
    dsimp only
    unfold acceptRename
    dsimp only
    split <;> rfl
  | acceptUpload localPaths urls =>
    dsimp only
    split <;> rfl
  | acceptDelete =>
    dsimp only
    unfold deleteEntry
    split <;> rfl
  | reconnectRefresh =>
    dsimp only
    split
    · exact refresh_batchState _
    · rfl
  | refresh =>
    dsimp only
    split
    · exact refresh_batchState _
    · rfl
  | completed => exact refresh_batchState v
  | _ =>
    first
    | rfl
    | (dsimp only; split <;> rfl)

end

end QMon.FileManager
