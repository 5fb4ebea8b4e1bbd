import QMonstatek.Device.Step

/-!
# The file manager

`FileManagerView.qml`: the current folder and its listing, the selection, the clipboard, and the
two batches, bulk delete and move, that send one command for each completion signal.

A handler is a function `FileManagerView → FileManagerView`; the calls it makes on `m1device` are
collected in `calls`, in order.  The labels and the progress bar are only shown and are left out.
A dialog may be accepted at any time, with what it was last opened with.
-/

namespace QMon.FileManager
open Device

/-- one entry of a listing -/
structure FileEntry where
  name : String
  isDir : Bool
  deriving DecidableEq, Repr

structure FileManagerView where
  currentPath : String := "0:/"
  fileEntries : List FileEntry := []
  pendingDelete : Bool := false
  /-- as long as `fileEntries` -/
  checkedState : List Bool := []
  selectionCount : Nat := 0
  clipboardNames : List String := []
  clipboardSourcePath : String := ""
  moveQueue : List String := []
  moveTotal : Nat := 0
  moveSrcPath : String := ""
  bulkDeleteQueue : List FileEntry := []
  bulkDeleteTotal : Nat := 0
  /-- `reconnectRefreshTimer` is running -/
  reconnectRefresh : Bool := false
  /-- `itemName` and `itemIsDir` of `deleteConfirm` -/
  deleteConfirm : FileEntry := { name := "", isDir := false }
  /-- `entries` of `bulkDeleteConfirm` -/
  bulkDeleteConfirm : List FileEntry := []
  /-- `oldName` of `renameDialog` -/
  renameOldName : String := ""
  /-- `remotePath` of `downloadDialog` -/
  downloadRemotePath : String := ""
  /-- `m1device.connected` and `m1device.sdMounted` -/
  connected : Bool := false
  sdMounted : Bool := true
  calls : List Call := []
  deriving DecidableEq, Repr

namespace FileManagerView

def make (c : Call) (v : FileManagerView) : FileManagerView := { v with calls := v.calls ++ [c] }

/-! ## Selection -/

def clearSelection (v : FileManagerView) : FileManagerView :=
  { v with checkedState := v.fileEntries.map fun _ => false, selectionCount := 0 }

/-- `idx` is the index of a row -/
def toggleIndex (idx : Nat) (v : FileManagerView) : FileManagerView :=
  let arr := v.checkedState.set idx (!(v.checkedState.getD idx false))
  { v with checkedState := arr, selectionCount := arr.count true }

def selectAll (v : FileManagerView) : FileManagerView :=
  { v with
    checkedState := v.fileEntries.map fun _ => true, selectionCount := v.fileEntries.length }

def getSelectedEntries (v : FileManagerView) : List FileEntry :=
  ((v.fileEntries.zip v.checkedState).filter (·.2)).map (·.1)

def getSelectedNames (v : FileManagerView) : List String := v.getSelectedEntries.map (·.name)

/-! ## Paths -/

def pathJoin (base name : String) : String := withSlash base ++ name

def buildRemotePath (name : String) (v : FileManagerView) : String := pathJoin v.currentPath name

/-- `String.prototype.trim` -/
def jsTrim (s : String) : String :=
  let space (c : Char) : Bool :=
    (9 ≤ c.toNat && c.toNat ≤ 13) || c.toNat == 0x20 || c.toNat == 0xA0 || c.toNat == 0x1680
      || (0x2000 ≤ c.toNat && c.toNat ≤ 0x200A) || c.toNat == 0x2028 || c.toNat == 0x2029
      || c.toNat == 0x202F || c.toNat == 0x205F || c.toNat == 0x3000 || c.toNat == 0xFEFF
  String.ofList ((s.toList.dropWhile space).reverse.dropWhile space).reverse

/-- `path.replace(/\/+$/, "")` -/
def dropSlashes (path : String) : String :=
  String.ofList (path.toList.reverse.dropWhile (fun c => c == '/')).reverse

def parentPath (path : String) : String :=
  let parts := ((dropSlashes path).splitOn "/").dropLast
  if parts = [] ∨ parts.head? = some "" then "0:/" else "/".intercalate parts ++ "/"

/-! ## Listing and navigation -/

def refresh (v : FileManagerView) : FileManagerView :=
  if v.connected then v.make (.requestFileList v.currentPath) else v

/-- the path is committed when the listing arrives -/
def navigateTo (name : String) (v : FileManagerView) : FileManagerView :=
  v.make (.requestFileList (pathJoin v.currentPath name))

def navigateUp (v : FileManagerView) : FileManagerView :=
  v.make (.requestFileList (parentPath v.currentPath))

def onFileListReceived (path : String) (entries : List FileEntry) (v : FileManagerView) :
    FileManagerView :=
  { v with currentPath := path, fileEntries := entries, pendingDelete := false }.clearSelection

/-! ## Delete -/

/-- folders are deleted recursively, files directly -/
def deleteEntry (entry : FileEntry) (v : FileManagerView) : FileManagerView :=
  if entry.isDir then v.make (.deleteTree (v.buildRemotePath entry.name))
  else v.make (.deleteFile (v.buildRemotePath entry.name))

def bulkDelete (entries : List FileEntry) (v : FileManagerView) : FileManagerView :=
  match entries with
  | [] => v
  | entry :: rest =>
    deleteEntry entry { v with
      bulkDeleteQueue := rest, bulkDeleteTotal := entries.length, pendingDelete := true }

def onFileDeleteComplete (v : FileManagerView) : FileManagerView :=
  match v.bulkDeleteQueue with
  | next :: rest => deleteEntry next { v with bulkDeleteQueue := rest, pendingDelete := true }
  | [] => refresh { v with pendingDelete := false, bulkDeleteTotal := 0 }

/-! ## Rename and move -/

def cutSelection (v : FileManagerView) : FileManagerView :=
  let names := v.getSelectedNames
  if names = [] then v
  else { v with clipboardNames := names, clipboardSourcePath := v.currentPath }.clearSelection

def startPaste (v : FileManagerView) : FileManagerView :=
  match v.clipboardNames with
  | [] => v
  | name :: rest =>
    if v.clipboardSourcePath = v.currentPath then v
    else
      let v := { v with
        moveSrcPath := v.clipboardSourcePath, moveQueue := rest
        moveTotal := v.clipboardNames.length }
      v.make (.renameFile (pathJoin v.moveSrcPath name) (v.buildRemotePath name))

def onFileRenameComplete (v : FileManagerView) : FileManagerView :=
  match v.moveQueue with
  | next :: rest =>
    make (.renameFile (pathJoin v.moveSrcPath next) (v.buildRemotePath next))
      { v with moveQueue := rest }
  | [] =>
    if v.moveTotal > 0 then
      refresh { v with clipboardNames := [], clipboardSourcePath := "", moveTotal := 0 }
    else v.refresh

/-- the field of `renameDialog` holds `text` -/
def acceptRename (text : String) (v : FileManagerView) : FileManagerView :=
  let nn := jsTrim text
  if nn ≠ "" ∧ nn ≠ v.renameOldName then
    -- a single rename, not a move
    make (.renameFile (v.buildRemotePath v.renameOldName) (v.buildRemotePath nn))
      { v with moveTotal := 0 }
  else v

/-! ## Signals of the device object -/

def onSdMountChanged (mounted : Bool) (v : FileManagerView) : FileManagerView :=
  if mounted then v.refresh else { v with fileEntries := [] }.clearSelection

def onConnectionChanged (connected : Bool) (v : FileManagerView) : FileManagerView :=
  if connected ∧ v.pendingDelete then { v with reconnectRefresh := true } else v

def onSignal (s : Signal) (v : FileManagerView) : FileManagerView :=
  match s with
  | .fileOperationError _ => { v with pendingDelete := false }
  | .fileUploadComplete => v.refresh
  | .multiUploadComplete _ => v.refresh
  | .fileDeleteComplete => v.onFileDeleteComplete
  | .fileRenameComplete => v.onFileRenameComplete
  | .fileMkdirComplete => v.refresh
  | .sdMountChanged mounted => v.onSdMountChanged mounted
  | .connectionChanged connected => v.onConnectionChanged connected
  -- the others are only shown, or not connected
  | _ => v

/-! ## Events -/

inductive ViewEvent where
  | fileListReceived (path : String) (entries : List FileEntry)
  | signal (s : Signal)
  /-- the properties of `m1device` -/
  | device (connected sdMounted : Bool)
  | toggleIndex (idx : Nat)
  | selectAll
  | clearSelection
  | navigateTo (name : String)
  | navigateUp
  | refresh
  | cutSelection
  | startPaste
  /-- "Delete Selected" opens its dialog -/
  | openBulkDelete
  | acceptBulkDelete
  | openDelete (entry : FileEntry)
  | acceptDelete
  | openRename (name : String)
  | acceptRename (text : String)
  | acceptNewFolder (text : String)
  | mountClicked
  /-- the local paths that were selected, and their URLs -/
  | acceptUpload (localPaths urls : List String)
  | acceptFolderUpload (url : String)
  | openDownload (name : String)
  | acceptDownload (localPath : String)
  | reconnectRefresh
  /-- `Component.onCompleted` -/
  | completed
  deriving DecidableEq, Repr

/-- what enables the buttons of the toolbar -/
def usable (v : FileManagerView) : Bool := v.connected && v.sdMounted

def handle (e : ViewEvent) (v : FileManagerView) : FileManagerView :=
  match e with
  | .fileListReceived path entries => v.onFileListReceived path entries
  | .signal s => v.onSignal s
  | .device connected sdMounted => { v with connected := connected, sdMounted := sdMounted }
  | .toggleIndex idx => v.toggleIndex idx
  | .selectAll => v.selectAll
  | .clearSelection => v.clearSelection
  | .navigateTo name => v.navigateTo name
  | .navigateUp => if v.usable then v.navigateUp else v
  | .refresh => if v.usable then v.refresh else v
  | .cutSelection => v.cutSelection
  | .startPaste => if v.usable then v.startPaste else v
  | .openBulkDelete =>
    if v.getSelectedEntries ≠ [] then { v with bulkDeleteConfirm := v.getSelectedEntries } else v
  | .acceptBulkDelete => v.clearSelection.bulkDelete v.bulkDeleteConfirm
  | .openDelete entry => { v with deleteConfirm := entry }
  | .acceptDelete => deleteEntry v.deleteConfirm { v with pendingDelete := true }
  | .openRename name => { v with renameOldName := name }
  | .acceptRename text => v.acceptRename text
  | .acceptNewFolder text =>
    if text ≠ "" then v.make (.makeDirectory (v.buildRemotePath text)) else v
  | .mountClicked =>
    if v.connected then v.make (if v.sdMounted then .unmountSdCard else .mountSdCard) else v
  | .acceptUpload localPaths urls =>
    match localPaths with
    | [] => v
    | [localPath] => v.make (.uploadFile localPath
        (v.buildRemotePath (fileName (forwardSlashes localPath))))
    | _ => v.make (.uploadFiles urls v.currentPath)
  | .acceptFolderUpload url => v.make (.uploadFolder url v.currentPath)
  | .openDownload name => { v with downloadRemotePath := v.buildRemotePath name }
  | .acceptDownload localPath => v.make (.downloadFile v.downloadRemotePath localPath)
  | .reconnectRefresh =>
    if v.reconnectRefresh then
      refresh { v with reconnectRefresh := false, pendingDelete := false }
    else v
  | .completed => v.refresh

def step (e : ViewEvent) (v : FileManagerView) : FileManagerView :=
  handle e { v with calls := [] }

end FileManagerView

end QMon.FileManager
