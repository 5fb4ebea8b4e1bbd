import QMonstatek.Device.State
import QMonstatek.Protocol.Commands

/-!
# The operations of the user

The calls of `m1_device.h` that start a transfer, erase or swap a bank, or send a file command,
and the chunk senders the ACK handler drives.

The three transfer machines are copies of one another: `Machine` holds what differs (chunk size,
commands, timeouts, progress signal) and `sendStart`, `sendNextChunk` are the common code.  The
start calls differ in their checks and keep their own bodies.
-/

namespace QMon.Device
open Rpc

/-! ## What tells the three machines apart -/

structure Machine where
  CHUNK_SIZE : Nat
  cmdStart : UInt8
  cmdData : UInt8
  cmdFinish : UInt8
  /-- the timeout while the START reply is awaited -/
  startMs : Nat
  /-- the timeout restarted by the START ACK and by every DATA ACK -/
  chunkMs : Nat
  /-- the timeout of FINISH, from the image size -/
  finishMs : UInt32 → Nat
  /-- how the offset is written in front of a chunk -/
  offsetBytes : UInt32 → List UInt8
  progress : Int → Signal
  /-- the status line announced before FINISH -/
  finishStatus : List Signal

def Kind.machine : Kind → Machine
  | .fwUpdate =>
    { CHUNK_SIZE := 1024, cmdStart := CMD_FW_UPDATE_START, cmdData := CMD_FW_UPDATE_DATA
      cmdFinish := CMD_FW_UPDATE_FINISH, startMs := 15000, chunkMs := 10000
      finishMs := fun _ => 15000, offsetBytes := hostBytes, progress := .fwUpdateProgress
      finishStatus := [] }
  | .espUpdate =>
    -- 30 s for every MiB, computed in double precision (exact here), plus 10 s
    { CHUNK_SIZE := 1024, cmdStart := CMD_ESP_UPDATE_START, cmdData := CMD_ESP_UPDATE_DATA
      cmdFinish := CMD_ESP_UPDATE_FINISH, startMs := 120000, chunkMs := 30000
      finishMs := fun size => size.toNat * 30000 / 1048576 + 10000, offsetBytes := hostBytes
      progress := .espUpdateProgress
      finishStatus := [.espUpdateStatus "Verifying flash (MD5)..."] }
  | .fileUpload =>
    { CHUNK_SIZE := 512, cmdStart := CMD_FILE_WRITE_START, cmdData := CMD_FILE_WRITE_DATA
      cmdFinish := CMD_FILE_WRITE_FINISH, startMs := 10000, chunkMs := 10000
      finishMs := fun _ => 10000, offsetBytes := le32, progress := .fileUploadProgress
      finishStatus := [] }

/-! ## Keepalive -/

def Dev.suspendKeepalive (d : Dev) : Dev :=
  if d.keep.suspended then d
  else { d with keep := { d.keep with suspended := true, pingTimer := none } }

def Dev.resumeKeepaliveIfIdle (d : Dev) : Dev :=
  if ¬ d.keep.suspended then d
  else if d.ops.fileUpload.state ≠ .Idle ∨ d.ops.fwUpdate.state ≠ .Idle
      ∨ d.ops.espUpdate.state ≠ .Idle ∨ d.ops.bankErasePending then d
  else if d.isConnected then
    { d with keep := { d.keep with suspended := false, pingTimer := some 3000 } }
  else { d with keep := { d.keep with suspended := false } }

/-! ## The common code of the transfers -/

/-- the tail of a start call: from the accepted image to the START command -/
def Dev.sendStart (k : Kind) (payload : List UInt8) (d : Dev) : Dev :=
  let d := d.setTransfer k { d.get k with
    offset := 0, state := .WaitingStartAck, timeout := some k.machine.startMs }
  d.suspendKeepalive.sendCommand k.machine.cmdStart payload

def Dev.emitAll (d : Dev) (l : List Signal) : Dev := l.foldl Dev.emit d

def Dev.sendNextChunk (k : Kind) (d : Dev) : Dev :=
  let m := k.machine
  let t := d.get k
  if t.offset ≥ t.size then
    -- all data sent
    let d := d.setTransfer k { t with
      state := .WaitingFinishAck, timeout := some (m.finishMs t.size) }
    (d.emitAll m.finishStatus).sendCommand m.cmdFinish []
  else
    let chunkLen := min (m.CHUNK_SIZE : Int) (toInt (t.size - t.offset))
    let d := d.sendCommand m.cmdData
      (m.offsetBytes t.offset ++ mid t.data (toInt t.offset) chunkLen)
    let offset := t.offset + ofInt chunkLen
    (d.setTransfer k { t with offset := offset }).emit
      (m.progress (toInt (offset * 100 / t.size)))

def Dev.fwUpdateSendNextChunk (d : Dev) : Dev := d.sendNextChunk .fwUpdate
def Dev.espUpdateSendNextChunk (d : Dev) : Dev := d.sendNextChunk .espUpdate
def Dev.fileUploadSendNextChunk (d : Dev) : Dev := d.sendNextChunk .fileUpload

/-- the end of a transfer, whatever ended it: timer stopped, state Idle, image dropped -/
def Dev.endTransfer (k : Kind) (d : Dev) : Dev :=
  d.setTransfer k { d.get k with timeout := none, state := .Idle, data := [] }

/-! ## Firmware update and banks -/

def Dev.startFwUpdate (binFilePath : String) (d : Dev) : Dev :=
  if d.ops.fwUpdate.state ≠ .Idle then
    d.emit (.fwUpdateError "Firmware update already in progress")
  else if d.ops.fileUpload.state ≠ .Idle ∨ d.ops.espUpdate.state ≠ .Idle
      ∨ d.ops.bankErasePending then
    d.emit (.fwUpdateError "Cannot start an M1 update while another transfer is in progress")
  else match d.env.readFile binFilePath with
    | none => d.emit (.fwUpdateError ("Cannot open firmware file: " ++ binFilePath))
    | some data =>
      let size := UInt32.ofNat data.length
      let d := d.setTransfer .fwUpdate { d.get .fwUpdate with data := data, size := size }
      if size = 0 ∨ size % 4 ≠ 0 then
        d.emit (.fwUpdateError "Invalid firmware file: size must be non-zero and 4-byte aligned")
      else if size > 0x100000 then
        d.emit (.fwUpdateError "Firmware file too large (max 1MB)")
      else
        -- the CRC-32 is sent as 0: the firmware then skips its check
        (d.sendStart .fwUpdate (hostBytes size ++ hostBytes 0)).emit (.fwUpdateProgress 0)

def Dev.swapBanks (d : Dev) : Dev :=
  Dev.sendCommand { d with ops := { d.ops with bankSwapPending := true } } CMD_FW_BANK_SWAP []

def Dev.eraseInactiveBank (d : Dev) : Dev :=
  if d.ops.fileUpload.state ≠ .Idle ∨ d.ops.fwUpdate.state ≠ .Idle
      ∨ d.ops.espUpdate.state ≠ .Idle ∨ d.ops.bankErasePending then
    d.emit (.bankEraseError "Cannot erase a bank while another transfer is in progress")
  else
    let d := { d with ops := { d.ops with bankErasePending := true } }
    d.suspendKeepalive.sendCommand CMD_FW_BANK_ERASE []

/-! ## ESP32 update -/

/-- the byte at offset `i` of the image, 0 past its end -/
def imageByte (data : List UInt8) (i : Nat) : UInt8 := data.getD i 0

def APP_MAX_SIZE : UInt32 := 1600 * 1024

/-- whether a partition table stands at 0x8000 -/
def hasPartTable (data : List UInt8) : Bool :=
  decide (data.length > 0x8001) && imageByte data 0x8000 == 0xAA && imageByte data 0x8001 == 0x50

/-- the check of the image against the selected flash type: the error, if there is one -/
def espImageError (data : List UInt8) (flashAddr : UInt32) (force : Bool) : Option String :=
  if force then none
  else if flashAddr = 0x00000 then
    let hasBootloader := imageByte data 0 == 0xE9
    if !hasBootloader || !hasPartTable data then
      some ("This doesn't look like a factory image — no "
        ++ (if !hasBootloader then "bootloader at 0x0" else "partition table at 0x8000")
        ++ " found. It may be an app-only image (select App-Only), or enable "
        ++ "\"Force flash\" if you're sure.")
    else none
  else if flashAddr = 0x60000 then
    if imageByte data 0 != 0xE9 then
      some ("This isn't a valid ESP app image (no 0xE9 header at 0x0). "
        ++ "Check the file, or enable \"Force flash\" if you're sure.")
    else if hasPartTable data then
      some ("This looks like a factory image (partition table at 0x8000), "
        ++ "not an app-only image — select Factory Image, or enable \"Force flash\".")
    else if UInt32.ofNat data.length > APP_MAX_SIZE then
      some ("File too large for app-only flash ("
        ++ toString (UInt32.ofNat data.length / 1024).toNat ++ " KB). "
        ++ "App-only images must be under 1600 KB. "
        ++ "This looks like a factory image — select Factory Image instead.")
    else none
  else none

def Dev.startEspUpdate (binFilePath : String) (flashAddr : UInt32) (force : Bool) (d : Dev) :
    Dev :=
  if d.ops.espUpdate.state ≠ .Idle then
    d.emit (.espUpdateError "ESP32 update already in progress")
  else if d.ops.fileUpload.state ≠ .Idle ∨ d.ops.fwUpdate.state ≠ .Idle
      ∨ d.ops.bankErasePending then
    d.emit (.espUpdateError
      "Cannot start an ESP32 update while another transfer is in progress")
  else match d.env.readFile binFilePath with
    | none => d.emit (.espUpdateError ("Cannot open ESP32 firmware file: " ++ binFilePath))
    | some data =>
      let size := UInt32.ofNat data.length
      let d := { d with ops := { d.ops with espUpdateFlashAddr := flashAddr } }
      let t := { d.get .espUpdate with data := data, size := size }
      if size = 0 then
        (d.emit (.espUpdateError "Firmware file is empty")).setTransfer .espUpdate
          { t with data := [] }
      else match espImageError data flashAddr force with
        | some err =>
          (d.emit (.espUpdateError err)).setTransfer .espUpdate { t with data := [] }
        | none =>
          let d := (d.setTransfer .espUpdate t).sendStart .espUpdate
            (hostBytes size ++ hostBytes flashAddr)
          (d.emit (.espUpdateProgress 0)).emit (.espUpdateStatus
            "Connecting to ESP32 and erasing flash — this can take up to 2 minutes. Please wait…")

/-! ## File upload and its queues -/

def Dev.uploadFile (localPath remotePath : String) (d : Dev) : Dev :=
  if d.ops.fileUpload.state ≠ .Idle then
    d.emit (.fileOperationError "Upload already in progress")
  else if d.ops.fwUpdate.state ≠ .Idle ∨ d.ops.espUpdate.state ≠ .Idle
      ∨ d.ops.bankErasePending then
    d.emit (.fileOperationError "Cannot upload while a firmware operation is in progress")
  else match d.env.readFile localPath with
    | none => d.emit (.fileOperationError ("Cannot open local file: " ++ localPath))
    | some data =>
      let size := UInt32.ofNat data.length
      let t := { d.get .fileUpload with data := data, size := size, offset := 0 }
      if size = 0 then
        (d.emit (.fileOperationError "File is empty")).setTransfer .fileUpload
          { t with data := [] }
      else
        (d.setTransfer .fileUpload t).sendStart .fileUpload (le32 size ++ utf8 remotePath ++ [0])

/-- the upload of one queued file -/
def Dev.uploadItem (index : Int) (item : UploadQueueItem) (d : Dev) : Dev :=
  let d := { d with ops := { d.ops with uploadQueueIndex := index } }
  (d.emit (.multiUploadProgress (index + 1).toNat d.ops.uploadQueue.length
    (fileName item.localPath))).uploadFile item.localPath item.remotePath

def Dev.startUploadQueue (d : Dev) : Dev :=
  match d.ops.uploadQueue with
  | [] => d.emit (.multiUploadComplete 0)
  | item :: _ => d.uploadItem 0 item

/-- the index never falls below -1, so the next one is past the end iff there is no such item -/
def Dev.advanceUploadQueue (d : Dev) : Dev :=
  let index := d.ops.uploadQueueIndex + 1
  match d.ops.uploadQueue[index.toNat]? with
  | none =>
    let total := d.ops.uploadQueue.length
    let d := { d with ops := { d.ops with uploadQueue := [], uploadQueueIndex := -1 } }
    d.emit (.multiUploadComplete total)
  | some item => d.uploadItem index item

/-! ## File commands -/

/-- a command whose ACK is routed by `m_pendingFileCmd` -/
def Dev.fileCommand (cmd : UInt8) (payload : List UInt8) (d : Dev) : Dev :=
  Dev.sendCommand { d with ops := { d.ops with pendingFileCmd := cmd } } cmd payload

/-- a null-terminated path -/
def pathBytes (s : String) : List UInt8 := utf8 s ++ [0]

def Dev.deleteFile (remotePath : String) (d : Dev) : Dev :=
  d.fileCommand CMD_FILE_DELETE (pathBytes remotePath)
def Dev.deleteTree (remotePath : String) (d : Dev) : Dev :=
  d.fileCommand CMD_FILE_DELETE_TREE (pathBytes remotePath)
def Dev.renameFile (oldPath newPath : String) (d : Dev) : Dev :=
  d.fileCommand CMD_FILE_RENAME (pathBytes oldPath ++ utf8 newPath)
def Dev.makeDirectory (remotePath : String) (d : Dev) : Dev :=
  d.fileCommand CMD_FILE_MKDIR (pathBytes remotePath)
def Dev.mountSdCard (d : Dev) : Dev := d.fileCommand CMD_SD_MOUNT []
def Dev.unmountSdCard (d : Dev) : Dev := d.fileCommand CMD_SD_UNMOUNT []

def Dev.advanceMkdirQueue (d : Dev) : Dev :=
  let index := d.ops.mkdirQueueIndex + 1
  match d.ops.mkdirQueue[index.toNat]? with
  | none =>
    let d := { d with ops := { d.ops with mkdirQueue := [], mkdirQueueIndex := -1 } }
    if d.ops.uploadQueue ≠ [] then d.startUploadQueue else d.emit (.multiUploadComplete 0)
  | some dir =>
    Dev.makeDirectory dir { d with ops := { d.ops with mkdirQueueIndex := index } }

/-- `rp` with a slash at its end -/
def withSlash (rp : String) : String :=
  if rp.toList.getLast? = some '/' then rp else rp ++ "/"

/-- `QUrl(url).toLocalFile()`, or the text itself where that is empty -/
def Env.localPath (env : Env) (url : String) : String :=
  if env.toLocalFile url = "" then url else env.toLocalFile url

def Dev.uploadFiles (fileUrls : List String) (remotePath : String) (d : Dev) : Dev :=
  if d.ops.uploadQueueIndex ≥ 0 ∨ d.ops.fileUpload.state ≠ .Idle then
    d.emit (.fileOperationError "Upload already in progress")
  else
    let queue := fileUrls.map fun v =>
      let localPath := d.env.localPath v
      { localPath := localPath, remotePath := withSlash remotePath ++ fileName localPath }
    let d := { d with ops := { d.ops with
      uploadQueue := queue, mkdirQueue := [], mkdirQueueIndex := -1 } }
    if queue = [] then d.emit (.fileOperationError "No files selected")
    else d.startUploadQueue

/-- `relPath.replace("\\", "/")` -/
def forwardSlashes (s : String) : String :=
  String.ofList (s.toList.map fun c => if c = '\\' then '/' else c)

/-- the directories to create, shorter paths first, so parents come before their children -/
def remoteDirs (remoteBase : String) (folder : LocalFolder) : List String :=
  (remoteBase :: ((folder.entries.filter (·.isDir)).map fun e =>
    remoteBase ++ "/" ++ forwardSlashes e.relPath)).mergeSort
      (fun a b => decide (qLength a ≤ qLength b))

def folderFiles (remoteBase : String) (folder : LocalFolder) : List UploadQueueItem :=
  (folder.entries.filter (fun e => !e.isDir)).map fun e =>
    { localPath := e.filePath, remotePath := remoteBase ++ "/" ++ forwardSlashes e.relPath }

/-- `dirs` holds at least the folder itself, so the MKDIR phase is never skipped -/
def Dev.uploadFolder (localFolderUrl remotePath : String) (d : Dev) : Dev :=
  if d.ops.uploadQueueIndex ≥ 0 ∨ d.ops.fileUpload.state ≠ .Idle then
    d.emit (.fileOperationError "Upload already in progress")
  else
    let localFolder := d.env.localPath localFolderUrl
    match d.env.folder localFolder with
    | none => d.emit (.fileOperationError ("Local folder not found: " ++ localFolder))
    | some folder =>
      let remoteBase := withSlash remotePath ++ folder.dirName
      let dirs := remoteDirs remoteBase folder
      let files := folderFiles remoteBase folder
      let d := { d with ops := { d.ops with uploadQueue := files, mkdirQueue := dirs } }
      match dirs with
      | [] =>
        if files = [] then d.emit (.fileOperationError "Folder is empty")
        else d.startUploadQueue
      | dir :: _ =>
        let d := { d with ops := { d.ops with mkdirQueueIndex := 0 } }
        (d.emit (.multiUploadProgress 0 files.length "Creating directories...")).makeDirectory dir

/-! ## Commands without a state of their own -/

def Dev.requestDeviceInfo (d : Dev) : Dev := d.sendCommand CMD_GET_DEVICE_INFO []
def Dev.captureScreen (d : Dev) : Dev := d.sendCommand CMD_SCREEN_CAPTURE []
def Dev.sendEspUartSnoop (d : Dev) : Dev := d.sendCommand CMD_ESP_UART_SNOOP []
def Dev.requestFwInfo (d : Dev) : Dev := d.sendCommand CMD_FW_INFO []
def Dev.requestEspInfo (d : Dev) : Dev := d.sendCommand CMD_ESP_INFO []
def Dev.enterDfu (d : Dev) : Dev := d.sendCommand CMD_FW_DFU_ENTER []
def Dev.shutdown (d : Dev) : Dev := d.sendCommand CMD_POWER_OFF []

/-- the one-byte payload of a button command: `buttonId & 0xFF` -/
def buttonByte (buttonId : Int) : List UInt8 := [UInt8.ofNat (buttonId % 256).toNat]

def Dev.buttonPress (buttonId : Int) (d : Dev) : Dev :=
  d.sendCommand CMD_BUTTON_PRESS (buttonByte buttonId)
def Dev.buttonRelease (buttonId : Int) (d : Dev) : Dev :=
  d.sendCommand CMD_BUTTON_RELEASE (buttonByte buttonId)
def Dev.buttonClick (buttonId : Int) (d : Dev) : Dev :=
  d.sendCommand CMD_BUTTON_CLICK (buttonByte buttonId)

def Dev.sendCliCommand (command : String) (d : Dev) : Dev :=
  d.sendCommand CMD_CLI_EXEC (pathBytes command)
def Dev.initEsp32 (d : Dev) : Dev := (d.sendCliCommand "mtest 70 0").startShot .requestDeviceInfo
def Dev.rebootEsp32 (d : Dev) : Dev := (d.sendCliCommand "mtest 78 0").startShot .requestDeviceInfo
def Dev.reboot (d : Dev) : Dev := (d.sendCommand CMD_REBOOT []).startShot .closeLink
def Dev.requestFileList (path : String) (d : Dev) : Dev :=
  d.sendCommand CMD_FILE_LIST (pathBytes path)

def Dev.downloadFile (remotePath localPath : String) (d : Dev) : Dev :=
  Dev.sendCommand { d with download := { buf := [], dest := localPath } } CMD_FILE_READ
    (pathBytes remotePath)

end QMon.Device
