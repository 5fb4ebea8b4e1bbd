import QMonstatek.Device.Transfer

/-!
# Replies

`handleAck`, `handleNack` and `handleFileReadData`.  A reply is routed by the local state alone:
its SEQ and the command it answers are never looked at.
-/

namespace QMon.Device
open Rpc

/-! ## ACK -/

/-- the ACK of START or of a chunk: the timer is restarted and the next chunk sent -/
def Dev.ackChunk (k : Kind) (status : List Signal) (d : Dev) : Dev :=
  let d := d.setTransfer k { d.get k with
    state := .SendingData, timeout := some k.machine.chunkMs }
  (d.emitAll status).sendNextChunk k

def Dev.ackFwUpdate (d : Dev) : Dev :=
  match d.ops.fwUpdate.state with
  | .Idle => d
  | .WaitingStartAck => d.ackChunk .fwUpdate []
  | .SendingData => d.ackChunk .fwUpdate []
  | .WaitingFinishAck =>
    (d.endTransfer .fwUpdate).resumeKeepaliveIfIdle.emit .fwUpdateComplete

def Dev.ackEspUpdate (d : Dev) : Dev :=
  match d.ops.espUpdate.state with
  | .Idle => d
  | .WaitingStartAck => d.ackChunk .espUpdate [.espUpdateStatus "Writing firmware..."]
  | .SendingData => d.ackChunk .espUpdate []
  | .WaitingFinishAck =>
    (d.endTransfer .espUpdate).resumeKeepaliveIfIdle.emit .espUpdateComplete

def Dev.ackFileUpload (d : Dev) : Dev :=
  match d.ops.fileUpload.state with
  | .Idle => d
  | .WaitingStartAck => d.ackChunk .fileUpload []
  | .SendingData => d.ackChunk .fileUpload []
  | .WaitingFinishAck =>
    let d := d.endTransfer .fileUpload
    -- a queued upload hands over to the next file with the keepalive still suspended
    if d.ops.uploadQueueIndex ≥ 0 then d.advanceUploadQueue
    else d.resumeKeepaliveIfIdle.emit .fileUploadComplete

/-- the ACK of the last file command -/
def Dev.ackFileCommand (d : Dev) : Dev :=
  let pending := d.ops.pendingFileCmd
  let d := { d with ops := { d.ops with pendingFileCmd := 0 } }
  if pending = CMD_FILE_DELETE ∨ pending = CMD_FILE_DELETE_TREE then d.emit .fileDeleteComplete
  else if pending = CMD_FILE_RENAME then d.emit .fileRenameComplete
  else if pending = CMD_FILE_MKDIR then
    if d.ops.mkdirQueueIndex ≥ 0 then d.advanceMkdirQueue else d.emit .fileMkdirComplete
  else if pending = CMD_SD_UNMOUNT then
    Dev.emit { d with ops := { d.ops with sdMounted := false } } (.sdMountChanged false)
  else if pending = CMD_SD_MOUNT then
    Dev.emit { d with ops := { d.ops with sdMounted := true } } (.sdMountChanged true)
  else
    -- absorbs a late ACK of a timed-out ESP32 flash
    { d with ops := { d.ops with espUpdateStaleNack := false } }

def Dev.handleAck (d : Dev) : Dev :=
  if d.ops.bankErasePending then
    let d := { d with ops := { d.ops with bankErasePending := false } }
    d.resumeKeepaliveIfIdle.emit .bankEraseComplete
  else if d.ops.bankSwapPending then
    let d := { d with ops := { d.ops with bankSwapPending := false } }
    (d.emit .bankSwapStarted).startShot .closeLink
  else if d.ops.fwUpdate.state ≠ .Idle then d.ackFwUpdate
  else if d.ops.espUpdate.state ≠ .Idle then d.ackEspUpdate
  else if d.ops.fileUpload.state ≠ .Idle then d.ackFileUpload
  else d.ackFileCommand

/-! ## NACK -/

def espFlashMessage (payload : List UInt8) : String :=
  let sub := if payload.length ≥ 2 then payload.getD 1 0 else 0
  if sub = ESP_SUB_CONNECT then
    "ESP32 flash failed: cannot connect to ROM bootloader.\n\n"
      ++ "The M1 could not establish communication with the ESP32.\n"
      ++ "Restart qMonstatek, reboot the M1, and try again."
  else if sub = ESP_SUB_ERASE then
    "ESP32 flash failed: flash erase error.\n\n"
      ++ "The ESP32 flash could not be erased. This may indicate a hardware issue.\n"
      ++ "Restart qMonstatek, reboot the M1, and try again."
  else if sub = ESP_SUB_WRITE then
    "ESP32 flash failed: data transfer interrupted.\n\n"
      ++ "Communication was lost during the flash write.\n"
      ++ "Restart qMonstatek, reboot the M1, and try again."
  else if sub = ESP_SUB_VERIFY then
    "ESP32 flash failed: MD5 verification mismatch.\n\n"
      ++ "The data written to flash does not match what was sent. "
      ++ "This can happen due to signal noise during transfer."
      -- the long payload carries both hashes, 32 hex digits each
      ++ (if payload.length ≥ 74 then
            "\n\n  Expected MD5: " ++ latin1 (mid payload 10 32)
              ++ "\n  Actual MD5:   " ++ latin1 (mid payload 42 32)
          else "")
      ++ "\n\nRestart qMonstatek, reboot the M1, and try again.\n"
      ++ "If this error persists, ensure the firmware binary was built correctly."
  else
    "ESP32 flash failed: unknown error.\n\n"
      ++ "Restart qMonstatek, reboot the M1, and try again."

def nackMessage (payload : List UInt8) : String :=
  let errCode := payload.headD 0
  if errCode = ERR_UNKNOWN_CMD then "Unknown command"
  else if errCode = ERR_INVALID_PAYLOAD then "Invalid payload"
  else if errCode = ERR_BUSY then "Device busy"
  else if errCode = ERR_SD_NOT_READY then "SD card not ready"
  else if errCode = ERR_FILE_NOT_FOUND then "File not found"
  else if errCode = ERR_DIR_NOT_EMPTY then "Folder not empty"
  else if errCode = ERR_FLASH_ERROR then "Flash error"
  else if errCode = ERR_CRC_MISMATCH then "CRC mismatch"
  else if errCode = ERR_SIZE_TOO_LARGE then "Size too large"
  else if errCode = ERR_BANK_EMPTY then "Inactive bank has no valid firmware — cannot swap"
  else if errCode = ERR_ESP_FLASH then espFlashMessage payload
  else "Error code " ++ toString errCode.toNat

def Dev.handleNack (payload : List UInt8) (d : Dev) : Dev :=
  let errMsg := nackMessage payload
  if d.ops.bankErasePending then
    let d := { d with ops := { d.ops with bankErasePending := false } }
    d.resumeKeepaliveIfIdle.emit (.bankEraseError errMsg)
  else if d.ops.bankSwapPending then
    let d := { d with ops := { d.ops with bankSwapPending := false } }
    d.emit (.bankSwapError errMsg)
  else if d.ops.fwUpdate.state ≠ .Idle then
    (d.endTransfer .fwUpdate).resumeKeepaliveIfIdle.emit (.fwUpdateError errMsg)
  else if d.ops.espUpdate.state ≠ .Idle then
    (d.endTransfer .espUpdate).resumeKeepaliveIfIdle.emit (.espUpdateError errMsg)
  else if d.ops.fileUpload.state ≠ .Idle then
    let d := (d.endTransfer .fileUpload).resumeKeepaliveIfIdle
    let d := { d with ops := { d.ops with
      uploadQueue := [], uploadQueueIndex := -1, mkdirQueue := [], mkdirQueueIndex := -1 } }
    d.emit (.fileOperationError ("Upload failed: " ++ errMsg))
  else if d.ops.espUpdateStaleNack then
    { d with ops := { d.ops with espUpdateStaleNack := false } }
  else
    let d := { d with ops := { d.ops with pendingFileCmd := 0 } }
    d.emit (.errorOccurred errMsg)

/-! ## Downloads -/

/-- a chunk under 512 bytes is taken for the last one -/
def Dev.handleFileReadData (payload : List UInt8) (d : Dev) : Dev :=
  if payload.length < 4 then d
  else
    let buf := d.download.buf ++ mid payload 4 (-1)
    if (payload.length : Int) - 4 < 512 then
      let dest := d.download.dest
      let d := { d with download := { d.download with buf := [] } }
      if d.env.canWrite dest then (d.put (.writeFile dest buf)).emit (.fileDownloadComplete dest)
      else d.emit (.fileOperationError ("Cannot write to: " ++ dest))
    else { d with download := { d.download with buf := buf } }

end QMon.Device
