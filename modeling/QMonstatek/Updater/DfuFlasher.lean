import QMonstatek.Updater.Process
import QMonstatek.Updater.Text

/-!
# The DFU flasher

`DfuFlasher` with its three processes.

`Role`       which of the three a process is;
`DfuOut`     the signals and starts of one step, oldest first, and a use of a null pointer where
             the code makes one;
`DfuEvent`   the calls of the views, the scan timer and the signals of the processes;
`DfuFlasher.step host e f`  one event.

`kill()` ends a program at once.  Where `waitForFinished` returns before the end is known, the
object is given to `deleteLater` all the same and reports its end later: until then its role is in
`letGo`.  A handler then works on what the member points to by that time.
-/

namespace QMon.Updater

inductive Role where
  | scan
  | flash
  | swap
  deriving DecidableEq, Repr

inductive DfuOut where
  | dfuDeviceFoundChanged (found : Bool)
  | scanningChanged (scanning : Bool)
  | flashingChanged (flashing : Bool)
  | progressChanged (percent : Int)
  | statusMessageChanged (msg : String)
  | flashComplete
  | flashError (message : String)
  | swapBankComplete (message : String)
  | swapBankError (message : String)
  /-- `QProcess::start` -/
  | start (role : Role) (program : String) (args : List String)
  /-- a call through a process pointer that is null -/
  | nullUse (role : Role)
  deriving DecidableEq, Repr

structure DfuFlasher where
  scanProcess : Option Process := none
  flashProcess : Option Process := none
  swapProcess : Option Process := none
  /-- `m_scanTimer.isActive()` -/
  scanTimer : Bool := false
  dfuDeviceFound : Bool := false
  scanning : Bool := false
  flashing : Bool := false
  flashOk : Bool := false
  progress : Int := 0
  statusMessage : String := ""
  dfuDeviceInfo : String := ""
  helperPath : String := ""
  useCliDirect : Bool := false
  letGo : List Role := []
  out : List DfuOut := []
  deriving DecidableEq, Repr

/-- the arguments for `STM32_Programmer_CLI`, or for the bundled helper -/
def scanArgs (useCliDirect : Bool) : List String :=
  if useCliDirect then ["-c", "port=USB1", "--list"] else ["scan"]

def flashArgs (useCliDirect : Bool) (path target : String) : List String :=
  if useCliDirect then
    let addr := if target = "bank1" then "0x08000000" else "0x08100000"
    ["-c", "port=USB1", "-d", path, addr, "-v", "-rst"]
  else ["flash", path, target]

def swapArgs (useCliDirect : Bool) : List String :=
  if useCliDirect then ["-c", "port=USB1", "-ob", "SWAP_BANK=1"] else ["swapbank"]

namespace DfuFlasher

def put (o : DfuOut) (f : DfuFlasher) : DfuFlasher := { f with out := f.out ++ [o] }

def process (f : DfuFlasher) : Role → Option Process
  | .scan => f.scanProcess
  | .flash => f.flashProcess
  | .swap => f.swapProcess

def setProcess (r : Role) (p : Option Process) (f : DfuFlasher) : DfuFlasher :=
  match r with
  | .scan => { f with scanProcess := p }
  | .flash => { f with flashProcess := p }
  | .swap => { f with swapProcess := p }

def setStatus (msg : String) (f : DfuFlasher) : DfuFlasher :=
  if f.statusMessage ≠ msg then { f with statusMessage := msg }.put (.statusMessageChanged msg)
  else f

def setDfuDeviceFound (found : Bool) (info : String) (f : DfuFlasher) : DfuFlasher :=
  let g :=
    { f with
      dfuDeviceFound := found
      dfuDeviceInfo := if info ≠ "" then info else if !found then "" else f.dfuDeviceInfo }
  if f.dfuDeviceFound ≠ found then g.put (.dfuDeviceFoundChanged found) else g

/-- the assignment of a new percentage -/
def setProgress (pct : Int) (f : DfuFlasher) : DfuFlasher :=
  if pct ≠ f.progress then { f with progress := pct }.put (.progressChanged pct) else f

/-! ## Programs -/

section
variable (host : ToolHost)

/-- `m_helperPath = resolveHelperPath()` -/
def resolveHelperPath (f : DfuFlasher) : DfuFlasher :=
  match if host.platform = .windows then host.bundledHelper else none with
  | some path => { f with helperPath := path, useCliDirect := false }
  | none =>
    if host.findCubeProgrammerCli ≠ "" then
      { f with helperPath := host.findCubeProgrammerCli, useCliDirect := true }
    else { f with helperPath := "" }

/-- the constructor -/
def make : DfuFlasher := ({} : DfuFlasher).resolveHelperPath host

/-- what `isToolAvailable()` does; it answers whether there is a path then -/
def isToolAvailable (f : DfuFlasher) : DfuFlasher :=
  if f.helperPath = "" then f.resolveHelperPath host else f

/-- a process with this role, started -/
def start (r : Role) (args : List String) (f : DfuFlasher) : DfuFlasher :=
  (f.setProcess r (some
    { program := f.helperPath, args := args, running := host.starts f.helperPath args })).put
    (.start r f.helperPath args)

/-- `deleteLater()` and the member set to null -/
def release (r : Role) (f : DfuFlasher) : DfuFlasher :=
  match f.process r with
  | none => f.put (.nullUse r)
  | some p => { f.setProcess r none with letGo := if p.running then f.letGo ++ [r] else f.letGo }

/-- the program of this role has ended -/
def ended (r : Role) (f : DfuFlasher) : DfuFlasher :=
  f.setProcess r ((f.process r).map fun p => { p with running := false })

/-! ## Scanning -/

def scanToolNotFound : Platform → String
  | .windows => "DFU flash tool not found. Check that stm32prog/ folder " ++
      "exists next to qmonstatek.exe, or install STM32CubeProgrammer."
  | .linux => "STM32_Programmer_CLI not found.\n" ++
      "Install STM32CubeProgrammer from st.com and ensure the CLI " ++
      "is in your PATH:\n" ++
      "  export PATH=$PATH:/opt/st/STM32CubeProgrammer/bin\n" ++
      "Or create a symlink:\n" ++
      "  sudo ln -s /opt/st/STM32CubeProgrammer/bin/STM32_Programmer_CLI " ++
      "/usr/local/bin/STM32_Programmer_CLI"
  | .mac => "STM32CubeProgrammer not found. Install it from st.com."

def scanOnce (f : DfuFlasher) : DfuFlasher :=
  let f := f.isToolAvailable host
  if f.helperPath = "" then
    (f.setStatus (scanToolNotFound host.platform)).setDfuDeviceFound false ""
  -- scans do not overlap
  else if f.scanProcess.isSome then f
  else f.start host .scan (scanArgs f.useCliDirect)

def startScanning (f : DfuFlasher) : DfuFlasher :=
  if f.scanning then f
  else
    { (({ f with scanning := true }.put (.scanningChanged true)).scanOnce host) with
      scanTimer := true }

/-- no device, with a text that is shown unless a flash is under way -/
def noDevice (msg : String) (f : DfuFlasher) : DfuFlasher :=
  let f := f.setDfuDeviceFound false ""
  if f.flashing then f else f.setStatus msg

def deviceFound (display : String) (f : DfuFlasher) : DfuFlasher :=
  (f.setDfuDeviceFound true display).setStatus "STM32 DFU device detected."

def noDeviceSteps : String := "No DFU device found. Follow the steps above to enter DFU mode."

def readCliScan (allOutput : List Char) (f : DfuFlasher) : DfuFlasher :=
  if contains allOutput "Device Index" ∨ contains allOutput "STM32H5" then
    f.deviceFound <| match serialNumber allOutput with
      | some serial => "STM32 DFU — SN: " ++ String.ofList serial
      | none => "STM32 DFU device detected"
  else f.noDevice noDeviceSteps

/-- the text for what follows `DEVICE:` -/
def deviceDisplay (info : List Char) : String :=
  match info.splitOn '|' with
  | usb :: serial :: _ =>
    "STM32 DFU — USB: " ++ String.ofList usb ++ ", SN: " ++ String.ofList serial
  | _ => "STM32 DFU device detected"

/-- the first line that says something about a device decides -/
def readHelperScan : List (List Char) → DfuFlasher → DfuFlasher
  | [], f => f.noDevice "No DFU device found."
  | line :: lines, f =>
    if startsWith line "DEVICE:none" then f.noDevice noDeviceSteps
    else if startsWith line "DEVICE:" then f.deviceFound (deviceDisplay (line.drop 7))
    else if startsWith line "ERROR:" then
      (f.setDfuDeviceFound false "").setStatus (String.ofList (line.drop 6))
    else readHelperScan lines f

def onScanFinished (x : Exit) (f : DfuFlasher) : DfuFlasher :=
  if f.scanProcess = none then f
  else
    let f := f.release .scan
    if f.useCliDirect then f.readCliScan (fromUtf8 x.output ++ fromUtf8 x.errorOutput)
    else f.readHelperScan (trimmedLines x.output)

/-! ## Output of a flash -/

def readPercent (line : List Char) (f : DfuFlasher) : DfuFlasher :=
  match percent line with
  | some digits => f.setProgress (toInt digits)
  | none => f

def readCliLine (line : List Char) (f : DfuFlasher) : DfuFlasher :=
  let f := f.readPercent line
  if contains line "File download complete" then { f with flashOk := true }
  else if contains line "Download in Progress" then f.setStatus "Writing firmware..."
  else if contains line "Verifying" then f.setStatus "Verifying..."
  else if contains line "Start operation achieved" then f.setStatus "Connecting to device..."
  else f

def readHelperLine (line : List Char) (f : DfuFlasher) : DfuFlasher :=
  if startsWith line "PROGRESS:" then f.setProgress (toInt (line.drop 9))
  else if startsWith line "STATUS:" then f.setStatus (String.ofList (line.drop 7))
  else if startsWith line "SWAP_BANK:" then
    if toInt (line.drop 10) = 1 then
      f.setStatus "SWAP_BANK is active — clearing for safe flash..."
    else f
  else if line = "OK".toList then { f with flashOk := true }
  else f

def readLine (line : List Char) (f : DfuFlasher) : DfuFlasher :=
  if line = [] then f
  else if f.useCliDirect then f.readCliLine line
  else f.readHelperLine line

def onFlashOutput (raw : List UInt8) (f : DfuFlasher) : DfuFlasher :=
  if f.flashProcess = none then f
  else (trimmedLines raw).foldl (fun f line => f.readLine line) f

/-! ## Results -/

/-- what the lines read after the end of the helper say -/
structure Replies where
  ok : Bool := false
  error : List Char := []
  status : List Char := []
  deriving DecidableEq, Repr

def Replies.read (r : Replies) (line : List Char) : Replies :=
  if line = "OK".toList then { r with ok := true }
  else if startsWith line "ERROR:" then { r with error := line.drop 6 }
  else if startsWith line "STATUS:" then { r with status := line.drop 7 }
  else r

def readReplies (lines : List (List Char)) : Replies := lines.foldl Replies.read {}

def flashCrashed : String :=
  "The DFU flash process crashed. Check USB connection and try again."

def flashCompleteStatus : String :=
  "Flash complete! Your M1 will reboot into the new firmware."

def flashFailed (exitCode : Int) : String := "Flash failed (exit code " ++ toString exitCode ++ ")."

/-- whether the output says that the flash went well -/
def flashSuccess (x : Exit) (remaining : List UInt8) (f : DfuFlasher) : Bool :=
  f.flashOk || if f.useCliDirect then
    x.exitCode == 0 && contains (fromUtf8 remaining) "File download complete"
  else (readReplies (trimmedLines remaining)).ok

def flashErrorMsg (x : Exit) (remaining : List UInt8) (f : DfuFlasher) : List Char :=
  if f.useCliDirect then
    if !f.flashSuccess x remaining && contains (fromUtf8 remaining) "Error" then
      "CubeProgrammer reported an error. Check the device and try again.".toList
    else []
  else (readReplies (trimmedLines remaining)).error

def onFlashFinished (x : Exit) (f : DfuFlasher) : DfuFlasher :=
  let remaining := if f.flashProcess.isSome then x.output else []
  let f := if f.flashProcess.isSome then f.release .flash else f
  let f := { f with flashing := false }.put (.flashingChanged false)
  if x.exitStatus = .crashExit then
    ((f.setStatus "DFU flash process crashed.").put (.flashError flashCrashed)).startScanning host
  else if x.exitCode = 0 ∧ f.flashSuccess x remaining then
    ((((({ f with progress := 100 }.put (.progressChanged 100)).setStatus
      flashCompleteStatus).setDfuDeviceFound false "").put .flashComplete)).startScanning host
  else
    let msg := if f.flashErrorMsg x remaining = [] then flashFailed x.exitCode
      else String.ofList (f.flashErrorMsg x remaining)
    ((f.setStatus msg).put (.flashError msg)).startScanning host

def swapDone : String := "Bank swap complete! Device will reboot."

/-- what the output of a swap says -/
def swapReplies (x : Exit) (output : List UInt8) (f : DfuFlasher) : Replies :=
  if f.useCliDirect then
    let text := fromUtf8 output
    if x.exitCode = 0 ∧ (contains text "Option bytes successfully" ∨ contains text "SWAP_BANK") then
      { ok := true, status := swapDone.toList }
    else if contains text "Error" then
      { error := "CubeProgrammer reported an error during bank swap.".toList }
    else {}
  else readReplies (trimmedLines output)

def onSwapBankFinished (x : Exit) (f : DfuFlasher) : DfuFlasher :=
  let output := if f.swapProcess.isSome then x.output else []
  let f := if f.swapProcess.isSome then f.release .swap else f
  if x.exitStatus = .crashExit then
    ((f.setStatus "Swap bank process crashed.").put
      (.swapBankError "The swap bank process crashed.")).startScanning host
  else
    let r := f.swapReplies x output
    if x.exitCode = 0 ∧ r.ok then
      let msg := if r.status = [] then swapDone else String.ofList r.status
      (((f.setStatus msg).setDfuDeviceFound false "").put (.swapBankComplete msg)).startScanning
        host
    else
      let msg := if r.error = [] then
        "Bank swap failed (exit code " ++ toString x.exitCode ++ ")." else String.ofList r.error
      ((f.setStatus msg).put (.swapBankError msg)).startScanning host

def onFinished (r : Role) (x : Exit) (f : DfuFlasher) : DfuFlasher :=
  match r with
  | .scan => f.onScanFinished x
  | .flash => f.onFlashFinished host x
  | .swap => f.onSwapBankFinished host x

/-! ## Calls -/

/-- only the flash process has its `readyRead` connected -/
def onSignal (r : Role) (s : ProcessSignal) (f : DfuFlasher) : DfuFlasher :=
  match r, s with
  | .flash, .readyRead bytes => f.onFlashOutput bytes
  | _, _ => f

/-- `waitForFinished` on a process that was running -/
def waitForFinished (r : Role) (w : Wait) (f : DfuFlasher) : DfuFlasher :=
  let f := w.signals.foldl (fun f s => f.onSignal r s) f
  match w.ended with
  | some x => (f.ended r).onFinished host r x
  | none => f

/-- `kill`, `waitForFinished`, `deleteLater` and null, where there is a process -/
def stopProcess (r : Role) (w : Wait) (f : DfuFlasher) : DfuFlasher :=
  match f.process r with
  | none => f
  | some p => (if p.running then f.waitForFinished host r w else f).release r

def stopScanning (w : Wait) (f : DfuFlasher) : DfuFlasher :=
  let f := { f with scanTimer := false }.stopProcess host .scan w
  if f.scanning then { f with scanning := false }.put (.scanningChanged false) else f

def flashToolNotFound : Platform → String
  | .windows => "DFU flash tool not found. Check that stm32prog/ folder " ++
      "exists next to qmonstatek.exe, or install STM32CubeProgrammer."
  | _ => "STM32CubeProgrammer not found. Install it from st.com."

/-- the checks of `startFlash` before anything is touched -/
def flashRefusal (binFilePath : String) (f : DfuFlasher) : Option String :=
  if f.flashing then some "A flash operation is already in progress."
  else if (f.isToolAvailable host).helperPath = "" then some (flashToolNotFound host.platform)
  else if !f.dfuDeviceFound then some "No DFU device detected. Enter DFU mode first."
  else match host.fileInfo binFilePath with
    | none => some ("Firmware file not found: " ++ binFilePath)
    | some fi =>
      if !fi.isFile then some ("Firmware file not found: " ++ binFilePath)
      else if fi.size > FLASH_BANK_SIZE + 4 then
        some ("Firmware file is too large (" ++ toString (fi.size / 1024) ++ " KB). " ++
          "The M1 flash bank is 1 MB.")
      else if fi.size < 1024 then
        some "Firmware file is suspiciously small. Please verify the file."
      else none

def startFlash (binFilePath target : String) (w : Wait) (f : DfuFlasher) : DfuFlasher :=
  match f.flashRefusal host binFilePath with
  | some message =>
    -- a call that comes during a flash does not look for the tool
    (if f.flashing then f else f.isToolAvailable host).put (.flashError message)
  | none =>
    let f := (f.isToolAvailable host).stopScanning host w
    let f := { f with flashing := true, flashOk := false, progress := 0 }
    let f := ((f.put (.flashingChanged true)).put (.progressChanged 0)).setStatus
      "Starting DFU flash..."
    f.start host .flash
      (flashArgs f.useCliDirect (host.toNativeSeparators binFilePath) target)

def swapRefusal (f : DfuFlasher) : Option String :=
  if f.flashing ∨ f.swapProcess.isSome then some "Another operation is in progress."
  else if (f.isToolAvailable host).helperPath = "" then some "DFU flash tool not found."
  else if !f.dfuDeviceFound then some "No DFU device detected. Enter DFU mode first."
  else none

def swapBank (w : Wait) (f : DfuFlasher) : DfuFlasher :=
  match f.swapRefusal host with
  | some message =>
    (if f.flashing ∨ f.swapProcess.isSome then f else f.isToolAvailable host).put
      (.swapBankError message)
  | none =>
    let f := ((f.isToolAvailable host).stopScanning host w).setStatus "Swapping flash banks..."
    f.start host .swap (swapArgs f.useCliDirect)

/-- what `cancel` does once the process is gone -/
def endFlash (f : DfuFlasher) : DfuFlasher :=
  if f.flashing then
    ((({ f with flashing := false, progress := 0 }.put (.flashingChanged false)).put
      (.progressChanged 0)).setStatus "Flash cancelled.").startScanning host
  else f

def cancel (w : Wait) (f : DfuFlasher) : DfuFlasher := (f.stopProcess host .flash w).endFlash host

end

end DfuFlasher

/-! ## Events -/

inductive DfuEvent where
  | startScanning
  | stopScanning (w : Wait)
  | scanOnce
  /-- the scan timer fires -/
  | tick
  | startFlash (binFilePath target : String) (w : Wait)
  | swapBank (w : Wait)
  | cancel (w : Wait)
  /-- `readyRead` of the flash process -/
  | flashOutput (raw : List UInt8)
  /-- the process of this role ends -/
  | finished (r : Role) (x : Exit)
  /-- a process that was let go reports its end -/
  | late (r : Role) (x : Exit)

namespace DfuFlasher

variable (host : ToolHost)

def running (r : Role) (f : DfuFlasher) : Bool := (f.process r).any Process.running

def fresh (f : DfuFlasher) : DfuFlasher := { f with out := [] }

def handle (e : DfuEvent) (f : DfuFlasher) : DfuFlasher :=
  match e with
  | .startScanning => f.startScanning host
  | .stopScanning w => f.stopScanning host w
  | .scanOnce => f.scanOnce host
  | .tick => if f.scanTimer then f.scanOnce host else f
  | .startFlash binFilePath target w => f.startFlash host binFilePath target w
  | .swapBank w => f.swapBank host w
  | .cancel w => f.cancel host w
  | .flashOutput raw => if f.running .flash then f.onFlashOutput raw else f
  | .finished r x => if f.running r then (f.ended r).onFinished host r x else f
  | .late r x =>
    if r ∈ f.letGo then { f with letGo := f.letGo.erase r }.onFinished host r x else f

/-- the host may answer differently each time -/
def step (e : ToolHost × DfuEvent) (f : DfuFlasher) : DfuFlasher := f.fresh.handle e.1 e.2

end DfuFlasher

end QMon.Updater
