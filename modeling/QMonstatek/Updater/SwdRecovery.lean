import QMonstatek.Updater.Process
import QMonstatek.Updater.Text

/-!
# The SWD recovery

`SwdRecovery` with its one process, OpenOCD or `STM32_Programmer_CLI`.

`SwdOut`     the signals and starts of one step, oldest first, and a use of a null pointer where
             the code makes one;
`SwdEvent`   the calls of the view and the signals of the process;
`SwdRecovery.step host e g`  one event.

An error other than the end of the process makes way for the next operation, which takes the
member for its own process: `letGo` counts the objects that run on without the member, those and
the ones a cancel gave up.  Their signals reach the same handlers.
-/

namespace QMon.Updater

inductive SwdOut where
  | runningChanged (running : Bool)
  | progressChanged (percent : Int)
  | statusMessageChanged (msg : String)
  | outputLogChanged
  | probeTypeChanged (type : Int)
  | operationComplete (message : String)
  | operationError (message : String)
  /-- `QProcess::start` -/
  | start (program : String) (args : List String) (workingDirectory : String)
  /-- a call through `m_process` when it is null -/
  | nullUse
  deriving DecidableEq, Repr

def PicoCmsisDap : Int := 0
def StLinkV2 : Int := 1

structure SwdRecovery where
  process : Option Process := none
  ocdPath : String := ""
  scriptsPath : String := ""
  ocdVersion : String := ""
  cubeProgrammerPath : String := ""
  running : Bool := false
  progress : Int := 0
  probeType : Int := PicoCmsisDap
  pathsResolved : Bool := false
  cubeProgResolved : Bool := false
  usingCubeProg : Bool := false
  statusMessage : String := ""
  outputLog : String := ""
  currentOp : String := ""
  letGo : Nat := 0
  out : List SwdOut := []
  deriving DecidableEq, Repr

/-! ## Texts -/

/-- `replace('\\', '/')` -/
def forwardSlashes (s : String) : String :=
  String.ofList (s.toList.map fun c => if c = '\\' then '/' else c)

def isHexDigit (c : Char) : Bool :=
  c.isDigit || ('a' ≤ c && c ≤ 'f') || ('A' ≤ c && c ≤ 'F')

def hexValue (c : Char) : Nat :=
  if c.isDigit then c.toNat - 48
  else if 'a' ≤ c && c ≤ 'f' then c.toNat - 87
  else c.toNat - 55

def inBase (base : Nat) (digits : List Char) : Nat :=
  digits.foldl (fun n c => base * n + hexValue c) 0

/-- `^\s*(\d+)%` -/
def percentAtStart (line : List Char) : Option (List Char) :=
  let rest := line.dropWhile isBlank
  let digits := rest.takeWhile Char.isDigit
  if digits ≠ [] ∧ (rest.dropWhile Char.isDigit).head? = some '%' then some digits else none

/-- `0x[0-9a-fA-F]+|\d+` at the front -/
def number (text : List Char) : Option (List Char) :=
  let hex := (text.drop 2).takeWhile isHexDigit
  let digits := text.takeWhile Char.isDigit
  if startsWith text "0x" ∧ hex ≠ [] then some ("0x".toList ++ hex)
  else if digits ≠ [] then some digits
  else none

/-- `toInt(&ok, 0)` of such a number: hexadecimal after `0x`, octal after `0` -/
def toIntAnyBase (text : List Char) : Option Nat :=
  let value :=
    if startsWith text "0x" then some (inBase 16 (text.drop 2))
    else if startsWith text "0" ∧ text.tail ≠ [] then
      if text.all fun c => '0' ≤ c && c ≤ '7' then some (inBase 8 text) else none
    else some (inBase 10 text)
  value.filter fun v => v < 0x80000000

/-- `SWAP_BANK\s*[:=]\s*(0x[0-9a-fA-F]+|\d+)`: the first match -/
def swapBankNumber : List Char → Option (List Char)
  | [] => none
  | c :: rest =>
    let after := ((c :: rest).drop 9).dropWhile isBlank
    let value := if after.head? = some ':' ∨ after.head? = some '=' then
      number (after.tail.dropWhile isBlank) else none
    if startsWith (c :: rest) "SWAP_BANK" ∧ value ≠ none then value else swapBankNumber rest

/-- `0x40022050\s*:?\s*([0-9a-fA-F]{8})`: the first match -/
def optsrWord : List Char → Option (List Char)
  | [] => none
  | c :: rest =>
    let after := ((c :: rest).drop 10).dropWhile isBlank
    let after := if after.head? = some ':' then after.tail.dropWhile isBlank else after
    let word := after.take 8
    if startsWith (c :: rest) "0x40022050" ∧ word.length = 8 ∧ word.all isHexDigit then some word
    else optsrWord rest

def bankInfo (swapBankSet : Bool) : String :=
  if swapBankSet then "SWAP_BANK = 1 : Bank 2 is active (mapped to 0x08000000)"
  else "SWAP_BANK = 0 : Bank 1 is active (mapped to 0x08000000)"

/-! ## Commands -/

/-- the unlock keys of the flash and of the option bytes -/
def unlock : String :=
  "mww 0x40022008 0x45670123; " ++ "mww 0x40022008 0xCDEF89AB; " ++
    "mww 0x4002200C 0x08192A3B; " ++ "mww 0x4002200C 0x4C5D6E7F; "

def recoveryCommands (path : String) : String :=
  "adapter speed 2000; " ++ "init; " ++ "halt; " ++ unlock ++
    "set optr [mrw 0x40022050]; " ++
    "set cleared [expr \x7b$optr & 0x7FFFFFFF\x7d]; " ++
    "mww 0x40022054 $cleared; " ++ "mww 0x4002201C 0x00000002; " ++ "sleep 500; " ++ "halt; " ++
    "stm32h5x mass_erase 0; " ++ "program \x7b" ++ path ++ "\x7d 0x08000000 verify reset exit"

def swapCommands : String :=
  "adapter speed 2000; init; " ++ "halt; " ++ unlock ++
    "set val [mrw 0x40022050]; " ++ "set new [expr \x7b$val ^ 0x80000000\x7d]; " ++
    "mww 0x40022054 $new; " ++ "mww 0x4002201C 0x00000002; " ++ "sleep 500; exit"

/-- the commands that compare a bank, at one address or the other as SWAP_BANK is set or not -/
def verifyCommands (path swapped unswapped : String) : String :=
  "adapter speed 2000; init; " ++ "halt; " ++ "set optr [mrw 0x40022050]; " ++
    "if \x7b$optr & 0x80000000\x7d \x7b" ++ "  verify_image \x7b" ++ path ++ "\x7d " ++ swapped ++
    "\x7d else \x7b" ++ "  verify_image \x7b" ++ path ++ "\x7d " ++ unswapped ++ "\x7d; " ++ "exit"

def cloneCommands (tempFile : String) : String :=
  "adapter speed 2000; init; " ++ "reset halt; " ++ "set optr [mrw 0x40022050]; " ++
    "if \x7b$optr & 0x80000000\x7d \x7b" ++ "  set bank1 0x08100000; set bank2 0x08000000" ++
    "\x7d else \x7b" ++ "  set bank1 0x08000000; set bank2 0x08100000" ++ "\x7d; " ++
    "dump_image \x7b" ++ tempFile ++ "\x7d $bank1 0x100000; " ++
    "program \x7b" ++ tempFile ++ "\x7d $bank2 verify; " ++ "reset; exit"

def statusCommands : String :=
  "adapter speed 2000; init; " ++ "halt; " ++ "mdw 0x40022050; exit"

namespace SwdRecovery

def put (o : SwdOut) (g : SwdRecovery) : SwdRecovery := { g with out := g.out ++ [o] }

def setStatus (msg : String) (g : SwdRecovery) : SwdRecovery :=
  if g.statusMessage ≠ msg then { g with statusMessage := msg }.put (.statusMessageChanged msg)
  else g

def appendLog (text : String) (g : SwdRecovery) : SwdRecovery :=
  { g with outputLog := g.outputLog ++ text }.put .outputLogChanged

def clearLog (g : SwdRecovery) : SwdRecovery := { g with outputLog := "" }.put .outputLogChanged

def setProgress (pct : Int) (g : SwdRecovery) : SwdRecovery :=
  { g with progress := pct }.put (.progressChanged pct)

def setProbeType (type : Int) (g : SwdRecovery) : SwdRecovery :=
  if g.probeType ≠ type then { g with probeType := type }.put (.probeTypeChanged type) else g

section
variable (host : ToolHost)

/-! ## Programs -/

def probeVersion (g : SwdRecovery) : SwdRecovery :=
  let version := match host.version g.ocdPath with
    | some output => String.ofList (trimmed ((parts (trimmed (fromUtf8 output))).head?.getD []))
    | none => g.ocdVersion
  { g with ocdVersion := if version = "" then "unknown" else version }

def resolveOpenOcdPaths (g : SwdRecovery) : SwdRecovery :=
  if g.pathsResolved then g
  else
    let g := { g with pathsResolved := true, ocdPath := host.findOpenOcd }
    if g.ocdPath = "" then g
    else
      let g := { g with scriptsPath := host.findOpenOcdScripts g.ocdPath }
      if g.scriptsPath ≠ "" then g.probeVersion host else { g with ocdPath := "" }

/-- the constructor -/
def make : SwdRecovery := ({} : SwdRecovery).resolveOpenOcdPaths host

def resolveCubeProgrammerPath (g : SwdRecovery) : SwdRecovery :=
  if g.cubeProgResolved then g
  else { g with cubeProgResolved := true, cubeProgrammerPath := host.findCubeProgrammerCli }

/-- what `isOpenOcdAvailable()` does -/
def isOpenOcdAvailable (g : SwdRecovery) : SwdRecovery :=
  (g.resolveOpenOcdPaths host).resolveCubeProgrammerPath host

def interfaceConfig : String := "interface/cmsis-dap.cfg"

def openOcdNotFound : Platform → String
  | .windows => "OpenOCD not found. Install STM32CubeIDE or place OpenOCD " ++
      "in the openocd/ folder next to qmonstatek.exe."
  | .mac => "OpenOCD not found. Install STM32CubeIDE or run: brew install openocd"
  | .linux => "OpenOCD not found. Install STM32CubeIDE or run: sudo apt install openocd"

/-- the error of `validateSetup`, if there is one -/
def validateSetup (g : SwdRecovery) : Option String :=
  if g.probeType = StLinkV2 then
    if g.cubeProgrammerPath = "" then
      some ("STM32_Programmer_CLI not found. Install STM32CubeProgrammer " ++ "or STM32CubeIDE.")
    else none
  else if g.ocdPath = "" ∨ g.scriptsPath = "" then some (openOcdNotFound host.platform)
  else if host.fileInfo (filePath g.scriptsPath interfaceConfig) = none then
    some ("Interface config not found: " ++ interfaceConfig ++ "\n" ++
      "Scripts directory: " ++ g.scriptsPath ++ "\n" ++
      "Try reinstalling STM32CubeIDE or using a bundled OpenOCD.")
  else if host.fileInfo (filePath g.scriptsPath "target/stm32h5x.cfg") = none then
    some ("Target config not found: target/stm32h5x.cfg\n" ++
      "Scripts directory: " ++ g.scriptsPath ++ "\n" ++
      "Your OpenOCD installation may not support STM32H5. " ++
      "STM32CubeIDE 2.1.0 or newer is required.")
  else none

/-- the member is taken for a new process, which is started -/
def startProcess (program : String) (args : List String) (g : SwdRecovery) : SwdRecovery :=
  { g with
    letGo := if g.process.any Process.running then g.letGo + 1 else g.letGo
    process := some { program := program, args := args, running := host.starts program args } }.put
    (.start program args (host.absolutePath program))

/-- an operation that passed its checks -/
def begin (opName : String) (cubeProg : Bool) (g : SwdRecovery) : SwdRecovery :=
  let g := { g.clearLog with
    currentOp := opName, running := true, progress := 0, usingCubeProg := cubeProg }
  ((g.put (.runningChanged true)).put (.progressChanged 0)).setStatus (opName ++ "...")

def logCommand (program : String) (args : List String) (g : SwdRecovery) : SwdRecovery :=
  (args.foldl (fun g arg => g.appendLog ("  " ++ arg ++ "\n"))
    (g.appendLog ("Command: " ++ program ++ "\n"))).appendLog "\n"

def runOpenOcd (commands opName : String) (g : SwdRecovery) : SwdRecovery :=
  match g.validateSetup host with
  | some setupError => g.put (.operationError setupError)
  | none =>
    let g := (((((((g.begin opName false).appendLog ("=== " ++ opName ++ " ===\n")).appendLog
      "Probe:   Pico CMSIS-DAP\n").appendLog ("OpenOCD: " ++ g.ocdPath ++ "\n")).appendLog
      ("Scripts: " ++ g.scriptsPath ++ "\n")).appendLog
      ("Version: " ++ g.ocdVersion ++ "\n"))).appendLog
      ("Config:  " ++ interfaceConfig ++ "\n\n")
    let args := ["-s", forwardSlashes g.scriptsPath, "-f", interfaceConfig,
      "-f", "target/stm32h5x.cfg", "-c", commands]
    (g.logCommand g.ocdPath args).startProcess host g.ocdPath args

def runCubeProgrammer (cubeArgs : List String) (opName : String) (g : SwdRecovery) :
    SwdRecovery :=
  let g := g.resolveCubeProgrammerPath host
  match g.validateSetup host with
  | some setupError => g.put (.operationError setupError)
  | none =>
    let g := (((g.begin opName true).appendLog ("=== " ++ opName ++ " ===\n")).appendLog
      "Probe:   ST-Link\n").appendLog ("Tool:    " ++ g.cubeProgrammerPath ++ "\n\n")
    (g.logCommand g.cubeProgrammerPath cubeArgs).startProcess host g.cubeProgrammerPath cubeArgs

/-! ## Operations -/

def inProgress : SwdOut := .operationError "An operation is already in progress."

def notFound (binFilePath : String) : SwdOut :=
  .operationError ("Firmware file not found: " ++ binFilePath)

def recoveryFlash (binFilePath : String) (g : SwdRecovery) : SwdRecovery :=
  if g.running then g.put inProgress
  else match host.fileInfo binFilePath with
    | none => g.put (notFound binFilePath)
    | some fi =>
      if fi.size > FLASH_BANK_SIZE + 4 then
        g.put (.operationError ("Firmware file is too large (" ++ toString (fi.size / 1024) ++
          " KB). " ++ "The M1 flash bank is 1 MB."))
      else
        let path := forwardSlashes fi.absoluteFilePath
        if g.probeType = StLinkV2 then
          g.runCubeProgrammer host ["-c", "port=SWD", "mode=UR", "reset=HWrst", "-e", "all",
            "-w", path, "0x08000000", "-v", "-rst"] "Recovery Flash"
        else g.runOpenOcd host (recoveryCommands path) "Recovery Flash"

def swapBank (g : SwdRecovery) : SwdRecovery :=
  if g.running then g.put inProgress
  else if g.probeType = StLinkV2 then
    g.put (.operationError ("Swap Bank with ST-Link: use Read Status to check current " ++
      "bank, then use STM32CubeProgrammer to set SWAP_BANK."))
  else g.runOpenOcd host swapCommands "Swap Bank"

/-- both verifications: the addresses of the bank, SWAP_BANK set and not -/
def verify (binFilePath swapped unswapped opName : String) (g : SwdRecovery) : SwdRecovery :=
  if g.running then g.put inProgress
  else match host.fileInfo binFilePath with
    | none => g.put (notFound binFilePath)
    | some fi =>
      g.runOpenOcd host
        (verifyCommands (forwardSlashes fi.absoluteFilePath) swapped unswapped) opName

def verifyBank1 (binFilePath : String) : SwdRecovery → SwdRecovery :=
  verify host binFilePath "0x08100000" "0x08000000" "Verify Bank 1"

def verifyBank2 (binFilePath : String) : SwdRecovery → SwdRecovery :=
  verify host binFilePath "0x08000000" "0x08100000" "Verify Bank 2"

def cloneBank1ToBank2 (g : SwdRecovery) : SwdRecovery :=
  if g.running then g.put inProgress
  else g.runOpenOcd host
    (cloneCommands (forwardSlashes (host.tempPath ++ "/m1_swd_bank1_backup.bin")))
    "Clone Bank 1 to Bank 2"

def readStatus (g : SwdRecovery) : SwdRecovery :=
  if g.running then g.put inProgress
  else if g.probeType = StLinkV2 then
    g.runCubeProgrammer host ["-c", "port=SWD", "mode=UR", "reset=HWrst", "-ob", "displ"]
      "Read Status"
  else g.runOpenOcd host statusCommands "Read Status"

/-! ## Signals of the process -/

/-- what the two connections of `errorOccurred` say, that of `runCubeProgrammer` and that of
`runOpenOcd` -/
def errorText (cubeProg : Bool) (error : ProcessError) : String :=
  if cubeProg then
    match error with
    | .failedToStart => "STM32_Programmer_CLI failed to start."
    | e => "STM32_Programmer_CLI process error: " ++ toString e.number
  else
    match error with
    | .failedToStart =>
      if host.platform = .windows then
        "OpenOCD failed to start. Check that the executable exists and " ++
          "required DLLs (libusb-1.0.dll) are present."
      else
        "OpenOCD failed to start. Check that the executable exists and " ++
          "libusb is installed (brew install libusb / apt install libusb-1.0-0)."
    | .timedout => "OpenOCD timed out."
    | e => "OpenOCD process error: " ++ toString e.number

def onErrorOccurred (cubeProg : Bool) (error : ProcessError) (g : SwdRecovery) : SwdRecovery :=
  let msg := errorText host cubeProg error
  let g := g.appendLog ("\nERROR: " ++ msg ++ "\n")
  if g.running then
    (({ g with running := false }.put (.runningChanged false)).setStatus
      (g.currentOp ++ " -- " ++ msg)).put (.operationError msg)
  else g

end

/-- a bank that the output of a status read tells -/
def showBank (swapBankSet : Bool) (g : SwdRecovery) : SwdRecovery :=
  (g.appendLog ("\n" ++ bankInfo swapBankSet ++ "\n")).setStatus (bankInfo swapBankSet)

/-- a percentage, and a text after the name of the operation -/
def stage (pct : Int) (text : String) (g : SwdRecovery) : SwdRecovery :=
  (g.setProgress pct).setStatus (g.currentOp ++ text)

def readCubeLine (line : List Char) (g : SwdRecovery) : SwdRecovery :=
  let g :=
    if contains line "Mass erase command correctly executed" ∨ contains line "Full chip erase" then
      g.stage 20 " -- erased, programming..."
    else if contains line "Download in Progress" then g.stage 30 " -- programming..."
    else if contains line "File download complete" then g.stage 60 " -- verifying..."
    else if contains line "Verification" ∧ contains line "OK" then g.stage 90 " -- verified OK"
    else if contains line "MCU Reset" then g.setProgress 95
    else g
  let g := match percentAtStart line with
    | some digits => g.setProgress (30 + (toInt digits * 30) / 100)
    | none => g
  if g.currentOp = "Read Status" ∧ contains line "SWAP_BANK" then
    match (swapBankNumber line).bind toIntAnyBase with
    | some val => g.showBank (val != 0)
    | none => g
  else g

def readOcdLine (line : List Char) (g : SwdRecovery) : SwdRecovery :=
  let g :=
    if contains line "Programming Started" then g.stage 25 " -- programming..."
    else if contains line "Programming Finished" then g.stage 50 " -- verifying..."
    else if contains line "Verify Started" then g.setProgress 60
    else if contains line "Verified OK" ∨ contains line "verified" then
      g.stage 90 " -- verified OK"
    else if contains line "Resetting Target" then g.setProgress 95
    else if contains line "dumped" then
      g.stage 40 " -- bank 1 dumped, programming bank 2..."
    else g
  if g.currentOp = "Read Status" ∧ contains line "0x40022050" then
    match optsrWord line with
    | some word => g.showBank (inBase 16 word &&& 0x80000000 != 0)
    | none => g
  else g

def readLine (line : List Char) (g : SwdRecovery) : SwdRecovery :=
  if g.usingCubeProg then g.readCubeLine line else g.readOcdLine line

def onProcessOutput (raw : List UInt8) (g : SwdRecovery) : SwdRecovery :=
  if g.process = none then g
  else
    (trimmedLines raw).foldl (fun g line => g.readLine line)
      (g.appendLog (String.ofList (fromUtf8 raw)))

/-- `deleteLater()` and null -/
def release (g : SwdRecovery) : SwdRecovery :=
  match g.process with
  | none => g.put .nullUse
  | some p => { g with process := none, letGo := if p.running then g.letGo + 1 else g.letGo }

/-- the process has ended -/
def ended (g : SwdRecovery) : SwdRecovery :=
  { g with process := g.process.map fun p => { p with running := false } }

def toolName (g : SwdRecovery) : String :=
  if g.usingCubeProg then "STM32_Programmer_CLI" else "OpenOCD"

/-- what the log says about a failure -/
def hints (g : SwdRecovery) : String :=
  let log := g.outputLog.toList
  let hint (found : Bool) (text : String) : String := if found then text else ""
  if g.usingCubeProg then
    hint (contains log "No STM32 target found" || contains log "ST-LINK error"
        || contains log "No debug probe detected")
      ("\nST-Link not detected or M1 not connected. Verify:\n" ++
        "  1. ST-Link is plugged into USB\n" ++
        "  2. SWD wires: SWCLK, SWDIO, GND connected to M1\n" ++
        "  3. M1 is powered (USB-C or battery)") ++
      hint (contains log "Error: Erase" || contains log "Mass erase failed")
        "\nFlash erase failed. The device may be read-protected."
  else
    hint (contains log "unable to find" || contains log "Error connecting DP")
        "\nCheck that the probe is connected and the M1 is powered." ++
      hint (contains log "No CMSIS-DAP" || contains log "no device found")
        "\nNo debug probe detected. Verify USB connection." ++
      hint (contains log "LIBUSB_ERROR") "\nUSB driver issue. Try reinstalling the probe driver."

/-- the rest of the output -/
def readRest (x : Exit) (g : SwdRecovery) : SwdRecovery :=
  let remaining := fromUtf8 x.output
  if remaining = [] then g else g.appendLog (String.ofList remaining)

/-- the handler of `finished` after its process is closed -/
def report (x : Exit) (g : SwdRecovery) : SwdRecovery :=
  let g := { g with running := false }.put (.runningChanged false)
  if x.exitStatus = .crashExit then
    (g.setStatus (g.currentOp ++ " -- " ++ g.toolName ++ " crashed.")).put
      (.operationError (g.toolName ++ " crashed. Check probe connection and try again."))
  else if x.exitCode = 0 then
    let msg := g.currentOp ++ " -- complete."
    ((((g.setProgress 100).setStatus msg).appendLog ("\n" ++ msg ++ "\n"))).put
      (.operationComplete msg)
  else
    let msg := g.currentOp ++ " failed (exit code " ++ toString x.exitCode ++ ")." ++ g.hints
    ((g.setStatus msg).appendLog ("\n" ++ msg ++ "\n")).put (.operationError msg)

/-- where the process of the member has ended -/
def onProcessFinished (x : Exit) (g : SwdRecovery) : SwdRecovery :=
  (if g.process.isSome then (g.readRest x).release else g).report x

/-- `finished` of another object.  `close()` kills a process of the member that still runs and
waits for its end, with `y`, whose handler comes in between. -/
def onLateFinished (x y : Exit) (g : SwdRecovery) : SwdRecovery :=
  if g.process.any Process.running then
    (((g.readRest x).ended.onProcessFinished y).release).report x
  else g.onProcessFinished x

/-! ## Cancel -/

section
variable (host : ToolHost)

def onSignal (cubeProg : Bool) (s : ProcessSignal) (g : SwdRecovery) : SwdRecovery :=
  match s with
  | .readyRead bytes => g.onProcessOutput bytes
  | .errorOccurred error => g.onErrorOccurred host cubeProg error

/-- `waitForFinished` on a process that was running -/
def waitForFinished (w : Wait) (g : SwdRecovery) : SwdRecovery :=
  let g := w.signals.foldl (fun g s => g.onSignal host g.usingCubeProg s) g
  match w.ended with
  | some x => g.ended.onProcessFinished x
  | none => g

/-- `kill`, `waitForFinished`, `deleteLater` and null, where there is a process -/
def stopProcess (w : Wait) (g : SwdRecovery) : SwdRecovery :=
  match g.process with
  | none => g
  | some p => (if p.running then g.waitForFinished host w else g).release

/-- what `cancel` does once the process is gone -/
def endOperation (g : SwdRecovery) : SwdRecovery :=
  if g.running then
    ((({ g with running := false, progress := 0 }.put (.runningChanged false)).put
      (.progressChanged 0)).setStatus "Operation cancelled.").appendLog "\nOperation cancelled.\n"
  else g

def cancel (w : Wait) (g : SwdRecovery) : SwdRecovery := (g.stopProcess host w).endOperation

end

end SwdRecovery

/-! ## Events -/

inductive SwdEvent where
  | recoveryFlash (binFilePath : String)
  | swapBank
  | verifyBank1 (binFilePath : String)
  | verifyBank2 (binFilePath : String)
  | cloneBank1ToBank2
  | readStatus
  | cancel (w : Wait)
  | clearLog
  | isOpenOcdAvailable
  | setProbeType (type : Int)
  | signal (s : ProcessSignal)
  | finished (x : Exit)
  /-- a signal of an object that was let go, of this tool -/
  | lateSignal (cubeProg : Bool) (s : ProcessSignal)
  | lateFinished (x y : Exit)

namespace SwdRecovery

variable (host : ToolHost)

def processRunning (g : SwdRecovery) : Bool := g.process.any Process.running

def fresh (g : SwdRecovery) : SwdRecovery := { g with out := [] }

def handle (e : SwdEvent) (g : SwdRecovery) : SwdRecovery :=
  match e with
  | .recoveryFlash binFilePath => g.recoveryFlash host binFilePath
  | .swapBank => g.swapBank host
  | .verifyBank1 binFilePath => g.verifyBank1 host binFilePath
  | .verifyBank2 binFilePath => g.verifyBank2 host binFilePath
  | .cloneBank1ToBank2 => g.cloneBank1ToBank2 host
  | .readStatus => g.readStatus host
  | .cancel w => g.cancel host w
  | .clearLog => g.clearLog
  | .isOpenOcdAvailable => g.isOpenOcdAvailable host
  | .setProbeType type => g.setProbeType type
  | .signal s => g.onSignal host g.usingCubeProg s
  | .finished x => if g.processRunning then g.ended.onProcessFinished x else g
  | .lateSignal cubeProg s => if 0 < g.letGo then g.onSignal host cubeProg s else g
  | .lateFinished x y =>
    if 0 < g.letGo then { g with letGo := g.letGo - 1 }.onLateFinished x y else g

def step (e : ToolHost × SwdEvent) (g : SwdRecovery) : SwdRecovery := g.fresh.handle e.1 e.2

end SwdRecovery

end QMon.Updater
