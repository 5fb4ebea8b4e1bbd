import QMonstatek.Device.Bytes

/-!
# The bundled helper

`stm32_dfu_flash.c` over the CubeProgrammer API.

`CubeApi`    what the API answers while the helper runs;
`ApiCall`    what the helper asks of the device, in the order of its calls;
`HelperRun`  the lines written, the calls and the exit code;
`main`       one run on a command line.
-/

namespace QMon.Updater

structure DfuDeviceInfo where
  usbIndex : String
  serialNumber : String
  productId : String
  deriving DecidableEq, Repr

structure OptionBit where
  name : String
  bitValue : UInt32
  deriving DecidableEq, Repr

structure OptionCategory where
  bits : List OptionBit
  deriving DecidableEq, Repr

structure OptionBank where
  categories : List OptionCategory
  deriving DecidableEq, Repr

/-- the option bytes, as a tree -/
structure Peripheral where
  banks : List OptionBank
  deriving DecidableEq, Repr

structure CubeApi where
  /-- the answer to `getDfuDeviceList` -/
  devices : List DfuDeviceInfo
  connectDfuBootloader : String → Int
  initOptionBytesInterface : Option Peripheral
  downloadFile : String → Nat → Int
  /-- an answer that the helper drops: the device may reset under the command -/
  sendOptionBytesCmd : String → Int
  /-- the calls of `loadBar` during a download -/
  loadBar : List (Int × Int)

inductive ApiCall where
  | downloadFile (path : String) (address : Nat)
  | sendOptionBytesCmd (cmd : String)
  | execute (address : Nat)
  | disconnect
  | deleteInterfaceList
  deriving DecidableEq, Repr

structure HelperRun where
  out : List String := []
  calls : List ApiCall := []
  exitCode : Int := 0
  deriving DecidableEq, Repr

def HelperRun.print (lines : List String) (r : HelperRun) : HelperRun :=
  { r with out := r.out ++ lines }

def HelperRun.call (calls : List ApiCall) (r : HelperRun) : HelperRun :=
  { r with calls := r.calls ++ calls }

/-- the run ends here -/
def HelperRun.exit (exitCode : Int) (r : HelperRun) : HelperRun := { r with exitCode := exitCode }

/-- `%08X` -/
def hex8 (n : Nat) : String :=
  String.ofList ((List.range 8).map fun i => (n / 16 ^ (7 - i) % 16).digitChar.toUpper)

/-- `cb_loadBar` -/
def progressLine (bar : Int × Int) : String :=
  "PROGRESS:" ++ toString (if bar.2 > 0 then (bar.1 * 100).tdiv bar.2 else 0)

/-- the first bit with this name in the tree -/
def readSwapBank : Option Peripheral → Int
  | none => -1
  | some ob =>
    match ((ob.banks.flatMap OptionBank.categories).flatMap OptionCategory.bits).find? fun bit =>
      bit.name == "SWAP_BANK" with
    | some bit => Device.toInt bit.bitValue
    | none => -1

def deviceLine (d : DfuDeviceInfo) : String :=
  "DEVICE:" ++ d.usbIndex ++ "|" ++ d.serialNumber ++ "|" ++ d.productId

namespace CubeApi
variable (api : CubeApi)

def cmdScan : HelperRun :=
  match api.devices with
  | [] => ((({} : HelperRun).print ["DEVICE:none"]).call [.deleteInterfaceList]).exit 1
  | d :: _ => ((({} : HelperRun).print [deviceLine d]).call [.deleteInterfaceList]).exit 0

/-- both other commands begin alike: the device is found and connected, and SWAP_BANK read -/
def attach : Except HelperRun (HelperRun × Int) :=
  let r := ({} : HelperRun).print ["STATUS:Scanning for DFU device..."]
  match api.devices with
  | [] =>
    .error (((r.call [.deleteInterfaceList]).print
      ["ERROR:No STM32 DFU device found. Enter DFU mode first " ++
        "(hold Up + OK for 5 seconds while powered off)."]).exit 1)
  | d :: _ =>
    let r := r.print [deviceLine d, "STATUS:Connecting to DFU device..."]
    let rc := api.connectDfuBootloader (String.ofList (d.usbIndex.toList.take 15))
    if rc ≠ 0 then
      .error (((r.call [.deleteInterfaceList]).print
        ["ERROR:Failed to connect to DFU device (code " ++ toString rc ++ "). " ++
          "Check USB connection and ensure device is in DFU mode."]).exit 1)
    else
      let swapBank := readSwapBank api.initOptionBytesInterface
      .ok (r.print ["STATUS:Reading SWAP_BANK option byte...",
        "SWAP_BANK:" ++ toString swapBank], swapBank)

/-- the physical bank a target stands for -/
def targetBank (target : String) (swapBank : Int) : Nat :=
  if target = "bank1" then 1
  else if target = "bank2" then 2
  -- the bank that is not active
  else if swapBank = 1 then 1
  else 2

/-- the logical address of a physical bank under the current mapping -/
def flashAddr (bank : Nat) (swapBank : Int) : Nat :=
  if bank = 1 then if swapBank = 0 then 0x08000000 else 0x08100000
  else if swapBank = 0 then 0x08100000 else 0x08000000

def cmdFlash (binPath target : String) : HelperRun :=
  match api.attach with
  | .error r => r
  | .ok (r, swapBank) =>
    if swapBank < 0 then
      ((r.print ["ERROR:Could not read SWAP_BANK option byte. Cannot safely " ++
        "determine flash bank mapping."]).call [.disconnect, .deleteInterfaceList]).exit 1
    else
      let bank := targetBank target swapBank
      let addr := flashAddr bank swapBank
      let r := r.print
        ["STATUS:Flashing to physical bank " ++ toString bank ++ " (logical 0x" ++ hex8 addr ++
            ", SWAP_BANK=" ++ toString swapBank ++ ")",
          "STATUS:Erasing and writing firmware to bank " ++ toString bank ++ "...",
          "PROGRESS:0"]
      let rc := api.downloadFile binPath addr
      let r := (r.call [.downloadFile binPath addr]).print (api.loadBar.map progressLine)
      if rc ≠ 0 then
        ((r.print ["ERROR:Flash failed (code " ++ toString rc ++
          "). Your existing firmware and bank " ++ "configuration are unchanged."]).call
          [.disconnect, .deleteInterfaceList]).exit 1
      else
        let r := r.print ["STATUS:Flash write complete."]
        let finalSwapBank : Int := if bank = 1 then 0 else 1
        let r :=
          if finalSwapBank ≠ swapBank then
            (r.print ["STATUS:Setting SWAP_BANK=" ++ toString finalSwapBank ++
              " to boot from bank " ++ toString bank ++ "..."]).call
              [.sendOptionBytesCmd ("-ob SWAP_BANK=" ++ toString finalSwapBank), .disconnect]
          else
            (r.print ["STATUS:Starting firmware from bank " ++ toString bank ++ "..."]).call
              [.execute addr, .disconnect]
        ((r.call [.deleteInterfaceList]).print ["PROGRESS:100", "OK"]).exit 0

def cmdSwapBank : HelperRun :=
  match api.attach with
  | .error r => r
  | .ok (r, swapBank) =>
    if swapBank < 0 then
      ((r.print ["ERROR:Could not read SWAP_BANK option byte."]).call [.disconnect]).exit 1
    else
      let newVal : Int := if swapBank = 0 then 1 else 0
      let r := (r.print ["STATUS:Switching SWAP_BANK from " ++ toString swapBank ++ " to " ++
        toString newVal ++ "..."]).call
        [.sendOptionBytesCmd ("-ob SWAP_BANK=" ++ toString newVal), .disconnect,
          .deleteInterfaceList]
      (r.print ["STATUS:Bank swap complete. Device will reboot into bank " ++
          toString (if newVal = 0 then 1 else 2 : Nat) ++ ".",
        "SWAP_BANK:" ++ toString newVal, "OK"]).exit 0

end CubeApi

/-- `main` on the arguments after the name of the program; `load` is the API, or the line that
says why it did not load -/
def main (load : Except String CubeApi) (args : List String) : HelperRun :=
  match args with
  | [] => ({} : HelperRun).exit 1
  | command :: args =>
    match load with
    | .error line => (({} : HelperRun).print [line]).exit 1
    | .ok api =>
      if command = "scan" then api.cmdScan
      else if command = "flash" then
        match args with
        | [] => (({} : HelperRun).print ["ERROR:No firmware file specified"]).exit 1
        | binPath :: rest => api.cmdFlash binPath (rest.head?.getD "inactive")
      else if command = "swapbank" then api.cmdSwapBank
      else (({} : HelperRun).print ["ERROR:Unknown command: " ++ command]).exit 1

end QMon.Updater
