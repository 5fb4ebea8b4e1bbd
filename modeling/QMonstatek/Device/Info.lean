import QMonstatek.Protocol.Commands
import QMonstatek.Protocol.Frame
import QMonstatek.Device.Bytes

/-!
# Device info

`DeviceInfo` of `device_info.h` and the packed `DeviceInfoPayload` that
`M1Device::handleDeviceInfoResp` reads it from.  A field past the end of a short payload keeps
what an earlier response left there, but for `fwVariant` and `linkActive`, which have defaults.
-/

namespace QMon.Device
open Rpc

structure DeviceInfo where
  fwMajor : UInt8 := 0
  fwMinor : UInt8 := 0
  fwBuild : UInt8 := 0
  fwRC : UInt8 := 0
  activeBank : UInt16 := 0
  batteryLevel : UInt8 := 0
  batteryCharging : Bool := false
  batteryVoltageMv : UInt16 := 0
  batteryCurrentMa : Int := 0
  batteryTempC : UInt8 := 0
  batteryHealth : UInt8 := 0
  chargeState : UInt8 := 0
  chargeFault : UInt8 := 0
  sdCardPresent : Bool := false
  sdTotalKB : UInt32 := 0
  sdFreeKB : UInt32 := 0
  esp32Ready : Bool := false
  esp32Version : String := ""
  ismBandRegion : UInt8 := 0
  opMode : UInt8 := 0
  southpawMode : Bool := false
  c3Revision : UInt8 := 0
  fwVariant : UInt8 := 0
  linkActive : Bool := false

/-- the template of `fwVersionString`; the C3 part only for a revision above 0 -/
def versionText (major minor build rc c3Revision : Nat) : String :=
  let base := "v" ++ toString major ++ "." ++ toString minor ++ "." ++ toString build ++ "."
    ++ toString rc
  if c3Revision > 0 then base ++ "-C3." ++ toString c3Revision else base

def DeviceInfo.hasDeviceInfo (info : DeviceInfo) : Bool :=
  info.fwMajor != 0 || info.fwMinor != 0 || info.fwBuild != 0 || info.fwRC != 0

def DeviceInfo.fwVersionString (info : DeviceInfo) : String :=
  if !info.hasDeviceInfo then ""
  else versionText info.fwMajor.toNat info.fwMinor.toNat info.fwBuild.toNat info.fwRC.toNat
    info.c3Revision.toNat

/-- the byte at offset `i` of a packed payload -/
def u8At (p : List UInt8) (i : Nat) : UInt8 := p.getD i 0
def u16At (p : List UInt8) (i : Nat) : UInt16 := ofLe16 (u8At p i) (u8At p (i + 1))
def u32At (p : List UInt8) (i : Nat) : UInt32 :=
  ofLe32 (u8At p i) (u8At p (i + 1)) (u8At p (i + 2)) (u8At p (i + 3))
def i16At (p : List UInt8) (i : Nat) : Int := (u16At p i).toBitVec.toInt

/-- `strnlen` bytes of a fixed-width field -/
def cField (p : List UInt8) (i n : Nat) : List UInt8 :=
  ((p.drop i).take n).takeWhile (fun b => b != 0)

/-- `offsetof(charge_fault) + 1`, `offsetof(fw_variant) + 1`, `offsetof(link_active) + 1` -/
def EXTENDED_BATT_SIZE : Nat := 66
def FW_VARIANT_SIZE : Nat := 67
def LINK_ACTIVE_SIZE : Nat := 68

/-- the fields every accepted payload carries -/
def DeviceInfo.readBase (p : List UInt8) (info : DeviceInfo) : DeviceInfo :=
  { info with
    fwMajor := u8At p 4
    fwMinor := u8At p 5
    fwBuild := u8At p 6
    fwRC := u8At p 7
    activeBank := u16At p 8
    batteryLevel := u8At p 10
    batteryCharging := u8At p 11 != 0
    sdCardPresent := u8At p 12 != 0
    sdTotalKB := u32At p 13
    sdFreeKB := u32At p 17
    esp32Ready := u8At p 21 != 0
    esp32Version := latin1 (cField p 22 32)
    ismBandRegion := u8At p 54
    opMode := u8At p 55
    southpawMode := u8At p 56 != 0
    c3Revision := u8At p 57 }

/-- the battery detail that later firmware appends -/
def DeviceInfo.readBattery (p : List UInt8) (info : DeviceInfo) : DeviceInfo :=
  { info with
    batteryVoltageMv := u16At p 58
    batteryCurrentMa := i16At p 60
    batteryTempC := u8At p 62
    batteryHealth := u8At p 63
    chargeState := u8At p 64
    chargeFault := u8At p 65 }

/-- `M1Device::handleDeviceInfoResp`: the stored info after a response, `none` if it is dropped -/
def DeviceInfo.ofPayload (p : List UInt8) (info : DeviceInfo) : Option DeviceInfo :=
  if p.length < DEVICE_INFO_BASE_SIZE then none
  else if u32At p 0 ≠ DEVICE_INFO_MAGIC then none
  else
    let info := info.readBase p
    let info := if p.length ≥ EXTENDED_BATT_SIZE then info.readBattery p else info
    some { info with
      fwVariant := if p.length ≥ FW_VARIANT_SIZE then u8At p 66 else 0
      linkActive := decide (p.length ≥ LINK_ACTIVE_SIZE) && u8At p 67 != 0 }

end QMon.Device
