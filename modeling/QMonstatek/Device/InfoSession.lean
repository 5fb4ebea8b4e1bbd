import QMonstatek.Device.Session
import QMonstatek.Lib.Run

/-!
# Device info over a session

A response that is accepted should leave the info that it alone gives: `ofPayload payload {}`, with
the defaults where the payload is too short.  The battery detail breaks this.  It is stored only
from a payload that has it, and is not reset by one that has not, as `fwVariant` and `linkActive`
are: `responses_iff`.
-/

namespace QMon.Device
open Rpc Run

/-- a response that is long enough and has the magic number -/
def Accepted (payload : List UInt8) : Prop :=
  DEVICE_INFO_BASE_SIZE ≤ payload.length ∧ u32At payload 0 = DEVICE_INFO_MAGIC

instance (payload : List UInt8) : Decidable (Accepted payload) :=
  inferInstanceAs (Decidable (_ ∧ _))

/-- the battery detail of `old` instead -/
def DeviceInfo.keepBattery (info old : DeviceInfo) : DeviceInfo :=
  { info with
    batteryVoltageMv := old.batteryVoltageMv
    batteryCurrentMa := old.batteryCurrentMa
    batteryTempC := old.batteryTempC
    batteryHealth := old.batteryHealth
    chargeState := old.chargeState
    chargeFault := old.chargeFault }

/-- the battery detail has its defaults -/
def DeviceInfo.NoBattery (info : DeviceInfo) : Prop :=
  info.batteryVoltageMv = 0 ∧ info.batteryCurrentMa = 0 ∧ info.batteryTempC = 0 ∧
    info.batteryHealth = 0 ∧ info.chargeState = 0 ∧ info.chargeFault = 0

/-- a response leaves nothing behind but what it says itself -/
def Reflects (payload : List UInt8) (d : Dev) : Prop :=
  match DeviceInfo.ofPayload payload {} with
  | none => d.handleDeviceInfoResp payload = d
  | some info => d.handleDeviceInfoResp payload =
      Dev.emit { d with deviceInfo := info } .deviceInfoUpdated

/-- a response that is accepted without the battery detail finds none -/
def BatteryFresh (payload : List UInt8) (d : Dev) : Prop :=
  Accepted payload → payload.length < EXTENDED_BATT_SIZE → d.deviceInfo.NoBattery

/-- the responses of a session, one after the other -/
def responses (payloads : List (List UInt8)) (d : Dev) : Dev :=
  exec Dev.handleDeviceInfoResp payloads d

/-! ## One response -/

theorem ofPayload_of_not {payload : List UInt8} (h : ¬ Accepted payload) (old : DeviceInfo) :
    DeviceInfo.ofPayload payload old = none := by
  unfold DeviceInfo.ofPayload
  split
  · rfl
  rename_i hlen
  rw [if_pos fun hmagic => h ⟨Nat.le_of_not_lt hlen, hmagic⟩]

/-- **What is kept of the info before**: the battery detail, where the payload has none. -/
theorem ofPayload_of_accepted {payload : List UInt8} (h : Accepted payload) :
    ∃ info, ∀ old, DeviceInfo.ofPayload payload old = some
      (if payload.length < EXTENDED_BATT_SIZE then info.keepBattery old else info) := by
  obtain ⟨info, hinfo⟩ : ∃ info, DeviceInfo.ofPayload payload {} = some info := by
    unfold DeviceInfo.ofPayload
    rw [if_neg (Nat.not_lt.mpr h.1), if_neg (not_not.mpr h.2)]
    exact ⟨_, rfl⟩
  refine ⟨info, fun old => ?_⟩
  unfold DeviceInfo.ofPayload at hinfo ⊢
  rw [if_neg (Nat.not_lt.mpr h.1), if_neg (not_not.mpr h.2)] at hinfo ⊢
  obtain rfl := Option.some.inj hinfo
  by_cases hlong : payload.length < EXTENDED_BATT_SIZE
  · rw [if_pos hlong]
    dsimp only
    rw [if_neg (Nat.not_le_of_lt hlong), if_neg (Nat.not_le_of_lt hlong)]
    rfl
  · rw [if_neg hlong]
    dsimp only
    rw [if_pos (Nat.le_of_not_lt hlong), if_pos (Nat.le_of_not_lt hlong)]
    rfl

theorem keepBattery_eq_iff (info old : DeviceInfo) :
    info.keepBattery old = info.keepBattery {} ↔ old.NoBattery := by
  unfold DeviceInfo.keepBattery DeviceInfo.NoBattery
  rw [DeviceInfo.mk.injEq]
  simp only [true_and, and_true]

theorem handleDeviceInfoResp_of_not {payload : List UInt8} (h : ¬ Accepted payload) (d : Dev) :
    d.handleDeviceInfoResp payload = d := by
  unfold Dev.handleDeviceInfoResp
  rw [ofPayload_of_not h]

theorem handleDeviceInfoResp_of_some {payload : List UInt8} {d : Dev} {info : DeviceInfo}
    (h : DeviceInfo.ofPayload payload d.deviceInfo = some info) :
    d.handleDeviceInfoResp payload = Dev.emit { d with deviceInfo := info } .deviceInfoUpdated := by
  unfold Dev.handleDeviceInfoResp
  rw [h]

/-- **One response** leaves nothing behind exactly when it finds no battery detail it does not
replace. -/
theorem reflects_iff (payload : List UInt8) (d : Dev) :
    Reflects payload d ↔ BatteryFresh payload d := by
  unfold Reflects BatteryFresh
  by_cases h : Accepted payload
  · obtain ⟨info, hinfo⟩ := ofPayload_of_accepted h
    rw [hinfo {}, handleDeviceInfoResp_of_some (hinfo d.deviceInfo)]
    by_cases hlong : payload.length < EXTENDED_BATT_SIZE
    · rw [if_pos hlong, if_pos hlong]
      constructor
      · intro hsame _ _
        exact (keepBattery_eq_iff info _).mp (congrArg Dev.deviceInfo hsame)
      · intro hnone
        show Dev.emit { d with deviceInfo := info.keepBattery d.deviceInfo } _ = _
        rw [(keepBattery_eq_iff info _).mpr (hnone h hlong)]
    · rw [if_neg hlong, if_neg hlong]
      exact iff_of_true rfl fun _ hshort => absurd hshort hlong
  · rw [ofPayload_of_not h]
    exact iff_of_true (handleDeviceInfoResp_of_not h d) fun ha => absurd ha h

/-! ## A session -/

theorem responses_concat (payloads : List (List UInt8)) (last : List UInt8) (d : Dev) :
    responses (payloads ++ [last]) d = (responses payloads d).handleDeviceInfoResp last := by
  induction payloads generalizing d with
  | nil => rfl
  | cons payload payloads ih => exact ih (d.handleDeviceInfoResp payload)

theorem Reflects.deviceInfo {payload : List UInt8} {d : Dev} (h : Reflects payload d)
    {info : DeviceInfo} (hinfo : DeviceInfo.ofPayload payload {} = some info) :
    (d.handleDeviceInfoResp payload).deviceInfo = info := by
  unfold Reflects at h
  rw [hinfo] at h
  rw [h]
  rfl

/-- **Any responses, after any others.**  Each leaves just what it says exactly when none that is
accepted without the battery detail finds an older one; and then two sessions that end with the
same accepted response end with the same info. -/
theorem responses_iff (payloads : List (List UInt8)) (d : Dev) :
    (Along Dev.handleDeviceInfoResp Reflects payloads d ↔
      Along Dev.handleDeviceInfoResp BatteryFresh payloads d) ∧
    ∀ payloads' d' last, Accepted last →
      BatteryFresh last (responses payloads d) → BatteryFresh last (responses payloads' d') →
      (responses (payloads ++ [last]) d).deviceInfo =
        (responses (payloads' ++ [last]) d').deviceInfo := by
  constructor
  · exact along_iff _ (I := fun _ => True) (fun _ _ _ => trivial)
      (fun payload d _ => reflects_iff payload d) payloads d trivial
  · intro payloads' d' last hlast h h'
    obtain ⟨info, hinfo⟩ := ofPayload_of_accepted hlast
    rw [responses_concat, responses_concat,
      ((reflects_iff _ _).mpr h).deviceInfo (hinfo {}),
      ((reflects_iff _ _).mpr h').deviceInfo (hinfo {})]

/-- a response of 68 bytes, and one of 58 from older firmware: every byte behind the magic number
is `b` -/
def infoOf (length : Nat) (b : UInt8) : List UInt8 :=
  [0x49, 0x46, 0x31, 0x4D] ++ List.replicate (length - 4) b

/-- two sessions that end with the same response of the older kind -/
theorem responses_same :
    (responses ([[], infoOf 58 3] ++ [infoOf 58 2]) {}).deviceInfo =
      (responses ([infoOf 67 0] ++ [infoOf 58 2]) {}).deviceInfo :=
  (responses_iff [[], infoOf 58 3] {}).2 [infoOf 67 0] {} (infoOf 58 2) (by decide)
    (fun _ _ => ⟨rfl, rfl, rfl, rfl, rfl, rfl⟩) (fun _ _ => ⟨rfl, rfl, rfl, rfl, rfl, rfl⟩)

/-- the battery detail of the response before is still there -/
theorem responses_stale :
    Accepted (infoOf 68 1) ∧ Accepted (infoOf 58 2) ∧
      (responses [infoOf 58 2] {}).deviceInfo.batteryVoltageMv = 0 ∧
      (responses [infoOf 68 1, infoOf 58 2] {}).deviceInfo.batteryVoltageMv = 0x0101 ∧
      (responses [infoOf 68 1, infoOf 58 2] {}).deviceInfo.fwVariant = 0 := by
  decide

end QMon.Device
