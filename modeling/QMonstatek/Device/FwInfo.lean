import QMonstatek.Device.Info
import QMonstatek.Transport.MdnsPacket

/-!
# Firmware info

`FwBankInfo` is the packed structure of `rpc_protocol.h`, `handleFwInfoResp` the handler.  The size
of a bank's record is taken from the length of the payload; older firmware sends 13 bytes a bank,
newer 34.  `handleFwInfoResp_banks`: each bank is reported from its own record.

The texts of both info responses are fields of fixed width that end at their first NUL.
`esp32Version` is cut there, `buildDate` is not: `textFields_iff`.
-/

namespace QMon.Device
open Rpc
open QMon.Transport (PastEnd)

/-- what the firmware knows of one bank -/
structure FwBankInfo where
  fw_version_major : UInt8
  fw_version_minor : UInt8
  fw_version_build : UInt8
  fw_version_rc : UInt8
  crc_valid : UInt8
  crc32 : UInt32
  image_size : UInt32
  c3_revision : UInt8
  build_date : List UInt8
  deriving DecidableEq

/-- `sizeof(rpc::FwBankInfo)` -/
def fwBankInfoSize : Nat := 34

/-- active_bank(2) + 2 * old BankInfo(13) -/
def MIN_FW_INFO_SIZE : Nat := 28

/-- the packed structure at the front of `bytes` -/
def FwBankInfo.ofBytes (bytes : List UInt8) : FwBankInfo where
  fw_version_major := u8At bytes 0
  fw_version_minor := u8At bytes 1
  fw_version_build := u8At bytes 2
  fw_version_rc := u8At bytes 3
  crc_valid := u8At bytes 4
  crc32 := u32At bytes 5
  image_size := u32At bytes 9
  c3_revision := u8At bytes 13
  build_date := (bytes.drop 14).take 20

/-- the `QJsonObject` of a bank -/
structure BankJson where
  major : UInt8
  minor : UInt8
  build : UInt8
  rc : UInt8
  crcValid : Bool
  imageSize : Int
  c3Revision : UInt8
  buildDate : List Char
  deriving DecidableEq

/-- the characters of `QString::fromLatin1` -/
def latin1Chars (bytes : List UInt8) : List Char := bytes.map fun b => Char.ofNat b.toNat

def bankToJson (b : FwBankInfo) : BankJson where
  major := b.fw_version_major
  minor := b.fw_version_minor
  build := b.fw_version_build
  rc := b.fw_version_rc
  crcValid := b.crc_valid != 0
  imageSize := toInt b.image_size
  c3Revision := b.c3_revision
  buildDate := Updater.trimmed (latin1Chars (b.build_date.take 19))

/-- the `QJsonObject` of `fwInfoReceived` -/
structure FwInfo where
  activeBank : UInt16
  bank1 : BankJson
  bank2 : BankJson
  deriving DecidableEq

/-- `memcpy(dst, raw + pos, n)`, an error where it reads past the end of the payload -/
def copyBytes (payload dst : List UInt8) (pos n : Nat) : Except PastEnd (List UInt8) :=
  if pos + n ≤ payload.length then .ok ((payload.drop pos).take n ++ dst.drop n)
  else .error ⟨max pos payload.length⟩

/-- what is emitted with `fwInfoReceived`, `none` for a payload that is dropped -/
def handleFwInfoResp (payload : List UInt8) : Except PastEnd (Option FwInfo) :=
  if payload.length < MIN_FW_INFO_SIZE then return none
  else do
    let active_bank ← copyBytes payload (List.replicate 2 0) 0 2
    let perBankSize := (payload.length - 2) / 2
    let copyBank := min perBankSize fwBankInfoSize
    -- the banks are zero where nothing is copied
    let bank1 ← copyBytes payload (List.replicate fwBankInfoSize 0) 2 copyBank
    let bank2 ← copyBytes payload (List.replicate fwBankInfoSize 0) (2 + perBankSize) copyBank
    return some
      { activeBank := u16At active_bank 0
        bank1 := bankToJson (.ofBytes bank1)
        bank2 := bankToJson (.ofBytes bank2) }

/-! ## Each bank from its own record -/

/-- a record, zero-extended or truncated to the structure's size -/
def fitted (record : List UInt8) : List UInt8 :=
  (record ++ List.replicate fwBankInfoSize 0).take fwBankInfoSize

theorem copyBytes_record (front record rest : List UInt8) :
    copyBytes (front ++ (record ++ rest)) (List.replicate fwBankInfoSize 0) front.length
      (min record.length fwBankInfoSize) = .ok (fitted record) := by
  have hinside : front.length + min record.length fwBankInfoSize ≤
      (front ++ (record ++ rest)).length := by
    rw [List.length_append, List.length_append]
    omega
  unfold copyBytes fitted
  rw [if_pos hinside, List.drop_left, List.take_append_of_le_length (Nat.min_le_left _ _),
    List.drop_replicate, List.take_append, List.take_replicate]
  by_cases hlong : fwBankInfoSize ≤ record.length
  · rw [Nat.min_eq_right hlong, Nat.sub_self, Nat.sub_eq_zero_of_le hlong, Nat.zero_min]
  · have hshort : record.length ≤ fwBankInfoSize := Nat.le_of_not_le hlong
    rw [Nat.min_eq_left hshort, List.take_of_length_le (Nat.le_refl _),
      List.take_of_length_le hshort, Nat.min_eq_left (Nat.sub_le _ _)]

/-- **The two records** of any length are found, and nothing else is read. -/
theorem handleFwInfoResp_records {s : Nat} (hs : 13 ≤ s) {active record1 record2 tail : List UInt8}
    (ha : active.length = 2) (h1 : record1.length = s) (h2 : record2.length = s)
    (ht : tail.length ≤ 1) :
    handleFwInfoResp (active ++ record1 ++ record2 ++ tail) =
      .ok (some
        { activeBank := u16At active 0
          bank1 := bankToJson (.ofBytes (fitted record1))
          bank2 := bankToJson (.ofBytes (fitted record2)) }) := by
  have hlen : (active ++ record1 ++ record2 ++ tail).length = 2 + s + s + tail.length := by
    rw [List.length_append, List.length_append, List.length_append, ha, h1, h2]
  have hsize : ((active ++ record1 ++ record2 ++ tail).length - 2) / 2 = s := by omega
  have hactive : copyBytes (active ++ record1 ++ record2 ++ tail) (List.replicate 2 0) 0 2
      = .ok active := by
    unfold copyBytes
    rw [if_pos (by omega), List.drop_zero, List.append_assoc, List.append_assoc,
      List.take_append_of_le_length (Nat.le_of_eq ha.symm), List.take_of_length_le (by omega)]
    exact congrArg Except.ok (List.append_nil active)
  have hbank1 := copyBytes_record active record1 (record2 ++ tail)
  rw [ha, h1, ← List.append_assoc, ← List.append_assoc] at hbank1
  have hbank2 := copyBytes_record (active ++ record1) record2 tail
  rw [List.length_append, ha, h1, h2, ← List.append_assoc] at hbank2
  unfold handleFwInfoResp
  rw [if_neg (by unfold MIN_FW_INFO_SIZE; omega)]
  simp only [hsize, hactive, hbank1, hbank2]
  rfl

/-- a version with two 13-byte records and one byte behind them -/
theorem handleFwInfoResp_old :
    let bank1 : List UInt8 := [0, 8, 0, 1, 1, 0xEF, 0xBE, 0xAD, 0xDE, 0, 0, 4, 0]
    let bank2 : List UInt8 := [0, 7, 9, 0, 0, 0, 0, 0, 0, 0xFF, 0xFF, 0xFF, 0xFF]
    13 ≤ 13 ∧ handleFwInfoResp ([0x4A, 0x53] ++ bank1 ++ bank2 ++ [0xAA]) =
      .ok (some
        { activeBank := 0x534A
          bank1 := bankToJson (.ofBytes (fitted bank1))
          bank2 := bankToJson (.ofBytes (fitted bank2)) }) ∧
      (bankToJson (.ofBytes (fitted bank2))).imageSize = -1 :=
  ⟨Nat.le_refl 13, @handleFwInfoResp_records 13 (Nat.le_refl 13) [0x4A, 0x53]
    [0, 8, 0, 1, 1, 0xEF, 0xBE, 0xAD, 0xDE, 0, 0, 4, 0]
    [0, 7, 9, 0, 0, 0, 0, 0, 0, 0xFF, 0xFF, 0xFF, 0xFF] [0xAA] rfl rfl rfl (Nat.le_refl 1),
    by decide⟩

/-! ## Texts of fixed width -/

/-- what a text of fixed width should show: nothing but bytes in front of the first NUL -/
structure FieldText (shown : List UInt8 → List Char) (field : List UInt8) (text : List Char) :
    Prop where
  before : ∃ bytes, bytes <+: untilNul field ∧ text = shown bytes
  empty : untilNul field = [] → text = []

/-- a date is trimmed -/
def trimmedChars (bytes : List UInt8) : List Char := Updater.trimmed (latin1Chars bytes)

/-- the bytes of `esp32_version` -/
def esp32Field (payload : List UInt8) : List UInt8 := (payload.drop 22).take 32

/-- the bytes of `build_date` that a record has; none in the older ones -/
def dateField (record : List UInt8) : List UInt8 := (record.drop 14).take 20

/-- the record of the first bank, and of the second, as the payload's length gives them -/
def record1Of (payload : List UInt8) : List UInt8 :=
  (payload.drop 2).take ((payload.length - 2) / 2)
def record2Of (payload : List UInt8) : List UInt8 :=
  (payload.drop (2 + (payload.length - 2) / 2)).take ((payload.length - 2) / 2)

/-- the record has a date, with no NUL in the part that is shown -/
def Dated (record : List UInt8) : Prop := 33 ≤ record.length ∧ 0 ∉ (dateField record).take 19

instance (record : List UInt8) : Decidable (Dated record) := inferInstanceAs (Decidable (_ ∧ _))

/-- **Any payload** long enough is two records and at most one byte. -/
theorem handleFwInfoResp_of_le {payload : List UInt8} (h : MIN_FW_INFO_SIZE ≤ payload.length) :
    handleFwInfoResp payload =
      .ok (some
        { activeBank := u16At (payload.take 2) 0
          bank1 := bankToJson (.ofBytes (fitted (record1Of payload)))
          bank2 := bankToJson (.ofBytes (fitted (record2Of payload))) }) := by
  unfold MIN_FW_INFO_SIZE at h
  have hcut : payload.take 2 ++ record1Of payload ++ record2Of payload ++
      payload.drop (2 + (payload.length - 2) / 2 + (payload.length - 2) / 2) = payload := by
    unfold record1Of record2Of
    generalize (payload.length - 2) / 2 = s
    have hdrop1 : payload.drop (2 + s) = (payload.drop 2).drop s := List.drop_drop.symm
    have hdrop2 : payload.drop (2 + s + s) = ((payload.drop 2).drop s).drop s := by
      rw [← hdrop1, List.drop_drop]
    rw [hdrop1, hdrop2, List.append_assoc, List.append_assoc, List.take_append_drop,
      List.take_append_drop, List.take_append_drop]
  have h2 : (payload.take 2).length = 2 := List.length_take_of_le (by omega)
  have hr1 : (record1Of payload).length = (payload.length - 2) / 2 := by
    unfold record1Of
    rw [List.length_take, List.length_drop]
    omega
  have hr2 : (record2Of payload).length = (payload.length - 2) / 2 := by
    unfold record2Of
    rw [List.length_take, List.length_drop]
    omega
  have hall := handleFwInfoResp_records (by omega) h2 hr1 hr2
    (show (payload.drop (2 + (payload.length - 2) / 2 + (payload.length - 2) / 2)).length ≤ 1 by
      rw [List.length_drop]
      omega)
  rwa [hcut] at hall

theorem zero_mem_latin1Chars_iff (bytes : List UInt8) : '\x00' ∈ latin1Chars bytes ↔ 0 ∈ bytes := by
  have hchar (b : UInt8) : Char.ofNat b.toNat = '\x00' → b = 0 := by
    intro hb
    have hlt := b.toNat_lt
    have hval := Updater.toNat_ofNat (n := b.toNat) (.inl (by omega))
    rw [hb] at hval
    exact UInt8.toNat_inj.mp hval.symm
  unfold latin1Chars
  rw [List.mem_map]
  constructor
  · rintro ⟨b, hb, hzero⟩
    exact hchar b hzero ▸ hb
  · intro h
    exact ⟨0, h, rfl⟩

theorem zero_mem_trimmedChars_iff (bytes : List UInt8) :
    '\x00' ∈ trimmedChars bytes ↔ 0 ∈ bytes := by
  unfold trimmedChars
  rw [Updater.mem_trimmed_iff (by decide), zero_mem_latin1Chars_iff]

/-- what is shown of a record's date -/
theorem buildDate_eq (record : List UInt8) : (bankToJson (.ofBytes (fitted record))).buildDate =
    trimmedChars (((fitted record).drop 14).take 19) := by
  show trimmedChars ((((fitted record).drop 14).take 20).take 19) = _
  rw [List.take_take]
  rfl

/-- the nineteen bytes that are shown -/
theorem shownDate_eq (record : List UInt8) : ((fitted record).drop 14).take 19 =
    ((record ++ List.replicate fwBankInfoSize 0).drop 14).take 19 := by
  unfold fitted
  rw [List.drop_take, List.take_take]
  rfl

/-- a record that ends inside the date is filled up with NULs -/
theorem zero_mem_shownDate {record : List UInt8} (h : record.length < 33) :
    0 ∈ ((fitted record).drop 14).take 19 := by
  rw [shownDate_eq]
  -- the first position of the date that the record does not reach
  have hpos : max record.length 14 - 14 < 19 := by omega
  have hzero : (((record ++ List.replicate fwBankInfoSize 0).drop 14).take 19)[
      max record.length 14 - 14]? = some 0 := by
    rw [List.getElem?_take_of_lt hpos, List.getElem?_drop,
      List.getElem?_append_right (by omega), List.getElem?_replicate_of_lt]
    unfold fwBankInfoSize
    omega
  exact List.mem_of_getElem? hzero

theorem shownDate_of_le {record : List UInt8} (h : 33 ≤ record.length) :
    ((fitted record).drop 14).take 19 = (dateField record).take 19 := by
  have hlong : 19 ≤ (record.drop 14).length := by
    rw [List.length_drop]
    omega
  unfold dateField
  rw [shownDate_eq, List.drop_append_of_le_length (by omega),
    List.take_append_of_le_length hlong, List.take_take]
  rfl

theorem FieldText.zero_notMem {field : List UInt8} {text : List Char}
    (h : FieldText trimmedChars field text) : '\x00' ∉ text := by
  obtain ⟨bytes, hpre, rfl⟩ := h.before
  rw [zero_mem_trimmedChars_iff]
  exact fun h0 => zero_notMem_untilNul field (hpre.subset h0)

/-- **A date** shows what it should exactly when the record has it, without a NUL. -/
theorem buildDate_iff (record : List UInt8) :
    FieldText trimmedChars (dateField record)
      (bankToJson (.ofBytes (fitted record))).buildDate ↔ Dated record := by
  rw [buildDate_eq]
  by_cases hlen : record.length < 33
  · refine iff_of_false (fun h => ?_) (fun h => Nat.not_le_of_lt hlen h.1)
    exact h.zero_notMem ((zero_mem_trimmedChars_iff _).mpr (zero_mem_shownDate hlen))
  · rw [shownDate_of_le (Nat.le_of_not_lt hlen)]
    constructor
    · intro h
      refine ⟨Nat.le_of_not_lt hlen, fun h0 => ?_⟩
      exact h.zero_notMem ((zero_mem_trimmedChars_iff _).mpr h0)
    · rintro ⟨-, h0⟩
      have hpre : (dateField record).take 19 <+: untilNul (dateField record) :=
        prefix_untilNul (List.take_prefix _ _) h0
      refine ⟨⟨_, hpre, rfl⟩, fun hnil => ?_⟩
      rw [hnil, List.prefix_nil] at hpre
      rw [hpre]
      rfl

/-- **The texts of both responses.**  The version of the ESP32 always shows what it should, the two
dates exactly when both records have one without a NUL. -/
theorem textFields_iff (payload : List UInt8) :
    (∀ old info, DeviceInfo.ofPayload payload old = some info →
      FieldText latin1Chars (esp32Field payload) info.esp32Version.toList) ∧
    ∀ info, handleFwInfoResp payload = .ok (some info) →
      ((FieldText trimmedChars (dateField (record1Of payload)) info.bank1.buildDate ∧
          FieldText trimmedChars (dateField (record2Of payload)) info.bank2.buildDate) ↔
        Dated (record1Of payload) ∧ Dated (record2Of payload)) := by
  constructor
  · intro old info h
    have htext : info.esp32Version = latin1 (untilNul (esp32Field payload)) := by
      unfold DeviceInfo.ofPayload at h
      split at h
      · cases h
      split at h
      · cases h
      · obtain rfl := Option.some.inj h
        dsimp only
        split <;> rfl
    rw [htext, latin1, String.toList_ofList]
    refine ⟨⟨_, List.prefix_refl _, rfl⟩, fun hnil => ?_⟩
    rw [hnil]
    rfl
  · intro info h
    have hlen : MIN_FW_INFO_SIZE ≤ payload.length := by
      by_contra hshort
      unfold handleFwInfoResp at h
      rw [if_pos (Nat.lt_of_not_le hshort)] at h
      cases h
    rw [handleFwInfoResp_of_le hlen] at h
    cases h
    exact and_congr (buildDate_iff _) (buildDate_iff _)

/-- two records with the date "Jan 01 2025 12:00:00", and a version that ends at its NUL -/
theorem textFields_new :
    let date : List UInt8 := [74, 97, 110, 32, 48, 49, 32, 50, 48, 50, 53, 32, 49, 50, 58, 48, 48,
      58, 48, 48]
    let payload := [0x4A, 0x53] ++ (List.replicate 14 1 ++ date) ++ (List.replicate 14 0 ++ date)
    let version := [0x49, 0x46, 0x31, 0x4D] ++ List.replicate 18 0 ++ [50, 46, 52] ++
      List.replicate 33 0
    (∃ info, handleFwInfoResp payload = .ok (some info) ∧
      FieldText trimmedChars (dateField (record1Of payload)) info.bank1.buildDate ∧
      FieldText trimmedChars (dateField (record2Of payload)) info.bank2.buildDate) ∧
    ∃ info, DeviceInfo.ofPayload version {} = some info ∧
      FieldText latin1Chars (esp32Field version) info.esp32Version.toList := by
  intro date payload version
  have hlong : MIN_FW_INFO_SIZE ≤ payload.length := by decide
  have hbanks := handleFwInfoResp_of_le hlong
  obtain ⟨info, hinfo⟩ : ∃ info, DeviceInfo.ofPayload version {} = some info :=
    Option.isSome_iff_exists.mp (by decide)
  exact ⟨⟨_, hbanks, ((textFields_iff payload).2 _ hbanks).mpr (by decide)⟩,
    info, hinfo, (textFields_iff version).1 {} info hinfo⟩

/-- firmware that sends no dates is shown with dates of nineteen NULs -/
theorem textFields_old :
    let payload : List UInt8 := [0x4A, 0x53] ++ List.replicate 26 1
    dateField (record1Of payload) = [] ∧
      ∃ info, handleFwInfoResp payload = .ok (some info) ∧
        info.bank1.buildDate = List.replicate 19 '\x00' ∧
        ¬ FieldText trimmedChars (dateField (record1Of payload)) info.bank1.buildDate :=
  ⟨by decide, _, rfl, by decide, fun h => absurd (h.empty (by decide)) (by decide)⟩

end QMon.Device
