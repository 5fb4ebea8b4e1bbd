import QMonstatek.Device.ListingPath
import QMonstatek.Transport.MdnsPacket

/-!
# What is read of a listing

`checkedFileListResp` is `handleFileListResp` with every byte read by its position, an error where
the position is not in the payload, and with the place of every record it reports
(`checkedFileListResp_eq`).

A record that the payload cuts off inside its name is reported all the same, and a payload with no
NUL is read up to the NUL that `QByteArray` keeps behind it: `onlyWhole_iff`.
-/

namespace QMon.Device
open Rpc
open QMon.Transport (PastEnd byteAt)
open Updater (fromUtf8 utf8bom invalidBytes ValidUtf8)

/-- an entry and the bytes it was read from: from `start` up to `stop` -/
structure ListedRecord where
  start : Nat
  stop : Nat
  entry : ListedEntry
  deriving DecidableEq

/-- the first NUL, looked for from position `pos` on -/
def strEnd : List UInt8 → Nat → Except PastEnd Nat
  | [], pos => .error ⟨pos⟩
  | b :: rest, pos => if b = 0 then .ok pos else strEnd rest (pos + 1)

/-- `while (offset < remaining && data[offset] != 0) offset++` -/
def nameEndAt (data : List UInt8) (offset : Nat) : Except PastEnd {stop : Nat // offset ≤ stop} :=
  if offset < data.length then do
    let b ← byteAt data offset
    if b != 0 then do
      let stop ← nameEndAt data (offset + 1)
      return ⟨stop.val, Nat.le_of_succ_le stop.property⟩
    else return ⟨offset, Nat.le_refl _⟩
  else return ⟨offset, Nat.le_refl _⟩
termination_by data.length - offset

/-- the nine bytes in front of a name: date and time are skipped -/
def headAt (data : List UInt8) (offset : Nat) : Except PastEnd (Bool × Int) := do
  let isDir ← byteAt data offset
  let b0 ← byteAt data (offset + 1)
  let b1 ← byteAt data (offset + 2)
  let b2 ← byteAt data (offset + 3)
  let b3 ← byteAt data (offset + 4)
  return (isDir != 0, toInt (ofLe32 b0 b1 b2 b3))

/-- the loop over the records -/
def checkedEntries (data : List UInt8) (offset : Nat) : Except PastEnd (List ListedRecord) :=
  if _h : offset + 9 < data.length then do
    let head ← headAt data offset
    let nameEnd ← nameEndAt data (offset + 9)
    let name := (data.drop (offset + 9)).take (nameEnd.val - (offset + 9))
    let rest ← checkedEntries data (nameEnd.val + 1)
    return ⟨offset, nameEnd.val + 1, ⟨head.1, head.2, String.ofList (fromUtf8 name)⟩⟩ :: rest
  else return []
termination_by data.length - offset
decreasing_by
  have := nameEnd.property
  omega

/-- `handleFileListResp`, byte by byte -/
def checkedFileListResp (payload : List UInt8) :
    Except PastEnd (Option (String × List ListedRecord)) :=
  if payload.length < 1 then return none
  else do
    let pathEnd ← strEnd payload 0
    let path := String.ofList (fromUtf8 (payload.take pathEnd))
    let records ← checkedEntries payload ((utf8 path).length + 1)
    return some (path, records)

/-! ## What should be listed -/

/-- a record of a listing, its name as bytes without NUL -/
structure RawRecord where
  is_dir : UInt8
  size : UInt32
  date : UInt16
  time : UInt16
  name : List UInt8
  noNul : 0 ∉ name

def RawRecord.bytes (e : RawRecord) : List UInt8 :=
  [e.is_dir] ++ le32 e.size ++ le16 e.date ++ le16 e.time ++ e.name ++ [0]

def RawRecord.listed (e : RawRecord) : ListedEntry :=
  ⟨e.is_dir != 0, toInt e.size, String.ofList (fromUtf8 e.name)⟩

/-- the entry is that of a whole record of the payload, its NUL included -/
def Whole (payload : List UInt8) (r : ListedRecord) : Prop :=
  ∃ e : RawRecord, e.bytes <+: payload.drop r.start ∧ r.stop = r.start + e.bytes.length ∧
    r.entry = e.listed

/-- whole records, one directly behind the other, the first at `start` -/
inductive WholeFrom (payload : List UInt8) : Nat → List ListedRecord → Prop
  | nil (start : Nat) : WholeFrom payload start []
  | cons {start : Nat} {r : ListedRecord} {rest : List ListedRecord} (begins : r.start = start)
      (whole : Whole payload r) (next : WholeFrom payload r.stop rest) :
      WholeFrom payload start (r :: rest)

/-- no read leaves the payload, and only whole records are reported: one behind the other, and from
the path's NUL on where the path is valid -/
structure OnlyWhole (payload : List UInt8) : Prop where
  inside : ∃ reported, checkedFileListResp payload = .ok reported
  whole : ∀ path records, checkedFileListResp payload = .ok (some (path, records)) →
    (∃ start, WholeFrom payload start records) ∧
      (ValidUtf8 (untilNul payload) → WholeFrom payload ((untilNul payload).length + 1) records)

/-- no name is cut off by the end of the bytes -/
inductive NamesEnd : List UInt8 → Prop
  | short {bytes : List UInt8} (h : bytes.length ≤ 9) : NamesEnd bytes
  | record {head name rest : List UInt8} (hhead : head.length = 9) (hname : 0 ∉ name)
      (hrest : NamesEnd rest) : NamesEnd (head ++ name ++ 0 :: rest)

/-- the bytes the records are looked for in -/
def recordBytes (payload : List UInt8) : List UInt8 :=
  payload.drop ((untilNul payload).length + 1 + recordShift (untilNul payload)).toNat

/-! ## Every read but one is inside -/

theorem strEnd_of_mem {data : List UInt8} (h : 0 ∈ data) (pos : Nat) :
    strEnd data pos = .ok (pos + (untilNul data).length) := by
  induction data generalizing pos with
  | nil => cases h
  | cons b rest ih =>
    unfold strEnd
    rw [untilNul_cons]
    by_cases hb : b = 0
    · rw [if_pos hb, if_pos hb]
      rfl
    · have hrest := ih ((List.mem_cons.mp h).resolve_left (Ne.symm hb)) (pos + 1)
      rw [if_neg hb, if_neg hb, hrest, List.length_cons, Nat.add_assoc, Nat.add_comm 1]

theorem strEnd_of_not_mem {data : List UInt8} (h : 0 ∉ data) (pos : Nat) :
    strEnd data pos = .error ⟨pos + data.length⟩ := by
  induction data generalizing pos with
  | nil => rfl
  | cons b rest ih =>
    obtain ⟨hb, hrest⟩ := not_or.mp (mt List.mem_cons.mpr h)
    unfold strEnd
    rw [if_neg (Ne.symm hb), ih hrest, List.length_cons, Nat.add_assoc, Nat.add_comm 1]

/-- the name that starts at `offset` -/
def nameAt (data : List UInt8) (offset : Nat) : List UInt8 := untilNul (data.drop offset)

theorem nameEndAt_ok (data : List UInt8) (offset : Nat) :
    ∃ stop, nameEndAt data offset = .ok stop ∧
      stop.val = offset + (nameAt data offset).length := by
  induction offset using nameEndAt.induct data with
  | case1 offset h ih =>
    have hname : nameAt data offset =
        if data.getD offset 0 = 0 then [] else data.getD offset 0 :: nameAt data (offset + 1) := by
      unfold nameAt
      rw [drop_eq_getD_cons h, untilNul_cons]
    rw [nameEndAt, if_pos h, Transport.byteAt_of_lt data h, hname]
    generalize data.getD offset 0 = b
    show ∃ stop, (if (b != 0) = true then _ else _) = _ ∧ _
    by_cases hb : b = 0
    · rw [if_neg (by simp [hb]), if_pos hb]
      exact ⟨_, rfl, rfl⟩
    · obtain ⟨stop, hstop, hval⟩ := ih
      rw [if_pos (bne_iff_ne.mpr hb), if_neg hb, hstop, List.length_cons]
      refine ⟨_, rfl, ?_⟩
      show stop.val = _
      omega
  | case2 offset h =>
    have hname : nameAt data offset = [] := by
      unfold nameAt
      rw [List.drop_eq_nil_of_le (Nat.le_of_not_lt h)]
      rfl
    rw [nameEndAt, if_neg h, hname]
    exact ⟨_, rfl, rfl⟩

theorem headAt_eq {data : List UInt8} {offset : Nat} (h : offset + 9 < data.length) :
    headAt data offset = .ok (data.getD offset 0 != 0,
      toInt (ofLe32 (data.getD (offset + 1) 0) (data.getD (offset + 2) 0)
        (data.getD (offset + 3) 0) (data.getD (offset + 4) 0))) := by
  unfold headAt
  rw [Transport.byteAt_of_lt data (by omega), Transport.byteAt_of_lt data (by omega),
    Transport.byteAt_of_lt data (by omega), Transport.byteAt_of_lt data (by omega),
    Transport.byteAt_of_lt data (by omega)]
  rfl

/-- the record at `offset`, as it is reported -/
def recordAt (data : List UInt8) (offset : Nat) : ListedRecord where
  start := offset
  stop := offset + 9 + (nameAt data (offset + 9)).length + 1
  entry :=
    { isDir := data.getD offset 0 != 0
      size := toInt (ofLe32 (data.getD (offset + 1) 0) (data.getD (offset + 2) 0)
        (data.getD (offset + 3) 0) (data.getD (offset + 4) 0))
      name := String.ofList (fromUtf8 (nameAt data (offset + 9))) }

/-- **One turn** of the loop over the records. -/
theorem checkedEntries_turn {data : List UInt8} {offset : Nat} (h : offset + 9 < data.length) :
    checkedEntries data offset =
      (checkedEntries data (recordAt data offset).stop).map (recordAt data offset :: ·) := by
  have hname : (data.drop (offset + 9)).take (nameAt data (offset + 9)).length
      = nameAt data (offset + 9) :=
    (List.prefix_iff_eq_take.mp (List.takeWhile_prefix _)).symm
  obtain ⟨stop, hstop, hval⟩ := nameEndAt_ok data (offset + 9)
  have hnext : stop.val + 1 = (recordAt data offset).stop := congrArg (· + 1) hval
  rw [checkedEntries, dif_pos h, headAt_eq h, hstop]
  show (checkedEntries data (stop.val + 1)).bind _ = _
  rw [hnext, hval, Nat.add_sub_cancel_left, hname]
  generalize checkedEntries data (recordAt data offset).stop = result
  cases result with
  | error e => rfl
  | ok rest => rfl

/-- **The loop never leaves the payload**, and reports what `readEntries` does. -/
theorem checkedEntries_ok (data : List UInt8) (offset : Nat) :
    ∃ records, checkedEntries data offset = .ok records ∧
      records.map ListedRecord.entry = readEntries data offset := by
  fun_induction readEntries data offset with
  | case1 offset h name ih =>
    obtain ⟨rest, hrest, hentries⟩ := ih
    refine ⟨recordAt data offset :: rest, ?_, ?_⟩
    · rw [checkedEntries_turn h]
      show (checkedEntries data (offset + 9 + name.length + 1)).map _ = _
      rw [hrest]
      rfl
    · rw [List.map_cons, hentries]
      rfl
  | case2 offset h =>
    rw [checkedEntries, dif_neg h]
    exact ⟨[], rfl, rfl⟩

/-- **With a NUL in it** a payload is read inside only, and its entries are those of
`handleFileListResp`. -/
theorem checkedFileListResp_of_mem {payload : List UInt8} (h : 0 ∈ payload) :
    ∃ path records, checkedFileListResp payload = .ok (some (path, records)) ∧
      checkedEntries payload (((untilNul payload).length : Int) + 1
        + recordShift (untilNul payload)).toNat = .ok records ∧
      handleFileListResp payload = some (path, records.map ListedRecord.entry) := by
  have hne : ¬ payload.length < 1 := Nat.not_lt.mpr (List.length_pos_of_mem h)
  have htake : payload.take (0 + (untilNul payload).length) = untilNul payload := by
    rw [Nat.zero_add]
    exact (List.prefix_iff_eq_take.mp (List.takeWhile_prefix _)).symm
  have hat := recordsAt_eq (untilNul payload)
  obtain ⟨records, hrecords, hentries⟩ := checkedEntries_ok payload
    ((utf8 (String.ofList (fromUtf8 (untilNul payload)))).length + 1)
  refine ⟨String.ofList (fromUtf8 (untilNul payload)), records, ?_, ?_, ?_⟩
  · unfold checkedFileListResp
    rw [if_neg hne, strEnd_of_mem h]
    show (checkedEntries payload
      ((utf8 (String.ofList (fromUtf8 (payload.take _)))).length + 1)).bind _ = _
    rw [htake, hrecords]
    rfl
  · rw [← hat]
    exact hrecords
  · unfold handleFileListResp
    rw [if_neg hne, hentries]
    rfl

/-- **With no NUL** the path is read on to the byte behind the payload, and only that one. -/
theorem checkedFileListResp_of_not_mem {payload : List UInt8} (hne : payload ≠ [])
    (h : 0 ∉ payload) : checkedFileListResp payload = .error ⟨payload.length⟩ := by
  unfold checkedFileListResp
  rw [if_neg (Nat.not_lt.mpr (List.length_pos_iff.mpr hne)), strEnd_of_not_mem h, Nat.zero_add]
  rfl

/-! ## Whole records -/

theorem RawRecord.bytes_eq (e : RawRecord) : e.bytes =
    ([e.is_dir] ++ le32 e.size ++ le16 e.date ++ le16 e.time) ++ (e.name ++ [0]) := by
  unfold RawRecord.bytes
  simp only [List.append_assoc]

/-- **A reported record is whole** exactly when a NUL follows its nine bytes. -/
theorem whole_recordAt_iff {data : List UInt8} {offset : Nat} (h : offset + 9 < data.length) :
    Whole data (recordAt data offset) ↔ 0 ∈ data.drop (offset + 9) := by
  constructor
  · rintro ⟨e, ⟨rest, hrest⟩, -⟩
    have hname : data.drop (offset + 9) = e.name ++ 0 :: rest := by
      rw [← List.drop_drop]
      show (data.drop (recordAt data offset).start).drop 9 = _
      rw [← hrest, e.bytes_eq, List.append_assoc]
      simp [le32, le16]
    rw [hname]
    exact List.mem_append_right _ List.mem_cons_self
  · intro h0
    obtain ⟨rest, hrest⟩ := untilNul_cut h0
    have hnine : data.drop offset = [data.getD offset 0] ++ [data.getD (offset + 1) 0,
        data.getD (offset + 2) 0, data.getD (offset + 3) 0, data.getD (offset + 4) 0] ++
          [data.getD (offset + 5) 0, data.getD (offset + 6) 0] ++
          [data.getD (offset + 7) 0, data.getD (offset + 8) 0] ++ data.drop (offset + 9) := by
      rw [drop_eq_getD_cons (i := offset) (by omega),
        drop_eq_getD_cons (i := offset + 1) (by omega),
        drop_eq_getD_cons (i := offset + 2) (by omega),
        drop_eq_getD_cons (i := offset + 3) (by omega),
        drop_eq_getD_cons (i := offset + 4) (by omega),
        drop_eq_getD_cons (i := offset + 5) (by omega),
        drop_eq_getD_cons (i := offset + 6) (by omega),
        drop_eq_getD_cons (i := offset + 7) (by omega),
        drop_eq_getD_cons (i := offset + 8) (by omega)]
      rfl
    let e : RawRecord :=
      { is_dir := data.getD offset 0
        size := ofLe32 (data.getD (offset + 1) 0) (data.getD (offset + 2) 0)
          (data.getD (offset + 3) 0) (data.getD (offset + 4) 0)
        date := ofLe16 (data.getD (offset + 5) 0) (data.getD (offset + 6) 0)
        time := ofLe16 (data.getD (offset + 7) 0) (data.getD (offset + 8) 0)
        name := nameAt data (offset + 9)
        noNul := zero_notMem_untilNul _ }
    have hbytes : e.bytes ++ rest = data.drop offset := by
      rw [hnine, hrest, e.bytes_eq]
      simp only [e, le32_ofLe32, le16_ofLe16, nameAt, List.append_assoc, List.cons_append,
        List.nil_append]
    refine ⟨e, ⟨rest, hbytes⟩, ?_, rfl⟩
    show offset + 9 + (nameAt data (offset + 9)).length + 1 = offset + e.bytes.length
    rw [e.bytes_eq]
    simp only [e, le32_ofLe32, le16_ofLe16, List.length_append, List.length_cons, List.length_nil]
    omega

/-- **One record further**: its name ends, and so do those behind it. -/
theorem namesEnd_turn {data : List UInt8} {offset : Nat} (h : offset + 9 < data.length) :
    NamesEnd (data.drop offset) ↔ 0 ∈ data.drop (offset + 9) ∧
      NamesEnd (data.drop (recordAt data offset).stop) := by
  have hlen : (data.drop offset).length = data.length - offset := List.length_drop
  constructor
  · intro hn
    generalize hbytes : data.drop offset = bytes at hn
    cases hn with
    | short hshort =>
      rw [← hbytes] at hshort
      omega
    | record hhead hname hrest =>
      rename_i head name rest
      have hdrop : data.drop (offset + 9) = name ++ 0 :: rest := by
        rw [← List.drop_drop, hbytes, List.append_assoc, ← hhead, List.drop_left]
      have hat : nameAt data (offset + 9) = name := by
        unfold nameAt
        rw [hdrop, untilNul_append hname]
      have hstop : data.drop (recordAt data offset).stop = rest := by
        show data.drop (offset + 9 + (nameAt data (offset + 9)).length + 1) = rest
        rw [hat, Nat.add_assoc, ← List.drop_drop, hdrop, ← List.drop_drop, List.drop_left]
        rfl
      rw [hdrop, hstop]
      exact ⟨List.mem_append_right _ List.mem_cons_self, hrest⟩
  · rintro ⟨h0, hnext⟩
    obtain ⟨rest, hrest⟩ := untilNul_cut h0
    have hstop : data.drop (recordAt data offset).stop = rest := by
      show data.drop (offset + 9 + (nameAt data (offset + 9)).length + 1) = rest
      rw [Nat.add_assoc, ← List.drop_drop, hrest, ← List.drop_drop, nameAt, List.drop_left]
      rfl
    have hcut : data.drop offset
        = (data.drop offset).take 9 ++ nameAt data (offset + 9) ++ 0 :: rest := by
      rw [List.append_assoc, nameAt, ← hrest, ← List.drop_drop, List.take_append_drop]
    rw [hcut]
    refine .record ?_ (zero_notMem_untilNul _) (hstop ▸ hnext)
    rw [List.length_take]
    omega

/-- nothing is reported, or first the record at `offset` -/
theorem checkedEntries_cases {data : List UInt8} {offset : Nat} {records : List ListedRecord}
    (h : checkedEntries data offset = .ok records) :
    (data.length ≤ offset + 9 ∧ records = []) ∨
      offset + 9 < data.length ∧ ∃ rest, records = recordAt data offset :: rest ∧
        checkedEntries data (recordAt data offset).stop = .ok rest := by
  by_cases hfits : offset + 9 < data.length
  · rw [checkedEntries_turn hfits] at h
    obtain ⟨rest, hrest, -⟩ := checkedEntries_ok data (recordAt data offset).stop
    rw [hrest] at h
    exact .inr ⟨hfits, rest, (Except.ok.inj h).symm, hrest⟩
  · rw [checkedEntries, dif_neg hfits] at h
    exact .inl ⟨Nat.le_of_not_lt hfits, (Except.ok.inj h).symm⟩

/-- **The records from one position on** are whole exactly when all their names end. -/
theorem wholeFrom_iff {data : List UInt8} {offset : Nat} {records : List ListedRecord}
    (h : checkedEntries data offset = .ok records) :
    WholeFrom data offset records ↔ NamesEnd (data.drop offset) := by
  induction records generalizing offset with
  | nil =>
    obtain ⟨hshort, -⟩ | ⟨-, rest, hcons, -⟩ := checkedEntries_cases h
    · refine iff_of_true (.nil _) (.short ?_)
      rw [List.length_drop]
      omega
    · cases hcons
  | cons r rest ih =>
    obtain ⟨-, hnil⟩ | ⟨hfits, rest', hcons, hrest⟩ := checkedEntries_cases h
    · cases hnil
    obtain ⟨rfl, rfl⟩ := List.cons.inj hcons
    rw [namesEnd_turn hfits, ← whole_recordAt_iff hfits, ← ih hrest]
    constructor
    · rintro (_ | ⟨-, whole, next⟩)
      exact ⟨whole, next⟩
    · rintro ⟨whole, next⟩
      exact .cons rfl whole next

/-- reported records can be whole only from where they were read -/
theorem wholeFrom_start {data : List UInt8} {offset start : Nat} {records : List ListedRecord}
    (h : checkedEntries data offset = .ok records) (hw : WholeFrom data start records) :
    WholeFrom data offset records ∧ (offset + 9 < data.length → start = offset) := by
  obtain ⟨hshort, rfl⟩ | ⟨-, rest, rfl, -⟩ := checkedEntries_cases h
  · exact ⟨.nil _, fun hfits => absurd hfits (Nat.not_lt.mpr hshort)⟩
  · cases hw with
    | cons begins whole next => exact ⟨.cons rfl whole next, fun _ => begins.symm⟩

/-- **Only whole records** are reported, and only the payload is read, exactly when it is empty or
holds a NUL, no name is cut off, and no byte order mark moves the first record. -/
theorem onlyWhole_iff (payload : List UInt8) : OnlyWhole payload ↔
    payload = [] ∨ (0 ∈ payload ∧ NamesEnd (recordBytes payload) ∧
      (ValidUtf8 (untilNul payload) → utf8bom.isPrefixOf (untilNul payload) = true →
        payload.length ≤ (untilNul payload).length + 7)) := by
  by_cases hempty : payload = []
  · subst hempty
    refine iff_of_true ⟨⟨none, rfl⟩, fun path records h => ?_⟩ (.inl rfl)
    cases h
  by_cases h0 : 0 ∈ payload
  swap
  · refine iff_of_false (fun h => ?_) (fun h => h.elim hempty fun h => h0 h.1)
    obtain ⟨reported, hreported⟩ := h.inside
    rw [checkedFileListResp_of_not_mem hempty h0] at hreported
    cases hreported
  obtain ⟨path, records, hreport, hrecords, -⟩ := checkedFileListResp_of_mem h0
  have hwhole := wholeFrom_iff hrecords
  have hshift (hvalid : ValidUtf8 (untilNul payload)) : recordShift (untilNul payload) =
      -(if utf8bom.isPrefixOf (untilNul payload) then 3 else 0) := by
    unfold recordShift
    rw [hvalid]
    exact Int.zero_sub _
  generalize hoffset : (((untilNul payload).length : Int) + 1
    + recordShift (untilNul payload)).toNat = offset at hrecords hwhole
  have hbytes : recordBytes payload = payload.drop offset := by
    unfold recordBytes
    rw [← hoffset]
  have hlong (hmark : utf8bom.isPrefixOf (untilNul payload) = true) :
      3 ≤ (untilNul payload).length := (List.isPrefixOf_iff_prefix.mp hmark).length_le
  rw [or_iff_right hempty, hbytes, ← hwhole]
  constructor
  · intro h
    obtain ⟨⟨start, hstart⟩, hvalidWhole⟩ := h.whole path records hreport
    refine ⟨h0, (wholeFrom_start hrecords hstart).1, fun hvalid hmark => ?_⟩
    have hs := (wholeFrom_start hrecords (hvalidWhole hvalid)).2
    have hlen := hlong hmark
    rw [hshift hvalid, if_pos hmark] at hoffset
    by_contra hroom
    have hsame := hs (by omega)
    omega
  · rintro ⟨-, hw, hmark⟩
    refine ⟨⟨_, hreport⟩, fun path' records' h' => ?_⟩
    rw [hreport, Except.ok.injEq, Option.some.injEq, Prod.mk.injEq] at h'
    obtain ⟨-, rfl⟩ := h'
    refine ⟨⟨offset, hw⟩, fun hvalid => ?_⟩
    rw [hshift hvalid] at hoffset
    by_cases hm : utf8bom.isPrefixOf (untilNul payload) = true
    · have hlen := hlong hm
      have hroom := hmark hvalid hm
      rw [if_pos hm] at hoffset
      obtain ⟨-, rfl⟩ | ⟨hfits, -⟩ := checkedEntries_cases hrecords
      · exact .nil _
      · omega
    · rw [if_neg hm] at hoffset
      have hsame : offset = (untilNul payload).length + 1 := by omega
      exact hsame ▸ hw

/-- the name of the only record is cut off: it is reported all the same -/
theorem onlyWhole_cut :
    let payload : List UInt8 := [0x2F, 0, 0, 7, 0, 0, 0, 0, 0, 0, 0, 0x61]
    handleFileListResp payload = some ("/", [⟨false, 7, "a"⟩]) ∧ ¬ OnlyWhole payload := by
  refine ⟨by decide +kernel, fun h => ?_⟩
  obtain ⟨path, records, hreport, hrecords, -⟩ :=
    checkedFileListResp_of_mem
      (show 0 ∈ ([0x2F, 0, 0, 7, 0, 0, 0, 0, 0, 0, 0, 0x61] : List UInt8) by decide)
  obtain ⟨⟨start, hstart⟩, -⟩ := h.whole path records hreport
  have hends := (wholeFrom_iff hrecords).mp (wholeFrom_start hrecords hstart).1
  exact absurd ((@namesEnd_turn _ 2 (by decide)).mp hends).1 (by decide)

end QMon.Device
