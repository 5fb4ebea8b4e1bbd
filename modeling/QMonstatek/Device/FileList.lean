import QMonstatek.Device.Bytes
import QMonstatek.Protocol.Frame
import QMonstatek.Updater.Text

/-!
# Directory listings

`handleFileListResp` reads a path, then one record after another: nine bytes and a name, each text
up to its NUL.  `listing` is what a device sends.  A payload has at most 8192 bytes, so the offsets
stay far below the largest `int`.

The texts go through `QString::fromUtf8`, which skips a byte order mark.  A text that begins with
U+FEFF loses it, and where it is the path, the records are looked for three bytes too early:
`fileList_roundTrip_iff`.
-/

namespace QMon.Rpc
open Device (le32 utf8)

/-- a record of a listing -/
structure FileEntry where
  is_dir : UInt8
  size : UInt32
  date : UInt16
  time : UInt16
  name : String
  deriving DecidableEq

def FileEntry.bytes (e : FileEntry) : List UInt8 :=
  [e.is_dir] ++ le32 e.size ++ le16 e.date ++ le16 e.time ++ utf8 e.name ++ [0]

def listing (path : String) (entries : List FileEntry) : List UInt8 :=
  utf8 path ++ [0] ++ entries.flatMap FileEntry.bytes

end QMon.Rpc

namespace QMon.Device
open Rpc
open Updater (fromUtf8)

/-- the `QJsonObject` of an entry -/
structure ListedEntry where
  isDir : Bool
  size : Int
  name : String
  deriving DecidableEq

/-- the loop over the records, from `offset` on -/
def readEntries (data : List UInt8) (offset : Nat) : List ListedEntry :=
  if offset + 9 < data.length then
    let name := (data.drop (offset + 9)).takeWhile (fun b => b != 0)
    { isDir := data.getD offset 0 != 0
      size := toInt (ofLe32 (data.getD (offset + 1) 0) (data.getD (offset + 2) 0)
        (data.getD (offset + 3) 0) (data.getD (offset + 4) 0))
      name := String.ofList (fromUtf8 name) } :: readEntries data (offset + 9 + name.length + 1)
  else []
termination_by data.length - offset

/-- what is emitted with `fileListReceived`; no signal for an empty payload -/
def handleFileListResp (payload : List UInt8) : Option (String × List ListedEntry) :=
  if payload.length < 1 then none
  else
    let path := String.ofList (fromUtf8 (payload.takeWhile (fun b => b != 0)))
    -- the end of the path is computed from the text, not from the payload
    let offset := (utf8 path).length + 1
    some (path, readEntries payload offset)

/-- an entry as it should be listed -/
def ListedEntry.ofEntry (e : FileEntry) : ListedEntry := ⟨e.is_dir != 0, toInt e.size, e.name⟩

/-- the text does not begin with what is taken for a byte order mark -/
def NoBom (s : String) : Prop := s.toList.head? ≠ some '\uFEFF'

instance (s : String) : Decidable (NoBom s) := inferInstanceAs (Decidable (_ ≠ _))

/-! ## Texts -/

theorem fromUtf8_utf8_iff (s : String) : String.ofList (fromUtf8 (utf8 s)) = s ↔ NoBom s := by
  unfold NoBom
  rw [utf8_eq, Updater.fromUtf8_utf8EncodeChar]
  by_cases h : s.toList.head? = some '\uFEFF'
  · rw [if_pos h]
    refine iff_of_false (fun he => ?_) (fun hn => hn h)
    have hlen := congrArg (fun s => s.toList.length) he
    obtain ⟨text, htext⟩ := List.head?_eq_some_iff.mp h
    rw [htext] at hlen
    simp at hlen
  · rw [if_neg h, String.ofList_toList]
    exact iff_of_true rfl h

/-- up to the NUL behind it, a text without NUL is read whole -/
theorem takeWhile_utf8 {s : String} (hs : '\x00' ∉ s.toList) (rest : List UInt8) :
    (utf8 s ++ 0 :: rest).takeWhile (fun b => b != 0) = utf8 s := by
  refine untilNul_append (fun h => ?_) rest
  rw [utf8_eq] at h
  obtain ⟨c, hc, hbc⟩ := List.mem_flatMap.mp h
  exact Updater.utf8EncodeChar_ne_zero (fun e : c = '\x00' => hs (e ▸ hc)) hbc

/-! ## Records -/

/-- an entry as it is listed -/
def ListedEntry.received (e : FileEntry) : ListedEntry :=
  ⟨e.is_dir != 0, toInt e.size, String.ofList (fromUtf8 (utf8 e.name))⟩

theorem received_eq_iff (e : FileEntry) :
    ListedEntry.received e = .ofEntry e ↔ NoBom e.name := by
  unfold ListedEntry.received ListedEntry.ofEntry
  rw [ListedEntry.mk.injEq, fromUtf8_utf8_iff]
  simp only [true_and]

theorem bytes_length (e : FileEntry) :
    e.bytes.length = 9 + (utf8 e.name).length + 1 := by
  simp only [FileEntry.bytes, le32, le16, List.length_append, List.length_cons, List.length_nil]

/-- **One record** is read at its offset, and the next one behind it. -/
theorem readEntries_record (before rest : List UInt8) (e : FileEntry)
    (hn : '\x00' ∉ e.name.toList) :
    readEntries (before ++ (e.bytes ++ rest)) before.length
      = ListedEntry.received e :: readEntries (before ++ (e.bytes ++ rest))
          (before ++ e.bytes).length := by
  have hat (i : Nat) :
      (before ++ (e.bytes ++ rest)).getD (before.length + i) 0 = (e.bytes ++ rest).getD i 0 := by
    simp [List.getD_eq_getElem?_getD, List.getElem?_append_right]
  have hname : (before ++ (e.bytes ++ rest)).drop (before.length + 9)
      = utf8 e.name ++ 0 :: rest := by
    rw [List.drop_append]
    simp [FileEntry.bytes, le32, le16]
  have hfits : before.length + 9 < (before ++ (e.bytes ++ rest)).length := by
    rw [List.length_append, List.length_append, bytes_length]
    omega
  have hsize : ofLe32 ((e.bytes ++ rest).getD 1 0) ((e.bytes ++ rest).getD 2 0)
      ((e.bytes ++ rest).getD 3 0) ((e.bytes ++ rest).getD 4 0) = e.size := ofLe32_le32 e.size
  have h0 := hat 0
  rw [Nat.add_zero] at h0
  have hdir : (e.bytes ++ rest).getD 0 0 = e.is_dir := rfl
  have hnext : before.length + 9 + (utf8 e.name).length + 1 = (before ++ e.bytes).length := by
    rw [List.length_append, bytes_length]
    omega
  rw [readEntries, if_pos hfits]
  simp only [hname, takeWhile_utf8 hn, hat, h0, hsize, hdir, hnext]
  rfl

/-- **All records** are read, and nothing else. -/
theorem readEntries_all (before : List UInt8) (entries : List FileEntry)
    (hn : ∀ e ∈ entries, '\x00' ∉ e.name.toList) :
    readEntries (before ++ entries.flatMap FileEntry.bytes) before.length
      = entries.map ListedEntry.received := by
  induction entries generalizing before with
  | nil =>
    rw [readEntries, if_neg (by simp)]
    rfl
  | cons e entries ih =>
    obtain ⟨he, hrest⟩ := List.forall_mem_cons.mp hn
    rw [List.flatMap_cons, readEntries_record before _ e he, ← List.append_assoc, ih _ hrest,
      List.map_cons]

theorem received_all_iff (entries : List FileEntry) :
    entries.map ListedEntry.received = entries.map ListedEntry.ofEntry ↔
      ∀ e ∈ entries, NoBom e.name := by
  rw [List.map_inj_left]
  exact forall₂_congr fun e _ => received_eq_iff e

/-- up to its NUL a listing is the path -/
theorem takeWhile_listing {path : String} (entries : List FileEntry)
    (hp : '\x00' ∉ path.toList) :
    (listing path entries).takeWhile (fun b => b != 0) = utf8 path := by
  unfold listing
  rw [List.append_assoc]
  exact takeWhile_utf8 hp _

/-- the records are read from behind the path -/
theorem readEntries_listing (path : String) (entries : List FileEntry)
    (hn : ∀ e ∈ entries, '\x00' ∉ e.name.toList) :
    readEntries (listing path entries) ((utf8 path).length + 1)
      = entries.map ListedEntry.received := by
  have hall := readEntries_all (utf8 path ++ [0]) entries hn
  rw [List.length_append, List.length_singleton] at hall
  exact hall

/-- **Round trip of a listing**: it comes back exactly when neither the path nor a name begins with
U+FEFF. -/
theorem fileList_roundTrip_iff (path : String) (entries : List FileEntry)
    (hp : '\x00' ∉ path.toList) (hn : ∀ e ∈ entries, '\x00' ∉ e.name.toList) :
    handleFileListResp (listing path entries) = some (path, entries.map ListedEntry.ofEntry) ↔
      NoBom path ∧ ∀ e ∈ entries, NoBom e.name := by
  have hne : ¬ (listing path entries).length < 1 := by
    unfold listing
    rw [List.length_append, List.length_append, List.length_singleton]
    omega
  unfold handleFileListResp
  rw [if_neg hne, takeWhile_listing entries hp, Option.some.injEq, Prod.mk.injEq,
    fromUtf8_utf8_iff]
  -- a path that is kept ends where it was written to end
  refine and_congr_right fun hmark => ?_
  rw [(fromUtf8_utf8_iff path).mpr hmark, readEntries_listing path entries hn,
    received_all_iff]

/-- a file, and a folder with no name and every bit of the size set -/
theorem fileList_roundTrip_two :
    let entries : List FileEntry := [⟨0, 7, 0x5921, 0x6000, "ab"⟩, ⟨1, 0xFFFFFFFF, 0, 0, ""⟩]
    handleFileListResp (listing "0:/IR/" entries)
      = some ("0:/IR/", [⟨false, 7, "ab"⟩, ⟨true, -1, ""⟩]) :=
  (fileList_roundTrip_iff "0:/IR/" [⟨0, 7, 0x5921, 0x6000, "ab"⟩, ⟨1, 0xFFFFFFFF, 0, 0, ""⟩]
    (by decide) (by decide)).mpr (by decide)

/-- U+FEFF in front of a name is lost, in front of the path it also spoils the records -/
theorem fileList_marked :
    (handleFileListResp (listing "0:/IR/" [⟨0, 7, 0, 0, "\uFEFFab"⟩])
        = some ("0:/IR/", [⟨false, 7, "ab"⟩]) ∧ "ab" ≠ "\uFEFFab") ∧
      handleFileListResp (listing "\uFEFFIR/" [⟨0, 7, 0, 0, "ab"⟩])
        = some ("IR/", [⟨true, 117440559, ""⟩]) := by
  decide +kernel

end QMon.Device
