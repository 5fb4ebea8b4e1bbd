import QMonstatek.Transport.MdnsPacket

/-!
# DNS messages

What a response says, by the format and not by the parser: names as labels with compression
pointers, records with the data of SRV and A, and the whole message.

The parser comes to the same places: `nameEnd_of_nameAt`, `questionsEnd_of_questionsAt`.
`nameAt_wire`: a name written out is stored.
-/

namespace QMon.Transport
open Rpc Device

abbrev Label := List UInt8

/-- the position a compression pointer names -/
def pointerTarget (hi lo : UInt8) : Nat := (hi &&& 0x3F).toNat <<< 8 ||| lo.toNat

/-- the labels of the name stored at an offset, with the number of pointers on the way, and the
offset behind it: behind the root byte, or behind the first pointer -/
inductive NameAt (data : List UInt8) : Nat → Nat → List Label → Nat → Prop
  | root {offset : Nat} (h : data[offset]? = some 0) : NameAt data 0 offset [] (offset + 1)
  | label {offset hops next : Nat} {len : UInt8} {labels : List Label}
      (h : data[offset]? = some len) (hlen : 1 ≤ len.toNat ∧ len.toNat ≤ 63)
      (hin : offset + 1 + len.toNat ≤ data.length)
      (rest : NameAt data hops (offset + 1 + len.toNat) labels next) :
      NameAt data hops offset ((data.drop (offset + 1)).take len.toNat :: labels) next
  | pointer {offset hops next : Nat} {hi lo : UInt8} {labels : List Label}
      (h : data[offset]? = some hi) (hp : isPointer hi = true) (hlo : data[offset + 1]? = some lo)
      (rest : NameAt data hops (pointerTarget hi lo) labels next) :
      NameAt data (hops + 1) offset labels (offset + 2)

/-- upper and lower case letters of a label are alike -/
def lowerCase (b : UInt8) : UInt8 := if 0x41 ≤ b ∧ b ≤ 0x5A then b + 0x20 else b

def sameName (a b : List Label) : Bool := a.map (·.map lowerCase) == b.map (·.map lowerCase)

/-- the 32-bit value at `i` -/
def be32 (data : List UInt8) (i : Nat) : UInt32 :=
  ofLe32 (data.getD (i + 3) 0) (data.getD (i + 2) 0) (data.getD (i + 1) 0) (data.getD i 0)

/-- the data of a record -/
inductive RData
  | srv (port : UInt16) (target : List Label)
  | a (ip : UInt32)
  | other
  deriving DecidableEq

structure ResourceRecord where
  owner : List Label
  rdata : RData
  deriving DecidableEq

/-- what the data of a record of one type say -/
inductive RDataAt (data : List UInt8) (rdStart : Nat) (rdLen : UInt16) : UInt16 → RData → Prop
  | srv {hops : Nat} {target : List Label}
      (name : NameAt data hops (rdStart + 6) target (rdStart + rdLen.toNat)) :
      RDataAt data rdStart rdLen 33 (.srv (be16 data (rdStart + 4)) target)
  | a (hlen : rdLen = 4) : RDataAt data rdStart rdLen 1 (.a (be32 data rdStart))
  | other {rrType : UInt16} (h1 : rrType ≠ 1) (h33 : rrType ≠ 33) :
      RDataAt data rdStart rdLen rrType .other

/-- records one behind the other: name, type, class, time to live, length, data -/
inductive RecordsAt (data : List UInt8) : Nat → List ResourceRecord → Prop
  | nil {offset : Nat} : RecordsAt data offset []
  | cons {offset hops next : Nat} {owner : List Label} {rdata : RData}
      {rest : List ResourceRecord} (name : NameAt data hops offset owner next)
      (inside : next + 10 + (be16 data (next + 8)).toNat ≤ data.length)
      (meaning : RDataAt data (next + 10) (be16 data (next + 8)) (be16 data next) rdata)
      (behind : RecordsAt data (next + 10 + (be16 data (next + 8)).toNat) rest) :
      RecordsAt data offset (⟨owner, rdata⟩ :: rest)

/-- questions one behind the other, `n` of them: name, type, class -/
inductive QuestionsAt (data : List UInt8) : Nat → Nat → Nat → Prop
  | zero {offset : Nat} : QuestionsAt data 0 offset offset
  | succ {n offset hops next start : Nat} {name : List Label}
      (asked : NameAt data hops offset name next) (inside : next + 4 ≤ data.length)
      (behind : QuestionsAt data n (next + 4) start) :
      QuestionsAt data (n + 1) offset start

/-- a response with these records in its three sections -/
structure WellFormed (data : List UInt8) (records : List ResourceRecord) : Prop where
  header : 12 ≤ data.length
  response : be16 data 2 &&& 0x8000 ≠ 0
  sections : ∃ start, QuestionsAt data (be16 data 4).toNat 12 start ∧
    RecordsAt data start records ∧
    records.length = (be16 data 6).toNat + (be16 data 8).toNat + (be16 data 10).toNat

/-! ## The parser's offsets -/

theorem not_isPointer_of_le {len : UInt8} (h : len.toNat ≤ 63) : ¬ isPointer len = true := by
  have hall : ∀ k : Fin 64, ¬ isPointer (UInt8.ofNat k.val) = true := by decide
  have hk := hall ⟨len.toNat, Nat.lt_succ_of_le h⟩
  rwa [UInt8.ofNat_toNat] at hk

theorem ne_zero_of_pos {len : UInt8} (h : 1 ≤ len.toNat) : len ≠ 0 := by
  rintro rfl
  exact absurd h (by decide)

theorem ne_zero_of_isPointer {hi : UInt8} (h : isPointer hi = true) : hi ≠ 0 := by
  rintro rfl
  exact absurd h (by decide)

variable {data : List UInt8}

theorem lt_of_getElem? {i : Nat} {b : UInt8} (h : data[i]? = some b) : i < data.length :=
  (List.getElem?_eq_some_iff.mp h).1

theorem getD_of_getElem? {i : Nat} {b : UInt8} (h : data[i]? = some b) : data.getD i 0 = b := by
  rw [List.getD_eq_getElem?_getD, h]
  rfl

theorem NameAt.lt {hops offset next : Nat} {labels : List Label}
    (h : NameAt data hops offset labels next) : offset < data.length := by
  cases h with
  | root h => exact lt_of_getElem? h
  | label h => exact lt_of_getElem? h
  | pointer h => exact lt_of_getElem? h

theorem NameAt.lt_next {hops offset next : Nat} {labels : List Label}
    (h : NameAt data hops offset labels next) : offset < next := by
  induction h with
  | root h => exact Nat.lt_succ_self _
  | label h hlen hin rest ih => omega
  | pointer h hp hlo rest ih => omega

/-- **The parser** goes on where the name ends. -/
theorem nameEnd_of_nameAt {hops offset next : Nat} {labels : List Label}
    (h : NameAt data hops offset labels next) : nameEnd data offset = next := by
  induction h with
  | root h =>
    rw [nameEnd, dif_pos (lt_of_getElem? h), getD_of_getElem? h]
    exact if_pos rfl
  | label h hlen hin rest ih =>
    rename_i offset hops next len labels
    rw [nameEnd, dif_pos (lt_of_getElem? h), getD_of_getElem? h]
    dsimp only
    rw [if_neg (ne_zero_of_pos hlen.1), if_neg (not_isPointer_of_le hlen.2),
      if_neg (Nat.not_lt.mpr hin), ih]
  | pointer h hp hlo rest ih =>
    rename_i offset hops next hi lo labels
    have hlast : ¬ offset + 1 ≥ data.length := Nat.not_le_of_lt (lt_of_getElem? hlo)
    rw [nameEnd, dif_pos (lt_of_getElem? h), getD_of_getElem? h]
    dsimp only
    rw [if_neg (ne_zero_of_isPointer hp), if_pos hp, if_neg hlast]

theorem questionsEnd_of_questionsAt {n offset start : Nat} (h : QuestionsAt data n offset start) :
    questionsEnd data n offset = start := by
  induction h with
  | zero => rfl
  | succ asked inside behind ih =>
    unfold questionsEnd
    rw [if_pos asked.lt, nameEnd_of_nameAt asked, ih]

/-! ## Names written out -/

/-- labels written out, each behind its length -/
def wire (labels : List Label) : List UInt8 :=
  labels.flatMap fun label => UInt8.ofNat label.length :: label

theorem wire_cons (label : Label) (labels : List Label) :
    wire (label :: labels) = (UInt8.ofNat label.length :: label) ++ wire labels := rfl

theorem getElem?_of_drop {offset : Nat} {b : UInt8} {rest : List UInt8}
    (h : data.drop offset = b :: rest) : data[offset]? = some b := by
  have hat : (data.drop offset)[0]? = some b := by
    rw [h]
    rfl
  rwa [List.getElem?_drop] at hat

/-- **A name written out** is stored where its bytes stand, with no pointer on the way. -/
theorem nameAt_wire (labels : List Label)
    (h : ∀ label ∈ labels, 1 ≤ label.length ∧ label.length ≤ 63) (offset : Nat)
    {back : List UInt8} (hwire : data.drop offset = wire labels ++ 0 :: back) :
    NameAt data 0 offset labels (offset + (wire labels).length + 1) := by
  induction labels generalizing offset with
  | nil => exact NameAt.root (getElem?_of_drop hwire)
  | cons label labels ih =>
    obtain ⟨hlen, hrest⟩ := List.forall_mem_cons.mp h
    have hnat : (UInt8.ofNat label.length).toNat = label.length := by
      rw [UInt8.toNat_ofNat']
      exact Nat.mod_eq_of_lt (by omega)
    rw [wire_cons] at hwire
    have hlabel : data.drop (offset + 1) = label ++ (wire labels ++ 0 :: back) := by
      rw [← List.drop_drop, hwire, List.append_assoc]
      rfl
    have hbehind : data.drop (offset + 1 + label.length) = wire labels ++ 0 :: back := by
      rw [← List.drop_drop, hlabel, List.drop_left]
    have hin : offset + 1 + label.length ≤ data.length := by
      have hle := (ih hrest _ hbehind).lt
      omega
    have hname := NameAt.label (getElem?_of_drop hwire) (hnat.symm ▸ hlen) (hnat.symm ▸ hin)
      (hnat.symm ▸ ih hrest _ hbehind)
    rw [hnat, hlabel, List.take_left] at hname
    have hnext : offset + (wire (label :: labels)).length + 1 =
        offset + 1 + label.length + (wire labels).length + 1 := by
      rw [wire_cons, List.length_append, List.length_cons]
      omega
    rw [hnext]
    exact hname

end QMon.Transport
