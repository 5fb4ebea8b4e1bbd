import Mathlib.Algebra.Ring.Nat
import Mathlib.Data.List.Basic
import Mathlib.Data.List.Infix
import Mathlib.Tactic.Common
import QMonstatek.Lib.Digits

/-!
# Texts of the programmers

`fromUtf8`        `QString::fromUtf8` of a byte array on its own: a byte order mark in front is
                  skipped, a byte that starts no character becomes U+FFFD;
`parts`           `split('\n', Qt::SkipEmptyParts)`;
`trimmed`         `QString::trimmed`;
`toInt`           `QString::toInt`, 0 where it fails;
`percent`, `serialNumber`   what the two regular expressions of the flasher capture.

A text is the list of its characters.  `trimmedLines_cut`: a cut at a line feed, with no byte order
mark behind it, leaves the lines as they are.  `fromUtf8_utf8EncodeChar`: a text comes back from its
bytes, but for a U+FEFF in front, which is the byte order mark.  `length_fromUtf8`: read and written
again, bytes grow by two for each that starts no character.
-/

namespace QMon.Updater
open String (utf8EncodeChar)

/-! ## Characters from bytes -/

def isContinuation (b : UInt8) : Bool := b &&& 0xC0 == 0x80

/-- what a lead byte says: how many bytes follow, its own bits, and the least character that may
be written so -/
def lead (b : UInt8) : Option (Nat × Nat × Nat) :=
  if b < 0x80 then some (0, b.toNat, 0)
  else if b &&& 0xE0 == 0xC0 then some (1, (b &&& 0x1F).toNat, 0x80)
  else if b &&& 0xF0 == 0xE0 then some (2, (b &&& 0x0F).toNat, 0x800)
  else if b &&& 0xF8 == 0xF0 then some (3, (b &&& 0x07).toNat, 0x10000)
  else none

/-- the character that starts with `b`, and how many of the bytes after it belong to it -/
def decodeOne (b : UInt8) (rest : List UInt8) : Option (Char × Nat) :=
  match lead b with
  | none => none
  | some (needed, bits, least) =>
    let tail := rest.take needed
    let uc := tail.foldl (fun u t => u * 64 + (t &&& 0x3F).toNat) bits
    if tail.length = needed ∧ tail.all isContinuation ∧ least ≤ uc ∧ uc.isValidChar then
      some (Char.ofNat uc, needed)
    else none

/-- `skip` bytes still belong to the character before -/
def decode : Nat → List UInt8 → List Char
  | _, [] => []
  | skip + 1, _ :: rest => decode skip rest
  | 0, b :: rest =>
    match decodeOne b rest with
    | some (c, n) => c :: decode n rest
    | none => '\uFFFD' :: decode 0 rest

def utf8bom : List UInt8 := [0xEF, 0xBB, 0xBF]

def fromUtf8 (bytes : List UInt8) : List Char :=
  decode 0 (if utf8bom.isPrefixOf bytes then bytes.drop 3 else bytes)

/-! ## Lines and words -/

/-- `QChar::isSpace` -/
def isSpace (c : Char) : Bool :=
  let n := c.toNat
  n == 0x20 || (0x09 ≤ n && n ≤ 0x0D) || n == 0x85 || n == 0xA0 || n == 0x1680
    || (0x2000 ≤ n && n ≤ 0x200A) || n == 0x2028 || n == 0x2029 || n == 0x202F || n == 0x205F
    || n == 0x3000

/-- `QString::trimmed` -/
def trimmed (text : List Char) : List Char :=
  ((text.dropWhile isSpace).reverse.dropWhile isSpace).reverse

/-- `split(sep, Qt::SkipEmptyParts)` at the line feeds -/
def parts (text : List Char) : List (List Char) :=
  (text.splitOn '\n').filter fun part => !part.isEmpty

def startsWith (text : List Char) (prefixText : String) : Bool :=
  prefixText.toList.isPrefixOf text

def contains (text : List Char) (needle : String) : Bool :=
  decide (needle.toList <:+: text)

/-- the lines the flasher looks at in one piece of output -/
def trimmedLines (bytes : List UInt8) : List (List Char) := (parts (fromUtf8 bytes)).map trimmed

/-- the value of a row of decimal digits -/
def decimal (digits : List Char) : Nat := digits.foldl (fun n c => 10 * n + (c.toNat - 48)) 0

/-- `QString::toInt` -/
def toInt (text : List Char) : Int :=
  let text := trimmed text
  let digits := if text.head? = some '-' ∨ text.head? = some '+' then text.tail else text
  let value : Int := if text.head? = some '-' then -decimal digits else decimal digits
  if digits ≠ [] ∧ digits.all Char.isDigit ∧ -2147483648 ≤ value ∧ value ≤ 2147483647 then value
  else 0

/-- `(\d+)%`: the first row of digits that ends at a percent sign -/
def percent : List Char → Option (List Char)
  | [] => none
  | c :: rest =>
    if c.isDigit ∧ (rest.dropWhile Char.isDigit).head? = some '%' then
      some (c :: rest.takeWhile Char.isDigit)
    else percent rest

/-- `\s` -/
def isBlank (c : Char) : Bool := c == ' ' || (0x09 ≤ c.toNat && c.toNat ≤ 0x0D)

/-- the letters `CaseInsensitiveOption` takes for one another -/
def foldCase (c : Char) : Char := if c = 'ſ' then 's' else c.toLower

/-- the end of a match of `Serial number\s*:\s*(\S+)` after its first words -/
def serialAfter (text : List Char) : Option (List Char) :=
  match text.dropWhile isBlank with
  | ':' :: rest =>
    let serial := (rest.dropWhile isBlank).takeWhile fun c => !isBlank c
    if serial = [] then none else some serial
  | _ => none

/-- `Serial number\s*:\s*(\S+)`, upper and lower case alike: the first match -/
def serialNumber : List Char → Option (List Char)
  | [] => none
  | c :: rest =>
    let name := "serial number".toList
    if (name.isPrefixOf ((c :: rest).map foldCase)) ∧
        serialAfter ((c :: rest).drop name.length) ≠ none then
      serialAfter ((c :: rest).drop name.length)
    else serialNumber rest

example : percent "Download in Progress: 7 of 100%".toList = some "100".toList := by decide

example : serialNumber "Product ID : DFU, SERIAL Number : 20A6".toList = some "20A6".toList := by
  decide

/-! ## Space and digits -/

theorem isSpace_of_isDigit {c : Char} (h : c.isDigit = true) : isSpace c = false := by
  simp only [Char.isDigit, Bool.and_eq_true, decide_eq_true_eq, UInt32.le_iff_toNat_le] at h
  have hlow : 48 ≤ c.toNat := h.1
  have hhigh : c.toNat ≤ 57 := h.2
  unfold isSpace
  simp only [Bool.or_eq_false_iff, Bool.and_eq_false_iff, beq_eq_false_iff_ne, ne_eq,
    decide_eq_false_iff_not]
  omega

theorem trimmed_digits {text : List Char} (h : ∀ c ∈ text, c.isDigit = true) :
    trimmed text = text := by
  unfold trimmed
  exact Digits.trim_eq (fun _ => isSpace_of_isDigit) h

/-! ## Cuts at a line feed -/

theorem decodeOne_le {b : UInt8} {rest : List UInt8} {c : Char} {n : Nat}
    (h : decodeOne b rest = some (c, n)) : n ≤ rest.length := by
  unfold decodeOne at h
  split at h
  · cases h
  · rename_i needed bits least hlead
    dsimp only at h
    split at h
    · rename_i hall
      obtain ⟨-, rfl⟩ := Prod.mk.inj (Option.some.inj h)
      have hlen := hall.1
      rw [List.length_take] at hlen
      omega
    · cases h

/-- a line feed continues no character -/
theorem decodeOne_cut (b : UInt8) (rest more : List UInt8) :
    decodeOne b (rest ++ 10 :: more) = decodeOne b rest := by
  unfold decodeOne
  split
  · rfl
  · rename_i needed bits least hlead
    dsimp only
    by_cases h : needed ≤ rest.length
    · rw [List.take_append_of_le_length h]
    · have hlong : ¬ ((rest ++ 10 :: more).take needed).all isContinuation = true := by
        have hmem : (10 : UInt8) ∈ (rest ++ 10 :: more).take needed := by
          rw [List.take_append]
          obtain ⟨k, hk⟩ : ∃ k, needed - rest.length = k + 1 := ⟨needed - rest.length - 1, by omega⟩
          rw [hk]
          exact List.mem_append_right _ List.mem_cons_self
        intro hall
        exact absurd (List.all_eq_true.mp hall 10 hmem) (by decide)
      have hshort : ¬ (rest.take needed).length = needed := by
        rw [List.length_take]
        omega
      rw [if_neg fun hc => hlong hc.2.1, if_neg fun hc => hshort hc.1]

theorem decode_cut (rest more : List UInt8) (skip : Nat) (h : skip ≤ rest.length) :
    decode skip (rest ++ 10 :: more) = decode skip rest ++ '\n' :: decode 0 more := by
  induction rest generalizing skip with
  | nil =>
    obtain rfl : skip = 0 := Nat.le_zero.mp h
    rfl
  | cons b rest ih =>
    cases skip with
    | succ skip => exact ih skip (Nat.le_of_succ_le_succ h)
    | zero =>
      simp only [List.cons_append, decode, decodeOne_cut]
      split
      · rename_i c n hone
        rw [ih n (decodeOne_le hone)]
        rfl
      · rw [ih 0 (Nat.zero_le _)]
        rfl

theorem bom_cut (rest more : List UInt8) :
    utf8bom.isPrefixOf (rest ++ 10 :: more) = utf8bom.isPrefixOf rest := by
  match rest with
  | [] => rfl
  | [a] => simp [utf8bom, List.isPrefixOf]
  | [a, b] => simp [utf8bom, List.isPrefixOf]
  | a :: b :: c :: rest => simp [utf8bom, List.isPrefixOf]

theorem fromUtf8_cut (rest more : List UInt8) (h : utf8bom.isPrefixOf more = false) :
    fromUtf8 (rest ++ 10 :: more) = fromUtf8 rest ++ '\n' :: fromUtf8 more := by
  have hmore : fromUtf8 more = decode 0 more := by
    unfold fromUtf8
    rw [h]
    rfl
  rw [hmore]
  unfold fromUtf8
  rw [bom_cut]
  split
  · rename_i hbom
    have hlen : 3 ≤ rest.length := (List.isPrefixOf_iff_prefix.mp hbom).length_le
    rw [List.drop_append_of_le_length hlen, decode_cut _ _ 0 (Nat.zero_le _)]
  · exact decode_cut _ _ 0 (Nat.zero_le _)

theorem trimmedLines_cut (rest more : List UInt8) (h : utf8bom.isPrefixOf more = false) :
    trimmedLines (rest ++ 10 :: more) = trimmedLines rest ++ trimmedLines more := by
  unfold trimmedLines parts
  rw [fromUtf8_cut rest more h, List.splitOn_append_cons_self, List.filter_append, List.map_append]

/-! ## Texts read back -/

theorem lead_one {v : Nat} (h : v < 128) : lead (UInt8.ofNat v) = some (0, v, 0) := by
  have hall : ∀ k : Fin 128, lead (UInt8.ofNat k.val) = some (0, k.val, 0) := by decide
  exact hall ⟨v, h⟩

theorem lead_two {v : Nat} (h : v < 32) : lead (UInt8.ofNat (v + 0xC0)) = some (1, v, 0x80) := by
  have hall : ∀ k : Fin 32, lead (UInt8.ofNat (k.val + 0xC0)) = some (1, k.val, 0x80) := by decide
  exact hall ⟨v, h⟩

theorem lead_three {v : Nat} (h : v < 16) :
    lead (UInt8.ofNat (v + 0xE0)) = some (2, v, 0x800) := by
  have hall : ∀ k : Fin 16, lead (UInt8.ofNat (k.val + 0xE0)) = some (2, k.val, 0x800) := by
    decide
  exact hall ⟨v, h⟩

theorem lead_four {v : Nat} (h : v < 8) :
    lead (UInt8.ofNat (v + 0xF0)) = some (3, v, 0x10000) := by
  have hall : ∀ k : Fin 8, lead (UInt8.ofNat (k.val + 0xF0)) = some (3, k.val, 0x10000) := by
    decide
  exact hall ⟨v, h⟩

theorem toNat_ofNat {n : Nat} (h : n.isValidChar) : (Char.ofNat n).toNat = n := by
  unfold Char.ofNat
  rw [dif_pos h]
  rfl

/-- a byte behind the lead byte: six bits of the character -/
theorem isContinuation_ofNat (v : Nat) : isContinuation (UInt8.ofNat (v % 64 + 0x80)) = true := by
  have hall : ∀ k : Fin 64, isContinuation (UInt8.ofNat (k.val + 0x80)) = true := by decide
  exact hall ⟨v % 64, Nat.mod_lt _ (by decide)⟩

theorem and_3F_ofNat (v : Nat) : (UInt8.ofNat (v % 64 + 0x80) &&& 0x3F).toNat = v % 64 := by
  have hall : ∀ k : Fin 64, (UInt8.ofNat (k.val + 0x80) &&& 0x3F).toNat = k.val := by decide
  exact hall ⟨v % 64, Nat.mod_lt _ (by decide)⟩

/-- the bytes of a character: a lead byte and the bytes that continue it -/
structure CharBytes (c : Char) (b : UInt8) (tail : List UInt8) : Prop where
  bytes : utf8EncodeChar c = b :: tail
  continues : tail.all isContinuation = true
  decodes : ∀ rest, decodeOne b (tail ++ rest) = some (c, tail.length)

theorem charBytes_of_lead {c : Char} {b : UInt8} {bits least : Nat} {tail : List UInt8}
    (hbytes : utf8EncodeChar c = b :: tail) (hlead : lead b = some (tail.length, bits, least))
    (hcont : tail.all isContinuation = true)
    (hc : tail.foldl (fun u t => u * 64 + (t &&& 0x3F).toNat) bits = c.toNat)
    (hleast : least ≤ c.toNat) : CharBytes c b tail := by
  refine ⟨hbytes, hcont, fun rest => ?_⟩
  have hvalid : c.toNat.isValidChar := c.valid
  unfold decodeOne
  simp only [hlead, List.take_left, hc]
  rw [if_pos ⟨trivial, hcont, hleast, hvalid⟩, Char.ofNat_toNat]

/-- **One character** is read back from its bytes, whatever follows. -/
theorem charBytes (c : Char) : ∃ b tail, CharBytes c b tail := by
  have hlt : c.toNat < 0x110000 := by
    rcases c.valid with h | h
    · exact Nat.lt_trans h (by decide)
    · exact h.2
  by_cases h1 : c.toNat ≤ 0x7F
  · refine ⟨UInt8.ofNat c.toNat, [], charBytes_of_lead ?_ (lead_one (Nat.lt_succ_of_le h1)) rfl rfl
      (Nat.zero_le _)⟩
    exact if_pos h1
  by_cases h2 : c.toNat ≤ 0x7FF
  · refine ⟨UInt8.ofNat (c.toNat / 64 % 32 + 0xC0), [UInt8.ofNat (c.toNat % 64 + 0x80)],
      charBytes_of_lead ?_ (lead_two (Nat.mod_lt _ (by decide))) ?_ ?_ (by omega)⟩
    · exact (if_neg h1).trans (if_pos h2)
    · simp only [List.all_cons, List.all_nil, isContinuation_ofNat, Bool.and_self]
    · simp only [List.foldl_cons, List.foldl_nil, and_3F_ofNat]
      omega
  by_cases h3 : c.toNat ≤ 0xFFFF
  · refine ⟨UInt8.ofNat (c.toNat / 4096 % 16 + 0xE0),
      [UInt8.ofNat (c.toNat / 64 % 64 + 0x80), UInt8.ofNat (c.toNat % 64 + 0x80)],
      charBytes_of_lead ?_ (lead_three (Nat.mod_lt _ (by decide))) ?_ ?_ (by omega)⟩
    · exact (if_neg h1).trans ((if_neg h2).trans (if_pos h3))
    · simp only [List.all_cons, List.all_nil, isContinuation_ofNat, Bool.and_self]
    · simp only [List.foldl_cons, List.foldl_nil, and_3F_ofNat]
      omega
  · refine ⟨UInt8.ofNat (c.toNat / 262144 % 8 + 0xF0),
      [UInt8.ofNat (c.toNat / 4096 % 64 + 0x80), UInt8.ofNat (c.toNat / 64 % 64 + 0x80),
        UInt8.ofNat (c.toNat % 64 + 0x80)],
      charBytes_of_lead ?_ (lead_four (Nat.mod_lt _ (by decide))) ?_ ?_ (by omega)⟩
    · exact (if_neg h1).trans ((if_neg h2).trans (if_neg h3))
    · simp only [List.all_cons, List.all_nil, isContinuation_ofNat, Bool.and_self]
    · simp only [List.foldl_cons, List.foldl_nil, and_3F_ofNat]
      omega

theorem decode_skip (tail rest : List UInt8) :
    decode tail.length (tail ++ rest) = decode 0 rest := by
  induction tail with
  | nil => rfl
  | cons b tail ih => exact ih

/-- **A text** is read back from its bytes. -/
theorem decode_utf8EncodeChar (text : List Char) :
    decode 0 (text.flatMap utf8EncodeChar) = text := by
  induction text with
  | nil => rfl
  | cons c text ih =>
    obtain ⟨b, tail, hc⟩ := charBytes c
    rw [List.flatMap_cons, hc.bytes, List.cons_append]
    simp only [decode, hc.decodes]
    rw [decode_skip, ih]

/-- the byte order mark is a character -/
theorem decodeOne_bom (rest : List UInt8) :
    decodeOne 0xEF (0xBB :: 0xBF :: rest) = some ('\uFEFF', 2) := by
  obtain ⟨b, tail, hc⟩ := charBytes '\uFEFF'
  have hmark : b :: tail = [0xEF, 0xBB, 0xBF] := hc.bytes.symm.trans (by decide)
  obtain ⟨rfl, rfl⟩ := List.cons.inj hmark
  exact hc.decodes rest

theorem decode_bom (rest : List UInt8) :
    decode 0 (utf8bom ++ rest) = '\uFEFF' :: decode 0 rest := by
  show decode 0 (0xEF :: 0xBB :: 0xBF :: rest) = _
  simp only [decode, decodeOne_bom]

/-- the byte order mark is U+FEFF -/
theorem bom_utf8EncodeChar (text : List Char) :
    utf8bom.isPrefixOf (text.flatMap utf8EncodeChar) = true ↔ text.head? = some '\uFEFF' := by
  have hmark : utf8EncodeChar '\uFEFF' = utf8bom := by decide
  rw [List.isPrefixOf_iff_prefix]
  constructor
  · rintro ⟨rest, hrest⟩
    have hback := decode_utf8EncodeChar text
    rw [← hrest, decode_bom] at hback
    rw [← hback]
    rfl
  · intro h
    obtain ⟨text, rfl⟩ := List.head?_eq_some_iff.mp h
    rw [List.flatMap_cons, hmark]
    exact List.prefix_append _ _

/-- what `fromUtf8` gives back: the text, but for a U+FEFF in front -/
theorem fromUtf8_utf8EncodeChar (text : List Char) : fromUtf8 (text.flatMap utf8EncodeChar) =
    if text.head? = some '\uFEFF' then text.tail else text := by
  unfold fromUtf8
  by_cases h : text.head? = some '\uFEFF'
  · rw [if_pos ((bom_utf8EncodeChar text).mpr h), if_pos h]
    obtain ⟨text, rfl⟩ := List.head?_eq_some_iff.mp h
    exact decode_utf8EncodeChar text
  · rw [if_neg (mt (bom_utf8EncodeChar text).mp h), if_neg h, decode_utf8EncodeChar]

/-- NUL is the only character with a zero byte -/
theorem utf8EncodeChar_ne_zero {c : Char} (hc : c ≠ '\x00') : 0 ∉ utf8EncodeChar c := by
  obtain ⟨b, tail, h⟩ := charBytes c
  rw [h.bytes]
  intro h0
  rcases List.mem_cons.mp h0 with rfl | htail
  · have hone := h.decodes []
    rw [show decodeOne 0 (tail ++ []) = some ('\x00', 0) from rfl] at hone
    exact hc (Prod.mk.inj (Option.some.inj hone)).1.symm
  · exact absurd (List.all_eq_true.mp h.continues 0 htail) (by decide)

/-! ## What trimming keeps -/

theorem mem_dropWhile_iff {p : Char → Bool} {c : Char} (hc : p c = false) (text : List Char) :
    c ∈ text.dropWhile p ↔ c ∈ text := by
  constructor
  · intro h
    exact (List.dropWhile_sublist p).subset h
  · intro h
    rw [← List.takeWhile_append_dropWhile (p := p) (l := text), List.mem_append] at h
    refine h.resolve_left fun hw => ?_
    have hp := List.all_eq_true.mp List.all_takeWhile c hw
    rw [hc] at hp
    cases hp

/-- a character that is no white space stays -/
theorem mem_trimmed_iff {c : Char} (hc : isSpace c = false) (text : List Char) :
    c ∈ trimmed text ↔ c ∈ text := by
  unfold trimmed
  rw [List.mem_reverse, mem_dropWhile_iff hc, List.mem_reverse, mem_dropWhile_iff hc]

/-! ## Bytes that start no character -/

/-- how many of the bytes become U+FFFD, where `skip` bytes still belong to the character before -/
def invalidBytes : Nat → List UInt8 → Nat
  | _, [] => 0
  | skip + 1, _ :: rest => invalidBytes skip rest
  | 0, b :: rest =>
    match decodeOne b rest with
    | some (_, n) => invalidBytes n rest
    | none => invalidBytes 0 rest + 1

example : invalidBytes 0 [0x41, 0xC3, 0xA4, 0xC3, 0xFF] = 2 := by decide

/-- every byte belongs to a character -/
def ValidUtf8 (bytes : List UInt8) : Prop := invalidBytes 0 bytes = 0

instance (bytes : List UInt8) : Decidable (ValidUtf8 bytes) := inferInstanceAs (Decidable (_ = _))

/-- the bits of a lead byte leave the character below the next least one -/
theorem lead_bounds {b : UInt8} {needed bits least : Nat}
    (h : lead b = some (needed, bits, least)) :
    (needed = 0 ∧ bits < 0x80 ∧ least = 0) ∨ (needed = 1 ∧ bits < 0x20 ∧ least = 0x80) ∨
      (needed = 2 ∧ bits < 0x10 ∧ least = 0x800) ∨
      (needed = 3 ∧ bits < 0x08 ∧ least = 0x10000) := by
  have masked (m : UInt8) : (b &&& m).toNat ≤ m.toNat := by
    rw [UInt8.toNat_and]
    exact Nat.and_le_right
  have h1 := masked 0x1F
  have h2 := masked 0x0F
  have h3 := masked 0x07
  unfold lead at h
  split at h
  · rename_i hb
    obtain ⟨rfl, rfl, rfl⟩ := h
    exact .inl ⟨rfl, UInt8.lt_iff_toNat_lt.mp hb, rfl⟩
  split at h
  · obtain ⟨rfl, rfl, rfl⟩ := h
    exact .inr (.inl ⟨rfl, Nat.lt_succ_of_le h1, rfl⟩)
  split at h
  · obtain ⟨rfl, rfl, rfl⟩ := h
    exact .inr (.inr (.inl ⟨rfl, Nat.lt_succ_of_le h2, rfl⟩))
  split at h
  · obtain ⟨rfl, rfl, rfl⟩ := h
    exact .inr (.inr (.inr ⟨rfl, Nat.lt_succ_of_le h3, rfl⟩))
  · cases h

/-- each byte behind the lead byte adds six bits -/
theorem foldl_bits_lt (tail : List UInt8) (bits : Nat) :
    tail.foldl (fun u t => u * 64 + (t &&& 0x3F).toNat) bits < (bits + 1) * 64 ^ tail.length := by
  induction tail generalizing bits with
  | nil => simp
  | cons t tail ih =>
    have ht : (t &&& 0x3F).toNat ≤ 63 := by
      rw [UInt8.toNat_and]
      exact Nat.and_le_right
    calc (t :: tail).foldl (fun u t => u * 64 + (t &&& 0x3F).toNat) bits
        < (bits * 64 + (t &&& 0x3F).toNat + 1) * 64 ^ tail.length := ih _
      _ ≤ ((bits + 1) * 64) * 64 ^ tail.length := Nat.mul_le_mul_right _ (by omega)
      _ = (bits + 1) * 64 ^ (t :: tail).length := by
        rw [List.length_cons, Nat.pow_succ', Nat.mul_assoc]

/-- **A character** takes as many bytes as it was read from. -/
theorem length_decodeOne {b : UInt8} {rest : List UInt8} {c : Char} {n : Nat}
    (h : decodeOne b rest = some (c, n)) : (utf8EncodeChar c).length = n + 1 := by
  unfold decodeOne at h
  split at h
  · cases h
  rename_i needed bits least hlead
  dsimp only at h
  split at h
  · rename_i hall
    obtain ⟨hlen, -, hleast, hvalid⟩ := hall
    obtain ⟨rfl, rfl⟩ := Prod.mk.inj (Option.some.inj h)
    have hlt := foldl_bits_lt (rest.take needed) bits
    rw [hlen] at hlt
    generalize (rest.take needed).foldl (fun u t => u * 64 + (t &&& 0x3F).toNat) bits = uc
      at hleast hvalid hlt ⊢
    have huc : (Char.ofNat uc).val.toNat = uc := toNat_ofNat hvalid
    rw [String.length_utf8EncodeChar]
    rcases lead_bounds hlead with ⟨rfl, hbits, -⟩ | ⟨rfl, hbits, rfl⟩ | ⟨rfl, hbits, rfl⟩ |
      ⟨rfl, -, rfl⟩
    · rw [Char.utf8Size_eq_one_iff, UInt32.le_iff_toNat_le, huc]
      show uc ≤ 127
      omega
    · rw [Char.utf8Size_eq_two_iff, UInt32.le_iff_toNat_le, UInt32.lt_iff_toNat_lt, huc]
      show 127 < uc ∧ uc ≤ 0x7FF
      omega
    · rw [Char.utf8Size_eq_three_iff, UInt32.le_iff_toNat_le, UInt32.lt_iff_toNat_lt, huc]
      show 0x7FF < uc ∧ uc ≤ 0xFFFF
      omega
    · rw [Char.utf8Size_eq_four_iff, UInt32.lt_iff_toNat_lt, huc]
      show 0xFFFF < uc
      omega
  · cases h

/-- **Read and written again**, bytes grow by two for each that starts no character. -/
theorem length_decode (skip : Nat) (bytes : List UInt8) (h : skip ≤ bytes.length) :
    ((decode skip bytes).flatMap utf8EncodeChar).length + skip =
      bytes.length + 2 * invalidBytes skip bytes := by
  induction bytes generalizing skip with
  | nil =>
    obtain rfl : skip = 0 := Nat.le_zero.mp h
    rfl
  | cons b rest ih =>
    cases skip with
    | succ skip =>
      have hrest := ih skip (Nat.le_of_succ_le_succ h)
      show ((decode skip rest).flatMap utf8EncodeChar).length + (skip + 1) =
        rest.length + 1 + 2 * invalidBytes skip rest
      omega
    | zero =>
      simp only [decode, invalidBytes]
      split
      · rename_i c n hone
        have hrest := ih n (decodeOne_le hone)
        rw [List.flatMap_cons, List.length_append, length_decodeOne hone, List.length_cons]
        omega
      · have hrest := ih 0 (Nat.zero_le _)
        have hmark : (utf8EncodeChar '\uFFFD').length = 3 := by decide
        rw [List.flatMap_cons, List.length_append, hmark, List.length_cons]
        omega

/-- a byte order mark in front is no byte that starts no character -/
theorem invalidBytes_bom (rest : List UInt8) :
    invalidBytes 0 (utf8bom ++ rest) = invalidBytes 0 rest := by
  show invalidBytes 0 (0xEF :: 0xBB :: 0xBF :: rest) = _
  simp only [invalidBytes, decodeOne_bom]

/-- the bytes of a text that was read from bytes -/
theorem length_fromUtf8 (bytes : List UInt8) :
    ((fromUtf8 bytes).flatMap utf8EncodeChar).length
        + (if utf8bom.isPrefixOf bytes then 3 else 0) =
      bytes.length + 2 * invalidBytes 0 bytes := by
  unfold fromUtf8
  split
  · rename_i hbom
    obtain ⟨rest, rfl⟩ := List.isPrefixOf_iff_prefix.mp hbom
    have hrest := length_decode 0 rest (Nat.zero_le _)
    have hdrop : (utf8bom ++ rest).drop 3 = rest := rfl
    rw [invalidBytes_bom, hdrop, List.length_append]
    show _ + 3 = 3 + rest.length + _
    omega
  · exact length_decode 0 bytes (Nat.zero_le _)

/-! ## The byte order mark -/

theorem decode_eq_nil_iff (bytes : List UInt8) : decode 0 bytes = [] ↔ bytes = [] := by
  cases bytes with
  | nil => exact iff_of_true rfl rfl
  | cons b rest =>
    refine iff_of_false ?_ (List.cons_ne_nil _ _)
    unfold decode
    split <;> exact List.cons_ne_nil _ _

theorem fromUtf8_of_unmarked {bytes : List UInt8} (h : utf8bom.isPrefixOf bytes = false) :
    fromUtf8 bytes = decode 0 bytes := by
  unfold fromUtf8
  rw [h]
  rfl

/-- read on its own, a byte order mark is the character U+FEFF -/
theorem decode_of_marked {bytes : List UInt8} (h : utf8bom.isPrefixOf bytes = true) :
    decode 0 bytes = '\uFEFF' :: fromUtf8 bytes := by
  obtain ⟨rest, rfl⟩ := List.isPrefixOf_iff_prefix.mp h
  unfold fromUtf8
  rw [if_pos h]
  exact decode_bom rest

/-- only a byte order mark alone leaves no text -/
theorem fromUtf8_eq_nil_iff {bytes : List UInt8} (hne : bytes ≠ []) :
    fromUtf8 bytes = [] ↔ bytes = utf8bom := by
  by_cases h : utf8bom.isPrefixOf bytes = true
  · obtain ⟨rest, rfl⟩ := List.isPrefixOf_iff_prefix.mp h
    unfold fromUtf8
    rw [if_pos h, decode_eq_nil_iff]
    show rest = [] ↔ utf8bom ++ rest = utf8bom
    exact List.append_right_eq_self.symm
  · have hun : utf8bom.isPrefixOf bytes = false := Bool.eq_false_iff.mpr h
    rw [fromUtf8_of_unmarked hun, decode_eq_nil_iff]
    refine iff_of_false hne ?_
    rintro rfl
    exact h rfl

end QMon.Updater
