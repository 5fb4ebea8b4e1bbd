import QMonstatek.Lib.Crc
import QMonstatek.Protocol.Frame

/-!
# Error detection with two tables

`crc16_table` holds the byte remainders of the polynomial 0x1021 (`crc16Table_get`), so a
difference once in its register stays in it: `carried e n` is the difference `e` after `n` more
bytes.  The legacy table is wrong at 46 indices (`tableError`), and `legacyError c l` is what its
wrong entries add up to in the loop over `l`.

A receiver that accepts either CRC rejects a flipped bit unless the wrong entries the changed
body meets make up for it: `singleBit_rejected_iff`.
-/

-- the two tables are literals of 256 entries
set_option maxRecDepth 4000

namespace QMon.Rpc

/-! ## The correct table -/

def polynomial : BitVec 16 := 0x1021#16

theorem crc16Table_toList : crc16Table.toList.map UInt16.toNat = (List.range 256).map
    (fun i => (Crc.bitSteps polynomial 8 (BitVec.ofNat 16 i <<< 8)).toNat) := by
  decide +kernel

theorem crc16Table_get (i : BitVec 8) :
    (crc16Table.get i.toFin).toBitVec = Crc.bitSteps polynomial 8 (i.setWidth 16 <<< 8) := by
  have h := congrArg (fun l => l[i.toNat]?) crc16Table_toList
  simp only [List.getElem?_map, List.getElem?_range i.isLt, Vector.getElem?_toList,
    Vector.getElem?_eq_getElem i.isLt, Option.map_some, Option.some.injEq,
    BitVec.ofNat_toNat] at h
  exact BitVec.eq_of_toNat_eq h

theorem crcStep_toBitVec (c : UInt16) (b : UInt8) :
    (crcStep crc16Table c b).toBitVec = Crc.byteStep polynomial c.toBitVec b.toBitVec := by
  let table (i : BitVec 8) : BitVec 16 := (crc16Table.get i.toFin).toBitVec
  have ht (i : BitVec 8) : table i = Crc.bitSteps polynomial 8 (i.setWidth 16 <<< (16 - 8)) :=
    crc16Table_get i
  rw [← Crc.table_step (by decide) ht]
  rfl

theorem crcLoop_cons (table : Vector UInt16 256) (b : UInt8) (data : List UInt8) (c : UInt16) :
    crcLoop table (b :: data) c = crcLoop table data (crcStep table c b) := rfl

theorem crcLoop_append (table : Vector UInt16 256) (a b : List UInt8) (c : UInt16) :
    crcLoop table (a ++ b) c = crcLoop table b (crcLoop table a c) := List.foldl_append

theorem crcLoop_toBitVec (data : List UInt8) (c : UInt16) : (crcLoop crc16Table data c).toBitVec =
    Crc.run polynomial c.toBitVec (data.map UInt8.toBitVec) := by
  induction data generalizing c with
  | nil => rfl
  | cons b data ih =>
    rw [crcLoop_cons, ih, crcStep_toBitVec]
    rfl

/-! ## Differences in the register -/

/-- the difference `e` between two registers, after `n` more bytes -/
def carried (e : UInt16) (n : Nat) : UInt16 := crcLoop crc16Table (List.replicate n 0) e

theorem carried_toBitVec (e : UInt16) (n : Nat) :
    (carried e n).toBitVec = Crc.run polynomial e.toBitVec (List.replicate n 0#8) := by
  unfold carried
  rw [crcLoop_toBitVec, List.map_replicate]
  rfl

theorem crcLoop_difference (data : List UInt8) (s e : UInt16) :
    crcLoop crc16Table data (s ^^^ e) = crcLoop crc16Table data s ^^^ carried e data.length := by
  apply UInt16.toBitVec_inj.mp
  rw [UInt16.toBitVec_xor, carried_toBitVec, crcLoop_toBitVec, crcLoop_toBitVec,
    UInt16.toBitVec_xor, Crc.run_difference, List.length_map]

theorem carried_eq_zero {e : UInt16} {n : Nat} (h : carried e n = 0) : e = 0 := by
  apply UInt16.toBitVec_inj.mp
  refine Crc.run_zeros_eq_zero (p := polynomial) (by decide) n ?_
  rw [← carried_toBitVec, h]
  rfl

theorem crcStep_difference (c : UInt16) (b m : UInt8) :
    crcStep crc16Table c (b ^^^ m) = crcStep crc16Table c b ^^^ crcStep crc16Table 0 m := by
  apply UInt16.toBitVec_inj.mp
  rw [UInt16.toBitVec_xor, crcStep_toBitVec, crcStep_toBitVec, crcStep_toBitVec,
    UInt8.toBitVec_xor, ← Crc.byteStep_xor, UInt16.toBitVec_zero, BitVec.xor_zero]

theorem crcStep_zero_eq_zero {m : UInt8} (h : crcStep crc16Table 0 m = 0) : m = 0 := by
  apply UInt8.toBitVec_inj.mp
  refine Crc.byteStep_of_zero_eq_zero (p := polynomial) (by decide) (by decide) ?_
  rw [← UInt16.toBitVec_zero, ← crcStep_toBitVec, h]

/-! ## The legacy table -/

/-- what is wrong with an entry of the legacy table -/
def tableError (i : UInt8) : UInt16 :=
  if 0x40 ≤ i ∧ i ≤ 0x46 then 0x00A0
  else if 0x47 ≤ i ∧ i ≤ 0x5F then 0x00E0
  else if 0xD7 ≤ i ∧ i ≤ 0xE4 then 0x0020
  else 0

theorem crc16TableLegacy_toList : crc16TableLegacy.toList.map UInt16.toNat =
    crc16Table.toList.zipIdx.map (fun e => (e.1 ^^^ tableError (UInt8.ofNat e.2)).toNat) := by
  decide +kernel

theorem crc16TableLegacy_get (i : UInt8) :
    crc16TableLegacy.get i.toFin = crc16Table.get i.toFin ^^^ tableError i := by
  have h := congrArg (fun l => l[i.toNat]?) crc16TableLegacy_toList
  simp [i.toNat_lt] at h
  apply UInt16.toNat_inj.mp
  rw [UInt16.toNat_xor]
  exact h

/-- the wrong entries the legacy loop meets from register `c` on, each carried to the end -/
def legacyError (c : UInt16) : List UInt8 → UInt16
  | [] => 0
  | b :: data => carried (tableError ((c >>> 8).toUInt8 ^^^ b)) data.length ^^^
      legacyError (crcStep crc16TableLegacy c b) data

theorem crcLoop_legacy (data : List UInt8) (c : UInt16) :
    crcLoop crc16TableLegacy data c = crcLoop crc16Table data c ^^^ legacyError c data := by
  induction data generalizing c with
  | nil =>
    show c = c ^^^ 0
    exact UInt16.xor_zero.symm
  | cons b data ih =>
    have hstep : crcStep crc16TableLegacy c b =
        crcStep crc16Table c b ^^^ tableError ((c >>> 8).toUInt8 ^^^ b) := by
      unfold crcStep
      rw [crc16TableLegacy_get, ← UInt16.xor_assoc]
    rw [crcLoop_cons, crcLoop_cons, legacyError, ih, ← UInt16.xor_assoc, ← crcLoop_difference,
      ← hstep]

/-! ## A flipped bit -/

def bitByte (k : Nat) : UInt8 := 1 <<< UInt8.ofNat k

/-- bit `i` of a frame flipped: bit `i % 8` of byte `i / 8` -/
def flipBit (i : Nat) (l : List UInt8) : List UInt8 :=
  l.modify (i / 8) (fun b => b ^^^ bitByte (i % 8))

/-- the check `finalizeFrame` makes of a body and the two CRC bytes after it -/
def frameAccepted (bytes : List UInt8) (s : CrcSession) : Bool :=
  let n := bytes.length - 2
  (crc16ValidateRx (bytes.take n) (ofLe16 (bytes.getD n 0) (bytes.getD (n + 1) 0)) s).1

/-- how far bit `i` of a frame with a body of `n` bytes sets the CRC of the body and the CRC in
the frame apart -/
def flippedSyndrome (n i : Nat) : UInt16 :=
  if i / 8 < n then carried (crcStep crc16Table 0 (bitByte (i % 8))) (n - 1 - i / 8)
  else if i / 8 = n then ofLe16 (bitByte (i % 8)) 0
  else ofLe16 0 (bitByte (i % 8))

theorem bitByte_ne_zero {k : Nat} (h : k < 8) : bitByte k ≠ 0 := by
  have hk (k : Fin 8) : bitByte k.val ≠ 0 := by
    revert k
    decide
  exact hk ⟨k, h⟩

theorem ofLe16_xor (lo hi lo' hi' : UInt8) :
    ofLe16 (lo ^^^ lo') (hi ^^^ hi') = ofLe16 lo hi ^^^ ofLe16 lo' hi' := by
  have split (lo hi : UInt8) : ofLe16 lo hi = lo.toUInt16 ^^^ (hi.toUInt16 <<< 8) := by
    apply UInt16.toBitVec_inj.mp
    apply BitVec.eq_of_getLsbD_eq
    intro i _
    unfold ofLe16
    by_cases h8 : i < 8
    · simp [h8]
    · simp [h8, BitVec.getLsbD_of_ge lo.toBitVec i (by omega)]
  rw [split, split, split, UInt8.toUInt16_xor, UInt8.toUInt16_xor, UInt16.shiftLeft_xor]
  ac_rfl

theorem ofLe16_eq_zero {lo hi : UInt8} (h : ofLe16 lo hi = 0) : lo = 0 ∧ hi = 0 := by
  have hn := congrArg UInt16.toNat h
  rw [ofLe16_toNat] at hn
  have h0 : (0 : UInt16).toNat = 0 := rfl
  exact ⟨UInt8.toNat_inj.mp (by simp; omega), UInt8.toNat_inj.mp (by simp; omega)⟩

theorem modify_at (a r : List UInt8) (b : UInt8) (f : UInt8 → UInt8) :
    (a ++ b :: r).modify a.length f = a ++ f b :: r := by
  simp [List.modify_eq_take_cons_drop]

theorem frameAccepted_append (body : List UInt8) (lo hi : UInt8) (s : CrcSession) :
    frameAccepted (body ++ [lo, hi]) s = (crc16ValidateRx body (ofLe16 lo hi) s).1 := by
  unfold frameAccepted
  simp

theorem xor_eq_self_iff (a b : UInt16) : a ^^^ b = a ↔ b = 0 := by
  have h := UInt16.xor_right_inj (a := b) (b := 0) a
  rw [UInt16.xor_zero] at h
  exact h

/-- a difference in one byte of the body -/
theorem crcLoop_changed (a r : List UInt8) (b m : UInt8) (c : UInt16) :
    crcLoop crc16Table (a ++ (b ^^^ m) :: r) c =
      crcLoop crc16Table (a ++ b :: r) c ^^^ carried (crcStep crc16Table 0 m) r.length := by
  rw [crcLoop_append, crcLoop_append, crcLoop_cons, crcLoop_cons, crcStep_difference,
    crcLoop_difference]

/-- what a flipped bit leaves: the CRC of the body and the CRC received are apart by the
syndrome, which is not zero -/
structure FlippedFrame (n i : Nat) (body : List UInt8) (lo hi : UInt8) : Prop where
  apart : crc16Ccitt body crcInit = ofLe16 lo hi ^^^ flippedSyndrome n i
  syndrome : flippedSyndrome n i ≠ 0

theorem flipped_body {a r : List UInt8} {b lo hi : UInt8} {i : Nat} (ha : a.length = i / 8)
    (h : crc16Ccitt (a ++ b :: r) crcInit = ofLe16 lo hi) :
    FlippedFrame (a ++ b :: r).length i (a ++ (b ^^^ bitByte (i % 8)) :: r) lo hi := by
  have hlen : (a ++ b :: r).length = i / 8 + 1 + r.length := by
    rw [List.length_append, List.length_cons, ha]
    omega
  have hsyn : flippedSyndrome (a ++ b :: r).length i =
      carried (crcStep crc16Table 0 (bitByte (i % 8))) r.length := by
    unfold flippedSyndrome
    rw [if_pos (by omega), hlen]
    congr 1
    omega
  refine ⟨?_, fun hzero => ?_⟩
  · rw [hsyn, ← h]
    exact crcLoop_changed a r b _ crcInit
  · rw [hsyn] at hzero
    exact bitByte_ne_zero (by omega) (crcStep_zero_eq_zero (carried_eq_zero hzero))

theorem flipped_crc {body : List UInt8} {lo hi lo' hi' : UInt8} {i : Nat}
    (h : crc16Ccitt body crcInit = ofLe16 lo hi)
    (hsyn : flippedSyndrome body.length i = ofLe16 lo' hi') (hne : lo' ≠ 0 ∨ hi' ≠ 0) :
    FlippedFrame body.length i body (lo ^^^ lo') (hi ^^^ hi') := by
  refine ⟨?_, fun hzero => ?_⟩
  · rw [hsyn, h, ofLe16_xor, UInt16.xor_assoc, UInt16.xor_self, UInt16.xor_zero]
  · obtain ⟨hl, hh⟩ := ofLe16_eq_zero (hsyn.symm.trans hzero)
    rcases hne with hne | hne
    · exact hne hl
    · exact hne hh

theorem flipBit_frame (body : List UInt8) (i : Nat) (hbound : i < 8 * (body.length + 2)) :
    ∃ body' lo hi, flipBit i (body ++ le16 (crc16Ccitt body crcInit)) = body' ++ [lo, hi] ∧
      body'.length = body.length ∧ FlippedFrame body.length i body' lo hi := by
  have hbit : bitByte (i % 8) ≠ 0 := bitByte_ne_zero (by omega)
  obtain ⟨lo, hi, hcrc, hback⟩ := le16_bytes (crc16Ccitt body crcInit)
  have hread : crc16Ccitt body crcInit = ofLe16 lo hi := hback.symm
  unfold flipBit
  rw [hcrc]
  by_cases hbody : i / 8 < body.length
  · obtain ⟨a, b, r, ha, rfl, -⟩ : ∃ a b r, a.length = i / 8 ∧ body = a ++ b :: r ∧ True := by
      obtain ⟨a, b, r, hl, ha, -⟩ := List.exists_of_modify (fun b => b) hbody
      exact ⟨a, b, r, ha, hl, trivial⟩
    refine ⟨a ++ (b ^^^ bitByte (i % 8)) :: r, lo, hi, ?_, by simp, flipped_body ha hread⟩
    rw [← ha, List.append_assoc, List.cons_append, modify_at, List.append_assoc,
      List.cons_append]
  · by_cases hlow : i / 8 = body.length
    · have hsyn : flippedSyndrome body.length i = ofLe16 (bitByte (i % 8)) 0 := by
        unfold flippedSyndrome
        rw [if_neg hbody, if_pos hlow]
      have hf := flipped_crc hread hsyn (.inl hbit)
      rw [UInt8.xor_zero] at hf
      refine ⟨body, _, _, ?_, rfl, hf⟩
      rw [hlow, modify_at]
    · have hsyn : flippedSyndrome body.length i = ofLe16 0 (bitByte (i % 8)) := by
        unfold flippedSyndrome
        rw [if_neg hbody, if_neg hlow]
      have hf := flipped_crc hread hsyn (.inr hbit)
      rw [UInt8.xor_zero] at hf
      refine ⟨body, _, _, ?_, rfl, hf⟩
      have hpos : i / 8 = (body ++ [lo]).length := by
        rw [List.length_append, List.length_singleton]
        omega
      have hsplit (x : UInt8) : body ++ [lo, x] = (body ++ [lo]) ++ [x] := by simp
      rw [hsplit, hsplit, hpos, modify_at]

/-- **Single-bit errors**: whatever the latch holds, a flipped bit is rejected iff the wrong
entries of the legacy table that the changed body meets do not add up to its syndrome. -/
theorem singleBit_rejected_iff (body : List UInt8) (i : Fin (8 * (body.length + 2))) :
    (∀ s, frameAccepted (flipBit i (body ++ le16 (crc16Ccitt body crcInit))) s = false) ↔
      legacyError crcInit ((flipBit i (body ++ le16 (crc16Ccitt body crcInit))).take body.length)
        ≠ flippedSyndrome body.length i := by
  obtain ⟨body', lo, hi, hchanged, hlen, hf⟩ := flipBit_frame body i i.isLt
  have htake : (body' ++ [lo, hi]).take body.length = body' := by
    rw [← hlen, List.take_left]
  have hcorrect : CrcDialect.crc .Correct body' ≠ ofLe16 lo hi := by
    intro h
    exact hf.syndrome ((xor_eq_self_iff _ _).mp (hf.apart.symm.trans h))
  have hlegacy : CrcDialect.crc .Legacy body' = ofLe16 lo hi ↔
      legacyError crcInit body' = flippedSyndrome body.length i := by
    show crcLoop crc16TableLegacy body' crcInit = _ ↔ _
    have hc : crcLoop crc16Table body' crcInit = _ := hf.apart
    rw [crcLoop_legacy, hc, UInt16.xor_assoc, xor_eq_self_iff, UInt16.xor_eq_zero_iff]
    exact eq_comm
  rw [hchanged, htake]
  constructor
  · intro h he
    have hs := h {}
    rw [frameAccepted_append] at hs
    have ht := (crc16ValidateRx_fst body' (ofLe16 lo hi) {}).mpr (.inr (hlegacy.mpr he))
    exact Bool.noConfusion (hs.symm.trans ht)
  · intro hne s
    rw [frameAccepted_append, Bool.eq_false_iff]
    intro ht
    rcases (crc16ValidateRx_fst body' (ofLe16 lo hi) s).mp ht with h | h
    · exact hcorrect h
    · exact hne (hlegacy.mp h)

/-- a NACK with error code 2 and SEQ 0x14: bit 5 of the code flipped, it is accepted as code 0x22 -/
theorem singleBit_accepted :
    let body : List UInt8 := [0x07, 0x14, 0x01, 0x00, 0x02]
    let changed := flipBit 37 (body ++ le16 (crc16Ccitt body crcInit))
    changed.take 5 = [0x07, 0x14, 0x01, 0x00, 0x22] ∧ frameAccepted changed {} = true := by
  decide

end QMon.Rpc
