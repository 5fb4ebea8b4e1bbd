import Mathlib.Data.List.Basic
import Mathlib.Tactic.Common

/-!
# Cyclic redundancy checks, most significant bit first

A register of `w` bits and a polynomial of degree `w` without its leading term.

`bitStep p c`     one shift of the register `c`: multiplication by `x` modulo the polynomial;
`byteStep p c b`  a byte added to the top of the register, then eight shifts;
`run p c l`       the register after the bytes `l`.

All of them are linear over exclusive or (`run_xor`), and with an odd polynomial no nonzero
register is shifted to zero (`run_zeros_eq_zero`), so a difference once in the register stays in
it.  `table_step` is the loop with a table of the 256 byte remainders.

`feedBits` is the definition by the bits of the message, one shift for each (`run_eq_feedBits`).
As long as there are no more bits than the register has, it only takes them in
(`feedBits_eq`), so a difference within so many bits is seen: `run_burst`.
-/

namespace QMon.Crc

variable {w : Nat} (p : BitVec w)

def bitStep (c : BitVec w) : BitVec w := (c <<< 1) ^^^ (if c.msb then p else 0#w)

def bitSteps : Nat → BitVec w → BitVec w
  | 0, c => c
  | n + 1, c => bitSteps n (bitStep p c)

def byteStep (c : BitVec w) (b : BitVec 8) : BitVec w :=
  bitSteps p 8 (c ^^^ (b.setWidth w <<< (w - 8)))

def run (c : BitVec w) (l : List (BitVec 8)) : BitVec w := l.foldl (byteStep p) c

theorem run_cons (c : BitVec w) (b : BitVec 8) (l : List (BitVec 8)) :
    run p c (b :: l) = run p (byteStep p c b) l := rfl

/-! ## Linearity -/

theorem bitStep_xor (a b : BitVec w) : bitStep p (a ^^^ b) = bitStep p a ^^^ bitStep p b := by
  unfold bitStep
  rw [BitVec.shiftLeft_xor_distrib, BitVec.msb_xor]
  have both : (a <<< 1) ^^^ p ^^^ ((b <<< 1) ^^^ p) = (a <<< 1) ^^^ (b <<< 1) := by
    rw [BitVec.xor_comm (b <<< 1) p, BitVec.xor_assoc, ← BitVec.xor_assoc p, BitVec.xor_self,
      BitVec.zero_xor]
  cases a.msb <;> cases b.msb <;> simp [both] <;> ac_rfl

theorem bitSteps_xor (n : Nat) (a b : BitVec w) :
    bitSteps p n (a ^^^ b) = bitSteps p n a ^^^ bitSteps p n b := by
  induction n generalizing a b with
  | zero => rfl
  | succ n ih =>
    show bitSteps p n (bitStep p (a ^^^ b)) = _
    rw [bitStep_xor, ih]
    rfl

theorem byteStep_xor (a c : BitVec w) (b d : BitVec 8) :
    byteStep p (a ^^^ c) (b ^^^ d) = byteStep p a b ^^^ byteStep p c d := by
  unfold byteStep
  rw [← bitSteps_xor, BitVec.setWidth_xor, BitVec.shiftLeft_xor_distrib]
  congr 1
  ac_rfl

/-- **Linearity**: messages of one length and registers are added before or after the run. -/
theorem run_xor (s e : BitVec w) (l m : List (BitVec 8)) (hlen : l.length = m.length) :
    run p (s ^^^ e) (List.zipWith (· ^^^ ·) l m) = run p s l ^^^ run p e m := by
  induction l generalizing m s e with
  | nil =>
    rw [List.length_eq_zero_iff.mp hlen.symm]
    rfl
  | cons b l ih =>
    cases m with
    | nil => exact absurd hlen (Nat.succ_ne_zero _)
    | cons d m =>
      rw [List.zipWith_cons_cons, run_cons, run_cons, run_cons, byteStep_xor]
      exact ih _ _ m (Nat.succ.inj hlen)

theorem zipWith_xor_zeros (l : List (BitVec 8)) :
    List.zipWith (· ^^^ ·) l (List.replicate l.length 0#8) = l := by
  induction l with
  | nil => rfl
  | cons b l ih =>
    rw [List.length_cons, List.replicate_succ, List.zipWith_cons_cons, ih, BitVec.xor_zero]

/-- two registers that differ by `e` differ by what the zero bytes make of `e` -/
theorem run_difference (s e : BitVec w) (l : List (BitVec 8)) :
    run p (s ^^^ e) l = run p s l ^^^ run p e (List.replicate l.length 0#8) := by
  have h := run_xor p s e l (List.replicate l.length 0#8) List.length_replicate.symm
  rw [zipWith_xor_zeros] at h
  exact h

/-! ## Differences do not vanish -/

variable {p}

theorem bitStep_eq_zero (hp : p.getLsbD 0 = true) {c : BitVec w} (h : bitStep p c = 0#w) :
    c = 0#w := by
  have hw : 0 < w := by
    rcases Nat.eq_zero_or_pos w with rfl | hw
    · exact absurd hp (by simp)
    · exact hw
  -- the lowest bit of the shifted register is the one the polynomial brought in
  have hmsb : c.msb = false := by
    have h0 := congrArg (fun x => x.getLsbD 0) h
    unfold bitStep at h0
    cases hm : c.msb with
    | false => rfl
    | true =>
      rw [hm, if_pos rfl, BitVec.getLsbD_xor, hp] at h0
      simp at h0
  apply BitVec.eq_of_getLsbD_eq
  intro i hi
  rw [BitVec.getLsbD_zero]
  by_cases hlast : i + 1 < w
  · have hi1 := congrArg (fun x => x.getLsbD (i + 1)) h
    unfold bitStep at hi1
    rw [BitVec.getLsbD_eq_getElem hi]
    simpa [hmsb, hlast] using hi1
  · have : i = w - 1 := by omega
    rw [this, ← BitVec.msb_eq_getLsbD_last]
    exact hmsb

theorem bitSteps_eq_zero (hp : p.getLsbD 0 = true) (n : Nat) {c : BitVec w}
    (h : bitSteps p n c = 0#w) : c = 0#w := by
  induction n generalizing c with
  | zero => exact h
  | succ n ih => exact bitStep_eq_zero hp (ih h)

theorem byteStep_zero_eq_zero (hp : p.getLsbD 0 = true) {c : BitVec w}
    (h : byteStep p c 0#8 = 0#w) : c = 0#w := by
  have hc := bitSteps_eq_zero hp 8 h
  simpa using hc

theorem run_zeros_eq_zero (hp : p.getLsbD 0 = true) (n : Nat) {c : BitVec w}
    (h : run p c (List.replicate n 0#8) = 0#w) : c = 0#w := by
  induction n generalizing c with
  | zero => exact h
  | succ n ih => exact byteStep_zero_eq_zero hp (ih h)

/-- a byte read into an empty register leaves something in it -/
theorem byteStep_of_zero_eq_zero (hp : p.getLsbD 0 = true) (hw : 8 ≤ w) {b : BitVec 8}
    (h : byteStep p 0#w b = 0#w) : b = 0#8 := by
  have hb := bitSteps_eq_zero hp 8 h
  rw [BitVec.zero_xor] at hb
  apply BitVec.eq_of_getLsbD_eq
  intro i hi
  have hbit := congrArg (fun x => x.getLsbD (i + (w - 8))) hb
  simpa [show i + (w - 8) < w by omega, show i < w by omega] using hbit

/-! ## The table -/

/-- while the top bits of the register are zero it is only shifted -/
theorem bitSteps_shift (n : Nat) (c : BitVec w) (h : ∀ i, w - n ≤ i → c.getLsbD i = false) :
    bitSteps p n c = c <<< n := by
  induction n generalizing c with
  | zero => exact (BitVec.shiftLeft_zero c).symm
  | succ n ih =>
    have hmsb : c.msb = false := by
      rw [BitVec.msb_eq_getLsbD_last]
      exact h _ (by omega)
    have hstep : bitStep p c = c <<< 1 := by
      unfold bitStep
      simp [hmsb]
    show bitSteps p n (bitStep p c) = _
    rw [hstep, ih]
    · rw [← BitVec.shiftLeft_add, Nat.add_comm]
    · intro i hi
      rw [BitVec.getLsbD_shiftLeft]
      by_cases h1 : i < 1
      · simp [h1]
      · rw [h (i - 1) (by omega)]
        simp

/-- **The table-driven step** is the bitwise one. -/
theorem table_step (hw : 8 ≤ w) {table : BitVec 8 → BitVec w}
    (ht : ∀ i, table i = bitSteps p 8 (i.setWidth w <<< (w - 8))) (c : BitVec w) (b : BitVec 8) :
    (c <<< 8) ^^^ table ((c >>> (w - 8)).setWidth 8 ^^^ b) = byteStep p c b := by
  let top : BitVec w := ((c >>> (w - 8)).setWidth 8).setWidth w <<< (w - 8)
  -- `top` holds the top byte of the register and nothing else
  have htop (i : Nat) : top.getLsbD i = (decide (w - 8 ≤ i) && c.getLsbD i) := by
    simp only [top, BitVec.getLsbD_shiftLeft, BitVec.getLsbD_setWidth, BitVec.getLsbD_ushiftRight]
    by_cases h8 : i < w - 8
    · simp [h8]
      omega
    · rw [show w - 8 + (i - (w - 8)) = i by omega]
      by_cases hi : i < w
      · simp [h8, hi, show w - 8 ≤ i by omega, show i - (w - 8) < w by omega,
          show i - (w - 8) < 8 by omega]
      · simp [hi, BitVec.getLsbD_of_ge c i (by omega)]
  have hlow : bitSteps p 8 (c ^^^ top) = c <<< 8 := by
    rw [bitSteps_shift]
    · apply BitVec.eq_of_getLsbD_eq
      intro i hi
      simp only [BitVec.getLsbD_shiftLeft, BitVec.getLsbD_xor, htop]
      by_cases h8 : i < 8
      · simp [h8]
      · simp [show ¬ w - 8 ≤ i - 8 by omega]
    · intro i hi
      simp [htop, hi]
  have hsplit : c ^^^ (b.setWidth w <<< (w - 8)) =
      (c ^^^ top) ^^^ (((c >>> (w - 8)).setWidth 8 ^^^ b).setWidth w <<< (w - 8)) := by
    rw [BitVec.setWidth_xor, BitVec.shiftLeft_xor_distrib, ← BitVec.xor_assoc,
      BitVec.xor_assoc c, BitVec.xor_self, BitVec.xor_zero]
  unfold byteStep
  rw [hsplit, bitSteps_xor, hlow, ht]

/-! ## Bit by bit -/

section
variable (p)

/-- one bit of the message: it meets the bit that is shifted out -/
def feedBit (c : BitVec w) (x : Bool) : BitVec w :=
  (c <<< 1) ^^^ (if c.msb ^^ x then p else 0#w)

def feedBits (c : BitVec w) (bits : List Bool) : BitVec w := bits.foldl (feedBit p) c

/-- the bits of a byte, the most significant one first -/
def byteBits (b : BitVec 8) : List Bool := (List.range 8).map fun i => b.getLsbD (7 - i)

theorem byteBits_length (b : BitVec 8) : (byteBits b).length = 8 := rfl

theorem byteBits_getD (b : BitVec 8) (i : Nat) (hi : i < 8) :
    (byteBits b).getD i false = b.getLsbD (7 - i) := by
  simp [byteBits, hi]

/-- a message of at most `w` bits at the top of a register -/
def atTop : List Bool → BitVec w
  | [] => 0#w
  | x :: bits => (if x then BitVec.twoPow w (w - 1) else 0#w) ^^^ (atTop bits >>> 1)

end

theorem getLsbD_atTop (bits : List Bool) (i : Nat) (hi : i < w) :
    (atTop bits : BitVec w).getLsbD i = bits.getD (w - 1 - i) false := by
  induction bits generalizing i with
  | nil => simp [atTop]
  | cons x bits ih =>
    by_cases hlast : i = w - 1
    · have hout : (atTop bits : BitVec w).getLsbD (1 + (w - 1)) = false :=
        BitVec.getLsbD_of_ge _ _ (by omega)
      have htop : w - 1 < w := by omega
      rw [hlast, Nat.sub_self, List.getD_cons_zero]
      cases x with
      | false => simp [atTop, BitVec.getLsbD_ushiftRight, hout]
      | true => simp [atTop, hout, htop]
    · have hnext : w - 1 - i = (w - 1 - (1 + i)) + 1 := by omega
      rw [hnext, List.getD_cons_succ, ← ih (1 + i) (by omega)]
      cases x <;> simp [atTop, BitVec.getLsbD_ushiftRight, BitVec.getLsbD_twoPow, Ne.symm hlast]

theorem atTop_cons_msb (hw : 0 < w) (x : Bool) (bits : List Bool) :
    (atTop (x :: bits) : BitVec w).msb = x := by
  rw [BitVec.msb_eq_getLsbD_last, getLsbD_atTop _ _ (by omega), Nat.sub_self,
    List.getD_cons_zero]

/-- the next bit moves up when the one before it is shifted out -/
theorem atTop_cons_shiftLeft (x : Bool) (bits : List Bool) (h : bits.length < w) :
    (atTop (x :: bits) : BitVec w) <<< 1 = atTop bits := by
  apply BitVec.eq_of_getLsbD_eq
  intro i hi
  rw [getLsbD_atTop _ _ hi, BitVec.getLsbD_shiftLeft]
  cases i with
  | zero =>
    rw [List.getD_eq_getElem?_getD, List.getElem?_eq_none (by omega)]
    simp
  | succ i =>
    have hnext : w - 1 - i = (w - 1 - (i + 1)) + 1 := by omega
    rw [Nat.add_sub_cancel, getLsbD_atTop _ _ (by omega), hnext, List.getD_cons_succ]
    simp [hi]

/-- **While the register has room**, feeding bits is adding them at its top and shifting. -/
theorem feedBits_eq (c : BitVec w) (bits : List Bool) (h : bits.length ≤ w) :
    feedBits p c bits = bitSteps p bits.length (c ^^^ atTop bits) := by
  induction bits generalizing c with
  | nil => exact (BitVec.xor_zero).symm
  | cons x bits ih =>
    rw [List.length_cons] at h
    have hstep : bitStep p (c ^^^ atTop (x :: bits)) = feedBit p c x ^^^ atTop bits := by
      unfold bitStep feedBit
      rw [BitVec.shiftLeft_xor_distrib, atTop_cons_shiftLeft x bits h, BitVec.msb_xor,
        atTop_cons_msb (by omega)]
      ac_rfl
    show feedBits p (feedBit p c x) bits = bitSteps p bits.length (bitStep p _)
    rw [hstep, ih _ (by omega)]

theorem atTop_byteBits (hw : 8 ≤ w) (b : BitVec 8) :
    (atTop (byteBits b) : BitVec w) = b.setWidth w <<< (w - 8) := by
  apply BitVec.eq_of_getLsbD_eq
  intro i hi
  rw [getLsbD_atTop _ _ hi, BitVec.getLsbD_shiftLeft, BitVec.getLsbD_setWidth]
  by_cases htop : w - 8 ≤ i
  · rw [byteBits_getD b _ (by omega), show 7 - (w - 1 - i) = i - (w - 8) by omega]
    simp [hi, htop, show i - (w - 8) < w by omega]
  · rw [List.getD_eq_getElem?_getD, List.getElem?_eq_none (by rw [byteBits_length]; omega)]
    simp [show i < w - 8 by omega]

theorem feedBits_append (c : BitVec w) (a b : List Bool) :
    feedBits p c (a ++ b) = feedBits p (feedBits p c a) b := List.foldl_append

/-- **The bytewise run is the bitwise one.** -/
theorem run_eq_feedBits (hw : 8 ≤ w) (c : BitVec w) (l : List (BitVec 8)) :
    run p c l = feedBits p c (l.flatMap byteBits) := by
  induction l generalizing c with
  | nil => rfl
  | cons b l ih =>
    have hbyte : byteStep p c b = feedBits p c (byteBits b) := by
      rw [feedBits_eq c _ (by rw [byteBits_length]; exact hw), atTop_byteBits hw]
      rfl
    rw [run_cons, ih, hbyte, List.flatMap_cons, feedBits_append]

/-! ## Bursts -/

theorem atTop_eq_zero {bits : List Bool} (hlen : bits.length ≤ w)
    (h : (atTop bits : BitVec w) = 0#w) (x : Bool) (hx : x ∈ bits) : x = false := by
  obtain ⟨i, hi, rfl⟩ := List.mem_iff_getElem.mp hx
  have hbit := getLsbD_atTop (w := w) bits (w - 1 - i) (by omega)
  rw [h, BitVec.getLsbD_zero, show w - 1 - (w - 1 - i) = i by omega,
    List.getD_eq_getElem?_getD, List.getElem?_eq_getElem hi] at hbit
  exact hbit.symm

theorem byteBits_eq_false {b : BitVec 8} (h : ∀ x ∈ byteBits b, x = false) : b = 0#8 := by
  apply BitVec.eq_of_getLsbD_eq
  intro i hi
  have hmem : b.getLsbD i ∈ byteBits b :=
    List.mem_map.mpr ⟨7 - i, List.mem_range.mpr (by omega), by rw [show 7 - (7 - i) = i by omega]⟩
  rw [h _ hmem, BitVec.getLsbD_zero]

theorem flatMap_byteBits_length (l : List (BitVec 8)) :
    (l.flatMap byteBits).length = 8 * l.length := by
  induction l with
  | nil => rfl
  | cons b l ih =>
    rw [List.flatMap_cons, List.length_append, byteBits_length, ih, List.length_cons]
    omega

/-- no more bytes than the register holds leave nothing in it only if they are zero -/
theorem run_of_zero_eq_zero (hp : p.getLsbD 0 = true) (hw : 8 ≤ w) {l : List (BitVec 8)}
    (hl : 8 * l.length ≤ w) (h : run p 0#w l = 0#w) : ∀ b ∈ l, b = 0#8 := by
  have hlen : (l.flatMap byteBits).length ≤ w := by rw [flatMap_byteBits_length]; exact hl
  rw [run_eq_feedBits hw, feedBits_eq _ _ hlen, BitVec.zero_xor] at h
  intro b hb
  refine byteBits_eq_false fun x hx => ?_
  exact atTop_eq_zero hlen (bitSteps_eq_zero hp _ h) x (List.mem_flatMap.mpr ⟨b, hb, hx⟩)

theorem run_append (c : BitVec w) (a b : List (BitVec 8)) :
    run p c (a ++ b) = run p (run p c a) b := List.foldl_append

theorem run_zeros (n : Nat) : run p 0#w (List.replicate n 0#8) = 0#w := by
  have hzero : byteStep p 0#w 0#8 = 0#w := by simpa using byteStep_xor p 0#w 0#w 0#8 0#8
  induction n with
  | zero => rfl
  | succ n ih => rw [List.replicate_succ, run_cons, hzero, ih]

/-- zero bytes around a window -/
theorem eq_burst {e : List (BitVec 8)} (i n : Nat)
    (hout : ∀ j (hj : j < e.length), ¬ (i ≤ j ∧ j < i + n) → e[j] = 0#8) : ∃ a b,
      e = List.replicate a 0#8 ++ ((e.drop i).take n ++ List.replicate b 0#8) := by
  have hbefore : e.take i = List.replicate (e.take i).length 0#8 := by
    refine List.eq_replicate_of_mem fun b hb => ?_
    obtain ⟨j, hj, rfl⟩ := List.mem_iff_getElem.mp hb
    rw [List.length_take] at hj
    rw [List.getElem_take]
    exact hout j (by omega) (by omega)
  have hbehind : (e.drop i).drop n = List.replicate ((e.drop i).drop n).length 0#8 := by
    refine List.eq_replicate_of_mem fun b hb => ?_
    obtain ⟨j, hj, rfl⟩ := List.mem_iff_getElem.mp hb
    rw [List.length_drop, List.length_drop] at hj
    rw [List.getElem_drop, List.getElem_drop]
    exact hout _ (by omega) (by omega)
  refine ⟨(e.take i).length, ((e.drop i).drop n).length, ?_⟩
  rw [← hbefore, ← hbehind, List.take_append_drop, List.take_append_drop]

/-- a message that is zero but for as many bytes as the register holds -/
theorem run_burst_zero (hp : p.getLsbD 0 = true) (hw : 8 ≤ w) {e : List (BitVec 8)} (i n : Nat)
    (hn : 8 * n ≤ w)
    (hout : ∀ j (hj : j < e.length), ¬ (i ≤ j ∧ j < i + n) → e[j] = 0#8)
    (h : run p 0#w e = 0#w) (j : Nat) (hj : j < e.length) : e[j] = 0#8 := by
  obtain ⟨a, b, he⟩ := eq_burst i n hout
  rw [he, run_append, run_append, run_zeros] at h
  have hin : ∀ b ∈ (e.drop i).take n, b = 0#8 :=
    run_of_zero_eq_zero hp hw (by rw [List.length_take]; omega) (run_zeros_eq_zero hp _ h)
  by_cases hwin : i ≤ j ∧ j < i + n
  · refine hin _ (List.mem_iff_getElem.mpr ⟨j - i, ?_, ?_⟩)
    · rw [List.length_take, List.length_drop]
      omega
    · rw [List.getElem_take, List.getElem_drop]
      congr 1
      omega
  · exact hout j hj hwin

/-- **Bursts**: two messages that differ within as many bytes as the register holds have
different remainders, from any register. -/
theorem run_burst (hp : p.getLsbD 0 = true) (hw : 8 ≤ w) {l m : List (BitVec 8)}
    (hlen : l.length = m.length) (i n : Nat) (hn : 8 * n ≤ w)
    (hburst : ∀ j, l[j]? ≠ m[j]? → i ≤ j ∧ j < i + n) (c : BitVec w)
    (h : run p c l = run p c m) : l = m := by
  let e := List.zipWith (· ^^^ ·) l m
  have helen : e.length = l.length := by simp [e, hlen]
  have he (j : Nat) (hj : j < e.length) (hl : j < l.length) (hm : j < m.length) :
      e[j] = l[j] ^^^ m[j] := List.getElem_zipWith
  have hrun : run p 0#w e = 0#w := by
    have hx := run_xor p c c l m hlen
    rw [BitVec.xor_self, h, BitVec.xor_self] at hx
    exact hx
  have hout (j : Nat) (hj : j < e.length) (hwin : ¬ (i ≤ j ∧ j < i + n)) : e[j] = 0#8 := by
    have hl : j < l.length := helen ▸ hj
    have hm : j < m.length := hlen ▸ hl
    have hsame := Classical.not_not.mp (mt (hburst j) hwin)
    rw [List.getElem?_eq_getElem hl, List.getElem?_eq_getElem hm] at hsame
    rw [he j hj hl hm, Option.some.inj hsame, BitVec.xor_self]
  apply List.ext_getElem hlen
  intro j hl hm
  have hj : j < e.length := helen ▸ hl
  have hzero := run_burst_zero hp hw i n hn hout hrun j hj
  rw [he j hj hl hm] at hzero
  exact BitVec.xor_eq_zero_iff.mp hzero

end QMon.Crc
