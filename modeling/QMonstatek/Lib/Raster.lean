import Mathlib.Data.Nat.Init
import Mathlib.Logic.Equiv.Defs
import Mathlib.Tactic.Common

/-!
# Black and white pictures, packed and enlarged

`byteOf f`, `bit b i`   a byte from its eight bits, low bit first, and back;
`pack`, `point`         a picture `w` wide and `n * 8` high as `n` rows of `w` bytes, each byte a
                        column of eight points, and one point read back: `packed` is the
                        equivalence;
`rows f`                the image with point `f x y` at `x` of line `y`;
`scaled`                nearest-neighbour scaling, by the source point under the centre of each
                        target point (`nearest`).

`scaled_rows` is the scaling by a whole factor, and `enlarged_inj` says that it loses no point.
-/

namespace QMon.Raster

/-! ## Bytes -/

def bit (b : UInt8) (i : Nat) : Bool := b.toNat.testBit i

def byteOf (f : Fin 8 → Bool) : UInt8 := UInt8.ofNat (Nat.ofBits f)

theorem toNat_byteOf (f : Fin 8 → Bool) : (byteOf f).toNat = Nat.ofBits f := by
  unfold byteOf
  rw [UInt8.toNat_ofNat', Nat.mod_eq_of_lt (Nat.ofBits_lt_two_pow f)]

theorem bit_byteOf (f : Fin 8 → Bool) {i : Nat} (h : i < 8) : bit (byteOf f) i = f ⟨i, h⟩ := by
  unfold bit
  rw [toNat_byteOf, Nat.testBit_ofBits_lt f i h]

theorem byteOf_bit (b : UInt8) : byteOf (fun i => bit b i) = b := by
  apply UInt8.toNat_inj.mp
  rw [toNat_byteOf]
  unfold bit
  rw [Nat.ofBits_testBit, Nat.mod_eq_of_lt b.toNat_lt]

/-! ## Pictures -/

/-- `w` points across and `h` down -/
abbrev Picture (w h : Nat) := Fin w → Fin h → Bool

variable {w n : Nat}

theorem byte_lt {x y : Nat} (hx : x < w) (hy : y < n * 8) : y / 8 * w + x < n * w := by
  have hrow : y / 8 + 1 ≤ n := by omega
  calc y / 8 * w + x < y / 8 * w + w := by omega
    _ = (y / 8 + 1) * w := (Nat.succ_mul _ _).symm
    _ ≤ n * w := Nat.mul_le_mul_right w hrow

theorem row_lt {i : Nat} (h : i < n * w) (k : Fin 8) : i / w * 8 + k < n * 8 := by
  have hrow : i / w < n := Nat.div_lt_of_lt_mul (by rw [Nat.mul_comm]; exact h)
  have hk := k.isLt
  omega

theorem column_lt {i : Nat} (h : i < n * w) : i % w < w :=
  Nat.mod_lt i (Nat.pos_of_ne_zero fun hw => by simp [hw] at h)

def pack (pic : Picture w (n * 8)) : Vector UInt8 (n * w) :=
  Vector.ofFn fun i => byteOf fun k =>
    pic ⟨i % w, column_lt i.isLt⟩ ⟨i / w * 8 + k, row_lt i.isLt k⟩

def point (v : Vector UInt8 (n * w)) : Picture w (n * 8) := fun x y =>
  bit (v.get ⟨y / 8 * w + x, byte_lt x.isLt y.isLt⟩) (y % 8)

theorem get_pack (pic : Picture w (n * 8)) (i : Fin (n * w)) :
    (pack pic).get i = byteOf fun k =>
      pic ⟨i % w, column_lt i.isLt⟩ ⟨i / w * 8 + k, row_lt i.isLt k⟩ := by
  show (pack pic)[i.1] = _
  unfold pack
  rw [Vector.getElem_ofFn]

/-- **A picture is read back from its bytes.** -/
theorem point_pack (pic : Picture w (n * 8)) : point (pack pic) = pic := by
  funext x y
  have hcolumn : (y.1 / 8 * w + x) % w = x := by
    rw [Nat.mul_comm, Nat.mul_add_mod, Nat.mod_eq_of_lt x.isLt]
  have hrow : (y.1 / 8 * w + x) / w = y / 8 := by
    rw [Nat.mul_comm, Nat.mul_add_div (Nat.zero_lt_of_lt x.isLt), Nat.div_eq_of_lt x.isLt,
      Nat.add_zero]
  unfold point
  rw [get_pack, bit_byteOf _ (Nat.mod_lt _ (by decide))]
  have hpoint : (y.1 / 8 * w + x) / w * 8 + y % 8 = y := by
    rw [hrow]
    omega
  exact congr (congrArg pic (Fin.ext hcolumn)) (Fin.ext hpoint)

/-- **Bytes are packed again from their picture.** -/
theorem pack_point (v : Vector UInt8 (n * w)) : pack (point v) = v := by
  apply Vector.ext
  intro i hi
  have hbyte (k : Fin 8) : (i / w * 8 + k) / 8 * w + i % w = i := by
    have hdiv : (i / w * 8 + k) / 8 = i / w := by omega
    rw [hdiv, Nat.mul_comm]
    exact Nat.div_add_mod i w
  have hbits : (fun k : Fin 8 => point v ⟨i % w, column_lt hi⟩ ⟨i / w * 8 + k, row_lt hi k⟩) =
      fun k : Fin 8 => bit v[i] k := by
    funext k
    have hk : (i / w * 8 + k.1) % 8 = k := by omega
    unfold point
    dsimp only
    rw [hk]
    congr 1
    exact congrArg v.get (Fin.ext (hbyte k))
  unfold pack
  rw [Vector.getElem_ofFn, hbits, byteOf_bit]

def packed (w n : Nat) : Picture w (n * 8) ≃ Vector UInt8 (n * w) :=
  ⟨pack, point, point_pack, pack_point⟩

/-! ## Images -/

abbrev Image (α : Type*) (w h : Nat) := Vector (Vector α w) h

section
variable {α : Type*} {h : Nat}

/-- the image whose point `x` of line `y` is `f x y` -/
def rows (f : Fin w → Fin h → α) : Image α w h := Vector.ofFn fun y => Vector.ofFn fun x => f x y

theorem rows_get (f : Fin w → Fin h → α) (x : Fin w) (y : Fin h) :
    ((rows f).get y).get x = f x y := by
  show ((rows f)[y.1])[x.1] = _
  unfold rows
  rw [Vector.getElem_ofFn, Vector.getElem_ofFn]

theorem rows_inj {f g : Fin w → Fin h → α} : rows f = rows g ↔ f = g := by
  constructor
  · intro heq
    funext x y
    rw [← rows_get f x y, heq, rows_get g x y]
  · exact congrArg rows

/-- the source index under the centre of target index `i`, from `n` indices to `m` -/
def nearest (n m i : Nat) : Nat := (2 * i + 1) * n / (2 * m)

theorem nearest_lt {n m i : Nat} (hn : 0 < n) (hi : i < m) : nearest n m i < n := by
  unfold nearest
  apply Nat.div_lt_of_lt_mul
  exact Nat.mul_lt_mul_of_pos_right (by omega) hn

theorem nearest_mul {n : Nat} (hn : 0 < n) (k i : Nat) : nearest n (n * k) i = i / k := by
  unfold nearest
  rw [Nat.mul_left_comm, Nat.mul_comm, Nat.mul_div_mul_left _ _ hn, ← Nat.div_div_eq_div_mul]
  congr 1
  omega

/-- nearest-neighbour scaling -/
def scaled (w' h' : Nat) (hw : 0 < w) (hh : 0 < h) (img : Image α w h) : Image α w' h' :=
  rows fun i j => (img.get ⟨nearest h h' j, nearest_lt hh j.isLt⟩).get
    ⟨nearest w w' i, nearest_lt hw i.isLt⟩

variable {k : Nat}

/-- the point that covers the point `i` of a picture `k` times as large -/
def under (i : Fin (n * k)) : Fin n :=
  ⟨i / k, Nat.div_lt_of_lt_mul (Nat.lt_of_lt_of_eq i.isLt (Nat.mul_comm n k))⟩

/-- **Every point becomes a square**, `k` wide and `k` high. -/
theorem scaled_rows (hw : 0 < w) (hh : 0 < h) (f : Fin w → Fin h → α) :
    scaled (w * k) (h * k) hw hh (rows f) = rows fun i j => f (under i) (under j) := by
  unfold scaled
  apply rows_inj.mpr
  funext i j
  rw [rows_get]
  exact congr (congrArg f (Fin.ext (nearest_mul hw k i))) (Fin.ext (nearest_mul hh k j))

/-- no point is lost -/
theorem under_surjective (hk : 0 < k) (x : Fin n) : ∃ i : Fin (n * k), under i = x :=
  ⟨⟨x * k, Nat.mul_lt_mul_of_pos_right x.isLt hk⟩, Fin.ext (Nat.mul_div_cancel x hk)⟩

theorem enlarged_inj (hk : 0 < k) {f g : Fin w → Fin h → α}
    (heq : (rows fun (i : Fin (w * k)) (j : Fin (h * k)) => f (under i) (under j)) =
      rows fun i j => g (under i) (under j)) : f = g := by
  funext x y
  obtain ⟨i, rfl⟩ := under_surjective hk x
  obtain ⟨j, rfl⟩ := under_surjective hk y
  exact congrFun (congrFun (rows_inj.mp heq) i) j

end

end QMon.Raster
