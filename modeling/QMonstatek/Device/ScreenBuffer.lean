import QMonstatek.Lib.Raster

/-!
# The framebuffer of the M1's screen

`screen_buffer.cpp`: 128 by 64 points in u8g2's tile layout, 1024 bytes, shown on a `QImage` of
512 by 256 points.

`ScreenBuffer.update`, `pixel`, `toNativeImage`, `toImage` are the source's functions;
`Picture` is what is on the screen, `Picture.fb` its framebuffer and `Picture.image` what a viewer
sees of it.  `toImage_fb` connects them.
-/

namespace QMon.Device
open Raster

abbrev WIDTH : Nat := 128
abbrev HEIGHT : Nat := 64
abbrev FB_SIZE : Nat := WIDTH * HEIGHT / 8
abbrev SCALE : Nat := 4
abbrev DISPLAY_WIDTH : Nat := WIDTH * SCALE
abbrev DISPLAY_HEIGHT : Nat := HEIGHT * SCALE

/-- `0xAARRGGBB` -/
abbrev QRgb := UInt32

abbrev NativeImage := Image QRgb WIDTH HEIGHT
abbrev QImage := Image QRgb DISPLAY_WIDTH DISPLAY_HEIGHT

structure ScreenBuffer where
  buffer : Vector UInt8 FB_SIZE := Vector.replicate FB_SIZE 0
  /-- green LCD phosphor -/
  fgColor : QRgb := 0xFF00FF66
  /-- near-black -/
  bgColor : QRgb := 0xFF0A0A0A

namespace ScreenBuffer

def update (data : List UInt8) (b : ScreenBuffer) : ScreenBuffer × Bool :=
  if h : data.length ≠ FB_SIZE then (b, false)
  else ({ b with buffer := ⟨data.toArray, not_not.mp h⟩ }, true)

theorem byte_idx_lt {x y : Int} (h : ¬ (x < 0 ∨ x ≥ WIDTH ∨ y < 0 ∨ y ≥ HEIGHT)) :
    y.toNat / 8 * WIDTH + x.toNat < FB_SIZE := by
  simp only [WIDTH, HEIGHT, FB_SIZE] at h ⊢
  omega

def pixel (x y : Int) (b : ScreenBuffer) : Bool :=
  if h : x < 0 ∨ x ≥ WIDTH ∨ y < 0 ∨ y ≥ HEIGHT then false
  else
    let bit_pos := y.toNat % 8
    let byte := b.buffer.get ⟨y.toNat / 8 * WIDTH + x.toNat, byte_idx_lt h⟩
    (byte.toNat >>> bit_pos) &&& 1 != 0

def toNativeImage (b : ScreenBuffer) : NativeImage :=
  rows fun x y => if b.pixel x.1 y.1 then b.fgColor else b.bgColor

def toImage (b : ScreenBuffer) : QImage :=
  scaled DISPLAY_WIDTH DISPLAY_HEIGHT (by decide) (by decide) b.toNativeImage

end ScreenBuffer

/-! ## What is on the screen -/

abbrev Picture := Raster.Picture WIDTH HEIGHT

/-- eight tile rows of 128 bytes, the low bit of a byte on top -/
def layout : Picture ≃ Vector UInt8 FB_SIZE := packed WIDTH 8

/-- the framebuffer of a picture -/
def Picture.fb (pic : Picture) : List UInt8 := (layout pic).toList

/-- each point is a square of 4 by 4, lit or not -/
def Picture.image (fg bg : QRgb) (pic : Picture) : QImage :=
  rows fun i j => if pic (under i) (under j) then fg else bg

/-- the picture in a payload of the right size -/
def Picture.read (data : List UInt8) : Option Picture :=
  if h : data.length = FB_SIZE then some (layout.symm ⟨data.toArray, h⟩) else none

theorem Picture.length_fb (pic : Picture) : pic.fb.length = FB_SIZE := Vector.length_toList

theorem toVector_toList {α : Type} {n : Nat} (v : Vector α n) (h : v.toList.toArray.size = n) :
    Vector.mk v.toList.toArray h = v := Vector.toArray_inj.mp rfl

/-- the bytes of a framebuffer are its picture's -/
theorem layout_symm_fb (pic : Picture) (h : pic.fb.toArray.size = FB_SIZE) :
    layout.symm ⟨pic.fb.toArray, h⟩ = pic :=
  (congrArg layout.symm (toVector_toList (layout pic) h)).trans (layout.symm_apply_apply pic)

theorem Picture.read_fb (pic : Picture) : Picture.read pic.fb = some pic := by
  unfold Picture.read
  split
  · rw [layout_symm_fb]
  · rename_i hsize
    exact absurd pic.length_fb hsize

theorem Picture.read_eq_some {data : List UInt8} {pic : Picture} :
    Picture.read data = some pic ↔ data = pic.fb := by
  constructor
  · intro h
    unfold Picture.read at h
    split at h
    · rw [← Option.some.inj h]
      unfold Picture.fb
      rw [Equiv.apply_symm_apply, Vector.toList_mk]
    · cases h
  · intro h
    rw [h, Picture.read_fb]

/-- every payload of the right size is the framebuffer of a picture -/
theorem Picture.exists_fb {data : List UInt8} (h : data.length = FB_SIZE) :
    ∃ pic : Picture, data = pic.fb := by
  refine ⟨layout.symm ⟨data.toArray, h⟩, Picture.read_eq_some.mp ?_⟩
  unfold Picture.read
  rw [dif_pos h]

theorem Picture.image_inj {fg bg : QRgb} (h : fg ≠ bg) {p q : Picture}
    (heq : p.image fg bg = q.image fg bg) : p = q := by
  have hlit : (fun x y => if p x y then fg else bg) = fun x y => if q x y then fg else bg :=
    enlarged_inj (by decide) heq
  funext x y
  have hpoint : (if p x y then fg else bg) = if q x y then fg else bg :=
    congrFun (congrFun hlit x) y
  cases hp : p x y <;> cases hq : q x y <;> simp_all

/-! ## The buffer shows what is in it -/

namespace ScreenBuffer

theorem pixel_eq (b : ScreenBuffer) (x : Fin WIDTH) (y : Fin HEIGHT) :
    b.pixel x.1 y.1 = layout.symm b.buffer x y := by
  have hx := x.isLt
  have hy := y.isLt
  have hrange : ¬ ((x.1 : Int) < 0 ∨ (x.1 : Int) ≥ WIDTH ∨ (y.1 : Int) < 0 ∨
      (y.1 : Int) ≥ HEIGHT) := by
    omega
  unfold pixel
  rw [dif_neg hrange]
  show (_ &&& 1 != 0) = ((b.buffer.get ⟨y.1 / 8 * WIDTH + x, _⟩).toNat.testBit (y % 8))
  unfold Nat.testBit
  rw [Nat.and_comm]
  rfl

theorem toImage_eq (b : ScreenBuffer) :
    b.toImage = Picture.image b.fgColor b.bgColor (layout.symm b.buffer) := by
  unfold toImage toNativeImage Picture.image
  rw [scaled_rows]
  apply rows_inj.mpr
  funext i j
  rw [pixel_eq]

/-- **A framebuffer is shown as it is.** -/
theorem toImage_fb (b : ScreenBuffer) (pic : Picture) :
    (b.update pic.fb).1.toImage = pic.image b.fgColor b.bgColor ∧
      (b.update pic.fb).2 = true := by
  have hsize : ¬ pic.fb.length ≠ FB_SIZE := not_not.mpr pic.length_fb
  unfold update
  rw [dif_neg hsize]
  refine ⟨?_, rfl⟩
  rw [toImage_eq]
  rw [layout_symm_fb]

theorem update_of_read_none {b : ScreenBuffer} {data : List UInt8}
    (h : Picture.read data = none) : b.update data = (b, false) := by
  unfold update
  rw [dif_pos]
  intro hsize
  unfold Picture.read at h
  rw [dif_pos hsize] at h
  cases h

theorem update_colors (b : ScreenBuffer) (data : List UInt8) :
    (b.update data).1.fgColor = b.fgColor ∧ (b.update data).1.bgColor = b.bgColor := by
  unfold update
  split <;> exact ⟨rfl, rfl⟩

end ScreenBuffer

end QMon.Device
