import QMonstatek.Protocol.ByteStream

/-!
# Payloads above the maximum

`buildFrame` casts the length to 16 bits and writes so many bytes, `sendCommand` and its callers
set no limit.  What a receiver makes of the bytes depends on the cast length alone: up to 8192 it
is a frame with a part of the payload, above it the header is dropped and the bytes behind it are
read as a stream of their own, in which there may be a frame (`HoldsFrame`).
-/

namespace QMon.Rpc

/-- a frame, behind filler, headers with too large a LEN and images with a wrong CRC -/
inductive HoldsFrame : List UInt8 → Prop where
  | frame (d : CrcDialect) (g : Frame) (l : List UInt8) (h : g.payload.length ≤ 8192) :
      HoldsFrame (buildFrame d g ++ l)
  | filler {b l} (h : b ≠ SYNC_BYTE) (next : HoldsFrame l) : HoldsFrame (b :: l)
  | tooLong {cmd seq lo hi l} (h : 8192 < (ofLe16 lo hi).toNat) (next : HoldsFrame l) :
      HoldsFrame (SYNC_BYTE :: cmd :: seq :: lo :: hi :: l)
  | wrongCrc {cmd seq payload lo hi l} (h : payload.length ≤ 8192)
      (hcrc : ∀ d : CrcDialect,
        d.crc (frameHeader cmd seq (UInt16.ofNat payload.length) ++ payload) ≠ ofLe16 lo hi)
      (next : HoldsFrame l) : HoldsFrame (image cmd seq payload lo hi ++ l)

/-- the signals are a function of the stream -/
theorem ByteStream.unique {l : List UInt8} {sigs sigs' : List CodecSignal}
    (h : ByteStream l sigs) (h' : ByteStream l sigs') : sigs = sigs' := by
  have e := feed_byteStream h (r := {}) rfl
  rw [feed_byteStream h' rfl] at e
  exact (List.append_cancel_left e).symm

theorem imageSignal_wrongCrc {cmd seq lo hi : UInt8} {payload : List UInt8}
    (h : ∀ d : CrcDialect,
      d.crc (frameHeader cmd seq (UInt16.ofNat payload.length) ++ payload) ≠ ofLe16 lo hi) :
    imageSignal cmd seq payload lo hi = .frameCrcError cmd seq := by
  unfold imageSignal verdict
  refine if_neg fun hv => ?_
  rcases (crc16ValidateRx_fst _ _ _).mp hv with e | e
  · exact h .Correct e
  · exact h .Legacy e

theorem ByteStream.holdsFrame {l : List UInt8} {sigs : List CodecSignal} (h : ByteStream l sigs)
    {g : Frame} (hg : .frameReady g ∈ sigs) : HoldsFrame l := by
  induction h with
  | rest _ => exact absurd hg List.not_mem_nil
  | filler hb _ ih => exact .filler hb (ih hg)
  | tooLong hbig _ ih => exact .tooLong hbig (ih hg)
  | @image cmd seq payload lo hi l sigs hlen _ ih =>
    let body := frameHeader cmd seq (UInt16.ofNat payload.length) ++ payload
    by_cases hcrc : ∀ d : CrcDialect, d.crc body ≠ ofLe16 lo hi
    · rcases List.mem_cons.mp hg with hnow | hlater
      · rw [imageSignal_wrongCrc hcrc] at hnow
        exact absurd hnow nofun
      · exact .wrongCrc hlen hcrc (ih hlater)
    · obtain ⟨d, hd⟩ := Classical.not_forall_not.mp hcrc
      have hframe : buildFrame d ⟨cmd, seq, payload⟩ = Rpc.image cmd seq payload lo hi :=
        buildFrame_of_crc hlen hd
      rw [← hframe]
      exact .frame d _ l hlen

/-- a stream that holds a frame is read up to it -/
theorem HoldsFrame.byteStream {l : List UInt8} (h : HoldsFrame l) :
    ∃ sigs g, ByteStream l sigs ∧ .frameReady g ∈ sigs := by
  induction h with
  | frame d g l h =>
    obtain ⟨lo, hi, himage, hsig⟩ := buildFrame_image d g h
    obtain ⟨sigs, hl⟩ := byteStream_total l
    rw [himage]
    refine ⟨_, g, .image h hl, ?_⟩
    rw [hsig]
    exact List.mem_cons_self
  | filler hb _ ih =>
    obtain ⟨sigs, g, hl, hg⟩ := ih
    exact ⟨sigs, g, .filler hb hl, hg⟩
  | tooLong hbig _ ih =>
    obtain ⟨sigs, g, hl, hg⟩ := ih
    exact ⟨sigs, g, .tooLong hbig hl, hg⟩
  | wrongCrc hlen _ _ ih =>
    obtain ⟨sigs, g, hl, hg⟩ := ih
    exact ⟨_, g, .image hlen hl, List.mem_cons_of_mem _ hg⟩

theorem ByteStream.holdsFrame_iff {l : List UInt8} {sigs : List CodecSignal}
    (h : ByteStream l sigs) : (∃ g, .frameReady g ∈ sigs) ↔ HoldsFrame l := by
  constructor
  · rintro ⟨g, hg⟩
    exact h.holdsFrame hg
  · intro hl
    obtain ⟨sigs', g, hl', hg⟩ := hl.byteStream
    rw [h.unique hl']
    exact ⟨g, hg⟩

/-! ## What becomes of a command -/

def CodecSignal.frame? : CodecSignal → Option Frame
  | .frameReady g => some g
  | .frameCrcError _ _ => none

/-- the first frame read has the payload of the command; a command that is too long is not read
as a frame at all -/
structure Unaltered (f : Frame) (sigs : List CodecSignal) : Prop where
  first : ∀ g, sigs.findSome? CodecSignal.frame? = some g → g.payload = f.payload
  tooLong : 8192 < f.payload.length → ∀ g, .frameReady g ∉ sigs

/-- the frame with as much of the payload as the cast length says -/
def Frame.written (f : Frame) : Frame :=
  { f with payload := f.payload.take (f.payload.length % 65536) }

/-- the bytes behind the header: so much of the payload, and the CRC -/
def Frame.behindHeader (d : CrcDialect) (f : Frame) : List UInt8 :=
  f.written.payload ++ le16 (d.crc
    (frameHeader f.cmd f.seq (UInt16.ofNat f.payload.length) ++ f.written.payload))

theorem Frame.written_length (f : Frame) :
    f.written.payload.length = f.payload.length % 65536 := by
  show (f.payload.take (f.payload.length % 65536)).length = _
  rw [List.length_take]
  exact Nat.min_eq_left (Nat.mod_le _ _)

/-- the cast loses the rest of the payload before anything is written -/
theorem buildFrame_behindHeader (d : CrcDialect) (f : Frame) :
    buildFrame d f = SYNC_BYTE ::
      frameHeader f.cmd f.seq (UInt16.ofNat f.payload.length) ++ f.behindHeader d := by
  have hn : (UInt16.ofNat f.payload.length).toNat = f.payload.length % 65536 :=
    UInt16.toNat_ofNat'
  have htake : f.payload.take (UInt16.ofNat f.payload.length).toNat = f.written.payload := by
    rw [hn]
    rfl
  unfold buildFrame buildFrameRaw Frame.behindHeader
  rw [htake]
  simp

theorem buildFrame_written (d : CrcDialect) (f : Frame) :
    buildFrame d f = buildFrame d f.written := by
  have hcast : UInt16.ofNat f.written.payload.length = UInt16.ofNat f.payload.length := by
    apply UInt16.toNat_inj.mp
    rw [UInt16.toNat_ofNat', UInt16.toNat_ofNat', f.written_length]
    omega
  have hagain : f.written.written = f.written := by
    have hall : f.written.payload.take (f.written.payload.length % 65536) =
        f.written.payload :=
      List.take_of_length_le (Nat.le_of_eq (by rw [f.written_length, Nat.mod_mod]))
    unfold Frame.written at hall ⊢
    simp only [hall]
  rw [buildFrame_behindHeader, buildFrame_behindHeader d f.written]
  unfold Frame.behindHeader
  rw [hagain, hcast]
  rfl

/-- a cast length above the maximum: the bytes behind the header are what is read -/
theorem buildFrame_tooLong (d : CrcDialect) (f : Frame) (h : 8192 < f.payload.length % 65536)
    {sigs : List CodecSignal} (hnext : ByteStream (f.behindHeader d) sigs) :
    ByteStream (buildFrame d f) sigs := by
  obtain ⟨lo, hi, -, hback⟩ := le16_bytes (UInt16.ofNat f.payload.length)
  rw [buildFrame_behindHeader, ← hback, frameHeader_ofLe16]
  refine .tooLong ?_ hnext
  rw [hback, UInt16.toNat_ofNat']
  exact h

/-- a command that is too long must leave no frame at all -/
theorem unaltered_iff_of_tooLong {f : Frame} (hlong : 8192 < f.payload.length)
    (sigs : List CodecSignal) : Unaltered f sigs ↔ ¬ ∃ g, .frameReady g ∈ sigs := by
  constructor
  · rintro h ⟨g, hg⟩
    exact h.tooLong hlong g hg
  · intro hnone
    refine ⟨fun g hg => ?_, fun _ g hg => hnone ⟨g, hg⟩⟩
    obtain ⟨sig, hmem, hsome⟩ := List.exists_of_findSome?_eq_some hg
    cases sig with
    | frameReady g' => exact absurd ⟨g', hmem⟩ hnone
    | frameCrcError cmd seq => exact absurd hsome nofun

/-- a payload that fits comes back whole -/
theorem unaltered_of_fits (d : CrcDialect) {f : Frame} (s : CrcSession)
    (h : f.payload.length ≤ 8192) :
    Unaltered f (Receiver.feed { session := s } (buildFrame d f)).signals := by
  obtain ⟨-, hsig⟩ := feed_buildFrame { session := s } rfl d f h
  rw [hsig]
  refine ⟨fun g hg => ?_, fun hlong => absurd hlong (Nat.not_lt.mpr h)⟩
  rw [← Option.some.inj hg]

/-- a cast length that fits makes a frame of the payload's beginning -/
theorem emitted_of_cast_fits (d : CrcDialect) {f : Frame} (s : CrcSession)
    (h : f.payload.length % 65536 ≤ 8192) :
    .frameReady f.written ∈ (Receiver.feed { session := s } (buildFrame d f)).signals := by
  have hle : f.written.payload.length ≤ 8192 := f.written_length ▸ h
  obtain ⟨-, hsig⟩ := feed_buildFrame { session := s } rfl d f.written hle
  rw [buildFrame_written, hsig]
  exact List.mem_append_right _ List.mem_cons_self

/-- a cast length above the maximum leaves what is behind the header -/
theorem emitted_iff_of_cast_tooLong (d : CrcDialect) {f : Frame} (s : CrcSession)
    (h : 8192 < f.payload.length % 65536) :
    (∃ g, .frameReady g ∈ (Receiver.feed { session := s } (buildFrame d f)).signals) ↔
      HoldsFrame (f.behindHeader d) := by
  obtain ⟨sigs, hstream⟩ := byteStream_total (f.behindHeader d)
  have hsig := feed_byteStream (buildFrame_tooLong d f h hstream) (r := { session := s }) rfl
  rw [hsig, ← hstream.holdsFrame_iff]
  rfl

/-- **A command is read unaltered, or not at all**, iff its payload fits, or it is too long after
the cast as well and the bytes behind the header hold no frame. -/
theorem buildFrame_unaltered_iff (d : CrcDialect) (f : Frame) (s : CrcSession) :
    Unaltered f (Receiver.feed { session := s } (buildFrame d f)).signals ↔
      f.payload.length ≤ 8192 ∨
        (8192 < f.payload.length % 65536 ∧ ¬ HoldsFrame (f.behindHeader d)) := by
  by_cases hfits : f.payload.length ≤ 8192
  · exact iff_of_true (unaltered_of_fits d s hfits) (.inl hfits)
  · rw [unaltered_iff_of_tooLong (Nat.lt_of_not_le hfits)]
    by_cases hcast : 8192 < f.payload.length % 65536
    · rw [emitted_iff_of_cast_tooLong d s hcast]
      constructor
      · intro h
        exact .inr ⟨hcast, h⟩
      · rintro (h | ⟨-, h⟩)
        · exact absurd h hfits
        · exact h
    · have hmem := emitted_of_cast_fits d s (Nat.le_of_not_lt hcast)
      refine iff_of_false (fun h => h ⟨_, hmem⟩) ?_
      rintro (h | ⟨h, -⟩)
      · exact hfits h
      · exact hcast h

/-- a command line of 65537 characters is a valid frame with the first of them -/
theorem buildFrame_altered :
    let f : Frame := ⟨0x60, 0, List.replicate 65537 0x61⟩
    (Receiver.feed {} (buildFrame .Correct f)).signals = [.frameReady ⟨0x60, 0, [0x61]⟩] ∧
      ¬ Unaltered f (Receiver.feed {} (buildFrame .Correct f)).signals := by
  intro f
  have hlen : f.payload.length = 65537 := List.length_replicate
  have hwritten : f.written = ⟨0x60, 0, [0x61]⟩ := by
    unfold Frame.written
    rw [hlen]
    show (⟨0x60, 0, (List.replicate 65537 0x61).take 1⟩ : Frame) = _
    rw [List.take_replicate]
    rfl
  obtain ⟨-, hsig⟩ := feed_buildFrame {} rfl .Correct ⟨0x60, 0, [0x61]⟩ (by decide)
  rw [buildFrame_written, hwritten]
  refine ⟨hsig, fun h => ?_⟩
  rw [hsig] at h
  exact h.tooLong (by rw [hlen]; decide) _ List.mem_cons_self

end QMon.Rpc
