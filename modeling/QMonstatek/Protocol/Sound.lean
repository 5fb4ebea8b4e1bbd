import QMonstatek.Protocol.RoundTrip
import Mathlib.Data.List.Forall2

/-!
# Whatever the codec emits was in the stream

`Image bytes sig`       `bytes` is one complete image and `sig` what its CRC check says;
`Explained input sigs`  `input` splits into gaps and images, one image per signal, in order.

`Parsed` is the invariant of `processByte`: the bytes read so far are explained up to a tail, and
the buffers hold the part of the tail that belongs to the image being read.
-/

namespace QMon.Rpc

/-- a complete image, the signal it gives and what re-encoding it gives back -/
def Image (bytes : List UInt8) (sig : CodecSignal) : Prop :=
  ∃ (cmd seq : UInt8) (payload : List UInt8) (lo hi : UInt8), payload.length ≤ 8192 ∧
    (let body := frameHeader cmd seq (UInt16.ofNat payload.length) ++ payload
     let crc := ofLe16 lo hi
     bytes = SYNC_BYTE :: body ++ [lo, hi] ∧
     ((CrcDialect.crc .Correct body = crc ∨ CrcDialect.crc .Legacy body = crc) →
        sig = .frameReady ⟨cmd, seq, payload⟩) ∧
     (¬ (CrcDialect.crc .Correct body = crc ∨ CrcDialect.crc .Legacy body = crc) →
        sig = .frameCrcError cmd seq) ∧
     ∀ d : CrcDialect, d.crc body = crc → buildFrame d ⟨cmd, seq, payload⟩ = bytes)

/-- the input is a list of gaps, each followed by the image of one signal, and a rest -/
def Explained (input : List UInt8) (sigs : List CodecSignal) : Prop :=
  ∃ (parts : List (List UInt8 × List UInt8)) (tail : List UInt8),
    input = parts.flatMap (fun p => p.1 ++ p.2) ++ tail ∧
      List.Forall₂ (fun p sig => Image p.2 sig) parts sigs

theorem image_verdict (cmd seq : UInt8) (payload : List UInt8) (hlen : payload.length ≤ 8192)
    (lo hi : UInt8) :
    let body := frameHeader cmd seq (UInt16.ofNat payload.length) ++ payload
    Image (SYNC_BYTE :: body ++ [lo, hi]) (verdict cmd seq payload body (ofLe16 lo hi)) := by
  intro body
  refine ⟨cmd, seq, payload, lo, hi, hlen, rfl, fun h => ?_, fun h => ?_, fun d hd => ?_⟩
  · have hv := (crc16ValidateRx_fst body (ofLe16 lo hi) {}).mpr h
    simp only [verdict, body] at hv ⊢
    rw [if_pos hv]
  · have hv := mt (crc16ValidateRx_fst body (ofLe16 lo hi) {}).mp h
    simp only [verdict, body] at hv ⊢
    rw [if_neg hv]
  · exact buildFrame_of_crc hlen hd

/-! ## The invariant -/

/-- the header buffer holds CMD, SEQ and LEN as parsed, and LEN was accepted -/
def FrameCodec.HeaderRead (c : FrameCodec) : Prop :=
  c.headerBuf = frameHeader c.cmd c.seq c.payloadLen ∧ c.payloadLen.toNat ≤ 8192

/-- how the buffers match the unexplained tail of the input -/
def FrameCodec.Holds (c : FrameCodec) (tail : List UInt8) : Prop :=
  match c.state with
  | .WaitSync => True
  | .ReadHeader => c.headerBuf.length < 4 ∧ ∃ gap, tail = gap ++ SYNC_BYTE :: c.headerBuf
  | .ReadPayload => c.HeaderRead ∧ c.payloadBuf.length < c.payloadLen.toNat ∧
      ∃ gap, tail = gap ++ SYNC_BYTE :: (c.headerBuf ++ c.payloadBuf)
  | .ReadCrc => c.HeaderRead ∧ c.payloadBuf.length = c.payloadLen.toNat ∧ c.crcBuf.length < 2 ∧
      ∃ gap, tail = gap ++ SYNC_BYTE :: (c.headerBuf ++ c.payloadBuf ++ c.crcBuf)

def Parsed (input : List UInt8) (r : Receiver) : Prop :=
  ∃ (parts : List (List UInt8 × List UInt8)) (tail : List UInt8),
    input = parts.flatMap (fun p => p.1 ++ p.2) ++ tail ∧
      List.Forall₂ (fun p sig => Image p.2 sig) parts r.signals ∧ r.codec.Holds tail

theorem Parsed.explained {input : List UInt8} {r : Receiver} (h : Parsed input r) :
    Explained input r.signals := by
  obtain ⟨parts, tail, h1, h2, _⟩ := h
  exact ⟨parts, tail, h1, h2⟩

theorem parsed_nil (s : CrcSession) : Parsed [] { session := s } :=
  ⟨[], [], rfl, .nil, trivial⟩

/-- one more byte that ends no image: the tail grows -/
theorem Parsed.grow {input : List UInt8} {r : Receiver} (hin : Parsed input r) (b : UInt8)
    (r' : Receiver) (hsig : r'.signals = r.signals)
    (hh : ∀ tail, r.codec.Holds tail → r'.codec.Holds (tail ++ [b])) :
    Parsed (input ++ [b]) r' := by
  obtain ⟨parts, tail, h1, h2, h3⟩ := hin
  exact ⟨parts, tail ++ [b], by rw [h1, List.append_assoc], by rw [hsig]; exact h2, hh tail h3⟩

/-- a header read whole is what `frameHeader` writes for its fields -/
theorem frameHeader_of_four (h : List UInt8) (hl : h.length = 4) :
    h = frameHeader (h.getD 0 0) (h.getD 1 0) (ofLe16 (h.getD 2 0) (h.getD 3 0)) := by
  match h, hl with
  | [a, b, lo, hi], _ =>
    exact (frameHeader_ofLe16 a b lo hi).symm

theorem holds_parseHeader (c : FrameCodec) (hl : c.headerBuf.length = 4) (tail : List UInt8)
    (ht : ∃ gap, tail = gap ++ SYNC_BYTE :: c.headerBuf) : c.parseHeader.Holds tail := by
  obtain ⟨gap, ht⟩ := ht
  have hf := frameHeader_of_four c.headerBuf hl
  have hstep := headerStep c
  generalize c.parseHeader = c' at hstep ⊢
  cases hstep with
  | tooLong h => trivial
  | noPayload h =>
    rw [h] at hf
    exact ⟨⟨hf, Nat.zero_le _⟩, rfl, Nat.zero_lt_two, gap, by simpa using ht⟩
  | payload hpos hmax => exact ⟨⟨hf, hmax⟩, hpos, gap, by simpa using ht⟩

/-- the last CRC byte closes an image -/
theorem Parsed.close {input : List UInt8} {r r' : Receiver} (hs : r.codec.state = .ReadCrc)
    (lo hi : UInt8) (hc : r.codec.crcBuf = [lo]) (h : Parsed input r)
    (hw : r'.codec.state = .WaitSync)
    (hsig : r'.signals = r.signals ++ [verdict r.codec.cmd r.codec.seq r.codec.payloadBuf
      (r.codec.headerBuf ++ r.codec.payloadBuf) (ofLe16 lo hi)]) :
    Parsed (input ++ [hi]) r' := by
  obtain ⟨parts, tail, h1, h2, h3⟩ := h
  simp only [FrameCodec.Holds, hs, FrameCodec.HeaderRead, hc] at h3
  obtain ⟨⟨hhead, hmax⟩, hpay, _, gap, ht⟩ := h3
  have hn : UInt16.ofNat r.codec.payloadBuf.length = r.codec.payloadLen := by
    rw [hpay, UInt16.ofNat_toNat]
  have hbody : r.codec.headerBuf ++ r.codec.payloadBuf
      = frameHeader r.codec.cmd r.codec.seq (UInt16.ofNat r.codec.payloadBuf.length)
        ++ r.codec.payloadBuf := by rw [hn, ← hhead]
  have himg := image_verdict r.codec.cmd r.codec.seq r.codec.payloadBuf (by omega) lo hi
  refine ⟨parts ++ [(gap, SYNC_BYTE :: (r.codec.headerBuf ++ r.codec.payloadBuf) ++ [lo, hi])],
    [], ?_, ?_, ?_⟩
  · rw [h1, ht]; simp
  · rw [hsig]
    refine List.rel_append h2 (.cons ?_ .nil)
    show Image _ _
    rw [hbody]
    exact himg
  · simp only [FrameCodec.Holds, hw]

/-- **Every byte keeps the invariant.** -/
theorem Parsed.processByte {input : List UInt8} {r : Receiver} (h : Parsed input r) (b : UInt8) :
    Parsed (input ++ [b]) (r.processByte b) := by
  have hstep := byteStep r b
  generalize r.processByte b = r' at hstep ⊢
  cases hstep with
  | skip hs hb => exact h.grow b _ rfl fun tail _ => by simp only [FrameCodec.Holds, hs]
  | sync hs hb =>
    refine h.grow b _ rfl fun tail _ => ?_
    rw [hb]
    exact ⟨Nat.zero_lt_succ 3, tail, rfl⟩
  | header hs hl =>
    refine h.grow b _ rfl fun tail ht => ?_
    simp only [FrameCodec.Holds, hs] at ht ⊢
    obtain ⟨hlt, gap, ht⟩ := ht
    rw [List.length_append, List.length_singleton]
    exact ⟨by omega, gap, by rw [ht]; simp⟩
  | headerEnd hs hl =>
    refine h.grow b _ rfl fun tail ht => ?_
    simp only [FrameCodec.Holds, hs] at ht
    obtain ⟨_, gap, ht⟩ := ht
    exact holds_parseHeader _ (by simpa using hl) _ ⟨gap, by rw [ht]; simp⟩
  | payload hs hl =>
    refine h.grow b _ rfl fun tail ht => ?_
    simp only [FrameCodec.Holds, hs] at ht ⊢
    obtain ⟨hhead, hlt, gap, ht⟩ := ht
    rw [List.length_append, List.length_singleton]
    exact ⟨hhead, by omega, gap, by rw [ht]; simp⟩
  | payloadEnd hs hl =>
    refine h.grow b _ rfl fun tail ht => ?_
    simp only [FrameCodec.Holds, hs] at ht ⊢
    obtain ⟨hhead, _, gap, ht⟩ := ht
    exact ⟨hhead, by simpa using hl, Nat.zero_lt_two, gap, by rw [ht]; simp⟩
  | crc hs hl =>
    refine h.grow b _ rfl fun tail ht => ?_
    simp only [FrameCodec.Holds, hs] at ht ⊢
    obtain ⟨hhead, hpay, hlt, gap, ht⟩ := ht
    rw [List.length_append, List.length_singleton]
    exact ⟨hhead, hpay, by omega, gap, by rw [ht]; simp⟩
  | crcEnd lo hs hc => exact h.close hs lo b hc rfl rfl

theorem Parsed.feed {input : List UInt8} {r : Receiver} (h : Parsed input r) (l : List UInt8) :
    Parsed (input ++ l) (r.feed l) := by
  induction l generalizing input r with
  | nil => rw [List.append_nil]; exact h
  | cons b l ih =>
    have hb := ih (h.processByte b)
    rw [List.append_assoc] at hb
    exact hb

/-- **Soundness of the decoder.**  What a fresh codec emits on any input, in any chunks, is
explained by disjoint images in the input, in order. -/
theorem feedAll_explained (s : CrcSession) (chunks : List (List UInt8)) :
    Explained chunks.flatten (Receiver.feedAll { session := s } chunks).signals := by
  rw [Receiver.feedAll_eq]
  have h := (parsed_nil s).feed chunks.flatten
  rw [List.nil_append] at h
  exact h.explained

end QMon.Rpc
