import QMonstatek.Lib.Run
import QMonstatek.Protocol.RoundTrip

/-!
# Back in WaitSync after at most 8198 bytes

`processByte` leaves a state when a buffer has *exactly* the size it waits for, so the sizes must
never overshoot: `FrameCodec.Bounded`.  `FrameCodec.toGo` bounds what the open image can still
take: the rest of the header, the longest payload LEN may announce, two CRC bytes.  Every byte
takes at least one from it (`processByte_toGo`), and it is at most 4 + 8192 + 2.
-/

namespace QMon.Rpc
open Run

/-- everything that is called on a codec, and what others do to the dialect session meanwhile -/
inductive CodecEvent where
  | feed (data : List UInt8)
  | reset
  | nextSeq
  | session (s : CrcSession)

def codecStep : CodecEvent → Receiver → Receiver
  | .feed data, r => r.feed data
  | .reset, r => { r with codec := r.codec.reset }
  | .nextSeq, r => { r with codec := r.codec.nextSeq.2 }
  | .session s, r => { r with session := s }

/-- the buffer that is being filled is not full -/
def FrameCodec.Filling (c : FrameCodec) : Prop :=
  match c.state with
  | .WaitSync => True
  | .ReadHeader => c.headerBuf.length < 4
  | .ReadPayload => c.payloadBuf.length < c.payloadLen.toNat ∧ c.payloadLen.toNat ≤ 8192
  | .ReadCrc => c.crcBuf.length < 2

structure FrameCodec.Bounded (c : FrameCodec) : Prop where
  header : c.headerBuf.length ≤ 4
  payload : c.payloadBuf.length ≤ 8192
  crc : c.crcBuf.length ≤ 2
  filling : c.Filling

/-- how many bytes the open image can still take -/
def FrameCodec.toGo (c : FrameCodec) : Nat :=
  match c.state with
  | .WaitSync => 0
  | .ReadHeader => (4 - c.headerBuf.length) + 8192 + 2
  | .ReadPayload => (c.payloadLen.toNat - c.payloadBuf.length) + 2
  | .ReadCrc => 2 - c.crcBuf.length

theorem FrameCodec.toGo_le {c : FrameCodec} (h : c.Bounded) : c.toGo ≤ 8198 := by
  have hf := h.filling
  unfold FrameCodec.Filling at hf
  unfold FrameCodec.toGo
  cases hs : c.state with
  | WaitSync => exact Nat.zero_le _
  | ReadHeader => simp only; omega
  | ReadPayload =>
    simp only [hs] at hf ⊢
    omega
  | ReadCrc => simp only; omega

theorem FrameCodec.waitSync_of_toGo {c : FrameCodec} (h : c.Bounded) (h0 : c.toGo = 0) :
    c.state = .WaitSync := by
  have hf := h.filling
  unfold FrameCodec.Filling at hf
  unfold FrameCodec.toGo at h0
  cases hs : c.state with
  | WaitSync => rfl
  | ReadHeader => simp only [hs] at h0; omega
  | ReadPayload => simp only [hs] at h0; omega
  | ReadCrc =>
    simp only [hs] at hf h0
    omega

/-! ## One byte -/

/-- after a header at least its four bytes are done: a LEN above the maximum ends the image -/
theorem FrameCodec.parseHeader_bounded {c : FrameCodec} (hh : c.headerBuf.length = 4)
    (hp : c.payloadBuf.length ≤ 8192) (hc : c.crcBuf.length ≤ 2) :
    c.parseHeader.Bounded ∧ c.parseHeader.toGo ≤ 8194 := by
  have hfull := Nat.le_of_eq hh
  have hstep := headerStep c
  generalize c.parseHeader = c' at hstep ⊢
  cases hstep with
  | tooLong h => exact ⟨⟨hfull, hp, hc, trivial⟩, Nat.zero_le _⟩
  | noPayload h =>
    refine ⟨⟨hfull, Nat.zero_le _, Nat.zero_le _, Nat.zero_lt_two⟩, ?_⟩
    show 2 - 0 ≤ 8194
    omega
  | payload hpos hmax =>
    refine ⟨⟨hfull, Nat.zero_le _, hc, hpos, hmax⟩, ?_⟩
    exact Nat.add_le_add_right hmax 2

/-- **One byte** keeps the bounds and, inside an image, brings its end nearer. -/
theorem processByte_toGo {r : Receiver} (h : r.codec.Bounded) (b : UInt8) :
    (r.processByte b).codec.Bounded ∧
      (r.codec.state ≠ .WaitSync → (r.processByte b).codec.toGo < r.codec.toGo) := by
  obtain ⟨hh, hp, hc, hf⟩ := h
  unfold FrameCodec.Filling at hf
  have hstep := byteStep r b
  generalize r.processByte b = r' at hstep ⊢
  cases hstep with
  | skip hs hb => exact ⟨⟨hh, hp, hc, by simp only [FrameCodec.Filling, hs]⟩, absurd hs⟩
  | sync hs hb => exact ⟨⟨Nat.zero_le _, hp, hc, Nat.zero_lt_succ 3⟩, absurd hs⟩
  | header hs hl =>
    simp only [hs] at hf
    refine ⟨⟨?_, hp, hc, ?_⟩, fun _ => ?_⟩
    · simp only [List.length_append, List.length_singleton]
      omega
    · simp only [FrameCodec.Filling, hs, List.length_append, List.length_singleton]
      omega
    · simp only [FrameCodec.toGo, hs, List.length_append, List.length_singleton]
      omega
  | headerEnd hs hl =>
    simp only [hs] at hf
    obtain ⟨hbound, hrest⟩ := FrameCodec.parseHeader_bounded
      (c := { r.codec with headerBuf := r.codec.headerBuf ++ [b] }) (by simpa using hl) hp hc
    refine ⟨hbound, fun _ => Nat.lt_of_le_of_lt hrest ?_⟩
    simp only [FrameCodec.toGo, hs]
    omega
  | payload hs hl =>
    simp only [hs] at hf
    refine ⟨⟨hh, ?_, hc, ?_⟩, fun _ => ?_⟩
    · simp only [List.length_append, List.length_singleton]
      omega
    · simp only [FrameCodec.Filling, hs, List.length_append, List.length_singleton]
      omega
    · simp only [FrameCodec.toGo, hs, List.length_append, List.length_singleton]
      omega
  | payloadEnd hs hl =>
    simp only [hs] at hf
    refine ⟨⟨hh, ?_, Nat.zero_le _, Nat.zero_lt_two⟩, fun _ => ?_⟩
    · simp only [List.length_append, List.length_singleton]
      omega
    · simp only [FrameCodec.toGo, hs, List.length_nil]
      omega
  | crc hs hl =>
    simp only [hs] at hf
    refine ⟨⟨hh, hp, ?_, ?_⟩, fun _ => ?_⟩
    · simp only [List.length_append, List.length_singleton]
      omega
    · simp only [FrameCodec.Filling, hs, List.length_append, List.length_singleton]
      omega
    · simp only [FrameCodec.toGo, hs, List.length_append, List.length_singleton]
      omega
  | crcEnd lo hs hcrc =>
    refine ⟨⟨hh, hp, Nat.le_refl 2, trivial⟩, fun _ => ?_⟩
    simp only [FrameCodec.toGo, hs, hcrc, List.length_singleton]
    omega

/-! ## Every codec in use -/

theorem Receiver.feed_bounded {r : Receiver} (h : r.codec.Bounded) (l : List UInt8) :
    (r.feed l).codec.Bounded := by
  induction l generalizing r with
  | nil => exact h
  | cons b l ih => exact ih (processByte_toGo h b).1

theorem codecStep_bounded (e : CodecEvent) {r : Receiver} (h : r.codec.Bounded) :
    (codecStep e r).codec.Bounded := by
  cases e with
  | feed data => exact Receiver.feed_bounded h data
  | reset => exact ⟨Nat.zero_le _, Nat.zero_le _, Nat.zero_le _, trivial⟩
  | nextSeq => exact ⟨h.header, h.payload, h.crc, h.filling⟩
  | session s => exact h

/-- **Inside an image** the codec is in WaitSync again before `toGo` bytes are over. -/
theorem waitSync_within {r : Receiver} (h : r.codec.Bounded) (l : List UInt8)
    (hl : r.codec.toGo ≤ l.length) :
    ∃ n ≤ r.codec.toGo, (r.feed (l.take n)).codec.state = .WaitSync := by
  induction l generalizing r with
  | nil => exact ⟨0, Nat.zero_le _, FrameCodec.waitSync_of_toGo h (Nat.le_zero.mp hl)⟩
  | cons b l ih =>
    by_cases hs : r.codec.state = .WaitSync
    · exact ⟨0, Nat.zero_le _, hs⟩
    · obtain ⟨hb, hless⟩ := processByte_toGo h b
      have hlt := hless hs
      rw [List.length_cons] at hl
      obtain ⟨n, hn, hw⟩ := ih hb (by omega)
      refine ⟨n + 1, by omega, ?_⟩
      rw [List.take_succ_cons, Receiver.feed_cons]
      exact hw

/-- what a receiver can rely on: small buffers, an end of every image, the frame after a gap -/
structure Resyncs (r : Receiver) : Prop where
  header : r.codec.headerBuf.length ≤ 4
  payload : r.codec.payloadBuf.length ≤ 8192
  crc : r.codec.crcBuf.length ≤ 2
  waitSync : ∀ l : List UInt8, 8198 ≤ l.length →
    ∃ n ≤ 8198, (r.feed (l.take n)).codec.state = .WaitSync
  decodes : ∀ (gap : List UInt8) (d : CrcDialect) (f : Frame), 8198 ≤ gap.length →
    SYNC_BYTE ∉ gap → f.payload.length ≤ 8192 →
    (r.feed (gap ++ buildFrame d f)).signals = (r.feed gap).signals ++ [.frameReady f] ∧
      (r.feed (gap ++ buildFrame d f)).codec.state = .WaitSync

/-- once in WaitSync, the rest of a gap is skipped -/
theorem feed_gap {r : Receiver} (h : r.codec.Bounded) (gap : List UInt8)
    (hl : 8198 ≤ gap.length) (hsync : SYNC_BYTE ∉ gap) :
    (r.feed gap).codec.state = .WaitSync := by
  obtain ⟨n, -, hw⟩ := waitSync_within h gap (Nat.le_trans (FrameCodec.toGo_le h) hl)
  have hrest : SYNC_BYTE ∉ gap.drop n := fun hm => hsync (List.mem_of_mem_drop hm)
  have hsplit : r.feed gap = (r.feed (gap.take n)).feed (gap.drop n) := by
    rw [← Receiver.feed_append, List.take_append_drop]
  rw [hsplit, feed_noSync _ hw _ hrest]
  exact hw

/-- **Resynchronisation.**  Every codec in use is in WaitSync again within 8198 bytes, and reads
the frame that follows so many bytes without SYNC. -/
theorem codec_resyncs (es : List CodecEvent) (s : CrcSession) :
    Resyncs (exec codecStep es { session := s }) := by
  have h : (exec codecStep es { session := s }).codec.Bounded :=
    exec_inv codecStep (I := fun r => r.codec.Bounded) (fun e _ hr => codecStep_bounded e hr) es _
      ⟨Nat.zero_le _, Nat.zero_le _, Nat.zero_le _, trivial⟩
  refine ⟨h.header, h.payload, h.crc, fun l hl => ?_, fun gap d f hl hsync hf => ?_⟩
  · obtain ⟨n, hn, hw⟩ := waitSync_within h l (Nat.le_trans (FrameCodec.toGo_le h) hl)
    exact ⟨n, Nat.le_trans hn (FrameCodec.toGo_le h), hw⟩
  · obtain ⟨hstate, hsig⟩ := feed_buildFrame _ (feed_gap h gap hl hsync) d f hf
    rw [Receiver.feed_append]
    exact ⟨hsig, hstate⟩

end QMon.Rpc
