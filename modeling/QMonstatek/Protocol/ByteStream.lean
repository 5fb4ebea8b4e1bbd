import QMonstatek.Protocol.RoundTrip

/-!
# A byte stream, image by image

What the receiver does one byte at a time, told for the stream as a whole.  From WaitSync on a
stream is (`ByteStream`)

* filler, skipped byte by byte;
* a header whose LEN is above the maximum: five bytes are gone, the rest is read as a stream;
* an image with its CRC: one signal;
* an unfinished rest, which gives none.

Every stream is read so (`byteStream_total`), and `feed` emits what the reading says
(`feed_byteStream`).
-/

namespace QMon.Rpc

/-- nothing, or SYNC and a beginning of an image that is not too long -/
def Unfinished (l : List UInt8) : Prop :=
  l = [] ∨ ∃ t, l = SYNC_BYTE :: t ∧ (t.length < 4 ∨
    ∃ cmd seq lo hi rest, t = cmd :: seq :: lo :: hi :: rest ∧
      (ofLe16 lo hi).toNat ≤ 8192 ∧ rest.length < (ofLe16 lo hi).toNat + 2)

/-- SYNC, CMD, SEQ, LEN, the payload and the two CRC bytes -/
def image (cmd seq : UInt8) (payload : List UInt8) (lo hi : UInt8) : List UInt8 :=
  SYNC_BYTE :: (frameHeader cmd seq (UInt16.ofNat payload.length) ++ payload) ++ [lo, hi]

/-- the signal for an image -/
def imageSignal (cmd seq : UInt8) (payload : List UInt8) (lo hi : UInt8) : CodecSignal :=
  verdict cmd seq payload (frameHeader cmd seq (UInt16.ofNat payload.length) ++ payload)
    (ofLe16 lo hi)

/-- a stream and the signals it gives from WaitSync on -/
inductive ByteStream : List UInt8 → List CodecSignal → Prop where
  | rest {l} (h : Unfinished l) : ByteStream l []
  | filler {b l sigs} (h : b ≠ SYNC_BYTE) (next : ByteStream l sigs) : ByteStream (b :: l) sigs
  | tooLong {cmd seq lo hi l sigs} (h : 8192 < (ofLe16 lo hi).toNat) (next : ByteStream l sigs) :
      ByteStream (SYNC_BYTE :: cmd :: seq :: lo :: hi :: l) sigs
  | image {cmd seq payload lo hi l sigs} (h : payload.length ≤ 8192) (next : ByteStream l sigs) :
      ByteStream (image cmd seq payload lo hi ++ l) (imageSignal cmd seq payload lo hi :: sigs)

theorem image_length (cmd seq : UInt8) (payload : List UInt8) (lo hi : UInt8) :
    (image cmd seq payload lo hi).length = 7 + payload.length := by
  simp only [image, frameHeader, le16, List.length_append, List.length_cons, List.length_nil]
  omega

/-- an image read off its bytes -/
theorem image_of_bytes (cmd seq : UInt8) {lo hi : UInt8} {rest : List UInt8}
    (h : (ofLe16 lo hi).toNat + 2 ≤ rest.length) : ∃ payload c0 c1 l,
      payload.length = (ofLe16 lo hi).toNat ∧
      SYNC_BYTE :: cmd :: seq :: lo :: hi :: rest = image cmd seq payload c0 c1 ++ l := by
  have hlen : (rest.take (ofLe16 lo hi).toNat).length = (ofLe16 lo hi).toNat := by
    rw [List.length_take]
    omega
  obtain ⟨c0, c1, l, hl⟩ : ∃ c0 c1 l, rest.drop (ofLe16 lo hi).toNat = c0 :: c1 :: l := by
    match hd : rest.drop (ofLe16 lo hi).toNat with
    | [] | [_] =>
      have hn := congrArg List.length hd
      rw [List.length_drop] at hn
      simp only [List.length_nil, List.length_cons] at hn
      omega
    | c0 :: c1 :: l => exact ⟨c0, c1, l, rfl⟩
  refine ⟨rest.take (ofLe16 lo hi).toNat, c0, c1, l, hlen, ?_⟩
  have hsplit : rest.take (ofLe16 lo hi).toNat ++ c0 :: c1 :: l = rest := by
    rw [← hl, List.take_append_drop]
  unfold image
  rw [hlen, UInt16.ofNat_toNat, frameHeader_ofLe16]
  simp [hsplit]

/-- **Every stream can be read.** -/
theorem byteStream_total (l : List UInt8) : ∃ sigs, ByteStream l sigs := by
  induction hn : l.length using Nat.strongRecOn generalizing l with
  | _ n ih =>
    cases l with
    | nil => exact ⟨[], .rest (.inl rfl)⟩
    | cons b t =>
      rw [List.length_cons] at hn
      by_cases hb : b = SYNC_BYTE
      · rw [hb]
        match t, hn with
        | [], _ | [_], _ | [_, _], _ | [_, _, _], _ =>
          exact ⟨[], .rest (.inr ⟨_, rfl, .inl (by simp)⟩)⟩
        | cmd :: seq :: lo :: hi :: rest, hn =>
          simp only [List.length_cons] at hn
          by_cases hbig : 8192 < (ofLe16 lo hi).toNat
          · obtain ⟨sigs, h⟩ := ih rest.length (by omega) rest rfl
            exact ⟨sigs, .tooLong hbig h⟩
          · by_cases hshort : rest.length < (ofLe16 lo hi).toNat + 2
            · exact ⟨[], .rest (.inr ⟨_, rfl, .inr
                ⟨cmd, seq, lo, hi, rest, rfl, Nat.le_of_not_lt hbig, hshort⟩⟩)⟩
            · obtain ⟨payload, c0, c1, l, hp, heq⟩ := image_of_bytes cmd seq
                (Nat.le_of_not_lt hshort)
              have hl := congrArg List.length heq
              rw [List.length_append, image_length] at hl
              simp only [List.length_cons] at hl
              obtain ⟨sigs, h⟩ := ih l.length (by omega) l rfl
              rw [heq]
              exact ⟨_, .image (by omega) h⟩
      · obtain ⟨sigs, h⟩ := ih t.length (by omega) t rfl
        exact ⟨sigs, .filler hb h⟩

/-! ## Feeding a stream -/

/-- how many bytes there are at least up to the next signal -/
def FrameCodec.need (c : FrameCodec) : Nat :=
  match c.state with
  | .WaitSync => 7
  | .ReadHeader => (4 - c.headerBuf.length) + 2
  | .ReadPayload => (c.payloadLen.toNat - c.payloadBuf.length) + 2
  | .ReadCrc => 2 - c.crcBuf.length

theorem FrameCodec.parseHeader_need (c : FrameCodec) : 2 ≤ c.parseHeader.need := by
  have hstep := headerStep c
  generalize c.parseHeader = c' at hstep ⊢
  cases hstep with
  | tooLong h => exact Nat.le_add_left 2 5
  | noPayload h => exact Nat.le_refl 2
  | payload hpos hmax => exact Nat.le_add_left 2 _

/-- a byte that is not the last one needed gives no signal -/
theorem processByte_need {r : Receiver} (b : UInt8) (h : 2 ≤ r.codec.need) :
    (r.processByte b).signals = r.signals ∧ r.codec.need ≤ (r.processByte b).codec.need + 1 := by
  unfold FrameCodec.need at h
  have hstep := byteStep r b
  generalize r.processByte b = r' at hstep ⊢
  cases hstep with
  | skip hs hb => exact ⟨rfl, Nat.le_succ _⟩
  | sync hs hb =>
    refine ⟨rfl, ?_⟩
    simp only [FrameCodec.need, hs, List.length_nil]
    omega
  | header hs hl =>
    refine ⟨rfl, ?_⟩
    simp only [FrameCodec.need, hs, List.length_append, List.length_singleton]
    omega
  | headerEnd hs hl =>
    have hrest := FrameCodec.parseHeader_need
      { r.codec with headerBuf := r.codec.headerBuf ++ [b] }
    refine ⟨rfl, Nat.le_trans ?_ (Nat.add_le_add_right hrest 1)⟩
    simp only [FrameCodec.need, hs]
    omega
  | payload hs hl =>
    refine ⟨rfl, ?_⟩
    simp only [FrameCodec.need, hs, List.length_append, List.length_singleton]
    omega
  | payloadEnd hs hl =>
    refine ⟨rfl, ?_⟩
    simp only [FrameCodec.need, hs, List.length_nil]
    omega
  | crc hs hl =>
    refine ⟨rfl, ?_⟩
    simp only [FrameCodec.need, hs, List.length_append, List.length_singleton]
    omega
  | crcEnd lo hs hc =>
    -- here the signal comes, one byte was needed
    simp only [hs, hc, List.length_singleton] at h
    omega

theorem feed_need {r : Receiver} (l : List UInt8) (h : l.length < r.codec.need) :
    (r.feed l).signals = r.signals := by
  induction l generalizing r with
  | nil => rfl
  | cons b l ih =>
    rw [List.length_cons] at h
    obtain ⟨hsig, hneed⟩ := processByte_need b (by omega : 2 ≤ r.codec.need)
    rw [Receiver.feed_cons, ih (by omega), hsig]

/-- the codec after a whole header, the payload and the CRC before it -/
theorem feed_header_need (r : Receiver) (hs : r.codec.state = .WaitSync) (cmd seq lo hi : UInt8)
    (h : (ofLe16 lo hi).toNat ≤ 8192) :
    (r.feed [SYNC_BYTE, cmd, seq, lo, hi]).signals = r.signals ∧
      (r.feed [SYNC_BYTE, cmd, seq, lo, hi]).codec.need = (ofLe16 lo hi).toNat + 2 := by
  have hback : ofLe16 lo hi = UInt16.ofNat (ofLe16 lo hi).toNat := UInt16.ofNat_toNat.symm
  obtain ⟨-, -, -, hp, hn, hcrc, hpay⟩ := parseHeader_image
    { r.codec with state := .ReadHeader } cmd seq lo hi (ofLe16 lo hi).toNat h hback
  rw [feed_header r hs]
  refine ⟨rfl, ?_⟩
  by_cases h0 : (ofLe16 lo hi).toNat = 0
  · obtain ⟨hst, hbuf⟩ := hcrc h0
    simp only [FrameCodec.need, hst, hbuf, h0, List.length_nil]
  · simp only [FrameCodec.need, hpay h0, hn, hp, List.length_nil, Nat.sub_zero]

theorem feed_unfinished {r : Receiver} (hs : r.codec.state = .WaitSync) {l : List UInt8}
    (h : Unfinished l) : (r.feed l).signals = r.signals := by
  rcases h with rfl | ⟨t, rfl, ht | ⟨cmd, seq, lo, hi, rest, rfl, hle, hlt⟩⟩
  · rfl
  · refine feed_need _ ?_
    simp only [FrameCodec.need, hs, List.length_cons]
    omega
  · obtain ⟨hsig, hneed⟩ := feed_header_need r hs cmd seq lo hi hle
    have hsplit : r.feed (SYNC_BYTE :: cmd :: seq :: lo :: hi :: rest)
        = (r.feed [SYNC_BYTE, cmd, seq, lo, hi]).feed rest := by
      rw [← Receiver.feed_append]
      rfl
    rw [hsplit, feed_need _ (hneed.symm ▸ hlt), hsig]

/-- a LEN above the maximum: back to WaitSync -/
theorem feed_tooLong {r : Receiver} (hs : r.codec.state = .WaitSync) (cmd seq : UInt8)
    {lo hi : UInt8} (h : 8192 < (ofLe16 lo hi).toNat) :
    (r.feed [SYNC_BYTE, cmd, seq, lo, hi]).signals = r.signals ∧
      (r.feed [SYNC_BYTE, cmd, seq, lo, hi]).codec.state = .WaitSync := by
  have hbig : ofLe16 lo hi > MAX_PAYLOAD := UInt16.lt_iff_toNat_lt.mpr h
  rw [feed_header r hs]
  refine ⟨rfl, ?_⟩
  simp [FrameCodec.parseHeader, hbig]

/-- **`feed` emits what the reading of the stream says**, wherever the receiver starts. -/
theorem feed_byteStream {l : List UInt8} {sigs : List CodecSignal} (h : ByteStream l sigs)
    {r : Receiver} (hs : r.codec.state = .WaitSync) : (r.feed l).signals = r.signals ++ sigs := by
  induction h generalizing r with
  | rest h => rw [feed_unfinished hs h, List.append_nil]
  | @filler b l sigs hb _ ih =>
    have hstep : r.processByte b = r := by simp [Receiver.processByte, hs, hb]
    rw [Receiver.feed_cons, hstep, ih hs]
  | @tooLong cmd seq lo hi l sigs hbig _ ih =>
    obtain ⟨hsig, hstate⟩ := feed_tooLong hs cmd seq hbig
    have hsplit : r.feed (SYNC_BYTE :: cmd :: seq :: lo :: hi :: l)
        = (r.feed [SYNC_BYTE, cmd, seq, lo, hi]).feed l := by
      rw [← Receiver.feed_append]
      rfl
    rw [hsplit, ih hstate, hsig]
  | @image cmd seq payload lo hi l sigs hlen _ ih =>
    obtain ⟨hstate, hsig⟩ := feed_image r hs cmd seq payload hlen lo hi
    rw [Receiver.feed_append]
    refine (ih hstate).trans ?_
    show (r.feed _).signals ++ sigs = _
    rw [hsig, List.append_assoc]
    rfl

/-! ## Frames in a stream -/

/-- a frame as an image, with the CRC bytes of its dialect -/
theorem buildFrame_image (d : CrcDialect) (f : Frame) (hlen : f.payload.length ≤ 8192) :
    ∃ lo hi, buildFrame d f = image f.cmd f.seq f.payload lo hi ∧
      imageSignal f.cmd f.seq f.payload lo hi = .frameReady f := by
  let body := frameHeader f.cmd f.seq (UInt16.ofNat f.payload.length) ++ f.payload
  refine ⟨(le16 (d.crc body)).getD 0 0, (le16 (d.crc body)).getD 1 0,
    buildFrame_eq d f hlen, ?_⟩
  unfold imageSignal
  rw [ofLe16_le16]
  exact verdict_crc d f.cmd f.seq f.payload body

/-- an image that is taken for a frame is one, of one of the dialects -/
theorem image_of_frameReady {cmd seq lo hi : UInt8} {payload : List UInt8} {g : Frame}
    (hlen : payload.length ≤ 8192)
    (h : imageSignal cmd seq payload lo hi = .frameReady g) :
    g = ⟨cmd, seq, payload⟩ ∧ ∃ d, image cmd seq payload lo hi = buildFrame d g := by
  let body := frameHeader cmd seq (UInt16.ofNat payload.length) ++ payload
  unfold imageSignal verdict at h
  by_cases hv : (crc16ValidateRx body (ofLe16 lo hi) {}).1 = true
  · rw [if_pos hv] at h
    have hg : (⟨cmd, seq, payload⟩ : Frame) = g := CodecSignal.frameReady.inj h
    obtain ⟨d, hd⟩ : ∃ d : CrcDialect, d.crc body = ofLe16 lo hi :=
      ((crc16ValidateRx_fst body (ofLe16 lo hi) {}).mp hv).elim (fun e => ⟨_, e⟩)
        fun e => ⟨_, e⟩
    refine ⟨hg.symm, d, ?_⟩
    rw [← hg]
    exact (buildFrame_of_crc hlen hd).symm
  · rw [if_neg hv] at h
    exact absurd h nofun

theorem buildFrame_length (d : CrcDialect) (f : Frame) (hlen : f.payload.length ≤ 8192) :
    (buildFrame d f).length = 7 + f.payload.length := by
  obtain ⟨lo, hi, himage, -⟩ := buildFrame_image d f hlen
  rw [himage, image_length]

/-- a frame is emitted from a stream that holds all of it -/
theorem ByteStream.fits {l : List UInt8} {sigs : List CodecSignal} (h : ByteStream l sigs)
    {g : Frame} (hg : .frameReady g ∈ sigs) : 7 + g.payload.length ≤ l.length := by
  induction h with
  | rest _ => exact absurd hg List.not_mem_nil
  | filler _ _ ih => exact Nat.le_succ_of_le (ih hg)
  | tooLong _ _ ih => exact Nat.le_trans (ih hg) (by simp only [List.length_cons]; omega)
  | image hlen _ ih =>
    rw [List.length_append, image_length]
    rcases List.mem_cons.mp hg with hnow | hlater
    · rw [(image_of_frameReady hlen hnow.symm).1]
      exact Nat.le_add_right _ _
    · have := ih hlater
      omega

end QMon.Rpc
