import QMonstatek.Protocol.ByteStream

/-!
# The frame after a truncated one

A frame cut off after its first bytes `p` leaves the receiver inside an image.  It takes the rest
of that image from the frame that follows, and what it has taken it does not look at again: too
little of the second frame is left to be read as one (`ByteStream.fits`).  The second frame is
emitted only where `p` and its own beginning happen to make a frame with its contents.
-/

namespace QMon.Rpc

/-- `p` begins a frame with the contents of `g`, and `bytes` begins with what is left of it -/
def Completes (bytes p : List UInt8) (g : Frame) : Prop :=
  ∃ (d : CrcDialect) (t : List UInt8), buildFrame d g = p ++ t ∧ t <+: bytes

theorem le16_inj {a b : UInt16} (h : le16 a = le16 b) : a = b := by
  rw [← ofLe16_le16 a, h, ofLe16_le16]

/-- the first five bytes tell the length -/
theorem length_of_take_five {p bytes : List UInt8} {d : CrcDialect} {f : Frame}
    (hf : f.payload.length ≤ 8192) (hp : p <+: buildFrame d f) (h5 : 5 ≤ p.length)
    {cmd seq : UInt8} {len : UInt16} {rest : List UInt8}
    (h : p ++ bytes = SYNC_BYTE :: frameHeader cmd seq len ++ rest) :
    len = UInt16.ofNat f.payload.length := by
  have htake := congrArg (List.take 5) h
  obtain ⟨t, ht⟩ := hp
  have hframe : p.take 5 = (buildFrame d f).take 5 := by
    rw [← ht, List.take_append_of_le_length h5]
  rw [List.take_append_of_le_length h5, hframe, buildFrame_eq d f hf] at htake
  have hhead : frameHeader f.cmd f.seq (UInt16.ofNat f.payload.length) =
    frameHeader cmd seq len := (List.cons.inj htake).2
  exact (le16_inj (List.cons.inj (List.cons.inj hhead).2).2).symm

/-- the image read first takes everything up to the cut and more -/
theorem image_beyond_cut {p bytes rest : List UInt8} {d : CrcDialect} {f : Frame}
    (hf : f.payload.length ≤ 8192) (hp : p <+: buildFrame d f)
    (hcut : p.length < (buildFrame d f).length) {cmd seq lo hi : UInt8} {payload : List UInt8}
    (hlen : payload.length ≤ 8192) (h : p ++ bytes = image cmd seq payload lo hi ++ rest) :
    p.length < (image cmd seq payload lo hi).length := by
  rw [image_length]
  rw [buildFrame_length d f hf] at hcut
  by_cases h5 : 5 ≤ p.length
  · have hsame := length_of_take_five hf hp h5 (h.trans (by
      show _ = SYNC_BYTE :: frameHeader cmd seq (UInt16.ofNat payload.length) ++
        (payload ++ [lo, hi] ++ rest)
      simp [image]))
    have hn := congrArg UInt16.toNat hsame
    rw [ofNat_toNat_of_le hlen, ofNat_toNat_of_le hf] at hn
    omega
  · omega

theorem completes_of_image {p bytes rest : List UInt8} {d : CrcDialect} {g : Frame}
    (h : p ++ bytes = buildFrame d g ++ rest) (hcut : p.length < (buildFrame d g).length) :
    Completes bytes p g := by
  rcases List.append_eq_append_iff.mp h with ⟨t, hframe, hbytes⟩ | ⟨t, hp, -⟩
  · exact ⟨d, t, hframe, rest, hbytes.symm⟩
  · rw [hp, List.length_append] at hcut
    omega

/-- a header with too large a LEN is not one of the frame cut off -/
theorem tooLong_beyond_cut {p bytes rest : List UInt8} {d : CrcDialect} {f : Frame}
    (hf : f.payload.length ≤ 8192) (hp : p <+: buildFrame d f) {cmd seq lo hi : UInt8}
    (hbig : 8192 < (ofLe16 lo hi).toNat)
    (h : p ++ bytes = SYNC_BYTE :: cmd :: seq :: lo :: hi :: rest) : p.length < 5 := by
  by_contra hlong
  have hhead : SYNC_BYTE :: cmd :: seq :: lo :: hi :: rest =
      SYNC_BYTE :: frameHeader cmd seq (ofLe16 lo hi) ++ rest := by
    rw [frameHeader_ofLe16]
    rfl
  have hsame := length_of_take_five hf hp (Nat.le_of_not_lt hlong) (h.trans hhead)
  rw [hsame, ofNat_toNat_of_le hf] at hbig
  omega

/-- a frame that is emitted takes the first image: behind it too little is left -/
theorem completes_of_emitted {df dg : CrcDialect} {f g : Frame} {p : List UInt8}
    {sigs : List CodecSignal} (hf : f.payload.length ≤ 8192) (hg : g.payload.length ≤ 8192)
    (hne : p ≠ []) (hp : p <+: buildFrame df f) (hcut : p.length < (buildFrame df f).length)
    (hstream : ByteStream (p ++ buildFrame dg g) sigs) (hmem : .frameReady g ∈ sigs) :
    Completes (buildFrame dg g) p g := by
  have hlen := buildFrame_length dg g hg
  have hpos := List.length_pos_iff.mpr hne
  generalize hl : p ++ buildFrame dg g = l at hstream
  have hsize := congrArg List.length hl
  rw [List.length_append, hlen] at hsize
  cases hstream with
  | rest _ => exact absurd hmem List.not_mem_nil
  | @filler b l sigs hb _ =>
    -- the stream begins with the SYNC of the frame cut off
    obtain ⟨b', p', rfl⟩ := List.exists_cons_of_ne_nil hne
    obtain ⟨t, ht⟩ := hp
    rw [buildFrame_eq df f hf] at ht
    have h1 : b' = SYNC_BYTE := (List.cons.inj ht).1
    have h2 : b' = b := (List.cons.inj hl).1
    exact absurd (h2.symm.trans h1) hb
  | @tooLong cmd seq lo hi l sigs hbig next =>
    have hfits := next.fits hmem
    have hbeyond := tooLong_beyond_cut hf hp hbig hl
    simp only [List.length_cons] at hsize
    omega
  | @image cmd seq payload lo hi l sigs hle next =>
    have hbeyond := image_beyond_cut hf hp hcut hle hl
    rw [List.length_append] at hsize
    rcases List.mem_cons.mp hmem with hnow | hlater
    · obtain ⟨-, d, himage⟩ := image_of_frameReady hle hnow.symm
      rw [himage] at hl hbeyond
      exact completes_of_image hl hbeyond
    · have hfits := next.fits hlater
      omega

theorem emitted_of_completes {dg : CrcDialect} {g : Frame} {p : List UInt8} (s : CrcSession)
    (hg : g.payload.length ≤ 8192) (h : Completes (buildFrame dg g) p g) :
    CodecSignal.frameReady g
        ∈ (Receiver.feed { session := s } (p ++ buildFrame dg g)).signals := by
  obtain ⟨d, t, hframe, u, hu⟩ := h
  have hsplit : p ++ buildFrame dg g = buildFrame d g ++ u := by
    rw [hframe, ← hu, List.append_assoc]
  obtain ⟨hstate, hsig⟩ := feed_buildFrame { session := s } rfl d g hg
  obtain ⟨sigs, hstream⟩ := byteStream_total u
  rw [hsplit, Receiver.feed_append, feed_byteStream hstream hstate, hsig]
  exact List.mem_append_left _ (List.mem_append_right _ List.mem_cons_self)

/-- **After a cut-off frame** the next one is emitted only where the bytes before the cut and the
beginning of the next frame make a frame with the same contents. -/
theorem truncated_next_iff (df dg : CrcDialect) (f g : Frame) (s : CrcSession) (p : List UInt8)
    (hf : f.payload.length ≤ 8192) (hg : g.payload.length ≤ 8192) (hne : p ≠ [])
    (hp : p <+: buildFrame df f) (hcut : p.length < (buildFrame df f).length) :
    CodecSignal.frameReady g
        ∈ (Receiver.feed { session := s } (p ++ buildFrame dg g)).signals ↔
      Completes (buildFrame dg g) p g := by
  constructor
  · intro hmem
    obtain ⟨sigs, hstream⟩ := byteStream_total (p ++ buildFrame dg g)
    rw [feed_byteStream hstream rfl] at hmem
    exact completes_of_emitted hf hg hne hp hcut hstream hmem
  · exact emitted_of_completes s hg

/-- a PONG without its last byte: the SYNC of the PONG after it is read as that byte -/
theorem truncated_next_lost :
    let f : Frame := ⟨0x02, 0, []⟩
    let g : Frame := ⟨0x02, 1, []⟩
    let p := (buildFrame .Correct f).take 6
    p ≠ [] ∧ p <+: buildFrame .Correct f ∧ p.length < (buildFrame .Correct f).length ∧
      CodecSignal.frameReady g ∉ (Receiver.feed {} (p ++ buildFrame .Correct g)).signals := by
  decide

/-- where the byte that is missing is SYNC, the next frame brings it -/
theorem truncated_next_repeated :
    let g : Frame := ⟨0x02, 126, []⟩
    CodecSignal.frameReady g ∈ (Receiver.feed {}
      ((buildFrame .Correct g).take 6 ++ buildFrame .Correct g)).signals :=
  (truncated_next_iff .Correct .Correct ⟨0x02, 126, []⟩ ⟨0x02, 126, []⟩ {}
    ((buildFrame .Correct ⟨0x02, 126, []⟩).take 6) (Nat.zero_le _) (Nat.zero_le _) (by decide)
    (by decide) (by decide)).mpr ⟨.Correct, [SYNC_BYTE], by decide, by decide⟩

end QMon.Rpc
