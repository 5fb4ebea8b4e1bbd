import QMonstatek.Protocol.Frame

/-!
# The codec reads back what `buildFrame` wrote

One lemma per phase of the receiver (`feed_noSync`, `feed_header`, `feed_payload`, `feed_crc`),
then a whole frame image (`feed_image`), then a stream of frames with filler between them
(`feedAll_wire`), whatever `feed` calls it arrives in.
-/

namespace QMon.Rpc

/-- what the CRC check makes of a complete image -/
def verdict (cmd seq : UInt8) (payload : List UInt8) (body : List UInt8) (crc : UInt16) :
    CodecSignal :=
  if (crc16ValidateRx body crc {}).1 then .frameReady ⟨cmd, seq, payload⟩
  else .frameCrcError cmd seq

/-- the verdict does not look at the latch -/
theorem crc16ValidateRx_fst_eq (data : List UInt8) (crc : UInt16) (s s' : CrcSession) :
    (crc16ValidateRx data crc s).1 = (crc16ValidateRx data crc s').1 := by
  rw [Bool.eq_iff_iff, crc16ValidateRx_fst, crc16ValidateRx_fst]

/-! ## One byte -/

/-- what `finalizeFrame` adds: one signal -/
theorem finalizeFrame_eq (r : Receiver) :
    r.finalizeFrame =
      { r with
        session := (crc16ValidateRx (r.codec.headerBuf ++ r.codec.payloadBuf)
          (ofLe16 (r.codec.crcBuf.getD 0 0) (r.codec.crcBuf.getD 1 0)) r.session).2
        signals := r.signals ++ [verdict r.codec.cmd r.codec.seq r.codec.payloadBuf
          (r.codec.headerBuf ++ r.codec.payloadBuf)
          (ofLe16 (r.codec.crcBuf.getD 0 0) (r.codec.crcBuf.getD 1 0))] } := by
  unfold Receiver.finalizeFrame verdict
  rw [crc16ValidateRx_fst_eq _ _ {} r.session]
  by_cases h : (crc16ValidateRx (r.codec.headerBuf ++ r.codec.payloadBuf)
      (ofLe16 (r.codec.crcBuf.getD 0 0) (r.codec.crcBuf.getD 1 0)) r.session).1 = true
  · simp only [h, if_true]
  · simp only [h, if_false, Bool.false_eq_true]

/-- what `parseHeader` makes of a codec whose header is complete -/
inductive HeaderStep (c : FrameCodec) : FrameCodec → Prop where
  | tooLong (h : 8192 < (ofLe16 (c.headerBuf.getD 2 0) (c.headerBuf.getD 3 0)).toNat) :
      HeaderStep c { c with
        cmd := c.headerBuf.getD 0 0
        seq := c.headerBuf.getD 1 0
        payloadLen := ofLe16 (c.headerBuf.getD 2 0) (c.headerBuf.getD 3 0)
        state := .WaitSync }
  | noPayload (h : ofLe16 (c.headerBuf.getD 2 0) (c.headerBuf.getD 3 0) = 0) :
      HeaderStep c { c with
        cmd := c.headerBuf.getD 0 0
        seq := c.headerBuf.getD 1 0
        payloadLen := 0
        payloadBuf := []
        crcBuf := []
        state := .ReadCrc }
  | payload (hpos : 0 < (ofLe16 (c.headerBuf.getD 2 0) (c.headerBuf.getD 3 0)).toNat)
      (hmax : (ofLe16 (c.headerBuf.getD 2 0) (c.headerBuf.getD 3 0)).toNat ≤ 8192) :
      HeaderStep c { c with
        cmd := c.headerBuf.getD 0 0
        seq := c.headerBuf.getD 1 0
        payloadLen := ofLe16 (c.headerBuf.getD 2 0) (c.headerBuf.getD 3 0)
        payloadBuf := []
        state := .ReadPayload }

theorem headerStep (c : FrameCodec) : HeaderStep c c.parseHeader := by
  unfold FrameCodec.parseHeader
  by_cases hbig : ofLe16 (c.headerBuf.getD 2 0) (c.headerBuf.getD 3 0) > MAX_PAYLOAD
  · simp only [hbig, if_true]
    exact .tooLong (UInt16.lt_iff_toNat_lt.mp hbig)
  · simp only [hbig, if_false]
    by_cases h0 : ofLe16 (c.headerBuf.getD 2 0) (c.headerBuf.getD 3 0) = 0
    · simp only [h0, if_true]
      exact .noPayload h0
    · simp only [h0, if_false]
      exact .payload (Nat.pos_of_ne_zero fun e => h0 (UInt16.toNat_inj.mp e))
        (Nat.le_of_not_lt fun h => hbig (UInt16.lt_iff_toNat_lt.mpr h))

/-- what one byte does to a receiver: every branch of `processByte` with its guards -/
inductive ByteStep (r : Receiver) (b : UInt8) : Receiver → Prop where
  | skip (hs : r.codec.state = .WaitSync) (hb : b ≠ SYNC_BYTE) : ByteStep r b r
  | sync (hs : r.codec.state = .WaitSync) (hb : b = SYNC_BYTE) :
      ByteStep r b { r with codec := { r.codec with headerBuf := [], state := .ReadHeader } }
  | header (hs : r.codec.state = .ReadHeader) (hl : r.codec.headerBuf.length + 1 ≠ 4) :
      ByteStep r b { r with codec := { r.codec with headerBuf := r.codec.headerBuf ++ [b] } }
  | headerEnd (hs : r.codec.state = .ReadHeader) (hl : r.codec.headerBuf.length + 1 = 4) :
      ByteStep r b
        { r with codec := { r.codec with headerBuf := r.codec.headerBuf ++ [b] }.parseHeader }
  | payload (hs : r.codec.state = .ReadPayload)
      (hl : r.codec.payloadBuf.length + 1 ≠ r.codec.payloadLen.toNat) :
      ByteStep r b { r with codec := { r.codec with payloadBuf := r.codec.payloadBuf ++ [b] } }
  | payloadEnd (hs : r.codec.state = .ReadPayload)
      (hl : r.codec.payloadBuf.length + 1 = r.codec.payloadLen.toNat) :
      ByteStep r b { r with codec := { r.codec with
        payloadBuf := r.codec.payloadBuf ++ [b], crcBuf := [], state := .ReadCrc } }
  | crc (hs : r.codec.state = .ReadCrc) (hl : r.codec.crcBuf.length + 1 ≠ 2) :
      ByteStep r b { r with codec := { r.codec with crcBuf := r.codec.crcBuf ++ [b] } }
  | crcEnd (lo : UInt8) (hs : r.codec.state = .ReadCrc) (hc : r.codec.crcBuf = [lo]) :
      ByteStep r b
        { codec := { r.codec with crcBuf := [lo, b], state := .WaitSync }
          session := (crc16ValidateRx (r.codec.headerBuf ++ r.codec.payloadBuf)
            (ofLe16 lo b) r.session).2
          signals := r.signals ++ [verdict r.codec.cmd r.codec.seq r.codec.payloadBuf
            (r.codec.headerBuf ++ r.codec.payloadBuf) (ofLe16 lo b)] }

theorem byteStep (r : Receiver) (b : UInt8) : ByteStep r b (r.processByte b) := by
  have grown (l : List UInt8) : (l ++ [b]).length = l.length + 1 := List.length_append
  cases hs : r.codec.state with
  | WaitSync =>
    by_cases hb : b = SYNC_BYTE
    · have hstep : r.processByte b =
          { r with codec := { r.codec with headerBuf := [], state := .ReadHeader } } := by
        simp only [Receiver.processByte, hs, hb, if_true]
      rw [hstep]
      exact .sync hs hb
    · have hstep : r.processByte b = r := by simp only [Receiver.processByte, hs, hb, if_false]
      rw [hstep]
      exact .skip hs hb
  | ReadHeader =>
    by_cases hl : r.codec.headerBuf.length + 1 = 4
    · have hstep : r.processByte b = { r with codec :=
          { r.codec with headerBuf := r.codec.headerBuf ++ [b] }.parseHeader } := by
        simp only [Receiver.processByte, hs, grown, hl, if_true]
      rw [hstep]
      exact .headerEnd hs hl
    · have hstep : r.processByte b = { r with codec :=
          { r.codec with headerBuf := r.codec.headerBuf ++ [b] } } := by
        simp only [Receiver.processByte, hs, grown, hl, if_false]
      rw [hstep]
      exact .header hs hl
  | ReadPayload =>
    by_cases hl : r.codec.payloadBuf.length + 1 = r.codec.payloadLen.toNat
    · have hstep : r.processByte b = { r with codec := { r.codec with
          payloadBuf := r.codec.payloadBuf ++ [b], crcBuf := [], state := .ReadCrc } } := by
        simp only [Receiver.processByte, hs, grown, hl, if_true]
      rw [hstep]
      exact .payloadEnd hs hl
    · have hstep : r.processByte b = { r with codec :=
          { r.codec with payloadBuf := r.codec.payloadBuf ++ [b] } } := by
        simp only [Receiver.processByte, hs, grown, hl, if_false]
      rw [hstep]
      exact .payload hs hl
  | ReadCrc =>
    by_cases hl : r.codec.crcBuf.length + 1 = 2
    · obtain ⟨lo, hc⟩ : ∃ lo, r.codec.crcBuf = [lo] := List.length_eq_one_iff.mp (by omega)
      have hstep : r.processByte b =
          { codec := { r.codec with crcBuf := [lo, b], state := .WaitSync }
            session := (crc16ValidateRx (r.codec.headerBuf ++ r.codec.payloadBuf)
              (ofLe16 lo b) r.session).2
            signals := r.signals ++ [verdict r.codec.cmd r.codec.seq r.codec.payloadBuf
              (r.codec.headerBuf ++ r.codec.payloadBuf) (ofLe16 lo b)] } := by
        simp only [Receiver.processByte, hs, hc, List.cons_append, List.nil_append,
          List.length_cons, List.length_nil, Nat.zero_add, Nat.reduceAdd, if_true,
          finalizeFrame_eq, List.getD_cons_zero, List.getD_cons_succ]
      rw [hstep]
      exact .crcEnd lo hs hc
    · have hstep : r.processByte b = { r with codec :=
          { r.codec with crcBuf := r.codec.crcBuf ++ [b] } } := by
        simp only [Receiver.processByte, hs, grown, hl, if_false]
      rw [hstep]
      exact .crc hs hl

/-! ## The phases of the receiver -/

/-- bytes other than SYNC are skipped between frames -/
theorem feed_noSync (r : Receiver) (hs : r.codec.state = .WaitSync) (l : List UInt8)
    (h : SYNC_BYTE ∉ l) : r.feed l = r := by
  induction l with
  | nil => rfl
  | cons b l ih =>
    have hb : b ≠ SYNC_BYTE := fun e => h (by simp [e])
    have hl : SYNC_BYTE ∉ l := fun e => h (List.mem_cons_of_mem _ e)
    have hstep : r.processByte b = r := by simp [Receiver.processByte, hs, hb]
    rw [Receiver.feed_cons, hstep, ih hl]

theorem feed_header (r : Receiver) (hs : r.codec.state = .WaitSync) (cmd seq lo hi : UInt8) :
    r.feed [SYNC_BYTE, cmd, seq, lo, hi]
      = { r with
          codec := { r.codec with
            state := .ReadHeader, headerBuf := [cmd, seq, lo, hi] }.parseHeader } := by
  simp [Receiver.feed, Receiver.processByte, hs]

theorem feed_payload (r : Receiver) (hs : r.codec.state = .ReadPayload) (l : List UInt8)
    (hne : l ≠ []) (hlen : r.codec.payloadBuf.length + l.length = r.codec.payloadLen.toNat) :
    r.feed l = { r with codec := { r.codec with
      payloadBuf := r.codec.payloadBuf ++ l, crcBuf := [], state := .ReadCrc } } := by
  induction l generalizing r with
  | nil => exact absurd rfl hne
  | cons b l ih =>
    rw [Receiver.feed_cons]
    rw [List.length_cons] at hlen
    cases l with
    | nil =>
      have hfull : (r.codec.payloadBuf ++ [b]).length = r.codec.payloadLen.toNat := by
        rw [List.length_append]; exact hlen
      rw [Receiver.feed_nil]
      simp [Receiver.processByte, hs, ← hfull]
    | cons b' l =>
      have hopen : r.codec.payloadBuf.length + 1 ≠ r.codec.payloadLen.toNat := by
        rw [List.length_cons] at hlen; omega
      have hstep : r.processByte b
          = { r with codec := { r.codec with payloadBuf := r.codec.payloadBuf ++ [b] } } := by
        simp [Receiver.processByte, hs, hopen]
      have hrest : (r.codec.payloadBuf ++ [b]).length + (b' :: l).length
          = r.codec.payloadLen.toNat := by
        rw [List.length_append, List.length_singleton]; omega
      rw [hstep]
      refine (ih { r with codec :=
        { r.codec with payloadBuf := r.codec.payloadBuf ++ [b] } } hs (List.cons_ne_nil _ _)
        hrest).trans ?_
      simp

theorem feed_crc (r : Receiver) (hs : r.codec.state = .ReadCrc) (hc : r.codec.crcBuf = [])
    (lo hi : UInt8) :
    r.feed [lo, hi] =
      { codec := { r.codec with crcBuf := [lo, hi], state := .WaitSync }
        session := (crc16ValidateRx (r.codec.headerBuf ++ r.codec.payloadBuf)
          (ofLe16 lo hi) r.session).2
        signals := r.signals ++ [verdict r.codec.cmd r.codec.seq r.codec.payloadBuf
          (r.codec.headerBuf ++ r.codec.payloadBuf) (ofLe16 lo hi)] } := by
  have h1 : r.processByte lo = { r with codec := { r.codec with crcBuf := [lo] } } := by
    simp [Receiver.processByte, hs, hc]
  rw [Receiver.feed_cons, h1, Receiver.feed_cons, Receiver.feed_nil]
  simp only [Receiver.processByte, hs, List.cons_append, List.nil_append, List.length_cons,
    List.length_nil, Nat.zero_add, Nat.reduceAdd, if_true, finalizeFrame_eq,
    List.getD_cons_zero, List.getD_cons_succ]

/-! ## One frame image -/

theorem ofNat_toNat_of_le {n : Nat} (h : n ≤ 8192) : (UInt16.ofNat n).toNat = n := by
  rw [UInt16.toNat_ofNat']
  exact Nat.mod_eq_of_lt (by omega)

/-- the codec after the header of an image that is not too long -/
theorem parseHeader_image (c : FrameCodec) (cmd seq lo hi : UInt8) (n : Nat) (hn : n ≤ 8192)
    (hback : ofLe16 lo hi = UInt16.ofNat n) :
    let c' := FrameCodec.parseHeader { c with headerBuf := [cmd, seq, lo, hi] }
    c'.headerBuf = [cmd, seq, lo, hi] ∧ c'.cmd = cmd ∧ c'.seq = seq ∧ c'.payloadBuf = [] ∧
      c'.payloadLen.toNat = n ∧
      (n = 0 → c'.state = .ReadCrc ∧ c'.crcBuf = []) ∧ (n ≠ 0 → c'.state = .ReadPayload) := by
  have hlen := ofNat_toNat_of_le hn
  have hmax : ¬ (UInt16.ofNat n > MAX_PAYLOAD) := by
    show ¬ (MAX_PAYLOAD < UInt16.ofNat n)
    rw [UInt16.lt_iff_toNat_lt, hlen]
    show ¬ (8192 < n)
    omega
  have hzero : UInt16.ofNat n = 0 ↔ n = 0 := by
    rw [← UInt16.toNat_inj, hlen]; rfl
  simp only [FrameCodec.parseHeader, List.getD_cons_zero, List.getD_cons_succ, hback, hmax,
    if_false]
  by_cases h0 : n = 0
  · simp [h0]
  · simp [hzero, h0, hlen]

/-- **A complete image**: the receiver takes it from SYNC to the second CRC byte, emits the one
signal of the CRC check and is in WaitSync again. -/
theorem feed_image (r : Receiver) (hs : r.codec.state = .WaitSync) (cmd seq : UInt8)
    (payload : List UInt8) (hlen : payload.length ≤ 8192) (lo hi : UInt8) :
    let body := frameHeader cmd seq (UInt16.ofNat payload.length) ++ payload
    let r' := r.feed (SYNC_BYTE :: body ++ [lo, hi])
    r'.codec.state = .WaitSync ∧
      r'.signals = r.signals ++ [verdict cmd seq payload body (ofLe16 lo hi)] := by
  intro body r'
  obtain ⟨l0, l1, -, hback⟩ := le16_bytes (UInt16.ofNat payload.length)
  have hbody : body = [cmd, seq, l0, l1] ++ payload := by
    show frameHeader cmd seq (UInt16.ofNat payload.length) ++ payload = _
    rw [← hback, frameHeader_ofLe16]
  obtain ⟨hh, hcmd, hseq, hp, hn, hcrc, hpay⟩ := parseHeader_image
    { r.codec with state := .ReadHeader } cmd seq l0 l1 payload.length hlen hback
  have hsplit : r' = ((r.feed [SYNC_BYTE, cmd, seq, l0, l1]).feed payload).feed [lo, hi] := by
    show r.feed (SYNC_BYTE :: body ++ [lo, hi]) = _
    rw [hbody, ← Receiver.feed_append, ← Receiver.feed_append]
    simp
  rw [hsplit, feed_header r hs]
  by_cases h0 : payload.length = 0
  · -- no payload: the header leads straight to the CRC
    obtain ⟨hst, hbuf⟩ := hcrc h0
    rw [List.length_eq_zero_iff.mp h0, Receiver.feed_nil, feed_crc _ hst hbuf]
    refine ⟨rfl, ?_⟩
    simp only [hh, hcmd, hseq, hp, hbody, List.length_eq_zero_iff.mp h0]
  · have hne : payload ≠ [] := fun e => h0 (by rw [e]; rfl)
    rw [feed_payload _ (hpay h0) payload hne (by simp only [hp, hn, List.length_nil, Nat.zero_add]),
      feed_crc _ rfl rfl]
    refine ⟨rfl, ?_⟩
    simp only [hh, hcmd, hseq, hp, hbody, List.nil_append]

/-! ## Frames built by `buildFrame` -/

theorem buildFrame_eq (d : CrcDialect) (f : Frame) (hlen : f.payload.length ≤ 8192) :
    buildFrame d f = SYNC_BYTE ::
      (frameHeader f.cmd f.seq (UInt16.ofNat f.payload.length) ++ f.payload)
      ++ le16 (d.crc (frameHeader f.cmd f.seq (UInt16.ofNat f.payload.length) ++ f.payload)) := by
  unfold buildFrame buildFrameRaw
  rw [ofNat_toNat_of_le hlen, List.take_length]

/-- the bytes of a frame, with the CRC as it is read -/
theorem buildFrame_of_crc {d : CrcDialect} {cmd seq lo hi : UInt8} {payload : List UInt8}
    (hlen : payload.length ≤ 8192)
    (h : d.crc (frameHeader cmd seq (UInt16.ofNat payload.length) ++ payload) = ofLe16 lo hi) :
    buildFrame d ⟨cmd, seq, payload⟩ = SYNC_BYTE ::
      (frameHeader cmd seq (UInt16.ofNat payload.length) ++ payload) ++ [lo, hi] := by
  rw [buildFrame_eq d ⟨cmd, seq, payload⟩ hlen, h, le16_ofLe16]

/-- either dialect passes the check -/
theorem verdict_crc (d : CrcDialect) (cmd seq : UInt8) (payload body : List UInt8) :
    verdict cmd seq payload body (d.crc body) = .frameReady ⟨cmd, seq, payload⟩ := by
  unfold verdict
  rw [crc16ValidateRx_crc]
  rfl

theorem feed_buildFrame (r : Receiver) (hs : r.codec.state = .WaitSync) (d : CrcDialect)
    (f : Frame) (hlen : f.payload.length ≤ 8192) :
    (r.feed (buildFrame d f)).codec.state = .WaitSync ∧
      (r.feed (buildFrame d f)).signals = r.signals ++ [.frameReady f] := by
  obtain ⟨lo, hi, hl, hcrc⟩ := le16_bytes (d.crc (frameHeader f.cmd f.seq
    (UInt16.ofNat f.payload.length) ++ f.payload))
  rw [buildFrame_eq d f hlen, hl]
  obtain ⟨h1, h2⟩ := feed_image r hs f.cmd f.seq f.payload hlen lo hi
  rw [hcrc, verdict_crc] at h2
  exact ⟨h1, h2⟩

/-- one frame on the wire with the filler in front of it -/
structure WireFrame where
  filler : List UInt8
  dialect : CrcDialect
  frame : Frame

def WireFrame.bytes (w : WireFrame) : List UInt8 := w.filler ++ buildFrame w.dialect w.frame

/-- the payload fits and the filler holds no SYNC -/
def WireFrame.ok (w : WireFrame) : Prop :=
  w.frame.payload.length ≤ 8192 ∧ SYNC_BYTE ∉ w.filler

theorem feed_wire (ws : List WireFrame) (r : Receiver) (hs : r.codec.state = .WaitSync)
    (hw : ∀ w ∈ ws, w.ok) :
    (r.feed (ws.flatMap WireFrame.bytes)).codec.state = .WaitSync ∧
      (r.feed (ws.flatMap WireFrame.bytes)).signals
        = r.signals ++ ws.map (fun w => .frameReady w.frame) := by
  induction ws generalizing r with
  | nil => exact ⟨hs, by simp [Receiver.feed]⟩
  | cons w ws ih =>
    obtain ⟨hlen, hfill⟩ := hw w (List.mem_cons_self ..)
    obtain ⟨h1, h2⟩ := feed_buildFrame r hs w.dialect w.frame hlen
    obtain ⟨h3, h4⟩ := ih (r.feed (buildFrame w.dialect w.frame)) h1
      (fun w' h' => hw w' (List.mem_cons_of_mem _ h'))
    have e : r.feed ((w :: ws).flatMap WireFrame.bytes)
        = (r.feed (buildFrame w.dialect w.frame)).feed (ws.flatMap WireFrame.bytes) := by
      rw [List.flatMap_cons, WireFrame.bytes, Receiver.feed_append, Receiver.feed_append,
        feed_noSync r hs _ hfill]
    rw [e]
    refine ⟨h3, ?_⟩
    rw [h4, h2, List.map_cons, List.append_assoc]
    rfl

/-- **Round trip.**  Frames of either dialect, with filler that holds no SYNC before, between and
after them, cut anywhere into `feed` calls: a receiver in WaitSync emits exactly the frames and
is in WaitSync again. -/
theorem feedAll_wire (ws : List WireFrame) (tail : List UInt8) (chunks : List (List UInt8))
    (r : Receiver) (hs : r.codec.state = .WaitSync) (hw : ∀ w ∈ ws, w.ok)
    (ht : SYNC_BYTE ∉ tail) (hcut : chunks.flatten = ws.flatMap WireFrame.bytes ++ tail) :
    (r.feedAll chunks).signals = r.signals ++ ws.map (fun w => .frameReady w.frame) ∧
      (r.feedAll chunks).codec.state = .WaitSync := by
  obtain ⟨h1, h2⟩ := feed_wire ws r hs hw
  rw [Receiver.feedAll_eq, hcut, Receiver.feed_append, feed_noSync _ h1 tail ht]
  exact ⟨h2, h1⟩

/-- a legacy frame with SYNC in its payload, noise around it, cut behind its first byte -/
theorem feedAll_wire_cut :
    let f : Frame := ⟨0x43, 5, [SYNC_BYTE, 1]⟩
    let wire := buildFrame .Legacy f
    let r := Receiver.feedAll {} [1 :: wire.take 1, wire.drop 1 ++ [0]]
    r.signals = [.frameReady f] ∧ r.codec.state = .WaitSync :=
  feedAll_wire [⟨[1], .Legacy, ⟨0x43, 5, [SYNC_BYTE, 1]⟩⟩] [0] _ {} rfl
    (by intro w hw
        rw [List.mem_singleton.mp hw]
        exact ⟨by decide, by decide⟩)
    (by decide) (by decide)

end QMon.Rpc
