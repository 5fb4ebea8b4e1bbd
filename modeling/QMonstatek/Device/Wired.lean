import QMonstatek.Lib.Simulation
import QMonstatek.Protocol.ByteStream
import QMonstatek.Protocol.Sound
import QMonstatek.Protocol.Truncated
import QMonstatek.Device.Line

/-!
# The device object on its serial bytes

`Device.Step` takes validated frames as events.  Here the serial port delivers bytes: `Wired` is
the device object with the receive half of `m_codec`, `serial` one move of it.

    readyRead → dataReceived → m_codec.feed → frameReady → onFrameReceived

The slot of a frame runs inside `feed`.  No such slot closes the port, so the whole of a delivery
is read on an open port (`processByte_listens`); a call made in answer to a signal stands between
two parts of the delivery.  The frames of the WiFi worker come from a codec of its own and stay
events.

`reachable_iff`: bytes and frames reach the same states of the device object.
-/

namespace QMon.Device
open Rpc Run

/-! ## Resets of the codec -/

/-- the link is reported up or down -/
def Out.reportsLink : Out → Bool
  | .signal (.connectionChanged _) => true
  | _ => false

/-- whether the handler of `e` calls `m_codec.reset()`: in `disconnect`, in `startSession` and
when the link is lost -/
def Event.resetsCodec (e : Event) (d : Dev) : Bool :=
  match e with
  | .call .disconnect => true
  -- over WiFi the session starts only where one is asked for
  | .workerConnected => d.link.wifiCreated && d.onWifi && d.link.pendingSessionStart
  | e => (step e d).out.any Out.reportsLink

def Event.isFrame : Event → Bool
  | .frame _ _ => true
  | _ => false

/-! ## Moves -/

structure Wired where
  dev : Dev := init
  /-- `m_codec`; its `m_seqCounter` is `dev.seqCounter` -/
  codec : FrameCodec := {}

/-- the serial transport is active and its port open -/
def Wired.listens (x : Wired) : Bool := !x.dev.onWifi && x.dev.isConnected

/-- one byte of `m_codec.feed` -/
def Wired.processByte (b : UInt8) (x : Wired) : Wired :=
  let r := Receiver.processByte { codec := x.codec, session := x.dev.crc } b
  let d := { x.dev with crc := r.session }
  match r.signals with
  | .frameReady f :: _ => { dev := d.fresh.onFrameReceived f, codec := r.codec }
  | _ => { dev := d, codec := r.codec }

inductive SerialMove where
  /-- a delivery of the port, or a part of one -/
  | data (bytes : List UInt8)
  | event (e : Event)

def serial (m : SerialMove) (x : Wired) : Wired :=
  match m with
  | .data bytes => if x.listens then exec Wired.processByte bytes x else x
  | .event e =>
    -- on the serial transport frames come in bytes
    if e.isFrame && !x.dev.onWifi then x
    else
      { dev := step e x.dev
        codec := if e.resetsCodec x.dev then x.codec.reset else x.codec }

/-- no handler of a frame closes the port or leaves the serial transport -/
theorem processByte_listens (b : UInt8) (x : Wired) : (x.processByte b).listens = x.listens := by
  have hlink : (x.processByte b).dev.link = x.dev.link := by
    unfold Wired.processByte
    dsimp only
    split
    · exact (onFrameReceived_sameLink _ _).link
    · rfl
  unfold Wired.listens Dev.onWifi Dev.isConnected
  rw [hlink]

/-! ## One byte of the codec -/

/-- CMD, SEQ, LEN and payload: what the CRC of a frame is taken over -/
def frameBody (f : Frame) : List UInt8 :=
  frameHeader f.cmd f.seq (UInt16.ofNat f.payload.length) ++ f.payload

/-- the frame that is complete with `b`, and the dialect its CRC matches -/
def completes (c : FrameCodec) (b : UInt8) : Option (Frame × CrcDialect) :=
  let r := Receiver.processByte { codec := c } b
  match r.signals with
  | .frameReady f :: _ => some (f, r.session.txDialect)
  | _ => none

/-- the latch takes the dialect an open session would -/
theorem crc16ValidateRx_snd (data : List UInt8) (crc : UInt16) (s : CrcSession) :
    (crc16ValidateRx data crc s).2 = if (crc16ValidateRx data crc {}).1 then
      latchDialect (crc16ValidateRx data crc {}).2.txDialect s else s := by
  unfold crc16ValidateRx
  split
  · rfl
  · split <;> rfl

/-- the dialect a valid CRC is found in is the one its frame is taken for -/
theorem crc16ValidateRx_dialect {data : List UInt8} {crc : UInt16}
    (h : (crc16ValidateRx data crc {}).1 = true) :
    let d := (crc16ValidateRx data crc {}).2.txDialect
    d.crc data = crc ∧ d.takenFor data = d := by
  unfold crc16ValidateRx at h ⊢
  by_cases hc : crc16Ccitt data crcInit = crc
  · rw [if_pos hc]
    exact ⟨hc, ite_self _⟩
  · by_cases hl : crc16CcittLegacy data crcInit = crc
    · have hne : ¬ CrcDialect.crc .Correct data = CrcDialect.crc .Legacy data := fun he =>
        hc (he.trans hl)
      rw [if_neg hc, if_pos hl]
      exact ⟨hl, if_neg hne⟩
    · rw [if_neg hc, if_neg hl] at h
      exact absurd h Bool.false_ne_true

section
variable {c : FrameCodec} {b : UInt8} {f : Frame} {dialect : CrcDialect}

/-- the session only decides what becomes of the latch -/
theorem processByte_session (c : FrameCodec) (b : UInt8) (s : CrcSession) :
    Receiver.processByte { codec := c, session := s } b =
      { Receiver.processByte { codec := c } b with
        session := match completes c b with
          | some (_, dialect) => latchDialect dialect s
          | none => s } := by
  cases hs : c.state with
  | WaitSync =>
    by_cases hb : b = SYNC_BYTE
    · simp only [Receiver.processByte, completes, hs, hb, if_true]
    · simp only [Receiver.processByte, completes, hs, hb, if_false]
  | ReadHeader =>
    by_cases hl : (c.headerBuf ++ [b]).length = 4
    · simp only [Receiver.processByte, completes, hs, hl, if_true]
    · simp only [Receiver.processByte, completes, hs, hl, if_false]
  | ReadPayload =>
    by_cases hl : (c.payloadBuf ++ [b]).length = c.payloadLen.toNat
    · simp only [Receiver.processByte, completes, hs, hl, if_true]
    · simp only [Receiver.processByte, completes, hs, hl, if_false]
  | ReadCrc =>
    by_cases hl : (c.crcBuf ++ [b]).length = 2
    · simp only [Receiver.processByte, completes, hs, hl, if_true, finalizeFrame_eq,
        List.nil_append, verdict]
      rw [crc16ValidateRx_snd _ _ s]
      split <;> rfl
    · simp only [Receiver.processByte, completes, hs, hl, if_false]

/-- a frame is completed by the last of its bytes -/
theorem completes_some {tail : List UInt8} (hc : c.Holds tail)
    (h : completes c b = some (f, dialect)) :
    f.payload.length ≤ 8192 ∧ dialect.takenFor (frameBody f) = dialect ∧
      ∃ gap, tail ++ [b] = gap ++ buildFrame dialect f := by
  have hstep := byteStep { codec := c } b
  unfold completes at h
  dsimp only at h
  generalize Receiver.processByte { codec := c } b = r at hstep h
  cases hstep with
  | crcEnd lo hs hbuf =>
    have hstate : c.state = .ReadCrc := hs
    have hlo : c.crcBuf = [lo] := hbuf
    simp only [FrameCodec.Holds, hstate, hlo] at hc
    obtain ⟨⟨hhead, hmax⟩, hpay, -, gap, htail⟩ := hc
    have hlen : c.payloadBuf.length ≤ 8192 := hpay ▸ hmax
    have hbody : frameBody ⟨c.cmd, c.seq, c.payloadBuf⟩ = c.headerBuf ++ c.payloadBuf := by
      unfold frameBody
      rw [hpay, UInt16.ofNat_toNat, hhead]
    simp only [List.nil_append, verdict, ← hbody] at h
    by_cases hv : (crc16ValidateRx (frameBody ⟨c.cmd, c.seq, c.payloadBuf⟩) (ofLe16 lo b)
        {}).1 = true
    · rw [if_pos hv] at h
      obtain ⟨rfl, rfl⟩ := Prod.mk.inj (Option.some.inj h)
      obtain ⟨hcrc, htaken⟩ := crc16ValidateRx_dialect hv
      refine ⟨hlen, htaken, gap, ?_⟩
      rw [htail, ← hbody]
      refine Eq.trans ?_ (congrArg (gap ++ ·) (buildFrame_of_crc hlen hcrc).symm)
      simp [frameBody]
    · rw [if_neg hv] at h
      exact absurd h (by simp)
  | skip hs hb => exact absurd h (by simp)
  | sync hs hb => exact absurd h (by simp)
  | header hs hl => exact absurd h (by simp)
  | headerEnd hs hl => exact absurd h (by simp)
  | payload hs hl => exact absurd h (by simp)
  | payloadEnd hs hl => exact absurd h (by simp)
  | crc hs hl => exact absurd h (by simp)

/-- the buffers fit the state after one more byte -/
theorem holds_processByte {tail : List UInt8} (hc : c.Holds tail) (b : UInt8) :
    ∃ tail', (Receiver.processByte { codec := c } b).codec.Holds tail' := by
  have hparsed : Parsed tail { codec := c } := ⟨[], tail, rfl, .nil, hc⟩
  obtain ⟨-, tail', -, -, h⟩ := hparsed.processByte b
  exact ⟨tail', h⟩

end

/-! ## Bytes are frames -/

/-- the event that a byte is to the device object -/
def byteEvents (b : UInt8) (x : Wired) : List Event :=
  match completes x.codec b with
  | some (f, dialect) => [.frame f dialect]
  | none => []

def moveEvents (m : SerialMove) (x : Wired) : List Event :=
  match m with
  | .data bytes => if x.listens then traces Wired.processByte byteEvents bytes x else []
  | .event e => if e.isFrame && !x.dev.onWifi then [] else [e]

/-- the buffers of the codec fit its state -/
def Wired.Sound (x : Wired) : Prop := ∃ tail, x.codec.Holds tail

/-- what a frame event is on the serial transport: of a frame that fits, on an open port, with
the dialect the codec finds -/
def Event.OnTheWire (e : Event) (d : Dev) : Prop :=
  ∀ f dialect, e = .frame f dialect → d.onWifi = false →
    d.isConnected = true ∧ f.payload.length ≤ 8192 ∧ dialect.takenFor (frameBody f) = dialect

theorem validated_serial {d : Dev} (h : d.onWifi = false) (dialect : CrcDialect) :
    d.validated dialect = { d with crc := latchDialect dialect d.crc } := by
  unfold Dev.validated
  rw [h]
  rfl

section
variable {x : Wired}

theorem Wired.listens_iff : x.listens = true ↔ x.dev.onWifi = false ∧ x.dev.isConnected = true := by
  unfold Wired.listens
  rw [Bool.and_eq_true, Bool.not_eq_true']

theorem processByte_dev (b : UInt8) (hl : x.listens = true) :
    (x.processByte b).dev = exec step (byteEvents b x) x.dev := by
  obtain ⟨hwifi, hconn⟩ := Wired.listens_iff.mp hl
  unfold Wired.processByte byteEvents
  rw [processByte_session]
  unfold completes
  generalize Receiver.processByte { codec := x.codec } b = r
  obtain ⟨codec, session, signals⟩ := r
  cases signals with
  | nil => rfl
  | cons signal rest =>
    cases signal with
    | frameReady f =>
      have hstep : step (.frame f session.txDialect) x.dev =
          Dev.onFrameReceived f (x.dev.fresh.validated session.txDialect) := if_pos hconn
      have hwifi' : x.dev.fresh.onWifi = false := hwifi
      refine Eq.trans ?_ hstep.symm
      rw [validated_serial hwifi']
      rfl
    | frameCrcError cmd seq => rfl

theorem processByte_sound (b : UInt8) (h : x.Sound) : (x.processByte b).Sound := by
  obtain ⟨tail, h⟩ := h
  unfold Wired.processByte
  rw [processByte_session]
  dsimp only
  split <;> exact holds_processByte h b

/-- what a delivery needs and keeps -/
def Wired.Reads (x : Wired) : Prop := x.listens = true ∧ x.Sound

theorem processByte_reads (b : UInt8) (h : x.Reads) : (x.processByte b).Reads :=
  ⟨(processByte_listens b x).trans h.1, processByte_sound b h.2⟩

theorem byteEvents_onTheWire (b : UInt8) (h : x.Reads) :
    Along step Event.OnTheWire (byteEvents b x) x.dev := by
  obtain ⟨hl, tail, h⟩ := h
  unfold byteEvents
  split
  · rename_i f dialect hf
    obtain ⟨hlen, htaken, -⟩ := completes_some h hf
    refine ⟨fun f' dialect' he hwifi => ?_, trivial⟩
    obtain ⟨rfl, rfl⟩ := Event.frame.inj he
    exact ⟨(Wired.listens_iff.mp hl).2, hlen, htaken⟩
  · trivial

end

theorem serial_dev (m : SerialMove) (x : Wired) (h : x.Sound) :
    (serial m x).dev = exec step (moveEvents m x) x.dev := by
  cases m with
  | data bytes =>
    unfold serial moveEvents
    dsimp only
    split
    · rename_i hl
      exact exec_traces (I := Wired.Reads) (fun b _ h => processByte_dev b h.1)
        (fun b _ => processByte_reads b) bytes x ⟨hl, h⟩
    · rfl
  | event e =>
    unfold serial moveEvents
    dsimp only
    split <;> rfl

theorem serial_sound (m : SerialMove) (x : Wired) (h : x.Sound) : (serial m x).Sound := by
  unfold serial
  cases m with
  | data bytes =>
    dsimp only
    split
    · exact exec_inv _ (fun b _ => processByte_sound b) bytes x h
    · exact h
  | event e =>
    dsimp only
    split
    · exact h
    · unfold Wired.Sound
      dsimp only
      split
      · exact ⟨[], trivial⟩
      · exact h

theorem moveEvents_onTheWire (m : SerialMove) (x : Wired) (h : x.Sound) :
    Along step Event.OnTheWire (moveEvents m x) x.dev := by
  unfold moveEvents
  cases m with
  | data bytes =>
    dsimp only
    split
    · rename_i hl
      exact along_traces (fun b _ h => processByte_dev b h.1) (fun b _ => processByte_reads b)
        (fun b _ => byteEvents_onTheWire b) bytes x ⟨hl, h⟩
    · trivial
  | event e =>
    dsimp only
    split
    · trivial
    · rename_i hn
      refine ⟨fun f dialect he hwifi => absurd ?_ hn, trivial⟩
      rw [he, hwifi]
      rfl

/-! ## Frames are bytes -/

/-- two dialects that are taken for themselves are told apart by the CRC -/
theorem dialect_of_crc {d d' : CrcDialect} {data : List UInt8} (h : d.takenFor data = d)
    (h' : d'.takenFor data = d') (hcrc : d.crc data = d'.crc data) : d = d' := by
  unfold CrcDialect.takenFor at h h'
  rw [hcrc] at h
  split at h
  · rename_i hc
    rw [if_pos hc] at h'
    exact h.symm.trans h'
  · rename_i hc
    have hne : d ≠ .Correct := fun he => hc (he ▸ hcrc)
    have hne' : d' ≠ .Correct := fun he => hc (he ▸ rfl)
    cases d <;> cases d' <;> first | rfl | exact absurd rfl hne | exact absurd rfl hne'

theorem processByte_signals (r : Receiver) (b : UInt8) :
    r.signals <+: (r.processByte b).signals := by
  have hstep := byteStep r b
  generalize r.processByte b = r' at hstep ⊢
  cases hstep with
  | crcEnd lo hs hc => exact List.prefix_append _ _
  | _ => exact List.prefix_refl _

theorem feed_signals (l : List UInt8) (r : Receiver) : r.signals <+: (r.feed l).signals := by
  induction l generalizing r with
  | nil => exact List.prefix_refl _
  | cons b l ih => exact (processByte_signals r b).trans (ih _)

/-- bytes that complete no frame only fill the buffers -/
theorem processBytes_unsignalled (l : List UInt8) (x : Wired)
    (h : (Receiver.feed { codec := x.codec } l).signals = []) :
    ∃ c, Receiver.feed { codec := x.codec } l = { codec := c } ∧
      exec Wired.processByte l x = { x with codec := c } := by
  induction l generalizing x with
  | nil => exact ⟨x.codec, rfl, rfl⟩
  | cons b l ih =>
    rw [Receiver.feed_cons] at h ⊢
    have hnone : (Receiver.processByte { codec := x.codec } b).signals = [] := by
      have hprefix := feed_signals l (Receiver.processByte { codec := x.codec } b)
      rw [h] at hprefix
      exact List.prefix_nil.mp hprefix
    have hsession : completes x.codec b = none := by
      unfold completes
      dsimp only
      rw [hnone]
    have hbyte : Receiver.processByte { codec := x.codec } b =
        { codec := (Receiver.processByte { codec := x.codec } b).codec } := by
      rw [processByte_session, hsession]
      exact congrArg (Receiver.mk _ _) hnone
    have hx : x.processByte b =
        { x with codec := (Receiver.processByte { codec := x.codec } b).codec } := by
      unfold Wired.processByte
      rw [processByte_session, hsession]
      dsimp only
      rw [hnone]
    rw [hbyte] at h ⊢
    rw [exec_cons, hx]
    exact ih { x with codec := _ } h

/-- the bytes of a frame and the last of them -/
theorem buildFrame_last (d : CrcDialect) (f : Frame) (hlen : f.payload.length ≤ 8192) :
    ∃ l b, buildFrame d f = l ++ [b] ∧ Unfinished l := by
  obtain ⟨lo, hi, himage, -⟩ := buildFrame_image d f hlen
  obtain ⟨l0, l1, hl, hback⟩ := le16_bytes (UInt16.ofNat f.payload.length)
  have hn : (ofLe16 l0 l1).toNat = f.payload.length := by rw [hback, ofNat_toNat_of_le hlen]
  refine ⟨SYNC_BYTE :: f.cmd :: f.seq :: l0 :: l1 :: (f.payload ++ [lo]), hi, ?_, .inr ⟨_, rfl,
    .inr ⟨f.cmd, f.seq, l0, l1, f.payload ++ [lo], rfl, hn ▸ hlen, ?_⟩⟩⟩
  · rw [himage]
    unfold image
    rw [← hback, frameHeader_ofLe16]
    simp
  · rw [hn, List.length_append]
    exact Nat.lt_succ_self _

/-- the bytes of a frame tell its dialect -/
theorem dialect_of_buildFrame {d d' : CrcDialect} {f : Frame} (hlen : f.payload.length ≤ 8192)
    (h : d.takenFor (frameBody f) = d) (h' : d'.takenFor (frameBody f) = d')
    (hbytes : buildFrame d f = buildFrame d' f) : d = d' := by
  rw [buildFrame_eq d f hlen, buildFrame_eq d' f hlen] at hbytes
  exact dialect_of_crc h h' (le16_inj (List.append_cancel_left hbytes))

/-- a codec that was fed from between two frames holds the input -/
theorem holds_of_feed {c c' : FrameCodec} (hs : c.state = .WaitSync) {l : List UInt8}
    (hfeed : Receiver.feed { codec := c } l = { codec := c' }) : c'.Holds l := by
  have hparsed : Parsed [] { codec := c } := by
    refine ⟨[], [], rfl, .nil, ?_⟩
    simp only [FrameCodec.Holds, hs]
  obtain ⟨parts, tail, hinput, hparts, htail⟩ := hparsed.feed l
  rw [hfeed] at hparts htail
  cases hparts
  rw [List.nil_append] at hinput
  exact hinput ▸ htail

/-- what the last byte of a frame completes is the frame, in its own dialect -/
theorem completes_buildFrame {c : FrameCodec} {l : List UInt8} {b : UInt8} (hc : c.Holds l)
    {f : Frame} {dialect : CrcDialect} (hlen : f.payload.length ≤ 8192)
    (htaken : dialect.takenFor (frameBody f) = dialect) (hbytes : buildFrame dialect f = l ++ [b])
    (hsig : (Receiver.processByte { codec := c } b).signals = [.frameReady f]) :
    completes c b = some (f, dialect) := by
  obtain ⟨d, hd⟩ : ∃ d, completes c b = some (f, d) := by
    unfold completes
    dsimp only
    rw [hsig]
    exact ⟨_, rfl⟩
  obtain ⟨-, htaken', gap, hgap⟩ := completes_some hc hd
  rw [← hbytes] at hgap
  -- a frame has one length in every dialect, so nothing stands before it
  have hnil : gap = [] := by
    have hlength := congrArg List.length hgap
    rw [List.length_append, buildFrame_length dialect f hlen,
      buildFrame_length d f hlen] at hlength
    exact List.length_eq_zero_iff.mp (by omega)
  rw [hnil, List.nil_append] at hgap
  rw [hd, dialect_of_buildFrame hlen htaken' htaken hgap.symm]

/-- **The bytes of a frame are its event.** -/
theorem data_buildFrame {x : Wired} (hl : x.listens = true) (hs : x.codec.state = .WaitSync)
    {f : Frame} {dialect : CrcDialect} (hlen : f.payload.length ≤ 8192)
    (htaken : dialect.takenFor (frameBody f) = dialect) :
    (serial (.data (buildFrame dialect f)) x).dev = step (.frame f dialect) x.dev ∧
      (serial (.data (buildFrame dialect f)) x).codec.state = .WaitSync := by
  obtain ⟨l, b, hbytes, hopen⟩ := buildFrame_last dialect f hlen
  obtain ⟨hstate, hsig⟩ := feed_buildFrame { codec := x.codec } hs dialect f hlen
  have hnone := feed_unfinished (r := { codec := x.codec }) hs hopen
  obtain ⟨c, hfeed, hx⟩ := processBytes_unsignalled l x hnone
  rw [hbytes, Receiver.feed_append, hfeed] at hstate hsig
  have hsig : (Receiver.processByte { codec := c } b).signals = [.frameReady f] := hsig
  have hd := completes_buildFrame (holds_of_feed hs hfeed) hlen htaken hbytes hsig
  have hmove : serial (.data (buildFrame dialect f)) x =
      Wired.processByte b { x with codec := c } := by
    refine (if_pos hl).trans ?_
    rw [hbytes, exec_append, hx]
    rfl
  have hl' : ({ x with codec := c } : Wired).listens = true := hl
  rw [hmove]
  constructor
  · rw [processByte_dev b hl']
    unfold byteEvents
    rw [hd]
    rfl
  · unfold Wired.processByte
    rw [processByte_session]
    dsimp only
    rw [hsig]
    exact hstate

/-! ## The two machines -/

/-- between its frames the codec waits for SYNC -/
theorem onTheWire_realised (e : Event) (x : Wired) (hs : x.codec.state = .WaitSync)
    (h : e.OnTheWire x.dev) : ∃ ms, (exec serial ms x).dev = step e x.dev ∧
      (exec serial ms x).codec.state = .WaitSync := by
  by_cases hf : (e.isFrame && !x.dev.onWifi) = true
  · obtain ⟨hframe, hwifi⟩ := Bool.and_eq_true_iff.mp hf
    obtain ⟨f, dialect, rfl⟩ : ∃ f dialect, e = .frame f dialect := by
      cases e with
      | frame f dialect => exact ⟨f, dialect, rfl⟩
      | _ => exact absurd hframe Bool.false_ne_true
    obtain ⟨hconn, hlen, htaken⟩ := h f dialect rfl (by simpa using hwifi)
    have hl : x.listens = true := Bool.and_eq_true_iff.mpr ⟨hwifi, hconn⟩
    exact ⟨[.data (buildFrame dialect f)], data_buildFrame hl hs hlen htaken⟩
  · have hmove : exec serial [.event e] x =
        { dev := step e x.dev
          codec := if e.resetsCodec x.dev then x.codec.reset else x.codec } := if_neg hf
    refine ⟨[.event e], by rw [hmove], ?_⟩
    rw [hmove]
    dsimp only
    split
    · rfl
    · exact hs

/-- **Bytes and frames reach the same states.**  A run over the bytes of the serial port, valid or
not and cut anywhere, is a run over the frames the codec has validated; and every run over frames
that fit is one over bytes. -/
theorem reachable_iff (d : Dev) : (∃ ms, d = (exec serial ms {}).dev) ↔
    ∃ es, Along step Event.OnTheWire es init ∧ d = exec step es init := by
  constructor
  · rintro ⟨ms, rfl⟩
    have h0 : Wired.Sound {} := ⟨[], trivial⟩
    refine ⟨traces serial moveEvents ms {}, ?_, exec_traces serial_dev serial_sound ms {} h0⟩
    exact along_traces serial_dev serial_sound moveEvents_onTheWire ms {} h0
  · rintro ⟨es, hok, rfl⟩
    obtain ⟨ms, h⟩ := exec_realised onTheWire_realised es {} rfl hok
    exact ⟨ms, h.symm⟩

end QMon.Device
