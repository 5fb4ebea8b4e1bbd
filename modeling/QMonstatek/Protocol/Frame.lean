import QMonstatek.Protocol.Crc16

/-!
# The RPC frame codec

`rpc_frame.cpp`: `buildFrame` writes a frame, `processByte` reads the stream one byte at a time.

    [0xAA] [CMD:1] [SEQ:1] [LEN:2 LE] [PAYLOAD:LEN] [CRC16:2 LE]

A `Receiver` is a codec with the dialect session its `crc16ValidateRx` calls work on and the
signals it has emitted so far, oldest first.
-/

namespace QMon.Rpc

def SYNC_BYTE : UInt8 := 0xAA
def MAX_PAYLOAD : UInt16 := 8192

structure Frame where
  cmd : UInt8 := 0
  seq : UInt8 := 0
  payload : List UInt8 := []
  deriving DecidableEq, Repr

/-- the two bytes of a 16-bit value, low byte first -/
def le16 (v : UInt16) : List UInt8 := [(v &&& 0xFF).toUInt8, ((v >>> 8) &&& 0xFF).toUInt8]

/-- `lo | (hi << 8)` -/
def ofLe16 (lo hi : UInt8) : UInt16 := lo.toUInt16 ||| (hi.toUInt16 <<< 8)

/-- CMD, SEQ and LEN, the part of a frame between SYNC and the payload -/
def frameHeader (cmd seq : UInt8) (len : UInt16) : List UInt8 := [cmd, seq] ++ le16 len

/-- `FrameCodec::buildFrame(cmd, seq, payload, len)`: `payload` is the whole buffer, of which the
first `len` bytes go into the frame -/
def buildFrameRaw (d : CrcDialect) (cmd seq : UInt8) (payload : List UInt8) (len : UInt16) :
    List UInt8 :=
  let body := frameHeader cmd seq len ++ payload.take len.toNat
  SYNC_BYTE :: body ++ le16 (d.crc body)

/-- `FrameCodec::buildFrame(cmd, seq, payload)`: the length is cast to 16 bits -/
def buildFrame (d : CrcDialect) (f : Frame) : List UInt8 :=
  buildFrameRaw d f.cmd f.seq f.payload (UInt16.ofNat f.payload.length)

/-! ## The receiver -/

inductive CodecState where
  | WaitSync
  | ReadHeader
  | ReadPayload
  | ReadCrc
  deriving DecidableEq, Repr

structure FrameCodec where
  state : CodecState := .WaitSync
  /-- CMD + SEQ + LEN (4 bytes) -/
  headerBuf : List UInt8 := []
  payloadBuf : List UInt8 := []
  crcBuf : List UInt8 := []
  cmd : UInt8 := 0
  seq : UInt8 := 0
  payloadLen : UInt16 := 0
  seqCounter : UInt8 := 0
  deriving DecidableEq, Repr

/-- the two signals of the codec -/
inductive CodecSignal where
  | frameReady (frame : Frame)
  | frameCrcError (cmd seq : UInt8)
  deriving DecidableEq, Repr

structure Receiver where
  codec : FrameCodec := {}
  session : CrcSession := {}
  signals : List CodecSignal := []
  deriving DecidableEq, Repr

def FrameCodec.reset (_ : FrameCodec) : FrameCodec :=
  { state := .WaitSync, headerBuf := [], payloadBuf := [], crcBuf := [], cmd := 0, seq := 0,
    payloadLen := 0, seqCounter := 0 }

def FrameCodec.nextSeq (c : FrameCodec) : UInt8 × FrameCodec :=
  (c.seqCounter, { c with seqCounter := c.seqCounter + 1 })

def Receiver.finalizeFrame (r : Receiver) : Receiver :=
  let c := r.codec
  let crcData := c.headerBuf ++ c.payloadBuf
  let received := ofLe16 (c.crcBuf.getD 0 0) (c.crcBuf.getD 1 0)
  let v := crc16ValidateRx crcData received r.session
  if v.1 then
    { r with session := v.2, signals := r.signals ++ [.frameReady ⟨c.cmd, c.seq, c.payloadBuf⟩] }
  else
    { r with session := v.2, signals := r.signals ++ [.frameCrcError c.cmd c.seq] }

/-- the header is complete: CMD, SEQ and LEN are taken from it -/
def FrameCodec.parseHeader (c : FrameCodec) : FrameCodec :=
  let c := { c with
    cmd := c.headerBuf.getD 0 0
    seq := c.headerBuf.getD 1 0
    payloadLen := ofLe16 (c.headerBuf.getD 2 0) (c.headerBuf.getD 3 0) }
  if c.payloadLen > MAX_PAYLOAD then { c with state := .WaitSync }
  else
    let c := { c with payloadBuf := [] }
    if c.payloadLen = 0 then { c with crcBuf := [], state := .ReadCrc }
    else { c with state := .ReadPayload }

def Receiver.processByte (r : Receiver) (byte : UInt8) : Receiver :=
  let c := r.codec
  match c.state with
  | .WaitSync =>
    if byte = SYNC_BYTE then { r with codec := { c with headerBuf := [], state := .ReadHeader } }
    else r
  | .ReadHeader =>
    let c := { c with headerBuf := c.headerBuf ++ [byte] }
    if c.headerBuf.length = 4 then { r with codec := c.parseHeader }
    else { r with codec := c }
  | .ReadPayload =>
    let c := { c with payloadBuf := c.payloadBuf ++ [byte] }
    if c.payloadBuf.length = c.payloadLen.toNat then
      { r with codec := { c with crcBuf := [], state := .ReadCrc } }
    else { r with codec := c }
  | .ReadCrc =>
    let c := { c with crcBuf := c.crcBuf ++ [byte] }
    if c.crcBuf.length = 2 then
      let r := Receiver.finalizeFrame { r with codec := c }
      { r with codec := { r.codec with state := .WaitSync } }
    else { r with codec := c }

def Receiver.feed (r : Receiver) (data : List UInt8) : Receiver := data.foldl processByte r

/-- one `feed` call after another -/
def Receiver.feedAll (r : Receiver) (chunks : List (List UInt8)) : Receiver := chunks.foldl feed r

/-! ## Feeding -/

theorem Receiver.feed_nil (r : Receiver) : r.feed [] = r := rfl
theorem Receiver.feed_cons (r : Receiver) (b : UInt8) (l : List UInt8) :
    r.feed (b :: l) = (r.processByte b).feed l := rfl
theorem Receiver.feed_append (r : Receiver) (a b : List UInt8) :
    r.feed (a ++ b) = (r.feed a).feed b := List.foldl_append

/-- where the stream is cut into `feed` calls does not matter -/
theorem Receiver.feedAll_eq (r : Receiver) (chunks : List (List UInt8)) :
    r.feedAll chunks = r.feed chunks.flatten := by
  induction chunks generalizing r with
  | nil => rfl
  | cons a chunks ih =>
    show (r.feed a).feedAll chunks = _
    rw [ih, List.flatten_cons, Receiver.feed_append]

/-! ## Little-endian 16-bit values -/

theorem ofLe16_toNat (lo hi : UInt8) : (ofLe16 lo hi).toNat = lo.toNat + 256 * hi.toNat := by
  have hl := lo.toNat_lt
  have hh := hi.toNat_lt
  have hs : hi.toNat <<< 8 = 256 * hi.toNat := by rw [Nat.shiftLeft_eq]; omega
  have hor : lo.toNat ||| hi.toNat <<< 8 = hi.toNat <<< 8 + lo.toNat := by
    rw [Nat.or_comm]
    exact (Nat.shiftLeft_add_eq_or_of_lt hl hi.toNat).symm
  unfold ofLe16
  rw [UInt16.toNat_or, UInt16.toNat_shiftLeft]
  simp only [UInt8.toNat_toUInt16, UInt16.reduceToNat, Nat.reduceMod]
  rw [Nat.mod_eq_of_lt (by omega), hor]
  omega

theorem le16_getD_zero (v : UInt16) : ((le16 v).getD 0 0).toNat = v.toNat % 256 := by
  show ((v &&& 0xFF).toUInt8).toNat = _
  rw [UInt16.toNat_toUInt8, UInt16.toNat_and]
  have : (0xFF : UInt16).toNat = 2 ^ 8 - 1 := rfl
  rw [this, Nat.and_two_pow_sub_one_eq_mod]
  omega

theorem le16_getD_one (v : UInt16) : ((le16 v).getD 1 0).toNat = v.toNat / 256 := by
  show (((v >>> 8) &&& 0xFF).toUInt8).toNat = _
  have hv := v.toNat_lt
  rw [UInt16.toNat_toUInt8, UInt16.toNat_and, UInt16.toNat_shiftRight]
  have h1 : (0xFF : UInt16).toNat = 2 ^ 8 - 1 := rfl
  have h2 : (8 : UInt16).toNat % 16 = 8 := rfl
  rw [h1, h2, Nat.and_two_pow_sub_one_eq_mod, Nat.shiftRight_eq_div_pow]
  omega

/-- reading back what `le16` wrote -/
theorem ofLe16_le16 (v : UInt16) : ofLe16 ((le16 v).getD 0 0) ((le16 v).getD 1 0) = v := by
  apply UInt16.toNat_inj.mp
  rw [ofLe16_toNat, le16_getD_zero, le16_getD_one]
  omega

/-- writing back what `ofLe16` read -/
theorem le16_ofLe16 (lo hi : UInt8) : le16 (ofLe16 lo hi) = [lo, hi] := by
  have hl := lo.toNat_lt
  have h0 : (le16 (ofLe16 lo hi)).getD 0 0 = lo := by
    apply UInt8.toNat_inj.mp
    rw [le16_getD_zero, ofLe16_toNat]
    omega
  have h1 : (le16 (ofLe16 lo hi)).getD 1 0 = hi := by
    apply UInt8.toNat_inj.mp
    rw [le16_getD_one, ofLe16_toNat]
    omega
  show [(le16 (ofLe16 lo hi)).getD 0 0, (le16 (ofLe16 lo hi)).getD 1 0] = _
  rw [h0, h1]

/-- the bytes that are written, and what is read back from them -/
theorem le16_bytes (v : UInt16) : ∃ lo hi, le16 v = [lo, hi] ∧ ofLe16 lo hi = v :=
  ⟨_, _, rfl, ofLe16_le16 v⟩

theorem frameHeader_ofLe16 (cmd seq lo hi : UInt8) :
    frameHeader cmd seq (ofLe16 lo hi) = [cmd, seq, lo, hi] := by
  unfold frameHeader
  rw [le16_ofLe16]
  rfl

end QMon.Rpc
