import QMonstatek.Protocol.Frame
import QMonstatek.Device.Bytes

/-!
# The socket worker

`network_worker.cpp`: the TCP control socket and the UDP screen socket on the worker thread.

A slot is a function `NetworkWorker → NetworkWorker`; what it emits and what it asks of the TCP
socket is collected in `out`, in order.  The socket's own state `tcp` is changed by the calls of
the worker here and, between them, by the network: `tcpEvent` is a change the network makes
together with the slots Qt then calls.  An image is a function of the framebuffer, which stands
for it in `screenFrame`.
-/

namespace QMon.Transport
open Rpc Device

def SCREEN_DGRAM_SIZE : Nat := 1032
def SCREEN_MAGIC0 : UInt8 := 0x53
def SCREEN_MAGIC1 : UInt8 := 0x43
def SCREEN_FB_OFFSET : Nat := 8
def SCREEN_FB_LEN : Nat := 1024
def kMaxPendingTx : Nat := 64

/-- `QAbstractSocket::SocketState` -/
inductive SocketState where
  | Unconnected
  | Connecting
  | Connected
  | Closing
  deriving DecidableEq, Repr

inductive WorkerOut where
  | connected
  | disconnected
  | socketError (message : String)
  | screenPortReady (udpPort : UInt16)
  | screenFrame (framebuffer : List UInt8)
  /-- `m_tcp->connectToHost` -/
  | tcpConnect (host : String) (port : UInt16)
  /-- `m_tcp->write` -/
  | tcpWrite (data : List UInt8)
  deriving DecidableEq, Repr

structure NetworkWorker where
  tcp : SocketState := .Unconnected
  udpPort : UInt16 := 0
  screenActive : Bool := false
  epochKnown : Bool := false
  epoch : UInt32 := 0
  /-- -1 for no frame yet -/
  lastSeq : Int := -1
  /-- the framebuffer of `m_screen` -/
  screen : List UInt8 := List.replicate SCREEN_FB_LEN 0
  pendingTx : List (List UInt8) := []
  out : List WorkerOut := []
  deriving DecidableEq, Repr

namespace NetworkWorker

def put (o : WorkerOut) (w : NetworkWorker) : NetworkWorker := { w with out := w.out ++ [o] }

/-! ## The TCP socket -/

def onTcpConnected (w : NetworkWorker) : NetworkWorker :=
  let w := w.pendingTx.foldl (fun w f => w.put (.tcpWrite f)) w
  { w with pendingTx := [] }.put .connected

def onTcpDisconnected (w : NetworkWorker) : NetworkWorker :=
  { w with screenActive := false, epochKnown := false, lastSeq := -1 }.put .disconnected

def onTcpError (message : String) (w : NetworkWorker) : NetworkWorker :=
  let w := w.put (.socketError message)
  if w.tcp = .Unconnected then w.put .disconnected else w

/-- `m_tcp->abort()`: the socket is unconnected at once, and says so if it was connected -/
def tcpAbort (w : NetworkWorker) : NetworkWorker :=
  if w.tcp = .Connected ∨ w.tcp = .Closing then
    { w with tcp := .Unconnected }.onTcpDisconnected
  else { w with tcp := .Unconnected }

/-- `udpBind` is the port `m_udp->bind` takes, `none` if it fails -/
def connectToHost (host : String) (port : UInt16) (udpBind : Option UInt16) (w : NetworkWorker) :
    NetworkWorker :=
  let w := if w.tcp ≠ .Unconnected then w.tcpAbort else w
  let w := if w.udpPort = 0 then { w with udpPort := udpBind.getD 0 } else w
  let w := w.put (.screenPortReady w.udpPort)
  { w with tcp := .Connecting }.put (.tcpConnect host port)

/-- a connected socket closes when its data is written; one that is still connecting goes on and
closes afterwards -/
def disconnectFromHost (w : NetworkWorker) : NetworkWorker :=
  let w := { w with pendingTx := [], screenActive := false }
  if w.tcp = .Connected then { w with tcp := .Closing } else w

def writeData (data : List UInt8) (w : NetworkWorker) : NetworkWorker :=
  if w.tcp ≠ .Connected then
    if w.pendingTx.length < kMaxPendingTx then { w with pendingTx := w.pendingTx ++ [data] }
    else w
  else w.put (.tcpWrite data)

/-- what the network does to the socket -/
inductive TcpEvent where
  /-- the attempt under way succeeds -/
  | established
  /-- the attempt under way fails -/
  | failed (message : String)
  /-- an error that leaves the connection as it is -/
  | error (message : String)
  /-- the connection ends, by the peer or as asked -/
  | closed
  deriving DecidableEq, Repr

/-- the socket changes its state, then the worker's slots run -/
def tcpEvent (e : TcpEvent) (w : NetworkWorker) : NetworkWorker :=
  match e with
  | .established =>
    if w.tcp = .Connecting then { w with tcp := .Connected }.onTcpConnected else w
  | .failed message =>
    if w.tcp = .Connecting then { w with tcp := .Unconnected }.onTcpError message else w
  | .error message => if w.tcp = .Connected then w.onTcpError message else w
  | .closed =>
    if w.tcp = .Connected ∨ w.tcp = .Closing then
      { w with tcp := .Unconnected }.onTcpDisconnected
    else w

/-! ## The screen socket -/

def armScreen (w : NetworkWorker) : NetworkWorker :=
  { w with screenActive := true, epochKnown := false, lastSeq := -1 }

def disarmScreen (w : NetworkWorker) : NetworkWorker := { w with screenActive := false }

/-- `frame_seq` of a datagram -/
def dgramSeq (p : List UInt8) : UInt16 := ofLe16 (p.getD 2 0) (p.getD 3 0)

def dgramEpoch (p : List UInt8) : UInt32 :=
  ofLe32 (p.getD 4 0) (p.getD 5 0) (p.getD 6 0) (p.getD 7 0)

/-- the framebuffer a datagram carries -/
def dgramFb (p : List UInt8) : List UInt8 := mid p SCREEN_FB_OFFSET SCREEN_FB_LEN

/-- `ScreenBuffer::update` -/
def screenUpdate (data : List UInt8) (w : NetworkWorker) : NetworkWorker × Bool :=
  if data.length ≠ SCREEN_FB_LEN then (w, false) else ({ w with screen := data }, true)

/-- `delta == 0 || delta > 0x7FFF`, counted from the last frame -/
def staleSeq (seq : UInt16) (w : NetworkWorker) : Bool :=
  let delta := seq - UInt16.ofNat w.lastSeq.toNat
  decide (w.lastSeq ≥ 0) && (delta == 0 || decide (delta > 0x7FFF))

/-- one turn of the loop of `onUdpReadyRead` -/
def takeDatagram (p : List UInt8) (w : NetworkWorker) : NetworkWorker :=
  if ¬ w.screenActive then w
  else if p.length ≠ SCREEN_DGRAM_SIZE then w
  else if p.getD 0 0 ≠ SCREEN_MAGIC0 ∨ p.getD 1 0 ≠ SCREEN_MAGIC1 then w
  else
    let seq := dgramSeq p
    let epoch := dgramEpoch p
    if w.epochKnown ∧ epoch ≠ w.epoch then w
    else
      let w := if w.epochKnown then w else { w with epoch := epoch, epochKnown := true }
      if w.staleSeq seq then w
      else
        let r := { w with lastSeq := seq.toNat }.screenUpdate (dgramFb p)
        if r.2 then r.1.put (.screenFrame r.1.screen) else r.1

def onUdpReadyRead (datagrams : List (List UInt8)) (w : NetworkWorker) : NetworkWorker :=
  datagrams.foldl (fun w p => w.takeDatagram p) w

end NetworkWorker

end QMon.Transport
