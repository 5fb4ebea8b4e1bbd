import QMonstatek.Device.Closed

/-!
# What the handlers of the link are made of

`LinkPieces R`  the relation `R` holds across the pieces the session layer is made of: fields
                other than the operations, the SEQ counter and the outputs; outputs that are
                neither a frame nor an outcome; commands;
`LinkWork R`    and across the reports of the link and the opening of the serial port.

`LinkPieces.work`: for the second, the start of a session and its loss are enough.
`LinkWork.handle`: then `R` holds across the handler of every event that concerns the link alone,
and across the calls that connect, disconnect apart.
-/

namespace QMon.Device
open Rpc

/-- the signals of a request that has come to its end -/
def Signal.isOutcome : Signal → Bool
  | .fwUpdateComplete => true
  | .fwUpdateError _ => true
  | .espUpdateComplete => true
  | .espUpdateError _ => true
  | .bankEraseComplete => true
  | .bankEraseError _ => true
  | _ => false

def Out.isPlain : Out → Bool
  | .signal s => !s.isOutcome
  | .tx _ _ _ => false
  | .txRejected _ => false
  | _ => true

structure LinkPieces (R : Dev → Dev → Prop) : Prop where
  refl : ∀ d, R d d
  trans : ∀ {a b c}, R a b → R b c → R a c
  same : ∀ {d d'}, d'.ops = d.ops → d'.seqCounter = d.seqCounter → d'.out = d.out → R d d'
  put : ∀ (d : Dev) (o : Out), o.isPlain = true → R d (d.put o)
  send : ∀ (d : Dev) (cmd : UInt8) (payload : List UInt8), R d (d.sendCommand cmd payload)

structure LinkWork (R : Dev → Dev → Prop) : Prop extends LinkPieces R where
  up : ∀ d : Dev, R d (d.onTransportConnected true)
  lost : ∀ d : Dev, R d (d.onTransportConnected false)
  connect : ∀ (portName : String) (d : Dev), R d (d.connectToDevice portName).1

/-! ## Pieces -/

namespace LinkPieces

variable {R : Dev → Dev → Prop} (h : LinkPieces R)
include h

theorem emit (d : Dev) {s : Signal} (hs : s.isOutcome = false) : R d (d.emit s) :=
  h.put d (.signal s) (by simp [Out.isPlain, hs])

theorem relink (d : Dev) (l : Link) : R d { d with link := l } := h.same rfl rfl rfl

theorem scheduleSerialReconnect (portName : String) (delayMs : Int) (d : Dev) :
    R d (d.scheduleSerialReconnect portName delayMs) := by
  unfold Dev.scheduleSerialReconnect
  split
  · exact h.refl d
  · split <;> exact h.relink d _

theorem planReconnect (lastPort : String) (d : Dev) : R d (d.planReconnect lastPort) := by
  unfold Dev.planReconnect
  split
  · split
    · refine h.trans ?_ (h.relink _ _)
      split
      · exact h.put d _ rfl
      · exact h.refl d
    · exact h.refl d
  · split
    · exact h.trans (h.trans (h.put d _ rfl) (h.relink _ _)) (h.scheduleSerialReconnect _ _ _)
    · exact h.refl d

theorem lost (hdrop : ∀ d : Dev, R d d.dropSession) (d : Dev) :
    R d (d.onTransportConnected false) := by
  have planned := h.trans (hdrop d) (h.planReconnect d.link.targetName _)
  rw [onTransportConnected_false_eq]
  exact h.trans (h.trans planned (h.relink _ _)) (h.emit _ rfl)

theorem serialClose (hlost : ∀ d : Dev, R d (d.onTransportConnected false)) (d : Dev) :
    R d d.serialClose := by
  unfold Dev.serialClose
  split
  · dsimp only
    split
    · exact h.relink d _
    · exact h.trans (h.relink d _) (hlost _)
  · exact h.refl d

section
variable (hstart : ∀ d : Dev, R d d.startSession)
include hstart

theorem up (d : Dev) : R d (d.onTransportConnected true) := by
  have noted : R d (if d.onWifi then { d with link := { d.link with
      wifiWasConnected := true, wifiReconnectAttempts := 0, wifiReconnectTimer := none } }
      else d) := by
    split
    · exact h.relink d _
    · exact h.refl d
  have started (d1 : Dev) : R d1 (if d1.link.pendingSessionStart then
      Dev.startSession { d1 with link := { d1.link with pendingSessionStart := false } }
      else d1) := by
    split
    · exact h.trans (h.relink d1 _) (hstart _)
    · exact h.refl d1
  have rearmed (d1 : Dev) :
      R d1 (if d1.onWifi ∧ d1.screen.wanted then d1.startShot .rearmScreen else d1) := by
    split
    · exact h.same rfl rfl rfl
    · exact h.refl d1
  unfold Dev.onTransportConnected
  exact h.trans (h.trans (h.trans noted (started _)) (rearmed _)) (h.emit _ rfl)

variable (hdrop : ∀ d : Dev, R d d.dropSession)
include hdrop

theorem connectToDevice (portName : String) (d : Dev) : R d (d.connectToDevice portName).1 := by
  have opened : R d ((d.setTransport .serial).serialOpenPort portName).1 := by
    have closed : R d (d.setTransport .serial).serialClose :=
      h.trans (h.relink d _) (h.serialClose (h.lost hdrop) _)
    have named := h.trans closed (h.relink (d.setTransport .serial).serialClose
      { (d.setTransport .serial).serialClose.link with
        serialPort := (d.setTransport .serial).serialClose.link.shortPortName portName })
    unfold Dev.serialOpenPort
    dsimp only
    split
    · exact h.trans (h.trans named (h.relink _ _)) (h.up hstart _)
    · exact h.trans named (h.emit _ rfl)
  unfold Dev.connectToDevice
  dsimp only
  split
  · exact h.trans (h.trans (h.trans opened (h.relink _ _)) (h.relink _ _)) (hstart _)
  · exact opened

/-- **What starts a session and what drops one is enough.** -/
theorem work : LinkWork R where
  toLinkPieces := h
  up := h.up hstart
  lost := h.lost hdrop
  connect := h.connectToDevice hstart hdrop

end

end LinkPieces

namespace LinkWork

variable {R : Dev → Dev → Prop} (h : LinkWork R)
include h

/-! ## Opening and closing -/

theorem transportClose (d : Dev) : R d d.transportClose := by
  unfold Dev.transportClose
  split
  · exact h.put d _ rfl
  · exact h.serialClose h.lost d

theorem wifiOpen (target : String) (d : Dev) : R d (d.wifiOpen target).1 := by
  unfold Dev.wifiOpen
  split
  · exact h.emit d rfl
  · refine h.trans ?_ (h.put _ _ rfl)
    exact h.same rfl rfl rfl

theorem connectToDeviceWifi (hostPort : String) (d : Dev) :
    R d (d.connectToDeviceWifi hostPort) := by
  let d1 : Dev := { d.clearSerialReconnect with link := { d.clearSerialReconnect.link with
    wifiCreated := true, transport := .wifi, wifiTarget := hostPort
    userDisconnecting := false, pendingSessionStart := true } }
  have opened : R d (d1.wifiOpen hostPort).1 := by
    refine h.trans ?_ (h.wifiOpen hostPort d1)
    exact h.same rfl rfl rfl
  unfold Dev.connectToDeviceWifi
  dsimp only
  split
  · exact opened
  · refine h.trans opened ?_
    exact h.same rfl rfl rfl

theorem stopScreenStream (d : Dev) : R d d.stopScreenStream := by
  have disarm : R d (if d.onWifi = true then d.put .requestDisarm else d) := by
    split
    · exact h.put d _ rfl
    · exact h.refl d
  unfold Dev.stopScreenStream
  refine h.trans (h.trans (h.trans disarm (h.send _ CMD_SCREEN_STOP [])) ?_) (h.emit _ rfl)
  exact h.same rfl rfl rfl

theorem stopStreaming (d : Dev) : R d (if d.screen.streaming then d.stopScreenStream else d) := by
  split
  · exact h.stopScreenStream d
  · exact h.refl d

theorem startScreenStream (fps : Int) (d : Dev) : R d (d.startScreenStream fps) := by
  have sent (p q : List UInt8) : R d (if d.onWifi = true then
      (d.put .requestArm).sendCommand CMD_SCREEN_START p
      else d.sendCommand CMD_SCREEN_START q) := by
    split
    · exact h.trans (h.put d _ rfl) (h.send _ _ _)
    · exact h.send d _ _
  have shown {d1 : Dev} (h1 : R d d1) (screen : Screen) :
      R d (Dev.emit { d1 with screen := screen } (.screenStreamingChanged true)) := by
    refine h.trans (h.trans h1 ?_) (h.emit _ rfl)
    exact h.same rfl rfl rfl
  unfold Dev.startScreenStream
  exact shown (sent _ _) _

/-- `disconnect` up to its reset of the codec -/
theorem disconnect (hreset : ∀ d : Dev, R d d.resetCodec) (d : Dev) : R d d.disconnect := by
  have stopped {d1 : Dev} (h1 : R d d1) :
      R d (if d1.screen.streaming then d1.stopScreenStream else d1) :=
    h.trans h1 (h.stopStreaming d1)
  have closed {d2 : Dev} (h2 : R d d2) (l : Link) :
      R d (Dev.transportClose { d2 with link := l }).resetCodec := by
    refine h.trans (h.trans (h.trans h2 ?_) (h.transportClose _)) (hreset _)
    exact h.same rfl rfl rfl
  unfold Dev.disconnect
  refine closed (stopped ?_) _
  exact h.same rfl rfl rfl

/-! ## Reconnecting -/

theorem trySerialReconnect (d : Dev) : R d d.trySerialReconnect := by
  unfold Dev.trySerialReconnect
  split
  · exact h.refl d
  · split
    · exact h.same rfl rfl rfl
    · have attempt (l : Link) : R d
          (Dev.connectToDevice l.serialReconnectPort { d with link := l }).1 := by
        refine h.trans ?_ (h.connect _ _)
        exact h.same rfl rfl rfl
      dsimp only
      split
      · exact attempt _
      · exact h.trans (attempt _) (h.same rfl rfl rfl)

theorem tryWifiReconnect (d : Dev) : R d d.tryWifiReconnect := by
  unfold Dev.tryWifiReconnect
  split
  · exact h.refl d
  · refine h.trans ?_ (h.connectToDeviceWifi _ _)
    exact h.same rfl rfl rfl

theorem onDeviceFound (portName : String) (d : Dev) : R d (d.onDeviceFound portName) := by
  unfold Dev.onDeviceFound
  split
  · exact h.refl d
  · split
    · exact h.refl d
    · split
      · exact h.same rfl rfl rfl
      · dsimp only
        split
        · exact h.connect portName d
        · refine h.trans ?_ (h.scheduleSerialReconnect _ _ _)
          exact h.trans (h.connect portName d) (h.same rfl rfl rfl)

theorem onDeviceLost (portName : String) (d : Dev) : R d (d.onDeviceLost portName) := by
  unfold Dev.onDeviceLost
  split
  · refine h.trans ?_ (h.transportClose _)
    exact h.same rfl rfl rfl
  · exact h.refl d

theorem setPreferredSerialPort (portName : String) (d : Dev) :
    R d (d.setPreferredSerialPort portName) := by
  unfold Dev.setPreferredSerialPort
  dsimp only
  generalize trimmed portName = port
  split <;> exact h.same rfl rfl rfl

theorem setDeviceLogVerbose (on : Bool) (d : Dev) : R d (d.setDeviceLogVerbose on) := by
  unfold Dev.setDeviceLogVerbose
  dsimp only
  refine h.trans ?_ (h.emit _ rfl)
  split
  · refine h.trans ?_ (h.send _ _ _)
    exact h.same rfl rfl rfl
  · exact h.same rfl rfl rfl

theorem onPingTimer (d : Dev) : R d d.onPingTimer := by
  have missed : R d { d with keep := { d.keep with missedPongs := d.keep.missedPongs + 1 } } :=
    h.same rfl rfl rfl
  unfold Dev.onPingTimer
  split
  · exact h.refl d
  · dsimp only
    split
    · exact h.trans (h.trans missed (h.stopStreaming _)) (h.transportClose _)
    · refine h.trans ?_ (h.send _ _ _)
      exact h.same rfl rfl rfl

/-! ## Events -/

theorem expire (t : TimerId) (ht : (Event.expire t).OfLink) (d : Dev) : R d (d.expire t) := by
  unfold Dev.expire
  split
  · exact h.refl d
  · cases t with
    | ping => exact h.onPingTimer d
    | transfer k => exact ht.elim
    | wifiReconnect =>
      refine h.trans ?_ (h.tryWifiReconnect _)
      exact h.same rfl rfl rfl
    | serialReconnect =>
      refine h.trans ?_ (h.trySerialReconnect _)
      exact h.same rfl rfl rfl

theorem shot (s : Shot) (d : Dev) : R d (d.shot s) := by
  unfold Dev.shot
  split
  · exact h.refl d
  · let d1 : Dev := { d with shots := d.shots.erase s }
    have h1 : R d d1 := h.same rfl rfl rfl
    refine h.trans h1 ?_
    cases s with
    | requestDeviceInfo => exact h.send d1 _ _
    | closeLink =>
      dsimp only
      split
      · exact h.transportClose d1
      · exact h.refl d1
    | rearmScreen =>
      dsimp only
      split
      · exact h.startScreenStream d1.screen.fps d1
      · exact h.refl d1
    | trySerialReconnect => exact h.trySerialReconnect d1

theorem onWorkerConnected (d : Dev) : R d d.onWorkerConnected := by
  unfold Dev.onWorkerConnected
  dsimp only
  split
  · refine h.trans ?_ (h.up _)
    exact h.same rfl rfl rfl
  · exact h.same rfl rfl rfl

theorem onWorkerDisconnected (d : Dev) : R d d.onWorkerDisconnected := by
  unfold Dev.onWorkerDisconnected
  split
  · dsimp only
    split
    · refine h.trans ?_ (h.lost _)
      exact h.same rfl rfl rfl
    · exact h.same rfl rfl rfl
  · exact h.refl d

/-- **The events of the link.** -/
theorem handle (e : Event) (he : e.OfLink) (d : Dev) : R d (d.handle e) := by
  unfold Dev.handle
  cases e with
  | call c => exact he.elim
  | frame f dialect => exact he.elim
  | workerValidated dialect =>
    dsimp only
    split <;> exact h.same rfl rfl rfl
  | expire t => exact h.expire t he d
  | shot s => exact h.shot s d
  | serialError => exact h.serialClose h.lost d
  | transportError msg => exact h.emit d rfl
  | workerConnected =>
    dsimp only
    split
    · exact h.onWorkerConnected d
    · exact h.refl d
  | workerDisconnected => exact h.onWorkerDisconnected d
  | screenPortReady port =>
    dsimp only
    split <;> exact h.same rfl rfl rfl
  | inboundActivity =>
    dsimp only
    split <;> exact h.same rfl rfl rfl
  | deviceFound p => exact h.onDeviceFound p d
  | deviceLost p => exact h.onDeviceLost p d
  | setMdnsDiscovery present => exact h.same rfl rfl rfl
  | serviceFound address port =>
    dsimp only
    split
    · unfold Dev.onServiceFound
      split <;> exact h.same rfl rfl rfl
    · exact h.refl d
  | env env => exact h.same rfl rfl rfl

end LinkWork

end QMon.Device
