import QMonstatek.Device.Closed

/-!
# What the operations leave of the link

`requests out`   the TCP requests to the WiFi worker in `out`, oldest first;
`SameLink d d'`  from `d` to `d'` the link is untouched and the worker is asked nothing.

Only connecting, closing and the reports of the transports work on the link: every other call and
an inbound frame are `SameLink`.
-/

namespace QMon.Device
open Rpc

/-- what the facade asks of the worker's TCP socket -/
inductive Request where
  | connectToHost (host : String) (port : UInt16)
  | disconnectFromHost
  deriving DecidableEq, Repr

def Out.request? : Out → Option Request
  | .requestConnect host port => some (.connectToHost host port)
  | .requestDisconnect => some .disconnectFromHost
  | _ => none

def requests (out : List Out) : List Request := out.filterMap Out.request?

theorem requests_put (d : Dev) (o : Out) :
    requests (d.put o).out = requests d.out ++ o.request?.toList := d.filterMap_put _ o

structure SameLink (d d' : Dev) : Prop where
  link : d'.link = d.link
  requests : requests d'.out = requests d.out

theorem sameLink_closed : Closed (fun o => o.request? = none) SameLink where
  refl _ := ⟨rfl, rfl⟩
  trans h h' := ⟨h'.link.trans h.link, h'.requests.trans h.requests⟩
  update hl _ ho := ⟨hl, by rw [ho]⟩
  put d o ho := ⟨rfl, by rw [requests_put, ho]; exact List.append_nil _⟩
  quiet o ho := by cases o <;> first | rfl | exact absurd ho Bool.false_ne_true

theorem dropSession_link (d : Dev) : d.dropSession.link = d.link :=
  (sameLink_closed.handled.dropSession (fun _ => ⟨rfl, rfl⟩) d).link

/-- what only changes the link asks the worker nothing -/
theorem sameRequests_relinking :
    Relinking (fun o => o.request? = none) (fun d d' => requests d'.out = requests d.out) where
  refl _ := rfl
  trans h h' := h'.trans h
  update _ _ ho := by rw [ho]
  put d o ho := by rw [requests_put, ho]; exact List.append_nil _
  quiet o ho := sameLink_closed.quiet o ho
  relink _ _ := rfl
  ports o ho := by cases o <;> first | rfl | exact absurd ho Bool.false_ne_true

theorem handleFileReadData_sameLink (payload : List UInt8) (d : Dev) :
    SameLink d (d.handleFileReadData payload) := by
  have drop (buf : List UInt8) :
      SameLink d { d with download := { d.download with buf := buf } } := ⟨rfl, rfl⟩
  have put {a : Dev} (h : SameLink d a) (o : Out) (ho : o.request? = none) :
      SameLink d (a.put o) := sameLink_closed.trans h (sameLink_closed.put a o ho)
  unfold Dev.handleFileReadData
  split
  · exact ⟨rfl, rfl⟩
  · dsimp only
    split
    · split
      · exact put (put (drop []) _ rfl) _ rfl
      · exact put (drop []) _ rfl
    · exact drop _

theorem onFrameReceived_sameLink (f : Frame) (d : Dev) : SameLink d (d.onFrameReceived f) :=
  sameLink_closed.handled.onFrameReceived f d (fun _ _ _ => rfl) (fun _ _ => ⟨rfl, rfl⟩)
    (fun _ => handleFileReadData_sameLink _ _)

theorem startScreenStream_sameLink (fps : Int) (d : Dev) : SameLink d (d.startScreenStream fps) :=
  sameLink_closed.handled.startScreenStream sameLink_closed.showing fps d

theorem stopStreaming_sameLink (d : Dev) :
    SameLink d (if d.screen.streaming then d.stopScreenStream else d) :=
  sameLink_closed.handled.stopStreaming d fun _ => sameLink_closed.stopping

theorem call_sameLink (c : Call) (d : Dev) (h : ¬ c.Links) : SameLink d (d.call c) := by
  cases c with
  | downloadFile r l =>
    let d1 : Dev := { d with download := { buf := [], dest := l } }
    have h1 : SameLink d d1 := ⟨rfl, rfl⟩
    exact sameLink_closed.trans h1 (sameLink_closed.handled.send d1 _ _)
  | _ =>
    exact sameLink_closed.handled.call _ d h id sameLink_closed.showing
      fun _ => sameLink_closed.stopping

/-! ## The transports -/

theorem serialClose_wifiConnected (d : Dev) :
    d.serialClose.link.wifiConnected = d.link.wifiConnected := by
  unfold Dev.serialClose
  split
  · dsimp only
    split
    · rfl
    · exact (onTransportConnected_false_line _).wifiConnected
  · rfl

theorem startSession_link (d : Dev) : d.startSession.link = d.link := by
  simp [Dev.startSession]

/-- a link that comes up leaves no session to start, and a WiFi link the marks of a session -/
theorem onTransportConnected_true_link (d : Dev) : (d.onTransportConnected true).link =
    { (if d.onWifi then { d.link with
        wifiWasConnected := true, wifiReconnectAttempts := 0, wifiReconnectTimer := none }
      else d.link) with pendingSessionStart := false } := by
  have started (d1 : Dev) : (if d1.link.pendingSessionStart then
      Dev.startSession { d1 with link := { d1.link with pendingSessionStart := false } }
      else d1).link = { d1.link with pendingSessionStart := false } := by
    split
    · rw [startSession_link]
    next hp => rw [← (Bool.not_eq_true _).mp hp]
  have rearmed (d1 : Dev) : (if d1.onWifi ∧ d1.screen.wanted then d1.startShot .rearmScreen
      else d1).link = d1.link := by
    split <;> rfl
  unfold Dev.onTransportConnected
  dsimp only
  rw [Dev.emit_link, rearmed, started]
  split <;> rfl

theorem onTransportConnected_true_line (d : Dev) :
    SameLine d.link (d.onTransportConnected true).link := by
  rw [onTransportConnected_true_link]
  split <;> exact ⟨rfl, rfl, rfl⟩

theorem serialOpenPort_line (portName : String) (d : Dev) :
    (d.serialOpenPort portName).1.link.transport = d.link.transport ∧
      (d.serialOpenPort portName).1.link.wifiConnected = d.link.wifiConnected := by
  obtain ⟨-, ht⟩ := serialClose_line d
  have hw := serialClose_wifiConnected d
  unfold Dev.serialOpenPort
  dsimp only
  split
  · have h := onTransportConnected_true_line { d.serialClose with link := { d.serialClose.link with
      serialPort := d.serialClose.link.shortPortName portName, serialOpen := true } }
    exact ⟨h.transport.trans ht, h.wifiConnected.trans hw⟩
  · exact ⟨ht, hw⟩

/-- the serial transport is the current one, opened or not -/
theorem connectToDevice_line (portName : String) (d : Dev) :
    (d.connectToDevice portName).1.link.transport = .serial ∧
      (d.connectToDevice portName).1.link.wifiConnected = d.link.wifiConnected := by
  obtain ⟨ht, hw⟩ := serialOpenPort_line portName (d.setTransport .serial)
  unfold Dev.connectToDevice
  dsimp only
  split
  · rw [startSession_link]
    exact ⟨ht, hw⟩
  · exact ⟨ht, hw⟩

end QMon.Device
