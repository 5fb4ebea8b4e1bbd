import QMonstatek.Device.Line

/-!
# One link at a time

`Link.One l`         at most one transport is open, and it is the current one;
`KeepsOneLink e d`   what the handler of `e` needs for it.

`oneLink_iff`: a run keeps to one link iff every step of it meets the condition.  What the
condition excludes is a connect call that leaves the link of the other transport open, and the
report of a TCP connection that was asked for before the switch to USB.
-/

namespace QMon.Device
open Rpc

structure Link.One (l : Link) : Prop where
  atMostOne : ¬ (l.serialOpen = true ∧ l.wifiConnected = true)
  serial : l.serialOpen = true → l.transport = .serial
  wifi : l.wifiConnected = true → l.transport = .wifi

theorem Link.one_serial_iff {l : Link} (ht : l.transport = .serial) :
    l.One ↔ l.wifiConnected = false := by
  constructor
  · intro h
    cases hw : l.wifiConnected with
    | false => rfl
    | true => exact Transport.noConfusion (ht.symm.trans (h.wifi hw))
  · intro hw
    exact ⟨fun h => Bool.noConfusion (hw.symm.trans h.2), fun _ => ht,
      fun h => Bool.noConfusion (hw.symm.trans h)⟩

theorem Link.one_wifi_iff {l : Link} (ht : l.transport = .wifi) :
    l.One ↔ l.serialOpen = false := by
  constructor
  · intro h
    cases hs : l.serialOpen with
    | false => rfl
    | true => exact Transport.noConfusion (ht.symm.trans (h.serial hs))
  · intro hs
    exact ⟨fun h => Bool.noConfusion (hs.symm.trans h.1),
      fun h => Bool.noConfusion (hs.symm.trans h), fun _ => ht⟩

/-- while the current transport is down, so is the other one -/
theorem Link.One.closed {l : Link} (h : l.One) (hc : l.isConnected = false) :
    l.serialOpen = false ∧ l.wifiConnected = false := by
  unfold Link.isConnected at hc
  cases ht : l.transport with
  | serial =>
    rw [ht] at hc
    exact ⟨hc, (Link.one_serial_iff ht).mp h⟩
  | wifi =>
    rw [ht] at hc
    exact ⟨(Link.one_wifi_iff ht).mp h, hc⟩

/-! ## Steps that open nothing -/

/-- the transport is the same and nothing is opened -/
structure Lowered (l l' : Link) : Prop where
  transport : l'.transport = l.transport
  serial : l'.serialOpen = true → l.serialOpen = true
  wifi : l'.wifiConnected = true → l.wifiConnected = true

variable {d d' : Dev} {l l' l'' : Link}

theorem Lowered.one (h : Lowered l l') (hl : l.One) : l'.One :=
  ⟨fun hb => hl.atMostOne ⟨h.serial hb.1, h.wifi hb.2⟩,
    fun hs => h.transport.trans (hl.serial (h.serial hs)),
    fun hw => h.transport.trans (hl.wifi (h.wifi hw))⟩

theorem Lowered.trans (h : Lowered l l') (h' : Lowered l' l'') : Lowered l l'' :=
  ⟨h'.transport.trans h.transport, h.serial ∘ h'.serial, h.wifi ∘ h'.wifi⟩

theorem SameLine.lowered (h : SameLine l l') : Lowered l l' :=
  ⟨h.transport, by rw [h.serialOpen]; exact id, by rw [h.wifiConnected]; exact id⟩

theorem SameLink.lowered (h : SameLink d d') : Lowered d.link d'.link := by
  rw [h.link]
  exact ⟨rfl, id, id⟩

theorem serialClose_lowered (d : Dev) : Lowered d.link d.serialClose.link := by
  obtain ⟨ho, ht⟩ := serialClose_line d
  refine ⟨ht, fun h => Bool.noConfusion (ho.symm.trans h), ?_⟩
  rw [serialClose_wifiConnected]
  exact id

theorem transportClose_lowered (d : Dev) : Lowered d.link d.transportClose.link := by
  unfold Dev.transportClose
  split
  · exact ⟨rfl, id, id⟩
  · exact serialClose_lowered d

theorem disconnect_lowered (d : Dev) : Lowered d.link d.disconnect.link := by
  let d1 : Dev := { d.clearSerialReconnect with
    keep := { d.keep with suspended := false, pingTimer := none }
    link := { d.clearSerialReconnect.link with
      wifiReconnectTimer := none, wifiWasConnected := false, wifiReconnectAttempts := 0 } }
  have h1 : Lowered d.link d1.link := ⟨rfl, id, id⟩
  have h2 := h1.trans (stopStreaming_sameLink d1).lowered
  unfold Dev.disconnect
  refine (h2.trans ?_).trans (transportClose_lowered _)
  exact ⟨rfl, id, id⟩

theorem onPingTimer_lowered (d : Dev) : Lowered d.link d.onPingTimer.link := by
  unfold Dev.onPingTimer
  split
  · exact ⟨rfl, id, id⟩
  · dsimp only
    split
    · refine Lowered.trans ?_ (transportClose_lowered _)
      exact (stopStreaming_sameLink { d with
        keep := { d.keep with missedPongs := d.keep.missedPongs + 1 } }).lowered
    · rw [Dev.sendCommand_link]
      exact ⟨rfl, id, id⟩

theorem onDeviceLost_lowered (portName : String) (d : Dev) :
    Lowered d.link (d.onDeviceLost portName).link := by
  unfold Dev.onDeviceLost
  split
  · exact transportClose_lowered { d with keep := { d.keep with pingTimer := none } }
  · exact ⟨rfl, id, id⟩

theorem onWorkerDisconnected_lowered (d : Dev) : Lowered d.link d.onWorkerDisconnected.link := by
  unfold Dev.onWorkerDisconnected
  split
  · let d1 : Dev := { d with link := { d.link with wifiConnected := false } }
    have down : Lowered d.link d1.link := ⟨rfl, id, fun h => Bool.noConfusion h⟩
    dsimp only
    split
    · exact down.trans (onTransportConnected_false_line d1).lowered
    · exact down
  · exact ⟨rfl, id, id⟩

theorem setPreferredSerialPort_lowered (portName : String) (d : Dev) :
    Lowered d.link (d.setPreferredSerialPort portName).link := by
  unfold Dev.setPreferredSerialPort
  dsimp only
  generalize trimmed portName = port
  split <;> exact ⟨rfl, id, id⟩

theorem onServiceFound_lowered (address : String) (port : Int) (d : Dev) :
    Lowered d.link (d.onServiceFound address port).link := by
  unfold Dev.onServiceFound
  split <;> exact ⟨rfl, id, id⟩

theorem scheduleSerialReconnect_lowered (portName : String) (delayMs : Int) (d : Dev) :
    Lowered d.link (d.scheduleSerialReconnect portName delayMs).link :=
  (scheduleSerialReconnect_line portName delayMs d).1.lowered

/-! ## Connecting -/

theorem connectToDevice_one_iff (portName : String) (d : Dev) :
    (d.connectToDevice portName).1.link.One ↔ d.link.wifiConnected = false := by
  obtain ⟨ht, hw⟩ := connectToDevice_line portName d
  rw [Link.one_serial_iff ht, hw]

theorem connectToDeviceWifi_one_iff (hostPort : String) (d : Dev) :
    (d.connectToDeviceWifi hostPort).link.One ↔
      (Malformed hostPort → d.link.wifiConnected = false) ∧
        (¬ Malformed hostPort → d.link.serialOpen = false) := by
  unfold Dev.connectToDeviceWifi Dev.wifiOpen Malformed
  dsimp only
  cases hp : parseTarget hostPort with
  | error msg =>
    -- the transport falls back to the serial port
    dsimp only
    rw [if_neg (by decide), Link.one_serial_iff rfl]
    exact ⟨fun h => ⟨fun _ => h, fun hn => absurd ⟨msg, rfl⟩ hn⟩, fun h => h.1 ⟨msg, rfl⟩⟩
  | ok target =>
    obtain ⟨host, port⟩ := target
    dsimp only
    rw [if_pos rfl, Link.one_wifi_iff rfl]
    refine ⟨fun h => ⟨fun ⟨msg, hm⟩ => absurd hm (by simp), fun _ => h⟩, fun h => h.2 ?_⟩
    rintro ⟨msg, hm⟩
    exact absurd hm (by simp)

theorem onWorkerConnected_one_iff (d : Dev) (h : d.link.One) :
    d.onWorkerConnected.link.One ↔ d.link.transport = .wifi := by
  let d1 : Dev := { d with link := { d.link with wifiConnected := true } }
  have line : SameLine d1.link d.onWorkerConnected.link := by
    unfold Dev.onWorkerConnected
    dsimp only
    split
    · exact onTransportConnected_true_line d1
    · exact ⟨rfl, rfl, rfl⟩
  constructor
  · intro ho
    rw [← line.transport]
    exact ho.wifi line.wifiConnected
  · intro ht
    rw [Link.one_wifi_iff (line.transport.trans ht), line.serialOpen]
    exact (Link.one_wifi_iff ht).mp h

/-- the attempts the device object makes on its own find every transport down -/
theorem trySerialReconnect_one (d : Dev) (h : d.link.One) : d.trySerialReconnect.link.One := by
  unfold Dev.trySerialReconnect
  split
  · exact h
  · rename_i hguard
    have hdown : d.link.isConnected = false := by
      simp only [not_or, Bool.not_eq_true] at hguard
      exact hguard.2.1
    split
    · refine Lowered.one (l := d.link) ?_ h
      exact ⟨rfl, id, id⟩
    · let d1 : Dev := { d with link := { d.link with
        serialReconnectAttempts := d.link.serialReconnectAttempts + 1 } }
      have hc : (d1.connectToDevice d1.link.serialReconnectPort).1.link.One :=
        (connectToDevice_one_iff _ d1).mpr (h.closed hdown).2
      dsimp only
      split
      · exact hc
      · refine Lowered.one ?_ hc
        exact ⟨rfl, id, id⟩

theorem onDeviceFound_one (portName : String) (d : Dev) (h : d.link.One) :
    (d.onDeviceFound portName).link.One := by
  unfold Dev.onDeviceFound
  split
  · exact h
  · rename_i hguard
    have hdown : d.link.isConnected = false := by
      simp only [not_or, Bool.not_eq_true] at hguard
      exact hguard.2
    have hc := (connectToDevice_one_iff portName d).mpr (h.closed hdown).2
    split
    · exact h
    · split
      · refine Lowered.one (l := d.link) ?_ h
        exact ⟨rfl, id, id⟩
      · dsimp only
        split
        · exact hc
        · refine Lowered.one (Lowered.trans ?_ (scheduleSerialReconnect_lowered _ _ _)) hc
          exact ⟨rfl, id, id⟩

theorem tryWifiReconnect_one (d : Dev) (h : d.link.One) : d.tryWifiReconnect.link.One := by
  unfold Dev.tryWifiReconnect
  split
  · exact h
  · rename_i hup
    have hdown : d.link.isConnected = false := (Bool.not_eq_true _).mp hup
    obtain ⟨hs, hw⟩ := h.closed hdown
    exact (connectToDeviceWifi_one_iff _ _).mpr ⟨fun _ => hw, fun _ => hs⟩

/-! ## Steps -/

/-- what a step needs for one link at a time -/
def KeepsOneLink (e : Event) (d : Dev) : Prop :=
  match e with
  | .call (.connectToDevice _) => d.link.wifiConnected = false
  | .call (.connectToDeviceWifi hostPort) =>
    (Malformed hostPort → d.link.wifiConnected = false) ∧
      (¬ Malformed hostPort → d.link.serialOpen = false)
  | .workerConnected => d.link.wifiCreated = true → d.link.transport = .wifi
  | _ => True

theorem call_one_iff (c : Call) (d : Dev) (h : d.link.One) :
    (d.call c).link.One ↔ KeepsOneLink (.call c) d := by
  have same (hc : ¬ c.Links) : (d.call c).link.One :=
    (call_sameLink c d hc).lowered.one h
  cases c with
  | connectToDevice p => exact connectToDevice_one_iff p d
  | connectToDeviceWifi hp => exact connectToDeviceWifi_one_iff hp d
  | disconnect => exact iff_of_true ((disconnect_lowered d).one h) trivial
  | setPreferredSerialPort p =>
    exact iff_of_true ((setPreferredSerialPort_lowered p d).one h) trivial
  | _ => exact iff_of_true (same id) trivial

theorem expire_one (t : TimerId) (d : Dev) (h : d.link.One) : (d.expire t).link.One := by
  unfold Dev.expire
  split
  · exact h
  · cases t with
    | ping => exact (onPingTimer_lowered d).one h
    | transfer k =>
      exact (sameLink_closed.handled.timeoutBranch (onTransferTimeout_branch k d)).lowered.one h
    | wifiReconnect =>
      refine tryWifiReconnect_one _ (Lowered.one ?_ h)
      exact ⟨rfl, id, id⟩
    | serialReconnect =>
      refine trySerialReconnect_one _ (Lowered.one ?_ h)
      exact ⟨rfl, id, id⟩

theorem shot_one (s : Shot) (d : Dev) (h : d.link.One) : (d.shot s).link.One := by
  let d1 : Dev := { d with shots := d.shots.erase s }
  have h1 : d1.link.One := h
  unfold Dev.shot
  split
  · exact h
  · cases s with
    | requestDeviceInfo => exact (sameLink_closed.handled.send d1 _ _).lowered.one h1
    | closeLink =>
      dsimp only
      split
      · exact (transportClose_lowered d1).one h1
      · exact h1
    | rearmScreen =>
      dsimp only
      split
      · exact (startScreenStream_sameLink _ d1).lowered.one h1
      · exact h1
    | trySerialReconnect => exact trySerialReconnect_one d1 h1

theorem one_step_iff (e : Event) (d : Dev) (hd : d.link.One) :
    (step e d).link.One ↔ KeepsOneLink e d := by
  have h : d.fresh.link.One := hd
  have lowered {d' : Dev} (hl : Lowered d.fresh.link d'.link) : d'.link.One := hl.one h
  unfold step Dev.handle
  cases e with
  | call c => exact call_one_iff c d.fresh h
  | frame f dialect =>
    refine iff_of_true ?_ trivial
    dsimp only
    split
    · exact lowered (onFrameReceived_sameLink f (d.fresh.validated dialect)).lowered
    · exact h
  | workerValidated dialect =>
    refine iff_of_true ?_ trivial
    dsimp only
    split <;> exact h
  | expire t => exact iff_of_true (expire_one t _ h) trivial
  | shot s => exact iff_of_true (shot_one s _ h) trivial
  | serialError => exact iff_of_true (lowered (serialClose_lowered _)) trivial
  | transportError msg => exact iff_of_true h trivial
  | workerConnected =>
    dsimp only
    split
    · rename_i hw
      rw [onWorkerConnected_one_iff _ h]
      exact ⟨fun ht _ => ht, fun hc => hc hw⟩
    · rename_i hw
      exact iff_of_true h fun hx => absurd hx hw
  | workerDisconnected => exact iff_of_true (lowered (onWorkerDisconnected_lowered _)) trivial
  | screenPortReady port =>
    refine iff_of_true ?_ trivial
    dsimp only
    split
    · exact lowered ⟨rfl, id, id⟩
    · exact h
  | inboundActivity =>
    refine iff_of_true ?_ trivial
    dsimp only
    split <;> exact h
  | deviceFound p => exact iff_of_true (onDeviceFound_one p _ h) trivial
  | deviceLost p => exact iff_of_true (lowered (onDeviceLost_lowered p _)) trivial
  | setMdnsDiscovery present => exact iff_of_true (lowered ⟨rfl, id, id⟩) trivial
  | serviceFound address port =>
    refine iff_of_true ?_ trivial
    dsimp only
    split
    · exact lowered (onServiceFound_lowered _ _ _)
    · exact h
  | env env => exact iff_of_true h trivial

/-- **One link at a time**, throughout a run iff every step of it keeps to it. -/
theorem oneLink_iff (es : List Event) :
    Run.Throughout step (fun d => d.link.One) es init ↔ Run.Along step KeepsOneLink es init := by
  refine Run.throughout_iff_along step (I := fun _ => True) (fun _ _ _ => trivial)
    (fun e d _ hd => one_step_iff e d hd) es init trivial ?_
  exact (Link.one_serial_iff rfl).mpr rfl

/-- a WiFi connect over an open serial port: the port stays open, and the worker's connection
comes on top of it -/
theorem oneLink_both :
    let d := Run.exec step [.env { serialOpens := fun _ => true },
      .call (.connectToDevice "COM3"), .call (.connectToDeviceWifi "192.168.1.50:3333"),
      .workerConnected] init
    d.link.serialOpen = true ∧ d.link.wifiConnected = true ∧ d.link.transport = .wifi ∧
      ¬ d.link.One := by
  refine ⟨by decide, by decide, by decide, fun h => h.atMostOne ?_⟩
  decide

end QMon.Device
