import QMonstatek.Device.Line
import QMonstatek.Transport.NetworkWorker

/-!
# The device object and the socket worker

The two live on threads of their own and post to each other.

`WifiLink`     the device object with its facade, the worker, and what each has posted;
`LinkMove`     the GUI thread handles an event, the worker its oldest request, the GUI thread the
               worker's oldest report, or the network changes the socket;
`slot`, `reportEvent`  what a request is to the worker and a report to the device object.

`gui_steady`: an event that neither connects nor disconnects leaves the WiFi side of the link as
it is, and asks the worker for no connection.
-/

namespace QMon.Transport
open Rpc Device NetworkWorker

/-- a queued call of a slot of the worker -/
def isRequest : Out → Bool
  | .tx .wifi _ _ => true
  | .requestConnect _ _ => true
  | .requestDisconnect => true
  | .requestArm => true
  | .requestDisarm => true
  | _ => false

/-- a signal of the worker about the control link -/
def isReport : WorkerOut → Bool
  | .connected => true
  | .disconnected => true
  | .socketError _ => true
  | .screenPortReady _ => true
  | _ => false

/-- `udpBind` is what the port of the screen socket would be bound to -/
def slot (udpBind : Option UInt16) (o : Out) (w : NetworkWorker) : NetworkWorker :=
  match o with
  | .tx .wifi f dialect => w.writeData (buildFrame dialect f)
  | .requestConnect host port => w.connectToHost host port udpBind
  | .requestDisconnect => w.disconnectFromHost
  | .requestArm => w.armScreen
  | .requestDisarm => w.disarmScreen
  | _ => w

def reportEvent : WorkerOut → Option Event
  | .connected => some .workerConnected
  | .disconnected => some .workerDisconnected
  | .socketError message => some (.transportError ("WiFi error: " ++ message))
  | .screenPortReady udpPort => some (.screenPortReady udpPort)
  | _ => none

structure WifiLink where
  dev : Dev := init
  worker : NetworkWorker := {}
  toWorker : List Out := []
  toGui : List WorkerOut := []

inductive LinkMove where
  /-- any event but a report of the worker -/
  | gui (e : Event)
  | request (udpBind : Option UInt16)
  | report
  | network (e : TcpEvent)

def isWorkerEvent : Event → Bool
  | .workerConnected => true
  | .workerDisconnected => true
  | _ => false

/-- the GUI thread has run a handler -/
def WifiLink.fromGui (x : WifiLink) (d : Dev) : WifiLink :=
  { x with dev := d, toWorker := x.toWorker ++ d.out.filter isRequest }

/-- the worker has run a slot, from a state without outputs -/
def WifiLink.fromWorker (x : WifiLink) (run : NetworkWorker → NetworkWorker) : WifiLink :=
  let w := run { x.worker with out := [] }
  { x with worker := w, toGui := x.toGui ++ w.out.filter isReport }

def link (m : LinkMove) (x : WifiLink) : WifiLink :=
  match m with
  | .gui e => if isWorkerEvent e then x else x.fromGui (step e x.dev)
  | .request udpBind =>
    match x.toWorker with
    | [] => x
    | o :: rest => WifiLink.fromWorker { x with toWorker := rest } (slot udpBind o)
  | .report =>
    match x.toGui with
    | [] => x
    | o :: rest =>
      match reportEvent o with
      | none => { x with toGui := rest }
      | some e => WifiLink.fromGui { x with toGui := rest } (step e x.dev)
  | .network e => x.fromWorker (tcpEvent e)

/-! ## TCP requests and outcomes -/

/-- the TCP requests that the worker has not handled -/
def WifiLink.asks (x : WifiLink) : List Request := requests x.toWorker

/-- whether a report says that the connection is up or that it is down -/
def outcome? : WorkerOut → Option Bool
  | .connected => some true
  | .disconnected => some false
  | _ => none

/-- the outcomes that have not reached the facade -/
def WifiLink.news (x : WifiLink) : List Bool := x.toGui.filterMap outcome?

theorem requests_isRequest (out : List Out) : requests (out.filter isRequest) = requests out := by
  unfold requests
  rw [List.filterMap_filter]
  refine List.filterMap_congr fun o _ => ?_
  cases o with
  | tx via f dialect => exact ite_self _
  | _ => rfl

theorem asks_fromGui (x : WifiLink) (d : Dev) :
    (x.fromGui d).asks = x.asks ++ requests d.out := by
  show requests (x.toWorker ++ _) = _
  unfold WifiLink.asks requests
  rw [List.filterMap_append]
  exact congrArg _ (requests_isRequest d.out)

/-- the outcomes a slot reports -/
def outcomes (out : List WorkerOut) : List Bool := out.filterMap outcome?

theorem news_fromWorker (x : WifiLink) (run : NetworkWorker → NetworkWorker) :
    (x.fromWorker run).news = x.news ++ outcomes (x.fromWorker run).worker.out := by
  show List.filterMap _ (x.toGui ++ _) = _
  rw [List.filterMap_append]
  refine congrArg _ ?_
  rw [List.filterMap_filter]
  refine List.filterMap_congr fun o _ => ?_
  cases o <;> rfl

/-! ## The slots -/

variable (w : NetworkWorker)

@[simp] theorem put_tcp (o : WorkerOut) : (w.put o).tcp = w.tcp := rfl

theorem outcomes_put (o : WorkerOut) :
    outcomes (w.put o).out = outcomes w.out ++ (outcome? o).toList := by
  show List.filterMap _ (w.out ++ [o]) = _
  rw [List.filterMap_append, List.filterMap_eq_flatMap_toList _ [o], List.flatMap_singleton]
  rfl

theorem onTcpConnected_tcp : w.onTcpConnected.tcp = w.tcp := by
  unfold onTcpConnected
  have h (l : List (List UInt8)) (v : NetworkWorker) :
      (l.foldl (fun w f => w.put (.tcpWrite f)) v).tcp = v.tcp := by
    induction l generalizing v with
    | nil => rfl
    | cons f l ih => exact ih _
  exact h _ w

theorem onTcpConnected_outcomes : outcomes w.onTcpConnected.out = outcomes w.out ++ [true] := by
  unfold onTcpConnected
  have h (l : List (List UInt8)) (v : NetworkWorker) :
      outcomes (l.foldl (fun w f => w.put (.tcpWrite f)) v).out = outcomes v.out := by
    induction l generalizing v with
    | nil => rfl
    | cons f l ih =>
      refine (ih _).trans ?_
      rw [outcomes_put]
      exact List.append_nil _
  dsimp only
  rw [outcomes_put]
  exact congrArg (· ++ [true]) (h _ w)

/-- a request that asks for no connection and no close -/
theorem slot_same (udpBind : Option UInt16) {o : Out} (h : o.request? = none) :
    (slot udpBind o w).tcp = w.tcp ∧ outcomes (slot udpBind o w).out = outcomes w.out := by
  cases o with
  | tx via f dialect =>
    cases via with
    | serial => exact ⟨rfl, rfl⟩
    | wifi =>
      show (w.writeData _).tcp = _ ∧ outcomes (w.writeData _).out = _
      unfold writeData
      split
      · split <;> exact ⟨rfl, rfl⟩
      · exact ⟨rfl, by rw [outcomes_put]; exact List.append_nil _⟩
  | requestConnect host port => exact absurd h (by simp [Out.request?])
  | requestDisconnect => exact absurd h (by simp [Out.request?])
  | _ => exact ⟨rfl, rfl⟩

theorem slot_disconnect (udpBind : Option UInt16) :
    (slot udpBind .requestDisconnect w).tcp =
      (if w.tcp = .Connected then .Closing else w.tcp) ∧
      outcomes (slot udpBind .requestDisconnect w).out = outcomes w.out := by
  show w.disconnectFromHost.tcp = _ ∧ outcomes w.disconnectFromHost.out = _
  unfold disconnectFromHost
  dsimp only
  split <;> exact ⟨rfl, rfl⟩

theorem tcpAbort_outcomes :
    ∃ l, outcomes w.tcpAbort.out = outcomes w.out ++ l ∧ true ∉ l := by
  unfold tcpAbort
  split
  · exact ⟨[false], outcomes_put _ _, by decide⟩
  · exact ⟨[], (List.append_nil _).symm, List.not_mem_nil⟩

/-- the socket is connecting, and a connection it had is reported as lost -/
theorem slot_connect (udpBind : Option UInt16) (host : String) (port : UInt16) :
    (slot udpBind (.requestConnect host port) w).tcp = .Connecting ∧
      ∃ l, outcomes (slot udpBind (.requestConnect host port) w).out = outcomes w.out ++ l ∧
        true ∉ l := by
  let w1 := if w.tcp ≠ .Unconnected then w.tcpAbort else w
  let w2 : NetworkWorker := if w1.udpPort = 0 then { w1 with udpPort := udpBind.getD 0 } else w1
  have h1 : ∃ l, outcomes w1.out = outcomes w.out ++ l ∧ true ∉ l := by
    by_cases hc : w.tcp ≠ .Unconnected
    · rw [show w1 = w.tcpAbort from if_pos hc]
      exact tcpAbort_outcomes w
    · rw [show w1 = w from if_neg hc]
      exact ⟨[], (List.append_nil _).symm, List.not_mem_nil⟩
  have h2 : w2.out = w1.out := by
    show (if w1.udpPort = 0 then _ else _ : NetworkWorker).out = _
    split <;> rfl
  refine ⟨rfl, ?_⟩
  obtain ⟨l, hl, htrue⟩ := h1
  refine ⟨l, ?_, htrue⟩
  show outcomes (NetworkWorker.put (.tcpConnect host port)
    { w2.put (.screenPortReady w2.udpPort) with tcp := .Connecting }).out = _
  rw [outcomes_put]
  show outcomes (w2.put (.screenPortReady w2.udpPort)).out ++ [] = _
  rw [List.append_nil, outcomes_put, h2, hl]
  exact List.append_nil _

/-! ## The socket -/

/-- what an event of the network makes of the socket and what it reports -/
inductive TcpChange (e : TcpEvent) (w w' : NetworkWorker) : Prop
  | same (tcp : w'.tcp = w.tcp) (out : outcomes w'.out = outcomes w.out)
  | established (before : w.tcp = .Connecting) (tcp : w'.tcp = .Connected)
      (out : outcomes w'.out = outcomes w.out ++ [true])
  | failed (message : String) (event : e = .failed message) (before : w.tcp = .Connecting)
  | closed (before : w.tcp ≠ .Connecting) (tcp : w'.tcp = .Unconnected)
      (out : outcomes w'.out = outcomes w.out ++ [false])

theorem tcpEvent_change (e : TcpEvent) : TcpChange e w (w.tcpEvent e) := by
  unfold tcpEvent
  cases e with
  | established =>
    dsimp only
    split
    · rename_i hc
      exact .established hc (onTcpConnected_tcp _) (onTcpConnected_outcomes _)
    · exact .same rfl rfl
  | failed message =>
    dsimp only
    split
    · rename_i hc
      exact .failed message rfl hc
    · exact .same rfl rfl
  | error message =>
    dsimp only
    split
    · rename_i hc
      unfold onTcpError
      dsimp only
      rw [if_neg (by rw [put_tcp, hc]; decide)]
      exact .same rfl (by rw [outcomes_put]; exact List.append_nil _)
    · exact .same rfl rfl
  | closed =>
    dsimp only
    split
    · rename_i hc
      refine .closed (fun h => ?_) rfl (outcomes_put _ _)
      rw [h] at hc
      exact absurd hc (by decide)
    · exact .same rfl rfl

/-! ## The WiFi side of the device object -/

/-- the WiFi side of the link is the same; mDNS may have given another target -/
structure SameWifi (l l' : Link) : Prop where
  transport : l'.transport = l.transport
  created : l'.wifiCreated = l.wifiCreated
  connected : l'.wifiConnected = l.wifiConnected
  was : l'.wifiWasConnected = l.wifiWasConnected
  closing : l'.userDisconnecting = l.userDisconnecting
  timer : l'.wifiReconnectTimer = l.wifiReconnectTimer
  attempts : l'.wifiReconnectAttempts = l.wifiReconnectAttempts
  target : l.wifiTarget ≠ "" → l'.wifiTarget ≠ ""

theorem SameWifi.of_eq {l l' : Link} (h : l' = l) : SameWifi l l' := by
  rw [h]
  exact ⟨rfl, rfl, rfl, rfl, rfl, rfl, rfl, id⟩

/-- the event is no user disconnect and makes no other connection -/
def Undisturbing (e : Event) (d : Dev) : Prop :=
  match e with
  | .call (.connectToDevice _) => False
  | .call (.connectToDeviceWifi _) => False
  | .call .disconnect => False
  | .deviceFound _ => (step e d).link.transport = .wifi
  | .shot .trySerialReconnect => (step e d).link.transport = .wifi
  | .expire .serialReconnect => (step e d).link.transport = .wifi
  | .workerConnected => False
  | .workerDisconnected => False
  | _ => True

/-- the WiFi side is the same, and the worker is asked for a close at most, of a connection -/
structure Steady (d d' : Dev) : Prop where
  wifi : SameWifi d.link d'.link
  asks : requests d'.out = [] ∨
    d.link.wifiConnected = true ∧ requests d'.out = [.disconnectFromHost]

variable {d d' : Dev}

theorem Steady.of_sameLink (h : SameLink d d') (ho : d.out = []) : Steady d d' :=
  ⟨.of_eq h.link, .inl (by rw [h.requests, ho]; rfl)⟩

/-- nothing is put out -/
theorem Steady.silent (h : SameWifi d.link d'.link) (ho : d'.out = []) : Steady d d' :=
  ⟨h, .inl (by rw [ho]; rfl)⟩

theorem isConnected_wifi (hw : d.link.transport = .wifi) :
    d.isConnected = d.link.wifiConnected := by
  unfold Dev.isConnected Link.isConnected
  rw [hw]

theorem transportClose_wifi (hw : d.link.transport = .wifi) :
    d.transportClose = d.put .requestDisconnect :=
  if_pos ((onWifi_iff d).mpr hw)

theorem steady_close (hw : d.link.transport = .wifi) (hd : SameLink d d')
    (hup : d.link.wifiConnected = true) (ho : d.out = []) : Steady d d'.transportClose := by
  rw [transportClose_wifi (by rw [hd.link]; exact hw)]
  refine ⟨.of_eq hd.link, .inr ⟨hup, ?_⟩⟩
  rw [requests_put, hd.requests, ho]
  rfl

theorem onPingTimer_steady (hw : d.link.transport = .wifi) (ho : d.out = []) :
    Steady d d.onPingTimer := by
  let d1 : Dev := { d with keep := { d.keep with missedPongs := d.keep.missedPongs + 1 } }
  have h1 : SameLink d d1 := ⟨rfl, rfl⟩
  unfold Dev.onPingTimer
  split
  · exact .of_sameLink ⟨rfl, rfl⟩ ho
  · rename_i hup
    rw [not_or, not_not, isConnected_wifi hw] at hup
    dsimp only
    split
    · exact steady_close hw (sameLink_closed.trans h1 (stopStreaming_sameLink d1)) hup.1 ho
    · let d2 : Dev := { d1 with
        crc := alternateTxDialect d1.crc
        keep := { d1.keep with lastPingTime := d1.env.now } }
      have h2 : SameLink d d2 := ⟨rfl, rfl⟩
      exact .of_sameLink (sameLink_closed.trans h2 (sameLink_closed.handled.send d2 CMD_PING [])) ho

/-- a USB attempt would leave the WiFi transport -/
theorem trySerialReconnect_steady (ho : d.out = [])
    (hw : d.trySerialReconnect.link.transport = .wifi) : Steady d d.trySerialReconnect := by
  unfold Dev.trySerialReconnect at hw ⊢
  split
  · exact .silent (.of_eq rfl) ho
  · rename_i hguard
    rw [if_neg hguard] at hw
    split
    · exact .silent ⟨rfl, rfl, rfl, rfl, rfl, rfl, rfl, id⟩ ho
    · rename_i htries
      rw [if_neg htries] at hw
      dsimp only at hw
      have hline := (connectToDevice_line d.link.serialReconnectPort { d with
        link := { d.link with serialReconnectAttempts := d.link.serialReconnectAttempts + 1 } }).1
      split at hw <;> exact absurd (hline.symm.trans hw) (by decide)

theorem onDeviceFound_steady (portName : String) (ho : d.out = [])
    (hw : (d.onDeviceFound portName).link.transport = .wifi) :
    Steady d (d.onDeviceFound portName) := by
  unfold Dev.onDeviceFound at hw ⊢
  split
  · exact .silent (.of_eq rfl) ho
  · rename_i hguard
    rw [if_neg hguard] at hw
    split
    · exact .silent (.of_eq rfl) ho
    · rename_i hother
      rw [if_neg hother] at hw
      split
      · exact .silent ⟨rfl, rfl, rfl, rfl, rfl, rfl, rfl, id⟩ ho
      · rename_i hretry
        rw [if_neg hretry] at hw
        dsimp only at hw
        have hline := (connectToDevice_line portName d).1
        split at hw
        · exact absurd (hline.symm.trans hw) (by decide)
        · rw [(scheduleSerialReconnect_line _ _ _).1.transport] at hw
          exact absurd (hline.symm.trans hw) (by decide)

theorem setPreferredSerialPort_steady (portName : String) (ho : d.out = []) :
    Steady d (d.setPreferredSerialPort portName) := by
  unfold Dev.setPreferredSerialPort
  dsimp only
  generalize trimmed portName = port
  split <;> exact .silent ⟨rfl, rfl, rfl, rfl, rfl, rfl, rfl, id⟩ ho

theorem onServiceFound_steady (address : String) (port : Int) (ho : d.out = []) :
    Steady d (d.onServiceFound address port) := by
  unfold Dev.onServiceFound
  split
  · exact .silent (.of_eq rfl) ho
  · refine .silent ⟨rfl, rfl, rfl, rfl, rfl, rfl, rfl, fun _ => ?_⟩ ho
    intro h
    have hlen := congrArg String.length h
    simp at hlen

theorem call_steady (c : Call) (hu : Undisturbing (.call c) d) (ho : d.out = []) :
    Steady d (d.call c) := by
  cases c with
  | connectToDevice p => exact hu.elim
  | connectToDeviceWifi hp => exact hu.elim
  | disconnect => exact hu.elim
  | setPreferredSerialPort p => exact setPreferredSerialPort_steady p ho
  | _ => exact .of_sameLink (call_sameLink _ d id) ho

theorem shot_steady (s : Shot) (hw : d.link.transport = .wifi) (ho : d.out = [])
    (hs : s = .trySerialReconnect → (d.shot s).link.transport = .wifi) : Steady d (d.shot s) := by
  let d1 : Dev := { d with shots := d.shots.erase s }
  have h1 : SameLink d d1 := ⟨rfl, rfl⟩
  unfold Dev.shot at hs ⊢
  split
  · exact .silent (.of_eq rfl) ho
  · rename_i hmem
    rw [if_neg hmem] at hs
    cases s with
    | requestDeviceInfo =>
      exact .of_sameLink (sameLink_closed.trans h1 (sameLink_closed.handled.send d1 _ _)) ho
    | closeLink =>
      dsimp only
      split
      · rename_i hup
        exact steady_close hw h1 ((isConnected_wifi (d := d1) hw).symm.trans hup) ho
      · exact .silent (.of_eq rfl) ho
    | rearmScreen =>
      dsimp only
      split
      · exact .of_sameLink (sameLink_closed.trans h1 (startScreenStream_sameLink _ d1)) ho
      · exact .silent (.of_eq rfl) ho
    | trySerialReconnect =>
      have h := trySerialReconnect_steady (d := d1) ho (hs rfl)
      exact ⟨h.wifi, h.asks⟩

theorem expire_steady (t : TimerId) (hw : d.link.transport = .wifi) (ho : d.out = [])
    (ht : t = .wifiReconnect → d.link.wifiReconnectTimer = none)
    (hs : t = .serialReconnect → (d.expire t).link.transport = .wifi) : Steady d (d.expire t) := by
  unfold Dev.expire at hs ⊢
  split
  · exact .silent (.of_eq rfl) ho
  · rename_i harmed
    rw [if_neg harmed] at hs
    cases t with
    | ping => exact onPingTimer_steady hw ho
    | transfer k =>
      exact .of_sameLink (sameLink_closed.handled.timeoutBranch (onTransferTimeout_branch k d)) ho
    | wifiReconnect => exact absurd (ht rfl) harmed
    | serialReconnect =>
      have h := trySerialReconnect_steady (d := { d with
        link := { d.link with serialReconnectTimer := none } }) ho (hs rfl)
      exact ⟨⟨h.wifi.transport, h.wifi.created, h.wifi.connected, h.wifi.was, h.wifi.closing,
        h.wifi.timer, h.wifi.attempts, h.wifi.target⟩, h.asks⟩

/-- **An undisturbing event** leaves the WiFi side as it is, the reconnect timer apart. -/
theorem gui_steady {e : Event} {d : Dev} (hw : d.link.transport = .wifi) (hu : Undisturbing e d)
    (ht : e = .expire .wifiReconnect → d.link.wifiReconnectTimer = none) : Steady d (step e d) := by
  have h : Steady d.fresh (step e d) := by
    have ho : d.fresh.out = [] := rfl
    unfold step Dev.handle
    cases e with
    | call c => exact call_steady c hu ho
    | frame f dialect =>
      dsimp only
      split
      · have h1 : SameLink d.fresh (d.fresh.validated dialect) :=
          ⟨rfl, rfl⟩
        exact .of_sameLink (sameLink_closed.trans h1 (onFrameReceived_sameLink f _)) ho
      · exact .silent (.of_eq rfl) ho
    | workerValidated dialect =>
      dsimp only
      split <;> exact .silent (.of_eq rfl) ho
    | expire t =>
      exact expire_steady t hw ho (fun h => ht (congrArg _ h)) fun h => by subst h; exact hu
    | shot s => exact shot_steady s hw ho fun h => by subst h; exact hu
    | serialError =>
      show Steady _ d.fresh.serialClose
      unfold Dev.serialClose
      split
      · have onWifi :
            ({ d.fresh with link := { d.fresh.link with serialOpen := false } }).onWifi :=
          (onWifi_iff _).mpr hw
        rw [if_pos onWifi]
        exact .silent ⟨rfl, rfl, rfl, rfl, rfl, rfl, rfl, id⟩ ho
      · exact .silent (.of_eq rfl) ho
    | transportError msg => exact .of_sameLink (sameLink_closed.handled.emit _ rfl) ho
    | workerConnected => exact hu.elim
    | workerDisconnected => exact hu.elim
    | screenPortReady port =>
      dsimp only
      split
      · exact .silent ⟨rfl, rfl, rfl, rfl, rfl, rfl, rfl, id⟩ ho
      · exact .silent (.of_eq rfl) ho
    | inboundActivity =>
      dsimp only
      split <;> exact .silent (.of_eq rfl) ho
    | deviceFound p => exact onDeviceFound_steady p ho hu
    | deviceLost p =>
      show Steady _ (d.fresh.onDeviceLost p)
      unfold Dev.onDeviceLost
      have onWifi : d.fresh.onWifi = true := (onWifi_iff _).mpr hw
      rw [if_neg fun h => h.1 onWifi]
      exact .silent (.of_eq rfl) ho
    | setMdnsDiscovery present => exact .silent ⟨rfl, rfl, rfl, rfl, rfl, rfl, rfl, id⟩ ho
    | serviceFound address port =>
      dsimp only
      split
      · exact onServiceFound_steady address port ho
      · exact .silent (.of_eq rfl) ho
    | env e => exact .silent (.of_eq rfl) ho
  exact ⟨h.wifi, h.asks⟩

end QMon.Transport
