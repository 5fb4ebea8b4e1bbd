import QMonstatek.Lib.Run
import QMonstatek.Transport.WifiLink

/-!
# WiFi reconnect

An established session drops; the device object arms its reconnect timer, asks the worker for a
connection when it expires, and hears of the outcome from the worker's reports.

`Established x`  the session is up on both sides and nothing is on its way;
`Trying x`       connected, or an attempt is in progress, or the timer is armed, or the attempts are
                 used up;
`Succeeds m x`   the move fails no attempt, and opens no target that does not parse;
`Phase x`        where the reconnect loop is.

`keepsTrying`: along every undisturbed run whose moves succeed, every state is `Trying`.  A failed
attempt ends the loop: the facade reports the loss of a connection only if it had one.
-/

namespace QMon.Transport
open Rpc Device NetworkWorker

structure Established (x : WifiLink) : Prop where
  transport : x.dev.link.transport = .wifi
  created : x.dev.link.wifiCreated = true
  connected : x.dev.link.wifiConnected = true
  was : x.dev.link.wifiWasConnected = true
  staying : x.dev.link.userDisconnecting = false
  target : x.dev.link.wifiTarget ≠ ""
  attempts : x.dev.link.wifiReconnectAttempts = 0
  socket : x.worker.tcp = .Connected
  asks : x.asks = []
  news : x.news = []

/-- a TCP attempt is asked for, under way, or its outcome has not reached the facade -/
def InProgress (x : WifiLink) : Prop :=
  (∃ host port, .connectToHost host port ∈ x.asks) ∨ x.worker.tcp = .Connecting ∨ x.news ≠ []

def Trying (x : WifiLink) : Prop :=
  x.dev.isConnected = true ∨ InProgress x ∨ x.dev.link.wifiReconnectTimer ≠ none ∨
    WIFI_RECONNECT_MAX ≤ x.dev.link.wifiReconnectAttempts

def Undisturbed (m : LinkMove) (x : WifiLink) : Prop :=
  match m with
  | .gui e => Undisturbing e x.dev
  | _ => True

def Succeeds (m : LinkMove) (x : WifiLink) : Prop :=
  match m with
  | .network (.failed _) => x.worker.tcp ≠ .Connecting
  | .gui (.expire .wifiReconnect) =>
    x.dev.link.wifiReconnectTimer ≠ none → x.dev.isConnected = false →
      ¬ Malformed x.dev.link.wifiTarget
  | _ => True

/-! ## The handlers of the loop -/

section
variable {d : Dev}

theorem onTransportConnected_true_wifi (hw : d.link.transport = .wifi) :
    (d.onTransportConnected true).link = { d.link with
      wifiWasConnected := true, wifiReconnectAttempts := 0, wifiReconnectTimer := none
      pendingSessionStart := false } := by
  rw [onTransportConnected_true_link, if_pos ((onWifi_iff d).mpr hw)]

theorem planReconnect_wifi (lastPort : String) (hw : d.link.transport = .wifi)
    (hplan : ¬ d.link.userDisconnecting ∧ d.link.wifiWasConnected ∧ d.link.wifiTarget ≠ "" ∧
      d.link.wifiReconnectAttempts < WIFI_RECONNECT_MAX) :
    ∃ delay, (d.planReconnect lastPort).link =
      { d.link with wifiReconnectTimer := some delay } := by
  have hon : d.onWifi = true := (onWifi_iff d).mpr hw
  unfold Dev.planReconnect
  rw [if_pos hon, if_pos hplan]
  exact ⟨_, by cases d.link.mdns <;> rfl⟩

/-- an unexpected loss arms the timer -/
theorem onTransportConnected_false_wifi (hw : d.link.transport = .wifi)
    (hplan : ¬ d.link.userDisconnecting ∧ d.link.wifiWasConnected ∧ d.link.wifiTarget ≠ "" ∧
      d.link.wifiReconnectAttempts < WIFI_RECONNECT_MAX) :
    ∃ delay, (d.onTransportConnected false).link =
      { d.link with wifiReconnectTimer := some delay, userDisconnecting := false } := by
  have hlink := dropSession_link d
  rw [← hlink] at hw hplan
  obtain ⟨delay, hdelay⟩ := planReconnect_wifi d.link.targetName hw hplan
  refine ⟨delay, ?_⟩
  rw [onTransportConnected_false_eq, Dev.emit_link, hdelay, hlink]

/-- the reconnect timer expires while the link is down: the worker is asked for the target -/
theorem step_reconnect (harmed : d.link.wifiReconnectTimer ≠ none) (hdown : d.isConnected = false)
    (hparse : ¬ Malformed d.link.wifiTarget) : ∃ host port,
    (step (.expire .wifiReconnect) d).link = { d.clearSerialReconnect.link with
      wifiReconnectTimer := none, wifiReconnectAttempts := d.link.wifiReconnectAttempts + 1
      wifiCreated := true, transport := .wifi, userDisconnecting := false
      pendingSessionStart := true, wifiTransportTarget := d.link.wifiTarget } ∧
    requests (step (.expire .wifiReconnect) d).out = [.connectToHost host port] := by
  cases hp : parseTarget d.link.wifiTarget with
  | error msg => exact absurd ⟨msg, hp⟩ hparse
  | ok target =>
    obtain ⟨host, port⟩ := target
    refine ⟨host, port, ?_⟩
    have hstep : step (.expire .wifiReconnect) d = (Dev.tryWifiReconnect { d.fresh with
        link := { d.fresh.link with wifiReconnectTimer := none } }) := by
      exact if_neg harmed
    rw [hstep]
    unfold Dev.tryWifiReconnect
    rw [if_neg (by
      show ¬ d.isConnected = true
      rw [hdown]
      exact Bool.false_ne_true)]
    unfold Dev.connectToDeviceWifi Dev.wifiOpen
    dsimp only
    rw [show d.fresh.link.wifiTarget = d.link.wifiTarget from rfl, hp]
    dsimp only
    rw [if_pos rfl]
    exact ⟨rfl, rfl⟩

/-- while the link is up the expiry only stops the timer -/
theorem step_reconnect_up (hup : d.isConnected = true) :
    (step (.expire .wifiReconnect) d).link =
        { d.link with wifiReconnectTimer := (none : Timer) } ∧
      requests (step (.expire .wifiReconnect) d).out = [] := by
  have hstep : step (.expire .wifiReconnect) d =
      { d.fresh with link := { d.link with wifiReconnectTimer := none } } := by
    show d.fresh.expire .wifiReconnect = _
    unfold Dev.expire
    split
    · rename_i hnone
      rw [show d.fresh.timer .wifiReconnect = d.link.wifiReconnectTimer from rfl] at hnone
      show d.fresh = _
      rw [← hnone]
      rfl
    · exact if_pos hup
  rw [hstep]
  exact ⟨rfl, rfl⟩

theorem step_workerConnected (hw : d.link.transport = .wifi) (hc : d.link.wifiCreated = true) :
    (step .workerConnected d).link = { d.link with
      wifiConnected := true, wifiWasConnected := true, wifiReconnectAttempts := 0
      wifiReconnectTimer := none, pendingSessionStart := false } ∧
    requests (step .workerConnected d).out = [] := by
  let d1 : Dev := { d.fresh with link := { d.link with wifiConnected := true } }
  have hon : d1.onWifi = true := (onWifi_iff d1).mpr hw
  have hstep : step .workerConnected d = d1.onTransportConnected true := by
    show (if d.fresh.link.wifiCreated then d.fresh.onWorkerConnected else d.fresh) = _
    rw [if_pos (show d.fresh.link.wifiCreated = true from hc)]
    exact if_pos hon
  rw [hstep]
  exact ⟨onTransportConnected_true_wifi hw,
    sameRequests_relinking.framed.handled.onTransportConnected_true d1⟩

/-- the loss of a connection arms the timer -/
theorem step_workerDisconnected (hw : d.link.transport = .wifi)
    (hup : d.link.wifiConnected = true)
    (hplan : ¬ d.link.userDisconnecting ∧ d.link.wifiWasConnected ∧ d.link.wifiTarget ≠ "" ∧
      d.link.wifiReconnectAttempts < WIFI_RECONNECT_MAX) :
    (∃ delay, (step .workerDisconnected d).link = { d.link with
      wifiConnected := false, wifiReconnectTimer := some delay, userDisconnecting := false }) ∧
    requests (step .workerDisconnected d).out = [] := by
  let d1 : Dev := { d.fresh with link := { d.link with wifiConnected := false } }
  have hon : d1.onWifi = true := (onWifi_iff d1).mpr hw
  have hstep : step .workerDisconnected d = d1.onTransportConnected false := by
    show d.fresh.onWorkerDisconnected = _
    unfold Dev.onWorkerDisconnected
    rw [if_pos (show d.fresh.link.wifiConnected = true from hup)]
    exact if_pos hon
  rw [hstep]
  exact ⟨onTransportConnected_false_wifi (d := d1) hw hplan,
    sameRequests_relinking.framed.handled.onTransportConnected_false d1⟩

/-- a report of a loss that the facade does not know as a connection goes unheard -/
theorem step_workerDisconnected_down (hdown : d.link.wifiConnected = false) :
    step .workerDisconnected d = d.fresh := by
  show d.fresh.onWorkerDisconnected = _
  exact if_neg (by
    rw [show d.fresh.link.wifiConnected = false from hdown]
    exact Bool.false_ne_true)

end

/-! ## The loop -/

/-- what holds of the device object throughout -/
structure Ready (l : Link) : Prop where
  transport : l.transport = .wifi
  created : l.wifiCreated = true
  was : l.wifiWasConnected = true
  staying : l.userDisconnecting = false
  target : l.wifiTarget ≠ ""

/-- no attempt is on its way, and no report of one -/
structure Calm (x : WifiLink) : Prop where
  socket : x.worker.tcp ≠ .Connecting
  asks : ∀ r ∈ x.asks, r = .disconnectFromHost
  news : true ∉ x.news

inductive Phase (x : WifiLink) : Prop
  | up (connected : x.dev.link.wifiConnected = true)
      (attempts : x.dev.link.wifiReconnectAttempts < WIFI_RECONNECT_MAX) (calm : Calm x)
  | waiting (down : x.dev.link.wifiConnected = false)
      (timer : x.dev.link.wifiReconnectTimer ≠ none) (calm : Calm x)
  | asked (down : x.dev.link.wifiConnected = false) (timer : x.dev.link.wifiReconnectTimer = none)
      (socket : x.worker.tcp ≠ .Connecting) (closes : List Request) (host : String)
      (port : UInt16) (all : ∀ r ∈ closes, r = .disconnectFromHost)
      (asks : x.asks = closes ++ [.connectToHost host port]) (news : true ∉ x.news)
  | connecting (down : x.dev.link.wifiConnected = false)
      (timer : x.dev.link.wifiReconnectTimer = none) (socket : x.worker.tcp = .Connecting)
      (asks : x.asks = []) (news : true ∉ x.news)
  | told (down : x.dev.link.wifiConnected = false) (timer : x.dev.link.wifiReconnectTimer = none)
      (socket : x.worker.tcp ≠ .Connecting) (asks : x.asks = []) (before after : List Bool)
      (news : x.news = before ++ true :: after) (first : true ∉ before) (only : true ∉ after)

structure Looping (x : WifiLink) : Prop where
  ready : Ready x.dev.link
  phase : Phase x

theorem Established.looping {x : WifiLink} (h : Established x) : Looping x := by
  refine ⟨⟨h.transport, h.created, h.was, h.staying, h.target⟩, .up h.connected ?_ ⟨?_, ?_, ?_⟩⟩
  · rw [h.attempts]
    decide
  · rw [h.socket]
    decide
  · rw [h.asks]
    exact fun r hr => absurd hr List.not_mem_nil
  · rw [h.news]
    exact List.not_mem_nil

theorem Looping.trying {x : WifiLink} (h : Looping x) : Trying x := by
  unfold Trying InProgress
  rw [isConnected_wifi h.ready.transport]
  cases h.phase with
  | up connected attempts calm => exact .inl connected
  | waiting down timer calm => exact .inr (.inr (.inl timer))
  | asked down timer socket closes host port all asks news =>
    refine .inr (.inl (.inl ⟨host, port, ?_⟩))
    rw [asks]
    exact List.mem_append_right _ List.mem_cons_self
  | connecting down timer socket asks news => exact .inr (.inl (.inr (.inl socket)))
  | told down timer socket asks before after news first only =>
    refine .inr (.inl (.inr (.inr ?_)))
    rw [news]
    simp

variable {x y : WifiLink}

theorem Ready.same {l l' : Link} (h : Ready l) (hs : SameWifi l l') : Ready l' :=
  ⟨hs.transport.trans h.transport, hs.created.trans h.created, hs.was.trans h.was,
    hs.closing.trans h.staying, hs.target h.target⟩

/-- the phase is a matter of the WiFi side, the socket, the requests and the outcomes -/
theorem Phase.same (h : Phase x) (hs : SameWifi x.dev.link y.dev.link)
    (ht : y.worker.tcp = x.worker.tcp) (ha : y.asks = x.asks) (hn : y.news = x.news) :
    Phase y := by
  have calm (c : Calm x) : Calm y :=
    ⟨by rw [ht]; exact c.socket, by rw [ha]; exact c.asks, by rw [hn]; exact c.news⟩
  cases h with
  | up connected attempts c =>
    exact .up (hs.connected.trans connected) (by rw [hs.attempts]; exact attempts) (calm c)
  | waiting down timer c =>
    exact .waiting (hs.connected.trans down) (by rw [hs.timer]; exact timer) (calm c)
  | asked down timer socket closes host port all asks news =>
    exact .asked (hs.connected.trans down) (hs.timer.trans timer) (by rw [ht]; exact socket)
      closes host port all (ha.trans asks) (by rw [hn]; exact news)
  | connecting down timer socket asks news =>
    exact .connecting (hs.connected.trans down) (hs.timer.trans timer) (ht.trans socket)
      (ha.trans asks) (by rw [hn]; exact news)
  | told down timer socket asks before after news first only =>
    exact .told (hs.connected.trans down) (hs.timer.trans timer) (by rw [ht]; exact socket)
      (ha.trans asks) before after (hn.trans news) first only

theorem Looping.same (h : Looping x) (hs : SameWifi x.dev.link y.dev.link)
    (ht : y.worker.tcp = x.worker.tcp) (ha : y.asks = x.asks) (hn : y.news = x.news) :
    Looping y := ⟨h.ready.same hs, h.phase.same hs ht ha hn⟩

/-- an undisturbing event: a close of the connection may be asked for -/
theorem Looping.steady (h : Looping x) {d : Dev} (hs : Steady x.dev d) : Looping (x.fromGui d) := by
  rcases hs.asks with hr | ⟨hup, hr⟩
  · refine h.same hs.wifi rfl ?_ rfl
    rw [asks_fromGui, hr, List.append_nil]
  · refine ⟨h.ready.same hs.wifi, ?_⟩
    have down {P : Prop} (hd : x.dev.link.wifiConnected = false) : P :=
      absurd (hup.symm.trans hd) (by decide)
    cases h.phase with
    | up connected attempts c =>
      refine .up (hs.wifi.connected.trans hup)
        (Nat.lt_of_le_of_lt (Nat.le_of_eq hs.wifi.attempts) attempts)
        ⟨c.socket, fun r hm => ?_, c.news⟩
      rw [asks_fromGui, hr] at hm
      rcases List.mem_append.mp hm with hm | hm
      · exact c.asks r hm
      · exact List.mem_singleton.mp hm
    | waiting hd => exact down hd
    | asked hd => exact down hd
    | connecting hd => exact down hd
    | told hd => exact down hd

/-- the reconnect timer expires -/
theorem Looping.expired (h : Looping x) (harmed : x.dev.link.wifiReconnectTimer ≠ none)
    (hparse : x.dev.isConnected = false → ¬ Malformed x.dev.link.wifiTarget) :
    Looping (x.fromGui (step (.expire .wifiReconnect) x.dev)) := by
  have hc := isConnected_wifi h.ready.transport
  cases h.phase with
  | up connected attempts c =>
    obtain ⟨hlink, hr⟩ := step_reconnect_up (hc.trans connected)
    have hdev : (x.fromGui (step (.expire .wifiReconnect) x.dev)).dev.link =
        { x.dev.link with wifiReconnectTimer := (none : Timer) } := hlink
    have hasks : (x.fromGui (step (.expire .wifiReconnect) x.dev)).asks = x.asks := by
      rw [asks_fromGui, hr, List.append_nil]
    refine ⟨?_, .up ?_ ?_ ⟨c.socket, ?_, c.news⟩⟩
    · rw [hdev]
      exact ⟨h.ready.transport, h.ready.created, h.ready.was, h.ready.staying, h.ready.target⟩
    · rw [hdev]
      exact connected
    · rw [hdev]
      exact attempts
    · rw [hasks]
      exact c.asks
  | waiting down timer c =>
    have hdown := hc.trans down
    obtain ⟨host, port, hlink, hr⟩ := step_reconnect harmed hdown (hparse hdown)
    have hdev : (x.fromGui (step (.expire .wifiReconnect) x.dev)).dev.link = _ := hlink
    refine ⟨?_, .asked ?_ ?_ c.socket x.asks host port c.asks ?_ c.news⟩
    · rw [hdev]
      exact ⟨rfl, rfl, h.ready.was, rfl, h.ready.target⟩
    · rw [hdev]
      exact down
    · rw [hdev]
    · rw [asks_fromGui, hr]
  | asked down timer => exact absurd timer harmed
  | connecting down timer => exact absurd timer harmed
  | told down timer => exact absurd timer harmed

theorem requests_cons (o : Out) (rest : List Out) :
    requests (o :: rest) = o.request?.toList ++ requests rest := by
  unfold requests
  rw [List.filterMap_eq_flatMap_toList, List.filterMap_eq_flatMap_toList, List.flatMap_cons]

/-- the worker closes the connection -/
theorem Looping.closes (h : Looping x) {rest : List Request}
    (hasks : x.asks = .disconnectFromHost :: rest) (hd : y.dev = x.dev) (hya : y.asks = rest)
    (hyn : y.news = x.news)
    (hyt : y.worker.tcp = if x.worker.tcp = .Connected then .Closing else x.worker.tcp) :
    Looping y := by
  have hsocket (hs : x.worker.tcp ≠ .Connecting) : y.worker.tcp ≠ .Connecting := by
    rw [hyt]
    split
    · decide
    · exact hs
  have calm (c : Calm x) : Calm y := by
    refine ⟨hsocket c.socket, fun r hr => c.asks r ?_, by rw [hyn]; exact c.news⟩
    rw [hasks, ← hya]
    exact List.mem_cons_of_mem _ hr
  refine ⟨by rw [hd]; exact h.ready, ?_⟩
  cases h.phase with
  | up connected attempts c =>
    exact .up (by rw [hd]; exact connected) (by rw [hd]; exact attempts) (calm c)
  | waiting down timer c =>
    exact .waiting (by rw [hd]; exact down) (by rw [hd]; exact timer) (calm c)
  | asked down timer socket closes host port all asks news =>
    rw [hasks] at asks
    cases closes with
    | nil => exact absurd (List.cons.inj asks).1 (by simp)
    | cons r closes =>
      exact .asked (by rw [hd]; exact down) (by rw [hd]; exact timer) (hsocket socket) closes host
        port (fun r' hr' => all r' (List.mem_cons_of_mem _ hr'))
        (hya.trans (List.cons.inj asks).2) (by rw [hyn]; exact news)
  | connecting down timer socket asks news => exact absurd (hasks.symm.trans asks) (by simp)
  | told down timer socket asks => exact absurd (hasks.symm.trans asks) (by simp)

/-- the worker connects -/
theorem Looping.connects (h : Looping x) {host : String} {port : UInt16} {rest : List Request}
    (hasks : x.asks = .connectToHost host port :: rest) (hd : y.dev = x.dev) (hya : y.asks = rest)
    {l : List Bool} (hl : true ∉ l) (hyn : y.news = x.news ++ l)
    (hyt : y.worker.tcp = .Connecting) : Looping y := by
  have calm {P : Prop} (c : Calm x) : P := by
    have hr := c.asks (.connectToHost host port) (by rw [hasks]; exact List.mem_cons_self)
    exact Request.noConfusion hr
  refine ⟨by rw [hd]; exact h.ready, ?_⟩
  cases h.phase with
  | up connected attempts c => exact calm c
  | waiting down timer c => exact calm c
  | asked down timer socket closes host' port' all asks news =>
    rw [hasks] at asks
    cases closes with
    | nil =>
      refine .connecting (by rw [hd]; exact down) (by rw [hd]; exact timer) hyt
        (hya.trans (List.cons.inj asks).2) ?_
      rw [hyn, List.mem_append]
      exact not_or.mpr ⟨news, hl⟩
    | cons r closes =>
      have hr := all r List.mem_cons_self
      rw [← (List.cons.inj asks).1] at hr
      exact Request.noConfusion hr
  | connecting down timer socket asks news => exact absurd (hasks.symm.trans asks) (by simp)
  | told down timer socket asks => exact absurd (hasks.symm.trans asks) (by simp)

/-- the worker handles its oldest request -/
theorem Looping.requested (h : Looping x) (udpBind : Option UInt16) :
    Looping (link (.request udpBind) x) := by
  simp only [link]
  split
  · exact h
  · rename_i o rest hreq
    let w : NetworkWorker := { x.worker with out := [] }
    let y : WifiLink := WifiLink.fromWorker { x with toWorker := rest } (slot udpBind o)
    have hasks : x.asks = o.request?.toList ++ y.asks := by
      unfold WifiLink.asks
      rw [hreq, requests_cons]
      rfl
    have hnews : y.news = x.news ++ outcomes (slot udpBind o w).out := news_fromWorker _ _
    have other (hr : o.request? = none) : Looping y := by
      obtain ⟨ht, hn⟩ := slot_same w udpBind hr
      rw [hr] at hasks
      refine h.same (y := y) (.of_eq rfl) ht hasks.symm ?_
      rw [hnews, hn]
      exact List.append_nil _
    cases o with
    | requestDisconnect =>
      obtain ⟨ht, hn⟩ := slot_disconnect w udpBind
      refine h.closes (y := y) hasks rfl rfl ?_ ht
      rw [hnews, hn]
      exact List.append_nil _
    | requestConnect host port =>
      obtain ⟨ht, l, hn, hl⟩ := slot_connect w udpBind host port
      exact h.connects (y := y) hasks rfl rfl hl (hnews.trans (congrArg _ hn)) ht
    | _ => exact other rfl

/-- the facade hears of a loss: of the connection it had, or of none -/
theorem Looping.lost (h : Looping x) {rest : List Bool} (hnews : x.news = false :: rest)
    (hd : y.dev = x.dev) (hw : y.worker.tcp = x.worker.tcp) (ha : y.asks = x.asks)
    (hn : y.news = rest) : Looping (y.fromGui (step .workerDisconnected y.dev)) := by
  rw [hd]
  have htrue (hx : true ∉ x.news) : true ∉ rest := fun hm => hx (by
    rw [hnews]
    exact List.mem_cons_of_mem _ hm)
  have calm (c : Calm x) : Calm y :=
    ⟨by rw [hw]; exact c.socket, by rw [ha]; exact c.asks, by rw [hn]; exact htrue c.news⟩
  have unheard (hdown : x.dev.link.wifiConnected = false) (hy : Phase y) :
      Looping (y.fromGui (step .workerDisconnected x.dev)) := by
    rw [step_workerDisconnected_down hdown]
    have hly : Looping y := ⟨by rw [hd]; exact h.ready, hy⟩
    refine hly.steady ?_
    rw [hd]
    exact .silent (.of_eq rfl) rfl
  cases h.phase with
  | up connected attempts c =>
    obtain ⟨⟨delay, hlink⟩, hr⟩ := step_workerDisconnected h.ready.transport connected
      ⟨by rw [h.ready.staying]; exact Bool.false_ne_true, h.ready.was, h.ready.target, attempts⟩
    have hdev : (y.fromGui (step .workerDisconnected x.dev)).dev.link = _ := hlink
    refine ⟨?_, .waiting ?_ ?_ ⟨(calm c).socket, ?_, (calm c).news⟩⟩
    · rw [hdev]
      exact ⟨h.ready.transport, h.ready.created, h.ready.was, rfl, h.ready.target⟩
    · rw [hdev]
    · rw [hdev]
      exact Option.some_ne_none delay
    · rw [asks_fromGui, hr, List.append_nil]
      exact (calm c).asks
  | waiting down timer c =>
    exact unheard down (.waiting (by rw [hd]; exact down) (by rw [hd]; exact timer) (calm c))
  | asked down timer socket closes host port all asks news =>
    exact unheard down (.asked (by rw [hd]; exact down) (by rw [hd]; exact timer)
      (by rw [hw]; exact socket) closes host port all (ha.trans asks)
      (by rw [hn]; exact htrue news))
  | connecting down timer socket asks news =>
    exact unheard down (.connecting (by rw [hd]; exact down) (by rw [hd]; exact timer)
      (hw.trans socket) (ha.trans asks) (by rw [hn]; exact htrue news))
  | told down timer socket asks before after news first only =>
    rw [hnews] at news
    cases before with
    | nil => exact absurd (List.cons.inj news).1 (by decide)
    | cons b before =>
      exact unheard down (.told (by rw [hd]; exact down) (by rw [hd]; exact timer)
        (by rw [hw]; exact socket) (ha.trans asks) before after (hn.trans (List.cons.inj news).2)
        (fun hm => first (List.mem_cons_of_mem _ hm)) only)

/-- the facade hears of the connection -/
theorem Looping.regained (h : Looping x) {rest : List Bool} (hnews : x.news = true :: rest)
    (hd : y.dev = x.dev) (hw : y.worker.tcp = x.worker.tcp) (ha : y.asks = x.asks)
    (hn : y.news = rest) : Looping (y.fromGui (step .workerConnected y.dev)) := by
  rw [hd]
  have none {P : Prop} (hx : true ∉ x.news) : P :=
    absurd (by rw [hnews]; exact List.mem_cons_self) hx
  cases h.phase with
  | up connected attempts c => exact none c.news
  | waiting down timer c => exact none c.news
  | asked down timer socket closes host port all asks news => exact none news
  | connecting down timer socket asks news => exact none news
  | told down timer socket asks before after news first only =>
    obtain ⟨hlink, hr⟩ := step_workerConnected h.ready.transport h.ready.created
    have hdev : (y.fromGui (step .workerConnected x.dev)).dev.link = _ := hlink
    have hasks : (y.fromGui (step .workerConnected x.dev)).asks = [] := by
      rw [asks_fromGui, hr, List.append_nil, ha, asks]
    have honly : true ∉ rest := by
      rw [hnews] at news
      cases before with
      | nil =>
        rw [(List.cons.inj news).2]
        exact only
      | cons b before =>
        rw [← (List.cons.inj news).1] at first
        exact absurd List.mem_cons_self first
    refine ⟨?_, .up ?_ ?_ ⟨?_, ?_, ?_⟩⟩
    · rw [hdev]
      exact ⟨h.ready.transport, h.ready.created, rfl, h.ready.staying, h.ready.target⟩
    · rw [hdev]
    · rw [hdev]
      exact (by decide : 0 < WIFI_RECONNECT_MAX)
    · show y.worker.tcp ≠ _
      rw [hw]
      exact socket
    · rw [hasks]
      exact fun r hm => absurd hm List.not_mem_nil
    · show true ∉ y.news
      rw [hn]
      exact honly

/-- the GUI thread handles the oldest report -/
theorem Looping.reported (h : Looping x) : Looping (link .report x) := by
  simp only [link]
  split
  · exact h
  · rename_i o rest hrep
    let y : WifiLink := { x with toGui := rest }
    have hnews : x.news = (outcome? o).toList ++ y.news := by
      unfold WifiLink.news
      rw [hrep, List.filterMap_eq_flatMap_toList, List.filterMap_eq_flatMap_toList,
        List.flatMap_cons]
    have other (ho : outcome? o = none) : Looping y := by
      rw [ho] at hnews
      exact h.same (y := y) (.of_eq rfl) rfl rfl hnews.symm
    have steady {e : Event} (hy : Looping y) (hu : Undisturbing e x.dev)
        (he : e ≠ .expire .wifiReconnect) : Looping (y.fromGui (step e x.dev)) :=
      hy.steady (gui_steady h.ready.transport hu fun heq => absurd heq he)
    cases o with
    | connected => exact h.regained (y := y) hnews rfl rfl rfl rfl
    | disconnected => exact h.lost (y := y) hnews rfl rfl rfl rfl
    | socketError message => exact steady (other rfl) trivial (by simp)
    | screenPortReady udpPort => exact steady (other rfl) trivial (by simp)
    | _ => exact other rfl

/-- the connection ends on the worker's side -/
theorem Looping.ended (h : Looping x) (hsocket : x.worker.tcp ≠ .Connecting) (hd : y.dev = x.dev)
    (ha : y.asks = x.asks) (hn : y.news = x.news ++ [false])
    (hw : y.worker.tcp = .Unconnected) : Looping y := by
  have hy : y.worker.tcp ≠ .Connecting := by
    rw [hw]
    decide
  have hnews (hx : true ∉ x.news) : true ∉ y.news := by
    rw [hn, List.mem_append]
    exact not_or.mpr ⟨hx, by decide⟩
  have calm (c : Calm x) : Calm y := ⟨hy, by rw [ha]; exact c.asks, hnews c.news⟩
  refine ⟨by rw [hd]; exact h.ready, ?_⟩
  cases h.phase with
  | up connected attempts c =>
    exact .up (by rw [hd]; exact connected) (by rw [hd]; exact attempts) (calm c)
  | waiting down timer c =>
    exact .waiting (by rw [hd]; exact down) (by rw [hd]; exact timer) (calm c)
  | asked down timer socket closes host port all asks news =>
    exact .asked (by rw [hd]; exact down) (by rw [hd]; exact timer) hy closes host port all
      (ha.trans asks) (hnews news)
  | connecting down timer socket asks news => exact absurd socket hsocket
  | told down timer socket asks before after news first only =>
    refine .told (by rw [hd]; exact down) (by rw [hd]; exact timer) hy (ha.trans asks) before
      (after ++ [false]) ?_ first ?_
    · rw [hn, news, List.append_assoc, List.cons_append]
    · rw [List.mem_append]
      exact not_or.mpr ⟨only, by decide⟩

/-- the attempt under way succeeds -/
theorem Looping.established (h : Looping x) (hsocket : x.worker.tcp = .Connecting)
    (hd : y.dev = x.dev) (ha : y.asks = x.asks) (hn : y.news = x.news ++ [true])
    (hw : y.worker.tcp = .Connected) : Looping y := by
  refine ⟨by rw [hd]; exact h.ready, ?_⟩
  cases h.phase with
  | up connected attempts c => exact absurd hsocket c.socket
  | waiting down timer c => exact absurd hsocket c.socket
  | asked down timer socket => exact absurd hsocket socket
  | connecting down timer socket asks news =>
    refine .told (by rw [hd]; exact down) (by rw [hd]; exact timer) ?_ (ha.trans asks) x.news []
      hn news List.not_mem_nil
    rw [hw]
    decide
  | told down timer socket => exact absurd hsocket socket

theorem Looping.changed (h : Looping x) {e : TcpEvent}
    (hs : ∀ message, e = .failed message → x.worker.tcp ≠ .Connecting) :
    Looping (link (.network e) x) := by
  let w : NetworkWorker := { x.worker with out := [] }
  let y : WifiLink := x.fromWorker (tcpEvent e)
  have hnews : y.news = x.news ++ outcomes (tcpEvent e w).out := news_fromWorker _ _
  show Looping y
  cases tcpEvent_change w e with
  | same tcp out =>
    refine h.same (y := y) (.of_eq rfl) tcp rfl ?_
    rw [hnews, out]
    exact List.append_nil _
  | established before tcp out =>
    exact h.established (y := y) before rfl rfl (hnews.trans (congrArg _ out)) tcp
  | failed message event before => exact absurd before (hs message event)
  | closed before tcp out =>
    exact h.ended (y := y) before rfl rfl (hnews.trans (congrArg _ out)) tcp

theorem looping_link (m : LinkMove) (x : WifiLink) (h : Looping x) (hu : Undisturbed m x)
    (hs : Succeeds m x) : Looping (link m x) := by
  cases m with
  | gui e =>
    have hworker : isWorkerEvent e = false := by
      cases e <;> first | rfl | exact (hu : False).elim
    have hlink : link (.gui e) x = x.fromGui (step e x.dev) := by
      show (if isWorkerEvent e then x else _) = _
      rw [hworker]
      rfl
    rw [hlink]
    by_cases he : e = .expire .wifiReconnect ∧ x.dev.link.wifiReconnectTimer ≠ none
    · obtain ⟨rfl, harmed⟩ := he
      exact h.expired harmed (hs harmed)
    · refine h.steady (gui_steady h.ready.transport hu fun heq => ?_)
      by_contra harmed
      exact he ⟨heq, harmed⟩
  | request udpBind => exact h.requested udpBind
  | report => exact h.reported
  | network e =>
    refine h.changed fun message he => ?_
    subst he
    exact hs

/-- **The reconnect keeps trying** while no attempt fails. -/
theorem keepsTrying (x : WifiLink) (h : Established x) (ms : List LinkMove)
    (hms : Run.Along link (fun m x => Undisturbed m x ∧ Succeeds m x) ms x) :
    Run.Throughout link Trying ms x :=
  Run.throughout_of_along link (fun _ hx => hx.trying)
    (fun m x hx hm => looping_link m x hx hm.1 hm.2) ms x h.looping hms

/-- the session with the device at 192.168.1.50, its first requests handled and reports heard -/
def connectMoves : List LinkMove :=
  [.gui (.call (.connectToDeviceWifi "192.168.1.50:3333")), .request (some 50000),
    .network .established, .report, .report, .request none, .request none]

theorem connectMoves_established : Established (Run.exec link connectMoves {}) :=
  ⟨by decide +kernel, by decide +kernel, by decide +kernel, by decide +kernel, by decide +kernel,
    by decide +kernel, by decide +kernel, by decide +kernel, by decide +kernel, by decide +kernel⟩

/-- the session drops and comes back -/
theorem keepsTrying_regained :
    let ms : List LinkMove := [.network .closed, .report, .gui (.expire .wifiReconnect),
      .request none, .network .established, .report, .report]
    Run.Throughout link Trying ms (Run.exec link connectMoves {}) := by
  refine keepsTrying _ connectMoves_established _ ⟨⟨trivial, trivial⟩, ⟨trivial, trivial⟩,
    ⟨trivial, fun _ _ => ?_⟩, ⟨trivial, trivial⟩, ⟨trivial, trivial⟩, ⟨trivial, trivial⟩,
    ⟨trivial, trivial⟩, trivial⟩
  rintro ⟨msg, hmsg⟩
  have hok : (parseTarget "192.168.1.50:3333").toOption = some ("192.168.1.50", 3333) := by
    decide +kernel
  rw [show parseTarget "192.168.1.50:3333" = .error msg from hmsg] at hok
  exact absurd hok (by simp [Except.toOption])

/-- the session drops and the first attempt fails: nobody tries again -/
theorem keepsTrying_refused :
    let x := Run.exec link connectMoves {}
    let ms : List LinkMove := [.network .closed, .report, .gui (.expire .wifiReconnect),
      .request none, .network (.failed "Connection refused"), .report, .report, .report]
    Established x ∧ Run.Along link Undisturbed ms x ∧
      (Run.exec link ms x).dev.link.wifiReconnectAttempts = 1 ∧ ¬ Trying (Run.exec link ms x) := by
  intro x ms
  refine ⟨connectMoves_established,
    ⟨trivial, trivial, trivial, trivial, trivial, trivial, trivial, trivial, trivial⟩,
    by decide +kernel, ?_⟩
  have hasks : (Run.exec link ms x).asks = [] := by decide +kernel
  rintro (hup | (⟨host, port, hask⟩ | hconnecting | hnews) | htimer | htries)
  · exact absurd hup (by decide +kernel)
  · rw [hasks] at hask
    exact List.not_mem_nil hask
  · exact absurd hconnecting (by decide +kernel)
  · exact absurd hnews (by decide +kernel)
  · exact absurd htimer (by decide +kernel)
  · exact absurd htries (by decide +kernel)

end QMon.Transport
