import QMonstatek.Transport.PreferredPort

/-!
# A device that comes back under another port

The device object connects to a port on its own, loses the link, and while its retry is pending the
discovery reports a port: the one the device is on now.

`Pending d`               the link is down and a USB retry is planned;
`Attempt e d`             the handler of `e` tries the port of that retry;
`Tries portName e d`      the handler of `e` opens this port, the pending one, if it opens;
`Renumbering p q s d`     from `d`, the history `s` goes from the port `p` to a report of `q` and
                          the next attempt.

Every open makes its port the preferred one, and a report of any other port is not heard: the
attempt is on `p`, whatever `q` is.  `p` and `q` are short names, as `portName()` and the discovery
answer them.
-/

namespace QMon.Transport
open Device

/-- what makes the device object connect over USB without the user -/
def Auto : Event → Prop
  | .deviceFound _ | .expire .serialReconnect => True
  | _ => False

def Unchosen (e : Event) : Prop := ∀ c, e = .call c → ¬ Chooses c

structure Pending (d : Dev) : Prop where
  down : d.isConnected = false
  timer : d.link.serialReconnectTimer ≠ none
  port : d.link.serialReconnectPort ≠ ""

structure Attempt (e : Event) (d : Dev) : Prop where
  auto : d.link.autoConnect = true
  budget : d.link.serialReconnectAttempts < SERIAL_RECONNECT_MAX
  fired : e = .expire .serialReconnect ∨
    e = .shot .trySerialReconnect ∧ .trySerialReconnect ∈ d.shots

def Tries (portName : String) (e : Event) (d : Dev) : Prop :=
  (step e d).link.transport = .serial ∧ (step e d).link.serialPort = portName ∧
    (step e d).link.serialOpen = d.env.serialOpens d.link.serialReconnectPort

structure History where
  auto : Event
  /-- while the link is up -/
  up : List Event
  drop : Event
  /-- until the report -/
  waiting : List Event
  /-- from the report to the attempt -/
  late : List Event
  retry : Event

namespace History

def joined (s : History) (d : Dev) : Dev := step s.auto d

def lost (s : History) (d : Dev) : Dev := step s.drop (Run.exec step s.up (s.joined d))

def reported (s : History) (q : String) (d : Dev) : Dev :=
  step (.deviceFound q) (Run.exec step s.waiting (s.lost d))

def last (s : History) (q : String) (d : Dev) : Dev := Run.exec step s.late (s.reported q d)

end History

structure Renumbering (p q : String) (s : History) (d : Dev) : Prop where
  auto : Auto s.auto
  before : d.isConnected = false
  joined : (s.joined d).OnPort p
  /-- under a name that is not empty -/
  named : (s.joined d).link.preferredSerialPort ≠ ""
  short : d.link.shortPortName p = p
  up : Run.Throughout step (fun d => d.isConnected = true) s.up (s.joined d)
  /-- with any number of failed attempts -/
  waiting : Run.Throughout step Pending s.waiting (s.lost d)
  late : Run.Throughout step Pending s.late (s.reported q d)
  next : Run.Along step (fun e d => ¬ Attempt e d) s.late (s.reported q d)
  only : ∀ r, .deviceFound r ∈ s.late → r = q
  retry : Attempt s.retry (s.last q d)
  unchosen : ∀ e ∈ s.up ++ s.drop :: s.waiting ++ s.late, Unchosen e

/-! ## Connecting without the user -/

section
variable {d : Dev} {p : String}

theorem not_onPort_of_down (hdown : d.isConnected = false) : ¬ d.OnPort p := fun h =>
  Bool.false_ne_true (hdown.symm.trans h.isConnected)

theorem connectToDevice_down (portName : String)
    (hfails : ¬ (d.connectToDevice portName).2 = true) :
    (d.connectToDevice portName).1.link.serialOpen = false := by
  let d0 := (d.setTransport .serial).serialClose
  have hclosed : d0.link.serialOpen = false := (serialClose_line _).1
  obtain ⟨hlink, hok, -⟩ := connectToDevice_closed portName hclosed
  rw [connectToDevice_eq, hok] at hfails
  rw [connectToDevice_eq, hlink, Link.connected, if_neg hfails]
  exact hclosed

/-- the port that opens is preferred from then on -/
theorem connectToDevice_joined (portName : String) (hok : (d.connectToDevice portName).2 = true)
    (h : (d.connectToDevice portName).1.OnPort p)
    (hn : (d.connectToDevice portName).1.link.preferredSerialPort ≠ "") :
    Held d.link.shortPortName p d.link.wifiReconnectTimer
      (d.connectToDevice portName).1.link := by
  let d0 := (d.setTransport .serial).serialClose
  have hclosed : d0.link.serialOpen = false := (serialClose_line _).1
  obtain ⟨⟨⟨_, _, _, _, hd0⟩, -⟩, -⟩ := serialClose_serial (d := d.setTransport .serial) rfl
  have htimer : d0.link.wifiReconnectTimer = d.link.wifiReconnectTimer := by
    rw [show d0.link = _ from hd0]
    rfl
  have hnaming : d0.link.shortPortName = d.link.shortPortName := by
    rw [show d0.link = _ from hd0]
    rfl
  obtain ⟨hlink, hopens, -⟩ := connectToDevice_closed portName hclosed
  rw [connectToDevice_eq, hopens] at hok
  have hport : d0.link.shortPortName portName = p := by
    have hp := h.2.2
    rw [connectToDevice_eq, hlink, Link.connected, if_pos hok] at hp
    exact hp
  rw [connectToDevice_eq, hlink, Link.connected, if_pos hok] at hn ⊢
  rw [← hnaming]
  exact ⟨rfl, .inr htimer, rfl, hn, hport, .inl rfl, fun _ => hport⟩

theorem trySerialReconnect_joined (hdown : d.isConnected = false)
    (h : d.trySerialReconnect.OnPort p)
    (hn : d.trySerialReconnect.link.preferredSerialPort ≠ "") :
    Held d.link.shortPortName p d.link.wifiReconnectTimer d.trySerialReconnect.link := by
  unfold Dev.trySerialReconnect at h hn ⊢
  dsimp only at h hn ⊢
  split at h
  next => exact absurd h (not_onPort_of_down hdown)
  next hguard =>
    rw [if_neg hguard] at hn ⊢
    split at h
    next => exact absurd h (not_onPort_of_down hdown)
    next hbudget =>
      rw [if_neg hbudget] at hn ⊢
      let d1 : Dev := { d with link := { d.link with
        serialReconnectAttempts := d.link.serialReconnectAttempts + 1 } }
      split at h
      next hok =>
        rw [if_pos hok] at hn ⊢
        exact connectToDevice_joined (d := d1) d1.link.serialReconnectPort hok h hn
      next hfails =>
        have hopen : (d1.connectToDevice d1.link.serialReconnectPort).1.link.serialOpen = true :=
          h.2.1
        have hdown' := connectToDevice_down d1.link.serialReconnectPort hfails
        exact Bool.noConfusion (hdown'.symm.trans hopen)

theorem onDeviceFound_joined (r : String) (hdown : d.isConnected = false)
    (h : (d.onDeviceFound r).OnPort p)
    (hn : (d.onDeviceFound r).link.preferredSerialPort ≠ "") :
    Held d.link.shortPortName p d.link.wifiReconnectTimer (d.onDeviceFound r).link := by
  unfold Dev.onDeviceFound at h hn ⊢
  dsimp only at h hn ⊢
  split at h
  next => exact absurd h (not_onPort_of_down hdown)
  next hguard =>
    rw [if_neg hguard] at hn ⊢
    split at h
    next => exact absurd h (not_onPort_of_down hdown)
    next hother =>
      rw [if_neg hother] at hn ⊢
      split at h
      next => exact absurd h (not_onPort_of_down hdown)
      next hretry =>
        rw [if_neg hretry] at hn ⊢
        split at h
        next hok =>
          rw [if_pos hok] at hn ⊢
          exact connectToDevice_joined r hok h hn
        next hfails =>
          let d1 : Dev := { (d.connectToDevice r).1 with
            link := { (d.connectToDevice r).1.link with serialReconnectAttempts := 0 } }
          obtain ⟨timer, port, hlink, -⟩ := scheduleSerialReconnect_link r 750 d1
          have hopen : (d1.scheduleSerialReconnect r 750).link.serialOpen = true := h.2.1
          rw [hlink] at hopen
          exact Bool.noConfusion ((connectToDevice_down r hfails).symm.trans hopen)

/-- a connection that the user did not make prefers its own port -/
theorem joined_held {e : Event} (he : Auto e) (hdown : d.isConnected = false)
    (h : (step e d).OnPort p) (hn : (step e d).link.preferredSerialPort ≠ "") :
    Held d.link.shortPortName p d.link.wifiReconnectTimer (step e d).link := by
  cases e with
  | deviceFound r => exact onDeviceFound_joined (d := d.fresh) r hdown h hn
  | expire t =>
    cases t with
    | serialReconnect =>
      have hstep : step (.expire .serialReconnect) d = d.fresh.expire .serialReconnect := rfl
      rw [hstep] at h hn ⊢
      unfold Dev.expire at h hn ⊢
      split at h
      next =>
        exact absurd (hdown.symm.trans (show d.isConnected = true from h.isConnected))
          Bool.false_ne_true
      next harmed =>
        rw [if_neg harmed] at hn ⊢
        exact trySerialReconnect_joined (d := { d.fresh with
          link := { d.link with serialReconnectTimer := none } }) hdown h hn
    | _ => exact he.elim
  | _ => exact he.elim

end

/-! ## While the retry is pending -/

section
variable {d : Dev} {names : String → String} {p : String} {timer : Timer} {e : Event}

theorem connectToDeviceWifi_noRetry (hostPort : String) (d : Dev) :
    (d.connectToDeviceWifi hostPort).link.serialReconnectTimer = none := by
  unfold Dev.connectToDeviceWifi Dev.wifiOpen
  dsimp only
  cases parseTarget hostPort <;> rfl

/-- a WiFi retry gives up the one over USB -/
theorem step_held_pending (hshort : names p = p) (he : Unchosen e)
    (h : Held names p timer d.link) (hnext : Pending (step e d)) :
    Held names p timer (step e d).link := by
  refine step_held hshort e d h he fun hwifi => ?_
  subst hwifi
  by_contra harmed
  rw [not_or] at harmed
  let d1 : Dev := { d.fresh with link := { d.link with
    wifiReconnectTimer := none, wifiReconnectAttempts := d.link.wifiReconnectAttempts + 1 } }
  have hstep : step (.expire .wifiReconnect) d = d1.connectToDeviceWifi d.link.wifiTarget :=
    (if_neg harmed.1).trans (if_neg harmed.2)
  refine hnext.timer ?_
  rw [hstep]
  exact connectToDeviceWifi_noRetry _ _

theorem trySerialReconnect_tries (hauto : d.link.autoConnect = true) (hdown : d.isConnected = false)
    (hport : d.link.serialReconnectPort ≠ "")
    (hbudget : d.link.serialReconnectAttempts < SERIAL_RECONNECT_MAX)
    (hs : d.link.serialOpen = false) :
    d.trySerialReconnect.link.transport = .serial ∧
      d.trySerialReconnect.link.serialPort = d.link.shortPortName d.link.serialReconnectPort ∧
      d.trySerialReconnect.link.serialOpen = d.env.serialOpens d.link.serialReconnectPort := by
  let d1 : Dev := { d with link := { d.link with
    serialReconnectAttempts := d.link.serialReconnectAttempts + 1 } }
  obtain ⟨hlink, hok, -⟩ := connectToDevice_closed (d := d1) d.link.serialReconnectPort hs
  have hguard : ¬ (¬ d.link.autoConnect = true ∨ d.isConnected = true ∨
      d.link.serialReconnectPort = "") := by
    rw [hauto, hdown]
    simpa using hport
  unfold Dev.trySerialReconnect
  dsimp only
  rw [if_neg hguard, if_neg (Nat.not_le.mpr hbudget)]
  split
  next hopens =>
    rw [show (d1.connectToDevice d1.link.serialReconnectPort).1.link = _ from hlink, Link.connected,
      if_pos (hok.symm.trans hopens)]
    exact ⟨rfl, rfl, (hok.symm.trans hopens).symm⟩
  next hfails =>
    have hfails' := (Bool.not_eq_true _).mp (hok ▸ hfails)
    rw [show (d1.connectToDevice d1.link.serialReconnectPort).1.link = _ from hlink, Link.connected,
      if_neg (by rw [hfails']; exact Bool.false_ne_true)]
    exact ⟨rfl, rfl, hs.trans hfails'.symm⟩

/-- **An attempt is on the port that was open before.** -/
theorem attempt_tries (h : Held names p timer d.link) (hd : Pending d) (he : Attempt e d) :
    Tries p e d := by
  have hport : d.link.shortPortName d.link.serialReconnectPort = p := by
    rw [h.naming]
    exact h.retry.resolve_left hd.port
  have hs : d.link.serialOpen = false := h.closed (by rw [hd.down]; exact Bool.false_ne_true)
  obtain ⟨hauto, hbudget, rfl | ⟨rfl, hshot⟩⟩ := he
  · have hstep : step (.expire .serialReconnect) d = Dev.trySerialReconnect { d.fresh with
        link := { d.link with serialReconnectTimer := none } } := if_neg hd.timer
    rw [Tries, hstep, ← hport]
    exact trySerialReconnect_tries hauto hd.down hd.port hbudget hs
  · have hstep : step (.shot .trySerialReconnect) d = Dev.trySerialReconnect { d.fresh with
        shots := d.shots.erase .trySerialReconnect } := if_neg (not_not.mpr hshot)
    rw [Tries, hstep, ← hport]
    exact trySerialReconnect_tries hauto hd.down hd.port hbudget hs

end

/-- **The next attempt is on the reported port iff that is the port from before**, for every two
ports, every number of failed attempts and every history in between. -/
theorem tries_iff (p q : String) (s : History) (d : Dev) (h : Renumbering p q s d) :
    Tries q s.retry (s.last q d) ↔ q = p := by
  let names := d.link.shortPortName
  let ours (d' : Dev) : Prop := Held names p d.link.wifiReconnectTimer d'.link
  have hjoined : ours (s.joined d) := joined_held h.auto h.before h.joined h.named
  have hup : Run.Throughout step (fun d => d.isConnected = true) s.up (s.joined d) := h.up
  have unchosen {e : Event} (he : e ∈ s.up ++ s.drop :: s.waiting ++ s.late) : Unchosen e :=
    h.unchosen e he
  -- connected, no event but a choice of the user leads to another port
  have hbefore : ours (Run.exec step s.up (s.joined d)) :=
    Run.exec_of_throughout step (I := ours) s.up _
      (fun e he d' hd' hup' _ =>
        step_held h.short e d' hd' (unchosen (by simp [he])) fun _ => .inr hup')
      hjoined hup
  have hconnected := Run.throughout_last step s.up _ hup
  have hlost : ours (s.lost d) :=
    step_held h.short s.drop _ hbefore (unchosen (by simp)) fun _ => .inr hconnected
  have pending (es : List Event) (d0 : Dev) (hes : ∀ e ∈ es, Unchosen e)
      (h0 : ours d0) (hP : Run.Throughout step Pending es d0) : ours (Run.exec step es d0) :=
    Run.exec_of_throughout step (I := ours) es d0
      (fun e he d' hd' _ hnext => step_held_pending h.short (hes e he) hd' hnext) h0 hP
  have hwaited := pending s.waiting _ (fun e he => unchosen (by simp [he])) hlost h.waiting
  have hpending := Run.throughout_last step s.waiting _ h.waiting
  have hreported : ours (s.reported q d) :=
    step_held_pending h.short (fun c hc => Event.noConfusion hc) hwaited
      (Run.throughout_head step h.late)
  have hlast := pending s.late _ (fun e he => unchosen (by simp [he])) hreported h.late
  have htries := attempt_tries hlast (Run.throughout_last step s.late _ h.late) h.retry
  constructor
  · intro hq
    exact hq.2.1.symm.trans htries.2.1
  · rintro rfl
    exact htries

/-- an M1 on COM3 that comes back as COM7 -/
def replugged : History where
  auto := .deviceFound "COM3"
  up := []
  drop := .deviceLost "COM3"
  waiting := []
  late := []
  retry := .expire .serialReconnect

def plugged : Dev := step (.env { serialOpens := fun _ => true }) init

theorem replugged_renumbering (q : String) (hpending : Pending (replugged.reported q plugged))
    (hretry : Attempt (.expire .serialReconnect) (replugged.reported q plugged)) :
    Renumbering "COM3" q replugged plugged where
  auto := trivial
  before := rfl
  joined := ⟨by decide +kernel, by decide +kernel, by decide +kernel⟩
  named := by decide +kernel
  short := by decide
  up := show (replugged.joined plugged).isConnected = true by decide +kernel
  waiting := ⟨by decide +kernel, by decide +kernel, by decide +kernel⟩
  late := hpending
  next := trivial
  only := fun r hr => absurd hr List.not_mem_nil
  retry := hretry
  unchosen := by
    intro e he c hc
    subst hc
    exact absurd he (by simp [replugged])

/-- the report of COM7 goes unheard, and the attempt is on COM3 -/
theorem tries_elsewhere :
    Renumbering "COM3" "COM7" replugged plugged ∧
      (step replugged.retry (replugged.last "COM7" plugged)).link.serialPort = "COM3" ∧
      ¬ Tries "COM7" replugged.retry (replugged.last "COM7" plugged) := by
  refine ⟨replugged_renumbering _ ?_ ?_, by decide +kernel, fun h => ?_⟩
  · exact ⟨by decide +kernel, by decide +kernel, by decide +kernel⟩
  · exact ⟨by decide +kernel, by decide +kernel, .inl rfl⟩
  · exact absurd h.2.1 (by decide +kernel)

/-- the M1 comes back as COM3 -/
theorem tries_same : Tries "COM3" replugged.retry (replugged.last "COM3" plugged) :=
  (tries_iff "COM3" "COM3" replugged plugged
    (replugged_renumbering _ ⟨by decide +kernel, by decide +kernel, by decide +kernel⟩
      ⟨by decide +kernel, by decide +kernel, .inl rfl⟩)).mpr rfl

end QMon.Transport
