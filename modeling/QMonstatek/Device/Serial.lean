import QMonstatek.Device.Line

/-!
# The serial port

`forgotten out`   the ports the discovery is told to forget in `out`, oldest first;
`d.forgetsPort`   a serial port that closes now is forgotten, and retried.

What `serialClose`, `connectToDevice` and the two reports of the discovery do to the link, and
which port they forget.
-/

namespace QMon.Device
open Rpc

def Out.forgotten? : Out → Option String
  | .forgetPort portName => some portName
  | _ => none

def forgotten (out : List Out) : List String := out.filterMap Out.forgotten?

theorem forgotten_put (d : Dev) (o : Out) :
    forgotten (d.put o).out = forgotten d.out ++ o.forgotten?.toList := d.filterMap_put _ o

def SameForgotten (d d' : Dev) : Prop := forgotten d'.out = forgotten d.out

theorem sameForgotten_framed : FramedLink (fun o => o.forgotten? = none) SameForgotten where
  refl _ := rfl
  trans h h' := h'.trans h
  same _ _ _ ho := congrArg forgotten ho
  put d o ho := by
    rw [SameForgotten, forgotten_put, ho]
    exact List.append_nil _
  quiet o ho := by cases o <;> first | rfl | exact absurd ho Bool.false_ne_true
  relink _ _ _ := rfl
  lost _ := rfl

/-- a close that the user did not ask for, of a port with a name -/
def Dev.forgetsPort (d : Dev) : Prop :=
  d.link.userDisconnecting = false ∧ d.link.serialPort ≠ ""

instance (d : Dev) : Decidable d.forgetsPort := inferInstanceAs (Decidable (_ ∧ _))

variable {d : Dev}

/-! ## Closing -/

/-- all that the loss of the serial port leaves behind is a retry -/
structure Retried (l l' : Link) : Prop where
  link : ∃ attempts timer port asked, l' = { l with
    serialReconnectAttempts := attempts, serialReconnectTimer := timer
    serialReconnectPort := port, userDisconnecting := asked }
  port : l'.serialReconnectPort = l.serialReconnectPort ∨ l'.serialReconnectPort = l.serialPort

theorem Retried.refl (l : Link) : Retried l l := ⟨⟨_, _, _, _, rfl⟩, .inl rfl⟩

theorem scheduleSerialReconnect_link (portName : String) (delayMs : Int) (d : Dev) :
    ∃ timer port, (d.scheduleSerialReconnect portName delayMs).link = { d.link with
      serialReconnectTimer := timer, serialReconnectPort := port } ∧
      (port = d.link.serialReconnectPort ∨ port = portName) := by
  unfold Dev.scheduleSerialReconnect
  split
  · exact ⟨_, _, rfl, .inl rfl⟩
  · split
    · exact ⟨_, _, rfl, .inr rfl⟩
    · exact ⟨d.link.serialReconnectTimer, _, rfl, .inr rfl⟩

theorem planReconnect_serial (ht : d.link.transport = .serial) :
    (∃ attempts timer port, (d.planReconnect d.link.serialPort).link = { d.link with
        serialReconnectAttempts := attempts, serialReconnectTimer := timer
        serialReconnectPort := port } ∧
      (port = d.link.serialReconnectPort ∨ port = d.link.serialPort)) ∧
      forgotten (d.planReconnect d.link.serialPort).out =
        forgotten d.out ++ if d.forgetsPort then [d.link.serialPort] else [] := by
  have hoff : ¬ d.onWifi = true := (not_onWifi_iff d).mpr ht
  unfold Dev.planReconnect
  rw [if_neg hoff]
  by_cases hplan : d.forgetsPort
  · rw [if_pos ⟨by rw [hplan.1]; exact Bool.false_ne_true, hplan.2⟩, if_pos hplan]
    let d1 := d.put (.forgetPort d.link.serialPort)
    let d2 : Dev := { d1 with link := { d1.link with serialReconnectAttempts := 0 } }
    obtain ⟨timer, port, hlink, hport⟩ :=
      scheduleSerialReconnect_link d.link.serialPort 1500 d2
    refine ⟨⟨0, timer, port, hlink, hport⟩, ?_⟩
    have same : SameForgotten d2 (d2.scheduleSerialReconnect d.link.serialPort 1500) :=
      sameForgotten_framed.handled.scheduleSerialReconnect _ _ d2
    exact same.trans (forgotten_put d _)
  · rw [if_neg (fun h => hplan ⟨(Bool.not_eq_true _).mp h.1, h.2⟩), if_neg hplan, List.append_nil]
    exact ⟨⟨_, _, _, rfl, .inl rfl⟩, rfl⟩

theorem onTransportConnected_false_serial (ht : d.link.transport = .serial) :
    Retried d.link (d.onTransportConnected false).link ∧
      forgotten (d.onTransportConnected false).out =
        forgotten d.out ++ if d.forgetsPort then [d.link.serialPort] else [] := by
  have hname : d.link.targetName = d.link.serialPort := by rw [Link.targetName, ht]
  have hlink := dropSession_link d
  have hforgets : d.dropSession.forgetsPort ↔ d.forgetsPort := by
    rw [Dev.forgetsPort, Dev.forgetsPort, hlink]
  obtain ⟨⟨attempts, timer, port, hplanned, hport⟩, hout⟩ :=
    planReconnect_serial (d := d.dropSession) (by rw [hlink]; exact ht)
  rw [onTransportConnected_false_eq, hname]
  rw [hlink] at hplanned hport hout
  refine ⟨⟨⟨attempts, timer, port, false, ?_⟩, ?_⟩, ?_⟩
  · rw [Dev.emit_link, hplanned]
  · rw [Dev.emit_link, hplanned]
    exact hport
  · have hdrop : forgotten d.dropSession.out = forgotten d.out :=
      sameForgotten_framed.handled.dropSession sameForgotten_framed.lost d
    rw [if_congr hforgets rfl rfl, hdrop] at hout
    exact (forgotten_put _ _).trans ((List.append_nil _).trans hout)

/-- closing the serial port while its transport is the current one -/
theorem serialClose_serial (ht : d.link.transport = .serial) :
    Retried { d.link with serialOpen := false } d.serialClose.link ∧
      forgotten d.serialClose.out = forgotten d.out ++
        if d.link.serialOpen = true ∧ d.forgetsPort then [d.link.serialPort] else [] := by
  unfold Dev.serialClose
  split
  next hopen =>
    let d1 : Dev := { d with link := { d.link with serialOpen := false } }
    have hoff : ¬ d1.onWifi = true := (not_onWifi_iff d1).mpr ht
    obtain ⟨hlink, hout⟩ := onTransportConnected_false_serial (d := d1) ht
    dsimp only
    rw [if_neg hoff]
    refine ⟨hlink, hout.trans (congrArg _ (if_congr ?_ rfl rfl))⟩
    exact (and_iff_right hopen).symm
  next hclosed =>
    rw [← (Bool.not_eq_true _).mp hclosed, if_neg (fun h => hclosed h.1), List.append_nil]
    exact ⟨Retried.refl _, rfl⟩

theorem serialClose_of_closed (hs : d.link.serialOpen = false) : d.serialClose = d := by
  unfold Dev.serialClose
  rw [if_neg (by rw [hs]; exact Bool.false_ne_true)]

/-! ## Opening -/

theorem onTransportConnected_true_serial (ht : d.link.transport = .serial) :
    (d.onTransportConnected true).link = { d.link with pendingSessionStart := false } := by
  rw [onTransportConnected_true_link, if_neg ((not_onWifi_iff d).mpr ht)]

/-- the link after `connectToDevice`, from a serial port that is closed -/
def Link.connected (l : Link) (portName : String) (opens : Bool) : Link :=
  if opens then
    { l with
      transport := .serial, serialPort := l.shortPortName portName, serialOpen := true
      preferredSerialPort := portName, pendingSessionStart := false
      serialReconnectTimer := none, serialReconnectPort := "", serialReconnectAttempts := 0 }
  else { l with transport := .serial, serialPort := l.shortPortName portName }

/-- a port opens, or an error is reported -/
theorem serialOpenPort_closed (portName : String) (hs : d.link.serialOpen = false) :
    (d.setTransport .serial).serialOpenPort portName =
      if d.env.serialOpens portName then
        (Dev.onTransportConnected true { d with link := { d.link with
          transport := .serial, serialPort := d.link.shortPortName portName
          serialOpen := true } }, true)
      else
        (Dev.emit { d with link := { d.link with
            transport := .serial, serialPort := d.link.shortPortName portName } }
          (.errorOccurred ("Failed to open " ++ portName ++ ": "
            ++ d.env.serialErrorString portName)), false) := by
  have hclose : (d.setTransport .serial).serialClose = d.setTransport .serial :=
    serialClose_of_closed hs
  unfold Dev.serialOpenPort
  rw [hclose]
  rfl

theorem connectToDevice_failed {portName : String} (hs : d.link.serialOpen = false)
    (hopens : d.env.serialOpens portName = false) : d.connectToDevice portName =
      (Dev.emit { d with link := { d.link with
          transport := .serial, serialPort := d.link.shortPortName portName } }
        (.errorOccurred ("Failed to open " ++ portName ++ ": "
          ++ d.env.serialErrorString portName)), false) := by
  unfold Dev.connectToDevice
  rw [serialOpenPort_closed portName hs, hopens]
  rfl

theorem connectToDevice_closed (portName : String) (hs : d.link.serialOpen = false) :
    (d.connectToDevice portName).1.link =
        d.link.connected portName (d.env.serialOpens portName) ∧
      (d.connectToDevice portName).2 = d.env.serialOpens portName ∧
      SameForgotten d (d.connectToDevice portName).1 := by
  cases hopens : d.env.serialOpens portName with
  | true =>
    let d2 : Dev := { d with link := { d.link with
      transport := .serial, serialPort := d.link.shortPortName portName, serialOpen := true } }
    let d3 := d2.onTransportConnected true
    let d4 : Dev := { d3 with link := { d3.link with preferredSerialPort := portName } }
    have hlink : d3.link = { d2.link with pendingSessionStart := false } :=
      onTransportConnected_true_serial rfl
    have started : SameForgotten d4 d4.clearSerialReconnect.startSession :=
      sameForgotten_framed.startSession d4.clearSerialReconnect
    have opened : SameForgotten d2 d3 := sameForgotten_framed.handled.onTransportConnected_true d2
    unfold Dev.connectToDevice
    rw [serialOpenPort_closed portName hs, hopens]
    refine ⟨?_, rfl, started.trans opened⟩
    show d4.clearSerialReconnect.startSession.link = _
    rw [startSession_link]
    show { d3.link with
      preferredSerialPort := portName, serialReconnectTimer := none, serialReconnectPort := ""
      serialReconnectAttempts := 0 } = _
    rw [hlink]
    rfl
  | false =>
    rw [connectToDevice_failed hs hopens]
    exact ⟨rfl, rfl, (forgotten_put _ _).trans (List.append_nil _)⟩

/-- a port that is open closes before the other one opens -/
theorem connectToDevice_eq (portName : String) (d : Dev) :
    d.connectToDevice portName = (d.setTransport .serial).serialClose.connectToDevice portName := by
  let d0 := (d.setTransport .serial).serialClose
  have hline := serialClose_line (d.setTransport .serial)
  have hset : d0.setTransport .serial = d0 := by
    have ht : d0.link.transport = .serial := hline.2
    unfold Dev.setTransport
    rw [← ht]
  have hclose : d0.serialClose = d0 := serialClose_of_closed hline.1
  have hopen : (d0.setTransport .serial).serialOpenPort portName =
      (d.setTransport .serial).serialOpenPort portName := by
    rw [hset]
    unfold Dev.serialOpenPort
    rw [hclose]
  unfold Dev.connectToDevice
  rw [hopen]

/-! ## Reports of the discovery -/

/-- the serial transport is the current one and has this port open -/
def Dev.OnPort (d : Dev) (portName : String) : Prop :=
  d.link.transport = .serial ∧ d.link.serialOpen = true ∧ d.link.serialPort = portName

theorem Dev.OnPort.isConnected {portName : String} (h : d.OnPort portName) :
    d.isConnected = true := by
  rw [Dev.isConnected, Link.isConnected, h.1]
  exact h.2.1

theorem step_deviceLost_off {portName : String} (h : ¬ d.OnPort portName) :
    step (.deviceLost portName) d = d.fresh := by
  refine if_neg fun hon => h ?_
  have ht : d.link.transport = .serial := (not_onWifi_iff d).mp hon.1
  have hup : d.isConnected = true := hon.2.1
  rw [Dev.isConnected, Link.isConnected, ht] at hup
  exact ⟨ht, hup, hon.2.2⟩

theorem step_deviceLost_on {portName : String} (h : d.OnPort portName) :
    Retried { d.link with serialOpen := false } (step (.deviceLost portName) d).link ∧
      forgotten (step (.deviceLost portName) d).out =
        if d.forgetsPort then [portName] else [] := by
  obtain ⟨ht, hopen, rfl⟩ := h
  have hoff : ¬ d.onWifi = true := (not_onWifi_iff d).mpr ht
  let d1 : Dev := { d.fresh with keep := { d.keep with pingTimer := none } }
  have hup : d.isConnected = true := Dev.OnPort.isConnected ⟨ht, hopen, rfl⟩
  have hstep : step (.deviceLost d.link.serialPort) d = d1.serialClose :=
    (if_pos ⟨hoff, hup, rfl⟩).trans (if_neg hoff)
  obtain ⟨hlink, hout⟩ := serialClose_serial (d := d1) ht
  rw [hstep]
  exact ⟨hlink, hout.trans (if_congr (and_iff_right hopen) rfl rfl)⟩

/-- the port is one to connect to -/
def Dev.Accepts (d : Dev) (portName : String) : Prop :=
  d.link.preferredSerialPort = "" ∨ portName = d.link.preferredSerialPort

instance (d : Dev) (portName : String) : Decidable (d.Accepts portName) :=
  inferInstanceAs (Decidable (_ ∨ _))

/-- no USB retry is pending -/
def Dev.NoRetry (d : Dev) : Prop :=
  d.link.serialReconnectTimer = none ∧ d.link.serialReconnectPort = ""

theorem step_deviceFound_ignored (portName : String)
    (h : d.link.autoConnect = false ∨ d.isConnected = true ∨ ¬ d.Accepts portName) :
    step (.deviceFound portName) d = d.fresh := by
  show d.fresh.onDeviceFound portName = d.fresh
  unfold Dev.onDeviceFound
  split
  · rfl
  · rename_i hup
    refine if_pos ?_
    rcases h with h | h | h
    · exact absurd (.inl (by rw [show d.fresh.link.autoConnect = _ from h]; decide)) hup
    · exact absurd (.inr h) hup
    · exact not_or.mp h

/-- a report that is heard: the port is kept for the pending retry, or taken at once -/
theorem step_deviceFound_heard (portName : String) (ha : d.link.autoConnect = true)
    (hup : d.isConnected = false) (haccepts : d.Accepts portName) :
    step (.deviceFound portName) d =
      if d.link.serialReconnectTimer ≠ none ∨ d.link.serialReconnectPort ≠ "" then
        { d.fresh with link := { d.link with serialReconnectPort := portName } }
      else if (d.fresh.connectToDevice portName).2 then (d.fresh.connectToDevice portName).1
      else Dev.scheduleSerialReconnect portName 750
        { (d.fresh.connectToDevice portName).1 with
          link := { (d.fresh.connectToDevice portName).1.link with serialReconnectAttempts := 0 } }
    := by
  have hon : ¬ (¬ d.fresh.link.autoConnect = true ∨ d.fresh.isConnected = true) := by
    rintro (h | h)
    · exact h ha
    · exact Bool.false_ne_true (hup.symm.trans h)
  have hother : ¬ (d.fresh.link.preferredSerialPort ≠ "" ∧
      portName ≠ d.fresh.link.preferredSerialPort) := fun h => haccepts.elim h.1 h.2
  exact (if_neg hon).trans (if_neg hother)

theorem step_deviceFound_kept (portName : String) (ha : d.link.autoConnect = true)
    (hup : d.isConnected = false) (haccepts : d.Accepts portName) (h : ¬ d.NoRetry) :
    step (.deviceFound portName) d =
      { d.fresh with link := { d.link with serialReconnectPort := portName } } := by
  rw [step_deviceFound_heard _ ha hup haccepts]
  exact if_pos (by
    rw [Dev.NoRetry, not_and_or] at h
    exact h)

/-- a port that is taken is the only one that may be open afterwards, and the port that was open
under another transport is closed -/
theorem step_deviceFound_taken {portName : String} (ha : d.link.autoConnect = true)
    (hup : d.isConnected = false) (haccepts : d.Accepts portName) (h : d.NoRetry) :
    (step (.deviceFound portName) d).link.transport = .serial ∧
      (step (.deviceFound portName) d).link.serialPort = d.link.shortPortName portName ∧
      (step (.deviceFound portName) d).link.shortPortName = d.link.shortPortName ∧
      forgotten (step (.deviceFound portName) d).out =
        if d.link.serialOpen = true ∧ d.forgetsPort then [d.link.serialPort] else [] := by
  let d0 := (d.fresh.setTransport .serial).serialClose
  have hclosed : d0.link.serialOpen = false := (serialClose_line _).1
  obtain ⟨hlink, -, hsame⟩ := connectToDevice_closed portName hclosed
  obtain ⟨⟨⟨_, _, _, _, hd0⟩, -⟩, hout⟩ :=
    serialClose_serial (d := d.fresh.setTransport .serial) rfl
  have hport : (d0.connectToDevice portName).1.link.transport = .serial ∧
      (d0.connectToDevice portName).1.link.serialPort = d.link.shortPortName portName ∧
      (d0.connectToDevice portName).1.link.shortPortName = d.link.shortPortName := by
    have hshort : d0.link.shortPortName = d.link.shortPortName := by
      rw [show d0.link = _ from hd0]
      rfl
    rw [hlink, Link.connected, ← hshort]
    cases d0.env.serialOpens portName <;> exact ⟨rfl, rfl, rfl⟩
  rw [step_deviceFound_heard _ ha hup haccepts, if_neg (by rw [h.1, h.2]; simp),
    connectToDevice_eq]
  split
  · exact ⟨hport.1, hport.2.1, hport.2.2, hsame.trans hout⟩
  · let d1 : Dev := { (d0.connectToDevice portName).1 with
      link := { (d0.connectToDevice portName).1.link with serialReconnectAttempts := 0 } }
    obtain ⟨timer, port, hsched, -⟩ := scheduleSerialReconnect_link portName 750 d1
    have same : SameForgotten d1 (d1.scheduleSerialReconnect portName 750) :=
      sameForgotten_framed.handled.scheduleSerialReconnect _ _ d1
    refine ⟨?_, ?_, ?_, (same.trans hsame).trans hout⟩
    · exact (congrArg Link.transport hsched).trans hport.1
    · exact (congrArg Link.serialPort hsched).trans hport.2.1
    · exact (congrArg Link.shortPortName hsched).trans hport.2.2

/-- what becomes of a report: ignored, kept for the pending retry, or taken -/
inductive FoundBranch (portName : String) (d : Dev) : Dev → Prop
  | ignored (h : d.link.autoConnect = false ∨ d.isConnected = true ∨ ¬ d.Accepts portName) :
      FoundBranch portName d d.fresh
  | kept (ha : d.link.autoConnect = true) (hup : d.isConnected = false)
      (haccepts : d.Accepts portName) (h : ¬ d.NoRetry) :
      FoundBranch portName d
        { d.fresh with link := { d.link with serialReconnectPort := portName } }
  | taken {d' : Dev} (ha : d.link.autoConnect = true) (hup : d.isConnected = false)
      (haccepts : d.Accepts portName) (h : d.NoRetry) (ht : d'.link.transport = .serial)
      (hport : d'.link.serialPort = d.link.shortPortName portName)
      (hnames : d'.link.shortPortName = d.link.shortPortName)
      (hout : forgotten d'.out =
        if d.link.serialOpen = true ∧ d.forgetsPort then [d.link.serialPort] else []) :
      FoundBranch portName d d'

theorem step_deviceFound_branch (portName : String) (d : Dev) :
    FoundBranch portName d (step (.deviceFound portName) d) := by
  by_cases hdeaf : d.link.autoConnect = false ∨ d.isConnected = true ∨ ¬ d.Accepts portName
  · rw [step_deviceFound_ignored portName hdeaf]
    exact .ignored hdeaf
  · simp only [not_or, Bool.not_eq_false, Bool.not_eq_true, not_not] at hdeaf
    obtain ⟨ha, hup, haccepts⟩ := hdeaf
    by_cases h : d.NoRetry
    · obtain ⟨ht, hport, hnames, hout⟩ := step_deviceFound_taken ha hup haccepts h
      exact .taken ha hup haccepts h ht hport hnames hout
    · rw [step_deviceFound_kept _ ha hup haccepts h]
      exact .kept ha hup haccepts h

end QMon.Device
