import QMonstatek.Device.Line
import QMonstatek.Lib.Digits
import QMonstatek.Transport.Mdns

/-!
# mDNS re-resolution

`Resolving`        the device object with the mDNS browser, and the last announcement since the
                   reconnect timer was started (`announced`);
`AttemptOpens m x` an attempt of the reconnect timer asks for the address that was announced;
`AttemptKnows m x` the announcement was adopted, or named the target the device object had.

`attemptOpens_iff`: the attempts of a run open what was announced iff they know it.  The slot of
`serviceFound` adopts nothing while the count of attempts is 0, and a connection sets it to 0.
-/

namespace QMon.Transport
open Device

/-! ## The text of a target -/

/-- the port of a target is read back -/
theorem toUShort_toString (port : UInt16) : toUShort (toString port.toNat) = some port := by
  have hdigit : ∀ c ∈ (toString port.toNat).toList, c.isDigit = true :=
    fun c hc => Digits.isDigit_of_mem hc
  have htrim : trimmed (toString port.toNat) = toString port.toNat := by
    unfold trimmed
    rw [Updater.trimmed_digits hdigit, String.ofList_toList]
  have hsign : (toString port.toNat).toList.head? ≠ some '+' := Digits.head?_ne _ (by decide)
  have hvalue : (toString port.toNat).toList.foldl (fun n c => 10 * n + (c.toNat - 48)) 0 =
      port.toNat := Digits.ofDigitChars_toString _
  unfold toUShort
  rw [htrim]
  dsimp only
  rw [if_neg hsign, hvalue,
    if_pos ⟨Digits.ne_nil _, List.all_eq_true.mpr hdigit, port.toNat_lt⟩, UInt16.ofNat_toNat]

theorem parseTarget_toString {address : String} (h : address ≠ "") {port : UInt16} (hp : port ≠ 0) :
    parseTarget (address ++ ":" ++ toString port.toNat) = .ok (address, port) := by
  have hdigit : ∀ c ∈ (toString port.toNat).toList.reverse, (c != ':') = true := by
    intro c hc
    have hd := Digits.isDigit_of_mem (List.mem_reverse.mp hc)
    refine bne_iff_ne.mpr ?_
    rintro rfl
    exact absurd hd (by decide)
  have hrev : (address ++ ":" ++ toString port.toNat).toList.reverse =
      (toString port.toNat).toList.reverse ++ ':' :: address.toList.reverse := by
    simp
  obtain ⟨c, host, hhost⟩ : ∃ c host, address.toList.reverse = c :: host := by
    cases hl : address.toList.reverse with
    | nil => exact absurd (by simpa using hl) h
    | cons c host => exact ⟨c, host, rfl⟩
  unfold parseTarget
  rw [hrev, List.dropWhile_append_of_pos hdigit, List.dropWhile_cons_of_neg (by decide), hhost,
    List.takeWhile_append_of_pos hdigit, List.takeWhile_cons_of_neg (by decide), List.append_nil,
    List.reverse_reverse, String.ofList_toList]
  dsimp only
  rw [toUShort_toString]
  dsimp only
  rw [if_neg hp, ← hhost, List.reverse_reverse, String.ofList_toList]

/-! ## The system -/

structure Announced where
  address : String
  port : UInt16
  /-- the device object took it for its target -/
  adopted : Bool
  /-- the target it had before -/
  target : String

structure Resolving where
  dev : Dev := step (.setMdnsDiscovery true) init
  mdns : MdnsDiscovery := {}
  announced : Option Announced := none

inductive Move where
  | device (e : Event)
  /-- the button of the device selector -/
  | startScan
  /-- the ten seconds are over -/
  | stopScan
  | queryTimer
  /-- the port of mDNS becomes free or taken -/
  | network (binds : Bool)
  /-- a response of the M1 service with these records -/
  | answer (instanceName srvHost : String) (ip : UInt32) (port : UInt16)

/-- the slot of `serviceFound` adopts what it hears -/
def adopts (d : Dev) : Bool :=
  d.link.mdns && !d.isConnected && d.link.wifiWasConnected && d.link.wifiReconnectAttempts != 0

def MdnsOut.found? : MdnsOut → Option (String × UInt16)
  | .serviceFound _ address port => some (address, port)
  | _ => none

namespace Resolving

/-- the user chooses the target of the next attempt -/
def ChoosesTarget : Event → Bool
  | .call (.connectToDeviceWifi _) => true
  | _ => false

def device (e : Event) (x : Resolving) : Resolving :=
  let dev := step e x.dev
  { dev := dev
    mdns := (dev.out.filter (· = .startScan)).foldl (fun m _ => m.startScan) x.mdns
    announced :=
      if dev.link.wifiReconnectTimer = none ∨ ChoosesTarget e then none else x.announced }

/-- `serviceFound` reaches the device object at once -/
def hear (address : String) (port : UInt16) (x : Resolving) : Resolving :=
  { x with
    dev := step (.serviceFound address port.toNat) x.dev
    announced :=
      if x.dev.link.wifiReconnectTimer = none then none
      else some
        { address := address, port := port, adopted := adopts x.dev
          target := x.dev.link.wifiTarget } }

/-- the socket is open while the browser scans -/
def answer (instanceName srvHost : String) (ip : UInt32) (port : UInt16) (x : Resolving) :
    Resolving :=
  if ¬ x.mdns.scanning then x
  else
    let mdns := MdnsDiscovery.parsed instanceName srvHost ip port { x.mdns with out := [] }
    match mdns.out.findSome? MdnsOut.found? with
    | some (address, port) => hear address port { x with mdns := mdns }
    | none => { x with mdns := mdns }

def move (m : Move) (x : Resolving) : Resolving :=
  match m with
  | .device e => x.device e
  | .startScan => { x with mdns := x.mdns.startScan }
  | .stopScan => { x with mdns := x.mdns.stopScan }
  | .queryTimer => if x.mdns.queryTimer = none then x else { x with mdns := x.mdns.sendQuery }
  | .network binds => { x with mdns := { x.mdns with binds := binds } }
  | .answer instanceName srvHost ip port => x.answer instanceName srvHost ip port

end Resolving

/-- the move is an attempt of the reconnect timer, after this announcement -/
def Attempts (m : Move) (x : Resolving) (a : Announced) : Prop :=
  match m with
  | .device (.expire .wifiReconnect) =>
    x.dev.link.wifiReconnectTimer ≠ none ∧ x.dev.isConnected = false ∧ x.announced = some a
  | _ => False

def AttemptOpens (m : Move) (x : Resolving) : Prop :=
  ∀ a, Attempts m x a →
    .requestConnect a.address a.port ∈ (step (.expire .wifiReconnect) x.dev).out

def AttemptKnows (m : Move) (x : Resolving) : Prop :=
  ∀ a, Attempts m x a → a.adopted = true ∨ parseTarget a.target = .ok (a.address, a.port)

/-- the browser is the only one that announces services -/
def FromBrowser (m : Move) : Prop := ∀ address port, m ≠ .device (.serviceFound address port)

/-! ## The target -/

def SameTarget (d d' : Dev) : Prop := d'.link.wifiTarget = d.link.wifiTarget

theorem sameTarget_framed : FramedTcp (fun _ => True) SameTarget where
  refl _ := rfl
  trans h h' := h'.trans h
  same hl _ _ _ := congrArg Link.wifiTarget hl
  put _ _ _ := rfl
  quiet _ _ := trivial
  relink _ _ hl := hl
  lost _ := rfl
  ports _ _ := trivial
  asks _ _ := trivial

theorem step_sameTarget {e : Event} (d : Dev) (h : ¬ e.Retargets) :
    (step e d).link.wifiTarget = d.link.wifiTarget :=
  sameTarget_framed.step_all (fun _ _ => rfl) (fun _ _ => rfl) e d (fun _ _ => rfl)
    fun hr => absurd hr h

theorem step_serviceFound (address : String) (port : UInt16) (d : Dev) :
    (step (.serviceFound address port.toNat) d).link = if adopts d then
      { d.link with wifiTarget := address ++ ":" ++ toString port.toNat } else d.link := by
  have hstep : step (.serviceFound address port.toNat) d =
      if d.link.mdns then d.fresh.onServiceFound address port.toNat else d.fresh := rfl
  have hguard : adopts d = true ↔ d.link.mdns = true ∧ ¬ (d.fresh.isConnected = true ∨
      ¬ d.fresh.link.wifiWasConnected = true ∨ d.fresh.link.wifiReconnectAttempts = 0) := by
    have hup : d.fresh.isConnected = d.isConnected := rfl
    rw [hup]
    simp [adopts, Dev.fresh, and_assoc]
  rw [hstep]
  unfold Dev.onServiceFound
  by_cases hm : d.link.mdns = true
  · rw [if_pos hm]
    split
    next hdeaf =>
      rw [if_neg fun ha => (hguard.mp ha).2 hdeaf]
      rfl
    next hhears =>
      rw [if_pos (hguard.mpr ⟨hm, hhears⟩)]
      rfl
  · rw [if_neg hm, if_neg fun ha => hm (hguard.mp ha).1]
    rfl

theorem connectToDeviceWifi_asks (hostPort address : String) (port : UInt16) (d : Dev) :
    .requestConnect address port ∈ (d.connectToDeviceWifi hostPort).out ↔
      .requestConnect address port ∈ d.out ∨ parseTarget hostPort = .ok (address, port) := by
  unfold Dev.connectToDeviceWifi Dev.wifiOpen
  dsimp only
  cases hp : parseTarget hostPort with
  | error msg =>
    dsimp only
    rw [if_neg Bool.false_ne_true]
    show _ ∈ d.out ++ [_] ↔ _
    simp
  | ok target =>
    obtain ⟨host, port'⟩ := target
    dsimp only
    rw [if_pos rfl]
    show _ ∈ d.out ++ [_] ↔ _
    simp [eq_comm]

/-- an attempt asks for the target, if that is one -/
theorem step_attempt {d : Dev} (harmed : d.link.wifiReconnectTimer ≠ none)
    (hdown : d.isConnected = false) (address : String) (port : UInt16) :
    .requestConnect address port ∈ (step (.expire .wifiReconnect) d).out ↔
      parseTarget d.link.wifiTarget = .ok (address, port) := by
  let d1 : Dev := { d.fresh with link := { d.link with
    wifiReconnectTimer := none, wifiReconnectAttempts := d.link.wifiReconnectAttempts + 1 } }
  have hattempt : ¬ d.isConnected = true := by
    rw [hdown]
    exact Bool.false_ne_true
  have hstep : step (.expire .wifiReconnect) d = d1.connectToDeviceWifi d.link.wifiTarget :=
    (if_neg harmed).trans (if_neg hattempt)
  rw [hstep, connectToDeviceWifi_asks]
  exact or_iff_right List.not_mem_nil

/-! ## Runs -/

/-- what the last announcement has to do with the target -/
structure Announced.Shows (a : Announced) (target : String) : Prop where
  target : target = if a.adopted then a.address ++ ":" ++ toString a.port.toNat else a.target
  address : a.address ≠ ""
  port : a.port ≠ 0

def Resolving.Shows (x : Resolving) : Prop :=
  ∀ a, x.announced = some a → a.Shows x.dev.link.wifiTarget

theorem connectToDeviceWifi_timer (hostPort : String) (d : Dev) :
    (d.connectToDeviceWifi hostPort).link.wifiReconnectTimer = d.link.wifiReconnectTimer := by
  unfold Dev.connectToDeviceWifi Dev.wifiOpen
  dsimp only
  cases parseTarget hostPort <;> rfl

theorem step_expire_timer (d : Dev) :
    (step (.expire .wifiReconnect) d).link.wifiReconnectTimer = none := by
  by_cases harmed : d.link.wifiReconnectTimer = none
  · have hstep : step (.expire .wifiReconnect) d = d.fresh := if_pos harmed
    rw [hstep]
    exact harmed
  · let d1 : Dev := { d.fresh with link := { d.link with wifiReconnectTimer := none } }
    have hstep : step (.expire .wifiReconnect) d = d1.tryWifiReconnect := if_neg harmed
    rw [hstep]
    unfold Dev.tryWifiReconnect
    split
    · rfl
    · exact connectToDeviceWifi_timer _ _

theorem shows_device {e : Event} {x : Resolving} (h : x.Shows)
    (he : ∀ address port, e ≠ .serviceFound address port) : (x.device e).Shows := by
  intro a ha
  have hkept : (step e x.dev).link.wifiReconnectTimer ≠ none ∧
      ¬ Resolving.ChoosesTarget e = true ∧ x.announced = some a := by
    have ha' : (if (step e x.dev).link.wifiReconnectTimer = none ∨
        Resolving.ChoosesTarget e = true then none else x.announced) = some a := ha
    split at ha'
    · cases ha'
    next hkept => exact ⟨fun h => hkept (.inl h), fun h => hkept (.inr h), ha'⟩
  obtain ⟨hrunning, hchoice, hbefore⟩ := hkept
  have hsame : (step e x.dev).link.wifiTarget = x.dev.link.wifiTarget := by
    refine step_sameTarget x.dev fun hr => ?_
    unfold Event.Retargets at hr
    split at hr
    · exact hchoice rfl
    next t =>
      subst hr
      exact hrunning (step_expire_timer x.dev)
    next address port => exact he address port rfl
    · exact hr
  show a.Shows (step e x.dev).link.wifiTarget
  rw [hsame]
  exact h a hbefore

theorem dotted_ne_empty (ip : UInt32) : dotted ip ≠ "" := by
  simp [dotted]

theorem parsed_found {instanceName srvHost address : String} {ip : UInt32} {port port' : UInt16}
    {m : MdnsDiscovery} (hm : m.out = [])
    (h : (m.parsed instanceName srvHost ip port).out.findSome? MdnsOut.found? =
      some (address, port')) : address = dotted ip ∧ port' ≠ 0 := by
  unfold MdnsDiscovery.parsed at h
  split at h
  · rw [hm] at h
    cases h
  next hnew =>
    rw [not_or] at hnew
    dsimp only [MdnsDiscovery.put] at h
    rw [hm] at h
    cases h
    exact ⟨rfl, hnew.1⟩

theorem shows_hear {address : String} {port : UInt16} {x : Resolving} (h : address ≠ "")
    (hp : port ≠ 0) : (x.hear address port).Shows := by
  intro a ha
  have hnew : (if x.dev.link.wifiReconnectTimer = none then none else some (Announced.mk
      address port (adopts x.dev) x.dev.link.wifiTarget)) = some a := ha
  split at hnew
  · cases hnew
  · cases hnew
    refine ⟨?_, h, hp⟩
    show (step (.serviceFound address port.toNat) x.dev).link.wifiTarget = _
    rw [step_serviceFound]
    dsimp only
    split <;> rfl

theorem shows_move {m : Move} {x : Resolving} (h : x.Shows) (hm : FromBrowser m) :
    (Resolving.move m x).Shows := by
  cases m with
  | device e => exact shows_device h fun address port he => hm address port (congrArg _ he)
  | startScan => exact h
  | stopScan => exact h
  | queryTimer =>
    unfold Resolving.move
    dsimp only
    split <;> exact h
  | network binds => exact h
  | answer instanceName srvHost ip port =>
    show (x.answer instanceName srvHost ip port).Shows
    unfold Resolving.answer
    split
    · exact h
    · dsimp only
      split
      next address port' hfound =>
        obtain ⟨rfl, hp⟩ := parsed_found rfl hfound
        exact shows_hear (dotted_ne_empty ip) hp
      · exact h

/-- an attempt opens what was announced iff it knows it -/
theorem attempt_iff {m : Move} {x : Resolving} (h : x.Shows) :
    AttemptOpens m x ↔ AttemptKnows m x := by
  refine forall_congr' fun a => ?_
  refine imp_congr_right fun hattempt => ?_
  unfold Attempts at hattempt
  split at hattempt
  · obtain ⟨harmed, hdown, ha⟩ := hattempt
    obtain ⟨htarget, haddress, hport⟩ := h a ha
    rw [step_attempt harmed hdown, htarget]
    cases a.adopted with
    | true =>
      rw [if_pos rfl]
      exact iff_of_true (parseTarget_toString haddress hport) (.inl rfl)
    | false =>
      rw [if_neg Bool.false_ne_true]
      exact (or_iff_right Bool.false_ne_true).symm
  · exact hattempt.elim

/-- **The attempts of a run open the address that was announced** iff they know it. -/
theorem attemptOpens_iff (ms : List Move) (hms : ∀ m ∈ ms, FromBrowser m) :
    Run.Along Resolving.move AttemptOpens ms {} ↔ Run.Along Resolving.move AttemptKnows ms {} :=
  Run.along_iff_of_along Resolving.move (I := Resolving.Shows)
    (fun _ _ h hm => shows_move h hm) (fun _ _ h _ => attempt_iff h) ms {}
    (fun _ ha => by cases ha) (Run.along_of_forall Resolving.move ms {} fun m hm _ => hms m hm)

/-- a session over WiFi, its loss, and an answer of the M1 before the first attempt -/
def lossAndAnswer (ip : UInt32) : List Move :=
  [.device (.call (.connectToDeviceWifi "192.168.1.50:3333")), .device .workerConnected,
    .device .workerDisconnected, .answer "m1" "m1.local" ip 3333, .device (.expire .wifiReconnect)]

theorem attemptOpens_sameAddress :
    Run.Along Resolving.move AttemptOpens (lossAndAnswer 0xC0A80132) {} := by
  refine (attemptOpens_iff (lossAndAnswer 0xC0A80132) ?_).mpr
    ⟨fun _ h => h.elim, fun _ h => h.elim, fun _ h => h.elim, fun _ h => h.elim, ?_, trivial⟩
  · simp [lossAndAnswer, FromBrowser]
  · rintro a ⟨-, -, ha⟩
    have hsame : (Run.exec Resolving.move ((lossAndAnswer 0xC0A80132).take 4) {}).announced =
        some ⟨"192.168.1.50", 3333, false, "192.168.1.50:3333"⟩ := by rfl
    cases hsame.symm.trans ha
    exact .inr (by rfl)

/-- the M1 comes back under another address, and the first attempt goes to the old one -/
theorem attempt_oldAddress :
    let x := Run.exec Resolving.move ((lossAndAnswer 0xC0A8014D).take 4) {}
    x.mdns.out.findSome? MdnsOut.found? = some ("192.168.1.77", 3333) ∧
    requests (step (.expire .wifiReconnect) x.dev).out = [.connectToHost "192.168.1.50" 3333] ∧
    ¬ Run.Along Resolving.move AttemptOpens (lossAndAnswer 0xC0A8014D) {} := by
  refine ⟨by decide +kernel, by decide +kernel, fun h => ?_⟩
  have hopens := h.2.2.2.2.1 ⟨"192.168.1.77", 3333, false, "192.168.1.50:3333"⟩
    ⟨by decide +kernel, by decide +kernel, by rfl⟩
  exact absurd hopens (by decide +kernel)

end QMon.Transport
