import Mathlib.Data.List.DropRight
import QMonstatek.Transport.PortScan

/-!
# The requested port

The application constructs the device object, whose first scan connects on its own, and then hands
it the port of `--port`.

`started env names attached value`  the device object after that, with `names` for the short form
                                    of a port's name;
`Chooses c`                         the call is a connection the user makes;
`OnlyOn portName d`                 the serial transport is open on no other port;
`Claimed names portName l`          the same, and no retry is for another port either.

A port is known by several names, `/dev/ttyACM0` and `ttyACM0`: ports are compared by the short one,
while the filter of the discovery compares the names as they are.

`onlyOn_iff`: the requested port is the only one iff the first scan does not open another one.
-/

namespace QMon.Transport
open Device

/-- the device object as constructed -/
def constructed (env : Env) (names : String → String) : Dev :=
  { init with env := env, link := { shortPortName := names } }

def started (env : Env) (names : String → String) (attached : List SerialPortInfo)
    (value : String) : Dev :=
  let requestedPort := trimmed value
  step (.call (.setPreferredSerialPort requestedPort))
    (Discovering.scan attached { dev := constructed env names }).dev

def Chooses : Call → Prop
  | .connectToDevice _ | .connectToDeviceWifi _ | .setPreferredSerialPort _ => True
  | _ => False

def OnlyOn (portName : String) (d : Dev) : Prop :=
  d.link.serialOpen = true → d.link.serialPort = d.link.shortPortName portName

/-- `portName` is short -/
structure Claimed (names : String → String) (portName : String) (l : Link) : Prop where
  transport : l.transport = .serial
  timer : l.wifiReconnectTimer = none
  naming : l.shortPortName = names
  named : l.preferredSerialPort ≠ ""
  preferred : names l.preferredSerialPort = portName
  retry : l.serialReconnectPort = "" ∨ names l.serialReconnectPort = portName
  port : l.serialOpen = true → l.serialPort = portName

theorem dropWhile_rdropWhile {α : Type} (p : α → Bool) (l : List α)
    (h : l.dropWhile p = l) : (l.rdropWhile p).dropWhile p = l.rdropWhile p := by
  have hprefix := List.rdropWhile_prefix p (l := l)
  cases hr : l.rdropWhile p with
  | nil => rfl
  | cons a r =>
    rw [hr] at hprefix
    obtain ⟨t, ht⟩ := hprefix
    rw [← ht, List.cons_append] at h
    by_cases ha : p a = true
    · rw [List.dropWhile_cons_of_pos ha] at h
      have hlen := congrArg List.length h
      have hle := (List.dropWhile_sublist p (l := r ++ t)).length_le
      rw [List.length_cons] at hlen
      omega
    · exact List.dropWhile_cons_of_neg ha

theorem trimmed_trimmed (s : String) : trimmed (trimmed s) = trimmed s := by
  let l := s.toList.dropWhile Updater.isSpace
  have hl : l.dropWhile Updater.isSpace = l := List.dropWhile_idempotent _ _
  have trimmed_eq (s : String) : trimmed s = String.ofList
      ((s.toList.dropWhile Updater.isSpace).rdropWhile Updater.isSpace) := rfl
  rw [trimmed_eq (trimmed s), trimmed_eq s, String.toList_ofList, dropWhile_rdropWhile _ l hl,
    List.rdropWhile_idempotent]

/-! ## The first scan -/

section
variable {d : Dev} {names : String → String} {portName x y : String}

/-- as constructed, with the name of a port that could not be opened -/
def untried (names : String → String) (portName : String) : Link :=
  { shortPortName := names, serialPort := portName }

def waiting (names : String → String) (portName retryPort : String) : Link :=
  { untried names portName with serialReconnectPort := retryPort, serialReconnectTimer := some 750 }

def opened (names : String → String) (portName : String) : Link :=
  { untried names (names portName) with serialOpen := true, preferredSerialPort := portName }

theorem found_waiting (portName : String) (h : d.link = waiting names x y) :
    ∃ y', (step (.deviceFound portName) d).link = waiting names x y' := by
  have hkept := step_deviceFound_kept (d := d) portName (by rw [h]; rfl)
    (by rw [Dev.isConnected, h]; rfl) (.inl (by rw [h]; rfl))
    (fun hn => absurd hn.1 (by rw [h]; exact Option.some_ne_none _))
  refine ⟨portName, ?_⟩
  rw [hkept, h]
  rfl

theorem found_opened (h : d.link = opened names x) :
    (step (.deviceFound portName) d).link = opened names x := by
  rw [step_deviceFound_ignored _ (.inr (.inl (by rw [Dev.isConnected, h]; rfl)))]
  exact h

theorem schedule_untried (retryPort : String) (h : d.link = untried names x) :
    (d.scheduleSerialReconnect retryPort 750).link =
        (if retryPort = "" then untried names x else waiting names x retryPort) ∧
      (d.scheduleSerialReconnect retryPort 750).env = d.env := by
  have hauto : d.link.autoConnect = true := by rw [h]; rfl
  have hup : d.isConnected = false := by rw [Dev.isConnected, h]; rfl
  have htimer : d.link.serialReconnectTimer = none := by rw [h]; rfl
  unfold Dev.scheduleSerialReconnect
  by_cases hname : retryPort = ""
  · rw [if_pos (.inr (.inr hname)), if_pos hname]
    exact ⟨h, rfl⟩
  · rw [if_neg (by simp [hauto, hup, hname]), if_pos htimer, if_neg hname, h]
    exact ⟨rfl, rfl⟩

/-- the port is opened, or its retry is planned; only a port without a name leaves no trace -/
theorem found_untried (portName : String) (h : d.link = untried names x) :
    (step (.deviceFound portName) d).link =
        (if d.env.serialOpens portName then opened names portName
        else if portName = "" then untried names (names portName)
        else waiting names (names portName) portName) ∧
      (d.env.serialOpens portName = false → (step (.deviceFound portName) d).env = d.env) := by
  have hclosed : d.fresh.link.serialOpen = false := by
    rw [show d.fresh.link = d.link from rfl, h]
    rfl
  have heard := step_deviceFound_heard (d := d) portName (by rw [h]; rfl)
    (by rw [Dev.isConnected, h]; rfl) (.inl (by rw [h]; rfl))
  rw [if_neg (by rw [h, untried]; simp)] at heard
  obtain ⟨hlink, hok, -⟩ := connectToDevice_closed portName hclosed
  rw [heard, hok, show d.fresh.env = d.env from rfl]
  cases hopens : d.env.serialOpens portName with
  | true =>
    refine ⟨?_, Bool.noConfusion⟩
    rw [if_pos rfl, if_pos rfl, hlink, show d.fresh.env = d.env from rfl, hopens,
      show d.fresh.link = d.link from rfl, h]
    rfl
  | false =>
    rw [if_neg Bool.false_ne_true, if_neg Bool.false_ne_true,
      connectToDevice_failed hclosed hopens]
    have failed (d1 : Dev) (hd1 : d1.link = untried names (names portName))
        (henv : d1.env = d.env) : (d1.scheduleSerialReconnect portName 750).link =
            (if portName = "" then untried names (names portName)
            else waiting names (names portName) portName) ∧
          (false = false → (d1.scheduleSerialReconnect portName 750).env = d.env) := by
      obtain ⟨hsched, hsame⟩ := schedule_untried portName hd1
      exact ⟨hsched, fun _ => hsame.trans henv⟩
    refine failed _ ?_ rfl
    show { d.link with
      transport := .serial, serialPort := d.link.shortPortName portName
      serialReconnectAttempts := 0 } = _
    rw [h]
    rfl

/-- the first port that `connectToDevice` opens, or that is retried -/
def firstTried (opens : String → Bool) (ports : List String) : Option String :=
  ports.find? fun p => p ≠ "" ∨ opens p

def foundAll (ports : List String) (d : Dev) : Dev :=
  ports.foldl (fun d p => step (.deviceFound p) d) d

theorem foundAll_waiting (ports : List String) (h : d.link = waiting names x y) :
    ∃ y', (foundAll ports d).link = waiting names x y' := by
  induction ports generalizing d y with
  | nil => exact ⟨y, h⟩
  | cons p ports ih =>
    obtain ⟨y', h'⟩ := found_waiting p h
    exact ih h'

theorem foundAll_opened (ports : List String) (h : d.link = opened names x) :
    (foundAll ports d).link = opened names x := by
  induction ports generalizing d with
  | nil => exact h
  | cons p ports ih => exact ih (found_opened h)

theorem foundAll_untried (ports : List String) (h : d.link = untried names x) :
    match firstTried d.env.serialOpens ports with
    | none => ∃ x', (foundAll ports d).link = untried names x'
    | some p =>
      if d.env.serialOpens p then (foundAll ports d).link = opened names p
      else ∃ x' y', (foundAll ports d).link = waiting names x' y' := by
  induction ports generalizing d x with
  | nil => exact ⟨x, h⟩
  | cons p ports ih =>
    obtain ⟨hlink, henv⟩ := found_untried p h
    by_cases htried : p ≠ "" ∨ d.env.serialOpens p = true
    · have hfirst : firstTried d.env.serialOpens (p :: ports) = some p :=
        List.find?_cons_of_pos (by simpa using htried)
      rw [hfirst]
      dsimp only
      split at hlink
      next hopens =>
        rw [if_pos hopens]
        exact foundAll_opened ports hlink
      next hfails =>
        rw [if_neg (htried.resolve_right hfails)] at hlink
        rw [if_neg hfails]
        exact ⟨names p, foundAll_waiting ports hlink⟩
    · have hfirst : firstTried d.env.serialOpens (p :: ports) =
          firstTried d.env.serialOpens ports :=
        List.find?_cons_of_neg (by simpa using htried)
      rw [not_or, not_not] at htried
      rw [if_neg htried.2, if_pos htried.1] at hlink
      rw [hfirst, ← henv ((Bool.not_eq_true _).mp htried.2)]
      exact ih hlink

/-- a scan that knows no port yet reports every port it finds, and loses none -/
theorem scan_first (attached : List SerialPortInfo) (d : Dev) :
    (Discovering.scan attached { dev := d }).dev = foundAll (currentPorts attached) d := by
  have found (l : List String) (s : Discovering) (hs : s.ports = []) :
      (Discovering.detectNew l s).ports = [] ∧
        (Discovering.detectNew l s).dev = foundAll l s.dev := by
    induction l generalizing s with
    | nil => exact ⟨hs, rfl⟩
    | cons p l ih =>
      have hports : (s.emitFound p).ports = [] := by
        refine List.eq_nil_iff_forall_not_mem.mpr fun x hx => ?_
        have hmem := Discovering.hear_subset _ _ hx
        rw [show (s.report _).ports = s.ports from rfl, hs] at hmem
        exact List.not_mem_nil hmem
      rw [Discovering.detectNew, List.foldl_cons, if_pos (by rw [hs]; exact List.not_mem_nil)]
      exact ih (s.emitFound p) hports
  obtain ⟨hports, hdev⟩ := found (currentPorts attached) { dev := d } rfl
  have hlost : (Discovering.detectLost (currentPorts attached)
      (Discovering.detectNew (currentPorts attached) { dev := d })).dev =
      (Discovering.detectNew (currentPorts attached) { dev := d }).dev := by
    unfold Discovering.detectLost LiveLoop.forEach
    rw [hports]
    rfl
  unfold Discovering.scan Discovering.update
  dsimp only
  split <;> exact hlost.trans hdev

end

/-! ## The port is handed over -/

section
variable {d : Dev} {portName : String}

/-- with no port open the requested one is retried, whatever the scan had planned -/
theorem setPreferred_down (hup : d.isConnected = false) (hname : trimmed portName ≠ "") :
    (step (.call (.setPreferredSerialPort portName)) d).link = { d.link with
      preferredSerialPort := trimmed portName, serialReconnectAttempts := 0
      serialReconnectPort := trimmed portName } := by
  have hcall : step (.call (.setPreferredSerialPort portName)) d = Dev.startShot
      { d.fresh with link := { d.link with
        preferredSerialPort := trimmed portName, serialReconnectAttempts := 0
        serialReconnectPort := trimmed portName } } .trySerialReconnect := by
    refine if_neg fun h => h.elim hname fun h => ?_
    exact Bool.false_ne_true (hup.symm.trans h)
  rw [hcall]
  rfl

theorem setPreferred_up (hup : d.isConnected = true) :
    (step (.call (.setPreferredSerialPort portName)) d).link =
      { d.link with preferredSerialPort := trimmed portName } := by
  have hcall : step (.call (.setPreferredSerialPort portName)) d =
      { d.fresh with link := { d.link with preferredSerialPort := trimmed portName } } :=
    if_pos (.inr hup)
  rw [hcall]

end

/-- no port is open when the requested one is handed over -/
theorem setPreferred_claimed {d : Dev} {value : String} (hv : trimmed value ≠ "")
    (ht : d.link.transport = .serial) (htimer : d.link.wifiReconnectTimer = none)
    (hs : d.link.serialOpen = false) :
    (step (.call (.setPreferredSerialPort value)) d).link.serialOpen = false ∧
      Claimed d.link.shortPortName (d.link.shortPortName (trimmed value))
        (step (.call (.setPreferredSerialPort value)) d).link := by
  have hup : d.isConnected = false := by
    rw [Dev.isConnected, Link.isConnected, ht]
    exact hs
  rw [setPreferred_down hup hv]
  exact ⟨hs, ht, htimer, rfl, hv, rfl, .inr rfl, fun h => Bool.noConfusion (hs.symm.trans h)⟩

/-- the first scan opened this port, and it stays open -/
theorem setPreferred_opened {d : Dev} {names : String → String} {p : String} (value : String)
    (h : d.link = opened names p) : (step (.call (.setPreferredSerialPort value)) d).link =
      { opened names p with preferredSerialPort := trimmed value } := by
  rw [setPreferred_up (by rw [Dev.isConnected, h]; rfl), h]

/-- the port that the first scan connects to is the requested one -/
def FirstScanKeeps (env : Env) (names : String → String) (attached : List SerialPortInfo)
    (portName : String) : Prop :=
  ∀ p, firstTried env.serialOpens (currentPorts attached) = some p → env.serialOpens p = true →
    names p = names portName

theorem started_onlyOn_iff (env : Env) (names : String → String) (attached : List SerialPortInfo)
    (value : String) (hv : trimmed value ≠ "") :
    (OnlyOn (trimmed value) (started env names attached value) ↔
      FirstScanKeeps env names attached (trimmed value)) ∧
    (OnlyOn (trimmed value) (started env names attached value) →
      Claimed names (names (trimmed value)) (started env names attached value).link) := by
  have hstart : (constructed env names).link = untried names "" := rfl
  have hd := foundAll_untried (currentPorts attached) hstart
  have hv' : trimmed (trimmed value) ≠ "" := by rwa [trimmed_trimmed]
  have down {d : Dev} (hnone : FirstScanKeeps env names attached (trimmed value))
      (hn : d.link.shortPortName = names) (ht : d.link.transport = .serial)
      (htimer : d.link.wifiReconnectTimer = none) (hs : d.link.serialOpen = false) :
      (OnlyOn (trimmed value) (step (.call (.setPreferredSerialPort (trimmed value))) d) ↔
        FirstScanKeeps env names attached (trimmed value)) ∧
      (OnlyOn (trimmed value) (step (.call (.setPreferredSerialPort (trimmed value))) d) →
        Claimed names (names (trimmed value))
          (step (.call (.setPreferredSerialPort (trimmed value))) d).link) := by
    obtain ⟨hclosed, hclaimed⟩ := setPreferred_claimed hv' ht htimer hs
    rw [trimmed_trimmed, hn] at hclaimed
    refine ⟨iff_of_true (fun h => ?_) hnone, fun _ => hclaimed⟩
    exact Bool.noConfusion (hclosed.symm.trans h)
  unfold started
  dsimp only
  rw [scan_first]
  generalize foundAll (currentPorts attached) (constructed env names) = d at hd
  rw [show (constructed env names).env = env from rfl] at hd
  unfold FirstScanKeeps at down ⊢
  cases hfirst : firstTried env.serialOpens (currentPorts attached) with
  | none =>
    rw [hfirst] at hd down
    obtain ⟨x, hlink⟩ := hd
    exact down (fun p hp => by cases hp) (by rw [hlink]; rfl) (by rw [hlink]; rfl)
      (by rw [hlink]; rfl) (by rw [hlink]; rfl)
  | some p =>
    rw [hfirst] at hd down
    dsimp only at hd
    split at hd
    next hopens =>
      have hlink := setPreferred_opened (trimmed value) hd
      unfold OnlyOn
      rw [hlink]
      refine ⟨⟨fun h q hq _ => ?_, fun h _ => h p rfl hopens⟩, fun h => ?_⟩
      · exact (Option.some.inj hq) ▸ h rfl
      · refine ⟨rfl, rfl, rfl, hv', ?_, .inl rfl, h⟩
        exact congrArg names (trimmed_trimmed value)
    next hfails =>
      obtain ⟨x, y, hlink⟩ := hd
      refine down (fun q hq hopens => ?_) (by rw [hlink]; rfl) (by rw [hlink]; rfl)
        (by rw [hlink]; rfl) (by rw [hlink]; rfl)
      exact absurd hopens (Option.some.inj hq ▸ hfails)

/-! ## From then on -/

/-- `Claimed`, with a WiFi retry that may be pending from before -/
structure Held (names : String → String) (portName : String) (timer : Timer) (l : Link) :
    Prop where
  transport : l.transport = .serial
  timer : l.wifiReconnectTimer = none ∨ l.wifiReconnectTimer = timer
  naming : l.shortPortName = names
  named : l.preferredSerialPort ≠ ""
  preferred : names l.preferredSerialPort = portName
  retry : l.serialReconnectPort = "" ∨ names l.serialReconnectPort = portName
  port : l.serialOpen = true → l.serialPort = portName

section
variable {d d' : Dev} {names : String → String} {portName : String} {timer : Timer}

theorem claimed_iff (l : Link) : Claimed names portName l ↔ Held names portName none l :=
  ⟨fun h => ⟨h.transport, .inl h.timer, h.naming, h.named, h.preferred, h.retry, h.port⟩,
    fun h => ⟨h.transport, h.timer.elim id id, h.naming, h.named, h.preferred, h.retry, h.port⟩⟩

theorem Held.of_sameLink (h : Held names portName timer d.link) (hd : SameLink d d') :
    Held names portName timer d'.link := by rw [hd.link]; exact h

theorem Held.onWifi (h : Held names portName timer d.link) : ¬ d.onWifi = true :=
  (not_onWifi_iff d).mpr h.transport

theorem Held.closed (h : Held names portName timer d.link) (hup : ¬ d.isConnected = true) :
    d.link.serialOpen = false := by
  rw [Dev.isConnected, Link.isConnected, h.transport] at hup
  exact (Bool.not_eq_true _).mp hup

/-- a port opens under another of its names -/
theorem connectToDevice_held (h : Held names portName timer d.link)
    (hs : d.link.serialOpen = false) {p : String} (hname : p ≠ "") (hp : names p = portName) :
    Held names portName timer (d.connectToDevice p).1.link := by
  have hport : d.link.shortPortName p = portName := by rw [h.naming, hp]
  rw [(connectToDevice_closed p hs).1, Link.connected]
  split
  · exact ⟨rfl, h.timer, h.naming, hname, hp, .inl rfl, fun _ => hport⟩
  · exact ⟨rfl, h.timer, h.naming, h.named, h.preferred, h.retry, fun _ => hport⟩

theorem trySerialReconnect_held (h : Held names portName timer d.link) :
    Held names portName timer d.trySerialReconnect.link := by
  unfold Dev.trySerialReconnect
  split
  next => exact h
  next hguard =>
    rw [not_or, not_or] at hguard
    obtain ⟨-, hup, hname⟩ := hguard
    have hretry : names d.link.serialReconnectPort = portName := h.retry.resolve_left hname
    split
    · exact ⟨h.transport, h.timer, h.naming, h.named, h.preferred, .inl rfl, h.port⟩
    · let d1 : Dev := { d with link := { d.link with
        serialReconnectAttempts := d.link.serialReconnectAttempts + 1 } }
      have h1 : Held names portName timer d1.link :=
        ⟨h.transport, h.timer, h.naming, h.named, h.preferred, h.retry, h.port⟩
      have hc : Held names portName timer (d1.connectToDevice d1.link.serialReconnectPort).1.link :=
        connectToDevice_held h1 (h.closed hup) hname hretry
      dsimp only
      split
      · exact hc
      · exact ⟨hc.transport, hc.timer, hc.naming, hc.named, hc.preferred, hc.retry, hc.port⟩

theorem scheduleSerialReconnect_held (h : Held names portName timer d.link) {p : String}
    (hp : names p = portName) (delayMs : Int) :
    Held names portName timer (d.scheduleSerialReconnect p delayMs).link := by
  obtain ⟨timer, port, hlink, hport⟩ := scheduleSerialReconnect_link p delayMs d
  rw [hlink]
  refine ⟨h.transport, h.timer, h.naming, h.named, h.preferred, ?_, h.port⟩
  rcases hport with rfl | rfl
  · exact h.retry
  · exact .inr hp

/-- with a preferred port no other port is accepted -/
theorem onDeviceFound_held (h : Held names portName timer d.link) (p : String) :
    Held names portName timer (d.onDeviceFound p).link := by
  unfold Dev.onDeviceFound
  split
  next => exact h
  next hguard =>
    rw [not_or] at hguard
    split
    next => exact h
    next hother =>
      have hsame : p = d.link.preferredSerialPort := by
        by_contra hne
        exact hother ⟨h.named, hne⟩
      have hname : p ≠ "" := hsame ▸ h.named
      have hp : names p = portName := hsame ▸ h.preferred
      have hc := connectToDevice_held h (h.closed hguard.2) hname hp
      split
      · exact ⟨h.transport, h.timer, h.naming, h.named, h.preferred, .inr hp, h.port⟩
      · dsimp only
        split
        · exact hc
        · refine scheduleSerialReconnect_held ?_ hp 750
          exact ⟨hc.transport, hc.timer, hc.naming, hc.named, hc.preferred, hc.retry, hc.port⟩

/-- the worker's reports do not reach the device object while the serial transport is the current
one -/
theorem onWorkerConnected_held (h : Held names portName timer d.link) :
    Held names portName timer d.onWorkerConnected.link := by
  let d1 : Dev := { d with link := { d.link with wifiConnected := true } }
  have h1 : Held names portName timer d1.link :=
    ⟨h.transport, h.timer, h.naming, h.named, h.preferred, h.retry, h.port⟩
  unfold Dev.onWorkerConnected
  dsimp only
  rw [if_neg h1.onWifi]
  exact h1

theorem onWorkerDisconnected_held (h : Held names portName timer d.link) :
    Held names portName timer d.onWorkerDisconnected.link := by
  let d1 : Dev := { d with link := { d.link with wifiConnected := false } }
  have h1 : Held names portName timer d1.link :=
    ⟨h.transport, h.timer, h.naming, h.named, h.preferred, h.retry, h.port⟩
  unfold Dev.onWorkerDisconnected
  split
  · dsimp only
    rw [if_neg h1.onWifi]
    exact h1
  · exact h

/-! ### The events

The name that `portName()` answers is short, and stays as it is when it is used to open the port
again. -/

variable (hshort : names portName = portName)
include hshort

/-- a port that closes is the requested one, and so is the retry it leaves -/
theorem serialClose_held (h : Held names portName timer d.link) :
    Held names portName timer d.serialClose.link := by
  cases hs : d.link.serialOpen with
  | false =>
    rw [serialClose_of_closed hs]
    exact h
  | true =>
    obtain ⟨⟨⟨_, _, _, _, hlink⟩, hport⟩, -⟩ := serialClose_serial h.transport
    refine ⟨?_, ?_, ?_, ?_, ?_, ?_, fun ho => ?_⟩
    · rw [hlink]
      exact h.transport
    · rw [hlink]
      exact h.timer
    · rw [hlink]
      exact h.naming
    · rw [hlink]
      exact h.named
    · rw [hlink]
      exact h.preferred
    · rcases hport with hport | hport
      · rw [hport]
        exact h.retry
      · rw [hport, h.port hs]
        exact .inr hshort
    · rw [hlink] at ho
      exact Bool.noConfusion ho

theorem transportClose_held (h : Held names portName timer d.link) :
    Held names portName timer d.transportClose.link := by
  rw [Dev.transportClose, if_neg h.onWifi]
  exact serialClose_held hshort h

theorem disconnect_held (h : Held names portName timer d.link) :
    Held names portName timer d.disconnect.link := by
  let d1 : Dev := { d.clearSerialReconnect with
    keep := { d.keep with suspended := false, pingTimer := none }
    link := { d.clearSerialReconnect.link with
      wifiReconnectTimer := none, wifiWasConnected := false, wifiReconnectAttempts := 0 } }
  have h1 : Held names portName timer d1.link :=
    ⟨h.transport, .inl rfl, h.naming, h.named, h.preferred, .inl rfl, h.port⟩
  have h2 := h1.of_sameLink (stopStreaming_sameLink d1)
  unfold Dev.disconnect
  refine transportClose_held hshort ?_
  exact ⟨h2.transport, h2.timer, h2.naming, h2.named, h2.preferred, h2.retry, h2.port⟩

theorem onPingTimer_held (h : Held names portName timer d.link) :
    Held names portName timer d.onPingTimer.link := by
  let d1 : Dev := { d with keep := { d.keep with missedPongs := d.keep.missedPongs + 1 } }
  have h1 : Held names portName timer d1.link := h
  unfold Dev.onPingTimer
  split
  · exact h
  · dsimp only
    split
    · exact transportClose_held hshort (h1.of_sameLink (stopStreaming_sameLink d1))
    · rw [Dev.sendCommand_link]
      exact h

theorem onDeviceLost_held (h : Held names portName timer d.link) (p : String) :
    Held names portName timer (d.onDeviceLost p).link := by
  unfold Dev.onDeviceLost
  split
  · exact transportClose_held hshort (d := { d with keep := { d.keep with pingTimer := none } }) h
  · exact h

theorem call_held (h : Held names portName timer d.link) (c : Call) (hc : ¬ Chooses c) :
    Held names portName timer (d.call c).link := by
  cases c with
  | connectToDevice p => exact absurd trivial hc
  | connectToDeviceWifi hp => exact absurd trivial hc
  | setPreferredSerialPort p => exact absurd trivial hc
  | disconnect => exact disconnect_held hshort h
  | _ => exact h.of_sameLink (call_sameLink _ d id)

/-- a WiFi retry that finds no connection would take the device object to the WiFi transport -/
theorem expire_held (h : Held names portName timer d.link) (t : TimerId)
    (hwifi : t = .wifiReconnect → d.link.wifiReconnectTimer = none ∨ d.isConnected = true) :
    Held names portName timer (d.expire t).link := by
  unfold Dev.expire
  split
  next => exact h
  next harmed =>
    cases t with
    | ping => exact onPingTimer_held hshort h
    | transfer k =>
      exact h.of_sameLink (sameLink_closed.handled.timeoutBranch (onTransferTimeout_branch k d))
    | wifiReconnect =>
      have hup : d.isConnected = true := (hwifi rfl).resolve_left harmed
      let d1 : Dev := { d with link := { d.link with wifiReconnectTimer := none } }
      have hkept : d1.tryWifiReconnect = d1 := if_pos hup
      show Held names portName timer d1.tryWifiReconnect.link
      rw [hkept]
      exact ⟨h.transport, .inl rfl, h.naming, h.named, h.preferred, h.retry, h.port⟩
    | serialReconnect =>
      refine trySerialReconnect_held ?_
      exact ⟨h.transport, h.timer, h.naming, h.named, h.preferred, h.retry, h.port⟩

theorem shot_held (h : Held names portName timer d.link) (s : Shot) :
    Held names portName timer (d.shot s).link := by
  let d1 : Dev := { d with shots := d.shots.erase s }
  have h1 : Held names portName timer d1.link := h
  unfold Dev.shot
  split
  · exact h
  · cases s with
    | requestDeviceInfo => exact h1.of_sameLink (sameLink_closed.handled.send d1 _ _)
    | closeLink =>
      dsimp only
      split
      · exact transportClose_held hshort h1
      · exact h1
    | rearmScreen =>
      dsimp only
      split
      · exact h1.of_sameLink (startScreenStream_sameLink _ d1)
      · exact h1
    | trySerialReconnect => exact trySerialReconnect_held h1

/-- **Step lemma**, for every event that is no connection the user makes. -/
theorem step_held (e : Event) (d : Dev) (h : Held names portName timer d.link)
    (he : ∀ c, e = .call c → ¬ Chooses c)
    (hwifi : e = .expire .wifiReconnect →
      d.link.wifiReconnectTimer = none ∨ d.isConnected = true) :
    Held names portName timer (step e d).link := by
  have h0 : Held names portName timer d.fresh.link := h
  unfold step Dev.handle
  cases e with
  | call c => exact call_held hshort h0 c (he c rfl)
  | frame f dialect =>
    dsimp only
    split
    · refine Held.of_sameLink ?_ (onFrameReceived_sameLink f _)
      exact h0
    · exact h0
  | workerValidated dialect =>
    dsimp only
    split <;> exact h0
  | expire t => exact expire_held hshort h0 t fun ht => hwifi (congrArg Event.expire ht)
  | shot s => exact shot_held hshort h0 s
  | serialError => exact serialClose_held hshort h0
  | transportError msg => exact h0
  | workerConnected =>
    dsimp only
    split
    · exact onWorkerConnected_held h0
    · exact h0
  | workerDisconnected => exact onWorkerDisconnected_held h0
  | screenPortReady port =>
    dsimp only
    split
    · exact ⟨h0.transport, h0.timer, h0.naming, h0.named, h0.preferred, h0.retry, h0.port⟩
    · exact h0
  | inboundActivity =>
    dsimp only
    split <;> exact h0
  | deviceFound p => exact onDeviceFound_held h0 p
  | deviceLost p => exact onDeviceLost_held hshort h0 p
  | setMdnsDiscovery present =>
    exact ⟨h0.transport, h0.timer, h0.naming, h0.named, h0.preferred, h0.retry, h0.port⟩
  | serviceFound address port =>
    dsimp only
    split
    · unfold Dev.onServiceFound
      split
      · exact h0
      · exact ⟨h0.transport, h0.timer, h0.naming, h0.named, h0.preferred, h0.retry, h0.port⟩
    · exact h0
  | env env => exact h0

end

/-- **The requested port is the only one**, in every run without a connection the user makes, iff
the first port that the first scan tries is that port or does not open. -/
theorem onlyOn_iff (env : Env) (names : String → String) (attached : List SerialPortInfo)
    (value : String) (es : List Event) (hv : trimmed value ≠ "")
    (hshort : names (names (trimmed value)) = names (trimmed value))
    (hes : ∀ e ∈ es, ∀ c, e = .call c → ¬ Chooses c) :
    Run.Throughout step (OnlyOn (trimmed value)) es (started env names attached value) ↔
      FirstScanKeeps env names attached (trimmed value) := by
  obtain ⟨hstart, hclaimed⟩ := started_onlyOn_iff env names attached value hv
  rw [← hstart]
  constructor
  · intro h
    exact Run.throughout_head step h
  · intro h
    refine Run.throughout_of_along step
      (I := fun d => Claimed names (names (trimmed value)) d.link)
      (fun d hd ho => ?_) (fun e d hd he => ?_) es _ (hclaimed h)
      (Run.along_of_forall step es _ fun e he _ => hes e he)
    · rw [hd.naming]
      exact hd.port ho
    · rw [claimed_iff] at hd ⊢
      exact step_held hshort e d hd he fun _ => .inl (hd.timer.elim id id)

/-- `--port COM3` with an M1 on COM4: the first scan connects to COM4 before the port is handed
over -/
theorem started_elsewhere :
    let d := started { serialOpens := fun _ => true } portNameFromSystemLocation
      [.m1 "COM4", .m1 "COM3"] "COM3"
    d.link.serialOpen = true ∧ d.link.serialPort = "COM4" ∧
      ¬ Run.Throughout step (OnlyOn (trimmed "COM3")) [] d := by
  refine ⟨by decide +kernel, by decide +kernel, fun h => ?_⟩
  exact absurd (h (by decide +kernel)) (by decide +kernel)

/-- `--port /dev/ttyACM0`: the first scan opens the port under its short name, it is unplugged
while an M1 stays on another port, and the retry opens it again -/
theorem onlyOn_unplugged :
    Run.Throughout step (OnlyOn (trimmed "/dev/ttyACM0"))
      [.deviceLost "ttyACM0", .deviceFound "ttyACM1", .expire .serialReconnect]
      (started { serialOpens := fun _ => true } portNameFromSystemLocation
        [.m1 "ttyACM0", .m1 "ttyACM1"] "/dev/ttyACM0") :=
  (onlyOn_iff _ _ _ _ _ (by decide) (by decide) (by simp)).mpr fun p hp _ => by
    rw [show firstTried (fun _ => true) (currentPorts [.m1 "ttyACM0", .m1 "ttyACM1"]) =
      some "ttyACM0" from by decide] at hp
    rw [← Option.some.inj hp]
    decide

end QMon.Transport
