import Mathlib.Data.List.Infix
import QMonstatek.Updater.Download
import QMonstatek.Views.Flashing

/-!
# The one-click update

`UpdateAllView.qml`: download the ESP32 firmware, flash it, download the M1 firmware, flash it into
the inactive bank, then offer the bank swap.  Without an ESP repo only the M1 half runs.

`UpdateAll`   the view; its handlers return what they ask of `m1device` or of a checker;
`OneClick`    the view with the device object and the two checkers it shares with the other views;
`Act`         what can happen: any event of the device, any move of a checker, and the user.

The signals of one handler of the device or of a checker are heard in order.  A reboot may be asked
for at any time, as the buttons for it are shown once the flash has stalled or failed; an update is
not started while the modal `doneDialog` is open.
-/

namespace QMon.Views
open Device Updater

structure Asset where
  name : String
  downloadUrl : String
  deriving DecidableEq, Repr

/-- what `fetchLatest` keeps of a release -/
structure Release where
  version : String
  assets : List Asset
  deriving DecidableEq, Repr

inductive Phase where
  | idle
  | dlEsp
  | flashEsp
  | dlM1
  | flashM1
  | done
  deriving DecidableEq, Repr

structure UpdateAll where
  espTracked : Bool := true
  m1Release : Option Release := none
  espRelease : Option Release := none
  phase : Phase := .idle
  busy : Bool := false
  pct : Int := 0
  statusMsg : String := ""
  stalled : Bool := false
  lastPct : Int := -1
  espPath : String := ""
  m1Path : String := ""
  /-- `doneDialog` is open -/
  doneDialog : Bool := false
  /-- the text of `errorDialog` while it is open -/
  errorDialog : Option String := none
  /-- `root.updateAllActive` of `main.qml`, set by `updateInFlight` -/
  updateAllActive : Bool := false
  deriving DecidableEq, Repr

/-! ## Names -/

def toLowerCase (s : String) : List Char := s.toList.map Char.toLower

/-- `indexOf(word) >= 0` -/
def contains (word : String) (s : List Char) : Bool := decide (word.toList <:+: s)

def isSeparator (c : Char) : Bool := c == '/' || c == '\\'

/-- what follows the last slash or backslash -/
def basename (p : String) : List Char :=
  (p.toList.reverse.takeWhile fun c => !isSeparator c).reverse

/-- `basename(path).toLowerCase().endsWith(".md5")` -/
def isMd5 (path : String) : Bool :=
  decide (".md5".toList <:+ (basename path).map Char.toLower)

/-- a firmware image with a CRC, or else any `.bin` -/
def pickM1 (rel : Option Release) : Option Asset :=
  match rel with
  | none => none
  | some rel =>
    let plain (n : List Char) : Bool :=
      contains ".bin" n && !contains "esp" n && !contains "factory" n
    (rel.assets.find? fun a =>
        contains "wcrc" (toLowerCase a.name) && plain (toLowerCase a.name)).or
      (rel.assets.find? fun a => plain (toLowerCase a.name))

/-- a factory image, or else any `.bin` -/
def pickEsp (rel : Option Release) : Option Asset :=
  match rel with
  | none => none
  | some rel =>
    let plain (n : List Char) : Bool := contains ".bin" n && !contains ".md5" n
    (rel.assets.find? fun a =>
        contains "factory" (toLowerCase a.name) && plain (toLowerCase a.name)).or
      (rel.assets.find? fun a => plain (toLowerCase a.name))

/-! ## The view -/

namespace UpdateAll

def m1Ready (v : UpdateAll) : Bool := (pickM1 v.m1Release).isSome

def espReady (v : UpdateAll) : Bool := !v.espTracked || (pickEsp v.espRelease).isSome

/-- `compatible` is `m1device.connected && m1device.hasDeviceInfo` -/
def canUpdate (compatible : Bool) (v : UpdateAll) : Bool :=
  compatible && !v.busy && v.m1Ready && v.espReady

/-- a stage begins: the progress starts again -/
def stage (phase : Phase) (statusMsg : String) (v : UpdateAll) : UpdateAll :=
  { v with
    phase := phase, pct := 0, stalled := false, lastPct := -1, statusMsg := statusMsg }

def fail (msg : String) (v : UpdateAll) : UpdateAll :=
  { v with
    busy := false, phase := .idle, stalled := false, updateAllActive := false
    errorDialog := some msg }

/-- the fetches that follow report as `m1Fetched` and `espFetched` -/
def refresh (compatible : Bool) (v : UpdateAll) : UpdateAll :=
  if !compatible || v.busy then v else { v with m1Release := none, espRelease := none }

/-- the asset to download, from the ESP checker (`true`) or the M1 checker -/
def startUpdate (compatible : Bool) (v : UpdateAll) : UpdateAll × Option (Bool × Asset) :=
  if !v.canUpdate compatible then (v, none)
  else
    let espAsset := if v.espTracked then pickEsp v.espRelease else none
    match pickM1 v.m1Release with
    | none =>
      ({ v with errorDialog := some "No M1 firmware asset found in the latest release." }, none)
    | some m1Asset =>
      let v1 := { v with
        busy := true, stalled := false, lastPct := -1, pct := 0, updateAllActive := true }
      match v.espTracked, espAsset with
      | true, none =>
        ({ v with errorDialog := some "No ESP firmware asset found in the latest release." }, none)
      | true, some espAsset =>
        ({ v1 with phase := .dlEsp, statusMsg := "Downloading the latest ESP32 firmware…" },
          some (true, espAsset))
      | false, _ =>
        ({ v1 with phase := .dlM1, statusMsg := "Downloading the latest M1 firmware…" },
          some (false, m1Asset))

/-- after `m1device.reboot()` -/
def rebootDevice (v : UpdateAll) : UpdateAll :=
  { v with
    busy := false, phase := .idle, stalled := false
    statusMsg := "Rebooting the device… it'll reconnect in a moment — then run it again." }

/-- the stall timer, which runs while the view is busy -/
def onStallTimer (v : UpdateAll) : UpdateAll :=
  if v.busy then
    { v with stalled := v.stalled || (v.pct == v.lastPct && v.pct < 100), lastPct := v.pct }
  else v

/-- the image to flash is the second part -/
def hearEsp (o : CheckerOut) (v : UpdateAll) : UpdateAll × Option String :=
  match o with
  | .downloadProgress p => (if v.phase = .dlEsp then { v with pct := p } else v, none)
  | .downloadComplete path =>
    if v.phase ≠ .dlEsp then (v, none)
    else if isMd5 path then (v, none)
    else (({ v with espPath := path }).stage .flashEsp "Flashing the ESP32 firmware…", some path)
  | .downloadError msg =>
    (if v.phase ≠ .dlEsp then v else v.fail ("ESP firmware download failed:\n" ++ msg), none)
  | _ => (v, none)

def hearM1 (o : CheckerOut) (v : UpdateAll) : UpdateAll × Option String :=
  match o with
  | .downloadProgress p => (if v.phase = .dlM1 then { v with pct := p } else v, none)
  | .downloadComplete path =>
    if v.phase ≠ .dlM1 then (v, none)
    else (({ v with m1Path := path }).stage .flashM1
      "Flashing the M1 firmware to the inactive bank…", some path)
  | .downloadError msg =>
    (if v.phase ≠ .dlM1 then v else v.fail ("M1 firmware download failed:\n" ++ msg), none)
  | _ => (v, none)

/-- the asset to download from the M1 checker is the second part -/
def onEspUpdateComplete (v : UpdateAll) : UpdateAll × Option Asset :=
  if v.phase ≠ .flashEsp then (v, none)
  else match pickM1 v.m1Release with
    | none => (v.fail "No M1 firmware asset found.", none)
    | some a => (v.stage .dlM1 "Downloading the latest M1 firmware…", some a)

def onFwUpdateComplete (v : UpdateAll) : UpdateAll :=
  if v.phase ≠ .flashM1 then v
  else { v with
    phase := .done, busy := false, updateAllActive := false
    statusMsg := "Both firmwares flashed. Swapping banks and rebooting into the new build…"
    doneDialog := true }

def onConnectionChanged (connected : Bool) (v : UpdateAll) : UpdateAll :=
  if !connected && v.busy then
    { v with
      busy := false, phase := .idle, stalled := false
      statusMsg := "Device disconnected mid-flash. If it stalled it likely rebooted — "
        ++ "reconnect and run it again." }
  else v

/-- the signals of `m1device` -/
def hear (s : Signal) (v : UpdateAll) : UpdateAll × Option Asset :=
  match s with
  | .espUpdateProgress p => (if v.phase = .flashEsp then { v with pct := p } else v, none)
  | .espUpdateComplete => v.onEspUpdateComplete
  | .espUpdateError msg =>
    (if v.phase ≠ .flashEsp then v else v.fail ("ESP32 flash failed:\n" ++ msg), none)
  | .fwUpdateProgress p => (if v.phase = .flashM1 then { v with pct := p } else v, none)
  | .fwUpdateComplete => (v.onFwUpdateComplete, none)
  | .fwUpdateError msg =>
    (if v.phase ≠ .flashM1 then v else v.fail ("M1 flash failed:\n" ++ msg), none)
  | .connectionChanged connected => (v.onConnectionChanged connected, none)
  | _ => (v, none)

end UpdateAll

/-! ## The view at work -/

structure OneClick where
  view : UpdateAll := {}
  dev : Dev := {}
  /-- `esp32Checker` and `githubChecker` -/
  esp : Downloads := {}
  m1 : Downloads := {}

inductive Act where
  | device (e : Event)
  | espChecker (m : Updater.Move)
  | m1Checker (m : Updater.Move)
  /-- the settings choose an ESP repo, or none -/
  | trackEsp (tracked : Bool)
  | refresh
  | m1Fetched (r : Option Release)
  | espFetched (r : Option Release)
  /-- `confirmDialog` is accepted -/
  | startUpdate
  | rebootDevice
  | stallTimer
  /-- OK in `doneDialog` -/
  | accepted
  | closeError

def Asset.request (a : Asset) : Updater.Request := ⟨a.downloadUrl, a.name⟩

namespace OneClick

variable (host : Host)

def compatible (x : OneClick) : Bool := x.dev.isConnected && x.dev.deviceInfo.hasDeviceInfo

def m1Download (a : Asset) (x : OneClick) : OneClick :=
  { x with m1 := download host (.downloadAsset a.request) x.m1 }

def espDownload (a : Asset) (x : OneClick) : OneClick :=
  { x with esp := download host (.downloadAsset a.request) x.esp }

def hear (s : Signal) (x : OneClick) : OneClick :=
  let r := x.view.hear s
  match r.2 with
  | none => { x with view := r.1 }
  | some a => m1Download host a { x with view := r.1 }

/-- an event of the device, and what the view makes of its signals -/
def device (e : Event) (x : OneClick) : OneClick :=
  let dev := Device.step e x.dev
  Run.exec (hear host) (signals dev) { x with dev := dev }

def hearEsp (o : CheckerOut) (x : OneClick) : OneClick :=
  let r := x.view.hearEsp o
  match r.2 with
  | none => { x with view := r.1 }
  | some path => device host (.call (.startEspUpdate path 0 false)) { x with view := r.1 }

def hearM1 (o : CheckerOut) (x : OneClick) : OneClick :=
  let r := x.view.hearM1 o
  match r.2 with
  | none => { x with view := r.1 }
  | some path => device host (.call (.startFwUpdate path)) { x with view := r.1 }

def espChecker (m : Updater.Move) (x : OneClick) : OneClick :=
  let esp := download host m x.esp
  Run.exec (hearEsp host) esp.checker.out { x with esp := esp }

def m1Checker (m : Updater.Move) (x : OneClick) : OneClick :=
  let m1 := download host m x.m1
  Run.exec (hearM1 host) m1.checker.out { x with m1 := m1 }

def startUpdate (x : OneClick) : OneClick :=
  let r := x.view.startUpdate x.compatible
  match r.2 with
  | none => { x with view := r.1 }
  | some (true, a) => espDownload host a { x with view := r.1 }
  | some (false, a) => m1Download host a { x with view := r.1 }

def rebootDevice (x : OneClick) : OneClick :=
  let x := x.device host (.call .reboot)
  { x with view := x.view.rebootDevice }

/-- the bank swap, and with it the reboot into the new build -/
def accepted (x : OneClick) : OneClick :=
  if x.view.doneDialog then
    device host (.call .swapBanks)
      { x with view := { x.view with phase := .idle, statusMsg := "", doneDialog := false } }
  else x

def step (a : Act) (x : OneClick) : OneClick :=
  match a with
  | .device e => x.device host e
  | .espChecker m => x.espChecker host m
  | .m1Checker m => x.m1Checker host m
  | .trackEsp tracked => { x with view := { x.view with espTracked := tracked } }
  | .refresh => { x with view := x.view.refresh x.compatible }
  | .m1Fetched r => { x with view := { x.view with m1Release := r } }
  | .espFetched r => { x with view := { x.view with espRelease := r } }
  | .startUpdate => if x.view.doneDialog then x else x.startUpdate host
  | .rebootDevice => x.rebootDevice host
  | .stallTimer => { x with view := x.view.onStallTimer }
  | .accepted => x.accepted host
  | .closeError => { x with view := { x.view with errorDialog := none } }

end OneClick

/-! ## What a handler does to the view -/

def Phase.working : Phase → Bool
  | .idle => false
  | .done => false
  | _ => true

/-- the two chips, with their stages and the flash of each -/
inductive Chip where
  | esp
  | m1
  deriving DecidableEq, Repr

def Chip.dl : Chip → Phase
  | .esp => .dlEsp
  | .m1 => .dlM1

def Chip.flash : Chip → Phase
  | .esp => .flashEsp
  | .m1 => .flashM1

def Chip.task : Chip → Task
  | .esp => .espUpdate
  | .m1 => .fwUpdate

/-- a download has come to its end -/
def Ended : CheckerOut → Prop
  | .downloadComplete _ => True
  | .downloadError _ => True
  | _ => False

structure SameStage (v v' : UpdateAll) : Prop where
  phase : v'.phase = v.phase
  busy : v'.busy = v.busy
  doneDialog : v'.doneDialog = v.doneDialog

structure Halted (v v' : UpdateAll) : Prop where
  phase : v'.phase = .idle
  busy : v'.busy = false
  doneDialog : v'.doneDialog = v.doneDialog

/-- the view hears a signal of the device -/
inductive Heard (s : Signal) (v : UpdateAll) : UpdateAll × Option Asset → Prop
  | same (v' : UpdateAll) (h : SameStage v v')
      (waits : ∀ c : Chip, v.phase = c.flash → ¬ Ends c.task s) : Heard s v (v', none)
  | halted (v' : UpdateAll) (h : Halted v v') : Heard s v (v', none)
  | next (a : Asset) (statusMsg : String) (heard : s = .espUpdateComplete)
      (before : v.phase = .flashEsp) : Heard s v (v.stage .dlM1 statusMsg, some a)
  | finished (v' : UpdateAll) (heard : s = .fwUpdateComplete) (before : v.phase = .flashM1)
      (after : v'.phase = .done) (busy : v'.busy = false) : Heard s v (v', none)

/-- the view hears of a download of chip `c` -/
inductive Fetched (c : Chip) (o : CheckerOut) (v : UpdateAll) : UpdateAll × Option String → Prop
  | same (v' : UpdateAll) (h : SameStage v v')
      (waits : v.phase = c.dl → Ended o →
        ∃ path, o = .downloadComplete path ∧ c = .esp ∧ isMd5 path = true) :
      Fetched c o v (v', none)
  | halted (v' : UpdateAll) (h : Halted v v') : Fetched c o v (v', none)
  | flash (path : String) (v' : UpdateAll) (heard : o = .downloadComplete path)
      (before : v.phase = c.dl) (after : v'.phase = c.flash) (busy : v'.busy = v.busy)
      (doneDialog : v'.doneDialog = v.doneDialog) : Fetched c o v (v', some path)

theorem hear_heard (s : Signal) (v : UpdateAll) : Heard s v (v.hear s) := by
  have refl : SameStage v v := ⟨rfl, rfl, rfl⟩
  have deaf {v' : UpdateAll} (h : SameStage v v') (hs : ∀ c : Chip, ¬ Ends c.task s) :
      Heard s v (v', none) := .same v' h fun c _ => hs c
  unfold UpdateAll.hear
  cases s with
  | espUpdateProgress p =>
    refine deaf ?_ fun c => by cases c <;> exact Bool.false_ne_true
    split <;> exact ⟨rfl, rfl, rfl⟩
  | fwUpdateProgress p =>
    refine deaf ?_ fun c => by cases c <;> exact Bool.false_ne_true
    split <;> exact ⟨rfl, rfl, rfl⟩
  | espUpdateComplete =>
    unfold UpdateAll.onEspUpdateComplete
    dsimp only
    split
    next hp =>
      refine .same v refl fun c hc => ?_
      cases c with
      | esp => exact absurd hc hp
      | m1 => exact Bool.false_ne_true
    next hp =>
      split
      · exact .halted _ ⟨rfl, rfl, rfl⟩
      · exact .next _ _ rfl (not_not.mp hp)
  | espUpdateError msg =>
    dsimp only
    split
    next hp =>
      refine .same v refl fun c hc => ?_
      cases c with
      | esp => exact absurd hc hp
      | m1 => exact Bool.false_ne_true
    next => exact .halted _ ⟨rfl, rfl, rfl⟩
  | fwUpdateComplete =>
    unfold UpdateAll.onFwUpdateComplete
    dsimp only
    split
    next hp =>
      refine .same v refl fun c hc => ?_
      cases c with
      | esp => exact Bool.false_ne_true
      | m1 => exact absurd hc hp
    next hp => exact .finished _ rfl (not_not.mp hp) rfl rfl
  | fwUpdateError msg =>
    dsimp only
    split
    next hp =>
      refine .same v refl fun c hc => ?_
      cases c with
      | esp => exact Bool.false_ne_true
      | m1 => exact absurd hc hp
    next => exact .halted _ ⟨rfl, rfl, rfl⟩
  | connectionChanged connected =>
    unfold UpdateAll.onConnectionChanged
    dsimp only
    split
    · exact .halted _ ⟨rfl, rfl, rfl⟩
    · exact deaf refl fun c => by cases c <;> exact Bool.false_ne_true
  | _ => exact deaf refl fun c => by cases c <;> exact Bool.false_ne_true

/-- `hearEsp` or `hearM1` -/
def UpdateAll.hearChecker (c : Chip) (o : CheckerOut) (v : UpdateAll) : UpdateAll × Option String :=
  match c with
  | .esp => v.hearEsp o
  | .m1 => v.hearM1 o

theorem hearChecker_fetched (c : Chip) (o : CheckerOut) (v : UpdateAll) :
    Fetched c o v (v.hearChecker c o) := by
  have refl : SameStage v v := ⟨rfl, rfl, rfl⟩
  have elsewhere {v' : UpdateAll} (h : SameStage v v') (hp : v.phase ≠ c.dl) :
      Fetched c o v (v', none) := .same v' h fun hd => absurd hd hp
  have unended {v' : UpdateAll} (h : SameStage v v') (ho : ¬ Ended o) :
      Fetched c o v (v', none) := .same v' h fun _ he => absurd he ho
  cases c with
  | esp =>
    unfold UpdateAll.hearChecker UpdateAll.hearEsp
    cases o with
    | downloadProgress p =>
      refine unended ?_ id
      split <;> exact ⟨rfl, rfl, rfl⟩
    | downloadComplete path =>
      dsimp only
      split
      next hp => exact elsewhere refl hp
      next hp =>
        split
        next hm => exact .same v refl fun _ _ => ⟨path, rfl, rfl, hm⟩
        next => exact .flash path _ rfl (not_not.mp hp) rfl rfl rfl
    | downloadError msg =>
      dsimp only
      split
      next hp => exact elsewhere refl hp
      next => exact .halted _ ⟨rfl, rfl, rfl⟩
    | get url => exact unended refl id
    | writeFile path data => exact unended refl id
  | m1 =>
    unfold UpdateAll.hearChecker UpdateAll.hearM1
    cases o with
    | downloadProgress p =>
      refine unended ?_ id
      split <;> exact ⟨rfl, rfl, rfl⟩
    | downloadComplete path =>
      dsimp only
      split
      next hp => exact elsewhere refl hp
      next hp => exact .flash path _ rfl (not_not.mp hp) rfl rfl rfl
    | downloadError msg =>
      dsimp only
      split
      next hp => exact elsewhere refl hp
      next => exact .halted _ ⟨rfl, rfl, rfl⟩
    | get url => exact unended refl id
    | writeFile path data => exact unended refl id

end QMon.Views
