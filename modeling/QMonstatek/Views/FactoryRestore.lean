import QMonstatek.Views.Flashing

/-!
# The factory restore

`FactoryRestoreView.qml`: the Restore Host is flashed and booted first; on it the user picks a
stock version, whose ESP32 image and M1 image are flashed, both or one of the two.

`FactoryRestore`  the view; its handlers return what they ask of `m1device`;
`Restoring`       the view with the device object and with what `extractStockAsset` answers;
`Act`             what can happen: any event of the device, a change of the bundled files, the user.

The panes and the modal dialogs let a stage be started, a version or a mode be chosen only while
nothing else is under way.  The MD5 sidecar that is extracted with an ESP image is left out.
-/

namespace QMon.Restore
open Device Views

structure Version where
  label : String
  m1 : String
  esp : String
  espName : String
  deriving DecidableEq, Repr

def versions : List Version := [
  { label := "v0.8.0.0", m1 := "m1_v0800_wCRC.bin", esp := "esp_at_spi.bin", espName := "AT-SPI" },
  { label := "v0.8.0.2", m1 := "m1_v0802_wCRC.bin", esp := "esp_at_spi.bin", espName := "AT-SPI" },
  { label := "v0.8.0.4", m1 := "m1_v0804_wCRC.bin", esp := "esp_stealthhybrid.bin"
    espName := "StealthHybrid" }]

inductive Mode where
  | full
  | m1
  | esp
  deriving DecidableEq, Repr

inductive Phase where
  | idle
  | host
  | esp
  | m1
  | done
  deriving DecidableEq, Repr

structure FactoryRestore where
  /-- the default is the newest -/
  selectedIdx : Fin versions.length := ⟨2, by decide⟩
  restoreMode : Mode := .full
  phase : Phase := .idle
  busy : Bool := false
  pct : Int := 0
  statusMsg : String := ""
  pendingM1 : String := ""
  stalled : Bool := false
  lastPct : Int := -1
  /-- `doneDialog` and `espDoneDialog` are open -/
  doneDialog : Bool := false
  espDoneDialog : Bool := false
  /-- the text of `errorDialog` while it is open -/
  errorDialog : Option String := none
  deriving DecidableEq, Repr

/-! ## The view -/

namespace FactoryRestore

def version (v : FactoryRestore) : Version := versions.get v.selectedIdx

/-- a stage begins: the progress starts again -/
def stage (phase : Phase) (statusMsg : String) (v : FactoryRestore) : FactoryRestore :=
  { v with
    busy := true, phase := phase, pct := 0, stalled := false, lastPct := -1
    statusMsg := statusMsg }

def fail (msg : String) (v : FactoryRestore) : FactoryRestore :=
  { v with busy := false, phase := .idle, errorDialog := some msg }

/-- after `m1device.reboot()` -/
def rebootDevice (v : FactoryRestore) : FactoryRestore :=
  { v with
    busy := false, phase := .idle, stalled := false
    statusMsg := "Cancelling and rebooting the device… it'll reconnect in a moment — "
      ++ "then just run it again." }

/-- the stall timer, which runs while the view is busy -/
def onStallTimer (v : FactoryRestore) : FactoryRestore :=
  if v.busy then
    { v with stalled := v.stalled || (v.pct == v.lastPct && v.pct < 100), lastPct := v.pct }
  else v

section
variable (extract : String → String)

def startStage1 (v : FactoryRestore) : FactoryRestore × Option Call :=
  let p := extract "M1_RestoreHost_C3.1.0_wCRC.bin"
  if p = "" then (v, none)
  else (v.stage .host "Flashing the Restore Host firmware…", some (.startFwUpdate p))

def startStage2 (v : FactoryRestore) : FactoryRestore × Option Call :=
  let ver := v.version
  if v.restoreMode = .m1 then
    let m1Only := extract ver.m1
    if m1Only = "" then (v, none)
    else (({ v with pendingM1 := "" }).stage .m1 "Flashing the stock M1 firmware…",
      some (.startFwUpdate m1Only))
  else
    let espPath := extract ver.esp
    if espPath = "" then (v, none)
    else (({ v with pendingM1 := if v.restoreMode = Mode.full then ver.m1 else "" }).stage .esp
      ("Flashing the stock ESP32 firmware (" ++ ver.espName ++ ")…"),
      some (.startEspUpdate espPath 0 false))

def onEspUpdateComplete (v : FactoryRestore) : FactoryRestore × Option Call :=
  if v.phase ≠ .esp then (v, none)
  else if v.restoreMode = .esp then
    ({ v with busy := false, phase := .done, espDoneDialog := true }, none)
  else
    let m1Path := extract v.pendingM1
    if m1Path = "" then ({ v with busy := false, phase := .idle }, none)
    else (v.stage .m1 "Flashing the stock M1 firmware…", some (.startFwUpdate m1Path))

def onFwUpdateComplete (v : FactoryRestore) : FactoryRestore × Option Call :=
  if v.phase = .host then
    ({ v with
      busy := false, phase := .idle
      statusMsg := "Restore Host flashed. Swapping banks and rebooting into it…" },
      some .swapBanks)
  else if v.phase = .m1 then
    ({ v with busy := false, phase := .done, doneDialog := true }, none)
  else (v, none)

def onFwUpdateError (msg : String) (v : FactoryRestore) : FactoryRestore :=
  if v.phase ≠ .host ∧ v.phase ≠ .m1 then v
  else v.fail ((if v.phase = .host then "Restore Host flash failed:\n" else "M1 flash failed:\n")
    ++ msg)

def onConnectionChanged (connected : Bool) (v : FactoryRestore) : FactoryRestore :=
  if !connected && v.busy then
    { v with
      busy := false, phase := .idle, stalled := false
      statusMsg := "Device disconnected mid-flash. If it stalled, it likely "
        ++ "rebooted — reconnect and run it again." }
  else v

/-- the signals of `m1device` -/
def hear (s : Signal) (v : FactoryRestore) : FactoryRestore × Option Call :=
  match s with
  | .espUpdateProgress p => (if v.phase = .esp then { v with pct := p } else v, none)
  | .espUpdateComplete => v.onEspUpdateComplete extract
  | .espUpdateError msg =>
    (if v.phase ≠ .esp then v else v.fail ("ESP32 flash failed:\n" ++ msg), none)
  | .fwUpdateProgress p =>
    (if v.phase = .host ∨ v.phase = .m1 then { v with pct := p } else v, none)
  | .fwUpdateComplete => v.onFwUpdateComplete
  | .fwUpdateError msg => (v.onFwUpdateError msg, none)
  | .connectionChanged connected => (v.onConnectionChanged connected, none)
  | _ => (v, none)

end

end FactoryRestore

/-! ## The view at work -/

structure Restoring where
  view : FactoryRestore := {}
  dev : Dev := {}
  /-- `selfUpdater.extractStockAsset(name)`, empty if it fails -/
  extract : String → String := fun _ => ""

inductive Act where
  | device (e : Event)
  /-- the bundled files can be extracted, or not -/
  | assets (extract : String → String)
  | selectVersion (i : Fin versions.length)
  | setMode (mode : Mode)
  /-- `confirmStage1` and `confirmStage2` are accepted -/
  | startStage1
  | startStage2
  | rebootDevice
  | stallTimer
  /-- OK in `doneDialog` and in `espDoneDialog` -/
  | accepted
  | espAccepted
  | closeError

/-- nothing is under way and no dialog of the end is open -/
def FactoryRestore.free (v : FactoryRestore) : Bool :=
  !v.busy && !v.doneDialog && !v.espDoneDialog

namespace Restoring

/-- a call in answer to a signal.  It reports nothing done, so that no call answers its signals
(`hear_undone`). -/
def answer (c : Call) (x : Restoring) : Restoring :=
  let dev := Device.step (.call c) x.dev
  { x with
    dev := dev
    view := Run.exec (fun s v => (v.hear x.extract s).1) (signals dev) x.view }

def hear (s : Signal) (x : Restoring) : Restoring :=
  let r := x.view.hear x.extract s
  match r.2 with
  | none => { x with view := r.1 }
  | some c => answer c { x with view := r.1 }

def device (e : Event) (x : Restoring) : Restoring :=
  let dev := Device.step e x.dev
  Run.exec hear (signals dev) { x with dev := dev }

/-- the user starts a stage -/
def start (r : FactoryRestore × Option Call) (x : Restoring) : Restoring :=
  match r.2 with
  | none => { x with view := r.1 }
  | some c => answer c { x with view := r.1 }

def step (a : Act) (x : Restoring) : Restoring :=
  match a with
  | .device e => x.device e
  | .assets extract => { x with extract := extract }
  | .selectVersion i =>
    if x.view.free then { x with view := { x.view with selectedIdx := i } } else x
  | .setMode mode =>
    if x.view.free then { x with view := { x.view with restoreMode := mode } } else x
  | .startStage1 => if x.view.free then x.start (x.view.startStage1 x.extract) else x
  | .startStage2 => if x.view.free then x.start (x.view.startStage2 x.extract) else x
  | .rebootDevice => { x.device (.call .reboot) with
      view := (x.device (.call .reboot)).view.rebootDevice }
  | .stallTimer => { x with view := x.view.onStallTimer }
  | .accepted =>
    if x.view.doneDialog then
      device (.call .swapBanks)
        { x with view := { x.view with phase := .idle, doneDialog := false } }
    else x
  | .espAccepted =>
    if x.view.espDoneDialog then
      { x with view := { x.view with
        phase := .idle, espDoneDialog := false
        statusMsg := "ESP firmware flashed. The M1 is still on the Restore Host." } }
    else x
  | .closeError => { x with view := { x.view with errorDialog := none } }

end Restoring

/-! ## What a handler does to the view -/

/-- the flash a stage waits for -/
def Phase.task? : Phase → Option Task
  | .host => some .fwUpdate
  | .esp => some .espUpdate
  | .m1 => some .fwUpdate
  | _ => none

/-- what decides where the view goes next -/
structure SameStage (v v' : FactoryRestore) : Prop where
  phase : v'.phase = v.phase
  busy : v'.busy = v.busy
  choice : v'.selectedIdx = v.selectedIdx ∧ v'.restoreMode = v.restoreMode ∧
    v'.pendingM1 = v.pendingM1
  dialogs : v'.doneDialog = v.doneDialog ∧ v'.espDoneDialog = v.espDoneDialog

structure Halted (v v' : FactoryRestore) : Prop where
  phase : v'.phase = .idle
  busy : v'.busy = false
  dialogs : v'.doneDialog = v.doneDialog ∧ v'.espDoneDialog = v.espDoneDialog

/-- the view hears a signal of the device -/
inductive Heard (extract : String → String) (s : Signal) (v : FactoryRestore) :
    FactoryRestore × Option Call → Prop
  | same (v' : FactoryRestore) (h : SameStage v v')
      (waits : ∀ t, v.phase.task? = some t → ¬ Ends t s) : Heard extract s v (v', none)
  | halted (v' : FactoryRestore) (h : Halted v v') : Heard extract s v (v', none)
  | espDone (heard : s = .espUpdateComplete) (before : v.phase = .esp)
      (mode : v.restoreMode = .esp) :
      Heard extract s v ({ v with busy := false, phase := .done, espDoneDialog := true }, none)
  | next (statusMsg : String) (heard : s = .espUpdateComplete) (before : v.phase = .esp)
      (mode : v.restoreMode ≠ .esp) :
      Heard extract s v (v.stage .m1 statusMsg, some (.startFwUpdate (extract v.pendingM1)))
  | swap (v' : FactoryRestore) (heard : s = .fwUpdateComplete) (before : v.phase = .host)
      (h : Halted v v') : Heard extract s v (v', some .swapBanks)
  | finished (heard : s = .fwUpdateComplete) (before : v.phase = .m1) :
      Heard extract s v ({ v with busy := false, phase := .done, doneDialog := true }, none)

theorem hear_heard (extract : String → String) (s : Signal) (v : FactoryRestore) :
    Heard extract s v (v.hear extract s) := by
  have refl : SameStage v v := ⟨rfl, rfl, ⟨rfl, rfl, rfl⟩, rfl, rfl⟩
  have deaf {v' : FactoryRestore} (h : SameStage v v') (hs : ∀ t, t ≠ .bankErase → ¬ Ends t s) :
      Heard extract s v (v', none) := by
    refine .same v' h fun t ht => hs t fun he => ?_
    rw [he] at ht
    revert ht
    cases v.phase <;> decide
  -- the view is in no stage that waits for the flash `t`
  have apart {t : Task} (hp : v.phase.task? ≠ some t) (hs : ∀ t', t' ≠ t → ¬ Ends t' s) :
      Heard extract s v (v, none) := by
    refine .same v refl fun t' ht => hs t' fun he => hp (he ▸ ht)
  unfold FactoryRestore.hear
  cases s with
  | espUpdateProgress p =>
    refine deaf ?_ fun t _ => by cases t <;> exact Bool.false_ne_true
    split <;> exact ⟨rfl, rfl, ⟨rfl, rfl, rfl⟩, rfl, rfl⟩
  | fwUpdateProgress p =>
    refine deaf ?_ fun t _ => by cases t <;> exact Bool.false_ne_true
    split <;> exact ⟨rfl, rfl, ⟨rfl, rfl, rfl⟩, rfl, rfl⟩
  | espUpdateComplete =>
    unfold FactoryRestore.onEspUpdateComplete
    dsimp only
    split
    next hp =>
      refine apart (t := .espUpdate) (fun h => hp ?_) fun t ht => ?_
      · revert h
        cases v.phase <;> decide
      · cases t <;> first | exact absurd rfl ht | exact Bool.false_ne_true
    next hp =>
      have before := not_not.mp hp
      split
      next hm => exact .espDone rfl before hm
      next hm =>
        split
        · exact .halted _ ⟨rfl, rfl, rfl, rfl⟩
        · exact .next _ rfl before hm
  | espUpdateError msg =>
    dsimp only
    split
    next hp =>
      refine apart (t := .espUpdate) (fun h => hp ?_) fun t ht => ?_
      · revert h
        cases v.phase <;> decide
      · cases t <;> first | exact absurd rfl ht | exact Bool.false_ne_true
    next => exact .halted _ ⟨rfl, rfl, rfl, rfl⟩
  | fwUpdateComplete =>
    unfold FactoryRestore.onFwUpdateComplete
    dsimp only
    split
    next hp => exact .swap _ rfl hp ⟨rfl, rfl, rfl, rfl⟩
    next hp =>
      split
      next hm => exact .finished rfl hm
      next hm =>
        refine apart (t := .fwUpdate) (fun h => ?_) fun t ht => ?_
        · revert h hp hm
          cases v.phase <;> decide
        · cases t <;> first | exact absurd rfl ht | exact Bool.false_ne_true
  | fwUpdateError msg =>
    unfold FactoryRestore.onFwUpdateError
    dsimp only
    split
    next hp =>
      refine apart (t := .fwUpdate) (fun h => ?_) fun t ht => ?_
      · revert h hp
        cases v.phase <;> decide
      · cases t <;> first | exact absurd rfl ht | exact Bool.false_ne_true
    next => exact .halted _ ⟨rfl, rfl, rfl, rfl⟩
  | connectionChanged connected =>
    unfold FactoryRestore.onConnectionChanged
    dsimp only
    split
    · exact .halted _ ⟨rfl, rfl, rfl, rfl⟩
    · exact deaf refl fun t _ => by cases t <;> exact Bool.false_ne_true
  | _ =>
    refine deaf refl fun t ht => ?_
    cases t <;> first | exact absurd rfl ht | exact Bool.false_ne_true

/-- a call answers only the end of a flash -/
theorem hear_undone {extract : String → String} {s : Signal} {v : FactoryRestore}
    (hs : s.isDone = false) : (v.hear extract s).2 = none := by
  have heard := hear_heard extract s v
  generalize v.hear extract s = r at heard
  cases heard with
  | next statusMsg heard before mode => exact absurd (heard ▸ hs) (by decide)
  | swap v' heard before h => exact absurd (heard ▸ hs) (by decide)
  | _ => rfl

end QMon.Restore
