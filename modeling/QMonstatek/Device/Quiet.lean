import Mathlib.Data.List.Basic
import QMonstatek.Device.Step

/-!
# What the handlers leave alone

`opCommands`    the commands that belong to a transfer, to a bank or to a file command;
`opSent out`    those of them that were handed to a transport, oldest first, with their payloads;
`reports out`   the signals `connectionChanged` and `fwUpdateComplete`, oldest first;
`Quiet d d'`    from `d` to `d'` the operations are untouched, none of those commands is sent and
                none of those signals emitted;
`Linked d d'`   the same, but the link may be reported: where its loss is, the operations become
                `d.ops.reset`.

Every function of the session layer is `Linked`.
-/

namespace QMon.Device
open Rpc

/-! ## The commands of the operations -/

def opCommands : List UInt8 :=
  [CMD_FW_UPDATE_START, CMD_FW_UPDATE_DATA, CMD_FW_UPDATE_FINISH,
    CMD_ESP_UPDATE_START, CMD_ESP_UPDATE_DATA, CMD_ESP_UPDATE_FINISH,
    CMD_FILE_WRITE_START, CMD_FILE_WRITE_DATA, CMD_FILE_WRITE_FINISH,
    CMD_FW_BANK_SWAP, CMD_FW_BANK_ERASE, CMD_FILE_DELETE, CMD_FILE_DELETE_TREE,
    CMD_FILE_RENAME, CMD_FILE_MKDIR, CMD_SD_MOUNT, CMD_SD_UNMOUNT]

/-- the command and payload of a frame handed to a transport, open or not -/
def Out.command? : Out → Option (UInt8 × List UInt8)
  | .tx _ f _ => some (f.cmd, f.payload)
  | .txRejected f => some (f.cmd, f.payload)
  | _ => none

def opSent (out : List Out) : List (UInt8 × List UInt8) :=
  (out.filterMap Out.command?).filter (fun c => decide (c.1 ∈ opCommands))

def Out.report? : Out → Option Signal
  | .signal (.connectionChanged connected) => some (.connectionChanged connected)
  | .signal .fwUpdateComplete => some .fwUpdateComplete
  | _ => none

def reports (out : List Out) : List Signal := out.filterMap Out.report?

theorem opSent_append (a b : List Out) : opSent (a ++ b) = opSent a ++ opSent b := by
  unfold opSent
  rw [List.filterMap_append, List.filter_append]

/-! ## The primitives -/

@[simp] theorem Dev.emit_ops (d : Dev) (s : Signal) : (d.emit s).ops = d.ops := rfl
@[simp] theorem Dev.emit_env (d : Dev) (s : Signal) : (d.emit s).env = d.env := rfl
@[simp] theorem Dev.emit_link (d : Dev) (s : Signal) : (d.emit s).link = d.link := rfl
@[simp] theorem Dev.emit_keep (d : Dev) (s : Signal) : (d.emit s).keep = d.keep := rfl
@[simp] theorem Dev.put_ops (d : Dev) (o : Out) : (d.put o).ops = d.ops := rfl
@[simp] theorem Dev.put_link (d : Dev) (o : Out) : (d.put o).link = d.link := rfl
@[simp] theorem Dev.put_keep (d : Dev) (o : Out) : (d.put o).keep = d.keep := rfl
@[simp] theorem Dev.startShot_ops (d : Dev) (s : Shot) : (d.startShot s).ops = d.ops := rfl
@[simp] theorem Dev.startShot_link (d : Dev) (s : Shot) : (d.startShot s).link = d.link := rfl
@[simp] theorem Dev.startShot_keep (d : Dev) (s : Shot) : (d.startShot s).keep = d.keep := rfl
@[simp] theorem Dev.startShot_out (d : Dev) (s : Shot) : (d.startShot s).out = d.out := rfl
@[simp] theorem Dev.resetCodec_ops (d : Dev) : d.resetCodec.ops = d.ops := rfl
@[simp] theorem Dev.resetCodec_link (d : Dev) : d.resetCodec.link = d.link := rfl
@[simp] theorem Dev.resetCodec_keep (d : Dev) : d.resetCodec.keep = d.keep := rfl
@[simp] theorem Dev.resetCodec_out (d : Dev) : d.resetCodec.out = d.out := rfl
@[simp] theorem Dev.setTransfer_ops (d : Dev) (k : Kind) (t : Transfer) :
    (d.setTransfer k t).ops = d.ops.set k t := rfl
@[simp] theorem Dev.setTransfer_link (d : Dev) (k : Kind) (t : Transfer) :
    (d.setTransfer k t).link = d.link := rfl
@[simp] theorem Dev.setTransfer_keep (d : Dev) (k : Kind) (t : Transfer) :
    (d.setTransfer k t).keep = d.keep := rfl
@[simp] theorem Dev.setTransfer_out (d : Dev) (k : Kind) (t : Transfer) :
    (d.setTransfer k t).out = d.out := rfl

@[simp] theorem Dev.get_setTransfer (d : Dev) (k k' : Kind) (t : Transfer) :
    (d.setTransfer k t).get k' = if k' = k then t else d.get k' :=
  Operations.get_set d.ops k k' t

/-- what one output adds, for every way to read the outputs -/
theorem Dev.filterMap_put {α : Type} (read : Out → Option α) (d : Dev) (o : Out) :
    (d.put o).out.filterMap read = d.out.filterMap read ++ (read o).toList := by
  show List.filterMap _ (d.out ++ [o]) = _
  rw [List.filterMap_append, List.filterMap_eq_flatMap_toList read [o], List.flatMap_singleton]

theorem Dev.opSent_put (d : Dev) (o : Out) :
    opSent (d.put o).out = opSent d.out ++ opSent [o] := opSent_append d.out [o]

@[simp] theorem Dev.opSent_put_none (d : Dev) {o : Out} (h : o.command? = none) :
    opSent (d.put o).out = opSent d.out := by
  unfold opSent
  rw [d.filterMap_put, h, Option.toList_none, List.append_nil]

@[simp] theorem Dev.reports_put (d : Dev) (o : Out) :
    reports (d.put o).out = reports d.out ++ o.report?.toList := d.filterMap_put _ o

@[simp] theorem Dev.reports_emit (d : Dev) (s : Signal) :
    reports (d.emit s).out = reports d.out ++ (Out.signal s).report?.toList :=
  d.reports_put _

@[simp] theorem Dev.opSent_emit (d : Dev) (s : Signal) :
    opSent (d.emit s).out = opSent d.out := d.opSent_put_none rfl

/-- one output is added, and it carries the command -/
theorem Dev.sendCommand_eq (d : Dev) (cmd : UInt8) (payload : List UInt8) :
    ∃ o, o.command? = some (cmd, payload) ∧ o.report? = none ∧
      d.sendCommand cmd payload = Dev.put { d with seqCounter := d.seqCounter + 1 } o := by
  unfold Dev.sendCommand Dev.transportSend
  cases d.link.transport with
  | serial =>
    cases d.link.serialOpen with
    | true => exact ⟨.tx .serial ⟨cmd, d.seqCounter, payload⟩ d.crc.txDialect, rfl, rfl, rfl⟩
    | false => exact ⟨.txRejected ⟨cmd, d.seqCounter, payload⟩, rfl, rfl, rfl⟩
  | wifi => exact ⟨.tx .wifi ⟨cmd, d.seqCounter, payload⟩ d.crc.txDialect, rfl, rfl, rfl⟩

section
variable (d : Dev) (cmd : UInt8) (payload : List UInt8)

@[simp] theorem Dev.sendCommand_ops : (d.sendCommand cmd payload).ops = d.ops := by
  obtain ⟨o, -, -, h⟩ := d.sendCommand_eq cmd payload
  rw [h]; rfl

@[simp] theorem Dev.sendCommand_env : (d.sendCommand cmd payload).env = d.env := by
  obtain ⟨o, -, -, h⟩ := d.sendCommand_eq cmd payload
  rw [h]; rfl

@[simp] theorem Dev.sendCommand_link : (d.sendCommand cmd payload).link = d.link := by
  obtain ⟨o, -, -, h⟩ := d.sendCommand_eq cmd payload
  rw [h]; rfl

@[simp] theorem Dev.sendCommand_keep : (d.sendCommand cmd payload).keep = d.keep := by
  obtain ⟨o, -, -, h⟩ := d.sendCommand_eq cmd payload
  rw [h]; rfl

@[simp] theorem Dev.opSent_sendCommand :
    opSent (d.sendCommand cmd payload).out
      = opSent d.out ++ if cmd ∈ opCommands then [(cmd, payload)] else [] := by
  obtain ⟨o, ho, -, h⟩ := d.sendCommand_eq cmd payload
  rw [h, Dev.opSent_put]
  congr 1
  unfold opSent
  rw [List.filterMap_cons_some ho, List.filterMap_nil, List.filter_cons, List.filter_nil]
  simp only [decide_eq_true_eq]

@[simp] theorem Dev.reports_sendCommand :
    reports (d.sendCommand cmd payload).out = reports d.out := by
  obtain ⟨o, -, ho, h⟩ := d.sendCommand_eq cmd payload
  rw [h, Dev.reports_put, ho]
  exact List.append_nil _

end

@[simp] theorem Dev.fileCommand_ops (d : Dev) (cmd : UInt8) (payload : List UInt8) :
    (d.fileCommand cmd payload).ops = { d.ops with pendingFileCmd := cmd } :=
  Dev.sendCommand_ops _ _ _

@[simp] theorem Dev.emitAll_ops (l : List Signal) (d : Dev) : (d.emitAll l).ops = d.ops := by
  induction l generalizing d with
  | nil => rfl
  | cons s l ih => exact ih (d.emit s)

@[simp] theorem Dev.emitAll_link (l : List Signal) (d : Dev) : (d.emitAll l).link = d.link := by
  induction l generalizing d with
  | nil => rfl
  | cons s l ih => exact ih (d.emit s)

@[simp] theorem Dev.emitAll_keep (l : List Signal) (d : Dev) : (d.emitAll l).keep = d.keep := by
  induction l generalizing d with
  | nil => rfl
  | cons s l ih => exact ih (d.emit s)

@[simp] theorem Dev.opSent_emitAll (l : List Signal) (d : Dev) :
    opSent (d.emitAll l).out = opSent d.out := by
  induction l generalizing d with
  | nil => rfl
  | cons s l ih => exact (ih (d.emit s)).trans (d.opSent_emit s)

@[simp] theorem Dev.suspendKeepalive_ops (d : Dev) : d.suspendKeepalive.ops = d.ops := by
  unfold Dev.suspendKeepalive; split <;> rfl

@[simp] theorem Dev.suspendKeepalive_out (d : Dev) : d.suspendKeepalive.out = d.out := by
  unfold Dev.suspendKeepalive; split <;> rfl

@[simp] theorem Dev.resumeKeepaliveIfIdle_ops (d : Dev) :
    d.resumeKeepaliveIfIdle.ops = d.ops := by
  unfold Dev.resumeKeepaliveIfIdle; split <;> try split <;> try split
  all_goals rfl

@[simp] theorem Dev.resumeKeepaliveIfIdle_link (d : Dev) :
    d.resumeKeepaliveIfIdle.link = d.link := by
  unfold Dev.resumeKeepaliveIfIdle; split <;> try split <;> try split
  all_goals rfl

@[simp] theorem Dev.resumeKeepaliveIfIdle_out (d : Dev) :
    d.resumeKeepaliveIfIdle.out = d.out := by
  unfold Dev.resumeKeepaliveIfIdle; split <;> try split <;> try split
  all_goals rfl

/-! ## Quiet functions -/

structure Quiet (d d' : Dev) : Prop where
  ops : d'.ops = d.ops
  sent : opSent d'.out = opSent d.out
  reports : reports d'.out = reports d.out

theorem Quiet.refl (d : Dev) : Quiet d d := ⟨rfl, rfl, rfl⟩

theorem Quiet.trans {a b c : Dev} (h : Quiet a b) (h' : Quiet b c) : Quiet a c :=
  ⟨h'.ops.trans h.ops, h'.sent.trans h.sent, h'.reports.trans h.reports⟩

theorem Quiet.send (d : Dev) {cmd : UInt8} (h : cmd ∉ opCommands) (payload : List UInt8) :
    Quiet d (d.sendCommand cmd payload) := ⟨by simp, by simp [h], by simp⟩

theorem Quiet.put (d : Dev) {o : Out} (hc : o.command? = none) (hr : o.report? = none) :
    Quiet d (d.put o) := ⟨rfl, d.opSent_put_none hc, by simp [hr]⟩

theorem Quiet.emit (d : Dev) {s : Signal} (hr : (Out.signal s).report? = none) :
    Quiet d (d.emit s) := .put d rfl hr

theorem startSession_quiet (d : Dev) : Quiet d d.startSession := by
  constructor <;> simp +decide [Dev.startSession]

theorem startScreenStream_quiet (fps : Int) (d : Dev) : Quiet d (d.startScreenStream fps) := by
  unfold Dev.startScreenStream
  constructor <;> cases d.onWifi <;> simp +decide [Out.report?]

theorem stopScreenStream_quiet (d : Dev) : Quiet d d.stopScreenStream := by
  unfold Dev.stopScreenStream
  constructor <;> cases d.onWifi <;> simp +decide [Out.report?]

/-! ## The loss of the link -/

/-- what the loss of the link makes of a transfer -/
def Transfer.dropped (t : Transfer) : Transfer :=
  if t.state ≠ .Idle then { t with timeout := none, state := .Idle, data := [] }
  else { t with timeout := none }

/-- what the loss of the link makes of the operations -/
def Operations.reset (o : Operations) : Operations :=
  { o with
    fwUpdate := o.fwUpdate.dropped
    espUpdate := o.espUpdate.dropped
    fileUpload := o.fileUpload.dropped
    espUpdateStaleNack := false
    uploadQueue := []
    uploadQueueIndex := -1
    mkdirQueue := []
    mkdirQueueIndex := -1
    bankSwapPending := false
    sdMounted := true }

theorem Transfer.dropped_state (t : Transfer) : t.dropped.state = .Idle := by
  unfold Transfer.dropped
  split
  · rfl
  · rename_i h
    exact not_not.mp h

theorem Transfer.dropped_dropped (t : Transfer) : t.dropped.dropped = t.dropped := by
  have h := t.dropped_state
  have ht : t.dropped.timeout = none := by unfold Transfer.dropped; split <;> rfl
  rw [Transfer.dropped, if_neg (not_not.mpr h), ← ht]

theorem Operations.reset_reset (o : Operations) : o.reset.reset = o.reset := by
  simp [Operations.reset, Transfer.dropped_dropped]

theorem Operations.get_reset (o : Operations) (k : Kind) : o.reset.get k = (o.get k).dropped := by
  cases k <;> rfl

/-- the operations follow the reports of the link -/
structure Linked (d d' : Dev) : Prop where
  sent : opSent d'.out = opSent d.out
  ops : ∃ bs : List Bool, reports d'.out = reports d.out ++ bs.map Signal.connectionChanged ∧
    d'.ops = if false ∈ bs then d.ops.reset else d.ops

theorem Quiet.linked {d d' : Dev} (h : Quiet d d') : Linked d d' :=
  ⟨h.sent, [], by simp [h.reports], by simpa using h.ops⟩

theorem Linked.trans {a b c : Dev} (h : Linked a b) (h' : Linked b c) : Linked a c := by
  obtain ⟨bs, hr, ho⟩ := h.ops
  obtain ⟨bs', hr', ho'⟩ := h'.ops
  refine ⟨h'.sent.trans h.sent, bs ++ bs', by simp [hr', hr], ?_⟩
  rw [ho', ho]
  by_cases h1 : false ∈ bs <;> by_cases h2 : false ∈ bs' <;>
    simp [h1, h2, Operations.reset_reset]

@[simp] theorem dropTransfer_ops (k : Kind) (err : Signal) (d : Dev) :
    (d.dropTransfer k err).ops = d.ops.set k (d.get k).dropped := by
  unfold Dev.dropTransfer Transfer.dropped
  split <;> rfl

@[simp] theorem dropTransfer_sent (k : Kind) (err : Signal) (d : Dev) :
    opSent (d.dropTransfer k err).out = opSent d.out := by
  unfold Dev.dropTransfer Dev.endTransfer
  split <;> simp

theorem dropTransfer_reports (k : Kind) (err : Signal) (d : Dev) :
    reports (d.dropTransfer k err).out = reports d.out
      ++ if (d.get k).state ≠ .Idle then (Out.signal err).report?.toList else [] := by
  unfold Dev.dropTransfer Dev.endTransfer
  split <;> simp

theorem scheduleSerialReconnect_quiet (portName : String) (delayMs : Int) (d : Dev) :
    Quiet d (d.scheduleSerialReconnect portName delayMs) := by
  unfold Dev.scheduleSerialReconnect
  split
  · exact .refl d
  · split <;> exact ⟨rfl, rfl, rfl⟩

theorem planReconnect_quiet (lastPort : String) (d : Dev) : Quiet d (d.planReconnect lastPort) := by
  unfold Dev.planReconnect
  split
  · split
    · cases d.link.mdns with
      | true => exact Quiet.trans (.put d rfl rfl) ⟨rfl, rfl, rfl⟩
      | false => exact ⟨rfl, rfl, rfl⟩
    · exact .refl d
  · split
    · refine Quiet.trans ?_ (scheduleSerialReconnect_quiet _ _ _)
      exact Quiet.trans (.put d rfl rfl) ⟨rfl, rfl, rfl⟩
    · exact .refl d

theorem onTransportConnected_true (d : Dev) : Linked d (d.onTransportConnected true) := by
  have report (d1 : Dev) (h : Quiet d d1) : Linked d (d1.emit (.connectionChanged true)) := by
    refine ⟨by rw [Dev.opSent_emit, h.sent], [true], ?_, ?_⟩
    · rw [Dev.reports_emit, h.reports]; rfl
    · simpa using h.ops
  unfold Dev.onTransportConnected
  apply report
  have h1 : Quiet d (if d.onWifi = true then { d with link := { d.link with
      wifiWasConnected := true, wifiReconnectAttempts := 0, wifiReconnectTimer := none } }
      else d) := by
    split <;> exact ⟨rfl, rfl, rfl⟩
  have h2 (d2 : Dev) : Quiet d2 (if d2.link.pendingSessionStart = true then
      Dev.startSession { d2 with link := { d2.link with pendingSessionStart := false } }
      else d2) := by
    split
    · refine Quiet.trans ?_ (startSession_quiet _)
      exact ⟨rfl, rfl, rfl⟩
    · exact .refl d2
  have h3 (d3 : Dev) : Quiet d3 (if d3.onWifi = true ∧ d3.screen.wanted = true then
      d3.startShot .rearmScreen else d3) := by
    split <;> exact ⟨rfl, rfl, rfl⟩
  exact (h1.trans (h2 _)).trans (h3 _)

theorem onTransportConnected_false_ops (d : Dev) :
    (d.onTransportConnected false).ops = d.ops.reset := by
  simp [Dev.onTransportConnected, (planReconnect_quiet _ _).ops, Operations.reset,
    Operations.set, Dev.get, Operations.get]

theorem onTransportConnected_false (d : Dev) : Linked d (d.onTransportConnected false) := by
  refine ⟨?_, [false], ?_, ?_⟩
  · simp [Dev.onTransportConnected, (planReconnect_quiet _ _).sent]
  · simp [Dev.onTransportConnected, (planReconnect_quiet _ _).reports, dropTransfer_reports,
      Out.report?]
  · simpa using onTransportConnected_false_ops d

/-! ## Opening, closing and connecting -/

theorem Linked.refl (d : Dev) : Linked d d := (Quiet.refl d).linked

theorem serialClose_linked (d : Dev) : Linked d d.serialClose := by
  unfold Dev.serialClose
  split
  · dsimp only
    split
    · exact Quiet.linked ⟨rfl, rfl, rfl⟩
    · refine Linked.trans ?_ (onTransportConnected_false _)
      exact Quiet.linked ⟨rfl, rfl, rfl⟩
  · exact .refl d

theorem serialOpenPort_linked (portName : String) (d : Dev) :
    Linked d (d.serialOpenPort portName).1 := by
  have h1 (l : Dev → Link) : Linked d { d.serialClose with link := l d.serialClose } :=
    (serialClose_linked d).trans (Quiet.linked ⟨rfl, rfl, rfl⟩)
  unfold Dev.serialOpenPort
  dsimp only
  split
  · refine Linked.trans ?_ (onTransportConnected_true _)
    exact h1 fun d => { d.link with
      serialPort := d.link.shortPortName portName, serialOpen := true }
  · refine Linked.trans ?_ (Quiet.emit _ rfl).linked
    exact h1 fun d => { d.link with serialPort := d.link.shortPortName portName }

theorem transportClose_linked (d : Dev) : Linked d d.transportClose := by
  unfold Dev.transportClose
  split
  · exact (Quiet.put d rfl rfl).linked
  · exact serialClose_linked d

theorem wifiOpen_quiet (target : String) (d : Dev) : Quiet d (d.wifiOpen target).1 := by
  unfold Dev.wifiOpen
  split
  · exact .emit d rfl
  · refine Quiet.trans ?_ (.put _ rfl rfl)
    exact ⟨rfl, rfl, rfl⟩

theorem connectToDevice_linked (portName : String) (d : Dev) :
    Linked d (d.connectToDevice portName).1 := by
  have h1 : Linked d ((d.setTransport .serial).serialOpenPort portName).1 := by
    refine Linked.trans ?_ (serialOpenPort_linked _ _)
    exact Quiet.linked ⟨rfl, rfl, rfl⟩
  unfold Dev.connectToDevice
  dsimp only
  split
  · refine Linked.trans ?_ (startSession_quiet _).linked
    exact h1.trans (Quiet.linked ⟨rfl, rfl, rfl⟩)
  · exact h1

theorem connectToDeviceWifi_quiet (hostPort : String) (d : Dev) :
    Quiet d (d.connectToDeviceWifi hostPort) := by
  unfold Dev.connectToDeviceWifi
  dsimp only
  split
  · refine Quiet.trans ?_ (wifiOpen_quiet _ _)
    exact ⟨rfl, rfl, rfl⟩
  · have h := wifiOpen_quiet hostPort { d.clearSerialReconnect with
      link := { d.clearSerialReconnect.link with
        wifiCreated := true, transport := .wifi, wifiTarget := hostPort
        userDisconnecting := false, pendingSessionStart := true } }
    exact ⟨h.ops, h.sent, h.reports⟩

theorem disconnect_linked (d : Dev) : Linked d d.disconnect := by
  have stop (d1 : Dev) : Quiet d1 (if d1.screen.streaming then d1.stopScreenStream else d1) := by
    split
    · exact stopScreenStream_quiet d1
    · exact .refl d1
  have close (d2 : Dev) : Linked d2 d2.transportClose.resetCodec :=
    (transportClose_linked d2).trans (Quiet.linked ⟨rfl, rfl, rfl⟩)
  unfold Dev.disconnect
  refine Linked.trans (Quiet.linked ?_) (close _)
  refine Quiet.trans (Quiet.trans ?_ (stop _)) ⟨rfl, rfl, rfl⟩
  exact ⟨rfl, rfl, rfl⟩

theorem setPreferredSerialPort_quiet (portName : String) (d : Dev) :
    Quiet d (d.setPreferredSerialPort portName) := by
  unfold Dev.setPreferredSerialPort
  dsimp only
  generalize trimmed portName = port
  split <;> exact ⟨rfl, rfl, rfl⟩

theorem trySerialReconnect_linked (d : Dev) : Linked d d.trySerialReconnect := by
  unfold Dev.trySerialReconnect
  split
  · exact .refl d
  · split
    · exact Quiet.linked ⟨rfl, rfl, rfl⟩
    · have h1 (l : Link) : Linked d
          (Dev.connectToDevice l.serialReconnectPort { d with link := l }).1 := by
        refine Linked.trans ?_ (connectToDevice_linked _ _)
        exact Quiet.linked ⟨rfl, rfl, rfl⟩
      dsimp only
      split
      · exact h1 _
      · exact (h1 _).trans (Quiet.linked ⟨rfl, rfl, rfl⟩)

theorem tryWifiReconnect_quiet (d : Dev) : Quiet d d.tryWifiReconnect := by
  unfold Dev.tryWifiReconnect
  split
  · exact .refl d
  · refine Quiet.trans ?_ (connectToDeviceWifi_quiet _ _)
    exact ⟨rfl, rfl, rfl⟩

theorem onDeviceFound_linked (portName : String) (d : Dev) :
    Linked d (d.onDeviceFound portName) := by
  unfold Dev.onDeviceFound
  split
  · exact .refl d
  · split
    · exact .refl d
    · split
      · exact Quiet.linked ⟨rfl, rfl, rfl⟩
      · dsimp only
        split
        · exact connectToDevice_linked portName d
        · refine Linked.trans ?_ (scheduleSerialReconnect_quiet _ _ _).linked
          exact (connectToDevice_linked portName d).trans (Quiet.linked ⟨rfl, rfl, rfl⟩)

theorem onDeviceLost_linked (portName : String) (d : Dev) :
    Linked d (d.onDeviceLost portName) := by
  unfold Dev.onDeviceLost
  split
  · refine Linked.trans ?_ (transportClose_linked _)
    exact Quiet.linked ⟨rfl, rfl, rfl⟩
  · exact .refl d

theorem onServiceFound_quiet (address : String) (port : Int) (d : Dev) :
    Quiet d (d.onServiceFound address port) := by
  unfold Dev.onServiceFound
  split <;> exact ⟨rfl, rfl, rfl⟩

theorem onWorkerConnected_linked (d : Dev) : Linked d d.onWorkerConnected := by
  unfold Dev.onWorkerConnected
  dsimp only
  split
  · refine Linked.trans ?_ (onTransportConnected_true _)
    exact Quiet.linked ⟨rfl, rfl, rfl⟩
  · exact Quiet.linked ⟨rfl, rfl, rfl⟩

theorem onWorkerDisconnected_linked (d : Dev) : Linked d d.onWorkerDisconnected := by
  unfold Dev.onWorkerDisconnected
  split
  · dsimp only
    split
    · refine Linked.trans ?_ (onTransportConnected_false _)
      exact Quiet.linked ⟨rfl, rfl, rfl⟩
    · exact Quiet.linked ⟨rfl, rfl, rfl⟩
  · exact .refl d

theorem onPingTimer_linked (d : Dev) : Linked d d.onPingTimer := by
  have stop (d1 : Dev) : Quiet d1 (if d1.screen.streaming then d1.stopScreenStream else d1) := by
    split
    · exact stopScreenStream_quiet d1
    · exact .refl d1
  unfold Dev.onPingTimer
  split
  · exact .refl d
  · dsimp only
    split
    · refine Linked.trans (Quiet.linked ?_) (transportClose_linked _)
      refine Quiet.trans ?_ (stop { d with
        keep := { d.keep with missedPongs := d.keep.missedPongs + 1 } })
      exact ⟨rfl, rfl, rfl⟩
    · refine Quiet.linked (Quiet.trans ?_ (.send _ (by decide) []))
      exact ⟨rfl, rfl, rfl⟩

theorem setDeviceLogVerbose_quiet (on : Bool) (d : Dev) : Quiet d (d.setDeviceLogVerbose on) := by
  unfold Dev.setDeviceLogVerbose
  refine Quiet.trans ?_ (.emit _ rfl)
  split
  · refine Quiet.trans ?_ (.send _ (by decide) _)
    exact ⟨rfl, rfl, rfl⟩
  · exact ⟨rfl, rfl, rfl⟩

theorem resolveDialect_quiet (d : Dev) : Quiet d d.resolveDialect := by
  unfold Dev.resolveDialect
  split
  · refine Quiet.trans (Quiet.trans ?_ (.emit _ rfl)) (.send _ (by decide) [])
    split
    · refine Quiet.trans ?_ (.emit _ rfl)
      exact ⟨rfl, rfl, rfl⟩
    · exact ⟨rfl, rfl, rfl⟩
  · exact .refl d

theorem handlePong_quiet (d : Dev) : Quiet d d.handlePong := by
  unfold Dev.handlePong
  refine Quiet.trans ?_ (.emit _ rfl)
  exact ⟨rfl, rfl, rfl⟩

theorem handleDeviceInfoResp_quiet (payload : List UInt8) (d : Dev) :
    Quiet d (d.handleDeviceInfoResp payload) := by
  unfold Dev.handleDeviceInfoResp
  split
  · exact .refl d
  · refine Quiet.trans ?_ (.emit _ rfl)
    exact ⟨rfl, rfl, rfl⟩

theorem handleFileReadData_quiet (payload : List UInt8) (d : Dev) :
    Quiet d (d.handleFileReadData payload) := by
  unfold Dev.handleFileReadData
  split
  · exact .refl d
  · dsimp only
    split
    · split
      · refine Quiet.trans (Quiet.trans ?_ (.put _ rfl rfl)) (.emit _ rfl)
        exact ⟨rfl, rfl, rfl⟩
      · refine Quiet.trans ?_ (.emit _ rfl)
        exact ⟨rfl, rfl, rfl⟩
    · exact ⟨rfl, rfl, rfl⟩

end QMon.Device
