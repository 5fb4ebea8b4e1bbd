import QMonstatek.Device.Session
import QMonstatek.Lib.Run

/-!
# Events and runs

`Call`         the calls of the user interface;
`Event`        everything that makes a handler of `M1Device` run;
`step e d`     the state after the handler of `e`, with what it put out in `out`;
`Reachable d`  `d` is the state after some run from `init`.

The signals of a handler reach the user interface when it ends, so a call made in answer to a
signal is an event of its own.
-/

namespace QMon.Device
open Rpc

inductive Call where
  | connectToDevice (portName : String)
  | connectToDeviceWifi (hostPort : String)
  | disconnect
  | setPreferredSerialPort (portName : String)
  | setDeviceLogVerbose (on : Bool)
  | requestDeviceInfo
  | startScreenStream (fps : Int)
  | stopScreenStream
  | captureScreen
  | buttonPress (buttonId : Int)
  | buttonRelease (buttonId : Int)
  | buttonClick (buttonId : Int)
  | sendCliCommand (command : String)
  | sendEspUartSnoop
  | requestFileList (path : String)
  | downloadFile (remotePath localPath : String)
  | uploadFile (localPath remotePath : String)
  | uploadFiles (fileUrls : List String) (remotePath : String)
  | uploadFolder (localFolderUrl remotePath : String)
  | deleteFile (remotePath : String)
  | deleteTree (remotePath : String)
  | renameFile (oldPath newPath : String)
  | makeDirectory (remotePath : String)
  | mountSdCard
  | unmountSdCard
  | requestFwInfo
  | startFwUpdate (binFilePath : String)
  | swapBanks
  | eraseInactiveBank
  | enterDfu
  | reboot
  | shutdown
  | requestEspInfo
  | initEsp32
  | rebootEsp32
  | startEspUpdate (binFilePath : String) (flashAddr : UInt32) (force : Bool)
  deriving DecidableEq, Repr

/-- the timers of the device object -/
inductive TimerId where
  | ping
  | transfer (k : Kind)
  | wifiReconnect
  | serialReconnect
  deriving DecidableEq, Repr

inductive Event where
  | call (c : Call)
  /-- a frame whose CRC matched the table of dialect `dialect`; over WiFi the worker validated it
  earlier -/
  | frame (f : Frame) (dialect : CrcDialect)
  /-- the worker validates a frame -/
  | workerValidated (dialect : CrcDialect)
  | expire (t : TimerId)
  | shot (s : Shot)
  /-- `ResourceError` of the serial port -/
  | serialError
  /-- any other error text of the active transport -/
  | transportError (msg : String)
  | workerConnected
  | workerDisconnected
  | screenPortReady (port : UInt16)
  | inboundActivity
  | deviceFound (portName : String)
  | deviceLost (portName : String)
  | setMdnsDiscovery (present : Bool)
  | serviceFound (address : String) (port : Int)
  /-- time passes, files change, ports come and go -/
  | env (e : Env)

def Dev.call (c : Call) (d : Dev) : Dev :=
  match c with
  | .connectToDevice p => (d.connectToDevice p).1
  | .connectToDeviceWifi hp => d.connectToDeviceWifi hp
  | .disconnect => d.disconnect
  | .setPreferredSerialPort p => d.setPreferredSerialPort p
  | .setDeviceLogVerbose on => d.setDeviceLogVerbose on
  | .requestDeviceInfo => d.requestDeviceInfo
  | .startScreenStream fps => d.startScreenStream fps
  | .stopScreenStream => d.stopScreenStream
  | .captureScreen => d.captureScreen
  | .buttonPress b => d.buttonPress b
  | .buttonRelease b => d.buttonRelease b
  | .buttonClick b => d.buttonClick b
  | .sendCliCommand c => d.sendCliCommand c
  | .sendEspUartSnoop => d.sendEspUartSnoop
  | .requestFileList p => d.requestFileList p
  | .downloadFile r l => d.downloadFile r l
  | .uploadFile l r => d.uploadFile l r
  | .uploadFiles us r => d.uploadFiles us r
  | .uploadFolder u r => d.uploadFolder u r
  | .deleteFile r => d.deleteFile r
  | .deleteTree r => d.deleteTree r
  | .renameFile o n => d.renameFile o n
  | .makeDirectory r => d.makeDirectory r
  | .mountSdCard => d.mountSdCard
  | .unmountSdCard => d.unmountSdCard
  | .requestFwInfo => d.requestFwInfo
  | .startFwUpdate p => d.startFwUpdate p
  | .swapBanks => d.swapBanks
  | .eraseInactiveBank => d.eraseInactiveBank
  | .enterDfu => d.enterDfu
  | .reboot => d.reboot
  | .shutdown => d.shutdown
  | .requestEspInfo => d.requestEspInfo
  | .initEsp32 => d.initEsp32
  | .rebootEsp32 => d.rebootEsp32
  | .startEspUpdate p addr force => d.startEspUpdate p addr force

/-! ## Timers and single shots -/

def Dev.timer (t : TimerId) (d : Dev) : Timer :=
  match t with
  | .ping => d.keep.pingTimer
  | .transfer k => (d.get k).timeout
  | .wifiReconnect => d.link.wifiReconnectTimer
  | .serialReconnect => d.link.serialReconnectTimer

/-- a transfer's timeout: the timer is single-shot, so it is stopped when its slot runs -/
def Dev.onTransferTimeout (k : Kind) (d : Dev) : Dev :=
  let d := d.setTransfer k { d.get k with timeout := none }
  match k with
  | .fwUpdate => d.onFwUpdateTimeout
  | .espUpdate => d.onEspUpdateTimeout
  | .fileUpload => d.onFileUploadTimeout

def Dev.expire (t : TimerId) (d : Dev) : Dev :=
  if d.timer t = none then d
  else match t with
    | .ping => d.onPingTimer
    | .transfer k => d.onTransferTimeout k
    | .wifiReconnect =>
      Dev.tryWifiReconnect { d with link := { d.link with wifiReconnectTimer := none } }
    | .serialReconnect =>
      Dev.trySerialReconnect { d with link := { d.link with serialReconnectTimer := none } }

def Dev.shot (s : Shot) (d : Dev) : Dev :=
  if s ∉ d.shots then d
  else
    let d := { d with shots := d.shots.erase s }
    match s with
    | .requestDeviceInfo => d.requestDeviceInfo
    | .closeLink => if d.isConnected then d.transportClose else d
    | .rearmScreen =>
      if d.screen.wanted ∧ d.isConnected then d.startScreenStream d.screen.fps else d
    | .trySerialReconnect => d.trySerialReconnect

/-! ## Steps -/

/-- `crc16ValidateRx` for a frame over USB -/
def Dev.validated (dialect : CrcDialect) (d : Dev) : Dev :=
  { d with crc := if d.onWifi then d.crc else latchDialect dialect d.crc }

def Dev.handle (e : Event) (d : Dev) : Dev :=
  match e with
  | .call c => d.call c
  | .frame f dialect =>
    if d.isConnected then Dev.onFrameReceived f (d.validated dialect) else d
  | .workerValidated dialect =>
    if d.link.wifiCreated then { d with crc := latchDialect dialect d.crc } else d
  | .expire t => d.expire t
  | .shot s => d.shot s
  | .serialError => d.serialClose
  | .transportError msg => d.emit (.errorOccurred msg)
  | .workerConnected => if d.link.wifiCreated then d.onWorkerConnected else d
  | .workerDisconnected => d.onWorkerDisconnected
  | .screenPortReady port =>
    if d.link.wifiCreated then { d with link := { d.link with wifiUdpPort := port } } else d
  | .inboundActivity =>
    if d.onWifi then { d with keep := { d.keep with lastInboundMs := d.env.now } } else d
  | .deviceFound p => d.onDeviceFound p
  | .deviceLost p => d.onDeviceLost p
  | .setMdnsDiscovery present => { d with link := { d.link with mdns := present } }
  | .serviceFound address port => if d.link.mdns then d.onServiceFound address port else d
  | .env e => { d with env := e }

def Dev.fresh (d : Dev) : Dev := { d with out := [] }

def step (e : Event) (d : Dev) : Dev := d.fresh.handle e

/-- the device object as constructed, before any event -/
def init : Dev := {}

def Reachable (d : Dev) : Prop := ∃ es, d = Run.exec step es init

/-- **Invariant rule for the reachable states.** -/
theorem Reachable.induct {I : Dev → Prop} (h0 : I init) (hstep : ∀ e d, I d → I (step e d))
    {d : Dev} (h : Reachable d) : I d := by
  obtain ⟨es, rfl⟩ := h
  exact Run.exec_inv step hstep es init h0

theorem Reachable.exec (es : List Event) : Reachable (Run.exec step es init) := ⟨es, rfl⟩

end QMon.Device
