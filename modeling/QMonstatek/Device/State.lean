import QMonstatek.Protocol.Frame
import QMonstatek.Device.Info

/-!
# The state of `M1Device`

`Dev` is the device facade with the two transports it owns: the members of `m1_device.h` in
groups (operations, keepalive, link, screen, download), what Qt and the operating system answer
(`Env`), the dialect session of `crc16.cpp`, and the outputs of the handler that runs (`out`).

A member function is a function `Dev → Dev`.  A handler runs to completion before the next
event: signals and frames are collected in `out`, in order, and reach their receivers afterwards.
A `QTimer` is `some ms` while it is active, with the interval of its last `start`.
-/

namespace QMon.Device
open Rpc

/-- a `QTimer`: the interval it runs with, `none` while it is stopped -/
abbrev Timer := Option Nat

/-! ## What is outside -/

/-- one item `QDirIterator` reports -/
structure FolderEntry where
  filePath : String
  /-- `baseDir.relativeFilePath(filePath)` -/
  relPath : String
  isDir : Bool

/-- an existing local folder -/
structure LocalFolder where
  dirName : String
  entries : List FolderEntry

/-- what the clock, the disk and the ports answer at this moment -/
structure Env where
  /-- `QDateTime::currentMSecsSinceEpoch()` -/
  now : Int := 0
  /-- `QFile::open(ReadOnly)` and `readAll()`, `none` if the file cannot be opened -/
  readFile : String → Option (List UInt8) := fun _ => none
  /-- whether `QFile::open(WriteOnly)` succeeds -/
  canWrite : String → Bool := fun _ => false
  /-- whether `QSerialPort::open(ReadWrite)` succeeds -/
  serialOpens : String → Bool := fun _ => false
  /-- `errorString()` of a failed open, with the permission hint where there is one -/
  serialErrorString : String → String := fun _ => ""
  /-- `QDir(path)`, `none` if it does not exist -/
  folder : String → Option LocalFolder := fun _ => none
  /-- `QUrl(url).toLocalFile()` -/
  toLocalFile : String → String := fun _ => ""

/-! ## Signals and outputs -/

/-- the signals of `M1Device` that the modelled functions emit -/
inductive Signal where
  | connectionChanged (connected : Bool)
  | deviceInfoUpdated
  | screenStreamingChanged (streaming : Bool)
  | pongReceived (latencyMs : Int)
  | deviceLogVerboseChanged (on : Bool)
  | legacyCompatModeChanged (legacy : Bool)
  | legacyFirmwareDetected
  | fileDownloadComplete (localPath : String)
  | fileUploadProgress (percent : Int)
  | fileUploadComplete
  | fileDeleteComplete
  | fileRenameComplete
  | fileMkdirComplete
  | fileOperationError (message : String)
  | multiUploadProgress (fileIndex totalFiles : Nat) (fileName : String)
  | multiUploadComplete (totalFiles : Nat)
  | sdMountChanged (mounted : Bool)
  | fwUpdateProgress (percent : Int)
  | fwUpdateComplete
  | fwUpdateError (message : String)
  | bankSwapStarted
  | bankSwapError (message : String)
  | bankEraseComplete
  | bankEraseError (message : String)
  | espUpdateProgress (percent : Int)
  | espUpdateStatus (status : String)
  | espUpdateComplete
  | espUpdateError (message : String)
  | errorOccurred (message : String)
  deriving DecidableEq, Repr

inductive Transport where
  | serial
  | wifi
  deriving DecidableEq, Repr

/-- what a handler does to the world outside -/
inductive Out where
  | signal (s : Signal)
  /-- a frame handed to the open serial port or to the WiFi worker, built with dialect `d` -/
  | tx (via : Transport) (f : Frame) (d : CrcDialect)
  /-- "Serial write rejected: port is closed" -/
  | txRejected (f : Frame)
  /-- the requests to the WiFi worker -/
  | requestConnect (host : String) (port : UInt16)
  | requestDisconnect
  | requestArm
  | requestDisarm
  /-- `m_discovery.forgetPort` -/
  | forgetPort (portName : String)
  /-- `m_mdns->startScan()` -/
  | startScan
  /-- a local file written -/
  | writeFile (path : String) (data : List UInt8)
  deriving DecidableEq, Repr

/-! ## Operations -/

/-- `FwUpdateState`, `EspUpdateState` and `FileUploadState` have the same four values -/
inductive TransferState where
  | Idle
  | WaitingStartAck
  | SendingData
  | WaitingFinishAck
  deriving DecidableEq, Repr

/-- the members one transfer machine owns: `m_fwUpdateState`, `m_fwUpdateData`,
`m_fwUpdateOffset`, `m_fwUpdateSize`, `m_fwUpdateTimeout`, and their two copies -/
structure Transfer where
  state : TransferState := .Idle
  data : List UInt8 := []
  offset : UInt32 := 0
  size : UInt32 := 0
  timeout : Timer := none
  deriving DecidableEq, Repr

/-- the three transfer machines -/
inductive Kind where
  | fwUpdate
  | espUpdate
  | fileUpload
  deriving DecidableEq, Repr

structure UploadQueueItem where
  localPath : String
  remotePath : String
  deriving DecidableEq, Repr

structure Operations where
  fwUpdate : Transfer := {}
  espUpdate : Transfer := {}
  fileUpload : Transfer := {}
  espUpdateFlashAddr : UInt32 := 0
  espUpdateStaleNack : Bool := false
  uploadQueue : List UploadQueueItem := []
  /-- -1 while the queue is inactive -/
  uploadQueueIndex : Int := -1
  mkdirQueue : List String := []
  mkdirQueueIndex : Int := -1
  /-- the last file command, for the routing of its ACK; 0 for none -/
  pendingFileCmd : UInt8 := 0
  bankSwapPending : Bool := false
  bankErasePending : Bool := false
  sdMounted : Bool := true
  deriving DecidableEq, Repr

def Operations.get (o : Operations) : Kind → Transfer
  | .fwUpdate => o.fwUpdate
  | .espUpdate => o.espUpdate
  | .fileUpload => o.fileUpload

def Operations.set (o : Operations) (k : Kind) (t : Transfer) : Operations :=
  match k with
  | .fwUpdate => { o with fwUpdate := t }
  | .espUpdate => { o with espUpdate := t }
  | .fileUpload => { o with fileUpload := t }

@[simp] theorem Operations.get_set (o : Operations) (k k' : Kind) (t : Transfer) :
    (o.set k t).get k' = if k' = k then t else o.get k' := by
  cases k <;> cases k' <;> rfl

/-! ## Keepalive, link, screen, download -/

structure Keepalive where
  pingTimer : Timer := none
  suspended : Bool := false
  missedPongs : Nat := 0
  lastPingTime : Int := 0
  lastInboundMs : Int := 0
  deriving DecidableEq, Repr

/-- the short form of a port's name where the ports are in `/dev` -/
def portNameFromSystemLocation (source : String) : String :=
  match source.toList with
  | '/' :: 'd' :: 'e' :: 'v' :: '/' :: name => String.ofList name
  | _ => source

/-- both transports and the reconnect state -/
structure Link where
  /-- which transport `m_transport` points to -/
  transport : Transport := .serial
  /-- what `QSerialPort::portName` makes of the name that `setPortName` got -/
  shortPortName : String → String := portNameFromSystemLocation
  /-- `QSerialPort::isOpen` and `portName` -/
  serialOpen : Bool := false
  serialPort : String := ""
  /-- `m_wifiTransport != nullptr`, and its `m_connected`, `m_target`, `m_udpPort` -/
  wifiCreated : Bool := false
  wifiConnected : Bool := false
  wifiTransportTarget : String := ""
  wifiUdpPort : UInt16 := 0
  /-- `m_wifiTarget` -/
  wifiTarget : String := ""
  pendingSessionStart : Bool := false
  wifiWasConnected : Bool := false
  wifiReconnectTimer : Timer := none
  wifiReconnectAttempts : Nat := 0
  userDisconnecting : Bool := false
  autoConnect : Bool := true
  preferredSerialPort : String := ""
  serialReconnectTimer : Timer := none
  serialReconnectPort : String := ""
  serialReconnectAttempts : Nat := 0
  /-- `m_mdns != nullptr` -/
  mdns : Bool := false

/-- `m_transport->isConnected()` -/
def Link.isConnected (l : Link) : Bool :=
  match l.transport with
  | .serial => l.serialOpen
  | .wifi => l.wifiConnected

/-- `m_transport->targetName()` -/
def Link.targetName (l : Link) : String :=
  match l.transport with
  | .serial => l.serialPort
  | .wifi => l.wifiTransportTarget

structure Screen where
  streaming : Bool := false
  wanted : Bool := false
  fps : Int := 5
  deriving DecidableEq, Repr

structure Download where
  buf : List UInt8 := []
  dest : String := ""
  deriving DecidableEq, Repr

/-- a pending `QTimer::singleShot` -/
inductive Shot where
  | requestDeviceInfo
  /-- the proactive close after a bank swap or a reboot -/
  | closeLink
  /-- the SCREEN_START that follows a WiFi reconnect -/
  | rearmScreen
  | trySerialReconnect
  deriving DecidableEq, Repr

structure Dev where
  env : Env := {}
  ops : Operations := {}
  keep : Keepalive := {}
  link : Link := {}
  screen : Screen := {}
  download : Download := {}
  deviceInfo : DeviceInfo := {}
  crc : CrcSession := {}
  dialectResolved : Bool := false
  legacyCompatMode : Bool := false
  deviceLogVerbose : Bool := false
  /-- `m_seqCounter` of `m_codec` -/
  seqCounter : UInt8 := 0
  shots : List Shot := []
  out : List Out := []

def Dev.isConnected (d : Dev) : Bool := d.link.isConnected

/-- the transfer machine of kind `k` -/
def Dev.get (d : Dev) (k : Kind) : Transfer := d.ops.get k

def Dev.setTransfer (d : Dev) (k : Kind) (t : Transfer) : Dev := { d with ops := d.ops.set k t }

/-! ## Outputs -/

def Dev.put (d : Dev) (o : Out) : Dev := { d with out := d.out ++ [o] }

def Dev.emit (d : Dev) (s : Signal) : Dev := d.put (.signal s)

def Dev.startShot (d : Dev) (s : Shot) : Dev := { d with shots := d.shots ++ [s] }

/-- `m_codec.reset()`, as far as sending goes -/
def Dev.resetCodec (d : Dev) : Dev := { d with seqCounter := 0 }

/-- `m_transport->send(frame)` -/
def Dev.transportSend (d : Dev) (f : Frame) : Dev :=
  match d.link.transport with
  | .serial =>
    if d.link.serialOpen then d.put (.tx .serial f d.crc.txDialect) else d.put (.txRejected f)
  | .wifi => d.put (.tx .wifi f d.crc.txDialect)

def Dev.sendCommand (d : Dev) (cmd : UInt8) (payload : List UInt8) : Dev :=
  let f : Frame := { cmd := cmd, seq := d.seqCounter, payload := payload }
  Dev.transportSend { d with seqCounter := d.seqCounter + 1 } f

end QMon.Device
