import QMonstatek.Device.Reply

/-!
# Links, sessions and liveness

The two transports as far as the GUI thread sees them, `onTransportConnected`, the reconnect
paths, the ping timer and the timeouts of the transfers, and the dispatch of an inbound frame.

Closing the serial port reports the loss at once, inside `close()`.  Opening or closing the WiFi
link only asks the worker thread, whose report is an event of its own.  A transport that is not
the active one has no signal connected to `M1Device`.
-/

namespace QMon.Device
open Rpc

def WIFI_RECONNECT_MAX : Nat := 8
def SERIAL_RECONNECT_MAX : Nat := 12

/-! ## Session start and screen -/

def Dev.startSession (d : Dev) : Dev :=
  let d := d.resetCodec
  let d := { d with
    keep := { d.keep with suspended := false, missedPongs := 0, lastInboundMs := d.env.now }
    crc := resetCrcDialect d.crc
    dialectResolved := false }
  let d := d.sendCommand CMD_PING []
  let d := d.sendCommand CMD_SET_LOG_LEVEL [if d.deviceLogVerbose then 3 else 0]
  let d := d.startShot .requestDeviceInfo
  { d with keep := { d.keep with pingTimer := some 3000 } }

def Dev.setDeviceLogVerbose (on : Bool) (d : Dev) : Dev :=
  let d := { d with deviceLogVerbose := on }
  let d := if d.isConnected then d.sendCommand CMD_SET_LOG_LEVEL [if on then 3 else 0] else d
  d.emit (.deviceLogVerboseChanged on)

/-- whether `m_transport` is the WiFi transport -/
def Dev.onWifi (d : Dev) : Bool := d.link.transport == .wifi

def clampFps (fps : Int) : Int := min (max fps 1) 15

def Dev.startScreenStream (fps : Int) (d : Dev) : Dev :=
  let fps := clampFps fps
  let payload := [UInt8.ofNat fps.toNat]
  let port := d.link.wifiUdpPort
  let d :=
    if d.onWifi then
      (d.put .requestArm).sendCommand CMD_SCREEN_START
        (payload ++ [(port &&& 0xFF).toUInt8, ((port >>> 8) &&& 0xFF).toUInt8])
    else d.sendCommand CMD_SCREEN_START payload
  let d := { d with screen := { streaming := true, wanted := true, fps := fps } }
  d.emit (.screenStreamingChanged true)

def Dev.stopScreenStream (d : Dev) : Dev :=
  let d := if d.onWifi then d.put .requestDisarm else d
  let d := d.sendCommand CMD_SCREEN_STOP []
  let d := { d with screen := { d.screen with streaming := false, wanted := false } }
  d.emit (.screenStreamingChanged false)

/-! ## The link goes up or down -/

def Dev.scheduleSerialReconnect (portName : String) (delayMs : Int) (d : Dev) : Dev :=
  if ¬ d.link.autoConnect ∨ d.isConnected ∨ portName = "" then d
  else if d.link.serialReconnectTimer = none then
    { d with link := { d.link with
      serialReconnectPort := portName, serialReconnectTimer := some (max 0 delayMs).toNat } }
  else { d with link := { d.link with serialReconnectPort := portName } }

/-- a transfer is dropped with the link: the timer is stopped in any case -/
def Dev.dropTransfer (k : Kind) (err : Signal) (d : Dev) : Dev :=
  if (d.get k).state ≠ .Idle then (d.endTransfer k).emit err
  else d.setTransfer k { d.get k with timeout := none }

/-- the reconnect of the transport that was lost -/
def Dev.planReconnect (lastPort : String) (d : Dev) : Dev :=
  if d.onWifi then
    if ¬ d.link.userDisconnecting ∧ d.link.wifiWasConnected ∧ d.link.wifiTarget ≠ ""
        ∧ d.link.wifiReconnectAttempts < WIFI_RECONNECT_MAX then
      let delay := min 10000 (1000 <<< min d.link.wifiReconnectAttempts 3)
      let d := if d.link.mdns then d.put .startScan else d
      { d with link := { d.link with wifiReconnectTimer := some delay } }
    else d
  else if ¬ d.link.userDisconnecting ∧ lastPort ≠ "" then
    let d := d.put (.forgetPort lastPort)
    let d := { d with link := { d.link with serialReconnectAttempts := 0 } }
    d.scheduleSerialReconnect lastPort 1500
  else d

def Dev.onTransportConnected : Bool → Dev → Dev
  | true, d =>
    let d := if d.onWifi then
        { d with link := { d.link with
          wifiWasConnected := true, wifiReconnectAttempts := 0, wifiReconnectTimer := none } }
      else d
    let d := if d.link.pendingSessionStart then
        Dev.startSession { d with link := { d.link with pendingSessionStart := false } }
      else d
    let d := if d.onWifi ∧ d.screen.wanted then d.startShot .rearmScreen else d
    d.emit (.connectionChanged true)
  | false, d =>
    let lastPort := d.link.targetName
    let d := { d with keep := { d.keep with suspended := false, pingTimer := none } }
    let d := d.resetCodec
    let d := { d with
      deviceInfo := {}
      screen := { d.screen with streaming := false }
      ops := { d.ops with bankSwapPending := false } }
    let d := d.dropTransfer .fwUpdate
      (.fwUpdateError "Device disconnected during firmware update")
    let d := { d with ops := { d.ops with espUpdateStaleNack := false } }
    let d := d.dropTransfer .espUpdate
      (.espUpdateError "Device disconnected during ESP32 update")
    let d := d.dropTransfer .fileUpload
      (.fileOperationError "Device disconnected during file upload")
    let d := { d with ops := { d.ops with
      uploadQueue := [], uploadQueueIndex := -1, mkdirQueue := [], mkdirQueueIndex := -1
      sdMounted := true } }
    let d := d.emit (.screenStreamingChanged false)
    let d := d.planReconnect lastPort
    let d := { d with link := { d.link with userDisconnecting := false } }
    d.emit (.connectionChanged false)

/-! ## The transports -/

/-- `SerialTransport::close` -/
def Dev.serialClose (d : Dev) : Dev :=
  if d.link.serialOpen then
    let d := { d with link := { d.link with serialOpen := false } }
    if d.onWifi then d else d.onTransportConnected false
  else d

/-- `SerialTransport::open`, with the serial transport active -/
def Dev.serialOpenPort (portName : String) (d : Dev) : Dev × Bool :=
  let d := d.serialClose
  let d := { d with link := { d.link with serialPort := d.link.shortPortName portName } }
  if d.env.serialOpens portName then
    let d := { d with link := { d.link with serialOpen := true } }
    (d.onTransportConnected true, true)
  else
    (d.emit (.errorOccurred ("Failed to open " ++ portName ++ ": "
      ++ d.env.serialErrorString portName)), false)

/-- `m_transport->close()` -/
def Dev.transportClose (d : Dev) : Dev :=
  if d.onWifi then d.put .requestDisconnect else d.serialClose

def Dev.setTransport (t : Transport) (d : Dev) : Dev :=
  { d with link := { d.link with transport := t } }

/-- the parse of `WifiTransport::open`: what follows the last colon is the port -/
def parseTarget (target : String) : Except String (String × UInt16) :=
  match target.toList.reverse.dropWhile (fun c => c != ':') with
  | _ :: c :: host =>
    match toUShort
        (String.ofList (target.toList.reverse.takeWhile (fun c => c != ':')).reverse) with
    | some port =>
      if port = 0 then .error "Invalid port number"
      else .ok (String.ofList (c :: host).reverse, port)
    | none => .error "Invalid port number"
  | _ => .error "Invalid target format. Use host:port (e.g., 192.168.1.50:3333)"

/-- `WifiTransport::open`, with the WiFi transport active -/
def Dev.wifiOpen (target : String) (d : Dev) : Dev × Bool :=
  match parseTarget target with
  | .error msg => (d.emit (.errorOccurred msg), false)
  | .ok (host, port) =>
    let d := { d with link := { d.link with wifiTransportTarget := target } }
    (d.put (.requestConnect host port), true)

/-! ## Connecting -/

/-- the pending USB retry is given up -/
def Dev.clearSerialReconnect (d : Dev) : Dev :=
  { d with link := { d.link with
    serialReconnectTimer := none, serialReconnectPort := "", serialReconnectAttempts := 0 } }

def Dev.connectToDevice (portName : String) (d : Dev) : Dev × Bool :=
  let r := (d.setTransport .serial).serialOpenPort portName
  if r.2 then
    let d := { r.1 with link := { r.1.link with preferredSerialPort := portName } }
    (d.clearSerialReconnect.startSession, true)
  else r

def Dev.connectToDeviceWifi (hostPort : String) (d : Dev) : Dev :=
  let d := d.clearSerialReconnect
  let d := { d with link := { d.link with
    wifiCreated := true, transport := .wifi, wifiTarget := hostPort
    userDisconnecting := false, pendingSessionStart := true } }
  let r := d.wifiOpen hostPort
  if r.2 then r.1
  else
    let d := r.1.setTransport .serial
    { d with link := { d.link with pendingSessionStart := false } }

def Dev.disconnect (d : Dev) : Dev :=
  let d := { d with keep := { d.keep with suspended := false, pingTimer := none } }
  let d := d.clearSerialReconnect
  let d := { d with link := { d.link with
    wifiReconnectTimer := none, wifiWasConnected := false, wifiReconnectAttempts := 0 } }
  let d := if d.screen.streaming then d.stopScreenStream else d
  let d := { d with link := { d.link with userDisconnecting := true } }
  d.transportClose.resetCodec

def Dev.setPreferredSerialPort (portName : String) (d : Dev) : Dev :=
  let port := trimmed portName
  let d := { d with link := { d.link with preferredSerialPort := port } }
  if port = "" ∨ d.isConnected then d
  else
    let d := { d with link := { d.link with
      serialReconnectAttempts := 0, serialReconnectPort := port } }
    d.startShot .trySerialReconnect

def Dev.trySerialReconnect (d : Dev) : Dev :=
  if ¬ d.link.autoConnect ∨ d.isConnected ∨ d.link.serialReconnectPort = "" then d
  else if d.link.serialReconnectAttempts ≥ SERIAL_RECONNECT_MAX then
    { d with link := { d.link with serialReconnectPort := "" } }
  else
    let d := { d with link := { d.link with
      serialReconnectAttempts := d.link.serialReconnectAttempts + 1 } }
    let r := d.connectToDevice d.link.serialReconnectPort
    if r.2 then r.1
    else
      let delay := min 2000 (500 <<< min (r.1.link.serialReconnectAttempts - 1) 2)
      { r.1 with link := { r.1.link with serialReconnectTimer := some delay } }

def Dev.tryWifiReconnect (d : Dev) : Dev :=
  if d.isConnected then d
  else
    let d := { d with link := { d.link with
      wifiReconnectAttempts := d.link.wifiReconnectAttempts + 1 } }
    d.connectToDeviceWifi d.link.wifiTarget

def Dev.onDeviceFound (portName : String) (d : Dev) : Dev :=
  if ¬ d.link.autoConnect ∨ d.isConnected then d
  else if d.link.preferredSerialPort ≠ "" ∧ portName ≠ d.link.preferredSerialPort then d
  else if d.link.serialReconnectTimer ≠ none ∨ d.link.serialReconnectPort ≠ "" then
    { d with link := { d.link with serialReconnectPort := portName } }
  else
    let r := d.connectToDevice portName
    if r.2 then r.1
    else
      let d := { r.1 with link := { r.1.link with serialReconnectAttempts := 0 } }
      d.scheduleSerialReconnect portName 750

def Dev.onDeviceLost (portName : String) (d : Dev) : Dev :=
  if ¬ d.onWifi ∧ d.isConnected ∧ d.link.serialPort = portName then
    Dev.transportClose { d with keep := { d.keep with pingTimer := none } }
  else d

/-- `MdnsDiscovery::serviceFound` -/
def Dev.onServiceFound (address : String) (port : Int) (d : Dev) : Dev :=
  if d.isConnected ∨ ¬ d.link.wifiWasConnected ∨ d.link.wifiReconnectAttempts = 0 then d
  else { d with link := { d.link with wifiTarget := address ++ ":" ++ toString port } }

/-! ## The WiFi worker reports -/

def Dev.onWorkerConnected (d : Dev) : Dev :=
  let d := { d with link := { d.link with wifiConnected := true } }
  if d.onWifi then d.onTransportConnected true else d

def Dev.onWorkerDisconnected (d : Dev) : Dev :=
  if d.link.wifiConnected then
    let d := { d with link := { d.link with wifiConnected := false } }
    if d.onWifi then d.onTransportConnected false else d
  else d

/-! ## Timers -/

/-- the slot of the ping timer; both transports are health-checked -/
def Dev.onPingTimer (d : Dev) : Dev :=
  if ¬ d.isConnected ∨ d.keep.suspended then d
  else
    let d := { d with keep := { d.keep with missedPongs := d.keep.missedPongs + 1 } }
    if d.keep.missedPongs ≥ 6 ∨ d.env.now - d.keep.lastInboundMs > 20000 then
      let d := if d.screen.streaming then d.stopScreenStream else d
      d.transportClose
    else
      let d := { d with crc := alternateTxDialect d.crc }
      let d := { d with keep := { d.keep with lastPingTime := d.env.now } }
      d.sendCommand CMD_PING []

/-- the phase a timeout message names -/
def phaseName (start : String) : TransferState → String
  | .WaitingStartAck => start
  | .SendingData => "data transfer"
  | .WaitingFinishAck => "finish"
  | .Idle => "unknown"

def Dev.onFwUpdateTimeout (d : Dev) : Dev :=
  if d.ops.fwUpdate.state ≠ .Idle then
    let state := phaseName "erase/start" d.ops.fwUpdate.state
    let d := (d.endTransfer .fwUpdate).resumeKeepaliveIfIdle
    -- no valid device info: most likely stock firmware without RPC
    if d.deviceInfo.fwMajor = 0 ∧ d.deviceInfo.fwMinor = 0 ∧ d.deviceInfo.c3Revision = 0 then
      d.emit (.fwUpdateError ("The device firmware does not support over-the-air updates.\n\n"
        ++ "Use the DFU Flash page to install compatible firmware via USB DFU mode."))
    else
      d.emit (.fwUpdateError ("Timeout waiting for device response during " ++ state
        ++ ".\nRestart the device and try again."))
  else d

def Dev.onEspUpdateTimeout (d : Dev) : Dev :=
  if d.ops.espUpdate.state ≠ .Idle then
    let state := phaseName "start" d.ops.espUpdate.state
    -- lets the M1 clean up after the failed flash
    let d := d.sendCommand CMD_ESP_UPDATE_FINISH []
    let d := d.endTransfer .espUpdate
    let d := { d with ops := { d.ops with espUpdateStaleNack := true } }
    d.resumeKeepaliveIfIdle.emit (.espUpdateError
      ("Timeout waiting for device response during " ++ state
        ++ ".\nClose qMonstatek, reboot the M1, then reopen qMonstatek and try again."))
  else d

def Dev.onFileUploadTimeout (d : Dev) : Dev :=
  if d.ops.fileUpload.state ≠ .Idle then
    (d.endTransfer .fileUpload).resumeKeepaliveIfIdle.emit
      (.fileOperationError "Upload timed out waiting for device response")
  else d

/-! ## Inbound frames -/

/-- the first frame after the latch tells the user which dialect the device speaks -/
def Dev.resolveDialect (d : Dev) : Dev :=
  if ¬ d.dialectResolved ∧ d.crc.dialectLocked then
    let legacy := d.crc.txDialect == .Legacy
    let d := { d with dialectResolved := true, legacyCompatMode := legacy }
    let d := if legacy then d.emit .legacyFirmwareDetected else d
    (d.emit (.legacyCompatModeChanged legacy)).requestDeviceInfo
  else d

def Dev.handlePong (d : Dev) : Dev :=
  let d := { d with keep := { d.keep with missedPongs := 0 } }
  d.emit (.pongReceived (toInt (ofInt (d.env.now - d.keep.lastPingTime))))

def Dev.handleDeviceInfoResp (payload : List UInt8) (d : Dev) : Dev :=
  match DeviceInfo.ofPayload payload d.deviceInfo with
  | none => d
  | some info => Dev.emit { d with deviceInfo := info } .deviceInfoUpdated

/-- the frames that only report (screen, firmware info, file list, CLI, log) leave the state -/
def Dev.onFrameReceived (frame : Frame) (d : Dev) : Dev :=
  let d := { d with keep := { d.keep with lastInboundMs := d.env.now } }
  let d := d.resolveDialect
  if frame.cmd = CMD_PONG then d.handlePong
  else if frame.cmd = CMD_DEVICE_INFO_RESP then d.handleDeviceInfoResp frame.payload
  else if frame.cmd = CMD_FILE_READ_DATA then d.handleFileReadData frame.payload
  else if frame.cmd = CMD_ACK then d.handleAck
  else if frame.cmd = CMD_NACK then d.handleNack frame.payload
  else d

end QMon.Device
