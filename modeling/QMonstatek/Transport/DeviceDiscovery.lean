import QMonstatek.Lib.LiveLoop
import QMonstatek.Device.Serial

/-!
# The scan for M1 ports

`Discovering`   the known ports of the discovery and the device object that hears its signals;
`scan infos s`  one run of `DeviceDiscovery::scan` on what `availablePorts()` answers.

A signal reaches the device object at once, and what its handler asks of the discovery is done
before the scan goes on: the loop over the known ports is a loop over a list that the handler may
shorten.
-/

namespace QMon.Transport
open Device

structure SerialPortInfo where
  portName : String
  /-- `none` without `hasVendorIdentifier()` -/
  vendorIdentifier : Option UInt16
  productIdentifier : Option UInt16
  deriving DecidableEq, Repr

def M1_VID : UInt16 := 0x0483
def M1_PID_CDC_MSC : UInt16 := 0x5750
def M1_PID_CDC : UInt16 := 0x5740

def SerialPortInfo.isM1 (info : SerialPortInfo) : Bool :=
  info.vendorIdentifier == some M1_VID &&
    (info.productIdentifier == some M1_PID_CDC_MSC || info.productIdentifier == some M1_PID_CDC)

/-- an M1 with CDC and MSC, under this name -/
def SerialPortInfo.m1 (portName : String) : SerialPortInfo :=
  { portName := portName, vendorIdentifier := M1_VID, productIdentifier := M1_PID_CDC_MSC }

def currentPorts (infos : List SerialPortInfo) : List String :=
  (infos.filter SerialPortInfo.isM1).map SerialPortInfo.portName

/-- the signals of the discovery -/
inductive Report where
  | deviceFound (portName : String)
  | deviceLost (portName : String)
  | portsChanged
  deriving DecidableEq, Repr

structure Discovering where
  /-- `m_ports` -/
  ports : List String := []
  dev : Dev := init
  /-- the signals of the scan, oldest first -/
  reports : List Report := []
  /-- a position that was read and that `m_ports` did not have -/
  badRead : Option Nat := none

namespace Discovering

def forgetPort (portName : String) (ports : List String) : List String :=
  ports.filter (· ≠ portName)

/-- the device object hears of a port -/
def hear (e : Event) (s : Discovering) : Discovering :=
  let dev := step e s.dev
  { s with dev := dev, ports := (forgotten dev.out).foldl (fun ps p => forgetPort p ps) s.ports }

def report (r : Report) (s : Discovering) : Discovering := { s with reports := s.reports ++ [r] }

def emitFound (portName : String) (s : Discovering) : Discovering :=
  (s.report (.deviceFound portName)).hear (.deviceFound portName)

def emitLost (portName : String) (s : Discovering) : Discovering :=
  (s.report (.deviceLost portName)).hear (.deviceLost portName)

/-- the loop over the current ports -/
def detectNew (current : List String) (s : Discovering) : Discovering :=
  current.foldl (fun s portName => if portName ∉ s.ports then s.emitFound portName else s) s

/-- the body of the loop over the known ports -/
def checkLost (current : List String) (portName : String) (s : Discovering) : Discovering :=
  if portName ∉ current then s.emitLost portName else s

/-- the loop over the known ports; a read past their end is undefined, and ends the model's loop -/
def detectLost (current : List String) (s : Discovering) : Discovering :=
  let r := LiveLoop.forEach Discovering.ports (checkLost current) s
  { r.1 with badRead := r.2 }

def update (current : List String) (s : Discovering) : Discovering :=
  if current ≠ s.ports then report .portsChanged { s with ports := current } else s

def scan (infos : List SerialPortInfo) (s : Discovering) : Discovering :=
  let current := currentPorts infos
  (detectLost current (detectNew current { s with reports := [], badRead := none })).update current

end Discovering

end QMon.Transport
