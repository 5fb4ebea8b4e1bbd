import QMonstatek.Device.Step

/-!
# The mDNS browser

`MdnsDiscovery`   the members of `mdns_discovery.h`, with what the browser put out;
`startScan`, `stopScan`, `sendQuery`   its calls and its timer;
`parsed`          the end of `parseMdnsResponse`, for a response of the M1 service whose records
                  gave this instance, host, address and port.
-/

namespace QMon.Transport
open Device

def MDNS_ADDR : UInt32 := 0xE00000FB
def MDNS_PORT : UInt16 := 5353

structure MdnsService where
  name : String
  host : String
  /-- an IPv4 address -/
  ip : UInt32
  port : UInt16
  deriving DecidableEq, Repr

inductive MdnsOut where
  | servicesChanged
  | scanningChanged (scanning : Bool)
  | serviceFound (name address : String) (port : UInt16)
  | writeDatagram (data : List UInt8) (ip : UInt32) (port : UInt16)
  deriving DecidableEq, Repr

structure MdnsDiscovery where
  services : List MdnsService := []
  scanning : Bool := false
  queryTimer : Timer := none
  /-- whether `m_socket.bind` succeeds -/
  binds : Bool := true
  out : List MdnsOut := []

/-- `QHostAddress::toString` -/
def dotted (ip : UInt32) : String :=
  toString (ip >>> 24).toNat ++ "." ++ toString ((ip >>> 16) &&& 0xFF).toNat ++ "."
    ++ toString ((ip >>> 8) &&& 0xFF).toNat ++ "." ++ toString (ip &&& 0xFF).toNat

/-- the labels of a service name, each after its length -/
def dnsLabels (parts : List String) : List UInt8 :=
  parts.flatMap fun part => UInt8.ofNat (utf8 part).length :: utf8 part

def buildMdnsQuery (service : String) : List UInt8 :=
  [0, 0, 0, 0, 0, 1, 0, 0, 0, 0, 0, 0] ++ dnsLabels (service.splitOn ".") ++ [0] ++ [0, 12, 0, 1]

namespace MdnsDiscovery

def put (o : MdnsOut) (m : MdnsDiscovery) : MdnsDiscovery := { m with out := m.out ++ [o] }

def sendQuery (m : MdnsDiscovery) : MdnsDiscovery :=
  m.put (.writeDatagram (buildMdnsQuery "_m1rpc._tcp.local") MDNS_ADDR MDNS_PORT)

def startScan (m : MdnsDiscovery) : MdnsDiscovery :=
  if m.scanning then m
  else
    let m := put .servicesChanged { m with services := [] }
    if ¬ m.binds then m
    else
      let m := (put (.scanningChanged true) { m with scanning := true }).sendQuery
      { m with queryTimer := some 2000 }

def stopScan (m : MdnsDiscovery) : MdnsDiscovery :=
  if ¬ m.scanning then m
  else put (.scanningChanged false) { m with queryTimer := none, scanning := false }

/-- the service is known already -/
def knows (ip : UInt32) (port : UInt16) (m : MdnsDiscovery) : Bool :=
  m.services.any fun existing => existing.ip == ip && existing.port == port

def parsed (instanceName srvHost : String) (ip : UInt32) (port : UInt16) (m : MdnsDiscovery) :
    MdnsDiscovery :=
  if port = 0 ∨ m.knows ip port then m
  else
    let svc : MdnsService :=
      { name := if instanceName = "" then srvHost else instanceName, host := srvHost
        ip := ip, port := port }
    let m := { m with services := m.services ++ [svc] }
    (m.put (.serviceFound svc.name (dotted svc.ip) svc.port)).put .servicesChanged

end MdnsDiscovery

end QMon.Transport
