import QMonstatek.Lib.Digits
import QMonstatek.Transport.DnsMessage

/-!
# Which service the mDNS browser reports

The records of a response should be put together by their names: an SRV record of the M1 service,
and an address of its target.  The parser keeps the port of the last SRV record and the address of
the last A record, whatever names they have, and then looks for the bytes "_m1rpc" anywhere in the
packet: `foundRight_iff`.
-/

namespace QMon.Transport
open Rpc Device

/-- `_m1rpc._tcp.local` -/
def m1Service : List Label := [utf8 "_m1rpc", utf8 "_tcp", utf8 "local"]

/-- the name is the service's or lies below it, upper and lower case alike -/
def UnderService (name : List Label) : Prop :=
  m1Service <:+ name.map (·.map lowerCase)

def ResourceRecord.port (r : ResourceRecord) : Option UInt16 :=
  match r.rdata with
  | .srv port _ => some port
  | _ => none

def ResourceRecord.ip (r : ResourceRecord) : Option UInt32 :=
  match r.rdata with
  | .a ip => some ip
  | _ => none

/-- the port of the last SRV record -/
def lastPort (records : List ResourceRecord) : Option UInt16 :=
  (records.filterMap ResourceRecord.port).getLast?

/-- the address of the last A record -/
def lastIp (records : List ResourceRecord) : Option UInt32 :=
  (records.filterMap ResourceRecord.ip).getLast?

/-- the addresses of a host -/
def addressesOf (records : List ResourceRecord) (host : List Label) : List UInt32 :=
  (records.filter fun r => sameName r.owner host).filterMap ResourceRecord.ip

/-- the port is that of a record of the M1 service, and the address that of its target, or the
sender's where the response gives the target none -/
def RightService (records : List ResourceRecord) (sender : Option UInt32) (ip : UInt32)
    (port : UInt16) : Prop :=
  ∃ r ∈ records, ∃ target, r.rdata = .srv port target ∧ UnderService r.owner ∧
    if addressesOf records target = [] then sender = some ip
    else ip ∈ addressesOf records target

/-- what is reported is right -/
def FoundRight (records : List ResourceRecord) (data : List UInt8) (sender : Option UInt32)
    (m : MdnsDiscovery) : Prop :=
  ∀ m', parseMdnsResponse data sender m = .ok m' →
    ∀ name address port, MdnsOut.serviceFound name address port ∈ m'.out.drop m.out.length →
      ∃ ip, address = dotted ip ∧ RightService records sender ip port

/-- the response is taken for a new service at the last port and the last address -/
structure Taken (records : List ResourceRecord) (data : List UInt8) (sender : Option UInt32)
    (m : MdnsDiscovery) (ip : UInt32) (port : UInt16) : Prop where
  lastPort : lastPort records = some port
  address : (lastIp records).or sender = some ip
  nonzero : port ≠ 0
  ours : isOurs data = true
  unknown : m.knows ip port = false

/-! ## What the records leave -/

variable {data : List UInt8}

theorem be32At_eq {i : Nat} (h : i + 4 ≤ data.length) : be32At data i = .ok (be32 data i) := by
  unfold be32At
  rw [byteAt_of_lt data (by omega), byteAt_of_lt data (by omega), byteAt_of_lt data (by omega),
    byteAt_of_lt data (by omega)]
  rfl

theorem getLast?_filterMap_cons {α β : Type} (f : α → Option β) (a : α) (l : List α) :
    ((a :: l).filterMap f).getLast? = (l.filterMap f).getLast?.or (f a) := by
  rw [List.filterMap_cons]
  cases f a with
  | none => rw [Option.or_none]
  | some b =>
    show (b :: l.filterMap f).getLast? = _
    rw [List.getLast?_cons]
    cases (l.filterMap f).getLast? <;> rfl

/-- **One record** leaves its port or its address. -/
theorem readRecord_ok {rdStart : Nat} {rdLen rrType : UInt16} {rdata : RData}
    (h : RDataAt data rdStart rdLen rrType rdata) (hin : rdStart + rdLen.toNat ≤ data.length)
    (owner : List Label) (rrName : List Char) (r : Records) :
    ∃ r', readRecord data rrName rrType rdLen rdStart r = .ok r' ∧
      r'.srvPort = (ResourceRecord.port ⟨owner, rdata⟩).getD r.srvPort ∧
      r'.resolvedIp = (ResourceRecord.ip ⟨owner, rdata⟩).or r.resolvedIp := by
  unfold readRecord
  cases h with
  | srv name =>
    have hlong := name.lt_next
    have hsix : (33 : UInt16) = 33 ∧ rdLen ≥ 6 :=
      ⟨rfl, UInt16.le_iff_toNat_le.mpr (show 6 ≤ rdLen.toNat by omega)⟩
    obtain ⟨host, hhost⟩ := readDnsName_ok data (rdStart + 6)
    rw [if_pos hsix, be16At_of_le data (by omega), hhost]
    exact ⟨_, rfl, rfl, rfl⟩
  | a hlen =>
    have hfour : rdLen.toNat = 4 := congrArg UInt16.toNat hlen
    have hsrv : ¬ ((1 : UInt16) = 33 ∧ rdLen ≥ 6) := fun h => absurd h.1 (by decide)
    rw [if_neg hsrv, if_pos ⟨rfl, hlen⟩, be32At_eq (by omega)]
    exact ⟨_, rfl, rfl, rfl⟩
  | other h1 h33 =>
    rw [if_neg fun h => h33 h.1, if_neg fun h => h1 h.1]
    exact ⟨_, rfl, rfl, rfl⟩

/-- **The records** leave the port of the last SRV record and the address of the last A record. -/
theorem readRecords_ok {offset : Nat} {records : List ResourceRecord}
    (h : RecordsAt data offset records) (r : Records) :
    ∃ r', readRecords data records.length offset r = .ok r' ∧
      r'.srvPort = (lastPort records).getD r.srvPort ∧
      r'.resolvedIp = (lastIp records).or r.resolvedIp := by
  induction h generalizing r with
  | nil => exact ⟨r, rfl, rfl, rfl⟩
  | cons name inside meaning behind ih =>
    rename_i offset hops next owner rdata rest
    obtain ⟨rrName, hname⟩ := readDnsName_ok data offset
    rw [nameEnd_of_nameAt name] at hname
    obtain ⟨r1, hr1, hport1, hip1⟩ := readRecord_ok meaning inside owner rrName r
    obtain ⟨r2, hr2, hport2, hip2⟩ := ih r1
    refine ⟨r2, ?_, ?_, ?_⟩
    · rw [List.length_cons]
      unfold readRecords
      rw [if_pos name.lt, hname]
      show (if next + 10 > data.length then _ else _ : Except _ _) = _
      rw [if_neg (by omega), be16At_of_le data (by omega), be16At_of_le data (by omega),
        be32At_eq (by omega), be16At_of_le data (by omega)]
      show (readRecord data rrName (be16 data next) (be16 data (next + 8)) (next + 10) r >>= _) = _
      rw [hr1]
      exact hr2
    · have hlast : lastPort (⟨owner, rdata⟩ :: rest) = (lastPort rest).or _ :=
        getLast?_filterMap_cons ResourceRecord.port _ _
      rw [hport2, hport1, hlast, Option.getD_or]
    · have hlast : lastIp (⟨owner, rdata⟩ :: rest) = (lastIp rest).or _ :=
        getLast?_filterMap_cons ResourceRecord.ip _ _
      rw [hip2, hip1, hlast, Option.or_assoc]

/-- **The slot** on a well-formed response: the records' last port and last address are taken. -/
theorem parse_wellFormed {records : List ResourceRecord} (h : WellFormed data records)
    (sender : Option UInt32) (m : MdnsDiscovery) :
    ∃ r : Records, r.srvPort = (lastPort records).getD 0 ∧
      parseMdnsResponse data sender m = .ok
        (match (lastIp records).or sender with
          | none => m
          | some ip =>
            if r.srvPort > 0 ∧ isOurs data then
              m.parsed (String.ofList r.instanceName) (String.ofList r.srvHost) ip r.srvPort
            else m) := by
  obtain ⟨start, hquestions, hrecords, hcount⟩ := h.sections
  have hlong := h.header
  obtain ⟨r, hr, hport, hip⟩ := readRecords_ok hrecords {}
  rw [Option.or_none] at hip
  refine ⟨r, hport, ?_⟩
  unfold parseMdnsResponse
  rw [if_neg (by omega), be16At_of_le data (by omega)]
  show (if be16 data 2 &&& 0x8000 = 0 then _ else _ : Except _ _) = _
  rw [if_neg h.response, be16At_of_le data (by omega), be16At_of_le data (by omega),
    be16At_of_le data (by omega), be16At_of_le data (by omega)]
  show (skipQuestions data (be16 data 4).toNat 12 >>= _) = _
  rw [skipQuestions_ok, questionsEnd_of_questionsAt hquestions]
  show (readRecords data _ start {} >>= _) = _
  rw [← hcount, hr]
  show (match r.resolvedIp.or sender with
    | none => _
    | some ip => _ : Except PastEnd MdnsDiscovery) = _
  rw [hip]
  cases (lastIp records).or sender with
  | none => rfl
  | some ip =>
    show (if _ then _ else _ : Except _ _) = Except.ok (if _ then _ else _)
    split <;> rfl

/-! ## Addresses as texts -/

/-- a number and a dot in front are read back -/
theorem number_dot_inj {a b : Nat} {s t : List Char}
    (h : (toString a).toList ++ '.' :: s = (toString b).toList ++ '.' :: t) : a = b ∧ s = t := by
  have hfront (n : Nat) (rest : List Char) :
      ((toString n).toList ++ '.' :: rest).takeWhile Char.isDigit = (toString n).toList :=
    Digits.takeWhile_append (Digits.head_cons (by decide) rest) fun _ hc => Digits.isDigit_of_mem hc
  have hnum := congrArg (List.takeWhile Char.isDigit) h
  rw [hfront, hfront] at hnum
  rw [hnum] at h
  exact ⟨Digits.toList_inj hnum, (List.cons.inj (List.append_cancel_left h)).2⟩

theorem dotted_injective {a b : UInt32} (h : dotted a = dotted b) : a = b := by
  have htext (ip : UInt32) : (dotted ip).toList =
      (toString (ip >>> 24).toNat).toList ++ '.' ::
        ((toString ((ip >>> 16) &&& 0xFF).toNat).toList ++ '.' ::
          ((toString ((ip >>> 8) &&& 0xFF).toNat).toList ++ '.' ::
            (toString (ip &&& 0xFF).toNat).toList)) := by
    unfold dotted
    simp
  have hbyte (ip : UInt32) : (ip &&& 0xFF).toNat = ip.toNat % 2 ^ 8 := by
    rw [UInt32.toNat_and]
    exact Nat.and_two_pow_sub_one_eq_mod ip.toNat 8
  have hshift (ip k : UInt32) (hk : k.toNat < 32) : (ip >>> k).toNat = ip.toNat / 2 ^ k.toNat := by
    rw [UInt32.toNat_shiftRight, Nat.shiftRight_eq_div_pow, Nat.mod_eq_of_lt hk]
  have hall := congrArg String.toList h
  rw [htext, htext] at hall
  obtain ⟨h3, hall⟩ := number_dot_inj hall
  obtain ⟨h2, hall⟩ := number_dot_inj hall
  obtain ⟨h1, hall⟩ := number_dot_inj hall
  have h0 := Digits.toList_inj hall
  rw [hshift _ 24 (by decide), hshift _ 24 (by decide)] at h3
  rw [hbyte, hbyte, hshift _ 16 (by decide), hshift _ 16 (by decide)] at h2
  rw [hbyte, hbyte, hshift _ 8 (by decide), hshift _ 8 (by decide)] at h1
  rw [hbyte, hbyte] at h0
  have e24 : (24 : UInt32).toNat = 24 := rfl
  have e16 : (16 : UInt32).toNat = 16 := rfl
  have e8 : (8 : UInt32).toNat = 8 := rfl
  rw [e24] at h3
  rw [e16] at h2
  rw [e8] at h1
  apply UInt32.toNat_inj.mp
  omega

/-! ## What is reported -/

/-- a service is reported when its port is not 0 and it is not known yet -/
theorem mem_parsed_iff (instanceName srvHost : String) (ip : UInt32) (port : UInt16)
    (m : MdnsDiscovery) (address : String) (port' : UInt16) :
    (∃ name, MdnsOut.serviceFound name address port' ∈
      (m.parsed instanceName srvHost ip port).out.drop m.out.length) ↔
        (port ≠ 0 ∧ m.knows ip port = false) ∧ address = dotted ip ∧ port' = port := by
  unfold MdnsDiscovery.parsed
  by_cases hnone : port = 0 ∨ m.knows ip port = true
  · rw [if_pos hnone, List.drop_length]
    refine iff_of_false (fun h => ?_) (fun h => ?_)
    · obtain ⟨name, hname⟩ := h
      exact absurd hname List.not_mem_nil
    · rcases hnone with h0 | hknown
      · exact h.1.1 h0
      · exact absurd (hknown.symm.trans h.1.2) (by decide)
  · obtain ⟨h0, hknown⟩ := not_or.mp hnone
    have hnew (found changed : MdnsOut) :
        (m.out ++ [found] ++ [changed]).drop m.out.length = [found, changed] := by
      rw [List.append_assoc, List.drop_left]
      rfl
    rw [if_neg hnone, and_iff_right ⟨h0, (Bool.not_eq_true _).mp hknown⟩]
    show (∃ name, MdnsOut.serviceFound name address port' ∈
      (m.out ++ [MdnsOut.serviceFound _ (dotted ip) port] ++ [MdnsOut.servicesChanged]).drop
        m.out.length) ↔ _
    rw [hnew]
    constructor
    · rintro ⟨name, hname⟩
      obtain ⟨-, haddress, hport⟩ : _ ∧ address = dotted ip ∧ port' = port := by simpa using hname
      exact ⟨haddress, hport⟩
    · rintro ⟨rfl, rfl⟩
      exact ⟨_, List.mem_cons_self⟩

/-- **A report** is that of the last port and the last address. -/
theorem found_iff {records : List ResourceRecord} (h : WellFormed data records)
    (sender : Option UInt32) (m : MdnsDiscovery) (address : String) (port : UInt16) :
    (∃ m', parseMdnsResponse data sender m = .ok m' ∧ ∃ name,
      MdnsOut.serviceFound name address port ∈ m'.out.drop m.out.length) ↔
        ∃ ip, address = dotted ip ∧ Taken records data sender m ip port := by
  obtain ⟨r, hport, hparse⟩ := parse_wellFormed h sender m
  rw [hparse]
  simp only [Except.ok.injEq, exists_eq_left']
  have hnothing : ¬ ∃ name, MdnsOut.serviceFound name address port ∈ m.out.drop m.out.length := by
    rw [List.drop_length]
    rintro ⟨name, hname⟩
    exact absurd hname List.not_mem_nil
  cases hip : (lastIp records).or sender with
  | none =>
    refine iff_of_false hnothing ?_
    rintro ⟨ip, -, htaken⟩
    exact absurd (hip.symm.trans htaken.address) (by simp)
  | some ip =>
    -- the port that was taken is that of the last SRV record
    have hsrv (htaken : Taken records data sender m ip port) : r.srvPort = port := by
      rw [hport, htaken.lastPort]
      rfl
    have hsame (ip' : UInt32) (htaken : Taken records data sender m ip' port) : ip' = ip :=
      Option.some.inj (htaken.address.symm.trans hip)
    show (∃ name, MdnsOut.serviceFound name address port ∈
      (if r.srvPort > 0 ∧ isOurs data = true then _ else m : MdnsDiscovery).out.drop
        m.out.length) ↔ _
    by_cases hours : r.srvPort > 0 ∧ isOurs data = true
    · rw [if_pos hours, mem_parsed_iff]
      constructor
      · rintro ⟨⟨h0, hknown⟩, haddress, rfl⟩
        have hlast : lastPort records = some r.srvPort := by
          cases hl : lastPort records with
          | none => exact absurd (hport.trans (by rw [hl]; rfl)) h0
          | some p =>
            rw [hport, hl]
            rfl
        exact ⟨ip, haddress, hlast, hip, h0, hours.2, hknown⟩
      · rintro ⟨ip', rfl, htaken⟩
        obtain rfl := hsame ip' htaken
        rw [hsrv htaken]
        exact ⟨⟨htaken.nonzero, htaken.unknown⟩, rfl, rfl⟩
    · rw [if_neg hours]
      refine iff_of_false hnothing ?_
      rintro ⟨ip', -, htaken⟩
      obtain rfl := hsame ip' htaken
      refine hours ⟨?_, htaken.ours⟩
      rw [hsrv htaken]
      exact UInt16.pos_iff_ne_zero.mpr htaken.nonzero

/-- **On a well-formed response** what is reported is right exactly when the last port and the
last address, where they are taken, belong to the M1 service. -/
theorem foundRight_iff (data : List UInt8) (records : List ResourceRecord)
    (h : WellFormed data records) (sender : Option UInt32) (m : MdnsDiscovery) :
    FoundRight records data sender m ↔
      ∀ ip port, Taken records data sender m ip port → RightService records sender ip port := by
  constructor
  · intro hright ip port htaken
    obtain ⟨m', hparse, name, hname⟩ :=
      (found_iff h sender m (dotted ip) port).mpr ⟨ip, rfl, htaken⟩
    obtain ⟨ip', haddress, hservice⟩ := hright m' hparse name _ port hname
    rwa [dotted_injective haddress]
  · intro hall m' hparse name address port hname
    obtain ⟨ip, haddress, htaken⟩ :=
      (found_iff h sender m address port).mp ⟨m', hparse, name, hname⟩
    exact ⟨ip, haddress, hall ip port htaken⟩

/-! ## Two responses -/

/-- a response of two records; the first is `a._m1rpc._tcp.local`, port 9000 at `a.local` -/
def m1Response (second : List UInt8) : List UInt8 :=
  [0, 0, 0x84, 0, 0, 0, 0, 2, 0, 0, 0, 0] ++
    [1, 0x61, 6, 0x5F, 0x6D, 0x31, 0x72, 0x70, 0x63, 4, 0x5F, 0x74, 0x63, 0x70, 5, 0x6C, 0x6F, 0x63,
      0x61, 0x6C, 0] ++ [0, 33, 0, 1, 0, 0, 0, 120, 0, 10] ++
    [0, 0, 0, 0, 0x23, 0x28, 1, 0x61, 0xC0, 26] ++ second

/-- the second is the address of `a.local`, 192.168.1.20 -/
def oneService : List UInt8 :=
  m1Response ([0xC0, 49] ++ [0, 1, 0, 1, 0, 0, 0, 120, 0, 4] ++ [0xC0, 0xA8, 1, 20])

/-- the second is a printer, `p._http._tcp.local`, port 80 at `p.local` -/
def twoServices : List UInt8 :=
  m1Response ([1, 0x70, 5, 0x5F, 0x68, 0x74, 0x74, 0x70, 0xC0, 21] ++
    [0, 33, 0, 1, 0, 0, 0, 120, 0, 10] ++ [0, 0, 0, 0, 0, 80, 1, 0x70, 0xC0, 26])

/-- `local`, `_tcp`, `_m1rpc` and `a` -/
def localLabel : Label := [0x6C, 0x6F, 0x63, 0x61, 0x6C]
def tcpLabel : Label := [0x5F, 0x74, 0x63, 0x70]
def m1rpcLabel : Label := [0x5F, 0x6D, 0x31, 0x72, 0x70, 0x63]
def aLabel : Label := [0x61]

def m1Record : ResourceRecord :=
  ⟨[aLabel, m1rpcLabel, tcpLabel, localLabel], .srv 9000 [aLabel, localLabel]⟩

def m1Address : ResourceRecord := ⟨[aLabel, localLabel], .a 0xC0A80114⟩

def printerRecord : ResourceRecord :=
  ⟨[[0x70], [0x5F, 0x68, 0x74, 0x74, 0x70], tcpLabel, localLabel], .srv 80 [[0x70], localLabel]⟩

theorem m1Response_length (second : List UInt8) : 53 ≤ (m1Response second).length := by
  unfold m1Response
  rw [List.length_append]
  exact Nat.le_add_right 53 second.length

theorem nameAt_local (second : List UInt8) : NameAt (m1Response second) 0 26 [localLabel] 33 :=
  nameAt_wire [localLabel] (by decide) 26 rfl

theorem nameAt_tcp (second : List UInt8) :
    NameAt (m1Response second) 0 21 [tcpLabel, localLabel] 33 :=
  nameAt_wire [tcpLabel, localLabel] (by decide) 21 rfl

theorem nameAt_host (second : List UInt8) :
    NameAt (m1Response second) 1 49 [aLabel, localLabel] 53 := by
  have hlen := m1Response_length second
  have hptr : NameAt (m1Response second) 1 51 [localLabel] 53 :=
    .pointer (show (m1Response second)[51]? = some 0xC0 from rfl) (by decide)
      (show (m1Response second)[52]? = some 26 from rfl) (nameAt_local second)
  exact .label (show (m1Response second)[49]? = some 1 from rfl) (by decide)
    (show 49 + 1 + 1 ≤ _ by omega) hptr

/-- the service's record stands at the front -/
theorem recordsAt_m1 {second : List UInt8} {rest : List ResourceRecord}
    (h : RecordsAt (m1Response second) 53 rest) :
    RecordsAt (m1Response second) 12 (m1Record :: rest) := by
  have hlen := m1Response_length second
  have howner : NameAt (m1Response second) 0 12 m1Record.owner 33 :=
    nameAt_wire [aLabel, m1rpcLabel, tcpLabel, localLabel] (by decide) 12 rfl
  have hword (i : Nat) (hi lo : UInt8) (hhi : (m1Response second).getD i 0 = hi)
      (hlo : (m1Response second).getD (i + 1) 0 = lo) :
      be16 (m1Response second) i = ofLe16 lo hi := by
    unfold be16
    rw [hhi, hlo]
  have htype : be16 (m1Response second) 33 = 33 := (hword 33 0 33 rfl rfl).trans rfl
  have hrdLen : be16 (m1Response second) 41 = 10 := (hword 41 0 10 rfl rfl).trans rfl
  have hport : be16 (m1Response second) 47 = 9000 :=
    (hword 47 0x23 0x28 rfl rfl).trans rfl
  have hdata : RDataAt (m1Response second) 43 10 33 m1Record.rdata := by
    unfold m1Record
    rw [← hport]
    exact .srv (nameAt_host second)
  refine .cons howner ?_ ?_ ?_
  · rw [hrdLen]
    exact hlen
  · rw [hrdLen, htype]
    exact hdata
  · rw [hrdLen]
    exact h

theorem underService_m1 : UnderService m1Record.owner := by
  unfold UnderService m1Service
  rw [utf8_eq, utf8_eq, utf8_eq]
  decide

theorem oneService_wellFormed : WellFormed oneService [m1Record, m1Address] := by
  refine ⟨by decide, by decide, 12, .zero, recordsAt_m1 ?_, by decide⟩
  have howner : NameAt oneService 2 53 m1Address.owner 55 :=
    .pointer (show oneService[53]? = some 0xC0 from rfl) (by decide)
      (show oneService[54]? = some 49 from rfl) (nameAt_host _)
  have hdata : RDataAt oneService 65 4 1 m1Address.rdata := .a rfl
  exact .cons howner (by decide) hdata .nil

theorem twoServices_wellFormed : WellFormed twoServices [m1Record, printerRecord] := by
  refine ⟨by decide, by decide, 12, .zero, recordsAt_m1 ?_, by decide⟩
  have hptr : NameAt twoServices 1 61 [tcpLabel, localLabel] 63 :=
    .pointer (show twoServices[61]? = some 0xC0 from rfl) (by decide)
      (show twoServices[62]? = some 21 from rfl) (nameAt_tcp _)
  have hhttp : NameAt twoServices 1 55 [[0x5F, 0x68, 0x74, 0x74, 0x70], tcpLabel, localLabel] 63 :=
    .label (show twoServices[55]? = some 5 from rfl) (by decide) (by decide) hptr
  have howner : NameAt twoServices 1 53 printerRecord.owner 63 :=
    .label (show twoServices[53]? = some 1 from rfl) (by decide) (by decide) hhttp
  have hlocal : NameAt twoServices 1 81 [localLabel] 83 :=
    .pointer (show twoServices[81]? = some 0xC0 from rfl) (by decide)
      (show twoServices[82]? = some 26 from rfl) (nameAt_local _)
  have hhost : NameAt twoServices 1 79 [[0x70], localLabel] 83 :=
    .label (show twoServices[79]? = some 1 from rfl) (by decide) (by decide) hlocal
  have hdata : RDataAt twoServices 73 10 33 printerRecord.rdata := .srv hhost
  exact .cons howner (by decide) hdata .nil

/-- one responder is reported right -/
theorem oneService_right : WellFormed oneService [m1Record, m1Address] ∧
    FoundRight [m1Record, m1Address] oneService (some 0xC0A80107) {} := by
  refine ⟨oneService_wellFormed,
    (foundRight_iff oneService _ oneService_wellFormed (some 0xC0A80107) {}).mpr ?_⟩
  intro ip port h
  obtain rfl : 9000 = port := Option.some.inj h.lastPort
  obtain rfl : 0xC0A80114 = ip := Option.some.inj h.address
  exact ⟨m1Record, List.mem_cons_self, [aLabel, localLabel], rfl, underService_m1, by decide⟩

/-- of two responders the printer's port is reported -/
theorem twoServices_wrong : WellFormed twoServices [m1Record, printerRecord] ∧
    (∃ m', parseMdnsResponse twoServices (some 0xC0A80114) {} = .ok m' ∧
      m'.out = [.serviceFound "p" "192.168.1.20" 80, .servicesChanged]) ∧
    ¬ FoundRight [m1Record, printerRecord] twoServices (some 0xC0A80114) {} := by
  have hrun : (parseMdnsResponse twoServices (some 0xC0A80114) {}).map MdnsDiscovery.out =
      .ok [.serviceFound "p" "192.168.1.20" 80, .servicesChanged] := by
    decide +kernel
  obtain ⟨m', hm'⟩ : ∃ m', parseMdnsResponse twoServices (some 0xC0A80114) {} = .ok m' := by
    cases hparse : parseMdnsResponse twoServices (some 0xC0A80114) {} with
    | error e =>
      rw [hparse] at hrun
      cases hrun
    | ok m' => exact ⟨m', rfl⟩
  rw [hm'] at hrun
  have hout : m'.out = [.serviceFound "p" "192.168.1.20" 80, .servicesChanged] :=
    Except.ok.inj hrun
  refine ⟨twoServices_wellFormed, ⟨m', hm', hout⟩, fun hright => ?_⟩
  have hmem : MdnsOut.serviceFound "p" "192.168.1.20" 80 ∈ m'.out.drop 0 := by
    rw [hout]
    exact List.mem_cons_self
  obtain ⟨ip, -, r, hr, target, hrdata, hunder, -⟩ := hright m' hm' _ _ _ hmem
  rcases List.mem_cons.mp hr with rfl | hr
  · exact absurd (RData.srv.inj hrdata).1 (by decide)
  · obtain rfl := List.mem_singleton.mp hr
    unfold UnderService m1Service at hunder
    rw [utf8_eq, utf8_eq, utf8_eq] at hunder
    exact absurd hunder (by decide)

end QMon.Transport
