import QMonstatek.Transport.Mdns
import QMonstatek.Updater.Text

/-!
# What the mDNS browser reads of a datagram

`byteAt`, `be16At`, `be32At`   reads of the datagram, an error where one goes past its end;
`readDnsName`                  a name, at any offset;
`readRecords`                  the records, each by its type;
`parseMdnsResponse`            the whole slot.

`recordHeads` is the packet as its layout gives it: the head of every record the parser comes to.
The names never lead past the end (`readDnsName_ok`), the data of a record do where the packet
ends inside them: `parse_inside_iff`.
-/

namespace QMon.Transport
open Rpc Device Updater

/-- a read past the end of the datagram -/
structure PastEnd where
  pos : Nat
  deriving DecidableEq, Repr

def byteAt (data : List UInt8) (i : Nat) : Except PastEnd UInt8 :=
  match data[i]? with
  | some b => .ok b
  | none => .error ⟨i⟩

/-- `qFromBigEndian<quint16>(data.constData() + i)` -/
def be16At (data : List UInt8) (i : Nat) : Except PastEnd UInt16 := do
  let hi ← byteAt data i
  let lo ← byteAt data (i + 1)
  return ofLe16 lo hi

/-- `qFromBigEndian<quint32>(data.constData() + i)` -/
def be32At (data : List UInt8) (i : Nat) : Except PastEnd UInt32 := do
  let b3 ← byteAt data i
  let b2 ← byteAt data (i + 1)
  let b1 ← byteAt data (i + 2)
  let b0 ← byteAt data (i + 3)
  return ofLe32 b0 b1 b2 b3

/-! ## Names -/

def maxJumps : Nat := 10

def isPointer (len : UInt8) : Bool := len &&& 0xC0 == 0xC0

/-- the locals of the loop of `readDnsName` -/
structure NameLoop where
  offset : Nat
  jumps : Nat := 0
  /-- -1 in the source while no pointer was met -/
  savedOffset : Option Nat := none
  name : List Char := []

/-- a label is added to the name -/
def addLabel (name label : List Char) : List Char :=
  (if name.isEmpty then name else name ++ ['.']) ++ label

/-- a turn that jumps leaves fewer jumps, one that reads a label fewer bytes -/
theorem jump_decreases {jumps : Nat} (h : jumps < maxJumps) (size offset target : Nat) :
    (maxJumps - (jumps + 1)) * (size + 1) + (size - target) <
      (maxJumps - jumps) * (size + 1) + (size - offset) := by
  have hj : maxJumps - jumps = (maxJumps - (jumps + 1)) + 1 := by omega
  rw [hj, Nat.add_mul, Nat.one_mul]
  omega

def nameLoop (data : List UInt8) (s : NameLoop) : Except PastEnd NameLoop :=
  if _h : s.offset < data.length ∧ s.jumps < maxJumps then do
    let len ← byteAt data s.offset
    if len = 0 then return { s with offset := s.offset + 1 }
    else if isPointer len then
      if s.offset + 1 ≥ data.length then return s
      else
        let low ← byteAt data (s.offset + 1)
        nameLoop data { s with
          offset := (len &&& 0x3F).toNat <<< 8 ||| low.toNat
          jumps := s.jumps + 1
          savedOffset := s.savedOffset.or (some (s.offset + 2)) }
    else if s.offset + 1 + len.toNat > data.length then return { s with offset := s.offset + 1 }
    else
      nameLoop data { s with
        offset := s.offset + 1 + len.toNat
        -- `mid` ends at the end of the datagram by itself
        name := addLabel s.name (fromUtf8 (mid data (s.offset + 1 : Nat) len.toNat)) }
  else return s
termination_by (maxJumps - s.jumps) * (data.length + 1) + (data.length - s.offset)
decreasing_by
  · exact jump_decreases _h.2 _ _ _
  · show _ + (data.length - (s.offset + 1 + len.toNat)) < _
    omega

/-- the name, and the offset behind it -/
def readDnsName (data : List UInt8) (offset : Nat) : Except PastEnd (List Char × Nat) := do
  let s ← nameLoop data { offset := offset }
  return (s.name, s.savedOffset.getD s.offset)

/-! ## Records -/

/-- the locals of `parseMdnsResponse` that the records fill -/
structure Records where
  srvHost : List Char := []
  srvPort : UInt16 := 0
  instanceName : List Char := []
  /-- `none` for a null address -/
  resolvedIp : Option UInt32 := none
  deriving DecidableEq, Repr

/-- the questions: type and class are skipped behind each name -/
def skipQuestions (data : List UInt8) : Nat → Nat → Except PastEnd Nat
  | 0, offset => .ok offset
  | n + 1, offset =>
    if offset < data.length then do
      let r ← readDnsName data offset
      skipQuestions data n (r.2 + 4)
    else .ok offset

/-- what a record of type `rrType` at `rdStart` fills in -/
def readRecord (data : List UInt8) (rrName : List Char) (rrType rdLen : UInt16) (rdStart : Nat)
    (r : Records) : Except PastEnd Records :=
  if rrType = 33 ∧ rdLen ≥ 6 then do
    -- priority and weight are skipped
    let srvPort ← be16At data (rdStart + 4)
    let host ← readDnsName data (rdStart + 6)
    return { r with
      srvPort := srvPort, srvHost := host.1
      instanceName := rrName.takeWhile fun c => c != '.' }
  else if rrType = 1 ∧ rdLen = 4 then do
    let ip ← be32At data rdStart
    return { r with resolvedIp := some ip }
  else return r

def readRecords (data : List UInt8) : Nat → Nat → Records → Except PastEnd Records
  | 0, _, r => .ok r
  | n + 1, offset, r =>
    if offset < data.length then do
      let name ← readDnsName data offset
      if name.2 + 10 > data.length then return r
      else
        let rrType ← be16At data name.2
        let _rrClass ← be16At data (name.2 + 2)
        let _rrTtl ← be32At data (name.2 + 4)
        let rdLen ← be16At data (name.2 + 8)
        let r ← readRecord data name.1 rrType rdLen (name.2 + 10) r
        readRecords data n (name.2 + 10 + rdLen.toNat) r
    else .ok r

/-- `_m1rpc` occurs in the datagram -/
def isOurs (data : List UInt8) : Bool :=
  (List.range (data.length - 5)).any fun i => mid data i 6 == utf8 "_m1rpc"

def parseMdnsResponse (data : List UInt8) (sender : Option UInt32) (m : MdnsDiscovery) :
    Except PastEnd MdnsDiscovery :=
  if data.length < 12 then return m
  else do
    let flags ← be16At data 2
    if flags &&& 0x8000 = 0 then return m
    else
      let qdCount ← be16At data 4
      let anCount ← be16At data 6
      let nsCount ← be16At data 8
      let arCount ← be16At data 10
      let offset ← skipQuestions data qdCount.toNat 12
      let totalRR := anCount.toNat + nsCount.toNat + arCount.toNat
      let r ← readRecords data totalRR offset {}
      match r.resolvedIp.or sender with
      | none => return m
      | some ip =>
        if r.srvPort > 0 ∧ isOurs data then
          return m.parsed (String.ofList r.instanceName) (String.ofList r.srvHost) ip r.srvPort
        else return m

/-! ## Reads inside the datagram -/

variable (data : List UInt8)

theorem byteAt_of_lt {i : Nat} (h : i < data.length) : byteAt data i = .ok (data.getD i 0) := by
  unfold byteAt
  rw [List.getD_eq_getElem?_getD, List.getElem?_eq_getElem h]
  rfl

theorem byteAt_of_le {i : Nat} (h : data.length ≤ i) : byteAt data i = .error ⟨i⟩ := by
  unfold byteAt
  rw [List.getElem?_eq_none h]

/-- the 16-bit value at `i`, low bytes that are missing being 0 -/
def be16 (i : Nat) : UInt16 := ofLe16 (data.getD (i + 1) 0) (data.getD i 0)

theorem be16At_of_le {i : Nat} (h : i + 2 ≤ data.length) : be16At data i = .ok (be16 data i) := by
  unfold be16At
  rw [byteAt_of_lt data (by omega), byteAt_of_lt data (by omega)]
  rfl

/-- what goes on into an error is an error -/
theorem bind_error {α β : Type} {f : α → Except PastEnd β} (h : ∀ a, ∃ e, f a = .error e)
    (x : Except PastEnd α) : ∃ e, (x >>= f) = .error e := by
  cases x with
  | error e => exact ⟨e, rfl⟩
  | ok a => exact h a

theorem be16At_past {i : Nat} (h : data.length < i + 2) : ∃ e, be16At data i = .error e := by
  have hlast : byteAt data (i + 1) = .error ⟨i + 1⟩ := byteAt_of_le data (by omega)
  unfold be16At
  refine bind_error (fun hi => ?_) _
  rw [hlast]
  exact ⟨_, rfl⟩

theorem be32At_of_le {i : Nat} (h : i + 4 ≤ data.length) : ∃ v, be32At data i = .ok v := by
  unfold be32At
  rw [byteAt_of_lt data (by omega), byteAt_of_lt data (by omega), byteAt_of_lt data (by omega),
    byteAt_of_lt data (by omega)]
  exact ⟨_, rfl⟩

theorem be32At_past {i : Nat} (h : data.length < i + 4) : ∃ e, be32At data i = .error e := by
  have hlast : byteAt data (i + 3) = .error ⟨i + 3⟩ := byteAt_of_le data (by omega)
  unfold be32At
  refine bind_error (fun b3 => bind_error (fun b2 => bind_error (fun b1 => ?_) _) _) _
  rw [hlast]
  exact ⟨_, rfl⟩

/-! ## Names never lead past the end -/

/-- where the name at `offset` ends, whatever its pointer leads to -/
def nameEnd (offset : Nat) : Nat :=
  if _h : offset < data.length then
    let len := data.getD offset 0
    if len = 0 then offset + 1
    else if isPointer len then if offset + 1 ≥ data.length then offset else offset + 2
    else if offset + 1 + len.toNat > data.length then offset + 1
    else nameEnd (offset + 1 + len.toNat)
  else offset
termination_by data.length - offset

/-- **A turn of the loop** ends the name, follows a pointer or reads a label. -/
theorem nameLoop_turn (s : NameLoop) (hs : s.offset < data.length ∧ s.jumps < maxJumps) :
    nameLoop data s = .ok { s with offset := nameEnd data s.offset } ∨
    (∃ len low : UInt8, ¬ s.offset + 1 ≥ data.length ∧ nameEnd data s.offset = s.offset + 2 ∧
      nameLoop data s = nameLoop data { s with
        offset := (len &&& 0x3F).toNat <<< 8 ||| low.toNat
        jumps := s.jumps + 1
        savedOffset := s.savedOffset.or (some (s.offset + 2)) }) ∨
    ∃ len : UInt8, ¬ s.offset + 1 + len.toNat > data.length ∧
      nameEnd data s.offset = nameEnd data (s.offset + 1 + len.toNat) ∧
      nameLoop data s = nameLoop data { s with
        offset := s.offset + 1 + len.toNat
        name := addLabel s.name (fromUtf8 (mid data (s.offset + 1 : Nat) len.toNat)) } := by
  let stopAt (o : Nat) : Except PastEnd NameLoop := .ok { s with offset := o }
  rw [nameLoop, dif_pos hs, byteAt_of_lt data hs.1, nameEnd, dif_pos hs.1]
  generalize data.getD s.offset 0 = len
  show (if len = 0 then _ else _) = _ ∨ _
  by_cases h0 : len = 0
  · left
    rw [if_pos h0]
    exact congrArg stopAt (if_pos h0).symm
  by_cases hp : isPointer len = true
  · by_cases hlast : s.offset + 1 ≥ data.length
    · left
      rw [if_neg h0, if_pos hp, if_pos hlast]
      exact congrArg stopAt ((if_neg h0).trans ((if_pos hp).trans (if_pos hlast))).symm
    · right
      left
      refine ⟨len, data.getD (s.offset + 1) 0, hlast,
        (if_neg h0).trans ((if_pos hp).trans (if_neg hlast)), ?_⟩
      show (if len = 0 then _ else _) = _
      rw [if_neg h0, if_pos hp, if_neg hlast, byteAt_of_lt data (by omega)]
      rfl
  · by_cases hlong : s.offset + 1 + len.toNat > data.length
    · left
      rw [if_neg h0, if_neg hp, if_pos hlong]
      exact congrArg stopAt ((if_neg h0).trans ((if_neg hp).trans (if_pos hlong))).symm
    · right
      right
      refine ⟨len, hlong, (if_neg h0).trans ((if_neg hp).trans (if_neg hlong)), ?_⟩
      show (if len = 0 then _ else _) = _
      rw [if_neg h0, if_neg hp, if_neg hlong]

/-- until a pointer is met the loop is at the name itself; from then on its end is known -/
theorem nameLoop_ok (s : NameLoop) (hj : s.savedOffset = none → s.jumps < maxJumps) :
    ∃ s', nameLoop data s = .ok s' ∧
      s'.savedOffset.getD s'.offset = s.savedOffset.getD (nameEnd data s.offset) := by
  induction s using nameLoop.induct data with
  | case1 s hs jump label =>
    rcases nameLoop_turn data s hs with hstop | ⟨len, low, -, hnext, hturn⟩ |
      ⟨len, hin, hnext, hturn⟩
    · exact ⟨_, hstop, rfl⟩
    · obtain ⟨s', hs', hend⟩ := jump len low (by simp)
      refine ⟨s', hturn.trans hs', ?_⟩
      rw [hend, hnext]
      cases s.savedOffset <;> rfl
    · obtain ⟨s', hs', hend⟩ := label len hin hj
      refine ⟨s', hturn.trans hs', ?_⟩
      rw [hend, hnext]
  | case2 s hs =>
    rw [nameLoop, dif_neg hs]
    refine ⟨s, rfl, ?_⟩
    cases hsaved : s.savedOffset with
    | some o => rfl
    | none =>
      have hpast : ¬ s.offset < data.length := fun h => hs ⟨h, hj hsaved⟩
      rw [nameEnd, dif_neg hpast]

theorem readDnsName_ok (offset : Nat) :
    ∃ name, readDnsName data offset = .ok (name, nameEnd data offset) := by
  obtain ⟨s, hs, hend⟩ := nameLoop_ok data { offset := offset } fun _ => Nat.succ_pos 9
  unfold readDnsName
  rw [hs]
  refine ⟨s.name, ?_⟩
  show Except.ok (s.name, s.savedOffset.getD s.offset) = _
  rw [hend]
  rfl

/-! ## The heads of the records -/

structure RecordHead where
  rrType : UInt16
  rdLen : UInt16
  rdStart : Nat
  deriving DecidableEq, Repr

/-- the head that follows a name which ends at `offset` -/
def recordHeadAt (offset : Nat) : RecordHead :=
  ⟨be16 data offset, be16 data (offset + 8), offset + 10⟩

def questionsEnd : Nat → Nat → Nat
  | 0, offset => offset
  | n + 1, offset =>
    if offset < data.length then questionsEnd n (nameEnd data offset + 4) else offset

/-- the heads of at most `n` records from `offset` on, as far as the packet holds them -/
def headsFrom : Nat → Nat → List RecordHead
  | 0, _ => []
  | n + 1, offset =>
    if offset < data.length ∧ nameEnd data offset + 10 ≤ data.length then
      let h := recordHeadAt data (nameEnd data offset)
      h :: headsFrom n (h.rdStart + h.rdLen.toNat)
    else []

/-- the heads of the records of a response, none of another packet -/
def recordHeads : List RecordHead :=
  if data.length < 12 ∨ be16 data 2 &&& 0x8000 = 0 then []
  else
    headsFrom data ((be16 data 6).toNat + (be16 data 8).toNat + (be16 data 10).toNat)
      (questionsEnd data (be16 data 4).toNat 12)

/-- the data the parser takes from a record lie inside the packet: priority, weight and port of an
SRV record, the address of an A record -/
def RecordHead.Inside (size : Nat) (h : RecordHead) : Prop :=
  (h.rrType = 33 ∧ h.rdLen ≥ 6 → h.rdStart + 6 ≤ size) ∧
    (h.rrType = 1 ∧ h.rdLen = 4 → h.rdStart + 4 ≤ size)

instance (size : Nat) (h : RecordHead) : Decidable (h.Inside size) :=
  inferInstanceAs (Decidable (_ ∧ _))

theorem skipQuestions_ok (n offset : Nat) :
    skipQuestions data n offset = .ok (questionsEnd data n offset) := by
  induction n generalizing offset with
  | zero => rfl
  | succ n ih =>
    unfold skipQuestions questionsEnd
    by_cases h : offset < data.length
    · obtain ⟨name, hname⟩ := readDnsName_ok data offset
      rw [if_pos h, if_pos h, hname]
      exact ih _
    · rw [if_neg h, if_neg h]

theorem readRecord_isOk (rrName : List Char) (h : RecordHead) (r : Records) :
    (readRecord data rrName h.rrType h.rdLen h.rdStart r).isOk = true ↔
      h.Inside data.length := by
  unfold readRecord RecordHead.Inside
  by_cases hsrv : h.rrType = 33 ∧ h.rdLen ≥ 6
  · have ha : ¬ (h.rrType = 1 ∧ h.rdLen = 4) := by
      rintro ⟨h1, -⟩
      rw [h1] at hsrv
      exact absurd hsrv.1 (by decide)
    rw [if_pos hsrv]
    by_cases hin : h.rdStart + 6 ≤ data.length
    · obtain ⟨host, hhost⟩ := readDnsName_ok data (h.rdStart + 6)
      rw [be16At_of_le data (by omega), hhost]
      exact iff_of_true rfl ⟨fun _ => hin, fun h => absurd h ha⟩
    · obtain ⟨e, he⟩ := be16At_past data (i := h.rdStart + 4) (by omega)
      rw [he]
      exact iff_of_false Bool.false_ne_true fun h => hin (h.1 hsrv)
  · rw [if_neg hsrv]
    by_cases ha : h.rrType = 1 ∧ h.rdLen = 4
    · rw [if_pos ha]
      by_cases hin : h.rdStart + 4 ≤ data.length
      · obtain ⟨v, hv⟩ := be32At_of_le data hin
        rw [hv]
        exact iff_of_true rfl ⟨fun h => absurd h hsrv, fun _ => hin⟩
      · obtain ⟨e, he⟩ := be32At_past data (i := h.rdStart) (by omega)
        rw [he]
        exact iff_of_false Bool.false_ne_true fun h => hin (h.2 ha)
    · rw [if_neg ha]
      exact iff_of_true rfl ⟨fun h => absurd h hsrv, fun h => absurd h ha⟩

theorem headsFrom_succ {n offset : Nat} (hin : offset < data.length)
    (hhead : nameEnd data offset + 10 ≤ data.length) :
    headsFrom data (n + 1) offset =
      recordHeadAt data (nameEnd data offset) ::
        headsFrom data n (nameEnd data offset + 10 + (be16 data (nameEnd data offset + 8)).toNat) :=
  if_pos ⟨hin, hhead⟩

theorem readRecords_isOk (n offset : Nat) (r : Records) :
    (readRecords data n offset r).isOk = true ↔
      ∀ h ∈ headsFrom data n offset, h.Inside data.length := by
  induction n generalizing offset r with
  | zero => exact iff_of_true rfl fun _ hm => absurd hm List.not_mem_nil
  | succ n ih =>
    unfold readRecords
    by_cases hin : offset < data.length
    · obtain ⟨name, hname⟩ := readDnsName_ok data offset
      rw [if_pos hin, hname]
      show (if nameEnd data offset + 10 > data.length then _ else _ : Except _ _).isOk = true ↔ _
      by_cases hhead : nameEnd data offset + 10 ≤ data.length
      · obtain ⟨ttl, httl⟩ := be32At_of_le data (i := nameEnd data offset + 4) (by omega)
        rw [if_neg (by omega), be16At_of_le data (by omega), be16At_of_le data (by omega), httl,
          be16At_of_le data (by omega), headsFrom_succ data hin hhead, List.forall_mem_cons,
          ← readRecord_isOk data name (recordHeadAt data (nameEnd data offset)) r]
        show (readRecord data name (be16 data (nameEnd data offset))
          (be16 data (nameEnd data offset + 8)) (nameEnd data offset + 10) r >>= _).isOk = true ↔
          (readRecord data name (be16 data (nameEnd data offset))
            (be16 data (nameEnd data offset + 8)) (nameEnd data offset + 10) r).isOk = true ∧ _
        cases readRecord data name (be16 data (nameEnd data offset))
          (be16 data (nameEnd data offset + 8)) (nameEnd data offset + 10) r with
        | error e => exact iff_of_false Bool.false_ne_true fun h => Bool.false_ne_true h.1
        | ok r' => exact (ih _ r').trans (and_iff_right rfl).symm
      · rw [if_pos (by omega)]
        unfold headsFrom
        rw [if_neg fun h => hhead h.2]
        exact iff_of_true rfl fun _ hm => absurd hm List.not_mem_nil
    · rw [if_neg hin]
      unfold headsFrom
      rw [if_neg fun h => hin h.1]
      exact iff_of_true rfl fun _ hm => absurd hm List.not_mem_nil

/-- what follows the records reads nothing by position -/
theorem parse_isOk (sender : Option UInt32) (m : MdnsDiscovery) :
    (parseMdnsResponse data sender m).isOk = true ↔
      ∀ h ∈ recordHeads data, h.Inside data.length := by
  unfold parseMdnsResponse recordHeads
  by_cases hshort : data.length < 12
  · rw [if_pos hshort, if_pos (.inl hshort)]
    exact iff_of_true rfl fun _ hm => absurd hm List.not_mem_nil
  rw [if_neg hshort, be16At_of_le data (by omega)]
  show (if be16 data 2 &&& 0x8000 = 0 then _ else _ : Except _ _).isOk = true ↔ _
  by_cases hflag : be16 data 2 &&& 0x8000 = 0
  · rw [if_pos hflag, if_pos (.inr hflag)]
    exact iff_of_true rfl fun _ hm => absurd hm List.not_mem_nil
  rw [if_neg hflag, if_neg (not_or.mpr ⟨hshort, hflag⟩), be16At_of_le data (by omega),
    be16At_of_le data (by omega), be16At_of_le data (by omega), be16At_of_le data (by omega),
    ← readRecords_isOk data _ _ {}]
  show (skipQuestions data (be16 data 4).toNat 12 >>= _).isOk = true ↔ _
  rw [skipQuestions_ok]
  show (readRecords data _ _ {} >>= _).isOk = true ↔ _
  cases readRecords data ((be16 data 6).toNat + (be16 data 8).toNat + (be16 data 10).toNat)
    (questionsEnd data (be16 data 4).toNat 12) {} with
  | error e => exact Iff.rfl
  | ok r =>
    refine iff_of_true ?_ rfl
    show (match r.resolvedIp.or sender with
      | none => _
      | some ip => _ : Except PastEnd MdnsDiscovery).isOk = true
    cases r.resolvedIp.or sender with
    | none => rfl
    | some ip =>
      show (if _ then _ else _ : Except _ _).isOk = true
      split <;> rfl

/-- **Reads of a datagram.** A name is read inside it, at any offset; the slot stays inside it iff
it holds the data of each record whose head it holds. -/
theorem parse_inside_iff (sender : Option UInt32) (m : MdnsDiscovery) :
    (∀ offset, (readDnsName data offset).isOk = true) ∧
      ((parseMdnsResponse data sender m).isOk = true ↔
        ∀ h ∈ recordHeads data, h.Inside data.length) := by
  refine ⟨fun offset => ?_, parse_isOk data sender m⟩
  obtain ⟨name, hname⟩ := readDnsName_ok data offset
  rw [hname]
  rfl

/-- a response of one SRV record that ends behind the head of the record -/
def cutSrv : List UInt8 :=
  [0, 0, 0x84, 0, 0, 0, 0, 1, 0, 0, 0, 0] ++ [0] ++ [0, 33, 0, 1, 0, 0, 0, 120, 0, 6]

/-- the port is read 4 bytes past the end -/
theorem cutSrv_past : byteAt cutSrv 27 = .error ⟨27⟩ ∧ cutSrv.length = 23 ∧
    (parseMdnsResponse cutSrv (some 0xC0A80114) {}).isOk = false := by
  decide +kernel

end QMon.Transport
