import QMonstatek.Lib.Joining
import QMonstatek.Transport.DnsMessage

/-!
# What a DNS name is read as

The loop of `readDnsName` follows the pointers of a stored name label by label
(`nameLoop_nameAt`), jumps at most ten times whatever the bytes are (`nameLoop_jumps_le`), and goes
on behind the first pointer.

The text should be the labels with dots between them.  Each label is read on its own, so a byte
order mark in front of it is lost; a first label that is nothing else leaves an empty text, and the
dot behind it is lost too, because the dot is put when the text is not empty:
`readDnsName_joined_iff`.
-/

namespace QMon.Transport
open Device
open Updater (fromUtf8 utf8bom decode)
open Joining (push)

/-- the characters of a label, a U+FEFF in front being one of them -/
def labelText (label : Label) : List Char := decode 0 label

/-- texts with dots between them -/
def dotJoined (texts : List (List Char)) : List Char := ['.'].intercalate texts

variable {data : List UInt8}

/-! ## The loop -/

theorem byteAt_of_getElem? {i : Nat} {b : UInt8} (h : data[i]? = some b) :
    byteAt data i = .ok b := by
  unfold byteAt
  rw [h]

/-- **At most ten jumps**, wherever the pointers lead. -/
theorem nameLoop_jumps_le {s s' : NameLoop} (hj : s.jumps ≤ maxJumps)
    (h : nameLoop data s = .ok s') : s'.jumps ≤ maxJumps := by
  induction s using nameLoop.induct data with
  | case1 s hs jump label =>
    rcases nameLoop_turn data s hs with hstop | ⟨len, low, -, -, hturn⟩ | ⟨len, hin, -, hturn⟩
    · cases hstop.symm.trans h
      exact hj
    · exact jump len low hs.2 (hturn.symm.trans h)
    · exact label len hin hj (hturn.symm.trans h)
  | case2 s hs =>
    rw [nameLoop, dif_neg hs] at h
    cases h
    exact hj

/-- a pointer to itself -/
example : readDnsName [0xC0, 0] 0 = .ok ([], 2) := by decide +kernel

/-- what the loop makes of the labels of a name -/
def addLabels (name : List Char) (labels : List Label) : List Char :=
  (labels.map fromUtf8).foldl (push '.') name

/-- **A stored name** is followed to its end: a jump for each pointer, the text of each label, and
the offset behind the first pointer or behind the root byte. -/
theorem nameLoop_nameAt {hops offset next : Nat} {labels : List Label}
    (h : NameAt data hops offset labels next) (s : NameLoop) (hs : s.offset = offset)
    (hj : s.jumps + hops < maxJumps) :
    ∃ s', nameLoop data s = .ok s' ∧ s'.jumps = s.jumps + hops ∧
      s'.name = addLabels s.name labels ∧
      s'.savedOffset.getD s'.offset = s.savedOffset.getD next := by
  induction h generalizing s with
  | root h =>
    subst hs
    rw [nameLoop, dif_pos ⟨lt_of_getElem? h, hj⟩, byteAt_of_getElem? h]
    exact ⟨{ s with offset := s.offset + 1 }, rfl, rfl, rfl, rfl⟩
  | label h hlen hin rest ih =>
    rename_i offset hops next len labels
    subst hs
    rw [nameLoop, dif_pos ⟨lt_of_getElem? h, by omega⟩, byteAt_of_getElem? h]
    show ∃ s', (if len = 0 then _ else _) = _ ∧ _
    rw [if_neg (ne_zero_of_pos hlen.1), if_neg (not_isPointer_of_le hlen.2),
      if_neg (Nat.not_lt.mpr hin), mid_of_le _ _ _ (by omega)]
    exact ih _ rfl hj
  | pointer h hp hlo rest ih =>
    rename_i offset hops next hi lo labels
    subst hs
    have hlast : ¬ s.offset + 1 ≥ data.length := Nat.not_le_of_lt (lt_of_getElem? hlo)
    rw [nameLoop, dif_pos ⟨lt_of_getElem? h, by omega⟩, byteAt_of_getElem? h]
    show ∃ s', (if hi = 0 then _ else _) = _ ∧ _
    rw [if_neg (ne_zero_of_isPointer hp), if_pos hp, if_neg hlast, byteAt_of_getElem? hlo]
    obtain ⟨s', hs', hjumps, hname, hnext⟩ := ih
      { s with
        offset := pointerTarget hi lo
        jumps := s.jumps + 1
        savedOffset := s.savedOffset.or (some (s.offset + 2)) } rfl (by show _ + 1 + _ < _; omega)
    refine ⟨s', hs', ?_, hname, ?_⟩
    · rw [hjumps]
      show s.jumps + 1 + hops = _
      omega
    · rw [hnext]
      show (s.savedOffset.or (some (s.offset + 2))).getD next = _
      cases s.savedOffset <;> rfl

theorem readDnsName_nameAt {hops offset next : Nat} {labels : List Label}
    (h : NameAt data hops offset labels next) (hhops : hops ≤ 9) :
    readDnsName data offset = .ok (addLabels [] labels, next) := by
  obtain ⟨s', hs', -, hname, hnext⟩ := nameLoop_nameAt h { offset := offset } rfl
    (show 0 + hops < 10 by omega)
  unfold readDnsName
  rw [hs']
  show Except.ok (s'.name, s'.savedOffset.getD s'.offset) = _
  rw [hname, hnext]
  rfl

/-! ## The text -/

theorem NameAt.ne_nil {hops offset next : Nat} {labels : List Label}
    (h : NameAt data hops offset labels next) : ∀ label ∈ labels, label ≠ [] := by
  induction h with
  | root h => exact fun _ hm => absurd hm List.not_mem_nil
  | label h hlen hin rest ih =>
    refine List.forall_mem_cons.mpr ⟨fun hnil => ?_, ih⟩
    have hlength := congrArg List.length hnil
    rw [List.length_take, List.length_drop, List.length_nil] at hlength
    omega
  | pointer h hp hlo rest ih => exact ih

/-- **As `fromUtf8` reads them** the labels are joined, unless the first of several has no text. -/
theorem addLabels_eq_texts_iff {labels : List Label} (hne : ∀ label ∈ labels, label ≠ []) :
    addLabels [] labels = dotJoined (labels.map fromUtf8) ↔
      (labels.head? = some utf8bom → labels.length = 1) := by
  unfold addLabels dotJoined
  rw [Joining.foldl_push_eq_iff, List.length_map, List.head?_map]
  cases labels with
  | nil => exact iff_of_true (fun h => absurd h (by simp)) fun h => absurd h (by simp)
  | cons label labels =>
    have hempty := Updater.fromUtf8_eq_nil_iff (hne label List.mem_cons_self)
    simp only [List.head?_cons, Option.map_some, Option.some.injEq, hempty]

theorem length_fromUtf8_le (label : Label) :
    (fromUtf8 label).length ≤ (labelText label).length := by
  unfold labelText
  cases hm : utf8bom.isPrefixOf label with
  | true =>
    rw [Updater.decode_of_marked hm]
    exact Nat.le_succ _
  | false => rw [Updater.fromUtf8_of_unmarked hm]

/-- **As they stand** the labels are joined iff none has a byte order mark in front. -/
theorem addLabels_eq_labelTexts_iff {labels : List Label} (hne : ∀ label ∈ labels, label ≠ []) :
    addLabels [] labels = dotJoined (labels.map labelText) ↔
      ∀ label ∈ labels, utf8bom.isPrefixOf label = false := by
  constructor
  · intro heq label hmem
    by_contra hmarked
    -- the text is one character short for this label, and too long for none
    have hshort : (fromUtf8 label).length < (labelText label).length := by
      unfold labelText
      rw [Updater.decode_of_marked (Bool.eq_true_of_not_eq_false hmarked)]
      exact Nat.lt_succ_self _
    have hlt := Joining.length_intercalate_lt '.' (fun l _ => length_fromUtf8_le l)
      ⟨label, hmem, hshort⟩
    have hle := Joining.length_foldl_push_le '.' (labels.map fromUtf8)
    have hlen := congrArg List.length heq
    unfold addLabels dotJoined at hlen
    omega
  · intro hun
    have htexts : labels.map labelText = labels.map fromUtf8 :=
      List.map_congr_left fun label hmem => (Updater.fromUtf8_of_unmarked (hun label hmem)).symm
    rw [htexts, addLabels_eq_texts_iff hne]
    intro hhead
    exact absurd (hun utf8bom (List.mem_of_head? hhead)) (by decide)

/-- **Name expansion.** Whatever the bytes are, the loop ends, after at most ten jumps.  A stored
name with at most nine pointers on the way is read up to its end or its first pointer; its text is
the labels with dots between them iff no label has a byte order mark in front, and, a mark in front
not counted, iff the first label is more than a mark or the only one. -/
theorem readDnsName_joined_iff (data : List UInt8) (offset : Nat) :
    (∃ s, nameLoop data { offset := offset } = .ok s ∧ s.jumps ≤ 10 ∧
        readDnsName data offset = .ok (s.name, s.savedOffset.getD s.offset)) ∧
      ∀ hops labels next, NameAt data hops offset labels next → hops ≤ 9 →
        (∃ name, readDnsName data offset = .ok (name, next)) ∧
        (readDnsName data offset = .ok (dotJoined (labels.map labelText), next) ↔
          ∀ label ∈ labels, utf8bom.isPrefixOf label = false) ∧
        (readDnsName data offset = .ok (dotJoined (labels.map fromUtf8), next) ↔
          (labels.head? = some utf8bom → labels.length = 1)) := by
  refine ⟨?_, fun hops labels next h hhops => ?_⟩
  · obtain ⟨s, hs, -⟩ := nameLoop_ok data { offset := offset } fun _ => Nat.succ_pos 9
    refine ⟨s, hs, nameLoop_jumps_le (Nat.zero_le _) hs, ?_⟩
    unfold readDnsName
    rw [hs]
    rfl
  · have hread := readDnsName_nameAt h hhops
    have hname (text : List Char) :
        readDnsName data offset = .ok (text, next) ↔ addLabels [] labels = text := by
      rw [hread, Except.ok.injEq, Prod.mk.injEq, and_iff_left rfl]
    rw [hname, hname]
    exact ⟨⟨_, hread⟩, addLabels_eq_labelTexts_iff h.ne_nil, addLabels_eq_texts_iff h.ne_nil⟩

/-- "m1" -/
def hostLabel : Label := [0x6D, 0x31]

/-- "m1", and behind it a label "a" with a pointer there -/
def compressed : List UInt8 := wire [hostLabel] ++ 0 :: [1, 0x61, 0xC0, 0]

theorem compressed_nameAt : NameAt compressed 1 4 [[0x61], hostLabel] 8 := by
  have hhost : NameAt compressed 0 0 [hostLabel] 4 :=
    nameAt_wire [hostLabel] (by decide) 0 rfl
  have hpointer : NameAt compressed 1 6 [hostLabel] 8 :=
    NameAt.pointer (show compressed[6]? = some 0xC0 from rfl) rfl rfl hhost
  exact NameAt.label (show compressed[4]? = some 1 from rfl) (by decide) (by decide) hpointer

theorem compressed_read : readDnsName compressed 4 = .ok ("a.m1".toList, 8) :=
  ((readDnsName_joined_iff compressed 4).2 1 [[0x61], hostLabel] 8 compressed_nameAt
    (by decide)).2.1.mpr (by decide)

/-- a response of one record, whose name is a byte order mark and "m1" -/
def markedName : List UInt8 :=
  [0, 0, 0x84, 0, 0, 0, 0, 1, 0, 0, 0, 0] ++ (wire [utf8bom, hostLabel] ++ 0 ::
    [0, 1, 0, 1, 0, 0, 0, 120, 0, 4, 192, 168, 1, 20])

/-- the mark is lost, and the dot -/
theorem markedName_dotless :
    NameAt markedName 0 12 [utf8bom, hostLabel] 20 ∧
      readDnsName markedName 12 = .ok ("m1".toList, 20) ∧
      readDnsName markedName 12 ≠ .ok (dotJoined ([utf8bom, hostLabel].map labelText), 20) ∧
      readDnsName markedName 12 ≠ .ok (dotJoined ([utf8bom, hostLabel].map fromUtf8), 20) := by
  have hread : readDnsName markedName 12 = .ok ("m1".toList, 20) := by decide +kernel
  refine ⟨?_, hread, ?_, ?_⟩
  · exact nameAt_wire [utf8bom, hostLabel] (by decide) 12 rfl
  · rw [hread]
    decide
  · rw [hread]
    decide

end QMon.Transport
