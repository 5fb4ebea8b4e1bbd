import QMonstatek.Device.FileList

/-!
# The path in front of a listing

The records are looked for behind the text of the path, written again as UTF-8.  That is not where
the path ends: each byte that starts no character has become three bytes of U+FFFD, and a byte
order mark is gone.  `recordShift` is the distance.  Two paths in front of the same records give
the same entries when their distances agree, and, where the records are looked for three bytes too
early, their last bytes: `entriesBehind_eq_iff`.
-/

namespace QMon.Device
open Rpc
open Updater (fromUtf8 utf8bom invalidBytes)

/-- where the records are looked for, from the byte behind the path's NUL -/
def recordShift (path : List UInt8) : Int :=
  2 * invalidBytes 0 path - if utf8bom.isPrefixOf path then 3 else 0

/-- the entries reported for the record bytes `r` behind the path bytes `p` -/
def entriesBehind (p r : List UInt8) : Option (List ListedEntry) :=
  (handleFileListResp (p ++ 0 :: r)).map Prod.snd

/-- two paths behind which records are read alike -/
structure SameStart (p q : List UInt8) : Prop where
  invalid : invalidBytes 0 p = invalidBytes 0 q
  marked : utf8bom.isPrefixOf p = utf8bom.isPrefixOf q
  /-- the first size takes in the last byte of the path -/
  last : utf8bom.isPrefixOf p = true → invalidBytes 0 p = 0 → p.getLast? = q.getLast?

/-! ## Where the records are looked for -/

/-- **The offset** of the first record, for any bytes of the path. -/
theorem recordsAt_eq (path : List UInt8) :
    (((utf8 (String.ofList (fromUtf8 path))).length + 1 : Nat) : Int) =
      path.length + 1 + recordShift path := by
  have hlen := Updater.length_fromUtf8 path
  unfold recordShift
  rw [utf8_eq, String.toList_ofList]
  split at hlen
  · rename_i hbom
    rw [if_pos hbom]
    omega
  · rename_i hbom
    rw [if_neg hbom]
    omega

theorem handleFileListResp_path {p : List UInt8} (hp : 0 ∉ p) (r : List UInt8) :
    handleFileListResp (p ++ 0 :: r) =
      some (String.ofList (fromUtf8 p),
        readEntries (p ++ 0 :: r) ((utf8 (String.ofList (fromUtf8 p))).length + 1)) := by
  have hne : ¬ (p ++ 0 :: r).length < 1 := by
    rw [List.length_append, List.length_cons]
    omega
  have hpath : (p ++ 0 :: r).takeWhile (fun b => b != 0) = p := untilNul_append hp r
  unfold handleFileListResp
  rw [if_neg hne, hpath]

/-- what stands in front of `offset` is not read -/
theorem readEntries_append (front data : List UInt8) (offset : Nat) :
    readEntries (front ++ data) (front.length + offset) = readEntries data offset := by
  have hat (i : Nat) : (front ++ data).getD (front.length + i) 0 = data.getD i 0 := by
    rw [List.getD_eq_getElem?_getD, List.getElem?_append_right (Nat.le_add_right _ _),
      Nat.add_sub_cancel_left, List.getD_eq_getElem?_getD]
  have hdrop (i : Nat) : (front ++ data).drop (front.length + i) = data.drop i := by
    rw [List.drop_append, List.drop_eq_nil_of_le (Nat.le_add_right _ _), List.nil_append,
      Nat.add_sub_cancel_left]
  fun_induction readEntries data offset with
  | case1 offset hfits name ih =>
    have hlong : front.length + offset + 9 < (front ++ data).length := by
      rw [List.length_append]
      omega
    rw [readEntries, if_pos hlong]
    simp only [Nat.add_assoc, hat, hdrop] at ih ⊢
    rw [ih]
  | case2 offset hfits =>
    have hshort : ¬ front.length + offset + 9 < (front ++ data).length := by
      rw [List.length_append]
      omega
    rw [readEntries, if_neg hshort]

theorem readEntries_eq_nil_iff (data : List UInt8) (offset : Nat) :
    readEntries data offset = [] ↔ data.length ≤ offset + 9 := by
  rw [readEntries]
  split
  · rename_i h
    exact iff_of_false (List.cons_ne_nil _ _) (Nat.not_le_of_lt h)
  · rename_i h
    exact iff_of_true rfl (Nat.le_of_not_lt h)

/-- nothing is listed behind the path when the records leave no room for one -/
theorem entriesBehind_eq_nil_iff {p : List UInt8} (hp : 0 ∉ p) (r : List UInt8) :
    entriesBehind p r = some [] ↔ (r.length : Int) ≤ recordShift p + 9 := by
  have hat := recordsAt_eq p
  unfold entriesBehind
  rw [handleFileListResp_path hp, Option.map_some, Option.some.injEq, readEntries_eq_nil_iff,
    List.length_append, List.length_cons]
  omega

/-! ## Two paths -/

/-- a path with a byte order mark has two last bytes -/
theorem exists_last_two {p : List UInt8} (h : utf8bom.isPrefixOf p = true) :
    ∃ front x y, p = front ++ [x, y] := by
  obtain ⟨rest, rfl⟩ := List.isPrefixOf_iff_prefix.mp h
  have hlen : ((utf8bom ++ rest).drop (rest.length + 1)).length = 2 := by
    rw [List.length_drop, List.length_append]
    show 3 + rest.length - (rest.length + 1) = 2
    omega
  obtain ⟨x, y, hxy⟩ := List.length_eq_two.mp hlen
  refine ⟨(utf8bom ++ rest).take (rest.length + 1), x, y, ?_⟩
  rw [← hxy, List.take_append_drop]

/-- at or behind the path's NUL nothing is read of the path -/
theorem entriesBehind_of_nonneg {p : List UInt8} (hp : 0 ∉ p) {k : Nat}
    (hk : recordShift p = k) (r : List UInt8) : entriesBehind p r = some (readEntries r k) := by
  have hat := recordsAt_eq p
  have hstart : (utf8 (String.ofList (fromUtf8 p))).length + 1 = (p ++ [0]).length + k := by
    rw [List.length_append, List.length_singleton]
    omega
  have hsplit : p ++ 0 :: r = (p ++ [0]) ++ r := by simp
  unfold entriesBehind
  rw [handleFileListResp_path hp, hstart, hsplit, readEntries_append]
  rfl

/-- behind a byte order mark the last two bytes of the path may be read -/
theorem entriesBehind_of_marked {front : List UInt8} {x y : UInt8} (hp : 0 ∉ front ++ [x, y])
    {k : Nat} (hk : recordShift (front ++ [x, y]) + 3 = k) (r : List UInt8) :
    entriesBehind (front ++ [x, y]) r = some (readEntries (x :: y :: 0 :: r) k) := by
  have hat := recordsAt_eq (front ++ [x, y])
  have hlen : (front ++ [x, y]).length = front.length + 2 := List.length_append
  have hstart : (utf8 (String.ofList (fromUtf8 (front ++ [x, y])))).length + 1
      = front.length + k := by omega
  have hsplit : front ++ [x, y] ++ 0 :: r = front ++ (x :: y :: 0 :: r) := by simp
  unfold entriesBehind
  rw [handleFileListResp_path hp, hstart, hsplit, readEntries_append]
  rfl

/-- of the first byte of a record only whether it is zero -/
theorem readEntries_first {x x' : UInt8} (hx : x ≠ 0) (hx' : x' ≠ 0) (data : List UInt8) :
    readEntries (x :: data) 0 = readEntries (x' :: data) 0 := by
  have hrest (z : UInt8) (offset : Nat) :
      readEntries (z :: data) (offset + 1) = readEntries data offset := by
    have happ := readEntries_append [z] data offset
    rwa [List.length_singleton, Nat.add_comm 1] at happ
  have hz : (x != 0) = (x' != 0) := by rw [bne_iff_ne.mpr hx, bne_iff_ne.mpr hx']
  rw [readEntries, readEntries]
  simp only [List.length_cons, hrest, Nat.zero_add, List.drop_succ_cons, List.getD_cons_succ,
    List.getD_cons_zero, hz]

theorem recordShift_ge (p : List UInt8) : -3 ≤ recordShift p := by
  unfold recordShift
  split <;> omega

/-- the mark makes the distance odd -/
theorem recordShift_eq_iff (p q : List UInt8) : recordShift p = recordShift q ↔
    invalidBytes 0 p = invalidBytes 0 q ∧ utf8bom.isPrefixOf p = utf8bom.isPrefixOf q := by
  unfold recordShift
  cases utf8bom.isPrefixOf p <;> cases utf8bom.isPrefixOf q <;>
    simp only [if_true, reduceIte, Bool.false_eq_true, and_true, and_false, reduceCtorEq,
      iff_false] <;> omega

theorem SameStart.shift {p q : List UInt8} (h : SameStart p q) : recordShift p = recordShift q :=
  (recordShift_eq_iff p q).mpr ⟨h.invalid, h.marked⟩

/-- the same entries whatever the records are -/
theorem SameStart.entries {p q : List UInt8} (h : SameStart p q) (hp : 0 ∉ p) (hq : 0 ∉ q)
    (r : List UInt8) : entriesBehind p r = entriesBehind q r := by
  by_cases hmark : utf8bom.isPrefixOf p = true
  · obtain ⟨front, x, y, rfl⟩ := exists_last_two hmark
    obtain ⟨front', x', y', rfl⟩ := exists_last_two (h.marked ▸ hmark)
    obtain ⟨k, hk⟩ : ∃ k : Nat, recordShift (front ++ [x, y]) + 3 = k :=
      Int.eq_ofNat_of_zero_le (by have hge := recordShift_ge (front ++ [x, y]); omega)
    have hk' : recordShift (front' ++ [x', y']) + 3 = k := h.shift ▸ hk
    rw [entriesBehind_of_marked hp hk, entriesBehind_of_marked hq hk']
    have hval : (k : Int) = 2 * invalidBytes 0 (front ++ [x, y]) := by
      rw [← hk]
      unfold recordShift
      rw [if_pos hmark]
      omega
    by_cases hinv : invalidBytes 0 (front ++ [x, y]) = 0
    · -- two bytes of the path are read, of the first only that it is not NUL
      have hlast := h.last hmark hinv
      rw [List.getLast?_append, List.getLast?_append] at hlast
      obtain rfl : y = y' := by simpa using hlast
      have hx : x ≠ 0 := fun e => hp (by simp [e])
      have hx' : x' ≠ 0 := fun e => hq (by simp [e])
      obtain rfl : k = 0 := by omega
      rw [readEntries_first hx hx']
    · obtain ⟨m, rfl⟩ : ∃ m, k = 2 + m := ⟨k - 2, by omega⟩
      have hskip (z w : UInt8) : readEntries (z :: w :: 0 :: r) (2 + m) = readEntries (0 :: r) m :=
        readEntries_append [z, w] (0 :: r) m
      rw [hskip, hskip]
  · obtain ⟨k, hk⟩ : ∃ k : Nat, recordShift p = k := by
      refine Int.eq_ofNat_of_zero_le ?_
      unfold recordShift
      rw [if_neg hmark]
      omega
    rw [entriesBehind_of_nonneg hp hk, entriesBehind_of_nonneg hq (h.shift ▸ hk)]

/-- records just too short to be listed behind one path are listed behind the other -/
theorem shift_of_entries {p q : List UInt8} (hp : 0 ∉ p) (hq : 0 ∉ q)
    (h : ∀ r, entriesBehind p r = entriesBehind q r) : recordShift p = recordShift q := by
  have hroom (n : Nat) : (n : Int) ≤ recordShift p + 9 ↔ (n : Int) ≤ recordShift q + 9 := by
    have hiff := entriesBehind_eq_nil_iff hp (List.replicate n 0)
    rw [h, entriesBehind_eq_nil_iff hq, List.length_replicate] at hiff
    exact hiff.symm
  have h1 := recordShift_ge p
  have h2 := recordShift_ge q
  have hp9 := hroom (recordShift p + 9).toNat
  have hq9 := hroom (recordShift q + 9).toNat
  omega

/-- the last byte of the path, as the size of the first entry shows it -/
theorem last_of_entries {p q : List UInt8} (hp : 0 ∉ p) (hq : 0 ∉ q)
    (h : ∀ r, entriesBehind p r = entriesBehind q r) (hmp : utf8bom.isPrefixOf p = true)
    (hmq : utf8bom.isPrefixOf q = true) (hinv : invalidBytes 0 p = 0) :
    p.getLast? = q.getLast? := by
  have hzero (b : List UInt8) (hm : utf8bom.isPrefixOf b = true)
      (hshift : recordShift b = recordShift p) : recordShift b + 3 = (0 : Nat) := by
    rw [hshift]
    unfold recordShift
    rw [hinv, if_pos hmp]
    rfl
  have hshift := shift_of_entries hp hq h
  have hkp := hzero p hmp rfl
  have hkq := hzero q hmq hshift.symm
  obtain ⟨front, x, y, rfl⟩ := exists_last_two hmp
  obtain ⟨front', x', y', rfl⟩ := exists_last_two hmq
  have hr := h (List.replicate 7 0)
  rw [entriesBehind_of_marked hp hkp, entriesBehind_of_marked hq hkq, Option.some.injEq] at hr
  have hread (z w : UInt8) : ((readEntries (z :: w :: 0 :: List.replicate 7 0) 0).map
      ListedEntry.size).head? = some (w.toNat : Int) := by
    have hsize : (ofLe32 w 0 0 0).toNat = w.toNat := by
      rw [ofLe32_toNat]
      rfl
    have hw := w.toNat_lt
    have hfits : 0 + 9 < (z :: w :: 0 :: List.replicate 7 0).length := Nat.lt_add_one 9
    rw [readEntries, if_pos hfits, List.map_cons, List.head?_cons]
    show some (toInt (ofLe32 w 0 0 0)) = _
    rw [toInt_of_lt (by omega), hsize]
  have hy := hread x y
  rw [hr, hread x' y', Option.some.injEq] at hy
  have hyy : y' = y := UInt8.toNat_inj.mp (by omega)
  rw [hyy, List.getLast?_append, List.getLast?_append]
  rfl

/-- **Two paths in front of any records** give the same entries exactly when they start alike. -/
theorem entriesBehind_eq_iff (p q : List UInt8) (hp : 0 ∉ p) (hq : 0 ∉ q) :
    (∀ r, entriesBehind p r = entriesBehind q r) ↔ SameStart p q := by
  constructor
  · intro h
    obtain ⟨hinv, hmark⟩ := (recordShift_eq_iff p q).mp (shift_of_entries hp hq h)
    exact ⟨hinv, hmark, fun hmp => last_of_entries hp hq h hmp (hmark ▸ hmp)⟩
  · intro h
    exact h.entries hp hq

/-- two paths of one kind: in both a byte starts no character -/
theorem entriesBehind_eq_invalid : 0 ∉ [(0xFF : UInt8)] ∧ 0 ∉ [0x30, 0x3A, (0xC3 : UInt8)] ∧
    ∀ r, entriesBehind [0xFF] r = entriesBehind [0x30, 0x3A, 0xC3] r :=
  ⟨by decide, by decide, (entriesBehind_eq_iff [0xFF] [0x30, 0x3A, 0xC3] (by decide)
    (by decide)).mpr ⟨by decide, by decide, by decide⟩⟩

/-- one byte that starts no character hides a record of ten bytes -/
theorem entriesBehind_shifted :
    0 ∉ [(0x41 : UInt8)] ∧ 0 ∉ [(0xFF : UInt8)] ∧
      entriesBehind [0x41] [0, 7, 0, 0, 0, 0, 0, 0, 0, 0x61, 0] = some [⟨false, 7, "a"⟩] ∧
      entriesBehind [0xFF] [0, 7, 0, 0, 0, 0, 0, 0, 0, 0x61, 0] = some [] := by
  decide +kernel

end QMon.Device
