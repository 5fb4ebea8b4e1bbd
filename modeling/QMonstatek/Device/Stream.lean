import QMonstatek.Device.Worked
import QMonstatek.Lib.Blocks

/-!
# A transfer sends exactly its file

`dataStream k file`    the DATA commands of a whole transfer of `file`: block `i` behind its offset;
`SendsFile k file w`   `w` is a prefix of them, with FINISH behind the last one at most;
`k.history es d`       the commands of transfer `k` along a run, the cleanup FINISH of the ESP32
                       timeout left out.

`sendsFile`: from one START to the next, whatever happens, the history is `SendsFile`; where it
holds FINISH, its DATA carry the whole file (`SendsFile.delivered`).
-/

namespace QMon.Device
open Rpc Blocks

/-! ## The commands of a transfer -/

def dataCommand (k : Kind) (file : List UInt8) (i : Nat) : UInt8 × List UInt8 :=
  (k.machine.cmdData,
    le32 (UInt32.ofNat (i * k.machine.CHUNK_SIZE)) ++ block k.machine.CHUNK_SIZE file i)

def dataStream (k : Kind) (file : List UInt8) : List (UInt8 × List UInt8) :=
  (List.range (blockCount k.machine.CHUNK_SIZE file)).map (dataCommand k file)

def finishCommand (k : Kind) : UInt8 × List UInt8 := (k.machine.cmdFinish, [])

/-- a prefix of the DATA commands, or all of them and then FINISH -/
def SendsFile (k : Kind) (file : List UInt8) (w : List (UInt8 × List UInt8)) : Prop :=
  (∃ n, w = (dataStream k file).take n) ∨ w = dataStream k file ++ [finishCommand k]

theorem chunkSize_pos (k : Kind) : 0 < k.machine.CHUNK_SIZE := by cases k <;> decide

/-- the DATA commands carry the file, and with FINISH behind them all of it -/
theorem dataStream_data (k : Kind) (file : List UInt8) :
    (dataStream k file).flatMap (fun c => c.2.drop 4) = file := by
  unfold dataStream
  rw [List.flatMap_map]
  exact flatMap_blocks file (chunkSize_pos k)

/-- what is left of the DATA commands after `n` of them -/
theorem dataStream_drop (k : Kind) (file : List UInt8) {n : Nat}
    (hn : n < blockCount k.machine.CHUNK_SIZE file) :
    (dataStream k file).drop n = dataCommand k file n :: (dataStream k file).drop (n + 1) :=
  drop_range_map (dataCommand k file) hn

theorem dataStream_drop_all (k : Kind) (file : List UInt8) {n : Nat}
    (hn : blockCount k.machine.CHUNK_SIZE file ≤ n) : (dataStream k file).drop n = [] := by
  refine List.drop_of_length_le ?_
  unfold dataStream
  rw [List.length_map, List.length_range]
  exact hn

theorem SendsFile.delivered {k : Kind} {file : List UInt8} {w : List (UInt8 × List UInt8)}
    (h : SendsFile k file w) (hf : finishCommand k ∈ w) :
    w.flatMap (fun c => c.2.drop 4) = file := by
  have hnot : finishCommand k ∉ dataStream k file := by
    intro hm
    obtain ⟨i, -, hi⟩ := List.mem_map.mp hm
    have hcmd : k.machine.cmdData = k.machine.cmdFinish := congrArg Prod.fst hi
    revert hcmd
    cases k <;> decide
  rcases h with ⟨n, rfl⟩ | rfl
  · exact absurd (List.mem_of_mem_take hf) hnot
  · rw [List.flatMap_append, dataStream_data]
    exact List.append_nil _

/-- the event whose handler sends the cleanup FINISH -/
def Event.isEspTimeout : Event → Bool
  | .expire (.transfer .espUpdate) => true
  | _ => false

def Kind.history (k : Kind) : List Event → Dev → List (UInt8 × List UInt8)
  | [], _ => []
  | e :: es, d =>
    (if k = .espUpdate ∧ e.isEspTimeout then [] else k.sent (step e d).out)
      ++ k.history es (step e d)

/-- the step sends a START of transfer `k` -/
def Kind.startsAt (k : Kind) (e : Event) (d : Dev) : Prop :=
  k.machine.cmdStart ∈ (k.sent (step e d).out).map Prod.fst

instance (k : Kind) (e : Event) (d : Dev) : Decidable (k.startsAt e d) :=
  inferInstanceAs (Decidable (_ ∈ _))

/-! ## The chunk arithmetic -/

theorem offsetBytes_eq (k : Kind) (v : UInt32) : k.machine.offsetBytes v = le32 v := by
  cases k with
  | fwUpdate => exact hostBytes_eq v
  | espUpdate => exact hostBytes_eq v
  | fileUpload => rfl

section
variable {k : Kind} {file : List UInt8} {t : Transfer} {n : Nat}

/-- after `n` DATA commands: the image and the offset -/
structure AtBlock (k : Kind) (file : List UInt8) (n : Nat) (t : Transfer) : Prop where
  data : t.data = file
  size : t.size = UInt32.ofNat file.length
  count : n ≤ blockCount k.machine.CHUNK_SIZE file
  offset : t.offset.toNat = min (n * k.machine.CHUNK_SIZE) file.length

theorem AtBlock.offset_eq (h : AtBlock k file n t)
    (hn : n < blockCount k.machine.CHUNK_SIZE file) :
    t.offset.toNat = n * k.machine.CHUNK_SIZE ∧ n * k.machine.CHUNK_SIZE < file.length := by
  have hb := (lt_blockCount file (chunkSize_pos k)).mp hn
  have ho := h.offset
  omega

variable (hlen : file.length < 2 ^ 31) (h : AtBlock k file n t)
include hlen h

theorem AtBlock.size_toNat : t.size.toNat = file.length := by
  rw [h.size, UInt32.toNat_ofNat']
  exact Nat.mod_eq_of_lt (by omega)

/-- the branch of FINISH is taken after the last block -/
theorem AtBlock.finish_iff :
    t.offset ≥ t.size ↔ n = blockCount k.machine.CHUNK_SIZE file := by
  have hs := h.size_toNat hlen
  have ho := h.offset
  have hc := h.count
  have hb := lt_blockCount file (chunkSize_pos k) (i := n)
  have hge : t.offset ≥ t.size ↔ t.size.toNat ≤ t.offset.toNat := Iff.rfl
  rw [hge]
  omega

theorem AtBlock.chunkLen (hn : n < blockCount k.machine.CHUNK_SIZE file) :
    t.chunkLen k
      = (min k.machine.CHUNK_SIZE (file.length - n * k.machine.CHUNK_SIZE) : Nat) := by
  obtain ⟨ho, hlt⟩ := h.offset_eq hn
  have hs := h.size_toNat hlen
  have hsub : (t.size - t.offset).toNat = file.length - n * k.machine.CHUNK_SIZE := by
    rw [UInt32.toNat_sub_of_le _ _ (by show t.offset.toNat ≤ t.size.toNat; omega), hs, ho]
  unfold Transfer.chunkLen
  rw [toInt_of_lt (by omega), hsub]
  omega

/-- the chunk that is sent is block `n` behind its offset -/
theorem AtBlock.nextCommand (hn : n < blockCount k.machine.CHUNK_SIZE file) :
    t.nextCommand k = dataCommand k file n := by
  obtain ⟨ho, hlt⟩ := h.offset_eq hn
  have hne : ¬ t.offset ≥ t.size := by rw [h.finish_iff hlen]; omega
  have hoff : t.offset = UInt32.ofNat (n * k.machine.CHUNK_SIZE) := by
    apply UInt32.toNat_inj.mp
    rw [ho, UInt32.toNat_ofNat']
    exact (Nat.mod_eq_of_lt (by omega)).symm
  unfold Transfer.nextCommand dataCommand
  rw [if_neg hne, h.chunkLen hlen hn, toInt_of_lt (by omega), ho, h.data,
    mid_of_le _ _ _ (by omega), offsetBytes_eq, hoff, block_eq_take_min]

theorem AtBlock.next (hn : n < blockCount k.machine.CHUNK_SIZE file) :
    AtBlock k file (n + 1) (t.next k) ∧ (t.next k).state = .SendingData := by
  obtain ⟨ho, hlt⟩ := h.offset_eq hn
  have hne : ¬ t.offset ≥ t.size := by rw [h.finish_iff hlen]; omega
  unfold Transfer.next
  rw [if_neg hne]
  refine ⟨⟨h.data, h.size, hn, ?_⟩, rfl⟩
  show (t.offset + ofInt (t.chunkLen k)).toNat = _
  rw [h.chunkLen hlen hn, ofInt_natCast, UInt32.toNat_add, ho, UInt32.toNat_ofNat', Nat.add_mul,
    Nat.one_mul]
  omega

end

/-! ## The invariant of a transfer -/

/-- the commands `w` since START, and the state of the machine -/
def Sending (k : Kind) (file : List UInt8) (w : List (UInt8 × List UInt8)) (t : Transfer) :
    Prop :=
  SendsFile k file w ∧ (t.state = .WaitingStartAck ∨ t.state = .SendingData →
    ∃ n, AtBlock k file n t ∧ w = (dataStream k file).take n)

theorem Sending.done {k : Kind} {file : List UInt8} {w : List (UInt8 × List UInt8)}
    {t t' : Transfer} (h : Sending k file w t)
    (ht : t'.state = .Idle ∨ t'.state = .WaitingFinishAck) : Sending k file w t' := by
  refine ⟨h.1, fun hs => ?_⟩
  rcases ht with ht | ht <;> rw [ht] at hs <;> rcases hs with hs | hs <;>
    exact absurd hs (by decide)

theorem AtBlock.fresh (k : Kind) (file : List UInt8) : AtBlock k file 0 (.fresh k file) := by
  refine ⟨rfl, rfl, Nat.zero_le _, ?_⟩
  show 0 = min (0 * k.machine.CHUNK_SIZE) file.length
  rw [Nat.zero_mul, Nat.zero_min]

theorem Sending.fresh (k : Kind) (file : List UInt8) : Sending k file [] (.fresh k file) :=
  ⟨.inl ⟨0, rfl⟩, fun _ => ⟨0, .fresh k file, rfl⟩⟩

/-- the ACK of START or of a chunk sends the next block, or FINISH after the last one -/
theorem Sending.acked {k : Kind} {file : List UInt8} {w : List (UInt8 × List UInt8)}
    {t : Transfer} (hlen : file.length < 2 ^ 31) (h : Sending k file w t)
    (ht : t.state = .WaitingStartAck ∨ t.state = .SendingData) :
    Sending k file (w ++ [t.nextCommand k]) (t.next k) := by
  obtain ⟨n, hn, rfl⟩ := h.2 ht
  by_cases hlast : n = blockCount k.machine.CHUNK_SIZE file
  · have hge := (hn.finish_iff hlen).mpr hlast
    have hall : (dataStream k file).take n = dataStream k file := by
      refine List.take_of_length_le ?_
      unfold dataStream
      rw [List.length_map, List.length_range]
      exact Nat.le_of_eq hlast.symm
    have hcmd : t.nextCommand k = finishCommand k := if_pos hge
    have hstate : (t.next k).state = .WaitingFinishAck := by
      unfold Transfer.next
      rw [if_pos hge]
    have hdone : SendsFile k file ((dataStream k file).take n ++ [t.nextCommand k]) := by
      rw [hall, hcmd]
      exact .inr rfl
    refine ⟨hdone, fun hs => ?_⟩
    rw [hstate] at hs
    rcases hs with hs | hs <;> exact absurd hs (by decide)
  · have hlt : n < blockCount k.machine.CHUNK_SIZE file := Nat.lt_of_le_of_ne hn.count hlast
    have hw : (dataStream k file).take n ++ [t.nextCommand k]
        = (dataStream k file).take (n + 1) := by
      rw [hn.nextCommand hlen hlt]
      exact (take_range_succ (dataCommand k file) hlt).symm
    rw [hw]
    exact ⟨.inl ⟨n + 1, rfl⟩, fun _ => ⟨n + 1, (hn.next hlen hlt).1, rfl⟩⟩

theorem sent_fresh (k : Kind) (d : Dev) : k.sent d.fresh.out = [] := rfl

/-- one step of a run, no new START in it -/
theorem sending_step {k : Kind} {file : List UInt8} {w : List (UInt8 × List UInt8)}
    (hlen : file.length < 2 ^ 31) (e : Event) (d : Dev) (h : Sending k file w (d.get k))
    (hn : ¬ k.startsAt e d) :
    Sending k file
      (w ++ if k = .espUpdate ∧ e.isEspTimeout then [] else k.sent (step e d).out)
      ((step e d).get k) := by
  have hw := (worked_step e d).change k
  -- the steps that send nothing of the transfer
  have nothing (hs : k.sent (step e d).out = [])
      (h' : Sending k file w ((step e d).get k)) : Sending k file
      (w ++ if k = .espUpdate ∧ e.isEspTimeout then [] else k.sent (step e d).out)
      ((step e d).get k) := by
    rw [hs, ite_self, List.append_nil]
    exact h'
  cases hw with
  | same get sent => exact nothing sent (by rw [get]; exact h)
  | idle before after sent => exact nothing sent (h.done (.inl after))
  | started data payload before cause alone alone' file size get sent =>
    refine absurd ?_ hn
    unfold Kind.startsAt
    rw [sent]
    simp
  | acked ack before get sent =>
    have hesp : ¬ (k = .espUpdate ∧ e.isEspTimeout = true) := by
      obtain ⟨f, dialect, rfl, -⟩ := ack
      exact fun h => Bool.false_ne_true h.2
    rw [if_neg hesp, sent, get]
    exact h.acked hlen before
  | ended before after sent => exact nothing sent (h.done (.inl after))
  | cleanup esp timeout before after sent =>
    rw [if_pos ⟨esp, by rw [timeout]; rfl⟩, List.append_nil]
    exact h.done (.inl after)

/-- a whole run without a new START -/
theorem sending_run {k : Kind} {file : List UInt8} (hlen : file.length < 2 ^ 31)
    (es : List Event) (d : Dev) (w : List (UInt8 × List UInt8))
    (h : Sending k file w (d.get k))
    (hn : Run.Along step (fun e d => ¬ k.startsAt e d) es d) :
    SendsFile k file (w ++ k.history es d) := by
  induction es generalizing d w with
  | nil =>
    show SendsFile k file (w ++ [])
    rw [List.append_nil]
    exact h.1
  | cons e es ih =>
    show SendsFile k file (w ++ (_ ++ k.history es (step e d)))
    rw [← List.append_assoc]
    exact ih (step e d) _ (sending_step hlen e d h hn.1) hn.2

/-- a START is sent for the contents of a local file, the one the call names -/
theorem startsAt_file {k : Kind} {e : Event} {d : Dev} (h : k.startsAt e d) :
    ∃ file path, e.Names path ∧ d.env.readFile path = some file ∧
      (step e d).get k = .fresh k file := by
  have hne : k.machine.cmdStart ≠ k.machine.cmdData ∧
      k.machine.cmdStart ≠ k.machine.cmdFinish := by
    cases k <;> decide
  unfold Kind.startsAt at h
  cases (worked_step e d).change k with
  | same get sent => rw [sent, sent_fresh] at h; simp at h
  | idle before after sent => rw [sent, sent_fresh] at h; simp at h
  | started data payload before cause alone alone' file size get sent =>
    obtain ⟨path, hname, hread⟩ := file
    exact ⟨data, path, hname, hread, get⟩
  | acked ack before get sent =>
    rw [sent, sent_fresh] at h
    unfold Transfer.nextCommand at h
    split at h <;> simp [hne.1, hne.2] at h
  | ended before after sent => rw [sent, sent_fresh] at h; simp at h
  | cleanup esp timeout before after sent =>
    rw [sent, sent_fresh] at h
    simp [hne.2] at h

/-- **From one START to the next, a transfer sends its file in blocks**, each behind its offset,
and FINISH at most once, after the last block; an aborted transfer sends a prefix of that. -/
theorem sendsFile (k : Kind) (e : Event) (d : Dev) (es : List Event) (hstart : k.startsAt e d)
    (hnext : Run.Along step (fun e d => ¬ k.startsAt e d) es (step e d)) :
    ∃ file path, e.Names path ∧ d.env.readFile path = some file ∧
      (file.length < 2 ^ 31 → SendsFile k file (k.history es (step e d))) := by
  obtain ⟨file, path, hname, hread, hget⟩ := startsAt_file hstart
  refine ⟨file, path, hname, hread, fun hlen => ?_⟩
  have h0 : Sending k file [] ((step e d).get k) := by
    rw [hget]
    exact .fresh k file
  exact sending_run hlen es (step e d) [] h0 hnext

/-- a firmware of two blocks: START, the blocks, FINISH and the ACK of FINISH -/
theorem sendsFile_twoBlocks :
    let file := List.replicate 1028 0xAA
    let d := Run.exec step [.env { serialOpens := fun _ => true, readFile := fun _ => some file },
      .call (.connectToDevice "COM3")] init
    let e := Event.call (.startFwUpdate "fw.bin")
    let es := List.replicate 4 (Event.frame ⟨CMD_ACK, 0, []⟩ .Correct)
    let w := Kind.fwUpdate.history es (step e d)
    SendsFile .fwUpdate file w ∧ w.flatMap (fun c => c.2.drop 4) = file := by
  intro file d e es w
  have hlen : file.length < 2 ^ 31 := by
    rw [List.length_replicate]
    decide
  obtain ⟨file', path, -, hread, h⟩ := sendsFile .fwUpdate e d es (by decide +kernel)
    ⟨by decide +kernel, by decide +kernel, by decide +kernel, by decide +kernel, trivial⟩
  have hfile : file' = file := Option.some.inj (hread.symm.trans rfl)
  subst hfile
  have hsends := h hlen
  exact ⟨hsends, hsends.delivered (by decide +kernel)⟩

end QMon.Device
