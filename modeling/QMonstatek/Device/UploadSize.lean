import QMonstatek.Device.FolderUpload

/-!
# The numbers of an upload

`announcedSize payload`   the size a WRITE_START announces;
`ChunkAck e d`            `e` is the ACK of START or of a chunk;
`uploadTrace es d`        the bytes sent and the progress shown, along a run of such ACKs;
`SizesRight file d es`    the numbers of the upload of `file` that started in `d`: size announced,
                          chunk lengths, progress.

The offset is multiplied by 100 in 32 bits, so the last progress is 100 iff a hundred times the
length fits into them: `uploadSizes_iff`.
-/

namespace QMon.Device
open Rpc Blocks

def announcedSize (payload : List UInt8) : Nat :=
  (ofLe32 (payload.getD 0 0) (payload.getD 1 0) (payload.getD 2 0) (payload.getD 3 0)).toNat

def Out.uploadProgress? : Out → Option Int
  | .signal (.fileUploadProgress percent) => some percent
  | _ => none

def uploadProgress (out : List Out) : List Int := out.filterMap Out.uploadProgress?

/-- the data bytes of the WRITE_DATA commands, each behind its offset -/
def uploadBytes (out : List Out) : Nat :=
  (((Kind.fileUpload.sent out).filter fun c => c.1 == CMD_FILE_WRITE_DATA).map
    fun c => c.2.length - 4).sum

/-- the ACK of START or of a chunk, and it goes to the upload -/
structure ChunkAck (e : Event) (d : Dev) : Prop where
  ack : e.IsAck
  connected : d.isConnected = true
  mine : d.ops.Unclaimed
  before : (d.get .fileUpload).state = .WaitingStartAck ∨
    (d.get .fileUpload).state = .SendingData

/-- what a run of an upload has sent and shown -/
structure UploadTrace where
  dev : Dev
  sent : Nat := 0
  /-- each progress value, with the bytes sent by then -/
  progress : List (Int × Nat) := []

def uploadStep (e : Event) (u : UploadTrace) : UploadTrace :=
  let d := step e u.dev
  let sent := u.sent + uploadBytes d.out
  { dev := d, sent := sent, progress := u.progress ++ (uploadProgress d.out).map (·, sent) }

def uploadTrace (es : List Event) (d : Dev) : UploadTrace := Run.exec uploadStep es { dev := d }

/-- the length of the chunk `fileUploadSendNextChunk` sends next, if there is one -/
def ChunkLenRight (d : Dev) : Prop :=
  (d.get .fileUpload).offset < (d.get .fileUpload).size →
    1 ≤ (d.get .fileUpload).chunkLen .fileUpload ∧ (d.get .fileUpload).chunkLen .fileUpload ≤ 512

structure SizesRight (file : List UInt8) (d : Dev) (es : List Event) : Prop where
  announced : ∀ payload, (CMD_FILE_WRITE_START, payload) ∈ Kind.fileUpload.sent d.out →
    announcedSize payload = file.length
  chunks : Run.Along step (fun _ d => ChunkLenRight d) es d
  percent : ∀ p ∈ (uploadTrace es d).progress, p.1 = (100 * p.2 / file.length : Nat)
  monotone : ((uploadTrace es d).progress.map Prod.fst).Pairwise (· ≤ ·)
  /-- all chunks are acknowledged -/
  ends : ((uploadTrace es d).dev.get .fileUpload).state = .WaitingFinishAck →
    ((uploadTrace es d).progress.map Prod.fst).getLast? = some 100

/-- the numbers of every upload of `file` -/
def UploadSizes (file : List UInt8) : Prop :=
  ∀ (d : Dev) (localPath remotePath : String) (es : List Event), Reachable d →
    d.env.readFile localPath = some file →
    Kind.fileUpload.startsAt (.call (.uploadFile localPath remotePath)) d →
    Run.Along step ChunkAck es (step (.call (.uploadFile localPath remotePath)) d) →
    SizesRight file (step (.call (.uploadFile localPath remotePath)) d) es

/-! ## One ACK -/

/-- the progress the next chunk is shown with -/
def Transfer.percent (t : Transfer) : List Int :=
  if t.offset ≥ t.size then []
  else [toInt ((t.offset + ofInt (t.chunkLen .fileUpload)) * 100 / t.size)]

section
variable {e : Event} {d : Dev}

theorem uploadProgress_put (d : Dev) (o : Out) :
    uploadProgress (d.put o).out = uploadProgress d.out ++ o.uploadProgress?.toList :=
  d.filterMap_put _ o

theorem uploadProgress_emit (d : Dev) (s : Signal) : uploadProgress (d.emit s).out =
    uploadProgress d.out ++ (Out.signal s).uploadProgress?.toList := uploadProgress_put d _

theorem uploadProgress_send (cmd : UInt8) (payload : List UInt8) (d : Dev) :
    uploadProgress (d.sendCommand cmd payload).out = uploadProgress d.out := by
  obtain ⟨o, ho, -, heq⟩ := d.sendCommand_eq cmd payload
  have hnone : o.uploadProgress? = none := by
    cases o with
    | signal s => exact absurd ho (by simp [Out.command?])
    | _ => rfl
  rw [heq, uploadProgress_put, hnone]
  exact List.append_nil _

theorem heard_uploadProgress (dialect : CrcDialect) (d : Dev) :
    uploadProgress (d.heard dialect).out = [] := by
  unfold Dev.heard Dev.noted Dev.resolveDialect
  split
  · unfold Dev.requestDeviceInfo
    dsimp only
    rw [uploadProgress_send, uploadProgress_emit]
    split
    · rw [uploadProgress_emit]
      rfl
    · rfl
  · rfl

theorem ackChunk_uploadProgress (d : Dev) : uploadProgress (d.ackChunk .fileUpload []).out =
    uploadProgress d.out ++ (d.get .fileUpload).percent := by
  let t : Transfer := { d.get .fileUpload with
    state := .SendingData, timeout := some Kind.fileUpload.machine.chunkMs }
  let d1 : Dev := d.setTransfer .fileUpload t
  have hget : d1.get .fileUpload = t := by
    unfold Dev.get
    rw [Dev.setTransfer_ops, Operations.get_set, if_pos rfl]
  show uploadProgress (d1.sendNextChunk .fileUpload).out = _
  unfold Dev.sendNextChunk Transfer.percent
  dsimp only
  rw [hget]
  by_cases hlast : (d.get .fileUpload).offset ≥ (d.get .fileUpload).size
  · rw [if_pos hlast, if_pos hlast, uploadProgress_send, List.append_nil]
    rfl
  · rw [if_neg hlast, if_neg hlast, uploadProgress_emit, Dev.setTransfer_out, uploadProgress_send]
    rfl

theorem ChunkAck.step_eq (h : ChunkAck e d) :
    ∃ dialect, step e d = (d.heard dialect).ackChunk .fileUpload [] := by
  obtain ⟨f, dialect, rfl, hf⟩ := h.ack
  refine ⟨dialect, ?_⟩
  have ops := heard_ops dialect d
  have mine : (d.heard dialect).ops.Unclaimed := by
    rw [ops]
    exact h.mine
  rw [step_ack dialect hf h.connected, mine.handleAck]
  unfold Dev.ackFileUpload
  rw [ops]
  have before : d.ops.fileUpload.state = .WaitingStartAck ∨
      d.ops.fileUpload.state = .SendingData := h.before
  rcases before with hs | hs <;> rw [hs] <;> rfl

theorem ChunkAck.get (h : ChunkAck e d) :
    (step e d).get .fileUpload = (d.get .fileUpload).next .fileUpload := by
  obtain ⟨dialect, heq⟩ := h.step_eq
  rw [heq, ackChunk_get]
  unfold Dev.get
  rw [heard_ops]

theorem ChunkAck.sent (h : ChunkAck e d) : Kind.fileUpload.sent (step e d).out =
    [(d.get .fileUpload).nextCommand .fileUpload] := by
  obtain ⟨dialect, heq⟩ := h.step_eq
  have hown : Kind.fileUpload.owns ((d.get .fileUpload).nextCommand .fileUpload).1 = true := by
    unfold Transfer.nextCommand
    split <;> simp
  have hquiet : opSent (d.heard dialect).out = [] := (noted_quiet _).sent
  have hw := ackChunk_sent .fileUpload [] (d.heard dialect)
  rw [hquiet, List.nil_append] at hw
  rw [heq]
  unfold Kind.sent
  rw [hw]
  unfold Dev.get
  rw [heard_ops]
  exact List.filter_cons_of_pos hown

theorem ChunkAck.progress (h : ChunkAck e d) :
    uploadProgress (step e d).out = (d.get .fileUpload).percent := by
  obtain ⟨dialect, heq⟩ := h.step_eq
  rw [heq, ackChunk_uploadProgress, heard_uploadProgress]
  unfold Dev.get
  rw [heard_ops]
  rfl

/-- the next ACK goes to the upload too, while it waits for one -/
theorem ChunkAck.next (h : ChunkAck e d) (h' : ((step e d).get .fileUpload).state = .SendingData) :
    ChunkAck e (step e d) := by
  obtain ⟨dialect, heq⟩ := h.step_eq
  refine ⟨h.ack, ?_, ?_, .inr h'⟩
  · have puts := heard_puts dialect d
    rw [heq, (ackChunk_puts (puts.connected.trans h.connected) .fileUpload (by simp)).connected]
    exact puts.connected.trans h.connected
  · rw [heq, ackChunk_ops, heard_ops]
    exact ⟨h.mine.erase, h.mine.swap, h.mine.fwUpdate, h.mine.espUpdate⟩

end

/-! ## A run of ACKs -/

section
variable (file : List UInt8)

/-- the bytes sent with the first `n` chunks -/
def sentAfter (n : Nat) : Nat := min (n * 512) file.length

def chunkCount : Nat := blockCount 512 file

/-- the progress shown with chunk `i`, as the source computes it -/
def shownAt (i : Nat) : Int × Nat :=
  (toInt (UInt32.ofNat (sentAfter file (i + 1)) * 100 / UInt32.ofNat file.length),
    sentAfter file (i + 1))

/-- `n` chunks are sent, and the ACK of START or of the last one is awaited -/
structure ShownSoFar (n : Nat) (u : UploadTrace) : Prop where
  block : AtBlock .fileUpload file n (u.dev.get .fileUpload)
  waits : (u.dev.get .fileUpload).state ≠ .WaitingFinishAck
  sent : u.sent = sentAfter file n
  progress : u.progress = (List.range n).map (shownAt file)

variable {file} {n : Nat} {e : Event} {u : UploadTrace}

theorem sentAfter_chunkCount : sentAfter file (chunkCount file) = file.length := by
  have h := lt_blockCount file (n := 512) (by decide) (i := chunkCount file)
  unfold sentAfter
  have hle : ¬ chunkCount file * 512 < file.length := fun hlt =>
    Nat.lt_irrefl _ (h.mpr hlt)
  omega

theorem chunkCount_pos (h : file.length ≠ 0) : 0 < chunkCount file :=
  (lt_blockCount file (n := 512) (by decide)).mpr (by omega)

theorem ShownSoFar.fresh {d : Dev} (h : d.get .fileUpload = .fresh .fileUpload file) :
    ShownSoFar file 0 { dev := d } := by
  refine ⟨?_, ?_, ?_, rfl⟩
  · rw [show d.get .fileUpload = _ from h]
    exact .fresh .fileUpload file
  · rw [show d.get .fileUpload = _ from h]
    exact TransferState.noConfusion
  · unfold sentAfter
    rw [Nat.zero_mul, Nat.zero_min]

variable (hlen : file.length < 2 ^ 31)
include hlen

theorem ShownSoFar.chunkLen (h : ShownSoFar file n u) : ChunkLenRight u.dev := by
  intro hlt
  have hfin := h.block.finish_iff hlen
  have hn : n < blockCount Kind.fileUpload.machine.CHUNK_SIZE file := by
    refine Nat.lt_of_le_of_ne h.block.count fun heq => ?_
    exact absurd (hfin.mpr heq) (UInt32.not_le.mpr hlt)
  obtain ⟨-, hrest⟩ := h.block.offset_eq hn
  rw [h.block.chunkLen hlen hn]
  have hsize : Kind.fileUpload.machine.CHUNK_SIZE = 512 := rfl
  rw [hsize] at hrest ⊢
  omega

/-- the ACK that is answered with chunk `n` -/
theorem ShownSoFar.chunk (h : ShownSoFar file n u) (ha : ChunkAck e u.dev)
    (hn : n < chunkCount file) : ShownSoFar file (n + 1) (uploadStep e u) ∧
      ((uploadStep e u).dev.get .fileUpload).state = .SendingData := by
  obtain ⟨hblock, hstate⟩ := h.block.next hlen hn
  obtain ⟨ho, hlt⟩ := h.block.offset_eq hn
  have hsize : Kind.fileUpload.machine.CHUNK_SIZE = 512 := rfl
  rw [hsize] at hlt
  have hbytes : uploadBytes (step e u.dev).out = min 512 (file.length - n * 512) := by
    unfold uploadBytes
    rw [ha.sent, h.block.nextCommand hlen hn]
    show (Blocks.block 512 file n).length + 1 + 1 + 1 + 1 - 4 + 0 = _
    unfold Blocks.block
    rw [List.length_take, List.length_drop]
    omega
  have hsent : u.sent + uploadBytes (step e u.dev).out = sentAfter file (n + 1) := by
    rw [hbytes, h.sent]
    unfold sentAfter
    omega
  have hpercent : (u.dev.get .fileUpload).percent = [(shownAt file n).1] := by
    have hnext : ((u.dev.get .fileUpload).next .fileUpload).offset =
        UInt32.ofNat (sentAfter file (n + 1)) := by
      apply UInt32.toNat_inj.mp
      have hle : sentAfter file (n + 1) ≤ file.length := Nat.min_le_right _ _
      rw [hblock.offset, UInt32.toNat_ofNat', Nat.mod_eq_of_lt (by omega)]
      rfl
    have hmore : ¬ (u.dev.get .fileUpload).offset ≥ (u.dev.get .fileUpload).size := by
      rw [h.block.finish_iff hlen]
      exact Nat.ne_of_lt hn
    unfold Transfer.next at hnext
    rw [if_neg hmore] at hnext
    unfold Transfer.percent shownAt
    rw [if_neg hmore, h.block.size]
    exact congrArg (fun o => [toInt (o * 100 / UInt32.ofNat file.length)]) hnext
  refine ⟨⟨?_, ?_, hsent, ?_⟩, ?_⟩
  · show AtBlock .fileUpload file (n + 1) ((step e u.dev).get .fileUpload)
    rw [ha.get]
    exact hblock
  · show ((step e u.dev).get .fileUpload).state ≠ _
    rw [ha.get, hstate]
    exact TransferState.noConfusion
  · show u.progress ++ (uploadProgress (step e u.dev).out).map _ = _
    rw [ha.progress, hpercent, h.progress, List.range_succ, List.map_append, hsent]
    rfl
  · show ((step e u.dev).get .fileUpload).state = _
    rw [ha.get]
    exact hstate

/-- the ACK of the last chunk -/
theorem ShownSoFar.finish (h : ShownSoFar file n u) (ha : ChunkAck e u.dev)
    (hn : n = chunkCount file) :
    ((uploadStep e u).dev.get .fileUpload).state = .WaitingFinishAck ∧
      (uploadStep e u).progress = u.progress := by
  have hlast : (u.dev.get .fileUpload).offset ≥ (u.dev.get .fileUpload).size :=
    (h.block.finish_iff hlen).mpr hn
  constructor
  · show ((step e u.dev).get .fileUpload).state = _
    rw [ha.get]
    unfold Transfer.next
    rw [if_pos hlast]
  · show u.progress ++ (uploadProgress (step e u.dev).out).map _ = _
    rw [ha.progress]
    unfold Transfer.percent
    rw [if_pos hlast]
    exact List.append_nil _

/-- **A run of ACKs** shows the progress of the chunks in order, of all of them at its end. -/
theorem ShownSoFar.run (h : ShownSoFar file n u) (es : List Event)
    (hes : Run.Along step ChunkAck es u.dev) :
    Run.Along step (fun _ d => ChunkLenRight d) es u.dev ∧
    ∃ m ≤ chunkCount file, (Run.exec uploadStep es u).progress =
        (List.range m).map (shownAt file) ∧
      (((Run.exec uploadStep es u).dev.get .fileUpload).state = .WaitingFinishAck →
        m = chunkCount file) := by
  induction es generalizing n u with
  | nil => exact ⟨trivial, n, h.block.count, h.progress, fun hf => absurd hf h.waits⟩
  | cons e es ih =>
    obtain ⟨ha, hes⟩ := hes
    by_cases hn : n = chunkCount file
    · obtain ⟨hdone, hprogress⟩ := h.finish hlen ha hn
      cases es with
      | nil =>
        refine ⟨⟨h.chunkLen hlen, trivial⟩, n, h.block.count, ?_, fun _ => hn⟩
        show (uploadStep e u).progress = _
        rw [hprogress, h.progress]
      | cons e' es =>
        -- no chunk is left to acknowledge
        have hwait : ((uploadStep e u).dev.get .fileUpload).state = .WaitingStartAck ∨
            ((uploadStep e u).dev.get .fileUpload).state = .SendingData := hes.1.before
        rw [hdone] at hwait
        rcases hwait with hw | hw <;> exact TransferState.noConfusion hw
    · obtain ⟨hnext, -⟩ := h.chunk hlen ha (Nat.lt_of_le_of_ne h.block.count hn)
      obtain ⟨hchunks, hrun⟩ := ih hnext hes
      exact ⟨⟨h.chunkLen hlen, hchunks⟩, hrun⟩

end

/-! ## The numbers are right where nothing wraps -/

section
variable {file : List UInt8}

/-- what the source computes for `o` bytes of `size`, in 32 bits -/
theorem percent_toNat {o size : Nat} (ho : o ≤ size) (hsize : size < 2 ^ 31) :
    (UInt32.ofNat o * 100 / UInt32.ofNat size).toNat = o * 100 % 2 ^ 32 / size := by
  rw [UInt32.toNat_div, UInt32.toNat_mul, UInt32.toNat_ofNat', UInt32.toNat_ofNat',
    Nat.mod_eq_of_lt (a := o) (by omega), Nat.mod_eq_of_lt (a := size) (by omega)]
  rfl

theorem sentAfter_le (n : Nat) : sentAfter file n ≤ file.length := Nat.min_le_right _ _

theorem sentAfter_mono {i j : Nat} (h : i ≤ j) : sentAfter file i ≤ sentAfter file j := by
  unfold sentAfter
  omega

theorem shownAt_eq (h : 100 * file.length < 2 ^ 32) (i : Nat) :
    (shownAt file i).1 = (100 * sentAfter file (i + 1) / file.length : Nat) := by
  have hle : sentAfter file (i + 1) ≤ file.length := sentAfter_le (i + 1)
  have hsmall : 100 * sentAfter file (i + 1) / file.length ≤ 100 :=
    Nat.div_le_of_le_mul (by rw [Nat.mul_comm file.length]; omega)
  have hnat := percent_toNat hle (by omega)
  rw [Nat.mod_eq_of_lt (by omega), Nat.mul_comm _ 100] at hnat
  unfold shownAt
  rw [toInt_of_lt (by omega), hnat]

theorem sizesRight_of_small {d : Dev} (es : List Event) (h : 100 * file.length < 2 ^ 32)
    (hpos : file.length ≠ 0) (hget : d.get .fileUpload = .fresh .fileUpload file)
    (hstart : ∀ payload, (CMD_FILE_WRITE_START, payload) ∈ Kind.fileUpload.sent d.out →
      announcedSize payload = file.length)
    (hes : Run.Along step ChunkAck es d) : SizesRight file d es := by
  obtain ⟨hchunks, m, hm, hprogress, hends⟩ := (ShownSoFar.fresh hget).run (by omega) es hes
  have hpercents : (uploadTrace es d).progress.map Prod.fst = (List.range m).map
      fun i => ((100 * sentAfter file (i + 1) / file.length : Nat) : Int) := by
    show (Run.exec uploadStep es { dev := d }).progress.map _ = _
    rw [hprogress, List.map_map]
    exact List.map_congr_left fun i _ => shownAt_eq h i
  refine ⟨hstart, hchunks, fun p hp => ?_, ?_, fun hf => ?_⟩
  · replace hp : p ∈ (Run.exec uploadStep es { dev := d }).progress := hp
    rw [hprogress] at hp
    obtain ⟨i, -, rfl⟩ := List.mem_map.mp hp
    exact shownAt_eq h i
  · rw [hpercents, List.pairwise_map]
    refine List.pairwise_lt_range.imp fun {i j} hij => ?_
    have hmono : sentAfter file (i + 1) ≤ sentAfter file (j + 1) :=
      sentAfter_mono (Nat.succ_le_succ (Nat.le_of_lt hij))
    exact Int.ofNat_le.mpr (Nat.div_le_div_right (Nat.mul_le_mul_left 100 hmono))
  · obtain ⟨k, hk⟩ := Nat.exists_eq_succ_of_ne_zero (Nat.ne_of_gt (chunkCount_pos hpos))
    rw [hpercents, hends hf, hk, List.range_succ, List.map_append, List.map_singleton,
      List.getLast?_concat]
    show some (((100 * sentAfter file k.succ / file.length : Nat) : Int)) = some 100
    rw [← hk, sentAfter_chunkCount, Nat.mul_div_cancel _ (by omega)]
    rfl

end

/-! ## The start -/

section
variable {file : List UInt8} {d : Dev} {localPath remotePath : String}

theorem uploadCall_started (hread : d.env.readFile localPath = some file)
    (hs : Kind.fileUpload.startsAt (.call (.uploadFile localPath remotePath)) d) :
    let d' := step (.call (.uploadFile localPath remotePath)) d
    UInt32.ofNat file.length ≠ 0 ∧ d'.get .fileUpload = .fresh .fileUpload file ∧
      Kind.fileUpload.sent d'.out = [startCommand file remotePath] := by
  intro d'
  obtain ⟨file', path, hname, hread', hget⟩ := startsAt_file hs
  obtain rfl : path = localPath := hname
  obtain rfl : file' = file := Option.some.inj (hread'.symm.trans hread)
  have hsent := hs
  unfold Kind.startsAt at hsent
  cases (worked_step (.call (.uploadFile path remotePath)) d).change .fileUpload with
  | started data payload before cause alone alone' named size get sent =>
    have hidle : d.ops.fileUpload.state = .Idle := by
      rcases before with h | ⟨-, f, dialect, hcall, -⟩
      · exact h
      · exact absurd hcall (by simp)
    obtain ⟨path', rfl, hdata⟩ := named
    obtain rfl : data = file' := Option.some.inj (hdata.symm.trans hread)
    refine ⟨size, get, ?_⟩
    have heq : d' = _ := uploadFile_eq (d := d.fresh) remotePath alone hidle hread size
    rw [heq]
    unfold Kind.sent
    rw [sendStart_sent]
    rfl
  | same get sent => rw [sent, sent_fresh] at hsent; simp at hsent
  | idle before after sent => rw [sent, sent_fresh] at hsent; simp at hsent
  | acked ack before get sent =>
    obtain ⟨f, dialect, hcall, -⟩ := ack
    exact absurd hcall (by simp)
  | ended before after sent => rw [sent, sent_fresh] at hsent; simp at hsent
  | cleanup esp timeout before after sent => exact absurd esp (by decide)

theorem announcedSize_start (file : List UInt8) (remotePath : String) :
    announcedSize (startCommand file remotePath).2 = file.length % 2 ^ 32 := by
  have h : announcedSize (startCommand file remotePath).2 =
      (ofLe32 ((le32 (UInt32.ofNat file.length)).getD 0 0)
        ((le32 (UInt32.ofNat file.length)).getD 1 0) ((le32 (UInt32.ofNat file.length)).getD 2 0)
        ((le32 (UInt32.ofNat file.length)).getD 3 0)).toNat := rfl
  rw [h, ofLe32_le32, UInt32.toNat_ofNat']

end

/-! ## Where something wraps -/

section
variable (file : List UInt8)

/-- a device on the serial line, and `file` on the disk -/
def readyFor : Dev :=
  Run.exec step [.env { serialOpens := fun _ => true, readFile := fun _ => some file },
    .call (.connectToDevice "COM3")] init

def uploadCall : Event := .call (.uploadFile "a.bin" "0:/a.bin")

def ackEvent : Event := .frame ⟨CMD_ACK, 0, []⟩ .Correct

variable {file} (hsize : UInt32.ofNat file.length ≠ 0)
include hsize

theorem readyFor_starts : step uploadCall (readyFor file) =
    ((readyFor file).fresh.setTransfer .fileUpload { (readyFor file).get .fileUpload with
      data := file, size := UInt32.ofNat file.length, offset := 0 }).sendStart .fileUpload
        (startCommand file "0:/a.bin").2 := by
  have hcall (d : Dev) : step uploadCall d = d.fresh.uploadFile "a.bin" "0:/a.bin" := rfl
  have hread : (readyFor file).fresh.env.readFile "a.bin" = some file := rfl
  rw [hcall, uploadFile_eq "0:/a.bin"
    ((alone_iff _ _).mpr ⟨fun _ => rfl, fun _ => rfl, fun _ => rfl, rfl⟩) rfl hread hsize]
  rfl

theorem readyFor_startsAt : Kind.fileUpload.startsAt uploadCall (readyFor file) := by
  unfold Kind.startsAt Kind.sent
  rw [readyFor_starts hsize, sendStart_sent]
  exact List.mem_singleton_self _

theorem readyFor_acks : ChunkAck ackEvent (step uploadCall (readyFor file)) := by
  have hconnected : (readyFor file).fresh.isConnected = true := rfl
  have puts := (Puts.setTransfer .fileUpload { (readyFor file).get .fileUpload with
    data := file, size := UInt32.ofNat file.length, offset := 0 } (readyFor file).fresh)
  rw [readyFor_starts hsize]
  refine ⟨⟨_, _, rfl, rfl⟩, ?_, ?_, .inl ?_⟩
  · rw [(sendStart_puts (puts.connected.trans hconnected) .fileUpload _).connected, puts.connected]
    exact hconnected
  · rw [sendStart_ops]
    exact ⟨rfl, rfl, rfl, rfl⟩
  · rw [sendStart_get]

omit hsize in
/-- as many ACKs as chunks, and one for START -/
theorem ShownSoFar.acks (hlen : file.length < 2 ^ 31) {n : Nat} {u : UploadTrace}
    (h : ShownSoFar file n u) (ha : ChunkAck ackEvent u.dev) (j : Nat)
    (hj : n + j = chunkCount file) :
    Run.Along step ChunkAck (List.replicate (j + 1) ackEvent) u.dev ∧
      ((Run.exec uploadStep (List.replicate (j + 1) ackEvent) u).dev.get .fileUpload).state =
        .WaitingFinishAck := by
  induction j generalizing n u with
  | zero => exact ⟨⟨ha, trivial⟩, (h.finish hlen ha hj).1⟩
  | succ j ih =>
    obtain ⟨hnext, hstate⟩ := h.chunk hlen ha (by omega)
    obtain ⟨halong, hfinal⟩ := ih hnext (ha.next hstate) (by omega)
    exact ⟨⟨ha, halong⟩, hfinal⟩

theorem readyFor_started : (step uploadCall (readyFor file)).get .fileUpload =
      .fresh .fileUpload file ∧
    Kind.fileUpload.sent (step uploadCall (readyFor file)).out =
      [startCommand file "0:/a.bin"] := by
  have hread : (readyFor file).env.readFile "a.bin" = some file := rfl
  exact (uploadCall_started hread (readyFor_startsAt hsize)).2

omit hsize in
/-- the size is announced in 32 bits -/
theorem length_of_announced {d : Dev} {remotePath : String}
    (hsent : Kind.fileUpload.sent d.out = [startCommand file remotePath])
    (h : SizesRight file d []) : file.length < 2 ^ 32 := by
  have hsize : file.length % 2 ^ 32 = file.length := by
    rw [← announcedSize_start file remotePath]
    refine h.announced _ ?_
    rw [hsent]
    exact List.mem_singleton_self _
  omega

/-- what is left of the file is cast to `int` -/
theorem length_of_chunkLen (h32 : file.length < 2 ^ 32) {d : Dev}
    (hget : d.get .fileUpload = .fresh .fileUpload file) (h : SizesRight file d [ackEvent]) :
    file.length < 2 ^ 31 := by
  have hchunk : ChunkLenRight d := h.chunks.1
  unfold ChunkLenRight at hchunk
  rw [hget] at hchunk
  have hnat : (UInt32.ofNat file.length).toNat = file.length := by
    rw [UInt32.toNat_ofNat', Nat.mod_eq_of_lt h32]
  have hpos : (0 : UInt32) < UInt32.ofNat file.length :=
    UInt32.pos_iff_ne_zero.mpr hsize
  have hone := (hchunk hpos).1
  have hle : (Transfer.fresh .fileUpload file).chunkLen .fileUpload ≤
      toInt (UInt32.ofNat file.length) := by
    unfold Transfer.chunkLen Transfer.fresh
    rw [UInt32.sub_zero]
    exact Int.min_le_right _ _
  by_contra hbig
  have hneg := toInt_neg (v := UInt32.ofNat file.length) (by omega)
  omega

/-- the offset is multiplied by 100 in 32 bits -/
theorem length_of_ends (hlen : file.length < 2 ^ 31) {d : Dev}
    (hget : d.get .fileUpload = .fresh .fileUpload file) (hack : ChunkAck ackEvent d)
    (h : ∀ es, Run.Along step ChunkAck es d → SizesRight file d es) :
    100 * file.length < 2 ^ 32 := by
  have hpos : file.length ≠ 0 := fun h0 => hsize (by rw [h0]; rfl)
  have h0 := ShownSoFar.fresh hget
  obtain ⟨halong, hfinal⟩ := h0.acks hlen hack (chunkCount file) (Nat.zero_add _)
  obtain ⟨-, m, -, hprogress, hends⟩ := h0.run hlen _ halong
  have hlast := (h _ halong).ends hfinal
  obtain ⟨k, hk⟩ := Nat.exists_eq_succ_of_ne_zero (Nat.ne_of_gt (chunkCount_pos hpos))
  unfold uploadTrace at hlast
  rw [hprogress, hends hfinal, hk, List.range_succ, List.map_append, List.map_append,
    List.map_singleton, List.map_singleton, List.getLast?_concat] at hlast
  have hshown : toInt (UInt32.ofNat (sentAfter file (k + 1)) * 100 /
    UInt32.ofNat file.length) = 100 := Option.some.inj hlast
  rw [← Nat.succ_eq_add_one, ← hk, sentAfter_chunkCount] at hshown
  by_contra hwraps
  have hfew : file.length * 100 % 2 ^ 32 / file.length < 100 :=
    Nat.div_lt_of_lt_mul (by omega)
  have hnat := percent_toNat (Nat.le_refl file.length) hlen
  rw [toInt_of_lt (by omega), hnat] at hshown
  omega

theorem small_of_sizesRight (h : UploadSizes file) : 100 * file.length < 2 ^ 32 := by
  have hread : (readyFor file).env.readFile "a.bin" = some file := rfl
  have right (es : List Event) (hes : Run.Along step ChunkAck es
      (step uploadCall (readyFor file))) :
      SizesRight file (step uploadCall (readyFor file)) es :=
    h _ _ _ es (.exec _) hread (readyFor_startsAt hsize) hes
  obtain ⟨hget, hsent⟩ := readyFor_started hsize
  have hack := readyFor_acks hsize
  have h32 := length_of_announced hsent (right [] trivial)
  have h31 := length_of_chunkLen hsize h32 hget (right [ackEvent] ⟨hack, trivial⟩)
  exact length_of_ends hsize h31 hget hack right

end

/-- **The numbers of an upload** are right, for a file that is accepted, iff a hundred times its
length fits into 32 bits. -/
theorem uploadSizes_iff (file : List UInt8) (hsize : UInt32.ofNat file.length ≠ 0) :
    UploadSizes file ↔ 100 * file.length < 2 ^ 32 := by
  refine ⟨small_of_sizesRight hsize, fun hsmall d localPath remotePath es _ hread hs hes => ?_⟩
  obtain ⟨-, hget, hsent⟩ := uploadCall_started hread hs
  refine sizesRight_of_small es hsmall (fun h0 => hsize (by rw [h0]; rfl)) hget
    (fun payload hp => ?_) hes
  rw [hsent] at hp
  have hpayload : payload = (startCommand file remotePath).2 :=
    congrArg Prod.snd (List.mem_singleton.mp hp)
  rw [hpayload, announcedSize_start]
  exact Nat.mod_eq_of_lt (by omega)

theorem uploadSizes_threeChunks : UploadSizes (List.replicate 1028 7) := by
  have hlength : (List.replicate 1028 (7 : UInt8)).length = 1028 := List.length_replicate
  refine (uploadSizes_iff _ ?_).mpr ?_ <;> rw [hlength] <;> decide

/-- the first length that fails: the last progress of 42949673 bytes is 0 -/
theorem uploadSizes_wraps : ¬ UploadSizes (List.replicate 42949673 0) := by
  intro h
  have hlength : (List.replicate 42949673 (0 : UInt8)).length = 42949673 := List.length_replicate
  have hsmall := small_of_sizesRight (by rw [hlength]; decide) h
  rw [hlength] at hsmall
  omega

end QMon.Device
