import QMonstatek.Device.Exclusive

/-!
# The upload queues

`QueueOk d`        an active upload queue has its upload running, an active MKDIR queue has its
                   MKDIR awaited;
`nextFile o`       the queued file that an ACK goes on to;
`QueueGoesOn e d`  what the handler of `e` needs for `QueueOk`: the file it goes on to can be
                   uploaded, no upload times out under an active queue, and no NACK and no other
                   file command meets an active MKDIR queue.

`queueOk_iff`: the queues are right in every state of a run exactly when every step of it is
`QueueGoesOn`.  The refusal of an upload by the device is the path that clears both queues;
the paths `QueueGoesOn` excludes end the upload or the MKDIR and leave the index behind.
-/

namespace QMon.Device
open Rpc

/-- an active queue has something to wait for -/
def Dev.QueueOk (d : Dev) : Prop :=
  (d.ops.uploadQueueIndex ≥ 0 → d.ops.fileUpload.state ≠ .Idle) ∧
    (d.ops.mkdirQueueIndex ≥ 0 → d.ops.pendingFileCmd = CMD_FILE_MKDIR)

/-- no other operation is in the way and the local file is there and not empty (its size is
counted modulo 2^32) -/
def Dev.CanUpload (localPath : String) (d : Dev) : Prop :=
  d.ops.fwUpdate.state = .Idle ∧ d.ops.espUpdate.state = .Idle ∧
    d.ops.bankErasePending = false ∧
    ∃ data, d.env.readFile localPath = some data ∧ UInt32.ofNat data.length ≠ 0

/-! ## What leaves the queues alone -/

/-- work on transfer `k` that leaves the queues and the pending file command as they are -/
structure Beside (k : Kind) (d d' : Dev) : Prop where
  upload : k ≠ .fileUpload → d'.ops.fileUpload = d.ops.fileUpload
  index : d'.ops.uploadQueueIndex = d.ops.uploadQueueIndex
  mkdirIndex : d'.ops.mkdirQueueIndex = d.ops.mkdirQueueIndex
  pending : d'.ops.pendingFileCmd = d.ops.pendingFileCmd

variable {k : Kind} {a b c d d' : Dev}

theorem Beside.queueOk (h : Beside k d d') (hd : d.QueueOk)
    (active : d.ops.fileUpload.state ≠ .Idle → d'.ops.fileUpload.state ≠ .Idle) : d'.QueueOk := by
  obtain ⟨hu, hm⟩ := hd
  refine ⟨fun hi => active (hu ?_), fun hi => ?_⟩
  · rw [← h.index]
    exact hi
  · rw [h.pending]
    exact hm (by rw [← h.mkdirIndex]; exact hi)

theorem Beside.queueOk_other (h : Beside k d d') (hk : k ≠ .fileUpload) (hd : d.QueueOk) :
    d'.QueueOk := h.queueOk hd (by rw [h.upload hk]; exact id)

theorem Beside.of_ops (h : d'.ops = d.ops) : Beside k d d' := by
  constructor
  · intro _
    rw [h]
  all_goals rw [h]

theorem Beside.trans (h : Beside k a b) (h' : Beside k b c) : Beside k a c :=
  ⟨fun hk => (h'.upload hk).trans (h.upload hk), h'.index.trans h.index,
    h'.mkdirIndex.trans h.mkdirIndex, h'.pending.trans h.pending⟩

theorem Beside.emit (h : Beside k a b) (s : Signal) : Beside k a (b.emit s) :=
  ⟨h.upload, h.index, h.mkdirIndex, h.pending⟩

theorem Beside.send (h : Beside k a b) (cmd : UInt8) (payload : List UInt8) :
    Beside k a (b.sendCommand cmd payload) := h.trans (.of_ops (Dev.sendCommand_ops _ _ _))

theorem Beside.setTransfer (k : Kind) (t : Transfer) (d : Dev) :
    Beside k d (d.setTransfer k t) := by
  cases k with
  | fwUpdate => exact ⟨fun _ => rfl, rfl, rfl, rfl⟩
  | espUpdate => exact ⟨fun _ => rfl, rfl, rfl, rfl⟩
  | fileUpload => exact ⟨fun h => absurd rfl h, rfl, rfl, rfl⟩

theorem Beside.resumed (h : Beside k a b) (s : Signal) :
    Beside k a (b.resumeKeepaliveIfIdle.emit s) :=
  (h.trans (.of_ops b.resumeKeepaliveIfIdle_ops)).emit s

theorem sendStart_beside (k : Kind) (payload : List UInt8) (d : Dev) :
    Beside k d (d.sendStart k payload) := by
  unfold Dev.sendStart
  refine Beside.send (Beside.trans ?_ (.of_ops (Dev.suspendKeepalive_ops _))) _ _
  exact .setTransfer k _ d

theorem endTransfer_beside (k : Kind) (d : Dev) : Beside k d (d.endTransfer k) :=
  .setTransfer k _ d

theorem beside_chunkClosed (k : Kind) : ChunkClosed k (Beside k) where
  refl _ := .of_ops rfl
  trans := Beside.trans
  set d t _ := .setTransfer k t d
  emit _ _ _ := .of_ops rfl
  send d cmd payload _ _ := .of_ops (d.sendCommand_ops cmd payload)

theorem StartBranch.beside {path : String} (h : StartBranch k path d d') : Beside k d d' := by
  have stored (flashAddr : UInt32) (t : Transfer) :
      Beside k d ((d.setFlashAddr flashAddr).setTransfer k t) :=
    Beside.trans (b := d.setFlashAddr flashAddr) ⟨fun _ => rfl, rfl, rfl, rfl⟩ (.setTransfer k t _)
  cases h with
  | refused message busy => exact .of_ops rfl
  | rejected flashAddr data t message idle read after empty => exact (stored flashAddr t).emit _
  | started flashAddr data payload t status idle alone read size image progress =>
    exact ((stored flashAddr t).trans (sendStart_beside k payload _)).trans
      (.of_ops (Dev.emitAll_ops _ _))

theorem eraseInactiveBank_beside (d : Dev) : Beside k d d.eraseInactiveBank := by
  unfold Dev.eraseInactiveBank
  split
  · exact .of_ops rfl
  · refine Beside.send (Beside.trans ?_ (.of_ops (Dev.suspendKeepalive_ops _))) _ _
    exact ⟨fun _ => rfl, rfl, rfl, rfl⟩

theorem swapBanks_beside (d : Dev) : Beside k d d.swapBanks := by
  unfold Dev.swapBanks
  refine Beside.send ?_ _ _
  exact ⟨fun _ => rfl, rfl, rfl, rfl⟩

theorem TimeoutBranch.beside (h : TimeoutBranch k d d') : Beside k d d' := by
  cases h with
  | idle before => exact .setTransfer k _ d
  | ended message hk before => exact (endTransfer_beside k d).resumed _
  | cleanup message hk before d1 sent =>
    refine Beside.resumed (Beside.trans (b := d1) ?_ (Beside.trans (endTransfer_beside k d1) ?_)) _
    · rw [sent]
      refine Beside.send ?_ _ _
      exact .setTransfer k _ d
    · exact ⟨fun _ => rfl, rfl, rfl, rfl⟩

theorem Linked.queueOk (h : Linked d d') (hd : d.QueueOk) : d'.QueueOk := by
  obtain ⟨bs, -, ho⟩ := h.ops
  unfold Dev.QueueOk
  rw [ho]
  by_cases hl : false ∈ bs
  · rw [if_pos hl]
    exact ⟨fun hi => absurd hi (by simp [Operations.reset]),
      fun hi => absurd hi (by simp [Operations.reset])⟩
  · rw [if_neg hl]
    exact hd

/-! ## Starting a queued upload -/

theorem canUpload_iff (localPath : String) (d : Dev) : d.CanUpload localPath ↔
    d.Alone .fileUpload ∧
      ∃ data, d.env.readFile localPath = some data ∧ UInt32.ofNat data.length ≠ 0 := by
  rw [alone_iff]
  unfold Dev.CanUpload
  simp [and_assoc]

/-- an idle machine takes the file exactly when it can be uploaded -/
theorem uploadFile_active_iff (localPath remotePath : String) (d : Dev)
    (h : d.ops.fileUpload.state = .Idle) :
    (d.uploadFile localPath remotePath).ops.fileUpload.state ≠ .Idle ↔
      d.CanUpload localPath := by
  have branch := uploadFile_branch localPath d remotePath
  generalize d.uploadFile localPath remotePath = d' at branch
  rw [canUpload_iff]
  cases branch with
  | refused message busy =>
    refine iff_of_false (not_not.mpr h) fun hc => busy ⟨h, hc.1, ?_⟩
    obtain ⟨-, data, hread, -⟩ := hc
    exact ⟨data, hread⟩
  | rejected flashAddr data t message idle read after empty =>
    refine iff_of_false (not_not.mpr after) fun hc => ?_
    obtain ⟨-, data', hread, hsize⟩ := hc
    rw [read] at hread
    obtain rfl := Option.some.inj hread
    exact hsize (empty rfl)
  | started flashAddr data payload t status idle alone read size image progress =>
    refine iff_of_true ?_ ⟨alone, data, read, size⟩
    rw [Dev.emitAll_ops]
    have hget := congrArg Transfer.state
      (sendStart_get .fileUpload payload ((d.setFlashAddr flashAddr).setTransfer .fileUpload t))
    intro hidle
    exact TransferState.noConfusion (hget.symm.trans hidle)

section
variable (idle : d.ops.fileUpload.state = .Idle)
  (mkdir : d.ops.mkdirQueueIndex ≥ 0 → d.ops.pendingFileCmd = CMD_FILE_MKDIR)
include idle mkdir

theorem uploadItem_queueOk {index : Int} (hi : index ≥ 0) (item : UploadQueueItem) :
    (d.uploadItem index item).QueueOk ↔ d.CanUpload item.localPath := by
  unfold Dev.uploadItem
  dsimp only
  let d1 : Dev := Dev.emit { d with ops := { d.ops with uploadQueueIndex := index } }
    (.multiUploadProgress (index + 1).toNat d.ops.uploadQueue.length (fileName item.localPath))
  have hb := (uploadFile_branch item.localPath d1 item.remotePath).beside
  have hact : (d1.uploadFile item.localPath item.remotePath).ops.fileUpload.state ≠ .Idle ↔
      d.CanUpload item.localPath := uploadFile_active_iff item.localPath item.remotePath d1 idle
  constructor
  · rintro ⟨hu, -⟩
    refine hact.mp (hu ?_)
    rw [hb.index]
    exact hi
  · intro hc
    refine ⟨fun _ => hact.mpr hc, fun hm => ?_⟩
    rw [hb.mkdirIndex] at hm
    rw [hb.pending]
    exact mkdir hm

theorem startUploadQueue_queueOk (hi : d.ops.uploadQueueIndex < 0) :
    d.startUploadQueue.QueueOk ↔
      ∀ item ∈ d.ops.uploadQueue.head?, d.CanUpload item.localPath := by
  unfold Dev.startUploadQueue
  split
  · rename_i hq
    rw [hq]
    refine iff_of_true ⟨fun h => ?_, mkdir⟩ (by simp)
    exact absurd h (Int.not_le.mpr hi)
  · rename_i item rest hq
    rw [uploadItem_queueOk idle mkdir (Int.le_refl 0), hq]
    simp

theorem advanceUploadQueue_queueOk (hi : d.ops.uploadQueueIndex ≥ 0) :
    d.advanceUploadQueue.QueueOk ↔
      ∀ item ∈ d.ops.uploadQueue[(d.ops.uploadQueueIndex + 1).toNat]?,
        d.CanUpload item.localPath := by
  unfold Dev.advanceUploadQueue
  dsimp only
  split
  · rename_i hnext
    rw [hnext]
    exact iff_of_true ⟨fun h => absurd h (by simp), mkdir⟩ (by simp)
  · rename_i item hnext
    have hi' : d.ops.uploadQueueIndex + 1 ≥ 0 := by omega
    rw [uploadItem_queueOk idle mkdir hi', hnext]
    simp

end

/-! ## Replies -/

/-- the queued file an unclaimed ACK goes on to: the next one after FINISH, the first one after
the last MKDIR -/
def Operations.nextFile (o : Operations) : Option UploadQueueItem :=
  match o.fileUpload.state with
  | .WaitingFinishAck =>
    if o.uploadQueueIndex ≥ 0 then o.uploadQueue[(o.uploadQueueIndex + 1).toNat]? else none
  | .Idle =>
    if o.pendingFileCmd = CMD_FILE_MKDIR ∧ o.mkdirQueueIndex ≥ 0
        ∧ o.mkdirQueue[(o.mkdirQueueIndex + 1).toNat]? = none then
      o.uploadQueue.head?
    else none
  | _ => none

def Dev.AckGoesOn (d : Dev) : Prop :=
  d.ops.Unclaimed → ∀ item ∈ d.ops.nextFile, d.CanUpload item.localPath

def Dev.NackGoesOn (d : Dev) : Prop :=
  d.ops.Unclaimed → d.ops.fileUpload.state = .Idle → d.ops.espUpdateStaleNack = false →
    d.ops.mkdirQueueIndex < 0

theorem advanceMkdirQueue_queueOk (idle : d.ops.fileUpload.state = .Idle)
    (hi : d.ops.uploadQueueIndex < 0) :
    d.advanceMkdirQueue.QueueOk ↔ (d.ops.mkdirQueue[(d.ops.mkdirQueueIndex + 1).toNat]? = none →
      ∀ item ∈ d.ops.uploadQueue.head?, d.CanUpload item.localPath) := by
  unfold Dev.advanceMkdirQueue
  dsimp only
  split
  · rename_i hnext
    let d1 : Dev := { d with ops := { d.ops with mkdirQueue := [], mkdirQueueIndex := -1 } }
    have hm : d1.ops.mkdirQueueIndex ≥ 0 → d1.ops.pendingFileCmd = CMD_FILE_MKDIR :=
      fun h => absurd h (by simp [d1])
    rw [hnext]
    split
    · have hstart := startUploadQueue_queueOk (d := d1) idle hm hi
      exact hstart.trans (by simp [d1, Dev.CanUpload])
    · rename_i hq
      have hq' : d.ops.uploadQueue = [] := not_not.mp hq
      rw [hq']
      exact iff_of_true ⟨fun h => absurd h (Int.not_le.mpr hi), hm⟩ (by simp)
  · rename_i dir hnext
    rw [hnext]
    refine iff_of_true ?_ (by simp)
    unfold Dev.makeDirectory Dev.QueueOk
    rw [Dev.fileCommand_ops]
    exact ⟨fun h => absurd h (Int.not_le.mpr hi), fun _ => rfl⟩

/-- a reply with no queued file to go on to -/
theorem queueOk_iff_of_none (hd : d'.QueueOk) (hn : d.ops.nextFile = none) :
    d'.QueueOk ↔ ∀ item ∈ d.ops.nextFile, d.CanUpload item.localPath := by
  rw [hn]
  exact iff_of_true hd (by simp)

theorem ackFileCommand_queueOk (h : d.QueueOk) (idle : d.ops.fileUpload.state = .Idle) :
    d.ackFileCommand.QueueOk ↔ ∀ item ∈ d.ops.nextFile, d.CanUpload item.localPath := by
  have hi : d.ops.uploadQueueIndex < 0 := by
    by_contra hi
    exact h.1 (Int.not_lt.mp hi) idle
  have none_of (hn : ¬ (d.ops.pendingFileCmd = CMD_FILE_MKDIR ∧ d.ops.mkdirQueueIndex ≥ 0)) :
      d.ops.nextFile = none := by
    unfold Operations.nextFile
    rw [idle]
    exact if_neg fun hc => hn ⟨hc.1, hc.2.1⟩
  -- with no MKDIR awaited there is no MKDIR queue either
  have other (hp : d.ops.pendingFileCmd ≠ CMD_FILE_MKDIR) {d' : Dev}
      (hu : d'.ops.uploadQueueIndex = d.ops.uploadQueueIndex)
      (hm : d'.ops.mkdirQueueIndex = d.ops.mkdirQueueIndex) :
      d'.QueueOk ↔ ∀ item ∈ d.ops.nextFile, d.CanUpload item.localPath := by
    refine queueOk_iff_of_none ⟨fun hx => ?_, fun hx => ?_⟩ (none_of fun hc => hp hc.1)
    · rw [hu] at hx
      exact absurd hx (Int.not_le.mpr hi)
    · rw [hm] at hx
      exact absurd (h.2 hx) hp
  have branch := ackFileCommand_branch d
  generalize d.ackFileCommand = d' at branch
  cases branch with
  | deleted pending =>
    refine other ?_ rfl rfl
    rcases pending with hp | hp <;> (rw [hp]; decide)
  | renamed pending => exact other (by rw [pending]; decide) rfl rfl
  | madeDirectory pending queue =>
    refine queueOk_iff_of_none ⟨fun hx => ?_, fun hx => ?_⟩ (none_of fun hc => ?_)
    · exact absurd hx (Int.not_le.mpr hi)
    · exact absurd hx (Int.not_le.mpr queue)
    · exact absurd hc.2 (Int.not_le.mpr queue)
  | nextDirectory pending queue =>
    refine Iff.trans (advanceMkdirQueue_queueOk (d := d.clearPending) idle hi) ?_
    have hq : d.clearPending.ops.mkdirQueue[(d.clearPending.ops.mkdirQueueIndex + 1).toNat]?
        = d.ops.mkdirQueue[(d.ops.mkdirQueueIndex + 1).toNat]? := rfl
    unfold Operations.nextFile
    rw [idle, hq]
    dsimp only
    by_cases hnext : d.ops.mkdirQueue[(d.ops.mkdirQueueIndex + 1).toNat]? = none
    · rw [if_pos ⟨pending, queue, hnext⟩, imp_iff_right hnext]
      rfl
    · rw [if_neg fun hc => hnext hc.2.2]
      simp [hnext]
  | mounted on pending =>
    refine other ?_ rfl rfl
    rw [pending]
    cases on <;> decide
  | late pending => exact other pending rfl rfl

/-- the ACK of a chunk leaves the transfer active -/
theorem ackChunk_queueOk {k : Kind} {status : List Signal} (h : d.QueueOk)
    (progress : ∀ s ∈ status, s.isProgress = true) : (d.ackChunk k status).QueueOk := by
  have hb := (beside_chunkClosed k).ackChunk progress d
  by_cases hk : k = .fileUpload
  · subst hk
    have hactive : ((d.ackChunk .fileUpload status).get .fileUpload).state ≠ .Idle := by
      rw [ackChunk_get]
      unfold Transfer.next
      split <;> simp
    exact hb.queueOk h fun _ => hactive
  · exact hb.queueOk_other hk h

/-- the ACK of FINISH, with no upload queue active -/
theorem finished_queueOk {k : Kind} (h : d.QueueOk)
    (hi : k = .fileUpload → d.ops.uploadQueueIndex < 0) :
    ((d.endTransfer k).resumeKeepaliveIfIdle.emit k.complete).QueueOk := by
  have hb : Beside k d _ := (endTransfer_beside k d).resumed k.complete
  by_cases hk : k = .fileUpload
  · refine ⟨fun hx => ?_, fun hx => ?_⟩
    · rw [hb.index] at hx
      exact absurd hx (Int.not_le.mpr (hi hk))
    · rw [hb.mkdirIndex] at hx
      rw [hb.pending]
      exact h.2 hx
  · exact hb.queueOk_other hk h

theorem nextFile_of_sending (h : d.ops.fileUpload.state = .WaitingStartAck ∨
    d.ops.fileUpload.state = .SendingData) : d.ops.nextFile = none := by
  unfold Operations.nextFile
  rcases h with hs | hs <;> rw [hs]

theorem nextFile_of_finished (h : d.ops.fileUpload.state = .WaitingFinishAck) : d.ops.nextFile =
    if d.ops.uploadQueueIndex ≥ 0 then d.ops.uploadQueue[(d.ops.uploadQueueIndex + 1).toNat]?
    else none := by
  unfold Operations.nextFile
  rw [h]

theorem handleAck_queueOk (h : d.QueueOk) : d.handleAck.QueueOk ↔ d.AckGoesOn := by
  have claimed {d' : Dev} (hd' : d'.QueueOk) (hc : ¬ d.ops.Unclaimed) :
      d'.QueueOk ↔ d.AckGoesOn := iff_of_true hd' fun hu => absurd hu hc
  have files {d' : Dev} (mine : d.ops.Unclaimed)
      (hd' : d'.QueueOk ↔ ∀ item ∈ d.ops.nextFile, d.CanUpload item.localPath) :
      d'.QueueOk ↔ d.AckGoesOn := hd'.trans (imp_iff_right mine).symm
  have branch := handleAck_branch d
  generalize d.handleAck = d' at branch
  cases branch with
  | bankErase pending =>
    refine claimed (Beside.queueOk_other (k := .fwUpdate) ?_ (by decide) h) fun hu => ?_
    · refine Beside.resumed ?_ _
      exact ⟨fun _ => rfl, rfl, rfl, rfl⟩
    · exact absurd (hu.erase.symm.trans pending) Bool.false_ne_true
  | bankSwap pending =>
    exact claimed h fun hu => absurd (hu.swap.symm.trans pending) Bool.false_ne_true
  | chunk k status mine before progress =>
    have hd' := ackChunk_queueOk (k := k) h progress
    by_cases hk : k = .fileUpload
    · subst hk
      exact files (mine rfl) (queueOk_iff_of_none hd' (nextFile_of_sending before))
    · refine claimed hd' fun hu => hk (hu.fileUpload ?_)
      rcases before with hs | hs <;> (rw [hs]; decide)
  | finished k mine before =>
    have hd' := finished_queueOk h fun hk => (mine hk).2
    by_cases hk : k = .fileUpload
    · subst hk
      obtain ⟨hu, hi⟩ := mine rfl
      refine files hu (queueOk_iff_of_none hd' ?_)
      rw [nextFile_of_finished before]
      exact if_neg (Int.not_le.mpr hi)
    · refine claimed hd' fun hu => hk (hu.fileUpload ?_)
      rw [before]
      decide
  | nextFile mine before queue =>
    have hidle : (d.endTransfer .fileUpload).ops.fileUpload.state = .Idle := rfl
    refine files mine ((advanceUploadQueue_queueOk hidle h.2 queue).trans ?_)
    rw [nextFile_of_finished before, if_pos queue]
    rfl
  | fileCommand mine idle => exact files mine (ackFileCommand_queueOk h idle)

theorem handleNack_queueOk (payload : List UInt8) (h : d.QueueOk) :
    (d.handleNack payload).QueueOk ↔ d.NackGoesOn := by
  have claimed {d' : Dev} (hd' : d'.QueueOk) (hc : ¬ d.ops.Unclaimed) :
      d'.QueueOk ↔ d.NackGoesOn := iff_of_true hd' fun hu => absurd hu hc
  have branch := handleNack_branch payload d
  generalize d.handleNack payload = d' at branch
  cases branch with
  | bankErase pending =>
    refine claimed (Beside.queueOk_other (k := .fwUpdate) ?_ (by decide) h) fun hu => ?_
    · refine Beside.resumed ?_ _
      exact ⟨fun _ => rfl, rfl, rfl, rfl⟩
    · exact absurd (hu.erase.symm.trans pending) Bool.false_ne_true
  | bankSwap pending =>
    exact claimed h fun hu => absurd (hu.swap.symm.trans pending) Bool.false_ne_true
  | update k hk before =>
    exact claimed (((endTransfer_beside k d).resumed _).queueOk_other hk h)
      fun hu => hk (hu.fileUpload before)
  | upload mine before =>
    -- the one path that clears both queues with the upload
    refine iff_of_true ⟨fun hx => ?_, fun hx => ?_⟩ fun _ hi => absurd hi before
    · exact absurd hx (by simp)
    · exact absurd hx (by simp)
  | late mine idle stale =>
    refine iff_of_true h fun _ _ hs => ?_
    exact absurd (hs.symm.trans stale) Bool.false_ne_true
  | fileCommand mine idle stale =>
    refine ⟨fun hq _ _ _ => ?_, fun hn => ⟨h.1, fun hx => ?_⟩⟩
    · by_contra hm
      have hp : (0 : UInt8) = CMD_FILE_MKDIR := hq.2 (Int.not_lt.mp hm)
      exact absurd hp (by decide)
    · exact absurd hx (Int.not_le.mpr (hn mine idle stale))

/-! ## Calls -/

theorem fileCommand_queueOk {cmd : UInt8} (hc : cmd ≠ CMD_FILE_MKDIR) (payload : List UInt8)
    (h : d.QueueOk) : (d.fileCommand cmd payload).QueueOk ↔ d.ops.mkdirQueueIndex < 0 := by
  unfold Dev.QueueOk
  rw [Dev.fileCommand_ops]
  constructor
  · rintro ⟨-, hm⟩
    by_contra hx
    exact hc (hm (Int.not_lt.mp hx))
  · intro hx
    exact ⟨h.1, fun hm => absurd hm (Int.not_le.mpr hx)⟩

theorem makeDirectory_queueOk (remotePath : String) (h : d.QueueOk) :
    (d.makeDirectory remotePath).QueueOk := by
  unfold Dev.makeDirectory Dev.QueueOk
  rw [Dev.fileCommand_ops]
  exact ⟨h.1, fun _ => rfl⟩

theorem uploadFile_queueOk (localPath remotePath : String) (h : d.QueueOk) :
    (d.uploadFile localPath remotePath).QueueOk := by
  refine (uploadFile_branch localPath d remotePath).beside.queueOk h fun hs => ?_
  unfold Dev.uploadFile
  rw [if_pos hs]
  exact hs

theorem uploadFiles_queueOk (fileUrls : List String) (remotePath : String) (h : d.QueueOk) :
    (d.uploadFiles fileUrls remotePath).QueueOk ↔
      (d.ops.uploadQueueIndex < 0 → d.ops.fileUpload.state = .Idle →
        ∀ url ∈ fileUrls.head?, d.CanUpload (d.env.localPath url)) := by
  unfold Dev.uploadFiles
  split
  · rename_i hbusy
    refine iff_of_true h fun hi hs => ?_
    rcases hbusy with hb | hb
    · exact absurd hb (Int.not_le.mpr hi)
    · exact absurd hs hb
  · rename_i hfree
    push Not at hfree
    obtain ⟨hi, hs⟩ := hfree
    rw [imp_iff_right hi, imp_iff_right hs]
    dsimp only
    split
    · rename_i hq
      have hnil : fileUrls = [] := List.map_eq_nil_iff.mp hq
      rw [hnil]
      refine iff_of_true ⟨h.1, fun hx => ?_⟩ (by simp)
      exact absurd hx (by simp)
    · refine Iff.trans (startUploadQueue_queueOk hs (fun hx => ?_) hi) ?_
      · exact absurd hx (by simp)
      · simp [List.head?_map, Dev.CanUpload]

theorem remoteDirs_ne_nil (remoteBase : String) (folder : LocalFolder) :
    remoteDirs remoteBase folder ≠ [] := by
  unfold remoteDirs
  rw [← List.length_pos_iff, List.length_mergeSort]
  exact Nat.succ_pos _

theorem uploadFolder_queueOk (localFolderUrl remotePath : String) (h : d.QueueOk) :
    (d.uploadFolder localFolderUrl remotePath).QueueOk := by
  unfold Dev.uploadFolder
  split
  · exact h
  · rename_i hfree
    push Not at hfree
    obtain ⟨hi, -⟩ := hfree
    dsimp only
    split
    · exact h
    · split
      · rename_i hdirs
        exact absurd hdirs (remoteDirs_ne_nil _ _)
      · unfold Dev.makeDirectory Dev.QueueOk
        rw [Dev.fileCommand_ops]
        exact ⟨fun hx => absurd hx (Int.not_le.mpr hi), fun _ => rfl⟩

theorem onFileUploadTimeout_queueOk (h : d.QueueOk) :
    (d.onTransferTimeout .fileUpload).QueueOk ↔ d.ops.uploadQueueIndex < 0 := by
  have hs : (d.onTransferTimeout .fileUpload).ops.fileUpload.state = .Idle :=
    onTransferTimeout_idle .fileUpload d
  have hb := (onTransferTimeout_branch .fileUpload d).beside
  constructor
  · rintro ⟨hu, -⟩
    by_contra hx
    refine hu ?_ hs
    rw [hb.index]
    exact Int.not_lt.mp hx
  · intro hx
    refine ⟨fun hi => ?_, fun hm => ?_⟩
    · rw [hb.index] at hi
      exact absurd hi (Int.not_le.mpr hx)
    · rw [hb.mkdirIndex] at hm
      rw [hb.pending]
      exact h.2 hm

/-! ## Steps -/

/-- what a step needs to leave the queues right -/
def QueueGoesOn (e : Event) (d : Dev) : Prop :=
  match e with
  | .call (.uploadFiles fileUrls _) =>
    d.ops.uploadQueueIndex < 0 → d.ops.fileUpload.state = .Idle →
      ∀ url ∈ fileUrls.head?, d.CanUpload (d.env.localPath url)
  | .call (.deleteFile _) => d.ops.mkdirQueueIndex < 0
  | .call (.deleteTree _) => d.ops.mkdirQueueIndex < 0
  | .call (.renameFile _ _) => d.ops.mkdirQueueIndex < 0
  | .call .mountSdCard => d.ops.mkdirQueueIndex < 0
  | .call .unmountSdCard => d.ops.mkdirQueueIndex < 0
  | .expire (.transfer .fileUpload) =>
    d.ops.fileUpload.timeout ≠ none → d.ops.uploadQueueIndex < 0
  | .frame f _ =>
    d.isConnected = true → (f.cmd = CMD_ACK → d.AckGoesOn) ∧ (f.cmd = CMD_NACK → d.NackGoesOn)
  | _ => True

theorem Quiet.queueOk (q : Quiet d d') (h : d.QueueOk) : d'.QueueOk := q.linked.queueOk h

theorem call_queueOk (c : Call) (h : d.QueueOk) :
    (d.call c).QueueOk ↔ QueueGoesOn (.call c) d := by
  have kept {d' : Dev} (hd' : d'.QueueOk) : d'.QueueOk ↔ True := iff_true_intro hd'
  have plain (cmd : UInt8) (p : List UInt8) : (d.sendCommand cmd p).QueueOk := by
    unfold Dev.QueueOk
    rw [Dev.sendCommand_ops]
    exact h
  unfold Dev.call QueueGoesOn
  cases c with
  | connectToDevice p => exact kept ((connectToDevice_linked p d).queueOk h)
  | connectToDeviceWifi hp => exact kept ((connectToDeviceWifi_quiet hp d).queueOk h)
  | disconnect => exact kept ((disconnect_linked d).queueOk h)
  | setPreferredSerialPort p => exact kept ((setPreferredSerialPort_quiet p d).queueOk h)
  | setDeviceLogVerbose on => exact kept ((setDeviceLogVerbose_quiet on d).queueOk h)
  | startScreenStream fps => exact kept ((startScreenStream_quiet fps d).queueOk h)
  | stopScreenStream => exact kept ((stopScreenStream_quiet d).queueOk h)
  | downloadFile r l =>
    refine kept ?_
    unfold Dev.downloadFile Dev.QueueOk
    rw [Dev.sendCommand_ops]
    exact h
  | uploadFile l r => exact kept (uploadFile_queueOk l r h)
  | uploadFiles us r => exact uploadFiles_queueOk us r h
  | uploadFolder u r => exact kept (uploadFolder_queueOk u r h)
  | deleteFile r => exact fileCommand_queueOk (by decide) _ h
  | deleteTree r => exact fileCommand_queueOk (by decide) _ h
  | renameFile o n => exact fileCommand_queueOk (by decide) _ h
  | makeDirectory r => exact kept (makeDirectory_queueOk r h)
  | mountSdCard => exact fileCommand_queueOk (by decide) _ h
  | unmountSdCard => exact fileCommand_queueOk (by decide) _ h
  | startFwUpdate p => exact kept ((startFwUpdate_branch p d).beside.queueOk_other (by decide) h)
  | swapBanks =>
    exact kept ((swapBanks_beside (k := .fwUpdate) d).queueOk_other (by decide) h)
  | eraseInactiveBank =>
    exact kept ((eraseInactiveBank_beside (k := .fwUpdate) d).queueOk_other (by decide) h)
  | startEspUpdate p addr force =>
    exact kept ((startEspUpdate_branch p d addr force).beside.queueOk_other (by decide) h)
  | _ => exact kept (plain _ _)

theorem expire_transfer_queueOk (k : Kind) (h : d.QueueOk) :
    (d.expire (.transfer k)).QueueOk ↔ QueueGoesOn (.expire (.transfer k)) d := by
  unfold Dev.expire
  split
  · rename_i hstopped
    refine iff_of_true h ?_
    cases k with
    | fileUpload => exact fun ht => absurd hstopped ht
    | fwUpdate => trivial
    | espUpdate => trivial
  · rename_i hrunning
    have other (hk : k ≠ .fileUpload) : (d.onTransferTimeout k).QueueOk :=
      (onTransferTimeout_branch k d).beside.queueOk_other hk h
    cases k with
    | fwUpdate => exact iff_true_intro (other (by decide))
    | espUpdate => exact iff_true_intro (other (by decide))
    | fileUpload =>
      refine (onFileUploadTimeout_queueOk h).trans ?_
      exact ⟨fun hi _ => hi, fun hi => hi hrunning⟩

theorem onFrameReceived_queueOk (f : Frame) (h : d.QueueOk) : (d.onFrameReceived f).QueueOk ↔
    (f.cmd = CMD_ACK → d.AckGoesOn) ∧ (f.cmd = CMD_NACK → d.NackGoesOn) := by
  have q := noted_quiet d
  have hack : d.noted.AckGoesOn ↔ d.AckGoesOn := by
    unfold Dev.AckGoesOn Dev.CanUpload
    rw [q.ops, noted_env d]
  have hnack : d.noted.NackGoesOn ↔ d.NackGoesOn := by
    unfold Dev.NackGoesOn
    rw [q.ops]
  have other {d' : Dev} (q' : Quiet d d') (ha : f.cmd ≠ CMD_ACK) (hn : f.cmd ≠ CMD_NACK) :
      d'.QueueOk ↔ (f.cmd = CMD_ACK → d.AckGoesOn) ∧ (f.cmd = CMD_NACK → d.NackGoesOn) :=
    iff_of_true (q'.queueOk h) ⟨fun hc => absurd hc ha, fun hc => absurd hc hn⟩
  have branch := onFrameReceived_branch f d
  generalize d.onFrameReceived f = d' at branch
  cases branch with
  | ack hf =>
    have hn : f.cmd ≠ CMD_NACK := by rw [hf]; decide
    refine (handleAck_queueOk (q.queueOk h)).trans (hack.trans ?_)
    exact ⟨fun ha => ⟨fun _ => ha, fun hc => absurd hc hn⟩, fun hc => hc.1 hf⟩
  | nack hf =>
    have ha : f.cmd ≠ CMD_ACK := by rw [hf]; decide
    refine (handleNack_queueOk f.payload (q.queueOk h)).trans (hnack.trans ?_)
    exact ⟨fun hn => ⟨fun hc => absurd hc ha, fun _ => hn⟩, fun hc => hc.2 hf⟩
  | pong hf =>
    exact other (q.trans (handlePong_quiet _)) (by rw [hf]; decide) (by rw [hf]; decide)
  | deviceInfo hf =>
    exact other (q.trans (handleDeviceInfoResp_quiet _ _)) (by rw [hf]; decide)
      (by rw [hf]; decide)
  | fileData hf =>
    exact other (q.trans (handleFileReadData_quiet _ _)) (by rw [hf]; decide)
      (by rw [hf]; decide)
  | report ha hn => exact other q ha hn

theorem queueOk_step (e : Event) (d : Dev) (h : d.QueueOk) :
    (step e d).QueueOk ↔ QueueGoesOn e d := by
  have hf : d.fresh.QueueOk := h
  have linked {e : Event} (he : e.OfLink) : (d.fresh.handle e).QueueOk ↔ True :=
    iff_true_intro ((handle_linked e he _).queueOk hf)
  unfold step
  cases e with
  | call c => exact call_queueOk c hf
  | frame f dialect =>
    unfold Dev.handle
    dsimp only
    split
    · rename_i hc
      let d1 : Dev := d.fresh.validated dialect
      refine (onFrameReceived_queueOk (d := d1) f hf).trans ?_
      exact ⟨fun hx _ => hx, fun hx => hx hc⟩
    · rename_i hc
      exact iff_of_true hf fun hx => absurd hx hc
  | expire t =>
    cases t with
    | transfer k => exact expire_transfer_queueOk k hf
    | _ => exact linked trivial
  | _ => exact linked trivial

/-- **The queues are right throughout a run exactly when every step of it lets them go on.** -/
theorem queueOk_iff (es : List Event) : Run.Throughout step Dev.QueueOk es init ↔
    Run.Along step QueueGoesOn es init := by
  refine Run.throughout_iff_along step (I := fun _ => True) (fun _ _ _ => trivial)
    (fun e d _ h => queueOk_step e d h) es init trivial ?_
  exact ⟨fun h => absurd h (by decide), fun h => absurd h (by decide)⟩

/-- a device that stops answering: the upload times out, its queue of two files stays active, and
every later upload of files is refused -/
theorem uploadTimeout_stalls :
    let d := Run.exec step [.env { serialOpens := fun _ => true, readFile := fun _ => some [1] },
      .call (.connectToDevice "COM3"), .call (.uploadFiles ["a", "b"] "/sd"),
      .expire (.transfer .fileUpload)] init
    d.ops.uploadQueueIndex = 0 ∧ d.ops.fileUpload.state = .Idle ∧ ¬ d.QueueOk ∧
      (step (.call (.uploadFiles ["c"] "/sd")) d).out
        = [.signal (.fileOperationError "Upload already in progress")] := by
  refine ⟨by decide, by decide, fun h => ?_, by decide⟩
  exact h.1 (by decide) (by decide)

end QMon.Device
