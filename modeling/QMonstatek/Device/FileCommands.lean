import QMonstatek.Device.LateReplies
import QMonstatek.Device.Closed

/-!
# The outcomes of file commands

`Commanding`         the exchange, with the file command made since a reply was last taken;
`OwnOutcome m x`     the ACK of a file command reports this command done, its NACK an error, and
                     nothing else reports a file command done;
`AnswersLatest m x`  what an ACK answers has the success signal of the file command made last, and
                     the NACK of a file command does not meet the stale flag of a flash.

`ownOutcome_iff`: while no transfer is active, a run is right exactly when its answers are to the
latest commands.  All file commands share one slot, which the next reply empties.
-/

namespace QMon.Device
open Rpc

/-- the success signal of a file command -/
def fileDone (cmd : UInt8) : Option Signal :=
  if cmd = CMD_FILE_DELETE ∨ cmd = CMD_FILE_DELETE_TREE then some .fileDeleteComplete
  else if cmd = CMD_FILE_RENAME then some .fileRenameComplete
  else if cmd = CMD_FILE_MKDIR then some .fileMkdirComplete
  else if cmd = CMD_SD_UNMOUNT then some (.sdMountChanged false)
  else if cmd = CMD_SD_MOUNT then some (.sdMountChanged true)
  else none

/-- the command of a call that makes a file command -/
def Call.fileCmd : Call → Option UInt8
  | .deleteFile _ => some CMD_FILE_DELETE
  | .deleteTree _ => some CMD_FILE_DELETE_TREE
  | .renameFile _ _ => some CMD_FILE_RENAME
  | .makeDirectory _ => some CMD_FILE_MKDIR
  | .mountSdCard => some CMD_SD_MOUNT
  | .unmountSdCard => some CMD_SD_UNMOUNT
  | _ => none

def Out.fileDone? : Out → Option Signal
  | .signal .fileDeleteComplete => some .fileDeleteComplete
  | .signal .fileRenameComplete => some .fileRenameComplete
  | .signal .fileMkdirComplete => some .fileMkdirComplete
  | .signal (.sdMountChanged mounted) => some (.sdMountChanged mounted)
  | _ => none

/-- the success signals of file commands, oldest first -/
def fileDones (out : List Out) : List Signal := out.filterMap Out.fileDone?

/-- neither a transfer nor a bank operation is active -/
structure Dev.NoTransfer (d : Dev) : Prop where
  idle : ∀ k, (d.get k).state = .Idle
  erase : d.ops.bankErasePending = false
  swap : d.ops.bankSwapPending = false
  mkdir : d.ops.mkdirQueueIndex < 0

theorem noTransfer_iff (d : Dev) : d.NoTransfer ↔
    d.ops.fwUpdate.state = .Idle ∧ d.ops.espUpdate.state = .Idle ∧
      d.ops.fileUpload.state = .Idle ∧ d.ops.bankErasePending = false ∧
      d.ops.bankSwapPending = false ∧ d.ops.mkdirQueueIndex < 0 := by
  constructor
  · rintro ⟨idle, erase, swap, mkdir⟩
    exact ⟨idle .fwUpdate, idle .espUpdate, idle .fileUpload, erase, swap, mkdir⟩
  · rintro ⟨hfw, hesp, hfile, erase, swap, mkdir⟩
    refine ⟨fun k => ?_, erase, swap, mkdir⟩
    cases k with
    | fwUpdate => exact hfw
    | espUpdate => exact hesp
    | fileUpload => exact hfile

instance (d : Dev) : Decidable d.NoTransfer := decidable_of_iff' _ (noTransfer_iff d)

structure Commanding extends Exchange where
  /-- the file command made last, if no reply was taken since -/
  latest : Option UInt8 := none

/-- the command whose answer reaches the host -/
def Commanding.answered (x : Commanding) : Option Sent :=
  if x.dev.isConnected then x.unanswered.head? else none

def Commanding.latestAfter (m : Move) (x : Commanding) : Option UInt8 :=
  match m, x.answered with
  | .host (.call c), _ => c.fileCmd <|> x.latest
  -- the NACK that meets the stale flag is dropped
  | .answer positive _ _, some _ =>
    if !positive && x.dev.ops.espUpdateStaleNack then x.latest else none
  | _, _ => x.latest

section
variable (acked : UInt8 → Bool)

def commanding (m : Move) (x : Commanding) : Commanding :=
  { toExchange := exchange acked m x.toExchange, latest := x.latestAfter m }

def OwnOutcome (m : Move) (x : Commanding) : Prop :=
  let out := (commanding acked m x).dev.out
  match m, x.answered with
  | .answer true _ _, some c => fileDones out = (fileDone c.cmd).toList
  | .answer false _ _, some c => fileDones out = [] ∧ (fileDone c.cmd ≠ none → Told out)
  | _, _ => fileDones out = []

def AnswersLatest (m : Move) (x : Commanding) : Prop :=
  match m with
  | .answer positive _ _ => ∀ c ∈ x.answered,
    if positive then fileDone c.cmd = x.latest.bind fileDone
    else fileDone c.cmd ≠ none → x.dev.ops.espUpdateStaleNack = false
  | _ => True

instance (m : Move) (x : Commanding) : Decidable (AnswersLatest m x) :=
  match m with
  | .answer positive _ _ => inferInstanceAs (Decidable (∀ c ∈ x.answered,
    if positive then fileDone c.cmd = x.latest.bind fileDone
    else fileDone c.cmd ≠ none → x.dev.ops.espUpdateStaleNack = false))
  | .host _ => isTrue trivial
  | .lose _ => isTrue trivial

/-- no transfer is active before or after the move, and nothing is lost -/
def Plain (m : Move) (x : Commanding) : Prop :=
  x.dev.NoTransfer ∧ (commanding acked m x).dev.NoTransfer ∧ ∀ i, m ≠ .lose i

end

/-! ## What reports a file command done -/

theorem fileDones_linking : Linking (fun o => o.fileDone? = none)
    (fun d d' => fileDones d'.out = fileDones d.out) where
  refl _ := rfl
  trans h h' := h'.trans h
  update _ _ ho := by rw [ho]
  put d o ho := by
    refine (d.filterMap_put _ o).trans ?_
    rw [ho]
    exact List.append_nil _
  quiet o ho := by
    cases o with
    | signal s => cases s <;> first | rfl | exact absurd ho Bool.false_ne_true
    | _ => rfl
  relink _ _ := rfl
  ports o ho := by cases o <;> first | rfl | exact absurd ho Bool.false_ne_true
  asks o ho := by cases o <;> first | rfl | exact absurd ho Bool.false_ne_true

theorem handleFileReadData_dones (payload : List UInt8) (d : Dev) :
    fileDones (d.handleFileReadData payload).out = fileDones d.out := by
  have put (d : Dev) {o : Out} (ho : o.fileDone? = none) := fileDones_linking.put d o ho
  unfold Dev.handleFileReadData
  split
  · rfl
  · dsimp only
    split
    · split
      · exact (put _ rfl).trans (put _ rfl)
      · exact put _ rfl
    · rfl

/-- only an ACK reports a file command done -/
theorem fileDones_step (e : Event) (d : Dev) (he : ¬ e.IsAck) :
    fileDones (step e d).out = [] := by
  have hframe (f : Frame) (dialect : CrcDialect) (hf : e = .frame f dialect) :
      (f.cmd = CMD_ACK → Closed.Acks (fun o => o.fileDone? = none)) ∧
      (f.cmd = CMD_FILE_READ_DATA → ∀ a : Dev,
        fileDones (a.handleFileReadData f.payload).out = fileDones a.out) :=
    ⟨fun hack => absurd ⟨f, dialect, hf, hack⟩ he, fun _ a => handleFileReadData_dones _ a⟩
  by_cases hd : ∃ c, e = .call c ∧ c.Downloads
  · obtain ⟨c, rfl, hc⟩ := hd
    cases c with
    | downloadFile r l =>
      exact fileDones_linking.framed.handled.send { d.fresh with download := _ } _ _
    | _ => exact hc.elim
  · exact fileDones_linking.step e d (fun c hc hdown => hd ⟨c, hc, hdown⟩) hframe

/-! ## The slot -/

section
variable {d d' : Dev}

/-- a transfer at work leaves the slot -/
theorem Linked.pending (h : Linked d d') : d'.ops.pendingFileCmd = d.ops.pendingFileCmd := by
  obtain ⟨bs, -, ho⟩ := h.ops
  rw [ho]
  split <;> rfl

theorem startUploadQueue_pending (d : Dev) :
    d.startUploadQueue.ops.pendingFileCmd = d.ops.pendingFileCmd := by
  unfold Dev.startUploadQueue
  split
  · rfl
  · exact (uploadFile_branch _ _ _).beside.pending

theorem uploadFiles_pending (fileUrls : List String) (remotePath : String) (d : Dev) :
    (d.uploadFiles fileUrls remotePath).ops.pendingFileCmd = d.ops.pendingFileCmd := by
  unfold Dev.uploadFiles
  split
  · rfl
  · dsimp only
    split
    · rfl
    · exact startUploadQueue_pending _

/-- a folder upload takes the slot for its first MKDIR, and is active from there on -/
theorem uploadFolder_pending (localFolderUrl remotePath : String) (d : Dev) :
    (d.uploadFolder localFolderUrl remotePath).ops.mkdirQueueIndex < 0 →
      (d.uploadFolder localFolderUrl remotePath).ops.pendingFileCmd = d.ops.pendingFileCmd := by
  unfold Dev.uploadFolder
  split
  · exact fun _ => rfl
  · dsimp only
    split
    · exact fun _ => rfl
    · split
      · split
        · exact fun _ => rfl
        · exact fun _ => startUploadQueue_pending _
      · unfold Dev.makeDirectory
        rw [Dev.fileCommand_ops]
        exact fun h => absurd h (by simp)

theorem call_pending (c : Call) (hc : c.fileCmd = none)
    (h : (d.call c).ops.mkdirQueueIndex < 0) :
    (d.call c).ops.pendingFileCmd = d.ops.pendingFileCmd := by
  unfold Dev.call at h ⊢
  cases c with
  | connectToDevice p => exact (connectToDevice_linked p d).pending
  | connectToDeviceWifi hp => exact (connectToDeviceWifi_quiet hp d).linked.pending
  | disconnect => exact (disconnect_linked d).pending
  | setPreferredSerialPort p => exact (setPreferredSerialPort_quiet p d).linked.pending
  | setDeviceLogVerbose on => exact (setDeviceLogVerbose_quiet on d).linked.pending
  | startScreenStream fps => exact (startScreenStream_quiet fps d).linked.pending
  | stopScreenStream => exact (stopScreenStream_quiet d).linked.pending
  | uploadFile l r => exact (uploadFile_branch l d r).beside.pending
  | uploadFiles us r => exact uploadFiles_pending us r d
  | uploadFolder u r => exact uploadFolder_pending u r d h
  | startFwUpdate p => exact (startFwUpdate_branch p d).beside.pending
  | swapBanks => exact (swapBanks_beside (k := .fwUpdate) d).pending
  | eraseInactiveBank => exact (eraseInactiveBank_beside (k := .fwUpdate) d).pending
  | startEspUpdate p addr force => exact (startEspUpdate_branch p d addr force).beside.pending
  | deleteFile r => exact absurd hc (by simp [Call.fileCmd])
  | deleteTree r => exact absurd hc (by simp [Call.fileCmd])
  | renameFile o n => exact absurd hc (by simp [Call.fileCmd])
  | makeDirectory r => exact absurd hc (by simp [Call.fileCmd])
  | mountSdCard => exact absurd hc (by simp [Call.fileCmd])
  | unmountSdCard => exact absurd hc (by simp [Call.fileCmd])
  -- the other calls only send a command
  | _ => exact congrArg Operations.pendingFileCmd (Dev.sendCommand_ops _ _ _)

theorem call_fileCmd {c : Call} {cmd : UInt8} (hc : c.fileCmd = some cmd) (d : Dev) :
    (d.call c).ops.pendingFileCmd = cmd := by
  have set (cmd' : UInt8) (payload : List UInt8) (h : some cmd' = some cmd) :
      (d.fileCommand cmd' payload).ops.pendingFileCmd = cmd := by
    rw [Dev.fileCommand_ops]
    exact Option.some.inj h
  cases c with
  | deleteFile r => exact set _ _ hc
  | deleteTree r => exact set _ _ hc
  | renameFile o n => exact set _ _ hc
  | makeDirectory r => exact set _ _ hc
  | mountSdCard => exact set _ _ hc
  | unmountSdCard => exact set _ _ hc
  | _ => exact absurd hc (by simp [Call.fileCmd])

/-- a frame that is no reply leaves the operations -/
theorem onFrameReceived_ops {f : Frame} (hack : f.cmd ≠ CMD_ACK) (hnack : f.cmd ≠ CMD_NACK)
    (d : Dev) : (d.onFrameReceived f).ops = d.ops := by
  have q := noted_quiet d
  have branch := onFrameReceived_branch f d
  generalize d.onFrameReceived f = d' at branch
  cases branch with
  | ack hf => exact absurd hf hack
  | nack hf => exact absurd hf hnack
  | pong hf => exact (q.trans (handlePong_quiet _)).ops
  | deviceInfo hf => exact (q.trans (handleDeviceInfoResp_quiet _ _)).ops
  | fileData hf => exact (q.trans (handleFileReadData_quiet _ _)).ops
  | report ha hn => exact q.ops

theorem frame_pending {f : Frame} (dialect : CrcDialect) (he : ¬ (Event.frame f dialect).isReply)
    (d : Dev) : (step (.frame f dialect) d).ops.pendingFileCmd = d.ops.pendingFileCmd := by
  unfold Event.isReply at he
  simp only [Bool.or_eq_true, beq_iff_eq, not_or] at he
  unfold step Dev.handle
  dsimp only
  split
  · exact congrArg Operations.pendingFileCmd (onFrameReceived_ops he.1 he.2 _)
  · rfl

/-- only a file command and a reply work on the slot -/
theorem step_pending (e : Event) (d : Dev) (he : ¬ e.isReply) (hc : ∀ c, e = .call c →
    c.fileCmd = none) (h : (step e d).ops.mkdirQueueIndex < 0) :
    (step e d).ops.pendingFileCmd = d.ops.pendingFileCmd := by
  have linked {e : Event} (hl : e.OfLink) :
      (d.fresh.handle e).ops.pendingFileCmd = d.ops.pendingFileCmd :=
    (handle_linked e hl d.fresh).pending
  cases e with
  | call c => exact call_pending (d := d.fresh) c (hc c rfl) h
  | frame f dialect => exact frame_pending dialect he d
  | expire t =>
    cases t with
    | transfer k =>
      show (d.fresh.expire (.transfer k)).ops.pendingFileCmd = _
      unfold Dev.expire
      split
      · rfl
      · exact (onTransferTimeout_branch k d.fresh).beside.pending
    | _ => exact linked trivial
  | _ => exact linked trivial

/-! ## Replies -/

theorem fileDones_put (d : Dev) (s : Signal) :
    fileDones (d.emit s).out = fileDones d.out ++ (Out.signal s).fileDone?.toList :=
  d.filterMap_put _ _

/-- the ACK reports the command in the slot done, and empties it -/
theorem ackFileCommand_done (hm : d.ops.mkdirQueueIndex < 0) :
    fileDones d.ackFileCommand.out = fileDones d.out ++ (fileDone d.ops.pendingFileCmd).toList ∧
      d.ackFileCommand.ops.pendingFileCmd = 0 := by
  have queue : ¬ d.ops.mkdirQueueIndex ≥ 0 := Int.not_le.mpr hm
  unfold Dev.ackFileCommand fileDone
  dsimp only
  rw [if_neg queue]
  split_ifs
  · exact ⟨fileDones_put _ _, rfl⟩
  · exact ⟨fileDones_put _ _, rfl⟩
  · exact ⟨fileDones_put _ _, rfl⟩
  · exact ⟨fileDones_put _ _, rfl⟩
  · exact ⟨fileDones_put _ _, rfl⟩
  · exact ⟨(List.append_nil _).symm, rfl⟩

theorem Dev.NoTransfer.unclaimed (h : d.NoTransfer) : d.ops.Unclaimed :=
  ⟨h.erase, h.swap, h.idle .fwUpdate, h.idle .espUpdate⟩

theorem Dev.NoTransfer.dropsNack_iff (h : d.NoTransfer) :
    d.ops.DropsNack ↔ d.ops.espUpdateStaleNack = true :=
  ⟨fun hd => hd.2.2, fun hs => ⟨h.unclaimed, h.idle .fileUpload, hs⟩⟩

/-- with no transfer active an ACK goes to the file commands -/
theorem Dev.NoTransfer.step_ack (h : d.NoTransfer) {f : Frame} (dialect : CrcDialect)
    (hf : f.cmd = CMD_ACK) (hc : d.isConnected = true) :
    fileDones (step (.frame f dialect) d).out = (fileDone d.ops.pendingFileCmd).toList ∧
      (step (.frame f dialect) d).ops.pendingFileCmd = 0 := by
  have hops := heard_ops dialect d
  have hack : (d.heard dialect).handleAck = (d.heard dialect).ackFileCommand := by
    have mine : (d.heard dialect).ops.Unclaimed := by
      rw [hops]
      exact h.unclaimed
    have idle : d.ops.fileUpload.state = .Idle := h.idle .fileUpload
    rw [mine.handleAck, hops, if_neg (not_not.mpr idle)]
  have hdone := ackFileCommand_done (d := d.heard dialect) (by rw [hops]; exact h.mkdir)
  have hnone : fileDones (d.heard dialect).out = [] :=
    fileDones_linking.framed.handled.noted (d.fresh.validated dialect)
  rw [Device.step_ack dialect hf hc, hack]
  rw [hnone, hops] at hdone
  exact hdone

/-- and a NACK too; the one that meets the stale flag leaves the slot -/
theorem Dev.NoTransfer.step_nack (h : d.NoTransfer) {f : Frame} (dialect : CrcDialect)
    (hf : f.cmd = CMD_NACK) (hc : d.isConnected = true) :
    (step (.frame f dialect) d).ops.pendingFileCmd =
      if d.ops.espUpdateStaleNack then d.ops.pendingFileCmd else 0 := by
  have hops := heard_ops dialect d
  rw [Device.step_nack dialect hf hc]
  have branch := handleNack_branch f.payload (d.heard dialect)
  generalize (d.heard dialect).handleNack f.payload = d' at branch
  cases branch with
  | bankErase pending =>
    rw [hops] at pending
    exact absurd (h.erase.symm.trans pending) Bool.false_ne_true
  | bankSwap pending =>
    rw [hops] at pending
    exact absurd (h.swap.symm.trans pending) Bool.false_ne_true
  | update k hk before =>
    unfold Dev.get at before
    rw [hops] at before
    exact absurd (h.idle k) before
  | upload mine before =>
    rw [hops] at before
    exact absurd (h.idle .fileUpload) before
  | late mine idle stale =>
    rw [hops] at stale
    rw [if_pos stale]
    show (d.heard dialect).ops.pendingFileCmd = _
    rw [hops]
  | fileCommand mine idle stale =>
    rw [hops] at stale
    rw [stale]
    rfl

end

/-! ## Moves -/

section
variable {acked : UInt8 → Bool} {m : Move} {x : Commanding}

/-- the slot holds the latest file command -/
def Commanding.Kept (x : Commanding) : Prop := x.dev.ops.pendingFileCmd = x.latest.getD 0

theorem Commanding.Kept.fileDone (h : x.Kept) :
    fileDone x.dev.ops.pendingFileCmd = x.latest.bind fileDone := by
  rw [show x.dev.ops.pendingFileCmd = _ from h]
  cases x.latest with
  | none => rfl
  | some cmd => rfl

/-- the frame of an answer reaches the host, or nothing happens -/
theorem commanding_answer (acked : UInt8 → Bool) (positive : Bool) (payload : List UInt8)
    (dialect : CrcDialect) (x : Commanding) : (∃ c, x.answered = some c ∧ x.dev.isConnected = true ∧
        (commanding acked (.answer positive payload dialect) x).dev
          = step (replyTo c positive payload dialect) x.dev) ∨
      x.answered = none ∧
        (commanding acked (.answer positive payload dialect) x).dev = x.dev.fresh := by
  unfold Commanding.answered commanding exchange
  dsimp only
  cases hu : x.unanswered with
  | nil => exact .inr ⟨by simp, rfl⟩
  | cons c rest =>
    by_cases hc : x.dev.isConnected = true
    · exact .inl ⟨c, by rw [if_pos hc]; rfl, hc, rfl⟩
    · exact .inr ⟨if_neg hc, if_neg hc⟩

theorem latestAfter_call (c : Call) (x : Commanding) :
    x.latestAfter (.host (.call c)) = (c.fileCmd <|> x.latest) := rfl

theorem kept_host {e : Event} (he : ¬ e.isReply) (h : x.Kept)
    (hm : (step e x.dev).ops.mkdirQueueIndex < 0) :
    (step e x.dev).ops.pendingFileCmd = (x.latestAfter (.host e)).getD 0 := by
  by_cases hc : ∃ c cmd, e = .call c ∧ c.fileCmd = some cmd
  · obtain ⟨c, cmd, rfl, hcmd⟩ := hc
    rw [latestAfter_call, hcmd]
    exact call_fileCmd hcmd x.dev.fresh
  · have hnone : ∀ c, e = .call c → c.fileCmd = none := fun c hec =>
      Option.eq_none_iff_forall_ne_some.mpr fun cmd hcmd => hc ⟨c, cmd, hec, hcmd⟩
    have hlatest : x.latestAfter (.host e) = x.latest := by
      cases e with
      | call c =>
        rw [latestAfter_call, hnone c rfl]
        rfl
      | _ => rfl
    rw [step_pending e x.dev he hnone hm, hlatest]
    exact h

theorem kept_answer (positive : Bool) (payload : List UInt8) (dialect : CrcDialect)
    (hd : x.dev.NoTransfer) (h : x.Kept) :
    (commanding acked (.answer positive payload dialect) x).Kept := by
  have hlatest : (commanding acked (.answer positive payload dialect) x).latest
      = x.latestAfter (.answer positive payload dialect) := rfl
  unfold Commanding.Kept
  rw [hlatest]
  unfold Commanding.latestAfter
  rcases commanding_answer acked positive payload dialect x with
    ⟨c, hc, hup, hdev⟩ | ⟨hc, hdev⟩
  · rw [hdev, hc]
    cases positive with
    | true => exact (hd.step_ack dialect rfl hup).2
    | false =>
      refine (hd.step_nack dialect rfl hup).trans ?_
      dsimp only
      cases x.dev.ops.espUpdateStaleNack with
      | true => exact h
      | false => rfl
  · rw [hdev, hc]
    exact h

theorem kept_commanding (hp : Plain acked m x) (h : x.Kept) : (commanding acked m x).Kept := by
  obtain ⟨hd, hd', hlose⟩ := hp
  cases m with
  | lose i => exact absurd rfl (hlose i)
  | answer positive payload dialect => exact kept_answer positive payload dialect hd h
  | host e =>
    by_cases he : e.isReply = true
    · have hdev : (commanding acked (.host e) x).dev = x.dev.fresh := by
        unfold commanding exchange
        dsimp only
        rw [if_pos he]
      have hlatest : x.latestAfter (.host e) = x.latest := by
        cases e with
        | call c => exact absurd he Bool.false_ne_true
        | _ => rfl
      unfold Commanding.Kept
      rw [hdev]
      exact h.trans (congrArg (Option.getD · 0) hlatest.symm)
    · have hdev : (commanding acked (.host e) x).dev = step e x.dev := by
        unfold commanding exchange
        dsimp only
        rw [if_neg he]
        rfl
      have hm := hd'.mkdir
      rw [hdev] at hm
      unfold Commanding.Kept
      rw [hdev]
      exact kept_host he h hm

theorem commanding_quiet (hm : ∀ positive payload dialect, m ≠ .answer positive payload dialect) :
    fileDones (commanding acked m x).dev.out = [] := by
  cases m with
  | answer positive payload dialect => exact absurd rfl (hm positive payload dialect)
  | lose i => rfl
  | host e =>
    unfold commanding exchange
    dsimp only
    split
    · rfl
    · rename_i he
      exact fileDones_step e x.dev (Event.not_isAck he)

theorem ownOutcome_iff_answersLatest (hp : Plain acked m x) (h : x.Kept) :
    OwnOutcome acked m x ↔ AnswersLatest m x := by
  obtain ⟨hd, -, -⟩ := hp
  unfold OwnOutcome AnswersLatest
  cases m with
  | host e => exact iff_of_true (commanding_quiet (by simp)) trivial
  | lose i => exact iff_of_true (commanding_quiet (by simp)) trivial
  | answer positive payload dialect =>
    dsimp only
    rcases commanding_answer acked positive payload dialect x with
      ⟨c, hc, hup, hdev⟩ | ⟨hc, hdev⟩
    · rw [hdev, hc]
      cases positive with
      | true =>
        have hdone := (hd.step_ack (f := { cmd := CMD_ACK, seq := c.seq, payload := payload })
          dialect rfl hup).1
        rw [h.fileDone] at hdone
        show fileDones (step (replyTo c true payload dialect) x.dev).out = _ ↔ _
        rw [show fileDones (step (replyTo c true payload dialect) x.dev).out = _ from hdone]
        refine ⟨fun heq c' hc' => ?_, fun hlatest => ?_⟩
        · have hhead := congrArg List.head? heq
          rw [Option.head?_toList, Option.head?_toList] at hhead
          rw [← Option.some.inj hc', if_pos rfl]
          exact hhead.symm
        · rw [show fileDone c.cmd = _ from hlatest c rfl]
      | false =>
        have hquiet := fileDones_step (replyTo c false payload dialect) x.dev fun hack =>
          absurd (replyTo_isAck hack) Bool.false_ne_true
        have htold : Told (step (replyTo c false payload dialect) x.dev).out ↔
            x.dev.ops.espUpdateStaleNack = false := by
          rw [← Bool.not_eq_true, ← hd.dropsNack_iff]
          exact nack_told_iff dialect rfl hup
        show fileDones (step (replyTo c false payload dialect) x.dev).out = [] ∧ _ ↔ _
        rw [htold, and_iff_right hquiet]
        exact ⟨fun h c' hc' => by rw [← Option.some.inj hc']; exact h, fun h => h c rfl⟩
    · rw [hdev, hc]
      cases positive <;> exact iff_of_true rfl (by simp)

end

/-- **File command outcomes**: while no transfer is active, every ACK and NACK reports the outcome
of its own command iff every ACK answers the file command made last, or another command when no
file command was made since the last reply, and no NACK of a file command meets the stale flag. -/
theorem ownOutcome_iff (acked : UInt8 → Bool) (x : Commanding)
    (hx : x.dev.ops.pendingFileCmd = x.latest.getD 0) (ms : List Move)
    (hms : Run.Along (commanding acked) (Plain acked) ms x) :
    Run.Along (commanding acked) (OwnOutcome acked) ms x ↔
      Run.Along (commanding acked) AnswersLatest ms x :=
  Run.along_iff_of_along (commanding acked) (I := Commanding.Kept)
    (fun _ _ h hp => kept_commanding hp h) (fun _ _ h hp => ownOutcome_iff_answersLatest hp h)
    ms x hx hms

/-- over USB: a directory made and a rename refused, each answered before the next command -/
theorem ownOutcome_sequential :
    let acked (cmd : UInt8) : Bool := cmd == CMD_SET_LOG_LEVEL || (fileDone cmd).isSome
    let ms : List Move := [.host (.env { serialOpens := fun _ => true }),
      .host (.call (.connectToDevice "COM3")), .answer true [] .Correct,
      .host (.call (.makeDirectory "/a")), .answer true [] .Correct,
      .host (.call (.renameFile "/b" "/c")), .answer false [ERR_FILE_NOT_FOUND] .Correct]
    Run.Along (commanding acked) (OwnOutcome acked) ms {} := by
  intro acked ms
  have hms : Run.Along (commanding acked) (Plain acked) ms {} := by
    refine ⟨?_, ?_, ?_, ?_, ?_, ?_, ?_, trivial⟩ <;> exact ⟨by decide, by decide, by simp⟩
  refine (ownOutcome_iff acked {} rfl ms hms).mpr ⟨?_, ?_, ?_, ?_, ?_, ?_, ?_, trivial⟩ <;>
    decide +kernel

/-- a delete and a rename on their way: the ACK of the delete reports a rename, and the ACK of
the rename nothing -/
theorem fileOutcomes_crossed :
    let acked (cmd : UInt8) : Bool := cmd == CMD_SET_LOG_LEVEL || (fileDone cmd).isSome
    let m := Move.answer true [] .Correct
    let x := Run.exec (commanding acked) [.host (.env { serialOpens := fun _ => true }),
      .host (.call (.connectToDevice "COM3")), m, .host (.call (.deleteFile "/a")),
      .host (.call (.renameFile "/b" "/c"))] {}
    let y := commanding acked m x
    x.unanswered.map Sent.cmd = [CMD_FILE_DELETE, CMD_FILE_RENAME] ∧ x.dev.NoTransfer ∧
      fileDones y.dev.out = [.fileRenameComplete] ∧ ¬ OwnOutcome acked m x ∧
      fileDones (commanding acked m y).dev.out = [] ∧ ¬ OwnOutcome acked m y := by
  intro acked m x y
  have wrong (x : Commanding) (hd : x.dev.NoTransfer) (hd' : (commanding acked m x).dev.NoTransfer)
      (hk : x.dev.ops.pendingFileCmd = x.latest.getD 0) (h : ¬ AnswersLatest m x) :
      ¬ OwnOutcome acked m x := by
    rw [ownOutcome_iff_answersLatest ⟨hd, hd', by simp [m]⟩ hk]
    exact h
  refine ⟨by decide +kernel, by decide +kernel, by decide +kernel, ?_, by decide +kernel, ?_⟩
  · apply wrong <;> decide +kernel
  · apply wrong <;> decide +kernel

end QMon.Device
