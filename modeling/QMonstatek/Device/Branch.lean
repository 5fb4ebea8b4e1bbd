import QMonstatek.Device.Change

/-!
# The branches of the handlers

A function with a chain of checks is split here, once.  Each branch is a constructor: what the
checks have found, and the state the function returns there.

`StartBranch k path d d'`     the calls that start transfer `k` with the local file `path`;
`AckBranch d d'`              `handleAck`, and `FileAckBranch d d'` for the ACK of a file command;
`NackBranch message d d'`     `handleNack`;
`FrameBranch f d d'`          `onFrameReceived`;
`TimeoutBranch k d d'`        the timeout of transfer `k`;
`ChunkClosed k R`             `R` holds across each piece of `ackChunk`, and so across the whole.
-/

namespace QMon.Device
open Rpc

/-- the error signal of transfer `k` -/
def Kind.error : Kind → String → Signal
  | .fwUpdate => .fwUpdateError
  | .espUpdate => .espUpdateError
  | .fileUpload => .fileOperationError

/-- the signal of the ACK of its FINISH -/
def Kind.complete : Kind → Signal
  | .fwUpdate => .fwUpdateComplete
  | .espUpdate => .espUpdateComplete
  | .fileUpload => .fileUploadComplete

theorem Kind.error_report (k : Kind) (message : String) :
    (Out.signal (k.error message)).report? = none := by
  cases k <;> rfl

/-- the signals of a transfer that goes on -/
def Signal.isProgress : Signal → Bool
  | .fwUpdateProgress _ => true
  | .espUpdateProgress _ => true
  | .espUpdateStatus _ => true
  | .fileUploadProgress _ => true
  | _ => false

theorem isProgress_report {s : Signal} (h : s.isProgress = true) :
    (Out.signal s).report? = none := by
  cases s <;> first | rfl | exact absurd h Bool.false_ne_true

/-! ## Starting a transfer -/

def Dev.setFlashAddr (flashAddr : UInt32) (d : Dev) : Dev :=
  { d with ops := { d.ops with espUpdateFlashAddr := flashAddr } }

inductive StartBranch (k : Kind) (path : String) (d : Dev) : Dev → Prop
  /-- another operation is active, or the file cannot be read -/
  | refused (message : String)
      (busy : ¬ ((d.get k).state = .Idle ∧ d.Alone k ∧ ∃ data, d.env.readFile path = some data)) :
      StartBranch k path d (d.emit (k.error message))
  /-- the contents are refused; the idle machine keeps some of what it was given -/
  | rejected (flashAddr : UInt32) (data : List UInt8) (t : Transfer) (message : String)
      (idle : (d.get k).state = .Idle) (read : d.env.readFile path = some data)
      (after : t.state = .Idle) (empty : k = .fileUpload → UInt32.ofNat data.length = 0) :
      StartBranch k path d (((d.setFlashAddr flashAddr).setTransfer k t).emit (k.error message))
  | started (flashAddr : UInt32) (data payload : List UInt8) (t : Transfer) (status : List Signal)
      (idle : (d.get k).state = .Idle) (alone : d.Alone k)
      (read : d.env.readFile path = some data) (size : UInt32.ofNat data.length ≠ 0)
      (image : t.data = data ∧ t.size = UInt32.ofNat data.length)
      (progress : ∀ s ∈ status, s.isProgress = true) :
      StartBranch k path d
        ((((d.setFlashAddr flashAddr).setTransfer k t).sendStart k payload).emitAll status)

theorem alone_iff (k : Kind) (d : Dev) : d.Alone k ↔
    (k ≠ .fwUpdate → d.ops.fwUpdate.state = .Idle) ∧
    (k ≠ .espUpdate → d.ops.espUpdate.state = .Idle) ∧
    (k ≠ .fileUpload → d.ops.fileUpload.state = .Idle) ∧ d.ops.bankErasePending = false := by
  constructor
  · intro h
    exact ⟨fun hk => h.idle .fwUpdate hk.symm, fun hk => h.idle .espUpdate hk.symm,
      fun hk => h.idle .fileUpload hk.symm, h.erase⟩
  · rintro ⟨hfw, hesp, hfile, herase⟩
    refine ⟨fun k' hk => ?_, herase⟩
    cases k' with
    | fwUpdate => exact hfw hk.symm
    | espUpdate => exact hesp hk.symm
    | fileUpload => exact hfile hk.symm

/-- the checks the start calls have in common: idle, alone, and a file that can be read -/
theorem startBranch_of_checks {k : Kind} {path : String} {d : Dev} {others : Prop}
    [Decidable others] {active inTheWay unread : String} {body : List UInt8 → Dev}
    (hothers : d.Alone k ↔ ¬ others)
    (hbody : ∀ data, (d.get k).state = .Idle → d.Alone k → d.env.readFile path = some data →
      StartBranch k path d (body data)) :
    StartBranch k path d
      (if (d.get k).state ≠ .Idle then d.emit (k.error active)
      else if others then d.emit (k.error inTheWay)
      else match d.env.readFile path with
        | none => d.emit (k.error unread)
        | some data => body data) := by
  split
  · rename_i hactive
    exact .refused _ fun h => hactive h.1
  · rename_i hidle
    split
    · rename_i hbusy
      exact .refused _ fun h => hothers.mp h.2.1 hbusy
    · rename_i hfree
      split
      · rename_i hread
        refine .refused _ fun h => ?_
        obtain ⟨-, -, data, hdata⟩ := h
        rw [hread] at hdata
        exact absurd hdata (by simp)
      · rename_i data hread
        exact hbody data (not_not.mp hidle) (hothers.mpr hfree) hread

section
variable (path : String) (d : Dev)

theorem startFwUpdate_branch : StartBranch .fwUpdate path d (d.startFwUpdate path) := by
  have hothers : d.Alone .fwUpdate ↔ ¬ (d.ops.fileUpload.state ≠ .Idle ∨
      d.ops.espUpdate.state ≠ .Idle ∨ d.ops.bankErasePending = true) := by
    rw [alone_iff]
    push Not
    simp
    tauto
  unfold Dev.startFwUpdate
  refine startBranch_of_checks hothers fun data idle alone hread => ?_
  dsimp only
  split
  · exact .rejected d.ops.espUpdateFlashAddr data _ _ idle hread idle (by simp)
  · rename_i hsize
    push Not at hsize
    split
    · exact .rejected d.ops.espUpdateFlashAddr data _ _ idle hread idle (by simp)
    · exact .started d.ops.espUpdateFlashAddr data _ _ [.fwUpdateProgress 0] idle alone hread
        hsize.1 ⟨rfl, rfl⟩ (by simp [Signal.isProgress])

theorem startEspUpdate_branch (flashAddr : UInt32) (force : Bool) :
    StartBranch .espUpdate path d (d.startEspUpdate path flashAddr force) := by
  have hothers : d.Alone .espUpdate ↔ ¬ (d.ops.fileUpload.state ≠ .Idle ∨
      d.ops.fwUpdate.state ≠ .Idle ∨ d.ops.bankErasePending = true) := by
    rw [alone_iff]
    push Not
    simp
    tauto
  unfold Dev.startEspUpdate
  refine startBranch_of_checks hothers fun data idle alone hread => ?_
  dsimp only
  split
  · exact .rejected flashAddr data { d.get .espUpdate with
      data := [], size := UInt32.ofNat data.length } _ idle hread idle (by simp)
  · rename_i hsize
    split
    · exact .rejected flashAddr data { d.get .espUpdate with
        data := [], size := UInt32.ofNat data.length } _ idle hread idle (by simp)
    · exact .started flashAddr data _ _ [.espUpdateProgress 0, .espUpdateStatus _] idle alone
        hread hsize ⟨rfl, rfl⟩ (by simp [Signal.isProgress])

theorem uploadFile_branch (remotePath : String) :
    StartBranch .fileUpload path d (d.uploadFile path remotePath) := by
  have hothers : d.Alone .fileUpload ↔ ¬ (d.ops.fwUpdate.state ≠ .Idle ∨
      d.ops.espUpdate.state ≠ .Idle ∨ d.ops.bankErasePending = true) := by
    rw [alone_iff]
    push Not
    simp
  unfold Dev.uploadFile
  refine startBranch_of_checks hothers fun data idle alone hread => ?_
  dsimp only
  split
  · rename_i hsize
    exact .rejected d.ops.espUpdateFlashAddr data { d.get .fileUpload with
      data := [], size := UInt32.ofNat data.length, offset := 0 } _ idle hread idle
      fun _ => hsize
  · rename_i hsize
    exact .started d.ops.espUpdateFlashAddr data _ _ [] idle alone hread hsize ⟨rfl, rfl⟩
      (by simp)

end

/-! ## The answer to the ACK of a chunk -/

/-- `R` holds across every piece of work the ACK of a chunk of transfer `k` may cause -/
structure ChunkClosed (k : Kind) (R : Dev → Dev → Prop) : Prop where
  refl : ∀ d, R d d
  trans : ∀ {a b c}, R a b → R b c → R a c
  set : ∀ d t, ((d.get k).state ≠ .Idle → t.state ≠ .Idle) → R d (d.setTransfer k t)
  emit : ∀ d s, s.isProgress = true → R d (d.emit s)
  send : ∀ d cmd payload, k.owns cmd = true → cmd ∈ opCommands → R d (d.sendCommand cmd payload)

section
variable {k : Kind} {R : Dev → Dev → Prop} (h : ChunkClosed k R)
include h

theorem ChunkClosed.emitAll {status : List Signal} (hs : ∀ s ∈ status, s.isProgress = true)
    (d : Dev) : R d (d.emitAll status) := by
  induction status generalizing d with
  | nil => exact h.refl d
  | cons s l ih =>
    exact h.trans (h.emit d s (hs s List.mem_cons_self))
      (ih (fun s' hm => hs s' (List.mem_cons_of_mem s hm)) _)

theorem ChunkClosed.sendNextChunk (d : Dev) : R d (d.sendNextChunk k) := by
  have finish : ∀ s ∈ k.machine.finishStatus, s.isProgress = true := by
    cases k <;> simp [Kind.machine, Signal.isProgress]
  unfold Dev.sendNextChunk
  dsimp only
  split
  · refine h.trans (h.trans (h.set d _ fun _ => ?_) (h.emitAll finish _))
      (h.send _ _ _ k.owns_cmdFinish k.cmdFinish_mem)
    exact TransferState.noConfusion
  · refine h.trans (h.trans (h.send d _ _ k.owns_cmdData k.cmdData_mem) (h.set _ _ ?_))
      (h.emit _ _ ?_)
    · unfold Dev.get
      rw [Dev.sendCommand_ops]
      exact id
    · cases k <;> rfl

/-- **The rule of a chunk.** -/
theorem ChunkClosed.ackChunk {status : List Signal} (hs : ∀ s ∈ status, s.isProgress = true)
    (d : Dev) : R d (d.ackChunk k status) := by
  unfold Dev.ackChunk
  refine h.trans (h.trans (h.set d _ fun _ => ?_) (h.emitAll hs _)) (h.sendNextChunk _)
  exact TransferState.noConfusion

end

/-! ## Replies -/

/-- the bank operations and the updates leave the reply to the files -/
structure Operations.Unclaimed (o : Operations) : Prop where
  erase : o.bankErasePending = false
  swap : o.bankSwapPending = false
  fwUpdate : o.fwUpdate.state = .Idle
  espUpdate : o.espUpdate.state = .Idle

variable {d : Dev}

theorem unclaimed_of_checks (herase : ¬ d.ops.bankErasePending = true)
    (hswap : ¬ d.ops.bankSwapPending = true) (hfw : ¬ d.ops.fwUpdate.state ≠ .Idle)
    (hesp : ¬ d.ops.espUpdate.state ≠ .Idle) : d.ops.Unclaimed :=
  ⟨by simpa using herase, by simpa using hswap, not_not.mp hfw, not_not.mp hesp⟩

theorem Operations.Unclaimed.fileUpload (h : d.ops.Unclaimed) {k : Kind}
    (hk : (d.get k).state ≠ .Idle) : k = .fileUpload := by
  cases k with
  | fwUpdate => exact absurd h.fwUpdate hk
  | espUpdate => exact absurd h.espUpdate hk
  | fileUpload => rfl

/-- the ACK goes to the files -/
theorem Operations.Unclaimed.handleAck (mine : d.ops.Unclaimed) : d.handleAck =
    if d.ops.fileUpload.state ≠ .Idle then d.ackFileUpload else d.ackFileCommand := by
  unfold Dev.handleAck
  rw [if_neg (by rw [mine.erase]; exact Bool.false_ne_true),
    if_neg (by rw [mine.swap]; exact Bool.false_ne_true), if_neg (not_not.mpr mine.fwUpdate),
    if_neg (not_not.mpr mine.espUpdate)]

inductive AckBranch (d : Dev) : Dev → Prop
  | bankErase (pending : d.ops.bankErasePending = true) :
      AckBranch d (Dev.emit (Dev.resumeKeepaliveIfIdle
        { d with ops := { d.ops with bankErasePending := false } }) .bankEraseComplete)
  | bankSwap (pending : d.ops.bankSwapPending = true) :
      AckBranch d (Dev.startShot (Dev.emit
        { d with ops := { d.ops with bankSwapPending := false } } .bankSwapStarted) .closeLink)
  /-- the ACK of START or of a chunk -/
  | chunk (k : Kind) (status : List Signal) (mine : k = .fileUpload → d.ops.Unclaimed)
      (before : (d.get k).state = .WaitingStartAck ∨ (d.get k).state = .SendingData)
      (progress : ∀ s ∈ status, s.isProgress = true) :
      AckBranch d (d.ackChunk k status)
  /-- the ACK of FINISH, with no upload queue active -/
  | finished (k : Kind) (mine : k = .fileUpload → d.ops.Unclaimed ∧ d.ops.uploadQueueIndex < 0)
      (before : (d.get k).state = .WaitingFinishAck) :
      AckBranch d ((d.endTransfer k).resumeKeepaliveIfIdle.emit k.complete)
  /-- the ACK of the FINISH of a queued file -/
  | nextFile (mine : d.ops.Unclaimed) (before : d.ops.fileUpload.state = .WaitingFinishAck)
      (queue : d.ops.uploadQueueIndex ≥ 0) :
      AckBranch d (d.endTransfer .fileUpload).advanceUploadQueue
  | fileCommand (mine : d.ops.Unclaimed) (idle : d.ops.fileUpload.state = .Idle) :
      AckBranch d d.ackFileCommand

theorem ackFwUpdate_branch (h : d.ops.fwUpdate.state ≠ .Idle) : AckBranch d d.ackFwUpdate := by
  unfold Dev.ackFwUpdate
  split
  · rename_i hs
    exact absurd hs h
  · rename_i hs
    exact .chunk .fwUpdate [] (by simp) (.inl hs) (by simp)
  · rename_i hs
    exact .chunk .fwUpdate [] (by simp) (.inr hs) (by simp)
  · rename_i hs
    exact .finished .fwUpdate (by simp) hs

theorem ackEspUpdate_branch (h : d.ops.espUpdate.state ≠ .Idle) : AckBranch d d.ackEspUpdate := by
  unfold Dev.ackEspUpdate
  split
  · rename_i hs
    exact absurd hs h
  · rename_i hs
    exact .chunk .espUpdate _ (by simp) (.inl hs) (by simp [Signal.isProgress])
  · rename_i hs
    exact .chunk .espUpdate [] (by simp) (.inr hs) (by simp)
  · rename_i hs
    exact .finished .espUpdate (by simp) hs

theorem ackFileUpload_branch (mine : d.ops.Unclaimed) (h : d.ops.fileUpload.state ≠ .Idle) :
    AckBranch d d.ackFileUpload := by
  unfold Dev.ackFileUpload
  split
  · rename_i hs
    exact absurd hs h
  · rename_i hs
    exact .chunk .fileUpload [] (fun _ => mine) (.inl hs) (by simp)
  · rename_i hs
    exact .chunk .fileUpload [] (fun _ => mine) (.inr hs) (by simp)
  · rename_i hs
    dsimp only
    split
    · rename_i hqueue
      exact .nextFile mine hs hqueue
    · rename_i hqueue
      exact .finished .fileUpload (fun _ => ⟨mine, Int.not_le.mp hqueue⟩) hs

theorem handleAck_branch (d : Dev) : AckBranch d d.handleAck := by
  unfold Dev.handleAck
  split
  · rename_i hpending
    exact .bankErase hpending
  · rename_i herase
    split
    · rename_i hpending
      exact .bankSwap hpending
    · rename_i hswap
      split
      · rename_i hactive
        exact ackFwUpdate_branch hactive
      · rename_i hfw
        split
        · rename_i hactive
          exact ackEspUpdate_branch hactive
        · rename_i hesp
          have mine := unclaimed_of_checks herase hswap hfw hesp
          split
          · rename_i hactive
            exact ackFileUpload_branch mine hactive
          · rename_i hidle
            exact .fileCommand mine (not_not.mp hidle)

/-- a file command no longer waits for its reply -/
def Dev.clearPending (d : Dev) : Dev := { d with ops := { d.ops with pendingFileCmd := 0 } }

inductive FileAckBranch (d : Dev) : Dev → Prop
  | deleted (pending : d.ops.pendingFileCmd = CMD_FILE_DELETE ∨
      d.ops.pendingFileCmd = CMD_FILE_DELETE_TREE) :
      FileAckBranch d (d.clearPending.emit .fileDeleteComplete)
  | renamed (pending : d.ops.pendingFileCmd = CMD_FILE_RENAME) :
      FileAckBranch d (d.clearPending.emit .fileRenameComplete)
  | madeDirectory (pending : d.ops.pendingFileCmd = CMD_FILE_MKDIR)
      (queue : d.ops.mkdirQueueIndex < 0) :
      FileAckBranch d (d.clearPending.emit .fileMkdirComplete)
  | nextDirectory (pending : d.ops.pendingFileCmd = CMD_FILE_MKDIR)
      (queue : d.ops.mkdirQueueIndex ≥ 0) : FileAckBranch d d.clearPending.advanceMkdirQueue
  | mounted (on : Bool)
      (pending : d.ops.pendingFileCmd = if on then CMD_SD_MOUNT else CMD_SD_UNMOUNT) :
      FileAckBranch d (Dev.emit { d with ops := { d.ops with
        pendingFileCmd := 0, sdMounted := on } } (.sdMountChanged on))
  /-- the ACK of no file command -/
  | late (pending : d.ops.pendingFileCmd ≠ CMD_FILE_MKDIR) :
      FileAckBranch d { d with ops := { d.ops with
        pendingFileCmd := 0, espUpdateStaleNack := false } }

theorem ackFileCommand_branch (d : Dev) : FileAckBranch d d.ackFileCommand := by
  unfold Dev.ackFileCommand
  dsimp only
  split
  · rename_i hp
    exact .deleted hp
  · split
    · rename_i hp
      exact .renamed hp
    · split
      · rename_i hp
        split
        · rename_i hqueue
          exact .nextDirectory hp hqueue
        · rename_i hqueue
          exact .madeDirectory hp (Int.not_le.mp hqueue)
      · rename_i hmkdir
        split
        · rename_i hp
          exact .mounted false hp
        · split
          · rename_i hp
            exact .mounted true hp
          · exact .late hmkdir

inductive NackBranch (message : String) (d : Dev) : Dev → Prop
  | bankErase (pending : d.ops.bankErasePending = true) :
      NackBranch message d (Dev.emit (Dev.resumeKeepaliveIfIdle
        { d with ops := { d.ops with bankErasePending := false } }) (.bankEraseError message))
  | bankSwap (pending : d.ops.bankSwapPending = true) :
      NackBranch message d (Dev.emit
        { d with ops := { d.ops with bankSwapPending := false } } (.bankSwapError message))
  | update (k : Kind) (hk : k ≠ .fileUpload) (before : (d.get k).state ≠ .Idle) :
      NackBranch message d ((d.endTransfer k).resumeKeepaliveIfIdle.emit (k.error message))
  /-- the refused upload takes both queues with it -/
  | upload (mine : d.ops.Unclaimed) (before : d.ops.fileUpload.state ≠ .Idle) :
      NackBranch message d (Dev.emit
        { (d.endTransfer .fileUpload).resumeKeepaliveIfIdle with ops :=
          { (d.endTransfer .fileUpload).resumeKeepaliveIfIdle.ops with
            uploadQueue := [], uploadQueueIndex := -1, mkdirQueue := [], mkdirQueueIndex := -1 } }
        (.fileOperationError ("Upload failed: " ++ message)))
  | late (mine : d.ops.Unclaimed) (idle : d.ops.fileUpload.state = .Idle)
      (stale : d.ops.espUpdateStaleNack = true) :
      NackBranch message d { d with ops := { d.ops with espUpdateStaleNack := false } }
  | fileCommand (mine : d.ops.Unclaimed) (idle : d.ops.fileUpload.state = .Idle)
      (stale : d.ops.espUpdateStaleNack = false) :
      NackBranch message d (d.clearPending.emit (.errorOccurred message))

theorem handleNack_branch (payload : List UInt8) (d : Dev) :
    NackBranch (nackMessage payload) d (d.handleNack payload) := by
  unfold Dev.handleNack
  dsimp only
  split
  · rename_i hpending
    exact .bankErase hpending
  · rename_i herase
    split
    · rename_i hpending
      exact .bankSwap hpending
    · rename_i hswap
      split
      · rename_i hactive
        exact .update .fwUpdate (by decide) hactive
      · rename_i hfw
        split
        · rename_i hactive
          exact .update .espUpdate (by decide) hactive
        · rename_i hesp
          have mine := unclaimed_of_checks herase hswap hfw hesp
          split
          · rename_i hactive
            exact .upload mine hactive
          · rename_i hidle
            split
            · rename_i hstale
              exact .late mine (not_not.mp hidle) hstale
            · rename_i hstale
              exact .fileCommand mine (not_not.mp hidle) (by simpa using hstale)

/-! ## Frames -/

theorem resolveDialect_env (d : Dev) : d.resolveDialect.env = d.env := by
  unfold Dev.resolveDialect
  split
  · dsimp only
    unfold Dev.requestDeviceInfo
    rw [Dev.sendCommand_env, Dev.emit_env]
    split <;> rfl
  · rfl

/-- what every frame does, before its command is looked at -/
def Dev.noted (d : Dev) : Dev :=
  Dev.resolveDialect { d with keep := { d.keep with lastInboundMs := d.env.now } }

theorem noted_quiet (d : Dev) : Quiet d d.noted := by
  refine Quiet.trans ?_ (resolveDialect_quiet _)
  exact ⟨rfl, rfl, rfl⟩

theorem noted_env (d : Dev) : d.noted.env = d.env := resolveDialect_env _

/-- the state in which the handler of a validated frame runs -/
def Dev.heard (dialect : CrcDialect) (d : Dev) : Dev :=
  Dev.noted (d.fresh.validated dialect)

theorem heard_ops (dialect : CrcDialect) (d : Dev) : (d.heard dialect).ops = d.ops :=
  (noted_quiet _).ops

theorem heard_env (dialect : CrcDialect) (d : Dev) : (d.heard dialect).env = d.env := noted_env _

inductive FrameBranch (f : Frame) (d : Dev) : Dev → Prop
  | ack (hf : f.cmd = CMD_ACK) : FrameBranch f d d.noted.handleAck
  | nack (hf : f.cmd = CMD_NACK) : FrameBranch f d (d.noted.handleNack f.payload)
  | pong (hf : f.cmd = CMD_PONG) : FrameBranch f d d.noted.handlePong
  | deviceInfo (hf : f.cmd = CMD_DEVICE_INFO_RESP) :
      FrameBranch f d (d.noted.handleDeviceInfoResp f.payload)
  | fileData (hf : f.cmd = CMD_FILE_READ_DATA) :
      FrameBranch f d (d.noted.handleFileReadData f.payload)
  | report (ha : f.cmd ≠ CMD_ACK) (hn : f.cmd ≠ CMD_NACK) : FrameBranch f d d.noted

theorem onFrameReceived_branch (f : Frame) (d : Dev) : FrameBranch f d (d.onFrameReceived f) := by
  unfold Dev.onFrameReceived
  dsimp only
  split
  · rename_i hf
    exact .pong hf
  · split
    · rename_i hf
      exact .deviceInfo hf
    · split
      · rename_i hf
        exact .fileData hf
      · split
        · rename_i hf
          exact .ack hf
        · rename_i ha
          split
          · rename_i hf
            exact .nack hf
          · rename_i hn
            exact .report ha hn

/-! ## Timeouts -/

/-- the slot runs with its timer already stopped -/
def Dev.stopTimeout (k : Kind) (d : Dev) : Dev :=
  d.setTransfer k { d.get k with timeout := none }

theorem stopTimeout_endTransfer (k : Kind) (d : Dev) :
    (d.stopTimeout k).endTransfer k = d.endTransfer k := by
  cases k <;> rfl

inductive TimeoutBranch (k : Kind) (d : Dev) : Dev → Prop
  | idle (before : (d.get k).state = .Idle) : TimeoutBranch k d (d.stopTimeout k)
  | ended (message : String) (hk : k ≠ .espUpdate) (before : (d.get k).state ≠ .Idle) :
      TimeoutBranch k d ((d.endTransfer k).resumeKeepaliveIfIdle.emit (k.error message))
  /-- FINISH lets the device clean up, and its late reply is expected -/
  | cleanup (message : String) (hk : k = .espUpdate) (before : (d.get k).state ≠ .Idle)
      (d1 : Dev) (sent : d1 = (d.stopTimeout k).sendCommand CMD_ESP_UPDATE_FINISH []) :
      TimeoutBranch k d (Dev.emit (Dev.resumeKeepaliveIfIdle { d1.endTransfer k with
        ops := { (d1.endTransfer k).ops with espUpdateStaleNack := true } }) (k.error message))

theorem onTransferTimeout_branch (k : Kind) (d : Dev) :
    TimeoutBranch k d (d.onTransferTimeout k) := by
  have key (hk : k ≠ .espUpdate) (message : String) (h : (d.get k).state ≠ .Idle) :
      TimeoutBranch k d
        (((d.stopTimeout k).endTransfer k).resumeKeepaliveIfIdle.emit (k.error message)) := by
    rw [stopTimeout_endTransfer]
    exact .ended message hk h
  unfold Dev.onTransferTimeout
  cases k with
  | fwUpdate =>
    dsimp only
    unfold Dev.onFwUpdateTimeout
    split
    · rename_i h
      dsimp only
      split
      · exact key (by decide) _ h
      · exact key (by decide) _ h
    · rename_i h
      exact .idle (not_not.mp h)
  | espUpdate =>
    dsimp only
    unfold Dev.onEspUpdateTimeout
    split
    · rename_i h
      have before : (d.get .espUpdate).state ≠ .Idle := h
      exact .cleanup _ rfl before _ rfl
    · rename_i h
      exact .idle (not_not.mp h)
  | fileUpload =>
    dsimp only
    unfold Dev.onFileUploadTimeout
    split
    · rename_i h
      exact key (by decide) _ h
    · rename_i h
      exact .idle (not_not.mp h)

end QMon.Device
