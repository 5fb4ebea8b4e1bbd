import QMonstatek.Device.Isolation
import QMonstatek.Device.Queue
import QMonstatek.Device.Exchange

/-!
# Late replies of a timed-out flash

`Conversation`      the device object, the commands of this session that await an answer, and when
                    each operation was started, counted in timed-out flashes;
`Absorbed m x`      the answer to a command of a timed-out flash touches no operation started
                    since, and a NACK to a command sent after a timeout is reported;
`MeetsNone m x`     the answer comes when no such operation is first in line for it, and the NACK
                    when the stale flag does not take it.

`absorbed_iff`: a run absorbs its late replies exactly when every step of it `MeetsNone`.  An
answer goes to the operation that is first in line; the flag is looked at only after all of them
but the file command.
-/

namespace QMon.Device
open Rpc

/-! ## The operation that takes a reply -/

/-- the operation a reply is routed to -/
def Operations.firstInLine (o : Operations) : Option Marker :=
  if o.bankErasePending then some .bankErase
  else if o.bankSwapPending then some .bankSwap
  else if o.fwUpdate.state ≠ .Idle then some (.transfer .fwUpdate)
  else if o.espUpdate.state ≠ .Idle then some (.transfer .espUpdate)
  else if o.fileUpload.state ≠ .Idle then some (.transfer .fileUpload)
  else if o.pendingFileCmd ≠ 0 then some .fileCommand
  else none

/-- the stale flag takes the NACK -/
def Operations.DropsNack (o : Operations) : Prop :=
  o.Unclaimed ∧ o.fileUpload.state = .Idle ∧ o.espUpdateStaleNack = true

/-- a reply goes to `op`; a refused upload takes the MKDIR queue with it -/
def Operations.Takes (o : Operations) (positive : Bool) (op : Marker) : Prop :=
  if positive then o.firstInLine = some op
  else ¬ o.DropsNack ∧ o.firstInLine = some op ∨
    o.firstInLine = some (.transfer .fileUpload) ∧ op = .fileCommand ∧ o.mkdirQueueIndex ≠ -1

/-- nothing of `op` changes -/
def Untouched (op : Marker) (o o' : Operations) : Prop :=
  match op with
  | .bankErase => o'.bankErasePending = o.bankErasePending
  | .bankSwap => o'.bankSwapPending = o.bankSwapPending
  | .fileCommand => o'.pendingFileCmd = o.pendingFileCmd ∧ o'.mkdirQueueIndex = o.mkdirQueueIndex
  | .transfer k => o'.get k = o.get k

def Signal.isError : Signal → Bool
  | .bankEraseError _ => true
  | .bankSwapError _ => true
  | .fwUpdateError _ => true
  | .espUpdateError _ => true
  | .fileOperationError _ => true
  | .errorOccurred _ => true
  | _ => false

/-- an error is reported -/
def Told (out : List Out) : Prop := ∃ s : Signal, s.isError = true ∧ .signal s ∈ out

/-! ## The system -/

structure Awaited where
  cmd : UInt8
  seq : UInt8
  /-- the number of flashes that had timed out when it was sent -/
  sent : Nat
  /-- the timeout that gave it up -/
  late : Option Nat := none
  deriving DecidableEq, Repr

structure Conversation where
  dev : Dev := init
  /-- the number of flashes that have timed out -/
  timeouts : Nat := 0
  unanswered : List Awaited := []
  /-- the same number when each operation was started -/
  started : Marker → Nat := fun _ => 0

inductive Turn where
  /-- any event but a reply -/
  | host (e : Event)
  /-- an unanswered command of the session is answered, in any order -/
  | answer (i : Nat) (positive : Bool) (payload : List UInt8) (dialect : CrcDialect)
  /-- one is never answered -/
  | lose (i : Nat)

/-- the flash times out, and its FINISH is sent -/
def Event.givesUp (e : Event) (d : Dev) : Bool :=
  match e with
  | .expire (.transfer .espUpdate) =>
    d.ops.espUpdate.timeout.isSome && d.ops.espUpdate.state != .Idle
  | _ => false

def Awaited.giveUp (timeout : Nat) (c : Awaited) : Awaited :=
  if Kind.espUpdate.owns c.cmd ∧ c.late = none then { c with late := some timeout } else c

/-- the state after the handler of `e`, with `l` of the earlier commands still unanswered: what
was sent in a session that has ended is not answered any more -/
def Conversation.after (x : Conversation) (l : List Awaited) (e : Event) : Conversation :=
  let d := step e x.dev
  let timeouts := x.timeouts + (e.givesUp x.dev).toNat
  let kept := if d.reported false ∨ d.reported true then [] else l
  let unanswered := kept ++ (txFrames d.out).map fun f =>
    { cmd := f.cmd, seq := f.seq, sent := timeouts }
  { dev := d
    timeouts := timeouts
    unanswered := if e.givesUp x.dev then unanswered.map (.giveUp timeouts) else unanswered
    started := fun op =>
      if d.command op ∈ (opSent d.out).map Prod.fst then timeouts else x.started op }

/-- the frame that answers `c` -/
def Awaited.reply (c : Awaited) (positive : Bool) (payload : List UInt8) (dialect : CrcDialect) :
    Event :=
  .frame { cmd := if positive then CMD_ACK else CMD_NACK, seq := c.seq, payload := payload } dialect

def converse (m : Turn) (x : Conversation) : Conversation :=
  match m with
  | .host e => if e.isReply then { x with dev := x.dev.fresh } else x.after x.unanswered e
  | .answer i positive payload dialect =>
    match x.unanswered[i]? with
    | none => { x with dev := x.dev.fresh }
    | some c => x.after (x.unanswered.eraseIdx i) (c.reply positive payload dialect)
  | .lose i => { x with dev := x.dev.fresh, unanswered := x.unanswered.eraseIdx i }

/-- `op` was started after the timeout that gave `c` up -/
def Conversation.StartedSince (x : Conversation) (c : Awaited) (op : Marker) : Prop :=
  x.dev.Marked op ∧ ∃ timeout ∈ c.late, timeout ≤ x.started op

/-- `c` was sent for an operation, after a timeout -/
def Awaited.SentSince (c : Awaited) : Prop := c.late = none ∧ 0 < c.sent ∧ c.cmd ∈ opCommands

def Absorbed (m : Turn) (x : Conversation) : Prop :=
  match m with
  | .answer i positive _ _ => x.dev.isConnected = true → ∀ c ∈ x.unanswered[i]?,
    (∀ op, x.StartedSince c op → Untouched op x.dev.ops (converse m x).dev.ops) ∧
    (c.SentSince → positive = false → Told (converse m x).dev.out)
  | _ => True

def MeetsNone (m : Turn) (x : Conversation) : Prop :=
  match m with
  | .answer i positive _ _ => x.dev.isConnected = true → ∀ c ∈ x.unanswered[i]?,
    (∀ op, x.StartedSince c op → ¬ x.dev.ops.Takes positive op) ∧
    (c.SentSince → positive = false → ¬ x.dev.ops.DropsNack)
  | _ => True

/-! ## One transfer at work -/

section
variable {a b c d d' : Dev} {o o' : Operations} {op : Marker} {k : Kind}

theorem Untouched.of_eq (h : o' = o) : Untouched op o o' := by
  rw [h]
  cases op with
  | fileCommand => exact ⟨rfl, rfl⟩
  | _ => rfl

theorem Untouched.trans {o'' : Operations} (h : Untouched op o o') (h' : Untouched op o' o'') :
    Untouched op o o'' := by
  cases op with
  | bankErase => exact Eq.trans h' h
  | bankSwap => exact Eq.trans h' h
  | fileCommand => exact ⟨h'.1.trans h.1, h'.2.trans h.2⟩
  | transfer k => exact Eq.trans h' h

/-- work on transfer `k` -/
theorem Only.untouched (h : Only k a b) (hb : Beside k a b) (hop : op ≠ .transfer k) :
    Untouched op a.ops b.ops := by
  cases op with
  | bankErase => exact h.erase
  | bankSwap => exact h.swap
  | fileCommand => exact ⟨hb.pending, hb.mkdirIndex⟩
  | transfer k' => exact h.get k' fun hk => hop (congrArg Marker.transfer hk)

theorem Marked_congr (h : d'.ops = d.ops) : d'.Marked op ↔ d.Marked op := by
  unfold Dev.Marked Dev.get
  rw [h]

/-- a chunk is not empty, so the offset moves -/
theorem ofInt_chunkLen_ne_zero (k : Kind) (t : Transfer) (h : ¬ t.offset ≥ t.size) :
    ofInt (t.chunkLen k) ≠ 0 := by
  have hne : t.size - t.offset ≠ 0 := by
    intro h0
    have heq : t.size = t.offset := by
      rw [← UInt32.sub_add_cancel t.size t.offset, h0, UInt32.zero_add]
    exact h (by rw [heq]; exact UInt32.le_refl _)
  unfold Transfer.chunkLen
  by_cases hlt : (k.machine.CHUNK_SIZE : Int) ≤ toInt (t.size - t.offset)
  · rw [min_eq_left hlt]
    cases k <;> decide
  · rw [min_eq_right (Int.le_of_not_le hlt)]
    unfold ofInt toInt
    rw [BitVec.ofInt_toInt]
    exact hne

theorem Transfer.next_ne {t : Transfer}
    (before : t.state = .WaitingStartAck ∨ t.state = .SendingData) : t.next k ≠ t := by
  intro h
  unfold Transfer.next at h
  split at h
  · have hstate : TransferState.WaitingFinishAck = t.state := congrArg Transfer.state h
    rw [← hstate] at before
    exact absurd before (by decide)
  · rename_i hmore
    have hoff : t.offset + ofInt (t.chunkLen k) = t.offset := congrArg Transfer.offset h
    exact ofInt_chunkLen_ne_zero k t hmore (by simpa using hoff)

/-- the reply works on transfer `k` -/
structure WorksOn (k : Kind) (d d' : Dev) : Prop where
  self : d'.get k ≠ d.get k
  others : ∀ op ≠ .transfer k, d.Marked op → Untouched op d.ops d'.ops

theorem ackChunk_worksOn {status : List Signal} (hs : ∀ s ∈ status, s.isProgress = true)
    (before : (d.get k).state = .WaitingStartAck ∨ (d.get k).state = .SendingData) :
    WorksOn k d (d.ackChunk k status) where
  self := by
    rw [ackChunk_get]
    exact Transfer.next_ne before
  others op hop _ := ((only_chunkClosed k).ackChunk hs d).untouched
    ((beside_chunkClosed k).ackChunk hs d) hop

/-- the transfer ends, and what is left to do leaves the operations as they are -/
theorem endTransfer_worksOn (before : (d.get k).state ≠ .Idle)
    (h : d'.ops = (d.endTransfer k).ops) : WorksOn k d d' where
  self hget := by
    have hidle : (d'.get k).state = .Idle := by
      unfold Dev.get
      rw [h]
      exact endTransfer_state k d
    rw [hget] at hidle
    exact before hidle
  others op hop _ :=
    ((endTransfer_only k d).untouched (endTransfer_beside k d) hop).trans (.of_eq h)

theorem finished_worksOn (before : (d.get k).state ≠ .Idle) (s : Signal) :
    WorksOn k d ((d.endTransfer k).resumeKeepaliveIfIdle.emit s) :=
  endTransfer_worksOn before (Dev.resumeKeepaliveIfIdle_ops _)

/-- a refused or a started transfer is not at its end -/
theorem StartBranch.notFinishing {path : String} (h : StartBranch k path d d')
    (idle : (d.get k).state = .Idle) : (d'.get k).state ≠ .WaitingFinishAck := by
  cases h with
  | refused message busy =>
    show (d.get k).state ≠ _
    rw [idle]
    decide
  | rejected flashAddr data t message idle read after empty =>
    show (((d.setFlashAddr flashAddr).setTransfer k t).get k).state ≠ _
    rw [Dev.get_setTransfer, if_pos rfl, after]
    decide
  | started flashAddr data payload t status idle alone read size image progress =>
    rw [show Dev.get (Dev.emitAll _ status) k = Dev.get _ k from
      congrArg (fun o : Operations => o.get k) (Dev.emitAll_ops status _), sendStart_get]
    exact TransferState.noConfusion

/-- the queue goes on: the upload is not at its end any more, and the file command is left -/
theorem advanceUploadQueue_after (idle : d.ops.fileUpload.state = .Idle) :
    (d.advanceUploadQueue.get .fileUpload).state ≠ .WaitingFinishAck ∧
      Untouched .fileCommand d.ops d.advanceUploadQueue.ops := by
  unfold Dev.advanceUploadQueue
  dsimp only
  split
  · refine ⟨?_, rfl, rfl⟩
    show d.ops.fileUpload.state ≠ _
    rw [idle]
    decide
  · rename_i item _
    have branch := uploadFile_branch item.localPath (Dev.emit { d with ops := { d.ops with
      uploadQueueIndex := d.ops.uploadQueueIndex + 1 } } (.multiUploadProgress
        (d.ops.uploadQueueIndex + 1 + 1).toNat d.ops.uploadQueue.length
        (fileName item.localPath))) item.remotePath
    exact ⟨branch.notFinishing idle, branch.beside.pending, branch.beside.mkdirIndex⟩

theorem ackFwUpdate_worksOn (h : d.ops.fwUpdate.state ≠ .Idle) :
    WorksOn .fwUpdate d d.ackFwUpdate := by
  unfold Dev.ackFwUpdate
  split
  · rename_i hs
    exact absurd hs h
  · rename_i hs
    exact ackChunk_worksOn (by simp) (.inl hs)
  · rename_i hs
    exact ackChunk_worksOn (by simp) (.inr hs)
  · exact finished_worksOn (k := .fwUpdate) h _

theorem ackEspUpdate_worksOn (h : d.ops.espUpdate.state ≠ .Idle) :
    WorksOn .espUpdate d d.ackEspUpdate := by
  unfold Dev.ackEspUpdate
  split
  · rename_i hs
    exact absurd hs h
  · rename_i hs
    exact ackChunk_worksOn (by simp [Signal.isProgress]) (.inl hs)
  · rename_i hs
    exact ackChunk_worksOn (by simp) (.inr hs)
  · exact finished_worksOn (k := .espUpdate) h _

theorem ackFileUpload_worksOn (mine : d.ops.Unclaimed) (h : d.ops.fileUpload.state ≠ .Idle) :
    WorksOn .fileUpload d d.ackFileUpload := by
  unfold Dev.ackFileUpload
  split
  · rename_i hs
    exact absurd hs h
  · rename_i hs
    exact ackChunk_worksOn (by simp) (.inl hs)
  · rename_i hs
    exact ackChunk_worksOn (by simp) (.inr hs)
  · rename_i hs
    dsimp only
    split
    · obtain ⟨hstate, hfile⟩ := advanceUploadQueue_after (d := d.endTransfer .fileUpload) rfl
      refine ⟨fun hget => ?_, fun op hop hm => ?_⟩
      · rw [hget] at hstate
        exact hstate hs
      · cases op with
        | bankErase => exact absurd (mine.erase.symm.trans hm) Bool.false_ne_true
        | bankSwap => exact absurd (mine.swap.symm.trans hm) Bool.false_ne_true
        | fileCommand => exact hfile
        | transfer k => exact absurd (congrArg Marker.transfer (mine.fileUpload hm)) hop
    · exact finished_worksOn (k := .fileUpload) h _

/-! ## Routing -/

/-- with nothing but a file command marked -/
theorem only_fileCommand (mine : d.ops.Unclaimed) (idle : d.ops.fileUpload.state = .Idle)
    (hm : d.Marked op) : op = .fileCommand := by
  cases op with
  | bankErase => exact absurd (mine.erase.symm.trans hm) Bool.false_ne_true
  | bankSwap => exact absurd (mine.swap.symm.trans hm) Bool.false_ne_true
  | fileCommand => rfl
  | transfer k =>
    have hk := mine.fileUpload hm
    rw [hk] at hm
    exact absurd idle hm

theorem startUploadQueue_mkdirIndex (d : Dev) :
    d.startUploadQueue.ops.mkdirQueueIndex = d.ops.mkdirQueueIndex := by
  unfold Dev.startUploadQueue
  split
  · rfl
  · exact (uploadFile_branch _ _ _).beside.mkdirIndex

/-- the ACK of the file command: the slot is emptied, or the MKDIR queue goes on -/
theorem ackFileCommand_touches (h : d.ops.pendingFileCmd ≠ 0) :
    ¬ Untouched .fileCommand d.ops d.ackFileCommand.ops := by
  rintro ⟨hpending, hindex⟩
  have cleared {d' : Dev} (h' : d'.ops.pendingFileCmd = 0)
      (heq : d'.ops.pendingFileCmd = d.ops.pendingFileCmd) : False := h (heq.symm.trans h')
  have branch := ackFileCommand_branch d
  generalize d.ackFileCommand = d' at branch hpending hindex
  cases branch with
  | deleted pending => exact cleared rfl hpending
  | renamed pending => exact cleared rfl hpending
  | madeDirectory pending queue => exact cleared rfl hpending
  | nextDirectory pending queue =>
    unfold Dev.advanceMkdirQueue at hindex
    dsimp only at hindex
    split at hindex
    · have hi : (-1 : Int) = d.ops.mkdirQueueIndex := by
        split at hindex
        · rw [startUploadQueue_mkdirIndex] at hindex
          exact hindex
        · exact hindex
      omega
    · unfold Dev.makeDirectory at hindex
      rw [Dev.fileCommand_ops] at hindex
      have hi : d.ops.mkdirQueueIndex + 1 = d.ops.mkdirQueueIndex := hindex
      omega
  | mounted on pending => exact cleared rfl hpending
  | late pending => exact cleared rfl hpending

/-- the reply works on `first` and on no other marked operation -/
theorem routed {first : Marker} (hm : d.Marked op) (self : ¬ Untouched first d.ops d'.ops)
    (others : ∀ op ≠ first, d.Marked op → Untouched op d.ops d'.ops) :
    Untouched op d.ops d'.ops ↔ ¬ first = op := by
  constructor
  · intro h heq
    rw [← heq] at h
    exact self h
  · intro hne
    exact others op (fun heq => hne heq.symm) hm

theorem WorksOn.routed (w : WorksOn k d d') (hm : d.Marked op) :
    Untouched op d.ops d'.ops ↔ ¬ Marker.transfer k = op :=
  Device.routed hm w.self w.others

theorem erase_routed (hm : d.Marked op) (pending : d.ops.bankErasePending = true)
    (h : d'.ops = { d.ops with bankErasePending := false }) :
    Untouched op d.ops d'.ops ↔ ¬ Marker.bankErase = op := by
  refine routed hm (fun hflag => ?_) fun op hop _ => ?_
  · rw [h] at hflag
    have hoff : false = d.ops.bankErasePending := hflag
    exact absurd (hoff.trans pending) Bool.false_ne_true
  · rw [h]
    cases op with
    | bankErase => exact absurd rfl hop
    | bankSwap => rfl
    | fileCommand => exact ⟨rfl, rfl⟩
    | transfer k => cases k <;> rfl

theorem swap_routed (hm : d.Marked op) (pending : d.ops.bankSwapPending = true)
    (h : d'.ops = { d.ops with bankSwapPending := false }) :
    Untouched op d.ops d'.ops ↔ ¬ Marker.bankSwap = op := by
  refine routed hm (fun hflag => ?_) fun op hop _ => ?_
  · rw [h] at hflag
    have hoff : false = d.ops.bankSwapPending := hflag
    exact absurd (hoff.trans pending) Bool.false_ne_true
  · rw [h]
    cases op with
    | bankErase => rfl
    | bankSwap => exact absurd rfl hop
    | fileCommand => exact ⟨rfl, rfl⟩
    | transfer k => cases k <;> rfl

theorem handleAck_untouched_iff (hm : d.Marked op) :
    Untouched op d.ops d.handleAck.ops ↔ ¬ d.ops.Takes true op := by
  unfold Operations.Takes Operations.firstInLine Dev.handleAck
  rw [if_pos rfl]
  split_ifs with herase hswap hfw hesp hup hslot
  · rw [Option.some.injEq]
    exact erase_routed hm herase (Dev.resumeKeepaliveIfIdle_ops _)
  · rw [Option.some.injEq]
    exact swap_routed hm hswap rfl
  · rw [Option.some.injEq]
    exact (ackFwUpdate_worksOn hfw).routed hm
  · rw [Option.some.injEq]
    exact (ackEspUpdate_worksOn hesp).routed hm
  · rw [Option.some.injEq]
    exact (ackFileUpload_worksOn (unclaimed_of_checks herase hswap hfw hesp) hup).routed hm
  · have hfile := only_fileCommand (unclaimed_of_checks herase hswap hfw hesp) (not_not.mp hup) hm
    rw [hfile]
    exact iff_of_false (ackFileCommand_touches hslot) (not_not.mpr rfl)
  · have hfile := only_fileCommand (unclaimed_of_checks herase hswap hfw hesp) (not_not.mp hup) hm
    rw [hfile] at hm
    exact absurd hm hslot

/-- the refused upload ends, and the queues are cleared -/
theorem nackUpload_routed (hm : d.Marked op) (mine : d.ops.Unclaimed)
    (before : d.ops.fileUpload.state ≠ .Idle)
    (h : d'.ops = { (d.endTransfer .fileUpload).ops with
      uploadQueue := [], uploadQueueIndex := -1, mkdirQueue := [], mkdirQueueIndex := -1 }) :
    Untouched op d.ops d'.ops ↔ ¬ (¬ d.ops.DropsNack ∧
      some (Marker.transfer .fileUpload) = some op ∨
        some (Marker.transfer .fileUpload) = some (.transfer .fileUpload) ∧ op = .fileCommand ∧
          d.ops.mkdirQueueIndex ≠ -1) := by
  have hdrop : ¬ d.ops.DropsNack := fun h => before h.2.1
  rw [h]
  cases op with
  | bankErase => exact absurd (mine.erase.symm.trans hm) Bool.false_ne_true
  | bankSwap => exact absurd (mine.swap.symm.trans hm) Bool.false_ne_true
  | fileCommand =>
    have hself : Untouched .fileCommand d.ops { (d.endTransfer .fileUpload).ops with
        uploadQueue := [], uploadQueueIndex := -1, mkdirQueue := [], mkdirQueueIndex := -1 } ↔
        -1 = d.ops.mkdirQueueIndex := and_iff_right rfl
    rw [hself]
    simp [eq_comm]
  | transfer k =>
    have hk := mine.fileUpload hm
    rw [hk]
    refine iff_of_false (fun hget => ?_) (by simp [hdrop])
    have hstate : TransferState.Idle = d.ops.fileUpload.state := congrArg Transfer.state hget
    exact before hstate.symm

theorem handleNack_untouched_iff (payload : List UInt8) (hm : d.Marked op) :
    Untouched op d.ops (d.handleNack payload).ops ↔ ¬ d.ops.Takes false op := by
  -- before the upload the flag is not looked at, and no queue is cleared
  have plain {first : Marker} {d' : Dev} (hdrop : ¬ d.ops.DropsNack)
      (hfirst : first ≠ .transfer .fileUpload)
      (h : Untouched op d.ops d'.ops ↔ ¬ first = op) : Untouched op d.ops d'.ops ↔
      ¬ (¬ d.ops.DropsNack ∧ some first = some op ∨
        some first = some (.transfer .fileUpload) ∧ op = .fileCommand ∧
          d.ops.mkdirQueueIndex ≠ -1) := by
    simp only [Option.some.injEq, hdrop, hfirst, not_false_eq_true, true_and, false_and, or_false]
    exact h
  unfold Operations.Takes Operations.firstInLine Dev.handleNack
  rw [if_neg Bool.false_ne_true]
  dsimp only
  split_ifs with herase hswap hfw hesp hup hstale hslot hslot
  · refine plain (fun h => ?_) (by decide)
      (erase_routed hm herase (Dev.resumeKeepaliveIfIdle_ops _))
    exact absurd (h.1.erase.symm.trans herase) Bool.false_ne_true
  · refine plain (fun h => ?_) (by decide) (swap_routed hm hswap rfl)
    exact absurd (h.1.swap.symm.trans hswap) Bool.false_ne_true
  · exact plain (fun h => hfw h.1.fwUpdate) (by decide)
      ((finished_worksOn (k := .fwUpdate) hfw _).routed hm)
  · exact plain (fun h => hesp h.1.espUpdate) (by decide)
      ((finished_worksOn (k := .espUpdate) hesp _).routed hm)
  · refine nackUpload_routed hm (unclaimed_of_checks herase hswap hfw hesp) hup ?_
    rw [Dev.emit_ops, Dev.resumeKeepaliveIfIdle_ops]
  · have mine := unclaimed_of_checks herase hswap hfw hesp
    have hfile := only_fileCommand mine (not_not.mp hup) hm
    rw [hfile]
    have hdrop : d.ops.DropsNack := ⟨mine, not_not.mp hup, hstale⟩
    exact iff_of_true ⟨rfl, rfl⟩ (by simp [hdrop])
  · have hfile := only_fileCommand (unclaimed_of_checks herase hswap hfw hesp) (not_not.mp hup) hm
    rw [hfile] at hm
    exact absurd hm hslot
  · have hfile := only_fileCommand (unclaimed_of_checks herase hswap hfw hesp) (not_not.mp hup) hm
    rw [hfile]
    have hdrop : ¬ d.ops.DropsNack := fun h => hstale h.2.2
    refine iff_of_false (fun h => hslot ?_) (by simp [hdrop])
    exact h.1.symm
  · have hfile := only_fileCommand (unclaimed_of_checks herase hswap hfw hesp) (not_not.mp hup) hm
    rw [hfile] at hm
    exact absurd hm hslot

/-! ## Errors -/

theorem told_emit (d : Dev) {s : Signal} (hs : s.isError = true) : Told (d.emit s).out :=
  ⟨s, hs, List.mem_append_right _ List.mem_cons_self⟩

/-- the NACK is told, unless the stale flag takes it -/
theorem handleNack_told_iff (payload : List UInt8) (hd : ¬ Told d.out) :
    Told (d.handleNack payload).out ↔ ¬ d.ops.DropsNack := by
  have branch := handleNack_branch payload d
  generalize d.handleNack payload = d' at branch
  cases branch with
  | bankErase pending =>
    refine iff_of_true (told_emit _ rfl) fun h => ?_
    exact absurd (h.1.erase.symm.trans pending) Bool.false_ne_true
  | bankSwap pending =>
    refine iff_of_true (told_emit _ rfl) fun h => ?_
    exact absurd (h.1.swap.symm.trans pending) Bool.false_ne_true
  | update k hk before =>
    refine iff_of_true (told_emit _ (by cases k <;> rfl)) fun h => ?_
    exact hk (h.1.fileUpload before)
  | upload mine before => exact iff_of_true (told_emit _ rfl) fun h => before h.2.1
  | late mine idle stale => exact iff_of_false hd (not_not.mpr ⟨mine, idle, stale⟩)
  | fileCommand mine idle stale =>
    refine iff_of_true (told_emit _ rfl) fun h => ?_
    exact absurd (stale.symm.trans h.2.2) Bool.false_ne_true

/-! ## Answers -/

theorem heard_untold (dialect : CrcDialect) (d : Dev) : ¬ Told (d.heard dialect).out := by
  rintro ⟨s, hs, hm⟩
  have quiet := noted_tells (P := fun s => s.isError = false) rfl (fun _ => rfl)
    (d.fresh.validated dialect)
  rcases quiet s hm with hnone | hquiet
  · exact absurd hnone List.not_mem_nil
  · exact absurd (hquiet.symm.trans hs) Bool.false_ne_true

theorem step_ack {f : Frame} (dialect : CrcDialect) (hf : f.cmd = CMD_ACK)
    (hc : d.isConnected = true) : step (.frame f dialect) d = (d.heard dialect).handleAck := by
  have h (cmd : UInt8) (hcmd : CMD_ACK ≠ cmd) : f.cmd ≠ cmd := by
    rw [hf]
    exact hcmd
  refine (if_pos hc).trans ?_
  unfold Dev.onFrameReceived
  dsimp only
  rw [if_neg (h _ (by decide)), if_neg (h _ (by decide)), if_neg (h _ (by decide)), if_pos hf]
  rfl

theorem step_nack {f : Frame} (dialect : CrcDialect) (hf : f.cmd = CMD_NACK)
    (hc : d.isConnected = true) :
    step (.frame f dialect) d = (d.heard dialect).handleNack f.payload := by
  have h (cmd : UInt8) (hcmd : CMD_NACK ≠ cmd) : f.cmd ≠ cmd := by
    rw [hf]
    exact hcmd
  refine (if_pos hc).trans ?_
  unfold Dev.onFrameReceived
  dsimp only
  rw [if_neg (h _ (by decide)), if_neg (h _ (by decide)), if_neg (h _ (by decide)),
    if_neg (h _ (by decide)), if_pos hf]
  rfl

theorem answer_untouched_iff (c : Awaited) (positive : Bool) (payload : List UInt8)
    (dialect : CrcDialect) (hc : d.isConnected = true) (hm : d.Marked op) :
    Untouched op d.ops (step (c.reply positive payload dialect) d).ops ↔
      ¬ d.ops.Takes positive op := by
  have hops := heard_ops dialect d
  have hm' := (Marked_congr hops).mpr hm
  unfold Awaited.reply
  cases positive with
  | true =>
    rw [step_ack dialect rfl hc]
    have h := handleAck_untouched_iff hm'
    rw [hops] at h
    exact h
  | false =>
    rw [step_nack dialect rfl hc]
    have h := handleNack_untouched_iff payload hm'
    rw [hops] at h
    exact h

theorem nack_told_iff {f : Frame} (dialect : CrcDialect) (hf : f.cmd = CMD_NACK)
    (hc : d.isConnected = true) :
    Told (step (.frame f dialect) d).out ↔ ¬ d.ops.DropsNack := by
  rw [step_nack dialect hf hc, handleNack_told_iff _ (heard_untold dialect d), heard_ops]

theorem absorbed_iff_meetsNone (m : Turn) (x : Conversation) : Absorbed m x ↔ MeetsNone m x := by
  unfold Absorbed MeetsNone
  cases m with
  | host e => exact Iff.rfl
  | lose i => exact Iff.rfl
  | answer i positive payload dialect =>
    refine forall_congr' fun hc => forall_congr' fun c => forall_congr' fun hi => ?_
    have hdev : (converse (.answer i positive payload dialect) x).dev
        = step (c.reply positive payload dialect) x.dev := by
      unfold converse
      dsimp only
      rw [Option.mem_def.mp hi]
      rfl
    rw [hdev]
    refine and_congr (forall_congr' fun op => forall_congr' fun hs => ?_)
      (forall_congr' fun hs => forall_congr' fun hneg => ?_)
    · exact answer_untouched_iff c positive payload dialect hc hs.1
    · subst hneg
      exact nack_told_iff dialect rfl hc

end

/-- **Late replies are absorbed** along a run iff each answer to a command of a timed-out flash
comes when no operation started since is first in line for it, and each NACK to a command sent
since when the stale flag does not take it. -/
theorem absorbed_iff (ms : List Turn) :
    Run.Along converse Absorbed ms {} ↔ Run.Along converse MeetsNone ms {} :=
  Run.along_iff converse (I := fun _ => True) (fun _ _ _ => trivial)
    (fun m x _ => absorbed_iff_meetsNone m x) ms {} trivial

/-- a flash that has timed out over USB, its START and FINISH unanswered -/
def timedOutFlash : List Turn :=
  [.host (.env { serialOpens := fun _ => true, readFile := fun _ => some [1, 2, 3, 4] }),
    .host (.call (.connectToDevice "COM3")), .host (.call (.startEspUpdate "esp.bin" 0 true)),
    .host (.expire (.transfer .espUpdate))]

/-- the late ACK of the flash's START starts the data of a firmware update; and the NACK of a
delete is dropped for a late reply that has not come -/
theorem lateReply_taken :
    let x := Run.exec converse (timedOutFlash ++ [.host (.call (.startFwUpdate "fw.bin"))]) {}
    let m := Turn.answer 2 true [] .Correct
    let y := Run.exec converse (timedOutFlash ++ [.host (.call (.deleteFile "/a"))]) {}
    let n := Turn.answer 4 false [ERR_FILE_NOT_FOUND] .Correct
    x.unanswered[2]? = some ⟨CMD_ESP_UPDATE_START, 2, 0, some 1⟩ ∧
      (x.dev.get .fwUpdate).state = .WaitingStartAck ∧
      ((converse m x).dev.get .fwUpdate).state = .SendingData ∧ ¬ Absorbed m x ∧
      y.unanswered[4]? = some ⟨CMD_FILE_DELETE, 4, 1, none⟩ ∧
      (converse n y).dev.ops.pendingFileCmd = CMD_FILE_DELETE ∧ ¬ Absorbed n y := by
  intro x m y n
  have hstart : x.unanswered[2]? = some ⟨CMD_ESP_UPDATE_START, 2, 0, some 1⟩ := by decide +kernel
  have hstate : (x.dev.get .fwUpdate).state = .WaitingStartAck := by decide +kernel
  have hdelete : y.unanswered[4]? = some ⟨CMD_FILE_DELETE, 4, 1, none⟩ := by decide +kernel
  refine ⟨hstart, hstate, by decide +kernel, fun h => ?_, hdelete, by decide +kernel, fun h => ?_⟩
  · obtain ⟨hlate, -⟩ := (absorbed_iff_meetsNone m x).mp h (by decide +kernel) _ hstart
    refine hlate (.transfer .fwUpdate) ⟨?_, 1, rfl, by decide +kernel⟩ ?_
    · show (x.dev.get .fwUpdate).state ≠ .Idle
      rw [hstate]
      decide
    · show x.dev.ops.firstInLine = some (.transfer .fwUpdate)
      decide +kernel
  · obtain ⟨-, hnack⟩ := (absorbed_iff_meetsNone n y).mp h (by decide +kernel) _ hdelete
    refine hnack ⟨rfl, by decide, by decide⟩ rfl ⟨⟨?_, ?_, ?_, ?_⟩, ?_, ?_⟩ <;> decide +kernel

end QMon.Device
