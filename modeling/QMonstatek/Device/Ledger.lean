import QMonstatek.Lib.Balance
import QMonstatek.Device.Exclusive
import QMonstatek.Device.LinkWork
import QMonstatek.Device.Closed

/-!
# Every request is answered once

The firmware update, the ESP32 update and the bank erase (`Task`) have outcome signals of their
own: `complete` or `error`.  The user interface waits for one of them after each call.

`asked e`     the handler of `e` is a call that asks for the task;
`answers out` the outcome signals of the task in `out`;
`pending d`   1 while the task is active, else 0.

`balanced_step`: a step puts out as many outcomes as it has to.  `ledger`: over a run, the calls
are the outcomes and the task that is still active, so that no call is answered twice or left
open when its task has ended, and no outcome comes unasked.
-/

namespace QMon.Device
open Rpc Run

inductive Task where
  | fwUpdate
  | espUpdate
  | bankErase
  deriving DecidableEq, Repr

namespace Task

def operation : Task → Operation
  | .fwUpdate => .transfer .fwUpdate
  | .espUpdate => .transfer .espUpdate
  | .bankErase => .bankErase

/-- a call that asks for the task -/
def asked : Task → Event → Nat
  | .fwUpdate, .call (.startFwUpdate _) => 1
  | .espUpdate, .call (.startEspUpdate _ _ _) => 1
  | .bankErase, .call .eraseInactiveBank => 1
  | _, _ => 0

/-- an outcome of the task -/
def outcome : Task → Out → Bool
  | .fwUpdate, .signal .fwUpdateComplete => true
  | .fwUpdate, .signal (.fwUpdateError _) => true
  | .espUpdate, .signal .espUpdateComplete => true
  | .espUpdate, .signal (.espUpdateError _) => true
  | .bankErase, .signal .bankEraseComplete => true
  | .bankErase, .signal (.bankEraseError _) => true
  | _, _ => false

def answers (t : Task) (out : List Out) : Nat := out.countP t.outcome

def pending (t : Task) (d : Dev) : Nat := if d.Active t.operation then 1 else 0

end Task

/-- from `d` to `d'` the outcomes and what is left open grow by `n` in all -/
def Balanced (t : Task) (n : Int) (d d' : Dev) : Prop :=
  (t.answers d'.out + t.pending d' : Int) = t.answers d.out + t.pending d + n

section
variable {t : Task} {n m : Int} {a b c d d' : Dev}

theorem Balanced.refl (d : Dev) : Balanced t 0 d d := (Int.add_zero _).symm

theorem Balanced.trans (h : Balanced t n a b) (h' : Balanced t m b c) :
    Balanced t (n + m) a c := by
  unfold Balanced at *
  omega

/-- a change that needs no answer, before another -/
theorem Balanced.after (h : Balanced t 0 a b) (h' : Balanced t n b c) : Balanced t n a c := by
  have h2 := h.trans h'
  rwa [Int.zero_add] at h2

/-! ## Pieces -/

theorem pending_of_ops (t : Task) (h : d'.ops = d.ops) : t.pending d' = t.pending d := by
  have hactive : d'.Active t.operation ↔ d.Active t.operation := by
    unfold Dev.Active Dev.get
    rw [h]
  unfold Task.pending
  simp only [hactive]

theorem Balanced.same (ho : d'.ops = d.ops) (hout : d'.out = d.out) : Balanced t 0 d d' := by
  unfold Balanced
  rw [pending_of_ops t ho, hout, Int.add_zero]

theorem answers_put (t : Task) (d : Dev) (o : Out) :
    t.answers (d.put o).out = t.answers d.out + if t.outcome o then 1 else 0 := by
  show List.countP _ (d.out ++ [o]) = _
  rw [List.countP_append, List.countP_singleton]
  rfl

/-- an outcome is one answer, any other output none -/
theorem Balanced.put (d : Dev) (o : Out) :
    Balanced t (if t.outcome o then 1 else 0) d (d.put o) := by
  unfold Balanced
  rw [answers_put, pending_of_ops t (d.put_ops o)]
  split <;> omega

theorem Balanced.plain (d : Dev) {o : Out} (h : t.outcome o = false) :
    Balanced t 0 d (d.put o) := by
  have hp := Balanced.put (t := t) d o
  rwa [h] at hp

theorem outcome_command {o : Out} (h : o.command? ≠ none) : t.outcome o = false := by
  cases o with
  | tx via f dialect => cases t <;> rfl
  | txRejected f => cases t <;> rfl
  | _ => exact absurd rfl h

theorem Balanced.send (d : Dev) (cmd : UInt8) (payload : List UInt8) :
    Balanced t 0 d (d.sendCommand cmd payload) := by
  obtain ⟨o, ho, -, h⟩ := d.sendCommand_eq cmd payload
  rw [h]
  exact Balanced.after (b := { d with seqCounter := d.seqCounter + 1 }) (.same rfl rfl)
    (.plain _ (outcome_command (by rw [ho]; exact Option.some_ne_none _)))

theorem active_setTransfer (k : Kind) (tr : Transfer) (d : Dev) (o : Operation) :
    (d.setTransfer k tr).Active o ↔
      if o = .transfer k then tr.state ≠ .Idle else d.Active o := by
  cases o with
  | transfer k' =>
    unfold Dev.Active
    dsimp only
    rw [Dev.get_setTransfer]
    by_cases hk : k' = k
    · rw [if_pos hk, if_pos (congrArg _ hk)]
    · rw [if_neg hk, if_neg fun h => hk (Operation.transfer.inj h)]
  | bankErase =>
    rw [if_neg Operation.noConfusion]
    cases k <;> exact Iff.rfl

/-- the state of another operation's transfer does not count -/
theorem Balanced.set_other {k : Kind} (h : t.operation ≠ .transfer k) (tr : Transfer) (d : Dev) :
    Balanced t 0 d (d.setTransfer k tr) := by
  have hactive : (d.setTransfer k tr).Active t.operation ↔ d.Active t.operation := by
    rw [active_setTransfer, if_neg h]
  show (t.answers d.out + t.pending (d.setTransfer k tr) : Int) = _
  unfold Task.pending
  simp only [hactive, Int.add_zero]

/-- the counts of a transfer's own state -/
theorem pending_setTransfer {k : Kind} (h : t.operation = .transfer k) (tr : Transfer) (d : Dev) :
    t.pending (d.setTransfer k tr) = if tr.state ≠ .Idle then 1 else 0 := by
  unfold Task.pending
  simp only [active_setTransfer, h, if_true]

theorem pending_transfer {k : Kind} (h : t.operation = .transfer k) (d : Dev) :
    t.pending d = if (d.get k).state ≠ .Idle then 1 else 0 := by
  unfold Task.pending
  simp only [h]
  rfl

/-- a transfer that stays as active as it was -/
theorem Balanced.set {k : Kind} {tr : Transfer} {d : Dev}
    (h : tr.state ≠ .Idle ↔ (d.get k).state ≠ .Idle) : Balanced t 0 d (d.setTransfer k tr) := by
  by_cases ho : t.operation = .transfer k
  · show (t.answers d.out + t.pending (d.setTransfer k tr) : Int) = _
    rw [pending_setTransfer ho, pending_transfer ho, Int.add_zero]
    simp only [h]
  · exact .set_other ho tr d

/-- one that becomes active needs an answer -/
theorem Balanced.opened {k : Kind} {tr : Transfer} {d : Dev} (h : tr.state ≠ .Idle)
    (before : (d.get k).state = .Idle) :
    Balanced t (if t.operation = .transfer k then 1 else 0) d (d.setTransfer k tr) := by
  by_cases ho : t.operation = .transfer k
  · show (t.answers d.out + t.pending (d.setTransfer k tr) : Int) = _
    rw [pending_setTransfer ho, pending_transfer ho, if_pos h, if_neg (not_not.mpr before),
      if_pos ho]
    omega
  · rw [if_neg ho]
    exact .set_other ho tr d

/-- one that ends has had its answer, or gets it -/
theorem Balanced.closed {k : Kind} {tr : Transfer} {d : Dev} (h : tr.state = .Idle)
    (before : (d.get k).state ≠ .Idle) :
    Balanced t (if t.operation = .transfer k then -1 else 0) d (d.setTransfer k tr) := by
  by_cases ho : t.operation = .transfer k
  · show (t.answers d.out + t.pending (d.setTransfer k tr) : Int) = _
    rw [pending_setTransfer ho, pending_transfer ho, if_neg (not_not.mpr h), if_pos before,
      if_pos ho]
    omega
  · rw [if_neg ho]
    exact .set_other ho tr d

/-- the outcome signals of a transfer are those of its task -/
theorem outcome_error (k : Kind) (message : String) :
    t.outcome (.signal (k.error message)) = decide (t.operation = .transfer k) := by
  cases t <;> cases k <;> rfl

theorem outcome_complete (k : Kind) :
    t.outcome (.signal k.complete) = decide (t.operation = .transfer k) := by
  cases t <;> cases k <;> rfl

theorem Balanced.outcome {k : Kind} {s : Signal}
    (h : t.outcome (.signal s) = decide (t.operation = .transfer k)) (d : Dev) :
    Balanced t (if t.operation = .transfer k then 1 else 0) d (d.emit s) := by
  have hp := Balanced.put (t := t) d (.signal s)
  rw [h] at hp
  simp only [decide_eq_true_eq] at hp
  exact hp

/-- **A transfer ends with one outcome.** -/
theorem Balanced.ended {k : Kind} {s : Signal} {d d' : Dev}
    (h : t.outcome (.signal s) = decide (t.operation = .transfer k))
    (before : (d.get k).state ≠ .Idle) (h' : Balanced t 0 (d.endTransfer k) d') :
    Balanced t 0 d (d'.emit s) := by
  have hclose : Balanced t _ d (d.endTransfer k) := .closed rfl before
  have hall := (hclose.trans h').trans (.outcome h d')
  have hsum : (if t.operation = .transfer k then -1 else 0 : Int) + 0
      + (if t.operation = .transfer k then 1 else 0) = 0 := by
    split <;> rfl
  rwa [hsum] at hall

theorem Balanced.resume (d : Dev) : Balanced t 0 d d.resumeKeepaliveIfIdle :=
  .same d.resumeKeepaliveIfIdle_ops d.resumeKeepaliveIfIdle_out

theorem Balanced.suspend (d : Dev) : Balanced t 0 d d.suspendKeepalive :=
  .same d.suspendKeepalive_ops d.suspendKeepalive_out

theorem outcome_plain {o : Out} (h : o.isPlain = true) : t.outcome o = false := by
  cases o with
  | signal s => cases s <;> first | (cases t <;> rfl) | exact absurd h Bool.false_ne_true
  | _ => cases t <;> rfl

theorem outcome_progress {s : Signal} (h : s.isProgress = true) :
    t.outcome (.signal s) = false := by
  cases s <;> first | (cases t <;> rfl) | exact absurd h Bool.false_ne_true

theorem Balanced.emitAll {l : List Signal} (h : ∀ s ∈ l, s.isProgress = true) (d : Dev) :
    Balanced t 0 d (d.emitAll l) := by
  induction l generalizing d with
  | nil => exact .refl d
  | cons s l ih =>
    have hs := Balanced.plain d (outcome_progress (t := t) (h s List.mem_cons_self))
    exact hs.after (ih (fun s' hm => h s' (List.mem_cons_of_mem s hm)) _)

/-- the fields of the operations that no task looks at -/
theorem Balanced.update (hget : ∀ k, d'.get k = d.get k)
    (herase : d'.ops.bankErasePending = d.ops.bankErasePending) (hout : d'.out = d.out) :
    Balanced t 0 d d' := by
  have hactive : d'.Active t.operation ↔ d.Active t.operation := by
    unfold Dev.Active
    cases t.operation with
    | transfer k =>
      dsimp only
      rw [hget]
    | bankErase =>
      dsimp only
      rw [herase]
  unfold Balanced Task.pending
  simp only [hactive, hout, Int.add_zero]

/-! ## Transfers -/

theorem setTransfer_setTransfer (k : Kind) (tr tr' : Transfer) (d : Dev) :
    (d.setTransfer k tr).setTransfer k tr' = d.setTransfer k tr' := by
  cases k <;> rfl

/-- **A start is refused with an error or leaves a transfer to be answered.** -/
theorem StartBranch.balanced {k : Kind} {path : String} (h : StartBranch k path d d') :
    Balanced t (if t.operation = .transfer k then 1 else 0) d d' := by
  have address (flashAddr : UInt32) : Balanced t 0 d (d.setFlashAddr flashAddr) :=
    .update (setFlashAddr_calm flashAddr d).get rfl rfl
  have hget (flashAddr : UInt32) : (d.setFlashAddr flashAddr).get k = d.get k :=
    (setFlashAddr_calm flashAddr d).get k
  cases h with
  | refused message busy => exact .outcome (outcome_error k message) d
  | rejected flashAddr data tr message idle read after empty =>
    refine ((address flashAddr).after (.set ?_)).after (.outcome (outcome_error k message) _)
    rw [hget, after, idle]
  | started flashAddr data payload tr status idle alone read size image progress =>
    have sent : Balanced t (if t.operation = .transfer k then 1 else 0) (d.setFlashAddr flashAddr)
        (((d.setFlashAddr flashAddr).setTransfer k tr).sendStart k payload) := by
      unfold Dev.sendStart
      rw [setTransfer_setTransfer]
      have opened : Balanced t _ (d.setFlashAddr flashAddr) ((d.setFlashAddr flashAddr).setTransfer
          k { ((d.setFlashAddr flashAddr).setTransfer k tr).get k with
            offset := 0, state := .WaitingStartAck, timeout := some k.machine.startMs }) :=
        .opened TransferState.noConfusion (by rw [hget]; exact idle)
      have rest := (opened.trans (.same (Dev.suspendKeepalive_ops _)
        (Dev.suspendKeepalive_out _))).trans (.send _ k.machine.cmdStart payload)
      rwa [Int.add_zero, Int.add_zero] at rest
    have all := ((address flashAddr).after sent).trans (.emitAll progress _)
    rwa [Int.add_zero] at all

theorem answers_chunkClosed (k : Kind) :
    ChunkClosed k (fun d d' => t.answers d'.out = t.answers d.out) where
  refl _ := rfl
  trans h h' := h'.trans h
  set _ _ _ := rfl
  emit d s hs := by
    show t.answers (d.put _).out = _
    rw [answers_put, outcome_progress hs]
    rfl
  send d cmd payload _ _ := by
    obtain ⟨o, ho, -, h⟩ := d.sendCommand_eq cmd payload
    rw [h, answers_put, outcome_command (by rw [ho]; exact Option.some_ne_none _)]
    rfl

theorem Balanced.ackChunk (k : Kind) {status : List Signal}
    (hs : ∀ s ∈ status, s.isProgress = true) (before : (d.get k).state ≠ .Idle) :
    Balanced t 0 d (d.ackChunk k status) := by
  have hnext : ((d.get k).next k).state ≠ .Idle := by
    unfold Transfer.next
    split <;> exact TransferState.noConfusion
  have hset : Balanced t 0 d (d.setTransfer k ((d.get k).next k)) :=
    .set (iff_of_true hnext before)
  have hops : (d.ackChunk k status).ops = (d.setTransfer k ((d.get k).next k)).ops :=
    ackChunk_ops k status d
  unfold Balanced at hset ⊢
  rw [pending_of_ops t hops, (answers_chunkClosed k).ackChunk hs d]
  exact hset

/-! ## Banks -/

/-- the flag of the bank erase -/
theorem pending_erase (h : t.operation = .bankErase) (d : Dev) :
    t.pending d = if d.ops.bankErasePending then 1 else 0 := by
  unfold Task.pending
  simp only [h]
  rfl

theorem outcome_erase {s : Signal} (hs : s = .bankEraseComplete ∨ ∃ message,
    s = .bankEraseError message) : t.outcome (.signal s) = decide (t.operation = .bankErase) := by
  obtain rfl | ⟨message, rfl⟩ := hs <;> cases t <;> rfl

/-- an answer to the bank erase, which is pending before and not after -/
theorem Balanced.erased {s : Signal} (hs : s = .bankEraseComplete ∨ ∃ message,
    s = .bankEraseError message) (before : d.ops.bankErasePending = true) :
    Balanced t 0 d (Dev.emit (Dev.resumeKeepaliveIfIdle
      { d with ops := { d.ops with bankErasePending := false } }) s) := by
  let d1 : Dev := { d with ops := { d.ops with bankErasePending := false } }
  have hput := Balanced.put (t := t) d1.resumeKeepaliveIfIdle (.signal s)
  rw [outcome_erase hs] at hput
  have hrest := (Balanced.resume d1).after hput
  have hget (k : Kind) : d1.get k = d.get k := by cases k <;> rfl
  unfold Balanced at hrest ⊢
  refine hrest.trans ?_
  show (t.answers d.out + t.pending d1 : Int) + _ = _
  cases ho : t.operation with
  | transfer k =>
    rw [pending_transfer ho, pending_transfer ho, hget]
    simp
  | bankErase =>
    rw [pending_erase ho, pending_erase ho, before]
    simp

theorem eraseInactiveBank_balanced (d : Dev) :
    Balanced t (if t.operation = .bankErase then 1 else 0) d d.eraseInactiveBank := by
  let d1 : Dev := { d with ops := { d.ops with bankErasePending := true } }
  unfold Dev.eraseInactiveBank
  generalize hn : (if t.operation = .bankErase then 1 else 0 : Int) = n
  split
  · have hput := Balanced.put (t := t) d (.signal
      (.bankEraseError "Cannot erase a bank while another transfer is in progress"))
    rw [outcome_erase (.inr ⟨_, rfl⟩)] at hput
    simp only [decide_eq_true_eq, hn] at hput
    exact hput
  · rename_i hothers
    push Not at hothers
    have hget (k : Kind) : d1.get k = d.get k := by cases k <;> rfl
    have hrest := (Balanced.suspend (t := t) d1).after (.send _ CMD_FW_BANK_ERASE [])
    unfold Balanced at hrest ⊢
    refine hrest.trans ?_
    show (t.answers d.out + t.pending d1 : Int) + 0 = _
    rw [← hn]
    cases ho : t.operation with
    | transfer k =>
      rw [pending_transfer ho, pending_transfer ho, hget]
      simp
    | bankErase =>
      have hoff : d.ops.bankErasePending = false := by simpa using hothers.2.2.2
      rw [pending_erase ho d1, pending_erase ho d, hoff]
      simp [d1]

theorem swapBanks_balanced (d : Dev) : Balanced t 0 d d.swapBanks := by
  unfold Dev.swapBanks
  refine Balanced.after (.update (fun k => ?_) rfl rfl) (.send _ CMD_FW_BANK_SWAP [])
  cases k <;> rfl

/-! ## Files -/

/-- the queues are no field of a task -/
theorem Balanced.queues (d : Dev) (uq : List UploadQueueItem) (ui : Int) (mq : List String)
    (mi : Int) : Balanced t 0 d { d with ops := { d.ops with
      uploadQueue := uq, uploadQueueIndex := ui, mkdirQueue := mq, mkdirQueueIndex := mi } } :=
  .update (Calm.queues d uq ui mq mi).get rfl rfl

theorem uploadFile_balanced (localPath remotePath : String) (d : Dev) :
    Balanced t 0 d (d.uploadFile localPath remotePath) := by
  have hb := (uploadFile_branch localPath d remotePath).balanced (t := t)
  have hne : t.operation ≠ .transfer .fileUpload := by cases t <;> decide
  rwa [if_neg hne] at hb

theorem fileCommand_balanced (cmd : UInt8) (payload : List UInt8) (d : Dev) :
    Balanced t 0 d (d.fileCommand cmd payload) := by
  unfold Dev.fileCommand
  refine Balanced.after (.update (fun k => ?_) rfl rfl) (.send _ cmd payload)
  cases k <;> rfl

theorem uploadItem_balanced (index : Int) (item : UploadQueueItem) (d : Dev) :
    Balanced t 0 d (d.uploadItem index item) := by
  unfold Dev.uploadItem
  refine Balanced.after ?_ (uploadFile_balanced _ _ _)
  refine Balanced.after ?_ (.plain _ (outcome_plain rfl))
  exact .queues d d.ops.uploadQueue index d.ops.mkdirQueue d.ops.mkdirQueueIndex

theorem startUploadQueue_balanced (d : Dev) : Balanced t 0 d d.startUploadQueue := by
  unfold Dev.startUploadQueue
  split
  · exact .plain d (outcome_plain rfl)
  · exact uploadItem_balanced 0 _ d

theorem advanceUploadQueue_balanced (d : Dev) : Balanced t 0 d d.advanceUploadQueue := by
  unfold Dev.advanceUploadQueue
  dsimp only
  split
  · exact Balanced.after (.queues d [] (-1) d.ops.mkdirQueue d.ops.mkdirQueueIndex)
      (.plain _ (outcome_plain rfl))
  · exact uploadItem_balanced _ _ d

theorem advanceMkdirQueue_balanced (d : Dev) : Balanced t 0 d d.advanceMkdirQueue := by
  have cleared := Balanced.queues (t := t) d d.ops.uploadQueue d.ops.uploadQueueIndex [] (-1)
  unfold Dev.advanceMkdirQueue
  dsimp only
  split
  · split
    · exact cleared.after (startUploadQueue_balanced _)
    · exact cleared.after (.plain _ (outcome_plain rfl))
  · exact Balanced.after (.queues d d.ops.uploadQueue d.ops.uploadQueueIndex d.ops.mkdirQueue _)
      (fileCommand_balanced _ _ _)

theorem uploadFiles_balanced (fileUrls : List String) (remotePath : String) (d : Dev) :
    Balanced t 0 d (d.uploadFiles fileUrls remotePath) := by
  unfold Dev.uploadFiles
  split
  · exact .plain d (outcome_plain rfl)
  · dsimp only
    split
    · exact Balanced.after (.queues d _ d.ops.uploadQueueIndex [] (-1))
        (.plain _ (outcome_plain rfl))
    · exact Balanced.after (.queues d _ d.ops.uploadQueueIndex [] (-1))
        (startUploadQueue_balanced _)

theorem uploadFolder_balanced (localFolderUrl remotePath : String) (d : Dev) :
    Balanced t 0 d (d.uploadFolder localFolderUrl remotePath) := by
  unfold Dev.uploadFolder
  split
  · exact .plain d (outcome_plain rfl)
  · dsimp only
    split
    · exact .plain d (outcome_plain rfl)
    · split
      · split
        · exact Balanced.after (.queues d _ d.ops.uploadQueueIndex _ d.ops.mkdirQueueIndex)
            (.plain _ (outcome_plain rfl))
        · refine Balanced.after ?_ (startUploadQueue_balanced _)
          exact .queues d _ d.ops.uploadQueueIndex _ d.ops.mkdirQueueIndex
      · refine Balanced.after ?_ (fileCommand_balanced _ _ _)
        exact Balanced.after (.queues d _ d.ops.uploadQueueIndex _ 0) (.plain _ (outcome_plain rfl))

/-! ## Replies -/

/-- a file command no longer waits, then something plain is put out -/
theorem ackFileCommand_balanced (d : Dev) : Balanced t 0 d d.ackFileCommand := by
  have answered (o : Operations) (hget : ∀ k, o.get k = d.ops.get k)
      (he : o.bankErasePending = d.ops.bankErasePending) : Balanced t 0 d { d with ops := o } :=
    .update hget he rfl
  have cleared : Balanced t 0 d d.clearPending := answered _ (fun k => by cases k <;> rfl) rfl
  have branch := ackFileCommand_branch d
  generalize d.ackFileCommand = d' at branch
  cases branch with
  | deleted pending => exact cleared.after (.plain _ (outcome_plain rfl))
  | renamed pending => exact cleared.after (.plain _ (outcome_plain rfl))
  | madeDirectory pending queue => exact cleared.after (.plain _ (outcome_plain rfl))
  | nextDirectory pending queue => exact cleared.after (advanceMkdirQueue_balanced _)
  | mounted on pending =>
    exact (answered _ (fun k => by cases k <;> rfl) rfl).after (.plain _ (outcome_plain rfl))
  | late pending => exact answered _ (fun k => by cases k <;> rfl) rfl

theorem handleAck_balanced (d : Dev) : Balanced t 0 d d.handleAck := by
  have branch := handleAck_branch d
  generalize d.handleAck = d' at branch
  cases branch with
  | bankErase pending => exact .erased (.inl rfl) pending
  | bankSwap pending =>
    have planned {d1 : Dev} (h : Balanced t 0 d d1) : Balanced t 0 d (d1.startShot .closeLink) :=
      h.after (.same rfl rfl)
    refine planned (Balanced.after (.update (fun k => ?_) rfl rfl) (.plain _ (outcome_plain rfl)))
    cases k <;> rfl
  | chunk k status mine before progress =>
    refine .ackChunk k progress ?_
    rcases before with h | h <;> rw [h] <;> exact TransferState.noConfusion
  | finished k mine before =>
    refine .ended (outcome_complete k) ?_ (.resume _)
    rw [before]
    exact TransferState.noConfusion
  | nextFile mine before queue =>
    have hne : t.operation ≠ .transfer .fileUpload := by cases t <;> decide
    exact Balanced.after (.set_other hne _ d) (advanceUploadQueue_balanced _)
  | fileCommand mine idle => exact ackFileCommand_balanced d

theorem handleNack_balanced (payload : List UInt8) (d : Dev) :
    Balanced t 0 d (d.handleNack payload) := by
  have branch := handleNack_branch payload d
  generalize d.handleNack payload = d' at branch
  cases branch with
  | bankErase pending => exact .erased (.inr ⟨_, rfl⟩) pending
  | bankSwap pending =>
    refine Balanced.after (.update (fun k => ?_) rfl rfl) (.plain _ (outcome_plain rfl))
    cases k <;> rfl
  | update k hk before => exact .ended (outcome_error k _) before (.resume _)
  | upload mine before =>
    have hne : t.operation ≠ .transfer .fileUpload := by cases t <;> decide
    have closed : Balanced t 0 d (d.endTransfer .fileUpload).resumeKeepaliveIfIdle :=
      Balanced.after (.set_other hne _ d) (.resume _)
    exact (closed.after (.queues _ [] (-1) [] (-1))).after (.plain _ (outcome_plain rfl))
  | late mine idle stale =>
    refine .update (fun k => ?_) rfl rfl
    cases k <;> rfl
  | fileCommand mine idle stale =>
    refine Balanced.after (.update (fun k => ?_) rfl rfl) (.plain _ (outcome_plain rfl))
    cases k <;> rfl

theorem onTransferTimeout_balanced (k : Kind) (d : Dev) :
    Balanced t 0 d (d.onTransferTimeout k) := by
  have branch := onTransferTimeout_branch k d
  generalize d.onTransferTimeout k = d' at branch
  cases branch with
  | idle before => exact .set Iff.rfl
  | ended message hk before => exact .ended (outcome_error k message) before (.resume _)
  | cleanup message hk before d1 sent =>
    have hstop : Balanced t 0 d (d.stopTimeout k) := .set Iff.rfl
    have hsend : Balanced t 0 d d1 := sent ▸ hstop.after (.send _ CMD_ESP_UPDATE_FINISH [])
    have before1 : (d1.get k).state ≠ .Idle := by
      have hget : d1.get k = { d.get k with timeout := none } := by
        rw [sent]
        unfold Dev.get
        rw [Dev.sendCommand_ops]
        exact (Dev.get_setTransfer d k k _).trans (if_pos rfl)
      rw [hget]
      exact before
    refine hsend.after (.ended (outcome_error k message) before1 ?_)
    refine Balanced.after (.update (fun k' => ?_) rfl rfl) (.resume _)
    cases k' <;> rfl

theorem noted_balanced (d : Dev) : Balanced t 0 d d.noted := by
  have latched {d1 : Dev} (h : Balanced t 0 d d1) : Balanced t 0 d d1.resolveDialect := by
    unfold Dev.resolveDialect
    split
    · refine h.after (Balanced.after ?_ (.send _ CMD_GET_DEVICE_INFO []))
      refine Balanced.after ?_ (.plain _ (outcome_plain rfl))
      split
      · exact Balanced.after (.same rfl rfl) (.plain _ (outcome_plain rfl))
      · exact .same rfl rfl
    · exact h
  exact latched (.same rfl rfl)

theorem onFrameReceived_balanced (f : Frame) (d : Dev) : Balanced t 0 d (d.onFrameReceived f) := by
  have branch := onFrameReceived_branch f d
  generalize d.onFrameReceived f = d' at branch
  have noted := noted_balanced (t := t) d
  cases branch with
  | ack hf => exact noted.after (handleAck_balanced _)
  | nack hf => exact noted.after (handleNack_balanced _ _)
  | pong hf =>
    exact noted.after (Balanced.after (.same rfl rfl) (.plain _ (outcome_plain rfl)))
  | deviceInfo hf =>
    refine noted.after ?_
    unfold Dev.handleDeviceInfoResp
    split
    · exact .refl _
    · exact Balanced.after (.same rfl rfl) (.plain _ (outcome_plain rfl))
  | fileData hf =>
    refine noted.after ?_
    unfold Dev.handleFileReadData
    split
    · exact .refl _
    · dsimp only
      split
      · split
        · exact Balanced.after (.same rfl rfl)
            (Balanced.after (.plain _ (outcome_plain rfl)) (.plain _ (outcome_plain rfl)))
        · exact Balanced.after (.same rfl rfl) (.plain _ (outcome_plain rfl))
      · exact .same rfl rfl
  | report ha hn => exact noted

/-! ## The link -/

theorem dropTransfer_balanced (k : Kind) (err : String) (d : Dev) :
    Balanced t 0 d (d.dropTransfer k (k.error err)) := by
  unfold Dev.dropTransfer
  split
  · rename_i before
    exact .ended (outcome_error k err) before (.refl _)
  · exact .set Iff.rfl

/-- the loss of the link answers the transfers it ends -/
theorem dropSession_balanced (d : Dev) : Balanced t 0 d d.dropSession := by
  let d1 : Dev := { d.resetCodec with
    keep := { d.keep with suspended := false, pingTimer := none }
    deviceInfo := {}
    screen := { d.screen with streaming := false }
    ops := { d.ops with bankSwapPending := false } }
  let d2 := d1.dropTransfer .fwUpdate
    (Kind.fwUpdate.error "Device disconnected during firmware update")
  let d3 : Dev := { d2 with ops := { d2.ops with espUpdateStaleNack := false } }
  let d4 := d3.dropTransfer .espUpdate
    (Kind.espUpdate.error "Device disconnected during ESP32 update")
  let d5 := d4.dropTransfer .fileUpload
    (Kind.fileUpload.error "Device disconnected during file upload")
  let d6 : Dev := { d5 with ops := { d5.ops with
    uploadQueue := [], uploadQueueIndex := -1, mkdirQueue := [], mkdirQueueIndex := -1
    sdMounted := true } }
  have h1 : Balanced t 0 d d1 := .update (fun k => by cases k <;> rfl) rfl rfl
  have h2 : Balanced t 0 d d2 := h1.after (dropTransfer_balanced _ _ _)
  have h3 : Balanced t 0 d d3 := h2.after (.update (fun k => by cases k <;> rfl) rfl rfl)
  have h4 : Balanced t 0 d d4 := h3.after (dropTransfer_balanced _ _ _)
  have h5 : Balanced t 0 d d5 := h4.after (dropTransfer_balanced _ _ _)
  have h6 : Balanced t 0 d d6 := h5.after (.update (fun k => by cases k <;> rfl) rfl rfl)
  exact h6.after (.plain d6 (outcome_plain rfl))

theorem startSession_balanced (d : Dev) : Balanced t 0 d d.startSession := by
  have planned {d1 : Dev} (h : Balanced t 0 d d1) (k : Keepalive) :
      Balanced t 0 d { d1.startShot .requestDeviceInfo with keep := k } := h.after (.same rfl rfl)
  unfold Dev.startSession
  refine planned (Balanced.after (Balanced.after ?_ (.send _ CMD_PING []))
    (.send _ CMD_SET_LOG_LEVEL _)) _
  exact .same rfl rfl

theorem balanced_linkPieces (t : Task) : LinkPieces (Balanced t 0) where
  refl := .refl
  trans := .after
  same ho _ hout := .same ho hout
  put d _ ho := .plain d (outcome_plain ho)
  send := .send

theorem balanced_linkWork (t : Task) : LinkWork (Balanced t 0) :=
  (balanced_linkPieces t).work startSession_balanced dropSession_balanced

/-! ## Steps and runs -/

/-- a call is answered at once, or leaves its task open -/
theorem call_balanced (c : Call) (d : Dev) : Balanced t (t.asked (.call c)) d (d.call c) := by
  have h := balanced_linkWork t
  have free {d' : Dev} (hb : Balanced t 0 d d') (ha : t.asked (.call c) = 0) :
      Balanced t (t.asked (.call c)) d d' := by
    rw [ha]
    exact hb
  have shot {d' : Dev} (hb : Balanced t 0 d d') (s : Shot) : Balanced t 0 d (d'.startShot s) :=
    hb.after (.same rfl rfl)
  cases c with
  | connectToDevice p => exact free (h.connect p d) (by cases t <;> rfl)
  | connectToDeviceWifi hp => exact free (h.connectToDeviceWifi hp d) (by cases t <;> rfl)
  | disconnect => exact free (h.disconnect (fun _ => .same rfl rfl) d) (by cases t <;> rfl)
  | setPreferredSerialPort p => exact free (h.setPreferredSerialPort p d) (by cases t <;> rfl)
  | setDeviceLogVerbose on => exact free (h.setDeviceLogVerbose on d) (by cases t <;> rfl)
  | startScreenStream fps => exact free (h.startScreenStream fps d) (by cases t <;> rfl)
  | stopScreenStream => exact free (h.stopScreenStream d) (by cases t <;> rfl)
  | uploadFile l r => exact free (uploadFile_balanced l r d) (by cases t <;> rfl)
  | uploadFiles us r => exact free (uploadFiles_balanced us r d) (by cases t <;> rfl)
  | uploadFolder u r => exact free (uploadFolder_balanced u r d) (by cases t <;> rfl)
  | deleteFile r => exact free (fileCommand_balanced _ _ d) (by cases t <;> rfl)
  | deleteTree r => exact free (fileCommand_balanced _ _ d) (by cases t <;> rfl)
  | renameFile o n => exact free (fileCommand_balanced _ _ d) (by cases t <;> rfl)
  | makeDirectory r => exact free (fileCommand_balanced _ _ d) (by cases t <;> rfl)
  | mountSdCard => exact free (fileCommand_balanced _ _ d) (by cases t <;> rfl)
  | unmountSdCard => exact free (fileCommand_balanced _ _ d) (by cases t <;> rfl)
  | swapBanks => exact free (swapBanks_balanced d) (by cases t <;> rfl)
  | startFwUpdate p =>
    have hb := (startFwUpdate_branch p d).balanced (t := t)
    cases t <;> exact hb
  | startEspUpdate p addr force =>
    have hb := (startEspUpdate_branch p d addr force).balanced (t := t)
    cases t <;> exact hb
  | eraseInactiveBank =>
    have hb := eraseInactiveBank_balanced (t := t) d
    cases t <;> exact hb
  | downloadFile r l =>
    refine free (Balanced.after ?_ (.send _ CMD_FILE_READ _)) (by cases t <;> rfl)
    exact .same rfl rfl
  | reboot => exact free (shot (.send d _ _) _) (by cases t <;> rfl)
  | initEsp32 => exact free (shot (.send d _ _) _) (by cases t <;> rfl)
  | rebootEsp32 => exact free (shot (.send d _ _) _) (by cases t <;> rfl)
  -- the other calls only send a command
  | _ => exact free (.send d _ _) (by cases t <;> rfl)

theorem handle_balanced (e : Event) (d : Dev) : Balanced t (t.asked e) d (d.handle e) := by
  have free {e : Event} (hb : Balanced t 0 d (d.handle e)) (ha : t.asked e = 0) :
      Balanced t (t.asked e) d (d.handle e) := by
    rw [ha]
    exact hb
  have link {e : Event} (he : e.OfLink) : Balanced t (t.asked e) d (d.handle e) := by
    refine free ((balanced_linkWork t).handle e he d) ?_
    cases e <;> first | exact he.elim | (cases t <;> rfl)
  cases e with
  | call c => exact call_balanced c d
  | frame f dialect =>
    refine free ?_ (by cases t <;> rfl)
    unfold Dev.handle
    dsimp only
    split
    · refine Balanced.after ?_ (onFrameReceived_balanced f _)
      exact .same rfl rfl
    · exact .refl d
  | expire timer =>
    cases timer with
    | transfer k =>
      refine free ?_ (by cases t <;> rfl)
      show Balanced t 0 d (d.expire (.transfer k))
      unfold Dev.expire
      split
      · exact .refl d
      · exact onTransferTimeout_balanced k d
    | _ => exact link trivial
  | _ => exact link trivial

end

/-- **A step puts out the outcomes it has to.** -/
theorem balanced_step (t : Task) (e : Event) (d : Dev) :
    t.answers (step e d).out + t.pending (step e d) = t.asked e + t.pending d := by
  have h := handle_balanced (t := t) e d.fresh
  have h0 : t.answers d.fresh.out = 0 := rfl
  have hp : t.pending d.fresh = t.pending d := pending_of_ops t rfl
  unfold Balanced at h
  rw [h0, hp] at h
  show t.answers (d.fresh.handle e).out + t.pending (d.fresh.handle e) = _
  omega

/-- **Every request is answered once.**  Over any run of the device object, the calls that ask
for the task are as many as its outcomes and the task that is still active. -/
theorem ledger (t : Task) (es : List Event) :
    total step (fun e d => t.answers (step e d).out) es init
      + t.pending (exec step es init) = total step (fun e _ => t.asked e) es init := by
  have h0 : t.pending init = 0 := by cases t <;> rfl
  have h := total_balance step (balanced_step t) es init
  rwa [h0, Nat.add_zero] at h

end QMon.Device
