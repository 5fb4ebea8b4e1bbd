import QMonstatek.Device.Branch

/-!
# The handlers, one by one

For every function of the operations and of the replies: which `Change` it makes.  The step
theorem `worked_step` collects them.
-/

namespace QMon.Device
open Rpc

variable {e : Event}

/-! ## Pieces of a transfer -/

theorem Calm.only (k : Kind) {d d' : Dev} (h : Calm d d') : Only k d d' :=
  ⟨fun k' _ => h.get k', h.erase, h.swap, h.pending, [], by simp [h.sent], by simp⟩

theorem Only.trans {k : Kind} {a b c : Dev} (h : Only k a b) (h' : Only k b c) : Only k a c := by
  obtain ⟨w, hw, ho⟩ := h.sent
  obtain ⟨w', hw', ho'⟩ := h'.sent
  refine ⟨fun k' hk => (h'.get k' hk).trans (h.get k' hk), h'.erase.trans h.erase,
    h'.swap.trans h.swap, h'.pending.trans h.pending, w ++ w', ?_, fun c hc => ?_⟩
  · rw [hw', hw, List.append_assoc]
  · rcases List.mem_append.mp hc with h | h
    · exact ho c h
    · exact ho' c h

theorem Only.setTransfer (k : Kind) (t : Transfer) (d : Dev) : Only k d (d.setTransfer k t) := by
  refine ⟨fun k' hk => by rw [Dev.get_setTransfer, if_neg hk], ?_, ?_, ?_, [], by simp, by simp⟩
  all_goals cases k <;> rfl

theorem Only.send {k : Kind} {cmd : UInt8} (h : k.owns cmd = true) (hm : cmd ∈ opCommands)
    (payload : List UInt8) (d : Dev) : Only k d (d.sendCommand cmd payload) := by
  refine ⟨fun k' _ => by unfold Dev.get; rw [Dev.sendCommand_ops], by simp, by simp, by simp,
    [(cmd, payload)], by rw [Dev.opSent_sendCommand, if_pos hm], ?_⟩
  intro c hc
  rw [List.mem_singleton.mp hc]
  exact h

theorem suspendKeepalive_calm (d : Dev) : Calm d d.suspendKeepalive :=
  Quiet.calm (by constructor <;> simp)

theorem resumeKeepaliveIfIdle_calm (d : Dev) : Calm d d.resumeKeepaliveIfIdle :=
  Quiet.calm (by constructor <;> simp)

theorem emitAll_calm {l : List Signal} (hl : ∀ s ∈ l, s.isProgress = true) (d : Dev) :
    Calm d (d.emitAll l) := by
  induction l generalizing d with
  | nil => exact .refl d
  | cons s l ih =>
    exact Calm.trans (.emit d (isProgress_report (hl s List.mem_cons_self)))
      (ih (fun s' hs => hl s' (List.mem_cons_of_mem s hs)) _)

/-! ## Starting -/

theorem sendStart_only (k : Kind) (payload : List UInt8) (d : Dev) :
    Only k d (d.sendStart k payload) := by
  unfold Dev.sendStart
  refine Only.trans (Only.trans ?_ ((suspendKeepalive_calm _).only k))
    (.send k.owns_cmdStart k.cmdStart_mem payload _)
  exact .setTransfer k _ d

theorem sendStart_ops (k : Kind) (payload : List UInt8) (d : Dev) :
    (d.sendStart k payload).ops = d.ops.set k { d.get k with
      offset := 0, state := .WaitingStartAck, timeout := some k.machine.startMs } := by
  unfold Dev.sendStart
  rw [Dev.sendCommand_ops, Dev.suspendKeepalive_ops]
  rfl

theorem sendStart_get (k : Kind) (payload : List UInt8) (d : Dev) :
    (d.sendStart k payload).get k = { d.get k with
      offset := 0, state := .WaitingStartAck, timeout := some k.machine.startMs } := by
  unfold Dev.get
  rw [sendStart_ops, Operations.get_set, if_pos rfl]
  rfl

theorem sendStart_sent (k : Kind) (payload : List UInt8) (d : Dev) :
    opSent (d.sendStart k payload).out = opSent d.out ++ [(k.machine.cmdStart, payload)] := by
  unfold Dev.sendStart
  simp

theorem sendStart_reports (k : Kind) (payload : List UInt8) (d : Dev) :
    reports (d.sendStart k payload).out = reports d.out := by
  unfold Dev.sendStart
  simp

theorem setFlashAddr_calm (flashAddr : UInt32) (d : Dev) : Calm d (d.setFlashAddr flashAddr) :=
  ⟨fun k => by cases k <;> rfl, rfl, rfl, rfl, rfl, rfl⟩

/-- the calls that start a transfer -/
theorem StartBranch.worked {k : Kind} {path : String} {d d' : Dev} (h : StartBranch k path d d')
    (cause : e.Starts k) (names : e.Names path) : Worked e d d' := by
  have stored (flashAddr : UInt32) (t : Transfer) :
      Only k d ((d.setFlashAddr flashAddr).setTransfer k t) :=
    ((setFlashAddr_calm flashAddr d).only k).trans (.setTransfer k t _)
  cases h with
  | refused message busy => exact (Calm.emit d (k.error_report message)).worked e
  | rejected flashAddr data t message idle read after empty =>
    refine Worked.then_calm ((stored flashAddr t).worked (.idle idle ?_ rfl) (.of_eq rfl))
      (.emit _ (k.error_report message))
    rw [Dev.get_setTransfer, if_pos rfl]
    exact after
  | started flashAddr data payload t status idle alone read size image progress =>
    have only := (stored flashAddr t).trans (sendStart_only k payload _)
    refine Worked.then_calm (only.worked ?_ (.of_eq ?_)) (emitAll_calm progress _)
    · refine .started data payload (.inl idle) cause alone (only.alone alone)
        ⟨path, names, read⟩ size ?_ ?_
      · obtain ⟨hdata, hsize⟩ := image
        rw [sendStart_get, Dev.get_setTransfer, if_pos rfl]
        unfold Transfer.fresh
        rw [← hsize, ← hdata]
      · have hw := sendStart_sent k payload ((d.setFlashAddr flashAddr).setTransfer k t)
        rw [kindSent_of k hw]
        simp [Kind.sent, Dev.setFlashAddr]
    · rw [sendStart_reports]
      rfl

theorem uploadFile_worked (localPath remotePath : String) (d : Dev) (hn : e.Names localPath) :
    Worked e d (d.uploadFile localPath remotePath) :=
  (uploadFile_branch localPath d remotePath).worked trivial hn

/-! ## Commands that set a flag -/

theorem kindSent_unowned {d d' : Dev} {cmd : UInt8} {payload : List UInt8}
    (ho : ∀ k : Kind, k.owns cmd = false) (h : opSent d'.out = opSent d.out ++ [(cmd, payload)])
    (k : Kind) : k.sent d'.out = k.sent d.out := by
  rw [kindSent_of k h]
  simp [ho k]

theorem fileCommand_worked {cmd : UInt8} (ho : ∀ k : Kind, k.owns cmd = false)
    (hm : cmd ∈ opCommands) (payload : List UInt8) (d : Dev) :
    Worked e d (d.fileCommand cmd payload) := by
  have hs : opSent (d.fileCommand cmd payload).out = opSent d.out ++ [(cmd, payload)] := by
    unfold Dev.fileCommand
    rw [Dev.opSent_sendCommand, if_pos hm]
  have hops := d.fileCommand_ops cmd payload
  refine ⟨fun k => .same ?_ (kindSent_unowned ho hs k), .same (by rw [hops]),
    fun hb => .inl (by rw [hops] at hb; exact hb), .inr (.inr ?_), .of_eq ?_⟩
  · unfold Dev.get
    rw [hops]
    cases k <;> rfl
  · rw [hops, hs]
    simp
  · unfold Dev.fileCommand
    rw [Dev.reports_sendCommand]

theorem makeDirectory_worked (remotePath : String) (d : Dev) :
    Worked e d (d.makeDirectory remotePath) :=
  fileCommand_worked (fun k => by cases k <;> decide) (by decide) _ d

theorem swapBanks_worked (d : Dev) : Worked e d d.swapBanks := by
  have hs : opSent d.swapBanks.out = opSent d.out ++ [(CMD_FW_BANK_SWAP, [])] := by
    unfold Dev.swapBanks
    rw [Dev.opSent_sendCommand, if_pos (by decide)]
  have hops : d.swapBanks.ops = { d.ops with bankSwapPending := true } := by
    unfold Dev.swapBanks
    rw [Dev.sendCommand_ops]
  refine ⟨fun k => .same ?_ (kindSent_unowned (fun k => by cases k <;> decide) hs k),
    .same (by rw [hops]), fun _ => .inr (by rw [hs]; simp), .inl (by rw [hops]),
    .of_eq ?_⟩
  · unfold Dev.get
    rw [hops]
    cases k <;> rfl
  · unfold Dev.swapBanks
    rw [Dev.reports_sendCommand]

theorem eraseInactiveBank_worked (d : Dev) :
    Worked (.call .eraseInactiveBank) d d.eraseInactiveBank := by
  unfold Dev.eraseInactiveBank
  split
  · exact (Calm.emit d rfl).worked _
  · rename_i hothers
    push Not at hothers
    obtain ⟨h1, h2, h3, h4⟩ := hothers
    have idle (k : Kind) : (d.get k).state = .Idle := by
      cases k with
      | fwUpdate => exact h2
      | espUpdate => exact h3
      | fileUpload => exact h1
    let d1 : Dev := { d with ops := { d.ops with bankErasePending := true } }
    have hs : opSent (d1.suspendKeepalive.sendCommand CMD_FW_BANK_ERASE []).out
        = opSent d.out ++ [(CMD_FW_BANK_ERASE, [])] := by
      rw [Dev.opSent_sendCommand, if_pos (by decide), Dev.suspendKeepalive_out]
    have hops : (d1.suspendKeepalive.sendCommand CMD_FW_BANK_ERASE []).ops
        = { d.ops with bankErasePending := true } := by
      rw [Dev.sendCommand_ops, Dev.suspendKeepalive_ops]
    have hget (k : Kind) :
        (d1.suspendKeepalive.sendCommand CMD_FW_BANK_ERASE []).get k = d.get k := by
      unfold Dev.get
      rw [hops]
      cases k <;> rfl
    refine ⟨fun k => .same (hget k) (kindSent_unowned (fun k => by cases k <;> decide) hs k),
      .started rfl (by simpa using h4) idle (fun k => by rw [hget]; exact idle k) ?_,
      fun hb => .inl (by rw [hops] at hb; exact hb), .inl (by rw [hops]), .of_eq ?_⟩
    · rw [hs]
      simp
    · rw [Dev.reports_sendCommand, Dev.suspendKeepalive_out]

/-! ## Queues -/

/-- the queues are no field of the machine -/
theorem Calm.queues (d : Dev) (uq : List UploadQueueItem) (ui : Int) (mq : List String)
    (mi : Int) : Calm d { d with ops := { d.ops with
      uploadQueue := uq, uploadQueueIndex := ui, mkdirQueue := mq, mkdirQueueIndex := mi } } :=
  ⟨fun k => by cases k <;> rfl, rfl, rfl, rfl, rfl, rfl⟩

section
variable (hn : ∀ path, e.Names path)
include hn

theorem uploadItem_worked (index : Int) (item : UploadQueueItem) (d : Dev) :
    Worked e d (d.uploadItem index item) := by
  unfold Dev.uploadItem
  refine Worked.after_calm ?_ ?_ (uploadFile_worked item.localPath item.remotePath _ (hn _))
  · exact (Calm.queues d d.ops.uploadQueue index d.ops.mkdirQueue d.ops.mkdirQueueIndex).trans
      (.emit _ rfl)
  · rfl

theorem startUploadQueue_worked (d : Dev) : Worked e d d.startUploadQueue := by
  unfold Dev.startUploadQueue
  split
  · exact (Calm.emit d rfl).worked e
  · exact uploadItem_worked hn 0 _ d

theorem advanceUploadQueue_worked (d : Dev) : Worked e d d.advanceUploadQueue := by
  unfold Dev.advanceUploadQueue
  dsimp only
  split
  · exact Calm.worked e ((Calm.queues d [] (-1) d.ops.mkdirQueue d.ops.mkdirQueueIndex).trans
      (.emit _ rfl))
  · exact uploadItem_worked hn _ _ d

theorem advanceMkdirQueue_worked (d : Dev) : Worked e d d.advanceMkdirQueue := by
  unfold Dev.advanceMkdirQueue
  dsimp only
  split
  · have q := Calm.queues d d.ops.uploadQueue d.ops.uploadQueueIndex [] (-1)
    split
    · exact Worked.after_calm q rfl (startUploadQueue_worked hn _)
    · exact Calm.worked e (q.trans (.emit _ rfl))
  · rename_i dir _
    exact Worked.after_calm (Calm.queues d d.ops.uploadQueue d.ops.uploadQueueIndex
      d.ops.mkdirQueue (d.ops.mkdirQueueIndex + 1)) rfl (makeDirectory_worked dir _)

theorem uploadFiles_worked (fileUrls : List String) (remotePath : String) (d : Dev) :
    Worked e d (d.uploadFiles fileUrls remotePath) := by
  unfold Dev.uploadFiles
  split
  · exact (Calm.emit d rfl).worked e
  · dsimp only
    split
    · exact Calm.worked e ((Calm.queues d _ d.ops.uploadQueueIndex [] (-1)).trans (.emit _ rfl))
    · exact Worked.after_calm (Calm.queues d _ d.ops.uploadQueueIndex [] (-1)) rfl
        (startUploadQueue_worked hn _)

theorem uploadFolder_worked (localFolderUrl remotePath : String) (d : Dev) :
    Worked e d (d.uploadFolder localFolderUrl remotePath) := by
  unfold Dev.uploadFolder
  split
  · exact (Calm.emit d rfl).worked e
  · dsimp only
    split
    · exact (Calm.emit d rfl).worked e
    · split
      · split
        · exact Calm.worked e ((Calm.queues d _ d.ops.uploadQueueIndex _
            d.ops.mkdirQueueIndex).trans (.emit _ rfl))
        · refine Worked.after_calm ?_ ?_ (startUploadQueue_worked hn _)
          · exact Calm.queues d _ d.ops.uploadQueueIndex _ d.ops.mkdirQueueIndex
          · rfl
      · rename_i dir _ _
        refine Worked.after_calm ?_ ?_ (makeDirectory_worked dir _)
        · exact (Calm.queues d _ d.ops.uploadQueueIndex _ 0).trans (.emit _ rfl)
        · rfl

end

/-! ## Replies -/

theorem only_chunkClosed (k : Kind) : ChunkClosed k (Only k) where
  refl d := (Calm.refl d).only k
  trans := Only.trans
  set d t _ := .setTransfer k t d
  emit d _ hs := (Calm.emit d (isProgress_report hs)).only k
  send d _ payload hown hop := .send hown hop payload d

theorem reports_chunkClosed (k : Kind) :
    ChunkClosed k (fun d d' => reports d'.out = reports d.out) where
  refl _ := rfl
  trans h h' := h'.trans h
  set _ _ _ := rfl
  emit d _ hs := (Calm.emit d (isProgress_report hs)).reports
  send d cmd payload _ _ := d.reports_sendCommand cmd payload

/-- the ACK of a chunk works on its transfer alone -/
theorem ackChunk_ops (k : Kind) (status : List Signal) (d : Dev) :
    (d.ackChunk k status).ops = d.ops.set k ((d.get k).next k) := by
  have hset (o : Operations) (t t' : Transfer) : (o.set k t).set k t' = o.set k t' := by
    cases k <;> rfl
  unfold Dev.ackChunk Dev.sendNextChunk Transfer.next
  simp only [Dev.get, Dev.emitAll_ops, Dev.setTransfer_ops, Operations.get_set, if_true]
  by_cases h : (d.ops.get k).size ≤ (d.ops.get k).offset
  · simp [h, hset]
  · simp only [ge_iff_le, h, if_false]
    simp [Transfer.chunkLen, hset]

theorem ackChunk_get (k : Kind) (status : List Signal) (d : Dev) :
    (d.ackChunk k status).get k = (d.get k).next k := by
  unfold Dev.get
  rw [ackChunk_ops, Operations.get_set, if_pos rfl]
  rfl

theorem ackChunk_sent (k : Kind) (status : List Signal) (d : Dev) :
    opSent (d.ackChunk k status).out = opSent d.out ++ [(d.get k).nextCommand k] := by
  unfold Dev.ackChunk Dev.sendNextChunk Transfer.nextCommand
  simp only [Dev.get, Dev.emitAll_ops, Dev.setTransfer_ops, Operations.get_set, if_true]
  by_cases h : (d.ops.get k).size ≤ (d.ops.get k).offset
  · simp [h]
  · simp only [ge_iff_le, h, if_false]
    simp [Transfer.chunkLen]

theorem ackChunk_worked (k : Kind) {status : List Signal}
    (hs : ∀ s ∈ status, s.isProgress = true) {d : Dev} (he : e.IsAck)
    (before : (d.get k).state = .WaitingStartAck ∨ (d.get k).state = .SendingData) :
    Worked e d (d.ackChunk k status) := by
  have only := (only_chunkClosed k).ackChunk hs d
  refine only.worked (.acked he before (ackChunk_get k status d) ?_)
    (.of_eq ((reports_chunkClosed k).ackChunk hs d))
  rw [kindSent_of k (ackChunk_sent k status d)]
  have hown : k.owns ((d.get k).nextCommand k).1 = true := by
    unfold Transfer.nextCommand
    split <;> simp
  rw [List.filter_cons, if_pos hown, List.filter_nil]

theorem endTransfer_only (k : Kind) (d : Dev) : Only k d (d.endTransfer k) :=
  .setTransfer k _ d

theorem endTransfer_state (k : Kind) (d : Dev) : ((d.endTransfer k).get k).state = .Idle := by
  unfold Dev.endTransfer
  rw [Dev.get_setTransfer, if_pos rfl]

/-- a transfer ends; `q` is what is left to do -/
theorem endTransfer_worked {k : Kind} {d d' : Dev} (before : (d.get k).state ≠ .Idle)
    (q : Calm (d.endTransfer k) d') : Worked e d d' :=
  Worked.then_calm
    ((endTransfer_only k d).worked (.ended before (endTransfer_state k d) rfl) (.of_eq rfl)) q

/-- the ACK of FINISH, with the one report among the signals of the transfers -/
theorem finished_worked {k : Kind} (he : e.IsAck) {d : Dev}
    (before : (d.get k).state = .WaitingFinishAck) :
    Worked e d ((d.endTransfer k).resumeKeepaliveIfIdle.emit k.complete) := by
  have hactive : (d.get k).state ≠ .Idle := by
    rw [before]
    decide
  have q := resumeKeepaliveIfIdle_calm (d.endTransfer k)
  have only : Only k d ((d.endTransfer k).resumeKeepaliveIfIdle) :=
    (endTransfer_only k d).trans (q.only k)
  have hsent : opSent ((d.endTransfer k).resumeKeepaliveIfIdle.emit k.complete).out
      = opSent d.out := by
    rw [Dev.opSent_emit, q.sent]
    rfl
  refine Only.worked (k := k) ?_ (.ended hactive ?_ ?_) ?_
  · refine only.trans ?_
    exact ⟨fun _ _ => rfl, rfl, rfl, rfl, [], by simp, by simp⟩
  · show ((d.endTransfer k).resumeKeepaliveIfIdle.get k).state = _
    rw [q.get, endTransfer_state]
  · unfold Kind.sent
    rw [hsent]
  · refine ⟨(Out.signal k.complete).report?.toList, ?_, fun hc => ⟨he, ?_⟩, fun b hb => ?_⟩
    · rw [Dev.reports_emit, q.reports]
      rfl
    · cases k with
      | fwUpdate => exact before
      | espUpdate => exact absurd hc List.not_mem_nil
      | fileUpload => exact absurd hc List.not_mem_nil
    · cases k <;> simp [Kind.complete, Out.report?] at hb

/-- the queue goes on after a file: an end and a start within one handler -/
theorem handOver_worked (he : e.IsAck) {d d' : Dev}
    (h : (d.get .fileUpload).state = .WaitingFinishAck)
    (hw : Worked e (d.endTransfer .fileUpload) d') : Worked e d d' := by
  have hidle : ((d.endTransfer .fileUpload).get .fileUpload).state = .Idle := rfl
  have hd : (d.get .fileUpload).state ≠ .Idle := by rw [h]; decide
  refine ⟨fun k => ?_, ?_, hw.swap, hw.pending, hw.reported.after (by rfl) (by rfl) (by rfl)⟩
  · by_cases hk : k = .fileUpload
    · subst hk
      cases hw.change .fileUpload with
      | same get sent => exact .ended hd (by rw [get]; exact hidle) sent
      | idle before after sent => exact .ended hd after sent
      | started data payload before cause alone alone' file size get sent =>
        refine .started data payload (.inr ⟨h, he⟩) cause ⟨fun k' hk => ?_, alone.erase⟩ alone' file
          size get sent
        rw [← (endTransfer_only .fileUpload d).get k' hk]
        exact alone.idle k' hk
      | acked ack before get sent =>
        rw [hidle] at before
        rcases before with hb | hb <;> exact absurd hb (by decide)
      | ended before after sent => exact absurd hidle before
      | cleanup esp timeout before after sent => exact absurd hidle before
    · refine (hw.change k).after ((endTransfer_only .fileUpload d).get k hk) rfl ?_ rfl
      intro cause _
      exact absurd (cause.fileUpload he) hk
  · cases hw.erase with
    | same flag => exact .same flag
    | started call before idle idle' sent =>
      obtain ⟨f, dialect, hf, -⟩ := he
      rw [hf] at call
      exact absurd call (by simp)
    | answered reply before after => exact .answered reply before after

/-- a flag is cleared and nothing of the operations sent -/
theorem cleared_worked {d d' : Dev} (hg : ∀ k, d'.get k = d.get k)
    (erase : EraseChange e d d') (swap : d'.ops.bankSwapPending = true →
      d.ops.bankSwapPending = true)
    (pending : d'.ops.pendingFileCmd = d.ops.pendingFileCmd ∨ d'.ops.pendingFileCmd = 0)
    (hout : d'.out = d.out) : Worked e d d' :=
  ⟨fun k => .same (hg k) (by rw [hout]), erase, fun h => .inl (swap h),
    pending.imp_right Or.inl, Reported.of_eq (by rw [hout])⟩

/-- a file command is answered, then the queues go on -/
theorem pendingCleared_then {d d' : Dev}
    (hw : Worked e { d with ops := { d.ops with pendingFileCmd := 0 } } d') : Worked e d d' := by
  have hg (k : Kind) :
      Dev.get { d with ops := { d.ops with pendingFileCmd := 0 } } k = d.get k := by
    cases k <;> rfl
  refine ⟨fun k => (hw.change k).after (hg k) rfl (fun _ ha => ⟨fun k' hk => ?_, ha.erase⟩) rfl,
    hw.erase.after (by rfl) hg, hw.swap, .inr (hw.pending.elim .inl id),
    hw.reported.after (hg _) (by rfl) (by rfl)⟩
  rw [← hg]
  exact ha.idle k' hk

theorem ackFileCommand_worked (he : e.IsAck) (d : Dev) : Worked e d d.ackFileCommand := by
  have branch := ackFileCommand_branch d
  generalize d.ackFileCommand = d' at branch
  refine pendingCleared_then ?_
  cases branch with
  | deleted pending => exact (Calm.emit _ rfl).worked e
  | renamed pending => exact (Calm.emit _ rfl).worked e
  | madeDirectory pending queue => exact (Calm.emit _ rfl).worked e
  | nextDirectory pending queue => exact advanceMkdirQueue_worked he.names _
  | mounted on pending =>
    refine Calm.worked e (Calm.trans ?_ (.emit _ rfl))
    exact ⟨fun k => by cases k <;> rfl, rfl, rfl, rfl, rfl, rfl⟩
  | late pending => exact Calm.worked e ⟨fun k => by cases k <;> rfl, rfl, rfl, rfl, rfl, rfl⟩

/-- the reply to a bank erase -/
theorem eraseAnswered_worked (he : e.IsAck ∨ e.IsNack) {d : Dev}
    (pending : d.ops.bankErasePending = true) {s : Signal}
    (hs : (Out.signal s).report? = none) : Worked e d (Dev.emit (Dev.resumeKeepaliveIfIdle
      { d with ops := { d.ops with bankErasePending := false } }) s) := by
  refine Worked.then_calm ?_ ((resumeKeepaliveIfIdle_calm _).trans (.emit _ hs))
  exact cleared_worked (fun k => by cases k <;> rfl) (.answered he pending rfl) id (.inl rfl) rfl

/-- the reply to a bank swap -/
theorem swapAnswered_worked (d : Dev) :
    Worked e d { d with ops := { d.ops with bankSwapPending := false } } :=
  cleared_worked (fun k => by cases k <;> rfl) (.same rfl) (fun h => by simp at h) (.inl rfl) rfl

theorem handleAck_worked (he : e.IsAck) (d : Dev) : Worked e d d.handleAck := by
  have branch := handleAck_branch d
  generalize d.handleAck = d' at branch
  cases branch with
  | bankErase pending => exact eraseAnswered_worked (.inl he) pending rfl
  | bankSwap pending =>
    have shot (d : Dev) : Calm d (d.startShot .closeLink) := Quiet.calm ⟨rfl, rfl, rfl⟩
    exact (swapAnswered_worked d).then_calm (Calm.trans (.emit _ rfl) (shot _))
  | chunk k status mine before progress => exact ackChunk_worked k progress he before
  | finished k mine before => exact finished_worked he before
  | nextFile mine before queue =>
    exact handOver_worked he before (advanceUploadQueue_worked he.names _)
  | fileCommand mine idle => exact ackFileCommand_worked he d

theorem handleNack_worked (he : e.IsNack) (payload : List UInt8) (d : Dev) :
    Worked e d (d.handleNack payload) := by
  have branch := handleNack_branch payload d
  generalize d.handleNack payload = d' at branch
  cases branch with
  | bankErase pending => exact eraseAnswered_worked (.inr he) pending rfl
  | bankSwap pending => exact (swapAnswered_worked d).then_calm (.emit _ rfl)
  | update k hk before =>
    exact endTransfer_worked before
      ((resumeKeepaliveIfIdle_calm _).trans (.emit _ (k.error_report _)))
  | upload mine before =>
    refine endTransfer_worked (k := .fileUpload) before
      ((resumeKeepaliveIfIdle_calm _).trans (.trans ?_ (.emit _ rfl)))
    exact .queues _ [] (-1) [] (-1)
  | late mine idle stale =>
    exact Calm.worked e ⟨fun k => by cases k <;> rfl, rfl, rfl, rfl, rfl, rfl⟩
  | fileCommand mine idle stale =>
    refine pendingCleared_then ?_
    exact (Calm.emit _ rfl).worked e

/-! ## Timeouts -/

theorem stopTimeout_state (k : Kind) (d : Dev) :
    ((d.stopTimeout k).get k).state = (d.get k).state := by
  unfold Dev.stopTimeout
  rw [Dev.get_setTransfer, if_pos rfl]

theorem onTransferTimeout_worked (k : Kind) (d : Dev) :
    Worked (.expire (.transfer k)) d (d.onTransferTimeout k) := by
  have branch := onTransferTimeout_branch k d
  generalize d.onTransferTimeout k = d' at branch
  cases branch with
  | idle before =>
    refine (Only.setTransfer k _ d).worked (.idle before ?_ rfl) (.of_eq rfl)
    exact (stopTimeout_state k d).trans before
  | ended message hk before =>
    exact endTransfer_worked before
      ((resumeKeepaliveIfIdle_calm _).trans (.emit _ (k.error_report _)))
  | cleanup message hk before d1 sent =>
    subst hk
    have only : Only .espUpdate d (d1.endTransfer .espUpdate) := by
      rw [sent]
      refine Only.trans (Only.trans ?_ (.send ?_ ?_ [] _)) (endTransfer_only .espUpdate _)
      · exact .setTransfer .espUpdate _ d
      · decide
      · decide
    have hsent : opSent d1.out = opSent d.out ++ [(CMD_ESP_UPDATE_FINISH, [])] := by
      rw [sent, Dev.opSent_sendCommand, if_pos (by decide)]
      rfl
    have hreports : reports d1.out = reports d.out := by
      rw [sent, Dev.reports_sendCommand]
      rfl
    refine Worked.then_calm (only.worked (.cleanup rfl rfl before (endTransfer_state _ d1) ?_)
      (.of_eq hreports)) (Calm.trans ?_ ((resumeKeepaliveIfIdle_calm _).trans
        (.emit _ (Kind.error_report _ _))))
    · exact kindSent_of .espUpdate hsent
    · exact ⟨fun k => by cases k <;> rfl, rfl, rfl, rfl, rfl, rfl⟩

/-! ## Steps -/

theorem onFrameReceived_worked (f : Frame) (dialect : CrcDialect) (d : Dev) :
    Worked (.frame f dialect) d (d.onFrameReceived f) := by
  have q := (noted_quiet d).calm
  have branch := onFrameReceived_branch f d
  generalize d.onFrameReceived f = d' at branch
  cases branch with
  | ack hf => exact Worked.after_calm q (noted_env d) (handleAck_worked ⟨f, dialect, rfl, hf⟩ _)
  | nack hf =>
    exact Worked.after_calm q (noted_env d) (handleNack_worked ⟨f, dialect, rfl, hf⟩ _ _)
  | pong hf => exact (q.trans (handlePong_quiet _).calm).worked _
  | deviceInfo hf => exact (q.trans (handleDeviceInfoResp_quiet _ _).calm).worked _
  | fileData hf => exact (q.trans (handleFileReadData_quiet _ _).calm).worked _
  | report ha hn => exact q.worked _

theorem call_worked (c : Call) (d : Dev) : Worked (.call c) d (d.call c) := by
  have plain (cmd : UInt8) (h : cmd ∉ opCommands) (p : List UInt8) (d : Dev) :
      Worked (.call c) d (d.sendCommand cmd p) := (Quiet.send d h p).calm.worked _
  have shot (d' : Dev) (s : Shot) (h : Worked (.call c) d d') :
      Worked (.call c) d (d'.startShot s) := h.then_calm (Quiet.calm ⟨rfl, rfl, rfl⟩)
  have file {cmd : UInt8} (ho : Kind.fwUpdate.owns cmd = false ∧ Kind.espUpdate.owns cmd = false ∧
      Kind.fileUpload.owns cmd = false) (hm : cmd ∈ opCommands) (p : List UInt8) :
      Worked (.call c) d (d.fileCommand cmd p) := by
    refine fileCommand_worked (fun k => ?_) hm p d
    cases k with
    | fwUpdate => exact ho.1
    | espUpdate => exact ho.2.1
    | fileUpload => exact ho.2.2
  cases c with
  | connectToDevice p => exact (connectToDevice_linked p d).worked _
  | connectToDeviceWifi hp => exact (connectToDeviceWifi_quiet hp d).linked.worked _
  | disconnect => exact (disconnect_linked d).worked _
  | setPreferredSerialPort p => exact (setPreferredSerialPort_quiet p d).calm.worked _
  | setDeviceLogVerbose on => exact (setDeviceLogVerbose_quiet on d).calm.worked _
  | startScreenStream fps => exact (startScreenStream_quiet fps d).calm.worked _
  | stopScreenStream => exact (stopScreenStream_quiet d).calm.worked _
  | downloadFile r l =>
    refine Worked.after_calm (b := { d with download := { buf := [], dest := l } })
      (Quiet.calm ⟨rfl, rfl, rfl⟩) rfl (plain _ (by decide) _ _)
  | uploadFile l r => exact uploadFile_worked l r d rfl
  | uploadFiles us r =>
    refine uploadFiles_worked (fun _ => ?_) us r d
    trivial
  | uploadFolder u r =>
    refine uploadFolder_worked (fun _ => ?_) u r d
    trivial
  | deleteFile r => exact file (by decide) (by decide) _
  | deleteTree r => exact file (by decide) (by decide) _
  | renameFile o n => exact file (by decide) (by decide) _
  | makeDirectory r => exact file (by decide) (by decide) _
  | mountSdCard => exact file (by decide) (by decide) _
  | unmountSdCard => exact file (by decide) (by decide) _
  | startFwUpdate p => exact (startFwUpdate_branch p d).worked ⟨p, rfl⟩ rfl
  | swapBanks => exact swapBanks_worked d
  | eraseInactiveBank => exact eraseInactiveBank_worked d
  | reboot => exact shot _ _ (plain _ (by decide) _ d)
  | initEsp32 => exact shot _ _ (plain _ (by decide) _ d)
  | rebootEsp32 => exact shot _ _ (plain _ (by decide) _ d)
  | startEspUpdate p addr force =>
    exact (startEspUpdate_branch p d addr force).worked ⟨p, addr, force, rfl⟩ rfl
  -- the other calls only send a command that belongs to no operation
  | _ => exact plain _ (by decide) _ d

/-- the events that concern the link alone: no call, no frame, no timeout of a transfer -/
def Event.OfLink : Event → Prop
  | .call _ => False
  | .frame _ _ => False
  | .expire (.transfer _) => False
  | _ => True

theorem expire_linked (t : TimerId) (h : (Event.expire t).OfLink) (d : Dev) :
    Linked d (d.expire t) := by
  unfold Dev.expire
  split
  · exact .refl d
  · cases t with
    | ping => exact onPingTimer_linked d
    | transfer k => exact h.elim
    | wifiReconnect =>
      refine Linked.trans ?_ (tryWifiReconnect_quiet _).linked
      exact Quiet.linked ⟨rfl, rfl, rfl⟩
    | serialReconnect =>
      refine Linked.trans ?_ (trySerialReconnect_linked _)
      exact Quiet.linked ⟨rfl, rfl, rfl⟩

theorem shot_linked (s : Shot) (d : Dev) : Linked d (d.shot s) := by
  unfold Dev.shot
  split
  · exact .refl d
  · let d1 : Dev := { d with shots := d.shots.erase s }
    have q : Linked d d1 := Quiet.linked ⟨rfl, rfl, rfl⟩
    refine q.trans ?_
    cases s with
    | requestDeviceInfo => exact (Quiet.send d1 (by decide) []).linked
    | closeLink =>
      dsimp only
      split
      · exact transportClose_linked d1
      · exact .refl d1
    | rearmScreen =>
      dsimp only
      split
      · exact (startScreenStream_quiet d1.screen.fps d1).linked
      · exact .refl d1
    | trySerialReconnect => exact trySerialReconnect_linked d1

theorem handle_linked (e : Event) (h : e.OfLink) (d : Dev) : Linked d (d.handle e) := by
  have quiet {d' : Dev} (q : Quiet d d') : Linked d d' := q.linked
  unfold Dev.handle
  cases e with
  | call c => exact h.elim
  | frame f dialect => exact h.elim
  | workerValidated dialect =>
    dsimp only
    split <;> exact quiet ⟨rfl, rfl, rfl⟩
  | expire t => exact expire_linked t h d
  | shot s => exact shot_linked s d
  | serialError => exact serialClose_linked d
  | transportError msg => exact quiet (.emit d rfl)
  | workerConnected =>
    dsimp only
    split
    · exact onWorkerConnected_linked d
    · exact .refl d
  | workerDisconnected => exact onWorkerDisconnected_linked d
  | screenPortReady port =>
    dsimp only
    split <;> exact quiet ⟨rfl, rfl, rfl⟩
  | inboundActivity =>
    dsimp only
    split <;> exact quiet ⟨rfl, rfl, rfl⟩
  | deviceFound p => exact onDeviceFound_linked p d
  | deviceLost p => exact onDeviceLost_linked p d
  | setMdnsDiscovery present => exact quiet ⟨rfl, rfl, rfl⟩
  | serviceFound address port =>
    dsimp only
    split
    · exact quiet (onServiceFound_quiet address port d)
    · exact .refl d
  | env env => exact quiet ⟨rfl, rfl, rfl⟩

theorem expire_transfer_worked (k : Kind) (d : Dev) :
    Worked (.expire (.transfer k)) d (d.expire (.transfer k)) := by
  unfold Dev.expire
  split
  · exact (Calm.refl d).worked _
  · exact onTransferTimeout_worked k d

theorem handle_worked (e : Event) (d : Dev) : Worked e d (d.handle e) := by
  have linked {e : Event} (he : e.OfLink) : Worked e d (d.handle e) :=
    (handle_linked e he d).worked e
  cases e with
  | call c => exact call_worked c d
  | frame f dialect =>
    unfold Dev.handle
    dsimp only
    split
    · exact Worked.after_calm (b := d.validated dialect)
        (Quiet.calm ⟨rfl, rfl, rfl⟩) rfl (onFrameReceived_worked f dialect _)
    · exact (Calm.refl d).worked _
  | expire t =>
    cases t with
    | transfer k => exact expire_transfer_worked k d
    | _ => exact linked trivial
  | _ => exact linked trivial

/-- **Every step works on the operations in one of the ways of `Worked`.** -/
theorem worked_step (e : Event) (d : Dev) : Worked e d.fresh (step e d) := handle_worked e d.fresh

end QMon.Device
