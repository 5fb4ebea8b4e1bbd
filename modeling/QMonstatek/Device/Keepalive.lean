import QMonstatek.Device.Queue

/-!
# The keepalive comes back

`Watched d`           with a session up and no exclusive operation active, the keepalive is not
                      suspended and the ping timer runs;
`KeepOk d`            the invariant behind it: a suspended keepalive has an operation that will
                      resume it, and with a session up the keepalive is suspended or pinging;
`KeepaliveGoesOn e d` what the handler of `e` needs for it.

`keepalive_restored`: along a run of such steps every state is `Watched`.  The step that is
excluded for a reason is the FINISH ACK of the last file of a queue: it ends the upload and
resumes nothing.
-/

namespace QMon.Device
open Rpc

/-- the link is up, and over WiFi neither being closed by the user nor waiting for the worker to
report a new connection -/
def Link.SessionUp (l : Link) : Prop :=
  l.isConnected = true ∧
    (l.transport = .wifi → l.userDisconnecting = false ∧ l.pendingSessionStart = false)

def Dev.Watched (d : Dev) : Prop :=
  d.link.SessionUp → (∀ o, ¬ d.Active o) →
    d.keep.suspended = false ∧ d.keep.pingTimer ≠ none

/-- an exclusive operation is active, as `resumeKeepaliveIfIdle` asks it -/
def Dev.Busy (d : Dev) : Prop :=
  d.ops.fileUpload.state ≠ .Idle ∨ d.ops.fwUpdate.state ≠ .Idle ∨
    d.ops.espUpdate.state ≠ .Idle ∨ d.ops.bankErasePending = true

theorem Dev.Busy.active {d : Dev} (h : d.Busy) : ∃ o, d.Active o := by
  rcases h with h | h | h | h
  · exact ⟨.transfer .fileUpload, h⟩
  · exact ⟨.transfer .fwUpdate, h⟩
  · exact ⟨.transfer .espUpdate, h⟩
  · exact ⟨.bankErase, h⟩

/-- the keepalive runs, or waits for an operation to end -/
def Dev.Kept (d : Dev) : Prop := d.keep.suspended = true ∨ d.keep.pingTimer ≠ none

def Dev.SuspendedBusy (d : Dev) : Prop := d.keep.suspended = true → d.Busy

structure Dev.KeepOk (d : Dev) : Prop where
  busy : d.SuspendedBusy
  kept : d.link.SessionUp → d.Kept

theorem Dev.KeepOk.watched {d : Dev} (h : d.KeepOk) : d.Watched := by
  intro hup hidle
  have hs : d.keep.suspended = false := by
    cases hs : d.keep.suspended with
    | false => rfl
    | true =>
      obtain ⟨o, ho⟩ := (h.busy hs).active
      exact absurd ho (hidle o)
  rcases h.kept hup with hk | hk
  · exact absurd (hs.symm.trans hk) Bool.false_ne_true
  · exact ⟨hs, hk⟩

/-! ## Rules -/

variable {a b c d d' : Dev}

theorem keepOk_of_started (hs : d.keep.suspended = true) (hb : d.Busy) : d.KeepOk :=
  ⟨fun _ => hb, fun _ => .inl hs⟩

theorem keepOk_of_session (hs : d.keep.suspended = false) (hp : d.keep.pingTimer ≠ none) :
    d.KeepOk :=
  ⟨fun h => absurd (hs.symm.trans h) Bool.false_ne_true, fun _ => .inr hp⟩

theorem keepOk_of_down (hb : d.SuspendedBusy) (hd : ¬ d.link.SessionUp) : d.KeepOk :=
  ⟨hb, fun hup => absurd hup hd⟩

theorem suspendedBusy_of_false (hs : d.keep.suspended = false) : d.SuspendedBusy :=
  fun h => absurd (hs.symm.trans h) Bool.false_ne_true

/-- the keepalive is untouched, no session comes up, no operation ends -/
structure Steady (d d' : Dev) : Prop where
  suspended : d'.keep.suspended = d.keep.suspended
  ping : d'.keep.pingTimer = d.keep.pingTimer
  session : d'.link.SessionUp → d.link.SessionUp
  busy : d.Busy → d'.Busy

theorem Steady.kept (h : Steady d d') : d'.Kept ↔ d.Kept := by
  unfold Dev.Kept
  rw [h.suspended, h.ping]

theorem Steady.suspendedBusy (h : Steady d d') (hd : d.SuspendedBusy) : d'.SuspendedBusy :=
  fun hs => h.busy (hd (by rw [← h.suspended]; exact hs))

theorem Steady.keepOk (h : Steady d d') (hd : d.KeepOk) : d'.KeepOk :=
  ⟨h.suspendedBusy hd.busy, fun hup => h.kept.mpr (hd.kept (h.session hup))⟩

theorem Steady.trans (h : Steady a b) (h' : Steady b c) : Steady a c :=
  ⟨h'.suspended.trans h.suspended, h'.ping.trans h.ping, h.session ∘ h'.session,
    h'.busy ∘ h.busy⟩

theorem Steady.of_same (hk : d'.keep = d.keep) (hl : d'.link = d.link) (ho : d'.ops = d.ops) :
    Steady d d' := by
  refine ⟨by rw [hk], by rw [hk], by rw [hl]; exact id, ?_⟩
  unfold Dev.Busy
  rw [ho]
  exact id

theorem Steady.refl (d : Dev) : Steady d d := .of_same rfl rfl rfl

theorem Steady.send (d : Dev) (cmd : UInt8) (payload : List UInt8) :
    Steady d (d.sendCommand cmd payload) :=
  .of_same (Dev.sendCommand_keep _ _ _) (Dev.sendCommand_link _ _ _) (Dev.sendCommand_ops _ _ _)

theorem Steady.put (d : Dev) (o : Out) : Steady d (d.put o) := .of_same rfl rfl rfl

theorem Steady.emit (d : Dev) (s : Signal) : Steady d (d.emit s) := .of_same rfl rfl rfl

theorem Steady.emitAll (d : Dev) (l : List Signal) : Steady d (d.emitAll l) :=
  .of_same (Dev.emitAll_keep _ _) (Dev.emitAll_link _ _) (Dev.emitAll_ops _ _)

/-- a transfer that is not ended -/
theorem Steady.setTransfer {k : Kind} {t : Transfer} (d : Dev)
    (ht : (d.get k).state ≠ .Idle → t.state ≠ .Idle) : Steady d (d.setTransfer k t) := by
  refine ⟨rfl, rfl, id, fun hb => ?_⟩
  rcases hb with hb | hb | hb | hb
  · cases k with
    | fileUpload => exact .inl (ht hb)
    | fwUpdate => exact .inl hb
    | espUpdate => exact .inl hb
  · cases k with
    | fwUpdate => exact .inr (.inl (ht hb))
    | espUpdate => exact .inr (.inl hb)
    | fileUpload => exact .inr (.inl hb)
  · cases k with
    | espUpdate => exact .inr (.inr (.inl (ht hb)))
    | fwUpdate => exact .inr (.inr (.inl hb))
    | fileUpload => exact .inr (.inr (.inl hb))
  · cases k <;> exact .inr (.inr (.inr hb))

/-- the end of an operation: whatever was active, the keepalive is right again -/
theorem resumeKeepaliveIfIdle_keepOk (h : d.link.SessionUp → d.Kept) :
    d.resumeKeepaliveIfIdle.KeepOk := by
  unfold Dev.resumeKeepaliveIfIdle
  split
  · rename_i hs
    have hs' : d.keep.suspended = false := by simpa using hs
    exact ⟨suspendedBusy_of_false hs', h⟩
  · split
    · rename_i hb
      exact ⟨fun _ => hb, h⟩
    · split
      · exact keepOk_of_session rfl (by simp)
      · rename_i hc
        exact keepOk_of_down (suspendedBusy_of_false rfl) fun hup => hc hup.1

theorem resumed_keepOk (h : d.link.SessionUp → d.Kept) (s : Signal) :
    (d.resumeKeepaliveIfIdle.emit s).KeepOk :=
  (Steady.emit _ s).keepOk (resumeKeepaliveIfIdle_keepOk h)

theorem endTransfer_resumed (k : Kind) (h : d.KeepOk) (s : Signal) :
    ((d.endTransfer k).resumeKeepaliveIfIdle.emit s).KeepOk := by
  refine resumed_keepOk ?_ s
  exact h.kept

/-! ## Operations -/

theorem suspendKeepalive_suspended (d : Dev) : d.suspendKeepalive.keep.suspended = true := by
  unfold Dev.suspendKeepalive
  split
  · assumption
  · rfl

theorem sendStart_keepOk (k : Kind) (payload : List UInt8) (d : Dev) :
    (d.sendStart k payload).KeepOk := by
  have hget := sendStart_get k payload d
  refine keepOk_of_started ?_ ?_
  · unfold Dev.sendStart
    rw [Dev.sendCommand_keep]
    exact suspendKeepalive_suspended _
  · have hs : ((d.sendStart k payload).get k).state ≠ .Idle := by
      rw [hget]
      exact TransferState.noConfusion
    cases k with
    | fwUpdate => exact .inr (.inl hs)
    | espUpdate => exact .inr (.inr (.inl hs))
    | fileUpload => exact .inl hs

theorem StartBranch.keepOk {k : Kind} {path : String} (hb : StartBranch k path d d')
    (h : d.KeepOk) : d'.KeepOk := by
  cases hb with
  | refused message busy => exact (Steady.emit _ _).keepOk h
  | rejected flashAddr data t message idle read after empty =>
    refine (Steady.emit _ _).keepOk ((Steady.setTransfer _ fun hs => ?_).keepOk ?_)
    · exact absurd idle (by cases k <;> exact hs)
    · exact ⟨h.busy, h.kept⟩
  | started flashAddr data payload t status idle alone read size image progress =>
    exact (Steady.emitAll _ _).keepOk (sendStart_keepOk _ _ _)

theorem uploadFile_keepOk (localPath remotePath : String) (h : d.KeepOk) :
    (d.uploadFile localPath remotePath).KeepOk :=
  (uploadFile_branch localPath d remotePath).keepOk h

theorem eraseInactiveBank_keepOk (h : d.KeepOk) : d.eraseInactiveBank.KeepOk := by
  unfold Dev.eraseInactiveBank
  split
  · exact (Steady.emit _ _).keepOk h
  · refine (Steady.send _ _ _).keepOk (keepOk_of_started (suspendKeepalive_suspended _) ?_)
    unfold Dev.Busy
    rw [Dev.suspendKeepalive_ops]
    exact .inr (.inr (.inr rfl))

theorem fileCommand_steady (cmd : UInt8) (payload : List UInt8) (d : Dev) :
    Steady d (d.fileCommand cmd payload) := by
  unfold Dev.fileCommand
  refine Steady.trans ?_ (.send _ _ _)
  exact ⟨rfl, rfl, id, id⟩

theorem swapBanks_steady (d : Dev) : Steady d d.swapBanks := by
  unfold Dev.swapBanks
  refine Steady.trans ?_ (.send _ _ _)
  exact ⟨rfl, rfl, id, id⟩

theorem uploadItem_keepOk (index : Int) (item : UploadQueueItem) (h : d.KeepOk) :
    (d.uploadItem index item).KeepOk := by
  unfold Dev.uploadItem
  refine uploadFile_keepOk _ _ ((Steady.emit _ _).keepOk ?_)
  exact ⟨h.busy, h.kept⟩

theorem startUploadQueue_keepOk (h : d.KeepOk) : d.startUploadQueue.KeepOk := by
  unfold Dev.startUploadQueue
  split
  · exact (Steady.emit _ _).keepOk h
  · exact uploadItem_keepOk _ _ h

theorem uploadFiles_keepOk (fileUrls : List String) (remotePath : String) (h : d.KeepOk) :
    (d.uploadFiles fileUrls remotePath).KeepOk := by
  unfold Dev.uploadFiles
  split
  · exact (Steady.emit _ _).keepOk h
  · dsimp only
    split
    · exact ⟨h.busy, h.kept⟩
    · exact startUploadQueue_keepOk ⟨h.busy, h.kept⟩

theorem uploadFolder_keepOk (localFolderUrl remotePath : String) (h : d.KeepOk) :
    (d.uploadFolder localFolderUrl remotePath).KeepOk := by
  unfold Dev.uploadFolder
  split
  · exact (Steady.emit _ _).keepOk h
  · dsimp only
    split
    · exact (Steady.emit _ _).keepOk h
    · split
      · split
        · exact ⟨h.busy, h.kept⟩
        · exact startUploadQueue_keepOk ⟨h.busy, h.kept⟩
      · refine (fileCommand_steady _ _ _).keepOk ((Steady.emit _ _).keepOk ?_)
        exact ⟨h.busy, h.kept⟩

/-! ## Replies -/

theorem steady_chunkClosed (k : Kind) : ChunkClosed k Steady where
  refl := .refl
  trans := Steady.trans
  set d _ ht := .setTransfer d ht
  emit d s _ := .emit d s
  send d cmd payload _ _ := .send d cmd payload

/-- the FINISH ACK of a queued file has a file to go on with -/
def Dev.FinishGoesOn (d : Dev) : Prop :=
  d.keep.suspended = true → d.ops.Unclaimed → d.ops.fileUpload.state = .WaitingFinishAck →
    d.ops.uploadQueueIndex ≥ 0 → ∃ item ∈ d.ops.nextFile, d.CanUpload item.localPath

/-- an upload that is taken suspends the keepalive and will resume it -/
theorem uploadFile_started {localPath : String} (remotePath : String)
    (idle : d.ops.fileUpload.state = .Idle) (hc : d.CanUpload localPath) :
    (d.uploadFile localPath remotePath).KeepOk := by
  have branch := uploadFile_branch localPath d remotePath
  have hactive := (uploadFile_active_iff localPath remotePath d idle).mpr hc
  generalize d.uploadFile localPath remotePath = d' at branch hactive
  cases branch with
  | refused message busy => exact absurd idle hactive
  | rejected flashAddr data t message idle read after empty => exact absurd after hactive
  | started flashAddr data payload t status idle alone read size image progress =>
    exact (Steady.emitAll _ _).keepOk (sendStart_keepOk _ _ _)

theorem advanceUploadQueue_keepOk (h : d.KeepOk) : d.advanceUploadQueue.KeepOk := by
  unfold Dev.advanceUploadQueue
  dsimp only
  split
  · exact ⟨h.busy, h.kept⟩
  · exact uploadItem_keepOk _ _ h

/-- the FINISH ACK of a queued file -/
theorem nextFile_keepOk (h : d.KeepOk) (hu : d.ops.Unclaimed) (hf : d.FinishGoesOn)
    (hb : d.ops.fileUpload.state = .WaitingFinishAck) (hi : d.ops.uploadQueueIndex ≥ 0) :
    (d.endTransfer .fileUpload).advanceUploadQueue.KeepOk := by
  by_cases hs : d.keep.suspended = true
  · obtain ⟨item, hnext, hc⟩ := hf hs hu hb hi
    rw [nextFile_of_finished hb, if_pos hi] at hnext
    have hnext' : (d.endTransfer .fileUpload).ops.uploadQueue[((d.endTransfer
        .fileUpload).ops.uploadQueueIndex + 1).toNat]? = some item := hnext
    unfold Dev.advanceUploadQueue
    dsimp only
    rw [hnext']
    unfold Dev.uploadItem
    exact uploadFile_started _ rfl hc
  · refine advanceUploadQueue_keepOk ⟨fun hx => absurd hx hs, ?_⟩
    exact h.kept

theorem ackFileCommand_keepOk (h : d.KeepOk) : d.ackFileCommand.KeepOk := by
  have branch := ackFileCommand_branch d
  generalize d.ackFileCommand = d' at branch
  cases branch with
  | nextDirectory pending queue =>
    unfold Dev.advanceMkdirQueue
    dsimp only
    split
    · split
      · exact startUploadQueue_keepOk ⟨h.busy, h.kept⟩
      · exact ⟨h.busy, h.kept⟩
    · exact (fileCommand_steady _ _ _).keepOk ⟨h.busy, h.kept⟩
  | deleted pending => exact ⟨h.busy, h.kept⟩
  | renamed pending => exact ⟨h.busy, h.kept⟩
  | madeDirectory pending queue => exact ⟨h.busy, h.kept⟩
  | mounted on pending => exact ⟨h.busy, h.kept⟩
  | late pending => exact ⟨h.busy, h.kept⟩

theorem handleAck_keepOk (h : d.KeepOk) (hf : d.FinishGoesOn) : d.handleAck.KeepOk := by
  have branch := handleAck_branch d
  generalize d.handleAck = d' at branch
  cases branch with
  | bankErase pending =>
    refine resumed_keepOk ?_ _
    exact h.kept
  | bankSwap pending => exact ⟨h.busy, h.kept⟩
  | chunk k status mine before progress =>
    exact ((steady_chunkClosed k).ackChunk progress d).keepOk h
  | finished k mine before => exact endTransfer_resumed k h _
  | nextFile mine before queue => exact nextFile_keepOk h mine hf before queue
  | fileCommand mine idle => exact ackFileCommand_keepOk h

theorem handleNack_keepOk (payload : List UInt8) (h : d.KeepOk) :
    (d.handleNack payload).KeepOk := by
  have branch := handleNack_branch payload d
  generalize d.handleNack payload = d' at branch
  cases branch with
  | bankErase pending =>
    refine resumed_keepOk ?_ _
    exact h.kept
  | bankSwap pending => exact ⟨h.busy, h.kept⟩
  | update k hk before => exact endTransfer_resumed k h _
  | upload mine before =>
    have hr : (d.endTransfer .fileUpload).resumeKeepaliveIfIdle.KeepOk :=
      resumeKeepaliveIfIdle_keepOk h.kept
    exact ⟨hr.busy, hr.kept⟩
  | late mine idle stale => exact ⟨h.busy, h.kept⟩
  | fileCommand mine idle stale => exact ⟨h.busy, h.kept⟩

theorem TimeoutBranch.keepOk {k : Kind} (hb : TimeoutBranch k d d') (h : d.KeepOk) :
    d'.KeepOk := by
  have hstop : (d.stopTimeout k).KeepOk := by
    refine Steady.keepOk (.setTransfer d ?_) h
    exact id
  cases hb with
  | idle before => exact hstop
  | ended message hk before => exact endTransfer_resumed k h _
  | cleanup message hk before d1 sent =>
    have hs : d1.KeepOk := by
      rw [sent]
      exact (Steady.send _ _ _).keepOk hstop
    refine resumed_keepOk ?_ _
    exact hs.kept

/-! ## Links and sessions -/

theorem startSession_keepOk (d : Dev) : d.startSession.KeepOk := by
  refine keepOk_of_session ?_ ?_
  · simp [Dev.startSession]
  · simp [Dev.startSession]

/-- what makes a link of the transports -/
structure SameLine (l l' : Link) : Prop where
  transport : l'.transport = l.transport
  serialOpen : l'.serialOpen = l.serialOpen
  wifiConnected : l'.wifiConnected = l.wifiConnected

theorem SameLine.isConnected {l l' : Link} (h : SameLine l l') :
    l'.isConnected = l.isConnected := by
  unfold Link.isConnected
  rw [h.transport, h.serialOpen, h.wifiConnected]

theorem scheduleSerialReconnect_line (portName : String) (delayMs : Int) (d : Dev) :
    SameLine d.link (d.scheduleSerialReconnect portName delayMs).link ∧
      (d.scheduleSerialReconnect portName delayMs).keep = d.keep := by
  unfold Dev.scheduleSerialReconnect
  split
  · exact ⟨⟨rfl, rfl, rfl⟩, rfl⟩
  · split <;> exact ⟨⟨rfl, rfl, rfl⟩, rfl⟩

theorem planReconnect_line (lastPort : String) (d : Dev) :
    SameLine d.link (d.planReconnect lastPort).link ∧
      (d.planReconnect lastPort).keep = d.keep := by
  unfold Dev.planReconnect
  split
  · split
    · cases d.link.mdns <;> exact ⟨⟨rfl, rfl, rfl⟩, rfl⟩
    · exact ⟨⟨rfl, rfl, rfl⟩, rfl⟩
  · split
    · let d1 : Dev := { d.put (.forgetPort lastPort) with
        link := { d.link with serialReconnectAttempts := 0 } }
      obtain ⟨hl, hk⟩ := scheduleSerialReconnect_line lastPort 1500 d1
      exact ⟨⟨hl.transport, hl.serialOpen, hl.wifiConnected⟩, hk⟩
    · exact ⟨⟨rfl, rfl, rfl⟩, rfl⟩

@[simp] theorem dropTransfer_link (k : Kind) (err : Signal) (d : Dev) :
    (d.dropTransfer k err).link = d.link := by
  unfold Dev.dropTransfer
  split <;> rfl

@[simp] theorem dropTransfer_keep (k : Kind) (err : Signal) (d : Dev) :
    (d.dropTransfer k err).keep = d.keep := by
  unfold Dev.dropTransfer
  split <;> rfl

theorem onTransportConnected_false_line (d : Dev) :
    SameLine d.link (d.onTransportConnected false).link := by
  constructor
  · simp [Dev.onTransportConnected, (planReconnect_line _ _).1.transport]
  · simp [Dev.onTransportConnected, (planReconnect_line _ _).1.serialOpen]
  · simp [Dev.onTransportConnected, (planReconnect_line _ _).1.wifiConnected]

theorem onTransportConnected_false_suspended (d : Dev) :
    (d.onTransportConnected false).keep.suspended = false := by
  simp [Dev.onTransportConnected, (planReconnect_line _ _).2]

/-- the loss of a link that is down -/
theorem lost_keepOk (h : d.isConnected = false) : (d.onTransportConnected false).KeepOk := by
  refine keepOk_of_down (suspendedBusy_of_false (onTransportConnected_false_suspended d)) ?_
  rintro ⟨hup, -⟩
  rw [(onTransportConnected_false_line d).isConnected] at hup
  exact absurd (h.symm.trans hup) Bool.false_ne_true

theorem serialClose_line (d : Dev) : d.serialClose.link.serialOpen = false ∧
    d.serialClose.link.transport = d.link.transport := by
  unfold Dev.serialClose
  split
  · dsimp only
    split
    · exact ⟨rfl, rfl⟩
    · exact ⟨(onTransportConnected_false_line _).serialOpen,
        (onTransportConnected_false_line _).transport⟩
  · rename_i h
    exact ⟨by simpa using h, rfl⟩

theorem serialClose_suspendedBusy (h : d.SuspendedBusy) : d.serialClose.SuspendedBusy := by
  unfold Dev.serialClose
  split
  · dsimp only
    split
    · exact h
    · exact suspendedBusy_of_false (onTransportConnected_false_suspended _)
  · exact h

theorem Link.not_sessionUp_serial {l : Link} (ht : l.transport = .serial)
    (ho : l.serialOpen = false) : ¬ l.SessionUp := by
  rintro ⟨hup, -⟩
  unfold Link.isConnected at hup
  rw [ht] at hup
  exact absurd (ho.symm.trans hup) Bool.false_ne_true

theorem onWifi_iff (d : Dev) : d.onWifi = true ↔ d.link.transport = .wifi := by
  unfold Dev.onWifi
  cases d.link.transport <;> decide

theorem not_onWifi_iff (d : Dev) : ¬ d.onWifi = true ↔ d.link.transport = .serial := by
  unfold Dev.onWifi
  cases d.link.transport <;> decide

theorem serialClose_keepOk (h : d.KeepOk) : d.serialClose.KeepOk := by
  cases ht : d.link.transport with
  | serial =>
    obtain ⟨ho, ht'⟩ := serialClose_line d
    exact keepOk_of_down (serialClose_suspendedBusy h.busy)
      (Link.not_sessionUp_serial (ht'.trans ht) ho)
  | wifi =>
    unfold Dev.serialClose
    split
    · dsimp only
      split
      · refine Steady.keepOk (d := d) ⟨rfl, rfl, ?_, id⟩ h
        unfold Link.SessionUp Link.isConnected
        rw [ht]
        exact id
      · rename_i hw
        have hw' : d.link.transport = .serial := (not_onWifi_iff _).mp hw
        exact absurd (ht.symm.trans hw') (by decide)
    · exact h

theorem transportClose_keepOk (h : d.KeepOk) : d.transportClose.KeepOk := by
  unfold Dev.transportClose
  split
  · exact (Steady.put _ _).keepOk h
  · exact serialClose_keepOk h

theorem connectToDevice_keepOk (portName : String) (h : d.SuspendedBusy) :
    (d.connectToDevice portName).1.KeepOk := by
  unfold Dev.connectToDevice
  dsimp only
  split
  · exact startSession_keepOk _
  · rename_i hfail
    unfold Dev.serialOpenPort at hfail ⊢
    dsimp only at hfail ⊢
    split at hfail
    · exact absurd rfl hfail
    · rename_i hopen
      rw [if_neg hopen]
      refine keepOk_of_down (serialClose_suspendedBusy (d := d.setTransport .serial) h) ?_
      obtain ⟨ho, ht⟩ := serialClose_line (d.setTransport .serial)
      exact Link.not_sessionUp_serial ht ho

/-- a target that does not parse falls back to the serial port -/
def Malformed (target : String) : Prop := ∃ msg, parseTarget target = .error msg

theorem connectToDeviceWifi_keepOk (hostPort : String) (h : d.KeepOk)
    (hc : d.link.transport = .wifi → d.link.serialOpen = true → Malformed hostPort → d.Kept) :
    (d.connectToDeviceWifi hostPort).KeepOk := by
  unfold Dev.connectToDeviceWifi Dev.wifiOpen
  dsimp only
  cases hp : parseTarget hostPort with
  | error msg =>
    refine ⟨h.busy, fun hup => ?_⟩
    have hopen : d.link.serialOpen = true := hup.1
    cases ht : d.link.transport with
    | serial =>
      refine h.kept ⟨?_, ?_⟩
      · unfold Link.isConnected
        rw [ht]
        exact hopen
      · intro hw
        rw [ht] at hw
        exact absurd hw (by decide)
    | wifi => exact hc ht hopen ⟨msg, hp⟩
  | ok target =>
    obtain ⟨host, port⟩ := target
    refine keepOk_of_down h.busy ?_
    rintro ⟨-, hw⟩
    exact absurd (hw rfl).2 (by simp [Dev.put])

theorem stopScreenStream_steady (d : Dev) : Steady d d.stopScreenStream := by
  unfold Dev.stopScreenStream
  refine Steady.of_same ?_ ?_ ?_ <;> cases d.onWifi <;> simp

theorem startScreenStream_steady (fps : Int) (d : Dev) : Steady d (d.startScreenStream fps) := by
  unfold Dev.startScreenStream
  refine Steady.of_same ?_ ?_ ?_ <;> cases d.onWifi <;> simp

theorem stopStreaming_steady (d : Dev) :
    Steady d (if d.screen.streaming then d.stopScreenStream else d) := by
  split
  · exact stopScreenStream_steady d
  · exact .refl d

theorem disconnect_keepOk (d : Dev) : d.disconnect.KeepOk := by
  unfold Dev.disconnect
  have close (d1 : Dev) (hs : d1.keep.suspended = false) : (Dev.transportClose { d1 with
      link := { d1.link with userDisconnecting := true } }).resetCodec.KeepOk := by
    refine Steady.keepOk (.of_same rfl rfl rfl) ?_
    unfold Dev.transportClose
    split
    · rename_i hw
      have ht : d1.link.transport = .wifi := (onWifi_iff _).mp hw
      refine keepOk_of_down (suspendedBusy_of_false hs) ?_
      rintro ⟨-, hup⟩
      exact absurd (hup ht).1 (by simp [Dev.put])
    · rename_i hw
      have ht : d1.link.transport = .serial := (not_onWifi_iff _).mp hw
      obtain ⟨ho, ht'⟩ := serialClose_line { d1 with
        link := { d1.link with userDisconnecting := true } }
      exact keepOk_of_down (serialClose_suspendedBusy (suspendedBusy_of_false hs))
        (Link.not_sessionUp_serial (ht'.trans ht) ho)
  refine close _ ?_
  exact (stopStreaming_steady _).suspended

theorem trySerialReconnect_keepOk (h : d.KeepOk) : d.trySerialReconnect.KeepOk := by
  have hc (l : Link) : (Dev.connectToDevice l.serialReconnectPort
      { d with link := l }).1.KeepOk := connectToDevice_keepOk _ h.busy
  unfold Dev.trySerialReconnect
  split
  · exact h
  · split
    · exact ⟨h.busy, h.kept⟩
    · dsimp only
      split
      · exact hc _
      · exact ⟨(hc _).busy, (hc _).kept⟩

theorem tryWifiReconnect_keepOk (h : d.KeepOk)
    (hc : d.link.transport = .wifi → d.link.serialOpen = true → Malformed d.link.wifiTarget →
      d.Kept) : d.tryWifiReconnect.KeepOk := by
  unfold Dev.tryWifiReconnect
  split
  · exact h
  · refine connectToDeviceWifi_keepOk _ ?_ ?_
    · exact ⟨h.busy, h.kept⟩
    · exact hc

theorem setPreferredSerialPort_steady (portName : String) (d : Dev) :
    Steady d (d.setPreferredSerialPort portName) := by
  unfold Dev.setPreferredSerialPort
  dsimp only
  generalize trimmed portName = port
  split <;> exact ⟨rfl, rfl, id, id⟩

theorem setDeviceLogVerbose_steady (on : Bool) (d : Dev) :
    Steady d (d.setDeviceLogVerbose on) := by
  unfold Dev.setDeviceLogVerbose
  refine Steady.trans ?_ (.emit _ _)
  split
  · refine Steady.trans ?_ (.send _ _ _)
    exact .of_same rfl rfl rfl
  · exact .of_same rfl rfl rfl

theorem scheduleSerialReconnect_steady (portName : String) (delayMs : Int) (d : Dev) :
    Steady d (d.scheduleSerialReconnect portName delayMs) := by
  unfold Dev.scheduleSerialReconnect
  split
  · exact .refl d
  · split <;> exact ⟨rfl, rfl, id, id⟩

theorem onDeviceFound_keepOk (portName : String) (h : d.KeepOk) :
    (d.onDeviceFound portName).KeepOk := by
  have hc := connectToDevice_keepOk portName h.busy
  unfold Dev.onDeviceFound
  split
  · exact h
  · split
    · exact h
    · split
      · exact ⟨h.busy, h.kept⟩
      · dsimp only
        split
        · exact hc
        · refine (scheduleSerialReconnect_steady _ _ _).keepOk (Steady.keepOk ?_ hc)
          exact ⟨rfl, rfl, id, id⟩

theorem onDeviceLost_keepOk (portName : String) (h : d.KeepOk) :
    (d.onDeviceLost portName).KeepOk := by
  unfold Dev.onDeviceLost
  split
  · rename_i hl
    obtain ⟨hw, hc, -⟩ := hl
    unfold Dev.transportClose
    rw [if_neg (by exact hw)]
    have ht : d.link.transport = .serial := (not_onWifi_iff _).mp hw
    obtain ⟨ho, ht'⟩ := serialClose_line { d with keep := { d.keep with pingTimer := none } }
    exact keepOk_of_down (serialClose_suspendedBusy h.busy)
      (Link.not_sessionUp_serial (ht'.trans ht) ho)
  · exact h

theorem onServiceFound_steady (address : String) (port : Int) (d : Dev) :
    Steady d (d.onServiceFound address port) := by
  unfold Dev.onServiceFound
  split
  · exact .refl d
  · exact ⟨rfl, rfl, id, id⟩

theorem onTransportConnected_true_keepOk (h : d.SuspendedBusy)
    (hc : d.link.pendingSessionStart = false → d.link.SessionUp → d.Kept) :
    (d.onTransportConnected true).KeepOk := by
  have tail (d2 : Dev) (h2 : d2.KeepOk) : Dev.KeepOk (Dev.emit (if d2.onWifi ∧ d2.screen.wanted
      then d2.startShot .rearmScreen else d2) (.connectionChanged true)) := by
    refine (Steady.emit _ _).keepOk ?_
    split
    · exact ⟨h2.busy, h2.kept⟩
    · exact h2
  have start (d1 : Dev) (h1 : Steady d d1)
      (hp : d1.link.pendingSessionStart = d.link.pendingSessionStart) :
      Dev.KeepOk (if d1.link.pendingSessionStart then
        Dev.startSession { d1 with link := { d1.link with pendingSessionStart := false } }
        else d1) := by
    split
    · exact startSession_keepOk _
    · rename_i hpend
      refine ⟨h1.suspendedBusy h, fun hup => h1.kept.mpr (hc ?_ (h1.session hup))⟩
      rw [← hp]
      simpa using hpend
  unfold Dev.onTransportConnected
  dsimp only
  refine tail _ (start _ ?_ ?_)
  · split <;> exact ⟨rfl, rfl, id, id⟩
  · split <;> rfl

/-- over USB the state of the socket makes no session -/
theorem wifiConnected_keepOk (ht : d.link.transport = .serial) (h : d.KeepOk) (up : Bool) :
    Dev.KeepOk { d with link := { d.link with wifiConnected := up } } := by
  refine Steady.keepOk (d := d) ⟨rfl, rfl, ?_, id⟩ h
  unfold Link.SessionUp Link.isConnected
  rw [ht]
  exact id

theorem onWorkerConnected_keepOk (h : d.KeepOk) (hc : d.link.transport = .wifi →
    d.link.pendingSessionStart = true ∨ d.link.userDisconnecting = true ∨ d.Kept) :
    d.onWorkerConnected.KeepOk := by
  unfold Dev.onWorkerConnected
  dsimp only
  split
  · rename_i hw
    have ht : d.link.transport = .wifi := (onWifi_iff _).mp hw
    refine onTransportConnected_true_keepOk h.busy fun hp hup => ?_
    rcases hc ht with hx | hx | hx
    · exact absurd (hp.symm.trans hx) Bool.false_ne_true
    · exact absurd ((hup.2 ht).1.symm.trans hx) Bool.false_ne_true
    · exact hx
  · rename_i hw
    exact wifiConnected_keepOk (d := d) ((not_onWifi_iff _).mp hw) h true

theorem onWorkerDisconnected_keepOk (h : d.KeepOk) : d.onWorkerDisconnected.KeepOk := by
  unfold Dev.onWorkerDisconnected
  split
  · dsimp only
    split
    · rename_i hw
      have ht : d.link.transport = .wifi := (onWifi_iff _).mp hw
      refine lost_keepOk ?_
      unfold Dev.isConnected Link.isConnected
      rw [ht]
    · rename_i hw
      exact wifiConnected_keepOk (d := d) ((not_onWifi_iff _).mp hw) h false
  · exact h

theorem onPingTimer_keepOk (h : d.KeepOk) : d.onPingTimer.KeepOk := by
  unfold Dev.onPingTimer
  split
  · exact h
  · dsimp only
    have hm : Dev.KeepOk { d with keep := { d.keep with missedPongs := d.keep.missedPongs + 1 } } :=
      ⟨h.busy, h.kept⟩
    split
    · exact transportClose_keepOk ((stopStreaming_steady _).keepOk hm)
    · refine (Steady.send _ _ _).keepOk ?_
      exact ⟨h.busy, h.kept⟩

/-! ## Steps -/

/-- what a step needs for the keepalive to come back -/
def KeepaliveGoesOn (e : Event) (d : Dev) : Prop :=
  match e with
  | .frame f _ => d.isConnected = true → f.cmd = CMD_ACK → d.FinishGoesOn
  | .workerConnected => d.link.wifiCreated = true → d.link.transport = .wifi →
    d.link.pendingSessionStart = true ∨ d.link.userDisconnecting = true ∨ d.Kept
  | .call (.connectToDeviceWifi hostPort) =>
    d.link.transport = .wifi → d.link.serialOpen = true → Malformed hostPort → d.Kept
  | .expire .wifiReconnect =>
    d.link.transport = .wifi → d.link.serialOpen = true → Malformed d.link.wifiTarget → d.Kept
  | _ => True

theorem call_keepOk (c : Call) (h : d.KeepOk) (hc : KeepaliveGoesOn (.call c) d) :
    (d.call c).KeepOk := by
  have steady {d' : Dev} (hs : Steady d d') : d'.KeepOk := hs.keepOk h
  have shot {d' : Dev} (hs : Steady d d') (s : Shot) : (d'.startShot s).KeepOk :=
    steady (hs.trans (.of_same rfl rfl rfl))
  unfold Dev.call
  cases c with
  | connectToDevice p => exact connectToDevice_keepOk p h.busy
  | connectToDeviceWifi hp => exact connectToDeviceWifi_keepOk hp h hc
  | disconnect => exact disconnect_keepOk d
  | setPreferredSerialPort p => exact steady (setPreferredSerialPort_steady p d)
  | setDeviceLogVerbose on => exact steady (setDeviceLogVerbose_steady on d)
  | startScreenStream fps => exact steady (startScreenStream_steady fps d)
  | stopScreenStream => exact steady (stopScreenStream_steady d)
  | downloadFile r l =>
    refine steady (Steady.trans ?_ (.send _ _ _))
    exact .of_same rfl rfl rfl
  | uploadFile l r => exact uploadFile_keepOk l r h
  | uploadFiles us r => exact uploadFiles_keepOk us r h
  | uploadFolder u r => exact uploadFolder_keepOk u r h
  | deleteFile r => exact steady (fileCommand_steady _ _ d)
  | deleteTree r => exact steady (fileCommand_steady _ _ d)
  | renameFile o n => exact steady (fileCommand_steady _ _ d)
  | makeDirectory r => exact steady (fileCommand_steady _ _ d)
  | mountSdCard => exact steady (fileCommand_steady _ _ d)
  | unmountSdCard => exact steady (fileCommand_steady _ _ d)
  | startFwUpdate p => exact (startFwUpdate_branch p d).keepOk h
  | swapBanks => exact steady (swapBanks_steady d)
  | eraseInactiveBank => exact eraseInactiveBank_keepOk h
  | startEspUpdate p addr force => exact (startEspUpdate_branch p d addr force).keepOk h
  | reboot => exact shot (.send d _ _) _
  | initEsp32 => exact shot (.send d _ _) _
  | rebootEsp32 => exact shot (.send d _ _) _
  | _ => exact steady (.send d _ _)

theorem expire_keepOk (t : TimerId) (h : d.KeepOk) (hc : KeepaliveGoesOn (.expire t) d) :
    (d.expire t).KeepOk := by
  unfold Dev.expire
  split
  · exact h
  · cases t with
    | ping => exact onPingTimer_keepOk h
    | transfer k => exact (onTransferTimeout_branch k d).keepOk h
    | wifiReconnect =>
      refine tryWifiReconnect_keepOk ?_ hc
      exact ⟨h.busy, h.kept⟩
    | serialReconnect =>
      refine trySerialReconnect_keepOk ?_
      exact ⟨h.busy, h.kept⟩

theorem resolveDialect_steady (d : Dev) : Steady d d.resolveDialect := by
  unfold Dev.resolveDialect
  split
  · refine Steady.trans (Steady.trans ?_ (.emit _ _)) (.send _ _ _)
    split
    · refine Steady.trans ?_ (.emit _ _)
      exact ⟨rfl, rfl, id, id⟩
    · exact ⟨rfl, rfl, id, id⟩
  · exact .refl d

theorem handleDeviceInfoResp_steady (payload : List UInt8) (d : Dev) :
    Steady d (d.handleDeviceInfoResp payload) := by
  unfold Dev.handleDeviceInfoResp
  split
  · exact .refl d
  · exact ⟨rfl, rfl, id, id⟩

theorem handleFileReadData_steady (payload : List UInt8) (d : Dev) :
    Steady d (d.handleFileReadData payload) := by
  unfold Dev.handleFileReadData
  split
  · exact .refl d
  · dsimp only
    split
    · split <;> exact ⟨rfl, rfl, id, id⟩
    · exact ⟨rfl, rfl, id, id⟩

theorem noted_steady (d : Dev) : Steady d d.noted := by
  refine Steady.trans ?_ (resolveDialect_steady _)
  exact ⟨rfl, rfl, id, id⟩

theorem onFrameReceived_keepOk (f : Frame) (h : d.KeepOk)
    (hf : f.cmd = CMD_ACK → d.FinishGoesOn) : (d.onFrameReceived f).KeepOk := by
  have hs := noted_steady d
  have hnoted := hs.keepOk h
  have branch := onFrameReceived_branch f d
  generalize d.onFrameReceived f = d' at branch
  cases branch with
  | ack hack =>
    refine handleAck_keepOk hnoted ?_
    have hgo := hf hack
    unfold Dev.FinishGoesOn Dev.CanUpload at hgo ⊢
    rw [(noted_quiet d).ops, noted_env, hs.suspended]
    exact hgo
  | nack hnack => exact handleNack_keepOk _ hnoted
  | pong hpong => exact ⟨hnoted.busy, hnoted.kept⟩
  | deviceInfo hinfo => exact (handleDeviceInfoResp_steady _ _).keepOk hnoted
  | fileData hdata => exact (handleFileReadData_steady _ _).keepOk hnoted
  | report ha hn => exact hnoted

theorem shot_keepOk (s : Shot) (h : d.KeepOk) : (d.shot s).KeepOk := by
  have h1 : Dev.KeepOk { d with shots := d.shots.erase s } := ⟨h.busy, h.kept⟩
  unfold Dev.shot
  split
  · exact h
  · cases s with
    | requestDeviceInfo => exact (Steady.send _ _ _).keepOk h1
    | closeLink =>
      dsimp only
      split
      · exact transportClose_keepOk h1
      · exact h1
    | rearmScreen =>
      dsimp only
      split
      · exact (startScreenStream_steady _ _).keepOk h1
      · exact h1
    | trySerialReconnect => exact trySerialReconnect_keepOk h1

theorem keepOk_step (e : Event) (d : Dev) (hd : d.KeepOk) (hc : KeepaliveGoesOn e d) :
    (step e d).KeepOk := by
  have h : d.fresh.KeepOk := ⟨hd.busy, hd.kept⟩
  unfold step Dev.handle
  cases e with
  | call c => exact call_keepOk c h hc
  | frame f dialect =>
    dsimp only
    split
    · rename_i hup
      refine onFrameReceived_keepOk f ?_ (hc hup)
      exact ⟨h.busy, h.kept⟩
    · exact h
  | workerValidated dialect =>
    dsimp only
    split
    · exact ⟨h.busy, h.kept⟩
    · exact h
  | expire t => exact expire_keepOk t h hc
  | shot s => exact shot_keepOk s h
  | serialError => exact serialClose_keepOk h
  | transportError msg => exact ⟨h.busy, h.kept⟩
  | workerConnected =>
    dsimp only
    split
    · rename_i hw
      exact onWorkerConnected_keepOk h (hc hw)
    · exact h
  | workerDisconnected => exact onWorkerDisconnected_keepOk h
  | screenPortReady port =>
    dsimp only
    split
    · exact ⟨h.busy, h.kept⟩
    · exact h
  | inboundActivity =>
    dsimp only
    split
    · exact ⟨h.busy, h.kept⟩
    · exact h
  | deviceFound p => exact onDeviceFound_keepOk p h
  | deviceLost p => exact onDeviceLost_keepOk p h
  | setMdnsDiscovery present => exact ⟨h.busy, h.kept⟩
  | serviceFound address port =>
    dsimp only
    split
    · exact (onServiceFound_steady _ _ _).keepOk h
    · exact h
  | env env => exact ⟨h.busy, h.kept⟩

/-- **The keepalive comes back**, along every run whose steps let it. -/
theorem keepalive_restored (es : List Event) (h : Run.Along step KeepaliveGoesOn es init) :
    Run.Throughout step Dev.Watched es init := by
  refine Run.throughout_of_along step (fun _ hd => hd.watched) keepOk_step es init ?_ h
  refine keepOk_of_down (suspendedBusy_of_false rfl) ?_
  rintro ⟨hup, -⟩
  exact absurd hup Bool.false_ne_true

/-- over USB, with every local file one byte long: a call and three ACKs -/
def ackedRun (c : Call) : List Event :=
  [.env { serialOpens := fun _ => true, readFile := fun _ => some [1] },
    .call (.connectToDevice "COM3"), .call c, .frame ⟨CMD_ACK, 0, []⟩ .Correct,
    .frame ⟨CMD_ACK, 0, []⟩ .Correct, .frame ⟨CMD_ACK, 0, []⟩ .Correct]

theorem keepalive_restored_upload :
    Run.Throughout step Dev.Watched (ackedRun (.uploadFile "a" "/sd/a")) init := by
  refine keepalive_restored _ ⟨trivial, trivial, trivial, ?_, ?_, ?_, trivial⟩
  all_goals
    intro _ _ _ _ _ hi
    exact absurd hi (by decide)

/-- the same file as a queue of one: its FINISH ACK leaves the keepalive suspended -/
theorem queuedUpload_unwatched :
    let d := Run.exec step (ackedRun (.uploadFiles ["a"] "/sd")) init
    d.out = [.signal (.multiUploadComplete 1)] ∧ d.link.SessionUp ∧ (∀ o, ¬ d.Active o) ∧
      d.keep.suspended = true ∧ d.keep.pingTimer = none ∧ ¬ d.Watched := by
  have hup : (Run.exec step (ackedRun (.uploadFiles ["a"] "/sd")) init).link.SessionUp :=
    ⟨by decide, fun h => absurd h (by decide)⟩
  have hidle (o : Operation) :
      ¬ (Run.exec step (ackedRun (.uploadFiles ["a"] "/sd")) init).Active o := by
    cases o with
    | transfer k => cases k <;> decide
    | bankErase => decide
  refine ⟨by decide, hup, hidle, by decide, by decide, fun h => ?_⟩
  have hs := (h hup hidle).1
  exact absurd hs (by decide)

end QMon.Device
