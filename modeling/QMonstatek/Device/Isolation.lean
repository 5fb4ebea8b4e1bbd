import QMonstatek.Device.Worked

/-!
# Sessions and pending operations

`Marker`           the pieces of state that route an ACK or NACK to an operation;
`Signal.answers s` the commands whose answer `s` reports, none for a signal that is no outcome;
`Tracked`          the device with what it put out since the link was last reported up or down;
`Isolated e t`     an outcome reported for an ACK or NACK answers a command of this session.

`lost_unmarked_iff`: the loss of the link leaves no marker exactly when no erase and no file
command was pending: these two are never cleared.  `isolated`: along the runs in which the link
is lost only then, and comes up only with no marker set, every step is `Isolated` and the loss of
the link leaves no marker.
-/

namespace QMon.Device
open Rpc

inductive Marker where
  | bankErase
  | bankSwap
  | fileCommand
  | transfer (k : Kind)
  deriving DecidableEq, Repr

def Dev.Marked (d : Dev) : Marker → Prop
  | .bankErase => d.ops.bankErasePending = true
  | .bankSwap => d.ops.bankSwapPending = true
  | .fileCommand => d.ops.pendingFileCmd ≠ 0
  | .transfer k => (d.get k).state ≠ .Idle

/-- the command the operation began with -/
def Dev.command (d : Dev) : Marker → UInt8
  | .bankErase => CMD_FW_BANK_ERASE
  | .bankSwap => CMD_FW_BANK_SWAP
  | .fileCommand => d.ops.pendingFileCmd
  | .transfer k => k.machine.cmdStart

def Dev.Unmarked (d : Dev) : Prop := ∀ m, ¬ d.Marked m

theorem unmarked_of_ops {d : Dev} (h : d.ops = {}) : d.Unmarked := by
  intro m hm
  unfold Dev.Marked Dev.get at hm
  rw [h] at hm
  cases m with
  | bankErase => exact absurd hm Bool.false_ne_true
  | bankSwap => exact absurd hm Bool.false_ne_true
  | fileCommand => exact absurd rfl hm
  | transfer k => cases k <;> exact absurd rfl hm

/-- the loss of the link clears every marker but two -/
theorem lost_unmarked_iff (d : Dev) : (d.onTransportConnected false).Unmarked ↔
    d.ops.bankErasePending = false ∧ d.ops.pendingFileCmd = 0 := by
  have ho := onTransportConnected_false_ops d
  constructor
  · intro h
    have herase := h .bankErase
    have hfile := h .fileCommand
    unfold Dev.Marked at herase hfile
    rw [ho] at herase hfile
    exact ⟨by simpa [Operations.reset] using herase, by simpa [Operations.reset] using hfile⟩
  · rintro ⟨herase, hfile⟩ m hm
    unfold Dev.Marked Dev.get at hm
    rw [ho] at hm
    cases m with
    | bankErase => exact absurd (herase.symm.trans hm) Bool.false_ne_true
    | bankSwap => exact absurd hm Bool.false_ne_true
    | fileCommand => exact hm hfile
    | transfer k =>
      dsimp only at hm
      rw [Operations.get_reset] at hm
      exact hm (Transfer.dropped_state _)

/-! ## Where a marker comes from -/

/-- a marker after a step was there before, or its command is sent in the step -/
theorem Worked.marked {e : Event} {d d' : Dev} (w : Worked e d d') {m : Marker}
    (hm : d'.Marked m) :
    (d.Marked m ∧ d.command m = d'.command m) ∨
      d'.command m ∈ (opSent d'.out).map Prod.fst := by
  cases m with
  | bankErase =>
    cases w.erase with
    | same flag => exact .inl ⟨flag.symm.trans hm, rfl⟩
    | started call before idle idle' sent => exact .inr sent
    | answered reply before after => exact absurd (after.symm.trans hm) Bool.false_ne_true
  | bankSwap => exact (w.swap hm).imp_left fun h => ⟨h, rfl⟩
  | fileCommand =>
    rcases w.pending with h | h | h
    · refine .inl ⟨?_, h.symm⟩
      show d.ops.pendingFileCmd ≠ 0
      rw [← h]
      exact hm
    · exact absurd h hm
    · exact .inr h
  | transfer k =>
    have hm' : (d'.get k).state ≠ .Idle := hm
    cases w.change k with
    | same get sent => exact .inl ⟨by rw [get] at hm'; exact hm', rfl⟩
    | idle before after sent => exact absurd after hm
    | started data payload before cause alone alone' file size get sent =>
      refine .inr (List.mem_map.mpr ⟨(k.machine.cmdStart, payload), ?_, rfl⟩)
      have hs : (k.machine.cmdStart, payload) ∈ k.sent d'.out := by
        rw [sent]
        simp
      exact List.mem_of_mem_filter hs
    | acked ack before get sent =>
      refine .inl ⟨?_, rfl⟩
      show (d.get k).state ≠ .Idle
      rcases before with h | h <;> (rw [h]; decide)
    | ended before after sent => exact absurd after hm
    | cleanup esp timeout before after sent => exact absurd after hm

/-! ## The current session -/

structure Tracked where
  dev : Dev := init
  session : List Out := []

def Out.isReport : Out → Bool
  | .signal (.connectionChanged _) => true
  | _ => false

/-- what was put out since the last report of the link, `l` coming after `session` -/
def sinceReport (session : List Out) : List Out → List Out
  | [] => session
  | o :: l => sinceReport (if o.isReport then [] else session ++ [o]) l

theorem sinceReport_quiet (session l : List Out) (h : ∀ o ∈ l, o.isReport = false) :
    sinceReport session l = session ++ l := by
  induction l generalizing session with
  | nil => exact (List.append_nil _).symm
  | cons o l ih =>
    unfold sinceReport
    rw [h o List.mem_cons_self, if_neg Bool.false_ne_true,
      ih _ fun o' ho => h o' (List.mem_cons_of_mem o ho), List.append_assoc]
    rfl

def track (e : Event) (t : Tracked) : Tracked :=
  { dev := step e t.dev, session := sinceReport t.session (step e t.dev).out }

/-- the commands handed to a transport in this session -/
def Tracked.sent (t : Tracked) : List UInt8 := (opSent t.session).map Prod.fst

/-- every marker has its command in this session -/
def Tracked.Backed (t : Tracked) : Prop := ∀ m, t.dev.Marked m → t.dev.command m ∈ t.sent

def Dev.reported (d : Dev) (connected : Bool) : Prop :=
  Out.signal (.connectionChanged connected) ∈ d.out

instance (d : Dev) (connected : Bool) : Decidable (d.reported connected) := by
  unfold Dev.reported
  infer_instance

/-- the link is lost with no erase and no file command pending, and comes up with no marker set,
unless the same handler has just reported it lost -/
def LinkGoesClean (e : Event) (t : Tracked) : Prop :=
  ((step e t.dev).reported false →
    t.dev.ops.bankErasePending = false ∧ t.dev.ops.pendingFileCmd = 0) ∧
  ((step e t.dev).reported true → ¬ (step e t.dev).reported false → t.dev.Unmarked)

theorem Dev.reported_iff (d : Dev) (connected : Bool) :
    d.reported connected ↔ Signal.connectionChanged connected ∈ reports d.out := by
  unfold Dev.reported reports
  rw [List.mem_filterMap]
  constructor
  · intro h
    exact ⟨_, h, rfl⟩
  · rintro ⟨o, ho, hr⟩
    unfold Out.report? at hr
    split at hr
    · rw [← Option.some.inj hr]
      exact ho
    · exact absurd (Option.some.inj hr) (by simp)
    · exact absurd hr (by simp)

theorem unmarked_of_reported {e : Event} {t : Tracked} (hc : LinkGoesClean e t)
    (connected : Bool) (hr : (step e t.dev).reported connected) : (step e t.dev).Unmarked := by
  have w := worked_step e t.dev
  obtain ⟨rs, hrs, -, hclear⟩ := w.reported
  have cleared (b : Bool) (hb : (step e t.dev).reported b) :
      Cleared b t.dev.fresh (step e t.dev) := by
    rw [Dev.reported_iff, hrs] at hb
    exact hclear b hb
  have hsent : (opSent (step e t.dev).out).map Prod.fst = [] := by
    rw [(cleared connected hr).sent]
    rfl
  intro m hm
  rcases w.marked hm with ⟨hbefore, -⟩ | hnow
  · by_cases hlost : (step e t.dev).reported false
    · obtain ⟨herase, hfile⟩ := hc.1 hlost
      cases m with
      | bankErase => exact absurd (herase.symm.trans hbefore) Bool.false_ne_true
      | bankSwap =>
        exact absurd (((cleared false hlost).swap rfl).symm.trans hm) Bool.false_ne_true
      | fileCommand => exact hbefore hfile
      | transfer k => exact hm ((cleared false hlost).idle rfl k)
    · cases connected with
      | false => exact hlost hr
      | true => exact hc.2 hr hlost m hbefore
  · rw [hsent] at hnow
    exact absurd hnow List.not_mem_nil

theorem backed_step (e : Event) (t : Tracked) (h : t.Backed) (hc : LinkGoesClean e t) :
    (track e t).Backed := by
  intro m hm
  by_cases hr : ∃ connected, (step e t.dev).reported connected
  · obtain ⟨connected, hr⟩ := hr
    exact absurd hm (unmarked_of_reported hc connected hr m)
  · have hquiet : ∀ o ∈ (step e t.dev).out, o.isReport = false := by
      intro o ho
      unfold Out.isReport
      split
      · exact absurd ⟨_, ho⟩ hr
      · rfl
    unfold Tracked.sent track
    dsimp only
    rw [sinceReport_quiet _ _ hquiet, opSent_append, List.map_append, List.mem_append]
    rcases (worked_step e t.dev).marked hm with ⟨hbefore, hcmd⟩ | hnow
    · have hb := h m hbefore
      rw [show t.dev.command m = (step e t.dev).command m from hcmd] at hb
      exact .inl hb
    · exact .inr hnow

/-! ## What a reply reports -/

/-- the commands whose answer the signal reports -/
def Signal.answers : Signal → List UInt8
  | .bankEraseComplete => [CMD_FW_BANK_ERASE]
  | .bankEraseError _ => [CMD_FW_BANK_ERASE]
  | .bankSwapStarted => [CMD_FW_BANK_SWAP]
  | .bankSwapError _ => [CMD_FW_BANK_SWAP]
  | .fileDeleteComplete => [CMD_FILE_DELETE, CMD_FILE_DELETE_TREE]
  | .fileRenameComplete => [CMD_FILE_RENAME]
  | .fileMkdirComplete => [CMD_FILE_MKDIR]
  | .sdMountChanged mounted => [if mounted then CMD_SD_MOUNT else CMD_SD_UNMOUNT]
  | .fwUpdateComplete => [CMD_FW_UPDATE_START]
  | .fwUpdateError _ => [CMD_FW_UPDATE_START]
  | .espUpdateComplete => [CMD_ESP_UPDATE_START]
  | .espUpdateError _ => [CMD_ESP_UPDATE_START]
  | .fileUploadComplete => [CMD_FILE_WRITE_START]
  | .multiUploadComplete _ => [CMD_FILE_WRITE_START, CMD_FILE_MKDIR]
  | .fileOperationError _ => [CMD_FILE_WRITE_START, CMD_FILE_MKDIR]
  | _ => []

/-- the outcome belongs to an operation that is pending -/
def Dev.Owes (d : Dev) (s : Signal) : Prop :=
  s.answers ≠ [] → ∃ m, d.Marked m ∧ d.command m ∈ s.answers

/-- every signal from `d` to `d'` meets `P` -/
def Tells (P : Signal → Prop) (d d' : Dev) : Prop :=
  ∀ s, Out.signal s ∈ d'.out → Out.signal s ∈ d.out ∨ P s

variable {P : Signal → Prop} {a b c d d' : Dev}

theorem Tells.of_out (h : d'.out = d.out) : Tells P d d' := by
  intro s hs
  rw [h] at hs
  exact .inl hs

theorem Tells.trans (h : Tells P a b) (h' : Tells P b c) : Tells P a c := by
  intro s hs
  rcases h' s hs with hb | hp
  · exact h s hb
  · exact .inr hp

theorem Tells.put (h : Tells P a b) {o : Out} (ho : ∀ s, o = .signal s → P s) :
    Tells P a (b.put o) := by
  intro s hs
  rcases List.mem_append.mp hs with hb | hb
  · exact h s hb
  · exact .inr (ho s (List.mem_singleton.mp hb).symm)

theorem Tells.emit (h : Tells P a b) {s : Signal} (hs : P s) : Tells P a (b.emit s) :=
  h.put fun _ heq => Out.signal.inj heq ▸ hs

theorem Tells.send (h : Tells P a b) (cmd : UInt8) (payload : List UInt8) :
    Tells P a (b.sendCommand cmd payload) := by
  obtain ⟨o, ho, -, heq⟩ := b.sendCommand_eq cmd payload
  rw [heq]
  refine Tells.put (b := { b with seqCounter := b.seqCounter + 1 }) h fun s hs => ?_
  rw [hs] at ho
  exact absurd ho (by simp [Out.command?])

theorem Tells.resumed (h : Tells P a b) {s : Signal} (hs : P s) :
    Tells P a (b.resumeKeepaliveIfIdle.emit s) :=
  (h.trans (.of_out b.resumeKeepaliveIfIdle_out)).emit hs

theorem Signal.isProgress_answers {s : Signal} (h : s.isProgress = true) : s.answers = [] := by
  cases s <;> first | rfl | exact absurd h Bool.false_ne_true

section
variable (quiet : ∀ s : Signal, s.answers = [] → P s)
include quiet

theorem tells_chunkClosed (k : Kind) : ChunkClosed k (Tells P) where
  refl _ := .of_out rfl
  trans := Tells.trans
  set d t _ := .of_out (d.setTransfer_out k t)
  emit _ _ hs := Tells.emit (.of_out rfl) (quiet _ (Signal.isProgress_answers hs))
  send _ cmd payload _ _ := Tells.send (.of_out rfl) cmd payload

/-- a call that starts transfer `k` tells of its errors and its progress -/
theorem StartBranch.tells {k : Kind} {path : String} (h : StartBranch k path d d')
    (failed : ∀ message, P (k.error message)) : Tells P d d' := by
  cases h with
  | refused message busy => exact Tells.emit (.of_out rfl) (failed message)
  | rejected flashAddr data t message idle read after empty =>
    exact Tells.emit (.of_out rfl) (failed message)
  | started flashAddr data payload t status idle alone read size image progress =>
    refine Tells.trans ?_ ((tells_chunkClosed quiet k).emitAll progress _)
    unfold Dev.sendStart
    refine Tells.send (.of_out ?_) _ _
    rw [Dev.suspendKeepalive_out]
    rfl

section
variable (failed : ∀ message, P (.fileOperationError message))
include failed

theorem uploadItem_tells (index : Int) (item : UploadQueueItem) (d : Dev) :
    Tells P d (d.uploadItem index item) := by
  unfold Dev.uploadItem
  refine Tells.trans (Tells.emit ?_ (quiet _ ?_))
    ((uploadFile_branch item.localPath _ item.remotePath).tells quiet failed)
  · exact .of_out rfl
  · rfl

variable (complete : ∀ total, P (.multiUploadComplete total))
include complete

theorem startUploadQueue_tells (d : Dev) : Tells P d d.startUploadQueue := by
  unfold Dev.startUploadQueue
  split
  · exact Tells.emit (.of_out rfl) (complete _)
  · exact uploadItem_tells quiet failed _ _ d

theorem advanceUploadQueue_tells (d : Dev) : Tells P d d.advanceUploadQueue := by
  unfold Dev.advanceUploadQueue
  dsimp only
  split
  · exact Tells.emit (.of_out rfl) (complete _)
  · exact uploadItem_tells quiet failed _ _ d

theorem advanceMkdirQueue_tells (d : Dev) : Tells P d d.advanceMkdirQueue := by
  unfold Dev.advanceMkdirQueue
  dsimp only
  split
  · split
    · exact Tells.trans (.of_out rfl) (startUploadQueue_tells quiet failed complete _)
    · exact Tells.emit (.of_out rfl) (complete _)
  · exact Tells.send (.of_out rfl) _ _

end
end

theorem Dev.owes_quiet (d : Dev) (s : Signal) (h : s.answers = []) : d.Owes s :=
  fun hn => absurd h hn

theorem Dev.owes_marked {m : Marker} (hm : d.Marked m) {s : Signal}
    (hs : d.command m ∈ s.answers) : d.Owes s := fun _ => ⟨m, hm, hs⟩

/-- a list of commands that holds the marker's own -/
theorem Dev.owes_transfer {k : Kind} (hm : (d.get k).state ≠ .Idle) {s : Signal}
    (hs : k.machine.cmdStart ∈ s.answers) : d.Owes s := d.owes_marked (m := .transfer k) hm hs

theorem Dev.owes_file {cmd : UInt8} (hp : d.ops.pendingFileCmd = cmd) (hn : cmd ≠ 0)
    {s : Signal} (hs : cmd ∈ s.answers) : d.Owes s := by
  refine Dev.owes_marked (m := .fileCommand) ?_ ?_
  · rw [← hp] at hn
    exact hn
  · rw [← hp] at hs
    exact hs

/-! ### ACK -/

theorem ackFileCommand_tells (d : Dev) : Tells d.Owes d d.ackFileCommand := by
  have cleared : Tells d.Owes d d.clearPending := .of_out rfl
  have branch := ackFileCommand_branch d
  generalize d.ackFileCommand = d' at branch
  cases branch with
  | deleted pending =>
    refine cleared.emit ?_
    rcases pending with hp | hp
    · exact Dev.owes_file hp (by decide) (by simp [Signal.answers])
    · exact Dev.owes_file hp (by decide) (by simp [Signal.answers])
  | renamed pending =>
    exact cleared.emit (Dev.owes_file pending (by decide) List.mem_cons_self)
  | madeDirectory pending queue =>
    exact cleared.emit (Dev.owes_file pending (by decide) List.mem_cons_self)
  | nextDirectory pending queue =>
    have mine {s : Signal} (hs : CMD_FILE_MKDIR ∈ s.answers) : d.Owes s :=
      Dev.owes_file pending (by decide) hs
    exact cleared.trans (advanceMkdirQueue_tells d.owes_quiet
      (fun _ => mine (by simp [Signal.answers])) (fun _ => mine (by simp [Signal.answers])) _)
  | mounted on pending =>
    refine Tells.emit ?_ (Dev.owes_file pending ?_ ?_)
    · exact .of_out rfl
    · cases on <;> decide
    · exact List.mem_cons_self
  | late pending => exact .of_out rfl

/-- the signals of an ACK belong to what the ACK finds pending -/
theorem handleAck_tells (d : Dev) : Tells d.Owes d d.handleAck := by
  have branch := handleAck_branch d
  generalize d.handleAck = d' at branch
  cases branch with
  | bankErase pending =>
    refine Tells.resumed ?_ (d.owes_marked (m := .bankErase) pending List.mem_cons_self)
    exact .of_out rfl
  | bankSwap pending =>
    refine Tells.emit ?_ (d.owes_marked (m := .bankSwap) pending List.mem_cons_self)
    exact .of_out rfl
  | chunk k status mine before progress =>
    exact (tells_chunkClosed d.owes_quiet k).ackChunk progress d
  | finished k mine before =>
    refine Tells.resumed ?_ (Dev.owes_transfer (k := k) ?_ ?_)
    · exact .of_out rfl
    · rw [before]
      decide
    · cases k <;> exact List.mem_cons_self
  | nextFile mine before queue =>
    have owes {s : Signal} (hs : CMD_FILE_WRITE_START ∈ s.answers) : d.Owes s := by
      refine Dev.owes_transfer (k := .fileUpload) ?_ hs
      show d.ops.fileUpload.state ≠ .Idle
      rw [before]
      decide
    refine Tells.trans ?_ (advanceUploadQueue_tells d.owes_quiet
      (fun _ => owes List.mem_cons_self) (fun _ => owes List.mem_cons_self) _)
    exact .of_out rfl
  | fileCommand mine idle => exact ackFileCommand_tells d

/-! ### NACK -/

theorem handleNack_tells (payload : List UInt8) (d : Dev) :
    Tells d.Owes d (d.handleNack payload) := by
  have branch := handleNack_branch payload d
  generalize d.handleNack payload = d' at branch
  cases branch with
  | bankErase pending =>
    refine Tells.resumed ?_ (d.owes_marked (m := .bankErase) pending List.mem_cons_self)
    exact .of_out rfl
  | bankSwap pending =>
    refine Tells.emit ?_ (d.owes_marked (m := .bankSwap) pending List.mem_cons_self)
    exact .of_out rfl
  | update k hk before =>
    refine Tells.resumed ?_ (Dev.owes_transfer before ?_)
    · exact .of_out rfl
    · cases k <;> exact List.mem_cons_self
  | upload mine before =>
    refine Tells.emit ?_ (Dev.owes_transfer (k := .fileUpload) before List.mem_cons_self)
    exact .of_out (Dev.resumeKeepaliveIfIdle_out _)
  | late mine idle stale => exact .of_out rfl
  | fileCommand mine idle stale =>
    refine Tells.emit ?_ (d.owes_quiet _ rfl)
    exact .of_out rfl

/-! ## Runs -/

/-- an outcome reported for an ACK or NACK answers a command of the current session -/
def Isolated (e : Event) (t : Tracked) : Prop :=
  e.IsAck ∨ e.IsNack → ∀ s, Out.signal s ∈ (step e t.dev).out → s.answers ≠ [] →
    ∃ cmd ∈ s.answers, cmd ∈ t.sent

theorem noted_tells (hlegacy : P .legacyFirmwareDetected)
    (hmode : ∀ legacy, P (.legacyCompatModeChanged legacy)) (d : Dev) : Tells P d d.noted := by
  unfold Dev.noted Dev.resolveDialect
  split
  · refine Tells.send (Tells.emit ?_ (hmode _)) _ _
    split
    · refine Tells.emit ?_ hlegacy
      exact .of_out rfl
    · exact .of_out rfl
  · exact .of_out rfl

theorem Dev.owes_congr (h : d'.ops = d.ops) (s : Signal) (ho : d'.Owes s) : d.Owes s := by
  intro hn
  obtain ⟨m, hm, hs⟩ := ho hn
  refine ⟨m, ?_, ?_⟩
  · unfold Dev.Marked Dev.get at hm ⊢
    rw [h] at hm
    exact hm
  · unfold Dev.command at hs ⊢
    rw [h] at hs
    exact hs

theorem Tells.imp {Q : Signal → Prop} (h : Tells P a b) (hq : ∀ s, P s → Q s) : Tells Q a b :=
  fun s hs => (h s hs).imp_right (hq s)

theorem onFrameReceived_tells (f : Frame) (hf : f.cmd = CMD_ACK ∨ f.cmd = CMD_NACK) (d : Dev) :
    Tells d.Owes d (d.onFrameReceived f) := by
  have hnoted : Tells d.Owes d d.noted :=
    noted_tells (d.owes_quiet _ rfl) (fun _ => d.owes_quiet _ rfl) d
  have hops := (noted_quiet d).ops
  have other {cmd : UInt8} (ha : cmd ≠ CMD_ACK) (hn : cmd ≠ CMD_NACK) (hc : f.cmd = cmd) :
      False := by
    rw [hc] at hf
    exact hf.elim ha hn
  have branch := onFrameReceived_branch f d
  generalize d.onFrameReceived f = d' at branch
  cases branch with
  | ack hack => exact hnoted.trans ((handleAck_tells _).imp (Dev.owes_congr hops))
  | nack hnack => exact hnoted.trans ((handleNack_tells _ _).imp (Dev.owes_congr hops))
  | pong hc => exact (other (by decide) (by decide) hc).elim
  | deviceInfo hc => exact (other (by decide) (by decide) hc).elim
  | fileData hc => exact (other (by decide) (by decide) hc).elim
  | report ha hn => exact (hf.elim ha hn).elim

theorem isolated_step (e : Event) (t : Tracked) (h : t.Backed) : Isolated e t := by
  intro he s hs hn
  have tells : Tells t.dev.Owes t.dev.fresh (step e t.dev) := by
    obtain ⟨f, dialect, rfl, hf⟩ : ∃ f dialect, e = .frame f dialect ∧
        (f.cmd = CMD_ACK ∨ f.cmd = CMD_NACK) := by
      rcases he with ⟨f, dialect, heq, hf⟩ | ⟨f, dialect, heq, hf⟩
      · exact ⟨f, dialect, heq, .inl hf⟩
      · exact ⟨f, dialect, heq, .inr hf⟩
    unfold step Dev.handle
    dsimp only
    split
    · exact onFrameReceived_tells f hf (t.dev.fresh.validated dialect)
    · exact .of_out rfl
  rcases tells s hs with hnone | howes
  · exact absurd hnone List.not_mem_nil
  · obtain ⟨m, hm, hcmd⟩ := howes hn
    exact ⟨_, hcmd, h m hm⟩

/-- the loss of the link leaves no marker -/
def LossClears (e : Event) (t : Tracked) : Prop :=
  (step e t.dev).reported false → (step e t.dev).Unmarked

/-- **Sessions are isolated** along every run in which the link goes clean. -/
theorem isolated (es : List Event) (h : Run.Along track LinkGoesClean es {}) :
    Run.Along track (fun e t => Isolated e t ∧ LossClears e t) es {} := by
  refine Run.along_of_along track (I := Tracked.Backed) (fun e t hb hc => ?_) es {} ?_ h
  · refine ⟨⟨isolated_step e t hb, fun hlost => ?_⟩, backed_step e t hb hc⟩
    exact unmarked_of_reported hc false hlost
  · intro m hm
    exact absurd hm (unmarked_of_ops rfl m)

/-- over USB: a bank erase that is answered, then the link is lost and opened again -/
theorem isolated_erase : Run.Along track (fun e t => Isolated e t ∧ LossClears e t) [
    .env { serialOpens := fun _ => true }, .call (.connectToDevice "COM3"),
    .call .eraseInactiveBank, .frame ⟨CMD_ACK, 0, []⟩ .Correct, .serialError,
    .call (.connectToDevice "COM3")] {} := by
  refine isolated _ ⟨?_, ?_, ?_, ?_, ?_, ?_, trivial⟩
  · exact ⟨fun h => absurd h (by decide), fun h => absurd h (by decide)⟩
  · exact ⟨fun h => absurd h (by decide), fun _ _ => unmarked_of_ops rfl⟩
  · exact ⟨fun h => absurd h (by decide), fun h => absurd h (by decide)⟩
  · exact ⟨fun h => absurd h (by decide), fun h => absurd h (by decide)⟩
  · exact ⟨fun _ => ⟨by decide, by decide⟩, fun h => absurd h (by decide)⟩
  · exact ⟨fun h => absurd h (by decide), fun _ _ => unmarked_of_ops rfl⟩

/-- the same erase with the link lost before the answer: the ACK of the next session's
SET_LOG_LEVEL is reported as the end of the erase -/
theorem lostErase_reported :
    let t := Run.exec track [.env { serialOpens := fun _ => true },
      .call (.connectToDevice "COM3"), .call .eraseInactiveBank, .serialError,
      .call (.connectToDevice "COM3")] {}
    let ack := Event.frame ⟨CMD_ACK, 1, []⟩ .Correct
    .tx .serial ⟨CMD_SET_LOG_LEVEL, 1, [0]⟩ .Correct ∈ t.session ∧ t.sent = [] ∧
      .signal .bankEraseComplete ∈ (step ack t.dev).out ∧ ¬ Isolated ack t := by
  refine ⟨by decide, by decide, by decide, fun h => ?_⟩
  obtain ⟨cmd, -, hsent⟩ := h (.inl ⟨_, _, rfl, rfl⟩) .bankEraseComplete (by decide) (by decide)
  exact absurd hsent List.not_mem_nil

end QMon.Device
