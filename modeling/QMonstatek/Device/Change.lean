import QMonstatek.Device.Quiet

/-!
# What one handler can do to the operations

`Change k e d d'`     the ways the handler of `e` takes transfer `k` from `d` to `d'`;
`EraseChange e d d'`  the same for the bank erase;
`Worked e d d'`       both, with what becomes of the swap flag and of the pending file command.

`worked_step`: every step is `Worked`.  The laws of the operations follow from it alone.
-/

namespace QMon.Device
open Rpc

/-! ## Transfers as values -/

/-- the commands of transfer `k` -/
def Kind.owns (k : Kind) (cmd : UInt8) : Bool :=
  cmd == k.machine.cmdStart || cmd == k.machine.cmdData || cmd == k.machine.cmdFinish

/-- the commands of transfer `k` that were handed to a transport -/
def Kind.sent (k : Kind) (out : List Out) : List (UInt8 × List UInt8) :=
  (opSent out).filter (fun c => k.owns c.1)

/-- a transfer whose START has just been sent -/
def Transfer.fresh (k : Kind) (data : List UInt8) : Transfer :=
  { state := .WaitingStartAck, data := data, offset := 0, size := UInt32.ofNat data.length
    timeout := some k.machine.startMs }

def Transfer.chunkLen (k : Kind) (t : Transfer) : Int :=
  min (k.machine.CHUNK_SIZE : Int) (toInt (t.size - t.offset))

/-- the transfer after the ACK of START or of a chunk -/
def Transfer.next (k : Kind) (t : Transfer) : Transfer :=
  if t.offset ≥ t.size then
    { t with state := .WaitingFinishAck, timeout := some (k.machine.finishMs t.size) }
  else
    { t with
      state := .SendingData
      timeout := some k.machine.chunkMs
      offset := t.offset + ofInt (t.chunkLen k) }

/-- the command that ACK is answered with -/
def Transfer.nextCommand (k : Kind) (t : Transfer) : UInt8 × List UInt8 :=
  if t.offset ≥ t.size then (k.machine.cmdFinish, [])
  else (k.machine.cmdData,
    k.machine.offsetBytes t.offset ++ mid t.data (toInt t.offset) (t.chunkLen k))

/-- the other transfers are idle and no bank erase is pending -/
structure Dev.Alone (k : Kind) (d : Dev) : Prop where
  idle : ∀ k', k' ≠ k → (d.get k').state = .Idle
  erase : d.ops.bankErasePending = false

/-! ## The changes -/

def Event.IsAck (e : Event) : Prop := ∃ f dialect, e = .frame f dialect ∧ f.cmd = CMD_ACK
def Event.IsNack (e : Event) : Prop := ∃ f dialect, e = .frame f dialect ∧ f.cmd = CMD_NACK

/-- the local file a call names is `path`; the files of a queue are named by earlier calls -/
def Event.Names (path : String) : Event → Prop
  | .call (.startFwUpdate p) => path = p
  | .call (.startEspUpdate p _ _) => path = p
  | .call (.uploadFile p _) => path = p
  | _ => True

/-- the events that may start transfer `k`; a queued file starts on a reply -/
def Event.Starts (k : Kind) (e : Event) : Prop :=
  match k with
  | .fwUpdate => ∃ path, e = .call (.startFwUpdate path)
  | .espUpdate => ∃ path flashAddr force, e = .call (.startEspUpdate path flashAddr force)
  | .fileUpload => True

inductive Change (k : Kind) (e : Event) (d d' : Dev) : Prop
  /-- nothing of the transfer changes -/
  | same (get : d'.get k = d.get k) (sent : k.sent d'.out = k.sent d.out)
  /-- a refused start -/
  | idle (before : (d.get k).state = .Idle) (after : (d'.get k).state = .Idle)
      (sent : k.sent d'.out = k.sent d.out)
  /-- START is sent: of a transfer that was idle, or of the next file of the queue -/
  | started (data payload : List UInt8)
      (before : (d.get k).state = .Idle ∨ (d.get k).state = .WaitingFinishAck ∧ e.IsAck)
      (cause : e.Starts k)
      (alone : d.Alone k) (alone' : d'.Alone k)
      (file : ∃ path, e.Names path ∧ d.env.readFile path = some data)
      (size : UInt32.ofNat data.length ≠ 0)
      (get : d'.get k = .fresh k data)
      (sent : k.sent d'.out = k.sent d.out ++ [(k.machine.cmdStart, payload)])
  /-- an ACK, and the chunk or FINISH it is answered with -/
  | acked (ack : e.IsAck)
      (before : (d.get k).state = .WaitingStartAck ∨ (d.get k).state = .SendingData)
      (get : d'.get k = (d.get k).next k)
      (sent : k.sent d'.out = k.sent d.out ++ [(d.get k).nextCommand k])
  /-- completed, refused by the device, timed out, or dropped with the link -/
  | ended (before : (d.get k).state ≠ .Idle) (after : (d'.get k).state = .Idle)
      (sent : k.sent d'.out = k.sent d.out)
  /-- the timeout of the ESP32 update, with its FINISH to clean up -/
  | cleanup (esp : k = .espUpdate) (timeout : e = .expire (.transfer .espUpdate))
      (before : (d.get k).state ≠ .Idle) (after : (d'.get k).state = .Idle)
      (sent : k.sent d'.out = k.sent d.out ++ [(k.machine.cmdFinish, [])])

theorem Event.IsAck.names {e : Event} (h : e.IsAck) (path : String) : e.Names path := by
  obtain ⟨f, dialect, rfl, -⟩ := h
  trivial

theorem Event.Starts.fileUpload {e : Event} {k : Kind} (h : e.Starts k) (he : e.IsAck) :
    k = .fileUpload := by
  obtain ⟨f, dialect, rfl, -⟩ := he
  cases k with
  | fwUpdate =>
    obtain ⟨path, heq⟩ := h
    exact absurd heq (by simp)
  | espUpdate =>
    obtain ⟨path, flashAddr, force, heq⟩ := h
    exact absurd heq (by simp)
  | fileUpload => rfl

inductive EraseChange (e : Event) (d d' : Dev) : Prop
  | same (flag : d'.ops.bankErasePending = d.ops.bankErasePending)
  | started (call : e = .call .eraseInactiveBank) (before : d.ops.bankErasePending = false)
      (idle : ∀ k, (d.get k).state = .Idle) (idle' : ∀ k, (d'.get k).state = .Idle)
      (sent : CMD_FW_BANK_ERASE ∈ (opSent d'.out).map Prod.fst)
  | answered (reply : e.IsAck ∨ e.IsNack) (before : d.ops.bankErasePending = true)
      (after : d'.ops.bankErasePending = false)

/-- what a report of the link leaves: nothing is sent, and its loss ends transfers and swap -/
structure Cleared (connected : Bool) (d d' : Dev) : Prop where
  sent : opSent d'.out = opSent d.out
  idle : connected = false → ∀ k, (d'.get k).state = .Idle
  swap : connected = false → d'.ops.bankSwapPending = false

/-- what a handler may report -/
def Reported (e : Event) (d d' : Dev) : Prop :=
  ∃ rs, reports d'.out = reports d.out ++ rs ∧
    (.fwUpdateComplete ∈ rs → e.IsAck ∧ (d.get .fwUpdate).state = .WaitingFinishAck) ∧
    ∀ connected, .connectionChanged connected ∈ rs → Cleared connected d d'

structure Worked (e : Event) (d d' : Dev) : Prop where
  change : ∀ k, Change k e d d'
  erase : EraseChange e d d'
  swap : d'.ops.bankSwapPending = true → d.ops.bankSwapPending = true ∨
    CMD_FW_BANK_SWAP ∈ (opSent d'.out).map Prod.fst
  pending : d'.ops.pendingFileCmd = d.ops.pendingFileCmd ∨ d'.ops.pendingFileCmd = 0 ∨
    d'.ops.pendingFileCmd ∈ (opSent d'.out).map Prod.fst
  reported : Reported e d d'

/-! ## Rules -/

variable {e : Event} {a b c d d' : Dev}

/-- from `d` to `d'` only fields of the operations change that no law looks at -/
structure Calm (d d' : Dev) : Prop where
  get : ∀ k, d'.get k = d.get k
  erase : d'.ops.bankErasePending = d.ops.bankErasePending
  swap : d'.ops.bankSwapPending = d.ops.bankSwapPending
  pending : d'.ops.pendingFileCmd = d.ops.pendingFileCmd
  sent : opSent d'.out = opSent d.out
  reports : reports d'.out = reports d.out

theorem Quiet.calm (h : Quiet d d') : Calm d d' :=
  ⟨fun k => by unfold Dev.get; rw [h.ops], by rw [h.ops], by rw [h.ops], by rw [h.ops], h.sent,
    h.reports⟩

theorem Calm.refl (d : Dev) : Calm d d := (Quiet.refl d).calm

theorem Calm.trans (h : Calm a b) (h' : Calm b c) : Calm a c :=
  ⟨fun k => (h'.get k).trans (h.get k), h'.erase.trans h.erase, h'.swap.trans h.swap,
    h'.pending.trans h.pending, h'.sent.trans h.sent, h'.reports.trans h.reports⟩

theorem Calm.emit (d : Dev) {s : Signal} (hr : (Out.signal s).report? = none) :
    Calm d (d.emit s) := (Quiet.emit d hr).calm

theorem Calm.kindSent (h : Calm d d') (k : Kind) : k.sent d'.out = k.sent d.out := by
  unfold Kind.sent; rw [h.sent]

theorem Calm.alone (h : Calm d d') {k : Kind} (ha : d.Alone k) : d'.Alone k :=
  ⟨fun k' hk => by rw [h.get]; exact ha.idle k' hk, h.erase.trans ha.erase⟩

theorem Change.then_calm {k : Kind} (h : Change k e a b) (q : Calm b c) : Change k e a c := by
  have hg := q.get k
  have hs := q.kindSent k
  cases h with
  | same get sent => exact .same (hg.trans get) (hs.trans sent)
  | idle before after sent => exact .idle before (by rw [hg]; exact after) (hs.trans sent)
  | started data payload before cause alone alone' file size get sent =>
    exact .started data payload before cause alone (q.alone alone') file size (hg.trans get)
      (hs.trans sent)
  | acked ack before get sent => exact .acked ack before (hg.trans get) (hs.trans sent)
  | ended before after sent => exact .ended before (by rw [hg]; exact after) (hs.trans sent)
  | cleanup esp timeout before after sent =>
    exact .cleanup esp timeout before (by rw [hg]; exact after) (hs.trans sent)

theorem Worked.then_calm (h : Worked e a b) (q : Calm b c) : Worked e a c where
  change k := (h.change k).then_calm q
  erase := by
    cases h.erase with
    | same flag => exact .same (q.erase.trans flag)
    | started call before idle idle' sent =>
      exact .started call before idle (fun k => by rw [q.get]; exact idle' k)
        (by rw [q.sent]; exact sent)
    | answered reply before after => exact .answered reply before (q.erase.trans after)
  swap := by rw [q.swap, q.sent]; exact h.swap
  pending := by rw [q.pending, q.sent]; exact h.pending
  reported := by
    obtain ⟨rs, hr, hc, hl⟩ := h.reported
    refine ⟨rs, by rw [q.reports, hr], hc, fun x hx => ?_⟩
    have hx := hl x hx
    exact ⟨q.sent.trans hx.sent, fun h k => by rw [q.get]; exact hx.idle h k,
      fun h => q.swap.trans (hx.swap h)⟩

theorem Reported.of_eq (h : reports d'.out = reports d.out) : Reported e d d' :=
  ⟨[], by rw [h, List.append_nil], by simp, by simp⟩

theorem Calm.worked (e : Event) (h : Calm d d') : Worked e d d' where
  change k := .same (h.get k) (h.kindSent k)
  erase := .same h.erase
  swap := by rw [h.swap]; exact Or.inl
  pending := .inl h.pending
  reported := .of_eq h.reports

/-- work before a change that leaves the transfer alone -/
theorem Change.after {k : Kind} (hg : b.get k = a.get k) (hs : k.sent b.out = k.sent a.out)
    (back : e.Starts k → b.Alone k → a.Alone k) (env : b.env = a.env)
    (h : Change k e b c) : Change k e a c := by
  cases h with
  | same get sent => exact .same (get.trans hg) (sent.trans hs)
  | idle before after sent => exact .idle (by rw [← hg]; exact before) after (sent.trans hs)
  | started data payload before cause alone alone' file size get sent =>
    exact .started data payload (by rw [← hg]; exact before) cause
      (back cause alone) alone'
      (by rw [← env]; exact file) size get (by rw [← hs]; exact sent)
  | acked ack before get sent =>
    exact .acked ack (by rw [← hg]; exact before) (by rw [← hg]; exact get)
      (by rw [← hs, ← hg]; exact sent)
  | ended before after sent => exact .ended (by rw [← hg]; exact before) after (sent.trans hs)
  | cleanup esp timeout before after sent =>
    exact .cleanup esp timeout (by rw [← hg]; exact before) after (by rw [← hs]; exact sent)

theorem EraseChange.after (hb : b.ops.bankErasePending = a.ops.bankErasePending)
    (hg : ∀ k, b.get k = a.get k) (h : EraseChange e b c) : EraseChange e a c := by
  cases h with
  | same flag => exact .same (flag.trans hb)
  | started call before idle idle' sent =>
    exact .started call (by rw [← hb]; exact before) (fun k => by rw [← hg]; exact idle k) idle'
      sent
  | answered reply before after => exact .answered reply (by rw [← hb]; exact before) after

theorem Reported.after (hg : b.get .fwUpdate = a.get .fwUpdate)
    (hs : opSent b.out = opSent a.out) (hr : reports b.out = reports a.out)
    (h : Reported e b c) : Reported e a c := by
  obtain ⟨rs, hrs, hc, hl⟩ := h
  refine ⟨rs, by rw [hrs, hr], by rw [← hg]; exact hc, fun x hx => ?_⟩
  have hx := hl x hx
  exact ⟨hx.sent.trans hs, hx.idle, hx.swap⟩

/-- calm work before, with the local files as they were -/
theorem Worked.after_calm (q : Calm a b) (env : b.env = a.env) (h : Worked e b c) :
    Worked e a c where
  change k := (h.change k).after (q.get k) (q.kindSent k) (fun _ ha =>
    ⟨fun k' hk => by rw [← q.get]; exact ha.idle k' hk, by rw [← q.erase]; exact ha.erase⟩) env
  erase := h.erase.after q.erase q.get
  swap := by rw [← q.swap]; exact h.swap
  pending := by rw [← q.pending]; exact h.pending
  reported := h.reported.after (q.get _) q.sent q.reports

/-- the loss of the link ends every transfer -/
theorem Linked.worked (e : Event) (h : Linked d d') : Worked e d d' := by
  obtain ⟨bs, hr, ho⟩ := h.ops
  have hs (k : Kind) : k.sent d'.out = k.sent d.out := by unfold Kind.sent; rw [h.sent]
  have lost (hl : false ∈ bs) (k : Kind) : (d'.get k).state = .Idle := by
    unfold Dev.get
    rw [ho, if_pos hl, Operations.get_reset]
    exact Transfer.dropped_state _
  refine ⟨fun k => ?_, .same ?_, fun hb => ?_, .inl ?_, _, hr, by simp, fun b hb => ?_⟩
  · by_cases hl : false ∈ bs
    · by_cases hk : (d.get k).state = .Idle
      · exact .idle hk (lost hl k) (hs k)
      · exact .ended hk (lost hl k) (hs k)
    · exact .same (by unfold Dev.get; rw [ho, if_neg hl]) (hs k)
  · rw [ho]
    split <;> rfl
  · rw [ho] at hb
    split at hb
    · exact absurd hb Bool.false_ne_true
    · exact .inl hb
  · rw [ho]
    split <;> rfl
  · obtain ⟨b', hb', heq⟩ := List.mem_map.mp hb
    have hbb : b' = b := Signal.connectionChanged.inj heq
    subst hbb
    refine ⟨h.sent, fun hf => lost (hf ▸ hb'), fun hf => ?_⟩
    rw [ho, if_pos (hf ▸ hb')]
    rfl

/-! ## Changes of one transfer -/

/-- the commands in `d'` are those of `d` and `w` -/
theorem kindSent_of (k : Kind) {w : List (UInt8 × List UInt8)}
    (h : opSent d'.out = opSent d.out ++ w) :
    k.sent d'.out = k.sent d.out ++ w.filter (fun c => k.owns c.1) := by
  unfold Kind.sent
  rw [h, List.filter_append]

theorem Kind.owns_other {k k' : Kind} (h : k' ≠ k) {cmd : UInt8} (hc : k.owns cmd = true) :
    k'.owns cmd = false := by
  have hc' : cmd = k.machine.cmdStart ∨ cmd = k.machine.cmdData ∨ cmd = k.machine.cmdFinish := by
    unfold Kind.owns at hc
    simpa [or_assoc] using hc
  rcases hc' with rfl | rfl | rfl <;> revert h <;> cases k <;> cases k' <;> decide

@[simp] theorem Kind.owns_cmdStart (k : Kind) : k.owns k.machine.cmdStart = true := by
  cases k <;> decide
@[simp] theorem Kind.owns_cmdData (k : Kind) : k.owns k.machine.cmdData = true := by
  cases k <;> decide
@[simp] theorem Kind.owns_cmdFinish (k : Kind) : k.owns k.machine.cmdFinish = true := by
  cases k <;> decide
@[simp] theorem Kind.cmdStart_mem (k : Kind) : k.machine.cmdStart ∈ opCommands := by
  cases k <;> decide
@[simp] theorem Kind.cmdData_mem (k : Kind) : k.machine.cmdData ∈ opCommands := by
  cases k <;> decide
@[simp] theorem Kind.cmdFinish_mem (k : Kind) : k.machine.cmdFinish ∈ opCommands := by
  cases k <;> decide

/-- work on transfer `k` alone: the other fields that matter stay, and every command is `k`'s -/
structure Only (k : Kind) (d d' : Dev) : Prop where
  get : ∀ k', k' ≠ k → d'.get k' = d.get k'
  erase : d'.ops.bankErasePending = d.ops.bankErasePending
  swap : d'.ops.bankSwapPending = d.ops.bankSwapPending
  pending : d'.ops.pendingFileCmd = d.ops.pendingFileCmd
  sent : ∃ w, opSent d'.out = opSent d.out ++ w ∧ ∀ c ∈ w, k.owns c.1 = true

theorem Only.alone {k : Kind} (h : Only k d d') (ha : d.Alone k) : d'.Alone k :=
  ⟨fun k' hk => by rw [h.get k' hk]; exact ha.idle k' hk, h.erase.trans ha.erase⟩

theorem Only.worked {k : Kind} (h : Only k d d') (hc : Change k e d d')
    (hr : Reported e d d') : Worked e d d' := by
  refine ⟨fun k' => ?_, .same h.erase, fun hb => .inl (h.swap ▸ hb), .inl h.pending, hr⟩
  by_cases hk : k' = k
  · rw [hk]; exact hc
  · obtain ⟨w, hw, hown⟩ := h.sent
    refine .same (h.get k' hk) ?_
    rw [kindSent_of k' hw, List.filter_eq_nil_iff.mpr, List.append_nil]
    intro c hc
    rw [Kind.owns_other hk (hown c hc)]
    exact Bool.false_ne_true

end QMon.Device
