import QMonstatek.Device.Exclusive

/-!
# One reply channel

The firmware at the other end answers every acknowledged command it receives with one ACK or
NACK, in the order of receipt and with the command's SEQ.  Which commands it acknowledges is the
parameter `acked`; commands and answers may be lost.

`Exchange`        the device object and the commands that await their answer;
`Move`            the host handles an event, the firmware answers the oldest command, or a command
                  or its answer is lost;
`Undisturbed m x` no other acknowledged command overlaps a firmware update.

`update_inOrder`: along the undisturbed runs at most one chunk of an update is unanswered, and
its completion is reported on the ACK of its own FINISH.  Replies are routed by the local state
alone, so one overlapping command is enough to break both.
-/

namespace QMon.Device
open Rpc

/-- a command that awaits its answer -/
structure Sent where
  cmd : UInt8
  seq : UInt8
  /-- the number of firmware updates started so far, its own included -/
  update : Nat
  deriving DecidableEq, Repr

structure Exchange where
  dev : Dev := init
  updates : Nat := 0
  unanswered : List Sent := []

/-- the frames that were handed to an open transport -/
def txFrames (out : List Out) : List Frame :=
  out.filterMap fun
    | .tx _ f _ => some f
    | _ => none

inductive Move where
  /-- any event but a reply -/
  | host (e : Event)
  /-- the oldest unanswered command is answered -/
  | answer (positive : Bool) (payload : List UInt8) (dialect : CrcDialect)
  /-- a command does not reach the firmware, or its answer does not reach the host -/
  | lose (i : Nat)

def Event.isReply : Event → Bool
  | .frame f _ => f.cmd == CMD_ACK || f.cmd == CMD_NACK
  | _ => false

def replyTo (c : Sent) (positive : Bool) (payload : List UInt8) (dialect : CrcDialect) : Event :=
  .frame { cmd := if positive then CMD_ACK else CMD_NACK, seq := c.seq, payload := payload } dialect

section
variable (acked : UInt8 → Bool)

/-- the state after a handler: its frames are on their way -/
def Exchange.after (x : Exchange) (d : Dev) : Exchange :=
  let updates := x.updates + (txFrames d.out).countP (fun f => f.cmd == CMD_FW_UPDATE_START)
  { dev := d
    updates := updates
    unanswered := x.unanswered ++ ((txFrames d.out).filter (fun f => acked f.cmd)).map
      fun f => { cmd := f.cmd, seq := f.seq, update := updates } }

def exchange (m : Move) (x : Exchange) : Exchange :=
  match m with
  | .host e =>
    if e.isReply then { x with dev := x.dev.fresh } else x.after acked (step e x.dev)
  | .answer positive payload dialect =>
    match x.unanswered with
    | [] => { x with dev := x.dev.fresh }
    | c :: rest =>
      Exchange.after acked { x with unanswered := rest }
        (step (replyTo c positive payload dialect) x.dev)
  | .lose i => { x with dev := x.dev.fresh, unanswered := x.unanswered.eraseIdx i }

/-- an update starts with nothing unanswered, and while it runs the host sends no other
acknowledged command -/
def Undisturbed (m : Move) (x : Exchange) : Prop :=
  (∀ path, m = .host (.call (.startFwUpdate path)) → (∀ o, ¬ x.dev.Active o) →
    x.unanswered = []) ∧
  (x.dev.Active (.transfer .fwUpdate) → ∀ f ∈ txFrames (exchange acked m x).dev.out,
    acked f.cmd = true → Kind.fwUpdate.owns f.cmd = true)

/-- at most one chunk is unanswered -/
def Exchange.OneChunk (x : Exchange) : Prop :=
  x.unanswered.countP (fun c => c.cmd == CMD_FW_UPDATE_DATA) ≤ 1

/-- the completion is reported on the ACK of the update's own FINISH -/
def CompletesOnFinish (m : Move) (x : Exchange) : Prop :=
  Out.signal .fwUpdateComplete ∈ (exchange acked m x).dev.out →
    ∃ payload dialect c rest, m = .answer true payload dialect ∧ x.unanswered = c :: rest ∧
      c.cmd = CMD_FW_UPDATE_FINISH ∧ c.update = x.updates

end

/-! ## The frames of a transfer -/

theorem txFrames_append (a b : List Out) : txFrames (a ++ b) = txFrames a ++ txFrames b :=
  List.filterMap_append

theorem mem_txFrames {f : Frame} {out : List Out} (h : f ∈ txFrames out) :
    ∃ via dialect, Out.tx via f dialect ∈ out := by
  obtain ⟨o, ho, hf⟩ := List.mem_filterMap.mp h
  cases o with
  | tx via g dialect =>
    have hg : g = f := Option.some.inj hf
    exact ⟨via, dialect, hg ▸ ho⟩
  | _ => exact absurd hf (by simp)

/-- the frames of `k` are among its commands, in the same order -/
theorem txFrames_sublist (k : Kind) (out : List Out) :
    (((txFrames out).filter (fun f => k.owns f.cmd)).map fun f => (f.cmd, f.payload)).Sublist
      (k.sent out) := by
  have howns (cmd : UInt8) (h : k.owns cmd = true) : cmd ∈ opCommands := by
    unfold Kind.owns at h
    simp only [Bool.or_eq_true, beq_iff_eq] at h
    rcases h with (rfl | rfl) | rfl
    · exact k.cmdStart_mem
    · exact k.cmdData_mem
    · exact k.cmdFinish_mem
  unfold Kind.sent opSent
  rw [List.filter_filter]
  induction out with
  | nil => exact .slnil
  | cons o out ih =>
    cases o with
    | tx via f dialect =>
      rw [show txFrames (.tx via f dialect :: out) = f :: txFrames out from rfl,
        List.filterMap_cons_some (f := Out.command?) (b := (f.cmd, f.payload)) rfl]
      by_cases h : k.owns f.cmd = true
      · rw [List.filter_cons, if_pos h, List.filter_cons, if_pos (by simp [h, howns _ h])]
        exact ih.cons_cons _
      · rw [List.filter_cons, if_neg h, List.filter_cons, if_neg (by simp [h])]
        exact ih
    | txRejected f =>
      rw [show txFrames (.txRejected f :: out) = txFrames out from rfl,
        List.filterMap_cons_some (f := Out.command?) (b := (f.cmd, f.payload)) rfl]
      exact ih.trans ((List.sublist_cons_self _ _).filter _)
    | _ => exact ih

/-! ## The start of an update -/

theorem txFrames_sendCommand {cmd : UInt8} {payload : List UInt8} {d : Dev} {f : Frame}
    (h : f ∈ txFrames (d.sendCommand cmd payload).out) : f ∈ txFrames d.out ∨ f.cmd = cmd := by
  obtain ⟨o, ho, -, heq⟩ := d.sendCommand_eq cmd payload
  rw [heq] at h
  have h' : f ∈ txFrames (d.out ++ [o]) := h
  rw [txFrames_append, List.mem_append] at h'
  rcases h' with h' | h'
  · exact .inl h'
  · obtain ⟨via, dialect, hm⟩ := mem_txFrames h'
    rw [← List.mem_singleton.mp hm] at ho
    exact .inr (Prod.mk.inj (Option.some.inj ho)).1

theorem txFrames_emitAll (l : List Signal) (d : Dev) :
    txFrames (d.emitAll l).out = txFrames d.out := by
  induction l generalizing d with
  | nil => rfl
  | cons s l ih =>
    refine (ih (d.emit s)).trans ?_
    show txFrames (d.out ++ [.signal s]) = _
    rw [txFrames_append]
    exact List.append_nil _

/-- a call that starts transfer `k` hands over its START at most -/
theorem StartBranch.frames {k : Kind} {path : String} {d d' : Dev} (h : StartBranch k path d d')
    {f : Frame} (hf : f ∈ txFrames d'.out) : f ∈ txFrames d.out ∨ f.cmd = k.machine.cmdStart := by
  cases h with
  | refused message busy =>
    rw [show d.emit _ = d.emitAll [k.error message] from rfl, txFrames_emitAll] at hf
    exact .inl hf
  | rejected flashAddr data t message idle read after empty =>
    rw [show Dev.emit _ _ = Dev.emitAll _ [k.error message] from rfl, txFrames_emitAll] at hf
    exact .inl hf
  | started flashAddr data payload t status idle alone read size image progress =>
    rw [txFrames_emitAll] at hf
    refine (txFrames_sendCommand hf).imp_left fun hf => ?_
    rw [Dev.suspendKeepalive_out] at hf
    exact hf

/-! ## The invariant -/

/-- the command a transfer in this state waits for -/
def Kind.awaited (k : Kind) : TransferState → Option UInt8
  | .Idle => none
  | .WaitingStartAck => some k.machine.cmdStart
  | .SendingData => some k.machine.cmdData
  | .WaitingFinishAck => some k.machine.cmdFinish

structure Exchange.InOrder (x : Exchange) : Prop where
  chunk : x.OneChunk
  active : x.dev.Active (.transfer .fwUpdate) → x.unanswered.length ≤ 1 ∧ ∀ c ∈ x.unanswered,
    Kind.fwUpdate.awaited (x.dev.get .fwUpdate).state = some c.cmd ∧ c.update = x.updates

theorem Transfer.awaited_next (k : Kind) (t : Transfer) :
    k.awaited (t.next k).state = some (t.nextCommand k).1 := by
  unfold Transfer.next Transfer.nextCommand
  split <;> rfl

section
variable {acked : UInt8 → Bool} {x : Exchange} {d : Dev}

theorem Exchange.OneChunk.sublist {l : List Sent} (h : x.OneChunk)
    (hs : l.Sublist x.unanswered) : l.countP (fun c => c.cmd == CMD_FW_UPDATE_DATA) ≤ 1 :=
  Nat.le_trans hs.countP_le h

/-- what a handler adds to the unanswered commands -/
def newSent (acked : UInt8 → Bool) (updates : Nat) (out : List Out) : List Sent :=
  ((txFrames out).filter (fun f => acked f.cmd)).map
    fun f => { cmd := f.cmd, seq := f.seq, update := updates }

/-- where every acknowledged command is the update's, it is one the update has sent -/
theorem newSent_sublist {k : Kind} {out : List Out} (updates : Nat)
    (hown : ∀ f ∈ txFrames out, acked f.cmd = true → k.owns f.cmd = true) :
    ((newSent acked updates out).map Sent.cmd).Sublist ((k.sent out).map Prod.fst) := by
  have hfilter : (txFrames out).filter (fun f => acked f.cmd)
      = ((txFrames out).filter (fun f => k.owns f.cmd)).filter (fun f => acked f.cmd) := by
    rw [List.filter_filter]
    refine List.filter_congr fun f hf => ?_
    cases ha : acked f.cmd with
    | false => rfl
    | true => rw [hown f hf ha]; rfl
  have hs := ((txFrames_sublist k out).map Prod.fst)
  rw [List.map_map] at hs
  unfold newSent
  rw [List.map_map, hfilter]
  exact (List.filter_sublist.map _).trans hs

/-- no chunk is sent unless the update sends one -/
theorem newSent_noChunk {out : List Out} (updates : Nat) (h : Kind.fwUpdate.sent out = []) :
    (newSent acked updates out).countP (fun c => c.cmd == CMD_FW_UPDATE_DATA) = 0 := by
  rw [List.countP_eq_zero]
  intro c hc hdata
  obtain ⟨f, hf, rfl⟩ := List.mem_map.mp hc
  have hcmd : f.cmd = CMD_FW_UPDATE_DATA := by simpa using hdata
  have hown : f ∈ (txFrames out).filter (fun f => Kind.fwUpdate.owns f.cmd) := by
    refine List.mem_filter.mpr ⟨(List.mem_filter.mp hf).1, ?_⟩
    rw [hcmd]
    decide
  have hs := (txFrames_sublist .fwUpdate out).subset (List.mem_map.mpr ⟨f, hown, rfl⟩)
  rw [h] at hs
  exact absurd hs List.not_mem_nil

/-- no START, no new number -/
theorem starts_zero {out : List Out}
    (h : CMD_FW_UPDATE_START ∉ (Kind.fwUpdate.sent out).map Prod.fst) :
    (txFrames out).countP (fun f => f.cmd == CMD_FW_UPDATE_START) = 0 := by
  rw [List.countP_eq_zero]
  intro f hf hstart
  have hcmd : f.cmd = CMD_FW_UPDATE_START := by simpa using hstart
  have hown : f ∈ (txFrames out).filter (fun f => Kind.fwUpdate.owns f.cmd) := by
    refine List.mem_filter.mpr ⟨hf, ?_⟩
    rw [hcmd]
    decide
  have hs := (txFrames_sublist .fwUpdate out).subset (List.mem_map.mpr ⟨f, hown, rfl⟩)
  refine h (List.mem_map.mpr ⟨(f.cmd, f.payload), hs, hcmd⟩)

theorem after_unanswered (x : Exchange) (d : Dev) : (x.after acked d).unanswered
    = x.unanswered ++ newSent acked (x.after acked d).updates d.out := rfl

theorem newSent_update {updates : Nat} {out : List Out} {c : Sent}
    (h : c ∈ newSent acked updates out) : c.update = updates := by
  obtain ⟨f, -, rfl⟩ := List.mem_map.mp h
  rfl

/-- nothing of the update is sent, and if it runs then as before -/
theorem silent_inOrder (h : x.InOrder) {l : List Sent} (hl : l.Sublist x.unanswered)
    (hown : x.dev.Active (.transfer .fwUpdate) → ∀ f ∈ txFrames d.out, acked f.cmd = true →
      Kind.fwUpdate.owns f.cmd = true)
    (hsent : Kind.fwUpdate.sent d.out = [])
    (hstate : d.Active (.transfer .fwUpdate) → d.get .fwUpdate = x.dev.get .fwUpdate) :
    (Exchange.after acked { x with unanswered := l } d).InOrder := by
  have hcount := h.chunk.sublist hl
  constructor
  · unfold Exchange.OneChunk
    rw [after_unanswered, List.countP_append, newSent_noChunk _ hsent]
    exact hcount
  · intro hact
    have hget := hstate hact
    have hbefore : x.dev.Active (.transfer .fwUpdate) := by
      have hact' : (d.get .fwUpdate).state ≠ .Idle := hact
      rw [hget] at hact'
      exact hact'
    obtain ⟨hlen, hall⟩ := h.active hbefore
    have hnew : newSent acked (Exchange.after acked { x with unanswered := l } d).updates d.out
        = [] := by
      have hs := newSent_sublist (k := .fwUpdate)
        (Exchange.after acked { x with unanswered := l } d).updates (hown hbefore)
      rw [hsent] at hs
      exact List.map_eq_nil_iff.mp (List.sublist_nil.mp hs)
    have hupdates : (Exchange.after acked { x with unanswered := l } d).updates
        = x.updates := by
      show x.updates + _ = x.updates
      rw [starts_zero (by rw [hsent]; exact List.not_mem_nil)]
      rfl
    rw [after_unanswered, hnew, List.append_nil]
    refine ⟨Nat.le_trans hl.length_le hlen, fun c hc => ?_⟩
    obtain ⟨haw, hup⟩ := hall c (hl.subset hc)
    refine ⟨?_, hup.trans hupdates.symm⟩
    show Kind.fwUpdate.awaited (d.get .fwUpdate).state = _
    rw [hget]
    exact haw

/-- the update sends one command, with nothing unanswered, and waits for its answer -/
theorem single_inOrder {c : UInt8 × List UInt8} (x : Exchange)
    (hown : ∀ f ∈ txFrames d.out, acked f.cmd = true → Kind.fwUpdate.owns f.cmd = true)
    (hsent : Kind.fwUpdate.sent d.out = [c])
    (hawaited : Kind.fwUpdate.awaited (d.get .fwUpdate).state = some c.1) :
    (Exchange.after acked { x with unanswered := [] } d).InOrder := by
  have hs := newSent_sublist (Exchange.after acked { x with unanswered := [] } d).updates hown
  rw [hsent] at hs
  have hlen : (Exchange.after acked { x with unanswered := [] } d).unanswered.length ≤ 1 := by
    have hle := hs.length_le
    rw [List.length_map] at hle
    exact hle
  refine ⟨Nat.le_trans List.countP_le_length hlen, fun _ => ⟨hlen, fun s hs' => ?_⟩⟩
  have hm := hs.subset (List.mem_map.mpr ⟨s, hs', rfl⟩)
  refine ⟨hawaited.trans ?_, newSent_update hs'⟩
  exact congrArg some (List.mem_singleton.mp hm).symm

/-- **A handler keeps the exchange in order**, when what it answers has been taken off and it
sends nothing foreign into the update. -/
theorem inOrder_after {e : Event} (h : x.InOrder) {l : List Sent}
    (hl : l.Sublist x.unanswered)
    (hack : e.IsAck → x.dev.Active (.transfer .fwUpdate) → l = [])
    (hstart : ∀ path, e = .call (.startFwUpdate path) → (∀ o, ¬ x.dev.Active o) → l = [])
    (hown : x.dev.Active (.transfer .fwUpdate) → ∀ f ∈ txFrames (step e x.dev).out,
      acked f.cmd = true → Kind.fwUpdate.owns f.cmd = true) :
    (Exchange.after acked { x with unanswered := l } (step e x.dev)).InOrder := by
  cases (worked_step e x.dev).change .fwUpdate with
  | same get sent => exact silent_inOrder h hl hown sent fun _ => get
  | idle before after sent => exact silent_inOrder h hl hown sent fun hact => absurd after hact
  | started data payload before cause alone alone' file size get sent =>
    obtain ⟨path, rfl⟩ := cause
    have hidle : (x.dev.get .fwUpdate).state = .Idle := by
      rcases before with hb | ⟨-, f, dialect, hf, -⟩
      · exact hb
      · exact absurd hf (by simp)
    have hnone (o : Operation) : ¬ x.dev.Active o := by
      cases o with
      | transfer k =>
        by_cases hk : k = .fwUpdate
        · rw [hk]
          exact not_not.mpr hidle
        · exact not_not.mpr (alone.idle k hk)
      | bankErase =>
        intro hb
        exact absurd (alone.erase.symm.trans hb) Bool.false_ne_true
    have hown' : ∀ f ∈ txFrames (step (.call (.startFwUpdate path)) x.dev).out,
        acked f.cmd = true → Kind.fwUpdate.owns f.cmd = true := by
      intro f hf _
      rcases (startFwUpdate_branch path x.dev.fresh).frames hf with hf | hf
      · exact absurd hf List.not_mem_nil
      · rw [hf]
        decide
    rw [hstart path rfl hnone]
    refine single_inOrder x hown' sent ?_
    rw [get]
    rfl
  | acked ack before get sent =>
    have hactive : x.dev.Active (.transfer .fwUpdate) := by
      have before' : (x.dev.get .fwUpdate).state = .WaitingStartAck ∨
          (x.dev.get .fwUpdate).state = .SendingData := before
      show (x.dev.get .fwUpdate).state ≠ .Idle
      rcases before' with hb | hb <;> (rw [hb]; decide)
    rw [hack ack hactive]
    refine single_inOrder x (hown hactive) sent ?_
    rw [get]
    exact Transfer.awaited_next _ _
  | ended before after sent => exact silent_inOrder h hl hown sent fun hact => absurd after hact
  | cleanup esp timeout before after sent => exact absurd esp (by decide)

/-- a move that reaches no handler -/
theorem inOrder_quiet (h : x.InOrder) {l : List Sent} (hl : l.Sublist x.unanswered) :
    Exchange.InOrder { x with dev := x.dev.fresh, unanswered := l } := by
  refine ⟨h.chunk.sublist hl, fun hact => ?_⟩
  obtain ⟨hlen, hall⟩ := h.active hact
  exact ⟨Nat.le_trans hl.length_le hlen, fun c hc => hall c (hl.subset hc)⟩

theorem Event.not_isAck {e : Event} (h : ¬ e.isReply = true) : ¬ e.IsAck := by
  rintro ⟨f, dialect, rfl, hf⟩
  exact h (by simp [Event.isReply, hf])

theorem replyTo_isAck {c : Sent} {positive : Bool} {payload : List UInt8} {dialect : CrcDialect}
    (h : (replyTo c positive payload dialect).IsAck) : positive = true := by
  obtain ⟨f, g, heq, hf⟩ := h
  cases positive with
  | true => rfl
  | false =>
    rw [← (Event.frame.inj heq).1] at hf
    exact absurd hf (by simp [CMD_NACK, CMD_ACK])

theorem inOrder_exchange (m : Move) (x : Exchange) (h : x.InOrder) (hu : Undisturbed acked m x) :
    (exchange acked m x).InOrder := by
  obtain ⟨hstart, hown⟩ := hu
  unfold exchange at hown ⊢
  cases m with
  | host e =>
    dsimp only at hown ⊢
    split
    · exact inOrder_quiet h (List.Sublist.refl _)
    · rename_i hreply
      rw [if_neg hreply] at hown
      exact inOrder_after h (List.Sublist.refl _)
        (fun hack => absurd hack (Event.not_isAck hreply))
        (fun path he hnone => hstart path (congrArg Move.host he) hnone) hown
  | answer positive payload dialect =>
    dsimp only at hown ⊢
    split
    · exact inOrder_quiet h (List.Sublist.refl _)
    · rename_i c rest hc
      rw [hc] at hown
      have hl : rest.Sublist x.unanswered := by
        rw [hc]
        exact List.sublist_cons_self c rest
      refine inOrder_after h hl (fun _ hact => ?_) (fun path he => ?_) hown
      · have hlen := (h.active hact).1
        rw [hc] at hlen
        exact List.eq_nil_of_length_eq_zero (by simpa using hlen)
      · exact absurd he (by simp [replyTo])
  | lose i => exact inOrder_quiet h (List.eraseIdx_sublist _ _)

theorem completesOnFinish_exchange (m : Move) (x : Exchange) (h : x.InOrder) :
    CompletesOnFinish acked m x := by
  intro hout
  have quiet {l : List Out} (hl : l = []) : ¬ Out.signal .fwUpdateComplete ∈ l := by
    rw [hl]
    exact List.not_mem_nil
  have finish {e : Event} (he : Out.signal .fwUpdateComplete ∈ (step e x.dev).out) :
      e.IsAck ∧ (x.dev.get .fwUpdate).state = .WaitingFinishAck := by
    obtain ⟨rs, hrs, hcomplete, -⟩ := (worked_step e x.dev).reported
    refine hcomplete ?_
    have hm : Signal.fwUpdateComplete ∈ reports (step e x.dev).out :=
      List.mem_filterMap.mpr ⟨_, he, rfl⟩
    rw [hrs] at hm
    exact hm
  unfold exchange at hout
  cases m with
  | host e =>
    dsimp only at hout
    split at hout
    · exact absurd hout (quiet rfl)
    · rename_i hreply
      exact absurd (finish hout).1 (Event.not_isAck hreply)
  | answer positive payload dialect =>
    dsimp only at hout
    split at hout
    · exact absurd hout (quiet rfl)
    · rename_i c rest hc
      obtain ⟨hack, hstate⟩ := finish hout
      have hactive : x.dev.Active (.transfer .fwUpdate) := by
        show (x.dev.get .fwUpdate).state ≠ .Idle
        rw [hstate]
        decide
      obtain ⟨hawaited, hupdate⟩ := (h.active hactive).2 c (by rw [hc]; exact List.mem_cons_self)
      rw [hstate] at hawaited
      refine ⟨payload, dialect, c, rest, ?_, hc, (Option.some.inj hawaited).symm, hupdate⟩
      rw [replyTo_isAck hack]
  | lose i => exact absurd hout (quiet rfl)

end

/-- **An undisturbed update is in order**: at most one chunk is unanswered, and the completion
is reported on the ACK of the update's FINISH. -/
theorem update_inOrder (acked : UInt8 → Bool) (ms : List Move)
    (h : Run.Along (exchange acked) (Undisturbed acked) ms {}) :
    Run.Throughout (exchange acked) Exchange.OneChunk ms {} ∧
      Run.Along (exchange acked) (CompletesOnFinish acked) ms {} := by
  have h0 : Exchange.InOrder {} :=
    ⟨Nat.zero_le 1, fun hact => absurd (show ((init).get .fwUpdate).state = .Idle from rfl) hact⟩
  constructor
  · exact Run.throughout_of_along (exchange acked) (fun _ hx => hx.chunk) inOrder_exchange ms {}
      h0 h
  · refine Run.along_of_along (exchange acked) (I := Exchange.InOrder) ?_ ms {} h0 h
    intro m x hx hu
    exact ⟨completesOnFinish_exchange m x hx, inOrder_exchange m x hx hu⟩

/-- a firmware of two chunks over USB, started when the session's SET_LOG_LEVEL is answered -/
theorem update_inOrder_twoChunks :
    let acked (cmd : UInt8) : Bool := cmd == CMD_SET_LOG_LEVEL || Kind.fwUpdate.owns cmd
    let ms : List Move := [.host (.env { serialOpens := fun _ => true
                                         readFile := fun _ => some (List.replicate 1028 0xAA) }),
      .host (.call (.connectToDevice "COM3")), .answer true [] .Correct,
      .host (.call (.startFwUpdate "fw.bin")), .answer true [] .Correct,
      .answer true [] .Correct, .answer true [] .Correct, .answer true [] .Correct]
    Run.Throughout (exchange acked) Exchange.OneChunk ms {} ∧
      Run.Along (exchange acked) (CompletesOnFinish acked) ms {} := by
  refine update_inOrder _ _ ⟨?_, ?_, ?_, ?_, ?_, ?_, ?_, ?_, trivial⟩
  · exact ⟨fun path h => Event.noConfusion (Move.host.inj h), by decide⟩
  · exact ⟨fun path h => absurd h (by simp), by decide⟩
  · exact ⟨fun path h => absurd h (by simp), by decide⟩
  · exact ⟨fun _ _ _ => rfl, by decide +kernel⟩
  · exact ⟨fun path h => absurd h (by simp), by decide +kernel⟩
  · exact ⟨fun path h => absurd h (by simp), by decide +kernel⟩
  · exact ⟨fun path h => absurd h (by simp), by decide +kernel⟩
  · exact ⟨fun path h => absurd h (by simp), by decide +kernel⟩

/-- two chunks, started before SET_LOG_LEVEL is answered: each answer is taken for the next one,
so two chunks are unanswered at once, and the completion is reported while FINISH still is -/
theorem update_overlapped :
    let acked (cmd : UInt8) : Bool := cmd == CMD_SET_LOG_LEVEL || Kind.fwUpdate.owns cmd
    let m := Move.answer true [] .Correct
    let x := Run.exec (exchange acked) [
      .host (.env { serialOpens := fun _ => true
                    readFile := fun _ => some (List.replicate 1028 0xAA) }),
      .host (.call (.connectToDevice "COM3")), .host (.call (.startFwUpdate "fw.bin")), m, m] {}
    let y := exchange acked m x
    x.unanswered.map Sent.cmd = [CMD_FW_UPDATE_DATA, CMD_FW_UPDATE_DATA] ∧ ¬ x.OneChunk ∧
      y.unanswered.map Sent.cmd = [CMD_FW_UPDATE_DATA, CMD_FW_UPDATE_FINISH] ∧
      .signal .fwUpdateComplete ∈ (exchange acked m y).dev.out ∧
      ¬ CompletesOnFinish acked m y := by
  intro acked m x y
  have hy : y.unanswered.map Sent.cmd = [CMD_FW_UPDATE_DATA, CMD_FW_UPDATE_FINISH] := by
    decide +kernel
  refine ⟨by decide +kernel, by unfold Exchange.OneChunk; decide +kernel, hy, by decide +kernel,
    fun h => ?_⟩
  obtain ⟨payload, dialect, c, rest, -, hc, hfinish, -⟩ := h (by decide +kernel)
  rw [hc, List.map_cons, hfinish] at hy
  exact absurd (List.cons.inj hy).1 (by decide)

end QMon.Device
