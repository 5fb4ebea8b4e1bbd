import QMonstatek.Lib.Run
import QMonstatek.Transport.NetworkWorker

/-!
# What becomes of the control frames

`SocketEvent`   the slots of the worker that work on the control socket, and what the network does;
`Fate`          what has become of a frame that was passed to `writeData`;
`Ledger`        the worker, with every frame passed to it and its fate.

`controlFrames_kept`: the frames handed to the socket are those of fate `handed`, in the order in
which they were passed, and those of fate `pending` wait in the worker, none while it is connected.
-/

namespace QMon.Transport
open Rpc Device

inductive SocketEvent where
  | connectToHost (host : String) (port : UInt16) (udpBind : Option UInt16)
  | disconnectFromHost
  | writeData (data : List UInt8)
  | tcp (e : NetworkWorker.TcpEvent)
  deriving DecidableEq, Repr

def workerStep (e : SocketEvent) (w : NetworkWorker) : NetworkWorker :=
  match e with
  | .connectToHost host port udpBind => w.connectToHost host port udpBind
  | .disconnectFromHost => w.disconnectFromHost
  | .writeData data => w.writeData data
  | .tcp e => w.tcpEvent e

def WorkerOut.tcpWrite? : WorkerOut → Option (List UInt8)
  | .tcpWrite data => some data
  | _ => none

/-- the frames handed to the socket, over all connections -/
def tcpWrites (out : List WorkerOut) : List (List UInt8) := out.filterMap WorkerOut.tcpWrite?

def SocketEvent.frame? : SocketEvent → Option (List UInt8)
  | .writeData data => some data
  | _ => none

/-- the frames passed to `writeData` -/
def written (es : List SocketEvent) : List (List UInt8) := es.filterMap SocketEvent.frame?

inductive Fate where
  /-- handed to the socket -/
  | handed
  /-- it waits for a connection -/
  | pending
  /-- it came while not connected, with `kMaxPendingTx` frames pending -/
  | dropped
  /-- it was pending when `disconnectFromHost` was called -/
  | cleared
  deriving DecidableEq, Repr

/-- the frames that were pending meet their fate -/
def Fate.settle (fate : Fate) (f : List UInt8 × Fate) : List UInt8 × Fate :=
  if f.2 = .pending then (f.1, fate) else f

/-- the frames with fate `fate` -/
def having (fate : Fate) (frames : List (List UInt8 × Fate)) : List (List UInt8) :=
  (frames.filter fun f => f.2 == fate).map Prod.fst

structure Ledger where
  worker : NetworkWorker := {}
  /-- the frames passed to the worker, oldest first -/
  frames : List (List UInt8 × Fate) := []

/-- the fates after the event `e` in the state `w` -/
def fates (e : SocketEvent) (w : NetworkWorker) (frames : List (List UInt8 × Fate)) :
    List (List UInt8 × Fate) :=
  match e with
  | .writeData data =>
    let fate : Fate :=
      if w.tcp = .Connected then .handed
      else if w.pendingTx.length < kMaxPendingTx then .pending
      else .dropped
    frames ++ [(data, fate)]
  | .disconnectFromHost => frames.map (Fate.cleared.settle)
  | .tcp .established => if w.tcp = .Connecting then frames.map (Fate.handed.settle) else frames
  | _ => frames

def ledgerStep (e : SocketEvent) (l : Ledger) : Ledger :=
  { worker := workerStep e l.worker, frames := fates e l.worker l.frames }

/-! ## Lists of fates -/

theorem having_append (fate : Fate) (a b : List (List UInt8 × Fate)) :
    having fate (a ++ b) = having fate a ++ having fate b := by
  unfold having
  rw [List.filter_append, List.map_append]

theorem having_eq_nil {fate : Fate} {frames : List (List UInt8 × Fate)}
    (h : ∀ f ∈ frames, f.2 ≠ fate) : having fate frames = [] := by
  unfold having
  rw [List.filter_eq_nil_iff.mpr fun f hf => by simpa using h f hf]
  rfl

theorem having_sublist (fate : Fate) (frames : List (List UInt8 × Fate)) :
    (having fate frames).Sublist (frames.map Prod.fst) := List.filter_sublist.map _

/-- frames none of which has been handed over: what is pending becomes `fate` -/
theorem having_settle {fate : Fate} {frames : List (List UInt8 × Fate)}
    (h : ∀ f ∈ frames, f.2 ≠ fate) :
    having fate (frames.map fate.settle) = having .pending frames := by
  induction frames with
  | nil => rfl
  | cons f frames ih =>
    have ih := ih fun g hg => h g (List.mem_cons_of_mem f hg)
    have hf := h f List.mem_cons_self
    have cons (fate' : Fate) (g : List UInt8 × Fate) (l : List (List UInt8 × Fate)) :
        having fate' (g :: l) = (if g.2 = fate' then [g.1] else []) ++ having fate' l := by
      unfold having
      by_cases hg : g.2 = fate' <;> simp [hg]
    rw [List.map_cons, cons, cons, ih]
    unfold Fate.settle
    by_cases hp : f.2 = .pending
    · rw [if_pos hp, if_pos rfl, if_pos hp]
    · rw [if_neg hp, if_neg hf, if_neg hp]

theorem settle_map_fst (fate : Fate) (frames : List (List UInt8 × Fate)) :
    (frames.map fate.settle).map Prod.fst = frames.map Prod.fst := by
  rw [List.map_map]
  refine List.map_congr_left fun f _ => ?_
  show (fate.settle f).1 = f.1
  unfold Fate.settle
  split <;> rfl

theorem settle_of_not_pending {fate : Fate} {f : List UInt8 × Fate} (h : f.2 ≠ .pending) :
    fate.settle f = f := if_neg h

/-! ## The worker -/

variable {w : NetworkWorker}

theorem tcpWrites_put (o : WorkerOut) (w : NetworkWorker) :
    tcpWrites (w.put o).out = tcpWrites w.out ++ o.tcpWrite?.toList := by
  show List.filterMap _ (w.out ++ [o]) = _
  rw [List.filterMap_append, List.filterMap_eq_flatMap_toList _ [o], List.flatMap_singleton]
  rfl

/-- what the two sides of the socket see: its state, what waits and what was handed over -/
structure Moves (w w' : NetworkWorker) : Prop where
  pendingTx : w'.pendingTx = w.pendingTx
  writes : tcpWrites w'.out = tcpWrites w.out
  /-- it is not connected by this -/
  tcp : w'.tcp = .Connected → w.tcp = .Connected

theorem Moves.put {o : WorkerOut} (h : o.tcpWrite? = none) (w : NetworkWorker) :
    Moves w (w.put o) := by
  refine ⟨rfl, ?_, id⟩
  rw [tcpWrites_put, h]
  exact List.append_nil _

theorem Moves.trans {a b c : NetworkWorker} (h : Moves a b) (h' : Moves b c) : Moves a c :=
  ⟨h'.pendingTx.trans h.pendingTx, h'.writes.trans h.writes, fun hc => h.tcp (h'.tcp hc)⟩

theorem unconnected_moves (w : NetworkWorker) : Moves w { w with tcp := .Unconnected } :=
  ⟨rfl, rfl, SocketState.noConfusion⟩

theorem onTcpDisconnected_moves (w : NetworkWorker) : Moves w w.onTcpDisconnected := by
  have reset : Moves w { w with screenActive := false, epochKnown := false, lastSeq := -1 } :=
    ⟨rfl, rfl, id⟩
  exact reset.trans (.put rfl _)

theorem tcpAbort_moves (w : NetworkWorker) : Moves w w.tcpAbort := by
  unfold NetworkWorker.tcpAbort
  split
  · exact (unconnected_moves w).trans (onTcpDisconnected_moves _)
  · exact unconnected_moves w

theorem connectToHost_moves (host : String) (port : UInt16) (udpBind : Option UInt16)
    (w : NetworkWorker) : Moves w (w.connectToHost host port udpBind) := by
  let w1 : NetworkWorker := if w.tcp ≠ .Unconnected then w.tcpAbort else w
  let w2 : NetworkWorker := if w1.udpPort = 0 then { w1 with udpPort := udpBind.getD 0 } else w1
  have h1 : Moves w w1 := by
    dsimp only [w1]
    split
    · exact tcpAbort_moves w
    · exact ⟨rfl, rfl, id⟩
  have h2 : Moves w1 w2 := by
    dsimp only [w2]
    split <;> exact ⟨rfl, rfl, id⟩
  have h3 : Moves w2 { w2.put (.screenPortReady w2.udpPort) with tcp := .Connecting } := by
    refine ⟨rfl, ?_, SocketState.noConfusion⟩
    exact (Moves.put rfl w2).writes
  exact ((h1.trans h2).trans h3).trans (.put rfl _)

/-- the network, when it does not connect the socket -/
theorem tcpEvent_moves {e : NetworkWorker.TcpEvent} (he : e ≠ .established) (w : NetworkWorker) :
    Moves w (w.tcpEvent e) := by
  have refl : Moves w w := ⟨rfl, rfl, id⟩
  have error (message : String) (w : NetworkWorker) : Moves w (w.onTcpError message) := by
    unfold NetworkWorker.onTcpError
    dsimp only
    split
    · exact (Moves.put rfl w).trans (.put rfl _)
    · exact .put rfl w
  cases e with
  | established => exact absurd rfl he
  | failed message =>
    show Moves w (if _ then _ else _)
    split
    · exact (unconnected_moves w).trans (error message _)
    · exact refl
  | error message =>
    show Moves w (if _ then _ else _)
    split
    · exact error message w
    · exact refl
  | closed =>
    show Moves w (if _ then _ else _)
    split
    · exact (unconnected_moves w).trans (onTcpDisconnected_moves _)
    · exact refl

theorem flush_writes (fs : List (List UInt8)) (w : NetworkWorker) :
    tcpWrites (fs.foldl (fun w f => w.put (.tcpWrite f)) w).out = tcpWrites w.out ++ fs := by
  induction fs generalizing w with
  | nil => exact (List.append_nil _).symm
  | cons f fs ih =>
    rw [List.foldl_cons, ih, tcpWrites_put, List.append_assoc]
    rfl

/-- the flush of a new connection -/
theorem onTcpConnected_spec (w : NetworkWorker) : w.onTcpConnected.pendingTx = [] ∧
    tcpWrites w.onTcpConnected.out = tcpWrites w.out ++ w.pendingTx := by
  refine ⟨rfl, ?_⟩
  unfold NetworkWorker.onTcpConnected
  rw [tcpWrites_put]
  exact (List.append_nil _).trans (flush_writes w.pendingTx w)

/-! ## The invariant -/

/-- the frames split into a part that is done and a part of which nothing is handed over yet -/
structure Kept (l : Ledger) : Prop where
  idle : l.worker.tcp = .Connected → l.worker.pendingTx = []
  order : ∃ done rest, l.frames = done ++ rest ∧ (∀ f ∈ done, f.2 ≠ .pending) ∧
    (∀ f ∈ rest, f.2 ≠ .handed) ∧ tcpWrites l.worker.out = having .handed done ∧
    l.worker.pendingTx = having .pending rest

variable {l : Ledger}

theorem Kept.handed (h : Kept l) : tcpWrites l.worker.out = having .handed l.frames := by
  obtain ⟨done, rest, hframes, -, hrest, hwrites, -⟩ := h.order
  rw [hframes, having_append, having_eq_nil hrest, List.append_nil, hwrites]

theorem Kept.pending (h : Kept l) : l.worker.pendingTx = having .pending l.frames := by
  obtain ⟨done, rest, hframes, hdone, -, -, hpending⟩ := h.order
  rw [hframes, having_append, having_eq_nil hdone, List.nil_append, hpending]

theorem Kept.moved (h : Kept l) {w' : NetworkWorker} (hm : Moves l.worker w') :
    Kept { worker := w', frames := l.frames } := by
  obtain ⟨done, rest, hframes, hdone, hrest, hwrites, hpending⟩ := h.order
  refine ⟨fun hc => hm.pendingTx.trans (h.idle (hm.tcp hc)), done, rest, hframes, hdone, hrest,
    hm.writes.trans hwrites, hm.pendingTx.trans hpending⟩

theorem settle_ne_pending {fate : Fate} (hfate : fate ≠ .pending) (f : List UInt8 × Fate) :
    (fate.settle f).2 ≠ .pending := by
  unfold Fate.settle
  split
  · exact hfate
  · assumption

/-- with nothing pending, all frames are done -/
theorem Kept.allDone (h : Kept l) (hnone : l.worker.pendingTx = []) :
    ∀ f ∈ l.frames, f.2 ≠ .pending := by
  intro f hf hp
  have hmem : f.1 ∈ having .pending l.frames :=
    List.mem_map_of_mem (List.mem_filter.mpr ⟨hf, by simpa using hp⟩)
  rw [← h.pending, hnone] at hmem
  exact List.not_mem_nil hmem

theorem kept_writeData (h : Kept l) (data : List UInt8) :
    Kept (ledgerStep (.writeData data) l) := by
  obtain ⟨done, rest, hframes, hdone, hrest, hwrites, hpending⟩ := h.order
  unfold ledgerStep workerStep fates NetworkWorker.writeData
  dsimp only
  by_cases hc : l.worker.tcp = .Connected
  · rw [if_neg (not_not.mpr hc), if_pos hc]
    have hnone := h.idle hc
    refine ⟨fun _ => hnone, l.frames ++ [(data, .handed)], [], (List.append_nil _).symm, ?_,
      fun _ hm => absurd hm List.not_mem_nil, ?_, hnone⟩
    · intro f hf
      rcases List.mem_append.mp hf with hf | hf
      · exact h.allDone hnone f hf
      · rw [List.mem_singleton.mp hf]
        exact Fate.noConfusion
    · rw [tcpWrites_put, having_append, ← h.handed]
      rfl
  · rw [if_pos hc, if_neg hc]
    -- the frame joins those that are not handed over
    have later (fate : Fate) (hf : fate ≠ .handed) :
        ∀ f ∈ rest ++ [(data, fate)], f.2 ≠ .handed := by
      intro f hm
      rcases List.mem_append.mp hm with hm | hm
      · exact hrest f hm
      · rw [List.mem_singleton.mp hm]
        exact hf
    by_cases hroom : l.worker.pendingTx.length < kMaxPendingTx
    · rw [if_pos hroom, if_pos hroom]
      refine ⟨fun hc' => absurd hc' hc, done, rest ++ [(data, .pending)], ?_, hdone,
        later _ Fate.noConfusion, hwrites, ?_⟩
      · rw [hframes, List.append_assoc]
      · rw [having_append, ← hpending]
        rfl
    · rw [if_neg hroom, if_neg hroom]
      refine ⟨fun hc' => absurd hc' hc, done, rest ++ [(data, .dropped)], ?_, hdone,
        later _ Fate.noConfusion, hwrites, ?_⟩
      · rw [hframes, List.append_assoc]
      · rw [having_append, ← hpending]
        exact (List.append_nil _).symm

theorem map_settle_of_done {fate : Fate} {frames : List (List UInt8 × Fate)}
    (h : ∀ f ∈ frames, f.2 ≠ .pending) : frames.map fate.settle = frames :=
  (List.map_congr_left fun f hf => settle_of_not_pending (h f hf)).trans (List.map_id _)

theorem kept_disconnectFromHost (h : Kept l) : Kept (ledgerStep .disconnectFromHost l) := by
  obtain ⟨done, rest, hframes, hdone, hrest, hwrites, -⟩ := h.order
  have hpending : (ledgerStep .disconnectFromHost l).worker.pendingTx = [] := by
    unfold ledgerStep workerStep NetworkWorker.disconnectFromHost
    dsimp only
    split <;> rfl
  have hout : (ledgerStep .disconnectFromHost l).worker.out = l.worker.out := by
    unfold ledgerStep workerStep NetworkWorker.disconnectFromHost
    dsimp only
    split <;> rfl
  refine ⟨fun _ => hpending, done, rest.map Fate.cleared.settle, ?_, hdone, ?_, ?_, ?_⟩
  · show l.frames.map Fate.cleared.settle = _
    rw [hframes, List.map_append, map_settle_of_done hdone]
  · intro f hf
    obtain ⟨g, hg, rfl⟩ := List.mem_map.mp hf
    unfold Fate.settle
    split
    · exact Fate.noConfusion
    · exact hrest g hg
  · rw [hout, hwrites]
  · rw [hpending, having_eq_nil]
    intro f hf
    obtain ⟨g, -, rfl⟩ := List.mem_map.mp hf
    exact settle_ne_pending Fate.noConfusion g

theorem kept_established (h : Kept l) (hc : l.worker.tcp = .Connecting) :
    Kept (ledgerStep (.tcp .established) l) := by
  obtain ⟨done, rest, hframes, hdone, hrest, hwrites, hpending⟩ := h.order
  have hworker : (ledgerStep (.tcp .established) l).worker =
      { l.worker with tcp := .Connected }.onTcpConnected := if_pos hc
  have hledger : (ledgerStep (.tcp .established) l).frames =
      l.frames.map Fate.handed.settle := if_pos hc
  obtain ⟨hnone, hflush⟩ := onTcpConnected_spec { l.worker with tcp := .Connected }
  have hall : ∀ f ∈ l.frames.map Fate.handed.settle, f.2 ≠ .pending := by
    intro f hf
    obtain ⟨g, -, rfl⟩ := List.mem_map.mp hf
    exact settle_ne_pending Fate.noConfusion g
  refine ⟨fun _ => by rw [hworker]; exact hnone, l.frames.map Fate.handed.settle, [], ?_, hall,
    fun _ hm => absurd hm List.not_mem_nil, ?_, by rw [hworker]; exact hnone⟩
  · rw [hledger, List.append_nil]
  · rw [hworker, hflush, hframes, List.map_append, map_settle_of_done hdone, having_append,
      having_settle hrest, ← hpending, ← hwrites]

theorem kept_step (e : SocketEvent) (l : Ledger) (h : Kept l) : Kept (ledgerStep e l) := by
  cases e with
  | connectToHost host port udpBind => exact h.moved (connectToHost_moves host port udpBind _)
  | disconnectFromHost => exact kept_disconnectFromHost h
  | writeData data => exact kept_writeData h data
  | tcp e =>
    by_cases he : e = .established
    · subst he
      by_cases hc : l.worker.tcp = .Connecting
      · exact kept_established h hc
      · have hsame : ledgerStep (.tcp .established) l = l := by
          unfold ledgerStep workerStep fates NetworkWorker.tcpEvent
          dsimp only
          rw [if_neg hc, if_neg hc]
        rw [hsame]
        exact h
    · have hframes : fates (.tcp e) l.worker l.frames = l.frames := by
        cases e <;> first | rfl | exact absurd rfl he
      unfold ledgerStep
      rw [hframes]
      exact h.moved (tcpEvent_moves he l.worker)

/-- every frame passed to the worker is on the ledger, in order -/
theorem fates_map_fst (e : SocketEvent) (w : NetworkWorker) (frames : List (List UInt8 × Fate)) :
    (fates e w frames).map Prod.fst = frames.map Prod.fst ++ e.frame?.toList := by
  have same : frames.map Prod.fst = frames.map Prod.fst ++ [] := (List.append_nil _).symm
  cases e with
  | writeData data => exact List.map_append
  | connectToHost host port udpBind => exact same
  | disconnectFromHost => exact (settle_map_fst .cleared frames).trans same
  | tcp e =>
    cases e with
    | established =>
      show (if _ then _ else _ : List (List UInt8 × Fate)).map Prod.fst = _
      split
      · exact (settle_map_fst .handed frames).trans same
      · exact same
    | _ => exact same

theorem ledger_written (es : List SocketEvent) (l : Ledger) :
    (Run.exec ledgerStep es l).frames.map Prod.fst = l.frames.map Prod.fst ++ written es := by
  induction es generalizing l with
  | nil => exact (List.append_nil _).symm
  | cons e es ih =>
    rw [Run.exec_cons, ih]
    show (fates e l.worker l.frames).map Prod.fst ++ _ = _
    rw [fates_map_fst, List.append_assoc]
    unfold written
    rw [List.filterMap_eq_flatMap_toList _ (e :: es), List.flatMap_cons,
      ← List.filterMap_eq_flatMap_toList]

/-- the ledger is beside the worker -/
theorem ledger_worker (es : List SocketEvent) (l : Ledger) :
    (Run.exec ledgerStep es l).worker = Run.exec workerStep es l.worker := by
  induction es generalizing l with
  | nil => rfl
  | cons e es ih => exact ih (ledgerStep e l)

/-- **Control frames keep their order.**  After any run of a new worker, what was handed to the
socket is a sublist of what was written: all of it but the frames that are pending, were dropped
or cleared.  A connected worker has nothing pending. -/
theorem controlFrames_kept (es : List SocketEvent) :
    let l := Run.exec ledgerStep es {}
    l.worker = Run.exec workerStep es {} ∧ l.frames.map Prod.fst = written es ∧
      tcpWrites l.worker.out = having .handed l.frames ∧
      (tcpWrites l.worker.out).Sublist (written es) ∧
      l.worker.pendingTx = having .pending l.frames ∧
      (l.worker.tcp = .Connected → l.worker.pendingTx = []) := by
  intro l
  have hkept : Kept l := Run.exec_inv ledgerStep kept_step es {} ⟨fun _ => rfl, [], [], rfl,
    by simp, by simp, rfl, rfl⟩
  have hwritten : l.frames.map Prod.fst = written es := ledger_written es {}
  refine ⟨ledger_worker es {}, hwritten, hkept.handed, ?_, hkept.pending, hkept.idle⟩
  rw [hkept.handed, ← hwritten]
  exact having_sublist .handed l.frames

end QMon.Transport
