import QMonstatek.Lib.Run
import QMonstatek.Protocol.Crc16

/-!
# The dialect handshake

After `resetCrcDialect` the ping timer alternates the TX dialect until a validated frame latches
the peer's.  The latch and the TX dialect are two atomic variables.  Over WiFi the frames are
validated on the worker's thread, while the reset and the pings run on the GUI thread: `Thread` is
the thread that makes its next access to one of them, `step d` that access when the peer builds its
frames with dialect `d`.

* `reset_alone`, `ping_alone`, `validate_alone`, `validate_locked`   a handler that nothing
  interrupts does what its function in `Crc16` does (over USB all of them run on the GUI thread);
* `Undisturbed`                what an access needs for TX to follow the peer;
* `crcDialect_followsPeer_iff` in any interleaving TX follows the peer iff every access has it.
-/

namespace QMon.Rpc
open Run

inductive Thread where
  | gui
  | worker
  deriving DecidableEq, Repr

/-- the GUI thread between two accesses -/
inductive Gui where
  /-- in `resetCrcDialect`, between its two stores -/
  | reset
  | idle
  /-- the ping handler has found the latch open -/
  | tested
  /-- and has loaded TX -/
  | loaded (tx : CrcDialect)
  deriving DecidableEq, Repr

/-- the worker's thread between two accesses -/
inductive Worker where
  | idle
  /-- the frame with this body has taken the latch, its store of TX is due -/
  | taken (body : List UInt8)
  /-- the same, for a frame from before the reset, with what it stores -/
  | left (tx : CrcDialect)
  deriving DecidableEq, Repr

structure Handshake where
  session : CrcSession
  gui : Gui := .reset
  worker : Worker := .idle
  /-- the bodies of the frames to come -/
  inbound : List (List UInt8) := []
  /-- since the latch was opened a frame has been validated -/
  heard : Bool := false

namespace Handshake

/-- `resetCrcDialect` has opened the latch, in any session; the worker may owe it a store -/
def called (s : CrcSession) (left : Option CrcDialect) (inbound : List (List UInt8)) :
    Handshake where
  session := { s with dialectLocked := false }
  worker := left.elim .idle .left
  inbound := inbound

def store (tx : CrcDialect) (h : Handshake) : Handshake :=
  { h with session := setTxCrcDialect tx h.session }

/-- the reset, and then one ping handler after the other -/
def guiStep (h : Handshake) : Handshake :=
  match h.gui with
  | .reset => { h.store .Correct with gui := .idle }
  | .idle => if h.session.dialectLocked then h else { h with gui := .tested }
  | .tested => { h with gui := .loaded h.session.txDialect }
  | .loaded tx => { h.store tx.other with gui := .idle }

/-- `crc16ValidateRx` for one frame after the other: the exchange, and the store after a latch that
was open -/
def workerStep (d : CrcDialect) (h : Handshake) : Handshake :=
  match h.worker, h.inbound with
  | .left tx, _ => { h.store tx with worker := .idle }
  | .taken body, _ => { h.store (d.takenFor body) with worker := .idle, heard := true }
  | .idle, [] => h
  | .idle, body :: rest =>
    if h.session.dialectLocked then { h with inbound := rest, heard := true }
    else { h with
      session := { h.session with dialectLocked := true }, worker := .taken body, inbound := rest }

def step (d : CrcDialect) : Thread → Handshake → Handshake
  | .gui, h => h.guiStep
  | .worker, h => h.workerStep d

/-! ## A handler that nothing interrupts -/

section
variable (d : CrcDialect) {h : Handshake}

theorem reset_alone (s : CrcSession) (left : Option CrcDialect) (inbound : List (List UInt8)) :
    (step d .gui (called s left inbound)).session = resetCrcDialect s := rfl

theorem ping_alone (hg : h.gui = .idle) :
    (exec (step d) [.gui, .gui, .gui] h).session = alternateTxDialect h.session := by
  obtain ⟨⟨tx, locked⟩, gui, worker, inbound, heard⟩ := h
  obtain rfl : gui = .idle := hg
  cases locked <;> rfl

theorem validate_alone {body : List UInt8} {rest : List (List UInt8)} (hw : h.worker = .idle)
    (hi : h.inbound = body :: rest) (hopen : h.session.dialectLocked = false) :
    (exec (step d) [.worker, .worker] h).session =
      (crc16ValidateRx body (d.crc body) h.session).2 := by
  obtain ⟨⟨tx, locked⟩, gui, worker, inbound, heard⟩ := h
  obtain rfl : worker = .idle := hw
  obtain rfl : inbound = body :: rest := hi
  obtain rfl : locked = false := hopen
  rw [crc16ValidateRx_crc]
  rfl

theorem validate_locked {body : List UInt8} {rest : List (List UInt8)} (hw : h.worker = .idle)
    (hi : h.inbound = body :: rest) (hlocked : h.session.dialectLocked = true) :
    (step d .worker h).session = (crc16ValidateRx body (d.crc body) h.session).2 := by
  obtain ⟨⟨tx, locked⟩, gui, worker, inbound, heard⟩ := h
  obtain rfl : worker = .idle := hw
  obtain rfl : inbound = body :: rest := hi
  obtain rfl : locked = true := hlocked
  rw [crc16ValidateRx_crc]
  rfl

end

/-! ## TX and the peer -/

/-- after the reset, once a frame has been validated -/
def TxIsPeer (d : CrcDialect) (h : Handshake) : Prop :=
  h.gui ≠ .reset → h.heard = true → h.session.txDialect = d

/-- TX follows the peer at every moment after the first validated frame -/
def FollowsPeer (d : CrcDialect) (es : List Thread) (h : Handshake) : Prop :=
  Throughout (step d) (TxIsPeer d) es h

/-- where the worker is, the latch and the history tell -/
def LatchOk (h : Handshake) : Prop :=
  match h.worker with
  | .idle => h.heard = h.session.dialectLocked
  | .taken _ => h.session.dialectLocked = true ∧ h.heard = false
  | .left _ => h.session.dialectLocked = false ∧ h.heard = false

theorem latchOk_called (s : CrcSession) (left : Option CrcDialect) (inbound : List (List UInt8)) :
    (called s left inbound).LatchOk := by
  cases left with
  | none => rfl
  | some tx => exact ⟨rfl, rfl⟩

theorem latchOk_step (d : CrcDialect) (e : Thread) (h : Handshake) (hl : h.LatchOk) :
    (step d e h).LatchOk := by
  obtain ⟨⟨tx, locked⟩, gui, worker, inbound, heard⟩ := h
  cases e with
  | gui =>
    cases gui with
    | idle => cases locked <;> exact hl
    | reset | tested | loaded tx => exact hl
  | worker =>
    cases worker with
    | left tx => exact hl.2.trans hl.1.symm
    | taken body => exact hl.1.symm
    | idle =>
      cases inbound with
      | nil => exact hl
      | cons body rest =>
        cases locked with
        | true => rfl
        | false => exact ⟨rfl, hl⟩

end Handshake

/-- the two tables give this body different CRCs -/
def Tells (body : List UInt8) : Prop :=
  CrcDialect.crc .Correct body ≠ CrcDialect.crc .Legacy body

instance (body : List UInt8) : Decidable (Tells body) :=
  inferInstanceAs (Decidable (_ ≠ _))

theorem takenFor_eq_iff (d : CrcDialect) (body : List UInt8) :
    d.takenFor body = d ↔ (d = .Correct ∨ Tells body) := by
  unfold CrcDialect.takenFor Tells
  cases d with
  | Correct => simp
  | Legacy =>
    by_cases h : CrcDialect.crc .Correct body = CrcDialect.crc .Legacy body <;> simp [h]

theorem other_eq_iff (d tx : CrcDialect) : tx.other = d ↔ tx = d.other := by
  cases d <;> cases tx <;> decide

namespace Handshake

/-- what an access needs, in the state it is made from -/
def Undisturbed (d : CrcDialect) : Thread → Handshake → Prop
  -- the frame that took the latch tells the dialects apart
  | .worker, h => ∀ body, h.worker = .taken body → h.gui ≠ .reset → d = .Correct ∨ Tells body
  | .gui, h => h.heard = true →
    -- no frame was validated between the two stores of the reset
    (h.gui = .reset → d = .Correct) ∧
    -- no ping that found the latch open stores after a frame was validated
    ∀ tx, h.gui = .loaded tx → tx = d.other

theorem txIsPeer_gui_iff (d : CrcDialect) (h : Handshake) (hp : h.TxIsPeer d) :
    (step d .gui h).TxIsPeer d ↔ Undisturbed d .gui h := by
  obtain ⟨⟨tx, locked⟩, gui, worker, inbound, heard⟩ := h
  cases gui with
  | reset =>
    refine ⟨fun hnext hheard => ⟨fun _ => (hnext nofun hheard).symm, nofun⟩, fun hok _ hheard => ?_⟩
    exact ((hok hheard).1 rfl).symm
  | idle =>
    refine iff_of_true ?_ fun _ => ⟨nofun, nofun⟩
    cases locked with
    | true => exact hp
    | false => exact fun _ => hp nofun
  | tested => exact iff_of_true (fun _ => hp nofun) fun _ => ⟨nofun, nofun⟩
  | loaded x =>
    constructor
    · intro hnext hheard
      refine ⟨nofun, fun tx htx => ?_⟩
      obtain rfl := Gui.loaded.inj htx
      exact (other_eq_iff d x).mp (hnext nofun hheard)
    · intro hok _ hheard
      exact (other_eq_iff d x).mpr ((hok hheard).2 x rfl)

theorem txIsPeer_worker_iff (d : CrcDialect) (h : Handshake) (hl : h.LatchOk)
    (hp : h.TxIsPeer d) : (step d .worker h).TxIsPeer d ↔ Undisturbed d .worker h := by
  obtain ⟨⟨tx, locked⟩, gui, worker, inbound, heard⟩ := h
  cases worker with
  | left x =>
    refine iff_of_true (fun _ hheard => ?_) nofun
    exact Bool.noConfusion (hl.2.symm.trans hheard)
  | taken body =>
    constructor
    · intro hnext b hb hgui
      obtain rfl := Worker.taken.inj hb
      exact (takenFor_eq_iff d body).mp (hnext hgui rfl)
    · intro hok hgui _
      exact (takenFor_eq_iff d body).mpr (hok body rfl hgui)
  | idle =>
    refine iff_of_true ?_ nofun
    cases inbound with
    | nil => exact hp
    | cons body rest =>
      cases locked with
      | true => exact fun hgui _ => hp hgui hl
      | false =>
        intro _ hheard
        exact Bool.noConfusion (hl.symm.trans hheard)

end Handshake

open Handshake

/-- **TX follows the peer exactly when no access is disturbed**, from any session, for any frames of
the peer, in any interleaving of their validation with the reset and the pings. -/
theorem crcDialect_followsPeer_iff (d : CrcDialect) (s : CrcSession) (left : Option CrcDialect)
    (inbound : List (List UInt8)) (es : List Thread) :
    FollowsPeer d es (called s left inbound) ↔
      Along (step d) (Undisturbed d) es (called s left inbound) := by
  refine throughout_iff_along (step d) (latchOk_step d) (fun e h hl hp => ?_) es _
    (latchOk_called s left inbound) fun hgui => absurd rfl hgui
  cases e with
  | gui => exact txIsPeer_gui_iff d h hp
  | worker => exact txIsPeer_worker_iff d h hl hp

/-- the answer to the first PING of a session: `PONG`, sequence number 0, no payload.  A legacy
peer that sends it is taken for a current one. -/
theorem crcDialect_pong_misread :
    ¬ FollowsPeer .Legacy [.gui, .worker, .worker] (called {} none [[0x02, 0x00, 0x00, 0x00]]) := by
  intro h
  have htx := throughout_last _ _ _ h nofun rfl
  revert htx
  decide

/-- a ping handler is overtaken by the first frame of a current peer, and sends TX away from it -/
theorem crcDialect_ping_overtaken :
    ¬ FollowsPeer .Correct [.gui, .gui, .worker, .worker, .gui, .gui]
      (called {} none [[0x02, 0x00, 0x00, 0x00]]) := by
  intro h
  have htx := throughout_last _ _ _ h nofun rfl
  revert htx
  decide

end QMon.Rpc
