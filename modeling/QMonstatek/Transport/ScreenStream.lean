import QMonstatek.Lib.Run
import QMonstatek.Transport.NetworkWorker

/-!
# One screen stream among stale datagrams

`ValidDgram p`     `p` has the size and the magic of a screen datagram;
`InOrder e last p` `p` belongs to the stream of epoch `e` and its number is ahead of `last`, the
                   number of the last such datagram, by at most 0x7FFF modulo 2^16;
`ShownRight e p r` what the receiver of the stream does with `p`: a datagram of another epoch is
                   not displayed, an in-order one is.

The worker takes the epoch of the first valid datagram after `armScreen` for that of the stream,
so the stream is shown right iff that datagram is one of its own: `shownRight_iff`.
-/

namespace QMon.Transport
open Rpc Device NetworkWorker

def ValidDgram (p : List UInt8) : Prop :=
  p.length = SCREEN_DGRAM_SIZE ∧ p.getD 0 0 = SCREEN_MAGIC0 ∧ p.getD 1 0 = SCREEN_MAGIC1

instance (p : List UInt8) : Decidable (ValidDgram p) := by
  unfold ValidDgram
  infer_instance

/-- the number `seq` is ahead of the last one -/
def follows (last : Option UInt16) (seq : UInt16) : Prop :=
  match last with
  | none => True
  | some l => seq - l ≠ 0 ∧ seq - l ≤ 0x7FFF

instance (last : Option UInt16) (seq : UInt16) : Decidable (follows last seq) := by
  unfold follows
  split <;> infer_instance

def InOrder (epoch : UInt32) (last : Option UInt16) (p : List UInt8) : Prop :=
  ValidDgram p ∧ dgramEpoch p = epoch ∧ follows last (dgramSeq p)

instance (epoch : UInt32) (last : Option UInt16) (p : List UInt8) :
    Decidable (InOrder epoch last p) := by
  unfold InOrder
  infer_instance

/-- the worker, with the number of the last in-order datagram of the stream so far -/
structure Receiving where
  worker : NetworkWorker
  last : Option UInt16 := none

/-- the datagram `p` arrives -/
def receive (epoch : UInt32) (p : List UInt8) (r : Receiving) : Receiving :=
  { worker := r.worker.takeDatagram p
    last := if InOrder epoch r.last p then some (dgramSeq p) else r.last }

structure ShownRight (epoch : UInt32) (p : List UInt8) (r : Receiving) : Prop where
  stale : ValidDgram p → dgramEpoch p ≠ epoch → (r.worker.takeDatagram p).out = r.worker.out
  own : InOrder epoch r.last p →
    (r.worker.takeDatagram p).out = r.worker.out ++ [.screenFrame (dgramFb p)]

/-! ## One datagram -/

variable {w : NetworkWorker} {p : List UInt8}

theorem ValidDgram.fb_length (h : ValidDgram p) : (dgramFb p).length = SCREEN_FB_LEN := by
  have hl : p.length = 1032 := h.1
  unfold dgramFb
  rw [mid_of_le p SCREEN_FB_OFFSET SCREEN_FB_LEN (by rw [hl]; decide), List.length_take,
    List.length_drop, hl]
  rfl

theorem takeDatagram_invalid (h : ¬ ValidDgram p) : w.takeDatagram p = w := by
  unfold takeDatagram
  split
  · rfl
  · split
    · rfl
    · split
      · rfl
      · rename_i hsize hmagic
        simp only [not_or, Decidable.not_not] at hsize hmagic
        exact absurd ⟨hsize, hmagic⟩ h

/-- the framebuffer goes to the screen -/
def display (p : List UInt8) (w : NetworkWorker) : NetworkWorker :=
  { w with lastSeq := (dgramSeq p).toNat, screen := dgramFb p }.put (.screenFrame (dgramFb p))

theorem takeDatagram_valid (h : ValidDgram p) (active : w.screenActive = true) :
    w.takeDatagram p =
      if w.epochKnown ∧ dgramEpoch p ≠ w.epoch then w
      else
        let w := if w.epochKnown then w else { w with epoch := dgramEpoch p, epochKnown := true }
        if w.staleSeq (dgramSeq p) then w else display p w := by
  have hfb : screenUpdate (dgramFb p) = fun w => ({ w with screen := dgramFb p }, true) := by
    funext w
    unfold screenUpdate
    rw [if_neg (not_not.mpr h.fb_length)]
  unfold takeDatagram
  rw [if_neg (not_not.mpr active), if_neg (not_not.mpr h.1),
    if_neg (not_or.mpr ⟨not_not.mpr h.2.1, not_not.mpr h.2.2⟩), hfb]
  rfl

/-- the first datagram is displayed, whatever its epoch -/
theorem takeDatagram_first (h : ValidDgram p) (active : w.screenActive = true)
    (unknown : w.epochKnown = false) (none : w.lastSeq = -1) :
    w.takeDatagram p = display p { w with epoch := dgramEpoch p, epochKnown := true } := by
  rw [takeDatagram_valid h active, if_neg (by simp [unknown])]
  simp [unknown, staleSeq, none]

theorem takeDatagram_known (h : ValidDgram p) (active : w.screenActive = true)
    (known : w.epochKnown = true) :
    w.takeDatagram p =
      if dgramEpoch p ≠ w.epoch ∨ w.staleSeq (dgramSeq p) then w else display p w := by
  rw [takeDatagram_valid h active]
  by_cases he : dgramEpoch p = w.epoch
  · simp [known, he]
  · simp [known, he]

/-! ## The latch -/

/-- the stream has been armed and nothing valid has come in -/
structure Armed (r : Receiving) : Prop where
  active : r.worker.screenActive = true
  epochKnown : r.worker.epochKnown = false
  lastSeq : r.worker.lastSeq = -1
  last : r.last = none

/-- the worker follows the stream `epoch` -/
structure Latched (epoch : UInt32) (r : Receiving) : Prop where
  active : r.worker.screenActive = true
  epochKnown : r.worker.epochKnown = true
  epoch : r.worker.epoch = epoch
  last : ∃ seq, r.last = some seq ∧ r.worker.lastSeq = seq.toNat

variable {epoch : UInt32} {r : Receiving}

theorem receive_invalid (h : ¬ ValidDgram p) : receive epoch p r = r := by
  unfold receive
  rw [takeDatagram_invalid h, if_neg fun hi => h hi.1]

theorem shownRight_invalid (h : ¬ ValidDgram p) : ShownRight epoch p r :=
  ⟨fun hv => absurd hv h, fun hi => absurd hi.1 h⟩

theorem Latched.staleSeq_iff (hl : Latched epoch r) (seq : UInt16) :
    r.worker.staleSeq seq = true ↔ ¬ follows r.last seq := by
  obtain ⟨l, hlast, hseq⟩ := hl.last
  have hl0 : r.worker.lastSeq ≥ 0 := by omega
  have hl1 : UInt16.ofNat r.worker.lastSeq.toNat = l := by
    rw [hseq, Int.toNat_natCast, UInt16.ofNat_toNat]
  unfold staleSeq follows
  rw [hlast, hl1]
  simp only [hl0, decide_true, Bool.true_and, Bool.or_eq_true, beq_iff_eq, decide_eq_true_eq,
    not_and_or, not_not, gt_iff_lt, UInt16.not_le]

/-- an in-order datagram is displayed and becomes the last one -/
theorem display_latched (p : List UInt8) (hw : w.screenActive = true)
    (hk : w.epochKnown = true) (he : w.epoch = epoch) :
    Latched epoch { worker := display p w, last := some (dgramSeq p) } :=
  ⟨hw, hk, he, dgramSeq p, rfl, rfl⟩

/-- one datagram while the stream is followed -/
theorem latched_receive (hl : Latched epoch r) (p : List UInt8) :
    ShownRight epoch p r ∧ Latched epoch (receive epoch p r) := by
  by_cases h : ValidDgram p
  · have htake := takeDatagram_known h hl.active hl.epochKnown
    rw [hl.epoch] at htake
    by_cases hin : InOrder epoch r.last p
    · have hshow : r.worker.takeDatagram p = display p r.worker := by
        rw [htake, if_neg]
        rintro (he | hs)
        · exact he hin.2.1
        · exact (hl.staleSeq_iff _).mp hs hin.2.2
      refine ⟨⟨fun _ he => absurd hin.2.1 he, fun _ => by rw [hshow]; rfl⟩, ?_⟩
      unfold receive
      rw [hshow, if_pos hin]
      exact display_latched p hl.active hl.epochKnown hl.epoch
    · have hdrop : r.worker.takeDatagram p = r.worker := by
        rw [htake, if_pos]
        by_cases he : dgramEpoch p = epoch
        · exact .inr ((hl.staleSeq_iff _).mpr fun hf => hin ⟨h, he, hf⟩)
        · exact .inl he
      refine ⟨⟨fun _ _ => by rw [hdrop], fun hx => absurd hx hin⟩, ?_⟩
      unfold receive
      rw [hdrop, if_neg hin]
      exact hl
  · rw [receive_invalid h]
    exact ⟨shownRight_invalid h, hl⟩

theorem latched_along (hl : Latched epoch r) (ps : List (List UInt8)) :
    Run.Along (receive epoch) (ShownRight epoch) ps r := by
  induction ps generalizing r with
  | nil => trivial
  | cons p ps ih =>
    obtain ⟨hshown, hnext⟩ := latched_receive hl p
    exact ⟨hshown, ih hnext⟩

/-- the first valid datagram, if there is one, belongs to the stream -/
def OwnFirst (epoch : UInt32) (ps : List (List UInt8)) : Prop :=
  ∀ p ∈ ps.find? (fun p => decide (ValidDgram p)), dgramEpoch p = epoch

theorem armed_along_iff (ha : Armed r) (ps : List (List UInt8)) :
    Run.Along (receive epoch) (ShownRight epoch) ps r ↔ OwnFirst epoch ps := by
  induction ps with
  | nil => exact iff_of_true trivial (by simp [OwnFirst])
  | cons p ps ih =>
    unfold OwnFirst at ih ⊢
    by_cases h : ValidDgram p
    · rw [List.find?_cons_of_pos (by simpa using h)]
      have htake := takeDatagram_first h ha.active ha.epochKnown ha.lastSeq
      constructor
      · rintro ⟨hshown, -⟩ q hq
        rw [← Option.some.inj hq]
        -- a datagram of another epoch would have been displayed
        by_contra he
        have hout := hshown.stale h he
        rw [htake] at hout
        exact absurd hout (by simp [display, put])
      · intro hown
        have he : dgramEpoch p = epoch := hown p rfl
        have hin : InOrder epoch r.last p := by
          rw [ha.last]
          exact ⟨h, he, trivial⟩
        refine ⟨⟨fun _ hne => absurd he hne, fun _ => by rw [htake]; rfl⟩, latched_along ?_ ps⟩
        unfold receive
        rw [htake, if_pos hin]
        exact display_latched p ha.active rfl he
    · rw [List.find?_cons_of_neg (by simpa using h), ← ih]
      show ShownRight epoch p r ∧ Run.Along _ _ ps (receive epoch p r) ↔ _
      rw [receive_invalid h]
      exact and_iff_right (shownRight_invalid h)

/-- **Stale datagrams**: after `armScreen` the stream is shown right, among datagrams of any
epochs in any order, iff the first valid datagram that comes in is one of its own. -/
theorem shownRight_iff (epoch : UInt32) (ps : List (List UInt8)) (w : NetworkWorker) :
    Run.Along (receive epoch) (ShownRight epoch) ps { worker := w.armScreen } ↔
      OwnFirst epoch ps :=
  armed_along_iff ⟨rfl, rfl, rfl, rfl⟩ ps

/-- a screen datagram with a blank framebuffer -/
def blankDgram (seq : UInt8) (epoch : UInt8) : List UInt8 :=
  [SCREEN_MAGIC0, SCREEN_MAGIC1, seq, 0, epoch, 0, 0, 0] ++ List.replicate SCREEN_FB_LEN 0

/-- one datagram of the stream before (epoch 1) comes in late: it is displayed, and the stream
(epoch 2) is not -/
theorem staleDatagram_displayed :
    let w := ({} : NetworkWorker).armScreen.onUdpReadyRead [blankDgram 7 1]
    w.out = [.screenFrame (List.replicate SCREEN_FB_LEN 0)] ∧
      (w.onUdpReadyRead [blankDgram 0 2, blankDgram 1 2, blankDgram 2 2]).out = w.out ∧
      ¬ Run.Along (receive 2) (ShownRight 2) [blankDgram 7 1, blankDgram 0 2]
        { worker := ({} : NetworkWorker).armScreen } := by
  refine ⟨by decide +kernel, by decide +kernel, ?_⟩
  rw [armed_along_iff ⟨rfl, rfl, rfl, rfl⟩]
  intro hown
  exact absurd (hown (blankDgram 7 1) (by decide +kernel)) (by decide)

end QMon.Transport
