import QMonstatek.Transport.ScreenStream

/-!
# The frames of one stream are shown in order

The frames of a stream are numbered 0, 1, 2, ...; the datagram of frame `n` carries `n` modulo
2^16 (`IsFrame`).

`showFrame f s`   the datagram of frame `f` comes in, and is noted if it is displayed;
`NearLast f s`    `f` is at most 32767 frames away from the last one displayed;
`ShownIfNewer`    `f` is displayed if it is newer than that one.

`displayed_inOrder`: along any run of near frames the displayed ones are in order, and every newer
one is displayed, over any number of wraps.
-/

namespace QMon.Transport
open Rpc Device NetworkWorker

/-- a numbered frame and its datagram -/
abbrev Numbered := Nat × List UInt8

def IsFrame (epoch : UInt32) (f : Numbered) : Prop :=
  ValidDgram f.2 ∧ dgramEpoch f.2 = epoch ∧ dgramSeq f.2 = UInt16.ofNat f.1

/-- the worker, with the frames it has displayed, oldest first -/
structure Displaying where
  worker : NetworkWorker
  displayed : List Numbered := []

def showFrame (f : Numbered) (s : Displaying) : Displaying :=
  let w := s.worker.takeDatagram f.2
  { worker := w, displayed := if w.out = s.worker.out then s.displayed else s.displayed ++ [f] }

/-- within 32767 of the last displayed frame, if there is one -/
def NearLast (f : Numbered) (s : Displaying) : Prop :=
  ∀ last ∈ s.displayed.getLast?, f.1 ≤ last.1 + 32767 ∧ last.1 ≤ f.1 + 32767

instance (f : Numbered) (s : Displaying) : Decidable (NearLast f s) := by
  unfold NearLast
  infer_instance

def ShownIfNewer (f : Numbered) (s : Displaying) : Prop :=
  (∀ last ∈ s.displayed.getLast?, last.1 < f.1) →
    (showFrame f s).displayed = s.displayed ++ [f]

/-- numbers up to 32767 apart compare like their sequence numbers -/
theorem delta_iff {l n : Nat} (h1 : n ≤ l + 32767) (h2 : l ≤ n + 32767) :
    (UInt16.ofNat n - UInt16.ofNat l ≠ 0 ∧ UInt16.ofNat n - UInt16.ofNat l ≤ 0x7FFF) ↔ l < n := by
  have hdelta : (UInt16.ofNat n - UInt16.ofNat l).toNat =
      (2 ^ 16 - l % 2 ^ 16 + n % 2 ^ 16) % 2 ^ 16 := by
    rw [UInt16.toNat_sub, UInt16.toNat_ofNat', UInt16.toNat_ofNat']
  have hzero : UInt16.ofNat n - UInt16.ofNat l = 0 ↔
      (UInt16.ofNat n - UInt16.ofNat l).toNat = 0 := by
    rw [← UInt16.toNat_inj]
    rfl
  have hhalf : UInt16.ofNat n - UInt16.ofNat l ≤ 0x7FFF ↔
      (UInt16.ofNat n - UInt16.ofNat l).toNat ≤ 32767 := UInt16.le_iff_toNat_le
  rw [Ne, hzero, hhalf, hdelta]
  omega

section
variable {epoch : UInt32} {f : Numbered} {s : Displaying}

/-- the worker is armed, or follows the stream from the last displayed frame on -/
def Shows (epoch : UInt32) (s : Displaying) : Prop :=
  match s.displayed.getLast? with
  | none => Armed { worker := s.worker }
  | some last => Latched epoch { worker := s.worker, last := some (UInt16.ofNat last.1) }

/-- a frame that is displayed -/
structure Displays (epoch : UInt32) (f : Numbered) (s : Displaying) : Prop where
  newer : ∀ last ∈ s.displayed.getLast?, last.1 < f.1
  displayed : (showFrame f s).displayed = s.displayed ++ [f]
  out : (showFrame f s).worker.out = s.worker.out ++ [.screenFrame (dgramFb f.2)]
  shows : Shows epoch (showFrame f s)

theorem displays_of_display (hf : IsFrame epoch f) {w : NetworkWorker}
    (hnewer : ∀ last ∈ s.displayed.getLast?, last.1 < f.1)
    (htake : s.worker.takeDatagram f.2 = display f.2 w) (hout : w.out = s.worker.out)
    (active : w.screenActive = true) (known : w.epochKnown = true) (own : w.epoch = epoch) :
    Displays epoch f s := by
  have hput : (display f.2 w).out = s.worker.out ++ [.screenFrame (dgramFb f.2)] := by
    rw [← hout]
    rfl
  have hshow : showFrame f s = { worker := display f.2 w, displayed := s.displayed ++ [f] } := by
    unfold showFrame
    dsimp only
    rw [htake, if_neg (by rw [hput]; simp)]
  have hlatched := display_latched f.2 active known own
  rw [hf.2.2] at hlatched
  refine ⟨hnewer, by rw [hshow], by rw [hshow]; exact hput, ?_⟩
  rw [hshow]
  unfold Shows
  rw [List.getLast?_concat]
  exact hlatched

/-- **One frame**: it is displayed if it is the first or newer than the last one, and otherwise
nothing happens. -/
theorem showFrame_spec (hf : IsFrame epoch f) (hs : Shows epoch s) (hnear : NearLast f s) :
    Displays epoch f s ∨ showFrame f s = s ∧ ∃ last ∈ s.displayed.getLast?, f.1 ≤ last.1 := by
  unfold Shows at hs
  cases hlast : s.displayed.getLast? with
  | none =>
    rw [hlast] at hs
    exact .inl (displays_of_display hf (by simp [hlast])
      (takeDatagram_first hf.1 hs.active hs.epochKnown hs.lastSeq) rfl hs.active rfl hf.2.1)
  | some last =>
    rw [hlast] at hs
    have hdelta := delta_iff (hnear last hlast).1 (hnear last hlast).2
    have htake := takeDatagram_known hf.1 hs.active hs.epochKnown
    have hstale := hs.staleSeq_iff (dgramSeq f.2)
    rw [hf.2.2] at hstale htake
    by_cases hnewer : last.1 < f.1
    · rw [if_neg] at htake
      · exact .inl (displays_of_display hf (by simpa [hlast] using hnewer) htake rfl hs.active
          hs.epochKnown hs.epoch)
      · rintro (he | hsq)
        · exact he (hf.2.1.trans hs.epoch.symm)
        · exact hstale.mp hsq (hdelta.mpr hnewer)
    · rw [if_pos (.inr (hstale.mpr (mt hdelta.mp hnewer)))] at htake
      refine .inr ⟨?_, last, rfl, Nat.le_of_not_lt hnewer⟩
      unfold showFrame
      dsimp only
      rw [htake, if_pos rfl]

/-! ## A whole stream -/

/-- what a run has shown: numbers in order, and their framebuffers put out in that order -/
structure ShownInOrder (base : List WorkerOut) (s : Displaying) : Prop where
  increasing : (s.displayed.map Prod.fst).Pairwise (· < ·)
  out : s.worker.out = base ++ s.displayed.map fun f => .screenFrame (dgramFb f.2)

theorem pairwise_concat_of_last {l : List Nat} (h : l.Pairwise (· < ·)) {n : Nat}
    (hlast : ∀ m ∈ l.getLast?, m < n) : (l ++ [n]).Pairwise (· < ·) := by
  refine List.pairwise_append.mpr ⟨h, List.pairwise_singleton _ _, fun m hm k hk => ?_⟩
  obtain rfl : k = n := List.mem_singleton.mp hk
  obtain ⟨before, last, rfl⟩ : ∃ before last, l = before ++ [last] :=
    ⟨l.dropLast, l.getLast (List.ne_nil_of_mem hm), (List.dropLast_append_getLast _).symm⟩
  have hlt := hlast last (by simp)
  rcases List.mem_append.mp hm with hb | hl
  · exact Nat.lt_trans ((List.pairwise_append.mp h).2.2 m hb last List.mem_cons_self) hlt
  · rw [List.mem_singleton.mp hl]
    exact hlt

theorem Displays.shownInOrder {base : List WorkerOut} (h : Displays epoch f s)
    (ho : ShownInOrder base s) : ShownInOrder base (showFrame f s) := by
  constructor
  · rw [h.displayed, List.map_append, List.map_singleton]
    refine pairwise_concat_of_last ho.increasing fun m hm => ?_
    rw [List.getLast?_map] at hm
    obtain ⟨last, hlast, rfl⟩ := Option.map_eq_some_iff.mp hm
    exact h.newer last hlast
  · rw [h.out, ho.out, h.displayed, List.map_append, List.append_assoc]
    rfl

theorem shownInOrder_run {base : List WorkerOut} (fs : List Numbered)
    (hfs : ∀ f ∈ fs, IsFrame epoch f) (hs : Shows epoch s) (ho : ShownInOrder base s)
    (hnear : Run.Along showFrame NearLast fs s) :
    ShownInOrder base (Run.exec showFrame fs s) ∧ Run.Along showFrame ShownIfNewer fs s := by
  induction fs generalizing s with
  | nil => exact ⟨ho, trivial⟩
  | cons f fs ih =>
    obtain ⟨hnear, hrest⟩ := hnear
    have hnext := fun f' hf' => hfs f' (List.mem_cons_of_mem f hf')
    rcases showFrame_spec (hfs f List.mem_cons_self) hs hnear with h | ⟨hsame, last, hlast, hle⟩
    · obtain ⟨hdone, halong⟩ := ih hnext h.shows (h.shownInOrder ho) hrest
      exact ⟨hdone, fun _ => h.displayed, halong⟩
    · rw [hsame] at hrest
      obtain ⟨hdone, halong⟩ := ih hnext hs ho hrest
      refine ⟨?_, fun hnewer => absurd (hnewer last hlast) (Nat.not_lt.mpr hle), ?_⟩
      · rw [Run.exec_cons, hsame]
        exact hdone
      · rw [hsame]
        exact halong

end

/-- **Frames in order.**  The frames of one stream that come in after `armScreen`, each near the
last one displayed, are displayed with increasing numbers, and each that is newer is. -/
theorem displayed_inOrder (epoch : UInt32) (fs : List Numbered) (w : NetworkWorker)
    (hfs : ∀ f ∈ fs, IsFrame epoch f)
    (hnear : Run.Along showFrame NearLast fs { worker := w.armScreen }) :
    ShownInOrder w.out (Run.exec showFrame fs { worker := w.armScreen }) ∧
      Run.Along showFrame ShownIfNewer fs { worker := w.armScreen } := by
  have harmed : Shows epoch { worker := w.armScreen } := Armed.mk rfl rfl rfl rfl
  exact shownInOrder_run fs hfs harmed ⟨List.Pairwise.nil, (List.append_nil _).symm⟩ hnear

/-! ## The datagram of a frame -/

def frameDgram (epoch : UInt32) (n : Nat) (fb : List UInt8) : List UInt8 :=
  [SCREEN_MAGIC0, SCREEN_MAGIC1] ++ le16 (UInt16.ofNat n) ++ le32 epoch ++ fb

theorem frameDgram_isFrame (epoch : UInt32) (n : Nat) {fb : List UInt8}
    (hfb : fb.length = SCREEN_FB_LEN) : IsFrame epoch (n, frameDgram epoch n fb) := by
  refine ⟨⟨?_, rfl, rfl⟩, ofLe32_le32 epoch, ofLe16_le16 (UInt16.ofNat n)⟩
  show fb.length + 8 = SCREEN_DGRAM_SIZE
  rw [hfb]
  rfl

/-- over a wrap: frame 65536 has number 0, and is displayed after frame 65535 and not twice -/
theorem displayed_inOrder_wrap :
    let fs := [65535, 65533, 65536, 65536].map fun n =>
      (n, frameDgram 7 n (List.replicate SCREEN_FB_LEN 0))
    let s := Run.exec showFrame fs { worker := ({} : NetworkWorker).armScreen }
    s.displayed.map Prod.fst = [65535, 65536] ∧ ShownInOrder [] s := by
  refine ⟨by decide +kernel, (displayed_inOrder 7 _ {} (fun f hf => ?_) ?_).1⟩
  · obtain ⟨n, -, rfl⟩ := List.mem_map.mp hf
    exact frameDgram_isFrame 7 n List.length_replicate
  · exact ⟨by decide +kernel, by decide +kernel, by decide +kernel, by decide +kernel, trivial⟩

end QMon.Transport
