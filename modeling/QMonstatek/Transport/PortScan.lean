import Mathlib.Data.List.Count
import QMonstatek.Transport.DeviceDiscovery

/-!
# A port scan under re-entry

`ScanRight prev current s`   the scan read only positions that exist, reported each port that
                             disappeared once and no other as lost, reported each new port once,
                             and knows the current ports now;
`Reopens d prev current`     while the new ports are reported, `connectToDevice` is called;
`ScanSafe d prev current`    what the scan needs for that.

`scanRight_iff`: the scan is right iff it is safe.  What goes wrong: a port that closes in the loop
over the new ports is forgotten before it is reported as lost, and one that closes in the loop over
the known ports shortens the list the loop goes through.
-/

namespace QMon.Transport
open Device

structure ScanRight (prev current : List String) (s : Discovering) : Prop where
  reads : s.badRead = none
  lost : ∀ p ∈ prev, p ∉ current → s.reports.count (.deviceLost p) = 1
  present : ∀ p ∈ current, .deviceLost p ∉ s.reports
  found : ∀ p ∈ current, p ∉ prev → s.reports.count (.deviceFound p) = 1
  ports : s.ports = current

/-- a port that is reported while no retry is pending is opened, and one that is reported while a
retry is pending becomes the port to retry -/
def Reopens (d : Dev) (prev current : List String) : Prop :=
  d.link.autoConnect = true ∧ d.isConnected = false ∧ d.link.serialReconnectTimer = none ∧
    "" ∈ (d.link.serialReconnectPort ::
      current.filter (fun p => p ∉ prev ∧ d.Accepts p)).dropLast

instance (d : Dev) (prev current : List String) : Decidable (Reopens d prev current) :=
  inferInstanceAs (Decidable (_ ∧ _ ∧ _ ∧ _))

structure ScanSafe (d : Dev) (prev current : List String) : Prop where
  /-- no new port is listed twice -/
  new : ∀ p ∈ current, p ∉ prev → current.count p = 1
  /-- no port that disappeared is listed twice -/
  gone : ∀ p ∈ prev, p ∉ current → prev.count p = 1
  /-- no port that disappeared is closed, and forgotten, for a new one -/
  replaced : Reopens d prev current → d.link.serialOpen = true → d.forgetsPort →
    d.link.serialPort ∈ prev → d.link.serialPort ∈ current
  /-- the port that is closed because it disappeared is the last one -/
  closed : ∀ p ∈ prev, p ∉ current → d.OnPort p → d.forgetsPort → prev.getLast? = some p

namespace Discovering

variable {s : Discovering} {e : Event} {p : String} {current : List String}

/-! ## The device object hears -/

theorem hear_ports (h : forgotten (step e s.dev).out = []) : (s.hear e).ports = s.ports := by
  rw [hear, h]
  rfl

/-- a report that the device object ignores -/
theorem hear_ignored (h : step e s.dev = s.dev.fresh) :
    (s.hear e).ports = s.ports ∧ (s.hear e).dev.link = s.dev.link := by
  refine ⟨hear_ports (by rw [h]; rfl), ?_⟩
  rw [show (s.hear e).dev = s.dev.fresh from h]
  rfl

theorem hear_forgets (h : forgotten (step e s.dev).out = [p]) :
    (s.hear e).ports = forgetPort p s.ports := by
  rw [hear, h]
  rfl

theorem foldl_forgetPort_subset (names ports : List String) :
    names.foldl (fun ps p => forgetPort p ps) ports ⊆ ports := by
  induction names generalizing ports with
  | nil => exact List.Subset.refl _
  | cons name names ih => exact List.Subset.trans (ih _) (List.filter_subset_self _)

theorem hear_subset (e : Event) (s : Discovering) : (s.hear e).ports ⊆ s.ports :=
  foldl_forgetPort_subset _ _

theorem emitFound_ports (p : String) (s : Discovering) : (s.emitFound p).ports =
    (forgotten (s.emitFound p).dev.out).foldl (fun ps p => forgetPort p ps) s.ports := rfl

/-! ## What is reported -/

/-- a port that is not known is reported each time it is listed -/
theorem detectNew_reports (l : List String) (s : Discovering) (hp : p ∉ s.ports) :
    (detectNew l s).reports.count (.deviceFound p) =
      s.reports.count (.deviceFound p) + l.count p := by
  induction l generalizing s with
  | nil => rfl
  | cons q l ih =>
    rw [detectNew, List.foldl_cons]
    split
    · rename_i hq
      have next := ih (s.emitFound q) fun h => hp (hear_subset _ _ h)
      refine next.trans ?_
      show (s.reports ++ [_]).count _ + _ = _
      rw [List.count_append, List.count_singleton, List.count_cons]
      by_cases hqp : q = p
      · simp [hqp]; omega
      · simp [hqp]
    · rename_i hq
      have hqp : q ≠ p := fun h => hq (h ▸ hp)
      rw [List.count_cons_of_ne hqp]
      exact ih s hp

theorem detectNew_lost (l : List String) (s : Discovering) (p : String) :
    (detectNew l s).reports.count (.deviceLost p) = s.reports.count (.deviceLost p) := by
  induction l generalizing s with
  | nil => rfl
  | cons q l ih =>
    rw [detectNew, List.foldl_cons]
    split
    · refine (ih (s.emitFound q)).trans ?_
      show (s.reports ++ [_]).count _ = _
      rw [List.count_append]
      simp
    · exact ih s

/-- the loop over the known ports, as long as it goes through the ports `l` -/
theorem foldl_checkLost_reports (l : List String) (s : Discovering) :
    (l.foldl (fun s p => checkLost current p s) s).reports =
      s.reports ++ (l.filter (· ∉ current)).map .deviceLost := by
  induction l generalizing s with
  | nil => exact (List.append_nil _).symm
  | cons q l ih =>
    rw [List.foldl_cons, ih, checkLost]
    by_cases hq : q ∈ current
    · rw [if_neg (not_not_intro hq), List.filter_cons_of_neg (by simpa using hq)]
    · rw [if_pos hq, List.filter_cons_of_pos (by simpa using hq), List.map_cons]
      exact List.append_assoc _ [_] _

/-! ## The loop over the current ports -/

/-- with auto-connect off or a link up nothing happens -/
theorem detectNew_deaf (l : List String) (s : Discovering)
    (h : s.dev.link.autoConnect = false ∨ s.dev.isConnected = true) :
    (detectNew l s).ports = s.ports ∧ (detectNew l s).dev.link = s.dev.link := by
  induction l generalizing s with
  | nil => exact ⟨rfl, rfl⟩
  | cons q l ih =>
    rw [detectNew, List.foldl_cons]
    split
    · obtain ⟨hports, hlink⟩ := hear_ignored (s := s.report (.deviceFound q))
        (step_deviceFound_ignored q (h.imp_right .inl))
      obtain ⟨h1, h2⟩ := ih (s.emitFound q) (by
        rw [Dev.isConnected, show (s.emitFound q).dev.link = s.dev.link from hlink]
        exact h)
      exact ⟨h1.trans hports, h2.trans hlink⟩
    · exact ih s h

/-- on the serial transport a port that closes is not among the ports that are open now, and nothing
more is forgotten -/
theorem detectNew_serial (current l : List String) (s : Discovering)
    (ht : s.dev.link.transport = .serial) (hl : ∀ p ∈ l, s.dev.link.shortPortName p ∈ current)
    (hon : ∀ p, s.dev.OnPort p → p ∈ current) :
    (detectNew l s).ports = s.ports ∧ ∀ p, (detectNew l s).dev.OnPort p → p ∈ current := by
  induction l generalizing s with
  | nil => exact ⟨rfl, hon⟩
  | cons q l ih =>
    have hl' : ∀ p ∈ l, s.dev.link.shortPortName p ∈ current :=
      fun p hp => hl p (List.mem_cons_of_mem q hp)
    rw [detectNew, List.foldl_cons]
    split
    · suffices h : (s.emitFound q).ports = s.ports ∧
          (s.emitFound q).dev.link.transport = .serial ∧
          (s.emitFound q).dev.link.shortPortName = s.dev.link.shortPortName ∧
          ∀ p, (s.emitFound q).dev.OnPort p → p ∈ current by
        obtain ⟨hports, ht', hnames, hon'⟩ := h
        obtain ⟨h1, h2⟩ := ih (s.emitFound q) ht' (hnames ▸ hl') hon'
        exact ⟨h1.trans hports, h2⟩
      rw [emitFound_ports]
      have branch : FoundBranch q s.dev (s.emitFound q).dev := step_deviceFound_branch q s.dev
      generalize (s.emitFound q).dev = d' at branch
      cases branch with
      | ignored h => exact ⟨rfl, ht, rfl, hon⟩
      | kept ha hup haccepts h => exact ⟨rfl, ht, rfl, hon⟩
      | taken ha hup haccepts h ht' hport hnames hout =>
        have hclosed : ¬ s.dev.link.serialOpen = true := fun ho => by
          rw [Dev.OnPort.isConnected ⟨ht, ho, rfl⟩] at hup
          exact Bool.noConfusion hup
        rw [hout, if_neg fun h => hclosed h.1]
        refine ⟨rfl, ht', hnames, fun p hp => ?_⟩
        rw [← hp.2.2, hport]
        exact hl q List.mem_cons_self
    · exact ih s ht hl' hon

theorem reopens_skip {d : Dev} {ports : List String} {q : String} (l : List String)
    (h : q ∈ ports ∨ ¬ d.Accepts q) : Reopens d ports (q :: l) ↔ Reopens d ports l := by
  have hskip : (q :: l).filter (fun p => p ∉ ports ∧ d.Accepts p) =
      l.filter (fun p => p ∉ ports ∧ d.Accepts p) :=
    List.filter_cons_of_neg (by simpa using fun hq => h.resolve_left hq)
  rw [Reopens, hskip, ← Reopens]

/-- the port becomes the port to retry -/
theorem reopens_kept {d : Dev} {ports : List String} {q : String} (l : List String)
    (hq : q ∉ ports) (haccepts : d.Accepts q) (h : ¬ d.NoRetry) :
    Reopens d ports (q :: l) ↔
      Reopens { d.fresh with link := { d.link with serialReconnectPort := q } } ports l := by
  have hnew : (q :: l).filter (fun p => p ∉ ports ∧ d.Accepts p) =
      q :: l.filter (fun p => p ∉ ports ∧ d.Accepts p) :=
    List.filter_cons_of_pos (by simpa using ⟨hq, haccepts⟩)
  unfold Reopens
  rw [hnew, List.dropLast_cons_of_ne_nil (List.cons_ne_nil _ _), List.mem_cons]
  refine and_congr_right fun _ => and_congr_right fun _ => and_congr_right fun htimer => ?_
  exact or_iff_right fun hport => h ⟨htimer, hport.symm⟩

theorem reopens_taken {d : Dev} {ports : List String} {q : String} (l : List String)
    (ha : d.link.autoConnect = true) (hup : d.isConnected = false) (hq : q ∉ ports)
    (haccepts : d.Accepts q) (h : d.NoRetry) : Reopens d ports (q :: l) := by
  have hnew : (q :: l).filter (fun p => p ∉ ports ∧ d.Accepts p) =
      q :: l.filter (fun p => p ∉ ports ∧ d.Accepts p) :=
    List.filter_cons_of_pos (by simpa using ⟨hq, haccepts⟩)
  refine ⟨ha, hup, h.1, ?_⟩
  rw [hnew, List.dropLast_cons_of_ne_nil (List.cons_ne_nil _ _), h.2]
  exact List.mem_cons_self

/-- the port that was open under another transport is forgotten when a new port is taken -/
theorem detectNew_waiting (l : List String) (s : Discovering)
    (ha : s.dev.link.autoConnect = true) (hup : s.dev.isConnected = false)
    (hl : ∀ p ∈ l, s.dev.link.shortPortName p ∈ current) :
    (detectNew l s).ports = (if Reopens s.dev s.ports l ∧ s.dev.link.serialOpen = true ∧
      s.dev.forgetsPort then forgetPort s.dev.link.serialPort s.ports else s.ports) ∧
    ∀ p, (detectNew l s).dev.OnPort p → p ∈ current := by
  induction l generalizing s with
  | nil =>
    rw [if_neg fun h => absurd h.1.2.2.2 (List.not_mem_nil)]
    refine ⟨rfl, fun p (hp : s.dev.OnPort p) => ?_⟩
    rw [hp.isConnected] at hup
    exact Bool.noConfusion hup
  | cons q l ih =>
    have hl' : ∀ p ∈ l, s.dev.link.shortPortName p ∈ current :=
      fun p hp => hl p (List.mem_cons_of_mem q hp)
    rw [detectNew, List.foldl_cons]
    split
    next hq =>
      have hports := emitFound_ports q s
      have branch : FoundBranch q s.dev (s.emitFound q).dev := step_deviceFound_branch q s.dev
      have next := ih (s.emitFound q)
      have taken := detectNew_serial current l (s.emitFound q)
      generalize (s.emitFound q).dev = d' at branch hports next taken
      cases branch with
      | ignored h =>
        have hrefused : ¬ s.dev.Accepts q := by
          rw [ha, hup] at h
          simpa using h
        have hsame : (s.emitFound q).ports = s.ports := hports
        rw [hsame] at next
        rw [if_congr (and_congr_left' (reopens_skip l (.inr hrefused))) rfl rfl]
        exact next ha hup hl'
      | kept _ _ haccepts h =>
        have hsame : (s.emitFound q).ports = s.ports := hports
        rw [hsame] at next
        rw [if_congr (and_congr_left' (reopens_kept l hq haccepts h)) rfl rfl]
        exact next ha hup hl'
      | taken _ _ haccepts h ht hport hnames hout =>
        have hon : ∀ p, d'.OnPort p → p ∈ current := fun p hp => by
          rw [← hp.2.2, hport]
          exact hl q List.mem_cons_self
        obtain ⟨h1, h2⟩ := taken ht (hnames ▸ hl') hon
        refine ⟨h1.trans (hports.trans ?_), h2⟩
        rw [hout, if_congr (and_iff_right (reopens_taken l ha hup hq haccepts h)) rfl rfl]
        split <;> rfl
    next hq =>
      rw [if_congr (and_congr_left' (reopens_skip l (.inl (not_not.mp hq)))) rfl rfl]
      exact ih s ha hup hl'

/-! ## The loop over the known ports -/

theorem emitLost_off (h : ¬ s.dev.OnPort p) :
    (s.emitLost p).ports = s.ports ∧ (s.emitLost p).dev.link = s.dev.link :=
  hear_ignored (s := s.report (.deviceLost p)) (step_deviceLost_off h)

theorem emitLost_on (h : s.dev.OnPort p) :
    (s.emitLost p).ports = (if s.dev.forgetsPort then forgetPort p s.ports else s.ports) ∧
      (s.emitLost p).dev.link.serialOpen = false := by
  obtain ⟨⟨⟨_, _, _, _, hlink⟩, -⟩, hout⟩ := step_deviceLost_on h
  have hdev : (s.emitLost p).dev = step (.deviceLost p) s.dev := rfl
  refine ⟨?_, by rw [hdev, hlink]⟩
  by_cases hf : s.dev.forgetsPort
  · rw [if_pos hf] at hout ⊢
    exact hear_forgets (s := s.report (.deviceLost p)) hout
  · rw [if_neg hf] at hout ⊢
    exact hear_ports (s := s.report (.deviceLost p)) hout

/-- a lost port is not open, or is one that its close does not forget -/
def NothingForgotten (current l : List String) (s : Discovering) : Prop :=
  ∀ p ∈ l, p ∉ current → s.dev.OnPort p → ¬ s.dev.forgetsPort

theorem nothingForgotten_of_closed (l : List String) (h : s.dev.link.serialOpen = false) :
    NothingForgotten current l s := by
  intro p _ _ hp
  rw [hp.2.1] at h
  exact Bool.noConfusion h

theorem checkLost_kept {l : List String} (p : String) (hp : p ∈ l) (s : Discovering)
    (hn : NothingForgotten current l s) (hs : s.ports = l) :
    NothingForgotten current l (checkLost current p s) ∧ (checkLost current p s).ports = l := by
  unfold checkLost
  split
  next hlost =>
    by_cases hon : s.dev.OnPort p
    · obtain ⟨hports, hclosed⟩ := emitLost_on hon
      rw [if_neg (hn p hp hlost hon)] at hports
      exact ⟨nothingForgotten_of_closed l hclosed, hports.trans hs⟩
    · obtain ⟨hports, hlink⟩ := emitLost_off hon
      refine ⟨fun x hx hx' hxon => ?_, hports.trans hs⟩
      rw [Dev.OnPort, hlink] at hxon
      rw [Dev.forgetsPort, hlink]
      exact hn x hx hx' hxon
  next => exact ⟨hn, hs⟩

theorem detectLost_kept (h : NothingForgotten current s.ports s) :
    (detectLost current s).badRead = none ∧
      (detectLost current s).reports =
        s.reports ++ (s.ports.filter (· ∉ current)).map .deviceLost := by
  have hloop : LiveLoop.forEach Discovering.ports (checkLost current) s = _ :=
    LiveLoop.forEach_of_kept checkLost_kept s h rfl
  unfold detectLost
  rw [hloop]
  exact ⟨rfl, foldl_checkLost_reports s.ports s⟩

/-- the port that is open is the first lost one to shorten the list -/
theorem detectLost_closed {a b : List String} (hon : s.dev.OnPort p) (hf : s.dev.forgetsPort)
    (hp : p ∉ current) (hs : s.ports = a ++ p :: b) (ha : p ∉ a) :
    (b = [] → (detectLost current s).badRead = none ∧ (detectLost current s).reports =
        s.reports ++ (s.ports.filter (· ∉ current)).map .deviceLost) ∧
      (b ≠ [] → (detectLost current s).badRead ≠ none) := by
  let act := fun (s : Discovering) (p : String) => checkLost current p s
  have hkeep : ∀ x ∈ a, ∀ s' : Discovering, s'.dev.link = s.dev.link → s'.ports = s.ports →
      (checkLost current x s').dev.link = s.dev.link ∧
        (checkLost current x s').ports = s.ports := by
    intro x hx s' hl hs'
    unfold checkLost
    split
    · have hoff : ¬ s'.dev.OnPort x := fun h => ha (by
        have hport : s'.dev.link.serialPort = x := h.2.2
        rw [hl, hon.2.2] at hport
        exact hport ▸ hx)
      obtain ⟨hports, hlink⟩ := emitLost_off hoff
      exact ⟨hlink.trans hl, hports.trans hs'⟩
    · exact ⟨hl, hs'⟩
  obtain ⟨hlink, hports, hpos⟩ := @LiveLoop.positions_of_kept _ _ Discovering.ports
    (checkLost current) (fun s' => s'.dev.link = s.dev.link) _ (b.length + 1) a [] (p :: b) s
    hkeep hs rfl rfl
  let s1 := a.foldl act s
  let s2 := act s1 p
  have hread : s1.ports[a.length]? = some p := by
    rw [show s1.ports = s.ports from hports, hs, List.getElem?_append_right (Nat.le_refl _),
      Nat.sub_self]
    rfl
  have hloop : LiveLoop.forEach Discovering.ports (checkLost current) s =
      LiveLoop.positions Discovering.ports (checkLost current) b.length (a.length + 1) s2 := by
    rw [LiveLoop.forEach, hs, List.length_append, List.length_cons]
    refine hpos.trans ?_
    rw [List.length_nil, Nat.zero_add]
    exact LiveLoop.positions_cons hread
  obtain ⟨hshort, hclosed⟩ : s2.ports = forgetPort p s.ports ∧ s2.dev.link.serialOpen = false := by
    have hon1 : s1.dev.OnPort p := by
      rw [Dev.OnPort, show s1.dev.link = s.dev.link from hlink]
      exact hon
    have hf1 : s1.dev.forgetsPort := by
      rw [Dev.forgetsPort, show s1.dev.link = s.dev.link from hlink]
      exact hf
    obtain ⟨h1, h2⟩ := emitLost_on hon1
    rw [if_pos hf1, show s1.ports = s.ports from hports] at h1
    rw [show s2 = s1.emitLost p from if_pos hp]
    exact ⟨h1, h2⟩
  unfold detectLost
  rw [hloop]
  constructor
  · rintro rfl
    refine ⟨rfl, ?_⟩
    rw [← foldl_checkLost_reports, hs, List.foldl_append]
    rfl
  · intro hb
    have hlen : s2.ports.length < a.length + 1 + b.length := by
      have hb' := List.length_filter_le (· ≠ p) b
      have ha' := List.length_filter_le (· ≠ p) a
      rw [hshort, forgetPort, hs, List.filter_append, List.filter_cons_of_neg (by simp),
        List.length_append]
      omega
    obtain ⟨j, hj⟩ := LiveLoop.positions_past_end checkLost_kept
      b.length (a.length + 1) s2 (nothingForgotten_of_closed _ hclosed) rfl
      (List.length_pos_of_ne_nil hb) hlen
    exact fun h => Option.some_ne_none j (hj.symm.trans h)

/-! ## The whole scan -/

variable {prev : List String}

theorem scan_badRead (infos : List SerialPortInfo) (s : Discovering) : (s.scan infos).badRead =
    (detectLost (currentPorts infos)
      (detectNew (currentPorts infos) { s with reports := [], badRead := none })).badRead := by
  unfold scan update
  dsimp only
  split <;> rfl

theorem scan_ports (infos : List SerialPortInfo) (s : Discovering) :
    (s.scan infos).ports = currentPorts infos := by
  unfold scan update
  dsimp only
  split
  · rfl
  · rename_i h
    exact (not_not.mp h).symm

theorem scan_count (infos : List SerialPortInfo) (s : Discovering) {r : Report}
    (hr : r ≠ .portsChanged) : (s.scan infos).reports.count r =
      (detectLost (currentPorts infos) (detectNew (currentPorts infos)
        { s with reports := [], badRead := none })).reports.count r := by
  unfold scan update
  dsimp only
  split
  · refine (List.count_append).trans ?_
    rw [List.count_singleton, if_neg (by simpa using hr.symm)]
    rfl
  · rfl

end Discovering

open Discovering

theorem count_lost (l current : List String) (p : String) :
    ((l.filter (· ∉ current)).map Report.deviceLost).count (.deviceLost p) =
      if p ∈ current then 0 else l.count p := by
  rw [List.count_map_of_injective _ _ fun _ _ h => Report.deviceLost.inj h]
  split
  next hp => exact List.count_eq_zero.mpr fun h => by simp [hp] at h
  next hp => exact List.count_filter (by simpa using hp)

theorem count_found (l current : List String) (p : String) :
    ((l.filter (· ∉ current)).map Report.deviceLost).count (.deviceFound p) = 0 :=
  List.count_eq_zero.mpr fun h => by simp at h

section
variable {d : Dev} {prev : List String} (infos : List SerialPortInfo)

/-- a scan whose loop over the known ports goes through all of them -/
theorem scanRight_of_whole {s1 : Discovering}
    (hs1 : s1 = detectNew (currentPorts infos) { ports := prev, dev := d })
    (hread : (detectLost (currentPorts infos) s1).badRead = none)
    (hreports : (detectLost (currentPorts infos) s1).reports =
      s1.reports ++ (s1.ports.filter (· ∉ currentPorts infos)).map .deviceLost) :
    ScanRight prev (currentPorts infos) (scan infos { ports := prev, dev := d }) ↔
      (∀ p ∈ currentPorts infos, p ∉ prev → (currentPorts infos).count p = 1) ∧
        ∀ p ∈ prev, p ∉ currentPorts infos → s1.ports.count p = 1 := by
  have found (p : String) (hp : p ∉ prev) :
      (scan infos { ports := prev, dev := d }).reports.count (.deviceFound p) =
        (currentPorts infos).count p := by
    rw [scan_count _ _ Report.noConfusion]
    show (detectLost _ (detectNew _ { ports := prev, dev := d })).reports.count _ = _
    rw [← hs1, hreports, List.count_append, count_found, hs1, detectNew_reports _ _ hp]
    exact Nat.zero_add _
  have lost (p : String) :
      (scan infos { ports := prev, dev := d }).reports.count (.deviceLost p) =
        if p ∈ currentPorts infos then 0 else s1.ports.count p := by
    rw [scan_count _ _ Report.noConfusion]
    show (detectLost _ (detectNew _ { ports := prev, dev := d })).reports.count _ = _
    have none_before : s1.reports.count (.deviceLost p) = 0 := by
      rw [hs1, detectNew_lost]
      rfl
    rw [← hs1, hreports, List.count_append, count_lost, none_before, Nat.zero_add]
  constructor
  · intro h
    refine ⟨fun p hp hnew => (found p hnew).symm.trans (h.found p hp hnew), fun p hp hgone => ?_⟩
    have hcount := h.lost p hp hgone
    rw [lost, if_neg hgone] at hcount
    exact hcount
  · rintro ⟨hnew, hgone⟩
    refine ⟨?_, fun p hp hl => ?_, fun p hp => ?_, fun p hp hn => ?_, scan_ports _ _⟩
    · rw [scan_badRead]
      show (detectLost _ (detectNew _ { ports := prev, dev := d })).badRead = none
      rw [← hs1, hread]
    · rw [lost, if_neg hl]
      exact hgone p hp hl
    · rw [← List.count_eq_zero, lost, if_pos hp]
    · rw [found p hn]
      exact hnew p hp hn

/-- with auto-connect off or a link up -/
theorem scanRight_deaf_iff (h : d.link.autoConnect = false ∨ d.isConnected = true) :
    ScanRight prev (currentPorts infos) (scan infos { ports := prev, dev := d }) ↔
      ScanSafe d prev (currentPorts infos) := by
  have hreopens : ¬ Reopens d prev (currentPorts infos) := fun hr => by
    rw [hr.1, hr.2.1] at h
    simp at h
  obtain ⟨hports, hlink⟩ := detectNew_deaf (currentPorts infos) { ports := prev, dev := d } h
  generalize hs1 : detectNew (currentPorts infos) { ports := prev, dev := d } = s1 at hports hlink
  have whole := scanRight_of_whole infos hs1.symm
  have onPort (p : String) : s1.dev.OnPort p ↔ d.OnPort p := by rw [Dev.OnPort, hlink]; rfl
  have forgets : s1.dev.forgetsPort ↔ d.forgetsPort := by rw [Dev.forgetsPort, hlink]; rfl
  by_cases hclosing : ∃ p ∈ prev, p ∉ currentPorts infos ∧ d.OnPort p ∧ d.forgetsPort
  · obtain ⟨p, hp, hgone, hon, hf⟩ := hclosing
    obtain ⟨a, b, hsplit, ha⟩ := List.eq_append_cons_of_mem hp
    obtain ⟨hlast, hshort⟩ := detectLost_closed ((onPort p).mpr hon) (forgets.mpr hf) hgone
      (hports.trans hsplit) ha
    by_cases hb : b = []
    · obtain ⟨hread, hreports⟩ := hlast hb
      rw [whole hread hreports, hports]
      refine ⟨fun hr => ⟨hr.1, hr.2, fun hr' => absurd hr' hreopens, fun q _ _ hq _ => ?_⟩,
        fun hs => ⟨hs.new, hs.gone⟩⟩
      rw [hsplit, hb, List.getLast?_concat, ← hq.2.2, hon.2.2]
    · refine iff_of_false (fun hr => hshort hb ?_) fun hs => ?_
      · have hread := hr.reads
        rw [scan_badRead] at hread
        rw [← hs1]
        exact hread
      · have hcount := hs.gone p hp hgone
        have hend := hs.closed p hp hgone hon hf
        rw [hsplit, List.count_append, List.count_cons_self, List.count_eq_zero.mpr ha] at hcount
        rw [hsplit, List.getLast?_append_cons, List.getLast?_cons_of_ne_nil hb] at hend
        have hmem : p ∈ b := List.mem_of_getLast? hend
        exact List.count_eq_zero.mp (by omega) hmem
  · have hnothing : NothingForgotten (currentPorts infos) s1.ports s1 := by
      rw [hports]
      exact fun p hp hgone hon hf =>
        hclosing ⟨p, hp, hgone, (onPort p).mp hon, forgets.mp hf⟩
    obtain ⟨hread, hreports⟩ := detectLost_kept hnothing
    rw [whole hread hreports, hports]
    exact ⟨fun hr => ⟨hr.1, hr.2, fun hr' => absurd hr' hreopens,
      fun p hp hgone hon hf => absurd ⟨p, hp, hgone, hon, hf⟩ hclosing⟩,
      fun hs => ⟨hs.new, hs.gone⟩⟩

/-- with auto-connect on and no link up -/
theorem scanRight_waiting_iff (ha : d.link.autoConnect = true) (hup : d.isConnected = false)
    (hshort : ∀ p ∈ currentPorts infos, d.link.shortPortName p = p) :
    ScanRight prev (currentPorts infos) (scan infos { ports := prev, dev := d }) ↔
      ScanSafe d prev (currentPorts infos) := by
  have hdown (p : String) : ¬ d.OnPort p := fun h => by
    rw [h.isConnected] at hup
    exact Bool.noConfusion hup
  obtain ⟨hports, hon⟩ := detectNew_waiting (currentPorts infos)
    { ports := prev, dev := d } ha hup fun p hp => (hshort p hp).symm ▸ hp
  generalize hs1 : detectNew (currentPorts infos) { ports := prev, dev := d } = s1 at hports hon
  have hnothing : NothingForgotten (currentPorts infos) s1.ports s1 :=
    fun p _ hgone hp => absurd (hon p hp) hgone
  obtain ⟨hread, hreports⟩ := detectLost_kept hnothing
  rw [scanRight_of_whole infos hs1.symm hread hreports, hports]
  split
  next hdrop =>
    obtain ⟨hreopens, hopen, hf⟩ := hdrop
    have hcount (p : String) : (forgetPort d.link.serialPort prev).count p =
        if p = d.link.serialPort then 0 else prev.count p := by
      split
      next he => exact List.count_eq_zero.mpr fun h => by simp [forgetPort, he] at h
      next hne => exact List.count_filter (by simpa using hne)
    refine ⟨fun hr => ⟨hr.1, fun p hp hgone => ?_, fun _ _ _ hmem => ?_,
      fun p _ _ hp => absurd hp (hdown p)⟩, fun hs => ⟨hs.new, fun p hp hgone => ?_⟩⟩
    · have h1 := hr.2 p hp hgone
      rw [hcount] at h1
      split at h1
      · exact absurd h1 Nat.zero_ne_one
      · exact h1
    · by_contra hgone
      have h1 := hr.2 _ hmem hgone
      rw [hcount, if_pos rfl] at h1
      exact Nat.zero_ne_one h1
    · rw [hcount, if_neg]
      · exact hs.gone p hp hgone
      · rintro rfl
        exact hgone (hs.replaced hreopens hopen hf hp)
  next hkept =>
    exact ⟨fun hr => ⟨hr.1, hr.2, fun hreopens hopen hf => absurd ⟨hreopens, hopen, hf⟩ hkept,
      fun p _ _ hp => absurd hp (hdown p)⟩, fun hs => ⟨hs.new, hs.gone⟩⟩

/-- **A scan is right iff it is safe**, for every state of the device object and every two lists.
The names that `availablePorts()` answers are short. -/
theorem scanRight_iff (d : Dev) (prev : List String) (infos : List SerialPortInfo)
    (hshort : ∀ p ∈ currentPorts infos, d.link.shortPortName p = p) :
    ScanRight prev (currentPorts infos) (scan infos { ports := prev, dev := d }) ↔
      ScanSafe d prev (currentPorts infos) := by
  by_cases h : d.link.autoConnect = false ∨ d.isConnected = true
  · exact scanRight_deaf_iff infos h
  · rw [not_or, Bool.not_eq_false, Bool.not_eq_true] at h
    exact scanRight_waiting_iff infos h.1 h.2 hshort

end

/-- the last known port is the connected one, and it is unplugged -/
theorem scanRight_unplugged :
    let d : Dev := { link := { serialOpen := true, serialPort := "ttyACM1" } }
    ScanRight ["ttyACM0", "ttyACM1"] (currentPorts [.m1 "ttyACM0"])
      (scan [.m1 "ttyACM0"] { ports := ["ttyACM0", "ttyACM1"], dev := d }) := by
  refine (scanRight_iff _ _ _ (by decide)).mpr ⟨by decide, by decide, ?_, fun p _ _ hon _ => ?_⟩
  · exact fun h => Bool.noConfusion h.2.1
  · rw [← hon.2.2]
    rfl

/-- two M1s, the first one connected, and it is unplugged: the list has one port left, and the loop
reads its second -/
theorem scan_past_end :
    let d := Run.exec step [.env { serialOpens := fun _ => true },
      .call (.connectToDevice "COM3")] init
    let s := scan [.m1 "COM4"] { ports := ["COM3", "COM4"], dev := d }
    s.badRead = some 1 ∧ s.ports = ["COM4"] ∧
      ¬ ScanRight ["COM3", "COM4"] (currentPorts [.m1 "COM4"]) s := by
  refine ⟨by decide +kernel, by decide +kernel, fun h => ?_⟩
  exact absurd h.reads (by decide +kernel)

end QMon.Transport
