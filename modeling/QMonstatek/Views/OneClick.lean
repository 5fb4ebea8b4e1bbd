import QMonstatek.Lib.Stages
import QMonstatek.Views.UpdateAll

/-!
# The one-click update, over whole runs

`Attended x`    what the busy view waits for is under way: a download in flight, or the flash active
                in the device;
`Unmixed a x`   `a` asks the ESP checker for no `.md5` file while the view waits for its download.

`attended`: with that, a run is `Attended` throughout, whatever the device, the network and the
other views do.  The view takes an `.md5` file for one of the ESP32 page, and where its own download
was announced under such a name it would wait for ever.
-/

namespace QMon.Views
open Device Updater Run Rpc

variable {host : Host}

structure Attended (x : OneClick) : Prop where
  busy : x.view.busy = x.view.phase.working
  dlEsp : x.view.phase = .dlEsp → x.esp.inFlight ≠ []
  flashEsp : x.view.phase = .flashEsp → x.dev.Active (.transfer .espUpdate)
  dlM1 : x.view.phase = .dlM1 → x.m1.inFlight ≠ []
  flashM1 : x.view.phase = .flashM1 → x.dev.Active (.transfer .fwUpdate)

def Unmixed (a : Act) (x : OneClick) : Prop :=
  match a with
  | .espChecker (.downloadAsset r) => x.view.phase = .dlEsp → isMd5 r.destPath = false
  | _ => True

/-! ## Names -/

theorem basename_append (dir p : String) (hp : ∀ c ∈ p.toList, isSeparator c = false)
    (hdir : ∀ c ∈ dir.toList.getLast?, isSeparator c = true) :
    basename (dir ++ p) = p.toList := by
  have hall : ∀ c ∈ p.toList.reverse, (!isSeparator c) = true := fun c hc => by
    simp [hp c (List.mem_reverse.mp hc)]
  unfold basename
  rw [String.toList_append, List.reverse_append, List.takeWhile_append_of_pos hall]
  have hnil : dir.toList.reverse.takeWhile (fun c => !isSeparator c) = [] := by
    rw [List.getLast?_eq_head?_reverse] at hdir
    cases h : dir.toList.reverse with
    | nil => rfl
    | cons c l =>
      rw [h] at hdir
      exact List.takeWhile_cons_of_neg (by simp [hdir c rfl])
  rw [hnil, List.append_nil, List.reverse_reverse]

theorem basename_destination (destPath : String) :
    basename (destination host destPath) = basename destPath := by
  unfold destination
  split
  next h =>
    have hp : ∀ c ∈ destPath.toList, isSeparator c = false := by
      intro c hc
      have h1 : c ≠ '/' := fun he => h.1 (he ▸ hc)
      have h2 : c ≠ '\\' := fun he => h.2 (he ▸ hc)
      simp [isSeparator, h1, h2]
    have hself : basename destPath = destPath.toList := by
      have := basename_append "" destPath hp (by simp)
      rwa [String.empty_append] at this
    rw [hself]
    unfold filePath
    split
    next hl =>
      refine basename_append _ _ hp fun c hc => ?_
      rw [hl] at hc
      obtain rfl := Option.some.inj hc
      rfl
    next =>
      rw [← String.append_assoc]
      refine basename_append _ _ hp fun c hc => ?_
      rw [String.toList_append, List.getLast?_append] at hc
      obtain rfl := Option.some.inj hc
      rfl
  next => rfl

theorem isMd5_destination (destPath : String) :
    isMd5 (destination host destPath) = isMd5 destPath := by
  unfold isMd5
  rw [basename_destination]

/-- an ESP asset is no `.md5` file -/
theorem pickEsp_isMd5 {rel : Option Release} {a : Asset} (h : pickEsp rel = some a) :
    isMd5 a.name = false := by
  have hplain : contains ".md5" (toLowerCase a.name) = false := by
    unfold pickEsp at h
    cases rel with
    | none => exact absurd h (by simp)
    | some rel =>
      rcases Option.or_eq_some_iff.mp h with h | ⟨-, h⟩
      · have := List.find?_some h
        simp only [Bool.and_eq_true, Bool.not_eq_true'] at this
        exact this.2.2
      · have := List.find?_some h
        simp only [Bool.and_eq_true, Bool.not_eq_true'] at this
        exact this.2
  unfold isMd5
  rw [decide_eq_false_iff_not]
  intro hs
  refine absurd ?_ (of_decide_eq_false hplain)
  have hbase : (basename a.name).map Char.toLower <:+ toLowerCase a.name := by
    refine List.IsSuffix.map _ ?_
    unfold basename
    rw [← List.reverse_prefix, List.reverse_reverse]
    exact List.takeWhile_prefix _
  exact (hs.trans hbase).isInfix

/-! ## Downloads -/

/-- a download that is in flight stays so, or the end of one is told -/
theorem download_goes_on (m : Updater.Move) (s : Downloads) (h : s.inFlight ≠ []) :
    (download host m s).inFlight ≠ [] ∨ ∃ o ∈ (download host m s).checker.out, Ended o := by
  unfold download
  cases m with
  | downloadAsset r => exact .inl (by simp)
  | progress received total => exact .inl h
  | files files => exact .inl h
  | finished i outcome canWrite =>
    dsimp only
    split
    next hi =>
      unfold GithubChecker.onDownloadReply
      cases outcome with
      | error message =>
        exact .inr ⟨.downloadError message, List.mem_append_right _ List.mem_cons_self, trivial⟩
      | redirect url =>
        left
        have hget : s.fresh.inFlight[i]? = some s.fresh.inFlight[i] := List.getElem?_eq_getElem hi
        unfold Downloads.after
        rw [hget]
        simp
      | data bytes =>
        right
        dsimp only
        split
        · exact ⟨.downloadComplete _, List.mem_append_right _ List.mem_cons_self, trivial⟩
        · exact ⟨.downloadError _, List.mem_append_right _ List.mem_cons_self, trivial⟩
    next => exact .inl h

/-- what a step announces lies at the stored destination -/
theorem complete_dest {m : Updater.Move} {s : Downloads} {path : String}
    (h : .downloadComplete path ∈ (download host m s).checker.out) :
    path = s.checker.downloadDest := by
  have hf := (mem_filed rfl).mp h
  rw [filed_download] at hf
  split at hf
  · split at hf
    · simpa using hf
    · exact absurd hf List.not_mem_nil
  · exact absurd hf List.not_mem_nil

/-- the destination is an `.md5` file only where one was asked for -/
theorem download_isMd5 (m : Updater.Move) (s : Downloads) (h : isMd5 s.checker.downloadDest = false)
    (hm : ∀ r, m = .downloadAsset r → isMd5 r.destPath = false) :
    isMd5 (download host m s).checker.downloadDest = false := by
  unfold download
  cases m with
  | downloadAsset r => exact (isMd5_destination r.destPath).trans (hm r rfl)
  | progress received total =>
    show isMd5 (GithubChecker.onDownloadProgress _ _ _).downloadDest = false
    unfold GithubChecker.onDownloadProgress
    split <;> exact h
  | files files => exact h
  | finished i outcome canWrite =>
    dsimp only
    split
    · show isMd5 (GithubChecker.onDownloadReply _ _ _ _).downloadDest = false
      rw [onDownloadReply_dest]
      cases outcome with
      | redirect url => exact (isMd5_destination _).trans h
      | _ => exact h
    · exact h

/-! ## What is waited for -/

def OneClick.downloads (x : OneClick) : Chip → Downloads
  | .esp => x.esp
  | .m1 => x.m1

/-- `Attended`, with the outputs `out` of chip `c0`'s checker still to be heard, and with `run` for
the flashes that are under way -/
structure Waits (run : Task → Prop) (c0 : Chip) (out : List CheckerOut) (x : OneClick) : Prop where
  busy : x.view.busy = x.view.phase.working
  fetching : ∀ c : Chip, x.view.phase = c.dl →
    (x.downloads c).inFlight ≠ [] ∨ (c = c0 ∧ ∃ o ∈ out, Ended o)
  flashing : ∀ c : Chip, x.view.phase = c.flash → run c.task
  named : x.view.phase = .dlEsp → isMd5 x.esp.checker.downloadDest = false ∧
    (c0 = .esp → ∀ path, .downloadComplete path ∈ out → isMd5 path = false)
  closed : x.view.doneDialog = true → x.view.phase.working = false

/-- the flashes active in the device -/
def OneClick.flashes (x : OneClick) (t : Task) : Prop := x.dev.Active t.operation

section
variable {c0 : Chip} {out : List CheckerOut} {x : OneClick} {run run' : Task → Prop}

theorem Waits.same {v : UpdateAll} (w : Waits run c0 out x) (h : SameStage x.view v)
    (hrun : ∀ c : Chip, x.view.phase = c.flash → run c.task → run' c.task) :
    Waits run' c0 out { x with view := v } where
  busy := h.busy.trans (w.busy.trans (congrArg _ h.phase.symm))
  fetching c hc := w.fetching c (h.phase.symm.trans hc)
  flashing c hc := hrun c (h.phase.symm.trans hc) (w.flashing c (h.phase.symm.trans hc))
  named hp := w.named (h.phase.symm.trans hp)
  closed hd := (congrArg _ h.phase).trans (w.closed (h.doneDialog.symm.trans hd))

/-- in no stage, nothing is waited for -/
theorem waits_of_not_working (hb : x.view.busy = false) (hp : x.view.phase.working = false) :
    Waits run c0 out x where
  busy := hb.trans hp.symm
  fetching c hc := by rw [hc] at hp; cases c <;> exact absurd hp (by decide)
  flashing c hc := by rw [hc] at hp; cases c <;> exact absurd hp (by decide)
  named hd := by rw [hd] at hp; exact absurd hp (by decide)
  closed _ := hp

/-- a stage is under way, and so the dialog is not open -/
theorem Waits.not_done (w : Waits run c0 out x) (h : x.view.phase.working = true) :
    x.view.doneDialog = false := by
  by_contra hd
  rw [Bool.not_eq_false] at hd
  exact Bool.noConfusion (h.symm.trans (w.closed hd))

theorem waits_of_halted {v : UpdateAll} (h : Halted x.view v) :
    Waits run c0 out { x with view := v } := by
  refine waits_of_not_working h.busy ?_
  show v.phase.working = false
  rw [h.phase]
  rfl

/-! ## Signals -/

theorem hear_waits (s : Signal) (sig : List Signal)
    (w : Waits (fun t => x.flashes t ∨ ∃ s' ∈ s :: sig, Ends t s') c0 out x) :
    Waits (fun t => (x.hear host s).flashes t ∨ ∃ s' ∈ sig, Ends t s') c0 out
      (x.hear host s) := by
  have heard := hear_heard s x.view
  unfold OneClick.hear
  generalize x.view.hear s = r at heard
  cases heard with
  | same v' h waits =>
    refine w.same h fun c hc hrun => ?_
    rcases hrun with hrun | ⟨s', hs', hends⟩
    · exact .inl hrun
    · rcases List.mem_cons.mp hs' with rfl | hs'
      · exact absurd hends (waits c hc)
      · exact .inr ⟨s', hs', hends⟩
  | halted v' h => exact waits_of_halted h
  | finished v' heard before after busy =>
    refine waits_of_not_working busy ?_
    show v'.phase.working = false
    rw [after]
    rfl
  | next a statusMsg heard before =>
    have hworking : x.view.phase.working = true := by rw [before]; rfl
    refine ⟨w.busy.trans hworking, fun c hc => ?_, fun c hc => ?_,
      fun hd => absurd hd Phase.noConfusion,
      fun hd => absurd ((w.not_done hworking).symm.trans hd) Bool.noConfusion⟩
    · cases c with
      | esp => exact absurd hc Phase.noConfusion
      | m1 => exact .inl (by simp [OneClick.downloads, OneClick.m1Download, download])
    · cases c <;> exact absurd hc Phase.noConfusion

/-- a flash the view waits for is active, or the event asks for it -/
theorem device_waits (e : Event)
    (w : Waits (fun t => x.flashes t ∨ t.asked e ≠ 0) c0 out x) :
    Waits (x.device host e).flashes c0 out (x.device host e) := by
  let x1 : OneClick := { x with dev := Device.step e x.dev }
  have w1 : Waits (fun t => x1.flashes t ∨ ∃ s ∈ signals x1.dev, Ends t s) c0 out x1 :=
    ⟨w.busy, w.fetching, fun c hc => goes_on c.task e x.dev (w.flashing c hc), w.named, w.closed⟩
  have hrest := exec_rest (OneClick.hear host) (I := fun sig y =>
    Waits (fun t => y.flashes t ∨ ∃ s ∈ sig, Ends t s) c0 out y)
    (fun s sig y => hear_waits s sig) (signals x1.dev) x1 w1
  refine ⟨hrest.busy, hrest.fetching, fun c hc => ?_, hrest.named, hrest.closed⟩
  rcases hrest.flashing c hc with h | ⟨s, hs, -⟩
  · exact h
  · exact absurd hs List.not_mem_nil

/-! ## Checkers -/

/-- `hearEsp` or `hearM1` -/
def OneClick.hearChecker (host : Host) (c : Chip) (o : CheckerOut) (x : OneClick) : OneClick :=
  match c with
  | .esp => x.hearEsp host o
  | .m1 => x.hearM1 host o

/-- `espChecker` or `m1Checker` -/
def OneClick.checker (host : Host) (c : Chip) (m : Updater.Move) (x : OneClick) : OneClick :=
  match c with
  | .esp => x.espChecker host m
  | .m1 => x.m1Checker host m

/-- the call that starts the flash of `c` -/
def Chip.start (c : Chip) (path : String) : Call :=
  match c with
  | .esp => .startEspUpdate path 0 false
  | .m1 => .startFwUpdate path

theorem hearChecker_eq (c : Chip) (o : CheckerOut) (x : OneClick) :
    x.hearChecker host c o =
      match (x.view.hearChecker c o).2 with
      | none => { x with view := (x.view.hearChecker c o).1 }
      | some path => OneClick.device host (.call (c.start path))
          { x with view := (x.view.hearChecker c o).1 } := by
  cases c <;> rfl

theorem hearChecker_waits {c : Chip} (o : CheckerOut) (out : List CheckerOut) (x : OneClick)
    (w : Waits x.flashes c (o :: out) x) :
    Waits (x.hearChecker host c o).flashes c out (x.hearChecker host c o) := by
  have fetched := hearChecker_fetched c o x.view
  rw [hearChecker_eq]
  generalize x.view.hearChecker c o = r at fetched
  cases fetched with
  | same v' h waits =>
    refine ⟨h.busy.trans (w.busy.trans (congrArg _ h.phase.symm)), fun c' hc => ?_,
      fun c' hc => w.flashing c' (h.phase.symm.trans hc), fun hd => ?_,
      fun hd => (congrArg _ h.phase).trans (w.closed (h.doneDialog.symm.trans hd))⟩
    · have hdl : x.view.phase = c'.dl := h.phase.symm.trans hc
      rcases w.fetching c' hdl with hw | ⟨rfl, o', ho', hend⟩
      · exact .inl hw
      · rcases List.mem_cons.mp ho' with rfl | ho'
        · obtain ⟨path, hpath, hesp, hmd5⟩ := waits hdl hend
          have hnot := (w.named (hdl.trans (by rw [hesp]; rfl))).2 hesp path
            (hpath ▸ List.mem_cons_self)
          rw [hmd5] at hnot
          exact Bool.noConfusion hnot
        · exact .inr ⟨rfl, o', ho', hend⟩
    · obtain ⟨hdest, hout⟩ := w.named (h.phase.symm.trans hd)
      exact ⟨hdest, fun hesp path hp => hout hesp path (List.mem_cons_of_mem _ hp)⟩
  | halted v' h => exact waits_of_halted h
  | flash path v' heard before after busy doneDialog =>
    have hworking : x.view.phase.working = true := by rw [before]; cases c <;> rfl
    refine device_waits _ ⟨?_, fun c' hc => ?_, fun c' hc => .inr ?_, fun hd => ?_, fun hd => ?_⟩
    · show v'.busy = v'.phase.working
      rw [busy, w.busy, hworking, after]
      cases c <;> rfl
    · have hc := after.symm.trans hc
      cases c <;> cases c' <;> exact absurd hc Phase.noConfusion
    · have hc := after.symm.trans hc
      cases c <;> cases c' <;> first | exact Nat.one_ne_zero | exact absurd hc Phase.noConfusion
    · have hd := after.symm.trans hd
      cases c <;> exact absurd hd Phase.noConfusion
    · exact absurd ((w.not_done hworking).symm.trans (doneDialog.symm.trans hd)) Bool.noConfusion

theorem Waits.turn {c c' : Chip} (w : Waits run c [] x) : Waits run c' [] x where
  busy := w.busy
  fetching c'' hc := by
    rcases w.fetching c'' hc with h | ⟨-, o, ho, -⟩
    · exact .inl h
    · exact absurd ho List.not_mem_nil
  flashing := w.flashing
  named hd := ⟨(w.named hd).1, fun _ path hp => absurd hp List.not_mem_nil⟩
  closed := w.closed

theorem espChecker_waits (m : Updater.Move) (w : Waits x.flashes .esp [] x)
    (hm : ∀ r, m = .downloadAsset r → x.view.phase = .dlEsp → isMd5 r.destPath = false) :
    Waits (x.espChecker host m).flashes .esp [] (x.espChecker host m) := by
  let x1 : OneClick := { x with esp := download host m x.esp }
  have w1 : Waits x1.flashes .esp x1.esp.checker.out x1 := by
    refine ⟨w.busy, fun c hc => ?_, w.flashing, fun hd => ?_, w.closed⟩
    · rcases w.fetching c hc with h | ⟨-, o, ho, -⟩
      · cases c with
        | m1 => exact .inl h
        | esp => exact (download_goes_on m x.esp h).imp id fun h => ⟨rfl, h⟩
      · exact absurd ho List.not_mem_nil
    · have hdest := (w.named hd).1
      refine ⟨download_isMd5 m x.esp hdest fun r hr => hm r hr hd, fun _ path hp => ?_⟩
      rw [complete_dest hp]
      exact hdest
  exact exec_rest (OneClick.hearEsp host) (I := fun out y => Waits y.flashes .esp out y)
    (fun o out y => hearChecker_waits (c := .esp) o out y) _ x1 w1

theorem m1Checker_waits (m : Updater.Move) (w : Waits x.flashes .m1 [] x) :
    Waits (x.m1Checker host m).flashes .m1 [] (x.m1Checker host m) := by
  let x1 : OneClick := { x with m1 := download host m x.m1 }
  have w1 : Waits x1.flashes .m1 x1.m1.checker.out x1 := by
    refine ⟨w.busy, fun c hc => ?_, w.flashing, fun hd => ?_, w.closed⟩
    · rcases w.fetching c hc with h | ⟨-, o, ho, -⟩
      · cases c with
        | esp => exact .inl h
        | m1 => exact (download_goes_on m x.m1 h).imp id fun h => ⟨rfl, h⟩
      · exact absurd ho List.not_mem_nil
    · exact ⟨(w.named hd).1, fun h => absurd h Chip.noConfusion⟩
  exact exec_rest (OneClick.hearM1 host) (I := fun out y => Waits y.flashes .m1 out y)
    (fun o out y => hearChecker_waits (c := .m1) o out y) _ x1 w1

/-! ## The user -/

/-- what `startUpdate` does to the view -/
inductive Begun (v : UpdateAll) : UpdateAll × Option (Bool × Asset) → Prop
  | refused (v' : UpdateAll) (h : SameStage v v') : Begun v (v', none)
  | esp (a : Asset) (v' : UpdateAll) (asset : pickEsp v.espRelease = some a)
      (tracked : v.espTracked = true) (phase : v'.phase = .dlEsp) (busy : v'.busy = true)
      (doneDialog : v'.doneDialog = v.doneDialog) : Begun v (v', some (true, a))
  | m1 (a : Asset) (v' : UpdateAll) (tracked : v.espTracked = false) (phase : v'.phase = .dlM1)
      (busy : v'.busy = true) (doneDialog : v'.doneDialog = v.doneDialog) :
      Begun v (v', some (false, a))

theorem startUpdate_begun (compatible : Bool) (v : UpdateAll) :
    Begun v (v.startUpdate compatible) := by
  unfold UpdateAll.startUpdate
  split
  · exact .refused v ⟨rfl, rfl, rfl⟩
  · dsimp only
    split
    · exact .refused _ ⟨rfl, rfl, rfl⟩
    · split
      · exact .refused _ ⟨rfl, rfl, rfl⟩
      next espAsset ht hasset =>
        rw [if_pos ht] at hasset
        exact .esp espAsset _ hasset ht rfl rfl rfl
      next ht => exact .m1 _ _ ht rfl rfl rfl

theorem startUpdate_waits (hdone : x.view.doneDialog = false) (w : Waits x.flashes .esp [] x) :
    Waits (x.startUpdate host).flashes .esp [] (x.startUpdate host) := by
  have begun := startUpdate_begun x.compatible x.view
  unfold OneClick.startUpdate
  generalize x.view.startUpdate x.compatible = r at begun
  cases begun with
  | refused v' h => exact w.same h fun _ _ hrun => hrun
  | esp a v' asset tracked phase busy doneDialog =>
    have hclosed := hdone.symm.trans doneDialog.symm
    refine ⟨?_, fun c hc => ?_, fun c hc => ?_, fun _ => ⟨?_, fun _ path hp => ?_⟩,
      fun hd => absurd (hclosed.trans hd) Bool.noConfusion⟩
    · show v'.busy = v'.phase.working
      rw [busy, phase]
      rfl
    · cases c with
      | esp => exact .inl (by simp [OneClick.downloads, OneClick.espDownload, download])
      | m1 => exact absurd (phase.symm.trans hc) Phase.noConfusion
    · cases c <;> exact absurd (phase.symm.trans hc) Phase.noConfusion
    · exact (isMd5_destination a.name).trans (pickEsp_isMd5 asset)
    · exact absurd hp List.not_mem_nil
  | m1 a v' tracked phase busy doneDialog =>
    have hclosed := hdone.symm.trans doneDialog.symm
    refine ⟨?_, fun c hc => ?_, fun c hc => ?_,
      fun hd => absurd (phase.symm.trans hd) Phase.noConfusion,
      fun hd => absurd (hclosed.trans hd) Bool.noConfusion⟩
    · show v'.busy = v'.phase.working
      rw [busy, phase]
      rfl
    · cases c with
      | m1 => exact .inl (by simp [OneClick.downloads, OneClick.m1Download, download])
      | esp => exact absurd (phase.symm.trans hc) Phase.noConfusion
    · cases c <;> exact absurd (phase.symm.trans hc) Phase.noConfusion

/-! ## Runs -/

theorem step_waits (a : Act) (x : OneClick) (w : Waits x.flashes .esp [] x) (ok : Unmixed a x) :
    Waits (x.step host a).flashes .esp [] (x.step host a) := by
  have event (e : Event) {y : OneClick} (wy : Waits y.flashes .esp [] y) :
      Waits (y.device host e).flashes .esp [] (y.device host e) :=
    device_waits e ⟨wy.busy, wy.fetching, fun c hc => .inl (wy.flashing c hc), wy.named, wy.closed⟩
  have seen {v : UpdateAll} (h : SameStage x.view v) :
      Waits x.flashes .esp [] { x with view := v } := w.same h fun _ _ hrun => hrun
  unfold OneClick.step
  cases a with
  | device e => exact event e w
  | espChecker m =>
    refine espChecker_waits m w fun r hr hd => ?_
    subst hr
    exact ok hd
  | m1Checker m => exact (m1Checker_waits m w.turn).turn
  | trackEsp tracked => exact seen ⟨rfl, rfl, rfl⟩
  | refresh =>
    refine seen ?_
    unfold UpdateAll.refresh
    split <;> exact ⟨rfl, rfl, rfl⟩
  | m1Fetched r => exact seen ⟨rfl, rfl, rfl⟩
  | espFetched r => exact seen ⟨rfl, rfl, rfl⟩
  | startUpdate =>
    dsimp only
    split
    · exact w
    next hd => exact startUpdate_waits (Bool.eq_false_of_not_eq_true hd) w
  | rebootDevice => exact waits_of_not_working rfl rfl
  | stallTimer =>
    refine seen ?_
    unfold UpdateAll.onStallTimer
    split <;> exact ⟨rfl, rfl, rfl⟩
  | accepted =>
    dsimp only
    unfold OneClick.accepted
    split
    next hd =>
      refine event _ (waits_of_not_working ?_ rfl)
      exact w.busy.trans (w.closed hd)
    next => exact w
  | closeError => exact seen ⟨rfl, rfl, rfl⟩

end

/-- **The busy view waits for something that is under way.**  In every run in which no `.md5` file
is asked of the ESP checker during the view's own ESP download, a download the view waits for is
in flight and a flash it waits for is active in the device, in every state. -/
theorem attended (host : Host) (as : List Act) (h : Along (OneClick.step host) Unmixed as {}) :
    Throughout (OneClick.step host) Attended as {} := by
  refine throughout_of_along (OneClick.step host) (I := fun x => Waits x.flashes .esp [] x)
    (fun x w => ⟨w.busy, ?_, w.flashing .esp, ?_, w.flashing .m1⟩)
    (fun a x w ok => step_waits a x w ok) as {} (waits_of_not_working rfl rfl) h
  · intro hp
    rcases w.fetching .esp hp with hw | ⟨-, o, ho, -⟩
    · exact hw
    · exact absurd ho List.not_mem_nil
  · intro hp
    rcases w.fetching .m1 hp with hw | ⟨-, o, ho, -⟩
    · exact hw
    · exact absurd ho List.not_mem_nil

/-- an update of both chips, the ESP32 in 33 chunks and the M1 in one -/
def fullRun : List Act :=
  let info : Frame := { cmd := CMD_DEVICE_INFO_RESP, seq := 0
                        payload := le32 DEVICE_INFO_MAGIC ++ List.replicate 80 1 }
  let ack : Act := .device (.frame { cmd := CMD_ACK, seq := 0, payload := [] } .Correct)
  let esp : Asset := ⟨"factory_ESP32.bin", "https://h/esp"⟩
  let m1 : Asset := ⟨"M1_v1_wCRC.bin", "https://h/m1"⟩
  let file (path : String) : List UInt8 :=
    if path = destination tmpHost esp.name then factoryImage else [1, 2, 3, 4]
  [.device (.env { serialOpens := fun _ => true, readFile := fun path => some (file path) }),
    .device (.call (.connectToDevice "COM3")), .device (.frame info .Correct),
    .espFetched (some ⟨"v1", [esp]⟩), .m1Fetched (some ⟨"v1", [m1]⟩), .startUpdate,
    .espChecker (.finished 0 (.data factoryImage) true)] ++
  (List.replicate 35 ack ++ [.m1Checker (.finished 0 (.data [1, 2, 3, 4]) true), ack, ack, ack])

theorem attended_fullRun : Throughout (OneClick.step tmpHost) Attended fullRun {} := by
  refine attended tmpHost fullRun (along_of_forall _ _ _ fun a ha x => ?_)
  simp only [fullRun, List.mem_append, List.mem_cons, List.mem_replicate, List.not_mem_nil,
    or_false] at ha
  rcases ha with (rfl | rfl | rfl | rfl | rfl | rfl | rfl) | ⟨-, rfl⟩ | rfl | rfl | rfl | rfl
    <;> trivial

end QMon.Views
