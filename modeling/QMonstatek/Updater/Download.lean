import QMonstatek.Device.Bytes
import QMonstatek.Lib.Run

/-!
# Downloads of release assets

`GithubChecker::downloadAsset` and `onDownloadReply`.  The views share one checker; the replies of
its network manager finish in any order, each with an error, a redirect or the bytes.

`Downloads`   the checker with the replies in flight, each with the `downloadAsset` call it goes
              back to, through any redirects;
`Uncrossed`   a step writes and announces an asset only under the destination of its own call.

The destination is a member of the checker, set by every call and read when a reply finishes: a
download is announced under the destination of the latest call (`uncrossed_iff`).
-/

namespace QMon.Updater
open Device

/-- what the host answers about paths -/
structure Host where
  /-- `QDir::tempPath()` -/
  tempPath : String
  /-- `QFileInfo(path).absolutePath()` -/
  absolutePath : String → String

inductive CheckerOut where
  /-- `m_nam.get` -/
  | get (url : String)
  | writeFile (path : String) (data : List UInt8)
  | downloadProgress (percent : Int)
  | downloadComplete (filePath : String)
  | downloadError (message : String)
  deriving DecidableEq, Repr

/-- the checker as far as downloads go, and the files on the disk -/
structure GithubChecker where
  downloadDest : String := ""
  files : String → Option (List UInt8) := fun _ => none
  out : List CheckerOut := []

/-- what a finished reply holds -/
inductive Outcome where
  | error (message : String)
  | redirect (url : String)
  | data (bytes : List UInt8)
  deriving DecidableEq, Repr

/-! ## The checker -/

/-- `QDir(dir).filePath(name)` of a relative name -/
def filePath (dir name : String) : String :=
  if dir.toList.getLast? = some '/' then dir ++ name else dir ++ ("/" ++ name)

/-- `QFileInfo(path).suffix()`: what follows the last dot of the file name -/
def suffix (path : String) : String :=
  let name := (fileName path).toList
  if '.' ∈ name then String.ofList (name.reverse.takeWhile (fun c => c != '.')).reverse else ""

/-- the name filter `start*.suffix`, upper and lower case alike -/
def matchesFilter (start suffix name : String) : Bool :=
  let name := name.toLower.toList
  let start := start.toLower.toList
  let tail := ("." ++ suffix).toLower.toList
  start.isPrefixOf name && tail.isSuffixOf name && decide (start.length + tail.length ≤ name.length)

section
variable (host : Host)

/-- a bare file name goes to the temp directory -/
def destination (destPath : String) : String :=
  if '/' ∉ destPath.toList ∧ '\\' ∉ destPath.toList then filePath host.tempPath destPath
  else destPath

namespace GithubChecker

def put (o : CheckerOut) (c : GithubChecker) : GithubChecker := { c with out := c.out ++ [o] }

def downloadAsset (url destPath : String) (c : GithubChecker) : GithubChecker :=
  { c with downloadDest := destination host destPath }.put (.get url)

def onDownloadProgress (received total : Int) (c : GithubChecker) : GithubChecker :=
  if total > 0 then c.put (.downloadProgress (received * 100 / total)) else c

/-- previous firmware downloads in the temp directory are removed -/
def cleanTemp (c : GithubChecker) : GithubChecker :=
  let ext := suffix c.downloadDest
  if host.absolutePath c.downloadDest = host.tempPath ∧ ext ≠ "" then
    let old (path : String) : Bool :=
      path == filePath host.tempPath (fileName path)
        && (matchesFilter "M1_v" ext (fileName path)
          || matchesFilter "factory_ESP32" ext (fileName path))
        && fileName path != fileName c.downloadDest
    { c with files := fun path => if old path then none else c.files path }
  else c

/-- `canWrite` says whether the destination can be opened -/
def onDownloadReply (outcome : Outcome) (canWrite : Bool) (c : GithubChecker) : GithubChecker :=
  match outcome with
  | .error message => c.put (.downloadError message)
  | .redirect url => c.downloadAsset host url c.downloadDest
  | .data bytes =>
    let c := c.cleanTemp host
    if canWrite then
      let files (path : String) := if path = c.downloadDest then some bytes else c.files path
      ({ c with files := files }.put (.writeFile c.downloadDest bytes)).put
        (.downloadComplete c.downloadDest)
    else c.put (.downloadError ("Cannot write to: " ++ c.downloadDest))

end GithubChecker

/-! ## Downloads in flight -/

/-- a call of `downloadAsset` -/
structure Request where
  url : String
  destPath : String
  deriving DecidableEq, Repr

/-- a reply that has not finished -/
structure Reply where
  /-- the call it goes back to -/
  request : Request
  url : String
  deriving DecidableEq, Repr

structure Downloads where
  checker : GithubChecker := {}
  inFlight : List Reply := []
  /-- the last call -/
  latest : Option Request := none

inductive Move where
  | downloadAsset (r : Request)
  | progress (received total : Int)
  /-- the reply at position `i` finishes -/
  | finished (i : Nat) (outcome : Outcome) (canWrite : Bool)
  /-- another program changes the files -/
  | files (files : String → Option (List UInt8))

def Downloads.fresh (s : Downloads) : Downloads :=
  { s with checker := { s.checker with out := [] } }

/-- the replies in flight after the one at `i` has finished: a redirect is followed -/
def Downloads.after (i : Nat) (outcome : Outcome) (s : Downloads) : List Reply :=
  match s.inFlight[i]?, outcome with
  | some r, .redirect url => s.inFlight.eraseIdx i ++ [{ r with url := url }]
  | _, _ => s.inFlight.eraseIdx i

def download (m : Move) (s : Downloads) : Downloads :=
  let s := s.fresh
  match m with
  | .downloadAsset r =>
    { checker := s.checker.downloadAsset host r.url r.destPath
      inFlight := s.inFlight ++ [{ request := r, url := r.url }]
      latest := some r }
  | .progress received total => { s with checker := s.checker.onDownloadProgress received total }
  | .finished i outcome canWrite =>
    if i < s.inFlight.length then
      { s with
        checker := s.checker.onDownloadReply host outcome canWrite
        inFlight := s.after i outcome }
    else s
  | .files files => { s with checker := { s.checker with files := files } }

/-- the step is the end of a download of `r`, with these bytes -/
def Fetches (m : Move) (s : Downloads) (r : Request) (bytes : List UInt8) : Prop :=
  ∃ i canWrite reply, m = .finished i (.data bytes) canWrite ∧ s.inFlight[i]? = some reply ∧
    reply.request = r

structure Uncrossed (m : Move) (s : Downloads) : Prop where
  complete : ∀ path, .downloadComplete path ∈ (download host m s).checker.out →
    ∃ r bytes, Fetches m s r bytes ∧ path = destination host r.destPath ∧
      (download host m s).checker.files path = some bytes
  written : ∀ path bytes, .writeFile path bytes ∈ (download host m s).checker.out →
    ∃ r, Fetches m s r bytes ∧ path = destination host r.destPath

/-- a download that ends in a file has the destination of the latest call -/
def EndsLatest (m : Move) (s : Downloads) : Prop :=
  match m with
  | .finished i (.data _) true => ∀ reply ∈ s.inFlight[i]?, ∀ r ∈ s.latest,
    destination host r.destPath = destination host reply.request.destPath
  | _ => True

end

/-! ## The destination is that of the latest call -/

variable {host : Host}

theorem destination_destination (destPath : String) :
    destination host (destination host destPath) = destination host destPath := by
  unfold destination
  split
  · rw [if_neg]
    rintro ⟨h, -⟩
    refine h ?_
    unfold filePath
    split
    · rename_i hlast
      simp only [String.toList_append]
      exact List.mem_append_left _ (List.mem_of_getLast? hlast)
    · simp
  · rfl

/-- the invariant of the downloads -/
structure Downloads.Latest (host : Host) (s : Downloads) : Prop where
  known : s.inFlight ≠ [] → s.latest ≠ none
  dest : ∀ r ∈ s.latest, s.checker.downloadDest = destination host r.destPath

theorem cleanTemp_dest (c : GithubChecker) :
    (c.cleanTemp host).downloadDest = c.downloadDest ∧ (c.cleanTemp host).out = c.out := by
  unfold GithubChecker.cleanTemp
  dsimp only
  split <;> exact ⟨rfl, rfl⟩

theorem onDownloadReply_dest (outcome : Outcome) (canWrite : Bool) (c : GithubChecker) :
    (c.onDownloadReply host outcome canWrite).downloadDest =
      match outcome with
      | .redirect _ => destination host c.downloadDest
      | _ => c.downloadDest := by
  unfold GithubChecker.onDownloadReply
  cases outcome with
  | error message => rfl
  | redirect url => rfl
  | data bytes =>
    dsimp only
    split
    · exact (cleanTemp_dest c).1
    · exact (cleanTemp_dest c).1

theorem latest_step (m : Move) (s : Downloads) (h : s.Latest host) :
    (download host m s).Latest host := by
  unfold download
  cases m with
  | downloadAsset r =>
    refine ⟨fun _ => by simp, fun r' hr => ?_⟩
    rw [← Option.some.inj hr]
    rfl
  | progress received total =>
    refine ⟨h.known, fun r hr => ?_⟩
    rw [← h.dest r hr]
    show (GithubChecker.onDownloadProgress _ _ _).downloadDest = _
    unfold GithubChecker.onDownloadProgress
    split <;> rfl
  | finished i outcome canWrite =>
    dsimp only
    split
    · rename_i hi
      have hne : s.inFlight ≠ [] := List.ne_nil_of_length_pos (Nat.zero_lt_of_lt hi)
      refine ⟨fun _ => h.known hne, fun r hr => ?_⟩
      have hd := h.dest r hr
      show (GithubChecker.onDownloadReply _ _ _ _).downloadDest = _
      rw [onDownloadReply_dest]
      cases outcome with
      | error message => exact hd
      | data bytes => exact hd
      | redirect url =>
        show destination host s.checker.downloadDest = _
        rw [hd, destination_destination]
    · exact ⟨h.known, h.dest⟩
  | files files => exact ⟨h.known, h.dest⟩

/-! ## The end of a download -/

/-- writes or announces a file -/
def CheckerOut.isFile : CheckerOut → Bool
  | .writeFile _ _ => true
  | .downloadComplete _ => true
  | _ => false

/-- the files written and announced so far -/
def GithubChecker.filed (c : GithubChecker) : List CheckerOut := c.out.filter CheckerOut.isFile

theorem filed_put (o : CheckerOut) (c : GithubChecker) :
    (c.put o).filed = c.filed ++ if o.isFile then [o] else [] := by
  unfold GithubChecker.filed GithubChecker.put
  rw [List.filter_append]
  cases h : o.isFile <;> simp [h]

theorem filed_cleanTemp (c : GithubChecker) : (c.cleanTemp host).filed = c.filed := by
  unfold GithubChecker.filed
  rw [(cleanTemp_dest c).2]

theorem filed_onDownloadReply (outcome : Outcome) (canWrite : Bool) (c : GithubChecker) :
    (c.onDownloadReply host outcome canWrite).filed = c.filed ++
      match outcome, canWrite with
      | .data bytes, true => [.writeFile c.downloadDest bytes, .downloadComplete c.downloadDest]
      | _, _ => [] := by
  have hdest : (c.cleanTemp host).downloadDest = c.downloadDest := (cleanTemp_dest c).1
  unfold GithubChecker.onDownloadReply
  cases outcome with
  | error message => exact filed_put _ c
  | redirect url => exact filed_put _ { c with downloadDest := destination host c.downloadDest }
  | data bytes =>
    cases canWrite with
    | false =>
      dsimp only
      rw [if_neg Bool.false_ne_true, filed_put, filed_cleanTemp]
      rfl
    | true =>
      dsimp only
      rw [if_pos rfl, filed_put, filed_put, List.append_assoc, hdest]
      exact congrArg (· ++ _) (filed_cleanTemp c)

/-- what a step writes and announces -/
theorem filed_download (m : Move) (s : Downloads) : (download host m s).checker.filed =
    match m with
    | .finished i (.data bytes) true =>
      if i < s.inFlight.length then
        [.writeFile s.checker.downloadDest bytes, .downloadComplete s.checker.downloadDest]
      else []
    | _ => [] := by
  unfold download
  cases m with
  | downloadAsset r => exact filed_put _ _
  | progress received total =>
    show (GithubChecker.onDownloadProgress _ _ _).filed = _
    unfold GithubChecker.onDownloadProgress
    split
    · exact filed_put _ _
    · rfl
  | files files => rfl
  | finished i outcome canWrite =>
    dsimp only
    by_cases hi : i < s.inFlight.length
    · rw [if_pos (show i < s.fresh.inFlight.length from hi)]
      dsimp only
      rw [filed_onDownloadReply]
      cases outcome with
      | error message => rfl
      | redirect url => rfl
      | data bytes =>
        cases canWrite with
        | false => rfl
        | true =>
          dsimp only
          rw [if_pos hi]
          rfl
    · rw [if_neg (show ¬ i < s.fresh.inFlight.length from hi)]
      cases outcome with
      | error message => rfl
      | redirect url => rfl
      | data bytes =>
        cases canWrite with
        | false => rfl
        | true =>
          dsimp only
          rw [if_neg hi]
          rfl

theorem mem_filed {c : GithubChecker} {o : CheckerOut} (h : o.isFile = true) :
    o ∈ c.out ↔ o ∈ c.filed := by
  unfold GithubChecker.filed
  rw [List.mem_filter]
  exact (and_iff_left h).symm

/-- a finished reply with bytes: the file is at the stored destination -/
theorem finished_files {i : Nat} {s : Downloads} (hi : i < s.inFlight.length)
    (bytes : List UInt8) : (download host (.finished i (.data bytes) true) s).checker.files
      s.checker.downloadDest = some bytes := by
  have hdest : (s.fresh.checker.cleanTemp host).downloadDest = s.checker.downloadDest :=
    (cleanTemp_dest s.fresh.checker).1
  unfold download
  dsimp only
  rw [if_pos (show i < s.fresh.inFlight.length from hi)]
  simp [GithubChecker.onDownloadReply, GithubChecker.put, hdest]

theorem uncrossed_step_iff (m : Move) (s : Downloads) (h : s.Latest host) :
    Uncrossed host m s ↔ EndsLatest host m s := by
  have hfiled : (download host m s).checker.filed = _ := filed_download m s
  constructor
  · intro hu
    unfold EndsLatest
    split
    · rename_i i bytes
      intro reply hreply r hr
      obtain ⟨hi, -⟩ := List.getElem?_eq_some_iff.mp hreply
      dsimp only at hfiled
      rw [if_pos hi] at hfiled
      obtain ⟨r', bytes', ⟨i', canWrite', reply', hm, hreply', rfl⟩, hpath, -⟩ :=
        hu.complete s.checker.downloadDest ((mem_filed rfl).mpr (by rw [hfiled]; simp))
      obtain ⟨rfl, -, -⟩ := Move.finished.inj hm
      rw [Option.some.inj (hreply.symm.trans hreply'), ← hpath, h.dest r hr]
    · trivial
  · intro hends
    -- a step that files something is the end of the latest download
    have key (o : CheckerOut) (ho : o ∈ (download host m s).checker.filed) :
        ∃ r bytes, Fetches m s r bytes ∧ s.checker.downloadDest = destination host r.destPath ∧
          (download host m s).checker.files s.checker.downloadDest = some bytes ∧
          (o = .writeFile s.checker.downloadDest bytes ∨
            o = .downloadComplete s.checker.downloadDest) := by
      rw [hfiled] at ho
      split at ho
      · rename_i i bytes
        split at ho
        · rename_i hi
          have hreply := List.getElem?_eq_getElem hi
          obtain ⟨r, hr⟩ := Option.ne_none_iff_exists'.mp
            (h.known (List.ne_nil_of_length_pos (Nat.zero_lt_of_lt hi)))
          refine ⟨s.inFlight[i].request, bytes, ⟨i, true, _, rfl, hreply, rfl⟩, ?_,
            finished_files hi bytes, by simpa using ho⟩
          rw [h.dest r hr]
          exact hends _ hreply r hr
        · exact absurd ho List.not_mem_nil
      · exact absurd ho List.not_mem_nil
    constructor
    · intro path hp
      obtain ⟨r, bytes, hf, hdest, hfile, hx | hx⟩ := key _ ((mem_filed rfl).mp hp)
      · exact CheckerOut.noConfusion hx
      · obtain rfl := CheckerOut.downloadComplete.inj hx
        exact ⟨r, bytes, hf, hdest, hfile⟩
    · intro path bytes hp
      obtain ⟨r, bytes', hf, hdest, -, hx | hx⟩ := key _ ((mem_filed rfl).mp hp)
      · obtain ⟨rfl, rfl⟩ := CheckerOut.writeFile.inj hx
        exact ⟨r, hf, hdest⟩
      · exact CheckerOut.noConfusion hx

/-- **Downloads do not cross**, along a run, iff every download that ends in a file has the
destination of the latest call at that moment. -/
theorem uncrossed_iff (host : Host) (ms : List Move) :
    Run.Along (download host) (Uncrossed host) ms {} ↔
      Run.Along (download host) (EndsLatest host) ms {} := by
  have hinit : ({} : Downloads).Latest host :=
    ⟨fun h => absurd rfl h, fun r hr => absurd hr (by simp)⟩
  exact Run.along_iff (download host) latest_step uncrossed_step_iff ms {} hinit

def tmpHost : Host := { tempPath := "/tmp", absolutePath := fun _ => "/tmp" }

/-- two downloads at once: the bytes of the first are announced as the second -/
theorem downloads_crossed :
    let a : Request := ⟨"https://h/a", "M1_v1.bin"⟩
    let b : Request := ⟨"https://h/b", "factory_ESP32.bin"⟩
    let s := Run.exec (download tmpHost) [.downloadAsset a, .downloadAsset b] {}
    (download tmpHost (.finished 0 (.data [1]) true) s).checker.out =
        [.writeFile "/tmp/factory_ESP32.bin" [1], .downloadComplete "/tmp/factory_ESP32.bin"] ∧
      s.inFlight[0]? = some ⟨a, a.url⟩ ∧
      ¬ Uncrossed tmpHost (.finished 0 (.data [1]) true) s := by
  intro a b s
  have hfirst : s.inFlight[0]? = some ⟨a, a.url⟩ := by decide
  have hout : (download tmpHost (.finished 0 (.data [1]) true) s).checker.out =
      [.writeFile "/tmp/factory_ESP32.bin" [1], .downloadComplete "/tmp/factory_ESP32.bin"] := by
    decide
  refine ⟨hout, hfirst, fun h => ?_⟩
  obtain ⟨r, bytes, ⟨i, canWrite, reply, hm, hreply, rfl⟩, hpath, -⟩ :=
    h.complete "/tmp/factory_ESP32.bin" (by rw [hout]; simp)
  obtain ⟨rfl, -, -⟩ := Move.finished.inj hm
  obtain rfl := Option.some.inj (hfirst.symm.trans hreply)
  exact absurd hpath (by decide)

end QMon.Updater
