import QMonstatek.Device.Info
import QMonstatek.Lib.Digits
import QMonstatek.Updater.Text

/-!
# The check for a newer release

`parseVersionTag`   the three regular expressions of `GithubChecker`, each a search for the first
                    place that matches;
`onReleaseReply`    the comparison with the device's version, and what is reported.

`check_exact`: a printed version is read back, and a release is reported as newer exactly when it
comes later in the lexicographic order of the five numbers.
-/

namespace QMon.Updater
open Device (DeviceInfo versionText)

/-- the out parameters of `parseVersionTag` -/
structure Version where
  major : Int
  minor : Int
  build : Int
  rc : Int
  c3Rev : Int
  deriving DecidableEq

/-! ## Tags -/

/-- `(\d+)`, with what follows -/
def digitRun (text : List Char) : Option (List Char × List Char) :=
  if text.takeWhile Char.isDigit = [] then none
  else some (text.takeWhile Char.isDigit, text.dropWhile Char.isDigit)

/-- `n + 1` runs of digits with dots between them, with what follows -/
def digitRuns : Nat → List Char → Option (List (List Char) × List Char)
  | 0, text => (digitRun text).map fun run => ([run.1], run.2)
  | n + 1, text =>
    match digitRun text with
    | some (run, '.' :: rest) => (digitRuns n rest).map fun runs => (run :: runs.1, runs.2)
    | _ => none

/-- `v?` -/
def skipV : List Char → List Char
  | [] => []
  | c :: rest => if foldCase c = 'v' then rest else c :: rest

/-- `C3\.(\d+)` -/
def matchC3 : List Char → Option (List Char)
  | c :: '3' :: '.' :: rest => if foldCase c = 'c' then (digitRun rest).map Prod.fst else none
  | _ => none

/-- `v?(\d+)\.(\d+)\.(\d+)\.(\d+)(?:-C3\.(\d+))?`: the five captures -/
def match4 (text : List Char) : Option (List (List Char)) :=
  (digitRuns 3 (skipV text)).map fun runs =>
    runs.1 ++ [match runs.2 with
      | '-' :: rest => (matchC3 rest).getD []
      | _ => []]

/-- `v?(\d+)\.(\d+)\.(\d+)` -/
def match3 (text : List Char) : Option (List (List Char)) :=
  (digitRuns 2 (skipV text)).map Prod.fst

/-- the first place in the text that matches -/
def search {β : Type} (pattern : List Char → Option β) : List Char → Option β
  | [] => pattern []
  | c :: rest =>
    match pattern (c :: rest) with
    | some m => some m
    | none => search pattern rest

def parseVersionTag (tag : String) : Option Version :=
  match search match4 tag.toList with
  | some m =>
    some
      { major := toInt (m.getD 0 []), minor := toInt (m.getD 1 []), build := toInt (m.getD 2 [])
        rc := toInt (m.getD 3 [])
        c3Rev := if (m.getD 4 []).isEmpty then 0 else toInt (m.getD 4 []) }
  | none =>
    match search matchC3 tag.toList with
    | some c3 => some { major := 0, minor := 8, build := 0, rc := 0, c3Rev := toInt c3 }
    | none =>
      match search match3 tag.toList with
      | some m =>
        some
          { major := toInt (m.getD 0 []), minor := toInt (m.getD 1 [])
            build := toInt (m.getD 2 []), rc := 0, c3Rev := 0 }
      | none => none

example : parseVersionTag "C3.12: v1.2.3" = some ⟨0, 8, 0, 0, 12⟩ := by decide +kernel

example : parseVersionTag "M1-V1.10.0" = some ⟨1, 10, 0, 0, 0⟩ := by decide +kernel

/-! ## The reply -/

structure ReleaseAsset where
  name : String
  size : Int
  downloadUrl : String
  contentType : String
  deriving DecidableEq

/-- the JSON object of a release, each field as the type it is read as -/
structure Release where
  tag_name : String
  name : String
  body : String
  published_at : String
  html_url : String
  prerelease : Bool
  assets : List ReleaseAsset

inductive ReleaseReply
  | contentNotFound
  | failed (errorString : String)
  | notObject
  | object (root : Release)

/-- the `QJsonObject` of `releaseFound` -/
structure ReleaseInfo where
  version : String
  name : String
  body : String
  publishedAt : String
  htmlUrl : String
  prerelease : Bool
  isNewer : Bool
  versionFormatted : String
  currentVersion : String
  assets : List ReleaseAsset
  deriving DecidableEq

inductive CheckSignal
  | checkingChanged
  | releaseFound (info : ReleaseInfo)
  | noUpdateAvailable (message : String)
  | checkError (message : String)

/-- what the check uses of the `GithubChecker` -/
structure ReleaseCheck where
  repoUrl : String := "bedge117/M1"
  checking : Bool := false
  /-- `m_curMajor` to `m_curC3Rev` -/
  cur : Version := ⟨0, 0, 0, 0, 0⟩

/-- a difference of two `int` values -/
def subInt (a b : Int) : Int := (BitVec.ofInt 32 (a - b)).toInt

def baseCompare (a b : Version) : Int :=
  if a.major ≠ b.major then subInt a.major b.major
  else if a.minor ≠ b.minor then subInt a.minor b.minor
  else if a.build ≠ b.build then subInt a.build b.build
  else subInt a.rc b.rc

def isNewer (rel cur : Version) : Bool :=
  let baseCmp := baseCompare rel cur
  if baseCmp > 0 then true
  else if baseCmp = 0 ∧ rel.c3Rev > cur.c3Rev then true
  else false

/-- `checkForUpdates`, up to the request; `tlsError` is the platform's text -/
def ReleaseCheck.checkForUpdates (version : Version) (supportsSsl : Bool) (tlsError : String)
    (c : ReleaseCheck) : ReleaseCheck × List CheckSignal :=
  if c.checking then (c, [])
  else
    let c := { c with cur := version, checking := true }
    if !supportsSsl then
      ({ c with checking := false }, [.checkingChanged, .checkError tlsError, .checkingChanged])
    else (c, [.checkingChanged])

/-- the signals of `onReleaseReply`, in order, with the state they leave -/
def ReleaseCheck.onReleaseReply (applicationVersion : String) (reply : ReleaseReply)
    (c : ReleaseCheck) : ReleaseCheck × List CheckSignal :=
  ({ c with checking := false }, .checkingChanged ::
    match reply with
    | .contentNotFound => [.noUpdateAvailable ("No releases published on " ++ c.repoUrl)]
    | .failed errorString => [.checkError ("GitHub API error: " ++ errorString)]
    | .notObject => [.checkError "Invalid JSON response from GitHub"]
    | .object root =>
      match parseVersionTag root.tag_name with
      | none => [.checkError ("Cannot parse release version tag: " ++ root.tag_name)]
      | some rel =>
        let info : ReleaseInfo :=
          { version := root.tag_name
            name := root.name
            body := root.body
            publishedAt := root.published_at
            htmlUrl := root.html_url
            prerelease := root.prerelease
            isNewer := isNewer rel c.cur
            versionFormatted := root.tag_name
            currentVersion := "v" ++ applicationVersion
            assets := root.assets }
        if info.isNewer then [.releaseFound info]
        else
          [.noUpdateAvailable ("You're up to date (" ++ info.currentVersion
            ++ "). Latest release: " ++ info.versionFormatted)])

/-! ## Numbers read back -/

/-- the digits of a number -/
def digitsOf (n : Nat) : List Char := (toString n).toList

/-- **A number** in the range of `int` is read back from its digits. -/
theorem toInt_digitsOf {n : Nat} (h : n < 2 ^ 31) : toInt (digitsOf n) = n := by
  have hdigit : ∀ c ∈ digitsOf n, c.isDigit = true := fun c hc => Digits.isDigit_of_mem hc
  have hvalue : decimal (digitsOf n) = n := Digits.ofDigitChars_toString n
  have hminus : (digitsOf n).head? ≠ some '-' := Digits.head?_ne n (by decide)
  have hplus : (digitsOf n).head? ≠ some '+' := Digits.head?_ne n (by decide)
  have hnone : ¬ ((digitsOf n).head? = some '-' ∨ (digitsOf n).head? = some '+') :=
    not_or.mpr ⟨hminus, hplus⟩
  unfold toInt
  rw [trimmed_digits hdigit]
  dsimp only
  rw [if_neg hnone, if_neg hminus, hvalue,
    if_pos ⟨Digits.ne_nil n, List.all_eq_true.mpr hdigit, by omega, by omega⟩]

/-- **A run of digits** ends where something else begins. -/
theorem digitRun_digitsOf (n : Nat) {rest : List Char}
    (hrest : ∀ c ∈ rest.head?, c.isDigit = false) :
    digitRun (digitsOf n ++ rest) = some (digitsOf n, rest) := by
  have hdigit : ∀ c ∈ digitsOf n, c.isDigit = true := fun c hc => Digits.isDigit_of_mem hc
  unfold digitRun
  rw [Digits.takeWhile_append hrest hdigit, Digits.dropWhile_append hrest hdigit]
  exact if_neg (Digits.ne_nil n)

/-! ## Versions read back -/

/-- a version that is known, each number an `int` -/
structure FwVersion where
  major : Nat
  minor : Nat
  build : Nat
  rc : Nat
  c3Revision : Nat
  inRange : major < 2 ^ 31 ∧ minor < 2 ^ 31 ∧ build < 2 ^ 31 ∧ rc < 2 ^ 31 ∧ c3Revision < 2 ^ 31
  known : major ≠ 0 ∨ minor ≠ 0 ∨ build ≠ 0 ∨ rc ≠ 0

def FwVersion.text (v : FwVersion) : String :=
  versionText v.major v.minor v.build v.rc v.c3Revision

def FwVersion.version (v : FwVersion) : Version := ⟨v.major, v.minor, v.build, v.rc, v.c3Revision⟩

/-- the numbers, the weightiest first -/
def FwVersion.numbers (v : FwVersion) : List Nat :=
  [v.major, v.minor, v.build, v.rc, v.c3Revision]

theorem head_dot (rest : List Char) : ∀ c ∈ ('.' :: rest).head?, c.isDigit = false :=
  Digits.head_cons (by decide) rest

theorem digitRuns_dots (a b c d : Nat) {rest : List Char}
    (hrest : ∀ c ∈ rest.head?, c.isDigit = false) :
    digitRuns 3 (digitsOf a ++ '.' :: (digitsOf b ++ '.' :: (digitsOf c ++ '.' ::
        (digitsOf d ++ rest)))) =
      some ([digitsOf a, digitsOf b, digitsOf c, digitsOf d], rest) := by
  simp only [digitRuns, digitRun_digitsOf _ (head_dot _), digitRun_digitsOf d hrest,
    Option.map_some]

/-- the characters of a printed version -/
theorem versionText_toList (major minor build rc c3 : Nat) :
    (versionText major minor build rc c3).toList = 'v' :: (digitsOf major ++ '.' ::
      (digitsOf minor ++ '.' :: (digitsOf build ++ '.' :: (digitsOf rc ++
        if c3 > 0 then '-' :: 'C' :: '3' :: '.' :: digitsOf c3 else [])))) := by
  unfold versionText digitsOf
  split
  · simp
  · simp

theorem skipV_v (rest : List Char) : skipV ('v' :: rest) = rest := by
  have hv : foldCase 'v' = 'v' := by decide
  show (if foldCase 'v' = 'v' then rest else 'v' :: rest) = rest
  rw [if_pos hv]

theorem match4_versionText (major minor build rc c3 : Nat) :
    match4 (versionText major minor build rc c3).toList =
      some [digitsOf major, digitsOf minor, digitsOf build, digitsOf rc,
        if c3 > 0 then digitsOf c3 else []] := by
  have hc3 := digitRun_digitsOf c3 Digits.head_nil
  have hC : foldCase 'C' = 'c' := by decide
  rw [List.append_nil] at hc3
  unfold match4
  rw [versionText_toList, skipV_v]
  by_cases h : c3 > 0
  · have hdash : ∀ c ∈ ('-' :: 'C' :: '3' :: '.' :: digitsOf c3).head?, c.isDigit = false :=
      Digits.head_cons (by decide) _
    rw [if_pos h, if_pos h, digitRuns_dots _ _ _ _ hdash, Option.map_some]
    simp only [matchC3, if_pos hC, hc3]
    rfl
  · rw [if_neg h, if_neg h, digitRuns_dots _ _ _ _ Digits.head_nil]
    rfl

/-- a text that matches is matched at its front -/
theorem search_of_some {β : Type} {pattern : List Char → Option β} {text : List Char} {m : β}
    (h : pattern text = some m) : search pattern text = some m := by
  cases text with
  | nil => exact h
  | cons c rest =>
    unfold search
    rw [h]

/-- **A printed version** is read back. -/
theorem parseVersionTag_text (v : FwVersion) : parseVersionTag v.text = some v.version := by
  obtain ⟨hmajor, hminor, hbuild, hrc, hc3⟩ := v.inRange
  have hmatch := search_of_some (match4_versionText v.major v.minor v.build v.rc v.c3Revision)
  have hrev : (if (if v.c3Revision > 0 then digitsOf v.c3Revision else []).isEmpty then 0
      else toInt (if v.c3Revision > 0 then digitsOf v.c3Revision else [])) =
        (v.c3Revision : Int) := by
    by_cases h : v.c3Revision > 0
    · have hne : ¬ (digitsOf v.c3Revision).isEmpty = true :=
        fun he => Digits.ne_nil _ (List.isEmpty_iff.mp he)
      rw [if_pos h, if_neg hne, toInt_digitsOf hc3]
    · have hzero : v.c3Revision = 0 := Nat.eq_zero_of_not_pos h
      rw [if_neg h, if_pos List.isEmpty_nil, hzero]
      rfl
  unfold parseVersionTag FwVersion.text
  rw [hmatch]
  show some (Version.mk (toInt (digitsOf v.major)) (toInt (digitsOf v.minor))
    (toInt (digitsOf v.build)) (toInt (digitsOf v.rc)) _) = _
  rw [toInt_digitsOf hmajor, toInt_digitsOf hminor, toInt_digitsOf hbuild, toInt_digitsOf hrc]
  exact congrArg (fun c3 => some (Version.mk v.major v.minor v.build v.rc c3)) hrev

/-- what the device is shown as -/
def FwVersion.ofInfo (info : DeviceInfo) (h : info.hasDeviceInfo = true) : FwVersion where
  major := info.fwMajor.toNat
  minor := info.fwMinor.toNat
  build := info.fwBuild.toNat
  rc := info.fwRC.toNat
  c3Revision := info.c3Revision.toNat
  inRange := by
    have h1 := info.fwMajor.toNat_lt
    have h2 := info.fwMinor.toNat_lt
    have h3 := info.fwBuild.toNat_lt
    have h4 := info.fwRC.toNat_lt
    have h5 := info.c3Revision.toNat_lt
    omega
  known := by
    have hzero (b : UInt8) (hb : b.toNat = 0) : b = 0 := UInt8.toNat_inj.mp hb
    simp only [DeviceInfo.hasDeviceInfo, Bool.or_eq_true, bne_iff_ne] at h
    by_contra hnone
    simp only [not_or, not_not] at hnone
    obtain ⟨h1, h2, h3, h4⟩ := hnone
    rcases h with ((h | h) | h) | h
    · exact h (hzero _ h1)
    · exact h (hzero _ h2)
    · exact h (hzero _ h3)
    · exact h (hzero _ h4)

theorem fwVersionString_eq (info : DeviceInfo) (h : info.hasDeviceInfo = true) :
    info.fwVersionString = (FwVersion.ofInfo info h).text := by
  unfold DeviceInfo.fwVersionString
  rw [h]
  rfl

/-! ## The comparison -/

/-- between values of an `int` that are not negative a difference does not overflow -/
theorem subInt_eq {a b : Nat} (ha : a < 2 ^ 31) (hb : b < 2 ^ 31) : subInt a b = (a : Int) - b := by
  unfold subInt
  rw [BitVec.toInt_ofInt]
  exact Int.bmod_eq_of_le (by omega) (by omega)

/-- the base of the versions, compared -/
theorem baseCompare_version (r d : FwVersion) :
    baseCompare r.version d.version =
      if r.major ≠ d.major then (r.major : Int) - d.major
      else if r.minor ≠ d.minor then (r.minor : Int) - d.minor
      else if r.build ≠ d.build then (r.build : Int) - d.build
      else (r.rc : Int) - d.rc := by
  obtain ⟨hr1, hr2, hr3, hr4, -⟩ := r.inRange
  obtain ⟨hd1, hd2, hd3, hd4, -⟩ := d.inRange
  unfold baseCompare FwVersion.version
  simp only [ne_eq, Int.natCast_inj, subInt_eq hr1 hd1, subInt_eq hr2 hd2, subInt_eq hr3 hd3,
    subInt_eq hr4 hd4]

/-- **The comparison** is that of the five numbers in order. -/
theorem isNewer_iff (r d : FwVersion) :
    isNewer r.version d.version = true ↔ d.numbers < r.numbers := by
  have horder : d.numbers < r.numbers ↔ d.major < r.major ∨ d.major = r.major ∧
      (d.minor < r.minor ∨ d.minor = r.minor ∧ (d.build < r.build ∨ d.build = r.build ∧
        (d.rc < r.rc ∨ d.rc = r.rc ∧ d.c3Revision < r.c3Revision))) := by
    unfold FwVersion.numbers
    simp only [List.cons_lt_cons_iff, List.lt_irrefl, and_false, or_false]
  have hc3 : r.version.c3Rev > d.version.c3Rev ↔ d.c3Revision < r.c3Revision := Int.ofNat_lt
  have hnewer : isNewer r.version d.version = true ↔
      baseCompare r.version d.version > 0 ∨
        baseCompare r.version d.version = 0 ∧ d.c3Revision < r.c3Revision := by
    rw [← hc3]
    unfold isNewer
    dsimp only
    split_ifs with h1 h2
    · exact iff_of_true rfl (.inl h1)
    · exact iff_of_true rfl (.inr h2)
    · exact iff_of_false not_false (not_or.mpr ⟨h1, h2⟩)
  rw [hnewer, horder, baseCompare_version]
  split_ifs <;> omega

/-! ## The check -/

/-- a device of version `d` asks for the release, and this is the answer: a newer one is reported -/
def Reports (applicationVersion tlsError : String) (c : ReleaseCheck) (root : Release)
    (r d : FwVersion) : Prop :=
  let asked := (({ c with checking := false } : ReleaseCheck).checkForUpdates d.version true
    tlsError).1
  ∃ info, CheckSignal.releaseFound info ∈
    (asked.onReleaseReply applicationVersion (.object { root with tag_name := r.text })).2

theorem reports_iff (applicationVersion tlsError : String) (c : ReleaseCheck) (root : Release)
    (r d : FwVersion) : Reports applicationVersion tlsError c root r d ↔
      isNewer r.version d.version = true := by
  unfold Reports ReleaseCheck.onReleaseReply
  simp only [ReleaseCheck.checkForUpdates, parseVersionTag_text]
  by_cases h : isNewer r.version d.version = true
  · simp [h]
  · simp [h]

/-- **The check is exact**: what is printed is read back, a release is reported exactly when its
numbers come after the device's, and never two as newer than each other. -/
theorem check_exact (applicationVersion tlsError : String) (c : ReleaseCheck) (root : Release)
    (r d : FwVersion) :
    parseVersionTag r.text = some r.version ∧
      (Reports applicationVersion tlsError c root r d ↔ d.numbers < r.numbers) ∧
      ¬ (Reports applicationVersion tlsError c root r d ∧
        Reports applicationVersion tlsError c root d r) := by
  rw [reports_iff, reports_iff, isNewer_iff, isNewer_iff]
  exact ⟨parseVersionTag_text r, Iff.rfl, fun h => List.lt_asymm h.1 h.2⟩

end QMon.Updater
