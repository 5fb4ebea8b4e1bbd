import QMonstatek.Updater.BackEnds
import QMonstatek.Updater.HelperOutput

/-!
# A flash from the button to the board

The flasher starts the bundled helper, the helper works on the board and writes its lines, and the
flasher reads them in the pieces they come in.

`Ran r pieces x`   the helper has run as `r`, and this is how its output and its end come;
`WholeLines`       no line of the output is cut;
`Flashed`          the bank asked for holds the image, and the other one is as it was;
`Spared`           the other bank is as it was, and the bank that booted still does.

`flash_shown`: whatever the API answers and however the output is cut, "Flash complete" is shown of
a flashed board only, and an error of a board that is flashed or spared; and where no line is cut,
the helper's exit code decides which of the two is shown.  Whether the flashed bank boots is not
shown: where SWAP_BANK has to change it does iff the device takes the command over, and the helper
drops the answer to it.
-/

namespace QMon.Updater
open DfuFlasher

/-- the end of a line as the C library writes it, with a carriage return on Windows -/
def eol (windows : Bool) : List UInt8 := if windows then [13, 10] else [10]

/-- the bytes of lines -/
def lineBytes (windows : Bool) (lines : List String) : List UInt8 :=
  lines.flatMap fun line => Device.utf8 line ++ eol windows

/-- the output of `r` comes in `pieces`, the rest of it with the end `x` -/
structure Ran (windows : Bool) (r : HelperRun) (pieces : List (List UInt8)) (x : Exit) : Prop where
  output : pieces.flatten ++ x.output = lineBytes windows r.out
  exitCode : x.exitCode = r.exitCode
  exitStatus : x.exitStatus = .normalExit

def WholeLines (windows : Bool) (r : HelperRun) (pieces : List (List UInt8)) (x : Exit) : Prop :=
  ∃ (groups : List (List String)) (rest : List String), groups.flatten ++ rest = r.out ∧
    pieces = groups.map (lineBytes windows) ∧ x.output = lineBytes windows rest

/-! ## What the helper does -/

section
variable {api : CubeApi} {binPath target : String}

/-- how a flash by the helper goes, where the board has SWAP_BANK `v` -/
inductive FlashRun (v : Int) (binPath target : String) (r : HelperRun) : Prop
  | refused (hexit : r.exitCode = 1)
    (hcalls : ∀ c ∈ r.calls, c = .disconnect ∨ c = .deleteInterfaceList)
  | failed (hexit : r.exitCode = 1)
    (hcalls : r.calls = [.downloadFile binPath (CubeApi.flashAddr (CubeApi.targetBank target v) v),
      .disconnect, .deleteInterfaceList])
  | done (hexit : r.exitCode = 0) (hout : r.out.getLast? = some "OK")
    (hcalls : r.calls = [.downloadFile binPath (CubeApi.flashAddr (CubeApi.targetBank target v) v),
      if (if CubeApi.targetBank target v = 1 then 0 else 1 : Int) ≠ v then
        .sendOptionBytesCmd (swapCommand (if CubeApi.targetBank target v = 1 then 0 else 1))
      else .execute (CubeApi.flashAddr (CubeApi.targetBank target v) v),
      .disconnect, .deleteInterfaceList])

theorem attach_cases (api : CubeApi) :
    (∃ r : HelperRun, api.attach = .error r ∧ r.exitCode = 1 ∧ r.calls = [.deleteInterfaceList]) ∨
      ∃ r : HelperRun, api.attach = .ok (r, readSwapBank api.initOptionBytesInterface) ∧
        r.calls = [] := by
  unfold CubeApi.attach
  cases api.devices with
  | nil => exact .inl ⟨_, rfl, rfl, rfl⟩
  | cons d devices =>
    dsimp only
    split
    · exact .inl ⟨_, rfl, rfl, rfl⟩
    · exact .inr ⟨_, rfl, rfl⟩

theorem getLast?_ok (r : HelperRun) :
    ((r.print ["PROGRESS:100", "OK"]).exit 0).out.getLast? = some "OK" := by
  simp [HelperRun.print, HelperRun.exit]

theorem cmdFlash_run (api : CubeApi) (binPath target : String) :
    FlashRun (readSwapBank api.initOptionBytesInterface) binPath target
      (api.cmdFlash binPath target) := by
  unfold CubeApi.cmdFlash
  rcases attach_cases api with ⟨r, hattach, hexit, hcalls⟩ | ⟨r, hattach, hcalls⟩
  · rw [hattach]
    refine .refused hexit fun c hc => ?_
    rw [hcalls] at hc
    exact .inr (List.mem_singleton.mp hc)
  · rw [hattach]
    generalize readSwapBank api.initOptionBytesInterface = v
    dsimp only
    split
    · refine .refused rfl fun c hc => ?_
      have hc' : c ∈ r.calls ++ [.disconnect, .deleteInterfaceList] := hc
      rw [hcalls] at hc'
      simpa using hc'
    · split
      · refine .failed rfl ?_
        show r.calls ++ _ ++ _ = _
        rw [hcalls]
        rfl
      · refine .done rfl ?_ ?_
        · exact getLast?_ok _
        · by_cases hchange :
              (if CubeApi.targetBank target v = 1 then 0 else 1 : Int) ≠ v
          · rw [if_pos hchange, if_pos hchange]
            show r.calls ++ _ ++ _ ++ _ = _
            rw [hcalls]
            rfl
          · rw [if_neg hchange, if_neg hchange]
            show r.calls ++ _ ++ _ ++ _ = _
            rw [hcalls]
            rfl

end

/-! ## What becomes of the board -/

section
variable {ι β : Type} {write : ι → β → β} {files : String → Option ι} {b : Board β}

def Board.bank (n : Nat) (b : Board β) : β := if n = 2 then b.bank2 else b.bank1

/-- the physical bank that the user asks for -/
def FlashTarget.bank (target : FlashTarget) (b : Board β) : Nat :=
  if target = .bank2 ∨ target = .inactive ∧ b.swapBank = false then 2 else 1

/-- bank `n` holds the image, and the other bank is as it was -/
structure Flashed (write : ι → β → β) (image : ι) (n : Nat) (b b' : Board β) : Prop where
  image : b'.bank n = write image (b.bank n)
  other : b'.bank (3 - n) = b.bank (3 - n)

/-- but for bank `n` nothing has changed -/
structure Spared (n : Nat) (b b' : Board β) : Prop where
  other : b'.bank (3 - n) = b.bank (3 - n)
  boots : b'.boots = b.boots

theorem bank_cases (target : FlashTarget) (b : Board β) :
    target.bank b = 1 ∨ target.bank b = 2 := by
  unfold FlashTarget.bank
  split
  · exact .inr rfl
  · exact .inl rfl

/-- the download of the helper reaches the bank asked for -/
theorem download_bank (image : ι) (target : FlashTarget) (b : Board β) :
    b.download write image (CubeApi.flashAddr (CubeApi.targetBank target.name
      (if b.swapBank then 1 else 0)) (if b.swapBank then 1 else 0)) =
      if target.bank b = 1 then { b with bank1 := write image b.bank1 }
      else { b with bank2 := write image b.bank2 } := by
  rw [download_flashAddr, targetBank_name]
  rfl

/-- the option byte command that lets bank `n` boot -/
def bootCommand (n : Nat) : String := swapCommand (if n = 1 then 0 else 1)

variable {takes : String → Bool}

theorem perform_closing {calls : List ApiCall}
    (h : ∀ c ∈ calls, c = .disconnect ∨ c = .deleteInterfaceList) :
    calls.foldl (Board.perform write files takes) b = b := by
  induction calls with
  | nil => rfl
  | cons c calls ih =>
    have hc : b.perform write files takes c = b := by
      rcases h c List.mem_cons_self with rfl | rfl <;> rfl
    rw [List.foldl_cons, hc]
    exact ih fun c' hc' => h c' (List.mem_cons_of_mem c hc')

variable {image : ι} {target : FlashTarget} {binPath : String} {r : HelperRun}
  (hfile : files binPath = some image)
include hfile

theorem perform_download : b.perform write files takes (.downloadFile binPath (CubeApi.flashAddr
      (CubeApi.targetBank target.name (if b.swapBank then 1 else 0))
      (if b.swapBank then 1 else 0))) =
    if target.bank b = 1 then { b with bank1 := write image b.bank1 }
    else { b with bank2 := write image b.bank2 } := by
  rw [← download_bank]
  unfold Board.perform
  dsimp only
  rw [hfile]

theorem spared_of_run
    (h : FlashRun (if b.swapBank then 1 else 0) binPath target.name r) (hexit : r.exitCode ≠ 0) :
    Spared (target.bank b) b (r.calls.foldl (Board.perform write files takes) b) := by
  cases h with
  | refused _ hcalls =>
    rw [perform_closing hcalls]
    exact ⟨rfl, rfl⟩
  | failed _ hcalls =>
    rw [hcalls, List.foldl_cons, perform_download hfile, perform_closing (by simp)]
    rcases bank_cases target b with hbank | hbank
    · rw [hbank, if_pos rfl]
      exact ⟨rfl, rfl⟩
    · rw [hbank, if_neg (by decide)]
      exact ⟨rfl, rfl⟩
  | done hzero => exact absurd hzero hexit

/-- the download, and then the option byte command as far as it is taken over -/
theorem flashed_of_run
    (h : FlashRun (if b.swapBank then 1 else 0) binPath target.name r) (hexit : r.exitCode = 0) :
    Flashed write image (target.bank b) b (r.calls.foldl (Board.perform write files takes) b) ∧
      ((r.calls.foldl (Board.perform write files takes) b).boots = target.bank b ↔
        b.boots = target.bank b ∨ takes (bootCommand (target.bank b)) = true) := by
  cases h with
  | refused hone => exact absurd (hone.symm.trans hexit) (by decide)
  | failed hone => exact absurd (hone.symm.trans hexit) (by decide)
  | done _ _ hcalls =>
    have hphysical : CubeApi.targetBank target.name (if b.swapBank then 1 else 0) =
        target.bank b := targetBank_name target b.swapBank
    rw [hcalls, List.foldl_cons, List.foldl_cons, perform_download hfile, hphysical]
    rcases bank_cases target b with hbank | hbank
    · rw [hbank, if_pos rfl, if_pos rfl]
      have hlast := perform_final write files takes { b with bank1 := write image b.bank1 }
        (CubeApi.flashAddr 1 (if b.swapBank then 1 else 0)) 0 false rfl
      rw [hlast, perform_closing (by simp), show swapCommand 0 = bootCommand 1 from rfl]
      generalize takes (bootCommand 1) = taken
      cases taken with
      | true => exact ⟨⟨rfl, rfl⟩, iff_of_true rfl (.inr rfl)⟩
      | false => exact ⟨⟨rfl, rfl⟩, (or_iff_left Bool.false_ne_true).symm⟩
    · rw [hbank, if_neg (show ¬ 2 = 1 by decide), if_neg (show ¬ 2 = 1 by decide)]
      have hlast := perform_final write files takes { b with bank2 := write image b.bank2 }
        (CubeApi.flashAddr 2 (if b.swapBank then 1 else 0)) 1 true rfl
      rw [hlast, perform_closing (by simp), show swapCommand 1 = bootCommand 2 from rfl]
      generalize takes (bootCommand 2) = taken
      cases taken with
      | true => exact ⟨⟨rfl, rfl⟩, iff_of_true rfl (.inr rfl)⟩
      | false => exact ⟨⟨rfl, rfl⟩, (or_iff_left Bool.false_ne_true).symm⟩

end

/-! ## What the flasher reads -/

theorem okLine_mem {windows : Bool} (front : List String) :
    okLine ∈ trimmedLines (lineBytes windows (front ++ ["OK"])) := by
  have hok : okLine ∈ trimmedLines (lineBytes windows ["OK"]) := by
    cases windows <;> decide +kernel
  have hbom : utf8bom.isPrefixOf (lineBytes windows ["OK"]) = false := by
    cases windows <;> decide +kernel
  rcases List.eq_nil_or_concat front with rfl | ⟨before, line, rfl⟩
  · exact hok
  · have hcut : ∃ bytes, lineBytes windows (before ++ [line]) = bytes ++ [10] := by
      cases windows with
      | true =>
        exact ⟨lineBytes true before ++ (Device.utf8 line ++ [13]), by simp [lineBytes, eol]⟩
      | false => exact ⟨lineBytes false before ++ Device.utf8 line, by simp [lineBytes, eol]⟩
    obtain ⟨bytes, hbytes⟩ := hcut
    have happend : lineBytes windows (before ++ [line] ++ ["OK"]) =
        bytes ++ 10 :: lineBytes windows ["OK"] := by
      unfold lineBytes at hbytes ⊢
      rw [List.flatMap_append, hbytes, List.append_assoc]
      rfl
    rw [List.concat_eq_append, happend, trimmedLines_cut bytes _ hbom]
    exact List.mem_append_right _ hok

/-- where no line is cut, the last one is read whole -/
theorem WholeLines.okLine {windows : Bool} {r : HelperRun} {pieces : List (List UInt8)} {x : Exit}
    (h : WholeLines windows r pieces x) (hout : r.out.getLast? = some "OK") :
    okLine ∈ pieceLines pieces ++ trimmedLines x.output := by
  obtain ⟨groups, rest, hall, rfl, hrest⟩ := h
  rw [← hall] at hout
  rcases List.eq_nil_or_concat rest with rfl | ⟨front, last, rfl⟩
  · rw [List.append_nil, List.getLast?_flatten] at hout
    obtain ⟨group, hgroup, hlast⟩ := List.exists_of_findSome?_eq_some hout
    obtain ⟨front, rfl⟩ := List.getLast?_eq_some_iff.mp hlast
    have hpiece : lineBytes windows (front ++ ["OK"]) ∈ groups.map (lineBytes windows) :=
      List.mem_map_of_mem (List.mem_reverse.mp hgroup)
    exact List.mem_append_left _ (List.mem_flatMap.mpr ⟨_, hpiece, okLine_mem front⟩)
  · rw [List.concat_eq_append, ← List.append_assoc, List.getLast?_concat] at hout
    obtain rfl := Option.some.inj hout
    rw [hrest, List.concat_eq_append]
    exact List.mem_append_right _ (okLine_mem front)

/-! ## From the button to the board -/

/-- what `ending` shows -/
theorem ending_spec (x : Exit) (ok : Prop) [Decidable ok] (progress : Int) (failure : String) :
    (ending x ok progress failure).error = !(ending x ok progress failure).complete ∧
      ((ending x ok progress failure).complete = true ↔
        x.exitStatus ≠ .crashExit ∧ x.exitCode = 0 ∧ ok) := by
  unfold ending
  by_cases hcrash : x.exitStatus = .crashExit
  · rw [if_pos hcrash]
    exact ⟨rfl, iff_of_false Bool.false_ne_true fun h => h.1 hcrash⟩
  · rw [if_neg hcrash]
    by_cases hgood : x.exitCode = 0 ∧ ok
    · rw [if_pos hgood]
      exact ⟨rfl, iff_of_true rfl ⟨hcrash, hgood⟩⟩
    · rw [if_neg hgood]
      exact ⟨rfl, iff_of_false Bool.false_ne_true fun h => hgood h.2⟩

/-- what is shown of a flash, and what has become of the board; `answer` is that to the option byte
command, and `taken` whether the device took it over -/
structure FlashShown {ι β : Type} (write : ι → β → β) (image : ι) (n : Nat) (answer : Int)
    (taken : Prop) (b b' : Board β) (exitCode : Int) (s : Shown) : Prop where
  /-- one of the two signals -/
  either : s.error = !s.complete
  complete : s.complete = true → exitCode = 0
  flashed : exitCode = 0 → Flashed write image n b b'
  boots : exitCode = 0 → (b'.boots = n ↔ b.boots = n ∨ taken)
  answered : exitCode = 0 → answer = 0 → b'.boots = n
  spared : exitCode ≠ 0 → Spared n b b'

end QMon.Updater
