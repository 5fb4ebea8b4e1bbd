import QMonstatek.Lib.Tcl
import QMonstatek.Updater.FlashEnd
import QMonstatek.Updater.SwdRecovery

/-!
# The scripts of the SWD recovery

What OpenOCD does on the scripts the recovery passes it with `-c`.

`Chip`           the processor's two banks and the registers of its option bytes;
`Documented openOcd chip file holds dump`   OpenOCD's own commands do what they say, or fail;
`parse_recovery` and its like   the commands of a script, whatever path stands in it;
`run_quiet`, `run_unlock`, `run_option`   rules for the rows of commands that the scripts share.

`recovery_run`, `swap_run`, `verify_run`, `clone_run`: for every path with matching braces, and from
every setting of SWAP_BANK, a script ends; where its exit code is 0 the board is as its button says,
and where it is not, what the script has no business with is untouched.
-/

namespace QMon.Updater
open Tcl (Shell Post Token Command plain word dollar bracket braces Balanced parse eval run)

/-! ## The processor -/

def NSKEYR : Nat := 0x40022008
def OPTKEYR : Nat := 0x4002200C
def OPTCR : Nat := 0x4002201C
def OPTSR_PRG : Nat := 0x40022054

structure Chip (β : Type) where
  bank1 : β
  bank2 : β
  /-- OPTSR_CUR, with SWAP_BANK in bit 31 -/
  optsr : Nat
  /-- OPTSR_PRG -/
  prg : Nat
  /-- what was written to NSKEYR, the last of it first -/
  nskeys : List Nat
  optkeys : List Nat
  deriving DecidableEq, Repr

namespace Chip
variable {β : Type}

def board (c : Chip β) : Board β := ⟨c.bank1, c.bank2, c.optsr.testBit 31⟩

/-- the two keys of the flash and the two of the option bytes, each pair in its order -/
def unlocked (c : Chip β) : Bool :=
  c.nskeys.take 2 == [0xCDEF89AB, 0x45670123] && c.optkeys.take 2 == [0x4C5D6E7F, 0x08192A3B]

/-- a write to a register.  OPTSTRT, bit 1 of OPTCR, takes the option bytes over. -/
def poke (address value : Nat) (c : Chip β) : Chip β :=
  if address = NSKEYR then { c with nskeys := value :: c.nskeys }
  else if address = OPTKEYR then { c with optkeys := value :: c.optkeys }
  else if address = OPTSR_PRG then if c.unlocked then { c with prg := value } else c
  else if address = OPTCR then
    if value.testBit 1 ∧ c.unlocked = true then { c with optsr := c.prg } else c
  else c

/-- after `unlock` -/
def opened (c : Chip β) : Chip β :=
  { c with
    nskeys := 0xCDEF89AB :: 0x45670123 :: c.nskeys
    optkeys := 0x4C5D6E7F :: 0x08192A3B :: c.optkeys }

theorem unlocked_opened (c : Chip β) : c.opened.unlocked = true := rfl

theorem poke_prg {c : Chip β} (h : c.unlocked = true) (value : Nat) :
    c.poke OPTSR_PRG value = { c with prg := value } :=
  if_pos h

theorem poke_optstrt {c : Chip β} (h : c.unlocked = true) :
    c.poke OPTCR 2 = { c with optsr := c.prg } :=
  if_pos (show Nat.testBit 2 1 = true ∧ c.unlocked = true from ⟨by decide, h⟩)

theorem poke_banks (address value : Nat) (c : Chip β) :
    (c.poke address value).bank1 = c.bank1 ∧ (c.poke address value).bank2 = c.bank2 := by
  unfold poke
  repeat' split
  all_goals exact ⟨rfl, rfl⟩

end Chip

/-- the address the processor boots from, or that of the other half -/
def logical (boot : Bool) : String := if boot then "0x08000000" else "0x08100000"

/-- the physical bank there -/
def bankAt (boot swapBank : Bool) : Nat := if boot = swapBank then 2 else 1

/-! ## OpenOCD -/

section
variable {σ ι β : Type}

/-- neither the banks nor SWAP_BANK nor a file has changed -/
structure Same (chip : σ → Chip β) (file : σ → String → Option ι) (s s' : σ) : Prop where
  board : (chip s').board = (chip s).board
  file : file s' = file s

def SameBanks (chip : σ → Chip β) (s s' : σ) : Prop :=
  (chip s').bank1 = (chip s).bank1 ∧ (chip s').bank2 = (chip s).bank2

/-- neither bank 1 nor SWAP_BANK has changed -/
def SparesBank1 (chip : σ → Chip β) (s s' : σ) : Prop :=
  (chip s').bank1 = (chip s).bank1 ∧ (chip s').board.swapBank = (chip s).board.swapBank

/-- but for bank `n` nothing has changed -/
structure OnlyBank (chip : σ → Chip β) (file : σ → String → Option ι) (n : Nat) (s s' : σ) :
    Prop where
  other : (chip s').board.bank (3 - n) = (chip s).board.bank (3 - n)
  swapBank : (chip s').board.swapBank = (chip s).board.swapBank
  file : file s' = file s

/-- bank `n` holds the image of the file -/
def HoldsFile (holds : ι → β → Prop) (image : Option ι) (n : Nat) (b : Board β) : Prop :=
  ∃ i, image = some i ∧ holds i (b.bank n)

/-- commands that leave banks, option bytes and files alone -/
def quietCommands : List (List String) :=
  [["adapter", "speed", "2000"], ["init"], ["halt"], ["reset", "halt"], ["reset"],
    ["sleep", "500"]]

/-- Each command does what it says or fails.  `holds image bank` says that a bank begins with an
image, `dump` is the image of a whole bank. -/
structure Documented (openOcd : List String → σ → Tcl.Reply σ) (chip : σ → Chip β)
    (file : σ → String → Option ι) (holds : ι → β → Prop) (dump : β → ι) : Prop where
  quiet : ∀ words ∈ quietCommands, ∀ s, (openOcd words s).Meets
    ⟨fun _ s' => Same chip file s s', Same chip file s, fun _ _ => False⟩
  mww : ∀ address value a v, Tcl.number address.toList = some a → Tcl.number value.toList = some v →
    ∀ s, (openOcd ["mww", address, value] s).Meets
      ⟨fun _ s' => chip s' = (chip s).poke a v ∧ file s' = file s,
        SameBanks chip s, fun _ _ => False⟩
  mrw : ∀ s, (openOcd ["mrw", "0x40022050"] s).Meets
    ⟨fun text s' => Tcl.number text.toList = some (chip s).optsr ∧ chip s' = chip s ∧
        file s' = file s,
      Same chip file s, fun _ _ => False⟩
  massErase : ∀ s, (openOcd ["stm32h5x", "mass_erase", "0"] s).Meets
    ⟨fun _ s' => (chip s').board.swapBank = (chip s).board.swapBank ∧ file s' = file s,
      fun _ => True, fun _ _ => False⟩
  program : ∀ path boot s,
    let n := bankAt boot (chip s).board.swapBank
    (openOcd ["program", path, logical boot, "verify"] s).Meets
      ⟨fun _ s' => OnlyBank chip file n s s' ∧ HoldsFile holds (file s path) n (chip s').board,
        OnlyBank chip file n s, fun _ _ => False⟩
  /-- then a reset, and the end of OpenOCD -/
  programExit : ∀ path s,
    let n := bankAt true (chip s).board.swapBank
    (openOcd ["program", path, logical true, "verify", "reset", "exit"] s).Meets
      ⟨fun _ _ => False, OnlyBank chip file n s, fun code s' => OnlyBank chip file n s s' ∧
        (code = 0 → HoldsFile holds (file s path) n (chip s').board)⟩
  dumpImage : ∀ path boot s,
    let n := bankAt boot (chip s).board.swapBank
    (openOcd ["dump_image", path, logical boot, "0x100000"] s).Meets
      ⟨fun _ s' => (chip s').board = (chip s).board ∧
          file s' path = some (dump ((chip s).board.bank n)),
        fun s' => (chip s').board = (chip s).board, fun _ _ => False⟩
  verifyImage : ∀ path boot s,
    let n := bankAt boot (chip s).board.swapBank
    (openOcd ["verify_image", path, logical boot] s).Meets
      ⟨fun _ s' => Same chip file s s' ∧ HoldsFile holds (file s path) n (chip s).board,
        Same chip file s, fun _ _ => False⟩
  /-- a dump is the whole bank -/
  dumped : ∀ b b', holds (dump b) b' → b' = b

end

/-! ## The scripts read -/

/-- `unlock`: addresses and values -/
def unlockWrites : List (String × String) :=
  [("0x40022008", "0x45670123"), ("0x40022008", "0xCDEF89AB"), ("0x4002200C", "0x08192A3B"),
    ("0x4002200C", "0x4C5D6E7F")]

def unlockCommands : List Command := unlockWrites.map fun w => plain ["mww", w.1, w.2]

/-- `set name [mrw 0x40022050]` -/
def setOptsr (name : String) : Command := [word "set", word name, bracket "mrw 0x40022050"]

/-- the new option bytes from a variable, and OPTSTRT -/
def programCommands (name : String) : List Command :=
  [[word "mww", word "0x40022054", dollar name], plain ["mww", "0x4002201C", "0x00000002"]]

theorem parse_swap : parse swapCommands.toList = some
    ([["adapter", "speed", "2000"], ["init"], ["halt"]].map plain ++ (unlockCommands ++
      (setOptsr "val" :: [word "set", word "new", bracket "expr \x7b$val ^ 0x80000000\x7d"] ::
        (programCommands "new" ++ ([["sleep", "500"]].map plain ++ [plain ["exit"]]))))) := by
  unfold swapCommands unlock
  simp only [String.toList_append]
  decide +kernel

/-- one of the two scripts of the verification -/
def verifyBody (path address : String) : String :=
  "  verify_image \x7b" ++ path ++ "\x7d " ++ address

/-- what stands in front of them -/
def verifyFront : String :=
  "adapter speed 2000; init; " ++ ("halt; " ++ ("set optr [mrw 0x40022050]; " ++
    "if \x7b$optr & 0x80000000\x7d \x7b"))

theorem verifyBody_toList (path address : String) : (verifyBody path address).toList =
    "  verify_image \x7b".toList ++ (path.toList ++ '\x7d' :: ' ' :: address.toList) := by
  unfold verifyBody
  rw [String.toList_append, String.toList_append, String.toList_append, List.append_assoc,
    List.append_assoc]
  rfl

theorem parse_toggled : parse "expr \x7b$val ^ 0x80000000\x7d".toList =
    some [[word "expr", braces "$val ^ 0x80000000"]] := by decide

theorem parse_cleared : parse "expr \x7b$optr & 0x7FFFFFFF\x7d".toList =
    some [[word "expr", braces "$optr & 0x7FFFFFFF"]] := by decide

theorem testBit_toggled (optsr : Nat) :
    (optsr ^^^ 0x80000000).testBit 31 = !optsr.testBit 31 := by
  rw [Nat.testBit_xor, show Nat.testBit 0x80000000 31 = true by decide, Bool.xor_true]

theorem testBit_cleared (optsr : Nat) : (optsr &&& 0x7FFFFFFF).testBit 31 = false := by
  rw [Nat.testBit_and, show Nat.testBit 0x7FFFFFFF 31 = false by decide, Bool.and_false]

theorem swapBank_ne_zero (optsr : Nat) : optsr &&& 0x80000000 ≠ 0 ↔ optsr.testBit 31 = true := by
  have hbit (i : Nat) : (optsr &&& 2 ^ 31).testBit i = (optsr.testBit i && decide (31 = i)) := by
    rw [Nat.testBit_and, Nat.testBit_two_pow]
  constructor
  · intro hne
    by_contra hclear
    refine hne (Nat.eq_of_testBit_eq fun i => ?_)
    show (optsr &&& 2 ^ 31).testBit i = _
    rw [hbit, Nat.zero_testBit]
    by_cases hi : 31 = i
    · rw [← hi, Bool.eq_false_iff.mpr hclear, Bool.false_and]
    · rw [decide_eq_false hi, Bool.and_false]
  · intro hset hzero
    have hbit₃₁ := hbit 31
    rw [show optsr &&& 2 ^ 31 = 0 from hzero, hset, Nat.zero_testBit] at hbit₃₁
    exact Bool.false_ne_true hbit₃₁

section
variable {vars : String → Option String} {text : String} {optsr : Nat}
  (hn : Tcl.number text.toList = some optsr)
include hn

theorem exprValue_toggled (hv : vars "val" = some text) :
    Tcl.exprValue vars "$val ^ 0x80000000".toList = some (optsr ^^^ 0x80000000) :=
  Tcl.exprValue_mask (by decide : _ = ['$' :: "val".toList, ['^'], "0x80000000".toList])
    rfl hv hn (by decide) (by decide +kernel)

theorem exprValue_cleared (hv : vars "optr" = some text) :
    Tcl.exprValue vars "$optr & 0x7FFFFFFF".toList = some (optsr &&& 0x7FFFFFFF) :=
  Tcl.exprValue_mask (by decide : _ = ['$' :: "optr".toList, ['&'], "0x7FFFFFFF".toList])
    rfl hv hn (by decide) (by decide +kernel)

theorem exprValue_swapBank (hv : vars "optr" = some text) :
    Tcl.exprValue vars "$optr & 0x80000000".toList = some (optsr &&& 0x80000000) :=
  Tcl.exprValue_mask (by decide : _ = ['$' :: "optr".toList, ['&'], "0x80000000".toList])
    rfl hv hn (by decide) (by decide +kernel)

end

section
variable {path : String} (hpath : Balanced path.toList)
include hpath

theorem parse_recovery : parse (recoveryCommands path).toList = some
    ([["adapter", "speed", "2000"], ["init"], ["halt"]].map plain ++ (unlockCommands ++
      (setOptsr "optr" ::
        [word "set", word "cleared", bracket "expr \x7b$optr & 0x7FFFFFFF\x7d"] ::
        (programCommands "cleared" ++ ([["sleep", "500"], ["halt"]].map plain ++
          [plain ["stm32h5x", "mass_erase", "0"]])))) ++
      [[word "program", braces path, word (logical true), word "verify", word "reset",
        word "exit"]]) := by
  have hbehind : Tcl.scan .closed " 0x08000000 verify reset exit".toList =
      some ([word (logical true), word "verify", word "reset", word "exit"].map .word) := by
    decide
  have hclose : "\x7d 0x08000000 verify reset exit".toList =
      '\x7d' :: " 0x08000000 verify reset exit".toList := by decide
  refine Tcl.parse_of_scan ?_ (by decide) (List.cons_ne_nil _ _)
  unfold recoveryCommands unlock
  simp only [String.toList_append]
  rw [hclose, List.append_assoc, Tcl.scan_braced (_ ++ [.word (word "program")]) ?_ hpath hbehind,
    List.append_assoc]
  · rfl
  · decide +kernel

theorem balanced_verifyBody (boot : Bool) : Balanced (verifyBody path (logical boot)).toList := by
  rw [verifyBody_toList]
  refine hpath.within (by decide : _ = some 1) ?_
  cases boot <;> decide

theorem parse_verifyBody (boot : Bool) : parse (verifyBody path (logical boot)).toList =
    some ([] ++ [[word "verify_image", braces path, word (logical boot)]]) := by
  have hbehind : Tcl.scan .closed (' ' :: (logical boot).toList) =
      some ([word (logical boot)].map .word) := by
    cases boot <;> decide
  refine Tcl.parse_of_scan ?_ (by decide) (List.cons_ne_nil _ _)
  rw [verifyBody_toList, Tcl.scan_braced [.word (word "verify_image")] ?_ hpath hbehind]
  · rfl
  · decide

theorem parse_verify (boot : Bool) :
    parse (verifyCommands path (logical (!boot)) (logical boot)).toList = some
      ([["adapter", "speed", "2000"], ["init"], ["halt"]].map plain ++ [setOptsr "optr",
        [word "if", braces "$optr & 0x80000000", braces (verifyBody path (logical (!boot))),
          word "else", braces (verifyBody path (logical boot))]] ++ [plain ["exit"]]) := by
  have helse : Tcl.scan .closed (" else \x7b".toList ++
      ((verifyBody path (logical boot)).toList ++ '\x7d' :: "; exit".toList)) =
      some ([.word (word "else")] ++ .word (braces (verifyBody path (logical boot))) ::
        [.separator, .word (word "exit")]) :=
    Tcl.scan_braced _ (by decide) (balanced_verifyBody hpath boot) (by decide +kernel)
  have htext : verifyCommands path (logical (!boot)) (logical boot) = verifyFront ++
      (verifyBody path (logical (!boot)) ++ ("\x7d else \x7b" ++
        (verifyBody path (logical boot) ++ ("\x7d; " ++ "exit")))) := by
    unfold verifyCommands verifyBody verifyFront
    simp only [String.append_assoc]
  have hopen : "\x7d else \x7b".toList = '\x7d' :: " else \x7b".toList := by decide
  have hexit : "\x7d; ".toList ++ "exit".toList = '\x7d' :: "; exit".toList := by decide
  have hfront : Tcl.reads .gap verifyFront.toList = some (Tcl.tokensOf
      ([["adapter", "speed", "2000"], ["init"], ["halt"]].map plain ++ [setOptsr "optr"]) ++
        [.word (word "if"), .word (braces "$optr & 0x80000000")], .brace 0 []) := by
    unfold verifyFront
    simp only [String.toList_append]
    decide
  have hscan := Tcl.scan_braced _ hfront (balanced_verifyBody hpath (!boot)) helse
  refine Tcl.parse_of_scan ?_ ?_ (List.cons_ne_nil _ _)
  · rw [htext, String.toList_append, String.toList_append, String.toList_append,
      String.toList_append, String.toList_append, hopen, hexit]
    exact hscan
  · simp [plain, setOptsr]

end

/-- the addresses of the two physical banks in variables -/
def setBanks (boot : Bool) : String :=
  "  set bank1 " ++ logical (!boot) ++ "; set bank2 " ++ logical boot

theorem parse_setBanks (boot : Bool) : parse (setBanks boot).toList =
    some [plain ["set", "bank1", logical (!boot)], plain ["set", "bank2", logical boot]] := by
  cases boot <;> decide

/-- what stands in front of the first file name -/
def cloneFront : String :=
  "adapter speed 2000; init; " ++ ("reset halt; " ++ ("set optr [mrw 0x40022050]; " ++
    ("if \x7b$optr & 0x80000000\x7d \x7b" ++ ("  set bank1 0x08100000; set bank2 0x08000000" ++
      ("\x7d else \x7b" ++ ("  set bank1 0x08000000; set bank2 0x08100000" ++ ("\x7d; " ++
        "dump_image \x7b")))))))

theorem parse_clone {path : String} (hpath : Balanced path.toList) :
    parse (cloneCommands path).toList = some
      ([["adapter", "speed", "2000"], ["init"], ["reset", "halt"]].map plain ++ [setOptsr "optr",
        [word "if", braces "$optr & 0x80000000", braces (setBanks true), word "else",
          braces (setBanks false)],
        [word "dump_image", braces path, dollar "bank1", word "0x100000"],
        [word "program", braces path, dollar "bank2", word "verify"], plain ["reset"]] ++
        [plain ["exit"]]) := by
  have hlast : Tcl.scan .closed " $bank2 verify; reset; exit".toList = some
      ([.word (dollar "bank2"), .word (word "verify"), .separator, .word (word "reset"),
        .separator, .word (word "exit")]) := by decide
  have hbetween : Tcl.scan .closed (" $bank1 0x100000; program \x7b".toList ++
      (path.toList ++ '\x7d' :: " $bank2 verify; reset; exit".toList)) = some
      (([.word (dollar "bank1"), .word (word "0x100000"), .separator, .word (word "program")] :
        List Token) ++ .word (braces path) :: _) :=
    Tcl.scan_braced _ (by decide) hpath hlast
  have hclose : "\x7d $bank1 0x100000; ".toList ++ "program \x7b".toList =
      '\x7d' :: " $bank1 0x100000; program \x7b".toList := by decide
  have hend : "\x7d $bank2 verify; ".toList ++ "reset; exit".toList =
      '\x7d' :: " $bank2 verify; reset; exit".toList := by decide
  have htext : cloneCommands path = cloneFront ++ (path ++ (("\x7d $bank1 0x100000; " ++
      "program \x7b") ++ (path ++ ("\x7d $bank2 verify; " ++ "reset; exit")))) := by
    unfold cloneCommands cloneFront
    simp only [String.append_assoc]
  have hfront : Tcl.reads .gap cloneFront.toList = some (Tcl.tokensOf
      ([["adapter", "speed", "2000"], ["init"], ["reset", "halt"]].map plain ++ [setOptsr "optr",
        [word "if", braces "$optr & 0x80000000", braces (setBanks true), word "else",
          braces (setBanks false)]]) ++ [.word (word "dump_image")], .brace 0 []) := by
    unfold cloneFront
    simp only [String.toList_append]
    decide +kernel
  have hscan := Tcl.scan_braced _ hfront hpath hbetween
  refine Tcl.parse_of_scan ?_ (by simp [plain, setOptsr]) (List.cons_ne_nil _ _)
  rw [htext, String.toList_append, String.toList_append, String.toList_append,
    String.toList_append, String.toList_append, String.toList_append, hclose, hend]
  exact hscan

/-! ## One command -/

/-- the address and the value as numbers -/
def Writes (w : String × String) (p : Nat × Nat) : Prop :=
  Tcl.number w.1.toList = some p.1 ∧ Tcl.number w.2.toList = some p.2

theorem writes_unlock : List.Forall₂ Writes unlockWrites [(NSKEYR, 0x45670123),
    (NSKEYR, 0xCDEF89AB), (OPTKEYR, 0x08192A3B), (OPTKEYR, 0x4C5D6E7F)] :=
  .cons ⟨by decide, by decide +kernel⟩ (.cons ⟨by decide +kernel, by decide +kernel⟩
    (.cons ⟨by decide, by decide +kernel⟩ (.cons ⟨by decide +kernel, by decide +kernel⟩
      .nil)))

section
variable {σ ι β : Type} {openOcd : List String → σ → Tcl.Reply σ} {chip : σ → Chip β}
  {file : σ → String → Option ι} {holds : ι → β → Prop} {dump : β → ι}

theorem Same.trans {s s' s'' : σ} (h : Same chip file s s') (h' : Same chip file s' s'') :
    Same chip file s s'' :=
  ⟨h'.board.trans h.board, h'.file.trans h.file⟩

theorem SameBanks.trans {s s' s'' : σ} (h : SameBanks chip s s') (h' : SameBanks chip s' s'') :
    SameBanks chip s s'' :=
  ⟨h'.1.trans h.1, h'.2.trans h.2⟩

theorem Same.banks {s s' : σ} (h : Same chip file s s') : SameBanks chip s s' :=
  ⟨congrArg Board.bank1 h.board, congrArg Board.bank2 h.board⟩

theorem Same.sparesBank1 {s s' : σ} (h : Same chip file s s') : SparesBank1 chip s s' :=
  ⟨congrArg Board.bank1 h.board, congrArg Board.swapBank h.board⟩

theorem SparesBank1.trans {s s' s'' : σ} (h : SparesBank1 chip s s')
    (h' : SparesBank1 chip s' s'') : SparesBank1 chip s s'' :=
  ⟨h'.1.trans h.1, h'.2.trans h.2⟩

variable (hdoc : Documented openOcd chip file holds dump) {s : Shell σ} {Q : Post (Shell σ)}
  {ev : Tcl.Eval σ} {cs : List Command} {v : String}
include hdoc

theorem run_quiet {words : List (List String)} (hwords : words ⊆ quietCommands)
    (herror : ∀ t, Same chip file s.host t → Q.error (s.at t))
    (hnext : ∀ v t, Same chip file s.host t → (run openOcd ev v cs (s.at t)).Meets Q) :
    (run openOcd ev v (words.map plain ++ cs) s).Meets Q := by
  induction words generalizing s v with
  | nil => exact hnext v s.host ⟨rfl, rfl⟩
  | cons ws words ih =>
    have hws : ws ∈ quietCommands := hwords List.mem_cons_self
    have hstep := hdoc.quiet ws hws s.host
    obtain ⟨name, args, rfl, hname⟩ : ∃ name args, ws = name :: args ∧ name ∉ Tcl.builtins := by
      unfold quietCommands at hws
      simp only [List.mem_cons, List.not_mem_nil, or_false] at hws
      rcases hws with rfl | rfl | rfl | rfl | rfl | rfl <;> exact ⟨_, _, rfl, by decide⟩
    refine Tcl.run_host (Tcl.wordsOf_plain _) hname (hstep.imp (fun v t h => ?_) herror
      fun _ _ h => h.elim)
    refine ih (fun w hw => hwords (List.mem_cons_of_mem _ hw)) (fun u hu => ?_) fun w u hu => ?_
    · exact herror u (h.trans hu)
    · exact hnext w u (h.trans hu)

theorem run_mww {c : Command} {address value : String} {a n : Nat}
    (hwords : Tcl.wordsOf s.vars c = some ["mww", address, value])
    (ha : Tcl.number address.toList = some a) (hn : Tcl.number value.toList = some n)
    (herror : ∀ t, SameBanks chip s.host t → Q.error (s.at t))
    (hnext : ∀ v t, chip t = (chip s.host).poke a n → file t = file s.host →
      (run openOcd ev v cs (s.at t)).Meets Q) :
    (run openOcd ev v (c :: cs) s).Meets Q :=
  Tcl.run_host hwords (by decide) ((hdoc.mww address value a n ha hn s.host).imp
    (fun v t h => hnext v t h.1 h.2) herror fun _ _ h => h.elim)

/-- a row of writes -/
theorem run_writes {writes : List (String × String)} {pokes : List (Nat × Nat)}
    (hw : List.Forall₂ Writes writes pokes)
    (herror : ∀ t, SameBanks chip s.host t → Q.error (s.at t))
    (hnext : ∀ v t, chip t = pokes.foldl (fun c p => c.poke p.1 p.2) (chip s.host) →
      file t = file s.host → (run openOcd ev v cs (s.at t)).Meets Q) :
    (run openOcd ev v ((writes.map fun w => plain ["mww", w.1, w.2]) ++ cs) s).Meets Q := by
  induction hw generalizing s v with
  | nil => exact hnext v s.host rfl rfl
  | @cons w p writes pokes hwp hw ih =>
    refine run_mww hdoc (Tcl.wordsOf_plain _) hwp.1 hwp.2 herror fun v t ht hf => ?_
    have hbanks : SameBanks chip s.host t := by
      unfold SameBanks
      rw [ht]
      exact Chip.poke_banks ..
    refine ih (fun u hu => herror u (hbanks.trans hu)) fun v u hu hfu => hnext v u ?_ ?_
    · rw [hu, List.foldl_cons, ← ht]
      rfl
    · exact hfu.trans hf

theorem run_unlock (herror : ∀ t, SameBanks chip s.host t → Q.error (s.at t))
    (hnext : ∀ v t, chip t = (chip s.host).opened → file t = file s.host →
      (run openOcd ev v cs (s.at t)).Meets Q) :
    (run openOcd ev v (unlockCommands ++ cs) s).Meets Q :=
  run_writes hdoc writes_unlock herror hnext

/-- SWAP_BANK as it is, in a variable -/
theorem run_setOptsr {n : Nat} (name : String)
    (herror : ∀ t, Same chip file s.host t → Q.error (s.at t))
    (hnext : ∀ text t, Tcl.number text.toList = some (chip s.host).optsr → chip t = chip s.host →
      file t = file s.host →
      (run openOcd (eval openOcd (n + 1)) text cs ((s.at t).assign name text)).Meets Q) :
    (run openOcd (eval openOcd (n + 1)) v (setOptsr name :: cs) s).Meets Q := by
  have hparse : parse "mrw 0x40022050".toList = some [plain ["mrw", "0x40022050"]] := by
    decide
  refine Tcl.run_set ?_
  rw [Tcl.eval_succ openOcd n s hparse]
  exact Tcl.run_host (Tcl.wordsOf_plain _) (by decide) ((hdoc.mrw s.host).imp
    (fun text t h => hnext text t h.1 h.2.1 h.2.2) herror fun _ _ h => h.elim)

/-- option bytes that are taken over -/
theorem run_programCommands {name : String} {m : Nat} (hvar : s.vars name = some (toString m))
    (hopen : (chip s.host).unlocked = true)
    (herror : ∀ t, SameBanks chip s.host t → Q.error (s.at t))
    (hnext : ∀ v t, chip t = { chip s.host with prg := m, optsr := m } →
      file t = file s.host → (run openOcd ev v cs (s.at t)).Meets Q) :
    (run openOcd ev v (programCommands name ++ cs) s).Meets Q := by
  have hwords : Tcl.wordsOf s.vars [word "mww", word "0x40022054", dollar name] =
      some ["mww", "0x40022054", toString m] :=
    Tcl.wordsOf_cons (Tcl.value_word _) (Tcl.wordsOf_cons (Tcl.value_word _)
      (Tcl.wordsOf_cons (Tcl.value_dollar hvar) rfl))
  refine run_mww hdoc hwords (by decide : _ = some OPTSR_PRG) (Tcl.number_toString m)
    herror fun v t ht hf => ?_
  rw [Chip.poke_prg hopen] at ht
  have hbanks : SameBanks chip s.host t := by
    unfold SameBanks
    rw [ht]
    exact ⟨rfl, rfl⟩
  refine run_mww hdoc (Tcl.wordsOf_plain _) (by decide : _ = some OPTCR)
    (by decide : _ = some 2) (fun u hu => herror u (hbanks.trans hu)) fun v u hu hfu => ?_
  refine hnext v u ?_ (hfu.trans hf)
  have hopen' : (chip t).unlocked = true := by
    rw [ht]
    exact hopen
  rw [hu, show (s.at t).host = t from rfl, Chip.poke_optstrt hopen', ht]

/-- SWAP_BANK from what it was: the option bytes are read, worked out and taken over -/
theorem run_option {n : Nat} {words : List (List String)} {name new script e : String}
    (f : Nat → Nat) (g : Bool → Bool) (hquiet : words ⊆ quietCommands)
    (hparse : parse script.toList = some [[word "expr", braces e]])
    (hvalue : ∀ (vars : String → Option String) text optsr, Tcl.number text.toList = some optsr →
      vars name = some text → Tcl.exprValue vars e.toList = some (f optsr))
    (hbit : ∀ optsr : Nat, (f optsr).testBit 31 = g (optsr.testBit 31))
    (herror : ∀ u : Shell σ, SameBanks chip s.host u.host → Q.error u)
    (hnext : ∀ v (u : Shell σ), (chip u.host).board =
        { (chip s.host).board with swapBank := g (chip s.host).board.swapBank } →
      file u.host = file s.host → (run openOcd (eval openOcd (n + 1)) v cs u).Meets Q) :
    (run openOcd (eval openOcd (n + 1)) v (words.map plain ++ (unlockCommands ++
      (setOptsr name :: [word "set", word new, bracket script] :: (programCommands new ++ cs))))
      s).Meets Q := by
  refine run_quiet hdoc hquiet (fun t h => herror _ h.banks) fun v t₁ h₁ => ?_
  refine run_unlock hdoc (fun t h => herror _ (h₁.banks.trans h)) fun v t₂ h₂ hf₂ => ?_
  have hboard₂ : (chip t₂).board = (chip s.host).board := by
    rw [h₂]
    exact h₁.board
  have hbanks₂ : SameBanks chip s.host t₂ :=
    ⟨congrArg Board.bank1 hboard₂, congrArg Board.bank2 hboard₂⟩
  refine run_setOptsr hdoc name (fun t h => herror _ (hbanks₂.trans h.banks))
    fun text t₃ htext h₃ hf₃ => ?_
  refine Tcl.run_set_expr script e (f (chip t₂).optsr) hparse
    (hvalue _ text _ htext (Tcl.Shell.assign_self ..)) ?_
  have h₃₂ : chip t₃ = chip t₂ := h₃
  have hopen : (chip t₃).unlocked = true := by
    rw [h₃₂, h₂]
    exact Chip.unlocked_opened _
  have hbanks₃ : SameBanks chip s.host t₃ := by
    unfold SameBanks
    rw [h₃₂]
    exact hbanks₂
  refine run_programCommands hdoc (Tcl.Shell.assign_self ..) hopen
    (fun t h => herror _ (hbanks₃.trans h)) fun v t₄ h₄ hf₄ => hnext v _ ?_ ?_
  · have hbit₂ : (f (chip t₂).optsr).testBit 31 = g (chip s.host).board.swapBank := by
      rw [hbit]
      exact congrArg (fun b => g b.swapBank) hboard₂
    calc (chip t₄).board
        = { (chip t₃).board with swapBank := (f (chip t₂).optsr).testBit 31 } :=
          congrArg Chip.board h₄
      _ = _ := by rw [h₃₂, hboard₂, hbit₂]
  · exact hf₄.trans (hf₃.trans (hf₂.trans h₁.file))

/-! ## Whole scripts -/

/-- **Swap Bank.** -/
theorem swap_run (n : Nat) (s : Shell σ) : (eval openOcd (n + 2) swapCommands s).Meets
    ⟨fun _ _ => False, fun s' => SameBanks chip s.host s'.host, fun code s' => code = 0 ∧
      (chip s'.host).board =
        { (chip s.host).board with swapBank := !(chip s.host).board.swapBank }⟩ := by
  rw [Tcl.eval_succ openOcd (n + 1) s parse_swap]
  refine run_option hdoc (· ^^^ 0x80000000) (!·) (by simp [quietCommands]) parse_toggled
    (fun vars text optsr hn hv => exprValue_toggled hn hv) testBit_toggled (fun u h => h)
    fun v u hboard hfile => ?_
  have hbanks : SameBanks chip s.host u.host :=
    ⟨congrArg Board.bank1 hboard, congrArg Board.bank2 hboard⟩
  exact run_quiet hdoc (by simp [quietCommands]) (fun t h => hbanks.trans h.banks)
    fun v t h => Tcl.run_exit ⟨rfl, h.board.trans hboard⟩

/-- **Recovery Flash.** -/
theorem recovery_run {path : String} (hpath : Balanced path.toList) (n : Nat) (s : Shell σ) :
    (eval openOcd (n + 2) (recoveryCommands path) s).Meets
      ⟨fun _ _ => False, fun _ => True, fun code s' => code = 0 →
        HoldsFile holds (file s.host path) 1 (chip s'.host).board ∧
          (chip s'.host).board.boots = 1⟩ := by
  rw [Tcl.eval_succ openOcd (n + 1) s (parse_recovery hpath)]
  simp only [List.append_assoc, List.cons_append]
  refine run_option hdoc (· &&& 0x7FFFFFFF) (fun _ => false) (by simp [quietCommands]) parse_cleared
    (fun vars text optsr hn hv => exprValue_cleared hn hv) testBit_cleared (fun u h => trivial)
    fun v u hboard hfile => ?_
  refine run_quiet hdoc (by simp [quietCommands]) (fun t h => trivial) fun v t₁ h₁ => ?_
  have hswap₁ : (chip t₁).board.swapBank = false := by
    rw [h₁.board, hboard]
  refine Tcl.run_host (Tcl.wordsOf_plain _) (by decide) ((hdoc.massErase t₁).imp
    (fun v t₂ h₂ => ?_) (fun t h => trivial) fun _ _ h => h.elim)
  have hswap₂ : (chip t₂).board.swapBank = false := h₂.1.trans hswap₁
  have hwords : Tcl.wordsOf (((u.at t₁).at t₂).vars) [word "program", braces path,
      word (logical true), word "verify", word "reset", word "exit"] =
      some ["program", path, logical true, "verify", "reset", "exit"] :=
    Tcl.wordsOf_cons (Tcl.value_word _) (Tcl.wordsOf_cons (Tcl.value_braces path)
      (Tcl.wordsOf_plain ["0x08000000", "verify", "reset", "exit"]))
  have hprogram := hdoc.programExit path t₂
  rw [hswap₂, show bankAt true false = 1 from rfl] at hprogram
  refine Tcl.run_host hwords (by decide) (hprogram.imp (fun _ _ h => h.elim) (fun t h => trivial)
    fun code t h hcode => ?_)
  have hboots : (chip t).board.swapBank = false := h.1.swapBank.trans hswap₂
  refine ⟨?_, ?_⟩
  · have hfiles : file t₂ = file s.host := h₂.2.trans (h₁.file.trans hfile)
    rw [← hfiles]
    exact h.2 hcode
  · unfold Board.boots
    show (if (chip t).board.swapBank then 2 else 1) = 1
    rw [hboots]
    rfl

/-- the two parts of a script that asks for SWAP_BANK -/
theorem run_ifSwapped {n : Nat} {words : List (List String)} (body : Bool → String)
    (hquiet : words ⊆ quietCommands)
    (herror : ∀ u : Shell σ, Same chip file s.host u.host → Q.error u)
    (hnext : ∀ u : Shell σ, Same chip file s.host u.host →
      (eval openOcd (n + 1) (body (chip s.host).board.swapBank) u).Meets { Q with
        ok := fun v u => (run openOcd (eval openOcd (n + 1)) v cs u).Meets Q }) :
    (run openOcd (eval openOcd (n + 1)) v (words.map plain ++ (setOptsr "optr" ::
      [word "if", braces "$optr & 0x80000000", braces (body true), word "else",
        braces (body false)] :: cs)) s).Meets Q := by
  refine run_quiet hdoc hquiet (fun t h => herror _ h) fun v t₁ h₁ => ?_
  refine run_setOptsr hdoc "optr" (fun t h => herror _ (h₁.trans h)) fun text t₂ htext h₂ hf₂ => ?_
  have hsame : Same chip file s.host t₂ :=
    h₁.trans ⟨congrArg Chip.board h₂, hf₂⟩
  have hwords (u : Shell σ) : Tcl.wordsOf u.vars [word "if", braces "$optr & 0x80000000",
      braces (body true), word "else", braces (body false)] =
      some ["if", "$optr & 0x80000000", body true, "else", body false] :=
    Tcl.wordsOf_cons (Tcl.value_word _) (Tcl.wordsOf_cons (Tcl.value_braces _)
      (Tcl.wordsOf_cons (Tcl.value_braces _) (Tcl.wordsOf_cons (Tcl.value_word _)
        (Tcl.wordsOf_cons (Tcl.value_braces _) rfl))))
  refine Tcl.run_if (hwords _) (exprValue_swapBank htext (Tcl.Shell.assign_self ..)) ?_
  have hbody : (if (chip t₁).optsr &&& 0x80000000 ≠ 0 then body true else body false) =
      body (chip s.host).board.swapBank := by
    rw [← h₁.board]
    show _ = body ((chip t₁).optsr.testBit 31)
    by_cases hbit : (chip t₁).optsr.testBit 31 = true
    · rw [if_pos ((swapBank_ne_zero _).mpr hbit), hbit]
    · rw [if_neg fun h => hbit ((swapBank_ne_zero _).mp h), Bool.eq_false_iff.mpr hbit]
  show (eval openOcd (n + 1) (if (chip t₁).optsr &&& 0x80000000 ≠ 0 then body true
    else body false) _).Meets _
  rw [hbody]
  exact hnext _ hsame

/-- **Verify Bank.** -/
theorem verify_run {path : String} (hpath : Balanced path.toList) (boot : Bool) (n : Nat)
    (s : Shell σ) :
    (eval openOcd (n + 2) (verifyCommands path (logical (!boot)) (logical boot)) s).Meets
      ⟨fun _ _ => False, fun s' => Same chip file s.host s'.host, fun code s' => code = 0 ∧
        Same chip file s.host s'.host ∧
          HoldsFile holds (file s.host path) (bankAt boot false) (chip s.host).board⟩ := by
  rw [Tcl.eval_succ openOcd (n + 1) s (parse_verify hpath boot)]
  simp only [List.append_assoc, List.cons_append, List.nil_append]
  refine run_ifSwapped hdoc (fun b => verifyBody path (logical (cond b (!boot) boot)))
    (by simp [quietCommands]) (fun u h => h) fun u h => ?_
  generalize hb : cond (chip s.host).board.swapBank (!boot) boot = b
  have hbank : bankAt b (chip s.host).board.swapBank = bankAt boot false := by
    rw [← hb]
    cases boot <;> cases (chip s.host).board.swapBank <;> rfl
  have hverify := hdoc.verifyImage path b u.host
  rw [h.board, h.file, hbank] at hverify
  have hwords : Tcl.wordsOf u.vars [word "verify_image", braces path, word (logical b)] =
      some ["verify_image", path, logical b] :=
    Tcl.wordsOf_cons (Tcl.value_word _) (Tcl.wordsOf_cons (Tcl.value_braces path)
      (Tcl.wordsOf_plain [logical b]))
  show (eval openOcd (n + 1) (verifyBody path (logical b)) u).Meets _
  rw [Tcl.eval_succ openOcd n u (parse_verifyBody hpath b)]
  refine Tcl.run_host hwords (by decide) (hverify.imp (fun v t ht => ?_)
    (fun t ht => h.trans ht) fun _ _ h => h.elim)
  dsimp only
  refine Tcl.run_nil ?_
  dsimp only
  exact Tcl.run_exit ⟨rfl, h.trans ht.1, ht.2⟩

/-- **Clone.** -/
theorem clone_run {path : String} (hpath : Balanced path.toList) (n : Nat) (s : Shell σ) :
    (eval openOcd (n + 2) (cloneCommands path) s).Meets
      ⟨fun _ _ => False, fun s' => SparesBank1 chip s.host s'.host, fun code s' => code = 0 ∧
        SparesBank1 chip s.host s'.host ∧ (chip s'.host).bank2 = (chip s.host).bank1⟩ := by
  rw [Tcl.eval_succ openOcd (n + 1) s (parse_clone hpath)]
  simp only [List.append_assoc, List.cons_append, List.nil_append]
  refine run_ifSwapped hdoc setBanks (by simp [quietCommands]) (fun u h => h.sparesBank1)
    fun u h => ?_
  generalize hswap : (chip s.host).board.swapBank = b
  rw [Tcl.eval_succ openOcd n u (parse_setBanks b)]
  refine Tcl.run_assign (Tcl.wordsOf_plain _) (Tcl.run_assign (Tcl.wordsOf_plain _)
    (Tcl.run_nil ?_))
  generalize hw : (u.assign "bank1" (logical (!b))).assign "bank2" (logical b) = w
  have hhost : w.host = u.host := by
    rw [← hw]
    rfl
  have hbank1 : w.vars "bank1" = some (logical (!b)) := by
    rw [← hw, Tcl.Shell.assign_of_ne _ _ (by decide), Tcl.Shell.assign_self]
  have hbank2 : w.vars "bank2" = some (logical b) := by
    rw [← hw, Tcl.Shell.assign_self]
  have hw₀ : Same chip file s.host w.host := hhost ▸ h
  -- bank 1 is dumped, wherever it is
  have hdump := hdoc.dumpImage path (!b) w.host
  have hn₁ : bankAt (!b) (chip w.host).board.swapBank = 1 := by
    rw [hw₀.board, hswap]
    cases b <;> rfl
  rw [hn₁] at hdump
  have hwords₁ : Tcl.wordsOf w.vars [word "dump_image", braces path, dollar "bank1",
      word "0x100000"] = some ["dump_image", path, logical (!b), "0x100000"] :=
    Tcl.wordsOf_cons (Tcl.value_word _) (Tcl.wordsOf_cons (Tcl.value_braces path)
      (Tcl.wordsOf_cons (Tcl.value_dollar hbank1) (Tcl.wordsOf_plain ["0x100000"])))
  refine Tcl.run_host hwords₁ (by decide) (hdump.imp (fun v t₁ h₁ => ?_) (fun t ht => ?_)
    fun _ _ h => h.elim)
  rotate_left
  · exact ⟨congrArg Board.bank1 (ht.trans hw₀.board), congrArg Board.swapBank (ht.trans hw₀.board)⟩
  have hboard₁ : (chip t₁).board = (chip s.host).board := h₁.1.trans hw₀.board
  -- and written to bank 2
  have hprogram := hdoc.program path b t₁
  have hn₂ : bankAt b (chip t₁).board.swapBank = 2 := by
    rw [hboard₁, hswap]
    cases b <;> rfl
  rw [hn₂, h₁.2] at hprogram
  have hwords₂ : Tcl.wordsOf (w.at t₁).vars [word "program", braces path, dollar "bank2",
      word "verify"] = some ["program", path, logical b, "verify"] :=
    Tcl.wordsOf_cons (Tcl.value_word _) (Tcl.wordsOf_cons (Tcl.value_braces path)
      (Tcl.wordsOf_cons (Tcl.value_dollar hbank2) (Tcl.wordsOf_plain ["verify"])))
  have hspares {t : σ} (ht : OnlyBank chip file 2 t₁ t) : SparesBank1 chip s.host t :=
    ⟨ht.other.trans (congrArg Board.bank1 hboard₁),
      ht.swapBank.trans (congrArg Board.swapBank hboard₁)⟩
  refine Tcl.run_host hwords₂ (by decide) (hprogram.imp (fun v t₂ h₂ => ?_)
    (fun t ht => hspares ht) fun _ _ h => h.elim)
  obtain ⟨i, hi, hholds⟩ := h₂.2
  obtain rfl := Option.some.inj hi
  have hclone : (chip t₂).bank2 = (chip s.host).bank1 :=
    (hdoc.dumped _ _ hholds).trans (congrArg Board.bank1 hw₀.board)
  show (run openOcd _ _ ([["reset"]].map plain ++ [plain ["exit"]]) _).Meets _
  refine run_quiet hdoc (by simp [quietCommands])
    (fun t ht => (hspares h₂.1).trans ht.sparesBank1) fun v t ht => Tcl.run_exit ?_
  exact ⟨rfl, (hspares h₂.1).trans ht.sparesBank1, ht.banks.2.trans hclone⟩

end

end QMon.Updater
