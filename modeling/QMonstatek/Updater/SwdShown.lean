import QMonstatek.Lib.Run
import QMonstatek.Updater.SwdScripts

/-!
# The SWD recovery from the button to the board

With the Pico probe the recovery starts OpenOCD, which runs the script of the operation and ends.

`SwdOp`          the operations that change or compare a bank;
`OpenOcdDue host op path g`   the operation is accepted, and OpenOCD starts;
`Ends r x`       OpenOCD has run its script with the reply `r`, and this is how its end comes;
`Done`, `Kept`   what has become of the board at exit code 0, and in any case;
`Bench`         an OpenOCD that does as documented.

`swd_shown`: whatever OpenOCD writes meanwhile, and however it fails, exactly one of success and
error is shown, success just where the exit code is 0, and then the board is as the button says.
-/

namespace QMon.Updater
open Tcl (Shell Balanced eval)

inductive SwdOp where
  | recoveryFlash (binFilePath : String)
  | swapBank
  | verifyBank1 (binFilePath : String)
  | verifyBank2 (binFilePath : String)
  | cloneBank1ToBank2
  deriving DecidableEq, Repr

namespace SwdOp

def event : SwdOp → SwdEvent
  | recoveryFlash p => .recoveryFlash p
  | swapBank => .swapBank
  | verifyBank1 p => .verifyBank1 p
  | verifyBank2 p => .verifyBank2 p
  | cloneBank1ToBank2 => .cloneBank1ToBank2

def opName : SwdOp → String
  | recoveryFlash _ => "Recovery Flash"
  | swapBank => "Swap Bank"
  | verifyBank1 _ => "Verify Bank 1"
  | verifyBank2 _ => "Verify Bank 2"
  | cloneBank1ToBank2 => "Clone Bank 1 to Bank 2"

/-- the script, with the file it names -/
def commands (path : String) : SwdOp → String
  | recoveryFlash _ => recoveryCommands path
  | swapBank => swapCommands
  | verifyBank1 _ => verifyCommands path "0x08100000" "0x08000000"
  | verifyBank2 _ => verifyCommands path "0x08000000" "0x08100000"
  | cloneBank1ToBank2 => cloneCommands path

/-- the operation takes `path` for its file -/
def Takes (host : ToolHost) (path : String) : SwdOp → Prop
  | recoveryFlash p => ∃ fi, host.fileInfo p = some fi ∧ fi.size ≤ FLASH_BANK_SIZE + 4 ∧
      path = forwardSlashes fi.absoluteFilePath
  | swapBank => True
  | verifyBank1 p | verifyBank2 p => ∃ fi, host.fileInfo p = some fi ∧
      path = forwardSlashes fi.absoluteFilePath
  | cloneBank1ToBank2 => path = forwardSlashes (host.tempPath ++ "/m1_swd_bank1_backup.bin")

end SwdOp

def ocdArgs (scriptsPath commands : String) : List String :=
  ["-s", forwardSlashes scriptsPath, "-f", SwdRecovery.interfaceConfig,
    "-f", "target/stm32h5x.cfg", "-c", commands]

structure OpenOcdDue (host : ToolHost) (op : SwdOp) (path : String) (g : SwdRecovery) : Prop where
  idle : g.running = false
  pico : g.probeType ≠ StLinkV2
  setup : g.validateSetup host = none
  takes : op.Takes host path
  /-- the braces of the file name match -/
  balanced : op ≠ .swapBank → Balanced path.toList
  starts : host.starts g.ocdPath (ocdArgs g.scriptsPath (op.commands path)) = true

/-! ## What is shown -/

def SwdOut.isOutcome : SwdOut → Bool
  | .operationComplete _ | .operationError _ => true
  | _ => false

def SwdOut.isComplete : SwdOut → Bool
  | .operationComplete _ => true
  | _ => false

def SwdRecovery.outcomes (g : SwdRecovery) : List SwdOut := g.out.filter SwdOut.isOutcome

/-- the outcomes of a run, oldest first -/
def swdOutcomes : List (ToolHost × SwdEvent) → SwdRecovery → List SwdOut
  | [], _ => []
  | e :: es, g => (SwdRecovery.step e g).outcomes ++ swdOutcomes es (SwdRecovery.step e g)

/-- what may come while OpenOCD runs: its output, and clicks that leave the operation alone -/
inductive Meanwhile : SwdEvent → Prop
  | output (bytes : List UInt8) : Meanwhile (.signal (.readyRead bytes))
  | clearLog : Meanwhile .clearLog
  | setProbeType (type : Int) : Meanwhile (.setProbeType type)
  | isOpenOcdAvailable : Meanwhile .isOpenOcdAvailable

namespace SwdRecovery

/-- what the texts of an operation leave alone -/
structure Core where
  process : Option Process
  running : Bool
  usingCubeProg : Bool
  currentOp : String
  outcomes : List SwdOut

def core (g : SwdRecovery) : Core :=
  ⟨g.process, g.running, g.usingCubeProg, g.currentOp, g.outcomes⟩

section
variable (g : SwdRecovery)

theorem core_put {o : SwdOut} (h : o.isOutcome = false) : (g.put o).core = g.core := by
  have hout : (g.put o).outcomes = g.outcomes := by
    show (g.out ++ [o]).filter _ = _
    rw [List.filter_append, List.filter_cons_of_neg (by rw [h]; exact Bool.false_ne_true),
      List.filter_nil, List.append_nil]
    rfl
  unfold core
  rw [hout]
  rfl

theorem core_setStatus (msg : String) : (g.setStatus msg).core = g.core := by
  unfold setStatus
  split
  · exact core_put { g with statusMessage := msg } rfl
  · rfl

theorem core_appendLog (text : String) : (g.appendLog text).core = g.core :=
  core_put { g with outputLog := g.outputLog ++ text } rfl

theorem core_setProgress (pct : Int) : (g.setProgress pct).core = g.core :=
  core_put { g with progress := pct } rfl

theorem core_stage (pct : Int) (text : String) : (g.stage pct text).core = g.core :=
  (core_setStatus _ _).trans (core_setProgress g pct)

theorem core_showBank (swapBankSet : Bool) : (g.showBank swapBankSet).core = g.core :=
  (core_setStatus _ _).trans (core_appendLog g _)

theorem core_readCubeLine (line : List Char) : (g.readCubeLine line).core = g.core := by
  unfold readCubeLine
  extract_lets g₁ g₂
  have h₁ : g₁.core = g.core := by
    unfold g₁
    repeat' split
    all_goals first
      | exact core_stage g _ _
      | exact core_setProgress g _
      | rfl
  have h₂ : g₂.core = g₁.core := by
    unfold g₂
    split
    · exact core_setProgress g₁ _
    · rfl
  refine Eq.trans ?_ (h₂.trans h₁)
  split
  · split
    · exact core_showBank g₂ _
    · rfl
  · rfl

theorem core_readOcdLine (line : List Char) : (g.readOcdLine line).core = g.core := by
  unfold readOcdLine
  extract_lets g₁
  have h₁ : g₁.core = g.core := by
    unfold g₁
    repeat' split
    all_goals first
      | exact core_stage g _ _
      | exact core_setProgress g _
      | rfl
  refine Eq.trans ?_ h₁
  split
  · split
    · exact core_showBank g₁ _
    · rfl
  · rfl

theorem core_readLines (lines : List (List Char)) :
    (lines.foldl (fun g line => g.readLine line) g).core = g.core := by
  induction lines generalizing g with
  | nil => rfl
  | cons line lines ih =>
    refine (ih (g.readLine line)).trans ?_
    unfold readLine
    split
    · exact core_readCubeLine g line
    · exact core_readOcdLine g line

theorem core_onProcessOutput (raw : List UInt8) : (g.onProcessOutput raw).core = g.core := by
  unfold onProcessOutput
  split
  · rfl
  · exact (core_readLines _ _).trans (core_appendLog g _)

theorem core_isOpenOcdAvailable (host : ToolHost) : (g.isOpenOcdAvailable host).core = g.core := by
  have hpaths : (g.resolveOpenOcdPaths host).core = g.core := by
    unfold resolveOpenOcdPaths
    split
    · rfl
    dsimp only
    split
    · rfl
    split <;> rfl
  refine Eq.trans ?_ hpaths
  unfold isOpenOcdAvailable resolveCubeProgrammerPath
  split <;> rfl

end

/-! ## The operation goes on -/

/-- OpenOCD runs -/
structure Busy (name : String) (g : SwdRecovery) : Prop where
  process : g.process.any Process.running = true
  tool : g.usingCubeProg = false
  name : g.currentOp = name

theorem Busy.of_core {name : String} {g h : SwdRecovery} (hg : g.Busy name)
    (hcore : h.core = g.core) : h.Busy name where
  process := (congrArg (fun c : Core => c.process.any Process.running) hcore).trans hg.process
  tool := (congrArg Core.usingCubeProg hcore).trans hg.tool
  name := (congrArg Core.currentOp hcore).trans hg.name

/-- an event that leaves the operation alone -/
theorem step_meanwhile {name : String} {g : SwdRecovery} (hg : g.Busy name) {e : SwdEvent}
    (he : Meanwhile e) (host : ToolHost) :
    (step (host, e) g).Busy name ∧ (step (host, e) g).outcomes = [] := by
  have hfresh : g.fresh.Busy name := ⟨hg.process, hg.tool, hg.name⟩
  have hcore (h : SwdRecovery) (hh : h.core = g.fresh.core) : h.Busy name ∧ h.outcomes = [] :=
    ⟨hfresh.of_core hh, congrArg Core.outcomes hh⟩
  cases he with
  | output bytes => exact hcore _ (core_onProcessOutput g.fresh bytes)
  | clearLog => exact hcore _ (core_put { g.fresh with outputLog := "" } rfl)
  | setProbeType type =>
    refine hcore _ ?_
    show (g.fresh.setProbeType type).core = _
    unfold setProbeType
    split
    · exact core_put { g.fresh with probeType := type } rfl
    · rfl
  | isOpenOcdAvailable => exact hcore _ (core_isOpenOcdAvailable g.fresh host)

theorem outcomes_put (g : SwdRecovery) {o : SwdOut} (h : o.isOutcome = true) :
    (g.put o).outcomes = g.outcomes ++ [o] := by
  show (g.out ++ [o]).filter _ = _
  rw [List.filter_append, List.filter_cons_of_pos h, List.filter_nil]
  rfl

theorem report_outcomes (g : SwdRecovery) {x : Exit} (hx : x.exitStatus = .normalExit) :
    ∃ o : SwdOut, (g.report x).outcomes = g.outcomes ++ [o] ∧
      (o.isComplete = true ↔ x.exitCode = 0) := by
  have hput : ({ g with running := false }.put (.runningChanged false) : SwdRecovery).outcomes =
      g.outcomes := congrArg Core.outcomes (core_put { g with running := false } rfl)
  unfold report
  dsimp only
  generalize ({ g with running := false }.put (.runningChanged false) : SwdRecovery) = k at hput
  rw [← hput, if_neg (by rw [hx]; decide)]
  by_cases hcode : x.exitCode = 0
  · rw [if_pos hcode]
    refine ⟨_, (outcomes_put _ rfl).trans (congrArg (· ++ _) ?_), iff_of_true rfl hcode⟩
    exact congrArg Core.outcomes ((core_appendLog _ _).trans ((core_setStatus _ _).trans
      (core_setProgress k 100)))
  · rw [if_neg hcode]
    refine ⟨_, (outcomes_put _ rfl).trans (congrArg (· ++ _) ?_),
      iff_of_false Bool.false_ne_true hcode⟩
    exact congrArg Core.outcomes ((core_appendLog _ _).trans (core_setStatus k _))

/-- the end of OpenOCD -/
theorem step_finished {name : String} {g : SwdRecovery} (hg : g.Busy name) {x : Exit}
    (hx : x.exitStatus = .normalExit) (host : ToolHost) :
    ∃ o : SwdOut, (step (host, .finished x) g).outcomes = [o] ∧
      (o.isComplete = true ↔ x.exitCode = 0) := by
  have hstep : step (host, .finished x) g = g.fresh.ended.onProcessFinished x := by
    show (if g.fresh.processRunning then g.fresh.ended.onProcessFinished x else g.fresh) = _
    rw [if_pos (show g.fresh.processRunning = true from hg.process)]
  obtain ⟨p, hp, -⟩ := (Option.any_eq_true _ _).mp hg.process
  have hended : g.fresh.ended.process = some { p with running := false } := by
    show g.process.map _ = _
    rw [hp]
    rfl
  have hrest : (g.fresh.ended.readRest x).core = g.fresh.ended.core := by
    unfold readRest
    dsimp only
    split
    · rfl
    · exact core_appendLog _ _
  have hprocess : (g.fresh.ended.readRest x).process = some { p with running := false } :=
    (congrArg Core.process hrest).trans hended
  have hreleased : ((g.fresh.ended.readRest x).release).outcomes = [] := by
    unfold release
    rw [hprocess]
    exact congrArg Core.outcomes hrest
  obtain ⟨o, ho, hcomplete⟩ := report_outcomes (g.fresh.ended.readRest x).release hx
  refine ⟨o, ?_, hcomplete⟩
  rw [hstep]
  unfold onProcessFinished
  rw [if_pos (by rw [hended]; rfl), ho, hreleased]
  rfl

/-! ## The start -/

/-- texts one after the other -/
def logged (texts : List String) (g : SwdRecovery) : SwdRecovery :=
  texts.foldl (fun g text => g.appendLog text) g

theorem logged_kept (texts : List String) (g : SwdRecovery) :
    (g.logged texts).core = g.core ∧ (g.logged texts).ocdPath = g.ocdPath ∧
      (g.logged texts).scriptsPath = g.scriptsPath := by
  induction texts generalizing g with
  | nil => exact ⟨rfl, rfl, rfl⟩
  | cons text texts ih =>
    obtain ⟨hcore, hocd, hscripts⟩ := ih (g.appendLog text)
    exact ⟨hcore.trans (core_appendLog g text), hocd, hscripts⟩

theorem logCommand_logged (program : String) (args : List String) (g : SwdRecovery) :
    g.logCommand program args = g.logged (("Command: " ++ program ++ "\n") ::
      (args.map (fun arg => "  " ++ arg ++ "\n") ++ ["\n"])) := by
  unfold logCommand logged
  rw [List.foldl_cons, List.foldl_append, List.foldl_map]
  rfl

theorem core_begin (name : String) (cubeProg : Bool) (g : SwdRecovery) :
    (g.begin name cubeProg).core =
      { g.core with running := true, usingCubeProg := cubeProg, currentOp := name } := by
  have hclear : (g.clearLog).outcomes = g.outcomes :=
    congrArg Core.outcomes (core_put { g with outputLog := "" } rfl)
  refine ((core_setStatus _ _).trans ((core_put _ rfl).trans (core_put _ rfl))).trans ?_
  show Core.mk g.process true cubeProg name g.clearLog.outcomes = _
  rw [hclear]
  rfl

theorem begin_paths (name : String) (cubeProg : Bool) (g : SwdRecovery) :
    (g.begin name cubeProg).ocdPath = g.ocdPath ∧
      (g.begin name cubeProg).scriptsPath = g.scriptsPath := by
  unfold begin setStatus
  dsimp only
  split <;> exact ⟨rfl, rfl⟩

theorem startProcess_busy (host : ToolHost) {program name : String} {args : List String}
    {g : SwdRecovery} (htool : g.usingCubeProg = false) (hname : g.currentOp = name)
    (hstarts : host.starts program args = true) :
    (g.startProcess host program args).Busy name ∧
      (g.startProcess host program args).outcomes = g.outcomes ∧
      .start program args (host.absolutePath program) ∈ (g.startProcess host program args).out :=
  ⟨⟨hstarts, htool, hname⟩, congrArg Core.outcomes (core_put _ rfl),
    List.mem_append_right _ List.mem_cons_self⟩

theorem runOpenOcd_busy (host : ToolHost) (commands name : String) {g : SwdRecovery}
    (hsetup : g.validateSetup host = none)
    (hstarts : host.starts g.ocdPath (ocdArgs g.scriptsPath commands) = true) :
    (g.runOpenOcd host commands name).Busy name ∧
      (g.runOpenOcd host commands name).outcomes = g.outcomes ∧
      .start g.ocdPath (ocdArgs g.scriptsPath commands) (host.absolutePath g.ocdPath) ∈
        (g.runOpenOcd host commands name).out := by
  have hrun : g.runOpenOcd host commands name =
      let k := (g.begin name false).logged ["=== " ++ name ++ " ===\n", "Probe:   Pico CMSIS-DAP\n",
        "OpenOCD: " ++ g.ocdPath ++ "\n", "Scripts: " ++ g.scriptsPath ++ "\n",
        "Version: " ++ g.ocdVersion ++ "\n", "Config:  " ++ interfaceConfig ++ "\n\n"]
      (k.logCommand k.ocdPath (ocdArgs k.scriptsPath commands)).startProcess host k.ocdPath
        (ocdArgs k.scriptsPath commands) := by
    unfold runOpenOcd
    rw [hsetup]
    rfl
  rw [hrun]
  obtain ⟨hcore, hocd, hscripts⟩ := logged_kept ["=== " ++ name ++ " ===\n",
    "Probe:   Pico CMSIS-DAP\n", "OpenOCD: " ++ g.ocdPath ++ "\n",
    "Scripts: " ++ g.scriptsPath ++ "\n", "Version: " ++ g.ocdVersion ++ "\n",
    "Config:  " ++ interfaceConfig ++ "\n\n"] (g.begin name false)
  generalize (g.begin name false).logged _ = k at hcore hocd hscripts ⊢
  dsimp only
  rw [hocd, hscripts, (begin_paths name false g).1, (begin_paths name false g).2,
    logCommand_logged]
  have hlog (texts : List String) := ((logged_kept texts k).1.trans hcore).trans
    (core_begin name false g)
  obtain ⟨hbusy, hsaid, hstart⟩ := startProcess_busy host (congrArg Core.usingCubeProg (hlog _))
    (congrArg Core.currentOp (hlog _)) hstarts
  exact ⟨hbusy, hsaid.trans (congrArg Core.outcomes (hlog _)), hstart⟩

/-- **The start** of OpenOCD on the script of the operation. -/
theorem step_start {host : ToolHost} {op : SwdOp} {path : String} {g : SwdRecovery}
    (h : OpenOcdDue host op path g) :
    (step (host, op.event) g).Busy op.opName ∧ (step (host, op.event) g).outcomes = [] ∧
      .start g.ocdPath (ocdArgs g.scriptsPath (op.commands path))
        (host.absolutePath g.ocdPath) ∈ (step (host, op.event) g).out := by
  have hrun : step (host, op.event) g =
      g.fresh.runOpenOcd host (op.commands path) op.opName := by
    have hidle : ¬ g.fresh.running = true := Bool.eq_false_iff.mp h.idle
    have hpico : ¬ g.fresh.probeType = StLinkV2 := h.pico
    have htakes := h.takes
    cases op with
    | recoveryFlash p =>
      obtain ⟨fi, hfi, hsize, rfl⟩ := htakes
      show g.fresh.recoveryFlash host p = _
      unfold recoveryFlash
      rw [if_neg hidle, hfi]
      dsimp only
      rw [if_neg (Nat.not_lt.mpr hsize), if_neg hpico]
      rfl
    | swapBank =>
      show g.fresh.swapBank host = _
      unfold swapBank
      rw [if_neg hidle, if_neg hpico]
      rfl
    | verifyBank1 p =>
      obtain ⟨fi, hfi, rfl⟩ := htakes
      show g.fresh.verify host p _ _ _ = _
      unfold verify
      rw [if_neg hidle, hfi]
      rfl
    | verifyBank2 p =>
      obtain ⟨fi, hfi, rfl⟩ := htakes
      show g.fresh.verify host p _ _ _ = _
      unfold verify
      rw [if_neg hidle, hfi]
      rfl
    | cloneBank1ToBank2 =>
      obtain rfl : path = _ := htakes
      show g.fresh.cloneBank1ToBank2 host = _
      unfold cloneBank1ToBank2
      rw [if_neg hidle]
      rfl
  rw [hrun]
  exact runOpenOcd_busy host _ _ h.setup h.starts

/-- **A whole operation** shows one outcome. -/
theorem operation_outcome {host host' : ToolHost} {op : SwdOp} {path : String} {g : SwdRecovery}
    (h : OpenOcdDue host op path g) {between : List (ToolHost × SwdEvent)}
    (hbetween : ∀ e ∈ between, Meanwhile e.2) {x : Exit} (hx : x.exitStatus = .normalExit) :
    ∃ o : SwdOut, swdOutcomes ((host, op.event) :: between ++ [(host', .finished x)]) g = [o] ∧
      (o.isComplete = true ↔ x.exitCode = 0) := by
  have hrest (es : List (ToolHost × SwdEvent)) (hes : ∀ e ∈ es, Meanwhile e.2) (k : SwdRecovery)
      (hk : k.Busy op.opName) : ∃ o : SwdOut,
      swdOutcomes (es ++ [(host', .finished x)]) k = [o] ∧
        (o.isComplete = true ↔ x.exitCode = 0) := by
    induction es generalizing k with
    | nil =>
      obtain ⟨o, ho, hcomplete⟩ := step_finished hk hx host'
      exact ⟨o, (List.append_nil _).trans ho, hcomplete⟩
    | cons e es ih =>
      obtain ⟨hbusy, hquiet⟩ := step_meanwhile hk (hes e List.mem_cons_self) e.1
      obtain ⟨o, ho, hcomplete⟩ := ih (fun e' he' => hes e' (List.mem_cons_of_mem e he')) _ hbusy
      refine ⟨o, ?_, hcomplete⟩
      show (step e k).outcomes ++ swdOutcomes (es ++ [(host', .finished x)]) (step e k) = [o]
      rw [show (step e k).outcomes = [] from hquiet, List.nil_append]
      exact ho
  obtain ⟨hbusy, hquiet, -⟩ := step_start h
  obtain ⟨o, ho, hcomplete⟩ := hrest between hbetween _ hbusy
  refine ⟨o, ?_, hcomplete⟩
  show (step (host, op.event) g).outcomes ++ _ = [o]
  rw [hquiet]
  exact ho

end SwdRecovery

/-! ## From the button to the board -/

section
variable {σ ι β : Type}

/-- how OpenOCD ends: an error of the script is exit code 1, and without `exit` it would go on -/
def Ends (r : Tcl.Reply (Shell σ)) (x : Exit) : Prop :=
  x.exitStatus = .normalExit ∧ r.Meets ⟨fun _ _ => False, fun _ => x.exitCode = 1,
    fun code _ => x.exitCode = code⟩

/-- what OpenOCD leaves behind -/
def replyState : Tcl.Reply (Shell σ) → σ
  | .ok _ s => s.host
  | .error s => s.host
  | .exit _ s => s.host

namespace SwdOp

/-- the board at exit code 0, where the file held `image` -/
def Done (holds : ι → β → Prop) (image : Option ι) (b b' : Board β) : SwdOp → Prop
  | recoveryFlash _ => HoldsFile holds image 1 b' ∧ b'.boots = 1
  | swapBank => b' = { b with swapBank := !b.swapBank }
  | verifyBank1 _ => HoldsFile holds image 1 b
  | verifyBank2 _ => HoldsFile holds image 2 b
  | cloneBank1ToBank2 => b'.bank2 = b.bank1

/-- what is left alone, at every exit code -/
def Kept (b b' : Board β) : SwdOp → Prop
  | recoveryFlash _ => True
  | swapBank => b'.bank1 = b.bank1 ∧ b'.bank2 = b.bank2
  | verifyBank1 _ | verifyBank2 _ => b' = b
  | cloneBank1ToBank2 => b'.bank1 = b.bank1 ∧ b'.swapBank = b.swapBank

end SwdOp

variable {openOcd : List String → σ → Tcl.Reply σ} {chip : σ → Chip β}
  {file : σ → String → Option ι} {holds : ι → β → Prop} {dump : β → ι}

/-- **The scripts**, all alike. -/
theorem script_run (hdoc : Documented openOcd chip file holds dump) (op : SwdOp) {path : String}
    (hpath : op ≠ .swapBank → Balanced path.toList) (n : Nat) (s : Shell σ) :
    (eval openOcd (n + 2) (op.commands path) s).Meets
      ⟨fun _ _ => False, fun s' => op.Kept (chip s.host).board (chip s'.host).board,
        fun code s' => op.Kept (chip s.host).board (chip s'.host).board ∧ (code = 0 →
          op.Done holds (file s.host path) (chip s.host).board (chip s'.host).board)⟩ := by
  cases op with
  | recoveryFlash p =>
    exact (recovery_run hdoc (hpath nofun) n s).imp (fun _ _ h => h) (fun _ _ => trivial)
      fun code s' h => ⟨trivial, h⟩
  | swapBank =>
    refine (swap_run hdoc n s).imp (fun _ _ h => h) (fun s' h => h) fun code s' h =>
      ⟨?_, fun _ => h.2⟩
    show (chip s'.host).board.bank1 = _ ∧ (chip s'.host).board.bank2 = _
    rw [h.2]
    exact ⟨rfl, rfl⟩
  | verifyBank1 p =>
    exact (verify_run hdoc (hpath nofun) true n s).imp (fun _ _ h => h) (fun s' h => h.board)
      fun code s' h => ⟨h.2.1.board, fun _ => h.2.2⟩
  | verifyBank2 p =>
    exact (verify_run hdoc (hpath nofun) false n s).imp (fun _ _ h => h) (fun s' h => h.board)
      fun code s' h => ⟨h.2.1.board, fun _ => h.2.2⟩
  | cloneBank1ToBank2 =>
    exact (clone_run hdoc (hpath nofun) n s).imp (fun _ _ h => h) (fun s' h => h)
      fun code s' h => ⟨h.2.1, fun _ => h.2.2⟩

/-- what is shown of an operation, and what has become of the board -/
structure SwdShown (holds : ι → β → Prop) (op : SwdOp) (image : Option ι) (b b' : Board β)
    (exitCode : Int) (outcomes : List SwdOut) : Prop where
  shown : ∃ o : SwdOut, outcomes = [o] ∧ (o.isComplete = true ↔ exitCode = 0)
  kept : op.Kept b b'
  done : exitCode = 0 → op.Done holds image b b'

/-- **From the button to the board.** -/
theorem swd_shown (hdoc : Documented openOcd chip file holds dump) (host host' : ToolHost)
    (op : SwdOp) (path : String) (g : SwdRecovery) (hdue : OpenOcdDue host op path g)
    (between : List (ToolHost × SwdEvent)) (hbetween : ∀ e ∈ between, Meanwhile e.2)
    (n : Nat) (s : Shell σ) (x : Exit) :
    let r := eval openOcd (n + 2) (op.commands path) s
    .start g.ocdPath (ocdArgs g.scriptsPath (op.commands path)) (host.absolutePath g.ocdPath) ∈
        (SwdRecovery.step (host, op.event) g).out ∧
      (Ends r x → SwdShown holds op (file s.host path) (chip s.host).board
        (chip (replyState r)).board x.exitCode
        (swdOutcomes ((host, op.event) :: between ++ [(host', .finished x)]) g)) := by
  intro r
  refine ⟨(SwdRecovery.step_start hdue).2.2, fun hends => ?_⟩
  have hrun := script_run hdoc op hdue.balanced n s
  have hshown : ∃ o : SwdOut,
      swdOutcomes ((host, op.event) :: between ++ [(host', .finished x)]) g = [o] ∧
        (o.isComplete = true ↔ x.exitCode = 0) :=
    SwdRecovery.operation_outcome hdue hbetween hends.1
  have hcode := hends.2
  change r.Meets _ at hrun
  generalize r = r at hrun hcode
  cases r with
  | ok value s' => exact hrun.elim
  | error s' =>
    have hone : x.exitCode = 1 := hcode
    exact ⟨hshown, hrun, fun hzero => absurd (hone.symm.trans hzero) (by decide)⟩
  | exit code s' =>
    have hsame : x.exitCode = code := hcode
    exact ⟨hshown, hrun.1, fun hzero => hrun.2 (hsame.symm.trans hzero)⟩

end

/-! ## A bench -/

/-- a board on the probe, and the files -/
structure Bench (β : Type) where
  chip : Chip β
  files : String → Option β

namespace Bench
section
variable {β : Type}

def bankOf (address : String) (s : Bench β) : Nat :=
  bankAt (address == "0x08000000") s.chip.board.swapBank

def setBank (n : Nat) (b : β) (s : Bench β) : Bench β :=
  { s with chip := if n = 2 then { s.chip with bank2 := b } else { s.chip with bank1 := b } }

def write (path address : String) (s : Bench β) : Option (Bench β) :=
  (s.files path).map fun b => s.setBank (s.bankOf address) b

def poke (address value : String) (s : Bench β) : Option (Bench β) :=
  (Tcl.number address.toList).bind fun a =>
    (Tcl.number value.toList).map fun v => { s with chip := s.chip.poke a v }

theorem bankOf_logical (boot : Bool) (s : Bench β) :
    s.bankOf (logical boot) = bankAt boot s.chip.board.swapBank := by
  cases boot <;> rfl

theorem onlyBank_setBank (boot : Bool) (b : β) (s : Bench β) :
    OnlyBank chip files (bankAt boot s.chip.board.swapBank) s
        (s.setBank (bankAt boot s.chip.board.swapBank) b) ∧
      (s.setBank (bankAt boot s.chip.board.swapBank) b).chip.board.bank
        (bankAt boot s.chip.board.swapBank) = b := by
  unfold bankAt setBank
  split <;> exact ⟨⟨rfl, rfl, rfl⟩, rfl⟩

theorem write_some {path : String} {boot : Bool} {s s' : Bench β}
    (h : s.write path (logical boot) = some s') :
    OnlyBank chip files (bankAt boot s.chip.board.swapBank) s s' ∧
      HoldsFile (· = ·) (s.files path) (bankAt boot s.chip.board.swapBank) s'.chip.board := by
  obtain ⟨b, hb, rfl⟩ := Option.map_eq_some_iff.mp h
  rw [bankOf_logical]
  obtain ⟨honly, hbank⟩ := onlyBank_setBank boot b s
  exact ⟨honly, b, hb, hbank.symm⟩

variable [DecidableEq β]

/-- OpenOCD with an image as large as a bank.  An erased bank is `blank`. -/
def openOcd (blank : β) (words : List String) (s : Bench β) : Tcl.Reply (Bench β) :=
  match words with
  | ["mww", address, value] => (s.poke address value).elim (.error s) (.ok "")
  | ["mrw", _] => .ok (toString s.chip.optsr) s
  | ["stm32h5x", "mass_erase", _] => .ok "" ((s.setBank 1 blank).setBank 2 blank)
  | ["program", path, address, "verify"] => (s.write path address).elim (.error s) (.ok "")
  | ["program", path, address, "verify", "reset", "exit"] =>
    (s.write path address).elim (.exit 1 s) (.exit 0)
  | ["dump_image", path, address, _] =>
    .ok "" { s with files :=
      Function.update s.files path (some (s.chip.board.bank (s.bankOf address))) }
  | ["verify_image", path, address] =>
    if s.files path = some (s.chip.board.bank (s.bankOf address)) then .ok "" s else .error s
  | _ => .ok "" s

theorem documented (blank : β) : Documented (openOcd blank) chip files (· = ·) id where
  quiet words hwords s := by
    simp only [quietCommands, List.mem_cons, List.not_mem_nil, or_false] at hwords
    rcases hwords with rfl | rfl | rfl | rfl | rfl | rfl <;> exact ⟨rfl, rfl⟩
  mww address value a v ha hv s := by
    have hpoke : s.poke address value = some { s with chip := s.chip.poke a v } := by
      unfold poke
      rw [ha, hv]
      rfl
    show Tcl.Reply.Meets ((s.poke address value).elim _ _) _
    rw [hpoke]
    exact ⟨rfl, rfl⟩
  mrw s := ⟨Tcl.number_toString _, rfl, rfl⟩
  massErase s := ⟨rfl, rfl⟩
  program path boot s := by
    show Tcl.Reply.Meets ((s.write path (logical boot)).elim _ _) _
    cases h : s.write path (logical boot) with
    | none => exact ⟨rfl, rfl, rfl⟩
    | some s' => exact write_some h
  programExit path s := by
    show Tcl.Reply.Meets ((s.write path (logical true)).elim _ _) _
    cases h : s.write path (logical true) with
    | none => exact ⟨⟨rfl, rfl, rfl⟩, fun hcode => absurd hcode (by decide)⟩
    | some s' => exact ⟨(write_some h).1, fun _ => (write_some h).2⟩
  dumpImage path boot s := ⟨rfl, by
    rw [← bankOf_logical]
    exact Function.update_self ..⟩
  verifyImage path boot s := by
    show Tcl.Reply.Meets
      (if s.files path = some (s.chip.board.bank (s.bankOf (logical boot))) then _ else _) _
    rw [bankOf_logical]
    split
    · exact ⟨⟨rfl, rfl⟩, _, ‹_›, rfl⟩
    · exact ⟨rfl, rfl⟩
  dumped b b' h := h.symm

end

/-- a swapped board, and a firmware file -/
def swapped : Bench Nat where
  chip := { bank1 := 7, bank2 := 8, optsr := 0x80000000, prg := 0, nskeys := [], optkeys := [] }
  files := fun _ => some 5

end Bench

/-- a host with OpenOCD -/
def ToolHost.withOpenOcd : ToolHost :=
  { ToolHost.withHelper with
    findOpenOcd := "C:/openocd/bin/openocd.exe"
    findOpenOcdScripts := fun _ => "C:/openocd/scripts" }

theorem swd_shown_recoveryFlash :
    let host := ToolHost.withOpenOcd
    let op := SwdOp.recoveryFlash "m1.bin"
    SwdShown (· = ·) op (some 5) ⟨7, 8, true⟩ ⟨5, 0, false⟩ 0
      (swdOutcomes [(host, op.event), (host, .signal (.readyRead [0x4F, 0x4B, 0x0A])),
        (host, .finished { exitCode := 0 })] (SwdRecovery.make host)) := by
  intro host op
  have hpath : Balanced "C:/M1/m1.bin".toList := by decide +kernel
  have hends : (eval (Bench.openOcd 0) 2 (op.commands "C:/M1/m1.bin")
      ⟨fun _ => none, Bench.swapped⟩).Meets ⟨fun _ _ => False, fun _ => False,
        fun code s => code = 0 ∧ s.host.chip.board = ⟨5, 0, false⟩⟩ := by
    show (eval _ 2 (recoveryCommands _) _).Meets _
    rw [Tcl.eval_succ _ 1 _ (parse_recovery hpath)]
    decide +kernel
  have h := (swd_shown (Bench.documented 0) host host op "C:/M1/m1.bin" (SwdRecovery.make host)
    ⟨by decide +kernel, by decide +kernel, by decide +kernel,
      ⟨_, rfl, by decide +kernel, by decide +kernel⟩, fun _ => hpath, by decide +kernel⟩
    [(host, .signal (.readyRead [0x4F, 0x4B, 0x0A]))]
    (by simp only [List.mem_singleton, forall_eq]; exact .output _) 0
    ⟨fun _ => none, Bench.swapped⟩ { exitCode := 0 }).2
  generalize eval _ _ _ _ = r at hends h
  cases r with
  | ok value s => exact hends.elim
  | error s => exact hends.elim
  | exit code s =>
    obtain ⟨rfl, hboard⟩ : code = 0 ∧ s.host.chip.board = ⟨5, 0, false⟩ := hends
    have hshown := h ⟨rfl, rfl⟩
    rw [show (replyState (.exit 0 s)).chip.board = ⟨5, 0, false⟩ from hboard] at hshown
    exact hshown

end QMon.Updater
