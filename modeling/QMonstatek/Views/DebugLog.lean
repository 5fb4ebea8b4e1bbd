import QMonstatek.Device.LogLines
import QMonstatek.Device.LogModel
import QMonstatek.Lib.Simulation

/-!
# The debug log

The lines of `DebugTerminalView.qml` come from the application (`msgHandler` of `main.cpp`) and,
marked `[M1]`, from the device.  The application's own lines also go to `qmonstatek.log` in the
directory of temporary files, and the bytes of the device's log to a file, if the user wants it
(`setLogToFile`, `setLogFilePath`); the wish is kept in the settings.

`DebugLog`  the log members of the device object, the log model and the files;
`Journal`   what it is for: the device's log as one stream, and all lines since the last `clear`.

`debugLog_shows`: the log model keeps the end of the journal, on whatever threads it is written, and
the list view catches up with it.

A path stands for the file it names, and a file that is open takes what is written to it.
-/

namespace QMon.Logging
open Device Lines Run
open Rpc (Thread)

/-- `logging/enabled` and `logging/filePath` -/
structure Settings where
  enabled : Option Bool := none
  filePath : Option String := none
  deriving DecidableEq, Repr

/-- how an attempt to open a file ends, and when -/
structure Opening where
  error : Option String := none
  now : String
  deriving DecidableEq, Repr

inductive Signal where
  | errorOccurred (message : String)
  | logToFileChanged (enabled : Bool)
  | logFilePathChanged (path : String)
  deriving DecidableEq, Repr

structure DebugLog where
  log : LogState := {}
  logToFile : Bool := false
  logFilePath : String
  /-- the file that `m_logFile` has open -/
  logFile : Option String := none
  /-- the file that `s_logFile` has open, and the position in it -/
  appLog : Option String := none
  appPos : Nat := 0
  /-- `setGlobalLogModel` has been called -/
  modelSet : Bool := false
  files : String → List UInt8
  settings : Settings := {}
  model : LogModel := {}
  signals : List Signal := []

/-- `QtMsgType` -/
inductive MsgType where
  | debug
  | info
  | warning
  | critical
  | fatal
  deriving DecidableEq, Repr

def MsgType.tag : MsgType → String
  | .debug => "DBG"
  | .info => "INF"
  | .warning => "WRN"
  | .critical => "ERR"
  | .fatal => "FTL"

inductive Event where
  /-- CMD_LOG_MESSAGE -/
  | message (payload : List UInt8)
  /-- the application logs, be it in the course of another event -/
  | note (thread : Thread) (type : MsgType) (msg : String)
  | setGlobalLogModel
  /-- the oldest notice that is queued for the list view is handled -/
  | deliver
  | clear
  | setLogToFile (enabled : Bool) (o : Opening)
  | setLogFilePath (path : String) (o : Opening)
  deriving DecidableEq, Repr

def header (now : String) : List UInt8 := utf8 ("\n===== session " ++ now ++ " =====\n")

def m1Line (line : List Char) : String := "[M1] " ++ String.ofList line

def noteLine (type : MsgType) (msg : String) : String := "[" ++ type.tag ++ "] " ++ msg

/-- what `msgHandler` prints: a text ends at its NUL -/
def noteText (type : MsgType) (msg : String) : List UInt8 :=
  utf8 ("[" ++ type.tag ++ "] ") ++ untilNul (utf8 msg) ++ utf8 "\n"

namespace DebugLog

def emit (x : Signal) (s : DebugLog) : DebugLog := { s with signals := s.signals ++ [x] }

/-- `m_logFile.write` -/
def write (data : List UInt8) (s : DebugLog) : DebugLog :=
  match s.logFile with
  | none => s
  | some path => { s with files := Function.update s.files path (s.files path ++ data) }

def setLogToFile (enabled : Bool) (o : Opening) (s : DebugLog) : DebugLog :=
  if enabled = s.logToFile then s
  else
    let s := { s with logToFile := enabled }
    let s :=
      if enabled then
        match o.error with
        | none => { s with logFile := some s.logFilePath }.write (header o.now)
        | some e =>
          { s with logToFile := false }.emit (.errorOccurred ("Cannot open log file: " ++ e))
      else if s.logFile.isSome then { s with logFile := none }
      else s
    let s := { s with settings := { s.settings with enabled := some s.logToFile } }
    s.emit (.logToFileChanged s.logToFile)

/-- `toLocalFile` is that of `QUrl` -/
def setLogFilePath (toLocalFile : String → String) (path : String) (o : Opening) (s : DebugLog) :
    DebugLog :=
  let file := if path.startsWith "file:" then toLocalFile path else path
  if file = "" ∨ file = s.logFilePath then s
  else
    let s := { s with
      logFilePath := file
      settings := { s.settings with filePath := some file } }
    let s := if s.logToFile then (s.setLogToFile false o).setLogToFile true o else s
    s.emit (.logFilePathChanged s.logFilePath)

/-- the raw bytes of a message go to the file -/
def captured (payload : List UInt8) (s : DebugLog) : DebugLog :=
  if payload.length > 0 ∧ s.logToFile ∧ s.logFile.isSome then s.write payload else s

/-- the lines that a message completes -/
def completed (payload : List UInt8) (s : DebugLog) : List String :=
  ((onLogMessage payload s.log).received.drop s.log.received.length).map m1Line

/-- lines for the log model, if there is one -/
def feed (t : Thread) (lines : List String) (s : DebugLog) : DebugLog :=
  if s.modelSet then
    { s with model := lines.foldl (fun m line => m.append t line) s.model }
  else s

/-- the branch for CMD_LOG_MESSAGE, with `onM1LogReceived` for each line -/
def onMessage (payload : List UInt8) (s : DebugLog) : DebugLog :=
  let s := s.captured payload
  { s with log := onLogMessage payload s.log }.feed .gui (s.completed payload)

/-- `fprintf` and `fflush`, with line ends as they are -/
def report (text : List UInt8) (s : DebugLog) : DebugLog :=
  match s.appLog with
  | none => s
  | some path =>
    let old := s.files path
    { s with
      files := Function.update s.files path
        (old.take s.appPos ++ text ++ old.drop (s.appPos + text.length))
      appPos := s.appPos + text.length }

/-- `fopen` for writing, with the first line -/
def openAppLog (path : String) (s : DebugLog) : DebugLog :=
  { s with appLog := some path, files := Function.update s.files path [] }.report
    (utf8 "qMonstatek: starting... (log file active)\n")

def msgHandler (t : Thread) (type : MsgType) (msg : String) (s : DebugLog) : DebugLog :=
  (s.report (noteText type msg)).feed t [noteLine type msg]

def handle (toLocalFile : String → String) (e : Event) (s : DebugLog) : DebugLog :=
  match e with
  | .message payload => s.onMessage payload
  | .note t type msg => s.msgHandler t type msg
  | .setGlobalLogModel => { s with modelSet := true }
  | .deliver => { s with model := s.model.deliver }
  | .clear => { s with model := s.model.clear }
  | .setLogToFile enabled o => s.setLogToFile enabled o
  | .setLogFilePath path o => s.setLogFilePath toLocalFile path o

/-- `main` opens its log file in the directory `temp`, or fails to -/
def launched (temp dir : String) (opens : Bool) (saved : Settings) (files : String → List UInt8) :
    DebugLog :=
  let s : DebugLog :=
    { logFilePath := saved.filePath.getD (dir ++ "/m1_uart.log"), files := files,
      settings := saved }
  if opens then s.openAppLog (temp ++ "/qmonstatek.log") else s

/-- and the device object is constructed, in the directory `dir` -/
def start (temp dir : String) (opens : Bool) (saved : Settings) (o : Opening)
    (files : String → List UInt8) : DebugLog :=
  let s := launched temp dir opens saved files
  if saved.enabled.getD false then s.setLogToFile true o else s

end DebugLog

/-! ## What a switch does -/

section
variable (o : Opening) (s : DebugLog)

/-- `s` with the capture file `file` -/
def DebugLog.at (file : String) (s : DebugLog) : DebugLog :=
  { s with logFilePath := file, settings := { s.settings with filePath := some file } }

/-- what `setLogToFile` makes of `s` -/
inductive Switch : Bool → DebugLog → Prop
  | same : Switch s.logToFile s
  | on (hoff : s.logToFile = false) (ho : o.error = none) :
    Switch true { s with
      logToFile := true
      logFile := some s.logFilePath
      files := Function.update s.files s.logFilePath (s.files s.logFilePath ++ header o.now)
      settings := { s.settings with enabled := some true }
      signals := s.signals ++ [.logToFileChanged true] }
  | failed (hoff : s.logToFile = false) (e : String) (ho : o.error = some e) :
    Switch true { s with
      settings := { s.settings with enabled := some false }
      signals := s.signals ++
        [.errorOccurred ("Cannot open log file: " ++ e), .logToFileChanged false] }
  | off (hon : s.logToFile = true) :
    Switch false { s with
      logToFile := false
      logFile := none
      settings := { s.settings with enabled := some false }
      signals := s.signals ++ [.logToFileChanged false] }

theorem setLogToFile_switch (enabled : Bool) : Switch o s enabled (s.setLogToFile enabled o) := by
  by_cases hsame : enabled = s.logToFile
  · subst hsame
    have h : s.setLogToFile s.logToFile o = s := if_pos rfl
    rw [h]
    exact .same
  · cases enabled with
    | true =>
      have hoff : s.logToFile = false := Bool.eq_false_iff.mpr (Ne.symm hsame)
      cases ho : o.error with
      | none =>
        have h := Switch.on hoff ho
        unfold DebugLog.setLogToFile
        rw [if_neg hsame, ho]
        exact h
      | some e =>
        have h := Switch.failed hoff e ho
        unfold DebugLog.setLogToFile DebugLog.emit
        rw [if_neg hsame, ho]
        dsimp only
        rw [if_pos rfl, List.append_assoc, ← hoff]
        rw [← hoff] at h
        exact h
    | false =>
      have hon : s.logToFile = true := Bool.ne_false_iff.mp (Ne.symm hsame)
      have h := Switch.off (o := o) hon
      unfold DebugLog.setLogToFile
      rw [if_neg hsame]
      dsimp only
      rw [if_neg Bool.false_ne_true]
      split
      · exact h
      · rename_i hclosed
        rw [Option.not_isSome_iff_eq_none.mp hclosed] at *
        exact h

/-- what `setLogFilePath` makes of `s`: with the capture on, it is switched off and on again -/
inductive Moved : DebugLog → Prop
  | same : Moved s
  | moved (file : String) (hfile : file ≠ s.logFilePath) (s' : DebugLog)
    (h : s.logToFile = false ∧ s' = s.at file ∨
      s.logToFile = true ∧ ∃ s₁, Switch o (s.at file) false s₁ ∧ Switch o s₁ true s') :
    Moved { s' with signals := s'.signals ++ [.logFilePathChanged s'.logFilePath] }

theorem setLogFilePath_moved (toLocalFile : String → String) (path : String) :
    Moved o s (s.setLogFilePath toLocalFile path o) := by
  unfold DebugLog.setLogFilePath
  dsimp only
  generalize (if path.startsWith "file:" then toLocalFile path else path) = file
  by_cases hfile : file = "" ∨ file = s.logFilePath
  · rw [if_pos hfile]
    exact .same
  · have hne := (not_or.mp hfile).2
    rw [if_neg hfile]
    split
    · rename_i hon
      exact .moved file hne _ (.inr ⟨hon, _, setLogToFile_switch o _ false,
        setLogToFile_switch o _ true⟩)
    · rename_i hoff
      exact .moved file hne _ (.inl ⟨Bool.eq_false_iff.mpr hoff, rfl⟩)

end

/-! ## The lines -/

/-- what has been logged -/
structure Journal where
  /-- the bytes of the device's log -/
  stream : List UInt8 := []
  modelSet : Bool := false
  /-- every line since there is a log model, and since the last `clear` -/
  lines : List String := []

def Journal.feed (lines : List String) (j : Journal) : Journal :=
  if j.modelSet then { j with lines := j.lines ++ lines } else j

/-- the lines that the bytes `payload` complete -/
def fresh (stream payload : List UInt8) : List (List Char) :=
  logLines (complete 10 (openPart 10 stream ++ payload))

theorem logLines_stream (stream payload : List UInt8) :
    logLines (complete 10 (stream ++ payload)) =
      logLines (complete 10 stream) ++ fresh stream payload := by
  rw [(append 10 stream payload).1, logLines_append]
  rfl

def Journal.handle (e : Event) (j : Journal) : Journal :=
  match e with
  | .message payload =>
    { j with stream := j.stream ++ payload }.feed ((fresh j.stream payload).map m1Line)
  | .note _ type msg => j.feed [noteLine type msg]
  | .setGlobalLogModel => { j with modelSet := true }
  | .clear => { j with lines := [] }
  | _ => j

/-- the debug log keeps the end of the journal -/
structure Shows (j : Journal) (s : DebugLog) : Prop where
  log : LoggedSoFar j.stream s.log
  modelSet : s.modelSet = j.modelSet
  lines : s.model.lines = j.lines.rtake MAX_LINES

/-- while a notice is on its way to the list view, no line goes and the log is not cleared -/
def Settled (e : Event) (s : DebugLog) : Prop :=
  match e with
  | .message payload => s.model.Fits (s.completed payload).length
  | .note _ _ _ => s.model.Fits 1
  | .clear => s.model.posted = []
  | _ => True

/-- no line of the socket worker -/
def OnGui : Event → Prop
  | .note .worker _ _ => False
  | _ => True

section
variable {j : Journal} {s s' : DebugLog} {o : Opening}

/-- a switch of the capture, or a line in a file, leaves the lines alone -/
def SameLines (s s' : DebugLog) : Prop :=
  s'.log = s.log ∧ s'.modelSet = s.modelSet ∧ s'.model = s.model

theorem SameLines.trans {s'' : DebugLog} (h : SameLines s s') (h' : SameLines s' s'') :
    SameLines s s'' := ⟨h'.1.trans h.1, h'.2.1.trans h.2.1, h'.2.2.trans h.2.2⟩

theorem Switch.sameLines {enabled : Bool} (h : Switch o s enabled s') : SameLines s s' := by
  cases h <;> exact ⟨rfl, rfl, rfl⟩

theorem Moved.sameLines (h : Moved o s s') : SameLines s s' := by
  cases h with
  | same => exact ⟨rfl, rfl, rfl⟩
  | moved file hfile s₂ h =>
    rcases h with ⟨-, rfl⟩ | ⟨-, s₁, hoff, hon⟩
    · exact ⟨rfl, rfl, rfl⟩
    · exact hoff.sameLines.trans hon.sameLines

theorem sameLines_captured (s : DebugLog) (payload : List UInt8) :
    SameLines s (s.captured payload) := by
  unfold DebugLog.captured
  split
  · unfold DebugLog.write
    split <;> exact ⟨rfl, rfl, rfl⟩
  · exact ⟨rfl, rfl, rfl⟩

theorem sameLines_report (s : DebugLog) (text : List UInt8) : SameLines s (s.report text) := by
  unfold DebugLog.report
  split <;> exact ⟨rfl, rfl, rfl⟩

theorem completed_captured (s : DebugLog) (payload : List UInt8) :
    (s.captured payload).completed payload = s.completed payload := by
  unfold DebugLog.completed
  rw [(sameLines_captured s payload).1]

theorem Shows.congr (h : Shows j s) (hs : SameLines s s') : Shows j s' :=
  ⟨hs.1.symm ▸ h.log, hs.2.1.trans h.modelSet, (congrArg LogModel.lines hs.2.2).trans h.lines⟩

theorem Shows.feed (h : Shows j s) (t : Thread) (lines : List String) :
    Shows (j.feed lines) (s.feed t lines) := by
  unfold DebugLog.feed Journal.feed
  rw [h.modelSet]
  split
  · exact ⟨h.log, rfl, LogModel.append_all h.lines t lines⟩
  · exact h

theorem Shows.onMessage (h : Shows j s) (payload : List UInt8) :
    Shows (j.handle (.message payload)) (s.onMessage payload) := by
  have hsame := h.congr (sameLines_captured s payload)
  have hlog := hsame.log.message payload
  have hfresh : (s.captured payload).completed payload =
      (fresh j.stream payload).map m1Line := by
    unfold DebugLog.completed
    rw [hlog.received, hsame.log.received, logLines_stream, List.drop_left]
  have hread : Shows { j with stream := j.stream ++ payload }
      { s.captured payload with log := onLogMessage payload (s.captured payload).log } :=
    ⟨hlog, hsame.modelSet, hsame.lines⟩
  have hfed := hread.feed .gui ((s.captured payload).completed payload)
  rw [hfresh] at hfed
  unfold DebugLog.onMessage
  dsimp only
  rw [hfresh]
  exact hfed

theorem Shows.handle (h : Shows j s) (toLocalFile : String → String) (e : Event) :
    Shows (j.handle e) (s.handle toLocalFile e) := by
  cases e with
  | message payload => exact h.onMessage payload
  | note t type msg => exact (h.congr (sameLines_report s _)).feed t _
  | setGlobalLogModel => exact ⟨h.log, rfl, h.lines⟩
  | deliver => exact ⟨h.log, h.modelSet, (LogModel.deliver_lines s.model).trans h.lines⟩
  | clear => exact ⟨h.log, h.modelSet, (List.rtake_nil _).symm⟩
  | setLogToFile enabled o => exact h.congr (setLogToFile_switch o s enabled).sameLines
  | setLogFilePath path o => exact h.congr (setLogFilePath_moved o s toLocalFile path).sameLines

/-! ## The list view -/

theorem feed_following {t : Thread} {lines : List String}
    (h : LogModel.Following s.model)
    (hfed : LogModel.Following (lines.foldl (fun m line => m.append t line) s.model)) :
    LogModel.Following (s.feed t lines).model := by
  unfold DebugLog.feed
  split
  · exact hfed
  · exact h

theorem handle_following (toLocalFile : String → String) (e : Event) (s : DebugLog)
    (h : LogModel.Following s.model) (hok : Settled e s) :
    LogModel.Following (s.handle toLocalFile e).model := by
  cases e with
  | message payload =>
    have hmodel : (s.captured payload).model = s.model := (sameLines_captured s payload).2.2
    unfold DebugLog.handle DebugLog.onMessage
    dsimp only
    rw [completed_captured]
    refine feed_following ?_ ?_
    · rw [hmodel]
      exact h
    · rw [hmodel]
      exact LogModel.append_all_following h _ hok
  | note t type msg =>
    have hmodel : (s.report (noteText type msg)).model = s.model := (sameLines_report s _).2.2
    refine feed_following ?_ ?_
    · rw [hmodel]
      exact h
    · rw [hmodel]
      exact LogModel.append_following h hok t _
  | setGlobalLogModel => exact h
  | deliver => exact LogModel.deliver_following h
  | clear => exact LogModel.clear_following hok
  | setLogToFile enabled o =>
    rw [show (s.handle toLocalFile (.setLogToFile enabled o)).model = s.model from
      (setLogToFile_switch o s enabled).sameLines.2.2]
    exact h
  | setLogFilePath path o =>
    rw [show (s.handle toLocalFile (.setLogFilePath path o)).model = s.model from
      (setLogFilePath_moved o s toLocalFile path).sameLines.2.2]
    exact h

theorem feed_gui_posted (lines : List String) (s : DebugLog) :
    (s.feed .gui lines).model.posted = s.model.posted := by
  unfold DebugLog.feed
  split
  · exact LogModel.append_all_gui_posted lines s.model
  · rfl

/-- with the GUI thread alone nothing is ever on its way -/
theorem handle_onGui (toLocalFile : String → String) (e : Event) (s : DebugLog)
    (h : s.model.posted = []) (he : OnGui e) :
    Settled e s ∧ (s.handle toLocalFile e).model.posted = [] := by
  have hsame {s' : DebugLog} (hs : SameLines s s') : s'.model.posted = [] := by
    rw [hs.2.2]
    exact h
  cases e with
  | message payload =>
    refine ⟨.inl h, (feed_gui_posted _ _).trans ?_⟩
    exact (congrArg LogModel.posted (sameLines_captured s payload).2.2).trans h
  | note t type msg =>
    cases t with
    | gui => exact ⟨.inl h, (feed_gui_posted _ _).trans (hsame (sameLines_report s _))⟩
    | worker => exact he.elim
  | setGlobalLogModel => exact ⟨trivial, h⟩
  | deliver =>
    refine ⟨trivial, ?_⟩
    show s.model.deliver.posted = []
    unfold LogModel.deliver
    rw [h]
    exact h
  | clear => exact ⟨h, h⟩
  | setLogToFile enabled o => exact ⟨trivial, hsame (setLogToFile_switch o s enabled).sameLines⟩
  | setLogFilePath path o =>
    exact ⟨trivial, hsame (setLogFilePath_moved o s toLocalFile path).sameLines⟩

end

/-! ## Runs -/

/-- what the start leaves -/
theorem start_sameLines (temp dir : String) (opens : Bool) (saved : Settings) (o : Opening)
    (files : String → List UInt8) :
    SameLines { logFilePath := "", files := files }
      (DebugLog.start temp dir opens saved o files) := by
  have hlaunched : SameLines { logFilePath := "", files := files }
      (DebugLog.launched temp dir opens saved files) := by
    unfold DebugLog.launched
    dsimp only
    split
    · exact sameLines_report _ _
    · exact ⟨rfl, rfl, rfl⟩
  unfold DebugLog.start
  dsimp only
  split
  · exact hlaunched.trans (setLogToFile_switch o _ true).sameLines
  · exact hlaunched

/-- **The debug log**: over any run from the start of the application, the log model keeps the
last 5000 lines of what was logged since the last `clear`, and the device's lines are those of its
log as one stream.  As long as no line goes, and the log is not cleared, while a notice of the
socket worker's lines is on its way, the list view catches up with the log model; and where the
worker logs nothing it shows the log model's lines in every state. -/
theorem debugLog_shows (toLocalFile : String → String) (temp dir : String) (opens : Bool)
    (saved : Settings) (o : Opening) (files : String → List UInt8) (es : List Event) :
    let s := DebugLog.start temp dir opens saved o files
    let s' := exec (DebugLog.handle toLocalFile) es s
    Shows (exec Journal.handle es {}) s' ∧
      (Along (DebugLog.handle toLocalFile) Settled es s → s'.model.caughtUp = s'.model.lines) ∧
      ((∀ e ∈ es, OnGui e) → s'.model.view = s'.model.lines) := by
  intro s s'
  have hsame : SameLines _ s := start_sameLines temp dir opens saved o files
  have hinit : Shows {} { logFilePath := "", files := files } :=
    ⟨⟨rfl, rfl⟩, rfl, (List.rtake_nil _).symm⟩
  have hmodel : s.model = {} := hsame.2.2
  have follows (hok : Along (DebugLog.handle toLocalFile) Settled es s) :
      LogModel.Following s'.model := by
    refine throughout_last _ es s (throughout_of_along _ (fun _ h => h)
      (I := fun s => LogModel.Following s.model)
      (fun e s h hok => handle_following toLocalFile e s h hok) es s ?_ hok)
    rw [hmodel]
    exact LogModel.following_init
  refine ⟨exec_related (R := Shows) (fun e _ _ h => h.handle toLocalFile e) es
    (hinit.congr hsame), fun hok => (follows hok).due.followed, fun hgui => ?_⟩
  have hnone : s.model.posted = [] := by rw [hmodel]
  have halong : Along (DebugLog.handle toLocalFile) (fun e _ => OnGui e) es s :=
    along_of_forall _ es s fun e he _ => hgui e he
  refine (follows ?_).view_eq ?_
  · exact along_of_along _ (I := fun s => s.model.posted = [])
      (fun e s h he => handle_onGui toLocalFile e s h he) es s hnone halong
  · exact throughout_last _ es s (throughout_of_along _ (I := fun s => s.model.posted = [])
      (fun _ h => h) (fun e s h he => (handle_onGui toLocalFile e s h he).2) es s hnone halong)

end QMon.Logging
