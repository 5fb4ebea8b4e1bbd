import QMonstatek.Updater.Download

/-!
# Programmers as processes

`QProcess` as far as the flasher and the recovery use it, and what the host answers about the
programmers.

`Process`   a started program; it runs until it ends or is killed;
`Exit`      the arguments of `finished`, with what is left to read;
`Wait`      the signals that come before `waitForFinished` returns.
-/

namespace QMon.Updater

inductive Platform where
  | windows
  | linux
  | mac
  deriving DecidableEq, Repr

structure FileInfo where
  /-- not a directory -/
  isFile : Bool
  size : Nat
  absoluteFilePath : String
  deriving DecidableEq, Repr

/-- what the host answers about the programmers and the files they are given -/
structure ToolHost extends Host where
  platform : Platform
  /-- `stm32prog/stm32_dfu_flash.exe` beside the application, where it exists -/
  bundledHelper : Option String
  /-- `ToolPaths::findCubeProgrammerCli()`, empty when there is none -/
  findCubeProgrammerCli : String
  /-- `ToolPaths::findOpenOcd()` -/
  findOpenOcd : String
  /-- `ToolPaths::findOpenOcdScripts(path)` -/
  findOpenOcdScripts : String → String
  /-- what `--version` writes within its three seconds -/
  version : String → Option (List UInt8)
  /-- `QFileInfo(path)` of what exists -/
  fileInfo : String → Option FileInfo
  toNativeSeparators : String → String
  /-- whether `QProcess::start` gets the program to run -/
  starts : String → List String → Bool

/-- a host with the bundled helper and a firmware file -/
def ToolHost.withHelper : ToolHost where
  tempPath := "C:/Temp"
  absolutePath := fun _ => "C:/M1"
  platform := .windows
  bundledHelper := some "C:/qM/stm32prog/stm32_dfu_flash.exe"
  findCubeProgrammerCli := ""
  findOpenOcd := ""
  findOpenOcdScripts := fun _ => ""
  version := fun _ => none
  fileInfo := fun _ => some { isFile := true, size := 4096, absoluteFilePath := "C:/M1/m1.bin" }
  toNativeSeparators := id
  starts := fun _ _ => true

structure Process where
  program : String
  args : List String
  running : Bool
  deriving DecidableEq, Repr

inductive ExitStatus where
  | normalExit
  | crashExit
  deriving DecidableEq, Repr

/-- `finished`, with what the process member has left to read -/
structure Exit where
  exitCode : Int
  exitStatus : ExitStatus := .normalExit
  /-- the standard output, or both channels where they are merged -/
  output : List UInt8 := []
  errorOutput : List UInt8 := []
  deriving DecidableEq, Repr

inductive ProcessError where
  | failedToStart
  | crashed
  | timedout
  | readError
  | writeError
  | unknownError
  deriving DecidableEq, Repr

/-- the value of the enumerator -/
def ProcessError.number : ProcessError → Nat
  | .failedToStart => 0
  | .crashed => 1
  | .timedout => 2
  | .readError => 3
  | .writeError => 4
  | .unknownError => 5

inductive ProcessSignal where
  | readyRead (bytes : List UInt8)
  | errorOccurred (error : ProcessError)
  deriving DecidableEq, Repr

/-- what `waitForFinished` delivers before it returns -/
structure Wait where
  signals : List ProcessSignal := []
  /-- the end of the process, where it comes within the time -/
  ended : Option Exit := none
  deriving DecidableEq, Repr

def FLASH_BANK_SIZE : Nat := 0x100000

end QMon.Updater
