import NxReverse.Lib.Text
import NxReverse.Lib.TrackedPrograms
import NxReverse.Toolbox.ManualBsdLifecycle

/-! `__appInit`, which starts the services of the process and traces each start, on the debug output and, once the SD
card is mounted, in a file that first gets what was traced before. -/
namespace NxReverse.Toolbox.Startup

open Text Program

inductive StartupCall where
  | smInitialize | setsysInitialize | setsysGetFirmwareVersion | appletInitialize | hidInitialize | timeInitialize
  | fsInitialize | fsdevMountSdmc
  deriving DecidableEq, Repr

inductive StartupStep where
  | libnxInitTime | libnxInitCwd | nxWinInit | userAppInit
  deriving DecidableEq, Repr

/-- The error that the process is aborted with. -/
inductive InitFail where
  | sm | am | hid | time | fs
  deriving DecidableEq, Repr

def StartupCall.name : StartupCall → CString
  | smInitialize => "smInitialize".toList
  | setsysInitialize => "setsysInitialize".toList
  | setsysGetFirmwareVersion => "setsysGetFirmwareVersion".toList
  | appletInitialize => "appletInitialize".toList
  | hidInitialize => "hidInitialize".toList
  | timeInitialize => "timeInitialize".toList
  | fsInitialize => "fsInitialize".toList
  | fsdevMountSdmc => "fsdevMountSdmc".toList

def StartupCall.initFail : StartupCall → Option InitFail
  | smInitialize => some .sm
  | appletInitialize => some .am
  | hidInitialize => some .hid
  | timeInitialize => some .time
  | fsInitialize => some .fs
  | setsysInitialize | setsysGetFirmwareVersion | fsdevMountSdmc => none

def StartupStep.name : StartupStep → CString
  | libnxInitTime => "__libnx_init_time".toList
  | libnxInitCwd => "__libnx_init_cwd".toList
  | nxWinInit => "__nx_win_init".toList
  | userAppInit => "userAppInit".toList

structure FirmwareVersion where
  major : UInt8
  minor : UInt8
  micro : UInt8
  deriving DecidableEq, Repr

inductive StartupCommand where
  | call (call : StartupCall)
  | perform (step : StartupStep)
  | hosversionGet
  | firmwareVersion
  | hosversionSet (version : UInt32)
  | setsysExit
  | appletTypeIsNone
  | mkdir (path : CString)
  | outputDebugString (line : CString)
  | appendLine (line : CString)
  deriving DecidableEq, Repr

/-- A line is appended if the file can be opened. -/
abbrev StartupCommand.Answer : StartupCommand → Type
  | call _ | hosversionGet => UInt32
  | firmwareVersion => FirmwareVersion
  | appletTypeIsNone | appendLine _ => Bool
  | perform _ | hosversionSet _ | setsysExit | mkdir _ | outputDebugString _ => Unit

abbrev StartupExchange := Exchange StartupCommand.Answer

def maxStartupEvents : Nat := 48

structure StartupEvent where
  phase : CString
  rc : Option UInt32
  deriving DecidableEq, Repr

structure StartupTrace where
  events : List StartupEvent
  fileReady : Bool
  deriving DecidableEq, Repr

abbrev StartupProgram := ExceptT InitFail (StateT StartupTrace (Program StartupCommand.Answer))

def ask (command : StartupCommand) : StartupProgram command.Answer :=
  ExceptT.lift (StateT.lift (Program.perform command))

namespace StartupEvent

variable (event : StartupEvent)

/-- `%s` and, with a result, `%s rc=0x%08x`. -/
def text : CString :=
  event.phase ++ (event.rc.map fun rc => " rc=0x".toList ++ (Nat.toDigits 16 rc.toNat).leftpad 8 '0').getD []

def line : CString := snprintf 256 ("toolbox startup: ".toList ++ event.text)

def replayLine : CString := snprintf 256 ("toolbox startup replay: ".toList ++ event.text)

end StartupEvent

/-- `FormatAndEmit` of a line. -/
def emit (line : CString) : StartupProgram Unit := do
  ask (.outputDebugString line)
  if (← get).fileReady then
    let _ ← ask (.appendLine line)

def recordStartupEvent (phase : CString) (rc : Option UInt32) : StartupProgram Unit := do
  modify fun trace =>
    { trace with events := if trace.events.length < maxStartupEvents then trace.events ++ [⟨phase,rc⟩] else trace.events }
  emit (StartupEvent.line ⟨phase,rc⟩)

def readyLine : CString := "toolbox startup: file log ready".toList

def enableStartupFileLog : StartupProgram Unit := do
  ask (.mkdir "sdmc:/nxrv".toList)
  ask (.mkdir "sdmc:/nxrv/toolbox".toList)
  modify fun trace => { trace with fileReady := true }
  let _ ← ask (.appendLine readyLine)
  (← get).events.forM fun event => emit event.replayLine

/-- A call that the process cannot go on without. -/
def required (call : StartupCall) (failure : InitFail) : StartupProgram Unit := do
  recordStartupEvent (call.name ++ " begin".toList) none
  let rc ← ask (.call call)
  if rc ≠ 0 then
    recordStartupEvent (call.name ++ " failed".toList) (some rc)
    throw failure
  recordStartupEvent (call.name ++ " complete".toList) (some rc)

def tried (call : StartupCall) : StartupProgram UInt32 := do
  recordStartupEvent (call.name ++ " begin".toList) none
  let rc ← ask (.call call)
  recordStartupEvent (call.name ++ " complete".toList) (some rc)
  return rc

def performed (step : StartupStep) : StartupProgram Unit := do
  recordStartupEvent (step.name ++ " begin".toList) none
  ask (.perform step)
  recordStartupEvent (step.name ++ " complete".toList) none

def readFirmware : StartupProgram Unit := do
  let rc ← tried .setsysGetFirmwareVersion
  if rc = 0 then
    let fw ← ask .firmwareVersion
    ask (.hosversionSet (ManualBsd.makeHosVersion fw.major.toUInt32 fw.minor.toUInt32 fw.micro.toUInt32))
  ask .setsysExit
  recordStartupEvent "setsysExit complete".toList none

def initHosversion : StartupProgram Unit := do
  let version ← ask .hosversionGet
  if version = 0 then
    let rc ← tried .setsysInitialize
    if rc = 0 then readFirmware
  else
    let version ← ask .hosversionGet
    recordStartupEvent "hosversion already set".toList (some version)

def initHid : StartupProgram Unit := do
  if ← ask .appletTypeIsNone then recordStartupEvent "hidInitialize skipped applet_type_none".toList none
  else required .hidInitialize .hid

/-- Up to the file system. -/
def initServices : StartupProgram Unit := do
  recordStartupEvent "__appInit enter".toList none
  required .smInitialize .sm
  initHosversion
  required .appletInitialize .am
  initHid
  required .timeInitialize .time
  performed .libnxInitTime
  required .fsInitialize .fs

/-- A call of a function that may not be linked. -/
def performedIf (linked : Bool) (step : StartupStep) : StartupProgram Unit :=
  if linked then performed step else recordStartupEvent (step.name ++ " absent".toList) none

def initProcess (winInit userAppInit : Bool) : StartupProgram Unit := do
  performed .libnxInitCwd
  performedIf winInit .nxWinInit
  performedIf userAppInit .userAppInit
  recordStartupEvent "__appInit exit".toList none

def appInit (winInit userAppInit : Bool) : StartupProgram Unit := do
  initServices
  let rc ← tried .fsdevMountSdmc
  if rc = 0 then enableStartupFileLog
  initProcess winInit userAppInit

end NxReverse.Toolbox.Startup
