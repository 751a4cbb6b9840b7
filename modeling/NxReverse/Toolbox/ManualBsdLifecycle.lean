import NxReverse.Lib.Custody
import NxReverse.Toolbox.TunnelScenario

/-! `RunManualBsdLifecycle` as a program over the calls that it makes, under any set of phases that passes the static
assertions of the configuration. Log lines are left out, with the process and program ids that only they read. -/
namespace NxReverse.Toolbox.ManualBsd

open Text Words Program

/-- A result of which `R_FAILED` holds. -/
abbrev Failure := {rc : UInt32 // rc ≠ 0}

structure SocketInitConfig where
  tcpTxBufSize : UInt32
  tcpRxBufSize : UInt32
  tcpTxBufMaxSize : UInt32
  tcpRxBufMaxSize : UInt32
  udpTxBufSize : UInt32
  udpRxBufSize : UInt32
  sbEfficiency : UInt32
  deriving DecidableEq, Repr

def socketConfigApplication : SocketInitConfig :=
  ⟨1024 * 64,1024 * 64,1024 * 1024 * 4,1024 * 1024 * 4,0x2400,0xA500,8⟩

def socketConfigApplet : SocketInitConfig := ⟨1024 * 32,1024 * 64,1024 * 256,1024 * 256,0x2400,0xA500,4⟩

/-- The phases that are compiled in, with the assertions between them. -/
structure ManualBsdConfig where
  openMonitorSession : Bool
  createTransferMemory : Bool
  registerClient : Bool
  startMonitoring : Bool
  cloneRootSession : Bool
  registersMemory : registerClient = true → createTransferMemory = true
  monitorsClient : startMonitoring = true → registerClient = true
  monitorsSession : startMonitoring = true → openMonitorSession = true
  clonesRegistered : cloneRootSession = true → registerClient = true
  deriving DecidableEq, Repr

structure Service where
  session : UInt32
  ownHandle : UInt32
  objectId : UInt32
  deriving DecidableEq, Repr

/-- A service that was handed out is active. -/
abbrev ActiveService := {service : Service // service.session ≠ 0}

structure TransferMemory where
  handle : UInt32
  size : UInt64
  deriving DecidableEq, Repr

structure BsdServiceConfig where
  version : UInt32
  tcpTxBufSize : UInt32
  tcpRxBufSize : UInt32
  tcpTxBufMaxSize : UInt32
  tcpRxBufMaxSize : UInt32
  udpTxBufSize : UInt32
  udpRxBufSize : UInt32
  sbEfficiency : UInt32
  deriving DecidableEq, Repr

structure RegisterClientRequest where
  config : BsdServiceConfig
  pidPlaceholder : UInt64
  transferMemorySize : UInt64
  deriving DecidableEq, Repr

/-- A member of the state is handed over as it is, also where nothing was obtained. -/
inductive BsdCommand where
  | isApplication
  | hosversionGet
  | smGetService (name : CString)
  | tmemCreate (size : UInt64)
  | registerClient (root : Option ActiveService) (request : RegisterClientRequest) (memory : Option TransferMemory)
  | startMonitoring (monitor : Option ActiveService) (clientId : UInt64)
  | serviceClone (root : Option ActiveService)
  | sendCloseRequest (session objectId : UInt32)
  | closeHandle (handle : UInt32)
  | tmemClose (memory : TransferMemory)
  deriving DecidableEq, Repr

abbrev BsdCommand.Answer : BsdCommand → Type
  | isApplication => Bool
  | hosversionGet => UInt32
  | smGetService _ | serviceClone _ => Except Failure ActiveService
  | tmemCreate _ => Except Failure TransferMemory
  | registerClient _ _ _ => Except Failure UInt64
  | startMonitoring _ _ => Except Failure Unit
  | sendCloseRequest _ _ | closeHandle _ | tmemClose _ => UInt32

abbrev BsdProgram := Program BsdCommand.Answer

abbrev BsdExchange := Exchange BsdCommand.Answer

def makeHosVersion (major minor micro : UInt32) : UInt32 := major <<< 16 ||| minor <<< 8 ||| micro

def selectBsdVersion (hosversion : UInt32) : UInt32 :=
  let hosversionBefore (major : UInt32) : Bool := hosversion < makeHosVersion major 0 0
  if hosversionBefore 3 then 1
  else if hosversionBefore 4 then 2
  else if hosversionBefore 5 then 3
  else if hosversionBefore 6 then 4
  else if hosversionBefore 8 then 5
  else if hosversionBefore 9 then 6
  else if hosversionBefore 13 then 7
  else if hosversionBefore 16 then 8
  else 9

def calculateTransferMemorySize (config : SocketInitConfig) : UInt64 :=
  let tcpTxMax := if config.tcpTxBufMaxSize ≠ 0 then config.tcpTxBufMaxSize else config.tcpTxBufSize
  let tcpRxMax := if config.tcpRxBufMaxSize ≠ 0 then config.tcpRxBufMaxSize else config.tcpRxBufSize
  let sum := tcpTxMax + tcpRxMax + config.udpTxBufSize + config.udpRxBufSize
  let sum := (sum + 0xFFF) &&& ~~~0xFFF
  config.sbEfficiency.toUInt64 * sum.toUInt64

def registerClientRequest (version : UInt32) (config : SocketInitConfig) (transferMemorySize : UInt64) :
    RegisterClientRequest where
  config := ⟨version,config.tcpTxBufSize,config.tcpRxBufSize,config.tcpTxBufMaxSize,config.tcpRxBufMaxSize,
    config.udpTxBufSize,config.udpRxBufSize,config.sbEfficiency⟩
  pidPlaceholder := 0
  transferMemorySize := transferMemorySize

/-- The members are there once they were obtained. -/
structure ManualBsdState where
  root : Option ActiveService
  monitor : Option ActiveService
  clone : Option ActiveService
  transferMemory : Option TransferMemory
  deriving DecidableEq, Repr

def ManualBsdState.start : ManualBsdState := ⟨none,none,none,none⟩

/-- The close request of an owned session names object 0. -/
def closeServiceTraced : Option ActiveService → BsdProgram Unit
  | none => return ()
  | some ⟨service,_⟩ => do
    if service.ownHandle ≠ 0 then
      let _ ← perform (BsdCommand.sendCloseRequest service.session 0)
      let _ ← perform (BsdCommand.closeHandle service.session)
    else if service.objectId ≠ 0 then
      let _ ← perform (BsdCommand.sendCloseRequest service.session service.objectId)

def cleanup (state : ManualBsdState) : BsdProgram UInt32 := do
  closeServiceTraced state.clone
  closeServiceTraced state.monitor
  closeServiceTraced state.root
  match state.transferMemory with
  | none => return 0
  | some memory => perform (BsdCommand.tmemClose memory)

structure PhaseFailure where
  state : ManualBsdState
  rc : Failure
  phase : CString

abbrev PhaseProgram := ExceptT PhaseFailure BsdProgram

def call (command : BsdCommand) : PhaseProgram command.Answer := ExceptT.lift (perform command)

/-- `FinishWithFailure` is left to the caller. -/
def orFail {α : Type} (state : ManualBsdState) (phase : CString) : Except Failure α → PhaseProgram α
  | .ok value => return value
  | .error rc => throw ⟨state,rc,phase⟩

def openRoot (state : ManualBsdState) : PhaseProgram ManualBsdState := do
  let answer ← call (.smGetService "bsd:s".toList)
  let root ← orFail state "open_root".toList answer
  return { state with root := some root }

def openMonitor (state : ManualBsdState) : PhaseProgram ManualBsdState := do
  let answer ← call (.smGetService "bsd:s".toList)
  let monitor ← orFail state "open_monitor".toList answer
  return { state with monitor := some monitor }

def createTmem (config : SocketInitConfig) (state : ManualBsdState) : PhaseProgram ManualBsdState := do
  let answer ← call (.tmemCreate (calculateTransferMemorySize config))
  let memory ← orFail state "create_tmem".toList answer
  return { state with transferMemory := some memory }

def registerClient (version : UInt32) (config : SocketInitConfig) (state : ManualBsdState) : PhaseProgram UInt64 := do
  let size := match state.transferMemory with
    | some memory => memory.size
    | none => 0
  let answer ← call (.registerClient state.root (registerClientRequest version config size) state.transferMemory)
  orFail state "register_client".toList answer

def startMonitoring (clientId : UInt64) (state : ManualBsdState) : PhaseProgram Unit := do
  let answer ← call (.startMonitoring state.monitor clientId)
  orFail state "start_monitoring".toList answer

def cloneRoot (state : ManualBsdState) : PhaseProgram ManualBsdState := do
  let answer ← call (.serviceClone state.root)
  let clone ← orFail state "clone_root".toList answer
  return { state with clone := some clone }

/-- A phase that is compiled in, or what stands in for it. -/
def ifEnabled {α : Type} (enabled : Bool) (phase : PhaseProgram α) (skipped : α) : PhaseProgram α :=
  if enabled then phase else pure skipped

/-- The phases one after the other: the state behind them and the client id. -/
def runPhases (phases : ManualBsdConfig) (version : UInt32) (config : SocketInitConfig) :
    PhaseProgram (ManualBsdState × UInt64) := do
  let state ← openRoot .start
  let state ← ifEnabled phases.openMonitorSession (openMonitor state) state
  let state ← ifEnabled phases.createTransferMemory (createTmem config state) state
  let clientId ← ifEnabled phases.registerClient (registerClient version config state) 0xFFFFFFFFFFFFFFFF
  ifEnabled phases.startMonitoring (startMonitoring clientId state) ()
  let state ← ifEnabled phases.cloneRootSession (cloneRoot state) state
  return (state,clientId)

def scenarioName : CString := "manual_bsd_lifecycle".toList

def finishWithFailure (failure : PhaseFailure) : BsdProgram ScenarioResult := do
  let _ ← cleanup failure.state
  return .failure scenarioName failure.rc (failure.phase ++ " failed: ".toList ++ formatResult failure.rc)

def flagText (flag : Bool) : CString := decimal flag.toNat

def successText (phases : ManualBsdConfig) (clientId : UInt64) : CString :=
  "register_client=".toList ++ flagText phases.registerClient ++ " client_id=".toList ++ decimal clientId.toNat ++
    " monitor=".toList ++ flagText phases.startMonitoring ++ " clone=".toList ++ flagText phases.cloneRootSession

def runManualBsdLifecycle (phases : ManualBsdConfig) : BsdProgram ScenarioResult := do
  let isApplication ← perform BsdCommand.isApplication
  let config := if isApplication then socketConfigApplication else socketConfigApplet
  let hosversion ← perform BsdCommand.hosversionGet
  match ← (runPhases phases (selectBsdVersion hosversion) config).run with
  | .error failure => finishWithFailure failure
  | .ok (state,clientId) =>
    let rc ← cleanup state
    if rc ≠ 0 then return .failure scenarioName rc ("cleanup failed: ".toList ++ formatResult rc)
    else return ⟨scenarioName,true,false,0,0,0,successText phases clientId⟩

end NxReverse.Toolbox.ManualBsd
