import NxReverse.Lib.Custody
import NxReverse.Lib.Text
import NxReverse.Lib.Words

/-! `RunProbe` as a program over the calls that it makes. A call that hands out a session or a handle answers with
it or with the result it failed with. Log lines are left out, with the checks for null pointers that nothing here
passes. -/
namespace NxReverse.Probe.DriverProbe

open Text Words Program

/-- A result of which `R_FAILED` holds. -/
abbrev Failure := {rc : UInt32 // rc ≠ 0}

/-- A session that was handed out. A `Service` without one is not active. -/
abbrev Session := {handle : UInt32 // handle ≠ 0}

def networkInterfaceInfoSize : Nat := 0xB0

def openNetworkInterfaceKeySize : Nat := 0x10

def maxCapturedInterfaces : Nat := 4

abbrev InterfaceList := {bytes : Bytes // bytes.length = networkInterfaceInfoSize * maxCapturedInterfaces}

structure InterfaceListAnswer where
  entryCount : UInt32
  records : InterfaceList
  deriving DecidableEq, Repr

structure HandleSetAnswer where
  scalar : UInt32
  first : UInt32
  second : UInt32
  third : UInt32
  deriving DecidableEq, Repr

inductive ProbeCommand where
  | smInitialize
  | smExit
  | smGetService (name : CString)
  | nifmInitialize
  | nifmGetInternetConnectionStatus
  | nifmExit
  | createDriverService (creator : Session)
  | getDriverInfo (driver : Session)
  | getNetworkInterfaceList (driver : Session)
  | getStateChangedEvent (driver : Session)
  | getNetworkInterfaceListUpdatedEvent (driver : Session)
  | openNetworkInterface (driver : Session) (key : Bytes)
  | command5 (interface : Session)
  | command6 (interface : Session)
  | command0x80 (interface : Session)
  | command0x82 (interface : Session)
  | command0x83 (interface : Session)
  | createUserService (bsdNu : Session)
  | assignNetworkInterface (user interface : Session)
  | addSession (assigned interface : Session)
  | closeHandle (handle : UInt32)
  | serviceClose (session : Session)
  deriving DecidableEq, Repr

abbrev ProbeCommand.Answer : ProbeCommand → Type
  | smInitialize | nifmInitialize | nifmGetInternetConnectionStatus | command5 _ | command6 _ | command0x80 _
  | addSession _ _ => Except Failure Unit
  | smExit | nifmExit | closeHandle _ | serviceClose _ => Unit
  | smGetService _ | createDriverService _ | openNetworkInterface _ _ | createUserService _
  | assignNetworkInterface _ _ => Except Failure Session
  | getDriverInfo _ => Except Failure UInt64
  | getNetworkInterfaceList _ => Except Failure InterfaceListAnswer
  | getStateChangedEvent _ | getNetworkInterfaceListUpdatedEvent _ => Except Failure UInt32
  | command0x82 _ | command0x83 _ => Except Failure HandleSetAnswer

abbrev ProbeProgram := Program ProbeCommand.Answer

abbrev ProbeExchange := Exchange ProbeCommand.Answer

abbrev ask (command : ProbeCommand) : ProbeProgram command.Answer := perform command

def invalidHandle : UInt32 := 0

def closeService : Option Session → ProbeProgram Unit
  | none => return ()
  | some session => ask (.serviceClose session)

def probeInternetConnection : ProbeProgram Unit := do
  match ← ask .nifmInitialize with
  | .error _ => return ()
  | .ok () =>
    let _ ← ask .nifmGetInternetConnectionStatus
    ask .nifmExit

structure DriverMetadataSnapshot where
  haveDriverInfo : Bool
  driverInfo : UInt64
  haveInterfaceList : Bool
  interfaceCount : UInt32
  interfaceList : InterfaceList
  deriving DecidableEq, Repr

def DriverMetadataSnapshot.empty : DriverMetadataSnapshot :=
  ⟨false,0,false,0,List.replicate (networkInterfaceInfoSize * maxCapturedInterfaces) 0,List.length_replicate⟩

def closeEvent : Except Failure UInt32 → ProbeProgram Unit
  | .error _ => return ()
  | .ok event => if event ≠ invalidHandle then ask (.closeHandle event) else return ()

def probeDriverMetadata (driver : Session) : ProbeProgram DriverMetadataSnapshot := do
  let info ← ask (.getDriverInfo driver)
  let snapshot := match info with
    | .ok value => { DriverMetadataSnapshot.empty with haveDriverInfo := true, driverInfo := value }
    | .error _ => .empty
  let list ← ask (.getNetworkInterfaceList driver)
  let snapshot := match list with
    | .ok answer => { snapshot with
        haveInterfaceList := true, interfaceCount := answer.entryCount, interfaceList := answer.records }
    | .error _ => snapshot
  let event ← ask (.getStateChangedEvent driver)
  closeEvent event
  let event ← ask (.getNetworkInterfaceListUpdatedEvent driver)
  closeEvent event
  return snapshot

/-- `probe_fn` gets a driver service of its own. What it leaves in its context is `context` if there is none. -/
def runWithFreshDriverService {α : Type} (creator : Session) (context : α)
    (probeFn : Session → ProbeProgram (UInt32 × α)) : ProbeProgram (UInt32 × α) := do
  match ← ask (.createDriverService creator) with
  | .error rc => return (rc,context)
  | .ok driver =>
    let result ← probeFn driver
    closeService (some driver)
    return result

def probeDriverMetadataEntry (driver : Session) : ProbeProgram (UInt32 × DriverMetadataSnapshot) := do
  let snapshot ← probeDriverMetadata driver
  return (0,snapshot)

def interfaceKey (list : Bytes) (index : Nat) : Bytes :=
  (list.drop (index * networkInterfaceInfoSize)).take openNetworkInterfaceKeySize

/-- The loop over the records: the last result, and the interface of the first success. -/
def tryOpenRecords (driver : Session) (list : Bytes) : Nat → Nat → UInt32 → ProbeProgram (UInt32 × Option Session)
  | 0,_,rc => return (rc,none)
  | remaining + 1,index,_ => do
    match ← ask (.openNetworkInterface driver (interfaceKey list index)) with
    | .ok interface => return (0,some interface)
    | .error rc => tryOpenRecords driver list remaining (index + 1) rc

def probeCount (snapshot : DriverMetadataSnapshot) : Nat :=
  let availableRecords := snapshot.interfaceList.val.length / networkInterfaceInfoSize
  if snapshot.interfaceCount.toNat < availableRecords then snapshot.interfaceCount.toNat else availableRecords

def tryOpenNetworkInterfacesFromSnapshot (driver : Session) (snapshot : DriverMetadataSnapshot) :
    ProbeProgram (UInt32 × Option Session) :=
  if !snapshot.haveInterfaceList then return (0,none)
  else if snapshot.interfaceCount = 0 then return (0,none)
  else tryOpenRecords driver snapshot.interfaceList.val (probeCount snapshot) 0 0

def openFreshNetworkInterface (creator : Session) (snapshot : DriverMetadataSnapshot) :
    ProbeProgram (UInt32 × Option Session) :=
  runWithFreshDriverService creator none fun driver => tryOpenNetworkInterfacesFromSnapshot driver snapshot

structure OptionalCopyHandle where
  handle : UInt32
  valid : Bool
  deriving DecidableEq, Repr

structure NetworkInterfaceCommandHandleSet where
  first : OptionalCopyHandle
  scalar : UInt32
  second : OptionalCopyHandle
  third : OptionalCopyHandle
  deriving DecidableEq, Repr

def OptionalCopyHandle.of (handle : UInt32) : OptionalCopyHandle := ⟨handle,handle != invalidHandle⟩

def NetworkInterfaceCommandHandleSet.empty : NetworkInterfaceCommandHandleSet :=
  ⟨⟨invalidHandle,false⟩,0,⟨invalidHandle,false⟩,⟨invalidHandle,false⟩⟩

/-- What `CallNetworkInterfaceCommand0x82` and `0x83` leave in their result. -/
def NetworkInterfaceCommandHandleSet.of : Except Failure HandleSetAnswer → NetworkInterfaceCommandHandleSet
  | .error _ => .empty
  | .ok answer => ⟨.of answer.first,answer.scalar,.of answer.second,.of answer.third⟩

def closeOptionalCopyHandle (info : OptionalCopyHandle) : ProbeProgram Unit :=
  if !info.valid || info.handle == invalidHandle then return () else ask (.closeHandle info.handle)

def closeCommandHandleSet (set : NetworkInterfaceCommandHandleSet) : ProbeProgram Unit := do
  closeOptionalCopyHandle set.first
  closeOptionalCopyHandle set.second
  closeOptionalCopyHandle set.third

/-- Behind the label `cleanup`. -/
def cleanUpPreflight (interface : Session) (command5Succeeded : Bool)
    (command82 command83 : NetworkInterfaceCommandHandleSet) : ProbeProgram Unit := do
  if command5Succeeded then
    let _ ← ask (.command6 interface)
  closeCommandHandleSet command83
  closeCommandHandleSet command82

def runTargetedAssignPreflight (interface : Session) : ProbeProgram Bool := do
  let answer ← ask (.command0x82 interface)
  let command82 := NetworkInterfaceCommandHandleSet.of answer
  match answer with
  | .error _ =>
    cleanUpPreflight interface false command82 .empty
    return false
  | .ok _ =>
    let answer ← ask (.command0x83 interface)
    let command83 := NetworkInterfaceCommandHandleSet.of answer
    match answer with
    | .error _ =>
      cleanUpPreflight interface false command82 command83
      return false
    | .ok _ =>
      match ← ask (.command5 interface) with
      | .error _ =>
        cleanUpPreflight interface false command82 command83
        return false
      | .ok () =>
        let answer ← ask (.command0x80 interface)
        cleanUpPreflight interface true command82 command83
        return match answer with
          | .error _ => false
          | .ok () => true

/-- `bsdNu` is there if `bsd:nu` was opened. -/
def tryAssignWithBsd (bsdNu : Option Session) (interface : Session) : ProbeProgram Unit := do
  match bsdNu with
  | none => return ()
  | some bsdNu =>
    match ← ask (.createUserService bsdNu) with
    | .error _ => return ()
    | .ok user =>
      match ← ask (.assignNetworkInterface user interface) with
      | .error _ =>
        closeService none
        closeService (some user)
      | .ok assigned =>
        let _ ← ask (.addSession assigned interface)
        closeService (some assigned)
        closeService (some user)

def experimentAssignOnly (bsdNu : Option Session) (interface : Session) : ProbeProgram Unit :=
  tryAssignWithBsd bsdNu interface

def experimentTargetedPreflightOnly (_bsdNu : Option Session) (interface : Session) : ProbeProgram Unit := do
  let _ ← runTargetedAssignPreflight interface
  return ()

def experimentTargetedPreflightThenAssign (bsdNu : Option Session) (interface : Session) : ProbeProgram Unit := do
  let preflightOk ← runTargetedAssignPreflight interface
  if !preflightOk then return () else tryAssignWithBsd bsdNu interface

def runFreshNetworkInterfaceExperiment (creator : Session) (snapshot : DriverMetadataSnapshot)
    (bsdNu : Option Session) (experimentFn : Option Session → Session → ProbeProgram Unit) : ProbeProgram Unit := do
  let (rc,interface) ← openFreshNetworkInterface creator snapshot
  match rc != 0,interface with
  | false,some interface =>
    experimentFn bsdNu interface
    closeService (some interface)
  | _,_ => return ()

def probeDriverService (serviceName : CString) (bsdNu : Option Session) : ProbeProgram UInt32 := do
  match ← ask (.smGetService serviceName) with
  | .error rc => return rc
  | .ok creator =>
    let (_,metadata) ← runWithFreshDriverService creator .empty probeDriverMetadataEntry
    runFreshNetworkInterfaceExperiment creator metadata bsdNu experimentTargetedPreflightOnly
    runFreshNetworkInterfaceExperiment creator metadata bsdNu experimentTargetedPreflightThenAssign
    runFreshNetworkInterfaceExperiment creator metadata bsdNu experimentAssignOnly
    closeService (some creator)
    return 0

def runProbe : ProbeProgram Unit := do
  match ← ask .smInitialize with
  | .error _ => return ()
  | .ok () =>
    probeInternetConnection
    let bsdNu ← ask (.smGetService "bsd:nu".toList)
    let bsdNu := bsdNu.toOption
    let _ ← probeDriverService "eth:nd".toList bsdNu
    let _ ← probeDriverService "wlan:nd".toList bsdNu
    closeService bsdNu
    ask .smExit

end NxReverse.Probe.DriverProbe
