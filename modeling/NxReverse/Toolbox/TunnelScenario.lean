import NxReverse.Lib.Programs
import NxReverse.Lib.Words
import NxReverse.Toolbox.RuntimeConfig
import NxReverse.Toolbox.TunnelWait

/-! The `wgnx:tun` scenarios as programs over the commands they send to the tunnel service. A wait
for completions is one command, answered with all that its calls receive. -/
namespace NxReverse.Toolbox

open Text Words Program

/-- What `WGNX_COMMON` and the platform supply. -/
structure TunnelApi extends TunnelLimits where
  tunApiVersion : UInt32
  connectedIpv4Tcp : UInt64
  maximumClientContexts : Nat
  terminalReasonNumber : FlowTerminalReason → Nat
  rttMeanMilliseconds : CString
  inetPton : CString → Option Bytes

structure ServiceAvailability where
  rc : UInt32
  present : Bool
  deriving DecidableEq, Repr

structure Capabilities where
  rc : UInt32
  apiVersion : UInt32
  capabilityMask : UInt64
  maximumUdpPayloadBytes : UInt64
  maximumTcpWriteBytes : UInt64
  deriving DecidableEq, Repr

structure RoutingPolicySnapshot where
  rc : UInt32
  policyGeneration : UInt64
  routeCount : UInt64
  deriving DecidableEq, Repr

structure OpenConnectedFlowRequest where
  address : Bytes
  port : UInt16
  kind : FlowKind
  diagnosticTag : UInt64
  deriving DecidableEq, Repr

structure OpenConnectedFlowResult where
  rc : UInt32
  status : ProtocolStatus
  flow : UInt64
  advertisedPort : UInt16
  deriving DecidableEq, Repr

structure PayloadRange where
  flow : UInt64
  payloadOffset : UInt32
  payloadSize : UInt32
  clientTag : UInt64
  deriving DecidableEq, Repr

structure PayloadResult where
  rc : UInt32
  status : ProtocolStatus
  acceptedBytes : UInt32
  deriving DecidableEq, Repr

/-- The disposition of each datagram with its tag. -/
structure PayloadBatchResult where
  rc : UInt32
  dispositions : List (ProtocolStatus × UInt64)
  deriving DecidableEq, Repr

structure FlowStateResult where
  rc : UInt32
  status : ProtocolStatus
  state : FlowState
  flowKind : FlowKind
  advertisedPort : UInt16
  deriving DecidableEq, Repr

structure StatusResult where
  rc : UInt32
  status : ProtocolStatus
  deriving DecidableEq, Repr

structure WaitScript where
  frequency : UInt64
  start : UInt64
  turns : List WaitTurn
  deriving DecidableEq, Repr

inductive WaitGoal where
  | echo (expected : Bytes)
  | writable
  | tcp (goal : TcpGoal)
  deriving DecidableEq, Repr

inductive TunnelCommand where
  | queryServiceAvailability
  | openRoot
  | getTunCapabilities
  | openTunnelClient (client : Nat)
  | cloneTunnelClient (source clone : Nat)
  | closeClient (client : Nat)
  | getCapabilities (client : Nat)
  | getRoutingPolicySnapshot (client : Nat)
  | getCompletionEvent (client : Nat)
  | openConnectedFlow (client : Nat) (request : OpenConnectedFlowRequest)
  | closeFlow (client : Nat) (flow : UInt64)
  | getFlowState (client : Nat) (flow : UInt64)
  | sendUdpDatagram (client : Nat) (descriptor : PayloadRange) (payload : Bytes)
  | sendUdpDatagramBatch (client : Nat) (descriptors : List PayloadRange) (payload : Bytes)
  | writeTcpStream (client : Nat) (range : PayloadRange) (payload : Bytes)
  | shutdownTcpWrite (client : Nat) (flow : UInt64)
  | waitFor (client : Nat) (flow : UInt64) (goal : WaitGoal) (timeoutMs : UInt32)
  | sleepMilliseconds (duration : UInt32)
  deriving DecidableEq, Repr

abbrev TunnelCommand.Answer : TunnelCommand → Type
  | queryServiceAvailability => ServiceAvailability
  | openRoot => UInt32
  | getTunCapabilities => Capabilities
  | openTunnelClient _ => UInt32
  | cloneTunnelClient _ _ => UInt32
  | closeClient _ => Unit
  | getCapabilities _ => Capabilities
  | getRoutingPolicySnapshot _ => RoutingPolicySnapshot
  | getCompletionEvent _ => UInt32
  | openConnectedFlow _ _ => OpenConnectedFlowResult
  | closeFlow _ _ => StatusResult
  | getFlowState _ _ => FlowStateResult
  | sendUdpDatagram _ _ _ => PayloadResult
  | sendUdpDatagramBatch _ _ _ => PayloadBatchResult
  | writeTcpStream _ _ _ => PayloadResult
  | shutdownTcpWrite _ _ => StatusResult
  | waitFor _ _ _ _ => WaitScript
  | sleepMilliseconds _ => Unit

abbrev TunnelProgram := Program TunnelCommand.Answer

abbrev TunnelExchange := Exchange TunnelCommand.Answer

abbrev ask (command : TunnelCommand) : TunnelProgram command.Answer := perform command

structure ScenarioResult where
  name : CString
  success : Bool
  skipped : Bool
  rc : UInt32
  bytesSent : UInt64
  bytesReceived : UInt64
  detail : CString
  deriving DecidableEq, Repr

def ScenarioResult.failure (name : CString) (rc : UInt32) (detail : CString) : ScenarioResult :=
  ⟨name,false,false,rc,0,0,detail⟩

def WaitGoal.loop (api : TunnelApi) (flow : UInt64) : WaitGoal → WaitLoop
  | echo expected => waitForEcho api.terminalReasonNumber flow expected
  | writable => waitForWritable api.terminalReasonNumber flow
  | tcp goal => waitForTcpProgress flow goal

def WaitGoal.result (api : TunnelApi) (goal : WaitGoal) (flow : UInt64) (timeoutMs : UInt32) (script : WaitScript) :
    CompletionWaitResult :=
  ((goal.loop api flow).wait script.frequency timeoutMs script.start script.turns).result

/-- The records on which the TCP wait asks for the state of the flow. -/
def asksState (flow : UInt64) (completion : CompletionRecord) : Bool :=
  completion.flow == flow && completion.flowKind == .tcp && completion.type == .flowStateChanged &&
    completion.flowState != .closed

def stateResults (flow : UInt64) (payload : Bytes) : WaitState → List (CompletionRecord × FlowStateAnswer) → List UInt32
  | _,[] => []
  | s,entry :: rest =>
    (if asksState flow entry.1 then [entry.2.rc] else []) ++
      match tcpCompletion flow payload s entry with
      | .error _ => []
      | .ok s => stateResults flow payload s rest

def WaitGoal.queries (flow : UInt64) : WaitGoal → WaitState → ReceiveAnswer → List UInt32
  | tcp _,s,answer => stateResults flow answer.payload s answer.completions
  | _,_,_ => []

section WaitResults

variable (loop : WaitLoop) (queries : WaitState → ReceiveAnswer → List UInt32)

/-- The results of the commands that the inner loop of a wait sends. -/
def drainResults : WaitState → List ReceiveAnswer → List UInt32
  | _,[] => [0]
  | s,answer :: rest =>
    answer.rc :: if failed answer.rc ∨ answer.status ≠ .success then []
      else queries s answer ++
        match loop.batch s answer.completions answer.payload with
        | .error _ => []
        | .ok s => drainResults s rest

def turnResults (deadline : UInt64) : WaitState → List WaitTurn → List UInt32
  | _,[] => []
  | s,turn :: rest =>
    if turn.tested < deadline ∧ !failed turn.waitRc then
      let s := { s with result.wakeCount := s.result.wakeCount + 1 }
      drainResults loop queries s turn.receives ++
        match loop.drain s turn.receives with
        | .error _ => []
        | .ok s => turnResults deadline s rest
    else []

end WaitResults

def WaitGoal.commandResults (api : TunnelApi) (goal : WaitGoal) (flow : UInt64) (timeoutMs : UInt32)
    (script : WaitScript) : List UInt32 :=
  turnResults (goal.loop api flow) (goal.queries flow) (deadlineAfterMilliseconds script.frequency script.start timeoutMs)
    .start script.turns

def payloadHeaderBytes : Nat := 24

def nextPayloadByte (state : UInt32) : UInt32 :=
  let state := state ^^^ (state <<< 13)
  let state := state ^^^ (state >>> 17)
  state ^^^ (state <<< 5)

def storeBigEndian32 (value : UInt32) : Bytes :=
  [(value >>> 24).toUInt8,(value >>> 16).toUInt8,(value >>> 8).toUInt8,value.toUInt8]

def payloadBody : Nat → UInt32 → Bytes
  | 0,_ => []
  | count + 1,state =>
    let state := nextPayloadByte state
    state.toUInt8 :: payloadBody count state

/-- A payload of `size` bytes, which the configuration keeps at 24 or more. -/
def buildPayload (size : Nat) (sequence flowIndex : UInt32) (config : TunnelUdpWorkloadConfig) : Bytes :=
  ("NXRVWG1".toList.map fun c => c.toNat.toUInt8) ++ [0] ++ storeBigEndian32 config.workloadId ++
    storeBigEndian32 flowIndex ++ storeBigEndian32 sequence ++ storeBigEndian32 config.payloadSeed ++
    payloadBody (size - payloadHeaderBytes) (config.payloadSeed ^^^ sequence ^^^ flowIndex * 0x9E3779B9)

@[simp] theorem length_storeBigEndian32 (value : UInt32) : (storeBigEndian32 value).length = 4 := rfl

@[simp] theorem length_payloadBody (count : Nat) (state : UInt32) : (payloadBody count state).length = count := by
  induction count generalizing state with
  | zero => rfl
  | succ count ih => rw [payloadBody,List.length_cons,ih]

theorem length_buildPayload (size : Nat) (sequence flowIndex : UInt32) (config : TunnelUdpWorkloadConfig) :
    (buildPayload size sequence flowIndex config).length = payloadHeaderBytes + (size - payloadHeaderBytes) := by
  delta buildPayload
  simp only [List.length_append,length_payloadBody,length_storeBigEndian32,List.length_map]
  rfl

def openFailure (opened : OpenConnectedFlowResult) : CString :=
  if failed opened.rc then "OpenConnectedFlow CMIF failure".toList
  else if opened.status ≠ .success then "OpenConnectedFlow status=".toList ++ statusName opened.status
  else "OpenConnectedFlow did not publish a virtual local endpoint".toList

def tcpRequest (workloadId : UInt32) : CString :=
  snprintf 32 ("NXRV TCP ".toList ++ decimal workloadId.toNat ++ "\r\n".toList)

def tcpExchangeName : CString := "wgnx_tunnel_tcp_exchange".toList

/-- The exchange over an opened flow. -/
def exchangeTcp (api : TunnelApi) (capabilities : Capabilities) (workloadId : UInt32) (config : TcpScenarioConfig)
    (flow : UInt64) : TunnelProgram ScenarioResult := do
  let closing (rc : UInt32) (detail : CString) : TunnelProgram ScenarioResult := do
    let _ ← ask (.closeFlow 0 flow)
    return .failure tcpExchangeName rc detail
  let script ← ask (.waitFor 0 flow (.tcp ⟨true,false,false⟩) config.receiveDeadlineMs)
  let connected := (WaitGoal.tcp ⟨true,false,false⟩).result api flow config.receiveDeadlineMs script
  if !connected.receivedExpected then
    closing connected.rc ("TCP connect failure: ".toList ++ connected.detail)
  else
  let state ← ask (.getFlowState 0 flow)
  if failed state.rc ∨ state.status ≠ .success ∨ state.state ≠ .open ∨ state.flowKind ≠ .tcp ∨
      state.advertisedPort = 0 then
    closing state.rc (if failed state.rc then "GetFlowState CMIF failure".toList
      else "TCP flow did not publish an open virtual local endpoint".toList)
  else
  let request := tcpRequest workloadId
  if request.length > capabilities.maximumTcpWriteBytes.toNat then
    closing 0 "TCP request exceeds the configured stream-write bound".toList
  else
  let range : PayloadRange := ⟨flow,0,request.length.toUInt32,workloadId.toUInt64⟩
  let write ← ask (.writeTcpStream 0 range (request.map fun c => c.toNat.toUInt8))
  if failed write.rc ∨ write.status ≠ .success ∨ write.acceptedBytes ≠ request.length.toUInt32 then
    closing write.rc (if failed write.rc then "WriteTcpStream CMIF failure".toList
      else "WriteTcpStream status=".toList ++ statusName write.status)
  else
  let shutdown ← ask (.shutdownTcpWrite 0 flow)
  if failed shutdown.rc ∨ shutdown.status ≠ .success then
    closing shutdown.rc (if failed shutdown.rc then "ShutdownTcpWrite CMIF failure".toList
      else "ShutdownTcpWrite status=".toList ++ statusName shutdown.status)
  else
  let script ← ask (.waitFor 0 flow (.tcp ⟨false,true,true⟩) config.receiveDeadlineMs)
  let reply := (WaitGoal.tcp ⟨false,true,true⟩).result api flow config.receiveDeadlineMs script
  if !reply.receivedExpected then
    closing reply.rc ("TCP reply failure: ".toList ++ reply.detail)
  else
  let close ← ask (.closeFlow 0 flow)
  if failed close.rc ∨ close.status ≠ .success then
    return .failure tcpExchangeName close.rc (if failed close.rc then "CloseFlow CMIF failure".toList
      else "CloseFlow status=".toList ++ statusName close.status)
  else
  return {
    name := tcpExchangeName
    success := true
    skipped := false
    rc := 0
    bytesSent := request.length.toUInt64
    bytesReceived := tcpExpectedReply.length.toUInt64
    detail := "api=".toList ++ decimal capabilities.apiVersion.toNat ++ " virtual_local_port=".toList ++
      decimal state.advertisedPort.toNat ++ " accepted=".toList ++ decimal write.acceptedBytes.toNat ++
      " event_wakes=".toList ++ decimal (connected.wakeCount + reply.wakeCount).toNat ++
      " reply=validated eof=observed close=ok".toList }

def runWgnxTunnelTcpExchange (api : TunnelApi) (profile : RuntimeProfile) (workloadId : UInt32)
    (config : TcpScenarioConfig) : TunnelProgram ScenarioResult := do
  let fail := ScenarioResult.failure tcpExchangeName
  let availability ← ask .queryServiceAvailability
  if failed availability.rc ∨ !availability.present then
    return fail availability.rc (if failed availability.rc then "wgnx:tun availability query failed".toList
      else "wgnx:tun is not running".toList)
  else
  let rc ← ask .openRoot
  if failed rc then return fail rc "wgnx:tun root open failure".toList
  else
  let capabilities ← ask .getTunCapabilities
  if failed capabilities.rc then return fail capabilities.rc "GetCapabilities CMIF failure".toList
  else if capabilities.apiVersion ≠ api.tunApiVersion then
    return fail 0 ("API mismatch compiled=".toList ++ decimal api.tunApiVersion.toNat ++ " actual=".toList ++
      decimal capabilities.apiVersion.toNat)
  else if capabilities.capabilityMask &&& api.connectedIpv4Tcp = 0 then
    return fail 0 "connected TCP capability unavailable".toList
  else
  match api.inetPton profile.tunnelDestinationIpv4 with
  | none => return fail 0 "invalid configured tunnel TCP destination".toList
  | some destination =>
    let rc ← ask (.openTunnelClient 0)
    if failed rc then return fail rc "OpenTunnelClient CMIF failure".toList
    else
    let rc ← ask (.getCompletionEvent 0)
    if failed rc then return fail rc "GetCompletionEvent CMIF failure".toList
    else
    let opened ← ask (.openConnectedFlow 0 ⟨destination,profile.tcpDestinationPort,.tcp,workloadId.toUInt64⟩)
    if failed opened.rc ∨ opened.status ≠ .success ∨ opened.advertisedPort = 0 then
      return fail opened.rc (openFailure opened)
    else exchangeTcp api capabilities workloadId config opened.flow

def maximumQueueFullRetriesPerDatagram : Nat := 16

def udpWorkloadName : CString := "wgnx_tunnel_udp_workload".toList

structure UdpProgress where
  result : ScenarioResult
  accepted : UInt32
  echoed : UInt32
  ignoredCompletions : UInt32
  eventWakes : UInt32
  queueFullEvents : UInt32
  tunnelServiceLost : Bool
  deriving DecidableEq, Repr

def UdpProgress.start : UdpProgress := ⟨.failure udpWorkloadName 0 [],0,0,0,0,0,false⟩

def UdpProgress.leave (s : UdpProgress) (rc : UInt32) (detail : CString) (serviceLost : Bool) : UdpProgress :=
  { s with result := { s.result with rc, detail }, tunnelServiceLost := serviceLost }

def UdpProgress.waited (s : UdpProgress) (wait : CompletionWaitResult) : UdpProgress :=
  { s with ignoredCompletions := s.ignoredCompletions + wait.ignored, eventWakes := s.eventWakes + wait.wakeCount }

/-- `" sequence="` and what follows it in the texts of a failed submission. -/
def submissionText (s : UdpProgress) (sequence : UInt32) (retries : Nat) : CString :=
  " sequence=".toList ++ decimal sequence.toNat ++ " queue_full_events=".toList ++ decimal s.queueFullEvents.toNat ++
    " retries_for_datagram=".toList ++ decimal retries

/-- The high word of a tag is the workload id. -/
def workloadTag (workloadId low : UInt32) : UInt64 := workloadId.toUInt64 <<< 32 ||| low.toUInt64

section UdpWorkload

variable (api : TunnelApi) (config : TunnelUdpWorkloadConfig)

/-- One datagram with `retriesLeft` retries: the result of the last submission, and the progress. -/
def submitDatagram (sequence : UInt32) (descriptor : PayloadRange) (payload : Bytes) :
    Nat → UdpProgress → TunnelProgram (UInt32 × UdpProgress)
  | retriesLeft,s => do
    let retries := maximumQueueFullRetriesPerDatagram - retriesLeft
    let disposition ← ask (.sendUdpDatagram 0 descriptor payload)
    if failed disposition.rc then
      let detail := "wgnx:tun service closed during SendUdpDatagram CMIF rc=".toList ++ formatResult disposition.rc
      return (disposition.rc,s.leave disposition.rc detail true)
    else if disposition.status = .success then return (disposition.rc,s)
    else
    let refused := s.leave s.result.rc
      ("SendUdpDatagram status=".toList ++ statusName disposition.status ++ submissionText s sequence retries)
      s.tunnelServiceLost
    match retriesLeft with
    | 0 => return (disposition.rc,refused)
    | retriesLeft + 1 =>
      if disposition.status ≠ .queueFull then return (disposition.rc,refused)
      else
      let s := { s with queueFullEvents := s.queueFullEvents + 1 }
      let script ← ask (.waitFor 0 descriptor.flow .writable config.receiveDeadlineMs)
      let wait := WaitGoal.writable.result api descriptor.flow config.receiveDeadlineMs script
      let s := s.waited wait
      if !wait.writable then
        let detail := wait.detail ++ " waiting_for_writable".toList ++ submissionText s sequence (retries + 1)
        return (disposition.rc,s.leave wait.rc detail wait.serviceLost)
      else submitDatagram sequence descriptor payload retriesLeft s

/-- The wait for the echo of an accepted datagram: whether the loop goes on, and the progress. -/
def awaitEcho (sequence : UInt32) (flow : UInt64) (payload : Bytes) (s : UdpProgress) :
    TunnelProgram (Bool × UdpProgress) := do
  if !config.echoReplies then return (true,s)
  else
  let script ← ask (.waitFor 0 flow (.echo payload) config.receiveDeadlineMs)
  let wait := (WaitGoal.echo payload).result api flow config.receiveDeadlineMs script
  let s := s.waited wait
  if !wait.receivedExpected then
    let detail := wait.detail ++ " sequence=".toList ++ decimal sequence.toNat
    return (false,s.leave wait.rc detail wait.serviceLost)
  else
  return (true,{ s with
    echoed := s.echoed + 1
    result := { s.result with bytesReceived := s.result.bytesReceived + payload.length.toUInt64 } })

/-- The datagrams from `sequence` on, `remaining` of them. -/
def sendDatagrams (flows : List UInt64) : Nat → UInt32 → UdpProgress → TunnelProgram UdpProgress
  | 0,_,s => return s
  | remaining + 1,sequence,s => do
    let flowIndex := sequence % config.concurrentFlows
    let flow := flows.getD flowIndex.toNat 0
    let payload := buildPayload config.payloadBytes.toNat sequence flowIndex config
    let descriptor : PayloadRange := ⟨flow,0,payload.length.toUInt32,workloadTag config.workloadId sequence⟩
    let (rc,s) ← submitDatagram api config sequence descriptor payload maximumQueueFullRetriesPerDatagram s
    if failed rc ∨ s.result.detail ≠ [] then return s
    else
    let accepted := { s with
      accepted := s.accepted + 1
      result := { s.result with bytesSent := s.result.bytesSent + payload.length.toUInt64 } }
    let (goesOn,s) ← awaitEcho api config sequence flow payload accepted
    if !goesOn then return s
    else
    if config.pacingMs ≠ 0 then
      let _ ← ask (.sleepMilliseconds config.pacingMs)
    sendDatagrams flows remaining (sequence + 1) s

def udpFlowRequest (destination : Bytes) (openedFlows : Nat) : OpenConnectedFlowRequest :=
  ⟨destination,config.destinationPort,.udp,workloadTag config.workloadId openedFlows.toUInt32⟩

/-- The open loop: the opened flows, and the answer that ended the loop early. -/
def openFlows (destination : Bytes) : Nat → List UInt64 → TunnelProgram (List UInt64 × Option OpenConnectedFlowResult)
  | 0,flows => return (flows,none)
  | remaining + 1,flows => do
    let opened ← ask (.openConnectedFlow 0 (udpFlowRequest config destination flows.length))
    if failed opened.rc ∨ opened.status ≠ .success ∨ opened.advertisedPort = 0 then return (flows,some opened)
    else openFlows destination remaining (flows ++ [opened.flow])

def closeFlows : List UInt64 → TunnelProgram Unit
  | [] => return ()
  | flow :: rest => do
    let _ ← ask (.closeFlow 0 flow)
    closeFlows rest

def udpSummary (capabilities : Capabilities) (policy : RoutingPolicySnapshot) (s : UdpProgress) : ScenarioResult :=
  if s.accepted = config.datagramCount ∧ (!config.echoReplies ∨ s.echoed = s.accepted) then
    { s.result with
      success := true
      detail := "api=".toList ++ decimal capabilities.apiVersion.toNat ++ " policy=".toList ++
        decimal policy.policyGeneration.toNat ++ " routes=".toList ++ decimal policy.routeCount.toNat ++
        " flows=".toList ++ decimal config.concurrentFlows.toNat ++ " accepted=".toList ++ decimal s.accepted.toNat ++
        " echoed=".toList ++ decimal s.echoed.toNat ++ " queue_full_events=".toList ++
        decimal s.queueFullEvents.toNat ++ " ignored_completions=".toList ++ decimal s.ignoredCompletions.toNat ++
        " event_wakes=".toList ++ decimal s.eventWakes.toNat ++
        (if config.echoReplies then " avg_echo_latency_ms=".toList ++ api.rttMeanMilliseconds else []) }
  else s.result

/-- The datagrams over the opened flows, and the close loop. -/
def exchangeUdp (capabilities : Capabilities) (policy : RoutingPolicySnapshot) (flows : List UInt64) :
    TunnelProgram ScenarioResult := do
  let s ← sendDatagrams api config flows config.datagramCount.toNat 0 .start
  if s.tunnelServiceLost then return udpSummary api config capabilities policy s
  else
  closeFlows flows
  return udpSummary api config capabilities policy s

def runWgnxTunnelUdpWorkload : TunnelProgram ScenarioResult := do
  let fail := ScenarioResult.failure udpWorkloadName
  let availability ← ask .queryServiceAvailability
  if failed availability.rc then return fail availability.rc "wgnx:tun availability query failed".toList
  else if !availability.present then return fail 0 "wgnx:tun is not running".toList
  else if config.concurrentFlows = 0 ∨ config.concurrentFlows > api.maximumFlowsPerClient then
    return fail 0 "configured WGNX workload flow count is unsupported".toList
  else
  let rc ← ask .openRoot
  if failed rc then return fail rc "wgnx:tun root open failure".toList
  else
  let root ← ask .getTunCapabilities
  if failed root.rc ∨ root.apiVersion ≠ api.tunApiVersion then
    return fail root.rc (if failed root.rc then "GetCapabilities CMIF failure".toList
      else "API mismatch compiled=".toList ++ decimal api.tunApiVersion.toNat ++ " actual=".toList ++
        decimal root.apiVersion.toNat)
  else
  let rc ← ask (.openTunnelClient 0)
  if failed rc then return fail rc "OpenTunnelClient CMIF failure".toList
  else
  let capabilities ← ask (.getCapabilities 0)
  if failed capabilities.rc ∨ capabilities.apiVersion ≠ api.tunApiVersion ∨
      config.payloadBytes > capabilities.maximumUdpPayloadBytes then
    return fail capabilities.rc (if failed capabilities.rc then "GetCapabilities CMIF failure".toList
      else "capability bounds mismatch".toList)
  else
  let policy ← ask (.getRoutingPolicySnapshot 0)
  if failed policy.rc then return fail policy.rc "GetRoutingPolicySnapshot CMIF failure".toList
  else
  match api.inetPton config.destinationIpv4 with
  | none => return fail 0 "invalid configured workload destination".toList
  | some destination =>
    let rc ← ask (.getCompletionEvent 0)
    if failed rc then return fail rc "GetCompletionEvent CMIF failure".toList
    else
    match ← openFlows config destination config.concurrentFlows.toNat [] with
    | (flows,some opened) =>
      closeFlows flows
      return fail opened.rc (openFailure opened)
    | (flows,none) => exchangeUdp api config capabilities policy flows

end UdpWorkload

def contractValidationName : CString := "wgnx_tunnel_contract_validation".toList

/-- `result.rc` and `result.detail` of an early return. -/
structure ContractFailure where
  rc : UInt32
  detail : CString
  deriving DecidableEq, Repr

/-- A client session; it is open from the call that opened it to its close. -/
structure ScopedClient where
  client : Nat
  isOpen : Bool
  deriving DecidableEq, Repr

def opened (client : Nat) : ScopedClient := ⟨client,true⟩

section Contract

variable (api : TunnelApi) (workload : TunnelUdpWorkloadConfig)

def contractRequest (destination : Bytes) : OpenConnectedFlowRequest :=
  ⟨destination,workload.destinationPort,.udp,workloadTag workload.workloadId 0x434F4E54⟩

def openFlow (destination : Bytes) (client : ScopedClient) : TunnelProgram (Except ContractFailure UInt64) := do
  let opened ← ask (.openConnectedFlow client.client (contractRequest workload destination))
  if failed opened.rc ∨ opened.status ≠ .success ∨ opened.advertisedPort = 0 then
    return .error ⟨opened.rc,openFailure opened⟩
  else return .ok opened.flow

def closeFlow (client : ScopedClient) (flow : UInt64) : TunnelProgram Unit := do
  if flow = 0 ∨ !client.isOpen then return ()
  else
  let _ ← ask (.closeFlow client.client flow)
  return ()

def loadEvent (client : ScopedClient) : TunnelProgram (Except ContractFailure Unit) := do
  let rc ← ask (.getCompletionEvent client.client)
  if failed rc then return .error ⟨rc,"GetCompletionEvent CMIF failure".toList⟩
  else return .ok ()

def expectedPayload : Bytes := buildPayload workload.payloadBytes.toNat 0x434C4F4E 0 workload

/-- Further clients up to the capacity, from number `client` on: the error of the first that fails. -/
def openRetained : Nat → Nat → TunnelProgram UInt32
  | 0,_ => return 0
  | remaining + 1,client => do
    let rc ← ask (.openTunnelClient client)
    if failed rc then return rc else openRetained remaining (client + 1)

def closeRetained : Nat → Nat → TunnelProgram Unit
  | 0,_ => return ()
  | remaining + 1,client => do
    ask (.closeClient client)
    closeRetained remaining (client + 1)

/-- The echo of the payload that was sent over a flow. -/
def contractEcho (client : ScopedClient) (flow : UInt64) : TunnelProgram CompletionWaitResult := do
  let script ← ask (.waitFor client.client flow (.echo (expectedPayload workload)) workload.receiveDeadlineMs)
  return (WaitGoal.echo (expectedPayload workload)).result api flow workload.receiveDeadlineMs script

/-- The clone's part from the completion event on, with the flow that was opened on the primary client. -/
def exchangeOverClone (primary clone : ScopedClient) (flow : UInt64) : TunnelProgram (Except ContractFailure ScopedClient) := do
  let closing (failure : ContractFailure) : TunnelProgram (Except ContractFailure ScopedClient) := do
    closeFlow clone flow
    return .error failure
  let retained := api.maximumClientContexts - 1
  match ← loadEvent clone with
  | .error failure => closing failure
  | .ok () =>
    ask (.closeClient primary.client)
    let rc ← openRetained retained 2
    if failed rc then closing ⟨rc,"client-context capacity setup failure".toList⟩
    else
    let probe := 2 + retained
    let capacityRc ← ask (.openTunnelClient probe)
    if !failed capacityRc then
      ask (.closeClient probe)
      closing ⟨0,"clone did not retain its logical client context".toList⟩
    else
    let payload := expectedPayload workload
    let disposition ← ask (.sendUdpDatagram clone.client ⟨flow,0,payload.length.toUInt32,0x434C4F4E⟩ payload)
    if failed disposition.rc ∨ disposition.status ≠ .success then
      closing ⟨disposition.rc,if failed disposition.rc then "clone SendUdpDatagram CMIF failure".toList
        else "clone SendUdpDatagram status=".toList ++ statusName disposition.status⟩
    else
    let echo ← contractEcho api workload clone flow
    let failure : ContractFailure := ⟨echo.rc,"clone echo failure: ".toList ++ echo.detail⟩
    if !echo.receivedExpected then
      if echo.serviceLost then return .error failure else closing failure
    else
    closeFlow clone flow
    ask (.closeClient clone.client)
    closeRetained retained 2
    let rc ← ask (.openTunnelClient (probe + 1))
    if failed rc then return .error ⟨rc,"final clone close did not release client context".toList⟩
    else return .ok (opened (probe + 1))

/-- The check of a cloned session's lifetime, which leaves a new primary client. -/
def verifyClonedSessionLifetime (destination : Bytes) (primary : ScopedClient) :
    TunnelProgram (Except ContractFailure ScopedClient) := do
  let rc ← ask (.cloneTunnelClient primary.client 1)
  if failed rc then return .error ⟨rc,"serviceClone wgnx:tun client failure".toList⟩
  else
  let capabilities ← ask (.getCapabilities 1)
  if failed capabilities.rc ∨ capabilities.apiVersion ≠ api.tunApiVersion then
    return .error ⟨capabilities.rc,if failed capabilities.rc then "clone GetCapabilities CMIF failure".toList
      else "clone API version mismatch".toList⟩
  else
  match ← openFlow workload destination primary with
  | .error failure => return .error failure
  | .ok flow => exchangeOverClone api workload primary (opened 1) flow

def batchDescriptors (flow : UInt64) : List PayloadRange :=
  let expectedSize := (expectedPayload workload).length.toUInt32
  let storageSize := api.maximumUdpPayloadStorageBytes.toUInt32 + 1
  [⟨flow,0,expectedSize,1⟩,⟨flow,storageSize,1,2⟩,⟨flow,0,storageSize,3⟩,⟨0,0,expectedSize,4⟩]

/-- The payload at the front of its storage. -/
def payloadStorage : Bytes :=
  let size := api.maximumUdpPayloadStorageBytes.toNat + 1
  expectedPayload workload ++ List.replicate (size - (expectedPayload workload).length) 0

def expectedDispositions : List (ProtocolStatus × UInt64) :=
  [(.success,1),(.malformedInput,2),(.payloadTooLarge,3),(.staleHandle,4)]

def exchangeBatch (primary : ScopedClient) (flow : UInt64) : TunnelProgram (Except ContractFailure Unit) := do
  let closing (failure : ContractFailure) : TunnelProgram (Except ContractFailure Unit) := do
    closeFlow primary flow
    return .error failure
  let batch ← ask (.sendUdpDatagramBatch primary.client (batchDescriptors api workload flow) (payloadStorage api workload))
  if failed batch.rc ∨ batch.dispositions ≠ expectedDispositions then
    closing ⟨batch.rc,if failed batch.rc then "SendUdpDatagramBatch CMIF failure".toList
      else "mixed batch dispositions differed from contract".toList⟩
  else
  match ← loadEvent primary with
  | .error failure => closing failure
  | .ok () =>
    let echo ← contractEcho api workload primary flow
    if !echo.serviceLost then closeFlow primary flow
    if !echo.receivedExpected then
      return .error ⟨echo.rc,"mixed batch echo failure: ".toList ++ echo.detail⟩
    else return .ok ()

def verifyMixedBatch (destination : Bytes) (primary : ScopedClient) : TunnelProgram (Except ContractFailure Unit) := do
  match ← openFlow workload destination primary with
  | .error failure => return .error failure
  | .ok flow => exchangeBatch api workload primary flow

/-- The checks that are enabled, on an open primary client. -/
def validateContract (config : TunnelContractValidationConfig) (destination : Bytes) :
    TunnelProgram (Except ContractFailure Unit) := do
  let batch (primary : ScopedClient) : TunnelProgram (Except ContractFailure Unit) :=
    if config.verifyMixedBatch then verifyMixedBatch api workload destination primary else return .ok ()
  if config.verifyClonedSessionLifetime then
    match ← verifyClonedSessionLifetime api workload destination (opened 0) with
    | .error failure => return .error failure
    | .ok primary => batch primary
  else batch (opened 0)

def contractSummary (config : TunnelContractValidationConfig) (capabilities : Capabilities) : ScenarioResult :=
  let checks := (if config.verifyClonedSessionLifetime then ["clone_lifetime=ok".toList] else []) ++
    if config.verifyMixedBatch then ["mixed_batch=ok".toList] else []
  let bytes := (expectedPayload workload).length.toUInt64 * checks.length.toUInt64
  { name := contractValidationName
    success := true
    skipped := false
    rc := 0
    bytesSent := bytes
    bytesReceived := bytes
    detail := "api=".toList ++ decimal capabilities.apiVersion.toNat ++ checks.flatMap fun check => ' ' :: check }

def runWgnxTunnelContractValidation (config : TunnelContractValidationConfig) : TunnelProgram ScenarioResult := do
  let fail := ScenarioResult.failure contractValidationName
  if !config.verifyClonedSessionLifetime ∧ !config.verifyMixedBatch then
    return fail 0 "no contract validations are enabled".toList
  else
  let availability ← ask .queryServiceAvailability
  if failed availability.rc then return fail availability.rc "wgnx:tun availability query failed".toList
  else if !availability.present then return fail 0 "wgnx:tun is not running".toList
  else
  match api.inetPton workload.destinationIpv4 with
  | none => return fail 0 "invalid configured workload destination".toList
  | some destination =>
    let rc ← ask .openRoot
    if failed rc then return fail rc "wgnx:tun root open failure".toList
    else
    let capabilities ← ask .getTunCapabilities
    if failed capabilities.rc ∨ capabilities.apiVersion ≠ api.tunApiVersion then
      return fail capabilities.rc (if failed capabilities.rc then "GetCapabilities CMIF failure".toList
        else "wgnx:tun API version mismatch".toList)
    else if workload.payloadBytes > capabilities.maximumUdpPayloadBytes then
      return fail 0 "configured payload exceeds wgnx:tun capability".toList
    else
    let rc ← ask (.openTunnelClient 0)
    if failed rc then return fail rc "OpenTunnelClient CMIF failure".toList
    else
    match ← validateContract api workload config destination with
    | .error failure => return fail failure.rc failure.detail
    | .ok () => return contractSummary workload config capabilities

end Contract

end NxReverse.Toolbox
