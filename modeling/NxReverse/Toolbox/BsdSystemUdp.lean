import NxReverse.Toolbox.TunnelScenario

/-! The `bsd:s` workload as a program over its socket calls. A call answers with its result or with
the `errno` it failed with. The clock and the latency metrics, which only texts show, are left out. -/
namespace NxReverse.Toolbox.BsdSystemUdp

open Text Words Program

structure SockaddrIn where
  family : Nat
  address : Bytes
  port : UInt16
  deriving DecidableEq, Repr

/-- What the platform supplies, and the mean latency as it is printed, which the clock decides. -/
structure SocketApi extends TunnelLimits where
  rttMeanMilliseconds : CString
  inetPton : CString → Option Bytes
  inetNtop : Bytes → Option CString
  strerror : Int → CString
  eagain : Int
  ewouldblock : Int
  etimedout : Int
  econnaborted : Int
  eopnotsupp : Int
  pollIn : Int16
  pollOut : Int16
  pollHup : Int16
  oNonblock : Int32
  afInet : Nat
  inaddrAny : Bytes
  sizeofSockaddrIn : Nat

/-- The `revents` are read whatever `poll` returned. -/
structure PollAnswer where
  returned : Except Int Nat
  revents : Int16
  deriving DecidableEq, Repr

structure EndpointAnswer where
  endpoint : SockaddrIn
  length : Nat
  deriving DecidableEq, Repr

structure ReceivedDatagram where
  data : Bytes
  source : EndpointAnswer
  deriving DecidableEq, Repr

inductive SocketCommand where
  | socketInitialize
  | socketExit
  | socket
  | connect (descriptor : Int) (remote : SockaddrIn)
  | getsockname (descriptor : Int)
  | getFlags (descriptor : Int)
  | setFlags (descriptor : Int) (flags : Int32)
  | setReuseAddress (descriptor : Int)
  | send (descriptor : Int) (payload : Bytes)
  | poll (descriptor : Int) (events : Int16) (timeoutMs : Int32)
  | recvfrom (descriptor : Int) (size : Nat)
  | close (descriptor : Int)
  | sleepMilliseconds (duration : UInt32)
  deriving DecidableEq, Repr

abbrev SocketCommand.Answer : SocketCommand → Type
  | socketInitialize => UInt32
  | socketExit => Unit
  | socket => Except Int Nat
  | connect _ _ => Except Int Unit
  | getsockname _ => Except Int EndpointAnswer
  | getFlags _ => Except Int Int32
  | setFlags _ _ => Except Int Unit
  | setReuseAddress _ => Except Int Unit
  | send _ _ => Except Int Nat
  | poll _ _ _ => PollAnswer
  | recvfrom _ _ => Except Int ReceivedDatagram
  | close _ => Except Int Unit
  | sleepMilliseconds _ => Unit

abbrev SocketProgram := Program SocketCommand.Answer

abbrev ask (command : SocketCommand) : SocketProgram command.Answer := perform command

/-- `err` stands beside the fields that the tunnel scenarios fill. -/
structure SocketResult extends ScenarioResult where
  err : Int
  deriving DecidableEq, Repr

def workloadName : CString := "bsd_system_udp_workload".toList

def SocketResult.start : SocketResult := ⟨.failure workloadName 0 [],0⟩

def SocketResult.fail (result : SocketResult) (err : Int) (detail : CString) : SocketResult :=
  { result with err, detail }

inductive BsdPollObservation where
  | timeout | readable | closed | error | unexpected
  deriving DecidableEq, Repr

section Outcomes

variable (api : SocketApi)

def formatErrno (value : Int) : CString :=
  snprintf 160 (signedDecimal value ++ " (".toList ++ api.strerror value ++ [')'])

def has (revents flag : Int16) : Bool := revents &&& flag != 0

def classifyBsdPollObservation (answer : PollAnswer) : BsdPollObservation :=
  match answer.returned with
  | .error _ => .error
  | .ok 0 => .timeout
  | .ok _ =>
    if has answer.revents api.pollHup then .closed
    else if has answer.revents api.pollIn then .readable
    else .unexpected

def isExpectedBsdPollObservation : BsdSystemUdpExpectedOutcome → BsdPollObservation → Bool
  | .echoReply,observation => observation == .readable
  | .noReplyTimeout,observation => observation == .timeout
  | .terminalClosure,observation => observation == .closed

def hasWritableRecovery (queueFullRetries : UInt32) (observedPollout : Bool) : Bool :=
  queueFullRetries != 0 && observedPollout

/-- The tunnel's payload under the marker of this path. -/
def buildPayload (size : Nat) (sequence flowIndex : UInt32) (config : TunnelUdpWorkloadConfig) : Bytes :=
  ("NXRVBS1".toList.map fun c => c.toNat.toUInt8) ++ [0] ++ storeBigEndian32 config.workloadId ++
    storeBigEndian32 flowIndex ++ storeBigEndian32 sequence ++ storeBigEndian32 config.payloadSeed ++
    payloadBody (size - payloadHeaderBytes) (config.payloadSeed ^^^ sequence ^^^ flowIndex * 0x9E3779B9)

def isExpectedReply (actual expected : Bytes) : Bool := actual.length == expected.length && actual == expected

def formatEndpoint (endpoint : SockaddrIn) : CString :=
  (api.inetNtop endpoint.address).getD "<invalid>".toList ++ ':' :: decimal endpoint.port.toNat

def flowText (flowIndex : Nat) : CString := " flow=".toList ++ decimal flowIndex

def configureNonBlocking (descriptor : Int) (result : SocketResult) (flowIndex : Nat) :
    SocketProgram (Except SocketResult Unit) := do
  match ← ask (.getFlags descriptor) with
  | .error errno =>
    return .error (result.fail errno
      ("fcntl(F_GETFL) failed".toList ++ flowText flowIndex ++ ": ".toList ++ formatErrno api errno))
  | .ok flags =>
    match ← ask (.setFlags descriptor (flags ||| api.oNonblock)) with
    | .error errno =>
      return .error (result.fail errno
        ("fcntl(F_SETFL, O_NONBLOCK) failed".toList ++ flowText flowIndex ++ ": ".toList ++ formatErrno api errno))
    | .ok () => return .ok ()

def verifyPostRouteRejection (descriptor : Int) (result : SocketResult) : SocketProgram (Except SocketResult Unit) := do
  match ← ask (.setReuseAddress descriptor) with
  | .ok () => return .error { result with detail := "setsockopt unexpectedly succeeded on a tunneled socket".toList }
  | .error errno =>
    if errno ≠ api.eopnotsupp then
      return .error (result.fail errno ("setsockopt returned an unexpected error: ".toList ++ formatErrno api errno))
    else return .ok ()

def verifyVisibleLocalEndpoint (descriptor : Int) (result : SocketResult) (flowIndex : Nat) :
    SocketProgram (Except SocketResult Unit) := do
  match ← ask (.getsockname descriptor) with
  | .error errno =>
    return .error (result.fail errno
      ("getsockname failed".toList ++ flowText flowIndex ++ ": ".toList ++ formatErrno api errno))
  | .ok answer =>
    if answer.length < api.sizeofSockaddrIn ∨ answer.endpoint.family ≠ api.afInet ∨
        answer.endpoint.address = api.inaddrAny ∨ answer.endpoint.port = 0 then
      return .error { result with
        detail := "getsockname returned an invalid local endpoint".toList ++ flowText flowIndex }
    else return .ok ()

structure BsdSendResult where
  sent : Bool
  writableAfterQueueFull : Bool
  queueFullRetries : UInt32
  error : Int
  detail : CString
  deriving DecidableEq, Repr

def BsdSendResult.start : BsdSendResult := ⟨false,false,0,0,[]⟩

def maximumQueueFullRetriesPerDatagram : Nat := 16

/-- `EAGAIN` under either of its names. -/
def SocketApi.isAgain (errno : Int) : Bool := errno == api.eagain || errno == api.ewouldblock

/-- One datagram, with `retriesLeft` retries. -/
def sendWithWritableRetry (descriptor : Int) (payload : Bytes) (deadlineMs : UInt32) :
    Nat → BsdSendResult → SocketProgram BsdSendResult
  | retriesLeft,result => do
    match ← ask (.send descriptor payload) with
    | .ok count =>
      return if count = payload.length then { result with sent := true }
        else { result with detail := "short UDP send".toList }
    | .error errno =>
      let refused := { result with error := errno, detail := "send failed: ".toList ++ formatErrno api errno }
      match retriesLeft with
      | 0 => return refused
      | retriesLeft + 1 =>
        if !api.isAgain errno then return refused
        else
        let result := { result with error := errno, queueFullRetries := result.queueFullRetries + 1 }
        let writable ← ask (.poll descriptor api.pollOut deadlineMs.toInt32)
        match writable.returned with
        | .error errno =>
          return { result with error := errno, detail := "writable poll failed: ".toList ++ formatErrno api errno }
        | .ok 0 => return { result with error := api.etimedout, detail := "writable poll timed out".toList }
        | .ok _ =>
          if has writable.revents api.pollHup then
            return { result with error := api.econnaborted, detail := "writable poll reported closed flow".toList }
          else if !has writable.revents api.pollOut then
            return { result with
              detail := "writable poll missing POLLOUT revents=".toList ++ signedDecimal writable.revents.toInt }
          else
          sendWithWritableRetry descriptor payload deadlineMs retriesLeft { result with writableAfterQueueFull := true }

structure BsdPollResult where
  observation : BsdPollObservation
  error : Int
  revents : Int16
  deriving DecidableEq, Repr

def waitForInput (descriptor : Int) (deadlineMs : UInt32) : SocketProgram BsdPollResult := do
  let answer ← ask (.poll descriptor api.pollIn deadlineMs.toInt32)
  let error := match answer.returned with
    | .error errno => errno
    | .ok _ => 0
  return ⟨classifyBsdPollObservation api answer,error,answer.revents⟩

def sequenceText (sequence : UInt32) : CString := " sequence=".toList ++ decimal sequence.toNat

/-- The verdict on a poll that did not report the echo. -/
def noEcho (result : SocketResult) (poll : BsdPollResult) (sequence : UInt32) : SocketResult :=
  match poll.observation with
  | .timeout => result.fail api.etimedout ("poll timed out".toList ++ sequenceText sequence)
  | .error =>
    result.fail poll.error
      ("poll failed".toList ++ sequenceText sequence ++ ": ".toList ++ formatErrno api poll.error)
  | _ =>
    result.fail poll.error ("poll did not report echo".toList ++ sequenceText sequence ++ " revents=".toList ++
      signedDecimal poll.revents.toInt)

/-- Whether the echo was received, and the result so far. -/
def receiveExpectedEcho (descriptor : Int) (payload : Bytes) (remote : SockaddrIn) (deadlineMs : UInt32)
    (result : SocketResult) (sequence : UInt32) : SocketProgram (Bool × SocketResult) := do
  let poll ← waitForInput api descriptor deadlineMs
  if !isExpectedBsdPollObservation .echoReply poll.observation then return (false,noEcho api result poll sequence)
  else
  match ← ask (.recvfrom descriptor api.maximumUdpPayloadStorageBytes.toNat) with
  | .error errno =>
    return (false,result.fail errno
      ("recvfrom failed".toList ++ sequenceText sequence ++ ": ".toList ++ formatErrno api errno))
  | .ok received =>
    let result := { result with bytesReceived := result.bytesReceived + received.data.length.toUInt64 }
    let source := received.source.endpoint
    let from_ := " source=".toList ++ formatEndpoint api source
    if !isExpectedReply received.data payload then
      return (false,{ result with detail := "unexpected echo".toList ++ sequenceText sequence ++ from_ })
    else if received.source.length < api.sizeofSockaddrIn ∨ source.family ≠ api.afInet ∨
        source.address ≠ remote.address ∨ source.port ≠ remote.port then
      return (false,{ result with detail := "unexpected reply endpoint".toList ++ sequenceText sequence ++ from_ })
    else return (true,result)

def verifyTerminalSend (descriptor : Int) (payload : Bytes) (result : SocketResult) :
    SocketProgram (Bool × SocketResult) := do
  let text := "post-closure send did not return ECONNABORTED".toList
  match ← ask (.send descriptor payload) with
  | .ok _ => return (false,result.fail 0 text)
  | .error errno =>
    if errno = api.econnaborted then return (true,result)
    else
    return (false,result.fail errno (if errno = 0 then text else text ++ ": ".toList ++ formatErrno api errno))

end Outcomes

section Workload

variable (api : SocketApi) (config : TunnelUdpWorkloadConfig)

def closeDescriptors : List Nat → SocketProgram Unit
  | [] => return ()
  | descriptor :: rest => do
    let _ ← ask (.close descriptor)
    closeDescriptors rest

/-- The open loop: the open descriptors, and the result of a loop that ended early. -/
def openSockets (remote : SockaddrIn) : Nat → List Nat → SocketProgram (List Nat × Option SocketResult)
  | 0,descriptors => return (descriptors,none)
  | remaining + 1,descriptors => do
    let flowIndex := descriptors.length
    match ← ask .socket with
    | .error errno =>
      return (descriptors,some (SocketResult.start.fail errno
        ("socket failed".toList ++ flowText flowIndex ++ ": ".toList ++ formatErrno api errno)))
    | .ok descriptor =>
      let descriptors := descriptors ++ [descriptor]
      match ← ask (.connect descriptor remote) with
      | .error errno =>
        return (descriptors,some (SocketResult.start.fail errno
          ("connect failed".toList ++ flowText flowIndex ++ ": ".toList ++ formatErrno api errno)))
      | .ok () =>
        match ← verifyVisibleLocalEndpoint api descriptor .start flowIndex with
        | .error result => return (descriptors,some result)
        | .ok () =>
          match ← configureNonBlocking api descriptor .start flowIndex with
          | .error result => return (descriptors,some result)
          | .ok () => openSockets remote remaining descriptors

def addSent (result : SocketResult) (payload : Bytes) : SocketResult :=
  { result with bytesSent := result.bytesSent + payload.length.toUInt64 }

/-- One datagram that nobody answers. -/
def expectNoReply (descriptor : Int) : SocketProgram SocketResult := do
  let payload := buildPayload config.payloadBytes.toNat 0 0 config
  let sent ← sendWithWritableRetry api descriptor payload config.receiveDeadlineMs
    maximumQueueFullRetriesPerDatagram .start
  if !sent.sent then return SocketResult.start.fail sent.error sent.detail
  else
  let result := addSent .start payload
  let poll ← waitForInput api descriptor config.receiveDeadlineMs
  return if isExpectedBsdPollObservation .noReplyTimeout poll.observation then
      { result with
        success := true
        detail := "bsd:s no-reply timeout confirmed workload=".toList ++ decimal config.workloadId.toNat ++
          " deadline_ms=".toList ++ decimal config.receiveDeadlineMs.toNat }
    else result.fail poll.error
      ("no-reply poll unexpected revents=".toList ++ signedDecimal poll.revents.toInt)

/-- One echoed datagram and the closure of its flow. Whether the descriptor is closed, and the result. -/
def expectTerminalClosure (remote : SockaddrIn) (descriptor : Int) : SocketProgram (Bool × SocketResult) := do
  let payload := buildPayload config.payloadBytes.toNat 0 0 config
  let sent ← sendWithWritableRetry api descriptor payload config.receiveDeadlineMs
    maximumQueueFullRetriesPerDatagram .start
  if !sent.sent then return (false,SocketResult.start.fail sent.error sent.detail)
  else
  let (echoed,result) ←
    receiveExpectedEcho api descriptor payload remote config.receiveDeadlineMs (addSent .start payload) 0
  if !echoed then return (false,result)
  else
  let poll ← waitForInput api descriptor config.receiveDeadlineMs
  if !isExpectedBsdPollObservation .terminalClosure poll.observation then
    return (false,result.fail poll.error
      ("terminal poll unexpected revents=".toList ++ signedDecimal poll.revents.toInt))
  else
  let (refused,result) ← verifyTerminalSend api descriptor payload result
  if !refused then return (false,result)
  else
  match ← ask (.close descriptor) with
  | .error errno => return (false,result.fail errno ("terminal close failed: ".toList ++ formatErrno api errno))
  | .ok () =>
    return (true,{ result with
      success := true
      detail := "bsd:s terminal closure confirmed workload=".toList ++ decimal config.workloadId.toNat ++
        " echoed=1 post_send=ECONNABORTED avg_echo_latency_ms=".toList ++ api.rttMeanMilliseconds })

structure LoopState where
  result : SocketResult
  echoed : UInt32
  queueFullRetries : UInt32
  writableRecovery : Bool
  deriving DecidableEq, Repr

def LoopState.start : LoopState := ⟨.start,0,0,false⟩

/-- The echo of an accepted datagram, where one is expected: whether the loop goes on, and the locals. -/
def awaitEcho (remote : SockaddrIn) (descriptor : Int) (payload : Bytes) (sequence : UInt32) (s : LoopState) :
    SocketProgram (Bool × LoopState) := do
  if !config.echoReplies then return (true,s)
  else
  let (received,result) ←
    receiveExpectedEcho api descriptor payload remote config.receiveDeadlineMs s.result sequence
  return (received,{ s with result, echoed := if received then s.echoed + 1 else s.echoed })

/-- The datagrams from `sequence` on, `remaining` of them. -/
def sendDatagrams (remote : SockaddrIn) (descriptors : List Nat) :
    Nat → UInt32 → LoopState → SocketProgram LoopState
  | 0,_,s => return s
  | remaining + 1,sequence,s => do
    let flowIndex := sequence % config.concurrentFlows
    let descriptor := descriptors.getD flowIndex.toNat 0
    let payload := buildPayload config.payloadBytes.toNat sequence flowIndex config
    let sent ← sendWithWritableRetry api descriptor payload config.receiveDeadlineMs
      maximumQueueFullRetriesPerDatagram .start
    let s := { s with
      queueFullRetries := s.queueFullRetries + sent.queueFullRetries
      writableRecovery := s.writableRecovery || sent.writableAfterQueueFull }
    if !sent.sent then
      return { s with
        result := s.result.fail sent.error (sent.detail ++ sequenceText sequence ++
          " queue_full_retries=".toList ++ decimal s.queueFullRetries.toNat) }
    else
    let (goesOn,s) ← awaitEcho api config remote descriptor payload sequence
      { s with result := addSent s.result payload }
    if !goesOn then return s
    else
    if config.pacingMs ≠ 0 then
      ask (.sleepMilliseconds config.pacingMs)
    sendDatagrams remote descriptors remaining (sequence + 1) s

def workloadSummary (bsdConfig : BsdSystemUdpWorkloadConfig) (s : LoopState) : SocketResult :=
  let result :=
    if s.result.detail = [] ∧ bsdConfig.requireWritableRecovery = true ∧
        hasWritableRecovery s.queueFullRetries s.writableRecovery = false then
      { s.result with detail := "writable recovery was not observed".toList }
    else s.result
  if result.detail = [] ∧ (!config.echoReplies ∨ s.echoed = config.datagramCount) then
    { result with
      success := true
      detail := "bsd_service=system destination=".toList ++ config.destinationIpv4 ++ ':' ::
        decimal config.destinationPort.toNat ++ " workload=".toList ++ decimal config.workloadId.toNat ++
        " flows=".toList ++ decimal config.concurrentFlows.toNat ++ " sent=".toList ++
        decimal config.datagramCount.toNat ++ " echoed=".toList ++ decimal s.echoed.toNat ++
        " queue_full_retries=".toList ++ decimal s.queueFullRetries.toNat ++ " writable_recovery=".toList ++
        (if s.writableRecovery then "true".toList else "false".toList) ++
        (if config.echoReplies then " avg_echo_latency_ms=".toList ++ api.rttMeanMilliseconds else []) }
  else result

/-- The part behind the checks of the opened sockets, for each expected outcome. -/
def exchange (bsdConfig : BsdSystemUdpWorkloadConfig) (remote : SockaddrIn) (descriptors : List Nat) :
    SocketProgram SocketResult :=
  match bsdConfig.expectedOutcome with
  | .noReplyTimeout => do
    let result ← expectNoReply api config (descriptors.getD 0 0)
    closeDescriptors descriptors
    return result
  | .terminalClosure => do
    let (closed,result) ← expectTerminalClosure api config remote (descriptors.getD 0 0)
    closeDescriptors (if closed then descriptors.tail else descriptors)
    return result
  | .echoReply => do
    let s ← sendDatagrams api config remote descriptors config.datagramCount.toNat 0 .start
    closeDescriptors descriptors
    return workloadSummary api config bsdConfig s

def runOverSockets (bsdConfig : BsdSystemUdpWorkloadConfig) (remote : SockaddrIn) : SocketProgram SocketResult := do
  match ← openSockets api remote config.concurrentFlows.toNat [] with
  | (descriptors,some result) =>
    closeDescriptors descriptors
    return result
  | (descriptors,none) =>
    if bsdConfig.verifyPostRouteRejection then
      match ← verifyPostRouteRejection api (descriptors.getD 0 0) .start with
      | .error result =>
        closeDescriptors descriptors
        return result
      | .ok () => exchange api config bsdConfig remote descriptors
    else exchange api config bsdConfig remote descriptors

def runBsdSystemUdpWorkload (bsdConfig : BsdSystemUdpWorkloadConfig) : SocketProgram SocketResult := do
  match api.inetPton config.destinationIpv4 with
  | none => return { SocketResult.start with detail := "invalid configured BSD workload destination".toList }
  | some destination =>
    if config.concurrentFlows = 0 ∨ config.concurrentFlows > api.maximumFlowsPerClient then
      return { SocketResult.start with detail := "configured BSD workload flow count is unsupported".toList }
    else
    let rc ← ask .socketInitialize
    if failed rc then
      return { SocketResult.start with rc, detail := "socketInitialize(bsd:s) failed".toList }
    else
    let result ← runOverSockets api config bsdConfig ⟨api.afInet,destination,config.destinationPort⟩
    ask .socketExit
    return result

end Workload

end NxReverse.Toolbox.BsdSystemUdp
