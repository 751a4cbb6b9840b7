import NxReverse.Toolbox.BsdSystemUdp

/-! The `bsd:s` TCP exchange as a program over its socket calls: one connection, one request that is
sent in as many pieces as the socket takes, one fixed reply, one close. -/
namespace NxReverse.Toolbox.BsdSystemTcp

open Text Words Program BsdSystemUdp

/-- What the platform supplies, beside what the UDP workload uses. -/
structure TcpSocketApi extends SocketApi where
  pollErr : Int16
  pollNval : Int16
  epipe : Int
  econnreset : Int
  tickFrequency : UInt64

inductive TimeoutOption where
  | receive | send
  deriving DecidableEq, Repr

inductive TcpCommand where
  | socketInitialize
  | socketExit
  | socket
  | setTimeout (descriptor : Int) (option : TimeoutOption) (seconds microseconds : UInt32)
  | connect (descriptor : Int) (remote : SockaddrIn)
  | getsockname (descriptor : Int)
  | send (descriptor : Int) (data : Bytes)
  | poll (descriptor : Int) (events : Int16) (timeoutMs : Int32)
  | recv (descriptor : Int) (size : Nat)
  | close (descriptor : Int)
  | systemTick
  deriving DecidableEq, Repr

/-- `send` and `recv` transfer no more than they were asked to. -/
abbrev TcpCommand.Answer : TcpCommand → Type
  | socketInitialize => UInt32
  | socketExit => Unit
  | socket => Except Int Nat
  | setTimeout _ _ _ _ => Except Int Unit
  | connect _ _ => Except Int Unit
  | getsockname _ => Except Int EndpointAnswer
  | send _ data => Except Int (Fin (data.length + 1))
  | poll _ _ _ => PollAnswer
  | recv _ size => Except Int { segment : Bytes // segment.length ≤ size }
  | close _ => Except Int Unit
  | systemTick => UInt64

abbrev TcpProgram := Program TcpCommand.Answer

abbrev TcpExchange := Exchange TcpCommand.Answer

abbrev call (command : TcpCommand) : TcpProgram command.Answer := perform command

def exchangeName : CString := "bsd_system_tcp_exchange".toList

def start : SocketResult := ⟨.failure exchangeName 0 [],0⟩

def bytesOf (text : CString) : Bytes := text.map fun c => c.toNat.toUInt8

def expectedReply : Bytes := bytesOf "NXRV TCP ACK\r\n".toList

def requestText (workloadId : UInt32) : CString := "NXRV TCP ".toList ++ decimal workloadId.toNat ++ "\r\n".toList

def requestCapacity : Nat := 32

section Calls

variable (api : TcpSocketApi)

def elapsedMilliseconds (started completed : UInt64) : UInt64 := (completed - started) * 1000 / api.tickFrequency

def isLocalEndpoint (answer : EndpointAnswer) : Bool :=
  !(answer.length < api.sizeofSockaddrIn || answer.endpoint.family != api.afInet ||
    answer.endpoint.address == api.inaddrAny || answer.endpoint.port == 0)

/-- The poll reports input and no error. -/
def reportsInput (revents : Int16) : Bool :=
  !(has revents (api.pollErr ||| api.pollNval) || !has revents api.pollIn)

def setTimeouts (descriptor : Int) (deadlineMs : UInt32) : TcpProgram (Except SocketResult Unit) := do
  let seconds := deadlineMs / 1000
  let microseconds := deadlineMs % 1000 * 1000
  let failure := fun errno => start.fail errno ("setsockopt timeout failed: ".toList ++ formatErrno api.toSocketApi errno)
  match ← call (.setTimeout descriptor .receive seconds microseconds) with
  | .error errno => return .error (failure errno)
  | .ok () =>
    match ← call (.setTimeout descriptor .send seconds microseconds) with
    | .error errno => return .error (failure errno)
    | .ok () => return .ok ()

/-- The bytes of `data` from `offset` on. -/
def sendAll (descriptor : Int) (data : Bytes) (offset : Nat) : TcpProgram (Except SocketResult SocketResult) :=
  if offset < data.length then do
    match ← call (.send descriptor (data.drop offset)) with
    | .error errno =>
      return .error (start.fail errno ("send failed: ".toList ++ formatErrno api.toSocketApi errno))
    | .ok sent =>
      if sent.val = 0 then
        return .error (start.fail api.epipe ("send failed: ".toList ++ formatErrno api.toSocketApi api.epipe))
      else sendAll descriptor data (offset + sent.val)
  else return .ok { start with bytesSent := offset.toUInt64 }
termination_by data.length - offset

/-- The reply behind the bytes received so far. -/
def receiveReply (descriptor : Int) (result : SocketResult) (reply : Bytes) : TcpProgram (Except SocketResult Bytes) :=
  if reply.length < expectedReply.length then do
    match ← call (.recv descriptor (expectedReply.length - reply.length)) with
    | .error errno =>
      return .error (result.fail errno ("recv failed: ".toList ++ formatErrno api.toSocketApi errno))
    | .ok segment =>
      if segment.val = [] then
        return .error (result.fail api.econnreset
          ("recv failed: ".toList ++ formatErrno api.toSocketApi api.econnreset))
      else receiveReply descriptor result (reply ++ segment.val)
  else return .ok reply
termination_by expectedReply.length - reply.length
decreasing_by
  have := List.length_pos_iff.mpr ‹_›
  simp only [List.length_append]
  omega

def receiveExpectedReply (descriptor : Int) (deadlineMs : UInt32) (result : SocketResult) :
    TcpProgram (Except SocketResult SocketResult) := do
  let answer ← call (.poll descriptor api.pollIn deadlineMs.toInt32)
  match answer.returned with
  | .error errno =>
    return .error (result.fail errno ("receive poll failed: ".toList ++ formatErrno api.toSocketApi errno))
  | .ok 0 => return .error (result.fail api.etimedout "receive poll timed out".toList)
  | .ok _ =>
    if !reportsInput api answer.revents then
      return .error { result with
        detail := "receive poll unexpected revents=".toList ++ signedDecimal answer.revents.toInt }
    else
    match ← receiveReply api descriptor result [] with
    | .error result => return .error result
    | .ok reply =>
      let result := { result with bytesReceived := reply.length.toUInt64 }
      if reply ≠ expectedReply then
        return .error { result with detail := "unexpected reply: ".toList ++ escapePreview reply reply.length }
      else return .ok result

end Calls

section Run

variable (api : TcpSocketApi) (profile : RuntimeProfile) (workloadId : UInt32) (config : TcpScenarioConfig)

/-- What runs between `socket` and `close`: the result, with the text of a success. -/
def talk (remote : SockaddrIn) (descriptor : Int) : TcpProgram (Except SocketResult (SocketResult × CString)) := do
  match ← setTimeouts api descriptor config.receiveDeadlineMs with
  | .error result => return .error result
  | .ok () =>
  let connectStarted ← call .systemTick
  match ← call (.connect descriptor remote) with
  | .error errno =>
    return .error (start.fail errno ("connect failed: ".toList ++ formatErrno api.toSocketApi errno))
  | .ok () =>
  let connectCompleted ← call .systemTick
  match ← call (.getsockname descriptor) with
  | .error errno =>
    return .error (start.fail errno ("getsockname failed: ".toList ++ formatErrno api.toSocketApi errno))
  | .ok localAnswer =>
  if !isLocalEndpoint api localAnswer then
    return .error { start with detail := "getsockname returned an invalid local endpoint".toList }
  else if (requestText workloadId).length ≥ requestCapacity then
    return .error { start with detail := "failed to format request".toList }
  else
  let sendStarted ← call .systemTick
  match ← sendAll api descriptor (bytesOf (requestText workloadId)) 0 with
  | .error result => return .error result
  | .ok result =>
  let sendCompleted ← call .systemTick
  let receiveStarted ← call .systemTick
  match ← receiveExpectedReply api descriptor config.receiveDeadlineMs result with
  | .error result => return .error result
  | .ok result =>
  let receiveCompleted ← call .systemTick
  let elapsed := fun started completed => decimal (elapsedMilliseconds api started completed).toNat
  return .ok (result,"remote=".toList ++ formatEndpoint api.toSocketApi remote ++ " local=".toList ++
    formatEndpoint api.toSocketApi localAnswer.endpoint ++ " workload=".toList ++ decimal workloadId.toNat ++
    " connect_ms=".toList ++ elapsed connectStarted connectCompleted ++
    " send_ms=".toList ++ elapsed sendStarted sendCompleted ++
    " receive_ms=".toList ++ elapsed receiveStarted receiveCompleted ++ " reply=validated close=ok".toList)

def exchange : TcpProgram SocketResult := do
  match api.inetPton profile.bsdDestinationIpv4 with
  | none => return { start with detail := "invalid configured TCP destination".toList }
  | some address =>
  match ← call .socket with
  | .error errno => return start.fail errno ("socket failed: ".toList ++ formatErrno api.toSocketApi errno)
  | .ok descriptor =>
  match ← talk api workloadId config ⟨api.afInet,address,profile.tcpDestinationPort⟩ descriptor with
  | .error result =>
    let _ ← call (.close descriptor)
    return result
  | .ok (result,detail) =>
  match ← call (.close descriptor) with
  | .error errno => return result.fail errno ("close failed: ".toList ++ formatErrno api.toSocketApi errno)
  | .ok () => return { result with success := true, detail }

def runBsdSystemTcpExchange : TcpProgram SocketResult := do
  let rc ← call .socketInitialize
  if failed rc then
    return { start with rc, detail := "socketInitialize failed: ".toList ++ formatResult rc }
  else
  let result ← exchange api profile workloadId config
  call .socketExit
  return result

end Run

end NxReverse.Toolbox.BsdSystemTcp
