import NxReverse.Lib.Text

/-! The three completion waits of the `wgnx:tun` scenarios, over the answers their calls
receive: clock readings, `eventWait`, `ReceiveCompletions` and `GetFlowState`. The loops
differ in what they do with a batch and in their texts. -/
namespace NxReverse.Toolbox

open Text

inductive ProtocolStatus where
  | success | malformedInput | unsupportedOperation | incompatibleApiVersion | routeNotCovered
  | peerUnavailable | transportUnavailable | flowQuotaExhausted | payloadTooLarge | queueFull
  | staleHandle | flowClosed | queueEmpty | outputBufferTooSmall | reverseTupleExhausted
  | tunnelBlockedByPolicy | wrongFlowKind | notConnected | localWriteClosed | unknown (value : UInt32)
  deriving DecidableEq, Repr

def statusName : ProtocolStatus → CString
  | .success => "success".toList
  | .malformedInput => "malformed_input".toList
  | .unsupportedOperation => "unsupported_operation".toList
  | .incompatibleApiVersion => "incompatible_api_version".toList
  | .routeNotCovered => "route_not_covered".toList
  | .peerUnavailable => "peer_unavailable".toList
  | .transportUnavailable => "transport_unavailable".toList
  | .flowQuotaExhausted => "flow_quota_exhausted".toList
  | .payloadTooLarge => "payload_too_large".toList
  | .queueFull => "queue_full".toList
  | .staleHandle => "stale_handle".toList
  | .flowClosed => "flow_closed".toList
  | .queueEmpty => "queue_empty".toList
  | .outputBufferTooSmall => "output_buffer_too_small".toList
  | .reverseTupleExhausted => "reverse_tuple_exhausted".toList
  | .tunnelBlockedByPolicy => "tunnel_blocked_by_policy".toList
  | .wrongFlowKind => "wrong_flow_kind".toList
  | .notConnected => "not_connected".toList
  | .localWriteClosed => "local_write_closed".toList
  | .unknown _ => "unknown".toList

inductive FlowTerminalReason where
  | none | clientClosed | peerDeactivated | peerActivationChanged | policyInvalidated
  | sysmoduleShutdown | remoteClosed | resetDuringConnect | resetAfterConnect | connectTimedOut
  | routeLost | localResourceFailure | unknown (value : UInt32)
  deriving DecidableEq, Repr

def terminalReasonName : FlowTerminalReason → CString
  | .none => "none".toList
  | .clientClosed => "client_closed".toList
  | .peerDeactivated => "peer_deactivated".toList
  | .peerActivationChanged => "peer_activation_changed".toList
  | .policyInvalidated => "policy_invalidated".toList
  | .sysmoduleShutdown => "sysmodule_shutdown".toList
  | .remoteClosed => "remote_closed".toList
  | .resetDuringConnect => "reset_during_connect".toList
  | .resetAfterConnect => "reset_after_connect".toList
  | .connectTimedOut => "connect_timed_out".toList
  | .routeLost => "route_lost".toList
  | .localResourceFailure => "local_resource_failure".toList
  | .unknown _ => "unknown".toList

inductive FlowState where
  | open | closed | other
  deriving DecidableEq, Repr

inductive FlowKind where
  | udp | tcp
  deriving DecidableEq, Repr

inductive CompletionType where
  | flowStateChanged | writable | inboundUdpDatagram | inboundTcpStream | other
  deriving DecidableEq, Repr

structure CompletionRecord where
  type : CompletionType
  flow : UInt64
  flowKind : FlowKind
  flowState : FlowState
  terminalReason : FlowTerminalReason
  payloadOffset : Nat
  payloadSize : Nat
  deriving DecidableEq, Repr

/-- An answer of `GetFlowState`; of `stream_flags` the remote write bit. -/
structure FlowStateAnswer where
  rc : UInt32
  status : ProtocolStatus
  remoteWriteOpen : Bool
  deriving DecidableEq, Repr

/-- An answer of `ReceiveCompletions`. Each record stands beside the answer that
`GetFlowState` gives when it is asked on reading that record. -/
structure ReceiveAnswer where
  rc : UInt32
  status : ProtocolStatus
  completions : List (CompletionRecord × FlowStateAnswer)
  payload : List UInt8
  deriving DecidableEq, Repr

structure CompletionWaitResult where
  rc : UInt32
  receivedExpected : Bool
  writable : Bool
  terminal : Bool
  serviceLost : Bool
  isOpen : Bool
  remoteWriteClosed : Bool
  deadlineExpired : Bool
  malformedReply : Bool
  prematureEof : Bool
  terminalReason : FlowTerminalReason
  ignored : UInt32
  wakeCount : UInt32
  detail : CString
  deriving DecidableEq, Repr

def CompletionWaitResult.start : CompletionWaitResult :=
  ⟨0,false,false,false,false,false,false,false,false,false,.none,0,0,[]⟩

/-- The locals of a wait. Only the TCP wait fills `reply`, its first `reply_size` bytes. -/
structure WaitState where
  result : CompletionWaitResult
  reply : List UInt8
  deriving DecidableEq, Repr

def WaitState.start : WaitState := ⟨.start,[]⟩

def WaitState.ignore (s : WaitState) : WaitState :=
  { s with result := { s.result with ignored := s.result.ignored + 1 } }

/-- `R_FAILED`. -/
def failed (rc : UInt32) : Bool := rc != 0

/-- `KERNELRESULT(TimedOut)`. -/
def kernelTimedOut : UInt32 := 0xEA01

def upperHexDigit (value : Nat) : Char := "0123456789ABCDEF".toList.getD value '0'

def formatResult (rc : UInt32) : CString :=
  snprintf 32 ("0x".toList ++ [7,6,5,4,3,2,1,0].map fun i => upperHexDigit (rc.toNat / 16 ^ i % 16))

def escapeByte (byte : UInt8) : CString :=
  if byte = 0x0D then "\\r".toList
  else if byte = 0x0A then "\\n".toList
  else if byte = 0x09 then "\\t".toList
  else if byte = 0x5C then "\\\\".toList
  else if 0x20 ≤ byte ∧ byte ≤ 0x7E then [Char.ofNat byte.toNat]
  else "\\x".toList ++ [upperHexDigit (byte.toNat / 16),upperHexDigit (byte.toNat % 16)]

def escapePreview (data : List UInt8) (limit : Nat) : CString :=
  (data.take limit).flatMap escapeByte ++ if data.length > limit then "...".toList else []

/-- The bytes a record points to, when they are inside the payload storage. -/
def CompletionRecord.received (completion : CompletionRecord) (payload : List UInt8) :
    Option (List UInt8) :=
  if completion.payloadOffset > payload.length ∨
      completion.payloadSize > payload.length - completion.payloadOffset then none
  else some ((payload.drop completion.payloadOffset).take completion.payloadSize)

/-- What a wait does with its texts and with a batch; an error is the loop's early return. -/
structure WaitLoop where
  waitFailed : CompletionWaitResult → UInt32 → CompletionWaitResult
  serviceClosed : CString
  badStatus : CString
  batch : WaitState → List (CompletionRecord × FlowStateAnswer) → List UInt8 →
    Except CompletionWaitResult WaitState
  expired : CompletionWaitResult → CompletionWaitResult

/-- One turn of the outer loop: the reading it tests, the reading it subtracts, the result
of `eventWait` and what `ReceiveCompletions` answers before the queue is empty. -/
structure WaitTurn where
  tested : UInt64
  now : UInt64
  waitRc : UInt32
  receives : List ReceiveAnswer
  deriving DecidableEq, Repr

structure EventWait where
  deadline : UInt64
  now : UInt64
  timeoutNs : UInt64
  deriving DecidableEq, Repr

structure WaitRun where
  result : CompletionWaitResult
  waits : List EventWait
  deriving DecidableEq, Repr

namespace WaitLoop

variable (loop : WaitLoop)

/-- The inner loop. -/
def drain : WaitState → List ReceiveAnswer → Except CompletionWaitResult WaitState
  | s,[] => .ok s
  | s,answer :: rest =>
    if failed answer.rc then
      .error { s.result with
        terminal := true, serviceLost := true, rc := answer.rc
        detail := loop.serviceClosed ++ formatResult answer.rc }
    else if answer.status = .queueEmpty then .ok s
    else if answer.status ≠ .success then
      .error { s.result with detail := loop.badStatus ++ statusName answer.status }
    else
      match loop.batch s answer.completions answer.payload with
      | .error result => .error result
      | .ok s => drain s rest

def eventWait (frequency deadline now : UInt64) : EventWait :=
  ⟨deadline,now,(deadline - now) * 1000000000 / frequency⟩

/-- The outer loop. Behind the last turn the clock has reached the deadline. -/
def turns (frequency deadline : UInt64) : WaitState → List WaitTurn → WaitRun
  | s,[] => ⟨loop.expired s.result,[]⟩
  | s,turn :: rest =>
    if turn.tested < deadline then
      let wait := eventWait frequency deadline turn.now
      if failed turn.waitRc then ⟨loop.waitFailed s.result turn.waitRc,[wait]⟩
      else
        match loop.drain { s with result.wakeCount := s.result.wakeCount + 1 } turn.receives with
        | .error result => ⟨result,[wait]⟩
        | .ok s =>
          let run := turns frequency deadline s rest
          ⟨run.result,wait :: run.waits⟩
    else ⟨loop.expired s.result,[]⟩

end WaitLoop

def deadlineAfterMilliseconds (frequency start : UInt64) (timeoutMs : UInt32) : UInt64 :=
  start + frequency * timeoutMs.toUInt64 / 1000

def WaitLoop.wait (loop : WaitLoop) (frequency : UInt64) (timeoutMs : UInt32) (start : UInt64)
    (script : List WaitTurn) : WaitRun :=
  loop.turns frequency (deadlineAfterMilliseconds frequency start timeoutMs) .start script

def waitFailedText (result : CompletionWaitResult) (rc : UInt32) : CompletionWaitResult :=
  { result with rc, detail := "completion event wait rc=".toList ++ formatResult rc }

/-- The numbering of `FlowTerminalReason` is the tunnel's own. -/
def flowTerminal (reasonNumber : FlowTerminalReason → Nat) (s : WaitState)
    (completion : CompletionRecord) : CompletionWaitResult :=
  { s.result with
    terminal := true, detail := "flow terminal=".toList ++ decimal (reasonNumber completion.terminalReason) }

def echoCompletion (reasonNumber : FlowTerminalReason → Nat) (flow : UInt64) (expected payload : List UInt8)
    (s : WaitState) (entry : CompletionRecord × FlowStateAnswer) : Except CompletionWaitResult WaitState :=
  if entry.1.type = .flowStateChanged ∧ entry.1.flow = flow then .error (flowTerminal reasonNumber s entry.1)
  else if entry.1.type ≠ .inboundUdpDatagram ∨ entry.1.flow ≠ flow then .ok s.ignore
  else
    match entry.1.received payload with
    | none => .ok s.ignore
    | some received =>
      if received = expected then .error { s.result with receivedExpected := true } else .ok s.ignore

def waitForEcho (reasonNumber : FlowTerminalReason → Nat) (flow : UInt64) (expected : List UInt8) : WaitLoop where
  waitFailed := waitFailedText
  serviceClosed := "wgnx:tun service closed after completion wake ReceiveCompletions CMIF rc=".toList
  badStatus := "ReceiveCompletions status=".toList
  batch s completions payload := completions.foldlM (echoCompletion reasonNumber flow expected payload) s
  expired result := { result with detail := "completion deadline expired".toList }

def writableCompletion (reasonNumber : FlowTerminalReason → Nat) (flow : UInt64) (s : WaitState)
    (entry : CompletionRecord × FlowStateAnswer) : Except CompletionWaitResult WaitState :=
  if entry.1.type = .flowStateChanged ∧ entry.1.flow = flow then .error (flowTerminal reasonNumber s entry.1)
  else if entry.1.type = .writable ∧ entry.1.flow = flow then .error { s.result with writable := true }
  else .ok s.ignore

def waitForWritable (reasonNumber : FlowTerminalReason → Nat) (flow : UInt64) : WaitLoop where
  waitFailed := waitFailedText
  serviceClosed := "wgnx:tun service closed after completion wake ReceiveCompletions CMIF rc=".toList
  badStatus := "ReceiveCompletions status=".toList
  batch s completions _ := completions.foldlM (writableCompletion reasonNumber flow) s
  expired result := { result with detail := "writable completion deadline expired".toList }

def tcpExpectedReply : List UInt8 := "NXRV TCP ACK\r\n".toList.map fun c => c.toNat.toUInt8

/-- What a caller of `WaitForTcpProgress` waits for. -/
structure TcpGoal where
  requireOpen : Bool
  requireReply : Bool
  requireRemoteWriteClosed : Bool
  deriving DecidableEq, Repr

def TcpGoal.deadlineText (goal : TcpGoal) : CString :=
  if goal.requireOpen then "TCP connect deadline expired".toList else "TCP reply deadline expired".toList

def tcpCompletion (flow : UInt64) (payload : List UInt8) (s : WaitState)
    (entry : CompletionRecord × FlowStateAnswer) : Except CompletionWaitResult WaitState :=
  let completion := entry.1
  if completion.flow ≠ flow ∨ completion.flowKind ≠ .tcp then .ok s.ignore
  else if completion.type = .flowStateChanged then
    if completion.flowState = .closed then
      .error { s.result with
        terminal := true, terminalReason := completion.terminalReason
        detail := "TCP flow terminal=".toList ++ terminalReasonName completion.terminalReason }
    else
      let result := { s.result with isOpen := completion.flowState == FlowState.open }
      let state := entry.2
      if failed state.rc ∨ state.status ≠ .success then
        .error { result with
          rc := state.rc
          detail := if failed state.rc then "GetFlowState CMIF failure".toList
            else "GetFlowState status=".toList ++ statusName state.status }
      else .ok { s with result := { result with remoteWriteClosed := !state.remoteWriteOpen } }
  else if completion.type ≠ .inboundTcpStream then .ok s.ignore
  else
    match completion.received payload with
    | none => .ok s.ignore
    | some segment =>
      if s.reply.length + completion.payloadSize > tcpExpectedReply.length then
        .ok { s with result.malformedReply := true }
      else .ok { s with reply := s.reply ++ segment }

/-- The end of a batch. -/
def judgeTcp (goal : TcpGoal) (s : WaitState) : Except CompletionWaitResult WaitState :=
  let replyComplete := s.reply.length == tcpExpectedReply.length
  let replyValid := replyComplete && s.reply == tcpExpectedReply
  let result := { s.result with
    malformedReply := s.result.malformedReply || (goal.requireReply && replyComplete && !replyValid) }
  if goal.requireReply && result.remoteWriteClosed && !replyValid then
    .error { result with
      prematureEof := !result.malformedReply
      detail := if result.malformedReply then "TCP malformed reply before remote EOF".toList
        else "TCP premature remote EOF".toList }
  else if result.malformedReply then .error { result with detail := "TCP malformed reply".toList }
  else if (goal.requireOpen && !result.isOpen) || (goal.requireReply && !replyValid) ||
      (goal.requireRemoteWriteClosed && !result.remoteWriteClosed) then .ok { s with result }
  else .error { result with receivedExpected := true }

def waitForTcpProgress (flow : UInt64) (goal : TcpGoal) : WaitLoop where
  waitFailed result rc :=
    { result with
      rc, deadlineExpired := rc == kernelTimedOut
      detail := if rc == kernelTimedOut then goal.deadlineText
        else "TCP completion event wait rc=".toList ++ formatResult rc }
  serviceClosed := "wgnx:tun service closed after TCP completion wake ReceiveCompletions CMIF rc=".toList
  badStatus := "TCP ReceiveCompletions status=".toList
  batch s completions payload := do
    let s ← completions.foldlM (tcpCompletion flow payload) s
    judgeTcp goal s
  expired result := { result with deadlineExpired := true, detail := goal.deadlineText }

end NxReverse.Toolbox
