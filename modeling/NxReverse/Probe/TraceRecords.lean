import NxReverse.Probe.Logger
import NxReverse.Probe.SessionTrace
import NxReverse.Probe.Summaries

/-! The records that a forwarded request leaves in the trace, field by field as their formats print
them. A record goes through a buffer of its own into the slot of a line queue. -/
namespace NxReverse.Probe

open Text Words JsonLines

/-- `ams::sm::ServiceName`, the characters in front of the first zero. -/
structure ServiceName where
  name : CString
  short : name.length ≤ 8

def formatProgramId (outSize : Nat) (programId : UInt64) : CString :=
  snprintf outSize ("0x".toList ++ paddedHex 16 programId.toNat)

def formatRunId (outSize : Nat) (runTick : UInt64) : CString :=
  snprintf outSize ("tick-".toList ++ decimal runTick.toNat)

def getHipcCommandTypeName (commandType : UInt32) : CString :=
  if commandType = 2 then "close".toList
  else if commandType = 4 then "request".toList
  else if commandType = 5 then "control".toList
  else if commandType = 6 then "request_with_context".toList
  else "unknown".toList

/-- A record: the size of its buffer, the members of its format, and what stands behind them. -/
structure TraceLine where
  capacity : Nat
  members : List Member
  extra : CString

namespace TraceLine

variable (r : TraceLine)

def text : CString := '{' :: printMembers r.members ++ r.extra ++ "\x7d\n".toList

def line : CString := snprintf r.capacity r.text

end TraceLine

def mitmTracePath : CString := "sdmc:/nxrv/probe/probe-mitm.jsonl".toList

/-- All families write to one file. -/
def appendJsonLineForService (s : Logger) (json : CString) : Logger :=
  s.appendLine (some mitmTracePath) (some (textBytes json))

/-- All of the record is queued. Its buffer and the slot of the queue hold the whole text, and so does
every buffer that went into the text but those of quoted texts, which keep to their quotes. The texts
of `copied` are not the record's own. -/
structure TraceLine.Whole (copied : List CString) (r : TraceLine) : Prop where
  values : ∀ m ∈ r.members, m.2.Whole copied
  extra : ∃ members, r.extra = printRest members ∧ ∀ m ∈ members, m.2.Whole []
  fits : r.line = r.text
  closed : "\x7d\n".toList <:+ r.line
  queued : ∀ s : Logger, s.initialized = true → ∃ slot : QueuedLine, slot.path = mitmTracePath ∧
    slot.line = textBytes r.text ∧ slot.lineSize.toNat = r.text.length ∧
    (appendJsonLineForService s r.line).queues.lines = s.queues.lines.accept slot

structure ForwardTraceContext where
  serviceName : ServiceName
  clientProcessId : UInt64
  clientProgramId : UInt64
  sessionId : UInt64
  startTick : UInt64
  endTick : UInt64
  requestMessage : PointerAndSize
  responseMessage : Option PointerAndSize
  forwardResult : UInt32
  requestSentPid : Bool
  requestHasRootCommandId : Bool
  requestRootCommandId : UInt32
  requestPidRewriteMode : UInt32
  requestPidBeforePreprocess : UInt64
  requestPidAfterPreprocess : UInt64
  requestBsdRegisterClientMode : UInt32
  requestBsdRegisterClientBlocked : Bool
  requestBsdRegisterClientSpoofed : Bool
  requestBsdProbeUpstreamRegisterAttempted : Bool
  requestBsdProbeUpstreamRegisterResult : UInt32
  requestBsdProbeUpstreamRegisterCmifResult : UInt32
  requestBsdProbeUpstreamRegisterPid : UInt64
  requestBsdProbeUpstreamHandle : UInt32
  requestForwardedToBsdProbeUpstream : Bool
  requestForwardTargetHandle : UInt32
  requestNumCopyHandles : UInt32
  requestNumMoveHandles : UInt32
  requestTrackedCopyHandleCount : UInt32
  requestClosedCopyHandleCount : UInt32
  requestCopyHandles : Fin 4 → UInt32

/-- A call of `OnForwardRequestTrace` with what it finds outside of its context. -/
structure ForwardTrace where
  hipcParseRequest : PointerAndSize → HipcRequest
  hipcParseResponse : PointerAndSize → HipcReply
  toNanoSeconds : UInt64 → UInt64
  runTick : UInt64
  requestId : UInt64
  tracker : Tracker
  ctx : ForwardTraceContext

namespace ForwardTrace

variable (f : ForwardTrace)

-- the locals of the function
def serviceName : CString := snprintf 16 (encodeServiceName f.ctx.serviceName.name)
def clientProgramId : CString := formatProgramId 32 f.ctx.clientProgramId
def runId : CString := formatRunId 64 f.runTick

def parseRequest (message : PointerAndSize) : HipcParsedRequest := (f.hipcParseRequest message).toHipcParsedRequest
def parseResponse (message : PointerAndSize) : HipcResponse := (f.hipcParseResponse message).toHipcResponse

def requestDecode : RequestDecodeDetails := getRequestDecodeDetails f.parseRequest f.ctx.requestMessage

def responseDecode : ResponseDecodeDetails :=
  match f.ctx.responseMessage with
  | some message => getResponseDecodeDetails f.parseResponse message
  | none => .empty

def requestInfo : ParsedRequestInfo := parseRequestInfo f.parseRequest f.ctx.requestMessage

def responseInfo : ParsedResponseInfo :=
  match f.ctx.responseMessage with
  | some message => parseResponseInfo f.parseResponse message
  | none => ⟨false,false,0,0,0⟩

def requestTsNs : UInt64 := f.toNanoSeconds f.ctx.startTick
def responseTsNs : UInt64 := f.toNanoSeconds f.ctx.endTick

def durationNs : UInt64 :=
  if f.ctx.endTick < f.ctx.startTick then 0 else f.toNanoSeconds (f.ctx.endTick - f.ctx.startTick)

def objectPath : CString :=
  f.tracker.formatObjectPath 160 f.serviceName f.ctx.sessionId.toNat f.requestInfo.objectId.toNat

def selectedKind : CString := getSelectedKindText f.requestInfo

def known : CString × CString := describeKnownObjectAndCommand f.serviceName f.objectPath f.requestInfo.commandId

/-- `have_request` and the parsed request. -/
def request : Option HipcRequest :=
  (getRequestRawData f.parseRequest f.ctx.requestMessage).map fun _ => f.hipcParseRequest f.ctx.requestMessage

/-- `have_response` and the parsed response. -/
def response : Option HipcReply := f.ctx.responseMessage.map f.hipcParseResponse

def resultValue : UInt32 := if f.responseInfo.valid then f.responseInfo.resultValue else f.ctx.forwardResult

/-- The members that all records begin with. -/
def head (event : String) (timestampNs : UInt64) : List Member :=
  [("schema_version",.constant "1"),("run_id",.text f.runId),("scenario",.text "unknown".toList),
    ("event",.label event),("ts_monotonic_ns",.u64 timestampNs),("ts_utc",.label "unknown"),
    ("service",.text f.serviceName),("client_pid",.u64 f.ctx.clientProcessId),
    ("client_program_id",.text f.clientProgramId),("server_program_id",.label "0x010000000000EAD1"),
    ("thread_id",.constant "0"),("session_id",.u64 f.ctx.sessionId),("object_id",.u32 f.requestInfo.objectId)]

def ipcRequest : TraceLine where
  capacity := 2304
  members := f.head "ipc_request" f.requestTsNs ++
    [("request_id",.u64 f.requestId),("command_id",.u32 f.requestInfo.commandId),("command_name",.text f.known.2),
      ("object_kind",.text f.selectedKind),("known_object_kind",.text f.known.1),("object_path",.text f.objectPath),
      ("in_raw_size",.u64 (.ofNat f.requestInfo.rawSize)),
      ("buffer_count",.u32 (match f.request with
        | some request => .ofNat (request.sendStatics.length + request.sendBuffers.length +
            request.recvBuffers.length + request.exchBuffers.length)
        | none => 0)),
      ("in_interface_count",.constant "0"),("out_interface_expected",.constant "0"),
      ("copy_handle_count",.u32 ((f.request.map HipcRequest.numCopyHandles).getD 0)),
      ("move_handle_count",.u32 ((f.request.map HipcRequest.numMoveHandles).getD 0)),
      ("send_pid",.bool ((f.request.map HipcRequest.sendPid).getD false)),
      ("forward_sent_pid",.bool f.ctx.requestSentPid),
      ("forward_has_root_command_id",.bool f.ctx.requestHasRootCommandId),
      ("forward_root_command_id",.u32 f.ctx.requestRootCommandId),
      ("forward_pid_rewrite_mode",.u32 f.ctx.requestPidRewriteMode),
      ("forward_pid_before_preprocess",.hex64 f.ctx.requestPidBeforePreprocess),
      ("forward_pid_after_preprocess",.hex64 f.ctx.requestPidAfterPreprocess),
      ("forward_bsd_register_client_mode",.u32 f.ctx.requestBsdRegisterClientMode),
      ("forward_bsd_register_client_blocked",.bool f.ctx.requestBsdRegisterClientBlocked),
      ("forward_bsd_register_client_spoofed",.bool f.ctx.requestBsdRegisterClientSpoofed),
      ("forward_bsd_probe_upstream_register_attempted",.bool f.ctx.requestBsdProbeUpstreamRegisterAttempted),
      ("forward_bsd_probe_upstream_register_result",.hex32 f.ctx.requestBsdProbeUpstreamRegisterResult),
      ("forward_bsd_probe_upstream_register_cmif_result",.hex32 f.ctx.requestBsdProbeUpstreamRegisterCmifResult),
      ("forward_bsd_probe_upstream_register_pid",.hex64 f.ctx.requestBsdProbeUpstreamRegisterPid),
      ("forward_bsd_probe_upstream_handle",.hex32 f.ctx.requestBsdProbeUpstreamHandle),
      ("forwarded_to_bsd_probe_upstream",.bool f.ctx.requestForwardedToBsdProbeUpstream),
      ("forward_target_handle",.hex32 f.ctx.requestForwardTargetHandle),
      ("forward_request_copy_handle_count",.u32 f.ctx.requestNumCopyHandles),
      ("forward_request_move_handle_count",.u32 f.ctx.requestNumMoveHandles),
      ("forward_tracked_copy_handle_count",.u32 f.ctx.requestTrackedCopyHandleCount),
      ("forward_closed_copy_handle_count",.u32 f.ctx.requestClosedCopyHandleCount),
      ("forward_copy_handle0",.hex32 (f.ctx.requestCopyHandles 0)),
      ("forward_copy_handle1",.hex32 (f.ctx.requestCopyHandles 1)),
      ("forward_copy_handle2",.hex32 (f.ctx.requestCopyHandles 2)),
      ("forward_copy_handle3",.hex32 (f.ctx.requestCopyHandles 3))]
  extra := []

def ipcResponse : TraceLine where
  capacity := 1024
  members := f.head "ipc_response" f.responseTsNs ++
    [("object_path",.text f.objectPath),("request_id",.u64 f.requestId),("command_id",.u32 f.requestInfo.commandId),
      ("command_name",.text f.known.2),("object_kind",.text f.known.1),("result",.hex32 f.resultValue),
      ("duration_ns",.u64 f.durationNs),("out_raw_size",.u64 (.ofNat f.responseInfo.rawSize)),
      ("out_interface_count",.u32 (.ofNat f.responseInfo.outObjectCount)),
      ("copy_handle_count",.u32 ((f.response.map HipcReply.numCopyHandles).getD 0)),
      ("move_handle_count",.u32 (.ofNat ((f.response.map fun reply => reply.numMoveHandles).getD 0))),
      ("server_closed_session",.constant "false")]
  extra := []

def word (words : List UInt32) (i : Nat) : JsonValue := .hex32 (words.getD i 0)

def ipcDecodeRequest : TraceLine where
  capacity := 2048
  members := f.head "ipc_decode_request" f.requestTsNs ++
    [("object_path",.text f.objectPath),("request_id",.u64 f.requestId),("selected_kind",.text f.selectedKind),
      ("object_kind",.text f.known.1),("command_name",.text f.known.2),
      ("selected_command_id",.u32 f.requestInfo.commandId),("hipc_command_type",.u32 f.requestDecode.commandType),
      ("hipc_command_type_name",.text (getHipcCommandTypeName f.requestDecode.commandType)),
      ("raw_size",.u64 (.ofNat f.requestDecode.rawSize)),
      ("raw_word0",word f.requestDecode.rawWords 0),("raw_word1",word f.requestDecode.rawWords 1),
      ("raw_word2",word f.requestDecode.rawWords 2),("raw_word3",word f.requestDecode.rawWords 3),
      ("root_magic",.hex32 f.requestDecode.rootHeader.magic),
      ("root_version",.hex32 f.requestDecode.rootHeader.version),
      ("root_command_id",.u32 f.requestDecode.rootHeader.commandId),
      ("root_token",.hex32 f.requestDecode.rootHeader.token),("root_valid",.bool f.requestDecode.rootCmifValid),
      ("root_close",.bool f.requestDecode.rootClose),
      ("domain_type",.u32 f.requestDecode.domainHeader.type.toUInt32),
      ("domain_num_in_objects",.u32 f.requestDecode.domainHeader.numInObjects.toUInt32),
      ("domain_data_size",.u32 f.requestDecode.domainHeader.dataSize.toUInt32),
      ("domain_object_id",.hex32 f.requestDecode.domainHeader.objectId),
      ("domain_token",.hex32 f.requestDecode.domainHeader.token),
      ("domain_cmif_magic",.hex32 f.requestDecode.domainCmifHeader.magic),
      ("domain_cmif_version",.hex32 f.requestDecode.domainCmifHeader.version),
      ("domain_cmif_command_id",.u32 f.requestDecode.domainCmifHeader.commandId),
      ("domain_cmif_token",.hex32 f.requestDecode.domainCmifHeader.token),
      ("domain_valid",.bool f.requestDecode.domainCmifValid),("domain_close",.bool f.requestDecode.domainClose),
      ("payload_size",.u64 (.ofNat f.requestDecode.payload.size)),
      ("payload_word0",word f.requestDecode.payload.words 0),("payload_word1",word f.requestDecode.payload.words 1),
      ("payload_word2",word f.requestDecode.payload.words 2),("payload_word3",word f.requestDecode.payload.words 3),
      ("payload_preview_hex",.text f.requestDecode.payload.previewHex),
      ("raw_preview_hex",.text f.requestDecode.rawPreviewHex)]
  extra := []

/-- The ids of the returned objects in a buffer of 160 bytes. -/
def returnedObjectIds : CString :=
  if !f.responseDecode.outObjectIdsValid then "[]".toList
  else
    (listPieces (f.responseDecode.outObjectIds.take f.responseDecode.outObjectIdCount)).foldl
      (fun out piece => if out.length + 16 < 160 then (appendPiece 160 out piece).take 158 else out) ['['] ++ [']']

def ipcDecodeResponse : TraceLine where
  capacity := 1792
  members := f.head "ipc_decode_response" f.responseTsNs ++
    [("object_path",.text f.objectPath),("request_id",.u64 f.requestId),("selected_kind",.text f.selectedKind),
      ("object_kind",.text f.known.1),("command_name",.text f.known.2),("selected_result",.hex32 f.resultValue),
      ("raw_size",.u64 (.ofNat f.responseDecode.rawSize)),
      ("raw_word0",word f.responseDecode.rawWords 0),("raw_word1",word f.responseDecode.rawWords 1),
      ("raw_word2",word f.responseDecode.rawWords 2),("raw_word3",word f.responseDecode.rawWords 3),
      ("root_magic",.hex32 f.responseDecode.rootHeader.magic),
      ("root_version",.hex32 f.responseDecode.rootHeader.version),
      ("root_result",.hex32 f.responseDecode.rootHeader.result),
      ("root_token",.hex32 f.responseDecode.rootHeader.token),("root_valid",.bool f.responseDecode.rootCmifValid),
      ("domain_num_out_objects",.u32 f.responseDecode.domainHeader.numOutObjects),
      ("returned_object_ids",.verbatim f.returnedObjectIds),
      ("domain_cmif_magic",.hex32 f.responseDecode.domainCmifHeader.magic),
      ("domain_cmif_version",.hex32 f.responseDecode.domainCmifHeader.version),
      ("domain_cmif_result",.hex32 f.responseDecode.domainCmifHeader.result),
      ("domain_cmif_token",.hex32 f.responseDecode.domainCmifHeader.token),
      ("domain_valid",.bool f.responseDecode.domainCmifValid),
      ("payload_size",.u64 (.ofNat f.responseDecode.payload.size)),
      ("payload_word0",word f.responseDecode.payload.words 0),("payload_word1",word f.responseDecode.payload.words 1),
      ("payload_word2",word f.responseDecode.payload.words 2),("payload_word3",word f.responseDecode.payload.words 3),
      ("payload_preview_hex",.text f.responseDecode.payload.previewHex),
      ("raw_preview_hex",.text f.responseDecode.rawPreviewHex)]
  extra := []

def logDecodeRecords : List TraceLine :=
  (if f.requestDecode.haveRaw then [f.ipcDecodeRequest] else []) ++
    if f.responseDecode.haveRaw then [f.ipcDecodeResponse] else []

def semanticMembers (event : String) (named : CString × CString) (result : UInt32)
    (requestSummary responseSummary : StringText) : List Member :=
  f.head event f.responseTsNs ++
    [("object_path",.text f.objectPath),("request_id",.u64 f.requestId),("object_kind",.text named.1),
      ("command_id",.u32 f.requestInfo.commandId),("command_name",.text named.2),("result",.hex32 result),
      ("request_summary",.stringText requestSummary),("response_summary",.stringText responseSummary)]

def nifmRequestSummary : Summary 192 :=
  formatNifmSemanticRequestSummary 192 f.objectPath f.requestInfo.commandId f.requestDecode

def nifmResponseSummary : Summary 256 :=
  formatNifmSemanticResponseSummary 256 f.objectPath f.requestInfo.commandId f.responseInfo f.responseDecode

def nifmSemantic : TraceLine where
  capacity := 1024
  members := f.semanticMembers "nifm_semantic"
    (getNifmObjectKindAndCommandName f.objectPath f.requestInfo.commandId) f.resultValue
    f.nifmRequestSummary.content f.nifmResponseSummary.content
  extra := []

def emitNifmSemanticRecord : List TraceLine :=
  if !startsWith f.serviceName "nifm:".toList || f.requestInfo.isClose || !isKnownNifmObjectPath f.objectPath then []
  else [f.nifmSemantic]

def bsdRequestSummary : Summary 768 :=
  let commandId := f.requestInfo.commandId
  let out := formatBsdSemanticRequestSummary 768 f.objectPath commandId f.requestDecode
  match f.request with
  | none => out
  | some request =>
    let out := out.appendRequestBufferLayoutSummary request
    let out := out.tryAppendBsdPayloadRequestSummary commandId request
    let out := out.tryAppendBsdSockaddrRequestSummary commandId request
    out.tryAppendBsdSockOptRequestSummary commandId request

def bsdResponseSummary : Summary 512 :=
  let commandId := f.requestInfo.commandId
  let out := formatBsdSemanticResponseSummary 512 f.objectPath commandId f.responseDecode
  match f.request with
  | none => out
  | some request =>
    let out := out.tryAppendBsdSockaddrResponseSummary commandId request f.response f.responseDecode
    let out := out.tryAppendBsdSockOptResponseSummary commandId request f.response
    out.appendResponseBufferLayoutSummary request f.response

def bsdSemantic : TraceLine where
  capacity := 2304
  members := f.semanticMembers "bsd_semantic"
    (getBsdObjectKindAndCommandName f.objectPath f.requestInfo.commandId) f.ctx.forwardResult
    f.bsdRequestSummary.content f.bsdResponseSummary.content
  extra := []

def emitBsdSemanticRecord : List TraceLine :=
  if !startsWith f.serviceName "bsd:".toList || f.requestInfo.isClose || !isKnownBsdObjectPath f.objectPath then []
  else [f.bsdSemantic]

def sslRequestSummary : Summary 256 :=
  formatSslSemanticRequestSummary 256 f.objectPath f.requestInfo.commandId f.requestDecode f.request

def sslResponseSummary : Summary 256 :=
  formatSslSemanticResponseSummary 256 f.objectPath f.requestInfo.commandId f.responseInfo f.responseDecode f.request
    f.response

def sslSemantic : TraceLine where
  capacity := 1280
  members := f.semanticMembers "ssl_semantic"
    (getSslObjectKindAndCommandName f.serviceName f.objectPath f.requestInfo.commandId) f.resultValue
    f.sslRequestSummary.content f.sslResponseSummary.content
  extra := []

def emitSslSemanticRecord : List TraceLine :=
  if !startsWith f.serviceName "ssl".toList || f.requestInfo.isClose || !isKnownSslObjectPath f.objectPath then []
  else [f.sslSemantic]

/-- The records about the message itself, in their order. -/
def records (traceBsdPoll : Bool) : List TraceLine :=
  -- `notif:s` has a record of its own
  if f.serviceName = "notif:s".toList then []
  else if shouldSuppressBsdTrace traceBsdPoll f.serviceName f.requestInfo.commandId then []
  else
    [f.ipcRequest] ++ f.logDecodeRecords ++ [f.ipcResponse] ++ f.emitNifmSemanticRecord ++ f.emitBsdSemanticRecord ++
      f.emitSslSemanticRecord

end ForwardTrace

end NxReverse.Probe
