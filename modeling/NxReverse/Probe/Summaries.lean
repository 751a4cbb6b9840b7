import NxReverse.Lib.JsonLines
import NxReverse.Probe.CommandNames

/-! The summaries of the semantic records. Each is printed into a fixed buffer that may cut it; it
is a string text wherever it is cut, so the quote behind it closes. -/
namespace NxReverse.Probe

open Text Words JsonLines
open StringText (literal unsigned signed hex padded)

structure Summary (size : Nat) where
  content : StringText
  fits : content.text.length ≤ size - 1

namespace Summary

variable {size : Nat}

def empty : Summary size := ⟨.empty,Nat.zero_le _⟩

/-- `snprintf` over the whole buffer. -/
def print (text : StringText) : Summary size := ⟨text.into size,length_snprintf_le _ _⟩

def appendSummaryText (out : Summary size) (text : StringText) : Summary size :=
  if out.content.text.length ≥ size - 1 then out
  else if out.content.text = [] then print text
  else print (out.content ++ literal " " ++ text)

def appendNamedValue (out : Summary size) (label : StringText) (value : Int32) (name : Option StringText) :
    Summary size :=
  match name with
  | some name => out.appendSummaryText (label ++ literal "=" ++ name ++ literal "(" ++ signed value ++ literal ")")
  | none => out.appendSummaryText (label ++ literal "=" ++ signed value)

def appendNamedHexValue (out : Summary size) (label : StringText) (value : UInt32) (name : Option StringText) :
    Summary size :=
  match name with
  | some name =>
    out.appendSummaryText (label ++ literal "=" ++ name ++ literal "(0x" ++ hex value.toNat ++ literal ")")
  | none => out.appendSummaryText (label ++ literal "=0x" ++ hex value.toNat)

end Summary

def bsdAddressFamilyInet : UInt16 := 2
def bsdAddressFamilyInet6 : UInt16 := 28
def bsdSocketLevel : Int32 := 0xFFFF
def bsdFcntlGetFl : Int32 := 3
def bsdFcntlSetFl : Int32 := 4

def getBsdAddressFamilyName (family : UInt16) : Option StringText :=
  if family = bsdAddressFamilyInet then some (literal "AF_INET")
  else if family = bsdAddressFamilyInet6 then some (literal "AF_INET6")
  else none

def getBsdSocketTypeName (type : Int32) : Option StringText :=
  if type = 1 then some (literal "SOCK_STREAM")
  else if type = 2 then some (literal "SOCK_DGRAM")
  else if type = 3 then some (literal "SOCK_RAW")
  else if type = 5 then some (literal "SOCK_SEQPACKET")
  else none

def getBsdProtocolName (protocol : Int32) : Option StringText :=
  if protocol = 6 then some (literal "TCP") else if protocol = 17 then some (literal "UDP") else none

def getBsdSocketLevelName (level : Int32) : Option StringText :=
  if level = bsdSocketLevel then some (literal "SOL_SOCKET")
  else if level = 6 then some (literal "IPPROTO_TCP")
  else if level = 17 then some (literal "IPPROTO_UDP")
  else none

def getBsdSocketOptionName (level optname : Int32) : Option StringText :=
  if level = bsdSocketLevel then
    if optname = 0x0004 then some (literal "SO_REUSEADDR")
    else if optname = 0x0008 then some (literal "SO_KEEPALIVE")
    else if optname = 0x0800 then some (literal "SO_NOSIGPIPE")
    else if optname = 0x1007 then some (literal "SO_ERROR")
    else none
  else if level = 6 then if optname = 1 then some (literal "TCP_NODELAY") else none
  else none

def getBsdFcntlCommandName (cmd : Int32) : Option StringText :=
  if cmd = bsdFcntlGetFl then some (literal "F_GETFL")
  else if cmd = bsdFcntlSetFl then some (literal "F_SETFL")
  else none

def getBsdShutdownHowName (how : Int32) : Option StringText :=
  if how = 0 then some (literal "SHUT_RD")
  else if how = 1 then some (literal "SHUT_WR")
  else if how = 2 then some (literal "SHUT_RDWR")
  else none

theorem standsForItself_hexDigit_lower (value : Nat) : standsForItself (hexDigit value) = true := by
  have all : "0123456789abcdef".toList.all standsForItself = true := by decide
  have digits := List.all_eq_true.mp all
  unfold hexDigit
  rw [List.getD_eq_getElem?_getD]
  cases found : "0123456789abcdef".toList[value]? with
  | none => decide
  | some c => exact digits c (List.mem_of_getElem? found)

def byteHex (byte : UInt8) : StringText where
  text := [hexDigit (byte.toNat / 16),hexDigit (byte.toNat % 16)]
  isString := by
    rw [isStringText_cons,isStringText_cons,standsForItself_hexDigit_lower,standsForItself_hexDigit_lower]
    rfl

/-- What `HexEncode` leaves in a preview buffer. -/
def hexPreview (outSize : Nat) (src : Bytes) : StringText where
  text := hexEncode outSize src
  isString := by
    apply List.all_eq_true.mpr
    intro c member
    obtain ⟨byte,_,digit⟩ := List.mem_flatMap.mp member
    exact List.all_eq_true.mp (byteHex byte).isString c digit

def formatIpv4 (outSize : Nat) (bytes : Bytes) (size : Nat) : StringText :=
  if size < 4 then (literal "unknown").into outSize
  else
    (unsigned (u8At 0 bytes).toNat ++ literal "." ++ unsigned (u8At 1 bytes).toNat ++ literal "." ++
      unsigned (u8At 2 bytes).toNat ++ literal "." ++ unsigned (u8At 3 bytes).toNat).into outSize

def formatIpv6 (outSize : Nat) (bytes : Bytes) (size : Nat) : StringText :=
  let group (i : Nat) := byteHex (u8At i bytes) ++ byteHex (u8At (i + 1) bytes)
  if size < 16 then (literal "unknown").into outSize
  else
    (group 0 ++ literal ":" ++ group 2 ++ literal ":" ++ group 4 ++ literal ":" ++ group 6 ++ literal ":" ++
      group 8 ++ literal ":" ++ group 10 ++ literal ":" ++ group 12 ++ literal ":" ++ group 14).into outSize

/-- `%u.%u.%u.%u:%u`. -/
def formatEndpoint (bytes : Bytes) (port : Nat) : StringText :=
  (unsigned (u8At 4 bytes).toNat ++ literal "." ++ unsigned (u8At 5 bytes).toNat ++ literal "." ++
    unsigned (u8At 6 bytes).toNat ++ literal "." ++ unsigned (u8At 7 bytes).toNat ++ literal ":" ++
    unsigned port).into 64

def readBe16 (offset : Nat) (bytes : Bytes) : Nat := (u8At offset bytes).toNat * 256 + (u8At (offset + 1) bytes).toNat

def readBe32 (offset : Nat) (bytes : Bytes) : Nat := readBe16 offset bytes * 65536 + readBe16 (offset + 2) bytes

/-- `none` where it answers false. -/
def tryFormatSockaddr (outSize : Nat) (bytes : Bytes) : Option StringText :=
  let size := bytes.length
  let preview := hexPreview (hexPreviewBytes * 2 + 1) (bytes.take (min 16 size))
  let inet := literal "family=AF_INET addr=" ++ formatIpv4 32 (bytes.drop 4) (size - 4) ++ literal " port=" ++
    unsigned (readBe16 2 bytes)
  let inet6 := literal "family=AF_INET6 addr=" ++ formatIpv6 64 (bytes.drop 8) (size - 8) ++ literal " port=" ++
    unsigned (readBe16 2 bytes) ++ literal " flow=0x" ++ padded 8 (readBe32 4 bytes) ++ literal " scope=" ++
    unsigned (readBe32 24 bytes)
  if size < 2 then none
  else if size ≥ 8 ∧ (u8At 1 bytes).toUInt16 = bsdAddressFamilyInet then some (inet.into outSize)
  else if size ≥ 8 ∧ u16At 0 bytes = bsdAddressFamilyInet then some (inet.into outSize)
  else if size ≥ 28 ∧ (u8At 1 bytes).toUInt16 = bsdAddressFamilyInet6 ∧ u8At 0 bytes ≥ 28 then
    some (inet6.into outSize)
  else if size ≥ 28 ∧ u16At 0 bytes = bsdAddressFamilyInet6 then some (inet6.into outSize)
  else
    match if u8At 0 bytes ≥ 2 then getBsdAddressFamilyName (u8At 1 bytes).toUInt16 else none with
    | some familyName => some ((literal "family=" ++ familyName ++ literal " raw=" ++ preview).into outSize)
    | none => some ((literal "family=" ++ unsigned (u16At 0 bytes).toNat ++ literal " raw=" ++ preview).into outSize)

def textPreviewChar (byte : UInt8) : Char :=
  if byte < 0x20 ∨ byte ≥ 0x7F ∨ byte = 34 ∨ byte = 92 then '.' else Char.ofNat byte.toNat

theorem standsForItself_textPreviewChar (byte : UInt8) : standsForItself (textPreviewChar byte) = true := by
  have every : ∀ n < 256, standsForItself (textPreviewChar (UInt8.ofNat n)) = true := by decide +kernel
  have here := every byte.toNat byte.toNat_lt
  rwa [UInt8.ofNat_toNat] at here

/-- `none` where it answers false. -/
def copyTextPreview (outSize : Nat) (bytes : Bytes) : Option StringText :=
  let shown := (bytes.take (outSize - 1)).takeWhile (· != 0)
  if shown = [] then none
  else some ⟨shown.map textPreviewChar,List.all_eq_true.mpr fun c member => by
    obtain ⟨byte,_,rfl⟩ := List.mem_map.mp member
    exact standsForItself_textPreviewChar byte⟩

/-- A descriptor as its getters read it: an address, and the bytes that are there. -/
structure HipcDescriptor where
  address : UInt64
  bytes : Bytes

/-- A parsed request with the descriptors and counts that the trace reads. -/
structure HipcRequest extends HipcParsedRequest where
  sendStatics : List HipcDescriptor
  sendBuffers : List HipcDescriptor
  recvBuffers : List HipcDescriptor
  exchBuffers : List HipcDescriptor
  sendPid : Bool
  numCopyHandles : UInt32
  numMoveHandles : UInt32

structure HipcReply extends HipcResponse where
  statics : List HipcDescriptor
  numCopyHandles : UInt32

def HipcDescriptor.view (desc : HipcDescriptor) : Option Bytes :=
  if desc.address = 0 ∨ desc.bytes.length = 0 then none else some desc.bytes

def getBufferView (desc : HipcDescriptor) : Option Bytes := desc.view
def getStaticView (desc : HipcDescriptor) : Option Bytes := desc.view

def getFirstRequestInputView (request : HipcRequest) : Option Bytes :=
  (request.sendBuffers.head?.bind getBufferView).or
    ((request.sendStatics.head?.bind getStaticView).or (request.exchBuffers.head?.bind getBufferView))

/-- The view with that number among those that are not empty, and whether it is a pointer static. -/
def getRequestInputViewAt (request : HipcRequest) (ordinal : Nat) : Option (Bytes × Bool) :=
  ((request.sendBuffers.filterMap getBufferView).map (·,false) ++
    (request.sendStatics.filterMap getStaticView).map (·,true) ++
    (request.exchBuffers.filterMap getBufferView).map (·,false))[ordinal]?

def getFirstResponseOutputView (request : HipcRequest) (response : Option HipcReply) : Option Bytes :=
  (request.recvBuffers.head?.bind getBufferView).or
    ((request.exchBuffers.head?.bind getBufferView).or
      (response.bind fun response => response.statics.head?.bind getStaticView))

namespace Payload

variable (p : Payload)

-- `ReadPod` of the payload bytes
def readU32 (offset : Nat) : Option UInt32 := if p.size < offset + 4 then none else some (u32At offset p.bytes)
def readS32 (offset : Nat) : Option Int32 := (p.readU32 offset).map UInt32.toInt32
def readU64 (offset : Nat) : Option UInt64 := if p.size < offset + 8 then none else some (u64At offset p.bytes)

/-- `payload_words[0]`. -/
def word0 : UInt32 := p.words.getD 0 0

end Payload

namespace Summary

variable {size : Nat}

def printSizes (capacity : Nat) (summary : StringText) (descriptors : List HipcDescriptor) : StringText :=
  descriptors.zipIdx.foldl (fun summary desc =>
    if summary.text.length < capacity - 1 then
      (summary ++ (if desc.2 = 0 then .empty else literal ",") ++ unsigned desc.1.bytes.length).into capacity
    else summary) summary

def appendRequestBufferLayoutSummary (out : Summary size) (request : HipcRequest) : Summary size :=
  let summary := (literal "req_bufs=ss[").into 384
  let summary := printSizes 384 summary request.sendStatics
  let summary := (summary ++ literal "] sm[").into 384
  let summary := printSizes 384 summary request.sendBuffers
  let summary := (summary ++ literal "] rm[").into 384
  let summary := printSizes 384 summary request.recvBuffers
  let summary := (summary ++ literal "] xm[").into 384
  let summary := printSizes 384 summary request.exchBuffers
  out.appendSummaryText ((summary ++ literal "]").into 384)

def appendResponseBufferLayoutSummary (out : Summary size) (request : HipcRequest) (response : Option HipcReply) :
    Summary size :=
  let summary := (literal "resp_bufs=rm[").into 256
  let summary := printSizes 256 summary request.recvBuffers
  let summary := (summary ++ literal "] xm[").into 256
  let summary := printSizes 256 summary request.exchBuffers
  let summary := (summary ++ literal "] rs[").into 256
  let summary := printSizes 256 summary ((response.map HipcReply.statics).getD [])
  out.appendSummaryText ((summary ++ literal "]").into 256)

def tryAppendBsdSockaddrRequestSummary (out : Summary size) (commandId : UInt32) (request : HipcRequest) :
    Summary size :=
  if commandId ≠ 11 ∧ commandId ≠ 13 ∧ commandId ≠ 14 then out
  else
    let sockaddrOrdinal := if commandId = 11 then 1 else 0
    match (getRequestInputViewAt request sockaddrOrdinal).bind fun view => tryFormatSockaddr 160 view.1 with
    | none => out
    | some sockaddrText =>
      let label := if commandId = 13 then literal "bind" else literal "peer"
      out.appendSummaryText (label ++ literal "=\x7b" ++ sockaddrText ++ literal "\x7d")

def tryAppendBsdPayloadRequestSummary (out : Summary size) (commandId : UInt32) (request : HipcRequest) :
    Summary size :=
  if commandId ≠ 10 ∧ commandId ≠ 11 ∧ commandId ≠ 24 then out
  else
    match getRequestInputViewAt request 0 with
    | none => out
    | some (bytes,isPointerStatic) =>
      let preview := hexPreview (hexPreviewBytes * 2 + 1) (bytes.take (min hexPreviewBytes bytes.length))
      out.appendSummaryText (literal "payload_len=" ++ unsigned bytes.length ++ literal " payload_kind=" ++
        (if isPointerStatic then literal "pointer_static" else literal "map_alias") ++
        literal " payload_hex=" ++ preview)

/-- The description of a payload that is sent in a pointer static or not. -/
def payloadText (isPointerStatic : Bool) (bytes : Bytes) : StringText :=
  literal "payload_len=" ++ unsigned bytes.length ++ literal " payload_kind=" ++
    (if isPointerStatic then literal "pointer_static" else literal "map_alias") ++ literal " payload_hex=" ++
    hexPreview (hexPreviewBytes * 2 + 1) (bytes.take (min hexPreviewBytes bytes.length))

def peerText (sockaddrText : StringText) : StringText := literal "peer" ++ literal "=\x7b" ++ sockaddrText ++ literal "\x7d"

def tryAppendBsdSockOptRequestSummary (out : Summary size) (commandId : UInt32) (request : HipcRequest) :
    Summary size :=
  if commandId ≠ 17 ∧ commandId ≠ 21 then out
  else
    match getFirstRequestInputView request with
    | none => out
    | some bytes =>
      let label := if commandId = 21 then literal "optval" else literal "optlen_buf"
      if bytes.length ≥ 4 then
        out.appendSummaryText (label ++ literal "_u32=" ++ unsigned (u32At 0 bytes).toNat)
      else out

def tryAppendBsdSockaddrResponseSummary (out : Summary size) (commandId : UInt32) (request : HipcRequest)
    (response : Option HipcReply) (responseDecode : ResponseDecodeDetails) : Summary size :=
  if (commandId ≠ 15 ∧ commandId ≠ 16) ∨ responseDecode.payload.size < 12 then out
  else
    let outLen := (u32At 8 responseDecode.payload.bytes).toNat
    if outLen = 0 then out
    else
      match (getFirstResponseOutputView request response).bind fun bytes =>
        tryFormatSockaddr 160 (bytes.take (min bytes.length outLen)) with
      | none => out
      | some sockaddrText =>
        let label := if commandId = 15 then literal "peer" else literal "local"
        out.appendSummaryText (label ++ literal "=\x7b" ++ sockaddrText ++ literal "\x7d")

def tryAppendBsdSockOptResponseSummary (out : Summary size) (commandId : UInt32) (request : HipcRequest)
    (response : Option HipcReply) : Summary size :=
  if commandId ≠ 17 then out
  else
    match getFirstResponseOutputView request response with
    | none => out
    | some bytes =>
      if bytes.length ≥ 4 then out.appendSummaryText (literal "optval_u32=" ++ unsigned (u32At 0 bytes).toNat)
      else out

end Summary

/-- A summary whose fields are all there, or nothing. -/
def whenRead {size : Nat} (summary : Option (Summary size)) : Summary size := summary.getD .empty

def formatBsdSemanticRequestSummary (outSize : Nat) (objectPath : CString) (commandId : UInt32)
    (requestDecode : RequestDecodeDetails) : Summary outSize :=
  let p := requestDecode.payload
  let out : Summary outSize := .empty
  if !isKnownBsdObjectPath objectPath then out
  else if commandId = 0 then whenRead do
    let version ← p.readU32 0
    let tcpTx ← p.readU32 4
    let tcpRx ← p.readU32 8
    let tcpTxMax ← p.readU32 12
    let tcpRxMax ← p.readU32 16
    let udpTx ← p.readU32 20
    let udpRx ← p.readU32 24
    let sbEff ← p.readU32 28
    let tmemSize ← p.readU64 40
    return .print (literal "version=" ++ unsigned version.toNat ++ literal " tcp_tx=0x" ++ hex tcpTx.toNat ++
      literal " tcp_rx=0x" ++ hex tcpRx.toNat ++ literal " tcp_tx_max=0x" ++ hex tcpTxMax.toNat ++
      literal " tcp_rx_max=0x" ++ hex tcpRxMax.toNat ++ literal " udp_tx=0x" ++ hex udpTx.toNat ++
      literal " udp_rx=0x" ++ hex udpRx.toNat ++ literal " sb_eff=" ++ unsigned sbEff.toNat ++
      literal " tmem_size=0x" ++ hex tmemSize.toNat)
  else if commandId = 1 then whenRead do
    let pid ← p.readU64 0
    return .print (literal "pid=0x" ++ padded 16 pid.toNat)
  else if commandId = 2 ∨ commandId = 3 then whenRead do
    let domain ← p.readS32 0
    let type ← p.readS32 4
    let protocol ← p.readS32 8
    let out := out.appendNamedValue (literal "domain") domain (getBsdAddressFamilyName domain.toUInt32.toUInt16)
    let out := out.appendNamedValue (literal "type") type (getBsdSocketTypeName type)
    return out.appendNamedValue (literal "protocol") protocol (getBsdProtocolName protocol)
  else if commandId = 4 then whenRead do
    let flags ← p.readU32 0
    return .print (literal "flags=0x" ++ hex flags.toNat)
  else if commandId = 5 then whenRead do
    let nfds ← p.readS32 0
    return .print (literal "nfds=" ++ signed nfds)
  else if commandId = 6 then whenRead do
    let nfds ← p.readU32 0
    let timeout ← p.readS32 4
    return .print (literal "nfds=" ++ unsigned nfds.toNat ++ literal " timeout_ms=" ++ signed timeout)
  else if commandId = 8 ∨ commandId = 9 ∨ commandId = 10 ∨ commandId = 11 then whenRead do
    let sockfd ← p.readS32 0
    let flags ← p.readU32 4
    return .print (literal "sockfd=" ++ signed sockfd ++ literal " flags=0x" ++ hex flags.toNat)
  else if commandId ∈ [(12 : UInt32),13,14,15,16,24,25,26,27] then whenRead do
    let value ← p.readS32 0
    let fieldName := if commandId ≥ 24 ∧ commandId ≤ 26 then literal "fd" else literal "sockfd"
    return .print (fieldName ++ literal "=" ++ signed value)
  else if commandId = 17 ∨ commandId = 21 then whenRead do
    let sockfd ← p.readS32 0
    let level ← p.readS32 4
    let optname ← p.readS32 8
    let out := out.appendSummaryText (literal "sockfd=" ++ signed sockfd)
    let out := out.appendNamedValue (literal "level") level (getBsdSocketLevelName level)
    let out := out.appendNamedHexValue (literal "optname") optname.toUInt32 (getBsdSocketOptionName level optname)
    if commandId = 17 then
      match p.readU32 12 with
      | some optlen => return out.appendSummaryText (literal "optlen=" ++ unsigned optlen.toNat)
      | none => return out
    else return out
  else if commandId = 18 then whenRead do
    let sockfd ← p.readS32 0
    let backlog ← p.readS32 4
    return .print (literal "sockfd=" ++ signed sockfd ++ literal " backlog=" ++ signed backlog)
  else if commandId = 19 then whenRead do
    let fd ← p.readS32 0
    let request ← p.readU32 4
    let bufcount ← p.readS32 8
    return .print (literal "fd=" ++ signed fd ++ literal " request=0x" ++ hex request.toNat ++
      literal " bufcount=" ++ signed bufcount)
  else if commandId = 20 then whenRead do
    let fd ← p.readS32 0
    let cmd ← p.readS32 4
    let flags ← p.readU32 8
    let out := out.appendSummaryText (literal "fd=" ++ signed fd)
    let out := out.appendNamedValue (literal "cmd") cmd (getBsdFcntlCommandName cmd)
    return out.appendSummaryText (literal "flags=0x" ++ hex flags.toNat)
  else if commandId = 22 then whenRead do
    let sockfd ← p.readS32 0
    let how ← p.readS32 4
    let out := out.appendSummaryText (literal "sockfd=" ++ signed sockfd)
    return out.appendNamedValue (literal "how") how (getBsdShutdownHowName how)
  else if commandId = 23 then whenRead do
    let how ← p.readS32 0
    return .print (literal "how=" ++ signed how)
  else if commandId = 29 ∨ commandId = 30 then whenRead do
    let sockfd ← p.readS32 0
    let vlen ← p.readS32 4
    let flags ← p.readU32 8
    return .print (literal "sockfd=" ++ signed sockfd ++ literal " vlen=" ++ signed vlen ++
      literal " flags=0x" ++ hex flags.toNat)
  else out

def formatBsdSemanticResponseSummary (outSize : Nat) (objectPath : CString) (commandId : UInt32)
    (responseDecode : ResponseDecodeDetails) : Summary outSize :=
  let p := responseDecode.payload
  if !isKnownBsdObjectPath objectPath then .empty
  else if commandId = 0 then whenRead do
    let assignedPid ← p.readU64 0
    return .print (literal "assigned_pid=0x" ++ padded 16 assignedPid.toNat)
  else if p.size < 8 then .empty
  else whenRead do
    let ret ← p.readS32 0
    let errnoValue ← p.readS32 4
    let both := literal "ret=" ++ signed ret ++ literal " errno=" ++ signed errnoValue
    if commandId ∈ [(9 : UInt32),12,15,16,17] then
      match p.readU32 8 with
      | some outLen => return .print (both ++ literal " out_len=" ++ unsigned outLen.toNat)
      | none => return .print both
    else return .print both

def formatNifmSemanticRequestSummary (outSize : Nat) (objectPath : CString) (commandId : UInt32)
    (requestDecode : RequestDecodeDetails) : Summary outSize :=
  let p := requestDecode.payload
  if !isKnownNifmObjectPath objectPath then .empty
  else if endsWith objectPath ".root".toList ∧ commandId = 5 ∧ p.size ≥ 8 then
    .print (literal "reserved_pid=0x" ++ padded 16 (u64At 0 p.bytes).toNat)
  else if countCmdSegments objectPath = 1 ∧ commandId = 4 ∧ p.size ≥ 4 then
    .print (literal "requirement_preset=" ++ unsigned p.word0.toNat)
  else if countCmdSegments objectPath = 2 ∧ getLastCreatorCommandId objectPath = 4 then
    if commandId = 6 then
      if p.size ≥ 4 then .print (literal "requirement_preset=" ++ unsigned p.word0.toNat) else .empty
    else if commandId = 12 then
      if p.size ≥ 1 then
        .print (literal "persistent=" ++ if u8At 0 p.bytes ≠ 0 then literal "true" else literal "false")
      else .empty
    else if commandId = 24 ∨ commandId = 25 then
      if p.size ≥ 4 then .print (literal "socket_descriptor=" ++ signed (u32At 0 p.bytes).toInt32) else .empty
    else .empty
  else .empty

def formatNifmSemanticResponseSummary (outSize : Nat) (objectPath : CString) (commandId : UInt32)
    (responseInfo : ParsedResponseInfo) (responseDecode : ResponseDecodeDetails) : Summary outSize :=
  let p := responseDecode.payload
  let ipv4At (offset : Nat) := formatIpv4 32 (p.bytes.drop offset) (p.size - offset)
  if !isKnownNifmObjectPath objectPath then .empty
  else if countCmdSegments objectPath = 1 ∧ commandId = 12 then
    if p.size ≥ 4 then .print (literal "ipv4=" ++ ipv4At 0) else .empty
  else if countCmdSegments objectPath = 1 ∧ commandId = 15 then
    if p.size ≥ 22 then
      .print (literal "ip_auto=" ++ unsigned (u8At 0 p.bytes).toNat ++ literal " ip=" ++ ipv4At 1 ++
        literal " mask=" ++ ipv4At 5 ++ literal " gateway=" ++ ipv4At 9 ++ literal " dns_auto=" ++
        unsigned (u8At 13 p.bytes).toNat ++ literal " dns_pref=" ++ ipv4At 14 ++ literal " dns_alt=" ++ ipv4At 18)
    else .empty
  else if countCmdSegments objectPath = 1 ∧ commandId = 17 then
    if p.size ≥ 1 then
      .print (literal "enabled=" ++ if u8At 0 p.bytes ≠ 0 then literal "true" else literal "false")
    else .empty
  else if countCmdSegments objectPath = 1 ∧ commandId = 18 then
    if p.size ≥ 3 then
      .print (literal "type=" ++ unsigned (u8At 0 p.bytes).toNat ++ literal " wifi_strength=" ++
        unsigned (u8At 1 p.bytes).toNat ++ literal " status=" ++ unsigned (u8At 2 p.bytes).toNat)
    else .empty
  else if countCmdSegments objectPath = 2 ∧ getLastCreatorCommandId objectPath = 4 then
    if commandId = 0 then
      if p.size ≥ 4 then .print (literal "state=" ++ unsigned p.word0.toNat) else .empty
    else if commandId = 1 then .print (literal "result=0x" ++ padded 8 responseInfo.resultValue.toNat)
    else if commandId = 2 then
      .print (literal "copy_handles=" ++ unsigned (UInt32.ofNat responseInfo.outObjectCount).toNat)
    else .empty
  else .empty

def formatSslSemanticRequestSummary (outSize : Nat) (objectPath : CString) (commandId : UInt32)
    (requestDecode : RequestDecodeDetails) (request : Option HipcRequest) : Summary outSize :=
  let p := requestDecode.payload
  let cmdDepth := countCmdSegments objectPath
  let lastCreator := getLastCreatorCommandId objectPath
  let isRoot := endsWith objectPath ".root".toList
  let value : Summary outSize := .print (literal "value=0x" ++ hex p.word0.toNat)
  let input := request.bind getFirstRequestInputView
  if !isKnownSslObjectPath objectPath then .empty
  else if isRoot ∧ (commandId = 0 ∨ commandId = 100) then
    if p.size ≥ 12 then
      .print (literal "ssl_version=0x" ++ hex (u32At 0 p.bytes).toNat ++ literal " pid_placeholder=0x" ++
        padded 16 (u64At 4 p.bytes).toNat)
    else .empty
  else if isRoot ∧ (commandId = 5 ∨ commandId = 101) then
    if p.size ≥ 4 then value
    else if p.size ≥ 8 then .print (literal "value=0x" ++ padded 16 (u64At 0 p.bytes).toNat)
    else .empty
  else
    let out : Summary outSize :=
      if isRoot ∧ commandId ∈ [(6 : UInt32),7,8,103] ∧ p.size ≥ 4 then value else .empty
    let out :=
      if cmdDepth = 1 ∧ (lastCreator = 0 ∨ lastCreator = 100) ∧ commandId ∈ [(0 : UInt32),1,8,100] ∧ p.size ≥ 4
      then value else out
    if cmdDepth = 2 ∧ (lastCreator = 2 ∨ lastCreator = 100) then
      if commandId = 0 ∨ commandId = 28 then
        let out :=
          match p.readS32 0 with
          | some sockfd => out.appendSummaryText (literal "sockfd=" ++ signed sockfd)
          | none => out
        if commandId = 28 then
          match input.bind (tryFormatSockaddr 160) with
          | some sockaddrText => out.appendSummaryText (literal "peer=\x7b" ++ sockaddrText ++ literal "\x7d")
          | none => out
        else out
      else if commandId = 1 then
        match input.bind (copyTextPreview 128) with
        | some text => out.appendSummaryText (literal "hostname=" ++ text)
        | none => out
      else if commandId ∈ [(2 : UInt32),3,17,20,22,23,30,34] then if p.size ≥ 4 then value else out
      else if commandId ∈ [(10 : UInt32),11,13,24,27,29,33,36] then
        match input with
        | some bytes => .print (literal "in_buf_size=" ++ unsigned bytes.length)
        | none => out
      else out
    else out

def formatSslSemanticResponseSummary (outSize : Nat) (objectPath : CString) (commandId : UInt32)
    (responseInfo : ParsedResponseInfo) (responseDecode : ResponseDecodeDetails) (request : Option HipcRequest)
    (response : Option HipcReply) : Summary outSize :=
  let p := responseDecode.payload
  let cmdDepth := countCmdSegments objectPath
  let lastCreator := getLastCreatorCommandId objectPath
  let outObjectCount := UInt32.ofNat responseInfo.outObjectCount
  if !isKnownSslObjectPath objectPath then .empty
  else
    let out : Summary outSize := .empty
    let out := if p.size ≥ 4 then out.appendSummaryText (literal "value0=0x" ++ hex p.word0.toNat) else out
    if p.size ≥ 8 ∧ commandId = 102 then
      Summary.empty.appendSummaryText (literal "mask=0x" ++ padded 16 (u64At 0 p.bytes).toNat)
    else
      let out :=
        if outObjectCount > 0 then
          out.appendSummaryText (literal "out_objects=" ++ unsigned outObjectCount.toNat)
        else out
      if cmdDepth = 2 ∧ (lastCreator = 2 ∨ lastCreator = 100) then
        if commandId = 0 ∨ commandId = 4 ∨ commandId = 28 then
          if p.size ≥ 4 then
            Summary.empty.appendSummaryText (literal "sockfd=" ++ signed (u32At 0 p.bytes).toInt32)
          else out
        else if commandId ∈ [(5 : UInt32),9,24,27,29,36] then
          match request with
          | none => out
          | some request =>
            if response.isNone then out
            else
              match getFirstResponseOutputView request response with
              | some bytes => out.appendSummaryText (literal "out_buf_size=" ++ unsigned bytes.length)
              | none => out
        else out
      else out

end NxReverse.Probe
