import NxReverse.Lib.Text
import NxReverse.Lib.Words

/-! CMIF decoding of `mitm_trace.cpp`. The HIPC parsers are the platform's: a parse gives
the message type, the place of the data words and their number. All else reads bytes. -/
namespace NxReverse.Probe

open Text Words

def hexPreviewBytes : Nat := 64
def semanticPayloadBytes : Nat := 64

/-- `FourCC<'S','F','C','I'>` and `FourCC<'S','F','C','O'>`. -/
def inHeaderMagic : UInt32 := 0x49434653
def outHeaderMagic : UInt32 := 0x4F434653

def cmifCommandTypeClose : UInt32 := 2
def cmifDomainRequestTypeSendMessage : UInt8 := 1
def cmifDomainRequestTypeClose : UInt8 := 2

structure CmifInHeader where
  magic : UInt32
  version : UInt32
  commandId : UInt32
  token : UInt32
  deriving DecidableEq, Repr

structure CmifOutHeader where
  magic : UInt32
  version : UInt32
  result : UInt32
  token : UInt32
  deriving DecidableEq, Repr

structure CmifDomainInHeader where
  type : UInt8
  numInObjects : UInt8
  dataSize : UInt16
  objectId : UInt32
  padding : UInt32
  token : UInt32
  deriving DecidableEq, Repr

structure CmifDomainOutHeader where
  numOutObjects : UInt32
  padding : List UInt32
  deriving DecidableEq, Repr

def CmifInHeader.read (bytes : Bytes) : CmifInHeader :=
  ⟨u32At 0 bytes,u32At 4 bytes,u32At 8 bytes,u32At 12 bytes⟩

def CmifOutHeader.read (bytes : Bytes) : CmifOutHeader :=
  ⟨u32At 0 bytes,u32At 4 bytes,u32At 8 bytes,u32At 12 bytes⟩

def CmifDomainInHeader.read (bytes : Bytes) : CmifDomainInHeader :=
  ⟨u8At 0 bytes,u8At 1 bytes,u16At 2 bytes,u32At 4 bytes,u32At 8 bytes,u32At 12 bytes⟩

def CmifDomainOutHeader.read (bytes : Bytes) : CmifDomainOutHeader :=
  ⟨u32At 0 bytes,[u32At 4 bytes,u32At 8 bytes,u32At 12 bytes]⟩

/-- `sizeof` of each of the four headers. -/
def headerSize : Nat := 16

/-- A message in memory; a null pointer is address 0. -/
structure PointerAndSize where
  address : Nat
  bytes : Bytes

/-- What the decoder uses of a parse; `dataWords` is an offset into the message. -/
structure HipcParsedRequest where
  type : UInt32
  numDataWords : Nat
  dataWords : Nat
  deriving DecidableEq

structure HipcResponse where
  numDataWords : Nat
  dataWords : Nat
  numMoveHandles : Nat
  deriving DecidableEq

def alignUp (value align : Nat) : Nat := (value + align - 1) / align * align

/-- The 16-byte aligned raw data; both parsers reserve 16 bytes for the alignment. -/
def rawData (message : PointerAndSize) (dataWords numDataWords : Nat) : Option Bytes :=
  let rawAddr := message.address + dataWords
  let rawSize := numDataWords * 4
  if rawSize < 0x10 then none
  else
    let alignedAddr := alignUp rawAddr 0x10
    if alignedAddr + (rawSize - 0x10) > message.address + message.bytes.length then none
    else some (slice (alignedAddr - message.address) (rawSize - 0x10) message.bytes)

def getRequestRawData (hipcParseRequest : PointerAndSize → HipcParsedRequest) (message : PointerAndSize) :
    Option (HipcParsedRequest × Bytes) :=
  if message.address = 0 ∨ message.bytes.length = 0 then none
  else
    let request := hipcParseRequest message
    (rawData message request.dataWords request.numDataWords).map fun raw => (request,raw)

def getResponseRawData (hipcParseResponse : PointerAndSize → HipcResponse) (message : PointerAndSize) :
    Option (HipcResponse × Bytes) :=
  if message.address = 0 ∨ message.bytes.length = 0 then none
  else
    let response := hipcParseResponse message
    (rawData message response.dataWords response.numDataWords).map fun raw => (response,raw)

def hexDigit (value : Nat) : Char := "0123456789abcdef".toList.getD value '0'

/-- Whole bytes only, as many as leave room for the terminator. -/
def hexEncode (outSize : Nat) (src : Bytes) : CString :=
  (src.take ((outSize - 1) / 2)).flatMap fun byte => [hexDigit (byte.toNat / 16),hexDigit (byte.toNat % 16)]

structure Payload where
  size : Nat
  words : List UInt32
  bytes : Bytes
  previewHex : CString
  deriving DecidableEq, Repr

def Payload.zero : Payload := ⟨0,List.replicate 4 0,List.replicate semanticPayloadBytes 0,[]⟩

/-- The copies every branch makes; what a longer payload left before stays behind a shorter one. -/
def Payload.capture (before : Payload) (payload : Bytes) : Payload where
  size := payload.length
  words := overlay before.words (wordsOf (min (payload.length / 4) 4) payload)
  bytes := overlay before.bytes (payload.take (min payload.length semanticPayloadBytes))
  previewHex := hexEncode (hexPreviewBytes * 2 + 1) (payload.take (min payload.length hexPreviewBytes))

structure RequestDecodeDetails where
  haveRaw : Bool
  rootCmifValid : Bool
  domainCmifValid : Bool
  rootClose : Bool
  domainClose : Bool
  commandType : UInt32
  rawSize : Nat
  rawWords : List UInt32
  rootHeader : CmifInHeader
  domainHeader : CmifDomainInHeader
  domainCmifHeader : CmifInHeader
  payload : Payload
  rawPreviewHex : CString
  deriving DecidableEq, Repr

def RequestDecodeDetails.empty : RequestDecodeDetails :=
  ⟨false,false,false,false,false,0,0,List.replicate 4 0,⟨0,0,0,0⟩,⟨0,0,0,0,0,0⟩,⟨0,0,0,0⟩,.zero,[]⟩

structure ResponseDecodeDetails where
  haveRaw : Bool
  rootCmifValid : Bool
  domainCmifValid : Bool
  outObjectIdsValid : Bool
  rawSize : Nat
  rawWords : List UInt32
  rootHeader : CmifOutHeader
  domainHeader : CmifDomainOutHeader
  domainCmifHeader : CmifOutHeader
  payload : Payload
  outObjectIdCount : Nat
  outObjectIds : List UInt32
  rawPreviewHex : CString
  deriving DecidableEq, Repr

def ResponseDecodeDetails.empty : ResponseDecodeDetails :=
  ⟨false,false,false,false,0,List.replicate 4 0,⟨0,0,0,0⟩,⟨0,[0,0,0]⟩,⟨0,0,0,0⟩,.zero,0,
    List.replicate 8 0,[]⟩

/-- The first 16 raw bytes read as a root header. -/
def RequestDecodeDetails.decodeRoot (details : RequestDecodeDetails) (raw : Bytes) : RequestDecodeDetails :=
  if raw.length < headerSize then details
  else
    let rootHeader := CmifInHeader.read raw
    let rootCmifValid := rootHeader.magic == inHeaderMagic
    { details with
      rootHeader := rootHeader
      rootCmifValid := rootCmifValid
      rootClose := !rootCmifValid && rootHeader.magic == cmifCommandTypeClose && raw.length == headerSize
      payload :=
        if rootCmifValid then details.payload.capture (raw.drop headerSize) else details.payload }

/-- The same bytes read as a domain header with a root header behind it. -/
def RequestDecodeDetails.decodeDomain (details : RequestDecodeDetails) (raw : Bytes) :
    RequestDecodeDetails :=
  if raw.length < headerSize + headerSize then details
  else
    let domainHeader := CmifDomainInHeader.read raw
    let domainCmifHeader := CmifInHeader.read (raw.drop headerSize)
    let domainCmifValid := domainHeader.type == cmifDomainRequestTypeSendMessage &&
      domainCmifHeader.magic == inHeaderMagic
    let payloadOffset := headerSize + headerSize
    let payloadSize := domainHeader.dataSize.toNat - headerSize
    { details with
      domainHeader := domainHeader
      domainCmifHeader := domainCmifHeader
      domainClose := domainHeader.type == cmifDomainRequestTypeClose
      domainCmifValid := domainCmifValid
      payload :=
        if domainCmifValid ∧ domainHeader.dataSize.toNat ≥ headerSize ∧
          raw.length ≥ payloadOffset + payloadSize
        then details.payload.capture (slice payloadOffset payloadSize raw) else details.payload }

def RequestDecodeDetails.start (commandType : UInt32) (raw : Bytes) : RequestDecodeDetails :=
  { RequestDecodeDetails.empty with
    haveRaw := true
    commandType := commandType
    rawSize := raw.length
    rawPreviewHex := hexEncode (hexPreviewBytes * 2 + 1) (raw.take (min raw.length hexPreviewBytes))
    rawWords := overlay RequestDecodeDetails.empty.rawWords (wordsOf (min (raw.length / 4) 4) raw) }

def RequestDecodeDetails.ofRaw (commandType : UInt32) (raw : Bytes) : RequestDecodeDetails :=
  ((RequestDecodeDetails.start commandType raw).decodeRoot raw).decodeDomain raw

def getRequestDecodeDetails (hipcParseRequest : PointerAndSize → HipcParsedRequest)
    (message : PointerAndSize) : RequestDecodeDetails :=
  match getRequestRawData hipcParseRequest message with
  | none => .empty
  | some (request,raw) => .ofRaw request.type raw

def ResponseDecodeDetails.decodeRoot (details : ResponseDecodeDetails) (raw : Bytes) :
    ResponseDecodeDetails :=
  if raw.length < headerSize then details
  else
    let rootHeader := CmifOutHeader.read raw
    let rootCmifValid := rootHeader.magic == outHeaderMagic
    { details with
      rootHeader := rootHeader
      rootCmifValid := rootCmifValid
      payload :=
        if rootCmifValid then details.payload.capture (raw.drop headerSize) else details.payload }

/-- The trailing object ids, copied only when the count fits the array and the message. -/
def ResponseDecodeDetails.decodeOutObjects (details : ResponseDecodeDetails) (raw : Bytes) :
    ResponseDecodeDetails :=
  let outObjectCount := details.domainHeader.numOutObjects.toNat
  if details.domainCmifValid ∧ outObjectCount > 0 ∧ outObjectCount ≤ 8 ∧
    raw.length ≥ headerSize + headerSize + outObjectCount * 4
  then
    { details with
      outObjectIds := overlay details.outObjectIds
        (wordsOf outObjectCount (raw.drop (raw.length - outObjectCount * 4)))
      outObjectIdCount := outObjectCount
      outObjectIdsValid := true }
  else details

def ResponseDecodeDetails.readDomainHeaders (details : ResponseDecodeDetails) (raw : Bytes) :
    ResponseDecodeDetails :=
  let domainCmifHeader := CmifOutHeader.read (raw.drop headerSize)
  { details with
    domainHeader := CmifDomainOutHeader.read raw
    domainCmifHeader := domainCmifHeader
    domainCmifValid := domainCmifHeader.magic == outHeaderMagic }

def ResponseDecodeDetails.decodeDomain (details : ResponseDecodeDetails) (raw : Bytes) :
    ResponseDecodeDetails :=
  if raw.length < headerSize + headerSize then details
  else
    let objects := (details.readDomainHeaders raw).decodeOutObjects raw
    let payloadOffset := headerSize + headerSize
    let trailerSize := objects.outObjectIdCount * 4
    { objects with
      payload :=
        if objects.domainCmifValid ∧ raw.length ≥ payloadOffset + trailerSize
        then objects.payload.capture (slice payloadOffset (raw.length - payloadOffset - trailerSize) raw)
        else objects.payload }

def ResponseDecodeDetails.start (raw : Bytes) : ResponseDecodeDetails :=
  { ResponseDecodeDetails.empty with
    haveRaw := true
    rawSize := raw.length
    rawPreviewHex := hexEncode (hexPreviewBytes * 2 + 1) (raw.take (min raw.length hexPreviewBytes))
    rawWords := overlay ResponseDecodeDetails.empty.rawWords (wordsOf (min (raw.length / 4) 4) raw) }

def ResponseDecodeDetails.ofRaw (raw : Bytes) : ResponseDecodeDetails :=
  ((ResponseDecodeDetails.start raw).decodeRoot raw).decodeDomain raw

def getResponseDecodeDetails (hipcParseResponse : PointerAndSize → HipcResponse)
    (message : PointerAndSize) : ResponseDecodeDetails :=
  match getResponseRawData hipcParseResponse message with
  | none => .empty
  | some (_,raw) => .ofRaw raw

structure ParsedRequestInfo where
  valid : Bool
  isDomain : Bool
  isClose : Bool
  commandType : UInt32
  commandId : UInt32
  objectId : UInt32
  rawSize : Nat
  deriving DecidableEq, Repr

def parseRequestInfo (hipcParseRequest : PointerAndSize → HipcParsedRequest) (message : PointerAndSize) :
    ParsedRequestInfo :=
  let details := getRequestDecodeDetails hipcParseRequest message
  let info : ParsedRequestInfo := ⟨false,false,false,0,0,0,0⟩
  if !details.haveRaw then info
  else
    let info := { info with commandType := details.commandType, rawSize := details.rawSize }
    if details.rootCmifValid then { info with valid := true, commandId := details.rootHeader.commandId }
    else if details.rootClose then { info with valid := true, isClose := true }
    else if details.domainCmifValid then
      { info with
        valid := true
        isDomain := true
        objectId := details.domainHeader.objectId
        commandId := details.domainCmifHeader.commandId }
    else if details.domainClose then
      { info with
        valid := true
        isDomain := true
        isClose := true
        objectId := details.domainHeader.objectId }
    else info

structure ParsedResponseInfo where
  valid : Bool
  isDomain : Bool
  resultValue : UInt32
  rawSize : Nat
  outObjectCount : Nat
  deriving DecidableEq, Repr

def parseResponseInfo (hipcParseResponse : PointerAndSize → HipcResponse) (message : PointerAndSize) :
    ParsedResponseInfo :=
  match getResponseRawData hipcParseResponse message with
  | none => ⟨false,false,0,0,0⟩
  | some (response,raw) =>
    let details := getResponseDecodeDetails hipcParseResponse message
    if details.rootCmifValid then
      ⟨true,false,details.rootHeader.result,raw.length,response.numMoveHandles⟩
    else if details.domainCmifValid then
      ⟨true,true,details.domainCmifHeader.result,raw.length,details.domainHeader.numOutObjects.toNat⟩
    else ⟨false,false,0,raw.length,0⟩

/-- The `selected_kind` text of a record. -/
def getSelectedKindText (requestInfo : ParsedRequestInfo) : CString :=
  if !requestInfo.valid then "invalid".toList
  else if requestInfo.isClose then
    if requestInfo.isDomain then "domain_close".toList else "root_close".toList
  else if requestInfo.isDomain then "domain".toList else "root".toList

end NxReverse.Probe
