import NxReverse.Probe.CmifLayout

/-! Requests as clients write them, and the kind, object, command and payload the decoder
reports for them. -/
namespace NxReverse.Probe

open Text Words

structure DomainSendMessage where
  objectId : UInt32
  commandId : UInt32
  version : UInt32
  token : UInt32
  padding : UInt32
  domainToken : UInt32
  payload : Bytes
  payloadFits : headerSize + payload.length < 2 ^ 16
  inObjects : List UInt32
  inObjectsFit : inObjects.length < 2 ^ 8
  /-- Pads the raw data to whole words. -/
  tail : Bytes

def DomainSendMessage.domainHeader (d : DomainSendMessage) : CmifDomainInHeader where
  type := cmifDomainRequestTypeSendMessage
  numInObjects := UInt8.ofNat d.inObjects.length
  dataSize := UInt16.ofNat (headerSize + d.payload.length)
  objectId := d.objectId
  padding := d.padding
  token := d.domainToken

def DomainSendMessage.inHeader (d : DomainSendMessage) : CmifInHeader :=
  ⟨inHeaderMagic,d.version,d.commandId,d.token⟩

theorem DomainSendMessage.toNat_dataSize (d : DomainSendMessage) :
    d.domainHeader.dataSize.toNat = headerSize + d.payload.length := by
  rw [DomainSendMessage.domainHeader,UInt16.toNat_ofNat']
  exact Nat.mod_eq_of_lt d.payloadFits

inductive CmifRequest where
  | sendMessage (version commandId token : UInt32) (payload : Bytes)
  | domainSendMessage (message : DomainSendMessage)
  | domainClose (header : CmifDomainInHeader) (isClose : header.type = cmifDomainRequestTypeClose)
  | close

namespace CmifRequest

def raw : CmifRequest → Bytes
  | sendMessage version commandId token payload =>
    (CmifInHeader.mk inHeaderMagic version commandId token).bytes ++ payload
  | domainSendMessage d =>
    d.domainHeader.bytes ++ (d.inHeader.bytes ++ (d.payload ++ (d.inObjects.flatMap u32Bytes ++ d.tail)))
  | domainClose header _ => header.bytes
  | close => []

def isSendMessage : CmifRequest → Bool
  | sendMessage .. | domainSendMessage _ => true
  | domainClose .. | close => false

end CmifRequest

/-- A close of the root object is a HIPC type and no data words; every other shape has
raw data. -/
def Laid (hipcParseRequest : PointerAndSize → HipcParsedRequest) (message : PointerAndSize) :
    CmifRequest → Prop
  | .close => message.address ≠ 0 ∧ message.bytes ≠ [] ∧
      (hipcParseRequest message).type = cmifCommandTypeClose ∧
      (hipcParseRequest message).numDataWords = 0
  | r => Carries message (hipcParseRequest message).dataWords (hipcParseRequest message).numDataWords r.raw

/-- Kind, object, command and payload are the encoded ones. -/
def RightlyDecoded (hipcParseRequest : PointerAndSize → HipcParsedRequest) (message : PointerAndSize)
    (r : CmifRequest) : Prop :=
  let info := parseRequestInfo hipcParseRequest message
  let details := getRequestDecodeDetails hipcParseRequest message
  match r with
  | .sendMessage _ commandId _ payload => getSelectedKindText info = "root".toList ∧
      info.objectId = 0 ∧ info.commandId = commandId ∧ details.payload.Captures payload
  | .domainSendMessage d => getSelectedKindText info = "domain".toList ∧
      info.objectId = d.objectId ∧ info.commandId = d.commandId ∧ details.payload.Captures d.payload
  | .domainClose header _ =>
      getSelectedKindText info = "domain_close".toList ∧ info.objectId = header.objectId
  | .close => getSelectedKindText info = "root_close".toList

section Request

variable {hipcParseRequest : PointerAndSize → HipcParsedRequest} {message : PointerAndSize}

theorem getRequestRawData_carries {raw : Bytes} (nonempty : raw ≠ [])
    (carries : Carries message (hipcParseRequest message).dataWords
      (hipcParseRequest message).numDataWords raw) :
    getRequestRawData hipcParseRequest message = some (hipcParseRequest message,raw) := by
  have present : ¬(message.address = 0 ∨ message.bytes.length = 0) := by
    rintro (null | empty)
    · exact carries.notNull null
    · exact length_bytes_of_carries carries nonempty empty
  simp only [getRequestRawData,present,if_false,rawData_carries carries,Option.map_some]

theorem getRequestDecodeDetails_carries {raw : Bytes} (nonempty : raw ≠ [])
    (carries : Carries message (hipcParseRequest message).dataWords
      (hipcParseRequest message).numDataWords raw) :
    getRequestDecodeDetails hipcParseRequest message = .ofRaw (hipcParseRequest message).type raw := by
  rw [getRequestDecodeDetails,getRequestRawData_carries nonempty carries]

/-- The domain half of the decoder writes none of the fields the root half decided. -/
theorem decodeDomain_root (details : RequestDecodeDetails) (raw : Bytes) :
    let after := details.decodeDomain raw
    after.haveRaw = details.haveRaw ∧ after.rootCmifValid = details.rootCmifValid ∧
      after.rootClose = details.rootClose ∧ after.rootHeader = details.rootHeader := by
  simp only [RequestDecodeDetails.decodeDomain]
  split <;> simp

theorem decodeDomain_short (details : RequestDecodeDetails) {raw : Bytes}
    (short : raw.length < headerSize + headerSize) : details.decodeDomain raw = details := by
  simp [RequestDecodeDetails.decodeDomain,short]

/-- Without a domain `SendMessage` header the payload stays what the root half captured. -/
theorem decodeDomain_payload (details : RequestDecodeDetails) {raw : Bytes}
    (notDomain : u8At 0 raw ≠ cmifDomainRequestTypeSendMessage) :
    (details.decodeDomain raw).payload = details.payload := by
  simp only [RequestDecodeDetails.decodeDomain,CmifDomainInHeader.read]
  split
  · rfl
  · simp [notDomain]

/-- What the root half makes of a leading in-header. -/
theorem decodeRoot_header (details : RequestDecodeDetails) (header : CmifInHeader) (rest : Bytes) :
    let after := details.decodeRoot (header.bytes ++ rest)
    after.haveRaw = details.haveRaw ∧ after.rootHeader = header ∧
      after.rootCmifValid = (header.magic == inHeaderMagic) ∧
      (header.magic = inHeaderMagic → after.payload = details.payload.capture rest) := by
  have long : ¬(header.bytes ++ rest).length < headerSize := by
    rw [List.length_append,CmifInHeader.length_bytes]
    omega
  have tail : (header.bytes ++ rest).drop headerSize = rest := by
    rw [List.drop_left' header.length_bytes]
  simp only [RequestDecodeDetails.decodeRoot,long,if_false,CmifInHeader.read_bytes,tail,true_and]
  intro magic
  simp [magic]

/-- A root `SendMessage` cannot look like a domain message: its first byte is the magic's. -/
theorem ofRaw_sendMessage (type : UInt32) (header : CmifInHeader)
    (magic : header.magic = inHeaderMagic) (payload : Bytes) :
    let details := RequestDecodeDetails.ofRaw type (header.bytes ++ payload)
    details.haveRaw = true ∧ details.rootCmifValid = true ∧ details.rootHeader = header ∧
      details.payload.Captures payload := by
  have notDomain : u8At 0 (header.bytes ++ payload) ≠ cmifDomainRequestTypeSendMessage := by
    rw [CmifInHeader.bytes,magic]
    simp [u8At,slice,u32Bytes,bytesLE,readLE,inHeaderMagic,cmifDomainRequestTypeSendMessage]
  obtain ⟨haveRaw,root,valid,captured⟩ := decodeRoot_header (.start type (header.bytes ++ payload)) header payload
  rw [RequestDecodeDetails.ofRaw]
  generalize (RequestDecodeDetails.start type (header.bytes ++ payload)).decodeRoot
    (header.bytes ++ payload) = details at haveRaw root valid captured
  obtain ⟨keptRaw,keptValid,_,keptHeader⟩ := decodeDomain_root details (header.bytes ++ payload)
  refine ⟨keptRaw.trans haveRaw,keptValid.trans ?_,keptHeader.trans root,?_⟩
  · rw [valid,magic]
    rfl
  · rw [decodeDomain_payload _ notDomain,captured magic]
    exact Payload.captures_capture _ _

/-- A domain header never reads as a root header or a root close, its type being 1. -/
theorem decodeRoot_domain (details : RequestDecodeDetails) (header : CmifDomainInHeader)
    (type : header.type = cmifDomainRequestTypeSendMessage) (rest : Bytes)
    (clean : details.rootCmifValid = false ∧ details.rootClose = false) :
    let after := details.decodeRoot (header.bytes ++ rest)
    after.haveRaw = details.haveRaw ∧ after.rootCmifValid = false ∧ after.rootClose = false := by
  have low := header.first_word rest
  rw [type] at low
  have notMagic : u32At 0 (header.bytes ++ rest) ≠ inHeaderMagic := by
    intro same
    rw [same] at low
    exact absurd low (by decide)
  have notClose : u32At 0 (header.bytes ++ rest) ≠ cmifCommandTypeClose := by
    intro same
    rw [same] at low
    exact absurd low (by decide)
  simp only [RequestDecodeDetails.decodeRoot,CmifInHeader.read]
  split
  · exact ⟨rfl,clean⟩
  · simp [notMagic,notClose]

theorem ofRaw_domainSendMessage (type : UInt32) (d : DomainSendMessage) (rest : Bytes) :
    let details := RequestDecodeDetails.ofRaw type
      (d.domainHeader.bytes ++ (d.inHeader.bytes ++ (d.payload ++ rest)))
    details.haveRaw = true ∧ details.rootCmifValid = false ∧ details.rootClose = false ∧
      details.domainCmifValid = true ∧ details.domainHeader = d.domainHeader ∧
      details.domainCmifHeader = d.inHeader ∧ details.payload.Captures d.payload := by
  generalize whole : d.domainHeader.bytes ++ (d.inHeader.bytes ++ (d.payload ++ rest)) = raw
  have length : raw.length = headerSize + (headerSize + (d.payload.length + rest.length)) := by
    simp [← whole]
  have long : ¬raw.length < headerSize + headerSize := by omega
  have domainHeader : CmifDomainInHeader.read raw = d.domainHeader := by simp [← whole]
  have inHeader : CmifInHeader.read (raw.drop headerSize) = d.inHeader := by
    rw [← whole,List.drop_left' d.domainHeader.length_bytes,CmifInHeader.read_bytes]
  have dataSize := d.toNat_dataSize
  have enough : raw.length ≥ headerSize + headerSize + (headerSize + d.payload.length - headerSize) := by omega
  have payload : slice (headerSize + headerSize) (headerSize + d.payload.length - headerSize) raw = d.payload := by
    rw [← whole,slice_append d.domainHeader.length_bytes,← Nat.add_zero headerSize,
      slice_append d.inHeader.length_bytes]
    exact slice_here (by omega) rest
  obtain ⟨haveRaw,notRoot,notClose⟩ := decodeRoot_domain (.start type raw) d.domainHeader rfl
    (d.inHeader.bytes ++ (d.payload ++ rest)) ⟨rfl,rfl⟩
  rw [whole] at haveRaw notRoot notClose
  rw [RequestDecodeDetails.ofRaw]
  generalize (RequestDecodeDetails.start type raw).decodeRoot raw = details at haveRaw notRoot notClose
  obtain ⟨keptRaw,keptValid,keptClose,_⟩ := decodeDomain_root details raw
  refine ⟨keptRaw.trans haveRaw,keptValid.trans notRoot,keptClose.trans notClose,?_⟩
  have isDomain : (d.domainHeader.type == cmifDomainRequestTypeSendMessage &&
      d.inHeader.magic == inHeaderMagic) = true := rfl
  simp only [RequestDecodeDetails.decodeDomain,long,if_false,domainHeader,inHeader,dataSize,isDomain,
    payload,true_and]
  rw [if_pos ⟨Nat.le_add_right _ _,enough⟩]
  exact Payload.captures_capture _ _

/-- Raw data too short for two headers never sets a domain flag. -/
theorem ofRaw_short (type : UInt32) {raw : Bytes} (short : raw.length < headerSize + headerSize) :
    let details := RequestDecodeDetails.ofRaw type raw
    details.domainCmifValid = false ∧ details.domainClose = false := by
  simp only [RequestDecodeDetails.ofRaw,decodeDomain_short _ short,RequestDecodeDetails.decodeRoot]
  split <;> exact ⟨rfl,rfl⟩

theorem selectedKind_root {details : RequestDecodeDetails}
    (found : getRequestDecodeDetails hipcParseRequest message = details) (haveRaw : details.haveRaw = true)
    (root : details.rootCmifValid = true) :
    let info := parseRequestInfo hipcParseRequest message
    getSelectedKindText info = "root".toList ∧ info.objectId = 0 ∧
      info.commandId = details.rootHeader.commandId := by
  simp [parseRequestInfo,found,haveRaw,root,getSelectedKindText]

theorem selectedKind_domain {details : RequestDecodeDetails}
    (found : getRequestDecodeDetails hipcParseRequest message = details) (haveRaw : details.haveRaw = true)
    (notRoot : details.rootCmifValid = false) (notClose : details.rootClose = false)
    (domain : details.domainCmifValid = true) :
    let info := parseRequestInfo hipcParseRequest message
    getSelectedKindText info = "domain".toList ∧ info.objectId = details.domainHeader.objectId ∧
      info.commandId = details.domainCmifHeader.commandId := by
  simp [parseRequestInfo,found,haveRaw,notRoot,notClose,domain,getSelectedKindText]

/-- Without a domain flag no kind of domain is selected. -/
theorem selectedKind_not_domain {details : RequestDecodeDetails}
    (found : getRequestDecodeDetails hipcParseRequest message = details)
    (notDomain : details.domainCmifValid = false ∧ details.domainClose = false) :
    getSelectedKindText (parseRequestInfo hipcParseRequest message) ≠ "domain_close".toList := by
  have flag : (parseRequestInfo hipcParseRequest message).isDomain = false := by
    simp only [parseRequestInfo,found,notDomain]
    repeat' split
    all_goals simp_all
  simp only [getSelectedKindText,flag,Bool.false_eq_true,if_false]
  repeat' split
  all_goals simp

/-- A message without raw data is not decoded at all. -/
theorem selectedKind_noRaw (missing : getRequestRawData hipcParseRequest message = none) :
    getSelectedKindText (parseRequestInfo hipcParseRequest message) = "invalid".toList := by
  simp [parseRequestInfo,getRequestDecodeDetails,missing,RequestDecodeDetails.empty,getSelectedKindText]

/-- A request is decoded rightly exactly when it is a `SendMessage`: the domain header of a
close is only read behind 32 bytes of raw data, and a root close without data words is
refused for its size. -/
theorem rightlyDecoded_iff {r : CmifRequest} (laid : Laid hipcParseRequest message r) :
    RightlyDecoded hipcParseRequest message r ↔ r.isSendMessage = true := by
  cases r with
  | sendMessage version commandId token payload =>
    have nonempty : CmifRequest.raw (.sendMessage version commandId token payload) ≠ [] := by
      simp [CmifRequest.raw,CmifInHeader.bytes,u32Bytes,bytesLE]
    have found := getRequestDecodeDetails_carries nonempty laid
    obtain ⟨haveRaw,root,header,captures⟩ := ofRaw_sendMessage (hipcParseRequest message).type
      ⟨inHeaderMagic,version,commandId,token⟩ rfl payload
    obtain ⟨kind,object,command⟩ := selectedKind_root found haveRaw root
    refine iff_of_true ⟨kind,object,command.trans ?_,found ▸ captures⟩ rfl
    exact congrArg CmifInHeader.commandId header
  | domainSendMessage d =>
    have nonempty : CmifRequest.raw (.domainSendMessage d) ≠ [] := by
      simp [CmifRequest.raw,CmifDomainInHeader.bytes,u8Bytes,bytesLE]
    have found := getRequestDecodeDetails_carries nonempty laid
    obtain ⟨haveRaw,notRoot,notClose,domain,outer,inner,captures⟩ := ofRaw_domainSendMessage
      (hipcParseRequest message).type d (d.inObjects.flatMap u32Bytes ++ d.tail)
    obtain ⟨kind,object,command⟩ := selectedKind_domain found haveRaw notRoot notClose domain
    refine iff_of_true ⟨kind,object.trans ?_,command.trans ?_,found ▸ captures⟩ rfl
    · exact congrArg CmifDomainInHeader.objectId outer
    · exact congrArg CmifInHeader.commandId inner
  | domainClose header isClose =>
    have nonempty : CmifRequest.raw (.domainClose header isClose) ≠ [] := by
      simp [CmifRequest.raw,CmifDomainInHeader.bytes,u8Bytes,bytesLE]
    have found := getRequestDecodeDetails_carries nonempty laid
    have short : header.bytes.length < headerSize + headerSize := by
      rw [CmifDomainInHeader.length_bytes]
      decide
    have kind := selectedKind_not_domain found (ofRaw_short _ short)
    exact iff_of_false (fun right => kind right.1) Bool.false_ne_true
  | close =>
    obtain ⟨_,_,_,noWords⟩ := laid
    have missing : getRequestRawData hipcParseRequest message = none := by
      simp [getRequestRawData,rawData,noWords]
    have kind := selectedKind_noRaw missing
    refine iff_of_false (fun right => ?_) Bool.false_ne_true
    rw [RightlyDecoded,kind] at right
    exact absurd right (by decide)

end Request

/-- The parse of a request without descriptors or special header: the data words follow
the two header words. -/
def hipcParsePlain (message : PointerAndSize) : HipcParsedRequest :=
  ⟨u32At 0 message.bytes % 2 ^ 16,(u32At 4 message.bytes).toNat % 2 ^ 10,8⟩

theorem rightlyDecoded_sendMessage :
    let r : CmifRequest := .sendMessage 0 7 0 [1,2,3,4]
    RightlyDecoded hipcParsePlain (plainMessage 4 9 r.raw) r := by
  intro r
  have laid : Laid hipcParsePlain (plainMessage 4 9 r.raw) r :=
    ⟨by decide,by decide,⟨u32Bytes 4 ++ u32Bytes 9 ++ List.replicate 8 0,[],by decide,by decide⟩⟩
  exact (rightlyDecoded_iff laid).mpr rfl

/-- The close of domain object 5 is taken for a close of the root object. -/
theorem rightlyDecoded_not_domainClose :
    ¬∀ hipcParseRequest message r, Laid hipcParseRequest message r →
      RightlyDecoded hipcParseRequest message r := by
  intro all
  have right := all hipcParsePlain (plainMessage 4 8 (CmifDomainInHeader.mk 2 0 0 5 0 0).bytes)
    (.domainClose ⟨2,0,0,5,0,0⟩ rfl)
    ⟨by decide,by decide,⟨u32Bytes 4 ++ u32Bytes 8 ++ List.replicate 8 0,[],by decide,by decide⟩⟩
  exact absurd right.1 (by decide)

end NxReverse.Probe
