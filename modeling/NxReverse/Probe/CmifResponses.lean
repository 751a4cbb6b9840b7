import NxReverse.Probe.CmifLayout

/-! Responses as servers write them, and what the two readers of a response report. The
payload of a root response is arbitrary, so it may hold the magic word itself. -/
namespace NxReverse.Probe

open Text Words

structure DomainReply where
  header : CmifDomainOutHeader
  outHeader : CmifOutHeader
  isReply : outHeader.magic = outHeaderMagic
  payload : Bytes
  outObjects : List UInt32
  counted : header.numOutObjects.toNat = outObjects.length
  atMostEight : outObjects.length ≤ 8
  padding : header.padding.length = 3

def CmifDomainOutHeader.bytes (h : CmifDomainOutHeader) : Bytes :=
  u32Bytes h.numOutObjects ++ h.padding.flatMap u32Bytes

def DomainReply.raw (r : DomainReply) : Bytes :=
  r.header.bytes ++ (r.outHeader.bytes ++ (r.payload ++ r.outObjects.flatMap u32Bytes))

section Response

variable (hipcParseResponse : PointerAndSize → HipcResponse) (message : PointerAndSize)

/-- Root and domain responses are told apart and taken apart as they were written, and the
two readers of a response agree. -/
structure ResponseDecoded : Prop where
  root : ∀ (header : CmifOutHeader) payload, header.magic = outHeaderMagic →
    Carries message (hipcParseResponse message).dataWords (hipcParseResponse message).numDataWords
      (header.bytes ++ payload) →
    let details := getResponseDecodeDetails hipcParseResponse message
    let info := parseResponseInfo hipcParseResponse message
    details.rootCmifValid = true ∧ details.domainCmifValid = false ∧ info.valid = true ∧
      info.isDomain = false ∧ info.resultValue = header.result ∧ details.payload.Captures payload
  domain : ∀ r : DomainReply,
    Carries message (hipcParseResponse message).dataWords (hipcParseResponse message).numDataWords r.raw →
    let details := getResponseDecodeDetails hipcParseResponse message
    let info := parseResponseInfo hipcParseResponse message
    details.rootCmifValid = false ∧ details.domainCmifValid = true ∧ info.valid = true ∧
      info.isDomain = true ∧ info.resultValue = r.outHeader.result ∧ details.payload.Captures r.payload ∧
      details.outObjectIds.take details.outObjectIdCount = r.outObjects
  agree :
    let details := getResponseDecodeDetails hipcParseResponse message
    let info := parseResponseInfo hipcParseResponse message
    info.isDomain = details.domainCmifValid ∧ (info.valid && !info.isDomain) = details.rootCmifValid ∧
      (details.rootCmifValid = true → info.resultValue = details.rootHeader.result) ∧
      (details.domainCmifValid = true → info.resultValue = details.domainCmifHeader.result)

/-- The magic word stands where a root and where a domain response has it. -/
def BothMagics : Prop :=
  ∃ response raw, getResponseRawData hipcParseResponse message = some (response,raw) ∧
    headerSize + headerSize ≤ raw.length ∧ u32At 0 raw = outHeaderMagic ∧
    u32At headerSize raw = outHeaderMagic

end Response

@[simp] theorem CmifDomainOutHeader.length_bytes (h : CmifDomainOutHeader) :
    h.bytes.length = 4 + 4 * h.padding.length := by
  simp [CmifDomainOutHeader.bytes,List.length_flatMap,Nat.mul_comm]

/-- The object ids are the only fields their copy writes. -/
theorem decodeOutObjects_kept (details : ResponseDecodeDetails) (raw : Bytes) :
    let after := details.decodeOutObjects raw
    after.haveRaw = details.haveRaw ∧ after.rootCmifValid = details.rootCmifValid ∧
      after.rootHeader = details.rootHeader ∧ after.domainCmifValid = details.domainCmifValid ∧
      after.domainCmifHeader = details.domainCmifHeader ∧ after.domainHeader = details.domainHeader ∧
      after.payload = details.payload := by
  simp only [ResponseDecodeDetails.decodeOutObjects]
  split <;> simp

/-- What the domain half of the response decoder does to the other fields. -/
theorem decodeDomain_response (details : ResponseDecodeDetails) (raw : Bytes) :
    let after := details.decodeDomain raw
    after.rootCmifValid = details.rootCmifValid ∧ after.rootHeader = details.rootHeader ∧
      (headerSize + headerSize ≤ raw.length →
        after.domainCmifHeader = CmifOutHeader.read (raw.drop headerSize) ∧
        after.domainCmifValid = (u32At 0 (raw.drop headerSize) == outHeaderMagic)) ∧
      (raw.length < headerSize + headerSize → after = details) := by
  by_cases short : raw.length < headerSize + headerSize
  · simp [ResponseDecodeDetails.decodeDomain,short]
  · simp only [ResponseDecodeDetails.decodeDomain,short,if_false,false_implies,and_true]
    obtain ⟨_,root,header,valid,cmif,_,_⟩ := decodeOutObjects_kept (details.readDomainHeaders raw) raw
    exact ⟨root,header,fun _ => ⟨cmif,valid⟩⟩

/-- What the root half makes of a leading out-header. -/
theorem decodeRoot_response (details : ResponseDecodeDetails) {raw : Bytes} (long : headerSize ≤ raw.length) :
    let after := details.decodeRoot raw
    after.rootHeader = CmifOutHeader.read raw ∧
      after.rootCmifValid = (u32At 0 raw == outHeaderMagic) ∧
      after.domainCmifValid = details.domainCmifValid ∧
      after.outObjectIdCount = details.outObjectIdCount ∧
      (u32At 0 raw = outHeaderMagic → after.payload = details.payload.capture (raw.drop headerSize)) := by
  simp only [ResponseDecodeDetails.decodeRoot,Nat.not_lt.mpr long,if_false,CmifOutHeader.read,true_and]
  intro magic
  simp [magic]

/-- The two validity flags of a response, by the words they are read from. -/
theorem ofRaw_flags (raw : Bytes) :
    let details := ResponseDecodeDetails.ofRaw raw
    (details.rootCmifValid = true ↔ headerSize ≤ raw.length ∧ u32At 0 raw = outHeaderMagic) ∧
    (details.domainCmifValid = true ↔
      headerSize + headerSize ≤ raw.length ∧ u32At headerSize raw = outHeaderMagic) := by
  obtain ⟨root,_,long,short⟩ :=
    decodeDomain_response ((ResponseDecodeDetails.start raw).decodeRoot raw) raw
  simp only [ResponseDecodeDetails.ofRaw]
  by_cases one : headerSize ≤ raw.length
  · obtain ⟨_,valid,domain,_,_⟩ := decodeRoot_response (.start raw) one
    refine ⟨by simp [root,valid,one],?_⟩
    by_cases two : headerSize + headerSize ≤ raw.length
    · simp [(long two).2,two,u32At_drop]
    · rw [short (Nat.lt_of_not_le two),domain]
      simp [two,ResponseDecodeDetails.start,ResponseDecodeDetails.empty]
  · have two : ¬headerSize + headerSize ≤ raw.length := by omega
    have unread : (ResponseDecodeDetails.start raw).decodeRoot raw = .start raw := by
      simp [ResponseDecodeDetails.decodeRoot,Nat.lt_of_not_le one]
    rw [short (Nat.lt_of_not_le two),unread]
    simp [one,two,ResponseDecodeDetails.start,ResponseDecodeDetails.empty]

/-- A root response keeps its payload unless a second magic word makes it a domain response too. -/
theorem ofRaw_root {header : CmifOutHeader} (magic : header.magic = outHeaderMagic) (payload : Bytes)
    (single : (ResponseDecodeDetails.ofRaw (header.bytes ++ payload)).domainCmifValid = false) :
    let details := ResponseDecodeDetails.ofRaw (header.bytes ++ payload)
    details.rootHeader = header ∧ details.payload.Captures payload := by
  generalize whole : header.bytes ++ payload = raw at single
  have long : headerSize ≤ raw.length := by simp [← whole]
  have read : CmifOutHeader.read raw = header := by simp [← whole]
  have first : u32At 0 raw = outHeaderMagic := (congrArg CmifOutHeader.magic read).trans magic
  have tail : raw.drop headerSize = payload := by rw [← whole,List.drop_left' header.length_bytes]
  obtain ⟨root,_,_,_,captured⟩ := decodeRoot_response (.start raw) long
  have captured := captured first
  rw [tail] at captured
  simp only [ResponseDecodeDetails.ofRaw] at single ⊢
  generalize (ResponseDecodeDetails.start raw).decodeRoot raw = details at single root captured
  obtain ⟨_,kept,domain,short⟩ := decodeDomain_response details raw
  refine ⟨kept.trans (root.trans read),?_⟩
  by_cases two : headerSize + headerSize ≤ raw.length
  · have invalid := (domain two).2.symm.trans single
    have payloadKept : (details.decodeDomain raw).payload = details.payload := by
      simp only [ResponseDecodeDetails.decodeDomain,Nat.not_lt.mpr two,if_false]
      obtain ⟨_,_,_,valid,_,_,keptPayload⟩ := decodeOutObjects_kept (details.readDomainHeaders raw) raw
      have off := valid.trans invalid
      simp only [off,Bool.false_eq_true,false_and,if_false]
      exact keptPayload
    rw [payloadKept,captured]
    exact Payload.captures_capture _ _
  · rw [short (Nat.lt_of_not_le two),captured]
    exact Payload.captures_capture _ _

/-- The ids copied from the end of a response are all of its object ids, none for a count of 0. -/
theorem decodeOutObjects_ids (details : ResponseDecodeDetails) (valid : details.domainCmifValid = true)
    (clean : details.outObjectIdCount = 0) {ids : List UInt32}
    (counted : details.domainHeader.numOutObjects.toNat = ids.length) (atMostEight : ids.length ≤ 8)
    {front : Bytes} (long : headerSize + headerSize ≤ front.length) :
    let after := details.decodeOutObjects (front ++ ids.flatMap u32Bytes)
    after.outObjectIdCount = ids.length ∧ after.outObjectIds.take after.outObjectIdCount = ids := by
  have width : (ids.flatMap u32Bytes).length = ids.length * 4 := by simp [List.length_flatMap]
  simp only [ResponseDecodeDetails.decodeOutObjects,counted]
  by_cases none : ids = []
  · simp [none,clean]
  · have positive := List.length_pos_iff.mpr none
    have enough : (front ++ ids.flatMap u32Bytes).length ≥ headerSize + headerSize + ids.length * 4 := by
      rw [List.length_append,width]
      omega
    have trailer : (front ++ ids.flatMap u32Bytes).drop
        ((front ++ ids.flatMap u32Bytes).length - ids.length * 4) = ids.flatMap u32Bytes := by
      rw [List.length_append,width,Nat.add_sub_cancel,List.drop_left]
    have words : wordsOf ids.length (ids.flatMap u32Bytes) = ids := by
      simpa using wordsOf_flatMap ids []
    rw [if_pos ⟨valid,positive,atMostEight,enough⟩,trailer,words]
    exact ⟨rfl,List.take_left' rfl⟩

theorem ofRaw_domain (r : DomainReply) :
    let details := ResponseDecodeDetails.ofRaw r.raw
    details.rootCmifValid = false ∧ details.domainCmifValid = true ∧
      details.domainCmifHeader = r.outHeader ∧ details.payload.Captures r.payload ∧
      details.outObjectIds.take details.outObjectIdCount = r.outObjects := by
  have headerLength : r.header.bytes.length = headerSize := by
    rw [CmifDomainOutHeader.length_bytes,r.padding]
    rfl
  have width : (r.outObjects.flatMap u32Bytes).length = r.outObjects.length * 4 := by
    simp [List.length_flatMap]
  have length : r.raw.length =
      headerSize + (headerSize + (r.payload.length + r.outObjects.length * 4)) := by
    rw [DomainReply.raw,List.length_append,List.length_append,List.length_append,headerLength,
      CmifOutHeader.length_bytes,width]
  have long : headerSize + headerSize ≤ r.raw.length := by omega
  have first : u32At 0 r.raw = r.header.numOutObjects := by
    rw [DomainReply.raw,CmifDomainOutHeader.bytes,List.append_assoc,u32At_here]
  have second : CmifOutHeader.read (r.raw.drop headerSize) = r.outHeader := by
    rw [DomainReply.raw,List.drop_left' headerLength,CmifOutHeader.read_bytes]
  have few : r.header.numOutObjects ≠ outHeaderMagic := by
    intro same
    have counted := r.counted
    rw [same] at counted
    have atMostEight := r.atMostEight
    rw [← counted] at atMostEight
    exact absurd atMostEight (by decide)
  obtain ⟨_,notRoot,_,count,_⟩ := decodeRoot_response (.start r.raw) (by omega : headerSize ≤ r.raw.length)
  rw [ResponseDecodeDetails.ofRaw]
  generalize (ResponseDecodeDetails.start r.raw).decodeRoot r.raw = details at notRoot count
  obtain ⟨root,_,domain,_⟩ := decodeDomain_response details r.raw
  obtain ⟨inner,valid⟩ := domain long
  have magic : u32At 0 (r.raw.drop headerSize) = outHeaderMagic :=
    (congrArg CmifOutHeader.magic second).trans r.isReply
  have isValid : (details.readDomainHeaders r.raw).domainCmifValid = true := by
    simp [ResponseDecodeDetails.readDomainHeaders,second,r.isReply]
  have whole : r.raw = (r.header.bytes ++ (r.outHeader.bytes ++ r.payload)) ++ r.outObjects.flatMap u32Bytes := by
    simp [DomainReply.raw]
  have front : headerSize + headerSize ≤ (r.header.bytes ++ (r.outHeader.bytes ++ r.payload)).length := by
    rw [List.length_append,List.length_append,headerLength,CmifOutHeader.length_bytes]
    omega
  obtain ⟨counted,ids⟩ := decodeOutObjects_ids (details.readDomainHeaders r.raw) isValid count
    ((congrArg UInt32.toNat first).trans r.counted) r.atMostEight front
  rw [← whole] at counted ids
  refine ⟨?_,?_,inner.trans second,?_,?_⟩
  · rw [root,notRoot,first]
    simp [few]
  · rw [valid,magic]
    rfl
  · obtain ⟨_,_,_,keptValid,_,_,_⟩ := decodeOutObjects_kept (details.readDomainHeaders r.raw) r.raw
    have payloadLength : r.raw.length - (headerSize + headerSize) - r.outObjects.length * 4 =
        r.payload.length := by omega
    have payload : slice (headerSize + headerSize) r.payload.length r.raw = r.payload := by
      rw [DomainReply.raw,slice_append headerLength,← Nat.add_zero headerSize,
        slice_append r.outHeader.length_bytes]
      exact slice_here rfl _
    have enough : r.raw.length ≥ headerSize + headerSize + r.outObjects.length * 4 := by omega
    simp only [ResponseDecodeDetails.decodeDomain,Nat.not_lt.mpr long,if_false,counted,keptValid,isValid,
      payloadLength,payload,true_and]
    rw [if_pos enough]
    exact Payload.captures_capture _ _
  · simp only [ResponseDecodeDetails.decodeDomain,Nat.not_lt.mpr long,if_false]
    exact ids

section Response

variable {hipcParseResponse : PointerAndSize → HipcResponse} {message : PointerAndSize}

theorem getResponseDecodeDetails_of_raw {response : HipcResponse} {raw : Bytes}
    (found : getResponseRawData hipcParseResponse message = some (response,raw)) :
    getResponseDecodeDetails hipcParseResponse message = .ofRaw raw := by
  rw [getResponseDecodeDetails,found]

theorem getResponseRawData_carries {raw : Bytes} (nonempty : raw ≠ [])
    (carries : Carries message (hipcParseResponse message).dataWords
      (hipcParseResponse message).numDataWords raw) :
    getResponseRawData hipcParseResponse message = some (hipcParseResponse message,raw) := by
  have present : ¬(message.address = 0 ∨ message.bytes.length = 0) := by
    rintro (null | empty)
    · exact carries.notNull null
    · exact length_bytes_of_carries carries nonempty empty
  simp only [getResponseRawData,present,if_false,rawData_carries carries,Option.map_some]

theorem carries_of_getResponseRawData {response : HipcResponse} {raw : Bytes}
    (found : getResponseRawData hipcParseResponse message = some (response,raw)) :
    Carries message (hipcParseResponse message).dataWords (hipcParseResponse message).numDataWords raw := by
  simp only [getResponseRawData] at found
  split at found
  · simp at found
  · next present =>
    obtain ⟨raw',located,same⟩ := Option.map_eq_some_iff.mp found
    obtain ⟨_,rfl⟩ := Prod.mk.inj same
    exact carries_of_rawData (fun null => present (.inl null)) located

/-- The selected kind and result, by the flags of the details. -/
theorem parseResponseInfo_of_raw {response : HipcResponse} {raw : Bytes}
    (found : getResponseRawData hipcParseResponse message = some (response,raw)) :
    let details := ResponseDecodeDetails.ofRaw raw
    let info := parseResponseInfo hipcParseResponse message
    info.valid = (details.rootCmifValid || details.domainCmifValid) ∧
      info.isDomain = (!details.rootCmifValid && details.domainCmifValid) ∧
      (details.rootCmifValid = true → info.resultValue = details.rootHeader.result) ∧
      (details.rootCmifValid = false → details.domainCmifValid = true →
        info.resultValue = details.domainCmifHeader.result) := by
  simp only [parseResponseInfo,found,getResponseDecodeDetails_of_raw found]
  cases root : (ResponseDecodeDetails.ofRaw raw).rootCmifValid <;>
    cases domain : (ResponseDecodeDetails.ofRaw raw).domainCmifValid <;> simp

/-- Responses are decoded rightly except where the payload of a root response has the magic
word in front: then the root payload is overwritten by what follows that word. -/
theorem responseDecoded_iff :
    ResponseDecoded hipcParseResponse message ↔ ¬BothMagics hipcParseResponse message := by
  constructor
  · rintro decoded ⟨response,raw,found,long,first,second⟩
    have whole := CmifOutHeader.bytes_read raw (by omega)
    have carries := carries_of_getResponseRawData found
    have root := decoded.root (CmifOutHeader.read raw) (raw.drop headerSize) first
      (by rw [whole]; exact carries)
    have flag := (ofRaw_flags raw).2.mpr ⟨long,second⟩
    rw [← getResponseDecodeDetails_of_raw found] at flag
    exact absurd (root.2.1.symm.trans flag) Bool.false_ne_true
  · intro single
    constructor
    · intro header payload magic carries
      have nonempty : header.bytes ++ payload ≠ [] := by simp [CmifOutHeader.bytes,u32Bytes,bytesLE]
      have found := getResponseRawData_carries nonempty carries
      have whole := CmifOutHeader.read_bytes header payload
      have long : headerSize ≤ (header.bytes ++ payload).length := by simp
      have first : u32At 0 (header.bytes ++ payload) = outHeaderMagic :=
        (congrArg CmifOutHeader.magic whole).trans magic
      have root := (ofRaw_flags (header.bytes ++ payload)).1.mpr ⟨long,first⟩
      have notDomain : (ResponseDecodeDetails.ofRaw (header.bytes ++ payload)).domainCmifValid = false := by
        apply Bool.eq_false_iff.mpr
        intro domain
        obtain ⟨both,second⟩ := (ofRaw_flags (header.bytes ++ payload)).2.mp domain
        exact single ⟨_,_,found,both,first,second⟩
      obtain ⟨read,captures⟩ := ofRaw_root magic payload notDomain
      obtain ⟨valid,isDomain,result,_⟩ := parseResponseInfo_of_raw found
      rw [getResponseDecodeDetails_of_raw found]
      refine ⟨root,notDomain,valid.trans (by simp [root]),isDomain.trans (by simp [root]),?_,captures⟩
      exact (result root).trans (congrArg CmifOutHeader.result read)
    · intro r carries
      have nonempty : r.raw ≠ [] := by simp [DomainReply.raw,CmifDomainOutHeader.bytes,u32Bytes,bytesLE]
      have found := getResponseRawData_carries nonempty carries
      obtain ⟨notRoot,domain,inner,captures,ids⟩ := ofRaw_domain r
      obtain ⟨valid,isDomain,_,result⟩ := parseResponseInfo_of_raw found
      rw [getResponseDecodeDetails_of_raw found]
      refine ⟨notRoot,domain,valid.trans (by simp [domain]),isDomain.trans (by simp [notRoot,domain]),?_,
        captures,ids⟩
      exact (result notRoot domain).trans (congrArg CmifOutHeader.result inner)
    · cases found : getResponseRawData hipcParseResponse message with
      | none =>
        simp [getResponseDecodeDetails,parseResponseInfo,found,ResponseDecodeDetails.empty]
      | some pair =>
        obtain ⟨response,raw⟩ := pair
        obtain ⟨valid,isDomain,rootResult,domainResult⟩ := parseResponseInfo_of_raw found
        obtain ⟨rootFlag,domainFlag⟩ := ofRaw_flags raw
        simp only [getResponseDecodeDetails_of_raw found,valid,isDomain]
        -- Both flags at once would be the excluded message.
        cases root : (ResponseDecodeDetails.ofRaw raw).rootCmifValid with
        | false => exact ⟨by simp,by simp,by simp,domainResult root⟩
        | true =>
          cases domain : (ResponseDecodeDetails.ofRaw raw).domainCmifValid with
          | false => exact ⟨rfl,rfl,fun _ => rootResult root,by simp⟩
          | true =>
            obtain ⟨long,second⟩ := domainFlag.mp domain
            exact absurd ⟨response,raw,found,long,(rootFlag.mp root).2,second⟩ single

end Response

/-- The parse of a response without descriptors or special header. -/
def hipcParseResponsePlain (message : PointerAndSize) : HipcResponse :=
  ⟨(u32At 4 message.bytes).toNat % 2 ^ 10,8,0⟩

/-- A root response with result 0 whose payload starts with the magic word is taken for a
domain response as well, and its payload is lost. -/
theorem responseDecoded_not_root :
    ¬∀ hipcParseResponse message, ResponseDecoded hipcParseResponse message := by
  intro all
  let header : CmifOutHeader := ⟨outHeaderMagic,0,0,0⟩
  let payload : Bytes := u32Bytes outHeaderMagic ++ List.replicate 12 0
  have decoded := all hipcParseResponsePlain (plainMessage 0 12 (header.bytes ++ payload))
  have root := decoded.root header payload rfl
    ⟨by decide,by decide,⟨u32Bytes 0 ++ u32Bytes 12 ++ List.replicate 8 0,[],by decide,by decide⟩⟩
  exact absurd root.2.1 (by decide)

end NxReverse.Probe
