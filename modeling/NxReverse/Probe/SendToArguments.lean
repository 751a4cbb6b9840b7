import NxReverse.Probe.RecordLengths

/-! The arguments of a SendTo in its semantic record. The client sends each argument in a pair of a
pointer static and a map alias and leaves one of the two empty; the record looks for them by their
number among the buffers that are not empty, the map aliases in front. -/
namespace NxReverse.Probe

open Text Words JsonLines
open StringText (literal unsigned)

inductive Carrier where
  | pointerStatic | mapAlias
  deriving DecidableEq, Repr

structure Argument where
  carrier : Carrier
  bytes : Bytes
  deriving DecidableEq

/-- The pair holds the argument in its carrier and nothing in the other. -/
def Argument.In (a : Argument) (static buffer : HipcDescriptor) : Prop :=
  match a.carrier with
  | .pointerStatic => static.bytes = a.bytes ∧ (a.bytes ≠ [] → static.address ≠ 0) ∧ buffer.bytes = []
  | .mapAlias => buffer.bytes = a.bytes ∧ (a.bytes ≠ [] → buffer.address ≠ 0) ∧ static.bytes = []

/-- The request has the two arguments, each in its own pair, and no other input. Sizes are `size_t`. -/
structure CarriesSendTo (request : HipcRequest) (payload address : Argument) : Prop where
  pairs : ∃ static₀ static₁ buffer₀ buffer₁, request.sendStatics = [static₀,static₁] ∧
    request.sendBuffers = [buffer₀,buffer₁] ∧ payload.In static₀ buffer₀ ∧ address.In static₁ buffer₁
  noOther : request.exchBuffers.filterMap getBufferView = []
  payloadSize : payload.bytes.length < 2 ^ 64
  addressSize : address.bytes.length < 2 ^ 64

namespace Summary

variable {size : Nat}

def appendOptional (out : Summary size) : Option StringText → Summary size
  | none => out
  | some text => out.appendSummaryText text

end Summary

/-- A text that describes the payload; an empty one may go without. -/
def DescribesPayload (payload : Bytes) (text : Option StringText) : Prop :=
  (payload = [] ∧ text = none) ∨ ∃ isPointerStatic, text = some (Summary.payloadText isPointerStatic payload)

namespace ForwardTrace

variable (f : ForwardTrace)

def sendToFront (request : HipcRequest) : Summary 768 :=
  (formatBsdSemanticRequestSummary 768 f.objectPath f.requestInfo.commandId
    f.requestDecode).appendRequestBufferLayoutSummary request

/-- The summary of the request goes on with the payload and with the address as the peer, where the
bytes have a form of an address. -/
def DescribesSendTo (request : HipcRequest) (payload address : Bytes) : Prop :=
  ∃ text, DescribesPayload payload text ∧ f.bsdRequestSummary =
    ((f.sendToFront request).appendOptional text).appendOptional
      ((tryFormatSockaddr 160 address).map Summary.peerText)

end ForwardTrace

section Views

variable {request : HipcRequest} {payload address : Argument}

/-- The argument where it is in that carrier and not empty. -/
def Argument.viewIn (a : Argument) (carrier : Carrier) : List Bytes :=
  if a.carrier = carrier ∧ a.bytes ≠ [] then [a.bytes] else []

theorem Argument.In.statics {a : Argument} {static buffer : HipcDescriptor} (here : a.In static buffer)
    (others : List HipcDescriptor) : (static :: others).filterMap getStaticView =
      a.viewIn .pointerStatic ++ others.filterMap getStaticView := by
  cases carrier : a.carrier with
  | pointerStatic =>
    simp only [In,carrier] at here
    by_cases empty : a.bytes = []
    · simp [Argument.viewIn,carrier,getStaticView,HipcDescriptor.view,here.1,empty]
    · simp [Argument.viewIn,carrier,getStaticView,HipcDescriptor.view,here.1,empty,here.2.1 empty]
  | mapAlias =>
    simp only [In,carrier] at here
    simp [Argument.viewIn,carrier,getStaticView,HipcDescriptor.view,here.2.2]

theorem Argument.In.buffers {a : Argument} {static buffer : HipcDescriptor} (here : a.In static buffer)
    (others : List HipcDescriptor) : (buffer :: others).filterMap getBufferView =
      a.viewIn .mapAlias ++ others.filterMap getBufferView := by
  cases carrier : a.carrier with
  | pointerStatic =>
    simp only [In,carrier] at here
    simp [Argument.viewIn,carrier,getBufferView,HipcDescriptor.view,here.2.2]
  | mapAlias =>
    simp only [In,carrier] at here
    by_cases empty : a.bytes = []
    · simp [Argument.viewIn,carrier,getBufferView,HipcDescriptor.view,here.1,empty]
    · simp [Argument.viewIn,carrier,getBufferView,HipcDescriptor.view,here.1,empty,here.2.1 empty]

/-- The order of the arguments in the list that the ordinals count. -/
theorem getRequestInputViewAt_of_carries (carried : CarriesSendTo request payload address) (ordinal : Nat) :
    getRequestInputViewAt request ordinal =
      ((payload.viewIn .mapAlias ++ address.viewIn .mapAlias).map (·,false) ++
        (payload.viewIn .pointerStatic ++ address.viewIn .pointerStatic).map (·,true))[ordinal]? := by
  obtain ⟨static₀,static₁,buffer₀,buffer₁,statics,buffers,first,second⟩ := carried.pairs
  rw [getRequestInputViewAt,statics,buffers,first.statics,second.statics,first.buffers,second.buffers,
    carried.noOther]
  simp

end Views

namespace ForwardTrace

variable {f : ForwardTrace} {request : HipcRequest}

/-- The first view is described as the payload, the second as the peer. -/
theorem bsdRequestSummary_sendTo (sendTo : f.requestInfo.commandId = 11) (parsed : f.request = some request) :
    f.bsdRequestSummary = ((f.sendToFront request).appendOptional
      ((getRequestInputViewAt request 0).map fun view => Summary.payloadText view.2 view.1)).appendOptional
      (((getRequestInputViewAt request 1).bind fun view => tryFormatSockaddr 160 view.1).map Summary.peerText) := by
  have payload : ∀ out : Summary 768, out.tryAppendBsdPayloadRequestSummary 11 request =
      out.appendOptional ((getRequestInputViewAt request 0).map fun view => Summary.payloadText view.2 view.1) :=
    fun out => by
      rw [Summary.tryAppendBsdPayloadRequestSummary,if_neg (by decide)]
      cases getRequestInputViewAt request 0 <;> rfl
  have peer : ∀ out : Summary 768, out.tryAppendBsdSockaddrRequestSummary 11 request = out.appendOptional
      (((getRequestInputViewAt request 1).bind fun view => tryFormatSockaddr 160 view.1).map Summary.peerText) :=
    fun out => by
      rw [Summary.tryAppendBsdSockaddrRequestSummary,if_neg (by decide)]
      dsimp only
      rw [if_pos rfl,if_neg (by decide)]
      cases (getRequestInputViewAt request 1).bind fun view => tryFormatSockaddr 160 view.1 <;> rfl
  have options : ∀ out : Summary 768, out.tryAppendBsdSockOptRequestSummary 11 request = out := fun out => rfl
  rw [bsdRequestSummary,parsed,sendTo]
  dsimp only
  rw [options,peer,payload,sendToFront,sendTo]

end ForwardTrace

theorem hexEncode_append_inj {outSize : Nat} : ∀ {bytes others : Bytes}, bytes.length = others.length →
    bytes.length ≤ (outSize - 1) / 2 → ∀ {rest tail : CString},
    hexEncode outSize bytes ++ rest = hexEncode outSize others ++ tail → bytes = others := by
  have digit : ∀ a < 16, ∀ b < 16, hexDigit a = hexDigit b → a = b := by decide
  have pairs : ∀ {bytes others : Bytes} {rest tail : CString}, bytes.length = others.length →
      bytes.flatMap (fun byte => [hexDigit (byte.toNat / 16),hexDigit (byte.toNat % 16)]) ++ rest =
        others.flatMap (fun byte => [hexDigit (byte.toNat / 16),hexDigit (byte.toNat % 16)]) ++ tail →
      bytes = others := by
    intro bytes
    induction bytes with
    | nil => exact fun same _ => (List.length_eq_zero_iff.mp same.symm).symm
    | cons byte bytes ih =>
      intro others rest tail lengths same
      cases others with
      | nil => simp at lengths
      | cons other others =>
        simp only [List.flatMap_cons,List.cons_append,List.nil_append,List.cons.injEq] at same
        have small := byte.toNat_lt
        have otherSmall := other.toNat_lt
        have high := digit _ (by omega) _ (by omega) same.1
        have low := digit _ (by omega) _ (by omega) same.2.1
        have value : byte.toNat = other.toNat := by omega
        rw [UInt8.toNat_inj.mp value,ih (Nat.succ.inj lengths) same.2.2]
  intro bytes others lengths short rest tail same
  rw [hexEncode,hexEncode,List.take_of_length_le short,List.take_of_length_le (lengths ▸ short)] at same
  exact pairs lengths same

/-- A description tells how long the payload is and what it begins with. -/
theorem payloadText_inj {pointer otherPointer : Bool} {payload other : Bytes} {rest tail : CString}
    (same : (Summary.payloadText pointer payload).text ++ rest = (Summary.payloadText otherPointer other).text ++ tail) :
    payload.length = other.length ∧ payload.take 64 = other.take 64 := by
  simp only [Summary.payloadText,StringText.text_append,StringText.text_literal,StringText.text_unsigned,
    List.append_assoc] at same
  obtain ⟨length,kinds⟩ := decimal_append_inj (by decide) (List.append_cancel_left same)
  have kind := List.append_cancel_left kinds
  have previews : (hexPreview (hexPreviewBytes * 2 + 1) (payload.take (min hexPreviewBytes payload.length))).text ++ rest =
      (hexPreview (hexPreviewBytes * 2 + 1) (other.take (min hexPreviewBytes other.length))).text ++ tail := by
    cases pointer with
    | false =>
      cases otherPointer with
      | false => exact List.append_cancel_left (List.append_cancel_left kind)
      | true => simp at kind
    | true =>
      cases otherPointer with
      | false => simp at kind
      | true => exact List.append_cancel_left (List.append_cancel_left kind)
  rw [← List.take_eq_take_min,← List.take_eq_take_min,hexPreviewBytes] at previews
  have shown : (payload.take 64).length = (other.take 64).length := by
    rw [List.length_take,List.length_take,length]
  exact ⟨length,hexEncode_append_inj shown (List.length_take_le 64 payload) previews⟩

namespace Summary

variable {size : Nat}

/-- What is appended to a summary stands behind a blank. -/
theorem text_print_behind (out : Summary size) (text : StringText) :
    (print (out.content ++ literal " " ++ text) : Summary size).content.text =
      (out.content.text ++ ' ' :: text.text).take (size - 1) := by
  rw [print,StringText.text_into,StringText.text_append,StringText.text_append,StringText.text_literal,
    List.append_assoc]
  rfl

theorem appendSummaryText_room {out : Summary size} {text : StringText} (started : out.content.text ≠ [])
    (room : out.content.text.length + text.text.length + 1 < size) :
    (out.appendSummaryText text).content.text = out.content.text ++ ' ' :: text.text := by
  have notFull : ¬out.content.text.length ≥ size - 1 := by omega
  rw [appendSummaryText,if_neg notFull,if_neg started,text_print_behind]
  apply List.take_of_length_le
  rw [List.length_append,List.length_cons]
  omega

/-- A summary goes on with what it has. -/
theorem appendSummaryText_extends (out : Summary size) (text : StringText) :
    out.content.text <+: (out.appendSummaryText text).content.text := by
  have fits := out.fits
  unfold appendSummaryText
  by_cases full : out.content.text.length ≥ size - 1
  · rw [if_pos full]
  · rw [if_neg full]
    by_cases empty : out.content.text = []
    · rw [empty]
      exact List.nil_prefix
    · rw [if_neg empty,text_print_behind]
      exact List.prefix_take_iff.mpr ⟨List.prefix_append _ _,fits⟩

theorem appendOptional_extends (out : Summary size) (text : Option StringText) :
    out.content.text <+: (out.appendOptional text).content.text := by
  cases text with
  | none => exact List.prefix_refl _
  | some text => exact out.appendSummaryText_extends text

/-- What is appended is cut at its end only. -/
theorem appendSummaryText_within {out : Summary size} (started : out.content.text ≠ []) (text : StringText) :
    (out.appendSummaryText text).content.text <+: out.content.text ++ ' ' :: text.text := by
  unfold appendSummaryText
  by_cases full : out.content.text.length ≥ size - 1
  · rw [if_pos full]
    exact List.prefix_append _ _
  · rw [if_neg full,if_neg started,text_print_behind]
    exact List.take_prefix _ _

theorem length_appendSummaryText_le (out : Summary size) (text : StringText) :
    (out.appendSummaryText text).content.text.length ≤ out.content.text.length + text.text.length + 1 := by
  unfold appendSummaryText
  by_cases full : out.content.text.length ≥ size - 1
  · rw [if_pos full]
    omega
  · rw [if_neg full]
    by_cases empty : out.content.text = []
    · rw [if_pos empty]
      have short : (print text : Summary size).content.text.length ≤ text.text.length := length_print_le text
      omega
    · rw [if_neg empty]
      refine (length_print_le _).trans ?_
      simp
      omega

theorem appendSummaryText_ne_nil (out : Summary size) {text : StringText} (nonempty : text.text ≠ []) (room : 1 < size) :
    (out.appendSummaryText text).content.text ≠ [] := by
  by_cases empty : out.content.text = []
  · have notFull : ¬out.content.text.length ≥ size - 1 := by
      rw [empty,List.length_nil]
      omega
    rw [appendSummaryText,if_neg notFull,if_pos empty,print,StringText.text_into,snprintf]
    intro none
    rcases List.take_eq_nil_iff.mp none with zero | nothing
    · omega
    · exact nonempty nothing
  · intro none
    have extended := out.appendSummaryText_extends text
    rw [none] at extended
    exact empty (List.prefix_nil.mp extended)

end Summary

namespace ForwardTrace

variable {f : ForwardTrace}

theorem length_formatBsd_sendTo (objectPath : CString) (details : RequestDecodeDetails) :
    (formatBsdSemanticRequestSummary 768 objectPath 11 details).content.text.length ≤ 40 := by
  have nothing : (Summary.empty : Summary 768).content.text.length ≤ 40 := Nat.zero_le _
  unfold formatBsdSemanticRequestSummary
  by_cases unknown : (!isKnownBsdObjectPath objectPath) = true
  · rw [if_pos unknown]
    exact nothing
  · rw [if_neg unknown,if_neg (by decide),if_neg (by decide),if_neg (by decide),if_neg (by decide),if_neg (by decide),
      if_neg (by decide),if_pos (by decide)]
    cases details.payload.readS32 0 with
    | none => exact nothing
    | some sockfd =>
      cases details.payload.readU32 4 with
      | none => exact nothing
      | some flags =>
        refine (Summary.length_print_le _).trans ?_
        have socket := length_decimal_s32 sockfd
        have bits : (upperHex flags.toNat).length ≤ 8 := length_upperHex_le (by decide) flags.toNat_lt
        simp [StringText.hex]
        omega

theorem length_payloadText_le (isPointerStatic : Bool) {bytes : Bytes} (sized : bytes.length < 2 ^ 64) :
    (Summary.payloadText isPointerStatic bytes).text.length ≤ 201 := by
  have digits : (decimal bytes.length).length ≤ 20 := length_decimal_le (by decide) (by omega)
  have preview : (hexPreview (hexPreviewBytes * 2 + 1) (bytes.take (min hexPreviewBytes bytes.length))).text.length ≤ 128 :=
    (shown_preview _).length
  have kind : (if isPointerStatic then literal "pointer_static" else literal "map_alias").text.length ≤ 14 := by
    cases isPointerStatic <;> decide
  simp only [Summary.payloadText,StringText.text_append,StringText.text_literal,StringText.text_unsigned,
    List.length_append]
  have labels : "payload_len=".toList.length = 12 ∧ " payload_kind=".toList.length = 14 ∧
      " payload_hex=".toList.length = 13 := by decide
  omega

/-- The front of the summary leaves room for the payload. -/
theorem sendToFront_room (sendTo : f.requestInfo.commandId = 11) (request : HipcRequest) :
    (f.sendToFront request).content.text ≠ [] ∧ (f.sendToFront request).content.text.length ≤ 424 := by
  have base := length_formatBsd_sendTo f.objectPath f.requestDecode
  rw [sendToFront,sendTo,Summary.appendRequestBufferLayoutSummary]
  refine ⟨Summary.appendSummaryText_ne_nil _ ?_ (by decide),?_⟩
  · simp [snprintf]
  · refine (Summary.length_appendSummaryText_le _ _).trans ?_
    refine (Nat.add_le_add_right (Nat.add_le_add base (length_snprintf_le 384 _)) 1).trans ?_
    decide

end ForwardTrace

section Sockaddr

variable {bytes others : Bytes}

theorem slice_of_take {count i width : Nat} (front : bytes.take count = others.take count) (inside : i + width ≤ count) :
    slice i width bytes = slice i width others := by
  have same : ∀ bytes : Bytes, slice i width bytes = slice i width (bytes.take count) := fun bytes => by
    rw [slice,slice,List.drop_take,List.take_take,min_eq_left (Nat.le_sub_of_add_le' inside)]
  rw [same bytes,front,← same others]

theorem u8At_drop (offset i : Nat) (bytes : Bytes) : u8At i (bytes.drop offset) = u8At (offset + i) bytes := by
  simp [u8At,slice]

/-- Only the size and the front of an address are printed. -/
theorem tryFormatSockaddr_of_take (outSize : Nat) (length : bytes.length = others.length)
    (front : bytes.take 64 = others.take 64) : tryFormatSockaddr outSize bytes = tryFormatSockaddr outSize others := by
  have byte : ∀ i < 64, u8At i bytes = u8At i others := fun i inside => by rw [u8At,u8At,slice_of_take front inside]
  have family : u16At 0 bytes = u16At 0 others := by rw [u16At,u16At,slice_of_take front (by decide)]
  have raw : bytes.take (min 16 bytes.length) = others.take (min 16 others.length) := by
    have cut : ∀ bytes : Bytes, bytes.take 16 = (bytes.take 64).take 16 :=
      fun bytes => by rw [List.take_take]; rfl
    rw [← List.take_eq_take_min,← List.take_eq_take_min,cut bytes,cut others,front]
  have ipv4 : formatIpv4 32 (bytes.drop 4) (bytes.length - 4) = formatIpv4 32 (others.drop 4) (others.length - 4) := by
    simp only [formatIpv4,u8At_drop,length]
    rw [byte 4 (by decide),byte (4 + 1) (by decide),byte (4 + 2) (by decide),byte (4 + 3) (by decide)]
  have ipv6 : formatIpv6 64 (bytes.drop 8) (bytes.length - 8) = formatIpv6 64 (others.drop 8) (others.length - 8) := by
    simp only [formatIpv6,u8At_drop,length,byte,Nat.reduceAdd,Nat.reduceLT]
  have port : readBe16 2 bytes = readBe16 2 others := by
    rw [readBe16,readBe16,byte 2 (by decide),byte (2 + 1) (by decide)]
  have word : ∀ i < 60, readBe32 i bytes = readBe32 i others := fun i inside => by
    simp only [readBe32,readBe16]
    rw [byte i (by omega),byte (i + 1) (by omega),byte (i + 2) (by omega),byte (i + 2 + 1) (by omega)]
  rw [length] at ipv4 ipv6 raw
  unfold tryFormatSockaddr
  dsimp only
  rw [length,family,raw,ipv4,ipv6,port,word 4 (by decide),word 24 (by decide),byte 0 (by decide),byte 1 (by decide)]

end Sockaddr

/-- The arguments are told apart: the payload is not missed, and it is not behind the address unless
the two look alike. -/
def ToldApart (payload address : Argument) : Prop :=
  (payload.bytes ≠ [] ∨ address.bytes = []) ∧
    (payload.carrier = .pointerStatic ∧ address.carrier = .mapAlias ∧ address.bytes ≠ [] →
      payload.bytes.length = address.bytes.length ∧ payload.bytes.take 64 = address.bytes.take 64)

section Orders

variable {request : HipcRequest} {payload address : Argument}

theorem views_nothing (carried : CarriesSendTo request payload address) (noPayload : payload.bytes = [])
    (noAddress : address.bytes = []) (ordinal : Nat) : getRequestInputViewAt request ordinal = none := by
  rw [getRequestInputViewAt_of_carries carried]
  simp [Argument.viewIn,noPayload,noAddress]

theorem views_noPayload (carried : CarriesSendTo request payload address) (noPayload : payload.bytes = [])
    (sent : address.bytes ≠ []) : ∃ isPointerStatic, getRequestInputViewAt request 0 = some (address.bytes,isPointerStatic) := by
  rw [getRequestInputViewAt_of_carries carried]
  cases carrier : address.carrier <;> simp [Argument.viewIn,noPayload,sent,carrier]

theorem views_noAddress (carried : CarriesSendTo request payload address) (sent : payload.bytes ≠ [])
    (noAddress : address.bytes = []) : (∃ isPointerStatic,
      getRequestInputViewAt request 0 = some (payload.bytes,isPointerStatic)) ∧ getRequestInputViewAt request 1 = none := by
  rw [getRequestInputViewAt_of_carries carried,getRequestInputViewAt_of_carries carried]
  cases carrier : payload.carrier <;> simp [Argument.viewIn,noAddress,sent,carrier]

theorem views_ordered (carried : CarriesSendTo request payload address) (sent : payload.bytes ≠ [])
    (sentAddress : address.bytes ≠ []) (ordered : ¬(payload.carrier = .pointerStatic ∧ address.carrier = .mapAlias)) :
    ∃ first second, getRequestInputViewAt request 0 = some (payload.bytes,first) ∧
      getRequestInputViewAt request 1 = some (address.bytes,second) := by
  rw [getRequestInputViewAt_of_carries carried,getRequestInputViewAt_of_carries carried]
  cases carrier : payload.carrier with
  | mapAlias => cases other : address.carrier <;> simp [Argument.viewIn,sent,sentAddress,carrier,other]
  | pointerStatic =>
    cases other : address.carrier with
    | mapAlias => exact absurd ⟨carrier,other⟩ ordered
    | pointerStatic => simp [Argument.viewIn,sent,sentAddress,carrier,other]

theorem views_swapped (carried : CarriesSendTo request payload address) (sent : payload.bytes ≠ [])
    (sentAddress : address.bytes ≠ []) (carrier : payload.carrier = .pointerStatic) (other : address.carrier = .mapAlias) :
    getRequestInputViewAt request 0 = some (address.bytes,false) ∧
      getRequestInputViewAt request 1 = some (payload.bytes,true) := by
  rw [getRequestInputViewAt_of_carries carried,getRequestInputViewAt_of_carries carried]
  simp [Argument.viewIn,sent,sentAddress,carrier,other]

end Orders

namespace ForwardTrace

variable {f : ForwardTrace} {request : HipcRequest}

/-- A record that describes a payload found it first, or something that looks like it. -/
theorem first_of_describes {payload address found : Bytes} {isPointerStatic : Bool}
    (sendTo : f.requestInfo.commandId = 11) (parsed : f.request = some request)
    (view : getRequestInputViewAt request 0 = some (found,isPointerStatic)) (sized : payload.length < 2 ^ 64)
    (foundSized : found.length < 2 ^ 64) (described : f.DescribesSendTo request payload address) :
    found.length = payload.length ∧ found.take 64 = payload.take 64 := by
  obtain ⟨text,describes,summary⟩ := described
  obtain ⟨started,front⟩ := sendToFront_room sendTo request
  have appended : ∀ (pointer : Bool) (bytes : Bytes), bytes.length < 2 ^ 64 → ∀ peer,
      (f.sendToFront request).content.text ++ ' ' :: (Summary.payloadText pointer bytes).text <+:
        (((f.sendToFront request).appendOptional (some (Summary.payloadText pointer bytes))).appendOptional
          peer).content.text := fun pointer bytes small peer => by
    have short := length_payloadText_le pointer small
    rw [← Summary.appendSummaryText_room started (by omega)]
    exact Summary.appendOptional_extends _ peer
  have actual := appended isPointerStatic found foundSized
    (((getRequestInputViewAt request 1).bind fun view => tryFormatSockaddr 160 view.1).map Summary.peerText)
  have written := bsdRequestSummary_sendTo sendTo parsed
  rw [view,Option.map_some] at written
  dsimp only at written
  rw [← written,summary] at actual
  rcases describes with ⟨_,rfl⟩ | ⟨pointer,rfl⟩
  · -- a summary that goes on with the peer
    exfalso
    have room := actual.length_le
    cases peer : (tryFormatSockaddr 160 address).map Summary.peerText with
    | none =>
      rw [peer,List.length_append,List.length_cons] at room
      change _ ≤ (f.sendToFront request).content.text.length at room
      omega
    | some peerText =>
      rw [peer] at actual
      have within := actual.trans (Summary.appendSummaryText_within started peerText)
      have texts := (List.cons_prefix_cons.mp ((List.prefix_append_right_inj _).mp within)).2
      obtain ⟨sockaddrText,_,rfl⟩ := Option.map_eq_some_iff.mp peer
      simp [Summary.payloadText,Summary.peerText] at texts
  · obtain ⟨rest,first⟩ := actual
    obtain ⟨tail,second⟩ := appended pointer payload sized ((tryFormatSockaddr 160 address).map Summary.peerText)
    rw [← second,List.append_assoc,List.append_assoc] at first
    have texts := List.append_cancel_left first
    exact payloadText_inj (List.cons.inj texts).2

theorem describes_of_views {payload address : Bytes} {isPointerStatic : Bool} (sendTo : f.requestInfo.commandId = 11)
    (parsed : f.request = some request) (first : getRequestInputViewAt request 0 = some (payload,isPointerStatic))
    (second : ((getRequestInputViewAt request 1).bind fun view => tryFormatSockaddr 160 view.1) =
      tryFormatSockaddr 160 address) : f.DescribesSendTo request payload address := by
  refine ⟨some (Summary.payloadText isPointerStatic payload),Or.inr ⟨isPointerStatic,rfl⟩,?_⟩
  rw [bsdRequestSummary_sendTo sendTo parsed,first,second]
  rfl

/-- A payload that looks like the address is described by it. -/
theorem describes_of_likeness {payload address : Bytes} (sendTo : f.requestInfo.commandId = 11)
    (parsed : f.request = some request) (first : getRequestInputViewAt request 0 = some (address,false))
    (second : getRequestInputViewAt request 1 = some (payload,true)) (length : payload.length = address.length)
    (front : payload.take 64 = address.take 64) : f.DescribesSendTo request payload address := by
  have text : Summary.payloadText false payload = Summary.payloadText false address := by
    rw [Summary.payloadText,Summary.payloadText,← List.take_eq_take_min,← List.take_eq_take_min,hexPreviewBytes,length,
      front]
  refine ⟨some (Summary.payloadText false payload),Or.inr ⟨false,rfl⟩,?_⟩
  rw [bsdRequestSummary_sendTo sendTo parsed,first,second,text,Option.bind_some,
    tryFormatSockaddr_of_take 160 length front]
  rfl

/-- The summary of a SendTo describes its arguments where it can tell them apart. -/
theorem sendTo_attributed_iff (f : ForwardTrace) {request : HipcRequest} {payload address : Argument}
    (sendTo : f.requestInfo.commandId = 11) (parsed : f.request = some request)
    (carried : CarriesSendTo request payload address) :
    f.DescribesSendTo request payload.bytes address.bytes ↔ ToldApart payload address := by
  have noText : tryFormatSockaddr 160 [] = none := by decide
  by_cases noPayload : payload.bytes = []
  · by_cases noAddress : address.bytes = []
    · have first := views_nothing carried noPayload noAddress 0
      have second := views_nothing carried noPayload noAddress 1
      have apart : ToldApart payload address := ⟨Or.inr noAddress,fun swapped => absurd noAddress swapped.2.2⟩
      refine ⟨fun _ => apart,fun _ => ⟨none,Or.inl ⟨noPayload,rfl⟩,?_⟩⟩
      rw [bsdRequestSummary_sendTo sendTo parsed,first,second,noAddress,noText]
      rfl
    · obtain ⟨pointer,first⟩ := views_noPayload carried noPayload noAddress
      constructor
      · intro described
        have same := first_of_describes sendTo parsed first carried.payloadSize carried.addressSize described
        rw [noPayload,List.length_nil] at same
        exact absurd (List.length_eq_zero_iff.mp same.1) noAddress
      · intro apart
        exact absurd apart.1 (not_or.mpr ⟨not_not.mpr noPayload,noAddress⟩)
  · by_cases noAddress : address.bytes = []
    · obtain ⟨⟨pointer,first⟩,second⟩ := views_noAddress carried noPayload noAddress
      have described : f.DescribesSendTo request payload.bytes address.bytes :=
        describes_of_views sendTo parsed first (by rw [second,noAddress,noText]; rfl)
      exact ⟨fun _ => ⟨Or.inl noPayload,fun swapped => absurd noAddress swapped.2.2⟩,fun _ => described⟩
    · by_cases swapped : payload.carrier = .pointerStatic ∧ address.carrier = .mapAlias
      · obtain ⟨first,second⟩ := views_swapped carried noPayload noAddress swapped.1 swapped.2
        constructor
        · intro described
          have same := first_of_describes sendTo parsed first carried.payloadSize carried.addressSize described
          exact ⟨Or.inl noPayload,fun _ => ⟨same.1.symm,same.2.symm⟩⟩
        · intro apart
          have alike := apart.2 ⟨swapped.1,swapped.2,noAddress⟩
          exact describes_of_likeness sendTo parsed first second alike.1 alike.2
      · obtain ⟨first,second,views⟩ := views_ordered carried noPayload noAddress swapped
        have described : f.DescribesSendTo request payload.bytes address.bytes :=
          describes_of_views sendTo parsed views.1 (by rw [views.2]; rfl)
        exact ⟨fun _ => ⟨Or.inl noPayload,fun order => absurd ⟨order.1,order.2.1⟩ swapped⟩,fun _ => described⟩

/-- The trace of a SendTo of the toolbox with these descriptors. -/
def ofSendTo (statics buffers : List HipcDescriptor) : ForwardTrace where
  hipcParseRequest := fun _ => ⟨⟨4,8,0⟩,statics,buffers,[],[],false,0,0⟩
  hipcParseResponse := fun _ => ⟨⟨0,0,0⟩,[],0⟩
  toNanoSeconds := id
  runTick := 0
  requestId := 1
  tracker := .reset
  ctx :=
    { serviceName := ⟨"bsd:s".toList,by decide⟩
      clientProcessId := 80
      clientProgramId := 5
      sessionId := 1
      startTick := 0
      endTick := 0
      requestMessage := ⟨16,[0x53,0x46,0x43,0x49,0,0,0,0,11,0,0,0,0,0,0,0]⟩
      responseMessage := none
      forwardResult := 0
      requestSentPid := false
      requestHasRootCommandId := true
      requestRootCommandId := 11
      requestPidRewriteMode := 0
      requestPidBeforePreprocess := 0
      requestPidAfterPreprocess := 0
      requestBsdRegisterClientMode := 0
      requestBsdRegisterClientBlocked := false
      requestBsdRegisterClientSpoofed := false
      requestBsdProbeUpstreamRegisterAttempted := false
      requestBsdProbeUpstreamRegisterResult := 0
      requestBsdProbeUpstreamRegisterCmifResult := 0
      requestBsdProbeUpstreamRegisterPid := 0
      requestBsdProbeUpstreamHandle := 0
      requestForwardedToBsdProbeUpstream := false
      requestForwardTargetHandle := 0
      requestNumCopyHandles := 0
      requestNumMoveHandles := 0
      requestTrackedCopyHandleCount := 0
      requestClosedCopyHandleCount := 0
      requestCopyHandles := fun _ => 0 }

def echoAddress : Bytes := [16,2,0x71,0x48,10,0,0,1] ++ List.replicate 8 0

/-- A payload of one byte and its address, both in pointer statics. -/
theorem sendTo_attributed_statics :
    (ofSendTo [⟨64,[7]⟩,⟨80,echoAddress⟩] [⟨0,[]⟩,⟨0,[]⟩]).DescribesSendTo
      ⟨⟨4,8,0⟩,[⟨64,[7]⟩,⟨80,echoAddress⟩],[⟨0,[]⟩,⟨0,[]⟩],[],[],false,0,0⟩ [7] echoAddress :=
  (@sendTo_attributed_iff _ _ ⟨.pointerStatic,[7]⟩ ⟨.pointerStatic,echoAddress⟩ (by decide) rfl
    ⟨⟨_,_,_,_,rfl,rfl,⟨rfl,fun _ => by decide,rfl⟩,⟨rfl,fun _ => by decide,rfl⟩⟩,rfl,by decide,by decide⟩).mpr
    ⟨Or.inl (by decide),fun swapped => absurd swapped.2.1 (by decide)⟩

/-- An empty datagram has the address for its payload. -/
theorem sendTo_misattributed : ¬∀ (f : ForwardTrace) (request : HipcRequest) (payload address : Argument),
    f.requestInfo.commandId = 11 → f.request = some request → CarriesSendTo request payload address →
      f.DescribesSendTo request payload.bytes address.bytes := by
  intro attributed
  have carried : CarriesSendTo ⟨⟨4,8,0⟩,[⟨64,[]⟩,⟨80,echoAddress⟩],[⟨0,[]⟩,⟨0,[]⟩],[],[],false,0,0⟩
      ⟨.pointerStatic,[]⟩ ⟨.pointerStatic,echoAddress⟩ :=
    ⟨⟨_,_,_,_,rfl,rfl,⟨rfl,fun sent => absurd rfl sent,rfl⟩,⟨rfl,fun _ => by decide,rfl⟩⟩,rfl,by decide,by decide⟩
  have described := attributed (ofSendTo [⟨64,[]⟩,⟨80,echoAddress⟩] [⟨0,[]⟩,⟨0,[]⟩]) _ _ _ (by decide) rfl carried
  have found : getRequestInputViewAt ⟨⟨4,8,0⟩,[⟨64,[]⟩,⟨80,echoAddress⟩],[⟨0,[]⟩,⟨0,[]⟩],[],[],false,0,0⟩ 0 =
      some (echoAddress,true) := by decide
  have same := first_of_describes (by decide) rfl found carried.payloadSize carried.addressSize described
  exact absurd same.1 (by decide)

end ForwardTrace

end NxReverse.Probe
