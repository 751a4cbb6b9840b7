import NxReverse.Probe.TraceRecords

/-! How long the records of a forwarded request get. The texts that they are given are bounded by
the tables and buffers that they come from, and each format by its conversions. -/
namespace NxReverse.Probe

open Text Words JsonLines
open StringText (literal unsigned signed hex padded)

structure Shown (limit : Nat) (text : CString) : Prop where
  length : text.length ≤ limit
  isString : isStringText text = true

theorem length_snprintf_le_text (capacity : Nat) (text : CString) : (snprintf capacity text).length ≤ text.length := by
  simp [snprintf]

theorem Shown.snprintf {limit : Nat} {text : CString} (shown : Shown limit text) (capacity : Nat) :
    Shown limit (snprintf capacity text) where
  length := (length_snprintf_le_text capacity text).trans shown.length
  isString := isStringText_snprintf shown.isString capacity

theorem Shown.mono {limit more : Nat} {text : CString} (shown : Shown limit text) (le : limit ≤ more) :
    Shown more text := ⟨shown.length.trans le,shown.isString⟩

theorem length_encodeServiceName_le (outSize : Nat) (serviceName : ServiceName) :
    (snprintf outSize (encodeServiceName serviceName.name)).length ≤ 9 := by
  refine (length_snprintf_le_text outSize _).trans ?_
  have short := serviceName.short
  unfold encodeServiceName
  split
  · decide
  · omega

theorem shown_formatProgramId (outSize : Nat) (programId : UInt64) : Shown 18 (formatProgramId outSize programId) := by
  have bound := programId.toNat_lt
  refine Shown.snprintf ⟨?_,by simp [standsForItself]⟩ outSize
  rw [List.length_append,length_paddedHex (by decide) (by omega)]
  decide

theorem shown_formatRunId (outSize : Nat) (runTick : UInt64) : Shown 25 (formatRunId outSize runTick) := by
  have digits := length_decimal_u64 runTick
  refine Shown.snprintf ⟨?_,by simp [standsForItself]⟩ outSize
  simp
  omega

theorem shown_getHipcCommandTypeName (commandType : UInt32) : Shown 20 (getHipcCommandTypeName commandType) := by
  unfold getHipcCommandTypeName
  repeat' split
  all_goals exact ⟨by decide,by decide⟩

theorem shown_getSelectedKindText (requestInfo : ParsedRequestInfo) : Shown 12 (getSelectedKindText requestInfo) := by
  unfold getSelectedKindText
  repeat' split
  all_goals exact ⟨by decide,by decide⟩

/-- A service and what follows it, at most the 95 characters of a relative path. -/
theorem length_formatObjectPath_le (t : Tracker) (outSize : Nat) (serviceName : CString) (sessionId : SessionId)
    (objectId : ObjectId) :
    (t.formatObjectPath outSize serviceName sessionId objectId).length ≤ serviceName.length + 96 := by
  refine (length_snprintf_le_text outSize _).trans ?_
  have relative : (t.getRelativeDomainPath maxDomainPathLength sessionId objectId).length ≤ 95 := by
    unfold Tracker.getRelativeDomainPath
    split
    · exact length_snprintf_le _ _
    · split <;> exact length_snprintf_le _ _
  rw [List.length_append,List.length_cons]
  omega

theorem shown_hexEncode (outSize : Nat) (src : Bytes) : Shown (outSize - 1) (hexEncode outSize src) where
  length := by
    have pairs : (hexEncode outSize src).length = 2 * (src.take ((outSize - 1) / 2)).length := by
      simp [hexEncode,List.length_flatMap,Nat.mul_comm]
    rw [pairs,List.length_take]
    omega
  isString := (hexPreview outSize src).isString

theorem shown_preview (src : Bytes) : Shown 128 (hexEncode (hexPreviewBytes * 2 + 1) src) :=
  shown_hexEncode (hexPreviewBytes * 2 + 1) src

/-- The longest names are `IsWirelessCommunicationEnabled` and the kinds of the system's `ssl`. -/
structure ShownNames (named : CString × CString) : Prop where
  kind : Shown 20 named.1
  command : Shown 30 named.2

theorem shown_unknownName : Shown 7 unknownName := ⟨by decide,by decide⟩

/-- Each entry of a table has such a name. -/
theorem shown_entries_cons {commandId : UInt32} {name : List Char} {rest : CommandTable}
    (here : name.length ≤ 30 ∧ isStringText name = true) (behind : ∀ entry ∈ rest, Shown 30 entry.2) :
    ∀ entry ∈ (commandId,(String.ofList name).toList) :: rest, Shown 30 entry.2 := by
  apply List.forall_mem_cons.mpr ⟨?_,behind⟩
  simp only [String.toList_ofList]
  exact ⟨here.1,here.2⟩

theorem shown_name {table : CommandTable} (shown : ∀ entry ∈ table, Shown 30 entry.2) (commandId : UInt32) :
    Shown 30 (table.name commandId) := by
  unfold CommandTable.name
  cases found : table.lookup commandId with
  | none => exact shown_unknownName.mono (by decide)
  | some name =>
    obtain ⟨front,back,split,_⟩ := List.lookup_eq_some_iff.mp found
    exact shown (commandId,name) (by simp [split])

theorem shownNames_unknown : ShownNames (unknownName,unknownName) :=
  ⟨shown_unknownName.mono (by decide),shown_unknownName.mono (by decide)⟩

theorem shown_staticServiceCommands : ∀ entry ∈ staticServiceCommands, Shown 30 entry.2 := by
  repeat refine shown_entries_cons (by decide) ?_
  exact List.forall_mem_nil _

theorem shown_generalServiceCommands : ∀ entry ∈ generalServiceCommands, Shown 30 entry.2 := by
  repeat refine shown_entries_cons (by decide) ?_
  exact List.forall_mem_nil _

theorem shown_requestCommands : ∀ entry ∈ requestCommands, Shown 30 entry.2 := by
  repeat refine shown_entries_cons (by decide) ?_
  exact List.forall_mem_nil _

theorem shown_bsdServiceCommands : ∀ entry ∈ bsdServiceCommands, Shown 30 entry.2 := by
  repeat refine shown_entries_cons (by decide) ?_
  exact List.forall_mem_nil _

theorem shown_sslServiceCommands : ∀ entry ∈ sslServiceCommands, Shown 30 entry.2 := by
  repeat refine shown_entries_cons (by decide) ?_
  exact List.forall_mem_nil _

theorem shown_sslContextCommands : ∀ entry ∈ sslContextCommands, Shown 30 entry.2 := by
  repeat refine shown_entries_cons (by decide) ?_
  exact List.forall_mem_nil _

theorem shown_sslConnectionCommands : ∀ entry ∈ sslConnectionCommands, Shown 30 entry.2 := by
  repeat refine shown_entries_cons (by decide) ?_
  exact List.forall_mem_nil _

theorem shownNames_nifm (objectPath : CString) (commandId : UInt32) :
    ShownNames (getNifmObjectKindAndCommandName objectPath commandId) := by
  have static := shown_name shown_staticServiceCommands commandId
  have general := shown_name shown_generalServiceCommands commandId
  have request := shown_name shown_requestCommands commandId
  unfold getNifmObjectKindAndCommandName
  dsimp only
  split
  · exact ⟨⟨by simp,by simp [standsForItself]⟩,static⟩
  split
  · exact ⟨⟨by simp,by simp [standsForItself]⟩,general⟩
  split
  · exact ⟨⟨by simp,by simp [standsForItself]⟩,request⟩
  · exact shownNames_unknown

theorem shownNames_bsd (objectPath : CString) (commandId : UInt32) :
    ShownNames (getBsdObjectKindAndCommandName objectPath commandId) := by
  have service := shown_name shown_bsdServiceCommands commandId
  unfold getBsdObjectKindAndCommandName
  split
  · exact shownNames_unknown
  · exact ⟨⟨by simp,by simp [standsForItself]⟩,service⟩

theorem shownNames_ssl (serviceName objectPath : CString) (commandId : UInt32) :
    ShownNames (getSslObjectKindAndCommandName serviceName objectPath commandId) := by
  have service := shown_name shown_sslServiceCommands commandId
  have context := shown_name shown_sslContextCommands commandId
  have connection := shown_name shown_sslConnectionCommands commandId
  have serviceKind (condition : Prop) [Decidable condition] :
      Shown 20 (if condition then "ISslServiceForSystem".toList else "ISslService".toList) := by
    split <;> exact ⟨by decide,by decide⟩
  have contextKind (condition : Prop) [Decidable condition] :
      Shown 20 (if condition then "ISslContextForSystem".toList else "ISslContext".toList) := by
    split <;> exact ⟨by decide,by decide⟩
  unfold getSslObjectKindAndCommandName
  dsimp only
  split
  · exact shownNames_unknown
  split
  · exact ⟨serviceKind _,service⟩
  split
  · exact ⟨contextKind _,context⟩
  split
  · exact ⟨⟨by simp,by simp [standsForItself]⟩,connection⟩
  · exact shownNames_unknown

theorem shownNames_describe (serviceName objectPath : CString) (commandId : UInt32) :
    ShownNames (describeKnownObjectAndCommand serviceName objectPath commandId) := by
  unfold describeKnownObjectAndCommand
  split
  · exact shownNames_nifm objectPath commandId
  split
  · exact shownNames_bsd objectPath commandId
  split
  · exact shownNames_ssl serviceName objectPath commandId
  · exact shownNames_unknown

structure Previewed (payload : Payload) (rawPreviewHex : CString) : Prop where
  payload : Shown 128 payload.previewHex
  raw : Shown 128 rawPreviewHex

theorem shown_nil (limit : Nat) : Shown limit [] := ⟨Nat.zero_le _,rfl⟩

theorem previewed_none : Previewed .zero [] := ⟨shown_nil 128,shown_nil 128⟩

/-- A payload keeps its preview or has the one of the bytes that it captures. -/
theorem shown_captured {before : Payload} (shown : Shown 128 before.previewHex) (condition : Prop)
    [Decidable condition] (payload : Bytes) :
    Shown 128 (if condition then before.capture payload else before).previewHex := by
  split
  · exact shown_preview _
  · exact shown

theorem previewed_request (parse : PointerAndSize → HipcParsedRequest) (message : PointerAndSize) :
    Previewed (getRequestDecodeDetails parse message).payload
      (getRequestDecodeDetails parse message).rawPreviewHex := by
  have root (details : RequestDecodeDetails) (raw : Bytes) (before : Previewed details.payload details.rawPreviewHex) :
      Previewed (details.decodeRoot raw).payload (details.decodeRoot raw).rawPreviewHex := by
    unfold RequestDecodeDetails.decodeRoot
    split
    · exact before
    · exact ⟨shown_captured before.payload _ _,before.raw⟩
  have domain (details : RequestDecodeDetails) (raw : Bytes)
      (before : Previewed details.payload details.rawPreviewHex) :
      Previewed (details.decodeDomain raw).payload (details.decodeDomain raw).rawPreviewHex := by
    unfold RequestDecodeDetails.decodeDomain
    split
    · exact before
    · exact ⟨shown_captured before.payload _ _,before.raw⟩
  unfold getRequestDecodeDetails
  split
  · exact previewed_none
  · exact domain _ _ (root _ _ ⟨shown_nil 128,shown_preview _⟩)

/-- What the response decoder keeps to: the previews, and at most eight ids once they are valid. -/
structure ResponseDecodeDetails.Bounded (details : ResponseDecodeDetails) : Prop where
  previewed : Previewed details.payload details.rawPreviewHex
  ids : details.outObjectIdsValid = true → details.outObjectIdCount ≤ 8

theorem bounded_empty : ResponseDecodeDetails.empty.Bounded := ⟨previewed_none,fun valid => by cases valid⟩

theorem bounded_response (parse : PointerAndSize → HipcResponse) (message : PointerAndSize) :
    (getResponseDecodeDetails parse message).Bounded := by
  have root (details : ResponseDecodeDetails) (raw : Bytes) (before : details.Bounded) :
      (details.decodeRoot raw).Bounded := by
    unfold ResponseDecodeDetails.decodeRoot
    split
    · exact before
    · exact ⟨⟨shown_captured before.previewed.payload _ _,before.previewed.raw⟩,before.ids⟩
  have objects (details : ResponseDecodeDetails) (raw : Bytes) (before : details.Bounded) :
      (details.decodeOutObjects raw).Bounded := by
    unfold ResponseDecodeDetails.decodeOutObjects
    dsimp only
    split
    · rename_i counted
      exact ⟨before.previewed,fun _ => counted.2.2.1⟩
    · exact before
  have domain (details : ResponseDecodeDetails) (raw : Bytes) (before : details.Bounded) :
      (details.decodeDomain raw).Bounded := by
    unfold ResponseDecodeDetails.decodeDomain
    split
    · exact before
    · have headers : (details.readDomainHeaders raw).Bounded := ⟨before.previewed,before.ids⟩
      have read := objects _ raw headers
      exact ⟨⟨shown_captured read.previewed.payload _ _,read.previewed.raw⟩,read.ids⟩
  unfold getResponseDecodeDetails
  split
  · exact bounded_empty
  · refine domain _ _ (root _ _ ⟨⟨shown_nil 128,shown_preview _⟩,fun valid => ?_⟩)
    cases valid

/-- Ids that leave room for one more behind each of them are all printed. -/
theorem returnedIds_whole (pieces : List CString) (short : ∀ piece ∈ pieces, piece.length ≤ 11) (out : CString)
    (room : out.length + 11 * pieces.length ≤ 143) :
    pieces.foldl (fun out piece => if out.length + 16 < 160 then (appendPiece 160 out piece).take 158 else out) out =
      out ++ pieces.flatten := by
  induction pieces generalizing out with
  | nil => simp
  | cons piece rest ih =>
    obtain ⟨here,later⟩ := List.forall_mem_cons.mp short
    rw [List.length_cons] at room
    have printed : (appendPiece 160 out piece).take 158 = out ++ piece := by
      have length : (out ++ piece).length ≤ 154 := by
        rw [List.length_append]
        omega
      rw [appendPiece,snprintf_of_fits (by omega),List.take_of_length_le (by omega)]
    rw [List.foldl_cons,if_pos (by omega),printed,ih later _ (by rw [List.length_append]; omega)]
    simp

theorem length_listPiece_le {values : List UInt32} {piece : CString} (member : piece ∈ listPieces values) :
    piece.length ≤ 11 := by
  obtain ⟨⟨value,index⟩,_,rfl⟩ := List.mem_map.mp member
  have digits := length_decimal_u32 value
  dsimp only
  rw [List.length_append]
  split
  · rw [List.length_nil]
    omega
  · rw [List.length_singleton]
    omega

theorem length_listPieces (values : List UInt32) : (listPieces values).length = values.length := by
  simp [listPieces]

theorem length_flatten_le {pieces : List CString} (short : ∀ piece ∈ pieces, piece.length ≤ 11) :
    pieces.flatten.length ≤ 11 * pieces.length := by
  induction pieces with
  | nil => exact Nat.le_refl 0
  | cons piece rest ih =>
    obtain ⟨here,later⟩ := List.forall_mem_cons.mp short
    have behind := ih later
    rw [List.flatten_cons,List.length_append,List.length_cons]
    omega

theorem Summary.length_print_le {size : Nat} (text : StringText) :
    (Summary.print text : Summary size).content.text.length ≤ text.text.length := length_snprintf_le_text size text.text

theorem length_decimal_u8 (value : UInt8) : (decimal value.toNat).length ≤ 3 := by
  have bound := value.toNat_lt
  exact length_decimal_le (by decide) (by omega)

theorem length_formatIpv4_le (outSize : Nat) (bytes : Bytes) (size : Nat) :
    (formatIpv4 outSize bytes size).text.length ≤ 15 := by
  have first := length_decimal_u8 (u8At 0 bytes)
  have second := length_decimal_u8 (u8At 1 bytes)
  have third := length_decimal_u8 (u8At 2 bytes)
  have fourth := length_decimal_u8 (u8At 3 bytes)
  unfold formatIpv4
  split
  · refine (length_snprintf_le_text outSize _).trans ?_
    decide
  · refine (length_snprintf_le_text outSize _).trans ?_
    simp
    omega

theorem length_nifmRequestSummary_le (outSize : Nat) (objectPath : CString) (commandId : UInt32)
    (requestDecode : RequestDecodeDetails) :
    (formatNifmSemanticRequestSummary outSize objectPath commandId requestDecode).content.text.length ≤ 31 := by
  have word := length_decimal_u32 requestDecode.payload.word0
  have descriptor := length_decimal_s32 (u32At 0 requestDecode.payload.bytes).toInt32
  have pid : (paddedHex 16 (u64At 0 requestDecode.payload.bytes).toNat).length = 16 := by
    have bound := (u64At 0 requestDecode.payload.bytes).toNat_lt
    exact length_paddedHex (by decide) (by omega)
  have preset : (literal "requirement_preset=" ++ unsigned requestDecode.payload.word0.toNat).text.length ≤ 31 := by
    simp
    omega
  have nothing : (Summary.empty : Summary outSize).content.text.length ≤ 31 := Nat.zero_le 31
  unfold formatNifmSemanticRequestSummary
  dsimp only
  split
  · exact nothing
  split
  · refine (Summary.length_print_le _).trans ?_
    simp
    omega
  split
  · exact (Summary.length_print_le _).trans preset
  split
  · split
    · split
      · exact (Summary.length_print_le _).trans preset
      · exact nothing
    split
    · split
      · refine (Summary.length_print_le _).trans ?_
        split <;> decide
      · exact nothing
    split
    · split
      · refine (Summary.length_print_le _).trans ?_
        simp
        omega
      · exact nothing
    · exact nothing
  · exact nothing

theorem length_nifmResponseSummary_le (outSize : Nat) (objectPath : CString) (commandId : UInt32)
    (responseInfo : ParsedResponseInfo) (responseDecode : ResponseDecodeDetails) :
    (formatNifmSemanticResponseSummary outSize objectPath commandId responseInfo responseDecode).content.text.length ≤
      137 := by
  have ipv4 (offset : Nat) := length_formatIpv4_le 32 (responseDecode.payload.bytes.drop offset)
    (responseDecode.payload.size - offset)
  have byte (offset : Nat) := length_decimal_u8 (u8At offset responseDecode.payload.bytes)
  have word := length_decimal_u32 responseDecode.payload.word0
  have objects := length_decimal_u32 (UInt32.ofNat responseInfo.outObjectCount)
  have result : (paddedHex 8 responseInfo.resultValue.toNat).length = 8 := by
    have bound := responseInfo.resultValue.toNat_lt
    exact length_paddedHex (by decide) (by omega)
  have nothing : (Summary.empty : Summary outSize).content.text.length ≤ 137 := Nat.zero_le 137
  unfold formatNifmSemanticResponseSummary
  dsimp only
  split
  · exact nothing
  split
  · split
    · have address := ipv4 0
      refine (Summary.length_print_le _).trans ?_
      simp at address ⊢
      omega
    · exact nothing
  split
  · split
    · have ip := ipv4 1
      have mask := ipv4 5
      have gateway := ipv4 9
      have preferred := ipv4 14
      have alternate := ipv4 18
      have ipAuto := byte 0
      have dnsAuto := byte 13
      refine (Summary.length_print_le _).trans ?_
      simp at ip ⊢
      omega
    · exact nothing
  split
  · split
    · refine (Summary.length_print_le _).trans ?_
      split <;> decide
    · exact nothing
  split
  · split
    · have type := byte 0
      have strength := byte 1
      have status := byte 2
      refine (Summary.length_print_le _).trans ?_
      simp
      omega
    · exact nothing
  split
  · split
    · split
      · refine (Summary.length_print_le _).trans ?_
        simp
        omega
      · exact nothing
    split
    · refine (Summary.length_print_le _).trans ?_
      simp
      omega
    split
    · refine (Summary.length_print_le _).trans ?_
      simp at objects ⊢
      omega
    · exact nothing
  · exact nothing

/-- A record of whole values that fits both its buffer and a slot of the queue is queued whole. -/
theorem TraceLine.whole {copied : List CString} {r : TraceLine} {members : List Member}
    (values : ∀ m ∈ r.members, m.2.Whole copied) (extra : r.extra = printRest members)
    (others : ∀ m ∈ members, m.2.Whole []) (fits : r.text.length < r.capacity)
    (slot : r.text.length < maxQueuedLineLength) : r.Whole copied where
  values := values
  extra := ⟨members,extra,others⟩
  fits := snprintf_of_fits fits
  closed := by
    have same : r.line = r.text := snprintf_of_fits fits
    rw [same,TraceLine.text]
    exact List.suffix_append _ _
  queued s started := by
    have same : r.line = r.text := snprintf_of_fits fits
    have length : (textBytes r.text).length = r.text.length := by simp [textBytes]
    have nonempty : r.text.length ≠ 0 := by simp [TraceLine.text]
    have pathKept : min mitmTracePath.length (maxQueuedPathLength - 1) = mitmTracePath.length := by decide
    have lineKept : min (textBytes r.text).length (maxQueuedLineLength - 1) = (textBytes r.text).length := by omega
    have sized : maxQueuedLineLength = 2048 := rfl
    refine ⟨.of mitmTracePath (textBytes r.text),?_,?_,?_,?_⟩
    · rw [QueuedLine.of,pathKept,List.take_length]
    · rw [QueuedLine.of,lineKept,List.take_length]
    · rw [QueuedLine.of,lineKept,length,UInt16.toNat_ofNat']
      exact Nat.mod_eq_of_lt (by omega)
    · have traced : ¬(mitmTracePath.length = 0 ∨ (textBytes r.text).length = 0) := by
        rw [length]
        exact not_or.mpr ⟨by decide,nonempty⟩
      rw [same,appendJsonLineForService,Logger.appendLine,if_neg traced,started,Logger.queueLine,
        Queues.queueLineLocked,if_neg traced]
      rfl

theorem TraceLine.length_text (r : TraceLine) : r.text.length = (printLine r.members).length + r.extra.length := by
  simp only [TraceLine.text,printLine,List.length_append,List.length_cons]
  omega

/-- A record with a format of at most `fixed` characters that is given texts of at most `given`, and
with `others` of at most `behind` in its extra buffer. -/
theorem whole_of_lengths {copied : List CString} {r : TraceLine} (others : List Member)
    (capacity : Nat) {fixed given behind : Nat} (extra : r.extra = printRest others) (sized : r.capacity = capacity)
    (values : ∀ m ∈ r.members, m.2.Whole copied) (whole : ∀ m ∈ others, m.2.Whole [])
    (format : width r.members ≤ fixed) (texts : givenLength r.members ≤ given)
    (printed : (printRest others).length ≤ behind) (fits : fixed + given + behind + 3 < capacity)
    (slot : fixed + given + behind + 3 < 2048) : r.Whole copied := by
  have line := length_printLine_le r.members
  have length := r.length_text
  have queue : maxQueuedLineLength = 2048 := rfl
  rw [extra] at length
  exact TraceLine.whole values extra whole (by omega) (by omega)

/-- A record without an extra buffer. -/
theorem whole_of_members {copied : List CString} {r : TraceLine} (capacity : Nat) {fixed given : Nat}
    (plain : r.extra = []) (sized : r.capacity = capacity) (values : ∀ m ∈ r.members, m.2.Whole copied)
    (format : width r.members ≤ fixed) (texts : givenLength r.members ≤ given) (fits : fixed + given + 3 < capacity)
    (slot : fixed + given + 3 < 2048) : r.Whole copied :=
  whole_of_lengths [] capacity plain sized values (List.forall_mem_nil _) format texts (Nat.le_refl 0) fits slot

namespace ForwardTrace

variable (f : ForwardTrace)

def copied : List CString := [f.serviceName,f.objectPath]

structure Texts : Prop where
  runId : Shown 25 f.runId
  serviceName : f.serviceName.length ≤ 9
  clientProgramId : Shown 18 f.clientProgramId
  objectPath : f.objectPath.length ≤ 105
  selectedKind : Shown 12 f.selectedKind
  known : ShownNames f.known

theorem texts : f.Texts where
  runId := shown_formatRunId 64 f.runTick
  serviceName := length_encodeServiceName_le 16 f.ctx.serviceName
  clientProgramId := shown_formatProgramId 32 f.ctx.clientProgramId
  objectPath := by
    have service := length_encodeServiceName_le 16 f.ctx.serviceName
    exact (length_formatObjectPath_le f.tracker 160 f.serviceName _ _).trans (Nat.add_le_add_right service 96)
  selectedKind := shown_getSelectedKindText f.requestInfo
  known := shownNames_describe f.serviceName f.objectPath f.requestInfo.commandId

theorem givenLength_head_le (event : String) (timestampNs : UInt64) :
    givenLength (f.head event timestampNs) ≤ 25 + (7 + (9 + 18)) := by
  simp only [head,givenLength,JsonValue.givenLength,Nat.zero_add,Nat.add_zero]
  exact Nat.add_le_add f.texts.runId.length (Nat.add_le_add (by decide) (Nat.add_le_add f.texts.serviceName
    f.texts.clientProgramId.length))

theorem whole_head (event : String) (timestampNs : UInt64) :
    ∀ m ∈ f.head event timestampNs, m.2.Whole f.copied := by
  simp [head,JsonValue.Whole,copied,standsForItself,f.texts.runId.isString,f.texts.clientProgramId.isString]

theorem whole_ipcRequest : f.ipcRequest.Whole f.copied := by
  have texts := f.texts
  have given := f.givenLength_head_le "ipc_request" f.requestTsNs
  have format : width f.ipcRequest.members ≤ 1700 := by
    simp only [ipcRequest,head,List.cons_append,List.nil_append]
    apply le_trans
    · repeat apply width_cons_le
      exact width_nil_le
    · simp only [JsonValue.width]
      decide
  have length : givenLength f.ipcRequest.members ≤ 59 + (30 + (12 + (20 + 105))) := by
    simp only [ipcRequest,givenLength_append,givenLength,JsonValue.givenLength,Nat.zero_add,Nat.add_zero]
    exact Nat.add_le_add given (Nat.add_le_add texts.known.command.length (Nat.add_le_add texts.selectedKind.length
      (Nat.add_le_add texts.known.kind.length texts.objectPath)))
  have values : ∀ m ∈ f.ipcRequest.members, m.2.Whole f.copied := by
    apply List.forall_mem_append.mpr ⟨f.whole_head _ _,?_⟩
    simp [JsonValue.Whole,copied,texts.known.command.isString,texts.known.kind.isString,texts.selectedKind.isString]
  exact whole_of_members 2304 rfl rfl values format length (by decide) (by decide)

theorem whole_ipcResponse : f.ipcResponse.Whole f.copied := by
  have texts := f.texts
  have given := f.givenLength_head_le "ipc_response" f.responseTsNs
  have format : width f.ipcResponse.members ≤ 640 := by
    simp only [ipcResponse,head,List.cons_append,List.nil_append]
    apply le_trans
    · repeat apply width_cons_le
      exact width_nil_le
    · simp only [JsonValue.width]
      decide
  have length : givenLength f.ipcResponse.members ≤ 59 + (105 + (30 + 20)) := by
    simp only [ipcResponse,givenLength_append,givenLength,JsonValue.givenLength,Nat.zero_add,Nat.add_zero]
    exact Nat.add_le_add given (Nat.add_le_add texts.objectPath (Nat.add_le_add texts.known.command.length
      texts.known.kind.length))
  have values : ∀ m ∈ f.ipcResponse.members, m.2.Whole f.copied := by
    apply List.forall_mem_append.mpr ⟨f.whole_head _ _,?_⟩
    simp [JsonValue.Whole,copied,texts.known.command.isString,texts.known.kind.isString]
  exact whole_of_members 1024 rfl rfl values format length (by decide) (by decide)

theorem whole_ipcDecodeRequest : f.ipcDecodeRequest.Whole f.copied := by
  have texts := f.texts
  have type := shown_getHipcCommandTypeName f.requestDecode.commandType
  have previews : Previewed f.requestDecode.payload f.requestDecode.rawPreviewHex :=
    previewed_request f.parseRequest f.ctx.requestMessage
  have given := f.givenLength_head_le "ipc_decode_request" f.requestTsNs
  have format : width f.ipcDecodeRequest.members ≤ 1320 := by
    simp only [ipcDecodeRequest,head,List.cons_append,List.nil_append]
    apply le_trans
    · repeat apply width_cons_le
      exact width_nil_le
    · simp only [word,JsonValue.width]
      decide
  have length : givenLength f.ipcDecodeRequest.members ≤ 59 + (105 + (12 + (20 + (30 + (20 + (128 + 128)))))) := by
    simp only [ipcDecodeRequest,givenLength_append,givenLength,word,JsonValue.givenLength,Nat.zero_add,Nat.add_zero]
    exact Nat.add_le_add given (Nat.add_le_add texts.objectPath (Nat.add_le_add texts.selectedKind.length
      (Nat.add_le_add texts.known.kind.length (Nat.add_le_add texts.known.command.length (Nat.add_le_add type.length
        (Nat.add_le_add previews.payload.length previews.raw.length))))))
  have values : ∀ m ∈ f.ipcDecodeRequest.members, m.2.Whole f.copied := by
    apply List.forall_mem_append.mpr ⟨f.whole_head _ _,?_⟩
    simp [JsonValue.Whole,word,copied,texts.known.command.isString,texts.known.kind.isString,
      texts.selectedKind.isString,type.isString,previews.payload.isString,previews.raw.isString]
  exact whole_of_members 2048 rfl rfl values format length (by decide) (by decide)

theorem bounded_responseDecode : f.responseDecode.Bounded := by
  unfold responseDecode
  split
  · exact bounded_response f.parseResponse _
  · exact bounded_empty

theorem returnedObjectIds_whole : ∃ ids, f.returnedObjectIds = printList ids ∧ (printList ids).length ≤ 90 := by
  have bounded := f.bounded_responseDecode
  unfold returnedObjectIds
  cases valid : f.responseDecode.outObjectIdsValid with
  | false => exact ⟨[],by rw [if_pos (by decide)]; decide,by decide⟩
  | true =>
    have count := bounded.ids valid
    have eight : (listPieces (f.responseDecode.outObjectIds.take f.responseDecode.outObjectIdCount)).length ≤ 8 := by
      rw [length_listPieces,List.length_take]
      omega
    have short := fun piece => @length_listPiece_le (f.responseDecode.outObjectIds.take
      f.responseDecode.outObjectIdCount) piece
    have printed := returnedIds_whole _ short ['['] (by rw [List.length_singleton]; omega)
    have length := length_flatten_le short
    refine ⟨f.responseDecode.outObjectIds.take f.responseDecode.outObjectIdCount,?_,?_⟩
    · rw [if_neg (by decide),printed]
      rfl
    · rw [printList,List.length_append,List.length_cons,List.length_singleton]
      omega

theorem whole_ipcDecodeResponse : f.ipcDecodeResponse.Whole f.copied := by
  obtain ⟨ids,printed,short⟩ := f.returnedObjectIds_whole
  rw [← printed] at short
  have texts := f.texts
  have previews := f.bounded_responseDecode.previewed
  have given := f.givenLength_head_le "ipc_decode_response" f.responseTsNs
  have format : width f.ipcDecodeResponse.members ≤ 1125 := by
    simp only [ipcDecodeResponse,head,List.cons_append,List.nil_append]
    apply le_trans
    · repeat apply width_cons_le
      exact width_nil_le
    · simp only [word,JsonValue.width]
      decide
  have length : givenLength f.ipcDecodeResponse.members ≤ 59 + (105 + (12 + (20 + (30 + (90 + (128 + 128)))))) := by
    simp only [ipcDecodeResponse,givenLength_append,givenLength,word,JsonValue.givenLength,Nat.zero_add,Nat.add_zero]
    exact Nat.add_le_add given (Nat.add_le_add texts.objectPath (Nat.add_le_add texts.selectedKind.length
      (Nat.add_le_add texts.known.kind.length (Nat.add_le_add texts.known.command.length (Nat.add_le_add short
        (Nat.add_le_add previews.payload.length previews.raw.length))))))
  have values : ∀ m ∈ f.ipcDecodeResponse.members, m.2.Whole f.copied := by
    have listed : ∃ values, f.returnedObjectIds = printList values := ⟨ids,printed⟩
    apply List.forall_mem_append.mpr ⟨f.whole_head _ _,?_⟩
    simp [JsonValue.Whole,word,copied,texts.known.command.isString,texts.known.kind.isString,
      texts.selectedKind.isString,previews.payload.isString,previews.raw.isString,listed]
  exact whole_of_members 1792 rfl rfl values format length (by decide) (by decide)

theorem width_semanticMembers_le {event : String} (short : event.length ≤ 13) (named : CString × CString) (result : UInt32)
    (requestSummary responseSummary : StringText) :
    width (f.semanticMembers event named result requestSummary responseSummary) ≤ 484 := by
  simp only [semanticMembers,head,List.cons_append,List.nil_append]
  apply le_trans
  · repeat apply width_cons_le
    exact width_nil_le
  · simp only [JsonValue.width]
    generalize event.length = letters at short
    revert letters
    decide

/-- A semantic record with summaries of at most `request` and `response` characters. -/
theorem whole_semantic {r : TraceLine} (capacity : Nat) {request response : Nat} {event : String}
    (short : event.length ≤ 13) (named : CString × CString) (result : UInt32) (requestSummary responseSummary : StringText)
    (members : r.members = f.semanticMembers event named result requestSummary responseSummary) (plain : r.extra = [])
    (sized : r.capacity = capacity) (shown : ShownNames named)
    (requested : requestSummary.text.length ≤ request) (responded : responseSummary.text.length ≤ response)
    (fits : 701 + (request + response) < capacity) (slot : 701 + (request + response) < 2048) :
    r.Whole f.copied := by
  have given := f.givenLength_head_le event f.responseTsNs
  have format : width r.members ≤ 484 := members ▸ f.width_semanticMembers_le short named result _ _
  have length : givenLength r.members ≤ 59 + (105 + (20 + (30 + (request + response)))) := by
    rw [members]
    simp only [semanticMembers,givenLength_append,givenLength,JsonValue.givenLength,Nat.zero_add,Nat.add_zero]
    exact Nat.add_le_add given (Nat.add_le_add f.texts.objectPath (Nat.add_le_add shown.kind.length
      (Nat.add_le_add shown.command.length (Nat.add_le_add requested responded))))
  have values : ∀ m ∈ r.members, m.2.Whole f.copied := by
    rw [members]
    apply List.forall_mem_append.mpr ⟨f.whole_head _ _,?_⟩
    simp [JsonValue.Whole,copied,shown.kind.isString,shown.command.isString]
  exact whole_of_members capacity plain sized values format length (by omega) (by omega)

theorem whole_nifmSemantic : f.nifmSemantic.Whole f.copied :=
  f.whole_semantic 1024 (by decide) _ _ _ _ rfl rfl rfl (shownNames_nifm _ _) (length_nifmRequestSummary_le _ _ _ _)
    (length_nifmResponseSummary_le _ _ _ _ _) (by decide) (by decide)

theorem whole_bsdSemantic : f.bsdSemantic.Whole f.copied :=
  f.whole_semantic 2304 (by decide) _ _ _ _ rfl rfl rfl (shownNames_bsd _ _) f.bsdRequestSummary.fits
    f.bsdResponseSummary.fits (by decide) (by decide)

theorem whole_sslSemantic : f.sslSemantic.Whole f.copied :=
  f.whole_semantic 1280 (by decide) _ _ _ _ rfl rfl rfl (shownNames_ssl _ _ _) f.sslRequestSummary.fits
    f.sslResponseSummary.fits (by decide) (by decide)

/-- Every record of a forwarded request is queued whole. -/
theorem whole_records {traceBsdPoll : Bool} {r : TraceLine} (member : r ∈ f.records traceBsdPoll) :
    r.Whole f.copied := by
  unfold records at member
  split at member
  · cases member
  split at member
  · cases member
  simp only [List.mem_append,List.mem_singleton] at member
  rcases member with ((((request | decode) | response) | nifm) | bsd) | ssl
  · exact request ▸ f.whole_ipcRequest
  · rcases List.mem_append.mp decode with ofRequest | ofResponse
    · split at ofRequest
      · exact List.mem_singleton.mp ofRequest ▸ f.whole_ipcDecodeRequest
      · cases ofRequest
    · split at ofResponse
      · exact List.mem_singleton.mp ofResponse ▸ f.whole_ipcDecodeResponse
      · cases ofResponse
  · exact response ▸ f.whole_ipcResponse
  · unfold emitNifmSemanticRecord at nifm
    split at nifm
    · cases nifm
    · exact List.mem_singleton.mp nifm ▸ f.whole_nifmSemantic
  · unfold emitBsdSemanticRecord at bsd
    split at bsd
    · cases bsd
    · exact List.mem_singleton.mp bsd ▸ f.whole_bsdSemantic
  · unfold emitSslSemanticRecord at ssl
    split at ssl
    · cases ssl
    · exact List.mem_singleton.mp ssl ▸ f.whole_sslSemantic

end ForwardTrace

end NxReverse.Probe
