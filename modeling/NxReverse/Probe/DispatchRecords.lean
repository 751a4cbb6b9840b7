import NxReverse.Probe.RecordLengths

/-! The record of a dispatched request. Its optional members are printed group by group into a
buffer of their own, which stands unquoted in the record. -/
namespace NxReverse.Probe

open Text Words JsonLines
open StringText (literal padded)

inductive DispatchTraceEventType where
  | rootUnknownCommandForwardBegin | rootUnknownCommandForwardEnd | rootShouldForwardBegin | rootShouldForwardEnd
  | rootLocalResult | domainMissingObjectForwardBegin | domainMissingObjectForwardEnd | domainLocalResult
  | managerRequestBegin | managerRequestEnd | managerRequestDomainOverride | managerRequestBaseFallback
  | managerRequestCmifParseFail | managerRequestCmifHandlerLookup | managerRequestCmifHandlerResult
  deriving DecidableEq, Repr

def getDispatchEventName : DispatchTraceEventType → CString
  | .rootUnknownCommandForwardBegin => "root_unknown_forward_begin".toList
  | .rootUnknownCommandForwardEnd => "root_unknown_forward_end".toList
  | .rootShouldForwardBegin => "root_should_forward_begin".toList
  | .rootShouldForwardEnd => "root_should_forward_end".toList
  | .rootLocalResult => "root_local_result".toList
  | .domainMissingObjectForwardBegin => "domain_missing_object_forward_begin".toList
  | .domainMissingObjectForwardEnd => "domain_missing_object_forward_end".toList
  | .domainLocalResult => "domain_local_result".toList
  | .managerRequestBegin => "manager_request_begin".toList
  | .managerRequestEnd => "manager_request_end".toList
  | .managerRequestDomainOverride => "manager_request_domain_override".toList
  | .managerRequestBaseFallback => "manager_request_base_fallback".toList
  | .managerRequestCmifParseFail => "manager_request_cmif_parse_fail".toList
  | .managerRequestCmifHandlerLookup => "manager_request_cmif_handler_lookup".toList
  | .managerRequestCmifHandlerResult => "manager_request_cmif_handler_result".toList

def DispatchTraceEventType.isManagerRequest : DispatchTraceEventType → Bool
  | .managerRequestBegin | .managerRequestEnd | .managerRequestDomainOverride | .managerRequestBaseFallback
  | .managerRequestCmifParseFail | .managerRequestCmifHandlerLookup | .managerRequestCmifHandlerResult => true
  | _ => false

structure DispatchTraceContext where
  eventType : DispatchTraceEventType
  serviceName : ServiceName
  clientProcessId : UInt64
  clientProgramId : UInt64
  sessionId : UInt64
  objectId : UInt32
  objectFound : Bool
  hasCommandId : Bool
  commandId : UInt32
  hasHipcCommandType : Bool
  hipcCommandType : UInt32
  hasResult : Bool
  result : UInt32
  hasDetail : Bool
  detailCode : UInt32
  detailValue0 : UInt32
  detailValue1 : UInt32
  detailValue2 : UInt32
  detailValue3 : UInt32
  hasResponseSnapshot : Bool
  responseDataWords : UInt32
  responseRawSize : UInt32
  responseRawWordCount : UInt32
  responseRawWords : Fin 8 → UInt32
  responseNumCopyHandles : UInt32
  responseNumMoveHandles : UInt32
  responseFirstCopyHandle : Int32
  responseFirstMoveHandle : Int32

def getHipcManagerCommandName (commandId : UInt32) : CString :=
  if commandId = 0 then "ConvertCurrentObjectToDomain".toList
  else if commandId = 1 then "CopyFromCurrentDomain".toList
  else if commandId = 2 then "CloneCurrentObject".toList
  else if commandId = 3 then "QueryPointerBufferSize".toList
  else if commandId = 4 then "CloneCurrentObjectEx".toList
  else unknownName

def getDispatchDetailName (eventType : DispatchTraceEventType) (detailCode : UInt32) : CString :=
  match eventType with
  | .managerRequestCmifParseFail =>
    if detailCode = 1 then "header_too_small".toList
    else if detailCode = 2 then "invalid_in_header".toList
    else "unknown".toList
  | .managerRequestCmifHandlerLookup => "handler_lookup".toList
  | .managerRequestCmifHandlerResult => "handler_result".toList
  | _ => "detail".toList

/-- A call of `LogDispatchTrace` with what it finds outside of its context. -/
structure DispatchTrace where
  runTick : UInt64
  monotonicNs : UInt64
  tracker : Tracker
  ctx : DispatchTraceContext

namespace DispatchTrace

variable (d : DispatchTrace)

def serviceName : CString := snprintf 16 (encodeServiceName d.ctx.serviceName.name)
def clientProgramId : CString := formatProgramId 32 d.ctx.clientProgramId

def isManagerRequest : Bool := d.ctx.hasCommandId && d.ctx.eventType.isManagerRequest

def isCloneManagerRequest : Bool := d.isManagerRequest && (d.ctx.commandId == 2 || d.ctx.commandId == 4)

/-- The kind of the object and the name of a command that there is. -/
def known : CString × CString :=
  if d.isManagerRequest then ("IHipcManager".toList,getHipcManagerCommandName d.ctx.commandId)
  else
    describeKnownObjectAndCommand d.serviceName
      (d.tracker.formatObjectPath 160 d.serviceName d.ctx.sessionId.toNat d.ctx.objectId.toNat) d.ctx.commandId

-- the groups of optional members, each one `snprintf`
def commandGroup : List Member :=
  if d.ctx.hasCommandId then
    [("command_id",.u32 d.ctx.commandId),("command_name",.text d.known.2),("object_kind",.text d.known.1)]
  else []

def cloneGroup : List Member :=
  if d.isCloneManagerRequest then
    [("outstanding_clone_count",.u64 (.ofNat (d.tracker.countTrackedCloneHandlesForSession d.ctx.sessionId.toNat)))]
  else []

def typeGroup : List Member :=
  if d.ctx.hasHipcCommandType then
    [("hipc_command_type",.u32 d.ctx.hipcCommandType),
      ("hipc_command_type_name",.text (getHipcCommandTypeName d.ctx.hipcCommandType))]
  else []

def resultGroup : List Member := if d.ctx.hasResult then [("rc",.hex32 d.ctx.result)] else []

def detailGroup : List Member :=
  if d.ctx.hasDetail then
    [("detail_code",.u32 d.ctx.detailCode),
      ("detail_name",.text (getDispatchDetailName d.ctx.eventType d.ctx.detailCode)),
      ("detail_value0",.u32 d.ctx.detailValue0),("detail_value1",.u32 d.ctx.detailValue1),
      ("detail_value2",.u32 d.ctx.detailValue2),("detail_value3",.u32 d.ctx.detailValue3)]
  else []

/-- The first words of the response in a buffer of 72 bytes. -/
def rawPreview : StringText :=
  ((List.ofFn d.ctx.responseRawWords).take d.ctx.responseRawWordCount.toNat).zipIdx.foldl (fun preview word =>
    if preview.text.length ≥ 72 - 1 then preview
    else (preview ++ (if word.2 = 0 then .empty else literal "_") ++ padded 8 word.1.toNat).into 72) .empty

def snapshotGroup : List Member :=
  if d.ctx.hasResponseSnapshot then
    [("response_data_words",.u32 d.ctx.responseDataWords),("response_raw_size",.u32 d.ctx.responseRawSize),
      ("response_raw_word_count",.u32 d.ctx.responseRawWordCount),("response_raw_preview",.stringText d.rawPreview),
      ("response_num_copy_handles",.u32 d.ctx.responseNumCopyHandles),
      ("response_num_move_handles",.u32 d.ctx.responseNumMoveHandles)]
  else []

def copyHandleGroup : List Member :=
  if d.ctx.hasResponseSnapshot ∧ d.ctx.responseNumCopyHandles > 0 then
    [("response_first_copy_handle",.s32 d.ctx.responseFirstCopyHandle)]
  else []

def moveHandleGroup : List Member :=
  if d.ctx.hasResponseSnapshot ∧ d.ctx.responseNumMoveHandles > 0 then
    [("response_first_move_handle",.s32 d.ctx.responseFirstMoveHandle)]
  else []

/-- What the fifth word says where it answers command 0 or 3, whatever the object is. -/
def answerGroup : List Member :=
  if d.ctx.hasResponseSnapshot ∧ d.ctx.hasCommandId ∧ d.ctx.responseRawWordCount ≥ 5 then
    if d.ctx.commandId = 0 then [("response_domain_object_id",.u32 (d.ctx.responseRawWords 4))]
    else if d.ctx.commandId = 3 then [("response_pointer_buffer_size",.u32 (d.ctx.responseRawWords 4 &&& 0xFFFF))]
    else []
  else []

def extraGroups : List (List Member) :=
  [d.commandGroup,d.cloneGroup,d.typeGroup,d.resultGroup,d.detailGroup,d.snapshotGroup,d.copyHandleGroup,
    d.moveHandleGroup,d.answerGroup]

def extra : CString := (d.extraGroups.map printRest).foldl (appendPiece 768) []

def mitmDispatch : TraceLine where
  capacity := 1792
  members :=
    [("schema_version",.constant "1"),("run_id",.text ("tick-".toList ++ decimal d.runTick.toNat)),
      ("scenario",.label "unknown"),("event",.label "mitm_dispatch"),("ts_monotonic_ns",.u64 d.monotonicNs),
      ("ts_utc",.label "unknown"),("service",.text d.serviceName),("client_pid",.u64 d.ctx.clientProcessId),
      ("client_program_id",.text d.clientProgramId),("server_program_id",.label "0x010000000000EAD1"),
      ("thread_id",.constant "0"),("session_id",.u64 d.ctx.sessionId),("object_id",.u32 d.ctx.objectId),
      ("request_id",.constant "0"),("dispatch_event",.text (getDispatchEventName d.ctx.eventType)),
      ("object_found",.bool d.ctx.objectFound)]
  extra := d.extra

def logDispatchTrace (traceBsdPoll : Bool) : List TraceLine :=
  if d.ctx.hasCommandId && shouldSuppressBsdTrace traceBsdPoll d.serviceName d.ctx.commandId then []
  else [d.mitmDispatch]

theorem shown_getDispatchEventName (eventType : DispatchTraceEventType) :
    Shown 35 (getDispatchEventName eventType) := by
  cases eventType <;> exact ⟨by decide,by decide⟩

theorem shown_getHipcManagerCommandName (commandId : UInt32) : Shown 28 (getHipcManagerCommandName commandId) := by
  unfold getHipcManagerCommandName
  repeat' split
  all_goals exact ⟨by decide,by decide⟩

theorem shown_getDispatchDetailName (eventType : DispatchTraceEventType) (detailCode : UInt32) :
    Shown 17 (getDispatchDetailName eventType detailCode) := by
  unfold getDispatchDetailName
  repeat' split
  all_goals exact ⟨by decide,by decide⟩

theorem length_rawPreview_le : d.rawPreview.text.length ≤ 71 := by
  have step : ∀ (words : List (UInt32 × Nat)) (preview : StringText), preview.text.length ≤ 71 →
      (words.foldl (fun preview word =>
        if preview.text.length ≥ 72 - 1 then preview
        else (preview ++ (if word.2 = 0 then .empty else literal "_") ++ padded 8 word.1.toNat).into 72)
        preview).text.length ≤ 71 := by
    intro words
    induction words with
    | nil => exact fun preview short => short
    | cons word rest ih =>
      intro preview short
      rw [List.foldl_cons]
      apply ih
      split
      · exact short
      · exact length_snprintf_le 72 _
  exact step _ .empty (Nat.zero_le 71)

/-- Every group is one of whole values. -/
theorem whole_groups : ∀ m ∈ d.extraGroups.flatten, m.2.Whole [] := by
  have kind : isStringText d.known.1 = true := by
    unfold known
    split
    · simp [standsForItself]
    · exact (shownNames_describe _ _ _).kind.isString
  have command : isStringText d.known.2 = true := by
    unfold known
    split
    · exact (shown_getHipcManagerCommandName _).isString
    · exact (shownNames_describe _ _ _).command.isString
  have type := (shown_getHipcCommandTypeName d.ctx.hipcCommandType).isString
  have detail := (shown_getDispatchDetailName d.ctx.eventType d.ctx.detailCode).isString
  have optional {group : List Member} (condition : Prop) [Decidable condition] (whole : ∀ m ∈ group, m.2.Whole []) :
      ∀ m ∈ if condition then group else [], m.2.Whole [] := by
    split
    · exact whole
    · exact List.forall_mem_nil _
  intro m member
  simp only [extraGroups,List.flatten_cons,List.flatten_nil,List.append_nil,List.mem_append] at member
  rcases member with h | h | h | h | h | h | h | h | h
  · exact optional _ (by simp [JsonValue.Whole,kind,command]) m h
  · exact optional _ (by simp [JsonValue.Whole]) m h
  · exact optional _ (by simp [JsonValue.Whole,type]) m h
  · exact optional _ (by simp [JsonValue.Whole]) m h
  · exact optional _ (by simp [JsonValue.Whole,detail]) m h
  · exact optional _ (by simp [JsonValue.Whole]) m h
  · exact optional _ (by simp [JsonValue.Whole]) m h
  · exact optional _ (by simp [JsonValue.Whole]) m h
  · refine optional _ ?_ m h
    split
    · simp [JsonValue.Whole]
    · exact optional _ (by simp [JsonValue.Whole])

/-- What a group adds to the buffer, if it is printed. -/
theorem length_optional_le {group : List Member} {limit : Nat} (condition : Prop) [Decidable condition]
    (most : width group + givenLength group ≤ limit) : (printRest (if condition then group else [])).length ≤ limit := by
  split
  · exact (length_printRest_le group).trans most
  · exact Nat.zero_le limit

theorem length_commandGroup_le {names : Nat} (known : d.known.2.length + d.known.1.length ≤ names) :
    (printRest d.commandGroup).length ≤ 59 + names := by
  apply length_optional_le
  simp only [width,JsonValue.width,givenLength,JsonValue.givenLength,Nat.zero_add,Nat.add_zero]
  exact Nat.add_le_add (by decide) known

theorem length_cloneGroup_le : (printRest d.cloneGroup).length ≤ 47 := by
  apply length_optional_le
  simp only [width,JsonValue.width,givenLength,JsonValue.givenLength]
  decide

/-- The longest name of a type belongs to a number of one digit. -/
theorem length_typeGroup_le : (printRest d.typeGroup).length ≤ 70 := by
  by_cases withContext : d.ctx.hipcCommandType = 6
  · unfold typeGroup
    rw [withContext]
    split <;> decide
  · have name : (getHipcCommandTypeName d.ctx.hipcCommandType).length ≤ 7 := by
      unfold getHipcCommandTypeName
      repeat' split
      all_goals decide
    apply length_optional_le
    simp only [width,JsonValue.width,givenLength,JsonValue.givenLength,Nat.zero_add,Nat.add_zero]
    exact (Nat.add_le_add (by decide : _ ≤ 59) name).trans (by decide)

theorem length_resultGroup_le : (printRest d.resultGroup).length ≤ 18 := by
  apply length_optional_le
  simp only [width,JsonValue.width,givenLength,JsonValue.givenLength]
  decide

theorem length_detailGroup_le : (printRest d.detailGroup).length ≤ 167 := by
  have name := (shown_getDispatchDetailName d.ctx.eventType d.ctx.detailCode).length
  apply length_optional_le
  simp only [width,JsonValue.width,givenLength,JsonValue.givenLength,Nat.zero_add,Nat.add_zero]
  exact Nat.add_le_add (by decide : _ ≤ 150) name

theorem length_snapshotGroup_le : (printRest d.snapshotGroup).length ≤ 276 := by
  apply length_optional_le
  simp only [width,JsonValue.width,givenLength,JsonValue.givenLength,Nat.zero_add,Nat.add_zero]
  exact Nat.add_le_add (by decide : _ ≤ 205) d.length_rawPreview_le

theorem length_copyHandleGroup_le : (printRest d.copyHandleGroup).length ≤ 41 := by
  apply length_optional_le
  simp only [width,JsonValue.width,givenLength,JsonValue.givenLength]
  decide

theorem length_moveHandleGroup_le : (printRest d.moveHandleGroup).length ≤ 41 := by
  apply length_optional_le
  simp only [width,JsonValue.width,givenLength,JsonValue.givenLength]
  decide

theorem length_answerGroup_le : (printRest d.answerGroup).length ≤ 42 := by
  unfold answerGroup
  split
  · split
    · refine (length_printRest_le _).trans ?_
      simp only [width,JsonValue.width,givenLength,JsonValue.givenLength]
      decide
    · apply length_optional_le
      simp only [width,JsonValue.width,givenLength,JsonValue.givenLength]
      decide
  · exact Nat.zero_le 42

/-- The names are short where the clones are counted, and no answer is read of a clone command. -/
theorem length_requestGroups_le :
    (printRest d.commandGroup).length + (printRest d.cloneGroup).length + (printRest d.answerGroup).length ≤ 151 := by
  have answer := d.length_answerGroup_le
  by_cases manager : d.isManagerRequest = true
  · have names : d.known.2.length + d.known.1.length ≤ 28 + 12 := by
      rw [known,if_pos manager]
      exact Nat.add_le_add (shown_getHipcManagerCommandName _).length (by simp)
    have command := d.length_commandGroup_le names
    by_cases clone : d.isCloneManagerRequest = true
    · have count := d.length_cloneGroup_le
      have none : d.answerGroup = [] := by
        rw [isCloneManagerRequest,Bool.and_eq_true,Bool.or_eq_true,beq_iff_eq,beq_iff_eq] at clone
        unfold answerGroup
        rcases clone.2 with two | four
        · simp [two]
        · simp [four]
      rw [none]
      change _ + _ + 0 ≤ 151
      omega
    · have none : d.cloneGroup = [] := if_neg clone
      rw [none]
      change _ + 0 + _ ≤ 151
      omega
  · have shown : ShownNames d.known := by
      rw [known,if_neg manager]
      exact shownNames_describe _ _ _
    have command := d.length_commandGroup_le (Nat.add_le_add shown.command.length shown.kind.length)
    have none : d.cloneGroup = [] := by
      apply if_neg
      rw [isCloneManagerRequest,Bool.and_eq_true]
      exact fun clone => manager clone.1
    rw [none]
    change _ + 0 + _ ≤ 151
    omega

theorem length_groups_le : (printRest d.extraGroups.flatten).length ≤ 766 := by
  have request := d.length_requestGroups_le
  have type := d.length_typeGroup_le
  have result := d.length_resultGroup_le
  have detail := d.length_detailGroup_le
  have snapshot := d.length_snapshotGroup_le
  have copyHandle := d.length_copyHandleGroup_le
  have moveHandle := d.length_moveHandleGroup_le
  simp only [extraGroups,List.flatten_cons,List.flatten_nil,List.append_nil,printRest_append,List.length_append]
  omega

/-- All groups fit the buffer for them. -/
theorem extra_eq : d.extra = printRest d.extraGroups.flatten := by
  have pieces := foldl_appendPiece 768 [] (d.extraGroups.map printRest)
  have length := d.length_groups_le
  rw [List.nil_append,← printRest_flatten] at pieces
  exact pieces.trans (snprintf_of_fits (by omega))

theorem whole_mitmDispatch : d.mitmDispatch.Whole [d.serviceName] := by
  have runId : Shown 25 ("tick-".toList ++ decimal d.runTick.toNat) := by
    have digits := length_decimal_u64 d.runTick
    refine ⟨?_,by simp [standsForItself]⟩
    simp
    omega
  have serviceName : d.serviceName.length ≤ 9 := length_encodeServiceName_le 16 d.ctx.serviceName
  have clientProgramId : Shown 18 d.clientProgramId := shown_formatProgramId 32 d.ctx.clientProgramId
  have event := shown_getDispatchEventName d.ctx.eventType
  have format : width d.mitmDispatch.members ≤ 400 := by
    simp only [mitmDispatch]
    apply le_trans
    · repeat apply width_cons_le
      exact width_nil_le
    · simp only [JsonValue.width]
      decide
  have length : givenLength d.mitmDispatch.members ≤ 25 + (9 + (18 + 35)) := by
    simp only [mitmDispatch,givenLength,JsonValue.givenLength,Nat.zero_add,Nat.add_zero]
    exact Nat.add_le_add runId.length (Nat.add_le_add serviceName (Nat.add_le_add clientProgramId.length event.length))
  have values : ∀ m ∈ d.mitmDispatch.members, m.2.Whole [d.serviceName] := by
    simp [mitmDispatch,JsonValue.Whole,standsForItself,clientProgramId.isString,event.isString]
  have extra : d.mitmDispatch.extra = printRest d.extraGroups.flatten := by
    unfold mitmDispatch
    dsimp only
    exact d.extra_eq
  have sized : d.mitmDispatch.capacity = 1792 := rfl
  exact whole_of_lengths d.extraGroups.flatten 1792 extra sized values d.whole_groups format length
    d.length_groups_le (by decide) (by decide)

end DispatchTrace

/-- Every record of a forwarded or a dispatched request is queued whole. -/
theorem traceRecords_whole :
    (∀ (f : ForwardTrace) (traceBsdPoll : Bool), ∀ r ∈ f.records traceBsdPoll, r.Whole f.copied) ∧
      ∀ (d : DispatchTrace) (traceBsdPoll : Bool), ∀ r ∈ d.logDispatchTrace traceBsdPoll,
        r.Whole [d.serviceName] := by
  refine ⟨fun f traceBsdPoll r member => f.whole_records member,fun d traceBsdPoll r member => ?_⟩
  unfold DispatchTrace.logDispatchTrace at member
  split at member
  · cases member
  · rw [List.mem_singleton.mp member]
    exact d.whole_mitmDispatch

end NxReverse.Probe
