import NxReverse.Probe.RecordLengths

/-! The preprocessor of forwarded requests. It asks the forwarder to send the destination of a SendTo
of the toolbox from a buffer of the probe, with another port or address in it. -/
namespace NxReverse.Probe

open Text Words JsonLines
open StringText (literal unsigned)

def bsdCommandSendTo : UInt32 := 11

inductive BsdSendToMutationMode where
  | disabled | shadowCopy | rewritePort | rewriteIpv4
  deriving DecidableEq, Repr

def getBsdSendToMutationModeName : BsdSendToMutationMode → StringText
  | .disabled => literal "disabled"
  | .shadowCopy => literal "shadow_copy"
  | .rewritePort => literal "rewrite_port"
  | .rewriteIpv4 => literal "rewrite_ipv4_and_port"

structure SendToMutationConfig where
  toolboxForwarderProgramId : UInt64
  toolboxBsdSendToMutation : BsdSendToMutationMode
  toolboxUdpEchoIpv4 : Bytes
  toolboxUdpEchoPort : UInt16
  toolboxUdpEchoRewriteIpv4 : Bytes
  toolboxUdpEchoRewritePort : UInt16
  rewriteIpv4Size : toolboxUdpEchoRewriteIpv4.length = 4

inductive ForwardRequestBufferDirection where
  | send | exchange | sendStatic
  deriving DecidableEq, Repr

structure ForwardRequestBufferReplacement where
  requested : Bool
  direction : ForwardRequestBufferDirection
  index : Nat
  size : Nat
  data : Bytes
  deriving DecidableEq

structure ForwardRequestPreprocessContext where
  serviceName : ServiceName
  clientProcessId : UInt64
  clientProgramId : UInt64
  sessionId : UInt64
  requestMessage : PointerAndSize

/-- A call of `OnForwardRequestPreprocess` with what it finds outside of its context. The parser also
gives the receive list slots of the send statics. -/
structure ForwardRequestPreprocess where
  config : SendToMutationConfig
  hipcParseRequest : PointerAndSize → HipcRequest
  sendStaticSlots : PointerAndSize → Nat → UInt32
  runTick : UInt64
  monotonicNs : UInt64
  ctx : ForwardRequestPreprocessContext

namespace ForwardRequestPreprocess

variable (p : ForwardRequestPreprocess)

def mutationMode : BsdSendToMutationMode := p.config.toolboxBsdSendToMutation

def mutationModeSupported : Bool :=
  p.mutationMode == .shadowCopy || p.mutationMode == .rewritePort || p.mutationMode == .rewriteIpv4

def serviceName : CString := snprintf 9 (encodeServiceName p.ctx.serviceName.name)

def requestInfo : ParsedRequestInfo :=
  parseRequestInfo (fun message => (p.hipcParseRequest message).toHipcParsedRequest) p.ctx.requestMessage

def request : HipcRequest := p.hipcParseRequest p.ctx.requestMessage

def isIpv4 (sockaddrBytes : Bytes) : Bool :=
  (u8At 1 sockaddrBytes).toUInt16 == bsdAddressFamilyInet || u16At 0 sockaddrBytes == bsdAddressFamilyInet

def endpointMatches (sockaddrBytes : Bytes) : Bool :=
  isIpv4 sockaddrBytes && readBe16 2 sockaddrBytes == p.config.toolboxUdpEchoPort.toNat &&
    slice 4 4 sockaddrBytes == p.config.toolboxUdpEchoIpv4

def storePort (port : UInt16) (data : Bytes) : Bytes :=
  storeAt 3 [(port &&& 0xFF).toUInt8] (storeAt 2 [(port >>> 8).toUInt8] data)

def editedData (data : Bytes) : Bytes :=
  let data := if p.mutationMode = .rewriteIpv4 then storeAt 4 p.config.toolboxUdpEchoRewriteIpv4 data else data
  if p.mutationMode = .rewritePort ∨ p.mutationMode = .rewriteIpv4 then
    storePort p.config.toolboxUdpEchoRewritePort data
  else data

def effectivePort (sockaddrBytes : Bytes) : Nat :=
  if p.mutationMode = .rewritePort ∨ p.mutationMode = .rewriteIpv4 then p.config.toolboxUdpEchoRewritePort.toNat
  else readBe16 2 sockaddrBytes

def bsdSendToMutation (sockaddrBytes data : Bytes) : TraceLine where
  capacity := 1024
  members :=
    [("schema_version",.constant "1"),("run_id",.text ("tick-".toList ++ decimal p.runTick.toNat)),
      ("scenario",.label "unknown"),("event",.label "bsd_sendto_mutation"),("ts_monotonic_ns",.u64 p.monotonicNs),
      ("ts_utc",.label "unknown"),("service",.label "bsd:s"),("client_pid",.u64 p.ctx.clientProcessId),
      ("client_program_id",.hex64 p.ctx.clientProgramId),("server_program_id",.label "0x010000000000EAD1"),
      ("thread_id",.constant "0"),("session_id",.u64 p.ctx.sessionId),("request_id",.constant "0"),
      ("command_id",.constant "11"),("mutation_mode",.stringText (getBsdSendToMutationModeName p.mutationMode)),
      ("original_endpoint",.stringText (formatEndpoint sockaddrBytes (readBe16 2 sockaddrBytes))),
      ("effective_endpoint",.stringText (formatEndpoint data (p.effectivePort sockaddrBytes))),
      ("descriptor_kind",.label "send_static"),("descriptor_index",.constant "1"),
      ("descriptor_static_index",.u32 (p.sendStaticSlots p.ctx.requestMessage 1)),
      ("descriptor_size",.u64 sockaddrBytes.length.toUInt64),("substitution_requested",.bool true)]
  extra := []

/-- The replacement of the destination and the record of it. -/
def replaceDestination (sockaddrBytes : Bytes) (outReplacement : ForwardRequestBufferReplacement) :
    ForwardRequestBufferReplacement × TraceLine :=
  let data := p.editedData (storeAt 0 sockaddrBytes outReplacement.data)
  (⟨true,.sendStatic,1,sockaddrBytes.length,data⟩,p.bsdSendToMutation sockaddrBytes data)

/-- The replacement as it is afterwards, with the record of a change. -/
def onForwardRequestPreprocess (outReplacement : Option ForwardRequestBufferReplacement) :
    Option ForwardRequestBufferReplacement × Option TraceLine :=
  let unchanged := (outReplacement,none)
  match outReplacement with
  | none => unchanged
  | some replacement =>
    if ¬p.mutationModeSupported ∨ p.ctx.clientProgramId ≠ p.config.toolboxForwarderProgramId then unchanged
    else if p.serviceName ≠ "bsd:s".toList then unchanged
    else if ¬p.requestInfo.valid ∨ p.requestInfo.isClose ∨ p.requestInfo.commandId ≠ bsdCommandSendTo then unchanged
    else
      match p.request.sendStatics,p.request.sendBuffers,p.request.exchBuffers with
      | [payloadDescriptor,sockaddrDescriptor],[payloadMapAlias,sockaddrMapAlias],[] =>
        if payloadMapAlias.bytes.length ≠ 0 ∨ sockaddrMapAlias.bytes.length ≠ 0 then unchanged
        else if payloadDescriptor.address = 0 ∨ payloadDescriptor.bytes.length = 0 ∨ sockaddrDescriptor.address = 0 ∨
          sockaddrDescriptor.bytes.length < 16 ∨ sockaddrDescriptor.bytes.length > replacement.data.length
        then unchanged
        else if ¬p.endpointMatches sockaddrDescriptor.bytes then unchanged
        else
          let (replacement,record) := p.replaceDestination sockaddrDescriptor.bytes replacement
          (some replacement,some record)
      | _,_,_ => unchanged

def editedBytes : BsdSendToMutationMode → List Nat
  | .disabled | .shadowCopy => []
  | .rewritePort => [2,3]
  | .rewriteIpv4 => [2,3,4,5,6,7]

/-- A SendTo of the toolbox to the configured endpoint, with both arguments in pointer statics. -/
structure MatchesEndpoint (sockaddrBytes : Bytes) : Prop where
  program : p.ctx.clientProgramId = p.config.toolboxForwarderProgramId
  service : p.ctx.serviceName.name = "bsd:s".toList
  command : p.requestInfo.valid = true ∧ p.requestInfo.isClose = false ∧ p.requestInfo.commandId = 11
  statics : ∃ payload sockaddr, p.request.sendStatics = [payload,sockaddr] ∧ sockaddr.bytes = sockaddrBytes
  buffers : p.request.sendBuffers.map HipcDescriptor.bytes = [[],[]]
  exchange : p.request.exchBuffers = []
  ipv4 : isIpv4 sockaddrBytes = true
  port : readBe16 2 sockaddrBytes = p.config.toolboxUdpEchoPort.toNat
  address : slice 4 4 sockaddrBytes = p.config.toolboxUdpEchoIpv4
  sockaddr : 16 ≤ sockaddrBytes.length

/-- `after` asks for the destination in send static 1, as long as it was, with the configured port and
address in the bytes that the mode may change and with every other byte as it was. -/
structure Replaces (sockaddrBytes : Bytes) (before after : ForwardRequestBufferReplacement) : Prop where
  requested : after.requested = true
  descriptor : after.direction = .sendStatic ∧ after.index = 1
  size : after.size = sockaddrBytes.length
  fits : after.size ≤ after.data.length ∧ after.data.length = before.data.length
  kept : ∀ i < after.size, i ∉ editedBytes p.mutationMode → after.data[i]? = sockaddrBytes[i]?
  port : 2 ∈ editedBytes p.mutationMode → readBe16 2 after.data = p.config.toolboxUdpEchoRewritePort.toNat
  address : 4 ∈ editedBytes p.mutationMode → slice 4 4 after.data = p.config.toolboxUdpEchoRewriteIpv4
  behind : ∀ i ≥ after.size, after.data[i]? = before.data[i]?

section Edits

variable {p} {data : Bytes}

theorem storePort_eq (port : UInt16) (room : 4 ≤ data.length) :
    storePort port data = storeAt 2 [(port >>> 8).toUInt8,(port &&& 0xFF).toUInt8] data :=
  @storeAt_storeAt 2 [_] data [_] (Nat.le_of_succ_le room)

theorem length_storePort (port : UInt16) (room : 4 ≤ data.length) : (storePort port data).length = data.length := by
  rw [storePort_eq port room]
  exact length_storeAt room

theorem getElem?_storePort (port : UInt16) (room : 4 ≤ data.length) {i : Nat} (outside : i < 2 ∨ 4 ≤ i) :
    (storePort port data)[i]? = data[i]? := by
  rw [storePort_eq port room]
  exact getElem?_storeAt_outside room outside

theorem slice_storePort_behind (port : UInt16) (room : 4 ≤ data.length) {start width : Nat} (behind : 4 ≤ start) :
    slice start width (storePort port data) = slice start width data := by
  rw [storePort_eq port room]
  exact slice_storeAt_apart room (Or.inr behind)

theorem readBe16_storePort (port : UInt16) (room : 4 ≤ data.length) :
    readBe16 2 (storePort port data) = port.toNat := by
  have pair : slice 2 2 (storePort port data) = [(port >>> 8).toUInt8,(port &&& 0xFF).toUInt8] := by
    rw [storePort_eq port room]
    exact @slice_storeAt 2 [_,_] data room
  have first : slice 2 1 (storePort port data) = [(port >>> 8).toUInt8] := by
    have front := congrArg (List.take 1) pair
    rwa [slice,List.take_take] at front
  have second : slice 3 1 (storePort port data) = [(port &&& 0xFF).toUInt8] := by
    have back := congrArg (List.drop 1) pair
    rwa [slice,List.drop_take,List.drop_drop] at back
  have small := port.toNat_lt
  have upper : (port >>> 8).toUInt8.toNat = port.toNat / 256 := by
    have shifted : (port >>> 8).toNat = port.toNat / 256 := Nat.shiftRight_eq_div_pow port.toNat 8
    rw [UInt16.toNat_toUInt8,shifted]
    omega
  have lower : (port &&& 0xFF).toUInt8.toNat = port.toNat % 256 := by
    have masked : (port &&& 0xFF).toNat = port.toNat % 256 := Nat.and_two_pow_sub_one_eq_mod port.toNat 8
    rw [UInt16.toNat_toUInt8,masked]
    omega
  have byte : ∀ value : UInt8, UInt8.ofNat (readLE [value]) = value := fun value => by simp [readLE]
  rw [readBe16,u8At,u8At,first,second,byte,byte,upper,lower]
  omega

-- what each mode makes of the copy
theorem editedData_disabled (mode : p.mutationMode = .disabled) : p.editedData data = data := by
  simp [editedData,mode]

theorem editedData_shadowCopy (mode : p.mutationMode = .shadowCopy) : p.editedData data = data := by
  simp [editedData,mode]

theorem editedData_rewritePort (mode : p.mutationMode = .rewritePort) :
    p.editedData data = storePort p.config.toolboxUdpEchoRewritePort data := by simp [editedData,mode]

theorem editedData_rewriteIpv4 (mode : p.mutationMode = .rewriteIpv4) : p.editedData data =
    storePort p.config.toolboxUdpEchoRewritePort (storeAt 4 p.config.toolboxUdpEchoRewriteIpv4 data) := by
  simp [editedData,mode]

theorem length_storeAddress (config : SendToMutationConfig) (room : 8 ≤ data.length) :
    (storeAt 4 config.toolboxUdpEchoRewriteIpv4 data).length = data.length := by
  apply length_storeAt
  rw [config.rewriteIpv4Size]
  exact room

theorem length_editedData (room : 8 ≤ data.length) : (p.editedData data).length = data.length := by
  have address := length_storeAddress p.config room
  cases mode : p.mutationMode with
  | disabled => rw [editedData_disabled mode]
  | shadowCopy => rw [editedData_shadowCopy mode]
  | rewritePort => rw [editedData_rewritePort mode,length_storePort _ (by omega)]
  | rewriteIpv4 => rw [editedData_rewriteIpv4 mode,length_storePort _ (by omega),address]

/-- A mode keeps the bytes that are not its own. -/
theorem getElem?_editedData (room : 8 ≤ data.length) {i : Nat} (other : i ∉ editedBytes p.mutationMode) :
    (p.editedData data)[i]? = data[i]? := by
  cases mode : p.mutationMode with
  | disabled => rw [editedData_disabled mode]
  | shadowCopy => rw [editedData_shadowCopy mode]
  | rewritePort =>
    simp [mode,editedBytes] at other
    rw [editedData_rewritePort mode,getElem?_storePort _ (by omega) (by omega)]
  | rewriteIpv4 =>
    have address := length_storeAddress p.config room
    have addressSize := p.config.rewriteIpv4Size
    simp [mode,editedBytes] at other
    rw [editedData_rewriteIpv4 mode,getElem?_storePort _ (by omega) (by omega),
      getElem?_storeAt_outside (by omega) (by omega)]

theorem readBe16_editedData (room : 8 ≤ data.length) (port : 2 ∈ editedBytes p.mutationMode) :
    readBe16 2 (p.editedData data) = p.config.toolboxUdpEchoRewritePort.toNat := by
  have address := length_storeAddress p.config room
  cases mode : p.mutationMode with
  | disabled => simp [mode,editedBytes] at port
  | shadowCopy => simp [mode,editedBytes] at port
  | rewritePort => rw [editedData_rewritePort mode,readBe16_storePort _ (by omega)]
  | rewriteIpv4 => rw [editedData_rewriteIpv4 mode,readBe16_storePort _ (by omega)]

theorem slice_editedData (room : 8 ≤ data.length) (address : 4 ∈ editedBytes p.mutationMode) :
    slice 4 4 (p.editedData data) = p.config.toolboxUdpEchoRewriteIpv4 := by
  have addressSize := p.config.rewriteIpv4Size
  have kept := length_storeAddress p.config room
  have stored := @slice_storeAt 4 p.config.toolboxUdpEchoRewriteIpv4 data (by omega)
  rw [addressSize] at stored
  cases mode : p.mutationMode with
  | disabled => simp [mode,editedBytes] at address
  | shadowCopy => simp [mode,editedBytes] at address
  | rewritePort => simp [mode,editedBytes] at address
  | rewriteIpv4 => rw [editedData_rewriteIpv4 mode,slice_storePort_behind _ (by omega) (Nat.le_refl 4),stored]

end Edits

theorem editedBytes_lt {mode : BsdSendToMutationMode} {i : Nat} (edited : i ∈ editedBytes mode) : i < 8 := by
  cases mode <;> simp [editedBytes] at edited <;> omega

theorem replaces_replaceDestination {sockaddrBytes : Bytes} {before : ForwardRequestBufferReplacement}
    (sockaddr : 16 ≤ sockaddrBytes.length) (fits : sockaddrBytes.length ≤ before.data.length) :
    p.Replaces sockaddrBytes before (p.replaceDestination sockaddrBytes before).1 := by
  have inside : 0 + sockaddrBytes.length ≤ before.data.length := by omega
  have copied : (storeAt 0 sockaddrBytes before.data).length = before.data.length := length_storeAt inside
  have room : 8 ≤ (storeAt 0 sockaddrBytes before.data).length := by omega
  have length := @length_editedData p _ room
  exact {
    requested := rfl
    descriptor := ⟨rfl,rfl⟩
    size := rfl
    fits := ⟨by simp only [replaceDestination]; omega,by simp only [replaceDestination]; omega⟩
    kept := fun i within other => by
      have front : (storeAt 0 sockaddrBytes before.data)[i]? = sockaddrBytes[i]? := List.getElem?_append_left within
      exact (getElem?_editedData room other).trans front
    port := readBe16_editedData room
    address := slice_editedData room
    behind := fun i beyond => by
      have start : sockaddrBytes.length ≤ i := beyond
      have other : i ∉ editedBytes p.mutationMode := fun edited => by
        have early := editedBytes_lt edited
        omega
      exact (getElem?_editedData room other).trans (getElem?_storeAt_outside inside (Or.inr (by omega))) }

theorem name_of_serviceName (service : p.serviceName = "bsd:s".toList) : p.ctx.serviceName.name = "bsd:s".toList := by
  have short := p.ctx.serviceName.short
  unfold serviceName encodeServiceName at service
  split at service
  · exact absurd service (by decide)
  · rwa [snprintf_of_fits (by omega)] at service

/-- A call leaves the replacement alone, or it replaces the destination of a matching request. -/
theorem onForwardRequestPreprocess_cases (before : ForwardRequestBufferReplacement) :
    p.onForwardRequestPreprocess (some before) = (some before,none) ∨
      ∃ sockaddrBytes, p.mutationMode ≠ .disabled ∧ p.MatchesEndpoint sockaddrBytes ∧
        sockaddrBytes.length ≤ before.data.length ∧
        p.onForwardRequestPreprocess (some before) =
          (some (p.replaceDestination sockaddrBytes before).1,some (p.replaceDestination sockaddrBytes before).2) := by
  rw [onForwardRequestPreprocess]
  dsimp only
  by_cases admitted : ¬p.mutationModeSupported = true ∨ p.ctx.clientProgramId ≠ p.config.toolboxForwarderProgramId
  · exact Or.inl (if_pos admitted)
  by_cases service : p.serviceName = "bsd:s".toList
  swap
  · exact Or.inl (by rw [if_neg admitted,if_pos service])
  by_cases command : ¬p.requestInfo.valid = true ∨ p.requestInfo.isClose = true ∨
      p.requestInfo.commandId ≠ bsdCommandSendTo
  · exact Or.inl (by rw [if_neg admitted,if_neg (not_not.mpr service),if_pos command])
  rw [if_neg admitted,if_neg (not_not.mpr service),if_neg command]
  split
  · rename_i payload sockaddr payloadAlias sockaddrAlias statics buffers exchange
    by_cases aliases : payloadAlias.bytes.length ≠ 0 ∨ sockaddrAlias.bytes.length ≠ 0
    · exact Or.inl (if_pos aliases)
    by_cases sized : payload.address = 0 ∨ payload.bytes.length = 0 ∨ sockaddr.address = 0 ∨
        sockaddr.bytes.length < 16 ∨ sockaddr.bytes.length > before.data.length
    · exact Or.inl (by rw [if_neg aliases,if_pos sized])
    by_cases endpoint : p.endpointMatches sockaddr.bytes = true
    swap
    · exact Or.inl (by rw [if_neg aliases,if_neg sized,if_pos endpoint])
    rw [if_neg aliases,if_neg sized,if_neg (not_not.mpr endpoint)]
    push Not at admitted command aliases sized
    have supported : p.mutationMode ≠ .disabled := fun disabled => by
      simp [mutationModeSupported,disabled] at admitted
    simp only [endpointMatches,Bool.and_eq_true,beq_iff_eq] at endpoint
    have matched : p.MatchesEndpoint sockaddr.bytes := {
      program := admitted.2
      service := p.name_of_serviceName service
      command := ⟨command.1,by simpa using command.2.1,command.2.2⟩
      statics := ⟨payload,sockaddr,statics,rfl⟩
      buffers := by
        have first := List.length_eq_zero_iff.mp aliases.1
        have second := List.length_eq_zero_iff.mp aliases.2
        rw [buffers,List.map_cons,List.map_cons,List.map_nil,first,second]
      exchange := exchange
      ipv4 := endpoint.1.1
      port := endpoint.1.2
      address := endpoint.2
      sockaddr := sized.2.2.2.1 }
    exact Or.inr ⟨sockaddr.bytes,supported,matched,sized.2.2.2.2,rfl⟩
  · exact Or.inl rfl

/-- Only a SendTo of the toolbox to the configured endpoint has its destination replaced, and only in
the bytes of the mode. -/
theorem onForwardRequestPreprocess_frame (before : Option ForwardRequestBufferReplacement) :
    ((p.onForwardRequestPreprocess before).1 = before ∨
      ∃ sockaddrBytes old new, before = some old ∧ (p.onForwardRequestPreprocess before).1 = some new ∧
        p.MatchesEndpoint sockaddrBytes ∧ p.Replaces sockaddrBytes old new) ∧
      (p.mutationMode = .disabled → (p.onForwardRequestPreprocess before).1 = before) := by
  cases before with
  | none => exact ⟨Or.inl rfl,fun _ => rfl⟩
  | some old =>
    rcases p.onForwardRequestPreprocess_cases old with same | ⟨sockaddrBytes,supported,matched,fits,result⟩
    · rw [same]
      exact ⟨Or.inl rfl,fun _ => rfl⟩
    · rw [result]
      have replaced := p.replaces_replaceDestination matched.sockaddr fits
      exact ⟨Or.inr ⟨sockaddrBytes,old,_,rfl,rfl,matched,replaced⟩,fun disabled => absurd disabled supported⟩

example :
    let sendTo : HipcRequest := ⟨⟨4,8,0⟩,[⟨64,[7]⟩,⟨80,[16,2,0x71,0x48,10,0,0,1] ++ List.replicate 8 0⟩],
      [⟨0,[]⟩,⟨0,[]⟩],[],[],false,0,0⟩
    let message : PointerAndSize := ⟨16,[0x53,0x46,0x43,0x49,0,0,0,0,11,0,0,0,0,0,0,0]⟩
    let config : SendToMutationConfig := ⟨5,.rewriteIpv4,[10,0,0,1],29000,[10,0,0,2],29001,rfl⟩
    let call : ForwardRequestPreprocess := ⟨config,fun _ => sendTo,fun _ _ => 0,0,0,
      ⟨⟨"bsd:s".toList,by decide⟩,80,5,1,message⟩⟩
    (call.onForwardRequestPreprocess (some ⟨false,.send,0,0,List.replicate 20 0xFF⟩)).1 =
      some ⟨true,.sendStatic,1,16,[16,2,0x71,0x49,10,0,0,2] ++ List.replicate 8 0 ++ List.replicate 4 0xFF⟩ := by
  decide

theorem length_formatEndpoint_le (bytes : Bytes) (port : Nat) : (formatEndpoint bytes port).text.length ≤ 63 :=
  length_snprintf_le 64 _

/-- The record of a change is queued whole. -/
theorem whole_bsdSendToMutation (sockaddrBytes data : Bytes) : (p.bsdSendToMutation sockaddrBytes data).Whole [] := by
  have runId : ("tick-".toList ++ decimal p.runTick.toNat).length ≤ 25 := by
    have digits := length_decimal_u64 p.runTick
    simp
    omega
  have mode : (getBsdSendToMutationModeName p.mutationMode).text.length ≤ 21 := by
    cases p.mutationMode <;> decide
  have format : width (p.bsdSendToMutation sockaddrBytes data).members ≤ 700 := by
    simp only [bsdSendToMutation]
    apply le_trans
    · repeat apply width_cons_le
      exact width_nil_le
    · simp only [JsonValue.width]
      decide
  have texts : givenLength (p.bsdSendToMutation sockaddrBytes data).members ≤ 25 + (21 + (63 + 63)) := by
    simp only [bsdSendToMutation,givenLength,JsonValue.givenLength,Nat.zero_add,Nat.add_zero]
    exact Nat.add_le_add runId (Nat.add_le_add mode (Nat.add_le_add (length_formatEndpoint_le _ _)
      (length_formatEndpoint_le _ _)))
  have values : ∀ m ∈ (p.bsdSendToMutation sockaddrBytes data).members, m.2.Whole [] := by
    simp [bsdSendToMutation,JsonValue.Whole,standsForItself]
  exact whole_of_members 1024 rfl rfl values format texts (by decide) (by decide)

end ForwardRequestPreprocess

end NxReverse.Probe
