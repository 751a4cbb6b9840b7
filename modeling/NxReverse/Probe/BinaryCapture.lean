import NxReverse.Lib.Chunks
import NxReverse.Probe.CommandNames
import NxReverse.Probe.LogQueues

/-! The binary records of the buffers that a request and its response carry. A buffer is cut into
records that say where their payload belongs. -/
namespace NxReverse.Probe

open Text Words Chunks

inductive TraceFamily where
  | broadcast | nifm | bsd | ssl | notif
  deriving DecidableEq, Repr

def getTraceFamilyForServiceName (serviceName : CString) : TraceFamily :=
  if startsWith serviceName "nifm:".toList then .nifm
  else if startsWith serviceName "bsd:".toList then .bsd
  else if startsWith serviceName "ssl".toList then .ssl
  else if serviceName = "notif:s".toList then .notif
  else .broadcast

/-- `g_trace_sinks`: the file of a family's binary records. -/
def traceSinks : List (TraceFamily × CString) :=
  [(.nifm,"sdmc:/nxrv/probe/probe-mitm-nifm.bin".toList),(.bsd,"sdmc:/nxrv/probe/probe-mitm-bsd.bin".toList),
    (.ssl,"sdmc:/nxrv/probe/probe-mitm-ssl.bin".toList),(.notif,"sdmc:/nxrv/probe/probe-mitm-notif.bin".toList)]

def getTraceSinkConfig (family : TraceFamily) : Option CString := traceSinks.lookup family

def getTraceSinkConfigForServiceName (serviceName : CString) : Option CString :=
  getTraceSinkConfig (getTraceFamilyForServiceName serviceName)

def traceServiceCodes : List (CString × UInt16) :=
  [("nifm:u".toList,0x101),("nifm:s".toList,0x102),("bsd:u".toList,0x201),("bsd:s".toList,0x202),
    ("bsd:a".toList,0x203),("ssl".toList,0x301),("ssl:s".toList,0x302),("notif:s".toList,0x401)]

def getTraceServiceCode (serviceName : CString) : UInt16 := (traceServiceCodes.lookup serviceName).getD 0

def binaryTraceMagic : UInt32 := 0x42544757

def binaryPayloadChunkBytes : Nat := 1536

inductive BinaryCapturePhase where
  | request | response
  deriving DecidableEq, Repr

def BinaryCapturePhase.code : BinaryCapturePhase → UInt8
  | .request => 1
  | .response => 2

inductive BinaryBufferDirection where
  | send | recv | exchange
  deriving DecidableEq, Repr

def BinaryBufferDirection.code : BinaryBufferDirection → UInt8
  | .send => 1
  | .recv => 2
  | .exchange => 3

def binaryTraceFlagFirstChunk : UInt8 := 1
def binaryTraceFlagLastChunk : UInt8 := 2
def binaryTraceFlagPointerStatic : UInt8 := 4

structure BinaryTraceRecordHeader where
  magic : UInt32
  version : UInt16
  headerSize : UInt16
  runTick : UInt64
  timestampNs : UInt64
  requestId : UInt64
  sessionId : UInt64
  programId : UInt64
  processId : UInt64
  objectId : UInt32
  serviceCode : UInt16
  commandId : UInt16
  phase : UInt8
  bufferDirection : UInt8
  bufferIndex : UInt8
  flags : UInt8
  payloadOffset : UInt32
  payloadSize : UInt32
  totalBufferSize : UInt32
  deriving DecidableEq, Repr

def sizeofBinaryTraceRecordHeader : Nat := 80

namespace BinaryTraceRecordHeader

def fields (h : BinaryTraceRecordHeader) : List (Nat × Nat) :=
  [(4,h.magic.toNat),(2,h.version.toNat),(2,h.headerSize.toNat),(8,h.runTick.toNat),(8,h.timestampNs.toNat),
    (8,h.requestId.toNat),(8,h.sessionId.toNat),(8,h.programId.toNat),(8,h.processId.toNat),
    (4,h.objectId.toNat),(2,h.serviceCode.toNat),(2,h.commandId.toNat),(1,h.phase.toNat),
    (1,h.bufferDirection.toNat),(1,h.bufferIndex.toNat),(1,h.flags.toNat),(4,h.payloadOffset.toNat),
    (4,h.payloadSize.toNat),(4,h.totalBufferSize.toNat)]

def bytes (h : BinaryTraceRecordHeader) : Bytes := writeFields h.fields

theorem length_bytes (h : BinaryTraceRecordHeader) : h.bytes.length = sizeofBinaryTraceRecordHeader := by
  rw [bytes,length_writeFields]
  simp [fields,sizeofBinaryTraceRecordHeader]

end BinaryTraceRecordHeader

structure BinaryRecord where
  header : BinaryTraceRecordHeader
  payload : Bytes
  deriving DecidableEq, Repr

def BinaryRecord.bytes (r : BinaryRecord) : Bytes := r.header.bytes ++ r.payload

structure CaptureContext where
  runTick : UInt64
  serviceName : CString
  timestampNs : UInt64
  programId : UInt64
  processId : UInt64
  sessionId : UInt64
  objectId : UInt32
  requestId : UInt64
  commandId : UInt32

structure BufferKind where
  phase : BinaryCapturePhase
  direction : BinaryBufferDirection
  isPointerStatic : Bool
  deriving DecidableEq, Repr

/-- Which buffer of a message a record belongs to. -/
structure BufferKey where
  kind : BufferKind
  bufferIndex : UInt8
  deriving DecidableEq, Repr

def chunkFlags (isFirst isLast isPointerStatic : Bool) : UInt8 :=
  (if isFirst then binaryTraceFlagFirstChunk else 0) ||| (if isLast then binaryTraceFlagLastChunk else 0) |||
    (if isPointerStatic then binaryTraceFlagPointerStatic else 0)

/-- One turn of the loop of `EmitBinaryPayloadRecords`. -/
def chunkRecord (ctx : CaptureContext) (key : BufferKey) (bytes : Bytes) (offset : Nat) : BinaryRecord :=
  let size := bytes.length
  let chunkSize := min binaryPayloadChunkBytes (size - offset)
  { header :=
      { magic := binaryTraceMagic
        version := 1
        headerSize := .ofNat sizeofBinaryTraceRecordHeader
        runTick := ctx.runTick
        timestampNs := ctx.timestampNs
        requestId := ctx.requestId
        sessionId := ctx.sessionId
        programId := ctx.programId
        processId := ctx.processId
        objectId := ctx.objectId
        serviceCode := getTraceServiceCode ctx.serviceName
        commandId := .ofNat ctx.commandId.toNat
        phase := key.kind.phase.code
        bufferDirection := key.kind.direction.code
        bufferIndex := key.bufferIndex
        flags := chunkFlags (offset = 0) (offset + chunkSize ≥ size) key.kind.isPointerStatic
        payloadOffset := .ofNat offset
        payloadSize := .ofNat chunkSize
        totalBufferSize := .ofNat size }
    payload := slice offset chunkSize bytes }

def emitBinaryPayloadRecords (ctx : CaptureContext) (key : BufferKey) (bytes : Bytes) : List BinaryRecord :=
  if bytes.length = 0 then []
  else if getTraceSinkConfigForServiceName ctx.serviceName = none then []
  else (offsets binaryPayloadChunkBytes bytes.length).map (chunkRecord ctx key bytes)

/-- A static or buffer descriptor: an address and the memory of the declared size behind it. -/
structure Descriptor where
  address : Nat
  bytes : Bytes

structure RequestBuffers where
  sendStatics : List Descriptor
  sendBuffers : List Descriptor
  recvBuffers : List Descriptor
  exchBuffers : List Descriptor

/-- The part of `EmitBufferRecord` that captures the payload. -/
def emitBufferRecord (ctx : CaptureContext) (kind : BufferKind) (capturePayload : Bool) (index : Nat)
    (descriptor : Descriptor) : List BinaryRecord :=
  if !capturePayload ∨ descriptor.address = 0 ∨ descriptor.bytes.length = 0 then []
  else emitBinaryPayloadRecords ctx ⟨kind,.ofNat index⟩ descriptor.bytes

def emitBuffers (ctx : CaptureContext) (kind : BufferKind) (capturePayload : Bool) (descriptors : List Descriptor) :
    List BinaryRecord :=
  descriptors.zipIdx.flatMap fun (descriptor,i) => emitBufferRecord ctx kind capturePayload i descriptor

def logRequestBufferRecords (ctx : CaptureContext) (request : RequestBuffers) : List BinaryRecord :=
  emitBuffers ctx ⟨.request,.send,true⟩ true request.sendStatics ++
    emitBuffers ctx ⟨.request,.send,false⟩ true request.sendBuffers ++
    emitBuffers ctx ⟨.request,.recv,false⟩ false request.recvBuffers ++
    emitBuffers ctx ⟨.request,.exchange,false⟩ true request.exchBuffers

def logResponseBufferRecords (ctx : CaptureContext) (request : RequestBuffers) (statics : List Descriptor) :
    List BinaryRecord :=
  emitBuffers ctx ⟨.response,.recv,false⟩ true request.recvBuffers ++
    emitBuffers ctx ⟨.response,.exchange,false⟩ true request.exchBuffers ++
    emitBuffers ctx ⟨.response,.recv,true⟩ true statics

structure RecordKey where
  requestId : UInt64
  phase : UInt8
  bufferDirection : UInt8
  bufferIndex : UInt8
  isPointerStatic : Bool
  deriving DecidableEq, Repr

namespace BinaryRecord

def key (r : BinaryRecord) : RecordKey :=
  ⟨r.header.requestId,r.header.phase,r.header.bufferDirection,r.header.bufferIndex,
    r.header.flags &&& binaryTraceFlagPointerStatic != 0⟩

def isFirst (r : BinaryRecord) : Bool := r.header.flags &&& binaryTraceFlagFirstChunk != 0

def isLast (r : BinaryRecord) : Bool := r.header.flags &&& binaryTraceFlagLastChunk != 0

def start (r : BinaryRecord) : Nat := r.header.payloadOffset.toNat

def size (r : BinaryRecord) : Nat := r.header.payloadSize.toNat

end BinaryRecord

def BufferKey.ofRequest (key : BufferKey) (requestId : UInt64) : RecordKey :=
  ⟨requestId,key.kind.phase.code,key.kind.direction.code,key.bufferIndex,key.kind.isPointerStatic⟩

/-- The records are those of the buffer, whole and in order. -/
structure Reassembles (records : List BinaryRecord) (buffer : Bytes) : Prop where
  contiguous : Contiguous BinaryRecord.start BinaryRecord.size 0 records buffer.length
  first : records.countP BinaryRecord.isFirst = 1
  last : records.countP BinaryRecord.isLast = 1
  total : ∀ r ∈ records, r.header.totalBufferSize.toNat = buffer.length
  accepted : ∀ r ∈ records, r.bytes.length ≤ maxQueuedBlobLength
  payload : records.flatMap BinaryRecord.payload = buffer

/-- The three flags do not disturb each other. -/
theorem flags_read (isFirst isLast isPointerStatic : Bool) :
    (chunkFlags isFirst isLast isPointerStatic &&& binaryTraceFlagFirstChunk != 0) = isFirst ∧
      (chunkFlags isFirst isLast isPointerStatic &&& binaryTraceFlagLastChunk != 0) = isLast ∧
      (chunkFlags isFirst isLast isPointerStatic &&& binaryTraceFlagPointerStatic != 0) = isPointerStatic := by
  revert isFirst isLast isPointerStatic
  decide

section Chunk

variable {ctx : CaptureContext} {key : BufferKey} {bytes : Bytes} {offset : Nat}

theorem chunkRecord_key : (chunkRecord ctx key bytes offset).key = key.ofRequest ctx.requestId := by
  have pointer := (flags_read (offset = 0)
    (offset + min binaryPayloadChunkBytes (bytes.length - offset) ≥ bytes.length) key.kind.isPointerStatic).2.2
  simp only [BinaryRecord.key,BufferKey.ofRequest,chunkRecord,pointer]

theorem chunkRecord_isFirst : (chunkRecord ctx key bytes offset).isFirst = decide (offset = 0) :=
  (flags_read _ _ _).1

theorem chunkRecord_isLast : (chunkRecord ctx key bytes offset).isLast =
    decide (bytes.length ≤ offset + min binaryPayloadChunkBytes (bytes.length - offset)) :=
  (flags_read _ _ _).2.1

/-- The sizes of a buffer below 2^32 fit their fields. -/
theorem chunkRecord_size : (chunkRecord ctx key bytes offset).size =
    min binaryPayloadChunkBytes (bytes.length - offset) := by
  have small : min binaryPayloadChunkBytes (bytes.length - offset) < 2 ^ 32 :=
    Nat.lt_of_le_of_lt (Nat.min_le_left _ _) (by decide)
  exact UInt32.toNat_ofNat_of_lt' small

theorem chunkRecord_start (inside : offset < bytes.length) (fits : bytes.length < 2 ^ 32) :
    (chunkRecord ctx key bytes offset).start = offset :=
  UInt32.toNat_ofNat_of_lt' (Nat.lt_trans inside fits)

theorem chunkRecord_total (fits : bytes.length < 2 ^ 32) :
    (chunkRecord ctx key bytes offset).header.totalBufferSize.toNat = bytes.length :=
  UInt32.toNat_ofNat_of_lt' fits

theorem chunkRecord_payload : (chunkRecord ctx key bytes offset).payload =
    (bytes.drop offset).take (chunkRecord ctx key bytes offset).size := by
  rw [chunkRecord_size]
  rfl

theorem chunkRecord_payload_length : (chunkRecord ctx key bytes offset).payload.length =
    (chunkRecord ctx key bytes offset).size := by
  rw [chunkRecord_payload,chunkRecord_size,List.length_take,List.length_drop]
  omega

/-- Header and payload fit a slot of the blob queue. -/
theorem chunkRecord_accepted : (chunkRecord ctx key bytes offset).bytes.length ≤ maxQueuedBlobLength := by
  have most : min binaryPayloadChunkBytes (bytes.length - offset) ≤ 1536 := Nat.min_le_left _ _
  rw [BinaryRecord.bytes,List.length_append,BinaryTraceRecordHeader.length_bytes,chunkRecord_payload_length,
    chunkRecord_size,sizeofBinaryTraceRecordHeader,maxQueuedBlobLength]
  omega

end Chunk

/-- The records of a buffer put it together again. -/
theorem emit_reassembles {ctx : CaptureContext} (key : BufferKey) {bytes : Bytes} (nonempty : bytes.length ≠ 0)
    (sink : getTraceSinkConfigForServiceName ctx.serviceName ≠ none) (fits : bytes.length < 2 ^ 32) :
    Reassembles (emitBinaryPayloadRecords ctx key bytes) bytes := by
  have positive : 0 < bytes.length := Nat.pos_of_ne_zero nonempty
  have inside : ∀ o ∈ offsets binaryPayloadChunkBytes bytes.length, o < bytes.length := offset_lt
  have start : ∀ o ∈ offsets binaryPayloadChunkBytes bytes.length, (chunkRecord ctx key bytes o).start = o :=
    fun o member => chunkRecord_start (inside o member) fits
  have contiguous : Contiguous BinaryRecord.start BinaryRecord.size 0
      ((offsets binaryPayloadChunkBytes bytes.length).map (chunkRecord ctx key bytes)) bytes.length :=
    (contiguous_offsets (by decide) bytes.length).map start fun o _ => chunkRecord_size
  have long : ∀ r ∈ (offsets binaryPayloadChunkBytes bytes.length).map (chunkRecord ctx key bytes), 0 < r.size := by
    intro r member
    obtain ⟨o,among,rfl⟩ := List.mem_map.mp member
    have here := inside o among
    rw [chunkRecord_size,binaryPayloadChunkBytes]
    omega
  rw [emitBinaryPayloadRecords,if_neg nonempty,if_neg sink]
  refine ⟨contiguous,?_,?_,?_,?_,?_⟩
  · rw [← contiguous.countP_first long positive]
    apply List.countP_congr
    intro r member
    obtain ⟨o,among,rfl⟩ := List.mem_map.mp member
    simp [chunkRecord_isFirst,start o among]
  · rw [← contiguous.countP_last long positive]
    apply List.countP_congr
    intro r member
    obtain ⟨o,among,rfl⟩ := List.mem_map.mp member
    simp only [chunkRecord_isLast,start o among,chunkRecord_size]
  · intro r member
    obtain ⟨o,_,rfl⟩ := List.mem_map.mp member
    exact chunkRecord_total fits
  · intro r member
    obtain ⟨o,_,rfl⟩ := List.mem_map.mp member
    exact chunkRecord_accepted
  · have cut : ∀ r ∈ (offsets binaryPayloadChunkBytes bytes.length).map (chunkRecord ctx key bytes),
        r.payload = (bytes.drop r.start).take r.size := by
      intro r member
      obtain ⟨o,among,rfl⟩ := List.mem_map.mp member
      rw [chunkRecord_payload,start o among]
    rw [contiguous.flatMap_data cut]
    simp

structure CapturedBuffer where
  key : BufferKey
  bytes : Bytes

/-- The buffers of a list of descriptors that are there and not empty, under their positions. -/
def capturedBuffers (kind : BufferKind) (descriptors : List Descriptor) : List CapturedBuffer :=
  descriptors.zipIdx.filterMap fun (descriptor,i) =>
    if descriptor.address = 0 ∨ descriptor.bytes.length = 0 then none else some ⟨⟨kind,.ofNat i⟩,descriptor.bytes⟩

/-- The lists of descriptors whose payload is captured: receive buffers only once they are filled. -/
def messageLists (request : RequestBuffers) (statics : List Descriptor) : List (BufferKind × List Descriptor) :=
  [(⟨.request,.send,true⟩,request.sendStatics),(⟨.request,.send,false⟩,request.sendBuffers),
    (⟨.request,.exchange,false⟩,request.exchBuffers),(⟨.response,.recv,false⟩,request.recvBuffers),
    (⟨.response,.exchange,false⟩,request.exchBuffers),(⟨.response,.recv,true⟩,statics)]

def messageBuffers (ctx : CaptureContext) (request : RequestBuffers) (statics : List Descriptor) : List CapturedBuffer :=
  if getTraceSinkConfigForServiceName ctx.serviceName = none then []
  else (messageLists request statics).flatMap fun l => capturedBuffers l.1 l.2

theorem emitBuffers_eq (ctx : CaptureContext) (kind : BufferKind) (descriptors : List Descriptor) :
    emitBuffers ctx kind true descriptors =
      (capturedBuffers kind descriptors).flatMap fun b => emitBinaryPayloadRecords ctx b.key b.bytes := by
  rw [emitBuffers,capturedBuffers]
  induction descriptors.zipIdx with
  | nil => rfl
  | cons indexed rest ih =>
    obtain ⟨descriptor,i⟩ := indexed
    rw [List.flatMap_cons,List.filterMap_cons,ih]
    dsimp only
    rw [emitBufferRecord]
    by_cases absent : descriptor.address = 0 ∨ descriptor.bytes.length = 0
    · rw [if_pos (.inr absent),if_pos absent,List.nil_append]
    · have there : ¬(!true ∨ descriptor.address = 0 ∨ descriptor.bytes.length = 0) := by simpa using absent
      rw [if_neg there,if_neg absent,List.flatMap_cons]

theorem emitBuffers_skipped (ctx : CaptureContext) (kind : BufferKind) (descriptors : List Descriptor) :
    emitBuffers ctx kind false descriptors = [] :=
  List.flatMap_eq_nil_iff.mpr fun _ _ => if_pos (.inl rfl)

theorem capturedBuffers_kind {kind : BufferKind} {descriptors : List Descriptor} :
    ∀ b ∈ capturedBuffers kind descriptors, b.key.kind = kind := by
  intro b member
  obtain ⟨⟨descriptor,i⟩,_,some⟩ := List.mem_filterMap.mp member
  dsimp only at some
  split at some
  · cases some
  · rw [← Option.some.inj some]

theorem capturedBuffers_bytes {kind : BufferKind} {descriptors : List Descriptor} :
    ∀ b ∈ capturedBuffers kind descriptors, b.bytes.length ≠ 0 ∧ ∃ d ∈ descriptors, b.bytes = d.bytes := by
  intro b member
  obtain ⟨⟨descriptor,i⟩,among,some⟩ := List.mem_filterMap.mp member
  dsimp only at some
  split at some
  · cases some
  · rename_i there
    rw [not_or] at there
    rw [← Option.some.inj some]
    exact ⟨there.2,descriptor,List.fst_mem_of_mem_zipIdx among,rfl⟩

/-- As long as positions fit a byte, no two descriptors of a list share a key. -/
theorem capturedBuffers_nodup {kind : BufferKind} {descriptors : List Descriptor}
    (short : descriptors.length ≤ 256) : ((capturedBuffers kind descriptors).map CapturedBuffer.key).Nodup := by
  have positions : ((capturedBuffers kind descriptors).map CapturedBuffer.key).Sublist
      (descriptors.zipIdx.map fun (_,i) => (⟨kind,.ofNat i⟩ : BufferKey)) := by
    rw [capturedBuffers]
    induction descriptors.zipIdx with
    | nil => exact List.Sublist.refl []
    | cons indexed rest ih =>
      rw [List.filterMap_cons,List.map_cons]
      dsimp only
      split
      · exact ih.cons _
      · rename_i some
        split at some
        · cases some
        · rw [← Option.some.inj some]
          exact ih.cons_cons _
  refine positions.nodup ?_
  have indices : (descriptors.zipIdx.map fun (_,i) => (⟨kind,.ofNat i⟩ : BufferKey)) =
      (List.range' 0 descriptors.length).map fun i => ⟨kind,.ofNat i⟩ := by
    rw [← List.zipIdx_map_snd 0 descriptors,List.map_map]
    rfl
  rw [indices]
  refine List.Nodup.map_on ?_ List.nodup_range'
  intro i inside j inside' same
  have codes : (UInt8.ofNat i).toNat = (UInt8.ofNat j).toNat := congrArg (fun k => k.bufferIndex.toNat) same
  have small := List.mem_range'_1.mp inside
  have small' := List.mem_range'_1.mp inside'
  simp only [UInt8.toNat_ofNat'] at codes
  omega

/-- No two captured buffers of a message share a key. -/
theorem messageBuffers_nodup {ctx : CaptureContext} {request : RequestBuffers} {statics : List Descriptor}
    (short : ∀ l ∈ messageLists request statics, l.2.length ≤ 256) :
    ((messageBuffers ctx request statics).map CapturedBuffer.key).Nodup := by
  rw [messageBuffers]
  split
  · exact List.nodup_nil
  rw [List.map_flatMap,List.nodup_flatMap]
  refine ⟨fun l member => capturedBuffers_nodup (short l member),?_⟩
  have kinds : ((messageLists request statics).map fun l => l.1).Pairwise (· ≠ ·) := by
    simp [messageLists]
  refine (List.pairwise_map.mp kinds).imp ?_
  intro first second different
  refine List.disjoint_left.mpr fun key inFirst inSecond => ?_
  obtain ⟨b,fromFirst,rfl⟩ := List.mem_map.mp inFirst
  obtain ⟨b',fromSecond,same⟩ := List.mem_map.mp inSecond
  have kind := capturedBuffers_kind b fromFirst
  have kind' := capturedBuffers_kind b' fromSecond
  rw [same] at kind'
  exact different (kind.symm.trans kind')

theorem ofRequest_injective (requestId : UInt64) : Function.Injective fun key : BufferKey => key.ofRequest requestId := by
  rintro ⟨⟨phase,direction,pointer⟩,index⟩ ⟨⟨phase',direction',pointer'⟩,index'⟩ same
  simp only [BufferKey.ofRequest,RecordKey.mk.injEq] at same
  obtain ⟨_,phases,directions,rfl,rfl⟩ := same
  have samePhase : phase = phase' := by
    revert phases
    cases phase <;> cases phase' <;> decide
  have sameDirection : direction = direction' := by
    revert directions
    cases direction <;> cases direction' <;> decide
  rw [samePhase,sameDirection]

section Message

variable {ctx : CaptureContext} {request : RequestBuffers} {statics : List Descriptor} {responseNs : UInt64}

def messageRecords (ctx : CaptureContext) (responseNs : UInt64) (request : RequestBuffers)
    (statics : List Descriptor) : List BinaryRecord :=
  logRequestBufferRecords ctx request ++
    logResponseBufferRecords { ctx with timestampNs := responseNs } request statics

/-- The records of a buffer; those of a response have its time. -/
def CapturedBuffer.records (ctx : CaptureContext) (responseNs : UInt64) (b : CapturedBuffer) : List BinaryRecord :=
  match b.key.kind.phase with
  | .request => emitBinaryPayloadRecords ctx b.key b.bytes
  | .response => emitBinaryPayloadRecords { ctx with timestampNs := responseNs } b.key b.bytes

theorem emitBuffers_records {kind : BufferKind} {descriptors : List Descriptor} :
    emitBuffers (match kind.phase with
      | .request => ctx
      | .response => { ctx with timestampNs := responseNs }) kind true descriptors =
      (capturedBuffers kind descriptors).flatMap (CapturedBuffer.records ctx responseNs) := by
  rw [emitBuffers_eq]
  apply List.flatMap_congr
  intro b member
  rw [CapturedBuffer.records,capturedBuffers_kind b member]
  cases kind.phase <;> rfl

theorem records_without_sink (noSink : getTraceSinkConfigForServiceName ctx.serviceName = none) (b : CapturedBuffer) :
    b.records ctx responseNs = [] := by
  unfold CapturedBuffer.records emitBinaryPayloadRecords
  split
  all_goals
    split
    · rfl
    · rfl

/-- The records come buffer by buffer. -/
theorem messageRecords_eq : messageRecords ctx responseNs request statics =
    (messageBuffers ctx request statics).flatMap (CapturedBuffer.records ctx responseNs) := by
  have all : messageRecords ctx responseNs request statics =
      ((messageLists request statics).flatMap fun l => capturedBuffers l.1 l.2).flatMap
        (CapturedBuffer.records ctx responseNs) := by
    rw [messageRecords,logRequestBufferRecords,logResponseBufferRecords,emitBuffers_skipped]
    have sendStatics := @emitBuffers_records ctx responseNs ⟨.request,.send,true⟩ request.sendStatics
    have sendBuffers := @emitBuffers_records ctx responseNs ⟨.request,.send,false⟩ request.sendBuffers
    have exchanged := @emitBuffers_records ctx responseNs ⟨.request,.exchange,false⟩ request.exchBuffers
    have received := @emitBuffers_records ctx responseNs ⟨.response,.recv,false⟩ request.recvBuffers
    have returned := @emitBuffers_records ctx responseNs ⟨.response,.exchange,false⟩ request.exchBuffers
    have answered := @emitBuffers_records ctx responseNs ⟨.response,.recv,true⟩ statics
    dsimp only at sendStatics sendBuffers exchanged received returned answered
    rw [sendStatics,sendBuffers,exchanged,received,returned,answered]
    simp only [messageLists,List.flatMap_cons,List.flatMap_nil,List.flatMap_append,List.append_nil,
      List.append_assoc]
  rw [all,messageBuffers]
  split
  · rename_i noSink
    exact List.flatMap_eq_nil_iff.mpr fun b _ => records_without_sink noSink b
  · rfl

theorem records_key (b : CapturedBuffer) : ∀ r ∈ b.records ctx responseNs, r.key = b.key.ofRequest ctx.requestId := by
  intro r member
  unfold CapturedBuffer.records emitBinaryPayloadRecords at member
  split at member
  all_goals
    split at member
    · cases member
    split at member
    · cases member
    obtain ⟨o,_,rfl⟩ := List.mem_map.mp member
    exact chunkRecord_key

theorem records_reassemble {b : CapturedBuffer} (nonempty : b.bytes.length ≠ 0)
    (sink : getTraceSinkConfigForServiceName ctx.serviceName ≠ none) (fits : b.bytes.length < 2 ^ 32) :
    Reassembles (b.records ctx responseNs) b.bytes := by
  unfold CapturedBuffer.records
  split
  · exact emit_reassembles b.key nonempty sink fits
  · exact emit_reassembles b.key nonempty sink fits

/-- The records of a message, grouped by their keys, are its captured buffers. -/
theorem capture_reassembles (short : ∀ l ∈ messageLists request statics, l.2.length ≤ 15)
    (fits : ∀ l ∈ messageLists request statics, ∀ d ∈ l.2, d.bytes.length < 2 ^ 32) :
    ((messageBuffers ctx request statics).map fun b => b.key.ofRequest ctx.requestId).Nodup ∧
      (∀ r ∈ messageRecords ctx responseNs request statics, ∃ b ∈ messageBuffers ctx request statics,
        r.key = b.key.ofRequest ctx.requestId) ∧
      ∀ b ∈ messageBuffers ctx request statics,
        Reassembles ((messageRecords ctx responseNs request statics).filter fun r =>
          r.key == b.key.ofRequest ctx.requestId) b.bytes := by
  have distinct : ((messageBuffers ctx request statics).map fun b => b.key.ofRequest ctx.requestId).Nodup := by
    have keys := @messageBuffers_nodup ctx request statics fun l member => Nat.le_trans (short l member) (by decide)
    have mapped := keys.map (ofRequest_injective ctx.requestId)
    rwa [List.map_map] at mapped
  refine ⟨distinct,?_,?_⟩
  · intro r member
    rw [messageRecords_eq] at member
    obtain ⟨b,among,inRecords⟩ := List.mem_flatMap.mp member
    exact ⟨b,among,records_key b r inRecords⟩
  · intro b among
    rw [messageRecords_eq,filter_flatMap_key distinct (fun g _ => records_key g) among]
    rw [messageBuffers] at among
    split at among
    · cases among
    rename_i sink
    obtain ⟨l,inLists,captured⟩ := List.mem_flatMap.mp among
    obtain ⟨nonempty,d,inList,same⟩ := capturedBuffers_bytes b captured
    apply records_reassemble nonempty sink
    rw [same]
    exact fits l inLists d inList

end Message

def sendTwo : CaptureContext := ⟨7,"bsd:u".toList,100,0x0100,80,1,0,5,11⟩

def sendTwoBuffers : RequestBuffers := ⟨[⟨0x1000,[1,2,3]⟩],[⟨0x2000,[4,5]⟩],[⟨0x3000,[6]⟩],[]⟩

theorem capture_reassembles_sendTwo :
    (messageBuffers sendTwo sendTwoBuffers []).length = 3 ∧ (messageRecords sendTwo 200 sendTwoBuffers []).length = 3 ∧
      ((messageBuffers sendTwo sendTwoBuffers []).map fun b => b.key.ofRequest 5).Nodup ∧
      (∀ r ∈ messageRecords sendTwo 200 sendTwoBuffers [], ∃ b ∈ messageBuffers sendTwo sendTwoBuffers [],
        r.key = b.key.ofRequest 5) ∧
      ∀ b ∈ messageBuffers sendTwo sendTwoBuffers [],
        Reassembles ((messageRecords sendTwo 200 sendTwoBuffers []).filter fun r => r.key == b.key.ofRequest 5)
          b.bytes :=
  ⟨by decide +kernel,by decide +kernel,@capture_reassembles sendTwo sendTwoBuffers [] 200 (by decide) (by decide)⟩

end NxReverse.Probe
