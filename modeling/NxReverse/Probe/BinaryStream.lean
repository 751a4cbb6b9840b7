import NxReverse.Probe.BinaryCapture

/-! Reading a file of binary records after the queue has dropped some of them. Each record carries its
sizes, so the rest is found again, and the offsets tell whether a buffer is complete. -/
namespace NxReverse.Probe

open Text Words Chunks

namespace BinaryTraceRecordHeader

def widths : List Nat := [4,2,2,8,8,8,8,8,8,4,2,2,1,1,1,1,4,4,4]

def read (bytes : Bytes) : BinaryTraceRecordHeader :=
  let field (i : Nat) : Nat := (readFields widths bytes).getD i 0
  { magic := .ofNat (field 0)
    version := .ofNat (field 1)
    headerSize := .ofNat (field 2)
    runTick := .ofNat (field 3)
    timestampNs := .ofNat (field 4)
    requestId := .ofNat (field 5)
    sessionId := .ofNat (field 6)
    programId := .ofNat (field 7)
    processId := .ofNat (field 8)
    objectId := .ofNat (field 9)
    serviceCode := .ofNat (field 10)
    commandId := .ofNat (field 11)
    phase := .ofNat (field 12)
    bufferDirection := .ofNat (field 13)
    bufferIndex := .ofNat (field 14)
    flags := .ofNat (field 15)
    payloadOffset := .ofNat (field 16)
    payloadSize := .ofNat (field 17)
    totalBufferSize := .ofNat (field 18) }

theorem fields_fit (h : BinaryTraceRecordHeader) : ∀ f ∈ h.fields, f.2 < 256 ^ f.1 := by
  simp only [fields,List.forall_mem_cons]
  have w1 : ∀ v : UInt8, v.toNat < 256 ^ 1 := fun v => v.toNat_lt
  have w2 : ∀ v : UInt16, v.toNat < 256 ^ 2 := fun v => v.toNat_lt
  have w4 : ∀ v : UInt32, v.toNat < 256 ^ 4 := fun v => v.toNat_lt
  have w8 : ∀ v : UInt64, v.toNat < 256 ^ 8 := fun v => v.toNat_lt
  exact ⟨w4 _,w2 _,w2 _,w8 _,w8 _,w8 _,w8 _,w8 _,w8 _,w4 _,w2 _,w2 _,w1 _,w1 _,w1 _,w1 _,w4 _,w4 _,w4 _,List.forall_mem_nil _⟩

theorem read_bytes (h : BinaryTraceRecordHeader) (rest : Bytes) : read (h.bytes ++ rest) = h := by
  have back : readFields widths (h.bytes ++ rest) = h.fields.map fun f => f.2 := readFields_writeFields h.fields_fit rest
  rw [read,back]
  simp [fields]

end BinaryTraceRecordHeader

/-- One step of a reader that moves on by the sizes in the header. -/
def readRecord (bytes : Bytes) : Option (BinaryRecord × Bytes) :=
  let header := BinaryTraceRecordHeader.read bytes
  let headerSize := header.headerSize.toNat
  let payloadSize := header.payloadSize.toNat
  if bytes.length < sizeofBinaryTraceRecordHeader ∨ headerSize < sizeofBinaryTraceRecordHeader ∨
    bytes.length < headerSize + payloadSize
  then none
  else some (⟨header,slice headerSize payloadSize bytes⟩,bytes.drop (headerSize + payloadSize))

def readRecords (bytes : Bytes) : Option (List BinaryRecord) := readAll readRecord bytes.length bytes

structure BinaryRecord.Sized (r : BinaryRecord) : Prop where
  header : r.header.headerSize.toNat = sizeofBinaryTraceRecordHeader
  payload : r.header.payloadSize.toNat = r.payload.length

theorem readRecord_bytes {r : BinaryRecord} (sized : r.Sized) (rest : Bytes) :
    readRecord (r.bytes ++ rest) = some (r,rest) := by
  have headerLength := r.header.length_bytes
  have header : BinaryTraceRecordHeader.read (r.bytes ++ rest) = r.header := by
    rw [BinaryRecord.bytes,List.append_assoc]
    exact r.header.read_bytes _
  have length : (r.bytes ++ rest).length = sizeofBinaryTraceRecordHeader + r.payload.length + rest.length := by
    rw [BinaryRecord.bytes,List.length_append,List.length_append,headerLength]
  have payload : slice sizeofBinaryTraceRecordHeader r.payload.length (r.bytes ++ rest) = r.payload := by
    rw [BinaryRecord.bytes,List.append_assoc,← Nat.add_zero sizeofBinaryTraceRecordHeader,slice_append headerLength]
    exact slice_here rfl rest
  have behind : (r.bytes ++ rest).drop (sizeofBinaryTraceRecordHeader + r.payload.length) = rest := by
    apply List.drop_left'
    rw [BinaryRecord.bytes,List.length_append,headerLength]
  unfold readRecord
  simp only [header,sized.header,sized.payload,payload,behind]
  rw [if_neg]
  rw [length]
  omega

/-- Whatever records are left, the reader finds them all. -/
theorem readRecords_flatMap {records : List BinaryRecord} (sized : ∀ r ∈ records, r.Sized) :
    readRecords (records.flatMap BinaryRecord.bytes) = some records := by
  have long : ∀ r : BinaryRecord, 0 < r.bytes.length := by
    intro r
    rw [BinaryRecord.bytes,List.length_append,r.header.length_bytes,sizeofBinaryTraceRecordHeader]
    omega
  apply readAll_flatMap
  · exact fun r member => readRecord_bytes (sized r member)
  · exact fun r _ => List.ne_nil_of_length_pos (long r)
  · induction records with
    | nil => exact Nat.le_refl 0
    | cons r records ih =>
      have later := ih fun other member => sized other (List.mem_cons_of_mem r member)
      have here := long r
      rw [List.flatMap_cons,List.length_append,List.length_cons]
      omega

structure Capture where
  ctx : CaptureContext
  key : BufferKey
  bytes : Bytes

namespace Capture

def records (c : Capture) : List BinaryRecord := emitBinaryPayloadRecords c.ctx c.key c.bytes

def recordKey (c : Capture) : RecordKey := c.key.ofRequest c.ctx.requestId

end Capture

/-- Every field of the record holds the captured value, and its payload is the part of the buffer it
names. -/
structure BinaryRecord.CapturedFrom (r : BinaryRecord) (c : Capture) : Prop where
  magic : r.header.magic = binaryTraceMagic
  version : r.header.version = 1
  headerSize : r.header.headerSize.toNat = sizeofBinaryTraceRecordHeader
  runTick : r.header.runTick = c.ctx.runTick
  timestampNs : r.header.timestampNs = c.ctx.timestampNs
  requestId : r.header.requestId = c.ctx.requestId
  sessionId : r.header.sessionId = c.ctx.sessionId
  programId : r.header.programId = c.ctx.programId
  processId : r.header.processId = c.ctx.processId
  objectId : r.header.objectId = c.ctx.objectId
  serviceCode : r.header.serviceCode = getTraceServiceCode c.ctx.serviceName
  commandId : r.header.commandId.toNat = c.ctx.commandId.toNat
  phase : r.header.phase = c.key.kind.phase.code
  bufferDirection : r.header.bufferDirection = c.key.kind.direction.code
  bufferIndex : r.header.bufferIndex = c.key.bufferIndex
  isFirst : r.isFirst = decide (r.start = 0)
  isLast : r.isLast = decide (c.bytes.length ≤ r.start + r.size)
  isPointerStatic : r.key.isPointerStatic = c.key.kind.isPointerStatic
  total : r.header.totalBufferSize.toNat = c.bytes.length
  payload : r.payload = slice r.start r.size c.bytes

/-- The offsets of the records lead from 0 to the total size that they name. -/
def isComplete (records : List BinaryRecord) : Bool :=
  match records with
  | [] => false
  | r :: _ => decide (Contiguous BinaryRecord.start BinaryRecord.size 0 records r.header.totalBufferSize.toNat)

section Stream

variable {c : Capture}

theorem Capture.mem_records {r : BinaryRecord} (member : r ∈ c.records) :
    ∃ o < c.bytes.length, r = chunkRecord c.ctx c.key c.bytes o := by
  unfold Capture.records emitBinaryPayloadRecords at member
  split at member
  · cases member
  split at member
  · cases member
  obtain ⟨o,among,rfl⟩ := List.mem_map.mp member
  exact ⟨o,offset_lt o among,rfl⟩

theorem Capture.sized {r : BinaryRecord} (member : r ∈ c.records) : r.Sized := by
  obtain ⟨o,_,rfl⟩ := c.mem_records member
  exact ⟨rfl,chunkRecord_payload_length.symm⟩

theorem Capture.key_eq {r : BinaryRecord} (member : r ∈ c.records) : r.key = c.recordKey := by
  obtain ⟨o,_,rfl⟩ := c.mem_records member
  exact chunkRecord_key

theorem Capture.capturedFrom {r : BinaryRecord} (command : c.ctx.commandId.toNat < 2 ^ 16)
    (fits : c.bytes.length < 2 ^ 32) (member : r ∈ c.records) : r.CapturedFrom c := by
  have keyed := c.key_eq member
  obtain ⟨o,inside,rfl⟩ := c.mem_records member
  have start := @chunkRecord_start c.ctx c.key c.bytes o inside fits
  exact {
    magic := rfl
    version := rfl
    headerSize := rfl
    runTick := rfl
    timestampNs := rfl
    requestId := rfl
    sessionId := rfl
    programId := rfl
    processId := rfl
    objectId := rfl
    serviceCode := rfl
    commandId := UInt16.toNat_ofNat_of_lt' command
    phase := rfl
    bufferDirection := rfl
    bufferIndex := rfl
    isFirst := by rw [chunkRecord_isFirst,start]
    isLast := by rw [chunkRecord_isLast,start,chunkRecord_size]
    isPointerStatic := congrArg RecordKey.isPointerStatic keyed
    total := chunkRecord_total fits
    payload := by rw [start,chunkRecord_payload]; rfl }

/-- Among the records of one buffer the reader sees whether one is missing. -/
theorem complete_iff {kept : List BinaryRecord} (fits : c.bytes.length < 2 ^ 32) (sub : kept.Sublist c.records)
    (nonempty : kept ≠ []) : isComplete kept = true ↔ kept = c.records := by
  obtain ⟨first,others,rfl⟩ := List.exists_cons_of_ne_nil nonempty
  have among : ∀ r ∈ first :: others, r ∈ c.records := fun r member => sub.subset member
  have total : first.header.totalBufferSize.toNat = c.bytes.length := by
    obtain ⟨o,_,rfl⟩ := c.mem_records (among first List.mem_cons_self)
    exact chunkRecord_total fits
  have some : c.bytes.length ≠ 0 := by
    obtain ⟨o,inside,_⟩ := c.mem_records (among first List.mem_cons_self)
    omega
  have sink : getTraceSinkConfigForServiceName c.ctx.serviceName ≠ none := by
    intro noSink
    have empty : c.records = [] := by rw [Capture.records,emitBinaryPayloadRecords,if_neg some,if_pos noSink]
    rw [empty] at sub
    cases sub
  have whole := (emit_reassembles c.key some sink fits).contiguous
  have long : ∀ r ∈ c.records, 0 < r.size := by
    intro r member
    obtain ⟨o,inside,rfl⟩ := c.mem_records member
    rw [chunkRecord_size,binaryPayloadChunkBytes]
    omega
  rw [isComplete,decide_eq_true_eq,total]
  constructor
  · exact fun covers => whole.eq_of_sublist long sub covers
  · intro all
    rw [all]
    exact whole

end Stream

/-- A reader of the surviving records finds each of them with the values that were captured, and sees
of each buffer that has left a record whether all of its records are there. -/
structure Decodable (captures : List Capture) (emitted survivors : List BinaryRecord) : Prop where
  recovered : readRecords (survivors.flatMap BinaryRecord.bytes) = some survivors
  captured : ∀ r ∈ survivors, ∃ c ∈ captures, r.key = c.recordKey ∧ r.CapturedFrom c
  detected : ∀ c ∈ captures, (survivors.filter fun r => r.key == c.recordKey) ≠ [] →
    (isComplete (survivors.filter fun r => r.key == c.recordKey) = true ↔
      (survivors.filter fun r => r.key == c.recordKey) = emitted.filter fun r => r.key == c.recordKey)

theorem emitted_filter {captures : List Capture} {emitted : List BinaryRecord}
    (keys : (captures.map Capture.recordKey).Nodup)
    (interleaved : Interleaves (captures.map Capture.records) emitted) {c : Capture} (among : c ∈ captures) :
    (emitted.filter fun r => r.key == c.recordKey) = c.records := by
  obtain ⟨j,inside,here⟩ := List.getElem_of_mem among
  apply interleaved.filter (by rw [List.getElem?_map,List.getElem?_eq_getElem inside,here]; rfl)
  · exact fun r member => beq_iff_eq.mpr (c.key_eq member)
  · intro i apart list atIndex r member
    obtain ⟨other,atOther,rfl⟩ := Option.map_eq_some_iff.mp ((List.getElem?_map ..).symm.trans atIndex)
    apply Bool.eq_false_iff.mpr
    intro same
    have shared : other.recordKey = c.recordKey := (other.key_eq member).symm.trans (beq_iff_eq.mp same)
    have keyed : (captures.map Capture.recordKey)[j]? = (captures.map Capture.recordKey)[i]? := by
      rw [List.getElem?_map,List.getElem?_map,atOther,List.getElem?_eq_getElem inside,here]
      exact congrArg some shared.symm
    exact apart ((List.getElem?_inj (by simpa using inside) keys).mp keyed).symm

/-- The stream of any buffers in any interleaving stays decodable whatever the queue drops of it. -/
theorem stream_decodable {captures : List Capture} {emitted survivors : List BinaryRecord}
    (keys : (captures.map Capture.recordKey).Nodup) (commands : ∀ c ∈ captures, c.ctx.commandId.toNat < 2 ^ 16)
    (interleaved : Interleaves (captures.map Capture.records) emitted) (dropped : survivors.Sublist emitted)
    (sizes : ∀ c ∈ captures, c.bytes.length < 2 ^ 32) : Decodable captures emitted survivors := by
  have origin : ∀ r ∈ survivors, ∃ c ∈ captures, r ∈ c.records := by
    intro r member
    obtain ⟨list,inLists,inList⟩ := interleaved.mem r (dropped.subset member)
    obtain ⟨c,among,rfl⟩ := List.mem_map.mp inLists
    exact ⟨c,among,inList⟩
  refine ⟨?_,?_,?_⟩
  · apply readRecords_flatMap
    intro r member
    obtain ⟨c,_,inRecords⟩ := origin r member
    exact c.sized inRecords
  · intro r member
    obtain ⟨c,among,inRecords⟩ := origin r member
    exact ⟨c,among,c.key_eq inRecords,c.capturedFrom (commands c among) (sizes c among) inRecords⟩
  · intro c among left
    have own := emitted_filter keys interleaved among
    have sub : (survivors.filter fun r => r.key == c.recordKey).Sublist c.records := by
      rw [← own]
      exact dropped.filter _
    rw [own]
    exact complete_iff (sizes c among) sub left

/-- A buffer of two chunks whose second record is lost. -/
def twoChunks : Capture := ⟨sendTwo,⟨⟨.request,.send,false⟩,0⟩,List.replicate 2000 9⟩

theorem stream_decodable_twoChunks : Decodable [twoChunks] twoChunks.records (twoChunks.records.take 1) :=
  stream_decodable (by simp) (by decide) (.single _) (List.take_sublist _ _) (by decide +kernel)

/-- The total size of a buffer of 2^32 bytes does not fit its field. -/
theorem stream_not_decodable :
    ¬∀ (captures : List Capture) (emitted survivors : List BinaryRecord),
      (captures.map Capture.recordKey).Nodup → (∀ c ∈ captures, c.ctx.commandId.toNat < 2 ^ 16) →
      Interleaves (captures.map Capture.records) emitted → survivors.Sublist emitted →
      Decodable captures emitted survivors := by
  intro decodable
  obtain ⟨bytes,length⟩ : ∃ bytes : Bytes, bytes.length = 2 ^ 32 := ⟨List.replicate _ 0,List.length_replicate⟩
  let c : Capture := ⟨sendTwo,⟨⟨.request,.send,false⟩,0⟩,bytes⟩
  have decoded := decodable [c] c.records c.records (by simp) (by simp [c,sendTwo]) (.single _) (List.Sublist.refl _)
  have first : chunkRecord sendTwo c.key bytes 0 ∈ c.records := by
    have sink : getTraceSinkConfigForServiceName sendTwo.serviceName ≠ none := by decide
    obtain ⟨size,long⟩ : ∃ size, bytes.length = size + 1 := ⟨2 ^ 32 - 1,length⟩
    have emitted : c.records = (offsets binaryPayloadChunkBytes (size + 1)).map (chunkRecord sendTwo c.key bytes) := by
      change (if bytes.length = 0 then _ else _) = _
      rw [long,if_neg (Nat.succ_ne_zero size),if_neg sink]
    rw [emitted]
    apply List.mem_map_of_mem
    rw [offsets,offsetsFrom,if_pos (Nat.succ_pos size)]
    exact List.mem_cons_self
  obtain ⟨other,among,_,captured⟩ := decoded.captured _ first
  obtain rfl := List.mem_singleton.mp among
  have total : (UInt32.ofNat bytes.length).toNat = bytes.length := captured.total
  rw [UInt32.toNat_ofNat',length] at total
  exact absurd total (by decide)

end NxReverse.Probe
