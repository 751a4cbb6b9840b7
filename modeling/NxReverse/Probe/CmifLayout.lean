import NxReverse.Probe.Cmif

/-! How CMIF headers and raw data lie in a message. A layout fixes the bytes of the raw
data and their place only; the HIPC parse is any function. -/
namespace NxReverse.Probe

open Text Words

def CmifInHeader.bytes (h : CmifInHeader) : Bytes :=
  u32Bytes h.magic ++ (u32Bytes h.version ++ (u32Bytes h.commandId ++ u32Bytes h.token))

def CmifOutHeader.bytes (h : CmifOutHeader) : Bytes :=
  u32Bytes h.magic ++ (u32Bytes h.version ++ (u32Bytes h.result ++ u32Bytes h.token))

def CmifDomainInHeader.bytes (h : CmifDomainInHeader) : Bytes :=
  u8Bytes h.type ++ (u8Bytes h.numInObjects ++ (u16Bytes h.dataSize ++ (u32Bytes h.objectId ++
    (u32Bytes h.padding ++ u32Bytes h.token))))

@[simp] theorem CmifInHeader.length_bytes (h : CmifInHeader) : h.bytes.length = headerSize := by
  simp [CmifInHeader.bytes,headerSize]

@[simp] theorem CmifOutHeader.length_bytes (h : CmifOutHeader) : h.bytes.length = headerSize := by
  simp [CmifOutHeader.bytes,headerSize]

@[simp] theorem CmifDomainInHeader.length_bytes (h : CmifDomainInHeader) :
    h.bytes.length = headerSize := by
  simp [CmifDomainInHeader.bytes,headerSize]

/-- Four words in a row are read back at their offsets. -/
theorem u32At_four (a b c d : UInt32) (rest : Bytes) :
    let bytes := u32Bytes a ++ (u32Bytes b ++ (u32Bytes c ++ u32Bytes d)) ++ rest
    u32At 0 bytes = a ∧ u32At 4 bytes = b ∧ u32At 8 bytes = c ∧ u32At 12 bytes = d := by
  simp only [List.append_assoc]
  have second := u32At_append (length_u32Bytes a)
  have third := u32At_append (length_u32Bytes b)
  have fourth := u32At_append (length_u32Bytes c)
  refine ⟨u32At_here a _,?_,?_,?_⟩
  · exact (second 0 _).trans (u32At_here b _)
  · exact (second 4 _).trans ((third 0 _).trans (u32At_here c _))
  · exact (second 8 _).trans ((third 4 _).trans ((fourth 0 _).trans (u32At_here d _)))

@[simp] theorem CmifInHeader.read_bytes (h : CmifInHeader) (rest : Bytes) :
    CmifInHeader.read (h.bytes ++ rest) = h := by
  obtain ⟨magic,version,commandId,token⟩ := u32At_four h.magic h.version h.commandId h.token rest
  rw [CmifInHeader.read,CmifInHeader.bytes,magic,version,commandId,token]

@[simp] theorem CmifOutHeader.read_bytes (h : CmifOutHeader) (rest : Bytes) :
    CmifOutHeader.read (h.bytes ++ rest) = h := by
  obtain ⟨magic,version,result,token⟩ := u32At_four h.magic h.version h.result h.token rest
  rw [CmifOutHeader.read,CmifOutHeader.bytes,magic,version,result,token]

@[simp] theorem CmifDomainInHeader.read_bytes (h : CmifDomainInHeader) (rest : Bytes) :
    CmifDomainInHeader.read (h.bytes ++ rest) = h := by
  obtain ⟨type,numInObjects,dataSize,objectId,padding,token⟩ := h
  have first := length_u8Bytes type
  have second := length_u8Bytes numInObjects
  have third := length_u16Bytes dataSize
  have fourth := length_u32Bytes objectId
  have fifth := length_u32Bytes padding
  simp only [CmifDomainInHeader.read,CmifDomainInHeader.bytes,List.append_assoc,CmifDomainInHeader.mk.injEq]
  refine ⟨u8At_here type _,?_,?_,?_,?_,?_⟩
  · exact (u8At_append first 0 _).trans (u8At_here numInObjects _)
  · exact (u16At_append first 1 _).trans ((u16At_append second 0 _).trans (u16At_here dataSize _))
  · exact (u32At_append first 3 _).trans ((u32At_append second 2 _).trans
      ((u32At_append third 0 _).trans (u32At_here objectId _)))
  · exact (u32At_append first 7 _).trans ((u32At_append second 6 _).trans
      ((u32At_append third 4 _).trans ((u32At_append fourth 0 _).trans (u32At_here padding _))))
  · exact (u32At_append first 11 _).trans ((u32At_append second 10 _).trans
      ((u32At_append third 8 _).trans ((u32At_append fourth 4 _).trans
        ((u32At_append fifth 0 _).trans (u32At_here token _)))))

/-- The first word of a domain header carries its type in the low byte. -/
theorem CmifDomainInHeader.first_word (h : CmifDomainInHeader) (rest : Bytes) :
    (u32At 0 (h.bytes ++ rest)).toNat % 256 = h.type.toNat := by
  have front : slice 0 4 (h.bytes ++ rest) =
      UInt8.ofNat h.type.toNat :: (u8Bytes h.numInObjects ++ u16Bytes h.dataSize) := by
    simp [slice,CmifDomainInHeader.bytes,u8Bytes,u16Bytes,bytesLE]
  rw [u32At,front,UInt32.toNat_ofNat',Nat.mod_mod_of_dvd _ (by decide : 256 ∣ 2 ^ 32),readLE_mod]
  simp

/-- Reading a header and writing it again gives the bytes it was read from. -/
theorem CmifOutHeader.bytes_read (raw : Bytes) (long : headerSize ≤ raw.length) :
    (CmifOutHeader.read raw).bytes ++ raw.drop headerSize = raw := by
  unfold headerSize at long ⊢
  simp only [CmifOutHeader.read,CmifOutHeader.bytes]
  rw [u32Bytes_u32At (by omega),u32Bytes_u32At (by omega),u32Bytes_u32At (by omega),
    u32Bytes_u32At (by omega)]
  have split : ∀ offset, slice offset 4 raw ++ raw.drop (offset + 4) = raw.drop offset := by
    intro offset
    rw [slice,← List.drop_drop,List.take_append_drop]
  simp only [List.append_assoc]
  rw [split 12,split 8,split 4,split 0,List.drop_zero]

/-- The message carries `raw` aligned behind its data words, with the 16 reserved bytes. -/
structure Carries (message : PointerAndSize) (dataWords numDataWords : Nat) (raw : Bytes) : Prop where
  notNull : message.address ≠ 0
  words : numDataWords * 4 = 16 + raw.length
  placed : ∃ front back, message.bytes = front ++ (raw ++ back) ∧
    message.address + front.length = alignUp (message.address + dataWords) 16

theorem rawData_carries {message : PointerAndSize} {dataWords numDataWords : Nat} {raw : Bytes}
    (carries : Carries message dataWords numDataWords raw) :
    rawData message dataWords numDataWords = some raw := by
  obtain ⟨front,back,bytes,placed⟩ := carries.placed
  have size : numDataWords * 4 - 0x10 = raw.length := by
    have words := carries.words
    omega
  have enough : ¬numDataWords * 4 < 0x10 := by
    have words := carries.words
    omega
  have inside : ¬message.address + front.length + raw.length >
      message.address + message.bytes.length := by
    rw [bytes]
    simp only [List.length_append]
    omega
  have offset : message.address + front.length - message.address = front.length := by omega
  simp only [rawData,enough,if_false,← placed,size,inside,offset]
  rw [bytes,← Nat.add_zero front.length,slice_append rfl,slice_here rfl]

theorem length_bytes_of_carries {message : PointerAndSize} {dataWords numDataWords : Nat} {raw : Bytes}
    (carries : Carries message dataWords numDataWords raw) (nonempty : raw ≠ []) :
    message.bytes.length ≠ 0 := by
  obtain ⟨front,back,bytes,_⟩ := carries.placed
  have positive := List.length_pos_iff.mpr nonempty
  rw [bytes]
  simp only [List.length_append]
  omega

/-- Raw data that is found lies in the message as the format wants it. -/
theorem carries_of_rawData {message : PointerAndSize} {dataWords numDataWords : Nat} {raw : Bytes}
    (notNull : message.address ≠ 0) (found : rawData message dataWords numDataWords = some raw) :
    Carries message dataWords numDataWords raw := by
  have aligned : message.address ≤ alignUp (message.address + dataWords) 0x10 := by
    simp only [alignUp]
    omega
  simp only [rawData] at found
  split at found
  · simp at found
  · next enough =>
    split at found
    · simp at found
    · next inside =>
      have start : (message.bytes.take (alignUp (message.address + dataWords) 0x10 - message.address)).length =
          alignUp (message.address + dataWords) 0x10 - message.address := by
        rw [List.length_take]
        omega
      have raw := Option.some.inj found
      refine ⟨notNull,?_,_,message.bytes.drop (alignUp (message.address + dataWords) 0x10 -
        message.address + (numDataWords * 4 - 0x10)),?_,by rw [start]; omega⟩
      · rw [← raw,slice,List.length_take,List.length_drop]
        omega
      · rw [← raw,slice,← List.drop_drop,List.take_append_drop,List.take_append_drop]

structure Payload.Captures (p : Payload) (payload : Bytes) : Prop where
  size : p.size = payload.length
  bytes : p.bytes.take (min payload.length semanticPayloadBytes) = payload.take semanticPayloadBytes
  words : p.words.take (min (payload.length / 4) 4) = wordsOf (min (payload.length / 4) 4) payload
  previewHex : p.previewHex = hexEncode (hexPreviewBytes * 2 + 1) (payload.take hexPreviewBytes)

theorem Payload.captures_capture (before : Payload) (payload : Bytes) :
    (before.capture payload).Captures payload where
  size := rfl
  bytes := by
    have length : (payload.take (min payload.length semanticPayloadBytes)).length =
        min payload.length semanticPayloadBytes := by
      rw [List.length_take]
      omega
    simp only [Payload.capture,overlay]
    rw [List.take_left' length,Nat.min_comm,← List.take_eq_take_min]
  words := by
    have length : (wordsOf (min (payload.length / 4) 4) payload).length = min (payload.length / 4) 4 := by
      simp [wordsOf]
    simp only [Payload.capture,overlay]
    rw [List.take_left' length]
  previewHex := by
    simp only [Payload.capture]
    rw [Nat.min_comm,← List.take_eq_take_min]

def plainMessage (type numDataWords : UInt32) (raw : Bytes) : PointerAndSize :=
  ⟨0x1000,u32Bytes type ++ u32Bytes numDataWords ++ List.replicate 8 0 ++ raw⟩

end NxReverse.Probe
