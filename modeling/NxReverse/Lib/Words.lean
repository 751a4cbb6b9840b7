import Mathlib.Data.UInt

/-! Little-endian words inside byte strings. A field is read at an offset, and a record
written field by field is read back from the front of any byte string that continues it. -/
namespace NxReverse.Words

abbrev Bytes := List UInt8

def readLE : Bytes → Nat
  | [] => 0
  | byte :: rest => byte.toNat + 256 * readLE rest

def bytesLE : Nat → Nat → Bytes
  | 0, _ => []
  | width + 1, value => UInt8.ofNat value :: bytesLE width (value / 256)

-- the same with the highest byte in front
def readBE (bytes : Bytes) : Nat := readLE bytes.reverse
def bytesBE (width value : Nat) : Bytes := (bytesLE width value).reverse

/-- The bytes at `offset`; short reads end with the string. -/
def slice (offset width : Nat) (bytes : Bytes) : Bytes := (bytes.drop offset).take width

def u8At (offset : Nat) (bytes : Bytes) : UInt8 := UInt8.ofNat (readLE (slice offset 1 bytes))
def u16At (offset : Nat) (bytes : Bytes) : UInt16 := UInt16.ofNat (readLE (slice offset 2 bytes))
def u32At (offset : Nat) (bytes : Bytes) : UInt32 := UInt32.ofNat (readLE (slice offset 4 bytes))
def u64At (offset : Nat) (bytes : Bytes) : UInt64 := UInt64.ofNat (readLE (slice offset 8 bytes))

def u8Bytes (value : UInt8) : Bytes := bytesLE 1 value.toNat
def u16Bytes (value : UInt16) : Bytes := bytesLE 2 value.toNat
def u32Bytes (value : UInt32) : Bytes := bytesLE 4 value.toNat

def wordsOf (count : Nat) (bytes : Bytes) : List UInt32 := (List.range count).map fun i => u32At (4 * i) bytes

/-- What a copy leaves in an array: the new items in front, the rest as it was. -/
def overlay (old new : List α) : List α := new ++ old.drop new.length

def storeAt (offset : Nat) (data output : Bytes) : Bytes := output.take offset ++ overlay (output.drop offset) data

@[simp] theorem length_bytesLE (width value : Nat) : (bytesLE width value).length = width := by
  induction width generalizing value with
  | zero => rfl
  | succ width ih => simp [bytesLE,ih]

@[simp] theorem length_u8Bytes (value : UInt8) : (u8Bytes value).length = 1 := length_bytesLE 1 _
@[simp] theorem length_u16Bytes (value : UInt16) : (u16Bytes value).length = 2 := length_bytesLE 2 _
@[simp] theorem length_u32Bytes (value : UInt32) : (u32Bytes value).length = 4 := length_bytesLE 4 _

theorem readLE_bytesLE (width value : Nat) : readLE (bytesLE width value) = value % 256 ^ width := by
  induction width generalizing value with
  | zero => simp [bytesLE,readLE,Nat.mod_one]
  | succ width ih =>
    have digit : (UInt8.ofNat value).toNat = value % 256 := by simp
    rw [bytesLE,readLE,digit,ih,Nat.pow_succ,Nat.mul_comm _ 256,Nat.mod_mul]

@[simp] theorem length_bytesBE (width value : Nat) : (bytesBE width value).length = width := by simp [bytesBE]

theorem readBE_bytesBE {width value : Nat} (fits : value < 256 ^ width) : readBE (bytesBE width value) = value := by
  rw [readBE,bytesBE,List.reverse_reverse,readLE_bytesLE,Nat.mod_eq_of_lt fits]

theorem readLE_lt (bytes : Bytes) : readLE bytes < 256 ^ bytes.length := by
  induction bytes with
  | nil => simp [readLE]
  | cons byte rest ih =>
    have small := byte.toNat_lt
    rw [readLE,List.length_cons,Nat.pow_succ]
    omega

theorem bytesLE_readLE (bytes : Bytes) : bytesLE bytes.length (readLE bytes) = bytes := by
  induction bytes with
  | nil => rfl
  | cons byte rest ih =>
    have small := byte.toNat_lt
    have high : readLE (byte :: rest) / 256 = readLE rest := by
      rw [readLE]
      omega
    have low : UInt8.ofNat (readLE (byte :: rest)) = byte := by
      apply UInt8.toNat_inj.mp
      rw [readLE]
      simp
    rw [List.length_cons,bytesLE,high,low,ih]

theorem readLE_mod (byte : UInt8) (rest : Bytes) : readLE (byte :: rest) % 256 = byte.toNat := by
  have small := byte.toNat_lt
  rw [readLE]
  omega

/-- Reading behind a known front skips it. -/
theorem slice_append {front : Bytes} {start : Nat} (length : front.length = start) (offset width : Nat)
    (rest : Bytes) : slice (start + offset) width (front ++ rest) = slice offset width rest := by
  subst length
  rw [slice,List.drop_length_add_append,slice]

theorem slice_here {field : Bytes} {width : Nat} (length : field.length = width) (rest : Bytes) :
    slice 0 width (field ++ rest) = field := by
  subst length
  simp [slice]

@[simp] theorem u8At_here (value : UInt8) (rest : Bytes) : u8At 0 (u8Bytes value ++ rest) = value := by
  rw [u8At,slice_here (length_u8Bytes value),u8Bytes,readLE_bytesLE]
  simp

@[simp] theorem u16At_here (value : UInt16) (rest : Bytes) : u16At 0 (u16Bytes value ++ rest) = value := by
  rw [u16At,slice_here (length_u16Bytes value),u16Bytes,readLE_bytesLE]
  simp

@[simp] theorem u32At_here (value : UInt32) (rest : Bytes) : u32At 0 (u32Bytes value ++ rest) = value := by
  rw [u32At,slice_here (length_u32Bytes value),u32Bytes,readLE_bytesLE]
  simp

theorem u16At_append {front : Bytes} {start : Nat} (length : front.length = start) (offset : Nat)
    (rest : Bytes) : u16At (start + offset) (front ++ rest) = u16At offset rest := by
  rw [u16At,slice_append length,← u16At]

theorem u8At_append {front : Bytes} {start : Nat} (length : front.length = start) (offset : Nat)
    (rest : Bytes) : u8At (start + offset) (front ++ rest) = u8At offset rest := by
  rw [u8At,slice_append length,← u8At]

theorem u32At_append {front : Bytes} {start : Nat} (length : front.length = start) (offset : Nat)
    (rest : Bytes) : u32At (start + offset) (front ++ rest) = u32At offset rest := by
  rw [u32At,slice_append length,← u32At]

theorem u32At_drop (offset : Nat) (bytes : Bytes) : u32At 0 (bytes.drop offset) = u32At offset bytes := by
  simp [u32At,slice]

/-- A word read inside the string is written back as the bytes it came from. -/
theorem u32Bytes_u32At {offset : Nat} {bytes : Bytes} (inside : offset + 4 ≤ bytes.length) :
    u32Bytes (u32At offset bytes) = slice offset 4 bytes := by
  have length : (slice offset 4 bytes).length = 4 := by
    simp only [slice,List.length_take,List.length_drop]
    omega
  have small := readLE_lt (slice offset 4 bytes)
  rw [length] at small
  have value : (u32At offset bytes).toNat = readLE (slice offset 4 bytes) := by
    rw [u32At,UInt32.toNat_ofNat']
    exact Nat.mod_eq_of_lt small
  have written := bytesLE_readLE (slice offset 4 bytes)
  rw [length] at written
  rw [u32Bytes,value,written]

/-- A list of words written one after the other is read back whole. -/
theorem wordsOf_flatMap (values : List UInt32) (rest : Bytes) :
    wordsOf values.length (values.flatMap u32Bytes ++ rest) = values := by
  induction values with
  | nil => rfl
  | cons value values ih =>
    rw [wordsOf,List.length_cons,List.range_succ_eq_map,List.map_cons,List.map_map,List.flatMap_cons,
      List.append_assoc,Nat.mul_zero,u32At_here]
    refine congrArg (value :: ·) ?_
    refine Eq.trans (List.map_congr_left fun i _ => ?_) ih
    rw [Function.comp_apply,Nat.mul_succ,Nat.add_comm,u32At_append (length_u32Bytes value)]

section Stores

variable {offset : Nat} {data output : Bytes}

theorem length_storeAt (inside : offset + data.length ≤ output.length) :
    (storeAt offset data output).length = output.length := by
  simp only [storeAt,overlay,List.length_append,List.length_take,List.length_drop]
  omega

theorem getElem?_storeAt_outside (inside : offset + data.length ≤ output.length) {i : Nat}
    (outside : i < offset ∨ offset + data.length ≤ i) : (storeAt offset data output)[i]? = output[i]? := by
  have front : (output.take offset).length = offset := List.length_take_of_le (by omega)
  rw [storeAt,overlay]
  rcases outside with before | behind
  · rw [List.getElem?_append_left (by omega),List.getElem?_take_of_lt before]
  · rw [List.getElem?_append_right (by omega),List.getElem?_append_right (by omega),List.getElem?_drop,
      List.getElem?_drop,front]
    congr 1
    omega

/-- What is stored is read back, -/
theorem slice_storeAt (inside : offset + data.length ≤ output.length) :
    slice offset data.length (storeAt offset data output) = data := by
  have front : (output.take offset).length = offset := List.length_take_of_le (by omega)
  rw [slice,storeAt,overlay,List.drop_left' front,List.take_left]

/-- and what lies apart from it is kept. -/
theorem slice_storeAt_apart (inside : offset + data.length ≤ output.length) {start width : Nat}
    (apart : start + width ≤ offset ∨ offset + data.length ≤ start) :
    slice start width (storeAt offset data output) = slice start width output := by
  apply List.ext_getElem?
  intro i
  by_cases within : i < width
  · have outside : start + i < offset ∨ offset + data.length ≤ start + i := by omega
    simp only [slice]
    rw [List.getElem?_take_of_lt within,List.getElem?_take_of_lt within,List.getElem?_drop,List.getElem?_drop,
      getElem?_storeAt_outside inside outside]
  · simp [slice,within]

/-- Two stores side by side are one. -/
theorem storeAt_storeAt (back : Bytes) (inside : offset + data.length ≤ output.length) :
    storeAt (offset + data.length) back (storeAt offset data output) = storeAt offset (data ++ back) output := by
  have front : (output.take offset ++ data).length = offset + data.length := by
    rw [List.length_append,List.length_take_of_le (by omega)]
  have stored : storeAt offset data output =
      (output.take offset ++ data) ++ (output.drop offset).drop data.length := by
    rw [storeAt,overlay,List.append_assoc]
  rw [storeAt,stored,List.take_left' front,List.drop_left' front,storeAt]
  simp only [overlay,List.append_assoc,List.drop_drop,List.length_append,Nat.add_assoc]

end Stores

/-- Fields of the given widths and values, one behind the other. -/
def writeFields (fields : List (Nat × Nat)) : Bytes := fields.flatMap fun f => bytesLE f.1 f.2

def readFields : List Nat → Bytes → List Nat
  | [],_ => []
  | width :: widths,bytes => readLE (bytes.take width) :: readFields widths (bytes.drop width)

theorem length_writeFields (fields : List (Nat × Nat)) :
    (writeFields fields).length = (fields.map fun f => f.1).sum := by
  simp [writeFields,List.length_flatMap]

/-- Fields that fit their widths are read back, whatever follows them. -/
theorem readFields_writeFields {fields : List (Nat × Nat)} (fit : ∀ f ∈ fields, f.2 < 256 ^ f.1) (rest : Bytes) :
    readFields (fields.map fun f => f.1) (writeFields fields ++ rest) = fields.map fun f => f.2 := by
  induction fields with
  | nil => rfl
  | cons f fields ih =>
    have later := ih fun other member => fit other (List.mem_cons_of_mem f member)
    have length := length_bytesLE f.1 f.2
    have here : (writeFields (f :: fields) ++ rest).take f.1 = bytesLE f.1 f.2 := by
      rw [writeFields,List.flatMap_cons,List.append_assoc,List.take_left' length]
    have behind : (writeFields (f :: fields) ++ rest).drop f.1 = writeFields fields ++ rest := by
      rw [writeFields,List.flatMap_cons,List.append_assoc,List.drop_left' length,writeFields]
    rw [List.map_cons,readFields,here,behind,later,readLE_bytesLE,Nat.mod_eq_of_lt (fit f List.mem_cons_self),
      List.map_cons]

/-- Records read until the string ends, at most `fuel` of them. -/
def readAll {β : Type} (read : Bytes → Option (β × Bytes)) : Nat → Bytes → Option (List β)
  | _,[] => some []
  | 0,_ :: _ => none
  | fuel + 1,bytes =>
    match read bytes with
    | none => none
    | some (record,rest) => (readAll read fuel rest).map (record :: ·)

/-- Records that can each be read in front of anything are all read back. -/
theorem readAll_flatMap {β : Type} {read : Bytes → Option (β × Bytes)} {write : β → Bytes} {records : List β}
    (back : ∀ record ∈ records, ∀ rest, read (write record ++ rest) = some (record,rest))
    (nonempty : ∀ record ∈ records, write record ≠ []) {fuel : Nat} (enough : records.length ≤ fuel) :
    readAll read fuel (records.flatMap write) = some records := by
  induction records generalizing fuel with
  | nil => cases fuel <;> rfl
  | cons record records ih =>
    obtain ⟨fuel,rfl⟩ := Nat.exists_eq_succ_of_ne_zero (Nat.ne_zero_of_lt enough)
    have later := ih (fun other member => back other (List.mem_cons_of_mem record member))
      (fun other member => nonempty other (List.mem_cons_of_mem record member)) (Nat.le_of_succ_le_succ enough)
    have first := back record List.mem_cons_self (records.flatMap write)
    obtain ⟨byte,bytes,split⟩ := List.exists_cons_of_ne_nil (nonempty record List.mem_cons_self)
    rw [List.flatMap_cons]
    rw [split,List.cons_append] at first ⊢
    rw [readAll,first]
    · dsimp only
      rw [later]
      rfl
    · nofun

end NxReverse.Words
