import Mathlib.Tactic.IntervalCases
import NxReverse.Tools.MsgpackReader

/-! The encodings of the values that the msgpack reader supports, each node in any of its forms. The reader gives the
value back and ends behind its encoding; cut short, an encoding is refused. -/
namespace NxReverse.Tools.Msgpack

open Words

-- tags with the width of the number or of the size behind them
def uintForms : List (Nat × Nat) := [(0xCC,1),(0xCD,2),(0xCE,4),(0xCF,8)]
def intForms : List (Nat × Nat) := [(0xD0,1),(0xD1,2),(0xD2,4),(0xD3,8)]
def binForms : List (Nat × Nat) := [(0xC4,1),(0xC5,2)]
def strForms : List (Nat × Nat) := [(0xD9,1),(0xDA,2)]

def tagByte (tag : Nat) : UInt8 := UInt8.ofNat tag

/-- Two's complement in so many bytes. -/
def twosComplement (width : Nat) (value : Int) : Bytes :=
  bytesBE width (if value < 0 then value + 256 ^ width else value).toNat

inductive EncodesStr (text : PyStr) : Bytes → Prop
  | fixStr (short : (Utf8.encode text).length ≤ 31) :
    EncodesStr text (tagByte (0xA0 + (Utf8.encode text).length) :: Utf8.encode text)
  | str (tag width : Nat) (form : (tag,width) ∈ strForms) (fits : (Utf8.encode text).length < 256 ^ width) :
    EncodesStr text (tagByte tag :: (bytesBE width (Utf8.encode text).length ++ Utf8.encode text))

mutual

inductive Encodes : Value → Bytes → Prop
  | posFixInt (value : Nat) (small : value ≤ 0x7F) : Encodes (.int value) [tagByte value]
  | negFixInt (value : Nat) (some : 1 ≤ value) (small : value ≤ 32) : Encodes (.int (-value)) [tagByte (0x100 - value)]
  | uint (tag width value : Nat) (form : (tag,width) ∈ uintForms) (fits : value < 256 ^ width) :
    Encodes (.int value) (tagByte tag :: bytesBE width value)
  | int (tag width : Nat) (value : Int) (form : (tag,width) ∈ intForms) (low : -(256 ^ width) ≤ 2 * value)
    (high : 2 * value < 256 ^ width) : Encodes (.int value) (tagByte tag :: twosComplement width value)
  | bool (value : Bool) : Encodes (.bool value) [tagByte (if value then 0xC3 else 0xC2)]
  | bin (tag width : Nat) (data : Bytes) (form : (tag,width) ∈ binForms) (fits : data.length < 256 ^ width) :
    Encodes (.bin data) (tagByte tag :: (bytesBE width data.length ++ data))
  | str (text : PyStr) (bytes : Bytes) (encoded : EncodesStr text bytes) : Encodes (.str text) bytes
  | fixArray (items : List Value) (bytes : Bytes) (short : items.length ≤ 15) (encoded : EncodesItems items bytes) :
    Encodes (.list items) (tagByte (0x90 + items.length) :: bytes)
  | array (items : List Value) (bytes : Bytes) (short : items.length < 256 ^ 2) (encoded : EncodesItems items bytes) :
    Encodes (.list items) (tagByte 0xDC :: (bytesBE 2 items.length ++ bytes))
  | fixMap (fields : List (PyStr × Value)) (bytes : Bytes) (distinct : (fields.map Prod.fst).Nodup)
    (short : fields.length ≤ 15) (encoded : EncodesFields fields bytes) :
    Encodes (.dict fields) (tagByte (0x80 + fields.length) :: bytes)
  | map (fields : List (PyStr × Value)) (bytes : Bytes) (distinct : (fields.map Prod.fst).Nodup)
    (short : fields.length < 256 ^ 2) (encoded : EncodesFields fields bytes) :
    Encodes (.dict fields) (tagByte 0xDE :: (bytesBE 2 fields.length ++ bytes))

inductive EncodesItems : List Value → Bytes → Prop
  | nil : EncodesItems [] []
  | cons (item : Value) (items : List Value) (first rest : Bytes) (encoded : Encodes item first)
    (more : EncodesItems items rest) : EncodesItems (item :: items) (first ++ rest)

inductive EncodesFields : List (PyStr × Value) → Bytes → Prop
  | nil : EncodesFields [] []
  | cons (key : PyStr) (value : Value) (fields : List (PyStr × Value)) (name first rest : Bytes)
    (keyEncoded : EncodesStr key name) (encoded : Encodes value first) (more : EncodesFields fields rest) :
    EncodesFields ((key,value) :: fields) (name ++ (first ++ rest))

end

def At (data : Bytes) (offset : Nat) (bytes : Bytes) : Prop :=
  ∃ before rest, data = before ++ (bytes ++ rest) ∧ before.length = offset

theorem At.split {data first second : Bytes} {offset : Nat} (here : At data offset (first ++ second)) :
    At data offset first ∧ At data (offset + first.length) second := by
  obtain ⟨before,rest,rfl,rfl⟩ := here
  exact ⟨⟨before,second ++ rest,by simp,rfl⟩,⟨before ++ first,rest,by simp,by simp⟩⟩

theorem At.inside {data bytes : Bytes} {offset : Nat} (here : At data offset bytes) :
    offset + bytes.length ≤ data.length := by
  obtain ⟨before,rest,rfl,rfl⟩ := here
  simp only [List.length_append]
  omega

theorem At.slice {data bytes : Bytes} {offset : Nat} (here : At data offset bytes) :
    slice offset bytes.length data = bytes := by
  obtain ⟨before,rest,rfl,rfl⟩ := here
  rw [Words.slice,List.drop_left,List.take_left]

theorem At.first {data bytes : Bytes} {byte : UInt8} {offset : Nat} (here : At data offset (byte :: bytes)) :
    data.getD offset 0 = byte ∧ At data (offset + 1) bytes := by
  obtain ⟨front,behind⟩ := @At.split data [byte] bytes offset here
  obtain ⟨before,rest,rfl,rfl⟩ := front
  exact ⟨by simp,behind⟩

variable {data : Bytes}

/-- The bytes of a number are read, whatever they are taken for. -/
theorem readBe_slice {offset width : Nat} {bytes : Bytes} (here : At data offset bytes) (length : bytes.length = width)
    (signed : Bool) : readBe data offset width signed = .ok (fromBytes signed bytes,offset + width) := by
  subst length
  rw [readBe,(require_ok_iff offset bytes.length).mpr here.inside,here.slice]
  rfl

theorem readBe_at {offset width value : Nat} (here : At data offset (bytesBE width value)) (fits : value < 256 ^ width) :
    readBe data offset width false = .ok ((value : Int),offset + width) := by
  rw [readBe_slice here (length_bytesBE width value)]
  simp [fromBytes,readBE_bytesBE fits]

theorem fromBytes_twosComplement {width : Nat} {value : Int} (low : -(256 ^ width) ≤ 2 * value)
    (high : 2 * value < 256 ^ width) : fromBytes true (twosComplement width value) = value := by
  have power : ((256 ^ width : Nat) : Int) = 256 ^ width := by norm_cast
  have positive : 0 < 256 ^ width := Nat.pow_pos (by decide)
  rw [fromBytes,twosComplement,length_bytesBE]
  by_cases negative : value < 0
  · obtain ⟨stored,holds⟩ := Int.eq_ofNat_of_zero_le (by omega : 0 ≤ value + 256 ^ width)
    have fits : stored < 256 ^ width := by omega
    have large : 256 ^ width ≤ 2 * stored := by omega
    rw [if_pos negative,holds,Int.toNat_natCast,readBE_bytesBE fits,if_pos ⟨rfl,large⟩]
    omega
  · obtain ⟨stored,holds⟩ := Int.eq_ofNat_of_zero_le (by omega : 0 ≤ value)
    have fits : stored < 256 ^ width := by omega
    have small : ¬256 ^ width ≤ 2 * stored := by omega
    rw [if_neg negative,holds,Int.toNat_natCast,readBE_bytesBE fits,if_neg (fun large => small large.2)]

theorem readBytes_at {offset : Nat} {bytes : Bytes} (here : At data offset bytes) :
    readBytes data offset bytes.length = .ok (bytes,offset + bytes.length) := by
  rw [readBytes,(require_ok_iff offset bytes.length).mpr here.inside,here.slice]
  rfl

theorem parseFixStr_at {offset : Nat} {text : PyStr} (here : At data offset (Utf8.encode text)) :
    parseFixStr data offset (Utf8.encode text).length = .ok (.str text,offset + (Utf8.encode text).length) := by
  rw [parseFixStr,readStr,readBytes_at here]
  simp [Bind.bind,Except.bind,Utf8.decodeReplace_encode]

section Value

variable (isPrintable : Char → Bool)

/-- The tag in front chooses the branch. -/
theorem parseWith_tag {fuel offset tag : Nat} {bytes : Bytes} (here : At data offset (tagByte tag :: bytes))
    (small : tag < 256) : At data (offset + 1) bytes ∧ parseWith isPrintable data (fuel + 1) offset =
      parseBranch isPrintable data (parseWith isPrintable data fuel) tag (offset + 1) (branchOf tag) := by
  obtain ⟨byte,behind⟩ := here.first
  have inside := here.inside
  rw [List.length_cons] at inside
  have value : (tagByte tag).toNat = tag := UInt8.toNat_ofNat_of_lt' small
  refine ⟨behind,?_⟩
  rw [parseWith,readU8,(require_ok_iff offset 1).mpr (by omega),byte,value]
  rfl

theorem parse_str {fuel offset : Nat} {text : PyStr} {bytes : Bytes} (encoded : EncodesStr text bytes)
    (here : At data offset bytes) :
    parseWith isPrintable data (fuel + 1) offset = .ok (.str text,offset + bytes.length) := by
  cases encoded with
  | fixStr short =>
    have branch : branchOf (0xA0 + (Utf8.encode text).length) = .fixStr (Utf8.encode text).length := by
      generalize (Utf8.encode text).length = size at short
      interval_cases size <;> rfl
    obtain ⟨behind,read⟩ := @parseWith_tag data isPrintable fuel offset _ _ here (by omega)
    rw [read,branch,parseBranch,parseFixStr_at behind,List.length_cons,Nat.add_assoc,Nat.add_comm 1]
  | str tag width form fits =>
    have branch : tag < 256 ∧ branchOf tag = .str width := by
      simp only [strForms,List.mem_cons,Prod.mk.injEq,List.not_mem_nil,or_false] at form
      rcases form with ⟨rfl,rfl⟩ | ⟨rfl,rfl⟩ <;> exact ⟨by decide,rfl⟩
    obtain ⟨behind,read⟩ := @parseWith_tag data isPrintable fuel offset _ _ here branch.1
    obtain ⟨size,payload⟩ := behind.split
    rw [length_bytesBE] at payload
    rw [read,branch.2,parseBranch,parseStr,readBe_at size fits]
    simp only [Bind.bind,Except.bind,Int.toNat_natCast]
    rw [parseFixStr_at payload,List.length_cons,List.length_append,length_bytesBE]
    congr 2
    omega

/-- A number of a form is read. -/
theorem parse_number {fuel offset tag width : Nat} {signed : Bool} {bytes : Bytes} (small : tag < 256)
    (branch : branchOf tag = .int width signed) (here : At data offset (tagByte tag :: bytes))
    (length : bytes.length = width) :
    parseWith isPrintable data (fuel + 1) offset = .ok (.int (fromBytes signed bytes),offset + (width + 1)) := by
  obtain ⟨behind,read⟩ := @parseWith_tag data isPrintable fuel offset _ _ here small
  rw [read,branch,parseBranch,parseInt,readBe_slice behind length]
  simp only [Bind.bind,Except.bind]
  congr 2
  omega

theorem branchOf_uint {tag width : Nat} (form : (tag,width) ∈ uintForms) :
    tag < 256 ∧ branchOf tag = .int width false := by
  simp only [uintForms,List.mem_cons,Prod.mk.injEq,List.not_mem_nil,or_false] at form
  rcases form with ⟨rfl,rfl⟩ | ⟨rfl,rfl⟩ | ⟨rfl,rfl⟩ | ⟨rfl,rfl⟩ <;> exact ⟨by decide,rfl⟩

theorem branchOf_int {tag width : Nat} (form : (tag,width) ∈ intForms) :
    tag < 256 ∧ branchOf tag = .int width true := by
  simp only [intForms,List.mem_cons,Prod.mk.injEq,List.not_mem_nil,or_false] at form
  rcases form with ⟨rfl,rfl⟩ | ⟨rfl,rfl⟩ | ⟨rfl,rfl⟩ | ⟨rfl,rfl⟩ <;> exact ⟨by decide,rfl⟩

theorem branchOf_bin {tag width : Nat} (form : (tag,width) ∈ binForms) : tag < 256 ∧ branchOf tag = .bin width := by
  simp only [binForms,List.mem_cons,Prod.mk.injEq,List.not_mem_nil,or_false] at form
  rcases form with ⟨rfl,rfl⟩ | ⟨rfl,rfl⟩ <;> exact ⟨by decide,rfl⟩

theorem branchOf_negFixInt {value : Nat} (some : 1 ≤ value) (small : value ≤ 32) :
    branchOf (0x100 - value) = .value (.int (-value)) := by
  interval_cases value <;> rfl

theorem branchOf_fixArray {count : Nat} (short : count ≤ 15) : branchOf (0x90 + count) = .fixArray count := by
  interval_cases count <;> rfl

theorem branchOf_fixMap {count : Nat} (short : count ≤ 15) : branchOf (0x80 + count) = .fixMap count := by
  interval_cases count <;> rfl

theorem EncodesStr.some {text : PyStr} {bytes : Bytes} (encoded : EncodesStr text bytes) : bytes ≠ [] := by
  cases encoded <;> simp

theorem Encodes.some {value : Value} {bytes : Bytes} (encoded : Encodes value bytes) : bytes ≠ [] := by
  cases encoded with
  | str text bytes encoded => exact encoded.some
  | _ => simp

/-- A fuel that is enough is positive in front of a byte. -/
theorem fuel_pos {fuel offset : Nat} {bytes : Bytes} (here : At data offset bytes) (some : bytes ≠ [])
    (enough : data.length < offset + fuel) : ∃ less, fuel = less + 1 := by
  have inside := here.inside
  have positive := List.length_pos_of_ne_nil some
  exact ⟨fuel - 1,by omega⟩

mutual

theorem Encodes.parsed {value : Value} {bytes : Bytes} (encoded : Encodes value bytes) {fuel offset : Nat}
    (here : At data offset bytes) (enough : data.length < offset + fuel) :
    parseWith isPrintable data fuel offset = .ok (value,offset + bytes.length) := by
  obtain ⟨fuel,rfl⟩ := fuel_pos here encoded.some enough
  cases encoded with
  | posFixInt value small =>
    obtain ⟨-,read⟩ := @parseWith_tag data isPrintable fuel offset _ _ here (by omega)
    rw [read,branchOf,if_pos small]
    rfl
  | negFixInt value some small =>
    obtain ⟨-,read⟩ := @parseWith_tag data isPrintable fuel offset _ _ here (by omega)
    rw [read,branchOf_negFixInt some small]
    rfl
  | uint tag width value form fits =>
    obtain ⟨small,branch⟩ := branchOf_uint form
    rw [parse_number isPrintable small branch here (length_bytesBE width value),List.length_cons,length_bytesBE]
    simp [fromBytes,readBE_bytesBE fits]
  | int tag width value form low high =>
    obtain ⟨small,branch⟩ := branchOf_int form
    rw [parse_number isPrintable small branch here (length_bytesBE width _),fromBytes_twosComplement low high,
      List.length_cons,twosComplement,length_bytesBE]
  | bool value =>
    obtain ⟨-,read⟩ := @parseWith_tag data isPrintable fuel offset _ _ here (by cases value <;> decide)
    rw [read]
    cases value <;> rfl
  | bin tag width payload form fits =>
    obtain ⟨small,branch⟩ := branchOf_bin form
    obtain ⟨behind,read⟩ := @parseWith_tag data isPrintable fuel offset _ _ here small
    obtain ⟨size,raw⟩ := behind.split
    rw [length_bytesBE] at raw
    rw [read,branch,parseBranch,parseBin,readBe_at size fits]
    simp only [Bind.bind,Except.bind,Int.toNat_natCast]
    rw [readBytes_at raw,List.length_cons,List.length_append,length_bytesBE]
    simp only [Except.ok.injEq,Prod.mk.injEq,true_and]
    omega
  | str text bytes encoded => exact parse_str isPrintable encoded here
  | fixArray items bytes short encoded =>
    obtain ⟨behind,read⟩ := @parseWith_tag data isPrintable fuel offset _ _ here (by omega)
    rw [read,branchOf_fixArray short,parseBranch,parseArray,encoded.parsed behind (by omega)]
    simp only [Bind.bind,Except.bind,List.length_cons,Except.ok.injEq,Prod.mk.injEq,true_and]
    omega
  | array items bytes short encoded =>
    obtain ⟨behind,read⟩ := @parseWith_tag data isPrintable fuel offset _ _ here (by decide)
    obtain ⟨size,behind⟩ := behind.split
    rw [length_bytesBE] at behind
    rw [read,show branchOf 0xDC = .array 2 from rfl,parseBranch,readBe_at size short]
    simp only [Bind.bind,Except.bind,Int.toNat_natCast,parseArray]
    rw [encoded.parsed behind (by omega)]
    simp only [List.length_cons,List.length_append,length_bytesBE,Except.ok.injEq,Prod.mk.injEq,true_and]
    omega
  | fixMap fields bytes distinct short encoded =>
    obtain ⟨behind,read⟩ := @parseWith_tag data isPrintable fuel offset _ _ here (by omega)
    rw [read,branchOf_fixMap short,parseBranch,parseMap,encoded.parsed behind (by omega) [],
      Dicts.setAll_of_distinct distinct]
    simp only [Bind.bind,Except.bind,List.length_cons,List.nil_append,Except.ok.injEq,Prod.mk.injEq,true_and]
    omega
  | map fields bytes distinct short encoded =>
    obtain ⟨behind,read⟩ := @parseWith_tag data isPrintable fuel offset _ _ here (by decide)
    obtain ⟨size,behind⟩ := behind.split
    rw [length_bytesBE] at behind
    rw [read,show branchOf 0xDE = .map 2 from rfl,parseBranch,readBe_at size short]
    simp only [Bind.bind,Except.bind,Int.toNat_natCast,parseMap]
    rw [encoded.parsed behind (by omega) [],Dicts.setAll_of_distinct distinct]
    simp only [List.length_cons,List.length_append,length_bytesBE,List.nil_append,Except.ok.injEq,Prod.mk.injEq,
      true_and]
    omega

theorem EncodesItems.parsed {items : List Value} {bytes : Bytes} (encoded : EncodesItems items bytes) {fuel offset : Nat}
    (here : At data offset bytes) (enough : data.length < offset + fuel) :
    parseItems (parseWith isPrintable data fuel) items.length offset = .ok (items,offset + bytes.length) := by
  cases encoded with
  | nil => rfl
  | cons item items first rest encoded more =>
    obtain ⟨front,behind⟩ := here.split
    rw [List.length_cons,parseItems,encoded.parsed front enough]
    simp only [Bind.bind,Except.bind]
    rw [more.parsed behind (by omega)]
    simp [Nat.add_assoc]

theorem EncodesFields.parsed {fields : List (PyStr × Value)} {bytes : Bytes} (encoded : EncodesFields fields bytes)
    {fuel offset : Nat} (here : At data offset bytes) (enough : data.length < offset + fuel)
    (values : List (PyStr × Value)) :
    parseFields isPrintable (parseWith isPrintable data fuel) fields.length values offset =
      .ok (Dicts.setAll values fields,offset + bytes.length) := by
  cases encoded with
  | nil => rfl
  | cons key value fields name first rest keyEncoded encoded more =>
    obtain ⟨front,behind⟩ := here.split
    obtain ⟨middle,last⟩ := behind.split
    obtain ⟨fuel,rfl⟩ := fuel_pos front keyEncoded.some enough
    rw [List.length_cons,parseFields,parse_str isPrintable keyEncoded front]
    simp only [Bind.bind,Except.bind]
    rw [encoded.parsed middle (by omega)]
    simp only []
    rw [more.parsed last (by omega),str]
    simp [Dicts.setAll,Nat.add_assoc]

end

end Value

/-- What the reader does on encodings, on their prefixes and on all byte strings. -/
structure DecodesSubset (isPrintable : Char → Bool) : Prop where
  whole : ∀ value bytes, Encodes value bytes → ∀ before rest,
    parse isPrintable (before ++ (bytes ++ rest)) before.length = .ok (value,before.length + bytes.length)
  truncated : ∀ value bytes, Encodes value bytes → ∀ before part, part <+: bytes → part ≠ bytes →
    ∃ text, parse isPrintable (before ++ part) before.length = .error (.decodeError text)
  ends : ∀ data offset, parse isPrintable data offset ≠ .error .outOfFuel ∧
    ∀ fuel, 0 < fuel → data.length < offset + fuel →
      parseWith isPrintable data fuel offset = parse isPrintable data offset

theorem parse_whole (isPrintable : Char → Bool) {value : Value} {bytes : Bytes} (encoded : Encodes value bytes)
    (before rest : Bytes) :
    parse isPrintable (before ++ (bytes ++ rest)) before.length = .ok (value,before.length + bytes.length) :=
  encoded.parsed isPrintable ⟨before,rest,rfl,rfl⟩ (by omega)

/-- Where a prefix gave a value, the whole encoding would give it too, and end too early. -/
theorem parse_truncated (isPrintable : Char → Bool) {value : Value} {bytes : Bytes} (encoded : Encodes value bytes)
    (before : Bytes) {part : Bytes} (front : part <+: bytes) (proper : part ≠ bytes) :
    ∃ text, parse isPrintable (before ++ part) before.length = .error (.decodeError text) := by
  have sound := parse_sound isPrintable (before ++ part) before.length
  cases result : parse isPrintable (before ++ part) before.length with
  | error e =>
    cases e with
    | decodeError text => exact ⟨text,rfl⟩
    | outOfFuel => exact absurd result sound.bounded
  | ok pair =>
    obtain ⟨other,stop⟩ := pair
    obtain ⟨rest,rfl⟩ := front
    have again := parse_append isPrintable result rest
    have whole := parse_whole isPrintable encoded before []
    rw [List.append_nil,← List.append_assoc,again] at whole
    have same : stop = before.length + (part ++ rest).length := congrArg Prod.snd (Except.ok.inj whole)
    have early := (sound.inside other stop result).2
    have some : rest ≠ [] := by
      rintro rfl
      exact proper (List.append_nil part).symm
    have positive := List.length_pos_of_ne_nil some
    rw [List.length_append] at same early
    omega

/-- The reader decodes its whole subset, refuses what is cut short, and always ends. -/
theorem reader_decodesSubset (isPrintable : Char → Bool) : DecodesSubset isPrintable where
  whole _ _ encoded before rest := parse_whole isPrintable encoded before rest
  truncated _ _ encoded before _ front proper := parse_truncated isPrintable encoded before front proper
  ends data offset := ⟨(parse_sound isPrintable data offset).bounded,fun _ some enough => parse_eq isPrintable some enough⟩

end NxReverse.Tools.Msgpack
