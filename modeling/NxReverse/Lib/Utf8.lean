import NxReverse.Lib.Words

/-! UTF-8 with replacement. What starts no character is replaced together with the bytes that could still have
continued it; the encoding of a text is read back as it was. -/
namespace NxReverse.Utf8

open Words

def replacement : Char := Char.ofNat 0xFFFD

def sequenceLength (first : Nat) : Nat :=
  if first < 0x80 then 1
  else if first < 0xC2 then 0
  else if first < 0xE0 then 2
  else if first < 0xF0 then 3
  else if first < 0xF5 then 4
  else 0

/-- The lowest and the highest byte that may follow a first byte. -/
def secondLow (first : Nat) : Nat := if first = 0xE0 then 0xA0 else if first = 0xF0 then 0x90 else 0x80
def secondHigh (first : Nat) : Nat := if first = 0xED then 0x9F else if first = 0xF4 then 0x8F else 0xBF

def continuation : Nat → Nat → Nat → Bytes → Bytes
  | 0,_,_,_ => []
  | _ + 1,_,_,[] => []
  | count + 1,low,high,byte :: rest =>
    if low ≤ byte.toNat ∧ byte.toNat ≤ high then byte :: continuation count 0x80 0xBF rest else []

def codePoint (first : Nat) (rest : Bytes) : Nat :=
  rest.foldl (fun value byte => value * 64 + byte.toNat % 64) (first % 2 ^ (6 - rest.length))

/-- The first character and how many bytes it takes. -/
def decodeFirst : Bytes → Char × Nat
  | [] => (replacement,1)
  | first :: rest =>
    let length := sequenceLength first.toNat
    if length = 1 then (Char.ofNat first.toNat,1)
    else
      let more := continuation (length - 1) (secondLow first.toNat) (secondHigh first.toNat) rest
      if more.length + 1 = length then (Char.ofNat (codePoint first.toNat more),length)
      else (replacement,more.length + 1)

def decodeFrom : Nat → Bytes → List Char
  | 0,_ => []
  | _ + 1,[] => []
  | fuel + 1,bytes => (decodeFirst bytes).1 :: decodeFrom fuel (bytes.drop (decodeFirst bytes).2)

/-- `bytes.decode("utf-8", errors="replace")`; every character takes a byte. -/
def decodeReplace (bytes : Bytes) : List Char := decodeFrom bytes.length bytes

def encode (text : List Char) : Bytes := text.flatMap String.utf8EncodeChar

example : decodeReplace [0x61,0xE2,0x82,0xFF,0xC3,0xA4] = ['a',replacement,replacement,'ä'] := by decide

theorem decodeFirst_of {first : UInt8} {more rest : Bytes} (some : more ≠ [])
    (length : sequenceLength first.toNat = more.length + 1)
    (continues : continuation more.length (secondLow first.toNat) (secondHigh first.toNat) (more ++ rest) = more) :
    decodeFirst (first :: (more ++ rest)) = (Char.ofNat (codePoint first.toNat more),more.length + 1) := by
  have positive := List.length_pos_of_ne_nil some
  rw [decodeFirst]
  dsimp only
  rw [length,if_neg (by omega),Nat.add_sub_cancel,continues,if_pos rfl]

theorem continuation_cons {low high count : Nat} {byte : UInt8} {rest : Bytes} (above : low ≤ byte.toNat)
    (below : byte.toNat ≤ high) :
    continuation (count + 1) low high (byte :: rest) = byte :: continuation count 0x80 0xBF rest :=
  if_pos ⟨above,below⟩

theorem sequenceLength_two {first : Nat} (low : 0xC2 ≤ first) (high : first < 0xE0) : sequenceLength first = 2 := by
  rw [sequenceLength,if_neg (by omega),if_neg (by omega),if_pos high]

theorem sequenceLength_three {first : Nat} (low : 0xE0 ≤ first) (high : first < 0xF0) : sequenceLength first = 3 := by
  rw [sequenceLength,if_neg (by omega),if_neg (by omega),if_neg (by omega),if_pos high]

theorem sequenceLength_four {first : Nat} (low : 0xF0 ≤ first) (high : first < 0xF5) : sequenceLength first = 4 := by
  rw [sequenceLength,if_neg (by omega),if_neg (by omega),if_neg (by omega),if_neg (by omega),if_pos high]

/-- A second byte is right for a first byte. -/
theorem secondInside {first second : Nat} (tail : 0x80 ≤ second ∧ second ≤ 0xBF) (e0 : first = 0xE0 → 0xA0 ≤ second)
    (ed : first = 0xED → second ≤ 0x9F) (f0 : first = 0xF0 → 0x90 ≤ second) (f4 : first = 0xF4 → second ≤ 0x8F) :
    secondLow first ≤ second ∧ second ≤ secondHigh first := by
  simp only [secondLow,secondHigh]
  constructor
  · split <;> [exact e0 ‹_›; split <;> [exact f0 ‹_›; exact tail.1]]
  · split <;> [exact ed ‹_›; split <;> [exact f4 ‹_›; exact tail.2]]

/-- A character is read back from its encoding. -/
theorem decodeFirst_encodeChar (c : Char) (rest : Bytes) :
    decodeFirst (String.utf8EncodeChar c ++ rest) = (c,(String.utf8EncodeChar c).length) := by
  have valid : c.val.toNat < 0xD800 ∨ 0xDFFF < c.val.toNat ∧ c.val.toNat < 0x110000 := c.valid
  have back : Char.ofNat c.val.toNat = c := Char.ofNat_toNat c
  have byte : ∀ {n : Nat}, n < 256 → (UInt8.ofNat n).toNat = n := UInt8.toNat_ofNat_of_lt'
  unfold String.utf8EncodeChar
  generalize c.val.toNat = v at valid back
  dsimp only
  by_cases one : v ≤ 0x7F
  · have lead : (UInt8.ofNat v).toNat = v := byte (by omega)
    have length : sequenceLength v = 1 := if_pos (by omega)
    rw [if_pos one,List.singleton_append,decodeFirst,lead,length]
    simp [back]
  rw [if_neg one]
  by_cases two : v ≤ 0x7FF
  · have lead : (UInt8.ofNat (v / 64 % 0x20 + 0xC0)).toNat = v / 64 % 0x20 + 0xC0 := byte (by omega)
    have last : (UInt8.ofNat (v % 0x40 + 0x80)).toNat = v % 0x40 + 0x80 := byte (by omega)
    rw [if_pos two]
    generalize UInt8.ofNat (v / 64 % 0x20 + 0xC0) = first at lead ⊢
    generalize UInt8.ofNat (v % 0x40 + 0x80) = second at last ⊢
    have length : sequenceLength first.toNat = 2 := sequenceLength_two (by omega) (by omega)
    obtain ⟨low,high⟩ := @secondInside first.toNat second.toNat (by omega) (by omega) (by omega) (by omega) (by omega)
    have value : codePoint first.toNat [second] = v := by
      simp only [codePoint,List.foldl_cons,List.foldl_nil,List.length_singleton]
      omega
    have read := @decodeFirst_of first [second] rest (by simp) length (continuation_cons low high)
    rw [value,back] at read
    exact read
  rw [if_neg two]
  by_cases three : v ≤ 0xFFFF
  · have lead : (UInt8.ofNat (v / 4096 % 0x10 + 0xE0)).toNat = v / 4096 % 0x10 + 0xE0 := byte (by omega)
    have middle : (UInt8.ofNat (v / 64 % 0x40 + 0x80)).toNat = v / 64 % 0x40 + 0x80 := byte (by omega)
    have last : (UInt8.ofNat (v % 0x40 + 0x80)).toNat = v % 0x40 + 0x80 := byte (by omega)
    rw [if_pos three]
    generalize UInt8.ofNat (v / 4096 % 0x10 + 0xE0) = first at lead ⊢
    generalize UInt8.ofNat (v / 64 % 0x40 + 0x80) = second at middle ⊢
    generalize UInt8.ofNat (v % 0x40 + 0x80) = third at last ⊢
    have length : sequenceLength first.toNat = 3 := sequenceLength_three (by omega) (by omega)
    obtain ⟨low,high⟩ := @secondInside first.toNat second.toNat (by omega) (by omega) (by omega) (by omega) (by omega)
    have value : codePoint first.toNat [second,third] = v := by
      simp only [codePoint,List.foldl_cons,List.foldl_nil,List.length_cons,List.length_nil]
      omega
    have continues : continuation 2 (secondLow first.toNat) (secondHigh first.toNat) (second :: third :: rest) =
        [second,third] := by
      rw [continuation_cons low high,continuation_cons (by omega) (by omega)]
      rfl
    have read := @decodeFirst_of first [second,third] rest (by simp) length continues
    rw [value,back] at read
    exact read
  · have lead : (UInt8.ofNat (v / 262144 % 0x08 + 0xF0)).toNat = v / 262144 % 0x08 + 0xF0 := byte (by omega)
    have after : (UInt8.ofNat (v / 4096 % 0x40 + 0x80)).toNat = v / 4096 % 0x40 + 0x80 := byte (by omega)
    have middle : (UInt8.ofNat (v / 64 % 0x40 + 0x80)).toNat = v / 64 % 0x40 + 0x80 := byte (by omega)
    have last : (UInt8.ofNat (v % 0x40 + 0x80)).toNat = v % 0x40 + 0x80 := byte (by omega)
    rw [if_neg three]
    generalize UInt8.ofNat (v / 262144 % 0x08 + 0xF0) = first at lead ⊢
    generalize UInt8.ofNat (v / 4096 % 0x40 + 0x80) = second at after ⊢
    generalize UInt8.ofNat (v / 64 % 0x40 + 0x80) = third at middle ⊢
    generalize UInt8.ofNat (v % 0x40 + 0x80) = fourth at last ⊢
    have length : sequenceLength first.toNat = 4 := sequenceLength_four (by omega) (by omega)
    obtain ⟨low,high⟩ := @secondInside first.toNat second.toNat (by omega) (by omega) (by omega) (by omega) (by omega)
    have value : codePoint first.toNat [second,third,fourth] = v := by
      simp only [codePoint,List.foldl_cons,List.foldl_nil,List.length_cons,List.length_nil]
      omega
    have continues : continuation 3 (secondLow first.toNat) (secondHigh first.toNat)
        (second :: third :: fourth :: rest) = [second,third,fourth] := by
      rw [continuation_cons low high,continuation_cons (by omega) (by omega),continuation_cons (by omega) (by omega)]
      rfl
    have read := @decodeFirst_of first [second,third,fourth] rest (by simp) length continues
    rw [value,back] at read
    exact read

theorem decodeFrom_encode (text : List Char) {fuel : Nat} (enough : (encode text).length ≤ fuel) :
    decodeFrom fuel (encode text) = text := by
  induction text generalizing fuel with
  | nil => cases fuel <;> rfl
  | cons c text ih =>
    have split : encode (c :: text) = String.utf8EncodeChar c ++ encode text := List.flatMap_cons
    have positive : 0 < (String.utf8EncodeChar c).length := List.length_pos_of_ne_nil String.utf8EncodeChar_ne_nil
    rw [split,List.length_append] at enough
    obtain ⟨fuel,rfl⟩ : ∃ less, fuel = less + 1 := ⟨fuel - 1,by omega⟩
    rw [split]
    have unfolded : ∀ bytes : Bytes, bytes ≠ [] → decodeFrom (fuel + 1) bytes =
        (decodeFirst bytes).1 :: decodeFrom fuel (bytes.drop (decodeFirst bytes).2) := by
      intro bytes some
      cases bytes with
      | nil => exact absurd rfl some
      | cons first rest => rfl
    rw [unfolded _ (by simp [String.utf8EncodeChar_ne_nil]),decodeFirst_encodeChar,List.drop_left,ih (by omega)]

theorem decodeReplace_encode (text : List Char) : decodeReplace (encode text) = text :=
  decodeFrom_encode text le_rfl

end NxReverse.Utf8
