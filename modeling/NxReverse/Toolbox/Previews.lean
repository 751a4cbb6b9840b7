import NxReverse.Lib.PrefixCodes
import NxReverse.Toolbox.TunnelWait

/-! What a preview says of the bytes in it. Its escapes are a code of bytes by characters, in which the mark of a
preview that was cut reads as three dots; those are more bytes than the limit admits. -/
namespace NxReverse.Toolbox

open Text

/-- The value of a digit of `%02X`. -/
def upperHexValue (digit : Char) : Nat := if digit.isDigit then digit.toNat - 48 else digit.toNat - 55

theorem upperHexValue_digit : ∀ value < 16, upperHexValue (upperHexDigit value) = value := by decide

/-- What a backslash stands for with what is behind it. -/
def readEscape : CString → Option (UInt8 × CString)
  | 'r' :: rest => some (0x0D,rest)
  | 'n' :: rest => some (0x0A,rest)
  | 't' :: rest => some (0x09,rest)
  | '\\' :: rest => some (0x5C,rest)
  | 'x' :: high :: low :: rest => some (UInt8.ofNat (upperHexValue high * 16 + upperHexValue low),rest)
  | _ => none

def unescapeByte : CString → Option (UInt8 × CString)
  | [] => none
  | first :: rest => if first = '\\' then readEscape rest else some (UInt8.ofNat first.toNat,rest)

theorem unescapeByte_hex (byte : UInt8) (rest : CString) :
    unescapeByte ('\\' :: 'x' :: upperHexDigit (byte.toNat / 16) :: upperHexDigit (byte.toNat % 16) :: rest) =
      some (byte,rest) := by
  have bound := byte.toNat_lt
  have high := upperHexValue_digit (byte.toNat / 16) (by omega)
  have low := upperHexValue_digit (byte.toNat % 16) (by omega)
  have value : byte.toNat / 16 * 16 + byte.toNat % 16 = byte.toNat := by omega
  have read : ∀ digit other : Char, unescapeByte ('\\' :: 'x' :: digit :: other :: rest) =
      some (UInt8.ofNat (upperHexValue digit * 16 + upperHexValue other),rest) := fun _ _ => rfl
  rw [read,high,low,value,UInt8.ofNat_toNat]

theorem unescapeByte_escapeByte (byte : UInt8) (rest : CString) :
    unescapeByte (escapeByte byte ++ rest) = some (byte,rest) := by
  rw [escapeByte]
  split
  next carriage => rw [carriage]; rfl
  split
  next newline => rw [newline]; rfl
  split
  next tab => rw [tab]; rfl
  split
  next backslash => rw [backslash]; rfl
  next other =>
    split
    next printable =>
      have code := toNat_byteChar byte
      have plain : Char.ofNat byte.toNat ≠ '\\' := by
        intro same
        rw [same] at code
        exact other (UInt8.toNat_inj.mp code.symm)
      rw [List.singleton_append,unescapeByte,if_neg plain,code,UInt8.ofNat_toNat]
    next => exact unescapeByte_hex byte rest

theorem escapeByte_ne_nil (byte : UInt8) : escapeByte byte ≠ [] := by
  rw [escapeByte]
  repeat' split
  all_goals exact List.cons_ne_nil _ _

def previewCode : PrefixCode UInt8 Char := ⟨escapeByte,unescapeByte,escapeByte_ne_nil,unescapeByte_escapeByte⟩

def previewed (data : List UInt8) (limit : Nat) : List UInt8 :=
  data.take limit ++ if data.length > limit then [0x2E,0x2E,0x2E] else []

theorem escapePreview_eq (data : List UInt8) (limit : Nat) :
    escapePreview data limit = previewCode.writeAll (previewed data limit) := by
  have mark : (if data.length > limit then "...".toList else []) =
      previewCode.writeAll (if data.length > limit then [0x2E,0x2E,0x2E] else []) := by
    split <;> rfl
  rw [escapePreview,previewed,PrefixCode.writeAll_append,mark]
  rfl

theorem length_previewed (data : List UInt8) (limit : Nat) :
    (previewed data limit).length = if data.length > limit then limit + 3 else data.length := by
  rw [previewed,List.length_append,List.length_take]
  split
  · rw [List.length_cons,List.length_cons,List.length_cons,List.length_nil]
    omega
  · rw [List.length_nil]
    omega

/-- Only a preview that was cut reads as more bytes than its limit. -/
theorem limit_lt_length_previewed (data : List UInt8) (limit : Nat) :
    limit < (previewed data limit).length ↔ limit < data.length := by
  rw [length_previewed]
  split <;> omega

/-- Two previews with one limit are the same exactly if they show the same bytes and both or neither were cut. -/
theorem escapePreview_eq_iff (first second : List UInt8) (limit : Nat) :
    escapePreview first limit = escapePreview second limit ↔
      first.take limit = second.take limit ∧ (limit < first.length ↔ limit < second.length) := by
  rw [escapePreview_eq,escapePreview_eq,PrefixCode.writeAll_inj]
  constructor
  · intro same
    have cut : limit < first.length ↔ limit < second.length := by
      rw [← limit_lt_length_previewed first,same,limit_lt_length_previewed]
    refine ⟨?_,cut⟩
    rw [previewed,previewed] at same
    by_cases longer : limit < first.length
    · rw [if_pos longer,if_pos (cut.mp longer)] at same
      exact List.append_cancel_right same
    · rw [if_neg longer,if_neg (mt cut.mpr longer)] at same
      exact List.append_cancel_right same
  · rintro ⟨shown,cut⟩
    rw [previewed,previewed,shown]
    congr 1
    exact if_congr cut rfl rfl

/-- The mark of one limit is three dots under another. -/
example : escapePreview [0x41] 0 = escapePreview [0x2E,0x2E,0x2E] 3 := by decide

/-- A preview with its own size for a limit is never cut and shows everything. -/
theorem escapePreview_whole_iff (data other : List UInt8) :
    escapePreview data data.length = escapePreview other other.length ↔ data = other := by
  have whole : ∀ data : List UInt8, previewed data data.length = data := by
    intro data
    simp [previewed]
  rw [escapePreview_eq,escapePreview_eq,whole,whole,PrefixCode.writeAll_inj]

/-- The range that `EscapePreview` prints as it is. -/
def isPrinted (c : Char) : Bool := 0x20 ≤ c.toNat && c.toNat ≤ 0x7E

theorem isPrinted_upperHexDigit : ∀ value < 16, isPrinted (upperHexDigit value) = true := by decide

theorem isPrinted_escapeByte (byte : UInt8) : (escapeByte byte).all isPrinted = true := by
  rw [escapeByte]
  split
  · rfl
  split
  · rfl
  split
  · rfl
  split
  · rfl
  split
  next printable =>
    have low : 0x20 ≤ byte.toNat := printable.1
    have high : byte.toNat ≤ 0x7E := printable.2
    simp [isPrinted,toNat_byteChar,low,high]
  next =>
    have bound := byte.toNat_lt
    have first := isPrinted_upperHexDigit (byte.toNat / 16) (by omega)
    have second := isPrinted_upperHexDigit (byte.toNat % 16) (by omega)
    rw [List.all_append,List.all_cons,List.all_cons,first,second]
    rfl

/-- A preview breaks no line. -/
theorem isPrinted_escapePreview (data : List UInt8) (limit : Nat) : (escapePreview data limit).all isPrinted = true := by
  rw [escapePreview_eq,PrefixCode.writeAll,List.all_flatMap,List.all_eq_true]
  exact fun byte _ => isPrinted_escapeByte byte

end NxReverse.Toolbox
