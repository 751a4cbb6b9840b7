import Mathlib.Algebra.Group.Nat.Defs
import Mathlib.Data.List.DropRight

/-! Byte strings of C and C++ as lists of characters, one character a byte: bounded
formatting, decimal printing and reading, and trimming. -/
namespace NxReverse.Text

abbrev CString := List Char

/-- A byte is the character with its number. -/
theorem toNat_byteChar (byte : UInt8) : (Char.ofNat byte.toNat).toNat = byte.toNat := by
  have valid : byte.toNat.isValidChar := .inl (Nat.lt_trans byte.toNat_lt (by decide))
  rw [Char.ofNat,dif_pos valid]
  rfl

/-- `snprintf` into a buffer of `capacity` bytes, one of them for the terminator. -/
def snprintf (capacity : Nat) (text : CString) : CString := text.take (capacity - 1)

/-- `%u`, `%zu` and `%llu`. -/
def decimal (value : Nat) : CString := Nat.toDigits 10 value

/-- `std::from_chars` of an unsigned type with maximum `bound`, all of `text` consumed.
Signs and blanks are not digits; a value out of range is an error. -/
def readUnsigned (bound : Nat) (text : CString) : Option Nat :=
  if text ≠ [] ∧ text.all Char.isDigit ∧ Nat.ofDigitChars 10 text 0 ≤ bound then
    some (Nat.ofDigitChars 10 text 0)
  else none

/-- `std::to_string` of a signed number. -/
def signedDecimal (value : Int) : CString :=
  if value < 0 then '-' :: decimal value.natAbs else decimal value.toNat

theorem decimal_ne_nil (value : Nat) : decimal value ≠ [] := Nat.toDigits_ne_nil

theorem isDigit_of_mem_decimal {c : Char} {value : Nat} (member : c ∈ decimal value) :
    c.isDigit = true :=
  Nat.isDigit_of_mem_toDigits (by decide) (by decide) member

theorem readUnsigned_decimal {bound value : Nat} (inside : value ≤ bound) :
    readUnsigned bound (decimal value) = some value := by
  have back : Nat.ofDigitChars 10 (decimal value) 0 = value := Nat.ofDigitChars_ten_toDigits
  have digits : (decimal value).all Char.isDigit = true :=
    List.all_eq_true.mpr fun _ member => isDigit_of_mem_decimal member
  simp [readUnsigned,back,digits,inside,decimal_ne_nil]

def find (needle : CString) : CString → Option Nat
  | [] => if needle = [] then some 0 else none
  | c :: rest => if needle.isPrefixOf (c :: rest) then some 0 else (find needle rest).map (· + 1)

/-- A search sees an occurrence exactly when all of it is inside what is searched. -/
theorem find_take {needle : CString} (nonempty : needle ≠ []) (text : CString) (k : Nat) :
    find needle (text.take k) = (find needle text).filter fun i => i + needle.length ≤ k := by
  have positive := List.length_pos_iff.mpr nonempty
  induction text generalizing k with
  | nil => simp [find,nonempty]
  | cons c rest ih =>
    cases k with
    | zero =>
      have outside : ∀ i, ¬i + needle.length ≤ 0 := fun i => by omega
      cases found : find needle (c :: rest) <;> simp [find,nonempty,Option.filter,outside]
    | succ k =>
      simp only [List.take_succ_cons,find]
      by_cases here : needle.isPrefixOf (c :: rest)
      · have front := List.isPrefixOf_iff_prefix.mp here
        by_cases inside : needle.length ≤ k + 1
        · have short : needle.isPrefixOf (c :: rest.take k) = true := by
            rw [List.isPrefixOf_iff_prefix,← List.take_succ_cons]
            exact List.prefix_take_iff.mpr ⟨front,inside⟩
          simp [here,short,Option.filter,inside]
        · have short : needle.isPrefixOf (c :: rest.take k) = false := by
            apply Bool.eq_false_iff.mpr
            intro shorter
            have bound := (List.isPrefixOf_iff_prefix.mp shorter).length_le
            simp only [List.length_cons,List.length_take] at bound
            omega
          rw [if_neg (by simp [short]),if_pos here,ih]
          cases find needle rest with
          | none => simp [Option.filter,inside]
          | some i =>
            have beyond : ¬i + needle.length ≤ k := by omega
            simp [Option.filter,inside,beyond]
      · have short : needle.isPrefixOf (c :: rest.take k) = false := by
          apply Bool.eq_false_iff.mpr
          intro shorter
          have front := List.isPrefixOf_iff_prefix.mp shorter
          rw [← List.take_succ_cons] at front
          exact here (List.isPrefixOf_iff_prefix.mpr (front.trans (List.take_prefix _ _)))
        simp only [here,short,if_false,Bool.false_eq_true,ih]
        cases find needle rest with
        | none => simp
        | some i =>
          have shift : (i + 1 + needle.length ≤ k + 1) ↔ (i + needle.length ≤ k) := by omega
          simp [Option.filter,shift,apply_ite (Option.map (· + 1))]

theorem find_isSome_iff {needle : CString} (nonempty : needle ≠ []) (text : CString) :
    (find needle text).isSome = true ↔ needle <:+: text := by
  induction text with
  | nil => simp [find,nonempty]
  | cons c rest ih =>
    rw [List.infix_cons_iff,← List.isPrefixOf_iff_prefix,← ih,find]
    by_cases here : needle.isPrefixOf (c :: rest) = true
    · simp [here]
    · simp [here]

theorem find_char {c : Char} {front : CString} (first : c ∉ front) (rest : CString) :
    find [c] (front ++ c :: rest) = some front.length := by
  induction front with
  | nil => simp [find,List.isPrefixOf]
  | cons d front ih =>
    have other : c ≠ d := fun same => first (same ▸ List.mem_cons_self)
    have later := ih fun member => first (List.mem_cons_of_mem d member)
    simp [find,List.isPrefixOf,other,later]

/-- A character that is found splits the text there. -/
theorem split_of_find {c : Char} {text : CString} {i : Nat} (found : find [c] text = some i) :
    text = text.take i ++ c :: text.drop (i + 1) := by
  induction text generalizing i with
  | nil => simp [find] at found
  | cons d rest ih =>
    by_cases here : c = d
    · subst here
      simp only [find,List.isPrefixOf,beq_self_eq_true,Bool.true_and,if_true,Option.some.injEq] at found
      subst found
      simp
    · simp only [find,List.isPrefixOf,beq_false_of_ne here,Bool.false_and,Bool.false_eq_true,if_false,
        Option.map_eq_some_iff] at found
      obtain ⟨j,later,rfl⟩ := found
      rw [List.take_succ_cons,List.drop_succ_cons,List.cons_append,← ih later]

/-- A text has the character nowhere, or is cut at the first one. -/
theorem find_char_cases (c : Char) (text : CString) : find [c] text = none ∧ c ∉ text ∨
    ∃ front rest, text = front ++ c :: rest ∧ c ∉ front ∧ find [c] text = some front.length := by
  by_cases member : c ∈ text
  · obtain ⟨front,rest,split,first⟩ := List.eq_append_cons_of_mem member
    exact .inr ⟨front,rest,split,first,split ▸ find_char first rest⟩
  · cases found : find [c] text with
    | none => exact .inl ⟨rfl,member⟩
    | some i =>
      have split := split_of_find found
      exact absurd (by rw [split]; simp) member

/-- A text is cut at its first such character in one way. -/
theorem cut_unique {c : Char} {front other rest tail : CString} (plain : c ∉ front) (plainOther : c ∉ other)
    (same : front ++ c :: rest = other ++ c :: tail) : front = other ∧ rest = tail := by
  have cut := find_char plain rest
  rw [same,find_char plainOther tail,Option.some_inj] at cut
  obtain ⟨fronts,backs⟩ := List.append_inj same cut.symm
  exact ⟨fronts,(List.cons.inj backs).2⟩

/-- `std::string::rfind`: where the character is for the last time. -/
def rfind (c : Char) : CString → Option Nat
  | [] => none
  | d :: rest =>
    match rfind c rest with
    | some i => some (i + 1)
    | none => if c = d then some 0 else none

theorem rfind_cases (c : Char) (text : CString) : rfind c text = none ∧ c ∉ text ∨
    ∃ front rest, text = front ++ c :: rest ∧ c ∉ rest ∧ rfind c text = some front.length := by
  induction text with
  | nil => simp [rfind]
  | cons d text ih =>
    rcases ih with ⟨nowhere,plain⟩ | ⟨front,rest,rfl,last,found⟩
    · by_cases here : c = d
      · subst here
        exact .inr ⟨[],text,rfl,plain,by simp [rfind,nowhere]⟩
      · exact .inl ⟨by simp [rfind,nowhere,here],by simp [here,plain]⟩
    · exact .inr ⟨d :: front,rest,rfl,last,by simp [rfind,found]⟩

theorem rfind_char {c : Char} (front : CString) {rest : CString} (last : c ∉ rest) :
    rfind c (front ++ c :: rest) = some front.length := by
  induction front with
  | nil =>
    rcases rfind_cases c rest with ⟨nowhere,-⟩ | ⟨front,tail,rfl,-⟩
    · simp [rfind,nowhere]
    · simp at last
  | cons d front ih => simp [rfind,ih]

theorem length_decimal_le {value digits : Nat} (positive : 0 < digits) (small : value < 10 ^ digits) :
    (decimal value).length ≤ digits :=
  (Nat.length_toDigits_le_iff (by decide) positive).mpr small

/-- Digits end where the next character is not one. -/
theorem decimal_append_inj {value other : Nat} {c : Char} (stop : c.isDigit = false) {rest tail : CString}
    (same : decimal value ++ c :: rest = decimal other ++ c :: tail) : value = other ∧ rest = tail := by
  have digits : ∀ (value : Nat) (rest : CString),
      (decimal value ++ c :: rest).takeWhile Char.isDigit = decimal value := fun value rest => by
    rw [List.takeWhile_append_of_pos fun _ member => isDigit_of_mem_decimal member,List.takeWhile_cons_of_neg (by simp [stop]),
      List.append_nil]
  have front : decimal value = decimal other := by rw [← digits value rest,same,digits other tail]
  have back : ∀ value, Nat.ofDigitChars 10 (decimal value) 0 = value := fun _ => Nat.ofDigitChars_ten_toDigits
  have number : value = other := by rw [← back value,front,back other]
  rw [front] at same
  exact ⟨number,(List.cons.inj (List.append_cancel_left same)).2⟩

end NxReverse.Text
