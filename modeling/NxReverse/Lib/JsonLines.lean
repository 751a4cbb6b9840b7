import NxReverse.Lib.Text

/-! Lines of JSON printed by one format into a fixed buffer: the conversions of the format, the
longest line that it can make, and buffers that are filled piece by piece. -/
namespace NxReverse.JsonLines

open Text

/-- `%X`. -/
def upperHex (value : Nat) : CString := (Nat.toDigits 16 value).map Char.toUpper

/-- `%0*X` with a width. -/
def paddedHex (width value : Nat) : CString := (upperHex value).leftpad width '0'

/-- The character stands for itself between the quotes of a JSON string. -/
def standsForItself (c : Char) : Bool := c != '"' && c != '\\' && 32 ≤ c.toNat

def isStringText (text : CString) : Bool := text.all standsForItself

@[simp] theorem isStringText_nil : isStringText [] = true := rfl

@[simp] theorem isStringText_cons (c : Char) (text : CString) :
    isStringText (c :: text) = (standsForItself c && isStringText text) := rfl

@[simp] theorem isStringText_append (front back : CString) :
    isStringText (front ++ back) = (isStringText front && isStringText back) := List.all_append

theorem isStringText_take {text : CString} (whole : isStringText text = true) (count : Nat) :
    isStringText (text.take count) = true :=
  List.all_eq_true.mpr fun c member => List.all_eq_true.mp whole c (List.mem_of_mem_take member)

theorem isStringText_snprintf {text : CString} (whole : isStringText text = true) (capacity : Nat) :
    isStringText (snprintf capacity text) = true := isStringText_take whole _

theorem standsForItself_of_digit {c : Char} (digit : c.isDigit = true) : standsForItself c = true := by
  have range : 48 ≤ c.toNat ∧ c.toNat ≤ 57 := by
    rw [Char.isDigit,Bool.and_eq_true,decide_eq_true_eq,decide_eq_true_eq] at digit
    exact digit
  have noQuote : c ≠ '"' := fun same => by subst same; exact absurd range.1 (by decide)
  have noEscape : c ≠ '\\' := fun same => by subst same; exact absurd range.2 (by decide)
  have printed : 32 ≤ c.toNat := by omega
  simp [standsForItself,noQuote,noEscape,printed]

@[simp] theorem isStringText_decimal (value : Nat) : isStringText (decimal value) = true :=
  List.all_eq_true.mpr fun _ member => standsForItself_of_digit (isDigit_of_mem_decimal member)

@[simp] theorem isStringText_signedDecimal (value : Int) : isStringText (signedDecimal value) = true := by
  have sign : standsForItself '-' = true := by decide
  unfold signedDecimal
  split
  · rw [isStringText_cons,sign,Bool.true_and]
    exact isStringText_decimal _
  · exact isStringText_decimal _

theorem standsForItself_hexDigit : ∀ digit < 16, standsForItself (Nat.digitChar digit).toUpper = true := by decide

@[simp] theorem isStringText_upperHex (value : Nat) : isStringText (upperHex value) = true := by
  induction value using Nat.strongRecOn with
  | ind value ih =>
    rw [upperHex,Nat.toDigits_eq_if (by decide)]
    split
    · rename_i digit
      rw [List.map_singleton,isStringText_cons,isStringText_nil,Bool.and_true]
      exact standsForItself_hexDigit value digit
    · have smaller : value / 16 < value := by omega
      have front := ih (value / 16) smaller
      rw [upperHex] at front
      rw [List.map_append,isStringText_append,front,Bool.true_and,List.map_singleton,isStringText_cons,
        isStringText_nil,Bool.and_true]
      exact standsForItself_hexDigit (value % 16) (Nat.mod_lt value (by decide))

@[simp] theorem isStringText_paddedHex (digits value : Nat) : isStringText (paddedHex digits value) = true := by
  have zero : standsForItself '0' = true := by decide
  have zeros : ∀ count, isStringText (List.replicate count '0') = true := fun count =>
    List.all_eq_true.mpr fun c member => by rw [List.eq_of_mem_replicate member,zero]
  rw [paddedHex,List.leftpad,isStringText_append,zeros,isStringText_upperHex,Bool.and_self]

structure StringText where
  text : CString
  isString : isStringText text = true
  deriving DecidableEq

namespace StringText

def empty : StringText := ⟨[],rfl⟩

def literal (text : String) (isString : isStringText text.toList = true := by decide) : StringText :=
  ⟨text.toList,isString⟩

def append (front back : StringText) : StringText where
  text := front.text ++ back.text
  isString := by rw [isStringText_append,front.isString,back.isString,Bool.and_self]

instance : Append StringText := ⟨append⟩

/-- `%u` and `%zu`. -/
def unsigned (value : Nat) : StringText := ⟨decimal value,isStringText_decimal value⟩

/-- `%d`. -/
def signed (value : Int32) : StringText := ⟨signedDecimal value.toInt,isStringText_signedDecimal value.toInt⟩

/-- `%X`. -/
def hex (value : Nat) : StringText := ⟨upperHex value,isStringText_upperHex value⟩

/-- `%08X` and `%016llX`. -/
def padded (digits value : Nat) : StringText := ⟨paddedHex digits value,isStringText_paddedHex digits value⟩

/-- Printed into a buffer. -/
def into (capacity : Nat) (t : StringText) : StringText :=
  ⟨snprintf capacity t.text,isStringText_snprintf t.isString capacity⟩

@[simp] theorem text_empty : empty.text = [] := rfl
@[simp] theorem text_literal (text : String) (isString : isStringText text.toList = true) :
    (literal text isString).text = text.toList := rfl
@[simp] theorem text_append (front back : StringText) : (front ++ back).text = front.text ++ back.text := rfl
@[simp] theorem text_unsigned (value : Nat) : (unsigned value).text = decimal value := rfl
@[simp] theorem text_signed (value : Int32) : (signed value).text = signedDecimal value.toInt := rfl
@[simp] theorem text_padded (digits value : Nat) : (padded digits value).text = paddedHex digits value := rfl
@[simp] theorem text_into (capacity : Nat) (t : StringText) : (t.into capacity).text = snprintf capacity t.text := rfl

end StringText

def quoted (text : CString) : CString := '"' :: text ++ ['"']

/-- What a format prints behind a key. -/
inductive JsonValue where
  /-- `%u` -/
  | u32 (value : UInt32)
  /-- `%llu` and `%zu` -/
  | u64 (value : UInt64)
  /-- `%d` -/
  | s32 (value : Int32)
  /-- `"0x%08X"` -/
  | hex32 (value : UInt32)
  /-- `"0x%016llX"` -/
  | hex64 (value : UInt64)
  /-- `%s`, given `true` or `false` -/
  | bool (value : Bool)
  /-- Part of the format, a number or in quotes. -/
  | constant (literal : String)
  | label (literal : String)
  /-- `"%s"`, any text or one that keeps to its quotes -/
  | text (value : CString)
  | stringText (value : StringText)
  /-- Numbers between brackets. -/
  | list (values : List UInt32)
  /-- `%s` -/
  | verbatim (value : CString)
  deriving DecidableEq

abbrev Member := String × JsonValue

def listPieces (values : List UInt32) : List CString :=
  values.zipIdx.map fun value => (if value.2 = 0 then [] else [',']) ++ decimal value.1.toNat

def printList (values : List UInt32) : CString := '[' :: (listPieces values).flatten ++ [']']

def JsonValue.print : JsonValue → CString
  | u32 value => decimal value.toNat
  | u64 value => decimal value.toNat
  | s32 value => signedDecimal value.toInt
  | hex32 value => quoted ("0x".toList ++ paddedHex 8 value.toNat)
  | hex64 value => quoted ("0x".toList ++ paddedHex 16 value.toNat)
  | bool value => if value then "true".toList else "false".toList
  | constant literal => literal.toList
  | label literal => quoted literal.toList
  | text value => quoted value
  | stringText value => quoted value.text
  | list values => printList values
  | verbatim value => value

/-- The value can be read back whole: a text keeps to its quotes or is one of `copied`, and a list that
was printed before has all of its numbers. -/
def JsonValue.Whole (copied : List CString) : JsonValue → Prop
  | text value => isStringText value = true ∨ value ∈ copied
  | verbatim value => ∃ values, value = printList values
  | _ => True

def printMember (m : Member) : CString := quoted m.1.toList ++ ':' :: m.2.print

def printRest (members : List Member) : CString := members.flatMap fun m => ',' :: printMember m

def printMembers : List Member → CString
  | [] => []
  | first :: rest => printMember first ++ printRest rest

def printLine (members : List Member) : CString := '{' :: printMembers members ++ "\x7d\n".toList

example : printLine [("thread_id",.constant "0"),("service",.text "ssl".toList),("result",.hex32 0xE401)] =
    "\x7b\"thread_id\":0,\"service\":\"ssl\",\"result\":\"0x0000E401\"\x7d\n".toList := by decide

/-- The longest that a value gets, the text it is given aside. -/
def JsonValue.width : JsonValue → Nat
  | u32 _ => 10
  | u64 _ => 20
  | s32 _ => 11
  | hex32 _ => 12
  | hex64 _ => 20
  | bool _ => 5
  | constant literal => literal.length
  | label literal => literal.length + 2
  | text _ => 2
  | stringText _ => 2
  | list _ => 0
  | verbatim _ => 0

def JsonValue.givenLength : JsonValue → Nat
  | text value => value.length
  | stringText value => value.text.length
  | list values => (printList values).length
  | verbatim value => value.length
  | _ => 0

/-- The longest that members get, each with a comma in front, and the texts they are given aside. -/
def width : List Member → Nat
  | [] => 0
  | (key,value) :: rest => key.length + 4 + value.width + width rest

def givenLength : List Member → Nat
  | [] => 0
  | (_,value) :: rest => value.givenLength + givenLength rest

theorem length_upperHex_le {value digits : Nat} (positive : 0 < digits) (small : value < 16 ^ digits) :
    (upperHex value).length ≤ digits := by
  rw [upperHex,List.length_map]
  exact (Nat.length_toDigits_le_iff (by decide) positive).mpr small

theorem length_paddedHex {value digits : Nat} (positive : 0 < digits) (small : value < 16 ^ digits) :
    (paddedHex digits value).length = digits := by
  have short := length_upperHex_le positive small
  rw [paddedHex,List.length_leftpad]
  exact max_eq_left short

theorem length_signedDecimal_le {value : Int} {digits : Nat} (positive : 0 < digits)
    (small : value.natAbs < 10 ^ digits) : (signedDecimal value).length ≤ digits + 1 := by
  unfold signedDecimal
  split
  · have magnitude := length_decimal_le positive small
    rw [List.length_cons]
    omega
  · have same : value.toNat = value.natAbs := by omega
    have magnitude := length_decimal_le positive small
    rw [same]
    omega

theorem length_decimal_u32 (value : UInt32) : (decimal value.toNat).length ≤ 10 := by
  have bound := value.toNat_lt
  exact length_decimal_le (by decide) (by omega)

theorem length_decimal_u64 (value : UInt64) : (decimal value.toNat).length ≤ 20 := by
  have bound := value.toNat_lt
  exact length_decimal_le (by decide) (by omega)

theorem length_decimal_s32 (value : Int32) : (signedDecimal value.toInt).length ≤ 11 := by
  have low := value.le_toInt
  have high := value.toInt_lt
  exact length_signedDecimal_le (by decide) (by omega)

theorem length_quoted (text : CString) : (quoted text).length = text.length + 2 := by
  rw [quoted,List.length_append,List.length_cons,List.length_singleton]

theorem length_print_le (value : JsonValue) : value.print.length ≤ value.width + value.givenLength := by
  have mark : "0x".toList.length = 2 := by decide
  cases value with
  | u32 value => exact length_decimal_u32 value
  | u64 value => exact length_decimal_u64 value
  | s32 value => exact length_decimal_s32 value
  | hex32 value =>
    have bound := value.toNat_lt
    rw [JsonValue.print,length_quoted,List.length_append,mark,length_paddedHex (by decide) (by omega)]
    exact Nat.le_refl 12
  | hex64 value =>
    have bound := value.toNat_lt
    rw [JsonValue.print,length_quoted,List.length_append,mark,length_paddedHex (by decide) (by omega)]
    exact Nat.le_refl 20
  | bool value => cases value <;> decide
  | constant literal => exact Nat.le_of_eq String.length_toList
  | label literal =>
    rw [JsonValue.print,length_quoted,String.length_toList]
    exact Nat.le_refl _
  | text value =>
    rw [JsonValue.print,length_quoted]
    exact Nat.le_of_eq (Nat.add_comm value.length 2)
  | stringText value =>
    rw [JsonValue.print,length_quoted]
    exact Nat.le_of_eq (Nat.add_comm value.text.length 2)
  | list values => exact Nat.le_of_eq (Nat.zero_add _).symm
  | verbatim value => exact Nat.le_of_eq (Nat.zero_add value.length).symm

theorem length_printMember_le (m : Member) :
    (printMember m).length ≤ m.1.length + 3 + m.2.width + m.2.givenLength := by
  have value := length_print_le m.2
  rw [printMember,List.length_append,List.length_cons,length_quoted,String.length_toList]
  omega

theorem length_printRest_le (members : List Member) :
    (printRest members).length ≤ width members + givenLength members := by
  induction members with
  | nil => exact Nat.le_refl 0
  | cons m rest ih =>
    have here := length_printMember_le m
    change (',' :: printMember m ++ printRest rest).length ≤ _
    rw [List.length_append,List.length_cons,width,givenLength]
    omega

theorem length_printLine_le (members : List Member) :
    (printLine members).length ≤ width members + givenLength members + 3 := by
  have closing : "\x7d\n".toList.length = 2 := by decide
  rw [printLine,List.length_append,List.length_cons,closing]
  cases members with
  | nil => exact Nat.le_refl 3
  | cons m rest =>
    have here := length_printMember_le m
    have behind := length_printRest_le rest
    rw [printMembers,List.length_append,width,givenLength]
    omega

theorem width_nil_le : width [] ≤ 0 := Nat.le_refl 0

-- the characters of the key are read off its literal, without decoding it
theorem width_cons_le {key : List Char} {value : JsonValue} {rest : List Member} {limit : Nat}
    (behind : width rest ≤ limit) : width ((String.ofList key,value) :: rest) ≤ key.length + 4 + value.width + limit := by
  rw [width,String.length_ofList]
  omega

theorem givenLength_append (front back : List Member) :
    givenLength (front ++ back) = givenLength front + givenLength back := by
  induction front with
  | nil => rw [List.nil_append,givenLength,Nat.zero_add]
  | cons m rest ih =>
    rw [List.cons_append,givenLength,givenLength,ih]
    omega

theorem printRest_append (front back : List Member) :
    printRest (front ++ back) = printRest front ++ printRest back := List.flatMap_append

theorem printRest_flatten (groups : List (List Member)) :
    printRest groups.flatten = (groups.map printRest).flatten := by
  induction groups with
  | nil => rfl
  | cons group rest ih => rw [List.flatten_cons,printRest_append,ih,List.map_cons,List.flatten_cons]

/-- A piece printed at the end of what a buffer holds. -/
def appendPiece (capacity : Nat) (out piece : CString) : CString := snprintf capacity (out ++ piece)

theorem length_snprintf_le (capacity : Nat) (text : CString) : (snprintf capacity text).length ≤ capacity - 1 :=
  List.length_take_le _ _

theorem snprintf_of_fits {capacity : Nat} {text : CString} (fits : text.length < capacity) :
    snprintf capacity text = text := List.take_of_length_le (by omega)

theorem snprintf_append (capacity : Nat) (front back : CString) :
    snprintf capacity (snprintf capacity front ++ back) = snprintf capacity (front ++ back) := by
  unfold snprintf
  rw [List.take_append,List.take_append,List.take_take,Nat.min_self,List.length_take]
  by_cases short : front.length ≤ capacity - 1
  · rw [Nat.min_eq_right short]
  · have none : capacity - 1 - front.length = 0 := by omega
    have cut : capacity - 1 - min (capacity - 1) front.length = 0 := by omega
    rw [none,cut]

/-- Pieces behind each other are cut where one text of them all is. -/
theorem foldl_appendPiece (capacity : Nat) (front : CString) (pieces : List CString) :
    pieces.foldl (appendPiece capacity) (snprintf capacity front) = snprintf capacity (front ++ pieces.flatten) := by
  induction pieces generalizing front with
  | nil => rw [List.flatten_nil,List.append_nil,List.foldl_nil]
  | cons piece rest ih =>
    rw [List.foldl_cons,appendPiece,snprintf_append,ih,List.flatten_cons,List.append_assoc]

end NxReverse.JsonLines
