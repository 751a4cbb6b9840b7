import NxReverse.Lib.PrefixCodes
import NxReverse.Tools.Msgpack

/-! The texts of Python values. `repr` can be read back: a value is determined by its text, with anything behind it
that does not continue a number. -/
namespace NxReverse.Tools.Msgpack

open Text Words

def hexValue (c : Char) : Nat := if c.isDigit then c.toNat - 48 else c.toNat - 87

def readHex (digits : PyStr) : Nat := digits.foldl (fun value c => value * 16 + hexValue c) 0

@[simp] theorem length_lowerHex (width value : Nat) : (lowerHex width value).length = width := by
  induction width generalizing value with
  | zero => rfl
  | succ width ih => simp [lowerHex,ih]

theorem readHex_lowerHex {width value : Nat} (fits : value < 16 ^ width) : readHex (lowerHex width value) = value := by
  induction width generalizing value with
  | zero =>
    obtain rfl : value = 0 := by simpa using fits
    rfl
  | succ width ih =>
    have digits : ∀ digit < 16, hexValue (Nat.digitChar digit) = digit := by decide
    have shorter : value / 16 < 16 ^ width := by
      rw [Nat.pow_succ] at fits
      omega
    have front := ih shorter
    rw [readHex] at front ⊢
    rw [lowerHex,List.foldl_append,front,List.foldl_cons,List.foldl_nil,digits _ (Nat.mod_lt _ (by decide))]
    omega

/-- A character read back from a literal, and what is behind it. -/
def unescape : PyStr → Option (Char × PyStr)
  | [] => none
  | first :: rest =>
    if first ≠ '\\' then some (first,rest)
    else
      match rest with
      | [] => none
      | kind :: rest =>
        if kind = 't' then some ('\t',rest)
        else if kind = 'n' then some ('\n',rest)
        else if kind = 'r' then some ('\r',rest)
        else if kind = 'x' then some (Char.ofNat (readHex (rest.take 2)),rest.drop 2)
        else if kind = 'u' then some (Char.ofNat (readHex (rest.take 4)),rest.drop 4)
        else if kind = 'U' then some (Char.ofNat (readHex (rest.take 8)),rest.drop 8)
        else some (kind,rest)

/-- A character is read back from its number, in whichever width it has room. -/
theorem unescape_hex {kind : Char} {width : Nat} (form : (kind,width) ∈ [('x',2),('u',4),('U',8)]) {c : Char}
    (fits : c.toNat < 16 ^ width) (rest : PyStr) :
    unescape (['\\',kind] ++ lowerHex width c.toNat ++ rest) = some (c,rest) := by
  have length := length_lowerHex width c.toNat
  have value : Char.ofNat (readHex ((lowerHex width c.toNat ++ rest).take width)) = c := by
    rw [List.take_left' length,readHex_lowerHex fits]
    exact Char.ofNat_toNat c
  have behind : (lowerHex width c.toNat ++ rest).drop width = rest := List.drop_left' length
  have read : unescape (['\\',kind] ++ lowerHex width c.toNat ++ rest) =
      some (Char.ofNat (readHex ((lowerHex width c.toNat ++ rest).take width)),
        (lowerHex width c.toNat ++ rest).drop width) := by
    simp only [List.mem_cons,Prod.mk.injEq,List.not_mem_nil,or_false] at form
    rcases form with ⟨rfl,rfl⟩ | ⟨rfl,rfl⟩ | ⟨rfl,rfl⟩ <;> rfl
  rw [read,value,behind]

variable (isPrintable : Char → Bool)

def IsQuote (quote : Char) : Prop := quote = '\'' ∨ quote = '"'

theorem isQuote_quoteOf (text : PyStr) : IsQuote (quoteOf text) := by
  rw [quoteOf]
  split
  · exact .inr rfl
  · exact .inl rfl

theorem unescape_escapeChar {quote : Char} (quotes : IsQuote quote) (c : Char) (rest : PyStr) :
    unescape (escapeChar isPrintable quote c ++ rest) = some (c,rest) := by
  have code : c.toNat < 16 ^ 8 := by
    have bound := c.valid
    have limit : c.val.toNat < 0x110000 := by
      rcases bound with low | high
      · exact Nat.lt_trans low (by decide)
      · exact high.2
    exact Nat.lt_trans limit (by decide)
  rw [escapeChar]
  split
  next special =>
    rcases special with rfl | rfl
    · rcases quotes with rfl | rfl <;> rfl
    · rfl
  next plain =>
    have plain := not_or.mp plain
    split
    next tab => rw [tab]; rfl
    split
    next newline => rw [newline]; rfl
    split
    next carriage => rw [carriage]; rfl
    split
    next control => exact unescape_hex (by simp) (by omega) rest
    split
    next => simp [unescape,plain.2]
    split
    next small => exact unescape_hex (by simp) (by omega) rest
    split
    next medium => exact unescape_hex (by simp) (by omega) rest
    next => exact unescape_hex (by simp) code rest

/-- No escape starts with the quote. -/
theorem escapeChar_head {quote : Char} (quotes : IsQuote quote) (c : Char) :
    ∃ first more, escapeChar isPrintable quote c = first :: more ∧ first ≠ quote := by
  have backslash : '\\' ≠ quote := by rcases quotes with rfl | rfl <;> decide
  rw [escapeChar]
  split
  · exact ⟨'\\',[c],rfl,backslash⟩
  next plain =>
    split
    · exact ⟨'\\',_,rfl,backslash⟩
    split
    · exact ⟨'\\',_,rfl,backslash⟩
    split
    · exact ⟨'\\',_,rfl,backslash⟩
    split
    · exact ⟨'\\',_,rfl,backslash⟩
    split
    · exact ⟨c,[],rfl,(not_or.mp plain).1⟩
    split
    · exact ⟨'\\',_,rfl,backslash⟩
    split
    · exact ⟨'\\',_,rfl,backslash⟩
    · exact ⟨'\\',_,rfl,backslash⟩

theorem escapeChar_ne_nil {quote : Char} (quotes : IsQuote quote) (c : Char) : escapeChar isPrintable quote c ≠ [] := by
  obtain ⟨first,more,escape,_⟩ := escapeChar_head isPrintable quotes c
  rw [escape]
  exact List.cons_ne_nil first more

def literalCode {quote : Char} (quotes : IsQuote quote) : PrefixCode Char Char :=
  ⟨escapeChar isPrintable quote,unescape,escapeChar_ne_nil isPrintable quotes,unescape_escapeChar isPrintable quotes⟩

/-- The inside of a literal ends at its quote. -/
theorem ends_quote {quote : Char} (quotes : IsQuote quote) (rest : PyStr) :
    (literalCode isPrintable quotes).Ends (quote :: rest) := by
  intro c more same
  obtain ⟨first,others,escape,differs⟩ := escapeChar_head isPrintable quotes c
  have word : (literalCode isPrintable quotes).write c = first :: others := escape
  rw [word] at same
  exact differs (List.cons.inj same).1.symm

theorem body_inj {quote : Char} (quotes : IsQuote quote) {text other rest tail : PyStr}
    (same : text.flatMap (escapeChar isPrintable quote) ++ quote :: rest =
      other.flatMap (escapeChar isPrintable quote) ++ quote :: tail) : text = other ∧ rest = tail := by
  obtain ⟨inside,behind⟩ := (literalCode isPrintable quotes).writeAll_append_inj
    (ends_quote isPrintable quotes rest) (ends_quote isPrintable quotes tail) same
  exact ⟨inside,(List.cons.inj behind).2⟩

theorem reprStr_inj {text other rest tail : PyStr}
    (same : reprStr isPrintable text ++ rest = reprStr isPrintable other ++ tail) : text = other ∧ rest = tail := by
  rw [reprStr,reprStr,List.cons_append,List.cons_append,List.cons_append,List.cons_append,List.append_assoc,
    List.append_assoc,List.cons_append,List.cons_append] at same
  obtain ⟨quote,body⟩ := List.cons.inj same
  rw [quote] at body
  exact body_inj isPrintable (isQuote_quoteOf other) body

theorem reprBytes_inj {data other : Bytes} {rest tail : PyStr} (same : reprBytes data ++ rest = reprBytes other ++ tail) :
    data = other ∧ rest = tail := by
  obtain ⟨chars,behind⟩ := reprStr_inj _ (List.cons.inj same).2
  have injective : Function.Injective fun byte : UInt8 => Char.ofNat byte.toNat := by
    intro byte other same
    have codes := congrArg Char.toNat same
    simp only [toNat_byteChar] at codes
    exact UInt8.toNat_inj.mp codes
  exact ⟨injective.list_map chars,behind⟩

def Stops (text : PyStr) : Prop := ∀ c, text.head? = some c → c.isDigit = false

theorem Stops.takeWhile {text : PyStr} (stops : Stops text) : text.takeWhile Char.isDigit = [] := by
  cases text with
  | nil => rfl
  | cons c text => exact List.takeWhile_cons_of_neg (by simp [stops c rfl])

theorem decimal_stops_inj {value other : Nat} {rest tail : PyStr} (stops : Stops rest) (stopsToo : Stops tail)
    (same : decimal value ++ rest = decimal other ++ tail) : value = other ∧ rest = tail := by
  have digits : ∀ (value : Nat) {rest : PyStr}, Stops rest →
      (decimal value ++ rest).takeWhile Char.isDigit = decimal value := fun value rest stops => by
    rw [List.takeWhile_append_of_pos fun _ member => isDigit_of_mem_decimal member,stops.takeWhile,List.append_nil]
  have front : decimal value = decimal other := by rw [← digits value stops,same,digits other stopsToo]
  have back : ∀ value, Nat.ofDigitChars 10 (decimal value) 0 = value := fun _ => Nat.ofDigitChars_ten_toDigits
  have number : value = other := by rw [← back value,front,back other]
  rw [front] at same
  exact ⟨number,List.append_cancel_left same⟩

theorem signedDecimal_inj {value other : Int} {rest tail : PyStr} (stops : Stops rest) (stopsToo : Stops tail)
    (same : signedDecimal value ++ rest = signedDecimal other ++ tail) : value = other ∧ rest = tail := by
  have plain : ∀ (n : Nat) (rest tail : PyStr), decimal n ++ rest ≠ '-' :: tail := by
    intro n rest tail same
    cases digits : decimal n with
    | nil => exact decimal_ne_nil n digits
    | cons c more =>
      rw [digits] at same
      have digit : c.isDigit = true := isDigit_of_mem_decimal (by rw [digits]; exact List.mem_cons_self)
      rw [(List.cons.inj same).1] at digit
      exact absurd digit (by decide)
  rw [signedDecimal,signedDecimal] at same
  by_cases negative : value < 0
  · by_cases negativeToo : other < 0
    · rw [if_pos negative,if_pos negativeToo] at same
      obtain ⟨size,behind⟩ := decimal_stops_inj stops stopsToo (List.cons.inj same).2
      exact ⟨by omega,behind⟩
    · rw [if_pos negative,if_neg negativeToo] at same
      exact absurd same.symm (plain _ _ _)
  · by_cases negativeToo : other < 0
    · rw [if_neg negative,if_pos negativeToo] at same
      exact absurd same (plain _ _ _)
    · rw [if_neg negative,if_neg negativeToo] at same
      obtain ⟨size,behind⟩ := decimal_stops_inj stops stopsToo same
      exact ⟨by omega,behind⟩

/-- The kinds of values, as the first character of their text shows them. -/
def kind : Value → Nat
  | .int _ => 0
  | .bool _ => 1
  | .str _ => 2
  | .bin _ => 3
  | .list _ => 4
  | .dict _ => 5

def kindOfFirst (c : Char) : Nat :=
  if c.isDigit ∨ c = '-' then 0
  else if c = 'T' ∨ c = 'F' then 1
  else if c = '\'' ∨ c = '"' then 2
  else if c = 'B' then 3
  else if c = '[' then 4
  else if c = '\x7b' then 5
  else 6

theorem repr_first (value : Value) : ∃ c more, repr isPrintable value = c :: more ∧ kindOfFirst c = kind value := by
  cases value with
  | int value =>
    rw [repr,signedDecimal]
    split
    · exact ⟨'-',decimal value.natAbs,rfl,rfl⟩
    · cases digits : decimal value.toNat with
      | nil => exact absurd digits (decimal_ne_nil _)
      | cons c more =>
        have digit : c.isDigit = true := isDigit_of_mem_decimal (by rw [digits]; exact List.mem_cons_self)
        exact ⟨c,more,rfl,if_pos (.inl digit)⟩
  | bool value =>
    rw [repr,reprBool]
    cases value
    · exact ⟨'F',"alse".toList,rfl,rfl⟩
    · exact ⟨'T',"rue".toList,rfl,rfl⟩
  | str text =>
    rw [repr,reprStr]
    refine ⟨quoteOf text,_,rfl,?_⟩
    rcases isQuote_quoteOf text with quote | quote <;> rw [quote] <;> rfl
  | bin data =>
    have opening : "BinaryValue(data=".toList = 'B' :: "inaryValue(data=".toList := by decide
    unfold repr reprBin
    rw [opening,List.cons_append,List.cons_append]
    exact ⟨'B',_,rfl,rfl⟩
  | list items => cases items <;> (rw [repr]; exact ⟨'[',_,rfl,rfl⟩)
  | dict fields => cases fields <;> (rw [repr]; exact ⟨'\x7b',_,rfl,rfl⟩)

theorem kind_eq {value other : Value} {rest tail : PyStr}
    (same : repr isPrintable value ++ rest = repr isPrintable other ++ tail) : kind value = kind other := by
  obtain ⟨c,more,text,first⟩ := repr_first isPrintable value
  obtain ⟨d,also,textToo,firstToo⟩ := repr_first isPrintable other
  rw [text,textToo] at same
  rw [← first,← firstToo,(List.cons.inj same).1]

theorem stops_reprItems (items : List Value) (rest : PyStr) : Stops (reprItems isPrintable items ++ rest) := by
  intro c first
  cases items <;> (rw [reprItems] at first; obtain rfl := Option.some.inj first; rfl)

theorem stops_reprFields (fields : List (PyStr × Value)) (rest : PyStr) :
    Stops (reprFields isPrintable fields ++ rest) := by
  intro c first
  cases fields <;> (rw [reprFields] at first; obtain rfl := Option.some.inj first; rfl)

/-- An item is not taken for the end of its list, -/
theorem repr_ne_bracket (value : Value) (rest tail : PyStr) : repr isPrintable value ++ rest ≠ ']' :: tail := by
  intro same
  obtain ⟨c,more,text,first⟩ := repr_first isPrintable value
  rw [text] at same
  rw [(List.cons.inj same).1] at first
  have none : kind value = 6 := first.symm
  cases value <;> cases none

/-- nor a key for the end of its dictionary. -/
theorem reprStr_ne_brace (text rest tail : PyStr) : reprStr isPrintable text ++ rest ≠ '\x7d' :: tail := by
  intro same
  rw [reprStr] at same
  have quote := (List.cons.inj same).1
  rcases isQuote_quoteOf text with single | double
  · rw [single] at quote
    exact absurd quote (by decide)
  · rw [double] at quote
    exact absurd quote (by decide)

mutual

/-- A text determines its value and what is behind it. -/
theorem repr_append_inj (value other : Value) {rest tail : PyStr} (stops : Stops rest) (stopsToo : Stops tail)
    (same : repr isPrintable value ++ rest = repr isPrintable other ++ tail) : value = other ∧ rest = tail := by
  have kinds := kind_eq isPrintable same
  cases value with
  | int value =>
    cases other <;> cases kinds
    next other =>
      rw [repr,repr] at same
      obtain ⟨rfl,behind⟩ := signedDecimal_inj stops stopsToo same
      exact ⟨rfl,behind⟩
  | bool value =>
    cases other <;> cases kinds
    next other =>
      rw [repr,repr] at same
      cases value <;> cases other <;> simp [reprBool] at same <;> exact ⟨rfl,same⟩
  | str text =>
    cases other <;> cases kinds
    next other =>
      rw [repr,repr] at same
      obtain ⟨rfl,behind⟩ := reprStr_inj isPrintable same
      exact ⟨rfl,behind⟩
  | bin data =>
    cases other <;> cases kinds
    next other =>
      rw [repr,repr] at same
      unfold reprBin at same
      simp only [List.append_assoc,List.append_right_inj] at same
      obtain ⟨rfl,behind⟩ := reprBytes_inj same
      exact ⟨rfl,List.append_cancel_left behind⟩
  | list items =>
    cases other <;> cases kinds
    next others =>
      match items,others with
      | [],[] =>
        rw [repr] at same
        exact ⟨rfl,List.append_cancel_left same⟩
      | [],other :: others =>
        rw [repr,repr,List.cons_append,List.cons_append,List.append_assoc] at same
        exact absurd (List.cons.inj same).2.symm (repr_ne_bracket isPrintable other _ _)
      | item :: items,[] =>
        rw [repr,repr,List.cons_append,List.cons_append,List.append_assoc] at same
        exact absurd (List.cons.inj same).2 (repr_ne_bracket isPrintable item _ _)
      | item :: items,other :: others =>
        rw [repr,repr,List.cons_append,List.cons_append,List.cons_append,List.cons_append,List.append_assoc,
          List.append_assoc] at same
        obtain ⟨rfl,more⟩ := repr_append_inj item other (stops_reprItems isPrintable items rest)
          (stops_reprItems isPrintable others tail) (List.cons.inj same).2
        obtain ⟨rfl,last⟩ := reprItems_append_inj items others more
        exact ⟨rfl,last⟩
  | dict fields =>
    cases other <;> cases kinds
    next others =>
      match fields,others with
      | [],[] =>
        rw [repr] at same
        exact ⟨rfl,List.append_cancel_left same⟩
      | [],(name,other) :: others =>
        rw [repr,repr] at same
        simp only [List.cons_append,List.append_assoc] at same
        exact absurd (List.cons.inj same).2.symm (reprStr_ne_brace isPrintable name _ _)
      | (key,value) :: fields,[] =>
        rw [repr,repr] at same
        simp only [List.cons_append,List.append_assoc] at same
        exact absurd (List.cons.inj same).2 (reprStr_ne_brace isPrintable key _ _)
      | (key,value) :: fields,(name,other) :: others =>
        rw [repr,repr] at same
        simp only [List.cons_append,List.append_assoc,List.cons.injEq,true_and] at same
        obtain ⟨rfl,values⟩ := reprStr_inj isPrintable same
        simp only [List.cons.injEq,true_and,List.nil_append] at values
        obtain ⟨rfl,more⟩ := repr_append_inj value other (stops_reprFields isPrintable fields rest)
          (stops_reprFields isPrintable others tail) values
        obtain ⟨rfl,last⟩ := reprFields_append_inj fields others more
        exact ⟨rfl,last⟩

theorem reprItems_append_inj (items others : List Value) {rest tail : PyStr}
    (same : reprItems isPrintable items ++ rest = reprItems isPrintable others ++ tail) :
    items = others ∧ rest = tail := by
  match items,others with
  | [],[] =>
    rw [reprItems] at same
    exact ⟨rfl,List.append_cancel_left same⟩
  | [],other :: others =>
    rw [reprItems,reprItems] at same
    exact absurd (List.cons.inj same).1 (by decide)
  | item :: items,[] =>
    rw [reprItems,reprItems] at same
    exact absurd (List.cons.inj same).1 (by decide)
  | item :: items,other :: others =>
    rw [reprItems,reprItems] at same
    simp only [List.append_assoc] at same
    obtain ⟨rfl,more⟩ := repr_append_inj item other (stops_reprItems isPrintable items rest)
      (stops_reprItems isPrintable others tail) (List.append_cancel_left same)
    obtain ⟨rfl,last⟩ := reprItems_append_inj items others more
    exact ⟨rfl,last⟩

theorem reprFields_append_inj (fields others : List (PyStr × Value)) {rest tail : PyStr}
    (same : reprFields isPrintable fields ++ rest = reprFields isPrintable others ++ tail) :
    fields = others ∧ rest = tail := by
  match fields,others with
  | [],[] =>
    rw [reprFields] at same
    exact ⟨rfl,List.append_cancel_left same⟩
  | [],(name,other) :: others =>
    rw [reprFields,reprFields] at same
    exact absurd (List.cons.inj same).1 (by decide)
  | (key,value) :: fields,[] =>
    rw [reprFields,reprFields] at same
    exact absurd (List.cons.inj same).1 (by decide)
  | (key,value) :: fields,(name,other) :: others =>
    rw [reprFields,reprFields] at same
    simp only [List.append_assoc] at same
    obtain ⟨rfl,behind⟩ := reprStr_inj isPrintable (List.append_cancel_left same)
    obtain ⟨rfl,more⟩ := repr_append_inj value other (stops_reprFields isPrintable fields rest)
      (stops_reprFields isPrintable others tail) (List.append_cancel_left behind)
    obtain ⟨rfl,last⟩ := reprFields_append_inj fields others more
    exact ⟨rfl,last⟩

end

/-- Values with one text are one value. -/
theorem repr_injective : Function.Injective (repr isPrintable) := by
  intro value other same
  have nothing : Stops [] := fun _ first => by cases first
  exact (repr_append_inj isPrintable value other nothing nothing (by rw [same])).1

end NxReverse.Tools.Msgpack
