import NxReverse.Tools.MsgpackEncodings
import NxReverse.Tools.PythonTexts

/-! The fields of a decoded map. Keys are stored under their texts, so two distinct keys can share a field: a string
and another value that prints as this string. These are the only ones. -/
namespace NxReverse.Tools.Msgpack

open Words

variable (isPrintable : Char → Bool)

def parsePairs (parse : Nat → Reading (Value × Nat)) : Nat → Nat → Reading (List (Value × Value) × Nat)
  | 0,offset => .ok ([],offset)
  | count + 1,offset => do
    let (key,offset) ← parse offset
    let (value,offset) ← parse offset
    let (pairs,offset) ← parsePairs parse count offset
    .ok ((key,value) :: pairs,offset)

def named (pair : Value × Value) : PyStr × Value := (str isPrintable pair.1,pair.2)

theorem parseFields_eq (parse : Nat → Reading (Value × Nat)) (count : Nat) (values : List (PyStr × Value))
    (offset : Nat) :
    parseFields isPrintable parse count values offset =
      (parsePairs parse count offset).map fun read => (Dicts.setAll values (read.1.map (named isPrintable)),read.2) := by
  induction count generalizing values offset with
  | zero => rfl
  | succ count ih =>
    rw [parseFields,parsePairs]
    cases parse offset with
    | error e => rfl
    | ok key =>
      simp only [Bind.bind,Except.bind]
      cases parse key.2 with
      | error e => rfl
      | ok value =>
        simp only [ih]
        cases parsePairs parse count value.2 <;> rfl

/-- A map fails where its pairs do, or stores them one after the other. -/
theorem parseMap_eq (parse : Nat → Reading (Value × Nat)) (offset count : Nat) :
    parseMap isPrintable parse offset count =
      (parsePairs parse count offset).map fun read => (.dict (Dicts.setAll [] (read.1.map (named isPrintable))),read.2) := by
  rw [parseMap,parseFields_eq]
  cases parsePairs parse count offset <;> rfl

theorem bounded_bind {α β : Type} {read : Reading α} {next : α → Reading β} (bounded : read ≠ .error .outOfFuel)
    (later : ∀ value, next value ≠ .error .outOfFuel) : read >>= next ≠ .error .outOfFuel := by
  cases read with
  | error e =>
    intro stuck
    cases stuck
    exact bounded rfl
  | ok value => exact later value

theorem parsePairs_bounded (data : Bytes) (count offset : Nat) :
    parsePairs (parse isPrintable data) count offset ≠ .error .outOfFuel := by
  induction count generalizing offset with
  | zero => exact nofun
  | succ count ih =>
    exact bounded_bind (parse_sound isPrintable data offset).bounded fun key =>
      bounded_bind (parse_sound isPrintable data key.2).bounded fun value => bounded_bind (ih value.2) fun _ => nofun

inductive EncodesPairs : List (Value × Value) → Bytes → Prop
  | nil : EncodesPairs [] []
  | cons (key value : Value) (pairs : List (Value × Value)) (first second rest : Bytes) (keyEncoded : Encodes key first)
    (encoded : Encodes value second) (more : EncodesPairs pairs rest) :
    EncodesPairs ((key,value) :: pairs) (first ++ (second ++ rest))

theorem Encodes.at {value : Value} {bytes data : Bytes} {offset : Nat} (encoded : Encodes value bytes)
    (here : At data offset bytes) : parse isPrintable data offset = .ok (value,offset + bytes.length) :=
  encoded.parsed isPrintable here (by omega)

theorem EncodesPairs.parsed {pairs : List (Value × Value)} {bytes data : Bytes} (encoded : EncodesPairs pairs bytes)
    {offset : Nat} (here : At data offset bytes) :
    parsePairs (parse isPrintable data) pairs.length offset = .ok (pairs,offset + bytes.length) := by
  induction encoded generalizing offset with
  | nil => rfl
  | cons key value pairs first second rest keyEncoded encoded more ih =>
    obtain ⟨front,behind⟩ := here.split
    obtain ⟨middle,last⟩ := behind.split
    rw [List.length_cons,parsePairs,keyEncoded.at isPrintable front]
    simp only [Bind.bind,Except.bind]
    rw [encoded.at isPrintable middle]
    simp only []
    rw [ih last]
    simp only [List.length_append,Nat.add_assoc]

/-- A field for every pair, with the pair's own value. -/
structure KeepsFields (pairs : List (Value × Value)) (fields : List (PyStr × Value)) : Prop where
  count : fields.length = pairs.length
  own : ∀ pair ∈ pairs, Dicts.get (str isPrintable pair.1) fields = some pair.2

/-- Distinct keys, and no string among them is what another key prints as. -/
def KeysApart (keys : List Value) : Prop :=
  keys.Nodup ∧ ∀ key ∈ keys, (∀ text, key ≠ .str text) → .str (repr isPrintable key) ∉ keys

theorem keepsFields_iff (pairs : List (Value × Value)) :
    KeepsFields isPrintable pairs (Dicts.setAll [] (pairs.map (named isPrintable))) ↔
      (pairs.map fun pair => str isPrintable pair.1).Nodup := by
  have names : (pairs.map (named isPrintable)).map Prod.fst = pairs.map fun pair => str isPrintable pair.1 := by
    rw [List.map_map]
    rfl
  have length := Dicts.length_setAll_eq_iff (pairs.map (named isPrintable))
  rw [names,List.length_map] at length
  refine ⟨fun keeps => length.mp keeps.count,fun distinct => ⟨length.mpr distinct,fun pair member => ?_⟩⟩
  have apart : ((pairs.map (named isPrintable)).map Prod.fst).Nodup := by rwa [names]
  rw [@Dicts.setAll_of_distinct _ _ _ [] _ apart,List.nil_append]
  exact Dicts.get_of_mem apart (List.mem_map_of_mem (f := named isPrintable) member)

theorem str_eq_repr {value : Value} (other : ∀ text, value ≠ .str text) : str isPrintable value = repr isPrintable value := by
  cases value with
  | str text => exact absurd rfl (other text)
  | int _ => rfl
  | bool _ => rfl
  | bin _ => rfl
  | list _ => rfl
  | dict _ => rfl

/-- Two keys with one text are the same, or a string and what prints as it. -/
theorem str_eq_cases {key other : Value} (same : str isPrintable key = str isPrintable other) :
    key = other ∨ ((∀ text, key ≠ .str text) ∧ other = .str (repr isPrintable key)) ∨
      ((∀ text, other ≠ .str text) ∧ key = .str (repr isPrintable other)) := by
  by_cases string : ∃ text, key = .str text
  · obtain ⟨text,rfl⟩ := string
    by_cases stringToo : ∃ text, other = .str text
    · obtain ⟨text,rfl⟩ := stringToo
      exact .inl (congrArg Value.str same)
    · have different := not_exists.mp stringToo
      rw [str_eq_repr isPrintable different] at same
      exact .inr (.inr ⟨different,congrArg Value.str same⟩)
  · have different := not_exists.mp string
    rw [str_eq_repr isPrintable different] at same
    by_cases stringToo : ∃ text, other = .str text
    · obtain ⟨text,rfl⟩ := stringToo
      exact .inr (.inl ⟨different,congrArg Value.str same.symm⟩)
    · rw [str_eq_repr isPrintable (not_exists.mp stringToo)] at same
      exact .inl (repr_injective isPrintable same)

theorem nodup_str_iff (keys : List Value) : (keys.map (str isPrintable)).Nodup ↔ KeysApart isPrintable keys := by
  constructor
  · intro distinct
    refine ⟨distinct.of_map,fun key member different string => ?_⟩
    have same := List.inj_on_of_nodup_map distinct member string (str_eq_repr isPrintable different)
    exact different _ same
  · rintro ⟨distinct,apart⟩
    refine distinct.map_on fun key member other memberToo same => ?_
    rcases str_eq_cases isPrintable same with rfl | ⟨different,rfl⟩ | ⟨different,rfl⟩
    · rfl
    · exact absurd memberToo (apart key member different)
    · exact absurd member (apart other memberToo different)

theorem keepsFields_iff_keysApart (pairs : List (Value × Value)) :
    KeepsFields isPrintable pairs (Dicts.setAll [] (pairs.map (named isPrintable))) ↔
      KeysApart isPrintable (pairs.map Prod.fst) := by
  rw [keepsFields_iff,← nodup_str_iff,List.map_map]
  rfl

/-- The map behind `offset` is refused, or every pair that is read for it has its field. -/
def LosesNoField (data : Bytes) (offset count : Nat) : Prop :=
  (∃ text, parseMap isPrintable (parse isPrintable data) offset count = .error (.decodeError text)) ∨
    ∃ pairs fields stop, parsePairs (parse isPrintable data) count offset = .ok (pairs,stop) ∧
      parseMap isPrintable (parse isPrintable data) offset count = .ok (.dict fields,stop) ∧
      KeepsFields isPrintable pairs fields

theorem losesNoField_of_error {data : Bytes} {offset count : Nat} {e : ParseError}
    (read : parsePairs (parse isPrintable data) count offset = .error e) :
    LosesNoField isPrintable data offset count := by
  left
  rw [parseMap_eq,read]
  cases e with
  | decodeError text => exact ⟨text,rfl⟩
  | outOfFuel => exact absurd read (parsePairs_bounded isPrintable data count offset)

theorem losesNoField_of_pairs {data : Bytes} {offset count stop : Nat} {pairs : List (Value × Value)}
    (read : parsePairs (parse isPrintable data) count offset = .ok (pairs,stop)) :
    LosesNoField isPrintable data offset count ↔ KeysApart isPrintable (pairs.map Prod.fst) := by
  have stored := parseMap_eq isPrintable (parse isPrintable data) offset count
  rw [read] at stored
  rw [← keepsFields_iff_keysApart]
  constructor
  · rintro (⟨text,refused⟩ | ⟨others,fields,last,again,kept,keeps⟩)
    · rw [stored] at refused
      cases refused
    · cases read.symm.trans again
      cases stored.symm.trans kept
      exact keeps
  · exact fun keeps => .inr ⟨pairs,_,stop,read,stored,keeps⟩

/-- A map loses no field exactly if the keys that are read for it are apart; where it is an encoding, its keys. -/
theorem losesNoField_iff (data : Bytes) (offset count : Nat) :
    (LosesNoField isPrintable data offset count ↔
      ∀ pairs stop, parsePairs (parse isPrintable data) count offset = .ok (pairs,stop) →
        KeysApart isPrintable (pairs.map Prod.fst)) ∧
    ∀ pairs bytes, EncodesPairs pairs bytes → pairs.length = count → At data offset bytes →
      (LosesNoField isPrintable data offset count ↔ KeysApart isPrintable (pairs.map Prod.fst)) := by
  constructor
  · cases read : parsePairs (parse isPrintable data) count offset with
    | error e => exact ⟨fun _ _ _ same => (nomatch same),fun _ => losesNoField_of_error isPrintable read⟩
    | ok result =>
      obtain ⟨pairs,stop⟩ := result
      rw [losesNoField_of_pairs isPrintable read]
      refine ⟨fun apart _ _ same => ?_,fun all => all pairs stop rfl⟩
      cases same
      exact apart
  · rintro pairs bytes encoded rfl here
    exact losesNoField_of_pairs isPrintable (encoded.parsed isPrintable here)

/-- The keys 1 and `"1"`: one field is left, with the second value. -/
theorem losesNoField_number :
    EncodesPairs [(.int 1,.int 10),(.str ['1'],.int 11)] [0x01,0x0A,0xA1,0x31,0x0B] ∧
      ([.int 1,.str ['1']] : List Value).Nodup ∧
      parse (fun _ => true) [0x82,0x01,0x0A,0xA1,0x31,0x0B] 0 = .ok (.dict [(['1'],.int 11)],6) ∧
      ¬LosesNoField (fun _ => true) [0x82,0x01,0x0A,0xA1,0x31,0x0B] 1 2 := by
  have number : ∀ value ≤ 0x7F, Encodes (.int (value : Nat)) [tagByte value] := Encodes.posFixInt
  have text : Encodes (.str ['1']) [0xA1,0x31] := Encodes.str _ _ (EncodesStr.fixStr (by decide))
  have encoded : EncodesPairs [(.int 1,.int 10),(.str ['1'],.int 11)] [0x01,0x0A,0xA1,0x31,0x0B] :=
    .cons _ _ _ [0x01] [0x0A] _ (number 1 (by decide)) (number 10 (by decide))
      (.cons _ _ _ [0xA1,0x31] [0x0B] [] text (number 11 (by decide)) .nil)
  refine ⟨encoded,by simp,rfl,?_⟩
  have here : At [0x82,0x01,0x0A,0xA1,0x31,0x0B] 1 [0x01,0x0A,0xA1,0x31,0x0B] := ⟨[0x82],[],rfl,rfl⟩
  intro loses
  have apart := (losesNoField_of_pairs (fun _ => true) (encoded.parsed (fun _ => true) here)).mp loses
  exact apart.2 (.int 1) (by simp) (fun _ same => nomatch same) (List.mem_cons_of_mem _ (by simp [repr]; rfl))

end NxReverse.Tools.Msgpack
