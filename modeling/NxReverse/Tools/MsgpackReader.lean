import NxReverse.Tools.Msgpack

/-! What every read of the msgpack reader keeps. It ends inside the data and not before its start, its bound on the
nesting is never reached, and a value that it has read stays the same whatever follows. -/
namespace NxReverse.Tools.Msgpack

open Text Words

variable {α β : Type} {data : Bytes}

theorem require_ok_iff (offset size : Nat) : require data offset size = .ok () ↔ offset + size ≤ data.length := by
  rw [require]
  split
  next short => exact ⟨nofun,fun inside => absurd inside (Nat.not_le.mpr short)⟩
  next inside => exact ⟨fun _ => Nat.not_lt.mp inside,fun _ => rfl⟩

theorem slice_of_longer {more : Bytes} {offset size : Nat} (inside : offset + size ≤ data.length) (prefix_ : data <+: more) :
    slice offset size more = slice offset size data := by
  obtain ⟨rest,rfl⟩ := prefix_
  rw [slice,slice,List.drop_append_of_le_length (by omega),List.take_append_of_le_length (by simp; omega)]

/-- A read from `offset` is not stopped by the bound, and what it has read ends inside the data. -/
structure Sound (data : Bytes) (offset : Nat) (read : Reading (α × Nat)) : Prop where
  bounded : read ≠ .error .outOfFuel
  inside : ∀ value stop, read = .ok (value,stop) → offset ≤ stop ∧ stop ≤ data.length

theorem Sound.ok {offset stop : Nat} (le : offset ≤ stop) (inside : stop ≤ data.length) (value : α) :
    Sound data offset (.ok (value,stop)) where
  bounded := nofun
  inside _ _ same := by
    cases same
    exact ⟨le,inside⟩

theorem Sound.fail (offset : Nat) (text : CString) : Sound data offset (.error (.decodeError text) : Reading (α × Nat)) where
  bounded := nofun
  inside := nofun

theorem Sound.bind {offset : Nat} {read : Reading (α × Nat)} (sound : Sound data offset read)
    {next : α × Nat → Reading (β × Nat)}
    (later : ∀ value stop, offset ≤ stop → stop ≤ data.length → Sound data stop (next (value,stop))) :
    Sound data offset (read >>= next) := by
  cases result : read with
  | error e =>
    refine ⟨fun stuck => sound.bounded (result.trans ?_),nofun⟩
    cases stuck
    rfl
  | ok pair =>
    obtain ⟨value,stop⟩ := pair
    obtain ⟨le,inside⟩ := sound.inside value stop result
    obtain ⟨bounded,ends⟩ := later value stop le inside
    refine ⟨bounded,fun other last same => ?_⟩
    obtain ⟨from_,until_⟩ := ends other last same
    exact ⟨le.trans from_,until_⟩

theorem Sound.earlier {offset start : Nat} {read : Reading (α × Nat)} (sound : Sound data start read)
    (le : offset ≤ start) : Sound data offset read where
  bounded := sound.bounded
  inside value stop same := ⟨le.trans (sound.inside value stop same).1,(sound.inside value stop same).2⟩

/-- A read of a fixed number of bytes. -/
theorem sound_require (offset size : Nat) (value : α) :
    Sound data offset (do require data offset size; .ok (value,offset + size)) := by
  rw [require]
  split
  · exact Sound.fail offset _
  next inside => exact Sound.ok (Nat.le_add_right offset size) (Nat.not_lt.mp inside) value

theorem readBe_sound (offset size : Nat) (signed : Bool) : Sound data offset (readBe data offset size signed) :=
  sound_require offset size _

theorem parseInt_sound (offset size : Nat) (signed : Bool) : Sound data offset (parseInt data offset size signed) :=
  (readBe_sound offset size signed).bind fun _ _ _ inside => Sound.ok le_rfl inside _

theorem parseBin_sound (offset width : Nat) : Sound data offset (parseBin data offset width) :=
  (readBe_sound offset width false).bind fun _ stop _ _ =>
    (sound_require stop _ _).bind fun _ _ _ inside => Sound.ok le_rfl inside _

theorem readStr_sound (offset size : Nat) : Sound data offset (readStr data offset size) :=
  (sound_require offset size (slice offset size data)).bind fun raw _ _ inside =>
    Sound.ok le_rfl inside (Utf8.decodeReplace raw)

theorem parseFixStr_sound (offset size : Nat) : Sound data offset (parseFixStr data offset size) :=
  (readStr_sound offset size).bind fun text _ _ inside => Sound.ok le_rfl inside (Value.str text)

theorem parseStr_sound (offset width : Nat) : Sound data offset (parseStr data offset width) :=
  (readBe_sound offset width false).bind fun _ stop _ _ => parseFixStr_sound stop _

section Loops

variable {parse : Nat → Reading (Value × Nat)} {offset : Nat}
  (sound : ∀ later, offset ≤ later → later ≤ data.length → Sound data later (parse later))
include sound

theorem parseItems_sound (count : Nat) {start : Nat} (from_ : offset ≤ start) (inside : start ≤ data.length) :
    Sound data start (parseItems parse count start) := by
  induction count generalizing start with
  | zero => exact Sound.ok le_rfl inside _
  | succ count ih =>
    exact (sound start from_ inside).bind fun _ stop le inside =>
      (ih (from_.trans le) inside).bind fun _ _ _ inside => Sound.ok le_rfl inside _

theorem parseFields_sound (isPrintable : Char → Bool) (count : Nat) (values : List (PyStr × Value)) {start : Nat}
    (from_ : offset ≤ start) (inside : start ≤ data.length) :
    Sound data start (parseFields isPrintable parse count values start) := by
  induction count generalizing values start with
  | zero => exact Sound.ok le_rfl inside _
  | succ count ih =>
    exact (sound start from_ inside).bind fun _ middle le inside =>
      (sound middle (from_.trans le) inside).bind fun _ stop more inside =>
        ih _ ((from_.trans le).trans more) inside

theorem parseArray_sound (count : Nat) {start : Nat} (from_ : offset ≤ start) (inside : start ≤ data.length) :
    Sound data start (parseArray parse start count) :=
  (parseItems_sound sound count from_ inside).bind fun _ _ _ inside => Sound.ok le_rfl inside _

theorem parseMap_sound (isPrintable : Char → Bool) (count : Nat) {start : Nat} (from_ : offset ≤ start)
    (inside : start ≤ data.length) : Sound data start (parseMap isPrintable parse start count) :=
  (parseFields_sound sound isPrintable count [] from_ inside).bind fun _ _ _ inside => Sound.ok le_rfl inside _

theorem parseBranch_sound (isPrintable : Char → Bool) (tag : Nat) (branch : Branch) (inside : offset ≤ data.length) :
    Sound data offset (parseBranch isPrintable data parse tag offset branch) := by
  cases branch with
  | value value => exact Sound.ok le_rfl inside value
  | int size signed => exact parseInt_sound offset size signed
  | bin width => exact parseBin_sound offset width
  | fixStr size => exact parseFixStr_sound offset size
  | str width => exact parseStr_sound offset width
  | fixArray count => exact parseArray_sound sound count le_rfl inside
  | array width =>
    exact (readBe_sound offset width false).bind fun _ _ le inside => parseArray_sound sound _ le inside
  | fixMap count => exact parseMap_sound sound isPrintable count le_rfl inside
  | map width =>
    exact (readBe_sound offset width false).bind fun _ _ le inside => parseMap_sound sound isPrintable _ le inside
  | unsupported => exact Sound.fail offset _

end Loops

/-- A fuel above the bytes that are left is enough. -/
theorem parseWith_sound (isPrintable : Char → Bool) {fuel offset : Nat} (some : 0 < fuel)
    (enough : data.length < offset + fuel) : Sound data offset (parseWith isPrintable data fuel offset) := by
  induction fuel generalizing offset with
  | zero => cases some
  | succ fuel ih =>
    rw [parseWith,readU8,require]
    split
    · exact Sound.fail offset _
    next tag =>
      have inside : offset + 1 ≤ data.length := Nat.not_lt.mp tag
      have within : ∀ later, offset + 1 ≤ later → later ≤ data.length →
          Sound data later (parseWith isPrintable data fuel later) :=
        fun later from_ until_ => ih (by omega) (by omega)
      exact (parseBranch_sound within isPrintable _ _ inside).earlier (Nat.le_succ offset)

/-- The second read gives what the first one gives, where it gives a value or a kept error. -/
def Carries (kept : ParseError → Prop) (first second : Reading α) : Prop :=
  (∀ e, first = .error e → kept e) → second = first

/-- The second data continue the first, which carries values, or are the same. -/
def Continues (kept : ParseError → Prop) (data more : Bytes) : Prop :=
  more = data ∨ (∀ e, ¬kept e) ∧ data <+: more

section Carry

variable {kept : ParseError → Prop}

theorem Carries.refl (read : Reading α) : Carries kept read read := fun _ => rfl

theorem Carries.bind {first second : Reading α} (carries : Carries kept first second) {next then_ : α → Reading β}
    (later : ∀ value, first = .ok value → Carries kept (next value) (then_ value)) :
    Carries kept (first >>= next) (second >>= then_) := by
  intro errors
  cases result : first with
  | error e =>
    have same := carries fun other failed => by
      rw [result] at failed
      cases failed
      exact errors e (by rw [result]; rfl)
    rw [same,result]
    rfl
  | ok value =>
    have same := carries fun other failed => by
      rw [result] at failed
      cases failed
    rw [same,result]
    exact later value result fun e failed => errors e (by rw [result]; exact failed)

variable {more : Bytes} (continues : Continues kept data more)
include continues

/-- A read of a fixed number of bytes. -/
theorem carries_require {offset size : Nat} {value other : α}
    (same : offset + size ≤ data.length → data <+: more → other = value) :
    Carries kept (do require data offset size; .ok (value,offset + size) : Reading (α × Nat))
      (do require more offset size; .ok (other,offset + size)) := by
  intro errors
  by_cases inside : offset + size ≤ data.length
  · have prefix_ : data <+: more := by
      rcases continues with rfl | ⟨-,prefix_⟩
      · exact List.prefix_rfl
      · exact prefix_
    rw [(require_ok_iff offset size).mpr inside,(require_ok_iff offset size).mpr (inside.trans prefix_.length_le),
      same inside prefix_]
  · rcases continues with rfl | ⟨none,-⟩
    · rw [require,if_pos (Nat.not_le.mp inside)]
      rfl
    · rw [require,if_pos (Nat.not_le.mp inside)] at errors
      exact absurd (errors _ rfl) (none _)

theorem readU8_carries (offset : Nat) : Carries kept (readU8 data offset) (readU8 more offset) := by
  refine carries_require continues fun inside prefix_ => ?_
  obtain ⟨rest,rfl⟩ := prefix_
  rw [List.getD_eq_getElem?_getD,List.getD_eq_getElem?_getD,List.getElem?_append_left (by omega)]

theorem readBe_carries (offset size : Nat) (signed : Bool) :
    Carries kept (readBe data offset size signed) (readBe more offset size signed) :=
  carries_require continues fun inside prefix_ => by rw [slice_of_longer inside prefix_]

theorem readBytes_carries (offset size : Nat) : Carries kept (readBytes data offset size) (readBytes more offset size) :=
  carries_require continues fun inside prefix_ => slice_of_longer inside prefix_

theorem parseInt_carries (offset size : Nat) (signed : Bool) :
    Carries kept (parseInt data offset size signed) (parseInt more offset size signed) :=
  (readBe_carries continues offset size signed).bind fun _ _ => Carries.refl _

theorem parseBin_carries (offset width : Nat) :
    Carries kept (parseBin data offset width) (parseBin more offset width) :=
  (readBe_carries continues offset width false).bind fun ⟨_,_⟩ _ =>
    (readBytes_carries continues _ _).bind fun _ _ => Carries.refl _

theorem parseFixStr_carries (offset size : Nat) :
    Carries kept (parseFixStr data offset size) (parseFixStr more offset size) :=
  Carries.bind ((readBytes_carries continues offset size).bind fun _ _ => Carries.refl _) fun _ _ => Carries.refl _

theorem parseStr_carries (offset width : Nat) :
    Carries kept (parseStr data offset width) (parseStr more offset width) :=
  (readBe_carries continues offset width false).bind fun ⟨_,_⟩ _ => parseFixStr_carries continues _ _

end Carry

section CarryLoops

variable {kept : ParseError → Prop} {parse then_ : Nat → Reading (Value × Nat)}
  (carries : ∀ offset, Carries kept (parse offset) (then_ offset))
include carries

theorem parseItems_carries (count offset : Nat) :
    Carries kept (parseItems parse count offset) (parseItems then_ count offset) := by
  induction count generalizing offset with
  | zero => exact Carries.refl _
  | succ count ih =>
    exact (carries offset).bind fun ⟨_,_⟩ _ => (ih _).bind fun _ _ => Carries.refl _

theorem parseFields_carries (isPrintable : Char → Bool) (count : Nat) (values : List (PyStr × Value)) (offset : Nat) :
    Carries kept (parseFields isPrintable parse count values offset)
      (parseFields isPrintable then_ count values offset) := by
  induction count generalizing values offset with
  | zero => exact Carries.refl _
  | succ count ih =>
    exact (carries offset).bind fun ⟨_,_⟩ _ => (carries _).bind fun ⟨_,_⟩ _ => ih _ _

theorem parseArray_carries (offset count : Nat) :
    Carries kept (parseArray parse offset count) (parseArray then_ offset count) :=
  (parseItems_carries carries count offset).bind fun _ _ => Carries.refl _

theorem parseMap_carries (isPrintable : Char → Bool) (offset count : Nat) :
    Carries kept (parseMap isPrintable parse offset count) (parseMap isPrintable then_ offset count) :=
  (parseFields_carries carries isPrintable count [] offset).bind fun _ _ => Carries.refl _

theorem parseBranch_carries {more : Bytes} (continues : Continues kept data more) (isPrintable : Char → Bool)
    (tag offset : Nat) (branch : Branch) :
    Carries kept (parseBranch isPrintable data parse tag offset branch)
      (parseBranch isPrintable more then_ tag offset branch) := by
  cases branch with
  | value value => exact Carries.refl _
  | int size signed => exact parseInt_carries continues offset size signed
  | bin width => exact parseBin_carries continues offset width
  | fixStr size => exact parseFixStr_carries continues offset size
  | str width => exact parseStr_carries continues offset width
  | fixArray count => exact parseArray_carries carries offset count
  | array width =>
    exact (readBe_carries continues offset width false).bind fun ⟨_,_⟩ _ => parseArray_carries carries _ _
  | fixMap count => exact parseMap_carries carries isPrintable offset count
  | map width =>
    exact (readBe_carries continues offset width false).bind fun ⟨_,_⟩ _ => parseMap_carries carries isPrintable _ _
  | unsupported => exact Carries.refl _

end CarryLoops

theorem parseWith_carries {kept : ParseError → Prop} (noFuel : ¬kept .outOfFuel) {more : Bytes}
    (continues : Continues kept data more) (isPrintable : Char → Bool) {fuel enough : Nat} (le : fuel ≤ enough)
    (offset : Nat) : Carries kept (parseWith isPrintable data fuel offset) (parseWith isPrintable more enough offset) := by
  induction fuel generalizing enough offset with
  | zero => exact fun errors => absurd (errors .outOfFuel rfl) noFuel
  | succ fuel ih =>
    obtain ⟨enough,rfl⟩ : ∃ less, enough = less + 1 := ⟨enough - 1,by omega⟩
    exact (readU8_carries continues offset).bind fun ⟨tag,start⟩ _ =>
      parseBranch_carries (fun later => ih (by omega) later) continues isPrintable tag start _

theorem parse_sound (isPrintable : Char → Bool) (data : Bytes) (offset : Nat) :
    Sound data offset (parse isPrintable data offset) :=
  parseWith_sound isPrintable (Nat.succ_pos _) (by omega)

/-- The bound on the nesting does not show. -/
theorem parse_eq (isPrintable : Char → Bool) {fuel offset : Nat} (some : 0 < fuel)
    (enough : data.length < offset + fuel) : parseWith isPrintable data fuel offset = parse isPrintable data offset := by
  have sound := parseWith_sound isPrintable some enough
  have kept : ∀ {low high : Nat}, low ≤ high → parseWith isPrintable data low offset ≠ .error .outOfFuel →
      parseWith isPrintable data high offset = parseWith isPrintable data low offset := by
    intro low high le bounded
    exact @parseWith_carries data (· ≠ .outOfFuel) (fun differs => differs rfl) data (.inl rfl) isPrintable _ _ le offset
      fun e failed same => bounded (same ▸ failed)
  rcases Nat.le_total fuel (data.length + 1) with less | more
  · exact (kept less sound.bounded).symm
  · exact kept more (parse_sound isPrintable data offset).bounded

/-- A value that has been read is read again with anything behind it. -/
theorem parse_append (isPrintable : Char → Bool) {offset : Nat} {result : Value × Nat}
    (read : parse isPrintable data offset = .ok result) (rest : Bytes) :
    parse isPrintable (data ++ rest) offset = .ok result := by
  have longer : data.length + 1 ≤ (data ++ rest).length + 1 := by simp
  exact (@parseWith_carries data (fun _ => False) id (data ++ rest) (.inr ⟨fun _ => id,List.prefix_append _ _⟩)
    isPrintable _ _ longer offset fun e failed => by rw [parse] at read; rw [read] at failed; cases failed).trans read

end NxReverse.Tools.Msgpack
