import NxReverse.Lib.Text

/-! Reading a text line by line into a bounded buffer, and trimming what was read. -/
namespace NxReverse.Text

/-- Successive `fgets` calls that store at most `limit` characters each, `current` being what
the running call has stored. -/
def linesFrom (limit : Nat) : CString → CString → List CString
  | current,[] => if current = [] then [] else [current]
  | current,c :: rest =>
    if c = '\n' ∨ current.length + 1 = limit then (current ++ [c]) :: linesFrom limit [] rest
    else linesFrom limit (current ++ [c]) rest

def lines (limit : Nat) (text : CString) : List CString := linesFrom limit [] text

/-- A newline ends a line whatever the buffer holds. -/
theorem linesFrom_append (limit : Nat) (current first second : CString) :
    linesFrom limit current (first ++ '\n' :: second) =
      linesFrom limit current (first ++ ['\n']) ++ lines limit second := by
  induction first generalizing current with
  | nil => simp [linesFrom,lines]
  | cons c first ih =>
    by_cases ends : c = '\n' ∨ current.length + 1 = limit
    · simp [linesFrom,ends,ih]
    · simp [linesFrom,ends,ih]

theorem lines_append (limit : Nat) (first second : CString) :
    lines limit (first ++ '\n' :: second) = lines limit (first ++ ['\n']) ++ lines limit second :=
  linesFrom_append limit [] first second

/-- A line that fits is read whole. -/
theorem linesFrom_line {limit : Nat} {current line : CString} (whole : '\n' ∉ line)
    (fits : current.length + line.length < limit) :
    linesFrom limit current (line ++ ['\n']) = [current ++ line ++ ['\n']] := by
  induction line generalizing current with
  | nil => simp [linesFrom]
  | cons c line ih =>
    have goesOn : ¬(c = '\n' ∨ current.length + 1 = limit) := by
      rintro (rfl | full)
      · exact whole List.mem_cons_self
      · rw [List.length_cons] at fits
        omega
    have rest := @ih (current ++ [c]) (fun member => whole (List.mem_cons_of_mem c member))
      (by simp only [List.length_append,List.length_cons,List.length_nil] at fits ⊢; omega)
    simp [linesFrom,goesOn,rest]

theorem lines_line {limit : Nat} {line : CString} (whole : '\n' ∉ line) (fits : line.length < limit)
    (rest : CString) : lines limit (line ++ '\n' :: rest) = (line ++ ['\n']) :: lines limit rest := by
  rw [lines_append]
  exact congrArg (· ++ lines limit rest) (linesFrom_line whole (by simpa using fits))

/-- A newline is the last character of its line. -/
theorem newline_last {limit : Nat} {current text line : CString} (unended : '\n' ∉ current)
    (member : line ∈ linesFrom limit current text) :
    ∃ inner, '\n' ∉ inner ∧ (line = inner ∨ line = inner ++ ['\n']) := by
  induction text generalizing current with
  | nil =>
    rw [linesFrom] at member
    split at member
    · cases member
    · exact ⟨current,unended,.inl (List.mem_singleton.mp member)⟩
  | cons c rest ih =>
    rw [linesFrom] at member
    split at member
    · rcases List.mem_cons.mp member with rfl | later
      · by_cases newline : c = '\n'
        · exact ⟨current,unended,.inr (by rw [newline])⟩
        · exact ⟨current ++ [c],by simp [unended,Ne.symm newline],.inl rfl⟩
      · exact ih (by simp) later
    next goesOn =>
      have other : '\n' ≠ c := fun same => goesOn (.inl same.symm)
      exact ih (by simp [unended,other]) member

/-- A buffer that is full ends a line whatever comes next. -/
theorem linesFrom_full {limit : Nat} {current front : CString} (whole : '\n' ∉ front) (nonempty : front ≠ [])
    (full : current.length + front.length = limit) (rest : CString) :
    linesFrom limit current (front ++ rest) = (current ++ front) :: lines limit rest := by
  induction front generalizing current with
  | nil => exact absurd rfl nonempty
  | cons c front ih =>
    have plain : c ≠ '\n' := fun same => whole (same ▸ List.mem_cons_self)
    rw [List.length_cons] at full
    rw [List.cons_append,linesFrom]
    by_cases last : front = []
    · rw [last,List.length_nil] at full
      rw [if_pos (Or.inr (by omega)),last,List.nil_append,lines]
    · have inner : ¬(c = '\n' ∨ current.length + 1 = limit) := by
        have more := List.length_pos_iff.mpr last
        exact not_or.mpr ⟨plain,by omega⟩
      have later := @ih (current ++ [c]) (fun member => whole (List.mem_cons_of_mem c member)) last
        (by rw [List.length_append,List.length_singleton]; omega)
      rw [if_neg inner,later,List.append_assoc,List.singleton_append]

theorem flatten_linesFrom (limit : Nat) (current text : CString) :
    (linesFrom limit current text).flatten = current ++ text := by
  induction text generalizing current with
  | nil =>
    rw [linesFrom]
    split <;> simp [*]
  | cons c rest ih =>
    rw [linesFrom]
    split <;> simp [ih]

/-- The reads put together are the text. -/
theorem flatten_lines (limit : Nat) (text : CString) : (lines limit text).flatten = text := flatten_linesFrom limit [] text

/-- The blanks that `Trim` takes off. -/
def isBlank (c : Char) : Bool := c == ' ' || c == '\t' || c == '\r' || c == '\n'

def trim (text : CString) : CString := (text.dropWhile isBlank).rdropWhile isBlank

theorem trim_append_blank (text : CString) {c : Char} (blank : isBlank c = true) :
    trim (text ++ [c]) = trim text := by
  unfold trim
  rw [List.dropWhile_append]
  split
  next empty => simp [List.isEmpty_iff.mp empty,blank]
  next => exact List.rdropWhile_concat_pos _ _ _ blank

theorem trim_append_blanks (text : CString) {back : CString} (blank : back.all isBlank = true) :
    trim (text ++ back) = trim text := by
  induction back using List.reverseRecOn with
  | nil => rw [List.append_nil]
  | append_singleton back c ih =>
    simp only [List.all_append,List.all_cons,List.all_nil,Bool.and_true,Bool.and_eq_true] at blank
    rw [← List.append_assoc,trim_append_blank _ blank.2,ih blank.1]

theorem trim_blanks_append {front : CString} (blank : front.all isBlank = true) (text : CString) :
    trim (front ++ text) = trim text := by
  rw [trim,trim,List.dropWhile_append_of_pos (List.all_eq_true.mp blank)]

/-- What is left of a text are all of its characters that are no blanks. -/
theorem countP_trim (text : CString) : (trim text).countP (!isBlank ·) = text.countP (!isBlank ·) := by
  have front : ∀ text : CString, (text.dropWhile isBlank).countP (!isBlank ·) = text.countP (!isBlank ·) := by
    intro text
    induction text with
    | nil => rfl
    | cons c rest ih =>
      rw [List.dropWhile_cons]
      split
      · rename_i blank
        rw [ih,List.countP_cons_of_neg (by simp [blank])]
      · rfl
  have back : ∀ text : CString, (text.rdropWhile isBlank).countP (!isBlank ·) = text.countP (!isBlank ·) := fun text => by
    rw [List.rdropWhile,List.countP_reverse,front,List.countP_reverse]
  rw [trim,back,front]

theorem blank_iff_countP (text : CString) : text.all isBlank = true ↔ text.countP (!isBlank ·) = 0 := by
  rw [List.countP_eq_zero,List.all_eq_true]
  simp

theorem trim_eq_nil_iff (text : CString) : trim text = [] ↔ text.all isBlank = true := by
  constructor
  · intro nothing
    have counts := countP_trim text
    rw [nothing] at counts
    exact (blank_iff_countP text).mpr counts.symm
  · intro blank
    have gone := trim_append_blanks [] blank
    exact gone

theorem head?_trim_cons {c : Char} (solid : isBlank c = false) (rest : CString) : (trim (c :: rest)).head? = some c := by
  have front : (c :: rest).dropWhile isBlank = c :: rest := List.dropWhile_cons_of_neg (by simp [solid])
  have nonempty : trim (c :: rest) ≠ [] := fun nothing => by
    have blank := (trim_eq_nil_iff (c :: rest)).mp nothing
    simp [solid] at blank
  have within : trim (c :: rest) <+: c :: rest := by
    rw [trim,front]
    exact List.rdropWhile_prefix _ _
  obtain ⟨d,kept,whole⟩ := List.exists_cons_of_ne_nil nonempty
  rw [whole] at within ⊢
  rw [(List.cons_prefix_cons.mp within).1]
  rfl

theorem mem_of_mem_trim {text : CString} {c : Char} (member : c ∈ trim text) : c ∈ text :=
  (List.dropWhile_suffix _).subset ((List.rdropWhile_prefix _ _).subset member)

/-- Nothing is taken off between two ends that are no blanks. -/
theorem trim_of_ends {text : CString} (first : ∀ c ∈ text.head?, isBlank c = false)
    (last : ∀ c ∈ text.getLast?, isBlank c = false) : trim text = text := by
  have front : text.dropWhile isBlank = text := by
    cases text with
    | nil => rfl
    | cons c rest => simp [first c rfl]
  rw [trim,front,List.rdropWhile_eq_self_iff]
  intro nonempty
  simp [last _ (List.getLast?_eq_some_getLast nonempty)]

theorem head_trim {text : CString} : ∀ c ∈ (trim text).head?, isBlank c = false := by
  intro c first
  obtain ⟨rest,whole⟩ := List.rdropWhile_prefix isBlank (text.dropWhile isBlank)
  have front : (text.dropWhile isBlank).head? = some c := by
    rw [← whole,List.head?_append]
    change (trim text).head? = some c at first
    rw [trim] at first
    rw [first]
    rfl
  have stops := List.head?_dropWhile_not isBlank text
  rw [front] at stops
  simpa using stops

theorem getLast_trim {text : CString} : ∀ c ∈ (trim text).getLast?, isBlank c = false := by
  intro c last
  have nonempty : trim text ≠ [] := by
    rintro empty
    rw [empty] at last
    cases last
  have stops := List.rdropWhile_last_not isBlank (text.dropWhile isBlank) nonempty
  rw [List.getLast?_eq_some_getLast nonempty] at last
  obtain rfl := Option.some.inj last
  exact Bool.eq_false_iff.mpr stops

theorem trim_trim (text : CString) : trim (trim text) = trim text :=
  trim_of_ends head_trim getLast_trim

/-- A separator between two trimmed texts keeps both ends. -/
theorem trim_joined {front rest : CString} {separator : Char} (frontNonempty : front ≠ [])
    (restNonempty : rest ≠ []) (frontTrimmed : trim front = front) (restTrimmed : trim rest = rest) :
    trim (front ++ separator :: rest) = front ++ separator :: rest := by
  apply trim_of_ends
  · rw [List.head?_append_of_ne_nil _ frontNonempty,← frontTrimmed]
    exact head_trim
  · rw [List.getLast?_append_of_ne_nil _ (List.cons_ne_nil _ _),List.getLast?_cons_of_ne_nil restNonempty,
      ← restTrimmed]
    exact getLast_trim

/-- What stands before a character that is no blank is kept, and so is the character. -/
theorem trim_kept {front : CString} {c : Char} (nonempty : front ≠ [])
    (first : ∀ d ∈ front.head?, isBlank d = false) (solid : isBlank c = false) (rest : CString) :
    ∃ kept, trim (front ++ c :: rest) = front ++ c :: kept := by
  have unchanged : (front ++ c :: rest).dropWhile isBlank = front ++ c :: rest := by
    cases front with
    | nil => exact absurd rfl nonempty
    | cons d front => simp [first d rfl]
  have reversed : (front ++ c :: rest).reverse = rest.reverse ++ c :: front.reverse := by simp
  rw [trim,unchanged,List.rdropWhile,reversed,List.dropWhile_append]
  split
  · refine ⟨[],?_⟩
    rw [List.dropWhile_cons_of_neg (by simp [solid])]
    simp
  · refine ⟨(rest.reverse.dropWhile isBlank).reverse,?_⟩
    simp

/-- The pieces of a text, each ended by `stop` but perhaps the last. -/
def splitAfter {α : Type} [DecidableEq α] (stop : α) : List α → List (List α)
  | [] => []
  | c :: rest =>
    if c = stop then [c] :: splitAfter stop rest
    else
      match splitAfter stop rest with
      | [] => [[c]]
      | first :: others => (c :: first) :: others

section SplitAfter

variable {α β : Type} [DecidableEq α] {stop : α}

theorem splitAfter_ne_nil {text : List α} (nonempty : text ≠ []) : splitAfter stop text ≠ [] := by
  cases text with
  | nil => exact absurd rfl nonempty
  | cons c rest =>
    rw [splitAfter]
    split
    · exact List.cons_ne_nil _ _
    · split <;> exact List.cons_ne_nil _ _

/-- A text that ends in `stop` is split by itself, whatever follows. -/
theorem splitAfter_append {first : List α} (ended : first.getLast? = some stop) (second : List α) :
    splitAfter stop (first ++ second) = splitAfter stop first ++ splitAfter stop second := by
  induction first with
  | nil => cases ended
  | cons c rest ih =>
    rcases List.eq_nil_or_concat rest with rfl | ⟨inner,last,rfl⟩
    · obtain rfl := Option.some.inj ended
      simp [splitAfter]
    · have later := ih (by rwa [List.getLast?_cons_of_ne_nil (by simp)] at ended)
      rw [List.cons_append,splitAfter,splitAfter,later]
      split
      · rfl
      · obtain ⟨piece,pieces,some⟩ :=
          List.exists_cons_of_ne_nil (@splitAfter_ne_nil α _ stop (inner ++ [last]) (by simp))
        rw [List.concat_eq_append] at later ⊢
        rw [some]
        rfl

theorem splitAfter_flatMap {records : List β} {text : β → List α}
    (ended : ∀ r ∈ records, (text r).getLast? = some stop) :
    splitAfter stop (records.flatMap text) = records.flatMap fun r => splitAfter stop (text r) := by
  induction records with
  | nil => rfl
  | cons r records ih =>
    have later := ih fun other member => ended other (List.mem_cons_of_mem r member)
    rw [List.flatMap_cons,List.flatMap_cons,splitAfter_append (ended r List.mem_cons_self),later]

theorem flatten_splitAfter (text : List α) : (splitAfter stop text).flatten = text := by
  induction text with
  | nil => rfl
  | cons c rest ih =>
    rw [splitAfter]
    split
    · rw [List.flatten_cons,ih]
      rfl
    · cases split : splitAfter stop rest with
      | nil =>
        rw [split,List.flatten_nil] at ih
        rw [← ih]
        rfl
      | cons first others =>
        rw [split] at ih
        simpa using ih

/-- A text with no `stop` inside is one piece. -/
theorem splitAfter_line {line : List α} (whole : stop ∉ line) : splitAfter stop (line ++ [stop]) = [line ++ [stop]] := by
  induction line with
  | nil => simp [splitAfter]
  | cons c line ih =>
    have other : c ≠ stop := fun same => whole (same ▸ List.mem_cons_self)
    rw [List.cons_append,splitAfter,if_neg other,ih fun member => whole (List.mem_cons_of_mem c member)]

/-- A piece ends at the first `stop` in it. -/
theorem mem_splitAfter {text piece : List α} (member : piece ∈ splitAfter stop text) :
    ∃ inner, stop ∉ inner ∧ (piece = inner ∨ piece = inner ++ [stop]) := by
  induction text generalizing piece with
  | nil => cases member
  | cons c rest ih =>
    rw [splitAfter] at member
    by_cases here : c = stop
    · rw [if_pos here] at member
      rcases List.mem_cons.mp member with rfl | later
      · exact ⟨[],List.not_mem_nil,Or.inr (by rw [here]; rfl)⟩
      · exact ih later
    · rw [if_neg here] at member
      have longer : ∀ {inner : List α}, stop ∉ inner → stop ∉ c :: inner := fun without inCons => by
        rcases List.mem_cons.mp inCons with same | inInner
        · exact here same.symm
        · exact without inInner
      cases split : splitAfter stop rest with
      | nil =>
        rw [split] at member
        exact ⟨[c],longer List.not_mem_nil,Or.inl (List.mem_singleton.mp member)⟩
      | cons first others =>
        rw [split] at member ih
        rcases List.mem_cons.mp member with rfl | later
        · obtain ⟨inner,without,rfl | rfl⟩ := ih List.mem_cons_self
          · exact ⟨c :: _,longer without,Or.inl rfl⟩
          · exact ⟨c :: inner,longer without,Or.inr rfl⟩
        · exact ih (List.mem_cons_of_mem first later)

end SplitAfter

/-- A text is read piece by piece. -/
theorem linesFrom_splitAfter (limit : Nat) {current text : CString} {first : CString} {others : List CString}
    (pieces : splitAfter '\n' text = first :: others) :
    linesFrom limit current text = linesFrom limit current first ++ others.flatMap (lines limit) := by
  induction text generalizing current first others with
  | nil => cases pieces
  | cons c rest ih =>
    have nothing : ∀ {rest : CString}, splitAfter '\n' rest = [] → rest = [] := fun none => by
      by_contra some
      exact splitAfter_ne_nil some none
    have behind : ∀ {others : List CString}, splitAfter '\n' rest = others → lines limit rest = others.flatMap (lines limit) := by
      intro others split
      cases others with
      | nil =>
        rw [nothing split]
        rfl
      | cons second others => exact ih split
    rw [splitAfter] at pieces
    by_cases newline : c = '\n'
    · rw [if_pos newline] at pieces
      obtain ⟨rfl,split⟩ := List.cons.inj pieces
      rw [linesFrom,if_pos (Or.inl newline),linesFrom,if_pos (Or.inl newline),linesFrom,if_pos rfl,← behind split]
      rfl
    · rw [if_neg newline] at pieces
      cases split : splitAfter '\n' rest with
      | nil =>
        rw [split] at pieces
        obtain ⟨rfl,rfl⟩ := List.cons.inj pieces
        rw [nothing split,List.flatMap_nil,List.append_nil]
      | cons second later =>
        rw [split] at pieces
        obtain ⟨rfl,rfl⟩ := List.cons.inj pieces
        rw [linesFrom,linesFrom]
        split
        · rw [← lines,behind split,List.flatMap_cons]
          rfl
        · exact ih split

theorem lines_splitAfter (limit : Nat) (text : CString) :
    lines limit text = (splitAfter '\n' text).flatMap (lines limit) := by
  cases pieces : splitAfter '\n' text with
  | nil =>
    have empty : text = [] := by
      by_contra some
      exact splitAfter_ne_nil some pieces
    rw [empty]
    rfl
  | cons first others => exact linesFrom_splitAfter limit pieces

/-- What fits and has no newline is read at once. -/
theorem linesFrom_fits {limit : Nat} {current text : CString} (whole : '\n' ∉ text)
    (fits : current.length + text.length ≤ limit) : (linesFrom limit current text).length ≤ 1 := by
  induction text generalizing current with
  | nil =>
    rw [linesFrom]
    split
    · exact Nat.zero_le 1
    · exact Nat.le_refl 1
  | cons c rest ih =>
    have plain : c ≠ '\n' := fun same => whole (same ▸ List.mem_cons_self)
    rw [List.length_cons] at fits
    rw [linesFrom]
    split
    · rename_i ends
      have full := ends.resolve_left plain
      have last : rest = [] := List.length_eq_zero_iff.mp (by omega)
      rw [last]
      exact Nat.le_refl 1
    · exact ih (fun member => whole (List.mem_cons_of_mem c member))
        (by rw [List.length_append,List.length_singleton]; omega)

theorem lines_short {limit : Nat} {text piece : CString} (member : piece ∈ splitAfter '\n' text)
    (fits : piece.length ≤ limit) : (lines limit piece).length ≤ 1 := by
  obtain ⟨inner,whole,rfl | rfl⟩ := mem_splitAfter member
  · exact linesFrom_fits whole (by rw [List.length_nil]; omega)
  · rw [List.length_append,List.length_singleton] at fits
    rw [lines_line whole (by omega)]
    exact Nat.le_refl 1

end NxReverse.Text
