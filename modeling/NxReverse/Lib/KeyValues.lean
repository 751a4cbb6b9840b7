import Mathlib.Data.List.TakeWhile
import Mathlib.Data.List.Infix

/-! Patterns that are searched for in a text, and the settings of a text: a word, a sign and what is not blank behind
it, leftmost first. Settings that are written with a blank between them are read back. -/
namespace NxReverse.KeyValues

variable {α β : Type}

section Search

def search (matchAt : List α → Option β) : List α → Option β
  | [] => matchAt []
  | c :: rest => (matchAt (c :: rest)).or (search matchAt rest)

variable {matchAt : List α → Option β}

/-- Every match has `c` in it. -/
def Contains (matchAt : List α → Option β) (c : α) : Prop := ∀ text, c ∉ text → matchAt text = none

/-- Every match begins with `c`. -/
def Begins (matchAt : List α → Option β) (c : α) : Prop := ∀ first rest, first ≠ c → matchAt (first :: rest) = none

theorem search_here {text : List α} {m : β} (here : matchAt text = some m) : search matchAt text = some m := by
  cases text with
  | nil => exact here
  | cons c rest => rw [search,here]; rfl

theorem search_cons {c : α} {rest : List α} (none : matchAt (c :: rest) = none) :
    search matchAt (c :: rest) = search matchAt rest := by
  rw [search,none]
  rfl

/-- A match does not begin in a part without its first sign. -/
theorem Begins.skip {c : α} (begins : Begins matchAt c) {front : List α} (without : c ∉ front) (rest : List α) :
    search matchAt (front ++ rest) = search matchAt rest := by
  induction front with
  | nil => rfl
  | cons first front ih =>
    have other : first ≠ c := fun same => without (same ▸ List.mem_cons_self)
    rw [List.cons_append,search_cons (begins _ _ other),ih fun member => without (List.mem_cons_of_mem _ member)]

theorem Begins.search_none {c : α} (begins : Begins matchAt c) (nothing : matchAt [] = none) {text : List α}
    (without : c ∉ text) : search matchAt text = none := by
  rw [← List.append_nil text,begins.skip without,search,nothing]

theorem Contains.search_none {c : α} (contains : Contains matchAt c) {text : List α} (without : c ∉ text) :
    search matchAt text = none := by
  induction text with
  | nil => exact contains _ without
  | cons first rest ih =>
    rw [search_cons (contains _ without)]
    exact ih fun member => without (List.mem_cons_of_mem _ member)

theorem dropPrefix?_begins [DecidableEq α] (c : α) (literal : List α) :
    Begins (fun text => text.dropPrefix? (c :: literal)) c := by
  intro first rest other
  simp [List.dropPrefix?,other]

theorem dropPrefix?_contains [DecidableEq α] {literal : List α} {c : α} (member : c ∈ literal) :
    Contains (fun text => text.dropPrefix? literal) c := by
  intro text without
  refine Option.eq_none_iff_forall_ne_some.mpr fun rest found => ?_
  obtain ⟨front,rfl,same⟩ := List.dropPrefix?_eq_some_iff.mp found
  obtain rfl := eq_of_beq same
  exact without (List.mem_append_left _ member)

end Search

section Written

variable (sign : α)

def written (separator : α) : List (List α × List α) → List α
  | [] => []
  | [(key,value)] => key ++ sign :: value
  | (key,value) :: rest => key ++ sign :: (value ++ separator :: written separator rest)

variable {sign}

theorem written_cons {separator : α} (pair : List α × List α) {rest : List (List α × List α)} (more : rest ≠ []) :
    written sign separator (pair :: rest) = pair.1 ++ sign :: (pair.2 ++ separator :: written sign separator rest) := by
  cases rest with
  | nil => exact absurd rfl more
  | cons next rest => rfl

theorem mem_written {separator c : α} {pairs : List (List α × List α)} (member : c ∈ written sign separator pairs) :
    c = sign ∨ c = separator ∨ ∃ pair ∈ pairs, c ∈ pair.1 ∨ c ∈ pair.2 := by
  induction pairs with
  | nil => cases member
  | cons pair rest ih =>
    cases rest with
    | nil =>
      rw [written,List.mem_append,List.mem_cons] at member
      rcases member with key | rfl | value
      · exact .inr (.inr ⟨pair,List.mem_cons_self,.inl key⟩)
      · exact .inl rfl
      · exact .inr (.inr ⟨pair,List.mem_cons_self,.inr value⟩)
    | cons next more =>
      rw [written_cons pair (List.cons_ne_nil _ _),List.mem_append,List.mem_cons,List.mem_append,List.mem_cons] at member
      rcases member with key | rfl | value | rfl | later
      · exact .inr (.inr ⟨pair,List.mem_cons_self,.inl key⟩)
      · exact .inl rfl
      · exact .inr (.inr ⟨pair,List.mem_cons_self,.inr value⟩)
      · exact .inr (.inl rfl)
      · rcases ih later with signs | separates | ⟨other,inside,within⟩
        · exact .inl signs
        · exact .inr (.inl separates)
        · exact .inr (.inr ⟨other,List.mem_cons_of_mem _ inside,within⟩)

/-- The last value stands behind what is written of the others. -/
theorem written_concat (separator : α) (pairs : List (List α × List α)) (name value : List α) :
    written sign separator (pairs ++ [(name,value)]) = written sign separator (pairs ++ [(name,[])]) ++ value := by
  induction pairs with
  | nil => simp [written]
  | cons pair rest ih =>
    rw [List.cons_append,List.cons_append,written_cons pair (by simp),written_cons pair (by simp),ih]
    simp

end Written

section Settings

variable [DecidableEq α] (word blank : α → Bool) (sign : α)

def settingAt (text : List α) : Option ((List α × List α) × List α) :=
  match text.dropWhile word with
  | [] => none
  | c :: rest =>
    if c = sign ∧ text.takeWhile word ≠ [] ∧ rest.takeWhile (!blank ·) ≠ [] then
      some ((text.takeWhile word,rest.takeWhile (!blank ·)),rest.dropWhile (!blank ·))
    else none

theorem length_settingAt {text behind : List α} {setting : List α × List α}
    (found : settingAt word blank sign text = some (setting,behind)) : behind.length < text.length := by
  rw [settingAt] at found
  split at found
  · cases found
  next c rest dropped =>
    split at found
    · cases found
      have shorter : (text.dropWhile word).length ≤ text.length := (List.dropWhile_sublist word).length_le
      have behind : (rest.dropWhile (!blank ·)).length ≤ rest.length := (List.dropWhile_sublist _).length_le
      rw [dropped,List.length_cons] at shorter
      omega
    · cases found

def settings (text : List α) : List (List α × List α) :=
  match text with
  | [] => []
  | c :: rest =>
    match _ : settingAt word blank sign (c :: rest) with
    | some (setting,behind) => setting :: settings behind
    | none => settings rest
termination_by text.length
decreasing_by
  · exact length_settingAt word blank sign ‹_›
  · simp

variable {word blank sign}

structure Readable (word blank : α → Bool) (setting : List α × List α) : Prop where
  key : setting.1 ≠ []
  value : setting.2 ≠ []
  worded : ∀ c ∈ setting.1, word c = true
  filled : ∀ c ∈ setting.2, blank c = false

def Ended (blank : α → Bool) (text : List α) : Prop := ∀ c ∈ text.head?, blank c = true

theorem settingAt_written {setting : List α × List α} (readable : Readable word blank setting) (plain : word sign = false)
    {behind : List α} (ended : Ended blank behind) :
    settingAt word blank sign (setting.1 ++ sign :: (setting.2 ++ behind)) = some (setting,behind) := by
  have filled : ∀ c ∈ setting.2, (!blank c) = true := fun c member => by rw [readable.filled c member]; rfl
  have stops : behind.takeWhile (!blank ·) = [] ∧ behind.dropWhile (!blank ·) = behind := by
    cases behind with
    | nil => exact ⟨rfl,rfl⟩
    | cons c rest => simp [ended c rfl]
  have key : (setting.1 ++ sign :: (setting.2 ++ behind)).takeWhile word = setting.1 := by
    rw [List.takeWhile_append_of_pos readable.worded,List.takeWhile_cons_of_neg (by simp [plain]),List.append_nil]
  have rest : (setting.1 ++ sign :: (setting.2 ++ behind)).dropWhile word = sign :: (setting.2 ++ behind) := by
    rw [List.dropWhile_append_of_pos readable.worded,List.dropWhile_cons_of_neg (by simp [plain])]
  have value : (setting.2 ++ behind).takeWhile (!blank ·) = setting.2 := by
    rw [List.takeWhile_append_of_pos filled,stops.1,List.append_nil]
  have left : (setting.2 ++ behind).dropWhile (!blank ·) = behind := by
    rw [List.dropWhile_append_of_pos filled,stops.2]
  rw [settingAt,rest]
  dsimp only
  rw [key,value,left,if_pos ⟨rfl,readable.key,readable.value⟩]

theorem settings_setting {setting : List α × List α} (readable : Readable word blank setting) (plain : word sign = false)
    {behind : List α} (ended : Ended blank behind) :
    settings word blank sign (setting.1 ++ sign :: (setting.2 ++ behind)) = setting :: settings word blank sign behind := by
  have found := settingAt_written readable plain ended
  obtain ⟨c,front,head⟩ := List.exists_cons_of_ne_nil readable.key
  rw [head,List.cons_append] at found ⊢
  rw [settings]
  split
  next found' =>
    rw [found'] at found
    cases found
    rfl
  next missing => rw [missing] at found; cases found

/-- A blank that is no word begins no setting. -/
theorem settings_blank {separator : α} (unworded : word separator = false) (rest : List α) :
    settings word blank sign (separator :: rest) = settings word blank sign rest := by
  have missing : settingAt word blank sign (separator :: rest) = none := by
    simp [settingAt,unworded]
  rw [settings]
  split
  next found => rw [missing] at found; cases found
  next => rfl

theorem settings_written {separator : α} {pairs : List (List α × List α)} (plain : word sign = false)
    (unworded : word separator = false) (blanks : blank separator = true)
    (readable : ∀ pair ∈ pairs, Readable word blank pair) :
    settings word blank sign (written sign separator pairs) = pairs := by
  induction pairs with
  | nil => rw [written,settings]
  | cons pair rest ih =>
    have here := readable pair List.mem_cons_self
    have later := ih fun other member => readable other (List.mem_cons_of_mem _ member)
    cases rest with
    | nil =>
      have last := @settings_setting _ _ word blank sign pair here plain [] nofun
      rw [List.append_nil] at last
      rw [written,last,settings]
    | cons next more =>
      have ended : Ended blank (separator :: written sign separator (next :: more)) := by
        rintro c ⟨⟩
        exact blanks
      rw [written_cons pair (List.cons_ne_nil _ _),settings_setting here plain ended,settings_blank unworded,later]

end Settings

end NxReverse.KeyValues
