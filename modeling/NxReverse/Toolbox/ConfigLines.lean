import NxReverse.Toolbox.ConfigRejection

/-! The lines of the configuration file. The reader has room for 511 characters at a time, so a longer
line is read in pieces, and each piece is taken for a line. -/
namespace NxReverse.Toolbox

open Text

/-- The settings that are applied while a text is read, in their order. -/
def settingAttempts (text : CString) : List (CString × CString) := (lines lineCapacity text).filterMap settingOf

def applyAll (config : RuntimeConfig) (settings : List (CString × CString)) : RuntimeConfig :=
  settings.foldl (fun config setting => (applySetting config setting.1 setting.2).config) config

/-- A line is one attempt if it is a setting, with all of its key and its value, and none if it is not. -/
def AppliedAsLine (line : CString) : Prop := settingAttempts line = (settingOf line).toList

/-- All that the line says stands in one of its reads, or neither the line nor one of its reads is a
setting. -/
def ReadTogether (line : CString) : Prop :=
  (lines lineCapacity line).countP (fun read => !read.all isBlank) ≤ 1 ∨
    (settingOf line = none ∧ ∀ read ∈ lines lineCapacity line, settingOf read = none)

theorem foldl_settingAttempts (texts : List CString) (s : LoadState) :
    (texts.foldl LoadState.line s).config = applyAll s.config (texts.filterMap settingOf) := by
  induction texts generalizing s with
  | nil => rfl
  | cons line texts ih =>
    rw [List.foldl_cons,ih,line_config]
    cases setting : settingOf line with
    | none => rw [List.filterMap_cons_none setting]
    | some _ =>
      rw [List.filterMap_cons_some setting]
      rfl

/-- The lines of the file are attempted one after the other. -/
theorem settingAttempts_splitAfter (text : CString) :
    settingAttempts text = (splitAfter '\n' text).flatMap settingAttempts := by
  rw [settingAttempts,lines_splitAfter,List.filterMap_flatMap]
  rfl

theorem read_settingAttempts (s : LoadState) (text : CString) :
    (s.read text).config = applyAll s.config ((splitAfter '\n' text).flatMap settingAttempts) := by
  rw [← settingAttempts_splitAfter]
  exact foldl_settingAttempts _ s

section Pieces

variable {line : CString}

def solid (text : CString) : Nat := text.countP (!isBlank ·)

theorem solid_split (front rest : CString) : solid (front ++ '=' :: rest) = solid front + 1 + solid rest := by
  have mark : ('=' :: rest).countP (!isBlank ·) = rest.countP (!isBlank ·) + 1 := List.countP_cons_of_pos (by decide)
  rw [solid,List.countP_append,mark,solid,solid]
  omega

theorem lineText_eq (noNul : nul ∉ line) : lineText line = trim line := by
  have whole : line.takeWhile (· != nul) = line := by
    apply List.takeWhile_eq_self_iff.mpr
    intro c member
    apply bne_iff_ne.mpr
    rintro rfl
    exact noNul member
  rw [lineText,whole]

theorem settingOf_congr {other : CString} (same : lineText line = lineText other) : settingOf line = settingOf other := by
  rw [settingOf,settingOf,same]

theorem settingOf_blank (noNul : nul ∉ line) (blank : line.all isBlank = true) : settingOf line = none := by
  have nothing : lineText line = [] := by rw [lineText_eq noNul,(trim_eq_nil_iff line).mpr blank]
  rw [settingOf,nothing]
  rfl

/-- A setting is made of all that stands on its line. -/
theorem solid_of_setting {key value : CString} (noNul : nul ∉ line) (setting : settingOf line = some (key,value)) :
    solid line = solid key + 1 + solid value := by
  have whole : solid line = solid (trim line) := (countP_trim line).symm
  have equals : "=".toList = ['='] := rfl
  rw [settingOf,lineText_eq noNul,equals] at setting
  dsimp only at setting
  split at setting
  · cases setting
  · cases found : find ['='] (trim line) with
    | none =>
      rw [found] at setting
      cases setting
    | some separator =>
      rw [found] at setting
      dsimp only at setting
      split at setting
      · cases setting
      · obtain ⟨rfl,rfl⟩ := Prod.mk.inj (Option.some.inj setting)
        have parts := congrArg solid (split_of_find found)
        rw [whole,parts,solid_split,solid,solid,solid,solid,countP_trim,countP_trim]

/-- Text in one piece and blanks in the others are the text on its line. -/
theorem trim_flatten {before after : List CString} {piece : CString} (front : ∀ other ∈ before, other.all isBlank = true)
    (back : ∀ other ∈ after, other.all isBlank = true) :
    trim (before ++ piece :: after).flatten = trim piece := by
  have blanks : ∀ {others : List CString}, (∀ other ∈ others, other.all isBlank = true) →
      others.flatten.all isBlank = true := fun {others} blank => by
    rw [List.all_flatten,List.all_eq_true]
    exact blank
  rw [List.flatten_append,List.flatten_cons,trim_blanks_append (blanks front),trim_append_blanks _ (blanks back)]

theorem filterMap_blank {others : List CString} (noNul : ∀ other ∈ others, nul ∉ other)
    (blank : ∀ other ∈ others, other.all isBlank = true) : others.filterMap settingOf = [] :=
  List.filterMap_eq_nil_iff.mpr fun other member => settingOf_blank (noNul other member) (blank other member)

/-- Pieces of which all but one are blank are the one attempt of their line. -/
theorem filterMap_pieces {pieces : List CString} (noNul : ∀ piece ∈ pieces, nul ∉ piece)
    (together : pieces.countP (fun piece => !piece.all isBlank) ≤ 1) :
    pieces.filterMap settingOf = (settingOf pieces.flatten).toList := by
  have flat : nul ∉ pieces.flatten := fun member => by
    obtain ⟨piece,inPieces,inPiece⟩ := List.mem_flatten.mp member
    exact noNul piece inPieces inPiece
  by_cases blank : ∀ piece ∈ pieces, piece.all isBlank = true
  · have whole : pieces.flatten.all isBlank = true := by
      rw [List.all_flatten,List.all_eq_true]
      exact blank
    rw [filterMap_blank noNul blank,settingOf_blank flat whole]
    rfl
  · push Not at blank
    obtain ⟨piece,member,solidPiece⟩ := blank
    obtain ⟨before,after,rfl⟩ := List.append_of_mem member
    rw [List.countP_append,List.countP_cons_of_pos (by simpa using solidPiece)] at together
    have front : ∀ other ∈ before, other.all isBlank = true := by
      have none := List.countP_eq_zero.mp (by omega : before.countP (fun piece => !piece.all isBlank) = 0)
      simpa using none
    have back : ∀ other ∈ after, other.all isBlank = true := by
      have none := List.countP_eq_zero.mp (by omega : after.countP (fun piece => !piece.all isBlank) = 0)
      simpa using none
    have inFront := filterMap_blank (fun other inBefore => noNul other (List.mem_append_left _ inBefore)) front
    have inBack := filterMap_blank
      (fun other inAfter => noNul other (List.mem_append_right _ (List.mem_cons_of_mem _ inAfter))) back
    have same : settingOf (before ++ piece :: after).flatten = settingOf piece := by
      apply settingOf_congr
      rw [lineText_eq flat,lineText_eq (noNul piece member),trim_flatten front back]
    rw [same,List.filterMap_append,inFront,List.nil_append]
    cases setting : settingOf piece with
    | none =>
      rw [List.filterMap_cons_none setting,inBack]
      rfl
    | some found =>
      rw [List.filterMap_cons_some setting,inBack]
      rfl

/-- A piece that is the whole setting of its line has all that stands on it. -/
theorem together_of_setting {pieces : List CString} (noNul : ∀ piece ∈ pieces, nul ∉ piece) {setting : CString × CString}
    (line : settingOf pieces.flatten = some setting) {piece : CString} (member : piece ∈ pieces)
    (found : settingOf piece = some setting) : pieces.countP (fun piece => !piece.all isBlank) ≤ 1 := by
  have flat : nul ∉ pieces.flatten := fun inFlat => by
    obtain ⟨piece,inPieces,inPiece⟩ := List.mem_flatten.mp inFlat
    exact noNul piece inPieces inPiece
  have whole := solid_of_setting flat line
  have part := solid_of_setting (noNul piece member) found
  obtain ⟨before,after,rfl⟩ := List.append_of_mem member
  have counts : solid (before ++ piece :: after).flatten = solid before.flatten + (solid piece + solid after.flatten) := by
    simp only [solid,List.flatten_append,List.flatten_cons,List.countP_append]
  have blank : ∀ {others : List CString}, solid others.flatten = 0 →
      others.countP (fun piece => !piece.all isBlank) = 0 := fun {others} none => by
    have flatBlank := (blank_iff_countP others.flatten).mpr none
    rw [List.all_flatten,List.all_eq_true] at flatBlank
    exact List.countP_eq_zero.mpr fun other inOthers => by simpa using flatBlank other inOthers
  have front := blank (by omega : solid before.flatten = 0)
  have back := blank (by omega : solid after.flatten = 0)
  rw [List.countP_append,front,List.countP_cons,back]
  split <;> omega

end Pieces

theorem noNul_reads {line : CString} (noNul : nul ∉ line) : ∀ read ∈ lines lineCapacity line, nul ∉ read :=
  fun read member inRead => noNul (by
    rw [← flatten_lines lineCapacity line]
    exact List.mem_flatten.mpr ⟨read,member,inRead⟩)

theorem appliedAsLine_iff {line : CString} (noNul : nul ∉ line) : AppliedAsLine line ↔ ReadTogether line := by
  have reads := noNul_reads noNul
  have whole := flatten_lines lineCapacity line
  constructor
  · intro applied
    rw [AppliedAsLine,settingAttempts] at applied
    cases setting : settingOf line with
    | none =>
      rw [setting] at applied
      exact Or.inr ⟨setting,List.filterMap_eq_nil_iff.mp applied⟩
    | some found =>
      rw [setting] at applied
      have attempted : found ∈ (lines lineCapacity line).filterMap settingOf := by
        rw [applied]
        exact List.mem_singleton_self found
      obtain ⟨read,member,here⟩ := List.mem_filterMap.mp attempted
      exact Or.inl (together_of_setting reads (by rw [whole]; exact setting) member here)
  · rintro (together | ⟨noSetting,noAttempt⟩)
    · have once := filterMap_pieces reads together
      rwa [whole] at once
    · rw [AppliedAsLine,settingAttempts,noSetting,List.filterMap_eq_nil_iff.mpr noAttempt]
      rfl

/-- A line that fits the buffer is read together. -/
theorem readTogether_of_short {text line : CString} (member : line ∈ splitAfter '\n' text)
    (short : line.length ≤ lineCapacity) : ReadTogether line :=
  Or.inl (List.countP_le_length.trans (lines_short member short))

/-- A load applies the attempts of the lines of its file in their order. Every line is applied as a
line exactly if every line is read together. -/
theorem linesApplied_iff {text : CString} (noNul : nul ∉ text) :
    (∀ limits strerror defaults, (loadRuntimeConfig limits strerror defaults (.ok text)).config =
      let applied := applyAll defaults ((splitAfter '\n' text).flatMap settingAttempts)
      match validateRuntimeConfig limits applied with
      | .ok () => applied
      | .error _ => defaults) ∧
    ((∀ line ∈ splitAfter '\n' text, AppliedAsLine line) ↔ ∀ line ∈ splitAfter '\n' text, ReadTogether line) := by
  constructor
  · intro limits strerror defaults
    have loaded := load_config limits strerror defaults text
    rw [read_settingAttempts] at loaded
    exact loaded
  · refine forall₂_congr fun line member => appliedAsLine_iff fun inLine => noNul ?_
    rw [← @flatten_splitAfter _ _ '\n' text]
    exact List.mem_flatten.mpr ⟨line,member,inLine⟩

/-- The lines of a small file are applied as lines. -/
theorem linesApplied_short :
    AppliedAsLine "# a\n".toList ∧ AppliedAsLine "udp.datagram_count = 5\n".toList := by
  have fits : (splitAfter '\n' "# a\nudp.datagram_count = 5\n".toList).all (·.length ≤ lineCapacity) = true := by decide
  have noNul : nul ∉ "# a\nudp.datagram_count = 5\n".toList := by decide
  have applied := (linesApplied_iff noNul).2.mpr fun line member =>
    readTogether_of_short member (of_decide_eq_true (List.all_eq_true.mp fits line member))
  exact ⟨applied _ (by decide),applied _ (by decide)⟩

theorem settingOf_comment (rest : CString) : settingOf ('#' :: rest) = none := by
  have visible : ('#' :: rest).takeWhile (· != nul) = '#' :: rest.takeWhile (· != nul) :=
    List.takeWhile_cons_of_pos (by decide)
  have head : (lineText ('#' :: rest)).head? = some '#' := by
    rw [lineText,visible]
    exact head?_trim_cons (by decide) _
  rw [settingOf]
  exact if_pos (Or.inr head)

/-- A comment that fills the buffer, and a setting on the same line. -/
def commentFront : CString := '#' :: List.replicate 510 'x'
def longComment : CString := commentFront ++ "udp.datagram_count=5".toList ++ ['\n']

/-- The end of a long comment is applied. -/
theorem comment_applied : ¬∀ text : CString, nul ∉ text → ∀ line ∈ splitAfter '\n' text, AppliedAsLine line := by
  intro applied
  have front : ∀ c ∈ commentFront, c = '#' ∨ c = 'x' := fun c member =>
    (List.mem_cons.mp member).imp_right List.eq_of_mem_replicate
  have absent : ∀ c : Char, c ≠ '#' → c ≠ 'x' → c ∉ commentFront := fun c hash letter member =>
    (front c member).elim hash letter
  have noNul : nul ∉ longComment := by
    rw [longComment,List.append_assoc,List.mem_append,not_or]
    exact ⟨absent nul (by decide) (by decide),by decide⟩
  have newline : '\n' ∉ commentFront := absent '\n' (by decide) (by decide)
  have oneLine : splitAfter '\n' longComment = [longComment] := splitAfter_line (by
    rw [List.mem_append,not_or]
    exact ⟨newline,by decide⟩)
  have filled : commentFront.length = lineCapacity := by
    rw [commentFront,List.length_cons,List.length_replicate,lineCapacity]
  have reads : lines lineCapacity longComment =
      commentFront :: lines lineCapacity ("udp.datagram_count=5".toList ++ ['\n']) := by
    rw [longComment,List.append_assoc]
    exact linesFrom_full newline (List.cons_ne_nil _ _) (by rw [List.length_nil,filled,Nat.zero_add]) _
  have behind : (lines lineCapacity ("udp.datagram_count=5".toList ++ ['\n'])).filterMap settingOf =
      [("udp.datagram_count".toList,"5".toList)] := by decide
  have comment : settingOf longComment = none := settingOf_comment _
  have commentRead : settingOf commentFront = none := settingOf_comment _
  have asLine := applied longComment noNul longComment (by rw [oneLine]; exact List.mem_singleton_self _)
  rw [AppliedAsLine,settingAttempts,reads,List.filterMap_cons_none commentRead,behind,comment] at asLine
  cases asLine

end NxReverse.Toolbox
