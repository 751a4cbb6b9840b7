import NxReverse.Toolbox.ConfigSettings

/-! Profile names that were read from a file. Each was the value of a line: it has no newline and
no NUL, and no blank at either end. -/
namespace NxReverse.Toolbox

open Text

structure GoodName (name : CString) : Prop where
  oneLine : '\n' ∉ name
  noNul : nul ∉ name
  trimmed : trim name = name

instance (name : CString) : Decidable (GoodName name) :=
  decidable_of_iff ('\n' ∉ name ∧ nul ∉ name ∧ trim name = name)
    ⟨fun h => ⟨h.1,h.2.1,h.2.2⟩,fun h => ⟨h.oneLine,h.noNul,h.trimmed⟩⟩

/-- The first `k` profiles have such names. -/
def NamesGood (k : Nat) (config : RuntimeConfig) : Prop :=
  ∀ i < k, ∀ profile ∈ config.profiles[i]?, GoodName profile.name

section Settings

variable {k : Nat} {config : RuntimeConfig} {value : CString}

/-- A profile may be replaced by one with its own name or with a good one. -/
theorem NamesGood.set {index : Nat} {profile stored : RuntimeProfile} (good : NamesGood k config)
    (held : config.profiles[index]? = some profile)
    (name : stored.name = profile.name ∨ GoodName stored.name) :
    NamesGood k { config with profiles := config.profiles.set index stored } := by
  intro i below other member
  change (config.profiles.set index stored)[i]? = some other at member
  by_cases same : index = i
  · subst same
    obtain ⟨inside,_⟩ := List.getElem?_eq_some_iff.mp held
    rw [List.getElem?_set_self inside] at member
    obtain rfl := Option.some.inj member
    rcases name with kept | fresh
    · rw [kept]
      exact good index below profile held
    · exact fresh
  · rw [List.getElem?_set_ne same] at member
    exact good i below other member

/-- New profiles are copies of the first one. -/
theorem NamesGood.resize (good : NamesGood k config) (count : UInt64) :
    NamesGood k (resizeProfiles config count).1 := by
  unfold resizeProfiles
  split
  · exact good
  · split
    · exact good
    next front rest held =>
      intro i below profile member
      rw [Option.mem_def,List.getElem?_append] at member
      split at member
      · rw [List.getElem?_take] at member
        split at member
        · rw [← held] at member
          exact good i below profile member
        · cases member
      · obtain ⟨_,rfl⟩ := List.mem_replicate.mp (List.mem_of_getElem? member)
        exact good 0 (by omega) profile (by rw [held]; rfl)

theorem store_keeps {P : RuntimeConfig → Prop} {parsed : Option α} {put : α → RuntimeConfig} (held : P config)
    (puts : ∀ v, P (put v)) : P (store config parsed put).1 := by
  cases parsed with
  | none => exact held
  | some v => exact puts v

theorem applyFrom_keeps {P : RuntimeConfig → Prop} {table : List Setting} {key : CString}
    {result : RuntimeConfig × Bool} (found : applyFrom table config key value = some result)
    (rows : ∀ setting ∈ table, P (setting.apply config value).1) : P result.1 := by
  obtain ⟨setting,first,rfl⟩ := Option.map_eq_some_iff.mp found
  exact rows setting (List.mem_of_find?_eq_some first)

theorem runSettings_keep (good : NamesGood k config) :
    ∀ setting ∈ runSettings, NamesGood k (setting.apply config value).1 := by
  simp only [runSettings,List.forall_mem_cons]
  refine ⟨store_keeps good fun _ => good,store_keeps good fun _ => good,store_keeps good fun _ => good,?_,nofun⟩
  cases parseUInt64 value with
  | none => exact good
  | some count => exact good.resize count

theorem scenarioSettings_keep (good : NamesGood k config) :
    ∀ setting ∈ scenarioSettings, NamesGood k (setting.apply config value).1 := by
  simp only [scenarioSettings,List.forall_mem_cons]
  refine ⟨?_,?_,?_,?_,?_,?_,?_,?_,?_,?_,?_,?_,?_,nofun⟩ <;> exact store_keeps good fun _ => good

theorem selectScenario_keeps (good : NamesGood k config) (scenario : RuntimeScenario) (enabled : Option Bool) :
    NamesGood k (selectScenario config scenario enabled).1 := by
  apply store_keeps good
  intro enabled
  cases enabled <;> exact good

theorem storePort_name {parsed : Option UInt16} {profile : RuntimeProfile} {put : UInt16 → RuntimeProfile}
    (puts : ∀ port, (put port).name = profile.name) : (storePort parsed profile put).1.name = profile.name := by
  cases parsed with
  | none => rfl
  | some port => exact puts port

theorem legacySettings_keep (good : NamesGood k config) {profile : RuntimeProfile}
    (active : activeRuntimeProfile config = some profile) :
    ∀ setting ∈ legacySettings profile, NamesGood k (setting.apply config value).1 := by
  have replaced {stored : RuntimeProfile} (name : stored.name = profile.name) : NamesGood k (putActive config stored) :=
    good.set active (.inl name)
  simp only [legacySettings,List.forall_mem_cons]
  refine ⟨selectScenario_keeps good _ _,selectScenario_keeps good _ _,selectScenario_keeps good _ _,?_,
    replaced (storePort_name fun _ => rfl),?_,?_,?_,?_,?_,?_,?_,?_,?_,?_,?_,?_,?_,nofun⟩
  · split
    · exact replaced rfl
    · exact good
  all_goals exact store_keeps good fun _ => good

theorem applyLegacySetting_keeps (good : NamesGood k config) (key : CString) :
    NamesGood k (applyLegacySetting config key value).1 := by
  unfold applyLegacySetting
  split
  · exact good
  next profile active =>
    cases found : applyFrom (legacySettings profile) config key value with
    | none => exact good
    | some result => exact applyFrom_keeps found (legacySettings_keep good active)

/-- A profile setting leaves the name or stores the value as the name. -/
theorem applyProfileField_name {profile : RuntimeProfile} {field : CString} {stored : RuntimeProfile × Bool}
    (found : applyProfileField profile field value = some stored) :
    stored.1.name = profile.name ∨ stored.1.name = value := by
  unfold applyProfileField at found
  split at found
  · obtain rfl := Option.some.inj found
    split
    · exact .inl rfl
    · exact .inr rfl
  · left
    split at found
    · obtain rfl := Option.some.inj found
      split <;> rfl
    · split at found
      · obtain rfl := Option.some.inj found
        split <;> rfl
      · split at found
        · obtain rfl := Option.some.inj found
          exact storePort_name fun _ => rfl
        · split at found
          · obtain rfl := Option.some.inj found
            exact storePort_name fun _ => rfl
          · cases found

/-- A setting with a value that a line can give keeps the names good. -/
theorem NamesGood.applySetting (good : NamesGood k config) (goodValue : GoodName value) (key : CString) :
    NamesGood k (applySetting config key value).config := by
  unfold Toolbox.applySetting
  split
  next result found => exact applyFrom_keeps found (runSettings_keep good)
  · split
    next index field parsed =>
      unfold applyProfileSetting
      split
      · exact good
      next profile held =>
        split
        · exact good
        next stored found =>
          refine good.set held ?_
          rcases applyProfileField_name found with kept | fresh
          · exact .inl kept
          · exact .inr (by rw [fresh]; exact goodValue)
    · split
      next result found => exact applyFrom_keeps found (scenarioSettings_keep good)
      · have legacy : NamesGood k (applyLegacySetting config key value).1 := applyLegacySetting_keeps good key
        dsimp only
        split <;> exact legacy

end Settings

/-- A line as it is read: a newline can only be its last character. -/
def OneLine (line : CString) : Prop := ∃ inner, '\n' ∉ inner ∧ (line = inner ∨ line = inner ++ ['\n'])

def lineText (line : CString) : CString := trim (line.takeWhile (· != nul))

theorem lineText_of_noNul {line : CString} (noNul : nul ∉ line) : lineText (line ++ ['\n']) = trim line := by
  have whole : (line ++ ['\n']).takeWhile (· != nul) = line ++ ['\n'] := by
    apply List.takeWhile_eq_self_iff.mpr
    intro c member
    apply bne_iff_ne.mpr
    rintro rfl
    rcases List.mem_append.mp member with inLine | newline
    · exact noNul inLine
    · exact absurd (List.mem_singleton.mp newline) (by decide)
  rw [lineText,whole,trim_append_blank _ (by decide)]

theorem nul_lineText (line : CString) : nul ∉ lineText line := by
  intro member
  have passed := List.mem_takeWhile_imp (mem_of_mem_trim member)
  simp at passed

theorem OneLine.lineText {line : CString} (oneLine : OneLine line) : '\n' ∉ lineText line := by
  obtain ⟨inner,unended,rfl | rfl⟩ := oneLine
  · intro member
    exact unended ((List.takeWhile_prefix _).subset (mem_of_mem_trim member))
  · rw [Toolbox.lineText]
    rcases List.prefix_concat_iff.mp (@List.takeWhile_prefix _ (inner ++ ['\n']) (· != nul)) with whole | part
    · rw [whole,trim_append_blank _ (by decide)]
      exact fun member => unended (mem_of_mem_trim member)
    · exact fun member => unended (part.subset (mem_of_mem_trim member))

theorem goodName_value {line : CString} (oneLine : OneLine line) (start : Nat) :
    GoodName (trim ((lineText line).drop start)) where
  oneLine member := oneLine.lineText (List.mem_of_mem_drop (mem_of_mem_trim member))
  noNul member := nul_lineText line (List.mem_of_mem_drop (mem_of_mem_trim member))
  trimmed := trim_trim _

theorem settingLine_eq (setting : CString × CString) :
    settingLine setting = (setting.1 ++ '=' :: setting.2) ++ ['\n'] := by
  simp [settingLine]

namespace LoadState

/-- A line is skipped, diagnosed or a setting. -/
theorem line_cases (s : LoadState) (line : CString) :
    s.line line = { s with lineNumber := s.lineNumber + 1 } ∨
    (∃ text, s.line line = { s with lineNumber := s.lineNumber + 1 }.diagnose text) ∨
    ∃ key start, s.line line =
      { s with lineNumber := s.lineNumber + 1 }.applyKey key (trim ((lineText line).drop start)) := by
  unfold LoadState.line
  dsimp only
  split
  · exact .inl rfl
  · split
    · exact .inr (.inl ⟨_,rfl⟩)
    next separator found =>
      split
      · exact .inr (.inl ⟨_,rfl⟩)
      · exact .inr (.inr ⟨_,separator + 1,rfl⟩)

/-- A line whose text is `key=rest`. -/
theorem line_keyed (s : LoadState) {key rest line : CString} (plain : PlainText key)
    (text : lineText line = key ++ '=' :: rest) :
    s.line line =
      if trim rest = [] then
        { s with lineNumber := s.lineNumber + 1 }.diagnose " has an empty key or value".toList
      else { s with lineNumber := s.lineNumber + 1 }.applyKey key (trim rest) := by
  have noEquals : '=' ∉ key := fun member => plain.plain _ member (by decide)
  have kept : ¬(key ++ '=' :: rest = [] ∨ (key ++ '=' :: rest).head? = some '#') := by
    rintro (empty | comment)
    · simp at empty
    · rw [List.head?_append_of_ne_nil _ plain.nonempty] at comment
      exact plain.plain _ (List.mem_of_head? comment) (by decide)
  have equals : "=".toList = ['='] := rfl
  have front : (key ++ '=' :: rest).take key.length = key := List.take_left
  have back : (key ++ '=' :: rest).drop (key.length + 1) = rest := by
    rw [← List.drop_drop,List.drop_left]
    rfl
  rw [lineText] at text
  rw [LoadState.line,text]
  dsimp only
  rw [if_neg kept,equals,find_char noEquals]
  dsimp only
  rw [front,back,plain.trimmed]
  simp only [plain.nonempty,false_or]

theorem diagnose_diagnostics (s : LoadState) (text : CString) : (s.diagnose text).diagnostics ≠ [] := by
  simp [diagnose]

theorem applyKey_config (s : LoadState) (key value : CString) :
    (s.applyKey key value).config = (applySetting s.config key value).config := by
  unfold applyKey
  dsimp only
  split <;> rfl

theorem applyKey_diagnostics {s : LoadState} {key value : CString} (clean : (s.applyKey key value).diagnostics = []) :
    s.diagnostics = [] ∧ (applySetting s.config key value).error = none := by
  unfold applyKey at clean
  dsimp only at clean
  split at clean
  next accepted => exact ⟨clean,accepted⟩
  · exact absurd clean (diagnose_diagnostics _ _)

def read (s : LoadState) (text : CString) : LoadState := (lines lineCapacity text).foldl LoadState.line s

theorem read_append (s : LoadState) (first second : CString) :
    s.read (first ++ '\n' :: second) = (s.read (first ++ ['\n'])).read second := by
  rw [read,lines_append,List.foldl_append]
  rfl

/-- A line that fits is read as one. -/
theorem read_line (s : LoadState) {line : CString} (whole : '\n' ∉ line) (fits : line.length < lineCapacity)
    (rest : CString) : s.read (line ++ '\n' :: rest) = (s.line (line ++ ['\n'])).read rest := by
  rw [read,lines_line whole fits]
  rfl

/-- Each printed setting ends its line, so the settings are read one after the other. -/
theorem read_settingLines (s : LoadState) (settings : List (CString × CString)) :
    s.read (settingLines settings) = settings.foldl (fun s setting => s.read (settingLine setting)) s := by
  induction settings generalizing s with
  | nil => rfl
  | cons setting rest ih =>
    have text : settingLines (setting :: rest) = (setting.1 ++ '=' :: setting.2) ++ '\n' :: settingLines rest := by
      simp [settingLines,settingLine]
    rw [text,read_append,← settingLine_eq,ih,List.foldl_cons]

end LoadState

/-- Without a diagnostic the first `k` names are good. -/
def Named (k : Nat) (s : LoadState) : Prop := s.diagnostics = [] → NamesGood k s.config

theorem Named.line {k : Nat} {s : LoadState} (named : Named k s) {line : CString} (oneLine : OneLine line) :
    Named k (s.line line) := by
  intro clean
  rcases s.line_cases line with skipped | ⟨text,diagnosed⟩ | ⟨key,start,applied⟩
  · rw [skipped] at clean ⊢
    exact named clean
  · rw [diagnosed] at clean
    exact absurd clean (LoadState.diagnose_diagnostics _ _)
  · rw [applied] at clean ⊢
    rw [LoadState.applyKey_config]
    exact (named (LoadState.applyKey_diagnostics clean).1).applySetting (goodName_value oneLine start) key

theorem Named.foldl_line {k : Nat} {s : LoadState} (named : Named k s) {texts : List CString}
    (oneLine : ∀ line ∈ texts, OneLine line) : Named k (texts.foldl LoadState.line s) := by
  induction texts generalizing s with
  | nil => exact named
  | cons line rest ih =>
    obtain ⟨first,later⟩ := List.forall_mem_cons.mp oneLine
    exact ih (named.line first) later

/-- No text takes the goodness of a name away. -/
theorem Named.read {k : Nat} {s : LoadState} (named : Named k s) (text : CString) : Named k (s.read text) :=
  named.foldl_line fun _ member => newline_last (by simp) member

theorem Named.foldl_read {k : Nat} {s : LoadState} (named : Named k s) (settings : List (CString × CString)) :
    Named k (settings.foldl (fun s setting => s.read (settingLine setting)) s) := by
  induction settings generalizing s with
  | nil => exact named
  | cons setting rest ih => exact ih (named.read _)

/-- The name of profile `k` is good after a line that sets it. -/
theorem named_applyKey {k : UInt64} {s : LoadState} {value : CString} (named : Named k.toNat s)
    (good : GoodName value) : Named (k.toNat + 1) (s.applyKey (profileKey k.toNat "name".toList) value) := by
  intro clean
  obtain ⟨earlier,accepted⟩ := LoadState.applyKey_diagnostics clean
  have names := named earlier
  rw [LoadState.applyKey_config]
  rw [applySetting,applyFrom_missing (run_keys _ _),parseProfileKey_profileKey] at accepted ⊢
  dsimp only at accepted ⊢
  unfold applyProfileSetting at accepted ⊢
  cases held : s.config.profiles[k.toNat]? with
  | none =>
    rw [held] at accepted
    cases accepted
  | some profile =>
    rw [held] at accepted
    dsimp only at accepted ⊢
    rw [applyProfileField,if_pos rfl] at accepted ⊢
    by_cases long : value.length > maximumProfileNameLength
    · rw [if_pos long] at accepted
      cases accepted
    · rw [if_neg long]
      intro i below other member
      rcases Nat.lt_succ_iff_lt_or_eq.mp below with before | rfl
      · exact names.set held (.inr good) i before other member
      · obtain ⟨inside,_⟩ := List.getElem?_eq_some_iff.mp held
        change (s.config.profiles.set k.toNat { profile with name := value })[k.toNat]? = some other at member
        rw [List.getElem?_set_self inside] at member
        obtain rfl := Option.some.inj member
        exact good

/-- The first line of a printed name ends where the name has a newline, and sets the name. -/
theorem named_nameLine {k : UInt64} (few : k.toNat < maximumProfiles) {s : LoadState} (named : Named k.toNat s)
    {shown : CString} (noNul : nul ∉ shown) (short : shown.length ≤ maximumProfileNameLength) :
    Named (k.toNat + 1) (s.read (settingLine (profileKey k.toNat "name".toList,shown))) := by
  have plain : PlainText (profileKey k.toNat "name".toList) := plain_profileKey _ (by decide)
  have keyLength := length_profileKey few "name".toList
  generalize keyIs : profileKey k.toNat "name".toList = key at plain keyLength ⊢
  obtain ⟨head,more,text,unended⟩ := List.eq_append_cons_of_mem (List.mem_append_right shown (List.mem_singleton_self '\n'))
  have headShort : head.length ≤ shown.length := by
    have lengths := congrArg List.length text
    simp only [List.length_append,List.length_cons,List.length_nil] at lengths
    omega
  have headNoNul : nul ∉ head := by
    intro member
    have inText : nul ∈ shown ++ ['\n'] := by
      rw [text]
      exact List.mem_append_left _ member
    rcases List.mem_append.mp inText with inShown | newline
    · exact noNul inShown
    · exact absurd (List.mem_singleton.mp newline) (by decide)
  have whole : '\n' ∉ key ++ '=' :: head := plain.not_mem_joined (by decide) (by decide) unended
  have noNulLine : nul ∉ key ++ '=' :: head := plain.not_mem_joined (by decide) (by decide) headNoNul
  have fits : (key ++ '=' :: head).length < lineCapacity := by
    have four : "name".toList.length = 4 := by decide
    rw [four] at keyLength
    rw [List.length_append,List.length_cons]
    simp only [lineCapacity,maximumProfileNameLength] at short ⊢
    omega
  have line : settingLine (key,shown) = (key ++ '=' :: head) ++ '\n' :: more := by
    rw [settingLine,text,List.append_assoc,List.cons_append]
  obtain ⟨kept,trimmed⟩ := trim_kept plain.nonempty
    (fun c first => not_blank_of_plain (plain.plain c (List.mem_of_head? first))) (by decide : isBlank '=' = false) head
  have lineIs : lineText ((key ++ '=' :: head) ++ ['\n']) = key ++ '=' :: kept := by
    rw [lineText_of_noNul noNulLine,trimmed]
  have value : GoodName (trim kept) := by
    have good := goodName_value ⟨_,whole,.inr rfl⟩ (key.length + 1)
    rw [lineIs,← List.drop_drop,List.drop_left] at good
    exact good
  rw [line,LoadState.read_line s whole fits more]
  apply Named.read
  rw [LoadState.line_keyed s plain lineIs]
  split
  · intro clean
    exact absurd clean (LoadState.diagnose_diagnostics _ _)
  · rw [← keyIs]
    exact named_applyKey named value

/-- Reading the printed profiles makes their names good one after the other. -/
theorem named_profileSettings {k : Nat} {profiles : List RuntimeProfile} (few : k + profiles.length ≤ maximumProfiles)
    (short : ∀ profile ∈ profiles, profile.name.length ≤ maximumProfileNameLength) {s : LoadState}
    (named : Named k s) : Named (k + profiles.length) (s.read (settingLines (profileSettings k profiles))) := by
  induction profiles generalizing k s with
  | nil => exact named
  | cons profile rest ih =>
    obtain ⟨shortName,shortRest⟩ := List.forall_mem_cons.mp short
    rw [List.length_cons] at few ⊢
    obtain ⟨index,rfl⟩ : ∃ index : UInt64, index.toNat = k :=
      ⟨_,UInt64.toNat_ofNat_of_lt (Nat.lt_of_le_of_lt (Nat.le_trans (Nat.le_add_right _ _) few) (by decide))⟩
    have shownShort : (cStr profile.name).length ≤ maximumProfileNameLength :=
      (List.takeWhile_prefix _).length_le.trans shortName
    have shownNoNul : nul ∉ cStr profile.name := by
      intro member
      have passed := List.mem_takeWhile_imp member
      simp at passed
    have first := named_nameLine (by omega) named shownNoNul shownShort
    have block : Named (index.toNat + 1) ((profileValues index.toNat profile).foldl
        (fun s setting => s.read (settingLine setting)) s) := first.foldl_read _
    have later := ih (by omega) shortRest block
    rw [LoadState.read_settingLines,profileSettings,List.foldl_append,← LoadState.read_settingLines,
      Nat.add_comm rest.length,← Nat.add_assoc]
    exact later

end NxReverse.Toolbox
