import NxReverse.Toolbox.ConfigNames

/-! A saved configuration is read back: every printed line is read as the setting it was printed
for, as long as the profile names survive the lines they are printed on. -/
namespace NxReverse.Toolbox

open Text

/-- A setting that is printed on one line and found on it again. -/
structure PrintableSetting (setting : CString × CString) : Prop where
  key : PlainText setting.1
  short : setting.1.length ≤ 64
  value : Printable setting.2

theorem PrintableSetting.fits {setting : CString × CString} (printable : PrintableSetting setting) :
    '\n' ∉ setting.1 ++ '=' :: setting.2 ∧ (setting.1 ++ '=' :: setting.2).length < lineCapacity := by
  refine ⟨printable.key.not_mem_joined (by decide) (by decide) printable.value.oneLine,?_⟩
  have shortKey := printable.short
  have shortValue := printable.value.short
  rw [List.length_append,List.length_cons,lineCapacity]
  omega

/-- A printed line is read as its setting. -/
theorem read_settingLine {setting : CString × CString} (printable : PrintableSetting setting) (s : LoadState) :
    s.read (settingLine setting) = { s with lineNumber := s.lineNumber + 1 }.applyKey setting.1 setting.2 := by
  obtain ⟨key,value⟩ := setting
  have fits := printable.fits
  obtain ⟨plainKey,_,plainValue⟩ := printable
  have text : lineText ((key ++ '=' :: value) ++ ['\n']) = key ++ '=' :: value := by
    rw [lineText_of_noNul (plainKey.not_mem_joined (by decide) (by decide) plainValue.noNul),
      trim_joined plainKey.nonempty plainValue.nonempty plainKey.trimmed plainValue.trimmed]
  rw [settingLine_eq,LoadState.read_line s fits.1 fits.2 [],LoadState.line_keyed s plainKey text,
    plainValue.trimmed,if_neg plainValue.nonempty]
  rfl

/-- Printed settings that are accepted one after the other are read without a diagnostic. -/
theorem read_accepted {settings : List (CString × CString)} {s : LoadState} {config : RuntimeConfig}
    (printable : ∀ setting ∈ settings, PrintableSetting setting) (accepts : AcceptsAll s.config settings config) :
    s.read (settingLines settings) = { s with config, lineNumber := s.lineNumber + settings.length } := by
  rw [LoadState.read_settingLines]
  induction settings generalizing s with
  | nil =>
    cases accepts
    rfl
  | cons setting later ih =>
    cases accepts with
    | cons first others =>
      rename_i next
      have applied : s.read (settingLine setting) = { s with config := next, lineNumber := s.lineNumber + 1 } := by
        rw [Accepts] at first
        rw [read_settingLine (printable setting List.mem_cons_self),LoadState.applyKey]
        dsimp only
        rw [first,Bool.or_false]
      have onward := @ih (s.read (settingLine setting))
        (fun other member => printable other (List.mem_cons_of_mem setting member)) (by rw [applied]; exact others)
      rw [List.foldl_cons,onward,applied,List.length_cons,Nat.add_assoc,Nat.add_comm 1]

/-- The settings of a table are printed under its keys. -/
theorem printable_of_keys {table : List Setting} {settings : List (CString × CString)}
    (plain : ∀ key ∈ table.map Setting.key, PlainText key ∧ key.length ≤ 64)
    (keys : settings.map Prod.fst = table.map Setting.key) (values : ∀ setting ∈ settings, Printable setting.2) :
    ∀ setting ∈ settings, PrintableSetting setting := by
  intro setting member
  have inTable : setting.1 ∈ table.map Setting.key := by
    rw [← keys]
    exact List.mem_map_of_mem member
  obtain ⟨plainKey,short⟩ := plain setting.1 inTable
  exact ⟨plainKey,short,values setting member⟩

theorem plain_runKeys : ∀ key ∈ runSettings.map Setting.key, PlainText key ∧ key.length ≤ 64 := by
  decide

theorem plain_scenarioKeys : ∀ key ∈ scenarioSettings.map Setting.key, PlainText key ∧ key.length ≤ 64 := by
  decide

theorem printable_word (value : UInt32) : Printable (decimal value.toNat) :=
  printable_decimal (Nat.lt_of_lt_of_le value.toNat_lt (by decide))

theorem printable_runValues {config : RuntimeConfig} (few : config.profiles.length ≤ maximumProfiles) :
    ∀ setting ∈ runValues config, PrintableSetting setting := by
  have count : config.profiles.length < 2 ^ 64 := Nat.lt_of_le_of_lt few (by decide)
  refine printable_of_keys plain_runKeys rfl ?_
  simp only [runValues,List.forall_mem_cons]
  exact ⟨printable_scenarioText _,printable_word _,printable_decimal (UInt64.toNat_lt _),
    printable_decimal count,List.forall_mem_nil _⟩

theorem printable_scenarioValues (config : RuntimeConfig) :
    ∀ setting ∈ scenarioValues config, PrintableSetting setting := by
  refine printable_of_keys plain_scenarioKeys rfl ?_
  simp only [scenarioValues,List.forall_mem_cons]
  exact ⟨printable_decimal (UInt64.toNat_lt _),printable_word _,printable_word _,printable_word _,
    printable_word _,printable_word _,printable_boolText _,printable_word _,printable_boolText _,
    printable_boolText _,printable_boolText _,printable_outcomeName _,printable_boolText _,nofun⟩

theorem printable_profileValues {index : Nat} (few : index < maximumProfiles) {profile : RuntimeProfile}
    (readable : Readable profile) : ∀ setting ∈ profileValues index profile, PrintableSetting setting := by
  have key {field : CString} (plain : PlainText field) (short : field.length ≤ 32) {value : CString}
      (printable : Printable value) : PrintableSetting (profileKey index field,value) :=
    ⟨plain_profileKey index plain,(length_profileKey few field).trans (by omega),printable⟩
  have tunnel := printable_of_isValidIpv4 readable.tunnel
  have bsd := printable_of_isValidIpv4 readable.bsd
  have port (value : UInt16) : Printable (decimal value.toNat) :=
    printable_decimal (Nat.lt_of_lt_of_le value.toNat_lt (by decide))
  rw [profileValues,cStr_of_printable readable.name,cStr_of_printable tunnel,cStr_of_printable bsd]
  simp only [List.forall_mem_cons]
  exact ⟨key (by decide) (by decide) readable.name,key (by decide) (by decide) tunnel,
    key (by decide) (by decide) bsd,key (by decide) (by decide) (port _),
    key (by decide) (by decide) (port _),List.forall_mem_nil _⟩

theorem printable_profileSettings {index : Nat} {profiles : List RuntimeProfile}
    (few : index + profiles.length ≤ maximumProfiles) (readable : ∀ profile ∈ profiles, Readable profile) :
    ∀ setting ∈ profileSettings index profiles, PrintableSetting setting := by
  induction profiles generalizing index with
  | nil => nofun
  | cons profile rest ih =>
    rw [List.length_cons] at few
    intro setting member
    rcases List.mem_append.mp member with here | later
    · exact printable_profileValues (by omega) (readable profile List.mem_cons_self) setting here
    · exact ih (by omega) (fun other inRest => readable other (List.mem_cons_of_mem profile inRest)) setting later

theorem printable_configSettings {config : RuntimeConfig} (few : config.profiles.length ≤ maximumProfiles)
    (readable : ∀ profile ∈ config.profiles, Readable profile) :
    ∀ setting ∈ configSettings config, PrintableSetting setting := by
  intro setting member
  rcases List.mem_append.mp member with run | others
  · exact printable_runValues few setting run
  · rcases List.mem_append.mp others with inProfiles | scenario
    · exact printable_profileSettings (by omega) readable setting inProfiles
    · exact printable_scenarioValues config setting scenario

theorem bind_ok {x : Except ε α} {f : α → Except ε β} {b : β} (runs : (x >>= f) = .ok b) :
    ∃ a, x = .ok a ∧ f a = .ok b := by
  cases x with
  | error e => cases runs
  | ok a => exact ⟨a,rfl,runs⟩

theorem check_ok {passed : Bool} {message : CString} (accepted : check passed message = .ok ()) : passed = true := by
  cases passed with
  | false => cases accepted
  | true => rfl

theorem forM_ok {f : α → Except ε PUnit} {l : List α} (runs : l.forM f = .ok ()) : ∀ a ∈ l, f a = .ok () := by
  induction l with
  | nil => nofun
  | cons a rest ih =>
    obtain ⟨⟨⟩,first,later⟩ := @bind_ok _ _ _ (f a) _ _ runs
    exact List.forall_mem_cons.mpr ⟨first,ih later⟩

theorem profiles_of_valid {limits : TunnelLimits} {config : RuntimeConfig}
    (valid : validateRuntimeConfig limits config = .ok ()) :
    config.profiles ≠ [] ∧ config.profiles.length ≤ maximumProfiles ∧
      ∀ profile ∈ config.profiles, validateProfile profile = .ok () := by
  obtain ⟨⟨⟩,sizes,later⟩ := bind_ok valid
  obtain ⟨⟨⟩,profiles,_⟩ := bind_ok later
  have bounds := check_ok sizes
  simp only [Bool.and_eq_true,bne_iff_ne,ne_eq,decide_eq_true_eq] at bounds
  exact ⟨fun empty => bounds.1.1 (by rw [empty]; rfl),bounds.1.2,forM_ok profiles⟩

theorem name_of_valid {profile : RuntimeProfile} (valid : validateProfile profile = .ok ()) :
    profile.name ≠ [] ∧ profile.name.length ≤ maximumProfileNameLength := by
  obtain ⟨⟨⟩,name,_⟩ := bind_ok valid
  have bounds := check_ok name
  simp only [Bool.and_eq_true,bne_iff_ne,ne_eq,decide_eq_true_eq] at bounds
  exact ⟨fun empty => bounds.1 (by rw [empty]; rfl),bounds.2⟩

theorem readable_of_valid {profile : RuntimeProfile} (valid : validateProfile profile = .ok ())
    (good : GoodName profile.name) : Readable profile := by
  obtain ⟨nonempty,short⟩ := name_of_valid valid
  obtain ⟨⟨⟩,_,others⟩ := bind_ok valid
  obtain ⟨⟨⟩,addresses,ports⟩ := bind_ok others
  obtain ⟨⟨⟩,udpPort,tcpPort⟩ := bind_ok ports
  have destinations := check_ok addresses
  rw [Bool.and_eq_true] at destinations
  exact ⟨⟨nonempty,good.oneLine,good.noNul,good.trimmed,short⟩,destinations.1,destinations.2,
    bne_iff_ne.mp (check_ok udpPort),bne_iff_ne.mp (check_ok tcpPort)⟩

theorem profilePrints_flatten (index : Nat) (profiles : List RuntimeProfile) :
    (profilePrints index profiles).flatten = settingLines (profileSettings index profiles) := by
  induction profiles generalizing index with
  | nil => rfl
  | cons profile rest ih =>
    rw [profilePrints,List.flatten_cons,ih,profileSettings,settingLines,settingLines,settingLines,
      List.flatMap_append]

/-- The text of a configuration is the header and its settings, a line each. -/
theorem configPrints_flatten (config : RuntimeConfig) :
    (configPrints config).flatten = headerLine ++ settingLines (configSettings config) := by
  rw [configPrints,List.flatten_cons,List.flatten_append,profilePrints_flatten,List.flatten_singleton,
    configSettings,settingLines,settingLines,settingLines,settingLines,List.flatMap_append,List.flatMap_append,
    List.append_assoc]

def header : CString := "# NX Reversing Toolbox runtime configuration".toList

theorem headerLine_eq : headerLine = header ++ ['\n'] := by decide

/-- The header is a comment. -/
theorem read_header (s : LoadState) (rest : CString) :
    s.read (headerLine ++ rest) = { s with lineNumber := s.lineNumber + 1 }.read rest := by
  have whole : '\n' ∉ header := by decide
  have fits : header.length < lineCapacity := by decide
  have comment : (trim ((header ++ ['\n']).takeWhile (· != nul))).head? = some '#' := by decide
  have skipped : s.line (header ++ ['\n']) = { s with lineNumber := s.lineNumber + 1 } := by
    rw [LoadState.line]
    dsimp only
    rw [if_pos (.inr comment)]
  have text : headerLine ++ rest = header ++ '\n' :: rest := by
    rw [headerLine_eq,List.append_assoc]
    rfl
  rw [text,LoadState.read_line s whole fits,skipped]

section Load

variable {limits : TunnelLimits} {strerror : Nat → CString} {defaults config : RuntimeConfig}

/-- Good names are loaded as they were saved, and so is everything else. -/
theorem load_of_goodNames (filled : defaults.profiles ≠ []) (valid : validateRuntimeConfig limits config = .ok ())
    (good : ∀ profile ∈ config.profiles, GoodName profile.name) :
    loadRuntimeConfig limits strerror defaults (.ok (configPrints config).flatten) = ⟨config,true,[]⟩ := by
  obtain ⟨nonempty,few,profiles⟩ := profiles_of_valid valid
  have readable : ∀ profile ∈ config.profiles, Readable profile := fun profile member =>
    readable_of_valid (profiles profile member) (good profile member)
  have final : LoadState.read ⟨defaults,false,0,[]⟩ (configPrints config).flatten =
      ⟨config,false,1 + (configSettings config).length,[]⟩ := by
    rw [configPrints_flatten,read_header]
    exact read_accepted (printable_configSettings few readable)
      (acceptsAll_configSettings filled nonempty few readable)
  rw [LoadState.read] at final
  unfold loadRuntimeConfig
  dsimp only
  rw [final]
  dsimp only
  rw [valid]
  rfl

/-- A report without diagnostics is what the lines made of the defaults. -/
theorem read_of_load {text : CString} (loaded : loadRuntimeConfig limits strerror defaults (.ok text) = ⟨config,true,[]⟩) :
    (LoadState.read ⟨defaults,false,0,[]⟩ text).config = config ∧
      (LoadState.read ⟨defaults,false,0,[]⟩ text).diagnostics = [] := by
  unfold loadRuntimeConfig at loaded
  dsimp only at loaded
  rw [← LoadState.read] at loaded
  generalize LoadState.read ⟨defaults,false,0,[]⟩ text = s at loaded ⊢
  split at loaded
  · obtain ⟨same,_,diagnostics⟩ := ConfigLoadReport.mk.inj loaded
    refine ⟨same,?_⟩
    split at diagnostics
    · exact absurd diagnostics (List.append_ne_nil_of_right_ne_nil _ (List.cons_ne_nil _ _))
    · exact diagnostics
  · obtain ⟨_,_,diagnostics⟩ := ConfigLoadReport.mk.inj loaded
    exact absurd diagnostics (List.append_ne_nil_of_right_ne_nil _ (List.cons_ne_nil _ _))

/-- Only good names are loaded as they were saved. -/
theorem goodNames_of_load (valid : validateRuntimeConfig limits config = .ok ())
    (loaded : loadRuntimeConfig limits strerror defaults (.ok (configPrints config).flatten) = ⟨config,true,[]⟩) :
    ∀ profile ∈ config.profiles, GoodName profile.name := by
  obtain ⟨_,few,profiles⟩ := profiles_of_valid valid
  have named : Named config.profiles.length
      (LoadState.read ⟨defaults,false,0,[]⟩ (configPrints config).flatten) := by
    have start (s : LoadState) : Named 0 s := fun _ i below => absurd below (Nat.not_lt_zero i)
    have written (s : LoadState) :
        Named config.profiles.length (s.read (settingLines (profileSettings 0 config.profiles))) := by
      have names := named_profileSettings (by omega)
        (fun profile member => (name_of_valid (profiles profile member)).2) (start s)
      rw [Nat.zero_add] at names
      exact names
    rw [configPrints_flatten,read_header,LoadState.read_settingLines,configSettings,List.foldl_append,
      List.foldl_append,← LoadState.read_settingLines,← LoadState.read_settingLines,← LoadState.read_settingLines]
    exact (written _).read _
  obtain ⟨same,clean⟩ := read_of_load loaded
  intro profile member
  obtain ⟨i,inside,rfl⟩ := List.mem_iff_getElem.mp member
  have good := named clean i inside
  rw [same] at good
  exact good _ (List.getElem?_eq_getElem inside)

/-- A configuration that was saved whole is loaded as it was exactly if each of its profile names
is one that a line can give. -/
theorem saveLoad_roundTrip_iff {w : FileWorld} (defaultsValid : validateRuntimeConfig limits defaults = .ok ())
    (stored : w.lost = []) (saved : (saveRuntimeConfig limits strerror config w).1 = .ok ()) :
    loadRuntimeConfig limits strerror defaults (saveRuntimeConfig limits strerror config w).2.files.openPath =
        ⟨config,true,[]⟩ ↔
      ∀ profile ∈ config.profiles, GoodName profile.name := by
  obtain ⟨valid,written⟩ := saveRuntimeConfig_written limits strerror (by simp [stored]) saved
  rw [ConfigFiles.openPath,written]
  exact ⟨goodNames_of_load valid,load_of_goodNames (profiles_of_valid defaultsValid).1 valid⟩

end Load

def oneProfile (name : CString) : RuntimeConfig where
  scenario := .directTunnelUdp
  nextWorkloadId := 100
  activeProfile := 0
  profiles := [⟨name,"10.1.0.2".toList,"192.168.1.2".toList,29000,28080⟩]
  udp := ⟨48,1,0,1,5000,0,false⟩
  tcp := ⟨5000⟩
  tunnelContract := ⟨false,false⟩
  bsdSystemUdp := ⟨false,.echoReply,false⟩

def emptyDirectory : FileWorld := ⟨⟨none,none,none⟩,[],[],[]⟩

theorem saveLoad_roundTrip_tunnel :
    loadRuntimeConfig ⟨1200,8⟩ (fun _ => []) (oneProfile "Default".toList)
        (saveRuntimeConfig ⟨1200,8⟩ (fun _ => []) (oneProfile "Tunnel".toList) emptyDirectory).2.files.openPath =
      ⟨oneProfile "Tunnel".toList,true,[]⟩ :=
  (saveLoad_roundTrip_iff (by decide) rfl (by decide)).mpr (by decide)

/-- The blank before the name is lost. -/
theorem roundTrip_loses_blank :
    ¬∀ (limits : TunnelLimits) (strerror : Nat → CString) (defaults config : RuntimeConfig) (w : FileWorld),
      validateRuntimeConfig limits defaults = .ok () → validateRuntimeConfig limits config = .ok () →
      w.lost = [] → (saveRuntimeConfig limits strerror config w).1 = .ok () →
      loadRuntimeConfig limits strerror defaults (saveRuntimeConfig limits strerror config w).2.files.openPath =
        ⟨config,true,[]⟩ := by
  intro exact'
  have saved : (saveRuntimeConfig ⟨1200,8⟩ (fun _ => []) (oneProfile " Tunnel".toList) emptyDirectory).1 = .ok () := by
    decide
  obtain ⟨valid,written⟩ := saveRuntimeConfig_written _ _ (by simp [emptyDirectory]) saved
  have loaded := exact' ⟨1200,8⟩ (fun _ => []) (oneProfile "Default".toList) (oneProfile " Tunnel".toList)
    emptyDirectory (by decide) valid rfl saved
  rw [ConfigFiles.openPath,written] at loaded
  have good := goodNames_of_load valid loaded ⟨" Tunnel".toList,_,_,_,_⟩ List.mem_cons_self
  revert good
  decide

end NxReverse.Toolbox
