import NxReverse.Lib.SlotTable
import NxReverse.Toolbox.ConfigFile

/-! What is printed for a setting is read back as that setting: values parse, keys lead to
their own row, and the profile keys lead to their own profile. -/
namespace NxReverse.Toolbox

open Text

def specials : List Char := [' ','\t','\r','\n',nul,'=','#']

structure PlainText (text : CString) : Prop where
  nonempty : text ≠ []
  plain : ∀ c ∈ text, c ∉ specials

/-- A value that a line carries whole. -/
structure Printable (value : CString) : Prop where
  nonempty : value ≠ []
  oneLine : '\n' ∉ value
  noNul : nul ∉ value
  trimmed : trim value = value
  short : value.length ≤ 32

theorem not_blank_of_plain {c : Char} (plain : c ∉ specials) : isBlank c = false := by
  have apart : c ≠ ' ' ∧ c ≠ '\t' ∧ c ≠ '\r' ∧ c ≠ '\n' := by
    refine ⟨?_,?_,?_,?_⟩ <;> rintro rfl <;> exact plain (by decide)
  simp [isBlank,apart]

theorem PlainText.trimmed {text : CString} (plain : PlainText text) : trim text = text :=
  trim_of_ends (fun c first => not_blank_of_plain (plain.plain c (List.mem_of_head? first)))
    (fun c last => not_blank_of_plain (plain.plain c (List.mem_of_getLast? last)))

theorem PlainText.printable {text : CString} (plain : PlainText text) (short : text.length ≤ 32) :
    Printable text where
  nonempty := plain.nonempty
  oneLine member := plain.plain _ member (by decide)
  noNul member := plain.plain _ member (by decide)
  trimmed := plain.trimmed
  short := short

/-- A special character that is not in what follows the key is not on the line. -/
theorem PlainText.not_mem_joined {key rest : CString} (plain : PlainText key) {c : Char} (special : c ∈ specials)
    (apart : c ≠ '=') (missing : c ∉ rest) : c ∉ key ++ '=' :: rest := by
  rw [List.mem_append,List.mem_cons]
  rintro (inKey | equals | inRest)
  · exact plain.plain c inKey special
  · exact apart equals
  · exact missing inRest

theorem plainText_iff {text : CString} : text ≠ [] ∧ text.all (fun c => c ∉ specials) = true ↔ PlainText text := by
  simp only [List.all_eq_true,decide_eq_true_eq]
  exact ⟨fun ⟨nonempty,plain⟩ => ⟨nonempty,plain⟩,fun ⟨nonempty,plain⟩ => ⟨nonempty,plain⟩⟩

instance (text : CString) : Decidable (PlainText text) := decidable_of_iff _ plainText_iff

theorem plain_of_isDigit {c : Char} (digit : c.isDigit = true) : c ∉ specials := by
  intro special
  have none : specials.all (fun d => !d.isDigit) = true := by decide
  have other := List.all_eq_true.mp none c special
  rw [digit] at other
  cases other

theorem plain_decimal (value : Nat) : PlainText (decimal value) :=
  ⟨decimal_ne_nil value,fun _ member => plain_of_isDigit (isDigit_of_mem_decimal member)⟩

theorem printable_decimal {value : Nat} (small : value < 2 ^ 64) : Printable (decimal value) :=
  (plain_decimal value).printable
    (length_decimal_le (by decide) (Nat.lt_of_lt_of_le small (by decide)))

theorem printable_boolText (value : Bool) : Printable (boolText value) := by
  cases value <;> exact PlainText.printable (by decide) (by decide)

theorem printable_scenarioText (scenario : RuntimeScenario) : Printable (scenarioText scenario) := by
  cases scenario <;> exact PlainText.printable (by decide) (by decide)

theorem printable_outcomeName (outcome : BsdSystemUdpExpectedOutcome) :
    Printable (bsdSystemUdpExpectedOutcomeName outcome) := by
  cases outcome <;> exact PlainText.printable (by decide) (by decide)

theorem parseUInt16_decimal (value : UInt16) : parseUInt16 (decimal value.toNat) = some value := by
  rw [parseUInt16,readUnsigned_decimal (Nat.le_sub_one_of_lt value.toNat_lt)]
  simp

theorem parseUInt32_decimal (value : UInt32) : parseUInt32 (decimal value.toNat) = some value := by
  rw [parseUInt32,readUnsigned_decimal (Nat.le_sub_one_of_lt value.toNat_lt)]
  simp

theorem parseUInt64_decimal (value : UInt64) : parseUInt64 (decimal value.toNat) = some value := by
  rw [parseUInt64,readUnsigned_decimal (Nat.le_sub_one_of_lt value.toNat_lt)]
  simp

theorem parseBool_boolText (value : Bool) : parseBool (boolText value) = some value := by
  cases value <;> decide

theorem parseRuntimeScenario_scenarioText (scenario : RuntimeScenario) :
    parseRuntimeScenario (scenarioText scenario) = some scenario := by
  cases scenario <;> decide

theorem parseBsdSystemUdpExpectedOutcome_name (outcome : BsdSystemUdpExpectedOutcome) :
    parseBsdSystemUdpExpectedOutcome (bsdSystemUdpExpectedOutcomeName outcome) = some outcome := by
  cases outcome <;> decide

theorem digits_of_isOctet {text : CString} (octet : isOctet text = true) :
    text ≠ [] ∧ text.length ≤ 3 ∧ ∀ c ∈ text, c.isDigit = true := by
  simp only [isOctet,Bool.and_eq_true,bne_iff_ne,ne_eq,decide_eq_true_eq] at octet
  obtain ⟨⟨nonempty,short⟩,parsed⟩ := octet
  refine ⟨fun empty => nonempty (by rw [empty]; rfl),short,?_⟩
  unfold parseUInt32 readUnsigned at parsed
  split at parsed
  next digits => exact List.all_eq_true.mp digits.2.1
  next => cases parsed

/-- An address is made of digits and dots. -/
theorem digits_of_isIpv4From {components : Nat} {text : CString} (valid : isIpv4From components text = true) :
    text ≠ [] ∧ text.length + 1 ≤ 4 * components ∧ ∀ c ∈ text, c.isDigit = true ∨ c = '.' := by
  induction components generalizing text with
  | zero => cases valid
  | succ components ih =>
    cases components with
    | zero =>
      change ((find ".".toList text).isNone && isOctet text) = true at valid
      rw [Bool.and_eq_true] at valid
      obtain ⟨nonempty,short,digits⟩ := digits_of_isOctet valid.2
      exact ⟨nonempty,by omega,fun c member => .inl (digits c member)⟩
    | succ components =>
      rw [isIpv4From.eq_3 text (components + 1) (Nat.succ_ne_zero components)] at valid
      cases found : find ".".toList text with
      | none =>
        rw [found] at valid
        cases valid
      | some separator =>
        rw [found] at valid
        simp only [Bool.and_eq_true] at valid
        obtain ⟨nonempty,short,digits⟩ := digits_of_isOctet valid.1
        obtain ⟨_,shortRest,digitsRest⟩ := ih valid.2
        have split : text = text.take separator ++ '.' :: text.drop (separator + 1) := split_of_find found
        refine ⟨?_,?_,?_⟩
        · rintro rfl
          simp at split
        · rw [split,List.length_append,List.length_cons]
          omega
        · intro c member
          rw [split] at member
          rcases List.mem_append.mp member with front | rest
          · exact .inl (digits c front)
          · rcases List.mem_cons.mp rest with rfl | rest
            · exact .inr rfl
            · exact digitsRest c rest

theorem printable_of_isValidIpv4 {text : CString} (valid : isValidIpv4 text = true) : Printable text := by
  obtain ⟨nonempty,short,characters⟩ := digits_of_isIpv4From valid
  refine PlainText.printable ⟨nonempty,fun c member => ?_⟩ (by omega)
  rcases characters c member with digit | rfl
  · exact plain_of_isDigit digit
  · decide

/-- The setting is accepted, and not as a legacy one. -/
def Accepts (config : RuntimeConfig) (setting : CString × CString) (next : RuntimeConfig) : Prop :=
  applySetting config setting.1 setting.2 = ⟨next,false,none⟩

/-- Settings that are accepted one after the other. -/
inductive AcceptsAll : RuntimeConfig → List (CString × CString) → RuntimeConfig → Prop
  | nil : AcceptsAll config [] config
  | cons : Accepts config setting next → AcceptsAll next rest last → AcceptsAll config (setting :: rest) last

theorem AcceptsAll.append {config next last : RuntimeConfig} {first second : List (CString × CString)}
    (run : AcceptsAll config first next) (more : AcceptsAll next second last) :
    AcceptsAll config (first ++ second) last := by
  induction run with
  | nil => exact more
  | cons accepts _ ih => exact .cons accepts (ih more)

theorem store_some {config : RuntimeConfig} {parsed : Option α} {value : α} {put : α → RuntimeConfig}
    (found : parsed = some value) : store config parsed put = (put value,true) := by
  rw [found]
  rfl

section Tables

variable {config next : RuntimeConfig} {setting : Setting} {value : CString}

theorem applyFrom_row {table : List Setting} (unique : (table.map Setting.key).Nodup) (member : setting ∈ table) :
    applyFrom table config setting.key value = some (setting.apply config value) := by
  rw [applyFrom,Slots.find?_of_nodup_keys unique member]
  rfl

theorem applyFrom_missing {table : List Setting} {key : CString}
    (missing : (table.map Setting.key).all (· != key) = true) : applyFrom table config key value = none := by
  have absent : (table.find? fun setting => setting.key == key) = none := by
    apply List.find?_eq_none.mpr
    intro setting member
    have other := List.all_eq_true.mp missing setting.key (List.mem_map_of_mem member)
    simpa using other
  rw [applyFrom,absent]
  rfl

theorem run_keys_nodup : (runSettings.map Setting.key).Nodup := by decide

theorem scenario_keys_nodup : (scenarioSettings.map Setting.key).Nodup := by decide

/-- A row of the run settings answers to its key. -/
theorem accepts_run (i : Nat) (row : runSettings[i]? = some setting)
    (stored : setting.apply config value = (next,true)) : Accepts config (setting.key,value) next := by
  rw [Accepts,applySetting,applyFrom_row run_keys_nodup (List.mem_of_getElem? row),stored]
  rfl

/-- No key of the scenario settings is taken by a run setting or a profile. -/
theorem scenario_keys : ((scenarioSettings.map Setting.key).all fun key =>
    (runSettings.map Setting.key).all (· != key) && (parseProfileKey key).isNone) = true := by
  decide

theorem accepts_scenario (i : Nat) (row : scenarioSettings[i]? = some setting)
    (stored : setting.apply config value = (next,true)) : Accepts config (setting.key,value) next := by
  have member := List.mem_of_getElem? row
  have free := List.all_eq_true.mp scenario_keys setting.key (List.mem_map_of_mem member)
  rw [Bool.and_eq_true,Option.isNone_iff_eq_none] at free
  rw [Accepts,applySetting,applyFrom_missing free.1,free.2,applyFrom_row scenario_keys_nodup member,stored]
  rfl

end Tables

theorem plain_append {first second : CString} (plain : PlainText first) (more : ∀ c ∈ second, c ∉ specials) :
    PlainText (first ++ second) where
  nonempty empty := plain.nonempty (List.append_eq_nil_iff.mp empty).1
  plain c member := (List.mem_append.mp member).elim (plain.plain c) (more c)

theorem plain_profileKey (index : Nat) {field : CString} (plain : PlainText field) :
    PlainText (profileKey index field) := by
  have start : PlainText "profile.".toList := by decide
  refine plain_append (plain_append start (plain_decimal index).plain) ?_
  intro c member
  rcases List.mem_cons.mp member with rfl | inField
  · decide
  · exact plain.plain c inField

theorem length_profileKey {index : Nat} (few : index < maximumProfiles) (field : CString) :
    (profileKey index field).length ≤ 10 + field.length := by
  have digits : (decimal index).length ≤ 1 := length_decimal_le (by decide) (by rw [maximumProfiles] at few; omega)
  have eight : "profile.".toList.length = 8 := by decide
  unfold profileKey
  generalize "profile.".toList = start at eight
  rw [List.length_append,List.length_append,List.length_cons]
  omega

theorem parseProfileKey_profileKey (index : UInt64) (field : CString) :
    parseProfileKey (profileKey index.toNat field) = some (index,field) := by
  have noDot : '.' ∉ decimal index.toNat := fun member =>
    absurd (isDigit_of_mem_decimal member) (by decide)
  have dot : ".".toList = ['.'] := rfl
  unfold parseProfileKey profileKey
  generalize "profile.".toList = start
  have starts : start.isPrefixOf (start ++ (decimal index.toNat ++ '.' :: field)) = true :=
    List.isPrefixOf_iff_prefix.mpr (List.prefix_append _ _)
  have rest : (decimal index.toNat ++ '.' :: field).drop ((decimal index.toNat).length + 1) = field := by
    rw [← List.drop_drop,List.drop_left]
    rfl
  simp only [starts,if_true,List.append_assoc,List.drop_left,dot,find_char noDot,List.take_left,rest,
    parseUInt64_decimal]

theorem run_keys_apart :
    ((runSettings.map Setting.key).all fun key => !"profile.".toList.isPrefixOf key) = true := by
  decide

theorem run_keys (index : Nat) (field : CString) :
    (runSettings.map Setting.key).all (· != profileKey index field) = true := by
  have apart := List.all_eq_true.mp run_keys_apart
  apply List.all_eq_true.mpr
  intro key member
  apply bne_iff_ne.mpr
  intro same
  have other := apart key member
  unfold profileKey at same
  generalize "profile.".toList = start at same other
  rw [same,List.append_assoc,List.isPrefixOf_iff_prefix.mpr (List.prefix_append _ _)] at other
  cases other

section Profiles

variable {config : RuntimeConfig} {profile stored : RuntimeProfile}

def withProfile (config : RuntimeConfig) (index : Nat) (profile : RuntimeProfile) : RuntimeConfig :=
  { config with profiles := config.profiles.set index profile }

theorem withProfile_same {index : Nat} (held : config.profiles[index]? = some profile) :
    withProfile config index profile = config := by
  obtain ⟨inside,same⟩ := List.getElem?_eq_some_iff.mp held
  rw [withProfile,← same,List.set_getElem_self]

/-- A field of a profile that is already there. -/
theorem accepts_field {index : UInt64} (inside : index.toNat < config.profiles.length) {field value : CString}
    (fieldStored : applyProfileField profile field value = some (stored,true)) :
    Accepts (withProfile config index.toNat profile) (profileKey index.toNat field,value)
      (withProfile config index.toNat stored) := by
  have held : (withProfile config index.toNat profile).profiles[index.toNat]? = some profile :=
    List.getElem?_set_self inside
  rw [Accepts,applySetting,applyFrom_missing (run_keys _ _),parseProfileKey_profileKey]
  simp only [applyProfileSetting,held,fieldStored,Applied.of,if_true]
  simp only [withProfile,List.set_set]

end Profiles

def resized (profiles : List RuntimeProfile) (front : RuntimeProfile) (count : Nat) : List RuntimeProfile :=
  profiles.take count ++ List.replicate (count - profiles.length) front

theorem length_resized (profiles : List RuntimeProfile) (front : RuntimeProfile) (count : Nat) :
    (resized profiles front count).length = count := by
  simp only [resized,List.length_append,List.length_take,List.length_replicate]
  omega

theorem resizeProfiles_resized {config : RuntimeConfig} {front : RuntimeProfile} {rest : List RuntimeProfile}
    (held : config.profiles = front :: rest) {count : UInt64} (positive : count ≠ 0)
    (few : count.toNat ≤ maximumProfiles) :
    resizeProfiles config count =
      ({ config with profiles := resized config.profiles front count.toNat },true) := by
  have inRange : ¬(count = 0 ∨ count.toNat > maximumProfiles) := by
    rintro (zero | many)
    · exact positive zero
    · omega
  rw [resizeProfiles,if_neg inRange,held]
  rfl

theorem acceptsAll_runValues {config saved : RuntimeConfig} {front : RuntimeProfile} {rest : List RuntimeProfile}
    (held : config.profiles = front :: rest) (nonempty : saved.profiles ≠ [])
    (few : saved.profiles.length ≤ maximumProfiles) :
    AcceptsAll config (runValues saved) { config with
      scenario := saved.scenario
      nextWorkloadId := saved.nextWorkloadId
      activeProfile := saved.activeProfile
      profiles := resized config.profiles front saved.profiles.length } := by
  obtain ⟨count,size⟩ : ∃ count : UInt64, count.toNat = saved.profiles.length :=
    ⟨_,UInt64.toNat_ofNat_of_lt (Nat.lt_of_le_of_lt few (by decide))⟩
  have positive : count ≠ 0 := by
    rintro rfl
    exact nonempty (List.length_eq_zero_iff.mp size.symm)
  rw [← size] at few ⊢
  rw [runValues,← size]
  refine .cons (accepts_run 0 rfl (store_some (parseRuntimeScenario_scenarioText _))) ?_
  refine .cons (accepts_run 1 rfl (store_some (parseUInt32_decimal _))) ?_
  refine .cons (accepts_run 2 rfl (store_some (parseUInt64_decimal _))) ?_
  have resizes (c : RuntimeConfig) {setting : Setting} (row : runSettings[3]? = some setting) :
      setting.apply c (decimal count.toNat) = resizeProfiles c count := by
    cases row
    dsimp only
    rw [parseUInt64_decimal]
  refine .cons (accepts_run 3 rfl ((resizes _ rfl).trans ?_)) .nil
  exact @resizeProfiles_resized { config with
    scenario := saved.scenario
    nextWorkloadId := saved.nextWorkloadId
    activeProfile := saved.activeProfile } front rest held count positive few

/-- What the validator promises of a profile that is read back. -/
structure Readable (profile : RuntimeProfile) : Prop where
  name : Printable profile.name
  tunnel : isValidIpv4 profile.tunnelDestinationIpv4 = true
  bsd : isValidIpv4 profile.bsdDestinationIpv4 = true
  udpPort : profile.udpDestinationPort ≠ 0
  tcpPort : profile.tcpDestinationPort ≠ 0

theorem cStr_of_printable {value : CString} (printable : Printable value) : cStr value = value := by
  apply List.takeWhile_eq_self_iff.mpr
  intro c member
  apply bne_iff_ne.mpr
  rintro rfl
  exact printable.noNul member

theorem storePort_decimal {port : UInt16} (nonzero : port ≠ 0) {profile : RuntimeProfile}
    (put : UInt16 → RuntimeProfile) : storePort (parseUInt16 (decimal port.toNat)) profile put = (put port,true) := by
  rw [parseUInt16_decimal,storePort,bne_iff_ne.mpr nonzero]

theorem acceptsAll_profileValues {config : RuntimeConfig} {index : UInt64} {profile : RuntimeProfile}
    (inside : index.toNat < config.profiles.length) (readable : Readable profile) :
    AcceptsAll config (profileValues index.toNat profile) (withProfile config index.toNat profile) := by
  obtain ⟨old,held⟩ : ∃ old, config.profiles[index.toNat]? = some old :=
    ⟨_,List.getElem?_eq_getElem inside⟩
  rw [profileValues,cStr_of_printable readable.name,
    cStr_of_printable (printable_of_isValidIpv4 readable.tunnel),
    cStr_of_printable (printable_of_isValidIpv4 readable.bsd)]
  conv in AcceptsAll config => rw [← withProfile_same held]
  have short : ¬profile.name.length > maximumProfileNameLength := Nat.not_lt.mpr readable.name.short
  have name : applyProfileField old "name".toList profile.name = some ({ old with name := profile.name },true) := by
    rw [applyProfileField,if_pos rfl,if_neg short]
  have tunnel (old : RuntimeProfile) : applyProfileField old "tunnel_destination_ipv4".toList
      profile.tunnelDestinationIpv4 =
        some ({ old with tunnelDestinationIpv4 := profile.tunnelDestinationIpv4 },true) := by
    rw [applyProfileField,if_neg (by decide),if_pos rfl,if_pos readable.tunnel]
  have bsd (old : RuntimeProfile) : applyProfileField old "bsd_destination_ipv4".toList
      profile.bsdDestinationIpv4 =
        some ({ old with bsdDestinationIpv4 := profile.bsdDestinationIpv4 },true) := by
    rw [applyProfileField,if_neg (by decide),if_neg (by decide),if_pos rfl,if_pos readable.bsd]
  have udpPort (old : RuntimeProfile) : applyProfileField old "udp_destination_port".toList
      (decimal profile.udpDestinationPort.toNat) =
        some ({ old with udpDestinationPort := profile.udpDestinationPort },true) := by
    rw [applyProfileField,if_neg (by decide),if_neg (by decide),if_neg (by decide),if_pos rfl,
      storePort_decimal readable.udpPort]
  have tcpPort (old : RuntimeProfile) : applyProfileField old "tcp_destination_port".toList
      (decimal profile.tcpDestinationPort.toNat) =
        some ({ old with tcpDestinationPort := profile.tcpDestinationPort },true) := by
    rw [applyProfileField,if_neg (by decide),if_neg (by decide),if_neg (by decide),if_neg (by decide),
      if_pos rfl,storePort_decimal readable.tcpPort]
  exact .cons (accepts_field inside name) (.cons (accepts_field inside (tunnel _))
    (.cons (accepts_field inside (bsd _)) (.cons (accepts_field inside (udpPort _))
      (.cons (accepts_field inside (tcpPort _)) .nil))))

def profileSettings : Nat → List RuntimeProfile → List (CString × CString)
  | _,[] => []
  | index,profile :: rest => profileValues index profile ++ profileSettings (index + 1) rest

theorem acceptsAll_profileSettings {config : RuntimeConfig} {front old profiles : List RuntimeProfile}
    (held : config.profiles = front ++ old) (paired : old.length = profiles.length)
    (few : front.length + profiles.length ≤ maximumProfiles) (readable : ∀ profile ∈ profiles, Readable profile) :
    AcceptsAll config (profileSettings front.length profiles) { config with profiles := front ++ profiles } := by
  induction profiles generalizing config front old with
  | nil =>
    obtain rfl := List.length_eq_zero_iff.mp paired
    rw [← held]
    exact .nil
  | cons profile rest ih =>
    obtain ⟨first,others,rfl⟩ := List.exists_cons_of_length_eq_add_one paired
    rw [List.length_cons] at few
    obtain ⟨index,same⟩ : ∃ index : UInt64, index.toNat = front.length :=
      ⟨_,UInt64.toNat_ofNat_of_lt (Nat.lt_of_le_of_lt (Nat.le_trans (Nat.le_add_right _ _) few) (by decide))⟩
    have inside : index.toNat < config.profiles.length := by
      rw [held,same,List.length_append,List.length_cons]
      omega
    have written := acceptsAll_profileValues inside (readable profile List.mem_cons_self)
    have next : (withProfile config index.toNat profile).profiles = (front ++ [profile]) ++ others := by
      simp [withProfile,held,same]
    have later := ih next (Nat.succ.inj paired) (by simp only [List.length_append,List.length_singleton]; omega)
      fun other member => readable other (List.mem_cons_of_mem profile member)
    rw [List.length_append,List.length_singleton,List.append_assoc] at later
    rw [same] at written later
    exact written.append later

theorem acceptsAll_scenarioValues (config saved : RuntimeConfig) :
    AcceptsAll config (scenarioValues saved) { config with
      udp := saved.udp
      tcp := saved.tcp
      tunnelContract := saved.tunnelContract
      bsdSystemUdp := saved.bsdSystemUdp } := by
  refine .cons (accepts_scenario 0 rfl (store_some (parseUInt64_decimal _))) ?_
  refine .cons (accepts_scenario 1 rfl (store_some (parseUInt32_decimal _))) ?_
  refine .cons (accepts_scenario 2 rfl (store_some (parseUInt32_decimal _))) ?_
  refine .cons (accepts_scenario 3 rfl (store_some (parseUInt32_decimal _))) ?_
  refine .cons (accepts_scenario 4 rfl (store_some (parseUInt32_decimal _))) ?_
  refine .cons (accepts_scenario 5 rfl (store_some (parseUInt32_decimal _))) ?_
  refine .cons (accepts_scenario 6 rfl (store_some (parseBool_boolText _))) ?_
  refine .cons (accepts_scenario 7 rfl (store_some (parseUInt32_decimal _))) ?_
  refine .cons (accepts_scenario 8 rfl (store_some (parseBool_boolText _))) ?_
  refine .cons (accepts_scenario 9 rfl (store_some (parseBool_boolText _))) ?_
  refine .cons (accepts_scenario 10 rfl (store_some (parseBool_boolText _))) ?_
  refine .cons (accepts_scenario 11 rfl (store_some (parseBsdSystemUdpExpectedOutcome_name _))) ?_
  exact .cons (accepts_scenario 12 rfl (store_some (parseBool_boolText _))) .nil

/-- Everything that a save prints. -/
def configSettings (config : RuntimeConfig) : List (CString × CString) :=
  runValues config ++ (profileSettings 0 config.profiles ++ scenarioValues config)

/-- The settings of a configuration build it from any defaults that have a profile. -/
theorem acceptsAll_configSettings {defaults config : RuntimeConfig} (filled : defaults.profiles ≠ [])
    (nonempty : config.profiles ≠ []) (few : config.profiles.length ≤ maximumProfiles)
    (readable : ∀ profile ∈ config.profiles, Readable profile) :
    AcceptsAll defaults (configSettings config) config := by
  obtain ⟨front,rest,held⟩ := List.exists_cons_of_ne_nil filled
  refine (acceptsAll_runValues held nonempty few).append ?_
  refine (@acceptsAll_profileSettings _ [] _ config.profiles rfl (length_resized _ _ _) (by simpa using few)
    readable).append ?_
  exact acceptsAll_scenarioValues _ config

end NxReverse.Toolbox
