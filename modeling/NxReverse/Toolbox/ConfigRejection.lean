import NxReverse.Toolbox.ConfigRoundTrip

/-! What a rejected setting leaves behind. Every key stores its value only once it has been checked,
except for the ports, which are stored before they are compared with zero. -/
namespace NxReverse.Toolbox

open Text

def RuntimeProfile.port? (profile : RuntimeProfile) (field : CString) : Option UInt16 :=
  if field = "udp_destination_port".toList then some profile.udpDestinationPort
  else if field = "tcp_destination_port".toList then some profile.tcpDestinationPort
  else none

def legacyPortKey : CString := "tunnel_udp.destination_port".toList

def portOf (config : RuntimeConfig) (key : CString) : Option UInt16 :=
  match parseProfileKey key with
  | some (index,field) => config.profiles[index.toNat]?.bind fun profile => profile.port? field
  | none => if key = legacyPortKey then (activeRuntimeProfile config).map RuntimeProfile.udpDestinationPort else none

/-- A zero for a port that is not zero. -/
def ZeroesPort (config : RuntimeConfig) (key value : CString) : Prop :=
  parseUInt16 value = some 0 ∧ ∃ port, portOf config key = some port ∧ port ≠ 0

/-- A row that leaves the configuration alone where it rejects its value. -/
def Setting.Clean (setting : Setting) : Prop :=
  ∀ config value, (setting.apply config value).2 = false → (setting.apply config value).1 = config

section Rows

variable {config : RuntimeConfig} {profile : RuntimeProfile} {value : CString}

theorem store_rejected {parsed : Option α} {put : α → RuntimeConfig} (rejected : (store config parsed put).2 = false) :
    (store config parsed put).1 = config := by
  cases parsed with
  | none => rfl
  | some v => cases rejected

theorem resizeProfiles_rejected {count : UInt64} (rejected : (resizeProfiles config count).2 = false) :
    (resizeProfiles config count).1 = config := by
  unfold resizeProfiles at rejected ⊢
  split
  · rfl
  next allowed =>
    rw [if_neg allowed] at rejected
    split
    · rfl
    next held =>
      rw [held] at rejected
      cases rejected

theorem clean_runSettings : ∀ setting ∈ runSettings, setting.Clean := by
  simp only [runSettings,List.forall_mem_cons]
  refine ⟨fun _ _ => store_rejected,fun _ _ => store_rejected,fun _ _ => store_rejected,?_,List.forall_mem_nil _⟩
  intro config value
  dsimp only
  cases parseUInt64 value with
  | none => exact fun _ => rfl
  | some count => exact resizeProfiles_rejected

theorem clean_scenarioSettings : ∀ setting ∈ scenarioSettings, setting.Clean := by
  simp only [scenarioSettings,List.forall_mem_cons]
  refine ⟨?_,?_,?_,?_,?_,?_,?_,?_,?_,?_,?_,?_,?_,List.forall_mem_nil _⟩ <;> exact fun _ _ => store_rejected

theorem applyFrom_rejected {table : List Setting} {key : CString} {result : RuntimeConfig × Bool}
    (clean : ∀ setting ∈ table, setting.key = key → setting.Clean)
    (found : applyFrom table config key value = some result) (rejected : result.2 = false) : result.1 = config := by
  obtain ⟨setting,first,rfl⟩ := Option.map_eq_some_iff.mp found
  have keyed : setting.key = key := by simpa using List.find?_some first
  exact clean setting (List.mem_of_find?_eq_some first) keyed config value rejected

/-- Of the legacy rows only that of the port is not clean. -/
theorem clean_legacySettings (profile : RuntimeProfile) :
    ∀ setting ∈ legacySettings profile, setting.key ≠ legacyPortKey → setting.Clean := by
  simp only [legacySettings,List.forall_mem_cons]
  refine ⟨?_,?_,?_,?_,?_,?_,?_,?_,?_,?_,?_,?_,?_,?_,?_,?_,?_,?_,List.forall_mem_nil _⟩
  case refine_4 =>
    intro _ config value
    dsimp only
    split
    · exact fun accepted => Bool.noConfusion accepted
    · exact fun _ => rfl
  case refine_5 => exact fun other => absurd rfl other
  all_goals exact fun _ _ _ => store_rejected

theorem legacy_keys_nodup (profile : RuntimeProfile) : ((legacySettings profile).map Setting.key).Nodup := by
  have keys : (legacySettings profile).map Setting.key =
      (legacySettings ⟨[],[],[],0,0⟩).map Setting.key := rfl
  rw [keys]
  decide

theorem applyFrom_legacyPort (profile : RuntimeProfile) : applyFrom (legacySettings profile) config legacyPortKey value =
    let stored := storePort (parseUInt16 value) profile fun port => { profile with udpDestinationPort := port }
    some (putActive config stored.1,stored.2) :=
  applyFrom_row (legacy_keys_nodup profile) (List.mem_of_getElem? (i := 4) rfl)

/-- A port is rejected when it does not parse, and when it is zero, which is stored then. -/
theorem storePort_unchanged_iff {parsed : Option UInt16} {put : UInt16 → RuntimeProfile} {old : UInt16}
    (moved : put 0 = profile ↔ old = 0) :
    ((storePort parsed profile put).2 = false → (storePort parsed profile put).1 = profile) ↔
      ¬(parsed = some 0 ∧ old ≠ 0) := by
  cases parsed with
  | none => simp [storePort]
  | some port =>
    by_cases zero : port = 0
    · subst zero
      simpa [storePort] using moved
    · simp [storePort,zero]

theorem udpPort_moved : { profile with udpDestinationPort := 0 } = profile ↔ profile.udpDestinationPort = 0 :=
  ⟨fun same => (congrArg RuntimeProfile.udpDestinationPort same).symm,fun zero => by rw [← zero]⟩

theorem tcpPort_moved : { profile with tcpDestinationPort := 0 } = profile ↔ profile.tcpDestinationPort = 0 :=
  ⟨fun same => (congrArg RuntimeProfile.tcpDestinationPort same).symm,fun zero => by rw [← zero]⟩

theorem applyProfileField_unchanged_iff {field : CString} {stored : RuntimeProfile × Bool}
    (found : applyProfileField profile field value = some stored) : (stored.2 = false → stored.1 = profile) ↔
      ¬(parseUInt16 value = some 0 ∧ ∃ port, profile.port? field = some port ∧ port ≠ 0) := by
  unfold applyProfileField at found
  by_cases udp : field = "udp_destination_port".toList
  · subst udp
    rw [if_neg (by decide),if_neg (by decide),if_neg (by decide),if_pos rfl] at found
    obtain rfl := Option.some.inj found
    have own : profile.port? "udp_destination_port".toList = some profile.udpDestinationPort := if_pos rfl
    simp only [own,Option.some.injEq,exists_eq_left']
    exact storePort_unchanged_iff udpPort_moved
  · by_cases tcp : field = "tcp_destination_port".toList
    · subst tcp
      rw [if_neg (by decide),if_neg (by decide),if_neg (by decide),if_neg udp,if_pos rfl] at found
      obtain rfl := Option.some.inj found
      have own : profile.port? "tcp_destination_port".toList = some profile.tcpDestinationPort :=
        (if_neg udp).trans (if_pos rfl)
      simp only [own,Option.some.injEq,exists_eq_left']
      exact storePort_unchanged_iff tcpPort_moved
    · have noPort : profile.port? field = none := (if_neg udp).trans (if_neg tcp)
      have kept : stored.2 = false → stored.1 = profile := by
        rw [if_neg udp,if_neg tcp] at found
        split at found
        · obtain rfl := Option.some.inj found
          split
          · exact fun _ => rfl
          · exact fun accepted => Bool.noConfusion accepted
        · split at found
          · obtain rfl := Option.some.inj found
            split
            · exact fun accepted => Bool.noConfusion accepted
            · exact fun _ => rfl
          · split at found
            · obtain rfl := Option.some.inj found
              split
              · exact fun accepted => Bool.noConfusion accepted
              · exact fun _ => rfl
            · cases found
      simp only [noPort,reduceCtorEq,false_and,exists_false,and_false,not_false_eq_true,iff_true]
      exact kept

theorem noPort_of_noField {field : CString} (missing : applyProfileField profile field value = none) :
    profile.port? field = none := by
  unfold applyProfileField at missing
  have notUdp : field ≠ "udp_destination_port".toList := by
    rintro rfl
    rw [if_neg (by decide),if_neg (by decide),if_neg (by decide),if_pos rfl] at missing
    cases missing
  have notTcp : field ≠ "tcp_destination_port".toList := by
    rintro rfl
    rw [if_neg (by decide),if_neg (by decide),if_neg (by decide),if_neg (by decide),if_pos rfl] at missing
    cases missing
  exact (if_neg notUdp).trans (if_neg notTcp)

end Rows

section Settings

variable {config : RuntimeConfig} {key value : CString}

theorem of_error {result : RuntimeConfig × Bool} : (Applied.of key result).error ≠ none ↔ result.2 = false := by
  cases accepted : result.2 <;> simp [Applied.of,accepted]

theorem withProfile_iff {index : Nat} {profile stored : RuntimeProfile}
    (held : config.profiles[index]? = some profile) : withProfile config index stored = config ↔ stored = profile := by
  constructor
  · intro same
    have entry := congrArg (fun c : RuntimeConfig => c.profiles[index]?) same
    simp only [withProfile,List.getElem?_set_self (List.getElem?_eq_some_iff.mp held).1,held] at entry
    exact Option.some.inj entry
  · rintro rfl
    exact withProfile_same held

/-- A row whose key is neither a profile key nor the legacy one stores to no port. -/
theorem portOf_row {table : List Setting} {result : RuntimeConfig × Bool}
    (apart : (table.map Setting.key).all (fun key => (parseProfileKey key).isNone && key != legacyPortKey) = true)
    (found : applyFrom table config key value = some result) : portOf config key = none := by
  obtain ⟨setting,first,_⟩ := Option.map_eq_some_iff.mp found
  have keyed : setting.key = key := by simpa using List.find?_some first
  have others := List.all_eq_true.mp apart key
    (keyed ▸ List.mem_map_of_mem (List.mem_of_find?_eq_some first))
  rw [Bool.and_eq_true,Option.isNone_iff_eq_none,bne_iff_ne] at others
  rw [portOf,others.1]
  exact if_neg others.2

theorem unchanged_row {table : List Setting} {result : RuntimeConfig × Bool}
    (apart : (table.map Setting.key).all (fun key => (parseProfileKey key).isNone && key != legacyPortKey) = true)
    (clean : ∀ setting ∈ table, setting.Clean) (found : applyFrom table config key value = some result) :
    ((Applied.of key result).error ≠ none → (Applied.of key result).config = config) ↔
      ¬ZeroesPort config key value := by
  have noPort := portOf_row apart found
  rw [of_error]
  apply iff_of_true
  · exact applyFrom_rejected (fun setting member _ => clean setting member) found
  · rintro ⟨_,port,stored,_⟩
    rw [noPort] at stored
    cases stored

theorem unchanged_profile {index : UInt64} {field : CString} (parsed : parseProfileKey key = some (index,field)) :
    ((applyProfileSetting config key index.toNat field value).error ≠ none →
        (applyProfileSetting config key index.toNat field value).config = config) ↔
      ¬ZeroesPort config key value := by
  unfold applyProfileSetting ZeroesPort portOf
  rw [parsed]
  dsimp only
  cases held : config.profiles[index.toNat]? with
  | none => simp [Applied.of]
  | some profile =>
    dsimp only [Option.bind_some]
    cases found : applyProfileField profile field value with
    | none =>
      simp [noPort_of_noField found]
    | some stored =>
      rw [of_error,← applyProfileField_unchanged_iff found]
      exact imp_congr_right fun _ => withProfile_iff held

theorem unchanged_legacy (parsed : parseProfileKey key = none) :
    ((applyLegacySetting config key value).2 = false → (applyLegacySetting config key value).1 = config) ↔
      ¬ZeroesPort config key value := by
  unfold applyLegacySetting ZeroesPort portOf
  rw [parsed]
  dsimp only
  cases active : activeRuntimeProfile config with
  | none => simp
  | some profile =>
    dsimp only
    by_cases own : key = legacyPortKey
    · subst own
      rw [applyFrom_legacyPort,if_pos rfl]
      simp only [Option.getD_some,Option.map_some,Option.some.injEq,exists_eq_left']
      exact (imp_congr_right fun _ => withProfile_iff active).trans (storePort_unchanged_iff udpPort_moved)
    · rw [if_neg own]
      apply iff_of_true
      · cases found : applyFrom (legacySettings profile) config key value with
        | none => exact fun _ => rfl
        | some result =>
          apply applyFrom_rejected (fun setting member keyed => ?_) found
          exact clean_legacySettings profile setting member (keyed ▸ own)
      · simp

/-- A setting that is rejected leaves the configuration as it was exactly if it puts no zero into a
port that was not zero. -/
theorem applySetting_unchanged_iff :
    ((applySetting config key value).error ≠ none → (applySetting config key value).config = config) ↔
      ¬ZeroesPort config key value := by
  unfold applySetting
  cases run : applyFrom runSettings config key value with
  | some result => exact unchanged_row (by decide) clean_runSettings run
  | none =>
    dsimp only
    cases parsed : parseProfileKey key with
    | some indexed => exact unchanged_profile parsed
    | none =>
      dsimp only
      cases scenario : applyFrom scenarioSettings config key value with
      | some result => exact unchanged_row (by decide) clean_scenarioSettings scenario
      | none =>
        dsimp only
        rw [← unchanged_legacy parsed]
        cases accepted : (applyLegacySetting config key value).2 <;> simp

end Settings

def settingOf (line : CString) : Option (CString × CString) :=
  let trimmed := lineText line
  if trimmed = [] ∨ trimmed.head? = some '#' then none
  else
    match find "=".toList trimmed with
    | none => none
    | some separator =>
      let key := trim (trimmed.take separator)
      let value := trim (trimmed.drop (separator + 1))
      if key = [] ∨ value = [] then none else some (key,value)

/-- A line changes the configuration by its setting alone. -/
theorem line_config (s : LoadState) (line : CString) : (s.line line).config =
    match settingOf line with
    | none => s.config
    | some setting => (applySetting s.config setting.1 setting.2).config := by
  unfold LoadState.line settingOf lineText
  dsimp only
  generalize trim (line.takeWhile (· != nul)) = trimmed
  by_cases noSetting : trimmed = [] ∨ trimmed.head? = some '#'
  · rw [if_pos noSetting,if_pos noSetting]
  · rw [if_neg noSetting,if_neg noSetting]
    cases find "=".toList trimmed with
    | none => rfl
    | some separator =>
      dsimp only
      by_cases incomplete : trim (trimmed.take separator) = [] ∨ trim (trimmed.drop (separator + 1)) = []
      · rw [if_pos incomplete,if_pos incomplete]
        rfl
      · rw [if_neg incomplete,if_neg incomplete]
        exact LoadState.applyKey_config _ _ _

/-- Two readers with one configuration read the same configuration. -/
theorem foldl_line_config (texts : List CString) {s other : LoadState} (same : other.config = s.config) :
    (texts.foldl LoadState.line other).config = (texts.foldl LoadState.line s).config := by
  induction texts generalizing s other with
  | nil => exact same
  | cons line texts ih =>
    apply ih
    rw [line_config,line_config,same]

/-- What a load settles on. -/
theorem load_config (limits : TunnelLimits) (strerror : Nat → CString) (defaults : RuntimeConfig) (text : CString) :
    (loadRuntimeConfig limits strerror defaults (.ok text)).config =
      match validateRuntimeConfig limits (LoadState.read ⟨defaults,false,0,[]⟩ text).config with
      | .ok () => (LoadState.read ⟨defaults,false,0,[]⟩ text).config
      | .error _ => defaults := by
  unfold loadRuntimeConfig
  dsimp only
  rw [← LoadState.read]
  split <;> simp [*]

/-- A rejected setting changes nothing, and a file with it is loaded like the file without its line. -/
def RejectedHarmless (config : RuntimeConfig) (key value : CString) : Prop :=
  (applySetting config key value).error ≠ none →
    (applySetting config key value).config = config ∧
    ∀ limits strerror defaults before line after text others,
      settingOf line = some (key,value) → (before.foldl LoadState.line ⟨defaults,false,0,[]⟩).config = config →
      lines lineCapacity text = before ++ line :: after → lines lineCapacity others = before ++ after →
      (loadRuntimeConfig limits strerror defaults (.ok text)).config =
        (loadRuntimeConfig limits strerror defaults (.ok others)).config

theorem load_without {config : RuntimeConfig} {key value : CString} {defaults : RuntimeConfig}
    {before after : List CString} {line text others : CString}
    (unchanged : (applySetting config key value).config = config) (setting : settingOf line = some (key,value))
    (reached : (before.foldl LoadState.line ⟨defaults,false,0,[]⟩).config = config)
    (withLine : lines lineCapacity text = before ++ line :: after)
    (without : lines lineCapacity others = before ++ after) :
    (LoadState.read ⟨defaults,false,0,[]⟩ text).config = (LoadState.read ⟨defaults,false,0,[]⟩ others).config := by
  rw [LoadState.read,LoadState.read,withLine,without,List.foldl_append,List.foldl_append,List.foldl_cons]
  apply foldl_line_config
  rw [line_config,setting]
  dsimp only
  rw [reached,unchanged]

/-- A rejected setting is harmless exactly if it puts no zero into a port that was not zero. -/
theorem rejectedHarmless_iff (config : RuntimeConfig) (key value : CString) :
    RejectedHarmless config key value ↔ ¬ZeroesPort config key value := by
  rw [← applySetting_unchanged_iff]
  constructor
  · exact fun harmless rejected => (harmless rejected).1
  · intro unchanged rejected
    refine ⟨unchanged rejected,?_⟩
    intro limits strerror defaults before line after text others setting reached withLine without
    rw [load_config,load_config,load_without (unchanged rejected) setting reached withLine without]

def zeroPortText : CString := "udp.datagram_count=5\nprofile.0.udp_destination_port=0\n".toList

/-- The rejected port makes the validator discard the good setting. -/
theorem rejected_discards :
    ¬∀ (config : RuntimeConfig) (key value : CString), RejectedHarmless config key value := by
  intro harmless
  let counted : RuntimeConfig := { oneProfile "Default".toList with udp.datagramCount := 5 }
  have same := (harmless counted "profile.0.udp_destination_port".toList "0".toList (by decide)).2
    ⟨1200,8⟩ (fun _ => []) (oneProfile "Default".toList) ["udp.datagram_count=5\n".toList]
    "profile.0.udp_destination_port=0\n".toList [] zeroPortText "udp.datagram_count=5\n".toList
    (by decide) (by decide) (by decide) (by decide)
  revert same
  decide

end NxReverse.Toolbox
