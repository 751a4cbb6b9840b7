import NxReverse.Lib.Lines

/-! The runtime configuration of the toolbox: its settings, the validator and the reader of
`config.ini`. `WGNX_COMMON` supplies the two limits of the tunnel. -/
namespace NxReverse.Toolbox

open Text

def minimumPayloadBytes : UInt64 := 24
def maximumProfiles : Nat := 8
def maximumProfileNameLength : Nat := 32
def maximumDatagramCount : UInt32 := 4096
def maximumDurationMs : UInt32 := 60000

inductive BsdSystemUdpExpectedOutcome where
  | echoReply | noReplyTimeout | terminalClosure
  deriving DecidableEq, Repr

inductive RuntimeScenario where
  | directTunnelUdp | directTunnelTcp | bsdSystemUdp | bsdSystemTcp | tunnelContractValidation
  deriving DecidableEq, Repr

structure RuntimeProfile where
  name : CString
  tunnelDestinationIpv4 : CString
  bsdDestinationIpv4 : CString
  udpDestinationPort : UInt16
  tcpDestinationPort : UInt16
  deriving DecidableEq, Repr

structure UdpScenarioConfig where
  payloadBytes : UInt64
  datagramCount : UInt32
  pacingMs : UInt32
  concurrentFlows : UInt32
  receiveDeadlineMs : UInt32
  payloadSeed : UInt32
  echoReplies : Bool
  deriving DecidableEq, Repr

structure TcpScenarioConfig where
  receiveDeadlineMs : UInt32
  deriving DecidableEq, Repr

structure TunnelContractValidationConfig where
  verifyClonedSessionLifetime : Bool
  verifyMixedBatch : Bool
  deriving DecidableEq, Repr

structure BsdSystemUdpWorkloadConfig where
  verifyPostRouteRejection : Bool
  expectedOutcome : BsdSystemUdpExpectedOutcome
  requireWritableRecovery : Bool
  deriving DecidableEq, Repr

structure RuntimeConfig where
  scenario : RuntimeScenario
  nextWorkloadId : UInt32
  activeProfile : UInt64
  profiles : List RuntimeProfile
  udp : UdpScenarioConfig
  tcp : TcpScenarioConfig
  tunnelContract : TunnelContractValidationConfig
  bsdSystemUdp : BsdSystemUdpWorkloadConfig
  deriving DecidableEq, Repr

/-- Constants of `wgnx::tunnel`. -/
structure TunnelLimits where
  maximumUdpPayloadStorageBytes : UInt64
  maximumFlowsPerClient : UInt32

def parseBool (text : CString) : Option Bool :=
  if text = "true".toList ∨ text = "1".toList then some true
  else if text = "false".toList ∨ text = "0".toList then some false
  else none

-- `ParseUnsigned` at the types it is used with
def parseUInt16 (text : CString) : Option UInt16 := (readUnsigned (2 ^ 16 - 1) text).map UInt16.ofNat
def parseUInt32 (text : CString) : Option UInt32 := (readUnsigned (2 ^ 32 - 1) text).map UInt32.ofNat
def parseUInt64 (text : CString) : Option UInt64 := (readUnsigned (2 ^ 64 - 1) text).map UInt64.ofNat

/-- One component of an address, between two dots. -/
def isOctet (text : CString) : Bool :=
  text.length != 0 && text.length ≤ 3 && (parseUInt32 text).any (· ≤ 255)

/-- `components` more components are due. -/
def isIpv4From : Nat → CString → Bool
  | 0,_ => false
  | 1,text => (find ".".toList text).isNone && isOctet text
  | components + 1,text =>
    match find ".".toList text with
    | none => false
    | some separator => isOctet (text.take separator) && isIpv4From components (text.drop (separator + 1))

def isValidIpv4 (text : CString) : Bool := isIpv4From 4 text

def parseRuntimeScenario (value : CString) : Option RuntimeScenario :=
  if value = "direct_tunnel_udp".toList then some .directTunnelUdp
  else if value = "direct_tunnel_tcp".toList then some .directTunnelTcp
  else if value = "bsd_system_udp".toList then some .bsdSystemUdp
  else if value = "bsd_system_tcp".toList then some .bsdSystemTcp
  else if value = "tunnel_contract_validation".toList then some .tunnelContractValidation
  else none

def parseBsdSystemUdpExpectedOutcome (value : CString) : Option BsdSystemUdpExpectedOutcome :=
  if value = "echo".toList then some .echoReply
  else if value = "no_reply_timeout".toList then some .noReplyTimeout
  else if value = "terminal_closure".toList then some .terminalClosure
  else none

def parseProfileKey (key : CString) : Option (UInt64 × CString) :=
  if "profile.".toList.isPrefixOf key then
    let remainder := key.drop "profile.".toList.length
    match find ".".toList remainder with
    | none => none
    | some separator =>
      match parseUInt64 (remainder.take separator) with
      | none => none
      | some index => some (index,remainder.drop (separator + 1))
  else none

structure Setting where
  key : CString
  apply : RuntimeConfig → CString → RuntimeConfig × Bool

/-- A value that is stored when it parses. -/
def store (config : RuntimeConfig) (parsed : Option α) (put : α → RuntimeConfig) : RuntimeConfig × Bool :=
  match parsed with
  | some value => (put value,true)
  | none => (config,false)

def applyFrom (table : List Setting) (config : RuntimeConfig) (key value : CString) :
    Option (RuntimeConfig × Bool) :=
  (table.find? fun setting => setting.key == key).map fun setting => setting.apply config value

def resizeProfiles (config : RuntimeConfig) (count : UInt64) : RuntimeConfig × Bool :=
  if count = 0 ∨ count.toNat > maximumProfiles then (config,false)
  else
    match config.profiles with
    -- `front` of an empty vector is undefined; the defaults have passed the validator
    | [] => (config,false)
    | front :: rest =>
      ({ config with
        profiles := (front :: rest).take count.toNat ++
          List.replicate (count.toNat - (front :: rest).length) front },true)

def runSettings : List Setting :=
  [⟨"run.scenario".toList,fun c value =>
      store c (parseRuntimeScenario value) fun v => { c with scenario := v }⟩,
    ⟨"run.next_workload_id".toList,fun c value =>
      store c (parseUInt32 value) fun v => { c with nextWorkloadId := v }⟩,
    ⟨"run.active_profile".toList,fun c value =>
      store c (parseUInt64 value) fun v => { c with activeProfile := v }⟩,
    ⟨"profiles.count".toList,fun c value =>
      match parseUInt64 value with
      | none => (c,false)
      | some count => resizeProfiles c count⟩]

def scenarioSettings : List Setting :=
  [⟨"udp.payload_bytes".toList,fun c value =>
      store c (parseUInt64 value) fun v => { c with udp.payloadBytes := v }⟩,
    ⟨"udp.datagram_count".toList,fun c value =>
      store c (parseUInt32 value) fun v => { c with udp.datagramCount := v }⟩,
    ⟨"udp.pacing_ms".toList,fun c value =>
      store c (parseUInt32 value) fun v => { c with udp.pacingMs := v }⟩,
    ⟨"udp.concurrent_flows".toList,fun c value =>
      store c (parseUInt32 value) fun v => { c with udp.concurrentFlows := v }⟩,
    ⟨"udp.receive_deadline_ms".toList,fun c value =>
      store c (parseUInt32 value) fun v => { c with udp.receiveDeadlineMs := v }⟩,
    ⟨"udp.payload_seed".toList,fun c value =>
      store c (parseUInt32 value) fun v => { c with udp.payloadSeed := v }⟩,
    ⟨"udp.echo_replies".toList,fun c value =>
      store c (parseBool value) fun v => { c with udp.echoReplies := v }⟩,
    ⟨"tcp.receive_deadline_ms".toList,fun c value =>
      store c (parseUInt32 value) fun v => { c with tcp.receiveDeadlineMs := v }⟩,
    ⟨"tunnel_contract.verify_cloned_session_lifetime".toList,fun c value =>
      store c (parseBool value) fun v => { c with tunnelContract.verifyClonedSessionLifetime := v }⟩,
    ⟨"tunnel_contract.verify_mixed_batch".toList,fun c value =>
      store c (parseBool value) fun v => { c with tunnelContract.verifyMixedBatch := v }⟩,
    ⟨"bsd_system_udp.verify_post_route_rejection".toList,fun c value =>
      store c (parseBool value) fun v => { c with bsdSystemUdp.verifyPostRouteRejection := v }⟩,
    ⟨"bsd_system_udp.expected_outcome".toList,fun c value =>
      store c (parseBsdSystemUdpExpectedOutcome value) fun v => { c with bsdSystemUdp.expectedOutcome := v }⟩,
    ⟨"bsd_system_udp.require_writable_recovery".toList,fun c value =>
      store c (parseBool value) fun v => { c with bsdSystemUdp.requireWritableRecovery := v }⟩]

/-- A port is stored before it is compared with zero. -/
def storePort (parsed : Option UInt16) (profile : RuntimeProfile) (put : UInt16 → RuntimeProfile) :
    RuntimeProfile × Bool :=
  match parsed with
  | some port => (put port,port != 0)
  | none => (profile,false)

/-- `none` where the profile has no such field. -/
def applyProfileField (profile : RuntimeProfile) (field value : CString) : Option (RuntimeProfile × Bool) :=
  if field = "name".toList then
    some (if value.length > maximumProfileNameLength then (profile,false)
      else ({ profile with name := value },true))
  else if field = "tunnel_destination_ipv4".toList then
    some (if isValidIpv4 value then ({ profile with tunnelDestinationIpv4 := value },true) else (profile,false))
  else if field = "bsd_destination_ipv4".toList then
    some (if isValidIpv4 value then ({ profile with bsdDestinationIpv4 := value },true) else (profile,false))
  else if field = "udp_destination_port".toList then
    some (storePort (parseUInt16 value) profile fun port => { profile with udpDestinationPort := port })
  else if field = "tcp_destination_port".toList then
    some (storePort (parseUInt16 value) profile fun port => { profile with tcpDestinationPort := port })
  else none

/-- `ActiveRuntimeProfile`. -/
def activeRuntimeProfile (config : RuntimeConfig) : Option RuntimeProfile :=
  config.profiles[config.activeProfile.toNat]?

def putActive (config : RuntimeConfig) (profile : RuntimeProfile) : RuntimeConfig :=
  { config with profiles := config.profiles.set config.activeProfile.toNat profile }

def selectScenario (config : RuntimeConfig) (scenario : RuntimeScenario) (enabled : Option Bool) :
    RuntimeConfig × Bool :=
  store config enabled fun enabled => if enabled then { config with scenario } else config

def legacySettings (profile : RuntimeProfile) : List Setting :=
  [⟨"tunnel_udp.enabled".toList,fun c value => selectScenario c .directTunnelUdp (parseBool value)⟩,
    ⟨"bsd_system_udp.enabled".toList,fun c value => selectScenario c .bsdSystemUdp (parseBool value)⟩,
    ⟨"tunnel_contract.enabled".toList,fun c value =>
      selectScenario c .tunnelContractValidation (parseBool value)⟩,
    ⟨"tunnel_udp.destination_ipv4".toList,fun c value =>
      if isValidIpv4 value then
        (putActive c { profile with tunnelDestinationIpv4 := value, bsdDestinationIpv4 := value },true)
      else (c,false)⟩,
    ⟨"tunnel_udp.destination_port".toList,fun c value =>
      let stored := storePort (parseUInt16 value) profile fun port => { profile with udpDestinationPort := port }
      (putActive c stored.1,stored.2)⟩,
    ⟨"tunnel_udp.workload_id".toList,fun c value =>
      store c (parseUInt32 value) fun v => { c with nextWorkloadId := v }⟩,
    ⟨"tunnel_udp.payload_bytes".toList,fun c value =>
      store c (parseUInt64 value) fun v => { c with udp.payloadBytes := v }⟩,
    ⟨"tunnel_udp.datagram_count".toList,fun c value =>
      store c (parseUInt32 value) fun v => { c with udp.datagramCount := v }⟩,
    ⟨"tunnel_udp.pacing_ms".toList,fun c value =>
      store c (parseUInt32 value) fun v => { c with udp.pacingMs := v }⟩,
    ⟨"tunnel_udp.concurrent_flows".toList,fun c value =>
      store c (parseUInt32 value) fun v => { c with udp.concurrentFlows := v }⟩,
    ⟨"tunnel_udp.receive_deadline_ms".toList,fun c value =>
      store c (parseUInt32 value) fun v => { c with udp.receiveDeadlineMs := v }⟩,
    ⟨"tunnel_udp.payload_seed".toList,fun c value =>
      store c (parseUInt32 value) fun v => { c with udp.payloadSeed := v }⟩,
    ⟨"tunnel_udp.echo_replies".toList,fun c value =>
      store c (parseBool value) fun v => { c with udp.echoReplies := v }⟩,
    ⟨"tunnel_contract.verify_cloned_session_lifetime".toList,fun c value =>
      store c (parseBool value) fun v => { c with tunnelContract.verifyClonedSessionLifetime := v }⟩,
    ⟨"tunnel_contract.verify_mixed_batch".toList,fun c value =>
      store c (parseBool value) fun v => { c with tunnelContract.verifyMixedBatch := v }⟩,
    ⟨"bsd_system_udp.verify_post_route_rejection".toList,fun c value =>
      store c (parseBool value) fun v => { c with bsdSystemUdp.verifyPostRouteRejection := v }⟩,
    ⟨"bsd_system_udp.expected_outcome".toList,fun c value =>
      store c (parseBsdSystemUdpExpectedOutcome value) fun v => { c with bsdSystemUdp.expectedOutcome := v }⟩,
    ⟨"bsd_system_udp.require_writable_recovery".toList,fun c value =>
      store c (parseBool value) fun v => { c with bsdSystemUdp.requireWritableRecovery := v }⟩]

def applyLegacySetting (config : RuntimeConfig) (key value : CString) : RuntimeConfig × Bool :=
  match activeRuntimeProfile config with
  | none => (config,false)
  | some profile => (applyFrom (legacySettings profile) config key value).getD (config,false)

/-- What `ApplySetting` leaves behind: the configuration, whether the setting was a legacy one,
and the error it returned with. -/
structure Applied where
  config : RuntimeConfig
  migratedLegacy : Bool
  error : Option CString
  deriving DecidableEq, Repr

def Applied.of (key : CString) (result : RuntimeConfig × Bool) : Applied :=
  ⟨result.1,false,if result.2 then none else some ("invalid value for ".toList ++ key)⟩

def applyProfileSetting (config : RuntimeConfig) (key : CString) (index : Nat) (field value : CString) : Applied :=
  match config.profiles[index]? with
  | none => .of key (config,false)
  | some profile =>
    match applyProfileField profile field value with
    | none => ⟨config,false,some ("unrecognized profile setting ".toList ++ key)⟩
    | some stored => .of key ({ config with profiles := config.profiles.set index stored.1 },stored.2)

def applySetting (config : RuntimeConfig) (key value : CString) : Applied :=
  match applyFrom runSettings config key value with
  | some result => .of key result
  | none =>
    match parseProfileKey key with
    | some (index,field) => applyProfileSetting config key index.toNat field value
    | none =>
      match applyFrom scenarioSettings config key value with
      | some result => .of key result
      | none =>
        let legacy := applyLegacySetting config key value
        if legacy.2 then ⟨legacy.1,true,none⟩
        else ⟨legacy.1,false,some ("unrecognized configuration key ".toList ++ key)⟩

/-- A check of the validator, with the message it fails with. -/
def check (passed : Bool) (message : CString) : Except CString Unit :=
  if passed then .ok () else .error message

def validateProfile (profile : RuntimeProfile) : Except CString Unit := do
  check (profile.name.length != 0 && profile.name.length ≤ maximumProfileNameLength)
    "profile names must be between one and 32 characters".toList
  check (isValidIpv4 profile.tunnelDestinationIpv4 && isValidIpv4 profile.bsdDestinationIpv4)
    "profile destinations must be IPv4 addresses".toList
  check (profile.udpDestinationPort != 0) "profile UDP destination ports must be non-zero".toList
  check (profile.tcpDestinationPort != 0) "profile TCP destination ports must be non-zero".toList

def validateUdp (limits : TunnelLimits) (udp : UdpScenarioConfig) : Except CString Unit := do
  check (minimumPayloadBytes ≤ udp.payloadBytes && udp.payloadBytes ≤ limits.maximumUdpPayloadStorageBytes)
    "udp.payload_bytes is outside the supported range".toList
  check (udp.datagramCount != 0 && udp.datagramCount ≤ maximumDatagramCount)
    "udp.datagram_count is outside the supported range".toList
  check (udp.pacingMs ≤ maximumDurationMs && udp.receiveDeadlineMs != 0 &&
      udp.receiveDeadlineMs ≤ maximumDurationMs) "udp timeout is outside the supported range".toList
  check (udp.concurrentFlows != 0 && udp.concurrentFlows ≤ limits.maximumFlowsPerClient)
    "udp.concurrent_flows is outside the supported range".toList

def validateScenario (config : RuntimeConfig) : Except CString Unit := do
  if config.scenario = .bsdSystemUdp then
    check (!(config.bsdSystemUdp.expectedOutcome == .noReplyTimeout &&
        (config.udp.echoReplies || config.udp.datagramCount != 1 || config.udp.concurrentFlows != 1)))
      "BSD no-reply timeout requires no echo, one datagram, and one flow".toList
    check (!(config.bsdSystemUdp.expectedOutcome == .terminalClosure &&
        (config.bsdSystemUdp.requireWritableRecovery || !config.udp.echoReplies ||
          config.udp.datagramCount != 1 || config.udp.concurrentFlows != 1)))
      "BSD terminal closure requires echo, one datagram, one flow, and no writable recovery".toList
  check (!(config.scenario == .tunnelContractValidation &&
      !config.tunnelContract.verifyClonedSessionLifetime && !config.tunnelContract.verifyMixedBatch))
    "tunnel contract validation must enable at least one check".toList

def validateRuntimeConfig (limits : TunnelLimits) (config : RuntimeConfig) : Except CString Unit := do
  check (config.profiles.length != 0 && config.profiles.length ≤ maximumProfiles &&
    config.activeProfile.toNat < config.profiles.length) "an active profile must be selected".toList
  config.profiles.forM validateProfile
  validateUdp limits config.udp
  check (config.tcp.receiveDeadlineMs != 0 && config.tcp.receiveDeadlineMs ≤ maximumDurationMs)
    "tcp.receive_deadline_ms is outside the supported range".toList
  validateScenario config

structure TunnelUdpWorkloadConfig where
  destinationIpv4 : CString
  destinationPort : UInt16
  workloadId : UInt32
  payloadBytes : UInt64
  datagramCount : UInt32
  pacingMs : UInt32
  concurrentFlows : UInt32
  receiveDeadlineMs : UInt32
  payloadSeed : UInt32
  echoReplies : Bool
  deriving DecidableEq, Repr

def buildTunnelUdpWorkload (config : RuntimeConfig) (profile : RuntimeProfile) (workloadId : UInt32) :
    TunnelUdpWorkloadConfig where
  destinationIpv4 :=
    if config.scenario = .bsdSystemUdp then profile.bsdDestinationIpv4 else profile.tunnelDestinationIpv4
  destinationPort := profile.udpDestinationPort
  workloadId := workloadId
  payloadBytes := config.udp.payloadBytes
  datagramCount := config.udp.datagramCount
  pacingMs := config.udp.pacingMs
  concurrentFlows := config.udp.concurrentFlows
  receiveDeadlineMs := config.udp.receiveDeadlineMs
  payloadSeed := config.udp.payloadSeed
  echoReplies := config.udp.echoReplies

def runtimeScenarioName : RuntimeScenario → CString
  | .directTunnelUdp => "Direct tunnel UDP".toList
  | .directTunnelTcp => "Direct tunnel TCP exchange".toList
  | .bsdSystemUdp => "BSD system UDP".toList
  | .bsdSystemTcp => "BSD system TCP exchange".toList
  | .tunnelContractValidation => "Tunnel contract validation".toList

structure ConfigLoadReport where
  config : RuntimeConfig
  loadedFromFile : Bool
  diagnostics : List CString
  deriving DecidableEq, Repr

/-- What the reader carries from line to line. -/
structure LoadState where
  config : RuntimeConfig
  migratedLegacy : Bool
  lineNumber : Nat
  diagnostics : List CString
  deriving DecidableEq, Repr

def LoadState.diagnose (s : LoadState) (text : CString) : LoadState :=
  { s with diagnostics := s.diagnostics ++ ["configuration line ".toList ++ decimal s.lineNumber ++ text] }

def LoadState.applyKey (s : LoadState) (key value : CString) : LoadState :=
  let applied := applySetting s.config key value
  let s := { s with config := applied.config, migratedLegacy := s.migratedLegacy || applied.migratedLegacy }
  match applied.error with
  | none => s
  | some error => s.diagnose (": ".toList ++ error)

def nul : Char := Char.ofNat 0

def lineCapacity : Nat := 511

def LoadState.line (s : LoadState) (line : CString) : LoadState :=
  let s := { s with lineNumber := s.lineNumber + 1 }
  let trimmed := trim (line.takeWhile (· != nul))
  if trimmed = [] ∨ trimmed.head? = some '#' then s
  else
    match find "=".toList trimmed with
    | none => s.diagnose " has no '=' separator".toList
    | some separator =>
      let key := trim (trimmed.take separator)
      let value := trim (trimmed.drop (separator + 1))
      if key = [] ∨ value = [] then s.diagnose " has an empty key or value".toList
      else s.applyKey key value

def errnoNoEntry : Nat := 2

/-- The file is its contents or the error it is opened with. -/
def loadRuntimeConfig (limits : TunnelLimits) (strerror : Nat → CString) (defaults : RuntimeConfig)
    (file : Except Nat CString) : ConfigLoadReport :=
  match file with
  | .error errno =>
    ⟨defaults,false,
      if errno = errnoNoEntry then [] else ["unable to read configuration: ".toList ++ strerror errno]⟩
  | .ok text =>
    let s := (lines lineCapacity text).foldl LoadState.line ⟨defaults,false,0,[]⟩
    let diagnostics := if s.migratedLegacy then
      s.diagnostics ++
        ["legacy runtime configuration loaded; save to rewrite it as profiles and scenario settings".toList]
      else s.diagnostics
    match validateRuntimeConfig limits s.config with
    | .ok () => ⟨s.config,true,diagnostics⟩
    | .error error =>
      ⟨defaults,true,
        diagnostics ++ ["configuration is invalid; using compiled defaults: ".toList ++ error]⟩

end NxReverse.Toolbox
