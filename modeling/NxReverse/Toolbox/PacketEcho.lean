import NxReverse.Toolbox.PacketTampering
import NxReverse.Toolbox.TunnelScenario

/-! The UDP echo over `wgnx:ctl`: one packet with a fresh token is submitted, and packets are received until one is
its reply, the service fails or the deadline is reached. -/
namespace NxReverse.Toolbox.PacketEcho

open Text Words WgnxPacket

/-- What the `wgnx` headers and the platform supply. -/
structure PacketApi where
  ipcApiVersion : UInt32
  maxInnerIpv4PacketSize : Nat
  queued : UInt32
  malformedPacket : UInt32
  queueEmpty : UInt32
  success : UInt32
  statusName : UInt32 → CString
  inetPton : CString → Option Ipv4Address
  inetNtop : Bytes → Option CString
  distinct : queueEmpty ≠ success

structure PacketEchoConfig where
  tunnelSourceIpv4 : CString
  udpEchoDestinationIpv4 : CString
  udpSourcePort : UInt16
  udpEchoDestinationPort : UInt16
  udpPayloadPrefix : CString
  packetTimeoutMs : UInt32
  submitMalformedIpv4Checksum : Bool
  deriving DecidableEq, Repr

def PacketEchoConfig.compiled : PacketEchoConfig where
  tunnelSourceIpv4 := "10.0.0.2".toList
  udpEchoDestinationIpv4 := "10.1.0.2".toList
  udpSourcePort := 39000
  udpEchoDestinationPort := 29000
  udpPayloadPrefix := "nxrv-wgnx-udp:".toList
  packetTimeoutMs := 5000
  submitMalformedIpv4Checksum := false

def tokenSize : Nat := 16

structure PacketSubmissionResult where
  status : UInt32
  packetId : UInt64
  peerIndex : Int32
  activationGeneration : UInt32
  deriving DecidableEq, Repr

structure PacketReceiveResult where
  status : UInt32
  packetId : UInt64
  packetSize : UInt32
  peerIndex : Int32
  activationGeneration : UInt32
  deriving DecidableEq, Repr

/-- A turn of the loop: the clock at its test, and the answer with what it wrote into the buffer. -/
structure ReceiveTurn where
  tested : UInt64
  rc : UInt32
  received : PacketReceiveResult
  written : Bytes
  deriving DecidableEq, Repr

/-- The answers that a run of the scenario gets. Behind the last turn the clock has reached the deadline. -/
structure EchoScript where
  running : Bool
  openRc : UInt32
  versionRc : UInt32
  apiVersion : UInt32
  token : {token : Bytes // token.length = tokenSize}
  random : UInt64
  submitRc : UInt32
  submission : PacketSubmissionResult
  frequency : UInt64
  start : UInt64
  turns : List ReceiveTurn

def scenarioName : CString := "wgnx_packet_udp_echo".toList

def startResult : ScenarioResult := .failure scenarioName 0 []

def EchoScript.deadline (script : EchoScript) (config : PacketEchoConfig) : UInt64 :=
  deadlineAfterMilliseconds script.frequency script.start config.packetTimeoutMs

structure EchoState where
  result : ScenarioResult
  incoming : Bytes
  emptyPolls : UInt32
  rejectedPackets : UInt32
  lastRejection : CString
  deriving DecidableEq, Repr

section Echo

variable (api : PacketApi) (config : PacketEchoConfig) (script : EchoScript)

def payload : Bytes := config.udpPayloadPrefix.map (fun c => c.toNat.toUInt8) ++ script.token.val

/-- The bytes that are submitted: the packet, or with one byte of its header checksum inverted. -/
def malform (outgoing : Bytes) : Bytes :=
  if config.submitMalformedIpv4Checksum then outgoing.modify 10 (· ^^^ 0xFF) else outgoing

def expectedReply (localAddress remoteAddress : Ipv4Address) : ExpectedReply :=
  ⟨localAddress,remoteAddress,config.udpSourcePort,config.udpEchoDestinationPort,payload config script⟩

def successText (received : PacketReceiveResult) (s : EchoState) : CString :=
  "api=".toList ++ decimal script.apiVersion.toNat ++ " submit_id=".toList ++ decimal script.submission.packetId.toNat ++
    " receive_id=".toList ++ decimal received.packetId.toNat ++ " peer=".toList ++
    signedDecimal received.peerIndex.toInt ++ " activation=".toList ++ decimal received.activationGeneration.toNat ++
    " empty_polls=".toList ++ decimal s.emptyPolls.toNat ++ " ignored_packets=".toList ++
    decimal s.rejectedPackets.toNat ++ " payload=".toList ++
    escapePreview (payload config script) (payload config script).length

def timeoutText (s : EchoState) : CString :=
  "timeout_ms=".toList ++ decimal config.packetTimeoutMs.toNat ++ " empty_polls=".toList ++ decimal s.emptyPolls.toNat ++
    " ignored_packets=".toList ++ decimal s.rejectedPackets.toNat ++
    if s.lastRejection.isEmpty then [] else " last_rejection=".toList ++ s.lastRejection

/-- The part of the buffer that an answer is about. The buffer keeps what an answer does not write. -/
def EchoState.packet (s : EchoState) (turn : ReceiveTurn) : Bytes :=
  (overlay s.incoming turn.written).take turn.received.packetSize.toNat

/-- The body of the loop: it goes on with a state or ends with a result. -/
def receiveTurn (expected : ExpectedReply) (s : EchoState) (turn : ReceiveTurn) : Except ScenarioResult EchoState :=
  let s := { s with result.rc := turn.rc }
  if failed turn.rc then .error { s.result with
    detail := "ReceiveInnerIpv4Packet CMIF failure after empty_polls=".toList ++ decimal s.emptyPolls.toNat }
  else if turn.received.status = api.queueEmpty then
    .ok { s with incoming := overlay s.incoming turn.written, emptyPolls := s.emptyPolls + 1 }
  else if turn.received.status ≠ api.success then .error { s.result with
    detail := "receive rejected status=".toList ++ api.statusName turn.received.status ++ " empty_polls=".toList ++
      decimal s.emptyPolls.toNat }
  else if turn.received.packetSize.toNat > api.maxInnerIpv4PacketSize then .error { s.result with
    detail := "receive reported oversized packet=".toList ++ decimal turn.received.packetSize.toNat }
  else
    let validation := validateUdpReply api.inetNtop (s.packet turn) expected
    if validation.1 then .error { s.result with
      success := true
      bytesReceived := turn.received.packetSize.toUInt64
      detail := successText config script turn.received s }
    else .ok { s with
      incoming := overlay s.incoming turn.written
      rejectedPackets := s.rejectedPackets + 1
      lastRejection := validation.2 }

def receiveLoop (expected : ExpectedReply) : EchoState → List ReceiveTurn → ScenarioResult
  | s,[] => { s.result with detail := timeoutText config s }
  | s,turn :: rest =>
    if turn.tested < script.deadline config then
      match receiveTurn api config script expected s turn with
      | .error result => result
      | .ok s => receiveLoop expected s rest
    else { s.result with detail := timeoutText config s }

def rejectionText (submission : PacketSubmissionResult) : CString :=
  "submission rejected status=".toList ++ api.statusName submission.status ++ " peer=".toList ++
    signedDecimal submission.peerIndex.toInt ++ " activation=".toList ++ decimal submission.activationGeneration.toNat

def EchoState.first (result : ScenarioResult) : EchoState :=
  ⟨result,List.replicate api.maxInnerIpv4PacketSize 0,0,0,[]⟩

/-- The result of the run, with the bytes that it has submitted. -/
def exchange (localAddress remoteAddress : Ipv4Address) : ScenarioResult × Option Bytes :=
  match buildUdpPacket api.maxInnerIpv4PacketSize api.maxInnerIpv4PacketSize localAddress remoteAddress
      config.udpSourcePort config.udpEchoDestinationPort (payload config script) script.random.toUInt16 with
  | none => ({ startResult with detail := "failed to build inner IPv4/UDP packet".toList },none)
  | some packet =>
    let outgoing := malform config packet
    let result := { startResult with rc := script.submitRc }
    if failed script.submitRc then
      ({ result with detail := "SubmitInnerIpv4Packet CMIF failure".toList },some outgoing)
    else if config.submitMalformedIpv4Checksum then ({ result with
      success := script.submission.status == api.malformedPacket
      detail := "malformed IPv4 checksum submission status=".toList ++ api.statusName script.submission.status },
      some outgoing)
    else if script.submission.status ≠ api.queued then
      ({ result with detail := rejectionText api script.submission },some outgoing)
    else
      (receiveLoop api config script (expectedReply config script localAddress remoteAddress)
        (.first api { result with bytesSent := outgoing.length.toUInt64 }) script.turns,some outgoing)

def runWgnxPacketUdpEcho : ScenarioResult × Option Bytes :=
  if !script.running then ({ startResult with detail := "wgnx:ctl is not running".toList },none)
  else if failed script.openRc then
    ({ startResult with rc := script.openRc, detail := "wgnx:ctl open failure".toList },none)
  else if failed script.versionRc then
    ({ startResult with rc := script.versionRc, detail := "GetApiVersion CMIF failure".toList },none)
  else if script.apiVersion ≠ api.ipcApiVersion then
    ({ startResult with detail := "API version mismatch compiled=".toList ++ decimal api.ipcApiVersion.toNat ++
        " actual=".toList ++ decimal script.apiVersion.toNat },none)
  else
    match api.inetPton config.tunnelSourceIpv4,api.inetPton config.udpEchoDestinationIpv4 with
    | some localAddress,some remoteAddress => exchange api config script localAddress remoteAddress
    | _,_ => ({ startResult with detail := "invalid configured IPv4 address".toList },none)

end Echo

def bufferBehind (api : PacketApi) (turns : List ReceiveTurn) : Bytes :=
  turns.foldl (fun incoming turn => overlay incoming turn.written) (List.replicate api.maxInnerIpv4PacketSize 0)

section Success

variable {api : PacketApi} {config : PacketEchoConfig} {script : EchoScript} {expected : ExpectedReply}

def packetBehind (api : PacketApi) (before : List ReceiveTurn) (turn : ReceiveTurn) : Bytes :=
  (overlay (bufferBehind api before) turn.written).take turn.received.packetSize.toNat

structure Receives (api : PacketApi) (expected : ExpectedReply) (before : List ReceiveTurn) (turn : ReceiveTurn)
    (accepted : Bool) : Prop where
  answered : failed turn.rc = false
  success : turn.received.status = api.success
  fits : turn.received.packetSize.toNat ≤ api.maxInnerIpv4PacketSize
  valid : (validateUdpReply api.inetNtop (packetBehind api before turn) expected).1 = accepted

def Passes (api : PacketApi) (expected : ExpectedReply) (before : List ReceiveTurn) (turn : ReceiveTurn) : Prop :=
  failed turn.rc = false ∧ turn.received.status = api.queueEmpty ∨ Receives api expected before turn false

/-- In time, and behind turns that pass, a packet is accepted. -/
inductive Arrives (api : PacketApi) (deadline : UInt64) (expected : ExpectedReply) :
    List ReceiveTurn → List ReceiveTurn → Prop where
  | now {before turn rest} (early : turn.tested < deadline) (accepted : Receives api expected before turn true) :
    Arrives api deadline expected before (turn :: rest)
  | later {before turn rest} (early : turn.tested < deadline) (passes : Passes api expected before turn)
    (arrives : Arrives api deadline expected (before ++ [turn]) rest) : Arrives api deadline expected before (turn :: rest)

theorem bufferBehind_append (before : List ReceiveTurn) (turn : ReceiveTurn) :
    bufferBehind api (before ++ [turn]) = overlay (bufferBehind api before) turn.written := by
  rw [bufferBehind,List.foldl_append]
  rfl

structure Behind (api : PacketApi) (before : List ReceiveTurn) (s : EchoState) : Prop where
  pending : s.result.success = false
  buffer : s.incoming = bufferBehind api before

theorem behind_first {result : ScenarioResult} (pending : result.success = false) :
    Behind api [] (.first api result) := ⟨pending,rfl⟩

/-- What a turn makes of such a state. -/
theorem receiveTurn_cases {before : List ReceiveTurn} {s : EchoState} (behind : Behind api before s) (turn : ReceiveTurn) :
    (∃ result, receiveTurn api config script expected s turn = .error result ∧ result.success = false ∧
      ¬Receives api expected before turn true ∧ ¬Passes api expected before turn) ∨
    (∃ result, receiveTurn api config script expected s turn = .error result ∧ result.success = true ∧
      Receives api expected before turn true) ∨
    (∃ next, receiveTurn api config script expected s turn = .ok next ∧ Behind api (before ++ [turn]) next ∧
      Passes api expected before turn ∧ ¬Receives api expected before turn true) := by
  have same : s.packet turn = packetBehind api before turn := by rw [EchoState.packet,behind.buffer,packetBehind]
  have advanced : overlay s.incoming turn.written = bufferBehind api (before ++ [turn]) := by
    rw [behind.buffer,bufferBehind_append]
  by_cases failure : failed turn.rc = true
  · refine .inl ⟨_,if_pos failure,behind.pending,fun receives => ?_,fun passes => ?_⟩
    · exact absurd (receives.answered.symm.trans failure) Bool.false_ne_true
    · rcases passes with empty | receives
      · exact absurd (empty.1.symm.trans failure) Bool.false_ne_true
      · exact absurd (receives.answered.symm.trans failure) Bool.false_ne_true
  have answered : failed turn.rc = false := Bool.not_eq_true _ ▸ failure
  by_cases empty : turn.received.status = api.queueEmpty
  · refine .inr (.inr ⟨_,(if_neg failure).trans (if_pos empty),⟨behind.pending,advanced⟩,.inl ⟨answered,empty⟩,?_⟩)
    exact fun receives => api.distinct (empty.symm.trans receives.success)
  by_cases success : turn.received.status = api.success
  · by_cases big : turn.received.packetSize.toNat > api.maxInnerIpv4PacketSize
    · refine .inl ⟨_,(if_neg failure).trans ((if_neg empty).trans ((if_neg (not_not.mpr success)).trans (if_pos big))),
        behind.pending,fun receives => Nat.not_lt.mpr receives.fits big,fun passes => ?_⟩
      rcases passes with ⟨_,nothing⟩ | receives
      · exact empty nothing
      · exact Nat.not_lt.mpr receives.fits big
    · have fits : turn.received.packetSize.toNat ≤ api.maxInnerIpv4PacketSize := Nat.not_lt.mp big
      have reaches : receiveTurn api config script expected s turn = _ :=
        (if_neg failure).trans ((if_neg empty).trans ((if_neg (not_not.mpr success)).trans (if_neg big)))
      cases valid : (validateUdpReply api.inetNtop (packetBehind api before turn) expected).1 with
      | true =>
        refine .inr (.inl ⟨_,reaches.trans (if_pos ?_),rfl,answered,success,fits,valid⟩)
        exact (congrArg (fun packet => (validateUdpReply api.inetNtop packet expected).1) same).trans valid
      | false =>
        have refused : (validateUdpReply api.inetNtop (s.packet turn) expected).1 = false := same ▸ valid
        refine .inr (.inr ⟨_,reaches.trans (if_neg (Bool.eq_false_iff.mp refused)),⟨behind.pending,advanced⟩,
          .inr ⟨answered,success,fits,valid⟩,fun receives => absurd (valid.symm.trans receives.valid) Bool.false_ne_true⟩)
  · refine .inl ⟨_,(if_neg failure).trans ((if_neg empty).trans (if_pos success)),behind.pending,
      fun receives => success receives.success,fun passes => ?_⟩
    rcases passes with ⟨_,nothing⟩ | receives
    · exact empty nothing
    · exact success receives.success

theorem receiveLoop_success_iff {before turns : List ReceiveTurn} {s : EchoState} (behind : Behind api before s) :
    (receiveLoop api config script expected s turns).success = true ↔
      Arrives api (script.deadline config) expected before turns := by
  induction turns generalizing before s with
  | nil => exact ⟨fun success => absurd (behind.pending.symm.trans success) Bool.false_ne_true,nofun⟩
  | cons turn rest ih =>
    rw [receiveLoop]
    by_cases early : turn.tested < script.deadline config
    · rw [if_pos early]
      rcases @receiveTurn_cases api config script expected before s behind turn with
        ⟨result,ends,failure,refused,stuck⟩ | ⟨result,ends,success,accepted⟩ | ⟨next,goes,further,passes,refused⟩
      · rw [ends]
        refine ⟨fun success => absurd (failure.symm.trans success) Bool.false_ne_true,fun arrives => ?_⟩
        cases arrives with
        | now _ accepted => exact absurd accepted refused
        | later _ passes _ => exact absurd passes stuck
      · rw [ends]
        exact ⟨fun _ => .now early accepted,fun _ => success⟩
      · rw [goes]
        refine (ih further).trans ⟨fun arrives => .later early passes arrives,fun arrives => ?_⟩
        cases arrives with
        | now _ accepted => exact absurd accepted refused
        | later _ _ arrives => exact arrives
    · rw [if_neg early]
      refine ⟨fun success => absurd (behind.pending.symm.trans success) Bool.false_ne_true,fun arrives => ?_⟩
      cases arrives with
      | now inTime _ => exact absurd inTime early
      | later inTime _ _ => exact absurd inTime early

end Success

/-- The run has come so far as to submit `packet`, and the submission has not failed. -/
structure Submitted (api : PacketApi) (config : PacketEchoConfig) (script : EchoScript)
    (localAddress remoteAddress : Ipv4Address) (packet : Bytes) : Prop where
  running : script.running = true
  opened : failed script.openRc = false
  versioned : failed script.versionRc = false
  version : script.apiVersion = api.ipcApiVersion
  source : api.inetPton config.tunnelSourceIpv4 = some localAddress
  destination : api.inetPton config.udpEchoDestinationIpv4 = some remoteAddress
  built : buildUdpPacket api.maxInnerIpv4PacketSize api.maxInnerIpv4PacketSize localAddress remoteAddress
    config.udpSourcePort config.udpEchoDestinationPort (payload config script) script.random.toUInt16 = some packet
  answered : failed script.submitRc = false

def Wins (api : PacketApi) (config : PacketEchoConfig) (script : EchoScript) (expected : ExpectedReply) : Prop :=
  if config.submitMalformedIpv4Checksum = true then script.submission.status = api.malformedPacket
  else script.submission.status = api.queued ∧ Arrives api (script.deadline config) expected [] script.turns

section Run

variable {api : PacketApi} {config : PacketEchoConfig} {script : EchoScript} {localAddress remoteAddress : Ipv4Address}

theorem exchange_success_iff {packet : Bytes}
    (built : buildUdpPacket api.maxInnerIpv4PacketSize api.maxInnerIpv4PacketSize localAddress remoteAddress
      config.udpSourcePort config.udpEchoDestinationPort (payload config script) script.random.toUInt16 = some packet) :
    (exchange api config script localAddress remoteAddress).1.success = true ↔ failed script.submitRc = false ∧
      Wins api config script (expectedReply config script localAddress remoteAddress) := by
  rw [exchange,built,Wins]
  dsimp only
  by_cases failure : failed script.submitRc = true
  · rw [if_pos failure]
    exact ⟨(absurd · Bool.false_ne_true),fun both => absurd (both.1.symm.trans failure) Bool.false_ne_true⟩
  have answered : failed script.submitRc = false := Bool.not_eq_true _ ▸ failure
  rw [if_neg failure]
  by_cases malformed : config.submitMalformedIpv4Checksum = true
  · rw [if_pos malformed,if_pos malformed]
    exact ⟨fun success => ⟨answered,eq_of_beq success⟩,fun both => beq_iff_eq.mpr both.2⟩
  rw [if_neg malformed,if_neg malformed]
  by_cases queued : script.submission.status = api.queued
  · rw [if_neg (not_not.mpr queued)]
    refine (receiveLoop_success_iff (behind_first rfl)).trans ?_
    exact ⟨fun arrives => ⟨answered,queued,arrives⟩,fun both => both.2.2⟩
  · rw [if_pos queued]
    exact ⟨nofun,fun both => absurd both.2.1 queued⟩

/-- The run behind its checks of the service. -/
theorem parsed_success_iff (running : script.running = true) (opened : failed script.openRc = false)
    (versioned : failed script.versionRc = false) (version : script.apiVersion = api.ipcApiVersion) :
    (match api.inetPton config.tunnelSourceIpv4,api.inetPton config.udpEchoDestinationIpv4 with
      | some localAddress,some remoteAddress => exchange api config script localAddress remoteAddress
      | _,_ => ({ startResult with detail := "invalid configured IPv4 address".toList },none)).1.success = true ↔
      ∃ localAddress remoteAddress packet, Submitted api config script localAddress remoteAddress packet ∧
        Wins api config script (expectedReply config script localAddress remoteAddress) := by
  cases source : api.inetPton config.tunnelSourceIpv4 with
  | none => exact ⟨nofun,fun ⟨_,_,_,submitted,_⟩ => absurd (source.symm.trans submitted.source) nofun⟩
  | some localAddress =>
    cases destination : api.inetPton config.udpEchoDestinationIpv4 with
    | none => exact ⟨nofun,fun ⟨_,_,_,submitted,_⟩ => absurd (destination.symm.trans submitted.destination) nofun⟩
    | some remoteAddress =>
      cases built : buildUdpPacket api.maxInnerIpv4PacketSize api.maxInnerIpv4PacketSize localAddress remoteAddress
        config.udpSourcePort config.udpEchoDestinationPort (payload config script) script.random.toUInt16 with
      | none =>
        have fails : (exchange api config script localAddress remoteAddress).1.success = false := by rw [exchange,built]; rfl
        refine ⟨fun success => absurd (fails.symm.trans success) Bool.false_ne_true,?_⟩
        · rintro ⟨otherLocal,otherRemote,packet,submitted,_⟩
          cases source.symm.trans submitted.source
          cases destination.symm.trans submitted.destination
          exact absurd (built.symm.trans submitted.built) nofun
      | some packet =>
        refine (exchange_success_iff built).trans ⟨fun both => ?_,?_⟩
        · exact ⟨localAddress,remoteAddress,packet,
            ⟨running,opened,versioned,version,source,destination,built,both.1⟩,both.2⟩
        · rintro ⟨otherLocal,otherRemote,packet,submitted,wins⟩
          cases source.symm.trans submitted.source
          cases destination.symm.trans submitted.destination
          exact ⟨submitted.answered,wins⟩

theorem Submitted.run_eq {packet : Bytes} (submitted : Submitted api config script localAddress remoteAddress packet) :
    runWgnxPacketUdpEcho api config script = exchange api config script localAddress remoteAddress := by
  rw [runWgnxPacketUdpEcho,if_neg (by simp [submitted.running]),if_neg (by simp [submitted.opened]),
    if_neg (by simp [submitted.versioned]),if_neg (not_not.mpr submitted.version),submitted.source,
    submitted.destination]

/-- The scenario succeeds exactly if everything up to the submission does, and then a malformed packet is named as
such, or a packet is queued and its reply arrives before the deadline behind empty polls and refused packets only. -/
theorem runWgnxPacketUdpEcho_success_iff (api : PacketApi) (config : PacketEchoConfig) (script : EchoScript) :
    (runWgnxPacketUdpEcho api config script).1.success = true ↔
      ∃ localAddress remoteAddress packet, Submitted api config script localAddress remoteAddress packet ∧
        Wins api config script (expectedReply config script localAddress remoteAddress) := by
  rw [runWgnxPacketUdpEcho]
  by_cases running : script.running = true
  · by_cases opened : failed script.openRc = true
    · rw [if_neg (by simp [running]),if_pos opened]
      exact ⟨nofun,fun ⟨_,_,_,submitted,_⟩ => absurd (submitted.opened.symm.trans opened) Bool.false_ne_true⟩
    by_cases versioned : failed script.versionRc = true
    · rw [if_neg (by simp [running]),if_neg opened,if_pos versioned]
      exact ⟨nofun,fun ⟨_,_,_,submitted,_⟩ => absurd (submitted.versioned.symm.trans versioned) Bool.false_ne_true⟩
    by_cases version : script.apiVersion = api.ipcApiVersion
    · rw [if_neg (by simp [running]),if_neg opened,if_neg versioned,if_neg (not_not.mpr version)]
      exact parsed_success_iff running (Bool.not_eq_true _ ▸ opened) (Bool.not_eq_true _ ▸ versioned) version
    · rw [if_neg (by simp [running]),if_neg opened,if_neg versioned,if_pos version]
      exact ⟨nofun,fun ⟨_,_,_,submitted,_⟩ => absurd submitted.version version⟩
  · rw [if_pos (by simp [running])]
    exact ⟨nofun,fun ⟨_,_,_,submitted,_⟩ => absurd submitted.running running⟩

/-- The turns of `before` are in time and pass. -/
inductive AllPass (api : PacketApi) (deadline : UInt64) (expected : ExpectedReply) :
    List ReceiveTurn → List ReceiveTurn → Prop where
  | none {before} : AllPass api deadline expected before []
  | one {before turn rest} (early : turn.tested < deadline) (passes : Passes api expected before turn)
    (all : AllPass api deadline expected (before ++ [turn]) rest) : AllPass api deadline expected before (turn :: rest)

theorem AllPass.arrives {deadline : UInt64} {expected : ExpectedReply} {before front rest : List ReceiveTurn}
    {turn : ReceiveTurn} (all : AllPass api deadline expected before front) (early : turn.tested < deadline)
    (accepted : Receives api expected (before ++ front) turn true) :
    Arrives api deadline expected before (front ++ turn :: rest) := by
  induction all with
  | none => exact .now early (by simpa using accepted)
  | one earlier passes _ ih => exact .later earlier passes (ih (by simpa using accepted))

/-- The peer's answer to the submitted packet: the same payload, sent back from the destination to the source, and
received as a whole. -/
structure Echoes (api : PacketApi) (config : PacketEchoConfig) (script : EchoScript)
    (localAddress remoteAddress : Ipv4Address) (turn : ReceiveTurn) : Prop where
  answered : failed turn.rc = false
  success : turn.received.status = api.success
  size : turn.received.packetSize.toNat = turn.written.length
  written : ∃ identification, buildUdpPacket api.maxInnerIpv4PacketSize api.maxInnerIpv4PacketSize remoteAddress
    localAddress config.udpEchoDestinationPort config.udpSourcePort (payload config script) identification =
      some turn.written

/-- A packet that was built fits and stands as it was laid out. -/
theorem layout_of_built {maxInnerIpv4PacketSize outputSize : Nat} {source destination : Ipv4Address}
    {sourcePort destinationPort identification : UInt16} {payload packet : Bytes}
    (built : buildUdpPacket maxInnerIpv4PacketSize outputSize source destination sourcePort destinationPort payload
      identification = some packet) :
    packet = builtPacket source destination sourcePort destinationPort identification payload ∧
      28 + payload.length ≤ 65535 ∧ packet.length ≤ maxInnerIpv4PacketSize := by
  have size : ipv4HeaderSize + (udpHeaderSize + payload.length) = 28 + payload.length := by
    simp only [ipv4HeaderSize,udpHeaderSize]
    omega
  by_cases big : ipv4HeaderSize + (udpHeaderSize + payload.length) > outputSize ∨
    ipv4HeaderSize + (udpHeaderSize + payload.length) > maxInnerIpv4PacketSize ∨
      ipv4HeaderSize + (udpHeaderSize + payload.length) > 65535
  · cases (if_pos big).symm.trans built
  · simp only [not_or,Nat.not_lt] at big
    rw [buildUdpPacket_eq _ _ _ _ _ _ big.1 big.2.1 big.2.2] at built
    obtain rfl := Option.some.inj built
    refine ⟨rfl,by omega,?_⟩
    have length : (builtPacket source destination sourcePort destinationPort identification payload).length =
        28 + payload.length := by
      simp [builtPacket,ipv4Header,udpHeader,storeBigEndian16,Ipv4Address.octets]
      omega
    omega

/-- An echo is accepted whatever the buffer held before. -/
theorem Echoes.receives {turn : ReceiveTurn} (echoes : Echoes api config script localAddress remoteAddress turn)
    (before : List ReceiveTurn) :
    Receives api (expectedReply config script localAddress remoteAddress) before turn true := by
  obtain ⟨identification,built⟩ := echoes.written
  obtain ⟨layout,short,fits⟩ := layout_of_built built
  have whole : packetBehind api before turn = turn.written := by
    rw [packetBehind,echoes.size,overlay,List.take_left]
  refine ⟨echoes.answered,echoes.success,echoes.size ▸ fits,?_⟩
  rw [whole,layout]
  exact congrArg Prod.fst (builtPacket_roundTrips localAddress remoteAddress config.udpSourcePort
    config.udpEchoDestinationPort identification (payload config script) api.inetNtop short).accepted

/-- Where the peer echoes a queued packet in time, behind whatever empty polls and foreign packets, the scenario
succeeds. -/
theorem runWgnxPacketUdpEcho_echo {packet : Bytes} {front rest : List ReceiveTurn} {turn : ReceiveTurn}
    (submitted : Submitted api config script localAddress remoteAddress packet)
    (plain : config.submitMalformedIpv4Checksum = false) (queued : script.submission.status = api.queued)
    (turns : script.turns = front ++ turn :: rest)
    (passes : AllPass api (script.deadline config) (expectedReply config script localAddress remoteAddress) [] front)
    (early : turn.tested < script.deadline config) (echoes : Echoes api config script localAddress remoteAddress turn) :
    (runWgnxPacketUdpEcho api config script).1.success = true := by
  rw [submitted.run_eq]
  refine (exchange_success_iff submitted.built).mpr ⟨submitted.answered,?_⟩
  rw [Wins,if_neg (Bool.eq_false_iff.mp plain),turns]
  exact ⟨queued,passes.arrives early (echoes.receives _)⟩

end Run

def echoApi : PacketApi where
  ipcApiVersion := 1
  maxInnerIpv4PacketSize := 1420
  queued := 1
  malformedPacket := 2
  queueEmpty := 3
  success := 0
  statusName _ := []
  inetPton text := if text = "10.0.0.2".toList then some ⟨10,0,0,2⟩ else some ⟨10,1,0,2⟩
  inetNtop _ := none
  distinct := by decide

def echoPayload : Bytes := "nxrv-wgnx-udp:".toList.map (fun c => c.toNat.toUInt8) ++ List.replicate tokenSize 7

def echoTurn : ReceiveTurn := ⟨20,0,⟨0,1,58,0,1⟩,builtPacket ⟨10,1,0,2⟩ ⟨10,0,0,2⟩ 29000 39000 5 echoPayload⟩

def echoScript : EchoScript :=
  ⟨true,0,0,1,⟨List.replicate tokenSize 7,rfl⟩,9,0,⟨1,1,0,1⟩,1000,10,[⟨15,0,⟨3,0,0,0,1⟩,[]⟩,echoTurn]⟩

theorem runWgnxPacketUdpEcho_echo_second :
    (runWgnxPacketUdpEcho echoApi .compiled echoScript).1.success = true :=
  @runWgnxPacketUdpEcho_echo echoApi .compiled echoScript ⟨10,0,0,2⟩ ⟨10,1,0,2⟩
    (builtPacket ⟨10,0,0,2⟩ ⟨10,1,0,2⟩ 39000 29000 9 echoPayload) [⟨15,0,⟨3,0,0,0,1⟩,[]⟩] [] echoTurn
    ⟨rfl,rfl,rfl,rfl,rfl,rfl,buildUdpPacket_eq _ _ _ _ _ _ (by decide) (by decide) (by decide),rfl⟩ rfl rfl rfl
    (.one (by decide) (.inl ⟨rfl,rfl⟩) .none) (by decide)
    ⟨rfl,rfl,by decide,5,buildUdpPacket_eq _ _ _ _ _ _ (by decide) (by decide) (by decide)⟩

end NxReverse.Toolbox.PacketEcho
