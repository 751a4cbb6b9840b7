import NxReverse.Probe.CmifRequests
import NxReverse.Probe.ObjectKinds

/-! The command names that the records of a forwarded message carry. A name is looked up by the
object's path and the command id, and a message without a command has id 0. -/
namespace NxReverse.Probe

open Text

def startsWith (value start : CString) : Bool := start.isPrefixOf value

/-- The commands of one kind of object, by id. -/
abbrev CommandTable := List (UInt32 × CString)

def unknownName : CString := "Unknown".toList

def CommandTable.name (table : CommandTable) (commandId : UInt32) : CString :=
  (table.lookup commandId).getD unknownName

def staticServiceCommands : CommandTable :=
  [(4,"CreateGeneralServiceOld".toList),(5,"CreateGeneralService".toList)]

def generalServiceCommands : CommandTable :=
  [(4,"CreateRequest".toList),(5,"GetCurrentNetworkProfile".toList),(12,"GetCurrentIpAddress".toList),
    (15,"GetCurrentIpConfigInfo".toList),(17,"IsWirelessCommunicationEnabled".toList),
    (18,"GetInternetConnectionStatus".toList),(36,"GetCurrentAccessPoint".toList)]

def requestCommands : CommandTable :=
  [(0,"GetRequestState".toList),(1,"GetResult".toList),(2,"GetSystemEventReadableHandles".toList),
    (4,"Submit".toList),(6,"SetRequirementPreset".toList),(12,"SetPersistent".toList),
    (24,"RegisterSocketDescriptor".toList),(25,"UnregisterSocketDescriptor".toList)]

def bsdServiceCommands : CommandTable :=
  [(0,"RegisterClient".toList),(1,"StartMonitoring".toList),(2,"Socket".toList),(3,"SocketExempt".toList),
    (4,"Open".toList),(5,"Select".toList),(6,"Poll".toList),(7,"Sysctl".toList),(8,"Recv".toList),
    (9,"RecvFrom".toList),(10,"Send".toList),(11,"SendTo".toList),(12,"Accept".toList),(13,"Bind".toList),
    (14,"Connect".toList),(15,"GetPeerName".toList),(16,"GetSockName".toList),(17,"GetSockOpt".toList),
    (18,"Listen".toList),(19,"Ioctl".toList),(20,"Fcntl".toList),(21,"SetSockOpt".toList),
    (22,"Shutdown".toList),(23,"ShutdownAllSockets".toList),(24,"Write".toList),(25,"Read".toList),
    (26,"Close".toList),(27,"DuplicateSocket".toList),(29,"RecvMMsg".toList),(30,"SendMMsg".toList)]

def sslServiceCommands : CommandTable :=
  [(0,"CreateContext".toList),(1,"GetContextCount".toList),(2,"GetCertificates".toList),
    (3,"GetCertificateBufSize".toList),(4,"DebugIoctl".toList),(5,"SetInterfaceVersion".toList),
    (6,"FlushSessionCache".toList),(7,"SetDebugOption".toList),(8,"GetDebugOption".toList),
    (9,"ClearTls12FallbackFlag".toList),(10,"GetCertificateByIndex".toList),
    (11,"GetTrustedCertificateCount".toList),(100,"CreateContextForSystem".toList),
    (101,"SetThreadCoreMask".toList),(102,"GetThreadCoreMask".toList),(103,"VerifySignature".toList)]

def sslContextCommands : CommandTable :=
  [(0,"SetOption".toList),(1,"GetOption".toList),(2,"CreateConnection".toList),(3,"GetConnectionCount".toList),
    (4,"ImportServerPki".toList),(5,"ImportClientPki".toList),(6,"RemoveServerPki".toList),
    (7,"RemoveClientPki".toList),(8,"RegisterInternalPki".toList),(9,"AddPolicyOid".toList),
    (10,"ImportCrl".toList),(11,"RemoveCrl".toList),(12,"ImportClientCertKeyPki".toList),
    (13,"GeneratePrivateKeyAndCert".toList),(100,"CreateConnectionEx".toList)]

def sslConnectionCommands : CommandTable :=
  [(0,"SetSocketDescriptor".toList),(1,"SetHostName".toList),(2,"SetVerifyOption".toList),
    (3,"SetIoMode".toList),(4,"GetSocketDescriptor".toList),(5,"GetHostName".toList),
    (6,"GetVerifyOption".toList),(7,"GetIoMode".toList),(8,"DoHandshake".toList),
    (9,"DoHandshakeGetServerCert".toList),(10,"Read".toList),(11,"Write".toList),(12,"Pending".toList),
    (13,"Peek".toList),(14,"Poll".toList),(15,"GetVerifyCertError".toList),
    (16,"GetNeededServerCertBufferSize".toList),(17,"SetSessionCacheMode".toList),
    (18,"GetSessionCacheMode".toList),(19,"FlushSessionCache".toList),
    (20,"SetRenegotiationMode".toList),(21,"GetRenegotiationMode".toList),(22,"SetOption".toList),
    (23,"GetOption".toList),(24,"GetVerifyCertErrors".toList),(25,"GetCipherInfo".toList),
    (26,"SetNextAlpnProto".toList),(27,"GetNextAlpnProto".toList),(28,"SetDtlsSocketDescriptor".toList),
    (29,"GetDtlsHandshakeTimeout".toList),(30,"SetPrivateOption".toList),(31,"SetSrtpCiphers".toList),
    (32,"GetSrtpCipher".toList),(33,"ExportKeyingMaterial".toList),(34,"SetIoTimeout".toList),
    (35,"GetIoTimeout".toList),(36,"GetSessionTicket".toList),(37,"SetSessionTicket".toList)]

def isKnownBsdObjectPath (objectPath : CString) : Bool := endsWith objectPath ".root".toList

-- each lookup gives the kind of the object and the name of the command
def getNifmObjectKindAndCommandName (objectPath : CString) (commandId : UInt32) : CString × CString :=
  let cmdDepth := countCmdSegments objectPath
  let lastCreator := getLastCreatorCommandId objectPath
  if endsWith objectPath ".root".toList then ("IStaticService".toList,staticServiceCommands.name commandId)
  else if cmdDepth = 1 ∧ (lastCreator = 4 ∨ lastCreator = 5) then
    ("IGeneralService".toList,generalServiceCommands.name commandId)
  else if cmdDepth = 2 ∧ lastCreator = 4 then ("IRequest".toList,requestCommands.name commandId)
  else (unknownName,unknownName)

def getBsdObjectKindAndCommandName (objectPath : CString) (commandId : UInt32) : CString × CString :=
  if !isKnownBsdObjectPath objectPath then (unknownName,unknownName)
  else ("IBsdService".toList,bsdServiceCommands.name commandId)

def getSslObjectKindAndCommandName (serviceName objectPath : CString) (commandId : UInt32) : CString × CString :=
  let cmdDepth := countCmdSegments objectPath
  let lastCreator := getLastCreatorCommandId objectPath
  if !isKnownSslObjectPath objectPath then (unknownName,unknownName)
  else if endsWith objectPath ".root".toList then
    (if serviceName = "ssl:s".toList then "ISslServiceForSystem".toList else "ISslService".toList,
      sslServiceCommands.name commandId)
  else if cmdDepth = 1 ∧ (lastCreator = 0 ∨ lastCreator = 100) then
    (if lastCreator = 100 then "ISslContextForSystem".toList else "ISslContext".toList,
      sslContextCommands.name commandId)
  else if cmdDepth = 2 ∧ (lastCreator = 2 ∨ lastCreator = 100) then
    ("ISslConnection".toList,sslConnectionCommands.name commandId)
  else (unknownName,unknownName)

def describeKnownObjectAndCommand (serviceName objectPath : CString) (commandId : UInt32) : CString × CString :=
  if startsWith serviceName "nifm:".toList then getNifmObjectKindAndCommandName objectPath commandId
  else if startsWith serviceName "bsd:".toList then getBsdObjectKindAndCommandName objectPath commandId
  else if startsWith serviceName "ssl".toList then getSslObjectKindAndCommandName serviceName objectPath commandId
  else (unknownName,unknownName)

def bsdCommandPoll : UInt32 := 6

def shouldSuppressBsdTrace (traceBsdPoll : Bool) (serviceName : CString) (commandId : UInt32) : Bool :=
  startsWith serviceName "bsd:".toList && commandId == bsdCommandPoll && !traceBsdPoll

inductive CommandEvent where
  | ipcRequest | ipcDecodeRequest | ipcDecodeResponse | ipcResponse | nifmSemantic | bsdSemantic | sslSemantic
  deriving DecidableEq, Repr

structure CommandRecord where
  event : CommandEvent
  serviceName : CString
  sessionId : SessionId
  objectId : UInt32
  objectPath : CString
  selectedKind : Option CString
  objectKind : CString
  commandId : Option UInt32
  commandName : CString
  deriving DecidableEq, Repr

structure ForwardRequestTraceContext where
  serviceName : CString
  sessionId : SessionId
  requestMessage : PointerAndSize
  responseMessage : Option PointerAndSize

/-- What the emitters are handed: the service, the session, the parsed request and the path of the
object it is for. -/
structure ForwardedMessage where
  serviceName : CString
  sessionId : SessionId
  requestInfo : ParsedRequestInfo
  objectPath : CString

namespace ForwardedMessage

variable (m : ForwardedMessage)

def described : CString × CString :=
  describeKnownObjectAndCommand m.serviceName m.objectPath m.requestInfo.commandId

def record (event : CommandEvent) (selectedKind : Option CString) (commandId : Option UInt32)
    (named : CString × CString) : CommandRecord :=
  ⟨event,m.serviceName,m.sessionId,m.requestInfo.objectId,m.objectPath,selectedKind,named.1,commandId,named.2⟩

def logDecodeRecords (requestDecode : RequestDecodeDetails) (responseDecode : ResponseDecodeDetails) :
    List CommandRecord :=
  let selectedKind := getSelectedKindText m.requestInfo
  (if requestDecode.haveRaw then
    [m.record .ipcDecodeRequest (some selectedKind) (some m.requestInfo.commandId) m.described] else []) ++
  (if responseDecode.haveRaw then [m.record .ipcDecodeResponse (some selectedKind) none m.described] else [])

/-- A family's semantic record, for its commands on the objects it knows. -/
def emitSemanticRecord (event : CommandEvent) (family : CString) (known : CString → Bool)
    (named : CString × CString) : List CommandRecord :=
  if !startsWith m.serviceName family || m.requestInfo.isClose || !known m.objectPath then []
  else [m.record event none (some m.requestInfo.commandId) named]

def emitNifmSemanticRecord : List CommandRecord :=
  m.emitSemanticRecord .nifmSemantic "nifm:".toList isKnownNifmObjectPath
    (getNifmObjectKindAndCommandName m.objectPath m.requestInfo.commandId)

def emitBsdSemanticRecord : List CommandRecord :=
  m.emitSemanticRecord .bsdSemantic "bsd:".toList isKnownBsdObjectPath
    (getBsdObjectKindAndCommandName m.objectPath m.requestInfo.commandId)

def emitSslSemanticRecord : List CommandRecord :=
  m.emitSemanticRecord .sslSemantic "ssl".toList isKnownSslObjectPath
    (getSslObjectKindAndCommandName m.serviceName m.objectPath m.requestInfo.commandId)

end ForwardedMessage

/-- The records with a command name that a forwarded message leaves, in their order. -/
def onForwardRequestTrace (hipcParseRequest : PointerAndSize → HipcParsedRequest)
    (hipcParseResponse : PointerAndSize → HipcResponse) (traceBsdPoll : Bool) (t : Tracker)
    (ctx : ForwardRequestTraceContext) : List CommandRecord :=
  -- `notif:s` is traced by a record of its own
  if ctx.serviceName = "notif:s".toList then []
  else
    let requestInfo := parseRequestInfo hipcParseRequest ctx.requestMessage
    let requestDecode := getRequestDecodeDetails hipcParseRequest ctx.requestMessage
    let responseDecode :=
      match ctx.responseMessage with
      | some message => getResponseDecodeDetails hipcParseResponse message
      | none => .empty
    let objectPath := t.formatObjectPath 160 ctx.serviceName ctx.sessionId requestInfo.objectId.toNat
    let m : ForwardedMessage := ⟨ctx.serviceName,ctx.sessionId,requestInfo,objectPath⟩
    if shouldSuppressBsdTrace traceBsdPoll ctx.serviceName requestInfo.commandId then []
    else
      [m.record .ipcRequest (some (getSelectedKindText requestInfo)) (some requestInfo.commandId) m.described] ++
        m.logDecodeRecords requestDecode responseDecode ++
        [m.record .ipcResponse none (some requestInfo.commandId) m.described] ++
        m.emitNifmSemanticRecord ++ m.emitBsdSemanticRecord ++ m.emitSslSemanticRecord

def commandTables (serviceName : CString) : List CommandTable :=
  if startsWith serviceName "nifm:".toList then [staticServiceCommands,generalServiceCommands,requestCommands]
  else if startsWith serviceName "bsd:".toList then [bsdServiceCommands]
  else if startsWith serviceName "ssl".toList then [sslServiceCommands,sslContextCommands,sslConnectionCommands]
  else []

def commandNames (tables : List CommandTable) : List CString := tables.flatten.map (·.2)

def publicCommandNames (serviceName : CString) : List CString := commandNames (commandTables serviceName)

def hasCommandZero (serviceName objectPath : CString) : Bool :=
  if startsWith serviceName "nifm:".toList then
    !endsWith objectPath ".root".toList && countCmdSegments objectPath == 2 &&
      getLastCreatorCommandId objectPath == 4
  else if startsWith serviceName "bsd:".toList then isKnownBsdObjectPath objectPath
  else if startsWith serviceName "ssl".toList then isKnownSslObjectPath objectPath
  else false

/-- A message that is no command leaves the command id at 0. -/
theorem commandId_of_noCommand {parse : PointerAndSize → HipcParsedRequest} {message : PointerAndSize}
    (noCommand : (parseRequestInfo parse message).isClose = true ∨ (parseRequestInfo parse message).valid = false) :
    (parseRequestInfo parse message).commandId = 0 := by
  revert noCommand
  unfold parseRequestInfo
  dsimp only
  split
  · exact fun _ => rfl
  split
  · rintro (close | invalid)
    · cases close
    · cases invalid
  split
  · exact fun _ => rfl
  split
  · rintro (close | invalid)
    · cases close
    · cases invalid
  split <;> exact fun _ => rfl

-- the prefixes of the three families exclude each other
theorem not_nifm_of_bsd {serviceName : CString} (bsd : startsWith serviceName "bsd:".toList = true) :
    startsWith serviceName "nifm:".toList = false := by
  obtain ⟨rest,rfl⟩ := List.isPrefixOf_iff_prefix.mp bsd
  rfl

theorem not_nifm_of_ssl {serviceName : CString} (ssl : startsWith serviceName "ssl".toList = true) :
    startsWith serviceName "nifm:".toList = false := by
  obtain ⟨rest,rfl⟩ := List.isPrefixOf_iff_prefix.mp ssl
  rfl

theorem not_bsd_of_ssl {serviceName : CString} (ssl : startsWith serviceName "ssl".toList = true) :
    startsWith serviceName "bsd:".toList = false := by
  obtain ⟨rest,rfl⟩ := List.isPrefixOf_iff_prefix.mp ssl
  rfl

theorem describe_nifm {serviceName : CString} (nifm : startsWith serviceName "nifm:".toList = true)
    (objectPath : CString) (commandId : UInt32) :
    describeKnownObjectAndCommand serviceName objectPath commandId =
      getNifmObjectKindAndCommandName objectPath commandId := if_pos nifm

theorem describe_bsd {serviceName : CString} (bsd : startsWith serviceName "bsd:".toList = true)
    (objectPath : CString) (commandId : UInt32) :
    describeKnownObjectAndCommand serviceName objectPath commandId =
      getBsdObjectKindAndCommandName objectPath commandId := by
  rw [describeKnownObjectAndCommand,if_neg (Bool.eq_false_iff.mp (not_nifm_of_bsd bsd)),if_pos bsd]

theorem describe_ssl {serviceName : CString} (ssl : startsWith serviceName "ssl".toList = true)
    (objectPath : CString) (commandId : UInt32) :
    describeKnownObjectAndCommand serviceName objectPath commandId =
      getSslObjectKindAndCommandName serviceName objectPath commandId := by
  rw [describeKnownObjectAndCommand,if_neg (Bool.eq_false_iff.mp (not_nifm_of_ssl ssl)),
    if_neg (Bool.eq_false_iff.mp (not_bsd_of_ssl ssl)),if_pos ssl]

namespace ForwardedMessage

variable {m : ForwardedMessage} {r : CommandRecord}

theorem logDecodeRecords_named {requestDecode : RequestDecodeDetails} {responseDecode : ResponseDecodeDetails}
    (member : r ∈ m.logDecodeRecords requestDecode responseDecode) : r.commandName = m.described.2 := by
  rcases List.mem_append.mp member with ofRequest | ofResponse
  · split at ofRequest
    · rw [List.mem_singleton.mp ofRequest]; rfl
    · cases ofRequest
  · split at ofResponse
    · rw [List.mem_singleton.mp ofResponse]; rfl
    · cases ofResponse

theorem emitSemanticRecord_named {event : CommandEvent} {family : CString} {known : CString → Bool}
    {named : CString × CString} (same : startsWith m.serviceName family = true → m.described = named)
    (member : r ∈ m.emitSemanticRecord event family known named) : r.commandName = m.described.2 := by
  unfold emitSemanticRecord at member
  split at member
  · cases member
  · rename_i passed
    simp only [Bool.or_eq_true,Bool.not_eq_true',not_or,Bool.not_eq_false] at passed
    rw [List.mem_singleton.mp member,same passed.1.1]
    rfl

end ForwardedMessage

section Unmasked

variable {parseRequest : PointerAndSize → HipcParsedRequest} {parseResponse : PointerAndSize → HipcResponse}
  {traceBsdPoll : Bool} {t : Tracker} {ctx : ForwardRequestTraceContext}

/-- Every record of a message carries the one name that its object and command id have. -/
theorem onForwardRequestTrace_named {r : CommandRecord}
    (member : r ∈ onForwardRequestTrace parseRequest parseResponse traceBsdPoll t ctx) :
    r.commandName = (describeKnownObjectAndCommand ctx.serviceName
      (t.formatObjectPath 160 ctx.serviceName ctx.sessionId
        (parseRequestInfo parseRequest ctx.requestMessage).objectId.toNat)
      (parseRequestInfo parseRequest ctx.requestMessage).commandId).2 := by
  unfold onForwardRequestTrace at member
  split at member
  · cases member
  dsimp only at member
  split at member
  · cases member
  simp only [List.mem_append,List.mem_singleton] at member
  rcases member with ((((request | decode) | response) | nifm) | bsd) | ssl
  · rw [request]; rfl
  · exact ForwardedMessage.logDecodeRecords_named decode
  · rw [response]; rfl
  · exact ForwardedMessage.emitSemanticRecord_named (fun family => describe_nifm family _ _) nifm
  · exact ForwardedMessage.emitSemanticRecord_named (fun family => describe_bsd family _ _) bsd
  · exact ForwardedMessage.emitSemanticRecord_named (fun family => describe_ssl family _ _) ssl

/-- Unless the message is one of the other protocol or a suppressed poll, it leaves a record. -/
theorem onForwardRequestTrace_ne_nil (traced : ctx.serviceName ≠ "notif:s".toList)
    (shown : shouldSuppressBsdTrace traceBsdPoll ctx.serviceName
      (parseRequestInfo parseRequest ctx.requestMessage).commandId = false) :
    onForwardRequestTrace parseRequest parseResponse traceBsdPoll t ctx ≠ [] := by
  unfold onForwardRequestTrace
  rw [if_neg traced]
  dsimp only
  rw [if_neg (Bool.eq_false_iff.mp shown)]
  simp

end Unmasked

/-- The name of a command that the table has is one of the names. -/
theorem name_mem_commandNames {tables : List CommandTable} {table : CommandTable} {commandId : UInt32}
    (member : table ∈ tables) (known : (table.lookup commandId).isSome = true) :
    table.name commandId ∈ commandNames tables := by
  obtain ⟨name,found⟩ := Option.isSome_iff_exists.mp known
  obtain ⟨front,back,split,_⟩ := List.lookup_eq_some_iff.mp found
  have entry : (commandId,name) ∈ tables.flatten := List.mem_flatten.mpr ⟨table,member,by simp [split]⟩
  simp only [CommandTable.name,found,Option.getD_some]
  exact List.mem_map_of_mem entry

theorem nifm_zero_iff (objectPath : CString) :
    (getNifmObjectKindAndCommandName objectPath 0).2 ∈
        commandNames [staticServiceCommands,generalServiceCommands,requestCommands] ↔
      (!endsWith objectPath ".root".toList && countCmdSegments objectPath == 2 &&
        getLastCreatorCommandId objectPath == 4) = true := by
  have unknown : unknownName ∉
    commandNames [staticServiceCommands,generalServiceCommands,requestCommands] := by decide
  have noRoot : staticServiceCommands.name 0 ∉
    commandNames [staticServiceCommands,generalServiceCommands,requestCommands] := unknown
  have noGeneral : generalServiceCommands.name 0 ∉
    commandNames [staticServiceCommands,generalServiceCommands,requestCommands] := unknown
  have request : requestCommands.name 0 ∈
    commandNames [staticServiceCommands,generalServiceCommands,requestCommands] :=
    name_mem_commandNames (by simp) rfl
  simp only [Bool.and_eq_true,Bool.not_eq_true',beq_iff_eq]
  unfold getNifmObjectKindAndCommandName
  dsimp only
  split
  · rename_i root
    exact ⟨fun member => absurd member noRoot,fun known => by rw [root] at known; cases known.1.1⟩
  rename_i notRoot
  split
  · rename_i general
    exact ⟨fun member => absurd member noGeneral,fun known => by
      rw [known.1.2] at general
      cases general.1⟩
  split
  · rename_i second
    exact ⟨fun _ => ⟨⟨Bool.eq_false_iff.mpr notRoot,second.1⟩,second.2⟩,fun _ => request⟩
  · rename_i notSecond
    exact ⟨fun member => absurd member unknown,fun known => absurd ⟨known.1.2,known.2⟩ notSecond⟩

theorem bsd_zero_iff (objectPath : CString) :
    (getBsdObjectKindAndCommandName objectPath 0).2 ∈ commandNames [bsdServiceCommands] ↔
      isKnownBsdObjectPath objectPath = true := by
  have root : bsdServiceCommands.name 0 ∈ commandNames [bsdServiceCommands] := name_mem_commandNames (by simp) rfl
  have unknown : unknownName ∉ commandNames [bsdServiceCommands] := by decide
  unfold getBsdObjectKindAndCommandName
  cases known : isKnownBsdObjectPath objectPath
  · exact ⟨fun member => absurd member unknown,nofun⟩
  · exact ⟨fun _ => rfl,fun _ => root⟩

theorem isKnownSsl_cases {objectPath : CString} (known : isKnownSslObjectPath objectPath = true) :
    endsWith objectPath ".root".toList = true ∨
      (countCmdSegments objectPath = 1 ∧
        (getLastCreatorCommandId objectPath = 0 ∨ getLastCreatorCommandId objectPath = 100)) ∨
      (countCmdSegments objectPath = 2 ∧
        (getLastCreatorCommandId objectPath = 2 ∨ getLastCreatorCommandId objectPath = 100)) := by
  rw [isKnownSslObjectPath,isKnownObjectPath] at known
  split at known
  · exact .inl ‹_›
  split at known
  · rename_i first
    simp at first
    exact .inr (.inl first)
  · simp at known
    exact .inr (.inr known)

theorem ssl_zero_iff (serviceName objectPath : CString) :
    (getSslObjectKindAndCommandName serviceName objectPath 0).2 ∈
        commandNames [sslServiceCommands,sslContextCommands,sslConnectionCommands] ↔
      isKnownSslObjectPath objectPath = true := by
  have root : sslServiceCommands.name 0 ∈
    commandNames [sslServiceCommands,sslContextCommands,sslConnectionCommands] :=
    name_mem_commandNames (by simp) rfl
  have context : sslContextCommands.name 0 ∈
    commandNames [sslServiceCommands,sslContextCommands,sslConnectionCommands] :=
    name_mem_commandNames (by simp) rfl
  have connection : sslConnectionCommands.name 0 ∈
    commandNames [sslServiceCommands,sslContextCommands,sslConnectionCommands] :=
    name_mem_commandNames (by simp) rfl
  have unknown : unknownName ∉
    commandNames [sslServiceCommands,sslContextCommands,sslConnectionCommands] := by decide
  unfold getSslObjectKindAndCommandName
  cases known : isKnownSslObjectPath objectPath
  · exact ⟨fun member => absurd member unknown,nofun⟩
  refine ⟨fun _ => rfl,fun _ => ?_⟩
  rw [if_neg (by decide : ¬(!true) = true)]
  split
  · exact root
  rename_i notRoot
  split
  · exact context
  rename_i notContext
  split
  · exact connection
  rename_i notConnection
  rcases isKnownSsl_cases known with isRoot | isContext | isConnection
  · exact absurd isRoot notRoot
  · exact absurd isContext notContext
  · exact absurd isConnection notConnection

/-- Command 0 has a public name exactly on the objects that have such a command. -/
theorem describe_zero_iff (serviceName objectPath : CString) :
    (describeKnownObjectAndCommand serviceName objectPath 0).2 ∈ publicCommandNames serviceName ↔
      hasCommandZero serviceName objectPath = true := by
  unfold publicCommandNames commandTables hasCommandZero
  by_cases nifm : startsWith serviceName "nifm:".toList = true
  · rw [describe_nifm nifm,if_pos nifm,if_pos nifm]
    exact nifm_zero_iff objectPath
  by_cases bsd : startsWith serviceName "bsd:".toList = true
  · rw [describe_bsd bsd,if_neg nifm,if_neg nifm,if_pos bsd,if_pos bsd]
    exact bsd_zero_iff objectPath
  by_cases ssl : startsWith serviceName "ssl".toList = true
  · rw [describe_ssl ssl,if_neg nifm,if_neg nifm,if_neg bsd,if_neg bsd,if_pos ssl,if_pos ssl]
    exact ssl_zero_iff serviceName objectPath
  · rw [if_neg nifm,if_neg nifm,if_neg bsd,if_neg bsd,if_neg ssl,if_neg ssl]
    exact ⟨nofun,nofun⟩

/-- The records of a close or of a message that cannot be decoded carry no public command name
exactly where its object has no command 0. -/
theorem noCommand_unmasked_iff {parseRequest : PointerAndSize → HipcParsedRequest}
    {parseResponse : PointerAndSize → HipcResponse} {traceBsdPoll : Bool} {t : Tracker}
    {ctx : ForwardRequestTraceContext}
    (noCommand : (parseRequestInfo parseRequest ctx.requestMessage).isClose = true ∨
      (parseRequestInfo parseRequest ctx.requestMessage).valid = false) :
    (∀ r ∈ onForwardRequestTrace parseRequest parseResponse traceBsdPoll t ctx,
        r.commandName ∉ publicCommandNames ctx.serviceName) ↔
      hasCommandZero ctx.serviceName (t.formatObjectPath 160 ctx.serviceName ctx.sessionId
        (parseRequestInfo parseRequest ctx.requestMessage).objectId.toNat) = false := by
  have zero := commandId_of_noCommand noCommand
  constructor
  · intro unmasked
    apply Bool.eq_false_iff.mpr
    intro hasZero
    have traced : ctx.serviceName ≠ "notif:s".toList := by
      intro notif
      rw [notif] at hasZero
      cases hasZero
    have shown : shouldSuppressBsdTrace traceBsdPoll ctx.serviceName
        (parseRequestInfo parseRequest ctx.requestMessage).commandId = false := by
      rw [zero,shouldSuppressBsdTrace,(by decide : ((0 : UInt32) == bsdCommandPoll) = false),Bool.and_false,
        Bool.false_and]
    have emitted := @onForwardRequestTrace_ne_nil parseRequest parseResponse traceBsdPoll t ctx traced shown
    obtain ⟨r,member⟩ := List.exists_mem_of_ne_nil _ emitted
    apply unmasked r member
    rw [onForwardRequestTrace_named member,zero]
    exact (describe_zero_iff _ _).mpr hasZero
  · intro noZero r member masked
    rw [onForwardRequestTrace_named member,zero] at masked
    exact absurd ((describe_zero_iff _ _).mp masked) (Bool.eq_false_iff.mp noZero)

def rootClose (serviceName : CString) : ForwardRequestTraceContext :=
  ⟨serviceName,1,plainMessage 4 8 (CmifDomainInHeader.mk 2 0 0 0 0 0).bytes,none⟩

theorem noCommand_unmasked_nifm :
    onForwardRequestTrace hipcParsePlain (fun _ => ⟨0,8,0⟩) false .reset (rootClose "nifm:u".toList) ≠ [] ∧
    ∀ r ∈ onForwardRequestTrace hipcParsePlain (fun _ => ⟨0,8,0⟩) false .reset (rootClose "nifm:u".toList),
      r.commandName ∉ publicCommandNames "nifm:u".toList :=
  ⟨by decide,(noCommand_unmasked_iff (.inl (by decide))).mpr (by decide)⟩

/-- The close of a `bsd:u` session is recorded as `RegisterClient`. -/
theorem noCommand_masked_bsd :
    ¬∀ parseRequest parseResponse traceBsdPoll (t : Tracker) (ctx : ForwardRequestTraceContext),
      ((parseRequestInfo parseRequest ctx.requestMessage).isClose = true ∨
        (parseRequestInfo parseRequest ctx.requestMessage).valid = false) →
      ∀ r ∈ onForwardRequestTrace parseRequest parseResponse traceBsdPoll t ctx,
        r.commandName ∉ publicCommandNames ctx.serviceName := by
  intro unmasked
  have close := unmasked hipcParsePlain (fun _ => ⟨0,8,0⟩) false .reset (rootClose "bsd:u".toList)
    (.inl (by decide))
  have named : ∃ r ∈ onForwardRequestTrace hipcParsePlain (fun _ => ⟨0,8,0⟩) false .reset
      (rootClose "bsd:u".toList), r.commandName = "RegisterClient".toList := by
    decide
  obtain ⟨r,member,name⟩ := named
  apply close r member
  rw [name]
  decide

end NxReverse.Probe
