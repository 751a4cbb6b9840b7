import NxReverse.Probe.Liveness
import NxReverse.Probe.StartServers

/-! The policy of the eight targets: which client is intercepted, what is recorded of the decision, and how the decisions
of a run come from the order of its queries alone, whatever happens to the sessions meanwhile. -/
namespace NxReverse.Probe

open Text

inductive NifmSystemMitmTarget where
  | none | nim | qlaunch | all
  deriving DecidableEq, Repr

structure PolicyConfig where
  bsdSocketsProgramId : Nat
  npnsProgramId : Nat
  eupldProgramId : Nat
  olscProgramId : Nat
  sslProgramId : Nat
  nimProgramId : Nat
  qlaunchProgramId : Nat
  toolboxForwarderProgramId : Nat
  nifmSystemTraceTarget : NifmSystemMitmTarget
  allowBsdSystemNpns : Bool
  allowBsdSystemEupld : Bool
  allowBsdSystemOlsc : Bool
  allowBsdSystemBsdSockets : Bool
  allowBsdSystemSsl : Bool
  allowBsdSystemNim : Bool
  allowBsdSystemSphairaWrapper : Bool
  allowBsdSystemToolboxForwarder : Bool
  allowBsdAdminQlaunch : Bool
  allowSslNpns : Bool
  allowSslEupld : Bool
  allowSslOlsc : Bool
  toolboxForwarderBsdMitm : ToolboxForwarderBsdMitmMode

def sphairaWrapperProgramId : Nat := 0x05446530ACA7E000

inductive QueryReason where
  | policy (reason : ShouldMitmPolicyReason)
  | nifmSystemNotTargeted
  deriving DecidableEq, Repr

/-- What `RecordShouldMitmPolicyDecision` tells the monitor. -/
structure QueryRecord where
  serviceName : CString
  clientInfo : MitmProcessInfo
  result : Bool
  reason : QueryReason
  pendingCount : UInt32
  activeCount : UInt32
  holderTag : UInt32
  totalDenials : UInt32
  detailValue3 : UInt32
  deriving DecidableEq, Repr

def PolicyDecision.ofBsdSystem (decision : PolicyDecision) : QueryRecord :=
  ⟨"bsd:s".toList,decision.clientInfo,decision.result,.policy decision.reason,decision.pendingCount,decision.activeCount,
    decision.holderTag,decision.totalDenials,decision.detailValue3⟩

namespace PolicyConfig

/-- The switches for `bsd:s`, in the order they are tested. -/
def build (cfg : PolicyConfig) : BuildConfig where
  toolboxForwarderProgramId := cfg.toolboxForwarderProgramId
  allowBsdSystemToolboxForwarder := cfg.allowBsdSystemToolboxForwarder
  toolboxForwarderBsdMitm := cfg.toolboxForwarderBsdMitm
  bsdSystemOverrides := [(cfg.npnsProgramId,cfg.allowBsdSystemNpns),(cfg.eupldProgramId,cfg.allowBsdSystemEupld),
    (cfg.olscProgramId,cfg.allowBsdSystemOlsc),(cfg.bsdSocketsProgramId,cfg.allowBsdSystemBsdSockets),
    (cfg.sslProgramId,cfg.allowBsdSystemSsl),(cfg.nimProgramId,cfg.allowBsdSystemNim),
    (sphairaWrapperProgramId,cfg.allowBsdSystemSphairaWrapper)]

def isDiagnosticOverrideEnabled (cfg : PolicyConfig) (clientInfo : MitmProcessInfo) : MitmTarget → Bool
  | .bsdSystem => cfg.build.isDiagnosticOverrideEnabled clientInfo
  | .bsdAdmin => if clientInfo.programId = cfg.qlaunchProgramId then cfg.allowBsdAdminQlaunch else false
  | .sslUser | .sslSystem =>
    if clientInfo.programId = cfg.npnsProgramId then cfg.allowSslNpns
    else if clientInfo.programId = cfg.eupldProgramId then cfg.allowSslEupld
    else if clientInfo.programId = cfg.olscProgramId then cfg.allowSslOlsc
    else false
  | _ => false

def isBsdSystemDenylistedProgram (cfg : PolicyConfig) (clientInfo : MitmProcessInfo) : Bool :=
  [cfg.npnsProgramId,cfg.eupldProgramId,cfg.olscProgramId,cfg.bsdSocketsProgramId,cfg.sslProgramId,cfg.nimProgramId,
    sphairaWrapperProgramId,cfg.toolboxForwarderProgramId].contains clientInfo.programId

def isBsdAdminDenylistedProgram (cfg : PolicyConfig) (clientInfo : MitmProcessInfo) : Bool :=
  clientInfo.programId == cfg.qlaunchProgramId

end PolicyConfig

namespace Liveness

def shouldMitmForService (l : Liveness) (target : MitmTarget) (clientInfo : MitmProcessInfo) : Bool × List QueryRecord :=
  let shouldMitm := !isSelfProgram clientInfo
  let counted := isBsdSystemServiceName target.serviceName
  (shouldMitm,[⟨target.serviceName,clientInfo,shouldMitm,
    .policy (if shouldMitm then .defaultAllow else .selfProgram),
    if counted then l.bsdSystemPendingMitmSessions else 0,if counted then l.bsdSystemActiveMitmSessions else 0,0,
    bsdSystemTotalMitmDenials.toUInt32,0⟩])

/-- The switch of `ShouldMitmNifmSystem`. -/
def isNifmSystemTarget (cfg : PolicyConfig) (clientInfo : MitmProcessInfo) : Bool :=
  match cfg.nifmSystemTraceTarget with
  | .nim => clientInfo.programId == cfg.nimProgramId
  | .qlaunch => clientInfo.programId == cfg.qlaunchProgramId
  | .all => true
  | .none => false

def shouldMitmNifmSystem (cfg : PolicyConfig) (clientInfo : MitmProcessInfo) : Bool × List QueryRecord :=
  if isSelfProgram clientInfo then
    (false,[⟨MitmTarget.nifmSystem.serviceName,clientInfo,false,.policy .selfProgram,0,0,0,
      bsdSystemTotalMitmDenials.toUInt32,0⟩])
  else
    (isNifmSystemTarget cfg clientInfo,[⟨MitmTarget.nifmSystem.serviceName,clientInfo,isNifmSystemTarget cfg clientInfo,
      if isNifmSystemTarget cfg clientInfo then .policy .defaultAllow else .nifmSystemNotTargeted,0,0,0,
      bsdSystemTotalMitmDenials.toUInt32,0⟩])

/-- `ShouldMitmBsdAdmin`, `ShouldMitmSslUser` and `ShouldMitmSslSystem`: a program on the denylist is refused without a
record, unless it is overridden. -/
def shouldMitmUnlessDenylisted (cfg : PolicyConfig) (l : Liveness) (target : MitmTarget) (denylisted : Bool)
    (clientInfo : MitmProcessInfo) : Bool × List QueryRecord :=
  if isSelfProgram clientInfo then (false,[])
  else if denylisted && !cfg.isDiagnosticOverrideEnabled clientInfo target then (false,[])
  else l.shouldMitmForService target clientInfo

/-- The callbacks of `g_mitm_target_configs`. -/
def shouldMitm (cfg : PolicyConfig) (l : Liveness) (clientInfo : MitmProcessInfo) :
    MitmTarget → Liveness × Bool × List QueryRecord
  | .nifmUser => (l,l.shouldMitmForService .nifmUser clientInfo)
  | .nifmSystem => (l,shouldMitmNifmSystem cfg clientInfo)
  | .bsdUser => (l,l.shouldMitmForService .bsdUser clientInfo)
  | .bsdSystem =>
    let answer := l.shouldMitmBsdSystem cfg.build clientInfo
    (answer.1,answer.2.1,answer.2.2.map PolicyDecision.ofBsdSystem)
  | .bsdAdmin => (l,l.shouldMitmUnlessDenylisted cfg .bsdAdmin (cfg.isBsdAdminDenylistedProgram clientInfo) clientInfo)
  | .sslUser => (l,l.shouldMitmUnlessDenylisted cfg .sslUser (cfg.isBsdSystemDenylistedProgram clientInfo) clientInfo)
  | .sslSystem => (l,l.shouldMitmUnlessDenylisted cfg .sslSystem (cfg.isBsdSystemDenylistedProgram clientInfo) clientInfo)
  | .notificationSystem => (l,l.shouldMitmForService .notificationSystem clientInfo)

end Liveness

/-- A query of the service manager, the outcome of a connection, or the end of a session. -/
inductive MitmEvent where
  | query (target : MitmTarget) (clientInfo : MitmProcessInfo)
  | accept (target : MitmTarget) (outcome : AcceptOutcome)
  | destroy (target : MitmTarget)

structure QueryAnswer where
  target : MitmTarget
  clientInfo : MitmProcessInfo
  granted : Bool
  records : List QueryRecord

def queryAnswers (cfg : PolicyConfig) : Liveness → List MitmEvent → List QueryAnswer
  | _,[] => []
  | l,.query target clientInfo :: rest =>
    let answer := l.shouldMitm cfg clientInfo target
    ⟨target,clientInfo,answer.2.1,answer.2.2⟩ :: queryAnswers cfg answer.1 rest
  | l,.accept target outcome :: rest => queryAnswers cfg (l.acceptMitmConnection target.serviceName outcome) rest
  | l,.destroy target :: rest => queryAnswers cfg (l.destroyService target.serviceName) rest

namespace PolicyConfig

variable (cfg : PolicyConfig)

/-- Queries of `bsd:s` that are counted for the process. -/
def isCounted (target : MitmTarget) (clientInfo : MitmProcessInfo) : Bool :=
  target = .bsdSystem && !isSelfProgram clientInfo && clientInfo.programId == cfg.toolboxForwarderProgramId &&
    cfg.allowBsdSystemToolboxForwarder

def allowsOrdinal (ordinal : UInt32) : Bool :=
  match cfg.toolboxForwarderBsdMitm with
  | .none => false
  | .firstOnly => ordinal == 1
  | .secondOnly => ordinal == 2
  | .both => true

/-- Which queries are granted, by the processes that were counted before, newest first. -/
def grants (counted : List Nat) (target : MitmTarget) (clientInfo : MitmProcessInfo) : Bool :=
  !isSelfProgram clientInfo &&
    match target with
    | .nifmUser | .bsdUser | .notificationSystem => true
    | .nifmSystem =>
      match cfg.nifmSystemTraceTarget with
      | .nim => clientInfo.programId == cfg.nimProgramId
      | .qlaunch => clientInfo.programId == cfg.qlaunchProgramId
      | .all => true
      | .none => false
    | .bsdSystem =>
      if cfg.isCounted .bsdSystem clientInfo then
        cfg.allowsOrdinal (.ofNat ((counted.takeWhile (· == clientInfo.processId)).length + 1))
      else cfg.isDiagnosticOverrideEnabled clientInfo .bsdSystem
    | .bsdAdmin => clientInfo.programId ≠ cfg.qlaunchProgramId || cfg.allowBsdAdminQlaunch
    | .sslUser | .sslSystem =>
      !cfg.isBsdSystemDenylistedProgram clientInfo || cfg.isDiagnosticOverrideEnabled clientInfo target

/-- The decisions that a list of queries comes to. -/
def decisions : List Nat → List (MitmTarget × MitmProcessInfo) → List Bool
  | _,[] => []
  | counted,(target,clientInfo) :: rest =>
    cfg.grants counted target clientInfo ::
      decisions (if cfg.isCounted target clientInfo then clientInfo.processId :: counted else counted) rest

end PolicyConfig

def MitmEvent.query? : MitmEvent → Option (MitmTarget × MitmProcessInfo)
  | .query target clientInfo => some (target,clientInfo)
  | .accept _ _ => none
  | .destroy _ => none

/-- The targets that are refused without a record. -/
def silentTargets : List MitmTarget := [.bsdAdmin,.sslUser,.sslSystem]

structure QueryAnswer.Told (answer : QueryAnswer) : Prop where
  about : ∀ record ∈ answer.records, record.serviceName = answer.target.serviceName ∧
    record.clientInfo = answer.clientInfo
  last : ∀ record, answer.records.getLast? = some record →
    record.result = answer.granted ∧ (record.reason = .policy .defaultAllow ↔ answer.granted = true)
  silent : answer.records = [] ↔ answer.granted = false ∧ answer.target ∈ silentTargets

/-- The ordinal of the process that asked last counts its queries since another one asked. -/
structure Liveness.Counts (l : Liveness) (counted : List Nat) : Prop where
  streak : ∀ pid, (if l.toolboxForwarderBsdOrdinalPid = pid then l.toolboxForwarderBsdOrdinalCount else 0) =
    .ofNat (counted.takeWhile (· == pid)).length

namespace Liveness

variable {cfg : PolicyConfig} {l : Liveness} {counted : List Nat} {clientInfo : MitmProcessInfo}

theorem counts_start : start.Counts [] := ⟨fun _ => ite_self _⟩

theorem Counts.frame (counts : l.Counts counted) {other : Liveness}
    (pid : other.toolboxForwarderBsdOrdinalPid = l.toolboxForwarderBsdOrdinalPid)
    (count : other.toolboxForwarderBsdOrdinalCount = l.toolboxForwarderBsdOrdinalCount) : other.Counts counted :=
  ⟨fun asked => by rw [pid,count,counts.streak]⟩

theorem Counts.accept (counts : l.Counts counted) (serviceName : CString) (outcome : AcceptOutcome) :
    (l.acceptMitmConnection serviceName outcome).Counts counted := by
  refine counts.frame ?_ ?_ <;> cases outcome <;> simp only [acceptMitmConnection,destroyService] <;> split <;> rfl

theorem Counts.destroy (counts : l.Counts counted) (serviceName : CString) :
    (l.destroyService serviceName).Counts counted := by
  refine counts.frame ?_ ?_ <;> simp only [destroyService] <;> split <;> rfl

/-- A counted query gets the next ordinal of its process, and is remembered. -/
theorem Counts.ordinal (counts : l.Counts counted) (cfg : PolicyConfig) (clientInfo : MitmProcessInfo) :
    (l.shouldMitmToolboxForwarderBsdOrdinal cfg.build clientInfo).2 =
      (cfg.allowsOrdinal (.ofNat ((counted.takeWhile (· == clientInfo.processId)).length + 1)),
        .ofNat ((counted.takeWhile (· == clientInfo.processId)).length + 1)) ∧
      (l.shouldMitmToolboxForwarderBsdOrdinal cfg.build clientInfo).1.Counts (clientInfo.processId :: counted) := by
  have next : (if l.toolboxForwarderBsdOrdinalPid = clientInfo.processId then l.toolboxForwarderBsdOrdinalCount else 0) +
      1 = .ofNat ((counted.takeWhile (· == clientInfo.processId)).length + 1) := by
    rw [counts.streak,UInt32.ofNat_add]
    rfl
  constructor
  · rw [shouldMitmToolboxForwarderBsdOrdinal,next]
    rfl
  · refine ⟨fun pid => ?_⟩
    rw [shouldMitmToolboxForwarderBsdOrdinal,next]
    by_cases same : clientInfo.processId = pid
    · subst same
      have seen : (clientInfo.processId :: counted).takeWhile (· == clientInfo.processId) =
          clientInfo.processId :: counted.takeWhile (· == clientInfo.processId) :=
        List.takeWhile_cons_of_pos (beq_self_eq_true _)
      rw [if_pos rfl,seen,List.length_cons]
    · rw [if_neg same,List.takeWhile_cons_of_neg (by simpa using same)]
      rfl

end Liveness

section Records

variable {target : MitmTarget} {clientInfo : MitmProcessInfo} {granted : Bool} {record : QueryRecord}

theorem told_one (about : record.serviceName = target.serviceName ∧ record.clientInfo = clientInfo)
    (result : record.result = granted) (reason : record.reason = .policy .defaultAllow ↔ granted = true)
    (heard : granted = false → target ∉ silentTargets) : QueryAnswer.Told ⟨target,clientInfo,granted,[record]⟩ := by
  refine ⟨List.forall_mem_singleton.mpr about,fun other found => ?_,?_⟩
  · obtain rfl := Option.some.inj found
    exact ⟨result,reason⟩
  · exact ⟨fun none => absurd none (List.cons_ne_nil _ _),fun refused => absurd refused.2 (heard refused.1)⟩

/-- A record before others. -/
theorem QueryAnswer.Told.cons {records : List QueryRecord} (told : QueryAnswer.Told ⟨target,clientInfo,granted,records⟩)
    (some : records ≠ []) (about : record.serviceName = target.serviceName ∧ record.clientInfo = clientInfo) :
    QueryAnswer.Told ⟨target,clientInfo,granted,record :: records⟩ := by
  refine ⟨List.forall_mem_cons.mpr ⟨about,told.about⟩,fun other found => ?_,?_⟩
  · rw [List.getLast?_cons_of_ne_nil some] at found
    exact told.last other found
  · exact ⟨fun none => absurd none (List.cons_ne_nil _ _),fun refused => absurd (told.silent.mpr refused) some⟩

theorem told_nothing (silent : target ∈ silentTargets) : QueryAnswer.Told ⟨target,clientInfo,false,[]⟩ :=
  ⟨List.forall_mem_nil _,fun record found => absurd found.symm (Option.some_ne_none record),
    ⟨fun _ => ⟨rfl,silent⟩,fun _ => rfl⟩⟩

end Records

namespace Liveness

variable {cfg : PolicyConfig} {l : Liveness} {counted : List Nat} {clientInfo : MitmProcessInfo} {target : MitmTarget}

/-- What the monitor is told of such an answer. -/
abbrev Tells (target : MitmTarget) (clientInfo : MitmProcessInfo) (answer : Bool × List QueryRecord) : Prop :=
  QueryAnswer.Told ⟨target,clientInfo,answer.1,answer.2⟩

theorem shouldMitmForService_tells (heard : isSelfProgram clientInfo = true → target ∉ silentTargets) :
    Tells target clientInfo (l.shouldMitmForService target clientInfo) := by
  refine told_one ⟨rfl,rfl⟩ rfl ?_ fun self => heard ?_
  · simp only [shouldMitmForService]
    cases isSelfProgram clientInfo <;> simp
  · simpa [shouldMitmForService] using self

theorem shouldMitmNifmSystem_spec (cfg : PolicyConfig) (counted : List Nat) (clientInfo : MitmProcessInfo) :
    (shouldMitmNifmSystem cfg clientInfo).1 = cfg.grants counted .nifmSystem clientInfo ∧
    Tells .nifmSystem clientInfo (shouldMitmNifmSystem cfg clientInfo) := by
  have heard : MitmTarget.nifmSystem ∉ silentTargets := by decide
  rw [shouldMitmNifmSystem,PolicyConfig.grants]
  by_cases self : isSelfProgram clientInfo = true
  · rw [if_pos self,self]
    exact ⟨rfl,told_one ⟨rfl,rfl⟩ rfl (by simp) fun _ => heard⟩
  · rw [if_neg self,Bool.eq_false_iff.mpr self]
    refine ⟨by simp [isNifmSystemTarget],told_one ⟨rfl,rfl⟩ rfl ?_ fun _ => heard⟩
    cases isNifmSystemTarget cfg clientInfo <;> simp

theorem shouldMitmUnlessDenylisted_spec (cfg : PolicyConfig) (l : Liveness) {target : MitmTarget}
    (silent : target ∈ silentTargets) (denylisted : Bool) (clientInfo : MitmProcessInfo) :
    (l.shouldMitmUnlessDenylisted cfg target denylisted clientInfo).1 = (!isSelfProgram clientInfo &&
      (!denylisted || cfg.isDiagnosticOverrideEnabled clientInfo target)) ∧
      Tells target clientInfo (l.shouldMitmUnlessDenylisted cfg target denylisted clientInfo) := by
  rw [shouldMitmUnlessDenylisted]
  by_cases self : isSelfProgram clientInfo = true
  · rw [if_pos self,self]
    exact ⟨rfl,told_nothing silent⟩
  · rw [if_neg self]
    by_cases refused : (denylisted && !cfg.isDiagnosticOverrideEnabled clientInfo target) = true
    · rw [if_pos refused]
      refine ⟨?_,told_nothing silent⟩
      rw [Bool.and_eq_true,Bool.not_eq_true'] at refused
      simp [refused.1,refused.2]
    · rw [if_neg refused]
      refine ⟨?_,shouldMitmForService_tells fun asked => absurd asked self⟩
      simp only [Bool.and_eq_true,Bool.not_eq_true',not_and,Bool.not_eq_false] at refused
      simp only [shouldMitmForService,Bool.eq_false_iff.mpr self]
      cases denylisted
      · rfl
      · simp [refused rfl]

/-- What follows the record of an override, for a client that is not the own program. -/
theorem shouldMitmForBsdSystem_spec (counts : l.Counts counted) (foreign : isSelfProgram clientInfo = false)
    (decision : PolicyDecision) (about : decision.clientInfo = clientInfo) :
    (l.shouldMitmForBsdSystem clientInfo).1.Counts counted ∧ (l.shouldMitmForBsdSystem clientInfo).2.1 = true ∧
      Tells .bsdSystem clientInfo ((l.shouldMitmForBsdSystem clientInfo).2.1,
        (decision :: (l.shouldMitmForBsdSystem clientInfo).2.2).map PolicyDecision.ofBsdSystem) := by
  rw [shouldMitmForBsdSystem,foreign]
  refine ⟨counts.frame rfl rfl,rfl,QueryAnswer.Told.cons ?_ (List.cons_ne_nil _ _) ⟨rfl,about⟩⟩
  exact told_one ⟨rfl,rfl⟩ rfl ⟨fun _ => rfl,fun _ => rfl⟩ fun refused => absurd refused.symm Bool.false_ne_true

/-- A single record that refuses. -/
theorem tells_refused {reason : ShouldMitmPolicyReason} (other : reason ≠ .defaultAllow)
    (holderTag detailValue3 : UInt32) :
    Tells .bsdSystem clientInfo (false,
      [l.recordDecision clientInfo false reason holderTag detailValue3].map PolicyDecision.ofBsdSystem) := by
  refine told_one ⟨rfl,rfl⟩ rfl ⟨fun same => ?_,fun granted => absurd granted Bool.false_ne_true⟩ fun _ => by decide
  exact absurd (QueryReason.policy.inj same) other

theorem shouldMitmBsdSystem_spec (counts : l.Counts counted) (clientInfo : MitmProcessInfo) :
    (l.shouldMitm cfg clientInfo .bsdSystem).2.1 = cfg.grants counted .bsdSystem clientInfo ∧
      (l.shouldMitm cfg clientInfo .bsdSystem).1.Counts
        (if cfg.isCounted .bsdSystem clientInfo then clientInfo.processId :: counted else counted) ∧
      Tells .bsdSystem clientInfo (l.shouldMitm cfg clientInfo .bsdSystem).2 := by
  rw [shouldMitm,shouldMitmBsdSystem]
  by_cases self : isSelfProgram clientInfo = true
  · rw [if_pos self,PolicyConfig.grants,PolicyConfig.isCounted,self]
    exact ⟨rfl,counts.frame rfl rfl,tells_refused (by decide) 0 0⟩
  have foreign := Bool.eq_false_iff.mpr self
  rw [if_neg self]
  by_cases forwarder : clientInfo.programId = cfg.build.toolboxForwarderProgramId ∧
      cfg.build.allowBsdSystemToolboxForwarder = true
  · have counted_ : cfg.isCounted .bsdSystem clientInfo = true := by
      have program : (clientInfo.programId == cfg.toolboxForwarderProgramId) = true := beq_iff_eq.mpr forwarder.1
      have allowed : cfg.allowBsdSystemToolboxForwarder = true := forwarder.2
      rw [PolicyConfig.isCounted,foreign,program,allowed]
      rfl
    obtain ⟨ordinal,later⟩ := counts.ordinal cfg clientInfo
    rw [if_pos forwarder,PolicyConfig.grants,counted_,foreign]
    generalize l.shouldMitmToolboxForwarderBsdOrdinal cfg.build clientInfo = asked at ordinal later
    obtain ⟨next,allowForOrdinal,number⟩ := asked
    obtain ⟨rfl,rfl⟩ := Prod.mk.inj ordinal
    dsimp only
    by_cases allowed : cfg.allowsOrdinal
        (.ofNat ((counted.takeWhile (· == clientInfo.processId)).length + 1)) = true
    · rw [allowed]
      obtain ⟨counts,granted,told⟩ := shouldMitmForBsdSystem_spec later foreign (next.recordDecision clientInfo true
        .diagnosticOverride (.ofNat ((counted.takeWhile (· == clientInfo.processId)).length + 1)) cfg.build.toolboxForwarderBsdMitm.code) rfl
      exact ⟨granted,counts,told⟩
    · rw [Bool.eq_false_iff.mpr allowed]
      exact ⟨rfl,later,tells_refused (by decide) _ _⟩
  · have uncounted : cfg.isCounted .bsdSystem clientInfo = false := by
      rw [PolicyConfig.isCounted,foreign,Bool.eq_false_iff]
      intro asked
      simp only [Bool.and_eq_true,beq_iff_eq] at asked
      exact forwarder ⟨asked.1.2,asked.2⟩
    rw [if_neg forwarder,PolicyConfig.grants,uncounted,foreign]
    by_cases overridden : cfg.build.isDiagnosticOverrideEnabled clientInfo = true
    · rw [overridden,PolicyConfig.isDiagnosticOverrideEnabled,overridden]
      obtain ⟨counts,granted,told⟩ := shouldMitmForBsdSystem_spec counts foreign
        (l.recordDecision clientInfo true .diagnosticOverride 0 0) rfl
      exact ⟨granted,counts,told⟩
    · rw [Bool.eq_false_iff.mpr overridden,PolicyConfig.isDiagnosticOverrideEnabled,Bool.eq_false_iff.mpr overridden]
      exact ⟨rfl,counts,tells_refused (by decide) 0 0⟩

/-- A query of any target is granted by the policy, is told of, and is remembered where it counts. -/
theorem shouldMitm_spec (cfg : PolicyConfig) (counts : l.Counts counted) (target : MitmTarget) (clientInfo : MitmProcessInfo) :
    (l.shouldMitm cfg clientInfo target).2.1 = cfg.grants counted target clientInfo ∧
      (l.shouldMitm cfg clientInfo target).1.Counts
        (if cfg.isCounted target clientInfo then clientInfo.processId :: counted else counted) ∧
      Tells target clientInfo (l.shouldMitm cfg clientInfo target).2 := by
  have listed (heard : target ∉ silentTargets) :
      Tells target clientInfo (l.shouldMitmForService target clientInfo) := shouldMitmForService_tells fun _ => heard
  cases target with
  | nifmUser | bsdUser | notificationSystem => exact ⟨(Bool.and_true _).symm,counts,listed (by decide)⟩
  | nifmSystem => exact ⟨(shouldMitmNifmSystem_spec cfg counted clientInfo).1,counts,
    (shouldMitmNifmSystem_spec cfg counted clientInfo).2⟩
  | bsdSystem => exact shouldMitmBsdSystem_spec counts clientInfo
  | bsdAdmin =>
    obtain ⟨granted,told⟩ := shouldMitmUnlessDenylisted_spec cfg l (by decide : MitmTarget.bsdAdmin ∈ silentTargets)
      (cfg.isBsdAdminDenylistedProgram clientInfo) clientInfo
    refine ⟨granted.trans (congrArg _ ?_),counts,told⟩
    by_cases same : clientInfo.programId = cfg.qlaunchProgramId <;>
      simp [PolicyConfig.isBsdAdminDenylistedProgram,PolicyConfig.isDiagnosticOverrideEnabled,same]
  | sslUser =>
    obtain ⟨granted,told⟩ := shouldMitmUnlessDenylisted_spec cfg l (by decide : MitmTarget.sslUser ∈ silentTargets)
      (cfg.isBsdSystemDenylistedProgram clientInfo) clientInfo
    exact ⟨granted,counts,told⟩
  | sslSystem =>
    obtain ⟨granted,told⟩ := shouldMitmUnlessDenylisted_spec cfg l (by decide : MitmTarget.sslSystem ∈ silentTargets)
      (cfg.isBsdSystemDenylistedProgram clientInfo) clientInfo
    exact ⟨granted,counts,told⟩

theorem Counts.answers (counts : l.Counts counted) (cfg : PolicyConfig) (events : List MitmEvent) :
    (queryAnswers cfg l events).map (fun answer => (answer.target,answer.clientInfo)) =
        events.filterMap MitmEvent.query? ∧
      (queryAnswers cfg l events).map QueryAnswer.granted = cfg.decisions counted (events.filterMap MitmEvent.query?) ∧
      ∀ answer ∈ queryAnswers cfg l events, answer.Told := by
  induction events generalizing l counted with
  | nil => exact ⟨rfl,rfl,List.forall_mem_nil _⟩
  | cons event events ih =>
    cases event with
    | query target clientInfo =>
      obtain ⟨granted,later,told⟩ := shouldMitm_spec cfg counts target clientInfo
      obtain ⟨asked,decided,all⟩ := ih later
      refine ⟨congrArg ((target,clientInfo) :: ·) asked,?_,List.forall_mem_cons.mpr ⟨told,all⟩⟩
      exact congrArg₂ List.cons granted decided
    | accept target outcome => exact ih (counts.accept target.serviceName outcome)
    | destroy target => exact ih (counts.destroy target.serviceName)

end Liveness

/-- In every run of queries, connections and ends of sessions, each query is answered as the policy decides from the
queries before it alone, and the monitor is told so. -/
theorem queryAnswers_policy (cfg : PolicyConfig) (events : List MitmEvent) :
    (queryAnswers cfg .start events).map (fun answer => (answer.target,answer.clientInfo)) =
        events.filterMap MitmEvent.query? ∧
      (queryAnswers cfg .start events).map QueryAnswer.granted =
        cfg.decisions [] (events.filterMap MitmEvent.query?) ∧
      ∀ answer ∈ queryAnswers cfg .start events, answer.Told :=
  Liveness.counts_start.answers cfg events

end NxReverse.Probe
