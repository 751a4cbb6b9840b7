import Mathlib.Data.Finset.Card
import Mathlib.Data.UInt
import NxReverse.Lib.Runs
import NxReverse.Probe.Tables

/-! The two liveness counters of `bsd:s` connections: admission, acceptance with its two
ways to fail, and the destructor of a service object. A step is one completed call. -/
namespace NxReverse.Probe

open Text Runs

def wireguardProgramId : Nat := 0x010000000000EAD0
def netProbeProgramId : Nat := 0x010000000000EAD1

inductive ToolboxForwarderBsdMitmMode where
  | none | firstOnly | secondOnly | both
  deriving DecidableEq, Repr

def ToolboxForwarderBsdMitmMode.code : ToolboxForwarderBsdMitmMode → UInt32
  | none => 0
  | firstOnly => 1
  | secondOnly => 2
  | both => 3

/-- The build switches `ShouldMitmBsdSystem` reads. `bsdSystemOverrides` lists the programs
of `IsDiagnosticOverrideEnabled` for `bsd:s`, in the order they are tested. -/
structure BuildConfig where
  toolboxForwarderProgramId : Nat
  allowBsdSystemToolboxForwarder : Bool
  toolboxForwarderBsdMitm : ToolboxForwarderBsdMitmMode
  bsdSystemOverrides : List (Nat × Bool)

inductive ShouldMitmPolicyReason where
  | defaultAllow | selfProgram | diagnosticOverride | toolboxForwarderOrdinalDeny | bsdSystemNotAllowlisted
  deriving DecidableEq, Repr

structure PolicyDecision where
  clientInfo : MitmProcessInfo
  result : Bool
  reason : ShouldMitmPolicyReason
  pendingCount : UInt32
  activeCount : UInt32
  holderTag : UInt32
  totalDenials : UInt32
  detailValue3 : UInt32
  deriving DecidableEq, Repr

/-- `g_bsd_system_total_mitm_denials`, which nothing writes. -/
def bsdSystemTotalMitmDenials : UInt64 := 0

structure Liveness where
  bsdSystemPendingMitmSessions : UInt32
  bsdSystemActiveMitmSessions : UInt32
  toolboxForwarderBsdOrdinalPid : Nat
  toolboxForwarderBsdOrdinalCount : UInt32
  deriving DecidableEq, Repr

def Liveness.start : Liveness := ⟨0,0,0,0⟩

/-- The loop ends with the first exchange that succeeds, so it is one atomic decrement. -/
def decrementAtomicIfPositive (value : UInt32) : UInt32 := if value = 0 then 0 else value - 1

def isBsdSystemServiceName (serviceName : CString) : Bool := serviceName == "bsd:s".toList

def isSelfProgram (clientInfo : MitmProcessInfo) : Bool :=
  clientInfo.programId == wireguardProgramId || clientInfo.programId == netProbeProgramId

def BuildConfig.isDiagnosticOverrideEnabled (cfg : BuildConfig) (clientInfo : MitmProcessInfo) : Bool :=
  match (cfg.bsdSystemOverrides ++
    [(cfg.toolboxForwarderProgramId,cfg.allowBsdSystemToolboxForwarder)]).find? fun program =>
      program.1 == clientInfo.programId with
  | some program => program.2
  | none => false

namespace Liveness

def noteBsdSystemMitmPending (l : Liveness) : Liveness :=
  { l with bsdSystemPendingMitmSessions := l.bsdSystemPendingMitmSessions + 1 }

def promoteBsdSystemMitmPendingToActive (l : Liveness) : Liveness :=
  { l with
    bsdSystemPendingMitmSessions := decrementAtomicIfPositive l.bsdSystemPendingMitmSessions
    bsdSystemActiveMitmSessions := l.bsdSystemActiveMitmSessions + 1 }

def dropBsdSystemMitmPending (l : Liveness) : Liveness :=
  { l with bsdSystemPendingMitmSessions := decrementAtomicIfPositive l.bsdSystemPendingMitmSessions }

def dropBsdSystemMitmActive (l : Liveness) : Liveness :=
  { l with bsdSystemActiveMitmSessions := decrementAtomicIfPositive l.bsdSystemActiveMitmSessions }

/-- The ordinal counts the queries of the process that asked last. -/
def shouldMitmToolboxForwarderBsdOrdinal (cfg : BuildConfig) (l : Liveness) (clientInfo : MitmProcessInfo) :
    Liveness × Bool × UInt32 :=
  let count := if l.toolboxForwarderBsdOrdinalPid = clientInfo.processId
    then l.toolboxForwarderBsdOrdinalCount else 0
  let ordinal := count + 1
  let allowed :=
    match cfg.toolboxForwarderBsdMitm with
    | .none => false
    | .firstOnly => ordinal == 1
    | .secondOnly => ordinal == 2
    | .both => true
  ({ l with
      toolboxForwarderBsdOrdinalPid := clientInfo.processId
      toolboxForwarderBsdOrdinalCount := ordinal },allowed,ordinal)

def recordDecision (l : Liveness) (clientInfo : MitmProcessInfo) (result : Bool)
    (reason : ShouldMitmPolicyReason) (holderTag detailValue3 : UInt32) : PolicyDecision :=
  ⟨clientInfo,result,reason,l.bsdSystemPendingMitmSessions,l.bsdSystemActiveMitmSessions,holderTag,
    bsdSystemTotalMitmDenials.toUInt32,detailValue3⟩

/-- `ShouldMitmForService("bsd:s")` and the note that follows when it admits. -/
def shouldMitmForBsdSystem (l : Liveness) (clientInfo : MitmProcessInfo) :
    Liveness × Bool × List PolicyDecision :=
  let shouldMitm := !isSelfProgram clientInfo
  let decision := l.recordDecision clientInfo shouldMitm
    (if shouldMitm then .defaultAllow else .selfProgram) 0 0
  (if shouldMitm then l.noteBsdSystemMitmPending else l,shouldMitm,[decision])

def shouldMitmBsdSystem (cfg : BuildConfig) (l : Liveness) (clientInfo : MitmProcessInfo) :
    Liveness × Bool × List PolicyDecision :=
  if isSelfProgram clientInfo then (l,false,[l.recordDecision clientInfo false .selfProgram 0 0])
  else if clientInfo.programId = cfg.toolboxForwarderProgramId ∧ cfg.allowBsdSystemToolboxForwarder then
    let (l,allowForOrdinal,ordinal) := l.shouldMitmToolboxForwarderBsdOrdinal cfg clientInfo
    let decision := l.recordDecision clientInfo allowForOrdinal
      (if allowForOrdinal then .diagnosticOverride else .toolboxForwarderOrdinalDeny) ordinal
      cfg.toolboxForwarderBsdMitm.code
    if !allowForOrdinal then (l,false,[decision])
    else
      let (l,shouldMitm,decisions) := l.shouldMitmForBsdSystem clientInfo
      (l,shouldMitm,decision :: decisions)
  else if !cfg.isDiagnosticOverrideEnabled clientInfo then
    (l,false,[l.recordDecision clientInfo false .bsdSystemNotAllowlisted 0 0])
  else
    let decision := l.recordDecision clientInfo true .diagnosticOverride 0 0
    let (l,shouldMitm,decisions) := l.shouldMitmForBsdSystem clientInfo
    (l,shouldMitm,decision :: decisions)

/-- The destructor of a `PassiveMitmService` for `serviceName`. -/
def destroyService (l : Liveness) (serviceName : CString) : Liveness :=
  if isBsdSystemServiceName serviceName then l.dropBsdSystemMitmActive else l

end Liveness

inductive AcceptOutcome where
  | acknowledgeFailed | acceptFailed | accepted
  deriving DecidableEq, Repr

def Liveness.acceptMitmConnection (l : Liveness) (serviceName : CString) : AcceptOutcome → Liveness
  | .acknowledgeFailed => if isBsdSystemServiceName serviceName then l.dropBsdSystemMitmPending else l
  | .acceptFailed =>
    -- `AcceptMitmImpl` owned the new service object and has destroyed it when it returns.
    let destroyed := l.destroyService serviceName
    if isBsdSystemServiceName serviceName then destroyed.dropBsdSystemMitmPending else destroyed
  | .accepted => if isBsdSystemServiceName serviceName then l.promoteBsdSystemMitmPendingToActive else l

inductive LivenessEvent where
  | shouldMitm (clientInfo : MitmProcessInfo)
  | accept (serviceName : CString) (sessionId : SessionId) (outcome : AcceptOutcome)
  | destroy (serviceName : CString) (sessionId : SessionId)

def Liveness.step (cfg : BuildConfig) (l : Liveness) : LivenessEvent → Liveness
  | .shouldMitm clientInfo => (l.shouldMitmBsdSystem cfg clientInfo).1
  | .accept serviceName _ outcome => l.acceptMitmConnection serviceName outcome
  | .destroy serviceName _ => l.destroyService serviceName

/-- The `bsd:s` connections as they really are: admitted and not resolved, and live. -/
structure Connections where
  unresolved : Nat
  live : Finset SessionId

namespace Connections

def none : Connections := ⟨0,∅⟩

/-- Whether the query of the event admits a connection. -/
def admits (cfg : BuildConfig) (l : Liveness) (clientInfo : MitmProcessInfo) : Bool :=
  (l.shouldMitmBsdSystem cfg clientInfo).2.1

def observe (cfg : BuildConfig) (l : Liveness) (g : Connections) : LivenessEvent → Connections
  | .shouldMitm clientInfo => if admits cfg l clientInfo then { g with unresolved := g.unresolved + 1 } else g
  | .accept serviceName sessionId outcome =>
    if isBsdSystemServiceName serviceName then
      ⟨g.unresolved - 1,if outcome = .accepted then insert sessionId g.live else g.live⟩
    else g
  | .destroy serviceName sessionId =>
    if isBsdSystemServiceName serviceName then { g with live := g.live.erase sessionId } else g

end Connections

def observeLiveness (cfg : BuildConfig) (s : Liveness × Connections) (e : LivenessEvent) :
    Liveness × Connections :=
  (s.1.step cfg e,s.2.observe cfg s.1 e)

/-- Only admitted connections are accepted, session ids are new, and only a live object is
destroyed. -/
def Possible (s : Liveness × Connections) : LivenessEvent → Prop
  | .shouldMitm _ => True
  | .accept serviceName sessionId outcome => isBsdSystemServiceName serviceName = true →
      0 < s.2.unresolved ∧ (outcome = .accepted → sessionId ∉ s.2.live)
  | .destroy serviceName sessionId => isBsdSystemServiceName serviceName = true → sessionId ∈ s.2.live

/-- Both counters tell the truth. -/
structure CountersExact (s : Liveness × Connections) : Prop where
  active : s.1.bsdSystemActiveMitmSessions.toNat = s.2.live.card
  pending : s.1.bsdSystemPendingMitmSessions.toNat = s.2.unresolved

/-- No service object dies in a failed accept while another session is live, and neither
count reaches 2^32. -/
def KeepsCounters (cfg : BuildConfig) (s : Liveness × Connections) : LivenessEvent → Prop
  | .shouldMitm clientInfo => Connections.admits cfg s.1 clientInfo = true → s.2.unresolved + 1 < 2 ^ 32
  | .accept serviceName _ outcome => isBsdSystemServiceName serviceName = true →
      (outcome = .acceptFailed → s.2.live = ∅) ∧ (outcome = .accepted → s.2.live.card + 1 < 2 ^ 32)
  | .destroy .. => True

theorem toNat_decrementAtomicIfPositive (value : UInt32) :
    (decrementAtomicIfPositive value).toNat = value.toNat - 1 := by
  by_cases zero : value = 0
  · simp [decrementAtomicIfPositive,zero]
  · have positive : value.toNat ≠ 0 := fun h => zero (UInt32.toNat_inj.mp h)
    have small := value.toNat_lt
    simp only [decrementAtomicIfPositive,zero,if_false,UInt32.toNat_sub]
    have one : (1 : UInt32).toNat = 1 := rfl
    omega

theorem toNat_add_one (value : UInt32) : (value + 1).toNat = (value.toNat + 1) % 2 ^ 32 := by
  simp [UInt32.toNat_add]

theorem shouldMitmForBsdSystem_counters (l : Liveness) (clientInfo : MitmProcessInfo) :
    let result := l.shouldMitmForBsdSystem clientInfo
    result.1.bsdSystemActiveMitmSessions = l.bsdSystemActiveMitmSessions ∧
      result.1.bsdSystemPendingMitmSessions =
        if result.2.1 then l.bsdSystemPendingMitmSessions + 1 else l.bsdSystemPendingMitmSessions := by
  cases self : isSelfProgram clientInfo <;>
    simp [Liveness.shouldMitmForBsdSystem,self,Liveness.noteBsdSystemMitmPending]

/-- An admission counts one pending connection; a denial counts nothing. -/
theorem shouldMitmBsdSystem_counters (cfg : BuildConfig) (l : Liveness) (clientInfo : MitmProcessInfo) :
    let after := (l.shouldMitmBsdSystem cfg clientInfo).1
    after.bsdSystemActiveMitmSessions = l.bsdSystemActiveMitmSessions ∧
      after.bsdSystemPendingMitmSessions =
        if Connections.admits cfg l clientInfo then l.bsdSystemPendingMitmSessions + 1
        else l.bsdSystemPendingMitmSessions := by
  simp only [Connections.admits,Liveness.shouldMitmBsdSystem]
  split
  · simp
  · split
    · have active : (l.shouldMitmToolboxForwarderBsdOrdinal cfg clientInfo).1.bsdSystemActiveMitmSessions =
          l.bsdSystemActiveMitmSessions := rfl
      have pending : (l.shouldMitmToolboxForwarderBsdOrdinal cfg clientInfo).1.bsdSystemPendingMitmSessions =
          l.bsdSystemPendingMitmSessions := rfl
      generalize l.shouldMitmToolboxForwarderBsdOrdinal cfg clientInfo = result at active pending
      obtain ⟨counted,allowed,ordinal⟩ := result
      simp only at active pending
      have admitted := shouldMitmForBsdSystem_counters counted clientInfo
      rw [active,pending] at admitted
      cases allowed with
      | false => exact ⟨active,pending⟩
      | true => exact admitted
    · split
      · simp
      · exact shouldMitmForBsdSystem_counters l clientInfo

theorem toNat_add_one_iff {value : UInt32} {count : Nat} (exact : value.toNat = count) :
    (value + 1).toNat = count + 1 ↔ count + 1 < 2 ^ 32 := by
  have small := value.toNat_lt
  rw [toNat_add_one,exact]
  omega

/-- Every resolution takes one pending connection; the destructor of a failed accept counts a session down that was
never counted up. -/
theorem acceptMitmConnection_counters (l : Liveness) {serviceName : CString}
    (isBsd : isBsdSystemServiceName serviceName = true) (outcome : AcceptOutcome) :
    let after := l.acceptMitmConnection serviceName outcome
    after.bsdSystemPendingMitmSessions = decrementAtomicIfPositive l.bsdSystemPendingMitmSessions ∧
      after.bsdSystemActiveMitmSessions = match outcome with
        | .acknowledgeFailed => l.bsdSystemActiveMitmSessions
        | .acceptFailed => decrementAtomicIfPositive l.bsdSystemActiveMitmSessions
        | .accepted => l.bsdSystemActiveMitmSessions + 1 := by
  cases outcome <;> simp [Liveness.acceptMitmConnection,Liveness.destroyService,isBsd,Liveness.dropBsdSystemMitmPending,
    Liveness.dropBsdSystemMitmActive,Liveness.promoteBsdSystemMitmPendingToActive]

theorem observeLiveness_accept_other (cfg : BuildConfig) (s : Liveness × Connections) {serviceName : CString}
    (other : isBsdSystemServiceName serviceName = false) (sessionId : SessionId) (outcome : AcceptOutcome) :
    observeLiveness cfg s (.accept serviceName sessionId outcome) = s := by
  cases outcome <;> simp [observeLiveness,Liveness.step,Liveness.acceptMitmConnection,Liveness.destroyService,
    Connections.observe,other]

theorem observeLiveness_destroy_other (cfg : BuildConfig) (s : Liveness × Connections) {serviceName : CString}
    (other : isBsdSystemServiceName serviceName = false) (sessionId : SessionId) :
    observeLiveness cfg s (.destroy serviceName sessionId) = s := by
  simp [observeLiveness,Liveness.step,Liveness.destroyService,Connections.observe,other]

section Steps

variable {cfg : BuildConfig} {l : Liveness} {g : Connections} (exact : CountersExact (l,g))
include exact

theorem countersExact_shouldMitm (clientInfo : MitmProcessInfo) :
    CountersExact (observeLiveness cfg (l,g) (.shouldMitm clientInfo)) ↔
      KeepsCounters cfg (l,g) (.shouldMitm clientInfo) := by
  obtain ⟨activeAfter,pendingAfter⟩ := shouldMitmBsdSystem_counters cfg l clientInfo
  have live : (observeLiveness cfg (l,g) (.shouldMitm clientInfo)).2.live = g.live := by
    rw [observeLiveness,Connections.observe]
    split <;> rfl
  have active : (observeLiveness cfg (l,g) (.shouldMitm clientInfo)).1.bsdSystemActiveMitmSessions.toNat =
      (observeLiveness cfg (l,g) (.shouldMitm clientInfo)).2.live.card := by
    rw [live,observeLiveness,Liveness.step,activeAfter]
    exact exact.active
  cases admitted : Connections.admits cfg l clientInfo with
  | false =>
    rw [admitted] at pendingAfter
    refine iff_of_true ⟨active,?_⟩ fun admits => absurd (admitted.symm.trans admits) Bool.false_ne_true
    simpa [observeLiveness,Liveness.step,Connections.observe,admitted,pendingAfter] using exact.pending
  | true =>
    rw [admitted,if_pos rfl] at pendingAfter
    have pending : (observeLiveness cfg (l,g) (.shouldMitm clientInfo)).1.bsdSystemPendingMitmSessions.toNat =
        (observeLiveness cfg (l,g) (.shouldMitm clientInfo)).2.unresolved ↔ g.unresolved + 1 < 2 ^ 32 := by
      rw [observeLiveness,Liveness.step,pendingAfter,Connections.observe,if_pos admitted]
      exact toNat_add_one_iff exact.pending
    exact ⟨fun after _ => pending.mp after.pending,fun small => ⟨active,pending.mpr (small admitted)⟩⟩

theorem countersExact_accept {serviceName : CString} {sessionId : SessionId} {outcome : AcceptOutcome}
    (possible : Possible (l,g) (.accept serviceName sessionId outcome)) :
    CountersExact (observeLiveness cfg (l,g) (.accept serviceName sessionId outcome)) ↔
      KeepsCounters cfg (l,g) (.accept serviceName sessionId outcome) := by
  cases isBsd : isBsdSystemServiceName serviceName with
  | false =>
    rw [observeLiveness_accept_other cfg (l,g) isBsd]
    exact iff_of_true exact fun same => absurd (isBsd.symm.trans same) Bool.false_ne_true
  | true =>
    obtain ⟨admitted,fresh⟩ := possible isBsd
    obtain ⟨pendingAfter,activeAfter⟩ := acceptMitmConnection_counters l isBsd outcome
    have pending : (observeLiveness cfg (l,g) (.accept serviceName sessionId outcome)).1.bsdSystemPendingMitmSessions.toNat =
        (observeLiveness cfg (l,g) (.accept serviceName sessionId outcome)).2.unresolved := by
      rw [observeLiveness,Liveness.step,pendingAfter,toNat_decrementAtomicIfPositive,exact.pending,Connections.observe,
        if_pos isBsd]
    have active : CountersExact (observeLiveness cfg (l,g) (.accept serviceName sessionId outcome)) ↔
        (l.acceptMitmConnection serviceName outcome).bsdSystemActiveMitmSessions.toNat =
          (if outcome = .accepted then insert sessionId g.live else g.live).card := by
      have live : (observeLiveness cfg (l,g) (.accept serviceName sessionId outcome)).2.live =
          if outcome = .accepted then insert sessionId g.live else g.live := by
        simp [observeLiveness,Connections.observe,isBsd]
      rw [← live]
      exact ⟨fun after => after.active,fun right => ⟨right,pending⟩⟩
    rw [active,activeAfter,KeepsCounters]
    have before : l.bsdSystemActiveMitmSessions.toNat = g.live.card := exact.active
    cases outcome with
    | acknowledgeFailed => exact iff_of_true before fun _ => ⟨nofun,nofun⟩
    | acceptFailed =>
      have kept : (if AcceptOutcome.acceptFailed = .accepted then insert sessionId g.live else g.live) = g.live :=
        if_neg fun same => by cases same
      rw [toNat_decrementAtomicIfPositive,before,kept]
      constructor
      · intro same _
        have nobody : g.live.card = 0 := by omega
        exact ⟨fun _ => Finset.card_eq_zero.mp nobody,nofun⟩
      · intro alone
        rw [(alone isBsd).1 rfl]
        rfl
    | accepted =>
      rw [if_pos rfl,Finset.card_insert_of_notMem (fresh rfl),toNat_add_one_iff before]
      exact ⟨fun small _ => ⟨nofun,fun _ => small⟩,fun small => (small isBsd).2 rfl⟩

theorem countersExact_destroy {serviceName : CString} {sessionId : SessionId}
    (possible : Possible (l,g) (.destroy serviceName sessionId)) :
    CountersExact (observeLiveness cfg (l,g) (.destroy serviceName sessionId)) := by
  cases isBsd : isBsdSystemServiceName serviceName with
  | false =>
    rw [observeLiveness_destroy_other cfg (l,g) isBsd]
    exact exact
  | true =>
    have isLive : sessionId ∈ g.live := possible isBsd
    constructor
    · have before : l.bsdSystemActiveMitmSessions.toNat = g.live.card := exact.active
      simp [observeLiveness,Liveness.step,Liveness.destroyService,Connections.observe,isBsd,
        Liveness.dropBsdSystemMitmActive,toNat_decrementAtomicIfPositive,before,Finset.card_erase_of_mem isLive]
    · simpa [observeLiveness,Liveness.step,Liveness.destroyService,Connections.observe,isBsd,
        Liveness.dropBsdSystemMitmActive] using exact.pending

end Steps

/-- From exact counters, a step leaves them exact under its condition and only then. -/
theorem countersExact_step (cfg : BuildConfig) (s : Liveness × Connections) (e : LivenessEvent)
    (exact : CountersExact s) (possible : Possible s e) :
    CountersExact (observeLiveness cfg s e) ↔ KeepsCounters cfg s e := by
  obtain ⟨l,g⟩ := s
  cases e with
  | shouldMitm clientInfo => exact countersExact_shouldMitm exact clientInfo
  | accept serviceName sessionId outcome => exact countersExact_accept exact possible
  | destroy serviceName sessionId => exact iff_of_true (countersExact_destroy exact possible) trivial

/-- Over a whole run the counters are exact in every state exactly when every step meets
the condition. -/
theorem countersExact_iff (cfg : BuildConfig) {events : List LivenessEvent}
    (possible : Guarded (observeLiveness cfg) Possible (.start,.none) events) :
    (∀ before after, events = before ++ after →
      CountersExact (before.foldl (observeLiveness cfg) (.start,.none))) ↔
    Guarded (observeLiveness cfg) (KeepsCounters cfg) (.start,.none) events :=
  invariant_iff_guarded CountersExact (countersExact_step cfg) possible ⟨rfl,rfl⟩

def toolboxBuild : BuildConfig := ⟨0x0500000000000001,true,.both,[]⟩

def secondAcceptFails : List LivenessEvent :=
  [.shouldMitm ⟨1,0x0500000000000001⟩,.accept "bsd:s".toList 1 .accepted,
    .shouldMitm ⟨2,0x0500000000000001⟩,.accept "bsd:s".toList 2 .acceptFailed]

/-- Two clients wait, and the accept of the first one fails before the other is accepted. -/
def firstAcceptFails : List LivenessEvent :=
  [.shouldMitm ⟨1,0x0500000000000001⟩,.shouldMitm ⟨2,0x0500000000000001⟩,.accept "bsd:s".toList 1 .acceptFailed,
    .accept "bsd:s".toList 2 .accepted]

theorem countersExact_twoClients :
    let state := firstAcceptFails.foldl (observeLiveness toolboxBuild) (.start,.none)
    CountersExact state ∧ state.2.live = {2} ∧ state.1.bsdSystemActiveMitmSessions = 1 := by
  refine ⟨(countersExact_iff toolboxBuild ?_).mpr ?_ firstAcceptFails [] (List.append_nil _).symm,by decide,by decide⟩
  · exact ⟨trivial,trivial,fun _ => ⟨by decide,nofun⟩,fun _ => ⟨by decide,fun _ => by decide⟩,trivial⟩
  · exact ⟨fun _ => by decide,fun _ => by decide,fun _ => ⟨fun _ => by decide,nofun⟩,
      fun _ => ⟨nofun,fun _ => by decide⟩,trivial⟩

/-- The live session of the first client is no longer counted. -/
theorem counters_not_exact :
    ¬∀ cfg events, Guarded (observeLiveness cfg) Possible (.start,.none) events →
      ∀ before after, events = before ++ after →
        CountersExact (before.foldl (observeLiveness cfg) (.start,.none)) := by
  intro exact
  have possible : Guarded (observeLiveness toolboxBuild) Possible (.start,.none) secondAcceptFails :=
    ⟨trivial,fun _ => ⟨by decide,fun _ => by decide⟩,trivial,
      fun _ => ⟨by decide,fun h => by simp at h⟩,trivial⟩
  have final := (exact toolboxBuild secondAcceptFails possible secondAcceptFails [] (by simp)).active
  exact absurd final (by decide)

end NxReverse.Probe
