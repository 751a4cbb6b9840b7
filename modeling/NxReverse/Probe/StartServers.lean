import NxReverse.Lib.Programs
import NxReverse.Lib.Text
import NxReverse.Probe.Lifecycle

/-! `StartServers` and `StopServers` as programs over the calls of the platform that they make, and how
each exit leaves the servers, the threads and the registrations. -/
namespace NxReverse.Probe

open Text Program

inductive ServerThread where
  | control | mitm | bootWatch | watchdog
  deriving DecidableEq, Repr

inductive ServerManager where
  | control | mitm
  deriving DecidableEq, Repr

inductive MitmTarget where
  | nifmUser | nifmSystem | bsdUser | bsdSystem | bsdAdmin | sslUser | sslSystem | notificationSystem
  deriving DecidableEq, Repr

namespace MitmTarget

def serviceName : MitmTarget → CString
  | nifmUser => "nifm:u".toList
  | nifmSystem => "nifm:s".toList
  | bsdUser => "bsd:u".toList
  | bsdSystem => "bsd:s".toList
  | bsdAdmin => "bsd:a".toList
  | sslUser => "ssl".toList
  | sslSystem => "ssl:s".toList
  | notificationSystem => "notif:s".toList

def settingKey : MitmTarget → CString
  | nifmUser => "enable_nifm_u".toList
  | nifmSystem => "enable_nifm_s".toList
  | bsdUser => "enable_bsd_u".toList
  | bsdSystem => "enable_bsd_s".toList
  | bsdAdmin => "enable_bsd_a".toList
  | sslUser => "enable_ssl".toList
  | sslSystem => "enable_ssl_s".toList
  | notificationSystem => "enable_notif_s".toList

theorem serviceName_injective {first second : MitmTarget} (same : first.serviceName = second.serviceName) :
    first = second := by
  revert same
  cases first <;> cases second <;> decide

end MitmTarget

def mitmTargetConfigs : List MitmTarget :=
  [.nifmUser,.nifmSystem,.bsdUser,.bsdSystem,.bsdAdmin,.sslUser,.sslSystem,.notificationSystem]

theorem mem_mitmTargetConfigs (target : MitmTarget) : target ∈ mitmTargetConfigs := by
  cases target <;> decide

def bootWatchServices : List CString := ["sfdnsres".toList,"dns:priv".toList,"nsd:u".toList]

structure SettingsItem where
  size : Nat
  value : UInt8
  deriving DecidableEq, Repr

structure HasMitmAnswer where
  rc : UInt32
  hasMitm : Bool
  deriving DecidableEq, Repr

inductive ServerCommand where
  | getSettingsItemValue (key : CString)
  | hasMitm (serviceName : CString)
  | uninstallMitm (serviceName : CString)
  | constructServerManager (manager : ServerManager)
  | destroyServerManager (manager : ServerManager)
  | registerObjectForServer (serviceName : CString)
  | registerMitmServer (target : MitmTarget)
  | requestStopProcessing (manager : ServerManager)
  | createThread (thread : ServerThread)
  | startThread (thread : ServerThread)
  | waitForThreadReady (thread : ServerThread)
  | waitThread (thread : ServerThread)
  | destroyThread (thread : ServerThread)
  deriving DecidableEq, Repr

/-- A ready wait is answered with whether the event was signalled in time. -/
abbrev ServerCommand.Answer : ServerCommand → Type
  | getSettingsItemValue _ => SettingsItem
  | hasMitm _ => HasMitmAnswer
  | uninstallMitm _ | registerObjectForServer _ | registerMitmServer _ | createThread _ => UInt32
  | waitForThreadReady _ => Bool
  | constructServerManager _ | destroyServerManager _ | requestStopProcessing _ | startThread _ | waitThread _
  | destroyThread _ => Unit

abbrev ServerProgram := Program ServerCommand.Answer

abbrev ServerExchange := Exchange ServerCommand.Answer

abbrev request (command : ServerCommand) : ServerProgram command.Answer := perform command

def rFailed (rc : UInt32) : Bool := rc != 0

/-- The globals; a manager is there unless its pointer is null. -/
structure Servers where
  controlServerManager : Bool
  mitmServerManager : Bool
  controlThreadStarted : Bool
  mitmThreadStarted : Bool
  bootWatchThreadStarted : Bool
  watchdogThreadStarted : Bool
  serversStarted : Bool
  mitmTargetEnabled : MitmTarget → Bool
  mitmTargetRegistrationOwned : MitmTarget → Bool

namespace Servers

def threadStarted (s : Servers) : ServerThread → Bool
  | .control => s.controlThreadStarted
  | .mitm => s.mitmThreadStarted
  | .bootWatch => s.bootWatchThreadStarted
  | .watchdog => s.watchdogThreadStarted

def setThreadStarted (s : Servers) (value : Bool) : ServerThread → Servers
  | .control => { s with controlThreadStarted := value }
  | .mitm => { s with mitmThreadStarted := value }
  | .bootWatch => { s with bootWatchThreadStarted := value }
  | .watchdog => { s with watchdogThreadStarted := value }

theorem setThreadStarted_self {s : Servers} {thread : ServerThread} {value : Bool}
    (same : s.threadStarted thread = value) : s.setThreadStarted value thread = s := by
  subst same
  cases thread <;> rfl

def setEnabled (s : Servers) (target : MitmTarget) (value : Bool) : Servers :=
  { s with mitmTargetEnabled := fun other => if other = target then value else s.mitmTargetEnabled other }

def setOwned (s : Servers) (target : MitmTarget) (value : Bool) : Servers :=
  { s with mitmTargetRegistrationOwned := fun other =>
      if other = target then value else s.mitmTargetRegistrationOwned other }

end Servers

def loadMitmTargetSettings : List MitmTarget → Servers → ServerProgram Servers
  | [],s => return s
  | target :: rest,s => do
    let item ← request (.getSettingsItemValue target.settingKey)
    loadMitmTargetSettings rest (s.setEnabled target (item.size == 1 && item.value != 0))

def logHasMitmStates : List CString → ServerProgram Unit
  | [] => return ()
  | serviceName :: rest => do
    let _ ← request (.hasMitm serviceName)
    logHasMitmStates rest

def logResolverHasMitmStates : ServerProgram Unit := logHasMitmStates bootWatchServices

def logAllHasMitmStates : ServerProgram Unit := logHasMitmStates (mitmTargetConfigs.map MitmTarget.serviceName)

def logEnabledTargetHasMitmStates (s : Servers) : ServerProgram Unit :=
  logHasMitmStates ((mitmTargetConfigs.filter s.mitmTargetEnabled).map MitmTarget.serviceName)

def uninstallOwnedMitmRegistration (target : MitmTarget) (s : Servers) : ServerProgram Servers := do
  if !s.mitmTargetRegistrationOwned target then return s
  else
  let answer ← request (.hasMitm target.serviceName)
  if !rFailed answer.rc && answer.hasMitm then
    let _ ← request (.uninstallMitm target.serviceName)
  let _ ← request (.hasMitm target.serviceName)
  return s.setOwned target false

def uninstallOwnedMitmRegistrations : List MitmTarget → Servers → ServerProgram Servers
  | [],s => return s
  | target :: rest,s => do
    let s ← uninstallOwnedMitmRegistration target s
    uninstallOwnedMitmRegistrations rest s

/-- The wait for a started thread to end. -/
def stopThread (thread : ServerThread) (s : Servers) : ServerProgram Servers := do
  if !s.threadStarted thread then return s
  else
  request (.waitThread thread)
  request (.destroyThread thread)
  return s.setThreadStarted false thread

def stopAndRetainControlServerManager (s : Servers) : ServerProgram Servers := do
  if !s.controlServerManager then return s
  else
  request (.requestStopProcessing .control)
  let s ← stopThread .control s
  return { s with controlServerManager := false }

def stopBootWatchThread : Servers → ServerProgram Servers := stopThread .bootWatch

def stopWatchdogThread : Servers → ServerProgram Servers := stopThread .watchdog

def stopAndRetainMitmServerManager (logSnapshots : Bool) (s : Servers) : ServerProgram Servers := do
  if !s.mitmServerManager then return s
  else
  if logSnapshots then logAllHasMitmStates
  request (.requestStopProcessing .mitm)
  let s ← stopThread .mitm s
  let s ← uninstallOwnedMitmRegistrations mitmTargetConfigs s
  let s := { s with mitmServerManager := false }
  if logSnapshots then logAllHasMitmStates
  return s

structure ServerCounts where
  requested : Nat
  registered : Nat
  failed : Nat
  deriving DecidableEq, Repr

def registerMitmServers : List MitmTarget → ServerCounts → Servers → ServerProgram (ServerCounts × Servers)
  | [],counts,s => return (counts,s)
  | target :: rest,counts,s => do
    if !s.mitmTargetEnabled target then registerMitmServers rest counts s
    else
    let counts := { counts with requested := counts.requested + 1 }
    let _ ← request (.hasMitm target.serviceName)
    let rc ← request (.registerMitmServer target)
    let _ ← request (.hasMitm target.serviceName)
    if !rFailed rc then
      registerMitmServers rest { counts with registered := counts.registered + 1 } (s.setOwned target true)
    else registerMitmServers rest { counts with failed := counts.failed + 1 } s

/-- A thread without which the servers run as well. -/
def startOptionalThread (thread : ServerThread) (s : Servers) : ServerProgram Servers := do
  let rc ← request (.createThread thread)
  if rFailed rc then return s
  else
  request (.startThread thread)
  let _ ← request (.waitForThreadReady thread)
  return s.setThreadStarted true thread

/-- From the MITM server manager on. -/
def startMitmServers (s : Servers) : ServerProgram (Bool × Servers) := do
  let tearDown (s : Servers) : ServerProgram Servers := do
    let s ← stopAndRetainMitmServerManager false s
    stopAndRetainControlServerManager s
  request (.constructServerManager .mitm)
  let (counts,s) ← registerMitmServers mitmTargetConfigs ⟨0,0,0⟩ { s with mitmServerManager := true }
  if counts.failed ≠ 0 then
    logEnabledTargetHasMitmStates s
    let s ← tearDown s
    logEnabledTargetHasMitmStates s
    return (false,s)
  else if counts.registered = 0 then return (true,{ s with serversStarted := true })
  else
  let rc ← request (.createThread .mitm)
  if rFailed rc then
    let s ← tearDown s
    return (false,s)
  else
  request (.startThread .mitm)
  let s := s.setThreadStarted true .mitm
  let ready ← request (.waitForThreadReady .mitm)
  if !ready then
    let s ← tearDown s
    return (false,s)
  else
  let s ← startOptionalThread .bootWatch { s with serversStarted := true }
  let s ← startOptionalThread .watchdog s
  return (true,s)

def startServers (s : Servers) : ServerProgram (Bool × Servers) := do
  if s.serversStarted then return (true,s)
  else
  let s ← loadMitmTargetSettings mitmTargetConfigs s
  logResolverHasMitmStates
  request (.constructServerManager .control)
  let s := { s with controlServerManager := true }
  let rc ← request (.registerObjectForServer "wgp:ctl".toList)
  if rFailed rc then
    request (.destroyServerManager .control)
    return (false,{ s with controlServerManager := false })
  else
  let rc ← request (.createThread .control)
  if rFailed rc then
    request (.destroyServerManager .control)
    return (false,{ s with controlServerManager := false })
  else
  request (.startThread .control)
  let s := s.setThreadStarted true .control
  let ready ← request (.waitForThreadReady .control)
  if !ready then
    let s ← stopAndRetainControlServerManager s
    return (false,s)
  else startMitmServers s

def stopServers (s : Servers) : ServerProgram Servers := do
  if !s.serversStarted && !s.controlServerManager && !s.mitmServerManager then return s
  else
  let s ← stopBootWatchThread s
  let s ← stopWatchdogThread s
  let s ← stopAndRetainMitmServerManager true s
  let s ← stopAndRetainControlServerManager s
  return { s with serversStarted := false }

/-- What a call does to a thread. -/
def threadAfter (thread : ServerThread) (state : ThreadState) : ServerCommand → ThreadState
  | .startThread other => if other = thread then .running else state
  | .waitThread other => if other = thread ∧ state = .running then .finished else state
  | .destroyThread other => if other = thread ∧ state = .finished then .absent else state
  | _ => state

def threadRun (thread : ServerThread) (state : ThreadState) (trace : List ServerExchange) : ThreadState :=
  trace.foldl (fun state e => threadAfter thread state e.command) state

/-- The registration that a call gains. -/
def registers : ServerExchange → Option MitmTarget
  | ⟨.registerMitmServer target,rc⟩ => if rFailed rc then none else some target
  | _ => none

/-- `HasMitm` reports a registration. -/
def HasMitmAnswer.reports (answer : HasMitmAnswer) : Bool := !rFailed answer.rc && answer.hasMitm

/-- Where a service is asked for first, its registration is uninstalled if it is reported. -/
def Checked (trace : List ServerExchange) (target : MitmTarget) : Prop :=
  ∃ asked answer behind, trace = asked ++ ⟨.hasMitm target.serviceName,answer⟩ :: behind ∧
    (∀ e ∈ asked, e.command ≠ .hasMitm target.serviceName) ∧
    (answer.reports = true → ∃ rc rest, behind = ⟨.uninstallMitm target.serviceName,rc⟩ :: rest)

/-- Behind the stop of the MITM server manager a registration is uninstalled if it is reported. -/
def Relinquished (trace : List ServerExchange) (target : MitmTarget) : Prop :=
  ∃ before behind, trace = before ++ ⟨.requestStopProcessing .mitm,()⟩ :: behind ∧ Checked behind target

def ThreadsEnded (trace : List ServerExchange) : Prop :=
  ∀ thread before after, trace = before ++ ⟨.startThread thread,()⟩ :: after →
    [.waitThread thread,.destroyThread thread].Sublist (after.map Exchange.command)

def Runs (trace : List ServerExchange) (thread : ServerThread) : Prop :=
  ∃ before after, trace = before ++ ⟨.startThread thread,()⟩ :: after ∧ ∀ e ∈ after, e.command ≠ .waitThread thread

structure Servers.Stopped (s : Servers) : Prop where
  controlServerManager : s.controlServerManager = false
  mitmServerManager : s.mitmServerManager = false
  threads : ∀ thread, s.threadStarted thread = false
  serversStarted : s.serversStarted = false
  owned : ∀ target, s.mitmTargetRegistrationOwned target = false

section Threads

variable {thread : ServerThread} {state : ThreadState} {trace first second : List ServerExchange}

theorem threadRun_append : threadRun thread state (first ++ second) = threadRun thread (threadRun thread state first) second :=
  List.foldl_append

theorem ended_sublist (thread : ServerThread) (trace : List ServerExchange) :
    (threadRun thread .running trace = .absent →
      [.waitThread thread,.destroyThread thread].Sublist (trace.map Exchange.command)) ∧
    (threadRun thread .finished trace = .absent → [.destroyThread thread].Sublist (trace.map Exchange.command)) := by
  induction trace with
  | nil =>
    refine ⟨fun ended => ?_,fun ended => ?_⟩
    · cases ended
    · cases ended
  | cons e rest ih =>
    obtain ⟨command,answer⟩ := e
    refine ⟨fun ended => ?_,fun ended => ?_⟩
    · change threadRun thread (threadAfter thread .running command) rest = .absent at ended
      by_cases waits : command = .waitThread thread
      · subst waits
        rw [threadAfter,if_pos ⟨rfl,rfl⟩] at ended
        exact (ih.2 ended).cons_cons _
      · have still : threadAfter thread .running command = .running := by
          cases command <;> simp_all [threadAfter]
        rw [still] at ended
        exact (ih.1 ended).cons _
    · change threadRun thread (threadAfter thread .finished command) rest = .absent at ended
      by_cases destroys : command = .destroyThread thread
      · subst destroys
        exact List.Sublist.cons_cons _ (List.nil_sublist _)
      by_cases starts : command = .startThread thread
      · subst starts
        rw [threadAfter,if_pos rfl] at ended
        exact (List.sublist_cons_self _ _).trans ((ih.1 ended).cons _)
      · have still : threadAfter thread .finished command = .finished := by
          cases command <;> simp_all [threadAfter]
        rw [still] at ended
        exact (ih.2 ended).cons _

theorem threadsEnded (ended : ∀ thread, threadRun thread .absent trace = .absent) : ThreadsEnded trace := by
  rintro thread before after rfl
  have whole := ended thread
  rw [threadRun_append] at whole
  change threadRun thread (threadAfter thread _ (.startThread thread)) after = .absent at whole
  rw [threadAfter,if_pos rfl] at whole
  exact (ended_sublist thread after).1 whole

/-- A thread that runs in the end was running and not waited for, or was started. -/
theorem runs_or (thread : ServerThread) (trace : List ServerExchange) (state : ThreadState)
    (running : threadRun thread state trace = .running) :
    (state = .running ∧ ∀ e ∈ trace, e.command ≠ .waitThread thread) ∨ Runs trace thread := by
  induction trace generalizing state with
  | nil => exact .inl ⟨running,List.forall_mem_nil _⟩
  | cons e rest ih =>
    rcases ih _ running with ⟨here,unwaited⟩ | ⟨before,after,rfl,unwaited⟩
    · obtain ⟨command,answer⟩ := e
      by_cases starts : command = .startThread thread
      · subst starts
        exact .inr ⟨[],rest,rfl,unwaited⟩
      · refine .inl ?_
        have both : state = .running ∧ command ≠ .waitThread thread := by
          cases command <;> cases state <;> simp_all [threadAfter,ite_eq_iff]
        exact ⟨both.1,List.forall_mem_cons.mpr ⟨both.2,unwaited⟩⟩
    · exact .inr ⟨e :: before,after,rfl,unwaited⟩

end Threads

def Servers.threadState (s : Servers) (thread : ServerThread) : ThreadState :=
  if s.threadStarted thread then .running else .absent

/-- A part of a run that registers nothing and keeps the flags of the threads true to what it does. -/
structure Steps (s : Servers) (trace : List ServerExchange) (t : Servers) : Prop where
  threads : ∀ thread, threadRun thread (s.threadState thread) trace = t.threadState thread
  unregistered : ∀ e ∈ trace, registers e = none

/-- A call that touches no thread and registers nothing. -/
def ServerCommand.Passive (command : ServerCommand) : Prop :=
  (∀ thread state, threadAfter thread state command = state) ∧ ∀ answer, registers ⟨command,answer⟩ = none

section Steps

variable {s t u : Servers} {trace first second : List ServerExchange} {target : MitmTarget}

theorem Steps.append (before : Steps s first t) (behind : Steps t second u) : Steps s (first ++ second) u where
  threads thread := by
    rw [threadRun_append,before.threads,behind.threads]
  unregistered := List.forall_mem_append.mpr ⟨before.unregistered,behind.unregistered⟩

theorem steps_passive (passive : ∀ e ∈ trace, e.command.Passive) (same : s.threadState = t.threadState) :
    Steps s trace t where
  threads thread := by
    rw [← same]
    induction trace with
    | nil => rfl
    | cons e rest ih =>
      obtain ⟨here,behind⟩ := List.forall_mem_cons.mp passive
      change threadRun thread (threadAfter thread _ e.command) rest = _
      rw [here.1]
      exact ih behind
  unregistered e member := (passive e member).2 e.answer

theorem Steps.refl (same : s.threadState = t.threadState) : Steps s [] t := steps_passive (List.forall_mem_nil _) same

/-- Passive calls in front. -/
theorem Steps.behind {command : ServerCommand} {answer : command.Answer} (passive : command.Passive)
    (steps : Steps s trace t) : Steps s (⟨command,answer⟩ :: trace) t :=
  (steps_passive (List.forall_mem_singleton.mpr passive) rfl : Steps s [⟨command,answer⟩] s).append steps

theorem logHasMitmStates_passive (serviceNames : List CString) :
    (logHasMitmStates serviceNames).Ensures fun trace _ => ∀ e ∈ trace, e.command.Passive := by
  induction serviceNames with
  | nil => exact List.forall_mem_nil _
  | cons serviceName rest ih =>
    intro answer
    exact ih.mono fun _ _ passive => List.forall_mem_cons.mpr ⟨⟨fun _ _ => rfl,fun _ => rfl⟩,passive⟩

theorem loadMitmTargetSettings_passive (targets : List MitmTarget) (s : Servers) :
    (loadMitmTargetSettings targets s).Ensures fun trace t => (∀ e ∈ trace, e.command.Passive) ∧
      t = { s with mitmTargetEnabled := t.mitmTargetEnabled } := by
  induction targets generalizing s with
  | nil => exact ⟨List.forall_mem_nil _,rfl⟩
  | cons target rest ih =>
    intro item
    apply (ih _).mono
    rintro trace t ⟨passive,same⟩
    exact ⟨List.forall_mem_cons.mpr ⟨⟨fun _ _ => rfl,fun _ => rfl⟩,passive⟩,same⟩

theorem stopThread_steps (thread : ServerThread) (s : Servers) :
    (stopThread thread s).Ensures fun trace t => Steps s trace t ∧ t = s.setThreadStarted false thread ∧
      ∀ serviceName, ∀ e ∈ trace, e.command ≠ .hasMitm serviceName := by
  unfold stopThread
  split
  next unstarted =>
    have unstarted : s.threadStarted thread = false := by simpa using unstarted
    exact ⟨Steps.refl rfl,(Servers.setThreadStarted_self unstarted).symm,fun _ => List.forall_mem_nil _⟩
  next started =>
    intro waited destroyed
    have silent : ∀ serviceName, ∀ e ∈ [(⟨.waitThread thread,waited⟩ : ServerExchange),⟨.destroyThread thread,destroyed⟩],
        e.command ≠ .hasMitm serviceName := by
      intro serviceName
      refine List.forall_mem_cons.mpr ⟨fun same => ?_,List.forall_mem_singleton.mpr fun same => ?_⟩
      · cases same
      · cases same
    refine ⟨⟨fun other => ?_,List.forall_mem_cons.mpr ⟨rfl,List.forall_mem_singleton.mpr rfl⟩⟩,rfl,silent⟩
    have started : s.threadStarted thread = true := by simpa using started
    change threadAfter other (threadAfter other _ (.waitThread thread)) (.destroyThread thread) = _
    by_cases same : thread = other
    · subst same
      rw [Servers.threadState,if_pos started,threadAfter,if_pos ⟨rfl,rfl⟩,threadAfter,if_pos ⟨rfl,rfl⟩]
      cases thread <;> rfl
    · rw [threadAfter,if_neg fun both => same both.1,threadAfter,if_neg fun both => same both.1]
      cases thread <;> cases other <;> first | rfl | exact absurd rfl same

theorem Checked.append_left (checked : Checked trace target) {before : List ServerExchange}
    (unasked : ∀ e ∈ before, e.command ≠ .hasMitm target.serviceName) : Checked (before ++ trace) target := by
  obtain ⟨asked,answer,behind,rfl,silent,uninstalls⟩ := checked
  exact ⟨before ++ asked,answer,behind,by simp,List.forall_mem_append.mpr ⟨unasked,silent⟩,uninstalls⟩

theorem Checked.append_right (checked : Checked trace target) (behind : List ServerExchange) :
    Checked (trace ++ behind) target := by
  obtain ⟨asked,answer,rest,rfl,silent,uninstalls⟩ := checked
  refine ⟨asked,answer,rest ++ behind,by simp,silent,fun reports => ?_⟩
  obtain ⟨rc,more,rfl⟩ := uninstalls reports
  exact ⟨rc,more ++ behind,rfl⟩

structure Uninstalls (target : MitmTarget) (s : Servers) (trace : List ServerExchange) (t : Servers) : Prop where
  passive : ∀ e ∈ trace, e.command.Passive
  others : ∀ other ≠ target, ∀ e ∈ trace, e.command ≠ .hasMitm other.serviceName
  checked : s.mitmTargetRegistrationOwned target = true → Checked trace target
  same : t = { s with mitmTargetRegistrationOwned := fun other =>
    if other = target then false else s.mitmTargetRegistrationOwned other }

theorem uninstallOwnedMitmRegistration_told (target : MitmTarget) (s : Servers) :
    (uninstallOwnedMitmRegistration target s).Ensures fun trace t => Uninstalls target s trace t := by
  have asked : ∀ {other : MitmTarget}, other ≠ target →
      ServerCommand.hasMitm target.serviceName ≠ .hasMitm other.serviceName := by
    intro other differs same
    injection same with same
    exact differs (MitmTarget.serviceName_injective same).symm
  have passive : ∀ serviceName, (ServerCommand.hasMitm serviceName).Passive := fun _ => ⟨fun _ _ => rfl,fun _ => rfl⟩
  unfold uninstallOwnedMitmRegistration
  split
  next unowned =>
    have unowned : s.mitmTargetRegistrationOwned target = false := by simpa using unowned
    refine ⟨List.forall_mem_nil _,fun _ _ => List.forall_mem_nil _,fun owned => ?_,?_⟩
    · exact Bool.noConfusion (unowned.symm.trans owned)
    · have same : s.mitmTargetRegistrationOwned =
          fun other => if other = target then false else s.mitmTargetRegistrationOwned other := by
        funext other
        split
        next here => rw [here,unowned]
        next => rfl
      rw [← same]
  next owned =>
    rw [ensures_perform_bind]
    intro answer
    split
    next reports =>
      intro uninstalled answered
      refine ⟨?_,fun other differs => ?_,fun _ => ?_,rfl⟩
      · exact List.forall_mem_cons.mpr ⟨passive _,List.forall_mem_cons.mpr ⟨⟨fun _ _ => rfl,fun _ => rfl⟩,
          List.forall_mem_singleton.mpr (passive _)⟩⟩
      · refine List.forall_mem_cons.mpr ⟨asked differs,List.forall_mem_cons.mpr ⟨?_,List.forall_mem_singleton.mpr (asked differs)⟩⟩
        exact fun same => by cases same
      · exact ⟨[],answer,_,rfl,List.forall_mem_nil _,fun _ => ⟨uninstalled,_,rfl⟩⟩
    next silent =>
      intro answered
      refine ⟨?_,fun other differs => ?_,fun _ => ?_,rfl⟩
      · exact List.forall_mem_cons.mpr ⟨passive _,List.forall_mem_singleton.mpr (passive _)⟩
      · exact List.forall_mem_cons.mpr ⟨asked differs,List.forall_mem_singleton.mpr (asked differs)⟩
      · exact ⟨[],answer,_,rfl,List.forall_mem_nil _,fun reports => absurd reports silent⟩

structure UninstallsAll (targets : List MitmTarget) (s : Servers) (trace : List ServerExchange) (t : Servers) : Prop where
  passive : ∀ e ∈ trace, e.command.Passive
  checked : ∀ target ∈ targets, s.mitmTargetRegistrationOwned target = true → Checked trace target
  same : t = { s with mitmTargetRegistrationOwned := fun target =>
    if target ∈ targets then false else s.mitmTargetRegistrationOwned target }

theorem uninstallOwnedMitmRegistrations_told (targets : List MitmTarget) (s : Servers) :
    (uninstallOwnedMitmRegistrations targets s).Ensures fun trace t => UninstallsAll targets s trace t := by
  induction targets generalizing s with
  | nil => exact ⟨List.forall_mem_nil _,List.forall_mem_nil _,rfl⟩
  | cons target rest ih =>
    rw [uninstallOwnedMitmRegistrations,ensures_bind]
    apply (uninstallOwnedMitmRegistration_told target s).mono
    rintro first t one
    apply (ih t).mono
    rintro second u more
    refine ⟨List.forall_mem_append.mpr ⟨one.passive,more.passive⟩,fun other member owned => ?_,?_⟩
    · by_cases here : other = target
      · rw [here] at owned ⊢
        exact (one.checked owned).append_right second
      · have still : t.mitmTargetRegistrationOwned other = true := by
          rw [one.same]
          exact (if_neg here).trans owned
        have later : other ∈ rest := (List.mem_cons.mp member).resolve_left here
        exact (more.checked other later still).append_left (one.others other here)
    · have owned : (fun other => if other ∈ rest then false else t.mitmTargetRegistrationOwned other) =
          fun other => if other ∈ target :: rest then false else s.mitmTargetRegistrationOwned other := by
        funext other
        rw [one.same]
        by_cases here : other = target
        · simp [here]
        · simp [here]
      rw [more.same,owned,one.same]

def Servers.controlStopped (s : Servers) : Servers :=
  { s.setThreadStarted false .control with controlServerManager := false }

theorem stopAndRetainControlServerManager_told (present : s.controlServerManager = true) :
    (stopAndRetainControlServerManager s).Ensures fun trace t => Steps s trace t ∧ t = s.controlStopped := by
  unfold stopAndRetainControlServerManager
  rw [if_neg (by simp [present]),ensures_perform_bind]
  intro stopped
  rw [ensures_bind]
  apply (stopThread_steps .control s).mono
  rintro trace _ ⟨steps,rfl,_⟩
  rw [ensures_pure,List.append_nil]
  refine ⟨Steps.behind ⟨fun _ _ => rfl,fun _ => rfl⟩ ⟨fun thread => ?_,steps.unregistered⟩,rfl⟩
  exact (steps.threads thread).trans (by cases thread <;> rfl)

def Servers.mitmStopped (s : Servers) : Servers :=
  { s.setThreadStarted false .mitm with
    mitmServerManager := false
    mitmTargetRegistrationOwned := fun _ => false }

structure MitmStop (s : Servers) (trace : List ServerExchange) (t : Servers) : Prop where
  steps : Steps s trace t
  same : t = s.mitmStopped
  relinquished : ∀ target, s.mitmTargetRegistrationOwned target = true → Relinquished trace target

/-- The calls of the stop, between the snapshots that it may log. -/
theorem mitmStop_of_parts {before stopping uninstalling behind : List ServerExchange} {t u : Servers}
    (logs : ∀ e ∈ before, e.command.Passive) (stopped : Steps s stopping t) (same : t = s.setThreadStarted false .mitm)
    (silent : ∀ serviceName, ∀ e ∈ stopping, e.command ≠ .hasMitm serviceName)
    (uninstalls : UninstallsAll mitmTargetConfigs t uninstalling u) (logsBehind : ∀ e ∈ behind, e.command.Passive) :
    MitmStop s (before ++ ⟨.requestStopProcessing .mitm,()⟩ :: (stopping ++ (uninstalling ++ behind)))
      { u with mitmServerManager := false } := by
  have unowned : (fun target => if target ∈ mitmTargetConfigs then false else t.mitmTargetRegistrationOwned target) =
      fun _ => false := by
    funext target
    rw [if_pos (mem_mitmTargetConfigs target)]
  have same_stopped : { u with mitmServerManager := false } = s.mitmStopped := by
    rw [uninstalls.same,unowned,same]
    rfl
  have last : Steps t (uninstalling ++ behind) { u with mitmServerManager := false } := by
    refine steps_passive (List.forall_mem_append.mpr ⟨uninstalls.passive,logsBehind⟩) ?_
    rw [uninstalls.same]
    funext thread
    cases thread <;> rfl
  refine ⟨?_,same_stopped,fun target owned => ⟨before,_,rfl,?_⟩⟩
  · exact (steps_passive logs rfl).append ((stopped.append last).behind ⟨fun _ _ => rfl,fun _ => rfl⟩)
  · have stillOwned : t.mitmTargetRegistrationOwned target = true := by
      rw [same]
      exact owned
    exact ((uninstalls.checked target (mem_mitmTargetConfigs target) stillOwned).append_right behind).append_left
      (silent target.serviceName)

theorem stopAndRetainMitmServerManager_told (logSnapshots : Bool) (present : s.mitmServerManager = true) :
    (stopAndRetainMitmServerManager logSnapshots s).Ensures fun trace t => MitmStop s trace t := by
  unfold stopAndRetainMitmServerManager
  rw [if_neg (by simp [present])]
  cases logSnapshots with
  | false =>
    rw [if_neg Bool.false_ne_true,ensures_perform_bind]
    intro stopped
    rw [ensures_bind]
    apply (stopThread_steps .mitm s).mono
    rintro stopping t ⟨steps,same,silent⟩
    rw [ensures_bind]
    apply (uninstallOwnedMitmRegistrations_told mitmTargetConfigs t).mono
    intro uninstalling u uninstalls
    dsimp only
    rw [if_neg Bool.false_ne_true,ensures_pure]
    exact mitmStop_of_parts (List.forall_mem_nil _) steps same silent uninstalls (List.forall_mem_nil _)
  | true =>
    rw [if_pos rfl,ensures_bind]
    apply (logHasMitmStates_passive _).mono
    intro before _ logs
    rw [ensures_perform_bind]
    intro stopped
    rw [ensures_bind]
    apply (stopThread_steps .mitm s).mono
    rintro stopping t ⟨steps,same,silent⟩
    rw [ensures_bind]
    apply (uninstallOwnedMitmRegistrations_told mitmTargetConfigs t).mono
    intro uninstalling u uninstalls
    dsimp only
    rw [if_pos rfl,ensures_bind]
    apply (logHasMitmStates_passive _).mono
    intro behind _ logsBehind
    rw [ensures_pure,List.append_nil]
    exact mitmStop_of_parts logs steps same silent uninstalls logsBehind

theorem Relinquished.append_left (relinquished : Relinquished trace target) (before : List ServerExchange) :
    Relinquished (before ++ trace) target := by
  obtain ⟨front,behind,rfl,checked⟩ := relinquished
  exact ⟨before ++ front,behind,by simp,checked⟩

theorem Relinquished.append_right (relinquished : Relinquished trace target) (behind : List ServerExchange) :
    Relinquished (trace ++ behind) target := by
  obtain ⟨front,rest,rfl,checked⟩ := relinquished
  exact ⟨front,rest ++ behind,by simp,checked.append_right behind⟩

/-- Both managers are stopped behind a failure. -/
theorem tearDown_told (mitm : s.mitmServerManager = true) (control : s.controlServerManager = true) :
    (stopAndRetainMitmServerManager false s >>= stopAndRetainControlServerManager).Ensures fun trace t =>
      Steps s trace t ∧ t = s.mitmStopped.controlStopped ∧
      ∀ target, s.mitmTargetRegistrationOwned target = true → Relinquished trace target := by
  rw [ensures_bind]
  apply (stopAndRetainMitmServerManager_told false mitm).mono
  rintro first _ ⟨steps,rfl,relinquished⟩
  have present : s.mitmStopped.controlServerManager = true := control
  apply (stopAndRetainControlServerManager_told present).mono
  rintro second _ ⟨later,rfl⟩
  exact ⟨steps.append later,rfl,fun target owned => (relinquished target owned).append_right second⟩

def Gains (trace : List ServerExchange) (target : MitmTarget) : Prop := ∃ e ∈ trace, registers e = some target

theorem Gains.of_unregistered (unregistered : ∀ e ∈ first, registers e = none) (gains : Gains (first ++ second) target) :
    Gains second target := by
  obtain ⟨e,member,gained⟩ := gains
  rcases List.mem_append.mp member with before | behind
  · cases (unregistered e before).symm.trans gained
  · exact ⟨e,behind,gained⟩

theorem Gains.not_behind (unregistered : ∀ e ∈ second, registers e = none) (gains : Gains (first ++ second) target) :
    Gains first target := by
  obtain ⟨e,member,gained⟩ := gains
  rcases List.mem_append.mp member with before | behind
  · exact ⟨e,before,gained⟩
  · cases (unregistered e behind).symm.trans gained

structure Registers (targets : List MitmTarget) (counts : ServerCounts) (s : Servers) (trace : List ServerExchange)
    (counted : ServerCounts) (t : Servers) : Prop where
  threads : ∀ thread state, threadRun thread state trace = state
  same : t = { s with mitmTargetRegistrationOwned := t.mitmTargetRegistrationOwned }
  owned : ∀ target, s.mitmTargetRegistrationOwned target = true ∨ Gains trace target →
    t.mitmTargetRegistrationOwned target = true
  registered : counts.registered ≤ counted.registered
  failed : counts.failed ≤ counted.failed
  enabled : ∀ target ∈ targets, s.mitmTargetEnabled target = true →
    counts.registered < counted.registered ∧ Gains trace target ∨ counts.failed < counted.failed

theorem registerMitmServers_told (targets : List MitmTarget) (counts : ServerCounts) (s : Servers) :
    (registerMitmServers targets counts s).Ensures fun trace value => Registers targets counts s trace value.1 value.2 := by
  induction targets generalizing counts s with
  | nil =>
    refine ⟨fun _ _ => rfl,rfl,?_,Nat.le_refl _,Nat.le_refl _,List.forall_mem_nil _⟩
    rintro target (owned | ⟨e,member,_⟩)
    · exact owned
    · cases member
  | cons target rest ih =>
    rw [registerMitmServers]
    split
    next disabled =>
      have disabled : s.mitmTargetEnabled target = false := by simpa using disabled
      apply (ih counts s).mono
      rintro trace ⟨counted,t⟩ told
      refine ⟨told.threads,told.same,told.owned,told.registered,told.failed,fun other member enabled => ?_⟩
      rcases List.mem_cons.mp member with rfl | later
      · exact Bool.noConfusion (disabled.symm.trans enabled)
      · exact told.enabled other later enabled
    next =>
      intro asked rc answered
      dsimp only
      split
      next succeeds =>
        have gained : registers ⟨.registerMitmServer target,rc⟩ = some target := if_neg (by simpa using succeeds)
        apply (ih _ (s.setOwned target true)).mono
        rintro trace ⟨counted,t⟩ told
        have later : ∀ other, Gains trace other → Gains (⟨.hasMitm target.serviceName,asked⟩ ::
            ⟨.registerMitmServer target,rc⟩ :: ⟨.hasMitm target.serviceName,answered⟩ :: trace) other := by
          rintro other ⟨e,member,gains⟩
          exact ⟨e,by simp [member],gains⟩
        refine ⟨told.threads,told.same,?_,Nat.le_of_succ_le told.registered,told.failed,?_⟩
        · rintro other (owned | ⟨e,member,gains⟩)
          · apply told.owned other (.inl ?_)
            change (if other = target then true else s.mitmTargetRegistrationOwned other) = true
            rw [owned,ite_self]
          · apply told.owned other
            rcases List.mem_cons.mp member with rfl | member
            · cases gains
            rcases List.mem_cons.mp member with rfl | member
            · rw [← Option.some.inj (gained.symm.trans gains)]
              exact .inl (if_pos rfl)
            rcases List.mem_cons.mp member with rfl | member
            · cases gains
            · exact .inr ⟨e,member,gains⟩
        · intro other member enabled
          rcases List.mem_cons.mp member with rfl | member
          · exact .inl ⟨told.registered,⟨.registerMitmServer other,rc⟩,by simp,gained⟩
          · rcases told.enabled other member enabled with ⟨more,gains⟩ | fails
            · exact .inl ⟨Nat.lt_of_succ_lt more,later other gains⟩
            · exact .inr fails
      next fails =>
        have refused : registers ⟨.registerMitmServer target,rc⟩ = none := if_pos (by simpa using fails)
        apply (ih _ s).mono
        rintro trace ⟨counted,t⟩ told
        refine ⟨told.threads,told.same,?_,told.registered,Nat.le_of_succ_le told.failed,fun _ _ _ => .inr told.failed⟩
        rintro other (owned | ⟨e,member,gains⟩)
        · exact told.owned other (.inl owned)
        · rcases List.mem_cons.mp member with rfl | member
          · cases gains
          rcases List.mem_cons.mp member with rfl | member
          · cases refused.symm.trans gains
          rcases List.mem_cons.mp member with rfl | member
          · cases gains
          · exact told.owned other (.inr ⟨e,member,gains⟩)

theorem startThread_threads {thread : ServerThread} (unstarted : s.threadStarted thread = false) (other : ServerThread) :
    threadRun other (s.threadState other) [⟨.startThread thread,()⟩] = (s.setThreadStarted true thread).threadState other := by
  change threadAfter other _ (.startThread thread) = _
  rw [threadAfter]
  by_cases same : thread = other
  · subst same
    rw [if_pos rfl]
    cases thread <;> rfl
  · rw [if_neg same]
    cases thread <;> cases other <;> first | rfl | exact absurd rfl same

/-- A thread that may be started: its flag tells, and nothing else changes. -/
theorem startOptionalThread_told {thread : ServerThread} (unstarted : s.threadStarted thread = false) :
    (startOptionalThread thread s).Ensures fun trace t => Steps s trace t ∧ ∃ started, t = s.setThreadStarted started thread := by
  unfold startOptionalThread
  rw [ensures_perform_bind]
  intro rc
  have created : (ServerCommand.createThread thread).Passive := ⟨fun _ _ => rfl,fun _ => rfl⟩
  split
  · refine ⟨(Steps.refl rfl).behind created,false,?_⟩
    exact (Servers.setThreadStarted_self unstarted).symm
  · intro _ ready
    refine ⟨Steps.behind created ⟨?_,?_⟩,true,rfl⟩
    · exact startThread_threads unstarted
    · exact List.forall_mem_cons.mpr ⟨rfl,List.forall_mem_singleton.mpr rfl⟩

/-- What `StartServers` tells, with the trace from the state `s` on. -/
structure Started (s : Servers) (trace : List ServerExchange) (result : Bool) (t : Servers) : Prop where
  threads : ∀ thread, threadRun thread (s.threadState thread) trace = t.threadState thread
  stopped : result = false → t.Stopped
  relinquished : result = false → ∀ target, Gains trace target → Relinquished trace target
  registered : result = true → ∀ target, t.mitmTargetEnabled target = true →
    Gains trace target ∧ t.mitmTargetRegistrationOwned target = true
  control : result = true → t.controlThreadStarted = true
  mitm : result = true → (∃ target, t.mitmTargetEnabled target = true) → t.mitmThreadStarted = true

theorem Started.behind {result : Bool} (steps : Steps s first t) (started : Started t second result u) :
    Started s (first ++ second) result u where
  threads thread := by
    rw [threadRun_append,steps.threads,started.threads]
  stopped := started.stopped
  relinquished fails target gains :=
    (started.relinquished fails target (gains.of_unregistered steps.unregistered)).append_left first
  registered succeeds target enabled := by
    obtain ⟨⟨e,member,gains⟩,owned⟩ := started.registered succeeds target enabled
    exact ⟨⟨e,List.mem_append_right first member,gains⟩,owned⟩
  control := started.control
  mitm := started.mitm

/-- The state in which the MITM servers are started: only the control server runs. -/
structure Servers.ControlRuns (s : Servers) : Prop where
  controlServerManager : s.controlServerManager = true
  controlThread : s.controlThreadStarted = true
  otherThreads : ∀ thread, thread ≠ .control → s.threadStarted thread = false
  serversStarted : s.serversStarted = false
  owned : ∀ target, s.mitmTargetRegistrationOwned target = false

/-- An exit that tears down, behind the registration loop and what has been started since. -/
theorem started_tearDown {counted : ServerCounts} {registering starting tearing behind : List ServerExchange}
    (runs : s.ControlRuns) (registers : Registers mitmTargetConfigs ⟨0,0,0⟩ { s with mitmServerManager := true } registering counted t)
    (starts : Steps t starting u) (started : ∃ mitm, u = t.setThreadStarted mitm .mitm)
    (torn : Steps u tearing u.mitmStopped.controlStopped)
    (relinquished : ∀ target, u.mitmTargetRegistrationOwned target = true → Relinquished tearing target)
    (logs : ∀ e ∈ behind, e.command.Passive) :
    Started s (⟨.constructServerManager .mitm,()⟩ :: (registering ++ (starting ++ (tearing ++ behind)))) false
      u.mitmStopped.controlStopped := by
  obtain ⟨mitm,same⟩ := started
  have fromLoop : ∀ thread, t.threadState thread = s.threadState thread := by
    intro thread
    rw [registers.same]
    cases thread <;> rfl
  have later : Steps t (starting ++ (tearing ++ behind)) u.mitmStopped.controlStopped :=
    starts.append (torn.append (steps_passive logs rfl))
  refine ⟨fun thread => ?_,fun _ => ?_,fun _ target gains => ?_,fun result => ?_,fun result => ?_,fun result => ?_⟩
  · change threadRun thread (s.threadState thread) (registering ++ _) = _
    rw [threadRun_append,registers.threads,← later.threads,fromLoop]
  · have optional : u.bootWatchThreadStarted = false ∧ u.watchdogThreadStarted = false ∧ u.serversStarted = false := by
      rw [same,registers.same]
      exact ⟨runs.otherThreads .bootWatch (by decide),runs.otherThreads .watchdog (by decide),runs.serversStarted⟩
    refine ⟨rfl,rfl,fun thread => ?_,optional.2.2,fun _ => rfl⟩
    cases thread with
    | control => rfl
    | mitm => rfl
    | bootWatch => exact optional.1
    | watchdog => exact optional.2.1
  · obtain ⟨e,member,gains⟩ := gains
    rcases List.mem_cons.mp member with rfl | member
    · cases gains
    have loop : Gains registering target := Gains.not_behind later.unregistered ⟨e,member,gains⟩
    have owned : u.mitmTargetRegistrationOwned target = true := by
      rw [same]
      exact registers.owned target (.inr loop)
    exact ((((relinquished target owned).append_right behind).append_left starting).append_left registering).append_left [_]
  · cases result
  · cases result
  · cases result

/-- An exit that goes on: every enabled target is registered, and the MITM thread runs if there is one. -/
theorem started_servers {counted : ServerCounts} {registering starting : List ServerExchange}
    (runs : s.ControlRuns) (registers : Registers mitmTargetConfigs ⟨0,0,0⟩ { s with mitmServerManager := true } registering counted t)
    (none_failed : counted.failed = 0)
    (starts : ∀ thread, threadRun thread (t.threadState thread) starting = u.threadState thread)
    (same : u.mitmTargetEnabled = t.mitmTargetEnabled ∧ u.mitmTargetRegistrationOwned = t.mitmTargetRegistrationOwned ∧
      u.controlThreadStarted = t.controlThreadStarted)
    (mitm : counted.registered ≠ 0 → u.mitmThreadStarted = true) :
    Started s (⟨.constructServerManager .mitm,()⟩ :: (registering ++ starting)) true u := by
  have enabled : t.mitmTargetEnabled = s.mitmTargetEnabled := by rw [registers.same]
  have gained : ∀ target, u.mitmTargetEnabled target = true → 0 < counted.registered ∧ Gains registering target := by
    intro target isEnabled
    rw [same.1,enabled] at isEnabled
    rcases registers.enabled target (mem_mitmTargetConfigs target) isEnabled with gains | fails
    · exact gains
    · exact absurd none_failed (Nat.ne_of_gt fails)
  refine ⟨fun thread => ?_,fun result => ?_,fun result => ?_,fun _ target isEnabled => ⟨?_,?_⟩,fun _ => ?_,fun _ some => ?_⟩
  · have fromLoop : t.threadState thread = s.threadState thread := by
      rw [registers.same]
      cases thread <;> rfl
    change threadRun thread (s.threadState thread) (registering ++ _) = _
    rw [threadRun_append,registers.threads,← starts,fromLoop]
  · cases result
  · cases result
  · obtain ⟨e,member,gains⟩ := (gained target isEnabled).2
    exact ⟨e,List.mem_cons_of_mem _ (List.mem_append_left starting member),gains⟩
  · rw [same.2.1]
    exact registers.owned target (.inr (gained target isEnabled).2)
  · rw [same.2.2,registers.same]
    exact runs.controlThread
  · obtain ⟨target,isEnabled⟩ := some
    exact mitm (Nat.ne_of_gt (gained target isEnabled).1)

theorem startMitmServers_started (runs : s.ControlRuns) :
    (startMitmServers s).Ensures fun trace value => Started s trace value.1 value.2 := by
  unfold startMitmServers
  dsimp only
  rw [ensures_perform_bind]
  intro constructed
  rw [ensures_bind]
  apply (registerMitmServers_told _ _ _).mono
  rintro registering ⟨counted,t⟩ registers
  dsimp only at registers ⊢
  have managers : t.mitmServerManager = true ∧ t.controlServerManager = true := by
    rw [registers.same]
    exact ⟨rfl,runs.controlServerManager⟩
  have others : ∀ thread, thread ≠ .control → t.threadStarted thread = false := by
    intro thread other
    rw [registers.same]
    exact (by cases thread <;> rfl : _ = s.threadStarted thread).trans (runs.otherThreads thread other)
  refine Ensures.ite (fun someFailed => ?_) fun noneFailed => ?_
  · rw [ensures_bind]
    apply (logHasMitmStates_passive _).mono
    intro starting _ logs
    rw [ensures_bind]
    apply (tearDown_told managers.1 managers.2).mono
    rintro tearing _ ⟨torn,rfl,relinquished⟩
    rw [ensures_bind]
    apply (logHasMitmStates_passive _).mono
    intro behind _ logsBehind
    rw [ensures_pure,List.append_nil]
    exact started_tearDown runs registers (steps_passive logs rfl) ⟨_,(Servers.setThreadStarted_self rfl).symm⟩ torn
      relinquished logsBehind
  have noneFailed : counted.failed = 0 := by simpa using noneFailed
  refine Ensures.ite (fun noneRegistered => ?_) fun someRegistered => ?_
  · exact started_servers runs registers noneFailed (fun thread => by cases thread <;> rfl) ⟨rfl,rfl,rfl⟩
      fun some => absurd noneRegistered some
  rw [ensures_perform_bind]
  intro rc
  have created : (ServerCommand.createThread .mitm).Passive := ⟨fun _ _ => rfl,fun _ => rfl⟩
  refine Ensures.ite (fun fails => ?_) fun succeeds => ?_
  · rw [ensures_bind]
    apply (tearDown_told managers.1 managers.2).mono
    rintro tearing _ ⟨torn,rfl,relinquished⟩
    have starts : Steps t [⟨.createThread .mitm,rc⟩] t := steps_passive (List.forall_mem_singleton.mpr created) rfl
    exact started_tearDown runs registers starts ⟨_,(Servers.setThreadStarted_self rfl).symm⟩ torn relinquished
      (List.forall_mem_nil _)
  rw [ensures_perform_bind]
  intro startedThread
  rw [ensures_perform_bind]
  intro ready
  have starts : Steps t [⟨.createThread .mitm,rc⟩,⟨.startThread .mitm,startedThread⟩,⟨.waitForThreadReady .mitm,ready⟩]
      (t.setThreadStarted true .mitm) := by
    refine Steps.behind created ⟨?_,List.forall_mem_cons.mpr ⟨rfl,List.forall_mem_singleton.mpr rfl⟩⟩
    exact startThread_threads (others .mitm (by decide))
  refine Ensures.ite (fun unready => ?_) fun isReady => ?_
  · rw [ensures_bind]
    refine Ensures.mono (@tearDown_told (t.setThreadStarted true .mitm) managers.1 managers.2) ?_
    rintro tearing _ ⟨torn,rfl,relinquished⟩
    exact started_tearDown runs registers starts ⟨true,rfl⟩ torn relinquished (List.forall_mem_nil _)
  rw [ensures_bind]
  let running : Servers := { t.setThreadStarted true .mitm with serversStarted := true }
  have unwatched : running.threadStarted .bootWatch = false := others .bootWatch (by decide)
  apply (startOptionalThread_told unwatched).mono
  rintro booting _ ⟨booted,bootStarted,rfl⟩
  rw [ensures_bind]
  have unguarded : (running.setThreadStarted bootStarted .bootWatch).threadStarted .watchdog = false :=
    others .watchdog (by decide)
  apply (startOptionalThread_told unguarded).mono
  rintro watching _ ⟨watched,watchStarted,rfl⟩
  have all : Steps t ([⟨.createThread .mitm,rc⟩,⟨.startThread .mitm,startedThread⟩,⟨.waitForThreadReady .mitm,ready⟩] ++
      (booting ++ (watching ++ []))) ((running.setThreadStarted bootStarted .bootWatch).setThreadStarted watchStarted .watchdog) := by
    have same : (t.setThreadStarted true .mitm).threadState = running.threadState := by
      funext thread
      cases thread <;> rfl
    rw [List.append_nil]
    exact starts.append (((Steps.refl same).append booted).append watched)
  exact started_servers runs registers noneFailed all.threads ⟨rfl,rfl,rfl⟩ fun _ => rfl

/-- An exit behind which nothing was registered and nothing runs. -/
theorem started_nothing (steps : Steps s trace t) (stopped : t.Stopped) : Started s trace false t where
  threads := steps.threads
  stopped _ := stopped
  relinquished _ target gains := by
    obtain ⟨e,member,gained⟩ := gains
    cases (steps.unregistered e member).symm.trans gained
  registered result := by cases result
  control result := by cases result
  mitm result := by cases result

theorem startServers_started (stopped : s.Stopped) :
    (startServers s).Ensures fun trace value => Started s trace value.1 value.2 := by
  unfold startServers
  rw [if_neg (by simp [stopped.serversStarted]),ensures_bind]
  apply (loadMitmTargetSettings_passive mitmTargetConfigs s).mono
  rintro settings t ⟨loaded,same⟩
  rw [ensures_bind]
  apply (logHasMitmStates_passive bootWatchServices).mono
  intro logging _ logs
  have unstarted : ∀ thread, t.threadStarted thread = false := by
    intro thread
    rw [same]
    exact (by cases thread <;> rfl : _ = s.threadStarted thread).trans (stopped.threads thread)
  have sameThreads : s.threadState = t.threadState := by
    funext thread
    rw [Servers.threadState,Servers.threadState,stopped.threads,unstarted]
  have opening : Steps s (settings ++ logging) t :=
    steps_passive (List.forall_mem_append.mpr ⟨loaded,logs⟩) sameThreads
  have none : { t with controlServerManager := false }.Stopped := by
    refine ⟨rfl,?_,unstarted,?_,?_⟩
    · rw [same]
      exact stopped.mitmServerManager
    · rw [same]
      exact stopped.serversStarted
    · rw [same]
      exact stopped.owned
  -- what is behind the opening
  have behind : ∀ {trace : List ServerExchange} {result : Bool} {u : Servers}, Started t trace result u →
      Started s (settings ++ (logging ++ trace)) result u := by
    intro trace result u started
    rw [← List.append_assoc]
    exact started.behind opening
  have left : t.threadState = { t with controlServerManager := false }.threadState := rfl
  have constructs : (ServerCommand.constructServerManager .control).Passive := ⟨fun _ _ => rfl,fun _ => rfl⟩
  have registersObject : (ServerCommand.registerObjectForServer "wgp:ctl".toList).Passive := ⟨fun _ _ => rfl,fun _ => rfl⟩
  have creates : (ServerCommand.createThread .control).Passive := ⟨fun _ _ => rfl,fun _ => rfl⟩
  have destroys : (ServerCommand.destroyServerManager .control).Passive := ⟨fun _ _ => rfl,fun _ => rfl⟩
  rw [ensures_perform_bind]
  intro constructed
  dsimp only
  rw [ensures_perform_bind]
  intro rc
  refine Ensures.ite (fun fails => ?_) fun registered => ?_
  · intro destroyed
    exact behind (started_nothing ((((Steps.refl left).behind destroys).behind registersObject).behind constructs) none)
  rw [ensures_perform_bind]
  intro threadRc
  refine Ensures.ite (fun fails => ?_) fun created => ?_
  · intro destroyed
    refine behind (started_nothing ?_ none)
    exact ((((Steps.refl left).behind destroys).behind creates).behind registersObject).behind constructs
  rw [ensures_perform_bind]
  intro startedThread
  rw [ensures_perform_bind]
  intro ready
  let u : Servers := { t with controlServerManager := true }.setThreadStarted true .control
  have starts : Steps t [⟨.constructServerManager .control,constructed⟩,⟨.registerObjectForServer "wgp:ctl".toList,rc⟩,
      ⟨.createThread .control,threadRc⟩,⟨.startThread .control,startedThread⟩,⟨.waitForThreadReady .control,ready⟩] u := by
    have started : Steps { t with controlServerManager := true }
        [⟨.startThread .control,startedThread⟩,⟨.waitForThreadReady .control,ready⟩] u :=
      ⟨startThread_threads (unstarted .control),List.forall_mem_cons.mpr ⟨rfl,List.forall_mem_singleton.mpr rfl⟩⟩
    have same : t.threadState = { t with controlServerManager := true }.threadState := by
      funext thread
      cases thread <;> rfl
    exact ((((Steps.refl same).append started).behind creates).behind registersObject).behind constructs
  have runs : u.ControlRuns := by
    refine ⟨rfl,rfl,fun thread other => ?_,none.serversStarted,none.owned⟩
    cases thread with
    | control => exact absurd rfl other
    | mitm => exact unstarted .mitm
    | bootWatch => exact unstarted .bootWatch
    | watchdog => exact unstarted .watchdog
  refine Ensures.ite (fun unready => ?_) fun isReady => ?_
  · rw [ensures_bind]
    apply (stopAndRetainControlServerManager_told runs.controlServerManager).mono
    rintro stopping _ ⟨steps,rfl⟩
    have left : u.controlStopped.Stopped := by
      refine ⟨rfl,none.mitmServerManager,fun thread => ?_,none.serversStarted,none.owned⟩
      cases thread with
      | control => rfl
      | mitm => exact unstarted .mitm
      | bootWatch => exact unstarted .bootWatch
      | watchdog => exact unstarted .watchdog
    have unwound := (started_nothing steps left).behind starts
    rw [ensures_pure,List.append_nil]
    exact behind unwound
  · apply (startMitmServers_started runs).mono
    rintro trace ⟨result,v⟩ started
    exact behind (started.behind starts)

/-- From the stopped state: a start that fails leaves everything stopped, with every started thread waited
for and destroyed and every registration of its own uninstalled that is still reported; a start that
succeeds has every enabled target registered and owned, the control thread running, and the MITM
thread if a target is enabled. -/
theorem startServers_atomic (service : Service ServerCommand.Answer) (s : Servers) (stopped : s.Stopped) :
    let run := (startServers s).run service []
    let t := run.2.2
    (run.2.1 = false → t.Stopped ∧ ThreadsEnded run.1 ∧ ∀ target, Gains run.1 target → Relinquished run.1 target) ∧
    (run.2.1 = true →
      (∀ target, t.mitmTargetEnabled target = true → Gains run.1 target ∧ t.mitmTargetRegistrationOwned target = true) ∧
      (t.controlThreadStarted = true ∧ Runs run.1 .control) ∧
      ((∃ target, t.mitmTargetEnabled target = true) → t.mitmThreadStarted = true ∧ Runs run.1 .mitm)) := by
  intro run t
  have told : Started s run.1 run.2.1 t := (startServers_started stopped).of_run service
  have absent : ∀ thread, s.threadState thread = .absent := by
    intro thread
    rw [Servers.threadState,stopped.threads thread]
    rfl
  have runs : ∀ thread, t.threadStarted thread = true → Runs run.1 thread := by
    intro thread started
    have running := told.threads thread
    rw [Servers.threadState,Servers.threadState,started,stopped.threads thread] at running
    rcases runs_or thread run.1 _ running with ⟨before,_⟩ | runs
    · cases before
    · exact runs
  refine ⟨fun fails => ⟨told.stopped fails,threadsEnded fun thread => ?_,told.relinquished fails⟩,fun succeeds => ?_⟩
  · have ended := told.threads thread
    rw [absent thread,Servers.threadState,(told.stopped fails).threads thread] at ended
    exact ended
  · refine ⟨told.registered succeeds,⟨told.control succeeds,runs .control (told.control succeeds)⟩,fun some => ?_⟩
    exact ⟨told.mitm succeeds some,runs .mitm (told.mitm succeeds some)⟩

end Steps

def Servers.initial : Servers := ⟨false,false,false,false,false,false,false,fun _ => false,fun _ => false⟩

theorem Servers.stopped_initial : Servers.initial.Stopped where
  controlServerManager := rfl
  mitmServerManager := rfl
  threads thread := by cases thread <;> rfl
  serversStarted := rfl
  owned _ := rfl

/-- What a stop leaves behind a start is the stopped state again. -/
theorem stopServers_stopped {s : Servers} (control : s.controlServerManager = true) (mitm : s.mitmServerManager = true) :
    (stopServers s).Ensures fun trace t => t.Stopped ∧ (∀ thread, threadRun thread (s.threadState thread) trace = .absent) ∧
      ∀ target, s.mitmTargetRegistrationOwned target = true → Relinquished trace target := by
  unfold stopServers
  rw [if_neg (by simp [control]),ensures_bind]
  apply (stopThread_steps .bootWatch s).mono
  rintro first _ ⟨booted,rfl,_⟩
  rw [ensures_bind]
  apply (stopThread_steps .watchdog _).mono
  rintro second t ⟨watched,same,_⟩
  have present : t.mitmServerManager = true ∧ t.controlServerManager = true := by
    rw [same]
    exact ⟨mitm,control⟩
  rw [ensures_bind]
  apply (stopAndRetainMitmServerManager_told true present.1).mono
  rintro third _ ⟨steps,rfl,relinquished⟩
  rw [ensures_bind]
  have controlPresent : t.mitmStopped.controlServerManager = true := present.2
  apply (stopAndRetainControlServerManager_told controlPresent).mono
  rintro fourth _ ⟨last,rfl⟩
  rw [ensures_pure,List.append_nil]
  have whole := booted.append (watched.append (steps.append last))
  have unstarted : ∀ thread, t.mitmStopped.controlStopped.threadStarted thread = false := by
    intro thread
    rw [same]
    cases thread <;> rfl
  refine ⟨⟨rfl,rfl,unstarted,rfl,fun _ => rfl⟩,fun thread => ?_,fun target owned => ?_⟩
  · rw [whole.threads,Servers.threadState,unstarted thread]
    rfl
  · have still : t.mitmTargetRegistrationOwned target = true := by
      rw [same]
      exact owned
    exact (((relinquished target still).append_right fourth).append_left second).append_left first

/-- A platform on which the MITM thread cannot be created. -/
def threadlessPlatform : Service ServerCommand.Answer := fun _ command => match command with
  | .getSettingsItemValue _ => ⟨1,1⟩
  | .hasMitm _ => ⟨0,true⟩
  | .uninstallMitm _ | .registerObjectForServer _ | .registerMitmServer _ => 0
  | .createThread thread => if thread = .mitm then 1 else 0
  | .waitForThreadReady _ => true
  | .constructServerManager _ | .destroyServerManager _ | .requestStopProcessing _ | .startThread _ | .waitThread _
  | .destroyThread _ => ()

theorem startServers_threadless :
    let run := (startServers .initial).run threadlessPlatform []
    run.2.2.Stopped ∧ Relinquished run.1 .bsdUser := by
  intro run
  have unwound := (startServers_atomic threadlessPlatform .initial Servers.stopped_initial).1 (by decide)
  have registered : run.1[24]? = some ⟨.registerMitmServer .bsdUser,(0 : UInt32)⟩ := rfl
  exact ⟨unwound.1,unwound.2.2 .bsdUser ⟨_,List.mem_of_getElem? registered,rfl⟩⟩

end NxReverse.Probe
