import NxReverse.Lib.Runs

/-! Start and stop of the probe: the main thread, the control thread and the lock
`g_mitm_start_lock` between them, as steps that any interleaving may take. What a call of
the platform answers is part of the step. -/
namespace NxReverse.Probe

open Runs

/-- Who tears the servers down: a failing `StartServers` or `StopServers`. -/
inductive Teardown where
  | failedStart | stopServers
  deriving DecidableEq, Repr

inductive MainPc where
  | main | startServers | registerControl | createControlThread | waitControlReady | registerTargets
  | createMitmThread | waitMitmReady | createBootWatchThread | waitBootWatchReady | createWatchdogThread
  | waitWatchdogReady | startServersReturns (result : Bool)
  | waitForShutdownRequest | callStopServers | stopBootWatchThread | stopWatchdogThread
  | stopMitmServerManager (cause : Teardown) | waitMitmThread (cause : Teardown)
  | stopControlServerManager (cause : Teardown) | waitControlThread (cause : Teardown)
  | clearEvents | stopServersReturns | returned
  deriving DecidableEq, Repr

/-- Where the control thread is; `wantsLock` is a `Shutdown` handler in front of the lock. -/
inductive ControlPc where
  | absent | starting | serving | wantsLock | requestShutdown | finished
  deriving DecidableEq, Repr

inductive ThreadState where
  | absent | running | finished
  deriving DecidableEq, Repr

inductive LockOwner where
  | main | control
  deriving DecidableEq, Repr

structure Lifecycle where
  main : MainPc
  control : ControlPc
  mitmStartLock : Option LockOwner
  shutdownRequestedEvent : Bool
  shutdownRequested : Bool
  serversStarted : Bool
  controlServerManager : Bool
  mitmServerManager : Bool
  controlStopRequested : Bool
  mitmStopRequested : Bool
  controlThreadStarted : Bool
  mitmThreadStarted : Bool
  bootWatchThreadStarted : Bool
  watchdogThreadStarted : Bool
  controlThreadReady : Bool
  mitmThreadReady : Bool
  bootWatchThreadReady : Bool
  watchdogThreadReady : Bool
  mitmThread : ThreadState
  bootWatchThread : ThreadState
  watchdogThread : ThreadState
  /-- `Shutdown` requests of clients that the control thread has not taken. -/
  requests : Nat
  deriving DecidableEq, Repr

def Lifecycle.initial : Lifecycle :=
  ⟨.main,.absent,none,false,false,false,false,false,false,false,false,false,false,false,false,false,false,false,
    .absent,.absent,.absent,0⟩

inductive Outcome where
  | ok | failed | noTargets
  deriving DecidableEq, Repr

inductive LifecycleEvent where
  | main (outcome : Outcome)
  | clientShutdown
  | controlReady | controlTakesShutdown | controlLocks | controlReturns | controlLeaves
  | mitmReady | mitmLeaves | bootWatchReady | bootWatchLeaves | watchdogReady | watchdogLeaves
  deriving DecidableEq, Repr

namespace Lifecycle

/-- All five events and the flag are cleared when servers start and when they have stopped. -/
def clearEvents (s : Lifecycle) : Lifecycle :=
  { s with
    shutdownRequestedEvent := false
    controlThreadReady := false
    mitmThreadReady := false
    bootWatchThreadReady := false
    watchdogThreadReady := false
    shutdownRequested := false }

/-- A timed wait succeeds on a signalled event and fails on one that is not. -/
def waitReady (s : Lifecycle) (ready : Bool) (outcome : Outcome) (onReady onTimeout : MainPc) :
    Option Lifecycle :=
  match outcome,ready with
  | .ok,true => some { s with main := onReady }
  | .failed,false => some { s with main := onTimeout }
  | _,_ => none

def afterTeardown : Teardown → MainPc
  | .failedStart => .startServersReturns false
  | .stopServers => .clearEvents

/-- The next step of the main thread; `none` while it has to wait. -/
def mainStep (s : Lifecycle) (outcome : Outcome) : Option Lifecycle :=
  match s.main with
  | .main => if s.mitmStartLock = none then some { s with main := .startServers, mitmStartLock := some .main } else none
  | .startServers =>
    if s.serversStarted then some { s with main := .startServersReturns true }
    else some { s.clearEvents with main := .registerControl }
  | .registerControl =>
    match outcome with
    | .ok => some { s with main := .createControlThread, controlServerManager := true }
    | .failed => some { s with main := .startServersReturns false, controlServerManager := false }
    | .noTargets => none
  | .createControlThread =>
    match outcome with
    | .ok => some { s with main := .waitControlReady, control := .starting, controlThreadStarted := true }
    | .failed => some { s with main := .startServersReturns false, controlServerManager := false }
    | .noTargets => none
  | .waitControlReady =>
    s.waitReady s.controlThreadReady outcome .registerTargets (.stopControlServerManager .failedStart)
  | .registerTargets =>
    let s := { s with mitmServerManager := true }
    match outcome with
    | .ok => some { s with main := .createMitmThread }
    | .failed => some { s with main := .stopMitmServerManager .failedStart }
    | .noTargets => some { s with main := .startServersReturns true, serversStarted := true }
  | .createMitmThread =>
    match outcome with
    | .ok => some { s with main := .waitMitmReady, mitmThread := .running, mitmThreadStarted := true }
    | .failed => some { s with main := .stopMitmServerManager .failedStart }
    | .noTargets => none
  | .waitMitmReady =>
    s.waitReady s.mitmThreadReady outcome .createBootWatchThread (.stopMitmServerManager .failedStart)
  | .createBootWatchThread =>
    let s := { s with serversStarted := true }
    match outcome with
    | .ok =>
      some { s with main := .waitBootWatchReady, bootWatchThread := .running, bootWatchThreadStarted := true }
    | .failed => some { s with main := .createWatchdogThread }
    | .noTargets => none
  | .waitBootWatchReady =>
    s.waitReady s.bootWatchThreadReady outcome .createWatchdogThread .createWatchdogThread
  | .createWatchdogThread =>
    match outcome with
    | .ok =>
      some { s with main := .waitWatchdogReady, watchdogThread := .running, watchdogThreadStarted := true }
    | .failed => some { s with main := .startServersReturns true }
    | .noTargets => none
  | .waitWatchdogReady =>
    s.waitReady s.watchdogThreadReady outcome (.startServersReturns true) (.startServersReturns true)
  | .startServersReturns result =>
    some { s with main := if result then .waitForShutdownRequest else .returned, mitmStartLock := none }
  | .waitForShutdownRequest =>
    if s.shutdownRequestedEvent then some { s with main := .callStopServers } else none
  | .callStopServers =>
    if s.mitmStartLock = none then
      let next := if !s.serversStarted && !s.controlServerManager && !s.mitmServerManager
        then .stopServersReturns else .stopBootWatchThread
      some { s with main := next, mitmStartLock := some .main }
    else none
  | .stopBootWatchThread =>
    if !s.bootWatchThreadStarted then some { s with main := .stopWatchdogThread }
    else if s.bootWatchThread = .finished then
      some { s with main := .stopWatchdogThread, bootWatchThread := .absent, bootWatchThreadStarted := false }
    else none
  | .stopWatchdogThread =>
    if !s.watchdogThreadStarted then some { s with main := .stopMitmServerManager .stopServers }
    else if s.watchdogThread = .finished then
      some { s with
        main := .stopMitmServerManager .stopServers
        watchdogThread := .absent
        watchdogThreadStarted := false }
    else none
  | .stopMitmServerManager cause =>
    if s.mitmServerManager then some { s with main := .waitMitmThread cause, mitmStopRequested := true }
    else some { s with main := .stopControlServerManager cause }
  | .waitMitmThread cause =>
    let s' := { s with main := .stopControlServerManager cause, mitmServerManager := false }
    if !s.mitmThreadStarted then some s'
    else if s.mitmThread = .finished then some { s' with mitmThread := .absent, mitmThreadStarted := false }
    else none
  | .stopControlServerManager cause =>
    if s.controlServerManager then some { s with main := .waitControlThread cause, controlStopRequested := true }
    else some { s with main := afterTeardown cause }
  | .waitControlThread cause =>
    let s' := { s with main := afterTeardown cause, controlServerManager := false }
    if !s.controlThreadStarted then some s'
    else if s.control = .finished then some { s' with control := .absent, controlThreadStarted := false }
    else none
  | .clearEvents => some { s.clearEvents with main := .stopServersReturns, serversStarted := false }
  | .stopServersReturns => some { s with main := .returned, mitmStartLock := none }
  | .returned => none

/-- `RequestShutdown` behind the lock: the first request signals the main thread. -/
def requestShutdown (s : Lifecycle) : Lifecycle :=
  if s.shutdownRequested then { s with control := .serving, mitmStartLock := none }
  else
    { s with
      control := .serving
      mitmStartLock := none
      shutdownRequested := true
      shutdownRequestedEvent := true }

/-- One step of one thread, or a new request of a client; `none` where it is not possible. -/
def step (s : Lifecycle) : LifecycleEvent → Option Lifecycle
  | .main outcome => s.mainStep outcome
  | .clientShutdown => some { s with requests := s.requests + 1 }
  | .controlReady =>
    if s.control = .starting then some { s with control := .serving, controlThreadReady := true } else none
  | .controlTakesShutdown =>
    if s.control = .serving ∧ 0 < s.requests
    then some { s with control := .wantsLock, requests := s.requests - 1 } else none
  | .controlLocks =>
    if s.control = .wantsLock ∧ s.mitmStartLock = none
    then some { s with control := .requestShutdown, mitmStartLock := some .control } else none
  | .controlReturns => if s.control = .requestShutdown then some s.requestShutdown else none
  | .controlLeaves =>
    if s.control = .serving ∧ s.controlStopRequested then some { s with control := .finished } else none
  | .mitmReady => if s.mitmThread = .running then some { s with mitmThreadReady := true } else none
  | .mitmLeaves =>
    if s.mitmThread = .running ∧ s.mitmThreadReady ∧ s.mitmStopRequested
    then some { s with mitmThread := .finished } else none
  | .bootWatchReady => if s.bootWatchThread = .running then some { s with bootWatchThreadReady := true } else none
  | .bootWatchLeaves =>
    if s.bootWatchThread = .running ∧ s.bootWatchThreadReady
    then some { s with bootWatchThread := .finished } else none
  | .watchdogReady => if s.watchdogThread = .running then some { s with watchdogThreadReady := true } else none
  | .watchdogLeaves =>
    if s.watchdogThread = .running ∧ s.watchdogThreadReady ∧ s.shutdownRequestedEvent
    then some { s with watchdogThread := .finished } else none

def next (s : Lifecycle) (e : LifecycleEvent) : Lifecycle := (s.step e).getD s

/-- Every event of the run is possible where it happens. -/
def Possible (s : Lifecycle) (events : List LifecycleEvent) : Prop :=
  Guarded next (fun s e => (s.step e).isSome = true) s events

/-- The main thread holds the lock and waits for the control thread, which waits for the lock. -/
def Deadlocked (s : Lifecycle) : Prop :=
  s.mitmStartLock = some .main ∧ (∃ cause, s.main = .waitControlThread cause) ∧
    s.controlThreadStarted = true ∧ s.control = .wantsLock

end Lifecycle

open Lifecycle

/-- The main thread is between the start of a teardown and the end of the control thread. -/
def MainPc.tearingDown : MainPc → Bool
  | .stopBootWatchThread | .stopWatchdogThread | .stopMitmServerManager _ | .waitMitmThread _
  | .stopControlServerManager _ | .waitControlThread _ => true
  | _ => false

def MainPc.startsTeardown : MainPc → Outcome → Bool
  | .waitControlReady,.failed | .registerTargets,.failed | .createMitmThread,.failed
  | .waitMitmReady,.failed | .callStopServers,_ => true
  | _,_ => false

def MainPc.holdsLock : MainPc → Bool
  | .main | .waitForShutdownRequest | .callStopServers | .returned => false
  | _ => true

/-- No handler stands in front of the lock when a teardown begins, and none is started
while it lasts. -/
def AvoidsConflict (s : Lifecycle) : LifecycleEvent → Prop
  | .main outcome => s.main.startsTeardown outcome = true → s.control ≠ .wantsLock
  | .controlTakesShutdown => s.main.tearingDown = false
  | _ => True

instance (s : Lifecycle) : (e : LifecycleEvent) → Decidable (AvoidsConflict s e)
  | .main outcome => inferInstanceAs (Decidable (s.main.startsTeardown outcome = true → s.control ≠ .wantsLock))
  | .controlTakesShutdown => inferInstanceAs (Decidable (s.main.tearingDown = false))
  | .clientShutdown | .controlReady | .controlLocks | .controlReturns | .controlLeaves | .mitmReady
  | .mitmLeaves | .bootWatchReady | .bootWatchLeaves | .watchdogReady | .watchdogLeaves => .isTrue trivial

theorem waitReady_some {s s' : Lifecycle} {ready : Bool} {outcome : Outcome} {onReady onTimeout : MainPc}
    (h : s.waitReady ready outcome onReady onTimeout = some s') :
    (outcome = .ok ∧ s' = { s with main := onReady }) ∨
      (outcome = .failed ∧ s' = { s with main := onTimeout }) := by
  unfold Lifecycle.waitReady at h
  split at h
  · exact .inl ⟨rfl,(Option.some.inj h).symm⟩
  · exact .inr ⟨rfl,(Option.some.inj h).symm⟩
  · cases h

/-- All a step of the main thread can do to the control thread and the lock. -/
structure MainMoves (s : Lifecycle) (outcome : Outcome) (s' : Lifecycle) : Prop where
  control : s'.control = s.control ∨ s.main = .createControlThread ∧ s'.control = .starting ∨
    s.control = .finished ∧ s'.control = .absent
  teardown : s'.main.tearingDown = true →
    s.main.tearingDown = true ∨ s.main.startsTeardown outcome = true
  lock : s'.main.holdsLock = s.main.holdsLock ∧ s'.mitmStartLock = s.mitmStartLock ∨
    s.main.holdsLock = false ∧ s.mitmStartLock = none ∧ s'.main.holdsLock = true ∧
      s'.mitmStartLock = some .main ∨
    s.main.holdsLock = true ∧ s'.main.holdsLock = false ∧ s'.mitmStartLock = none

theorem mainStep_moves {s s' : Lifecycle} {outcome : Outcome} (h : s.mainStep outcome = some s') :
    MainMoves s outcome s' := by
  cases pc : s.main with
  | waitControlReady | waitMitmReady | waitBootWatchReady | waitWatchdogReady =>
    simp only [Lifecycle.mainStep,pc] at h
    rcases waitReady_some h with ⟨rfl,rfl⟩ | ⟨rfl,rfl⟩ <;> constructor <;>
      simp [pc,MainPc.holdsLock,MainPc.tearingDown,MainPc.startsTeardown]
  | startServersReturns result =>
    simp only [Lifecycle.mainStep,pc] at h
    cases h
    cases result <;> constructor <;> simp [pc,MainPc.holdsLock,MainPc.tearingDown]
  | stopControlServerManager cause | waitControlThread cause =>
    simp only [Lifecycle.mainStep,pc] at h
    cases cause <;> (repeat' split at h) <;> cases h <;> constructor <;>
      simp_all [afterTeardown,MainPc.holdsLock,MainPc.tearingDown]
  | _ =>
    simp only [Lifecycle.mainStep,pc] at h
    (repeat' split at h) <;> cases h <;> constructor <;>
      simp_all [clearEvents,MainPc.holdsLock,MainPc.tearingDown,MainPc.startsTeardown]

/-- Every thread that holds the lock is inside a scope of it, and the other way round. -/
structure LockDiscipline (s : Lifecycle) : Prop where
  main : s.mitmStartLock = some .main ↔ s.main.holdsLock = true
  control : s.mitmStartLock = some .control ↔ s.control = .requestShutdown

theorem LockDiscipline.step {s s' : Lifecycle} (discipline : LockDiscipline s) {e : LifecycleEvent}
    (h : s.step e = some s') : LockDiscipline s' := by
  obtain ⟨main,control⟩ := discipline
  cases e with
  | main outcome =>
    obtain ⟨moved,_,lock⟩ := mainStep_moves h
    rcases lock with ⟨same,kept⟩ | ⟨out,free,inside,taken⟩ | ⟨inside,out,freed⟩
    · refine ⟨by rw [kept,same,main],?_⟩
      rw [kept,control]
      rcases moved with unmoved | ⟨pc,starting⟩ | ⟨finished,absent⟩
      · rw [unmoved]
      · -- Creating the thread, the main thread has the lock, so no handler has it.
        have held := main.mpr (by simp [pc,MainPc.holdsLock])
        have other : s.control ≠ .requestShutdown := by
          intro handling
          cases held.symm.trans (control.mpr handling)
        simp [starting,other]
      · simp [finished,absent]
    · have other : s.control ≠ .requestShutdown := by
        intro handling
        cases free.symm.trans (control.mpr handling)
      refine ⟨by simp [taken,inside],?_⟩
      rcases moved with unmoved | ⟨_,starting⟩ | ⟨_,absent⟩ <;> simp_all
    · have held := main.mpr inside
      have other : s.control ≠ .requestShutdown := by
        intro handling
        cases held.symm.trans (control.mpr handling)
      refine ⟨by simp [freed,out],?_⟩
      rcases moved with unmoved | ⟨_,starting⟩ | ⟨_,absent⟩ <;> simp_all
  | controlReturns =>
    simp only [Lifecycle.step] at h
    split at h
    · next handling =>
      have held := control.mpr handling
      have outside : s.main.holdsLock = false := by
        apply Bool.eq_false_iff.mpr
        intro inside
        cases held.symm.trans (main.mpr inside)
      cases h
      unfold Lifecycle.requestShutdown
      split <;> (constructor <;> simp [outside])
    · cases h
  | controlLocks =>
    simp only [Lifecycle.step] at h
    split at h
    · next waiting =>
      cases h
      constructor
      · have outside : ¬s.main.holdsLock = true := fun inside => by
          cases waiting.2.symm.trans (main.mpr inside)
        simp [outside]
      · simp
    · cases h
  | _ =>
    simp only [Lifecycle.step] at h
    (try split at h) <;> cases h
    all_goals constructor <;> simp_all

/-- No handler waits for the lock while the main thread tears down. -/
def Undisturbed (s : Lifecycle) : Prop := s.main.tearingDown = true → s.control ≠ .wantsLock

theorem Undisturbed.not_deadlocked {s : Lifecycle} (undisturbed : Undisturbed s) : ¬s.Deadlocked := by
  rintro ⟨_,⟨cause,pc⟩,_,waiting⟩
  exact undisturbed (by simp [pc,MainPc.tearingDown]) waiting

theorem Undisturbed.step {s s' : Lifecycle} (undisturbed : Undisturbed s) {e : LifecycleEvent}
    (h : s.step e = some s') (avoids : AvoidsConflict s e) : Undisturbed s' := by
  intro inside
  cases e with
  | main outcome =>
    obtain ⟨moved,teardown,_⟩ := mainStep_moves h
    have quiet : s.control ≠ .wantsLock := by
      rcases teardown inside with already | begins
      · exact undisturbed already
      · exact avoids begins
    rcases moved with unmoved | ⟨_,starting⟩ | ⟨_,absent⟩
    · rw [unmoved]
      exact quiet
    · simp [starting]
    · simp [absent]
  | controlTakesShutdown =>
    simp only [Lifecycle.step] at h
    split at h
    · cases h
      cases avoids.symm.trans inside
    · cases h
  | controlReturns =>
    simp only [Lifecycle.step] at h
    split at h
    · cases h
      unfold Lifecycle.requestShutdown
      split <;> simp
    · cases h
  | _ =>
    simp only [Lifecycle.step] at h
    (try split at h) <;> cases h
    all_goals simp_all [Undisturbed]

theorem next_of_step {s s' : Lifecycle} {e : LifecycleEvent} (h : s.step e = some s') : s.next e = s' := by
  simp [Lifecycle.next,h]

/-- An invariant of possible steps under a guard holds of every state of a run. -/
theorem invariant_of_steps (Inv : Lifecycle → Prop) (guard : Lifecycle → LifecycleEvent → Prop)
    (preserved : ∀ s s' e, Inv s → guard s e → s.step e = some s' → Inv s') {s : Lifecycle}
    {events : List LifecycleEvent} (initial : Inv s) (possible : s.Possible events)
    (guarded : Guarded Lifecycle.next guard s events) : ∀ before after, events = before ++ after →
      Inv (before.foldl Lifecycle.next s) := by
  rintro before after rfl
  refine (Guarded.and possible guarded).before.invariant Inv (fun s e inv h => ?_) initial
  obtain ⟨s',taken⟩ := Option.isSome_iff_exists.mp h.1
  rw [next_of_step taken]
  exact preserved s s' e inv h.2 taken

/-- In every run the lock is held by the thread that is inside its scope, by one at most. -/
theorem lockDiscipline_run {events : List LifecycleEvent} (possible : Lifecycle.initial.Possible events) :
    ∀ before after, events = before ++ after → LockDiscipline (before.foldl Lifecycle.next .initial) :=
  invariant_of_steps LockDiscipline (fun _ _ => True)
    (fun _ _ _ discipline _ h => discipline.step h) ⟨by decide,by decide⟩ possible
    (Guarded.of_forall (fun _ _ => trivial) _ _)

/-- A run whose handlers keep out of teardowns never deadlocks. -/
theorem lifecycle_no_deadlock {events : List LifecycleEvent} (possible : Lifecycle.initial.Possible events)
    (avoids : Guarded Lifecycle.next AvoidsConflict .initial events) :
    ∀ before after, events = before ++ after → ¬(before.foldl Lifecycle.next .initial).Deadlocked := by
  intro before after split
  have undisturbed := invariant_of_steps Undisturbed AvoidsConflict
    (fun _ _ _ undisturbed avoids h => undisturbed.step h avoids) (by simp [Undisturbed,Lifecycle.initial])
    possible avoids before after split
  exact undisturbed.not_deadlocked

/-- A deadlock is for ever: no step of any thread ends it. -/
theorem deadlocked_stays {s s' : Lifecycle} (deadlocked : s.Deadlocked) {e : LifecycleEvent}
    (h : s.step e = some s') : s'.Deadlocked := by
  obtain ⟨held,⟨cause,pc⟩,started,waiting⟩ := deadlocked
  cases e with
  | main outcome => simp [Lifecycle.step,Lifecycle.mainStep,pc,started,waiting] at h
  | _ =>
    simp only [Lifecycle.step] at h
    (try split at h) <;> cases h
    all_goals simp_all [Lifecycle.Deadlocked]

/-- A start of all servers up to the wait for a shutdown request. -/
def startedServers : List LifecycleEvent :=
  [.main .ok,.main .ok,.main .ok,.main .ok,.controlReady,.main .ok,.main .ok,.main .ok,.mitmReady,.main .ok,
    .main .ok,.bootWatchReady,.main .ok,.main .ok,.watchdogReady,.main .ok,.main .ok]

/-- One request, and a stop that ends. -/
def orderlyShutdown : List LifecycleEvent :=
  startedServers ++ [.clientShutdown,.controlTakesShutdown,.controlLocks,.controlReturns,.main .ok,.main .ok,
    .bootWatchLeaves,.watchdogLeaves,.main .ok,.main .ok,.main .ok,.mitmLeaves,.main .ok,.main .ok,
    .controlLeaves,.main .ok,.main .ok,.main .ok]

theorem lifecycle_no_deadlock_orderly : ¬(orderlyShutdown.foldl Lifecycle.next .initial).Deadlocked :=
  lifecycle_no_deadlock (by unfold Lifecycle.Possible; decide) (by decide) orderlyShutdown []
    (List.append_nil _).symm

/-- A second request is taken after `StopServers` has locked and before it stops the control server. -/
def secondShutdown : List LifecycleEvent :=
  startedServers ++ [.clientShutdown,.clientShutdown,.controlTakesShutdown,.controlLocks,.controlReturns,
    .main .ok,.main .ok,.controlTakesShutdown,.bootWatchLeaves,.watchdogLeaves,.main .ok,.main .ok,.main .ok,
    .mitmLeaves,.main .ok,.main .ok]

theorem lifecycle_deadlocks :
    ¬∀ events, Lifecycle.initial.Possible events → ∀ before after, events = before ++ after →
      ¬(before.foldl Lifecycle.next .initial).Deadlocked := by
  intro never
  refine never secondShutdown (by unfold Lifecycle.Possible; decide) secondShutdown [] (by simp) ?_
  exact ⟨by decide,⟨.stopServers,by decide⟩,by decide,by decide⟩

end NxReverse.Probe
