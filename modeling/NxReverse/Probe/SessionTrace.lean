import Mathlib.Data.Finset.Card
import NxReverse.Lib.Runs
import NxReverse.Probe.Tables

/-! `LogSessionTrace`: the session callback of the monitor, with the records it writes.
The tracker is compared with the handles that are really open over runs of events from
any number of sessions. -/
namespace NxReverse.Probe

open Slots Text Runs

inductive SessionTraceEventType where
  | accepted | cloneRegistered | waitRegistered | waitSelected | waitFinalized
  | forwardServiceDestroyBegin | forwardServiceDestroyEnd | destroyBegin | destroyEnd
  | nativeHandleClosed | processForSessionBegin | processForSessionEnd | close
  deriving DecidableEq, Repr

structure SessionTraceContext where
  eventType : SessionTraceEventType
  serviceName : CString
  clientInfo : MitmProcessInfo
  sessionId : SessionId
  sessionHandle : NativeHandle
  peerHandle : NativeHandle
  hasForwardHandle : Bool
  forwardHandle : NativeHandle
  deriving DecidableEq, Repr

/-- The `event` member of the record that closes every `LogSessionTrace` call. -/
inductive SessionEventName where
  | acceptedSessionRegistered | cloneSessionRegistered | sessionWaitRegistered
  | sessionWaitSelected | sessionWaitFinalized | forwardServiceDestroyBegin
  | forwardServiceDestroyEnd | sessionDestroyBegin | sessionDestroyEnd
  | sessionNativeHandleClosed | processForSessionBegin | processForSessionEnd
  | clientDisconnected | clientHandleClosed
  deriving DecidableEq, Repr

inductive HandlePhase where
  | accepted | cloneRegistered | closeObserved | preDisconnectFinal | preDisconnectEmpty
  deriving DecidableEq, Repr

structure SessionRecord where
  eventName : SessionEventName
  serviceName : CString
  clientInfo : MitmProcessInfo
  sessionId : SessionId
  sessionHandle : NativeHandle
  activeSessionCount : Nat
  /-- Present for `Accepted` and `CloneRegistered` only. -/
  peerHandle : Option NativeHandle
  hasForwardHandle : Bool
  forwardHandle : NativeHandle
  outstandingCloneCount : Nat
  activeHandleCount : Nat
  totalHandleCount : Nat
  deriving DecidableEq, Repr

inductive TraceRecord where
  | session (record : SessionRecord)
  | sessionHandleState (phase : HandlePhase) (entry : SessionHandleEntry) (active total : Nat)
  | cloneHandleState (phase : HandlePhase) (entry : CloneHandleEntry) (outstanding : Nat)
  | domainSnapshot (objectPath : CString) (entry : DomainPathEntry) (activeCount index : Nat)
  deriving DecidableEq, Repr

def encodeServiceName (name : CString) : CString := if name = [] then "<invalid>".toList else name

/-- One record a tracked object of the session; none for an unknown session. -/
def logDomainSnapshotForSession (t : Tracker) (sessionId : SessionId) : List TraceRecord :=
  match t.copyTrackedDomainPathsForSession sessionId with
  | (_,none) => []
  | (entries,some session) => entries.mapIdx fun index entry =>
      .domainSnapshot (t.formatObjectPath 160 (encodeServiceName session.serviceName) sessionId
        entry.objectId) entry entries.length index

/-- The counts every branch of the switch reads under the lock. -/
def sessionRecord (t : Tracker) (ctx : SessionTraceContext) (eventName : SessionEventName) :
    SessionRecord where
  eventName := eventName
  serviceName := encodeServiceName ctx.serviceName
  clientInfo := ctx.clientInfo
  sessionId := ctx.sessionId
  sessionHandle := ctx.sessionHandle
  activeSessionCount := t.countTrackedSessions
  peerHandle := none
  hasForwardHandle := ctx.hasForwardHandle
  forwardHandle := ctx.forwardHandle
  outstandingCloneCount := t.countTrackedCloneHandlesForSession ctx.sessionId
  activeHandleCount := t.countTrackedSessionHandlesForSession ctx.sessionId true
  totalHandleCount := t.countTrackedSessionHandlesForSession ctx.sessionId false

def rememberContextHandle (now : Nat) (ctx : SessionTraceContext) (isClone : Bool) (t : Tracker) :
    Tracker × SessionHandleEntry :=
  t.rememberSessionHandle now ctx.sessionId ctx.sessionHandle ctx.peerHandle ctx.forwardHandle
    ctx.hasForwardHandle isClone

def logAccepted (now : Nat) (ctx : SessionTraceContext) (t : Tracker) : Tracker × List TraceRecord :=
  let (t,entry) := rememberContextHandle now ctx false t
  let record := { sessionRecord t ctx .acceptedSessionRegistered with peerHandle := some ctx.peerHandle }
  (t,[.sessionHandleState .accepted entry record.activeHandleCount record.totalHandleCount,
    .session record])

def logCloneRegistered (now : Nat) (ctx : SessionTraceContext) (t : Tracker) :
    Tracker × List TraceRecord :=
  let (t,entry) := rememberContextHandle now ctx true t
  let (t,clone,_) := t.noteCloneRegistered now ctx.sessionId ctx.peerHandle ctx.sessionHandle
    ctx.forwardHandle ctx.hasForwardHandle
  let record := { sessionRecord t ctx .cloneSessionRegistered with peerHandle := some ctx.peerHandle }
  (t,.sessionHandleState .cloneRegistered entry record.activeHandleCount record.totalHandleCount ::
    clone.toList.map (.cloneHandleState .cloneRegistered · record.outstandingCloneCount) ++
    [.session record])

def emptyCloneEntry : CloneHandleEntry := ⟨0,-1,-1,-1,false,false,0,0,0,false⟩

def preDisconnectRecords (t : Tracker) (sessionId : SessionId) : List TraceRecord :=
  let clones := t.copyTrackedCloneHandlesForSession sessionId
  logDomainSnapshotForSession t sessionId ++
    if clones = [] then [.cloneHandleState .preDisconnectEmpty emptyCloneEntry 0]
    else clones.map (.cloneHandleState .preDisconnectFinal · clones.length)

def logClose (now : Nat) (ctx : SessionTraceContext) (t : Tracker) : Tracker × List TraceRecord :=
  let tracked := t.findSessionEntry ctx.sessionId
  let (t,handle,active,total) := t.markSessionHandleCloseObserved now ctx.sessionId ctx.sessionHandle
  let (t,clone,cloneCount) := t.markCloneClosedByServerHandle now ctx.sessionId ctx.sessionHandle
  let finalClose : Bool := active == 0
  let before := if finalClose ∧ tracked.isSome then preDisconnectRecords t ctx.sessionId else []
  let (after,remaining) :=
    if finalClose then
      let (forgotten,_,remaining) := t.forgetSession ctx.sessionId
      (forgotten,remaining)
    else (t,t.countTrackedSessions)
  let record := { sessionRecord t ctx (if finalClose then .clientDisconnected else .clientHandleClosed) with
    activeSessionCount := remaining
    outstandingCloneCount := cloneCount
    activeHandleCount := active
    totalHandleCount := total }
  (after,before ++ handle.toList.map (.sessionHandleState .closeObserved · active total) ++
    clone.toList.map (.cloneHandleState .closeObserved · cloneCount) ++ [.session record])

def logSessionTrace (now : Nat) (ctx : SessionTraceContext) (t : Tracker) : Tracker × List TraceRecord :=
  -- All events but the three of the tracker only report the current counts.
  let report (eventName : SessionEventName) := (t,[TraceRecord.session (sessionRecord t ctx eventName)])
  match ctx.eventType with
  | .accepted => logAccepted now ctx t
  | .cloneRegistered => logCloneRegistered now ctx t
  | .waitRegistered => report .sessionWaitRegistered
  | .waitSelected => report .sessionWaitSelected
  | .waitFinalized => report .sessionWaitFinalized
  | .forwardServiceDestroyBegin => report .forwardServiceDestroyBegin
  | .forwardServiceDestroyEnd => report .forwardServiceDestroyEnd
  | .destroyBegin => report .sessionDestroyBegin
  | .destroyEnd => report .sessionDestroyEnd
  | .nativeHandleClosed => report .sessionNativeHandleClosed
  | .processForSessionBegin => report .processForSessionBegin
  | .processForSessionEnd => report .processForSessionEnd
  | .close => logClose now ctx t

end NxReverse.Probe
