import NxReverse.Lib.SlotTable
import NxReverse.Lib.Text

/-! The tracker of `mitm_trace.cpp`: four fixed tables shared by all sessions. An entry
whose `used` flag is false is a free slot here, so its stale fields cannot be read.
`now` is what `GetMonotonicNs` answers inside the call. -/
namespace NxReverse.Probe

open Slots Text

abbrev SessionId := Nat
abbrev ObjectId := Nat
abbrev NativeHandle := Int

def maxTrackedDomainPaths : Nat := 256
def maxDomainPathLength : Nat := 96
def maxTrackedSessions : Nat := 64
def maxTrackedSessionHandles : Nat := 128
def maxTrackedCloneHandles : Nat := 128

structure MitmProcessInfo where
  processId : Nat
  programId : Nat
  deriving DecidableEq, Repr

structure DomainPathEntry where
  sessionId : SessionId
  objectId : ObjectId
  parentObjectId : ObjectId
  creatorCommandId : Nat
  createdTsNs : Nat
  closeSeenTsNs : Nat
  closeObserved : Bool
  relativePath : CString
  deriving DecidableEq, Repr

structure SessionEntry where
  serviceName : CString
  clientInfo : MitmProcessInfo
  sessionId : SessionId
  deriving DecidableEq, Repr

structure SessionHandleEntry where
  sessionId : SessionId
  sessionHandle : NativeHandle
  peerHandle : NativeHandle
  forwardHandle : NativeHandle
  hasForwardHandle : Bool
  isClone : Bool
  createdTsNs : Nat
  closeSeenTsNs : Nat
  closeObserved : Bool
  deriving DecidableEq, Repr

structure CloneHandleEntry where
  sessionId : SessionId
  handle : NativeHandle
  serverHandle : NativeHandle
  forwardHandle : NativeHandle
  hasForwardHandle : Bool
  cloneRegistered : Bool
  managerCommandId : Nat
  createdTsNs : Nat
  closeSeenTsNs : Nat
  closeObserved : Bool
  deriving DecidableEq, Repr

def DomainPathEntry.key (e : DomainPathEntry) : SessionId × ObjectId := (e.sessionId,e.objectId)
def SessionHandleEntry.key (e : SessionHandleEntry) : SessionId × NativeHandle :=
  (e.sessionId,e.sessionHandle)
def CloneHandleEntry.key (e : CloneHandleEntry) : SessionId × NativeHandle := (e.sessionId,e.handle)

structure Tracker where
  domainPaths : Table DomainPathEntry maxTrackedDomainPaths
  sessions : Table SessionEntry maxTrackedSessions
  sessionHandles : Table SessionHandleEntry maxTrackedSessionHandles
  cloneHandles : Table CloneHandleEntry maxTrackedCloneHandles

namespace Tracker

/-- The state `Initialize` leaves behind. -/
def reset : Tracker := ⟨.empty _ _,.empty _ _,.empty _ _,.empty _ _⟩

def forgetDomainPathsForSession (t : Tracker) (sessionId : SessionId) : Tracker :=
  { t with domainPaths := t.domainPaths.erase fun e => e.sessionId == sessionId }

def forgetCloneHandlesForSession (t : Tracker) (sessionId : SessionId) : Tracker :=
  { t with cloneHandles := t.cloneHandles.erase fun e => e.sessionId == sessionId }

def forgetSessionHandlesForSession (t : Tracker) (sessionId : SessionId) : Tracker :=
  { t with sessionHandles := t.sessionHandles.erase fun e => e.sessionId == sessionId }

def countTrackedSessions (t : Tracker) : Nat := t.sessions.count fun _ => true

def countTrackedCloneHandlesForSession (t : Tracker) (sessionId : SessionId) : Nat :=
  t.cloneHandles.count fun e => e.sessionId == sessionId && !e.closeObserved

/-- The output array holds `maxTrackedCloneHandles` entries, so nothing is cut off. -/
def copyTrackedCloneHandlesForSession (t : Tracker) (sessionId : SessionId) : List CloneHandleEntry :=
  t.cloneHandles.entries.filter fun e => e.sessionId == sessionId && !e.closeObserved

def countTrackedSessionHandlesForSession (t : Tracker) (sessionId : SessionId) (activeOnly : Bool) : Nat :=
  t.sessionHandles.count fun e => e.sessionId == sessionId && !(activeOnly && e.closeObserved)

def findSessionEntry (t : Tracker) (sessionId : SessionId) : Option SessionEntry :=
  t.sessions.find? fun e => e.sessionId == sessionId

def copyTrackedDomainPathsForSession (t : Tracker) (sessionId : SessionId) :
    List DomainPathEntry × Option SessionEntry :=
  (t.domainPaths.entries.filter fun e => e.sessionId == sessionId,t.findSessionEntry sessionId)

/-- A full table gives up slot 0 together with everything known about its session. -/
def rememberSession (t : Tracker) (serviceName : CString) (sessionId : SessionId)
    (clientInfo : MitmProcessInfo) : Tracker × Nat :=
  let entry : SessionEntry := ⟨serviceName,clientInfo,sessionId⟩
  let remembered :=
    match t.findSessionEntry sessionId with
    | some _ =>
      { t with sessions := t.sessions.update (fun e => e.sessionId == sessionId) fun _ => entry }
    | none =>
      let kept :=
        match t.sessions.victim with
        | some evicted =>
          ((t.forgetDomainPathsForSession evicted.sessionId).forgetSessionHandlesForSession
            evicted.sessionId).forgetCloneHandlesForSession evicted.sessionId
        | none => t
      { kept with sessions := kept.sessions.place entry }
  (remembered,remembered.countTrackedSessions)

/-- The forgotten entry, if there was one, and the count of the sessions that remain. -/
def forgetSession (t : Tracker) (sessionId : SessionId) : Tracker × Option SessionEntry × Nat :=
  let forgotten : Tracker := { t with sessions := t.sessions.release fun e => e.sessionId == sessionId }
  let cleared := ((forgotten.forgetDomainPathsForSession sessionId).forgetSessionHandlesForSession
    sessionId).forgetCloneHandlesForSession sessionId
  (cleared,t.findSessionEntry sessionId,cleared.countTrackedSessions)

def rememberDomainPath (t : Tracker) (now : Nat) (sessionId : SessionId) (objectId : ObjectId)
    (relativePath : CString) (parentObjectId : ObjectId) (creatorCommandId : Nat) : Tracker :=
  if objectId = 0 ∨ relativePath = [] then t
  else
    let path := snprintf maxDomainPathLength relativePath
    -- A known object keeps its close flag and its first time stamp.
    let update (e : DomainPathEntry) : DomainPathEntry :=
      { e with
        relativePath := path
        parentObjectId := parentObjectId
        creatorCommandId := creatorCommandId
        createdTsNs := if e.createdTsNs = 0 then now else e.createdTsNs }
    let fresh : DomainPathEntry :=
      ⟨sessionId,objectId,parentObjectId,creatorCommandId,now,0,false,path⟩
    { t with domainPaths := (t.domainPaths.upsert (fun e => e.key == (sessionId,objectId)) update fresh).1 }

def rememberCloneHandle (t : Tracker) (now : Nat) (sessionId : SessionId) (handle : NativeHandle)
    (managerCommandId : Nat) : Tracker × CloneHandleEntry :=
  let update (e : CloneHandleEntry) : CloneHandleEntry :=
    { e with
      managerCommandId := managerCommandId
      createdTsNs := if e.createdTsNs = 0 then now else e.createdTsNs
      closeObserved := false
      closeSeenTsNs := 0 }
  let fresh : CloneHandleEntry := ⟨sessionId,handle,-1,-1,false,false,managerCommandId,now,0,false⟩
  let stored := t.cloneHandles.upsert (fun e => e.key == (sessionId,handle)) update fresh
  ({ t with cloneHandles := stored.1 },stored.2)

def rememberSessionHandle (t : Tracker) (now : Nat) (sessionId : SessionId)
    (sessionHandle peerHandle forwardHandle : NativeHandle) (hasForwardHandle isClone : Bool) :
    Tracker × SessionHandleEntry :=
  let update (e : SessionHandleEntry) : SessionHandleEntry :=
    { e with
      peerHandle := peerHandle
      forwardHandle := forwardHandle
      hasForwardHandle := hasForwardHandle
      isClone := isClone
      createdTsNs := if e.createdTsNs = 0 then now else e.createdTsNs
      closeObserved := false
      closeSeenTsNs := 0 }
  let fresh : SessionHandleEntry :=
    ⟨sessionId,sessionHandle,peerHandle,forwardHandle,hasForwardHandle,isClone,now,0,false⟩
  let stored := t.sessionHandles.upsert (fun e => e.key == (sessionId,sessionHandle)) update fresh
  ({ t with sessionHandles := stored.1 },stored.2)

/-- The marked entry if the handle is tracked, then the active and the total handle
count of the session, both taken after the mark. -/
def markSessionHandleCloseObserved (t : Tracker) (now : Nat) (sessionId : SessionId)
    (sessionHandle : NativeHandle) : Tracker × Option SessionHandleEntry × Nat × Nat :=
  let tracked (e : SessionHandleEntry) : Bool := e.key == (sessionId,sessionHandle)
  let mark (e : SessionHandleEntry) : SessionHandleEntry :=
    { e with closeObserved := true, closeSeenTsNs := now }
  let marked := { t with sessionHandles := t.sessionHandles.update tracked mark }
  (marked,(t.sessionHandles.find? tracked).map mark,
    marked.countTrackedSessionHandlesForSession sessionId true,
    marked.countTrackedSessionHandlesForSession sessionId false)

def noteCloneRegistered (t : Tracker) (now : Nat) (sessionId : SessionId)
    (clientHandle serverHandle forwardHandle : NativeHandle) (hasForwardHandle : Bool) :
    Tracker × Option CloneHandleEntry × Nat :=
  let tracked (e : CloneHandleEntry) : Bool := e.key == (sessionId,clientHandle)
  let register (e : CloneHandleEntry) : CloneHandleEntry :=
    { e with
      serverHandle := serverHandle
      forwardHandle := forwardHandle
      hasForwardHandle := hasForwardHandle
      cloneRegistered := true
      closeObserved := false
      closeSeenTsNs := 0 }
  -- An unknown clone is remembered first, with manager command 0.
  let known :=
    match t.cloneHandles.find? tracked with
    | some _ => t
    | none => (t.rememberCloneHandle now sessionId clientHandle 0).1
  let registered := { known with cloneHandles := known.cloneHandles.update tracked register }
  (registered,(known.cloneHandles.find? tracked).map register,
    registered.countTrackedCloneHandlesForSession sessionId)

def markCloneClosedByServerHandle (t : Tracker) (now : Nat) (sessionId : SessionId)
    (serverHandle : NativeHandle) : Tracker × Option CloneHandleEntry × Nat :=
  let tracked (e : CloneHandleEntry) : Bool :=
    e.sessionId == sessionId && e.serverHandle == serverHandle && !e.closeObserved
  let mark (e : CloneHandleEntry) : CloneHandleEntry :=
    { e with closeObserved := true, closeSeenTsNs := now }
  let marked := { t with cloneHandles := t.cloneHandles.update tracked mark }
  (marked,(t.cloneHandles.find? tracked).map mark,marked.countTrackedCloneHandlesForSession sessionId)

def markDomainPathCloseObserved (t : Tracker) (now : Nat) (sessionId : SessionId) (objectId : ObjectId) :
    Tracker × Option DomainPathEntry :=
  if objectId = 0 then (t,none)
  else
    let tracked (e : DomainPathEntry) : Bool := e.key == (sessionId,objectId)
    let mark (e : DomainPathEntry) : DomainPathEntry :=
      { e with closeObserved := true, closeSeenTsNs := now }
    ({ t with domainPaths := t.domainPaths.update tracked mark },
      (t.domainPaths.find? tracked).map mark)

def getTrackedDomainPath (t : Tracker) (sessionId : SessionId) (objectId : ObjectId) :
    Option DomainPathEntry :=
  t.domainPaths.find? fun e => e.key == (sessionId,objectId)

def getRelativeDomainPath (t : Tracker) (outSize : Nat) (sessionId : SessionId) (objectId : ObjectId) :
    CString :=
  if objectId = 0 then snprintf outSize "root".toList
  else
    match t.getTrackedDomainPath sessionId objectId with
    | some entry => snprintf outSize entry.relativePath
    | none => snprintf outSize ("obj".toList ++ decimal objectId)

def formatObjectPath (t : Tracker) (outSize : Nat) (serviceName : CString) (sessionId : SessionId)
    (objectId : ObjectId) : CString :=
  snprintf outSize (serviceName ++ '.' :: t.getRelativeDomainPath maxDomainPathLength sessionId objectId)

end Tracker

end NxReverse.Probe
