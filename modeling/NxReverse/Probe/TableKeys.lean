import NxReverse.Probe.Tables

/-! The four tables of the tracker never hold two entries under one key, whatever is remembered,
marked and forgotten in which order, so a search by key does not depend on the slots. -/
namespace NxReverse.Probe

open Slots Text

/-- A call into the tracker that changes a table, with what the clock answers in it. -/
inductive TrackerOp where
  | rememberSession (serviceName : CString) (sessionId : SessionId) (clientInfo : MitmProcessInfo)
  | forgetSession (sessionId : SessionId)
  | forgetDomainPathsForSession (sessionId : SessionId)
  | forgetCloneHandlesForSession (sessionId : SessionId)
  | forgetSessionHandlesForSession (sessionId : SessionId)
  | rememberDomainPath (now : Nat) (sessionId : SessionId) (objectId : ObjectId) (relativePath : CString)
      (parentObjectId : ObjectId) (creatorCommandId : Nat)
  | rememberCloneHandle (now : Nat) (sessionId : SessionId) (handle : NativeHandle) (managerCommandId : Nat)
  | rememberSessionHandle (now : Nat) (sessionId : SessionId)
      (sessionHandle peerHandle forwardHandle : NativeHandle) (hasForwardHandle isClone : Bool)
  | noteCloneRegistered (now : Nat) (sessionId : SessionId)
      (clientHandle serverHandle forwardHandle : NativeHandle) (hasForwardHandle : Bool)
  | markSessionHandleCloseObserved (now : Nat) (sessionId : SessionId) (sessionHandle : NativeHandle)
  | markCloneClosedByServerHandle (now : Nat) (sessionId : SessionId) (serverHandle : NativeHandle)
  | markDomainPathCloseObserved (now : Nat) (sessionId : SessionId) (objectId : ObjectId)

namespace Tracker

def apply (t : Tracker) : TrackerOp → Tracker
  | .rememberSession serviceName sessionId clientInfo => (t.rememberSession serviceName sessionId clientInfo).1
  | .forgetSession sessionId => (t.forgetSession sessionId).1
  | .forgetDomainPathsForSession sessionId => t.forgetDomainPathsForSession sessionId
  | .forgetCloneHandlesForSession sessionId => t.forgetCloneHandlesForSession sessionId
  | .forgetSessionHandlesForSession sessionId => t.forgetSessionHandlesForSession sessionId
  | .rememberDomainPath now sessionId objectId relativePath parentObjectId creatorCommandId =>
    t.rememberDomainPath now sessionId objectId relativePath parentObjectId creatorCommandId
  | .rememberCloneHandle now sessionId handle managerCommandId =>
    (t.rememberCloneHandle now sessionId handle managerCommandId).1
  | .rememberSessionHandle now sessionId sessionHandle peerHandle forwardHandle hasForwardHandle isClone =>
    (t.rememberSessionHandle now sessionId sessionHandle peerHandle forwardHandle hasForwardHandle isClone).1
  | .noteCloneRegistered now sessionId clientHandle serverHandle forwardHandle hasForwardHandle =>
    (t.noteCloneRegistered now sessionId clientHandle serverHandle forwardHandle hasForwardHandle).1
  | .markSessionHandleCloseObserved now sessionId sessionHandle =>
    (t.markSessionHandleCloseObserved now sessionId sessionHandle).1
  | .markCloneClosedByServerHandle now sessionId serverHandle =>
    (t.markCloneClosedByServerHandle now sessionId serverHandle).1
  | .markDomainPathCloseObserved now sessionId objectId =>
    (t.markDomainPathCloseObserved now sessionId objectId).1

structure KeysUnique (t : Tracker) : Prop where
  sessions : t.sessions.Unique SessionEntry.sessionId
  sessionHandles : t.sessionHandles.Unique SessionHandleEntry.key
  cloneHandles : t.cloneHandles.Unique CloneHandleEntry.key
  domainPaths : t.domainPaths.Unique DomainPathEntry.key

/-- A search by key gives the same entry in whatever order the slots of its table are. -/
structure LookupsOrderFree (t : Tracker) : Prop where
  sessions : ∀ other : Tracker, other.sessions.slots.Perm t.sessions.slots → ∀ sessionId,
    other.findSessionEntry sessionId = t.findSessionEntry sessionId
  sessionHandles : ∀ other : Tracker, other.sessionHandles.slots.Perm t.sessionHandles.slots → ∀ key,
    (other.sessionHandles.find? fun e => e.key == key) = t.sessionHandles.find? fun e => e.key == key
  cloneHandles : ∀ other : Tracker, other.cloneHandles.slots.Perm t.cloneHandles.slots → ∀ key,
    (other.cloneHandles.find? fun e => e.key == key) = t.cloneHandles.find? fun e => e.key == key
  domainPaths : ∀ other : Tracker, other.domainPaths.slots.Perm t.domainPaths.slots → ∀ sessionId objectId,
    other.getTrackedDomainPath sessionId objectId = t.getTrackedDomainPath sessionId objectId

theorem KeysUnique.lookups {t : Tracker} (unique : t.KeysUnique) : t.LookupsOrderFree where
  sessions _ reordered sessionId := Table.find?_key_perm unique.sessions reordered sessionId
  sessionHandles _ reordered key := Table.find?_key_perm unique.sessionHandles reordered key
  cloneHandles _ reordered key := Table.find?_key_perm unique.cloneHandles reordered key
  domainPaths _ reordered sessionId objectId :=
    Table.find?_key_perm unique.domainPaths reordered (sessionId,objectId)

theorem keysUnique_reset : reset.KeysUnique :=
  ⟨Table.unique_empty _,Table.unique_empty _,Table.unique_empty _,Table.unique_empty _⟩

section Step

variable {t : Tracker}

theorem KeysUnique.forgetDomainPathsForSession (unique : t.KeysUnique) (sessionId : SessionId) :
    (t.forgetDomainPathsForSession sessionId).KeysUnique :=
  { unique with domainPaths := Table.unique_erase _ _ unique.domainPaths }

theorem KeysUnique.forgetCloneHandlesForSession (unique : t.KeysUnique) (sessionId : SessionId) :
    (t.forgetCloneHandlesForSession sessionId).KeysUnique :=
  { unique with cloneHandles := Table.unique_erase _ _ unique.cloneHandles }

theorem KeysUnique.forgetSessionHandlesForSession (unique : t.KeysUnique) (sessionId : SessionId) :
    (t.forgetSessionHandlesForSession sessionId).KeysUnique :=
  { unique with sessionHandles := Table.unique_erase _ _ unique.sessionHandles }

/-- What an eviction and the end of a session clear in the three other tables. -/
theorem KeysUnique.forgetEntries (unique : t.KeysUnique) (sessionId : SessionId) :
    (((t.forgetDomainPathsForSession sessionId).forgetSessionHandlesForSession
      sessionId).forgetCloneHandlesForSession sessionId).KeysUnique :=
  ((unique.forgetDomainPathsForSession sessionId).forgetSessionHandlesForSession
    sessionId).forgetCloneHandlesForSession sessionId

/-- The session is new when a slot is taken for it, and clearing the other tables keeps it so. -/
theorem KeysUnique.rememberSession (unique : t.KeysUnique) (serviceName : CString) (sessionId : SessionId)
    (clientInfo : MitmProcessInfo) : (t.rememberSession serviceName sessionId clientInfo).1.KeysUnique := by
  unfold Tracker.rememberSession
  dsimp only
  split
  next =>
    refine { unique with sessions := Table.unique_update unique.sessions fun e hit => ?_ }
    exact (beq_iff_eq.mp hit).symm
  next absent =>
    have fresh : ∀ e ∈ t.sessions.entries, e.sessionId ≠ sessionId := by
      intro e member same
      have missed := Table.find?_eq_none_iff.mp absent e member
      simp [same] at missed
    have placed := Table.unique_place (by decide) unique.sessions ⟨serviceName,clientInfo,sessionId⟩ fresh
    split
    next evicted _ => exact { unique.forgetEntries evicted.sessionId with sessions := placed }
    next => exact { unique with sessions := placed }

theorem KeysUnique.forgetSession (unique : t.KeysUnique) (sessionId : SessionId) :
    (t.forgetSession sessionId).1.KeysUnique := by
  have released : ({ t with sessions := t.sessions.release fun e => e.sessionId == sessionId } :
      Tracker).KeysUnique := { unique with sessions := Table.unique_release unique.sessions _ }
  exact released.forgetEntries sessionId

theorem KeysUnique.rememberDomainPath (unique : t.KeysUnique) (now : Nat) (sessionId : SessionId)
    (objectId : ObjectId) (relativePath : CString) (parentObjectId : ObjectId) (creatorCommandId : Nat) :
    (t.rememberDomainPath now sessionId objectId relativePath parentObjectId creatorCommandId).KeysUnique := by
  unfold Tracker.rememberDomainPath
  split
  · exact unique
  · refine { unique with domainPaths := ?_ }
    dsimp only
    apply Table.unique_upsert_key (by decide) unique.domainPaths
    · exact fun _ => rfl
    · rfl

theorem KeysUnique.rememberCloneHandle (unique : t.KeysUnique) (now : Nat) (sessionId : SessionId)
    (handle : NativeHandle) (managerCommandId : Nat) :
    (t.rememberCloneHandle now sessionId handle managerCommandId).1.KeysUnique := by
  refine { unique with cloneHandles := ?_ }
  dsimp only [Tracker.rememberCloneHandle]
  apply Table.unique_upsert_key (by decide) unique.cloneHandles
  · exact fun _ => rfl
  · rfl

theorem KeysUnique.rememberSessionHandle (unique : t.KeysUnique) (now : Nat) (sessionId : SessionId)
    (sessionHandle peerHandle forwardHandle : NativeHandle) (hasForwardHandle isClone : Bool) :
    (t.rememberSessionHandle now sessionId sessionHandle peerHandle forwardHandle hasForwardHandle
      isClone).1.KeysUnique := by
  refine { unique with sessionHandles := ?_ }
  dsimp only [Tracker.rememberSessionHandle]
  apply Table.unique_upsert_key (by decide) unique.sessionHandles
  · exact fun _ => rfl
  · rfl

/-- An unknown clone is remembered first; the registration itself changes no key. -/
theorem KeysUnique.noteCloneRegistered (unique : t.KeysUnique) (now : Nat) (sessionId : SessionId)
    (clientHandle serverHandle forwardHandle : NativeHandle) (hasForwardHandle : Bool) :
    (t.noteCloneRegistered now sessionId clientHandle serverHandle forwardHandle
      hasForwardHandle).1.KeysUnique := by
  unfold Tracker.noteCloneRegistered
  dsimp only
  split
  · exact { unique with cloneHandles := Table.unique_update unique.cloneHandles fun _ _ => rfl }
  · have remembered := unique.rememberCloneHandle now sessionId clientHandle 0
    exact { remembered with cloneHandles := Table.unique_update remembered.cloneHandles fun _ _ => rfl }

theorem KeysUnique.markDomainPathCloseObserved (unique : t.KeysUnique) (now : Nat) (sessionId : SessionId)
    (objectId : ObjectId) : (t.markDomainPathCloseObserved now sessionId objectId).1.KeysUnique := by
  unfold Tracker.markDomainPathCloseObserved
  split
  · exact unique
  · exact { unique with domainPaths := Table.unique_update unique.domainPaths fun _ _ => rfl }

theorem KeysUnique.apply (unique : t.KeysUnique) (op : TrackerOp) : (t.apply op).KeysUnique := by
  cases op with
  | rememberSession => exact unique.rememberSession _ _ _
  | forgetSession => exact unique.forgetSession _
  | forgetDomainPathsForSession => exact unique.forgetDomainPathsForSession _
  | forgetCloneHandlesForSession => exact unique.forgetCloneHandlesForSession _
  | forgetSessionHandlesForSession => exact unique.forgetSessionHandlesForSession _
  | rememberDomainPath => exact unique.rememberDomainPath _ _ _ _ _ _
  | rememberCloneHandle => exact unique.rememberCloneHandle _ _ _ _
  | rememberSessionHandle => exact unique.rememberSessionHandle _ _ _ _ _ _ _
  | noteCloneRegistered => exact unique.noteCloneRegistered _ _ _ _ _ _
  | markSessionHandleCloseObserved =>
    exact { unique with sessionHandles := Table.unique_update unique.sessionHandles fun _ _ => rfl }
  | markCloneClosedByServerHandle =>
    exact { unique with cloneHandles := Table.unique_update unique.cloneHandles fun _ _ => rfl }
  | markDomainPathCloseObserved => exact unique.markDomainPathCloseObserved _ _ _

end Step

theorem KeysUnique.run {t : Tracker} (unique : t.KeysUnique) (ops : List TrackerOp) :
    (ops.foldl Tracker.apply t).KeysUnique := by
  induction ops generalizing t with
  | nil => exact unique
  | cons op ops ih => exact ih (unique.apply op)

end Tracker

/-- In every state the tracker can reach its keys are unique and its lookups do not depend on slots. -/
theorem tables_keyed (ops : List TrackerOp) :
    (ops.foldl Tracker.apply .reset).KeysUnique ∧ (ops.foldl Tracker.apply .reset).LookupsOrderFree :=
  have unique := Tracker.keysUnique_reset.run ops
  ⟨unique,unique.lookups⟩

end NxReverse.Probe
