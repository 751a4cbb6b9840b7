import NxReverse.Probe.SessionTrace
import NxReverse.Probe.TableKeys

/-! The periodic snapshots of all sessions and of all domain objects. They are captured under the lock; the object paths
are formatted behind it, when the tables may have moved on. -/
namespace NxReverse.Probe

open Slots Text

/-- A record of `LogSessionSnapshot`. Without a session there is no client. -/
structure SessionSnapshot where
  serviceName : CString
  clientInfo : Option MitmProcessInfo
  sessionId : SessionId
  phase : CString
  activeSessionCount : Nat
  snapshotSize : Nat
  snapshotIndex : Nat
  deriving DecidableEq, Repr

def logSessionSnapshot (t : Tracker) (phase : CString) : List SessionSnapshot :=
  let entries := t.sessions.entries
  if entries = [] then [⟨"mitm".toList,none,0,phase,0,0,0⟩]
  else entries.mapIdx fun index entry =>
    ⟨encodeServiceName entry.serviceName,some entry.clientInfo,entry.sessionId,phase,entries.length,entries.length,index⟩

/-- A record of `LogDomainSnapshot`. Without an object there is no client and no entry. -/
structure DomainSnapshot where
  serviceName : CString
  clientInfo : Option MitmProcessInfo
  objectPath : CString
  phase : CString
  entry : Option DomainPathEntry
  activeDomainCount : Nat
  snapshotSize : Nat
  snapshotIndex : Nat
  deriving DecidableEq, Repr

/-- `live` is the tracker while each path is formatted. An object whose session was not captured is left out. -/
def logDomainSnapshot (captured : Tracker) (live : Nat → Tracker) (phase : CString) : List DomainSnapshot :=
  let entries := captured.domainPaths.entries
  if entries = [] then [⟨"mitm".toList,none,[],phase,none,0,0,0⟩]
  else List.reduceOption <| entries.mapIdx fun index entry =>
    (captured.findSessionEntry entry.sessionId).map fun session =>
      ⟨encodeServiceName session.serviceName,some session.clientInfo,
        (live index).formatObjectPath 160 (encodeServiceName session.serviceName) entry.sessionId entry.objectId,phase,
        some entry,entries.length,entries.length,index⟩

def SessionSnapshot.tells? (record : SessionSnapshot) (sessionId : SessionId) : Option (CString × MitmProcessInfo) :=
  record.clientInfo.bind fun clientInfo =>
    if record.sessionId = sessionId then some (record.serviceName,clientInfo) else none

/-- What a record says of this object, and of its session. -/
def DomainSnapshot.tells? (record : DomainSnapshot) (sessionId : SessionId) (objectId : ObjectId) :
    Option (CString × MitmProcessInfo × DomainPathEntry) :=
  record.entry.bind fun entry => record.clientInfo.bind fun clientInfo =>
    if entry.key = (sessionId,objectId) then some (record.serviceName,clientInfo,entry) else none

/-- What a record says of an object of this session, and of its path. -/
def DomainSnapshot.tellsPath? (record : DomainSnapshot) (sessionId : SessionId) : Option (CString × DomainPathEntry) :=
  record.entry.bind fun entry => if entry.sessionId = sessionId then some (record.objectPath,entry) else none

def TraceRecord.tellsPath? : TraceRecord → Option (CString × DomainPathEntry)
  | .domainSnapshot objectPath entry _ _ => some (objectPath,entry)
  | .session _ => none
  | .sessionHandleState _ _ _ _ => none
  | .cloneHandleState _ _ _ => none

/-- The snapshots say of every session and object what a lookup finds, once, and number what they say. -/
structure SnapshotsExact (t : Tracker) (live : Nat → Tracker) (phase : CString) : Prop where
  sessions : ∀ sessionId, (logSessionSnapshot t phase).filterMap (·.tells? sessionId) =
    (t.findSessionEntry sessionId).toList.map fun session => (encodeServiceName session.serviceName,session.clientInfo)
  sessionsCounted : ∀ record ∈ logSessionSnapshot t phase, record.activeSessionCount = t.countTrackedSessions
  sessionsNumbered : (logSessionSnapshot t phase).map SessionSnapshot.snapshotIndex =
    List.range (max 1 t.countTrackedSessions)
  objects : ∀ sessionId objectId, (logDomainSnapshot t live phase).filterMap (·.tells? sessionId objectId) =
    (t.findSessionEntry sessionId).toList.flatMap fun session => (t.getTrackedDomainPath sessionId objectId).toList.map
      fun entry => (encodeServiceName session.serviceName,session.clientInfo,entry)
  objectsCounted : ∀ record ∈ logDomainSnapshot t live phase, record.activeDomainCount = t.domainPaths.count fun _ => true
  objectsNumbered : ((logDomainSnapshot t live phase).map DomainSnapshot.snapshotIndex).Pairwise (· < ·)
  perSession : ∀ sessionId, (logDomainSnapshot t (fun _ => t) phase).filterMap (·.tellsPath? sessionId) =
    (logDomainSnapshotForSession t sessionId).filterMap TraceRecord.tellsPath?

section Lists

variable {α β γ : Type}

theorem filterMap_mapIdx {f : β → Option γ} {g : Nat → α → β} {h : α → Option γ}
    (same : ∀ i a, f (g i a) = h a) (l : List α) : (l.mapIdx g).filterMap f = l.filterMap h := by
  induction l generalizing g with
  | nil => rfl
  | cons a l ih =>
    rw [List.mapIdx_cons,List.filterMap_cons,List.filterMap_cons,same,ih fun i a => same (i + 1) a]

/-- Among distinct keys, what a key picks out is what a search for it finds. -/
theorem filterMap_key [DecidableEq γ] [BEq γ] [LawfulBEq γ] {key : α → γ} {l : List α} (unique : (l.map key).Nodup) (k : γ) (f : α → β) :
    (l.filterMap fun a => if key a = k then some (f a) else none) = (l.find? fun a => key a == k).toList.map f := by
  induction l with
  | nil => rfl
  | cons a l ih =>
    obtain ⟨new,rest⟩ := List.nodup_cons.mp unique
    by_cases here : key a = k
    · have none : (l.find? fun a => key a == k) = none := by
        refine List.find?_eq_none.mpr fun b member same => new ?_
        rw [here,← beq_iff_eq.mp same]
        exact List.mem_map_of_mem member
      have later := ih rest
      rw [none] at later
      simp [here,later]
    · simp [here,ih rest]

/-- Where some places are left out, the others keep their numbers. -/
theorem pairwise_reduceOption {g : Nat → α → Option β} {number : β → Nat} (start : Nat)
    (named : ∀ i a b, g i a = some b → number b = start + i) (l : List α) :
    ((l.mapIdx g).reduceOption.map number).Pairwise (· < ·) ∧
      ∀ n ∈ (l.mapIdx g).reduceOption.map number, start ≤ n := by
  induction l generalizing g start with
  | nil => exact ⟨.nil,List.forall_mem_nil _⟩
  | cons a l ih =>
    have shifted : ∀ i a b, g (i + 1) a = some b → number b = start + 1 + i := by
      intro i a b made
      rw [named (i + 1) a b made]
      omega
    obtain ⟨rest,above⟩ := ih (start + 1) shifted
    rw [List.mapIdx_cons]
    cases first : g 0 a with
    | none =>
      rw [List.reduceOption_cons_of_none]
      exact ⟨rest,fun n member => Nat.le_of_succ_le (above n member)⟩
    | some b =>
      have here : number b = start := named 0 a b first
      rw [List.reduceOption_cons_of_some,List.map_cons,here]
      exact ⟨List.pairwise_cons.mpr ⟨above,rest⟩,List.forall_mem_cons.mpr
        ⟨Nat.le_refl _,fun n member => Nat.le_of_succ_le (above n member)⟩⟩

end Lists

namespace Tracker

variable {t : Tracker} (live : Nat → Tracker) (phase : CString)

theorem logSessionSnapshot_tells (unique : t.KeysUnique) (sessionId : SessionId) :
    (logSessionSnapshot t phase).filterMap (·.tells? sessionId) =
      (t.findSessionEntry sessionId).toList.map fun session =>
        (encodeServiceName session.serviceName,session.clientInfo) := by
  have found := filterMap_key unique.sessions sessionId fun session : SessionEntry =>
    (encodeServiceName session.serviceName,session.clientInfo)
  refine Eq.trans ?_ found
  unfold logSessionSnapshot
  dsimp only
  split
  next empty => rw [empty]; rfl
  next =>
    refine filterMap_mapIdx (fun _ entry => ?_) _
    rfl

theorem countTrackedSessions_eq : t.countTrackedSessions = t.sessions.entries.length := by
  rw [countTrackedSessions,Table.count,List.countP_true]

theorem logSessionSnapshot_counted : ∀ record ∈ logSessionSnapshot t phase,
    record.activeSessionCount = t.countTrackedSessions := by
  rw [countTrackedSessions_eq]
  unfold logSessionSnapshot
  dsimp only
  split
  next empty => simp [empty]
  next =>
    intro record member
    obtain ⟨i,inside,rfl⟩ := List.mem_mapIdx.mp member
    rfl

theorem logSessionSnapshot_numbered : (logSessionSnapshot t phase).map SessionSnapshot.snapshotIndex =
    List.range (max 1 t.countTrackedSessions) := by
  rw [countTrackedSessions_eq]
  unfold logSessionSnapshot
  dsimp only
  split
  next empty => rw [empty]; rfl
  next some =>
    have positive : max 1 t.sessions.entries.length = t.sessions.entries.length :=
      Nat.max_eq_right (List.length_pos_iff.mpr some)
    rw [positive]
    exact List.ext_getElem (by simp) (by simp)

/-- The records of objects, in terms of the entries. -/
theorem logDomainSnapshot_filterMap {β : Type} {f : DomainSnapshot → Option β} {h : DomainPathEntry → SessionEntry → Option β}
    (idle : ∀ record : DomainSnapshot, record.entry = none → f record = none)
    (told : ∀ i entry session, f ⟨encodeServiceName session.serviceName,some session.clientInfo,
      (live i).formatObjectPath 160 (encodeServiceName session.serviceName) entry.sessionId entry.objectId,phase,some entry,
      t.domainPaths.entries.length,t.domainPaths.entries.length,i⟩ = h entry session) :
    (logDomainSnapshot t live phase).filterMap f =
      t.domainPaths.entries.filterMap fun entry => (t.findSessionEntry entry.sessionId).bind (h entry) := by
  unfold logDomainSnapshot
  dsimp only
  split
  next empty => rw [empty]; simp [idle]
  next =>
    rw [List.reduceOption,List.filterMap_filterMap]
    refine filterMap_mapIdx (fun i entry => ?_) _
    cases t.findSessionEntry entry.sessionId with
    | none => rfl
    | some session => exact told i entry session

theorem logDomainSnapshot_tells (unique : t.KeysUnique) (sessionId : SessionId) (objectId : ObjectId) :
    (logDomainSnapshot t live phase).filterMap (·.tells? sessionId objectId) =
      (t.findSessionEntry sessionId).toList.flatMap fun session => (t.getTrackedDomainPath sessionId objectId).toList.map
        fun entry => (encodeServiceName session.serviceName,session.clientInfo,entry) := by
  have lists : (logDomainSnapshot t live phase).filterMap (·.tells? sessionId objectId) = t.domainPaths.entries.filterMap
      fun entry => (t.findSessionEntry entry.sessionId).bind fun session => if entry.key = (sessionId,objectId) then
        some (encodeServiceName session.serviceName,session.clientInfo,entry) else none :=
    logDomainSnapshot_filterMap live phase (fun record none => by rw [DomainSnapshot.tells?,none]; rfl) fun _ _ _ => rfl
  rw [lists]
  have keyed (entry : DomainPathEntry) (same : entry.key = (sessionId,objectId)) : entry.sessionId = sessionId :=
    congrArg Prod.fst same
  cases tracked : t.findSessionEntry sessionId with
  | none =>
    refine List.filterMap_eq_nil_iff.mpr fun entry _ => ?_
    by_cases same : entry.key = (sessionId,objectId)
    · rw [keyed entry same,tracked]
      rfl
    · simp [same]
  | some session =>
    have found := filterMap_key unique.domainPaths (sessionId,objectId) fun entry : DomainPathEntry =>
      (encodeServiceName session.serviceName,session.clientInfo,entry)
    rw [Option.toList_some,List.flatMap_singleton]
    refine Eq.trans (List.filterMap_congr fun entry _ => ?_) found
    by_cases same : entry.key = (sessionId,objectId)
    · rw [keyed entry same,tracked]
      rfl
    · simp [same]

theorem logDomainSnapshot_counted : ∀ record ∈ logDomainSnapshot t live phase,
    record.activeDomainCount = t.domainPaths.count fun _ => true := by
  rw [Table.count,List.countP_true]
  unfold logDomainSnapshot
  dsimp only
  split
  next empty => simp [empty]
  next =>
    intro record member
    obtain ⟨i,inside,made⟩ := List.mem_mapIdx.mp (List.reduceOption_mem_iff.mp member)
    obtain ⟨session,-,rfl⟩ := Option.map_eq_some_iff.mp made
    rfl

theorem logDomainSnapshot_numbered :
    ((logDomainSnapshot t live phase).map DomainSnapshot.snapshotIndex).Pairwise (· < ·) := by
  unfold logDomainSnapshot
  dsimp only
  split
  next => exact List.pairwise_singleton _ _
  next =>
    refine (pairwise_reduceOption 0 (fun i entry record made => ?_) _).1
    obtain ⟨session,-,rfl⟩ := Option.map_eq_some_iff.mp made
    exact (Nat.zero_add i).symm

/-- While nothing changes, the snapshot of a session is its part of the snapshot of all. -/
theorem logDomainSnapshot_session (sessionId : SessionId) :
    (logDomainSnapshot t (fun _ => t) phase).filterMap (·.tellsPath? sessionId) =
      (logDomainSnapshotForSession t sessionId).filterMap TraceRecord.tellsPath? := by
  have lists : (logDomainSnapshot t (fun _ => t) phase).filterMap (·.tellsPath? sessionId) =
      t.domainPaths.entries.filterMap fun entry => (t.findSessionEntry entry.sessionId).bind fun session =>
        if entry.sessionId = sessionId then some (t.formatObjectPath 160 (encodeServiceName session.serviceName)
          entry.sessionId entry.objectId,entry) else none :=
    logDomainSnapshot_filterMap _ phase (fun record none => by rw [DomainSnapshot.tellsPath?,none]; rfl) fun _ _ _ => rfl
  rw [lists,logDomainSnapshotForSession,copyTrackedDomainPathsForSession]
  cases tracked : t.findSessionEntry sessionId with
  | none =>
    refine List.filterMap_eq_nil_iff.mpr fun entry _ => ?_
    by_cases same : entry.sessionId = sessionId
    · rw [same,tracked]
      rfl
    · simp [same]
  | some session =>
    have records := filterMap_mapIdx (f := TraceRecord.tellsPath?) (g := fun index entry =>
      TraceRecord.domainSnapshot (t.formatObjectPath 160 (encodeServiceName session.serviceName) sessionId
        entry.objectId) entry (t.domainPaths.entries.filter fun e => e.sessionId == sessionId).length index)
      (h := fun entry => some (t.formatObjectPath 160 (encodeServiceName session.serviceName) sessionId entry.objectId,
        entry)) (fun _ _ => rfl) (t.domainPaths.entries.filter fun e => e.sessionId == sessionId)
    refine Eq.trans ?_ records.symm
    rw [List.filterMap_filter]
    refine List.filterMap_congr fun entry _ => ?_
    by_cases same : entry.sessionId = sessionId
    · rw [same,tracked]
      simp
    · simp [same]

end Tracker

/-- In every state that the tracker can reach, the snapshots agree with its lookups. -/
theorem snapshots_exact (ops : List TrackerOp) (live : Nat → Tracker) (phase : CString) :
    SnapshotsExact (ops.foldl Tracker.apply .reset) live phase :=
  have unique := Tracker.keysUnique_reset.run ops
  ⟨Tracker.logSessionSnapshot_tells phase unique,Tracker.logSessionSnapshot_counted phase,
    Tracker.logSessionSnapshot_numbered phase,Tracker.logDomainSnapshot_tells live phase unique,
    Tracker.logDomainSnapshot_counted live phase,Tracker.logDomainSnapshot_numbered live phase,
    Tracker.logDomainSnapshot_session phase⟩

end NxReverse.Probe
