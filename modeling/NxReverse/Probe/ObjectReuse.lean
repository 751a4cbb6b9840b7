import NxReverse.Probe.DomainPaths

/-! The close flag of a domain object whose id is used again. A session hands out its object ids
anew once they are closed, and the entry of the old object is still there then. -/
namespace NxReverse.Probe

open Slots Text Runs

inductive ObjectStage where
  | created | closed
  deriving DecidableEq, Repr

/-- One object coming into being, one close dispatch, or the end of a session. -/
inductive PathEvent where
  | create (c : Creation)
  | dispatchClose (now : Nat) (sessionId : SessionId) (requestObjectId : ObjectId)
  | sessionEnd (sessionId : SessionId)

def Tracker.onPathEvent (t : Tracker) : PathEvent → Tracker
  | .create c => t.create c
  | .dispatchClose now sessionId requestObjectId =>
    (t.markDomainPathCloseObserved now sessionId requestObjectId).1
  | .sessionEnd sessionId => (t.forgetSession sessionId).1

def Tracker.pathEvents (t : Tracker) : DomainEvent → List PathEvent
  | .dispatchClose now sessionId requestObjectId => [.dispatchClose now sessionId requestObjectId]
  | .sessionEnd sessionId => [.sessionEnd sessionId]
  | event => (t.creations event).map .create

theorem onDomainEvent_pathEvents (t : Tracker) (event : DomainEvent) :
    t.onDomainEvent event = (t.pathEvents event).foldl Tracker.onPathEvent t := by
  cases event with
  | returned clock sessionId objectId commandId responseDecode =>
    refine (onDomainEvent_creates t clock sessionId objectId commandId responseDecode).trans ?_
    change _ = ((t.creations _).map PathEvent.create).foldl Tracker.onPathEvent t
    rw [List.foldl_map]
    rfl
  | convertCurrentObjectToDomain now sessionId objectId requestObjectId =>
    refine (onDomainEvent_convert t now sessionId objectId requestObjectId).trans ?_
    change _ = ((t.creations _).map PathEvent.create).foldl Tracker.onPathEvent t
    rw [List.foldl_map]
    rfl
  | dispatchClose now sessionId requestObjectId => rfl
  | sessionEnd sessionId => rfl

/-- The most recent lifecycle event of each object id. -/
abbrev History := SessionId × ObjectId → Option ObjectStage

def History.observe (history : History) : PathEvent → History
  | .create c => Function.update history c.key (some .created)
  | .dispatchClose _ sessionId requestObjectId => Function.update history (sessionId,requestObjectId) (some .closed)
  | .sessionEnd _ => history

def observePath (s : Tracker × History) (event : PathEvent) : Tracker × History :=
  (s.1.onPathEvent event,s.2.observe event)

def noHistory : Tracker × History := (.reset,fun _ => none)

/-- The flag of every tracked object tells whether its last event was a close. -/
def FlagsRight (s : Tracker × History) : Prop :=
  ∀ sessionId objectId e, s.1.getTrackedDomainPath sessionId objectId = some e →
    (e.closeObserved = true ↔ s.2 (sessionId,objectId) = some .closed) ∧
      (e.closeObserved = false → e.closeSeenTsNs = 0)

/-- No entry that is marked closed is tracked under the id of a new object. -/
def NotMarked (s : Tracker × History) : PathEvent → Prop
  | .create c => ∀ e, s.1.getTrackedDomainPath c.sessionId c.objectId = some e → e.closeObserved = false
  | .dispatchClose .. | .sessionEnd _ => True

structure Flagged (s : Tracker × History) : Prop where
  unique : s.1.domainPaths.Unique DomainPathEntry.key
  isObject : ∀ e ∈ s.1.domainPaths.entries, e.objectId ≠ 0
  closed : ∀ e ∈ s.1.domainPaths.entries, e.closeObserved = true ↔ s.2 e.key = some .closed
  unseen : ∀ e ∈ s.1.domainPaths.entries, e.closeObserved = false → e.closeSeenTsNs = 0

theorem Flagged.right {s : Tracker × History} (flagged : Flagged s) : FlagsRight s := by
  intro sessionId objectId e found
  obtain ⟨member,keyed⟩ := (Table.find?_key_iff flagged.unique (sessionId,objectId) e).mp found
  rw [← keyed]
  exact ⟨flagged.closed e member,flagged.unseen e member⟩

theorem flagged_noHistory : Flagged noHistory := by
  have empty : ∀ e, e ∉ noHistory.1.domainPaths.entries := by
    intro e
    rw [noHistory,Tracker.reset,Table.entries_empty]
    exact List.not_mem_nil
  exact ⟨Table.unique_empty _,fun e member => absurd member (empty e),fun e member => absurd member (empty e),
    fun e member => absurd member (empty e)⟩

theorem create_ne_closed (history : History) (c : Creation) : history.observe (.create c) c.key ≠ some .closed := by
  rw [History.observe,Function.update_self]
  decide

/-- The update of a known entry does not reset its flag. -/
theorem not_right_of_marked {s : Tracker × History} (unique : s.1.domainPaths.Unique DomainPathEntry.key)
    {c : Creation} (marked : ¬NotMarked s (.create c)) : ¬FlagsRight (observePath s (.create c)) := by
  intro right
  apply marked
  intro e found
  obtain ⟨member,keyed⟩ := (Table.find?_key_iff unique c.key e).mp found
  have tracked : (s.1.create c).getTrackedDomainPath c.sessionId c.objectId = some (c.renew e) :=
    (Table.find?_key_iff (unique_create unique c) c.key _).mpr ⟨renew_mem_create unique member keyed,keyed⟩
  exact Bool.eq_false_iff.mpr fun closed =>
    create_ne_closed s.2 c ((right c.sessionId c.objectId (c.renew e) tracked).1.mp closed)

theorem Flagged.create {s : Tracker × History} (flagged : Flagged s) {c : Creation}
    (notMarked : NotMarked s (.create c)) : Flagged (observePath s (.create c)) := by
  have isOpen : ∀ e ∈ s.1.domainPaths.entries, e.key = c.key → e.closeObserved = false :=
    fun e member keyed => notMarked e ((Table.find?_key_iff flagged.unique c.key e).mpr ⟨member,keyed⟩)
  refine ⟨unique_create flagged.unique c,?_,?_,?_⟩
  · intro e member
    rcases mem_create flagged.unique member with rfl | ⟨old,inTable,_,rfl⟩ | ⟨old,_⟩
    · exact c.isObject
    · exact flagged.isObject old inTable
    · exact flagged.isObject e old
  · intro e member
    rcases mem_create flagged.unique member with rfl | ⟨old,inTable,keyed,rfl⟩ | ⟨old,other⟩
    · exact iff_of_false Bool.false_ne_true (create_ne_closed s.2 c)
    · have flag : (c.renew old).closeObserved = false := isOpen old inTable keyed
      rw [c.key_renew,keyed,flag]
      exact iff_of_false Bool.false_ne_true (create_ne_closed s.2 c)
    · change _ ↔ Function.update s.2 c.key (some ObjectStage.created) e.key = some .closed
      rw [Function.update_of_ne other]
      exact flagged.closed e old
  · intro e member noClose
    rcases mem_create flagged.unique member with rfl | ⟨old,inTable,_,rfl⟩ | ⟨old,_⟩
    · rfl
    · exact flagged.unseen old inTable noClose
    · exact flagged.unseen e old noClose

/-- A close marks the entry of its object and no other. -/
theorem Flagged.close {s : Tracker × History} (flagged : Flagged s) (now : Nat) (sessionId : SessionId)
    (objectId : ObjectId) : Flagged (observePath s (.dispatchClose now sessionId objectId)) := by
  have others : ∀ e ∈ s.1.domainPaths.entries, e.key ≠ (sessionId,objectId) →
      (e.closeObserved = true ↔ s.2.observe (.dispatchClose now sessionId objectId) e.key = some .closed) := by
    intro e member other
    rw [History.observe,Function.update_of_ne other]
    exact flagged.closed e member
  by_cases isRoot : objectId = 0
  · have same : s.1.onPathEvent (.dispatchClose now sessionId objectId) = s.1 := by
      simp [Tracker.onPathEvent,Tracker.markDomainPathCloseObserved,isRoot]
    rw [observePath,same]
    refine ⟨flagged.unique,flagged.isObject,fun e member => others e member fun keyed => ?_,flagged.unseen⟩
    exact flagged.isObject e member ((congrArg Prod.snd keyed).trans isRoot)
  · have marked := onDomainEvent_close s.1 now sessionId isRoot
    have entries : (s.1.onPathEvent (.dispatchClose now sessionId objectId)).domainPaths.entries = _ :=
      (congrArg Table.entries marked).trans (Table.entries_update_key flagged.unique _ _)
    refine ⟨?_,?_,?_,?_⟩
    · change (s.1.onDomainEvent (.dispatchClose now sessionId objectId)).domainPaths.Unique _
      rw [marked]
      exact Table.unique_update flagged.unique fun _ _ => rfl
    all_goals
      intro e member
      rw [observePath,entries] at member
      obtain ⟨old,inTable,rfl⟩ := List.mem_map.mp member
    · split
      · exact flagged.isObject old inTable
      · exact flagged.isObject old inTable
    · split
      next keyed =>
        change true = true ↔ s.2.observe (.dispatchClose now sessionId objectId) old.key = some .closed
        rw [keyed,History.observe,Function.update_self]
        exact iff_of_true rfl rfl
      next other => exact others old inTable other
    · split
      · exact fun noClose => absurd noClose (Bool.false_ne_true ∘ Eq.symm)
      · exact flagged.unseen old inTable

/-- The end of a session drops entries and leaves the others as they are. -/
theorem Flagged.sessionEnd {s : Tracker × History} (flagged : Flagged s) (sessionId : SessionId) :
    Flagged (observePath s (.sessionEnd sessionId)) := by
  have kept : ∀ e ∈ (s.1.forgetSession sessionId).1.domainPaths.entries, e ∈ s.1.domainPaths.entries := by
    intro e member
    have filtered : e ∈ (s.1.domainPaths.erase fun e => e.sessionId == sessionId).entries := member
    rw [Table.entries_erase] at filtered
    exact (List.mem_filter.mp filtered).1
  exact ⟨Table.unique_erase _ _ flagged.unique,fun e member => flagged.isObject e (kept e member),
    fun e member => flagged.closed e (kept e member),fun e member => flagged.unseen e (kept e member)⟩

/-- The flags are right in every state of a run exactly if no object is created under an id whose
tracked entry is still marked closed. -/
theorem flags_right_iff (events : List PathEvent) :
    (∀ before after, events = before ++ after → FlagsRight (before.foldl observePath noHistory)) ↔
      Guarded observePath NotMarked noHistory events := by
  refine seen_iff_guarded Flagged FlagsRight (fun _ flagged => flagged.right) ?_ ?_
    (Guarded.of_forall (fun _ _ => trivial) noHistory events) flagged_noHistory
  · intro s event flagged _ notMarked
    cases event with
    | create c => exact flagged.create notMarked
    | dispatchClose now sessionId objectId => exact flagged.close now sessionId objectId
    | sessionEnd sessionId => exact flagged.sessionEnd sessionId
  · intro s event flagged _ right
    cases event with
    | create c => exact by_contra fun marked => not_right_of_marked flagged.unique marked right
    | dispatchClose | sessionEnd => trivial

def reusedId : List PathEvent :=
  let root : Creation := ⟨7,1,1,"root".toList,0,0,by decide,by decide⟩
  [.create root,.dispatchClose 8 1 1,.create root]

theorem flags_not_right :
    ¬∀ (events before after : List PathEvent), events = before ++ after →
      FlagsRight (before.foldl observePath noHistory) := by
  intro right
  have flags := right reusedId reusedId [] (List.append_nil _).symm 1 1 ⟨1,1,0,0,7,8,true,"root".toList⟩
    (by decide)
  have created : (reusedId.foldl observePath noHistory).2 (1,1) = some .created := by decide
  rw [created] at flags
  cases flags.1.mp rfl

end NxReverse.Probe
