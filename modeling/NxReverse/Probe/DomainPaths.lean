import Mathlib.Data.Finset.Card
import NxReverse.Lib.Runs
import NxReverse.Probe.Cmif
import NxReverse.Probe.Tables

/-! The path table of domain objects against the objects that are really open. An event
of the trace creates objects one after the other, closes one, or ends a session. -/
namespace NxReverse.Probe

open Slots Text Runs

/-- `"%s.cmd%u[%u]"` as printed into a path buffer. -/
def returnedObjectPath (parentRelativePath : CString) (commandId index : Nat) : CString :=
  snprintf maxDomainPathLength (parentRelativePath ++ ".cmd".toList ++ decimal commandId ++
    '[' :: decimal index ++ [']'])

/-- `clock i` is what the clock answers when the object at index `i` is stored. -/
def Tracker.rememberReturnedDomainObjects (t : Tracker) (clock : Nat → Nat) (sessionId : SessionId)
    (parentObjectId : ObjectId) (commandId : Nat) (responseDecode : ResponseDecodeDetails) : Tracker :=
  if responseDecode.outObjectIdsValid = false ∨ responseDecode.outObjectIdCount = 0 then t
  else
    let parentRelativePath := t.getRelativeDomainPath maxDomainPathLength sessionId parentObjectId
    (responseDecode.outObjectIds.take responseDecode.outObjectIdCount).zipIdx.foldl
      (fun t child =>
        if child.1 = 0 then t
        else t.rememberDomainPath (clock child.2) sessionId child.1.toNat
          (returnedObjectPath parentRelativePath commandId child.2) parentObjectId commandId) t

/-- What the trace callbacks do to the table of paths. -/
inductive DomainEvent where
  | returned (clock : Nat → Nat) (sessionId : SessionId) (objectId : ObjectId) (commandId : Nat)
      (responseDecode : ResponseDecodeDetails)
  | convertCurrentObjectToDomain (now : Nat) (sessionId : SessionId) (objectId requestObjectId : ObjectId)
  | dispatchClose (now : Nat) (sessionId : SessionId) (requestObjectId : ObjectId)
  | sessionEnd (sessionId : SessionId)

def Tracker.onDomainEvent (t : Tracker) : DomainEvent → Tracker
  | .returned clock sessionId objectId commandId responseDecode =>
    t.rememberReturnedDomainObjects clock sessionId objectId commandId responseDecode
  | .convertCurrentObjectToDomain now sessionId objectId requestObjectId =>
    t.rememberDomainPath now sessionId objectId "root".toList requestObjectId 0
  | .dispatchClose now sessionId requestObjectId =>
    (t.markDomainPathCloseObserved now sessionId requestObjectId).1
  | .sessionEnd sessionId => (t.forgetSession sessionId).1

structure Creation where
  now : Nat
  sessionId : SessionId
  objectId : ObjectId
  relativePath : CString
  parentObjectId : ObjectId
  creatorCommandId : Nat
  isObject : objectId ≠ 0
  hasPath : relativePath ≠ []

def Creation.key (c : Creation) : SessionId × ObjectId := (c.sessionId,c.objectId)

def Tracker.create (t : Tracker) (c : Creation) : Tracker :=
  t.rememberDomainPath c.now c.sessionId c.objectId c.relativePath c.parentObjectId c.creatorCommandId

theorem returnedObjectPath_ne_nil (parentRelativePath : CString) (commandId index : Nat) :
    returnedObjectPath parentRelativePath commandId index ≠ [] := by
  simp [returnedObjectPath,snprintf,maxDomainPathLength]

/-- The objects an event creates, in order; the parent's path is looked up once. -/
def Tracker.creations (t : Tracker) : DomainEvent → List Creation
  | .returned clock sessionId objectId commandId responseDecode =>
    if responseDecode.outObjectIdsValid = false ∨ responseDecode.outObjectIdCount = 0 then []
    else
      (responseDecode.outObjectIds.take responseDecode.outObjectIdCount).zipIdx.filterMap fun child =>
        if isObject : child.1.toNat = 0 then none
        else some ⟨clock child.2,sessionId,child.1.toNat,
          returnedObjectPath (t.getRelativeDomainPath maxDomainPathLength sessionId objectId) commandId child.2,
          objectId,commandId,isObject,returnedObjectPath_ne_nil _ _ _⟩
  | .convertCurrentObjectToDomain now sessionId objectId requestObjectId =>
    if isObject : objectId = 0 then []
    else [⟨now,sessionId,objectId,"root".toList,requestObjectId,0,isObject,by simp⟩]
  | .dispatchClose .. | .sessionEnd _ => []

structure Objects where
  opened : Finset (SessionId × ObjectId)
  path : SessionId × ObjectId → CString

namespace Objects

def none : Objects := ⟨∅,fun _ => []⟩

def create (g : Objects) (c : Creation) : Objects :=
  ⟨insert c.key g.opened,Function.update g.path c.key (snprintf maxDomainPathLength c.relativePath)⟩

def observe (g : Objects) (t : Tracker) : DomainEvent → Objects
  | .dispatchClose _ sessionId requestObjectId => { g with opened := g.opened.erase (sessionId,requestObjectId) }
  | .sessionEnd sessionId => { g with opened := g.opened.filter fun k => k.1 ≠ sessionId }
  | event => (t.creations event).foldl create g

end Objects

def observeCreation (s : Tracker × Objects) (c : Creation) : Tracker × Objects := (s.1.create c,s.2.create c)

def observeDomain (s : Tracker × Objects) (e : DomainEvent) : Tracker × Objects :=
  (s.1.onDomainEvent e,s.2.observe s.1 e)

/-- An id is used again only after its close, and at most 256 objects are open. -/
def AdmitsObject (s : Tracker × Objects) (c : Creation) : Prop :=
  c.key ∉ s.2.opened ∧ (insert c.key s.2.opened).card ≤ maxTrackedDomainPaths

/-- A new entry does not take the slot of an open object. -/
def KeepsObject (s : Tracker × Objects) (c : Creation) : Prop :=
  s.1.getTrackedDomainPath c.sessionId c.objectId = none →
    ∀ v, s.1.domainPaths.victim = some v → v.key ∉ s.2.opened

instance (s : Tracker × Objects) (c : Creation) : Decidable (AdmitsObject s c) := by
  unfold AdmitsObject; infer_instance

instance (s : Tracker × Objects) (c : Creation) : Decidable (KeepsObject s c) := by
  unfold KeepsObject; infer_instance

/-- A guard on creations, judged at each object an event creates. -/
def OnCreations (guard : Tracker × Objects → Creation → Prop) (t : Tracker) (events : List DomainEvent) : Prop :=
  Guarded observeDomain (fun s e => Guarded observeCreation guard s (s.1.creations e)) (t,.none) events

/-- An open object is tracked and its path is the one it was last created with. -/
def PathsRight (s : Tracker × Objects) : Prop :=
  ∀ k ∈ s.2.opened, (s.1.getTrackedDomainPath k.1 k.2).isSome = true ∧
    s.1.getRelativeDomainPath maxDomainPathLength k.1 k.2 = s.2.path k

structure Recorded (s : Tracker × Objects) : Prop where
  unique : s.1.domainPaths.Unique DomainPathEntry.key
  isObject : ∀ k ∈ s.2.opened, k.2 ≠ 0
  tracked : ∀ k ∈ s.2.opened, ∃ e ∈ s.1.domainPaths.entries, e.key = k ∧ e.relativePath = s.2.path k
  printed : ∀ k ∈ s.2.opened, snprintf maxDomainPathLength (s.2.path k) = s.2.path k

theorem snprintf_snprintf (capacity : Nat) (text : CString) :
    snprintf capacity (snprintf capacity text) = snprintf capacity text := by
  simp [snprintf,List.take_take]

theorem Recorded.pathsRight {s : Tracker × Objects} (recorded : Recorded s) : PathsRight s := by
  intro k isOpen
  obtain ⟨e,member,keyed,path⟩ := recorded.tracked k isOpen
  have found : s.1.getTrackedDomainPath k.1 k.2 = some e :=
    (Table.find?_key_iff recorded.unique k e).mpr ⟨member,keyed⟩
  refine ⟨by simp [found],?_⟩
  simp only [Tracker.getRelativeDomainPath,recorded.isObject k isOpen,if_false,found,path]
  exact recorded.printed k isOpen

theorem Recorded.start {t : Tracker} (unique : t.domainPaths.Unique DomainPathEntry.key) :
    Recorded (t,.none) where
  unique := unique
  isObject := by simp [Objects.none]
  tracked := by simp [Objects.none]
  printed := by simp [Objects.none]

/-- The events that create objects are the creations one after the other. -/
theorem onDomainEvent_creates (t : Tracker) (clock : Nat → Nat) (sessionId : SessionId) (objectId : ObjectId)
    (commandId : Nat) (responseDecode : ResponseDecodeDetails) :
    t.onDomainEvent (.returned clock sessionId objectId commandId responseDecode) =
      (t.creations (.returned clock sessionId objectId commandId responseDecode)).foldl Tracker.create t := by
  simp only [Tracker.onDomainEvent,Tracker.rememberReturnedDomainObjects,Tracker.creations]
  split
  · rfl
  · rw [List.foldl_filterMap]
    refine List.foldl_ext _ _ _ fun t' child _ => ?_
    by_cases zero : child.1 = 0
    · simp [zero]
    · have isObject : child.1.toNat ≠ 0 := fun h => zero (UInt32.toNat_inj.mp h)
      simp [zero,isObject,Tracker.create]

theorem onDomainEvent_convert (t : Tracker) (now : Nat) (sessionId : SessionId)
    (objectId requestObjectId : ObjectId) :
    t.onDomainEvent (.convertCurrentObjectToDomain now sessionId objectId requestObjectId) =
      (t.creations (.convertCurrentObjectToDomain now sessionId objectId requestObjectId)).foldl
        Tracker.create t := by
  simp only [Tracker.onDomainEvent,Tracker.creations]
  by_cases isObject : objectId = 0
  · simp [isObject,Tracker.rememberDomainPath]
  · simp [isObject,Tracker.create]

def Creation.entry (c : Creation) : DomainPathEntry :=
  ⟨c.sessionId,c.objectId,c.parentObjectId,c.creatorCommandId,c.now,0,false,
    snprintf maxDomainPathLength c.relativePath⟩

/-- What becomes of the entry of an id that was used before. -/
def Creation.renew (c : Creation) (e : DomainPathEntry) : DomainPathEntry :=
  { e with
    relativePath := snprintf maxDomainPathLength c.relativePath
    parentObjectId := c.parentObjectId
    creatorCommandId := c.creatorCommandId
    createdTsNs := if e.createdTsNs = 0 then c.now else e.createdTsNs }

@[simp] theorem Creation.key_entry (c : Creation) : c.entry.key = c.key := rfl
@[simp] theorem Creation.key_renew (c : Creation) (e : DomainPathEntry) : (c.renew e).key = e.key := rfl

theorem create_domainPaths (t : Tracker) (c : Creation) :
    (t.create c).domainPaths = (t.domainPaths.upsert (fun e => e.key == c.key) c.renew c.entry).1 := by
  have stored : ¬(c.objectId = 0 ∨ c.relativePath = []) := not_or.mpr ⟨c.isObject,c.hasPath⟩
  simp only [Tracker.create,Tracker.rememberDomainPath,stored,if_false]
  rfl

theorem unique_create {t : Tracker} (unique : t.domainPaths.Unique DomainPathEntry.key) (c : Creation) :
    (t.create c).domainPaths.Unique DomainPathEntry.key := by
  rw [create_domainPaths]
  exact Table.unique_upsert_key (by decide) unique c.key_renew c.entry rfl

/-- A creation renews the entry of its id, or adds one where there is none. -/
theorem mem_create {t : Tracker} (unique : t.domainPaths.Unique DomainPathEntry.key) {c : Creation}
    {e : DomainPathEntry} (member : e ∈ (t.create c).domainPaths.entries) :
    e = c.entry ∨ (∃ old ∈ t.domainPaths.entries, old.key = c.key ∧ e = c.renew old) ∨
      (e ∈ t.domainPaths.entries ∧ e.key ≠ c.key) := by
  rw [create_domainPaths] at member
  cases known : t.domainPaths.find? (fun e => e.key == c.key) with
  | some found =>
    obtain ⟨inTable,same⟩ := (Table.find?_key_iff unique c.key found).mp known
    rw [Table.upsert_known unique inTable same,Table.entries_update_key unique] at member
    obtain ⟨old,oldMember,rfl⟩ := List.mem_map.mp member
    by_cases own : old.key = c.key
    · rw [if_pos own]
      exact .inr (.inl ⟨old,oldMember,own,rfl⟩)
    · rw [if_neg own]
      exact .inr (.inr ⟨oldMember,own⟩)
  | none =>
    have absent := Table.find?_eq_none_iff.mp known
    rw [Table.upsert_fresh absent] at member
    rcases Table.mem_of_mem_place (by decide) member with rfl | old
    · exact .inl rfl
    · refine .inr (.inr ⟨old,fun own => ?_⟩)
      have missed := absent e old
      simp [own] at missed

theorem renew_mem_create {t : Tracker} (unique : t.domainPaths.Unique DomainPathEntry.key) {c : Creation}
    {e : DomainPathEntry} (member : e ∈ t.domainPaths.entries) (own : e.key = c.key) :
    c.renew e ∈ (t.create c).domainPaths.entries := by
  rw [create_domainPaths,Table.upsert_known unique member own,Table.entries_update_key unique]
  exact List.mem_map.mpr ⟨e,member,if_pos own⟩

/-- Creating one object keeps the table right unless the new entry takes an open object's slot. -/
theorem Recorded.create {s : Tracker × Objects} (recorded : Recorded s) (c : Creation)
    (kept : KeepsObject s c) : Recorded (observeCreation s c) := by
  have positive : 0 < maxTrackedDomainPaths := by decide
  constructor
  · exact unique_create recorded.unique c
  · intro k isOpen
    rcases Finset.mem_insert.mp isOpen with rfl | before
    · exact c.isObject
    · exact recorded.isObject k before
  · intro k isOpen
    change ∃ e ∈ (s.1.create c).domainPaths.entries, e.key = k ∧
      e.relativePath = Function.update s.2.path c.key (snprintf maxDomainPathLength c.relativePath) k
    rw [create_domainPaths]
    cases known : s.1.domainPaths.find? (fun e => e.key == c.key) with
    | some found =>
      obtain ⟨inTable,same⟩ := (Table.find?_key_iff recorded.unique c.key found).mp known
      rw [Table.upsert_known recorded.unique inTable same,Table.entries_update_key recorded.unique]
      by_cases own : k = c.key
      · refine ⟨c.renew found,List.mem_map.mpr ⟨found,inTable,by simp [same]⟩,?_,?_⟩
        · exact same.trans own.symm
        · rw [own,Function.update_self]
          rfl
      · obtain ⟨e,member,keyedE,pathE⟩ :=
          recorded.tracked k ((Finset.mem_insert.mp isOpen).resolve_left own)
        refine ⟨e,List.mem_map.mpr ⟨e,member,by simp [keyedE,own]⟩,keyedE,?_⟩
        rw [Function.update_of_ne own]
        exact pathE
    | none =>
      rw [Table.upsert_fresh (Table.find?_eq_none_iff.mp known)]
      by_cases own : k = c.key
      · refine ⟨c.entry,Table.mem_place_self positive c.entry,own.symm,?_⟩
        rw [own,Function.update_self]
        rfl
      · have before := (Finset.mem_insert.mp isOpen).resolve_left own
        obtain ⟨e,member,keyedE,pathE⟩ := recorded.tracked k before
        have survives : s.1.domainPaths.victim ≠ some e := by
          intro victim
          exact kept known e victim (keyedE ▸ before)
        refine ⟨e,Table.mem_place_of_mem positive member survives,keyedE,?_⟩
        rw [Function.update_of_ne own]
        exact pathE
  · intro k isOpen
    change snprintf maxDomainPathLength (Function.update s.2.path c.key _ k) = Function.update s.2.path c.key _ k
    by_cases own : k = c.key
    · rw [own,Function.update_self,snprintf_snprintf]
    · rw [Function.update_of_ne own]
      exact recorded.printed k ((Finset.mem_insert.mp isOpen).resolve_left own)

theorem onDomainEvent_close (t : Tracker) (now : Nat) (sessionId : SessionId) {objectId : ObjectId}
    (isObject : objectId ≠ 0) : (t.onDomainEvent (.dispatchClose now sessionId objectId)).domainPaths =
      t.domainPaths.update (fun e => e.key == (sessionId,objectId))
        fun e => { e with closeObserved := true, closeSeenTsNs := now } := by
  simp [Tracker.onDomainEvent,Tracker.markDomainPathCloseObserved,isObject]

/-- A close only flags the entry, so its slot and path stay. -/
theorem Recorded.close {s : Tracker × Objects} (recorded : Recorded s) (now : Nat) (sessionId : SessionId)
    (objectId : ObjectId) : Recorded (observeDomain s (.dispatchClose now sessionId objectId)) := by
  have opened : ∀ k ∈ s.2.opened.erase (sessionId,objectId), k ∈ s.2.opened :=
    fun _ => Finset.mem_of_mem_erase
  by_cases isRoot : objectId = 0
  · have same : s.1.onDomainEvent (.dispatchClose now sessionId objectId) = s.1 := by
      simp [Tracker.onDomainEvent,Tracker.markDomainPathCloseObserved,isRoot]
    rw [observeDomain,same]
    exact ⟨recorded.unique,fun k h => recorded.isObject k (opened k h),
      fun k h => recorded.tracked k (opened k h),fun k h => recorded.printed k (opened k h)⟩
  · have marked := onDomainEvent_close s.1 now sessionId isRoot
    constructor
    · rw [observeDomain,marked]
      exact Table.unique_update recorded.unique fun _ _ => rfl
    · exact fun k h => recorded.isObject k (opened k h)
    · intro k isOpen
      obtain ⟨e,member,keyed,path⟩ := recorded.tracked k (opened k isOpen)
      have other : e.key ≠ (sessionId,objectId) := keyed ▸ (Finset.mem_erase.mp isOpen).1
      rw [observeDomain,marked,Table.entries_update_key recorded.unique]
      exact ⟨e,List.mem_map.mpr ⟨e,member,by simp [other]⟩,keyed,path⟩
    · exact fun k h => recorded.printed k (opened k h)

/-- The end of a session forgets its entries and no other. -/
theorem Recorded.sessionEnd {s : Tracker × Objects} (recorded : Recorded s) (sessionId : SessionId) :
    Recorded (observeDomain s (.sessionEnd sessionId)) := by
  have entries : (s.1.onDomainEvent (.sessionEnd sessionId)).domainPaths.entries =
      s.1.domainPaths.entries.filter fun e => !(e.sessionId == sessionId) :=
    Table.entries_erase s.1.domainPaths _
  have opened : ∀ k ∈ s.2.opened.filter (fun k => k.1 ≠ sessionId), k ∈ s.2.opened ∧ k.1 ≠ sessionId :=
    fun _ => Finset.mem_filter.mp
  constructor
  · exact Table.unique_erase _ _ recorded.unique
  · exact fun k h => recorded.isObject k (opened k h).1
  · intro k isOpen
    obtain ⟨before,other⟩ := opened k isOpen
    obtain ⟨e,member,keyed,path⟩ := recorded.tracked k before
    have kept : (!(e.sessionId == sessionId)) = true := by
      subst keyed
      simpa [DomainPathEntry.key] using other
    rw [observeDomain,entries]
    exact ⟨e,List.mem_filter.mpr ⟨member,kept⟩,keyed,path⟩
  · exact fun k h => recorded.printed k (opened k h).1

theorem foldl_observeCreation (s : Tracker × Objects) (created : List Creation) :
    created.foldl observeCreation s = (created.foldl Tracker.create s.1,created.foldl Objects.create s.2) := by
  induction created generalizing s with
  | nil => rfl
  | cons c rest ih => exact ih (observeCreation s c)

theorem observeDomain_creates (s : Tracker × Objects) (clock : Nat → Nat) (sessionId : SessionId)
    (objectId : ObjectId) (commandId : Nat) (responseDecode : ResponseDecodeDetails) :
    observeDomain s (.returned clock sessionId objectId commandId responseDecode) =
      (s.1.creations (.returned clock sessionId objectId commandId responseDecode)).foldl observeCreation s := by
  rw [foldl_observeCreation,observeDomain,onDomainEvent_creates]
  rfl

theorem observeDomain_convert (s : Tracker × Objects) (now : Nat) (sessionId : SessionId)
    (objectId requestObjectId : ObjectId) :
    observeDomain s (.convertCurrentObjectToDomain now sessionId objectId requestObjectId) =
      (s.1.creations (.convertCurrentObjectToDomain now sessionId objectId requestObjectId)).foldl
        observeCreation s := by
  rw [foldl_observeCreation,observeDomain,onDomainEvent_convert]
  rfl

/-- One event keeps the table right when each object it creates does. -/
theorem Recorded.step {s : Tracker × Objects} (recorded : Recorded s) (e : DomainEvent)
    (kept : Guarded observeCreation KeepsObject s (s.1.creations e)) : Recorded (observeDomain s e) := by
  have created := kept.invariant Recorded (fun s c recorded kept => recorded.create c kept) recorded
  cases e with
  | returned clock sessionId objectId commandId responseDecode =>
    rw [observeDomain_creates]
    exact created
  | convertCurrentObjectToDomain now sessionId objectId requestObjectId =>
    rw [observeDomain_convert]
    exact created
  | dispatchClose now sessionId objectId => exact recorded.close now sessionId objectId
  | sessionEnd sessionId => exact recorded.sessionEnd sessionId

/-- In a run that never gives an open object's slot away, every open object keeps its path
in every state. -/
theorem domainPaths_right {t : Tracker} {events : List DomainEvent}
    (unique : t.domainPaths.Unique DomainPathEntry.key) (kept : OnCreations KeepsObject t events) :
    ∀ before after, events = before ++ after → PathsRight (before.foldl observeDomain (t,.none)) := by
  rintro before after rfl
  have recorded := Guarded.invariant Recorded (fun s e recorded kept => recorded.step e kept)
    (Guarded.before kept) (Recorded.start unique)
  exact recorded.pathsRight

/-- The open objects fill the table from the front, in the order of `keys`. -/
structure Filled (s : Tracker × Objects) (keys : List (SessionId × ObjectId)) : Prop where
  packed : ∃ l, s.1.domainPaths.Packed l ∧ l.map DomainPathEntry.key = keys
  opened : s.2.opened = keys.toFinset

theorem filled_reset : Filled (.reset,.none) [] := ⟨⟨[],Table.packed_empty,rfl⟩,rfl⟩

theorem Filled.create {s : Tracker × Objects} {keys : List (SessionId × ObjectId)} (filled : Filled s keys)
    {c : Creation} (isFresh : c.key ∉ keys) (room : keys.length < maxTrackedDomainPaths) :
    AdmitsObject s c ∧ Filled (observeCreation s c) (keys ++ [c.key]) := by
  obtain ⟨⟨l,packed,rfl⟩,opened⟩ := filled
  rw [List.length_map] at room
  have notOpen : c.key ∉ s.2.opened := by rwa [opened,List.mem_toFinset]
  refine ⟨⟨notOpen,?_⟩,?_,?_⟩
  · rw [Finset.card_insert_of_notMem notOpen,opened]
    have atMost := (l.map DomainPathEntry.key).toFinset_card_le
    rw [List.length_map] at atMost
    omega
  · have absent : ∀ e ∈ s.1.domainPaths.entries, (e.key == c.key) = false := by
      rw [packed.entries]
      intro e member
      exact beq_false_of_ne fun same => isFresh (same ▸ List.mem_map_of_mem member)
    refine ⟨l ++ [c.entry],?_,by rw [List.map_append,List.map_singleton,c.key_entry]⟩
    change (s.1.create c).domainPaths.Packed _
    rw [create_domainPaths,Table.upsert_fresh absent]
    exact packed.place room c.entry
  · change insert c.key s.2.opened = _
    rw [opened,List.toFinset_append,Finset.union_comm]
    rfl

theorem Filled.creations {s : Tracker × Objects} {keys : List (SessionId × ObjectId)} (filled : Filled s keys)
    {created : List Creation} (distinct : (keys ++ created.map Creation.key).Nodup)
    (room : keys.length + created.length ≤ maxTrackedDomainPaths) :
    Guarded observeCreation AdmitsObject s created ∧
      Filled (created.foldl observeCreation s) (keys ++ created.map Creation.key) := by
  induction created generalizing s keys with
  | nil => exact ⟨trivial,by simpa using filled⟩
  | cons c rest ih =>
    rw [List.map_cons,List.append_cons] at distinct ⊢
    rw [List.length_cons] at room
    have isFresh : c.key ∉ keys := fun member =>
      (List.nodup_append.mp distinct.of_append_left).2.2 _ member _ (List.mem_singleton_self _) rfl
    obtain ⟨admitted,next⟩ := filled.create isFresh (by omega)
    obtain ⟨others,last⟩ := ih next distinct (by rw [List.length_append,List.length_singleton]; omega)
    exact ⟨⟨admitted,others⟩,last⟩

section Full

variable {s : Tracker × Objects} {first : SessionId × ObjectId} {others : List (SessionId × ObjectId)}
  {sessionId : SessionId} {objectId : ObjectId} {c : Creation}

/-- The closed object makes room for the new one among the open ones. -/
theorem Filled.admits_reopened (filled : Filled s (first :: others))
    (full : (first :: others).length = maxTrackedDomainPaths) (now : Nat) (closed : (sessionId,objectId) ∈ others)
    (isFresh : c.key ∉ first :: others) : AdmitsObject (observeDomain s (.dispatchClose now sessionId objectId)) c := by
  have isOpen : ∀ k, k ∈ s.2.opened ↔ k ∈ first :: others := fun k => by rw [filled.opened,List.mem_toFinset]
  have notOpen : c.key ∉ s.2.opened.erase (sessionId,objectId) := fun member =>
    isFresh ((isOpen _).mp (Finset.mem_of_mem_erase member))
  refine ⟨notOpen,?_⟩
  change (insert c.key (s.2.opened.erase (sessionId,objectId))).card ≤ _
  rw [Finset.card_insert_of_notMem notOpen,
    Finset.card_erase_add_one ((isOpen _).mpr (List.mem_cons_of_mem first closed)),filled.opened,← full]
  exact (first :: others).toFinset_card_le

/-- The table still has no free slot, so the new object takes slot 0. -/
theorem Filled.untracks_first (filled : Filled s (first :: others)) (distinct : (first :: others).Nodup)
    (full : (first :: others).length = maxTrackedDomainPaths) (now : Nat) (isObject : objectId ≠ 0)
    (isFresh : c.key ∉ first :: others) :
    (observeCreation (observeDomain s (.dispatchClose now sessionId objectId)) c).1.getTrackedDomainPath
      first.1 first.2 = none := by
  obtain ⟨⟨l,packed,keys⟩,_⟩ := filled
  have marked := onDomainEvent_close s.1 now sessionId isObject
  change ((s.1.onDomainEvent (.dispatchClose now sessionId objectId)).create c).domainPaths.find? _ = none
  generalize s.1.onDomainEvent (.dispatchClose now sessionId objectId) = t at marked ⊢
  have sameKeys : t.domainPaths.entries.map DomainPathEntry.key = first :: others := by
    have unique : s.1.domainPaths.Unique DomainPathEntry.key := by
      rw [Table.Unique,packed.entries,keys]
      exact distinct
    rw [marked,Table.entries_update_key unique,packed.entries,List.map_map,← keys]
    refine List.map_congr_left fun e _ => ?_
    rw [Function.comp_apply]
    split <;> rfl
  have noFree : t.domainPaths.hasFree = false := by
    rw [marked,Table.hasFree_update,packed.hasFree,← List.length_map DomainPathEntry.key,keys,full]
    exact decide_eq_false (Nat.lt_irrefl _)
  have absent : ∀ e ∈ t.domainPaths.entries, (e.key == c.key) = false := by
    intro e member
    refine beq_false_of_ne fun same => isFresh ?_
    rw [← same,← sameKeys]
    exact List.mem_map_of_mem member
  obtain ⟨lost,rest,_,before,after⟩ := Table.entries_place_full (by decide) noFree c.entry
  rw [before,List.map_cons] at sameKeys
  obtain ⟨_,tail⟩ := List.cons.inj sameKeys
  refine Table.find?_eq_none_iff.mpr fun e member => beq_false_of_ne fun same => ?_
  rw [create_domainPaths,Table.upsert_fresh absent,after] at member
  rcases List.mem_cons.mp member with rfl | inRest
  · rw [← c.key_entry,same] at isFresh
    exact isFresh List.mem_cons_self
  · apply (List.nodup_cons.mp distinct).1
    rw [← tail,← Prod.mk.eta (p := first),← same]
    exact List.mem_map_of_mem inRest

end Full

/-- A response creates an object under each id that it lists. -/
theorem creations_keys (t : Tracker) {clock : Nat → Nat} {sessionId : SessionId} {objectId : ObjectId}
    {commandId : Nat} {responseDecode : ResponseDecodeDetails} (valid : responseDecode.outObjectIdsValid = true)
    (listed : responseDecode.outObjectIdCount ≠ 0)
    (isObject : ∀ id ∈ responseDecode.outObjectIds.take responseDecode.outObjectIdCount, id.toNat ≠ 0) :
    (t.creations (.returned clock sessionId objectId commandId responseDecode)).map Creation.key =
      (responseDecode.outObjectIds.take responseDecode.outObjectIdCount).map fun id => (sessionId,id.toNat) := by
  rw [Tracker.creations,if_neg (by simp [valid,listed]),List.map_filterMap]
  generalize responseDecode.outObjectIds.take responseDecode.outObjectIdCount = ids at isObject ⊢
  have first : ids.map (fun id => (sessionId,id.toNat)) =
      ids.zipIdx.map ((fun id => (sessionId,id.toNat)) ∘ Prod.fst) := by
    rw [← List.map_map,List.zipIdx_map_fst]
  rw [first,← List.filterMap_eq_map]
  refine List.filterMap_congr fun child member => ?_
  rw [dif_neg (isObject child.1 (List.fst_mem_of_mem_zipIdx member))]
  rfl

def returnedEight (first : Nat) : DomainEvent :=
  .returned (fun _ => 0) 1 0 0 { ResponseDecodeDetails.empty with
    outObjectIdsValid := true
    outObjectIdCount := 8
    outObjectIds := (List.range 8).map fun i => UInt32.ofNat (first + i) }

/-- Two responses with a close between them. -/
theorem domainPaths_right_reopened :
    PathsRight ([returnedEight 1,.dispatchClose 0 1 3,returnedEight 9].foldl observeDomain (.reset,.none)) :=
  domainPaths_right (Table.unique_empty _) (by unfold OnCreations; decide) _ [] (List.append_nil _).symm

theorem creations_returnedEight (t : Tracker) {first : Nat} (positive : 0 < first) (small : first + 8 ≤ 2 ^ 32) :
    (t.creations (returnedEight first)).map Creation.key = (List.range' first 8).map fun i => (1,i) := by
  have value : ∀ i ∈ List.range 8, (UInt32.ofNat (first + i)).toNat = first + i := by
    intro i member
    rw [List.mem_range] at member
    exact UInt32.toNat_ofNat_of_lt' (Nat.lt_of_lt_of_le (Nat.add_lt_add_left member first) small)
  refine (creations_keys t rfl (show 8 ≠ 0 by decide) fun id member => ?_).trans ?_
  · obtain ⟨i,inside,rfl⟩ := List.mem_map.mp (List.mem_of_mem_take member)
    rw [value i inside]
    omega
  · change ((List.range 8).map fun i => UInt32.ofNat (first + i)).map _ = _
    rw [List.map_map,List.range'_eq_map_range,List.map_map]
    exact List.map_congr_left fun i inside => congrArg (Prod.mk 1) (value i inside)

/-- The keys of the objects from 1 on that this many responses return. -/
def returnedKeys (responses : Nat) : List (SessionId × ObjectId) := (List.range' 1 (8 * responses)).map fun i => (1,i)

theorem nodup_returnedKeys (responses : Nat) : (returnedKeys responses).Nodup :=
  List.Nodup.map (fun _ _ same => (Prod.mk.inj same).2) List.nodup_range'

theorem mem_returnedKeys {responses : Nat} {k : SessionId × ObjectId} :
    k ∈ returnedKeys responses ↔ k.1 = 1 ∧ 1 ≤ k.2 ∧ k.2 < 1 + 8 * responses := by
  rw [returnedKeys,List.mem_map]
  constructor
  · rintro ⟨i,inside,rfl⟩
    exact ⟨rfl,List.mem_range'_1.mp inside⟩
  · rintro ⟨session,inside⟩
    exact ⟨k.2,List.mem_range'_1.mpr inside,Prod.ext session.symm rfl⟩

@[simp] theorem length_returnedKeys (responses : Nat) : (returnedKeys responses).length = 8 * responses := by
  simp [returnedKeys]

theorem filled_responses (responses : Nat) (few : responses ≤ 32) :
    OnCreations AdmitsObject .reset ((List.range responses).map fun i => returnedEight (8 * i + 1)) ∧
      Filled (((List.range responses).map fun i => returnedEight (8 * i + 1)).foldl observeDomain (.reset,.none))
        (returnedKeys responses) := by
  induction responses with
  | zero => exact ⟨trivial,filled_reset⟩
  | succ responses ih =>
    obtain ⟨admitted,filled⟩ := ih (Nat.le_of_succ_le few)
    rw [List.range_succ,List.map_append,List.map_singleton,List.foldl_append,List.foldl_cons,List.foldl_nil]
    generalize (List.range responses).map (fun i => returnedEight (8 * i + 1)) = events at admitted filled ⊢
    have next := creations_returnedEight (events.foldl observeDomain (.reset,.none)).1 (Nat.succ_pos (8 * responses))
      (by omega)
    have keys : returnedKeys (responses + 1) =
        returnedKeys responses ++ (List.range' (8 * responses + 1) 8).map fun i => (1,i) := by
      rw [returnedKeys,returnedKeys,← List.map_append,Nat.mul_succ,← List.range'_append_1,Nat.add_comm 1]
    rw [← next] at keys
    have size := congrArg List.length keys
    rw [List.length_append,List.length_map,length_returnedKeys] at size
    obtain ⟨guarded,created⟩ := filled.creations (keys ▸ nodup_returnedKeys _)
      (by rw [← size,maxTrackedDomainPaths]; omega)
    rw [← keys] at created
    refine ⟨guarded_append.mpr ⟨admitted,guarded,trivial⟩,?_⟩
    rw [returnedEight,observeDomain_creates]
    exact created

/-- 256 objects, the close of one outside slot 0, and one more object. -/
def pathsFilled : List DomainEvent :=
  (List.range 32).map (fun i => returnedEight (8 * i + 1)) ++
    [.dispatchClose 0 1 2,.convertCurrentObjectToDomain 0 2 1 0]

/-- The closed entry keeps its slot, so the new object takes slot 0 from the open object 1. -/
theorem domainPaths_not_right :
    ¬∀ events, OnCreations AdmitsObject .reset events →
      ∀ before after, events = before ++ after → PathsRight (before.foldl observeDomain (.reset,.none)) := by
  intro right
  let root : Creation := ⟨0,2,1,"root".toList,0,0,by decide,by decide⟩
  obtain ⟨admitted,filled⟩ := filled_responses 32 (Nat.le_refl 32)
  obtain ⟨others,keys⟩ : ∃ others, returnedKeys 32 = (1,1) :: others := ⟨_,rfl⟩
  have closed : ((1,2) : SessionId × ObjectId) ∈ others := by
    have member : ((1,2) : SessionId × ObjectId) ∈ returnedKeys 32 := mem_returnedKeys.mpr (by decide)
    rw [keys] at member
    exact (List.mem_cons.mp member).resolve_left (by decide)
  have isFresh : root.key ∉ (1,1) :: others := by
    rw [← keys,mem_returnedKeys]
    decide
  have full : ((1,1) :: others).length = maxTrackedDomainPaths := by
    rw [← keys]
    exact length_returnedKeys 32
  have distinct := nodup_returnedKeys 32
  rw [keys] at filled distinct
  have admits := filled.admits_reopened full 0 closed isFresh
  have untracked := @Filled.untracks_first _ _ _ 1 2 root filled distinct full 0 (by decide) isFresh
  have wasOpen := filled.opened
  have reopened := right pathsFilled (guarded_append.mpr ⟨admitted,trivial,⟨admits,trivial⟩,trivial⟩) pathsFilled []
    (List.append_nil _).symm
  rw [pathsFilled,List.foldl_append,List.foldl_cons,List.foldl_cons,List.foldl_nil] at reopened
  generalize ((List.range 32).map fun i => returnedEight (8 * i + 1)).foldl observeDomain (.reset,.none) = s at *
  have isOpen : (1,1) ∈ (observeDomain (observeDomain s (.dispatchClose 0 1 2))
      (.convertCurrentObjectToDomain 0 2 1 0)).2.opened := by
    apply Finset.mem_insert_of_mem
    refine Finset.mem_erase.mpr ⟨by decide,?_⟩
    rw [wasOpen]
    exact List.mem_toFinset.mpr List.mem_cons_self
  have tracked := (reopened (1,1) isOpen).1
  rw [observeDomain_convert] at tracked
  change (Tracker.getTrackedDomainPath (observeCreation (observeDomain s (.dispatchClose 0 1 2)) root).1 1 1).isSome =
    true at tracked
  rw [untracked] at tracked
  cases tracked

end NxReverse.Probe
