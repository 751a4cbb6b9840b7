import NxReverse.Probe.DomainPaths
import NxReverse.Probe.ObjectPaths

/-! The kind that a printed path gives an object against the commands that really created it,
from the root of its session on. -/
namespace NxReverse.Probe

open Slots Text Runs

/-- The services whose objects are told apart by their paths. -/
inductive TracedObjects where
  | nifm | ssl
  deriving DecidableEq, Repr

namespace TracedObjects

def services : TracedObjects → List CString
  | .nifm => ["nifm:u".toList,"nifm:s".toList]
  | .ssl => ["ssl".toList,"ssl:s".toList]

def isKnownObjectPath : TracedObjects → CString → Bool
  | .nifm => isKnownNifmObjectPath
  | .ssl => isKnownSslObjectPath

/-- The commands of the root that create an object of the first kind. -/
def first : TracedObjects → List Nat
  | .nifm => [4,5]
  | .ssl => [0,100]

/-- The commands of the first kind that create an object of the second one. -/
def second : TracedObjects → List Nat
  | .nifm => [4]
  | .ssl => [2,100]

/-- The root, an object of the first kind or one of the second. -/
def OfKind (kinds : TracedObjects) (chain : List Nat) : Prop :=
  chain = [] ∨ (∃ a ∈ kinds.first, chain = [a]) ∨ ∃ a ∈ kinds.first, ∃ b ∈ kinds.second, chain = [a,b]

theorem isKnownObjectPath_eq (kinds : TracedObjects) :
    kinds.isKnownObjectPath = Probe.isKnownObjectPath kinds.first kinds.second := by
  cases kinds <;> rfl

theorem services_plain (kinds : TracedObjects) : ∀ service ∈ kinds.services, '.' ∉ service ∧ service.length ≤ 8 := by
  cases kinds <;> decide

end TracedObjects

inductive ObjectEvent where
  | returned (clock : Nat → Nat) (sessionId : SessionId) (objectId commandId : UInt32)
      (responseDecode : ResponseDecodeDetails) (array : responseDecode.outObjectIds.length = 8)
  | untraced (sessionId : SessionId) (parentObjectId commandId objectId : UInt32)
  | convertCurrentObjectToDomain (now : Nat) (sessionId : SessionId) (objectId requestObjectId : UInt32)
  | dispatchClose (now : Nat) (sessionId : SessionId) (requestObjectId : UInt32)
  | sessionStart (serviceName : CString) (sessionId : SessionId) (clientInfo : MitmProcessInfo)
  | sessionEnd (sessionId : SessionId)

def Tracker.onObjectEvent (t : Tracker) : ObjectEvent → Tracker
  | .returned clock sessionId objectId commandId responseDecode _ =>
    t.onDomainEvent (.returned clock sessionId objectId.toNat commandId.toNat responseDecode)
  | .untraced .. => t
  | .convertCurrentObjectToDomain now sessionId objectId requestObjectId =>
    t.onDomainEvent (.convertCurrentObjectToDomain now sessionId objectId.toNat requestObjectId.toNat)
  | .dispatchClose now sessionId requestObjectId =>
    t.onDomainEvent (.dispatchClose now sessionId requestObjectId.toNat)
  | .sessionStart serviceName sessionId clientInfo => (t.rememberSession serviceName sessionId clientInfo).1
  | .sessionEnd sessionId => t.onDomainEvent (.sessionEnd sessionId)

/-- The commands that created each object, from the root of its session on. -/
structure Chains where
  created : SessionId × ObjectId → Option (List Nat)

namespace Chains

def none : Chains := ⟨fun _ => .none⟩

def of (g : Chains) (sessionId : SessionId) (objectId : ObjectId) : Option (List Nat) :=
  if objectId = 0 then some [] else g.created (sessionId,objectId)

def create (chain : Option (List Nat)) (g : Chains) (c : Creation) : Chains :=
  ⟨Function.update g.created c.key chain⟩

def extend (g : Chains) (sessionId : SessionId) (objectId : ObjectId) (commandId : Nat) : Option (List Nat) :=
  (g.of sessionId objectId).map (· ++ [commandId])

def observe (g : Chains) (t : Tracker) : ObjectEvent → Chains
  | .returned clock sessionId objectId commandId responseDecode _ =>
    (t.creations (.returned clock sessionId objectId.toNat commandId.toNat responseDecode)).foldl
      (create (g.extend sessionId objectId.toNat commandId.toNat)) g
  | .untraced sessionId parentObjectId commandId objectId =>
    ⟨Function.update g.created (sessionId,objectId.toNat) (g.extend sessionId parentObjectId.toNat commandId.toNat)⟩
  | .convertCurrentObjectToDomain now sessionId objectId requestObjectId =>
    (t.creations (.convertCurrentObjectToDomain now sessionId objectId.toNat requestObjectId.toNat)).foldl
      (create (some [])) g
  | .dispatchClose .. | .sessionStart .. => g
  | .sessionEnd sessionId => ⟨fun k => if k.1 = sessionId then .none else g.created k⟩

end Chains

def observeObject (s : Tracker × Chains) (e : ObjectEvent) : Tracker × Chains :=
  (s.1.onObjectEvent e,s.2.observe s.1 e)

/-- The path of what `objectId` creates with `commandId` says where it comes from: either the path
of the creating object is printed from the root on or the command makes no object of the first
kind, and an object that is one segment below its base and makes one of the second kind was really
made by the root as one of the first kind. -/
structure CreatesNamed (kinds : TracedObjects) (s : Tracker × Chains) (sessionId : SessionId) (objectId : ObjectId)
    (commandId : Nat) : Prop where
  tracked : objectId ≠ 0 → s.1.getTrackedDomainPath sessionId objectId = none → commandId ∉ kinds.first
  typed : ∀ e ∈ s.1.getTrackedDomainPath sessionId objectId, countCmdSegments e.relativePath = 1 →
    commandId ∈ kinds.second → ∃ a ∈ kinds.first, s.2.of sessionId objectId = some [a]

/-- The condition on an event: what it creates is named right, and an object that is created
untraced has no entry left from an earlier object with its id. -/
def NamesObjects (kinds : TracedObjects) (s : Tracker × Chains) : ObjectEvent → Prop
  | .returned clock sessionId objectId commandId responseDecode _ =>
    s.1.creations (.returned clock sessionId objectId.toNat commandId.toNat responseDecode) ≠ [] →
      CreatesNamed kinds s sessionId objectId.toNat commandId.toNat
  | .untraced sessionId _ _ objectId => s.1.getTrackedDomainPath sessionId objectId.toNat = none
  | _ => True

instance (kinds : TracedObjects) (s : Tracker × Chains) (sessionId : SessionId) (objectId : ObjectId)
    (commandId : Nat) : Decidable (CreatesNamed kinds s sessionId objectId commandId) :=
  decidable_of_iff
    ((objectId ≠ 0 → s.1.getTrackedDomainPath sessionId objectId = none → commandId ∉ kinds.first) ∧
      ∀ e ∈ s.1.getTrackedDomainPath sessionId objectId, countCmdSegments e.relativePath = 1 →
        commandId ∈ kinds.second → ∃ a ∈ kinds.first, s.2.of sessionId objectId = some [a])
    ⟨fun h => ⟨h.1,h.2⟩,fun h => ⟨h.tracked,h.typed⟩⟩

instance (kinds : TracedObjects) (s : Tracker × Chains) (e : ObjectEvent) : Decidable (NamesObjects kinds s e) := by
  cases e <;> unfold NamesObjects <;> infer_instance

/-- A path that is known belongs to an object that was really created as one of the kinds. -/
def ObjectsSound (kinds : TracedObjects) (s : Tracker × Chains) : Prop :=
  ∀ service ∈ kinds.services, ∀ (sessionId : SessionId) (objectId : UInt32),
    kinds.isKnownObjectPath (s.1.formatObjectPath 160 service sessionId objectId.toNat) = true →
      ∃ chain, s.2.of sessionId objectId.toNat = some chain ∧ kinds.OfKind chain

/-- The segments of a path tell the chain wherever they are known. -/
def Tells (kinds : TracedObjects) (base : CString) (chain : Option (List Nat)) : List (Nat × Nat) → Prop
  | [] => base = "root".toList ∧ chain = some []
  | [a] => a.1 ∈ kinds.first → chain = some [a.1]
  | [_,b] => b.1 ∈ kinds.second → ∃ a ∈ kinds.first, chain = some [a,b.1]
  | _ => True

def Lineage (kinds : TracedObjects) (path : CString) (chain : Option (List Nat)) : Prop :=
  ∃ base segments, IsBase base ∧ Bounded segments ∧
    path = snprintf maxDomainPathLength (printedPath base segments) ∧ Tells kinds base chain segments

theorem snprintf_append (capacity : Nat) (front rest : CString) :
    snprintf capacity (snprintf capacity front ++ rest) = snprintf capacity (front ++ rest) := by
  simp only [snprintf,List.take_append,List.take_take,List.length_take,Nat.min_self]
  congr 2
  omega

theorem isBase_root : IsBase "root".toList := .inl rfl

theorem isBase_obj (objectId : UInt32) : IsBase ("obj".toList ++ decimal objectId.toNat) :=
  .inr ⟨_,objectId.toNat_lt,rfl⟩

/-- The printed path of a child is its parent's with one more segment. -/
theorem returnedObjectPath_printed (base : CString) (segments : List (Nat × Nat)) (commandId index : Nat) :
    snprintf maxDomainPathLength
        (returnedObjectPath (snprintf maxDomainPathLength (printedPath base segments)) commandId index) =
      snprintf maxDomainPathLength (printedPath base (segments ++ [(commandId,index)])) := by
  have text : printedPath base (segments ++ [(commandId,index)]) =
      printedPath base segments ++ cmdSegment (commandId,index) := by
    simp [printedPath]
  rw [text,← snprintf_append _ (printedPath base segments)]
  simp [returnedObjectPath,snprintf_snprintf,cmdSegment]

section Lookup

variable {kinds : TracedObjects} {t : Tracker} {g : Chains} {sessionId : SessionId}

structure Told (kinds : TracedObjects) (s : Tracker × Chains) : Prop where
  unique : s.1.domainPaths.Unique DomainPathEntry.key
  isObject : ∀ e ∈ s.1.domainPaths.entries, e.objectId ≠ 0
  lineage : ∀ e ∈ s.1.domainPaths.entries, Lineage kinds e.relativePath (s.2.created e.key)

theorem Told.of_tracked {s : Tracker × Chains} (told : Told kinds s) {objectId : ObjectId} {e : DomainPathEntry}
    (tracked : s.1.getTrackedDomainPath sessionId objectId = some e) :
    Lineage kinds e.relativePath (s.2.of sessionId objectId) := by
  obtain ⟨member,keyed⟩ := (Table.find?_key_iff told.unique (sessionId,objectId) e).mp tracked
  have isObject : objectId ≠ 0 := by
    have same : e.objectId = objectId := congrArg Prod.snd keyed
    exact same ▸ told.isObject e member
  have lineage := told.lineage e member
  rw [keyed] at lineage
  rw [Chains.of,if_neg isObject]
  exact lineage

theorem Lineage.printed {path : CString} {chain : Option (List Nat)} (lineage : Lineage kinds path chain) :
    snprintf maxDomainPathLength path = path := by
  obtain ⟨base,segments,_,_,rfl,_⟩ := lineage
  exact snprintf_snprintf _ _

theorem count_oneSegment {base : CString} (isBase : IsBase base) {a : Nat × Nat} (bounded : Bounded [a]) :
    countCmdSegments (snprintf maxDomainPathLength (printedPath base [a])) = 1 := by
  have baseLength := isBase.length
  have fits := length_cmdSegment (bounded a List.mem_cons_self).1 (bounded a List.mem_cons_self).2
  rw [printed_whole (by simp [printedPath]; omega),countCmdSegments,cmdSegmentsFrom_append isBase.noDot,
    countCmdSegments_segments]
  rfl

/-- A child's path has its lineage when its creation is named right. -/
theorem lineage_child {s : Tracker × Chains} (told : Told kinds s) {objectId commandId : UInt32} {index : Nat}
    (inside : index < 8) (named : CreatesNamed kinds s sessionId objectId.toNat commandId.toNat) :
    Lineage kinds
      (snprintf maxDomainPathLength (returnedObjectPath
        (s.1.getRelativeDomainPath maxDomainPathLength sessionId objectId.toNat) commandId.toNat index))
      (s.2.extend sessionId objectId.toNat commandId.toNat) := by
  have boundedChild : Bounded [(commandId.toNat,index)] := by
    intro a member
    obtain rfl := List.mem_singleton.mp member
    exact ⟨commandId.toNat_lt,inside⟩
  unfold Tracker.getRelativeDomainPath Chains.extend
  by_cases isRoot : objectId.toNat = 0
  · have path := returnedObjectPath_printed "root".toList [] commandId.toNat index
    rw [printedPath,List.flatMap_nil,List.append_nil] at path
    rw [if_pos isRoot,path,Chains.of,if_pos isRoot]
    exact ⟨_,_,isBase_root,boundedChild,rfl,fun _ => rfl⟩
  · rw [if_neg isRoot]
    cases tracked : s.1.getTrackedDomainPath sessionId objectId.toNat with
    | none =>
      have path := returnedObjectPath_printed ("obj".toList ++ decimal objectId.toNat) [] commandId.toNat index
      rw [printedPath,List.flatMap_nil,List.append_nil] at path
      dsimp only
      rw [path]
      exact ⟨_,_,isBase_obj objectId,boundedChild,rfl,fun known => absurd known (named.tracked isRoot tracked)⟩
    | some e =>
      have lineage := told.of_tracked tracked
      have typed := named.typed e tracked
      dsimp only
      rw [lineage.printed]
      obtain ⟨base,segments,isBase,bounded,path,tells⟩ := lineage
      rw [path] at typed ⊢
      rw [returnedObjectPath_printed]
      refine ⟨base,segments ++ [(commandId.toNat,index)],isBase,?_,rfl,?_⟩
      · intro a member
        rcases List.mem_append.mp member with before | last
        · exact bounded a before
        · exact boundedChild a last
      · rcases segments with _ | ⟨a,_ | ⟨b,_ | ⟨c,more⟩⟩⟩
        · intro _
          rw [tells.2]
          rfl
        · intro known
          obtain ⟨c,ofFirst,chain⟩ := typed (count_oneSegment isBase bounded) known
          refine ⟨c,ofFirst,?_⟩
          rw [chain]
          rfl
        · trivial
        · trivial

theorem Told.start : Told kinds (.reset,.none) where
  unique := Table.unique_empty _
  isObject e member := by
    rw [Tracker.reset,Table.entries_empty] at member
    cases member
  lineage e member := by
    rw [Tracker.reset,Table.entries_empty] at member
    cases member

/-- What the table holds after an object was created: its entry, and old entries of others. -/
theorem created_or_old {e : DomainPathEntry} (unique : t.domainPaths.Unique DomainPathEntry.key) (c : Creation)
    (member : e ∈ (t.create c).domainPaths.entries) :
    (e.key = c.key ∧ e.relativePath = snprintf maxDomainPathLength c.relativePath) ∨
      (e ∈ t.domainPaths.entries ∧ e.key ≠ c.key) := by
  rcases mem_create unique member with rfl | ⟨old,_,own,rfl⟩ | other
  · exact .inl ⟨rfl,rfl⟩
  · exact .inl ⟨own,rfl⟩
  · exact .inr other

theorem Told.create {chain : Option (List Nat)} (told : Told kinds (t,g)) (c : Creation)
    (lineage : Lineage kinds (snprintf maxDomainPathLength c.relativePath) chain) :
    Told kinds (t.create c,g.create chain c) where
  unique := unique_create told.unique c
  isObject e member := by
    rcases created_or_old told.unique c member with ⟨own,_⟩ | ⟨old,_⟩
    · have same : e.objectId = c.objectId := congrArg Prod.snd own
      rw [same]
      exact c.isObject
    · exact told.isObject e old
  lineage e member := by
    change Lineage kinds e.relativePath (Function.update g.created c.key chain e.key)
    rcases created_or_old told.unique c member with ⟨own,path⟩ | ⟨old,other⟩
    · rw [own,Function.update_self,path]
      exact lineage
    · rw [Function.update_of_ne other]
      exact told.lineage e old

theorem Told.foldl_create {chain : Option (List Nat)} (told : Told kinds (t,g)) {created : List Creation}
    (lineage : ∀ c ∈ created, Lineage kinds (snprintf maxDomainPathLength c.relativePath) chain) :
    Told kinds (created.foldl Tracker.create t,created.foldl (Chains.create chain) g) := by
  induction created generalizing t g with
  | nil => exact told
  | cons c rest ih =>
    obtain ⟨first,later⟩ := List.forall_mem_cons.mp lineage
    exact ih (told.create c first) later

/-- Fewer entries, and a chain for each of them as before. -/
theorem Told.mono {next : Tracker × Chains} (told : Told kinds (t,g))
    (unique : next.1.domainPaths.Unique DomainPathEntry.key)
    (kept : ∀ e ∈ next.1.domainPaths.entries, ∃ old ∈ t.domainPaths.entries, old.key = e.key ∧
      old.relativePath = e.relativePath ∧ next.2.created e.key = g.created e.key) : Told kinds next where
  unique := unique
  isObject e member := by
    obtain ⟨old,oldMember,keyed,_⟩ := kept e member
    have same : old.objectId = e.objectId := congrArg Prod.snd keyed
    exact same ▸ told.isObject old oldMember
  lineage e member := by
    obtain ⟨old,oldMember,keyed,path,chain⟩ := kept e member
    have lineage := told.lineage old oldMember
    rw [keyed,path] at lineage
    rw [chain]
    exact lineage

theorem mem_forgotten {e : DomainPathEntry}
    (member : e ∈ (t.domainPaths.erase fun e => e.sessionId == sessionId).entries) :
    e ∈ t.domainPaths.entries ∧ e.sessionId ≠ sessionId := by
  rw [Table.entries_erase] at member
  obtain ⟨old,other⟩ := List.mem_filter.mp member
  exact ⟨old,by simpa using other⟩

/-- The objects of one response, each named by the path of the object that returned it. -/
theorem mem_returned {clock : Nat → Nat} {objectId commandId : ObjectId} {responseDecode : ResponseDecodeDetails}
    (array : responseDecode.outObjectIds.length = 8) {c : Creation}
    (member : c ∈ t.creations (.returned clock sessionId objectId commandId responseDecode)) :
    ∃ index < 8, c.relativePath =
      returnedObjectPath (t.getRelativeDomainPath maxDomainPathLength sessionId objectId) commandId index := by
  unfold Tracker.creations at member
  dsimp only at member
  split at member
  · cases member
  · obtain ⟨child,inList,made⟩ := List.mem_filterMap.mp member
    split at made
    · cases made
    · obtain rfl := Option.some.inj made
      have bound := List.snd_lt_of_mem_zipIdx inList
      rw [List.length_take,array] at bound
      exact ⟨child.2,by omega,rfl⟩

theorem told_returned {s : Tracker × Chains} (told : Told kinds s) {clock : Nat → Nat} {objectId commandId : UInt32}
    {responseDecode : ResponseDecodeDetails} (array : responseDecode.outObjectIds.length = 8)
    (names : NamesObjects kinds s (.returned clock sessionId objectId commandId responseDecode array)) :
    Told kinds (observeObject s (.returned clock sessionId objectId commandId responseDecode array)) := by
  have tracker := onDomainEvent_creates s.1 clock sessionId objectId.toNat commandId.toNat responseDecode
  rw [observeObject,Tracker.onObjectEvent,tracker]
  refine told.foldl_create fun c member => ?_
  obtain ⟨index,inside,path⟩ := mem_returned array member
  have named := names (List.ne_nil_of_mem member)
  rw [path]
  exact lineage_child told inside named

theorem told_convert {s : Tracker × Chains} (told : Told kinds s) {now : Nat} {objectId requestObjectId : UInt32} :
    Told kinds (observeObject s (.convertCurrentObjectToDomain now sessionId objectId requestObjectId)) := by
  have tracker := onDomainEvent_convert s.1 now sessionId objectId.toNat requestObjectId.toNat
  rw [observeObject,Tracker.onObjectEvent,tracker]
  refine told.foldl_create fun c member => ?_
  unfold Tracker.creations at member
  dsimp only at member
  split at member
  · cases member
  · obtain rfl := List.mem_singleton.mp member
    refine ⟨_,[],isBase_root,List.forall_mem_nil _,?_,rfl,rfl⟩
    rw [printedPath,List.flatMap_nil,List.append_nil]

theorem told_untraced {s : Tracker × Chains} (told : Told kinds s) {parentObjectId commandId objectId : UInt32}
    (absent : s.1.getTrackedDomainPath sessionId objectId.toNat = none) :
    Told kinds (observeObject s (.untraced sessionId parentObjectId commandId objectId)) := by
  refine told.mono told.unique fun e member => ⟨e,member,rfl,rfl,?_⟩
  refine Function.update_of_ne (fun own => ?_) _ _
  have missed := Table.find?_eq_none_iff.mp absent e member
  simp [own] at missed

theorem told_dispatchClose {s : Tracker × Chains} (told : Told kinds s) {now : Nat} {objectId : UInt32} :
    Told kinds (observeObject s (.dispatchClose now sessionId objectId)) := by
  rw [observeObject,Tracker.onObjectEvent,Tracker.onDomainEvent,Tracker.markDomainPathCloseObserved]
  split
  · exact told
  · refine told.mono (Table.unique_update told.unique fun _ _ => rfl) fun e member => ?_
    change e ∈ (s.1.domainPaths.update _ _).entries at member
    rw [Table.entries_update_key told.unique] at member
    obtain ⟨old,oldMember,rfl⟩ := List.mem_map.mp member
    refine ⟨old,oldMember,?_,?_,rfl⟩ <;> split <;> rfl

theorem told_sessionEnd {s : Tracker × Chains} (told : Told kinds s) :
    Told kinds (observeObject s (.sessionEnd sessionId)) := by
  refine told.mono (Table.unique_erase _ _ told.unique) fun e member => ?_
  obtain ⟨old,other⟩ := mem_forgotten member
  exact ⟨e,old,rfl,rfl,if_neg other⟩

/-- A new session can only cost the paths of an evicted one. -/
theorem rememberSession_domainPaths (serviceName : CString) (clientInfo : MitmProcessInfo) :
    (t.rememberSession serviceName sessionId clientInfo).1.domainPaths = t.domainPaths ∨
      ∃ evicted, (t.rememberSession serviceName sessionId clientInfo).1.domainPaths =
        t.domainPaths.erase fun e => e.sessionId == evicted := by
  unfold Tracker.rememberSession
  dsimp only
  split
  · exact .inl rfl
  · split
    next evicted _ => exact .inr ⟨evicted.sessionId,rfl⟩
    · exact .inl rfl

theorem told_sessionStart {s : Tracker × Chains} (told : Told kinds s) {serviceName : CString}
    {clientInfo : MitmProcessInfo} : Told kinds (observeObject s (.sessionStart serviceName sessionId clientInfo)) := by
  rw [observeObject,Tracker.onObjectEvent]
  rcases rememberSession_domainPaths serviceName clientInfo with same | ⟨evicted,erased⟩
  · refine told.mono (by rw [same]; exact told.unique) fun e member => ⟨e,?_,rfl,rfl,rfl⟩
    rw [same] at member
    exact member
  · refine told.mono (by rw [erased]; exact Table.unique_erase _ _ told.unique) fun e member => ⟨e,?_,rfl,rfl,rfl⟩
    rw [erased] at member
    exact (mem_forgotten member).1

/-- One event keeps what the paths tell when its creations are named right. -/
theorem Told.step {s : Tracker × Chains} (told : Told kinds s) (e : ObjectEvent) (names : NamesObjects kinds s e) :
    Told kinds (observeObject s e) := by
  cases e with
  | returned clock sessionId objectId commandId responseDecode array => exact told_returned told array names
  | untraced sessionId parentObjectId commandId objectId => exact told_untraced told names
  | convertCurrentObjectToDomain now sessionId objectId requestObjectId => exact told_convert told
  | dispatchClose now sessionId requestObjectId => exact told_dispatchClose told
  | sessionStart serviceName sessionId clientInfo => exact told_sessionStart told
  | sessionEnd sessionId => exact told_sessionEnd told

theorem formatObjectPath_eq {service : CString} (short : service.length ≤ 8) (objectId : ObjectId) :
    t.formatObjectPath 160 service sessionId objectId =
      servicePath service (t.getRelativeDomainPath maxDomainPathLength sessionId objectId) := by
  have bound : (t.getRelativeDomainPath maxDomainPathLength sessionId objectId).length ≤ 95 := by
    unfold Tracker.getRelativeDomainPath
    split
    · exact List.length_take_le _ _
    · split <;> exact List.length_take_le _ _
  rw [Tracker.formatObjectPath,snprintf,List.take_of_length_le]
  · rfl
  · rw [List.length_append,List.length_cons]
    omega

/-- Where the paths tell the chains, a known path belongs to an object of the kind. -/
theorem Told.objectsSound {s : Tracker × Chains} (told : Told kinds s) : ObjectsSound kinds s := by
  intro service traced sessionId objectId known
  obtain ⟨noDot,short⟩ := kinds.services_plain service traced
  rw [kinds.isKnownObjectPath_eq,formatObjectPath_eq short,Tracker.getRelativeDomainPath] at known
  by_cases isRoot : objectId.toNat = 0
  · exact ⟨[],by rw [Chains.of,if_pos isRoot],.inl rfl⟩
  · rw [if_neg isRoot] at known
    cases tracked : s.1.getTrackedDomainPath sessionId objectId.toNat with
    | none =>
      rw [tracked] at known
      have path : "obj".toList ++ decimal objectId.toNat = printedPath ("obj".toList ++ decimal objectId.toNat) [] := by
        rw [printedPath,List.flatMap_nil,List.append_nil]
      have empty : Bounded [] := fun _ member => absurd member List.not_mem_nil
      dsimp only at known
      rw [path] at known
      rcases segments_of_known noDot (isBase_obj objectId) empty known with ⟨isRootBase,_⟩ | ⟨_,some',_⟩ | ⟨_,_,some',_⟩
      · exact absurd (congrArg List.head? isRootBase) (by simp)
      · cases some'
      · cases some'
    | some e =>
      obtain ⟨base,segments,isBase,bounded,path,tells⟩ := told.of_tracked tracked
      rw [tracked] at known
      dsimp only at known
      rw [path,snprintf_snprintf] at known
      rcases segments_of_known noDot isBase bounded known with ⟨_,rfl⟩ | ⟨a,rfl,ofFirst⟩ | ⟨a,b,rfl,ofSecond⟩
      · exact ⟨[],tells.2,.inl rfl⟩
      · exact ⟨_,tells ofFirst,.inr (.inl ⟨_,ofFirst,rfl⟩)⟩
      · obtain ⟨c,ofFirst,chain⟩ := tells ofSecond
        exact ⟨_,chain,.inr (.inr ⟨c,ofFirst,_,ofSecond,rfl⟩)⟩

end Lookup

/-- In a run whose creations are all named right, a path that is known as one of a kind belongs to
an object of that kind in every state. -/
theorem knownObjects_sound {kinds : TracedObjects} {events : List ObjectEvent}
    (named : Guarded observeObject (NamesObjects kinds) (.reset,.none) events) :
    ∀ before after, events = before ++ after → ObjectsSound kinds (before.foldl observeObject (.reset,.none)) := by
  rintro before after rfl
  have told := Guarded.invariant (Told kinds) (fun s e told names => told.step e names) (Guarded.before named) Told.start
  exact told.objectsSound

def returnedOne (sessionId : SessionId) (objectId commandId child : UInt32) : ObjectEvent :=
  .returned (fun _ => 0) sessionId objectId commandId { ResponseDecodeDetails.empty with
    outObjectIdsValid := true
    outObjectIdCount := 1
    outObjectIds := child :: List.replicate 7 0 } rfl

/-- The root makes an `IGeneralService`, which makes an `IRequest`. -/
theorem knownObjects_sound_request :
    ObjectsSound .nifm ([returnedOne 1 0 5 2,returnedOne 1 2 4 3].foldl observeObject (.reset,.none)) :=
  knownObjects_sound (by decide) _ [] (List.append_nil _).symm

/-- An object that the root made with command 7 makes one with command 4. -/
theorem knownObjects_not_sound :
    ¬∀ (kinds : TracedObjects) (events : List ObjectEvent), ∀ before after, events = before ++ after →
      ObjectsSound kinds (before.foldl observeObject (.reset,.none)) := by
  intro sound
  obtain ⟨chain,created,ofKind⟩ := sound .nifm _ [returnedOne 1 0 7 2,returnedOne 1 2 4 3] [] rfl
    "nifm:u".toList (by decide) 1 3 (by decide)
  have really : ([returnedOne 1 0 7 2,returnedOne 1 2 4 3].foldl observeObject (.reset,.none)).2.of 1 3 = some [7,4] := by
    decide
  obtain rfl := Option.some.inj (really.symm.trans created)
  rcases ofKind with none | ⟨a,_,one⟩ | ⟨a,ofFirst,b,_,two⟩
  · cases none
  · cases one
  · obtain ⟨rfl,_⟩ := List.cons.inj two
    revert ofFirst
    decide

end NxReverse.Probe
