import NxReverse.Probe.ObjectKinds

/-! A printed path against the chain of commands that it was printed for. A path that fits its buffer
has a segment for each command, and the command id of the last one is parsed back. -/
namespace NxReverse.Probe

open Slots Text Runs

/-- No `.cmd` begins in a service name without that text or at the dot behind it. -/
theorem cmdSegmentsFrom_service {service : CString} (plain : ¬".cmd".toList <:+: service) (rest : CString) :
    cmdSegmentsFrom 0 (service ++ ".root".toList ++ rest) = cmdSegmentsFrom 0 rest := by
  induction service with
  | nil =>
    have noDot : '.' ∉ "root".toList := by decide
    have skipped : cmdSegmentsFrom 0 ('.' :: ("root".toList ++ rest)) = cmdSegmentsFrom 0 ("root".toList ++ rest) := by
      rw [cmdSegmentsFrom,if_neg (by simp [List.isPrefixOf])]
    exact skipped.trans (cmdSegmentsFrom_append noDot rest)
  | cons c service ih =>
    have later := ih fun inside => plain (inside.trans (List.suffix_cons c service).isInfix)
    have apart : ¬".cmd".toList.isPrefixOf (c :: (service ++ ".root".toList ++ rest)) = true := by
      intro found
      rcases service with _ | ⟨first,_ | ⟨second,_ | ⟨third,others⟩⟩⟩
      · simp [List.isPrefixOf] at found
      · simp [List.isPrefixOf] at found
      · simp [List.isPrefixOf] at found
      · simp [List.isPrefixOf] at found
        obtain ⟨rfl,rfl,rfl,rfl⟩ := found
        exact plain ⟨[],others,rfl⟩
    rw [List.cons_append,List.cons_append,cmdSegmentsFrom,if_neg apart,later]

/-- The last segment is the last that is found. -/
theorem getLast_segments (front : List (Nat × Nat)) (last : Nat × Nat) :
    (cmdSegmentsFrom 0 ((front ++ [last]).flatMap cmdSegment)).getLast? = some (segmentTail last) := by
  induction front with
  | nil =>
    rw [List.nil_append,List.flatMap_singleton,← List.append_nil (cmdSegment last),cmdSegmentsFrom_segment,
      List.append_nil]
    rfl
  | cons segment front ih =>
    have nonempty : cmdSegmentsFrom 0 ((front ++ [last]).flatMap cmdSegment) ≠ [] := fun none => by
      rw [none] at ih
      cases ih
    rw [List.cons_append,List.flatMap_cons,cmdSegmentsFrom_segment,List.getLast?_cons_of_ne_nil nonempty,ih]

theorem toInt_of_small {value : Nat} (small : value < 2 ^ 31) : toInt value = value := by
  rw [toInt,BitVec.toInt_eq_toNat_cond,BitVec.toNat_ofNat,Nat.mod_eq_of_lt (by omega),if_pos (by omega)]

/-- The command id of the last step, or that of none. -/
def lastCommand (chain : List (Nat × Nat)) : Int := (chain.getLast?.map fun segment => (segment.1 : Int)).getD (-1)

/-- A path that was printed whole is read back. -/
theorem printed_readBack {service : CString} (plain : ¬".cmd".toList <:+: service) {chain : List (Nat × Nat)}
    (ids : ∀ segment ∈ chain, segment.1 < 2 ^ 31) :
    countCmdSegments (servicePath service (printedPath "root".toList chain)) = chain.length ∧
      getLastCreatorCommandId (servicePath service (printedPath "root".toList chain)) = lastCommand chain := by
  have path : servicePath service (printedPath "root".toList chain) =
      service ++ ".root".toList ++ chain.flatMap cmdSegment := by
    simp [servicePath,printedPath]
  have found := cmdSegmentsFrom_service plain (chain.flatMap cmdSegment)
  rw [path]
  constructor
  · have counted := countCmdSegments_segments chain []
    rw [List.append_nil] at counted
    rw [countCmdSegments,found,counted]
    rfl
  · rcases List.eq_nil_or_concat chain with rfl | ⟨front,last,rfl⟩
    · rw [getLastCreatorCommandId,found]
      rfl
    · rw [List.concat_eq_append] at ids found ⊢
      have small := ids last (List.mem_append_right front (List.mem_singleton_self last))
      have ends := found.symm ▸ getLast_segments front last
      rw [lastCreator_segment (Nat.lt_trans small (by decide)) ends,toInt_of_small small,lastCommand,
        List.getLast?_append_of_ne_nil _ (List.cons_ne_nil _ _)]
      rfl

/-- The objects that an event of the trace gives a path. -/
def Tracker.objectCreations (t : Tracker) : ObjectEvent → List Creation
  | .returned clock sessionId objectId commandId responseDecode _ =>
    t.creations (.returned clock sessionId objectId.toNat commandId.toNat responseDecode)
  | .convertCurrentObjectToDomain now sessionId objectId requestObjectId =>
    t.creations (.convertCurrentObjectToDomain now sessionId objectId.toNat requestObjectId.toNat)
  | _ => []

def returnedIds (responseDecode : ResponseDecodeDetails) : List UInt32 :=
  responseDecode.outObjectIds.take responseDecode.outObjectIdCount

def LastAt (items : List UInt32) (index : Nat) (item : UInt32) : Prop :=
  items[index]? = some item ∧ ∀ later > index, items[later]? ≠ some item

/-- The object is the root of the session, or the tracker has an entry for it. -/
def Tracker.Knows (t : Tracker) (sessionId : SessionId) (objectId : UInt32) : Prop :=
  objectId ≠ 0 → (t.getTrackedDomainPath sessionId objectId.toNat).isSome = true

/-- The tracker knows the object, which came from a root of the session by the commands of the chain,
each with the place of what it created in its response. -/
inductive CreatedFrom (sessionId : SessionId) : Tracker → UInt32 → List (Nat × Nat) → Prop
  | root {t : Tracker} (unique : t.domainPaths.Unique DomainPathEntry.key) : CreatedFrom sessionId t 0 []
  | converted {t : Tracker} (unique : t.domainPaths.Unique DomainPathEntry.key) (now : Nat)
      (objectId requestObjectId : UInt32) :
      CreatedFrom sessionId (t.onObjectEvent (.convertCurrentObjectToDomain now sessionId objectId requestObjectId))
        objectId []
  | created {t : Tracker} {objectId : UInt32} {chain : List (Nat × Nat)}
      (parent : CreatedFrom sessionId t objectId chain) (clock : Nat → Nat) (commandId : UInt32)
      {responseDecode : ResponseDecodeDetails} (array : responseDecode.outObjectIds.length = 8)
      (valid : responseDecode.outObjectIdsValid = true) {index : Nat} {child : UInt32}
      (place : LastAt (returnedIds responseDecode) index child)
      (known : (t.onObjectEvent (.returned clock sessionId objectId commandId responseDecode array)).Knows sessionId child)
      (isObject : child ≠ 0) :
      CreatedFrom sessionId (t.onObjectEvent (.returned clock sessionId objectId commandId responseDecode array)) child
        (chain ++ [(commandId.toNat,index)])
  | later {t : Tracker} {objectId : UInt32} {chain : List (Nat × Nat)}
      (before : CreatedFrom sessionId t objectId chain) (event : ObjectEvent)
      (others : ∀ c ∈ t.objectCreations event, c.key ≠ (sessionId,objectId.toNat))
      (known : (t.onObjectEvent event).Knows sessionId objectId) :
      CreatedFrom sessionId (t.onObjectEvent event) objectId chain

section Paths

variable {t : Tracker} {sessionId : SessionId}

theorem unique_foldl_create (unique : t.domainPaths.Unique DomainPathEntry.key) (created : List Creation) :
    (created.foldl Tracker.create t).domainPaths.Unique DomainPathEntry.key := by
  induction created generalizing t with
  | nil => exact unique
  | cons c created ih => exact ih (unique_create unique c)

/-- Creations leave nothing of other objects but what was there. -/
theorem old_of_creates (unique : t.domainPaths.Unique DomainPathEntry.key) {created : List Creation} {e : DomainPathEntry}
    (member : e ∈ (created.foldl Tracker.create t).domainPaths.entries) (others : ∀ c ∈ created, c.key ≠ e.key) :
    e ∈ t.domainPaths.entries := by
  induction created generalizing t with
  | nil => exact member
  | cons c created ih =>
    obtain ⟨other,later⟩ := List.forall_mem_cons.mp others
    rcases created_or_old unique c (ih (unique_create unique c) member later) with ⟨own,_⟩ | ⟨old,_⟩
    · exact absurd own.symm other
    · exact old

/-- The entry of an object has the path of its last creation. -/
theorem path_of_creates (unique : t.domainPaths.Unique DomainPathEntry.key) {before after : List Creation} {c : Creation}
    {e : DomainPathEntry} (member : e ∈ ((before ++ c :: after).foldl Tracker.create t).domainPaths.entries)
    (own : e.key = c.key) (others : ∀ other ∈ after, other.key ≠ c.key) :
    e.relativePath = snprintf maxDomainPathLength c.relativePath := by
  rw [List.foldl_append,List.foldl_cons] at member
  have first := unique_foldl_create unique before
  have there := old_of_creates (unique_create first c) member fun other inAfter => own ▸ others other inAfter
  rcases created_or_old first c there with ⟨_,path⟩ | ⟨_,other⟩
  · exact path
  · exact absurd own other

theorem unique_onObjectEvent (unique : t.domainPaths.Unique DomainPathEntry.key) (event : ObjectEvent) :
    (t.onObjectEvent event).domainPaths.Unique DomainPathEntry.key := by
  cases event with
  | returned clock sessionId objectId commandId responseDecode array =>
    rw [Tracker.onObjectEvent,onDomainEvent_creates]
    exact unique_foldl_create unique _
  | untraced sessionId parentObjectId commandId objectId => exact unique
  | convertCurrentObjectToDomain now sessionId objectId requestObjectId =>
    rw [Tracker.onObjectEvent,onDomainEvent_convert]
    exact unique_foldl_create unique _
  | dispatchClose now sessionId requestObjectId =>
    rw [Tracker.onObjectEvent,Tracker.onDomainEvent,Tracker.markDomainPathCloseObserved]
    split
    · exact unique
    · exact Table.unique_update unique fun _ _ => rfl
  | sessionStart serviceName sessionId clientInfo =>
    rw [Tracker.onObjectEvent]
    rcases @rememberSession_domainPaths t sessionId serviceName clientInfo with same | ⟨evicted,erased⟩
    · rw [same]
      exact unique
    · rw [erased]
      exact Table.unique_erase _ _ unique
  | sessionEnd sessionId => exact Table.unique_erase _ _ unique

/-- An event keeps the paths of the objects that it does not create. -/
theorem path_kept (unique : t.domainPaths.Unique DomainPathEntry.key) (event : ObjectEvent) {e : DomainPathEntry}
    (member : e ∈ (t.onObjectEvent event).domainPaths.entries) (others : ∀ c ∈ t.objectCreations event, c.key ≠ e.key) :
    ∃ old ∈ t.domainPaths.entries, old.key = e.key ∧ old.relativePath = e.relativePath := by
  cases event with
  | returned clock sessionId objectId commandId responseDecode array =>
    rw [Tracker.onObjectEvent,onDomainEvent_creates] at member
    exact ⟨e,old_of_creates unique member others,rfl,rfl⟩
  | untraced sessionId parentObjectId commandId objectId => exact ⟨e,member,rfl,rfl⟩
  | convertCurrentObjectToDomain now sessionId objectId requestObjectId =>
    rw [Tracker.onObjectEvent,onDomainEvent_convert] at member
    exact ⟨e,old_of_creates unique member others,rfl,rfl⟩
  | dispatchClose now sessionId requestObjectId =>
    rw [Tracker.onObjectEvent,Tracker.onDomainEvent,Tracker.markDomainPathCloseObserved] at member
    split at member
    · exact ⟨e,member,rfl,rfl⟩
    · change e ∈ (t.domainPaths.update _ _).entries at member
      rw [Table.entries_update_key unique] at member
      obtain ⟨old,oldMember,rfl⟩ := List.mem_map.mp member
      exact ⟨old,oldMember,by split <;> rfl,by split <;> rfl⟩
  | sessionStart serviceName sessionId clientInfo =>
    rw [Tracker.onObjectEvent] at member
    rcases @rememberSession_domainPaths t sessionId serviceName clientInfo with same | ⟨evicted,erased⟩
    · rw [same] at member
      exact ⟨e,member,rfl,rfl⟩
    · rw [erased] at member
      exact ⟨e,(mem_forgotten member).1,rfl,rfl⟩
  | sessionEnd sessionId => exact ⟨e,(mem_forgotten member).1,rfl,rfl⟩

theorem split_of_lastAt {items : List UInt32} {index : Nat} {item : UInt32} (place : LastAt items index item) :
    ∃ back, items = items.take index ++ item :: back ∧ (items.take index).length = index ∧ item ∉ back := by
  obtain ⟨inside,here⟩ := List.getElem?_eq_some_iff.mp place.1
  refine ⟨items.drop (index + 1),?_,List.length_take_of_le (Nat.le_of_lt inside),?_⟩
  · rw [← here,List.cons_getElem_drop_succ,List.take_append_drop]
  · intro member
    obtain ⟨offset,there⟩ := List.mem_iff_getElem?.mp member
    rw [List.getElem?_drop] at there
    exact place.2 _ (by omega) there

/-- What a response returns last at `index` comes into being there, and nothing later has its id. -/
theorem creations_returned {clock : Nat → Nat} {objectId commandId : UInt32} {responseDecode : ResponseDecodeDetails}
    (valid : responseDecode.outObjectIdsValid = true) {index : Nat} {child : UInt32}
    (place : LastAt (returnedIds responseDecode) index child) (isObject : child ≠ 0) :
    ∃ before c after, t.creations (.returned clock sessionId objectId.toNat commandId.toNat responseDecode) =
        before ++ c :: after ∧ c.key = (sessionId,child.toNat) ∧
      c.relativePath = returnedObjectPath (t.getRelativeDomainPath maxDomainPathLength sessionId objectId.toNat)
        commandId.toNat index ∧ ∀ other ∈ after, other.key ≠ c.key := by
  obtain ⟨back,items,front,absent⟩ := split_of_lastAt place
  have counted : responseDecode.outObjectIdCount ≠ 0 := fun none => by
    rw [returnedIds,none,List.take_zero,List.take_nil] at items
    cases items
  have isNumber : child.toNat ≠ 0 := fun zero => isObject (UInt32.toNat_inj.mp zero)
  unfold Tracker.creations
  dsimp only
  rw [if_neg (by rw [valid]; exact not_or.mpr ⟨nofun,counted⟩),← returnedIds,items,List.zipIdx_append,front,Nat.zero_add,
    List.zipIdx_cons,List.filterMap_append,List.filterMap_cons_some (dif_neg isNumber)]
  refine ⟨_,_,_,rfl,rfl,rfl,fun other inBack same => ?_⟩
  obtain ⟨later,inList,made⟩ := List.mem_filterMap.mp inBack
  split at made
  · cases made
  · obtain rfl := Option.some.inj made
    have again : later.1 = child := UInt32.toNat_inj.mp (congrArg Prod.snd same)
    exact absent (again ▸ List.fst_mem_of_mem_zipIdx inList)

/-- The path of an object that a response returned last at `index`. -/
theorem path_of_returned (unique : t.domainPaths.Unique DomainPathEntry.key) {clock : Nat → Nat}
    {objectId commandId : UInt32} {responseDecode : ResponseDecodeDetails} {array : responseDecode.outObjectIds.length = 8}
    (valid : responseDecode.outObjectIdsValid = true) {index : Nat} {child : UInt32}
    (place : LastAt (returnedIds responseDecode) index child) (isObject : child ≠ 0) {e : DomainPathEntry}
    (member : e ∈ (t.onObjectEvent (.returned clock sessionId objectId commandId responseDecode array)).domainPaths.entries)
    (keyed : e.key = (sessionId,child.toNat)) :
    e.relativePath = snprintf maxDomainPathLength (returnedObjectPath
      (t.getRelativeDomainPath maxDomainPathLength sessionId objectId.toNat) commandId.toNat index) := by
  obtain ⟨before,c,after,created,key,path,others⟩ := @creations_returned t sessionId clock objectId commandId
    responseDecode valid index child place isObject
  rw [Tracker.onObjectEvent,onDomainEvent_creates,created] at member
  rw [← path]
  exact path_of_creates unique member (keyed.trans key.symm) others

theorem created_tracked (unique : t.domainPaths.Unique DomainPathEntry.key) (c : Creation) :
    c.key ∈ (t.create c).domainPaths.entries.map DomainPathEntry.key := by
  rw [create_domainPaths]
  cases known : t.domainPaths.find? (fun e => e.key == c.key) with
  | some found =>
    obtain ⟨member,same⟩ := (Table.find?_key_iff unique c.key found).mp known
    have keys := Table.keys_update t.domainPaths fun e (_ : (e.key == c.key) = true) => c.key_renew e
    rw [Table.upsert_known unique member same]
    dsimp only
    rw [keys]
    exact List.mem_map.mpr ⟨found,member,same⟩
  | none =>
    rw [Table.upsert_fresh (Table.find?_eq_none_iff.mp known)]
    exact List.mem_map.mpr ⟨c.entry,Table.mem_place_self (by decide) c.entry,rfl⟩

theorem knows_of_tracked {objectId : UInt32}
    (tracked : (sessionId,objectId.toNat) ∈ t.domainPaths.entries.map DomainPathEntry.key) :
    t.Knows sessionId objectId := by
  intro _
  obtain ⟨e,member,keyed⟩ := List.mem_map.mp tracked
  by_contra missed
  have absent := Table.find?_eq_none_iff.mp (Option.not_isSome_iff_eq_none.mp missed) e member
  simp [keyed] at absent

/-- The path that is looked up for an object whose entry was printed from `text`. -/
theorem relative_of_known (unique : t.domainPaths.Unique DomainPathEntry.key) {objectId : UInt32} {text : CString}
    (isObject : objectId ≠ 0) (known : t.Knows sessionId objectId)
    (path : ∀ e ∈ t.domainPaths.entries, e.key = (sessionId,objectId.toNat) →
      e.relativePath = snprintf maxDomainPathLength text) :
    t.getRelativeDomainPath maxDomainPathLength sessionId objectId.toNat = snprintf maxDomainPathLength text := by
  have isNumber : objectId.toNat ≠ 0 := fun zero => isObject (UInt32.toNat_inj.mp zero)
  obtain ⟨e,tracked⟩ := Option.isSome_iff_exists.mp (known isObject)
  obtain ⟨member,keyed⟩ := (Table.find?_key_iff unique (sessionId,objectId.toNat) e).mp tracked
  rw [Tracker.getRelativeDomainPath,if_neg isNumber,tracked]
  dsimp only
  rw [path e member keyed,snprintf_snprintf]

theorem relative_root : t.getRelativeDomainPath maxDomainPathLength sessionId 0 =
    snprintf maxDomainPathLength (printedPath "root".toList []) := rfl

/-- An object keeps its path while others come and go. -/
theorem relative_kept (unique : t.domainPaths.Unique DomainPathEntry.key) {objectId : UInt32} (event : ObjectEvent)
    (others : ∀ c ∈ t.objectCreations event, c.key ≠ (sessionId,objectId.toNat))
    (known : (t.onObjectEvent event).Knows sessionId objectId) :
    (t.onObjectEvent event).getRelativeDomainPath maxDomainPathLength sessionId objectId.toNat =
      t.getRelativeDomainPath maxDomainPathLength sessionId objectId.toNat := by
  by_cases isRoot : objectId = 0
  · rw [isRoot]
    exact relative_root.trans relative_root.symm
  · have isNumber : objectId.toNat ≠ 0 := fun zero => isRoot (UInt32.toNat_inj.mp zero)
    obtain ⟨e,tracked⟩ := Option.isSome_iff_exists.mp (known isRoot)
    obtain ⟨member,keyed⟩ := (Table.find?_key_iff (unique_onObjectEvent unique event) (sessionId,objectId.toNat) e).mp tracked
    obtain ⟨old,oldMember,same,path⟩ := path_kept unique event member fun c creates => keyed ▸ others c creates
    have before : t.getTrackedDomainPath sessionId objectId.toNat = some old :=
      (Table.find?_key_iff unique (sessionId,objectId.toNat) old).mpr ⟨oldMember,same.trans keyed⟩
    rw [Tracker.getRelativeDomainPath,Tracker.getRelativeDomainPath,if_neg isNumber,if_neg isNumber,tracked,before]
    dsimp only
    rw [path]

/-- The path of an object that came from a root is printed from its chain. -/
theorem CreatedFrom.printed {objectId : UInt32} {chain : List (Nat × Nat)} (made : CreatedFrom sessionId t objectId chain) :
    t.domainPaths.Unique DomainPathEntry.key ∧
      t.getRelativeDomainPath maxDomainPathLength sessionId objectId.toNat =
        snprintf maxDomainPathLength (printedPath "root".toList chain) := by
  induction made with
  | root unique => exact ⟨unique,relative_root⟩
  | @converted t unique now objectId requestObjectId =>
    refine ⟨unique_onObjectEvent unique _,?_⟩
    by_cases isRoot : objectId = 0
    · rw [isRoot]
      exact relative_root
    · have isNumber : objectId.toNat ≠ 0 := fun zero => isRoot (UInt32.toNat_inj.mp zero)
      let c : Creation := ⟨now,sessionId,objectId.toNat,"root".toList,requestObjectId.toNat,0,isNumber,by simp⟩
      have creates : t.creations (.convertCurrentObjectToDomain now sessionId objectId.toNat requestObjectId.toNat) = [c] :=
        dif_neg isNumber
      have event : t.onObjectEvent (.convertCurrentObjectToDomain now sessionId objectId requestObjectId) = t.create c := by
        rw [Tracker.onObjectEvent,onDomainEvent_convert,creates,List.foldl_cons,List.foldl_nil]
      rw [event]
      apply relative_of_known (unique_create unique c) isRoot (knows_of_tracked (created_tracked unique c))
      intro e member keyed
      rw [@path_of_creates t unique [] [] c e member keyed (List.forall_mem_nil _)]
      rfl
  | created parent clock commandId array valid place known isObject ih =>
    obtain ⟨unique,path⟩ := ih
    refine ⟨unique_onObjectEvent unique _,?_⟩
    apply relative_of_known (unique_onObjectEvent unique _) isObject known
    intro e member keyed
    rw [path_of_returned unique valid place isObject member keyed,path,returnedObjectPath_printed]
  | later before event others known ih =>
    obtain ⟨unique,path⟩ := ih
    exact ⟨unique_onObjectEvent unique event,(relative_kept unique event others known).trans path⟩

end Paths

/-- A command of a chain: a response, and the place of the object that gets the next command. -/
structure CreatingCommand where
  clock : Nat → Nat
  commandId : UInt32
  responseDecode : ResponseDecodeDetails
  array : responseDecode.outObjectIds.length = 8
  valid : responseDecode.outObjectIdsValid = true
  index : Nat
  child : UInt32
  place : LastAt (returnedIds responseDecode) index child
  isObject : child ≠ 0

namespace CreatingCommand

def event (c : CreatingCommand) (sessionId : SessionId) (objectId : UInt32) : ObjectEvent :=
  .returned c.clock sessionId objectId c.commandId c.responseDecode c.array

def segment (c : CreatingCommand) : Nat × Nat := (c.commandId.toNat,c.index)

/-- The commands of a chain one after the other, from an object on. -/
def run (sessionId : SessionId) : List CreatingCommand → Tracker → UInt32 → Tracker × UInt32
  | [],t,objectId => (t,objectId)
  | c :: rest,t,objectId => run sessionId rest (t.onObjectEvent (c.event sessionId objectId)) c.child

end CreatingCommand

section Room

variable {t : Tracker} {sessionId : SessionId}

theorem keys_create_room (room : t.domainPaths.entries.length < maxTrackedDomainPaths) (c : Creation) :
    (t.create c).domainPaths.entries.length ≤ t.domainPaths.entries.length + 1 ∧
      ∀ k, k ∈ c.key :: t.domainPaths.entries.map DomainPathEntry.key →
        k ∈ (t.create c).domainPaths.entries.map DomainPathEntry.key := by
  rw [create_domainPaths]
  rcases Table.keys_upsert_room room c.key_renew c.entry with ⟨member,same⟩ | added
  · have length := congrArg List.length same
    rw [List.length_map,List.length_map] at length
    refine ⟨by rw [← c.key_entry,length]; omega,fun k there => ?_⟩
    rw [← c.key_entry,same]
    rcases List.mem_cons.mp there with rfl | before
    · exact member
    · exact before
  · have length := added.length_eq
    rw [List.length_map,List.length_cons,List.length_map] at length
    exact ⟨by rw [← c.key_entry,length],fun k there => added.mem_iff.mpr there⟩

/-- With room for all of them, creations add their objects and lose none. -/
theorem keys_creations_room {created : List Creation}
    (room : t.domainPaths.entries.length + created.length ≤ maxTrackedDomainPaths) :
    (created.foldl Tracker.create t).domainPaths.entries.length ≤ t.domainPaths.entries.length + created.length ∧
      ∀ k, k ∈ created.map Creation.key ++ t.domainPaths.entries.map DomainPathEntry.key →
        k ∈ (created.foldl Tracker.create t).domainPaths.entries.map DomainPathEntry.key := by
  induction created generalizing t with
  | nil => exact ⟨Nat.le_refl _,fun _ there => there⟩
  | cons c created ih =>
    rw [List.length_cons] at room
    obtain ⟨length,keys⟩ := @keys_create_room t (by omega) c
    obtain ⟨lengths,others⟩ := @ih (t.create c) (by omega)
    rw [List.foldl_cons,List.length_cons]
    refine ⟨by omega,fun k there => others k ?_⟩
    rw [List.map_cons,List.cons_append,List.mem_cons,List.mem_append] at there
    rw [List.mem_append]
    rcases there with rfl | inCreated | before
    · exact Or.inr (keys _ List.mem_cons_self)
    · exact Or.inl inCreated
    · exact Or.inr (keys _ (List.mem_cons_of_mem _ before))

/-- Where a response has room, the tracker knows what it returned. -/
theorem CreatingCommand.known (c : CreatingCommand) (objectId : UInt32)
    (room : t.domainPaths.entries.length + 8 ≤ maxTrackedDomainPaths) :
    (t.onObjectEvent (c.event sessionId objectId)).Knows sessionId c.child ∧
      (t.onObjectEvent (c.event sessionId objectId)).domainPaths.entries.length ≤ t.domainPaths.entries.length + 8 := by
  obtain ⟨before,own,after,split,key,_,_⟩ := @creations_returned t sessionId c.clock objectId c.commandId
    c.responseDecode c.valid c.index c.child c.place c.isObject
  have creations : ∃ created : List Creation, created.length ≤ 8 ∧ (sessionId,c.child.toNat) ∈ created.map Creation.key ∧
      t.onObjectEvent (c.event sessionId objectId) = created.foldl Tracker.create t := by
    refine ⟨t.creations (.returned c.clock sessionId objectId.toNat c.commandId.toNat c.responseDecode),?_,?_,?_⟩
    · unfold Tracker.creations
      dsimp only
      split
      · exact Nat.zero_le 8
      · refine (List.length_filterMap_le _ _).trans ?_
        rw [List.length_zipIdx,List.length_take,c.array]
        omega
    · rw [split]
      exact List.mem_map.mpr ⟨own,List.mem_append_right _ List.mem_cons_self,key⟩
    · rw [CreatingCommand.event,Tracker.onObjectEvent,onDomainEvent_creates]
  obtain ⟨created,few,own,same⟩ := creations
  obtain ⟨length,keys⟩ := @keys_creations_room t created (by omega)
  rw [same]
  exact ⟨knows_of_tracked (keys _ (List.mem_append_left _ own)),by omega⟩

/-- A chain of commands is known to a tracker with room for their responses. -/
theorem CreatingCommand.run_createdFrom (commands : List CreatingCommand) {objectId : UInt32} {chain : List (Nat × Nat)}
    (made : CreatedFrom sessionId t objectId chain)
    (room : t.domainPaths.entries.length + 8 * commands.length ≤ maxTrackedDomainPaths) :
    CreatedFrom sessionId (run sessionId commands t objectId).1 (run sessionId commands t objectId).2
      (chain ++ commands.map segment) := by
  induction commands generalizing t objectId chain with
  | nil =>
    rw [List.map_nil,List.append_nil]
    exact made
  | cons c commands ih =>
    rw [List.length_cons] at room
    obtain ⟨known,length⟩ := @CreatingCommand.known t sessionId c objectId (by omega)
    have next := CreatedFrom.created made c.clock c.commandId c.array c.valid c.place known c.isObject
    have later := ih next (by rw [← CreatingCommand.event]; omega)
    rw [List.append_assoc] at later
    exact later

end Room

/-- What the parser finds in the path of an object is what the chain says. -/
def ReadsBack (t : Tracker) (sessionId : SessionId) (objectId : UInt32) (chain : List (Nat × Nat)) : Prop :=
  ∀ service : CString, service.length ≤ 8 → ¬".cmd".toList <:+: service →
    countCmdSegments (t.formatObjectPath 160 service sessionId objectId.toNat) = chain.length ∧
      getLastCreatorCommandId (t.formatObjectPath 160 service sessionId objectId.toNat) = lastCommand chain

/-- The printed path fits its buffer, and its command ids fit an `int`. -/
structure Printable (chain : List (Nat × Nat)) : Prop where
  fits : (printedPath "root".toList chain).length < maxDomainPathLength
  ids : ∀ segment ∈ chain, segment.1 < 2 ^ 31

theorem CreatedFrom.readsBack {t : Tracker} {sessionId : SessionId} {objectId : UInt32} {chain : List (Nat × Nat)}
    (made : CreatedFrom sessionId t objectId chain) (printable : Printable chain) :
    ReadsBack t sessionId objectId chain := by
  intro service short plain
  have whole : snprintf maxDomainPathLength (printedPath "root".toList chain) = printedPath "root".toList chain :=
    List.take_of_length_le (Nat.le_sub_one_of_lt printable.fits)
  rw [formatObjectPath_eq short,made.printed.2,whole]
  exact printed_readBack plain printable.ids

theorem length_cmdSegment_ge (segment : Nat × Nat) : 8 ≤ (cmdSegment segment).length := by
  have first := List.length_pos_iff.mpr (decimal_ne_nil segment.1)
  have second := List.length_pos_iff.mpr (decimal_ne_nil segment.2)
  simp only [cmdSegment_eq,segmentTail,List.length_cons,List.length_append,List.length_nil]
  omega

/-- A chain whose path fits the buffer has at most eleven commands. -/
theorem Printable.length_le {chain : List (Nat × Nat)} (printable : Printable chain) : chain.length ≤ 11 := by
  have each : ∀ chain : List (Nat × Nat), 8 * chain.length ≤ (chain.flatMap cmdSegment).length := by
    intro chain
    induction chain with
    | nil => exact Nat.le_refl 0
    | cons segment chain ih =>
      have one := length_cmdSegment_ge segment
      rw [List.flatMap_cons,List.length_append,List.length_cons]
      omega
  have segments := each chain
  have fits := printable.fits
  have root : "root".toList.length = 4 := by decide
  rw [printedPath,List.length_append,root,maxDomainPathLength] at fits
  omega

/-- The path of an object that came from a root by a chain of commands reads back as the chain, in
whatever state the tracker knows the object; and it knows what a chain of commands creates where at
most 168 objects are tracked before. -/
theorem objectPaths_readBack (sessionId : SessionId) :
    (∀ (t : Tracker) (objectId : UInt32) (chain : List (Nat × Nat)), CreatedFrom sessionId t objectId chain →
      Printable chain → ReadsBack t sessionId objectId chain) ∧
    ∀ (t : Tracker) (commands : List CreatingCommand), t.domainPaths.Unique DomainPathEntry.key →
      t.domainPaths.entries.length ≤ 168 → Printable (commands.map CreatingCommand.segment) →
      ReadsBack (CreatingCommand.run sessionId commands t 0).1 sessionId (CreatingCommand.run sessionId commands t 0).2
        (commands.map CreatingCommand.segment) := by
  constructor
  · exact fun t objectId chain made printable => made.readsBack printable
  · intro t commands unique few printable
    have short := printable.length_le
    rw [List.length_map] at short
    have room : t.domainPaths.entries.length + 8 * commands.length ≤ maxTrackedDomainPaths :=
      (by omega : t.domainPaths.entries.length + 8 * commands.length ≤ 256)
    have made := CreatingCommand.run_createdFrom commands (@CreatedFrom.root sessionId t unique) room
    exact made.readsBack printable

end NxReverse.Probe
