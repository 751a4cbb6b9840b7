import NxReverse.Lib.SlotMaps
import NxReverse.Probe.FinalClose
import NxReverse.Probe.TableKeys

/-! The tracker as four maps without time stamps. Where no table is full and a close finds no two clones
to choose from, the slots follow the maps, and neither the order of the slots nor the clock can be seen. -/
namespace NxReverse.Probe

open Slots Text Runs

def SessionHandleEntry.untimed (e : SessionHandleEntry) : SessionHandleEntry :=
  { e with createdTsNs := 0, closeSeenTsNs := 0 }

def CloneHandleEntry.untimed (e : CloneHandleEntry) : CloneHandleEntry :=
  { e with createdTsNs := 0, closeSeenTsNs := 0 }

def DomainPathEntry.untimed (e : DomainPathEntry) : DomainPathEntry :=
  { e with createdTsNs := 0, closeSeenTsNs := 0 }

@[ext] structure TrackerView where
  sessions : SessionId → Option SessionEntry
  sessionHandles : SessionId × NativeHandle → Option SessionHandleEntry
  cloneHandles : SessionId × NativeHandle → Option CloneHandleEntry
  domainPaths : SessionId × ObjectId → Option DomainPathEntry

/-- A call that reaches the tables from outside, one constructor for each of their writers. -/
inductive TrackerEvent where
  /-- `LogSessionConnected`. -/
  | sessionConnected (serviceName : CString) (sessionId : SessionId) (clientInfo : MitmProcessInfo)
  /-- `LogSessionTrace`. -/
  | sessionTrace (ctx : SessionTraceContext)
  /-- The tail of `LogDispatchTrace` for the end of a clone request that moved a handle to the client. -/
  | managerRequestEnd (sessionId : SessionId) (moveHandle : NativeHandle) (commandId : Nat)
  | rememberDomainPath (sessionId : SessionId) (objectId : ObjectId) (relativePath : CString)
      (parentObjectId : ObjectId) (creatorCommandId : Nat)
  | markDomainPathCloseObserved (sessionId : SessionId) (objectId : ObjectId)
  deriving DecidableEq

abbrev TimedEvent := Nat × TrackerEvent

namespace Tracker

def process (t : Tracker) (e : TimedEvent) : Tracker :=
  match e.2 with
  | .sessionConnected serviceName sessionId clientInfo => (t.rememberSession serviceName sessionId clientInfo).1
  | .sessionTrace ctx => (logSessionTrace e.1 ctx t).1
  | .managerRequestEnd sessionId moveHandle commandId =>
    (t.rememberCloneHandle e.1 sessionId moveHandle commandId).1
  | .rememberDomainPath sessionId objectId relativePath parentObjectId creatorCommandId =>
    t.rememberDomainPath e.1 sessionId objectId relativePath parentObjectId creatorCommandId
  | .markDomainPathCloseObserved sessionId objectId => (t.markDomainPathCloseObserved e.1 sessionId objectId).1

/-- Every table has a free slot. -/
def HasRoom (t : Tracker) : Prop :=
  t.sessions.hasFree = true ∧ t.sessionHandles.hasFree = true ∧ t.cloneHandles.hasFree = true ∧
    t.domainPaths.hasFree = true

instance (t : Tracker) : Decidable t.HasRoom := by unfold HasRoom; infer_instance

/-- A close names at most one open clone of its session, as open clones have server handles of their own. -/
def ClosesOne (t : Tracker) : TrackerEvent → Prop
  | .sessionTrace ctx => ctx.eventType = .close → ∀ a ∈ t.cloneHandles.entries, ∀ b ∈ t.cloneHandles.entries,
      a.sessionId = ctx.sessionId → a.serverHandle = ctx.sessionHandle → a.closeObserved = false →
      b.sessionId = ctx.sessionId → b.serverHandle = ctx.sessionHandle → b.closeObserved = false → a.key = b.key
  | _ => True

instance (t : Tracker) (e : TrackerEvent) : Decidable (t.ClosesOne e) := by
  cases e <;> unfold ClosesOne <;> infer_instance

/-- The event meets tables with room and no ambiguous close. -/
def Admits (t : Tracker) (e : TimedEvent) : Prop := t.HasRoom ∧ t.ClosesOne e.2

instance (t : Tracker) (e : TimedEvent) : Decidable (t.Admits e) := by unfold Admits; infer_instance

def view (t : Tracker) : TrackerView where
  sessions := t.sessions.lookup SessionEntry.sessionId
  sessionHandles k := (t.sessionHandles.lookup SessionHandleEntry.key k).map SessionHandleEntry.untimed
  cloneHandles k := (t.cloneHandles.lookup CloneHandleEntry.key k).map CloneHandleEntry.untimed
  domainPaths k := (t.domainPaths.lookup DomainPathEntry.key k).map DomainPathEntry.untimed

end Tracker

namespace TrackerView

def rememberSession (v : TrackerView) (serviceName : CString) (sessionId : SessionId)
    (clientInfo : MitmProcessInfo) : TrackerView :=
  { v with sessions := Function.update v.sessions sessionId (some ⟨serviceName,clientInfo,sessionId⟩) }

def forgetSession (v : TrackerView) (sessionId : SessionId) : TrackerView where
  sessions := Function.update v.sessions sessionId none
  sessionHandles k := if k.1 = sessionId then none else v.sessionHandles k
  cloneHandles k := if k.1 = sessionId then none else v.cloneHandles k
  domainPaths k := if k.1 = sessionId then none else v.domainPaths k

def rememberSessionHandle (v : TrackerView) (ctx : SessionTraceContext) (isClone : Bool) : TrackerView :=
  { v with sessionHandles := Function.update v.sessionHandles ctx.key (some
      ⟨ctx.sessionId,ctx.sessionHandle,ctx.peerHandle,ctx.forwardHandle,ctx.hasForwardHandle,isClone,0,0,false⟩) }

/-- A known clone is open again and keeps what its registration said. -/
def rememberCloneHandle (v : TrackerView) (sessionId : SessionId) (handle : NativeHandle)
    (managerCommandId : Nat) : TrackerView :=
  { v with cloneHandles := Function.update v.cloneHandles (sessionId,handle) (some
      ((v.cloneHandles (sessionId,handle)).elim ⟨sessionId,handle,-1,-1,false,false,managerCommandId,0,0,false⟩
        fun e => { e with managerCommandId := managerCommandId, closeObserved := false })) }

/-- A registration replaces all but the manager command. -/
def noteCloneRegistered (v : TrackerView) (ctx : SessionTraceContext) : TrackerView :=
  { v with cloneHandles := Function.update v.cloneHandles (ctx.sessionId,ctx.peerHandle) (some
      ⟨ctx.sessionId,ctx.peerHandle,ctx.sessionHandle,ctx.forwardHandle,ctx.hasForwardHandle,true,
        (v.cloneHandles (ctx.sessionId,ctx.peerHandle)).elim 0 CloneHandleEntry.managerCommandId,0,0,false⟩) }

/-- The two marks of a close. -/
def markClose (v : TrackerView) (ctx : SessionTraceContext) : TrackerView :=
  { v with
    sessionHandles := Function.update v.sessionHandles ctx.key
      ((v.sessionHandles ctx.key).map fun e => { e with closeObserved := true })
    cloneHandles := fun k => (v.cloneHandles k).map fun e =>
      if k.1 = ctx.sessionId ∧ e.serverHandle = ctx.sessionHandle then { e with closeObserved := true } else e }

/-- Another handle of the session is open than the one that is closed. -/
def Survives (v : TrackerView) (ctx : SessionTraceContext) : Prop :=
  ∃ k e, v.sessionHandles k = some e ∧ k ≠ ctx.key ∧ k.1 = ctx.sessionId ∧ e.closeObserved = false

open Classical in
noncomputable def logClose (v : TrackerView) (ctx : SessionTraceContext) : TrackerView :=
  if v.Survives ctx then v.markClose ctx else (v.markClose ctx).forgetSession ctx.sessionId

noncomputable def logSessionTrace (v : TrackerView) (ctx : SessionTraceContext) : TrackerView :=
  match ctx.eventType with
  | .accepted => v.rememberSessionHandle ctx false
  | .cloneRegistered => (v.rememberSessionHandle ctx true).noteCloneRegistered ctx
  | .close => v.logClose ctx
  | _ => v

def rememberDomainPath (v : TrackerView) (sessionId : SessionId) (objectId : ObjectId) (relativePath : CString)
    (parentObjectId : ObjectId) (creatorCommandId : Nat) : TrackerView :=
  if objectId = 0 ∨ relativePath = [] then v
  else
    { v with domainPaths := Function.update v.domainPaths (sessionId,objectId) (some
        ⟨sessionId,objectId,parentObjectId,creatorCommandId,0,0,
          (v.domainPaths (sessionId,objectId)).elim false DomainPathEntry.closeObserved,
          snprintf maxDomainPathLength relativePath⟩) }

def markDomainPathCloseObserved (v : TrackerView) (sessionId : SessionId) (objectId : ObjectId) : TrackerView :=
  if objectId = 0 then v
  else
    { v with
      domainPaths := Function.update v.domainPaths (sessionId,objectId)
        ((v.domainPaths (sessionId,objectId)).map fun e => { e with closeObserved := true }) }

noncomputable def process (v : TrackerView) : TrackerEvent → TrackerView
  | .sessionConnected serviceName sessionId clientInfo => v.rememberSession serviceName sessionId clientInfo
  | .sessionTrace ctx => v.logSessionTrace ctx
  | .managerRequestEnd sessionId moveHandle commandId => v.rememberCloneHandle sessionId moveHandle commandId
  | .rememberDomainPath sessionId objectId relativePath parentObjectId creatorCommandId =>
    v.rememberDomainPath sessionId objectId relativePath parentObjectId creatorCommandId
  | .markDomainPathCloseObserved sessionId objectId => v.markDomainPathCloseObserved sessionId objectId

end TrackerView

namespace Tracker

variable {t : Tracker}

theorem KeysUnique.markClose (unique : t.KeysUnique) (now : Nat) (ctx : SessionTraceContext) :
    (markClose now ctx t).KeysUnique :=
  { unique with
    sessionHandles := Table.unique_update unique.sessionHandles fun _ _ => rfl
    cloneHandles := Table.unique_update unique.cloneHandles fun _ _ => rfl }

theorem map_update [DecidableEq κ] (g : α → β) (lookup : κ → Option α) (k : κ) (entry : Option α) :
    (fun j => (Function.update lookup k entry j).map g) =
      Function.update (fun j => (lookup j).map g) k (entry.map g) :=
  funext (Function.apply_update (fun _ => Option.map g) lookup k entry)

theorem view_rememberCloneHandle (unique : t.KeysUnique) (room : t.HasRoom) (now : Nat) (sessionId : SessionId)
    (handle : NativeHandle) (managerCommandId : Nat) :
    (t.rememberCloneHandle now sessionId handle managerCommandId).1.view =
      t.view.rememberCloneHandle sessionId handle managerCommandId := by
  refine TrackerView.ext rfl rfl ?_ rfl
  dsimp only [view,Tracker.rememberCloneHandle,TrackerView.rememberCloneHandle]
  rw [Table.lookup_upsert unique.cloneHandles (by decide) room.2.2.1,map_update]
  · congr 2
    cases t.cloneHandles.lookup CloneHandleEntry.key (sessionId,handle) <;> rfl
  · exact fun _ => rfl
  · rfl

theorem view_rememberSessionHandle (unique : t.KeysUnique) (room : t.HasRoom) (now : Nat)
    (ctx : SessionTraceContext) (isClone : Bool) :
    (rememberContextHandle now ctx isClone t).1.view = t.view.rememberSessionHandle ctx isClone := by
  refine TrackerView.ext rfl ?_ rfl rfl
  dsimp only [view,rememberContextHandle,Tracker.rememberSessionHandle,TrackerView.rememberSessionHandle]
  rw [Table.lookup_upsert unique.sessionHandles (by decide) room.2.1,map_update]
  · congr 2
    cases known : t.sessionHandles.lookup SessionHandleEntry.key (ctx.sessionId,ctx.sessionHandle) with
    | none => rfl
    | some e =>
      have keyed : e.key = (ctx.sessionId,ctx.sessionHandle) := Table.key_of_lookup known
      obtain ⟨session,handle⟩ := Prod.mk.inj keyed
      simp [SessionHandleEntry.untimed,session,handle]
  · exact fun _ => rfl
  · rfl

/-- A clone that is not known yet takes a slot first, and is overwritten in it. -/
theorem view_noteCloneRegistered (unique : t.KeysUnique) (free : t.cloneHandles.hasFree = true) (now : Nat)
    (ctx : SessionTraceContext) :
    (t.noteCloneRegistered now ctx.sessionId ctx.peerHandle ctx.sessionHandle ctx.forwardHandle
      ctx.hasForwardHandle).1.view = t.view.noteCloneRegistered ctx := by
  refine TrackerView.ext ?_ ?_ ?_ ?_
  · simp [view,TrackerView.noteCloneRegistered]
  · simp [view,TrackerView.noteCloneRegistered]
  · dsimp only [view,TrackerView.noteCloneRegistered,Tracker.noteCloneRegistered]
    cases known : t.cloneHandles.find? fun e => e.key == (ctx.sessionId,ctx.peerHandle) with
    | some e =>
      have found : t.cloneHandles.lookup CloneHandleEntry.key (ctx.sessionId,ctx.peerHandle) = some e := known
      have keyed : e.key = (ctx.sessionId,ctx.peerHandle) := Table.key_of_lookup found
      obtain ⟨session,handle⟩ := Prod.mk.inj keyed
      dsimp only
      rw [Table.lookup_update_key unique.cloneHandles,map_update,found]
      · simp [CloneHandleEntry.untimed,session,handle]
      · exact fun _ _ => rfl
    | none =>
      have absent : t.cloneHandles.lookup CloneHandleEntry.key (ctx.sessionId,ctx.peerHandle) = none := known
      have remembered := unique.rememberCloneHandle now ctx.sessionId ctx.peerHandle 0
      dsimp only
      rw [Table.lookup_update_key remembered.cloneHandles]
      · dsimp only [Tracker.rememberCloneHandle]
        rw [Table.lookup_upsert unique.cloneHandles (by decide) free,absent,map_update,map_update]
        · simp [CloneHandleEntry.untimed]
        · exact fun _ => rfl
        · rfl
      · exact fun _ _ => rfl
  · dsimp only [view,TrackerView.noteCloneRegistered,Tracker.noteCloneRegistered]
    split <;> rfl

theorem map_ite_none (g : α → β) (gone : Prop) [Decidable gone] (entry : Option α) :
    (if gone then none else entry).map g = if gone then none else entry.map g := by
  split <;> rfl

theorem view_forgetSession (unique : t.KeysUnique) (sessionId : SessionId) :
    (t.forgetSession sessionId).1.view = t.view.forgetSession sessionId := by
  refine TrackerView.ext ?_ (funext fun k => ?_) (funext fun k => ?_) (funext fun k => ?_)
  · exact Table.lookup_release_key unique.sessions sessionId
  · have erased := Table.lookup_erase_keys unique.sessionHandles (fun k => k.1 = sessionId) (fun e => beq_iff_eq) k
    exact (congrArg _ erased).trans (map_ite_none ..)
  · have erased := Table.lookup_erase_keys unique.cloneHandles (fun k => k.1 = sessionId) (fun e => beq_iff_eq) k
    exact (congrArg _ erased).trans (map_ite_none ..)
  · have erased := Table.lookup_erase_keys unique.domainPaths (fun k => k.1 = sessionId) (fun e => beq_iff_eq) k
    exact (congrArg _ erased).trans (map_ite_none ..)

theorem view_rememberSession (unique : t.KeysUnique) (room : t.HasRoom) (serviceName : CString) (sessionId : SessionId)
    (clientInfo : MitmProcessInfo) :
    (t.rememberSession serviceName sessionId clientInfo).1.view =
      t.view.rememberSession serviceName sessionId clientInfo := by
  have kept : t.sessions.victim = none := by simp [Table.victim,room.1]
  dsimp only [Tracker.rememberSession]
  rw [kept]
  cases known : t.findSessionEntry sessionId with
  | some e =>
    have found : t.sessions.lookup SessionEntry.sessionId sessionId = some e := known
    refine TrackerView.ext ?_ rfl rfl rfl
    dsimp only [view,TrackerView.rememberSession]
    rw [Table.lookup_update_key unique.sessions,found]
    · rfl
    · exact fun _ same => same.symm
  | none =>
    have absent : t.sessions.lookup SessionEntry.sessionId sessionId = none := known
    refine TrackerView.ext ?_ rfl rfl rfl
    exact Table.lookup_place unique.sessions (by decide) room.1 absent

theorem view_rememberDomainPath (unique : t.KeysUnique) (room : t.HasRoom) (now : Nat) (sessionId : SessionId)
    (objectId : ObjectId) (relativePath : CString) (parentObjectId : ObjectId) (creatorCommandId : Nat) :
    (t.rememberDomainPath now sessionId objectId relativePath parentObjectId creatorCommandId).view =
      t.view.rememberDomainPath sessionId objectId relativePath parentObjectId creatorCommandId := by
  unfold Tracker.rememberDomainPath TrackerView.rememberDomainPath
  split
  next => rfl
  next =>
    refine TrackerView.ext rfl rfl rfl ?_
    dsimp only [view]
    rw [Table.lookup_upsert unique.domainPaths (by decide) room.2.2.2,map_update]
    · congr 2
      cases known : t.domainPaths.lookup DomainPathEntry.key (sessionId,objectId) with
      | none => rfl
      | some e =>
        have keyed : e.key = (sessionId,objectId) := Table.key_of_lookup known
        obtain ⟨session,object⟩ := Prod.mk.inj keyed
        simp [DomainPathEntry.untimed,session,object]
    · exact fun _ => rfl
    · rfl

theorem view_markDomainPathCloseObserved (unique : t.KeysUnique) (now : Nat) (sessionId : SessionId)
    (objectId : ObjectId) :
    (t.markDomainPathCloseObserved now sessionId objectId).1.view =
      t.view.markDomainPathCloseObserved sessionId objectId := by
  unfold Tracker.markDomainPathCloseObserved TrackerView.markDomainPathCloseObserved
  split
  next => rfl
  next =>
    refine TrackerView.ext rfl rfl rfl ?_
    dsimp only [view]
    rw [Table.lookup_update_key unique.domainPaths,map_update,Option.map_map,Option.map_map]
    · rfl
    · exact fun _ _ => rfl

/-- The one open clone that a close names is marked, and marking a closed one changes nothing. -/
theorem view_markClose (unique : t.KeysUnique) (now : Nat) {ctx : SessionTraceContext} (close : ctx.eventType = .close)
    (one : t.ClosesOne (.sessionTrace ctx)) : (markClose now ctx t).view = t.view.markClose ctx := by
  refine TrackerView.ext rfl ?_ (funext fun k => ?_) rfl
  · dsimp only [view,markClose,Tracker.markSessionHandleCloseObserved,Tracker.markCloneClosedByServerHandle,
      TrackerView.markClose]
    rw [Table.lookup_update_key unique.sessionHandles,map_update,Option.map_map,Option.map_map]
    · rfl
    · exact fun _ _ => rfl
  · dsimp only [view,markClose,Tracker.markSessionHandleCloseObserved,Tracker.markCloneClosedByServerHandle,
      TrackerView.markClose]
    rw [Table.lookup_update_one unique.cloneHandles,Option.map_map,Option.map_map]
    · refine Option.map_congr fun e found => ?_
      have keyed : e.sessionId = k.1 := congrArg Prod.fst (Table.key_of_lookup found)
      by_cases named : k.1 = ctx.sessionId ∧ e.serverHandle = ctx.sessionHandle
      · cases closed : e.closeObserved <;> simp [CloneHandleEntry.untimed,keyed,named,closed]
      · simp [CloneHandleEntry.untimed,keyed,named]
    · intro a inside b also left right
      simp only [Bool.and_eq_true,beq_iff_eq,Bool.not_eq_true'] at left right
      exact one close a inside b also left.1.1 left.1.2 left.2 right.1.1 right.1.2 right.2
    · exact fun _ _ => rfl

/-- The count that a close is judged by, on the maps. -/
theorem activeAfterClose_ne_zero_iff (unique : t.KeysUnique) (now : Nat) (ctx : SessionTraceContext) :
    activeAfterClose now ctx t ≠ 0 ↔ t.view.Survives ctx := by
  have marked : (markClose now ctx t).sessionHandles.Unique SessionHandleEntry.key :=
    Table.unique_update unique.sessionHandles fun _ _ => rfl
  have lookups : (markClose now ctx t).sessionHandles.lookup SessionHandleEntry.key =
      Function.update (t.sessionHandles.lookup SessionHandleEntry.key) ctx.key
        ((t.sessionHandles.lookup SessionHandleEntry.key ctx.key).map fun e =>
          { e with closeObserved := true, closeSeenTsNs := now }) :=
    Table.lookup_update_key unique.sessionHandles fun _ _ => rfl
  have counted : activeAfterClose now ctx t = (markClose now ctx t).sessionHandles.count
      fun e => e.sessionId == ctx.sessionId && !(true && e.closeObserved) := rfl
  rw [counted,Table.count,← Nat.pos_iff_ne_zero,List.countP_pos_iff,Table.exists_mem_iff_lookup marked]
  simp only [Bool.true_and,Bool.and_eq_true,beq_iff_eq,Bool.not_eq_true']
  constructor
  · rintro ⟨k,e,found,session,isOpen⟩
    have keyed : e.key = k := Table.key_of_lookup found
    rw [lookups] at found
    by_cases here : k = ctx.key
    · subst here
      rw [Function.update_self,Option.map_eq_some_iff] at found
      obtain ⟨old,_,rfl⟩ := found
      cases isOpen
    · rw [Function.update_of_ne here] at found
      exact ⟨k,e.untimed,by simp [view,found],here,keyed ▸ session,isOpen⟩
  · rintro ⟨k,e,found,other,session,isOpen⟩
    obtain ⟨old,held,rfl⟩ := Option.map_eq_some_iff.mp found
    have keyed : old.key = k := Table.key_of_lookup held
    refine ⟨k,old,?_,?_,isOpen⟩
    · rw [lookups,Function.update_of_ne other]
      exact held
    · rw [← session,← keyed]
      rfl

theorem view_logSessionTrace (unique : t.KeysUnique) (now : Nat) (ctx : SessionTraceContext) (room : t.HasRoom)
    (one : t.ClosesOne (.sessionTrace ctx)) : (logSessionTrace now ctx t).1.view = t.view.logSessionTrace ctx := by
  cases kind : ctx.eventType
  case accepted =>
    simp only [logSessionTrace,TrackerView.logSessionTrace,kind]
    exact view_rememberSessionHandle unique room now ctx false
  case cloneRegistered =>
    have remembered : (rememberContextHandle now ctx true t).1.KeysUnique := unique.rememberSessionHandle ..
    simp only [logSessionTrace,TrackerView.logSessionTrace,kind]
    rw [← view_rememberSessionHandle unique room now ctx true]
    exact view_noteCloneRegistered remembered room.2.2.1 now ctx
  case close =>
    have survives := activeAfterClose_ne_zero_iff unique now ctx
    have marked : (markClose now ctx t).KeysUnique := unique.markClose now ctx
    rw [log_close now ctx t kind]
    simp only [TrackerView.logSessionTrace,TrackerView.logClose,kind,← survives,← view_markClose unique now kind one]
    by_cases final : activeAfterClose now ctx t = 0
    · simp [final,view_forgetSession marked]
    · simp [final]
  all_goals simp [logSessionTrace,TrackerView.logSessionTrace,kind]

theorem KeysUnique.logSessionTrace (unique : t.KeysUnique) (now : Nat) (ctx : SessionTraceContext) :
    (logSessionTrace now ctx t).1.KeysUnique := by
  cases kind : ctx.eventType
  case accepted =>
    simp only [Probe.logSessionTrace,kind]
    exact unique.rememberSessionHandle ..
  case cloneRegistered =>
    simp only [Probe.logSessionTrace,kind]
    exact (unique.rememberSessionHandle ..).noteCloneRegistered ..
  case close =>
    rw [log_close now ctx t kind]
    split
    · exact (unique.markClose now ctx).forgetSession ctx.sessionId
    · exact unique.markClose now ctx
  all_goals simpa [Probe.logSessionTrace,kind] using unique

theorem KeysUnique.process (unique : t.KeysUnique) (e : TimedEvent) : (t.process e).KeysUnique := by
  obtain ⟨now,event⟩ := e
  cases event with
  | sessionConnected => exact unique.rememberSession ..
  | sessionTrace ctx => exact unique.logSessionTrace now ctx
  | managerRequestEnd => exact unique.rememberCloneHandle ..
  | rememberDomainPath => exact unique.rememberDomainPath ..
  | markDomainPathCloseObserved => exact unique.markDomainPathCloseObserved ..

theorem KeysUnique.processAll (unique : t.KeysUnique) (events : List TimedEvent) :
    (events.foldl Tracker.process t).KeysUnique := by
  induction events generalizing t with
  | nil => exact unique
  | cons e rest ih => exact ih (unique.process e)

/-- One event does to the maps what it does to the tables. -/
theorem view_process (unique : t.KeysUnique) (e : TimedEvent) (admitted : t.Admits e) :
    (t.process e).view = t.view.process e.2 := by
  obtain ⟨now,event⟩ := e
  obtain ⟨room,one⟩ := admitted
  cases event with
  | sessionConnected => exact view_rememberSession unique room ..
  | sessionTrace ctx => exact view_logSessionTrace unique now ctx room one
  | managerRequestEnd => exact view_rememberCloneHandle unique room ..
  | rememberDomainPath => exact view_rememberDomainPath unique room ..
  | markDomainPathCloseObserved => exact view_markDomainPathCloseObserved unique ..

end Tracker

end NxReverse.Probe
