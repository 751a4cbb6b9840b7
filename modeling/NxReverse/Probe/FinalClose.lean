import NxReverse.Probe.SessionTrace

/-! Final closes against the truth. `Handles` is what the sessions really hold; the
tracker follows it as long as no insertion destroys the entry of an open handle. -/
namespace NxReverse.Probe

open Slots Text Runs

def SessionTraceEventType.registers : SessionTraceEventType → Bool
  | .accepted | .cloneRegistered => true
  | _ => false

def SessionTraceContext.key (ctx : SessionTraceContext) : SessionId × NativeHandle :=
  (ctx.sessionId,ctx.sessionHandle)

def TraceRecord.disconnects (sessionId : SessionId) : TraceRecord → Bool
  | .session record => record.eventName == .clientDisconnected && record.sessionId == sessionId
  | _ => false

/-- The handles ever registered and the handles open now, over all sessions. -/
structure Handles where
  registered : Finset (SessionId × NativeHandle)
  opened : Finset (SessionId × NativeHandle)

namespace Handles

def none : Handles := ⟨∅,∅⟩

def observe (g : Handles) (ctx : SessionTraceContext) : Handles :=
  if ctx.eventType.registers then ⟨insert ctx.key g.registered,insert ctx.key g.opened⟩
  else if ctx.eventType = .close then ⟨g.registered,g.opened.erase ctx.key⟩
  else g

/-- A new handle value for the session with at most 128 handles open afterwards, or the
close of an open handle. -/
def Admits (g : Handles) (ctx : SessionTraceContext) : Prop :=
  (ctx.eventType.registers = true →
    ctx.key ∉ g.registered ∧ (insert ctx.key g.opened).card ≤ maxTrackedSessionHandles) ∧
  (ctx.eventType = .close → ctx.key ∈ g.opened)

instance (g : Handles) (ctx : SessionTraceContext) : Decidable (g.Admits ctx) := by
  unfold Admits; infer_instance

def LastOpen (g : Handles) (ctx : SessionTraceContext) : Prop :=
  ∀ k ∈ g.opened, k.1 = ctx.sessionId → k = ctx.key

instance (g : Handles) (ctx : SessionTraceContext) : Decidable (g.LastOpen ctx) := by
  unfold LastOpen; infer_instance

/-- The session had handles and has closed them all. -/
def AllClosed (g : Handles) (sessionId : SessionId) : Prop :=
  (∃ k ∈ g.registered, k.1 = sessionId) ∧ ∀ k ∈ g.opened, k.1 ≠ sessionId

instance (g : Handles) (sessionId : SessionId) : Decidable (g.AllClosed sessionId) := by
  unfold AllClosed; infer_instance

end Handles

abbrev SessionEvent := Nat × SessionTraceContext

def observeSession (s : Tracker × Handles) (e : SessionEvent) : Tracker × Handles :=
  ((logSessionTrace e.1 e.2 s.1).1,s.2.observe e.2)

def sessionRecords : Tracker → List SessionEvent → List TraceRecord
  | _, [] => []
  | t, e :: rest => (logSessionTrace e.1 e.2 t).2 ++ sessionRecords (logSessionTrace e.1 e.2 t).1 rest

def countDisconnects (sessionId : SessionId) (records : List TraceRecord) : Nat :=
  records.countP (TraceRecord.disconnects sessionId)

/-- The runs the tracker is for. -/
def WellFormed (t : Tracker) (events : List SessionEvent) : Prop :=
  Guarded observeSession (fun s e => s.2.Admits e.2) (t,.none) events

/-- No registration overwrites the entry of a handle whose close was not observed. -/
def KeepsOpenHandles (t : Tracker) (events : List SessionEvent) : Prop :=
  Guarded observeSession (fun s e => e.2.eventType.registers = true →
    ∀ v, s.1.sessionHandles.victim = some v → v.closeObserved = true) (t,.none) events

/-- The session registers no further handle once its handles are all closed. -/
def NotRevived (t : Tracker) (events : List SessionEvent) (sessionId : SessionId) : Prop :=
  Guarded observeSession (fun s e => e.2.eventType.registers = true → e.2.sessionId = sessionId →
    ¬s.2.AllClosed sessionId) (t,.none) events

/-- The tracker holds nothing of the session in any of its four tables. -/
def Forgotten (t : Tracker) (sessionId : SessionId) : Prop :=
  (∀ e ∈ t.sessions.entries, e.sessionId ≠ sessionId) ∧
  (∀ e ∈ t.sessionHandles.entries, e.sessionId ≠ sessionId) ∧
  (∀ e ∈ t.cloneHandles.entries, e.sessionId ≠ sessionId) ∧
  ∀ e ∈ t.domainPaths.entries, e.sessionId ≠ sessionId

/-- Every close is reported final, and forgets its session, exactly when it closes the
last open handle; a session closed for good is reported once. -/
structure FinalCloseExact (t : Tracker) (events : List SessionEvent) : Prop where
  close_iff : ∀ before now ctx after, events = before ++ (now,ctx) :: after → ctx.eventType = .close →
    let s := before.foldl observeSession (t,.none)
    let result := logSessionTrace now ctx s.1
    ((∃ record ∈ result.2, record.disconnects ctx.sessionId = true) ↔ s.2.LastOpen ctx) ∧
    (Forgotten result.1 ctx.sessionId ↔ s.2.LastOpen ctx)
  once : ∀ sessionId, NotRevived t events sessionId →
    (events.foldl observeSession (t,.none)).2.AllClosed sessionId →
    countDisconnects sessionId (sessionRecords t events) = 1

@[simp] theorem noteCloneRegistered_sessionHandles (t : Tracker) (now : Nat) (sessionId : SessionId)
    (client server forward : NativeHandle) (hasForward : Bool) :
    (t.noteCloneRegistered now sessionId client server forward hasForward).1.sessionHandles =
      t.sessionHandles := by
  unfold Tracker.noteCloneRegistered
  dsimp only
  split <;> rfl

@[simp] theorem noteCloneRegistered_sessions (t : Tracker) (now : Nat) (sessionId : SessionId)
    (client server forward : NativeHandle) (hasForward : Bool) :
    (t.noteCloneRegistered now sessionId client server forward hasForward).1.sessions = t.sessions := by
  unfold Tracker.noteCloneRegistered
  dsimp only
  split <;> rfl

/-- What a registration can do to the tables of this property. -/
theorem log_registers (now : Nat) (ctx : SessionTraceContext) (t : Tracker)
    (registers : ctx.eventType.registers = true) :
    ∃ isClone, (logSessionTrace now ctx t).1.sessionHandles =
        (rememberContextHandle now ctx isClone t).1.sessionHandles ∧
      (logSessionTrace now ctx t).1.sessions = t.sessions ∧
      ∀ sessionId, countDisconnects sessionId (logSessionTrace now ctx t).2 = 0 := by
  cases kind : ctx.eventType <;> simp only [kind,SessionTraceEventType.registers] at registers
  case accepted =>
    refine ⟨false,by simp [logSessionTrace,kind,logAccepted],?_,fun sessionId => ?_⟩
    · simp [logSessionTrace,kind,logAccepted,rememberContextHandle,Tracker.rememberSessionHandle]
    · simp [logSessionTrace,kind,logAccepted,countDisconnects,TraceRecord.disconnects,sessionRecord]
  case cloneRegistered =>
    refine ⟨true,by simp [logSessionTrace,kind,logCloneRegistered],?_,fun sessionId => ?_⟩
    · simp [logSessionTrace,kind,logCloneRegistered,rememberContextHandle,Tracker.rememberSessionHandle]
    · simp [logSessionTrace,kind,logCloneRegistered,countDisconnects,TraceRecord.disconnects,sessionRecord,
        List.countP_append,List.countP_map,Function.comp_def]
  all_goals simp at registers

/-- The events that only report leave the tracker as it is. -/
theorem log_reports (now : Nat) (ctx : SessionTraceContext) (t : Tracker)
    (silent : ctx.eventType.registers = false) (notClose : ctx.eventType ≠ .close) :
    (logSessionTrace now ctx t).1 = t ∧
      ∀ sessionId, countDisconnects sessionId (logSessionTrace now ctx t).2 = 0 := by
  cases kind : ctx.eventType <;> simp [kind,SessionTraceEventType.registers] at silent notClose
  all_goals simp [logSessionTrace,kind,countDisconnects,TraceRecord.disconnects,sessionRecord]

def markClose (now : Nat) (ctx : SessionTraceContext) (t : Tracker) : Tracker :=
  ((t.markSessionHandleCloseObserved now ctx.sessionId ctx.sessionHandle).1.markCloneClosedByServerHandle
    now ctx.sessionId ctx.sessionHandle).1

/-- The count a close is judged by. -/
def activeAfterClose (now : Nat) (ctx : SessionTraceContext) (t : Tracker) : Nat :=
  (t.markSessionHandleCloseObserved now ctx.sessionId ctx.sessionHandle).2.2.1

theorem log_close (now : Nat) (ctx : SessionTraceContext) (t : Tracker) (close : ctx.eventType = .close) :
    (logSessionTrace now ctx t).1 =
      if activeAfterClose now ctx t = 0 then ((markClose now ctx t).forgetSession ctx.sessionId).1
      else markClose now ctx t := by
  by_cases final : activeAfterClose now ctx t = 0
  · simp [logSessionTrace,close,logClose,final,markClose,show (t.markSessionHandleCloseObserved now
      ctx.sessionId ctx.sessionHandle).2.2.1 = 0 from final]
  · simp [logSessionTrace,close,logClose,final,markClose,show (t.markSessionHandleCloseObserved now
      ctx.sessionId ctx.sessionHandle).2.2.1 ≠ 0 from final]

theorem countDisconnects_append (sessionId : SessionId) (first second : List TraceRecord) :
    countDisconnects sessionId (first ++ second) =
      countDisconnects sessionId first + countDisconnects sessionId second :=
  List.countP_append

/-- Records of one silent kind do not count. -/
theorem countDisconnects_map (sessionId : SessionId) {f : α → TraceRecord}
    (silent : ∀ a, (f a).disconnects sessionId = false) (items : List α) :
    countDisconnects sessionId (items.map f) = 0 := by
  simp [countDisconnects,List.countP_map,Function.comp_def,silent]

theorem preDisconnectRecords_silent (t : Tracker) (sessionId other : SessionId) :
    countDisconnects other (preDisconnectRecords t sessionId) = 0 := by
  have snapshots : countDisconnects other (logDomainSnapshotForSession t sessionId) = 0 := by
    unfold logDomainSnapshotForSession
    split
    · rfl
    · refine List.countP_eq_zero.mpr fun record member => ?_
      obtain ⟨index,bound,rfl⟩ := List.mem_mapIdx.mp member
      simp [TraceRecord.disconnects]
  unfold preDisconnectRecords
  dsimp only
  rw [countDisconnects_append,snapshots]
  split <;> simp [countDisconnects,TraceRecord.disconnects,List.countP_map,Function.comp_def]

/-- A close writes one record naming it, final exactly when no active handle remains. -/
theorem countDisconnects_close (now : Nat) (ctx : SessionTraceContext) (t : Tracker)
    (close : ctx.eventType = .close) (sessionId : SessionId) :
    countDisconnects sessionId (logSessionTrace now ctx t).2 =
      if activeAfterClose now ctx t = 0 ∧ ctx.sessionId = sessionId then 1 else 0 := by
  have handles := fun active total => countDisconnects_map sessionId
    (f := fun entry => .sessionHandleState .closeObserved entry active total) fun _ => rfl
  have clones := fun outstanding => countDisconnects_map sessionId
    (f := fun entry => .cloneHandleState .closeObserved entry outstanding) fun _ => rfl
  have before : ∀ (known : Prop) [Decidable known] (marked : Tracker), countDisconnects sessionId
      (if known then preDisconnectRecords marked ctx.sessionId else []) = 0 := by
    intro known _ marked
    split
    · exact preDisconnectRecords_silent marked ctx.sessionId sessionId
    · rfl
  simp only [logSessionTrace,close,logClose,countDisconnects_append,before,handles,clones]
  by_cases final : activeAfterClose now ctx t = 0
  · have active : (t.markSessionHandleCloseObserved now ctx.sessionId ctx.sessionHandle).2.2.1 = 0 := final
    simp [countDisconnects,TraceRecord.disconnects,sessionRecord,active,final,List.countP_cons]
  · have active : (t.markSessionHandleCloseObserved now ctx.sessionId ctx.sessionHandle).2.2.1 ≠ 0 := final
    simp [countDisconnects,TraceRecord.disconnects,sessionRecord,active,final]

/-- The tracker follows the open handles: an open handle has an entry that says so. -/
structure Tracks (t : Tracker) (g : Handles) : Prop where
  unique : t.sessionHandles.Unique SessionHandleEntry.key
  uniqueSessions : t.sessions.Unique SessionEntry.sessionId
  known : ∀ e ∈ t.sessionHandles.entries, e.key ∈ g.registered
  opened : ∀ k, k ∈ g.opened ↔ ∃ e ∈ t.sessionHandles.entries, e.key = k ∧ e.closeObserved = false

theorem Tracks.start {t : Tracker} (noHandles : t.sessionHandles.entries = [])
    (uniqueSessions : t.sessions.Unique SessionEntry.sessionId) : Tracks t .none where
  unique := by simp [Table.Unique,noHandles]
  uniqueSessions := uniqueSessions
  known := by simp [noHandles]
  opened := by simp [noHandles,Handles.none]

theorem Tracks.open_registered {t : Tracker} {g : Handles} (tracks : Tracks t g)
    {k : SessionId × NativeHandle} (isOpen : k ∈ g.opened) : k ∈ g.registered := by
  obtain ⟨e,member,rfl,_⟩ := (tracks.opened k).mp isOpen
  exact tracks.known e member

theorem rememberContextHandle_fresh (now : Nat) (ctx : SessionTraceContext) (isClone : Bool) (t : Tracker)
    (fresh : ∀ e ∈ t.sessionHandles.entries, e.key ≠ ctx.key) :
    ∃ entry : SessionHandleEntry, entry.key = ctx.key ∧ entry.closeObserved = false ∧
      (rememberContextHandle now ctx isClone t).1.sessionHandles = t.sessionHandles.place entry := by
  refine ⟨⟨ctx.sessionId,ctx.sessionHandle,ctx.peerHandle,ctx.forwardHandle,ctx.hasForwardHandle,
    isClone,now,0,false⟩,rfl,rfl,?_⟩
  have absent : ∀ e ∈ t.sessionHandles.entries, (e.key == (ctx.sessionId,ctx.sessionHandle)) = false := by
    intro e member
    exact beq_eq_false_iff_ne.mpr (fresh e member)
  simp only [rememberContextHandle,Tracker.rememberSessionHandle]
  rw [Table.upsert_fresh absent]

/-- A registration under a new key keeps the tracker exact unless it destroys an open entry. -/
theorem Tracks.register {t : Tracker} {g : Handles} (tracks : Tracks t g) (now : Nat)
    (ctx : SessionTraceContext) (registers : ctx.eventType.registers = true)
    (fresh : ctx.key ∉ g.registered)
    (kept : ∀ v, t.sessionHandles.victim = some v → v.closeObserved = true) :
    Tracks (logSessionTrace now ctx t).1 (g.observe ctx) := by
  obtain ⟨isClone,handles,sessions,_⟩ := log_registers now ctx t registers
  have absent : ∀ e ∈ t.sessionHandles.entries, e.key ≠ ctx.key := by
    intro e member same
    exact fresh (same ▸ tracks.known e member)
  obtain ⟨entry,keyed,notClosed,placed⟩ := rememberContextHandle_fresh now ctx isClone t absent
  have positive : 0 < maxTrackedSessionHandles := by decide
  have after : (logSessionTrace now ctx t).1.sessionHandles = t.sessionHandles.place entry :=
    handles.trans placed
  have observed : g.observe ctx = ⟨insert ctx.key g.registered,insert ctx.key g.opened⟩ := by
    simp [Handles.observe,registers]
  rw [observed]
  constructor
  · rw [after]
    exact Table.unique_place positive tracks.unique entry fun e member => keyed ▸ absent e member
  · rw [sessions]
    exact tracks.uniqueSessions
  · intro e member
    rw [after] at member
    rcases Table.mem_of_mem_place positive member with rfl | old
    · simp [keyed]
    · exact Finset.mem_insert_of_mem (tracks.known e old)
  · intro k
    rw [after,Finset.mem_insert]
    constructor
    · rintro (rfl | isOpen)
      · exact ⟨entry,Table.mem_place_self positive entry,keyed,notClosed⟩
      · obtain ⟨e,member,same,active⟩ := (tracks.opened k).mp isOpen
        have survives : t.sessionHandles.victim ≠ some e := by
          intro victim
          simp [kept e victim] at active
        exact ⟨e,Table.mem_place_of_mem positive member survives,same,active⟩
    · rintro ⟨e,member,same,active⟩
      rcases Table.mem_of_mem_place positive member with rfl | old
      · exact .inl (same.symm.trans keyed)
      · exact .inr ((tracks.opened k).mpr ⟨e,old,same,active⟩)

def SessionHandleEntry.closedAt (now : Nat) (e : SessionHandleEntry) : SessionHandleEntry :=
  { e with closeObserved := true, closeSeenTsNs := now }

@[simp] theorem key_closedAt (now : Nat) (e : SessionHandleEntry) : (e.closedAt now).key = e.key := rfl
@[simp] theorem closeObserved_closedAt (now : Nat) (e : SessionHandleEntry) :
    (e.closedAt now).closeObserved = true := rfl

theorem markClose_sessionHandles (now : Nat) (ctx : SessionTraceContext) (t : Tracker) :
    (markClose now ctx t).sessionHandles =
      t.sessionHandles.update (fun e => e.key == ctx.key) (.closedAt now) := rfl

/-- The entry of a closed handle keeps its slot and is flagged. -/
theorem entries_markClose {t : Tracker} (unique : t.sessionHandles.Unique SessionHandleEntry.key)
    (now : Nat) (ctx : SessionTraceContext) : (markClose now ctx t).sessionHandles.entries =
      t.sessionHandles.entries.map fun e => if e.key = ctx.key then e.closedAt now else e := by
  rw [markClose_sessionHandles]
  exact Table.entries_update_key unique ctx.key _

theorem Tracks.mark {t : Tracker} {g : Handles} (tracks : Tracks t g) (now : Nat)
    (ctx : SessionTraceContext) : Tracks (markClose now ctx t) ⟨g.registered,g.opened.erase ctx.key⟩ := by
  constructor
  · rw [markClose_sessionHandles]
    exact Table.unique_update tracks.unique fun e _ => key_closedAt now e
  · exact tracks.uniqueSessions
  · intro e member
    rw [entries_markClose tracks.unique] at member
    obtain ⟨old,inTable,rfl⟩ := List.mem_map.mp member
    have registered := tracks.known old inTable
    by_cases hit : old.key = ctx.key
    · simpa [hit] using registered
    · simpa [hit] using registered
  · intro k
    rw [entries_markClose tracks.unique,Finset.mem_erase]
    constructor
    · rintro ⟨other,isOpen⟩
      obtain ⟨e,member,rfl,active⟩ := (tracks.opened k).mp isOpen
      exact ⟨e,List.mem_map.mpr ⟨e,member,by simp [other]⟩,rfl,active⟩
    · rintro ⟨e,member,rfl,active⟩
      obtain ⟨old,inTable,rfl⟩ := List.mem_map.mp member
      by_cases hit : old.key = ctx.key
      · simp [hit] at active
      · simp only [hit,if_false] at active ⊢
        exact ⟨hit,(tracks.opened _).mpr ⟨old,inTable,rfl,active⟩⟩

theorem activeAfterClose_eq_zero_iff {t : Tracker} {g : Handles} (tracks : Tracks t g) (now : Nat)
    (ctx : SessionTraceContext) : activeAfterClose now ctx t = 0 ↔ g.LastOpen ctx := by
  have marked := tracks.mark now ctx
  have counted : activeAfterClose now ctx t =
      (markClose now ctx t).sessionHandles.count
        fun e => e.sessionId == ctx.sessionId && !(true && e.closeObserved) := rfl
  rw [counted,Table.count_eq_zero_iff]
  constructor
  · intro none k isOpen same
    by_contra other
    obtain ⟨e,member,rfl,active⟩ := (marked.opened k).mp (Finset.mem_erase.mpr ⟨other,isOpen⟩)
    have inactive := none e member
    simp [active,show e.sessionId = ctx.sessionId from same] at inactive
  · intro last e member
    by_contra active
    simp only [Bool.true_and,Bool.not_eq_false,Bool.and_eq_true,beq_iff_eq,Bool.not_eq_true'] at active
    have stillOpen := (marked.opened e.key).mpr ⟨e,member,rfl,active.2⟩
    obtain ⟨other,isOpen⟩ := Finset.mem_erase.mp stillOpen
    exact other (last e.key isOpen active.1)

/-- Forgetting a session without open handles loses nothing that is open. -/
theorem Tracks.forget {t : Tracker} {g : Handles} (tracks : Tracks t g) (sessionId : SessionId)
    (none : ∀ k ∈ g.opened, k.1 ≠ sessionId) : Tracks (t.forgetSession sessionId).1 g := by
  have handles : (t.forgetSession sessionId).1.sessionHandles.entries =
      t.sessionHandles.entries.filter fun e => !(e.sessionId == sessionId) :=
    Table.entries_erase t.sessionHandles _
  have sessions : (t.forgetSession sessionId).1.sessions.entries =
      t.sessions.entries.filter fun e => !(e.sessionId == sessionId) :=
    Table.entries_release_key tracks.uniqueSessions sessionId
  constructor
  · exact Table.unique_erase _ _ tracks.unique
  · rw [Table.Unique,sessions]
    exact (List.filter_sublist.map _).nodup tracks.uniqueSessions
  · intro e member
    rw [handles] at member
    exact tracks.known e (List.mem_filter.mp member).1
  · intro k
    rw [handles,tracks.opened k]
    constructor
    · rintro ⟨e,member,rfl,active⟩
      have elsewhere := none e.key ((tracks.opened e.key).mpr ⟨e,member,rfl,active⟩)
      have kept : (!(e.sessionId == sessionId)) = true := by
        simpa [SessionHandleEntry.key] using elsewhere
      exact ⟨e,List.mem_filter.mpr ⟨member,kept⟩,rfl,active⟩
    · rintro ⟨e,member,same,active⟩
      exact ⟨e,(List.mem_filter.mp member).1,same,active⟩

theorem forgotten_forgetSession {t : Tracker} (unique : t.sessions.Unique SessionEntry.sessionId)
    (sessionId : SessionId) : Forgotten (t.forgetSession sessionId).1 sessionId := by
  have sessions : (t.forgetSession sessionId).1.sessions.entries =
      t.sessions.entries.filter fun e => !(e.sessionId == sessionId) :=
    Table.entries_release_key unique sessionId
  refine ⟨?_,?_,?_,?_⟩
  · rw [sessions]
    simp
  all_goals simp [Tracker.forgetSession,Tracker.forgetDomainPathsForSession,
    Tracker.forgetSessionHandlesForSession,Tracker.forgetCloneHandlesForSession]

theorem observe_close (g : Handles) {ctx : SessionTraceContext} (close : ctx.eventType = .close) :
    g.observe ctx = ⟨g.registered,g.opened.erase ctx.key⟩ := by
  simp [Handles.observe,close,SessionTraceEventType.registers]

theorem observe_reports (g : Handles) {ctx : SessionTraceContext}
    (silent : ctx.eventType.registers = false) (notClose : ctx.eventType ≠ .close) : g.observe ctx = g := by
  simp [Handles.observe,silent,notClose]

theorem Tracks.close {t : Tracker} {g : Handles} (tracks : Tracks t g) (now : Nat)
    (ctx : SessionTraceContext) (close : ctx.eventType = .close) :
    Tracks (logSessionTrace now ctx t).1 (g.observe ctx) := by
  rw [log_close now ctx t close,observe_close g close]
  have marked := tracks.mark now ctx
  split
  · next final =>
    have last := (activeAfterClose_eq_zero_iff tracks now ctx).mp final
    refine marked.forget ctx.sessionId fun k stillOpen same => ?_
    obtain ⟨other,isOpen⟩ := Finset.mem_erase.mp stillOpen
    exact other (last k isOpen same)
  · exact marked

/-- One event keeps the tracker exact. -/
theorem Tracks.step {s : Tracker × Handles} (tracks : Tracks s.1 s.2) (e : SessionEvent)
    (admits : s.2.Admits e.2)
    (kept : e.2.eventType.registers = true →
      ∀ v, s.1.sessionHandles.victim = some v → v.closeObserved = true) :
    Tracks (observeSession s e).1 (observeSession s e).2 := by
  cases registers : e.2.eventType.registers with
  | true => exact tracks.register e.1 e.2 registers (admits.1 registers).1 (kept registers)
  | false =>
    by_cases close : e.2.eventType = .close
    · exact tracks.close e.1 e.2 close
    · simp only [observeSession,(log_reports e.1 e.2 s.1 registers close).1,
        observe_reports s.2 registers close]
      exact tracks

/-- Whether a final close of the session is due by now. -/
def disconnectsDue (g : Handles) (sessionId : SessionId) : Nat := if g.AllClosed sessionId then 1 else 0

theorem disconnectsDue_start (sessionId : SessionId) : disconnectsDue .none sessionId = 0 := by
  simp [disconnectsDue,Handles.AllClosed,Handles.none]

/-- A registration makes no close due, unless it revives a closed session. -/
theorem disconnectsDue_register (g : Handles) {ctx : SessionTraceContext}
    (registers : ctx.eventType.registers = true) {sessionId : SessionId}
    (alive : ctx.sessionId = sessionId → ¬g.AllClosed sessionId) :
    disconnectsDue (g.observe ctx) sessionId = disconnectsDue g sessionId := by
  have observed : g.observe ctx = ⟨insert ctx.key g.registered,insert ctx.key g.opened⟩ := by
    simp [Handles.observe,registers]
  rw [observed]
  by_cases own : ctx.sessionId = sessionId
  · have before : disconnectsDue g sessionId = 0 := if_neg (alive own)
    have after : ¬Handles.AllClosed ⟨insert ctx.key g.registered,insert ctx.key g.opened⟩ sessionId := by
      intro closed
      exact closed.2 ctx.key (Finset.mem_insert_self _ _) own
    rw [before]
    exact if_neg after
  · have elsewhere : ctx.key.1 ≠ sessionId := own
    have same : Handles.AllClosed ⟨insert ctx.key g.registered,insert ctx.key g.opened⟩ sessionId ↔
        g.AllClosed sessionId := by
      simp [Handles.AllClosed,elsewhere]
    simp only [disconnectsDue,same]

/-- Closing an open handle makes a close of its session due when it was the last one. -/
theorem disconnectsDue_close {t : Tracker} {g : Handles} (tracks : Tracks t g)
    {ctx : SessionTraceContext} (close : ctx.eventType = .close) (isOpen : ctx.key ∈ g.opened)
    (sessionId : SessionId) : disconnectsDue (g.observe ctx) sessionId =
      (if g.LastOpen ctx ∧ ctx.sessionId = sessionId then 1 else 0) + disconnectsDue g sessionId := by
  rw [observe_close g close]
  by_cases own : ctx.sessionId = sessionId
  · have before : ¬g.AllClosed sessionId := fun closed => closed.2 ctx.key isOpen own
    have after : Handles.AllClosed ⟨g.registered,g.opened.erase ctx.key⟩ sessionId ↔ g.LastOpen ctx := by
      constructor
      · intro closed k stillOpen same
        by_contra other
        exact closed.2 k (Finset.mem_erase.mpr ⟨other,stillOpen⟩) (same.trans own)
      · intro last
        refine ⟨⟨ctx.key,tracks.open_registered isOpen,own⟩,fun k stillOpen same => ?_⟩
        obtain ⟨other,stillOpen⟩ := Finset.mem_erase.mp stillOpen
        exact other (last k stillOpen (same.trans own.symm))
    simp [disconnectsDue,before,after,own]
  · have elsewhere : ctx.key.1 ≠ sessionId := own
    have same : Handles.AllClosed ⟨g.registered,g.opened.erase ctx.key⟩ sessionId ↔
        g.AllClosed sessionId := by
      refine and_congr_right fun _ => ⟨fun closed k stillOpen same => ?_,fun closed k stillOpen => ?_⟩
      · have other : k ≠ ctx.key := fun h => elsewhere (h ▸ same)
        exact closed k (Finset.mem_erase.mpr ⟨other,stillOpen⟩) same
      · exact closed k (Finset.mem_of_mem_erase stillOpen)
    simp [disconnectsDue,same,own]

/-- One event writes a final close of a session exactly when one becomes due. -/
theorem countDisconnects_step {s : Tracker × Handles} (tracks : Tracks s.1 s.2) (e : SessionEvent)
    (admits : s.2.Admits e.2) {sessionId : SessionId}
    (alive : e.2.eventType.registers = true → e.2.sessionId = sessionId → ¬s.2.AllClosed sessionId) :
    countDisconnects sessionId (logSessionTrace e.1 e.2 s.1).2 + disconnectsDue s.2 sessionId =
      disconnectsDue (s.2.observe e.2) sessionId := by
  cases registers : e.2.eventType.registers with
  | true =>
    obtain ⟨_,_,_,silent⟩ := log_registers e.1 e.2 s.1 registers
    rw [silent sessionId,disconnectsDue_register s.2 registers (alive registers),Nat.zero_add]
  | false =>
    by_cases close : e.2.eventType = .close
    · rw [countDisconnects_close e.1 e.2 s.1 close,disconnectsDue_close tracks close (admits.2 close)]
      simp only [activeAfterClose_eq_zero_iff tracks]
    · rw [(log_reports e.1 e.2 s.1 registers close).2,observe_reports s.2 registers close,Nat.zero_add]

/-- A guarded run writes as many final closes of a session as become due in it. -/
theorem countDisconnects_run {s : Tracker × Handles} (tracks : Tracks s.1 s.2)
    {events : List SessionEvent} {sessionId : SessionId}
    (admits : Guarded observeSession (fun s e => s.2.Admits e.2) s events)
    (kept : Guarded observeSession (fun s e => e.2.eventType.registers = true →
      ∀ v, s.1.sessionHandles.victim = some v → v.closeObserved = true) s events)
    (alive : Guarded observeSession (fun s e => e.2.eventType.registers = true →
      e.2.sessionId = sessionId → ¬s.2.AllClosed sessionId) s events) :
    countDisconnects sessionId (sessionRecords s.1 events) + disconnectsDue s.2 sessionId =
      disconnectsDue (events.foldl observeSession s).2 sessionId := by
  induction events generalizing s with
  | nil => simp [sessionRecords,countDisconnects]
  | cons e rest ih =>
    have here := countDisconnects_step tracks e admits.1 alive.1
    have later := ih (tracks.step e admits.1 kept.1) admits.2 kept.2 alive.2
    rw [sessionRecords,countDisconnects_append,List.foldl_cons,← later]
    change _ = _ + disconnectsDue (s.2.observe e.2) sessionId
    rw [← here]
    change _ + countDisconnects sessionId (sessionRecords (observeSession s e).1 rest) + _ = _
    omega

/-- Tracked exactly, a close is final, and forgets its session, when it is the last. -/
theorem Tracks.close_final {t : Tracker} {g : Handles} (tracks : Tracks t g) (now : Nat)
    {ctx : SessionTraceContext} (close : ctx.eventType = .close) :
    ((∃ record ∈ (logSessionTrace now ctx t).2, record.disconnects ctx.sessionId = true) ↔
      g.LastOpen ctx) ∧
    (Forgotten (logSessionTrace now ctx t).1 ctx.sessionId ↔ g.LastOpen ctx) := by
  have final := activeAfterClose_eq_zero_iff tracks now ctx
  constructor
  · have counted := countDisconnects_close now ctx t close ctx.sessionId
    rw [← List.countP_pos_iff]
    change 0 < countDisconnects _ _ ↔ _
    rw [counted,← final]
    by_cases none : activeAfterClose now ctx t = 0 <;> simp [none]
  · rw [log_close now ctx t close,← final]
    by_cases none : activeAfterClose now ctx t = 0
    · simpa [none] using forgotten_forgetSession (t := markClose now ctx t) tracks.uniqueSessions _
    · simp only [none,if_false,iff_false]
      intro forgotten
      -- Another open handle of the session keeps its entry.
      have notLast := mt final.mpr none
      simp only [Handles.LastOpen,not_forall] at notLast
      obtain ⟨k,isOpen,same,other⟩ := notLast
      obtain ⟨e,member,rfl,_⟩ := ((tracks.mark now ctx).opened k).mp (Finset.mem_erase.mpr ⟨other,isOpen⟩)
      exact forgotten.2.1 e member same

/-- As long as no insertion destroys the entry of an open handle, final closes are exact. -/
theorem finalClose_exact {t : Tracker} {events : List SessionEvent}
    (noHandles : t.sessionHandles.entries = [])
    (uniqueSessions : t.sessions.Unique SessionEntry.sessionId)
    (wellFormed : WellFormed t events) (kept : KeepsOpenHandles t events) : FinalCloseExact t events := by
  have start : Tracks t .none := Tracks.start noHandles uniqueSessions
  constructor
  · rintro before now ctx after rfl close
    have guarded := wellFormed.and kept
    have tracks : Tracks (before.foldl observeSession (t,.none)).1
        (before.foldl observeSession (t,.none)).2 :=
      guarded.before.invariant (fun s => Tracks s.1 s.2)
        (fun s e tracks h => tracks.step e h.1 h.2) start
    exact tracks.close_final now close
  · intro sessionId alive closed
    have counted := countDisconnects_run (s := (t,.none)) start wellFormed kept alive
    rw [disconnectsDue_start,Nat.add_zero] at counted
    exact counted.trans (if_pos closed)

def sessionEvent (eventType : SessionTraceEventType) (sessionId : SessionId) (handle : NativeHandle) :
    SessionEvent :=
  (0,⟨eventType,"bsd:s".toList,⟨0,0⟩,sessionId,handle,-1,false,-1⟩)

/-- The condition is met by a run of two sessions whose closes interleave. -/
theorem finalClose_exact_interleaved :
    FinalCloseExact .reset [sessionEvent .accepted 1 10,sessionEvent .accepted 2 10,
      sessionEvent .cloneRegistered 1 11,sessionEvent .close 1 10,sessionEvent .close 2 10,
      sessionEvent .close 1 11] :=
  finalClose_exact Table.entries_empty (Table.unique_empty _) (by unfold WellFormed; decide)
    (by unfold KeepsOpenHandles; decide)

/-- Fills the table with 127 open handles and one closed one, then registers once more:
the entry of handle 0 of session 1, in slot 0, is overwritten although the handle is open. -/
def slotZeroOverwritten : List SessionEvent :=
  [sessionEvent .accepted 1 0,sessionEvent .cloneRegistered 1 1,sessionEvent .close 1 1] ++
    (List.range 126).map (fun handle => sessionEvent .accepted 2 handle) ++
    [sessionEvent .cloneRegistered 1 2]

/-- The next close of session 1 is reported final with handle 0 still open. -/
theorem finalClose_not_exact :
    ¬∀ events, WellFormed .reset events → FinalCloseExact .reset events := by
  intro exact
  have run := exact (slotZeroOverwritten ++ sessionEvent .close 1 2 :: [])
    (by unfold WellFormed; decide +kernel)
  have final := (run.close_iff slotZeroOverwritten 0 _ [] rfl rfl).1.mp (by decide +kernel)
  revert final
  decide +kernel

end NxReverse.Probe
