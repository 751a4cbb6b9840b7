import NxReverse.Probe.TrackerView

/-! The end of a clone request and the registration of the clone reach the tracker in either order, with
events of other clones and sessions between them. Both orders lead to the same entries, unless a close
between them is the last of the clone's session. -/
namespace NxReverse.Probe

open Slots Text Runs

def SessionTraceContext.cloneKey (ctx : SessionTraceContext) : SessionId × NativeHandle :=
  (ctx.sessionId,ctx.peerHandle)

/-- Not an event of the clone that `ctx` registers: no trace of its server handle, no registration and no
request under its client handle. -/
def TrackerEvent.OtherThan (ctx : SessionTraceContext) : TrackerEvent → Prop
  | .sessionTrace other =>
    other.key ≠ ctx.key ∧ (other.eventType = .cloneRegistered → other.cloneKey ≠ ctx.cloneKey)
  | .managerRequestEnd sessionId moveHandle _ => (sessionId,moveHandle) ≠ ctx.cloneKey
  | _ => True

instance (ctx : SessionTraceContext) : (e : TrackerEvent) → Decidable (e.OtherThan ctx)
  | .sessionTrace other => inferInstanceAs (Decidable
      (other.key ≠ ctx.key ∧ (other.eventType = .cloneRegistered → other.cloneKey ≠ ctx.cloneKey)))
  | .managerRequestEnd sessionId moveHandle _ => inferInstanceAs (Decidable ((sessionId,moveHandle) ≠ ctx.cloneKey))
  | .sessionConnected _ _ _ | .rememberDomainPath _ _ _ _ _ | .markDomainPathCloseObserved _ _ =>
    inferInstanceAs (Decidable True)

namespace TrackerView

variable {ctx : SessionTraceContext} {v w : TrackerView}

structure AgreeBeside (ctx : SessionTraceContext) (v w : TrackerView) : Prop where
  sessions : v.sessions = w.sessions
  sessionHandles : ∀ k, k ≠ ctx.key → v.sessionHandles k = w.sessionHandles k
  cloneHandles : ∀ k, k ≠ ctx.cloneKey → v.cloneHandles k = w.cloneHandles k
  domainPaths : v.domainPaths = w.domainPaths

def Requested (ctx : SessionTraceContext) (commandId : Nat) (v : TrackerView) : Prop :=
  ∃ server forward hasForward registered closed, v.cloneHandles ctx.cloneKey =
    some ⟨ctx.sessionId,ctx.peerHandle,server,forward,hasForward,registered,commandId,0,0,closed⟩

/-- The clone has an entry with all that its registration said, and so has its server handle. -/
structure Registered (ctx : SessionTraceContext) (v : TrackerView) : Prop where
  handle : v.sessionHandles ctx.key = some
    ⟨ctx.sessionId,ctx.sessionHandle,ctx.peerHandle,ctx.forwardHandle,ctx.hasForwardHandle,true,0,0,false⟩
  clone : ∃ commandId, v.cloneHandles ctx.cloneKey = some
    ⟨ctx.sessionId,ctx.peerHandle,ctx.sessionHandle,ctx.forwardHandle,ctx.hasForwardHandle,true,commandId,0,0,false⟩

def EndsSession (v : TrackerView) (sessionId : SessionId) : TrackerEvent → Prop
  | .sessionTrace other => other.eventType = .close ∧ other.sessionId = sessionId ∧ ¬v.Survives other
  | _ => False

theorem agree_update [DecidableEq κ] {f g : κ → β} {beside : κ} (agree : ∀ k, k ≠ beside → f k = g k) (j : κ) {a b : β}
    (same : j ≠ beside → a = b) (k : κ) (other : k ≠ beside) : Function.update f j a k = Function.update g j b k := by
  by_cases here : k = j
  · subst here
    simpa using same other
  · simpa [Function.update_of_ne here] using agree k other

theorem AgreeBeside.markClose (agree : AgreeBeside ctx v w) (other : SessionTraceContext) :
    AgreeBeside ctx (v.markClose other) (w.markClose other) := by
  refine ⟨agree.sessions,?_,?_,agree.domainPaths⟩
  · exact agree_update agree.sessionHandles other.key fun apart => by rw [agree.sessionHandles _ apart]
  · intro k apart
    simp only [TrackerView.markClose,agree.cloneHandles k apart]

theorem AgreeBeside.forgetSession (agree : AgreeBeside ctx v w) (sessionId : SessionId) :
    AgreeBeside ctx (v.forgetSession sessionId) (w.forgetSession sessionId) := by
  refine ⟨?_,?_,?_,?_⟩
  · simp only [TrackerView.forgetSession,agree.sessions]
  · intro k apart
    simp only [TrackerView.forgetSession,agree.sessionHandles k apart]
  · intro k apart
    simp only [TrackerView.forgetSession,agree.cloneHandles k apart]
  · simp only [TrackerView.forgetSession,agree.domainPaths]

/-- Whether another session survives a close does not depend on the clone. -/
theorem AgreeBeside.survives_iff (agree : AgreeBeside ctx v w) {other : SessionTraceContext}
    (apart : other.sessionId ≠ ctx.sessionId) : v.Survives other ↔ w.Survives other := by
  have same : ∀ k : SessionId × NativeHandle, k.1 = other.sessionId → v.sessionHandles k = w.sessionHandles k := by
    rintro k session
    apply agree.sessionHandles
    rintro rfl
    exact apart session.symm
  constructor
  · rintro ⟨k,e,found,different,session,isOpen⟩
    exact ⟨k,e,same k session ▸ found,different,session,isOpen⟩
  · rintro ⟨k,e,found,different,session,isOpen⟩
    exact ⟨k,e,same k session ▸ found,different,session,isOpen⟩

/-- The open server handle of a registered clone keeps its session from ending. -/
theorem Registered.survives (registered : w.Registered ctx) {other : SessionTraceContext} (apart : other.key ≠ ctx.key)
    (session : other.sessionId = ctx.sessionId) : w.Survives other :=
  ⟨ctx.key,_,registered.handle,apart.symm,session.symm,rfl⟩

theorem AgreeBeside.logClose (agree : AgreeBeside ctx v w) (registered : w.Registered ctx)
    {other : SessionTraceContext} (apart : other.key ≠ ctx.key)
    (survives : other.sessionId = ctx.sessionId → v.Survives other) :
    AgreeBeside ctx (v.logClose other) (w.logClose other) := by
  have together : v.Survives other ↔ w.Survives other := by
    by_cases session : other.sessionId = ctx.sessionId
    · exact iff_of_true (survives session) (registered.survives apart session)
    · exact agree.survives_iff session
  by_cases stays : w.Survives other
  · simpa [TrackerView.logClose,together,stays] using agree.markClose other
  · simpa [TrackerView.logClose,together,stays] using (agree.markClose other).forgetSession other.sessionId

theorem AgreeBeside.logSessionTrace (agree : AgreeBeside ctx v w) (registered : w.Registered ctx)
    {other : SessionTraceContext} (apart : (TrackerEvent.sessionTrace other).OtherThan ctx)
    (survives : other.eventType = .close → other.sessionId = ctx.sessionId → v.Survives other) :
    AgreeBeside ctx (v.logSessionTrace other) (w.logSessionTrace other) := by
  cases kind : other.eventType
  case accepted =>
    simp only [TrackerView.logSessionTrace,kind]
    exact { agree with sessionHandles := agree_update agree.sessionHandles other.key fun _ => rfl }
  case cloneRegistered =>
    simp only [TrackerView.logSessionTrace,kind]
    refine { agree with sessionHandles := agree_update agree.sessionHandles other.key fun _ => rfl, cloneHandles := ?_ }
    refine agree_update agree.cloneHandles other.cloneKey fun different => ?_
    have found : v.cloneHandles (other.sessionId,other.peerHandle) =
        w.cloneHandles (other.sessionId,other.peerHandle) := agree.cloneHandles other.cloneKey different
    simp only [TrackerView.rememberSessionHandle,found]
  case close =>
    simp only [TrackerView.logSessionTrace,kind]
    exact agree.logClose registered apart.1 (survives kind)
  all_goals simpa [TrackerView.logSessionTrace,kind] using agree

theorem AgreeBeside.process (agree : AgreeBeside ctx v w) (registered : w.Registered ctx) {e : TrackerEvent}
    (apart : e.OtherThan ctx) (survives : ¬v.EndsSession ctx.sessionId e) :
    AgreeBeside ctx (v.process e) (w.process e) := by
  cases e with
  | sessionConnected serviceName sessionId clientInfo =>
    exact { agree with sessions := congrArg (Function.update · sessionId _) agree.sessions }
  | sessionTrace other =>
    refine agree.logSessionTrace registered apart fun close session => ?_
    by_contra ends
    exact survives ⟨close,session,ends⟩
  | managerRequestEnd sessionId moveHandle commandId =>
    have found := agree.cloneHandles (sessionId,moveHandle) apart
    refine { agree with cloneHandles := agree_update agree.cloneHandles (sessionId,moveHandle) fun _ => ?_ }
    rw [found]
  | rememberDomainPath sessionId objectId relativePath parentObjectId creatorCommandId =>
    simp only [TrackerView.process,TrackerView.rememberDomainPath]
    split
    next => exact agree
    next => exact { agree with domainPaths := by rw [agree.domainPaths] }
  | markDomainPathCloseObserved sessionId objectId =>
    simp only [TrackerView.process,TrackerView.markDomainPathCloseObserved]
    split
    next => exact agree
    next => exact { agree with domainPaths := by rw [agree.domainPaths] }

/-- A close of another handle reaches the clone at most through the server handle of an old registration. -/
structure Unrelated (ctx : SessionTraceContext) (v after : TrackerView) : Prop where
  handle : after.sessionHandles ctx.key = v.sessionHandles ctx.key
  clone : after.cloneHandles ctx.cloneKey = v.cloneHandles ctx.cloneKey ∨
    ∃ server, server ≠ ctx.sessionHandle ∧ after.cloneHandles ctx.cloneKey = (v.cloneHandles ctx.cloneKey).map fun e =>
      if e.serverHandle = server then { e with closeObserved := true } else e

theorem unrelated_rfl : Unrelated ctx v v := ⟨rfl,.inl rfl⟩

theorem unrelated_markClose {other : SessionTraceContext} (apart : other.key ≠ ctx.key) :
    Unrelated ctx v (v.markClose other) := by
  refine ⟨Function.update_of_ne apart.symm ..,?_⟩
  by_cases session : ctx.sessionId = other.sessionId
  · have server : other.sessionHandle ≠ ctx.sessionHandle := fun same => apart (Prod.ext session.symm same)
    refine .inr ⟨other.sessionHandle,server,?_⟩
    simp [TrackerView.markClose,SessionTraceContext.cloneKey,session]
  · left
    simp [TrackerView.markClose,SessionTraceContext.cloneKey,session]

theorem unrelated_logClose {other : SessionTraceContext} (apart : other.key ≠ ctx.key)
    (survives : other.sessionId = ctx.sessionId → v.Survives other) : Unrelated ctx v (v.logClose other) := by
  have marked := unrelated_markClose (v := v) apart
  unfold TrackerView.logClose
  split
  next => exact marked
  next ends =>
    have session : ctx.sessionId ≠ other.sessionId := fun same => ends (survives same.symm)
    have kept : ((v.markClose other).forgetSession other.sessionId).sessionHandles ctx.key =
        (v.markClose other).sessionHandles ctx.key := if_neg session
    have clone : ((v.markClose other).forgetSession other.sessionId).cloneHandles ctx.cloneKey =
        (v.markClose other).cloneHandles ctx.cloneKey := if_neg session
    exact ⟨kept.trans marked.handle,clone ▸ marked.clone⟩

theorem unrelated_process {e : TrackerEvent} (apart : e.OtherThan ctx) (survives : ¬v.EndsSession ctx.sessionId e) :
    Unrelated ctx v (v.process e) := by
  cases e with
  | sessionConnected => exact ⟨rfl,.inl rfl⟩
  | sessionTrace other =>
    simp only [TrackerView.process]
    cases kind : other.eventType
    case accepted =>
      simp only [TrackerView.logSessionTrace,kind]
      exact ⟨Function.update_of_ne apart.1.symm ..,.inl rfl⟩
    case cloneRegistered =>
      simp only [TrackerView.logSessionTrace,kind]
      exact ⟨Function.update_of_ne apart.1.symm ..,.inl (Function.update_of_ne (apart.2 kind).symm ..)⟩
    case close =>
      simp only [TrackerView.logSessionTrace,kind]
      refine unrelated_logClose apart.1 fun session => ?_
      by_contra ends
      exact survives ⟨kind,session,ends⟩
    all_goals simpa only [TrackerView.logSessionTrace,kind] using unrelated_rfl
  | managerRequestEnd => exact ⟨rfl,.inl (Function.update_of_ne apart.symm ..)⟩
  | rememberDomainPath =>
    simp only [TrackerView.process,TrackerView.rememberDomainPath]
    split <;> exact ⟨rfl,.inl rfl⟩
  | markDomainPathCloseObserved =>
    simp only [TrackerView.process,TrackerView.markDomainPathCloseObserved]
    split <;> exact ⟨rfl,.inl rfl⟩

theorem Requested.unrelated {after : TrackerView} (requested : v.Requested ctx commandId)
    (unrelated : Unrelated ctx v after) : after.Requested ctx commandId := by
  obtain ⟨server,forward,hasForward,registered,closed,found⟩ := requested
  rcases unrelated.clone with same | ⟨closing,_,marked⟩
  · exact ⟨server,forward,hasForward,registered,closed,same.trans found⟩
  · rw [found,Option.map_some] at marked
    by_cases hit : server = closing
    · exact ⟨server,forward,hasForward,registered,true,by simpa [hit] using marked⟩
    · exact ⟨server,forward,hasForward,registered,closed,by simpa [hit] using marked⟩

/-- The handle of the registration is its own, so no other close reaches the clone. -/
theorem Registered.unrelated {after : TrackerView} (registered : v.Registered ctx) (unrelated : Unrelated ctx v after) :
    after.Registered ctx := by
  refine ⟨unrelated.handle.trans registered.handle,?_⟩
  obtain ⟨commandId,found⟩ := registered.clone
  rcases unrelated.clone with same | ⟨closing,different,marked⟩
  · exact ⟨commandId,same.trans found⟩
  · rw [found,Option.map_some,if_neg different.symm] at marked
    exact ⟨commandId,marked⟩

/-- The two orders before the second event of the clone. -/
structure Pending (ctx : SessionTraceContext) (commandId : Nat) (v w : TrackerView) : Prop where
  agree : AgreeBeside ctx v w
  requested : v.Requested ctx commandId
  registered : w.Registered ctx

theorem Pending.process (pending : Pending ctx commandId v w) {e : TrackerEvent} (apart : e.OtherThan ctx)
    (survives : ¬v.EndsSession ctx.sessionId e) : Pending ctx commandId (v.process e) (w.process e) := by
  have stays : ¬w.EndsSession ctx.sessionId e := by
    cases e with
    | sessionTrace other =>
      rintro ⟨_,session,ends⟩
      exact ends (pending.registered.survives apart.1 session)
    | _ => exact id
  exact ⟨pending.agree.process pending.registered apart survives,
    pending.requested.unrelated (unrelated_process apart survives),
    pending.registered.unrelated (unrelated_process apart stays)⟩

theorem Pending.run {between : List TrackerEvent} (pending : Pending ctx commandId v w)
    (apart : ∀ e ∈ between, e.OtherThan ctx)
    (survives : Guarded TrackerView.process (fun v e => ¬v.EndsSession ctx.sessionId e) v between) :
    Pending ctx commandId (between.foldl TrackerView.process v) (between.foldl TrackerView.process w) := by
  induction between generalizing v w with
  | nil => exact pending
  | cons e rest ih =>
    have first := pending.process (apart e List.mem_cons_self) survives.1
    exact ih first (fun e member => apart e (List.mem_cons_of_mem _ member)) survives.2

def KeyedClone (ctx : SessionTraceContext) (v : TrackerView) : Prop :=
  ∀ e, v.cloneHandles ctx.cloneKey = some e → e.key = ctx.cloneKey ∧ e.createdTsNs = 0 ∧ e.closeSeenTsNs = 0

theorem pending_of_first (keyed : v.KeyedClone ctx) (kind : ctx.eventType = .cloneRegistered) (commandId : Nat) :
    Pending ctx commandId (v.process (.managerRequestEnd ctx.sessionId ctx.peerHandle commandId))
      (v.process (.sessionTrace ctx)) := by
  simp only [TrackerView.process,TrackerView.logSessionTrace,kind]
  refine ⟨⟨rfl,fun k apart => ?_,fun k apart => ?_,rfl⟩,?_,?_,?_⟩
  · exact (Function.update_of_ne apart ..).symm
  · exact (Function.update_of_ne apart ..).trans (Function.update_of_ne apart ..).symm
  · unfold Requested
    simp only [TrackerView.rememberCloneHandle,SessionTraceContext.cloneKey,Function.update_self,Option.some.injEq]
    cases known : v.cloneHandles (ctx.sessionId,ctx.peerHandle) with
    | none => exact ⟨-1,-1,false,false,false,rfl⟩
    | some e =>
      obtain ⟨key,created,seen⟩ := keyed e known
      obtain ⟨session,handle⟩ := Prod.mk.inj key
      refine ⟨e.serverHandle,e.forwardHandle,e.hasForwardHandle,e.cloneRegistered,false,?_⟩
      simp [session,handle,created,seen]
  · exact Function.update_self ..
  · exact ⟨_,Function.update_self ..⟩

/-- The second event of the clone closes the gap. -/
theorem Pending.close (pending : Pending ctx commandId v w) (kind : ctx.eventType = .cloneRegistered) :
    v.process (.sessionTrace ctx) = w.process (.managerRequestEnd ctx.sessionId ctx.peerHandle commandId) := by
  obtain ⟨agree,⟨server,forward,hasForward,registered,closed,requested⟩,⟨handle,_,clone⟩⟩ := pending
  simp only [TrackerView.process,TrackerView.logSessionTrace,kind]
  refine TrackerView.ext agree.sessions (funext fun k => ?_) (funext fun k => ?_) agree.domainPaths
  · by_cases here : k = ctx.key
    · subst here
      exact (Function.update_self ..).trans handle.symm
    · exact (Function.update_of_ne here ..).trans (agree.sessionHandles k here)
  · by_cases here : k = ctx.cloneKey
    · subst here
      simp only [SessionTraceContext.cloneKey] at requested clone ⊢
      simp [TrackerView.noteCloneRegistered,TrackerView.rememberSessionHandle,TrackerView.rememberCloneHandle,
        requested,clone]
    · exact (Function.update_of_ne here ..).trans
        ((agree.cloneHandles k here).trans (Function.update_of_ne here ..).symm)

end TrackerView

namespace Tracker

def EndsSession (t : Tracker) (sessionId : SessionId) (e : TimedEvent) : Prop :=
  match e.2 with
  | .sessionTrace ctx => ctx.eventType = .close ∧ ctx.sessionId = sessionId ∧ activeAfterClose e.1 ctx t = 0
  | _ => False

instance (t : Tracker) (sessionId : SessionId) (e : TimedEvent) : Decidable (t.EndsSession sessionId e) := by
  unfold EndsSession
  split <;> infer_instance

/-- The same entries up to the order of the slots and the times, and the same counts in every session. -/
structure Alike (t u : Tracker) : Prop where
  sessions : t.sessions.entries.Perm u.sessions.entries
  sessionHandles : (t.sessionHandles.entries.map SessionHandleEntry.untimed).Perm
    (u.sessionHandles.entries.map SessionHandleEntry.untimed)
  cloneHandles : (t.cloneHandles.entries.map CloneHandleEntry.untimed).Perm
    (u.cloneHandles.entries.map CloneHandleEntry.untimed)
  domainPaths : (t.domainPaths.entries.map DomainPathEntry.untimed).Perm
    (u.domainPaths.entries.map DomainPathEntry.untimed)
  openClones : ∀ sessionId,
    t.countTrackedCloneHandlesForSession sessionId = u.countTrackedCloneHandlesForSession sessionId
  openHandles : ∀ sessionId activeOnly, t.countTrackedSessionHandlesForSession sessionId activeOnly =
    u.countTrackedSessionHandlesForSession sessionId activeOnly

/-- A count that does not look at what `g` removes. -/
theorem count_eq_of_perm {t u : Table α n} {g : α → α} {p : α → Bool}
    (reordered : (t.entries.map g).Perm (u.entries.map g)) (same : ∀ a, p (g a) = p a) : t.count p = u.count p := by
  have counted := reordered.countP_eq p
  simpa [Table.count,List.countP_map,Function.comp_def,same] using counted

theorem alike_of_view {t u : Tracker} (unique : t.KeysUnique) (otherUnique : u.KeysUnique) (same : t.view = u.view) :
    t.Alike u := by
  have sessions : (t.sessions.entries.map id).Perm (u.sessions.entries.map id) := by
    apply Table.perm_of_lookup unique.sessions otherUnique.sessions
    · exact fun _ => rfl
    · exact fun k => congrArg _ (congrFun (congrArg TrackerView.sessions same) k)
  have sessionHandles : (t.sessionHandles.entries.map SessionHandleEntry.untimed).Perm
      (u.sessionHandles.entries.map SessionHandleEntry.untimed) := by
    apply Table.perm_of_lookup unique.sessionHandles otherUnique.sessionHandles
    · exact fun _ => rfl
    · exact congrFun (congrArg TrackerView.sessionHandles same)
  have cloneHandles : (t.cloneHandles.entries.map CloneHandleEntry.untimed).Perm
      (u.cloneHandles.entries.map CloneHandleEntry.untimed) := by
    apply Table.perm_of_lookup unique.cloneHandles otherUnique.cloneHandles
    · exact fun _ => rfl
    · exact congrFun (congrArg TrackerView.cloneHandles same)
  have domainPaths : (t.domainPaths.entries.map DomainPathEntry.untimed).Perm
      (u.domainPaths.entries.map DomainPathEntry.untimed) := by
    apply Table.perm_of_lookup unique.domainPaths otherUnique.domainPaths
    · exact fun _ => rfl
    · exact congrFun (congrArg TrackerView.domainPaths same)
  rw [List.map_id,List.map_id] at sessions
  refine ⟨sessions,sessionHandles,cloneHandles,domainPaths,fun sessionId => ?_,fun sessionId activeOnly => ?_⟩
  · exact count_eq_of_perm cloneHandles fun _ => rfl
  · exact count_eq_of_perm sessionHandles fun _ => rfl

theorem keyedClone_view (t : Tracker) (ctx : SessionTraceContext) : t.view.KeyedClone ctx := by
  intro e found
  obtain ⟨old,held,rfl⟩ := Option.map_eq_some_iff.mp found
  have keyed : old.key = ctx.cloneKey := Table.key_of_lookup held
  exact ⟨keyed,rfl,rfl⟩

theorem endsSession_view {t : Tracker} (unique : t.KeysUnique) (sessionId : SessionId) (e : TimedEvent) :
    t.view.EndsSession sessionId e.2 ↔ t.EndsSession sessionId e := by
  obtain ⟨now,event⟩ := e
  cases event with
  | sessionTrace ctx =>
    simp only [TrackerView.EndsSession,EndsSession,← activeAfterClose_ne_zero_iff unique now ctx,not_not]
  | _ => rfl

/-- A run on the tables is the run of its events on the maps, at whatever times they come. -/
theorem view_run {t : Tracker} (unique : t.KeysUnique) {events : List TimedEvent}
    (admitted : Guarded process Admits t events) :
    (events.foldl process t).view = (events.map Prod.snd).foldl TrackerView.process t.view := by
  have simulated : Guarded TrackerView.process (fun _ _ => True) t.view (events.map Prod.snd) ∧ _ :=
    Guarded.simulated KeysUnique (fun _ e unique _ => unique.process e)
      (fun _ e unique admitted => view_process unique e admitted) (fun _ _ _ _ => trivial) admitted unique
  exact simulated.2

/-- A run that keeps the session keeps it on the maps. -/
theorem survives_run {t : Tracker} (unique : t.KeysUnique) {sessionId : SessionId} {events : List TimedEvent}
    (admitted : Guarded process Admits t events)
    (survives : Guarded process (fun t e => ¬t.EndsSession sessionId e) t events) :
    Guarded TrackerView.process (fun v e => ¬v.EndsSession sessionId e) t.view (events.map Prod.snd) := by
  have simulated : Guarded TrackerView.process (fun v e => ¬v.EndsSession sessionId e) t.view
      (events.map Prod.snd) ∧ _ :=
    Guarded.simulated KeysUnique (fun _ e unique _ => unique.process e)
      (fun _ e unique guarded => view_process unique e guarded.1)
      (fun _ e unique guarded => (endsSession_view unique sessionId e).not.mpr guarded.2) (admitted.and survives) unique
  exact simulated.1

end Tracker

section Orders

variable (ctx : SessionTraceContext) (commandId : Nat)

def requestFirst (requested : Nat) (between : List TimedEvent) (registered : Nat) : List TimedEvent :=
  (requested,.managerRequestEnd ctx.sessionId ctx.peerHandle commandId) :: between ++ [(registered,.sessionTrace ctx)]

def registrationFirst (registered : Nat) (between : List TimedEvent) (requested : Nat) : List TimedEvent :=
  (registered,.sessionTrace ctx) :: between ++ [(requested,.managerRequestEnd ctx.sessionId ctx.peerHandle commandId)]

end Orders

/-- Both orders lead to the same entries and counts, with the same events of others between the two at
whatever times, if none of these is the final close of the clone's session. -/
theorem cloneEvents_commute {t : Tracker} (unique : t.KeysUnique) {ctx : SessionTraceContext}
    (kind : ctx.eventType = .cloneRegistered) (commandId : Nat) {first second : List TimedEvent}
    (same : first.map Prod.snd = second.map Prod.snd) (apart : ∀ e ∈ first, e.2.OtherThan ctx)
    {requested₁ registered₁ requested₂ registered₂ : Nat}
    (admitted₁ : Guarded Tracker.process Tracker.Admits t (requestFirst ctx commandId requested₁ first registered₁))
    (admitted₂ : Guarded Tracker.process Tracker.Admits t
      (registrationFirst ctx commandId registered₂ second requested₂))
    (survives : Guarded Tracker.process (fun t e => ¬t.EndsSession ctx.sessionId e) t
      (requestFirst ctx commandId requested₁ first registered₁)) :
    Tracker.Alike ((requestFirst ctx commandId requested₁ first registered₁).foldl Tracker.process t)
      ((registrationFirst ctx commandId registered₂ second requested₂).foldl Tracker.process t) := by
  apply Tracker.alike_of_view (unique.processAll _) (unique.processAll _)
  rw [Tracker.view_run unique admitted₁,Tracker.view_run unique admitted₂]
  have kept := Tracker.survives_run unique admitted₁ survives
  simp only [requestFirst,registrationFirst,List.cons_append,List.map_cons,List.map_append,List.map_nil,List.foldl_cons,
    List.foldl_append,List.foldl_nil,← same] at kept ⊢
  have pending := TrackerView.pending_of_first (Tracker.keyedClone_view t ctx) kind commandId
  have others : ∀ e ∈ first.map Prod.snd, e.OtherThan ctx := by
    intro e member
    obtain ⟨timed,inside,rfl⟩ := List.mem_map.mp member
    exact apart timed inside
  exact (pending.run others (Guarded.before kept.2)).close kind

def traceOf (eventType : SessionTraceEventType) (sessionHandle peerHandle : NativeHandle) : SessionTraceContext :=
  ⟨eventType,"bsd:u".toList,⟨80,81⟩,1,sessionHandle,peerHandle,false,0⟩

/-- Session 1 has the handles 1 and 2, the second of a clone, and a clone request that is pending under 13. -/
def twoHandles : Tracker :=
  [(1,.sessionConnected "bsd:u".toList 1 ⟨80,81⟩),(2,.sessionTrace (traceOf .accepted 1 10)),
    (3,.sessionTrace (traceOf .cloneRegistered 2 11)),(4,.managerRequestEnd 1 13 2)].foldl Tracker.process .reset

theorem twoHandles_unique : twoHandles.KeysUnique := Tracker.keysUnique_reset.processAll _

/-- The other clone is closed between the two events, and handle 1 keeps the session. -/
theorem cloneEvents_commute_closed : Tracker.Alike
    ((requestFirst (traceOf .cloneRegistered 3 12) 2 5 [(6,.sessionTrace (traceOf .close 2 0))] 7).foldl Tracker.process
      twoHandles)
    ((registrationFirst (traceOf .cloneRegistered 3 12) 2 5 [(8,.sessionTrace (traceOf .close 2 0))] 9).foldl
      Tracker.process twoHandles) := by
  apply cloneEvents_commute twoHandles_unique
  · rfl
  · rfl
  · decide
  · decide
  · decide
  · decide

/-- An event of another session, or of a clone of the session that is not the one that `ctx` registers: its request,
its registration or a trace of the server handle that the tracker has for it. -/
def Tracker.OfOthers (t : Tracker) (ctx : SessionTraceContext) : TrackerEvent → Prop
  | .sessionTrace other => other.key ≠ ctx.key ∧ (other.sessionId ≠ ctx.sessionId ∨
      (other.eventType = .cloneRegistered ∧ other.peerHandle ≠ ctx.peerHandle) ∨
      ∃ e ∈ t.cloneHandles.entries, e.sessionId = ctx.sessionId ∧ e.handle ≠ ctx.peerHandle ∧
        e.serverHandle = other.sessionHandle)
  | .managerRequestEnd sessionId moveHandle _ => (sessionId,moveHandle) ≠ ctx.cloneKey
  | .sessionConnected _ sessionId _ | .rememberDomainPath sessionId _ _ _ _ | .markDomainPathCloseObserved sessionId _ =>
    sessionId ≠ ctx.sessionId

/-- Handle 1 is closed already, and only clone 11 keeps the session. -/
def cloneLeft : Tracker := twoHandles.process (5,.sessionTrace (traceOf .close 1 0))

/-- Clone 11 is closed between the two events. In one order that is the end of the session, which takes the clone that
is pending with it. -/
theorem cloneEvents_differ : ¬∀ t : Tracker, t.KeysUnique → ∀ ctx : SessionTraceContext,
    ctx.eventType = .cloneRegistered → ∀ (commandId : Nat) (first second : List TimedEvent),
    first.map Prod.snd = second.map Prod.snd → (∀ e ∈ first, t.OfOthers ctx e.2) →
    ∀ requested₁ registered₁ requested₂ registered₂ : Nat,
    Guarded Tracker.process Tracker.Admits t (requestFirst ctx commandId requested₁ first registered₁) →
    Guarded Tracker.process Tracker.Admits t (registrationFirst ctx commandId registered₂ second requested₂) →
    Tracker.Alike ((requestFirst ctx commandId requested₁ first registered₁).foldl Tracker.process t)
      ((registrationFirst ctx commandId registered₂ second requested₂).foldl Tracker.process t) := by
  intro holds
  have other : cloneLeft.OfOthers (traceOf .cloneRegistered 3 12) (.sessionTrace (traceOf .close 2 0)) :=
    ⟨by decide,.inr (.inr (by decide))⟩
  have alike := holds cloneLeft (twoHandles_unique.processAll [_]) (traceOf .cloneRegistered 3 12) rfl 2
    [(7,.sessionTrace (traceOf .close 2 0))] [(7,.sessionTrace (traceOf .close 2 0))] rfl
    (List.forall_mem_singleton.mpr other) 6 8 8 6 (by decide) (by decide)
  exact absurd (alike.openClones 1) (by decide)

/-- Clone 11 was closed, and handle 2 belongs to clone 12 now. A new request for 11 leaves 2 in its entry, so that
a close of 2 finds both open and takes the first: that is the choice `ClosesOne` excludes. -/
def reusedHandle : Tracker :=
  [(1,.sessionTrace (traceOf .accepted 1 10)),(2,.sessionTrace (traceOf .cloneRegistered 2 11)),
    (3,.sessionTrace (traceOf .close 2 0)),(4,.sessionTrace (traceOf .cloneRegistered 2 12))].foldl
    Tracker.process .reset

example :
    ((requestFirst (traceOf .cloneRegistered 3 11) 2 5 [(6,.sessionTrace (traceOf .close 2 0))] 7).foldl Tracker.process
      reusedHandle).countTrackedCloneHandlesForSession 1 = 2 ∧
    ((registrationFirst (traceOf .cloneRegistered 3 11) 2 5 [(6,.sessionTrace (traceOf .close 2 0))] 7).foldl
      Tracker.process reusedHandle).countTrackedCloneHandlesForSession 1 = 1 := by decide

end NxReverse.Probe
