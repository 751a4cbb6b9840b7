import NxReverse.Probe.TableKeys

/-! What the end of a session and its eviction leave behind in the four tables. Both search the
session table for one entry, so an id that two of its entries hold would outlive them. -/
namespace NxReverse.Probe

open Slots Text

namespace Tracker

structure Untracked (t : Tracker) (sessionId : SessionId) : Prop where
  sessions : ∀ e ∈ t.sessions.entries, e.sessionId ≠ sessionId
  sessionHandles : ∀ e ∈ t.sessionHandles.entries, e.sessionId ≠ sessionId
  cloneHandles : ∀ e ∈ t.cloneHandles.entries, e.sessionId ≠ sessionId
  domainPaths : ∀ e ∈ t.domainPaths.entries, e.sessionId ≠ sessionId

/-- Every entry of another session is in the slot that it was in, and none is new but `stored`. -/
structure OthersKept (before after : Tracker) (sessionId : SessionId) (stored : Option SessionEntry) : Prop where
  sessions : Table.SameSlots (fun e => e.sessionId ≠ sessionId ∧ some e ≠ stored) before.sessions after.sessions
  sessionHandles : Table.SameSlots (fun e => e.sessionId ≠ sessionId) before.sessionHandles after.sessionHandles
  cloneHandles : Table.SameSlots (fun e => e.sessionId ≠ sessionId) before.cloneHandles after.cloneHandles
  domainPaths : Table.SameSlots (fun e => e.sessionId ≠ sessionId) before.domainPaths after.domainPaths

/-- The session is cleared from all tables and nothing else is. -/
structure Forgets (before after : Tracker) (sessionId : SessionId) (stored : Option SessionEntry) : Prop where
  complete : after.Untracked sessionId
  framed : before.OthersKept after sessionId stored

def sessionEntries (t : Tracker) (sessionId : SessionId) : Nat := t.sessions.count fun e => e.sessionId == sessionId

section Calls

variable (t : Tracker) (sessionId : SessionId)

def forgetEntries : Tracker :=
  ((t.forgetDomainPathsForSession sessionId).forgetSessionHandlesForSession sessionId).forgetCloneHandlesForSession
    sessionId

theorem mem_erase_session {session : α → SessionId} (table : Table α n) :
    ∀ e ∈ (table.erase fun e => session e == sessionId).entries, session e ≠ sessionId := by
  intro e member
  rw [Table.entries_erase,List.mem_filter] at member
  simpa using member.2

/-- They are cleared whatever they hold. -/
theorem untracked_iff (sessions : Table SessionEntry maxTrackedSessions) :
    ({ t.forgetEntries sessionId with sessions } : Tracker).Untracked sessionId ↔
      sessions.count (fun e => e.sessionId == sessionId) = 0 := by
  rw [Table.count_eq_zero_iff]
  constructor
  · intro untracked e member
    exact beq_eq_false_iff_ne.mpr (untracked.sessions e member)
  · intro gone
    refine ⟨fun e member => beq_eq_false_iff_ne.mp (gone e member),?_,?_,?_⟩
    · exact mem_erase_session sessionId t.sessionHandles
    · exact mem_erase_session sessionId t.cloneHandles
    · exact mem_erase_session sessionId t.domainPaths

theorem othersKept_of_sessions {sessions : Table SessionEntry maxTrackedSessions} {stored : Option SessionEntry}
    (kept : Table.SameSlots (fun e => e.sessionId ≠ sessionId ∧ some e ≠ stored) t.sessions sessions) :
    t.OthersKept { t.forgetEntries sessionId with sessions } sessionId stored := by
  refine ⟨kept,?_,?_,?_⟩
  · exact Table.sameSlots_erase t.sessionHandles fun e other => beq_eq_false_iff_ne.mpr other
  · exact Table.sameSlots_erase t.cloneHandles fun e other => beq_eq_false_iff_ne.mpr other
  · exact Table.sameSlots_erase t.domainPaths fun e other => beq_eq_false_iff_ne.mpr other

theorem forgetSession_tables : (t.forgetSession sessionId).1 =
    { t.forgetEntries sessionId with sessions := t.sessions.release fun e => e.sessionId == sessionId } := rfl

theorem forgetSession_forgets_iff :
    t.Forgets (t.forgetSession sessionId).1 sessionId none ↔ t.sessionEntries sessionId ≤ 1 := by
  have released := t.sessions.count_release fun e => e.sessionId == sessionId
  have complete := t.untracked_iff sessionId (t.sessions.release fun e => e.sessionId == sessionId)
  have framed := Table.sameSlots_release t.sessions fun (e : SessionEntry)
    (other : e.sessionId ≠ sessionId ∧ some e ≠ none) => beq_eq_false_iff_ne.mpr other.1
  rw [forgetSession_tables]
  constructor
  · intro forgets
    have none := complete.mp forgets.complete
    rw [released] at none
    exact Nat.sub_eq_zero_iff_le.mp none
  · intro single
    refine ⟨complete.mpr ?_,t.othersKept_of_sessions sessionId framed⟩
    rw [released]
    exact Nat.sub_eq_zero_iff_le.mpr single

variable (serviceName : CString) (clientInfo : MitmProcessInfo)

/-- A new session takes slot 0 of a full table. -/
theorem rememberSession_tables {evicted : SessionEntry} (new : t.findSessionEntry sessionId = none)
    (full : t.sessions.victim = some evicted) : (t.rememberSession serviceName sessionId clientInfo).1 =
      { t.forgetEntries evicted.sessionId with sessions := t.sessions.place ⟨serviceName,clientInfo,sessionId⟩ } := by
  unfold rememberSession
  dsimp only
  rw [new,full]
  rfl

theorem count_place_full {evicted : SessionEntry} (full : t.sessions.victim = some evicted) (entry : SessionEntry)
    (other : entry.sessionId ≠ evicted.sessionId) :
    (t.sessions.place entry).count (fun e => e.sessionId == evicted.sessionId) =
      t.sessionEntries evicted.sessionId - 1 := by
  have noFree := Table.full_of_victim full
  obtain ⟨lost,rest,victim,before,after⟩ := Table.entries_place_full (by decide) noFree entry
  obtain rfl := Option.some.inj (full.symm.trans victim)
  rw [sessionEntries,Table.count,Table.count,before,after]
  simp [other]

theorem rememberSession_forgets_iff {evicted : SessionEntry} (new : t.findSessionEntry sessionId = none)
    (full : t.sessions.victim = some evicted) :
    t.Forgets (t.rememberSession serviceName sessionId clientInfo).1 evicted.sessionId
      (some ⟨serviceName,clientInfo,sessionId⟩) ↔ t.sessionEntries evicted.sessionId ≤ 1 := by
  have noFree := Table.full_of_victim full
  have other : sessionId ≠ evicted.sessionId := by
    obtain ⟨lost,rest,victim,before,_⟩ := Table.entries_place_full (by decide) noFree evicted
    obtain rfl := Option.some.inj (full.symm.trans victim)
    have missed := Table.find?_eq_none_iff.mp new evicted (by simp [before])
    exact (beq_eq_false_iff_ne.mp missed).symm
  have left := t.count_place_full full ⟨serviceName,clientInfo,sessionId⟩ other
  have complete := t.untracked_iff evicted.sessionId (t.sessions.place ⟨serviceName,clientInfo,sessionId⟩)
  have framed : Table.SameSlots (fun e => e.sessionId ≠ evicted.sessionId ∧
      some e ≠ some ⟨serviceName,clientInfo,sessionId⟩) t.sessions (t.sessions.place ⟨serviceName,clientInfo,sessionId⟩) := by
    apply Table.sameSlots_place_full noFree
    · rintro b victim ⟨different,_⟩
      obtain rfl := Option.some.inj (full.symm.trans victim)
      exact different rfl
    · exact fun kept => kept.2 rfl
  rw [t.rememberSession_tables sessionId serviceName clientInfo new full]
  constructor
  · intro forgets
    have none := complete.mp forgets.complete
    rw [left] at none
    exact Nat.sub_eq_zero_iff_le.mp none
  · intro single
    refine ⟨complete.mpr ?_,t.othersKept_of_sessions evicted.sessionId framed⟩
    rw [left]
    exact Nat.sub_eq_zero_iff_le.mpr single

end Calls

theorem KeysUnique.sessionEntries_le {t : Tracker} (unique : t.KeysUnique) (sessionId : SessionId) :
    t.sessionEntries sessionId ≤ 1 := Table.Unique.count_le_one unique.sessions sessionId

end Tracker

/-- The end of a session and its eviction clear that session and no other exactly if one session
entry holds its id, as in every state that calls of the tracker reach. -/
theorem sessions_forgotten :
    (∀ (t : Tracker) (sessionId : SessionId),
      (t.Forgets (t.forgetSession sessionId).1 sessionId none ↔ t.sessionEntries sessionId ≤ 1) ∧
        (t.forgetSession sessionId).2.2 = (t.forgetSession sessionId).1.sessions.entries.length) ∧
    (∀ (t : Tracker) (serviceName : CString) (sessionId : SessionId) (clientInfo : MitmProcessInfo)
        (evicted : SessionEntry), t.findSessionEntry sessionId = none → t.sessions.victim = some evicted →
      (t.Forgets (t.rememberSession serviceName sessionId clientInfo).1 evicted.sessionId
          (some ⟨serviceName,clientInfo,sessionId⟩) ↔ t.sessionEntries evicted.sessionId ≤ 1) ∧
        (t.rememberSession serviceName sessionId clientInfo).2 =
          (t.rememberSession serviceName sessionId clientInfo).1.sessions.entries.length) ∧
    ∀ (ops : List TrackerOp) (sessionId : SessionId), (ops.foldl Tracker.apply .reset).sessionEntries sessionId ≤ 1 := by
  refine ⟨fun t sessionId => ⟨t.forgetSession_forgets_iff sessionId,?_⟩,?_,?_⟩
  · exact congrFun List.countP_true _
  · intro t serviceName sessionId clientInfo evicted new full
    refine ⟨t.rememberSession_forgets_iff sessionId serviceName clientInfo new full,?_⟩
    exact congrFun List.countP_true _
  · intro ops sessionId
    exact (Tracker.keysUnique_reset.run ops).sessionEntries_le sessionId

/-- One session in two slots, which no call of the tracker leaves behind. -/
def doubledSession : Tracker :=
  let entry : SessionEntry := ⟨"bsd:u".toList,⟨0,0⟩,1⟩
  { Tracker.reset with sessions := ⟨some entry :: some entry :: List.replicate 62 none,rfl⟩ }

theorem sessions_not_forgotten :
    ¬∀ (t : Tracker) (sessionId : SessionId), t.Forgets (t.forgetSession sessionId).1 sessionId none := by
  intro forgotten
  have single := (doubledSession.forgetSession_forgets_iff 1).mp (forgotten doubledSession 1)
  exact absurd single (by decide)

end NxReverse.Probe
