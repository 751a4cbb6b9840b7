import NxReverse.Toolbox.TunnelWait

/-! The timeouts handed to `eventWait`. A turn reads the clock twice, so the reading that is
subtracted may be past the deadline that the loop condition still saw ahead. -/
namespace NxReverse.Toolbox

/-- The subtraction of the reading does not wrap and the wait is no longer than asked for. -/
structure EventWait.Bounded (timeoutMs : UInt32) (wait : EventWait) : Prop where
  noWrap : wait.now ≤ wait.deadline
  timeout : wait.timeoutNs.toNat ≤ timeoutMs.toNat * 1000000

def WaitTurn.readings (turn : WaitTurn) : UInt64 × UInt64 := (turn.tested,turn.now)

/-- The readings of a whole wait never decrease. -/
def TicksOrdered (start : UInt64) (readings : List (UInt64 × UInt64)) : Prop :=
  (start :: readings.flatMap fun r => [r.1,r.2]).Pairwise (· ≤ ·)

instance (start : UInt64) (readings : List (UInt64 × UInt64)) : Decidable (TicksOrdered start readings) :=
  inferInstanceAs (Decidable (List.Pairwise _ _))

theorem TicksOrdered.start_le {start : UInt64} {readings : List (UInt64 × UInt64)}
    (ordered : TicksOrdered start readings) {r : UInt64 × UInt64} (member : r ∈ readings) :
    start ≤ r.2 := by
  apply List.rel_of_pairwise_cons ordered
  rw [List.mem_flatMap]
  exact ⟨r,member,by simp⟩

theorem TicksOrdered.head_le {start : UInt64} {r : UInt64 × UInt64} {readings : List (UInt64 × UInt64)}
    (ordered : TicksOrdered start (r :: readings)) {later : UInt64 × UInt64} (member : later ∈ readings) :
    r.1 ≤ later.1 := by
  have tail : (r.1 :: r.2 :: readings.flatMap fun r => [r.1,r.2]).Pairwise (· ≤ ·) :=
    (List.pairwise_cons.mp ordered).2
  apply List.rel_of_pairwise_cons tail
  apply List.mem_cons_of_mem
  exact List.mem_flatMap.mpr ⟨later,member,List.mem_cons_self⟩

theorem TicksOrdered.tail {start : UInt64} {r : UInt64 × UInt64} {readings : List (UInt64 × UInt64)}
    (ordered : TicksOrdered start (r :: readings)) : TicksOrdered start readings := by
  have both := List.pairwise_cons.mp ordered
  rw [List.flatMap_cons] at both
  refine List.pairwise_cons.mpr ⟨fun value member => both.1 value (List.mem_append_right _ member),?_⟩
  exact (List.pairwise_append.mp both.2).2.1

namespace WaitLoop

variable (loop : WaitLoop) (frequency : UInt64)

/-- Every wait belongs to a turn that saw the deadline ahead. -/
theorem turns_waits {deadline : UInt64} {script : List WaitTurn} {s : WaitState} {wait : EventWait}
    (member : wait ∈ (loop.turns frequency deadline s script).waits) :
    ∃ turn ∈ script, turn.tested < deadline ∧ wait = eventWait frequency deadline turn.now := by
  induction script generalizing s with
  | nil => simp [turns] at member
  | cons turn rest ih =>
    by_cases ahead : turn.tested < deadline
    · rw [turns,if_pos ahead] at member
      by_cases waitFails : failed turn.waitRc
      · rw [if_pos waitFails] at member
        exact ⟨turn,List.mem_cons_self,ahead,List.mem_singleton.mp member⟩
      · rw [if_neg waitFails] at member
        cases drained : loop.drain { s with result.wakeCount := s.result.wakeCount + 1 } turn.receives with
        | error result =>
          simp only [drained] at member
          exact ⟨turn,List.mem_cons_self,ahead,List.mem_singleton.mp member⟩
        | ok next =>
          simp only [drained] at member
          rcases List.mem_cons.mp member with here | later
          · exact ⟨turn,List.mem_cons_self,ahead,here⟩
          · obtain ⟨found,inside,fact⟩ := ih later
            exact ⟨found,List.mem_cons_of_mem turn inside,fact⟩
    · rw [turns,if_neg ahead] at member
      cases member

def silentTurn (r : UInt64 × UInt64) : WaitTurn := ⟨r.1,r.2,0,[]⟩

/-- With a silent service every turn that sees the deadline ahead comes to its wait. -/
theorem mem_silent_waits {start deadline : UInt64} {readings : List (UInt64 × UInt64)}
    (ordered : TicksOrdered start readings) {r : UInt64 × UInt64} (member : r ∈ readings)
    (ahead : r.1 < deadline) (s : WaitState) :
    eventWait frequency deadline r.2 ∈
      (loop.turns frequency deadline s (readings.map silentTurn)).waits := by
  induction readings generalizing s with
  | nil => cases member
  | cons first rest ih =>
    have firstAhead : first.1 < deadline := by
      rcases List.mem_cons.mp member with rfl | later
      · exact ahead
      · exact UInt64.lt_of_le_of_lt (ordered.head_le later) ahead
    have silent : failed 0 = false := rfl
    simp only [List.map_cons,turns,silentTurn,firstAhead,silent,drain,Bool.false_eq_true,if_true,if_false]
    rcases List.mem_cons.mp member with rfl | later
    · exact List.mem_cons_self
    · exact List.mem_cons_of_mem _ (ih ordered.tail later _)

/-- A reading between the start and the deadline leaves no more than the whole timeout. -/
theorem eventWait_bounded {start now : UInt64} {timeoutMs : UInt32} (late : start ≤ now)
    (early : now ≤ deadlineAfterMilliseconds frequency start timeoutMs) :
    (eventWait frequency (deadlineAfterMilliseconds frequency start timeoutMs) now).Bounded timeoutMs := by
  refine ⟨early,?_⟩
  have after : start.toNat ≤ now.toNat := late
  have span : frequency.toNat * timeoutMs.toNat % 2 ^ 64 ≤ frequency.toNat * timeoutMs.toNat :=
    Nat.mod_le _ _
  have share := Nat.div_mul_le_self (frequency.toNat * timeoutMs.toNat % 2 ^ 64) 1000
  have deadline : (deadlineAfterMilliseconds frequency start timeoutMs).toNat ≤
      start.toNat + frequency.toNat * timeoutMs.toNat % 2 ^ 64 / 1000 := by
    simp only [deadlineAfterMilliseconds,UInt64.toNat_add,UInt64.toNat_div,UInt64.toNat_mul,
      UInt32.toNat_toUInt64,UInt64.toNat_ofNat]
    exact Nat.mod_le _ _
  have remaining : (deadlineAfterMilliseconds frequency start timeoutMs - now).toNat * 1000 ≤
      frequency.toNat * timeoutMs.toNat := by
    rw [UInt64.toNat_sub_of_le _ _ early]
    apply Nat.le_trans (Nat.mul_le_mul_right 1000 _) (Nat.le_trans share span)
    exact Nat.sub_le_of_le_add (Nat.le_trans deadline (by rw [Nat.add_comm]; exact Nat.add_le_add_left after _))
  simp only [eventWait,UInt64.toNat_div,UInt64.toNat_mul,UInt64.toNat_ofNat,Nat.reducePow,Nat.reduceMod]
  apply Nat.div_le_of_le_mul
  calc (deadlineAfterMilliseconds frequency start timeoutMs - now).toNat * 1000000000 % 18446744073709551616
      ≤ (deadlineAfterMilliseconds frequency start timeoutMs - now).toNat * 1000000000 := Nat.mod_le _ _
    _ = (deadlineAfterMilliseconds frequency start timeoutMs - now).toNat * 1000 * 1000000 := by
      rw [Nat.mul_assoc]
    _ ≤ frequency.toNat * timeoutMs.toNat * 1000000 := Nat.mul_le_mul_right _ remaining
    _ = frequency.toNat * (timeoutMs.toNat * 1000000) := Nat.mul_assoc _ _ _

/-- All waits on these clock readings are bounded, whatever the service answers. -/
def BoundedOn (timeoutMs : UInt32) (start : UInt64) (readings : List (UInt64 × UInt64)) : Prop :=
  ∀ script : List WaitTurn, script.map WaitTurn.readings = readings →
    ∀ wait ∈ (loop.wait frequency timeoutMs start script).waits, wait.Bounded timeoutMs

theorem boundedOn_iff {timeoutMs : UInt32} {start : UInt64} {readings : List (UInt64 × UInt64)}
    (ordered : TicksOrdered start readings) :
    loop.BoundedOn frequency timeoutMs start readings ↔
      ∀ r ∈ readings, r.1 < deadlineAfterMilliseconds frequency start timeoutMs →
        r.2 ≤ deadlineAfterMilliseconds frequency start timeoutMs := by
  constructor
  · intro bounded r member ahead
    have silent : (readings.map silentTurn).map WaitTurn.readings = readings := by
      rw [List.map_map]
      exact List.map_id readings
    exact (bounded _ silent _ (loop.mem_silent_waits frequency ordered member ahead .start)).noWrap
  · rintro timely script rfl wait member
    obtain ⟨turn,inside,ahead,rfl⟩ := loop.turns_waits frequency member
    have reading := List.mem_map_of_mem (f := WaitTurn.readings) inside
    exact eventWait_bounded frequency (ordered.start_le reading) (timely _ reading ahead)

end WaitLoop

/-- The three waits on one sequence of clock readings: they are bounded, whatever the service
answers, exactly when the deadline never passes between the two readings of a turn. -/
theorem waits_bounded_iff (frequency : UInt64) (timeoutMs : UInt32) (reasonNumber : FlowTerminalReason → Nat)
    (flow : UInt64) (expected : List UInt8) (goal : TcpGoal) {start : UInt64}
    {readings : List (UInt64 × UInt64)} (ordered : TicksOrdered start readings) :
    ((waitForEcho reasonNumber flow expected).BoundedOn frequency timeoutMs start readings ∧
      (waitForWritable reasonNumber flow).BoundedOn frequency timeoutMs start readings ∧
      (waitForTcpProgress flow goal).BoundedOn frequency timeoutMs start readings) ↔
    ∀ r ∈ readings, r.1 < deadlineAfterMilliseconds frequency start timeoutMs →
      r.2 ≤ deadlineAfterMilliseconds frequency start timeoutMs := by
  rw [WaitLoop.boundedOn_iff _ frequency ordered,WaitLoop.boundedOn_iff _ frequency ordered,
    WaitLoop.boundedOn_iff _ frequency ordered,and_self,and_self]

/-- Frequency of the console's system tick. -/
def systemTickFrequency : UInt64 := 19200000

theorem waits_bounded_turns :
    let readings := [(8,9),(19200000,19200007),(1152000007,1152000010)]
    (waitForEcho (fun _ => 0) 1 [7]).BoundedOn systemTickFrequency 60000 7 readings ∧
      (waitForWritable (fun _ => 0) 1).BoundedOn systemTickFrequency 60000 7 readings ∧
      (waitForTcpProgress 1 ⟨true,false,false⟩).BoundedOn systemTickFrequency 60000 7 readings := by
  refine (waits_bounded_iff systemTickFrequency 60000 (fun _ => 0) 1 [7] ⟨true,false,false⟩ (by decide)).mpr ?_
  simp only [List.forall_mem_cons]
  exact ⟨fun _ => by decide,fun _ => by decide,fun early => absurd early (by decide),nofun⟩

/-- The deadline of a one second wait passes between the readings: it waits for 960 seconds. -/
example :
    ((waitForTcpProgress 1 ⟨true,false,false⟩).wait systemTickFrequency 1000 0
      [⟨19199999,19200001,0,[]⟩]).waits = [⟨19200000,19200001,960767920453⟩] := by
  decide

theorem waits_not_bounded :
    ¬∀ (timeoutMs : UInt32) (start : UInt64) (readings : List (UInt64 × UInt64)),
      1 ≤ timeoutMs → timeoutMs ≤ 60000 → TicksOrdered start readings →
      ∀ (reasonNumber : FlowTerminalReason → Nat) (flow : UInt64) (expected : List UInt8) (goal : TcpGoal),
        (waitForEcho reasonNumber flow expected).BoundedOn systemTickFrequency timeoutMs start readings ∧
        (waitForWritable reasonNumber flow).BoundedOn systemTickFrequency timeoutMs start readings ∧
        (waitForTcpProgress flow goal).BoundedOn systemTickFrequency timeoutMs start readings := by
  intro bounded
  have all := bounded 1000 0 [(19199999,19200001)] (by decide) (by decide) (by decide)
    (fun _ => 0) 1 [] ⟨true,false,false⟩
  have wait := all.2.2 [⟨19199999,19200001,0,[]⟩] rfl ⟨19200000,19200001,960767920453⟩ (by decide)
  exact absurd wait.noWrap (by decide)

end NxReverse.Toolbox
