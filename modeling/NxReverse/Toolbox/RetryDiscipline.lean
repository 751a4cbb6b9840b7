import NxReverse.Lib.Retries
import NxReverse.Toolbox.FlowLeak
import NxReverse.Toolbox.HeardWaits

/-! How the `wgnx:tun` UDP workload retries: along the program its submissions are attempts at the
datagrams in their order, and its verdict tells whether all of them were accepted and echoed. -/
namespace NxReverse.Toolbox

open Text Words Program Attempt

/-- A submission as an attempt at the datagram whose number is the low word of its tag. -/
def attemptOf : TunnelExchange → Option Attempt
  | ⟨.sendUdpDatagram _ descriptor _,answer⟩ =>
    some ⟨descriptor.clientTag.toUInt32.toNat,!failed answer.rc && answer.status == .success⟩
  | _ => none

def attempts (trace : List TunnelExchange) : List Attempt := trace.filterMap attemptOf

theorem attempts_append (first second : List TunnelExchange) :
    attempts (first ++ second) = attempts first ++ attempts second :=
  List.filterMap_append

theorem workloadTag_low (workloadId low : UInt32) : (workloadTag workloadId low).toUInt32 = low := by
  apply UInt32.toNat_inj.mp
  simp [workloadTag,Nat.shiftLeft_eq]

section Datagrams

variable (config : TunnelUdpWorkloadConfig) (flows : List UInt64)

def flowOf (sequence : UInt32) : UInt64 := flows.getD (sequence % config.concurrentFlows).toNat 0

def payloadOf (sequence : UInt32) : Bytes :=
  buildPayload config.payloadBytes.toNat sequence (sequence % config.concurrentFlows) config

def descriptorOf (sequence : UInt32) : PayloadRange :=
  ⟨flowOf config flows sequence,0,(payloadOf config sequence).length.toUInt32,workloadTag config.workloadId sequence⟩

def submission (sequence : UInt32) (answer : PayloadResult) : TunnelExchange :=
  ⟨.sendUdpDatagram 0 (descriptorOf config flows sequence) (payloadOf config sequence),answer⟩

def accepts (answer : PayloadResult) : Bool := !failed answer.rc && answer.status == .success

theorem attemptOf_submission (sequence : UInt32) (answer : PayloadResult) :
    attemptOf (submission config flows sequence answer) = some ⟨sequence.toNat,accepts answer⟩ := by
  rw [submission,attemptOf,descriptorOf,workloadTag_low]
  rfl

variable {config flows} {sequence : UInt32}

/-- The part of the progress that only an accepted datagram changes. -/
structure SameCounts (s t : UdpProgress) : Prop where
  accepted : t.accepted = s.accepted
  echoed : t.echoed = s.echoed
  bytesSent : t.result.bytesSent = s.result.bytesSent
  success : t.result.success = s.result.success

theorem SameCounts.trans {s t u : UdpProgress} (first : SameCounts s t) (second : SameCounts t u) : SameCounts s u :=
  ⟨second.accepted.trans first.accepted,second.echoed.trans first.echoed,second.bytesSent.trans first.bytesSent,
    second.success.trans first.success⟩

/-- What the submissions of one datagram tell, behind `refusals` of it. -/
structure Submitted (config : TunnelUdpWorkloadConfig) (flows : List UInt64) (sequence : UInt32) (refusals : Nat)
    (s : UdpProgress) (trace : List TunnelExchange) (rc : UInt32) (t : UdpProgress) : Prop where
  own : ∀ e ∈ trace, attemptOf e ≠ none → ∃ answer, e = submission config flows sequence answer
  noOpens : ∀ e ∈ trace, opensFlow e = none
  counts : SameCounts s t
  verdict :
    ((failed rc = false ∧ t.result.detail = []) ∧
      (∃ before answer, trace = before ++ [submission config flows sequence answer] ∧ accepts answer = true) ∧
      InOrder 17 ⟨sequence.toNat,refusals⟩ (attempts trace) ⟨sequence.toNat + 1,0⟩) ∨
    ((failed rc = true ∨ t.result.detail ≠ []) ∧
      ∃ last, InOrder 17 ⟨sequence.toNat,refusals⟩ (attempts trace) ⟨sequence.toNat,last⟩)

theorem own_submission {answer : PayloadResult} : ∀ e ∈ [submission config flows sequence answer],
    attemptOf e ≠ none → ∃ answer, e = submission config flows sequence answer := by
  intro e member _
  exact ⟨answer,List.mem_singleton.mp member⟩

theorem noOpens_submission {answer : PayloadResult} : ∀ e ∈ [submission config flows sequence answer],
    opensFlow e = none := by
  intro e member
  rw [List.mem_singleton.mp member]
  rfl

/-- The last submission is refused. -/
theorem Submitted.refused {refusals : Nat} (allowed : refusals < 17) {s t : UdpProgress} {answer : PayloadResult}
    {rc : UInt32} (counts : SameCounts s t) (refused : accepts answer = false)
    (stops : failed rc = true ∨ t.result.detail ≠ []) :
    Submitted config flows sequence refusals s [submission config flows sequence answer] rc t where
  own := own_submission
  noOpens := noOpens_submission
  counts := counts
  verdict := by
    refine .inr ⟨stops,refusals + 1,?_⟩
    rw [attempts,List.filterMap_cons_some (attemptOf_submission ..),refused]
    exact .refused allowed (.none _)

theorem Submitted.accepted {refusals : Nat} (allowed : refusals < 17) {s : UdpProgress} {answer : PayloadResult}
    (silent : s.result.detail = []) (accepted : accepts answer = true) (succeeds : failed answer.rc = false) :
    Submitted config flows sequence refusals s [submission config flows sequence answer] answer.rc s where
  own := own_submission
  noOpens := noOpens_submission
  counts := ⟨rfl,rfl,rfl,rfl⟩
  verdict := by
    refine .inl ⟨⟨succeeds,silent⟩,⟨[],answer,rfl,accepted⟩,?_⟩
    rw [attempts,List.filterMap_cons_some (attemptOf_submission ..),accepted]
    exact .accepted allowed (.none _)

/-- Nothing is submitted any more. -/
theorem Submitted.stopped {refusals : Nat} {s t : UdpProgress} {rc : UInt32} (counts : SameCounts s t)
    (stops : failed rc = true ∨ t.result.detail ≠ []) : Submitted config flows sequence refusals s [] rc t where
  own := fun _ member => absurd member List.not_mem_nil
  noOpens := List.forall_mem_nil _
  counts := counts
  verdict := .inr ⟨stops,refusals,.none _⟩

/-- A refused submission and the wait behind it. -/
theorem Submitted.retried {refusals : Nat} (allowed : refusals < 17) {s t u : UdpProgress} {answer : PayloadResult}
    {rc : UInt32} {flow : UInt64} {timeoutMs : UInt32} {script : WaitScript} {trace : List TunnelExchange}
    (counts : SameCounts s t) (refused : accepts answer = false)
    (later : Submitted config flows sequence (refusals + 1) t trace rc u) :
    Submitted config flows sequence refusals s
      (submission config flows sequence answer :: ⟨.waitFor 0 flow .writable timeoutMs,script⟩ :: trace) rc u where
  own := by
    intro e member attempt
    rcases List.mem_cons.mp member with here | member
    · exact ⟨answer,here⟩
    rcases List.mem_cons.mp member with rfl | member
    · exact absurd rfl attempt
    · exact later.own e member attempt
  noOpens := List.forall_mem_cons.mpr ⟨rfl,List.forall_mem_cons.mpr ⟨rfl,later.noOpens⟩⟩
  counts := counts.trans later.counts
  verdict := by
    have attempts_eq : attempts (submission config flows sequence answer ::
        ⟨.waitFor 0 flow .writable timeoutMs,script⟩ :: trace) = ⟨sequence.toNat,false⟩ :: attempts trace := by
      rw [attempts,List.filterMap_cons_some (attemptOf_submission ..),refused]
      rfl
    rw [attempts_eq]
    rcases later.verdict with ⟨goesOn,⟨before,last,rfl,accepted⟩,order⟩ | ⟨stops,last,order⟩
    · exact .inl ⟨goesOn,⟨_ :: _ :: before,last,rfl,accepted⟩,.refused allowed order⟩
    · exact .inr ⟨stops,last,.refused allowed order⟩

theorem refused_of_failed {answer : PayloadResult} (fails : failed answer.rc = true) : accepts answer = false := by
  rw [accepts,fails]
  rfl

theorem refused_of_status {answer : PayloadResult} (refused : answer.status ≠ .success) : accepts answer = false := by
  rw [accepts,Bool.and_eq_false_iff]
  exact .inr (beq_eq_false_iff_ne.mpr refused)

theorem submitDatagram_told (api : TunnelApi) (retriesLeft : Nat) (few : retriesLeft ≤ 16) {s : UdpProgress}
    (silent : s.result.detail = []) :
    (submitDatagram api config sequence (descriptorOf config flows sequence) (payloadOf config sequence) retriesLeft
      s).Ensures fun trace value => Submitted config flows sequence (16 - retriesLeft) s trace value.1 value.2 := by
  induction retriesLeft generalizing s with
  | zero =>
    unfold submitDatagram
    rw [ensures_perform_bind]
    intro answer
    dsimp only
    split
    next fails => exact .refused (by decide) ⟨rfl,rfl,rfl,rfl⟩ (refused_of_failed fails) (.inl fails)
    next succeeds =>
      have succeeds := Bool.eq_false_iff.mpr succeeds
      split
      next accepted => exact .accepted (by decide) silent (by simp [accepts,succeeds,accepted]) succeeds
      next refused =>
        exact .refused (by decide) ⟨rfl,rfl,rfl,rfl⟩ (refused_of_status refused) (.inr (by simp [UdpProgress.leave]))
  | succ retriesLeft ih =>
    have allowed : 16 - (retriesLeft + 1) < 17 := by omega
    have next : 16 - retriesLeft = 16 - (retriesLeft + 1) + 1 := by omega
    unfold submitDatagram
    rw [ensures_perform_bind]
    intro answer
    dsimp only
    split
    next fails => exact .refused allowed ⟨rfl,rfl,rfl,rfl⟩ (refused_of_failed fails) (.inl fails)
    next succeeds =>
      have succeeds := Bool.eq_false_iff.mpr succeeds
      split
      next accepted => exact .accepted allowed silent (by simp [accepts,succeeds,accepted]) succeeds
      next refused =>
        have refused := refused_of_status refused
        split
        · exact .refused allowed ⟨rfl,rfl,rfl,rfl⟩ refused (.inr (by simp [UdpProgress.leave]))
        · rw [ensures_perform_bind]
          intro script
          split
          · exact .retried allowed ⟨rfl,rfl,rfl,rfl⟩ refused (.stopped ⟨rfl,rfl,rfl,rfl⟩ (.inr (by simp [UdpProgress.leave])))
          · refine Ensures.mono (ih (by omega) (by exact silent)) ?_
            intro trace value later
            rw [next] at later
            exact .retried allowed (by exact ⟨rfl,rfl,rfl,rfl⟩) refused later

/-- A wait whose answers hold the echo of a datagram, on the datagram's own flow and in time. -/
def EchoOf (config : TunnelUdpWorkloadConfig) (flows : List UInt64) (sequence : UInt32) (e : TunnelExchange) : Prop :=
  ∃ script : WaitScript,
    e = ⟨.waitFor 0 (flowOf config flows sequence) (.echo (payloadOf config sequence)) config.receiveDeadlineMs,script⟩ ∧
      EchoHeard (flowOf config flows sequence) (payloadOf config sequence) config.receiveDeadlineMs script

/-- A datagram is accepted and, where echoes are asked for, its echo received before another submission. -/
def Delivered (config : TunnelUdpWorkloadConfig) (flows : List UInt64) (trace : List TunnelExchange)
    (sequence : UInt32) : Prop :=
  ∃ before answer between after, trace = before ++ submission config flows sequence answer :: (between ++ after) ∧
    accepts answer = true ∧ attempts between = [] ∧
    (config.echoReplies = true → ∃ e ∈ between, EchoOf config flows sequence e)

/-- The last submission is an accepted datagram whose echo is not received. -/
def Unechoed (config : TunnelUdpWorkloadConfig) (flows : List UInt64) (trace : List TunnelExchange)
    (sequence : UInt32) : Prop :=
  ∃ before answer after, trace = before ++ submission config flows sequence answer :: after ∧
    accepts answer = true ∧ attempts after = [] ∧ ∀ e ∈ after, ¬EchoOf config flows sequence e

variable {api : TunnelApi} {trace : List TunnelExchange}

theorem Delivered.append_left (delivered : Delivered config flows trace sequence) (first : List TunnelExchange) :
    Delivered config flows (first ++ trace) sequence := by
  obtain ⟨before,answer,between,after,rfl,rest⟩ := delivered
  exact ⟨first ++ before,answer,between,after,by rw [List.append_assoc],rest⟩

theorem Delivered.append_right (delivered : Delivered config flows trace sequence) (second : List TunnelExchange) :
    Delivered config flows (trace ++ second) sequence := by
  obtain ⟨before,answer,between,after,rfl,rest⟩ := delivered
  exact ⟨before,answer,between,after ++ second,by simp,rest⟩

theorem Unechoed.append_left (unechoed : Unechoed config flows trace sequence) (first : List TunnelExchange) :
    Unechoed config flows (first ++ trace) sequence := by
  obtain ⟨before,answer,after,rfl,rest⟩ := unechoed
  exact ⟨first ++ before,answer,after,by rw [List.append_assoc],rest⟩

/-- What the wait for the echo of an accepted datagram tells. -/
structure Awaited (config : TunnelUdpWorkloadConfig) (flows : List UInt64) (sequence : UInt32)
    (s : UdpProgress) (trace : List TunnelExchange) (goesOn : Bool) (t : UdpProgress) : Prop where
  noAttempts : attempts trace = []
  noOpens : ∀ e ∈ trace, opensFlow e = none
  accepted : t.accepted = s.accepted
  bytesSent : t.result.bytesSent = s.result.bytesSent
  success : t.result.success = s.result.success
  received : goesOn = true → t.result.detail = s.result.detail ∧
    t.echoed = s.echoed + (if config.echoReplies then 1 else 0) ∧
    (config.echoReplies = true → ∃ e ∈ trace, EchoOf config flows sequence e)
  missed : goesOn = false → config.echoReplies = true ∧ t.echoed = s.echoed ∧
    ∀ e ∈ trace, ¬EchoOf config flows sequence e

theorem awaitEcho_told (s : UdpProgress) :
    (awaitEcho api config sequence (flowOf config flows sequence) (payloadOf config sequence) s).Ensures
      fun trace value => Awaited config flows sequence s trace value.1 value.2 := by
  unfold awaitEcho
  split
  next silent =>
    have silent : config.echoReplies = false := by simpa using silent
    refine ⟨rfl,List.forall_mem_nil _,rfl,rfl,rfl,fun _ => ⟨rfl,?_,?_⟩,fun stops => ?_⟩
    · rw [silent]
      exact (UInt32.add_zero _).symm
    · intro echoes
      exact Bool.noConfusion (silent.symm.trans echoes)
    · cases stops
  next echoes =>
    have echoes : config.echoReplies = true := by simpa using echoes
    rw [ensures_perform_bind]
    intro script
    dsimp only
    split
    next unheard =>
      refine ⟨rfl,List.forall_mem_singleton.mpr rfl,rfl,rfl,rfl,fun goesOn => ?_,fun _ => ⟨echoes,rfl,?_⟩⟩
      · cases goesOn
      · intro e member
        rw [List.mem_singleton.mp member]
        rintro ⟨other,same,heard⟩
        cases same
        simp [echo_received_iff.mpr heard] at unheard
    next heard =>
      have heard := echo_received_iff.mp (by simpa using heard)
      refine ⟨rfl,List.forall_mem_singleton.mpr rfl,rfl,rfl,rfl,fun _ => ⟨rfl,?_,fun _ => ?_⟩,fun stops => ?_⟩
      · rw [echoes]
        rfl
      · exact ⟨_,List.mem_singleton_self _,script,rfl,heard⟩
      · cases stops

/-- How the datagrams from `start` on end, of which `taken` were accepted. -/
inductive LoopEnd (config : TunnelUdpWorkloadConfig) (flows : List UInt64)
    (start remaining taken : Nat) (trace : List TunnelExchange) (t : UdpProgress) : Prop where
  | complete (all : taken = remaining)
      (echoed : t.echoed.toNat = if config.echoReplies then start + remaining else 0)
      (delivered : ∀ sequence : UInt32, start ≤ sequence.toNat → sequence.toNat < start + remaining →
        Delivered config flows trace sequence)
  | refused (some : taken < remaining)
  | unechoed (sequence : UInt32) (last : sequence.toNat + 1 = start + taken) (some : taken ≤ remaining)
      (echoes : config.echoReplies = true) (echoed : t.echoed.toNat = sequence.toNat)
      (missed : Unechoed config flows trace sequence)

structure Transmitted (config : TunnelUdpWorkloadConfig) (flows : List UInt64)
    (start remaining : Nat) (s : UdpProgress) (trace : List TunnelExchange) (t : UdpProgress) (taken : Nat) : Prop where
  own : ∀ e ∈ trace, attemptOf e ≠ none → ∃ sequence answer,
    e = submission config flows sequence answer ∧ sequence.toNat < start + remaining
  noOpens : ∀ e ∈ trace, opensFlow e = none
  order : ∃ refusals, InOrder 17 ⟨start,0⟩ (attempts trace) ⟨start + taken,refusals⟩
  accepted : t.accepted.toNat = start + taken
  bytesSent : t.result.bytesSent = s.result.bytesSent + UInt64.ofNat (taken * (payloadOf config 0).length)
  success : t.result.success = s.result.success
  loopEnd : LoopEnd config flows start remaining taken trace t

theorem toNat_succ {value : UInt32} {n : Nat} (same : value.toNat = n) (inside : n + 1 < 2 ^ 32) :
    (value + 1).toNat = n + 1 := by
  rw [UInt32.toNat_add,same,UInt32.toNat_one]
  exact Nat.mod_eq_of_lt inside

theorem length_payloadOf (sequence : UInt32) : (payloadOf config sequence).length = (payloadOf config 0).length := by
  rw [payloadOf,payloadOf,length_buildPayload,length_buildPayload]

section Parts

variable {start remaining : Nat} {s t : UdpProgress} {submitted waited : List TunnelExchange} {rc : UInt32}

/-- The datagram at hand is refused. -/
theorem Transmitted.stopped (at_ : sequence.toNat = start) (accepted : s.accepted.toNat = start)
    (told : Submitted config flows sequence 0 s submitted rc t) (stops : failed rc = true ∨ t.result.detail ≠ []) :
    Transmitted config flows start (remaining + 1) s submitted t 0 where
  own e member attempt := by
    obtain ⟨answer,same⟩ := told.own e member attempt
    exact ⟨sequence,answer,same,by omega⟩
  noOpens := told.noOpens
  order := by
    rcases told.verdict with ⟨⟨succeeds,silent⟩,_⟩ | ⟨_,last,order⟩
    · rcases stops with fails | detail
      · exact Bool.noConfusion (succeeds.symm.trans fails)
      · exact absurd silent detail
    · subst at_
      exact ⟨last,order⟩
  accepted := (congrArg UInt32.toNat told.counts.accepted).trans accepted
  bytesSent := by
    rw [told.counts.bytesSent,Nat.zero_mul]
    exact (UInt64.add_zero _).symm
  success := told.counts.success
  loopEnd := .refused (Nat.succ_pos remaining)

/-- The progress behind an accepted datagram of this size. -/
def UdpProgress.taken (t : UdpProgress) (size : Nat) : UdpProgress :=
  { t with
    accepted := t.accepted + 1
    result := { t.result with bytesSent := t.result.bytesSent + size.toUInt64 } }

/-- The datagram at hand is accepted: what its submissions and the wait for its echo tell. -/
structure Taken (config : TunnelUdpWorkloadConfig) (flows : List UInt64) (sequence : UInt32)
    (s : UdpProgress) (submitted waited : List TunnelExchange) (goesOn : Bool) (u : UdpProgress) : Prop where
  own : ∀ e ∈ submitted ++ waited, attemptOf e ≠ none → ∃ answer, e = submission config flows sequence answer
  noOpens : ∀ e ∈ submitted ++ waited, opensFlow e = none
  order : InOrder 17 ⟨sequence.toNat,0⟩ (attempts (submitted ++ waited)) ⟨sequence.toNat + 1,0⟩
  last : ∃ before answer, submitted = before ++ [submission config flows sequence answer] ∧ accepts answer = true
  noAttempts : attempts waited = []
  accepted : u.accepted = s.accepted + 1
  bytesSent : u.result.bytesSent = s.result.bytesSent + UInt64.ofNat (payloadOf config 0).length
  success : u.result.success = s.result.success
  received : goesOn = true → u.result.detail = [] ∧ u.echoed = s.echoed + (if config.echoReplies then 1 else 0) ∧
    (config.echoReplies = true → ∃ e ∈ waited, EchoOf config flows sequence e)
  missed : goesOn = false → config.echoReplies = true ∧ u.echoed = s.echoed ∧
    ∀ e ∈ waited, ¬EchoOf config flows sequence e

theorem Submitted.taken {u : UdpProgress} {goesOn : Bool} (told : Submitted config flows sequence 0 s submitted rc t)
    (passes : ¬(failed rc = true ∨ t.result.detail ≠ []))
    (awaited : Awaited config flows sequence (t.taken (payloadOf config sequence).length) waited goesOn u) :
    Taken config flows sequence s submitted waited goesOn u := by
  rcases told.verdict with ⟨⟨_,silent⟩,last,order⟩ | ⟨stops,_⟩
  · refine ⟨?_,?_,?_,last,awaited.noAttempts,?_,?_,?_,fun goesOn => ?_,fun stops => ?_⟩
    · intro e member attempt
      rcases List.mem_append.mp member with here | behind
      · exact told.own e here attempt
      · have none : attemptOf e = none := List.filterMap_eq_nil_iff.mp awaited.noAttempts e behind
        exact absurd none attempt
    · exact List.forall_mem_append.mpr ⟨told.noOpens,awaited.noOpens⟩
    · rw [attempts_append,awaited.noAttempts,List.append_nil]
      exact order
    · rw [awaited.accepted,← told.counts.accepted]
      rfl
    · rw [awaited.bytesSent,← told.counts.bytesSent,← length_payloadOf sequence]
      rfl
    · exact awaited.success.trans told.counts.success
    · obtain ⟨detail,echoed,heard⟩ := awaited.received goesOn
      exact ⟨detail.trans silent,echoed.trans (by rw [← told.counts.echoed]; rfl),heard⟩
    · obtain ⟨echoes,echoed,unheard⟩ := awaited.missed stops
      exact ⟨echoes,echoed.trans told.counts.echoed,unheard⟩
  · exact absurd stops passes

theorem Taken.unechoed {u : UdpProgress} (at_ : sequence.toNat = start) (inside : start + (remaining + 1) < 2 ^ 32)
    (accepted : s.accepted.toNat = start) (echoed : s.echoed.toNat = if config.echoReplies then start else 0)
    (taken : Taken config flows sequence s submitted waited false u) :
    Transmitted config flows start (remaining + 1) s (submitted ++ waited) u 1 where
  own e member attempt := by
    obtain ⟨answer,same⟩ := taken.own e member attempt
    exact ⟨sequence,answer,same,by omega⟩
  noOpens := taken.noOpens
  order := by
    subst at_
    exact ⟨0,taken.order⟩
  accepted := by
    rw [taken.accepted]
    exact toNat_succ accepted (by omega)
  bytesSent := by
    rw [taken.bytesSent,Nat.one_mul]
  success := taken.success
  loopEnd := by
    obtain ⟨echoes,same,unheard⟩ := taken.missed rfl
    obtain ⟨before,answer,last,accepts⟩ := taken.last
    refine .unechoed sequence (by omega) (by omega) echoes ?_ ?_
    · rw [same,echoed,if_pos echoes,at_]
    · exact ⟨before,answer,waited,by rw [last]; simp,accepts,taken.noAttempts,unheard⟩

/-- The datagrams behind one that was accepted and, where asked for, echoed. -/
theorem Taken.next {u v : UdpProgress} {pause later : List TunnelExchange} {more : Nat}
    (at_ : sequence.toNat = start) (taken : Taken config flows sequence s submitted waited true u)
    (pauses : ∀ e ∈ pause, attemptOf e = none ∧ opensFlow e = none)
    (rest : Transmitted config flows (start + 1) remaining u later v more) :
    Transmitted config flows start (remaining + 1) s (submitted ++ (waited ++ (pause ++ later))) v (more + 1) := by
  have noAttempts : attempts pause = [] := List.filterMap_eq_nil_iff.mpr fun e member => (pauses e member).1
  have split : submitted ++ (waited ++ (pause ++ later)) = (submitted ++ waited) ++ pause ++ later := by simp
  have whole : attempts (submitted ++ (waited ++ (pause ++ later))) = attempts (submitted ++ waited) ++ attempts later := by
    rw [split,attempts_append,attempts_append,noAttempts,List.append_nil]
  have here : Delivered config flows (submitted ++ (waited ++ (pause ++ later))) sequence := by
    obtain ⟨before,answer,last,accepts⟩ := taken.last
    exact ⟨before,answer,waited,pause ++ later,by rw [last]; simp,accepts,taken.noAttempts,(taken.received rfl).2.2⟩
  refine ⟨?_,?_,?_,?_,?_,rest.success.trans taken.success,?_⟩
  · intro e member attempt
    rw [split] at member
    rcases List.mem_append.mp member with front | behind
    · rcases List.mem_append.mp front with own | pausing
      · obtain ⟨answer,same⟩ := taken.own e own attempt
        exact ⟨sequence,answer,same,by omega⟩
      · exact absurd (pauses e pausing).1 attempt
    · obtain ⟨other,answer,same,bound⟩ := rest.own e behind attempt
      exact ⟨other,answer,same,by omega⟩
  · rw [split]
    exact List.forall_mem_append.mpr ⟨List.forall_mem_append.mpr ⟨taken.noOpens,fun e member => (pauses e member).2⟩,
      rest.noOpens⟩
  · obtain ⟨refusals,order⟩ := rest.order
    refine ⟨refusals,?_⟩
    rw [whole,Nat.add_comm more 1,← Nat.add_assoc]
    subst at_
    exact taken.order.append order
  · rw [rest.accepted]
    omega
  · rw [rest.bytesSent,taken.bytesSent,UInt64.add_assoc,← UInt64.ofNat_add,Nat.succ_mul,
      Nat.add_comm (payloadOf config 0).length]
  · cases rest.loopEnd with
    | complete all echoed delivered =>
      refine .complete (by rw [all]) ?_ ?_
      · rw [echoed]
        split <;> omega
      · intro other before behind
        by_cases same : other = sequence
        · rw [same]
          exact here
        · have differ : other.toNat ≠ sequence.toNat := fun numbers => same (UInt32.toNat_inj.mp numbers)
          rw [split]
          exact (delivered other (by omega) (by omega)).append_left _
    | refused some => exact .refused (by omega)
    | unechoed other last some echoes echoed missed =>
      refine .unechoed other (by omega) (by omega) echoes echoed ?_
      rw [split]
      exact missed.append_left _

end Parts

theorem sendDatagrams_told {remaining start : Nat} {s : UdpProgress} (at_ : sequence.toNat = start)
    (inside : start + remaining < 2 ^ 32) (silent : s.result.detail = []) (accepted : s.accepted.toNat = start)
    (echoed : s.echoed.toNat = if config.echoReplies then start else 0) :
    (sendDatagrams api config flows remaining sequence s).Ensures fun trace t =>
      ∃ taken, Transmitted config flows start remaining s trace t taken := by
  induction remaining generalizing start sequence s with
  | zero =>
    refine ⟨0,?_,List.forall_mem_nil _,⟨0,.none _⟩,accepted,?_,rfl,.complete rfl echoed ?_⟩
    · exact fun _ member => absurd member List.not_mem_nil
    · rw [Nat.zero_mul]
      exact (UInt64.add_zero _).symm
    · intro sequence before behind
      omega
  | succ remaining ih =>
    rw [sendDatagrams]
    dsimp only
    rw [ensures_bind]
    refine Ensures.mono (submitDatagram_told api maximumQueueFullRetriesPerDatagram (Nat.le_refl _) silent) ?_
    rintro submitted ⟨rc,t⟩ told
    dsimp only
    split
    next stops =>
      rw [ensures_pure,List.append_nil]
      exact ⟨0,.stopped at_ accepted told stops⟩
    next passes =>
      rw [ensures_bind]
      refine Ensures.mono (awaitEcho_told (t.taken (payloadOf config sequence).length)) ?_
      rintro waited ⟨goesOn,u⟩ awaited
      have taken := told.taken passes awaited
      cases goesOn with
      | false =>
        show ∃ _, Transmitted config flows start (remaining + 1) s (submitted ++ (waited ++ [])) u _
        rw [List.append_nil]
        exact ⟨1,taken.unechoed at_ inside accepted echoed⟩
      | true =>
        obtain ⟨silentNext,echoedNext,_⟩ := taken.received rfl
        have goesOn : (sendDatagrams api config flows remaining (sequence + 1) u).Ensures fun trace t =>
            ∃ taken, Transmitted config flows (start + 1) remaining u trace t taken := by
          apply ih
          · exact toNat_succ at_ (by omega)
          · omega
          · exact silentNext
          · rw [taken.accepted]
            exact toNat_succ accepted (by omega)
          · rw [echoedNext]
            split at echoed
            next echoes =>
              rw [if_pos echoes,if_pos echoes]
              exact toNat_succ echoed (by omega)
            next silent =>
              rw [if_neg silent,if_neg silent,UInt32.add_zero]
              exact echoed
        dsimp only
        rw [if_neg (by simp)]
        split
        · rw [ensures_perform_bind]
          intro _
          apply goesOn.mono
          rintro later v ⟨more,rest⟩
          exact ⟨more + 1,taken.next at_ (List.forall_mem_singleton.mpr ⟨rfl,rfl⟩) rest⟩
        · apply goesOn.mono
          rintro later v ⟨more,rest⟩
          exact ⟨more + 1,taken.next at_ (List.forall_mem_nil _) rest⟩

theorem Delivered.attempt (delivered : Delivered config flows trace sequence) :
    ⟨sequence.toNat,true⟩ ∈ attempts trace := by
  obtain ⟨before,answer,between,after,rfl,accepts,_⟩ := delivered
  refine List.mem_filterMap.mpr ⟨submission config flows sequence answer,?_,?_⟩
  · exact List.mem_append_right before List.mem_cons_self
  · rw [attemptOf_submission,accepts]

theorem attempts_submission {answer : PayloadResult} (accepted : accepts answer = true) :
    attempts (submission config flows sequence answer :: trace) = ⟨sequence.toNat,true⟩ :: attempts trace := by
  rw [attempts,List.filterMap_cons_some (attemptOf_submission ..),accepted]
  rfl

/-- The accepted submission of a datagram is the only one, and the echo must be behind it. -/
theorem Unechoed.not_delivered (unechoed : Unechoed config flows trace sequence) (echoes : config.echoReplies = true)
    {s t : Cursor} (order : InOrder 17 s (attempts trace) t) : ¬Delivered config flows trace sequence := by
  obtain ⟨before,answer,after,whole,accepted,noAttempts,unheard⟩ := unechoed
  rintro ⟨front,other,between,behind,same,acceptedToo,_,heard⟩
  have atOnce : after ≠ between ++ behind := by
    intro here
    obtain ⟨e,member,echo⟩ := heard echoes
    exact unheard e (here ▸ List.mem_append_left behind member) echo
  rcases List.append_eq_append_iff.mp (whole.symm.trans same) with ⟨later,_,rest⟩ | ⟨later,earlier,rest⟩
  · cases later with
    | nil =>
      injection rest with _ here
      exact atOnce here
    | cons e later =>
      -- another submission behind the last one
      injection rest with _ rest
      rw [rest] at noAttempts
      change attempts (later ++ _) = [] at noAttempts
      rw [attempts_append,attempts_submission acceptedToo] at noAttempts
      exact List.cons_ne_nil _ _ (List.append_eq_nil_iff.mp noAttempts).2
  · cases later with
    | nil =>
      injection rest with _ here
      exact atOnce here.symm
    | cons e later =>
      -- another submission behind an accepted one
      injection rest with first _
      rw [whole,earlier,← first,List.append_assoc,attempts_append,List.cons_append,attempts_submission acceptedToo,
        attempts_append,attempts_submission accepted] at order
      exact order.not_again rfl _ (List.mem_append_right _ List.mem_cons_self) rfl

def Closes (trace : List TunnelExchange) : Prop := ∀ e ∈ trace, ∃ flow answer, e = ⟨.closeFlow 0 flow,answer⟩

theorem Closes.noAttempts {trace : List TunnelExchange} (closes : Closes trace) : attempts trace = [] := by
  apply List.filterMap_eq_nil_iff.mpr
  intro e member
  obtain ⟨flow,answer,rfl⟩ := closes e member
  rfl

theorem Closes.noOpens {trace : List TunnelExchange} (closes : Closes trace) : ∀ e ∈ trace, opensFlow e = none := by
  intro e member
  obtain ⟨flow,answer,rfl⟩ := closes e member
  rfl

theorem Closes.noEcho {trace : List TunnelExchange} (closes : Closes trace) :
    ∀ e ∈ trace, ¬EchoOf config flows sequence e := by
  intro e member
  obtain ⟨flow,answer,rfl⟩ := closes e member
  rintro ⟨_,same,_⟩
  cases same

theorem closeFlows_closes (flows : List UInt64) : (closeFlows flows).Ensures fun trace _ => Closes trace := by
  induction flows with
  | nil => exact List.forall_mem_nil _
  | cons flow rest ih =>
    intro answer
    exact ih.mono fun trace _ closes => List.forall_mem_cons.mpr ⟨⟨flow,answer,rfl⟩,closes⟩

theorem Unechoed.append_right (unechoed : Unechoed config flows trace sequence) {closing : List TunnelExchange}
    (closes : Closes closing) : Unechoed config flows (trace ++ closing) sequence := by
  obtain ⟨before,answer,after,rfl,accepts,noAttempts,unheard⟩ := unechoed
  refine ⟨before,answer,after ++ closing,by simp,accepts,?_,?_⟩
  · rw [attempts_append,noAttempts,closes.noAttempts]
    rfl
  · exact List.forall_mem_append.mpr ⟨unheard,closes.noEcho⟩

/-- The open loop submits nothing and leaves the flows that it was given. -/
theorem openFlows_told (destination : Bytes) (remaining : Nat) (flows : List UInt64) :
    (openFlows config destination remaining flows).Ensures fun trace value =>
      attempts trace = [] ∧ (value.2 = none → value.1 = flows ++ trace.filterMap opensFlow) := by
  induction remaining generalizing flows with
  | zero => exact ⟨rfl,fun _ => (List.append_nil flows).symm⟩
  | succ remaining ih =>
    rw [openFlows,ensures_perform_bind]
    intro opened
    split
    next refused => exact ⟨rfl,fun none => by cases none⟩
    next usable =>
      apply (ih (flows ++ [opened.flow])).mono
      rintro trace ⟨opens,ended⟩ ⟨noAttempts,same⟩
      refine ⟨noAttempts,fun none => ?_⟩
      rw [not_or,not_or,not_not] at usable
      have reported : opensFlow ⟨.openConnectedFlow 0 (udpFlowRequest config destination flows.length),opened⟩ =
          some opened.flow := by
        rw [opensFlow,Bool.eq_false_iff.mpr usable.1,usable.2.1]
        rfl
      rw [same none,List.filterMap_cons_some reported,List.append_assoc]
      rfl

/-- What a run of the workload tells. -/
structure Disciplined (config : TunnelUdpWorkloadConfig) (trace : List TunnelExchange)
    (result : ScenarioResult) : Prop where
  own : ∀ e ∈ trace, attemptOf e ≠ none → ∃ sequence answer, sequence < config.datagramCount ∧
    e = submission config (trace.filterMap opensFlow) sequence answer
  order : ∃ last, InOrder 17 ⟨0,0⟩ (attempts trace) last
  bytesSent : result.bytesSent =
    UInt64.ofNat ((attempts trace).countP (fun a => a.accepted) * (payloadOf config 0).length)
  success : result.success = true ↔
    ∀ sequence < config.datagramCount, Delivered config (trace.filterMap opensFlow) trace sequence

/-- A run that ends before its first submission. -/
theorem Disciplined.idle {result : ScenarioResult} (some : config.datagramCount ≠ 0) (noAttempts : attempts trace = [])
    (failing : result.success = false) (nothing : result.bytesSent = 0) : Disciplined config trace result where
  own e member attempt := absurd (List.filterMap_eq_nil_iff.mp noAttempts e member) attempt
  order := by
    rw [noAttempts]
    exact ⟨_,.none _⟩
  bytesSent := by
    rw [nothing,noAttempts,List.countP_nil,Nat.zero_mul]
    rfl
  success := by
    refine ⟨fun success => Bool.noConfusion (failing.symm.trans success),fun all => ?_⟩
    have attempt := (all 0 (UInt32.pos_iff_ne_zero.mpr some)).attempt
    rw [noAttempts] at attempt
    cases attempt

theorem udpSummary_bytesSent {capabilities : Capabilities} {policy : RoutingPolicySnapshot} {t : UdpProgress} :
    (udpSummary api config capabilities policy t).bytesSent = t.result.bytesSent := by
  unfold udpSummary
  split <;> rfl

theorem udpSummary_success {capabilities : Capabilities} {policy : RoutingPolicySnapshot} {t : UdpProgress}
    (unset : t.result.success = false) : (udpSummary api config capabilities policy t).success = true ↔
      t.accepted = config.datagramCount ∧ (config.echoReplies = true → t.echoed = t.accepted) := by
  unfold udpSummary
  split
  next complete =>
    refine ⟨fun _ => ⟨complete.1,fun echoes => ?_⟩,fun _ => rfl⟩
    rcases complete.2 with silent | echoed
    · simp [echoes] at silent
    · exact echoed
  next incomplete =>
    refine ⟨fun success => Bool.noConfusion (unset.symm.trans success),fun complete => absurd ?_ incomplete⟩
    refine ⟨complete.1,?_⟩
    cases echoes : config.echoReplies with
    | false => exact .inl rfl
    | true => exact .inr (complete.2 echoes)

/-- A run that opens its flows, sends and closes. -/
theorem Transmitted.disciplined {opening sent closing : List TunnelExchange} {t : UdpProgress} {taken : Nat}
    {capabilities : Capabilities} {policy : RoutingPolicySnapshot} (noAttempts : attempts opening = [])
    (told : Transmitted config (opening.filterMap opensFlow) 0 config.datagramCount.toNat .start sent t taken)
    (closes : Closes closing) :
    Disciplined config (opening ++ (sent ++ closing)) (udpSummary api config capabilities policy t) := by
  have sameFlows : (opening ++ (sent ++ closing)).filterMap opensFlow = opening.filterMap opensFlow := by
    rw [List.filterMap_append,List.filterMap_append,List.filterMap_eq_nil_iff.mpr told.noOpens,
      List.filterMap_eq_nil_iff.mpr closes.noOpens,List.append_nil,List.append_nil]
  have sameAttempts : attempts (opening ++ (sent ++ closing)) = attempts sent := by
    rw [attempts_append,attempts_append,noAttempts,closes.noAttempts,List.nil_append,List.append_nil]
  obtain ⟨refusals,order⟩ := told.order
  have counted : (attempts sent).countP (fun a => a.accepted) = taken := by
    have passed := order.countP_accepted
    dsimp only at passed
    omega
  have toNat_accepted : t.accepted.toNat = taken := told.accepted.trans (Nat.zero_add taken)
  constructor
  · intro e member attempt
    rw [sameFlows]
    rcases List.mem_append.mp member with before | member
    · exact absurd (List.filterMap_eq_nil_iff.mp noAttempts e before) attempt
    rcases List.mem_append.mp member with here | behind
    · obtain ⟨sequence,answer,same,inside⟩ := told.own e here attempt
      exact ⟨sequence,answer,UInt32.lt_iff_toNat_lt.mpr (by omega),same⟩
    · exact absurd (List.filterMap_eq_nil_iff.mp closes.noAttempts e behind) attempt
  · rw [sameAttempts]
    exact ⟨_,order⟩
  · rw [udpSummary_bytesSent,told.bytesSent,sameAttempts,counted]
    exact UInt64.zero_add _
  · rw [udpSummary_success told.success,sameFlows]
    cases told.loopEnd with
    | complete all echoed delivered =>
      refine ⟨fun _ sequence inside => ?_,fun _ => ⟨?_,fun echoes => ?_⟩⟩
      · have inside := UInt32.lt_iff_toNat_lt.mp inside
        exact ((delivered sequence (Nat.zero_le _) (by omega)).append_right _).append_left _
      · exact UInt32.toNat_inj.mp (toNat_accepted.trans all)
      · rw [if_pos echoes] at echoed
        exact UInt32.toNat_inj.mp (by omega)
    | refused some =>
      refine ⟨fun complete => ?_,fun all => ?_⟩
      · have all := congrArg UInt32.toNat complete.1
        omega
      · -- the datagram behind the accepted ones is not accepted
        have inside : taken < 2 ^ 32 := Nat.lt_trans some config.datagramCount.toNat_lt
        have toNat_taken : (UInt32.ofNat taken).toNat = taken := UInt32.toNat_ofNat_of_lt' inside
        have missing := (all (UInt32.ofNat taken) (UInt32.lt_iff_toNat_lt.mpr (by rwa [toNat_taken]))).attempt
        rw [sameAttempts,toNat_taken] at missing
        have passed := order.item_lt_of_accepted _ missing rfl
        dsimp only at passed
        omega
    | unechoed sequence last some echoes echoed missed =>
      refine ⟨fun complete => ?_,fun all => ?_⟩
      · have short := congrArg UInt32.toNat (complete.2 echoes)
        omega
      · have unheard := (missed.append_right closes).append_left opening
        have inside : sequence < config.datagramCount := UInt32.lt_iff_toNat_lt.mpr (by omega)
        rw [← sameAttempts] at order
        exact absurd (all sequence inside) (unheard.not_delivered echoes order)

theorem exchangeUdp_told {capabilities : Capabilities} {policy : RoutingPolicySnapshot} {opening : List TunnelExchange}
    (noAttempts : attempts opening = []) :
    (exchangeUdp api config capabilities policy (opening.filterMap opensFlow)).Ensures fun trace result =>
      Disciplined config (opening ++ trace) result := by
  unfold exchangeUdp
  rw [ensures_bind]
  have inside : 0 + config.datagramCount.toNat < 2 ^ 32 := by
    rw [Nat.zero_add]
    exact config.datagramCount.toNat_lt
  refine Ensures.mono (sendDatagrams_told UInt32.toNat_zero inside rfl rfl (by split <;> rfl)) ?_
  rintro sent t ⟨taken,told⟩
  split
  · exact told.disciplined noAttempts (List.forall_mem_nil _)
  · rw [ensures_bind]
    apply (closeFlows_closes _).mono
    intro closing _ closes
    rw [ensures_pure,List.append_nil]
    exact told.disciplined noAttempts closes

theorem runWgnxTunnelUdpWorkload_disciplined (some : config.datagramCount ≠ 0) :
    (runWgnxTunnelUdpWorkload api config).Ensures (Disciplined config) := by
  unfold runWgnxTunnelUdpWorkload
  dsimp only
  rw [ensures_perform_bind]
  intro availability
  refine Ensures.ite (fun _ => ensures_pure.mpr (.idle some rfl rfl rfl)) fun _ => ?_
  refine Ensures.ite (fun _ => ensures_pure.mpr (.idle some rfl rfl rfl)) fun _ => ?_
  refine Ensures.ite (fun _ => ensures_pure.mpr (.idle some rfl rfl rfl)) fun _ => ?_
  rw [ensures_perform_bind]
  intro openedRoot
  refine Ensures.ite (fun _ => ensures_pure.mpr (.idle some rfl rfl rfl)) fun _ => ?_
  rw [ensures_perform_bind]
  intro root
  refine Ensures.ite (fun _ => ensures_pure.mpr (.idle some rfl rfl rfl)) fun _ => ?_
  rw [ensures_perform_bind]
  intro openedClient
  refine Ensures.ite (fun _ => ensures_pure.mpr (.idle some rfl rfl rfl)) fun _ => ?_
  rw [ensures_perform_bind]
  intro capabilities
  refine Ensures.ite (fun _ => ensures_pure.mpr (.idle some rfl rfl rfl)) fun _ => ?_
  rw [ensures_perform_bind]
  intro policy
  refine Ensures.ite (fun _ => ensures_pure.mpr (.idle some rfl rfl rfl)) fun _ => ?_
  split
  · exact .idle some rfl rfl rfl
  rw [ensures_perform_bind]
  intro event
  refine Ensures.ite (fun _ => ensures_pure.mpr (.idle some rfl rfl rfl)) fun _ => ?_
  rw [ensures_bind]
  apply (openFlows_told _ _ _).mono
  rintro opens ⟨flows,ended⟩ ⟨noAttempts,same⟩
  cases ended with
  | some opened =>
    dsimp only
    rw [ensures_bind]
    apply (closeFlows_closes _).mono
    intro closing _ closes
    refine .idle some ?_ rfl rfl
    show attempts (opens ++ (closing ++ [])) = []
    rw [attempts_append,attempts_append,noAttempts,closes.noAttempts]
    rfl
  | none =>
    have flows_eq : flows = opens.filterMap opensFlow := same rfl
    let opening : List TunnelExchange := ⟨.queryServiceAvailability,availability⟩ :: ⟨.openRoot,openedRoot⟩ ::
      ⟨.getTunCapabilities,root⟩ :: ⟨.openTunnelClient 0,openedClient⟩ :: ⟨.getCapabilities 0,capabilities⟩ ::
      ⟨.getRoutingPolicySnapshot 0,policy⟩ :: ⟨.getCompletionEvent 0,event⟩ :: opens
    dsimp only
    rw [flows_eq]
    exact @exchangeUdp_told config api capabilities policy opening noAttempts

/-- The answers that let the workload go on: no call fails, and each wait brings what it waits for. -/
def Serves (api : TunnelApi) (config : TunnelUdpWorkloadConfig) : TunnelExchange → Prop
  | ⟨.queryServiceAvailability,answer⟩ => failed answer.rc = false ∧ answer.present = true
  | ⟨.openRoot,rc⟩ | ⟨.openTunnelClient _,rc⟩ | ⟨.getCompletionEvent _,rc⟩ => failed rc = false
  | ⟨.getTunCapabilities,answer⟩ => failed answer.rc = false ∧ answer.apiVersion = api.tunApiVersion
  | ⟨.getCapabilities _,answer⟩ => failed answer.rc = false ∧ answer.apiVersion = api.tunApiVersion ∧
      config.payloadBytes ≤ answer.maximumUdpPayloadBytes
  | ⟨.getRoutingPolicySnapshot _,answer⟩ => failed answer.rc = false
  | ⟨.openConnectedFlow _ _,answer⟩ =>
    failed answer.rc = false ∧ answer.status = .success ∧ answer.advertisedPort ≠ 0
  | ⟨.sendUdpDatagram _ _ _,answer⟩ => failed answer.rc = false ∧ (answer.status = .success ∨ answer.status = .queueFull)
  | ⟨.waitFor _ flow (.echo expected) timeoutMs,script⟩ => EchoHeard flow expected timeoutMs script
  | ⟨.waitFor _ flow .writable timeoutMs,script⟩ => WritableHeard flow timeoutMs script
  | _ => True

/-- A datagram was refused at each of its 17 attempts. -/
def Exhausted (trace : List TunnelExchange) : Prop := ∃ item, 17 ≤ (attempts trace).count ⟨item,false⟩

theorem Exhausted.append_left (exhausted : Exhausted trace) (first : List TunnelExchange) : Exhausted (first ++ trace) := by
  obtain ⟨item,many⟩ := exhausted
  refine ⟨item,?_⟩
  rw [attempts_append,List.count_append]
  omega

theorem Exhausted.append_right (exhausted : Exhausted trace) (second : List TunnelExchange) :
    Exhausted (trace ++ second) := by
  obtain ⟨item,many⟩ := exhausted
  refine ⟨item,?_⟩
  rw [attempts_append,List.count_append]
  omega

theorem submitDatagram_completes (retriesLeft : Nat) {s : UdpProgress} (silent : s.result.detail = []) :
    Completes (Serves api config) (submitDatagram api config sequence (descriptorOf config flows sequence)
      (payloadOf config sequence) retriesLeft s) fun trace value =>
        (failed value.1 = false ∧ value.2.result.detail = [] ∧ SameCounts s value.2) ∨
          retriesLeft + 1 ≤ (attempts trace).count ⟨sequence.toNat,false⟩ := by
  induction retriesLeft generalizing s with
  | zero =>
    unfold submitDatagram
    refine completes_call fun answer served => ?_
    obtain ⟨succeeds,status⟩ := served
    dsimp only
    rw [if_neg (by simp [succeeds])]
    split
    next accepted => exact completes_pure (.inl ⟨succeeds,silent,rfl,rfl,rfl,rfl⟩)
    next refused =>
      refine completes_pure (.inr ?_)
      show 0 + 1 ≤ (attempts [submission config flows sequence answer]).count _
      rw [attempts,List.filterMap_cons_some (attemptOf_submission ..),refused_of_status refused]
      simp
  | succ retriesLeft ih =>
    unfold submitDatagram
    refine completes_call fun answer served => ?_
    obtain ⟨succeeds,status⟩ := served
    dsimp only
    rw [if_neg (by simp [succeeds])]
    split
    next accepted => exact completes_pure (.inl ⟨succeeds,silent,rfl,rfl,rfl,rfl⟩)
    next refused =>
      rw [if_neg (not_not.mpr (status.resolve_left refused))]
      refine completes_call fun script heard => ?_
      have heard : (WaitGoal.writable.result api (flowOf config flows sequence) config.receiveDeadlineMs script).writable =
          true := writable_reported_iff.mpr heard
      split
      next unheard => simp [descriptorOf,heard] at unheard
      next =>
        refine Completes.mono (ih (by exact silent)) fun trace value told => ?_
        have behind : attempts (submission config flows sequence answer ::
            ⟨.waitFor 0 (flowOf config flows sequence) .writable config.receiveDeadlineMs,script⟩ :: trace) =
              ⟨sequence.toNat,false⟩ :: attempts trace := by
          rw [attempts,List.filterMap_cons_some (attemptOf_submission ..),refused_of_status refused]
          rfl
        rcases told with ⟨goesOn,empty,counts⟩ | many
        · exact .inl ⟨goesOn,empty,counts.accepted,counts.echoed,counts.bytesSent,counts.success⟩
        · right
          show retriesLeft + 1 + 1 ≤ (attempts (submission config flows sequence answer :: _)).count _
          refine Nat.le_trans ?_ (Nat.le_of_eq (congrArg (List.count _) behind.symm))
          rw [List.count_cons_self]
          omega

theorem awaitEcho_completes (s : UdpProgress) :
    Completes (Serves api config) (awaitEcho api config sequence (flowOf config flows sequence)
      (payloadOf config sequence) s) fun _ value => value.1 = true ∧ value.2.result.detail = s.result.detail ∧
        value.2.accepted = s.accepted ∧ (config.echoReplies = true → value.2.echoed = s.echoed + 1) := by
  unfold awaitEcho
  split
  next silent => exact completes_pure ⟨rfl,rfl,rfl,fun echoes => by simp [echoes] at silent⟩
  next =>
    refine completes_call fun script heard => ?_
    have heard : ((WaitGoal.echo (payloadOf config sequence)).result api (flowOf config flows sequence)
        config.receiveDeadlineMs script).receivedExpected = true := echo_received_iff.mpr heard
    dsimp only
    rw [heard]
    exact completes_pure ⟨rfl,rfl,rfl,fun _ => rfl⟩

theorem add_ofNat_succ (value : UInt32) (count : Nat) :
    value + UInt32.ofNat (count + 1) = value + 1 + UInt32.ofNat count := by
  rw [UInt32.ofNat_add,UInt32.add_comm (UInt32.ofNat count),← UInt32.add_assoc]
  rfl

structure Counted (config : TunnelUdpWorkloadConfig) (count : Nat) (s t : UdpProgress) : Prop where
  accepted : t.accepted = s.accepted + UInt32.ofNat count
  echoed : config.echoReplies = true → t.echoed = s.echoed + UInt32.ofNat count

theorem sendDatagrams_completes (remaining : Nat) {s : UdpProgress} (silent : s.result.detail = []) :
    Completes (Serves api config) (sendDatagrams api config flows remaining sequence s) fun trace t =>
      Counted config remaining s t ∨ Exhausted trace := by
  induction remaining generalizing sequence s with
  | zero => exact completes_pure (.inl ⟨(UInt32.add_zero _).symm,fun _ => (UInt32.add_zero _).symm⟩)
  | succ remaining ih =>
    rw [sendDatagrams]
    refine (submitDatagram_completes maximumQueueFullRetriesPerDatagram silent).bind ?_
    rintro submitted ⟨rc,t⟩ (⟨succeeds,empty,counts⟩ | many)
    · dsimp only at succeeds empty counts ⊢
      rw [if_neg (by simp [succeeds,empty])]
      refine (awaitEcho_completes (t.taken (payloadOf config sequence).length)).bind ?_
      rintro waited ⟨goesOn,u⟩ ⟨on,detail,accepted,echoed⟩
      dsimp only at on detail accepted echoed ⊢
      rw [on,if_neg (by simp)]
      have rest : Completes (Serves api config) (sendDatagrams api config flows remaining (sequence + 1) u)
          fun trace v => Counted config (remaining + 1) s v ∨ Exhausted trace := by
        refine (ih (detail.trans empty)).mono fun trace v told => told.imp_left fun counted => ⟨?_,fun echoes => ?_⟩
        · rw [counted.accepted,accepted,add_ofNat_succ,← counts.accepted]
          rfl
        · rw [counted.echoed echoes,echoed echoes,add_ofNat_succ,← counts.echoed]
          rfl
      split
      · refine completes_call fun answer _ => rest.mono fun trace v told => told.imp_right fun exhausted => ?_
        exact (exhausted.append_left [⟨.sleepMilliseconds config.pacingMs,answer⟩]).append_left _ |>.append_left _
      · exact rest.mono fun trace v told => told.imp_right fun exhausted => (exhausted.append_left _).append_left _
    · -- the datagram was refused for the last time, and whatever follows changes nothing
      exact ensures_of_always fun trace _ _ => .inr (Exhausted.append_right ⟨_,many⟩ trace)

theorem openFlows_completes (destination : Bytes) (remaining : Nat) (flows : List UInt64) :
    Completes (Serves api config) (openFlows config destination remaining flows) fun _ value => value.2 = none := by
  induction remaining generalizing flows with
  | zero => exact completes_pure rfl
  | succ remaining ih =>
    rw [openFlows]
    refine completes_call fun opened served => ?_
    obtain ⟨succeeds,status,port⟩ := served
    rw [if_neg (by simp [succeeds,status,port])]
    exact ih (flows ++ [opened.flow])

theorem exchangeUdp_completes (capabilities : Capabilities) (policy : RoutingPolicySnapshot) (flows : List UInt64) :
    Completes (Serves api config) (exchangeUdp api config capabilities policy flows) fun trace result =>
      result.success = true ∨ Exhausted trace := by
  unfold exchangeUdp
  refine (sendDatagrams_completes config.datagramCount.toNat rfl).bind fun trace t told => ?_
  have verdict : (udpSummary api config capabilities policy t).success = true ∨ Exhausted trace := by
    refine told.imp_left fun counted => ?_
    have accepted : t.accepted = config.datagramCount := by
      rw [counted.accepted,UInt32.ofNat_toNat]
      exact UInt32.zero_add _
    have complete : t.accepted = config.datagramCount ∧ (!config.echoReplies ∨ t.echoed = t.accepted) := by
      refine ⟨accepted,?_⟩
      cases echoes : config.echoReplies with
      | false => exact .inl rfl
      | true =>
        right
        rw [accepted,counted.echoed echoes,UInt32.ofNat_toNat]
        exact UInt32.zero_add _
    rw [udpSummary,if_pos complete]
  split
  · refine completes_pure ?_
    rw [List.append_nil]
    exact verdict
  · -- the answers of the close loop are not looked at
    refine Completes.bind (Q := fun _ _ => True) (ensures_of_always fun _ _ _ => trivial) fun closing _ _ =>
      completes_pure ?_
    rw [List.append_nil]
    exact verdict.imp_right fun exhausted => exhausted.append_right closing

theorem runWgnxTunnelUdpWorkload_completes (flows : config.concurrentFlows ≠ 0)
    (few : config.concurrentFlows ≤ api.maximumFlowsPerClient) (parses : api.inetPton config.destinationIpv4 ≠ none) :
    Completes (Serves api config) (runWgnxTunnelUdpWorkload api config) fun trace result =>
      result.success = true ∨ Exhausted trace := by
  unfold runWgnxTunnelUdpWorkload
  dsimp only
  refine completes_call fun availability served => ?_
  obtain ⟨asked,present⟩ := served
  rw [if_neg (by simp [asked]),if_neg (by simp [present]),if_neg (by simp [flows,few])]
  refine completes_call fun rc (opened : failed rc = false) => ?_
  rw [if_neg (by simp [opened])]
  refine completes_call fun root served => ?_
  obtain ⟨answered,version⟩ := served
  rw [if_neg (by simp [answered,version])]
  refine completes_call fun rc (opened : failed rc = false) => ?_
  rw [if_neg (by simp [opened])]
  refine completes_call fun capabilities served => ?_
  obtain ⟨answered,version,fits⟩ := served
  rw [if_neg (by simp [answered,version,fits])]
  refine completes_call fun policy (answered : failed policy.rc = false) => ?_
  rw [if_neg (by simp [answered])]
  split
  next none_ => exact absurd none_ parses
  next destination _ =>
    refine completes_call fun rc (opened : failed rc = false) => ?_
    rw [if_neg (by simp [opened])]
    refine (openFlows_completes destination config.concurrentFlows.toNat []).bind ?_
    rintro opening ⟨flows,ended⟩ all
    cases all
    refine (exchangeUdp_completes capabilities policy flows).mono fun trace result told => told.imp_right fun exhausted => ?_
    exact exhausted.append_left (⟨.queryServiceAvailability,availability⟩ :: _ :: _ :: _ :: _ :: _ :: _ :: opening)

end Datagrams

/-- With a payload size and a number of datagrams that the configuration allows: every submission is one
of a configured datagram with its own payload and tag on its own flow; no datagram is submitted more
than 17 times, again behind its acceptance, or before all earlier ones were accepted; the bytes sent
count the accepted ones; and the workload succeeds if and only if every datagram is accepted and, with
echoes, its echo received on its flow before the next submission. It does not stop earlier: where no
call fails and every wait brings what it waits for, it succeeds unless a datagram is refused 17 times. -/
theorem retryDiscipline (api : TunnelApi) (config : TunnelUdpWorkloadConfig) (service : Service TunnelCommand.Answer)
    (wide : minimumPayloadBytes ≤ config.payloadBytes) (some : config.datagramCount ≠ 0) :
    let run := (runWgnxTunnelUdpWorkload api config).run service []
    let flows := run.1.filterMap opensFlow
    (∀ e ∈ run.1, attemptOf e ≠ none → ∃ sequence answer, sequence < config.datagramCount ∧
      e = submission config flows sequence answer) ∧
    (∀ sequence, (attempts run.1).countP (fun a => a.item = sequence) ≤ 17) ∧
    (∀ before a after, attempts run.1 = before ++ a :: after →
      (a.accepted = true → ∀ later ∈ after, later.item ≠ a.item) ∧
      ∀ earlier < a.item, ⟨earlier,true⟩ ∈ before) ∧
    run.2.bytesSent =
      UInt64.ofNat ((attempts run.1).countP (fun a => a.accepted) * config.payloadBytes.toNat) ∧
    (run.2.success = true ↔
      ∀ sequence < config.datagramCount, Delivered config flows run.1 sequence) ∧
    (config.concurrentFlows ≠ 0 → config.concurrentFlows ≤ api.maximumFlowsPerClient →
      api.inetPton config.destinationIpv4 ≠ none → (∀ e ∈ run.1, Serves api config e) →
      run.2.success = true ∨ Exhausted run.1) := by
  intro run flows
  have told : Disciplined config run.1 run.2 := (runWgnxTunnelUdpWorkload_disciplined some).of_run service
  obtain ⟨last,order⟩ := told.order
  have size : (payloadOf config 0).length = config.payloadBytes.toNat := by
    have atLeast : payloadHeaderBytes ≤ config.payloadBytes.toNat := wide
    rw [payloadOf,length_buildPayload,Nat.add_sub_cancel' atLeast]
  refine ⟨told.own,order.attempts_le,fun before a after split => ?_,?_,told.success,fun flows few parses serves => ?_⟩
  · rw [split] at order
    exact ⟨order.not_again,fun earlier below => order.accepted_before (Nat.zero_le _) below⟩
  · rw [told.bytesSent,size]
  · exact Ensures.of_run (runWgnxTunnelUdpWorkload_completes flows few parses) service serves

def echoRecord (flow : UInt64) (size : Nat) : CompletionRecord × FlowStateAnswer :=
  (⟨.inboundUdpDatagram,flow,.udp,.open,.none,0,size⟩,⟨0,.success,true⟩)

def writableRecord (flow : UInt64) : CompletionRecord × FlowStateAnswer :=
  (⟨.writable,flow,.udp,.open,.none,0,0⟩,⟨0,.success,true⟩)

/-- A service that opens the flows 5 and 6, refuses the first submission, and echoes every datagram behind a stale
one on the other flow. -/
def refusingService : Service TunnelCommand.Answer := fun trace command => match command with
  | .openConnectedFlow _ _ => ⟨0,.success,5 + UInt64.ofNat (trace.countP fun e => (opensFlow e).isSome),9⟩
  | .sendUdpDatagram _ _ _ => ⟨0,if attempts trace = [] then .queueFull else .success,0⟩
  | .waitFor _ flow .writable _ => ⟨1000,0,[⟨0,0,0,[⟨0,.success,[writableRecord flow],[]⟩]⟩]⟩
  | .waitFor _ flow (.echo expected) _ => ⟨1000,0,[⟨0,0,0,[⟨0,.success,[echoRecord (11 - flow) expected.length],expected⟩]⟩,
      ⟨1,1,0,[⟨0,.success,[echoRecord flow expected.length],expected⟩]⟩]⟩
  | command => portlessService trace command

/-- Two datagrams on two flows, the first of them at its second attempt, and both echoed. -/
theorem retryDiscipline_refused :
    let config : TunnelUdpWorkloadConfig := ⟨"10.0.0.1".toList,7,1,24,2,0,2,1000,0,true⟩
    let run := (runWgnxTunnelUdpWorkload portlessApi config).run refusingService []
    (∀ sequence < 2, Delivered config [5,6] run.1 sequence) ∧ attempts run.1 = [⟨0,false⟩,⟨0,true⟩,⟨1,true⟩] ∧
      run.2.bytesSent = UInt64.ofNat (2 * 24) := by
  intro config run
  obtain ⟨_,_,_,sent,verdict,_⟩ := retryDiscipline portlessApi config refusingService (by decide) (by decide)
  have flows : run.1.filterMap opensFlow = [5,6] := by decide +kernel
  have tried : attempts run.1 = [⟨0,false⟩,⟨0,true⟩,⟨1,true⟩] := by decide +kernel
  refine ⟨?_,tried,?_⟩
  · rw [← flows]
    exact verdict.mp (by decide +kernel)
  · rw [sent,tried]
    rfl

end NxReverse.Toolbox
