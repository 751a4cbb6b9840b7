import NxReverse.Toolbox.BsdSystemUdp
import NxReverse.Toolbox.ConfigRoundTrip

/-! When the `bsd:s` workload that requires writable recovery has seen one: a send that met a full
queue, and a poll of its socket behind it that reported the socket writable. -/
namespace NxReverse.Toolbox.BsdSystemUdp

open Text Words Program

abbrev SocketExchange := Exchange SocketCommand.Answer

section Recovery

variable (api : SocketApi)

def meetsFullQueue (descriptor : Int) : SocketExchange → Prop
  | ⟨.send other _,answer⟩ => other = descriptor ∧ ∃ errno, answer = .error errno ∧ api.isAgain errno = true
  | _ => False

def reportsWritable (descriptor : Int) : SocketExchange → Prop
  | ⟨.poll other _ _,answer⟩ => other = descriptor ∧ has answer.revents api.pollOut = true
  | _ => False

/-- A send returned `EAGAIN`, and a poll of that socket behind it reported `POLLOUT`. -/
def Recovers (trace : List SocketExchange) : Prop :=
  ∃ descriptor before refused behind writable after,
    trace = before ++ refused :: (behind ++ writable :: after) ∧
      meetsFullQueue api descriptor refused ∧ reportsWritable api descriptor writable

def isTalk : SocketExchange → Bool
  | ⟨.send _ _,_⟩ => true
  | ⟨.poll _ _ _,_⟩ => true
  | _ => false

def talk (trace : List SocketExchange) : List SocketExchange := trace.filter isTalk

/-- The only datagram is accepted at the first try, and the poll for a reply times out. -/
def AcceptedAtOnce (trace : List SocketExchange) : Prop :=
  ∃ descriptor payload events timeoutMs revents,
    talk trace = [⟨.send descriptor payload,.ok payload.length⟩,
      ⟨.poll descriptor events timeoutMs,⟨.ok 0,revents⟩⟩]

variable {api}

theorem Recovers.append_right {first : List SocketExchange} (recovers : Recovers api first)
    (second : List SocketExchange) : Recovers api (first ++ second) := by
  obtain ⟨descriptor,before,refused,behind,writable,after,rfl,full,ready⟩ := recovers
  exact ⟨descriptor,before,refused,behind,writable,after ++ second,by simp,full,ready⟩

theorem Recovers.append_left {second : List SocketExchange} (recovers : Recovers api second)
    (first : List SocketExchange) : Recovers api (first ++ second) := by
  obtain ⟨descriptor,before,refused,behind,writable,after,rfl,full,ready⟩ := recovers
  exact ⟨descriptor,first ++ before,refused,behind,writable,after,by simp,full,ready⟩

/-- Where the only datagram is accepted at once no queue was full. -/
theorem AcceptedAtOnce.not_recovers {trace : List SocketExchange} (accepted : AcceptedAtOnce trace) :
    ¬Recovers api trace := by
  obtain ⟨descriptor,payload,events,timeoutMs,revents,spoken⟩ := accepted
  rintro ⟨other,before,⟨command,answer⟩,behind,writable,after,rfl,full,_⟩
  cases command with
  | send target data =>
    obtain ⟨_,errno,rfl,_⟩ := full
    have member : (⟨.send target data,.error errno⟩ : SocketExchange) ∈
        talk (before ++ ⟨.send target data,.error errno⟩ :: (behind ++ writable :: after)) := by
      simp [talk,isTalk]
    rw [spoken] at member
    simp at member
  | _ => exact full.elim

theorem acceptedAtOnce_congr {trace other : List SocketExchange} (same : talk trace = talk other) :
    AcceptedAtOnce trace ↔ AcceptedAtOnce other := by
  unfold AcceptedAtOnce
  rw [same]

theorem talk_append (first second : List SocketExchange) : talk (first ++ second) = talk first ++ talk second :=
  List.filter_append first second

theorem talk_cons_of_quiet {exchange : SocketExchange} (noTalk : isTalk exchange = false)
    (trace : List SocketExchange) : talk (exchange :: trace) = talk trace :=
  List.filter_cons_of_neg (by simp [noTalk])

/-- A part of the workload that neither sends nor polls, and returns a value as told. -/
def Quiet (told : α → Prop) (p : SocketProgram α) : Prop := p.Ensures fun trace value => talk trace = [] ∧ told value

section Quiet

variable {told : α → Prop}

theorem quiet_pure {value : α} (holds : told value) : Quiet told (pure value : SocketProgram α) := ⟨rfl,holds⟩

theorem quiet_ask {command : SocketCommand} (noTalk : ∀ answer, isTalk ⟨command,answer⟩ = false) :
    Quiet (fun _ => True) (ask command) :=
  fun answer => ⟨talk_cons_of_quiet (noTalk answer) [],trivial⟩

theorem quiet_call {command : SocketCommand} {next : command.Answer → SocketProgram α}
    (noTalk : ∀ answer, isTalk ⟨command,answer⟩ = false) (rest : ∀ answer, Quiet told (next answer)) :
    Quiet told (ask command >>= next) := by
  intro answer
  apply (rest answer).mono
  rintro trace value ⟨spoken,holds⟩
  exact ⟨(talk_cons_of_quiet (noTalk answer) trace).trans spoken,holds⟩

theorem quiet_bind {p : SocketProgram α} {f : α → SocketProgram β} {toldLater : β → Prop} (first : Quiet told p)
    (rest : ∀ value, told value → Quiet toldLater (f value)) : Quiet toldLater (p >>= f) := by
  rw [Quiet,ensures_bind]
  apply first.mono
  rintro trace value ⟨spoken,holds⟩
  apply (rest value holds).mono
  rintro later result ⟨spokenLater,holdsLater⟩
  rw [talk_append,spoken,spokenLater]
  exact ⟨rfl,holdsLater⟩

end Quiet

theorem quiet_closeDescriptors (descriptors : List Nat) : Quiet (fun _ => True) (closeDescriptors descriptors) := by
  induction descriptors with
  | nil => exact quiet_pure trivial
  | cons descriptor rest ih => exact quiet_call (fun _ => rfl) fun _ => ih

/-- A check that ends the workload does so without success. -/
def Unsuccessful (checked : Except SocketResult Unit) : Prop := ∀ result, checked = .error result → result.success = false

theorem unsuccessful_ok : Unsuccessful (.ok ()) := by
  intro result same
  cases same

theorem unsuccessful_error {result : SocketResult} (failing : result.success = false) :
    Unsuccessful (.error result) := by
  rintro other ⟨⟩
  exact failing

theorem quiet_verifyVisibleLocalEndpoint (descriptor : Int) (flowIndex : Nat) :
    Quiet Unsuccessful (verifyVisibleLocalEndpoint api descriptor .start flowIndex) := by
  apply quiet_call (fun _ => rfl)
  intro answer
  cases answer with
  | error errno => exact quiet_pure (unsuccessful_error rfl)
  | ok answer =>
    dsimp only
    split
    · exact quiet_pure (unsuccessful_error rfl)
    · exact quiet_pure unsuccessful_ok

theorem quiet_configureNonBlocking (descriptor : Int) (flowIndex : Nat) :
    Quiet Unsuccessful (configureNonBlocking api descriptor .start flowIndex) := by
  apply quiet_call (fun _ => rfl)
  intro answer
  cases answer with
  | error errno => exact quiet_pure (unsuccessful_error rfl)
  | ok flags =>
    apply quiet_call (fun _ => rfl)
    intro answer
    cases answer with
    | error errno => exact quiet_pure (unsuccessful_error rfl)
    | ok _ => exact quiet_pure unsuccessful_ok

theorem quiet_verifyPostRouteRejection (descriptor : Int) :
    Quiet Unsuccessful (verifyPostRouteRejection api descriptor .start) := by
  apply quiet_call (fun _ => rfl)
  intro answer
  cases answer with
  | ok _ => exact quiet_pure (unsuccessful_error rfl)
  | error errno =>
    dsimp only
    split
    · exact quiet_pure (unsuccessful_error rfl)
    · exact quiet_pure unsuccessful_ok

/-- The open loop, which ends early without success. -/
theorem quiet_openSockets (remote : SockaddrIn) (remaining : Nat) (descriptors : List Nat) :
    Quiet (fun opened => ∀ result, opened.2 = some result → result.success = false)
      (openSockets api remote remaining descriptors) := by
  have ends : ∀ {result : SocketResult}, result.success = false → ∀ other, some result = some other →
      other.success = false := by
    rintro result failing other ⟨⟩
    exact failing
  induction remaining generalizing descriptors with
  | zero =>
    apply quiet_pure
    intro result none
    cases none
  | succ remaining ih =>
    apply quiet_call (fun _ => rfl)
    intro answer
    cases answer with
    | error errno => exact quiet_pure (ends rfl)
    | ok descriptor =>
      apply quiet_call (fun _ => rfl)
      intro answer
      cases answer with
      | error errno => exact quiet_pure (ends rfl)
      | ok _ =>
        apply quiet_bind (quiet_verifyVisibleLocalEndpoint _ _)
        intro checked failing
        cases checked with
        | error result => exact quiet_pure (ends (failing result rfl))
        | ok _ =>
          apply quiet_bind (quiet_configureNonBlocking _ _)
          intro configured failing
          cases configured with
          | error result => exact quiet_pure (ends (failing result rfl))
          | ok _ => exact ih _

/-- What a send with its retries tells: a recovery where it reports one, a datagram accepted at the
first try or a recovery where it succeeds, and no datagram accepted at the first try where it fails. -/
structure SendTold (api : SocketApi) (descriptor : Int) (payload : Bytes) (reported : Bool)
    (trace : List SocketExchange) (result : BsdSendResult) : Prop where
  allTalk : talk trace = trace
  writable : result.writableAfterQueueFull = true → reported = true ∨ Recovers api trace
  accepted : result.sent = true → Recovers api trace ∨ trace = [⟨.send descriptor payload,.ok payload.length⟩]
  refused : result.sent = false → ¬AcceptedAtOnce trace

theorem not_acceptedAtOnce_of_short {exchange : SocketExchange} : ¬AcceptedAtOnce [exchange] := by
  rintro ⟨descriptor,payload,events,timeoutMs,revents,spoken⟩
  have short := List.length_filter_le isTalk [exchange]
  rw [← talk,spoken] at short
  simp at short

theorem not_acceptedAtOnce_of_error {descriptor : Int} {payload : Bytes} {errno : Int} (rest : List SocketExchange) :
    ¬AcceptedAtOnce (⟨.send descriptor payload,.error errno⟩ :: rest) := by
  rintro ⟨other,data,events,timeoutMs,revents,spoken⟩
  have first : (⟨.send descriptor payload,.error errno⟩ : SocketExchange) =
      ⟨.send other data,.ok data.length⟩ := (List.cons.inj spoken).1
  simp at first

section Sends

variable {descriptor : Int} {payload : Bytes} {deadlineMs : UInt32} {reported : Bool} {result : BsdSendResult}

theorem SendTold.failing {trace : List SocketExchange} (unsent : result.sent = false)
    (same : result.writableAfterQueueFull = reported) (allTalk : talk trace = trace)
    (refused : ¬AcceptedAtOnce trace) : SendTold api descriptor payload reported trace result where
  allTalk := allTalk
  writable told := .inl (same ▸ told)
  accepted sent := by
    rw [unsent] at sent
    cases sent
  refused _ := refused

/-- The send itself fails. -/
theorem sendTold_refused (unsent : result.sent = false) (same : result.writableAfterQueueFull = reported)
    (answer : Except Int Nat) : SendTold api descriptor payload reported [⟨.send descriptor payload,answer⟩] result :=
  .failing unsent same rfl not_acceptedAtOnce_of_short

/-- The poll behind a full queue fails. -/
theorem sendTold_polled (unsent : result.sent = false) (same : result.writableAfterQueueFull = reported) (errno : Int)
    (events : Int16) (timeoutMs : Int32) (answer : PollAnswer) :
    SendTold api descriptor payload reported
      [⟨.send descriptor payload,.error errno⟩,⟨.poll descriptor events timeoutMs,answer⟩] result :=
  .failing unsent same rfl (not_acceptedAtOnce_of_error _)

theorem sendTold_answered (unsent : result.sent = false) (same : result.writableAfterQueueFull = reported) (count : Nat) :
    SendTold api descriptor payload reported [⟨.send descriptor payload,.ok count⟩]
      (if count = payload.length then { result with sent := true }
        else { result with detail := "short UDP send".toList }) := by
  split
  next whole =>
    refine ⟨rfl,fun told => .inl (same ▸ told),fun _ => .inr (by rw [whole]),fun failing => ?_⟩
    cases failing
  next => exact sendTold_refused (by exact unsent) (by exact same) (.ok count)

/-- What follows a poll that reported the socket writable tells of a recovery in any case. -/
theorem SendTold.behind {trace : List SocketExchange} {errno : Int} {events : Int16} {timeoutMs : Int32}
    {answer : PollAnswer} (again : api.isAgain errno = true) (ready : has answer.revents api.pollOut = true)
    {earlier : Bool} (told : SendTold api descriptor payload earlier trace result) :
    SendTold api descriptor payload reported
      (⟨.send descriptor payload,.error errno⟩ :: ⟨.poll descriptor events timeoutMs,answer⟩ :: trace) result := by
  have recovers : Recovers api
      (⟨.send descriptor payload,.error errno⟩ :: ⟨.poll descriptor events timeoutMs,answer⟩ :: trace) :=
    ⟨descriptor,[],_,[],_,trace,rfl,⟨rfl,errno,rfl,again⟩,rfl,ready⟩
  refine ⟨?_,fun _ => .inr recovers,fun _ => .inl recovers,fun _ => not_acceptedAtOnce_of_error _⟩
  rw [talk,List.filter_cons_of_pos rfl,List.filter_cons_of_pos rfl,← talk,told.allTalk]

theorem sendWithWritableRetry_told (retriesLeft : Nat) (unsent : result.sent = false) :
    (sendWithWritableRetry api descriptor payload deadlineMs retriesLeft result).Ensures
      (SendTold api descriptor payload result.writableAfterQueueFull) := by
  induction retriesLeft generalizing result with
  | zero =>
    rw [sendWithWritableRetry,ensures_perform_bind]
    intro answer
    cases answer with
    | ok count => exact sendTold_answered unsent rfl count
    | error errno => exact sendTold_refused (by exact unsent) (by rfl) (.error errno)
  | succ retriesLeft ih =>
    rw [sendWithWritableRetry,ensures_perform_bind]
    intro answer
    cases answer with
    | ok count => exact sendTold_answered unsent rfl count
    | error errno =>
      dsimp only
      split
      · exact sendTold_refused (by exact unsent) (by rfl) (.error errno)
      next again =>
        rw [ensures_perform_bind]
        intro writable
        split
        · exact sendTold_polled (by exact unsent) (by rfl) errno _ _ writable
        · exact sendTold_polled (by exact unsent) (by rfl) errno _ _ writable
        · split
          · exact sendTold_polled (by exact unsent) (by rfl) errno _ _ writable
          · split
            · exact sendTold_polled (by exact unsent) (by rfl) errno _ _ writable
            next ready =>
              refine Ensures.mono (ih (by exact unsent)) ?_
              intro trace value told
              exact told.behind (by simpa using again) (by simpa using ready)

end Sends

/-- A success comes with a recovery, or behind a datagram that was accepted at once where no reply is
expected; there such a datagram is a success. -/
structure Verdict (api : SocketApi) (noReply : Prop) (trace : List SocketExchange) (result : SocketResult) : Prop where
  shown : result.success = true → Recovers api trace ∨ (noReply ∧ AcceptedAtOnce trace)
  missed : noReply → AcceptedAtOnce trace → result.success = true

theorem isExpected_noReply {answer : PollAnswer} :
    isExpectedBsdPollObservation .noReplyTimeout (classifyBsdPollObservation api answer) = true ↔
      answer.returned = .ok 0 := by
  unfold classifyBsdPollObservation
  split
  next returned => simp [isExpectedBsdPollObservation,returned]
  next returned => simp [isExpectedBsdPollObservation,returned]
  next count other returned =>
    have positive : answer.returned ≠ .ok 0 := by
      rw [returned]
      exact fun same => other (Except.ok.inj same)
    split
    · simp [isExpectedBsdPollObservation,positive]
    · split <;> simp [isExpectedBsdPollObservation,positive]

/-- What a poll for input tells. -/
theorem waitForInput_told (descriptor : Int) (deadlineMs : UInt32) :
    (waitForInput api descriptor deadlineMs).Ensures fun trace poll => ∃ answer,
      trace = [⟨.poll descriptor api.pollIn deadlineMs.toInt32,answer⟩] ∧
        (isExpectedBsdPollObservation .noReplyTimeout poll.observation = true ↔ answer.returned = .ok 0) := by
  intro answer
  exact ⟨answer,rfl,isExpected_noReply⟩

/-- The verdict of a run that polls behind an accepted datagram. -/
theorem SendTold.verdict {descriptor : Int} {payload : Bytes} {trace : List SocketExchange} {sent : BsdSendResult}
    {result : SocketResult} {events : Int16} {timeoutMs : Int32} {answer : PollAnswer} {noReply : Prop}
    (told : SendTold api descriptor payload false trace sent) (expected : noReply) (accepted : sent.sent = true)
    (timedOut : result.success = true ↔ answer.returned = .ok 0) :
    Verdict api noReply (trace ++ [⟨.poll descriptor events timeoutMs,answer⟩]) result := by
  have spoken : talk (trace ++ [⟨.poll descriptor events timeoutMs,answer⟩]) =
      trace ++ [⟨.poll descriptor events timeoutMs,answer⟩] := by
    rw [talk_append,told.allTalk]
    rfl
  constructor
  · intro success
    rcases told.accepted accepted with recovers | rfl
    · exact .inl (recovers.append_right _)
    · have silent := timedOut.1 success
      refine .inr ⟨expected,descriptor,payload,events,timeoutMs,answer.revents,?_⟩
      rw [spoken,← silent]
      rfl
  · rintro _ ⟨other,data,_,_,_,atOnce⟩
    rw [spoken] at atOnce
    have last := congrArg List.getLast? atOnce
    rw [List.getLast?_concat] at last
    have polled := Option.some.inj last
    injection polled with same answered
    obtain ⟨rfl,rfl,rfl⟩ := SocketCommand.poll.inj same
    exact timedOut.2 (congrArg PollAnswer.returned answered)

theorem expectNoReply_verdict (config : TunnelUdpWorkloadConfig) (descriptor : Int) {noReply : Prop}
    (expected : noReply) : (expectNoReply api config descriptor).Ensures (Verdict api noReply) := by
  unfold expectNoReply
  rw [ensures_bind]
  apply (sendWithWritableRetry_told maximumQueueFullRetriesPerDatagram rfl).mono
  intro trace sent told
  cases accepted : sent.sent with
  | false =>
    refine ⟨fun success => Bool.noConfusion success,fun _ atOnce => ?_⟩
    rw [List.append_nil] at atOnce
    exact absurd atOnce (told.refused accepted)
  | true =>
    rw [Bool.not_true,if_neg Bool.false_ne_true,ensures_bind]
    apply (waitForInput_told descriptor config.receiveDeadlineMs).mono
    rintro later poll ⟨answer,rfl,timedOut⟩
    rw [ensures_pure,List.append_nil]
    apply told.verdict expected accepted
    rw [← timedOut]
    split
    next expected => exact iff_of_true rfl expected
    next unexpected => exact iff_of_false Bool.false_ne_true unexpected

theorem noEcho_success (result : SocketResult) (poll : BsdPollResult) (sequence : UInt32) :
    (noEcho api result poll sequence).success = result.success := by
  unfold noEcho
  split <;> rfl

/-- The wait for an echo decides nothing. -/
theorem receiveExpectedEcho_undecided (descriptor : Int) (payload : Bytes) (remote : SockaddrIn) (deadlineMs : UInt32)
    (result : SocketResult) (sequence : UInt32) :
    (receiveExpectedEcho api descriptor payload remote deadlineMs result sequence).Ensures
      fun _ value => value.2.success = result.success := by
  unfold receiveExpectedEcho
  rw [ensures_bind]
  apply (waitForInput_told descriptor deadlineMs).mono
  intro trace poll _
  split
  · exact noEcho_success _ _ _
  · rw [ensures_perform_bind]
    intro received
    cases received with
    | error errno => rfl
    | ok received =>
      dsimp only
      split
      · rfl
      · split <;> rfl

/-- What the loop over the datagrams tells: no verdict yet, and a recovery where it saw one. -/
structure LoopTold (api : SocketApi) (earlier : Bool) (trace : List SocketExchange) (s : LoopState) : Prop where
  recovered : s.writableRecovery = true → earlier = true ∨ Recovers api trace
  undecided : s.result.success = false

theorem awaitEcho_told (config : TunnelUdpWorkloadConfig) (remote : SockaddrIn) (descriptor : Int) (payload : Bytes)
    (sequence : UInt32) (s : LoopState) :
    (awaitEcho api config remote descriptor payload sequence s).Ensures fun _ value =>
      value.2.writableRecovery = s.writableRecovery ∧ value.2.result.success = s.result.success := by
  unfold awaitEcho
  split
  · exact ⟨rfl,rfl⟩
  · rw [ensures_bind]
    apply (receiveExpectedEcho_undecided descriptor payload remote config.receiveDeadlineMs s.result sequence).mono
    intro trace value undecided
    exact ⟨rfl,undecided⟩

theorem sendDatagrams_told (config : TunnelUdpWorkloadConfig) (remote : SockaddrIn) (descriptors : List Nat)
    (remaining : Nat) (sequence : UInt32) (s : LoopState) (undecided : s.result.success = false) :
    (sendDatagrams api config remote descriptors remaining sequence s).Ensures
      (LoopTold api s.writableRecovery) := by
  induction remaining generalizing sequence s with
  | zero => exact ⟨fun seen => .inl seen,undecided⟩
  | succ remaining ih =>
    rw [sendDatagrams]
    dsimp only
    rw [ensures_bind]
    apply (sendWithWritableRetry_told maximumQueueFullRetriesPerDatagram rfl).mono
    intro trace sent told
    have recovered : (s.writableRecovery || sent.writableAfterQueueFull) = true →
        s.writableRecovery = true ∨ Recovers api trace := by
      rw [Bool.or_eq_true]
      rintro (before | now)
      · exact .inl before
      · exact .inr ((told.writable now).resolve_left Bool.false_ne_true)
    split
    · refine ⟨?_,undecided⟩
      rwa [List.append_nil]
    · rw [ensures_bind]
      refine Ensures.mono (awaitEcho_told config remote _ _ sequence _) ?_
      rintro echo ⟨goesOn,later⟩ ⟨same,decided⟩
      have decided : later.result.success = false := decided.trans undecided
      have goesOnTold : ∀ {trailing : List SocketExchange} {last : LoopState},
          LoopTold api later.writableRecovery trailing last →
            LoopTold api s.writableRecovery (trace ++ (echo ++ trailing)) last := by
        intro trailing last told
        refine ⟨fun seen => ?_,told.undecided⟩
        rcases told.recovered seen with before | behind
        · rw [same] at before
          exact (recovered before).imp_right (·.append_right _)
        · exact .inr ((behind.append_left echo).append_left trace)
      dsimp only
      split
      · exact goesOnTold ⟨fun seen => .inl seen,decided⟩
      · split
        · rw [ensures_perform_bind]
          intro _
          apply (ih _ later decided).mono
          intro trailing last told
          exact goesOnTold ⟨fun seen => (told.recovered seen).imp_right (·.append_left [_]),told.undecided⟩
        · exact (ih _ later decided).mono fun trailing last told => goesOnTold told

/-- The verdict behind the loop asks for the recovery it requires. -/
theorem workloadSummary_success {config : TunnelUdpWorkloadConfig} {bsdConfig : BsdSystemUdpWorkloadConfig}
    {s : LoopState} (required : bsdConfig.requireWritableRecovery = true) (undecided : s.result.success = false)
    (success : (workloadSummary api config bsdConfig s).success = true) : s.writableRecovery = true := by
  unfold workloadSummary at success
  by_cases missed : s.result.detail = [] ∧ bsdConfig.requireWritableRecovery = true ∧
      hasWritableRecovery s.queueFullRetries s.writableRecovery = false
  · rw [if_pos missed,if_neg (by simp)] at success
    exact absurd (undecided.symm.trans success) Bool.false_ne_true
  · rw [if_neg missed] at success
    by_cases passed : s.result.detail = [] ∧ (!config.echoReplies ∨ s.echoed = config.datagramCount)
    · have recovery : hasWritableRecovery s.queueFullRetries s.writableRecovery = true := by
        by_contra none
        exact missed ⟨passed.1,required,Bool.not_eq_true _ ▸ none⟩
      exact (Bool.and_eq_true_iff.1 recovery).2
    · rw [if_neg passed] at success
      exact absurd (undecided.symm.trans success) Bool.false_ne_true

section Workload

variable {noReply : Prop} {result : SocketResult} {trace : List SocketExchange}

theorem Verdict.quiet (failing : result.success = false) (silent : talk trace = []) :
    Verdict api noReply trace result := by
  constructor
  · intro success
    exact absurd (failing.symm.trans success) Bool.false_ne_true
  · rintro _ ⟨descriptor,payload,events,timeoutMs,revents,spoken⟩
    rw [silent] at spoken
    cases spoken

/-- Calls around a verdict that are no talk leave it as it is. -/
theorem Verdict.around {before after : List SocketExchange} (verdict : Verdict api noReply trace result)
    (silentBefore : talk before = []) (silentAfter : talk after = []) :
    Verdict api noReply (before ++ (trace ++ after)) result := by
  have same : AcceptedAtOnce (before ++ (trace ++ after)) ↔ AcceptedAtOnce trace := by
    apply acceptedAtOnce_congr
    rw [talk_append,talk_append,silentBefore,silentAfter,List.append_nil,List.nil_append]
  constructor
  · intro success
    refine (verdict.shown success).imp (fun recovers => ?_) fun atOnce => ⟨atOnce.1,same.2 atOnce.2⟩
    exact (recovers.append_right after).append_left before
  · exact fun expected atOnce => verdict.missed expected (same.1 atOnce)

/-- A run that closes what it opened behind a verdict. -/
theorem Verdict.closing {program : SocketProgram β} {last : β → SocketProgram Unit} {value : β → SocketResult}
    (quiet : ∀ b, Quiet (fun _ => True) (last b))
    (ensures : program.Ensures fun trace b => Verdict api noReply trace (value b)) :
    (program >>= fun b => last b >>= fun _ => pure (value b)).Ensures (Verdict api noReply) := by
  rw [ensures_bind]
  apply ensures.mono
  intro trace b verdict
  rw [ensures_bind]
  apply Ensures.mono (quiet b)
  rintro later _ ⟨silent,_⟩
  have closed : Verdict api noReply ([] ++ (trace ++ later)) (value b) := verdict.around rfl silent
  simpa using closed

theorem LoopTold.verdict {config : TunnelUdpWorkloadConfig} {bsdConfig : BsdSystemUdpWorkloadConfig} {s : LoopState}
    (told : LoopTold api false trace s) (required : bsdConfig.requireWritableRecovery = true) (replies : ¬noReply) :
    Verdict api noReply trace (workloadSummary api config bsdConfig s) := by
  constructor
  · intro success
    have seen := workloadSummary_success required told.undecided success
    exact .inl ((told.recovered seen).resolve_left Bool.false_ne_true)
  · exact fun expected => absurd expected replies

theorem exchange_verdict {config : TunnelUdpWorkloadConfig} {bsdConfig : BsdSystemUdpWorkloadConfig}
    (required : bsdConfig.requireWritableRecovery = true) (goesOn : bsdConfig.expectedOutcome ≠ .terminalClosure)
    (remote : SockaddrIn) (descriptors : List Nat) :
    (exchange api config bsdConfig remote descriptors).Ensures
      (Verdict api (bsdConfig.expectedOutcome = .noReplyTimeout)) := by
  unfold exchange
  cases outcome : bsdConfig.expectedOutcome with
  | noReplyTimeout =>
    exact Verdict.closing (fun _ => quiet_closeDescriptors descriptors) (expectNoReply_verdict config _ rfl)
  | terminalClosure => exact absurd outcome goesOn
  | echoReply =>
    apply Verdict.closing fun _ => quiet_closeDescriptors descriptors
    apply (sendDatagrams_told config remote descriptors _ 0 .start rfl).mono
    intro trace s told
    exact told.verdict required (by simp)

/-- A verdict behind a part that is no talk. -/
theorem Quiet.verdict {told : β → Prop} {first : SocketProgram β} {rest : β → SocketProgram SocketResult}
    (quiet : Quiet told first) (verdict : ∀ value, told value → (rest value).Ensures (Verdict api noReply)) :
    (first >>= rest).Ensures (Verdict api noReply) := by
  rw [ensures_bind]
  apply Ensures.mono quiet
  rintro trace value ⟨silent,holds⟩
  apply (verdict value holds).mono
  intro later result decided
  have behind : Verdict api noReply (trace ++ (later ++ [])) result := decided.around silent rfl
  rwa [List.append_nil] at behind

/-- A run that ends early without success. -/
theorem verdict_endsEarly {result : SocketResult} (failing : result.success = false) (descriptors : List Nat) :
    (closeDescriptors descriptors >>= fun _ => pure result : SocketProgram SocketResult).Ensures
      (Verdict api noReply) :=
  (quiet_closeDescriptors descriptors).verdict fun _ _ => Verdict.quiet failing rfl

variable {config : TunnelUdpWorkloadConfig} {bsdConfig : BsdSystemUdpWorkloadConfig}

theorem runOverSockets_verdict (required : bsdConfig.requireWritableRecovery = true)
    (goesOn : bsdConfig.expectedOutcome ≠ .terminalClosure) (remote : SockaddrIn) :
    (runOverSockets api config bsdConfig remote).Ensures
      (Verdict api (bsdConfig.expectedOutcome = .noReplyTimeout)) := by
  apply (quiet_openSockets remote config.concurrentFlows.toNat []).verdict
  rintro ⟨descriptors,ended⟩ failing
  cases ended with
  | some result => exact verdict_endsEarly (failing result rfl) descriptors
  | none =>
    dsimp only
    split
    · apply (quiet_verifyPostRouteRejection _).verdict
      intro checked failing
      cases checked with
      | error result => exact verdict_endsEarly (failing result rfl) descriptors
      | ok _ => exact exchange_verdict required goesOn remote descriptors
    · exact exchange_verdict required goesOn remote descriptors

theorem runBsdSystemUdpWorkload_verdict (required : bsdConfig.requireWritableRecovery = true)
    (goesOn : bsdConfig.expectedOutcome ≠ .terminalClosure) :
    (runBsdSystemUdpWorkload api config bsdConfig).Ensures
      (Verdict api (bsdConfig.expectedOutcome = .noReplyTimeout)) := by
  unfold runBsdSystemUdpWorkload
  split
  · exact Verdict.quiet rfl rfl
  · split
    · exact Verdict.quiet rfl rfl
    · apply (quiet_ask fun _ => rfl).verdict
      intro rc _
      split
      · exact Verdict.quiet rfl rfl
      · exact Verdict.closing (fun _ => quiet_ask fun _ => rfl) (runOverSockets_verdict required goesOn _)

end Workload

end Recovery

/-- The validator excludes the terminal closure. -/
theorem not_terminalClosure {limits : TunnelLimits} {config : RuntimeConfig}
    (valid : validateRuntimeConfig limits config = .ok ()) (bsd : config.scenario = .bsdSystemUdp)
    (required : config.bsdSystemUdp.requireWritableRecovery = true) :
    config.bsdSystemUdp.expectedOutcome ≠ .terminalClosure := by
  obtain ⟨⟨⟩,_,later⟩ := bind_ok valid
  obtain ⟨⟨⟩,_,later⟩ := bind_ok later
  obtain ⟨⟨⟩,_,later⟩ := bind_ok later
  obtain ⟨⟨⟩,_,scenario⟩ := bind_ok later
  rw [validateScenario,if_pos bsd] at scenario
  obtain ⟨⟨⟩,_,later⟩ := bind_ok scenario
  obtain ⟨⟨⟩,terminal,_⟩ := bind_ok later
  have passed := check_ok terminal
  intro closes
  simp [closes,required] at passed

/-- With writable recovery required, a run succeeds without one exactly where no reply is expected
and the only datagram is accepted at once. -/
theorem recoveryRequired_iff (api : SocketApi) (config : RuntimeConfig) (profile : RuntimeProfile) (workloadId : UInt32)
    (valid : validateRuntimeConfig api.toTunnelLimits config = .ok ()) (bsd : config.scenario = .bsdSystemUdp)
    (required : config.bsdSystemUdp.requireWritableRecovery = true) (service : Service SocketCommand.Answer) :
    let run := (runBsdSystemUdpWorkload api (buildTunnelUdpWorkload config profile workloadId)
      config.bsdSystemUdp).run service []
    (run.2.success = true → Recovers api run.1) ↔
      (config.bsdSystemUdp.expectedOutcome = .noReplyTimeout → ¬AcceptedAtOnce run.1) := by
  intro run
  have verdict : Verdict api (config.bsdSystemUdp.expectedOutcome = .noReplyTimeout) run.1 run.2 :=
    (runBsdSystemUdpWorkload_verdict required (not_terminalClosure valid bsd required)).of_run service
  constructor
  · intro honoured expected atOnce
    exact atOnce.not_recovers (honoured (verdict.missed expected atOnce))
  · intro notAtOnce success
    rcases verdict.shown success with recovers | ⟨expected,atOnce⟩
    · exact recovers
    · exact absurd atOnce (notAtOnce expected)

section CalmSockets

def calmApi : SocketApi where
  maximumUdpPayloadStorageBytes := 1200
  maximumFlowsPerClient := 8
  rttMeanMilliseconds := "0.500000".toList
  inetPton _ := some [10,0,0,1]
  inetNtop _ := some "10.0.0.1".toList
  strerror _ := []
  eagain := 11
  ewouldblock := 11
  etimedout := 110
  econnaborted := 103
  eopnotsupp := 95
  pollIn := 1
  pollOut := 4
  pollHup := 16
  oNonblock := 2048
  afInet := 2
  inaddrAny := [0,0,0,0]
  sizeofSockaddrIn := 16

/-- Sockets that take every datagram at once and never receive one. -/
def calmSockets : Service SocketCommand.Answer := fun _ command => match command with
  | .socketInitialize => 0
  | .socket => .ok 3
  | .getsockname _ => .ok ⟨⟨2,[10,0,0,2],4000⟩,16⟩
  | .getFlags _ => .ok 0
  | .connect _ _ | .setFlags _ _ | .setReuseAddress _ | .close _ => .ok ()
  | .send _ payload => .ok payload.length
  | .poll _ _ _ => ⟨.ok 0,0⟩
  | .recvfrom _ _ => .error 11
  | .socketExit | .sleepMilliseconds _ => ()

def recoveryRequired (expectedOutcome : BsdSystemUdpExpectedOutcome) : RuntimeConfig where
  scenario := .bsdSystemUdp
  nextWorkloadId := 100
  activeProfile := 0
  profiles := [⟨"Tunnel".toList,"10.1.0.2".toList,"10.0.0.1".toList,29000,28080⟩]
  udp := ⟨24,1,0,1,5000,0,false⟩
  tcp := ⟨5000⟩
  tunnelContract := ⟨false,false⟩
  bsdSystemUdp := ⟨false,expectedOutcome,true⟩

/-- The same sockets, but that the queue is full at the first send and has room again once it is polled. -/
def busySockets : Service SocketCommand.Answer := fun trace command => match command with
  | .send _ payload => if talk trace = [] then .error 11 else .ok payload.length
  | .poll _ events _ => if events = 4 then ⟨.ok 1,4⟩ else ⟨.ok 0,0⟩
  | command => calmSockets trace command

theorem recoveryRequired_busy :
    let run := (runBsdSystemUdpWorkload calmApi (buildTunnelUdpWorkload (recoveryRequired .noReplyTimeout)
      ⟨"Tunnel".toList,"10.1.0.2".toList,"10.0.0.1".toList,29000,28080⟩ 7)
      (recoveryRequired .noReplyTimeout).bsdSystemUdp).run busySockets []
    run.2.success = true ∧ (talk run.1).length = 4 ∧ Recovers calmApi run.1 := by
  intro run
  have success : run.2.success = true := by decide +kernel
  have tried : (talk run.1).length = 4 := by decide +kernel
  refine ⟨success,tried,(recoveryRequired_iff calmApi (recoveryRequired .noReplyTimeout) _ 7 (by decide) rfl rfl
    busySockets).mpr ?_ success⟩
  rintro - ⟨_,_,_,_,_,once⟩
  have twice : (talk run.1).length = 2 := congrArg List.length once
  omega

theorem calmSockets_not_recovers (p : SocketProgram α) : ¬Recovers calmApi (p.run calmSockets []).1 := by
  rintro ⟨descriptor,before,⟨command,answer⟩,behind,writable,after,same,full,_⟩
  cases command with
  | send target data =>
    obtain ⟨_,errno,rfl,_⟩ := full
    have member : (⟨.send target data,.error errno⟩ : SocketExchange) ∈ (p.run calmSockets []).1 := by
      rw [same]
      exact List.mem_append_right _ List.mem_cons_self
    rcases answered_run p calmSockets [] _ member with none | ⟨_,accepted⟩
    · cases none
    · cases accepted
  | _ => exact full.elim

theorem recovery_not_required : ¬∀ (api : SocketApi) (config : RuntimeConfig) (profile : RuntimeProfile)
    (workloadId : UInt32) (service : Service SocketCommand.Answer),
    validateRuntimeConfig api.toTunnelLimits config = .ok () → config.scenario = .bsdSystemUdp →
    config.bsdSystemUdp.requireWritableRecovery = true →
    let run := (runBsdSystemUdpWorkload api (buildTunnelUdpWorkload config profile workloadId)
      config.bsdSystemUdp).run service []
    run.2.success = true → Recovers api run.1 := by
  intro honoured
  apply calmSockets_not_recovers
  exact honoured calmApi (recoveryRequired .noReplyTimeout)
    ⟨"Tunnel".toList,"10.1.0.2".toList,"10.0.0.1".toList,29000,28080⟩ 7 calmSockets (by decide) rfl rfl
    (by decide +kernel)

end CalmSockets

end NxReverse.Toolbox.BsdSystemUdp
