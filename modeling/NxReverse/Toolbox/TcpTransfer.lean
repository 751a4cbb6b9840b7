import NxReverse.Lib.JsonLines
import NxReverse.Toolbox.BsdSystemTcp

/-! What a `bsd:s` TCP exchange has transferred. Its verdict, its byte counts and its close are read
off the calls, however the socket cuts the request and the reply. -/
namespace NxReverse.Toolbox.BsdSystemTcp

open Text Words Program BsdSystemUdp

/-- The prefixes of the sent pieces that the socket accepted. -/
def accepted (trace : List TcpExchange) : Bytes := trace.flatMap fun
  | ⟨.send _ data,.ok sent⟩ => data.take sent.val
  | _ => []

def segments (trace : List TcpExchange) : Bytes := trace.flatMap fun
  | ⟨.recv _ _,.ok segment⟩ => segment.val
  | _ => []

def opened (trace : List TcpExchange) : List Int := trace.filterMap fun
  | ⟨.socket,.ok descriptor⟩ => some descriptor
  | _ => none

def closed (trace : List TcpExchange) : List Int := trace.filterMap fun
  | ⟨.close descriptor,_⟩ => some descriptor
  | _ => none

section Judgement

variable (api : TcpSocketApi)

/-- A poll that reports input. -/
def pollSucceeds (answer : PollAnswer) : Prop :=
  (∃ count, answer.returned = .ok (count + 1)) ∧ reportsInput api answer.revents = true

/-- The calls other than `send` and `recv` succeed. -/
def CallSucceeds : TcpExchange → Prop
  | ⟨.socketInitialize,rc⟩ => failed rc = false
  | ⟨.socket,answer⟩ => answer.isOk = true
  | ⟨.setTimeout _ _ _ _,answer⟩ | ⟨.connect _ _,answer⟩ | ⟨.close _,answer⟩ => answer.isOk = true
  | ⟨.getsockname _,answer⟩ => ∃ endpoint, answer = .ok endpoint ∧ isLocalEndpoint api endpoint = true
  | ⟨.poll _ _ _,answer⟩ => pollSucceeds api answer
  | ⟨.send _ _,_⟩ | ⟨.recv _ _,_⟩ | ⟨.socketExit,_⟩ | ⟨.systemTick,_⟩ => True

/-- Every other call succeeded, the whole request was accepted, and what was received begins with
the reply. -/
structure Transferred (request : Bytes) (trace : List TcpExchange) : Prop where
  calls : ∀ exchange ∈ trace, CallSucceeds api exchange
  sent : accepted trace = request
  received : expectedReply <+: segments trace

/-- Each piece offered to the socket goes on behind the bytes it has accepted: none is sent twice
and none is skipped. -/
def SendsContinue (request : Bytes) (trace : List TcpExchange) : Prop :=
  ∀ before descriptor data answer after, trace = before ++ ⟨.send descriptor data,answer⟩ :: after →
    accepted before ++ data = request

/-- What can be said of a run as far as it went without a failure. -/
structure Reached (request sent received : Bytes) (trace : List TcpExchange) : Prop where
  calls : ∀ exchange ∈ trace, CallSucceeds api exchange
  continues : SendsContinue request trace
  sends : accepted trace = sent
  receives : segments trace = received

structure Failed (request : Bytes) (trace : List TcpExchange) (result : SocketResult) : Prop where
  continues : SendsContinue request trace
  failing : result.success = false
  missed : ¬Transferred api request trace

structure Judged (request : Bytes) (trace : List TcpExchange) (result : SocketResult) : Prop where
  continues : SendsContinue request trace
  verdict : result.success = true ↔ Transferred api request trace
  counts : result.success = true →
    result.bytesSent.toNat = (accepted trace).length ∧ result.bytesReceived.toNat = (segments trace).length

end Judgement

section Parts

variable {api : TcpSocketApi} {request sent received : Bytes} {before trace : List TcpExchange}

def isCheck : TcpExchange → Prop
  | ⟨.send _ _,_⟩ | ⟨.recv _ _,_⟩ => False
  | _ => True

theorem accepted_append (first second : List TcpExchange) : accepted (first ++ second) = accepted first ++ accepted second :=
  List.flatMap_append

theorem segments_append (first second : List TcpExchange) : segments (first ++ second) = segments first ++ segments second :=
  List.flatMap_append

/-- Checks transfer nothing. -/
theorem silent_of_checks (checks : ∀ exchange ∈ trace, isCheck exchange) : accepted trace = [] ∧ segments trace = [] := by
  constructor
  all_goals
    apply List.flatMap_eq_nil_iff.mpr
    rintro ⟨command,answer⟩ member
    have check := checks _ member
    cases command <;> first | rfl | exact check.elim

theorem SendsContinue.append_checks (continues : SendsContinue request before)
    (checks : ∀ exchange ∈ trace, isCheck exchange) : SendsContinue request (before ++ trace) := by
  intro earlier descriptor data answer after same
  rcases List.append_eq_append_iff.mp same with ⟨between,_,rest⟩ | ⟨between,rfl,rest⟩
  · have check := checks ⟨.send descriptor data,answer⟩ (by simp [rest])
    exact check.elim
  · cases between with
    | nil =>
      rw [List.nil_append] at rest
      have check := checks ⟨.send descriptor data,answer⟩ (rest ▸ List.mem_cons_self)
      exact check.elim
    | cons first more =>
      obtain ⟨rfl,rfl⟩ := List.cons.inj rest
      exact continues earlier descriptor data answer more rfl

/-- Checks that succeed change nothing. -/
theorem Reached.append_checks (reached : Reached api request sent received before)
    (checks : ∀ exchange ∈ trace, isCheck exchange) (succeed : ∀ exchange ∈ trace, CallSucceeds api exchange) :
    Reached api request sent received (before ++ trace) where
  calls := List.forall_mem_append.mpr ⟨reached.calls,succeed⟩
  continues := reached.continues.append_checks checks
  sends := by rw [accepted_append,(silent_of_checks checks).1,List.append_nil,reached.sends]
  receives := by rw [segments_append,(silent_of_checks checks).2,List.append_nil,reached.receives]

/-- A failing check ends the exchange. -/
theorem Reached.failed_checks (reached : Reached api request sent received before)
    (checks : ∀ exchange ∈ trace, isCheck exchange) (fails : ¬∀ exchange ∈ trace, CallSucceeds api exchange)
    {result : SocketResult} (failing : result.success = false) :
    Failed api request (before ++ trace) result where
  continues := reached.continues.append_checks checks
  failing := failing
  missed transferred := fails (List.forall_mem_append.mp transferred.calls).2

/-- A part that goes on as told, or ends the exchange without success. -/
def Leads (api : TcpSocketApi) (request : Bytes) (before : List TcpExchange) (told : List TcpExchange → α → Prop)
    (p : TcpProgram (Except SocketResult α)) : Prop :=
  p.Ensures fun trace value => match value with
    | .ok a => told (before ++ trace) a
    | .error result => Failed api request (before ++ trace) result

section Leads

variable {told : List TcpExchange → α → Prop}

theorem leads_ok {value : α} (holds : told before value) :
    Leads api request before told (pure (.ok value) : TcpProgram (Except SocketResult α)) := by
  rw [Leads,ensures_pure,List.append_nil]
  exact holds

theorem leads_error {result : SocketResult} (failed : Failed api request before result) :
    Leads api request before told (pure (.error result) : TcpProgram (Except SocketResult α)) := by
  rw [Leads,ensures_pure,List.append_nil]
  exact failed

theorem leads_call {command : TcpCommand} {next : command.Answer → TcpProgram (Except SocketResult α)}
    (rest : ∀ answer, Leads api request (before ++ [⟨command,answer⟩]) told (next answer)) :
    Leads api request before told (call command >>= next) := by
  intro answer
  refine Ensures.mono (rest answer) fun trace value leads => ?_
  rwa [List.append_assoc] at leads

theorem Leads.bind {p : TcpProgram (Except SocketResult α)} {toldLater : List TcpExchange → β → Prop}
    {next : Except SocketResult α → TcpProgram (Except SocketResult β)} (first : Leads api request before told p)
    (fails : ∀ result, next (.error result) = pure (.error result))
    (goesOn : ∀ trace value, told trace value → Leads api request trace toldLater (next (.ok value))) :
    Leads api request before toldLater (p >>= next) := by
  rw [Leads,ensures_bind]
  refine Ensures.mono first fun trace value holds => ?_
  cases value with
  | error result =>
    rw [fails,ensures_pure,List.append_nil]
    exact holds
  | ok value =>
    refine Ensures.mono (goesOn _ value holds) fun later result leads => ?_
    rwa [List.append_assoc] at leads

end Leads

/-- A piece that goes on behind what was accepted. -/
theorem SendsContinue.append_send {descriptor : Int} {data : Bytes} (continues : SendsContinue request before)
    (offers : accepted before ++ data = request) (answer : Except Int (Fin (data.length + 1))) :
    SendsContinue request (before ++ [⟨.send descriptor data,answer⟩]) := by
  intro earlier other piece result after same
  rcases List.append_eq_append_iff.mp same with ⟨between,rfl,rest⟩ | ⟨between,rfl,rest⟩
  · cases between with
    | nil =>
      obtain ⟨⟨⟩,_⟩ := List.cons.inj rest
      rwa [List.append_nil]
    | cons first more => simp at rest
  · cases between with
    | nil =>
      obtain ⟨⟨⟩,_⟩ := List.cons.inj rest
      rwa [List.append_nil] at offers
    | cons first more =>
      obtain ⟨rfl,_⟩ := List.cons.inj rest
      exact continues earlier other piece result more rfl

/-- A piece is offered, and a prefix of it accepted. -/
theorem Reached.append_send (descriptor : Int) {data : Bytes} {offset : Nat}
    (reached : Reached api data (data.take offset) [] before)
    (sent : Fin ((data.drop offset).length + 1)) :
    Reached api data (data.take (offset + sent.val)) [] (before ++ [⟨.send descriptor (data.drop offset),.ok sent⟩]) where
  calls := List.forall_mem_append.mpr ⟨reached.calls,List.forall_mem_singleton.mpr trivial⟩
  continues := reached.continues.append_send (by rw [reached.sends,List.take_append_drop]) _
  sends := by
    rw [accepted_append,reached.sends,List.take_add]
    simp [accepted]
  receives := by
    rw [segments_append,reached.receives]
    rfl

/-- A send that is refused, or accepts nothing, ends the exchange before its request is complete. -/
theorem Reached.failed_send {descriptor : Int} {data : Bytes} {offset : Nat} (more : offset < data.length)
    (reached : Reached api data (data.take offset) [] before)
    (answer : Except Int (Fin ((data.drop offset).length + 1))) (nothing : ∀ sent, answer = .ok sent → sent.val = 0)
    {result : SocketResult} (failing : result.success = false) :
    Failed api data (before ++ [⟨.send descriptor (data.drop offset),answer⟩]) result where
  continues := reached.continues.append_send (by rw [reached.sends,List.take_append_drop]) _
  failing := failing
  missed transferred := by
    have none_ : accepted [⟨.send descriptor (data.drop offset),answer⟩] = [] := by
      cases answer with
      | error errno => rfl
      | ok sent => simp [accepted,nothing sent rfl]
    have whole := congrArg List.length transferred.sent
    rw [accepted_append,reached.sends,none_,List.append_nil,List.length_take] at whole
    omega

theorem sendAll_leads (descriptor : Int) (data : Bytes) (offset : Nat) (inside : offset ≤ data.length)
    (reached : Reached api data (data.take offset) [] before) :
    Leads api data before (fun trace result => Reached api data data [] trace ∧
      result = { start with bytesSent := data.length.toUInt64 }) (sendAll api descriptor data offset) := by
  induction offset using sendAll.induct data generalizing before with
  | case1 offset more ih =>
    rw [sendAll,if_pos more]
    apply leads_call
    intro answer
    cases answer with
    | error errno => exact leads_error (reached.failed_send more (.error errno) nofun rfl)
    | ok sent =>
      dsimp only
      split
      next none_ => exact leads_error (reached.failed_send more (.ok sent) (by rintro _ ⟨⟩; exact none_) rfl)
      next some_ =>
        have bound := sent.isLt
        have rest : (data.drop offset).length = data.length - offset := List.length_drop
        exact ih sent some_ (by omega) (reached.append_send descriptor sent)
  | case2 offset done =>
    have complete : offset = data.length := by omega
    rw [complete,List.take_length] at reached
    rw [sendAll,if_neg done,complete]
    exact leads_ok ⟨reached,rfl⟩

/-- The socket may be asked for a segment at any time. -/
theorem SendsContinue.append_recv {descriptor : Int} {size : Nat} (continues : SendsContinue request before)
    (answer : Except Int { segment : Bytes // segment.length ≤ size }) :
    SendsContinue request (before ++ [⟨.recv descriptor size,answer⟩]) := by
  intro earlier other piece result after same
  rcases List.append_eq_append_iff.mp same with ⟨between,rfl,rest⟩ | ⟨between,rfl,rest⟩
  · cases between with
    | nil => simp at rest
    | cons first more => simp at rest
  · cases between with
    | nil => simp at rest
    | cons first more =>
      obtain ⟨rfl,_⟩ := List.cons.inj rest
      exact continues earlier other piece result more rfl

theorem Reached.append_recv (descriptor : Int) {size : Nat} (reached : Reached api request sent received before)
    (segment : { segment : Bytes // segment.length ≤ size }) :
    Reached api request sent (received ++ segment.val) (before ++ [⟨.recv descriptor size,.ok segment⟩]) where
  calls := List.forall_mem_append.mpr ⟨reached.calls,List.forall_mem_singleton.mpr trivial⟩
  continues := reached.continues.append_recv _
  sends := by
    rw [accepted_append,reached.sends]
    exact List.append_nil sent
  receives := by
    rw [segments_append,reached.receives]
    simp [segments]

/-- Too few bytes are no reply. -/
theorem failed_short {result : SocketResult} (continues : SendsContinue request before)
    (short : (segments before).length < expectedReply.length) (failing : result.success = false) :
    Failed api request before result where
  continues := continues
  failing := failing
  missed transferred := absurd transferred.received.length_le (Nat.not_le.mpr short)

theorem receiveReply_leads (descriptor : Int) (result : SocketResult) (reply : Bytes)
    (inside : reply.length ≤ expectedReply.length) (failing : result.success = false)
    (reached : Reached api request sent reply before) :
    Leads api request before (fun trace whole => Reached api request sent whole trace ∧
      whole.length = expectedReply.length) (receiveReply api descriptor result reply) := by
  induction reply using receiveReply.induct generalizing before with
  | case1 reply more ih =>
    rw [receiveReply,if_pos more]
    apply leads_call
    intro answer
    cases answer with
    | error errno =>
      refine leads_error (failed_short (reached.continues.append_recv _) ?_ failing)
      rw [segments_append,reached.receives,List.length_append]
      exact more
    | ok segment =>
      dsimp only
      split
      next none_ =>
        refine leads_error (failed_short (reached.continues.append_recv _) ?_ failing)
        rw [(reached.append_recv descriptor segment).receives,none_,List.append_nil]
        exact more
      next some_ =>
        have bound := segment.property
        have within : (reply ++ segment.val).length ≤ expectedReply.length := by
          rw [List.length_append]
          omega
        exact ih segment some_ within (reached.append_recv descriptor segment)
  | case2 reply done =>
    rw [receiveReply,if_neg done]
    exact leads_ok ⟨reached,by omega⟩

theorem receiveExpectedReply_leads (descriptor : Int) (deadlineMs : UInt32) {result : SocketResult}
    (failing : result.success = false) (reached : Reached api request sent [] before) :
    Leads api request before (fun trace value => Reached api request sent expectedReply trace ∧
      value = { result with bytesReceived := expectedReply.length.toUInt64 })
      (receiveExpectedReply api descriptor deadlineMs result) := by
  unfold receiveExpectedReply
  apply leads_call
  intro answer
  have checks : ∀ exchange ∈ [(⟨.poll descriptor api.pollIn deadlineMs.toInt32,answer⟩ : TcpExchange)],
      isCheck exchange := List.forall_mem_singleton.mpr trivial
  have fails : ∀ result : SocketResult, result.success = false → ¬pollSucceeds api answer →
      Failed api request (before ++ [⟨.poll descriptor api.pollIn deadlineMs.toInt32,answer⟩]) result :=
    fun result failing blocked =>
      reached.failed_checks checks (fun succeed => blocked (succeed _ List.mem_cons_self)) failing
  split
  next errno returned => exact leads_error (fails _ failing (by simp [pollSucceeds,returned]))
  next returned => exact leads_error (fails _ failing (by simp [pollSucceeds,returned]))
  next count positive returned =>
    split
    next silent =>
      refine leads_error (fails _ failing fun succeeds => ?_)
      rw [succeeds.2] at silent
      cases silent
    next input =>
      have succeeds : pollSucceeds api answer := by
        obtain ⟨less,rfl⟩ := Nat.exists_eq_succ_of_ne_zero positive
        exact ⟨⟨less,returned⟩,by simpa using input⟩
      have reached := reached.append_checks checks (List.forall_mem_singleton.mpr succeeds)
      refine (receiveReply_leads descriptor result [] (Nat.zero_le _) failing reached).bind (fun _ => rfl) ?_
      rintro trace reply ⟨reached,complete⟩
      dsimp only
      split
      next other =>
        refine leads_error ⟨reached.continues,failing,fun transferred => other ?_⟩
        have front := transferred.received
        rw [reached.receives] at front
        exact (front.eq_of_length complete.symm).symm
      next same =>
        obtain rfl := not_not.mp same
        exact leads_ok ⟨reached,rfl⟩

/-- One check, whose failure ends the exchange without success. -/
theorem leads_check {command : TcpCommand} {told : List TcpExchange → α → Prop}
    {next : command.Answer → TcpProgram (Except SocketResult α)} (reached : Reached api request sent received before)
    (check : ∀ answer, isCheck ⟨command,answer⟩)
    (fails : ∀ answer, ¬CallSucceeds api ⟨command,answer⟩ →
      ∃ result : SocketResult, next answer = pure (.error result) ∧ result.success = false)
    (goesOn : ∀ answer, CallSucceeds api ⟨command,answer⟩ →
      Reached api request sent received (before ++ [⟨command,answer⟩]) →
      Leads api request (before ++ [⟨command,answer⟩]) told (next answer)) :
    Leads api request before told (call command >>= next) := by
  apply leads_call
  intro answer
  have checks : ∀ exchange ∈ [(⟨command,answer⟩ : TcpExchange)], isCheck exchange :=
    List.forall_mem_singleton.mpr (check answer)
  by_cases succeeds : CallSucceeds api ⟨command,answer⟩
  · exact goesOn answer succeeds (reached.append_checks checks (List.forall_mem_singleton.mpr succeeds))
  · obtain ⟨result,ends,failing⟩ := fails answer succeeds
    rw [ends]
    exact leads_error (reached.failed_checks checks (fun succeed => succeeds (succeed _ List.mem_cons_self)) failing)

theorem leads_tick {told : List TcpExchange → α → Prop} {next : UInt64 → TcpProgram (Except SocketResult α)}
    (reached : Reached api request sent received before)
    (goesOn : ∀ tick, Reached api request sent received (before ++ [⟨.systemTick,tick⟩]) →
      Leads api request (before ++ [⟨.systemTick,tick⟩]) told (next tick)) :
    Leads api request before told (call .systemTick >>= next) :=
  leads_check reached (fun _ => trivial) (fun _ fails => absurd trivial fails) fun tick _ reached => goesOn tick reached

theorem setTimeouts_leads (descriptor : Int) (deadlineMs : UInt32) (reached : Reached api request sent received before) :
    Leads api request before (fun trace _ => Reached api request sent received trace)
      (setTimeouts api descriptor deadlineMs) := by
  unfold setTimeouts
  refine leads_check reached (fun _ => trivial) ?_ ?_
  · intro answer fails
    cases answer with
    | error errno => exact ⟨_,rfl,rfl⟩
    | ok _ => exact absurd rfl fails
  · intro answer succeeds reached
    cases answer with
    | error errno => cases succeeds
    | ok _ =>
      refine leads_check reached (fun _ => trivial) ?_ ?_
      · intro answer fails
        cases answer with
        | error errno => exact ⟨_,rfl,rfl⟩
        | ok _ => exact absurd rfl fails
      · intro answer succeeds reached
        cases answer with
        | error errno => cases succeeds
        | ok _ => exact leads_ok reached

theorem requestText_length (workloadId : UInt32) :
    (requestText workloadId).length = 9 + (decimal workloadId.toNat).length + 2 := by
  have front : "NXRV TCP ".toList.length = 9 := rfl
  have back : "\r\n".toList.length = 2 := rfl
  unfold requestText
  rw [List.length_append,List.length_append,front,back]

theorem requestText_length_le (workloadId : UInt32) : (requestText workloadId).length ≤ 21 := by
  have digits := JsonLines.length_decimal_u32 workloadId
  rw [requestText_length]
  omega

/-- Every request fits its buffer. -/
theorem requestText_fits (workloadId : UInt32) : (requestText workloadId).length < requestCapacity :=
  Nat.lt_of_le_of_lt (requestText_length_le workloadId) (by decide)

end Parts

section Exchange

variable {api : TcpSocketApi} {request : Bytes}

/-- The calls between `socket` and `close` reach the whole request and the whole reply, or fail. -/
theorem talk_leads (workloadId : UInt32) (config : TcpScenarioConfig) (remote : SockaddrIn) (descriptor : Int)
    {before : List TcpExchange} (reached : Reached api (bytesOf (requestText workloadId)) [] [] before) :
    Leads api (bytesOf (requestText workloadId)) before (fun trace value =>
      Reached api (bytesOf (requestText workloadId)) (bytesOf (requestText workloadId)) expectedReply trace ∧
      value.1.success = false ∧ value.1.bytesSent = (bytesOf (requestText workloadId)).length.toUInt64 ∧
      value.1.bytesReceived = expectedReply.length.toUInt64) (talk api workloadId config remote descriptor) := by
  unfold talk
  refine (setTimeouts_leads descriptor _ reached).bind (fun _ => rfl) fun trace _ reached => ?_
  refine leads_tick reached fun connectStarted reached => leads_check reached (fun _ => trivial) ?_ ?_
  · intro answer fails
    cases answer with
    | error errno => exact ⟨_,rfl,rfl⟩
    | ok _ => exact absurd rfl fails
  intro answer succeeds reached
  cases answer with
  | error errno => cases succeeds
  | ok _ =>
    refine leads_tick reached fun connectCompleted reached => leads_check reached (fun _ => trivial) ?_ ?_
    · intro answer fails
      cases answer with
      | error errno => exact ⟨_,rfl,rfl⟩
      | ok endpoint =>
        refine ⟨_,if_pos ?_,rfl⟩
        rw [Bool.not_eq_true']
        exact Bool.eq_false_iff.mpr fun valid => fails ⟨endpoint,rfl,valid⟩
    intro answer succeeds reached
    cases answer with
    | error errno => 
      obtain ⟨endpoint,⟨⟩,_⟩ := succeeds
    | ok endpoint =>
      obtain ⟨_,⟨⟩,valid⟩ := succeeds
      dsimp only
      rw [if_neg (by simp [valid]),if_neg (Nat.not_le.mpr (requestText_fits workloadId))]
      refine leads_tick reached fun sendStarted reached => ?_
      refine (sendAll_leads descriptor _ 0 (Nat.zero_le _) reached).bind (fun _ => rfl) ?_
      rintro trace result ⟨reached,rfl⟩
      refine leads_tick reached fun sendCompleted reached => leads_tick reached fun receiveStarted reached => ?_
      refine (receiveExpectedReply_leads descriptor _ rfl reached).bind (fun _ => rfl) ?_
      rintro trace result ⟨reached,rfl⟩
      exact leads_tick reached fun receiveCompleted reached => leads_ok ⟨reached,rfl,rfl,rfl⟩

theorem Failed.judged {trace : List TcpExchange} {result : SocketResult} (failed : Failed api request trace result) :
    Judged api request trace result where
  continues := failed.continues
  verdict := iff_of_false (by rw [failed.failing]; exact Bool.false_ne_true) failed.missed
  counts success := absurd (failed.failing.symm.trans success) Bool.false_ne_true

/-- Checks do not complete a transfer. -/
theorem Transferred.of_append {before trace : List TcpExchange} (checks : ∀ exchange ∈ trace, isCheck exchange)
    (transferred : Transferred api request (before ++ trace)) : Transferred api request before := by
  obtain ⟨calls,sent,received⟩ := transferred
  obtain ⟨noneSent,noneReceived⟩ := silent_of_checks checks
  rw [accepted_append,noneSent,List.append_nil] at sent
  rw [segments_append,noneReceived,List.append_nil] at received
  exact ⟨(List.forall_mem_append.mp calls).1,sent,received⟩

theorem Failed.append_checks {before trace : List TcpExchange} {result : SocketResult}
    (failed : Failed api request before result) (checks : ∀ exchange ∈ trace, isCheck exchange) :
    Failed api request (before ++ trace) result :=
  ⟨failed.continues.append_checks checks,failed.failing,fun transferred => failed.missed (transferred.of_append checks)⟩

/-- A part that ends the exchange with a verdict. -/
def Judges (api : TcpSocketApi) (request : Bytes) (before : List TcpExchange) (p : TcpProgram SocketResult) : Prop :=
  p.Ensures fun trace result => Judged api request (before ++ trace) result

theorem judges_pure {before : List TcpExchange} {result : SocketResult} (judged : Judged api request before result) :
    Judges api request before (pure result) := by
  rw [Judges,ensures_pure,List.append_nil]
  exact judged

theorem judges_call {before : List TcpExchange} {command : TcpCommand} {next : command.Answer → TcpProgram SocketResult}
    (rest : ∀ answer, Judges api request (before ++ [⟨command,answer⟩]) (next answer)) :
    Judges api request before (call command >>= next) := by
  intro answer
  refine Ensures.mono (rest answer) fun trace result judged => ?_
  rwa [List.append_assoc] at judged

/-- Everything was transferred before the close. -/
theorem Reached.judged_close {before : List TcpExchange} {result : SocketResult} {detail : CString} {descriptor : Int}
    (reached : Reached api request request expectedReply before)
    (sent : result.bytesSent = request.length.toUInt64) (received : result.bytesReceived = expectedReply.length.toUInt64)
    (fits : request.length < UInt64.size) :
    Judged api request (before ++ [⟨.close descriptor,.ok ()⟩]) { result with success := true, detail } := by
  have closes : ∀ exchange ∈ [(⟨.close descriptor,.ok ()⟩ : TcpExchange)], isCheck exchange :=
    List.forall_mem_singleton.mpr trivial
  have reached := reached.append_checks closes (List.forall_mem_singleton.mpr rfl)
  refine ⟨reached.continues,iff_of_true rfl ⟨reached.calls,reached.sends,?_⟩,fun _ => ⟨?_,?_⟩⟩
  · rw [reached.receives]
  · rw [reached.sends,sent]
    exact UInt64.toNat_ofNat_of_lt' fits
  · rw [reached.receives,received]
    rfl

/-- Before the first piece nothing of the request has been accepted. -/
theorem Reached.failed_early {workloadId : UInt32} {before : List TcpExchange} {result : SocketResult}
    (reached : Reached api (bytesOf (requestText workloadId)) [] [] before) (failing : result.success = false) :
    Failed api (bytesOf (requestText workloadId)) before result where
  continues := reached.continues
  failing := failing
  missed transferred := by
    have nothing := congrArg List.length (reached.sends.symm.trans transferred.sent)
    rw [bytesOf,List.length_map,requestText_length] at nothing
    cases Nat.eq_zero_of_add_eq_zero_left nothing.symm

theorem exchange_judges (profile : RuntimeProfile) (workloadId : UInt32) (config : TcpScenarioConfig)
    {before : List TcpExchange} (reached : Reached api (bytesOf (requestText workloadId)) [] [] before) :
    Judges api (bytesOf (requestText workloadId)) before (exchange api profile workloadId config) := by
  unfold exchange
  split
  · exact judges_pure (reached.failed_early rfl).judged
  next address _ =>
    apply judges_call
    intro answer
    have opens : ∀ exchange ∈ [(⟨.socket,answer⟩ : TcpExchange)], isCheck exchange :=
      List.forall_mem_singleton.mpr trivial
    cases answer with
    | error errno => exact judges_pure ((reached.failed_early rfl).append_checks opens).judged
    | ok descriptor =>
      have reached := reached.append_checks opens (List.forall_mem_singleton.mpr rfl)
      dsimp only
      rw [Judges,ensures_bind]
      refine Ensures.mono (talk_leads workloadId config _ descriptor reached) fun trace value leads => ?_
      have closes : ∀ answer, ∀ exchange ∈ [(⟨.close descriptor,answer⟩ : TcpExchange)], isCheck exchange :=
        fun _ => List.forall_mem_singleton.mpr trivial
      simp only [← List.append_assoc] at leads ⊢
      cases value with
      | error result => exact judges_call fun answer => judges_pure (leads.append_checks (closes answer)).judged
      | ok value =>
        obtain ⟨reached,failing,sent,received⟩ := leads
        apply judges_call
        intro answer
        cases answer with
        | error errno =>
          have blocked : ¬∀ exchange ∈ [(⟨.close descriptor,.error errno⟩ : TcpExchange)], CallSucceeds api exchange :=
            fun succeed => Bool.false_ne_true (succeed _ List.mem_cons_self)
          refine judges_pure (reached.failed_checks (closes _) blocked ?_).judged
          exact failing
        | ok _ =>
          have fits : (bytesOf (requestText workloadId)).length < UInt64.size := by
            rw [bytesOf,List.length_map]
            exact Nat.lt_of_le_of_lt (requestText_length_le workloadId) (by decide)
          exact judges_pure (reached.judged_close sent received fits)

/-- `socketExit` changes no verdict. -/
theorem Judged.exit {trace : List TcpExchange} {result : SocketResult} (judged : Judged api request trace result)
    (answer : Unit) : Judged api request (trace ++ [⟨.socketExit,answer⟩]) result := by
  have exits : ∀ exchange ∈ [(⟨.socketExit,answer⟩ : TcpExchange)], isCheck exchange :=
    List.forall_mem_singleton.mpr trivial
  obtain ⟨noneSent,noneReceived⟩ := silent_of_checks exits
  have sent : accepted (trace ++ [⟨.socketExit,answer⟩]) = accepted trace := by
    rw [accepted_append,noneSent,List.append_nil]
  have received : segments (trace ++ [⟨.socketExit,answer⟩]) = segments trace := by
    rw [segments_append,noneReceived,List.append_nil]
  refine ⟨judged.continues.append_checks exits,judged.verdict.trans ⟨fun transferred => ?_,(·.of_append exits)⟩,?_⟩
  · refine ⟨List.forall_mem_append.mpr ⟨transferred.calls,List.forall_mem_singleton.mpr trivial⟩,?_,?_⟩
    · rw [sent,transferred.sent]
    · rw [received]
      exact transferred.received
  · rw [sent,received]
    exact judged.counts

theorem runBsdSystemTcpExchange_judges (profile : RuntimeProfile) (workloadId : UInt32) (config : TcpScenarioConfig) :
    Judges api (bytesOf (requestText workloadId)) [] (runBsdSystemTcpExchange api profile workloadId config) := by
  have untouched : Reached api (bytesOf (requestText workloadId)) [] [] [] :=
    ⟨List.forall_mem_nil _,fun before descriptor data answer after same => by simp at same,rfl,rfl⟩
  apply judges_call
  intro rc
  have initializes : ∀ exchange ∈ [(⟨.socketInitialize,rc⟩ : TcpExchange)], isCheck exchange :=
    List.forall_mem_singleton.mpr trivial
  dsimp only
  split
  · exact judges_pure ((untouched.failed_early rfl).append_checks initializes).judged
  next ready =>
    have succeeds : CallSucceeds api ⟨.socketInitialize,rc⟩ := Bool.eq_false_iff.mpr ready
    have reached := untouched.append_checks initializes (List.forall_mem_singleton.mpr succeeds)
    rw [Judges,ensures_bind]
    refine Ensures.mono (exchange_judges profile workloadId config reached) fun trace result judged answer => ?_
    have behind := judged.exit answer
    rwa [List.append_assoc] at behind

end Exchange

section Close

variable {api : TcpSocketApi}

def keepsOpen : TcpExchange → Prop
  | ⟨.socket,_⟩ | ⟨.close _,_⟩ => False
  | _ => True

theorem only_setTimeouts (descriptor : Int) (deadlineMs : UInt32) :
    Only keepsOpen (setTimeouts api descriptor deadlineMs) := by
  apply only_call fun _ => trivial
  intro answer
  cases answer with
  | error errno => exact only_pure _
  | ok _ =>
    apply only_call fun _ => trivial
    intro answer
    cases answer with
    | error errno => exact only_pure _
    | ok _ => exact only_pure _

theorem only_sendAll (descriptor : Int) (data : Bytes) (offset : Nat) :
    Only keepsOpen (sendAll api descriptor data offset) := by
  induction offset using sendAll.induct data with
  | case1 offset more ih =>
    rw [sendAll,if_pos more]
    apply only_call fun _ => trivial
    intro answer
    cases answer with
    | error errno => exact only_pure _
    | ok sent =>
      dsimp only
      split
      · exact only_pure _
      next some_ => exact ih sent some_
  | case2 offset finished =>
    rw [sendAll,if_neg finished]
    exact only_pure _

theorem only_receiveReply (descriptor : Int) (result : SocketResult) (reply : Bytes) :
    Only keepsOpen (receiveReply api descriptor result reply) := by
  induction reply using receiveReply.induct with
  | case1 reply more ih =>
    rw [receiveReply,if_pos more]
    apply only_call fun _ => trivial
    intro answer
    cases answer with
    | error errno => exact only_pure _
    | ok segment =>
      dsimp only
      split
      · exact only_pure _
      next some_ => exact ih segment some_
  | case2 reply finished =>
    rw [receiveReply,if_neg finished]
    exact only_pure _

/-- A part that ends early with the result of the part before it. -/
theorem only_bind_except {p : TcpProgram (Except SocketResult α)}
    {next : Except SocketResult α → TcpProgram (Except SocketResult β)} (first : Only keepsOpen p)
    (fails : ∀ result, next (.error result) = pure (.error result)) (goesOn : ∀ value, Only keepsOpen (next (.ok value))) :
    Only keepsOpen (p >>= next) := by
  refine first.bind fun value => ?_
  cases value with
  | error result =>
    rw [fails]
    exact only_pure _
  | ok value => exact goesOn value

theorem only_receiveExpectedReply (descriptor : Int) (deadlineMs : UInt32) (result : SocketResult) :
    Only keepsOpen (receiveExpectedReply api descriptor deadlineMs result) := by
  apply only_call fun _ => trivial
  intro answer
  split
  · exact only_pure _
  · exact only_pure _
  · apply Only.ite (only_pure _)
    exact only_bind_except (only_receiveReply _ _ _) (fun _ => rfl) fun reply => .ite (only_pure _) (only_pure _)

theorem only_talk (workloadId : UInt32) (config : TcpScenarioConfig) (remote : SockaddrIn) (descriptor : Int) :
    Only keepsOpen (talk api workloadId config remote descriptor) := by
  refine only_bind_except (only_setTimeouts _ _) (fun _ => rfl) fun _ => ?_
  refine only_call (fun _ => trivial) fun connectStarted => only_call (fun _ => trivial) fun connected => ?_
  cases connected with
  | error errno => exact only_pure _
  | ok _ =>
    refine only_call (fun _ => trivial) fun connectCompleted => only_call (fun _ => trivial) fun localAnswer => ?_
    cases localAnswer with
    | error errno => exact only_pure _
    | ok localAnswer =>
      apply Only.ite (only_pure _)
      apply Only.ite (only_pure _)
      refine only_call (fun _ => trivial) fun sendStarted => ?_
      refine only_bind_except (only_sendAll _ _ _) (fun _ => rfl) fun result => ?_
      refine only_call (fun _ => trivial) fun sendCompleted => only_call (fun _ => trivial) fun receiveStarted => ?_
      refine only_bind_except (only_receiveExpectedReply _ _ _) (fun _ => rfl) fun result => ?_
      exact only_call (fun _ => trivial) fun receiveCompleted => only_pure _

theorem untouched_of_keepsOpen {trace : List TcpExchange} (keeps : ∀ exchange ∈ trace, keepsOpen exchange) :
    opened trace = [] ∧ closed trace = [] := by
  constructor
  all_goals
    apply List.filterMap_eq_nil_iff.mpr
    rintro ⟨command,answer⟩ member
    have keep := keeps _ member
    cases command <;> first | rfl | exact keep.elim

/-- The descriptor that was opened, if any, is closed once. -/
def ClosesOnce (trace : List TcpExchange) : Prop := closed trace = opened trace

theorem closesOnce_talked {trace : List TcpExchange} (keeps : ∀ exchange ∈ trace, keepsOpen exchange) (descriptor : Nat)
    (answer : Except Int Unit) :
    ClosesOnce (⟨.socket,.ok descriptor⟩ :: (trace ++ [⟨.close descriptor,answer⟩])) := by
  obtain ⟨noneOpened,noneClosed⟩ := untouched_of_keepsOpen keeps
  have opens : opened (trace ++ [⟨.close descriptor,answer⟩]) = [] := by
    rw [opened,List.filterMap_append,← opened,noneOpened]
    rfl
  have closes : closed (trace ++ [⟨.close descriptor,answer⟩]) = [descriptor] := by
    rw [closed,List.filterMap_append,← closed,noneClosed]
    rfl
  exact closes.trans (congrArg ((descriptor : Int) :: ·) opens.symm)

theorem exchange_closes (profile : RuntimeProfile) (workloadId : UInt32) (config : TcpScenarioConfig) :
    (exchange api profile workloadId config).Ensures fun trace _ => ClosesOnce trace := by
  unfold exchange
  split
  · exact rfl
  · rw [ensures_perform_bind]
    intro answer
    cases answer with
    | error errno => exact rfl
    | ok descriptor =>
      dsimp only
      rw [ensures_bind]
      refine Ensures.mono (only_talk workloadId config _ _) fun trace value keeps => ?_
      cases value with
      | error result => exact fun answer => closesOnce_talked keeps descriptor answer
      | ok value =>
        intro answer
        cases answer with
        | error errno => exact closesOnce_talked keeps descriptor (.error errno)
        | ok _ => exact closesOnce_talked keeps descriptor (.ok ())

theorem runBsdSystemTcpExchange_closes (profile : RuntimeProfile) (workloadId : UInt32) (config : TcpScenarioConfig) :
    (runBsdSystemTcpExchange api profile workloadId config).Ensures fun trace _ => ClosesOnce trace := by
  intro rc
  apply Ensures.ite
  · exact fun _ => rfl
  · intro _
    rw [ensures_bind]
    refine (exchange_closes profile workloadId config).mono fun trace result closes answer => ?_
    have exits : closed (trace ++ [⟨.socketExit,answer⟩]) = opened (trace ++ [⟨.socketExit,answer⟩]) := by
      simpa [closed,opened,ClosesOnce] using closes
    exact exits

end Close

section Progress

variable {api : TcpSocketApi}

def Transfers : TcpExchange → Prop
  | ⟨.send _ _,answer⟩ => ∃ sent, answer = .ok sent ∧ sent.val ≠ 0
  | ⟨.recv _ _,answer⟩ => ∃ segment, answer = .ok segment ∧ segment.val ≠ []
  | _ => True

def Progresses (api : TcpSocketApi) (exchange : TcpExchange) : Prop := CallSucceeds api exchange ∧ Transfers exchange

structure Moved (sent received : Bytes) (trace : List TcpExchange) (value : Except SocketResult α) : Prop where
  goesOn : value.isOk = true
  sends : accepted trace = sent
  receives : segments trace = received

/-- The part has sent this and received a whole reply, the expected one or another. -/
structure Replied (sent : Bytes) (trace : List TcpExchange) : Prop where
  sends : accepted trace = sent
  receives : (segments trace).length = expectedReply.length

theorem Replied.append_checks {sent : Bytes} {trace later : List TcpExchange} (replied : Replied sent trace)
    (checks : ∀ exchange ∈ later, isCheck exchange) : Replied sent (trace ++ later) where
  sends := by rw [accepted_append,(silent_of_checks checks).1,List.append_nil,replied.sends]
  receives := by rw [segments_append,(silent_of_checks checks).2,List.append_nil,replied.receives]

theorem Replied.behind_checks {sent : Bytes} {trace earlier : List TcpExchange} (replied : Replied sent trace)
    (checks : ∀ exchange ∈ earlier, isCheck exchange) : Replied sent (earlier ++ trace) where
  sends := by rw [accepted_append,(silent_of_checks checks).1,List.nil_append,replied.sends]
  receives := by rw [segments_append,(silent_of_checks checks).2,List.nil_append,replied.receives]

theorem setTimeouts_completes (descriptor : Int) (deadlineMs : UInt32) :
    Completes (Progresses api) (setTimeouts api descriptor deadlineMs) (Moved [] []) := by
  apply completes_call
  rintro (errno | _) ⟨succeeds,_⟩
  · cases succeeds
  apply completes_call
  rintro (errno | _) ⟨succeeds,_⟩
  · cases succeeds
  exact completes_pure ⟨rfl,rfl,rfl⟩

theorem sendAll_completes (descriptor : Int) (data : Bytes) (offset : Nat) :
    Completes (Progresses api) (sendAll api descriptor data offset) (Moved (data.drop offset) []) := by
  induction offset using sendAll.induct data with
  | case1 offset more ih =>
    rw [sendAll,if_pos more]
    apply completes_call
    rintro (errno | sent) ⟨_,_,same,some_⟩
    · cases same
    cases same
    dsimp only
    rw [if_neg some_]
    refine (ih sent some_).mono fun trace value moved => ⟨moved.goesOn,?_,?_⟩
    · have split := List.take_append_drop sent.val (data.drop offset)
      rw [List.drop_drop] at split
      change (data.drop offset).take sent.val ++ accepted trace = data.drop offset
      rw [moved.sends,split]
    · exact moved.receives
  | case2 offset finished =>
    rw [sendAll,if_neg finished]
    exact completes_pure ⟨rfl,(List.drop_eq_nil_of_le (Nat.le_of_not_lt finished)).symm,rfl⟩

theorem receiveReply_completes (descriptor : Int) (result : SocketResult) (reply : Bytes)
    (inside : reply.length ≤ expectedReply.length) :
    Completes (Progresses api) (receiveReply api descriptor result reply) fun trace value => accepted trace = [] ∧
      (reply ++ segments trace).length = expectedReply.length ∧ value = .ok (reply ++ segments trace) := by
  induction reply using receiveReply.induct with
  | case1 reply more ih =>
    rw [receiveReply,if_pos more]
    apply completes_call
    rintro (errno | segment) ⟨_,_,same,some_⟩
    · cases same
    cases same
    dsimp only
    rw [if_neg some_]
    have bound := segment.property
    have within : (reply ++ segment.val).length ≤ expectedReply.length := by
      rw [List.length_append]
      omega
    refine (ih segment some_ within).mono fun trace value told => ?_
    rw [List.append_assoc] at told
    exact told
  | case2 reply finished =>
    rw [receiveReply,if_neg finished]
    have whole : (reply ++ segments []).length = expectedReply.length := by
      rw [segments,List.flatMap_nil,List.append_nil]
      omega
    exact completes_pure ⟨rfl,whole,by rw [segments,List.flatMap_nil,List.append_nil]⟩

theorem receiveExpectedReply_completes (descriptor : Int) (deadlineMs : UInt32) (result : SocketResult) :
    Completes (Progresses api) (receiveExpectedReply api descriptor deadlineMs result) fun trace _ =>
      Replied [] trace := by
  apply completes_call
  rintro ⟨returned,revents⟩ ⟨⟨⟨count,same⟩,input⟩,_⟩
  cases same
  dsimp only at input ⊢
  rw [input]
  refine (receiveReply_completes descriptor result [] (Nat.zero_le _)).bind ?_
  rintro trace value ⟨sends,whole,rfl⟩
  dsimp only
  split
  all_goals
    refine completes_pure ?_
    rw [List.append_nil]
    exact ⟨sends,whole⟩

theorem talk_completes (workloadId : UInt32) (config : TcpScenarioConfig) (remote : SockaddrIn) (descriptor : Int) :
    Completes (Progresses api) (talk api workloadId config remote descriptor) fun trace _ =>
      Replied (bytesOf (requestText workloadId)) trace := by
  unfold talk
  refine (setTimeouts_completes descriptor config.receiveDeadlineMs).bind ?_
  rintro timeouts (_ | _) ⟨goesOn,sends,receives⟩
  · cases goesOn
  refine completes_call fun connectStarted _ => completes_call ?_
  rintro (_ | _) ⟨connected,_⟩
  · cases connected
  refine completes_call fun connectCompleted _ => completes_call ?_
  rintro localAnswer ⟨⟨endpoint,same,isLocal⟩,_⟩
  cases same
  have fits : ¬(requestText workloadId).length ≥ requestCapacity :=
    Nat.not_le.mpr (Nat.lt_of_le_of_lt (requestText_length_le workloadId) (by decide))
  dsimp only
  rw [isLocal,Bool.not_true,if_neg Bool.false_ne_true,if_neg fits]
  refine completes_call fun sendStarted _ => (sendAll_completes descriptor (bytesOf (requestText workloadId)) 0).bind ?_
  rintro sending (_ | result) moved
  · cases moved.goesOn
  refine completes_call fun sendCompleted _ => completes_call fun receiveStarted _ =>
    (receiveExpectedReply_completes descriptor config.receiveDeadlineMs result).bind ?_
  intro receiving value replied
  have whole : Replied (bytesOf (requestText workloadId)) (timeouts ++ ⟨.systemTick,connectStarted⟩ ::
      ⟨.connect descriptor remote,.ok ()⟩ :: ⟨.systemTick,connectCompleted⟩ ::
        ⟨.getsockname descriptor,.ok endpoint⟩ :: ⟨.systemTick,sendStarted⟩ :: (sending ++
          ⟨.systemTick,sendCompleted⟩ :: ⟨.systemTick,receiveStarted⟩ :: receiving)) := by
    constructor
    · rw [accepted_append,sends,List.nil_append]
      change accepted (sending ++ _) = _
      rw [accepted_append,moved.sends,List.drop_zero]
      change _ ++ accepted receiving = _
      rw [replied.sends,List.append_nil]
    · rw [segments_append,receives,List.nil_append]
      change (segments (sending ++ _)).length = _
      rw [segments_append,moved.receives,List.nil_append]
      exact replied.receives
  cases value with
  | error result =>
    refine completes_pure ?_
    rw [List.append_nil]
    exact whole
  | ok result =>
    refine completes_call fun receiveCompleted _ => completes_pure ?_
    have ticks : ∀ exchange ∈ [(⟨.systemTick,receiveCompleted⟩ : TcpExchange)], isCheck exchange :=
      List.forall_mem_singleton.mpr trivial
    have ticked := whole.append_checks ticks
    simpa only [List.append_assoc,List.cons_append] using ticked

theorem exchange_completes {profile : RuntimeProfile} (workloadId : UInt32) (config : TcpScenarioConfig)
    (parses : api.inetPton profile.bsdDestinationIpv4 ≠ none) :
    Completes (Progresses api) (exchange api profile workloadId config) fun trace _ =>
      Replied (bytesOf (requestText workloadId)) trace := by
  unfold exchange
  split
  next none_ => exact absurd none_ parses
  next address _ =>
    apply completes_call
    rintro (_ | descriptor) ⟨succeeds,_⟩
    · cases succeeds
    refine (talk_completes workloadId config ⟨api.afInet,address,profile.tcpDestinationPort⟩ descriptor).bind ?_
    intro trace value replied
    have opens : ∀ exchange ∈ [(⟨.socket,.ok descriptor⟩ : TcpExchange)], isCheck exchange :=
      List.forall_mem_singleton.mpr trivial
    have closes (answer : Except Int Unit) : ∀ exchange ∈ [(⟨.close descriptor,answer⟩ : TcpExchange)],
        isCheck exchange := List.forall_mem_singleton.mpr trivial
    have told (answer : Except Int Unit) : Replied (bytesOf (requestText workloadId))
        (⟨.socket,.ok descriptor⟩ :: (trace ++ [⟨.close descriptor,answer⟩])) :=
      (replied.append_checks (closes answer)).behind_checks opens
    cases value with
    | error result => exact completes_call fun answer _ => completes_pure (told answer)
    | ok value =>
      refine completes_call fun answer _ => ?_
      cases answer with
      | error errno => exact completes_pure (told _)
      | ok _ => exact completes_pure (told _)

theorem runBsdSystemTcpExchange_completes {profile : RuntimeProfile} (workloadId : UInt32) (config : TcpScenarioConfig)
    (parses : api.inetPton profile.bsdDestinationIpv4 ≠ none) :
    Completes (Progresses api) (runBsdSystemTcpExchange api profile workloadId config) fun trace _ =>
      Replied (bytesOf (requestText workloadId)) trace := by
  apply completes_call
  rintro rc ⟨ready,_⟩
  dsimp only
  rw [if_neg (Bool.eq_false_iff.mp ready)]
  refine (exchange_completes workloadId config parses).bind fun trace result replied => completes_call fun answer _ => ?_
  have initializes : ∀ exchange ∈ [(⟨.socketInitialize,rc⟩ : TcpExchange)], isCheck exchange :=
    List.forall_mem_singleton.mpr trivial
  have exits : ∀ exchange ∈ [(⟨.socketExit,answer⟩ : TcpExchange)], isCheck exchange :=
    List.forall_mem_singleton.mpr trivial
  exact completes_pure ((replied.append_checks exits).behind_checks initializes)

/-- With a whole reply of the right length, only its bytes are in question. -/
theorem Replied.transferred_iff {request : Bytes} {trace : List TcpExchange} (replied : Replied request trace)
    (calls : ∀ exchange ∈ trace, CallSucceeds api exchange) :
    Transferred api request trace ↔ segments trace = expectedReply := by
  constructor
  · exact fun transferred => (transferred.received.eq_of_length replied.receives.symm).symm
  · exact fun same => ⟨calls,replied.sends,same ▸ List.prefix_refl _⟩

end Progress

/-- An exchange succeeds exactly if every other call succeeds, the accepted pieces make up the
request and the received segments begin with the reply. No piece repeats or skips a byte, the counts
of a success are those of the transfer, and an opened descriptor is closed once. As long as no call
fails and every piece has a byte, the exchange goes on until the whole request is accepted and a whole
reply received, and succeeds if that is the expected one. -/
theorem runBsdSystemTcpExchange_exact (api : TcpSocketApi) (profile : RuntimeProfile) (workloadId : UInt32)
    (config : TcpScenarioConfig) (service : Service TcpCommand.Answer) :
    let run := (runBsdSystemTcpExchange api profile workloadId config).run service []
    (run.2.success = true ↔ Transferred api (bytesOf (requestText workloadId)) run.1) ∧
    SendsContinue (bytesOf (requestText workloadId)) run.1 ∧
    (run.2.success = true → run.2.bytesSent.toNat = (accepted run.1).length ∧
      run.2.bytesReceived.toNat = (segments run.1).length) ∧
    ClosesOnce run.1 ∧
    (api.inetPton profile.bsdDestinationIpv4 ≠ none → (∀ exchange ∈ run.1, Progresses api exchange) →
      accepted run.1 = bytesOf (requestText workloadId) ∧ (segments run.1).length = expectedReply.length ∧
        (run.2.success = true ↔ segments run.1 = expectedReply)) := by
  intro run
  have judged : Judged api (bytesOf (requestText workloadId)) run.1 run.2 :=
    Ensures.of_run (runBsdSystemTcpExchange_judges profile workloadId config) service
  refine ⟨judged.verdict,judged.continues,judged.counts,
    (runBsdSystemTcpExchange_closes profile workloadId config).of_run service,fun parses progresses => ?_⟩
  have replied : Replied (bytesOf (requestText workloadId)) run.1 :=
    Ensures.of_run (runBsdSystemTcpExchange_completes workloadId config parses) service progresses
  exact ⟨replied.sends,replied.receives,
    judged.verdict.trans (replied.transferred_iff fun exchange member => (progresses exchange member).1)⟩

def pieceApi : TcpSocketApi where
  maximumUdpPayloadStorageBytes := 1200
  maximumFlowsPerClient := 8
  rttMeanMilliseconds := "0.500000".toList
  inetPton _ := some [10,0,0,1]
  inetNtop _ := some "10.0.0.1".toList
  strerror _ := []
  eagain := 11
  ewouldblock := 11
  etimedout := 110
  econnaborted := 103
  eopnotsupp := 95
  pollIn := 1
  pollOut := 4
  pollHup := 16
  oNonblock := 2048
  afInet := 2
  inaddrAny := [0,0,0,0]
  sizeofSockaddrIn := 16
  pollErr := 8
  pollNval := 32
  epipe := 32
  econnreset := 104
  tickFrequency := 1000

/-- A socket that takes five bytes at a time and hands out the reply in pieces of six. -/
def pieceService : Service TcpCommand.Answer := fun trace command => match command with
  | .socketInitialize => 0
  | .socket => .ok 3
  | .getsockname _ => .ok ⟨⟨2,[10,0,0,2],4000⟩,16⟩
  | .setTimeout _ _ _ _ | .connect _ _ | .close _ => .ok ()
  | .send _ data => .ok ⟨min 5 data.length,Nat.lt_succ_of_le (Nat.min_le_right 5 data.length)⟩
  | .poll _ _ _ => ⟨.ok 1,1⟩
  | .recv _ size => .ok ⟨(expectedReply.drop (segments trace).length).take (min 6 size),
      Nat.le_trans (List.length_take_le _ _) (Nat.min_le_right 6 size)⟩
  | .socketExit => ()
  | .systemTick => 7

/-- The request of 12 bytes and the reply of 14 each take three pieces. -/
theorem runBsdSystemTcpExchange_exact_pieces :
    let run := (runBsdSystemTcpExchange pieceApi ⟨"lan".toList,[],"10.0.0.1".toList,7,8⟩ 7 ⟨5000⟩).run pieceService []
    Transferred pieceApi (bytesOf (requestText 7)) run.1 ∧
      run.2.bytesSent.toNat = (accepted run.1).length ∧ run.2.bytesReceived.toNat = (segments run.1).length ∧
      (run.1.filterMap fun | ⟨.send _ data,_⟩ => some data.length | _ => none) = [12,7,2] ∧
      (run.1.filterMap fun | ⟨.recv _ size,_⟩ => some size | _ => none) = [14,8,2] := by
  intro run
  have success : run.2.success = true := by decide +kernel
  obtain ⟨verdict,_,counts,_⟩ := runBsdSystemTcpExchange_exact pieceApi ⟨"lan".toList,[],"10.0.0.1".toList,7,8⟩ 7 ⟨5000⟩
    pieceService
  exact ⟨verdict.mp success,(counts success).1,(counts success).2,by decide +kernel,by decide +kernel⟩

end NxReverse.Toolbox.BsdSystemTcp
