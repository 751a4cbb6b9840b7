import NxReverse.Toolbox.WritableRecovery

/-! Which sockets the `bsd:s` workload closes. Everything that was opened is closed once at the end,
except that a terminal closure whose own close fails closes its socket again. -/
namespace NxReverse.Toolbox.BsdSystemUdp

open Text Words Program

def opened (trace : List SocketExchange) : List Nat := trace.filterMap fun
  | ⟨.socket,.ok descriptor⟩ => some descriptor
  | _ => none

def closed (trace : List SocketExchange) : List Int := trace.filterMap fun
  | ⟨.close descriptor,_⟩ => some descriptor
  | _ => none

/-- The calls on a descriptor, other than closing it. -/
def SocketCommand.uses (descriptor : Int) : SocketCommand → Prop
  | connect other _ | getsockname other | getFlags other | setFlags other _ | setReuseAddress other
  | send other _ | poll other _ _ | recvfrom other _ => other = descriptor
  | socketInitialize | socketExit | socket | close _ | sleepMilliseconds _ => False

/-- The descriptors passed to `close` are those that were opened, each once for each time it was
opened, and none is used behind its close. -/
structure ClosesSockets (trace : List SocketExchange) : Prop where
  once : (closed trace).Perm ((opened trace).map Int.ofNat)
  unused : ∀ before after descriptor answer, trace = before ++ ⟨.close descriptor,answer⟩ :: after →
    ∀ exchange ∈ after, ¬exchange.command.uses descriptor

/-- The socket is reported closed and then refuses a datagram with `ECONNABORTED`. -/
def EndsRefused (api : SocketApi) (descriptor : Int) (trace : List SocketExchange) : Prop :=
  ∃ before events timeoutMs answer payload,
    trace = before ++ [⟨.poll descriptor events timeoutMs,answer⟩,
      ⟨.send descriptor payload,.error api.econnaborted⟩] ∧
    classifyBsdPollObservation api answer = .closed

/-- Such a socket is closed next, and its close fails. -/
def TerminalCloseFails (api : SocketApi) (trace : List SocketExchange) : Prop :=
  ∃ before descriptor errno after, trace = before ++ ⟨.close descriptor,.error errno⟩ :: after ∧
    EndsRefused api descriptor before

def isCheck : SocketExchange → Prop
  | ⟨.connect _ _,_⟩ | ⟨.getsockname _,_⟩ | ⟨.getFlags _,_⟩ | ⟨.setFlags _ _,_⟩ | ⟨.setReuseAddress _,_⟩ => True
  | _ => False

/-- The calls before the first datagram. -/
def isSetup : SocketExchange → Prop
  | ⟨.socketInitialize,_⟩ | ⟨.socket,_⟩ => True
  | exchange => isCheck exchange

/-- The calls that open no socket and close none. -/
def isWork : SocketExchange → Prop
  | ⟨.send _ _,_⟩ | ⟨.poll _ _ _,_⟩ | ⟨.recvfrom _ _,_⟩ | ⟨.sleepMilliseconds _,_⟩ => True
  | exchange => isCheck exchange

def isClosing : SocketExchange → Prop
  | ⟨.close _,_⟩ | ⟨.socketExit,_⟩ => True
  | _ => False

section Parts

variable {api : SocketApi}

theorem setup_of_check (exchange : SocketExchange) (check : isCheck exchange) : isSetup exchange := by
  obtain ⟨command,answer⟩ := exchange
  cases command <;> first | exact trivial | exact check

theorem only_verifyVisibleLocalEndpoint (descriptor : Int) (result : SocketResult) (flowIndex : Nat) :
    Only isCheck (verifyVisibleLocalEndpoint api descriptor result flowIndex) := by
  apply only_call fun _ => trivial
  intro answer
  cases answer with
  | error errno => exact only_pure _
  | ok answer => exact .ite (only_pure _) (only_pure _)

theorem only_configureNonBlocking (descriptor : Int) (result : SocketResult) (flowIndex : Nat) :
    Only isCheck (configureNonBlocking api descriptor result flowIndex) := by
  apply only_call fun _ => trivial
  intro answer
  cases answer with
  | error errno => exact only_pure _
  | ok flags =>
    apply only_call fun _ => trivial
    intro answer
    cases answer with
    | error errno => exact only_pure _
    | ok _ => exact only_pure _

theorem only_verifyPostRouteRejection (descriptor : Int) (result : SocketResult) :
    Only isCheck (verifyPostRouteRejection api descriptor result) := by
  apply only_call fun _ => trivial
  intro answer
  cases answer with
  | ok _ => exact only_pure _
  | error errno => exact .ite (only_pure _) (only_pure _)

theorem only_sendWithWritableRetry (descriptor : Int) (payload : Bytes) (deadlineMs : UInt32) (retriesLeft : Nat)
    (result : BsdSendResult) :
    Only isWork (sendWithWritableRetry api descriptor payload deadlineMs retriesLeft result) := by
  induction retriesLeft generalizing result with
  | zero =>
    rw [sendWithWritableRetry]
    apply only_call fun _ => trivial
    intro answer
    cases answer with
    | ok count => exact only_pure _
    | error errno => exact only_pure _
  | succ retriesLeft ih =>
    rw [sendWithWritableRetry]
    apply only_call fun _ => trivial
    intro answer
    cases answer with
    | ok count => exact only_pure _
    | error errno =>
      apply Only.ite (only_pure _)
      apply only_call fun _ => trivial
      intro writable
      split
      · exact only_pure _
      · exact only_pure _
      · exact .ite (only_pure _) (.ite (only_pure _) (ih _))

theorem only_waitForInput (descriptor : Int) (deadlineMs : UInt32) : Only isWork (waitForInput api descriptor deadlineMs) :=
  only_call (fun _ => trivial) fun _ => only_pure _

theorem only_receiveExpectedEcho (descriptor : Int) (payload : Bytes) (remote : SockaddrIn) (deadlineMs : UInt32)
    (result : SocketResult) (sequence : UInt32) :
    Only isWork (receiveExpectedEcho api descriptor payload remote deadlineMs result sequence) := by
  apply (only_waitForInput descriptor deadlineMs).bind
  intro poll
  apply Only.ite (only_pure _)
  apply only_call fun _ => trivial
  intro answer
  cases answer with
  | error errno => exact only_pure _
  | ok received => exact .ite (only_pure _) (.ite (only_pure _) (only_pure _))

theorem only_expectNoReply (config : TunnelUdpWorkloadConfig) (descriptor : Int) :
    Only isWork (expectNoReply api config descriptor) := by
  apply (only_sendWithWritableRetry descriptor _ _ _ _).bind
  intro sent
  exact .ite (only_pure _) ((only_waitForInput descriptor _).bind fun poll => only_pure _)

theorem only_sendDatagrams (config : TunnelUdpWorkloadConfig) (remote : SockaddrIn) (descriptors : List Nat)
    (remaining : Nat) (sequence : UInt32) (s : LoopState) :
    Only isWork (sendDatagrams api config remote descriptors remaining sequence s) := by
  induction remaining generalizing sequence s with
  | zero => exact only_pure _
  | succ remaining ih =>
    apply (only_sendWithWritableRetry _ _ _ _ _).bind
    intro sent
    apply Only.ite (only_pure _)
    refine Only.bind ?_ fun ⟨goesOn,later⟩ => .ite (only_pure _) ?_
    · exact .ite (only_pure _) ((only_receiveExpectedEcho _ _ _ _ _ _).bind fun _ => only_pure _)
    · exact .ite (only_call (fun _ => trivial) fun _ => ih _ later) (ih _ later)

theorem opened_append (first second : List SocketExchange) : opened (first ++ second) = opened first ++ opened second :=
  List.filterMap_append

theorem closed_append (first second : List SocketExchange) : closed (first ++ second) = closed first ++ closed second :=
  List.filterMap_append

theorem opened_of_check {trace : List SocketExchange} (checks : ∀ exchange ∈ trace, isCheck exchange) :
    opened trace = [] := by
  apply List.filterMap_eq_nil_iff.mpr
  rintro ⟨command,answer⟩ member
  have check := checks _ member
  cases command <;> first | rfl | exact check.elim

/-- What the open loop leaves: it opened the sockets it added, all of them unless it ended early. -/
structure OpenTold (descriptors : List Nat) (remaining : Nat) (trace : List SocketExchange)
    (value : List Nat × Option SocketResult) : Prop where
  setup : ∀ exchange ∈ trace, isSetup exchange
  added : value.1 = descriptors ++ opened trace
  complete : value.2 = none → (opened trace).length = remaining

/-- An attempt that ends the loop behind some checks of its socket. -/
theorem OpenTold.ends {descriptors : List Nat} {remaining descriptor : Nat} {checks : List SocketExchange}
    (allChecks : ∀ exchange ∈ checks, isCheck exchange) (result : SocketResult) :
    OpenTold descriptors remaining (⟨.socket,.ok descriptor⟩ :: checks) (descriptors ++ [descriptor],some result) where
  setup := List.forall_mem_cons.mpr ⟨trivial,fun exchange member => setup_of_check exchange (allChecks exchange member)⟩
  added := congrArg (fun later => descriptors ++ descriptor :: later) (opened_of_check allChecks).symm
  complete := nofun

/-- An attempt behind which the loop goes on. -/
theorem OpenTold.goesOn {descriptors : List Nat} {remaining descriptor : Nat} {checks trace : List SocketExchange}
    {value : List Nat × Option SocketResult} (allChecks : ∀ exchange ∈ checks, isCheck exchange)
    (later : OpenTold (descriptors ++ [descriptor]) remaining trace value) :
    OpenTold descriptors (remaining + 1) (⟨.socket,.ok descriptor⟩ :: (checks ++ trace)) value := by
  have gained : opened (⟨.socket,.ok descriptor⟩ :: (checks ++ trace)) = descriptor :: opened trace := by
    have same : opened (checks ++ trace) = opened trace := by rw [opened_append,opened_of_check allChecks,List.nil_append]
    exact congrArg (descriptor :: ·) same
  refine ⟨?_,?_,?_⟩
  · rw [List.forall_mem_cons,List.forall_mem_append]
    exact ⟨trivial,fun exchange member => setup_of_check exchange (allChecks exchange member),later.setup⟩
  · rw [gained,later.added,List.append_assoc]
    rfl
  · intro whole
    rw [gained,List.length_cons,later.complete whole]

theorem openSockets_told (remote : SockaddrIn) (remaining : Nat) (descriptors : List Nat) :
    (openSockets api remote remaining descriptors).Ensures (OpenTold descriptors remaining) := by
  induction remaining generalizing descriptors with
  | zero => exact ⟨List.forall_mem_nil _,(List.append_nil _).symm,fun _ => rfl⟩
  | succ remaining ih =>
    rw [openSockets,ensures_perform_bind]
    intro answer
    cases answer with
    | error errno =>
      exact ⟨List.forall_mem_cons.mpr ⟨trivial,List.forall_mem_nil _⟩,(List.append_nil _).symm,nofun⟩
    | ok descriptor =>
      dsimp only
      rw [ensures_perform_bind]
      intro connected
      have connects : isCheck ⟨.connect descriptor remote,connected⟩ := trivial
      cases connected with
      | error errno => exact .ends (List.forall_mem_cons.mpr ⟨connects,List.forall_mem_nil _⟩) _
      | ok _ =>
        dsimp only
        rw [ensures_bind]
        refine Ensures.mono (only_verifyVisibleLocalEndpoint _ _ _) fun visible checked checks => ?_
        have checks := List.forall_mem_cons.mpr ⟨connects,checks⟩
        cases checked with
        | error result =>
          rw [← List.append_nil visible] at checks
          exact .ends checks result
        | ok _ =>
          dsimp only
          rw [ensures_bind]
          refine Ensures.mono (only_configureNonBlocking _ _ _) fun configured result more => ?_
          have checks := List.forall_mem_append.mpr ⟨checks,more⟩
          cases result with
          | error result =>
            rw [← List.append_nil configured] at checks
            exact .ends checks result
          | ok _ =>
            refine (ih (descriptors ++ [descriptor])).mono fun trace value later => ?_
            have goesOn := OpenTold.goesOn checks later
            rwa [List.append_assoc] at goesOn

theorem not_endsRefused_of_last {exchange : SocketExchange} {descriptor : Int} {before : List SocketExchange}
    (noSend : ∀ payload, exchange ≠ ⟨.send descriptor payload,.error api.econnaborted⟩) :
    ¬EndsRefused api descriptor (before ++ [exchange]) := by
  rintro ⟨earlier,events,timeoutMs,answer,payload,same,_⟩
  have last := congrArg List.getLast? same
  rw [List.append_cons _ _ [_],List.getLast?_concat,List.getLast?_concat] at last
  exact noSend payload (Option.some.inj last)

def ReportsClosed (api : SocketApi) : SocketExchange → Prop
  | ⟨.poll _ _ _,answer⟩ => classifyBsdPollObservation api answer = .closed
  | _ => False

theorem not_endsRefused_of_send {descriptor : Int} {exchange : SocketExchange} {before : List SocketExchange}
    (calm : ∀ last ∈ before.getLast?, ¬ReportsClosed api last) : ¬EndsRefused api descriptor (before ++ [exchange]) := by
  rintro ⟨earlier,events,timeoutMs,answer,payload,same,gone⟩
  rw [List.append_cons _ _ [_]] at same
  obtain rfl := List.append_inj_left' same rfl
  exact calm ⟨.poll descriptor events timeoutMs,answer⟩ (by rw [List.getLast?_concat]; rfl) gone

/-- A poll without `POLLHUP` does not report its socket closed. -/
theorem not_reportsClosed {descriptor : Int} {events : Int16} {timeoutMs : Int32} {answer : PollAnswer}
    (noHangup : has answer.revents api.pollHup ≠ true) :
    ¬ReportsClosed api ⟨.poll descriptor events timeoutMs,answer⟩ := by
  intro gone
  change classifyBsdPollObservation api answer = .closed at gone
  unfold classifyBsdPollObservation at gone
  rw [if_neg noHangup] at gone
  split at gone
  · cases gone
  · cases gone
  · split at gone <;> cases gone

/-- The sends of a datagram end in no refusal behind a closed socket, as every poll between them
reported no `POLLHUP`. -/
theorem sendWithWritableRetry_calm (descriptor other : Int) (payload : Bytes) (deadlineMs : UInt32) (retriesLeft : Nat)
    (result : BsdSendResult) :
    (sendWithWritableRetry api descriptor payload deadlineMs retriesLeft result).Ensures fun trace _ =>
      ∀ before : List SocketExchange, (∀ last ∈ before.getLast?, ¬ReportsClosed api last) →
        ¬EndsRefused api other (before ++ trace) := by
  induction retriesLeft generalizing result with
  | zero =>
    rw [sendWithWritableRetry,ensures_perform_bind]
    intro answer
    cases answer with
    | ok count => exact fun before calm => not_endsRefused_of_send calm
    | error errno => exact fun before calm => not_endsRefused_of_send calm
  | succ retriesLeft ih =>
    rw [sendWithWritableRetry,ensures_perform_bind]
    intro answer
    cases answer with
    | ok count => exact fun before calm => not_endsRefused_of_send calm
    | error errno =>
      dsimp only
      split
      · exact fun before calm => not_endsRefused_of_send calm
      · rw [ensures_perform_bind]
        intro writable
        have polled : ∀ before : List SocketExchange, ¬EndsRefused api other (before ++
            [⟨.send descriptor payload,.error errno⟩,⟨.poll descriptor api.pollOut deadlineMs.toInt32,writable⟩]) := by
          intro before
          rw [List.append_cons]
          exact not_endsRefused_of_last (fun payload => by simp)
        split
        · exact fun before _ => polled before
        · exact fun before _ => polled before
        next count positive returned =>
          split
          · exact fun before _ => polled before
          next noHangup =>
            split
            · exact fun before _ => polled before
            · refine (ih _).mono fun trace value calmLater before calm => ?_
              have behind := calmLater (before ++ [⟨.send descriptor payload,.error errno⟩,
                ⟨.poll descriptor api.pollOut deadlineMs.toInt32,writable⟩]) fun last member => ?_
              · rwa [List.append_assoc] at behind
              · rw [List.append_cons,List.getLast?_concat,Option.mem_some_iff] at member
                rw [← member]
                exact not_reportsClosed noHangup

/-- The echo is waited for with a poll, and the last call of the wait is no send. -/
theorem receiveExpectedEcho_ends (descriptor : Int) (payload : Bytes) (remote : SockaddrIn) (deadlineMs : UInt32)
    (result : SocketResult) (sequence : UInt32) :
    (receiveExpectedEcho api descriptor payload remote deadlineMs result sequence).Ensures fun trace _ =>
      ∃ earlier last, trace = earlier ++ [last] ∧ ∀ other data answer, last ≠ ⟨.send other data,answer⟩ := by
  intro answer
  apply Ensures.ite
  · exact fun _ => ⟨[],_,rfl,by simp⟩
  · intro _ received
    have ends : ∃ earlier last, [⟨.poll descriptor api.pollIn deadlineMs.toInt32,answer⟩,
        (⟨.recvfrom descriptor api.maximumUdpPayloadStorageBytes.toNat,received⟩ : SocketExchange)] = earlier ++ [last] ∧
          ∀ other data answer, last ≠ ⟨.send other data,answer⟩ := ⟨[_],_,rfl,by simp⟩
    cases received with
    | error errno => exact ends
    | ok received => exact .ite (fun _ => ends) fun _ => .ite (fun _ => ends) fun _ => ends

/-- How the terminal closure ends: without a close of its own, or with one behind a refusal. -/
inductive TerminalTold (api : SocketApi) (descriptor : Int) (trace : List SocketExchange) : Bool → Prop
  | open_ (works : ∀ exchange ∈ trace, isWork exchange)
      (calm : ∀ before : List SocketExchange, (∀ last ∈ before.getLast?, ¬ReportsClosed api last) →
        ∀ other, ¬EndsRefused api other (before ++ trace)) : TerminalTold api descriptor trace false
  | closed {work : List SocketExchange} (works : ∀ exchange ∈ work, isWork exchange)
      (same : trace = work ++ [⟨.close descriptor,.ok ()⟩]) : TerminalTold api descriptor trace true
  | failed {work : List SocketExchange} {errno : Int} (works : ∀ exchange ∈ work, isWork exchange)
      (same : trace = work ++ [⟨.close descriptor,.error errno⟩]) (refused : EndsRefused api descriptor work) :
      TerminalTold api descriptor trace false

theorem waitForInput_polls (descriptor : Int) (deadlineMs : UInt32) :
    (waitForInput api descriptor deadlineMs).Ensures fun trace poll => ∃ answer,
      trace = [⟨.poll descriptor api.pollIn deadlineMs.toInt32,answer⟩] ∧
        poll.observation = classifyBsdPollObservation api answer :=
  fun answer => ⟨answer,rfl,rfl⟩

theorem verifyTerminalSend_told (descriptor : Int) (payload : Bytes) (result : SocketResult) :
    (verifyTerminalSend api descriptor payload result).Ensures fun trace value => ∃ answer,
      trace = [⟨.send descriptor payload,answer⟩] ∧ (value.1 = true ↔ answer = .error api.econnaborted) := by
  intro answer
  cases answer with
  | ok count => exact ⟨.ok count,rfl,by simp⟩
  | error errno =>
    apply Ensures.ite
    · exact fun aborted => ⟨.error errno,rfl,by simp [aborted]⟩
    · exact fun other => ⟨.error errno,rfl,by simp [other]⟩

theorem expectTerminalClosure_told (config : TunnelUdpWorkloadConfig) (remote : SockaddrIn) (descriptor : Int) :
    (expectTerminalClosure api config remote descriptor).Ensures fun trace value =>
      TerminalTold api descriptor trace value.1 := by
  unfold expectTerminalClosure
  dsimp only
  rw [ensures_bind]
  refine ((only_sendWithWritableRetry _ _ _ _ _).and (ensures_forall fun other =>
    sendWithWritableRetry_calm descriptor other _ _ _ _)).mono fun sends sent ⟨works,calm⟩ => ?_
  split
  · rw [ensures_pure,List.append_nil]
    exact .open_ works fun before silent other => calm other before silent
  · rw [ensures_bind]
    refine ((only_receiveExpectedEcho _ _ _ _ _ _).and (receiveExpectedEcho_ends _ _ _ _ _ _)).mono
      fun echo ⟨echoed,result⟩ ⟨worksEcho,earlier,last,same,noSend⟩ => ?_
    have works := List.forall_mem_append.mpr ⟨works,worksEcho⟩
    dsimp only
    split
    · rw [ensures_pure,List.append_nil]
      refine .open_ works fun before _ other => ?_
      rw [same,← List.append_assoc,← List.append_assoc]
      exact not_endsRefused_of_last fun data => noSend other data _
    · rw [ensures_bind]
      refine (waitForInput_polls descriptor config.receiveDeadlineMs).mono ?_
      rintro _ poll ⟨answer,rfl,observed⟩
      have works := List.forall_mem_append.mpr ⟨works,List.forall_mem_singleton.mpr (show
        isWork ⟨.poll descriptor api.pollIn config.receiveDeadlineMs.toInt32,answer⟩ from trivial)⟩
      split
      · rw [ensures_pure,List.append_nil,← List.append_assoc]
        refine .open_ works fun before _ other => ?_
        rw [← List.append_assoc]
        exact not_endsRefused_of_last (by simp)
      next gone =>
        replace gone : classifyBsdPollObservation api answer = .closed := by
          simpa [isExpectedBsdPollObservation,observed] using gone
        rw [ensures_bind]
        refine (verifyTerminalSend_told descriptor _ result).mono ?_
        rintro _ ⟨refused,result⟩ ⟨sentAnswer,rfl,aborts⟩
        have works := List.forall_mem_append.mpr ⟨works,List.forall_mem_singleton.mpr (show
          isWork ⟨.send descriptor (buildPayload config.payloadBytes.toNat 0 0 config),sentAnswer⟩ from trivial)⟩
        dsimp only
        split
        next unrefused =>
          rw [ensures_pure,List.append_nil,← List.append_assoc,← List.append_assoc]
          refine .open_ works fun before _ other => ?_
          rw [← List.append_assoc]
          apply not_endsRefused_of_last
          rintro data ⟨⟩
          have refusal : refused = true := aborts.mpr rfl
          rw [refusal] at unrefused
          cases unrefused
        next aborted =>
          have aborted := aborts.mp (by simpa using aborted)
          rw [ensures_perform_bind]
          intro answered
          cases answered with
          | error errno =>
            refine .failed works (by simp only [List.append_assoc]; rfl) ?_
            rw [aborted]
            exact ⟨sends ++ echo,_,_,answer,_,List.append_assoc _ _ _,gone⟩
          | ok _ => exact .closed works (by simp only [List.append_assoc])

/-- How the calls of a run divide: work that closes nothing, and then the closes of what was opened,
behind a first close that fails only where a terminal closure fails. -/
inductive Settled (api : SocketApi) (terminal : Prop) (trace : List SocketExchange) : Prop
  | once {work closing : List SocketExchange} (divides : trace = work ++ closing)
      (works : ∀ exchange ∈ work, ¬isClosing exchange) (closes : ∀ exchange ∈ closing, isClosing exchange)
      (all : closed closing = (opened work).map Int.ofNat)
      (calm : terminal → ∀ descriptor errno rest, closing = ⟨.close descriptor,.error errno⟩ :: rest →
        ¬EndsRefused api descriptor work)
  | twice {work closing : List SocketExchange} {descriptor : Int} {errno : Int} (failing : terminal)
      (divides : trace = work ++ ⟨.close descriptor,.error errno⟩ :: closing)
      (works : ∀ exchange ∈ work, ¬isClosing exchange) (closes : ∀ exchange ∈ closing, isClosing exchange)
      (all : closed closing = (opened work).map Int.ofNat) (refused : EndsRefused api descriptor work)

theorem closed_of_noClosing {trace : List SocketExchange} (works : ∀ exchange ∈ trace, ¬isClosing exchange) :
    closed trace = [] := by
  apply List.filterMap_eq_nil_iff.mpr
  rintro ⟨command,answer⟩ member
  have work := works _ member
  cases command <;> first | rfl | exact absurd trivial work

theorem opened_of_closing {trace : List SocketExchange} (closes : ∀ exchange ∈ trace, isClosing exchange) :
    opened trace = [] := by
  apply List.filterMap_eq_nil_iff.mpr
  rintro ⟨command,answer⟩ member
  have closing := closes _ member
  cases command <;> first | rfl | exact closing.elim

theorem not_uses_of_closing {exchange : SocketExchange} (closing : isClosing exchange) (descriptor : Int) :
    ¬exchange.command.uses descriptor := by
  obtain ⟨command,answer⟩ := exchange
  cases command <;> first | exact id | exact closing.elim

/-- Work and closing divide a run in one way. -/
theorem divides_unique {work other closing rest : List SocketExchange} {exchange : SocketExchange}
    (works : ∀ exchange ∈ work, ¬isClosing exchange) (same : work ++ closing = other ++ exchange :: rest)
    (closing_ : isClosing exchange) :
    ∃ between, other = work ++ between ∧ closing = between ++ exchange :: rest := by
  rcases List.append_eq_append_iff.mp same with ⟨between,rfl,rest⟩ | ⟨between,rfl,rest⟩
  · exact ⟨between,rfl,rest⟩
  · cases between with
    | nil => exact ⟨[],by simp,by simpa using rest.symm⟩
    | cons first more =>
      obtain rfl := (List.cons.inj rest).1
      exact absurd closing_ (works _ (by simp))

/-- No close stands between a refusal and the work it ends. -/
theorem EndsRefused.of_append {descriptor : Int} {work closing : List SocketExchange}
    (refused : EndsRefused api descriptor (work ++ closing)) (closes : ∀ exchange ∈ closing, isClosing exchange) :
    closing = [] := by
  by_contra filled
  rw [← List.dropLast_append_getLast filled,← List.append_assoc] at refused
  refine not_endsRefused_of_last (fun payload same => ?_) refused
  have last := closes _ (List.getLast_mem filled)
  rw [same] at last
  exact last

theorem closed_divided {work closing : List SocketExchange} (works : ∀ exchange ∈ work, ¬isClosing exchange) :
    closed (work ++ closing) = closed closing := by
  rw [closed_append,closed_of_noClosing works,List.nil_append]

theorem opened_divided {work closing : List SocketExchange} (closes : ∀ exchange ∈ closing, isClosing exchange) :
    opened (work ++ closing) = opened work := by
  rw [opened_append,opened_of_closing closes,List.append_nil]

theorem Settled.closes_iff {terminal : Prop} {trace : List SocketExchange} (settled : Settled api terminal trace) :
    ClosesSockets trace ↔ (terminal → ¬TerminalCloseFails api trace) := by
  cases settled with
  | @once work closing divides works closes all calm =>
    subst divides
    apply iff_of_true
    · refine ⟨.of_eq ?_,fun before after descriptor answer same exchange member => ?_⟩
      · rw [closed_divided works,opened_divided closes,all]
      · obtain ⟨between,_,rfl⟩ := divides_unique works same trivial
        exact not_uses_of_closing (closes exchange (by simp [member])) descriptor
    · rintro terminal ⟨before,descriptor,errno,after,same,refused⟩
      obtain ⟨between,rfl,rfl⟩ := divides_unique works same trivial
      obtain rfl := refused.of_append fun exchange member => closes exchange (by simp [member])
      rw [List.append_nil] at refused
      exact calm terminal descriptor errno after rfl refused
  | @twice work closing descriptor errno failing divides works closes all refused =>
    have ends : ∀ exchange ∈ ⟨.close descriptor,.error errno⟩ :: closing, isClosing exchange :=
      List.forall_mem_cons.mpr ⟨trivial,closes⟩
    subst divides
    apply iff_of_false
    · intro closesOnce
      have lengths := closesOnce.once.length_eq
      rw [closed_divided works,opened_divided ends,← all] at lengths
      exact absurd lengths (Nat.succ_ne_self _)
    · exact fun calm => calm failing ⟨work,descriptor,errno,closing,rfl,refused⟩

theorem closeDescriptors_told (descriptors : List Nat) :
    (closeDescriptors descriptors).Ensures fun trace _ =>
      (∀ exchange ∈ trace, isClosing exchange) ∧ closed trace = descriptors.map Int.ofNat := by
  induction descriptors with
  | nil => exact ⟨List.forall_mem_nil _,rfl⟩
  | cons descriptor rest ih =>
    intro answer
    refine Ensures.mono ih fun trace _ ⟨closes,all⟩ => ⟨List.forall_mem_cons.mpr ⟨trivial,closes⟩,?_⟩
    exact congrArg (Int.ofNat descriptor :: ·) all

theorem noClosing_of_setup (exchange : SocketExchange) (setup : isSetup exchange) : ¬isClosing exchange := by
  obtain ⟨command,answer⟩ := exchange
  cases command <;> first | exact id | exact fun _ => setup

theorem noClosing_of_work (exchange : SocketExchange) (work : isWork exchange) : ¬isClosing exchange := by
  obtain ⟨command,answer⟩ := exchange
  cases command <;> first | exact id | exact fun _ => work

theorem opened_of_work {trace : List SocketExchange} (works : ∀ exchange ∈ trace, isWork exchange) :
    opened trace = [] := by
  apply List.filterMap_eq_nil_iff.mpr
  rintro ⟨command,answer⟩ member
  have work := works _ member
  cases command <;> first | rfl | exact work.elim

/-- Work behind a setup closes nothing and opens nothing more. -/
theorem work_behind_setup {before work : List SocketExchange} (setup : ∀ exchange ∈ before, isSetup exchange)
    (works : ∀ exchange ∈ work, isWork exchange) :
    (∀ exchange ∈ before ++ work, ¬isClosing exchange) ∧ opened (before ++ work) = opened before := by
  refine ⟨List.forall_mem_append.mpr ⟨?_,?_⟩,?_⟩
  · exact fun exchange member => noClosing_of_setup exchange (setup exchange member)
  · exact fun exchange member => noClosing_of_work exchange (works exchange member)
  · rw [opened_append,opened_of_work works,List.append_nil]

/-- A setup reports no socket closed and ends in no refusal. -/
theorem setup_calm {trace : List SocketExchange} (setup : ∀ exchange ∈ trace, isSetup exchange) :
    (∀ last ∈ trace.getLast?, ¬ReportsClosed api last) ∧ ∀ descriptor, ¬EndsRefused api descriptor trace := by
  constructor
  · rintro ⟨command,answer⟩ member
    have last := setup _ (List.mem_of_getLast? member)
    cases command <;> first | exact id | exact fun _ => last
  · rintro descriptor ⟨before,events,timeoutMs,answer,payload,rfl,_⟩
    exact setup _ (List.mem_append_right before (List.mem_cons_of_mem _ List.mem_cons_self))

/-- The closes of everything that was opened settle a run. -/
theorem settles_closing {terminal : Prop} {work : List SocketExchange} {descriptors : List Nat}
    (works : ∀ exchange ∈ work, ¬isClosing exchange) (held : opened work = descriptors)
    (calm : terminal → ∀ descriptor, ¬EndsRefused api descriptor work) (result : SocketResult) :
    (closeDescriptors descriptors >>= fun _ => pure result : SocketProgram SocketResult).Ensures fun trace _ =>
      Settled api terminal (work ++ trace) := by
  rw [ensures_bind]
  refine (closeDescriptors_told descriptors).mono fun closing _ ⟨closes,all⟩ => ?_
  rw [ensures_pure,List.append_nil]
  exact .once rfl works closes (all.trans (congrArg _ held.symm)) fun failing descriptor _ _ _ => calm failing descriptor

/-- An exchange that only works and then closes what was opened before it. -/
theorem settles_work {terminal : Prop} {before : List SocketExchange} {descriptors : List Nat}
    {program : SocketProgram α} (value : α → SocketResult) (only : Only isWork program)
    (setup : ∀ exchange ∈ before, isSetup exchange) (held : opened before = descriptors) (other : ¬terminal) :
    (program >>= fun a => closeDescriptors descriptors >>= fun _ => pure (value a)).Ensures fun trace _ =>
      Settled api terminal (before ++ trace) := by
  rw [ensures_bind]
  refine Ensures.mono only fun work a works => ?_
  obtain ⟨noClosing,still⟩ := work_behind_setup setup works
  have calm : terminal → ∀ descriptor, ¬EndsRefused api descriptor (before ++ work) := fun failing => absurd failing other
  simpa only [List.append_assoc] using settles_closing noClosing (still.trans held) calm (value a)

theorem exchange_settles (config : TunnelUdpWorkloadConfig) (bsdConfig : BsdSystemUdpWorkloadConfig)
    (remote : SockaddrIn) {before : List SocketExchange} {descriptor : Nat} {rest : List Nat}
    (setup : ∀ exchange ∈ before, isSetup exchange) (held : opened before = descriptor :: rest) :
    (exchange api config bsdConfig remote (descriptor :: rest)).Ensures fun trace _ =>
      Settled api (bsdConfig.expectedOutcome = .terminalClosure) (before ++ trace) := by
  unfold exchange
  cases outcome : bsdConfig.expectedOutcome with
  | noReplyTimeout => exact settles_work id (only_expectNoReply config _) setup held (by simp)
  | echoReply =>
    exact settles_work (workloadSummary api config bsdConfig) (only_sendDatagrams config remote _ _ _ _) setup held (by simp)
  | terminalClosure =>
    obtain ⟨silent,calm⟩ := @setup_calm api before setup
    dsimp only
    rw [ensures_bind]
    refine (expectTerminalClosure_told config remote descriptor).mono fun trace ⟨finished,result⟩ told => ?_
    cases told with
    | open_ works calmWork =>
      obtain ⟨noClosing,still⟩ := work_behind_setup setup works
      have calm := fun _ : True => calmWork before silent
      simpa only [List.append_assoc,if_neg Bool.false_ne_true,forall_const] using
        settles_closing noClosing (still.trans held) calm result
    | @closed work works same =>
      obtain ⟨noClosing,still⟩ := work_behind_setup setup works
      simp only [if_true,List.tail_cons]
      rw [ensures_bind,same]
      refine (closeDescriptors_told rest).mono fun closing _ ⟨closes,all⟩ => ?_
      rw [ensures_pure]
      have divides : before ++ (work ++ [⟨.close descriptor,.ok ()⟩] ++ (closing ++ [])) =
          before ++ work ++ (⟨.close descriptor,.ok ()⟩ :: closing) := by simp
      refine .once divides noClosing (List.forall_mem_cons.mpr ⟨trivial,closes⟩) ?_ ?_
      · rw [still,held]
        exact congrArg (Int.ofNat descriptor :: ·) all
      · intro _ other errno later same
        simp at same
    | @failed work errno works same refused =>
      obtain ⟨noClosing,still⟩ := work_behind_setup setup works
      rw [if_neg Bool.false_ne_true,ensures_bind,same]
      refine (closeDescriptors_told (descriptor :: rest)).mono fun closing _ ⟨closes,all⟩ => ?_
      rw [ensures_pure]
      have behind : EndsRefused api descriptor (before ++ work) := by
        obtain ⟨earlier,events,timeoutMs,answer,payload,rfl,gone⟩ := refused
        exact ⟨before ++ earlier,events,timeoutMs,answer,payload,(List.append_assoc _ _ _).symm,gone⟩
      have divides : before ++ (work ++ [⟨.close descriptor,.error errno⟩] ++ (closing ++ [])) =
          before ++ work ++ (⟨.close descriptor,.error errno⟩ :: closing) := by simp
      refine .twice rfl divides noClosing closes ?_ behind
      rw [still,held,all]

theorem runOverSockets_settles (config : TunnelUdpWorkloadConfig) (bsdConfig : BsdSystemUdpWorkloadConfig)
    (remote : SockaddrIn) (flows : config.concurrentFlows ≠ 0) {before : List SocketExchange}
    (setup : ∀ exchange ∈ before, isSetup exchange) (none_ : opened before = []) :
    (runOverSockets api config bsdConfig remote).Ensures fun trace _ =>
      Settled api (bsdConfig.expectedOutcome = .terminalClosure) (before ++ trace) := by
  unfold runOverSockets
  rw [ensures_bind]
  refine (openSockets_told remote _ []).mono fun opening ⟨descriptors,ended⟩ told => ?_
  have setup := List.forall_mem_append.mpr ⟨setup,told.setup⟩
  have held : opened (before ++ opening) = descriptors := by
    rw [opened_append,none_]
    exact told.added.symm
  simp only [← List.append_assoc]
  cases ended with
  | some result =>
    exact settles_closing (fun e member => noClosing_of_setup e (setup e member)) held
      (fun _ => (setup_calm setup).2) result
  | none =>
    dsimp only
    have filled : descriptors ≠ [] := by
      rintro rfl
      have all := told.complete rfl
      rw [show opened opening = [] from told.added.symm] at all
      exact flows (UInt32.toNat_inj.mp all.symm)
    obtain ⟨descriptor,rest,rfl⟩ := List.exists_cons_of_ne_nil filled
    split
    · rw [ensures_bind]
      refine Ensures.mono (only_verifyPostRouteRejection _ _) fun rejecting checked checks => ?_
      have setup := List.forall_mem_append.mpr ⟨setup,fun e member => setup_of_check e (checks e member)⟩
      have held : opened (before ++ opening ++ rejecting) = descriptor :: rest := by
        rw [opened_append,opened_of_check checks,List.append_nil,held]
      simp only [← List.append_assoc]
      cases checked with
      | error result =>
        exact settles_closing (fun e member => noClosing_of_setup e (setup e member)) held
          (fun _ => (setup_calm setup).2) result
      | ok _ => exact exchange_settles config bsdConfig remote setup held
    · exact exchange_settles config bsdConfig remote setup held

/-- `socketExit` is no close. -/
theorem Settled.exit {terminal : Prop} {trace : List SocketExchange} (settled : Settled api terminal trace)
    (answer : Unit) : Settled api terminal (trace ++ [⟨.socketExit,answer⟩]) := by
  have exits : ∀ closing : List SocketExchange, (∀ exchange ∈ closing, isClosing exchange) →
      ∀ exchange ∈ closing ++ [⟨.socketExit,answer⟩], isClosing exchange := fun closing closes =>
    List.forall_mem_append.mpr ⟨closes,List.forall_mem_singleton.mpr trivial⟩
  have same : ∀ closing : List SocketExchange, closed (closing ++ [⟨.socketExit,answer⟩]) = closed closing :=
    fun closing => (closed_append _ _).trans (List.append_nil _)
  cases settled with
  | @once work closing divides works closes all calm =>
    rw [divides,List.append_assoc]
    refine .once rfl works (exits closing closes) ((same closing).trans all) ?_
    intro failing descriptor errno rest first
    cases closing with
    | nil => simp at first
    | cons exchange more => exact calm failing descriptor errno more (by rw [(List.cons.inj first).1])
  | twice failing divides works closes all refused =>
    rw [divides,List.append_assoc]
    exact .twice failing rfl works (exits _ closes) ((same _).trans all) refused

/-- Nothing is opened and nothing is closed. -/
theorem settled_of_idle {terminal : Prop} {trace : List SocketExchange} (setup : ∀ exchange ∈ trace, isSetup exchange)
    (none_ : opened trace = []) : Settled api terminal trace :=
  .once (List.append_nil _).symm (fun e member => noClosing_of_setup e (setup e member)) (List.forall_mem_nil _)
    (by rw [none_]; rfl) nofun

theorem runBsdSystemUdpWorkload_settles (config : TunnelUdpWorkloadConfig) (bsdConfig : BsdSystemUdpWorkloadConfig) :
    (runBsdSystemUdpWorkload api config bsdConfig).Ensures fun trace _ =>
      Settled api (bsdConfig.expectedOutcome = .terminalClosure) trace := by
  unfold runBsdSystemUdpWorkload
  split
  · exact settled_of_idle (List.forall_mem_nil _) rfl
  · split
    · exact settled_of_idle (List.forall_mem_nil _) rfl
    next counted =>
      rw [ensures_perform_bind]
      intro rc
      have setup : ∀ exchange ∈ [(⟨.socketInitialize,rc⟩ : SocketExchange)], isSetup exchange :=
        List.forall_mem_singleton.mpr trivial
      split
      · exact settled_of_idle setup rfl
      · rw [ensures_bind]
        refine (runOverSockets_settles config bsdConfig _ (fun none => counted (.inl none)) setup rfl).mono ?_
        intro trace result settled answer
        exact settled.exit answer

end Parts

/-- A run passes each socket that it opens to `close` once and uses none behind its close, unless a
terminal closure whose own close fails closes its socket again. -/
theorem closesSockets_iff (api : SocketApi) (config : TunnelUdpWorkloadConfig)
    (bsdConfig : BsdSystemUdpWorkloadConfig) (service : Service SocketCommand.Answer) :
    ClosesSockets ((runBsdSystemUdpWorkload api config bsdConfig).run service []).1 ↔
      (bsdConfig.expectedOutcome = .terminalClosure →
        ¬TerminalCloseFails api ((runBsdSystemUdpWorkload api config bsdConfig).run service []).1) :=
  ((runBsdSystemUdpWorkload_settles config bsdConfig).of_run service).closes_iff

section AbortedSockets

def received (trace : List SocketExchange) : Bool := trace.any fun
  | ⟨.recvfrom _ _,_⟩ => true
  | _ => false

/-- A socket that echoes one datagram, is then closed, and whose close fails. -/
def abortedSockets (echo : Bytes) : Service SocketCommand.Answer := fun trace command => match command with
  | .send _ payload => if received trace then .error 103 else .ok payload.length
  | .poll _ _ _ => if received trace then ⟨.ok 1,16⟩ else ⟨.ok 1,1⟩
  | .recvfrom _ _ => .ok ⟨echo,⟨⟨2,[10,0,0,1],29000⟩,16⟩⟩
  | .close _ => .error 5
  | command => calmSockets trace command

def closureExpected : RuntimeConfig :=
  { recoveryRequired .terminalClosure with
    udp := ⟨24,1,0,1,5000,0,true⟩
    bsdSystemUdp := ⟨false,.terminalClosure,false⟩ }

def closureProfile : RuntimeProfile := ⟨"Tunnel".toList,"10.1.0.2".toList,"10.0.0.1".toList,29000,28080⟩

theorem closesSocket_twice : ¬∀ (api : SocketApi) (config : RuntimeConfig) (profile : RuntimeProfile)
    (workloadId : UInt32) (service : Service SocketCommand.Answer),
    validateRuntimeConfig api.toTunnelLimits config = .ok () → config.scenario = .bsdSystemUdp →
    ClosesSockets ((runBsdSystemUdpWorkload api (buildTunnelUdpWorkload config profile workloadId)
      config.bsdSystemUdp).run service []).1 := by
  intro closes
  have closesOnce := closes calmApi closureExpected closureProfile 7
    (abortedSockets (buildPayload 24 0 0 (buildTunnelUdpWorkload closureExpected closureProfile 7)))
    (by decide) rfl
  exact absurd closesOnce.once.length_eq (by decide +kernel)

end AbortedSockets

end NxReverse.Toolbox.BsdSystemUdp
