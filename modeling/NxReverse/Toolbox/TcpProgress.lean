import NxReverse.Toolbox.TunnelWait
import Mathlib.Data.List.Forall2

/-! `WaitForTcpProgress` against a service that runs ahead of its queue. Events come in
batches, and `GetFlowState` shows what the service knows by then, so the wait may see the
remote close in the state before the reply that came first has left the queue. -/
namespace NxReverse.Toolbox

inductive FlowEvent where
  | stateChanged (state : FlowState) (reason : FlowTerminalReason) (remoteCloses : Bool)
  | segment (bytes : List UInt8)
  deriving DecidableEq, Repr

namespace FlowEvent

def isClosed : FlowEvent → Bool
  | stateChanged .closed _ _ => true
  | _ => false

def closesRemote : FlowEvent → Bool
  | stateChanged _ _ remoteCloses => remoteCloses
  | segment _ => false

/-- The records on which the wait asks for the state. -/
def asksState : FlowEvent → Bool
  | stateChanged state _ _ => state != .closed
  | segment _ => false

def bytes : FlowEvent → List UInt8
  | stateChanged _ _ _ => []
  | segment bytes => bytes

/-- The record of an event, its bytes in the payload storage. -/
def Delivers (flow : UInt64) (payload : List UInt8) (completion : CompletionRecord) : FlowEvent → Prop
  | stateChanged state reason _ => completion.flow = flow ∧ completion.flowKind = .tcp ∧
      completion.type = .flowStateChanged ∧ completion.flowState = state ∧ completion.terminalReason = reason
  | segment bytes => completion.flow = flow ∧ completion.flowKind = .tcp ∧
      completion.type = .inboundTcpStream ∧ completion.received payload = some bytes

end FlowEvent

/-- The answer of `GetFlowState` when the service has come to the end of `history`. -/
def serviceState (history : List FlowEvent) : FlowStateAnswer :=
  ⟨0,.success,!history.any FlowEvent.closesRemote⟩

/-- The events of a batch. Beside each stands how many events the service has had when the
wait asks for the state on reading its record. -/
abbrev FlowBatch := List (FlowEvent × Nat)

def FlowBatch.events (batch : FlowBatch) : List FlowEvent := batch.map Prod.fst

/-- Some state query of the batch is answered with the remote write closed. -/
def FlowBatch.seesClose (events : List FlowEvent) (batch : FlowBatch) : Bool :=
  batch.any fun entry => entry.1.asksState && (events.take entry.2).any FlowEvent.closesRemote

/-- A successful answer of `ReceiveCompletions` with the records of a batch. -/
structure FlowBatch.Answers (flow : UInt64) (events : List FlowEvent) (batch : FlowBatch)
    (answer : ReceiveAnswer) : Prop where
  rc : answer.rc = 0
  status : answer.status = .success
  records : List.Forall₂ (fun entry record => FlowEvent.Delivers flow answer.payload record.1 entry.1 ∧
    record.2 = serviceState (events.take entry.2)) batch answer.completions

/-- The batches delivered before the deadline and what the service holds after them. -/
structure Schedule where
  batches : List FlowBatch
  pending : List FlowEvent
  deriving DecidableEq, Repr

namespace Schedule

def delivered (schedule : Schedule) : List FlowEvent := schedule.batches.flatMap FlowBatch.events

def events (schedule : Schedule) : List FlowEvent := schedule.delivered ++ schedule.pending

/-- The service has had what a batch delivers when it is asked, and time goes forward. -/
def Timely : Nat → List FlowBatch → Prop
  | _,[] => True
  | delivered,batch :: rest =>
    (∀ entry ∈ batch, delivered + batch.length ≤ entry.2) ∧ (batch.map Prod.snd).Pairwise (· ≤ ·) ∧
      Timely (delivered + batch.length) rest

instance decidableTimely : ∀ (delivered : Nat) (batches : List FlowBatch), Decidable (Timely delivered batches)
  | _,[] => inferInstanceAs (Decidable True)
  | delivered,batch :: rest =>
    have := decidableTimely (delivered + batch.length) rest
    inferInstanceAs (Decidable (_ ∧ _ ∧ _))

end Schedule

def replyBytes (events : List FlowEvent) : List UInt8 := events.flatMap FlowEvent.bytes

/-- The reply is there, whole and alone, and the flow has not been closed. -/
def Answered (events : List FlowEvent) : Prop :=
  events.all (fun e => !e.isClosed) = true ∧ replyBytes events = tcpExpectedReply

instance (events : List FlowEvent) : Decidable (Answered events) := inferInstanceAs (Decidable (_ ∧ _))

/-- What is delivered at the end of the first batch that sees the remote close. -/
def firstSeen (events : List FlowEvent) : List FlowEvent → List FlowBatch → Option (List FlowEvent)
  | _,[] => none
  | front,batch :: rest =>
    if batch.seesClose events then some (front ++ batch.events)
    else firstSeen events (front ++ batch.events) rest

/-- The reply and the remote close are delivered together, before anything else. -/
def ReplyThenClose (events : List FlowEvent) : Prop :=
  ∃ front, front <+: events ∧ Answered front ∧ front.any FlowEvent.closesRemote = true

theorem replyBytes_append (first second : List FlowEvent) :
    replyBytes (first ++ second) = replyBytes first ++ replyBytes second := List.flatMap_append

theorem firstSeen_extends {events front seen : List FlowEvent} {batches : List FlowBatch}
    (first : firstSeen events front batches = some seen) : front <+: seen := by
  induction batches generalizing front with
  | nil => cases first
  | cons batch rest ih =>
    rw [firstSeen] at first
    by_cases sees : batch.seesClose events = true
    · rw [if_pos sees] at first
      obtain rfl := Option.some.inj first
      exact List.prefix_append _ _
    · rw [if_neg sees] at first
      exact (List.prefix_append _ _).trans (ih first)

/-- The reply cannot be there at the first sight of the close when it is spoilt before. -/
theorem not_answered_of_spoilt {front seen : List FlowEvent} (extension : front <+: seen)
    (spoilt : (∃ e ∈ front, e.isClosed = true) ∨ ¬replyBytes front <+: tcpExpectedReply) : ¬Answered seen := by
  rintro ⟨unclosed,whole⟩
  obtain ⟨later,rfl⟩ := extension
  rcases spoilt with ⟨e,member,closed⟩ | other
  · have fine := List.all_eq_true.mp unclosed e (List.mem_append_left _ member)
    simp [closed] at fine
  · apply other
    rw [← whole,replyBytes_append]
    exact List.prefix_append _ _

namespace WaitState

structure Collects (s : WaitState) (front : List FlowEvent) : Prop where
  waiting : s.result.receivedExpected = false
  unclosed : ∀ e ∈ front, e.isClosed = false
  overflow : s.result.malformedReply = true → tcpExpectedReply.length < (replyBytes front).length
  collected : s.result.malformedReply = false → s.reply = replyBytes front

end WaitState

theorem length_of_received {completion : CompletionRecord} {payload bytes : List UInt8}
    (received : completion.received payload = some bytes) : completion.payloadSize = bytes.length := by
  unfold CompletionRecord.received at received
  split at received
  · cases received
  · obtain rfl := Option.some.inj received
    rw [List.length_take,List.length_drop]
    omega

section Records

variable {flow : UInt64} {payload : List UInt8} {events front : List FlowEvent} {s : WaitState}
  {completion : CompletionRecord}

/-- A `Closed` record ends the wait without success. -/
theorem tcpCompletion_closed {e : FlowEvent} (delivers : e.Delivers flow payload completion)
    (closed : e.isClosed = true) (waiting : s.result.receivedExpected = false) (state : FlowStateAnswer) :
    ∃ result, tcpCompletion flow payload s (completion,state) = .error result ∧
      result.receivedExpected = false := by
  cases e with
  | segment bytes => cases closed
  | stateChanged new reason remoteCloses =>
    obtain ⟨sameFlow,kind,type,sameState,_⟩ := delivers
    cases new with
    | closed =>
      refine ⟨{ s.result with
        terminal := true, terminalReason := completion.terminalReason
        detail := "TCP flow terminal=".toList ++ terminalReasonName completion.terminalReason },?_,waiting⟩
      simp [tcpCompletion,sameFlow,kind,type,sameState]
    | «open» => cases closed
    | other => cases closed

/-- Any other record is collected; a state change shows what the service knows. -/
theorem tcpCompletion_collects {e : FlowEvent} (delivers : e.Delivers flow payload completion)
    (unclosed : e.isClosed = false) (collects : s.Collects front) (moment : Nat) :
    ∃ s', tcpCompletion flow payload s (completion,serviceState (events.take moment)) = .ok s' ∧
      s'.Collects (front ++ [e]) ∧
      s'.result.remoteWriteClosed =
        if e.asksState then (events.take moment).any FlowEvent.closesRemote
        else s.result.remoteWriteClosed := by
  have later : ∀ e' ∈ front ++ [e], e'.isClosed = false := by
    intro e' member
    rcases List.mem_append.mp member with old | new
    · exact collects.unclosed e' old
    · rw [List.mem_singleton.mp new]
      exact unclosed
  cases e with
  | stateChanged new reason remoteCloses =>
    obtain ⟨sameFlow,kind,type,sameState,_⟩ := delivers
    have running : completion.flowState ≠ .closed := by
      rintro closed
      rw [closed] at sameState
      subst sameState
      cases unclosed
    have asks : (FlowEvent.stateChanged new reason remoteCloses).asksState = true := by
      rw [sameState] at running
      simp [FlowEvent.asksState,running]
    refine ⟨{ s with result := { s.result with
      isOpen := completion.flowState == FlowState.open
      remoteWriteClosed := !(serviceState (events.take moment)).remoteWriteOpen } },?_,?_,?_⟩
    · simp [tcpCompletion,sameFlow,kind,type,running,serviceState,failed]
    · refine ⟨collects.waiting,later,fun malformed => ?_,fun fine => ?_⟩
      · rw [replyBytes_append]
        exact Nat.lt_of_lt_of_le (collects.overflow malformed) (by simp)
      · rw [replyBytes_append]
        exact (collects.collected fine).trans (List.append_nil _).symm
    · rw [if_pos asks]
      exact Bool.not_not _
  | segment bytes =>
    obtain ⟨sameFlow,kind,type,received⟩ := delivers
    have size := length_of_received received
    have appended : replyBytes (front ++ [.segment bytes]) = replyBytes front ++ bytes := by
      simp [replyBytes,FlowEvent.bytes]
    by_cases tooLong : s.reply.length + bytes.length > tcpExpectedReply.length
    · refine ⟨{ s with result.malformedReply := true },?_,⟨collects.waiting,later,fun _ => ?_,nofun⟩,rfl⟩
      · simp [tcpCompletion,sameFlow,kind,type,received,size,tooLong]
      · rw [appended,List.length_append]
        cases malformed : s.result.malformedReply with
        | true => exact Nat.lt_of_lt_of_le (collects.overflow malformed) (Nat.le_add_right _ _)
        | false => rwa [← collects.collected malformed]
    · refine ⟨{ s with reply := s.reply ++ bytes },?_,⟨collects.waiting,later,fun malformed => ?_,fun fine => ?_⟩,rfl⟩
      · simp [tcpCompletion,sameFlow,kind,type,received,size,tooLong]
      · rw [appended,List.length_append]
        exact Nat.lt_of_lt_of_le (collects.overflow malformed) (Nat.le_add_right _ _)
      · rw [appended,← collects.collected fine]

variable {batch : FlowBatch} {completions : List (CompletionRecord × FlowStateAnswer)}

abbrev Records (flow : UInt64) (payload : List UInt8) (events : List FlowEvent) (batch : FlowBatch)
    (completions : List (CompletionRecord × FlowStateAnswer)) : Prop :=
  List.Forall₂ (fun entry record => FlowEvent.Delivers flow payload record.1 entry.1 ∧
    record.2 = serviceState (events.take entry.2)) batch completions

theorem closed_later {m m' : Nat} (order : m ≤ m')
    (closed : (events.take m).any FlowEvent.closesRemote = true) :
    (events.take m').any FlowEvent.closesRemote = true := by
  obtain ⟨e,member,closes⟩ := List.any_eq_true.mp closed
  exact List.any_eq_true.mpr ⟨e,List.take_subset_take_left events order member,closes⟩

/-- A batch without a `Closed` record is collected whole. Once a query has shown the remote
close, so does every later one. -/
theorem tcpRecords_collect (records : Records flow payload events batch completions)
    (ordered : (batch.map Prod.snd).Pairwise (· ≤ ·)) (unclosed : ∀ e ∈ batch.events, e.isClosed = false)
    (collects : s.Collects front)
    (shown : s.result.remoteWriteClosed = true →
      ∀ entry ∈ batch, (events.take entry.2).any FlowEvent.closesRemote = true) :
    ∃ s', completions.foldlM (tcpCompletion flow payload) s = .ok s' ∧
      s'.Collects (front ++ batch.events) ∧
      s'.result.remoteWriteClosed = (s.result.remoteWriteClosed || batch.seesClose events) := by
  induction records generalizing s front with
  | nil => exact ⟨s,rfl,by simpa [FlowBatch.events] using collects,by simp [FlowBatch.seesClose]⟩
  | @cons entry record batch completions delivers _ ih =>
    obtain ⟨completion,state⟩ := record
    obtain ⟨delivers,rfl⟩ := delivers
    obtain ⟨before,ordered⟩ := List.pairwise_cons.mp ordered
    obtain ⟨next,step,collects,closed⟩ :=
      tcpCompletion_collects delivers (unclosed entry.1 List.mem_cons_self) collects entry.2
    have later : next.result.remoteWriteClosed = true →
        ∀ e ∈ batch, (events.take e.2).any FlowEvent.closesRemote = true := by
      intro closes e member
      rw [closed] at closes
      by_cases asks : entry.1.asksState = true
      · rw [if_pos asks] at closes
        exact closed_later (before e.2 (List.mem_map_of_mem member)) closes
      · rw [if_neg asks] at closes
        exact shown closes e (List.mem_cons_of_mem entry member)
    obtain ⟨s',run,collects,closed'⟩ :=
      ih ordered (fun e member => unclosed e (List.mem_cons_of_mem _ member)) collects later
    refine ⟨s',?_,?_,?_⟩
    · rw [List.foldlM_cons,step]
      exact run
    · rw [List.append_assoc] at collects
      exact collects
    · rw [closed',closed,FlowBatch.seesClose,FlowBatch.seesClose,List.any_cons]
      by_cases asks : entry.1.asksState = true
      · cases already : s.result.remoteWriteClosed with
        | false => simp [asks]
        | true => simp [asks,shown already entry List.mem_cons_self]
      · simp [asks]

theorem tcpRecords_closed (records : Records flow payload events batch completions)
    (closed : ∃ e ∈ batch.events, e.isClosed = true) (collects : s.Collects front) :
    ∃ result, completions.foldlM (tcpCompletion flow payload) s = .error result ∧
      result.receivedExpected = false := by
  induction records generalizing s front with
  | nil =>
    obtain ⟨e,member,_⟩ := closed
    cases member
  | @cons entry record batch completions delivers _ ih =>
    obtain ⟨completion,state⟩ := record
    obtain ⟨delivers,rfl⟩ := delivers
    cases here : entry.1.isClosed with
    | true =>
      obtain ⟨result,step,waiting⟩ := tcpCompletion_closed delivers here collects.waiting
        (serviceState (events.take entry.2))
      refine ⟨result,?_,waiting⟩
      rw [List.foldlM_cons,step]
      rfl
    | false =>
      have rest : ∃ e ∈ FlowBatch.events batch, e.isClosed = true := by
        obtain ⟨e,member,closes⟩ := closed
        rcases List.mem_cons.mp member with rfl | member
        · rw [here] at closes
          cases closes
        · exact ⟨e,member,closes⟩
      obtain ⟨next,step,collects,_⟩ := tcpCompletion_collects delivers here collects entry.2
      obtain ⟨result,run,waiting⟩ := ih rest collects
      refine ⟨result,?_,waiting⟩
      rw [List.foldlM_cons,step]
      exact run

end Records

/-- What the exchange waits for behind its request: the reply and the remote close. -/
def replyGoal : TcpGoal := ⟨false,true,true⟩

section Judge

variable {s : WaitState}

/-- A reply that is spoilt, or cut short by the remote close, ends the wait without success. -/
theorem judgeTcp_spoilt (waiting : s.result.receivedExpected = false)
    (spoilt : s.result.malformedReply = true ∨ s.reply ≠ tcpExpectedReply ∧
      (s.reply.length = tcpExpectedReply.length ∨ s.result.remoteWriteClosed = true)) :
    ∃ result, judgeTcp replyGoal s = .error result ∧ result.receivedExpected = false := by
  unfold judgeTcp replyGoal
  generalize tcpExpectedReply = expected at *
  rcases spoilt with malformed | ⟨other,full | closed⟩
  · by_cases cut : s.result.remoteWriteClosed = true ∧ s.reply ≠ expected
    · exact ⟨_,if_pos (by simp [cut.1,cut.2]),waiting⟩
    · have goesOn : s.result.remoteWriteClosed = true → s.reply = expected := fun closed =>
        not_not.mp fun other => cut ⟨closed,other⟩
      exact ⟨_,(if_neg (by simpa using fun closed => by simp [goesOn closed])).trans
        (if_pos (by simp [malformed])),waiting⟩
  · cases closed : s.result.remoteWriteClosed with
    | false => exact ⟨_,(if_neg (by simp [closed])).trans (if_pos (by simp [full,other])),waiting⟩
    | true => exact ⟨_,if_pos (by simp [closed,other]),waiting⟩
  · exact ⟨_,if_pos (by simp [closed,other]),waiting⟩

theorem judgeTcp_success (fine : s.result.malformedReply = false) (whole : s.reply = tcpExpectedReply)
    (closed : s.result.remoteWriteClosed = true) :
    ∃ result, judgeTcp replyGoal s = .error result ∧ result.receivedExpected = true := by
  unfold judgeTcp replyGoal
  generalize tcpExpectedReply = expected at *
  simp [fine,whole,closed]

theorem judgeTcp_waits (fine : s.result.malformedReply = false) (unseen : s.result.remoteWriteClosed = false)
    (reply : s.reply = tcpExpectedReply ∨ s.reply.length ≠ tcpExpectedReply.length) :
    judgeTcp replyGoal s = .ok { s with result.malformedReply := false } := by
  unfold judgeTcp replyGoal
  generalize tcpExpectedReply = expected at *
  rcases reply with whole | short
  · simp [fine,whole,unseen]
  · simp [fine,short,unseen]

end Judge

namespace WaitState

structure Running (s : WaitState) (front : List FlowEvent) : Prop extends s.Collects front where
  fine : s.result.malformedReply = false
  unseen : s.result.remoteWriteClosed = false

theorem Collects.running {s : WaitState} {front : List FlowEvent} (collects : s.Collects front)
    (fine : s.result.malformedReply = false) (unseen : s.result.remoteWriteClosed = false) :
    ({ s with result.malformedReply := false } : WaitState).Running front where
  waiting := collects.waiting
  unclosed := collects.unclosed
  overflow := nofun
  collected _ := collects.collected fine
  fine := rfl
  unseen := unseen

end WaitState

/-- The first batch that sees the remote close ends with the reply, whole and alone. -/
def Accepted (events front : List FlowEvent) (batches : List FlowBatch) : Prop :=
  ∃ seen, firstSeen events front batches = some seen ∧ Answered seen

section Batches

variable {flow : UInt64} {events front : List FlowEvent} {s : WaitState}

theorem not_accepted_of_spoilt (events : List FlowEvent) {batch : FlowBatch} (rest : List FlowBatch)
    (spoilt : (∃ e ∈ front ++ batch.events, e.isClosed = true) ∨
      ¬replyBytes (front ++ batch.events) <+: tcpExpectedReply) : ¬Accepted events front (batch :: rest) := by
  rintro ⟨seen,first,answered⟩
  refine not_answered_of_spoilt ?_ spoilt answered
  rw [firstSeen] at first
  split at first
  · obtain rfl := Option.some.inj first
    exact List.prefix_rfl
  · exact firstSeen_extends first

theorem accepted_next {batch : FlowBatch} {rest : List FlowBatch} (unseen : batch.seesClose events = false) :
    Accepted events front (batch :: rest) ↔ Accepted events (front ++ batch.events) rest := by
  simp [Accepted,firstSeen,unseen]

/-- One batch: either the wait ends with the verdict on everything, or it goes on. -/
theorem tcpBatch_verdict {batch : FlowBatch} {answer : ReceiveAnswer} (answers : batch.Answers flow events answer)
    (ordered : (batch.map Prod.snd).Pairwise (· ≤ ·)) (running : s.Running front) (rest : List FlowBatch) :
    (∃ result, (waitForTcpProgress flow replyGoal).batch s answer.completions answer.payload = .error result ∧
      (result.receivedExpected = true ↔ Accepted events front (batch :: rest))) ∨
    (∃ s', (waitForTcpProgress flow replyGoal).batch s answer.completions answer.payload = .ok s' ∧
      s'.Running (front ++ batch.events) ∧ batch.seesClose events = false) := by
  by_cases closed : ∃ e ∈ batch.events, e.isClosed = true
  · obtain ⟨result,run,waiting⟩ := tcpRecords_closed answers.records closed running.toCollects
    obtain ⟨e,member,closes⟩ := closed
    refine .inl ⟨result,?_,?_⟩
    · simp only [waitForTcpProgress,run]
      rfl
    · have spoilt := not_accepted_of_spoilt events rest
        (.inl ⟨e,List.mem_append_right front member,closes⟩)
      simp [waiting,spoilt]
  · have unclosed : ∀ e ∈ batch.events, e.isClosed = false := by
      intro e member
      by_contra closes
      exact closed ⟨e,member,by simpa using closes⟩
    obtain ⟨s',run,collects,seen⟩ := tcpRecords_collect answers.records ordered unclosed
      running.toCollects (by rw [running.unseen]; exact nofun)
    rw [running.unseen,Bool.false_or] at seen
    have batchRun : (waitForTcpProgress flow replyGoal).batch s answer.completions answer.payload =
        judgeTcp replyGoal s' := by
      simp only [waitForTcpProgress,run]
      rfl
    rw [batchRun]
    cases malformed : s'.result.malformedReply with
    | true =>
      obtain ⟨result,judged,waiting⟩ := judgeTcp_spoilt collects.waiting (.inl malformed)
      have spoilt := not_accepted_of_spoilt events rest
        (.inr fun whole => absurd whole.length_le (Nat.not_le.mpr (collects.overflow malformed)))
      exact .inl ⟨result,judged,by simp [waiting,spoilt]⟩
    | false =>
      have collected := collects.collected malformed
      by_cases whole : s'.reply = tcpExpectedReply
      · cases sees : batch.seesClose events with
        | true =>
          rw [sees] at seen
          obtain ⟨result,judged,success⟩ := judgeTcp_success malformed whole seen
          refine .inl ⟨result,judged,?_⟩
          have answered : Accepted events front (batch :: rest) := by
            refine ⟨_,by rw [firstSeen,if_pos sees],?_,collected ▸ whole⟩
            exact List.all_eq_true.mpr fun e member => by simp [collects.unclosed e member]
          simp [success,answered]
        | false =>
          rw [sees] at seen
          exact .inr ⟨_,judgeTcp_waits malformed seen (.inl whole),collects.running malformed seen,rfl⟩
      · by_cases full : s'.reply.length = tcpExpectedReply.length
        · obtain ⟨result,judged,waiting⟩ := judgeTcp_spoilt collects.waiting (.inr ⟨whole,.inl full⟩)
          have spoilt := not_accepted_of_spoilt events rest
            (.inr fun part => whole (collected.trans (part.eq_of_length (collected ▸ full))))
          exact .inl ⟨result,judged,by simp [waiting,spoilt]⟩
        · cases sees : batch.seesClose events with
          | true =>
            rw [sees] at seen
            obtain ⟨result,judged,waiting⟩ := judgeTcp_spoilt collects.waiting (.inr ⟨whole,.inr seen⟩)
            refine .inl ⟨result,judged,?_⟩
            have unanswered : ¬Accepted events front (batch :: rest) := by
              rintro ⟨seen,first,answered⟩
              rw [firstSeen,if_pos sees] at first
              obtain rfl := Option.some.inj first
              exact whole (collected.trans answered.2)
            simp [waiting,unanswered]
          | false =>
            rw [sees] at seen
            exact .inr ⟨_,judgeTcp_waits malformed seen (.inr full),collects.running malformed seen,rfl⟩

end Batches

def liveTurns (deadline : UInt64) (script : List WaitTurn) : List WaitTurn :=
  script.takeWhile fun turn => turn.tested < deadline && !failed turn.waitRc

section Run

variable {flow : UInt64} {events front : List FlowEvent} {s : WaitState}

/-- The batches of one turn: the wait ends with the verdict on everything, or it goes on. -/
theorem drain_verdict {batches : List FlowBatch} {receives : List ReceiveAnswer}
    (answers : List.Forall₂ (FlowBatch.Answers flow events) batches receives)
    (ordered : ∀ batch ∈ batches, (batch.map Prod.snd).Pairwise (· ≤ ·)) (running : s.Running front)
    (rest : List FlowBatch) :
    (∃ result, (waitForTcpProgress flow replyGoal).drain s receives = .error result ∧
      (result.receivedExpected = true ↔ Accepted events front (batches ++ rest))) ∨
    (∃ s', (waitForTcpProgress flow replyGoal).drain s receives = .ok s' ∧
      s'.Running (front ++ batches.flatMap FlowBatch.events) ∧
      (Accepted events front (batches ++ rest) ↔
        Accepted events (front ++ batches.flatMap FlowBatch.events) rest)) := by
  induction answers generalizing s front with
  | nil => exact .inr ⟨s,rfl,by simpa using running,by simp⟩
  | @cons batch answer batches receives answers _ ih =>
    rcases tcpBatch_verdict answers (ordered batch List.mem_cons_self) running (batches ++ rest) with
      ⟨result,run,verdict⟩ | ⟨next,run,running,unseen⟩
    · have leaves : (waitForTcpProgress flow replyGoal).drain s (answer :: receives) = .error result := by
        rw [WaitLoop.drain,answers.rc,answers.status,run]
        rfl
      exact .inl ⟨result,leaves,verdict⟩
    · have goesOn : (waitForTcpProgress flow replyGoal).drain s (answer :: receives) =
          (waitForTcpProgress flow replyGoal).drain next receives := by
        rw [WaitLoop.drain,answers.rc,answers.status,run]
        rfl
      rw [goesOn,List.cons_append,accepted_next unseen,List.flatMap_cons,← List.append_assoc]
      exact ih (fun batch member => ordered batch (List.mem_cons_of_mem _ member)) running

/-- The whole wait succeeds exactly when the first batch that sees the remote close ends with
the reply, whole and alone. -/
theorem turns_verdict (frequency : UInt64) {deadline : UInt64} {script : List WaitTurn}
    {batches : List FlowBatch}
    (answers : List.Forall₂ (FlowBatch.Answers flow events) batches
      ((liveTurns deadline script).flatMap WaitTurn.receives))
    (ordered : ∀ batch ∈ batches, (batch.map Prod.snd).Pairwise (· ≤ ·)) (running : s.Running front) :
    ((waitForTcpProgress flow replyGoal).turns frequency deadline s script).result.receivedExpected = true ↔
      Accepted events front batches := by
  have nothing : ∀ (front : List FlowEvent) (result : CompletionWaitResult),
      result.receivedExpected = false → (result.receivedExpected = true ↔ Accepted events front []) := by
    intro front result waiting
    rw [waiting]
    refine ⟨nofun,?_⟩
    rintro ⟨_,first,_⟩
    cases first
  induction script generalizing s front batches with
  | nil =>
    obtain rfl := List.forall₂_nil_right_iff.mp answers
    exact nothing front _ running.waiting
  | cons turn rest ih =>
    rw [liveTurns,List.takeWhile_cons] at answers
    by_cases ahead : turn.tested < deadline
    · rw [WaitLoop.turns,if_pos ahead]
      cases waitFails : failed turn.waitRc with
      | true =>
        rw [if_neg (by simp [waitFails])] at answers
        obtain rfl := List.forall₂_nil_right_iff.mp answers
        exact nothing front _ running.waiting
      | false =>
        rw [if_pos (by simp [ahead,waitFails]),List.flatMap_cons] at answers
        have here := List.forall₂_take_append _ _ _ answers
        have later := List.forall₂_drop_append _ _ _ answers
        have woken : ({ s with result.wakeCount := s.result.wakeCount + 1 } : WaitState).Running front :=
          ⟨⟨running.waiting,running.unclosed,running.overflow,running.collected⟩,running.fine,running.unseen⟩
        rcases drain_verdict here (fun batch member => ordered batch (List.mem_of_mem_take member)) woken
          (batches.drop turn.receives.length) with ⟨result,run,verdict⟩ | ⟨next,run,running,same⟩
        · rw [List.take_append_drop] at verdict
          simp only [Bool.false_eq_true,if_false,run]
          exact verdict
        · rw [List.take_append_drop] at same
          simp only [Bool.false_eq_true,if_false,run]
          rw [same]
          exact ih later (fun batch member => ordered batch (List.mem_of_mem_drop member)) running
    · rw [if_neg (by simp [ahead])] at answers
      obtain rfl := List.forall₂_nil_right_iff.mp answers
      rw [WaitLoop.turns,if_neg ahead]
      exact nothing front _ running.waiting

end Run

namespace Schedule

variable (schedule : Schedule)

/-- A service that delivers the batches of the schedule in the live turns of a wait. -/
def DeliveredBy (flow deadline : UInt64) (script : List WaitTurn) : Prop :=
  List.Forall₂ (FlowBatch.Answers flow schedule.events) schedule.batches
    ((liveTurns deadline script).flatMap WaitTurn.receives)

/-- The close has been delivered with the reply, but the first batch that saw it ended before
the reply was whole, or behind something else. -/
def SeenApart : Prop :=
  ReplyThenClose schedule.delivered ∧
    ∃ seen, firstSeen schedule.events [] schedule.batches = some seen ∧ ¬Answered seen

/-- The close was only seen in the state: its record is not delivered with the reply. -/
def SeenAhead : Prop :=
  ¬ReplyThenClose schedule.delivered ∧
    ∃ seen, firstSeen schedule.events [] schedule.batches = some seen ∧ Answered seen

end Schedule

theorem WaitState.running_start : WaitState.start.Running [] :=
  ⟨⟨rfl,nofun,nofun,fun _ => rfl⟩,rfl,rfl⟩

/-- The record of the close shows the close in its own batch, or an earlier one has. -/
theorem firstSeen_of_delivered (events before : List FlowEvent) {batches : List FlowBatch}
    (timely : Schedule.Timely before.length batches) (start : before ++ batches.flatMap FlowBatch.events <+: events)
    {e : FlowEvent} (member : e ∈ batches.flatMap FlowBatch.events) (closes : e.closesRemote = true)
    (asks : e.asksState = true) : ∃ seen, firstSeen events before batches = some seen := by
  induction batches generalizing before with
  | nil => cases member
  | cons batch rest ih =>
    obtain ⟨late,_,timely⟩ := timely
    rw [List.flatMap_cons,← List.append_assoc] at start
    rw [firstSeen]
    by_cases sees : batch.seesClose events = true
    · exact ⟨_,if_pos sees⟩
    · rw [if_neg sees]
      rw [List.flatMap_cons] at member
      rcases List.mem_append.mp member with here | later
      · obtain ⟨entry,inside,rfl⟩ := List.mem_map.mp here
        have known : before ++ batch.events <+: events.take entry.2 := by
          apply List.prefix_take_iff.mpr
          refine ⟨(List.prefix_append _ _).trans start,?_⟩
          rw [List.length_append,FlowBatch.events,List.length_map]
          exact late entry inside
        have shown : (events.take entry.2).any FlowEvent.closesRemote = true :=
          List.any_eq_true.mpr ⟨entry.1,known.subset (List.mem_append_right _ here),closes⟩
        exact absurd (List.any_eq_true.mpr ⟨entry,inside,by simp [asks,shown]⟩) sees
      · refine ih _ ?_ start later
        rw [List.length_append,FlowBatch.events,List.length_map]
        exact timely

theorem Schedule.ordered_of_timely {delivered : Nat} {batches : List FlowBatch}
    (timely : Schedule.Timely delivered batches) :
    ∀ batch ∈ batches, (batch.map Prod.snd).Pairwise (· ≤ ·) := by
  induction batches generalizing delivered with
  | nil => exact nofun
  | cons first rest ih =>
    obtain ⟨_,ordered,later⟩ := timely
    intro batch member
    rcases List.mem_cons.mp member with rfl | member
    · exact ordered
    · exact ih later batch member

/-- The verdict of the wait is the one on the delivered events, whatever the batches, exactly
when no schedule shows the close apart from the reply it is delivered with, or ahead of its
own record. -/
theorem waitForTcpProgress_iff (frequency : UInt64) (timeoutMs : UInt32) (start flow : UInt64)
    (script : List WaitTurn) {schedule : Schedule}
    (answers : schedule.DeliveredBy flow (deadlineAfterMilliseconds frequency start timeoutMs) script)
    (timely : Schedule.Timely 0 schedule.batches) :
    (((waitForTcpProgress flow replyGoal).wait frequency timeoutMs start script).result.receivedExpected = true ↔
        ReplyThenClose schedule.delivered) ↔
      ¬schedule.SeenApart ∧ ¬schedule.SeenAhead := by
  have verdict := turns_verdict frequency answers (Schedule.ordered_of_timely timely) WaitState.running_start
  rw [WaitLoop.wait,verdict]
  constructor
  · rintro same
    constructor
    · rintro ⟨both,seen,first,apart⟩
      obtain ⟨seen',first',answered⟩ := same.mpr both
      rw [first] at first'
      obtain rfl := Option.some.inj first'
      exact apart answered
    · rintro ⟨never,seen,first,answered⟩
      exact never (same.mp ⟨seen,first,answered⟩)
  · rintro ⟨together,behind⟩
    constructor
    · rintro ⟨seen,first,answered⟩
      by_contra never
      exact behind ⟨never,seen,first,answered⟩
    · intro both
      have ⟨front,part,⟨unclosed,_⟩,closes⟩ := both
      obtain ⟨e,member,closes⟩ := List.any_eq_true.mp closes
      have asks : e.asksState = true := by
        have running := List.all_eq_true.mp unclosed e member
        cases e with
        | segment bytes => cases closes
        | stateChanged state reason remoteCloses =>
          cases state with
          | closed => cases running
          | «open» => rfl
          | other => rfl
      obtain ⟨seen,first⟩ := firstSeen_of_delivered schedule.events [] timely (List.prefix_append _ _)
         (part.subset member) closes asks
      by_contra other
      exact together ⟨both,seen,first,fun answered => other ⟨seen,first,answered⟩⟩

section Runs

def connectedRecord (type : CompletionType) (payloadSize : Nat) : CompletionRecord :=
  ⟨type,1,.tcp,.open,.none,0,payloadSize⟩

def replyInOneBatch : Schedule := ⟨[[(.segment tcpExpectedReply,2),(.stateChanged .open .none true,2)]],[]⟩

def replyInOneBatchTurn : WaitTurn :=
  ⟨0,0,0,[⟨0,.success,[(connectedRecord .inboundTcpStream 14,⟨0,.success,false⟩),
    (connectedRecord .flowStateChanged 0,⟨0,.success,false⟩)],tcpExpectedReply⟩]⟩

theorem waitForTcpProgress_one_batch :
    ((waitForTcpProgress 1 replyGoal).wait 19200000 1000 0 [replyInOneBatchTurn]).result.receivedExpected = true := by
  have delivered : replyInOneBatch.DeliveredBy 1 (deadlineAfterMilliseconds 19200000 0 1000)
      [replyInOneBatchTurn] :=
    .cons ⟨rfl,rfl,.cons ⟨⟨rfl,rfl,rfl,by decide⟩,rfl⟩ (.cons ⟨⟨rfl,rfl,rfl,rfl,rfl⟩,rfl⟩ .nil)⟩ .nil
  have whole : firstSeen replyInOneBatch.events [] replyInOneBatch.batches = some replyInOneBatch.delivered ∧
      Answered replyInOneBatch.delivered := by decide
  have both : ReplyThenClose replyInOneBatch.delivered := ⟨_,List.prefix_rfl,whole.2,by decide⟩
  refine ((waitForTcpProgress_iff 19200000 1000 0 1 _ delivered (by decide)).mpr ⟨?_,?_⟩).mpr both
  · rintro ⟨_,seen,first,apart⟩
    rw [whole.1] at first
    obtain rfl := Option.some.inj first
    exact apart whole.2
  · rintro ⟨never,_⟩
    exact never both

/-- A state change, the reply and the remote close, a record a batch. The service has had all
three when the first record is read. -/
def closeSeenEarly : Schedule :=
  ⟨[[(.stateChanged .open .none false,3)],[(.segment tcpExpectedReply,3)],[(.stateChanged .open .none true,3)]],[]⟩

def closeSeenEarlyTurn : WaitTurn :=
  ⟨0,0,0,[⟨0,.success,[(connectedRecord .flowStateChanged 0,⟨0,.success,false⟩)],[]⟩,
    ⟨0,.success,[(connectedRecord .inboundTcpStream 14,⟨0,.success,false⟩)],tcpExpectedReply⟩,
    ⟨0,.success,[(connectedRecord .flowStateChanged 0,⟨0,.success,false⟩)],[]⟩]⟩

theorem verdict_depends_on_batching :
    ¬∀ (frequency : UInt64) (timeoutMs : UInt32) (start flow : UInt64) (script : List WaitTurn)
      (schedule : Schedule),
      schedule.DeliveredBy flow (deadlineAfterMilliseconds frequency start timeoutMs) script →
      Schedule.Timely 0 schedule.batches →
      (schedule.batches.flatten.map Prod.snd).Pairwise (· ≤ ·) →
      (∀ entry ∈ schedule.batches.flatten, entry.2 ≤ schedule.events.length) →
      (∀ batch ∈ schedule.batches, batch.length = 1) →
      (((waitForTcpProgress flow replyGoal).wait frequency timeoutMs start script).result.receivedExpected = true ↔
        ReplyThenClose schedule.delivered) := by
  intro independent
  have delivered : closeSeenEarly.DeliveredBy 1 (deadlineAfterMilliseconds 19200000 0 1000)
      [closeSeenEarlyTurn] :=
    .cons ⟨rfl,rfl,.cons ⟨⟨rfl,rfl,rfl,rfl,rfl⟩,rfl⟩ .nil⟩ (.cons ⟨rfl,rfl,.cons ⟨⟨rfl,rfl,rfl,by decide⟩,rfl⟩ .nil⟩
      (.cons ⟨rfl,rfl,.cons ⟨⟨rfl,rfl,rfl,rfl,rfl⟩,rfl⟩ .nil⟩ .nil))
  have verdict := (independent 19200000 1000 0 1 _ _ delivered (by decide) (by decide) (by decide)
    (by decide)).mpr ⟨_,List.prefix_rfl,by decide,by decide⟩
  exact absurd verdict (by decide)

end Runs

end NxReverse.Toolbox
