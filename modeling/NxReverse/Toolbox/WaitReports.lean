import NxReverse.Toolbox.TunnelScenario

/-! What the result of a completion wait tells of the commands that the wait sent: whether one of them
failed, and what was read when the wait reports what it waited for. -/
namespace NxReverse.Toolbox

open Text Words

/-- A wait that goes on has reported nothing yet. -/
structure WaitState.Pending (s : WaitState) : Prop where
  serviceLost : s.result.serviceLost = false
  receivedExpected : s.result.receivedExpected = false
  writable : s.result.writable = false

/-- A result that reports neither what was waited for nor a lost service. -/
def CompletionWaitResult.Silent (result : CompletionWaitResult) : Prop :=
  result.serviceLost = false ∧ result.receivedExpected = false ∧ result.writable = false

theorem WaitState.pending_start : WaitState.start.Pending := ⟨rfl,rfl,rfl⟩

def FailsLast (results : List UInt32) : Prop :=
  ∀ before rc after, results = before ++ rc :: after → failed rc = true → after = []

def Unfailed (results : List UInt32) : Prop := ∀ rc ∈ results, failed rc = false

theorem Unfailed.failsLast {results : List UInt32} (unfailed : Unfailed results) : FailsLast results := by
  rintro before rc after rfl fails
  have member : rc ∈ before ++ rc :: after := by simp
  exact Bool.noConfusion ((unfailed rc member).symm.trans fails)

theorem Unfailed.append {first second : List UInt32} (left : Unfailed first) (right : Unfailed second) :
    Unfailed (first ++ second) := by
  intro rc member
  exact (List.mem_append.mp member).elim (left rc) (right rc)

theorem FailsLast.behind {first second : List UInt32} (unfailed : Unfailed first) (last : FailsLast second) :
    FailsLast (first ++ second) := by
  induction first with
  | nil => exact last
  | cons first rest ih =>
    intro before rc after same fails
    cases before with
    | nil =>
      have here : failed first = false := unfailed first List.mem_cons_self
      have same : first = rc := (List.cons.inj same).1
      exact Bool.noConfusion ((same ▸ here).symm.trans fails)
    | cons _ before =>
      have later : Unfailed rest := fun rc member => unfailed rc (List.mem_cons_of_mem first member)
      exact ih later before rc after (List.cons.inj same).2 fails

theorem failsLast_singleton (rc : UInt32) : FailsLast [rc] := by
  intro before other after same _
  cases before with
  | nil => exact (List.cons.inj same).2.symm
  | cons _ before =>
    have tail := (List.cons.inj same).2
    simp at tail

/-- What a loop must tell of its own steps: `Read` is what a report rests on. -/
structure WaitLoop.Tells (loop : WaitLoop) (queries : WaitState → ReceiveAnswer → List UInt32)
    (Read : CompletionWaitResult → ReceiveAnswer → Prop) : Prop where
  waitFailed : ∀ s : WaitState, s.Pending → ∀ rc, (loop.waitFailed s.result rc).Silent
  expired : ∀ s : WaitState, s.Pending → (loop.expired s.result).Silent
  goesOn : ∀ (s next : WaitState) (answer : ReceiveAnswer), s.Pending →
    loop.batch s answer.completions answer.payload = .ok next → next.Pending ∧ Unfailed (queries s answer)
  ends : ∀ (s : WaitState) (answer : ReceiveAnswer) (result : CompletionWaitResult), s.Pending →
    loop.batch s answer.completions answer.payload = .error result →
    result.serviceLost = false ∧ FailsLast (queries s answer) ∧
    (result.receivedExpected = true ∨ result.writable = true →
      Unfailed (queries s answer) ∧ Read result answer)

/-- What the end of a wait tells: a lost service comes with a failed command, which is the last; a
report comes with no failed command and rests on an answer that was read. -/
structure WaitTold (queries : WaitState → ReceiveAnswer → List UInt32)
    (Read : CompletionWaitResult → ReceiveAnswer → Prop) (receives : List ReceiveAnswer)
    (result : CompletionWaitResult) (results : List UInt32) : Prop where
  lost : result.serviceLost = true → ¬Unfailed results
  shown : (∀ s answer, queries s answer = []) → ¬Unfailed results → result.serviceLost = true
  failsLast : FailsLast results
  reported : result.receivedExpected = true ∨ result.writable = true →
    Unfailed results ∧ result.serviceLost = false ∧ ∃ answer ∈ receives, Read result answer

section Told

variable {loop : WaitLoop} {queries : WaitState → ReceiveAnswer → List UInt32}
  {Read : CompletionWaitResult → ReceiveAnswer → Prop} {receives others : List ReceiveAnswer}
  {result : CompletionWaitResult} {results : List UInt32}

theorem WaitTold.silent (silent : result.Silent) (unfailed : Unfailed results) :
    WaitTold queries Read receives result results where
  lost reported := Bool.noConfusion (silent.1.symm.trans reported)
  shown _ fails := absurd unfailed fails
  failsLast := unfailed.failsLast
  reported := by
    rintro (received | writable)
    · exact Bool.noConfusion (silent.2.1.symm.trans received)
    · exact Bool.noConfusion (silent.2.2.symm.trans writable)

theorem WaitTold.behind {before : List UInt32} (told : WaitTold queries Read others result results)
    (unfailed : Unfailed before) (subset : ∀ answer ∈ others, answer ∈ receives) :
    WaitTold queries Read receives result (before ++ results) where
  lost reported all := told.lost reported fun rc member => all rc (List.mem_append_right before member)
  shown noQuery fails := told.shown noQuery fun later => fails (unfailed.append later)
  failsLast := .behind unfailed told.failsLast
  reported report := by
    obtain ⟨later,present,answer,member,read⟩ := told.reported report
    exact ⟨unfailed.append later,present,answer,subset answer member,read⟩

theorem unfailed_singleton {rc : UInt32} (succeeds : ¬failed rc = true) : Unfailed [rc] := by
  intro other member
  rw [List.mem_singleton.mp member]
  exact Bool.eq_false_iff.mpr succeeds

theorem unfailed_nil : Unfailed [] := List.forall_mem_nil _

/-- A command of the wait itself fails. -/
theorem WaitTold.fails {s : WaitState} (pending : s.Pending) {answer : ReceiveAnswer} (fails : failed answer.rc = true)
    (detail : CString) : WaitTold queries Read receives
      { s.result with terminal := true, serviceLost := true, rc := answer.rc, detail } [answer.rc] where
  lost _ unfailed := Bool.noConfusion ((unfailed answer.rc List.mem_cons_self).symm.trans fails)
  shown _ _ := rfl
  failsLast := failsLast_singleton answer.rc
  reported := by
    rintro (received | writable)
    · exact Bool.noConfusion (pending.receivedExpected.symm.trans received)
    · exact Bool.noConfusion (pending.writable.symm.trans writable)

/-- A batch ends the wait. -/
theorem WaitTold.ends (tells : loop.Tells queries Read) {s : WaitState} (pending : s.Pending) {answer : ReceiveAnswer}
    (run : loop.batch s answer.completions answer.payload = .error result) :
    WaitTold queries Read (answer :: others) result (queries s answer) := by
  obtain ⟨present,last,report⟩ := tells.ends s answer result pending run
  refine ⟨fun lost => ?_,fun noQuery fails => ?_,last,fun reported => ?_⟩
  · exact Bool.noConfusion (present.symm.trans lost)
  · rw [noQuery s answer] at fails
    exact absurd unfailed_nil fails
  · obtain ⟨unfailed,read⟩ := report reported
    exact ⟨unfailed,present,answer,List.mem_cons_self,read⟩

/-- The inner loop, which ends the wait or goes on. -/
theorem drain_told (tells : loop.Tells queries Read) {s : WaitState} (pending : s.Pending)
    (receives : List ReceiveAnswer) :
    (∀ result, loop.drain s receives = .error result →
      WaitTold queries Read receives result (drainResults loop queries s receives)) ∧
    ∀ next, loop.drain s receives = .ok next → next.Pending ∧ Unfailed (drainResults loop queries s receives) := by
  induction receives generalizing s with
  | nil =>
    rw [WaitLoop.drain,drainResults]
    refine ⟨fun _ same => ?_,fun next same => ?_⟩
    · cases same
    · cases same
      exact ⟨pending,unfailed_singleton Bool.false_ne_true⟩
  | cons answer rest ih =>
    rw [WaitLoop.drain,drainResults]
    by_cases fails : failed answer.rc = true
    · rw [if_pos fails,if_pos (.inl fails)]
      refine ⟨fun _ same => ?_,fun _ same => ?_⟩
      · cases same
        exact .fails pending fails _
      · cases same
    rw [if_neg fails]
    have succeeds := unfailed_singleton fails
    split
    next empty =>
      refine ⟨fun _ same => ?_,fun next same => ?_⟩
      · cases same
      · cases same
        rw [if_pos (.inr (by simp [empty]))]
        exact ⟨pending,succeeds⟩
    split
    next refused =>
      refine ⟨fun _ same => ?_,fun _ same => ?_⟩
      · cases same
        rw [if_pos (.inr refused)]
        exact .silent ⟨pending.serviceLost,pending.receivedExpected,pending.writable⟩ succeeds
      · cases same
    next success =>
      rw [if_neg (not_or.mpr ⟨fails,success⟩)]
      cases run : loop.batch s answer.completions answer.payload with
      | error result =>
        refine ⟨fun _ same => ?_,fun _ same => ?_⟩
        · cases same
          dsimp only
          rw [List.append_nil]
          exact (WaitTold.ends tells pending run).behind succeeds fun _ member => member
        · cases same
      | ok next =>
        obtain ⟨pendingNext,quiet⟩ := tells.goesOn s next answer pending run
        obtain ⟨ends,goesOn⟩ := ih pendingNext
        refine ⟨fun other same => ?_,fun last same => ?_⟩
        · exact (ends other same).behind (succeeds.append quiet) fun _ => List.mem_cons_of_mem answer
        · obtain ⟨pendingLast,unfailed⟩ := goesOn last same
          exact ⟨pendingLast,(succeeds.append quiet).append unfailed⟩

theorem WaitTold.mono (told : WaitTold queries Read others result results)
    (subset : ∀ answer ∈ others, answer ∈ receives) : WaitTold queries Read receives result results :=
  told.behind unfailed_nil subset

/-- The whole wait. -/
theorem turns_told (tells : loop.Tells queries Read) {frequency deadline : UInt64} {s : WaitState}
    (pending : s.Pending) (turns : List WaitTurn) :
    WaitTold queries Read (turns.flatMap WaitTurn.receives) (loop.turns frequency deadline s turns).result
      (turnResults loop queries deadline s turns) := by
  induction turns generalizing s with
  | nil => exact .silent (tells.expired s pending) unfailed_nil
  | cons turn rest ih =>
    rw [WaitLoop.turns,turnResults]
    split
    next early =>
      dsimp only
      split
      next fails =>
        rw [if_neg fun both => by simp [fails] at both]
        exact .silent (tells.waitFailed s pending turn.waitRc) unfailed_nil
      next succeeds =>
        rw [if_pos ⟨early,by simpa using succeeds⟩]
        let woken : WaitState := { s with result.wakeCount := s.result.wakeCount + 1 }
        have pendingWoken : woken.Pending := ⟨pending.serviceLost,pending.receivedExpected,pending.writable⟩
        obtain ⟨ends,goesOn⟩ := drain_told tells pendingWoken turn.receives
        cases run : loop.drain woken turn.receives with
        | error result =>
          have told := (ends result run).mono fun answer member =>
            (List.mem_append_left (rest.flatMap WaitTurn.receives) member : answer ∈ _ ++ _)
          rw [List.append_nil]
          exact told
        | ok next =>
          obtain ⟨pendingNext,unfailed⟩ := goesOn next run
          exact (ih pendingNext).behind unfailed fun answer member => List.mem_append_right turn.receives member
    next late =>
      rw [if_neg fun both => late both.1]
      exact .silent (tells.expired s pending) unfailed_nil

end Told

/-- A step goes on in a state of which `Goes` holds, or ends with a result of which `Ends` holds. -/
structure Outcome (Goes : WaitState → Prop) (Ends : CompletionWaitResult → Prop)
    (x : Except CompletionWaitResult WaitState) : Prop where
  goesOn : ∀ next, x = .ok next → Goes next
  ends : ∀ result, x = .error result → Ends result

section Steps

variable {Goes : WaitState → Prop} {Ends : CompletionWaitResult → Prop} {s : WaitState}
  {result : CompletionWaitResult}

theorem outcome_ok (goes : Goes s) : Outcome Goes Ends (.ok s) := by
  refine ⟨fun next same => ?_,fun result same => ?_⟩
  · cases same
    exact goes
  · cases same

theorem outcome_error (ends : Ends result) : Outcome Goes Ends (.error result) := by
  refine ⟨fun next same => ?_,fun other same => ?_⟩
  · cases same
  · cases same
    exact ends

theorem Outcome.bind {Later : WaitState → Prop} {x : Except CompletionWaitResult WaitState}
    {f : WaitState → Except CompletionWaitResult WaitState} (first : Outcome Goes Ends x)
    (rest : ∀ next, Goes next → Outcome Later Ends (f next)) : Outcome Later Ends (x >>= f) := by
  cases x with
  | error result => exact outcome_error (first.ends result rfl)
  | ok next => exact rest next (first.goesOn next rfl)

theorem Outcome.mono {Ended : CompletionWaitResult → Prop} {x : Except CompletionWaitResult WaitState}
    (outcome : Outcome Goes Ends x) (weaker : ∀ result, Ends result → Ended result) : Outcome Goes Ended x :=
  ⟨outcome.goesOn,fun result same => weaker result (outcome.ends result same)⟩

theorem foldlM_outcome {f : WaitState → α → Except CompletionWaitResult WaitState}
    {EndsAt : α → CompletionWaitResult → Prop} (step : ∀ s a, Goes s → Outcome Goes (EndsAt a) (f s a))
    (goes : Goes s) (entries : List α) :
    Outcome Goes (fun result => ∃ a ∈ entries, EndsAt a result) (entries.foldlM f s) := by
  induction entries generalizing s with
  | nil => exact outcome_ok goes
  | cons a rest ih =>
    have told := step s a goes
    rw [List.foldlM_cons]
    cases run : f s a with
    | error result => exact outcome_error ⟨a,List.mem_cons_self,told.ends result run⟩
    | ok next =>
      have later := ih (told.goesOn next run)
      refine ⟨later.goesOn,fun result same => ?_⟩
      obtain ⟨other,member,holds⟩ := later.ends result same
      exact ⟨other,List.mem_cons_of_mem a member,holds⟩

end Steps

theorem WaitState.Pending.ignore {s : WaitState} (pending : s.Pending) : s.ignore.Pending :=
  ⟨pending.serviceLost,pending.receivedExpected,pending.writable⟩

def EchoRead (flow : UInt64) (expected : Bytes) (answer : ReceiveAnswer) : Prop :=
  ∃ entry ∈ answer.completions, entry.1.type = .inboundUdpDatagram ∧ entry.1.flow = flow ∧
    entry.1.received answer.payload = some expected

def WaitGoal.Read (flow : UInt64) : WaitGoal → CompletionWaitResult → ReceiveAnswer → Prop
  | echo expected,result,answer => result.receivedExpected = true → EchoRead flow expected answer
  | _,_,_ => True

theorem echoCompletion_tells {reasonNumber : FlowTerminalReason → Nat} {flow : UInt64} {expected payload : Bytes}
    (s : WaitState) (entry : CompletionRecord × FlowStateAnswer) (pending : s.Pending) :
    Outcome WaitState.Pending (fun result => result.serviceLost = false ∧ (result.receivedExpected = true →
      entry.1.type = .inboundUdpDatagram ∧ entry.1.flow = flow ∧ entry.1.received payload = some expected))
      (echoCompletion reasonNumber flow expected payload s entry) := by
  have silent : s.result.receivedExpected = true → False := fun received =>
    Bool.noConfusion (pending.receivedExpected.symm.trans received)
  unfold echoCompletion
  split
  · exact outcome_error ⟨pending.serviceLost,fun received => (silent received).elim⟩
  split
  · exact outcome_ok pending.ignore
  next inbound =>
    obtain ⟨type,own⟩ := not_or.mp inbound
    split
    · exact outcome_ok pending.ignore
    next received inside =>
      split
      next same => exact outcome_error ⟨pending.serviceLost,fun _ => ⟨not_not.mp type,not_not.mp own,same ▸ inside⟩⟩
      next => exact outcome_ok pending.ignore

theorem writableCompletion_tells {reasonNumber : FlowTerminalReason → Nat} {flow : UInt64} (s : WaitState)
    (entry : CompletionRecord × FlowStateAnswer) (pending : s.Pending) :
    Outcome WaitState.Pending (fun result => result.serviceLost = false)
      (writableCompletion reasonNumber flow s entry) := by
  unfold writableCompletion
  split
  · exact outcome_error pending.serviceLost
  split
  · exact outcome_error pending.serviceLost
  · exact outcome_ok pending.ignore

theorem echo_tells (api : TunnelApi) (flow : UInt64) (expected : Bytes) :
    ((WaitGoal.echo expected).loop api flow).Tells ((WaitGoal.echo expected).queries flow)
      ((WaitGoal.echo expected).Read flow) where
  waitFailed _ pending _ := ⟨pending.serviceLost,pending.receivedExpected,pending.writable⟩
  expired _ pending := ⟨pending.serviceLost,pending.receivedExpected,pending.writable⟩
  goesOn s next answer pending run :=
    ⟨(foldlM_outcome echoCompletion_tells pending answer.completions).goesOn next run,unfailed_nil⟩
  ends s answer result pending run := by
    obtain ⟨entry,member,present,read⟩ := (foldlM_outcome echoCompletion_tells pending answer.completions).ends result run
    exact ⟨present,unfailed_nil.failsLast,fun _ => ⟨unfailed_nil,fun received => ⟨entry,member,read received⟩⟩⟩

theorem writable_tells (api : TunnelApi) (flow : UInt64) :
    (WaitGoal.writable.loop api flow).Tells (WaitGoal.writable.queries flow) (WaitGoal.writable.Read flow) where
  waitFailed _ pending _ := ⟨pending.serviceLost,pending.receivedExpected,pending.writable⟩
  expired _ pending := ⟨pending.serviceLost,pending.receivedExpected,pending.writable⟩
  goesOn s next answer pending run :=
    ⟨(foldlM_outcome writableCompletion_tells pending answer.completions).goesOn next run,unfailed_nil⟩
  ends s answer result pending run := by
    obtain ⟨entry,member,present⟩ := (foldlM_outcome writableCompletion_tells pending answer.completions).ends result run
    exact ⟨present,unfailed_nil.failsLast,fun _ => ⟨unfailed_nil,trivial⟩⟩

def stateResult (flow : UInt64) (entry : CompletionRecord × FlowStateAnswer) : List UInt32 :=
  if asksState flow entry.1 then [entry.2.rc] else []

theorem stateResult_failsLast (flow : UInt64) (entry : CompletionRecord × FlowStateAnswer) :
    FailsLast (stateResult flow entry) := by
  unfold stateResult
  split
  · exact failsLast_singleton entry.2.rc
  · exact unfailed_nil.failsLast

theorem stateResult_silent {flow : UInt64} {entry : CompletionRecord × FlowStateAnswer}
    (silent : ¬asksState flow entry.1 = true) : Unfailed (stateResult flow entry) := by
  rw [stateResult,if_neg silent]
  exact unfailed_nil

theorem asksState_iff {flow : UInt64} {completion : CompletionRecord} : asksState flow completion = true ↔
    completion.flow = flow ∧ completion.flowKind = .tcp ∧ completion.type = .flowStateChanged ∧
      completion.flowState ≠ .closed := by
  simp [asksState,and_assoc]

theorem tcpCompletion_tells {flow : UInt64} {payload : Bytes} (s : WaitState)
    (entry : CompletionRecord × FlowStateAnswer) (pending : s.Pending) :
    Outcome (fun next => next.Pending ∧ Unfailed (stateResult flow entry)) CompletionWaitResult.Silent
      (tcpCompletion flow payload s entry) := by
  have present : s.Pending → s.result.Silent := fun p => ⟨p.serviceLost,p.receivedExpected,p.writable⟩
  have ignored : ∀ {other : WaitState}, other.Pending → ¬asksState flow entry.1 = true →
      other.Pending ∧ Unfailed (stateResult flow entry) := fun pending silent =>
    ⟨pending,stateResult_silent silent⟩
  unfold tcpCompletion
  dsimp only
  split
  next foreign =>
    refine outcome_ok (ignored pending.ignore fun asks => ?_)
    obtain ⟨own,kind,_⟩ := asksState_iff.mp asks
    exact foreign.elim (fun other => other own) fun other => other kind
  split
  · split
    · exact outcome_error (present pending)
    next open_ =>
      split
      · exact outcome_error (present pending)
      next answered =>
        refine outcome_ok ⟨⟨pending.serviceLost,pending.receivedExpected,pending.writable⟩,?_⟩
        unfold stateResult
        split
        · exact unfailed_singleton (not_or.mp answered).1
        · exact unfailed_nil
  next other =>
    have silent : ¬asksState flow entry.1 = true := fun asks => other (asksState_iff.mp asks).2.2.1
    split
    · exact outcome_ok (ignored pending.ignore silent)
    split
    · exact outcome_ok (ignored pending.ignore silent)
    split
    · exact outcome_ok (ignored ⟨pending.serviceLost,pending.receivedExpected,pending.writable⟩ silent)
    · exact outcome_ok (ignored ⟨pending.serviceLost,pending.receivedExpected,pending.writable⟩ silent)

theorem stateResults_cons (flow : UInt64) (payload : Bytes) (s : WaitState)
    (entry : CompletionRecord × FlowStateAnswer) (rest : List (CompletionRecord × FlowStateAnswer)) :
    (∀ next, tcpCompletion flow payload s entry = .ok next →
      stateResults flow payload s (entry :: rest) = stateResult flow entry ++ stateResults flow payload next rest) ∧
    ∀ result, tcpCompletion flow payload s entry = .error result →
      stateResults flow payload s (entry :: rest) = stateResult flow entry := by
  refine ⟨fun next run => ?_,fun result run => ?_⟩
  · rw [stateResults,run]
    rfl
  · rw [stateResults,run]
    exact List.append_nil _

theorem tcpRecords_tell {flow : UInt64} {payload : Bytes} {s : WaitState} (pending : s.Pending)
    (entries : List (CompletionRecord × FlowStateAnswer)) :
    Outcome (fun next => next.Pending ∧ Unfailed (stateResults flow payload s entries))
      (fun result => result.Silent ∧ FailsLast (stateResults flow payload s entries))
      (entries.foldlM (tcpCompletion flow payload) s) := by
  induction entries generalizing s with
  | nil => exact outcome_ok ⟨pending,unfailed_nil⟩
  | cons entry rest ih =>
    have told := @tcpCompletion_tells flow payload s entry pending
    have results := stateResults_cons flow payload s entry rest
    rw [List.foldlM_cons]
    cases run : tcpCompletion flow payload s entry with
    | error result =>
      rw [results.2 result run]
      exact outcome_error ⟨told.ends result run,stateResult_failsLast flow entry⟩
    | ok next =>
      obtain ⟨pendingNext,unfailed⟩ := told.goesOn next run
      have later := ih pendingNext
      rw [results.1 next run]
      refine ⟨fun last same => ?_,fun result same => ?_⟩
      · obtain ⟨pendingLast,rest⟩ := later.goesOn last same
        exact ⟨pendingLast,unfailed.append rest⟩
      · obtain ⟨silent,last⟩ := later.ends result same
        exact ⟨silent,last.behind unfailed⟩

theorem judgeTcp_tells {goal : TcpGoal} {s : WaitState} (pending : s.Pending) :
    Outcome WaitState.Pending (fun result => result.serviceLost = false) (judgeTcp goal s) := by
  unfold judgeTcp
  dsimp only
  split
  · exact outcome_error pending.serviceLost
  split
  · exact outcome_error pending.serviceLost
  split
  · exact outcome_ok ⟨pending.serviceLost,pending.receivedExpected,pending.writable⟩
  · exact outcome_error pending.serviceLost

/-- A batch of the TCP wait: a report comes from its end, behind queries that all succeeded. -/
theorem tcpBatch_tells (api : TunnelApi) (flow : UInt64) (goal : TcpGoal) {s : WaitState} (pending : s.Pending)
    (answer : ReceiveAnswer) :
    Outcome (fun next => next.Pending ∧ Unfailed ((WaitGoal.tcp goal).queries flow s answer))
      (fun result => result.serviceLost = false ∧ FailsLast ((WaitGoal.tcp goal).queries flow s answer) ∧
        (result.receivedExpected = true ∨ result.writable = true →
          Unfailed ((WaitGoal.tcp goal).queries flow s answer)))
      (((WaitGoal.tcp goal).loop api flow).batch s answer.completions answer.payload) := by
  have quiet : ∀ result : CompletionWaitResult, result.Silent → result.receivedExpected = true ∨ result.writable = true →
      Unfailed ((WaitGoal.tcp goal).queries flow s answer) := by
    rintro result silent (received | writable)
    · exact Bool.noConfusion (silent.2.1.symm.trans received)
    · exact Bool.noConfusion (silent.2.2.symm.trans writable)
  have records := @tcpRecords_tell flow answer.payload s pending answer.completions
  apply (records.mono fun result told => ⟨told.1.1,told.2,quiet result told.1⟩).bind
  rintro next ⟨pendingNext,unfailed⟩
  have judged := @judgeTcp_tells goal next pendingNext
  refine ⟨fun last same => ⟨judged.goesOn last same,unfailed⟩,fun result same => ?_⟩
  exact ⟨judged.ends result same,unfailed.failsLast,fun _ => unfailed⟩

theorem tcp_tells (api : TunnelApi) (flow : UInt64) (goal : TcpGoal) :
    ((WaitGoal.tcp goal).loop api flow).Tells ((WaitGoal.tcp goal).queries flow) ((WaitGoal.tcp goal).Read flow) where
  waitFailed _ pending _ := ⟨pending.serviceLost,pending.receivedExpected,pending.writable⟩
  expired _ pending := ⟨pending.serviceLost,pending.receivedExpected,pending.writable⟩
  goesOn _ next answer pending := (tcpBatch_tells api flow goal pending answer).goesOn next
  ends _ answer result pending run := by
    obtain ⟨present,last,report⟩ := (tcpBatch_tells api flow goal pending answer).ends result run
    exact ⟨present,last,fun reported => ⟨report reported,trivial⟩⟩

/-- What the result of any wait of the scenarios tells. -/
theorem WaitGoal.told (api : TunnelApi) (goal : WaitGoal) (flow : UInt64) (timeoutMs : UInt32) (script : WaitScript) :
    WaitTold (goal.queries flow) (goal.Read flow) (script.turns.flatMap WaitTurn.receives)
      (goal.result api flow timeoutMs script) (goal.commandResults api flow timeoutMs script) := by
  cases goal with
  | echo expected => exact turns_told (echo_tells api flow expected) WaitState.pending_start script.turns
  | writable => exact turns_told (writable_tells api flow) WaitState.pending_start script.turns
  | tcp goal => exact turns_told (tcp_tells api flow goal) WaitState.pending_start script.turns

end NxReverse.Toolbox
