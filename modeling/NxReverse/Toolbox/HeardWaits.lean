import NxReverse.Toolbox.TunnelScenario

/-! When a wait of the UDP workload reports what it waits for, told by the answers alone: a record that hits, in a
turn before the deadline, behind nothing that ends the wait. -/
namespace NxReverse.Toolbox

open Text Words

/-- An item that hits, behind items that are passed over. -/
def Reaches (Passes Hits : α → Prop) (items : List α) : Prop :=
  ∃ before item after, items = before ++ item :: after ∧ (∀ other ∈ before, Passes other) ∧ Hits item

section Reaches

variable {Passes Hits : α → Prop} {item : α} {rest : List α}

theorem not_reaches_nil : ¬Reaches Passes Hits [] := by
  rintro ⟨before,item,after,same,_⟩
  simp at same

theorem reaches_cons : Reaches Passes Hits (item :: rest) ↔ Hits item ∨ Passes item ∧ Reaches Passes Hits rest := by
  constructor
  · rintro ⟨before,hit,after,same,passed,hits⟩
    cases before with
    | nil =>
      obtain ⟨rfl,_⟩ := List.cons.inj same
      exact .inl hits
    | cons first before =>
      obtain ⟨rfl,rfl⟩ := List.cons.inj same
      obtain ⟨here,later⟩ := List.forall_mem_cons.mp passed
      exact .inr ⟨here,before,hit,after,rfl,later,hits⟩
  · rintro (hits | ⟨here,before,hit,after,rfl,passed,hits⟩)
    · exact ⟨[],item,rest,rfl,List.forall_mem_nil _,hits⟩
    · exact ⟨item :: before,hit,after,rfl,List.forall_mem_cons.mpr ⟨here,passed⟩,hits⟩

end Reaches

section Heard

variable (flow : UInt64) (hit : Bytes → CompletionRecord → Prop)

def PassesRecord (payload : Bytes) (entry : CompletionRecord × FlowStateAnswer) : Prop :=
  ¬hit payload entry.1 ∧ ¬(entry.1.type = .flowStateChanged ∧ entry.1.flow = flow)

def ReceiveAnswer.Succeeds (answer : ReceiveAnswer) : Prop := failed answer.rc = false ∧ answer.status = .success

def PassesAnswer (answer : ReceiveAnswer) : Prop :=
  answer.Succeeds ∧ ∀ entry ∈ answer.completions, PassesRecord flow hit answer.payload entry

def HitsAnswer (answer : ReceiveAnswer) : Prop :=
  answer.Succeeds ∧ Reaches (PassesRecord flow hit answer.payload) (fun entry => hit answer.payload entry.1)
    answer.completions

/-- The queue is read until it is empty, and nothing in it ends the wait. -/
def Drained : List ReceiveAnswer → Prop
  | [] => True
  | answer :: rest =>
    (failed answer.rc = false ∧ answer.status = .queueEmpty) ∨ PassesAnswer flow hit answer ∧ Drained rest

def WaitTurn.Woken (deadline : UInt64) (turn : WaitTurn) : Prop := turn.tested < deadline ∧ failed turn.waitRc = false

def Heard (deadline : UInt64) : List WaitTurn → Prop :=
  Reaches (fun turn => turn.Woken deadline ∧ Drained flow hit turn.receives)
    fun turn => turn.Woken deadline ∧ Reaches (PassesAnswer flow hit) (HitsAnswer flow hit) turn.receives

end Heard

/-- The datagram that an echo wait looks for, whole and on the flow. -/
def EchoHit (flow : UInt64) (expected payload : Bytes) (completion : CompletionRecord) : Prop :=
  completion.type = .inboundUdpDatagram ∧ completion.flow = flow ∧ completion.received payload = some expected

def WritableHit (flow : UInt64) (_ : Bytes) (completion : CompletionRecord) : Prop :=
  completion.type = .writable ∧ completion.flow = flow

def WaitScript.deadline (script : WaitScript) (timeoutMs : UInt32) : UInt64 :=
  deadlineAfterMilliseconds script.frequency script.start timeoutMs

def EchoHeard (flow : UInt64) (expected : Bytes) (timeoutMs : UInt32) (script : WaitScript) : Prop :=
  Heard flow (EchoHit flow expected) (script.deadline timeoutMs) script.turns

def WritableHeard (flow : UInt64) (timeoutMs : UInt32) (script : WaitScript) : Prop :=
  Heard flow (WritableHit flow) (script.deadline timeoutMs) script.turns

/-- A part of a wait that reports exactly if it hits, and goes on exactly if all is passed over. -/
structure Sought (reported : CompletionWaitResult → Bool) (passes hits : Prop)
    (x : Except CompletionWaitResult WaitState) : Prop where
  reports : (∃ result, x = .error result ∧ reported result = true) ↔ hits
  goesOn : (∃ next, x = .ok next) ↔ passes
  silent : ∀ next, x = .ok next → reported next.result = false

section Sought

variable {reported : CompletionWaitResult → Bool} {passes hits later found : Prop}

theorem sought_error {result : CompletionWaitResult} : Sought reported False (reported result = true) (.error result) where
  reports := by
    constructor
    · rintro ⟨_,same,holds⟩
      cases same
      exact holds
    · exact fun holds => ⟨result,rfl,holds⟩
  goesOn := iff_of_false (fun ⟨_,same⟩ => by cases same) id
  silent _ same := by cases same

theorem sought_ok {s : WaitState} (unreported : reported s.result = false) : Sought reported True False (.ok s) where
  reports := iff_of_false (fun ⟨_,same,_⟩ => by cases same) id
  goesOn := iff_of_true ⟨s,rfl⟩ trivial
  silent _ same := by
    cases same
    exact unreported

theorem Sought.congr {x : Except CompletionWaitResult WaitState} (sought : Sought reported passes hits x)
    (passes_iff : passes ↔ later) (hits_iff : hits ↔ found) : Sought reported later found x :=
  ⟨sought.reports.trans hits_iff,sought.goesOn.trans passes_iff,sought.silent⟩

theorem Sought.of_error {result : CompletionWaitResult} (sought : Sought reported passes hits (.error result)) :
    ¬passes ∧ (reported result = true ↔ hits) := by
  refine ⟨fun goes => ?_,fun holds => sought.reports.mp ⟨result,rfl,holds⟩,fun hit => ?_⟩
  · obtain ⟨_,same⟩ := sought.goesOn.mpr goes
    cases same
  · obtain ⟨_,same,holds⟩ := sought.reports.mpr hit
    cases same
    exact holds

theorem Sought.of_ok {s : WaitState} (sought : Sought reported passes hits (.ok s)) : passes ∧ ¬hits := by
  refine ⟨sought.goesOn.mp ⟨s,rfl⟩,fun hit => ?_⟩
  obtain ⟨_,same,_⟩ := sought.reports.mpr hit
  cases same

theorem Sought.bind {x : Except CompletionWaitResult WaitState}
    {f : WaitState → Except CompletionWaitResult WaitState} (first : Sought reported passes hits x)
    (rest : ∀ next, reported next.result = false → Sought reported later found (f next)) :
    Sought reported (passes ∧ later) (hits ∨ passes ∧ found) (x >>= f) := by
  cases x with
  | error result =>
    obtain ⟨ended,told⟩ := first.of_error
    exact sought_error.congr (iff_of_false id fun both => ended both.1)
      (told.trans (or_iff_left fun both => ended both.1).symm)
  | ok next =>
    obtain ⟨goes,unheard⟩ := first.of_ok
    exact (rest next (first.silent next rfl)).congr (and_iff_right goes).symm
      ((or_iff_right unheard).trans (and_iff_right goes)).symm

theorem sought_foldlM {Passes Hits : α → Prop} {step : WaitState → α → Except CompletionWaitResult WaitState}
    (each : ∀ s item, reported s.result = false → Sought reported (Passes item) (Hits item) (step s item))
    {s : WaitState} (unreported : reported s.result = false) (items : List α) :
    Sought reported (∀ item ∈ items, Passes item) (Reaches Passes Hits items) (items.foldlM step s) := by
  induction items generalizing s with
  | nil => exact (sought_ok unreported).congr (by simp) (iff_of_false id not_reaches_nil)
  | cons item rest ih =>
    rw [List.foldlM_cons]
    exact ((each s item unreported).bind fun next => ih).congr List.forall_mem_cons.symm reaches_cons.symm

end Sought

/-- A loop that reports only at records, and there as its goal asks. -/
structure WaitLoop.Seeks (loop : WaitLoop) (reported : CompletionWaitResult → Bool) (flow : UInt64)
    (hit : Bytes → CompletionRecord → Prop) : Prop where
  batch : ∀ (s : WaitState) completions payload, reported s.result = false →
    Sought reported (∀ entry ∈ completions, PassesRecord flow hit payload entry)
      (Reaches (PassesRecord flow hit payload) (fun entry => hit payload entry.1) completions)
      (loop.batch s completions payload)
  ended : ∀ result terminal serviceLost rc detail,
    reported { result with terminal, serviceLost, rc, detail } = reported result
  woken : ∀ result wakeCount, reported { result with wakeCount } = reported result
  waitFailed : ∀ result rc, reported (loop.waitFailed result rc) = reported result
  expired : ∀ result, reported (loop.expired result) = reported result

section Loops

variable {loop : WaitLoop} {reported : CompletionWaitResult → Bool} {flow : UInt64}
  {hit : Bytes → CompletionRecord → Prop}

theorem not_reaches_of_fails {answer : ReceiveAnswer} {rest : List ReceiveAnswer} (fails : ¬answer.Succeeds) :
    ¬Reaches (PassesAnswer flow hit) (HitsAnswer flow hit) (answer :: rest) := by
  rw [reaches_cons]
  rintro (hits | ⟨passes,_⟩)
  · exact fails hits.1
  · exact fails passes.1

theorem not_heard_of_asleep {deadline : UInt64} {turn : WaitTurn} {rest : List WaitTurn} (asleep : ¬turn.Woken deadline) :
    ¬Heard flow hit deadline (turn :: rest) := by
  rw [Heard,reaches_cons]
  rintro (hits | later)
  · exact asleep hits.1
  · exact asleep later.1.1

theorem sought_missed {s : WaitState} {payload : Bytes} {entry : CompletionRecord × FlowStateAnswer}
    (unreported : reported s.result = false) (missed : ¬hit payload entry.1)
    (other : ¬(entry.1.type = .flowStateChanged ∧ entry.1.flow = flow)) :
    Sought reported (PassesRecord flow hit payload entry) (hit payload entry.1) (.ok s) :=
  (sought_ok unreported).congr (iff_of_true trivial ⟨missed,other⟩) (iff_of_false id missed)

theorem sought_drain (seeks : loop.Seeks reported flow hit) {s : WaitState} (unreported : reported s.result = false)
    (receives : List ReceiveAnswer) : Sought reported (Drained flow hit receives)
      (Reaches (PassesAnswer flow hit) (HitsAnswer flow hit) receives) (loop.drain s receives) := by
  induction receives generalizing s with
  | nil => exact (sought_ok unreported).congr (by simp [Drained]) (iff_of_false id not_reaches_nil)
  | cons answer rest ih =>
    rw [WaitLoop.drain]
    have silent (terminal serviceLost rc detail) :
        ¬reported { s.result with terminal, serviceLost, rc, detail } = true := by
      rw [seeks.ended,unreported]
      exact Bool.false_ne_true
    split
    next fails =>
      have none_ : ¬answer.Succeeds := fun succeeds => by simp [succeeds.1] at fails
      refine sought_error.congr (iff_of_false id ?_)
        (iff_of_false (silent true true answer.rc _) (not_reaches_of_fails none_))
      rintro (⟨succeeds,_⟩ | ⟨passes,_⟩)
      · simp [succeeds] at fails
      · exact none_ passes.1
    next succeeds =>
      have succeeds := Bool.eq_false_iff.mpr succeeds
      split
      next empty =>
        have none_ : ¬answer.Succeeds := fun succeeds => by simp [succeeds.2] at empty
        exact (sought_ok unreported).congr (iff_of_true trivial (.inl ⟨succeeds,empty⟩))
          (iff_of_false id (not_reaches_of_fails none_))
      next nonempty =>
        split
        next refused =>
          have none_ : ¬answer.Succeeds := fun succeeds => refused succeeds.2
          refine sought_error.congr (iff_of_false id ?_)
            (iff_of_false (silent s.result.terminal s.result.serviceLost s.result.rc _) (not_reaches_of_fails none_))
          rintro (⟨_,empty⟩ | ⟨passes,_⟩)
          · exact nonempty empty
          · exact none_ passes.1
        next success =>
          have here : answer.Succeeds := ⟨succeeds,not_not.mp success⟩
          have sought : Sought reported (Drained flow hit (answer :: rest))
              (Reaches (PassesAnswer flow hit) (HitsAnswer flow hit) (answer :: rest))
              (loop.batch s answer.completions answer.payload >>= fun s => loop.drain s rest) :=
            ((seeks.batch s answer.completions answer.payload unreported).bind fun next => ih).congr
              (by simp [Drained,PassesAnswer,here,nonempty]) (by simp [reaches_cons,HitsAnswer,PassesAnswer,here])
          cases run : loop.batch s answer.completions answer.payload with
          | error result =>
            rw [run] at sought
            exact sought
          | ok next =>
            rw [run] at sought
            exact sought

theorem turns_reported (seeks : loop.Seeks reported flow hit) (frequency deadline : UInt64) {s : WaitState}
    (unreported : reported s.result = false) (turns : List WaitTurn) :
    reported (loop.turns frequency deadline s turns).result = true ↔ Heard flow hit deadline turns := by
  induction turns generalizing s with
  | nil =>
    rw [WaitLoop.turns,seeks.expired,unreported]
    exact iff_of_false Bool.false_ne_true not_reaches_nil
  | cons turn rest ih =>
    rw [WaitLoop.turns]
    split
    next early =>
      dsimp only
      split
      next fails =>
        have asleep : ¬turn.Woken deadline := fun woken => by simp [woken.2] at fails
        rw [seeks.waitFailed,unreported]
        exact iff_of_false Bool.false_ne_true (not_heard_of_asleep asleep)
      next wakes =>
        have woken : turn.Woken deadline := ⟨early,Bool.eq_false_iff.mpr wakes⟩
        have sought := sought_drain seeks (s := { s with result.wakeCount := s.result.wakeCount + 1 })
          ((seeks.woken s.result _).trans unreported) turn.receives
        cases run : loop.drain { s with result.wakeCount := s.result.wakeCount + 1 } turn.receives with
        | error result =>
          rw [run] at sought
          obtain ⟨ended,told⟩ := sought.of_error
          simpa [Heard,reaches_cons,woken,ended] using told
        | ok next =>
          rw [run] at sought
          obtain ⟨drained,unheard⟩ := sought.of_ok
          simpa [Heard,reaches_cons,woken,drained,unheard] using ih (sought.silent next rfl)
    next late =>
      have asleep : ¬turn.Woken deadline := fun woken => late woken.1
      rw [seeks.expired,unreported]
      exact iff_of_false Bool.false_ne_true (not_heard_of_asleep asleep)

end Loops

theorem echo_seeks (api : TunnelApi) (flow : UInt64) (expected : Bytes) :
    ((WaitGoal.echo expected).loop api flow).Seeks (·.receivedExpected) flow (EchoHit flow expected) where
  batch s completions payload unreported := by
    refine sought_foldlM (fun s entry unreported => ?_) unreported completions
    have ignored : s.ignore.result.receivedExpected = false := unreported
    unfold echoCompletion
    split
    next closing =>
      refine sought_error.congr (iff_of_false id fun passes => passes.2 closing) (iff_of_false ?_ ?_)
      · simpa [flowTerminal] using unreported
      · intro hits
        simp [hits.1] at closing
    next other =>
      split
      next foreign =>
        have missed : ¬EchoHit flow expected payload entry.1 := fun hits =>
          foreign.elim (fun type => type hits.1) fun own => own hits.2.1
        exact sought_missed ignored missed other
      next inbound =>
        obtain ⟨type,own⟩ := not_or.mp inbound
        split
        next outside =>
          have missed : ¬EchoHit flow expected payload entry.1 := fun hits => by simp [hits.2.2] at outside
          exact sought_missed ignored missed other
        next received inside =>
          split
          next same =>
            have hits : EchoHit flow expected payload entry.1 := ⟨not_not.mp type,not_not.mp own,same ▸ inside⟩
            exact sought_error.congr (iff_of_false id fun passes => passes.1 hits) (iff_of_true rfl hits)
          next differs =>
            have missed : ¬EchoHit flow expected payload entry.1 := fun hits =>
              differs (Option.some.inj (inside.symm.trans hits.2.2))
            exact sought_missed ignored missed other
  ended _ _ _ _ _ := rfl
  woken _ _ := rfl
  waitFailed _ _ := rfl
  expired _ := rfl

theorem writable_seeks (api : TunnelApi) (flow : UInt64) :
    (WaitGoal.writable.loop api flow).Seeks (·.writable) flow (WritableHit flow) where
  batch s completions payload unreported := by
    refine sought_foldlM (fun s entry unreported => ?_) unreported completions
    have ignored : s.ignore.result.writable = false := unreported
    unfold writableCompletion
    split
    next closing =>
      refine sought_error.congr (iff_of_false id fun passes => passes.2 closing) (iff_of_false ?_ ?_)
      · simpa [flowTerminal] using unreported
      · intro hits
        simp [hits.1] at closing
    next other =>
      split
      next hits => exact sought_error.congr (iff_of_false id fun passes => passes.1 hits) (iff_of_true rfl hits)
      next missed => exact sought_missed ignored missed other
  ended _ _ _ _ _ := rfl
  woken _ _ := rfl
  waitFailed _ _ := rfl
  expired _ := rfl

variable {api : TunnelApi} {flow : UInt64} {timeoutMs : UInt32} {script : WaitScript}

theorem echo_received_iff {expected : Bytes} :
    ((WaitGoal.echo expected).result api flow timeoutMs script).receivedExpected = true ↔
      EchoHeard flow expected timeoutMs script :=
  turns_reported (echo_seeks api flow expected) script.frequency (script.deadline timeoutMs) rfl script.turns

theorem writable_reported_iff :
    (WaitGoal.writable.result api flow timeoutMs script).writable = true ↔ WritableHeard flow timeoutMs script :=
  turns_reported (writable_seeks api flow) script.frequency (script.deadline timeoutMs) rfl script.turns

end NxReverse.Toolbox
