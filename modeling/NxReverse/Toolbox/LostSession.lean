import NxReverse.Toolbox.FlowLeak
import NxReverse.Toolbox.WaitReports

/-! Client sessions of the tunnel service behind a failure that shows the service lost: in which runs a
scenario sends no further command through such a session. -/
namespace NxReverse.Toolbox

open Text Words Program

/-- The client session that a command goes through; that a session is opened or closed is none of its
commands. -/
def TunnelCommand.session : TunnelCommand → Option Nat
  | cloneTunnelClient client _ | getCapabilities client | getRoutingPolicySnapshot client
  | getCompletionEvent client | openConnectedFlow client _ | closeFlow client _ | getFlowState client _
  | sendUdpDatagram client _ _ | sendUdpDatagramBatch client _ _ | writeTcpStream client _ _
  | shutdownTcpWrite client _ | waitFor client _ _ _ => some client
  | queryServiceAvailability | openRoot | getTunCapabilities | openTunnelClient _ | closeClient _
  | sleepMilliseconds _ => none

/-- The results of what is sent, in order; where a failure does not show the service lost it is 0. -/
def serviceResults (api : TunnelApi) : TunnelExchange → List UInt32
  | ⟨.closeFlow _ _,answer⟩ => [answer.rc]
  | ⟨.getFlowState _ _,answer⟩ => [answer.rc]
  | ⟨.sendUdpDatagram _ _ _,answer⟩ => [answer.rc]
  | ⟨.sendUdpDatagramBatch _ _ _,answer⟩ => [answer.rc]
  | ⟨.writeTcpStream _ _ _,answer⟩ => [answer.rc]
  | ⟨.shutdownTcpWrite _ _,answer⟩ => [answer.rc]
  | ⟨.waitFor _ flow goal timeoutMs,script⟩ => goal.commandResults api flow timeoutMs script
  | _ => [0]

theorem any_serviceResults (api : TunnelApi) (e : TunnelExchange) :
    (serviceResults api e).any failed = losesService api e := by
  obtain ⟨command,answer⟩ := e
  cases command with
  | closeFlow | getFlowState | sendUdpDatagram | sendUdpDatagramBatch | writeTcpStream | shutdownTcpWrite =>
    exact Bool.or_false _
  | waitFor => rfl
  | _ => rfl

section Sessions

variable (api : TunnelApi)

def resultsOn (client : Nat) (trace : List TunnelExchange) : List UInt32 :=
  trace.flatMap fun e => if e.command.session = some client then serviceResults api e else []

/-- Through no session anything is sent behind a failure that shows the service lost. -/
def LeavesLost (trace : List TunnelExchange) : Prop := ∀ client, FailsLast (resultsOn api client trace)

variable {api} {client : Nat} {e : TunnelExchange} {trace rest first second : List TunnelExchange}

theorem resultsOn_append : resultsOn api client (first ++ second) = resultsOn api client first ++ resultsOn api client second :=
  List.flatMap_append

theorem resultsOn_cons_here (here : e.command.session = some client) :
    resultsOn api client (e :: rest) = serviceResults api e ++ resultsOn api client rest := by
  rw [resultsOn,List.flatMap_cons,if_pos here]
  rfl

theorem resultsOn_cons_other (other : e.command.session ≠ some client) :
    resultsOn api client (e :: rest) = resultsOn api client rest := by
  rw [resultsOn,List.flatMap_cons,if_neg other]
  rfl

theorem resultsOn_other (other : ∀ e ∈ trace, e.command.session ≠ some client) : resultsOn api client trace = [] := by
  induction trace with
  | nil => rfl
  | cons e rest ih =>
    rw [List.forall_mem_cons] at other
    exact (resultsOn_cons_other other.1).trans (ih other.2)

theorem unfailed_serviceResults : Unfailed (serviceResults api e) ↔ losesService api e = false := by
  rw [← any_serviceResults,List.any_eq_false]
  simp [Unfailed]

theorem unfailed_resultsOn (keeps : ∀ e ∈ trace, losesService api e = false) : Unfailed (resultsOn api client trace) := by
  induction trace with
  | nil => exact unfailed_nil
  | cons e rest ih =>
    rw [List.forall_mem_cons] at keeps
    by_cases here : e.command.session = some client
    · rw [resultsOn_cons_here here]
      exact (unfailed_serviceResults.mpr keeps.1).append (ih keeps.2)
    · rw [resultsOn_cons_other here]
      exact ih keeps.2

end Sessions

theorem FailsLast.tail {first second : List UInt32} (last : FailsLast (first ++ second)) : FailsLast second := by
  rintro before rc after rfl fails
  exact last (first ++ before) rc after (List.append_assoc ..).symm fails

theorem failsLast_append_unfailed {first second : List UInt32} (unfailed : Unfailed first) :
    FailsLast (first ++ second) ↔ FailsLast second :=
  ⟨FailsLast.tail,FailsLast.behind unfailed⟩

/-- What is followed by anything must not fail. -/
theorem failsLast_append {first second : List UInt32} (some : second ≠ []) :
    FailsLast (first ++ second) ↔ Unfailed first ∧ FailsLast second := by
  refine ⟨fun last => ⟨fun rc member => ?_,last.tail⟩,fun both => both.2.behind both.1⟩
  obtain ⟨before,after,rfl⟩ := List.append_of_mem member
  cases fails : failed rc with
  | false => rfl
  | true =>
    have nothing := last before rc (after ++ second) (by simp) fails
    exact absurd (List.append_eq_nil_iff.mp nothing).2 some

section Judged

/-- Lost sessions are left if and only if only `Harmless` exchanges show the service lost. -/
def Judged (api : TunnelApi) (Harmless : TunnelExchange → Prop) (trace : List TunnelExchange) : Prop :=
  LeavesLost api trace ↔ ∀ e ∈ trace, losesService api e = true → Harmless e

variable {api : TunnelApi} {Harmless : TunnelExchange → Prop} {client : Nat} {e : TunnelExchange}
  {rest first second : List TunnelExchange}

theorem Judged.leaves (judged : Judged api Harmless rest) : LeavesLost api rest ↔ ∀ e ∈ rest, losesService api e = true → Harmless e := judged

theorem judged_nil : Judged api Harmless [] :=
  ⟨fun _ => List.forall_mem_nil _,fun _ _ => unfailed_nil.failsLast⟩

theorem Judged.kept (judged : Judged api Harmless rest) (keeps : losesService api e = false) :
    Judged api Harmless (e :: rest) := by
  have good : losesService api e = true → Harmless e := fun loses => Bool.noConfusion (keeps.symm.trans loses)
  rw [Judged,List.forall_mem_cons,← judged.leaves,and_iff_right good]
  refine forall_congr' fun client => ?_
  by_cases here : e.command.session = some client
  · rw [resultsOn_cons_here here]
    exact failsLast_append_unfailed (unfailed_serviceResults.mpr keeps)
  · rw [resultsOn_cons_other here]

/-- Nothing more is sent through the session. -/
theorem Judged.last (judged : Judged api Harmless rest) (session : e.command.session = some client)
    (nothing : resultsOn api client rest = []) (last : FailsLast (serviceResults api e)) (harmless : Harmless e) :
    Judged api Harmless (e :: rest) := by
  rw [Judged,List.forall_mem_cons,← judged.leaves,and_iff_right fun _ => harmless]
  refine forall_congr' fun other => ?_
  by_cases here : e.command.session = some other
  · obtain rfl : client = other := Option.some.inj (session.symm.trans here)
    rw [resultsOn_cons_here here,nothing,List.append_nil]
    exact iff_of_true last unfailed_nil.failsLast
  · rw [resultsOn_cons_other here]

/-- More is sent through the session. -/
theorem Judged.followed (judged : Judged api Harmless rest) (session : e.command.session = some client)
    (some : resultsOn api client rest ≠ []) (harmful : ¬Harmless e) :
    Judged api Harmless (e :: rest) := by
  have good : (losesService api e = true → Harmless e) ↔ losesService api e = false := by simp [harmful]
  rw [Judged,List.forall_mem_cons,← judged.leaves,good,← unfailed_serviceResults]
  refine ⟨fun leaves => ?_,fun both other => ?_⟩
  · have here := leaves client
    rw [resultsOn_cons_here session,failsLast_append some] at here
    refine ⟨here.1,fun other => ?_⟩
    by_cases same : e.command.session = .some other
    · obtain rfl : client = other := Option.some.inj (session.symm.trans same)
      exact here.2
    · have later := leaves other
      rwa [resultsOn_cons_other same] at later
  · by_cases same : e.command.session = .some other
    · rw [resultsOn_cons_here same]
      exact (both.2 other).behind both.1
    · rw [resultsOn_cons_other same]
      exact both.2 other

/-- Two parts that share no session. -/
theorem Judged.append (judged : Judged api Harmless first) (later : Judged api Harmless second)
    (apart : ∀ client, resultsOn api client first = [] ∨ resultsOn api client second = []) :
    Judged api Harmless (first ++ second) := by
  rw [Judged,List.forall_mem_append,← judged.leaves,← later.leaves]
  refine ⟨fun leaves => ⟨fun client => ?_,fun client => ?_⟩,fun both client => ?_⟩
  · have whole := leaves client
    rw [resultsOn_append] at whole
    rcases apart client with none | none
    · rw [none]
      exact unfailed_nil.failsLast
    · rwa [none,List.append_nil] at whole
  · have whole := leaves client
    rw [resultsOn_append] at whole
    exact whole.tail
  · rw [resultsOn_append]
    rcases apart client with none | none
    · rw [none]
      exact both.2 client
    · rw [none,List.append_nil]
      exact both.1 client

/-- A part of a run whose last command through the session `client` is behind all that could fail. -/
structure Ended (api : TunnelApi) (Harmless : TunnelExchange → Prop) (client : Nat) (trace : List TunnelExchange) : Prop where
  judged : Judged api Harmless trace
  sends : resultsOn api client trace ≠ []

theorem Ended.behind (ended : Ended api Harmless client rest) (session : e.command.session = some client)
    (harmful : ¬Harmless e) : Ended api Harmless client (e :: rest) where
  judged := ended.judged.followed session ended.sends harmful
  sends := by
    rw [resultsOn_cons_here session]
    exact fun nothing => ended.sends (List.append_eq_nil_iff.mp nothing).2

variable {command : TunnelCommand} {next : command.Answer → TunnelProgram α}

theorem ended_call (session : command.session = some client) (harmful : ∀ answer, ¬Harmless ⟨command,answer⟩)
    (later : ∀ answer, (next answer).Ensures fun trace _ => Ended api Harmless client trace) :
    (ask command >>= next).Ensures fun trace _ => Ended api Harmless client trace :=
  ensures_perform_bind.mpr fun answer => (later answer).mono fun _ _ ended => ended.behind session (harmful answer)

theorem judged_pure {value : α} : (pure value : TunnelProgram α).Ensures fun trace _ => Judged api Harmless trace :=
  judged_nil

theorem judged_call (keeps : ∀ answer, losesService api ⟨command,answer⟩ = false)
    (later : ∀ answer, (next answer).Ensures fun trace _ => Judged api Harmless trace) :
    (ask command >>= next).Ensures fun trace _ => Judged api Harmless trace :=
  ensures_perform_bind.mpr fun answer => (later answer).mono fun _ _ judged => judged.kept (keeps answer)

/-- A failing `CloseFlow` is the last command of the exchange. -/
def Closing (e : TunnelExchange) : Prop := closesFlow e ≠ none

theorem ended_closeFlow {flow : UInt64} {answer : StatusResult} :
    Ended api Closing 0 [⟨.closeFlow 0 flow,answer⟩] where
  judged := judged_nil.last rfl rfl (failsLast_singleton answer.rc) (Option.some_ne_none flow)
  sends := List.cons_ne_nil _ _

theorem exchangeTcp_ended {capabilities : Capabilities} {workloadId : UInt32} {config : TcpScenarioConfig}
    {flow : UInt64} :
    (exchangeTcp api capabilities workloadId config flow).Ensures fun trace _ => Ended api Closing 0 trace := by
  have closing : ∀ result : ScenarioResult, (ask (.closeFlow 0 flow) >>= fun _ =>
      (pure result : TunnelProgram ScenarioResult)).Ensures fun trace _ => Ended api Closing 0 trace :=
    fun _ _ => ended_closeFlow
  have open_ : ∀ e : TunnelExchange, closesFlow e = none → ¬Closing e := fun _ none closes => closes none
  unfold exchangeTcp
  dsimp only
  refine ended_call rfl (fun _ => open_ _ rfl) fun script => ?_
  refine Ensures.ite (fun _ => closing _) fun _ => ?_
  refine ended_call rfl (fun _ => open_ _ rfl) fun state => ?_
  refine Ensures.ite (fun _ => closing _) fun _ => ?_
  refine Ensures.ite (fun _ => closing _) fun _ => ?_
  refine ended_call rfl (fun _ => open_ _ rfl) fun write => ?_
  refine Ensures.ite (fun _ => closing _) fun _ => ?_
  refine ended_call rfl (fun _ => open_ _ rfl) fun shutdown => ?_
  refine Ensures.ite (fun _ => closing _) fun _ => ?_
  refine ended_call rfl (fun _ => open_ _ rfl) fun script => ?_
  refine Ensures.ite (fun _ => closing _) fun _ => ?_
  rw [ensures_perform_bind]
  intro close
  split
  · exact ended_closeFlow
  · exact ended_closeFlow

theorem runWgnxTunnelTcpExchange_judged {profile : RuntimeProfile} {workloadId : UInt32} {config : TcpScenarioConfig} :
    (runWgnxTunnelTcpExchange api profile workloadId config).Ensures fun trace _ => Judged api Closing trace := by
  unfold runWgnxTunnelTcpExchange
  dsimp only
  refine judged_call (fun _ => rfl) fun availability => ?_
  refine Ensures.ite (fun _ => judged_pure) fun _ => ?_
  refine judged_call (fun _ => rfl) fun rc => ?_
  refine Ensures.ite (fun _ => judged_pure) fun _ => ?_
  refine judged_call (fun _ => rfl) fun capabilities => ?_
  refine Ensures.ite (fun _ => judged_pure) fun _ => ?_
  refine Ensures.ite (fun _ => judged_pure) fun _ => ?_
  refine Ensures.ite (fun _ => judged_pure) fun _ => ?_
  split
  · exact judged_pure
  refine judged_call (fun _ => rfl) fun rc => ?_
  refine Ensures.ite (fun _ => judged_pure) fun _ => ?_
  refine judged_call (fun _ => rfl) fun rc => ?_
  refine Ensures.ite (fun _ => judged_pure) fun _ => ?_
  refine judged_call (fun _ => rfl) fun opened => ?_
  refine Ensures.ite (fun _ => judged_pure) fun _ => ?_
  · exact exchangeTcp_ended.mono fun _ _ ended => ended.judged

def sendsOver : TunnelExchange → List UInt64
  | ⟨.sendUdpDatagram _ descriptor _,_⟩ => [descriptor.flow]
  | ⟨.sendUdpDatagramBatch _ descriptors _,_⟩ => descriptors.map PayloadRange.flow
  | _ => []

/-- `CloseFlow` of the client passes over a handle of 0. -/
def SendsNowhere (e : TunnelExchange) : Prop := ∀ flow ∈ sendsOver e, flow = 0

/-- Nothing that could lose the service or goes through another session. -/
def Calm (api : TunnelApi) (client : Nat) (e : TunnelExchange) : Prop :=
  losesService api e = false ∧ ∀ other, e.command.session = some other → other = client

def Outside (api : TunnelApi) (trace : List TunnelExchange) : Prop :=
  ∀ e ∈ trace, losesService api e = false ∧ e.command.session = none

theorem Outside.judged (outside : Outside api rest) : Judged api Harmless rest := by
  induction rest with
  | nil => exact judged_nil
  | cons e rest ih =>
    obtain ⟨here,behind⟩ := List.forall_mem_cons.mp outside
    exact (ih behind).kept here.1

theorem Outside.nothing (outside : Outside api rest) : resultsOn api client rest = [] := by
  apply resultsOn_other
  intro e member session
  cases (outside e member).2.symm.trans session

structure Part (api : TunnelApi) (client : Nat) (trace : List TunnelExchange) : Prop where
  judged : Judged api SendsNowhere trace
  own : ∀ e ∈ trace, ∀ other, e.command.session = some other → other = client

theorem Outside.part (outside : Outside api rest) : Part api client rest where
  judged := outside.judged
  own e member other session := by cases (outside e member).2.symm.trans session

theorem Part.calm (part : Part api client rest) (calm : ∀ e ∈ first, Calm api client e) : Part api client (first ++ rest) := by
  induction first with
  | nil => exact part
  | cons e first ih =>
    obtain ⟨here,behind⟩ := List.forall_mem_cons.mp calm
    have later := ih behind
    exact ⟨later.judged.kept here.1,List.forall_mem_cons.mpr ⟨here.2,later.own⟩⟩

theorem Outside.last (outside : Outside api rest) (session : e.command.session = some client)
    (last : FailsLast (serviceResults api e)) (harmless : SendsNowhere e) : Part api client (e :: rest) where
  judged := outside.judged.last session outside.nothing last harmless
  own := by
    refine List.forall_mem_cons.mpr ⟨fun other same => ?_,outside.part.own⟩
    exact Option.some.inj (same.symm.trans session)

section Parts

variable {α β : Type} {R : β → Prop} {config : TunnelUdpWorkloadConfig} {flow : UInt64}

def PartOf (api : TunnelApi) (client : Nat) (R : α → Prop) (p : TunnelProgram α) : Prop :=
  p.Ensures fun trace value => Part api client trace ∧ R value

theorem partOf_pure {value : β} (holds : R value) : PartOf api client R (pure value) :=
  ⟨Outside.part (List.forall_mem_nil _),holds⟩

theorem partOf_bind {p : TunnelProgram α} {f : α → TunnelProgram β}
    (calm : p.Ensures fun trace _ => ∀ e ∈ trace, Calm api client e) (later : ∀ value, PartOf api client R (f value)) :
    PartOf api client R (p >>= f) :=
  ensures_bind.mpr (calm.mono fun _ value here => (later value).mono fun _ _ behind => ⟨behind.1.calm here,behind.2⟩)

theorem partOf_call {command : TunnelCommand} {next : command.Answer → TunnelProgram β}
    (calm : ∀ answer, Calm api client ⟨command,answer⟩) (later : ∀ answer, PartOf api client R (next answer)) :
    PartOf api client R (ask command >>= next) :=
  partOf_bind (fun answer => List.forall_mem_singleton.mpr (calm answer)) later

theorem partOf_behind {p : TunnelProgram β} (calm : Calm api client e) (part : PartOf api client R p) :
    p.Ensures fun trace value => Part api client (e :: trace) ∧ R value :=
  part.mono fun _ _ behind => ⟨behind.1.calm (List.forall_mem_singleton.mpr calm),behind.2⟩

theorem loadEvent_calm : (loadEvent (opened client)).Ensures fun trace _ => ∀ e ∈ trace, Calm api client e := by
  have calm : ∀ rc, ∀ e ∈ [(⟨.getCompletionEvent client,rc⟩ : TunnelExchange)], Calm api client e := fun _ =>
    List.forall_mem_singleton.mpr ⟨rfl,fun _ same => (Option.some.inj same).symm⟩
  unfold loadEvent
  rw [ensures_perform_bind]
  intro rc
  split
  · exact calm rc
  · exact calm rc

theorem openRetained_outside (remaining : Nat) {first : Nat} :
    (openRetained remaining first).Ensures fun trace _ => Outside api trace := by
  induction remaining generalizing first with
  | zero => exact List.forall_mem_nil _
  | succ remaining ih =>
    unfold openRetained
    rw [ensures_perform_bind]
    intro rc
    split
    · exact List.forall_mem_singleton.mpr ⟨rfl,rfl⟩
    · exact ih.mono fun _ _ later => List.forall_mem_cons.mpr ⟨⟨rfl,rfl⟩,later⟩

theorem closeRetained_outside (remaining : Nat) {first : Nat} :
    (closeRetained remaining first).Ensures fun trace _ => Outside api trace := by
  induction remaining generalizing first with
  | zero => exact List.forall_mem_nil _
  | succ remaining ih =>
    intro answer
    exact ih.mono fun _ _ later => List.forall_mem_cons.mpr ⟨⟨rfl,rfl⟩,later⟩

theorem Outside.calm (outside : Outside api rest) : ∀ e ∈ rest, Calm api client e := by
  intro e member
  obtain ⟨keeps,none⟩ := outside e member
  exact ⟨keeps,fun other session => by cases none.symm.trans session⟩

/-- The close of the flow, behind which nothing goes through the session. -/
theorem partOf_closeFlow {f : Unit → TunnelProgram β}
    (later : (f ()).Ensures fun trace value => Outside api trace ∧ R value) :
    PartOf api client R (closeFlow (opened client) flow >>= f) := by
  unfold closeFlow
  split
  · exact later.mono fun _ _ behind => ⟨behind.1.part,behind.2⟩
  · intro answer
    refine later.mono fun _ _ behind => ⟨behind.1.last rfl (failsLast_singleton answer.rc) ?_,behind.2⟩
    exact List.forall_mem_nil _

/-- The exit behind a payload that was sent: it is closed even when the service was lost with it. -/
theorem partOf_sent {command : TunnelCommand} {answer : command.Answer} {result : UInt32} {value : β}
    (session : command.session = some client) (single : serviceResults api ⟨command,answer⟩ = [result])
    (over_ : SendsNowhere ⟨command,answer⟩ ↔ flow = 0) (holds : R value) :
    (closeFlow (opened client) flow >>= fun _ => pure value : TunnelProgram β).Ensures fun trace value =>
      Part api client (⟨command,answer⟩ :: trace) ∧ R value := by
  have last : FailsLast (serviceResults api ⟨command,answer⟩) := by
    rw [single]
    exact failsLast_singleton result
  unfold closeFlow
  split
  next nowhere =>
    have zero : flow = 0 := by simpa [opened] using nowhere
    exact ⟨Outside.last (List.forall_mem_nil _) session last (over_.mpr zero),holds⟩
  next somewhere =>
    have harmful : ¬SendsNowhere ⟨command,answer⟩ := fun nowhere => somewhere (.inl (over_.mp nowhere))
    intro close
    have closed : Ended api SendsNowhere client [⟨.closeFlow client flow,close⟩] := by
      refine ⟨judged_nil.last rfl rfl (failsLast_singleton close.rc) (List.forall_mem_nil _),?_⟩
      rw [resultsOn_cons_here rfl]
      exact List.cons_ne_nil _ _
    refine ⟨⟨(closed.behind session harmful).judged,?_⟩,holds⟩
    refine List.forall_mem_cons.mpr ⟨fun other same => Option.some.inj (same.symm.trans session),?_⟩
    exact List.forall_mem_singleton.mpr fun other same => (Option.some.inj same).symm

/-- The echo: where it reports the service lost, nothing more may go through the session. -/
theorem partOf_contractEcho {f : CompletionWaitResult → TunnelProgram β}
    (present : ∀ echo, echo.serviceLost = false → PartOf api client R (f echo))
    (lost : ∀ echo, echo.serviceLost = true → echo.receivedExpected = false →
      (f echo).Ensures fun trace value => Outside api trace ∧ R value) :
    PartOf api client R (contractEcho api config (opened client) flow >>= f) := by
  intro script
  have told := WaitGoal.told api (.echo (expectedPayload config)) flow config.receiveDeadlineMs script
  let echo := (WaitGoal.echo (expectedPayload config)).result api flow config.receiveDeadlineMs script
  let e : TunnelExchange := ⟨.waitFor client flow (.echo (expectedPayload config)) config.receiveDeadlineMs,script⟩
  cases reports : echo.serviceLost with
  | false =>
    have unfailed : losesService api e = false := by
      refine unfailed_serviceResults.mp (by_contra fun fails => ?_)
      exact Bool.noConfusion (reports.symm.trans (told.shown (fun _ _ => rfl) fails))
    refine (present echo reports).mono fun trace value later => ⟨?_,later.2⟩
    exact later.1.calm (List.forall_mem_singleton.mpr ⟨unfailed,fun other same => (Option.some.inj same).symm⟩)
  | true =>
    have unheard : echo.receivedExpected = false := by
      cases received : echo.receivedExpected with
      | false => rfl
      | true => exact Bool.noConfusion ((told.reported (.inl received)).2.1.symm.trans reports)
    refine (lost echo reports unheard).mono fun trace value later => ⟨?_,later.2⟩
    exact later.1.last rfl told.failsLast (List.forall_mem_nil _)

theorem sendsNowhere_single {descriptor : PayloadRange} {payload : Bytes} {answer : PayloadResult} :
    SendsNowhere ⟨.sendUdpDatagram client descriptor payload,answer⟩ ↔ descriptor.flow = 0 :=
  List.forall_mem_singleton

theorem sendsNowhere_batch {payload : Bytes} {answer : PayloadBatchResult} :
    SendsNowhere ⟨.sendUdpDatagramBatch client (batchDescriptors api config flow) payload,answer⟩ ↔ flow = 0 := by
  simp [SendsNowhere,sendsOver,batchDescriptors]

/-- The client that the check of the clone leaves behind is a further one. -/
def Renewed (api : TunnelApi) (value : Except ContractFailure ScopedClient) : Prop :=
  ∀ later, value = .ok later → later = opened (2 + (api.maximumClientContexts - 1) + 1)

theorem renewed_error {failure : ContractFailure} : Renewed api (.error failure) := by
  intro later same
  cases same

theorem exchangeOverClone_part {primary : ScopedClient} :
    PartOf api 1 (Renewed api) (exchangeOverClone api config primary (opened 1) flow) := by
  have nothing : ∀ failure : ContractFailure, (pure (.error failure) : TunnelProgram (Except _ ScopedClient)).Ensures
      fun trace value => Outside api trace ∧ Renewed api value := fun failure => ⟨List.forall_mem_nil _,renewed_error⟩
  have outside : ∀ {command : TunnelCommand} {answer : command.Answer}, losesService api ⟨command,answer⟩ = false →
      command.session = none → Calm api 1 ⟨command,answer⟩ := by
    intro command answer keeps none
    exact ⟨keeps,fun other session => by cases none.symm.trans session⟩
  unfold exchangeOverClone
  dsimp only
  refine partOf_bind loadEvent_calm fun loaded => ?_
  cases loaded with
  | error failure => exact partOf_closeFlow (nothing failure)
  | ok =>
    dsimp only
    refine partOf_call (fun _ => outside rfl rfl) fun _ => ?_
    refine partOf_bind ((openRetained_outside _).mono fun _ _ outside => outside.calm) fun rc => ?_
    split
    · exact partOf_closeFlow (nothing _)
    refine partOf_call (fun _ => outside rfl rfl) fun capacityRc => ?_
    split
    · exact partOf_call (fun _ => outside rfl rfl) fun _ => partOf_closeFlow (nothing _)
    rw [PartOf,ensures_perform_bind]
    intro disposition
    split
    next fails => exact partOf_sent rfl rfl sendsNowhere_single renewed_error
    next sent =>
      have keeps : failed disposition.rc = false := Bool.eq_false_iff.mpr (not_or.mp sent).1
      have calm : Calm api 1 ⟨.sendUdpDatagram 1 ⟨flow,0,(expectedPayload config).length.toUInt32,0x434C4F4E⟩
          (expectedPayload config),disposition⟩ := ⟨keeps,fun other same => (Option.some.inj same).symm⟩
      refine partOf_behind calm (partOf_contractEcho (fun echo present => ?_) fun echo lost unheard => ?_)
      · rw [present]
        split
        · exact partOf_closeFlow (nothing _)
        apply partOf_closeFlow
        rw [ensures_perform_bind]
        intro closed
        rw [ensures_bind]
        apply (closeRetained_outside _).mono
        intro retained _ released
        rw [ensures_perform_bind]
        intro rc
        have trace : Outside api (⟨.closeClient 1,closed⟩ :: (retained ++
            [⟨.openTunnelClient (2 + (api.maximumClientContexts - 1) + 1),rc⟩])) :=
          List.forall_mem_cons.mpr ⟨⟨rfl,rfl⟩,List.forall_mem_append.mpr ⟨released,List.forall_mem_singleton.mpr ⟨rfl,rfl⟩⟩⟩
        split
        · exact ⟨trace,renewed_error⟩
        · exact ⟨trace,fun later same => (Except.ok.inj same).symm⟩
      · rw [lost,unheard]
        exact nothing _

theorem exchangeBatch_part :
    PartOf api client (fun _ => True) (exchangeBatch api config (opened client) flow) := by
  have nothing : ∀ outcome : Except ContractFailure Unit, (pure outcome : TunnelProgram _).Ensures
      fun trace _ => Outside api trace ∧ True := fun _ => ⟨List.forall_mem_nil _,trivial⟩
  unfold exchangeBatch
  dsimp only
  rw [PartOf,ensures_perform_bind]
  intro batch
  split
  next fails => exact partOf_sent rfl rfl sendsNowhere_batch trivial
  next sent =>
    have keeps : failed batch.rc = false := Bool.eq_false_iff.mpr (not_or.mp sent).1
    have calm : Calm api client ⟨.sendUdpDatagramBatch client (batchDescriptors api config flow) (payloadStorage api config),
        batch⟩ := ⟨keeps,fun other same => (Option.some.inj same).symm⟩
    refine partOf_behind calm (partOf_bind loadEvent_calm fun loaded => ?_)
    cases loaded with
    | error failure => exact partOf_closeFlow (nothing _)
    | ok =>
      refine partOf_contractEcho (fun echo present => ?_) fun echo lost unheard => ?_
      · rw [present,if_pos (by rfl)]
        apply partOf_closeFlow
        split
        · exact nothing _
        · exact nothing _
      · rw [lost,unheard]
        exact nothing _

theorem openFlow_calm {destination : Bytes} :
    (openFlow config destination (opened client)).Ensures fun trace _ => ∀ e ∈ trace, Calm api client e := by
  have calm : ∀ answer, ∀ e ∈ [(⟨.openConnectedFlow client (contractRequest config destination),answer⟩ : TunnelExchange)],
      Calm api client e := fun _ => List.forall_mem_singleton.mpr ⟨rfl,fun _ same => (Option.some.inj same).symm⟩
  unfold openFlow
  rw [ensures_perform_bind]
  intro answer
  split
  · exact calm answer
  · exact calm answer

theorem verifyMixedBatch_part {destination : Bytes} :
    PartOf api client (fun _ => True) (verifyMixedBatch api config destination (opened client)) := by
  unfold verifyMixedBatch
  refine partOf_bind openFlow_calm fun opened => ?_
  cases opened with
  | error failure => exact partOf_pure trivial
  | ok flow => exact exchangeBatch_part

/-- The check of the clone goes through the first two sessions. -/
theorem verifyClonedSessionLifetime_told {destination : Bytes} :
    (verifyClonedSessionLifetime api config destination (opened 0)).Ensures fun trace value =>
      Judged api SendsNowhere trace ∧ (∀ e ∈ trace, ∀ client, e.command.session = some client → client ≤ 1) ∧
      Renewed api value := by
  have through : ∀ {command : TunnelCommand} {answer : command.Answer} {first : Nat}, command.session = some first →
      first ≤ 1 → ∀ client, (⟨command,answer⟩ : TunnelExchange).command.session = some client → client ≤ 1 := by
    intro command answer first session low client same
    rwa [← Option.some.inj (session.symm.trans same)]
  unfold verifyClonedSessionLifetime
  rw [ensures_perform_bind]
  intro cloned
  split
  · exact ⟨judged_nil.kept rfl,List.forall_mem_singleton.mpr (through rfl (by decide)),renewed_error⟩
  rw [ensures_perform_bind]
  intro capabilities
  split
  · refine ⟨(judged_nil.kept rfl).kept rfl,?_,renewed_error⟩
    exact List.forall_mem_cons.mpr ⟨through rfl (by decide),List.forall_mem_singleton.mpr (through rfl (by decide))⟩
  rw [ensures_bind]
  apply openFlow_calm.mono
  intro flowTrace value calm
  have behind : ∀ {later : List TunnelExchange}, Judged api SendsNowhere later →
      (∀ e ∈ later, ∀ client, e.command.session = some client → client ≤ 1) →
      Judged api SendsNowhere (⟨.cloneTunnelClient 0 1,cloned⟩ :: ⟨.getCapabilities 1,capabilities⟩ :: (flowTrace ++ later)) ∧
      ∀ e ∈ (⟨.cloneTunnelClient 0 1,cloned⟩ :: ⟨.getCapabilities 1,capabilities⟩ :: (flowTrace ++ later) : List TunnelExchange),
        ∀ client, e.command.session = some client → client ≤ 1 := by
    intro later judged own
    have kept : ∀ prior : List TunnelExchange, (∀ e ∈ prior, Calm api 0 e) → Judged api SendsNowhere (prior ++ later) := by
      intro prior calm
      induction prior with
      | nil => exact judged
      | cons e prior ih =>
        obtain ⟨here,behind⟩ := List.forall_mem_cons.mp calm
        exact (ih behind).kept here.1
    refine ⟨((kept flowTrace calm).kept rfl).kept rfl,List.forall_mem_cons.mpr ⟨through rfl (by decide),?_⟩⟩
    refine List.forall_mem_cons.mpr ⟨through rfl (by decide),List.forall_mem_append.mpr ⟨fun e member client same => ?_,own⟩⟩
    rw [(calm e member).2 client same]
    exact Nat.zero_le 1
  cases value with
  | error failure =>
    obtain ⟨judged,own⟩ := behind judged_nil (List.forall_mem_nil _)
    exact ⟨judged,own,renewed_error⟩
  | ok flow =>
    apply exchangeOverClone_part.mono
    rintro later value ⟨part,renewed⟩
    obtain ⟨judged,own⟩ := behind part.judged fun e member client same => Nat.le_of_eq (part.own e member client same)
    exact ⟨judged,own,renewed⟩

theorem validateContract_judged {contract : TunnelContractValidationConfig} {destination : Bytes} :
    (validateContract api config contract destination).Ensures fun trace _ => Judged api SendsNowhere trace := by
  have batch : ∀ client, PartOf api client (fun _ => True) (if contract.verifyMixedBatch then
      verifyMixedBatch api config destination (opened client) else pure (.ok ())) := by
    intro client
    split
    · exact verifyMixedBatch_part
    · exact partOf_pure trivial
  unfold validateContract
  dsimp only
  split
  · rw [ensures_bind]
    apply verifyClonedSessionLifetime_told.mono
    rintro first value ⟨judged,own,renewed⟩
    cases value with
    | error failure =>
      rw [ensures_pure,List.append_nil]
      exact judged
    | ok primary =>
      rw [renewed primary rfl]
      apply (batch _).mono
      rintro second _ ⟨part,_⟩
      refine judged.append part.judged fun client => ?_
      by_cases low : client ≤ 1
      · refine .inr (resultsOn_other fun e member same => ?_)
        have high := part.own e member client same
        omega
      · exact .inl (resultsOn_other fun e member same => low (own e member client same))
  · exact (batch 0).mono fun _ _ told => told.1.judged

theorem runWgnxTunnelContractValidation_judged {contract : TunnelContractValidationConfig} :
    (runWgnxTunnelContractValidation api config contract).Ensures fun trace _ => Judged api SendsNowhere trace := by
  unfold runWgnxTunnelContractValidation
  dsimp only
  refine Ensures.ite (fun _ => judged_pure) fun _ => ?_
  refine judged_call (fun _ => rfl) fun availability => ?_
  refine Ensures.ite (fun _ => judged_pure) fun _ => ?_
  refine Ensures.ite (fun _ => judged_pure) fun _ => ?_
  split
  · exact judged_pure
  refine judged_call (fun _ => rfl) fun rc => ?_
  refine Ensures.ite (fun _ => judged_pure) fun _ => ?_
  refine judged_call (fun _ => rfl) fun capabilities => ?_
  refine Ensures.ite (fun _ => judged_pure) fun _ => ?_
  refine Ensures.ite (fun _ => judged_pure) fun _ => ?_
  refine judged_call (fun _ => rfl) fun rc => ?_
  refine Ensures.ite (fun _ => judged_pure) fun _ => ?_
  rw [ensures_bind]
  apply validateContract_judged.mono
  intro trace outcome judged
  cases outcome with
  | error failure =>
    rw [ensures_pure,List.append_nil]
    exact judged
  | ok =>
    rw [ensures_pure,List.append_nil]
    exact judged

end Parts

end Judged

def closeResult : TunnelExchange → Option UInt32
  | ⟨.closeFlow _ _,answer⟩ => some answer.rc
  | _ => none

/-- The flow that an open call adds to the scenario's own. -/
def usableFlow : TunnelExchange → Option UInt64
  | ⟨.openConnectedFlow _ _,answer⟩ =>
    if failed answer.rc ∨ answer.status ≠ .success ∨ answer.advertisedPort = 0 then none else some answer.flow
  | _ => none

/-- Only the `CloseFlow` of the last opened flow fails. -/
def OnlyLastCloseFails (trace : List TunnelExchange) : Prop :=
  ∀ index rc, (trace.filterMap closeResult)[index]? = some rc → failed rc = true →
    index + 1 = (trace.filterMap usableFlow).length

theorem failsLast_iff_getElem? {results : List UInt32} : FailsLast results ↔
    ∀ index rc, results[index]? = some rc → failed rc = true → index + 1 = results.length := by
  refine ⟨fun last index rc present fails => ?_,fun indexed before rc after same fails => ?_⟩
  · obtain ⟨inside,at_⟩ := List.getElem?_eq_some_iff.mp present
    have nothing := last (results.take index) rc (results.drop (index + 1))
      (by rw [← at_,← List.drop_eq_getElem_cons inside,List.take_append_drop]) fails
    have ended := List.drop_eq_nil_iff.mp nothing
    omega
  · have last := indexed before.length rc (by rw [same,List.getElem?_append_right (Nat.le_refl _),Nat.sub_self,List.getElem?_cons_zero]) fails
    rw [same,List.length_append,List.length_cons] at last
    exact List.length_eq_zero_iff.mp (by omega)

section Udp

variable {api : TunnelApi} {config : TunnelUdpWorkloadConfig} {e : TunnelExchange}
  {first second trace : List TunnelExchange} {lost : Bool}

def Plain (e : TunnelExchange) : Prop :=
  (∀ client, e.command.session = some client → client = 0) ∧ closeResult e = none ∧ usableFlow e = none

/-- A part of the workload that ends with a failure that shows the service lost, if there is one. -/
structure Heeded (api : TunnelApi) (trace : List TunnelExchange) (lost : Bool) : Prop where
  plain : ∀ e ∈ trace, Plain e
  failsLast : FailsLast (resultsOn api 0 trace)
  unfailed : lost = false → Unfailed (resultsOn api 0 trace)

theorem heeded_nil : Heeded api [] lost := ⟨List.forall_mem_nil _,unfailed_nil.failsLast,fun _ => unfailed_nil⟩

theorem Heeded.append (before : Heeded api first false) (behind : Heeded api second lost) :
    Heeded api (first ++ second) lost where
  plain := List.forall_mem_append.mpr ⟨before.plain,behind.plain⟩
  failsLast := by
    rw [resultsOn_append]
    exact behind.failsLast.behind (before.unfailed rfl)
  unfailed present := by
    rw [resultsOn_append]
    exact (before.unfailed rfl).append (behind.unfailed present)

theorem heeded_singleton (plain : Plain e) (last : FailsLast (serviceResults api e))
    (present : lost = false → losesService api e = false) : Heeded api [e] lost := by
  refine ⟨List.forall_mem_singleton.mpr plain,?_,fun same => ?_⟩
  · by_cases here : e.command.session = some 0
    · rw [resultsOn_cons_here here]
      exact (List.append_nil (serviceResults api e)).symm ▸ last
    · rw [resultsOn_cons_other here]
      exact unfailed_nil.failsLast
  · exact unfailed_resultsOn (List.forall_mem_singleton.mpr (present same))

theorem plain_send {descriptor : PayloadRange} {payload : Bytes} {answer : PayloadResult} :
    Plain ⟨.sendUdpDatagram 0 descriptor payload,answer⟩ :=
  ⟨fun _ same => (Option.some.inj same).symm,rfl,rfl⟩

theorem heeded_wait {flow : UInt64} {goal : WaitGoal} {timeoutMs : UInt32} {script : WaitScript}
    (present : lost = false → Unfailed (goal.commandResults api flow timeoutMs script)) :
    Heeded api [⟨.waitFor 0 flow goal timeoutMs,script⟩] lost :=
  heeded_singleton ⟨fun _ same => (Option.some.inj same).symm,rfl,rfl⟩ (goal.told api flow timeoutMs script).failsLast
    fun same => unfailed_serviceResults.mp (present same)

theorem not_lost {s t : UdpProgress} {P : Prop} (present : s.tunnelServiceLost = false)
    (same : t.tunnelServiceLost = s.tunnelServiceLost) (reported : t.tunnelServiceLost = true) : P :=
  Bool.noConfusion ((same.trans present).symm.trans reported)

theorem submitDatagram_heeded {sequence : UInt32} {descriptor : PayloadRange} {payload : Bytes} (retriesLeft : Nat)
    {s : UdpProgress} (present : s.tunnelServiceLost = false) :
    (submitDatagram api config sequence descriptor payload retriesLeft s).Ensures fun trace value =>
      Heeded api trace value.2.tunnelServiceLost ∧
      (value.2.tunnelServiceLost = true → failed value.1 = true ∨ value.2.result.detail ≠ []) := by
  have sent : ∀ (answer : PayloadResult) (lost : Bool), (lost = false → failed answer.rc = false) →
      Heeded api [⟨.sendUdpDatagram 0 descriptor payload,answer⟩] lost := fun answer _ unfailed =>
    heeded_singleton plain_send (failsLast_singleton answer.rc) unfailed
  induction retriesLeft generalizing s with
  | zero =>
    unfold submitDatagram
    rw [ensures_perform_bind]
    intro answer
    dsimp only
    split
    next fails => exact ⟨sent answer _ fun same => Bool.noConfusion same,fun _ => .inl fails⟩
    next succeeds =>
      have succeeds := Bool.eq_false_iff.mpr succeeds
      split
      · exact ⟨sent answer _ fun _ => succeeds,not_lost present rfl⟩
      · exact ⟨sent answer _ fun _ => succeeds,not_lost present rfl⟩
  | succ retriesLeft ih =>
    unfold submitDatagram
    rw [ensures_perform_bind]
    intro answer
    dsimp only
    split
    next fails => exact ⟨sent answer _ fun same => Bool.noConfusion same,fun _ => .inl fails⟩
    next succeeds =>
      have succeeds := Bool.eq_false_iff.mpr succeeds
      split
      · exact ⟨sent answer _ fun _ => succeeds,not_lost present rfl⟩
      split
      · exact ⟨sent answer _ fun _ => succeeds,not_lost present rfl⟩
      rw [ensures_perform_bind]
      intro script
      have told := WaitGoal.told api .writable descriptor.flow config.receiveDeadlineMs script
      have before := sent answer false fun _ => succeeds
      split
      · refine ⟨before.append (heeded_wait fun same => by_contra fun fails => ?_),fun _ => .inr (by simp [UdpProgress.leave])⟩
        exact Bool.noConfusion (same.symm.trans (told.shown (fun _ _ => rfl) fails))
      next writable =>
        have writable : (WaitGoal.writable.result api descriptor.flow config.receiveDeadlineMs script).writable = true := by
          simpa using writable
        have waited := before.append (@heeded_wait api false descriptor.flow .writable config.receiveDeadlineMs script
          fun _ => (told.reported (.inr writable)).1)
        exact (ih (by exact present)).mono fun _ _ later => ⟨waited.append later.1,later.2⟩

theorem awaitEcho_heeded {sequence : UInt32} {flow : UInt64} {payload : Bytes} {s : UdpProgress}
    (present : s.tunnelServiceLost = false) :
    (awaitEcho api config sequence flow payload s).Ensures fun trace value =>
      Heeded api trace value.2.tunnelServiceLost ∧ (value.2.tunnelServiceLost = true → value.1 = false) := by
  unfold awaitEcho
  split
  · exact ⟨heeded_nil,not_lost present rfl⟩
  rw [ensures_perform_bind]
  intro script
  have told := WaitGoal.told api (.echo payload) flow config.receiveDeadlineMs script
  dsimp only
  split
  · refine ⟨heeded_wait fun same => by_contra fun fails => ?_,fun _ => rfl⟩
    exact Bool.noConfusion (same.symm.trans (told.shown (fun _ _ => rfl) fails))
  next heard =>
    have heard : ((WaitGoal.echo payload).result api flow config.receiveDeadlineMs script).receivedExpected = true := by
      simpa using heard
    exact ⟨heeded_wait fun _ => (told.reported (.inl heard)).1,not_lost present rfl⟩

theorem sendDatagrams_heeded {flows : List UInt64} (remaining : Nat) {sequence : UInt32} {s : UdpProgress}
    (present : s.tunnelServiceLost = false) :
    (sendDatagrams api config flows remaining sequence s).Ensures fun trace t => Heeded api trace t.tunnelServiceLost := by
  induction remaining generalizing sequence s with
  | zero => exact heeded_nil
  | succ remaining ih =>
    rw [sendDatagrams]
    dsimp only
    rw [ensures_bind]
    apply (submitDatagram_heeded _ present).mono
    rintro submitted ⟨rc,t⟩ ⟨sent,stops⟩
    dsimp only
    split
    · rw [ensures_pure,List.append_nil]
      exact sent
    next passes =>
      have present : t.tunnelServiceLost = false := Bool.eq_false_iff.mpr (mt stops passes)
      dsimp only at sent
      rw [present] at sent
      rw [ensures_bind]
      refine Ensures.mono (awaitEcho_heeded (by exact present)) ?_
      rintro waited ⟨goesOn,u⟩ ⟨awaited,leaves⟩
      dsimp only at awaited leaves ⊢
      split
      · rw [ensures_pure,List.append_nil]
        exact sent.append awaited
      next heard =>
        have present : u.tunnelServiceLost = false := by
          refine Bool.eq_false_iff.mpr fun lost => heard ?_
          rw [leaves lost]
          rfl
        rw [present] at awaited
        split
        · rw [ensures_perform_bind]
          intro slept
          have paused : Heeded api [⟨.sleepMilliseconds config.pacingMs,slept⟩] false :=
            heeded_singleton ⟨fun _ same => absurd same.symm (Option.some_ne_none _),rfl,rfl⟩ (failsLast_singleton 0) fun _ => rfl
          exact (ih present).mono fun _ _ later => sent.append (awaited.append (paused.append later))
        · exact (ih present).mono fun _ _ later => sent.append (awaited.append later)

theorem Plain.noResults (plain : ∀ e ∈ trace, Plain e) {client : Nat} (other : client ≠ 0) :
    resultsOn api client trace = [] :=
  resultsOn_other fun e member same => other ((plain e member).1 client same)

structure Closed (api : TunnelApi) (trace : List TunnelExchange) (count : Nat) : Prop where
  results : resultsOn api 0 trace = trace.filterMap closeResult
  others : ∀ client ≠ 0, resultsOn api client trace = []
  noOpens : trace.filterMap usableFlow = []
  length : (trace.filterMap closeResult).length = count

theorem closed_nil : Closed api [] 0 := ⟨rfl,fun _ _ => rfl,rfl,rfl⟩

theorem Closed.behind {count : Nat} {flow : UInt64} {answer : StatusResult} (closed : Closed api trace count) :
    Closed api (⟨.closeFlow 0 flow,answer⟩ :: trace) (count + 1) where
  results := (resultsOn_cons_here rfl).trans (congrArg (answer.rc :: ·) closed.results)
  others client other := by
    have elsewhere : (⟨.closeFlow 0 flow,answer⟩ : TunnelExchange).command.session ≠ some client := fun same =>
      other (Option.some.inj same).symm
    exact (resultsOn_cons_other elsewhere).trans (closed.others client other)
  noOpens := closed.noOpens
  length := congrArg Nat.succ closed.length

theorem closeFlows_closed (flows : List UInt64) :
    (closeFlows flows).Ensures fun trace _ => Closed api trace flows.length := by
  induction flows with
  | nil => exact closed_nil
  | cons flow rest ih => exact fun answer => ih.mono fun _ _ closed => closed.behind

/-- Commands that open the flows of a run and close none. -/
def Opening (api : TunnelApi) (trace : List TunnelExchange) : Prop :=
  ∀ e ∈ trace, losesService api e = false ∧ closeResult e = none ∧
    ∀ client, e.command.session = some client → client = 0

theorem openFlows_opening (destination : Bytes) (remaining : Nat) (flows : List UInt64) :
    (openFlows config destination remaining flows).Ensures fun trace value =>
      Opening api trace ∧ value.1 = flows ++ trace.filterMap usableFlow := by
  induction remaining generalizing flows with
  | zero => exact ⟨List.forall_mem_nil _,(List.append_nil flows).symm⟩
  | succ remaining ih =>
    rw [openFlows,ensures_perform_bind]
    intro answer
    have here : losesService api ⟨.openConnectedFlow 0 (udpFlowRequest config destination flows.length),answer⟩ = false ∧
        closeResult ⟨.openConnectedFlow 0 (udpFlowRequest config destination flows.length),answer⟩ = none ∧
        ∀ client, some 0 = some client → client = 0 := ⟨rfl,rfl,fun _ same => (Option.some.inj same).symm⟩
    split
    next refused =>
      refine ⟨List.forall_mem_singleton.mpr here,?_⟩
      have none : usableFlow ⟨.openConnectedFlow 0 (udpFlowRequest config destination flows.length),answer⟩ = none :=
        if_pos refused
      rw [List.filterMap_cons_none none,List.filterMap_nil,List.append_nil]
    next usable =>
      apply (ih (flows ++ [answer.flow])).mono
      rintro trace ⟨opens,ended⟩ ⟨opening,same⟩
      refine ⟨List.forall_mem_cons.mpr ⟨here,opening⟩,?_⟩
      have taken : usableFlow ⟨.openConnectedFlow 0 (udpFlowRequest config destination flows.length),answer⟩ =
          some answer.flow := if_neg usable
      rw [List.filterMap_cons_some taken,same,List.append_assoc]
      rfl

/-- What a run of the workload tells: it closes each of its flows, unless the service was lost. -/
theorem Heeded.judged {opening closes : List TunnelExchange} (opened : Opening api opening)
    (sent : Heeded api second lost) (closed : lost = false → Closed api closes (opening.filterMap usableFlow).length)
    (none : lost = true → closes = []) :
    LeavesLost api (opening ++ (second ++ closes)) ↔ OnlyLastCloseFails (opening ++ (second ++ closes)) := by
  have noCloses : opening.filterMap closeResult = [] := List.filterMap_eq_nil_iff.mpr fun e member => (opened e member).2.1
  have noResults : second.filterMap closeResult = [] := List.filterMap_eq_nil_iff.mpr fun e member => (sent.plain e member).2.1
  have noOpens : second.filterMap usableFlow = [] := List.filterMap_eq_nil_iff.mpr fun e member => (sent.plain e member).2.2
  have unfailed : Unfailed (resultsOn api 0 opening) := unfailed_resultsOn fun e member => (opened e member).1
  have apart : ∀ client ≠ 0, resultsOn api client opening = [] := fun client other =>
    resultsOn_other fun e member same => other ((opened e member).2.2 client same)
  have first : LeavesLost api (opening ++ (second ++ closes)) ↔ FailsLast (resultsOn api 0 second ++ resultsOn api 0 closes) := by
    rw [← resultsOn_append,← failsLast_append_unfailed unfailed,← resultsOn_append]
    refine ⟨fun leaves => leaves 0,fun last client => ?_⟩
    by_cases here : client = 0
    · rw [here]
      exact last
    · have noneClosed : resultsOn api client closes = [] := by
        cases present : lost with
        | true => rw [none present]; rfl
        | false => exact (closed present).others client here
      rw [resultsOn_append,resultsOn_append,apart client here,Plain.noResults sent.plain here,noneClosed]
      exact unfailed_nil.failsLast
  rw [first,OnlyLastCloseFails,List.filterMap_append,List.filterMap_append,noCloses,noResults,List.filterMap_append,
    List.filterMap_append,noOpens,List.nil_append,List.nil_append,List.nil_append]
  cases present : lost with
  | true =>
    rw [none present]
    refine iff_of_true ?_ fun index rc missing => ?_
    · have alone : resultsOn api 0 second ++ resultsOn api 0 [] = resultsOn api 0 second := List.append_nil _
      rw [alone]
      exact sent.failsLast
    · cases missing
  | false =>
    obtain ⟨results,_,noneOpened,length⟩ := closed present
    rw [failsLast_append_unfailed (sent.unfailed present),results,noneOpened,List.append_nil,failsLast_iff_getElem?,length]

/-- Behind an opening that has opened no flow yet, the run is judged by its last close. -/
def JudgedByClose (api : TunnelApi) (p : TunnelProgram α) : Prop :=
  p.Ensures fun trace _ => ∀ opening, Opening api opening → opening.filterMap usableFlow = [] →
    (LeavesLost api (opening ++ trace) ↔ OnlyLastCloseFails (opening ++ trace))

theorem judgedByClose_pure {value : α} : JudgedByClose api (pure value) := by
  intro opening opened nothing
  have closed : false = false → Closed api [] (opening.filterMap usableFlow).length := by
    rw [nothing]
    exact fun _ => closed_nil
  exact Heeded.judged opened heeded_nil closed fun _ => rfl

theorem judgedByClose_ite {condition : Prop} [Decidable condition] {p q : TunnelProgram α}
    (holds : condition → JudgedByClose api p) (fails : ¬condition → JudgedByClose api q) :
    JudgedByClose api (if condition then p else q) :=
  Ensures.ite holds fails

theorem judgedByClose_call {command : TunnelCommand} {next : command.Answer → TunnelProgram α}
    (quiet : ∀ answer, losesService api ⟨command,answer⟩ = false ∧ closeResult ⟨command,answer⟩ = none ∧
      usableFlow ⟨command,answer⟩ = none)
    (session : ∀ client, command.session = some client → client = 0)
    (later : ∀ answer, JudgedByClose api (next answer)) : JudgedByClose api (ask command >>= next) := by
  intro answer
  apply (later answer).mono
  intro trace _ told opening opened nothing
  have extended : Opening api (opening ++ [⟨command,answer⟩]) :=
    List.forall_mem_append.mpr ⟨opened,List.forall_mem_singleton.mpr ⟨(quiet answer).1,(quiet answer).2.1,session⟩⟩
  have still : (opening ++ [(⟨command,answer⟩ : TunnelExchange)]).filterMap usableFlow = [] := by
    rw [List.filterMap_append,nothing,List.filterMap_cons_none (quiet answer).2.2]
    rfl
  have split : opening ++ ⟨command,answer⟩ :: trace = (opening ++ [⟨command,answer⟩]) ++ trace := by simp
  rw [split]
  exact told _ extended still

theorem exchangeUdp_closes {capabilities : Capabilities} {policy : RoutingPolicySnapshot} {flows : List UInt64} :
    (exchangeUdp api config capabilities policy flows).Ensures fun trace _ => ∃ sent closes lost,
      trace = sent ++ closes ∧ Heeded api sent lost ∧ (lost = false → Closed api closes flows.length) ∧
      (lost = true → closes = []) := by
  unfold exchangeUdp
  rw [ensures_bind]
  refine Ensures.mono (sendDatagrams_heeded _ rfl) ?_
  intro sent t heeded
  split
  next lost =>
    rw [lost] at heeded
    exact ⟨sent,[],true,rfl,heeded,fun present => Bool.noConfusion present,fun _ => rfl⟩
  next present =>
    rw [Bool.eq_false_iff.mpr present] at heeded
    rw [ensures_bind]
    apply (closeFlows_closed flows).mono
    intro closes _ closed
    rw [ensures_pure,List.append_nil]
    exact ⟨sent,closes,false,rfl,heeded,fun _ => closed,fun lost => Bool.noConfusion lost⟩

theorem runWgnxTunnelUdpWorkload_judged : JudgedByClose api (runWgnxTunnelUdpWorkload api config) := by
  have outside : ∀ client, (none : Option Nat) = some client → client = 0 := fun _ same =>
    absurd same.symm (Option.some_ne_none _)
  have first : ∀ client, some 0 = some client → client = 0 := fun _ same => (Option.some.inj same).symm
  unfold runWgnxTunnelUdpWorkload
  dsimp only
  refine judgedByClose_call (fun _ => ⟨rfl,rfl,rfl⟩) outside fun availability => ?_
  refine judgedByClose_ite (fun _ => judgedByClose_pure) fun _ => ?_
  refine judgedByClose_ite (fun _ => judgedByClose_pure) fun _ => ?_
  refine judgedByClose_ite (fun _ => judgedByClose_pure) fun _ => ?_
  refine judgedByClose_call (fun _ => ⟨rfl,rfl,rfl⟩) outside fun rc => ?_
  refine judgedByClose_ite (fun _ => judgedByClose_pure) fun _ => ?_
  refine judgedByClose_call (fun _ => ⟨rfl,rfl,rfl⟩) outside fun root => ?_
  refine judgedByClose_ite (fun _ => judgedByClose_pure) fun _ => ?_
  refine judgedByClose_call (fun _ => ⟨rfl,rfl,rfl⟩) outside fun rc => ?_
  refine judgedByClose_ite (fun _ => judgedByClose_pure) fun _ => ?_
  refine judgedByClose_call (fun _ => ⟨rfl,rfl,rfl⟩) first fun capabilities => ?_
  refine judgedByClose_ite (fun _ => judgedByClose_pure) fun _ => ?_
  refine judgedByClose_call (fun _ => ⟨rfl,rfl,rfl⟩) first fun policy => ?_
  refine judgedByClose_ite (fun _ => judgedByClose_pure) fun _ => ?_
  split
  · exact judgedByClose_pure
  refine judgedByClose_call (fun _ => ⟨rfl,rfl,rfl⟩) first fun rc => ?_
  refine judgedByClose_ite (fun _ => judgedByClose_pure) fun _ => ?_
  rw [JudgedByClose,ensures_bind]
  apply (openFlows_opening _ _ _).mono
  rintro opens ⟨flows,ended⟩ ⟨opening,same⟩
  have own : flows = opens.filterMap usableFlow := same
  have whole : ∀ {sent closes : List TunnelExchange} {lost : Bool} (prior : List TunnelExchange), Opening api prior →
      prior.filterMap usableFlow = [] → Heeded api sent lost → (lost = false → Closed api closes flows.length) →
      (lost = true → closes = []) → (LeavesLost api (prior ++ (opens ++ (sent ++ closes))) ↔
        OnlyLastCloseFails (prior ++ (opens ++ (sent ++ closes)))) := by
    intro sent closes lost prior before nothing heeded closed none
    rw [← List.append_assoc]
    refine Heeded.judged (List.forall_mem_append.mpr ⟨before,opening⟩) heeded ?_ none
    rwa [List.filterMap_append,nothing,List.nil_append,← own]
  cases ended with
  | some opened =>
    dsimp only
    rw [ensures_bind]
    apply (closeFlows_closed flows).mono
    intro closes _ closed
    rw [ensures_pure,List.append_nil]
    exact fun prior before nothing => whole prior before nothing (@heeded_nil api false) (fun _ => closed)
      fun lost => Bool.noConfusion lost
  | none =>
    dsimp only
    apply exchangeUdp_closes.mono
    rintro _ _ ⟨sent,closes,lost,rfl,heeded,closed,none⟩ prior before nothing
    exact whole prior before nothing heeded closed none

end Udp

/-- In the runs of the scenarios, no command goes through a client session behind a failure that shows the
service lost if and only if: in the UDP workload no `CloseFlow` but that of the last opened flow fails;
in the TCP exchange nothing but `CloseFlow` fails; and in the contract validation no payload that is
sent over a flow with a handle other than 0. -/
theorem leavesLost_iff (api : TunnelApi) (profile : RuntimeProfile) (workloadId : UInt32) (tcp : TcpScenarioConfig)
    (config : TunnelUdpWorkloadConfig) (contract : TunnelContractValidationConfig)
    (service : Service TunnelCommand.Answer) :
    let udpTrace := ((runWgnxTunnelUdpWorkload api config).run service []).1
    let tcpTrace := ((runWgnxTunnelTcpExchange api profile workloadId tcp).run service []).1
    let contractTrace := ((runWgnxTunnelContractValidation api config contract).run service []).1
    (LeavesLost api udpTrace ↔ OnlyLastCloseFails udpTrace) ∧
    (LeavesLost api tcpTrace ↔ ∀ e ∈ tcpTrace, losesService api e = true → closesFlow e ≠ none) ∧
    (LeavesLost api contractTrace ↔ ∀ e ∈ contractTrace, losesService api e = true → ∀ flow ∈ sendsOver e, flow = 0) :=
  ⟨runWgnxTunnelUdpWorkload_judged.of_run service [] (List.forall_mem_nil _) rfl,
    runWgnxTunnelTcpExchange_judged.of_run service,runWgnxTunnelContractValidation_judged.of_run service⟩

/-- A service that is gone when its completions are received. -/
def vanishingService : Service TunnelCommand.Answer := fun trace command => match command with
  | .openConnectedFlow _ _ => ⟨0,.success,5,9⟩
  | .waitFor _ _ _ _ => ⟨1000,0,[⟨0,0,0,[⟨1,.success,[],[]⟩]⟩]⟩
  | command => portlessService trace command

theorem not_leavesLost : ¬∀ (api : TunnelApi) (profile : RuntimeProfile) (workloadId : UInt32)
    (tcp : TcpScenarioConfig) (config : TunnelUdpWorkloadConfig) (contract : TunnelContractValidationConfig)
    (service : Service TunnelCommand.Answer),
    LeavesLost api ((runWgnxTunnelUdpWorkload api config).run service []).1 ∧
    LeavesLost api ((runWgnxTunnelTcpExchange api profile workloadId tcp).run service []).1 ∧
    LeavesLost api ((runWgnxTunnelContractValidation api config contract).run service []).1 := by
  intro leaves
  let workload : TunnelUdpWorkloadConfig := ⟨"10.0.0.1".toList,7,1,64,1,0,1,1000,0,true⟩
  obtain ⟨_,left,_⟩ := leaves portlessApi portlessProfile 1 ⟨1000⟩ workload ⟨true,true⟩ vanishingService
  -- the event, the open, the failing receive, and the close of the flow
  have nothing := left 0 [0,0] 1 [0] rfl rfl
  cases nothing

end NxReverse.Toolbox
