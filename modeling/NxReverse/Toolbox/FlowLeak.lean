import NxReverse.Lib.Leases
import NxReverse.Toolbox.TunnelScenario

/-! Flows that the tunnel service opens for a scenario, and whether the scenario closes them. Along
each program the open flows are what it owes the service. -/
namespace NxReverse.Toolbox

open Text Words Program Lease

def opensFlow : TunnelExchange → Option UInt64
  | ⟨.openConnectedFlow _ _,answer⟩ => if !failed answer.rc && answer.status == .success then some answer.flow else none
  | _ => none

def closesFlow : TunnelExchange → Option UInt64
  | ⟨.closeFlow _ flow,_⟩ => some flow
  | _ => none

/-- A command on a client session fails at the CMIF level: the service is lost. -/
def losesService (api : TunnelApi) : TunnelExchange → Bool
  | ⟨.closeFlow _ _,answer⟩ => failed answer.rc
  | ⟨.getFlowState _ _,answer⟩ => failed answer.rc
  | ⟨.sendUdpDatagram _ _ _,answer⟩ => failed answer.rc
  | ⟨.sendUdpDatagramBatch _ _ _,answer⟩ => failed answer.rc
  | ⟨.writeTcpStream _ _ _,answer⟩ => failed answer.rc
  | ⟨.shutdownTcpWrite _ _,answer⟩ => failed answer.rc
  | ⟨.waitFor _ flow goal timeoutMs,script⟩ => (goal.commandResults api flow timeoutMs script).any failed
  | _ => false

/-- Flows as leases; `usable` tells which reported flows a scenario goes on with. -/
def flowLease (api : TunnelApi) (usable : OpenConnectedFlowResult → Bool) : Lease TunnelExchange UInt64 where
  granted := opensFlow
  takes
    | ⟨.openConnectedFlow _ _,answer⟩ => usable answer
    | _ => false
  released := closesFlow
  lost := losesService api

/-- A step of a wait leaves the report on the service as it is. -/
def KeepsReport (s : WaitState) : Except CompletionWaitResult WaitState → Prop
  | .error result => result.serviceLost = s.result.serviceLost
  | .ok next => next.result.serviceLost = s.result.serviceLost

theorem KeepsReport.bind {s : WaitState} {x : Except CompletionWaitResult WaitState}
    {f : WaitState → Except CompletionWaitResult WaitState} (first : KeepsReport s x)
    (rest : ∀ next, KeepsReport next (f next)) : KeepsReport s (x >>= f) := by
  cases x with
  | error result => exact first
  | ok next =>
    have later := rest next
    change KeepsReport s (f next)
    cases run : f next with
    | error result =>
      rw [run] at later
      exact later.trans first
    | ok last =>
      rw [run] at later
      exact later.trans first

theorem keepsReport_foldlM {f : WaitState → α → Except CompletionWaitResult WaitState}
    (step : ∀ s a, KeepsReport s (f s a)) (entries : List α) (s : WaitState) : KeepsReport s (entries.foldlM f s) := by
  induction entries generalizing s with
  | nil => exact rfl
  | cons a rest ih =>
    rw [List.foldlM_cons]
    exact (step s a).bind ih

/-- Only the inner loop of a wait reports the service lost. -/
structure WaitLoop.KeepsReport (loop : WaitLoop) : Prop where
  waitFailed : ∀ result rc, (loop.waitFailed result rc).serviceLost = result.serviceLost
  expired : ∀ result, (loop.expired result).serviceLost = result.serviceLost
  batch : ∀ s completions payload, Toolbox.KeepsReport s (loop.batch s completions payload)

theorem echoCompletion_keeps {reasonNumber : FlowTerminalReason → Nat} {flow : UInt64} {expected payload : List UInt8}
    (s : WaitState) (entry : CompletionRecord × FlowStateAnswer) :
    KeepsReport s (echoCompletion reasonNumber flow expected payload s entry) := by
  unfold echoCompletion
  split
  · exact rfl
  split
  · exact rfl
  split
  · exact rfl
  split <;> exact rfl

theorem writableCompletion_keeps {reasonNumber : FlowTerminalReason → Nat} {flow : UInt64} (s : WaitState)
    (entry : CompletionRecord × FlowStateAnswer) : KeepsReport s (writableCompletion reasonNumber flow s entry) := by
  unfold writableCompletion
  split
  · exact rfl
  split <;> exact rfl

theorem tcpCompletion_keeps {flow : UInt64} {payload : List UInt8} (s : WaitState)
    (entry : CompletionRecord × FlowStateAnswer) : KeepsReport s (tcpCompletion flow payload s entry) := by
  unfold tcpCompletion
  dsimp only
  split
  · exact rfl
  split
  · split
    · exact rfl
    split <;> exact rfl
  split
  · exact rfl
  split
  · exact rfl
  split <;> exact rfl

theorem judgeTcp_keeps {goal : TcpGoal} (s : WaitState) : KeepsReport s (judgeTcp goal s) := by
  unfold judgeTcp
  dsimp only
  split
  · exact rfl
  split
  · exact rfl
  split <;> exact rfl

theorem WaitGoal.keepsReport (api : TunnelApi) (flow : UInt64) (goal : WaitGoal) :
    (goal.loop api flow).KeepsReport := by
  cases goal with
  | echo expected => exact ⟨fun _ _ => rfl,fun _ => rfl,fun s entries _ => keepsReport_foldlM echoCompletion_keeps entries s⟩
  | writable => exact ⟨fun _ _ => rfl,fun _ => rfl,fun s entries _ => keepsReport_foldlM writableCompletion_keeps entries s⟩
  | tcp goal =>
    refine ⟨fun _ _ => rfl,fun _ => rfl,fun s entries payload => ?_⟩
    exact (keepsReport_foldlM tcpCompletion_keeps entries s).bind judgeTcp_keeps

section Reports

variable {loop : WaitLoop} {queries : WaitState → ReceiveAnswer → List UInt32}

theorem drain_reports (keeps : loop.KeepsReport) {s : WaitState} (unreported : s.result.serviceLost = false)
    (receives : List ReceiveAnswer) :
    (∀ result, loop.drain s receives = .error result → result.serviceLost = true →
      (drainResults loop queries s receives).any failed = true) ∧
    ∀ next, loop.drain s receives = .ok next → next.result.serviceLost = false := by
  induction receives generalizing s with
  | nil =>
    rw [WaitLoop.drain]
    refine ⟨fun _ same => ?_,fun next same => ?_⟩
    · cases same
    · cases same
      exact unreported
  | cons answer rest ih =>
    rw [WaitLoop.drain,drainResults]
    by_cases fails : failed answer.rc = true
    · rw [if_pos fails]
      refine ⟨fun _ _ _ => ?_,fun _ same => ?_⟩
      · rw [List.any_cons,fails,Bool.true_or]
      · cases same
    rw [if_neg fails]
    split
    · refine ⟨fun _ same => ?_,fun next same => ?_⟩
      · cases same
      · cases same
        exact unreported
    split
    · refine ⟨fun result same reported => ?_,fun _ same => ?_⟩
      · cases same
        cases unreported.symm.trans reported
      · cases same
    rename_i success
    have batch := keeps.batch s answer.completions answer.payload
    rw [if_neg (not_or.mpr ⟨fails,success⟩)]
    cases run : loop.batch s answer.completions answer.payload with
    | error result =>
      rw [run] at batch
      refine ⟨fun other same reported => ?_,fun _ same => ?_⟩
      · cases same
        cases (batch.trans unreported).symm.trans reported
      · cases same
    | ok next =>
      rw [run] at batch
      obtain ⟨ends,goesOn⟩ := ih (batch.trans unreported)
      refine ⟨fun result same reported => ?_,goesOn⟩
      rw [List.any_cons,List.any_append,ends result same reported,Bool.or_true,Bool.or_true]

theorem turns_report (keeps : loop.KeepsReport) {frequency deadline : UInt64} {s : WaitState}
    (unreported : s.result.serviceLost = false) (turns : List WaitTurn)
    (reported : (loop.turns frequency deadline s turns).result.serviceLost = true) :
    (turnResults loop queries deadline s turns).any failed = true := by
  induction turns generalizing s with
  | nil => cases (keeps.expired s.result).symm.trans reported |>.symm.trans unreported
  | cons turn rest ih =>
    rw [WaitLoop.turns] at reported
    rw [turnResults]
    split at reported
    next early =>
      dsimp only at reported
      split at reported
      next fails => cases (keeps.waitFailed s.result turn.waitRc).symm.trans reported |>.symm.trans unreported
      next succeeds =>
        rw [if_pos ⟨early,by simpa using succeeds⟩]
        let woken : WaitState := { s with result.wakeCount := s.result.wakeCount + 1 }
        obtain ⟨ends,goesOn⟩ := @drain_reports loop queries keeps woken unreported turn.receives
        dsimp only
        cases run : loop.drain woken turn.receives with
        | error result =>
          rw [run] at reported
          rw [List.any_append,ends result run reported]
          rfl
        | ok next =>
          rw [run] at reported
          rw [List.any_append,ih (goesOn next run) reported,Bool.or_true]
    next => cases (keeps.expired s.result).symm.trans reported |>.symm.trans unreported

/-- A wait reports the service lost only when one of its commands failed. -/
theorem WaitGoal.reports_lost {api : TunnelApi} {goal : WaitGoal} {flow : UInt64} {timeoutMs : UInt32}
    {script : WaitScript} (reported : (goal.result api flow timeoutMs script).serviceLost = true) :
    (goal.commandResults api flow timeoutMs script).any failed = true :=
  turns_report (goal.keepsReport api flow) rfl script.turns reported

end Reports

section Scenarios

variable {api : TunnelApi} {usable : OpenConnectedFlowResult → Bool}

def publishesPort (opened : OpenConnectedFlowResult) : Bool := opened.advertisedPort != 0

theorem owes_closeFlow {left held : List UInt64} {client : Nat} {flow : UInt64} {next : StatusResult → TunnelProgram α}
    (holds : held.Perm (flow :: left)) (rest : ∀ answer, (flowLease api usable).Owes left (next answer)) :
    (flowLease api usable).Owes held (ask (.closeFlow client flow) >>= next) :=
  owes_release (fun _ => rfl) (fun _ => rfl) holds rest

theorem exchangeTcp_owes {capabilities : Capabilities} {workloadId : UInt32} {config : TcpScenarioConfig}
    {flow : UInt64} : (flowLease api usable).Owes [flow] (exchangeTcp api capabilities workloadId config flow) := by
  have closing : ∀ result : ScenarioResult, (flowLease api usable).Owes [flow]
      (ask (.closeFlow 0 flow) >>= fun _ => pure result) := fun result =>
    owes_closeFlow (List.Perm.refl _) fun _ => owes_pure result
  unfold exchangeTcp
  dsimp only
  refine owes_call (fun _ => rfl) (fun _ => rfl) fun script => ?_
  refine owes_ite (fun _ => closing _) fun _ => ?_
  refine owes_call (fun _ => rfl) (fun _ => rfl) fun state => ?_
  refine owes_ite (fun _ => closing _) fun _ => ?_
  refine owes_ite (fun _ => closing _) fun _ => ?_
  refine owes_call (fun _ => rfl) (fun _ => rfl) fun write => ?_
  refine owes_ite (fun _ => closing _) fun _ => ?_
  refine owes_call (fun _ => rfl) (fun _ => rfl) fun shutdown => ?_
  refine owes_ite (fun _ => closing _) fun _ => ?_
  refine owes_call (fun _ => rfl) (fun _ => rfl) fun script => ?_
  refine owes_ite (fun _ => closing _) fun _ => ?_
  refine owes_closeFlow (List.Perm.refl _) fun close => ?_
  exact owes_ite (fun _ => owes_pure _) fun _ => owes_pure _

/-- An open call adds a usable flow to what is owed. -/
theorem owes_openConnectedFlow {held : List UInt64} {client : Nat} {request : OpenConnectedFlowRequest}
    {next : OpenConnectedFlowResult → TunnelProgram α}
    (refused : ∀ answer : OpenConnectedFlowResult,
      failed answer.rc = true ∨ answer.status ≠ .success ∨ usable answer = false →
      (flowLease api usable).Owes held (next answer))
    (opened : ∀ answer : OpenConnectedFlowResult, failed answer.rc = false → answer.status = .success →
      usable answer = true → (flowLease api usable).Owes (answer.flow :: held) (next answer)) :
    (flowLease api usable).Owes held (ask (.openConnectedFlow client request) >>= next) := by
  apply owes_grant (fun _ => rfl)
  · intro answer granted
    apply refused
    by_contra succeeds
    rw [not_or,not_or,not_not] at succeeds
    have reported : opensFlow ⟨.openConnectedFlow client request,answer⟩ = some answer.flow := by
      rw [opensFlow,succeeds.2.1,Bool.eq_false_iff.mpr succeeds.1]
      rfl
    cases reported.symm.trans granted
  · intro answer flow granted
    change (if !failed answer.rc && answer.status == .success then some answer.flow else none) = some flow at granted
    split at granted
    next succeeds =>
      obtain rfl := Option.some.inj granted
      rw [Bool.and_eq_true,Bool.not_eq_true',beq_iff_eq] at succeeds
      change if usable answer = true then _ else _
      split
      next takes => exact opened answer succeeds.1 succeeds.2 takes
      next other => exact refused answer (.inr (.inr (Bool.eq_false_iff.mpr other)))
    next => cases granted

theorem runWgnxTunnelTcpExchange_owes {profile : RuntimeProfile} {workloadId : UInt32} {config : TcpScenarioConfig} :
    (flowLease api publishesPort).Owes [] (runWgnxTunnelTcpExchange api profile workloadId config) := by
  unfold runWgnxTunnelTcpExchange
  dsimp only
  refine owes_call (fun _ => rfl) (fun _ => rfl) fun availability => ?_
  refine owes_ite (fun _ => owes_pure _) fun _ => ?_
  refine owes_call (fun _ => rfl) (fun _ => rfl) fun rc => ?_
  refine owes_ite (fun _ => owes_pure _) fun _ => ?_
  refine owes_call (fun _ => rfl) (fun _ => rfl) fun capabilities => ?_
  refine owes_ite (fun _ => owes_pure _) fun _ => ?_
  refine owes_ite (fun _ => owes_pure _) fun _ => ?_
  refine owes_ite (fun _ => owes_pure _) fun _ => ?_
  split
  · exact owes_pure _
  refine owes_call (fun _ => rfl) (fun _ => rfl) fun rc => ?_
  refine owes_ite (fun _ => owes_pure _) fun _ => ?_
  refine owes_call (fun _ => rfl) (fun _ => rfl) fun rc => ?_
  refine owes_ite (fun _ => owes_pure _) fun _ => ?_
  apply owes_openConnectedFlow
  · intro answer refused
    rw [if_pos (by simpa [publishesPort] using refused)]
    exact owes_pure _
  · intro answer succeeds success usable
    rw [if_neg (by simpa [publishesPort,succeeds,success] using usable)]
    exact exchangeTcp_owes

/-- A part of the workload that opens and closes nothing, and reports the service lost only behind a
failed command; `lost` tells whether one has failed before. -/
def Learning (api : TunnelApi) (usable : OpenConnectedFlowResult → Bool) (lost : Bool) (progress : α → UdpProgress)
    (p : TunnelProgram α) : Prop :=
  p.Ensures fun trace value => (flowLease api usable).Quiet trace ∧
    ((progress value).tunnelServiceLost = true → (lost || trace.any (losesService api)) = true)

section Learning

variable {lost : Bool} {progress : α → UdpProgress}

theorem learning_pure {value : α} (inherits : (progress value).tunnelServiceLost = true → lost = true) :
    Learning api usable lost progress (pure value) := by
  refine ⟨nofun,fun reported => ?_⟩
  rw [inherits reported]
  rfl

theorem learning_call {command : TunnelCommand} {next : command.Answer → TunnelProgram α}
    (granted : ∀ answer, opensFlow ⟨command,answer⟩ = none) (released : ∀ answer, closesFlow ⟨command,answer⟩ = none)
    (rest : ∀ answer, Learning api usable (lost || losesService api ⟨command,answer⟩) progress (next answer)) :
    Learning api usable lost progress (ask command >>= next) := by
  refine ensures_perform_bind.mpr fun answer => (rest answer).mono fun trace value ⟨quiet,reports⟩ => ?_
  refine ⟨List.forall_mem_cons.mpr ⟨⟨granted answer,released answer⟩,quiet⟩,fun reported => ?_⟩
  rw [List.any_cons,← Bool.or_assoc]
  exact reports reported

theorem learning_bind {p : TunnelProgram α} {f : α → TunnelProgram β} {later : β → UdpProgress}
    (first : Learning api usable lost progress p)
    (rest : ∀ value before, ((progress value).tunnelServiceLost = true → before = true) →
      Learning api usable before later (f value)) : Learning api usable lost later (p >>= f) := by
  refine ensures_bind.mpr (first.mono fun trace value ⟨quiet,reports⟩ => ?_)
  refine (rest value _ reports).mono fun more result ⟨still,last⟩ => ⟨quiet.append still,fun reported => ?_⟩
  rw [List.any_append,← Bool.or_assoc]
  exact last reported

end Learning

variable {config : TunnelUdpWorkloadConfig}

theorem submitDatagram_learning {sequence : UInt32} {descriptor : PayloadRange} {payload : Bytes} (retriesLeft : Nat)
    {s : UdpProgress} {lost : Bool} (inherits : s.tunnelServiceLost = true → lost = true) :
    Learning api usable lost Prod.snd (submitDatagram api config sequence descriptor payload retriesLeft s) := by
  induction retriesLeft generalizing s lost with
  | zero =>
    unfold submitDatagram
    refine learning_call (fun _ => rfl) (fun _ => rfl) fun disposition => ?_
    split
    next fails =>
      apply learning_pure
      intro _
      change (lost || failed disposition.rc) = true
      rw [fails,Bool.or_true]
    split
    · exact learning_pure fun reported => by rw [inherits reported,Bool.true_or]
    · exact learning_pure fun reported => by rw [inherits reported,Bool.true_or]
  | succ retriesLeft ih =>
    unfold submitDatagram
    refine learning_call (fun _ => rfl) (fun _ => rfl) fun disposition => ?_
    have still : ∀ {s' : UdpProgress}, s'.tunnelServiceLost = s.tunnelServiceLost →
        s'.tunnelServiceLost = true → (lost || failed disposition.rc) = true := by
      intro s' same reported
      rw [inherits (same.symm.trans reported),Bool.true_or]
    split
    next fails =>
      apply learning_pure
      intro _
      change (lost || failed disposition.rc) = true
      rw [fails,Bool.or_true]
    split
    · exact learning_pure (still rfl)
    dsimp only
    split
    · exact learning_pure (still rfl)
    refine learning_call (fun _ => rfl) (fun _ => rfl) fun script => ?_
    split
    next =>
      apply learning_pure
      intro reported
      have failure := @WaitGoal.reports_lost api .writable descriptor.flow config.receiveDeadlineMs script reported
      change (_ || (WaitGoal.writable.commandResults api descriptor.flow config.receiveDeadlineMs script).any failed) = true
      rw [failure,Bool.or_true]
    next => exact ih fun reported => by rw [Bool.or_eq_true]; exact .inl (still rfl reported)

theorem awaitEcho_learning {sequence : UInt32} {flow : UInt64} {payload : Bytes} {s : UdpProgress} {lost : Bool}
    (inherits : s.tunnelServiceLost = true → lost = true) :
    Learning api usable lost Prod.snd (awaitEcho api config sequence flow payload s) := by
  unfold awaitEcho
  split
  · exact learning_pure inherits
  refine learning_call (fun _ => rfl) (fun _ => rfl) fun script => ?_
  dsimp only
  split
  next =>
    apply learning_pure
    intro reported
    have failure := @WaitGoal.reports_lost api (.echo payload) flow config.receiveDeadlineMs script reported
    change (_ || ((WaitGoal.echo payload).commandResults api flow config.receiveDeadlineMs script).any failed) = true
    rw [failure,Bool.or_true]
  next =>
    apply learning_pure
    intro reported
    rw [inherits reported,Bool.true_or]

theorem sendDatagrams_learning {flows : List UInt64} (remaining : Nat) {sequence : UInt32} {s : UdpProgress}
    {lost : Bool} (inherits : s.tunnelServiceLost = true → lost = true) :
    Learning api usable lost id (sendDatagrams api config flows remaining sequence s) := by
  induction remaining generalizing sequence s lost with
  | zero => exact learning_pure inherits
  | succ remaining ih =>
    unfold sendDatagrams
    refine learning_bind (submitDatagram_learning _ inherits) fun ⟨rc,submitted⟩ known reported => ?_
    dsimp only at reported ⊢
    split
    · exact learning_pure reported
    refine learning_bind (awaitEcho_learning reported) fun ⟨goesOn,awaited⟩ known reported => ?_
    dsimp only at reported ⊢
    split
    · exact learning_pure reported
    split
    · refine learning_call (fun _ => rfl) (fun _ => rfl) fun _ => ih fun still => ?_
      rw [reported still,Bool.true_or]
    · exact ih reported

theorem closeFlows_owes {held flows : List UInt64} (holds : held.Perm flows) {next : TunnelProgram α}
    (rest : (flowLease api usable).Owes [] next) : (flowLease api usable).Owes held (closeFlows flows >>= fun _ => next) := by
  induction flows generalizing held with
  | nil =>
    rw [holds.eq_nil]
    exact rest
  | cons flow flows ih => exact owes_closeFlow holds fun _ => ih (List.Perm.refl flows)

theorem exchangeUdp_owes {capabilities : Capabilities} {policy : RoutingPolicySnapshot} {held flows : List UInt64}
    (holds : held.Perm flows) :
    (flowLease api usable).Owes held (exchangeUdp api config capabilities policy flows) := by
  unfold exchangeUdp
  apply owes_bind
  have learning := @sendDatagrams_learning api usable config flows config.datagramCount.toNat 0 .start false nofun
  refine learning.mono fun trace s ⟨quiet,reports⟩ => ⟨quiet,?_⟩
  split
  next reported => exact .inr ⟨reports reported,idle_pure _⟩
  next => exact .inl (closeFlows_owes holds (owes_pure _))

/-- Every flow of the open loop is open behind it. -/
theorem openFlows_owes {destination : Bytes} {next : List UInt64 × Option OpenConnectedFlowResult → TunnelProgram α}
    (rest : ∀ held flows ended, held.Perm flows → (flowLease api publishesPort).Owes held (next (flows,ended)))
    (remaining : Nat) {held flows : List UInt64} (holds : held.Perm flows) :
    (flowLease api publishesPort).Owes held (openFlows config destination remaining flows >>= next) := by
  induction remaining generalizing held flows with
  | zero => exact rest held flows none holds
  | succ remaining ih =>
    unfold openFlows
    rw [bind_assoc]
    apply owes_openConnectedFlow
    · intro answer refused
      rw [if_pos (by simpa [publishesPort] using refused)]
      exact rest held flows (some answer) holds
    · intro answer succeeds success usable
      rw [if_neg (by simpa [publishesPort,succeeds,success] using usable)]
      exact ih ((holds.cons answer.flow).trans (List.perm_append_singleton answer.flow flows).symm)

theorem runWgnxTunnelUdpWorkload_owes :
    (flowLease api publishesPort).Owes [] (runWgnxTunnelUdpWorkload api config) := by
  unfold runWgnxTunnelUdpWorkload
  dsimp only
  refine owes_call (fun _ => rfl) (fun _ => rfl) fun availability => ?_
  refine owes_ite (fun _ => owes_pure _) fun _ => ?_
  refine owes_ite (fun _ => owes_pure _) fun _ => ?_
  refine owes_ite (fun _ => owes_pure _) fun _ => ?_
  refine owes_call (fun _ => rfl) (fun _ => rfl) fun rc => ?_
  refine owes_ite (fun _ => owes_pure _) fun _ => ?_
  refine owes_call (fun _ => rfl) (fun _ => rfl) fun root => ?_
  refine owes_ite (fun _ => owes_pure _) fun _ => ?_
  refine owes_call (fun _ => rfl) (fun _ => rfl) fun rc => ?_
  refine owes_ite (fun _ => owes_pure _) fun _ => ?_
  refine owes_call (fun _ => rfl) (fun _ => rfl) fun capabilities => ?_
  refine owes_ite (fun _ => owes_pure _) fun _ => ?_
  refine owes_call (fun _ => rfl) (fun _ => rfl) fun policy => ?_
  refine owes_ite (fun _ => owes_pure _) fun _ => ?_
  split
  · exact owes_pure _
  refine owes_call (fun _ => rfl) (fun _ => rfl) fun rc => ?_
  refine owes_ite (fun _ => owes_pure _) fun _ => ?_
  refine openFlows_owes (fun held flows ended holds => ?_) _ (List.Perm.refl [])
  cases ended with
  | some opened => exact closeFlows_owes holds (owes_pure _)
  | none => exact exchangeUdp_owes holds

def publishesPortAndHandle (opened : OpenConnectedFlowResult) : Bool := opened.advertisedPort != 0 && opened.flow != 0

/-- What an opened flow adds to the owed ones: `CloseFlow` of the client passes over a handle of 0. -/
def owed (flow : UInt64) : List UInt64 := if flow = 0 then [] else [flow]

theorem closeFlow_owes {client : Nat} {flow : UInt64} {next : Unit → TunnelProgram α}
    (rest : (flowLease api usable).Owes [] (next ())) :
    (flowLease api usable).Owes (owed flow) (closeFlow (opened client) flow >>= next) := by
  unfold closeFlow owed
  by_cases zero : flow = 0
  · rw [if_pos zero,if_pos (.inl zero)]
    exact rest
  · rw [if_neg zero,if_neg (by simp [zero,opened])]
    exact owes_closeFlow (List.Perm.refl _) fun _ => rest

theorem owes_openFlow {destination : Bytes} {client : ScopedClient}
    {next : Except ContractFailure UInt64 → TunnelProgram α}
    (refused : ∀ failure, (flowLease api publishesPortAndHandle).Owes [] (next (.error failure)))
    (opened : ∀ flow, (flowLease api publishesPortAndHandle).Owes (owed flow) (next (.ok flow))) :
    (flowLease api publishesPortAndHandle).Owes [] (openFlow config destination client >>= next) := by
  unfold openFlow
  rw [bind_assoc]
  apply owes_openConnectedFlow
  · intro answer unusable
    split
    · exact refused _
    next usable =>
      have zero : answer.flow = 0 := by
        rw [not_or,not_or] at usable
        rcases unusable with fails | status | other
        · exact absurd fails usable.1
        · exact absurd status usable.2.1
        · simpa [publishesPortAndHandle,usable.2.2] using other
      have owes := opened answer.flow
      rw [owed,if_pos zero] at owes
      exact owes
  · intro answer succeeds success usable
    rw [publishesPortAndHandle,Bool.and_eq_true,bne_iff_ne,bne_iff_ne] at usable
    have owes := opened answer.flow
    rw [owed,if_neg usable.2] at owes
    rw [if_neg (by simp [succeeds,success,usable.1])]
    exact owes

theorem loadEvent_idle {client : ScopedClient} : (flowLease api usable).Idle (loadEvent client) := by
  unfold loadEvent
  refine idle_call (fun _ => rfl) (fun _ => rfl) fun rc => ?_
  split
  · exact idle_pure _
  · exact idle_pure _

theorem openRetained_idle (remaining : Nat) {client : Nat} :
    (flowLease api usable).Idle (openRetained remaining client) := by
  induction remaining generalizing client with
  | zero => exact idle_pure _
  | succ remaining ih =>
    unfold openRetained
    refine idle_call (fun _ => rfl) (fun _ => rfl) fun rc => ?_
    split
    · exact idle_pure _
    · exact ih

theorem closeRetained_idle (remaining : Nat) {client : Nat} :
    (flowLease api usable).Idle (closeRetained remaining client) := by
  induction remaining generalizing client with
  | zero => exact idle_pure _
  | succ remaining ih => exact idle_call (fun _ => rfl) (fun _ => rfl) fun _ => ih

/-- The echo of a contract check closes nothing, and reports the service lost only when it is. -/
theorem contractEcho_reports {client : ScopedClient} {flow : UInt64} :
    (contractEcho api config client flow).Ensures fun trace echo => (flowLease api usable).Quiet trace ∧
      (echo.serviceLost = true → trace.any (flowLease api usable).lost = true) := by
  unfold contractEcho
  refine ensures_perform_bind.mpr fun script => ⟨?_,fun reported => ?_⟩
  · exact List.forall_mem_cons.mpr ⟨⟨rfl,rfl⟩,nofun⟩
  · have failure := WaitGoal.reports_lost reported
    exact List.any_eq_true.mpr ⟨_,List.mem_cons_self,failure⟩

section Clone

variable {primary : ScopedClient} {client : Nat} {flow : UInt64}
  {next : Except ContractFailure ScopedClient → TunnelProgram α}

theorem exchangeOverClone_owes (refused : ∀ failure, (flowLease api usable).Idle (next (.error failure)))
    (verified : ∀ client, (flowLease api usable).Owes [] (next (.ok (opened client)))) :
    (flowLease api usable).Owes (owed flow)
      (exchangeOverClone api config primary (opened client) flow >>= next) := by
  have closing : ∀ failure, (flowLease api usable).Owes (owed flow)
      ((closeFlow (opened client) flow >>= fun _ => pure (.error failure)) >>= next) := by
    intro failure
    rw [bind_assoc]
    exact closeFlow_owes (refused failure).owes
  unfold exchangeOverClone
  dsimp only
  rw [bind_assoc]
  refine owes_bind_idle loadEvent_idle fun loaded => ?_
  cases loaded with
  | error failure => exact closing failure
  | ok =>
    dsimp only
    rw [bind_assoc]
    refine owes_call (fun _ => rfl) (fun _ => rfl) fun _ => ?_
    rw [bind_assoc]
    refine owes_bind_idle (openRetained_idle _) fun rc => ?_
    refine owes_ite_bind (fun _ => closing _) fun _ => ?_
    rw [bind_assoc]
    refine owes_call (fun _ => rfl) (fun _ => rfl) fun capacityRc => ?_
    refine owes_ite_bind (fun _ => ?_) fun _ => ?_
    · rw [bind_assoc]
      exact owes_call (fun _ => rfl) (fun _ => rfl) fun _ => closing _
    rw [bind_assoc]
    refine owes_call (fun _ => rfl) (fun _ => rfl) fun disposition => ?_
    refine owes_ite_bind (fun _ => closing _) fun _ => ?_
    rw [bind_assoc]
    apply owes_bind
    refine contractEcho_reports.mono fun trace echo ⟨quiet,reports⟩ => ⟨quiet,?_⟩
    split
    · split
      next lost => exact .inr ⟨reports lost,refused _⟩
      next => exact .inl (closing _)
    · refine .inl ?_
      rw [bind_assoc]
      apply closeFlow_owes
      rw [bind_assoc]
      refine owes_call (fun _ => rfl) (fun _ => rfl) fun _ => ?_
      rw [bind_assoc]
      refine owes_bind_idle (closeRetained_idle _) fun _ => ?_
      rw [bind_assoc]
      refine owes_call (fun _ => rfl) (fun _ => rfl) fun rc => ?_
      exact owes_ite_bind (fun _ => (refused _).owes) fun _ => verified _

theorem verifyClonedSessionLifetime_owes {destination : Bytes}
    (refused : ∀ failure, (flowLease api publishesPortAndHandle).Idle (next (.error failure)))
    (verified : ∀ client, (flowLease api publishesPortAndHandle).Owes [] (next (.ok (opened client)))) :
    (flowLease api publishesPortAndHandle).Owes []
      (verifyClonedSessionLifetime api config destination primary >>= next) := by
  unfold verifyClonedSessionLifetime
  rw [bind_assoc]
  refine owes_call (fun _ => rfl) (fun _ => rfl) fun rc => ?_
  refine owes_ite_bind (fun _ => (refused _).owes) fun _ => ?_
  rw [bind_assoc]
  refine owes_call (fun _ => rfl) (fun _ => rfl) fun capabilities => ?_
  refine owes_ite_bind (fun _ => (refused _).owes) fun _ => ?_
  rw [bind_assoc]
  exact owes_openFlow (fun failure => (refused failure).owes) fun flow => exchangeOverClone_owes refused verified

end Clone

section Batch

variable {client : Nat} {flow : UInt64} {next : Except ContractFailure Unit → TunnelProgram α}

theorem exchangeBatch_owes (ended : ∀ outcome, (flowLease api usable).Idle (next outcome)) :
    (flowLease api usable).Owes (owed flow)
      (exchangeBatch api config (opened client) flow >>= next) := by
  have closing : ∀ failure, (flowLease api usable).Owes (owed flow)
      ((closeFlow (opened client) flow >>= fun _ => pure (.error failure)) >>= next) := by
    intro failure
    rw [bind_assoc]
    exact closeFlow_owes (ended _).owes
  unfold exchangeBatch
  dsimp only
  rw [bind_assoc]
  refine owes_call (fun _ => rfl) (fun _ => rfl) fun batch => ?_
  refine owes_ite_bind (fun _ => closing _) fun _ => ?_
  rw [bind_assoc]
  refine owes_bind_idle loadEvent_idle fun loaded => ?_
  cases loaded with
  | error failure => exact closing failure
  | ok =>
    dsimp only
    rw [bind_assoc]
    apply owes_bind
    refine contractEcho_reports.mono fun trace echo ⟨quiet,reports⟩ => ⟨quiet,?_⟩
    split
    next =>
      refine .inl ?_
      rw [bind_assoc]
      apply closeFlow_owes
      split <;> exact (ended _).owes
    next kept =>
      refine .inr ⟨reports (by simpa using kept),?_⟩
      split <;> exact ended _

theorem verifyMixedBatch_owes {destination : Bytes}
    (ended : ∀ outcome, (flowLease api publishesPortAndHandle).Idle (next outcome)) :
    (flowLease api publishesPortAndHandle).Owes []
      (verifyMixedBatch api config destination (opened client) >>= next) := by
  unfold verifyMixedBatch
  rw [bind_assoc]
  exact owes_openFlow (fun failure => (ended _).owes) fun flow => exchangeBatch_owes ended

end Batch

theorem validateContract_owes {contract : TunnelContractValidationConfig} {destination : Bytes}
    {next : Except ContractFailure Unit → TunnelProgram α}
    (ended : ∀ outcome, (flowLease api publishesPortAndHandle).Idle (next outcome)) :
    (flowLease api publishesPortAndHandle).Owes [] (validateContract api config contract destination >>= next) := by
  have batch : ∀ client, (flowLease api publishesPortAndHandle).Owes []
      ((if contract.verifyMixedBatch then verifyMixedBatch api config destination (opened client)
        else pure (.ok ())) >>= next) := by
    intro client
    exact owes_ite_bind (fun _ => verifyMixedBatch_owes ended) fun _ => (ended _).owes
  unfold validateContract
  dsimp only
  split
  · rw [bind_assoc]
    exact verifyClonedSessionLifetime_owes (fun failure => ended _) batch
  · exact batch 0

theorem runWgnxTunnelContractValidation_owes {contract : TunnelContractValidationConfig} :
    (flowLease api publishesPortAndHandle).Owes [] (runWgnxTunnelContractValidation api config contract) := by
  unfold runWgnxTunnelContractValidation
  dsimp only
  refine owes_ite (fun _ => owes_pure _) fun _ => ?_
  refine owes_call (fun _ => rfl) (fun _ => rfl) fun availability => ?_
  refine owes_ite (fun _ => owes_pure _) fun _ => ?_
  refine owes_ite (fun _ => owes_pure _) fun _ => ?_
  split
  · exact owes_pure _
  refine owes_call (fun _ => rfl) (fun _ => rfl) fun rc => ?_
  refine owes_ite (fun _ => owes_pure _) fun _ => ?_
  refine owes_call (fun _ => rfl) (fun _ => rfl) fun capabilities => ?_
  refine owes_ite (fun _ => owes_pure _) fun _ => ?_
  refine owes_ite (fun _ => owes_pure _) fun _ => ?_
  refine owes_call (fun _ => rfl) (fun _ => rfl) fun rc => ?_
  refine owes_ite (fun _ => owes_pure _) fun _ => ?_
  apply validateContract_owes
  rintro (failure | _)
  · exact idle_pure _
  · exact idle_pure _

/-- The flows that a service opens in the run of a scenario are all closed again, exactly once each and
unless a failure shows the service lost behind the open, if and only if the scenario took each of them
over: it leaves a flow that was reported opened without a local port as it is, and the contract
validation one with the handle 0 as well. -/
theorem flows_closed_iff (api : TunnelApi) (profile : RuntimeProfile) (workloadId : UInt32) (tcp : TcpScenarioConfig)
    (config : TunnelUdpWorkloadConfig) (contract : TunnelContractValidationConfig)
    (service : Service TunnelCommand.Answer) :
    let udpTrace := ((runWgnxTunnelUdpWorkload api config).run service []).1
    let tcpTrace := ((runWgnxTunnelTcpExchange api profile workloadId tcp).run service []).1
    let contractTrace := ((runWgnxTunnelContractValidation api config contract).run service []).1
    ((flowLease api publishesPort).Returned udpTrace ↔ (flowLease api publishesPort).TakenOver udpTrace) ∧
    ((flowLease api publishesPort).Returned tcpTrace ↔ (flowLease api publishesPort).TakenOver tcpTrace) ∧
    ((flowLease api publishesPortAndHandle).Returned contractTrace ↔
      (flowLease api publishesPortAndHandle).TakenOver contractTrace) :=
  ⟨runWgnxTunnelUdpWorkload_owes.returned_iff service,runWgnxTunnelTcpExchange_owes.returned_iff service,
    runWgnxTunnelContractValidation_owes.returned_iff service⟩

end Scenarios

section PortlessService

def portlessApi : TunnelApi where
  maximumUdpPayloadStorageBytes := 65536
  maximumFlowsPerClient := 8
  tunApiVersion := 1
  connectedIpv4Tcp := 1
  maximumClientContexts := 4
  terminalReasonNumber _ := 0
  rttMeanMilliseconds := "0.500000".toList
  inetPton _ := some [10,0,0,1]

/-- A service that opens flow 5 but reports no local port for it. -/
def portlessService : Service TunnelCommand.Answer := fun _ command => match command with
  | .queryServiceAvailability => ⟨0,true⟩
  | .getTunCapabilities => ⟨0,1,1,1400,1400⟩
  | .openConnectedFlow _ _ => ⟨0,.success,5,0⟩
  | .openRoot | .openTunnelClient _ | .getCompletionEvent _ | .cloneTunnelClient _ _ => 0
  | .getCapabilities _ => ⟨0,1,1,1400,1400⟩
  | .getRoutingPolicySnapshot _ => ⟨0,0,0⟩
  | .closeFlow _ _ | .shutdownTcpWrite _ _ => ⟨0,.success⟩
  | .getFlowState _ _ => ⟨0,.success,.open,.tcp,0⟩
  | .sendUdpDatagram _ _ _ | .writeTcpStream _ _ _ => ⟨0,.success,0⟩
  | .sendUdpDatagramBatch _ _ _ => ⟨0,[]⟩
  | .waitFor _ _ _ _ => ⟨0,0,[]⟩
  | .closeClient _ | .sleepMilliseconds _ => ()

def portlessProfile : RuntimeProfile := ⟨"default".toList,"10.0.0.1".toList,"10.0.0.1".toList,7,7⟩

theorem flows_not_closed : ¬ ∀ (api : TunnelApi) (profile : RuntimeProfile) (workloadId : UInt32)
    (tcp : TcpScenarioConfig) (config : TunnelUdpWorkloadConfig) (contract : TunnelContractValidationConfig)
    (service : Service TunnelCommand.Answer),
    (flowLease api publishesPort).Returned ((runWgnxTunnelUdpWorkload api config).run service []).1 ∧
    (flowLease api publishesPort).Returned ((runWgnxTunnelTcpExchange api profile workloadId tcp).run service []).1 ∧
    (flowLease api publishesPortAndHandle).Returned
      ((runWgnxTunnelContractValidation api config contract).run service []).1 := by
  intro closed
  let workload : TunnelUdpWorkloadConfig := ⟨"10.0.0.1".toList,7,1,64,1,0,1,1000,0,true⟩
  obtain ⟨_,returned,_⟩ := closed portlessApi portlessProfile 1 ⟨1000⟩ workload ⟨true,true⟩ portlessService
  have unreturned := returned.all [⟨.queryServiceAvailability,⟨0,true⟩⟩,⟨.openRoot,(0 : UInt32)⟩,
    ⟨.getTunCapabilities,⟨0,1,1,1400,1400⟩⟩,⟨.openTunnelClient 0,(0 : UInt32)⟩,⟨.getCompletionEvent 0,(0 : UInt32)⟩]
    ⟨.openConnectedFlow 0 ⟨[10,0,0,1],7,.tcp,1⟩,⟨0,.success,5,0⟩⟩ [] 5 rfl rfl
  revert unreturned
  decide

end PortlessService

end NxReverse.Toolbox
