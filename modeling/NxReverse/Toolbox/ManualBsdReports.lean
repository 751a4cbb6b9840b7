import NxReverse.Toolbox.ManualBsdLifecycle

/-! What the result of the manual `bsd:s` lifecycle says of the phases that the run went through. -/
namespace NxReverse.Toolbox.ManualBsd

open Text Words Program

def codeOf {α : Type} : Except Failure α → UInt32
  | .ok _ => 0
  | .error rc => rc

/-- The calls that the phases make. Both sessions are had from the service manager. -/
inductive PhaseCall where
  | smGetService
  | tmemCreate
  | registerClient
  | startMonitoring
  | serviceClone
  deriving DecidableEq, Repr

def phaseCode : BsdExchange → Option (PhaseCall × UInt32)
  | ⟨.smGetService _,answer⟩ => some (.smGetService,codeOf answer)
  | ⟨.tmemCreate _,answer⟩ => some (.tmemCreate,codeOf answer)
  | ⟨.registerClient _ _ _,answer⟩ => some (.registerClient,codeOf answer)
  | ⟨.startMonitoring _ _,answer⟩ => some (.startMonitoring,codeOf answer)
  | ⟨.serviceClone _,answer⟩ => some (.serviceClone,codeOf answer)
  | _ => none

def closeCode : BsdExchange → Option UInt32
  | ⟨.tmemClose _,rc⟩ => some rc
  | _ => none

def registeredId : BsdExchange → Option UInt64
  | ⟨.registerClient _ _ _,.ok clientId⟩ => some clientId
  | _ => none

abbrev Phase := CString × PhaseCall

def enabledPhases (phases : ManualBsdConfig) : List Phase :=
  ("open_root".toList,.smGetService) ::
    ((if phases.openMonitorSession then [("open_monitor".toList,.smGetService)] else []) ++
      ((if phases.createTransferMemory then [("create_tmem".toList,.tmemCreate)] else []) ++
        ((if phases.registerClient then [("register_client".toList,.registerClient)] else []) ++
          ((if phases.startMonitoring then [("start_monitoring".toList,.startMonitoring)] else []) ++
            (if phases.cloneRootSession then [("clone_root".toList,.serviceClone)] else [])))))

/-- What is called when these phases all succeed. -/
def allZero (names : List Phase) : List (PhaseCall × UInt32) := names.map fun phase => (phase.2,0)

/-- What the result of a run says: the first phase that failed and how, or that the memory could not be closed, or that
every enabled phase was gone through, with the client id that the registration gave. -/
inductive Tells (phases : ManualBsdConfig) (trace : List BsdExchange) : ScenarioResult → Prop where
  | failed {before after : List Phase} {label : CString} {call : PhaseCall} {rc : UInt32}
      (split : enabledPhases phases = before ++ (label,call) :: after)
      (codes : trace.filterMap phaseCode = allZero before ++ [(call,rc)]) (fails : rc ≠ 0) :
      Tells phases trace (.failure scenarioName rc (label ++ " failed: ".toList ++ formatResult rc))
  | unclosed {rc : UInt32} (codes : trace.filterMap phaseCode = allZero (enabledPhases phases))
      (closed : trace.filterMap closeCode = [rc]) (fails : rc ≠ 0) :
      Tells phases trace (.failure scenarioName rc ("cleanup failed: ".toList ++ formatResult rc))
  | success (codes : trace.filterMap phaseCode = allZero (enabledPhases phases))
      (closed : ∀ rc ∈ trace.filterMap closeCode, rc = 0) :
      Tells phases trace ⟨scenarioName,true,false,0,0,0,
        successText phases ((trace.filterMap registeredId).head?.getD 0xFFFFFFFFFFFFFFFF)⟩

section Phases

variable {α β : Type} {names more : List Phase} {x : PhaseProgram α} {g : α → PhaseProgram β}

/-- These phases, up to the first that fails; none of them closes the memory. -/
def Passed (names : List Phase) (trace : List BsdExchange) : Except PhaseFailure α → Prop
  | .ok _ => trace.filterMap phaseCode = allZero names ∧ trace.filterMap closeCode = []
  | .error failure => (∃ before call after, names = before ++ (failure.phase,call) :: after ∧
      trace.filterMap phaseCode = allZero before ++ [(call,failure.rc.val)]) ∧ trace.filterMap closeCode = []

def Goes (names : List Phase) (x : PhaseProgram α) : Prop := x.run.Ensures (Passed names)

theorem goes_pure (value : α) : Goes [] (pure value) := ⟨rfl,rfl⟩

theorem Goes.bind (first : Goes names x) (later : ∀ value, Goes more (g value)) : Goes (names ++ more) (x >>= g) := by
  refine ensures_bind.mpr (Ensures.mono first fun trace outcome passed => ?_)
  cases outcome with
  | error failure =>
    obtain ⟨⟨before,call,after,split,codes⟩,closed⟩ := passed
    refine ⟨⟨before,call,after ++ more,?_,?_⟩,?_⟩
    · rw [split,List.append_assoc,List.cons_append]
    · rw [List.append_nil,codes]
    · rw [List.append_nil,closed]
  | ok value =>
    obtain ⟨codes,closed⟩ := passed
    refine Ensures.mono (later value) fun behind result passed => ?_
    cases result with
    | ok result =>
      refine ⟨?_,?_⟩
      · rw [List.filterMap_append,codes,passed.1,allZero,allZero,allZero,List.map_append]
      · rw [List.filterMap_append,closed,passed.2,List.append_nil]
    | error failure =>
      obtain ⟨⟨before,call,after,split,behindCodes⟩,behindClosed⟩ := passed
      refine ⟨⟨names ++ before,call,after,?_,?_⟩,?_⟩
      · rw [split,List.append_assoc]
      · rw [List.filterMap_append,codes,behindCodes,allZero,allZero,allZero,List.map_append,
          List.append_assoc]
      · rw [List.filterMap_append,closed,behindClosed,List.append_nil]

theorem goes_ifEnabled {enabled : Bool} {phase : PhaseProgram α} {skipped : α} (runs : Goes names phase) :
    Goes (if enabled then names else []) (ifEnabled enabled phase skipped) := by
  cases enabled with
  | true => exact runs
  | false => exact goes_pure skipped

theorem goes_openRoot (state : ManualBsdState) : Goes [("open_root".toList,.smGetService)] (openRoot state) := by
  refine ensures_perform_bind.mpr fun answer => ?_
  cases answer with
  | error rc => exact ⟨⟨[],_,[],rfl,rfl⟩,rfl⟩
  | ok root => exact ⟨rfl,rfl⟩

theorem goes_openMonitor (state : ManualBsdState) : Goes [("open_monitor".toList,.smGetService)] (openMonitor state) := by
  refine ensures_perform_bind.mpr fun answer => ?_
  cases answer with
  | error rc => exact ⟨⟨[],_,[],rfl,rfl⟩,rfl⟩
  | ok monitor => exact ⟨rfl,rfl⟩

theorem goes_createTmem (config : SocketInitConfig) (state : ManualBsdState) :
    Goes [("create_tmem".toList,.tmemCreate)] (createTmem config state) := by
  refine ensures_perform_bind.mpr fun answer => ?_
  cases answer with
  | error rc => exact ⟨⟨[],_,[],rfl,rfl⟩,rfl⟩
  | ok memory => exact ⟨rfl,rfl⟩

theorem goes_registerClient (version : UInt32) (config : SocketInitConfig) (state : ManualBsdState) :
    Goes [("register_client".toList,.registerClient)] (registerClient version config state) := by
  refine ensures_perform_bind.mpr fun answer => ?_
  cases answer with
  | error rc => exact ⟨⟨[],_,[],rfl,rfl⟩,rfl⟩
  | ok clientId => exact ⟨rfl,rfl⟩

theorem goes_startMonitoring (clientId : UInt64) (state : ManualBsdState) :
    Goes [("start_monitoring".toList,.startMonitoring)] (startMonitoring clientId state) := by
  refine ensures_perform_bind.mpr fun answer => ?_
  cases answer with
  | error rc => exact ⟨⟨[],_,[],rfl,rfl⟩,rfl⟩
  | ok done => exact ⟨rfl,rfl⟩

theorem goes_cloneRoot (state : ManualBsdState) : Goes [("clone_root".toList,.serviceClone)] (cloneRoot state) := by
  refine ensures_perform_bind.mpr fun answer => ?_
  cases answer with
  | error rc => exact ⟨⟨[],_,[],rfl,rfl⟩,rfl⟩
  | ok clone => exact ⟨rfl,rfl⟩

variable (phases : ManualBsdConfig) (version : UInt32) (config : SocketInitConfig)

theorem goes_runPhases : Goes (enabledPhases phases) (runPhases phases version config) := by
  refine Goes.bind (goes_openRoot _) fun state => ?_
  refine Goes.bind (goes_ifEnabled (goes_openMonitor state)) fun state => ?_
  refine Goes.bind (goes_ifEnabled (goes_createTmem config state)) fun state => ?_
  refine Goes.bind (goes_ifEnabled (goes_registerClient version config state)) fun clientId => ?_
  refine Goes.bind (goes_ifEnabled (goes_startMonitoring clientId state)) fun _ => ?_
  have last : Goes ((if phases.cloneRootSession then [("clone_root".toList,.serviceClone)] else []) ++ [])
      (ifEnabled phases.cloneRootSession (cloneRoot state) state >>= fun state => pure (state,clientId)) :=
    Goes.bind (goes_ifEnabled (goes_cloneRoot state)) fun state => goes_pure _
  rwa [List.append_nil] at last

end Phases

section ClientId

variable {α β : Type} {x : PhaseProgram α} {g : α → PhaseProgram β}

def Unregistered {α : Type} (x : PhaseProgram α) : Prop := x.run.Ensures fun trace _ => trace.filterMap registeredId = []

def Registered (trace : List BsdExchange) : Except PhaseFailure (ManualBsdState × UInt64) → Prop
  | .ok (_,clientId) => (trace.filterMap registeredId).head?.getD 0xFFFFFFFFFFFFFFFF = clientId
  | .error _ => True

theorem unregistered_call {command : BsdCommand} {next : command.Answer → PhaseProgram α}
    (none : ∀ answer, registeredId ⟨command,answer⟩ = none) (done : ∀ answer, Unregistered (next answer)) :
    Unregistered (call command >>= next) :=
  ensures_perform_bind.mpr fun answer => (done answer).mono fun trace _ quiet => by
    rw [List.filterMap_cons_none (none answer),quiet]

theorem unregistered_orFail (state : ManualBsdState) (phase : CString) (answer : Except Failure α) (leave : α → β) :
    Unregistered (orFail state phase answer >>= fun value => pure (leave value)) := by
  cases answer with
  | error rc => exact rfl
  | ok value => exact rfl

theorem unregistered_ifEnabled {enabled : Bool} {phase : PhaseProgram α} {skipped : α} (runs : Unregistered phase) :
    Unregistered (ifEnabled enabled phase skipped) := by
  cases enabled with
  | true => exact runs
  | false => exact rfl

theorem Unregistered.then_ {g : α → PhaseProgram (ManualBsdState × UInt64)} (first : Unregistered x)
    (later : ∀ value, (g value).run.Ensures Registered) : (x >>= g).run.Ensures Registered := by
  refine ensures_bind.mpr (Ensures.mono first fun trace outcome quiet => ?_)
  cases outcome with
  | error failure => exact trivial
  | ok value =>
    refine Ensures.mono (later value) fun behind result registered => ?_
    cases result with
    | error failure => exact trivial
    | ok result =>
      change ((trace ++ behind).filterMap registeredId).head?.getD _ = _
      rw [List.filterMap_append,quiet]
      exact registered

/-- Nothing behind the registration touches the client id. -/
def KeepsId (clientId : UInt64) (trace : List BsdExchange) : Except PhaseFailure (ManualBsdState × UInt64) → Prop
  | .ok result => trace.filterMap registeredId = [] ∧ result.2 = clientId
  | .error _ => trace.filterMap registeredId = []

theorem Unregistered.keepsId {g : α → PhaseProgram (ManualBsdState × UInt64)} {clientId : UInt64}
    (first : Unregistered x) (later : ∀ value, (g value).run.Ensures (KeepsId clientId)) :
    (x >>= g).run.Ensures (KeepsId clientId) := by
  refine ensures_bind.mpr (Ensures.mono first fun trace outcome quiet => ?_)
  cases outcome with
  | error failure =>
    change (trace ++ []).filterMap registeredId = []
    rw [List.append_nil,quiet]
  | ok value =>
    refine Ensures.mono (later value) fun behind result kept => ?_
    have appended : (trace ++ behind).filterMap registeredId = behind.filterMap registeredId := by
      rw [List.filterMap_append,quiet,List.nil_append]
    cases result with
    | error failure => exact appended.trans kept
    | ok result => exact ⟨appended.trans kept.1,kept.2⟩

theorem ensures_registerClient (version : UInt32) (config : SocketInitConfig) (state : ManualBsdState) :
    (registerClient version config state).run.Ensures fun trace outcome => match outcome with
      | .ok clientId => trace.filterMap registeredId = [clientId]
      | .error _ => True := by
  refine ensures_perform_bind.mpr fun answer => ?_
  cases answer with
  | error rc => exact trivial
  | ok clientId => exact rfl

theorem registered_runPhases (phases : ManualBsdConfig) (version : UInt32) (config : SocketInitConfig) :
    (runPhases phases version config).run.Ensures Registered := by
  refine Unregistered.then_ (unregistered_call (fun _ => rfl) fun answer => unregistered_orFail _ _ answer _) fun state => ?_
  refine Unregistered.then_ (unregistered_ifEnabled
    (unregistered_call (fun _ => rfl) fun answer => unregistered_orFail _ _ answer _)) fun state => ?_
  refine Unregistered.then_ (unregistered_ifEnabled
    (unregistered_call (fun _ => rfl) fun answer => unregistered_orFail _ _ answer _)) fun state => ?_
  have rest : ∀ clientId, (ifEnabled phases.startMonitoring (startMonitoring clientId state) () >>= fun _ =>
      ifEnabled phases.cloneRootSession (cloneRoot state) state >>= fun state =>
        (pure (state,clientId) : PhaseProgram (ManualBsdState × UInt64))).run.Ensures (KeepsId clientId) := by
    intro clientId
    have monitors : Unregistered (startMonitoring clientId state) :=
      unregistered_call (fun _ => rfl) fun answer => by cases answer <;> exact rfl
    have clones : Unregistered (cloneRoot state) :=
      unregistered_call (fun _ => rfl) fun answer => unregistered_orFail _ _ answer _
    exact (unregistered_ifEnabled monitors).keepsId fun _ => (unregistered_ifEnabled clones).keepsId fun _ => ⟨rfl,rfl⟩
  cases registers : phases.registerClient with
  | false =>
    refine Ensures.mono (rest 0xFFFFFFFFFFFFFFFF) fun trace outcome kept => ?_
    cases outcome with
    | error failure => exact trivial
    | ok result =>
      obtain ⟨none,id⟩ := kept
      change (trace.filterMap registeredId).head?.getD _ = result.2
      rw [none,id]
      rfl
  | true =>
    refine ensures_bind.mpr (Ensures.mono (ensures_registerClient version config state) fun trace outcome gives => ?_)
    cases outcome with
    | error failure => exact trivial
    | ok clientId =>
      refine Ensures.mono (rest clientId) fun behind outcome kept => ?_
      cases outcome with
      | error failure => exact trivial
      | ok result =>
        change ((trace ++ behind).filterMap registeredId).head?.getD _ = result.2
        rw [List.filterMap_append,gives,kept.2]
        rfl

end ClientId

theorem ensures_closeServiceTraced (service : Option ActiveService) : (closeServiceTraced service).Ensures fun trace _ =>
    trace.filterMap phaseCode = [] ∧ trace.filterMap closeCode = [] ∧ trace.filterMap registeredId = [] := by
  cases service with
  | none => exact ⟨rfl,rfl,rfl⟩
  | some service =>
    refine Ensures.ite (fun _ answer other => ⟨rfl,rfl,rfl⟩) fun _ => ?_
    exact Ensures.ite (fun _ answer => ⟨rfl,rfl,rfl⟩) fun _ => ⟨rfl,rfl,rfl⟩

/-- What `Cleanup` returns is what the close of the memory answered. -/
theorem ensures_cleanup (state : ManualBsdState) : (cleanup state).Ensures fun trace rc =>
    trace.filterMap phaseCode = [] ∧ trace.filterMap registeredId = [] ∧
      ((trace.filterMap closeCode = [] ∧ rc = 0) ∨ trace.filterMap closeCode = [rc]) := by
  refine ensures_bind.mpr (Ensures.mono (ensures_closeServiceTraced state.clone) fun clone _ cloneQuiet => ?_)
  refine ensures_bind.mpr (Ensures.mono (ensures_closeServiceTraced state.monitor) fun monitor _ monitorQuiet => ?_)
  refine ensures_bind.mpr (Ensures.mono (ensures_closeServiceTraced state.root) fun root _ rootQuiet => ?_)
  simp only [List.filterMap_append,cloneQuiet,monitorQuiet,rootQuiet,List.nil_append]
  cases state.transferMemory with
  | none => exact ⟨rfl,rfl,.inl ⟨rfl,rfl⟩⟩
  | some memory => exact fun rc => ⟨rfl,rfl,.inr rfl⟩

theorem tells_runManualBsdLifecycle (phases : ManualBsdConfig) :
    (runManualBsdLifecycle phases).Ensures (Tells phases) := by
  refine ensures_perform_bind.mpr fun isApplication => ensures_perform_bind.mpr fun hosversion => ?_
  have phased := Ensures.and (goes_runPhases phases (selectBsdVersion hosversion)
    (if isApplication then socketConfigApplication else socketConfigApplet)) (registered_runPhases phases _ _)
  refine ensures_bind.mpr (Ensures.mono phased fun trace outcome ⟨passed,registered⟩ => ?_)
  cases outcome with
  | error failure =>
    obtain ⟨⟨before,call,after,split,codes⟩,_⟩ := passed
    refine ensures_bind.mpr (Ensures.mono (ensures_cleanup failure.state) fun behind rc ⟨quiet,_,_⟩ => ?_)
    refine Tells.failed split ?_ failure.rc.property
    change (trace ++ (behind ++ [])).filterMap phaseCode = _
    rw [List.append_nil,List.filterMap_append,codes,quiet,List.append_nil]
  | ok result =>
    obtain ⟨state,clientId⟩ := result
    obtain ⟨codes,unclosed⟩ := passed
    refine ensures_bind.mpr (Ensures.mono (ensures_cleanup state) fun behind rc ⟨quiet,unregistered,closes⟩ => ?_)
    have allCodes : (trace ++ behind).filterMap phaseCode = allZero (enabledPhases phases) := by
      rw [List.filterMap_append,codes,quiet,List.append_nil]
    have allCloses : (trace ++ behind).filterMap closeCode = behind.filterMap closeCode := by
      rw [List.filterMap_append,unclosed,List.nil_append]
    have ids : (trace ++ behind).filterMap registeredId = trace.filterMap registeredId := by
      rw [List.filterMap_append,unregistered,List.append_nil]
    refine Ensures.ite (fun fails => ?_) fun zero => ?_
    · have closed : behind.filterMap closeCode = [rc] := closes.resolve_left fun none => fails none.2
      refine ensures_pure.mpr ?_
      rw [List.append_nil]
      exact .unclosed allCodes (allCloses.trans closed) fails
    · have zero : rc = 0 := not_not.mp zero
      have closed : ∀ code ∈ behind.filterMap closeCode, code = 0 := by
        intro code member
        rcases closes with ⟨none,_⟩ | one
        · rw [none] at member
          cases member
        · rw [one] at member
          exact (List.mem_singleton.mp member).trans zero
      refine ensures_pure.mpr ?_
      rw [List.append_nil,← show _ = clientId from registered,← ids]
      exact .success allCodes (by rw [← allCloses] at closed; exact closed)

/-- Whatever is answered, the result names the first phase that failed, or the failed close of the memory, or the client
id of a run that went through every enabled phase. -/
theorem runManualBsdLifecycle_tells (phases : ManualBsdConfig) (service : Program.Service BsdCommand.Answer) :
    Tells phases ((runManualBsdLifecycle phases).run service []).1 ((runManualBsdLifecycle phases).run service []).2 :=
  Ensures.of_run (tells_runManualBsdLifecycle phases) service

end NxReverse.Toolbox.ManualBsd
