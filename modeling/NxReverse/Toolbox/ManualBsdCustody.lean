import NxReverse.Toolbox.ManualBsdLifecycle

/-! What a run of the manual `bsd:s` lifecycle holds, and what its result says of the phases that it went through. -/
namespace NxReverse.Toolbox.ManualBsd

open Text Words Program Custody

/-- `absent` stands for a member that was never obtained. -/
inductive Held where
  | session (handle : UInt32)
  | memory (handle : UInt32)
  | absent
  deriving DecidableEq, Repr

/-- A session that is not owned is not given back. -/
def Service.held (service : Service) : List Held := if service.ownHandle ≠ 0 then [.session service.session] else []

def heldService : Option ActiveService → List Held
  | none => []
  | some service => service.val.held

def heldMemory : Option TransferMemory → List Held
  | none => []
  | some memory => [.memory memory.handle]

def neededService : Option ActiveService → List Held
  | none => [.absent]
  | some service => service.val.held

def neededMemory : Option TransferMemory → List Held
  | none => [.absent]
  | some memory => [.memory memory.handle]

def BsdCommand.needs : BsdCommand → List Held
  | registerClient root _ memory => neededService root ++ neededMemory memory
  | startMonitoring monitor _ => neededService monitor
  | serviceClone root => neededService root
  | sendCloseRequest session objectId => if objectId = 0 then [.session session] else []
  | _ => []

def BsdCommand.frees : BsdCommand → Option Held
  | closeHandle handle => some (.session handle)
  | tmemClose memory => some (.memory memory.handle)
  | _ => none

def grants : BsdExchange → List Held
  | ⟨.smGetService _,.ok service⟩ | ⟨.serviceClone _,.ok service⟩ => service.val.held
  | ⟨.tmemCreate _,.ok memory⟩ => [.memory memory.handle]
  | _ => []

def bsdCustody : Custody BsdExchange Held where
  needs e := e.command.needs
  bars _ _ := false
  frees e := e.command.frees
  grants := grants

def ManualBsdState.held (state : ManualBsdState) : List Held :=
  heldService state.clone ++ (heldMemory state.transferMemory ++ (heldService state.monitor ++ heldService state.root))

section Cleanup

variable {held front : List Held}

/-- The service may be held behind memory that is closed later. -/
theorem minds_closeServiceTraced (memory : Option TransferMemory) (service : Option ActiveService) :
    bsdCustody.Minds (heldMemory memory ++ (heldService service ++ held)) (closeServiceTraced service)
      fun left _ => left = heldMemory memory ++ held := by
  cases service with
  | none => exact minds_pure rfl
  | some service =>
    obtain ⟨service,active⟩ := service
    by_cases owned : service.ownHandle ≠ 0
    · have holds : heldService (some ⟨service,active⟩) = [.session service.session] := if_pos owned
      have member : Held.session service.session ∈ heldMemory memory ++ ([Held.session service.session] ++ held) :=
        List.mem_append_right _ List.mem_cons_self
      have leaves : (heldMemory memory ++ ([Held.session service.session] ++ held)).erase (Held.session service.session) =
          heldMemory memory ++ held := by
        cases memory with
        | none => exact List.erase_cons_head _ _
        | some memory => exact congrArg (Held.memory memory.handle :: ·) (List.erase_cons_head _ _)
      rw [holds,closeServiceTraced,if_pos owned]
      refine minds_ask (fun _ k needed => ?_) (fun _ _ _ => rfl) (fun _ => rfl) fun _ => ?_
      · cases List.mem_singleton.mp needed
        exact member
      · exact minds_free nofun (fun _ _ _ => rfl) (fun _ => rfl) (fun _ => rfl) member leaves fun _ => minds_pure rfl
    · have holds : heldService (some ⟨service,active⟩) = [] := if_neg owned
      rw [holds,closeServiceTraced,if_neg owned]
      refine minds_ite (fun object => ?_) fun _ => minds_pure rfl
      refine minds_ask (fun answer k needed => ?_) (fun _ _ _ => rfl) (fun _ => rfl) fun _ => minds_pure rfl
      rw [show bsdCustody.needs ⟨.sendCloseRequest service.session service.objectId,answer⟩ = [] from if_neg object]
        at needed
      cases needed

theorem minds_cleanup (state : ManualBsdState) : bsdCustody.Minds state.held (cleanup state) fun left _ => left = [] := by
  have clone : bsdCustody.Minds state.held (closeServiceTraced state.clone) fun left _ =>
      left = heldMemory state.transferMemory ++ (heldService state.monitor ++ heldService state.root) :=
    minds_closeServiceTraced none state.clone
  refine Minds.leading clone fun _ => ?_
  refine Minds.leading (minds_closeServiceTraced state.transferMemory state.monitor) fun _ => ?_
  have root : bsdCustody.Minds (heldMemory state.transferMemory ++ heldService state.root)
      (closeServiceTraced state.root) fun left _ => left = heldMemory state.transferMemory ++ [] := by
    have appended := @minds_closeServiceTraced [] state.transferMemory state.root
    rwa [List.append_nil] at appended
  refine Minds.leading root fun _ => ?_
  cases state.transferMemory with
  | none => exact minds_pure rfl
  | some memory =>
    exact minds_free nofun (fun _ _ _ => rfl) (fun _ => rfl) (fun _ => rfl) List.mem_cons_self
      (List.erase_cons_head _ _) fun _ => minds_pure rfl

end Cleanup

section Phases

variable {α : Type} {root : ActiveService} {monitor : Option ActiveService} {memory : Option TransferMemory}

def Lost (left : List Held) (failure : PhaseFailure) : Prop := left = failure.state.held

theorem minds_openRoot : bsdCustody.Minds [] (openRoot .start).run
    (Ends (fun left state => ∃ root, state = ⟨some root,none,none,none⟩ ∧ left = state.held) Lost) := by
  refine minds_ask nofun nofun (fun _ => rfl) fun answer => ?_
  cases answer with
  | error rc => exact minds_pure rfl
  | ok root => exact minds_pure ⟨root,rfl,List.append_nil _⟩

theorem minds_openMonitor : bsdCustody.Minds (ManualBsdState.held ⟨some root,none,none,none⟩)
    (openMonitor ⟨some root,none,none,none⟩).run
    (Ends (fun left state => ∃ monitor, state = ⟨some root,some monitor,none,none⟩ ∧ left = state.held) Lost) := by
  refine minds_ask nofun (fun _ _ _ => rfl) (fun _ => rfl) fun answer => ?_
  cases answer with
  | error rc => exact minds_pure rfl
  | ok monitor => exact minds_pure ⟨monitor,rfl,rfl⟩

theorem minds_createTmem (config : SocketInitConfig) :
    bsdCustody.Minds (ManualBsdState.held ⟨some root,monitor,none,none⟩) (createTmem config ⟨some root,monitor,none,none⟩).run
    (Ends (fun left state => ∃ memory, state = ⟨some root,monitor,none,some memory⟩ ∧ left = state.held) Lost) := by
  refine minds_ask nofun (fun _ _ _ => rfl) (fun _ => rfl) fun answer => ?_
  cases answer with
  | error rc => exact minds_pure rfl
  | ok memory => exact minds_pure ⟨memory,rfl,rfl⟩

theorem minds_registerClient (version : UInt32) (config : SocketInitConfig) (created : memory.isSome) :
    bsdCustody.Minds (ManualBsdState.held ⟨some root,monitor,none,memory⟩)
    (registerClient version config ⟨some root,monitor,none,memory⟩).run
    (Ends (fun left _ => left = ManualBsdState.held ⟨some root,monitor,none,memory⟩) Lost) := by
  obtain ⟨memory,rfl⟩ := Option.isSome_iff_exists.mp created
  refine minds_ask (fun _ k needed => ?_) (fun _ _ _ => rfl) (fun _ => rfl) fun answer => ?_
  · rcases List.mem_append.mp needed with ofRoot | ofMemory
    · exact List.mem_cons_of_mem _ (List.mem_append_right _ (List.mem_append_right _ ofRoot))
    · cases List.mem_singleton.mp ofMemory
      exact List.mem_cons_self
  cases answer with
  | error rc => exact minds_pure rfl
  | ok clientId => exact minds_pure rfl

theorem minds_startMonitoring (clientId : UInt64) (opened : monitor.isSome) :
    bsdCustody.Minds (ManualBsdState.held ⟨some root,monitor,none,memory⟩)
    (startMonitoring clientId ⟨some root,monitor,none,memory⟩).run
    (Ends (fun left _ => left = ManualBsdState.held ⟨some root,monitor,none,memory⟩) Lost) := by
  obtain ⟨monitor,rfl⟩ := Option.isSome_iff_exists.mp opened
  refine minds_ask (fun _ k needed => ?_) (fun _ _ _ => rfl) (fun _ => rfl) fun answer => ?_
  · exact List.mem_append_right _ (List.mem_append_right _ (List.mem_append_left _ needed))
  cases answer with
  | error rc => exact minds_pure rfl
  | ok done => exact minds_pure rfl

theorem minds_cloneRoot : bsdCustody.Minds (ManualBsdState.held ⟨some root,monitor,none,memory⟩)
    (cloneRoot ⟨some root,monitor,none,memory⟩).run (Ends (fun left state => left = state.held) Lost) := by
  refine minds_ask (fun _ k needed => ?_) (fun _ _ _ => rfl) (fun _ => rfl) fun answer => ?_
  · exact List.mem_append_right _ (List.mem_append_right _ (List.mem_append_right _ needed))
  cases answer with
  | error rc => exact minds_pure rfl
  | ok clone => exact minds_pure rfl

variable (phases : ManualBsdConfig) (version : UInt32) (config : SocketInitConfig)

theorem minds_ifEnabled {enabled : Bool} {held : List Held} {phase : PhaseProgram α} {skipped : α}
    {kept : List Held → α → Prop} (runs : enabled = true → bsdCustody.Minds held phase.run (Ends kept Lost))
    (skips : enabled = false → kept held skipped) :
    bsdCustody.Minds held (ifEnabled enabled phase skipped).run (Ends kept Lost) := by
  cases enabled with
  | true => exact runs rfl
  | false => exact minds_pure (skips rfl)

theorem minds_runPhases : bsdCustody.Minds [] (runPhases phases version config).run
    (Ends (fun left result => left = result.1.held) Lost) := by
  refine minds_then minds_openRoot ?_
  rintro _ _ ⟨root,rfl,rfl⟩
  have monitors : bsdCustody.Minds (ManualBsdState.held ⟨some root,none,none,none⟩)
      (ifEnabled phases.openMonitorSession (openMonitor ⟨some root,none,none,none⟩) ⟨some root,none,none,none⟩).run
      (Ends (fun left state => ∃ monitor, state = ⟨some root,monitor,none,none⟩ ∧
        (phases.openMonitorSession = true → monitor.isSome) ∧ left = state.held) Lost) := by
    refine minds_ifEnabled (fun _ => minds_openMonitor.mono (Ends.mono ?_)) fun off =>
      ⟨none,rfl,fun on => absurd (off.symm.trans on) Bool.false_ne_true,rfl⟩
    rintro _ _ ⟨monitor,rfl,rfl⟩
    exact ⟨some monitor,rfl,fun _ => rfl,rfl⟩
  refine minds_then monitors ?_
  rintro _ _ ⟨monitor,rfl,opened,rfl⟩
  have creates : bsdCustody.Minds (ManualBsdState.held ⟨some root,monitor,none,none⟩)
      (ifEnabled phases.createTransferMemory (createTmem config ⟨some root,monitor,none,none⟩)
        ⟨some root,monitor,none,none⟩).run
      (Ends (fun left state => ∃ memory, state = ⟨some root,monitor,none,memory⟩ ∧
        (phases.createTransferMemory = true → memory.isSome) ∧ left = state.held) Lost) := by
    refine minds_ifEnabled (fun _ => (minds_createTmem config).mono (Ends.mono ?_)) fun off =>
      ⟨none,rfl,fun on => absurd (off.symm.trans on) Bool.false_ne_true,rfl⟩
    rintro _ _ ⟨memory,rfl,rfl⟩
    exact ⟨some memory,rfl,fun _ => rfl,rfl⟩
  refine minds_then creates ?_
  rintro _ _ ⟨memory,rfl,created,rfl⟩
  have registers : bsdCustody.Minds (ManualBsdState.held ⟨some root,monitor,none,memory⟩)
      (ifEnabled phases.registerClient (registerClient version config ⟨some root,monitor,none,memory⟩)
        0xFFFFFFFFFFFFFFFF).run
      (Ends (fun left _ => left = ManualBsdState.held ⟨some root,monitor,none,memory⟩) Lost) :=
    minds_ifEnabled (fun on => minds_registerClient version config (created (phases.registersMemory on))) fun _ => rfl
  refine minds_then registers ?_
  rintro _ clientId rfl
  have starts : bsdCustody.Minds (ManualBsdState.held ⟨some root,monitor,none,memory⟩)
      (ifEnabled phases.startMonitoring (startMonitoring clientId ⟨some root,monitor,none,memory⟩) ()).run
      (Ends (fun left _ => left = ManualBsdState.held ⟨some root,monitor,none,memory⟩) Lost) :=
    minds_ifEnabled (fun on => minds_startMonitoring clientId (opened (phases.monitorsSession on))) fun _ => rfl
  refine minds_then starts ?_
  rintro _ _ rfl
  refine minds_then (minds_ifEnabled (fun _ => minds_cloneRoot) fun _ => rfl) ?_
  rintro _ state rfl
  exact minds_pure rfl

theorem minds_runManualBsdLifecycle : bsdCustody.Minds [] (runManualBsdLifecycle phases) fun left _ => left = [] := by
  refine minds_ask nofun nofun (fun _ => rfl) fun isApplication => ?_
  refine minds_ask nofun nofun (fun _ => rfl) fun hosversion => ?_
  refine Minds.bind ((minds_runPhases phases _ _).mono fun left result ends => ?_)
  cases result with
  | error failure =>
    cases ends
    exact Minds.leading (minds_cleanup failure.state) fun _ => minds_pure rfl
  | ok result =>
    cases ends
    refine Minds.leading (minds_cleanup result.1) fun rc => ?_
    exact minds_ite (fun _ => minds_pure rfl) fun _ => minds_pure rfl

/-- Whatever is answered, and whichever phases are compiled in: nothing is called through a service or with memory that
is not there, and every owned session and the memory are given back once. -/
theorem runManualBsdLifecycle_disciplined (service : Program.Service BsdCommand.Answer) :
    bsdCustody.Disciplined ((runManualBsdLifecycle phases).run service []).1 :=
  (minds_runManualBsdLifecycle phases).disciplined service

end Phases

end NxReverse.Toolbox.ManualBsd
