import NxReverse.Probe.DriverProbe

/-! What a run of the probe holds: the two libraries it has initialised, its sessions and event handles, and the
interfaces that `Command5` has raised. -/
namespace NxReverse.Probe.DriverProbe

open Text Words Program Custody

inductive Held where
  | sm
  | nifm
  | session (session : Session)
  | event (handle : UInt32)
  | raised (interface : Session)
  deriving DecidableEq, Repr

def eventsOf (handles : List UInt32) : List Held := (handles.filter (· != invalidHandle)).map .event

def eventOf : Except Failure UInt32 → List Held
  | .ok handle => eventsOf [handle]
  | .error _ => []

def ProbeCommand.needs : ProbeCommand → List Held
  | smInitialize | smExit | nifmExit | closeHandle _ | serviceClose _ => []
  | smGetService _ | nifmInitialize => [.sm]
  | nifmGetInternetConnectionStatus => [.nifm]
  | createDriverService session | getDriverInfo session | getNetworkInterfaceList session
  | getStateChangedEvent session | getNetworkInterfaceListUpdatedEvent session | openNetworkInterface session _
  | command5 session | command6 session | command0x80 session | command0x82 session | command0x83 session
  | createUserService session => [.session session]
  | assignNetworkInterface user interface => [.session user,.session interface]
  | addSession assigned interface => [.session assigned,.session interface]

/-- Nothing is initialised twice, nothing outlives the service manager, and an interface that is raised is neither
raised again nor assigned nor closed. -/
def ProbeCommand.bars : ProbeCommand → Held → Bool
  | smInitialize,held => held == .sm
  | smExit,held => held != .sm
  | nifmInitialize,held => held == .nifm
  | command5 interface,held | assignNetworkInterface _ interface,held | serviceClose interface,held =>
    held == .raised interface
  | _,_ => false

/-- An interface counts as raised until `Command6` is sent for it, whatever is answered: a failure is only logged. -/
def ProbeCommand.frees : ProbeCommand → Option Held
  | smExit => some .sm
  | nifmExit => some .nifm
  | command6 interface => some (.raised interface)
  | closeHandle handle => some (.event handle)
  | serviceClose session => some (.session session)
  | _ => none

def grants : ProbeExchange → List Held
  | ⟨.smInitialize,.ok ()⟩ => [.sm]
  | ⟨.nifmInitialize,.ok ()⟩ => [.nifm]
  | ⟨.smGetService _,.ok session⟩ | ⟨.createDriverService _,.ok session⟩ | ⟨.openNetworkInterface _ _,.ok session⟩
  | ⟨.createUserService _,.ok session⟩ | ⟨.assignNetworkInterface _ _,.ok session⟩ => [.session session]
  | ⟨.getStateChangedEvent _,answer⟩ | ⟨.getNetworkInterfaceListUpdatedEvent _,answer⟩ => eventOf answer
  | ⟨.command0x82 _,.ok answer⟩ | ⟨.command0x83 _,.ok answer⟩ => eventsOf [answer.first,answer.second,answer.third]
  | ⟨.command5 interface,.ok ()⟩ => [.raised interface]
  | _ => []

def probeCustody : Custody ProbeExchange Held where
  needs e := e.command.needs
  bars e := e.command.bars
  frees e := e.command.frees
  grants := grants

section Parts

variable {held : List Held} {handle : Session}

/-- Nothing that is held is raised. -/
def Lowered (held : List Held) : Prop := ∀ interface, .raised interface ∉ held

theorem Lowered.bars (lowered : Lowered held) (interface : Session) : ∀ k ∈ held, (k == .raised interface) = false := by
  intro k member
  refine beq_eq_false_iff_ne.mpr ?_
  rintro rfl
  exact lowered interface member

theorem Lowered.session (lowered : Lowered held) : Lowered (.session handle :: held) := by
  intro interface member
  rcases List.mem_cons.mp member with other | member
  · cases other
  · exact lowered interface member

theorem Lowered.events (lowered : Lowered held) (handles : List UInt32) : Lowered (eventsOf handles ++ held) := by
  intro interface member
  rcases List.mem_append.mp member with event | member
  · obtain ⟨_,_,other⟩ := List.mem_map.mp event
    cases other
  · exact lowered interface member

theorem minds_closeService (lowered : Lowered held) :
    probeCustody.Minds (.session handle :: held) (closeService (some handle)) fun left _ => left = held :=
  minds_free nofun (fun _ => lowered.session.bars handle) (fun _ => rfl) (fun _ => rfl) List.mem_cons_self
    (List.erase_cons_head _ _) fun _ => minds_pure rfl

theorem minds_closeOptionalCopyHandle (handle : UInt32) :
    probeCustody.Minds (eventsOf [handle] ++ held) (closeOptionalCopyHandle (.of handle)) fun left _ => left = held := by
  by_cases valid : handle = invalidHandle
  · subst valid
    exact minds_pure rfl
  · have opened : eventsOf [handle] = [.event handle] := by simp [eventsOf,valid]
    have closes : closeOptionalCopyHandle (.of handle) = ask (.closeHandle handle) := by
      simp [closeOptionalCopyHandle,OptionalCopyHandle.of,valid]
    rw [opened,closes]
    exact minds_free nofun (fun _ _ _ => rfl) (fun _ => rfl) (fun _ => rfl) List.mem_cons_self
      (List.erase_cons_head _ _) fun _ => minds_pure rfl

theorem eventsOf_cons (handle : UInt32) (handles : List UInt32) :
    eventsOf (handle :: handles) = eventsOf [handle] ++ eventsOf handles := by
  by_cases valid : handle = invalidHandle
  · simp [eventsOf,valid]
  · simp [eventsOf,valid]

theorem minds_closeCommandHandleSet (answer : HandleSetAnswer) :
    probeCustody.Minds (eventsOf [answer.first,answer.second,answer.third] ++ held)
      (closeCommandHandleSet (.of (.ok answer))) fun left _ => left = held := by
  rw [eventsOf_cons,eventsOf_cons answer.second,List.append_assoc,List.append_assoc]
  refine Minds.leading (minds_closeOptionalCopyHandle _) fun _ => ?_
  refine Minds.leading (minds_closeOptionalCopyHandle _) fun _ => ?_
  exact minds_closeOptionalCopyHandle _

theorem minds_closeEmpty : probeCustody.Minds held (closeCommandHandleSet .empty) fun left _ => left = held :=
  minds_pure rfl

theorem minds_closeEvent (answer : Except Failure UInt32) :
    probeCustody.Minds (eventOf answer ++ held) (closeEvent answer) fun left _ => left = held := by
  cases answer with
  | error rc => exact minds_pure rfl
  | ok event =>
    by_cases valid : event = invalidHandle
    · subst valid
      exact minds_pure rfl
    · have opened : eventsOf [event] = [.event event] := by simp [eventsOf,valid]
      have closes : closeEvent (.ok event) = ask (.closeHandle event) := if_pos valid
      rw [closes,show eventOf (.ok event) = [.event event] from opened]
      exact minds_free nofun (fun _ _ _ => rfl) (fun _ => rfl) (fun _ => rfl) List.mem_cons_self
        (List.erase_cons_head _ _) fun _ => minds_pure rfl

end Parts

section Functions

variable {held : List Held} {creator driver interface bsd : Session} {bsdNu : Option Session}

theorem minds_probeInternetConnection (sm : .sm ∈ held) (none : .nifm ∉ held) :
    probeCustody.Minds held probeInternetConnection fun left _ => left = held := by
  refine minds_ask (fun _ k member => ?_) (fun _ k member => ?_) (fun _ => rfl) fun answer => ?_
  · cases List.mem_singleton.mp member
    exact sm
  · refine beq_eq_false_iff_ne.mpr ?_
    rintro rfl
    exact none member
  cases answer with
  | error rc => exact minds_pure rfl
  | ok done =>
    refine minds_ask (fun _ k member => ?_) (fun _ _ _ => rfl) (fun _ => rfl) fun answer => ?_
    · cases List.mem_singleton.mp member
      exact List.mem_cons_self
    · exact minds_free nofun (fun _ _ _ => rfl) (fun _ => rfl) (fun _ => rfl) List.mem_cons_self
        (List.erase_cons_head _ _) fun _ => minds_pure rfl

/-- A call on the one session that it needs. -/
theorem minds_on {α : Type} {command : ProbeCommand} {session : Session} {next : command.Answer → ProbeProgram α}
    {Q : List Held → α → Prop} (needs : command.needs = [.session session]) (member : .session session ∈ held)
    (bars : ∀ k ∈ held, command.bars k = false) (frees : command.frees = none)
    (later : ∀ answer, probeCustody.Minds (grants ⟨command,answer⟩ ++ held) (next answer) Q) :
    probeCustody.Minds held (ask command >>= next) Q := by
  refine minds_ask (fun answer k needed => ?_) (fun _ => bars) (fun _ => frees) later
  rw [show probeCustody.needs ⟨command,answer⟩ = [.session session] from needs] at needed
  cases List.mem_singleton.mp needed
  exact member

theorem minds_probeDriverMetadata (member : .session driver ∈ held) :
    probeCustody.Minds held (probeDriverMetadata driver) fun left _ => left = held := by
  refine minds_on rfl member (fun _ _ => rfl) rfl fun info => ?_
  have infoGrants : grants ⟨.getDriverInfo driver,info⟩ = [] := by cases info <;> rfl
  rw [infoGrants]
  refine minds_on rfl member (fun _ _ => rfl) rfl fun list => ?_
  have listGrants : grants ⟨.getNetworkInterfaceList driver,list⟩ = [] := by cases list <;> rfl
  rw [listGrants]
  refine minds_on rfl member (fun _ _ => rfl) rfl fun event => ?_
  refine Minds.leading (minds_closeEvent event) fun _ => ?_
  refine minds_on rfl member (fun _ _ => rfl) rfl fun event => ?_
  exact Minds.leading (minds_closeEvent event) fun _ => minds_pure rfl

/-- What is held of an interface that may have been opened. -/
def opened (interface : Option Session) : List Held := interface.toList.map .session

theorem minds_tryOpenRecords (member : .session driver ∈ held) (list : Bytes) (remaining index : Nat) (rc : UInt32) :
    probeCustody.Minds held (tryOpenRecords driver list remaining index rc) fun left result =>
      left = opened result.2 ++ held ∧ (result.2.isSome → result.1 = 0) := by
  induction remaining generalizing index rc with
  | zero => exact minds_pure ⟨rfl,nofun⟩
  | succ remaining ih =>
    refine minds_on rfl member (fun _ _ => rfl) rfl fun answer => ?_
    cases answer with
    | error rc => exact ih (index + 1) rc
    | ok interface => exact minds_pure ⟨rfl,fun _ => rfl⟩

theorem minds_tryOpenNetworkInterfacesFromSnapshot (member : .session driver ∈ held)
    (snapshot : DriverMetadataSnapshot) :
    probeCustody.Minds held (tryOpenNetworkInterfacesFromSnapshot driver snapshot) fun left result =>
      left = opened result.2 ++ held ∧ (result.2.isSome → result.1 = 0) := by
  refine minds_ite (fun _ => minds_pure ⟨rfl,nofun⟩) fun _ => ?_
  exact minds_ite (fun _ => minds_pure ⟨rfl,nofun⟩) fun _ => minds_tryOpenRecords member _ _ _ _

theorem Lowered.opened (lowered : Lowered held) (interface : Option Session) : Lowered (opened interface ++ held) := by
  cases interface with
  | none => exact lowered
  | some interface => exact lowered.session

theorem opened_erase (interface : Option Session) :
    (opened interface ++ .session driver :: held).erase (.session driver) = opened interface ++ held := by
  cases interface with
  | none => exact List.erase_cons_head _ _
  | some interface =>
    by_cases same : interface = driver
    · subst same
      exact List.erase_cons_head _ _
    · have other : Held.session interface ≠ .session driver := fun h => same (Held.session.inj h)
      refine (List.erase_cons_tail (beq_eq_false_iff_ne.mpr other ▸ Bool.false_ne_true)).trans ?_
      exact congrArg (Held.session interface :: ·) (List.erase_cons_head _ _)

/-- The probe function may leave an interface that outlives its driver service. -/
theorem minds_runWithFreshDriverService {α : Type} {context : α} {probeFn : Session → ProbeProgram (UInt32 × α)}
    (interfaceOf : α → Option Session) (holds : UInt32 × α → Prop) (none : interfaceOf context = none)
    (failed : ∀ rc, holds (rc,context)) (lowered : Lowered held) (member : .session creator ∈ held)
    (probes : ∀ driver, probeCustody.Minds (.session driver :: held) (probeFn driver) fun left result =>
      left = opened (interfaceOf result.2) ++ .session driver :: held ∧ holds result) :
    probeCustody.Minds held (runWithFreshDriverService creator context probeFn) fun left result =>
      left = opened (interfaceOf result.2) ++ held ∧ holds result := by
  refine minds_on rfl member (fun _ _ => rfl) rfl fun answer => ?_
  cases answer with
  | error rc =>
    refine minds_pure ⟨?_,failed rc⟩
    rw [none]
    rfl
  | ok driver =>
    refine Minds.bind ((probes driver).mono fun left result ⟨same,holds⟩ => ?_)
    subst same
    exact minds_free nofun (fun _ => (lowered.session.opened _).bars driver) (fun _ => rfl) (fun _ => rfl)
      (List.mem_append_right _ List.mem_cons_self) (opened_erase _) fun _ => minds_pure ⟨rfl,holds⟩

theorem minds_cleanUpPreflight (member : .session interface ∈ held) (raised : Bool) (first second : HandleSetAnswer) :
    probeCustody.Minds ((if raised then [.raised interface] else []) ++
        (eventsOf [second.first,second.second,second.third] ++
          (eventsOf [first.first,first.second,first.third] ++ held)))
      (cleanUpPreflight interface raised (.of (.ok first)) (.of (.ok second))) fun left _ => left = held := by
  have closes : probeCustody.Minds (eventsOf [second.first,second.second,second.third] ++
        (eventsOf [first.first,first.second,first.third] ++ held))
      (do closeCommandHandleSet (.of (.ok second)); closeCommandHandleSet (.of (.ok first)))
      fun left _ => left = held :=
    Minds.leading (minds_closeCommandHandleSet second) fun _ => minds_closeCommandHandleSet first
  cases raised with
  | false => exact closes
  | true =>
    refine minds_free (fun answer k needed => ?_) (fun _ _ _ => rfl) (fun _ => rfl) (fun answer => ?_)
      List.mem_cons_self (List.erase_cons_head _ _) fun _ => closes
    · cases List.mem_singleton.mp needed
      exact List.mem_append_right _ (List.mem_append_right _ (List.mem_append_right _ member))
    · cases answer <;> rfl

theorem minds_runTargetedAssignPreflight (member : .session interface ∈ held) (lowered : Lowered held) :
    probeCustody.Minds held (runTargetedAssignPreflight interface) fun left _ => left = held := by
  refine minds_on rfl member (fun _ _ => rfl) rfl fun answer => ?_
  cases answer with
  | error rc => exact minds_pure rfl
  | ok first =>
    refine minds_on rfl (List.mem_append_right _ member) (fun _ _ => rfl) rfl fun answer => ?_
    cases answer with
    | error rc =>
      exact Minds.leading (Minds.leading minds_closeEmpty fun _ => minds_closeCommandHandleSet first)
        fun _ => minds_pure rfl
    | ok second =>
      have raises := (Lowered.events (Lowered.events lowered [first.first,first.second,first.third])
        [second.first,second.second,second.third]).bars interface
      have still : .session interface ∈ eventsOf [second.first,second.second,second.third] ++
          (eventsOf [first.first,first.second,first.third] ++ held) :=
        List.mem_append_right _ (List.mem_append_right _ member)
      refine minds_on rfl still raises rfl fun answer => ?_
      cases answer with
      | error rc => exact Minds.leading (minds_cleanUpPreflight member false first second) fun _ => minds_pure rfl
      | ok done =>
        refine minds_on rfl (List.mem_cons_of_mem _ still) (fun _ _ => rfl) rfl fun answer => ?_
        have quiet : grants ⟨.command0x80 interface,answer⟩ = [] := by cases answer <;> rfl
        rw [quiet]
        exact Minds.leading (minds_cleanUpPreflight member true first second) fun _ => minds_pure rfl

theorem minds_tryAssignWithBsd (member : .session interface ∈ held) (bsd : ∀ bsd, bsdNu = some bsd → .session bsd ∈ held)
    (lowered : Lowered held) :
    probeCustody.Minds held (tryAssignWithBsd bsdNu interface) fun left _ => left = held := by
  cases bsdNu with
  | none => exact minds_pure rfl
  | some nu =>
    refine minds_on rfl (bsd nu rfl) (fun _ _ => rfl) rfl fun answer => ?_
    cases answer with
    | error rc => exact minds_pure rfl
    | ok user =>
      refine minds_ask (fun _ k needed => ?_) (fun _ => lowered.session.bars interface) (fun _ => rfl) fun answer => ?_
      · rcases List.mem_cons.mp needed with rfl | needed
        · exact List.mem_cons_self
        · cases List.mem_singleton.mp needed
          exact List.mem_cons_of_mem _ member
      cases answer with
      | error rc => exact Minds.leading (minds_pure rfl) fun _ => minds_closeService lowered
      | ok assigned =>
        refine minds_ask (fun _ k needed => ?_) (fun _ _ _ => rfl) (fun _ => rfl) fun answer => ?_
        · rcases List.mem_cons.mp needed with rfl | needed
          · exact List.mem_cons_self
          · cases List.mem_singleton.mp needed
            exact List.mem_cons_of_mem _ (List.mem_cons_of_mem _ member)
        have quiet : probeCustody.grants ⟨.addSession assigned interface,answer⟩ = [] := by cases answer <;> rfl
        rw [quiet]
        exact Minds.leading (minds_closeService lowered.session) fun _ => minds_closeService lowered

def Experiment (bsdNu : Option Session) (held : List Held) (experimentFn : Option Session → Session → ProbeProgram Unit) :
    Prop :=
  ∀ interface, probeCustody.Minds (.session interface :: held) (experimentFn bsdNu interface)
    fun left _ => left = .session interface :: held

theorem minds_runFreshNetworkInterfaceExperiment {experimentFn : Option Session → Session → ProbeProgram Unit}
    (member : .session creator ∈ held) (lowered : Lowered held) (experiment : Experiment bsdNu held experimentFn)
    (snapshot : DriverMetadataSnapshot) :
    probeCustody.Minds held (runFreshNetworkInterfaceExperiment creator snapshot bsdNu experimentFn)
      fun left _ => left = held := by
  have opens : probeCustody.Minds held (openFreshNetworkInterface creator snapshot) fun left result =>
      left = opened result.2 ++ held ∧ (result.2.isSome → result.1 = 0) :=
    minds_runWithFreshDriverService id (fun result => result.2.isSome → result.1 = 0) rfl (fun _ => nofun) lowered member
      fun driver => minds_tryOpenNetworkInterfacesFromSnapshot List.mem_cons_self snapshot
  refine Minds.bind (opens.mono ?_)
  rintro left ⟨rc,interface⟩ ⟨rfl,success⟩
  cases interface with
  | none =>
    have nothing : probeCustody.Minds (opened none ++ held) (pure () : ProbeProgram Unit) fun left _ => left = held :=
      minds_pure rfl
    cases failed : rc != 0 with
    | false => simpa only [failed] using nothing
    | true => simpa only [failed] using nothing
  | some interface =>
    cases success rfl
    exact Minds.leading (experiment interface) fun _ => minds_closeService lowered

theorem minds_probeDriverService (sm : .sm ∈ held) (lowered : Lowered held) (serviceName : CString)
    (bsd : ∀ bsd, bsdNu = some bsd → .session bsd ∈ held) :
    probeCustody.Minds held (probeDriverService serviceName bsdNu) fun left _ => left = held := by
  refine minds_ask (fun _ k needed => ?_) (fun _ _ _ => rfl) (fun _ => rfl) fun answer => ?_
  · cases List.mem_singleton.mp needed
    exact sm
  cases answer with
  | error rc => exact minds_pure rfl
  | ok creator =>
    have inside : Lowered (.session creator :: held) := lowered.session
    have assigns : ∀ interface bsd, bsdNu = some bsd → Held.session bsd ∈ .session interface :: .session creator :: held :=
      fun _ _ there => List.mem_cons_of_mem _ (List.mem_cons_of_mem _ (bsd _ there))
    have probes : probeCustody.Minds (.session creator :: held)
        (runWithFreshDriverService creator .empty probeDriverMetadataEntry) fun left _ => left = .session creator :: held :=
      (minds_runWithFreshDriverService (fun _ => none) (fun _ => True) rfl (fun _ => trivial) inside List.mem_cons_self
        fun driver => Minds.leading (minds_probeDriverMetadata List.mem_cons_self) fun _ =>
          minds_pure ⟨rfl,trivial⟩).mono fun _ _ kept => kept.1
    have first : Experiment bsdNu (.session creator :: held) experimentTargetedPreflightOnly := fun interface =>
      Minds.leading (minds_runTargetedAssignPreflight List.mem_cons_self inside.session) fun _ => minds_pure rfl
    have second : Experiment bsdNu (.session creator :: held) experimentTargetedPreflightThenAssign := fun interface =>
      Minds.leading (minds_runTargetedAssignPreflight List.mem_cons_self inside.session) fun _ =>
        minds_ite (fun _ => minds_pure rfl) fun _ =>
          minds_tryAssignWithBsd List.mem_cons_self (assigns interface) inside.session
    have third : Experiment bsdNu (.session creator :: held) experimentAssignOnly := fun interface =>
      minds_tryAssignWithBsd List.mem_cons_self (assigns interface) inside.session
    refine Minds.leading probes fun result => ?_
    refine Minds.leading (minds_runFreshNetworkInterfaceExperiment List.mem_cons_self inside first _) fun _ => ?_
    refine Minds.leading (minds_runFreshNetworkInterfaceExperiment List.mem_cons_self inside second _) fun _ => ?_
    refine Minds.leading (minds_runFreshNetworkInterfaceExperiment List.mem_cons_self inside third _) fun _ => ?_
    exact Minds.leading (minds_closeService lowered) fun _ => minds_pure rfl

end Functions

theorem minds_runProbe : probeCustody.Minds [] runProbe fun left _ => left = [] := by
  refine minds_ask nofun nofun (fun _ => rfl) fun answer => ?_
  cases answer with
  | error rc => exact minds_pure rfl
  | ok done =>
    have none : Lowered [.sm] := nofun
    have connection : probeCustody.Minds [.sm] probeInternetConnection fun left _ => left = [.sm] :=
      minds_probeInternetConnection List.mem_cons_self (by decide)
    refine Minds.leading connection fun _ => ?_
    refine minds_ask (fun _ k needed => needed) (fun _ _ _ => rfl) (fun _ => rfl) fun answer => ?_
    have onlySm : ∀ k ∈ [Held.sm], ProbeCommand.smExit.bars k = false := by decide
    have exits : probeCustody.Minds [.sm] (ask .smExit) fun left _ => left = [] :=
      minds_free nofun (fun _ => onlySm) (fun _ => rfl) (fun _ => rfl) List.mem_cons_self (List.erase_cons_head _ _)
        fun _ => minds_pure rfl
    cases answer with
    | error rc =>
      refine Minds.leading (minds_probeDriverService List.mem_cons_self none _ nofun) fun _ => ?_
      refine Minds.leading (minds_probeDriverService List.mem_cons_self none _ nofun) fun _ => ?_
      exact Minds.leading (minds_pure rfl) fun _ => exits
    | ok bsd =>
      have there : ∀ other, some bsd = some other → Held.session other ∈ [.session bsd,.sm] := by
        rintro _ ⟨⟩
        exact List.mem_cons_self
      have sm : Held.sm ∈ [.session bsd,.sm] := List.mem_cons_of_mem _ List.mem_cons_self
      refine Minds.leading (minds_probeDriverService sm none.session _ there) fun _ => ?_
      refine Minds.leading (minds_probeDriverService sm none.session _ there) fun _ => ?_
      exact Minds.leading (minds_closeService none) fun _ => exits

/-- Whatever the services answer: nothing is called through a session that is not held, nothing is closed twice or
kept, and no interface is assigned or closed while it is raised. -/
theorem runProbe_disciplined (service : Service ProbeCommand.Answer) :
    probeCustody.Disciplined (runProbe.run service []).1 := minds_runProbe.disciplined service

end NxReverse.Probe.DriverProbe
