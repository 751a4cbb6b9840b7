import NxReverse.Toolbox.StartupTrace

/-! What a start of the process leaves on the debug output and appends to its file: every event in order, the earlier
ones once more when the file is there, and each call between the line that announces it and the line of its result. -/
namespace NxReverse.Toolbox.Startup

open Text Program

def StartupCommand.said? : StartupCommand → Option CString
  | outputDebugString line => some line
  | _ => none

def StartupCommand.filed? : StartupCommand → Option CString
  | appendLine line => some line
  | _ => none

def said (trace : List StartupExchange) : List CString := trace.filterMap fun e => e.command.said?

/-- What is appended to the file, where it can be opened. -/
def filed (trace : List StartupExchange) : List CString := trace.filterMap fun e => e.command.filed?

def frame : StartupExchange → Option (StartupEvent × StartupEvent)
  | ⟨.call c,rc⟩ => some (⟨c.name ++ " begin".toList,none⟩,
    ⟨c.name ++ (if c.initFail.isSome ∧ rc ≠ 0 then " failed".toList else " complete".toList),some rc⟩)
  | ⟨.perform step,_⟩ => some (⟨step.name ++ " begin".toList,none⟩,⟨step.name ++ " complete".toList,none⟩)
  | _ => none

/-- The last line before a call and the first behind it. -/
structure Frames (ready : Bool) (before behind : List StartupExchange) (first last : StartupEvent) : Prop where
  announced : (said before).getLast? = some first.line
  answered : (said behind).head? = some last.line
  filed : ready = true → (filed before).getLast? = some first.line ∧ (filed behind).head? = some last.line

structure Framed (ready : Bool) (trace : List StartupExchange) (news : List StartupEvent) : Prop where
  said : said trace = news.map StartupEvent.line
  filed : filed trace = if ready then news.map StartupEvent.line else []
  framed : ∀ before e behind first last, trace = before ++ e :: behind → frame e = some (first,last) →
    Frames ready before behind first last

structure Logged (ready : Bool) (trace : List StartupExchange) (news : List StartupEvent) : Prop
    extends Framed ready trace news where
  unmounted : ∀ rc, (⟨.call .fsdevMountSdmc,rc⟩ : StartupExchange) ∉ trace

/-- The process is aborted exactly by a call that it needs and that fails. -/
def Aborts {α : Type} (trace : List StartupExchange) (result : Except InitFail α) : Prop :=
  ∀ failure, result = .error failure ↔ ∃ call, ∃ rc : UInt32, (⟨.call call,rc⟩ : StartupExchange) ∈ trace ∧ rc ≠ 0 ∧
    call.initFail = some failure

/-- What is traced of a part of the program that records at most `count` events. -/
def Logs {α : Type} (count : Nat) (p : StartupProgram α) : Prop :=
  ∀ t : StartupTrace, t.events.length + count ≤ maxStartupEvents → (p.run.run t).Ensures fun trace result =>
    ∃ news, news.length ≤ count ∧ Logged t.fileReady trace news ∧ Aborts trace result.1 ∧
      result.2 = ⟨t.events ++ news,t.fileReady⟩

variable {α β : Type} {ready : Bool} {first second trace before behind : List StartupExchange}
  {news more : List StartupEvent} {count rest : Nat}

theorem said_append : said (first ++ second) = said first ++ said second := List.filterMap_append

theorem filed_append : filed (first ++ second) = filed first ++ filed second := List.filterMap_append

theorem said_silent {command : StartupCommand} {answer : command.Answer} (unsaid : command.said? = none) :
    said (⟨command,answer⟩ :: trace) = said trace := List.filterMap_cons_none unsaid

theorem filed_silent {command : StartupCommand} {answer : command.Answer} (unfiled : command.filed? = none) :
    filed (⟨command,answer⟩ :: trace) = filed trace := List.filterMap_cons_none unfiled

theorem Frames.after {one last : StartupEvent} (frames : Frames ready before behind one last)
    (earlier : List StartupExchange) : Frames ready (earlier ++ before) behind one last where
  announced := by rw [said_append,List.getLast?_append,frames.announced,Option.some_or]
  answered := frames.answered
  filed := fun is => ⟨by rw [filed_append,List.getLast?_append,(frames.filed is).1,Option.some_or],(frames.filed is).2⟩

theorem Frames.ahead {one last : StartupEvent} (frames : Frames ready before behind one last)
    (later : List StartupExchange) : Frames ready before (behind ++ later) one last where
  announced := frames.announced
  answered := by rw [said_append,List.head?_append,frames.answered,Option.some_or]
  filed := fun is => ⟨(frames.filed is).1,by rw [filed_append,List.head?_append,(frames.filed is).2,Option.some_or]⟩

theorem Logged.nil : Logged ready [] [] where
  said := rfl
  filed := (ite_self _).symm
  framed := fun before e behind _ _ split => by
    have impossible := congrArg List.length split
    simp at impossible
  unmounted := fun _ => List.not_mem_nil

theorem Framed.append (one : Framed ready first news) (two : Framed ready second more) :
    Framed ready (first ++ second) (news ++ more) where
  said := by rw [said_append,one.said,two.said,List.map_append]
  filed := by
    rw [filed_append,one.filed,two.filed,List.map_append]
    cases ready <;> rfl
  framed := by
    intro before e behind opening closing split frames
    rcases List.append_eq_append_iff.mp split with ⟨middle,rfl,rest⟩ | ⟨middle,rfl,rest⟩
    · exact (two.framed middle e behind opening closing rest frames).after first
    · cases middle with
      | nil =>
        have here := two.framed [] e behind opening closing rest.symm frames
        exact absurd here.announced nofun
      | cons x middle =>
        obtain ⟨rfl,rfl⟩ := List.cons.inj rest
        exact (one.framed before e middle opening closing rfl frames).ahead second

theorem Logged.append (one : Logged ready first news) (two : Logged ready second more) :
    Logged ready (first ++ second) (news ++ more) where
  toFramed := one.toFramed.append two.toFramed
  unmounted := fun rc member => (List.mem_append.mp member).elim (one.unmounted rc) (two.unmounted rc)

theorem aborts_ok (first : Aborts trace (.ok value : Except InitFail α)) {result : Except InitFail β}
    (later : Aborts second result) : Aborts (trace ++ second) result := by
  intro failure
  rw [later failure]
  constructor
  · rintro ⟨call,rc,member,fails⟩
    exact ⟨call,rc,List.mem_append_right _ member,fails⟩
  · rintro ⟨call,rc,member,fails⟩
    rcases List.mem_append.mp member with earlier | now
    · exact absurd ((first failure).mpr ⟨call,rc,earlier,fails⟩) nofun
    · exact ⟨call,rc,now,fails⟩

theorem logs_pure (value : α) : Logs 0 (pure value : StartupProgram α) := by
  intro t _
  refine ⟨[],Nat.le_refl 0,.nil,fun failure => iff_of_false nofun ?_,?_⟩
  · rintro ⟨call,rc,member,_⟩
    cases member
  · rw [List.append_nil]

theorem Logs.mono {p : StartupProgram α} (logs : Logs count p) (fewer : count ≤ rest) : Logs rest p := by
  intro t room
  refine (logs t (by omega)).mono fun trace result told => ?_
  obtain ⟨news,few,told⟩ := told
  exact ⟨news,by omega,told⟩

theorem Logs.bind {p : StartupProgram α} {f : α → StartupProgram β} (one : Logs count p)
    (two : ∀ value, Logs rest (f value)) : Logs (count + rest) (p >>= f) := by
  intro t room
  refine ensures_bind.mpr ((one t (by omega)).mono fun trace result told => ?_)
  obtain ⟨result,t'⟩ := result
  obtain ⟨news,few,logged,aborts,rfl⟩ := told
  cases result with
  | error failure =>
    refine ⟨news,by omega,?_,?_,rfl⟩
    · rw [List.append_nil]
      exact logged
    · intro other
      rw [List.append_nil]
      exact (iff_of_eq (by simp)).trans (aborts other)
  | ok value =>
    have room' : (t.events ++ news).length + rest ≤ maxStartupEvents := by
      rw [List.length_append]
      omega
    refine Ensures.mono (two value ⟨t.events ++ news,t.fileReady⟩ room') fun later result told => ?_
    obtain ⟨more,few',logged',aborts',ends⟩ := told
    refine ⟨news ++ more,?_,logged.append logged',aborts_ok aborts aborts',?_⟩
    · rw [List.length_append]
      omega
    · rw [ends,List.append_assoc]

def recordTrace (ready : Bool) (event : StartupEvent) (opened : Bool) : List StartupExchange :=
  ⟨.outputDebugString event.line,()⟩ :: if ready then [⟨.appendLine event.line,opened⟩] else []

theorem record_run (t : StartupTrace) (phase : CString) (rc : Option UInt32)
    (room : t.events.length < maxStartupEvents) :
    ((recordStartupEvent phase rc).run.run t).Ensures fun trace result => ∃ opened,
      trace = recordTrace t.fileReady ⟨phase,rc⟩ opened ∧ result = (.ok (),⟨t.events ++ [⟨phase,rc⟩],t.fileReady⟩) := by
  obtain ⟨events,ready⟩ := t
  have kept : (if events.length < maxStartupEvents then events ++ [⟨phase,rc⟩] else events) = events ++ [⟨phase,rc⟩] :=
    if_pos room
  cases ready with
  | false => exact fun _ => ⟨false,rfl,congrArg (fun events => (Except.ok (),StartupTrace.mk events false)) kept⟩
  | true => exact fun _ opened => ⟨opened,rfl,congrArg (fun events => (Except.ok (),StartupTrace.mk events true)) kept⟩

theorem said_recordTrace (event : StartupEvent) (opened : Bool) :
    said (recordTrace ready event opened) = [event.line] := by
  cases ready <;> rfl

theorem filed_recordTrace (event : StartupEvent) (opened : Bool) :
    filed (recordTrace ready event opened) = if ready then [event.line] else [] := by
  cases ready <;> rfl

theorem frame_recordTrace {event : StartupEvent} {opened : Bool} {e : StartupExchange}
    (member : e ∈ recordTrace ready event opened) : frame e = none := by
  cases ready with
  | false =>
    rw [List.mem_singleton.mp member]
    rfl
  | true =>
    rcases List.mem_cons.mp member with rfl | member
    · rfl
    · rw [List.mem_singleton.mp member]
      rfl

theorem call_not_mem {command : StartupCall} {rc : UInt32} (all : ∀ e ∈ trace, frame e = none) :
    (⟨.call command,rc⟩ : StartupExchange) ∉ trace := fun member => absurd (all _ member) nofun

theorem frameless {e : StartupExchange} (all : ∀ x ∈ trace, frame x = none) (split : trace = before ++ e :: behind) :
    frame e = none := by
  subst split
  exact all e (List.mem_append_right _ List.mem_cons_self)

theorem Logged.record (event : StartupEvent) (opened : Bool) :
    Logged ready (recordTrace ready event opened) [event] where
  said := said_recordTrace event opened
  filed := filed_recordTrace event opened
  framed := by
    intro before e behind first last split frames
    rw [frameless (fun _ => frame_recordTrace) split] at frames
    cases frames
  unmounted := fun _ => call_not_mem fun _ => frame_recordTrace

theorem aborts_never (all : ∀ e ∈ trace, frame e = none) (value : α) : Aborts trace (.ok value : Except InitFail α) :=
  fun _ => iff_of_false nofun fun ⟨_,_,member,_⟩ => call_not_mem all member

theorem logs_record (phase : CString) (rc : Option UInt32) : Logs 1 (recordStartupEvent phase rc) := by
  intro t room
  refine (record_run t phase rc (by omega)).mono fun trace result told => ?_
  obtain ⟨opened,rfl,rfl⟩ := told
  exact ⟨[⟨phase,rc⟩],Nat.le_refl 1,.record _ opened,aborts_never (fun _ => frame_recordTrace) (),rfl⟩

/-- A command that is not traced. -/
theorem logs_ask {command : StartupCommand} (unsaid : command.said? = none) (unfiled : command.filed? = none)
    (unframed : ∀ answer, frame ⟨command,answer⟩ = none) : Logs 0 (ask command) := by
  intro t _ answer
  have all : ∀ e ∈ [(⟨command,answer⟩ : StartupExchange)], frame e = none := fun e member => by
    rw [List.mem_singleton.mp member]
    exact unframed answer
  refine ⟨[],Nat.le_refl 0,⟨⟨?_,?_,?_⟩,?_⟩,aborts_never all answer,by rw [List.append_nil]⟩
  · exact said_silent unsaid
  · rw [List.map_nil,ite_self]
    exact filed_silent unfiled
  · intro before e behind first last split frames
    rw [frameless all split] at frames
    cases frames
  · exact fun rc => call_not_mem all

/-- The only call between two events is found by its position. -/
theorem split_at_frame {e other : StartupExchange} (left : ∀ x ∈ first, frame x = none)
    (right : ∀ x ∈ second, frame x = none) (split : first ++ e :: second = before ++ other :: behind)
    (frames : frame other ≠ none) :
    before = first ∧ other = e ∧ behind = second := by
  rcases List.append_eq_append_iff.mp split with ⟨middle,rfl,rest⟩ | ⟨middle,rfl,rest⟩
  · cases middle with
    | nil =>
      obtain ⟨rfl,rfl⟩ := List.cons.inj rest
      exact ⟨List.append_nil _,rfl,rfl⟩
    | cons x middle =>
      have member : other ∈ second := by
        rw [(List.cons.inj rest).2]
        exact List.mem_append_right _ List.mem_cons_self
      exact absurd (right other member) frames
  · cases middle with
    | nil =>
      obtain ⟨rfl,rfl⟩ := List.cons.inj rest
      exact ⟨(List.append_nil _).symm,rfl,rfl⟩
    | cons x middle =>
      have member : other ∈ before ++ x :: middle := by
        rw [(List.cons.inj rest).1]
        exact List.mem_append_right _ List.mem_cons_self
      exact absurd (left other member) frames

theorem Framed.call {command : StartupCommand} {answer : command.Answer} {one last : StartupEvent}
    (unsaid : command.said? = none) (unfiled : command.filed? = none)
    (frames : frame ⟨command,answer⟩ = some (one,last)) (opened reopened : Bool) :
    Framed ready (recordTrace ready one opened ++ ⟨command,answer⟩ :: recordTrace ready last reopened) [one,last] where
  said := by
    rw [said_append,said_recordTrace,said_silent unsaid,said_recordTrace]
    rfl
  filed := by
    rw [filed_append,filed_recordTrace,filed_silent unfiled,filed_recordTrace]
    cases ready <;> rfl
  framed := by
    intro before e behind first' last' split framed
    obtain ⟨rfl,rfl,rfl⟩ := split_at_frame (fun _ => frame_recordTrace) (fun _ => frame_recordTrace) split
      fun none => absurd (none.symm.trans framed) nofun
    rw [frames] at framed
    obtain ⟨rfl,rfl⟩ := Prod.mk.inj (Option.some.inj framed)
    refine ⟨?_,?_,fun is => ⟨?_,?_⟩⟩
    · rw [said_recordTrace,List.getLast?_singleton]
    · rw [said_recordTrace,List.head?_cons]
    · rw [filed_recordTrace,if_pos is,List.getLast?_singleton]
    · rw [filed_recordTrace,if_pos is,List.head?_cons]

theorem mem_framed {e : StartupExchange} {one last : StartupEvent} {opened reopened : Bool} {c : StartupCall}
    {rc : UInt32} :
    (⟨.call c,rc⟩ : StartupExchange) ∈ recordTrace ready one opened ++ e :: recordTrace ready last reopened ↔
      ⟨.call c,rc⟩ = e := by
  rw [List.mem_append,List.mem_cons,or_iff_right (call_not_mem fun _ => frame_recordTrace),
    or_iff_left (call_not_mem fun _ => frame_recordTrace)]

def Concludes (command : StartupCommand) (next : command.Answer → StartupProgram α)
    (last : command.Answer → StartupEvent) (value : command.Answer → Except InitFail α) : Prop :=
  ∀ answer (t : StartupTrace), t.events.length < maxStartupEvents → ((next answer).run.run t).Ensures
    fun trace result => ∃ opened, trace = recordTrace t.fileReady (last answer) opened ∧
      result = (value answer,⟨t.events ++ [last answer],t.fileReady⟩)

/-- A call between its two events, with the outcome that its answer has. -/
theorem call_run {command : StartupCommand} {next : command.Answer → StartupProgram α} (one : StartupEvent)
    {last : command.Answer → StartupEvent} {value : command.Answer → Except InitFail α}
    (ends : Concludes command next last value) (t : StartupTrace) (room : t.events.length + 2 ≤ maxStartupEvents) :
    ((recordStartupEvent one.phase one.rc >>= fun _ => ask command >>= next).run.run t).Ensures fun trace result =>
      ∃ answer opened reopened, trace = recordTrace t.fileReady one opened ++ ⟨command,answer⟩ ::
        recordTrace t.fileReady (last answer) reopened ∧
          result = (value answer,⟨t.events ++ [one,last answer],t.fileReady⟩) := by
  refine ensures_bind.mpr ((record_run t one.phase one.rc (by omega)).mono fun trace result told => ?_)
  obtain ⟨opened,rfl,rfl⟩ := told
  intro answer
  have room' : (t.events ++ [one]).length < maxStartupEvents := by
    rw [List.length_append,List.length_singleton]
    omega
  refine Ensures.mono (ends answer ⟨t.events ++ [one],t.fileReady⟩ room') fun trace result told => ?_
  obtain ⟨reopened,rfl,rfl⟩ := told
  refine ⟨answer,opened,reopened,rfl,?_⟩
  rw [List.append_assoc]
  rfl

theorem logs_call {command : StartupCommand} {next : command.Answer → StartupProgram α} (one : StartupEvent)
    {last : command.Answer → StartupEvent} {value : command.Answer → Except InitFail α}
    (ends : Concludes command next last value) (unsaid : command.said? = none) (unfiled : command.filed? = none)
    (frames : ∀ answer, frame ⟨command,answer⟩ = some (one,last answer))
    (other : ∀ answer rc, (⟨.call .fsdevMountSdmc,rc⟩ : StartupExchange) ≠ ⟨command,answer⟩)
    (fails : ∀ answer failure, value answer = .error failure ↔ ∃ call, ∃ rc : UInt32,
      (⟨.call call,rc⟩ : StartupExchange) = ⟨command,answer⟩ ∧ rc ≠ 0 ∧ call.initFail = some failure) :
    Logs 2 (recordStartupEvent one.phase one.rc >>= fun _ => ask command >>= next) := by
  intro t room
  refine (call_run one ends t room).mono fun trace result told => ?_
  obtain ⟨answer,opened,reopened,rfl,rfl⟩ := told
  refine ⟨[one,last answer],Nat.le_refl 2,⟨.call unsaid unfiled (frames answer) opened reopened,?_⟩,?_,rfl⟩
  · exact fun rc member => other answer rc (mem_framed.mp member)
  · intro failure
    rw [fails answer failure]
    exact exists_congr fun call => exists_congr fun rc => and_congr_left fun _ => mem_framed.symm

theorem concludes_tried (c : StartupCall) : Concludes (.call c)
    (fun rc => recordStartupEvent (c.name ++ " complete".toList) (some rc) >>= fun _ => pure rc)
    (fun rc => ⟨c.name ++ " complete".toList,some rc⟩) Except.ok := by
  intro rc t room
  refine ensures_bind.mpr ((record_run t _ _ room).mono fun trace result told => ?_)
  obtain ⟨opened,rfl,rfl⟩ := told
  exact ⟨opened,List.append_nil _,rfl⟩

theorem frame_tried {c : StartupCall} (free : c.initFail = none) (rc : UInt32) :
    frame ⟨.call c,rc⟩ = some (⟨c.name ++ " begin".toList,none⟩,⟨c.name ++ " complete".toList,some rc⟩) := by
  rw [frame,free,if_neg (fun failed => absurd failed.1 nofun)]

theorem tried_run {c : StartupCall} (free : c.initFail = none) (t : StartupTrace)
    (room : t.events.length + 2 ≤ maxStartupEvents) : ((tried c).run.run t).Ensures fun trace result =>
      ∃ rc one last opened reopened, frame ⟨.call c,rc⟩ = some (one,last) ∧
        trace = recordTrace t.fileReady one opened ++ ⟨.call c,rc⟩ :: recordTrace t.fileReady last reopened ∧
          result = (.ok rc,⟨t.events ++ [one,last],t.fileReady⟩) := by
  refine (call_run ⟨c.name ++ " begin".toList,none⟩ (concludes_tried c) t room).mono fun trace result told => ?_
  obtain ⟨rc,opened,reopened,told⟩ := told
  exact ⟨rc,_,_,opened,reopened,frame_tried free rc,told⟩

theorem aborts_tried {c : StartupCall} (free : c.initFail = none) {rc : UInt32} {one last : StartupEvent}
    {opened reopened : Bool} (value : α) : Aborts (recordTrace ready one opened ++ ⟨.call c,rc⟩ ::
      recordTrace ready last reopened) (.ok value : Except InitFail α) := by
  refine fun failure => iff_of_false nofun ?_
  rintro ⟨_,_,member,_,fails⟩
  cases mem_framed.mp member
  rw [free] at fails
  cases fails

theorem logs_tried {c : StartupCall} (free : c.initFail = none) (other : c ≠ .fsdevMountSdmc) : Logs 2 (tried c) := by
  refine logs_call ⟨c.name ++ " begin".toList,none⟩ (concludes_tried c) rfl rfl (frame_tried free)
    (fun rc code same => ?_) (fun _ failure => iff_of_false nofun ?_)
  · cases same
    exact other rfl
  · rintro ⟨_,_,same,_,fails⟩
    cases same
    rw [free] at fails
    cases fails

theorem concludes_performed (step : StartupStep) : Concludes (.perform step)
    (fun _ => recordStartupEvent (step.name ++ " complete".toList) none)
    (fun _ => ⟨step.name ++ " complete".toList,none⟩) Except.ok := fun _ t room => record_run t _ _ room

theorem logs_performed (step : StartupStep) : Logs 2 (performed step) := by
  refine logs_call ⟨step.name ++ " begin".toList,none⟩ (concludes_performed step) rfl rfl (fun _ => rfl)
    (fun _ _ => nofun) (fun _ failure => iff_of_false nofun ?_)
  rintro ⟨_,_,same,_⟩
  cases same

def outcomeEvent (c : StartupCall) (rc : UInt32) : StartupEvent :=
  ⟨c.name ++ (if rc ≠ 0 then " failed".toList else " complete".toList),some rc⟩

theorem frame_required {c : StartupCall} {failure : InitFail} (fatal : c.initFail = some failure) (rc : UInt32) :
    frame ⟨.call c,rc⟩ = some (⟨c.name ++ " begin".toList,none⟩,outcomeEvent c rc) := by
  rw [frame,fatal,outcomeEvent]
  by_cases failed : rc ≠ 0
  · rw [if_pos ⟨rfl,failed⟩,if_pos failed]
  · rw [if_neg fun both => failed both.2,if_neg failed]

theorem concludes_required (c : StartupCall) (failure : InitFail) : Concludes (.call c)
    (fun rc => if rc ≠ 0 then recordStartupEvent (c.name ++ " failed".toList) (some rc) >>= fun _ => throw failure
      else recordStartupEvent (c.name ++ " complete".toList) (some rc))
    (outcomeEvent c) (fun rc => if rc ≠ 0 then .error failure else .ok ()) := by
  intro rc t room
  by_cases failed : rc ≠ 0
  · simp only [outcomeEvent,if_pos failed]
    refine ensures_bind.mpr ((record_run t _ _ room).mono fun trace result told => ?_)
    obtain ⟨opened,rfl,rfl⟩ := told
    exact ⟨opened,List.append_nil _,rfl⟩
  · simp only [outcomeEvent,if_neg failed]
    exact record_run t _ _ room

theorem logs_required {c : StartupCall} {failure : InitFail} (fatal : c.initFail = some failure) :
    Logs 2 (required c failure) := by
  have needed : c ≠ .fsdevMountSdmc := by
    rintro rfl
    cases fatal
  refine logs_call ⟨c.name ++ " begin".toList,none⟩ (concludes_required c failure) rfl rfl (frame_required fatal)
    (fun rc code same => ?_) (fun rc other => ?_)
  · cases same
    exact needed rfl
  · by_cases failed : rc ≠ 0
    · rw [if_pos failed]
      constructor
      · intro same
        exact ⟨c,rc,rfl,failed,fatal.trans (congrArg some (Except.error.inj same))⟩
      · rintro ⟨_,_,same,_,fails⟩
        cases same
        exact congrArg Except.error (Option.some.inj (fatal.symm.trans fails))
    · rw [if_neg failed]
      refine iff_of_false nofun ?_
      rintro ⟨_,_,same,code,_⟩
      cases same
      exact failed code

theorem logs_bind (count rest : Nat) {total : Nat} (enough : count + rest ≤ total) {p : StartupProgram α}
    {f : α → StartupProgram β} (one : Logs count p) (two : ∀ value, Logs rest (f value)) : Logs total (p >>= f) :=
  (one.bind two).mono enough

theorem logs_ite {condition : Prop} [Decidable condition] {p q : StartupProgram α} (yes : Logs count p)
    (no : Logs count q) : Logs count (if condition then p else q) := by
  split
  · exact yes
  · exact no

theorem logs_readFirmware : Logs 3 readFirmware := by
  have exited : Logs 1 (ask .setsysExit >>= fun _ => recordStartupEvent "setsysExit complete".toList none) :=
    logs_bind 0 1 (by decide) (logs_ask rfl rfl fun _ => rfl) fun _ => logs_record _ _
  refine logs_bind 2 1 (by decide) (logs_tried rfl (by decide)) fun rc => logs_ite ?_ exited
  refine logs_bind 0 1 (by decide) (logs_ask rfl rfl fun _ => rfl) fun fw => ?_
  exact logs_bind 0 1 (by decide) (logs_ask rfl rfl fun _ => rfl) fun _ => exited

theorem logs_initHosversion : Logs 5 initHosversion := by
  refine logs_bind 0 5 (by decide) (logs_ask rfl rfl fun _ => rfl) fun version => logs_ite ?_ ?_
  · refine logs_bind 2 3 (by decide) (logs_tried rfl (by decide)) fun rc => logs_ite logs_readFirmware ?_
    exact (logs_pure ()).mono (by decide)
  · exact logs_bind 0 1 (by decide) (logs_ask rfl rfl fun _ => rfl) fun version => logs_record _ _

theorem logs_initHid : Logs 2 initHid :=
  logs_bind 0 2 (by decide) (logs_ask rfl rfl fun _ => rfl) fun _ =>
    logs_ite ((logs_record _ _).mono (by decide)) (logs_required rfl)

theorem logs_initServices : Logs 18 initServices := by
  refine logs_bind 1 17 (by decide) (logs_record _ _) fun _ => ?_
  refine logs_bind 2 15 (by decide) (logs_required rfl) fun _ => ?_
  refine logs_bind 5 10 (by decide) logs_initHosversion fun _ => ?_
  refine logs_bind 2 8 (by decide) (logs_required rfl) fun _ => ?_
  refine logs_bind 2 6 (by decide) logs_initHid fun _ => ?_
  refine logs_bind 2 4 (by decide) (logs_required rfl) fun _ => ?_
  exact logs_bind 2 2 (by decide) (logs_performed _) fun _ => logs_required rfl

theorem logs_performedIf (linked : Bool) (step : StartupStep) : Logs 2 (performedIf linked step) :=
  logs_ite (logs_performed step) ((logs_record _ _).mono (by decide))

theorem logs_initProcess (winInit userAppInit : Bool) : Logs 7 (initProcess winInit userAppInit) := by
  refine logs_bind 2 5 (by decide) (logs_performed _) fun _ => ?_
  refine logs_bind 2 3 (by decide) (logs_performedIf winInit _) fun _ => ?_
  exact logs_bind 2 1 (by decide) (logs_performedIf userAppInit _) fun _ => logs_record _ _

/-- Lines without an event. -/
structure Emits (trace : List StartupExchange) (lines file : List CString) : Prop where
  said : said trace = lines
  filed : filed trace = file
  frameless : ∀ e ∈ trace, frame e = none

theorem emits_replay (events replayed : List StartupEvent) :
    ((replayed.forM fun event => emit event.replayLine).run.run ⟨events,true⟩).Ensures fun trace result =>
      Emits trace (replayed.map StartupEvent.replayLine) (replayed.map StartupEvent.replayLine) ∧
        result = (.ok (),⟨events,true⟩) := by
  induction replayed with
  | nil => exact ⟨⟨rfl,rfl,List.forall_mem_nil _⟩,rfl⟩
  | cons event replayed ih =>
    intro _ opened
    refine Ensures.mono ih fun trace result told => ?_
    obtain ⟨emits,rfl⟩ := told
    refine ⟨⟨congrArg _ emits.said,congrArg _ emits.filed,?_⟩,rfl⟩
    exact List.forall_mem_cons.mpr ⟨rfl,List.forall_mem_cons.mpr ⟨rfl,emits.frameless⟩⟩

theorem emits_enable (events : List StartupEvent) :
    (enableStartupFileLog.run.run ⟨events,false⟩).Ensures fun trace result =>
      Emits trace (events.map StartupEvent.replayLine) (readyLine :: events.map StartupEvent.replayLine) ∧
        result = (.ok (),⟨events,true⟩) := by
  intro _ _ opened
  refine Ensures.mono (emits_replay events events) fun trace result told => ?_
  obtain ⟨emits,rfl⟩ := told
  refine ⟨⟨emits.said,congrArg _ emits.filed,?_⟩,rfl⟩
  exact List.forall_mem_cons.mpr ⟨rfl,List.forall_mem_cons.mpr ⟨rfl,List.forall_mem_cons.mpr ⟨rfl,emits.frameless⟩⟩⟩

/-- The card was mounted. -/
def Mounts (trace : List StartupExchange) : Prop := ⟨.call .fsdevMountSdmc,0⟩ ∈ trace

/-- What a start leaves: the events in order, on the debug output with the replay of the earlier ones between them once
the card is mounted, and in what is appended to the file behind the ready line; each call right behind its announcement
and right before its result, on both; and an abort for a needed call that failed, and only then. -/
structure StartupTraced (trace : List StartupExchange) (result : Except InitFail Unit) (t : StartupTrace) : Prop where
  logged : ∃ before behind : List StartupEvent, t.events = before ++ behind ∧
    (Mounts trace → said trace = before.map StartupEvent.line ++ (before.map StartupEvent.replayLine ++
      behind.map StartupEvent.line) ∧
        filed trace = readyLine :: (before.map StartupEvent.replayLine ++ behind.map StartupEvent.line)) ∧
    (¬Mounts trace → said trace = (before ++ behind).map StartupEvent.line ∧ filed trace = [])
  framed : ∀ before e behind first last, trace = before ++ e :: behind → frame e = some (first,last) →
    (said before).getLast? = some first.line ∧ (said behind).head? = some last.line ∧
      (filed before ≠ [] → (filed before).getLast? = some first.line ∧ (filed behind).head? = some last.line)
  aborts : Aborts trace result

theorem Framed.unfiled (framed : Framed false trace news) {part : List StartupExchange}
    (split : trace = before ++ part) :
    Startup.filed before = [] := by
  have none : Startup.filed (before ++ part) = [] := split ▸ framed.filed
  rw [filed_append] at none
  exact (List.append_eq_nil_iff.mp none).1

theorem traced_unmounted {result : Except InitFail Unit} (framed : Framed false trace news) (unmounted : ¬Mounts trace)
    (aborts : Aborts trace result) : StartupTraced trace result ⟨news,false⟩ where
  logged := by
    refine ⟨news,[],(List.append_nil news).symm,fun mounted => absurd mounted unmounted,fun _ => ⟨?_,framed.filed⟩⟩
    rw [List.append_nil,framed.said]
  framed := fun before e behind first last split frames =>
    have there := framed.framed before e behind first last split frames
    ⟨there.announced,there.answered,fun some => absurd (framed.unfiled split) some⟩
  aborts := aborts

theorem traced_mounted {result : Except InitFail Unit} {front middle back : List StartupExchange}
    (early : Framed false front news) (mounted : Mounts front)
    (emits : Emits middle (news.map StartupEvent.replayLine) (readyLine :: news.map StartupEvent.replayLine))
    (late : Framed true back more) (aborts : Aborts (front ++ (middle ++ back)) result) :
    StartupTraced (front ++ (middle ++ back)) result ⟨news ++ more,true⟩ where
  logged := by
    refine ⟨news,more,rfl,fun _ => ⟨?_,?_⟩,fun none => absurd (List.mem_append_left _ mounted) none⟩
    · rw [said_append,said_append,early.said,emits.said,late.said]
    · rw [filed_append,filed_append,early.filed,emits.filed,late.filed]
      rfl
  framed := by
    intro before e behind first last split frames
    have apart : e ∉ middle := fun member => absurd ((emits.frameless e member).symm.trans frames) nofun
    have some : middle ≠ [] := by
      rintro rfl
      exact absurd emits.filed nofun
    rcases List.append_eq_append_iff.mp split with ⟨part,rfl,rest⟩ | ⟨part,rfl,rest⟩
    · rcases List.append_eq_append_iff.mp rest with ⟨inner,rfl,tail⟩ | ⟨inner,rfl,tail⟩
      · have there := (((late.framed inner e behind first last tail frames).after middle).after front)
        exact ⟨there.announced,there.answered,fun _ => there.filed rfl⟩
      · cases inner with
        | nil =>
          have there := late.framed [] e behind first last tail.symm frames
          exact absurd there.announced nofun
        | cons x inner =>
          rw [(List.cons.inj tail).1] at apart
          exact absurd (List.mem_append_right _ List.mem_cons_self) apart
    · cases part with
      | nil =>
        obtain ⟨x,middle,rfl⟩ := List.exists_cons_of_ne_nil some
        rw [(List.cons.inj rest).1] at apart
        exact absurd List.mem_cons_self apart
      | cons x part =>
        obtain ⟨rfl,rfl⟩ := List.cons.inj rest
        have there := (early.framed before e part first last rfl frames).ahead (middle ++ back)
        exact ⟨there.announced,there.answered,fun some => absurd (early.unfiled rfl) some⟩
  aborts := aborts

/-- What follows the services, from the mount of the card on. -/
theorem mount_traced (winInit userAppInit : Bool) {trace : List StartupExchange} (few : news.length ≤ 18)
    (logged : Logged false trace news) (aborts : Aborts trace (.ok () : Except InitFail Unit)) :
    ((tried .fsdevMountSdmc >>= fun rc => if rc = 0 then
        enableStartupFileLog >>= fun _ => initProcess winInit userAppInit else initProcess winInit userAppInit).run.run
      ⟨news,false⟩).Ensures fun later result => StartupTraced (trace ++ later) result.1 result.2 := by
  have process := logs_initProcess winInit userAppInit
  refine ensures_bind.mpr ((tried_run rfl ⟨news,false⟩ (Nat.le_trans (Nat.add_le_add_right few 2) (by decide))).mono
    fun mount result told => ?_)
  obtain ⟨rc,one,last,opened,reopened,frames,split,rfl⟩ := told
  have framed : Framed false mount [one,last] := split ▸ Framed.call rfl rfl frames opened reopened
  have calm : Aborts (trace ++ mount) (.ok () : Except InitFail Unit) := aborts_ok aborts (split ▸ aborts_tried rfl ())
  have room : (news ++ [one,last]).length + 7 ≤ maxStartupEvents :=
    Nat.le_trans (Nat.add_le_add_right (List.length_append.trans_le (Nat.add_le_add_right few 2)) 7) (by decide)
  have rest : ((if rc = 0 then enableStartupFileLog >>= fun _ => initProcess winInit userAppInit
      else initProcess winInit userAppInit).run.run ⟨news ++ [one,last],false⟩).Ensures
        fun later result => StartupTraced (trace ++ (mount ++ later)) result.1 result.2 := by
    by_cases mounted : rc = 0
    · rw [if_pos mounted]
      refine ensures_bind.mpr ((emits_enable (news ++ [one,last])).mono fun replay result told => ?_)
      obtain ⟨emits,rfl⟩ := told
      refine Ensures.mono (process ⟨news ++ [one,last],true⟩ room) fun later result told => ?_
      obtain ⟨more,_,late,ends,recorded⟩ := told
      have there : Mounts (trace ++ mount) := by
        rw [Mounts,List.mem_append,split,mem_framed,mounted]
        exact Or.inr rfl
      have all := aborts_ok calm (aborts_ok (aborts_never emits.frameless ()) ends)
      have traced := traced_mounted (logged.toFramed.append framed) there emits late.toFramed all
      rw [List.append_assoc] at traced
      rw [recorded]
      exact traced
    · rw [if_neg mounted]
      refine (process ⟨news ++ [one,last],false⟩ room).mono fun later result told => ?_
      obtain ⟨more,_,late,ends,recorded⟩ := told
      have traced : StartupTraced (trace ++ mount ++ later) result.1 ⟨news ++ [one,last] ++ more,false⟩ := by
        refine traced_unmounted ((logged.toFramed.append framed).append late.toFramed) ?_ (aborts_ok calm ends)
        rw [Mounts,List.mem_append,List.mem_append,split,mem_framed]
        rintro ((early | same) | late')
        · exact logged.unmounted 0 early
        · cases same
          exact mounted rfl
        · exact late.unmounted 0 late'
      rw [List.append_assoc] at traced
      rw [recorded]
      exact traced
  exact rest

theorem appInit_traced (winInit userAppInit : Bool) : ((appInit winInit userAppInit).run.run ⟨[],false⟩).Ensures
    fun trace result => StartupTraced trace result.1 result.2 := by
  refine ensures_bind.mpr ((logs_initServices ⟨[],false⟩ (by decide)).mono fun trace result told => ?_)
  obtain ⟨result,t⟩ := result
  obtain ⟨news,few,logged,aborts,rfl⟩ := told
  cases result with
  | error failure =>
    have traced : StartupTraced (trace ++ []) (.error failure) ⟨news,false⟩ := by
      rw [List.append_nil]
      exact traced_unmounted logged.toFramed (logged.unmounted 0) aborts
    exact traced
  | ok _ => exact mount_traced winInit userAppInit few logged aborts

end NxReverse.Toolbox.Startup
