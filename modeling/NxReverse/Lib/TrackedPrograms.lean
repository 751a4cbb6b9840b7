import NxReverse.Lib.Programs

/-! Programs whose exchanges move a state. `Tracks` speaks of the state behind every run with allowed answers,
`Leads` of one such run. In programs that can fail, a bind goes on only behind a value. -/
namespace NxReverse.Program

variable {Command : Type} {Answer : Command → Type} {ε α β σ : Type}

/-- Whatever allowed answers are given from `state` on, the state behind them and the value satisfy `Q`. -/
def Tracks (step : σ → Exchange Answer → σ) (allowed : Exchange Answer → Prop) (p : Program Answer α) (state : σ)
    (Q : σ → α → Prop) : Prop :=
  p.Ensures fun trace value => (∀ exchange ∈ trace, allowed exchange) → Q (trace.foldl step state) value

/-- Some allowed answers lead from `state` to `last` with `value`. -/
def Leads (step : σ → Exchange Answer → σ) (allowed : Exchange Answer → Prop) :
    Program Answer α → σ → σ → α → Prop
  | done result,state,last,value => last = state ∧ result = value
  | call command next,state,last,value =>
    ∃ answer, allowed ⟨command,answer⟩ ∧ Leads step allowed (next answer) (step state ⟨command,answer⟩) last value

/-- A command in a program that can fail. -/
def ask (command : Command) : ExceptT ε (Program Answer) (Answer command) := ExceptT.lift (perform command)

variable {step : σ → Exchange Answer → σ} {allowed : Exchange Answer → Prop}

theorem tracks_call {command : Command} {next : Answer command → Program Answer α} {state : σ} {Q : σ → α → Prop} :
    Tracks step allowed (call command next) state Q ↔
      ∀ answer, allowed ⟨command,answer⟩ → Tracks step allowed (next answer) (step state ⟨command,answer⟩) Q := by
  constructor
  · intro tracks answer now
    exact (tracks answer).mono fun trace value holds all => holds (List.forall_mem_cons.mpr ⟨now,all⟩)
  · intro tracks answer
    by_cases now : allowed ⟨command,answer⟩
    · exact (tracks answer now).mono fun trace value holds all => holds (List.forall_mem_cons.mp all).2
    · have never : (next answer).Ensures fun _ _ => True := by
        generalize next answer = rest
        induction rest with
        | done value => trivial
        | call command next ih => exact fun answer => ih answer
      exact never.mono fun trace value _ all => absurd (List.forall_mem_cons.mp all).1 now

theorem tracks_done {value : α} {state : σ} {Q : σ → α → Prop} :
    Tracks step allowed (done value) state Q ↔ Q state value :=
  ⟨fun tracks => tracks (List.forall_mem_nil _),fun holds _ => holds⟩

theorem Tracks.mono {p : Program Answer α} {state : σ} {Q R : σ → α → Prop} (tracks : Tracks step allowed p state Q)
    (weaker : ∀ last value, Q last value → R last value) : Tracks step allowed p state R :=
  Ensures.mono tracks fun _ _ holds all => weaker _ _ (holds all)

theorem Tracks.bind {p : Program Answer α} {f : α → Program Answer β} {state : σ} {Q : σ → β → Prop}
    (tracks : Tracks step allowed p state fun last value => Tracks step allowed (f value) last Q) :
    Tracks step allowed (p >>= f) state Q := by
  induction p generalizing state with
  | done value => exact tracks_done.mp tracks
  | call command next ih =>
    exact tracks_call.mpr fun answer now => ih answer (tracks_call.mp tracks answer now)

/-- A run that can happen ends as all runs do. -/
theorem Tracks.of_leads {p : Program Answer α} {state last : σ} {value : α} {Q : σ → α → Prop}
    (tracks : Tracks step allowed p state Q) (leads : Leads step allowed p state last value) : Q last value := by
  induction p generalizing state with
  | done result =>
    obtain ⟨rfl,rfl⟩ := leads
    exact tracks_done.mp tracks
  | call command next ih =>
    obtain ⟨answer,now,later⟩ := leads
    exact ih answer (tracks_call.mp tracks answer now) later

theorem Leads.bind {p : Program Answer α} {f : α → Program Answer β} {state middle last : σ} {value : α} {result : β}
    (first : Leads step allowed p state middle value) (later : Leads step allowed (f value) middle last result) :
    Leads step allowed (p >>= f) state last result := by
  induction p generalizing state with
  | done value =>
    obtain ⟨rfl,rfl⟩ := first
    exact later
  | call command next ih =>
    obtain ⟨answer,now,first⟩ := first
    exact ⟨answer,now,ih answer first⟩

section Failures

variable {x : ExceptT ε (Program Answer) α} {f : α → ExceptT ε (Program Answer) β} {state middle last : σ}

theorem tracks_pure {value : α} {Q : σ → Except ε α → Prop} (holds : Q state (.ok value)) :
    Tracks step allowed (pure value : ExceptT ε (Program Answer) α).run state Q := tracks_done.mpr holds

theorem tracks_throw {e : ε} {Q : σ → Except ε α → Prop} (holds : Q state (.error e)) :
    Tracks step allowed (throw e : ExceptT ε (Program Answer) α).run state Q := tracks_done.mpr holds

theorem tracks_bind {Q : σ → Except ε β → Prop}
    (first : Tracks step allowed x.run state fun last result =>
      (∀ value, result = .ok value → Tracks step allowed (f value).run last Q) ∧
        ∀ e, result = .error e → Q last (.error e)) :
    Tracks step allowed (x >>= f).run state Q := by
  refine Tracks.bind (Tracks.mono first fun last result holds => ?_)
  cases result with
  | ok value => exact holds.1 value rfl
  | error e => exact tracks_done.mpr (holds.2 e rfl)

theorem tracks_ask {command : Command} {f : Answer command → ExceptT ε (Program Answer) β} {Q : σ → Except ε β → Prop}
    (later : ∀ answer, allowed ⟨command,answer⟩ → Tracks step allowed (f answer).run (step state ⟨command,answer⟩) Q) :
    Tracks step allowed (ask command >>= f).run state Q := tracks_call.mpr later

theorem leads_pure {value : α} : Leads step allowed (pure value : ExceptT ε (Program Answer) α).run state state (.ok value) :=
  ⟨rfl,rfl⟩

theorem leads_throw {e : ε} : Leads step allowed (throw e : ExceptT ε (Program Answer) α).run state state (.error e) :=
  ⟨rfl,rfl⟩

theorem leads_bind {value : α} {result : Except ε β} (first : Leads step allowed x.run state middle (.ok value))
    (later : Leads step allowed (f value).run middle last result) : Leads step allowed (x >>= f).run state last result :=
  Leads.bind first later

theorem leads_bind_error {e : ε} (first : Leads step allowed x.run state last (.error e)) :
    Leads step allowed (x >>= f).run state last (.error e) := Leads.bind first ⟨rfl,rfl⟩

theorem leads_ask {command : Command} {f : Answer command → ExceptT ε (Program Answer) β} (answer : Answer command)
    {result : Except ε β} (now : allowed ⟨command,answer⟩)
    (later : Leads step allowed (f answer).run (step state ⟨command,answer⟩) last result) :
    Leads step allowed (ask command >>= f).run state last result := ⟨answer,now,later⟩

end Failures

end NxReverse.Program
