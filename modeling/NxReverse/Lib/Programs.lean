import Mathlib.Data.List.Basic

/-! Programs that call a service and go on with its answers. What holds of every trace of calls is
shown along the program, whatever the service answers. -/
namespace NxReverse

structure Exchange {Command : Type} (Answer : Command → Type) where
  command : Command
  answer : Answer command

inductive Program {Command : Type} (Answer : Command → Type) (α : Type) where
  | done (value : α)
  | call (command : Command) (next : Answer command → Program Answer α)

namespace Program

variable {Command : Type} {Answer : Command → Type} {α β : Type}

protected def bind : Program Answer α → (α → Program Answer β) → Program Answer β
  | done value,f => f value
  | call command next,f => call command fun answer => (next answer).bind f

instance : Monad (Program Answer) where
  pure := done
  bind := Program.bind

instance : LawfulMonad (Program Answer) := by
  apply LawfulMonad.mk' (Program Answer)
  · intro α p
    induction p with
    | done value => rfl
    | call command next ih => exact congrArg (call command) (funext ih)
  · exact fun _ _ => rfl
  · intro α β γ p f g
    induction p with
    | done value => rfl
    | call command next ih => exact congrArg (call command) (funext ih)

def perform (command : Command) : Program Answer (Answer command) := call command done

/-- The service may look at all that was said before. -/
abbrev Service (Answer : Command → Type) := List (Exchange Answer) → (command : Command) → Answer command

def run (service : Service Answer) : Program Answer α → List (Exchange Answer) → List (Exchange Answer) × α
  | done value,trace => (trace,value)
  | call command next,trace =>
    let answer := service trace command
    (next answer).run service (trace ++ [⟨command,answer⟩])

/-- Whatever is answered, the calls and the value satisfy `Q`. -/
def Ensures : Program Answer α → (List (Exchange Answer) → α → Prop) → Prop
  | done value,Q => Q [] value
  | call command next,Q => ∀ answer, (next answer).Ensures fun trace value => Q (⟨command,answer⟩ :: trace) value

variable {p : Program Answer α} {f : α → Program Answer β} {Q R : List (Exchange Answer) → α → Prop}
  {S : List (Exchange Answer) → β → Prop}

@[simp] theorem ensures_pure {value : α} : (pure value : Program Answer α).Ensures Q ↔ Q [] value := Iff.rfl

theorem Ensures.mono (ensures : p.Ensures Q) (weaker : ∀ trace value, Q trace value → R trace value) :
    p.Ensures R := by
  induction p generalizing Q R with
  | done value => exact weaker [] value ensures
  | call command next ih => exact fun answer => ih answer (ensures answer) fun trace value => weaker _ value

theorem ensures_of_always (always : ∀ trace value, Q trace value) : p.Ensures Q := by
  induction p generalizing Q with
  | done value => exact always [] value
  | call command next ih => exact fun answer => ih answer fun trace value => always _ value

theorem Ensures.and (first : p.Ensures Q) (second : p.Ensures R) :
    p.Ensures fun trace value => Q trace value ∧ R trace value := by
  induction p generalizing Q R with
  | done value => exact ⟨first,second⟩
  | call command next ih => exact fun answer => ih answer (first answer) (second answer)

theorem ensures_forall {ι : Type} {Q : ι → List (Exchange Answer) → α → Prop} (ensures : ∀ i, p.Ensures (Q i)) :
    p.Ensures fun trace value => ∀ i, Q i trace value := by
  induction p generalizing Q with
  | done value => exact ensures
  | call command next ih => exact fun answer => ih answer fun i => ensures i answer

theorem ensures_bind : (p >>= f).Ensures S ↔
    p.Ensures fun trace value => (f value).Ensures fun later result => S (trace ++ later) result := by
  induction p generalizing S with
  | done value => exact Iff.rfl
  | call command next ih => exact forall_congr' fun answer => ih answer

@[simp] theorem ensures_perform {command : Command} {Q : List (Exchange Answer) → Answer command → Prop} :
    (perform command : Program Answer (Answer command)).Ensures Q ↔ ∀ answer, Q [⟨command,answer⟩] answer := Iff.rfl

theorem ensures_perform_bind {command : Command} {f : Answer command → Program Answer β} :
    (perform command >>= f).Ensures S ↔
      ∀ answer, (f answer).Ensures fun trace value => S (⟨command,answer⟩ :: trace) value := Iff.rfl

theorem Ensures.ite {condition : Prop} [Decidable condition] {q : Program Answer α}
    (holds : condition → p.Ensures Q) (fails : ¬condition → q.Ensures Q) : (if condition then p else q).Ensures Q := by
  split
  next true_ => exact holds true_
  next false_ => exact fails false_

/-- Whatever is answered, the program's exchanges are all allowed. -/
def Only (allowed : Exchange Answer → Prop) (p : Program Answer α) : Prop :=
  p.Ensures fun trace _ => ∀ exchange ∈ trace, allowed exchange

section Only

variable {allowed : Exchange Answer → Prop}

theorem only_pure (value : α) : Only allowed (pure value : Program Answer α) := List.forall_mem_nil _

theorem only_call {command : Command} {next : Answer command → Program Answer α}
    (now : ∀ answer, allowed ⟨command,answer⟩) (later : ∀ answer, Only allowed (next answer)) :
    Only allowed (perform command >>= next) :=
  fun answer => (later answer).mono fun _ _ all => List.forall_mem_cons.mpr ⟨now answer,all⟩

theorem Only.bind (first : Only allowed p) (rest : ∀ value, Only allowed (f value)) : Only allowed (p >>= f) := by
  rw [Only,ensures_bind]
  refine Ensures.mono first fun trace value all => (rest value).mono fun later _ allLater => ?_
  exact List.forall_mem_append.mpr ⟨all,allLater⟩

theorem Only.ite {condition : Prop} [Decidable condition] {q : Program Answer α} (holds : Only allowed p)
    (fails : Only allowed q) : Only allowed (if condition then p else q) :=
  Ensures.ite (fun _ => holds) fun _ => fails

end Only

/-- Where the service only gives answers that favour it, the program comes to a value and a trace with `Q`. -/
def Completes (favours : Exchange Answer → Prop) (p : Program Answer α) (Q : List (Exchange Answer) → α → Prop) : Prop :=
  p.Ensures fun trace value => (∀ exchange ∈ trace, favours exchange) → Q trace value

section Completes

variable {favours : Exchange Answer → Prop}

theorem completes_pure {value : α} (holds : Q [] value) : Completes favours (pure value : Program Answer α) Q :=
  fun _ => holds

theorem completes_call {command : Command} {next : Answer command → Program Answer α}
    (later : ∀ answer, favours ⟨command,answer⟩ →
      Completes favours (next answer) fun trace value => Q (⟨command,answer⟩ :: trace) value) :
    Completes favours (perform command >>= next) Q := by
  intro answer
  by_cases favoured : favours ⟨command,answer⟩
  · exact (later answer favoured).mono fun _ _ holds all => holds (List.forall_mem_cons.mp all).2
  · exact ensures_of_always fun _ _ all => absurd (List.forall_mem_cons.mp all).1 favoured

theorem Completes.mono (first : Completes favours p Q) (weaker : ∀ trace value, Q trace value → R trace value) :
    Completes favours p R :=
  Ensures.mono first fun trace value holds all => weaker trace value (holds all)

theorem Completes.bind (first : Completes favours p Q)
    (rest : ∀ trace value, Q trace value → Completes favours (f value) fun later result => S (trace ++ later) result) :
    Completes favours (p >>= f) S := by
  rw [Completes,ensures_bind]
  refine Ensures.mono first fun trace value holds => ?_
  by_cases favoured : ∀ exchange ∈ trace, favours exchange
  · refine Ensures.mono (rest trace value (holds favoured)) fun later result holds all => ?_
    exact holds (List.forall_mem_append.mp all).2
  · exact ensures_of_always fun _ _ all => absurd (List.forall_mem_append.mp all).1 favoured

end Completes

/-- What is ensured holds of the run against any service. -/
theorem Ensures.run (ensures : p.Ensures Q) (service : Service Answer) (before : List (Exchange Answer)) :
    ∃ trace, (p.run service before).1 = before ++ trace ∧ Q trace (p.run service before).2 := by
  induction p generalizing Q before with
  | done value => exact ⟨[],(List.append_nil before).symm,ensures⟩
  | call command next ih =>
    obtain ⟨trace,calls,holds⟩ := ih _ (ensures (service before command)) (before ++ [⟨command,service before command⟩])
    refine ⟨⟨command,service before command⟩ :: trace,?_,holds⟩
    rw [Program.run,calls,List.append_assoc]
    rfl

theorem Ensures.of_run (ensures : p.Ensures Q) (service : Service Answer) :
    Q (p.run service []).1 (p.run service []).2 := by
  obtain ⟨trace,calls,holds⟩ := ensures.run service []
  rw [calls]
  exact holds

/-- Every answer in a run's trace is one that the service gave. -/
theorem answered_run (p : Program Answer α) (service : Service Answer) (trace : List (Exchange Answer)) :
    ∀ exchange ∈ (p.run service trace).1, exchange ∈ trace ∨
      ∃ before, exchange.answer = service before exchange.command := by
  induction p generalizing trace with
  | done value => exact fun exchange member => .inl member
  | call command next ih =>
    intro exchange member
    rcases ih _ _ exchange member with earlier | answered
    · rcases List.mem_append.mp earlier with before | now
      · exact .inl before
      · rw [List.mem_singleton] at now
        exact .inr ⟨trace,by rw [now]⟩
    · exact .inr answered

end Program

end NxReverse
