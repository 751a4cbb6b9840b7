import NxReverse.Lib.Programs
import Mathlib.Data.List.Count

/-! What a program must hold to make a call, must not hold at it, gives up by it and is granted by it. A trace
that minds this from nothing to nothing uses only what it has, and gives back what it was granted. -/
namespace NxReverse

structure Custody (ε κ : Type) where
  needs : ε → List κ
  bars : ε → κ → Bool
  frees : ε → Option κ
  grants : ε → List κ

namespace Custody

variable {ε κ : Type} [DecidableEq κ] (c : Custody ε κ)

structure Allowed (held : List κ) (e : ε) : Prop where
  needed : ∀ k ∈ c.needs e, k ∈ held
  barred : ∀ k ∈ held, c.bars e k = false
  freed : ∀ k, c.frees e = some k → k ∈ held

def after (held : List κ) (e : ε) : List κ := c.grants e ++ (c.frees e).elim held held.erase

/-- Every event is allowed by what is held at it, and `left` is held behind the last. -/
def Keeps : List κ → List ε → List κ → Prop
  | held,[],left => held = left
  | held,e :: trace,left => c.Allowed held e ∧ Keeps (c.after held e) trace left

def granted (trace : List ε) (k : κ) : Nat := (trace.flatMap c.grants).count k

def freed (trace : List ε) (k : κ) : Nat := (trace.filterMap c.frees).count k

/-- What a trace shows that starts with nothing: at every event what it needs and what it frees was granted more
often than freed, and what it bars as often. -/
structure Orderly (trace : List ε) : Prop where
  needed : ∀ before e behind k, trace = before ++ e :: behind → k ∈ c.needs e → c.freed before k < c.granted before k
  barred : ∀ before e behind k, trace = before ++ e :: behind → c.bars e k = true →
    c.freed before k = c.granted before k
  freed : ∀ before e behind k, trace = before ++ e :: behind → c.frees e = some k →
    c.freed before k < c.granted before k

/-- In the end everything was freed as often as granted. -/
structure Disciplined (trace : List ε) : Prop extends c.Orderly trace where
  all : ∀ k, c.freed trace k = c.granted trace k

variable {c} {held middle left : List κ} {e : ε} {trace first second : List ε} {k : κ}

theorem Keeps.append (before : c.Keeps held first middle) (behind : c.Keeps middle second left) :
    c.Keeps held (first ++ second) left := by
  induction first generalizing held with
  | nil =>
    subst before
    exact behind
  | cons e first ih => exact ⟨before.1,ih before.2⟩

theorem Keeps.split (keeps : c.Keeps held (first ++ second) left) :
    ∃ middle, c.Keeps held first middle ∧ c.Keeps middle second left := by
  induction first generalizing held with
  | nil => exact ⟨held,rfl,keeps⟩
  | cons e first ih =>
    obtain ⟨middle,before,behind⟩ := ih keeps.2
    exact ⟨middle,⟨keeps.1,before⟩,behind⟩

theorem granted_cons : c.granted (e :: trace) k = (c.grants e).count k + c.granted trace k := by
  rw [granted,List.flatMap_cons,List.count_append]
  rfl

theorem freed_cons : c.freed (e :: trace) k = (if c.frees e = some k then 1 else 0) + c.freed trace k := by
  rw [freed,freed,List.filterMap_cons]
  cases c.frees e with
  | none => simp
  | some other => simp [List.count_cons,Nat.add_comm]

theorem Allowed.count_after (allowed : c.Allowed held e) :
    (if c.frees e = some k then 1 else 0) + (c.after held e).count k = held.count k + (c.grants e).count k := by
  rw [after,List.count_append]
  cases freed : c.frees e with
  | none => simp [Nat.add_comm]
  | some other =>
    have member : other ∈ held := allowed.freed other freed
    by_cases same : other = k
    · subst same
      have positive : 0 < held.count other := List.count_pos_iff.mpr member
      rw [Option.elim_some,List.count_erase_self,if_pos rfl]
      omega
    · rw [Option.elim_some,List.count_erase_of_ne (Ne.symm same),if_neg (fun h => same (Option.some.inj h))]
      omega

/-- What was held or granted is freed or left. -/
theorem Keeps.count (keeps : c.Keeps held trace left) (k : κ) :
    c.freed trace k + left.count k = held.count k + c.granted trace k := by
  induction trace generalizing held with
  | nil =>
    subst keeps
    simp [freed,granted]
  | cons e trace ih =>
    have now : (if c.frees e = some k then 1 else 0) + (c.after held e).count k =
        held.count k + (c.grants e).count k := keeps.1.count_after
    have later := ih keeps.2
    rw [freed_cons,granted_cons]
    omega

theorem Keeps.orderly (keeps : c.Keeps [] trace left) : c.Orderly trace := by
  have here : ∀ before e behind, trace = before ++ e :: behind →
      ∃ held, c.Allowed held e ∧ ∀ k, c.freed before k + held.count k = c.granted before k := by
    rintro before e behind rfl
    obtain ⟨held,reached,later⟩ := keeps.split
    refine ⟨held,later.1,fun k => ?_⟩
    rw [reached.count k,List.count_nil,Nat.zero_add]
  refine ⟨fun before e behind k split needs => ?_,fun before e behind k split bars => ?_,
    fun before e behind k split frees => ?_⟩
  · obtain ⟨held,allowed,counts⟩ := here before e behind split
    have positive : 0 < held.count k := List.count_pos_iff.mpr (allowed.needed k needs)
    have total := counts k
    omega
  · obtain ⟨held,allowed,counts⟩ := here before e behind split
    have absent : k ∉ held := fun member => by rw [allowed.barred k member] at bars; cases bars
    rw [← counts k,List.count_eq_zero_of_not_mem absent,Nat.add_zero]
  · obtain ⟨held,allowed,counts⟩ := here before e behind split
    have positive : 0 < held.count k := List.count_pos_iff.mpr (allowed.freed k frees)
    have total := counts k
    omega

theorem Keeps.disciplined (keeps : c.Keeps [] trace []) : c.Disciplined trace := by
  refine ⟨keeps.orderly,fun k => ?_⟩
  have total := keeps.count k
  simpa using total

theorem exists_grants_of_granted (positive : 0 < c.granted trace k) : ∃ e ∈ trace, k ∈ c.grants e :=
  List.mem_flatMap.mp (List.count_pos_iff.mp positive)

/-- What an event needs was granted by one before it. -/
theorem Orderly.provided (orderly : c.Orderly trace) {before behind : List ε} (split : trace = before ++ e :: behind)
    (needs : k ∈ c.needs e) : ∃ earlier ∈ before, k ∈ c.grants earlier :=
  exists_grants_of_granted (Nat.zero_lt_of_lt (orderly.needed before e behind k split needs))

theorem Keeps.provided (keeps : c.Keeps [] trace left) (member : k ∈ left) : ∃ e ∈ trace, k ∈ c.grants e := by
  have total := keeps.count k
  have positive : 0 < left.count k := List.count_pos_iff.mpr member
  rw [List.count_nil] at total
  exact exists_grants_of_granted (by omega)

end Custody

namespace Custody

open Program

def Ends {κ ε α : Type} (kept : List κ → α → Prop) (lost : List κ → ε → Prop) (left : List κ) : Except ε α → Prop
  | .ok value => kept left value
  | .error e => lost left e

theorem Ends.mono {κ ε α : Type} {kept weaker : List κ → α → Prop} {lost : List κ → ε → Prop}
    (weakens : ∀ left value, kept left value → weaker left value) (left : List κ) (outcome : Except ε α)
    (ends : Ends kept lost left outcome) : Ends weaker lost left outcome := by
  cases outcome with
  | ok value => exact weakens left value ends
  | error e => exact ends

variable {Command : Type} {Answer : Command → Type} {κ α β : Type} [DecidableEq κ] {c : Custody (Exchange Answer) κ}
  {held : List κ} {p q : Program Answer α} {f : α → Program Answer β} {Q R : List κ → α → Prop}
  {S : List κ → β → Prop} {command : Command}

/-- Whatever is answered, the program that holds `held` minds its custody, and `Q` holds of what is left and of the
value. -/
def Minds (c : Custody (Exchange Answer) κ) (held : List κ) (p : Program Answer α) (Q : List κ → α → Prop) : Prop :=
  p.Ensures fun trace value => ∃ left, c.Keeps held trace left ∧ Q left value

theorem minds_pure {value : α} (holds : Q held value) : c.Minds held (pure value : Program Answer α) Q :=
  ⟨held,rfl,holds⟩

theorem Minds.mono (minds : c.Minds held p Q) (weaker : ∀ left value, Q left value → R left value) :
    c.Minds held p R :=
  Ensures.mono minds fun _ _ ⟨left,keeps,holds⟩ => ⟨left,keeps,weaker left _ holds⟩

theorem minds_call {next : Answer command → Program Answer α} (now : ∀ answer, c.Allowed held ⟨command,answer⟩)
    (later : ∀ answer, c.Minds (c.after held ⟨command,answer⟩) (next answer) Q) :
    c.Minds held (perform command >>= next) Q :=
  ensures_perform_bind.mpr fun answer => Ensures.mono (later answer) fun _ _ ⟨left,keeps,holds⟩ =>
    ⟨left,⟨now answer,keeps⟩,holds⟩

/-- A call that frees nothing. -/
theorem minds_ask {next : Answer command → Program Answer α}
    (needed : ∀ answer, ∀ k ∈ c.needs ⟨command,answer⟩, k ∈ held)
    (barred : ∀ answer, ∀ k ∈ held, c.bars ⟨command,answer⟩ k = false)
    (frees : ∀ answer, c.frees ⟨command,answer⟩ = none)
    (later : ∀ answer, c.Minds (c.grants ⟨command,answer⟩ ++ held) (next answer) Q) :
    c.Minds held (perform command >>= next) Q := by
  refine minds_call (fun answer => ⟨needed answer,barred answer,fun k freed => ?_⟩) fun answer => ?_
  · cases (frees answer).symm.trans freed
  · rw [after,frees answer]
    exact later answer

/-- A call that frees what is held and grants nothing. -/
theorem minds_free {next : Answer command → Program Answer α} {k : κ} {left : List κ}
    (needed : ∀ answer, ∀ k' ∈ c.needs ⟨command,answer⟩, k' ∈ held)
    (barred : ∀ answer, ∀ k' ∈ held, c.bars ⟨command,answer⟩ k' = false)
    (frees : ∀ answer, c.frees ⟨command,answer⟩ = some k) (grants : ∀ answer, c.grants ⟨command,answer⟩ = [])
    (member : k ∈ held) (leaves : held.erase k = left) (later : ∀ answer, c.Minds left (next answer) Q) :
    c.Minds held (perform command >>= next) Q := by
  refine minds_call (fun answer => ⟨needed answer,barred answer,fun other freed => ?_⟩) fun answer => ?_
  · cases (frees answer).symm.trans freed
    exact member
  · rw [after,frees answer,grants answer,Option.elim_some,leaves]
    exact later answer

theorem Minds.bind (first : c.Minds held p fun middle value => c.Minds middle (f value) S) :
    c.Minds held (p >>= f) S := by
  refine ensures_bind.mpr (Ensures.mono first fun trace value ⟨middle,keeps,rest⟩ => ?_)
  exact Ensures.mono rest fun later result ⟨left,keepsLater,holds⟩ => ⟨left,keeps.append keepsLater,holds⟩

/-- A part that leaves `middle`, whatever its value. -/
theorem Minds.leading {middle : List κ} (first : c.Minds held p fun left _ => left = middle)
    (rest : ∀ value, c.Minds middle (f value) S) : c.Minds held (p >>= f) S := by
  refine Minds.bind (first.mono fun left value same => ?_)
  subst same
  exact rest value

theorem minds_ite {condition : Prop} [Decidable condition] (yes : condition → c.Minds held p Q)
    (no : ¬condition → c.Minds held q Q) : c.Minds held (if condition then p else q) Q := Ensures.ite yes no

section Failures

variable {ε : Type} {x : ExceptT ε (Program Answer) α} {g : α → ExceptT ε (Program Answer) β}
  {kept : List κ → α → Prop} {lost : List κ → ε → Prop} {result : List κ → β → Prop}

/-- A bind in a program that can fail goes on behind a value only. -/
theorem minds_then (first : c.Minds held x.run (Ends kept lost))
    (later : ∀ left value, kept left value → c.Minds left (g value).run (Ends result lost)) :
    c.Minds held (x >>= g).run (Ends result lost) := by
  refine Minds.bind (first.mono fun middle outcome ends => ?_)
  cases outcome with
  | ok value => exact later middle value ends
  | error e => exact minds_pure ends

end Failures

/-- Against any service the run of a program that keeps nothing is disciplined. -/
theorem Minds.disciplined (minds : c.Minds [] p fun left _ => left = []) (service : Service Answer) :
    c.Disciplined (p.run service []).1 := by
  obtain ⟨left,keeps,none⟩ := Ensures.of_run minds service
  subst none
  exact keeps.disciplined

end Custody

end NxReverse
