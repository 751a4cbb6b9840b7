import NxReverse.Lib.Programs
import Mathlib.Data.List.Count

/-! What a program is granted by a service and gives back. The list of what it holds is followed
along the program; whether all comes back then depends on the grants that were not taken over. -/
namespace NxReverse

/-- How events are read: what an event grants, whether the program takes that over, what it gives
back, and whether it shows that the service is lost. -/
structure Lease (ε κ : Type) where
  granted : ε → Option κ
  takes : ε → Bool
  released : ε → Option κ
  lost : ε → Bool

namespace Lease

variable {ε κ : Type} (l : Lease ε κ)

def taken (e : ε) : Option κ := if l.takes e then l.granted e else none

def Quiet (trace : List ε) : Prop := ∀ e ∈ trace, l.granted e = none ∧ l.released e = none

/-- Only what is held is given back, and a key as often as it was granted, unless the service is lost
behind the grant. -/
structure Returned [DecidableEq κ] (trace : List ε) : Prop where
  held : ∀ before k, before <+: trace → (before.filterMap l.released).count k ≤ (before.filterMap l.granted).count k
  all : ∀ before e after k, trace = before ++ e :: after → l.granted e = some k →
    (trace.filterMap l.released).count k = (trace.filterMap l.granted).count k ∨ after.any l.lost = true

/-- Every grant of a key is taken over, unless the service is lost behind it. -/
def TakenOver (trace : List ε) : Prop :=
  ∀ before e after k, trace = before ++ e :: after → l.granted e = some k →
    (∀ other ∈ trace, l.granted other = some k → l.takes other = true) ∨ after.any l.lost = true

/-- A program that holds `held` goes through these events and ends with nothing, or loses the service. -/
inductive Accounts : List κ → List ε → Prop where
  | done : Accounts [] []
  | quiet {held e trace} (granted : l.granted e = none) (released : l.released e = none)
      (rest : Accounts held trace) : Accounts held (e :: trace)
  | take {held e k trace} (granted : l.granted e = some k) (takes : l.takes e = true) (released : l.released e = none)
      (rest : Accounts (k :: held) trace) : Accounts held (e :: trace)
  | leave {held e k trace} (granted : l.granted e = some k) (takes : l.takes e = false)
      (released : l.released e = none) (rest : Accounts held trace) : Accounts held (e :: trace)
  | release {held left e k trace} (granted : l.granted e = none) (released : l.released e = some k)
      (holds : held.Perm (k :: left)) (rest : Accounts left trace) : Accounts held (e :: trace)
  | lose {held e trace} (granted : l.granted e = none) (released : l.released e = none) (lost : l.lost e = true)
      (rest : l.Quiet trace) : Accounts held (e :: trace)

/-- The service is lost behind the last grant. -/
def LostBehind : List ε → Prop
  | [] => False
  | e :: trace => (l.granted e = none ∧ l.lost e = true ∧ l.Quiet trace) ∨ LostBehind trace

variable {l} {held : List κ} {trace first second : List ε}

theorem LostBehind.any (lost : l.LostBehind trace) : trace.any l.lost = true := by
  induction trace with
  | nil => exact lost.elim
  | cons e trace ih =>
    rw [List.any_cons,Bool.or_eq_true]
    rcases lost with ⟨_,here,_⟩ | later
    · exact .inl here
    · exact .inr (ih later)

theorem LostBehind.grant {before after : List ε} {e : ε} {k : κ} (lost : l.LostBehind (before ++ e :: after))
    (granted : l.granted e = some k) : after.any l.lost = true := by
  induction before with
  | nil =>
    rcases lost with ⟨none,_⟩ | later
    · cases granted.symm.trans none
    · exact later.any
  | cons first before ih =>
    rcases lost with ⟨_,_,quiet⟩ | later
    · have none := (quiet e (List.mem_append_right before List.mem_cons_self)).1
      cases granted.symm.trans none
    · exact ih later

section Counting

theorem Quiet.released (quiet : l.Quiet trace) : trace.filterMap l.released = [] :=
  List.filterMap_eq_nil_iff.mpr fun e member => (quiet e member).2

theorem taken_of_takes {e : ε} (takes : l.takes e = true) : l.taken e = l.granted e := if_pos takes

theorem taken_of_not_takes {e : ε} (takes : l.takes e = false) : l.taken e = none := by
  rw [taken,takes]
  rfl

theorem taken_of_none {e : ε} (granted : l.granted e = none) : l.taken e = none := by
  rw [taken,granted]
  exact ite_self none

variable [DecidableEq κ]

/-- An event adds one to the count of the key that it has. -/
theorem count_filterMap_cons (key : ε → Option κ) (e : ε) (trace : List ε) (k : κ) :
    ((e :: trace).filterMap key).count k = (trace.filterMap key).count k + if key e = some k then 1 else 0 := by
  rw [List.filterMap_cons]
  cases key e with
  | none => simp
  | some other => simp [List.count_cons]

/-- At no point is given back what is not held or taken over. -/
theorem Accounts.count_le (accounts : l.Accounts held trace) {before : List ε} (reached : before <+: trace) (k : κ) :
    (before.filterMap l.released).count k ≤ held.count k + (before.filterMap l.taken).count k := by
  induction accounts generalizing before with
  | done =>
    rw [List.prefix_nil.mp reached]
    exact Nat.le_refl 0
  | quiet granted released _ ih =>
    rcases List.prefix_cons_iff.mp reached with rfl | ⟨before,rfl,earlier⟩
    · exact Nat.zero_le _
    have count := ih earlier
    simpa [count_filterMap_cons,released,taken_of_none granted] using count
  | take granted takes released _ ih =>
    rcases List.prefix_cons_iff.mp reached with rfl | ⟨before,rfl,earlier⟩
    · exact Nat.zero_le _
    have count := ih earlier
    simp only [count_filterMap_cons,released,taken_of_takes takes,granted,List.count_cons,Option.some.injEq,
      reduceCtorEq,if_false,beq_iff_eq] at count ⊢
    omega
  | leave granted takes released _ ih =>
    rcases List.prefix_cons_iff.mp reached with rfl | ⟨before,rfl,earlier⟩
    · exact Nat.zero_le _
    have count := ih earlier
    simpa [count_filterMap_cons,released,taken_of_not_takes takes] using count
  | release granted released holds _ ih =>
    rcases List.prefix_cons_iff.mp reached with rfl | ⟨before,rfl,earlier⟩
    · exact Nat.zero_le _
    have count := ih earlier
    simp only [count_filterMap_cons,released,taken_of_none granted,holds.count_eq,List.count_cons,
      Option.some.injEq,reduceCtorEq,if_false,beq_iff_eq]
    omega
  | lose granted released _ quiet =>
    rcases List.prefix_cons_iff.mp reached with rfl | ⟨before,rfl,earlier⟩
    · exact Nat.zero_le _
    have still : l.Quiet before := fun e member => quiet e (earlier.subset member)
    simp [count_filterMap_cons,released,still.released]

/-- All that is held or taken over is given back, unless the service is lost behind every grant. -/
theorem Accounts.settled (accounts : l.Accounts held trace) :
    (∀ k, (trace.filterMap l.released).count k = held.count k + (trace.filterMap l.taken).count k) ∨
      l.LostBehind trace := by
  induction accounts with
  | done => exact .inl fun _ => rfl
  | quiet granted released _ ih =>
    refine ih.imp (fun counts k => ?_) .inr
    simpa [count_filterMap_cons,released,taken_of_none granted] using counts k
  | take granted takes released _ ih =>
    refine ih.imp (fun counts k => ?_) .inr
    have count := counts k
    simp only [count_filterMap_cons,released,taken_of_takes takes,granted,List.count_cons,Option.some.injEq,
      reduceCtorEq,if_false,beq_iff_eq] at count ⊢
    omega
  | leave granted takes released _ ih =>
    refine ih.imp (fun counts k => ?_) .inr
    simpa [count_filterMap_cons,released,taken_of_not_takes takes] using counts k
  | release granted released holds _ ih =>
    refine ih.imp (fun counts k => ?_) .inr
    simp only [count_filterMap_cons,released,taken_of_none granted,counts k,holds.count_eq,List.count_cons,
      Option.some.injEq,reduceCtorEq,if_false,beq_iff_eq]
    omega
  | lose granted _ lost quiet => exact .inr (.inl ⟨granted,lost,quiet⟩)

theorem count_taken_le (trace : List ε) (k : κ) :
    (trace.filterMap l.taken).count k ≤ (trace.filterMap l.granted).count k := by
  induction trace with
  | nil => exact Nat.le_refl 0
  | cons e trace ih =>
    rw [count_filterMap_cons,count_filterMap_cons]
    cases takes : l.takes e with
    | true =>
      rw [taken_of_takes takes]
      exact Nat.add_le_add_right ih _
    | false =>
      rw [taken_of_not_takes takes]
      exact Nat.le_add_right_of_le ih

/-- The counts agree exactly if every grant of the key is taken over. -/
theorem count_taken_eq_iff (trace : List ε) (k : κ) :
    (trace.filterMap l.taken).count k = (trace.filterMap l.granted).count k ↔
      ∀ e ∈ trace, l.granted e = some k → l.takes e = true := by
  induction trace with
  | nil => simp
  | cons e trace ih =>
    have atMost : (trace.filterMap l.taken).count k ≤ (trace.filterMap l.granted).count k := count_taken_le trace k
    rw [List.forall_mem_cons,← ih,count_filterMap_cons,count_filterMap_cons]
    cases takes : l.takes e with
    | true => simp [taken_of_takes takes]
    | false =>
      rw [taken_of_not_takes takes]
      by_cases same : l.granted e = some k
      · simp only [same,reduceCtorEq,if_true,if_false,imp_false,Bool.false_eq_true,not_true_eq_false,false_and,
          iff_false]
        omega
      · simp [same]

/-- A program that accounts for what it holds returns every grant exactly if it takes every grant over. -/
theorem Accounts.returned_iff (accounts : l.Accounts [] trace) : l.Returned trace ↔ l.TakenOver trace := by
  constructor
  · intro returned before e after k split granted
    apply (returned.all before e after k split granted).imp_left
    intro counts
    have below := accounts.count_le (List.prefix_refl trace) k
    have atMost : (trace.filterMap l.taken).count k ≤ (trace.filterMap l.granted).count k := count_taken_le trace k
    rw [List.count_nil] at below
    exact (count_taken_eq_iff trace k).mp (by omega)
  · intro takenOver
    refine ⟨fun before k reached => ?_,fun before e after k split granted => ?_⟩
    · have below := accounts.count_le reached k
      rw [List.count_nil,Nat.zero_add] at below
      exact Nat.le_trans below (count_taken_le before k)
    rcases takenOver before e after k split granted with all | lost
    · rcases accounts.settled with counts | lost
      · refine .inl ?_
        rw [counts k,(count_taken_eq_iff trace k).mpr all,List.count_nil,Nat.zero_add]
      · rw [split] at lost
        exact .inr (lost.grant granted)
    · exact .inr lost

end Counting

theorem Quiet.accounts (quiet : l.Quiet first) (rest : l.Accounts held second) : l.Accounts held (first ++ second) := by
  induction first with
  | nil => exact rest
  | cons e first ih =>
    obtain ⟨granted,released⟩ := quiet e List.mem_cons_self
    exact .quiet granted released (ih fun other member => quiet other (List.mem_cons_of_mem e member))

theorem Quiet.append (left : l.Quiet first) (right : l.Quiet second) : l.Quiet (first ++ second) := by
  intro e member
  rcases List.mem_append.mp member with before | after
  · exact left e before
  · exact right e after

theorem Quiet.accounts_lost (quiet : l.Quiet first) (lost : first.any l.lost = true) (rest : l.Quiet second) :
    l.Accounts held (first ++ second) := by
  induction first with
  | nil => cases lost
  | cons e first ih =>
    obtain ⟨granted,released⟩ := quiet e List.mem_cons_self
    have others : l.Quiet first := fun other member => quiet other (List.mem_cons_of_mem e member)
    cases here : l.lost e with
    | true => exact .lose granted released here (others.append rest)
    | false =>
      rw [List.any_cons,here] at lost
      exact .quiet granted released (ih others lost)

end Lease

namespace Lease

variable {Command : Type} {Answer : Command → Type} {κ α β : Type} {l : Lease (Exchange Answer) κ}
  {held : List κ} {p : Program Answer α} {f : α → Program Answer β} {command : Command}
  {next : Answer command → Program Answer α}

open Program

def Owes (l : Lease (Exchange Answer) κ) (held : List κ) (p : Program Answer α) : Prop :=
  p.Ensures fun trace _ => l.Accounts held trace

def Idle (l : Lease (Exchange Answer) κ) (p : Program Answer α) : Prop := p.Ensures fun trace _ => l.Quiet trace

theorem owes_pure (value : α) : l.Owes [] (pure value : Program Answer α) := .done

theorem owes_call (granted : ∀ answer, l.granted ⟨command,answer⟩ = none)
    (released : ∀ answer, l.released ⟨command,answer⟩ = none) (rest : ∀ answer, l.Owes held (next answer)) :
    l.Owes held (perform command >>= next) :=
  ensures_perform_bind.mpr fun answer => (rest answer).mono fun _ _ => .quiet (granted answer) (released answer)

theorem owes_ite {condition : Prop} [Decidable condition] {q : Program Answer α} (yes : condition → l.Owes held p)
    (no : ¬condition → l.Owes held q) : l.Owes held (if condition then p else q) := by
  split
  next holds => exact yes holds
  next fails => exact no fails

theorem owes_ite_bind {condition : Prop} [Decidable condition] {q : Program Answer α}
    (yes : condition → l.Owes held (p >>= f)) (no : ¬condition → l.Owes held (q >>= f)) :
    l.Owes held ((if condition then p else q) >>= f) := by
  split
  next holds => exact yes holds
  next fails => exact no fails

theorem owes_grant (released : ∀ answer, l.released ⟨command,answer⟩ = none)
    (none : ∀ answer, l.granted ⟨command,answer⟩ = none → l.Owes held (next answer))
    (some : ∀ answer k, l.granted ⟨command,answer⟩ = some k →
      if l.takes ⟨command,answer⟩ then l.Owes (k :: held) (next answer) else l.Owes held (next answer)) :
    l.Owes held (perform command >>= next) := by
  refine ensures_perform_bind.mpr fun answer => ?_
  cases granted : l.granted ⟨command,answer⟩ with
  | none => exact (none answer granted).mono fun _ _ => .quiet granted (released answer)
  | some k =>
    have rest := some answer k granted
    cases takes : l.takes ⟨command,answer⟩ with
    | true =>
      rw [if_pos takes] at rest
      exact rest.mono fun _ _ => .take granted takes (released answer)
    | false =>
      rw [if_neg (by simp [takes])] at rest
      exact rest.mono fun _ _ => .leave granted takes (released answer)

theorem owes_release {left : List κ} {k : κ} (granted : ∀ answer, l.granted ⟨command,answer⟩ = none)
    (released : ∀ answer, l.released ⟨command,answer⟩ = some k) (holds : held.Perm (k :: left))
    (rest : ∀ answer, l.Owes left (next answer)) : l.Owes held (perform command >>= next) :=
  ensures_perform_bind.mpr fun answer =>
    (rest answer).mono fun _ _ => .release (granted answer) (released answer) holds

/-- A part that leaves the holdings alone, and may learn that the service is lost. -/
theorem owes_bind (part : p.Ensures fun trace value => l.Quiet trace ∧
    (l.Owes held (f value) ∨ trace.any l.lost = true ∧ l.Idle (f value))) : l.Owes held (p >>= f) := by
  refine ensures_bind.mpr (part.mono fun trace value ⟨quiet,rest⟩ => ?_)
  rcases rest with owes | ⟨lost,idle⟩
  · exact owes.mono fun _ _ => quiet.accounts
  · exact idle.mono fun _ _ => quiet.accounts_lost lost

theorem idle_pure (value : α) : l.Idle (pure value : Program Answer α) := nofun

theorem idle_call (granted : ∀ answer, l.granted ⟨command,answer⟩ = none)
    (released : ∀ answer, l.released ⟨command,answer⟩ = none) (rest : ∀ answer, l.Idle (next answer)) :
    l.Idle (perform command >>= next) :=
  ensures_perform_bind.mpr fun answer => (rest answer).mono fun _ _ quiet =>
    List.forall_mem_cons.mpr ⟨⟨granted answer,released answer⟩,quiet⟩

theorem Idle.owes (idle : l.Idle p) : l.Owes [] p := by
  refine idle.mono fun trace _ quiet => ?_
  have accounts : l.Accounts [] (trace ++ []) := quiet.accounts .done
  rw [List.append_nil] at accounts
  exact accounts

theorem owes_bind_idle (part : l.Idle p) (rest : ∀ value, l.Owes held (f value)) : l.Owes held (p >>= f) :=
  owes_bind (part.mono fun _ value quiet => ⟨quiet,.inl (rest value)⟩)

/-- Against any service the run returns its grants exactly if it takes them over. -/
theorem Owes.returned_iff [DecidableEq κ] (owes : l.Owes [] p) (service : Service Answer) :
    l.Returned (p.run service []).1 ↔ l.TakenOver (p.run service []).1 :=
  (Ensures.of_run owes service).returned_iff

end Lease

end NxReverse
