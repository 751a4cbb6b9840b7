import Mathlib.Data.List.Count

/-! Attempts at numbered items, one after the other: the item at hand is attempted until it is
accepted, up to a limit, and the next one only behind its acceptance. -/
namespace NxReverse

structure Attempt where
  item : Nat
  accepted : Bool
  deriving DecidableEq, Repr

namespace Attempt

structure Cursor where
  item : Nat
  refusals : Nat
  deriving DecidableEq, Repr

inductive InOrder (limit : Nat) : Cursor → List Attempt → Cursor → Prop where
  | none (s : Cursor) : InOrder limit s [] s
  | refused {item refusals rest t} (allowed : refusals < limit) (later : InOrder limit ⟨item,refusals + 1⟩ rest t) :
      InOrder limit ⟨item,refusals⟩ (⟨item,false⟩ :: rest) t
  | accepted {item refusals rest t} (allowed : refusals < limit) (later : InOrder limit ⟨item + 1,0⟩ rest t) :
      InOrder limit ⟨item,refusals⟩ (⟨item,true⟩ :: rest) t

namespace InOrder

variable {limit start : Nat} {s t u : Cursor} {attempts first second : List Attempt}

theorem append (before : InOrder limit s first t) (behind : InOrder limit t second u) :
    InOrder limit s (first ++ second) u := by
  induction before with
  | none => exact behind
  | refused allowed _ ih => exact .refused allowed (ih behind)
  | accepted allowed _ ih => exact .accepted allowed (ih behind)

theorem split (whole : InOrder limit s (first ++ second) u) :
    ∃ t, InOrder limit s first t ∧ InOrder limit t second u := by
  induction first generalizing s with
  | nil => exact ⟨s,.none s,whole⟩
  | cons attempt first ih =>
    cases whole with
    | refused allowed later =>
      obtain ⟨t,before,behind⟩ := ih later
      exact ⟨t,.refused allowed before,behind⟩
    | accepted allowed later =>
      obtain ⟨t,before,behind⟩ := ih later
      exact ⟨t,.accepted allowed before,behind⟩

/-- As many attempts are accepted as items are passed. -/
theorem countP_accepted (order : InOrder limit s attempts t) :
    s.item + attempts.countP (fun a => a.accepted) = t.item := by
  induction order with
  | none => rfl
  | refused _ _ ih => simpa using ih
  | accepted _ _ ih =>
    rw [List.countP_cons_of_pos (by rfl),← ih]
    exact (Nat.succ_add_eq_add_succ ..).symm

theorem item_ge (order : InOrder limit s attempts t) : ∀ a ∈ attempts, s.item ≤ a.item := by
  induction order with
  | none => exact List.forall_mem_nil _
  | refused _ _ ih => exact List.forall_mem_cons.mpr ⟨Nat.le_refl _,ih⟩
  | accepted _ _ ih =>
    exact List.forall_mem_cons.mpr ⟨Nat.le_refl _,fun a member => Nat.le_of_succ_le (ih a member)⟩

/-- An accepted item lies behind the cursor at the end. -/
theorem item_lt_of_accepted (order : InOrder limit s attempts t) :
    ∀ a ∈ attempts, a.accepted = true → a.item < t.item := by
  induction order with
  | none => exact List.forall_mem_nil _
  | refused _ _ ih => exact List.forall_mem_cons.mpr ⟨fun accepted => Bool.noConfusion accepted,ih⟩
  | accepted _ later ih =>
    refine List.forall_mem_cons.mpr ⟨fun _ => ?_,ih⟩
    rw [← later.countP_accepted]
    exact Nat.lt_of_lt_of_le (Nat.lt_succ_self _) (Nat.le_add_right ..)

/-- Each item that is passed is accepted. -/
theorem mem_accepted (order : InOrder limit s attempts t) :
    ∀ item, s.item ≤ item → item < t.item → ⟨item,true⟩ ∈ attempts := by
  induction order with
  | none =>
    intro item before behind
    omega
  | refused _ _ ih => exact fun item before behind => List.mem_cons_of_mem _ (ih item before behind)
  | @accepted first _ _ _ _ _ ih =>
    intro item before behind
    by_cases here : item = first
    · rw [here]
      exact List.mem_cons_self
    · dsimp only at before
      exact List.mem_cons_of_mem _ (ih item (by dsimp only; omega) behind)

/-- The refusals so far count against the limit of the item at hand. -/
theorem countP_item_le (order : InOrder limit s attempts t) (item : Nat) :
    attempts.countP (fun a => a.item = item) ≤ if item = s.item then limit - s.refusals else limit := by
  induction order with
  | none => exact Nat.zero_le _
  | @refused here refusals rest t allowed _ ih =>
    rw [List.countP_cons]
    by_cases same : item = here
    · subst same
      simp only [if_pos,decide_true] at ih ⊢
      omega
    · have other : ¬decide (here = item) = true := by simpa using Ne.symm same
      rw [if_neg same,if_neg other]
      rwa [if_neg same] at ih
  | @accepted here refusals rest t allowed later ih =>
    rw [List.countP_cons]
    by_cases same : item = here
    · subst same
      have absent : ∀ a ∈ rest, ¬decide (a.item = item) = true := by
        intro a member again
        exact Nat.not_succ_le_self _ (of_decide_eq_true again ▸ later.item_ge a member)
      rw [List.countP_eq_zero.mpr absent,if_pos (decide_eq_true rfl),if_pos rfl]
      exact Nat.sub_pos_of_lt allowed
    · have other : ¬decide (here = item) = true := by simpa using Ne.symm same
      rw [if_neg same,if_neg other]
      refine Nat.le_trans ih ?_
      split <;> omega

/-- No item is attempted more often than the limit allows. -/
theorem attempts_le (order : InOrder limit ⟨start,0⟩ attempts t) (item : Nat) :
    attempts.countP (fun a => a.item = item) ≤ limit := by
  refine Nat.le_trans (order.countP_item_le item) ?_
  split <;> omega

/-- An accepted item is not attempted again. -/
theorem not_again {a : Attempt} (order : InOrder limit s (first ++ a :: second) t) (accepted : a.accepted = true) :
    ∀ b ∈ second, b.item ≠ a.item := by
  obtain ⟨_,_,behind⟩ := order.split
  cases behind with
  | refused => cases accepted
  | accepted _ later =>
    intro b member same
    exact Nat.not_succ_le_self _ (same ▸ later.item_ge b member)

/-- Behind an attempt's start all items before it were accepted. -/
theorem accepted_before {a : Attempt} (order : InOrder limit s (first ++ a :: second) t) {item : Nat}
    (atLeast : s.item ≤ item) (earlier : item < a.item) : ⟨item,true⟩ ∈ first := by
  obtain ⟨_,before,behind⟩ := order.split
  cases behind with
  | refused => exact before.mem_accepted item atLeast earlier
  | accepted => exact before.mem_accepted item atLeast earlier

end InOrder

end Attempt

end NxReverse
