import Mathlib.Data.List.Sort
import Mathlib.Algebra.Order.Floor.Div

/-! Nearest ranks. The sample of a rank stands at that place of the sorted samples, and a count of the samples
below a bound reaches the rank exactly where the bound is above that sample, so that a histogram finds it again. -/
namespace NxReverse.Ranks

section Order

variable {α : Type} [LinearOrder α]

/-- The sample that so many are not above, counted from 1. -/
def atRank (samples : List α) (rank : Nat) : Option α :=
  if rank = 0 then none else (samples.insertionSort (· ≤ ·))[rank - 1]?

/-- The nearest-rank percentile. -/
def percentile (samples : List α) (percent : Nat) : Option α := atRank samples ((samples.length * percent) ⌈/⌉ 100)

/-- A sorted list has in front what lies below a bound. -/
theorem lt_countP_iff {below : α → Bool} (lower : ∀ a b, a ≤ b → below b = true → below a = true) {l : List α}
    (ordered : l.Pairwise (· ≤ ·)) {k : Nat} (inside : k < l.length) : k < l.countP below ↔ below l[k] = true := by
  induction l generalizing k with
  | nil => simp at inside
  | cons head tail ih =>
    obtain ⟨least,ordered⟩ := List.pairwise_cons.mp ordered
    by_cases first : below head = true
    · cases k with
      | zero => simp [first]
      | succ k =>
        have later := ih ordered (k := k) (by simpa using inside)
        simp only [List.countP_cons,first,if_true,List.getElem_cons_succ,← later]
        omega
    · have nowhere : tail.countP below = 0 := by
        simp only [List.countP_eq_zero]
        exact fun other member under => first (lower head other (least other member) under)
      have above : below (head :: tail)[k] ≠ true := by
        intro under
        cases k with
        | zero => exact first under
        | succ k => exact first (lower head _ (least _ (List.getElem_mem _)) under)
      simp [nowhere,first,above]

theorem atRank_isSome {samples : List α} {rank : Nat} (positive : 1 ≤ rank) (inside : rank ≤ samples.length) :
    ∃ sample, atRank samples rank = some sample := by
  have place : rank - 1 < (samples.insertionSort (· ≤ ·)).length := by
    rw [List.length_insertionSort]
    omega
  exact ⟨_,by rw [atRank,if_neg (by omega),List.getElem?_eq_getElem place]⟩

/-- The samples below a bound reach a rank exactly if the sample of the rank is below it. -/
theorem rank_le_countP_iff {below : α → Bool} (lower : ∀ a b, a ≤ b → below b = true → below a = true)
    {samples : List α} {rank : Nat} {sample : α} (ranked : atRank samples rank = some sample) :
    rank ≤ samples.countP below ↔ below sample = true := by
  rw [atRank] at ranked
  split at ranked
  · cases ranked
  next positive =>
  obtain ⟨inside,rfl⟩ := List.getElem?_eq_some_iff.mp ranked
  have front := lt_countP_iff lower (List.pairwise_insertionSort (· ≤ ·) samples) inside
  rw [(List.perm_insertionSort (· ≤ ·) samples).countP_eq] at front
  rw [← front]
  omega

theorem atRank_mem {samples : List α} {rank : Nat} {sample : α} (ranked : atRank samples rank = some sample) :
    sample ∈ samples := by
  rw [atRank] at ranked
  split at ranked
  · cases ranked
  · exact (List.perm_insertionSort (· ≤ ·) samples).mem_iff.mp (List.mem_of_getElem? ranked)

/-- A higher rank has no smaller sample. -/
theorem atRank_mono {samples : List α} {rank higher : Nat} {sample other : α} (ranked : atRank samples rank = some sample)
    (rankedHigher : atRank samples higher = some other) (le : rank ≤ higher) : sample ≤ other := by
  have lower : ∀ a b, a ≤ b → decide (b ≤ other) = true → decide (a ≤ other) = true := by
    intro a b ab under
    simp only [decide_eq_true_eq] at under ⊢
    exact ab.trans under
  have reached := (rank_le_countP_iff lower rankedHigher).mpr (by simp)
  simpa using (rank_le_countP_iff lower ranked).mp (le.trans reached)

/-- A percentile from 1 to 100 has a rank in the list. -/
theorem percentile_rank {count percent : Nat} (some : 0 < count) (low : 1 ≤ percent) (high : percent ≤ 100) :
    1 ≤ (count * percent) ⌈/⌉ 100 ∧ (count * percent) ⌈/⌉ 100 ≤ count := by
  have positive : 0 < count * percent := Nat.mul_pos some low
  have bound : count * percent ≤ count * 100 := Nat.mul_le_mul_left count high
  rw [Nat.ceilDiv_eq_add_pred_div]
  omega

end Order

section Buckets

variable {α : Type}

theorem countP_lt_succ (bucket : α → Nat) (samples : List α) (k : Nat) :
    samples.countP (bucket · < k + 1) = samples.countP (bucket · < k) + samples.countP (bucket · = k) := by
  induction samples with
  | nil => rfl
  | cons sample samples ih =>
    simp only [List.countP_cons,ih,decide_eq_true_eq]
    split <;> split <;> split <;> omega

theorem sum_countP_range (bucket : α → Nat) (samples : List α) (k : Nat) :
    ((List.range k).map fun i => samples.countP (bucket · = i)).sum = samples.countP (bucket · < k) := by
  induction k with
  | zero => simp
  | succ k ih =>
    rw [List.range_succ,List.map_append,List.sum_append,ih,List.map_singleton,List.sum_singleton]
    exact (countP_lt_succ bucket samples k).symm

end Buckets

end NxReverse.Ranks
