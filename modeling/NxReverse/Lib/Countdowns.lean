import Mathlib.Data.List.Basic

/-! Counters over a history, newest first, and the windows of it that they stand for: a countdown that is set again at
every hit, and the length of the streak that still goes on. -/
namespace NxReverse.Countdowns

variable {α : Type u} (p : α → Bool) (size : Nat)

/-- Set to `size` at each hit, and one less behind every other. -/
def countdown : List α → Nat
  | [] => 0
  | x :: rest => if p x then size else countdown rest - 1

def streak : List α → Nat
  | [] => 0
  | x :: rest => if p x then 0 else streak rest + 1

theorem countdown_le (history : List α) : countdown p size history ≤ size := by
  induction history with
  | nil => exact Nat.zero_le _
  | cons x rest ih =>
    rw [countdown]
    split <;> omega

/-- A shorter window has hit where more is left. -/
theorem lt_countdown_iff {width : Nat} (inside : width ≤ size) (history : List α) :
    size < countdown p size history + width ↔ (history.take width).any p = true := by
  induction history generalizing width with
  | nil => simpa [countdown] using inside
  | cons x rest ih =>
    cases width with
    | zero => simpa using countdown_le p size (x :: rest)
    | succ width =>
      rw [countdown,List.take_succ_cons,List.any_cons]
      by_cases hit : p x = true
      · simp [hit]
      · rw [if_neg hit,Bool.eq_false_iff.mpr hit,Bool.false_or,← ih (Nat.le_of_succ_le inside)]
        omega

theorem countdown_ne_zero_iff (history : List α) :
    countdown p size history ≠ 0 ↔ (history.take size).any p = true := by
  rw [← lt_countdown_iff p size (Nat.le_refl size)]
  omega

theorem le_streak_iff (width : Nat) (history : List α) :
    width ≤ streak p history ↔ width ≤ history.length ∧ (history.take width).any p = false := by
  induction history generalizing width with
  | nil => simp [streak]
  | cons x rest ih =>
    cases width with
    | zero => simp
    | succ width =>
      rw [streak,List.take_succ_cons,List.any_cons,List.length_cons]
      by_cases hit : p x = true
      · simp [hit]
      · rw [if_neg hit,Bool.eq_false_iff.mpr hit,Bool.false_or,Nat.succ_le_succ_iff,Nat.succ_le_succ_iff,ih]

end NxReverse.Countdowns
