import NxReverse.Lib.Words

/-! Sixteen-bit one's-complement checksums of byte strings. A sum of big-endian words is folded by
adding its carries back in; a string that holds the complement of its own sum folds to all ones. -/
namespace NxReverse.OnesComplement

open Words

/-- The sum of the big-endian words; a last odd byte is the high one of its word. -/
def wordSum : Bytes → Nat
  | [] => 0
  | [high] => 256 * high.toNat
  | high :: low :: rest => 256 * high.toNat + low.toNat + wordSum rest

def fold (sum : Nat) : Nat :=
  if sum / 65536 = 0 then sum else fold (sum % 65536 + sum / 65536)
termination_by sum
decreasing_by omega

/-- A prefix has no larger sum, wherever it cuts a word. -/
theorem wordSum_take_le (bytes : Bytes) (k : Nat) : wordSum (bytes.take k) ≤ wordSum bytes := by
  induction bytes using wordSum.induct generalizing k with
  | case1 => simp
  | case2 high => cases k <;> simp [wordSum]
  | case3 high low rest ih =>
    match k with
    | 0 => simp [wordSum]
    | 1 =>
      simp only [List.take_succ_cons,List.take_zero,wordSum]
      omega
    | k + 2 =>
      have later := ih k
      simp only [List.take_succ_cons,wordSum]
      omega

theorem wordSum_le (bytes : Bytes) : 2 * wordSum bytes ≤ 65535 * (bytes.length + 1) := by
  induction bytes using wordSum.induct with
  | case1 => simp [wordSum]
  | case2 high =>
    have small := high.toNat_lt
    simp only [wordSum,List.length_cons,List.length_nil]
    omega
  | case3 high low rest ih =>
    have small := high.toNat_lt
    have smallLow := low.toNat_lt
    simp only [wordSum,List.length_cons]
    omega

theorem fold_lt (sum : Nat) : fold sum < 65536 := by
  induction sum using fold.induct with
  | case1 sum none =>
    rw [fold,if_pos none]
    omega
  | case2 sum some ih =>
    rw [fold,if_neg some]
    exact ih

/-- Folding keeps a sum modulo the largest word. -/
theorem fold_mod (sum : Nat) : fold sum % 65535 = sum % 65535 := by
  induction sum using fold.induct with
  | case1 sum none => rw [fold,if_pos none]
  | case2 sum some ih =>
    rw [fold,if_neg some,ih]
    omega

theorem fold_pos {sum : Nat} (positive : 0 < sum) : 0 < fold sum := by
  induction sum using fold.induct with
  | case1 sum none => rwa [fold,if_pos none]
  | case2 sum some ih =>
    rw [fold,if_neg some]
    exact ih (by omega)

/-- A sum that is a multiple of the largest word folds to it. -/
theorem fold_eq_full {sum : Nat} (positive : 0 < sum) (multiple : sum % 65535 = 0) : fold sum = 65535 := by
  have bound := fold_lt sum
  have same := fold_mod sum
  have some := fold_pos positive
  omega

/-- A sum with its own complement folds to all ones. -/
theorem fold_add_complement (sum : Nat) : fold (sum + (65535 - fold sum)) = 65535 := by
  have bound := fold_lt sum
  have same := fold_mod sum
  apply fold_eq_full
  · cases sum with
    | zero => simp [fold]
    | succ sum => omega
  · omega

/-- A sum whose complement is zero may take all ones for it. -/
theorem fold_add_full {sum : Nat} (full : fold sum = 65535) : fold (sum + 65535) = 65535 := by
  have same := fold_mod sum
  apply fold_eq_full <;> omega

/-- What a byte at `i` counts for. -/
def placeValue (i : Nat) : Nat := if i % 2 = 0 then 256 else 1

theorem wordSum_set {bytes : Bytes} {i : Nat} (inside : i < bytes.length) (byte : UInt8) :
    wordSum (bytes.set i byte) + placeValue i * bytes[i].toNat = wordSum bytes + placeValue i * byte.toNat := by
  induction bytes using wordSum.induct generalizing i with
  | case1 => simp at inside
  | case2 high =>
    obtain rfl : i = 0 := by simpa using inside
    simp [wordSum,placeValue]
    omega
  | case3 high low rest ih =>
    match i with
    | 0 =>
      simp [wordSum,placeValue]
      omega
    | 1 =>
      simp [wordSum,placeValue]
      omega
    | i + 2 =>
      have place : placeValue (i + 2) = placeValue i := by simp [placeValue]
      have later := ih (i := i) (by simpa using inside)
      simp only [List.set_cons_succ,List.getElem_cons_succ,wordSum,place]
      omega

/-- One changed byte is seen modulo the largest word, wherever it stands. -/
theorem wordSum_set_ne {bytes : Bytes} {i : Nat} (inside : i < bytes.length) {byte : UInt8} (changed : byte ≠ bytes[i]) :
    wordSum (bytes.set i byte) % 65535 ≠ wordSum bytes % 65535 := by
  have sums := wordSum_set inside byte
  have small := byte.toNat_lt
  have smallOld := bytes[i].toNat_lt
  have different : byte.toNat ≠ bytes[i].toNat := fun same => changed (UInt8.toNat_inj.mp same)
  rcases Nat.mod_two_eq_zero_or_one i with even | odd
  · have place : placeValue i = 256 := if_pos even
    rw [place] at sums
    omega
  · have place : placeValue i = 1 := if_neg (by omega)
    rw [place] at sums
    omega

/-- A sum that folds to all ones is a multiple of the largest word. -/
theorem mod_of_fold_full {sum : Nat} (full : fold sum = 65535) : sum % 65535 = 0 := by
  have same := fold_mod sum
  omega

end NxReverse.OnesComplement
