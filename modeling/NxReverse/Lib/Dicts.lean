import Mathlib.Data.Finset.Card

/-! Dictionaries that keep the order of insertion, as lists of pairs. A key that is set again keeps its place and
loses its value. -/
namespace NxReverse.Dicts

variable {α β : Type} [DecidableEq α]

/-- `values[key] = value`. -/
def set (key : α) (value : β) : List (α × β) → List (α × β)
  | [] => [(key,value)]
  | (other,old) :: rest => if other = key then (key,value) :: rest else (other,old) :: set key value rest

def setAll (values : List (α × β)) (pairs : List (α × β)) : List (α × β) :=
  pairs.foldl (fun values pair => set pair.1 pair.2 values) values

/-- `values.get(key)`. -/
def get (key : α) (values : List (α × β)) : Option β := values.lookup key

theorem get_cons (key other : α) (value : β) (rest : List (α × β)) :
    get key ((other,value) :: rest) = if key = other then some value else get key rest := by
  by_cases same : key = other
  · rw [if_pos same,get,List.lookup_cons,same,beq_self_eq_true]
  · rw [if_neg same,get,List.lookup_cons,beq_false_of_ne same]
    rfl

theorem get_append (key : α) (values more : List (α × β)) :
    get key (values ++ more) = (get key values).or (get key more) := List.lookup_append

theorem keys_set (key : α) (value : β) (values : List (α × β)) :
    (set key value values).map Prod.fst =
      if key ∈ values.map Prod.fst then values.map Prod.fst else values.map Prod.fst ++ [key] := by
  induction values with
  | nil => simp [set]
  | cons pair rest ih =>
    obtain ⟨first,old⟩ := pair
    by_cases here : first = key
    · simp [set,here]
    · simp only [set,if_neg here,List.map_cons,ih,List.mem_cons,Ne.symm here,false_or]
      split <;> simp

theorem set_of_new {key : α} {values : List (α × β)} (new : key ∉ values.map Prod.fst) (value : β) :
    set key value values = values ++ [(key,value)] := by
  induction values with
  | nil => rfl
  | cons pair rest ih =>
    obtain ⟨first,old⟩ := pair
    simp only [List.map_cons,List.mem_cons,not_or] at new
    simp [set,Ne.symm new.1,ih new.2]

/-- Distinct keys that are all new are put behind the others. -/
theorem setAll_of_distinct {values pairs : List (α × β)} (distinct : ((values ++ pairs).map Prod.fst).Nodup) :
    setAll values pairs = values ++ pairs := by
  induction pairs generalizing values with
  | nil => simp [setAll]
  | cons pair pairs ih =>
    have new : pair.1 ∉ values.map Prod.fst := by
      rw [List.map_append,List.map_cons] at distinct
      intro member
      exact List.disjoint_of_nodup_append distinct member List.mem_cons_self
    have later := @ih (values ++ [pair]) (by simpa using distinct)
    rw [setAll,List.foldl_cons,set_of_new new]
    simpa [setAll] using later

theorem nodup_set {values : List (α × β)} (distinct : (values.map Prod.fst).Nodup) (key : α) (value : β) :
    ((set key value values).map Prod.fst).Nodup := by
  rw [keys_set]
  split
  next => exact distinct
  next new => exact List.Nodup.append distinct (List.nodup_singleton key) (by simpa using new)

theorem setAll_keys (values pairs : List (α × β)) (distinct : (values.map Prod.fst).Nodup) :
    ((setAll values pairs).map Prod.fst).Nodup ∧
      ∀ key, key ∈ (setAll values pairs).map Prod.fst ↔ key ∈ (values ++ pairs).map Prod.fst := by
  induction pairs generalizing values with
  | nil => simpa [setAll] using distinct
  | cons pair pairs ih =>
    obtain ⟨nodup,same⟩ := ih (set pair.1 pair.2 values) (nodup_set distinct _ _)
    refine ⟨nodup,fun key => (same key).trans ?_⟩
    rw [List.map_append,List.map_append,List.mem_append,List.mem_append,keys_set,List.map_cons,List.mem_cons]
    split
    next old =>
      refine ⟨fun member => member.elim .inl (.inr ∘ .inr),fun member => ?_⟩
      rcases member with early | rfl | late
      · exact .inl early
      · exact .inl old
      · exact .inr late
    next => simp [or_assoc]

/-- As many fields as assignments are left exactly if all keys are distinct. -/
theorem length_setAll_eq_iff (pairs : List (α × β)) :
    (setAll [] pairs).length = pairs.length ↔ (pairs.map Prod.fst).Nodup := by
  obtain ⟨nodup,same⟩ := setAll_keys [] pairs List.nodup_nil
  have sets : ((setAll [] pairs).map Prod.fst).toFinset = (pairs.map Prod.fst).toFinset := by
    ext key
    simpa using same key
  have card := List.toFinset_card_of_nodup nodup
  rw [sets,List.length_map] at card
  rw [← card,← @List.length_map _ _ pairs Prod.fst]
  exact Multiset.toFinset_card_eq_card_iff_nodup

theorem get_of_mem {values : List (α × β)} (distinct : (values.map Prod.fst).Nodup) {pair : α × β}
    (member : pair ∈ values) : get pair.1 values = some pair.2 := by
  induction values with
  | nil => cases member
  | cons first rest ih =>
    rw [List.map_cons,List.nodup_cons] at distinct
    rw [get_cons]
    rcases List.mem_cons.mp member with rfl | later
    · exact if_pos rfl
    · have other : pair.1 ≠ first.1 := fun same => distinct.1 (same ▸ List.mem_map_of_mem later)
      exact (if_neg other).trans (ih distinct.2 later)

end NxReverse.Dicts
