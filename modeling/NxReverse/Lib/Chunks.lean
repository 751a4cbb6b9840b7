import Mathlib.Data.List.Basic

/-! A string cut into pieces, each of which knows where it starts and how long it is. Pieces that
follow one another without a gap put the string together again, and a reader can tell from the
pieces it has whether it has all of them. -/
namespace NxReverse.Chunks

variable {α β γ : Type}

/-- The offsets of a loop that advances by `width` as long as it is inside. -/
def offsetsFrom (width size : Nat) : Nat → Nat → List Nat
  | 0,_ => []
  | fuel + 1,offset => if offset < size then offset :: offsetsFrom width size fuel (offset + width) else []

/-- The loop from 0; it is entered at most once for each unit. -/
def offsets (width size : Nat) : List Nat := offsetsFrom width size size 0

/-- The pieces lead from one position to another without a gap. -/
def Contiguous (start length : β → Nat) : Nat → List β → Nat → Prop
  | position,[],stop => position = stop
  | position,piece :: rest,stop => start piece = position ∧ Contiguous start length (position + length piece) rest stop

instance Contiguous.decidable (start length : β → Nat) :
    (position : Nat) → (pieces : List β) → (stop : Nat) → Decidable (Contiguous start length position pieces stop)
  | position,[],stop => inferInstanceAs (Decidable (position = stop))
  | position,piece :: rest,stop =>
    have := Contiguous.decidable start length (position + length piece) rest stop
    inferInstanceAs (Decidable (start piece = position ∧ Contiguous start length (position + length piece) rest stop))

theorem contiguous_offsetsFrom {width size fuel offset : Nat} (positive : 0 < width) (inside : offset ≤ size)
    (enough : size - offset ≤ fuel) :
    Contiguous (fun o => o) (fun o => min width (size - o)) offset (offsetsFrom width size fuel offset) size := by
  induction fuel generalizing offset with
  | zero =>
    have ended : offset = size := by omega
    exact ended
  | succ fuel ih =>
    rw [offsetsFrom]
    split
    · rename_i more
      refine ⟨rfl,?_⟩
      by_cases last : size ≤ offset + width
      · have rest : offsetsFrom width size fuel (offset + width) = [] := by
          cases fuel with
          | zero => rfl
          | succ fuel => exact if_neg (Nat.not_lt.mpr last)
        rw [rest]
        change offset + min width (size - offset) = size
        omega
      · have step : offset + min width (size - offset) = offset + width := by omega
        rw [step]
        exact ih (by omega) (by omega)
    · have ended : offset = size := by omega
      exact ended

theorem contiguous_offsets {width : Nat} (positive : 0 < width) (size : Nat) :
    Contiguous (fun o => o) (fun o => min width (size - o)) 0 (offsets width size) size :=
  contiguous_offsetsFrom positive (Nat.zero_le _) (Nat.le_refl _)

theorem offset_lt {width size fuel first : Nat} : ∀ o ∈ offsetsFrom width size fuel first, o < size := by
  induction fuel generalizing first with
  | zero => nofun
  | succ fuel ih =>
    rw [offsetsFrom]
    split
    · rename_i inside
      exact List.forall_mem_cons.mpr ⟨inside,ih⟩
    · nofun

variable {start length : β → Nat}

/-- Pieces made from the offsets by a function that agrees with it on start and length. -/
theorem Contiguous.map {origin size : γ → Nat} {items : List γ} {position stop : Nat} {f : γ → β}
    (contiguous : Contiguous origin size position items stop)
    (starts : ∀ item ∈ items, start (f item) = origin item) (lengths : ∀ item ∈ items, length (f item) = size item) :
    Contiguous start length position (items.map f) stop := by
  induction items generalizing position with
  | nil => exact contiguous
  | cons item items ih =>
    refine ⟨(starts item List.mem_cons_self).trans contiguous.1,?_⟩
    rw [lengths item List.mem_cons_self]
    exact ih contiguous.2 (fun other member => starts other (List.mem_cons_of_mem item member))
      fun other member => lengths other (List.mem_cons_of_mem item member)

section Facts

variable {pieces : List β} {position stop : Nat}

theorem Contiguous.le (contiguous : Contiguous start length position pieces stop) : position ≤ stop := by
  induction pieces generalizing position with
  | nil => exact Nat.le_of_eq contiguous
  | cons piece rest ih => exact Nat.le_trans (Nat.le_add_right _ _) (ih contiguous.2)

theorem Contiguous.within (contiguous : Contiguous start length position pieces stop) :
    ∀ piece ∈ pieces, position ≤ start piece ∧ start piece + length piece ≤ stop := by
  induction pieces generalizing position with
  | nil => nofun
  | cons piece rest ih =>
    obtain ⟨here,later⟩ := contiguous
    refine List.forall_mem_cons.mpr ⟨⟨Nat.le_of_eq here.symm,?_⟩,fun other member => ?_⟩
    · rw [here]
      exact later.le
    · obtain ⟨after,before⟩ := ih later other member
      exact ⟨Nat.le_trans (Nat.le_add_right _ _) after,before⟩

/-- The pieces of a string put it together. -/
theorem Contiguous.flatMap_data {whole : List α} {data : β → List α}
    (contiguous : Contiguous start length position pieces stop)
    (cut : ∀ piece ∈ pieces, data piece = (whole.drop (start piece)).take (length piece)) :
    pieces.flatMap data = (whole.drop position).take (stop - position) := by
  induction pieces generalizing position with
  | nil =>
    have ended : position = stop := contiguous
    simp [ended]
  | cons piece rest ih =>
    obtain ⟨here,later⟩ := contiguous
    have others := ih later fun other member => cut other (List.mem_cons_of_mem piece member)
    have le := later.le
    have split : stop - position = length piece + (stop - (position + length piece)) := by omega
    rw [List.flatMap_cons,cut piece List.mem_cons_self,others,here,split,List.take_add,List.drop_drop]

variable (positive : ∀ piece ∈ pieces, 0 < length piece)

include positive

/-- One piece begins where all of them begin. -/
theorem Contiguous.countP_first (contiguous : Contiguous start length position pieces stop)
    (nonempty : position < stop) : (pieces.countP fun piece => start piece == position) = 1 := by
  cases pieces with
  | nil => exact absurd contiguous (Nat.ne_of_lt nonempty)
  | cons piece rest =>
    obtain ⟨here,later⟩ := contiguous
    have long := positive piece List.mem_cons_self
    have others : (rest.countP fun other => start other == position) = 0 := by
      apply List.countP_eq_zero.mpr
      intro other member
      have after := (later.within other member).1
      rw [beq_iff_eq]
      omega
    rw [List.countP_cons_of_pos (by simpa using here),others]

/-- One piece ends where all of them end. -/
theorem Contiguous.countP_last (contiguous : Contiguous start length position pieces stop)
    (nonempty : position < stop) :
    (pieces.countP fun piece => decide (stop ≤ start piece + length piece)) = 1 := by
  induction pieces generalizing position with
  | nil => exact absurd contiguous (Nat.ne_of_lt nonempty)
  | cons piece rest ih =>
    obtain ⟨here,later⟩ := contiguous
    have among : ∀ other ∈ rest, 0 < length other := fun other member =>
      positive other (List.mem_cons_of_mem piece member)
    rcases Nat.lt_or_eq_of_le later.le with more | ended
    · have notLast : ¬decide (stop ≤ start piece + length piece) = true := by
        rw [decide_eq_true_eq]
        omega
      rw [List.countP_cons,if_neg notLast]
      exact ih among later more
    · have none : rest = [] := by
        cases rest with
        | nil => rfl
        | cons other rest =>
          have long := among other List.mem_cons_self
          have beyond := later.2.le
          omega
      have last : decide (stop ≤ start piece + length piece) = true := by
        rw [decide_eq_true_eq]
        omega
      rw [none,List.countP_cons,if_pos last]
      rfl

/-- What is left of the pieces leads from end to end only if nothing is missing. -/
theorem Contiguous.eq_of_sublist {kept : List β} (contiguous : Contiguous start length position pieces stop)
    (sub : kept.Sublist pieces) (covers : Contiguous start length position kept stop) : kept = pieces := by
  induction sub generalizing position with
  | slnil => rfl
  | @cons kept rest piece sub ih =>
    obtain ⟨here,later⟩ := contiguous
    have long := positive piece List.mem_cons_self
    cases kept with
    | nil =>
      have ended : position = stop := covers
      have beyond := later.le
      omega
    | cons other kept =>
      have after := (later.within other (sub.subset List.mem_cons_self)).1
      have begins : start other = position := covers.1
      omega
  | @cons_cons kept rest piece sub ih =>
    have rest_eq := ih (fun other member => positive other (List.mem_cons_of_mem piece member)) contiguous.2 covers.2
    rw [rest_eq]

end Facts

inductive Interleaves : List (List α) → List α → Prop
  | done {lists : List (List α)} (usedUp : ∀ list ∈ lists, list = []) : Interleaves lists []
  | take {lists : List (List α)} {i : Nat} {x : α} {rest stream : List α} (front : lists[i]? = some (x :: rest))
    (later : Interleaves (lists.set i rest) stream) : Interleaves lists (x :: stream)

/-- A string alone is its own stream. -/
theorem Interleaves.single (list : List α) : Interleaves [list] list := by
  induction list with
  | nil => exact .done (by simp)
  | cons x rest ih =>
    have front : [x :: rest][0]? = some (x :: rest) := rfl
    exact .take front ih

theorem Interleaves.mem {lists : List (List α)} {stream : List α} (interleaves : Interleaves lists stream) :
    ∀ x ∈ stream, ∃ list ∈ lists, x ∈ list := by
  induction interleaves with
  | done usedUp => nofun
  | @take lists i x rest stream front later ih =>
    have among := List.mem_of_getElem? front
    refine List.forall_mem_cons.mpr ⟨⟨x :: rest,among,List.mem_cons_self⟩,fun y member => ?_⟩
    obtain ⟨list,inLists,inList⟩ := ih y member
    rcases List.mem_or_eq_of_mem_set inLists with before | rfl
    · exact ⟨list,before,inList⟩
    · exact ⟨x :: list,among,List.mem_cons_of_mem x inList⟩

/-- Members that mark their list are found in the stream in the order of the list. -/
theorem Interleaves.filter {lists : List (List α)} {stream : List α} (interleaves : Interleaves lists stream)
    {mark : α → Bool} {j : Nat} {own : List α} (here : lists[j]? = some own) (marked : ∀ x ∈ own, mark x = true)
    (others : ∀ i ≠ j, ∀ list, lists[i]? = some list → ∀ x ∈ list, mark x = false) :
    stream.filter mark = own := by
  induction interleaves generalizing own with
  | done usedUp =>
    rw [usedUp own (List.mem_of_getElem? here)]
    rfl
  | @take lists i x rest stream front later ih =>
    have inside : i < lists.length := (List.getElem?_eq_some_iff.mp front).1
    have elsewhere : ∀ k ≠ i, (lists.set i rest)[k]? = lists[k]? := fun k apart =>
      List.getElem?_set_ne (Ne.symm apart)
    have atFront : (lists.set i rest)[i]? = some rest := by simp [inside]
    by_cases same : i = j
    · subst same
      obtain rfl := Option.some.inj (front.symm.trans here)
      rw [List.filter_cons_of_pos (marked x List.mem_cons_self)]
      refine congrArg (x :: ·) (ih atFront (fun y member => marked y (List.mem_cons_of_mem x member)) ?_)
      intro k apart list at_k
      rw [elsewhere k apart] at at_k
      exact others k apart list at_k
    · have unmarked := others i same _ front x List.mem_cons_self
      rw [List.filter_cons_of_neg (Bool.eq_false_iff.mp unmarked)]
      refine ih ((elsewhere j (Ne.symm same)).trans here) marked ?_
      intro k apart list at_k y member
      by_cases there : k = i
      · subst there
        obtain rfl := Option.some.inj (atFront.symm.trans at_k)
        exact others k same _ front y (List.mem_cons_of_mem x member)
      · rw [elsewhere k there] at at_k
        exact others k apart list at_k y member

/-- Groups with a key of their own are found by it. -/
theorem filter_flatMap_key {κ : Type} [DecidableEq κ] {groups : List γ} {members : γ → List β} {keyOf : γ → κ}
    {key : β → κ} (distinct : (groups.map keyOf).Nodup) (keyed : ∀ g ∈ groups, ∀ x ∈ members g, key x = keyOf g)
    {group : γ} (among : group ∈ groups) :
    (groups.flatMap members).filter (fun x => key x == keyOf group) = members group := by
  induction groups with
  | nil => cases among
  | cons g groups ih =>
    rw [List.map_cons,List.nodup_cons] at distinct
    have later : ∀ h ∈ groups, ∀ x ∈ members h, key x = keyOf h := fun h member =>
      keyed h (List.mem_cons_of_mem g member)
    rw [List.flatMap_cons,List.filter_append]
    rcases List.mem_cons.mp among with rfl | behind
    · have own : (members group).filter (fun x => key x == keyOf group) = members group :=
        List.filter_eq_self.mpr fun x member => beq_iff_eq.mpr (keyed group List.mem_cons_self x member)
      have others : (groups.flatMap members).filter (fun x => key x == keyOf group) = [] := by
        apply List.filter_eq_nil_iff.mpr
        intro x member same
        obtain ⟨h,inGroups,inMembers⟩ := List.mem_flatMap.mp member
        have shared := (later h inGroups x inMembers).symm.trans (beq_iff_eq.mp same)
        exact distinct.1 (List.mem_map.mpr ⟨h,inGroups,shared⟩)
      rw [own,others,List.append_nil]
    · have other : (members g).filter (fun x => key x == keyOf group) = [] := by
        apply List.filter_eq_nil_iff.mpr
        intro x member same
        have shared := (keyed g List.mem_cons_self x member).symm.trans (beq_iff_eq.mp same)
        exact distinct.1 (shared ▸ List.mem_map.mpr ⟨group,behind,rfl⟩)
      rw [other,List.nil_append]
      exact ih distinct.2 later behind

end NxReverse.Chunks
