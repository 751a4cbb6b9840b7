import Mathlib.Logic.Function.Basic
import NxReverse.Lib.SlotTable

/-! A table with unique keys read as a map. What an operation does to the slots is here what it does to
the map, in which the order of the slots cannot be seen. -/
namespace NxReverse.Slots

namespace Table

def lookup [BEq κ] (key : α → κ) (t : Table α n) (k : κ) : Option α := t.find? fun a => key a == k

variable {α : Type u} {κ : Type v} {n : Nat} {key : α → κ} {t : Table α n}

theorem key_of_lookup [BEq κ] [LawfulBEq κ] {k : κ} {a : α} (found : t.lookup key k = some a) : key a = k := by
  simpa using List.find?_some found

/-- Entries that are changed in place under the keys they have. -/
theorem lookup_map [BEq κ] {u : Table α n} {g : α → α} (mapped : u.entries = t.entries.map g)
    (kept : ∀ a, key (g a) = key a) (k : κ) : u.lookup key k = (t.lookup key k).map g := by
  simp only [lookup,find?,mapped,List.find?_map,Function.comp_def,kept]

theorem lookup_update_one [BEq κ] {p : α → Bool} {f : α → α} (unique : t.Unique key)
    (one : ∀ a ∈ t.entries, ∀ b ∈ t.entries, p a = true → p b = true → key a = key b)
    (kept : ∀ a, p a = true → key (f a) = key a) (k : κ) :
    (t.update p f).lookup key k = (t.lookup key k).map fun a => if p a then f a else a := by
  apply lookup_map (entries_update_one unique one)
  intro a
  split
  next hit => exact kept a hit
  next => rfl

variable [DecidableEq κ] [BEq κ] [LawfulBEq κ]

theorem lookup_eq_some_iff (unique : t.Unique key) {k : κ} {a : α} :
    t.lookup key k = some a ↔ a ∈ t.entries ∧ key a = k :=
  find?_key_iff unique k a

theorem lookup_update_key {f : α → α} (unique : t.Unique key) {k : κ} (kept : ∀ a, key a = k → key (f a) = key a) :
    (t.update (fun a => key a == k) f).lookup key =
      Function.update (t.lookup key) k ((t.lookup key k).map f) := by
  have keys : ∀ a, key (if key a = k then f a else a) = key a := by
    intro a
    split
    next same => exact kept a same
    next => rfl
  funext j
  rw [lookup_map (entries_update_key unique k f) keys]
  by_cases here : j = k
  · subst here
    rw [Function.update_self]
    refine Option.map_congr fun a found => ?_
    simp [key_of_lookup found]
  · rw [Function.update_of_ne here]
    refine (Option.map_congr fun a found => ?_).trans Option.map_id'
    simp [key_of_lookup found,here]

theorem lookup_place {a : α} (unique : t.Unique key) (positive : 0 < n) (free : t.hasFree = true)
    (fresh : t.lookup key (key a) = none) :
    (t.place a).lookup key = Function.update (t.lookup key) (key a) (some a) := by
  have others : ∀ b ∈ t.entries, key b ≠ key a := by
    intro b member same
    have missed := find?_eq_none_iff.mp fresh b member
    simp [same] at missed
  funext j
  apply Option.ext
  intro b
  rw [lookup_eq_some_iff (unique_place positive unique a others),(entries_place_free free a).mem_iff,List.mem_cons]
  by_cases here : j = key a
  · subst here
    simp only [Function.update_self,Option.some.injEq]
    constructor
    · rintro ⟨rfl | member,same⟩
      · rfl
      · exact absurd same (others b member)
    · rintro rfl
      exact ⟨.inl rfl,rfl⟩
  · rw [Function.update_of_ne here,lookup_eq_some_iff unique]
    constructor
    · rintro ⟨rfl | member,same⟩
      · exact absurd same.symm here
      · exact ⟨member,same⟩
    · rintro ⟨member,same⟩
      exact ⟨.inr member,same⟩

/-- With room, an insertion is a write under its key. -/
theorem lookup_upsert {f : α → α} (unique : t.Unique key) (positive : 0 < n) (free : t.hasFree = true)
    (kept : ∀ a, key (f a) = key a) {a : α} {k : κ} (keyed : key a = k) :
    (t.upsert (fun b => key b == k) f a).1.lookup key =
      Function.update (t.lookup key) k (some ((t.lookup key k).elim a f)) := by
  subst keyed
  cases known : t.lookup key (key a) with
  | none =>
    have searched : t.find? (fun b => key b == key a) = none := known
    simp only [upsert,searched,Option.elim_none]
    exact lookup_place unique positive free known
  | some b =>
    have searched : t.find? (fun b => key b == key a) = some b := known
    simp only [upsert,searched,Option.elim_some]
    rw [lookup_update_key unique fun a _ => kept a,known,Option.map_some]

/-- What is erased by key is erased from the map. -/
theorem lookup_erase_keys (unique : t.Unique key) {p : α → Bool} (gone : κ → Prop) [DecidablePred gone]
    (byKey : ∀ a, p a = true ↔ gone (key a)) (k : κ) :
    (t.erase p).lookup key k = if gone k then none else t.lookup key k := by
  apply Option.ext
  intro a
  rw [lookup_eq_some_iff (unique_erase key p unique),entries_erase,List.mem_filter]
  by_cases here : gone k
  · rw [if_pos here]
    constructor
    · rintro ⟨⟨_,stays⟩,rfl⟩
      simp [(byKey a).mpr here] at stays
    · simp
  · rw [if_neg here,lookup_eq_some_iff unique]
    constructor
    · rintro ⟨⟨member,_⟩,same⟩
      exact ⟨member,same⟩
    · rintro ⟨member,rfl⟩
      have stays : p a = false := Bool.eq_false_iff.mpr fun held => here ((byKey a).mp held)
      exact ⟨⟨member,by simp [stays]⟩,rfl⟩

theorem lookup_release_key (unique : t.Unique key) (k : κ) :
    (t.release fun a => key a == k).lookup key = Function.update (t.lookup key) k none := by
  funext j
  apply Option.ext
  intro a
  rw [lookup_eq_some_iff (unique_release unique _),entries_release_key unique,List.mem_filter]
  by_cases here : j = k
  · subst here
    rw [Function.update_self]
    constructor
    · rintro ⟨⟨_,gone⟩,same⟩
      simp [same] at gone
    · simp
  · rw [Function.update_of_ne here,lookup_eq_some_iff unique]
    constructor
    · rintro ⟨⟨member,_⟩,same⟩
      exact ⟨member,same⟩
    · rintro ⟨member,same⟩
      exact ⟨⟨member,by simp [same,here]⟩,same⟩

/-- An entry with `p` is found under its key. -/
theorem exists_mem_iff_lookup (unique : t.Unique key) (p : α → Prop) :
    (∃ a ∈ t.entries, p a) ↔ ∃ k a, t.lookup key k = some a ∧ p a := by
  constructor
  · rintro ⟨a,member,holds⟩
    exact ⟨key a,a,(lookup_eq_some_iff unique).mpr ⟨member,rfl⟩,holds⟩
  · rintro ⟨k,a,found,holds⟩
    exact ⟨a,((lookup_eq_some_iff unique).mp found).1,holds⟩

/-- Two tables that are one map through `g` hold the same entries through `g`. -/
theorem perm_of_lookup {u : Table α n} {g : α → α} (unique : t.Unique key) (otherUnique : u.Unique key)
    (kept : ∀ a, key (g a) = key a) (same : ∀ k, (t.lookup key k).map g = (u.lookup key k).map g) :
    (t.entries.map g).Perm (u.entries.map g) := by
  have keys : ∀ s : Table α n, s.Unique key → (s.entries.map g).Nodup := by
    intro s held
    apply List.Nodup.of_map key
    rw [List.map_map]
    exact (List.map_congr_left fun a _ => kept a) ▸ held
  have member : ∀ s : Table α n, s.Unique key → ∀ a, a ∈ s.entries.map g ↔ (s.lookup key (key a)).map g = some a := by
    intro s held a
    rw [List.mem_map,Option.map_eq_some_iff]
    constructor
    · rintro ⟨b,inside,rfl⟩
      exact ⟨b,(lookup_eq_some_iff held).mpr ⟨inside,(kept b).symm⟩,rfl⟩
    · rintro ⟨b,found,shown⟩
      exact ⟨b,((lookup_eq_some_iff held).mp found).1,shown⟩
  refine (List.perm_ext_iff_of_nodup (keys t unique) (keys u otherUnique)).mpr fun a => ?_
  rw [member t unique,member u otherUnique,same]

end Table

end NxReverse.Slots
