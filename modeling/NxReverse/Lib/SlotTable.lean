import Mathlib.Data.List.ReduceOption
import Mathlib.Data.List.Nodup
import Mathlib.Data.List.Perm.Basic

/-! Fixed tables of slots searched from the front. A slot holding `none` is free. An
insertion takes the first free slot and, when there is none, replaces slot 0. Nothing
here depends on what the entries are. -/
namespace NxReverse.Slots

/-- Among distinct keys, searching for the key of a member finds that member. -/
theorem find?_of_nodup_keys [DecidableEq κ] [BEq κ] [LawfulBEq κ] {key : α → κ} {l : List α}
    (unique : (l.map key).Nodup) {a : α} (member : a ∈ l) : l.find? (fun b => key b == key a) = some a := by
  induction l with
  | nil => cases member
  | cons b rest ih =>
    simp only [List.map_cons,List.nodup_cons,List.mem_map,not_exists,not_and] at unique
    rcases List.mem_cons.mp member with rfl | tail
    · simp
    · have different : key b ≠ key a := fun same => unique.1 a tail same.symm
      simpa [List.find?_cons,different] using ih unique.2 tail

/-- A table of `n` slots; no operation below can change the capacity. -/
structure Table (α : Type u) (n : Nat) where
  slots : List (Option α)
  size : slots.length = n

/-- Apply `f` to the first used slot whose entry satisfies `p`. -/
def updateFirst (p : α → Bool) (f : α → α) : List (Option α) → List (Option α)
  | [] => []
  | none :: rest => none :: updateFirst p f rest
  | some a :: rest => if p a then some (f a) :: rest else some a :: updateFirst p f rest

/-- Free the first used slot whose entry satisfies `p`. -/
def releaseFirst (p : α → Bool) : List (Option α) → List (Option α)
  | [] => []
  | none :: rest => none :: releaseFirst p rest
  | some a :: rest => if p a then none :: rest else some a :: releaseFirst p rest

/-- Put `a` into the first free slot; a list without one is unchanged. -/
def fill (a : α) : List (Option α) → List (Option α)
  | [] => []
  | none :: rest => some a :: rest
  | some b :: rest => some b :: fill a rest

def overwrite (a : α) : List (Option α) → List (Option α)
  | [] => []
  | _ :: rest => some a :: rest

@[simp] theorem length_updateFirst (p : α → Bool) (f : α → α) (slots : List (Option α)) :
    (updateFirst p f slots).length = slots.length := by
  fun_induction updateFirst p f slots <;> simp_all

@[simp] theorem length_releaseFirst (p : α → Bool) (slots : List (Option α)) :
    (releaseFirst p slots).length = slots.length := by
  fun_induction releaseFirst p slots <;> simp_all

@[simp] theorem length_fill (a : α) (slots : List (Option α)) :
    (fill a slots).length = slots.length := by
  fun_induction fill a slots <;> simp_all

@[simp] theorem length_overwrite (a : α) (slots : List (Option α)) :
    (overwrite a slots).length = slots.length := by
  cases slots <;> simp [overwrite]

namespace Table

variable {α : Type u} {κ : Type v} {n : Nat}

def empty (α : Type u) (n : Nat) : Table α n := ⟨List.replicate n none, List.length_replicate⟩

def entries (t : Table α n) : List α := t.slots.reduceOption

def hasFree (t : Table α n) : Bool := t.slots.any Option.isNone

def find? (t : Table α n) (p : α → Bool) : Option α := t.entries.find? p

def count (t : Table α n) (p : α → Bool) : Nat := t.entries.countP p

def update (t : Table α n) (p : α → Bool) (f : α → α) : Table α n :=
  ⟨updateFirst p f t.slots, by simp [t.size]⟩

def release (t : Table α n) (p : α → Bool) : Table α n :=
  ⟨releaseFirst p t.slots, by simp [t.size]⟩

def place (t : Table α n) (a : α) : Table α n :=
  ⟨if t.hasFree then fill a t.slots else overwrite a t.slots, by split <;> simp [t.size]⟩

def erase (t : Table α n) (p : α → Bool) : Table α n :=
  ⟨t.slots.map (Option.filter fun a => !p a), by simp [t.size]⟩

/-- Update the first entry satisfying `p`, or insert `a` when there is none. The entry
as stored is returned beside the table. -/
def upsert (t : Table α n) (p : α → Bool) (f : α → α) (a : α) : Table α n × α :=
  match t.find? p with
  | some found => (t.update p f,f found)
  | none => (t.place a,a)

/-- The entry that an insertion would destroy: slot 0 of a table without free slot. -/
def victim (t : Table α n) : Option α := if t.hasFree then none else t.slots.head?.join

def Unique (key : α → κ) (t : Table α n) : Prop := (t.entries.map key).Nodup

@[simp] theorem entries_empty : (empty α n).entries = [] := by
  simp [empty,entries,List.reduceOption_replicate_none]

theorem unique_empty (key : α → κ) : (empty α n).Unique key := by simp [Unique]

@[simp] theorem entries_erase (t : Table α n) (p : α → Bool) :
    (t.erase p).entries = t.entries.filter fun a => !p a := by
  obtain ⟨slots,size⟩ := t
  simp only [erase,entries]
  clear size
  induction slots with
  | nil => rfl
  | cons slot rest ih =>
    cases slot with
    | none => simpa [List.reduceOption_cons_of_none,Option.filter] using ih
    | some a =>
      by_cases gone : p a
      · simpa [Option.filter,gone,List.reduceOption_cons_of_some,List.reduceOption_cons_of_none] using ih
      · simpa [Option.filter,gone,List.reduceOption_cons_of_some] using ih

theorem unique_erase (key : α → κ) {t : Table α n} (p : α → Bool) (unique : t.Unique key) :
    (t.erase p).Unique key := by
  rw [Unique,entries_erase]
  exact (List.filter_sublist.map key).nodup unique

/-- An update of matches that all have one key reaches every one of them. -/
theorem entries_update_one {key : α → κ} {t : Table α n} {p : α → Bool} {f : α → α} (unique : t.Unique key)
    (one : ∀ a ∈ t.entries, ∀ b ∈ t.entries, p a = true → p b = true → key a = key b) :
    (t.update p f).entries = t.entries.map fun a => if p a then f a else a := by
  obtain ⟨slots,size⟩ := t
  simp only [Unique,entries,update] at unique one ⊢
  clear size
  induction slots with
  | nil => rfl
  | cons slot rest ih =>
    cases slot with
    | none => simpa [updateFirst,List.reduceOption_cons_of_none] using ih unique one
    | some a =>
      simp only [List.reduceOption_cons_of_some,List.map_cons,List.nodup_cons,List.forall_mem_cons] at unique one
      by_cases hit : p a
      · have apart : ∀ b ∈ List.reduceOption rest, p b = false := by
          intro b member
          by_contra both
          have same := one.1.2 b member hit (Bool.not_eq_false _ ▸ both)
          exact unique.1 (List.mem_map.mpr ⟨b,member,same.symm⟩)
        simp only [updateFirst,hit,↓reduceIte,List.reduceOption_cons_of_some,List.map_cons,List.cons.injEq,true_and]
        refine (List.map_id _).symm.trans (List.map_congr_left fun b member => ?_)
        simp [apart b member]
      · simpa [updateFirst,hit,List.reduceOption_cons_of_some] using ih unique.2 fun b member => (one.2 b member).2

/-- With unique keys the first match is the only one. -/
theorem entries_update_key [DecidableEq κ] [BEq κ] [LawfulBEq κ] {key : α → κ}
    {t : Table α n} (unique : t.Unique key) (k : κ) (f : α → α) :
    (t.update (fun a => key a == k) f).entries =
      t.entries.map fun a => if key a = k then f a else a := by
  have one : ∀ a ∈ t.entries, ∀ b ∈ t.entries, (key a == k) = true → (key b == k) = true → key a = key b :=
    fun a _ b _ left right => (beq_iff_eq.mp left).trans (beq_iff_eq.mp right).symm
  simpa only [beq_iff_eq] using entries_update_one unique one

/-- An update that keeps keys leaves the list of keys as it was. -/
theorem keys_update {key : α → κ} (t : Table α n) {p : α → Bool} {f : α → α}
    (kept : ∀ a, p a = true → key (f a) = key a) :
    (t.update p f).entries.map key = t.entries.map key := by
  obtain ⟨slots,size⟩ := t
  simp only [entries,update]
  clear size
  induction slots with
  | nil => rfl
  | cons slot rest ih =>
    cases slot with
    | none => simpa [updateFirst,List.reduceOption_cons_of_none] using ih
    | some a =>
      by_cases hit : p a
      · simp [updateFirst,hit,List.reduceOption_cons_of_some,kept a hit]
      · simpa [updateFirst,hit,List.reduceOption_cons_of_some] using ih

theorem unique_update {key : α → κ} {t : Table α n} (unique : t.Unique key) {p : α → Bool} {f : α → α}
    (kept : ∀ a, p a = true → key (f a) = key a) : (t.update p f).Unique key := by
  rw [Unique,keys_update t kept]
  exact unique

theorem entries_release (t : Table α n) (p : α → Bool) : (t.release p).entries = t.entries.eraseP p := by
  obtain ⟨slots,size⟩ := t
  simp only [entries,release]
  clear size
  induction slots with
  | nil => rfl
  | cons slot rest ih =>
    cases slot with
    | none => simpa [releaseFirst,List.reduceOption_cons_of_none] using ih
    | some a =>
      by_cases gone : p a
      · simp [releaseFirst,gone,List.reduceOption_cons_of_some,List.reduceOption_cons_of_none]
      · simpa [releaseFirst,gone,List.reduceOption_cons_of_some] using ih

theorem entries_release_sublist (t : Table α n) (p : α → Bool) : (t.release p).entries.Sublist t.entries := by
  rw [entries_release]
  exact List.eraseP_sublist

theorem unique_release {key : α → κ} {t : Table α n} (unique : t.Unique key) (p : α → Bool) :
    (t.release p).Unique key :=
  ((entries_release_sublist t p).map key).nodup unique

/-- With unique keys, freeing the first match leaves no entry with that key. -/
theorem entries_release_key [DecidableEq κ] [BEq κ] [LawfulBEq κ] {key : α → κ}
    {t : Table α n} (unique : t.Unique key) (k : κ) :
    (t.release fun a => key a == k).entries = t.entries.filter fun a => !(key a == k) := by
  rw [entries_release]
  rcases List.exists_or_eq_self_of_eraseP (fun a => key a == k) t.entries with same | ⟨a,front,back,before,hit,split,rest⟩
  · have absent := List.eraseP_eq_self_iff.mp same
    rw [same]
    exact (List.filter_eq_self.mpr fun a member => by simpa using absent a member).symm
  · have keyed : key a = k := eq_of_beq hit
    have behind : ∀ b ∈ back, ¬key b = k := by
      intro b member same
      rw [Unique,split,List.map_append,List.map_cons] at unique
      have apart := (List.nodup_cons.mp (List.nodup_append.mp unique).2.1).1
      exact apart (List.mem_map.mpr ⟨b,member,same.trans keyed.symm⟩)
    have kept : front.filter (fun b => !(key b == k)) = front :=
      List.filter_eq_self.mpr fun b member => by simpa using before b member
    have keptToo : back.filter (fun b => !(key b == k)) = back :=
      List.filter_eq_self.mpr fun b member => by simpa using behind b member
    rw [rest,split,List.filter_append,List.filter_cons_of_neg (by simp [keyed]),kept,keptToo]

theorem fill_entries (a : α) (slots : List (Option α)) (free : slots.any Option.isNone = true) :
    (fill a slots).reduceOption.Perm (a :: slots.reduceOption) := by
  induction slots with
  | nil => simp at free
  | cons slot rest ih =>
    cases slot with
    | none => simp [fill,List.reduceOption_cons_of_none,List.reduceOption_cons_of_some]
    | some b =>
      simp only [fill,List.reduceOption_cons_of_some]
      have tail := ih (by simpa using free)
      exact (tail.cons b).trans (List.Perm.swap a b _)

theorem hasFree_of_length {t : Table α n} (room : t.entries.length < n) : t.hasFree = true := by
  have fewer : t.slots.reduceOption.length < t.slots.length := by
    rw [t.size]
    exact room
  have free := List.reduceOption_length_lt_iff.mp fewer
  exact List.any_eq_true.mpr ⟨none,free,rfl⟩

/-- Free room: the new entry joins the others. -/
theorem entries_place_free {t : Table α n} (free : t.hasFree = true) (a : α) :
    (t.place a).entries.Perm (a :: t.entries) := by
  simpa [place,entries,free] using fill_entries a t.slots free

/-- No free room: the new entry takes the place of the victim in slot 0. -/
theorem entries_place_full {t : Table α n} (positive : 0 < n) (full : t.hasFree = false) (a : α) :
    ∃ lost rest, t.victim = some lost ∧ t.entries = lost :: rest ∧ (t.place a).entries = a :: rest := by
  obtain ⟨slots,size⟩ := t
  cases slots with
  | nil => simp at size; omega
  | cons slot rest =>
    cases slot with
    | none => simp [hasFree] at full
    | some lost =>
      refine ⟨lost,rest.reduceOption,?_,?_,?_⟩
      · simp [victim,full]
      · simp [entries,List.reduceOption_cons_of_some]
      · simp [place,full,overwrite,entries,List.reduceOption_cons_of_some]

theorem mem_place_self {t : Table α n} (positive : 0 < n) (a : α) : a ∈ (t.place a).entries := by
  cases free : t.hasFree with
  | true => exact (entries_place_free free a).mem_iff.mpr List.mem_cons_self
  | false =>
    obtain ⟨_,_,_,_,after⟩ := entries_place_full positive free a
    simp [after]

theorem mem_of_mem_place {t : Table α n} (positive : 0 < n) {a b : α} (member : b ∈ (t.place a).entries) :
    b = a ∨ b ∈ t.entries := by
  cases free : t.hasFree with
  | true => exact List.mem_cons.mp ((entries_place_free free a).mem_iff.mp member)
  | false =>
    obtain ⟨lost,rest,_,before,after⟩ := entries_place_full positive free a
    rw [after] at member
    rw [before]
    exact (List.mem_cons.mp member).imp_right (List.mem_cons_of_mem lost)

/-- Only the victim can be lost to an insertion. -/
theorem mem_place_of_mem {t : Table α n} (positive : 0 < n) {a b : α} (member : b ∈ t.entries)
    (kept : t.victim ≠ some b) : b ∈ (t.place a).entries := by
  cases free : t.hasFree with
  | true => exact (entries_place_free free a).mem_iff.mpr (List.mem_cons_of_mem a member)
  | false =>
    obtain ⟨lost,rest,victim,before,after⟩ := entries_place_full positive free a
    rw [before] at member
    rw [after]
    rcases List.mem_cons.mp member with rfl | tail
    · exact absurd victim kept
    · exact List.mem_cons_of_mem a tail

theorem unique_place {key : α → κ} {t : Table α n} (positive : 0 < n) (unique : t.Unique key) (a : α)
    (fresh : ∀ b ∈ t.entries, key b ≠ key a) : (t.place a).Unique key := by
  have apart : ∀ l : List α, (∀ b ∈ l, b ∈ t.entries) → key a ∉ l.map key := by
    intro l inside member
    obtain ⟨b,inl,same⟩ := List.mem_map.mp member
    exact fresh b (inside b inl) same
  cases free : t.hasFree with
  | true =>
    refine (((entries_place_free free a).map key).nodup_iff).mpr ?_
    exact List.nodup_cons.mpr ⟨apart _ fun _ h => h,unique⟩
  | false =>
    obtain ⟨lost,rest,_,before,after⟩ := entries_place_full positive free a
    rw [Unique,before] at unique
    rw [Unique,after]
    exact List.nodup_cons.mpr ⟨apart rest fun b h => by simp [before,h],(List.nodup_cons.mp unique).2⟩

/-- Searching by a unique key finds exactly the entry with that key. -/
theorem find?_key_iff [DecidableEq κ] [BEq κ] [LawfulBEq κ] {key : α → κ}
    {t : Table α n} (unique : t.Unique key) (k : κ) (a : α) :
    t.find? (fun b => key b == k) = some a ↔ a ∈ t.entries ∧ key a = k := by
  constructor
  · intro found
    exact ⟨List.mem_of_find?_eq_some found,by simpa using List.find?_some found⟩
  · rintro ⟨member,rfl⟩
    exact find?_of_nodup_keys unique member

/-- With unique keys a search by key sees the same entry however the slots are ordered. -/
theorem find?_key_perm [DecidableEq κ] [BEq κ] [LawfulBEq κ] {key : α → κ} {t other : Table α n}
    (unique : t.Unique key) (reordered : other.slots.Perm t.slots) (k : κ) :
    other.find? (fun a => key a == k) = t.find? fun a => key a == k := by
  have entries : other.entries.Perm t.entries := reordered.filterMap id
  have otherUnique : other.Unique key := (entries.map key).nodup_iff.mpr unique
  apply Option.ext
  intro a
  rw [find?_key_iff otherUnique,find?_key_iff unique,entries.mem_iff]

theorem find?_eq_none_iff {t : Table α n} {p : α → Bool} :
    t.find? p = none ↔ ∀ a ∈ t.entries, p a = false := by
  simp [find?]

theorem count_eq_zero_iff {t : Table α n} {p : α → Bool} :
    t.count p = 0 ↔ ∀ a ∈ t.entries, p a = false := by
  simp [count,List.countP_eq_zero]

/-- Where there is room an insertion only adds its key. -/
theorem keys_upsert_room [DecidableEq κ] [BEq κ] [LawfulBEq κ] {key : α → κ} {t : Table α n}
    (room : t.entries.length < n) {f : α → α} (kept : ∀ a, key (f a) = key a) (a : α) :
    (key a ∈ t.entries.map key ∧
      (t.upsert (fun b => key b == key a) f a).1.entries.map key = t.entries.map key) ∨
      ((t.upsert (fun b => key b == key a) f a).1.entries.map key).Perm (key a :: t.entries.map key) := by
  unfold upsert
  split
  next found known =>
    have member := List.mem_of_find?_eq_some known
    have same : key found = key a := by simpa using List.find?_some known
    exact Or.inl ⟨List.mem_map.mpr ⟨found,member,same⟩,keys_update t fun b _ => kept b⟩
  next => exact Or.inr ((entries_place_free (hasFree_of_length room) a).map key)

theorem upsert_fresh {t : Table α n} {p : α → Bool} {f : α → α} {a : α}
    (fresh : ∀ b ∈ t.entries, p b = false) : t.upsert p f a = (t.place a,a) := by
  simp [upsert,find?_eq_none_iff.mpr fresh]

theorem upsert_known [DecidableEq κ] [BEq κ] [LawfulBEq κ] {key : α → κ}
    {t : Table α n} (unique : t.Unique key) {k : κ} {f : α → α}
    {a b : α} (member : b ∈ t.entries) (same : key b = k) :
    t.upsert (fun b => key b == k) f a = (t.update (fun b => key b == k) f,f b) := by
  simp [upsert,(find?_key_iff unique k b).mpr ⟨member,same⟩]

/-- Inserting under a key keeps keys unique, whether it updates or takes a slot. -/
theorem unique_upsert_key [DecidableEq κ] [BEq κ] [LawfulBEq κ] {key : α → κ}
    {t : Table α n} (positive : 0 < n) (unique : t.Unique key) {f : α → α}
    (kept : ∀ a, key (f a) = key a) (a : α) {k : κ} (keyed : key a = k) : (t.upsert (fun b => key b == k) f a).1.Unique key := by
  unfold upsert
  split
  · exact unique_update unique fun a _ => kept a
  · next absent =>
    refine unique_place positive unique a fun b member same => ?_
    have missed := find?_eq_none_iff.mp absent b member
    simp [same,keyed] at missed

/-- The entries of which `kept` holds are in the same slots of both tables. -/
def SameSlots (kept : α → Prop) (before after : Table α n) : Prop :=
  ∀ (i : Nat) (a : α), kept a → (after.slots[i]? = some (some a) ↔ before.slots[i]? = some (some a))

theorem sameSlots_erase {kept : α → Prop} {p : α → Bool} (t : Table α n) (apart : ∀ a, kept a → p a = false) :
    SameSlots kept t (t.erase p) := by
  intro i a keeps
  simp only [erase,List.getElem?_map,Option.map_eq_some_iff,Option.filter_eq_some_iff]
  constructor
  · rintro ⟨slot,there,held,_⟩
    rw [there,held]
  · exact fun there => ⟨some a,there,rfl,by simp [apart a keeps]⟩

theorem sameSlots_release {kept : α → Prop} {p : α → Bool} (t : Table α n) (apart : ∀ a, kept a → p a = false) :
    SameSlots kept t (t.release p) := by
  intro i a keeps
  obtain ⟨slots,size⟩ := t
  simp only [release]
  clear size
  induction slots generalizing i with
  | nil => rfl
  | cons slot rest ih =>
    cases slot with
    | none =>
      cases i with
      | zero => simp [releaseFirst]
      | succ i => simpa [releaseFirst] using ih i
    | some b =>
      rw [releaseFirst]
      split
      next gone =>
        cases i with
        | succ i => simp
        | zero =>
          have different : b ≠ a := by
            rintro rfl
            rw [apart b keeps] at gone
            cases gone
          simp [different]
      next =>
        cases i with
        | zero => simp
        | succ i => simpa using ih i

theorem full_of_victim {t : Table α n} {a : α} (victim : t.victim = some a) : t.hasFree = false := by
  by_contra free
  rw [Table.victim,if_pos (Bool.not_eq_false _ ▸ free)] at victim
  cases victim

/-- A full table keeps all slots but the first. -/
theorem sameSlots_place_full {kept : α → Prop} {t : Table α n} (full : t.hasFree = false) (a : α)
    (old : ∀ b, t.victim = some b → ¬kept b) (new : ¬kept a) : SameSlots kept t (t.place a) := by
  intro i b keeps
  obtain ⟨slots,size⟩ := t
  cases slots with
  | nil => simp [place,full,overwrite]
  | cons slot rest =>
    cases i with
    | succ i => simp [place,full,overwrite]
    | zero =>
      have replaced : ¬a = b := fun same => new (same ▸ keeps)
      have lost : ¬slot = some b := by
        rintro rfl
        exact old b (by simp [victim,full]) keeps
      simp [place,full,overwrite,replaced,lost]

/-- Freeing the first match leaves one match fewer. -/
theorem count_release (t : Table α n) (p : α → Bool) : (t.release p).count p = t.count p - 1 := by
  rw [count,count,entries_release]
  rcases List.exists_or_eq_self_of_eraseP p t.entries with same | ⟨a,front,back,_,hit,split,rest⟩
  · have absent := List.countP_eq_zero.mpr (List.eraseP_eq_self_iff.mp same)
    rw [same,absent]
  · rw [rest,split,List.countP_append,List.countP_append,List.countP_cons_of_pos hit]
    omega

theorem Unique.count_le_one [BEq κ] [LawfulBEq κ] {key : α → κ} {t : Table α n} (unique : t.Unique key) (k : κ) :
    t.count (fun a => key a == k) ≤ 1 := by
  have counted := List.nodup_iff_count_le_one.mp unique k
  rwa [List.count_eq_countP,List.countP_map] at counted

/-- The first slots hold `l` in order, and the others are free. -/
def Packed (t : Table α n) (l : List α) : Prop := t.slots = l.map some ++ List.replicate (n - l.length) none

theorem packed_empty : (empty α n).Packed [] := by simp [Packed,empty]

theorem Packed.entries {t : Table α n} {l : List α} (packed : t.Packed l) : t.entries = l := by
  rw [Table.entries,packed]
  simp [List.reduceOption]

theorem Packed.hasFree {t : Table α n} {l : List α} (packed : t.Packed l) : t.hasFree = decide (l.length < n) := by
  rw [Table.hasFree,packed,Bool.eq_iff_iff]
  simp [Nat.sub_ne_zero_iff_lt]

theorem fill_packed (a : α) (l : List α) (room : Nat) :
    fill a (l.map some ++ List.replicate (room + 1) none) = (l ++ [a]).map some ++ List.replicate room none := by
  induction l with
  | nil => rfl
  | cons b l ih => exact congrArg (some b :: ·) ih

theorem Packed.place {t : Table α n} {l : List α} (packed : t.Packed l) (room : l.length < n) (a : α) :
    (t.place a).Packed (l ++ [a]) := by
  obtain ⟨left,more⟩ := Nat.exists_eq_add_of_lt room
  have free : t.hasFree = true := by
    rw [packed.hasFree]
    exact decide_eq_true room
  have before : n - l.length = left + 1 := by omega
  have after : n - (l ++ [a]).length = left := by
    rw [List.length_append,List.length_singleton]
    omega
  change (if t.hasFree then fill a t.slots else overwrite a t.slots) = _
  rw [if_pos free,after,packed,before]
  exact fill_packed a l left

theorem hasFree_update (t : Table α n) (p : α → Bool) (f : α → α) : (t.update p f).hasFree = t.hasFree := by
  obtain ⟨slots,size⟩ := t
  simp only [hasFree,update]
  clear size
  induction slots with
  | nil => rfl
  | cons slot rest ih =>
    cases slot with
    | none => rfl
    | some a =>
      rw [updateFirst]
      split
      · rfl
      · simpa using ih

end Table

end NxReverse.Slots
