import Mathlib.Data.Nat.ModEq
import Mathlib.Data.List.Basic

/-! A ring of fixed capacity whose oldest entry makes room for a new one, and the books kept on
what went through it. -/
namespace NxReverse

structure Ring (α : Type) (capacity : Nat) where
  slots : Vector α capacity
  head : Fin capacity
  tail : Fin capacity
  count : Nat

namespace Ring

variable {α : Type} {capacity : Nat}

def slotAfter (start : Fin capacity) (offset : Nat) : Fin capacity :=
  ⟨(start + offset) % capacity,Nat.mod_lt _ start.pos⟩

def next (i : Fin capacity) : Fin capacity := slotAfter i 1

def empty (positive : 0 < capacity) (zero : α) : Ring α capacity :=
  ⟨.replicate capacity zero,⟨0,positive⟩,⟨0,positive⟩,0⟩

def slot (r : Ring α capacity) (i : Fin capacity) : α := r.slots[i]

def dropOldest (r : Ring α capacity) : Ring α capacity :=
  { r with tail := next r.tail, count := r.count - 1 }

def store (r : Ring α capacity) (entry : α) : Ring α capacity :=
  { r with slots := r.slots.set r.head entry r.head.isLt, head := next r.head, count := r.count + 1 }

def isFull (r : Ring α capacity) : Bool := r.count == capacity

def push (r : Ring α capacity) (entry : α) : Ring α capacity :=
  (if r.isFull then r.dropOldest else r).store entry

def pop (r : Ring α capacity) : Option (α × Ring α capacity) :=
  if r.count = 0 then none else some (r.slot r.tail,r.dropOldest)

/-- The queued entries, oldest first. -/
def contents (r : Ring α capacity) : List α :=
  (List.range r.count).map fun offset => r.slot (slotAfter r.tail offset)

/-- The two ends lie `count` slots apart. -/
structure Coherent (r : Ring α capacity) : Prop where
  count_le : r.count ≤ capacity
  head : r.head.val = (r.tail + r.count) % capacity

theorem slotAfter_add (start : Fin capacity) (first second : Nat) :
    slotAfter (slotAfter start first) second = slotAfter start (first + second) := by
  apply Fin.ext
  simp [slotAfter,Nat.add_assoc]

theorem slotAfter_ne (start : Fin capacity) {first second : Nat} (before : first < second)
    (within : second < capacity) : slotAfter start first ≠ slotAfter start second := by
  intro same
  have values : (start + first) % capacity = (start + second) % capacity := congrArg Fin.val same
  have offsets : first % capacity = second % capacity := Nat.ModEq.add_left_cancel' start.val values
  rw [Nat.mod_eq_of_lt within,Nat.mod_eq_of_lt (Nat.lt_trans before within)] at offsets
  omega

@[simp] theorem contents_length (r : Ring α capacity) : r.contents.length = r.count := by
  simp [contents]

theorem coherent_empty (positive : 0 < capacity) (zero : α) : (empty positive zero).Coherent :=
  ⟨Nat.zero_le _,by simp [empty]⟩

theorem Coherent.head_eq {r : Ring α capacity} (coherent : r.Coherent) : r.head = slotAfter r.tail r.count :=
  Fin.ext coherent.head

theorem contents_dropOldest {r : Ring α capacity} (nonempty : 0 < r.count) :
    r.contents = r.slot r.tail :: r.dropOldest.contents := by
  obtain ⟨rest,count⟩ := Nat.exists_eq_succ_of_ne_zero (Nat.pos_iff_ne_zero.mp nonempty)
  have first : slotAfter r.tail 0 = r.tail := Fin.ext (by simp [slotAfter,Nat.mod_eq_of_lt])
  have others : r.dropOldest.contents =
      (List.range rest).map fun offset => r.slot (slotAfter r.tail (offset + 1)) := by
    rw [contents]
    simp only [dropOldest,count,Nat.succ_sub_one,next,slotAfter_add,Nat.add_comm 1]
    rfl
  rw [others,contents,count,List.range_succ_eq_map,List.map_cons,List.map_map,first]
  rfl

theorem Coherent.dropOldest {r : Ring α capacity} (coherent : r.Coherent) (nonempty : 0 < r.count) :
    r.dropOldest.Coherent := by
  refine ⟨Nat.le_trans (Nat.sub_le _ _) coherent.count_le,?_⟩
  have advanced : slotAfter (next r.tail) (r.count - 1) = slotAfter r.tail r.count := by
    rw [next,slotAfter_add,Nat.add_sub_cancel' nonempty]
  exact coherent.head.trans (congrArg Fin.val advanced).symm

theorem slot_store_head (r : Ring α capacity) (entry : α) : (r.store entry).slot r.head = entry := by
  simp [slot,store]

theorem slot_store_other {r : Ring α capacity} {i : Fin capacity} (other : i ≠ r.head) (entry : α) :
    (r.store entry).slot i = r.slot i := by
  have apart : r.head.val ≠ i.val := fun same => other (Fin.ext same.symm)
  simp [slot,store,apart]

/-- The free slot at the head is none of the queued ones. -/
theorem contents_store {r : Ring α capacity} (coherent : r.Coherent) (room : r.count < capacity) (entry : α) :
    (r.store entry).contents = r.contents ++ [entry] := by
  have last : (r.store entry).slot (slotAfter r.tail r.count) = entry := by
    rw [← coherent.head_eq]
    exact slot_store_head r entry
  have others : ∀ offset ∈ List.range r.count,
      (r.store entry).slot (slotAfter r.tail offset) = r.slot (slotAfter r.tail offset) := by
    intro offset member
    apply slot_store_other
    rw [coherent.head_eq]
    exact slotAfter_ne r.tail (List.mem_range.mp member) room
  have counted : (r.store entry).contents =
      (List.range (r.count + 1)).map fun offset => (r.store entry).slot (slotAfter r.tail offset) := rfl
  rw [counted,List.range_succ,List.map_append,List.map_congr_left others,List.map_singleton,last]
  rfl

theorem Coherent.store {r : Ring α capacity} (coherent : r.Coherent) (room : r.count < capacity) (entry : α) :
    (r.store entry).Coherent := by
  refine ⟨room,?_⟩
  have advanced : next r.head = slotAfter r.tail (r.count + 1) := by
    rw [coherent.head_eq,next,slotAfter_add]
  exact congrArg Fin.val advanced

theorem push_of_room {r : Ring α capacity} (room : r.count < capacity) (entry : α) :
    r.push entry = r.store entry := by
  rw [push,if_neg]
  simp [isFull,Nat.ne_of_lt room]

theorem push_of_full {r : Ring α capacity} (full : r.count = capacity) (entry : α) :
    r.push entry = r.dropOldest.store entry := by
  rw [push,if_pos]
  simp [isFull,full]

theorem nonempty_of_full {r : Ring α capacity} (full : r.count = capacity) : 0 < r.count := by
  rw [full]
  exact r.head.pos

theorem dropOldest_room {r : Ring α capacity} (full : r.count = capacity) : r.dropOldest.count < capacity := by
  have nonempty := nonempty_of_full full
  change r.count - 1 < capacity
  omega

theorem Coherent.push {r : Ring α capacity} (coherent : r.Coherent) (entry : α) : (r.push entry).Coherent := by
  rcases Nat.lt_or_eq_of_le coherent.count_le with room | full
  · rw [push_of_room room]
    exact coherent.store room entry
  · rw [push_of_full full]
    exact (coherent.dropOldest (nonempty_of_full full)).store (dropOldest_room full) entry

/-- A push adds the entry at the end, behind all others or, in a full ring, all but the first. -/
theorem contents_push {r : Ring α capacity} (coherent : r.Coherent) (entry : α) :
    (r.push entry).contents = (if r.count = capacity then r.contents.tail else r.contents) ++ [entry] := by
  rcases Nat.lt_or_eq_of_le coherent.count_le with room | full
  · rw [push_of_room room,contents_store coherent room,if_neg (Nat.ne_of_lt room)]
  · have nonempty := nonempty_of_full full
    rw [push_of_full full,contents_store (coherent.dropOldest nonempty) (dropOldest_room full),if_pos full,
      contents_dropOldest nonempty,List.tail_cons]

/-- A pop takes the first entry. -/
theorem contents_pop {r rest : Ring α capacity} {entry : α} (popped : r.pop = some (entry,rest)) :
    r.contents = entry :: rest.contents := by
  unfold pop at popped
  split at popped
  · cases popped
  · rename_i nonempty
    obtain ⟨rfl,rfl⟩ := Prod.mk.inj (Option.some.inj popped)
    exact contents_dropOldest (Nat.pos_of_ne_zero nonempty)

theorem Coherent.pop {r rest : Ring α capacity} {entry : α} (coherent : r.Coherent)
    (popped : r.pop = some (entry,rest)) : rest.Coherent := by
  unfold Ring.pop at popped
  split at popped
  · cases popped
  · rename_i nonempty
    obtain ⟨rfl,rfl⟩ := Prod.mk.inj (Option.some.inj popped)
    exact coherent.dropOldest (Nat.pos_of_ne_zero nonempty)

end Ring

/-- What went into a queue and what came out of it. -/
structure Ledger (α : Type) where
  accepted : List α
  popped : List α
  overwritten : Nat

namespace Ledger

variable {α : Type} {l : Ledger α} {queued : List α}

def blank : Ledger α := ⟨[],[],0⟩

def accept (l : Ledger α) (entry : α) : Ledger α := { l with accepted := l.accepted ++ [entry] }

def lose (l : Ledger α) : Ledger α := { l with overwritten := l.overwritten + 1 }

def deliver (l : Ledger α) (entry : α) : Ledger α := { l with popped := l.popped ++ [entry] }

/-- The queued entries are the last accepted ones, and every accepted entry is popped, overwritten
or queued. -/
structure Accounts (l : Ledger α) (queued : List α) : Prop where
  last : queued <:+ l.accepted
  order : (l.popped ++ queued).Sublist l.accepted
  balance : l.accepted.length = l.popped.length + l.overwritten + queued.length

theorem accounts_blank : (blank : Ledger α).Accounts [] := ⟨List.nil_suffix,List.Sublist.refl [],rfl⟩

theorem Accounts.accept (accounts : l.Accounts queued) (entry : α) :
    (l.accept entry).Accounts (queued ++ [entry]) := by
  refine ⟨?_,?_,?_⟩
  · obtain ⟨before,split⟩ := accounts.last
    exact ⟨before,by rw [Ledger.accept,← split,List.append_assoc]⟩
  · rw [← List.append_assoc]
    exact accounts.order.append (List.Sublist.refl [entry])
  · have balance := accounts.balance
    simp only [Ledger.accept,List.length_append,List.length_singleton]
    omega

theorem Accounts.lose {entry : α} (accounts : l.Accounts (entry :: queued)) : l.lose.Accounts queued := by
  refine ⟨(List.suffix_cons entry queued).trans accounts.last,?_,?_⟩
  · exact (List.Sublist.append (List.Sublist.refl l.popped) (List.sublist_cons_self entry queued)).trans
      accounts.order
  · have balance := accounts.balance
    simp only [Ledger.lose,List.length_cons] at balance ⊢
    omega

theorem Accounts.deliver {entry : α} (accounts : l.Accounts (entry :: queued)) :
    (l.deliver entry).Accounts queued := by
  refine ⟨(List.suffix_cons entry queued).trans accounts.last,?_,?_⟩
  · simpa [Ledger.deliver] using accounts.order
  · have balance := accounts.balance
    simp only [Ledger.deliver,List.length_append,List.length_cons,List.length_nil] at balance ⊢
    omega

/-- The queue holds as many of the last accepted entries as it counts. -/
theorem Accounts.queued_eq (accounts : l.Accounts queued) :
    queued = l.accepted.drop (l.accepted.length - queued.length) :=
  List.suffix_iff_eq_drop.mp accounts.last

end Ledger

/-- A 64-bit counter that a reader takes and sets back to 0, with the number of increments that each
value stands for. -/
structure TakenCounter where
  value : UInt64
  sinceTaken : Nat
  taken : List (UInt64 × Nat)

namespace TakenCounter

def zero : TakenCounter := ⟨0,0,[]⟩

def increment (c : TakenCounter) : TakenCounter := { c with value := c.value + 1, sinceTaken := c.sinceTaken + 1 }

def take (c : TakenCounter) : TakenCounter := ⟨0,0,c.taken ++ [(c.value,c.sinceTaken)]⟩

def total (c : TakenCounter) : Nat := (c.taken.map fun p => p.1.toNat).sum + c.value.toNat

def increments (c : TakenCounter) : Nat := (c.taken.map fun p => p.2).sum + c.sinceTaken

def Unwrapped (c : TakenCounter) : Prop := (∀ p ∈ c.taken, p.2 < 2 ^ 64) ∧ c.sinceTaken < 2 ^ 64

/-- Each value is the number of increments, modulo the width. -/
structure Counts (c : TakenCounter) : Prop where
  value : c.value = UInt64.ofNat c.sinceTaken
  taken : ∀ p ∈ c.taken, p.1 = UInt64.ofNat p.2

theorem counts_zero : zero.Counts := ⟨rfl,nofun⟩

theorem Counts.increment {c : TakenCounter} (counts : c.Counts) : c.increment.Counts := by
  refine ⟨?_,counts.taken⟩
  change c.value + 1 = UInt64.ofNat (c.sinceTaken + 1)
  rw [counts.value,UInt64.ofNat_add]
  rfl

theorem Counts.take {c : TakenCounter} (counts : c.Counts) : c.take.Counts := by
  refine ⟨rfl,?_⟩
  intro p member
  rcases List.mem_append.mp member with before | last
  · exact counts.taken p before
  · rw [List.mem_singleton.mp last]
    exact counts.value

theorem increments_increment (c : TakenCounter) : c.increment.increments = c.increments + 1 := rfl

theorem increments_take (c : TakenCounter) : c.take.increments = c.increments := by
  simp [increments,take]

/-- Wrapped values only lose. -/
theorem sum_taken {taken : List (UInt64 × Nat)} (counts : ∀ p ∈ taken, p.1 = UInt64.ofNat p.2) :
    (taken.map fun p => p.1.toNat).sum ≤ (taken.map fun p => p.2).sum ∧
      ((taken.map fun p => p.1.toNat).sum = (taken.map fun p => p.2).sum ↔ ∀ p ∈ taken, p.2 < 2 ^ 64) := by
  induction taken with
  | nil => simp
  | cons p rest ih =>
    obtain ⟨less,same⟩ := ih fun q member => counts q (List.mem_cons_of_mem p member)
    have value : p.1.toNat = p.2 % 2 ^ 64 := by rw [counts p List.mem_cons_self,UInt64.toNat_ofNat']
    have atMost := Nat.mod_le p.2 (2 ^ 64)
    have unwrapped : p.2 % 2 ^ 64 = p.2 ↔ p.2 < 2 ^ 64 := Nat.mod_eq_iff_lt (by decide)
    simp only [List.map_cons,List.sum_cons,List.forall_mem_cons,value,← unwrapped,← same]
    omega

/-- The total is right exactly if no value wrapped. -/
theorem Counts.total_eq_iff {c : TakenCounter} (counts : c.Counts) : c.total = c.increments ↔ c.Unwrapped := by
  obtain ⟨less,same⟩ := sum_taken counts.taken
  have value : c.value.toNat = c.sinceTaken % 2 ^ 64 := by rw [counts.value,UInt64.toNat_ofNat']
  have atMost := Nat.mod_le c.sinceTaken (2 ^ 64)
  have unwrapped : c.sinceTaken % 2 ^ 64 = c.sinceTaken ↔ c.sinceTaken < 2 ^ 64 := Nat.mod_eq_iff_lt (by decide)
  rw [total,increments,Unwrapped,← same,← unwrapped,value]
  omega

end TakenCounter

end NxReverse
