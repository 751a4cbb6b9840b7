import NxReverse.Lib.RingBuffer
import NxReverse.Lib.Text
import NxReverse.Lib.Words

/-! The queues between the callers of the logger and its flush thread: one of lines and one of
binary records for each family of traces. -/
namespace NxReverse.Probe

open Text Words

def queueEntryCapacity : Nat := 896

def binaryQueueEntryCapacity : Nat := 96

def maxQueuedPathLength : Nat := 96

def maxQueuedLineLength : Nat := 2048

def maxQueuedBlobLength : Nat := 2048

structure QueuedLine where
  path : CString
  line : Bytes
  pathSize : UInt16
  lineSize : UInt16
  deriving DecidableEq, Repr

structure QueuedBlob where
  path : CString
  data : Bytes
  pathSize : UInt16
  dataSize : UInt16
  deriving DecidableEq, Repr

inductive BlobQueueKind where
  | generic | nifm | bsd | ssl
  deriving DecidableEq, Repr

def BlobQueueKind.all : List BlobQueueKind := [.generic,.nifm,.bsd,.ssl]

def contains (text part : CString) : Bool := decide (part <:+: text)

def getBlobQueueKind (path : CString) : BlobQueueKind :=
  if contains path "probe-mitm-nifm.bin".toList then .nifm
  else if contains path "probe-mitm-bsd.bin".toList then .bsd
  else if contains path "probe-mitm-ssl.bin".toList then .ssl
  else .generic

/-- A line as its slot keeps it, both texts cut to leave room for their terminator. -/
def QueuedLine.of (path : CString) (line : Bytes) : QueuedLine :=
  let clampedPathSize := min path.length (maxQueuedPathLength - 1)
  let clampedLineSize := min line.length (maxQueuedLineLength - 1)
  ⟨path.take clampedPathSize,line.take clampedLineSize,.ofNat clampedPathSize,.ofNat clampedLineSize⟩

/-- A binary record as its slot keeps it, only the path cut. -/
def QueuedBlob.of (path : CString) (data : Bytes) : QueuedBlob :=
  let clampedPathSize := min path.length (maxQueuedPathLength - 1)
  ⟨path.take clampedPathSize,data,.ofNat clampedPathSize,.ofNat data.length⟩

/-- A ring with its drop counter, and the books on both. -/
structure LogQueue (α : Type) (capacity : Nat) where
  ring : Ring α capacity
  drops : TakenCounter
  ledger : Ledger α

namespace LogQueue

variable {α : Type} {capacity : Nat}

def empty (positive : 0 < capacity) (zero : α) : LogQueue α capacity := ⟨.empty positive zero,.zero,.blank⟩

def accept (q : LogQueue α capacity) (entry : α) : LogQueue α capacity where
  ring := q.ring.push entry
  drops := if q.ring.isFull then q.drops.increment else q.drops
  ledger := (if q.ring.isFull then q.ledger.lose else q.ledger).accept entry

def pop (q : LogQueue α capacity) : Option (α × LogQueue α capacity) :=
  q.ring.pop.map fun (entry,ring) => (entry,{ q with ring := ring, ledger := q.ledger.deliver entry })

def reject (q : LogQueue α capacity) : LogQueue α capacity := { q with drops := q.drops.increment }

def takeDrops (q : LogQueue α capacity) : LogQueue α capacity := { q with drops := q.drops.take }

end LogQueue

structure Queues where
  lines : LogQueue QueuedLine queueEntryCapacity
  blobs : BlobQueueKind → LogQueue QueuedBlob binaryQueueEntryCapacity

namespace Queues

/-- The zeroed statics of the logger. -/
def initial : Queues where
  lines := .empty (by decide) ⟨[],[],0,0⟩
  blobs := fun _ => .empty (by decide) ⟨[],[],0,0⟩

def setBlobs (s : Queues) (kind : BlobQueueKind) (q : LogQueue QueuedBlob binaryQueueEntryCapacity) : Queues :=
  { s with blobs := Function.update s.blobs kind q }

/-- Text arguments are their characters up to the terminator; `none` is a null pointer. -/
def queueLineLocked (s : Queues) (path : Option CString) (line : Option Bytes) : Bool × Queues :=
  match path,line with
  | some path,some line =>
    if path.length = 0 ∨ line.length = 0 then (false,s)
    else (true,{ s with lines := s.lines.accept (.of path line) })
  | _,_ => (false,s)

def popLineLocked (s : Queues) : Option (QueuedLine × Queues) :=
  s.lines.pop.map fun (entry,lines) => (entry,{ s with lines := lines })

def queueBlobLocked (s : Queues) (path : Option CString) (data : Option Bytes) : Bool × Queues :=
  -- whatever the path, a rejected record is counted on the generic queue
  let rejected := (false,s.setBlobs .generic (s.blobs .generic).reject)
  match path,data with
  | some path,some data =>
    if path.length = 0 ∨ data.length = 0 ∨ data.length > maxQueuedBlobLength then rejected
    else
      let kind := getBlobQueueKind path
      (true,s.setBlobs kind ((s.blobs kind).accept (.of path data)))
  | _,_ => rejected

def popBlobLocked (s : Queues) (kind : BlobQueueKind) : Option (QueuedBlob × Queues) :=
  (s.blobs kind).pop.map fun (entry,q) => (entry,s.setBlobs kind q)

/-- The flusher reads all drop counters and sets them to 0. -/
def takeDropCounts (s : Queues) : Queues where
  lines := s.lines.takeDrops
  blobs := fun kind => (s.blobs kind).takeDrops

end Queues

namespace LogQueue

variable {α : Type} {capacity : Nat} {q : LogQueue α capacity}

structure Sound (q : LogQueue α capacity) : Prop where
  coherent : q.ring.Coherent
  accounts : q.ledger.Accounts q.ring.contents
  counts : q.drops.Counts

theorem sound_empty (positive : 0 < capacity) (zero : α) : (empty positive zero).Sound :=
  ⟨Ring.coherent_empty positive zero,Ledger.accounts_blank,TakenCounter.counts_zero⟩

theorem isFull_iff : q.ring.isFull = true ↔ q.ring.count = capacity := by simp [Ring.isFull]

theorem Sound.accept (sound : q.Sound) (entry : α) : (q.accept entry).Sound := by
  refine ⟨sound.coherent.push entry,?_,?_⟩
  · change (Ledger.accept _ entry).Accounts (q.ring.push entry).contents
    rw [Ring.contents_push sound.coherent]
    apply Ledger.Accounts.accept
    by_cases full : q.ring.count = capacity
    · rw [if_pos full,if_pos (isFull_iff.mpr full)]
      have first := Ring.contents_dropOldest (Ring.nonempty_of_full full)
      have accounts := sound.accounts
      rw [first] at accounts ⊢
      exact accounts.lose
    · rw [if_neg full,if_neg (mt isFull_iff.mp full)]
      exact sound.accounts
  · change (if q.ring.isFull then q.drops.increment else q.drops).Counts
    split
    · exact sound.counts.increment
    · exact sound.counts

theorem pop_eq_some {entry : α} {rest : LogQueue α capacity} (popped : q.pop = some (entry,rest)) :
    q.ring.pop = some (entry,rest.ring) ∧ rest.drops = q.drops ∧ rest.ledger = q.ledger.deliver entry := by
  obtain ⟨⟨first,ring⟩,ofRing,same⟩ := Option.map_eq_some_iff.mp popped
  obtain ⟨rfl,rfl⟩ := Prod.mk.inj same
  exact ⟨ofRing,rfl,rfl⟩

theorem Sound.pop {entry : α} {rest : LogQueue α capacity} (sound : q.Sound)
    (popped : q.pop = some (entry,rest)) : rest.Sound := by
  obtain ⟨ofRing,drops,ledger⟩ := pop_eq_some popped
  refine ⟨sound.coherent.pop ofRing,?_,?_⟩
  · have accounts := sound.accounts
    rw [Ring.contents_pop ofRing] at accounts
    rw [ledger]
    exact accounts.deliver
  · rw [drops]
    exact sound.counts

theorem Sound.reject (sound : q.Sound) : q.reject.Sound := ⟨sound.coherent,sound.accounts,sound.counts.increment⟩

theorem Sound.takeDrops (sound : q.Sound) : q.takeDrops.Sound :=
  ⟨sound.coherent,sound.accounts,sound.counts.take⟩

/-- What the drop counter was incremented for without an overwrite. -/
def Rejects (q : LogQueue α capacity) (rejected : Nat) : Prop :=
  q.drops.increments = q.ledger.overwritten + rejected

theorem Rejects.accept {rejected : Nat} (rejects : q.Rejects rejected) (entry : α) :
    (q.accept entry).Rejects rejected := by
  unfold Rejects at rejects ⊢
  simp only [LogQueue.accept,Ledger.accept]
  split
  · rw [TakenCounter.increments_increment,rejects]
    simp only [Ledger.lose]
    omega
  · exact rejects

theorem Rejects.pop {rejected : Nat} {entry : α} {rest : LogQueue α capacity} (rejects : q.Rejects rejected)
    (popped : q.pop = some (entry,rest)) : rest.Rejects rejected := by
  obtain ⟨_,drops,ledger⟩ := pop_eq_some popped
  unfold Rejects
  rw [drops,ledger]
  exact rejects

theorem Rejects.reject {rejected : Nat} (rejects : q.Rejects rejected) : q.reject.Rejects (rejected + 1) := by
  unfold Rejects at rejects ⊢
  simp only [LogQueue.reject]
  rw [TakenCounter.increments_increment,rejects,Nat.add_assoc]

theorem Rejects.takeDrops {rejected : Nat} (rejects : q.Rejects rejected) : q.takeDrops.Rejects rejected := by
  unfold Rejects at rejects ⊢
  simp only [LogQueue.takeDrops]
  rw [TakenCounter.increments_take,rejects]

/-- The books show these accepted entries and this many rejected ones. -/
structure Booked (q : LogQueue α capacity) (accepted : List α) (rejected : Nat) : Prop where
  sound : q.Sound
  accepted : q.ledger.accepted = accepted
  rejects : q.Rejects rejected

section Booked

variable {accepted : List α} {rejected : Nat}

theorem Booked.accept (booked : q.Booked accepted rejected) (entry : α) :
    (q.accept entry).Booked (accepted ++ [entry]) rejected := by
  refine ⟨booked.sound.accept entry,?_,booked.rejects.accept entry⟩
  rw [← booked.accepted]
  simp only [LogQueue.accept,Ledger.accept]
  split <;> rfl

theorem Booked.pop {entry : α} {rest : LogQueue α capacity} (booked : q.Booked accepted rejected)
    (popped : q.pop = some (entry,rest)) : rest.Booked accepted rejected := by
  refine ⟨booked.sound.pop popped,?_,booked.rejects.pop popped⟩
  rw [(pop_eq_some popped).2.2,← booked.accepted]
  rfl

theorem Booked.reject (booked : q.Booked accepted rejected) : q.reject.Booked accepted (rejected + 1) :=
  ⟨booked.sound.reject,booked.accepted,booked.rejects.reject⟩

theorem Booked.takeDrops (booked : q.Booked accepted rejected) : q.takeDrops.Booked accepted rejected :=
  ⟨booked.sound.takeDrops,booked.accepted,booked.rejects.takeDrops⟩

end Booked

/-- A queue is a first-in first-out buffer of the last entries, and each accepted entry is popped,
counted as overwritten or still queued. The counter's values add up unless one of them wrapped. -/
structure Accounted (q : LogQueue α capacity) (accepted : List α) (rejected : Nat) : Prop where
  count_le : q.ring.count ≤ capacity
  head : q.ring.head.val = (q.ring.tail + q.ring.count) % capacity
  queued : q.ring.contents = accepted.drop (accepted.length - q.ring.count)
  order : (q.ledger.popped ++ q.ring.contents).Sublist accepted
  balance : accepted.length = q.ledger.popped.length + q.ledger.overwritten + q.ring.count
  dropped : q.drops.increments = q.ledger.overwritten + rejected
  total : q.drops.total = q.ledger.overwritten + rejected ↔ q.drops.Unwrapped

theorem Booked.accounted {accepted : List α} {rejected : Nat} (booked : q.Booked accepted rejected) :
    q.Accounted accepted rejected := by
  obtain ⟨sound,rfl,rejects⟩ := booked
  have queued := sound.accounts.queued_eq
  have balance := sound.accounts.balance
  rw [Ring.contents_length] at queued balance
  refine ⟨sound.coherent.count_le,sound.coherent.head,queued,sound.accounts.order,balance,rejects,?_⟩
  rw [← rejects]
  exact sound.counts.total_eq_iff

end LogQueue

inductive QueueEvent where
  | queueLine (path : Option CString) (line : Option Bytes)
  | popLine
  | queueBlob (path : Option CString) (data : Option Bytes)
  | popBlob (kind : BlobQueueKind)
  | takeDropCounts

namespace QueueEvent

def lineEntry : QueueEvent → Option QueuedLine
  | .queueLine (some path) (some line) => if path.length = 0 ∨ line.length = 0 then none else some (.of path line)
  | _ => none

def isRejectedBlob : QueueEvent → Bool
  | .queueBlob (some path) (some data) =>
    path.length = 0 ∨ data.length = 0 ∨ data.length > maxQueuedBlobLength
  | .queueBlob _ _ => true
  | _ => false

def blobEntry (kind : BlobQueueKind) : QueueEvent → Option QueuedBlob
  | .queueBlob (some path) (some data) =>
    if path.length = 0 ∨ data.length = 0 ∨ data.length > maxQueuedBlobLength then none
    else if getBlobQueueKind path = kind then some (.of path data)
    else none
  | _ => none

end QueueEvent

namespace Queues

def step (s : Queues) : QueueEvent → Queues
  | .queueLine path line => (s.queueLineLocked path line).2
  | .popLine => (s.popLineLocked.map fun popped => popped.2).getD s
  | .queueBlob path data => (s.queueBlobLocked path data).2
  | .popBlob kind => ((s.popBlobLocked kind).map fun popped => popped.2).getD s
  | .takeDropCounts => s.takeDropCounts

def run (events : List QueueEvent) : Queues := events.foldl step initial

theorem run_concat (events : List QueueEvent) (event : QueueEvent) :
    run (events ++ [event]) = (run events).step event := List.foldl_append ..

/-- The books of all queues show what these calls brought. -/
structure Booked (s : Queues) (events : List QueueEvent) : Prop where
  lines : s.lines.Booked (events.filterMap QueueEvent.lineEntry) 0
  blobs : ∀ kind, (s.blobs kind).Booked (events.filterMap (QueueEvent.blobEntry kind))
    (if kind = .generic then events.countP QueueEvent.isRejectedBlob else 0)

theorem booked_initial : initial.Booked [] := by
  refine ⟨⟨LogQueue.sound_empty _ _,rfl,rfl⟩,fun kind => ⟨LogQueue.sound_empty _ _,rfl,?_⟩⟩
  cases kind <;> rfl

@[simp] theorem setBlobs_lines (s : Queues) (kind : BlobQueueKind)
    (q : LogQueue QueuedBlob binaryQueueEntryCapacity) : (s.setBlobs kind q).lines = s.lines := rfl

@[simp] theorem setBlobs_same (s : Queues) (kind : BlobQueueKind)
    (q : LogQueue QueuedBlob binaryQueueEntryCapacity) : (s.setBlobs kind q).blobs kind = q := by
  simp [setBlobs]

@[simp] theorem setBlobs_other (s : Queues) {kind other : BlobQueueKind} (apart : other ≠ kind)
    (q : LogQueue QueuedBlob binaryQueueEntryCapacity) : (s.setBlobs kind q).blobs other = s.blobs other := by
  simp [setBlobs,apart]

section Steps

variable {s : Queues} {events : List QueueEvent}

/-- A call that brings nothing and leaves the queues alone. -/
theorem Booked.idle (booked : s.Booked events) {event : QueueEvent} (noLine : event.lineEntry = none)
    (noBlob : ∀ kind, event.blobEntry kind = none) (kept : event.isRejectedBlob = false) :
    s.Booked (events ++ [event]) := by
  refine ⟨?_,fun kind => ?_⟩
  · simpa [List.filterMap_append,noLine] using booked.lines
  · simpa [List.filterMap_append,noBlob kind,List.countP_append,kept] using booked.blobs kind

theorem booked_queueLine (booked : s.Booked events) (path : Option CString) (line : Option Bytes) :
    (s.step (.queueLine path line)).Booked (events ++ [.queueLine path line]) := by
  cases path with
  | none => exact booked.idle rfl (fun _ => rfl) rfl
  | some path =>
  cases line with
  | none => exact booked.idle rfl (fun _ => rfl) rfl
  | some line =>
  by_cases bad : path.length = 0 ∨ line.length = 0
  · have unchanged : s.step (.queueLine (some path) (some line)) = s := by
      simp only [step,queueLineLocked,if_pos bad]
    rw [unchanged]
    exact booked.idle (if_pos bad) (fun _ => rfl) rfl
  · have changed : s.step (.queueLine (some path) (some line)) = { s with lines := s.lines.accept (.of path line) } := by
      simp only [step,queueLineLocked,if_neg bad]
    have entry : QueueEvent.lineEntry (.queueLine (some path) (some line)) = some (.of path line) := if_neg bad
    rw [changed]
    refine ⟨?_,fun kind => ?_⟩
    · simpa [List.filterMap_append,entry] using booked.lines.accept (.of path line)
    · have noBlob : QueueEvent.blobEntry kind (.queueLine (some path) (some line)) = none := rfl
      have kept : QueueEvent.isRejectedBlob (.queueLine (some path) (some line)) = false := rfl
      simpa [List.filterMap_append,List.countP_append,noBlob,kept] using booked.blobs kind

theorem booked_rejectBlob (booked : s.Booked events) {event : QueueEvent} (noLine : event.lineEntry = none)
    (noBlob : ∀ kind, event.blobEntry kind = none) (rejected : event.isRejectedBlob = true) :
    (s.setBlobs .generic (s.blobs .generic).reject).Booked (events ++ [event]) := by
  refine ⟨?_,fun kind => ?_⟩
  · simpa [List.filterMap_append,noLine] using booked.lines
  · by_cases generic : kind = .generic
    · subst generic
      simpa [List.filterMap_append,noBlob,List.countP_append,rejected] using (booked.blobs .generic).reject
    · simpa [List.filterMap_append,noBlob,generic] using booked.blobs kind

theorem booked_queueBlob (booked : s.Booked events) (path : Option CString) (data : Option Bytes) :
    (s.step (.queueBlob path data)).Booked (events ++ [.queueBlob path data]) := by
  cases path with
  | none => exact booked_rejectBlob booked rfl (fun _ => rfl) rfl
  | some path =>
  cases data with
  | none => exact booked_rejectBlob booked rfl (fun _ => rfl) rfl
  | some data =>
  by_cases bad : path.length = 0 ∨ data.length = 0 ∨ data.length > maxQueuedBlobLength
  · have changed : s.step (.queueBlob (some path) (some data)) =
        s.setBlobs .generic (s.blobs .generic).reject := by
      simp only [step,queueBlobLocked,if_pos bad]
    rw [changed]
    exact booked_rejectBlob booked rfl (fun _ => if_pos bad) (decide_eq_true bad)
  · have changed : s.step (.queueBlob (some path) (some data)) =
        s.setBlobs (getBlobQueueKind path) ((s.blobs (getBlobQueueKind path)).accept (.of path data)) := by
      simp only [step,queueBlobLocked,if_neg bad]
    have kept : QueueEvent.isRejectedBlob (.queueBlob (some path) (some data)) = false := decide_eq_false bad
    have entry : ∀ kind, QueueEvent.blobEntry kind (.queueBlob (some path) (some data)) =
        if getBlobQueueKind path = kind then some (.of path data) else none := fun _ => if_neg bad
    rw [changed]
    refine ⟨?_,fun kind => ?_⟩
    · have noLine : QueueEvent.lineEntry (.queueBlob (some path) (some data)) = none := rfl
      simpa [List.filterMap_append,noLine] using booked.lines
    · by_cases own : kind = getBlobQueueKind path
      · subst own
        simpa [List.filterMap_append,List.countP_append,kept,entry] using
          (booked.blobs (getBlobQueueKind path)).accept (.of path data)
      · have other : getBlobQueueKind path ≠ kind := Ne.symm own
        simpa [List.filterMap_append,List.countP_append,kept,entry,own,other] using booked.blobs kind

theorem booked_popLine (booked : s.Booked events) : (s.step .popLine).Booked (events ++ [.popLine]) := by
  rw [step,popLineLocked]
  cases popped : s.lines.pop with
  | none => exact booked.idle rfl (fun _ => rfl) rfl
  | some taken =>
    have after : Booked { s with lines := taken.2 } events := ⟨booked.lines.pop popped,booked.blobs⟩
    exact after.idle rfl (fun _ => rfl) rfl

theorem booked_popBlob (booked : s.Booked events) (kind : BlobQueueKind) :
    (s.step (.popBlob kind)).Booked (events ++ [.popBlob kind]) := by
  rw [step,popBlobLocked]
  cases popped : (s.blobs kind).pop with
  | none => exact booked.idle rfl (fun _ => rfl) rfl
  | some taken =>
    have after : (s.setBlobs kind taken.2).Booked events := by
      refine ⟨booked.lines,fun other => ?_⟩
      by_cases own : other = kind
      · subst own
        rw [setBlobs_same]
        exact (booked.blobs other).pop popped
      · rw [setBlobs_other s own]
        exact booked.blobs other
    exact after.idle rfl (fun _ => rfl) rfl

theorem booked_takeDropCounts (booked : s.Booked events) :
    (s.step .takeDropCounts).Booked (events ++ [.takeDropCounts]) := by
  have after : s.takeDropCounts.Booked events :=
    ⟨booked.lines.takeDrops,fun kind => (booked.blobs kind).takeDrops⟩
  exact after.idle rfl (fun _ => rfl) rfl

end Steps

theorem booked_step {s : Queues} {events : List QueueEvent} (booked : s.Booked events) (event : QueueEvent) :
    (s.step event).Booked (events ++ [event]) := by
  cases event with
  | queueLine path line => exact booked_queueLine booked path line
  | popLine => exact booked_popLine booked
  | queueBlob path data => exact booked_queueBlob booked path data
  | popBlob kind => exact booked_popBlob booked kind
  | takeDropCounts => exact booked_takeDropCounts booked

theorem booked_run (events : List QueueEvent) : (run events).Booked events := by
  induction events using List.reverseRecOn with
  | nil => exact booked_initial
  | append_singleton events event ih =>
    rw [run_concat]
    exact booked_step ih event

end Queues

/-- Every queue is first in, first out, and accounts for each accepted entry, whatever the order
of the calls. -/
theorem queues_accounted (events : List QueueEvent) :
    (Queues.run events).lines.Accounted (events.filterMap QueueEvent.lineEntry) 0 ∧
      ∀ kind, ((Queues.run events).blobs kind).Accounted (events.filterMap (QueueEvent.blobEntry kind))
        (if kind = .generic then events.countP QueueEvent.isRejectedBlob else 0) :=
  ⟨(Queues.booked_run events).lines.accounted,fun kind => ((Queues.booked_run events).blobs kind).accounted⟩

/-- Without a pop or a reading of the counters, what is left of a queue fits the counter's width and
the ring. -/
theorem overfull_lines (event : QueueEvent) (n : Nat)
    (line : ∃ path line, event = .queueLine path line) :
    (Queues.run (List.replicate n event)).lines.ledger.popped.length +
      (Queues.run (List.replicate n event)).lines.drops.total +
      (Queues.run (List.replicate n event)).lines.ring.count < 2 ^ 64 + queueEntryCapacity := by
  obtain ⟨path,line,rfl⟩ := line
  have untouched : (Queues.run (List.replicate n (.queueLine path line))).lines.ledger.popped = [] ∧
      (Queues.run (List.replicate n (.queueLine path line))).lines.drops.taken = [] := by
    induction n with
    | zero => exact ⟨rfl,rfl⟩
    | succ n ih =>
      rw [List.replicate_succ',Queues.run_concat]
      generalize Queues.run (List.replicate n (.queueLine path line)) = s at ih ⊢
      simp only [Queues.step,Queues.queueLineLocked]
      split
      · split
        · exact ih
        · simp only [LogQueue.accept]
          split <;> exact ih
      · exact ih
  have small := (Queues.booked_run (List.replicate n (.queueLine path line))).lines.sound.coherent.count_le
  have value := (Queues.run (List.replicate n (.queueLine path line))).lines.drops.value.toNat_lt
  rw [TakenCounter.total,untouched.1,untouched.2]
  simp only [List.length_nil,List.map_nil,List.sum_nil]
  omega

/-- The counter wraps when `2 ^ 64` lines are overwritten before it is read. -/
theorem dropCount_wraps :
    ¬∀ events : List QueueEvent, (events.filterMap QueueEvent.lineEntry).length =
      (Queues.run events).lines.ledger.popped.length + (Queues.run events).lines.drops.total +
        (Queues.run events).lines.ring.count := by
  intro balanced
  have most := overfull_lines (.queueLine (some ['p']) (some [10])) (2 ^ 64 + queueEntryCapacity) ⟨_,_,rfl⟩
  have entry : QueueEvent.lineEntry (.queueLine (some ['p']) (some [10])) = some (.of ['p'] [10]) := rfl
  rw [← balanced,List.filterMap_replicate_of_some entry,List.length_replicate] at most
  exact Nat.lt_irrefl _ most

end NxReverse.Probe
