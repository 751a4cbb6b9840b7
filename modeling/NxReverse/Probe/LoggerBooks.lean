import NxReverse.Probe.Logger

/-! What the logger's queues, its flush thread and its files hold in any state it reaches. -/
namespace NxReverse.Probe

open Text Words

/-- One locked section hands over these writes: it pops their entries and accepts none. -/
structure Queues.Delivers (before after : Queues) (writes : List Write) : Prop where
  calls : ∃ calls : List QueueEvent, after = calls.foldl Queues.step before
  lines : after.lines.ledger.popped = before.lines.ledger.popped ++ writes.filterMap Write.line?
  linesAccepted : after.lines.ledger.accepted = before.lines.ledger.accepted
  blobs : ∀ kind, (after.blobs kind).ledger.popped =
    (before.blobs kind).ledger.popped ++ writes.filterMap (Write.blob? kind)
  blobsAccepted : ∀ kind, (after.blobs kind).ledger.accepted = (before.blobs kind).ledger.accepted

namespace Queues.Delivers

variable {first second third : Queues} {earlier later : List Write}

theorem refl (s : Queues) : s.Delivers s [] :=
  ⟨⟨[],rfl⟩,by simp,rfl,fun _ => by simp,fun _ => rfl⟩

theorem trans (left : first.Delivers second earlier) (right : second.Delivers third later) :
    first.Delivers third (earlier ++ later) := by
  obtain ⟨leftCalls,rfl⟩ := left.calls
  obtain ⟨rightCalls,rfl⟩ := right.calls
  refine ⟨⟨leftCalls ++ rightCalls,by rw [List.foldl_append]⟩,?_,?_,fun kind => ?_,fun kind => ?_⟩
  · rw [right.lines,left.lines,List.filterMap_append,List.append_assoc]
  · rw [right.linesAccepted,left.linesAccepted]
  · rw [right.blobs,left.blobs,List.filterMap_append,List.append_assoc]
  · rw [right.blobsAccepted,left.blobsAccepted]

theorem ofTakeDropCounts (s : Queues) : s.Delivers s.takeDropCounts [] :=
  ⟨⟨[.takeDropCounts],rfl⟩,by simp [takeDropCounts,LogQueue.takeDrops],rfl,
    fun _ => by simp [takeDropCounts,LogQueue.takeDrops],fun _ => rfl⟩

theorem ofPopLine {s rest : Queues} {entry : QueuedLine} (popped : s.popLineLocked = some (entry,rest)) :
    s.Delivers rest [.line entry] := by
  have call : rest = s.step .popLine := by rw [step,popped]; rfl
  obtain ⟨⟨_,lines⟩,ofQueue,same⟩ := Option.map_eq_some_iff.mp popped
  obtain ⟨rfl,rfl⟩ := Prod.mk.inj same
  obtain ⟨_,_,ledger⟩ := LogQueue.pop_eq_some ofQueue
  refine ⟨⟨[.popLine],call⟩,?_,?_,fun kind => ?_,fun kind => rfl⟩
  · simp [ledger,Ledger.deliver,Write.line?]
  · simp [ledger,Ledger.deliver]
  · simp [Write.blob?]

theorem ofPopBlob {s rest : Queues} {kind : BlobQueueKind} {entry : QueuedBlob}
    (popped : s.popBlobLocked kind = some (entry,rest)) : s.Delivers rest [.blob kind entry] := by
  have call : rest = s.step (.popBlob kind) := by rw [step,popped]; rfl
  obtain ⟨⟨_,q⟩,ofQueue,same⟩ := Option.map_eq_some_iff.mp popped
  obtain ⟨rfl,rfl⟩ := Prod.mk.inj same
  obtain ⟨_,_,ledger⟩ := LogQueue.pop_eq_some ofQueue
  refine ⟨⟨[.popBlob kind],call⟩,?_,rfl,fun other => ?_,fun other => ?_⟩
  · simp [Write.line?]
  all_goals
    by_cases own : other = kind
    · subst own
      simp [ledger,Ledger.deliver,Write.blob?]
    · simp [Write.blob?,own,Ne.symm own]

end Queues.Delivers

theorem popLines_delivers (n : Nat) (s : Queues) : s.Delivers (popLines n s).2 (popLines n s).1 := by
  induction n generalizing s with
  | zero => exact .refl s
  | succ n ih =>
    rw [popLines]
    split
    · exact .refl s
    · rename_i entry rest popped
      exact (Queues.Delivers.ofPopLine popped).trans (ih rest)

theorem popBlobs_delivers (kind : BlobQueueKind) (n : Nat) (s : Queues) :
    s.Delivers (popBlobs kind n s).2 (popBlobs kind n s).1 := by
  induction n generalizing s with
  | zero => exact .refl s
  | succ n ih =>
    rw [popBlobs]
    split
    · exact .refl s
    · rename_i entry rest popped
      exact (Queues.Delivers.ofPopBlob popped).trans (ih rest)

theorem popAllBlobs_delivers (kinds : List BlobQueueKind) (s : Queues) :
    s.Delivers (popAllBlobs kinds s).2 (popAllBlobs kinds s).1 := by
  induction kinds generalizing s with
  | nil => exact .refl s
  | cons kind kinds ih => exact (popBlobs_delivers kind _ s).trans (ih _)

theorem takeBatch_delivers (s : Queues) : s.Delivers (takeBatch s).2 (takeBatch s).1 :=
  ((Queues.Delivers.ofTakeDropCounts s).trans (popLines_delivers _ _)).trans (popAllBlobs_delivers _ _)

theorem emitPendingDropWarnings_noEntry (s : Queues) :
    (emitPendingDropWarnings s).filterMap Write.line? = [] ∧
      ∀ kind, (emitPendingDropWarnings s).filterMap (Write.blob? kind) = [] := by
  refine ⟨?_,fun kind => ?_⟩
  all_goals
    rw [emitPendingDropWarnings,List.filterMap_map]
    exact List.filterMap_eq_nil_iff.mpr fun _ _ => rfl

/-- The line that an event hands to the queue, if the logger takes it. -/
def LoggerEvent.appendedLine : LoggerEvent → Option (CString × Bytes)
  | .initializeLogger => some (logFilePath,bootBanner)
  | .appendLine (some path) (some line) => some (path,line)
  | .log tick message => some (logFilePath,Logger.logLine tick message)
  | _ => none

def LoggerEvent.appendedBlob : LoggerEvent → Option (CString × Bytes)
  | .appendBytes (some path) (some data) => some (path,data)
  | _ => none

def offeredBlobs (kind : BlobQueueKind) (events : List LoggerEvent) : List (CString × Bytes) :=
  (events.filterMap LoggerEvent.appendedBlob).filter fun r =>
    getBlobQueueKind r.1 == kind && decide (r.2.length ≤ maxQueuedBlobLength)

theorem offeredBlobs_append (kind : BlobQueueKind) (first second : List LoggerEvent) :
    offeredBlobs kind (first ++ second) = offeredBlobs kind first ++ offeredBlobs kind second := by
  rw [offeredBlobs,List.filterMap_append,List.filter_append]
  rfl

namespace Logger

/-- All that was popped: what the flush thread has tried to write and what it still has to. -/
def taken (s : Logger) : List Write := s.attempts.map (fun a => a.write) ++ s.flushThread.pending

def written (s : Logger) (path : CString) : List WriteAttempt :=
  s.attempts.filter fun a => a.appended && a.write.path == path

structure Books (s : Logger) (events : List LoggerEvent) : Prop where
  calls : ∃ calls, s.queues = Queues.run calls
  lines : s.queues.lines.ledger.popped = s.taken.filterMap Write.line?
  blobs : ∀ kind, (s.queues.blobs kind).ledger.popped = s.taken.filterMap (Write.blob? kind)
  linesAccepted : s.queues.lines.ledger.accepted.Sublist
    ((events.filterMap LoggerEvent.appendedLine).map fun r => QueuedLine.of r.1 r.2)
  blobsAccepted : ∀ kind, (s.queues.blobs kind).ledger.accepted.Sublist
    ((offeredBlobs kind events).map fun r => QueuedBlob.of r.1 r.2)
  files : ∀ path, s.files path = (s.written path).flatMap WriteAttempt.data
  attempts : ∀ a ∈ s.attempts, ∃ tick, a.data = a.write.data tick
  stopped : s.flushThreadStarted = false → s.flushThread = .notStarted ∨ s.flushThread = .exited

theorem books_initial : initial.Books [] :=
  ⟨⟨[],rfl⟩,rfl,fun _ => rfl,List.Sublist.refl [],fun _ => List.Sublist.refl [],fun _ => rfl,nofun,fun _ => .inl rfl⟩

section Steps

variable {s after : Logger} {events : List LoggerEvent}

theorem Books.later (books : s.Books events) (event : LoggerEvent) : s.Books (events ++ [event]) := by
  refine ⟨books.calls,books.lines,books.blobs,?_,fun kind => ?_,books.files,books.attempts,books.stopped⟩
  · rw [List.filterMap_append,List.map_append]
    exact books.linesAccepted.trans (List.sublist_append_left _ _)
  · rw [offeredBlobs_append,List.map_append]
    exact (books.blobsAccepted kind).trans (List.sublist_append_left _ _)

/-- A step that touches neither the queues nor the files nor the writes. -/
theorem Books.control (books : s.Books events) (queues : after.queues = s.queues) (files : after.files = s.files)
    (attempts : after.attempts = s.attempts) (pending : after.flushThread.pending = s.flushThread.pending)
    (stopped : after.flushThreadStarted = false → after.flushThread = .notStarted ∨ after.flushThread = .exited) :
    after.Books events := by
  have taken : after.taken = s.taken := by rw [Logger.taken,Logger.taken,attempts,pending]
  have written : ∀ path, after.written path = s.written path := fun path => by
    rw [Logger.written,Logger.written,attempts]
  refine ⟨?_,?_,fun kind => ?_,?_,fun kind => ?_,fun path => ?_,?_,stopped⟩
  · rw [queues]
    exact books.calls
  · rw [queues,taken]
    exact books.lines
  · rw [queues,taken]
    exact books.blobs kind
  · rw [queues]
    exact books.linesAccepted
  · rw [queues]
    exact books.blobsAccepted kind
  · rw [files,written]
    exact books.files path
  · rw [attempts]
    exact books.attempts

def acceptLine (s : Logger) (path : CString) (line : Bytes) : Logger :=
  { s with queues := { s.queues with lines := s.queues.lines.accept (.of path line) } }

theorem queueLine_eq (s : Logger) {path : CString} {line : Bytes} (pathNonempty : path.length ≠ 0)
    (lineNonempty : line.length ≠ 0) : s.queueLine path line = s.acceptLine path line := by
  have good : ¬(path.length = 0 ∨ line.length = 0) := by
    rintro (empty | empty)
    · exact pathNonempty empty
    · exact lineNonempty empty
  simp only [queueLine,Queues.queueLineLocked,if_neg good,acceptLine]

theorem accept_accepted {α : Type} {capacity : Nat} (q : LogQueue α capacity) (entry : α) :
    (q.accept entry).ledger.accepted = q.ledger.accepted ++ [entry] ∧
      (q.accept entry).ledger.popped = q.ledger.popped := by
  simp only [LogQueue.accept,Ledger.accept]
  split <;> exact ⟨rfl,rfl⟩

theorem Books.acceptLine (books : s.Books events) {event : LoggerEvent} {path : CString} {line : Bytes}
    (appended : event.appendedLine = some (path,line)) (pathNonempty : path.length ≠ 0)
    (lineNonempty : line.length ≠ 0) : (s.acceptLine path line).Books (events ++ [event]) := by
  have later := books.later event
  obtain ⟨accepted,popped⟩ := accept_accepted s.queues.lines (.of path line)
  refine ⟨?_,?_,later.blobs,?_,later.blobsAccepted,later.files,later.attempts,later.stopped⟩
  · obtain ⟨calls,same⟩ := books.calls
    refine ⟨calls ++ [.queueLine (some path) (some line)],?_⟩
    have queued := congrArg Logger.queues (s.queueLine_eq pathNonempty lineNonempty)
    rw [Queues.run_concat,← same]
    exact queued.symm
  · exact popped.trans books.lines
  · have grown : (events ++ [event]).filterMap LoggerEvent.appendedLine =
        events.filterMap LoggerEvent.appendedLine ++ [(path,line)] := by
      simp [List.filterMap_append,appended]
    rw [grown,List.map_append]
    have extended := books.linesAccepted.append (List.Sublist.refl [QueuedLine.of path line])
    rw [← accepted] at extended
    exact extended

/-- A call for a record pops nothing and adds at most the record to the queue of its family. -/
theorem queueBlob_ledger (q : Queues) (path : CString) (data : Bytes) (kind : BlobQueueKind) :
    (((q.queueBlobLocked (some path) (some data)).2).blobs kind).ledger.popped = (q.blobs kind).ledger.popped ∧
      ((((q.queueBlobLocked (some path) (some data)).2).blobs kind).ledger.accepted = (q.blobs kind).ledger.accepted ∨
        (getBlobQueueKind path = kind ∧ data.length ≤ maxQueuedBlobLength) ∧
          (((q.queueBlobLocked (some path) (some data)).2).blobs kind).ledger.accepted =
            (q.blobs kind).ledger.accepted ++ [.of path data]) := by
  unfold Queues.queueBlobLocked
  dsimp only
  split
  · by_cases generic : kind = .generic
    · subst generic
      rw [Queues.setBlobs_same]
      exact ⟨rfl,.inl rfl⟩
    · rw [Queues.setBlobs_other q generic]
      exact ⟨rfl,.inl rfl⟩
  · rename_i good
    rw [not_or,not_or,Nat.not_lt] at good
    by_cases own : kind = getBlobQueueKind path
    · subst own
      obtain ⟨accepted,popped⟩ := accept_accepted (q.blobs (getBlobQueueKind path)) (.of path data)
      rw [Queues.setBlobs_same]
      exact ⟨popped,.inr ⟨⟨rfl,good.2.2⟩,accepted⟩⟩
    · rw [Queues.setBlobs_other q own]
      exact ⟨rfl,.inl rfl⟩

theorem queueBlob_lines (q : Queues) (path : Option CString) (data : Option Bytes) :
    (q.queueBlobLocked path data).2.lines = q.lines := by
  unfold Queues.queueBlobLocked
  dsimp only
  split
  · split <;> rfl
  · rfl

theorem Books.queueBlob (books : s.Books events) (path : CString) (data : Bytes) :
    Books { s with queues := (s.queues.queueBlobLocked (some path) (some data)).2 }
      (events ++ [.appendBytes (some path) (some data)]) := by
  have later := books.later (.appendBytes (some path) (some data))
  have lines := queueBlob_lines s.queues (some path) (some data)
  refine ⟨?_,?_,fun kind => ?_,?_,fun kind => ?_,later.files,later.attempts,later.stopped⟩
  · obtain ⟨calls,same⟩ := books.calls
    refine ⟨calls ++ [.queueBlob (some path) (some data)],?_⟩
    rw [Queues.run_concat,← same]
    rfl
  · change ((s.queues.queueBlobLocked (some path) (some data)).2.lines).ledger.popped = _
    rw [lines]
    exact books.lines
  · exact (queueBlob_ledger s.queues path data kind).1.trans (books.blobs kind)
  · change ((s.queues.queueBlobLocked (some path) (some data)).2.lines).ledger.accepted.Sublist _
    rw [lines]
    exact later.linesAccepted
  · change (((s.queues.queueBlobLocked (some path) (some data)).2).blobs kind).ledger.accepted.Sublist _
    rcases (queueBlob_ledger s.queues path data kind).2 with same | ⟨⟨family,fits⟩,grown⟩
    · rw [same]
      exact later.blobsAccepted kind
    · have offered : offeredBlobs kind [.appendBytes (some path) (some data)] = [(path,data)] := by
        simp [offeredBlobs,LoggerEvent.appendedBlob,family,fits]
      rw [grown,offeredBlobs_append,offered,List.map_append]
      exact (books.blobsAccepted kind).append (List.Sublist.refl [QueuedBlob.of path data])

/-- The locked part of a pass moves entries from the queues to the flush thread. -/
theorem Books.takeBatch (books : s.Books events) (at_lock : s.flushThread = .flushing) (answers : WriteAnswers) :
    (s.flushStep answers).Books events := by
  have delivers := takeBatch_delivers s.queues
  obtain ⟨noLine,noBlob⟩ := emitPendingDropWarnings_noEntry s.queues
  have before : s.taken = s.attempts.map fun a => a.write := by
    rw [taken,at_lock]
    exact List.append_nil _
  have changed : s.flushStep answers = { s with
      queues := (Probe.takeBatch s.queues).2
      flushThread := .writing (emitPendingDropWarnings s.queues ++ (Probe.takeBatch s.queues).1)
        (Probe.takeBatch s.queues).1.isEmpty } := by
    rw [flushStep,at_lock]
  rw [changed]
  generalize Probe.takeBatch s.queues = batch at delivers ⊢
  refine ⟨?_,?_,fun kind => ?_,?_,fun kind => ?_,books.files,books.attempts,?_⟩
  · obtain ⟨calls,same⟩ := books.calls
    obtain ⟨more,after⟩ := delivers.calls
    refine ⟨calls ++ more,after.trans ?_⟩
    rw [same]
    exact (List.foldl_append ..).symm
  · apply delivers.lines.trans
    rw [books.lines,before]
    simp [taken,FlushThread.pending,List.filterMap_append,noLine]
  · apply (delivers.blobs kind).trans
    rw [books.blobs,before]
    simp [taken,FlushThread.pending,List.filterMap_append,noBlob]
  · dsimp only
    rw [delivers.linesAccepted]
    exact books.linesAccepted
  · dsimp only
    rw [delivers.blobsAccepted]
    exact books.blobsAccepted kind
  · intro notStarted
    rcases books.stopped notStarted with other | other
    · rw [other] at at_lock
      cases at_lock
    · rw [other] at at_lock
      cases at_lock

/-- A write is taken off the thread's list and tried once. -/
theorem Books.writeNext (books : s.Books events) {write : Write} {pending : List Write} {empty : Bool}
    (next : s.flushThread = .writing (write :: pending) empty) (answers : WriteAnswers) :
    (s.flushStep answers).Books events := by
  have changed : s.flushStep answers = { s.writeNext answers write with flushThread := .writing pending empty } := by
    rw [flushStep,next]
  have same : Logger.taken { s.writeNext answers write with flushThread := .writing pending empty } = s.taken := by
    simp [taken,Logger.writeNext,next,FlushThread.pending]
  rw [changed]
  refine ⟨books.calls,?_,fun kind => ?_,books.linesAccepted,books.blobsAccepted,fun path => ?_,?_,?_⟩
  · rw [same]
    exact books.lines
  · rw [same]
    exact books.blobs kind
  · have old := books.files path
    simp only [written,Logger.writeNext] at old ⊢
    rw [List.filter_append,List.flatMap_append,← old]
    split
    · rename_i appended
      by_cases own : path = write.path
      · subst own
        simp [appended]
      · simp [appended,own,Ne.symm own]
    · rename_i failed
      simp [failed]
  · intro a member
    rcases List.mem_append.mp member with before | last
    · exact books.attempts a before
    · rw [List.mem_singleton.mp last]
      exact ⟨answers.tick,rfl⟩
  · intro notStarted
    rcases books.stopped notStarted with other | other
    · rw [other] at next
      cases next
    · rw [other] at next
      cases next

theorem Books.initializeLogger (books : s.Books events) :
    s.initializeLogger.Books (events ++ [.initializeLogger]) := by
  unfold Logger.initializeLogger
  split
  · exact books.later _
  rw [queueLine_eq _ (by decide) (by decide)]
  apply Books.acceptLine
  · unfold startFlushThread
    split
    · rename_i started
      exact books.control rfl rfl rfl rfl fun notStarted => books.stopped notStarted
    · rename_i notStarted
      have idle : s.flushThread.pending = [] := by
        rcases books.stopped (Bool.eq_false_iff.mpr notStarted) with thread | thread
        · rw [thread]; rfl
        · rw [thread]; rfl
      exact books.control rfl rfl rfl idle.symm nofun
  · rfl
  · decide
  · decide

theorem Books.appendLine (books : s.Books events) (path : Option CString) (line : Option Bytes) :
    (s.appendLine path line).Books (events ++ [.appendLine path line]) := by
  unfold Logger.appendLine
  split
  · rename_i path line
    split
    · exact books.later _
    rename_i nonempty
    rw [not_or] at nonempty
    split
    · exact books.later _
    rw [queueLine_eq s nonempty.1 nonempty.2]
    exact books.acceptLine rfl nonempty.1 nonempty.2
  · exact books.later _

theorem Books.appendBytes (books : s.Books events) (path : Option CString) (data : Option Bytes) :
    (s.appendBytes path data).Books (events ++ [.appendBytes path data]) := by
  unfold Logger.appendBytes
  split
  · split
    · exact books.later _
    split
    · exact books.later _
    split
    · exact books.later _
    exact books.queueBlob _ _
  · exact books.later _

theorem logLine_ne_nil (tick : UInt64) (message : CString) : (logLine tick message).length ≠ 0 := by
  simp [logLine,textBytes,snprintf]

theorem Books.log (books : s.Books events) (tick : UInt64) (message : CString) :
    (s.log tick message).Books (events ++ [.log tick message]) := by
  unfold Logger.log
  split
  · exact books.later _
  split
  · exact books.later _
  rw [queueLine_eq s (by decide) (logLine_ne_nil tick message)]
  exact books.acceptLine rfl (by decide) (logLine_ne_nil tick message)

theorem Books.flushStep (books : s.Books events) (answers : WriteAnswers) : (s.flushStep answers).Books events := by
  have running : ∀ {thread}, s.flushThread = thread → thread ≠ .notStarted → thread ≠ .exited →
      s.flushThreadStarted ≠ false := by
    rintro thread here notNew notOver notStarted
    rcases books.stopped notStarted with other | other
    · exact notNew (here.symm.trans other)
    · exact notOver (here.symm.trans other)
  cases thread : s.flushThread with
  | notStarted =>
    rw [Logger.flushStep,thread]
    exact books
  | waiting =>
    have started := running thread nofun nofun
    rw [Logger.flushStep,thread]
    exact books.control rfl rfl rfl (by rw [thread]; rfl) fun notStarted => absurd notStarted started
  | flushing => exact books.takeBatch thread answers
  | writing pending empty =>
    cases pending with
    | cons write pending => exact books.writeNext thread answers
    | nil =>
      have started := running thread nofun nofun
      rw [Logger.flushStep,thread]
      refine books.control rfl rfl rfl ?_ fun notStarted => absurd notStarted started
      rw [thread]
      cases empty <;> rfl
  | checking =>
    have started := running thread nofun nofun
    rw [Logger.flushStep,thread]
    refine books.control rfl rfl rfl ?_ fun notStarted => absurd notStarted started
    rw [thread]
    dsimp only
    split <;> rfl
  | exited =>
    rw [Logger.flushStep,thread]
    exact books

theorem Books.shutdownStep (books : s.Books events) (caller : Nat) : (s.shutdownStep caller).Books events := by
  unfold Logger.shutdownStep
  split
  · split <;> exact books.control rfl rfl rfl rfl books.stopped
  · split <;> exact books.control rfl rfl rfl rfl books.stopped
  · exact books.control rfl rfl rfl rfl books.stopped
  · split
    · exact books
    · rename_i ended
      exact books.control rfl rfl rfl rfl fun _ => .inr (not_not.mp ended)

end Steps

theorem books_step {s : Logger} {events : List LoggerEvent} (books : s.Books events) (event : LoggerEvent) :
    (s.step event).Books (events ++ [event]) := by
  cases event with
  | initializeLogger => exact books.initializeLogger
  | appendLine path line => exact books.appendLine path line
  | appendBytes path data => exact books.appendBytes path data
  | log tick message => exact books.log tick message
  | flush answers => exact (books.flushStep answers).later _
  | shutdown caller => exact (books.shutdownStep caller).later _

theorem run_concat (events : List LoggerEvent) (event : LoggerEvent) :
    run (events ++ [event]) = (run events).step event := List.foldl_append ..

/-- The books are right after every run. -/
theorem books_run (events : List LoggerEvent) : (run events).Books events := by
  induction events using List.reverseRecOn with
  | nil => exact books_initial
  | append_singleton events event ih =>
    rw [run_concat]
    exact books_step ih event

/-- The lines that were tried come in the order they were appended. -/
theorem tried_lines (events : List LoggerEvent) :
    (((run events).attempts.map fun a => a.write).filterMap Write.line?).Sublist
      ((events.filterMap LoggerEvent.appendedLine).map fun r => QueuedLine.of r.1 r.2) := by
  have books := books_run events
  obtain ⟨calls,queues⟩ := books.calls
  have tried : (((run events).attempts.map fun a => a.write).filterMap Write.line?).Sublist
      (run events).queues.lines.ledger.popped := by
    rw [books.lines,taken,List.filterMap_append]
    exact List.sublist_append_left _ _
  have accepted : (run events).queues.lines.ledger.popped.Sublist (run events).queues.lines.ledger.accepted := by
    rw [queues]
    exact (List.sublist_append_left _ _).trans (Queues.booked_run calls).lines.sound.accounts.order
  exact (tried.trans accepted).trans books.linesAccepted

/-- The records of a family that were tried come in the order they were appended. -/
theorem tried_blobs (events : List LoggerEvent) (kind : BlobQueueKind) :
    (((run events).attempts.map fun a => a.write).filterMap (Write.blob? kind)).Sublist
      ((offeredBlobs kind events).map fun r => QueuedBlob.of r.1 r.2) := by
  have books := books_run events
  obtain ⟨calls,queues⟩ := books.calls
  have tried : (((run events).attempts.map fun a => a.write).filterMap (Write.blob? kind)).Sublist
      ((run events).queues.blobs kind).ledger.popped := by
    rw [books.blobs kind,taken,List.filterMap_append]
    exact List.sublist_append_left _ _
  have accepted : ((run events).queues.blobs kind).ledger.popped.Sublist
      ((run events).queues.blobs kind).ledger.accepted := by
    rw [queues]
    exact (List.sublist_append_left _ _).trans ((Queues.booked_run calls).blobs kind).sound.accounts.order
  exact (tried.trans accepted).trans (books.blobsAccepted kind)

/-- Of the writes of one sort those that reached a file are among those that were tried. -/
theorem written_sublist (path : CString) {attempts : List WriteAttempt} {own : Write → Bool}
    {brings : Write → Option Bytes} (faithful : ∀ a ∈ attempts, ∃ tick, a.data = a.write.data tick)
    (whole : ∀ write tick, own write = true → write.path = path → brings write = some (write.data tick)) :
    (((attempts.filter fun a => a.appended && a.write.path == path).filter fun a => own a.write).map
        WriteAttempt.data).Sublist ((attempts.map fun a => a.write).filterMap brings) := by
  induction attempts with
  | nil => exact List.Sublist.refl []
  | cons a attempts ih =>
    have rest := ih fun b member => faithful b (List.mem_cons_of_mem a member)
    obtain ⟨tick,data⟩ := faithful a List.mem_cons_self
    rw [List.map_cons,List.filterMap_cons]
    by_cases reached : (a.appended && a.write.path == path) = true
    · rw [List.filter_cons,if_pos reached,List.filter_cons]
      by_cases isOwn : own a.write = true
      · rw [Bool.and_eq_true,beq_iff_eq] at reached
        rw [if_pos isOwn,List.map_cons,data,whole a.write tick isOwn reached.2]
        exact rest.cons_cons _
      · rw [if_neg isOwn]
        split
        · exact rest
        · exact rest.cons _
    · rw [List.filter_cons,if_neg reached]
      split
      · exact rest
      · exact rest.cons _

end Logger

end NxReverse.Probe
