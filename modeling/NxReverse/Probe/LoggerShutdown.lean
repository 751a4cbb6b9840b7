import NxReverse.Lib.Runs
import NxReverse.Probe.LoggerBooks

/-! What a returned shutdown leaves behind. The flush thread ends with all queues empty, but the
logger goes on to accept what comes later. -/
namespace NxReverse.Probe

open Text Words Runs

structure LogQueue.NothingLost {α : Type} {capacity : Nat} (q : LogQueue α capacity) (written : List α) : Prop where
  empty : q.ring.count = 0
  order : written.Sublist q.ledger.accepted
  balance : q.ledger.accepted.length = written.length + q.ledger.overwritten
  counted : q.ledger.overwritten ≤ q.drops.increments

namespace Logger

def writtenLines (s : Logger) : List QueuedLine :=
  (s.attempts.filter fun a => a.appended).filterMap fun a => a.write.line?

def writtenBlobs (s : Logger) (kind : BlobQueueKind) : List QueuedBlob :=
  (s.attempts.filter fun a => a.appended).filterMap fun a => a.write.blob? kind

/-- No accepted record is lost without a trace. -/
structure NothingLost (s : Logger) : Prop where
  lines : s.queues.lines.NothingLost s.writtenLines
  blobs : ∀ kind, (s.queues.blobs kind).NothingLost (s.writtenBlobs kind)

/-- The logger would put what the call brings into a queue. -/
def accepts (s : Logger) : LoggerEvent → Bool
  | .appendLine (some path) (some line) => s.initialized && path.length != 0 && line.length != 0
  | .appendBytes (some path) (some data) =>
    s.initialized && path.length != 0 && data.length != 0 && decide (data.length ≤ maxQueuedBlobLength)
  | .log _ message => s.initialized && message.length != 0
  | _ => false

/-- A step that is a write of the flush thread succeeds. -/
def writesThrough (s : Logger) : LoggerEvent → Bool
  | .flush answers =>
    match s.flushThread with
    | .writing (write :: _) _ => writeBytesToFile answers s.backend (write.data answers.tick)
    | _ => true
  | _ => true

/-- The call does not come too late, and a write succeeds. -/
def timely (s : Logger) (event : LoggerEvent) : Prop :=
  (s.flushThread = .exited → s.accepts event = false) ∧ s.writesThrough event = true

instance (s : Logger) (event : LoggerEvent) : Decidable (s.timely event) :=
  inferInstanceAs (Decidable (_ ∧ _))

structure Orderly (s : Logger) : Prop where
  fresh : s.initialized = false →
    s.queues = .initial ∧ s.attempts = [] ∧ s.flushThread = .notStarted ∧ s.flushThreadStarted = false
  stopped : s.initialized = true → s.flushThreadStarted = false → s.flushThread = .exited
  inside : ∀ caller, s.shutdowns caller ≠ .outside → s.initialized = true
  drained : s.flushThread = .exited → s.isDrained = true
  returned : s.shutdownReturned = true → s.initialized = false ∨ s.flushThread = .exited
  through : ∀ a ∈ s.attempts, a.appended = true

theorem orderly_initial : initial.Orderly :=
  ⟨fun _ => ⟨rfl,rfl,rfl,rfl⟩,nofun,fun _ inside => absurd rfl inside,nofun,nofun,nofun⟩

section Steps

variable {s : Logger}

/-- The queues may change while the flush thread runs, and must stay empty after it. -/
theorem Orderly.requeue (orderly : s.Orderly) (running : s.initialized = true) {queues : Queues}
    (drained : s.flushThread = .exited → isDrained { s with queues := queues } = true) :
    Orderly { s with queues := queues } := by
  refine ⟨fun fresh => ?_,orderly.stopped,orderly.inside,drained,orderly.returned,orderly.through⟩
  change s.initialized = false at fresh
  rw [running] at fresh
  cases fresh

theorem Orderly.initializeLogger (orderly : s.Orderly) : s.initializeLogger.Orderly := by
  unfold Logger.initializeLogger
  split
  · exact orderly
  rename_i notYet
  obtain ⟨_,_,_,notStarted⟩ := orderly.fresh (Bool.eq_false_iff.mpr notYet)
  have started : startFlushThread { s with stopRequested := false, initialized := true } =
      { s with
        stopRequested := false
        initialized := true
        flushThread := .waiting
        flushThreadStarted := true
        shutdownReturned := false } := by
    rw [startFlushThread,if_neg (Bool.eq_false_iff.mp notStarted)]
  rw [started]
  exact ⟨nofun,nofun,fun _ _ => rfl,nofun,nofun,orderly.through⟩

theorem Orderly.appendLine (orderly : s.Orderly) {path : Option CString} {line : Option Bytes}
    (timely : s.timely (.appendLine path line)) : (s.appendLine path line).Orderly := by
  unfold Logger.appendLine
  split
  · rename_i path line
    split
    · exact orderly
    rename_i nonempty
    split
    · exact orderly
    rename_i running
    rw [Bool.not_eq_true',Bool.not_eq_false] at running
    apply orderly.requeue running
    intro ended
    have late := timely.1 ended
    rw [not_or] at nonempty
    simp [accepts,running,nonempty] at late
  · exact orderly

theorem Orderly.log (orderly : s.Orderly) {tick : UInt64} {message : CString}
    (timely : s.timely (.log tick message)) : (s.log tick message).Orderly := by
  unfold Logger.log
  split
  · exact orderly
  rename_i nonempty
  split
  · exact orderly
  rename_i running
  rw [Bool.not_eq_true',Bool.not_eq_false] at running
  apply orderly.requeue running
  intro ended
  have late := timely.1 ended
  simp [accepts,running,nonempty] at late

/-- A rejected record changes no ring. -/
theorem isDrained_reject (drained : s.isDrained = true) :
    isDrained { s with queues := s.queues.setBlobs .generic (s.queues.blobs .generic).reject } = true := by
  have rings : ∀ kind, ((s.queues.setBlobs .generic (s.queues.blobs .generic).reject).blobs kind).ring =
      (s.queues.blobs kind).ring := by
    intro kind
    by_cases generic : kind = .generic
    · subst generic
      rw [Queues.setBlobs_same]
      rfl
    · rw [Queues.setBlobs_other _ generic]
  unfold isDrained at drained ⊢
  simp only [rings]
  exact drained

theorem Orderly.appendBytes (orderly : s.Orderly) {path : Option CString} {data : Option Bytes}
    (timely : s.timely (.appendBytes path data)) : (s.appendBytes path data).Orderly := by
  unfold Logger.appendBytes
  split
  · rename_i path data
    split
    · exact orderly
    rename_i dataNonempty
    split
    · exact orderly
    rename_i pathNonempty
    split
    · exact orderly
    rename_i running
    rw [Bool.not_eq_true',Bool.not_eq_false] at running
    apply orderly.requeue running
    intro ended
    have late := timely.1 ended
    have tooLong : data.length > maxQueuedBlobLength := by
      simpa [accepts,running,dataNonempty,pathNonempty] using late
    have bad : path.length = 0 ∨ data.length = 0 ∨ data.length > maxQueuedBlobLength := .inr (.inr tooLong)
    simp only [Queues.queueBlobLocked,if_pos bad]
    exact isDrained_reject (orderly.drained ended)
  · exact orderly

/-- The flush thread goes from one stage to another. -/
theorem Orderly.advance (orderly : s.Orderly) (running : s.flushThread ≠ .notStarted)
    (goesOn : s.flushThread ≠ .exited) {thread : FlushThread} {queues : Queues}
    (drained : thread = .exited → isDrained { s with queues := queues } = true) :
    Orderly { s with queues := queues, flushThread := thread } := by
  have initialized : s.initialized = true := by
    apply Bool.eq_true_of_not_eq_false
    intro fresh
    exact running (orderly.fresh fresh).2.2.1
  have started : s.flushThreadStarted ≠ false := fun stopped => goesOn (orderly.stopped initialized stopped)
  have open' : s.shutdownReturned ≠ true := by
    intro returned
    rcases orderly.returned returned with fresh | ended
    · exact absurd initialized (Bool.eq_false_iff.mp fresh)
    · exact goesOn ended
  refine ⟨fun fresh => ?_,fun _ stopped => absurd stopped started,orderly.inside,drained,
    fun returned => absurd returned open',orderly.through⟩
  change s.initialized = false at fresh
  exact absurd initialized (Bool.eq_false_iff.mp fresh)

theorem Orderly.flushStep (orderly : s.Orderly) {answers : WriteAnswers} (timely : s.timely (.flush answers)) :
    (s.flushStep answers).Orderly := by
  cases thread : s.flushThread with
  | notStarted | exited =>
    rw [Logger.flushStep,thread]
    exact orderly
  | waiting =>
    rw [Logger.flushStep,thread]
    exact orderly.advance (by simp [thread]) (by simp [thread]) FlushThread.noConfusion
  | flushing =>
    rw [Logger.flushStep,thread]
    exact orderly.advance (by simp [thread]) (by simp [thread]) FlushThread.noConfusion
  | checking =>
    rw [Logger.flushStep,thread]
    refine orderly.advance (by simp [thread]) (by simp [thread]) fun ended => ?_
    split at ended
    · rename_i finished
      exact (Bool.and_eq_true_iff.mp finished).2
    · cases ended
  | writing pending empty =>
    cases pending with
    | nil =>
      rw [Logger.flushStep,thread]
      refine orderly.advance (by simp [thread]) (by simp [thread]) fun ended => ?_
      cases empty <;> cases ended
    | cons write pending =>
      have appended := timely.2
      simp only [writesThrough,thread] at appended
      have moved := @Orderly.advance s orderly (by simp [thread]) (by simp [thread])
        (.writing pending empty) s.queues FlushThread.noConfusion
      rw [Logger.flushStep,thread]
      refine ⟨fun fresh => ?_,moved.stopped,moved.inside,FlushThread.noConfusion,moved.returned,?_⟩
      · exact FlushThread.noConfusion (moved.fresh fresh).2.2.1
      · intro a member
        rcases List.mem_append.mp member with before | last
        · exact orderly.through a before
        · rw [List.mem_singleton.mp last]
          exact appended

theorem Orderly.setShutdown (orderly : s.Orderly) (initialized : s.initialized = true) (caller : Nat)
    (stage : ShutdownStage) : (s.setShutdown caller stage).Orderly :=
  ⟨orderly.fresh,orderly.stopped,fun _ _ => initialized,orderly.drained,orderly.returned,orderly.through⟩

theorem Orderly.shutdownStep (orderly : s.Orderly) (caller : Nat) : (s.shutdownStep caller).Orderly := by
  unfold Logger.shutdownStep
  split
  · rename_i outside
    split
    · rename_i notYet
      rw [Bool.not_eq_true'] at notYet
      refine ⟨orderly.fresh,orderly.stopped,fun other inside => ?_,orderly.drained,fun _ => .inl notYet,
        orderly.through⟩
      apply orderly.inside other
      by_cases own : other = caller
      · subst own
        exact absurd (by simp [returnShutdown,Logger.setShutdown]) inside
      · simpa [returnShutdown,Logger.setShutdown,own] using inside
    · rename_i running
      rw [Bool.not_eq_true',Bool.not_eq_false] at running
      exact orderly.setShutdown running caller _
  · rename_i inside
    have initialized := orderly.inside caller (by rw [inside]; nofun)
    split
    · rename_i notStarted
      rw [Bool.not_eq_true'] at notStarted
      have ended := orderly.stopped initialized notStarted
      exact ⟨orderly.fresh,orderly.stopped,fun _ _ => initialized,orderly.drained,fun _ => .inr ended,orderly.through⟩
    · exact orderly.setShutdown initialized caller _
  · rename_i inside
    have initialized := orderly.inside caller (by rw [inside]; nofun)
    exact ⟨orderly.fresh,orderly.stopped,fun _ _ => initialized,orderly.drained,orderly.returned,orderly.through⟩
  · rename_i inside
    have initialized := orderly.inside caller (by rw [inside]; nofun)
    split
    · exact orderly
    · rename_i ended
      rw [ne_eq,not_not] at ended
      refine ⟨fun fresh => ?_,fun _ _ => ended,fun _ _ => initialized,orderly.drained,fun _ => .inr ended,
        orderly.through⟩
      exact absurd initialized (Bool.eq_false_iff.mp fresh)

theorem orderly_step (orderly : s.Orderly) {event : LoggerEvent} (timely : s.timely event) :
    (s.step event).Orderly := by
  cases event with
  | initializeLogger => exact orderly.initializeLogger
  | appendLine path line => exact orderly.appendLine timely
  | appendBytes path data => exact orderly.appendBytes timely
  | log tick message => exact orderly.log timely
  | flush answers => exact orderly.flushStep timely
  | shutdown caller => exact orderly.shutdownStep caller

end Steps

/-- Behind the last write of a drained logger nothing is left of a queue. -/
theorem nothingLost_of_drained {α : Type} {capacity : Nat} {q : LogQueue α capacity} {accepted : List α}
    {rejected : Nat} {written : List α} (booked : q.Booked accepted rejected) (empty : q.ring.count = 0)
    (popped : q.ledger.popped = written) : q.NothingLost written := by
  have nothing : q.ring.contents = [] := List.eq_nil_of_length_eq_zero (by rw [Ring.contents_length,empty])
  obtain ⟨_,order,balance⟩ := booked.sound.accounts
  rw [nothing,popped] at order balance
  refine ⟨empty,by simpa using order,by simpa using balance,?_⟩
  have counted : q.drops.increments = q.ledger.overwritten + rejected := booked.rejects
  omega

theorem nothingLost_of_over {s : Logger} {events : List LoggerEvent} (books : s.Books events)
    (ended : s.flushThread = .exited) (drained : s.isDrained = true)
    (through : ∀ a ∈ s.attempts, a.appended = true) : s.NothingLost := by
  obtain ⟨calls,queues⟩ := books.calls
  have booked := Queues.booked_run calls
  rw [← queues] at booked
  have all : s.attempts.filter (fun a => a.appended) = s.attempts := List.filter_eq_self.mpr through
  have taken : s.taken = s.attempts.map fun a => a.write := by
    rw [Logger.taken,ended]
    exact List.append_nil _
  simp only [isDrained,Bool.and_eq_true,beq_iff_eq,List.all_eq_true] at drained
  refine ⟨nothingLost_of_drained booked.lines drained.1 ?_,fun kind => ?_⟩
  · rw [books.lines,taken,writtenLines,all,List.filterMap_map]
    rfl
  · have among : kind ∈ BlobQueueKind.all := by cases kind <;> decide
    refine nothingLost_of_drained (booked.blobs kind) (drained.2 kind among) ?_
    rw [books.blobs,taken,writtenBlobs,all,List.filterMap_map]
    rfl

theorem nothingLost_of_fresh {s : Logger} (queues : s.queues = .initial) (attempts : s.attempts = []) :
    s.NothingLost := by
  have lines : s.writtenLines = [] := by rw [writtenLines,attempts]; rfl
  have blobs : ∀ kind, s.writtenBlobs kind = [] := fun kind => by rw [writtenBlobs,attempts]; rfl
  refine ⟨?_,fun kind => ?_⟩
  · rw [lines,queues]
    exact ⟨rfl,List.Sublist.refl [],rfl,Nat.le_refl 0⟩
  · rw [blobs,queues]
    exact ⟨rfl,List.Sublist.refl [],rfl,Nat.le_refl 0⟩

end Logger

/-- Where no call is accepted after the flush thread has ended and every write succeeds, a logger
whose shutdown has returned has lost nothing. -/
theorem shutdown_nothingLost {events : List LoggerEvent}
    (timely : Guarded Logger.step Logger.timely .initial events) :
    ∀ before after, events = before ++ after → (Logger.run before).shutdownReturned = true →
      (Logger.run before).NothingLost := by
  intro before after split returned
  rw [split] at timely
  have orderly : (Logger.run before).Orderly := timely.before.invariant Logger.Orderly
    (fun _ _ orderly timely => Logger.orderly_step orderly timely) Logger.orderly_initial
  rcases orderly.returned returned with fresh | ended
  · obtain ⟨queues,attempts,_⟩ := orderly.fresh fresh
    exact Logger.nothingLost_of_fresh queues attempts
  · exact Logger.nothingLost_of_over (Logger.books_run before) ended (orderly.drained ended) orderly.through

def startAndStop (line : CString × Bytes) : List LoggerEvent :=
  let flush : LoggerEvent := .flush ⟨0,true,true,true,true,true,true,true,true,true⟩
  [.initializeLogger,.appendLine (some line.1) (some line.2),.shutdown 0,.shutdown 0,.shutdown 0] ++
    List.replicate 10 flush ++ [.shutdown 0]

theorem shutdown_nothingLost_once : (Logger.run (startAndStop ("trace".toList,[97,10]))).NothingLost :=
  shutdown_nothingLost (by decide) _ [] (List.append_nil _).symm (by decide)

/-- A line that comes after the shutdown is accepted and stays in the queue. -/
theorem shutdown_loses :
    ¬∀ events : List LoggerEvent, ∀ before after, events = before ++ after →
      (Logger.run before).shutdownReturned = true → (Logger.run before).NothingLost := by
  intro nothingLost
  let late : LoggerEvent := .appendLine (some "trace".toList) (some [98,10])
  have lost := nothingLost (startAndStop ("trace".toList,[97,10]) ++ [late]) _ [] (List.append_nil _).symm
    (by decide)
  have queued : (Logger.run (startAndStop ("trace".toList,[97,10]) ++ [late])).queues.lines.ring.count = 1 := by
    decide
  rw [lost.lines.empty] at queued
  cases queued

end NxReverse.Probe
