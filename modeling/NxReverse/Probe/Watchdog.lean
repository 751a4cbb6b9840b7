import NxReverse.Lib.Countdowns
import NxReverse.Probe.StartServers

/-! The watchdog thread: every sample moves four counters, which decide whether it is logged. The schedule that they
stand for looks at windows of the samples so far. -/
namespace NxReverse.Probe

open Text Countdowns

def watchdogPostTeardownSampleCount : Nat := 6
def watchdogIdleQuerySummaryIntervalCount : Nat := 5

/-- What one turn of the loop reads. The cursor of the query trace is also moved by others than the watchdog. -/
structure WatchdogSample where
  trackedSessionCount : Nat
  written : UInt64
  queryTraceCursor : UInt64
  deriving DecidableEq

namespace WatchdogSample

def isTracking (sample : WatchdogSample) : Bool := sample.trackedSessionCount ≠ 0

def hasPendingQueryTrace (sample : WatchdogSample) : Bool := sample.written ≠ sample.queryTraceCursor

end WatchdogSample

inductive WatchdogCall where
  | started
  | snapshot (phase : CString) (trackedSessions : Nat)
  | queryTelemetry (phase : CString) (forceSummary : Bool)
  | serverManagerResourceState (phase : CString)
  | hasMitmState (serviceName phase : CString)
  | sessionSnapshot (phase : CString)
  | domainSnapshot (phase : CString)
  | exiting
  deriving DecidableEq

structure Watchdog where
  sampleIndex : UInt64
  previousTrackedSessionCount : Nat
  postTeardownSamplesRemaining : Nat
  idleQuerySummarySamples : Nat

namespace Watchdog

def start : Watchdog := ⟨0,0,0,0⟩

def phase (sampleIndex : UInt64) : CString := snprintf 64 ("watchdog_".toList ++ decimal sampleIndex.toNat)

def report (enabled : MitmTarget → Bool) (sampleIndex : UInt64) (trackedSessionCount : Nat) (forceSummary : Bool) :
    List WatchdogCall :=
  [.snapshot (phase sampleIndex) trackedSessionCount,.queryTelemetry (phase sampleIndex) forceSummary,
    .serverManagerResourceState (phase sampleIndex)] ++
    (mitmTargetConfigs.filter enabled).map (fun target => .hasMitmState target.serviceName (phase sampleIndex)) ++
    [.sessionSnapshot (phase sampleIndex),.domainSnapshot (phase sampleIndex)]

def sample (enabled : MitmTarget → Bool) (w : Watchdog) (read : WatchdogSample) : Watchdog × List WatchdogCall :=
  let remaining :=
    if w.previousTrackedSessionCount ≠ 0 ∧ read.trackedSessionCount = 0 then watchdogPostTeardownSampleCount
    else w.postTeardownSamplesRemaining
  let idle := read.trackedSessionCount = 0 ∧ remaining = 0
  -- `++` stands behind two `&&`
  let idleSamples := if idle then w.idleQuerySummarySamples + 1 else w.idleQuerySummarySamples
  let shouldLogIdle := decide (idle ∧ watchdogIdleQuerySummaryIntervalCount ≤ idleSamples)
  if read.isTracking || decide (remaining ≠ 0) || read.hasPendingQueryTrace || shouldLogIdle then
    let left := if read.trackedSessionCount = 0 ∧ remaining ≠ 0 then remaining - 1 else remaining
    (⟨w.sampleIndex + 1,read.trackedSessionCount,left,0⟩,
      report enabled w.sampleIndex read.trackedSessionCount shouldLogIdle)
  else (⟨w.sampleIndex,read.trackedSessionCount,remaining,idleSamples⟩,[])

/-- The loop, over what each wait for the shutdown event comes to: the event, or the next sample. -/
def loop (enabled : MitmTarget → Bool) : Watchdog → List (Option WatchdogSample) → List WatchdogCall
  | _,[] => []
  | _,none :: _ => [.exiting]
  | w,some read :: rest => (w.sample enabled read).2 ++ loop enabled (w.sample enabled read).1 rest

end Watchdog

def watchdogThreadMain (enabled : MitmTarget → Bool) (waits : List (Option WatchdogSample)) : List WatchdogCall :=
  .started :: Watchdog.loop enabled .start waits

/-- A sample of the past, and whether it was logged. -/
structure Watched where
  read : WatchdogSample
  logged : Bool

namespace Watched

/-- Sessions are tracked, or were in one of the last six samples. -/
def lively (history : List Watched) (read : WatchdogSample) : Bool :=
  read.isTracking || (history.take 6).any fun past => past.read.isTracking

/-- The last four samples were not logged. -/
def silent (history : List Watched) : Bool := decide (4 ≤ history.length) && !(history.take 4).any Watched.logged

def due (history : List Watched) (read : WatchdogSample) : Bool :=
  lively history read || read.hasPendingQueryTrace || silent history

def nextIndex (history : List Watched) : UInt64 := .ofNat (history.countP Watched.logged)

/-- What is logged of these samples behind a history, which is newest first. -/
def schedule (enabled : MitmTarget → Bool) : List Watched → List WatchdogSample → List WatchdogCall
  | _,[] => []
  | history,read :: rest =>
    (if due history read then Watchdog.report enabled (nextIndex history) read.trackedSessionCount
      (!lively history read && silent history) else []) ++
      schedule enabled (⟨read,due history read⟩ :: history) rest

end Watched

open Watched

/-- The counters stand for windows of the history. -/
structure Watchdog.Follows (w : Watchdog) (history : List Watched) : Prop where
  index : w.sampleIndex = nextIndex history
  remaining : (if w.previousTrackedSessionCount ≠ 0 then watchdogPostTeardownSampleCount
    else w.postTeardownSamplesRemaining) = countdown (fun past => past.read.isTracking) 6 history
  idle : w.idleQuerySummarySamples = streak Watched.logged history

namespace Watchdog

variable {enabled : MitmTarget → Bool} {w : Watchdog} {history : List Watched} {read : WatchdogSample}

theorem follows_start : start.Follows [] := ⟨rfl,rfl,rfl⟩

/-- The samples after a teardown that are still to be logged. -/
theorem Follows.left (follows : w.Follows history) (closed : read.isTracking = false) :
    (if w.previousTrackedSessionCount ≠ 0 ∧ read.trackedSessionCount = 0 then watchdogPostTeardownSampleCount
      else w.postTeardownSamplesRemaining) = countdown (fun past => past.read.isTracking) 6 history := by
  have none : read.trackedSessionCount = 0 := by simpa [WatchdogSample.isTracking] using closed
  rw [← follows.remaining]
  simp only [none,and_true]

theorem nextIndex_logged : nextIndex (⟨read,true⟩ :: history) = nextIndex history + 1 := by
  rw [nextIndex,List.countP_cons_of_pos rfl,UInt64.ofNat_add]
  rfl

theorem nextIndex_left : nextIndex (⟨read,false⟩ :: history) = nextIndex history :=
  congrArg UInt64.ofNat (List.countP_cons_of_neg Bool.false_ne_true)

theorem lively_iff (closed : read.isTracking = false) :
    lively history read = true ↔ countdown (fun past => past.read.isTracking) 6 history ≠ 0 := by
  rw [countdown_ne_zero_iff,lively,closed,Bool.false_or]

theorem silent_iff : silent history = true ↔ 4 ≤ streak Watched.logged history := by
  rw [le_streak_iff,silent]
  simp

/-- A sample while sessions are tracked. -/
theorem Follows.tracking (follows : w.Follows history) (open_ : read.isTracking = true) :
    (w.sample enabled read).2 = report enabled (nextIndex history) read.trackedSessionCount false ∧
      (w.sample enabled read).1.Follows (⟨read,true⟩ :: history) := by
  have some : read.trackedSessionCount ≠ 0 := by simpa [WatchdogSample.isTracking] using open_
  simp only [sample,some,and_false,false_and,if_false,open_,Bool.true_or,if_true,follows.index]
  refine ⟨rfl,?_,?_,rfl⟩
  · exact nextIndex_logged.symm
  · rw [if_pos some,countdown,if_pos open_]
    rfl

/-- Without sessions, what follows in the history is one less of the teardown. -/
theorem Follows.next (closed : read.isTracking = false) {logged : Bool} {w : Watchdog}
    (index : w.sampleIndex = nextIndex (⟨read,logged⟩ :: history))
    (previous : w.previousTrackedSessionCount = 0)
    (remaining : w.postTeardownSamplesRemaining = countdown (fun past => past.read.isTracking) 6 history - 1)
    (idle : w.idleQuerySummarySamples = streak Watched.logged (⟨read,logged⟩ :: history)) :
    w.Follows (⟨read,logged⟩ :: history) := by
  refine ⟨index,?_,idle⟩
  rw [if_neg (not_not.mpr previous),remaining,countdown,if_neg (Bool.eq_false_iff.mp closed)]

/-- A sample that follows a teardown. -/
theorem Follows.teardown (follows : w.Follows history) (closed : read.isTracking = false)
    (lives : countdown (fun past => past.read.isTracking) 6 history ≠ 0) :
    (w.sample enabled read).2 = report enabled (nextIndex history) read.trackedSessionCount false ∧
      (w.sample enabled read).1.Follows (⟨read,true⟩ :: history) := by
  have none : read.trackedSessionCount = 0 := by simpa [WatchdogSample.isTracking] using closed
  rw [sample,follows.left closed]
  simp only [lives,ne_eq,not_false_eq_true,and_false,false_and,decide_false,decide_true,Bool.or_true,Bool.true_or,
    if_true,none,true_and,follows.index]
  exact .next closed nextIndex_logged.symm rfl rfl rfl

/-- A sample while nothing is going on. -/
theorem Follows.quiet (follows : w.Follows history) (closed : read.isTracking = false)
    (rests : countdown (fun past => past.read.isTracking) 6 history = 0) :
    (w.sample enabled read).2 = (if read.hasPendingQueryTrace || silent history then
      report enabled (nextIndex history) read.trackedSessionCount (silent history) else []) ∧
      (w.sample enabled read).1.Follows (⟨read,read.hasPendingQueryTrace || silent history⟩ :: history) := by
  have none : read.trackedSessionCount = 0 := by simpa [WatchdogSample.isTracking] using closed
  have quiet : decide (watchdogIdleQuerySummaryIntervalCount ≤ w.idleQuerySummarySamples + 1) = silent history := by
    rw [follows.idle,Bool.eq_iff_iff,silent_iff,decide_eq_true_iff]
    exact Nat.succ_le_succ_iff
  rw [sample,follows.left closed,rests]
  simp only [closed,none,ne_eq,not_true_eq_false,and_self,and_false,decide_false,Bool.false_or,if_true,if_false,true_and,
    quiet,follows.index]
  by_cases logs : (read.hasPendingQueryTrace || silent history) = true
  · rw [if_pos logs,if_pos logs,logs]
    refine ⟨rfl,.next closed nextIndex_logged.symm rfl ?_ rfl⟩
    exact (congrArg (· - 1) rests).symm
  · have leaves := Bool.eq_false_iff.mpr logs
    rw [if_neg logs,if_neg logs,leaves]
    refine ⟨rfl,.next closed ?_ rfl ?_ ?_⟩
    · exact nextIndex_left.symm
    · exact (congrArg (· - 1) rests).symm
    · rw [streak,if_neg Bool.false_ne_true]
      exact congrArg (· + 1) follows.idle

theorem Follows.step (enabled : MitmTarget → Bool) (follows : w.Follows history) (read : WatchdogSample) :
    (w.sample enabled read).2 = (if due history read then
      report enabled (nextIndex history) read.trackedSessionCount (!lively history read && silent history)
      else []) ∧ (w.sample enabled read).1.Follows (⟨read,due history read⟩ :: history) := by
  cases closed : read.isTracking with
  | true =>
    have lives : lively history read = true := by rw [lively,closed,Bool.true_or]
    rw [due,lives]
    exact follows.tracking closed
  | false =>
    by_cases rests : countdown (fun past => past.read.isTracking) 6 history = 0
    · have lives : lively history read = false := Bool.eq_false_iff.mpr fun lives => (lively_iff closed).mp lives rests
      rw [due,lives,Bool.false_or,Bool.not_false,Bool.true_and]
      exact follows.quiet closed rests
    · rw [due,(lively_iff closed).mpr rests]
      exact follows.teardown closed rests

theorem Follows.loop (follows : w.Follows history) (reads : List WatchdogSample) (rest : List (Option WatchdogSample)) :
    loop enabled w (reads.map some ++ none :: rest) = schedule enabled history reads ++ [.exiting] := by
  induction reads generalizing w history with
  | nil => rfl
  | cons read reads ih =>
    obtain ⟨logged,next⟩ := follows.step enabled read
    rw [List.map_cons,List.cons_append,Watchdog.loop,schedule,logged,ih next,List.append_assoc]

end Watchdog

/-- Until the shutdown, the samples that are logged, and what of them, are those of the schedule. -/
theorem watchdogThreadMain_schedule (enabled : MitmTarget → Bool) (reads : List WatchdogSample)
    (rest : List (Option WatchdogSample)) :
    watchdogThreadMain enabled (reads.map some ++ none :: rest) = .started :: schedule enabled [] reads ++ [.exiting] :=
  congrArg (WatchdogCall.started :: ·) (Watchdog.follows_start.loop reads rest)

/-- Never are five samples in a row left out. -/
theorem due_of_silent {history : List Watched} (long : 4 ≤ history.length) (read : WatchdogSample)
    (left : ∀ past ∈ history.take 4, past.logged = false) : due history read = true := by
  have none : (history.take 4).any Watched.logged = false :=
    List.any_eq_false.mpr fun past member => Bool.eq_false_iff.mp (left past member)
  rw [due,silent,none,decide_eq_true long]
  simp

end NxReverse.Probe
