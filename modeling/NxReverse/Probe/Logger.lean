import NxReverse.Probe.LogQueues

/-! The logger: callers queue lines and binary records, a flush thread writes them to their files,
and a shutdown stops the thread. What is done under the lock is one step. -/
namespace NxReverse.Probe

open Text Words

def textBytes (text : CString) : Bytes := text.map fun c => UInt8.ofNat c.toNat

def logFilePath : CString := "sdmc:/nxrv/probe/net-probe.log".toList

def bootBanner : Bytes := textBytes "\n=== net-probe boot ===\n".toList

def flushLineBatchSize : Nat := 16

def flushBlobBatchSizePerFamily : Nat := 8

inductive FileBackendState where
  | uninitialized | ready | disabled
  deriving DecidableEq, Repr

/-- What the file system and the clock answer while one write goes on. -/
structure WriteAnswers where
  tick : UInt64
  ensureReady : Bool
  ensureRootDirectory : Bool
  ensureLogDirectory : Bool
  openFile : Bool
  createFile : Bool
  alreadyExists : Bool
  reopenFile : Bool
  getFileSize : Bool
  writeFile : Bool

def ensureFileBackendInitialized (answers : WriteAnswers) : FileBackendState → FileBackendState
  | .uninitialized =>
    if !answers.ensureReady then .disabled
    else if !answers.ensureRootDirectory then .disabled
    else if !answers.ensureLogDirectory then .disabled
    else .ready
  | state => state

/-- `WriteBytesToFile` gets as far as the write, and the write succeeds. -/
def writeBytesToFile (answers : WriteAnswers) (backend : FileBackendState) (data : Bytes) : Bool :=
  if ensureFileBackendInitialized answers backend ≠ .ready ∨ data.length = 0 then false
  else if !answers.openFile && ((!answers.createFile && !answers.alreadyExists) || !answers.reopenFile) then false
  else answers.getFileSize && answers.writeFile

inductive Write where
  | dropWarning (queue : Option BlobQueueKind) (droppedCount : UInt64)
  | line (entry : QueuedLine)
  | blob (kind : BlobQueueKind) (entry : QueuedBlob)
  deriving DecidableEq, Repr

def getBlobQueueLabel : BlobQueueKind → CString
  | .generic => "binary".toList
  | .nifm => "binary-nifm".toList
  | .bsd => "binary-bsd".toList
  | .ssl => "binary-ssl".toList

/-- The queue of lines or the one of a family. -/
def queueLabel : Option BlobQueueKind → CString
  | none => "text".toList
  | some kind => getBlobQueueLabel kind

def dropWarning (tick : UInt64) (label : CString) (droppedCount : UInt64) : CString :=
  snprintf 160 ('[' :: decimal tick.toNat ++ "] logger dropped ".toList ++ decimal droppedCount.toNat ++
    " queued ".toList ++ label ++ " entries\n".toList)

namespace Write

def path : Write → CString
  | .dropWarning _ _ => logFilePath
  | .line entry => entry.path
  | .blob _ entry => entry.path

def data (tick : UInt64) : Write → Bytes
  | .dropWarning queue droppedCount => textBytes (Probe.dropWarning tick (queueLabel queue) droppedCount)
  | .line entry => entry.line.take entry.lineSize.toNat
  | .blob _ entry => entry.data.take entry.dataSize.toNat

def line? : Write → Option QueuedLine
  | .line entry => some entry
  | _ => none

def blob? (kind : BlobQueueKind) : Write → Option QueuedBlob
  | .blob other entry => if other = kind then some entry else none
  | _ => none

end Write

/-- The warnings of one pass, those with a count of 0 left out. -/
def emitPendingDropWarnings (s : Queues) : List Write :=
  let counts := (none,s.lines.drops.value) ::
    BlobQueueKind.all.map fun kind => (some kind,(s.blobs kind).drops.value)
  (counts.filter fun (_,droppedCount) => droppedCount ≠ 0).map fun (queue,droppedCount) => .dropWarning queue droppedCount

def popLines : Nat → Queues → List Write × Queues
  | 0,s => ([],s)
  | n + 1,s =>
    match s.popLineLocked with
    | none => ([],s)
    | some (entry,s) => ((popLines n s).1.cons (.line entry),(popLines n s).2)

def popBlobs (kind : BlobQueueKind) : Nat → Queues → List Write × Queues
  | 0,s => ([],s)
  | n + 1,s =>
    match s.popBlobLocked kind with
    | none => ([],s)
    | some (entry,s) => ((popBlobs kind n s).1.cons (.blob kind entry),(popBlobs kind n s).2)

def popAllBlobs : List BlobQueueKind → Queues → List Write × Queues
  | [],s => ([],s)
  | kind :: kinds,s =>
    let first := popBlobs kind flushBlobBatchSizePerFamily s
    let others := popAllBlobs kinds first.2
    (first.1 ++ others.1,others.2)

/-- The part of a pass of `FlushPendingEntries` under the lock: the entries to write. -/
def takeBatch (s : Queues) : List Write × Queues :=
  let lines := popLines flushLineBatchSize s.takeDropCounts
  let blobs := popAllBlobs BlobQueueKind.all lines.2
  (lines.1 ++ blobs.1,blobs.2)

/-- Where the flush thread is: in its wait, at the lock of a pass, writing what a pass took (`empty`
if it took no entries), or at the check of the stop request. -/
inductive FlushThread where
  | notStarted
  | waiting
  | flushing
  | writing (pending : List Write) (empty : Bool)
  | checking
  | exited
  deriving DecidableEq, Repr

def FlushThread.pending : FlushThread → List Write
  | .writing pending _ => pending
  | _ => []

inductive ShutdownStage where
  | outside | stopping | requesting | joining
  deriving DecidableEq, Repr

structure WriteAttempt where
  write : Write
  data : Bytes
  appended : Bool
  deriving DecidableEq, Repr

structure Logger where
  initialized : Bool
  stopRequested : Bool
  flushThreadStarted : Bool
  flushThread : FlushThread
  shutdowns : Nat → ShutdownStage
  -- some `Shutdown` has returned, and no thread was started since
  shutdownReturned : Bool
  queues : Queues
  backend : FileBackendState
  files : CString → Bytes
  attempts : List WriteAttempt

namespace Logger

def initial : Logger where
  initialized := false
  stopRequested := false
  flushThreadStarted := false
  flushThread := .notStarted
  shutdowns := fun _ => .outside
  shutdownReturned := false
  queues := .initial
  backend := .uninitialized
  files := fun _ => []
  attempts := []

def queueLine (s : Logger) (path : CString) (line : Bytes) : Logger :=
  { s with queues := (s.queues.queueLineLocked (some path) (some line)).2 }

def startFlushThread (s : Logger) : Logger :=
  if s.flushThreadStarted then s
  else { s with flushThread := .waiting, flushThreadStarted := true, shutdownReturned := false }

def initializeLogger (s : Logger) : Logger :=
  if s.initialized then s
  else (startFlushThread { s with stopRequested := false, initialized := true }).queueLine logFilePath bootBanner

def appendLine (s : Logger) (path : Option CString) (line : Option Bytes) : Logger :=
  match path,line with
  | some path,some line =>
    if path.length = 0 ∨ line.length = 0 then s
    else if !s.initialized then s
    else s.queueLine path line
  | _,_ => s

def appendBytes (s : Logger) (path : Option CString) (data : Option Bytes) : Logger :=
  match path,data with
  | some path,some data =>
    if data.length = 0 then s
    else if path.length = 0 then s
    else if !s.initialized then s
    else { s with queues := (s.queues.queueBlobLocked (some path) (some data)).2 }
  | _,_ => s

/-- The line that `Log` makes of its formatted message. -/
def logLine (tick : UInt64) (message : CString) : Bytes :=
  textBytes (snprintf 640 ('[' :: decimal tick.toNat ++ "] ".toList ++ snprintf 512 message ++ ['\n']))

def log (s : Logger) (tick : UInt64) (message : CString) : Logger :=
  if message.length = 0 then s
  else if !s.initialized then s
  else s.queueLine logFilePath (logLine tick message)

def writeNext (s : Logger) (answers : WriteAnswers) (write : Write) : Logger :=
  let data := write.data answers.tick
  let appended := writeBytesToFile answers s.backend data
  { s with
    backend := ensureFileBackendInitialized answers s.backend
    files := if appended then Function.update s.files write.path (s.files write.path ++ data) else s.files
    attempts := s.attempts ++ [⟨write,data,appended⟩] }

def isDrained (s : Logger) : Bool :=
  s.queues.lines.ring.count == 0 && BlobQueueKind.all.all fun kind => (s.queues.blobs kind).ring.count == 0

/-- The next step of `FlushThreadMain`. -/
def flushStep (s : Logger) (answers : WriteAnswers) : Logger :=
  match s.flushThread with
  | .notStarted => s
  | .waiting => { s with flushThread := .flushing }
  | .flushing =>
    let batch := takeBatch s.queues
    { s with queues := batch.2, flushThread := .writing (emitPendingDropWarnings s.queues ++ batch.1) batch.1.isEmpty }
  | .writing (write :: pending) empty => { s.writeNext answers write with flushThread := .writing pending empty }
  | .writing [] empty => { s with flushThread := if empty then .checking else .flushing }
  | .checking => { s with flushThread := if s.stopRequested && s.isDrained then .exited else .waiting }
  | .exited => s

def setShutdown (s : Logger) (caller : Nat) (stage : ShutdownStage) : Logger :=
  { s with shutdowns := Function.update s.shutdowns caller stage }

def returnShutdown (s : Logger) (caller : Nat) : Logger :=
  { s.setShutdown caller .outside with shutdownReturned := true }

def shutdownStep (s : Logger) (caller : Nat) : Logger :=
  match s.shutdowns caller with
  | .outside => if !s.initialized then s.returnShutdown caller else s.setShutdown caller .stopping
  | .stopping => if !s.flushThreadStarted then s.returnShutdown caller else s.setShutdown caller .requesting
  | .requesting => { s.setShutdown caller .joining with stopRequested := true }
  | .joining =>
    -- the join waits for the thread to end
    if s.flushThread ≠ .exited then s else { s.returnShutdown caller with flushThreadStarted := false }

end Logger

inductive LoggerEvent where
  | initializeLogger
  | appendLine (path : Option CString) (line : Option Bytes)
  | appendBytes (path : Option CString) (data : Option Bytes)
  | log (tick : UInt64) (message : CString)
  | flush (answers : WriteAnswers)
  | shutdown (caller : Nat)

def Logger.step (s : Logger) : LoggerEvent → Logger
  | .initializeLogger => s.initializeLogger
  | .appendLine path line => s.appendLine path line
  | .appendBytes path data => s.appendBytes path data
  | .log tick message => s.log tick message
  | .flush answers => s.flushStep answers
  | .shutdown caller => s.shutdownStep caller

def Logger.run (events : List LoggerEvent) : Logger := events.foldl Logger.step .initial

end NxReverse.Probe
