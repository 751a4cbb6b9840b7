import NxReverse.Lib.Lines
import NxReverse.Probe.LoggerBooks

/-! The framing of a file of lines: what reaches it is whole lines in the order they were appended,
as long as each fits its slot with its newline. -/
namespace NxReverse.Probe

open Text Words Logger

def newline : UInt8 := 10

/-- The line, if it goes to the file. A path is cut before it names a file. -/
def lineFor (path : CString) (appended : CString × Bytes) : Option Bytes :=
  if appended.1.take (maxQueuedPathLength - 1) = path then some appended.2 else none

def appendedTo (path : CString) (events : List LoggerEvent) : List Bytes :=
  (events.filterMap LoggerEvent.appendedLine).filterMap (lineFor path)

/-- The content of a file is made of `records`, those marked being appended lines and the others the
logger's own warnings. -/
structure FramedBy (path : CString) (events : List LoggerEvent) (content : Bytes)
    (records : List (Bool × Bytes)) : Prop where
  whole : content = records.flatMap fun r => r.2
  lines : ((records.filter fun r => r.1).map fun r => r.2).Sublist (appendedTo path events)
  warnings : ∀ r ∈ records, r.1 = false → path = logFilePath ∧
    ∃ tick queue droppedCount, r.2 = textBytes (dropWarning tick (queueLabel queue) droppedCount)
  split : splitAfter newline content = records.flatMap fun r => splitAfter newline r.2

/-- No line of the file is cut. -/
def Framed (path : CString) (events : List LoggerEvent) (content : Bytes) : Prop :=
  ∃ records, FramedBy path events content records

def WriteAttempt.isLine (a : WriteAttempt) : Bool := a.write.line?.isSome

def entryFor (path : CString) (entry : QueuedLine) : Option Bytes :=
  if entry.path = path then some (entry.line.take entry.lineSize.toNat) else none

/-- A line that leaves room for its terminator is queued whole. -/
theorem entryFor_of {line : Bytes} (fits : line.length < maxQueuedLineLength) (path name : CString) :
    entryFor path (.of name line) = lineFor path (name,line) := by
  have whole : min line.length (maxQueuedLineLength - 1) = line.length := by
    rw [maxQueuedLineLength] at fits ⊢
    omega
  have narrow : line.length < 65536 := Nat.lt_trans fits (by decide)
  have cut : name.take (min name.length (maxQueuedPathLength - 1)) = name.take (maxQueuedPathLength - 1) := by
    rw [Nat.min_comm,← List.take_eq_take_min]
  have size : (UInt16.ofNat line.length).toNat = line.length := UInt16.toNat_ofNat_of_lt' narrow
  simp only [entryFor,lineFor,QueuedLine.of,whole,cut,size,List.take_length]

theorem Write.line?_eq_some {write : Write} {entry : QueuedLine} (line : write.line? = some entry) :
    write = .line entry := by
  cases write with
  | line other => exact congrArg Write.line (Option.some.inj line)
  | dropWarning | blob => cases line

/-- The lines that reached a file are among the entries that were tried. -/
theorem written_lines (path : CString) {attempts : List WriteAttempt}
    (faithful : ∀ a ∈ attempts, ∃ tick, a.data = a.write.data tick) :
    (((attempts.filter fun a => a.appended && a.write.path == path).filter WriteAttempt.isLine).map
        WriteAttempt.data).Sublist
      (((attempts.map fun a => a.write).filterMap Write.line?).filterMap (entryFor path)) := by
  rw [List.filterMap_filterMap]
  refine @written_sublist path attempts (fun write => write.line?.isSome) _ faithful ?_
  intro write tick isLine named
  obtain ⟨entry,line⟩ := Option.isSome_iff_exists.mp isLine
  obtain rfl := Write.line?_eq_some line
  exact if_pos named

theorem getLast?_textBytes {text : CString} (ended : text.getLast? = some '\n') :
    (textBytes text).getLast? = some newline := by
  rw [textBytes,List.getLast?_map,ended]
  rfl

theorem getLast?_snprintf {capacity : Nat} {text : CString} (fits : (text ++ ['\n']).length < capacity) :
    (snprintf capacity (text ++ ['\n'])).getLast? = some '\n' := by
  rw [snprintf,List.take_of_length_le (by omega)]
  simp

theorem logLine_ended (tick : UInt64) (message : CString) : (logLine tick message).getLast? = some newline := by
  have digits := length_decimal_le (by decide : 0 < 20) (Nat.lt_trans tick.toNat_lt (by decide))
  apply getLast?_textBytes
  apply getLast?_snprintf
  simp only [snprintf,List.length_append,List.length_cons,List.length_take,List.length_nil,
    (by decide : "] ".toList.length = 2)]
  omega

theorem logLine_fits (tick : UInt64) (message : CString) : (logLine tick message).length < maxQueuedLineLength := by
  simp only [logLine,textBytes,snprintf,List.length_map,List.length_take,maxQueuedLineLength]
  omega

theorem dropWarning_ended (tick : UInt64) (queue : Option BlobQueueKind) (droppedCount : UInt64) :
    (textBytes (dropWarning tick (queueLabel queue) droppedCount)).getLast? = some newline := by
  have digits := length_decimal_le (by decide : 0 < 20) (Nat.lt_trans tick.toNat_lt (by decide))
  have counted := length_decimal_le (by decide : 0 < 20) (Nat.lt_trans droppedCount.toNat_lt (by decide))
  have short : (queueLabel queue).length ≤ 11 := by
    cases queue with
    | none => decide
    | some kind => cases kind <;> decide
  apply getLast?_textBytes
  have text : " entries\n".toList = " entries".toList ++ ['\n'] := by decide
  rw [dropWarning,text,← List.append_assoc]
  apply getLast?_snprintf
  simp only [List.length_append,List.length_cons,List.length_nil,
    (by decide : "] logger dropped ".toList.length = 17),(by decide : " queued ".toList.length = 8),
    (by decide : " entries".toList.length = 8)]
  omega

section Run

variable {events : List LoggerEvent} {path : CString}

/-- Every line that is handed to the queue ends in a newline and leaves room for its terminator,
if the callers' lines do. -/
theorem appendedLine_good
    (ended : ∀ p line, .appendLine (some p) (some line) ∈ events → line.getLast? = some newline)
    (fits : ∀ p line, .appendLine (some p) (some line) ∈ events → line.length < maxQueuedLineLength)
    {appended : CString × Bytes} (member : appended ∈ events.filterMap LoggerEvent.appendedLine) :
    appended.2.getLast? = some newline ∧ appended.2.length < maxQueuedLineLength := by
  obtain ⟨event,among,some⟩ := List.mem_filterMap.mp member
  cases event with
  | initializeLogger =>
    obtain rfl := Option.some.inj some
    exact ⟨by decide,by decide⟩
  | appendLine p line =>
    cases p with
    | none => cases some
    | some p =>
      cases line with
      | none => cases some
      | some line =>
        obtain rfl := Option.some.inj some
        exact ⟨ended p line among,fits p line among⟩
  | appendBytes p data => cases some
  | log tick message =>
    obtain rfl := Option.some.inj some
    exact ⟨logLine_ended tick message,logLine_fits tick message⟩
  | flush answers => cases some
  | shutdown caller => cases some

/-- The lines of a file come in the order they were appended. -/
theorem written_appended
    (ended : ∀ p line, .appendLine (some p) (some line) ∈ events → line.getLast? = some newline)
    (fits : ∀ p line, .appendLine (some p) (some line) ∈ events → line.length < maxQueuedLineLength) :
    ((((run events).written path).filter WriteAttempt.isLine).map WriteAttempt.data).Sublist
      (appendedTo path events) := by
  have brought := (tried_lines events).filterMap (entryFor path)
  have whole : ((events.filterMap LoggerEvent.appendedLine).map fun r => QueuedLine.of r.1 r.2).filterMap
      (entryFor path) = appendedTo path events := by
    rw [List.filterMap_map,appendedTo]
    apply List.filterMap_congr
    intro appended member
    exact entryFor_of (appendedLine_good ended fits member).2 path appended.1
  rw [whole] at brought
  exact (written_lines path (books_run events).attempts).trans brought

/-- What is written to a file of lines without being one is a warning of the logger. -/
theorem written_warning
    (separate : ∀ p data, .appendBytes (some p) (some data) ∈ events →
      p.take (maxQueuedPathLength - 1) ≠ path)
    {a : WriteAttempt} (member : a ∈ (run events).written path) (noLine : a.isLine = false) :
    path = logFilePath ∧ ∃ tick queue droppedCount,
      a.data = textBytes (dropWarning tick (queueLabel queue) droppedCount) := by
  have books := books_run events
  obtain ⟨tried,reached⟩ := List.mem_filter.mp member
  rw [Bool.and_eq_true,beq_iff_eq] at reached
  obtain ⟨tick,data⟩ := books.attempts a tried
  cases write : a.write with
  | dropWarning queue droppedCount =>
    rw [write] at data reached
    exact ⟨reached.2.symm,tick,queue,droppedCount,data⟩
  | line entry =>
    rw [WriteAttempt.isLine,write] at noLine
    cases noLine
  | blob kind entry =>
    -- the record was appended under a path that names this file
    have popped : entry ∈ ((run events).attempts.map fun a => a.write).filterMap (Write.blob? kind) := by
      refine List.mem_filterMap.mpr ⟨a.write,List.mem_map.mpr ⟨a,tried,rfl⟩,?_⟩
      rw [write,Write.blob?,if_pos rfl]
    obtain ⟨⟨p,bytes⟩,among,rfl⟩ := List.mem_map.mp ((tried_blobs events kind).subset popped)
    obtain ⟨event,inRun,same⟩ := List.mem_filterMap.mp (List.mem_filter.mp among).1
    have named : p.take (maxQueuedPathLength - 1) = path := by
      rw [← reached.2,write,Write.path,QueuedBlob.of]
      rw [Nat.min_comm,← List.take_eq_take_min]
    cases event with
    | appendBytes q other =>
      cases q with
      | none => cases same
      | some q =>
        cases other with
        | none => cases same
        | some other =>
          obtain ⟨rfl,rfl⟩ := Prod.mk.inj (Option.some.inj same)
          exact absurd named (separate _ _ inRun)
    | initializeLogger | appendLine | log | flush | shutdown => cases same

end Run

/-- A file of lines, to which no binary record goes, is made of whole lines if every line fits its
slot together with the terminator. -/
theorem framed_run {events : List LoggerEvent} {path : CString}
    (ended : ∀ p line, .appendLine (some p) (some line) ∈ events → line.getLast? = some newline)
    (separate : ∀ p data, .appendBytes (some p) (some data) ∈ events →
      p.take (maxQueuedPathLength - 1) ≠ path)
    (fits : ∀ p line, .appendLine (some p) (some line) ∈ events → line.length < maxQueuedLineLength) :
    Framed path events ((run events).files path) := by
  have lines : ((((run events).written path).filter WriteAttempt.isLine).map WriteAttempt.data).Sublist
      (appendedTo path events) := written_appended ended fits
  have content := (books_run events).files path
  have warned : ∀ a ∈ (run events).written path, a.isLine = false → path = logFilePath ∧
      ∃ tick queue droppedCount, a.data = textBytes (dropWarning tick (queueLabel queue) droppedCount) :=
    fun a member noLine => written_warning separate member noLine
  have closed : ∀ a ∈ (run events).written path, a.data.getLast? = some newline := by
    intro a member
    cases line : a.isLine with
    | false =>
      obtain ⟨_,tick,queue,droppedCount,data⟩ := warned a member line
      rw [data]
      exact dropWarning_ended tick queue droppedCount
    | true =>
      have among := lines.subset (List.mem_map.mpr ⟨a,List.mem_filter.mpr ⟨member,line⟩,rfl⟩)
      obtain ⟨appended,inRun,own⟩ := List.mem_filterMap.mp among
      rw [lineFor] at own
      split at own
      · rw [← Option.some.inj own]
        exact (appendedLine_good ended fits inRun).1
      · cases own
  refine ⟨((run events).written path).map fun a => (a.isLine,a.data),?_,?_,?_,?_⟩
  · rw [List.flatMap_map]
    exact content
  · rw [List.filter_map,List.map_map]
    exact lines
  · intro r member noLine
    obtain ⟨a,among,rfl⟩ := List.mem_map.mp member
    exact warned a among noLine
  · rw [List.flatMap_map,content]
    exact splitAfter_flatMap closed

def flushes (steps : Nat) : List LoggerEvent :=
  List.replicate steps (.flush ⟨0,true,true,true,true,true,true,true,true,true⟩)

def tracePath : CString := "trace".toList

def twoLines (first second : Bytes) : List LoggerEvent :=
  [.initializeLogger,.appendLine (some tracePath) (some first),.appendLine (some tracePath) (some second)] ++
    flushes 8

theorem mem_twoLines {first second line : Bytes} {path : CString}
    (member : .appendLine (some path) (some line) ∈ twoLines first second) : line = first ∨ line = second := by
  simp only [twoLines,flushes,List.mem_append,List.mem_cons,List.not_mem_nil,or_false,List.mem_replicate] at member
  rcases member with (none | one | two) | ⟨_,none⟩
  · cases none
  · injection one with _ same
    exact .inl (Option.some.inj same)
  · injection two with _ same
    exact .inr (Option.some.inj same)
  · cases none

theorem not_mem_twoLines {first second data : Bytes} {path : CString} :
    .appendBytes (some path) (some data) ∉ twoLines first second := by
  simp [twoLines,flushes]

theorem framed_run_twoLines :
    Framed tracePath (twoLines [97,10] [98,10]) ((run (twoLines [97,10] [98,10])).files tracePath) := by
  refine framed_run ?_ ?_ ?_
  · intro path line member
    rcases mem_twoLines member with rfl | rfl <;> rfl
  · exact fun _ _ member => absurd member not_mem_twoLines
  · intro path line member
    rcases mem_twoLines member with rfl | rfl <;> decide

/-- A line of 2048 bytes loses its newline, and the next line runs on from it. -/
def longLine : Bytes := List.replicate 2047 97 ++ [10]

theorem run_not_framed :
    ¬∀ (events : List LoggerEvent) (path : CString),
      (∀ p line, .appendLine (some p) (some line) ∈ events → line.getLast? = some newline) →
      (∀ p data, .appendBytes (some p) (some data) ∈ events → p.take (maxQueuedPathLength - 1) ≠ path) →
      Framed path events ((run events).files path) := by
  intro framed
  obtain ⟨records,framedBy⟩ := framed (twoLines longLine [98,10]) tracePath
    (fun _ _ member => by rcases mem_twoLines member with rfl | rfl <;> decide +kernel)
    fun _ _ member => absurd member not_mem_twoLines
  have length : ((run (twoLines longLine [98,10])).files tracePath).length = 2049 := by decide +kernel
  have allLines : records.filter (fun r => r.1) = records := by
    apply List.filter_eq_self.mpr
    intro r member
    apply by_contra
    intro noLine
    have other := (framedBy.warnings r member (Bool.eq_false_iff.mpr noLine)).1
    revert other
    decide
  have appended : appendedTo tracePath (twoLines longLine [98,10]) = [longLine,[98,10]] := by decide +kernel
  have lines := framedBy.lines
  rw [allLines,appended] at lines
  have sum : ((records.map fun r => r.2).map List.length).sum = 2049 := by
    rw [framedBy.whole,List.length_flatMap] at length
    rw [List.map_map]
    exact length
  have long : longLine.length = 2048 := by decide +kernel
  generalize longLine = first at lines long
  rcases List.sublist_cons_iff.mp lines with rest | ⟨rest,kept,rest'⟩
  · rcases List.sublist_cons_iff.mp rest with none | ⟨tail,kept,none⟩
    · rw [List.sublist_nil.mp none] at sum
      cases sum
    · rw [kept,List.sublist_nil.mp none] at sum
      cases sum
  · rw [kept,List.map_cons,List.sum_cons,long] at sum
    rcases List.sublist_cons_iff.mp rest' with none | ⟨tail,rfl,none⟩
    · rw [List.sublist_nil.mp none] at sum
      cases sum
    · rw [List.sublist_nil.mp none] at sum
      cases sum

end NxReverse.Probe
