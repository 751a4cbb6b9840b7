import NxReverse.Lib.Dicts
import NxReverse.Lib.KeyValues
import NxReverse.Toolbox.UdpWorkloadMetrics
import NxReverse.Tools.RequesterHarness

/-! The lines that the two ends of a UDP workload log about it, and the tool that summarises such logs. -/
namespace NxReverse.Tools.Reports

open Text Words KeyValues Toolbox

abbrev PyStr := List Char

def scopeName : SummaryScope → PyStr
  | .flow => "flow".toList
  | .workload => "workload".toList

def flowName : Option Nat → PyStr
  | some flow => decimal flow
  | none => "all".toList

def summarySettings (row : SummaryRow) : List (PyStr × PyStr) := [
  ("kind".toList,row.kind.name),
  ("workload".toList,decimal row.workload),
  ("scope".toList,scopeName row.scope),
  ("flow".toList,flowName row.flow),
  ("received".toList,decimal row.received),
  ("received_bytes".toList,decimal row.receivedBytes),
  ("echoed".toList,decimal row.echoed),
  ("echoed_bytes".toList,decimal row.echoedBytes),
  ("unique".toList,decimal row.unique),
  ("duplicates".toList,decimal row.duplicates),
  ("reordered".toList,decimal row.reordered),
  ("receive_elapsed_ns".toList,signedDecimal row.receiveElapsedNs),
  ("sources".toList,row.sources)]

/-- A row of the summary as `log_summary` prints it. -/
def summaryLine (row : SummaryRow) : PyStr := "[udp-summary] ".toList ++ written '=' ' ' (summarySettings row)

def strayLine (name : String) (count : Nat) : PyStr :=
  "[udp-summary] ".toList ++ written '=' ' ' [(name.toList,decimal count)]

def strayLines (stats : UdpWorkloadStats) : List PyStr :=
  (if stats.unexpected ≠ 0 then [strayLine "unexpected_datagrams" stats.unexpected] else []) ++
    if stats.malformed ≠ 0 then [strayLine "malformed_workload_datagrams" stats.malformed] else []

def logSummary (stats : UdpWorkloadStats) : Option (List PyStr) :=
  stats.summaryRows.map fun rows => rows.map summaryLine ++ strayLines stats

/-- What the two scenarios count last. -/
def queueFullName : WorkloadKind → String
  | .wgnxTun => "queue_full_events"
  | .bsdSystem => "queue_full_retries"

structure LoggedMetrics where
  workloadKind : WorkloadKind
  workloadId : UInt32
  metrics : UdpWorkloadMetrics
  tickFrequency : UInt64
  queueFull : UInt32

namespace LoggedMetrics

variable (logged : LoggedMetrics)

def submissionElapsedNs : UInt64 := logged.metrics.submissionElapsedNanoseconds logged.tickFrequency

def settings : List (CString × CString) := [
  ("kind".toList,logged.workloadKind.name),
  ("workload".toList,decimal logged.workloadId.toNat),
  ("scope".toList,"workload".toList),
  ("flow".toList,"all".toList),
  ("attempted".toList,decimal logged.metrics.attemptedDatagrams.toNat),
  ("accepted".toList,decimal logged.metrics.submittedDatagrams.toNat),
  ("submitted_bytes".toList,decimal logged.metrics.submittedBytes.toNat),
  ("submission_elapsed_ns".toList,decimal logged.submissionElapsedNs.toNat),
  ("echoed".toList,decimal logged.metrics.echoedDatagrams.toNat),
  ("received_bytes".toList,decimal logged.metrics.echoedBytes.toNat),
  ("rtt_samples".toList,decimal logged.metrics.echoedDatagrams.toNat),
  ("rtt_min_ns".toList,decimal logged.metrics.rttMinNs.toNat),
  ("rtt_mean_ns".toList,decimal logged.metrics.rttMeanNanoseconds.toNat),
  ("rtt_p50_upper_ns".toList,decimal (logged.metrics.rttPercentileUpperNanoseconds 50).toNat),
  ("rtt_p95_upper_ns".toList,decimal (logged.metrics.rttPercentileUpperNanoseconds 95).toNat),
  ("rtt_p99_upper_ns".toList,decimal (logged.metrics.rttPercentileUpperNanoseconds 99).toNat),
  ("rtt_max_ns".toList,decimal logged.metrics.rttMaxNs.toNat),
  ((queueFullName logged.workloadKind).toList,decimal logged.queueFull.toNat)]

def line : CString := "[udp-workload-summary] ".toList ++ written '=' ' ' logged.settings

end LoggedMetrics

/-- What `WriteFormatted` writes to the log file, without the line's end. -/
def writeFormatted (timestampUtc : CString) (monotonicNs : Nat) (text : CString) : CString :=
  ['['] ++ timestampUtc ++ "][".toList ++ decimal monotonicNs ++ "] ".toList ++ snprintf 1024 text

/-- What Python knows of the characters behind ASCII. -/
structure Unicode where
  alnum : Char → Bool
  digit : Char → Option Nat

namespace Unicode

variable (u : Unicode)

def word (c : Char) : Bool := if c.toNat < 128 then c.isAlphanum || c == '_' else u.alnum c

def digitValue (c : Char) : Option Nat :=
  if c.isDigit then some (c.toNat - 48) else if c.toNat < 128 then none else u.digit c

/-- `(\d+)`, and what is behind it. -/
def digits (text : PyStr) : Option (PyStr × PyStr) :=
  let number := text.takeWhile fun c => (u.digitValue c).isSome
  if number = [] then none else some (number,text.drop number.length)

end Unicode

def isSpace (c : Char) : Bool :=
  let n := c.toNat
  (0x9 ≤ n && n ≤ 0xd) || (0x1c ≤ n && n ≤ 0x20) || n == 0x85 || n == 0xa0 || n == 0x1680 ||
    (0x2000 ≤ n && n ≤ 0x200a) || n == 0x2028 || n == 0x2029 || n == 0x202f || n == 0x205f || n == 0x3000

def isLineBreak (c : Char) : Bool :=
  let n := c.toNat
  (0xa ≤ n && n ≤ 0xd) || (0x1c ≤ n && n ≤ 0x1e) || n == 0x85 || n == 0x2028 || n == 0x2029

def splitlinesFrom (line : PyStr) : PyStr → List PyStr
  | [] => if line = [] then [] else [line]
  | '\r' :: '\n' :: rest => line :: splitlinesFrom [] rest
  | c :: rest => if isLineBreak c then line :: splitlinesFrom [] rest else splitlinesFrom (line ++ [c]) rest

/-- The line ends that reading a text file translates are all split at. -/
def splitlines (text : PyStr) : List PyStr := splitlinesFrom [] text

inductive PyError where
  | value | overflow | key
  deriving DecidableEq, Repr

section Summaries

variable (u : Unicode) (quotient : Int → Int → Except PyError PyStr)

/-- Digits with single underscores between them. -/
def digitsValue (underscore : Bool) (value : Nat) : PyStr → Option Nat
  | [] => if underscore then some value else none
  | '_' :: rest => if underscore then digitsValue false value rest else none
  | c :: rest =>
    match u.digitValue c with
    | some digit => digitsValue true (value * 10 + digit) rest
    | none => none

/-- `int(text)`, without the interpreter's limit of 4300 digits. -/
def pyInt (text : PyStr) : Except PyError Int :=
  let value := match (text.dropWhile isSpace).rdropWhile isSpace with
    | '-' :: rest => (digitsValue u false 0 rest).map fun value => -(value : Int)
    | '+' :: rest => (digitsValue u false 0 rest).map Int.ofNat
    | body => (digitsValue u false 0 body).map Int.ofNat
  value.elim (.error .value) .ok

abbrev Row := List (PyStr × PyStr)

structure RequesterMatch where
  status : PyStr
  sent : PyStr
  received : PyStr
  detail : PyStr

def status (text : PyStr) : Option (PyStr × PyStr) :=
  ((text.dropPrefix? "[OK".toList).map ("OK".toList,·)).or ((text.dropPrefix? "[FAIL".toList).map ("FAIL".toList,·))

def requester (text : PyStr) : Option RequesterMatch := do
  let (status,text) ← status text
  let (sent,text) ← u.digits (← text.dropPrefix? "] bsd_system_udp_workload | sent=".toList)
  let (received,text) ← u.digits (← text.dropPrefix? " recv=".toList)
  return ⟨status,sent,received,← text.dropPrefix? " | ".toList⟩

def requesterMetrics (text : PyStr) : Option PyStr := text.dropPrefix? "[udp-workload-summary] ".toList
def harness (text : PyStr) : Option PyStr := text.dropPrefix? "[udp-summary] ".toList
def mitm (text : PyStr) : Option PyStr := text.dropPrefix? "tunnel flow summary ".toList
def mitmWorker (text : PyStr) : Option PyStr := text.dropPrefix? "tunnel worker summary ".toList

def wgnx (text : PyStr) : Option PyStr := do
  let detail ← text.dropPrefix? "Closed tunnel UDP ".toList
  let rest ← detail.dropPrefix? "flow=".toList
  if (find "send_attempts=".toList rest).isSome then return detail else failure

def fields (detail : PyStr) : Row := Dicts.setAll [] (settings u.word isSpace '=' detail)

def getText (name : String) (row : Row) : Option PyStr := Dicts.get name.toList row

def setText (name : String) (value : PyStr) (row : Row) : Row := Dicts.set name.toList value row

/-- `row.pop(name, default)`. -/
def pop (name : String) (default : PyStr) (row : Row) : PyStr × Row :=
  ((getText name row).getD default,row.filter fun pair => pair.1 ≠ name.toList)

def setdefault (name : String) (value : PyStr) (row : Row) : Row :=
  if (getText name row).isSome then row else setText name value row

def rateMbS : Option PyStr → Option PyStr → Except PyError (Option PyStr)
  | some byteCount,some elapsedNs => do
    if (← pyInt u elapsedNs) = 0 then return none
    return some (← quotient ((← pyInt u byteCount) * 1000) (← pyInt u elapsedNs))
  | _,_ => return none

/-- The rows of the two ends of a workload: their own kind goes to `workload_kind`. -/
def measuredRow (kind byteCount elapsedNs rate : String) (detail : PyStr) : Except PyError Row := do
  let (workloadKind,row) := pop "kind" ['-'] (fields u detail)
  let row := setText "kind" kind.toList (setText "workload_kind" workloadKind row)
  match ← rateMbS u quotient (getText byteCount row) (getText elapsedNs row) with
  | some value => return setText rate value row
  | none => return row

def requesterRow (found : RequesterMatch) : Row :=
  setText "received" found.received (setText "sent" found.sent (setText "status" found.status
    (setText "kind" "requester".toList (fields u found.detail))))

/-- The row of a line, by the first pattern that is found in it. -/
def rowForLine (line : PyStr) : Except PyError (Option Row) :=
  match search (requester u) line with
  | some found => return some (requesterRow u found)
  | none => match search requesterMetrics line with
    | some detail => return some (← measuredRow u quotient "requester" "submitted_bytes" "submission_elapsed_ns"
        "submission_rate_mb_s" detail)
    | none => match search harness line with
      | some detail => return some (← measuredRow u quotient "harness" "received_bytes" "receive_elapsed_ns"
          "receiver_goodput_mb_s" detail)
      | none => match search mitm line with
        | some detail => return some (setText "kind" "mitm".toList (fields u detail))
        | none => match search mitmWorker line with
          | some detail => return some (setText "kind" "mitm-worker".toList (fields u detail))
          | none => return (search wgnx line).map fun detail => setText "kind" "wgnx".toList (fields u detail)

def withDefaults (label : PyStr) (row : Row) : Row :=
  let row := setdefault "workload" ['-'] (setdefault "run" label row)
  setdefault "flow" ((getText "fd" row).getD ['-']) row

def rowsForFile (text label : PyStr) : Except PyError (List Row) := do
  let rows ← (splitlines text).mapM (rowForLine u quotient)
  return (rows.filterMap id).map (withDefaults label)

def item (name : String) (row : Row) : Except PyError PyStr := (getText name row).elim (.error .key) .ok

def counter (row : Row) (name : String) : Except PyError Int := do pyInt u (← item name row)

def hasAll (names : List String) (row : Row) : Bool := names.all fun name => (getText name row).isSome

def mitmCounters : List String :=
  ["sends","adapter_queued","adapter_queue_full","too_large","accepted","discarded","queued"]

def unlessHolds (condition : Prop) [Decidable condition] (error : Except PyError PyStr) : Except PyError (List PyStr) :=
  if condition then return [] else return [← error]

def checkMitm (row : Row) : Except PyError (List PyStr) := do
  let sends ← counter u row "sends"
  let adapterQueued ← counter u row "adapter_queued"
  let adapterQueueFull ← counter u row "adapter_queue_full"
  let tooLarge ← counter u row "too_large"
  let admission ← unlessHolds (sends = adapterQueued + adapterQueueFull + tooLarge) do
    return "MITM fd=".toList ++ (← item "flow" row) ++ ": sends=".toList ++ signedDecimal sends ++
      " does not equal adapter_queued + adapter_queue_full + too_large".toList
  let accepted ← counter u row "accepted"
  let discarded ← counter u row "discarded"
  let queued ← counter u row "queued"
  let drain ← unlessHolds (adapterQueued = accepted + discarded + queued) do
    return "MITM fd=".toList ++ (← item "flow" row) ++ ": adapter_queued=".toList ++ signedDecimal adapterQueued ++
      " does not equal accepted + discarded + queued".toList
  return admission ++ drain

def checkWgnx (row : Row) : Except PyError (List PyStr) := do
  let sendAdmitted ← counter u row "send_admitted"
  let sendAttempts ← counter u row "send_attempts"
  unlessHolds (sendAdmitted ≤ sendAttempts) do
    return "WGNX flow=".toList ++ (← item "flow" row) ++ ": send_admitted exceeds send_attempts".toList

def countsMitm (kind : PyStr) (row : Row) : Bool := kind == "mitm".toList && hasAll mitmCounters row

def countsWgnx (kind : PyStr) (row : Row) : Bool :=
  kind == "wgnx".toList && hasAll ["send_attempts","send_admitted"] row

def whenCounted (counts : Bool) (errors : Except PyError (List PyStr)) : Except PyError (List PyStr) :=
  if counts then errors else return []

def checkRow (row : Row) : Except PyError (List PyStr × Bool) := do
  let kind ← item "kind" row
  let mitmErrors ← whenCounted (countsMitm kind row) (checkMitm u row)
  let wgnxErrors ← whenCounted (countsWgnx kind row) (checkWgnx u row)
  return (mitmErrors ++ wgnxErrors,countsMitm kind row)

def check (rows : List Row) : Except PyError (List PyStr × Nat) := do
  let results ← rows.mapM (checkRow u)
  return (results.flatMap Prod.fst,results.countP Prod.snd)

def rowsForLogs (label : PyStr) : List (Option PyStr) → Except PyError (Option (List Row))
  | [] => return some []
  | none :: _ => return none
  | some text :: rest => do
    let rows ← rowsForFile u quotient text label
    return (← rowsForLogs label rest).map (rows ++ ·)

/-- The exit status of `main`. -/
def exitStatus (logs : List (Option PyStr)) (label : PyStr) (checks : Bool) : Except PyError Nat := do
  let some rows ← rowsForLogs u quotient label logs | return 2
  if rows = [] then return 2
  if !checks then return 0
  let (errors,mitmChecks) ← check u rows
  return if errors ≠ [] then 1 else if mitmChecks = 0 then 2 else 0

end Summaries

end NxReverse.Tools.Reports
