import NxReverse.Tools.HarnessReports

/-! The metrics that a requester logs are read back, wherever their line stands in its log. -/
namespace NxReverse.Tools.Reports

open Text Words KeyValues Toolbox

variable {u : Unicode}

section Requester

variable {quotient : Int → Int → Except PyError PyStr} {label : PyStr} {logged : LoggedMetrics}

theorem plain_metricsSettings :
    ∀ pair ∈ logged.settings, Plain pair.2 ∧ pair.2.length ≤ 20 := by
  have number (value : Nat) (small : value < 10 ^ 20) : Plain (decimal value) ∧ (decimal value).length ≤ 20 :=
    ⟨plain_decimal value,length_decimal_le (by decide) small⟩
  have word (value : UInt32) := number value.toNat (Nat.lt_trans value.toNat_lt (by decide))
  have long (value : UInt64) := number value.toNat (Nat.lt_trans value.toNat_lt (by decide))
  have name : Plain logged.workloadKind.name ∧ logged.workloadKind.name.length ≤ 20 :=
    ⟨plain_name _,by cases logged.workloadKind <;> decide⟩
  simp only [LoggedMetrics.settings,List.forall_mem_cons]
  exact ⟨name,word _,⟨.of_all (by decide),by decide⟩,⟨.of_all (by decide),by decide⟩,word _,word _,long _,long _,
    word _,long _,word _,long _,long _,long _,long _,long _,long _,word _,List.forall_mem_nil _⟩

def metricsNames (kind : WorkloadKind) : List PyStr := ["kind".toList,"workload".toList,"scope".toList,"flow".toList,
  "attempted".toList,"accepted".toList,"submitted_bytes".toList,"submission_elapsed_ns".toList,"echoed".toList,
  "received_bytes".toList,"rtt_samples".toList,"rtt_min_ns".toList,"rtt_mean_ns".toList,"rtt_p50_upper_ns".toList,
  "rtt_p95_upper_ns".toList,"rtt_p99_upper_ns".toList,"rtt_max_ns".toList,(queueFullName kind).toList]

theorem names_metricsSettings :
    logged.settings.map Prod.fst = metricsNames logged.workloadKind := rfl

theorem setting_metrics :
    ∀ pair ∈ logged.settings, Setting pair := by
  have worded : ∀ kind : WorkloadKind, (metricsNames kind).all fun name =>
      name ≠ [] && name.all fun c => c.isAlphanum || c == '_' := by
    intro kind
    cases kind <;> decide
  intro pair member
  have named := List.mem_map_of_mem (f := Prod.fst) member
  rw [names_metricsSettings] at named
  exact ⟨List.all_eq_true.mp (worded logged.workloadKind) _ named,(plain_metricsSettings pair member).1.filled⟩

theorem open_metrics : Open "submission_rate_mb_s"
    (logged.settings.tail.map Prod.fst) := by
  rw [List.map_tail,names_metricsSettings]
  cases logged.workloadKind <;> exact ⟨by decide,by decide,by decide,by decide⟩

theorem length_written_le {bound : Nat} {pairs : List (PyStr × PyStr)} (short : ∀ pair ∈ pairs, pair.2.length ≤ bound) :
    (written '=' ' ' pairs).length ≤ ((pairs.map Prod.fst).map List.length).sum + pairs.length * (bound + 2) := by
  induction pairs with
  | nil => exact Nat.zero_le _
  | cons pair rest ih =>
    have here := short pair List.mem_cons_self
    have later := ih fun other member => short other (List.mem_cons_of_mem _ member)
    cases rest with
    | nil =>
      simp [written]
      omega
    | cons next rest =>
      rw [written_cons pair (List.cons_ne_nil _ _),List.map_cons,List.map_cons,List.sum_cons,List.length_cons,Nat.add_mul]
      simp only [List.length_append,List.length_cons] at later ⊢
      omega

theorem length_metricsNames (kind : WorkloadKind) : ((metricsNames kind).map List.length).sum ≤ 250 := by
  cases kind <;> decide

/-- The buffer of the logger holds the whole line. -/
theorem length_metricsLine : logged.line.length ≤ 1023 := by
  have short : (written '=' ' ' logged.settings).length ≤
      ((metricsNames logged.workloadKind).map List.length).sum + 18 * 22 :=
    length_written_le fun pair member => (plain_metricsSettings pair member).2
  have mark : "[udp-workload-summary] ".toList.length = 23 := by decide
  have whole : logged.line.length = 23 +
      (written '=' ' ' logged.settings).length :=
    List.length_append.trans (congrArg (· + _) mark)
  exact whole.trans_le (Nat.le_trans (Nat.add_le_add_left (Nat.le_trans short (Nat.add_le_add_right
    (length_metricsNames _) _)) _) (by decide))

def isStamp (c : Char) : Bool := c.isDigit || c == '-' || c == ':' || c == 'T' || c == 'Z' || c == ']'

theorem isStamp_apart {c : Char} (stamp : isStamp c = true) : c ≠ 'O' ∧ c ≠ 'F' ∧ c ≠ 'u' ∧ c ≠ '[' ∧ isLineBreak c = false := by
  simp only [isStamp,Bool.or_eq_true,beq_iff_eq] at stamp
  rcases stamp with ((((digit | rfl) | rfl) | rfl) | rfl) | rfl
  · have bounds : 48 ≤ c.toNat ∧ c.toNat ≤ 57 := Char.isDigit_iff_toNat.mp digit
    refine ⟨?_,?_,?_,?_,isLineBreak_of_not_isSpace (isSpace_of_between (by omega) (by omega))⟩ <;> rintro rfl <;> cases digit
  all_goals decide

/-- A bracket and a stamp hide no pattern that goes on otherwise behind its bracket. -/
theorem search_stamp {β : Type} {matchAt : PyStr → Option β} (begins : Begins matchAt '[')
    (bracket : ∀ c rest, isStamp c = true → matchAt ('[' :: c :: rest) = none) {stamp : PyStr}
    (stamped : ∀ c ∈ stamp, isStamp c = true) (rest : PyStr) :
    search matchAt ('[' :: (stamp ++ ']' :: rest)) = search matchAt rest := by
  have front : ∀ c ∈ stamp ++ [']'], isStamp c = true := by
    refine List.forall_mem_append.mpr ⟨stamped,List.forall_mem_singleton.mpr ?_⟩
    decide
  have opened : ∀ text, text ≠ [] → (∀ c ∈ text, isStamp c = true) → matchAt ('[' :: (text ++ rest)) = none := by
    intro text nonempty all
    cases text with
    | nil => exact absurd rfl nonempty
    | cons c more => exact bracket c (more ++ rest) (all c List.mem_cons_self)
  have split : stamp ++ ']' :: rest = stamp ++ [']'] ++ rest := by rw [List.append_assoc]; rfl
  rw [split,search_cons (opened _ (by simp) front)]
  exact begins.skip (fun member => (isStamp_apart (front _ member)).2.2.2.1 rfl) rest

/-- Behind the stamps of the logger. -/
theorem search_stamps {β : Type} {matchAt : PyStr → Option β} (begins : Begins matchAt '[')
    (bracket : ∀ c rest, isStamp c = true → matchAt ('[' :: c :: rest) = none) {timestampUtc : CString}
    (stamped : ∀ c ∈ timestampUtc, isStamp c = true) (monotonicNs : Nat) {text : CString} (fits : text.length ≤ 1023) :
    search matchAt (writeFormatted timestampUtc monotonicNs text) = search matchAt text := by
  have digits : ∀ c ∈ decimal monotonicNs, isStamp c = true := fun c member => by
    rw [isStamp,isDigit_of_mem_decimal member]
    rfl
  have whole : writeFormatted timestampUtc monotonicNs text =
      '[' :: (timestampUtc ++ ']' :: '[' :: (decimal monotonicNs ++ ']' :: ' ' :: text)) := by
    rw [writeFormatted,snprintf,List.take_of_length_le fits]
    simp
  have blank : matchAt (' ' :: text) = none := begins ' ' text (by decide)
  rw [whole,search_stamp begins bracket stamped,search_stamp begins bracket digits,search_cons blank]

theorem unbroken_writeFormatted {timestampUtc : CString} (stamped : ∀ c ∈ timestampUtc, isStamp c = true)
    (monotonicNs : Nat) : Unbroken (writeFormatted timestampUtc monotonicNs logged.line) := by
  have line : Unbroken logged.line := List.forall_mem_append.mpr ⟨Unbroken.of_all (by decide),unbroken_written setting_metrics⟩
  have digits : Unbroken (decimal monotonicNs) := fun c member =>
    isLineBreak_of_not_isSpace ((plain_decimal monotonicNs).filled.filled c member)
  have stamp : Unbroken timestampUtc := fun c member => (isStamp_apart (stamped c member)).2.2.2.2
  rw [writeFormatted,snprintf,List.take_of_length_le length_metricsLine]
  refine List.forall_mem_append.mpr ⟨List.forall_mem_append.mpr ⟨List.forall_mem_append.mpr ⟨List.forall_mem_append.mpr
    ⟨List.forall_mem_append.mpr ⟨?_,stamp⟩,?_⟩,digits⟩,?_⟩,line⟩
  all_goals exact Unbroken.of_all (by decide)

theorem search_metrics : search requesterMetrics logged.line =
    some (written '=' ' ' logged.settings) :=
  search_here (List.dropPrefix?_append_of_beq _ BEq.rfl)

theorem requester_metrics : search (requester u) logged.line = none := by
  have mark : "[udp-workload-summary] ".toList = '[' :: 'u' :: "dp-workload-summary] ".toList := by decide
  have split : logged.line = '[' :: 'u' :: ("dp-workload-summary] ".toList ++ written '=' ' ' logged.settings) :=
    congrArg (· ++ written '=' ' ' logged.settings) mark
  have plain : '[' ∉ 'u' :: ("dp-workload-summary] ".toList ++ written '=' ' ' logged.settings) := by
    rw [List.mem_cons,List.mem_append,not_or,not_or]
    refine ⟨by decide,by decide,bracket_written setting_metrics fun pair member inside => ?_⟩
    exact (isPlain_bounds ((plain_metricsSettings pair member).1.plain _ inside)).2.2.1 rfl
  rewrite [split,search_cons (requester_bracket (by decide) (by decide) _)]
  exact requester_begins.search_none rfl plain

/-- The line of a logger, as it is read. -/
theorem readLine_metricsLine {timestampUtc : CString} (stamped : ∀ c ∈ timestampUtc, isStamp c = true) (monotonicNs : Nat) :
    readLine u quotient label (writeFormatted timestampUtc monotonicNs
      logged.line) =
      (rateOf quotient logged.metrics.submittedBytes.toNat logged.submissionElapsedNs.toNat).map
        fun rate => some (measured label logged.workloadKind.name "requester" "submission_rate_mb_s"
          logged.settings.tail rate) := by
  have line : rowForLine u quotient (writeFormatted timestampUtc monotonicNs
      logged.line) =
      (measuredRow u quotient "requester" "submitted_bytes" "submission_elapsed_ns" "submission_rate_mb_s"
        (written '=' ' ' logged.settings)).map some := by
    rewrite [rowForLine,search_stamps requester_begins
      (fun c rest stamp => requester_bracket (isStamp_apart stamp).1 (isStamp_apart stamp).2.1 rest) stamped monotonicNs
      length_metricsLine,requester_metrics,search_stamps metrics_begins
      (fun c rest stamp => metrics_bracket (isStamp_apart stamp).2.2.1 rest) stamped monotonicNs length_metricsLine,
      search_metrics]
    rfl
  have bytes : ("submitted_bytes".toList,decimal logged.metrics.submittedBytes.toNat) ∈
      logged.settings.tail := @List.mem_of_getElem? _ _ 5 _ rfl
  have elapsed : ("submission_elapsed_ns".toList,
      decimal logged.submissionElapsedNs.toNat) ∈
      logged.settings.tail := @List.mem_of_getElem? _ _ 6 _ rfl
  have made := @measuredRow_eq u quotient label logged.workloadKind.name "requester" "submission_rate_mb_s" "submitted_bytes"
    "submission_elapsed_ns" logged.settings.tail (by decide)
    setting_metrics open_metrics _ _ _ _ bytes elapsed (pyInt_decimal _) (pyInt_decimal _)
  exact readLine_of_made line made

/-- A row that tells what the requester has measured. -/
structure Measured (u : Unicode) (quotient : Int → Int → Except PyError PyStr) (label : PyStr) (logged : LoggedMetrics)
    (read : Row) : Prop where
  kind : getText "kind" read = some "requester".toList
  run : getText "run" read = some label
  workloadKind : getText "workload_kind" read = some logged.workloadKind.name
  workload : counter u read "workload" = .ok logged.workloadId.toNat
  attempted : counter u read "attempted" = .ok logged.metrics.attemptedDatagrams.toNat
  accepted : counter u read "accepted" = .ok logged.metrics.submittedDatagrams.toNat
  submittedBytes : counter u read "submitted_bytes" = .ok logged.metrics.submittedBytes.toNat
  submissionElapsedNs : counter u read "submission_elapsed_ns" = .ok logged.submissionElapsedNs.toNat
  echoed : counter u read "echoed" = .ok logged.metrics.echoedDatagrams.toNat
  receivedBytes : counter u read "received_bytes" = .ok logged.metrics.echoedBytes.toNat
  rttMinNs : counter u read "rtt_min_ns" = .ok logged.metrics.rttMinNs.toNat
  rttMeanNs : counter u read "rtt_mean_ns" = .ok logged.metrics.rttMeanNanoseconds.toNat
  rttP50UpperNs : counter u read "rtt_p50_upper_ns" = .ok (logged.metrics.rttPercentileUpperNanoseconds 50).toNat
  rttP95UpperNs : counter u read "rtt_p95_upper_ns" = .ok (logged.metrics.rttPercentileUpperNanoseconds 95).toNat
  rttP99UpperNs : counter u read "rtt_p99_upper_ns" = .ok (logged.metrics.rttPercentileUpperNanoseconds 99).toNat
  rttMaxNs : counter u read "rtt_max_ns" = .ok logged.metrics.rttMaxNs.toNat
  queueFull : counter u read (queueFullName logged.workloadKind) = .ok logged.queueFull.toNat
  rate : rateOf quotient logged.metrics.submittedBytes.toNat logged.submissionElapsedNs.toNat =
    .ok (getText "submission_rate_mb_s" read)

def requesterRowOf (label : PyStr) (logged : LoggedMetrics) (rate : Option PyStr) : Row :=
  measured label logged.workloadKind.name "requester" "submission_rate_mb_s" logged.settings.tail rate

theorem measures {rate : Option PyStr}
    (same : rateOf quotient logged.metrics.submittedBytes.toNat logged.submissionElapsedNs.toNat = .ok rate) :
    Measured u quotient label logged (requesterRowOf label logged rate) := by
  have told : Told label logged.workloadKind.name "requester" "submission_rate_mb_s" rate
      (requesterRowOf label logged rate) := told_measured (by decide) open_metrics
  have found (i : Nat) {name : String} {value : Nat}
      (stands : logged.settings.tail[i]? = some (name.toList,decimal value)) :
      counter u (requesterRowOf label logged rate) name = .ok value :=
    counter_of_text (measured_rest open_metrics i stands) (pyInt_decimal value)
  exact {
    told with
    workload := found 0 rfl
    attempted := found 3 rfl
    accepted := found 4 rfl
    submittedBytes := found 5 rfl
    submissionElapsedNs := found 6 rfl
    echoed := found 7 rfl
    receivedBytes := found 8 rfl
    rttMinNs := found 10 rfl
    rttMeanNs := found 11 rfl
    rttP50UpperNs := found 12 rfl
    rttP95UpperNs := found 13 rfl
    rttP99UpperNs := found 14 rfl
    rttMaxNs := found 15 rfl
    queueFull := found 16 rfl
    rate := same.trans (congrArg Except.ok told.rate.symm)}

/-- The line of the metrics fits the logger's buffer and, wherever it stands in a log, is read back with all of them. -/
theorem rowsForFile_metrics {timestampUtc : CString} (stamped : ∀ c ∈ timestampUtc, isStamp c = true)
    (monotonicNs : Nat) (formats : logged.submissionElapsedNs.toNat ≠ 0 → ∃ text,
      quotient (logged.metrics.submittedBytes.toNat * 1000) logged.submissionElapsedNs.toNat = .ok text)
    {before after : List PyStr} (unbroken : ∀ line ∈ before ++ after, Unbroken line) {front back : List Row}
    (fronts : rowsForFile u quotient (textOf before) label = .ok front)
    (backs : rowsForFile u quotient (textOf after) label = .ok back) :
    logged.line.length < 1024 ∧ ∃ read, Measured u quotient label logged read ∧
      rowsForFile u quotient (textOf (before ++ writeFormatted timestampUtc monotonicNs logged.line :: after)) label =
        .ok (front ++ read :: back) := by
  have formatted : ∃ rate, rateOf quotient logged.metrics.submittedBytes.toNat logged.submissionElapsedNs.toNat =
      .ok rate := by
    by_cases still : logged.submissionElapsedNs.toNat = 0
    · exact ⟨none,if_pos (by rw [still]; rfl)⟩
    · obtain ⟨text,same⟩ := formats still
      exact ⟨some text,by rw [rateOf,if_neg (by simpa using still),same]; rfl⟩
  obtain ⟨rate,same⟩ := formatted
  refine ⟨Nat.lt_succ_of_le length_metricsLine,requesterRowOf label logged rate,measures same,?_⟩
  obtain ⟨unbrokenBefore,unbrokenAfter⟩ := List.forall_mem_append.mp unbroken
  have read : readLine u quotient label (writeFormatted timestampUtc monotonicNs logged.line) =
      .ok (some (requesterRowOf label logged rate)) := by
    rw [readLine_metricsLine stamped,same]
    rfl
  have unbrokenLine := @unbroken_writeFormatted logged _ stamped monotonicNs
  have one : rowsForFile u quotient (textOf [writeFormatted timestampUtc monotonicNs logged.line]) label =
      .ok [requesterRowOf label logged rate] :=
    rowsForFile_of_readAs (.cons ⟨unbrokenLine,read⟩ .nil)
  have behind := rowsForFile_append (List.forall_mem_append.mpr ⟨List.forall_mem_singleton.mpr unbrokenLine,unbrokenAfter⟩)
    one backs
  exact rowsForFile_append (List.forall_mem_append.mpr ⟨unbrokenBefore,List.forall_mem_cons.mpr
    ⟨unbrokenLine,unbrokenAfter⟩⟩) fronts behind

end Requester

def secondApart : LoggedMetrics where
  workloadKind := .bsdSystem
  workloadId := 7
  metrics := ((UdpWorkloadMetrics.empty.recordAttempt.recordSubmission 0 24).recordAttempt.recordSubmission 19200000 24)
  tickFrequency := 19200000
  queueFull := 1

theorem rowsForFile_metrics_second : ∃ read, Measured asciiOnly (fun _ _ => .ok "0.000".toList) "run".toList secondApart read ∧
    rowsForFile asciiOnly (fun _ _ => .ok "0.000".toList) (textOf (["toolbox start".toList] ++
      writeFormatted "2026-01-02T03:04:05Z".toList 5 secondApart.line :: ["toolbox end".toList])) "run".toList =
      .ok ([] ++ read :: []) := by
  have unbroken : ∀ line ∈ ["toolbox start".toList,"toolbox end".toList], Unbroken line :=
    List.forall_mem_cons.mpr ⟨Unbroken.of_all (by decide),List.forall_mem_singleton.mpr (Unbroken.of_all (by decide))⟩
  exact (rowsForFile_metrics (List.all_eq_true.mp (by decide)) 5 (fun _ => ⟨_,rfl⟩) unbroken rfl rfl).2

end NxReverse.Tools.Reports
