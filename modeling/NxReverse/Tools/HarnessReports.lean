import NxReverse.Tools.ReportRows
import NxReverse.Tools.WorkloadDelivery

/-! The log of a requester harness is read back: a row for every row of its summary, with the same numbers. -/
namespace NxReverse.Tools.Reports

open Text Words KeyValues

variable {u : Unicode}

section Harness

variable {quotient : Int → Int → Except PyError PyStr} {label : PyStr} {row : SummaryRow}

theorem plain_name (kind : WorkloadKind) : Plain kind.name := by
  cases kind <;> exact .of_all (by decide)

theorem plain_scopeName (scope : SummaryScope) : Plain (scopeName scope) := by
  cases scope <;> exact .of_all (by decide)

theorem plain_flowName (flow : Option Nat) : Plain (flowName flow) := by
  cases flow with
  | none => exact .of_all (by decide)
  | some flow => exact plain_decimal flow

theorem plain_summarySettings : ∀ pair ∈ (summarySettings row).dropLast, Plain pair.2 := by
  simp only [summarySettings,List.dropLast,List.forall_mem_cons]
  exact ⟨plain_name _,plain_decimal _,plain_scopeName _,plain_flowName _,plain_decimal _,plain_decimal _,
    plain_decimal _,plain_decimal _,plain_decimal _,plain_decimal _,plain_decimal _,plain_signedDecimal _,
    List.forall_mem_nil _⟩

theorem names_summarySettings : (summarySettings row).map Prod.fst = ["kind".toList,"workload".toList,"scope".toList,
    "flow".toList,"received".toList,"received_bytes".toList,"echoed".toList,"echoed_bytes".toList,"unique".toList,
    "duplicates".toList,"reordered".toList,"receive_elapsed_ns".toList,"sources".toList] := rfl

theorem setting_summary (sources : Filled row.sources) : ∀ pair ∈ summarySettings row, Setting pair := by
  have worded : ((summarySettings row).map Prod.fst).all fun name =>
      name ≠ [] && name.all fun c => c.isAlphanum || c == '_' := by
    rw [names_summarySettings]
    decide
  have split : summarySettings row = (summarySettings row).dropLast ++ [("sources".toList,row.sources)] := rfl
  intro pair member
  refine ⟨List.all_eq_true.mp worded _ (List.mem_map.mpr ⟨pair,member,rfl⟩),?_⟩
  rw [split,List.mem_append,List.mem_singleton] at member
  rcases member with member | rfl
  · exact (plain_summarySettings pair member).filled
  · exact sources

theorem open_summary : Open "receiver_goodput_mb_s" ((summarySettings row).tail.map Prod.fst) := by
  rw [List.map_tail,names_summarySettings]
  exact ⟨by decide,by decide,by decide,by decide⟩

def harnessRow (label : PyStr) (row : SummaryRow) (rate : Option PyStr) : Row :=
  measured label row.kind.name "harness" "receiver_goodput_mb_s" (summarySettings row).tail rate

/-- Behind its mark, no line of the summary looks like one of the requester. -/
theorem search_summary_none {β : Type} {matchAt : PyStr → Option β} (begins : Begins matchAt '[')
    (contains : Contains matchAt ' ') (here : ∀ detail, matchAt ("[udp-summary] ".toList ++ detail) = none)
    {pairs : List (PyStr × PyStr)} (settings : ∀ pair ∈ pairs, Setting pair) (plain : ∀ pair ∈ pairs, Plain pair.2)
    {name value : PyStr} (last : Setting (name,value)) :
    search matchAt ("[udp-summary] ".toList ++ written '=' ' ' (pairs ++ [(name,value)])) = none := by
  have fronts : '[' ∉ "udp-summary] ".toList ++ written '=' ' ' (pairs ++ [(name,[])]) := by
    rw [List.mem_append,not_or]
    refine ⟨by decide,fun member => ?_⟩
    rcases mem_written member with same | same | ⟨pair,inside,within⟩
    · cases same
    · cases same
    · rcases List.mem_append.mp inside with earlier | latest
      · rcases within with named | valued
        · exact (isPlain_bounds ((settings pair earlier).name named).2).2.2.1 rfl
        · exact (isPlain_bounds ((plain pair earlier).plain _ valued)).2.2.1 rfl
      · cases List.mem_singleton.mp latest
        rcases within with named | valued
        · exact (isPlain_bounds (last.name named).2).2.2.1 rfl
        · cases valued
  have split : "udp-summary] ".toList ++ written '=' ' ' (pairs ++ [(name,value)]) =
      "udp-summary] ".toList ++ written '=' ' ' (pairs ++ [(name,[])]) ++ value := by
    rw [written_concat,List.append_assoc]
  have behind : search matchAt ("udp-summary] ".toList ++ written '=' ' ' (pairs ++ [(name,value)])) = none := by
    rw [split]
    exact search_settings_none begins contains fronts last.filled.filled
  exact (search_cons (here _)).trans behind

theorem requester_summary (detail : PyStr) : requester u ("[udp-summary] ".toList ++ detail) = none := by
  have mark : "[udp-summary] ".toList = '[' :: 'u' :: "dp-summary] ".toList := by decide
  rw [mark]
  exact requester_bracket (by decide) (by decide) _

/-- A line of the summary is read as the harness's. -/
theorem rowForLine_summary {all pairs : List (PyStr × PyStr)} {name value : PyStr} (split : all = pairs ++ [(name,value)])
    (settings : ∀ pair ∈ pairs, Setting pair) (plain : ∀ pair ∈ pairs, Plain pair.2) (last : Setting (name,value)) :
    rowForLine u quotient ("[udp-summary] ".toList ++ written '=' ' ' all) =
      (measuredRow u quotient "harness" "received_bytes" "receive_elapsed_ns" "receiver_goodput_mb_s"
        (written '=' ' ' all)).map some := by
  subst split
  rw [rowForLine,search_summary_none requester_begins requester_contains requester_summary settings plain last,
    search_summary_none metrics_begins metrics_contains metrics_summary settings plain last,search_harness]
  rfl

def strayRow (label : PyStr) (name : String) (count : Nat) : Row := [
  (name.toList,decimal count),("workload_kind".toList,['-']),("kind".toList,"harness".toList),("run".toList,label),
  ("workload".toList,['-']),("flow".toList,['-'])]

def strayNames : List String := ["unexpected_datagrams","malformed_workload_datagrams"]

theorem setting_stray {name : String} (stray : name ∈ strayNames) (count : Nat) :
    Setting (name.toList,decimal count) := by
  refine ⟨?_,(plain_decimal count).filled⟩
  have worded : ∀ name ∈ strayNames,
      (name.toList ≠ [] && name.toList.all fun c => c.isAlphanum || c == '_') = true := by decide
  exact worded name stray

theorem readLine_summaryLine (sources : Filled row.sources) : readLine u quotient label (summaryLine row) =
    (rateOf quotient row.receivedBytes row.receiveElapsedNs).map fun rate => some (harnessRow label row rate) := by
  have split : summarySettings row = (summarySettings row).dropLast ++ [("sources".toList,row.sources)] := rfl
  have settings := setting_summary sources
  have last : Setting ("sources".toList,row.sources) := settings _ (split ▸ List.mem_append_right _ List.mem_cons_self)
  have line : rowForLine u quotient (summaryLine row) = _ := rowForLine_summary split
    (fun pair member => settings pair (List.mem_of_mem_dropLast member)) plain_summarySettings last
  have bytes : ("received_bytes".toList,decimal row.receivedBytes) ∈ (summarySettings row).tail :=
    @List.mem_of_getElem? _ _ 4 _ rfl
  have elapsed : ("receive_elapsed_ns".toList,signedDecimal row.receiveElapsedNs) ∈ (summarySettings row).tail :=
    @List.mem_of_getElem? _ _ 10 _ rfl
  have made := @measuredRow_eq u quotient label row.kind.name "harness" "receiver_goodput_mb_s" "received_bytes"
    "receive_elapsed_ns" (summarySettings row).tail (by decide) settings open_summary _ _ _ _ bytes elapsed
    (pyInt_decimal _) (pyInt_signedDecimal _)
  exact readLine_of_made line made

theorem readLine_strayLine {name : String} (stray : name ∈ strayNames) (count : Nat) :
    readLine u quotient label (strayLine name count) = .ok (some (strayRow label name count)) := by
  have setting := setting_stray stray count
  have read : fields u (written '=' ' ' [(name.toList,decimal count)]) = [(name.toList,decimal count)] :=
    fields_written (List.forall_mem_singleton.mpr setting) (List.nodup_singleton _)
  have line : rowForLine u quotient (strayLine name count) = _ :=
    rowForLine_summary (List.nil_append _).symm (List.forall_mem_nil _) (List.forall_mem_nil _) setting
  rewrite [readLine,line,measuredRow,read]
  simp only [strayNames,List.mem_cons,List.not_mem_nil,or_false] at stray
  rcases stray with rfl | rfl
  · rfl
  · rfl

theorem unbroken_summaryLine (sources : Filled row.sources) : Unbroken (summaryLine row) := by
  exact List.forall_mem_append.mpr ⟨Unbroken.of_all (by decide),unbroken_written (setting_summary sources)⟩

theorem unbroken_strayLine {name : String} (stray : name ∈ strayNames) (count : Nat) :
    Unbroken (strayLine name count) := by
  have settings := List.forall_mem_singleton.mpr (setting_stray stray count)
  exact List.forall_mem_append.mpr ⟨Unbroken.of_all (by decide),unbroken_written settings⟩

structure Reported (u : Unicode) (quotient : Int → Int → Except PyError PyStr) (label : PyStr) (row : SummaryRow)
    (read : Row) : Prop where
  kind : getText "kind" read = some "harness".toList
  run : getText "run" read = some label
  workloadKind : getText "workload_kind" read = some row.kind.name
  workload : counter u read "workload" = .ok row.workload
  scope : getText "scope" read = some (scopeName row.scope)
  flow : getText "flow" read = some (flowName row.flow)
  received : counter u read "received" = .ok row.received
  receivedBytes : counter u read "received_bytes" = .ok row.receivedBytes
  echoed : counter u read "echoed" = .ok row.echoed
  echoedBytes : counter u read "echoed_bytes" = .ok row.echoedBytes
  unique : counter u read "unique" = .ok row.unique
  duplicates : counter u read "duplicates" = .ok row.duplicates
  reordered : counter u read "reordered" = .ok row.reordered
  receiveElapsedNs : counter u read "receive_elapsed_ns" = .ok row.receiveElapsedNs
  sources : getText "sources" read = some row.sources
  goodput : rateOf quotient row.receivedBytes row.receiveElapsedNs = .ok (getText "receiver_goodput_mb_s" read)

theorem reported {rate : Option PyStr} (same : rateOf quotient row.receivedBytes row.receiveElapsedNs = .ok rate) :
    Reported u quotient label row (harnessRow label row rate) := by
  have told : Told label row.kind.name "harness" "receiver_goodput_mb_s" rate (harnessRow label row rate) :=
    told_measured (by decide) open_summary
  have found (i : Nat) {name : String} {value : PyStr}
      (stands : (summarySettings row).tail[i]? = some (name.toList,value)) :
      getText name (harnessRow label row rate) = some value := measured_rest open_summary i stands
  exact {
    told with
    workload := counter_of_text (found 0 rfl) (pyInt_decimal _)
    scope := found 1 rfl
    flow := found 2 rfl
    received := counter_of_text (found 3 rfl) (pyInt_decimal _)
    receivedBytes := counter_of_text (found 4 rfl) (pyInt_decimal _)
    echoed := counter_of_text (found 5 rfl) (pyInt_decimal _)
    echoedBytes := counter_of_text (found 6 rfl) (pyInt_decimal _)
    unique := counter_of_text (found 7 rfl) (pyInt_decimal _)
    duplicates := counter_of_text (found 8 rfl) (pyInt_decimal _)
    reordered := counter_of_text (found 9 rfl) (pyInt_decimal _)
    receiveElapsedNs := counter_of_text (found 10 rfl) (pyInt_signedDecimal _)
    sources := found 11 rfl
    goodput := same.trans (congrArg Except.ok told.rate.symm)}

theorem filled_intercalate {texts : List PyStr} (nonempty : texts ≠ []) (filled : ∀ text ∈ texts, Filled text) :
    Filled (",".toList.intercalate texts) := by
  induction texts with
  | nil => exact absurd rfl nonempty
  | cons text rest ih =>
    have here := filled text List.mem_cons_self
    cases rest with
    | nil =>
      rw [List.intercalate_singleton]
      exact here
    | cons next rest =>
      have later := ih (List.cons_ne_nil _ _) fun other member => filled other (List.mem_cons_of_mem _ member)
      rw [List.intercalate_cons_cons]
      refine ⟨by simp [here.nonempty],fun c member => ?_⟩
      rcases List.mem_append.mp member with front | member
      · rcases List.mem_append.mp front with front | comma
        · exact here.filled c front
        · cases List.mem_singleton.mp comma
          rfl
      · exact later.filled c member

theorem filled_joinSources {sources : Finset CString} (nonempty : sources.Nonempty)
    (filled : ∀ source ∈ sources, Filled source) : Filled (joinSources sources) := by
  refine filled_intercalate (fun empty => ?_) fun source member => filled source ((Finset.mem_sort _).mp member)
  obtain ⟨first,member⟩ := nonempty
  have listed : first ∈ sources.sort := (Finset.mem_sort _).mpr member
  rw [empty] at listed
  cases listed

/-- The sources of a row of the summary are those of its calls. -/
theorem filled_sources {calls : List (Received × Int)} (sources : ∀ call ∈ calls, Filled call.1.source)
    {rows : List SummaryRow} (summed : (UdpWorkloadStats.recordAll calls).summaryRows = some rows) :
    ∀ row ∈ rows, Filled row.sources := by
  have ofKey : ∀ key ∈ (UdpWorkloadStats.recordAll calls).keys,
      ((UdpWorkloadStats.recordAll calls).sourcesOf key).Nonempty ∧
        ∀ source ∈ (UdpWorkloadStats.recordAll calls).sourcesOf key, Filled source := by
    intro key member
    have books := recordAll_books calls key
    have arrives := (mem_keys_iff calls key).mp member
    rw [books.sources]
    refine ⟨by simpa [List.toFinset_nonempty_iff] using arrives,fun source inside => ?_⟩
    obtain ⟨arrival,arrived,rfl⟩ := List.mem_map.mp (List.mem_toFinset.mp inside)
    obtain ⟨call,called,same⟩ := List.mem_filterMap.mp arrived
    obtain ⟨identity,-,rfl⟩ := Option.map_eq_some_iff.mp same
    exact sources call called
  obtain rfl := Option.some_inj.mp ((summaryRows_eq calls).symm.trans summed)
  intro row member
  rcases List.mem_append.mp member with flow | total
  · obtain ⟨key,held,rfl⟩ := List.mem_map.mp flow
    exact filled_joinSources (ofKey key held).1 (ofKey key held).2
  · obtain ⟨workload,held,rfl⟩ := List.mem_map.mp total
    obtain ⟨key,inside,rfl⟩ := List.mem_map.mp (List.mem_dedup.mp held)
    refine filled_joinSources ?_ fun source within => ?_
    · obtain ⟨source,comes⟩ := (ofKey key inside).1
      have grouped : key ∈ ((UdpWorkloadStats.recordAll calls).groupedKeys key.workload).toFinset :=
        List.mem_toFinset.mpr (List.mem_filter.mpr ⟨inside,decide_eq_true rfl⟩)
      exact ⟨source,Finset.mem_biUnion.mpr ⟨key,grouped,comes⟩⟩
    · obtain ⟨other,grouped,comes⟩ := Finset.mem_biUnion.mp within
      exact (ofKey other (List.mem_filter.mp (List.mem_toFinset.mp grouped)).1).2 source comes

def strays (label : PyStr) (stats : UdpWorkloadStats) : List Row :=
  (if stats.unexpected ≠ 0 then [strayRow label "unexpected_datagrams" stats.unexpected] else []) ++
    if stats.malformed ≠ 0 then [strayRow label "malformed_workload_datagrams" stats.malformed] else []

theorem readAs_strayLines (stats : UdpWorkloadStats) :
    List.Forall₂ (ReadAs u quotient label) (strayLines stats) (strays label stats) := by
  have one {name : String} (stray : name ∈ strayNames) (count : Nat) : List.Forall₂ (ReadAs u quotient label)
      (if count ≠ 0 then [strayLine name count] else []) (if count ≠ 0 then [strayRow label name count] else []) := by
    split
    · exact .cons ⟨unbroken_strayLine stray count,readLine_strayLine stray count⟩ .nil
    · exact .nil
  exact List.rel_append (one (by decide) _) (one (by decide) _)

/-- The log of a summary is read back: a row for every row of the summary, in its order, and behind them the counts of
the datagrams of no workload. -/
theorem rowsForFile_logSummary {calls : List (Received × Int)} (sources : ∀ call ∈ calls, Filled call.1.source)
    {rows : List SummaryRow} (summed : (UdpWorkloadStats.recordAll calls).summaryRows = some rows)
    (formats : ∀ row ∈ rows, row.receiveElapsedNs ≠ 0 →
      ∃ text, quotient (row.receivedBytes * 1000) row.receiveElapsedNs = .ok text) :
    ∃ lines reads, logSummary (.recordAll calls) = some lines ∧
      rowsForFile u quotient (textOf lines) label = .ok (reads ++ strays label (.recordAll calls)) ∧
      List.Forall₂ (Reported u quotient label) rows reads := by
  have each : ∀ row ∈ rows, ∃ read, ReadAs u quotient label (summaryLine row) read ∧ Reported u quotient label row read := by
    intro row member
    have filled := filled_sources sources summed row member
    have formatted : ∃ rate, rateOf quotient row.receivedBytes row.receiveElapsedNs = .ok rate := by
      by_cases still : row.receiveElapsedNs = 0
      · exact ⟨none,if_pos still⟩
      · obtain ⟨text,same⟩ := formats row member still
        exact ⟨some text,by rw [rateOf,if_neg still,same]; rfl⟩
    obtain ⟨rate,same⟩ := formatted
    refine ⟨_,⟨unbroken_summaryLine filled,?_⟩,reported same⟩
    rw [readLine_summaryLine filled,same]
    rfl
  have reads : ∃ reads, List.Forall₂ (ReadAs u quotient label) (rows.map summaryLine) reads ∧
      List.Forall₂ (Reported u quotient label) rows reads := by
    clear summed formats
    induction rows with
    | nil => exact ⟨[],.nil,.nil⟩
    | cons row rest ih =>
      obtain ⟨read,readAs,tells⟩ := each row List.mem_cons_self
      obtain ⟨reads,allRead,allTell⟩ := ih fun other member => each other (List.mem_cons_of_mem _ member)
      exact ⟨read :: reads,.cons readAs allRead,.cons tells allTell⟩
  obtain ⟨reads,readAs,tells⟩ := reads
  refine ⟨_,reads,by rw [logSummary,summed]; rfl,?_,tells⟩
  exact rowsForFile_of_readAs (List.rel_append readAs (readAs_strayLines _))

end Harness

def asciiOnly : Unicode := ⟨fun _ => false,fun _ => none⟩

/-- Two datagrams of a flow, a microsecond apart. -/
def flowCalls : List (Received × Int) :=
  [(⟨payloadOf echoConfig 0,"10.0.0.2:4000".toList,true⟩,0),(⟨payloadOf echoConfig 1,"10.0.0.2:4000".toList,true⟩,1000)]

theorem rowsForFile_logSummary_two : ∃ lines reads, logSummary (.recordAll flowCalls) = some lines ∧
    rowsForFile asciiOnly (fun _ _ => .ok "48.000".toList) (textOf lines) "run".toList =
      .ok (reads ++ strays "run".toList (.recordAll flowCalls)) ∧
    List.Forall₂ (Reported asciiOnly (fun _ _ => .ok "48.000".toList) "run".toList)
      (flowRows (.recordAll flowCalls) (UdpWorkloadStats.recordAll flowCalls).keys ++ totalRows (.recordAll flowCalls))
      reads := by
  have sources : ∀ call ∈ flowCalls, Filled call.1.source := by
    have source : Filled "10.0.0.2:4000".toList := .of_all (by decide)
    exact List.forall_mem_cons.mpr ⟨source,List.forall_mem_singleton.mpr source⟩
  exact rowsForFile_logSummary sources (summaryRows_eq flowCalls) fun _ _ _ => ⟨_,rfl⟩

end NxReverse.Tools.Reports
