import Mathlib.Data.List.GetD
import NxReverse.Tools.RequesterHarness

/-! What the harness's accounts say of the datagrams that it recorded: every count of a flow is a
function of the datagrams of that flow, and the summary adds the flows up. -/
namespace NxReverse.Tools

open Text Words

/-- What one recorded datagram adds to its flow. -/
structure Arrival where
  sequence : Nat
  size : Nat
  source : CString
  echoed : Bool
  receivedNs : Int
  deriving DecidableEq, Repr

def arrivalOf (identity : WorkloadIdentity) (call : Received) (receivedNs : Int) : Arrival :=
  ⟨identity.sequence,call.data.length,call.source,call.echoed,receivedNs⟩

def identified (call : Received × Int) : Option WorkloadIdentity := (parseWorkloadIdentity call.1.data).1

def flowArrival (key : FlowKey) (call : Received × Int) : Option Arrival :=
  ((identified call).filter fun identity => identity.key = key).map fun identity => arrivalOf identity call.1 call.2

def flowArrivals (key : FlowKey) (calls : List (Received × Int)) : List Arrival := calls.filterMap (flowArrival key)

/-- How many of the sequence numbers are below the largest one before them. -/
def overtaken (sequences : List Nat) : Nat :=
  (List.range sequences.length).countP fun i => ((sequences.take i).max?).any (sequences.getD i 0 < ·)

theorem overtaken_concat (sequences : List Nat) (sequence : Nat) :
    overtaken (sequences ++ [sequence]) =
      overtaken sequences + if sequences.max?.any (sequence < ·) then 1 else 0 := by
  have before : ∀ i ∈ List.range sequences.length,
      (((sequences ++ [sequence]).take i).max?.any ((sequences ++ [sequence]).getD i 0 < ·) = true ↔
        (sequences.take i).max?.any (sequences.getD i 0 < ·) = true) := by
    intro i inside
    have inside := List.mem_range.mp inside
    rw [List.take_append_of_le_length (Nat.le_of_lt inside),List.getD_append _ _ _ _ inside]
  rw [overtaken,List.length_append,List.length_singleton,List.range_succ,List.countP_append,
    List.countP_congr before,← overtaken]
  simp [List.countP_cons]

theorem max?_concat (values : List Nat) (value : Nat) :
    (values ++ [value]).max? = some (values.max?.elim value (max value ·)) := by
  cases values with
  | nil => rfl
  | cons first rest =>
    rw [List.cons_append,List.max?_cons',List.foldl_append,List.max?_cons']
    exact congrArg some (Nat.max_comm ..)

theorem toFinset_concat [DecidableEq α] (l : List α) (a : α) : (l ++ [a]).toFinset = insert a l.toFinset := by
  ext b
  simp

section Counters

variable {counter : Counter} {key other : FlowKey} {amount : Nat}

theorem Counter.count_add_self : (counter.add key amount).count key = counter.count key + amount := by
  rw [Counter.count,Counter.add,AList.lookup_insert]
  rfl

theorem Counter.count_add_of_ne (differ : other ≠ key) : (counter.add key amount).count other = counter.count other := by
  rw [Counter.count,Counter.add,AList.lookup_insert_ne differ]
  rfl

theorem Counter.count_addIf_self (condition : Prop) [Decidable condition] :
    (if condition then counter.add key amount else counter).count key =
      counter.count key + if condition then amount else 0 := by
  split
  · exact count_add_self
  · rfl

theorem Counter.count_addIf_of_ne (differ : other ≠ key) (condition : Prop) [Decidable condition] :
    (if condition then counter.add key amount else counter).count other = counter.count other := by
  split
  · exact count_add_of_ne differ
  · rfl

end Counters

structure FlowBooks (stats : UdpWorkloadStats) (key : FlowKey) (arrivals : List Arrival) : Prop where
  received : stats.received.count key = arrivals.length
  bytesReceived : stats.bytesReceived.count key = (arrivals.map Arrival.size).sum
  sources : stats.sourcesOf key = (arrivals.map Arrival.source).toFinset
  sequences : stats.sequencesOf key = (arrivals.map Arrival.sequence).toFinset
  lastSequence : stats.lastSequence.lookup key = (arrivals.map Arrival.sequence).max?
  duplicates : (stats.sequencesOf key).card + stats.duplicates.count key = arrivals.length
  reordered : stats.reordered.count key = overtaken (arrivals.map Arrival.sequence)
  firstReceivedNs : stats.firstReceivedNs.lookup key = arrivals.head?.map Arrival.receivedNs
  lastReceivedNs : stats.lastReceivedNs.lookup key = arrivals.getLast?.map Arrival.receivedNs
  held : key ∈ stats.received ↔ arrivals ≠ []
  heldEchoed : key ∈ stats.echoed → arrivals ≠ []

namespace FlowBooks

variable {stats : UdpWorkloadStats} {arrivals : List Arrival} {identity : WorkloadIdentity}

theorem start (key : FlowKey) : FlowBooks .start key [] :=
  ⟨rfl,rfl,rfl,rfl,rfl,rfl,rfl,rfl,rfl,by simp [UdpWorkloadStats.start],fun member => absurd member (AList.notMem_empty key)⟩

/-- A datagram of another flow leaves the books as they are. -/
theorem recordIdentified_other {key : FlowKey} (books : FlowBooks stats key arrivals) (differ : key ≠ identity.key)
    (call : Received) (receivedNs : Int) :
    FlowBooks (stats.recordIdentified identity call receivedNs) key arrivals where
  received := (Counter.count_add_of_ne differ).trans books.received
  bytesReceived := (Counter.count_add_of_ne differ).trans books.bytesReceived
  sources := (congrArg (Option.getD · ∅) (AList.lookup_insert_ne differ)).trans books.sources
  sequences := (congrArg (Option.getD · ∅) (AList.lookup_insert_ne differ)).trans books.sequences
  lastSequence := (AList.lookup_insert_ne differ).trans books.lastSequence
  duplicates := by
    have kept : (stats.recordIdentified identity call receivedNs).sequencesOf key = stats.sequencesOf key :=
      congrArg (Option.getD · ∅) (AList.lookup_insert_ne differ)
    rw [kept]
    exact (congrArg _ (Counter.count_addIf_of_ne differ _)).trans books.duplicates
  reordered := (Counter.count_addIf_of_ne differ _).trans books.reordered
  firstReceivedNs := by
    rw [← books.firstReceivedNs]
    dsimp only [UdpWorkloadStats.recordIdentified]
    split
    · rfl
    · exact AList.lookup_insert_ne differ
  lastReceivedNs := (AList.lookup_insert_ne differ).trans books.lastReceivedNs
  held := by
    rw [← books.held]
    exact (AList.mem_insert _).trans (or_iff_right differ)
  heldEchoed := by
    intro member
    apply books.heldEchoed
    dsimp only [UdpWorkloadStats.recordIdentified] at member
    split at member
    · exact ((AList.mem_insert _).mp member).resolve_left differ
    · exact member

/-- A datagram of the flow is entered. -/
theorem recordIdentified_same (books : FlowBooks stats identity.key arrivals) (call : Received) (receivedNs : Int) :
    FlowBooks (stats.recordIdentified identity call receivedNs) identity.key
      (arrivals ++ [arrivalOf identity call receivedNs]) where
  received := by
    rw [List.length_append,← books.received]
    exact Counter.count_add_self
  bytesReceived := by
    rw [List.map_append,List.sum_append,← books.bytesReceived]
    exact Counter.count_add_self
  sources := by
    have entered : (stats.recordIdentified identity call receivedNs).sourcesOf identity.key =
        insert call.source (stats.sourcesOf identity.key) := congrArg (Option.getD · ∅) (AList.lookup_insert _)
    rw [entered,books.sources,List.map_append,List.map_singleton,toFinset_concat]
    rfl
  sequences := by
    have entered : (stats.recordIdentified identity call receivedNs).sequencesOf identity.key =
        insert identity.sequence (stats.sequencesOf identity.key) :=
      congrArg (Option.getD · ∅) (AList.lookup_insert _)
    rw [entered,books.sequences,List.map_append,List.map_singleton,toFinset_concat]
    rfl
  lastSequence := by
    rw [List.map_append,List.map_singleton,max?_concat,← books.lastSequence]
    exact AList.lookup_insert _
  duplicates := by
    have entered : (stats.recordIdentified identity call receivedNs).sequencesOf identity.key =
        insert identity.sequence (stats.sequencesOf identity.key) :=
      congrArg (Option.getD · ∅) (AList.lookup_insert _)
    have counted : (stats.recordIdentified identity call receivedNs).duplicates.count identity.key =
        stats.duplicates.count identity.key +
          if identity.sequence ∈ stats.sequencesOf identity.key then 1 else 0 := Counter.count_addIf_self _
    rw [entered,counted,Finset.card_insert_eq_ite,List.length_append,← books.duplicates,List.length_singleton]
    split <;> omega
  reordered := by
    rw [List.map_append,List.map_singleton,overtaken_concat,← books.reordered,← books.lastSequence]
    exact Counter.count_addIf_self _
  firstReceivedNs := by
    have first := books.firstReceivedNs
    dsimp only [UdpWorkloadStats.recordIdentified]
    cases arrivals with
    | nil =>
      have absent : identity.key ∉ stats.firstReceivedNs := AList.lookup_eq_none.mp first
      rw [if_neg absent]
      exact AList.lookup_insert _
    | cons arrival rest =>
      have present : identity.key ∈ stats.firstReceivedNs := by
        rw [← AList.lookup_isSome,first]
        rfl
      rw [if_pos present]
      exact first
  lastReceivedNs := by
    rw [List.getLast?_concat]
    exact AList.lookup_insert _
  held := iff_of_true ((AList.mem_insert _).mpr (.inl rfl)) (by simp)
  heldEchoed _ := by simp

end FlowBooks

theorem flowArrivals_concat (key : FlowKey) (calls : List (Received × Int)) (call : Received × Int) :
    flowArrivals key (calls ++ [call]) = flowArrivals key calls ++ (flowArrival key call).toList := by
  rw [flowArrivals,List.filterMap_append,← flowArrivals]
  cases arrival : flowArrival key call <;> simp [arrival]

theorem recordAll_concat (calls : List (Received × Int)) (call : Received × Int) :
    UdpWorkloadStats.recordAll (calls ++ [call]) =
      ((UdpWorkloadStats.recordAll calls).record call.1 call.2).2 := by
  rw [UdpWorkloadStats.recordAll,List.foldl_append]
  rfl

theorem FlowBooks.congr {stats : UdpWorkloadStats} {key : FlowKey} {arrivals : List Arrival}
    (books : FlowBooks stats key arrivals) (unexpected malformed : Nat) :
    FlowBooks { stats with unexpected, malformed } key arrivals :=
  ⟨books.1,books.2,books.3,books.4,books.5,books.6,books.7,books.8,books.9,books.10,books.11⟩

theorem FlowBooks.record {stats : UdpWorkloadStats} {key : FlowKey} {arrivals : List Arrival}
    (books : FlowBooks stats key arrivals) (call : Received × Int) :
    FlowBooks (stats.record call.1 call.2).2 key (arrivals ++ (flowArrival key call).toList) := by
  rcases parsed : parseWorkloadIdentity call.1.data with ⟨_ | identity,malformed⟩
  · have silent : flowArrival key call = none := by simp [flowArrival,identified,parsed]
    rw [silent,Option.toList_none,List.append_nil,UdpWorkloadStats.record,parsed]
    cases malformed
    · exact books.congr (stats.unexpected + 1) stats.malformed
    · exact books.congr stats.unexpected (stats.malformed + 1)
  · rw [UdpWorkloadStats.record,parsed]
    by_cases same : identity.key = key
    · have arrives : flowArrival key call = some (arrivalOf identity call.1 call.2) := by
        simp [flowArrival,identified,parsed,same]
      subst same
      rw [arrives]
      exact books.recordIdentified_same call.1 call.2
    · have silent : flowArrival key call = none := by simp [flowArrival,identified,parsed,same]
      rw [silent,Option.toList_none,List.append_nil]
      exact books.recordIdentified_other (Ne.symm same) call.1 call.2

theorem recordAll_books (calls : List (Received × Int)) (key : FlowKey) :
    FlowBooks (.recordAll calls) key (flowArrivals key calls) := by
  induction calls using List.reverseRecOn with
  | nil => exact .start key
  | append_singleton calls call ih =>
    rw [recordAll_concat,flowArrivals_concat]
    exact ih.record call

/-- The calls that brought no identity are the unexpected and the malformed ones. -/
theorem recordAll_unidentified (calls : List (Received × Int)) :
    (UdpWorkloadStats.recordAll calls).unexpected + (UdpWorkloadStats.recordAll calls).malformed =
      calls.countP fun call => ¬(identified call).isSome = true := by
  induction calls using List.reverseRecOn with
  | nil => rfl
  | append_singleton calls call ih =>
    rw [recordAll_concat,List.countP_append,← ih]
    rcases parsed : parseWorkloadIdentity call.1.data with ⟨_ | identity,_ | _⟩ <;>
      simp [UdpWorkloadStats.record,identified,parsed,UdpWorkloadStats.recordIdentified] <;> omega

/-- Over all keys, the arrivals are the identified calls. -/
theorem sum_flowArrivals {keys : List FlowKey} (distinct : keys.Nodup) (calls : List (Received × Int))
    (covers : ∀ call ∈ calls, ∀ identity, identified call = some identity → identity.key ∈ keys) :
    (keys.map fun key => (flowArrivals key calls).length).sum = calls.countP fun call => (identified call).isSome := by
  induction calls with
  | nil => simp [flowArrivals]
  | cons call rest ih =>
    have one : (keys.map fun key => (flowArrival key call).toList.length).sum =
        if (identified call).isSome then 1 else 0 := by
      cases known : identified call with
      | none => simp [flowArrival,known]
      | some identity =>
        rw [List.sum_map_eq_nsmul_single identity.key,
          List.count_eq_one_of_mem distinct (covers call List.mem_cons_self identity known)]
        · simp [flowArrival,known]
        · intro key differ _
          simp [flowArrival,known,Ne.symm differ]
    have split : ∀ key, (flowArrivals key (call :: rest)).length =
        (flowArrival key call).toList.length + (flowArrivals key rest).length := by
      intro key
      cases arrival : flowArrival key call <;> simp [flowArrivals,arrival,Nat.add_comm]
    simp only [split,List.sum_map_add,one]
    rw [ih fun other member => covers other (List.mem_cons_of_mem call member),List.countP_cons,Nat.add_comm]

section Summary

variable (calls : List (Received × Int))

theorem mem_keys_iff (key : FlowKey) :
    key ∈ (UdpWorkloadStats.recordAll calls).keys ↔ flowArrivals key calls ≠ [] := by
  have books := recordAll_books calls key
  rw [UdpWorkloadStats.keys,List.mem_mergeSort,List.mem_union_iff,← AList.mem_keys,← AList.mem_keys,← books.held]
  exact or_iff_left_of_imp fun echoed => books.held.mpr (books.heldEchoed echoed)

theorem nodup_keys (stats : UdpWorkloadStats) : stats.keys.Nodup :=
  ((List.mergeSort_perm _ _).nodup_iff).mpr (List.Nodup.union _ stats.echoed.keys_nodup)

theorem flowArrivals_ne_nil {call : Received × Int} (member : call ∈ calls) {identity : WorkloadIdentity}
    (known : identified call = some identity) : flowArrivals identity.key calls ≠ [] := by
  have arrives : flowArrival identity.key call = some (arrivalOf identity call.1 call.2) := by
    simp [flowArrival,known]
  exact List.ne_nil_of_mem (List.mem_filterMap.mpr ⟨call,member,arrives⟩)

/-- Every call is in the books of a flow or among the unexpected and the malformed ones. -/
theorem sum_received : let stats := UdpWorkloadStats.recordAll calls
    (stats.keys.map stats.received.count).sum + stats.unexpected + stats.malformed = calls.length := by
  intro stats
  have counts : stats.keys.map stats.received.count = stats.keys.map fun key => (flowArrivals key calls).length :=
    List.map_congr_left fun key _ => (recordAll_books calls key).received
  have covers : ∀ call ∈ calls, ∀ identity, identified call = some identity → identity.key ∈ stats.keys :=
    fun call member identity known => (mem_keys_iff calls _).mpr (flowArrivals_ne_nil calls member known)
  rw [Nat.add_assoc,recordAll_unidentified,counts,sum_flowArrivals (nodup_keys stats) calls covers,
    List.length_eq_countP_add_countP fun call => (identified call).isSome]

theorem mapM_some {f : α → Option β} {g : α → β} {l : List α} (each : ∀ a ∈ l, f a = some (g a)) :
    l.mapM f = some (l.map g) := by
  induction l with
  | nil => rfl
  | cons a rest ih =>
    rw [List.mapM_cons,each a List.mem_cons_self,ih fun other member => each other (List.mem_cons_of_mem a member)]
    rfl

/-- The first and the last reading of the clock in a flow that has one. -/
def firstNs (stats : UdpWorkloadStats) (key : FlowKey) : Int := (stats.firstReceivedNs.lookup key).getD 0

def lastNs (stats : UdpWorkloadStats) (key : FlowKey) : Int := (stats.lastReceivedNs.lookup key).getD 0

theorem lookup_firstReceivedNs {key : FlowKey} (member : key ∈ (UdpWorkloadStats.recordAll calls).keys) :
    (UdpWorkloadStats.recordAll calls).firstReceivedNs.lookup key = some (firstNs (.recordAll calls) key) := by
  have books := recordAll_books calls key
  rw [firstNs,books.firstReceivedNs]
  cases arrivals : flowArrivals key calls with
  | nil => exact absurd arrivals ((mem_keys_iff calls key).mp member)
  | cons arrival rest => rfl

theorem lookup_lastReceivedNs {key : FlowKey} (member : key ∈ (UdpWorkloadStats.recordAll calls).keys) :
    (UdpWorkloadStats.recordAll calls).lastReceivedNs.lookup key = some (lastNs (.recordAll calls) key) := by
  have books := recordAll_books calls key
  rw [lastNs,books.lastReceivedNs,List.getLast?_eq_some_getLast ((mem_keys_iff calls key).mp member)]
  rfl

def elapsedNs (stats : UdpWorkloadStats) (key : FlowKey) : Int := lastNs stats key - firstNs stats key

def windowNs (stats : UdpWorkloadStats) (keys : List FlowKey) : Int :=
  (keys.map (lastNs stats)).max?.getD 0 - (keys.map (firstNs stats)).min?.getD 0

/-- The window of several flows covers the window of each. -/
theorem elapsedNs_le_windowNs (stats : UdpWorkloadStats) {keys : List FlowKey} {key : FlowKey} (member : key ∈ keys) :
    elapsedNs stats key ≤ windowNs stats keys := by
  have first : (keys.map (firstNs stats)).min?.getD 0 ≤ firstNs stats key := by
    rw [List.min?_eq_some_min (List.ne_nil_of_mem (List.mem_map_of_mem member))]
    exact List.min_le_of_mem (List.mem_map_of_mem member)
  have last : lastNs stats key ≤ (keys.map (lastNs stats)).max?.getD 0 := by
    rw [List.max?_eq_some_max (List.ne_nil_of_mem (List.mem_map_of_mem member))]
    exact List.le_max_of_mem (List.mem_map_of_mem member)
  rw [elapsedNs,windowNs]
  omega

theorem summaryRow_eq {key : FlowKey} (member : key ∈ (UdpWorkloadStats.recordAll calls).keys) :
    (UdpWorkloadStats.recordAll calls).summaryRow key =
      some ((UdpWorkloadStats.recordAll calls).flowRow key (elapsedNs (.recordAll calls) key)) := by
  rw [UdpWorkloadStats.summaryRow,lookup_firstReceivedNs calls member,lookup_lastReceivedNs calls member]
  rfl

theorem workloadRow_eq {workload : WorkloadKind × Nat} {grouped : List FlowKey} (nonempty : grouped ≠ [])
    (members : ∀ key ∈ grouped, key ∈ (UdpWorkloadStats.recordAll calls).keys) :
    (UdpWorkloadStats.recordAll calls).workloadRow workload grouped =
      some ((UdpWorkloadStats.recordAll calls).totalRow workload grouped (windowNs (.recordAll calls) grouped)) := by
  rw [UdpWorkloadStats.workloadRow,mapM_some fun key member => lookup_firstReceivedNs calls (members key member),
    mapM_some fun key member => lookup_lastReceivedNs calls (members key member)]
  cases grouped with
  | nil => exact absurd rfl nonempty
  | cons key rest => rfl

/-- The rows of the flows, and behind them the rows of the workloads. -/
def flowRows (stats : UdpWorkloadStats) (keys : List FlowKey) : List SummaryRow :=
  keys.map fun key => stats.flowRow key (elapsedNs stats key)

def totalRows (stats : UdpWorkloadStats) : List SummaryRow :=
  stats.workloads.map fun workload =>
    stats.totalRow workload (stats.groupedKeys workload) (windowNs stats (stats.groupedKeys workload))

theorem summaryRows_eq : let stats := UdpWorkloadStats.recordAll calls
    stats.summaryRows = some (flowRows stats stats.keys ++ totalRows stats) := by
  intro stats
  have flows : stats.keys.mapM stats.summaryRow = some (flowRows stats stats.keys) :=
    mapM_some fun key member => summaryRow_eq calls member
  have totals : (stats.workloads.mapM fun workload => stats.workloadRow workload (stats.groupedKeys workload)) =
      some (totalRows stats) := by
    apply mapM_some
    intro workload member
    apply workloadRow_eq
    · obtain ⟨key,held,rfl⟩ := List.mem_map.mp (List.mem_dedup.mp member)
      exact List.ne_nil_of_mem (List.mem_filter.mpr ⟨held,decide_eq_true rfl⟩)
    · exact fun key grouped => (List.mem_filter.mp grouped).1
  rw [UdpWorkloadStats.summaryRows,flows,totals]
  rfl

theorem filter_flows (stats : UdpWorkloadStats) (keys : List FlowKey) :
    (flowRows stats keys ++ totalRows stats).filter (fun row => row.scope = .flow) = flowRows stats keys := by
  have flows : ∀ row ∈ flowRows stats keys, decide (row.scope = .flow) = true := by
    intro row member
    obtain ⟨_,_,rfl⟩ := List.mem_map.mp member
    rfl
  have totals : ∀ row ∈ totalRows stats, ¬decide (row.scope = .flow) = true := by
    intro row member
    obtain ⟨_,_,rfl⟩ := List.mem_map.mp member
    exact Bool.false_ne_true
  rw [List.filter_append,List.filter_eq_self.mpr flows,List.filter_eq_nil_iff.mpr totals,List.append_nil]

theorem filter_workload (stats : UdpWorkloadStats) (workload : WorkloadKind × Nat) :
    (flowRows stats stats.keys).filter (fun row => row.kind = workload.1 ∧ row.workload = workload.2) =
      flowRows stats (stats.groupedKeys workload) := by
  rw [flowRows,flowRows,List.filter_map,UdpWorkloadStats.groupedKeys]
  congr 1
  apply List.filter_congr
  intro key _
  simp [UdpWorkloadStats.flowRow,FlowKey.workload,Prod.ext_iff]

theorem flow_of_flowRows {stats : UdpWorkloadStats} {keys : List FlowKey} {row : SummaryRow}
    (member : row ∈ flowRows stats keys) : row.scope = .flow := by
  obtain ⟨_,_,rfl⟩ := List.mem_map.mp member
  rfl

def SummaryRow.OfFlow (key : FlowKey) (row : SummaryRow) : Prop :=
  row.kind = key.workloadKind ∧ row.workload = key.workloadId ∧ row.flow = some key.flowIndex

instance (key : FlowKey) (row : SummaryRow) : Decidable (row.OfFlow key) := by
  unfold SummaryRow.OfFlow
  infer_instance

/-- The row of the workload that the row of a flow belongs to. -/
def SummaryRow.Totals (row total : SummaryRow) : Prop :=
  total.scope = .workload ∧ total.kind = row.kind ∧ total.workload = row.workload

instance (row total : SummaryRow) : Decidable (row.Totals total) := by
  unfold SummaryRow.Totals
  infer_instance

theorem ofFlow_flowRow {stats : UdpWorkloadStats} {key other : FlowKey} {window : Int} :
    (stats.flowRow other window).OfFlow key ↔ other = key := by
  cases key
  cases other
  simp [SummaryRow.OfFlow,UdpWorkloadStats.flowRow]

theorem filter_flow (stats : UdpWorkloadStats) {key : FlowKey} (member : key ∈ stats.keys) :
    (flowRows stats stats.keys).filter (fun row => row.OfFlow key) = [stats.flowRow key (elapsedNs stats key)] := by
  have same : ∀ other ∈ stats.keys, ((fun row => decide (SummaryRow.OfFlow key row)) ∘ fun other =>
      stats.flowRow other (elapsedNs stats other)) other = (other == key) := by
    intro other _
    rw [Function.comp_apply,Bool.eq_iff_iff,decide_eq_true_iff,beq_iff_eq]
    exact ofFlow_flowRow
  rw [flowRows,List.filter_map,List.filter_congr same,List.filter_beq,
    List.count_eq_one_of_mem (nodup_keys stats) member]
  rfl

theorem countP_totals (stats : UdpWorkloadStats) {row : SummaryRow} (member : row ∈ flowRows stats stats.keys) :
    (flowRows stats stats.keys ++ totalRows stats).countP (fun total => row.Totals total) = 1 := by
  have noFlow : (flowRows stats stats.keys).countP (fun total => row.Totals total) = 0 := by
    refine List.countP_eq_zero.mpr fun other inside totals => ?_
    have workload := (of_decide_eq_true totals).1
    rw [flow_of_flowRows inside] at workload
    cases workload
  obtain ⟨key,held,rfl⟩ := List.mem_map.mp member
  have here : key.workload ∈ stats.workloads := List.mem_dedup.mpr (List.mem_map_of_mem held)
  have same : ∀ workload ∈ stats.workloads, (decide ((stats.flowRow key (elapsedNs stats key)).Totals
      (stats.totalRow workload (stats.groupedKeys workload) (windowNs stats (stats.groupedKeys workload)))) = true ↔
        (workload == key.workload) = true) := by
    intro workload _
    simp [SummaryRow.Totals,UdpWorkloadStats.totalRow,UdpWorkloadStats.flowRow,FlowKey.workload,Prod.ext_iff]
  rw [List.countP_append,noFlow,Nat.zero_add,totalRows,List.countP_map]
  exact (List.countP_congr same).trans (List.count_eq_one_of_mem (List.nodup_dedup _) here)

/-- A workload's row has the sums of the rows of its flows, and a window at least as long as each of theirs. -/
structure SumsUp (total : SummaryRow) (flows : List SummaryRow) : Prop where
  received : total.received = (flows.map SummaryRow.received).sum
  receivedBytes : total.receivedBytes = (flows.map SummaryRow.receivedBytes).sum
  echoed : total.echoed = (flows.map SummaryRow.echoed).sum
  echoedBytes : total.echoedBytes = (flows.map SummaryRow.echoedBytes).sum
  unique : total.unique = (flows.map SummaryRow.unique).sum
  duplicates : total.duplicates = (flows.map SummaryRow.duplicates).sum
  reordered : total.reordered = (flows.map SummaryRow.reordered).sum
  window : ∀ row ∈ flows, row.receiveElapsedNs ≤ total.receiveElapsedNs

theorem totalRow_sumsUp (stats : UdpWorkloadStats) (workload : WorkloadKind × Nat) (keys : List FlowKey) :
    SumsUp (stats.totalRow workload keys (windowNs stats keys)) (flowRows stats keys) := by
  have summed : ∀ field : SummaryRow → Nat, ((flowRows stats keys).map field).sum =
      (keys.map fun key => field (stats.flowRow key (elapsedNs stats key))).sum := by
    intro field
    rw [flowRows,List.map_map]
    rfl
  refine ⟨(summed SummaryRow.received).symm,(summed SummaryRow.receivedBytes).symm,(summed SummaryRow.echoed).symm,
    (summed SummaryRow.echoedBytes).symm,(summed SummaryRow.unique).symm,(summed SummaryRow.duplicates).symm,
    (summed SummaryRow.reordered).symm,?_⟩
  intro row member
  obtain ⟨key,grouped,rfl⟩ := List.mem_map.mp member
  exact elapsedNs_le_windowNs stats grouped

end Summary

/-- Of a flow, what no order of its datagrams changes. -/
structure FlowCounts where
  received : Nat
  bytes : Nat
  unique : Nat
  duplicates : Nat
  sources : Nat
  deriving DecidableEq, Repr

def UdpWorkloadStats.flowCounts (stats : UdpWorkloadStats) (key : FlowKey) : FlowCounts where
  received := stats.received.count key
  bytes := stats.bytesReceived.count key
  unique := (stats.sequencesOf key).card
  duplicates := stats.duplicates.count key
  sources := (stats.sourcesOf key).card

/-- An arrival without the time of it. -/
def Arrival.content (arrival : Arrival) : Nat × Nat × CString := (arrival.sequence,arrival.size,arrival.source)

theorem contents_eq (key : FlowKey) (calls : List (Received × Int)) :
    (flowArrivals key calls).map Arrival.content =
      (calls.map Prod.fst).filterMap fun call => (flowArrival key (call,0)).map Arrival.content := by
  rw [flowArrivals,List.map_filterMap,List.filterMap_map]
  congr 1
  funext call
  simp only [flowArrival,Function.comp_apply,Option.map_map]
  rfl

theorem FlowBooks.flowCounts {stats : UdpWorkloadStats} {key : FlowKey} {arrivals : List Arrival}
    (books : FlowBooks stats key arrivals) :
    let contents := arrivals.map Arrival.content
    stats.flowCounts key = ⟨contents.length,(contents.map fun content => content.2.1).sum,
      (contents.map Prod.fst).toFinset.card,contents.length - (contents.map Prod.fst).toFinset.card,
      (contents.map fun content => content.2.2).toFinset.card⟩ := by
  intro contents
  have sequences : contents.map Prod.fst = arrivals.map Arrival.sequence := List.map_map
  have sizes : contents.map (fun content => content.2.1) = arrivals.map Arrival.size := List.map_map
  have sources : contents.map (fun content => content.2.2) = arrivals.map Arrival.source := List.map_map
  have length : contents.length = arrivals.length := List.length_map ..
  have unique := books.duplicates
  rw [sequences,sizes,sources,length,UdpWorkloadStats.flowCounts,books.received,books.bytesReceived,books.sources,
    ← books.sequences]
  congr 1
  omega

/-- Calls in another order, and at other times. -/
theorem flowCounts_perm {calls others : List (Received × Int)}
    (same : (others.map Prod.fst).Perm (calls.map Prod.fst)) (key : FlowKey) :
    (UdpWorkloadStats.recordAll others).flowCounts key = (UdpWorkloadStats.recordAll calls).flowCounts key := by
  have contents : ((flowArrivals key others).map Arrival.content).Perm ((flowArrivals key calls).map Arrival.content) := by
    rw [contents_eq,contents_eq]
    exact same.filterMap _
  rw [(recordAll_books others key).flowCounts,(recordAll_books calls key).flowCounts,contents.length_eq,
    (contents.map _).sum_eq,List.toFinset_eq_of_perm _ _ (contents.map _),List.toFinset_eq_of_perm _ _ (contents.map _)]

/-- Whatever is recorded, and whenever: the counts of each flow, their independence of the order, and
the summary, in which each call stands once, each flow has one row, and each workload of a row has one
with the sums of its flows and a window that covers theirs. -/
theorem harness_accounts (calls : List (Received × Int)) :
    let stats := UdpWorkloadStats.recordAll calls
    (∀ key, stats.received.count key = (stats.sequencesOf key).card + stats.duplicates.count key ∧
      stats.reordered.count key = overtaken ((flowArrivals key calls).map Arrival.sequence)) ∧
    (∀ others : List (Received × Int), (others.map Prod.fst).Perm (calls.map Prod.fst) →
      ∀ key, (UdpWorkloadStats.recordAll others).flowCounts key = stats.flowCounts key) ∧
    ∃ rows, stats.summaryRows = some rows ∧
      let flows := rows.filter fun row => row.scope = .flow
      (flows.map SummaryRow.received).sum + stats.unexpected + stats.malformed = calls.length ∧
      (∀ key, flowArrivals key calls ≠ [] →
        ∃ window, flows.filter (fun row => row.OfFlow key) = [stats.flowRow key window]) ∧
      (∀ row ∈ flows, rows.countP (fun total => row.Totals total) = 1) ∧
      ∀ total ∈ rows, total.scope = .workload →
        SumsUp total (flows.filter fun row => row.kind = total.kind ∧ row.workload = total.workload) := by
  intro stats
  refine ⟨fun key => ?_,fun others same key => flowCounts_perm same key,_,summaryRows_eq calls,?_⟩
  · have books := recordAll_books calls key
    exact ⟨books.received.trans books.duplicates.symm,books.reordered⟩
  · rw [filter_flows]
    refine ⟨?_,fun key arrivals => ⟨_,filter_flow stats ((mem_keys_iff calls key).mpr arrivals)⟩,
      fun row => countP_totals stats,?_⟩
    · rw [flowRows,List.map_map]
      exact sum_received calls
    · intro total member scope
      rcases List.mem_append.mp member with flow | total
      · rw [flow_of_flowRows flow] at scope
        cases scope
      · obtain ⟨workload,_,rfl⟩ := List.mem_map.mp total
        have sums := totalRow_sumsUp stats workload (stats.groupedKeys workload)
        rw [← filter_workload] at sums
        exact sums

def markedDatagram (marker : CString) (workload flow sequence : UInt8) : Bytes :=
  (marker.map fun c => c.toNat.toUInt8) ++ [0,0,0,0,workload,0,0,0,flow,0,0,0,sequence,0,0,0,1]

/-- Two flows of a workload, one of them out of order, a datagram of another workload and one of none. -/
def mixedCalls : List (Received × Int) :=
  [(⟨markedDatagram "NXRVWG1".toList 7 0 1,"10.0.0.2:4000".toList,true⟩,0),
    (⟨markedDatagram "NXRVWG1".toList 7 1 0,"10.0.0.2:4001".toList,true⟩,1000),
    (⟨markedDatagram "NXRVWG1".toList 7 0 0,"10.0.0.2:4000".toList,true⟩,2000),
    (⟨markedDatagram "NXRVBS1".toList 8 0 0,"10.0.0.3:4000".toList,false⟩,3000),(⟨[1,2,3],"10.0.0.4:9".toList,false⟩,4000)]

theorem harness_accounts_mixed : ∃ rows, (UdpWorkloadStats.recordAll mixedCalls).summaryRows = some rows ∧
    (∃ row ∈ rows, row.OfFlow ⟨.wgnxTun,7,0⟩ ∧ row.received = 2 ∧ row.reordered = 1 ∧
      rows.countP (fun total => row.Totals total) = 1) ∧
    (∃ row ∈ rows, row.OfFlow ⟨.wgnxTun,7,1⟩ ∧ row.received = 1 ∧
      rows.countP (fun total => row.Totals total) = 1) ∧
    ∃ row ∈ rows, row.OfFlow ⟨.bsdSystem,8,0⟩ ∧ row.received = 1 ∧
      rows.countP (fun total => row.Totals total) = 1 := by
  obtain ⟨_,_,rows,summed,_,flows,totals,_⟩ := harness_accounts mixedCalls
  have row (key : FlowKey) (arrives : flowArrivals key mixedCalls ≠ []) : ∃ window,
      (UdpWorkloadStats.recordAll mixedCalls).flowRow key window ∈ rows ∧
        rows.countP (fun total => ((UdpWorkloadStats.recordAll mixedCalls).flowRow key window).Totals total) = 1 := by
    obtain ⟨window,only⟩ := flows key arrives
    have member : (UdpWorkloadStats.recordAll mixedCalls).flowRow key window ∈
        rows.filter fun row => row.scope = .flow := (List.mem_filter.mp (only ▸ List.mem_singleton_self _)).1
    exact ⟨window,(List.mem_filter.mp member).1,totals _ member⟩
  obtain ⟨first,firstMember,firstTotal⟩ := row ⟨.wgnxTun,7,0⟩ (by decide)
  obtain ⟨second,secondMember,secondTotal⟩ := row ⟨.wgnxTun,7,1⟩ (by decide)
  obtain ⟨third,thirdMember,thirdTotal⟩ := row ⟨.bsdSystem,8,0⟩ (by decide)
  have received : (UdpWorkloadStats.recordAll mixedCalls).received.count ⟨.wgnxTun,7,0⟩ = 2 ∧
      (UdpWorkloadStats.recordAll mixedCalls).reordered.count ⟨.wgnxTun,7,0⟩ = 1 ∧
      (UdpWorkloadStats.recordAll mixedCalls).received.count ⟨.wgnxTun,7,1⟩ = 1 ∧
      (UdpWorkloadStats.recordAll mixedCalls).received.count ⟨.bsdSystem,8,0⟩ = 1 := by decide
  exact ⟨rows,summed,⟨_,firstMember,⟨rfl,rfl,rfl⟩,received.1,received.2.1,firstTotal⟩,
    ⟨_,secondMember,⟨rfl,rfl,rfl⟩,received.2.2.1,secondTotal⟩,
    ⟨_,thirdMember,⟨rfl,rfl,rfl⟩,received.2.2.2,thirdTotal⟩⟩

end NxReverse.Tools
