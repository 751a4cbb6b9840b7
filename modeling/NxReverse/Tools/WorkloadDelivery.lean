import Mathlib.Algebra.Order.BigOperators.Group.Finset
import NxReverse.Toolbox.WritableRecovery
import NxReverse.Tools.WorkloadAccounts
import NxReverse.Tools.WorkloadIdentity

/-! The two ends of a UDP workload over `bsd:s`. Between them the network may lose, repeat and reorder datagrams, but
invents none; the requester is then told of every datagram of a run that succeeds. -/
namespace NxReverse.Tools

open Text Words Toolbox Toolbox.BsdSystemUdp Program

/-- The flow that a datagram is sent on. -/
def flowOf (config : TunnelUdpWorkloadConfig) (sequence : UInt32) : UInt32 := sequence % config.concurrentFlows

def payloadOf (config : TunnelUdpWorkloadConfig) (sequence : UInt32) : Bytes :=
  BsdSystemUdp.buildPayload config.payloadBytes.toNat sequence (flowOf config sequence) config

def Echoed (trace : List SocketExchange) (payload : Bytes) : Prop :=
  ∃ descriptor size received, (⟨.recvfrom descriptor size,.ok received⟩ : SocketExchange) ∈ trace ∧
    received.data = payload

def Own (config : TunnelUdpWorkloadConfig) (exchange : SocketExchange) : Prop :=
  match exchange.command with
  | .send _ payload => ∃ sequence, sequence < config.datagramCount ∧ payload = payloadOf config sequence
  | _ => True

/-- What came back was received by the requester, and what it received was sent. -/
structure Network (trace : List SocketExchange) (calls : List (Received × Int)) : Prop where
  echoed : ∀ payload, Echoed trace payload → ∃ call ∈ calls, call.1.data = payload
  sent : ∀ call ∈ calls, ∃ descriptor answer,
    (⟨.send descriptor call.1.data,answer⟩ : SocketExchange) ∈ trace

section Run

variable {api : SocketApi} {config : TunnelUdpWorkloadConfig} {bsdConfig : BsdSystemUdpWorkloadConfig}

theorem Echoed.append_left {first second : List SocketExchange} {payload : Bytes} (echoed : Echoed second payload) :
    Echoed (first ++ second) payload := by
  obtain ⟨descriptor,size,received,member,same⟩ := echoed
  exact ⟨descriptor,size,received,List.mem_append_right _ member,same⟩

theorem Echoed.append_right {first second : List SocketExchange} {payload : Bytes} (echoed : Echoed first payload) :
    Echoed (first ++ second) payload := by
  obtain ⟨descriptor,size,received,member,same⟩ := echoed
  exact ⟨descriptor,size,received,List.mem_append_left _ member,same⟩

theorem only_sendWithWritableRetry {descriptor : Int} {sequence deadlineMs : UInt32}
    (below : sequence < config.datagramCount) (retriesLeft : Nat) (result : BsdSendResult) :
    Only (Own config) (sendWithWritableRetry api descriptor (payloadOf config sequence) deadlineMs retriesLeft result) := by
  induction retriesLeft generalizing result with
  | zero =>
    rw [sendWithWritableRetry]
    refine only_call (fun _ => ⟨sequence,below,rfl⟩) fun answer => ?_
    cases answer with
    | ok count => exact only_pure _
    | error errno => exact only_pure _
  | succ retriesLeft ih =>
    rw [sendWithWritableRetry]
    refine only_call (fun _ => ⟨sequence,below,rfl⟩) fun answer => ?_
    cases answer with
    | ok count => exact only_pure _
    | error errno =>
      refine Ensures.ite (fun _ => only_pure _) fun _ => ?_
      refine only_call (fun _ => trivial) fun writable => ?_
      dsimp only
      split
      · exact only_pure _
      · exact only_pure _
      · refine Ensures.ite (fun _ => only_pure _) fun _ => Ensures.ite (fun _ => only_pure _) fun _ => ih _

theorem only_receiveExpectedEcho (descriptor : Int) (payload : Bytes) (remote : SockaddrIn) (deadlineMs : UInt32)
    (result : SocketResult) (sequence : UInt32) :
    Only (Own config) (receiveExpectedEcho api descriptor payload remote deadlineMs result sequence) := by
  refine only_call (fun _ => trivial) fun answer => Ensures.ite (fun _ => only_pure _) fun _ => ?_
  refine only_call (fun _ => trivial) fun received => ?_
  cases received with
  | error errno => exact only_pure _
  | ok received => exact Ensures.ite (fun _ => only_pure _) fun _ => Ensures.ite (fun _ => only_pure _) fun _ => only_pure _

theorem only_of_quiet (config : TunnelUdpWorkloadConfig) {α : Type} {told : α → Prop} {p : SocketProgram α}
    (quiet : Quiet told p) : Only (Own config) p := by
  refine Ensures.mono quiet fun trace value silent exchange member => ?_
  obtain ⟨command,answer⟩ := exchange
  cases command with
  | send descriptor payload =>
    have talks : (⟨.send descriptor payload,answer⟩ : SocketExchange) ∈ talk trace := List.mem_filter.mpr ⟨member,rfl⟩
    rw [silent.1] at talks
    cases talks
  | _ => trivial

theorem only_sendDatagrams (remote : SockaddrIn) (descriptors : List Nat) (remaining : Nat) (sequence : UInt32)
    (s : LoopState) (inside : sequence.toNat + remaining ≤ config.datagramCount.toNat) :
    Only (Own config) (BsdSystemUdp.sendDatagrams api config remote descriptors remaining sequence s) := by
  induction remaining generalizing sequence s with
  | zero => exact only_pure _
  | succ remaining ih =>
    have below : sequence < config.datagramCount := UInt32.lt_iff_toNat_lt.mpr (by omega)
    have next : (sequence + 1).toNat = sequence.toNat + 1 := by
      have small := config.datagramCount.toNat_lt
      rw [UInt32.toNat_add]
      exact Nat.mod_eq_of_lt (by rw [show (1 : UInt32).toNat = 1 from rfl]; omega)
    rw [BsdSystemUdp.sendDatagrams]
    refine Only.bind (only_sendWithWritableRetry below _ _) fun sent => ?_
    refine Ensures.ite (fun _ => only_pure _) fun _ => ?_
    refine Only.bind ?_ fun echoed => Ensures.ite (fun _ => only_pure _) fun _ => ?_
    · rw [BsdSystemUdp.awaitEcho]
      exact Ensures.ite (fun _ => only_pure _) fun _ =>
        Only.bind (only_receiveExpectedEcho _ _ _ _ _ _) fun _ => only_pure _
    · refine Ensures.ite (fun _ => only_call (fun _ => trivial) fun _ => ?_) fun _ => ?_
      · exact ih _ _ (by omega)
      · exact ih _ _ (by omega)

theorem receiveExpectedEcho_echoed (descriptor : Int) (payload : Bytes) (remote : SockaddrIn) (deadlineMs : UInt32)
    (result : SocketResult) (sequence : UInt32) :
    (receiveExpectedEcho api descriptor payload remote deadlineMs result sequence).Ensures
      fun trace value => value.1 = true → Echoed trace payload := by
  refine fun answer => Ensures.ite (fun _ => ensures_pure.mpr nofun) fun _ => ?_
  intro received
  cases received with
  | error errno => exact ensures_pure.mpr nofun
  | ok received =>
    refine Ensures.ite (fun _ => ensures_pure.mpr nofun) fun expected => ?_
    refine Ensures.ite (fun _ => ensures_pure.mpr nofun) fun _ => ensures_pure.mpr fun _ => ?_
    refine ⟨_,_,received,List.mem_cons_of_mem _ List.mem_cons_self,?_⟩
    simp only [isExpectedReply,Bool.not_eq_true',Bool.not_eq_false,Bool.and_eq_true,beq_iff_eq] at expected
    exact expected.2

/-- How far the loop has come: `count` datagrams of those that it was to send have come back. -/
structure Advanced (config : TunnelUdpWorkloadConfig) (remaining : Nat) (sequence earlier : UInt32)
    (trace : List SocketExchange) (s : LoopState) (count : Nat) : Prop where
  within : count ≤ remaining
  counted : s.echoed = earlier + count.toUInt32
  echoed : ∀ i < count, Echoed trace (payloadOf config (sequence + i.toUInt32))

namespace Advanced

variable {remaining : Nat} {sequence earlier : UInt32} {trace : List SocketExchange} {s last : LoopState} {count : Nat}

theorem stuck (same : last.echoed = earlier) : ∃ count, Advanced config remaining sequence earlier trace last count :=
  ⟨0,Nat.zero_le _,by simpa using same,fun _ inside => absurd inside (Nat.not_lt_zero _)⟩

/-- One more datagram in front. -/
theorem further {before whole : List SocketExchange} {next : UInt32}
    (advanced : Advanced config remaining (sequence + 1) next trace last count) (split : whole = before ++ trace)
    (counted : next = earlier + 1) (echoed : Echoed before (payloadOf config sequence)) :
    Advanced config (remaining + 1) sequence earlier whole last (count + 1) where
  within := Nat.succ_le_succ advanced.within
  counted := by
    rw [advanced.counted,counted]
    simp [UInt32.add_assoc,UInt32.add_comm]
  echoed i inside := by
    subst split
    cases i with
    | zero => simpa using echoed.append_right
    | succ i =>
      have later : Echoed (before ++ trace) _ := (advanced.echoed i (Nat.lt_of_succ_lt_succ inside)).append_left
      rwa [show sequence + (i + 1).toUInt32 = sequence + 1 + i.toUInt32 by simp [UInt32.add_assoc,UInt32.add_comm]]

end Advanced

theorem awaitEcho_echoed (replies : config.echoReplies = true) (remote : SockaddrIn) (descriptor : Int) (payload : Bytes)
    (sequence : UInt32) (s : LoopState) :
    (BsdSystemUdp.awaitEcho api config remote descriptor payload sequence s).Ensures fun trace value =>
      (value.1 = true → value.2.echoed = s.echoed + 1 ∧ Echoed trace payload) ∧
        (value.1 = false → value.2.echoed = s.echoed) := by
  rw [BsdSystemUdp.awaitEcho,if_neg (by simp [replies]),ensures_bind]
  refine (receiveExpectedEcho_echoed descriptor payload remote _ _ sequence).mono fun trace value came => ?_
  obtain ⟨received,result⟩ := value
  refine ensures_pure.mpr ⟨fun goesOn => ⟨if_pos goesOn,?_⟩,fun stops => if_neg (Bool.eq_false_iff.mp stops)⟩
  exact (came goesOn).append_right

theorem sendDatagrams_advanced (replies : config.echoReplies = true) (remote : SockaddrIn) (descriptors : List Nat)
    (remaining : Nat) (sequence : UInt32) (s : LoopState) :
    (BsdSystemUdp.sendDatagrams api config remote descriptors remaining sequence s).Ensures
      fun trace last => ∃ count, Advanced config remaining sequence s.echoed trace last count := by
  induction remaining generalizing sequence s with
  | zero => exact ensures_pure.mpr (Advanced.stuck rfl)
  | succ remaining ih =>
    rw [BsdSystemUdp.sendDatagrams,ensures_bind]
    refine (sendWithWritableRetry_told _ rfl).mono fun before sent _ => ?_
    refine Ensures.ite (fun _ => ensures_pure.mpr (Advanced.stuck rfl)) fun _ => ?_
    rw [ensures_bind]
    refine (awaitEcho_echoed replies _ _ _ _ _).mono fun echoes value came => ?_
    obtain ⟨goesOn,last⟩ := value
    cases goesOn with
    | false => exact ensures_pure.mpr (Advanced.stuck (came.2 rfl))
    | true =>
      obtain ⟨counted,echoed⟩ := came.1 rfl
      have front : Echoed (before ++ echoes) (payloadOf config sequence) := echoed.append_left
      refine Ensures.ite (fun ends => absurd ends (by decide)) fun _ => Ensures.ite (fun _ slept => ?_) fun _ => ?_
      · refine (ih (sequence + 1) last).mono fun trace final later => ?_
        obtain ⟨count,advanced⟩ := later
        have split : before ++ (echoes ++ ⟨.sleepMilliseconds config.pacingMs,slept⟩ :: trace) =
            before ++ echoes ++ [⟨.sleepMilliseconds config.pacingMs,slept⟩] ++ trace := by simp
        exact ⟨count + 1,advanced.further split counted front.append_right⟩
      · refine (ih (sequence + 1) last).mono fun trace final later => ?_
        obtain ⟨count,advanced⟩ := later
        exact ⟨count + 1,advanced.further (List.append_assoc _ _ _).symm counted front⟩

/-- A success has heard every datagram. -/
def Heard (config : TunnelUdpWorkloadConfig) (trace : List SocketExchange) (result : SocketResult) : Prop :=
  result.success = true → ∀ sequence, sequence < config.datagramCount → Echoed trace (payloadOf config sequence)

def Delivers (config : TunnelUdpWorkloadConfig) (p : SocketProgram SocketResult) : Prop :=
  p.Ensures fun trace result => (∀ exchange ∈ trace, Own config exchange) ∧ Heard config trace result

theorem delivers_pure {result : SocketResult} (failing : result.success = false) :
    Delivers config (pure result) :=
  ⟨List.forall_mem_nil _,fun success => absurd (failing.symm.trans success) Bool.false_ne_true⟩

theorem delivers_behind {α : Type} {told : α → Prop} {first : SocketProgram α} {rest : α → SocketProgram SocketResult}
    (quiet : Quiet told first) (later : ∀ value, told value → Delivers config (rest value)) :
    Delivers config (first >>= rest) := by
  refine ensures_bind.mpr (Ensures.mono (Ensures.and (only_of_quiet config quiet) quiet) fun trace value both => ?_)
  refine (later value both.2.2).mono fun behind result ⟨own,heard⟩ => ⟨List.forall_mem_append.mpr ⟨both.1,own⟩,?_⟩
  exact fun success sequence below => (heard success sequence below).append_left

theorem delivers_closing {first : SocketProgram SocketResult} {last : SocketProgram Unit} (delivers : Delivers config first)
    (quiet : Quiet (fun _ => True) last) : Delivers config (first >>= fun result => last >>= fun _ => pure result) := by
  refine ensures_bind.mpr (Ensures.mono delivers fun trace result ⟨own,heard⟩ => ?_)
  refine ensures_bind.mpr (Ensures.mono (only_of_quiet config quiet) fun behind _ ownBehind => ?_)
  refine ensures_pure.mpr ⟨?_,fun success sequence below => (heard success sequence below).append_right⟩
  rw [List.append_nil]
  exact List.forall_mem_append.mpr ⟨own,ownBehind⟩

theorem echoed_of_workloadSummary {s : LoopState} (replies : config.echoReplies = true)
    (undecided : s.result.success = false) (success : (workloadSummary api config bsdConfig s).success = true) :
    s.echoed = config.datagramCount := by
  unfold workloadSummary at success
  by_cases missed : s.result.detail = [] ∧ bsdConfig.requireWritableRecovery = true ∧
      hasWritableRecovery s.queueFullRetries s.writableRecovery = false
  · rw [if_pos missed,if_neg (by simp)] at success
    exact absurd (undecided.symm.trans success) Bool.false_ne_true
  · rw [if_neg missed] at success
    by_cases passed : s.result.detail = [] ∧ (!config.echoReplies ∨ s.echoed = config.datagramCount)
    · exact passed.2.resolve_left (by simp [replies])
    · rw [if_neg passed] at success
      exact absurd (undecided.symm.trans success) Bool.false_ne_true

theorem Advanced.heard {trace : List SocketExchange} {s : LoopState} {count : Nat} (replies : config.echoReplies = true)
    (advanced : Advanced config config.datagramCount.toNat 0 0 trace s count) (undecided : s.result.success = false) :
    Heard config trace (workloadSummary api config bsdConfig s) := by
  intro success sequence below
  have counted : (0 : UInt32) + count.toUInt32 = config.datagramCount :=
    advanced.counted.symm.trans (echoed_of_workloadSummary replies undecided success)
  have all : count = config.datagramCount.toNat := by
    have small : count < 2 ^ 32 := Nat.lt_of_le_of_lt advanced.within config.datagramCount.toNat_lt
    have same := congrArg UInt32.toNat counted
    rw [UInt32.zero_add] at same
    exact (UInt32.toNat_ofNat_of_lt' small).symm.trans same
  have inside : sequence.toNat < count := all ▸ UInt32.lt_iff_toNat_lt.mp below
  have echoed := advanced.echoed sequence.toNat inside
  rwa [UInt32.zero_add,show sequence.toNat.toUInt32 = sequence from UInt32.ofNat_toNat] at echoed

theorem delivers_exchange (replies : config.echoReplies = true) (outcome : bsdConfig.expectedOutcome = .echoReply)
    (remote : SockaddrIn) (descriptors : List Nat) :
    Delivers config (BsdSystemUdp.exchange api config bsdConfig remote descriptors) := by
  unfold BsdSystemUdp.exchange
  rw [outcome]
  refine ensures_bind.mpr (Ensures.mono (Ensures.and (only_sendDatagrams remote descriptors _ 0 .start (by simp))
    (Ensures.and (sendDatagrams_advanced replies remote descriptors _ 0 .start)
      (sendDatagrams_told config remote descriptors _ 0 .start rfl))) fun trace s told => ?_)
  obtain ⟨own,⟨count,advanced⟩,loop⟩ := told
  refine ensures_bind.mpr (Ensures.mono (only_of_quiet config (quiet_closeDescriptors descriptors))
    fun behind _ ownBehind => ensures_pure.mpr ⟨?_,fun success sequence below => ?_⟩)
  · rw [List.append_nil]
    exact List.forall_mem_append.mpr ⟨own,ownBehind⟩
  · exact (advanced.heard replies loop.undecided success sequence below).append_right

theorem delivers_endsEarly {result : SocketResult} (failing : result.success = false) (descriptors : List Nat) :
    Delivers config (closeDescriptors descriptors >>= fun _ => pure result) :=
  delivers_behind (quiet_closeDescriptors descriptors) fun _ _ => delivers_pure failing

theorem delivers_runOverSockets (replies : config.echoReplies = true) (outcome : bsdConfig.expectedOutcome = .echoReply)
    (remote : SockaddrIn) : Delivers config (runOverSockets api config bsdConfig remote) := by
  refine delivers_behind (quiet_openSockets remote config.concurrentFlows.toNat []) ?_
  rintro ⟨descriptors,ended⟩ failing
  cases ended with
  | some result => exact delivers_endsEarly (failing result rfl) descriptors
  | none =>
    refine Ensures.ite (fun _ => ?_) fun _ => delivers_exchange replies outcome remote descriptors
    refine delivers_behind (quiet_verifyPostRouteRejection _) fun checked failing => ?_
    cases checked with
    | error result => exact delivers_endsEarly (failing result rfl) descriptors
    | ok done => exact delivers_exchange replies outcome remote descriptors

theorem delivers_runBsdSystemUdpWorkload (replies : config.echoReplies = true)
    (outcome : bsdConfig.expectedOutcome = .echoReply) :
    Delivers config (runBsdSystemUdpWorkload api config bsdConfig) := by
  unfold runBsdSystemUdpWorkload
  split
  · exact delivers_pure rfl
  · refine Ensures.ite (fun _ => delivers_pure rfl) fun _ => ?_
    refine delivers_behind (quiet_ask fun _ => rfl) fun rc _ => Ensures.ite (fun _ => delivers_pure rfl) fun _ => ?_
    exact delivers_closing (delivers_runOverSockets replies outcome _) (quiet_ask fun _ => rfl)

end Run

/-- The summary of a requester that has received every datagram of the run, each maybe more than once, and nothing
else. -/
structure Accounted (config : TunnelUdpWorkloadConfig) (stats : UdpWorkloadStats) : Prop where
  sequences : ∀ key n, n ∈ stats.sequencesOf key ↔ n < config.datagramCount.toNat ∧
    key = ⟨.bsdSystem,config.workloadId.toNat,n % config.concurrentFlows.toNat⟩
  strays : stats.unexpected + stats.malformed = 0
  summary : ∃ rows, stats.summaryRows = some rows ∧
    ((rows.filter fun row => row.scope = .flow).map SummaryRow.unique).sum = config.datagramCount.toNat

section Accounts

variable {config : TunnelUdpWorkloadConfig} {calls : List (Received × Int)}

def datagramOf (config : TunnelUdpWorkloadConfig) (admitted : minimumPayloadBytes ≤ config.payloadBytes)
    (sequence : UInt32) : WorkloadDatagram := ⟨.bsdSystem,config,sequence,flowOf config sequence,admitted⟩

theorem identified_of_data (admitted : minimumPayloadBytes ≤ config.payloadBytes) {call : Received × Int}
    {sequence : UInt32} (same : call.1.data = payloadOf config sequence) :
    identified call = some (datagramOf config admitted sequence).identity := by
  have parsed := (datagramOf config admitted sequence).parse_payload
  rw [identified,same]
  exact congrArg Prod.fst parsed

theorem key_datagramOf (admitted : minimumPayloadBytes ≤ config.payloadBytes) (sequence : UInt32) :
    (datagramOf config admitted sequence).identity.key =
      ⟨.bsdSystem,config.workloadId.toNat,sequence.toNat % config.concurrentFlows.toNat⟩ := by
  rw [WorkloadIdentity.key,WorkloadDatagram.identity,datagramOf,flowOf,UInt32.toNat_mod]

theorem mem_sequencesOf {key : FlowKey} {n : Nat} : n ∈ (UdpWorkloadStats.recordAll calls).sequencesOf key ↔
    ∃ call ∈ calls, ∃ identity, identified call = some identity ∧ identity.key = key ∧ identity.sequence = n := by
  rw [(recordAll_books calls key).sequences,List.mem_toFinset,List.mem_map]
  constructor
  · rintro ⟨arrival,arrives,rfl⟩
    obtain ⟨call,member,found⟩ := List.mem_filterMap.mp arrives
    obtain ⟨identity,known,rfl⟩ := Option.map_eq_some_iff.mp found
    obtain ⟨parsed,same⟩ := Option.filter_eq_some_iff.mp known
    exact ⟨call,member,identity,parsed,of_decide_eq_true same,rfl⟩
  · rintro ⟨call,member,identity,parsed,rfl,rfl⟩
    refine ⟨arrivalOf identity call.1 call.2,List.mem_filterMap.mpr ⟨call,member,?_⟩,rfl⟩
    simp [flowArrival,parsed]

variable (admitted : minimumPayloadBytes ≤ config.payloadBytes)
  (own : ∀ call ∈ calls, ∃ sequence, sequence < config.datagramCount ∧ call.1.data = payloadOf config sequence)
  (all : ∀ sequence, sequence < config.datagramCount → ∃ call ∈ calls, call.1.data = payloadOf config sequence)

include admitted own all in
theorem sequences_of_delivered (key : FlowKey) (n : Nat) :
    n ∈ (UdpWorkloadStats.recordAll calls).sequencesOf key ↔ n < config.datagramCount.toNat ∧
      key = ⟨.bsdSystem,config.workloadId.toNat,n % config.concurrentFlows.toNat⟩ := by
  rw [mem_sequencesOf]
  constructor
  · rintro ⟨call,member,identity,parsed,rfl,rfl⟩
    obtain ⟨sequence,below,same⟩ := own call member
    cases parsed.symm.trans (identified_of_data admitted same)
    exact ⟨UInt32.lt_iff_toNat_lt.mp below,key_datagramOf admitted sequence⟩
  · rintro ⟨inside,rfl⟩
    have small : n < 2 ^ 32 := inside.trans config.datagramCount.toNat_lt
    have same : n.toUInt32.toNat = n := UInt32.toNat_ofNat_of_lt' small
    obtain ⟨call,member,data⟩ := all n.toUInt32 (UInt32.lt_iff_toNat_lt.mpr (same.symm ▸ inside))
    refine ⟨call,member,_,identified_of_data admitted data,?_,same⟩
    rw [key_datagramOf,same]

include admitted own in
theorem strays_of_own : (UdpWorkloadStats.recordAll calls).unexpected + (UdpWorkloadStats.recordAll calls).malformed = 0 := by
  rw [recordAll_unidentified]
  refine List.countP_eq_zero.mpr fun call member stray => ?_
  obtain ⟨sequence,_,same⟩ := own call member
  rw [identified_of_data admitted same] at stray
  simp at stray

theorem mem_keys_of_sequence {key : FlowKey} {n : Nat} (member : n ∈ (UdpWorkloadStats.recordAll calls).sequencesOf key) :
    key ∈ (UdpWorkloadStats.recordAll calls).keys := by
  rw [mem_keys_iff]
  rintro none
  rw [(recordAll_books calls key).sequences,none] at member
  cases (List.mem_toFinset.mp member)

include admitted own all in
theorem summary_of_delivered : ∃ rows, (UdpWorkloadStats.recordAll calls).summaryRows = some rows ∧
    ((rows.filter fun row => row.scope = .flow).map SummaryRow.unique).sum = config.datagramCount.toNat := by
  refine ⟨_,summaryRows_eq calls,?_⟩
  rw [filter_flows,flowRows,List.map_map]
  have keyed : ∀ n ∈ Finset.range config.datagramCount.toNat,
      (⟨.bsdSystem,config.workloadId.toNat,n % config.concurrentFlows.toNat⟩ : FlowKey) ∈
        (UdpWorkloadStats.recordAll calls).keys.toFinset := by
    intro n inside
    refine List.mem_toFinset.mpr (mem_keys_of_sequence ((sequences_of_delivered admitted own all _ n).mpr ⟨?_,rfl⟩))
    exact Finset.mem_range.mp inside
  have fibers := Finset.card_eq_sum_card_fiberwise keyed
  rw [Finset.card_range] at fibers
  rw [fibers,List.sum_toFinset _ (nodup_keys _)]
  congr 1
  refine List.map_congr_left fun key _ => ?_
  refine congrArg Finset.card (Finset.ext fun n => ?_)
  rw [sequences_of_delivered admitted own all,Finset.mem_filter,Finset.mem_range]
  exact and_congr_right fun _ => eq_comm

include admitted own all in
theorem accounted_of_delivered : Accounted config (.recordAll calls) :=
  ⟨sequences_of_delivered admitted own all,strays_of_own admitted own,summary_of_delivered admitted own all⟩

end Accounts

/-- Where a run of the echo workload succeeds and what the requester recorded is what the network brought it, its
accounts show each datagram in its flow, and nothing else. -/
theorem runBsdSystemUdpWorkload_accounted (api : SocketApi) {config : TunnelUdpWorkloadConfig}
    {bsdConfig : BsdSystemUdpWorkloadConfig} (admitted : minimumPayloadBytes ≤ config.payloadBytes)
    (replies : config.echoReplies = true) (outcome : bsdConfig.expectedOutcome = .echoReply)
    (service : Service SocketCommand.Answer) {calls : List (Received × Int)}
    (network : Network ((runBsdSystemUdpWorkload api config bsdConfig).run service []).1 calls)
    (success : ((runBsdSystemUdpWorkload api config bsdConfig).run service []).2.success = true) :
    Accounted config (.recordAll calls) := by
  obtain ⟨own,heard⟩ := Ensures.of_run (delivers_runBsdSystemUdpWorkload replies outcome) service
  refine accounted_of_delivered admitted (fun call member => ?_) fun sequence below => ?_
  · obtain ⟨descriptor,answer,sent⟩ := network.sent call member
    exact own _ sent
  · exact network.echoed _ (heard success sequence below)

def echoConfig : TunnelUdpWorkloadConfig := ⟨"10.0.0.1".toList,29000,7,24,3,0,2,5000,0,true⟩

def sentData : SocketExchange → Option Bytes
  | ⟨.send _ payload,_⟩ => some payload
  | _ => none

def receivedData : SocketExchange → Option Bytes
  | ⟨.recvfrom _ _,.ok received⟩ => some received.data
  | _ => none

/-- Sockets over which each datagram comes back. -/
def echoSockets : Service SocketCommand.Answer := fun trace command => match command with
  | .socketInitialize => 0
  | .socket => .ok (3 + trace.countP fun e => e.command = .socket)
  | .getsockname _ => .ok ⟨⟨2,[10,0,0,2],4000⟩,16⟩
  | .getFlags _ => .ok 0
  | .connect _ _ | .setFlags _ _ | .setReuseAddress _ | .close _ => .ok ()
  | .send _ payload => .ok payload.length
  | .poll _ _ _ => ⟨.ok 1,1⟩
  | .recvfrom _ _ => .ok ⟨((trace.filterMap sentData).getLast?).getD [],⟨⟨2,[10,0,0,1],29000⟩,16⟩⟩
  | .socketExit | .sleepMilliseconds _ => ()

/-- What the requester is told: the first datagram comes again behind the last one of its flow. -/
def echoCalls : List (Received × Int) := [(⟨payloadOf echoConfig 0,"10.0.0.2:4000".toList,true⟩,5),
  (⟨payloadOf echoConfig 1,"10.0.0.2:4001".toList,true⟩,6),(⟨payloadOf echoConfig 2,"10.0.0.2:4000".toList,true⟩,7),
  (⟨payloadOf echoConfig 0,"10.0.0.2:4000".toList,true⟩,8)]

theorem runBsdSystemUdpWorkload_accounted_repeated : Accounted echoConfig (.recordAll echoCalls) ∧
    (UdpWorkloadStats.recordAll echoCalls).duplicates.count ⟨.bsdSystem,7,0⟩ = 1 ∧
    (UdpWorkloadStats.recordAll echoCalls).reordered.count ⟨.bsdSystem,7,0⟩ = 1 := by
  let trace := ((runBsdSystemUdpWorkload calmApi echoConfig ⟨false,.echoReply,false⟩).run echoSockets []).1
  have sent : trace.filterMap sentData = [payloadOf echoConfig 0,payloadOf echoConfig 1,payloadOf echoConfig 2] := by
    decide +kernel
  have received : trace.filterMap receivedData =
      [payloadOf echoConfig 0,payloadOf echoConfig 1,payloadOf echoConfig 2] := by decide +kernel
  refine ⟨@runBsdSystemUdpWorkload_accounted calmApi echoConfig ⟨false,.echoReply,false⟩ (by decide) rfl rfl echoSockets
    echoCalls ⟨?_,?_⟩ (by decide +kernel),by decide +kernel,by decide +kernel⟩
  · rintro payload ⟨descriptor,size,answer,member,rfl⟩
    have came : answer.data ∈ trace.filterMap receivedData := List.mem_filterMap.mpr ⟨_,member,rfl⟩
    rw [received] at came
    have calls : ∀ data ∈ [payloadOf echoConfig 0,payloadOf echoConfig 1,payloadOf echoConfig 2],
        ∃ call ∈ echoCalls, call.1.data = data := by decide +kernel
    exact calls _ came
  · intro call member
    have own : ∀ call ∈ echoCalls,
        call.1.data ∈ [payloadOf echoConfig 0,payloadOf echoConfig 1,payloadOf echoConfig 2] := by decide +kernel
    have went := own call member
    rw [← sent] at went
    obtain ⟨⟨command,answer⟩,there,same⟩ := List.mem_filterMap.mp went
    cases command with
    | send descriptor payload =>
      cases same
      exact ⟨descriptor,answer,there⟩
    | _ => cases same

end NxReverse.Tools
