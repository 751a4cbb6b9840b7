import Mathlib.Data.Char
import Mathlib.Data.Finset.Sort
import Mathlib.Data.Finset.Union
import Mathlib.Data.List.AList
import Mathlib.Data.List.Lex
import Mathlib.Data.Prod.Lex
import NxReverse.Lib.Text
import NxReverse.Lib.Words

/-! The requester harness's accounts of the UDP workloads: the identity it reads from a datagram, what
a call of `record` counts, and the rows of its summary. -/
namespace NxReverse.Tools

open Text Words

inductive WorkloadKind where
  | wgnxTun | bsdSystem
  deriving DecidableEq, Repr

def WorkloadKind.name : WorkloadKind → CString
  | wgnxTun => "wgnx-tun".toList
  | bsdSystem => "bsd-system".toList

structure WorkloadIdentity where
  workloadKind : WorkloadKind
  workloadId : Nat
  flowIndex : Nat
  sequence : Nat
  seed : Nat
  deriving DecidableEq, Repr

/-- `int.from_bytes(bytes, "big")`. -/
def fromBytesBig (bytes : Bytes) : Nat := bytes.foldl (fun value byte => value * 256 + byte.toNat) 0

def markerKind (marker : Bytes) : Option WorkloadKind :=
  if marker = "NXRVWG1".toList.map fun c => c.toNat.toUInt8 then some .wgnxTun
  else if marker = "NXRVBS1".toList.map fun c => c.toNat.toUInt8 then some .bsdSystem
  else none

/-- The identity, and whether the datagram has a marker but no whole header. -/
def parseWorkloadIdentity (data : Bytes) : Option WorkloadIdentity × Bool :=
  match markerKind (data.take 7) with
  | none => (none,false)
  | some workloadKind =>
    if data.length < 24 ∨ data.getD 7 0 ≠ 0 then (none,true)
    else
      (some ⟨workloadKind,fromBytesBig (slice 8 4 data),fromBytesBig (slice 12 4 data),
        fromBytesBig (slice 16 4 data),fromBytesBig (slice 20 4 data)⟩,false)

structure FlowKey where
  workloadKind : WorkloadKind
  workloadId : Nat
  flowIndex : Nat
  deriving DecidableEq, Repr

def FlowKey.workload (key : FlowKey) : WorkloadKind × Nat := (key.workloadKind,key.workloadId)

/-- What keys are sorted by. -/
def FlowKey.rank (key : FlowKey) : CString ×ₗ Nat ×ₗ Nat :=
  toLex (key.workloadKind.name,toLex (key.workloadId,key.flowIndex))

def WorkloadIdentity.key (identity : WorkloadIdentity) : FlowKey :=
  ⟨identity.workloadKind,identity.workloadId,identity.flowIndex⟩

abbrev FlowDict (α : Type) := AList fun _ : FlowKey => α

/-- A `Counter`, which counts zero for a key that it does not hold. -/
abbrev Counter := FlowDict Nat

def Counter.count (counter : Counter) (key : FlowKey) : Nat := (counter.lookup key).getD 0

def Counter.add (counter : Counter) (key : FlowKey) (amount : Nat) : Counter :=
  counter.insert key (counter.count key + amount)

structure UdpWorkloadStats where
  received : Counter
  echoed : Counter
  bytesReceived : Counter
  bytesEchoed : Counter
  sources : FlowDict (Finset CString)
  sequences : FlowDict (Finset Nat)
  lastSequence : FlowDict Nat
  duplicates : Counter
  reordered : Counter
  firstReceivedNs : FlowDict Int
  lastReceivedNs : FlowDict Int
  unexpected : Nat
  malformed : Nat

structure Received where
  data : Bytes
  source : CString
  echoed : Bool
  deriving DecidableEq, Repr

def identityText (identity : WorkloadIdentity) : CString :=
  "kind=".toList ++ identity.workloadKind.name ++ " workload=".toList ++ decimal identity.workloadId ++
    " flow=".toList ++ decimal identity.flowIndex ++ " sequence=".toList ++ decimal identity.sequence ++
    " seed=0x".toList ++ (Nat.toDigits 16 identity.seed).leftpad 8 '0'

namespace UdpWorkloadStats

def start : UdpWorkloadStats := ⟨∅,∅,∅,∅,∅,∅,∅,∅,∅,∅,∅,0,0⟩

def sourcesOf (stats : UdpWorkloadStats) (key : FlowKey) : Finset CString := (stats.sources.lookup key).getD ∅

def sequencesOf (stats : UdpWorkloadStats) (key : FlowKey) : Finset Nat := (stats.sequences.lookup key).getD ∅

def recordIdentified (stats : UdpWorkloadStats) (identity : WorkloadIdentity) (call : Received) (receivedNs : Int) :
    UdpWorkloadStats :=
  let key := identity.key
  let previous := stats.lastSequence.lookup key
  { stats with
    received := stats.received.add key 1
    bytesReceived := stats.bytesReceived.add key call.data.length
    firstReceivedNs :=
      if key ∈ stats.firstReceivedNs then stats.firstReceivedNs else stats.firstReceivedNs.insert key receivedNs
    lastReceivedNs := stats.lastReceivedNs.insert key receivedNs
    sources := stats.sources.insert key (insert call.source (stats.sourcesOf key))
    duplicates :=
      if identity.sequence ∈ stats.sequencesOf key then stats.duplicates.add key 1 else stats.duplicates
    sequences := stats.sequences.insert key (insert identity.sequence (stats.sequencesOf key))
    reordered :=
      if previous.any (identity.sequence < ·) then stats.reordered.add key 1 else stats.reordered
    lastSequence :=
      stats.lastSequence.insert key (previous.elim identity.sequence (max identity.sequence ·))
    echoed := if call.echoed then stats.echoed.add key 1 else stats.echoed
    bytesEchoed := if call.echoed then stats.bytesEchoed.add key call.data.length else stats.bytesEchoed }

def record (stats : UdpWorkloadStats) (call : Received) (receivedNs : Int) : Option CString × UdpWorkloadStats :=
  match parseWorkloadIdentity call.data with
  | (none,malformed) =>
    (none,if malformed then { stats with malformed := stats.malformed + 1 }
      else { stats with unexpected := stats.unexpected + 1 })
  | (some identity,_) => (some (identityText identity),stats.recordIdentified identity call receivedNs)

/-- The accounts after calls of `record`, each with its reading of the clock. -/
def recordAll (calls : List (Received × Int)) : UdpWorkloadStats :=
  calls.foldl (fun stats call => (stats.record call.1 call.2).2) start

end UdpWorkloadStats

inductive SummaryScope where
  | flow | workload
  deriving DecidableEq, Repr

/-- The flow of a workload's row is `all`, here `none`. -/
structure SummaryRow where
  kind : WorkloadKind
  workload : Nat
  scope : SummaryScope
  flow : Option Nat
  received : Nat
  receivedBytes : Nat
  echoed : Nat
  echoedBytes : Nat
  unique : Nat
  duplicates : Nat
  reordered : Nat
  receiveElapsedNs : Int
  sources : CString
  deriving DecidableEq, Repr

def joinSources (sources : Finset CString) : CString := ",".toList.intercalate sources.sort

namespace UdpWorkloadStats

variable (stats : UdpWorkloadStats)

def flowRow (key : FlowKey) (receiveElapsedNs : Int) : SummaryRow where
  kind := key.workloadKind
  workload := key.workloadId
  scope := .flow
  flow := some key.flowIndex
  received := stats.received.count key
  receivedBytes := stats.bytesReceived.count key
  echoed := stats.echoed.count key
  echoedBytes := stats.bytesEchoed.count key
  unique := (stats.sequencesOf key).card
  duplicates := stats.duplicates.count key
  reordered := stats.reordered.count key
  receiveElapsedNs := receiveElapsedNs
  sources := joinSources (stats.sourcesOf key)

/-- The row of a flow; a missing key of a plain dictionary is an error. -/
def summaryRow (key : FlowKey) : Option SummaryRow := do
  let firstReceivedNs ← stats.firstReceivedNs.lookup key
  let lastReceivedNs ← stats.lastReceivedNs.lookup key
  return stats.flowRow key (lastReceivedNs - firstReceivedNs)

def totalRow (workload : WorkloadKind × Nat) (groupedKeys : List FlowKey) (receiveElapsedNs : Int) : SummaryRow where
  kind := workload.1
  workload := workload.2
  scope := .workload
  flow := none
  received := (groupedKeys.map stats.received.count).sum
  receivedBytes := (groupedKeys.map stats.bytesReceived.count).sum
  echoed := (groupedKeys.map stats.echoed.count).sum
  echoedBytes := (groupedKeys.map stats.bytesEchoed.count).sum
  unique := (groupedKeys.map fun key => (stats.sequencesOf key).card).sum
  duplicates := (groupedKeys.map stats.duplicates.count).sum
  reordered := (groupedKeys.map stats.reordered.count).sum
  receiveElapsedNs := receiveElapsedNs
  sources := joinSources (groupedKeys.toFinset.biUnion stats.sourcesOf)

/-- The row of a workload over the keys of its flows. -/
def workloadRow (workload : WorkloadKind × Nat) (groupedKeys : List FlowKey) : Option SummaryRow := do
  let firstReceivedNs ← (← groupedKeys.mapM fun key => stats.firstReceivedNs.lookup key).min?
  let lastReceivedNs ← (← groupedKeys.mapM fun key => stats.lastReceivedNs.lookup key).max?
  return stats.totalRow workload groupedKeys (lastReceivedNs - firstReceivedNs)

def keys : List FlowKey :=
  (stats.received.keys ∪ stats.echoed.keys).mergeSort fun a b => decide (a.rank ≤ b.rank)

/-- The workloads of the keys, in the keys' own order. -/
def workloads : List (WorkloadKind × Nat) := (stats.keys.map FlowKey.workload).dedup

def groupedKeys (workload : WorkloadKind × Nat) : List FlowKey :=
  stats.keys.filter fun key => key.workload = workload

def summaryRows : Option (List SummaryRow) := do
  let rows ← stats.keys.mapM stats.summaryRow
  let totals ← stats.workloads.mapM fun workload => stats.workloadRow workload (stats.groupedKeys workload)
  return rows ++ totals

end UdpWorkloadStats

end NxReverse.Tools
