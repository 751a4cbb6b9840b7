import Mathlib.Algebra.Order.BigOperators.Group.List
import Mathlib.Data.Nat.Log
import NxReverse.Lib.Ranks

/-! The measurements of a UDP workload. Ticks become nanoseconds without a loss, and the histogram of the round
trips by powers of two gives each percentile up to a factor of two. -/
namespace NxReverse.Toolbox

open Ranks

def ticksToNanoseconds (ticks tickFrequency : UInt64) : UInt64 :=
  if tickFrequency = 0 then 0
  else (ticks / tickFrequency) * 1000000000 + ((ticks % tickFrequency) * 1000000000) / tickFrequency

/-- The whole nanoseconds of a number of ticks. -/
def exactNanoseconds (ticks tickFrequency : Nat) : Nat := ticks * 1000000000 / tickFrequency

theorem exactNanoseconds_parts {ticks frequency : Nat} (positive : 0 < frequency) :
    exactNanoseconds ticks frequency =
      ticks / frequency * 1000000000 + ticks % frequency * 1000000000 / frequency := by
  have parts : ticks * 1000000000 =
      ticks % frequency * 1000000000 + frequency * (ticks / frequency * 1000000000) := by
    rw [← Nat.mul_assoc,← Nat.add_mul,Nat.mod_add_div]
  rw [exactNanoseconds,parts,Nat.add_mul_div_left _ _ positive,Nat.add_comm]

/-- No product of the conversion overflows where the result fits. -/
theorem ticksToNanoseconds_toNat {ticks frequency : UInt64} (positive : 1 ≤ frequency.toNat)
    (slow : frequency.toNat ≤ 18446744073) (fits : exactNanoseconds ticks.toNat frequency.toNat < 2 ^ 64) :
    (ticksToNanoseconds ticks frequency).toNat = exactNanoseconds ticks.toNat frequency.toNat := by
  have some : frequency ≠ 0 := by
    rintro rfl
    exact absurd positive (by decide)
  have rest : ticks.toNat % frequency.toNat < frequency.toNat := Nat.mod_lt _ positive
  rw [exactNanoseconds_parts positive] at fits ⊢
  generalize quotient : ticks.toNat / frequency.toNat = seconds at fits ⊢
  generalize remainder : ticks.toNat % frequency.toNat = ticksLeft at fits rest ⊢
  have product : ticksLeft * 1000000000 < 2 ^ 64 := by
    clear fits
    omega
  have whole : seconds * 1000000000 < 2 ^ 64 := Nat.lt_of_le_of_lt (Nat.le_add_right _ _) fits
  have billion : (1000000000 : UInt64).toNat = 1000000000 := rfl
  rw [ticksToNanoseconds,if_neg some,UInt64.toNat_add,UInt64.toNat_mul,UInt64.toNat_div,UInt64.toNat_div,
    UInt64.toNat_mul,UInt64.toNat_mod,billion,quotient,remainder,Nat.mod_eq_of_lt product,Nat.mod_eq_of_lt whole,
    Nat.mod_eq_of_lt fits]

def bitWidth (value : UInt64) : Nat := if value = 0 then 0 else value.toNat.log2 + 1

def rttBucket (elapsedNs : UInt64) : Nat := if elapsedNs = 0 then 0 else bitWidth elapsedNs - 1

theorem rttBucket_eq (elapsedNs : UInt64) : rttBucket elapsedNs = elapsedNs.toNat.log2 := by
  by_cases none : elapsedNs = 0
  · simp [rttBucket,none]
  · simp [rttBucket,bitWidth,none]

theorem log2_lt_64 {elapsed : Nat} (bounded : elapsed < 2 ^ 64) : elapsed.log2 < 64 := by
  by_cases none : elapsed = 0
  · simp [none]
  · exact (Nat.log2_lt none).mpr bounded

theorem rttBucket_lt (elapsedNs : UInt64) : rttBucket elapsedNs < 64 := by
  rw [rttBucket_eq]
  exact log2_lt_64 elapsedNs.toNat_lt

structure UdpWorkloadMetrics where
  firstSubmissionTick : UInt64
  lastSubmissionTick : UInt64
  submittedBytes : UInt64
  echoedBytes : UInt64
  rttMinNs : UInt64
  rttMaxNs : UInt64
  rttTotalNs : UInt64
  attemptedDatagrams : UInt32
  submittedDatagrams : UInt32
  echoedDatagrams : UInt32
  rttHistogram : Vector UInt32 64
  deriving DecidableEq, Repr

def UdpWorkloadMetrics.empty : UdpWorkloadMetrics := ⟨0,0,0,0,0,0,0,0,0,0,Vector.replicate 64 0⟩

namespace UdpWorkloadMetrics

def recordAttempt (metrics : UdpWorkloadMetrics) : UdpWorkloadMetrics :=
  { metrics with attemptedDatagrams := metrics.attemptedDatagrams + 1 }

def recordSubmission (tick payloadBytes : UInt64) (metrics : UdpWorkloadMetrics) : UdpWorkloadMetrics :=
  { metrics with
    firstSubmissionTick := if metrics.submittedDatagrams = 0 then tick else metrics.firstSubmissionTick
    lastSubmissionTick := tick
    submittedDatagrams := metrics.submittedDatagrams + 1
    submittedBytes := metrics.submittedBytes + payloadBytes }

def recordEcho (startTick endTick tickFrequency payloadBytes : UInt64) (metrics : UdpWorkloadMetrics) :
    UdpWorkloadMetrics :=
  let elapsedNs := ticksToNanoseconds (endTick - startTick) tickFrequency
  have bucket := rttBucket_lt elapsedNs
  { metrics with
    rttMinNs := if metrics.echoedDatagrams = 0 ∨ elapsedNs < metrics.rttMinNs then elapsedNs else metrics.rttMinNs
    rttMaxNs := if elapsedNs > metrics.rttMaxNs then elapsedNs else metrics.rttMaxNs
    rttTotalNs := metrics.rttTotalNs + elapsedNs
    echoedDatagrams := metrics.echoedDatagrams + 1
    echoedBytes := metrics.echoedBytes + payloadBytes
    rttHistogram := metrics.rttHistogram.set (rttBucket elapsedNs) (metrics.rttHistogram[rttBucket elapsedNs] + 1) }

def submissionElapsedNanoseconds (metrics : UdpWorkloadMetrics) (tickFrequency : UInt64) : UInt64 :=
  if metrics.submittedDatagrams < 2 then 0
  else ticksToNanoseconds (metrics.lastSubmissionTick - metrics.firstSubmissionTick) tickFrequency

def rttMeanNanoseconds (metrics : UdpWorkloadMetrics) : UInt64 :=
  if metrics.echoedDatagrams = 0 then 0 else metrics.rttTotalNs / metrics.echoedDatagrams.toUInt64

/-- The bound of the first bucket, from `index` on, at which the observed echoes reach the target. -/
def upperFrom (target : UInt64) : UInt64 → Nat → List UInt32 → UInt64
  | _,_,[] => 0
  | observed,index,bucket :: rest =>
    let observed := observed + bucket.toUInt64
    if observed ≥ target then
      if index + 1 = 64 then 0xFFFFFFFFFFFFFFFF else 1 <<< (index + 1).toUInt64
    else upperFrom target observed (index + 1) rest

def rttPercentileUpperNanoseconds (metrics : UdpWorkloadMetrics) (percentile : UInt32) : UInt64 :=
  if metrics.echoedDatagrams = 0 then 0
  else
    let target := (metrics.echoedDatagrams.toUInt64 * percentile.toUInt64 + 99) / 100
    upperFrom target 0 0 metrics.rttHistogram.toList

end UdpWorkloadMetrics

inductive MetricCall where
  | recordAttempt
  | recordSubmission (tick payloadBytes : UInt64)
  | recordEcho (startTick endTick tickFrequency payloadBytes : UInt64)
  deriving DecidableEq, Repr

def MetricCall.apply : MetricCall → UdpWorkloadMetrics → UdpWorkloadMetrics
  | recordAttempt => UdpWorkloadMetrics.recordAttempt
  | recordSubmission tick payloadBytes => UdpWorkloadMetrics.recordSubmission tick payloadBytes
  | recordEcho startTick endTick tickFrequency payloadBytes =>
    UdpWorkloadMetrics.recordEcho startTick endTick tickFrequency payloadBytes

def measured (calls : List MetricCall) : UdpWorkloadMetrics :=
  calls.foldl (fun metrics call => call.apply metrics) UdpWorkloadMetrics.empty

def MetricCall.sample? : MetricCall → Option Nat
  | recordEcho startTick endTick tickFrequency _ => some (ticksToNanoseconds (endTick - startTick) tickFrequency).toNat
  | _ => none

def MetricCall.submission? : MetricCall → Option UInt64
  | recordSubmission tick _ => some tick
  | _ => none

def samples (calls : List MetricCall) : List Nat := calls.filterMap MetricCall.sample?
def submissions (calls : List MetricCall) : List UInt64 := calls.filterMap MetricCall.submission?

/-- Books over the items that calls record, kept by each call, are right behind every run that does not overflow them. -/
theorem measured_books {α : Type} {item? : MetricCall → Option α} {Books : List α → UdpWorkloadMetrics → Prop}
    (empty : Books [] UdpWorkloadMetrics.empty)
    (records : ∀ items metrics call item, item? call = some item → items.length + 1 < 2 ^ 32 → Books items metrics →
      Books (items ++ [item]) (call.apply metrics))
    (passes : ∀ items metrics call, item? call = none → Books items metrics → Books items (call.apply metrics))
    {calls : List MetricCall} (short : (calls.filterMap item?).length < 2 ^ 32) :
    Books (calls.filterMap item?) (measured calls) := by
  induction calls using List.reverseRecOn with
  | nil => exact empty
  | append_singleton calls call ih =>
    rw [measured,List.foldl_append]
    rw [List.filterMap_append] at short ⊢
    cases recorded : item? call with
    | none =>
      simp only [List.filterMap_cons,List.filterMap_nil,recorded,List.append_nil] at short ⊢
      exact passes _ _ call recorded (ih short)
    | some item =>
      simp only [List.filterMap_cons,List.filterMap_nil,recorded,List.length_append,List.length_singleton] at short ⊢
      exact records _ _ call item recorded short (ih (by omega))

theorem samples_lt {calls : List MetricCall} : ∀ sample ∈ samples calls, sample < 2 ^ 64 := by
  intro sample member
  obtain ⟨call,-,here⟩ := List.mem_filterMap.mp member
  cases call with
  | recordAttempt => cases here
  | recordSubmission => cases here
  | recordEcho startTick endTick tickFrequency payloadBytes =>
    obtain rfl := Option.some.inj here
    exact UInt64.toNat_lt _

/-- The metrics behind the echoes of some round trips, fewer than their counters can hold. -/
structure EchoBooks (samples : List Nat) (metrics : UdpWorkloadMetrics) : Prop where
  echoed : metrics.echoedDatagrams.toNat = samples.length
  histogram : ∀ i (inside : i < 64), metrics.rttHistogram[i].toNat = samples.countP (·.log2 = i)
  total : metrics.rttTotalNs.toNat = samples.sum % 2 ^ 64
  least : ∀ sample ∈ samples, metrics.rttMinNs.toNat ≤ sample
  greatest : ∀ sample ∈ samples, sample ≤ metrics.rttMaxNs.toNat

theorem echoBooks_empty : EchoBooks [] UdpWorkloadMetrics.empty where
  echoed := rfl
  histogram i inside := by simp [UdpWorkloadMetrics.empty]
  total := rfl
  least := by simp
  greatest := by simp

theorem EchoBooks.echoed_ne_zero {samples : List Nat} {metrics : UdpWorkloadMetrics} (books : EchoBooks samples metrics)
    (some_ : samples ≠ []) : metrics.echoedDatagrams ≠ 0 := by
  intro none
  have length := books.echoed
  rw [none] at length
  exact some_ (List.length_eq_zero_iff.mp length.symm)

theorem EchoBooks.echo {samples : List Nat} {metrics : UdpWorkloadMetrics} (books : EchoBooks samples metrics)
    (short : samples.length + 1 < 2 ^ 32) (startTick endTick tickFrequency payloadBytes : UInt64) :
    EchoBooks (samples ++ [(ticksToNanoseconds (endTick - startTick) tickFrequency).toNat])
      (metrics.recordEcho startTick endTick tickFrequency payloadBytes) := by
  unfold UdpWorkloadMetrics.recordEcho
  generalize ticksToNanoseconds (endTick - startTick) tickFrequency = elapsedNs
  have one : (1 : UInt32).toNat = 1 := rfl
  refine ⟨?_,?_,?_,?_,?_⟩
  · simp only [UInt32.toNat_add,books.echoed,one,List.length_append,List.length_singleton]
    omega
  · intro i inside
    have here := books.histogram i inside
    have bound := List.countP_le_length (p := fun sample => decide (sample.log2 = i)) (l := samples)
    simp only [Vector.getElem_set,List.countP_append,List.countP_singleton,decide_eq_true_eq,rttBucket_eq]
    by_cases same : elapsedNs.toNat.log2 = i
    · subst same
      simp only [if_true,UInt32.toNat_add,one,here]
      omega
    · simp only [if_neg same,here,Nat.add_zero]
  · simp only [UInt64.toNat_add,books.total,List.sum_append,List.sum_singleton]
    omega
  · intro sample member
    dsimp only
    rcases List.mem_append.mp member with old | new
    · have nonempty := books.echoed_ne_zero (List.ne_nil_of_mem old)
      have least := books.least sample old
      split
      next lower => exact (UInt64.lt_iff_toNat_lt.mp (lower.resolve_left nonempty)).le.trans least
      next => exact least
    · obtain rfl := List.mem_singleton.mp new
      split
      next => exact le_rfl
      next higher => exact UInt64.le_iff_toNat_le.mp (UInt64.not_lt.mp (not_or.mp higher).2)
  · intro sample member
    dsimp only
    rcases List.mem_append.mp member with old | new
    · have greatest := books.greatest sample old
      split
      next higher => exact greatest.trans (UInt64.lt_iff_toNat_lt.mp higher).le
      next => exact greatest
    · obtain rfl := List.mem_singleton.mp new
      split
      next => exact le_rfl
      next lower => exact UInt64.le_iff_toNat_le.mp (UInt64.not_lt.mp lower)

theorem measured_echoBooks {calls : List MetricCall} (short : (samples calls).length < 2 ^ 32) :
    EchoBooks (samples calls) (measured calls) := by
  refine measured_books echoBooks_empty (fun items metrics call sample recorded shorter books => ?_)
    (fun items metrics call recorded books => ?_) short
  · cases call with
    | recordEcho startTick endTick tickFrequency payloadBytes =>
      obtain rfl := Option.some.inj recorded
      exact books.echo shorter _ _ _ _
    | recordAttempt => cases recorded
    | recordSubmission => cases recorded
  · obtain ⟨echoed,histogram,total,least,greatest⟩ := books
    cases call with
    | recordEcho => cases recorded
    | recordAttempt => exact ⟨echoed,histogram,total,least,greatest⟩
    | recordSubmission => exact ⟨echoed,histogram,total,least,greatest⟩

def bucketUpper (bucket : Nat) : UInt64 := if bucket + 1 = 64 then 0xFFFFFFFFFFFFFFFF else 1 <<< (bucket + 1).toUInt64

theorem bucketUpper_toNat {bucket : Nat} (inside : bucket < 64) :
    (bucketUpper bucket).toNat = if bucket = 63 then 2 ^ 64 - 1 else 2 ^ (bucket + 1) := by
  have all : ∀ bucket < 64, (bucketUpper bucket).toNat = if bucket = 63 then 2 ^ 64 - 1 else 2 ^ (bucket + 1) := by
    decide
  exact all bucket inside

theorem bucketUpper_mono {bucket higher : Nat} (le : bucket ≤ higher) (inside : higher < 64) :
    (bucketUpper bucket).toNat ≤ (bucketUpper higher).toNat := by
  have power : 2 ^ (bucket + 1) ≤ 2 ^ (higher + 1) := Nat.pow_le_pow_right (by omega) (by omega)
  have largest : bucket ≠ 63 → 2 ^ (bucket + 1) ≤ 2 ^ 63 := fun other => Nat.pow_le_pow_right (by omega) (by omega)
  rw [bucketUpper_toNat inside,bucketUpper_toNat (by omega)]
  split <;> split <;> omega

/-- The loop stops in the bucket of the sample that has the rank. -/
theorem upperFrom_eq {samples : List Nat} {metrics : UdpWorkloadMetrics} (books : EchoBooks samples metrics)
    (short : samples.length < 2 ^ 32) (bounded : ∀ sample ∈ samples, sample < 2 ^ 64) {target : UInt64} {sample : Nat}
    (ranked : atRank samples target.toNat = some sample) {index : Nat} {observed : UInt64}
    (seen : observed.toNat = samples.countP (·.log2 < index)) (ahead : index ≤ sample.log2) :
    UdpWorkloadMetrics.upperFrom target observed index (metrics.rttHistogram.toList.drop index) =
      bucketUpper sample.log2 := by
  have inside : sample.log2 < 64 := log2_lt_64 (bounded sample (atRank_mem ranked))
  have lower : ∀ a b : Nat, a ≤ b → decide (b.log2 < index + 1) = true → decide (a.log2 < index + 1) = true := by
    intro a b le below
    have mono := Nat.log_mono_right (b := 2) le
    simp only [Nat.log2_eq_log_two,decide_eq_true_eq] at below ⊢
    omega
  have bucket : metrics.rttHistogram.toList.drop index =
      metrics.rttHistogram[index] :: metrics.rttHistogram.toList.drop (index + 1) := by
    rw [List.drop_eq_getElem_cons (by simp; omega),Vector.getElem_toList]
  have few := List.countP_le_length (p := fun sample => decide (sample.log2 < index + 1)) (l := samples)
  have observed_ : (observed + metrics.rttHistogram[index].toUInt64).toNat =
      samples.countP (·.log2 < index + 1) := by
    rw [countP_lt_succ] at few ⊢
    rw [UInt64.toNat_add,seen,UInt32.toNat_toUInt64,books.histogram index (by omega)]
    omega
  have reached : observed + metrics.rttHistogram[index].toUInt64 ≥ target ↔ sample.log2 < index + 1 := by
    rw [ge_iff_le,UInt64.le_iff_toNat_le,observed_,rank_le_countP_iff lower ranked,decide_eq_true_eq]
  rw [bucket,UdpWorkloadMetrics.upperFrom]
  by_cases here : sample.log2 < index + 1
  · obtain rfl : index = sample.log2 := by omega
    rw [if_pos (reached.mpr here)]
    rfl
  · rw [if_neg (reached.not.mpr here)]
    exact upperFrom_eq books short bounded ranked observed_ (by omega)
termination_by sample.log2 - index

/-- The rank that the loop looks for. -/
theorem target_toNat {count percent : UInt32} (high : percent.toNat ≤ 100) :
    ((count.toUInt64 * percent.toUInt64 + 99) / 100).toNat = (count.toNat * percent.toNat) ⌈/⌉ 100 := by
  have small := count.toNat_lt
  have product : count.toNat * percent.toNat ≤ count.toNat * 100 := Nat.mul_le_mul_left _ high
  have ninetyNine : (99 : UInt64).toNat = 99 := rfl
  have hundred : (100 : UInt64).toNat = 100 := rfl
  rw [Nat.ceilDiv_eq_add_pred_div,UInt64.toNat_div,UInt64.toNat_add,UInt64.toNat_mul,UInt32.toNat_toUInt64,
    UInt32.toNat_toUInt64,ninetyNine,hundred]
  generalize count.toNat * percent.toNat = scaled at product ⊢
  omega

/-- A percentile is the upper bound of the bucket of the nearest-rank sample. -/
theorem rttPercentileUpper_eq {samples : List Nat} {metrics : UdpWorkloadMetrics} (books : EchoBooks samples metrics)
    (short : samples.length < 2 ^ 32) (bounded : ∀ sample ∈ samples, sample < 2 ^ 64) (some_ : samples ≠ [])
    {percent : UInt32} (low : 1 ≤ percent.toNat) (high : percent.toNat ≤ 100) :
    ∃ sample, percentile samples percent.toNat = some sample ∧
      metrics.rttPercentileUpperNanoseconds percent = bucketUpper sample.log2 := by
  obtain ⟨positive,inside⟩ := percentile_rank (List.length_pos_of_ne_nil some_) low high
  obtain ⟨sample,ranked⟩ := atRank_isSome positive inside
  have nonempty := books.echoed_ne_zero some_
  have target := @target_toNat metrics.echoedDatagrams percent high
  rw [books.echoed] at target
  refine ⟨sample,ranked,?_⟩
  rw [UdpWorkloadMetrics.rttPercentileUpperNanoseconds,if_neg nonempty]
  exact @upperFrom_eq _ _ books short bounded _ _ (target ▸ ranked) 0 0 (by simp) (Nat.zero_le _)

/-- What is right about the summary of some round trips. -/
structure UdpWorkloadMetrics.Summarises (metrics : UdpWorkloadMetrics) (samples : List Nat) : Prop where
  bracket : ∀ percent : UInt32, 1 ≤ percent.toNat → percent.toNat ≤ 100 → ∃ sample,
    percentile samples percent.toNat = some sample ∧
    sample ≤ (metrics.rttPercentileUpperNanoseconds percent).toNat ∧
    (metrics.rttPercentileUpperNanoseconds percent).toNat ≤
      if sample < 2 ^ 63 then 2 * max sample 1 else 2 ^ 64 - 1
  monotone : ∀ percent higher : UInt32, 1 ≤ percent.toNat → percent ≤ higher → higher.toNat ≤ 100 →
    metrics.rttPercentileUpperNanoseconds percent ≤ metrics.rttPercentileUpperNanoseconds higher
  histogram : (metrics.rttHistogram.toList.map UInt32.toNat).sum = metrics.echoedDatagrams.toNat
  mean : samples.sum < 2 ^ 64 →
    metrics.rttMinNs ≤ metrics.rttMeanNanoseconds ∧ metrics.rttMeanNanoseconds ≤ metrics.rttMaxNs

theorem bucketUpper_bracket {sample : Nat} (bounded : sample < 2 ^ 64) :
    sample ≤ (bucketUpper sample.log2).toNat ∧
      (bucketUpper sample.log2).toNat ≤ if sample < 2 ^ 63 then 2 * max sample 1 else 2 ^ 64 - 1 := by
  by_cases none : sample = 0
  · subst none
    decide
  have inside : sample.log2 < 64 := (Nat.log2_lt none).mpr bounded
  have below : sample < 2 ^ (sample.log2 + 1) := Nat.lt_log2_self
  have above : 2 ^ sample.log2 ≤ sample := Nat.log2_self_le none
  have half : sample.log2 < 63 ↔ sample < 2 ^ 63 := Nat.log2_lt none
  rw [bucketUpper_toNat inside]
  by_cases last : sample.log2 = 63
  · rw [if_pos last,if_neg (by omega)]
    omega
  · rw [if_neg last,if_pos (half.mp (by omega)),Nat.pow_succ]
    omega

theorem EchoBooks.mean {samples : List Nat} {metrics : UdpWorkloadMetrics} (books : EchoBooks samples metrics)
    (some_ : samples ≠ []) (sum : samples.sum < 2 ^ 64) :
    metrics.rttMinNs ≤ metrics.rttMeanNanoseconds ∧ metrics.rttMeanNanoseconds ≤ metrics.rttMaxNs := by
  have positive : 0 < samples.length := List.length_pos_of_ne_nil some_
  have nonempty := books.echoed_ne_zero some_
  have mean : metrics.rttMeanNanoseconds.toNat = samples.sum / samples.length := by
    rw [UdpWorkloadMetrics.rttMeanNanoseconds,if_neg nonempty,UInt64.toNat_div,UInt32.toNat_toUInt64,books.echoed,
      books.total,Nat.mod_eq_of_lt sum]
  have least := List.card_nsmul_le_sum samples metrics.rttMinNs.toNat books.least
  have greatest := List.sum_le_card_nsmul samples metrics.rttMaxNs.toNat books.greatest
  rw [smul_eq_mul] at least greatest
  rw [UInt64.le_iff_toNat_le,UInt64.le_iff_toNat_le,mean]
  constructor
  · rw [Nat.le_div_iff_mul_le positive,Nat.mul_comm]
    exact least
  · exact Nat.div_le_of_le_mul greatest

theorem EchoBooks.histogram_sum {samples : List Nat} {metrics : UdpWorkloadMetrics} (books : EchoBooks samples metrics)
    (bounded : ∀ sample ∈ samples, sample < 2 ^ 64) :
    (metrics.rttHistogram.toList.map UInt32.toNat).sum = metrics.echoedDatagrams.toNat := by
  have counts : metrics.rttHistogram.toList.map UInt32.toNat =
      (List.range 64).map fun i => samples.countP (·.log2 = i) := by
    apply List.ext_getElem
    · simp
    · intro i inside _
      have bound : i < 64 := by simpa using inside
      simp [books.histogram i bound]
  have all : samples.countP (·.log2 < 64) = samples.length := by
    rw [List.countP_eq_length]
    exact fun sample member => decide_eq_true (log2_lt_64 (bounded sample member))
  rw [counts,sum_countP_range,all,books.echoed]

/-- Behind any calls with some echoes, fewer than the counters can hold, the percentiles are within a factor of two. -/
theorem measured_summarises (calls : List MetricCall) (some_ : samples calls ≠ [])
    (short : (samples calls).length < 2 ^ 32) : (measured calls).Summarises (samples calls) := by
  have books := measured_echoBooks short
  refine ⟨?_,?_,books.histogram_sum samples_lt,books.mean some_⟩
  · intro percent low high
    obtain ⟨sample,ranked,upper⟩ := rttPercentileUpper_eq books short samples_lt some_ low high
    refine ⟨sample,ranked,?_⟩
    rw [upper]
    exact bucketUpper_bracket (samples_lt sample (atRank_mem ranked))
  · intro percent higher low le high
    rw [UInt32.le_iff_toNat_le] at le
    obtain ⟨sample,ranked,upper⟩ := rttPercentileUpper_eq books short samples_lt some_ low (le.trans high)
    obtain ⟨other,rankedHigher,upperHigher⟩ :=
      rttPercentileUpper_eq books short samples_lt some_ (low.trans le) high
    have ranks : ((samples calls).length * percent.toNat) ⌈/⌉ 100 ≤ ((samples calls).length * higher.toNat) ⌈/⌉ 100 := by
      have scaled := Nat.mul_le_mul_left (samples calls).length le
      rw [Nat.ceilDiv_eq_add_pred_div,Nat.ceilDiv_eq_add_pred_div]
      omega
    have mono := Nat.log_mono_right (b := 2) (atRank_mono ranked rankedHigher ranks)
    rw [← Nat.log2_eq_log_two,← Nat.log2_eq_log_two] at mono
    have inside : other.log2 < 64 := log2_lt_64 (samples_lt other (atRank_mem rankedHigher))
    rw [upper,upperHigher,UInt64.le_iff_toNat_le]
    exact bucketUpper_mono mono inside

theorem measured_summarises_two :
    (measured [.recordEcho 0 3 1000 64,.recordEcho 5 7 1000 64]).Summarises [3000000,2000000] :=
  measured_summarises [.recordEcho 0 3 1000 64,.recordEcho 5 7 1000 64] (by decide) (by decide)

def Fits (ticks tickFrequency : UInt64) : Prop := exactNanoseconds ticks.toNat tickFrequency.toNat < 2 ^ 64

/-- The metrics behind some submissions, fewer than their counter can hold. -/
structure SubmissionBooks (ticks : List UInt64) (metrics : UdpWorkloadMetrics) : Prop where
  submitted : metrics.submittedDatagrams.toNat = ticks.length
  ends : ∀ some : ticks ≠ [], metrics.firstSubmissionTick = ticks.head some ∧
    metrics.lastSubmissionTick = ticks.getLast some

theorem SubmissionBooks.submit {ticks : List UInt64} {metrics : UdpWorkloadMetrics}
    (books : SubmissionBooks ticks metrics) (short : ticks.length + 1 < 2 ^ 32) (tick payloadBytes : UInt64) :
    SubmissionBooks (ticks ++ [tick]) (metrics.recordSubmission tick payloadBytes) := by
  have one : (1 : UInt32).toNat = 1 := rfl
  refine ⟨?_,fun some_ => ⟨?_,?_⟩⟩
  · simp only [UdpWorkloadMetrics.recordSubmission,UInt32.toNat_add,books.submitted,one,List.length_append,
      List.length_singleton]
    omega
  · by_cases first : ticks = []
    · subst first
      have none : metrics.submittedDatagrams = 0 := UInt32.toNat_inj.mp books.submitted
      simp [UdpWorkloadMetrics.recordSubmission,none]
    · have counted : metrics.submittedDatagrams ≠ 0 := by
        intro none
        have length := books.submitted
        rw [none] at length
        exact first (List.length_eq_zero_iff.mp length.symm)
      simp [UdpWorkloadMetrics.recordSubmission,counted,(books.ends first).1,List.head_append_of_ne_nil first]
  · simp [UdpWorkloadMetrics.recordSubmission]

theorem measured_submissionBooks {calls : List MetricCall} (short : (submissions calls).length < 2 ^ 32) :
    SubmissionBooks (submissions calls) (measured calls) := by
  refine measured_books ⟨rfl,fun some_ => absurd rfl some_⟩ (fun items metrics call tick recorded shorter books => ?_)
    (fun items metrics call recorded books => ?_) short
  · cases call with
    | recordSubmission submitted payloadBytes =>
      obtain rfl := Option.some.inj recorded
      exact books.submit shorter submitted payloadBytes
    | recordAttempt => cases recorded
    | recordEcho => cases recorded
  · obtain ⟨submitted,ends⟩ := books
    cases call with
    | recordSubmission => cases recorded
    | recordAttempt => exact ⟨submitted,ends⟩
    | recordEcho => exact ⟨submitted,ends⟩

structure EchoReported (metrics after : UdpWorkloadMetrics) (elapsed : Nat) : Prop where
  least : after.rttMinNs.toNat =
    if metrics.echoedDatagrams = 0 then elapsed else min metrics.rttMinNs.toNat elapsed
  greatest : after.rttMaxNs.toNat = max metrics.rttMaxNs.toNat elapsed
  total : after.rttTotalNs.toNat = (metrics.rttTotalNs.toNat + elapsed) % 2 ^ 64
  histogram : ∀ i (inside : i < 64),
    after.rttHistogram[i] = metrics.rttHistogram[i] + if i = elapsed.log2 then 1 else 0

theorem recordEcho_reported (metrics : UdpWorkloadMetrics) {startTick endTick tickFrequency payloadBytes : UInt64}
    {elapsed : Nat} (exact_ : (ticksToNanoseconds (endTick - startTick) tickFrequency).toNat = elapsed) :
    EchoReported metrics (metrics.recordEcho startTick endTick tickFrequency payloadBytes) elapsed := by
  unfold UdpWorkloadMetrics.recordEcho
  generalize ticksToNanoseconds (endTick - startTick) tickFrequency = elapsedNs at exact_
  subst exact_
  refine ⟨?_,?_,UInt64.toNat_add _ _,?_⟩
  · by_cases first : metrics.echoedDatagrams = 0
    · simp [first]
    · simp only [first,false_or,if_false,UInt64.lt_iff_toNat_lt]
      split <;> omega
  · simp only [gt_iff_lt,UInt64.lt_iff_toNat_lt]
    split <;> omega
  · intro i inside
    simp only [Vector.getElem_set,rttBucket_eq]
    by_cases here : elapsedNs.toNat.log2 = i
    · simp [here]
    · simp [here,Ne.symm here]

/-- What the conversion is good for at a tick frequency. -/
structure ConvertsExactly (tickFrequency : UInt64) : Prop where
  exact_ : ∀ ticks, Fits ticks tickFrequency →
    (ticksToNanoseconds ticks tickFrequency).toNat = exactNanoseconds ticks.toNat tickFrequency.toNat
  monotone : ∀ ticks later, Fits later tickFrequency → ticks ≤ later →
    ticksToNanoseconds ticks tickFrequency ≤ ticksToNanoseconds later tickFrequency
  echo : ∀ metrics startTick endTick payloadBytes, Fits (endTick - startTick) tickFrequency →
    EchoReported metrics (metrics.recordEcho startTick endTick tickFrequency payloadBytes)
      (exactNanoseconds (endTick - startTick).toNat tickFrequency.toNat)
  elapsed : ∀ metrics : UdpWorkloadMetrics,
    Fits (metrics.lastSubmissionTick - metrics.firstSubmissionTick) tickFrequency →
    (metrics.submissionElapsedNanoseconds tickFrequency).toNat = if metrics.submittedDatagrams < 2 then 0 else
      exactNanoseconds (metrics.lastSubmissionTick - metrics.firstSubmissionTick).toNat tickFrequency.toNat
  elapsedOfRun : ∀ calls, (submissions calls).length < 2 ^ 32 → ∀ first last,
    (submissions calls).head? = some first → (submissions calls).getLast? = some last →
    Fits (last - first) tickFrequency →
    ((measured calls).submissionElapsedNanoseconds tickFrequency).toNat = if (submissions calls).length < 2 then 0 else
      exactNanoseconds (last - first).toNat tickFrequency.toNat

theorem exactNanoseconds_mono {ticks later frequency : Nat} (le : ticks ≤ later) :
    exactNanoseconds ticks frequency ≤ exactNanoseconds later frequency :=
  Nat.div_le_div_right (Nat.mul_le_mul_right _ le)

/-- Up to the frequency for which a second has no tick too many, nothing is lost. -/
theorem ticksToNanoseconds_exact (tickFrequency : UInt64) (positive : 1 ≤ tickFrequency.toNat)
    (slow : tickFrequency.toNat ≤ 18446744073) : ConvertsExactly tickFrequency := by
  have exact_ : ∀ ticks, Fits ticks tickFrequency →
      (ticksToNanoseconds ticks tickFrequency).toNat = exactNanoseconds ticks.toNat tickFrequency.toNat :=
    fun ticks fits => ticksToNanoseconds_toNat positive slow fits
  have elapsed : ∀ metrics : UdpWorkloadMetrics,
      Fits (metrics.lastSubmissionTick - metrics.firstSubmissionTick) tickFrequency →
      (metrics.submissionElapsedNanoseconds tickFrequency).toNat = if metrics.submittedDatagrams < 2 then 0 else
        exactNanoseconds (metrics.lastSubmissionTick - metrics.firstSubmissionTick).toNat tickFrequency.toNat := by
    intro metrics fits
    rw [UdpWorkloadMetrics.submissionElapsedNanoseconds]
    split
    · rfl
    · exact exact_ _ fits
  refine ⟨exact_,?_,?_,elapsed,?_⟩
  · intro ticks later fits le
    have mono := @exactNanoseconds_mono _ _ tickFrequency.toNat (UInt64.le_iff_toNat_le.mp le)
    rw [UInt64.le_iff_toNat_le,exact_ later fits,exact_ ticks (mono.trans_lt fits)]
    exact mono
  · exact fun metrics startTick endTick payloadBytes fits => recordEcho_reported metrics (exact_ _ fits)
  · intro calls short first last head last_ fits
    have books := measured_submissionBooks short
    have some_ : submissions calls ≠ [] := by
      intro none
      simp [none] at head
    obtain ⟨firstTick,lastTick⟩ := books.ends some_
    rw [List.head?_eq_some_head some_,Option.some_inj] at head
    rw [List.getLast?_eq_some_getLast some_,Option.some_inj] at last_
    rw [head] at firstTick
    rw [last_] at lastTick
    have told := elapsed (measured calls) (by rwa [firstTick,lastTick])
    rw [firstTick,lastTick] at told
    rw [told]
    simp only [UInt32.lt_iff_toNat_lt,books.submitted,UInt32.reduceToNat]

theorem ticksToNanoseconds_exact_console : ConvertsExactly 19200000 :=
  ticksToNanoseconds_exact 19200000 (by decide) (by decide)

end NxReverse.Toolbox
