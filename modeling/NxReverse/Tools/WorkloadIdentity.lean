import NxReverse.Tools.RequesterHarness
import NxReverse.Toolbox.BsdSystemUdp

/-! The identity that the harness reads from a payload is the one that either workload wrote into it. -/
namespace NxReverse.Tools

open Text Words Toolbox

theorem fromBytesBig_storeBigEndian32 (value : UInt32) : fromBytesBig (storeBigEndian32 value) = value.toNat := by
  have small := value.toNat_lt
  simp [fromBytesBig,storeBigEndian32,Nat.shiftRight_eq_div_pow]
  omega

theorem word_here (value : UInt32) (rest : Bytes) :
    fromBytesBig (slice 0 4 (storeBigEndian32 value ++ rest)) = value.toNat := by
  rw [slice_here (length_storeBigEndian32 value),fromBytesBig_storeBigEndian32]

theorem slice_behind_word (value : UInt32) (offset : Nat) (rest : Bytes) :
    slice (4 + offset) 4 (storeBigEndian32 value ++ rest) = slice offset 4 rest :=
  slice_append (length_storeBigEndian32 value) offset 4 rest

/-- Four words behind a marker and its terminator. -/
def identityHeader (marker : Bytes) (workloadId flowIndex sequence seed : UInt32) : Bytes :=
  marker ++ [0] ++ storeBigEndian32 workloadId ++ storeBigEndian32 flowIndex ++ storeBigEndian32 sequence ++
    storeBigEndian32 seed

section Header

variable {marker : Bytes} {kind : WorkloadKind}

theorem length_identityHeader (length : marker.length = 7) (workloadId flowIndex sequence seed : UInt32) :
    (identityHeader marker workloadId flowIndex sequence seed).length = payloadHeaderBytes := by
  simp [identityHeader,length,payloadHeaderBytes]

theorem parse_identityHeader (length : marker.length = 7) (known : markerKind marker = some kind)
    (workloadId flowIndex sequence seed : UInt32) (body : Bytes) :
    parseWorkloadIdentity (identityHeader marker workloadId flowIndex sequence seed ++ body) =
      (some ⟨kind,workloadId.toNat,flowIndex.toNat,sequence.toNat,seed.toNat⟩,false) := by
  have whole : 24 ≤ (identityHeader marker workloadId flowIndex sequence seed ++ body).length := by
    rw [List.length_append,length_identityHeader length]
    exact Nat.le_add_right ..
  have bytes : identityHeader marker workloadId flowIndex sequence seed ++ body = (marker ++ [0]) ++
      (storeBigEndian32 workloadId ++ (storeBigEndian32 flowIndex ++ (storeBigEndian32 sequence ++
        (storeBigEndian32 seed ++ body)))) := by
    simp [identityHeader]
  rw [bytes] at whole ⊢
  have behind := fun offset => slice_append (by simp [length] : (marker ++ [0]).length = 8) offset 4
    (storeBigEndian32 workloadId ++ (storeBigEndian32 flowIndex ++ (storeBigEndian32 sequence ++
      (storeBigEndian32 seed ++ body))))
  have workload := (congrArg fromBytesBig (behind 0)).trans (word_here ..)
  have flow := (congrArg fromBytesBig ((behind (4 + 0)).trans (slice_behind_word ..))).trans (word_here ..)
  have sent := (congrArg fromBytesBig ((behind (4 + (4 + 0))).trans
    ((slice_behind_word ..).trans (slice_behind_word ..)))).trans (word_here ..)
  have seeded := (congrArg fromBytesBig ((behind (4 + (4 + (4 + 0)))).trans
    ((slice_behind_word ..).trans ((slice_behind_word ..).trans (slice_behind_word ..))))).trans (word_here ..)
  generalize storeBigEndian32 workloadId ++ (storeBigEndian32 flowIndex ++ (storeBigEndian32 sequence ++
    (storeBigEndian32 seed ++ body))) = words at *
  have first : (marker ++ [0] ++ words).take 7 = marker := by
    rw [List.append_assoc,← length,List.take_left]
  have terminator : (marker ++ [0] ++ words).getD 7 0 = 0 := by
    simp [length]
  have header : ¬((marker ++ [0] ++ words).length < 24 ∨ (marker ++ [0] ++ words).getD 7 0 ≠ 0) := by
    rintro (short | dirty)
    · omega
    · exact dirty terminator
  simp only [parseWorkloadIdentity,first,known,if_neg header]
  simp only [workload,flow,sent,seeded]

end Header

/-- What the copy of `BuildPayload` for a workload begins its payload with. -/
def WorkloadKind.marker : WorkloadKind → Bytes
  | wgnxTun => "NXRVWG1".toList.map fun c => c.toNat.toUInt8
  | bsdSystem => "NXRVBS1".toList.map fun c => c.toNat.toUInt8

theorem WorkloadKind.marker_known (kind : WorkloadKind) : markerKind kind.marker = some kind := by
  cases kind <;> decide

theorem WorkloadKind.length_marker (kind : WorkloadKind) : kind.marker.length = 7 := by
  cases kind <;> rfl

/-- A datagram of either workload, of a size that the configuration admits. -/
structure WorkloadDatagram where
  kind : WorkloadKind
  config : TunnelUdpWorkloadConfig
  sequence : UInt32
  flowIndex : UInt32
  admitted : minimumPayloadBytes ≤ config.payloadBytes

namespace WorkloadDatagram

def payload (d : WorkloadDatagram) : Bytes :=
  match d.kind with
  | .wgnxTun => buildPayload d.config.payloadBytes.toNat d.sequence d.flowIndex d.config
  | .bsdSystem => BsdSystemUdp.buildPayload d.config.payloadBytes.toNat d.sequence d.flowIndex d.config

def identity (d : WorkloadDatagram) : WorkloadIdentity :=
  ⟨d.kind,d.config.workloadId.toNat,d.flowIndex.toNat,d.sequence.toNat,d.config.payloadSeed.toNat⟩

variable (d : WorkloadDatagram)

/-- Both copies write the same header behind their own marker. -/
theorem payload_eq : d.payload =
    identityHeader d.kind.marker d.config.workloadId d.flowIndex d.sequence d.config.payloadSeed ++
      payloadBody (d.config.payloadBytes.toNat - payloadHeaderBytes)
        (d.config.payloadSeed ^^^ d.sequence ^^^ d.flowIndex * 0x9E3779B9) := by
  rcases d with ⟨⟨⟩,_,_,_,_⟩ <;> rfl

theorem length_payload : d.payload.length = d.config.payloadBytes.toNat := by
  have admitted : payloadHeaderBytes ≤ d.config.payloadBytes.toNat := UInt64.le_iff_toNat_le.mp d.admitted
  rw [payload_eq,List.length_append,length_identityHeader d.kind.length_marker,length_payloadBody]
  omega

theorem parse_payload : parseWorkloadIdentity d.payload = (some d.identity,false) := by
  rw [payload_eq,parse_identityHeader d.kind.length_marker d.kind.marker_known]
  rfl

theorem identity_of_payload {other : WorkloadDatagram} (same : other.payload = d.payload) :
    other.identity = d.identity := by
  have parsed := congrArg parseWorkloadIdentity same
  rw [parse_payload,parse_payload] at parsed
  exact Option.some.inj (Prod.mk.inj parsed).1

end WorkloadDatagram

/-- The wait for an echo takes the expected payload only. -/
theorem received_of_echoCompletion {reasonNumber : FlowTerminalReason → Nat} {flow : UInt64} {expected storage : Bytes}
    {s : WaitState} {entry : CompletionRecord × FlowStateAnswer} {result : CompletionWaitResult}
    (waiting : s.result.receivedExpected = false)
    (ends : echoCompletion reasonNumber flow expected storage s entry = .error result)
    (taken : result.receivedExpected = true) : entry.1.received storage = some expected := by
  unfold echoCompletion at ends
  split at ends
  · cases ends
    exact absurd (waiting.symm.trans taken) Bool.false_ne_true
  · split at ends
    · cases ends
    · split at ends
      · cases ends
      next received inside =>
        split at ends
        next same => rw [inside,same]
        next => cases ends

/-- The harness reads from a payload what its workload wrote; a payload is that of one datagram only,
and either workload takes only the echo of the datagram that it waits for. -/
theorem payload_identity (d : WorkloadDatagram) :
    d.payload.length = d.config.payloadBytes.toNat ∧
    parseWorkloadIdentity d.payload = (some d.identity,false) ∧
    ∀ other : WorkloadDatagram,
      (other.identity ≠ d.identity → other.payload ≠ d.payload) ∧
      (BsdSystemUdp.isExpectedReply other.payload d.payload = true → other.identity = d.identity) ∧
      ∀ (reasonNumber : FlowTerminalReason → Nat) (flow : UInt64) (storage : Bytes) (s : WaitState)
        (entry : CompletionRecord × FlowStateAnswer) (result : CompletionWaitResult),
        s.result.receivedExpected = false → entry.1.received storage = some other.payload →
        echoCompletion reasonNumber flow d.payload storage s entry = .error result →
        result.receivedExpected = true → other.identity = d.identity := by
  refine ⟨d.length_payload,d.parse_payload,fun other => ⟨?_,?_,?_⟩⟩
  · intro differ same
    exact differ (d.identity_of_payload same)
  · intro expected
    rw [BsdSystemUdp.isExpectedReply,Bool.and_eq_true] at expected
    exact d.identity_of_payload (eq_of_beq expected.2)
  · intro reasonNumber flow storage s entry result waiting echo ends taken
    have accepted := received_of_echoCompletion waiting ends taken
    rw [echo] at accepted
    exact d.identity_of_payload (Option.some.inj accepted)

def sentDatagram (kind : WorkloadKind) (sequence : UInt32) : WorkloadDatagram :=
  ⟨kind,⟨"10.0.0.1".toList,7,0xFFFFFFFE,26,3,0,2,1000,5,true⟩,sequence,1,by decide⟩

/-- A late echo of the datagram before, and the same datagram of the other workload. -/
theorem payload_identity_neighbours :
    let sent := sentDatagram .wgnxTun 2
    let late := sentDatagram .wgnxTun 1
    let echo := (⟨.inboundUdpDatagram,9,.udp,.open,.none,0,26⟩,⟨0,.success,true⟩)
    parseWorkloadIdentity sent.payload = (some ⟨.wgnxTun,0xFFFFFFFE,1,2,5⟩,false) ∧
      (sentDatagram .bsdSystem 2).payload ≠ sent.payload ∧
      BsdSystemUdp.isExpectedReply late.payload sent.payload = false ∧
      ∀ result, echoCompletion (fun _ => 0) 9 sent.payload late.payload .start echo = .error result →
        result.receivedExpected = false := by
  intro sent late echo
  obtain ⟨_,parsed,others⟩ := payload_identity sent
  obtain ⟨_,expected,received⟩ := others late
  have differ : late.identity ≠ sent.identity := by decide
  refine ⟨parsed,(others (sentDatagram .bsdSystem 2)).1 (by decide),?_,fun result ends => ?_⟩
  · exact Bool.eq_false_iff.mpr fun reply => differ (expected reply)
  · refine Bool.eq_false_iff.mpr fun taken => differ ?_
    exact received (fun _ => 0) 9 late.payload .start echo result rfl (by decide) ends taken

end NxReverse.Tools
