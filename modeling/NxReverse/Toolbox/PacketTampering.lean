import NxReverse.Toolbox.WgnxPacket

/-! A reply that was changed on its way. The validator accepts no packet that differs in one byte, and so
in one bit, from a built packet that it accepts for the same expectation. -/
namespace NxReverse.Toolbox.WgnxPacket

open Text Words OnesComplement

def headerSizeOf (packet : Bytes) : Nat := (byteAt packet 0 &&& 0x0F).toNat * 4

structure Accepted (packet : Bytes) (expected : ExpectedReply) : Prop where
  headerSize : ipv4HeaderSize ≤ headerSizeOf packet
  totalSize : (loadBigEndian16 packet 2).toNat = packet.length
  room : headerSizeOf packet + udpHeaderSize ≤ packet.length
  headerVerifies : computeChecksum (packet.take (headerSizeOf packet)) = 0
  datagramVerifies : computeUdpChecksum expected.remoteAddress expected.localAddress
    (packet.drop (headerSizeOf packet)) = 0
  payload : (packet.drop (headerSizeOf packet)).drop udpHeaderSize = expected.payload

/-- Behind a check that rejects, the check has passed. -/
theorem passed_of_accepted {failed : Prop} [Decidable failed] {detail : CString} {rest : Bool × CString}
    (valid : (if failed then (false,detail) else rest).1 = true) : ¬failed ∧ rest.1 = true := by
  by_cases hit : failed
  · simp [hit] at valid
  · exact ⟨hit,by simpa only [if_neg hit] using valid⟩

theorem accepted_of_validate {inetNtop : Bytes → Option CString} {packet : Bytes} {expected : ExpectedReply}
    (valid : (validateUdpReply inetNtop packet expected).1 = true) : Accepted packet expected := by
  obtain ⟨-,valid⟩ := passed_of_accepted valid
  obtain ⟨header,valid⟩ := passed_of_accepted valid
  obtain ⟨total,valid⟩ := passed_of_accepted valid
  obtain ⟨headerVerifies,valid⟩ := passed_of_accepted valid
  obtain ⟨-,valid⟩ := passed_of_accepted valid
  obtain ⟨-,valid⟩ := passed_of_accepted valid
  obtain ⟨addresses,valid⟩ := passed_of_accepted valid
  obtain ⟨udpLength,valid⟩ := passed_of_accepted valid
  obtain ⟨-,valid⟩ := passed_of_accepted valid
  obtain ⟨-,valid⟩ := passed_of_accepted valid
  obtain ⟨datagramVerifies,valid⟩ := passed_of_accepted valid
  obtain ⟨payload,-⟩ := passed_of_accepted valid
  have enough : ipv4HeaderSize ≤ headerSizeOf packet := Nat.not_lt.mp (not_or.mp (not_or.mp header).2).1
  have totalSize : (loadBigEndian16 packet 2).toNat = packet.length := not_not.mp (not_or.mp total).1
  have room : headerSizeOf packet + udpHeaderSize ≤ packet.length := totalSize ▸ Nat.not_lt.mp (not_or.mp total).2
  have length : (loadBigEndian16 (packet.drop (headerSizeOf packet)) 4).toNat = packet.length - headerSizeOf packet :=
    totalSize ▸ not_not.mp (not_or.mp udpLength).1
  have whole : (packet.drop (headerSizeOf packet)).take
      (loadBigEndian16 (packet.drop (headerSizeOf packet)) 4).toNat = packet.drop (headerSizeOf packet) := by
    apply List.take_of_length_le
    rw [List.length_drop]
    exact length.ge
  refine ⟨enough,totalSize,room,not_not.mp headerVerifies,?_,?_⟩
  · rw [← not_not.mp (not_or.mp addresses).1,← not_not.mp (not_or.mp addresses).2,← whole]
    exact not_not.mp datagramVerifies
  · rw [← whole]
    exact not_not.mp payload

theorem wordSum_of_computeChecksum {data : Bytes} (short : data.length ≤ 65535) (verifies : computeChecksum data = 0) :
    wordSum data % 65535 = 0 := by
  have bound := wordSum_le data
  have zero : (0 : UInt32).toNat = 0 := rfl
  have summed := addChecksumBytes_toNat 0 data (by omega)
  rw [computeChecksum,finishChecksum_eq_zero_iff,summed,zero,Nat.zero_add] at verifies
  exact mod_of_fold_full verifies

theorem udpSum_of_computeUdpChecksum {source destination : Ipv4Address} {udp : Bytes} (short : udp.length ≤ 65535)
    (verifies : computeUdpChecksum source destination udp = 0) : udpSum source destination udp % 65535 = 0 := by
  have computed := (@udpAdditions_exact source destination udp short).2
  have bound := fold_lt (udpSum source destination udp)
  have zero : (0 : UInt16).toNat = 0 := rfl
  rw [verifies,zero] at computed
  exact mod_of_fold_full (by omega)

/-- Two accepted packets for one expectation do not differ in a single byte, if one has a plain header:
another header length moves the payload, and all else is under one of the two checksums. -/
theorem Accepted.unchanged {packet : Bytes} {expected : ExpectedReply} (accepted : Accepted packet expected)
    (plain : headerSizeOf packet = ipv4HeaderSize) {i : Nat} (inside : i < packet.length) {byte : UInt8}
    (also : Accepted (packet.set i byte) expected) : byte = packet[i] := by
  by_contra changed
  have lengths : (packet.set i byte).length = packet.length := List.length_set
  have short : packet.length ≤ 65535 := by
    have bound := (loadBigEndian16 packet 2).toNat_lt
    rw [accepted.totalSize] at bound
    omega
  have sameHeader : headerSizeOf (packet.set i byte) = ipv4HeaderSize := by
    have payloads := congrArg List.length (also.payload.trans accepted.payload.symm)
    have room := also.room
    have roomOld := accepted.room
    simp only [List.length_drop,lengths,plain] at payloads room roomOld
    omega
  have header := also.headerVerifies
  have datagram := also.datagramVerifies
  have headerOld := accepted.headerVerifies
  have datagramOld := accepted.datagramVerifies
  rw [sameHeader] at header datagram
  rw [plain] at headerOld datagramOld
  by_cases inHeader : i < ipv4HeaderSize
  · rw [List.take_set] at header
    have front : i < (packet.take ipv4HeaderSize).length := by
      rw [List.length_take]
      omega
    have different : byte ≠ (packet.take ipv4HeaderSize)[i] := by
      rw [List.getElem_take]
      exact changed
    apply wordSum_set_ne front different
    rw [wordSum_of_computeChecksum _ header,wordSum_of_computeChecksum _ headerOld]
    all_goals
      simp only [List.length_set,List.length_take]
      omega
  · rw [List.drop_set,if_neg inHeader] at datagram
    have behind : i - ipv4HeaderSize < (packet.drop ipv4HeaderSize).length := by
      rw [List.length_drop]
      omega
    have different : byte ≠ (packet.drop ipv4HeaderSize)[i - ipv4HeaderSize] := by
      have here : ipv4HeaderSize + (i - ipv4HeaderSize) = i := by omega
      simp only [List.getElem_drop,here]
      exact changed
    have sum := udpSum_of_computeUdpChecksum (by simp only [List.length_set,List.length_drop]; omega) datagram
    have sumOld := udpSum_of_computeUdpChecksum (by simp only [List.length_drop]; omega) datagramOld
    have moved := wordSum_set_ne behind different
    rw [udpSum,List.length_set] at sum
    rw [udpSum] at sumOld
    omega

/-- The packet with one bit flipped; in a byte they are counted from the low end. -/
def flipBit (bit : Nat) (packet : Bytes) : Bytes := packet.modify (bit / 8) (· ^^^ (1 <<< (bit % 8).toUInt8))

theorem flipped_ne (byte : UInt8) (bit : Nat) : byte ^^^ (1 <<< (bit % 8).toUInt8) ≠ byte := by
  intro same
  have none : (1 : UInt8) <<< (bit % 8).toUInt8 = 0 := by
    have cancelled := congrArg (byte ^^^ ·) same
    simpa only [← UInt8.xor_assoc,UInt8.xor_self,UInt8.zero_xor] using cancelled
  have small : bit % 8 < 8 := Nat.mod_lt _ (by omega)
  have some : ∀ place < 8, (1 : UInt8) <<< place.toUInt8 ≠ 0 := by decide
  exact some _ small none

theorem flipBit_eq_set {packet : Bytes} {bit : Nat} (inside : bit / 8 < packet.length) :
    flipBit bit packet = packet.set (bit / 8) (packet[bit / 8] ^^^ (1 <<< (bit % 8).toUInt8)) := by
  rw [flipBit,List.modify_eq_set_getElem?]
  simp [inside]

/-- What is built has a header without options. -/
theorem headerSizeOf_built {maxInnerIpv4PacketSize outputSize : Nat} {source destination : Ipv4Address}
    {sourcePort destinationPort identification : UInt16} {payload packet : Bytes}
    (built : buildUdpPacket maxInnerIpv4PacketSize outputSize source destination sourcePort destinationPort payload
      identification = some packet) : headerSizeOf packet = ipv4HeaderSize := by
  by_cases fits : ipv4HeaderSize + (udpHeaderSize + payload.length) > outputSize ∨
      ipv4HeaderSize + (udpHeaderSize + payload.length) > maxInnerIpv4PacketSize ∨
      ipv4HeaderSize + (udpHeaderSize + payload.length) > 65535
  · rw [buildUdpPacket,if_pos fits] at built
    cases built
  · simp only [not_or,Nat.not_lt] at fits
    rw [buildUdpPacket_eq _ _ _ _ _ _ fits.1 fits.2.1 fits.2.2] at built
    obtain rfl := Option.some.inj built
    exact (rfl : ((0x45 : UInt8) &&& 0x0F).toNat * 4 = ipv4HeaderSize)

/-- A packet that was built and is accepted is accepted no more with any one bit flipped. -/
theorem buildUdpPacket_tamperEvident {maxInnerIpv4PacketSize outputSize : Nat} {source destination : Ipv4Address}
    {sourcePort destinationPort identification : UInt16} {payload packet : Bytes}
    (built : buildUdpPacket maxInnerIpv4PacketSize outputSize source destination sourcePort destinationPort payload
      identification = some packet)
    {inetNtop : Bytes → Option CString} {expected : ExpectedReply}
    (valid : (validateUdpReply inetNtop packet expected).1 = true) {bit : Nat} (inside : bit < 8 * packet.length) :
    (validateUdpReply inetNtop (flipBit bit packet) expected).1 = false := by
  have place : bit / 8 < packet.length := by omega
  rw [flipBit_eq_set place]
  by_contra accepted
  have also := accepted_of_validate (Bool.not_eq_false _ ▸ accepted)
  exact flipped_ne _ bit ((accepted_of_validate valid).unchanged (headerSizeOf_built built) place also)

theorem buildUdpPacket_tamperEvident_echo :
    (validateUdpReply (fun _ => none) (flipBit 100 (builtPacket ⟨10,0,0,1⟩ ⟨10,0,0,2⟩ 29000 4000 7 [1,2,3]))
      ⟨⟨10,0,0,2⟩,⟨10,0,0,1⟩,4000,29000,[1,2,3]⟩).1 = false :=
  buildUdpPacket_tamperEvident
    (@buildUdpPacket_eq ⟨10,0,0,1⟩ ⟨10,0,0,2⟩ 29000 4000 7 [1,2,3] 1420 1420 (by decide) (by decide) (by decide))
    (congrArg Prod.fst (builtPacket_roundTrips ⟨10,0,0,2⟩ ⟨10,0,0,1⟩ 4000 29000 7 [1,2,3] (fun _ => none)
      (by decide)).accepted) (by decide)

end NxReverse.Toolbox.WgnxPacket
