import NxReverse.Lib.OnesComplement
import NxReverse.Toolbox.TunnelWait

/-! The UDP packets of the `wgnx:ctl` echo: how one is built and how a reply is validated. A reply
that the builder builds from the remote endpoint is accepted, whatever it carries. -/
namespace NxReverse.Toolbox.WgnxPacket

open Text Words OnesComplement

def ipv4HeaderSize : Nat := 20
def udpHeaderSize : Nat := 8
def udpProtocol : UInt8 := 17

structure Ipv4Address where
  first : UInt8
  second : UInt8
  third : UInt8
  fourth : UInt8
  deriving DecidableEq, Repr

def Ipv4Address.octets (address : Ipv4Address) : Bytes :=
  [address.first,address.second,address.third,address.fourth]

structure ExpectedReply where
  localAddress : Ipv4Address
  remoteAddress : Ipv4Address
  localPort : UInt16
  remotePort : UInt16
  payload : Bytes
  deriving DecidableEq, Repr

def storeBigEndian16 (value : UInt16) : Bytes := [(value >>> 8).toUInt8,value.toUInt8]

def byteAt (bytes : Bytes) (offset : Nat) : UInt8 := bytes.getD offset 0

def loadBigEndian16 (bytes : Bytes) (offset : Nat) : UInt16 :=
  (byteAt bytes offset).toUInt16 <<< 8 ||| (byteAt bytes (offset + 1)).toUInt16

def loadAddress (bytes : Bytes) (offset : Nat) : Ipv4Address :=
  ⟨byteAt bytes offset,byteAt bytes (offset + 1),byteAt bytes (offset + 2),byteAt bytes (offset + 3)⟩

/-- Words are added two bytes at a time; a last odd byte is the high one of its word. -/
def addChecksumBytes (sum : UInt32) : Bytes → UInt32
  | [] => sum
  | [high] => sum + (high.toUInt32 <<< 8)
  | high :: low :: rest => addChecksumBytes (sum + (high.toUInt32 <<< 8 ||| low.toUInt32)) rest

/-- One round of folding lowers a sum that has carries. -/
theorem fold_round {sum : UInt32} (carries : sum >>> 16 ≠ 0) :
    ((sum &&& (0xFFFF : UInt32)) + (sum >>> 16)).toNat = sum.toNat % 65536 + sum.toNat / 65536 ∧ sum.toNat / 65536 ≠ 0 := by
  have small := sum.toNat_lt
  have low : (sum &&& (0xFFFF : UInt32)).toNat = sum.toNat % 65536 := Nat.and_two_pow_sub_one_eq_mod sum.toNat 16
  have high : (sum >>> 16).toNat = sum.toNat / 65536 := Nat.shiftRight_eq_div_pow sum.toNat 16
  have some : (sum >>> 16).toNat ≠ 0 := fun none => carries (UInt32.toNat_inj.mp none)
  rw [high] at some
  refine ⟨?_,some⟩
  rw [UInt32.toNat_add,low,high]
  omega

/-- The loop of `FinishChecksum`. -/
def foldCarries (sum : UInt32) : UInt32 :=
  if sum >>> 16 ≠ 0 then foldCarries ((sum &&& (0xFFFF : UInt32)) + (sum >>> 16)) else sum
termination_by sum.toNat
decreasing_by
  obtain ⟨value,some⟩ := fold_round ‹_›
  omega

def finishChecksum (sum : UInt32) : UInt16 := (~~~(foldCarries sum) &&& 0xFFFF).toUInt16

def computeChecksum (data : Bytes) : UInt16 := finishChecksum (addChecksumBytes 0 data)

def pseudoTail (udpSize : Nat) : Bytes := [0,udpProtocol,(udpSize >>> 8).toUInt8,(udpSize &&& 0xFF).toUInt8]

def computeUdpChecksum (source destination : Ipv4Address) (udp : Bytes) : UInt16 :=
  let sum := addChecksumBytes 0 source.octets
  let sum := addChecksumBytes sum destination.octets
  let sum := addChecksumBytes sum (pseudoTail udp.length)
  finishChecksum (addChecksumBytes sum udp)

/-- The packet, where it fits the output, the inner packet size and its own length field. -/
def buildUdpPacket (maxInnerIpv4PacketSize outputSize : Nat) (source destination : Ipv4Address)
    (sourcePort destinationPort : UInt16) (payload : Bytes) (ipv4Identification : UInt16) : Option Bytes :=
  let udpSize := udpHeaderSize + payload.length
  let packetSize := ipv4HeaderSize + udpSize
  if packetSize > outputSize ∨ packetSize > maxInnerIpv4PacketSize ∨ packetSize > 65535 then none
  else
    let output := List.replicate packetSize 0
    let output := storeAt 0 [0x45] output
    let output := storeAt 2 (storeBigEndian16 packetSize.toUInt16) output
    let output := storeAt 4 (storeBigEndian16 ipv4Identification) output
    let output := storeAt 6 (storeBigEndian16 0x4000) output
    let output := storeAt 8 [64] output
    let output := storeAt 9 [udpProtocol] output
    let output := storeAt 12 source.octets output
    let output := storeAt 16 destination.octets output
    let output := storeAt 10 (storeBigEndian16 (computeChecksum (output.take ipv4HeaderSize))) output
    let output := storeAt ipv4HeaderSize (storeBigEndian16 sourcePort) output
    let output := storeAt (ipv4HeaderSize + 2) (storeBigEndian16 destinationPort) output
    let output := storeAt (ipv4HeaderSize + 4) (storeBigEndian16 udpSize.toUInt16) output
    let output := storeAt (ipv4HeaderSize + udpHeaderSize) payload output
    let udpChecksum := computeUdpChecksum source destination (output.drop ipv4HeaderSize)
    let udpChecksum := if udpChecksum = 0 then 0xFFFF else udpChecksum
    some (storeAt (ipv4HeaderSize + 6) (storeBigEndian16 udpChecksum) output)

section Validate

variable (inetNtop : Bytes → Option CString)

def formatIpv4 (address : Ipv4Address) : CString := (inetNtop address.octets).getD "<invalid>".toList

/-- Whether the reply is the expected one, and the detail. -/
def validateUdpReply (packet : Bytes) (expected : ExpectedReply) : Bool × CString :=
  if packet.length < ipv4HeaderSize + udpHeaderSize then (false,"packet too short".toList)
  else
  let version := byteAt packet 0 >>> 4
  let headerSize := (byteAt packet 0 &&& 0x0F).toNat * 4
  if version ≠ 4 ∨ headerSize < ipv4HeaderSize ∨ headerSize > packet.length then
    (false,"invalid IPv4 version or header length".toList)
  else
  let totalSize := (loadBigEndian16 packet 2).toNat
  if totalSize ≠ packet.length ∨ totalSize < headerSize + udpHeaderSize then
    (false,"invalid IPv4 total length".toList)
  else if computeChecksum (packet.take headerSize) ≠ 0 then (false,"invalid IPv4 checksum".toList)
  else if loadBigEndian16 packet 6 &&& 0x3FFF ≠ 0 then (false,"fragmented IPv4 reply unsupported".toList)
  else if byteAt packet 9 ≠ udpProtocol then
    (false,"not UDP protocol=".toList ++ decimal (byteAt packet 9).toNat)
  else
  let source := loadAddress packet 12
  let destination := loadAddress packet 16
  if source ≠ expected.remoteAddress ∨ destination ≠ expected.localAddress then
    (false,"address mismatch source=".toList ++ formatIpv4 inetNtop source ++ " destination=".toList ++
      formatIpv4 inetNtop destination)
  else
  let udp := packet.drop headerSize
  let udpSize := (loadBigEndian16 udp 4).toNat
  if udpSize ≠ totalSize - headerSize ∨ udpSize < udpHeaderSize then (false,"invalid UDP length".toList)
  else
  let sourcePort := loadBigEndian16 udp 0
  let destinationPort := loadBigEndian16 udp 2
  if sourcePort ≠ expected.remotePort ∨ destinationPort ≠ expected.localPort then
    (false,"port mismatch source=".toList ++ decimal sourcePort.toNat ++ " destination=".toList ++
      decimal destinationPort.toNat)
  else if loadBigEndian16 udp 6 = 0 then (false,"missing UDP checksum".toList)
  else if computeUdpChecksum source destination (udp.take udpSize) ≠ 0 then (false,"invalid UDP checksum".toList)
  else
  let payload := (udp.take udpSize).drop udpHeaderSize
  if payload ≠ expected.payload then
    (false,"payload mismatch preview=".toList ++ escapePreview payload 96)
  else (true,"validated UDP echo".toList)

end Validate

theorem highWord_toNat (high : UInt8) : (high.toUInt32 <<< 8).toNat = 256 * high.toNat := by
  have small := high.toNat_lt
  have shifted : (high.toUInt32 <<< 8).toNat = high.toNat <<< 8 % 2 ^ 32 := by simp
  rw [shifted,Nat.shiftLeft_eq]
  omega

theorem word_toNat (high low : UInt8) : (high.toUInt32 <<< 8 ||| low.toUInt32).toNat = 256 * high.toNat + low.toNat := by
  have below : low.toNat < 2 ^ 8 := low.toNat_lt
  have joined : high.toNat <<< 8 ||| low.toNat = high.toNat <<< 8 + low.toNat :=
    (Nat.shiftLeft_add_eq_or_of_lt below high.toNat).symm
  have shifted : (high.toUInt32 <<< 8).toNat = high.toNat <<< 8 := by
    rw [highWord_toNat,Nat.shiftLeft_eq,Nat.mul_comm]
  rw [UInt32.toNat_or,shifted,UInt8.toNat_toUInt32,joined,Nat.shiftLeft_eq,Nat.mul_comm]

/-- A sum that fits 32 bits is exact. -/
theorem addChecksumBytes_toNat (sum : UInt32) (data : Bytes) (fits : sum.toNat + wordSum data < 2 ^ 32) :
    (addChecksumBytes sum data).toNat = sum.toNat + wordSum data := by
  induction sum, data using addChecksumBytes.induct with
  | case1 sum => rfl
  | case2 sum high =>
    rw [wordSum] at fits ⊢
    rw [addChecksumBytes,UInt32.toNat_add,highWord_toNat,Nat.mod_eq_of_lt fits]
  | case3 sum high low rest ih =>
    rw [wordSum] at fits ⊢
    have here : (sum + (high.toUInt32 <<< 8 ||| low.toUInt32)).toNat = sum.toNat + (256 * high.toNat + low.toNat) := by
      rw [UInt32.toNat_add,word_toNat]
      omega
    rw [addChecksumBytes,ih (by omega),here]
    omega

theorem foldCarries_toNat (sum : UInt32) : (foldCarries sum).toNat = fold sum.toNat := by
  induction sum using foldCarries.induct with
  | case1 sum carries ih =>
    obtain ⟨value,some⟩ := fold_round carries
    rw [foldCarries,if_pos carries,ih,value]
    conv_rhs => rw [fold,if_neg some]
  | case2 sum settled =>
    have none : (sum >>> 16).toNat = 0 := congrArg UInt32.toNat (not_not.mp settled)
    have high : (sum >>> 16).toNat = sum.toNat / 65536 := Nat.shiftRight_eq_div_pow sum.toNat 16
    rw [foldCarries,if_neg settled,fold,if_pos (high.symm.trans none)]

theorem finishChecksum_toNat (sum : UInt32) : (finishChecksum sum).toNat = 65535 - fold sum.toNat := by
  have bound := fold_lt sum.toNat
  have low : (~~~(foldCarries sum) &&& (0xFFFF : UInt32)).toNat = (~~~(foldCarries sum)).toNat % 65536 :=
    Nat.and_two_pow_sub_one_eq_mod _ 16
  rw [finishChecksum,UInt32.toNat_toUInt16,low,UInt32.toNat_not,foldCarries_toNat,UInt32.size]
  omega

/-- A sum with its complement verifies. -/
theorem finishChecksum_eq_zero_iff (sum : UInt32) : finishChecksum sum = 0 ↔ fold sum.toNat = 65535 := by
  have bound := fold_lt sum.toNat
  rw [← UInt16.toNat_inj,finishChecksum_toNat]
  exact ⟨fun none => by simp at none; omega,fun full => by simp [full]⟩

def ipv4Header (packetSize identification checksum : UInt16) (source destination : Ipv4Address) : Bytes :=
  [0x45,0] ++ storeBigEndian16 packetSize ++ storeBigEndian16 identification ++ storeBigEndian16 0x4000 ++
    [64,udpProtocol] ++ storeBigEndian16 checksum ++ source.octets ++ destination.octets

def udpHeader (sourcePort destinationPort udpSize checksum : UInt16) : Bytes :=
  storeBigEndian16 sourcePort ++ storeBigEndian16 destinationPort ++ storeBigEndian16 udpSize ++
    storeBigEndian16 checksum

/-- The checksum field: a computed zero is sent as all ones. -/
def udpChecksumField (computed : UInt16) : UInt16 := if computed = 0 then 0xFFFF else computed

section Layout

variable (source destination : Ipv4Address) (sourcePort destinationPort identification : UInt16) (payload : Bytes)

def udpWithoutChecksum : Bytes :=
  udpHeader sourcePort destinationPort (udpHeaderSize + payload.length).toUInt16 0 ++ payload

def builtPacket : Bytes :=
  let packetSize := (ipv4HeaderSize + (udpHeaderSize + payload.length)).toUInt16
  let checksum := computeChecksum (ipv4Header packetSize identification 0 source destination)
  let udpChecksum := computeUdpChecksum source destination (udpWithoutChecksum sourcePort destinationPort payload)
  ipv4Header packetSize identification checksum source destination ++
    (udpHeader sourcePort destinationPort (udpHeaderSize + payload.length).toUInt16 (udpChecksumField udpChecksum) ++
      payload)

/-- Where the packet fits, its fields stand where the stores have put them. -/
theorem buildUdpPacket_eq {maxInnerIpv4PacketSize outputSize : Nat}
    (room : ipv4HeaderSize + (udpHeaderSize + payload.length) ≤ outputSize)
    (inner : ipv4HeaderSize + (udpHeaderSize + payload.length) ≤ maxInnerIpv4PacketSize)
    (short : ipv4HeaderSize + (udpHeaderSize + payload.length) ≤ 65535) :
    buildUdpPacket maxInnerIpv4PacketSize outputSize source destination sourcePort destinationPort payload identification =
      some (builtPacket source destination sourcePort destinationPort identification payload) := by
  have zeros : List.replicate (ipv4HeaderSize + (udpHeaderSize + payload.length)) (0 : UInt8) =
      List.replicate 28 0 ++ List.replicate payload.length 0 := by
    rw [← List.replicate_add]
    congr 1
    simp only [ipv4HeaderSize,udpHeaderSize]
    omega
  have fits : ¬(ipv4HeaderSize + (udpHeaderSize + payload.length) > outputSize ∨
      ipv4HeaderSize + (udpHeaderSize + payload.length) > maxInnerIpv4PacketSize ∨
      ipv4HeaderSize + (udpHeaderSize + payload.length) > 65535) := by omega
  unfold buildUdpPacket builtPacket
  dsimp only
  rw [if_neg fits,zeros]
  simp [storeAt,overlay,storeBigEndian16,Ipv4Address.octets,ipv4HeaderSize,udpHeaderSize,ipv4Header,udpHeader,
    udpChecksumField,udpWithoutChecksum,List.replicate_succ]

end Layout

theorem storeBigEndian16_toNat (value : UInt16) :
    256 * (value >>> 8).toUInt8.toNat + value.toUInt8.toNat = value.toNat := by
  have small := value.toNat_lt
  have high : (value >>> 8).toNat = value.toNat / 256 := Nat.shiftRight_eq_div_pow value.toNat 8
  rw [UInt16.toNat_toUInt8,UInt16.toNat_toUInt8,high]
  omega

theorem loadBigEndian16_toNat (bytes : Bytes) (offset : Nat) :
    (loadBigEndian16 bytes offset).toNat = 256 * (byteAt bytes offset).toNat + (byteAt bytes (offset + 1)).toNat := by
  have small := (byteAt bytes offset).toNat_lt
  have below : (byteAt bytes (offset + 1)).toNat < 2 ^ 8 := (byteAt bytes (offset + 1)).toNat_lt
  have shifted : ((byteAt bytes offset).toUInt16 <<< 8).toNat = (byteAt bytes offset).toNat <<< 8 := by
    have wrapped : ((byteAt bytes offset).toUInt16 <<< 8).toNat = (byteAt bytes offset).toNat <<< 8 % 2 ^ 16 := by simp
    rw [wrapped,Nat.shiftLeft_eq]
    omega
  rw [loadBigEndian16,UInt16.toNat_or,shifted,UInt8.toNat_toUInt16,← Nat.shiftLeft_add_eq_or_of_lt below,
    Nat.shiftLeft_eq,Nat.mul_comm]

/-- What is stored is loaded again. -/
theorem loadBigEndian16_of_stored {bytes : Bytes} {offset : Nat} {value : UInt16}
    (high : byteAt bytes offset = (value >>> 8).toUInt8) (low : byteAt bytes (offset + 1) = value.toUInt8) :
    loadBigEndian16 bytes offset = value := by
  apply UInt16.toNat_inj.mp
  rw [loadBigEndian16_toNat,high,low,storeBigEndian16_toNat]

theorem wordSum_ipv4Header (packetSize identification checksum : UInt16) (source destination : Ipv4Address) :
    wordSum (ipv4Header packetSize identification checksum source destination) =
      wordSum (ipv4Header packetSize identification 0 source destination) + checksum.toNat := by
  have stored := storeBigEndian16_toNat checksum
  have zero : 256 * ((0 : UInt16) >>> 8).toUInt8.toNat + (0 : UInt16).toUInt8.toNat = 0 := storeBigEndian16_toNat 0
  simp only [ipv4Header,storeBigEndian16,Ipv4Address.octets,List.cons_append,List.nil_append,wordSum]
  omega

theorem wordSum_udpHeader (sourcePort destinationPort udpSize checksum : UInt16) (payload : Bytes) :
    wordSum (udpHeader sourcePort destinationPort udpSize checksum ++ payload) =
      wordSum (udpHeader sourcePort destinationPort udpSize 0 ++ payload) + checksum.toNat := by
  have stored := storeBigEndian16_toNat checksum
  have zero : 256 * ((0 : UInt16) >>> 8).toUInt8.toNat + (0 : UInt16).toUInt8.toNat = 0 := storeBigEndian16_toNat 0
  simp only [udpHeader,storeBigEndian16,List.cons_append,List.nil_append,wordSum]
  omega

/-- Every addition of `data` to `sum` is exact, so none overflows. -/
def AddsExactly (sum : UInt32) (data : Bytes) : Prop :=
  ∀ k, (addChecksumBytes sum (data.take k)).toNat = sum.toNat + wordSum (data.take k)

theorem addsExactly {sum : UInt32} {data : Bytes} (fits : sum.toNat + wordSum data < 2 ^ 32) : AddsExactly sum data := by
  intro k
  have part := wordSum_take_le data k
  exact addChecksumBytes_toNat sum (data.take k) (by omega)

theorem AddsExactly.whole {sum : UInt32} {data : Bytes} (exactly : AddsExactly sum data) :
    (addChecksumBytes sum data).toNat = sum.toNat + wordSum data := by
  have all := exactly data.length
  rwa [List.take_length] at all

theorem addsExactly_ipv4Header (packetSize identification checksum : UInt16) (source destination : Ipv4Address) :
    AddsExactly 0 (ipv4Header packetSize identification checksum source destination) := by
  have bound := wordSum_le (ipv4Header packetSize identification checksum source destination)
  have length : (ipv4Header packetSize identification checksum source destination).length = 20 := rfl
  have zero : (0 : UInt32).toNat = 0 := rfl
  exact addsExactly (by omega)

theorem computeChecksum_verifies (packetSize identification : UInt16) (source destination : Ipv4Address) :
    computeChecksum (ipv4Header packetSize identification
      (computeChecksum (ipv4Header packetSize identification 0 source destination)) source destination) = 0 := by
  have before := (addsExactly_ipv4Header packetSize identification 0 source destination).whole
  rw [computeChecksum,finishChecksum_eq_zero_iff,(addsExactly_ipv4Header _ _ _ _ _).whole,wordSum_ipv4Header,computeChecksum,
    finishChecksum_toNat,before,← Nat.add_assoc]
  exact fold_add_complement _

/-- The calls of `AddChecksumBytes` for a UDP checksum: the sum so far and what is added. -/
def udpAdditions (source destination : Ipv4Address) (udp : Bytes) : List (UInt32 × Bytes) :=
  let first := addChecksumBytes 0 source.octets
  let second := addChecksumBytes first destination.octets
  let third := addChecksumBytes second (pseudoTail udp.length)
  [(0,source.octets),(first,destination.octets),(second,pseudoTail udp.length),(third,udp)]

def udpSum (source destination : Ipv4Address) (udp : Bytes) : Nat :=
  wordSum source.octets + wordSum destination.octets + wordSum (pseudoTail udp.length) + wordSum udp

section Udp

variable {source destination : Ipv4Address} {udp : Bytes}

theorem udpAdditions_exact (short : udp.length ≤ 65535) :
    (∀ addition ∈ udpAdditions source destination udp, AddsExactly addition.1 addition.2) ∧
      (computeUdpChecksum source destination udp).toNat = 65535 - fold (udpSum source destination udp) := by
  have sourceBound := wordSum_le source.octets
  have destinationBound := wordSum_le destination.octets
  have tailBound := wordSum_le (pseudoTail udp.length)
  have udpBound := wordSum_le udp
  have lengths : source.octets.length = 4 ∧ destination.octets.length = 4 ∧ (pseudoTail udp.length).length = 4 :=
    ⟨rfl,rfl,rfl⟩
  have zero : (0 : UInt32).toNat = 0 := rfl
  have first : AddsExactly 0 source.octets := addsExactly (by omega)
  have firstSum := first.whole
  have second : AddsExactly (addChecksumBytes 0 source.octets) destination.octets := addsExactly (by omega)
  have secondSum := second.whole
  have third := @addsExactly _ (pseudoTail udp.length) (show (addChecksumBytes (addChecksumBytes 0 source.octets)
    destination.octets).toNat + wordSum (pseudoTail udp.length) < 2 ^ 32 by omega)
  have thirdSum := third.whole
  have last := @addsExactly _ udp (show (addChecksumBytes (addChecksumBytes (addChecksumBytes 0 source.octets)
    destination.octets) (pseudoTail udp.length)).toNat + wordSum udp < 2 ^ 32 by omega)
  constructor
  · simp only [udpAdditions,List.forall_mem_cons]
    exact ⟨first,second,third,last,List.forall_mem_nil _⟩
  · rw [computeUdpChecksum,finishChecksum_toNat,last.whole,thirdSum,secondSum,firstSum,zero,Nat.zero_add]
    rfl

/-- A datagram with its own checksum, or all ones for a zero, verifies. -/
theorem computeUdpChecksum_verifies {sourcePort destinationPort udpSize : UInt16} {payload : Bytes}
    (short : udpHeaderSize + payload.length ≤ 65535) :
    computeUdpChecksum source destination (udpHeader sourcePort destinationPort udpSize (udpChecksumField
      (computeUdpChecksum source destination (udpHeader sourcePort destinationPort udpSize 0 ++ payload))) ++ payload) =
        0 := by
  have length : ∀ checksum, (udpHeader sourcePort destinationPort udpSize checksum ++ payload).length =
      udpHeaderSize + payload.length := fun checksum => List.length_append
  have exact_ : ∀ checksum, (computeUdpChecksum source destination
      (udpHeader sourcePort destinationPort udpSize checksum ++ payload)).toNat =
        65535 - fold (udpSum source destination (udpHeader sourcePort destinationPort udpSize checksum ++ payload)) :=
    fun checksum => (udpAdditions_exact (by rw [length]; exact short)).2
  have sums : ∀ checksum, udpSum source destination (udpHeader sourcePort destinationPort udpSize checksum ++ payload) =
      udpSum source destination (udpHeader sourcePort destinationPort udpSize 0 ++ payload) + checksum.toNat := by
    intro checksum
    rw [udpSum,udpSum,length,length,wordSum_udpHeader]
    omega
  have computed := exact_ 0
  have bound := fold_lt (udpSum source destination (udpHeader sourcePort destinationPort udpSize 0 ++ payload))
  apply UInt16.toNat_inj.mp
  rw [exact_,sums,udpChecksumField]
  split
  next zero =>
    rw [zero] at computed
    have full : fold (udpSum source destination (udpHeader sourcePort destinationPort udpSize 0 ++ payload)) = 65535 := by
      change 0 = _ at computed
      omega
    exact congrArg (65535 - ·) (fold_add_full full)
  next some_ =>
    rw [computed,fold_add_complement]
    rfl

end Udp

section RoundTrip

variable (localAddress remoteAddress : Ipv4Address) (localPort remotePort identification : UInt16) (payload : Bytes)

/-- The checks of a reply against a packet of the given layout. -/
theorem validateUdpReply_layout (inetNtop : Bytes → Option CString)
    {packetSize headerChecksum udpSize udpChecksum : UInt16}
    (packetLength : packetSize.toNat = ipv4HeaderSize + (udpHeaderSize + payload.length))
    (udpLength : udpSize.toNat = udpHeaderSize + payload.length)
    (header : computeChecksum (ipv4Header packetSize identification headerChecksum remoteAddress localAddress) = 0)
    (some_ : udpChecksum ≠ 0)
    (udp : computeUdpChecksum remoteAddress localAddress (udpHeader remotePort localPort udpSize udpChecksum ++ payload) =
      0) :
    validateUdpReply inetNtop (ipv4Header packetSize identification headerChecksum remoteAddress localAddress ++
        (udpHeader remotePort localPort udpSize udpChecksum ++ payload))
      ⟨localAddress,remoteAddress,localPort,remotePort,payload⟩ = (true,"validated UDP echo".toList) := by
  have datagramLength : (udpHeader remotePort localPort udpSize udpChecksum ++ payload).length =
      udpHeaderSize + payload.length := List.length_append
  generalize datagramIs : udpHeader remotePort localPort udpSize udpChecksum ++ payload = datagram at datagramLength udp ⊢
  have whole : (ipv4Header packetSize identification headerChecksum remoteAddress localAddress ++ datagram).length =
      ipv4HeaderSize + (udpHeaderSize + payload.length) := by
    rw [List.length_append,datagramLength]
    rfl
  have front : (ipv4Header packetSize identification headerChecksum remoteAddress localAddress ++ datagram).take
      ipv4HeaderSize = ipv4Header packetSize identification headerChecksum remoteAddress localAddress :=
    List.take_left' rfl
  have back : (ipv4Header packetSize identification headerChecksum remoteAddress localAddress ++ datagram).drop
      ipv4HeaderSize = datagram := List.drop_left' rfl
  have size : loadBigEndian16 (ipv4Header packetSize identification headerChecksum remoteAddress localAddress ++
      datagram) 2 = packetSize := loadBigEndian16_of_stored rfl rfl
  have unfragmented : loadBigEndian16 (ipv4Header packetSize identification headerChecksum remoteAddress localAddress ++
      datagram) 6 = 0x4000 := loadBigEndian16_of_stored rfl rfl
  have sourcePort : loadBigEndian16 datagram 0 = remotePort := by
    rw [← datagramIs]
    exact loadBigEndian16_of_stored rfl rfl
  have destinationPort : loadBigEndian16 datagram 2 = localPort := by
    rw [← datagramIs]
    exact loadBigEndian16_of_stored rfl rfl
  have datagramSize : loadBigEndian16 datagram 4 = udpSize := by
    rw [← datagramIs]
    exact loadBigEndian16_of_stored rfl rfl
  have checksum : loadBigEndian16 datagram 6 = udpChecksum := by
    rw [← datagramIs]
    exact loadBigEndian16_of_stored rfl rfl
  have carried : datagram.drop udpHeaderSize = payload := by
    rw [← datagramIs]
    exact List.drop_left' rfl
  have version : byteAt (ipv4Header packetSize identification headerChecksum remoteAddress localAddress ++ datagram) 0 =
      0x45 := rfl
  have protocol : byteAt (ipv4Header packetSize identification headerChecksum remoteAddress localAddress ++ datagram) 9 =
      udpProtocol := rfl
  have source : loadAddress (ipv4Header packetSize identification headerChecksum remoteAddress localAddress ++
      datagram) 12 = remoteAddress := rfl
  have destination : loadAddress (ipv4Header packetSize identification headerChecksum remoteAddress localAddress ++
      datagram) 16 = localAddress := rfl
  have headerSize : ((0x45 : UInt8) &&& 0x0F).toNat * 4 = ipv4HeaderSize := rfl
  have taken : datagram.take (udpHeaderSize + payload.length) = datagram := by rw [← datagramLength,List.take_length]
  generalize ipv4Header packetSize identification headerChecksum remoteAddress localAddress ++ datagram = packet at *
  unfold validateUdpReply
  dsimp only
  simp only [whole,version,headerSize,size,packetLength,front,unfragmented,protocol,source,destination,back,
    datagramSize,udpLength,sourcePort,destinationPort,checksum,taken,udp,carried]
  have short : ¬ipv4HeaderSize + (udpHeaderSize + payload.length) < ipv4HeaderSize + udpHeaderSize := by omega
  have within : ¬(ipv4HeaderSize < ipv4HeaderSize ∨
      ipv4HeaderSize > ipv4HeaderSize + (udpHeaderSize + payload.length)) := by omega
  have rest : udpHeaderSize + payload.length = ipv4HeaderSize + (udpHeaderSize + payload.length) - ipv4HeaderSize := by
    omega
  have filled : ¬udpHeaderSize + payload.length < udpHeaderSize := by omega
  have four : (0x45 : UInt8) >>> 4 = 4 := rfl
  have wholeDatagram : (0x4000 : UInt16) &&& 0x3FFF = 0 := rfl
  rw [if_neg short,if_neg (not_or.mpr ⟨not_not.mpr four,within⟩),if_neg (not_or.mpr ⟨not_not.mpr rfl,short⟩),
    if_neg (not_not.mpr header),if_neg (not_not.mpr wholeDatagram),if_neg (not_not.mpr rfl),
    if_neg (not_or.mpr ⟨not_not.mpr rfl,not_not.mpr rfl⟩),if_neg (not_or.mpr ⟨not_not.mpr rest,filled⟩),
    if_neg (not_or.mpr ⟨not_not.mpr rfl,not_not.mpr rfl⟩),if_neg some_,if_neg (not_not.mpr rfl),
    if_neg (not_not.mpr rfl)]

/-- The calls of `AddChecksumBytes` for a packet: its builder adds the header and the datagram with
their checksums still zero, its validator adds them as they are. -/
def packetAdditions (source destination : Ipv4Address) (packet : Bytes) : List (UInt32 × Bytes) :=
  [(0,storeAt 10 [0,0] (packet.take ipv4HeaderSize)),(0,packet.take ipv4HeaderSize)] ++
    udpAdditions source destination (storeAt 6 [0,0] (packet.drop ipv4HeaderSize)) ++
    udpAdditions source destination (packet.drop ipv4HeaderSize)

/-- What is right about a packet between two endpoints: its reply is accepted, both checksums
verify, a computed UDP checksum of zero is sent as all ones, and no addition overflows. -/
structure RoundTrips (inetNtop : Bytes → Option CString) (packet : Bytes) : Prop where
  accepted : validateUdpReply inetNtop packet ⟨localAddress,remoteAddress,localPort,remotePort,payload⟩ =
    (true,"validated UDP echo".toList)
  headerVerifies : computeChecksum (packet.take ipv4HeaderSize) = 0
  datagramVerifies : computeUdpChecksum remoteAddress localAddress (packet.drop ipv4HeaderSize) = 0
  checksumSent : loadBigEndian16 packet (ipv4HeaderSize + 6) = udpChecksumField
    (computeUdpChecksum remoteAddress localAddress (storeAt 6 [0,0] (packet.drop ipv4HeaderSize)))
  exact_ : ∀ addition ∈ packetAdditions remoteAddress localAddress packet, AddsExactly addition.1 addition.2

theorem builtPacket_roundTrips (inetNtop : Bytes → Option CString) (short : 28 + payload.length ≤ 65535) :
    RoundTrips localAddress remoteAddress localPort remotePort payload inetNtop
      (builtPacket remoteAddress localAddress remotePort localPort identification payload) := by
  have udpSize : (udpHeaderSize + payload.length).toUInt16.toNat = udpHeaderSize + payload.length := by
    apply UInt16.toNat_ofNat_of_lt'
    simp only [udpHeaderSize,UInt16.size]
    omega
  have packetSize : (ipv4HeaderSize + (udpHeaderSize + payload.length)).toUInt16.toNat =
      ipv4HeaderSize + (udpHeaderSize + payload.length) := by
    apply UInt16.toNat_ofNat_of_lt'
    simp only [ipv4HeaderSize,udpHeaderSize,UInt16.size]
    omega
  have fits : udpHeaderSize + payload.length ≤ 65535 := by
    simp only [udpHeaderSize]
    omega
  have field : ∀ computed, udpChecksumField computed ≠ 0 := by
    intro computed
    unfold udpChecksumField
    split
    · decide
    next some_ => exact some_
  have headerVerifies := computeChecksum_verifies (ipv4HeaderSize + (udpHeaderSize + payload.length)).toUInt16
    identification remoteAddress localAddress
  have datagramVerifies := @computeUdpChecksum_verifies remoteAddress localAddress remotePort localPort
    (udpHeaderSize + payload.length).toUInt16 payload fits
  have exactDatagram : ∀ checksum, ∀ addition ∈ udpAdditions remoteAddress localAddress
      (udpHeader remotePort localPort (udpHeaderSize + payload.length).toUInt16 checksum ++ payload),
      AddsExactly addition.1 addition.2 := by
    intro checksum
    refine (udpAdditions_exact ?_).1
    exact (List.length_append : (udpHeader remotePort localPort _ checksum ++ payload).length = _).trans_le fits
  refine ⟨?_,headerVerifies,datagramVerifies,loadBigEndian16_of_stored rfl rfl,?_⟩
  · exact validateUdpReply_layout localAddress remoteAddress localPort remotePort identification payload inetNtop
      packetSize udpSize headerVerifies (field _) datagramVerifies
  · simp only [packetAdditions,List.forall_mem_append,List.forall_mem_cons]
    exact ⟨⟨⟨addsExactly_ipv4Header _ _ 0 _ _,addsExactly_ipv4Header _ _ _ _ _,List.forall_mem_nil _⟩,
      exactDatagram 0⟩,exactDatagram _⟩

/-- Every packet that fits is built, and its reply is accepted. -/
theorem buildUdpPacket_roundTrips (inetNtop : Bytes → Option CString) (maxInnerIpv4PacketSize outputSize : Nat)
    (inner : 28 + payload.length ≤ maxInnerIpv4PacketSize) (short : 28 + payload.length ≤ 65535)
    (room : 28 + payload.length ≤ outputSize) :
    ∃ packet, buildUdpPacket maxInnerIpv4PacketSize outputSize remoteAddress localAddress remotePort localPort payload
        identification = some packet ∧
      RoundTrips localAddress remoteAddress localPort remotePort payload inetNtop packet := by
  have size : ipv4HeaderSize + (udpHeaderSize + payload.length) = 28 + payload.length := by
    simp only [ipv4HeaderSize,udpHeaderSize]
    omega
  refine ⟨_,buildUdpPacket_eq _ _ _ _ _ _ ?_ ?_ ?_,builtPacket_roundTrips _ _ _ _ _ _ inetNtop short⟩
  all_goals
    rw [size]
    assumption

end RoundTrip

theorem buildUdpPacket_roundTrips_echo :
    ∃ packet, buildUdpPacket 1420 1420 ⟨10,0,0,1⟩ ⟨10,0,0,2⟩ 29000 4000 [1,2,3] 7 = some packet ∧
      RoundTrips ⟨10,0,0,2⟩ ⟨10,0,0,1⟩ 4000 29000 [1,2,3] (fun _ => none) packet :=
  buildUdpPacket_roundTrips ⟨10,0,0,2⟩ ⟨10,0,0,1⟩ 4000 29000 7 [1,2,3] (fun _ => none) 1420 1420 (by decide)
    (by decide) (by decide)

end NxReverse.Toolbox.WgnxPacket
