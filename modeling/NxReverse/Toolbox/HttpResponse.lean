import NxReverse.Lib.Text

/-! `ReceiveHttpResponse` of the connection test: a header collected over `recv` chunks and
a body that is only counted. Sizes are `size_t`, so a subtraction may wrap. -/
namespace NxReverse.Toolbox

open Text

def connectionTestBufferBytes : Nat := 64 * 1024
def maximumHttpHeaderBytes : Nat := 4096
def httpStatusOk : Nat := 200

/-- `std::size_t` arithmetic. -/
def sizeT (value : Nat) : Nat := value % 2 ^ 64
def sizeSub (a b : Nat) : Nat := (a + (2 ^ 64 - b)) % 2 ^ 64

structure HttpResponse where
  status : Nat
  bodyBytes : Nat
  deriving DecidableEq, Repr

structure HttpReceive where
  header : CString
  receivedHeader : Bool
  response : HttpResponse
  deriving DecidableEq, Repr

def HttpReceive.start : HttpReceive := ⟨[],false,⟨0,0⟩⟩

structure HttpFailure where
  err : Nat
  detail : CString
  deriving DecidableEq, Repr

inductive RecvEnd where
  | closed
  | failed (errno : Nat)
  deriving DecidableEq, Repr

def digitValue (c : Char) : Nat := c.toNat - '0'.toNat

def isAsciiDigit (c : Char) : Bool := !(c < '0' || '9' < c)

def parseHttpStatus (header : CString) : Option Nat :=
  if header.length < 12 || !"HTTP/1.".toList.isPrefixOf header || header[8]? != some ' ' then none
  else
    match header.drop 9 with
    | digit0 :: digit1 :: digit2 :: _ =>
      if !isAsciiDigit digit0 || !isAsciiDigit digit1 || !isAsciiDigit digit2 then none
      else some (digitValue digit0 * 100 + digitValue digit1 * 10 + digitValue digit2)
    | _ => none

def headerTerminator : CString := "\r\n\r\n".toList

/-- One turn of the loop on a chunk of data. -/
def receiveChunk (s : HttpReceive) (chunk : CString) : Except HttpFailure HttpReceive :=
  if s.receivedHeader then
    .ok { s with response := { s.response with bodyBytes := sizeT (s.response.bodyBytes + chunk.length) } }
  else
    let available := sizeSub maximumHttpHeaderBytes s.header.length
    let copied := min available chunk.length
    let header := s.header ++ chunk.take copied
    match find headerTerminator header with
    | none =>
      if header.length = maximumHttpHeaderBytes then
        .error ⟨0,"HTTP response headers exceed the bounded parser limit".toList⟩
      else .ok { s with header := header }
    | some headerEnd =>
      match parseHttpStatus header with
      | none => .error ⟨0,"invalid HTTP response status".toList⟩
      | some status =>
        .ok ⟨header,true,⟨status,sizeT (s.response.bodyBytes + sizeSub chunk.length (headerEnd + 4))⟩⟩

/-- `formatErrno` prints an error number. -/
def receiveHttpResponse (formatErrno : Nat → CString) (chunks : List CString) (recvEnd : RecvEnd) :
    Except HttpFailure HttpResponse := do
  let received ← chunks.foldlM receiveChunk .start
  match recvEnd with
  | .failed errno => .error ⟨errno,"receive failed: ".toList ++ formatErrno errno⟩
  | .closed =>
    if received.receivedHeader then .ok received.response
    else .error ⟨0,"connection closed before HTTP response headers".toList⟩

/-- The verdict of the connection test on a response. -/
def connectionTestSucceeds (response : HttpResponse) (upload : Bool) (bodyBytes : Nat) : Bool :=
  response.status == httpStatusOk && response.bodyBytes == if upload then 0 else bodyBytes

theorem sizeSub_of_le {a b : Nat} (le : b ≤ a) (small : a < 2 ^ 64) : sizeSub a b = a - b := by
  rw [sizeSub,show a + (2 ^ 64 - b) = (a - b) + 2 ^ 64 by omega,Nat.add_mod_right]
  exact Nat.mod_eq_of_lt (by omega)

theorem length_of_parseHttpStatus {header : CString} {status : Nat}
    (parsed : parseHttpStatus header = some status) : 12 ≤ header.length := by
  by_contra short
  simp [parseHttpStatus,Nat.lt_of_not_le short] at parsed

/-- The status line is decided by the first twelve bytes. -/
theorem parseHttpStatus_append {first : CString} (long : 12 ≤ first.length) (second : CString) :
    parseHttpStatus (first ++ second) = parseHttpStatus first := by
  have enough : ¬first.length < 12 := Nat.not_lt.mpr long
  have enoughToo : ¬(first ++ second).length < 12 := by rw [List.length_append]; omega
  simp only [parseHttpStatus,enough,enoughToo,decide_false,Bool.false_or]
  match first,long with
  | _ :: _ :: _ :: _ :: _ :: _ :: _ :: _ :: _ :: _ :: _ :: _ :: rest,_ =>
    simp [List.isPrefixOf]

theorem length_headerTerminator : headerTerminator.length = 4 := by decide

theorem find_headerTerminator_take (stream : CString) (k : Nat) :
    find headerTerminator (stream.take k) =
      (find headerTerminator stream).filter fun i => i + 4 ≤ k := by
  rw [find_take (by decide),length_headerTerminator]

theorem headerEnd_le {stream : CString} {headerEnd : Nat}
    (found : find headerTerminator stream = some headerEnd) : headerEnd + 4 ≤ stream.length := by
  have whole := find_headerTerminator_take stream stream.length
  rw [List.take_length,found] at whole
  by_contra outside
  simp [Option.filter,outside] at whole

/-- Behind the header every byte counts once. -/
theorem receive_body {s : HttpReceive} (received : s.receivedHeader = true)
    (small : s.response.bodyBytes < 2 ^ 64) (chunks : List CString) :
    chunks.foldlM receiveChunk s = .ok { s with
      response := { s.response with bodyBytes := sizeT (s.response.bodyBytes + chunks.flatten.length) } } := by
  induction chunks generalizing s with
  | nil =>
    have same : sizeT s.response.bodyBytes = s.response.bodyBytes := Nat.mod_eq_of_lt small
    simp [same]
    rfl
  | cons chunk rest ih =>
    have step : receiveChunk s chunk = .ok { s with
        response := { s.response with bodyBytes := sizeT (s.response.bodyBytes + chunk.length) } } := by
      simp [receiveChunk,received]
    have next := ih (s := { s with
      response := { s.response with bodyBytes := sizeT (s.response.bodyBytes + chunk.length) } })
      received (Nat.mod_lt _ (by decide))
    rw [List.foldlM_cons,step]
    refine next.trans ?_
    simp [sizeT,Nat.add_assoc]

section Stream

variable {stream : CString} {headerEnd status : Nat}

/-- A status line that is complete in the header is complete in every longer prefix. -/
theorem parseHttpStatus_take (wellFormed : parseHttpStatus (stream.take (headerEnd + 4)) = some status)
    {k : Nat} (long : headerEnd + 4 ≤ k) : parseHttpStatus (stream.take k) = some status := by
  have split : stream.take k =
      stream.take (headerEnd + 4) ++ (stream.drop (headerEnd + 4)).take (k - (headerEnd + 4)) := by
    rw [← List.take_add]
    congr 1
    omega
  rw [split,parseHttpStatus_append (length_of_parseHttpStatus wellFormed),wellFormed]

/-- A chunk that does not complete the header is collected whole. -/
theorem receive_collect (found : find headerTerminator stream = some headerEnd)
    (inside : headerEnd + 4 ≤ maximumHttpHeaderBytes) {before chunk after : CString}
    (whole : stream = before ++ (chunk ++ after)) (short : before.length + chunk.length < headerEnd + 4) :
    receiveChunk ⟨before,false,⟨0,0⟩⟩ chunk = .ok ⟨before ++ chunk,false,⟨0,0⟩⟩ := by
  unfold maximumHttpHeaderBytes at inside
  have available : sizeSub maximumHttpHeaderBytes before.length = 4096 - before.length :=
    sizeSub_of_le (by unfold maximumHttpHeaderBytes; omega) (by decide)
  have copied : min (4096 - before.length) chunk.length = chunk.length := by omega
  have missing : find headerTerminator (before ++ chunk) = none := by
    have front : before ++ chunk = stream.take (before.length + chunk.length) := by
      rw [whole,← List.append_assoc,← List.length_append,List.take_left]
    rw [front,find_headerTerminator_take,found]
    have outside : ¬headerEnd + 4 ≤ before.length + chunk.length := by omega
    simp [Option.filter,outside]
  have room : ¬(before ++ chunk).length = maximumHttpHeaderBytes := by
    rw [List.length_append]
    unfold maximumHttpHeaderBytes
    omega
  simp only [receiveChunk,available,copied,List.take_length,missing,room,if_false]
  rfl

/-- The chunk that completes the header counts its whole size less the header, although
part of the header came before it. -/
theorem receive_complete (found : find headerTerminator stream = some headerEnd)
    (inside : headerEnd + 4 ≤ maximumHttpHeaderBytes)
    (wellFormed : parseHttpStatus (stream.take (headerEnd + 4)) = some status)
    {before chunk after : CString} (whole : stream = before ++ (chunk ++ after))
    (early : before.length < headerEnd + 4) (long : headerEnd + 4 ≤ before.length + chunk.length) :
    ∃ header, receiveChunk ⟨before,false,⟨0,0⟩⟩ chunk =
      .ok ⟨header,true,⟨status,sizeSub chunk.length (headerEnd + 4)⟩⟩ := by
  unfold maximumHttpHeaderBytes at inside
  have available : sizeSub maximumHttpHeaderBytes before.length = 4096 - before.length :=
    sizeSub_of_le (by unfold maximumHttpHeaderBytes; omega) (by decide)
  have front : before ++ chunk.take (min (4096 - before.length) chunk.length) =
      stream.take (before.length + min (4096 - before.length) chunk.length) := by
    rw [whole,List.take_length_add_append,List.take_append_of_le_length (Nat.min_le_right _ _)]
  have enough : headerEnd + 4 ≤ before.length + min (4096 - before.length) chunk.length := by omega
  have seen : find headerTerminator (before ++ chunk.take (min (4096 - before.length) chunk.length)) =
      some headerEnd := by
    rw [front,find_headerTerminator_take,found]
    simp [Option.filter,enough]
  have parsed : parseHttpStatus (before ++ chunk.take (min (4096 - before.length) chunk.length)) =
      some status := by
    rw [front]
    exact parseHttpStatus_take wellFormed enough
  have small : sizeT (sizeSub chunk.length (headerEnd + 4)) = sizeSub chunk.length (headerEnd + 4) := by
    rw [sizeT,sizeSub,Nat.mod_mod]
  refine ⟨before ++ chunk.take (min (4096 - before.length) chunk.length),?_⟩
  simp only [receiveChunk,available,seen,parsed,Bool.false_eq_true,if_false,Nat.zero_add,small]

/-- The whole loop: `skipped` bytes came before the chunk that completes the header, and
just these are missing from the count. -/
theorem receive_run (found : find headerTerminator stream = some headerEnd)
    (inside : headerEnd + 4 ≤ maximumHttpHeaderBytes)
    (wellFormed : parseHttpStatus (stream.take (headerEnd + 4)) = some status)
    (before : CString) {chunks : List CString} (nonempty : ∀ chunk ∈ chunks, chunk ≠ [])
    (whole : stream = before ++ chunks.flatten) (early : before.length < headerEnd + 4) :
    ∃ skipped header, before.length ≤ skipped ∧ skipped < headerEnd + 4 ∧
      (skipped = before.length ↔ headerEnd + 4 ≤ before.length + (chunks.headD []).length) ∧
      chunks.foldlM receiveChunk ⟨before,false,⟨0,0⟩⟩ =
        .ok ⟨header,true,⟨status,sizeSub (stream.length - skipped) (headerEnd + 4)⟩⟩ := by
  induction chunks generalizing before with
  | nil =>
    have enough := headerEnd_le found
    rw [whole,List.flatten_nil,List.append_nil] at enough
    omega
  | cons chunk rest ih =>
    rw [List.flatten_cons] at whole
    by_cases long : headerEnd + 4 ≤ before.length + chunk.length
    · obtain ⟨header,step⟩ := receive_complete found inside wellFormed whole early long
      refine ⟨before.length,header,Nat.le_refl _,early,by simp [long],?_⟩
      have size : stream.length - before.length = chunk.length + rest.flatten.length := by
        rw [whole,List.length_append,List.length_append]
        omega
      rw [List.foldlM_cons,step]
      refine (receive_body rfl (Nat.mod_lt _ (by decide)) rest).trans ?_
      simp only [size,sizeT,sizeSub,Nat.mod_add_mod]
      rw [Nat.add_right_comm]
    · have step := receive_collect found inside whole (Nat.lt_of_not_le long)
      have positive := List.length_pos_iff.mpr (nonempty chunk List.mem_cons_self)
      obtain ⟨skipped,header,least,bound,_,run⟩ := ih (before ++ chunk)
        (fun c member => nonempty c (List.mem_cons_of_mem chunk member))
        (by rw [whole,List.append_assoc]) (by rw [List.length_append]; omega)
      rw [List.length_append] at least
      refine ⟨skipped,header,by omega,bound,?_,?_⟩
      · have late : skipped ≠ before.length := by omega
        simp [late,long]
      · rw [List.foldlM_cons,step]
        exact run

/-- A stream that ends in order after its header is answered with the header's status; the
bytes in front of the chunk that completes the header are missing from the count. -/
theorem receiveHttpResponse_closed (formatErrno : Nat → CString) {chunks : List CString}
    (nonempty : ∀ chunk ∈ chunks, chunk ≠ [])
    (found : find headerTerminator chunks.flatten = some headerEnd)
    (inside : headerEnd + 4 ≤ maximumHttpHeaderBytes)
    (wellFormed : parseHttpStatus (chunks.flatten.take (headerEnd + 4)) = some status) :
    ∃ skipped, skipped < headerEnd + 4 ∧ (skipped = 0 ↔ headerEnd + 4 ≤ (chunks.headD []).length) ∧
      receiveHttpResponse formatErrno chunks .closed =
        .ok ⟨status,sizeSub (chunks.flatten.length - skipped) (headerEnd + 4)⟩ := by
  obtain ⟨skipped,header,_,bound,first,run⟩ :=
    receive_run found inside wellFormed [] nonempty rfl (Nat.succ_pos _)
  rw [List.length_nil,Nat.zero_add] at first
  refine ⟨skipped,bound,first,?_⟩
  rw [receiveHttpResponse,HttpReceive.start,run]
  rfl

/-- A split yields the status and the size of everything behind the header exactly when the
header comes in one piece (and the size is a `size_t`). -/
theorem receiveHttpResponse_iff (formatErrno : Nat → CString) {chunks : List CString}
    (nonempty : ∀ chunk ∈ chunks, chunk ≠ [])
    (found : find headerTerminator chunks.flatten = some headerEnd)
    (inside : headerEnd + 4 ≤ maximumHttpHeaderBytes)
    (wellFormed : parseHttpStatus (chunks.flatten.take (headerEnd + 4)) = some status) :
    receiveHttpResponse formatErrno chunks .closed =
        .ok ⟨status,chunks.flatten.length - (headerEnd + 4)⟩ ↔
      headerEnd + 4 ≤ (chunks.headD []).length ∧ chunks.flatten.length - (headerEnd + 4) < 2 ^ 64 := by
  have enough := headerEnd_le found
  obtain ⟨skipped,bound,first,result⟩ :=
    receiveHttpResponse_closed formatErrno nonempty found inside wellFormed
  rw [result,Except.ok.injEq,HttpResponse.mk.injEq,← first]
  unfold maximumHttpHeaderBytes at inside
  constructor
  · rintro ⟨-,same⟩
    unfold sizeSub at same
    constructor <;> omega
  · rintro ⟨rfl,small⟩
    refine ⟨rfl,?_⟩
    unfold sizeSub
    omega

/-- A download of the right size fails its test when the header comes in pieces. -/
theorem download_refused (formatErrno : Nat → CString) {chunks : List CString}
    (nonempty : ∀ chunk ∈ chunks, chunk ≠ [])
    (found : find headerTerminator chunks.flatten = some headerEnd)
    (inside : headerEnd + 4 ≤ maximumHttpHeaderBytes)
    (wellFormed : parseHttpStatus (chunks.flatten.take (headerEnd + 4)) = some status)
    (pieces : (chunks.headD []).length < headerEnd + 4) :
    ∃ response, receiveHttpResponse formatErrno chunks .closed = .ok response ∧
      connectionTestSucceeds response false (chunks.flatten.length - (headerEnd + 4)) = false := by
  have enough := headerEnd_le found
  obtain ⟨skipped,bound,first,result⟩ :=
    receiveHttpResponse_closed formatErrno nonempty found inside wellFormed
  refine ⟨_,result,?_⟩
  have late : skipped ≠ 0 := by omega
  unfold maximumHttpHeaderBytes at inside
  have different : sizeSub (chunks.flatten.length - skipped) (headerEnd + 4) ≠
      chunks.flatten.length - (headerEnd + 4) := by
    unfold sizeSub
    omega
  rw [connectionTestSucceeds,if_neg (by decide),beq_false_of_ne different,Bool.and_false]

end Stream

/-- A header in one chunk, with its body behind it in the next ones. -/
theorem receiveHttpResponse_one :
    receiveHttpResponse (fun _ => []) ["HTTP/1.0 200 OK\r\n\r\nbo".toList,"dy".toList] .closed =
      .ok ⟨200,4⟩ := by
  have split := @receiveHttpResponse_iff 15 200 (fun _ => [])
    ["HTTP/1.0 200 OK\r\n\r\nbo".toList,"dy".toList] (by decide) (by decide) (by decide) (by decide)
  exact split.mpr (by decide)

/-- A chunk border inside the terminator makes the count wrap. -/
example :
    receiveHttpResponse (fun _ => []) ["HTTP/1.0 200 OK\r\n".toList,"\r\nbody".toList] .closed =
      .ok ⟨200,2 ^ 64 - 13⟩ := by
  decide

theorem segmentation_dependent :
    ¬∀ (formatErrno : Nat → CString) (chunks : List CString) (headerEnd status : Nat),
      (∀ chunk ∈ chunks, chunk ≠ [] ∧ chunk.length ≤ connectionTestBufferBytes) →
      find headerTerminator chunks.flatten = some headerEnd → headerEnd + 4 ≤ maximumHttpHeaderBytes →
      parseHttpStatus (chunks.flatten.take (headerEnd + 4)) = some status →
      receiveHttpResponse formatErrno chunks .closed =
        .ok ⟨status,chunks.flatten.length - (headerEnd + 4)⟩ := by
  intro independent
  have whole := independent (fun _ => []) ["HTTP/1.0 200 OK\r\n".toList,"\r\nbody".toList] 15 200
    (by decide) (by decide) (by decide) (by decide)
  exact absurd whole (by decide)

end NxReverse.Toolbox
