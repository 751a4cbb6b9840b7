import NxReverse.Toolbox.DottedQuads
import NxReverse.Toolbox.HttpResponse

/-! The global address that the connection test reads from a response. Its status check searches the status line,
while the receiver of a response reads the status at a fixed place. -/
namespace NxReverse.Toolbox

open Text

def ipv4StringCapacity : Nat := 16

def jsonPrefix : CString := "\x7b\"global_ip\":\"".toList

/-- What `ParseGlobalIpResponse` returns and leaves in its arguments. -/
structure GlobalIpParse where
  accepted : Bool
  globalIp : CString
  detail : CString
  deriving DecidableEq, Repr

/-- `ParseGlobalIpResponse` behind the header. -/
def parseGlobalIpBody (body globalIp detail : CString) : GlobalIpParse :=
  if jsonPrefix.isPrefixOf body then
    let ipBegin := jsonPrefix.length
    match find ['"'] (body.drop ipBegin) with
    | none => ⟨false,globalIp,"response global_ip is invalid".toList⟩
    | some size =>
      let ipEnd := ipBegin + size
      if ipEnd = ipBegin ∨ ipEnd - ipBegin ≥ ipv4StringCapacity then
        ⟨false,globalIp,"response global_ip is invalid".toList⟩
      else
        let ip := (body.drop ipBegin).take (ipEnd - ipBegin)
        if isIpv4Address ip then ⟨true,ip,detail⟩ else ⟨false,globalIp,"response global_ip is not IPv4".toList⟩
  else ⟨false,globalIp,"response body does not contain global_ip".toList⟩

def mentionsOk (response : CString) : Bool :=
  match find "\r\n".toList response with
  | none => false
  | some statusEnd => "HTTP/1.".toList.isPrefixOf (response.take statusEnd) &&
      (find " 200 ".toList (response.take statusEnd)).isSome

def parseGlobalIpResponse (response globalIp detail : CString) : GlobalIpParse :=
  if mentionsOk response then
    match find headerTerminator response with
    | none => ⟨false,globalIp,"response headers exceed the read buffer".toList⟩
    | some headerEnd => parseGlobalIpBody (response.drop (headerEnd + 4)) globalIp detail
  else ⟨false,globalIp,"expected HTTP status 200".toList⟩

/-- The body behind the first empty line starts with the quoted address. -/
def QuotesIp (response ip : CString) : Prop :=
  ∃ headerEnd rest, find headerTerminator response = some headerEnd ∧
    response.drop (headerEnd + 4) = jsonPrefix ++ (ip ++ '"' :: rest)

/-- A status line of HTTP 1 in which a separate 200 stands somewhere. -/
def MentionsOk (response : CString) : Prop :=
  ∃ statusEnd, find "\r\n".toList response = some statusEnd ∧ "HTTP/1.".toList <+: response.take statusEnd ∧
    " 200 ".toList <:+: response.take statusEnd

theorem DottedQuad.short {text : CString} (quad : DottedQuad text) : 1 ≤ text.length ∧ text.length < 16 := by
  obtain ⟨first,second,third,fourth,one,two,three,four,rfl⟩ := quad
  have shortFirst := one.short
  have shortSecond := two.short
  have shortThird := three.short
  have shortFourth := four.short
  simp only [List.length_append,List.length_cons]
  omega

theorem DottedQuad.not_quote {text : CString} (quad : DottedQuad text) : '"' ∉ text := by
  intro member
  rcases ((dottedQuad_iff text).mp quad).characters '"' member with digit | dot
  · exact absurd digit (by decide)
  · exact absurd dot (by decide)

theorem mentionsOk_iff (response : CString) : mentionsOk response = true ↔ MentionsOk response := by
  rw [mentionsOk]
  cases found : find "\r\n".toList response with
  | none =>
    refine ⟨fun none_ => absurd none_ Bool.false_ne_true,?_⟩
    rintro ⟨statusEnd,other,-⟩
    cases found.symm.trans other
  | some statusEnd =>
    rw [Bool.and_eq_true,List.isPrefixOf_iff_prefix,find_isSome_iff (by decide)]
    exact ⟨fun line => ⟨statusEnd,found,line⟩,fun ⟨_,other,line⟩ => Option.some.inj (found.symm.trans other) ▸ line⟩

theorem parseGlobalIpBody_iff {body globalIp detail ip : CString} :
    ((parseGlobalIpBody body globalIp detail).accepted = true ∧ (parseGlobalIpBody body globalIp detail).globalIp = ip) ↔
      DottedQuad ip ∧ ∃ rest, body = jsonPrefix ++ (ip ++ '"' :: rest) := by
  constructor
  · rintro ⟨accepted,rfl⟩
    unfold parseGlobalIpBody at accepted ⊢
    split at accepted
    next front =>
      obtain ⟨quoted,rfl⟩ := List.isPrefixOf_iff_prefix.mp front
      rw [if_pos front]
      dsimp only at accepted ⊢
      rw [List.drop_left] at accepted ⊢
      rcases find_char_cases '"' quoted with ⟨nowhere,-⟩ | ⟨ip,rest,rfl,plain,found⟩
      · rw [nowhere] at accepted
        cases accepted
      · rw [found] at accepted ⊢
        dsimp only at accepted ⊢
        rw [Nat.add_sub_cancel_left,List.take_left] at accepted ⊢
        split at accepted
        · cases accepted
        next fits =>
          rw [if_neg fits]
          split at accepted
          next quad =>
            rw [if_pos quad]
            exact ⟨(isIpv4Address_iff ip).mp quad,rest,rfl⟩
          next => cases accepted
    next => cases accepted
  · rintro ⟨quad,rest,rfl⟩
    have front : jsonPrefix.isPrefixOf (jsonPrefix ++ (ip ++ '"' :: rest)) = true :=
      List.isPrefixOf_iff_prefix.mpr (List.prefix_append _ _)
    have found := find_char quad.not_quote rest
    obtain ⟨some_,short⟩ := quad.short
    have fits : ¬(jsonPrefix.length + ip.length = jsonPrefix.length ∨ ip.length ≥ ipv4StringCapacity) := by
      simp only [ipv4StringCapacity]
      omega
    have accepts := (isIpv4Address_iff ip).mpr quad
    unfold parseGlobalIpBody
    rw [if_pos front]
    dsimp only
    rw [List.drop_left,found]
    dsimp only
    rw [Nat.add_sub_cancel_left,List.take_left,if_neg fits,if_pos accepts]
    exact ⟨rfl,rfl⟩

/-- The reader accepts exactly the responses that mention a 200 and quote an address. -/
theorem parseGlobalIpResponse_iff {response globalIp detail ip : CString} :
    ((parseGlobalIpResponse response globalIp detail).accepted = true ∧
      (parseGlobalIpResponse response globalIp detail).globalIp = ip) ↔
      MentionsOk response ∧ DottedQuad ip ∧ QuotesIp response ip := by
  rw [parseGlobalIpResponse,← mentionsOk_iff]
  split
  next mentions =>
    rw [and_iff_right mentions]
    cases found : find headerTerminator response with
    | none => simp [QuotesIp,found]
    | some headerEnd =>
      dsimp only
      rw [parseGlobalIpBody_iff]
      simp [QuotesIp,found]
  next other => simp [other]

theorem parseGlobalIpBody_unchanged {body globalIp detail : CString}
    (failed : (parseGlobalIpBody body globalIp detail).accepted = false) :
    (parseGlobalIpBody body globalIp detail).globalIp = globalIp := by
  unfold parseGlobalIpBody at failed ⊢
  split at failed
  next front =>
    rw [if_pos front]
    dsimp only at failed ⊢
    split at failed
    · rfl
    next found =>
      split at failed
      next unfit => rw [if_pos unfit]
      next fits =>
        rw [if_neg fits]
        split at failed
        · cases failed
        next other => rw [if_neg other]
  next other => rw [if_neg other]

theorem globalIp_unchanged {response globalIp detail : CString}
    (failed : (parseGlobalIpResponse response globalIp detail).accepted = false) :
    (parseGlobalIpResponse response globalIp detail).globalIp = globalIp := by
  rw [parseGlobalIpResponse] at failed ⊢
  split at failed
  next mentions =>
    rw [if_pos mentions]
    cases found : find headerTerminator response with
    | none => rfl
    | some headerEnd =>
      rw [found] at failed
      exact parseGlobalIpBody_unchanged failed
  next other => rw [if_neg other]

def StatusOk (response : CString) : Prop := (response.drop 8).take 4 = " 200".toList

theorem digitValue_bounds {c : Char} (digit : isAsciiDigit c = true) : digitValue c ≤ 9 ∧ c.toNat = 48 + digitValue c := by
  have low : '0'.val.toNat = 48 := rfl
  have high : '9'.val.toNat = 57 := rfl
  simp only [isAsciiDigit,Bool.not_eq_true',Bool.or_eq_false_iff,decide_eq_false_iff_not,Char.lt_def,
    UInt32.lt_iff_toNat_lt,low,high,Nat.not_lt] at digit
  simp only [digitValue,Char.toNat,low]
  omega

theorem eq_of_toNat {c d : Char} (same : c.toNat = d.toNat) : c = d := Char.ext (UInt32.toNat_inj.mp same)

/-- Three digits of the value 200. -/
theorem digits_ok {digit0 digit1 digit2 : Char} (first : isAsciiDigit digit0 = true) (second : isAsciiDigit digit1 = true)
    (third : isAsciiDigit digit2 = true)
    (value : digitValue digit0 * 100 + digitValue digit1 * 10 + digitValue digit2 = 200) :
    digit0 = '2' ∧ digit1 = '0' ∧ digit2 = '0' := by
  have zero : '0'.toNat = 48 := rfl
  have two : '2'.toNat = 50 := rfl
  obtain ⟨bound0,code0⟩ := digitValue_bounds first
  obtain ⟨bound1,code1⟩ := digitValue_bounds second
  obtain ⟨bound2,code2⟩ := digitValue_bounds third
  exact ⟨eq_of_toNat (by omega),eq_of_toNat (by omega),eq_of_toNat (by omega)⟩

/-- The status behind a version. -/
theorem parseHttpStatus_version (minor blank digit0 digit1 digit2 : Char) (tail : CString) :
    parseHttpStatus ("HTTP/1.".toList ++ minor :: blank :: digit0 :: digit1 :: digit2 :: tail) =
      if blank ≠ ' ' ∨ !isAsciiDigit digit0 || !isAsciiDigit digit1 || !isAsciiDigit digit2 then none
      else some (digitValue digit0 * 100 + digitValue digit1 * 10 + digitValue digit2) := by
  have front : "HTTP/1.".toList.isPrefixOf ("HTTP/1.".toList ++ minor :: blank :: digit0 :: digit1 :: digit2 :: tail) =
      true := List.isPrefixOf_iff_prefix.mpr (List.prefix_append _ _)
  have long : ¬("HTTP/1.".toList ++ minor :: blank :: digit0 :: digit1 :: digit2 :: tail).length < 12 := by
    rw [List.length_append,show "HTTP/1.".toList.length = 7 from rfl]
    simp only [List.length_cons]
    omega
  have place : ("HTTP/1.".toList ++ minor :: blank :: digit0 :: digit1 :: digit2 :: tail)[8]? = some blank := rfl
  have behind : ("HTTP/1.".toList ++ minor :: blank :: digit0 :: digit1 :: digit2 :: tail).drop 9 =
      digit0 :: digit1 :: digit2 :: tail := rfl
  generalize "HTTP/1.".toList ++ minor :: blank :: digit0 :: digit1 :: digit2 :: tail = header at *
  rw [parseHttpStatus,front,place,behind,decide_eq_false long]
  by_cases here : blank = ' '
  · subst here
    rw [if_neg (by decide)]
    simp only [ne_eq,not_true_eq_false,false_or]
  · have wrong : (some blank != some ' ') = true := by simp [here]
    rw [wrong,Bool.or_true,if_pos rfl,if_pos (.inl here)]

theorem parseHttpStatus_ok {response : CString} (front : "HTTP/1.".toList <+: response) :
    parseHttpStatus response = some 200 ↔ StatusOk response := by
  obtain ⟨rest,rfl⟩ := front
  match rest with
  | [] | [_] | [_,_] | [_,_,_] | [_,_,_,_] => simp [parseHttpStatus,StatusOk]
  | minor :: blank :: digit0 :: digit1 :: digit2 :: tail =>
    have place : StatusOk ("HTTP/1.".toList ++ minor :: blank :: digit0 :: digit1 :: digit2 :: tail) ↔
        blank = ' ' ∧ digit0 = '2' ∧ digit1 = '0' ∧ digit2 = '0' := by
      simp [StatusOk]
    rw [place,parseHttpStatus_version]
    constructor
    · intro parsed
      split at parsed
      · cases parsed
      next digits =>
        simp only [not_or,not_not,Bool.or_eq_true,Bool.not_eq_true',Bool.not_eq_false] at digits
        obtain ⟨here,⟨first,second⟩,third⟩ := digits
        exact ⟨here,digits_ok first second third (Option.some.inj parsed)⟩
    · rintro ⟨rfl,rfl,rfl,rfl⟩
      rfl

/-- What the two readers should agree on for a response. -/
def StatusReadersAgree (response : CString) : Prop :=
  ∀ globalIp detail,
    ((parseGlobalIpResponse response globalIp detail).accepted = true →
      parseHttpStatus response = some httpStatusOk ∧
      DottedQuad (parseGlobalIpResponse response globalIp detail).globalIp ∧
      QuotesIp response (parseGlobalIpResponse response globalIp detail).globalIp) ∧
    ((parseGlobalIpResponse response globalIp detail).accepted = false →
      (parseGlobalIpResponse response globalIp detail).globalIp = globalIp)

/-- The readers agree on a response unless it mentions a 200 elsewhere and quotes an address. -/
theorem statusReadersAgree_iff (response : CString) :
    StatusReadersAgree response ↔
      ((MentionsOk response ∧ ∃ ip, DottedQuad ip ∧ QuotesIp response ip) → StatusOk response) := by
  constructor
  · rintro agree ⟨mentions,ip,quad,quotes⟩
    obtain ⟨accepted,-⟩ := (@parseGlobalIpResponse_iff response [] [] ip).mpr ⟨mentions,quad,quotes⟩
    obtain ⟨statusEnd,-,front,-⟩ := mentions
    exact (parseHttpStatus_ok (front.trans (List.take_prefix _ _))).mp ((agree [] []).1 accepted).1
  · intro place globalIp detail
    refine ⟨fun accepted => ?_,globalIp_unchanged⟩
    obtain ⟨mentions,quad,quotes⟩ := parseGlobalIpResponse_iff.mp ⟨accepted,rfl⟩
    have status := place ⟨mentions,_,quad,quotes⟩
    obtain ⟨statusEnd,-,front,-⟩ := mentions
    exact ⟨(parseHttpStatus_ok (front.trans (List.take_prefix _ _))).mpr status,quad,quotes⟩

/-- A response with the status 404 gives its address all the same. -/
theorem statusReadersAgree_notFound :
    ¬StatusReadersAgree "HTTP/1.1 404 200 OK\r\n\r\n\x7b\"global_ip\":\"203.0.113.7\"\x7d".toList := by
  intro agree
  have status := ((agree [] []).1 (by decide)).1
  revert status
  decide

end NxReverse.Toolbox
