import NxReverse.Lib.Text

/-! The target of an HTTPS scenario. The parser accepts the documented URIs, and beyond them those whose host has a
colon, as it looks for the last one. -/
namespace NxReverse.Toolbox

open Text

structure HttpsTarget where
  host : CString := []
  port : UInt16 := 443
  path : CString := []
  deriving DecidableEq, Repr

/-- What `ParseHttpsUri` returns and leaves in its arguments. -/
structure UriParse where
  accepted : Bool
  target : HttpsTarget
  detail : CString
  deriving DecidableEq, Repr

def scheme : CString := "https://".toList

def rejectedUri (detail : CString) : UriParse := ⟨false,{},detail⟩

/-- The end of `ParseHttpsUri`, with the host and the port known. -/
def acceptTarget (host : CString) (port : UInt16) (path detail : CString) : UriParse :=
  if host = [] then ⟨false,{ port := port },"target URI has an empty host".toList⟩ else ⟨true,⟨host,port,path⟩,detail⟩

/-- `ParseHttpsUri` behind the cut at the first slash. -/
def parseAuthority (authority path detail : CString) : UriParse :=
  if authority = [] ∨ authority.any ("@?#".toList.contains ·) then
    rejectedUri "target URI has an invalid authority".toList
  else
    match rfind ':' authority with
    | none => acceptTarget authority 443 path detail
    | some colon =>
      let host := authority.take colon
      let portText := authority.drop (colon + 1)
      match readUnsigned (2 ^ 32 - 1) portText with
      | none => rejectedUri "target URI has an invalid port".toList
      | some port =>
        if host = [] ∨ port = 0 ∨ port > 65535 then rejectedUri "target URI has an invalid port".toList
        else acceptTarget host port.toUInt16 path detail

def parseHttpsUri (uri detail : CString) : UriParse :=
  if scheme.isPrefixOf uri then
    let authorityBegin := scheme.length
    match find ['/'] (uri.drop authorityBegin) with
    | none => parseAuthority (uri.drop authorityBegin) ['/'] detail
    | some size =>
      let pathBegin := authorityBegin + size
      parseAuthority ((uri.drop authorityBegin).take (pathBegin - authorityBegin)) (uri.drop pathBegin) detail
  else rejectedUri "target URI must start with https://".toList

structure PortDigits (text : CString) : Prop where
  nonempty : text ≠ []
  digits : ∀ c ∈ text, c.isDigit = true
  positive : 1 ≤ Nat.ofDigitChars 10 text 0
  small : Nat.ofDigitChars 10 text 0 ≤ 65535

def PortPart (text : CString) (port : UInt16) : Prop :=
  text = [] ∧ port = 443 ∨ ∃ digits, text = ':' :: digits ∧ PortDigits digits ∧ port.toNat = Nat.ofDigitChars 10 digits 0

def PathPart (text path : CString) : Prop :=
  text = [] ∧ path = ['/'] ∨ text = path ∧ ∃ rest, text = '/' :: rest

/-- `https://host[:port]/path`, where the path may be absent. -/
structure HttpsGrammar (uri : CString) (target : HttpsTarget) : Prop where
  nonempty : target.host ≠ []
  plain : ∀ c ∈ target.host, c ∉ "/@?#:".toList
  parts : ∃ portText pathText, uri = scheme ++ (target.host ++ portText ++ pathText) ∧
    PortPart portText target.port ∧ PathPart pathText target.path

/-- The host holds a colon, and a port follows it. -/
def ColonHost (uri : CString) : Prop :=
  ∃ host digits pathText path, uri = scheme ++ (host ++ ':' :: digits ++ pathText) ∧ ':' ∈ host ∧
    (∀ c ∈ host, c ∉ "/@?#".toList) ∧ PortDigits digits ∧ PathPart pathText path

/-- The parser accepts the URI exactly with the parts of its grammar. -/
def ParsesGrammar (uri : CString) : Prop :=
  ∀ detail target, (parseHttpsUri uri detail).accepted = true ∧ (parseHttpsUri uri detail).target = target ↔
    HttpsGrammar uri target

theorem parseHttpsUri_cut {authority pathText path : CString} (plain : '/' ∉ authority) (rest : PathPart pathText path)
    (detail : CString) : parseHttpsUri (scheme ++ (authority ++ pathText)) detail = parseAuthority authority path detail := by
  have front : scheme.isPrefixOf (scheme ++ (authority ++ pathText)) = true :=
    List.isPrefixOf_iff_prefix.mpr (List.prefix_append _ _)
  rw [parseHttpsUri,if_pos front]
  dsimp only
  rw [List.drop_left]
  rcases rest with ⟨rfl,rfl⟩ | ⟨rfl,rest,rfl⟩
  · rcases find_char_cases '/' authority with ⟨nowhere,-⟩ | ⟨before,behind,rfl,-⟩
    · rw [List.append_nil,nowhere]
    · simp at plain
  · rw [find_char plain rest]
    simp only [Nat.add_sub_cancel_left,List.take_left,← List.drop_drop,List.drop_left]

/-- What starts with the scheme is cut at the first slash, in one way. -/
theorem exists_cut (rest : CString) : ∃ authority pathText path,
    rest = authority ++ pathText ∧ '/' ∉ authority ∧ PathPart pathText path := by
  rcases find_char_cases '/' rest with ⟨-,plain⟩ | ⟨front,behind,rfl,plain,-⟩
  · exact ⟨rest,[],['/'],(List.append_nil rest).symm,plain,.inl ⟨rfl,rfl⟩⟩
  · exact ⟨front,'/' :: behind,'/' :: behind,rfl,plain,.inr ⟨rfl,behind,rfl⟩⟩

theorem cut_inj {authority other pathText otherText path otherPath : CString} (plain : '/' ∉ authority)
    (plainOther : '/' ∉ other) (rest : PathPart pathText path) (restOther : PathPart otherText otherPath)
    (same : authority ++ pathText = other ++ otherText) : authority = other ∧ path = otherPath := by
  rcases rest with ⟨rfl,rfl⟩ | ⟨rfl,behind,rfl⟩
  · rcases restOther with ⟨rfl,rfl⟩ | ⟨rfl,tail,rfl⟩
    · simpa using same
    · rw [List.append_nil] at same
      exact absurd (by simp [same]) plain
  · rcases restOther with ⟨rfl,rfl⟩ | ⟨rfl,tail,rfl⟩
    · rw [List.append_nil] at same
      exact absurd (by simp [← same]) plainOther
    · obtain ⟨fronts,backs⟩ := cut_unique plain plainOther same
      exact ⟨fronts,by rw [backs]⟩

/-- How an authority is read: its last colon is the one of the port. -/
structure ReadsAs (authority host : CString) (port : UInt16) : Prop where
  nonempty : host ≠ []
  plain : ∀ c ∈ authority, c ∉ "@?#".toList
  parts : ∃ portText, authority = host ++ portText ∧ PortPart portText port ∧ (portText = [] → ':' ∉ host)

theorem PortDigits.not_colon {text : CString} (digits : PortDigits text) : ':' ∉ text := by
  intro member
  exact absurd (digits.digits ':' member) (by decide)

theorem readsAs_plain {authority host : CString} {port : UInt16} (plain : ':' ∉ authority) :
    ReadsAs authority host port ↔
      host ≠ [] ∧ (∀ c ∈ authority, c ∉ "@?#".toList) ∧ host = authority ∧ port = 443 := by
  constructor
  · rintro ⟨nonempty,allowed,portText,rfl,⟨rfl,rfl⟩ | ⟨digits,rfl,-⟩,-⟩
    · exact ⟨nonempty,allowed,(List.append_nil host).symm,rfl⟩
    · simp at plain
  · rintro ⟨nonempty,allowed,rfl,rfl⟩
    exact ⟨nonempty,allowed,[],(List.append_nil host).symm,.inl ⟨rfl,rfl⟩,fun _ => plain⟩

theorem readsAs_colon {front rest host : CString} {port : UInt16} (last : ':' ∉ rest) :
    ReadsAs (front ++ ':' :: rest) host port ↔ host ≠ [] ∧ (∀ c ∈ front ++ ':' :: rest, c ∉ "@?#".toList) ∧
      host = front ∧ PortDigits rest ∧ port.toNat = Nat.ofDigitChars 10 rest 0 := by
  constructor
  · rintro ⟨nonempty,allowed,portText,same,⟨rfl,rfl⟩ | ⟨digits,rfl,reads,value⟩,colon⟩
    · rw [List.append_nil] at same
      exact absurd (by simp [← same]) (colon rfl)
    · have cut := rfind_char front last
      rw [same,rfind_char host reads.not_colon,Option.some_inj] at cut
      obtain ⟨rfl,backs⟩ := List.append_inj same cut.symm
      obtain rfl := (List.cons.inj backs).2
      exact ⟨nonempty,allowed,rfl,reads,value⟩
  · rintro ⟨nonempty,allowed,rfl,reads,value⟩
    exact ⟨nonempty,allowed,':' :: rest,rfl,.inr ⟨rest,rfl,reads,value⟩,by simp⟩

theorem acceptTarget_iff {host path detail : CString} {port : UInt16} {target : HttpsTarget} :
    (acceptTarget host port path detail).accepted = true ∧ (acceptTarget host port path detail).target = target ↔
      host ≠ [] ∧ target = ⟨host,port,path⟩ := by
  rw [acceptTarget]
  split
  next none => simp [none]
  next some => simp [some,eq_comm]

theorem readUnsigned_portDigits {text : CString} {port : Nat} :
    readUnsigned (2 ^ 32 - 1) text = some port ∧ ¬(port = 0 ∨ port > 65535) ↔
      PortDigits text ∧ port = Nat.ofDigitChars 10 text 0 := by
  rw [readUnsigned]
  constructor
  · rintro ⟨read,inside⟩
    split at read
    next digits =>
      obtain rfl := Option.some.inj read
      exact ⟨⟨digits.1,List.all_eq_true.mp digits.2.1,by omega,by omega⟩,rfl⟩
    next => cases read
  · rintro ⟨⟨nonempty,digits,positive,small⟩,rfl⟩
    exact ⟨if_pos ⟨nonempty,List.all_eq_true.mpr digits,by omega⟩,by omega⟩

theorem parseAuthority_iff {authority path detail : CString} {target : HttpsTarget} :
    (parseAuthority authority path detail).accepted = true ∧ (parseAuthority authority path detail).target = target ↔
      ReadsAs authority target.host target.port ∧ target.path = path := by
  obtain ⟨host,port,targetPath⟩ := target
  rw [parseAuthority]
  split
  next invalid =>
    refine ⟨fun accepted => by simp [rejectedUri] at accepted,?_⟩
    rintro ⟨reads,-⟩
    rcases invalid with rfl | forbidden
    · obtain ⟨portText,parts,-⟩ := reads.parts
      exact absurd (List.append_eq_nil_iff.mp parts.symm).1 reads.nonempty
    · obtain ⟨c,member,bad⟩ := List.any_eq_true.mp forbidden
      exact absurd (by simpa using bad) (reads.plain c member)
  next valid =>
    have allowed : ∀ c ∈ authority, c ∉ "@?#".toList := by
      intro c member bad
      exact valid (.inr (List.any_eq_true.mpr ⟨c,member,by simpa using bad⟩))
    rcases rfind_cases ':' authority with ⟨nowhere,plain⟩ | ⟨front,rest,rfl,last,found⟩
    · rw [nowhere,readsAs_plain plain]
      dsimp only
      rw [acceptTarget_iff]
      simp only [HttpsTarget.mk.injEq]
      constructor
      · rintro ⟨nonempty,rfl,rfl,rfl⟩
        exact ⟨⟨nonempty,allowed,rfl,rfl⟩,rfl⟩
      · rintro ⟨⟨nonempty,-,rfl,rfl⟩,rfl⟩
        exact ⟨nonempty,rfl,rfl,rfl⟩
    · rw [found,readsAs_colon last]
      dsimp only
      rw [List.take_left,← List.drop_drop,List.drop_left,List.drop_one,List.tail_cons]
      cases read : readUnsigned (2 ^ 32 - 1) rest with
      | none =>
        refine ⟨fun accepted => by simp [rejectedUri] at accepted,?_⟩
        rintro ⟨⟨-,-,-,reads,value⟩,-⟩
        have some_ := (readUnsigned_portDigits.mpr ⟨reads,rfl⟩).1
        rw [read] at some_
        cases some_
      | some number =>
        dsimp only
        split
        next wrong =>
          refine ⟨fun accepted => by simp [rejectedUri] at accepted,?_⟩
          rintro ⟨⟨nonempty,-,rfl,reads,value⟩,-⟩
          obtain ⟨same,inside⟩ := readUnsigned_portDigits.mpr ⟨reads,rfl⟩
          rw [read,Option.some_inj] at same
          subst same
          exact (wrong.elim nonempty inside).elim
        next right =>
          obtain ⟨nonempty,inside⟩ := not_or.mp right
          obtain ⟨reads,rfl⟩ := readUnsigned_portDigits.mp ⟨read,inside⟩
          have exact_ : (Nat.ofDigitChars 10 rest 0).toUInt16.toNat = Nat.ofDigitChars 10 rest 0 :=
            UInt16.toNat_ofNat_of_lt' (Nat.lt_succ_of_le reads.small)
          rw [acceptTarget_iff]
          simp only [HttpsTarget.mk.injEq]
          constructor
          · rintro ⟨-,rfl,rfl,rfl⟩
            exact ⟨⟨nonempty,allowed,rfl,reads,exact_⟩,rfl⟩
          · rintro ⟨⟨-,-,rfl,-,value⟩,rfl⟩
            exact ⟨nonempty,rfl,UInt16.toNat_inj.mp (value.trans exact_.symm),rfl⟩

/-- The parser against the grammar, for a URI that is cut. -/
theorem parseHttpsUri_iff {authority pathText path : CString} (plain : '/' ∉ authority)
    (rest : PathPart pathText path) (detail : CString) (target : HttpsTarget) :
    ((parseHttpsUri (scheme ++ (authority ++ pathText)) detail).accepted = true ∧
      (parseHttpsUri (scheme ++ (authority ++ pathText)) detail).target = target) ↔
      ReadsAs authority target.host target.port ∧ target.path = path := by
  rw [parseHttpsUri_cut plain rest]
  exact parseAuthority_iff

theorem PortPart.plain {text : CString} {port : UInt16} (part : PortPart text port) :
    ∀ c ∈ text, c ∉ "/@?#".toList := by
  rcases part with ⟨rfl,-⟩ | ⟨digits,rfl,reads,-⟩
  · simp
  · intro c member bad
    have none : ∀ d ∈ "/@?#".toList, d ≠ ':' ∧ d.isDigit = false := by
      have chars : "/@?#".toList = ['/','@','?','#'] := rfl
      rw [chars]
      intro d listed
      simp only [List.mem_cons,List.not_mem_nil,or_false] at listed
      rcases listed with rfl | rfl | rfl | rfl <;> exact ⟨by decide,rfl⟩
    rcases List.mem_cons.mp member with colon | digit
    · exact (none c bad).1 colon
    · exact absurd (reads.digits c digit) (by simp [(none c bad).2])

theorem mem_forbidden {c : Char} : c ∈ "/@?#".toList ↔ c = '/' ∨ c ∈ "@?#".toList := by
  rw [show "/@?#".toList = '/' :: "@?#".toList from rfl,List.mem_cons]

theorem httpsGrammar_iff {authority pathText path : CString} (plain : '/' ∉ authority)
    (rest : PathPart pathText path) (target : HttpsTarget) :
    HttpsGrammar (scheme ++ (authority ++ pathText)) target ↔
      ReadsAs authority target.host target.port ∧ ':' ∉ target.host ∧ target.path = path := by
  have forbidden : ∀ c, c ∈ "/@?#:".toList ↔ c ∈ "/@?#".toList ∨ c = ':' := by
    intro c
    rw [show "/@?#:".toList = "/@?#".toList ++ [':'] from rfl,List.mem_append,List.mem_singleton]
  constructor
  · rintro ⟨nonempty,allowed,portText,otherText,same,port,part⟩
    have allowedAll : ∀ c ∈ target.host ++ portText, c ∉ "/@?#".toList := by
      intro c member bad
      rcases List.mem_append.mp member with inHost | inPort
      · exact allowed c inHost ((forbidden c).mpr (.inl bad))
      · exact port.plain c inPort bad
    have slash : '/' ∉ target.host ++ portText := fun member => allowedAll '/' member (by decide)
    obtain ⟨rfl,rfl⟩ := cut_inj plain slash rest part (List.append_cancel_left same)
    have colon : ':' ∉ target.host := fun member => allowed ':' member (by decide)
    exact ⟨⟨nonempty,fun c member bad => allowedAll c member (mem_forbidden.mpr (.inr bad)),portText,rfl,port,
      fun _ => colon⟩,colon,rfl⟩
  · rintro ⟨⟨nonempty,allowed,portText,rfl,port,-⟩,colon,rfl⟩
    refine ⟨nonempty,fun c member bad => ?_,portText,pathText,rfl,port,rest⟩
    rcases (forbidden c).mp bad with bad | rfl
    · rcases mem_forbidden.mp bad with rfl | bad
      · exact plain (List.mem_append_left portText member)
      · exact allowed c (List.mem_append_left portText member) bad
    · exact colon member

theorem colonHost_iff {authority pathText path : CString} (plain : '/' ∉ authority) (rest : PathPart pathText path) :
    ColonHost (scheme ++ (authority ++ pathText)) ↔ ∃ host port, ReadsAs authority host port ∧ ':' ∈ host := by
  constructor
  · rintro ⟨host,digits,otherText,otherPath,same,colon,allowed,reads,part⟩
    have exact_ : (Nat.ofDigitChars 10 digits 0).toUInt16.toNat = Nat.ofDigitChars 10 digits 0 :=
      UInt16.toNat_ofNat_of_lt' (Nat.lt_succ_of_le reads.small)
    have port : PortPart (':' :: digits) (Nat.ofDigitChars 10 digits 0).toUInt16 := .inr ⟨digits,rfl,reads,exact_⟩
    have allowedAll : ∀ c ∈ host ++ ':' :: digits, c ∉ "/@?#".toList := by
      intro c member
      rcases List.mem_append.mp member with inHost | inPort
      · exact allowed c inHost
      · exact port.plain c inPort
    have slash : '/' ∉ host ++ ':' :: digits := fun member => allowedAll '/' member (by decide)
    obtain ⟨rfl,rfl⟩ := cut_inj plain slash rest part (List.append_cancel_left same)
    exact ⟨host,_,⟨List.ne_nil_of_mem colon,fun c member bad => allowedAll c member (mem_forbidden.mpr (.inr bad)),
      _,rfl,port,by simp⟩,colon⟩
  · rintro ⟨host,port,⟨nonempty,allowed,portText,rfl,part,bare⟩,colon⟩
    rcases part with ⟨none,-⟩ | ⟨digits,rfl,reads,-⟩
    · exact absurd colon (bare none)
    · refine ⟨host,digits,pathText,path,rfl,colon,fun c member bad => ?_,reads,rest⟩
      rcases mem_forbidden.mp bad with rfl | bad
      · exact plain (List.mem_append_left _ member)
      · exact allowed c (List.mem_append_left _ member) bad

/-- The parser meets its grammar unless the host holds a colon. -/
theorem parsesGrammar_iff (uri : CString) : ParsesGrammar uri ↔ ¬ColonHost uri := by
  by_cases front : scheme <+: uri
  · obtain ⟨rest,rfl⟩ := front
    obtain ⟨authority,pathText,path,rfl,plain,part⟩ := exists_cut rest
    simp only [ParsesGrammar,parseHttpsUri_iff plain part,httpsGrammar_iff plain part,colonHost_iff plain part]
    constructor
    · rintro same ⟨host,port,reads,colon⟩
      exact ((same [] ⟨host,port,path⟩).mp ⟨reads,rfl⟩).2.1 colon
    · intro noColon detail target
      refine ⟨fun reads => ⟨reads.1,fun colon => noColon ⟨_,_,reads.1,colon⟩,reads.2⟩,fun parts => ⟨parts.1,parts.2.2⟩⟩
  · have no : ¬ColonHost uri := by
      rintro ⟨host,digits,pathText,path,rfl,-⟩
      exact front (List.prefix_append _ _)
    refine iff_of_true (fun detail target => ?_) no
    have other : scheme.isPrefixOf uri = false := by
      rw [Bool.eq_false_iff,Ne,List.isPrefixOf_iff_prefix]
      exact front
    rw [parseHttpsUri,if_neg (by simp [other])]
    refine ⟨fun accepted => by simp [rejectedUri] at accepted,?_⟩
    rintro ⟨-,-,portText,pathText,rfl,-⟩
    exact absurd (List.prefix_append _ _) front

/-- The host `a:1` is accepted, with the port 443. -/
theorem parsesGrammar_colon : ¬ParsesGrammar "https://a:1:443".toList := by
  intro same
  have accepted : HttpsGrammar "https://a:1:443".toList ⟨"a:1".toList,443,['/']⟩ :=
    (same [] ⟨"a:1".toList,443,['/']⟩).mp (by decide)
  exact accepted.plain ':' (by decide) (by decide)

end NxReverse.Toolbox
