import NxReverse.Toolbox.ConfigSettings

/-! Two readers of IPv4 addresses. The configuration cuts a text at its dots, the HTTPS scenario goes through it one
character after the other; both accept four groups of digits between dots. -/
namespace NxReverse.Toolbox

open Text

/-- The loop of `IsIpv4Address` at the rest of an address. -/
def isIpv4AddressFrom (octets value digits : Nat) : CString → Bool
  | [] => octets == 3 && digits > 0 && value ≤ 255
  | ch :: rest =>
    if ch = '.' then
      if digits = 0 ∨ value > 255 ∨ octets = 3 then false else isIpv4AddressFrom (octets + 1) 0 0 rest
    else if ch < '0' ∨ ch > '9' then false
    else if digits + 1 > 3 then false
    else isIpv4AddressFrom octets (value * 10 + (ch.toNat - '0'.toNat)) (digits + 1) rest

def isIpv4Address (address : CString) : Bool := isIpv4AddressFrom 0 0 0 address

theorem isDigit_iff (c : Char) : c.isDigit = true ↔ ¬(c < '0' ∨ c > '9') := by
  simp only [Char.isDigit,Bool.and_eq_true,decide_eq_true_eq,not_or,gt_iff_lt,Char.lt_def,UInt32.not_lt,ge_iff_le]

/-- One to three digits of a value that fits a byte. -/
structure OctetGroup (text : CString) : Prop where
  nonempty : text ≠ []
  short : text.length ≤ 3
  digits : ∀ c ∈ text, c.isDigit = true
  small : Nat.ofDigitChars 10 text 0 ≤ 255

/-- So many groups with a dot between each two. -/
def DottedGroups : Nat → CString → Prop
  | 0,_ => False
  | 1,text => OctetGroup text
  | groups + 1,text => ∃ first rest, text = first ++ '.' :: rest ∧ OctetGroup first ∧ DottedGroups groups rest

def DottedQuad (text : CString) : Prop :=
  ∃ first second third fourth, OctetGroup first ∧ OctetGroup second ∧ OctetGroup third ∧ OctetGroup fourth ∧
    text = first ++ '.' :: (second ++ '.' :: (third ++ '.' :: fourth))

theorem dottedQuad_iff (text : CString) : DottedQuad text ↔ DottedGroups 4 text := by
  constructor
  · rintro ⟨first,second,third,fourth,one,two,three,four,rfl⟩
    exact ⟨first,_,rfl,one,second,_,rfl,two,third,fourth,rfl,three,four⟩
  · rintro ⟨first,_,rfl,one,second,_,rfl,two,third,fourth,rfl,three,four⟩
    exact ⟨first,second,third,fourth,one,two,three,four,rfl⟩

theorem OctetGroup.not_dot {text : CString} (group : OctetGroup text) : '.' ∉ text := by
  intro member
  exact absurd (group.digits '.' member) (by decide)

theorem dottedGroups_cut {groups : Nat} {front rest : CString} (plain : '.' ∉ front) :
    DottedGroups (groups + 1) (front ++ '.' :: rest) ↔ OctetGroup front ∧ DottedGroups groups rest := by
  cases groups with
  | zero =>
    constructor
    · exact fun group => absurd (by simp) (OctetGroup.not_dot group)
    · exact fun none => none.2.elim
  | succ groups =>
    constructor
    · rintro ⟨first,tail,same,group,more⟩
      obtain ⟨rfl,rfl⟩ := cut_unique plain group.not_dot same
      exact ⟨group,more⟩
    · rintro ⟨group,more⟩
      exact ⟨front,rest,rfl,group,more⟩

theorem dottedGroups_plain {groups : Nat} {text : CString} (plain : '.' ∉ text) :
    DottedGroups (groups + 1) text ↔ groups = 0 ∧ OctetGroup text := by
  cases groups with
  | zero => simp [DottedGroups]
  | succ groups =>
    constructor
    · rintro ⟨first,rest,rfl,-⟩
      simp at plain
    · rintro ⟨none,-⟩
      cases none

theorem DottedGroups.characters {groups : Nat} {text : CString} (dotted : DottedGroups groups text) :
    ∀ c ∈ text, c.isDigit = true ∨ c = '.' := by
  induction groups generalizing text with
  | zero => exact dotted.elim
  | succ groups ih =>
    cases groups with
    | zero => exact fun c member => .inl (OctetGroup.digits dotted c member)
    | succ groups =>
      obtain ⟨first,rest,rfl,group,more⟩ := dotted
      intro c member
      rcases List.mem_append.mp member with front | back
      · exact .inl (group.digits c front)
      · rcases List.mem_cons.mp back with dot | later
        · exact .inr dot
        · exact ih more c later

/-- Not more than three digits stand in front. -/
theorem DottedGroups.front_short {groups : Nat} {text front : CString} (dotted : DottedGroups groups text)
    (digits : ∀ c ∈ front, c.isDigit = true) (start : front <+: text) : front.length ≤ 3 := by
  cases groups with
  | zero => exact dotted.elim
  | succ groups =>
    cases groups with
    | zero => exact start.length_le.trans (OctetGroup.short dotted)
    | succ groups =>
      obtain ⟨first,rest,rfl,group,-⟩ := dotted
      by_contra long
      have cut : first ++ ['.'] <+: first ++ '.' :: rest := ⟨rest,by simp⟩
      have within : first ++ ['.'] <+: front := by
        apply List.prefix_of_prefix_length_le cut start
        have short := group.short
        simp only [List.length_append,List.length_singleton]
        omega
      exact absurd (digits '.' (within.subset (by simp))) (by decide)

theorem isOctet_iff (text : CString) : isOctet text = true ↔ OctetGroup text := by
  constructor
  · intro octet
    obtain ⟨nonempty,short,digits⟩ := digits_of_isOctet octet
    refine ⟨nonempty,short,digits,?_⟩
    simp only [isOctet,parseUInt32,readUnsigned,Bool.and_eq_true] at octet
    obtain ⟨-,parsed⟩ := octet
    split at parsed
    next read =>
      simp only [Option.map_some,Option.any_some,decide_eq_true_eq,UInt32.le_iff_toNat_le] at parsed
      rwa [UInt32.toNat_ofNat_of_lt' (Nat.lt_of_le_of_lt read.2.2 (by decide))] at parsed
    next => cases parsed
  · rintro ⟨nonempty,short,digits,small⟩
    have bound : Nat.ofDigitChars 10 text 0 ≤ 2 ^ 32 - 1 := small.trans (by decide)
    have all : text.all Char.isDigit = true := List.all_eq_true.mpr digits
    have exact_ : (UInt32.ofNat (Nat.ofDigitChars 10 text 0)).toNat = Nat.ofDigitChars 10 text 0 :=
      UInt32.toNat_ofNat_of_lt' (Nat.lt_of_le_of_lt bound (by decide))
    have read : readUnsigned (2 ^ 32 - 1) text = some (Nat.ofDigitChars 10 text 0) := if_pos ⟨nonempty,all,bound⟩
    simp only [isOctet,parseUInt32,read,Option.map_some,Option.any_some,UInt32.le_iff_toNat_le,exact_]
    simp [nonempty,short,small]

theorem isIpv4From_iff (components : Nat) (text : CString) :
    isIpv4From components text = true ↔ DottedGroups components text := by
  induction components generalizing text with
  | zero => simp [isIpv4From,DottedGroups]
  | succ components ih =>
    cases components with
    | zero =>
      change ((find ".".toList text).isNone && isOctet text) = true ↔ OctetGroup text
      rw [Bool.and_eq_true,isOctet_iff]
      constructor
      · exact And.right
      · intro group
        refine ⟨?_,group⟩
        rcases find_char_cases '.' text with ⟨nowhere,-⟩ | ⟨front,rest,rfl,-⟩
        · exact Option.isNone_iff_eq_none.mpr nowhere
        · exact absurd (by simp) group.not_dot
    | succ components =>
      rw [isIpv4From.eq_3 text (components + 1) (Nat.succ_ne_zero components)]
      rcases find_char_cases '.' text with ⟨nowhere,plain⟩ | ⟨front,rest,rfl,plain,found⟩
      · have none_ : find ".".toList text = none := nowhere
        rw [none_]
        simp [dottedGroups_plain plain]
      · have some_ : find ".".toList (front ++ '.' :: rest) = some front.length := found
        rw [some_,dottedGroups_cut plain,← isOctet_iff,← ih]
        simp

/-- The digits in front of the rest are the group that is being read. -/
theorem isIpv4AddressFrom_iff {octets : Nat} (inside : octets ≤ 3) {read : CString} (short : read.length ≤ 3)
    (digits : ∀ c ∈ read, c.isDigit = true) (rest : CString) :
    isIpv4AddressFrom octets (Nat.ofDigitChars 10 read 0) read.length rest = true ↔
      DottedGroups (4 - octets) (read ++ rest) := by
  induction rest generalizing octets read with
  | nil =>
    have plain : '.' ∉ read ++ [] := by
      intro dot
      exact absurd (digits '.' (by simpa using dot)) (by decide)
    obtain ⟨groups,left⟩ : ∃ groups, 4 - octets = groups + 1 := ⟨3 - octets,by omega⟩
    rw [left,dottedGroups_plain plain,List.append_nil,isIpv4AddressFrom]
    simp only [Bool.and_eq_true,beq_iff_eq,decide_eq_true_eq]
    constructor
    · rintro ⟨⟨last,some⟩,small⟩
      exact ⟨by omega,List.ne_nil_of_length_pos some,short,digits,small⟩
    · rintro ⟨last,group⟩
      exact ⟨⟨by omega,List.length_pos_of_ne_nil group.nonempty⟩,group.small⟩
  | cons ch rest ih =>
    rw [isIpv4AddressFrom]
    split
    next dot =>
      subst dot
      have plain : '.' ∉ read := fun dot => absurd (digits '.' dot) (by decide)
      obtain ⟨groups,left⟩ : ∃ groups, 4 - octets = groups + 1 := ⟨3 - octets,by omega⟩
      rw [left,dottedGroups_cut plain]
      split
      next wrong =>
        simp only [Bool.false_eq_true,false_iff,not_and]
        intro group
        rcases wrong with none | large | last
        · exact absurd (List.length_eq_zero_iff.mp none) group.nonempty
        · exact absurd group.small (by omega)
        · obtain rfl : groups = 0 := by omega
          exact id
      next right =>
        simp only [not_or] at right
        have group : OctetGroup read := ⟨fun none => right.1 (by rw [none]; rfl),short,digits,by omega⟩
        have later := @ih (octets + 1) (by omega) [] (by simp) (by simp)
        rw [show 4 - (octets + 1) = groups by omega] at later
        exact later.trans (and_iff_right group).symm
    next other =>
      split
      next wrong =>
        simp only [Bool.false_eq_true,false_iff]
        intro dotted
        rcases dotted.characters ch (by simp) with digit | dot
        · exact (isDigit_iff ch).mp digit wrong
        · exact other dot
      next digit =>
        have isDigit : ch.isDigit = true := (isDigit_iff ch).mpr digit
        have more : ∀ c ∈ read ++ [ch], c.isDigit = true := by
          intro c member
          rcases List.mem_append.mp member with old | new
          · exact digits c old
          · exact List.mem_singleton.mp new ▸ isDigit
        have value : Nat.ofDigitChars 10 (read ++ [ch]) 0 =
            Nat.ofDigitChars 10 read 0 * 10 + (ch.toNat - '0'.toNat) := by
          rw [Nat.ofDigitChars_append,Nat.ofDigitChars_cons,Nat.ofDigitChars_nil,Nat.mul_comm]
        split
        next long =>
          simp only [Bool.false_eq_true,false_iff]
          intro dotted
          have bound := dotted.front_short more ⟨rest,by simp⟩
          simp only [List.length_append,List.length_singleton] at bound
          omega
        next enough =>
          have later := @ih octets inside (read ++ [ch]) (by simp; omega) more
          rw [value,List.length_append,List.append_assoc] at later
          exact later

theorem isIpv4Address_iff (text : CString) : isIpv4Address text = true ↔ DottedQuad text := by
  have scanned := @isIpv4AddressFrom_iff 0 (Nat.zero_le 3) [] (Nat.zero_le 3) (List.forall_mem_nil _) text
  exact scanned.trans (dottedQuad_iff text).symm

theorem isValidIpv4_iff (text : CString) : isValidIpv4 text = true ↔ DottedQuad text :=
  (isIpv4From_iff 4 text).trans (dottedQuad_iff text).symm

/-- Both readers accept the dotted quads. -/
theorem ipv4_readers_agree (text : CString) :
    isValidIpv4 text = isIpv4Address text ∧ (isIpv4Address text = true ↔ DottedQuad text) :=
  ⟨Bool.eq_iff_iff.mpr ((isValidIpv4_iff text).trans (isIpv4Address_iff text).symm),isIpv4Address_iff text⟩

end NxReverse.Toolbox
