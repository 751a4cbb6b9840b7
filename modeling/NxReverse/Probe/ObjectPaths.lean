import NxReverse.Probe.Tables

/-! How the kind of an object is read off its printed path: the `.cmd` segments are counted and
the command id of the last one is parsed back. -/
namespace NxReverse.Probe

open Text

/-- What follows each `.cmd` that repeated `strstr` calls find. The next search starts behind the
four characters, `skip` of which are still ahead. -/
def cmdSegmentsFrom : Nat → CString → List CString
  | _,[] => []
  | skip + 1,_ :: rest => cmdSegmentsFrom skip rest
  | 0,c :: rest =>
    if ".cmd".toList.isPrefixOf (c :: rest) then rest.drop 3 :: cmdSegmentsFrom 3 rest
    else cmdSegmentsFrom 0 rest

def countCmdSegments (objectPath : CString) : Nat := (cmdSegmentsFrom 0 objectPath).length

def isSpace (c : Char) : Bool := c == ' ' || (9 ≤ c.toNat && c.toNat ≤ 13)

/-- `strtoul` to base 10 with the text it stops at; `none` where it consumes nothing. -/
def strtoul (text : CString) : Option (Nat × CString) :=
  let body := text.dropWhile isSpace
  let unsigned := if body.head? = some '-' ∨ body.head? = some '+' then body.tail else body
  let digits := unsigned.takeWhile Char.isDigit
  let value := Nat.ofDigitChars 10 digits 0
  if digits = [] then none
  else
    some (if 2 ^ 64 ≤ value then 2 ^ 64 - 1
      else if body.head? = some '-' then (2 ^ 64 - value) % 2 ^ 64 else value,unsigned.dropWhile Char.isDigit)

/-- `static_cast<int>` of an `unsigned long`. -/
def toInt (value : Nat) : Int := (BitVec.ofNat 32 value).toInt

def getLastCreatorCommandId (objectPath : CString) : Int :=
  match (cmdSegmentsFrom 0 objectPath).getLast? with
  | none => -1
  | some last =>
    match strtoul last with
    | some (value,'[' :: _) => toInt value
    | _ => -1

def endsWith (value suffix : CString) : Bool := suffix.isSuffixOf value

/-- A path is known as the root, as an object that the root made with a command of `first`, or as
one made on the second level with a command of `second`. -/
def isKnownObjectPath (first second : List Nat) (objectPath : CString) : Bool :=
  let cmdDepth := countCmdSegments objectPath
  let lastCreator := getLastCreatorCommandId objectPath
  if endsWith objectPath ".root".toList then true
  else if cmdDepth == 1 && first.any fun c => lastCreator == c then true
  else cmdDepth == 2 && second.any fun c => lastCreator == c

def isKnownNifmObjectPath (objectPath : CString) : Bool := isKnownObjectPath [4,5] [4] objectPath

def isKnownSslObjectPath (objectPath : CString) : Bool := isKnownObjectPath [0,100] [2,100] objectPath

def cmdSegment (segment : Nat × Nat) : CString :=
  ".cmd".toList ++ decimal segment.1 ++ '[' :: decimal segment.2 ++ [']']

def segmentTail (segment : Nat × Nat) : CString := decimal segment.1 ++ '[' :: (decimal segment.2 ++ [']'])

theorem cmdSegment_eq (segment : Nat × Nat) :
    cmdSegment segment = '.' :: 'c' :: 'm' :: 'd' :: segmentTail segment := by
  simp [cmdSegment,segmentTail]

theorem cmdSegmentsFrom_other {c : Char} (other : c ≠ '.') (rest : CString) :
    cmdSegmentsFrom 0 (c :: rest) = cmdSegmentsFrom 0 rest := by
  have apart : ¬(".cmd".toList.isPrefixOf (c :: rest) = true) := by
    simp [List.isPrefixOf,Ne.symm other]
  rw [cmdSegmentsFrom,if_neg apart]

/-- Nothing is found before the first dot. -/
theorem cmdSegmentsFrom_append {text : CString} (noDot : '.' ∉ text) (rest : CString) :
    cmdSegmentsFrom 0 (text ++ rest) = cmdSegmentsFrom 0 rest := by
  induction text with
  | nil => rfl
  | cons c text ih =>
    rw [List.mem_cons,not_or] at noDot
    rw [List.cons_append,cmdSegmentsFrom_other (Ne.symm noDot.1),ih noDot.2]

theorem cmdSegmentsFrom_cmd (rest : CString) :
    cmdSegmentsFrom 0 ('.' :: 'c' :: 'm' :: 'd' :: rest) = rest :: cmdSegmentsFrom 0 rest := by
  simp [cmdSegmentsFrom,List.isPrefixOf]

theorem noDot_decimal (value : Nat) : '.' ∉ decimal value := by
  intro member
  have digit := isDigit_of_mem_decimal member
  revert digit
  decide

theorem noDot_segmentTail (segment : Nat × Nat) : '.' ∉ segmentTail segment := by
  simp [segmentTail,noDot_decimal]

theorem cmdSegmentsFrom_segment (segment : Nat × Nat) (rest : CString) :
    cmdSegmentsFrom 0 (cmdSegment segment ++ rest) = (segmentTail segment ++ rest) :: cmdSegmentsFrom 0 rest := by
  rw [cmdSegment_eq,List.cons_append,List.cons_append,List.cons_append,List.cons_append,cmdSegmentsFrom_cmd,
    cmdSegmentsFrom_append (noDot_segmentTail segment)]

/-- Each printed segment is found once. -/
theorem countCmdSegments_segments (segments : List (Nat × Nat)) (rest : CString) :
    (cmdSegmentsFrom 0 (segments.flatMap cmdSegment ++ rest)).length =
      segments.length + (cmdSegmentsFrom 0 rest).length := by
  induction segments with
  | nil => simp
  | cons segment segments ih =>
    rw [List.flatMap_cons,List.append_assoc,cmdSegmentsFrom_segment,List.length_cons,ih,List.length_cons]
    omega

theorem strtoul_decimal {value : Nat} (small : value < 2 ^ 64) {stop : Char} (ends : stop.isDigit = false)
    (rest : CString) : strtoul (decimal value ++ stop :: rest) = some (value,stop :: rest) := by
  have digits : ∀ c ∈ decimal value, c.isDigit = true := fun _ member => isDigit_of_mem_decimal member
  have taken : (decimal value ++ stop :: rest).takeWhile Char.isDigit = decimal value := by
    rw [List.takeWhile_append_of_pos digits]
    simp [ends]
  have dropped : (decimal value ++ stop :: rest).dropWhile Char.isDigit = stop :: rest := by
    rw [List.dropWhile_append_of_pos digits]
    simp [ends]
  obtain ⟨first,others,split⟩ := List.exists_cons_of_ne_nil (decimal_ne_nil value)
  have firstDigit := digits first (by rw [split]; exact List.mem_cons_self)
  have body : (decimal value ++ stop :: rest).dropWhile isSpace = decimal value ++ stop :: rest := by
    rw [split,List.cons_append,List.dropWhile_cons_of_neg]
    intro space
    simp only [isSpace,Bool.or_eq_true,beq_iff_eq,Bool.and_eq_true,decide_eq_true_eq] at space
    simp only [Char.isDigit,ge_iff_le,Bool.and_eq_true,decide_eq_true_eq] at firstDigit
    rcases space with rfl | ⟨_,atMost⟩
    · revert firstDigit
      decide
    · have least := UInt32.le_iff_toNat_le.mp firstDigit.1
      have same : first.toNat = first.val.toNat := rfl
      simp at least
      omega
  have head : (decimal value ++ stop :: rest).head? = some first := by rw [split]; rfl
  have unsigned : ¬(first = '-' ∨ first = '+') := by
    rintro (rfl | rfl)
    · revert firstDigit
      decide
    · revert firstDigit
      decide
  have back : Nat.ofDigitChars 10 (decimal value) 0 = value := Nat.ofDigitChars_ten_toDigits
  unfold strtoul
  simp only [body,head,Option.some.injEq,unsigned,if_false,taken,dropped,back,decimal_ne_nil,Nat.not_le.mpr small]
  rw [if_neg fun minus => unsigned (.inl minus)]

theorem toInt_eq {value id : Nat} (small : value < 2 ^ 32) (same : toInt value = id) : value = id := by
  rw [toInt,BitVec.toInt_eq_toNat_cond,BitVec.toNat_ofNat,Nat.mod_eq_of_lt small] at same
  split at same <;> omega

theorem lastCreator_segment {segment : Nat × Nat} (small : segment.1 < 2 ^ 32) {text : CString}
    (last : (cmdSegmentsFrom 0 text).getLast? = some (segmentTail segment)) :
    getLastCreatorCommandId text = toInt segment.1 := by
  have read := strtoul_decimal (Nat.lt_trans small (by decide)) (by decide : '['.isDigit = false)
    (decimal segment.2 ++ [']'])
  rw [getLastCreatorCommandId,last]
  dsimp only
  rw [segmentTail,read]
  rfl

/-- The first part of a printed path: the root, or an object the tracker did not know. -/
def IsBase (base : CString) : Prop :=
  base = "root".toList ∨ ∃ objectId < 2 ^ 32, base = "obj".toList ++ decimal objectId

def printedPath (base : CString) (segments : List (Nat × Nat)) : CString := base ++ segments.flatMap cmdSegment

def Bounded (segments : List (Nat × Nat)) : Prop := ∀ s ∈ segments, s.1 < 2 ^ 32 ∧ s.2 < 8

theorem IsBase.noDot {base : CString} (isBase : IsBase base) : '.' ∉ base := by
  rcases isBase with rfl | ⟨objectId,_,rfl⟩
  · decide
  · have other : '.' ∉ "obj".toList := by decide
    rw [List.mem_append,not_or]
    exact ⟨other,noDot_decimal objectId⟩

theorem IsBase.length {base : CString} (isBase : IsBase base) : base.length ≤ 13 := by
  rcases isBase with rfl | ⟨objectId,small,rfl⟩
  · decide
  · have digits : (decimal objectId).length ≤ 10 :=
      length_decimal_le (by decide) (Nat.lt_trans small (by decide))
    have three : "obj".toList.length = 3 := by decide
    rw [List.length_append,three]
    omega

theorem IsBase.notCmd {base : CString} (isBase : IsBase base) (rest : CString) :
    cmdSegmentsFrom 0 ('.' :: (base ++ rest)) = cmdSegmentsFrom 0 rest := by
  have skipped : cmdSegmentsFrom 0 ('.' :: (base ++ rest)) = cmdSegmentsFrom 0 (base ++ rest) := by
    have apart : ¬(".cmd".toList.isPrefixOf ('.' :: (base ++ rest)) = true) := by
      rcases isBase with rfl | ⟨objectId,_,rfl⟩
      · simp [List.isPrefixOf]
      · simp [List.isPrefixOf]
    rw [cmdSegmentsFrom,if_neg apart]
  rw [skipped,cmdSegmentsFrom_append isBase.noDot]

theorem length_cmdSegment {segment : Nat × Nat} (command : segment.1 < 2 ^ 32) (index : segment.2 < 8) :
    (cmdSegment segment).length ≤ 17 := by
  have digits : (decimal segment.1).length ≤ 10 := length_decimal_le (by decide) (Nat.lt_trans command (by decide))
  have digit : (decimal segment.2).length ≤ 1 := length_decimal_le (by decide) (Nat.lt_trans index (by decide))
  simp only [cmdSegment_eq,segmentTail,List.length_cons,List.length_append,List.length_nil]
  omega

/-- Two segments and the start of a third fit in the buffer. -/
theorem length_twoSegments {base : CString} (isBase : IsBase base) {a b : Nat × Nat} (bounded : Bounded [a,b]) :
    (base ++ (cmdSegment a ++ cmdSegment b)).length ≤ 47 := by
  have baseLength := isBase.length
  have first := length_cmdSegment (bounded a (by simp)).1 (bounded a (by simp)).2
  have second := length_cmdSegment (bounded b (by simp)).1 (bounded b (by simp)).2
  rw [List.length_append,List.length_append]
  omega

theorem noT_cmdSegment (segment : Nat × Nat) : 't' ∉ cmdSegment segment := by
  have digits (value : Nat) : 't' ∉ decimal value := by
    intro member
    have digit := isDigit_of_mem_decimal member
    revert digit
    decide
  simp [cmdSegment_eq,segmentTail,digits]

/-- A printed path other than the root's does not end in `t`. -/
theorem getLast_printedPath {base : CString} (isBase : IsBase base) {segments : List (Nat × Nat)}
    (notRoot : ¬(base = "root".toList ∧ segments = [])) :
    (snprintf maxDomainPathLength (printedPath base segments)).getLast? ≠ some 't' := by
  intro last
  have inside := List.mem_of_getLast? last
  have baseLength := isBase.length
  cases segments with
  | nil =>
    rcases isBase with rfl | ⟨objectId,small,rfl⟩
    · exact notRoot ⟨rfl,rfl⟩
    · have whole : snprintf maxDomainPathLength (printedPath ("obj".toList ++ decimal objectId) []) =
          "obj".toList ++ decimal objectId := by
        rw [printedPath,List.flatMap_nil,List.append_nil,snprintf,List.take_of_length_le]
        simp only [maxDomainPathLength]
        omega
      rw [whole,List.getLast?_append_of_ne_nil _ (decimal_ne_nil objectId)] at last
      have digit := isDigit_of_mem_decimal (List.mem_of_getLast? last)
      revert digit
      decide
  | cons segment rest =>
    have split : snprintf maxDomainPathLength (printedPath base (segment :: rest)) =
        base ++ ((segment :: rest).flatMap cmdSegment).take (95 - base.length) := by
      rw [printedPath,snprintf,maxDomainPathLength,List.take_append,List.take_of_length_le (by omega)]
    have nonempty : ((segment :: rest).flatMap cmdSegment).take (95 - base.length) ≠ [] := by
      rw [List.flatMap_cons,cmdSegment_eq]
      intro empty
      rcases List.take_eq_nil_iff.mp empty with zero | nil
      · omega
      · cases nil
    rw [split,List.getLast?_append_of_ne_nil _ nonempty] at last
    have member := List.mem_of_mem_take (List.mem_of_getLast? last)
    obtain ⟨found,_,inSegment⟩ := List.mem_flatMap.mp member
    exact noT_cmdSegment found inSegment

def servicePath (service relativePath : CString) : CString := service ++ '.' :: relativePath

theorem endsWith_root {service base : CString} {segments : List (Nat × Nat)} (isBase : IsBase base)
    (ends : endsWith (servicePath service (snprintf maxDomainPathLength (printedPath base segments))) ".root".toList =
      true) : base = "root".toList ∧ segments = [] := by
  by_contra notRoot
  have other := getLast_printedPath isBase notRoot
  obtain ⟨front,whole⟩ := List.isSuffixOf_iff_suffix.mp ends
  have last : (servicePath service (snprintf maxDomainPathLength (printedPath base segments))).getLast? = some 't' := by
    rw [← whole,List.getLast?_append_of_ne_nil _ (by decide)]
    decide
  generalize snprintf maxDomainPathLength (printedPath base segments) = relativePath at last other
  rw [servicePath,List.getLast?_append_of_ne_nil _ (List.cons_ne_nil _ _)] at last
  cases relativePath with
  | nil =>
    revert last
    decide
  | cons c rest =>
    rw [List.getLast?_cons_of_ne_nil (List.cons_ne_nil _ _)] at last
    exact other last

theorem cmdSegments_printed {service base : CString} (noDot : '.' ∉ service) (isBase : IsBase base) (rest : CString) :
    cmdSegmentsFrom 0 (servicePath service (base ++ rest)) = cmdSegmentsFrom 0 rest := by
  rw [servicePath,cmdSegmentsFrom_append noDot,isBase.notCmd]

theorem printed_whole {base : CString} {segments : List (Nat × Nat)} (fits : (printedPath base segments).length ≤ 47) :
    snprintf maxDomainPathLength (printedPath base segments) = base ++ (segments.flatMap cmdSegment ++ []) := by
  rw [snprintf,List.take_of_length_le (Nat.le_trans fits (by decide)),printedPath,List.append_nil]

/-- Of a path with three segments or more, the third `.cmd` is still in the buffer. -/
theorem count_longPath {service base : CString} (noDot : '.' ∉ service) (isBase : IsBase base) {a b c : Nat × Nat}
    {rest : List (Nat × Nat)} (bounded : Bounded (a :: b :: c :: rest)) :
    3 ≤ countCmdSegments (servicePath service (snprintf maxDomainPathLength (printedPath base (a :: b :: c :: rest)))) := by
  have fits := length_twoSegments isBase fun s member =>
    bounded s (List.mem_cons.mpr ((List.mem_cons.mp member).imp_right fun last =>
      List.mem_cons.mpr (.inl (List.mem_singleton.mp last))))
  have text : printedPath base (a :: b :: c :: rest) = (base ++ (cmdSegment a ++ cmdSegment b)) ++
      '.' :: 'c' :: 'm' :: 'd' :: (segmentTail c ++ rest.flatMap cmdSegment) := by
    simp [printedPath,cmdSegment_eq]
  obtain ⟨left,room⟩ : ∃ left, maxDomainPathLength - 1 - (base ++ (cmdSegment a ++ cmdSegment b)).length = left + 4 :=
    ⟨maxDomainPathLength - 1 - (base ++ (cmdSegment a ++ cmdSegment b)).length - 4,by rw [maxDomainPathLength]; omega⟩
  have kept : snprintf maxDomainPathLength (printedPath base (a :: b :: c :: rest)) =
      base ++ (cmdSegment a ++ (cmdSegment b ++
        '.' :: 'c' :: 'm' :: 'd' :: (segmentTail c ++ rest.flatMap cmdSegment).take left)) := by
    rw [text,snprintf,List.take_append,room,List.take_of_length_le (Nat.le_trans fits (by decide))]
    simp
  rw [kept,countCmdSegments,cmdSegments_printed noDot isBase,cmdSegmentsFrom_segment,cmdSegmentsFrom_segment,
    cmdSegmentsFrom_cmd]
  simp

/-- The id that a known path ends in is the one that was printed. -/
theorem mem_of_any_lastCreator {ids : List Nat} {id : Nat} (small : id < 2 ^ 32)
    (found : (ids.any fun c => toInt id == c) = true) : id ∈ ids := by
  obtain ⟨c,member,same⟩ := List.any_eq_true.mp found
  rw [toInt_eq small (beq_iff_eq.mp same)]
  exact member

/-- What a known path says: the root, or one segment of the first kind, or two of which the last is
of the second kind. The base and the first of two segments are not looked at. -/
theorem segments_of_known {service base : CString} {first second : List Nat} {segments : List (Nat × Nat)}
    (noDot : '.' ∉ service) (isBase : IsBase base) (bounded : Bounded segments)
    (known : isKnownObjectPath first second
      (servicePath service (snprintf maxDomainPathLength (printedPath base segments))) = true) :
    (base = "root".toList ∧ segments = []) ∨ (∃ a, segments = [a] ∧ a.1 ∈ first) ∨
      ∃ a b, segments = [a,b] ∧ b.1 ∈ second := by
  have baseLength := isBase.length
  unfold isKnownObjectPath at known
  dsimp only at known
  split at known
  next ends => exact .inl (endsWith_root isBase ends)
  · right
    match segments with
    | [] =>
      have none : countCmdSegments (servicePath service (snprintf maxDomainPathLength (printedPath base []))) = 0 := by
        rw [printed_whole (by simp [printedPath]; omega),countCmdSegments,cmdSegments_printed noDot isBase,
          countCmdSegments_segments]
        rfl
      rw [none] at known
      cases known
    | [a] =>
      have fits := length_cmdSegment (bounded a List.mem_cons_self).1 (bounded a List.mem_cons_self).2
      have found : cmdSegmentsFrom 0 (servicePath service (snprintf maxDomainPathLength (printedPath base [a]))) =
          [segmentTail a] := by
        rw [printed_whole (by simp [printedPath]; omega),cmdSegments_printed noDot isBase,List.flatMap_singleton,
          cmdSegmentsFrom_segment]
        rw [List.append_nil]
        rfl
      have last := lastCreator_segment (bounded a List.mem_cons_self).1 (by rw [found]; rfl)
      rw [last,countCmdSegments,found] at known
      simp only [List.length_singleton,beq_self_eq_true,Bool.true_and,Nat.reduceBEq,Bool.false_and,
        ite_eq_left_iff,Bool.false_eq_true,imp_false,Bool.not_eq_true,Bool.not_eq_false] at known
      exact .inl ⟨a,rfl,mem_of_any_lastCreator (bounded a List.mem_cons_self).1 known⟩
    | [a,b] =>
      have small := bounded b (by simp)
      have fits := length_twoSegments isBase bounded
      have found : cmdSegmentsFrom 0 (servicePath service (snprintf maxDomainPathLength (printedPath base [a,b]))) =
          [segmentTail a ++ cmdSegment b,segmentTail b] := by
        rw [printed_whole (by simpa [printedPath] using fits),cmdSegments_printed noDot isBase,List.flatMap_cons,
          List.flatMap_singleton,List.append_assoc,cmdSegmentsFrom_segment,cmdSegmentsFrom_segment]
        simp [cmdSegmentsFrom]
      have last := lastCreator_segment small.1 (by rw [found]; rfl)
      rw [last,countCmdSegments,found] at known
      simp only [List.length_cons,List.length_nil,Nat.reduceAdd,Nat.reduceBEq,Bool.false_and,Bool.false_eq_true,
        if_false,Bool.true_and] at known
      exact .inr ⟨a,b,rfl,mem_of_any_lastCreator small.1 known⟩
    | a :: b :: c :: rest =>
      have many := @count_longPath service base noDot isBase a b c rest bounded
      have notOne : countCmdSegments (servicePath service
          (snprintf maxDomainPathLength (printedPath base (a :: b :: c :: rest)))) ≠ 1 := by omega
      have notTwo : countCmdSegments (servicePath service
          (snprintf maxDomainPathLength (printedPath base (a :: b :: c :: rest)))) ≠ 2 := by omega
      simp [notOne,notTwo] at known

end NxReverse.Probe
