import NxReverse.Tools.ReportSummaries

/-! What the tool reads in a line of settings: its numbers, its names, and the row that is made of them. -/
namespace NxReverse.Tools.Reports

open Text Words KeyValues Toolbox

variable {u : Unicode}

section Numbers

theorem isSpace_of_between {c : Char} (low : 33 ≤ c.toNat) (high : c.toNat < 128) : isSpace c = false := by
  simp only [isSpace,Bool.or_eq_false_iff,Bool.and_eq_false_iff,decide_eq_false_iff_not,beq_eq_false_iff_ne]
  omega

/-- A value that stands in a line as it is. -/
structure Filled (value : PyStr) : Prop where
  nonempty : value ≠ []
  filled : ∀ c ∈ value, isSpace c = false

theorem Filled.of_all {value : PyStr} (filled : (value ≠ [] && value.all fun c => !isSpace c) = true) :
    Filled value := by
  rw [Bool.and_eq_true,decide_eq_true_eq,List.all_eq_true] at filled
  exact ⟨filled.1,fun c member => (Bool.not_eq_true' _).mp (filled.2 c member)⟩

def isPlain (c : Char) : Bool := c.isAlphanum || c == '-' || c == '_'

theorem isPlain_bounds {c : Char} (plain : isPlain c = true) : 45 ≤ c.toNat ∧ c.toNat < 128 ∧ c ≠ '[' ∧ c ≠ '=' := by
  have signs : (decide (c.val ≥ 'A'.val ∧ c.val ≤ 'Z'.val) || (decide (c.val ≥ 'a'.val) && decide (c.val ≤ 'z'.val)) ||
      c.isDigit || c == '-' || c == '_') = true := plain
  simp only [Bool.or_eq_true,Bool.and_eq_true,decide_eq_true_eq,beq_iff_eq,Char.isDigit_iff_toNat,ge_iff_le,
    UInt32.le_iff_toNat_le] at signs
  rcases signs with (((upper | lower) | digit) | rfl) | rfl
  · exact ⟨Nat.le_trans (by decide) upper.1,Nat.lt_of_le_of_lt upper.2 (by decide),by rintro rfl; simp at upper,
      by rintro rfl; simp at upper⟩
  · exact ⟨Nat.le_trans (by decide) lower.1,Nat.lt_of_le_of_lt lower.2 (by decide),by rintro rfl; simp at lower,
      by rintro rfl; simp at lower⟩
  · exact ⟨Nat.le_trans (by decide) digit.1,Nat.lt_of_le_of_lt digit.2 (by decide),by rintro rfl; simp at digit,
      by rintro rfl; simp at digit⟩
  · decide
  · decide

structure Plain (value : PyStr) : Prop where
  nonempty : value ≠ []
  plain : ∀ c ∈ value, isPlain c = true

theorem Plain.of_all {value : PyStr} (plain : (value ≠ [] && value.all isPlain) = true) : Plain value := by
  rw [Bool.and_eq_true,decide_eq_true_eq,List.all_eq_true] at plain
  exact ⟨plain.1,plain.2⟩

theorem Plain.filled {value : PyStr} (plain : Plain value) : Filled value := by
  refine ⟨plain.nonempty,fun c member => ?_⟩
  obtain ⟨low,high,-⟩ := isPlain_bounds (plain.plain c member)
  exact isSpace_of_between (by omega) high

theorem plain_decimal (value : Nat) : Plain (decimal value) :=
  ⟨decimal_ne_nil value,fun c member => by simp [isPlain,Char.isAlphanum,isDigit_of_mem_decimal member]⟩

theorem plain_signedDecimal (value : Int) : Plain (signedDecimal value) := by
  rw [signedDecimal]
  split
  · refine ⟨List.cons_ne_nil _ _,fun c member => ?_⟩
    rcases List.mem_cons.mp member with rfl | member
    · rfl
    · exact (plain_decimal _).plain c member
  · exact plain_decimal _

theorem digitValue_of_isDigit {c : Char} (digit : c.isDigit = true) : u.digitValue c = some (c.toNat - 48) := by
  rw [Unicode.digitValue,if_pos digit]

theorem digitsValue_digits {text : PyStr} (digits : ∀ c ∈ text, c.isDigit = true) {underscore : Bool} {value : Nat}
    (some : underscore = true ∨ text ≠ []) :
    digitsValue u underscore value text = .some (Nat.ofDigitChars 10 text value) := by
  induction text generalizing underscore value with
  | nil =>
    obtain rfl : underscore = true := some.resolve_right (absurd rfl)
    rfl
  | cons c rest ih =>
    have digit := digits c List.mem_cons_self
    have later := @ih (fun other member => digits other (List.mem_cons_of_mem _ member)) true
      (value * 10 + (c.toNat - 48)) (.inl rfl)
    have other : c ≠ '_' := by
      rintro rfl
      cases digit
    rw [digitsValue]
    · rw [digitValue_of_isDigit digit]
      dsimp only
      rw [later,Nat.ofDigitChars,Nat.ofDigitChars,List.foldl_cons,Nat.mul_comm]
      rfl
    · exact other

theorem pyInt_of_filled {text : PyStr} (filled : Filled text) : pyInt u text =
    (match text with
      | '-' :: rest => (digitsValue u false 0 rest).map fun value => -(value : Int)
      | '+' :: rest => (digitsValue u false 0 rest).map Int.ofNat
      | body => (digitsValue u false 0 body).map Int.ofNat).elim (.error .value) .ok := by
  have front : text.dropWhile isSpace = text := by
    cases text with
    | nil => rfl
    | cons c rest => rw [List.dropWhile_cons_of_neg (by simp [filled.filled c List.mem_cons_self])]
  have back : text.rdropWhile isSpace = text :=
    List.rdropWhile_eq_self_iff.mpr fun nonempty => by simp [filled.filled _ (List.getLast_mem nonempty)]
  rw [pyInt,front,back]
  rfl

theorem pyInt_decimal (value : Nat) : pyInt u (decimal value) = .ok (value : Int) := by
  have digits : digitsValue u false 0 (decimal value) = some value := by
    rw [digitsValue_digits (fun c member => isDigit_of_mem_decimal member) (.inr (decimal_ne_nil value))]
    exact congrArg some Nat.ofDigitChars_ten_toDigits
  obtain ⟨c,rest,text⟩ := List.exists_cons_of_ne_nil (decimal_ne_nil value)
  have digit : c.isDigit = true := isDigit_of_mem_decimal (text ▸ List.mem_cons_self)
  rw [pyInt_of_filled (plain_decimal value).filled]
  split
  next same =>
    rw [same] at text
    cases text
    cases digit
  next same =>
    rw [same] at text
    cases text
    cases digit
  next => rw [digits]; rfl

theorem pyInt_signedDecimal (value : Int) : pyInt u (signedDecimal value) = .ok value := by
  by_cases negative : value < 0
  · have digits : digitsValue u false 0 (decimal value.natAbs) = some value.natAbs := by
      rw [digitsValue_digits (fun c member => isDigit_of_mem_decimal member) (.inr (decimal_ne_nil _))]
      exact congrArg some Nat.ofDigitChars_ten_toDigits
    have back : -(value.natAbs : Int) = value := by omega
    rw [pyInt_of_filled (plain_signedDecimal value).filled,signedDecimal,if_pos negative]
    simp only [digits]
    exact congrArg Except.ok back
  · rw [signedDecimal,if_neg negative,pyInt_decimal,Int.toNat_of_nonneg (by omega)]

end Numbers

section Lines

/-- The text of a log, a line after the other. -/
def textOf (lines : List PyStr) : PyStr := lines.flatMap (· ++ ['\n'])

def Unbroken (line : PyStr) : Prop := ∀ c ∈ line, isLineBreak c = false

theorem Unbroken.of_all {line : PyStr} (unbroken : (line.all fun c => !isLineBreak c) = true) : Unbroken line :=
  fun c member => (Bool.not_eq_true' _).mp (List.all_eq_true.mp unbroken c member)

theorem isLineBreak_of_not_isSpace {c : Char} (filled : isSpace c = false) : isLineBreak c = false := by
  simp only [isSpace,Bool.or_eq_false_iff,Bool.and_eq_false_iff,decide_eq_false_iff_not,beq_eq_false_iff_ne] at filled
  simp only [isLineBreak,Bool.or_eq_false_iff,Bool.and_eq_false_iff,decide_eq_false_iff_not,beq_eq_false_iff_ne]
  omega

theorem splitlinesFrom_line {line : PyStr} (unbroken : Unbroken line) (front rest : PyStr) :
    splitlinesFrom front (line ++ '\n' :: rest) = (front ++ line) :: splitlinesFrom [] rest := by
  induction line generalizing front with
  | nil => simp [splitlinesFrom,isLineBreak]
  | cons c line ih =>
    have plain := unbroken c List.mem_cons_self
    have later := ih (fun other member => unbroken other (List.mem_cons_of_mem _ member)) (front ++ [c])
    have other : ∀ behind, c = '\r' → line ++ '\n' :: rest = '\n' :: behind → False := by
      rintro _ rfl
      cases plain
    rw [List.cons_append,splitlinesFrom,if_neg (by simp [plain]),later]
    · simp
    · exact other

theorem splitlines_textOf {lines : List PyStr} (unbroken : ∀ line ∈ lines, Unbroken line) :
    splitlines (textOf lines) = lines := by
  induction lines with
  | nil => rfl
  | cons line rest ih =>
    have later := ih fun other member => unbroken other (List.mem_cons_of_mem _ member)
    rw [splitlines] at later ⊢
    rw [textOf,List.flatMap_cons,List.append_assoc,List.cons_append,List.nil_append,
      splitlinesFrom_line (unbroken line List.mem_cons_self),List.nil_append]
    exact congrArg _ later

end Lines

section Patterns

structure Setting (pair : PyStr × PyStr) : Prop where
  worded : (pair.1 ≠ [] && pair.1.all fun c => c.isAlphanum || c == '_') = true
  filled : Filled pair.2

theorem Setting.name {pair : PyStr × PyStr} (setting : Setting pair) {c : Char} (member : c ∈ pair.1) :
    (c.isAlphanum || c == '_') = true ∧ isPlain c = true := by
  have worded := List.all_eq_true.mp (Bool.and_eq_true_iff.mp setting.worded).2 c member
  refine ⟨worded,?_⟩
  rw [isPlain,Bool.or_right_comm,worded,Bool.true_or]

theorem Setting.readable {pair : PyStr × PyStr} (setting : Setting pair) : Readable u.word isSpace pair := by
  refine ⟨by simpa using (Bool.and_eq_true_iff.mp setting.worded).1,setting.filled.nonempty,fun c member => ?_,
    setting.filled.filled⟩
  obtain ⟨worded,plain⟩ := setting.name member
  rw [Unicode.word,if_pos (isPlain_bounds plain).2.1,worded]

theorem unbroken_written {pairs : List (PyStr × PyStr)} (settings : ∀ pair ∈ pairs, Setting pair) :
    Unbroken (written '=' ' ' pairs) := by
  intro c member
  rcases mem_written member with rfl | rfl | ⟨pair,inside,name | value⟩
  · rfl
  · rfl
  · obtain ⟨low,high,-⟩ := isPlain_bounds ((settings pair inside).name name).2
    exact isLineBreak_of_not_isSpace (isSpace_of_between (by omega) high)
  · exact isLineBreak_of_not_isSpace ((settings pair inside).filled.filled c value)

theorem fields_written {pairs : List (PyStr × PyStr)} (settings : ∀ pair ∈ pairs, Setting pair)
    (distinct : (pairs.map Prod.fst).Nodup) : fields u (written '=' ' ' pairs) = pairs := by
  rw [fields,settings_written rfl rfl rfl fun pair member => (settings pair member).readable]
  exact Dicts.setAll_of_distinct distinct

/-- No bracket is written of plain settings, whatever the last one is. -/
theorem bracket_written {pairs : List (PyStr × PyStr)} (settings : ∀ pair ∈ pairs, Setting pair)
    (plain : ∀ pair ∈ pairs, '[' ∉ pair.2) : '[' ∉ written '=' ' ' pairs := by
  intro member
  rcases mem_written member with same | same | ⟨pair,inside,name | value⟩
  · cases same
  · cases same
  · exact (isPlain_bounds ((settings pair inside).name name).2).2.2.1 rfl
  · exact plain pair inside value

theorem status_cases {text rest name : PyStr} (found : status text = some (name,rest)) :
    ∃ front, text = front ++ rest := by
  rw [status,Option.or_eq_some_iff] at found
  rcases found with ok | ⟨_,failed⟩
  · obtain ⟨rest,dropped,⟨⟩⟩ := Option.map_eq_some_iff.mp ok
    obtain ⟨front,rfl,_⟩ := List.dropPrefix?_eq_some_iff.mp dropped
    exact ⟨front,rfl⟩
  · obtain ⟨rest,dropped,⟨⟩⟩ := Option.map_eq_some_iff.mp failed
    obtain ⟨front,rfl,_⟩ := List.dropPrefix?_eq_some_iff.mp dropped
    exact ⟨front,rfl⟩

theorem requester_contains : Contains (requester u) ' ' := by
  intro text without
  rw [requester]
  cases found : status text with
  | none => rfl
  | some both =>
    obtain ⟨name,rest⟩ := both
    obtain ⟨front,rfl⟩ := status_cases found
    have missing : rest.dropPrefix? "] bsd_system_udp_workload | sent=".toList = none :=
      dropPrefix?_contains (by decide) rest fun member => without (List.mem_append_right _ member)
    simp only [Option.bind_eq_bind,Option.bind_some,missing,Option.bind_none]

theorem requester_of_status {text : PyStr} (none : status text = none) : requester u text = .none := by
  rw [requester,none]
  rfl

theorem requester_begins : Begins (requester u) '[' := by
  intro first rest other
  refine requester_of_status ?_
  have ok : (first :: rest).dropPrefix? "[OK".toList = none := dropPrefix?_begins '[' "OK".toList first rest other
  have failed : (first :: rest).dropPrefix? "[FAIL".toList = none := dropPrefix?_begins '[' "FAIL".toList first rest other
  rw [status,ok,failed]
  rfl

/-- Behind the bracket stands the status. -/
theorem requester_bracket {c : Char} (ok : c ≠ 'O') (failed : c ≠ 'F') (rest : PyStr) :
    requester u ('[' :: c :: rest) = none := by
  refine requester_of_status ?_
  have first : (c :: rest).dropPrefix? "OK".toList = none := dropPrefix?_begins 'O' ['K'] c rest ok
  have second : (c :: rest).dropPrefix? "FAIL".toList = none := dropPrefix?_begins 'F' "AIL".toList c rest failed
  have behind : status ('[' :: c :: rest) = (((c :: rest).dropPrefix? "OK".toList).map ("OK".toList,·)).or
      (((c :: rest).dropPrefix? "FAIL".toList).map ("FAIL".toList,·)) := rfl
  rw [behind,first,second]
  rfl

theorem metrics_begins : Begins requesterMetrics '[' := dropPrefix?_begins '[' "udp-workload-summary] ".toList
theorem metrics_contains : Contains requesterMetrics ' ' := dropPrefix?_contains (by decide)

theorem metrics_bracket {c : Char} (other : c ≠ 'u') (rest : PyStr) : requesterMetrics ('[' :: c :: rest) = none :=
  dropPrefix?_begins 'u' "dp-workload-summary] ".toList c rest other

/-- A pattern that begins with a bracket and has a blank is not found behind the mark of a line. -/
theorem search_settings_none {β : Type} {matchAt : PyStr → Option β} (begins : Begins matchAt '[')
    (contains : Contains matchAt ' ') {front : PyStr} (plain : '[' ∉ front) {value : PyStr}
    (filled : ∀ c ∈ value, isSpace c = false) : search matchAt (front ++ value) = none := by
  rw [begins.skip plain]
  refine contains.search_none fun member => ?_
  cases filled ' ' member

theorem search_harness (detail : PyStr) : search harness ("[udp-summary] ".toList ++ detail) = some detail :=
  search_here (List.dropPrefix?_append_of_beq _ BEq.rfl)

theorem metrics_summary (detail : PyStr) : requesterMetrics ("[udp-summary] ".toList ++ detail) = none := by
  have other : ("summary] ".toList ++ detail).dropPrefix? "workload-summary] ".toList = none :=
    dropPrefix?_begins 'w' "orkload-summary] ".toList 's' _ (by decide)
  exact other

end Patterns

section Rows

variable {quotient : Int → Int → Except PyError PyStr}

theorem getText_cons (name other : String) (value : PyStr) (rest : Row) :
    getText name ((other.toList,value) :: rest) = if name = other then some value else getText name rest := by
  rw [getText,Dicts.get_cons]
  simp only [String.toList_inj]
  rfl

@[simp] theorem getText_nil (name : String) : getText name [] = none := rfl

theorem getText_append (name : String) (row more : Row) :
    getText name (row ++ more) = (getText name row).or (getText name more) := Dicts.get_append _ _ _

theorem setText_new {name : String} {row : Row} (new : name.toList ∉ row.map Prod.fst) (value : PyStr) :
    setText name value row = row ++ [(name.toList,value)] := Dicts.set_of_new new value

theorem isSome_getText {name : String} {row : Row} :
    (getText name row).isSome = true ↔ name.toList ∈ row.map Prod.fst := by
  induction row with
  | nil => simp
  | cons pair row ih =>
    obtain ⟨key,value⟩ := pair
    rw [getText,Dicts.get_cons,List.map_cons,List.mem_cons]
    by_cases same : name.toList = key
    · simp [same]
    · rw [if_neg same]
      exact ih.trans (or_iff_right same).symm

theorem setdefault_held {name : String} {row : Row} (held : name.toList ∈ row.map Prod.fst) (value : PyStr) :
    setdefault name value row = row := if_pos (isSome_getText.mpr held)

theorem setdefault_new {name : String} {row : Row} (new : name.toList ∉ row.map Prod.fst) (value : PyStr) :
    setdefault name value row = row ++ [(name.toList,value)] :=
  (if_neg fun held => new (isSome_getText.mp held)).trans (setText_new new value)

/-- A row with a workload and a flow lacks only the label of its run. -/
theorem withDefaults_run {label : PyStr} {row : Row} (run : "run".toList ∉ row.map Prod.fst)
    (workload : "workload".toList ∈ row.map Prod.fst) (flow : "flow".toList ∈ row.map Prod.fst) :
    withDefaults label row = row ++ [("run".toList,label)] := by
  have held (name : PyStr) (member : name ∈ row.map Prod.fst) : name ∈ (row ++ [("run".toList,label)]).map Prod.fst := by
    rw [List.map_append]
    exact List.mem_append_left _ member
  rw [withDefaults,setdefault_new run,setdefault_held (held _ workload)]
  exact setdefault_held (held _ flow) _

theorem pop_first {default own : PyStr} {rest : Row} (single : "kind".toList ∉ rest.map Prod.fst) :
    pop "kind" default (("kind".toList,own) :: rest) = (own,rest) := by
  have kept : rest.filter (fun pair => pair.1 ≠ "kind".toList) = rest :=
    List.filter_eq_self.mpr fun pair member =>
      decide_eq_true fun same => single (same ▸ List.mem_map.mpr ⟨pair,member,rfl⟩)
  rw [pop,getText_cons,if_pos rfl,List.filter_cons_of_neg (by simp),kept]
  rfl

end Rows

section Measured

variable {quotient : Int → Int → Except PyError PyStr} {label own : PyStr} {kind rateName byteCount elapsedNs : String}
  {rest : Row} {rate : Option PyStr}

def rateNames : List String := ["submission_rate_mb_s","receiver_goodput_mb_s"]

theorem rateNames_apart : ∀ name ∈ rateNames, name ∉ ["kind","workload_kind"] ∧ name ≠ "run" := by decide

/-- Settings that have what a row needs, and none of the names that the tool sets in it. -/
structure Open (rateName : String) (names : List PyStr) : Prop where
  distinct : names.Nodup
  new : ∀ name ∈ ["kind","workload_kind",rateName,"run"], name.toList ∉ names
  workload : "workload".toList ∈ names
  flow : "flow".toList ∈ names

/-- The rate of so many bytes in that time, where there is one. -/
def rateOf (quotient : Int → Int → Except PyError PyStr) (bytes elapsed : Int) : Except PyError (Option PyStr) :=
  if elapsed = 0 then .ok none else (quotient (bytes * 1000) elapsed).map some

def kinds (own : PyStr) (kind : String) : Row := [("workload_kind".toList,own),("kind".toList,kind.toList)]

def rateSetting (name : String) (rate : Option PyStr) : Row := rate.elim [] fun value => [(name.toList,value)]

def measured (label own : PyStr) (kind rateName : String) (rest : Row) (rate : Option PyStr) : Row :=
  rest ++ (kinds own kind ++ (rateSetting rateName rate ++ [("run".toList,label)]))

theorem rateMbS_read {byteText elapsedText : PyStr} {bytes elapsed : Int} (first : pyInt u byteText = .ok bytes)
    (second : pyInt u elapsedText = .ok elapsed) :
    rateMbS u quotient (some byteText) (some elapsedText) = rateOf quotient bytes elapsed := by
  rw [rateMbS,rateOf,first,second]
  by_cases still : elapsed = 0
  · subst still
    rfl
  · rw [if_neg still]
    exact if_neg still

/-- How settings are made a row, and which. -/
theorem measuredRow_eq (named : rateName ∈ rateNames) (settings : ∀ pair ∈ ("kind".toList,own) :: rest, Setting pair)
    (names : Open rateName (rest.map Prod.fst)) {byteText elapsedText : PyStr} {bytes elapsed : Int}
    (byte : (byteCount.toList,byteText) ∈ rest) (time : (elapsedNs.toList,elapsedText) ∈ rest)
    (first : pyInt u byteText = .ok bytes) (second : pyInt u elapsedText = .ok elapsed) :
    (measuredRow u quotient kind byteCount elapsedNs rateName (written '=' ' ' (("kind".toList,own) :: rest))).map
      (withDefaults label) = (rateOf quotient bytes elapsed).map (measured label own kind rateName rest) := by
  have new := names.new
  simp only [List.forall_mem_cons] at new
  obtain ⟨newKind,newWorkloadKind,newRate,newRun,-⟩ := new
  have read : fields u (written '=' ' ' (("kind".toList,own) :: rest)) = ("kind".toList,own) :: rest :=
    fields_written settings (List.nodup_cons.mpr ⟨newKind,names.distinct⟩)
  have apart (name : String) (new : name.toList ∉ rest.map Prod.fst) (other : name ∉ ["kind","workload_kind"]) :
      name.toList ∉ (rest ++ kinds own kind).map Prod.fst := by
    rw [List.map_append,List.mem_append,not_or]
    refine ⟨new,fun member => other ?_⟩
    rcases List.mem_cons.mp member with same | same
    · exact String.toList_inj.mp same ▸ List.mem_cons_of_mem _ List.mem_cons_self
    · exact String.toList_inj.mp (List.mem_singleton.mp same) ▸ List.mem_cons_self
  have newKinds : "kind".toList ∉ (rest ++ [("workload_kind".toList,own)]).map Prod.fst := by
    rw [List.map_append,List.mem_append,not_or]
    have other : "kind".toList ∉ ["workload_kind".toList] := by decide
    exact ⟨newKind,other⟩
  have base : setText "kind" kind.toList (setText "workload_kind" own rest) = rest ++ kinds own kind := by
    rw [setText_new newWorkloadKind,setText_new newKinds,List.append_assoc]
    rfl
  have bytesHeld : getText byteCount (rest ++ kinds own kind) = some byteText := by
    rw [getText_append,getText,Dicts.get_of_mem names.distinct byte,Option.some_or]
  have timeHeld : getText elapsedNs (rest ++ kinds own kind) = some elapsedText := by
    rw [getText_append,getText,Dicts.get_of_mem names.distinct time,Option.some_or]
  obtain ⟨others,unrun⟩ := rateNames_apart rateName named
  have rated (value : PyStr) : setText rateName value (rest ++ kinds own kind) =
      rest ++ kinds own kind ++ rateSetting rateName (some value) := setText_new (apart rateName newRate others) value
  have whole (rate : Option PyStr) : withDefaults label (rest ++ kinds own kind ++ rateSetting rateName rate) =
      measured label own kind rateName rest rate := by
    have held (name : PyStr) (member : name ∈ rest.map Prod.fst) :
        name ∈ (rest ++ kinds own kind ++ rateSetting rateName rate).map Prod.fst := by
      rw [List.append_assoc,List.map_append]
      exact List.mem_append_left _ member
    rw [withDefaults_run ?_ (held _ names.workload) (held _ names.flow),measured,List.append_assoc,List.append_assoc]
    rw [List.map_append,List.mem_append,not_or]
    refine ⟨apart "run" newRun (by decide),fun member => unrun ?_⟩
    cases rate with
    | none => cases member
    | some value => exact String.toList_inj.mp (List.mem_singleton.mp member).symm
  rw [measuredRow,read,pop_first newKind]
  dsimp only
  rw [base,bytesHeld,timeHeld,rateMbS_read first second]
  cases rateOf quotient bytes elapsed with
  | error failure => rfl
  | ok rate =>
    cases rate with
    | none => exact congrArg Except.ok ((congrArg (withDefaults label) (List.append_nil _).symm).trans (whole none))
    | some value => exact congrArg Except.ok ((congrArg (withDefaults label) (rated value)).trans (whole (some value)))

theorem measured_rest (names : Open rateName (rest.map Prod.fst)) (i : Nat) {name : String} {value : PyStr}
    (stands : rest[i]? = some (name.toList,value)) :
    getText name (measured label own kind rateName rest rate) = some value := by
  rw [measured,getText_append,getText,Dicts.get_of_mem names.distinct (List.mem_of_getElem? stands),Option.some_or]

theorem counter_of_text {read : Row} {name : String} {text : PyStr} {value : Int} (found : getText name read = some text)
    (same : pyInt u text = .ok value) : counter u read name = .ok value := by
  rw [counter,item,found]
  exact same

theorem measured_behind {name : String} (new : name.toList ∉ rest.map Prod.fst) :
    getText name (measured label own kind rateName rest rate) = (getText name (kinds own kind)).or
      ((getText name (rateSetting rateName rate)).or (getText name [("run".toList,label)])) := by
  have nowhere := Option.not_isSome_iff_eq_none.mp fun held => new (isSome_getText.mp held)
  rw [measured,getText_append,nowhere,Option.none_or,getText_append,getText_append]

structure Told (label own : PyStr) (kind rateName : String) (rate : Option PyStr) (read : Row) : Prop where
  kind : getText "kind" read = some kind.toList
  workloadKind : getText "workload_kind" read = some own
  rate : getText rateName read = rate
  run : getText "run" read = some label

theorem told_measured (named : rateName ∈ rateNames) (names : Open rateName (rest.map Prod.fst)) :
    Told label own kind rateName rate (measured label own kind rateName rest rate) := by
  have new := names.new
  simp only [List.forall_mem_cons] at new
  obtain ⟨newKind,newWorkloadKind,newRate,newRun,-⟩ := new
  constructor
  case kind =>
    rw [measured_behind newKind]
    simp only [kinds,getText_cons,String.reduceEq,if_true,if_false,Option.some_or]
  case workloadKind =>
    rw [measured_behind newWorkloadKind]
    simp only [kinds,getText_cons,if_true,Option.some_or]
  case rate =>
    rw [measured_behind newRate]
    simp only [rateNames,List.mem_cons,List.not_mem_nil,or_false] at named
    rcases named with rfl | rfl <;> cases rate <;> simp only [kinds,rateSetting,Option.elim,getText_cons,getText_nil,
      String.reduceEq,if_true,if_false,Option.none_or,Option.some_or]
  case run =>
    rw [measured_behind newRun]
    simp only [rateNames,List.mem_cons,List.not_mem_nil,or_false] at named
    rcases named with rfl | rfl <;> cases rate <;> simp only [kinds,rateSetting,Option.elim,getText_cons,getText_nil,
      String.reduceEq,if_true,if_false,Option.none_or]

end Measured

section Reading

variable {quotient : Int → Int → Except PyError PyStr} {label : PyStr}

def readLine (u : Unicode) (quotient : Int → Int → Except PyError PyStr) (label line : PyStr) :
    Except PyError (Option Row) :=
  (rowForLine u quotient line).map (Option.map (withDefaults label))

theorem mapM_of_forall₂ {α β : Type} {f : α → Except PyError β} {l : List α} {results : List β}
    (each : List.Forall₂ (fun a b => f a = .ok b) l results) : l.mapM f = .ok results := by
  induction each with
  | nil => rfl
  | cons here _ ih =>
    rw [List.mapM_cons,here,ih]
    rfl

theorem mapM_map {α β γ : Type} (f : α → Except PyError β) (g : β → γ) (l : List α) :
    (l.mapM fun a => (f a).map g) = (l.mapM f).map (List.map g) := by
  induction l with
  | nil => rfl
  | cons a rest ih =>
    rw [List.mapM_cons,List.mapM_cons,ih]
    cases f a with
    | error failure => rfl
    | ok value => cases rest.mapM f <;> rfl

/-- A log is read a line at a time. -/
theorem rowsForFile_textOf {lines : List PyStr} (unbroken : ∀ line ∈ lines, Unbroken line) :
    rowsForFile u quotient (textOf lines) label =
      (lines.mapM (readLine u quotient label)).map (List.filterMap id) := by
  have reads : lines.mapM (readLine u quotient label) =
      (lines.mapM (rowForLine u quotient)).map (List.map (Option.map (withDefaults label))) := mapM_map _ _ lines
  rw [rowsForFile,splitlines_textOf unbroken,reads]
  cases lines.mapM (rowForLine u quotient) with
  | error failure => rfl
  | ok rows =>
    refine congrArg Except.ok ?_
    rw [List.filterMap_map,List.map_filterMap]
    rfl

theorem rowsForFile_append {first second : List PyStr} (unbroken : ∀ line ∈ first ++ second, Unbroken line)
    {front back : List Row} (fronts : rowsForFile u quotient (textOf first) label = .ok front)
    (backs : rowsForFile u quotient (textOf second) label = .ok back) :
    rowsForFile u quotient (textOf (first ++ second)) label = .ok (front ++ back) := by
  obtain ⟨before,after⟩ := List.forall_mem_append.mp unbroken
  rw [rowsForFile_textOf before] at fronts
  rw [rowsForFile_textOf after] at backs
  rw [rowsForFile_textOf unbroken,List.mapM_append]
  cases read : first.mapM (readLine u quotient label) with
  | error failure =>
    rw [read] at fronts
    cases fronts
  | ok rows =>
    cases later : second.mapM (readLine u quotient label) with
    | error failure =>
      rw [later] at backs
      cases backs
    | ok more =>
      rw [read] at fronts
      rw [later] at backs
      cases fronts
      cases backs
      exact congrArg Except.ok List.filterMap_append

/-- A line whose pattern makes a row. -/
theorem readLine_of_made {line : PyStr} {x : Except PyError Row} (found : rowForLine u quotient line = x.map some)
    {rate : Except PyError (Option PyStr)} {row : Option PyStr → Row} (made : x.map (withDefaults label) = rate.map row) :
    readLine u quotient label line = rate.map fun rate => some (row rate) := by
  rw [readLine,found]
  cases x with
  | error failure =>
    cases rate with
    | error other => exact congrArg Except.error (Except.error.inj made)
    | ok rate => cases made
  | ok value =>
    cases rate with
    | error other => cases made
    | ok rate => exact congrArg (fun row => Except.ok (some row)) (Except.ok.inj made)

/-- A line that is read as this row. -/
def ReadAs (u : Unicode) (quotient : Int → Int → Except PyError PyStr) (label line : PyStr) (row : Row) : Prop :=
  Unbroken line ∧ readLine u quotient label line = .ok (some row)

theorem rowsForFile_of_readAs {lines : List PyStr} {rows : List Row}
    (reads : List.Forall₂ (ReadAs u quotient label) lines rows) :
    rowsForFile u quotient (textOf lines) label = .ok rows := by
  have unbroken : ∀ line ∈ lines, Unbroken line := by
    induction reads with
    | nil => exact List.forall_mem_nil _
    | cons read _ ih => exact List.forall_mem_cons.mpr ⟨read.1,ih⟩
  have all : lines.mapM (readLine u quotient label) = .ok (rows.map some) :=
    mapM_of_forall₂ (List.forall₂_map_right_iff.mpr (reads.imp fun _ _ read => read.2))
  rw [rowsForFile_textOf unbroken,all]
  refine congrArg Except.ok ?_
  rw [List.filterMap_map]
  exact List.filterMap_some

end Reading

end NxReverse.Tools.Reports
