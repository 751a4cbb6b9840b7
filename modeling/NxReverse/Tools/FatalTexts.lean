import NxReverse.Tools.FatalReports

/-! What is printed of a fatal report, read as a report again: the pattern finds the registers that were printed, and
nothing in the lines around them. -/
namespace NxReverse.Tools.Fatal

open Text Words Dicts Reports

theorem mem_toDigits {c : Char} {value : Nat} (member : c ∈ Nat.toDigits 16 value) :
    ∃ digit < 16, c = Nat.digitChar digit := by
  induction value using Nat.strongRecOn with
  | ind value ih =>
    by_cases small : value < 16
    · rw [Nat.toDigits_of_lt_base small,List.mem_singleton] at member
      exact ⟨value,small,member⟩
    · rw [Nat.toDigits_of_base_le (by decide) (by omega),List.mem_append,List.mem_singleton] at member
      rcases member with front | last
      · exact ih (value / 16) (by omega) front
      · exact ⟨value % 16,Nat.mod_lt _ (by decide),last⟩

theorem isHexDigit_of_mem {c : Char} {value : Nat} (member : c ∈ Nat.toDigits 16 value) : isHexDigit c = true := by
  obtain ⟨digit,small,rfl⟩ := mem_toDigits member
  have all : ∀ digit < 16, isHexDigit (Nat.digitChar digit) = true := by decide
  exact all digit small

/-- What `hex` prints is what `parse_hex` reads. -/
theorem parseHex_toDigits (value : Nat) : parseHex (Nat.toDigits 16 value) = value := by
  induction value using Nat.strongRecOn with
  | ind value ih =>
    have digits : ∀ digit < 16, hexValue (Nat.digitChar digit) = digit := by decide
    by_cases small : value < 16
    · rw [Nat.toDigits_of_lt_base small,parseHex,List.foldl_cons,List.foldl_nil,digits value small,Nat.zero_mul,Nat.zero_add]
    · have front := ih (value / 16) (by omega)
      rw [parseHex] at front
      rw [Nat.toDigits_of_base_le (by decide) (by omega),parseHex,List.foldl_append,front,List.foldl_cons,List.foldl_nil,
        digits _ (Nat.mod_lt _ (by decide))]
      omega

def starts : List Char := ['P','L','F','S','E']

def Quiet (text : PyStr) : Prop := ∀ c ∈ text, c ∉ starts

theorem Quiet.of_all {text : PyStr} (all : text.all (fun c => !starts.contains c) = true) : Quiet text := by
  intro c member
  simpa using List.all_eq_true.mp all c member

theorem Quiet.append {first second : PyStr} (before : Quiet first) (behind : Quiet second) : Quiet (first ++ second) :=
  fun c member => (List.mem_append.mp member).elim (before c) (behind c)

theorem quiet_digit : ∀ digit < 16, Nat.digitChar digit ∉ starts := by decide

theorem quiet_hex (value : Nat) : Quiet (hex value) := by
  refine Quiet.append (.of_all (by decide)) fun c member => ?_
  obtain ⟨digit,small,rfl⟩ := mem_toDigits member
  exact quiet_digit digit small

theorem quiet_decimal (value : Nat) : Quiet (decimal value) := by
  intro c member begins
  have none : starts.all (fun c => !c.isDigit) = true := by decide
  have other := List.all_eq_true.mp none c begins
  rw [isDigit_of_mem_decimal member] at other
  cases other

section Silence

variable (u : Unicode)

theorem registerAt_other {c : Char} (other : c ∉ starts) (rest : PyStr) : registerAt u (c :: rest) = none := by
  simp only [starts,List.mem_cons,List.not_mem_nil,or_false,not_or] at other
  obtain ⟨p,l,f,s,e⟩ := other
  have pc : (c :: rest).dropPrefix? "PC".toList = none := KeyValues.dropPrefix?_begins 'P' "C".toList c rest p
  have lr : (c :: rest).dropPrefix? "LR".toList = none := KeyValues.dropPrefix?_begins 'L' "R".toList c rest l
  have far : (c :: rest).dropPrefix? "FAR".toList = none := KeyValues.dropPrefix?_begins 'F' "AR".toList c rest f
  have sp : (c :: rest).dropPrefix? "SP".toList = none := KeyValues.dropPrefix?_begins 'S' "P".toList c rest s
  have esr : (c :: rest).dropPrefix? "ESR".toList = none := KeyValues.dropPrefix?_begins 'E' "SR".toList c rest e
  rw [registerAt,registerNames]
  simp only [List.findSome?_cons,pc,lr,far,sp,esr,Option.bind_none,List.findSome?_nil]

theorem registersFrom_other {c : Char} (other : c ∉ starts) (within : Bool) (rest : PyStr) :
    registersFrom u 0 within (c :: rest) = registersFrom u 0 (u.word c) rest := by
  rw [registersFrom,registerAt_other u other,ite_self]

theorem registersFrom_across {text : PyStr} (quiet : Quiet text) (within : Bool) (rest : PyStr) :
    ∃ last, registersFrom u 0 within (text ++ rest) = registersFrom u 0 last rest := by
  induction text generalizing within with
  | nil => exact ⟨within,rfl⟩
  | cons c text ih =>
    rw [List.cons_append,registersFrom_other u (quiet c List.mem_cons_self)]
    exact ih (fun c member => quiet c (List.mem_cons_of_mem _ member)) _

/-- What is found behind a quiet end of a line starts afresh. -/
theorem registersFrom_quiet {line : PyStr} (quiet : Quiet line) (within : Bool) (rest : PyStr) :
    registersFrom u 0 within (line ++ '\n' :: rest) = registersFrom u 0 false rest := by
  obtain ⟨last,ends⟩ := registersFrom_across u quiet within ('\n' :: rest)
  rw [ends]
  exact registersFrom_other u (by decide) last rest

/-- What is found in these lines, at the start of a line and with anything behind them. -/
def Tells (lines : List PyStr) (found : List (PyStr × PyStr)) : Prop :=
  ∀ rest, registersFrom u 0 false (textOf lines ++ rest) = found ++ registersFrom u 0 false rest

def Label (label : PyStr) : Prop :=
  ∀ rest, ∃ within, registersFrom u 0 false (label ++ rest) = registersFrom u 0 within rest

variable {u}

theorem tells_nil : Tells u [] [] := fun _ => rfl

theorem Tells.append {first second : List PyStr} {before behind : List (PyStr × PyStr)} (one : Tells u first before)
    (two : Tells u second behind) : Tells u (first ++ second) (before ++ behind) := by
  intro rest
  rw [textOf,List.flatMap_append,List.append_assoc,← textOf,← textOf,one,two,List.append_assoc]

theorem Tells.flatMap {α : Type} {items : List α} {lines : α → List PyStr} {found : α → List (PyStr × PyStr)}
    (each : ∀ item ∈ items, Tells u (lines item) (found item)) : Tells u (items.flatMap lines) (items.flatMap found) := by
  induction items with
  | nil => exact tells_nil
  | cons item items ih =>
    exact (each item List.mem_cons_self).append (ih fun item member => each item (List.mem_cons_of_mem _ member))

/-- A label and a quiet end of its line. -/
theorem Label.tells {label line : PyStr} (starts : Label u label) (quiet : Quiet line) : Tells u [label ++ line] [] := by
  intro rest
  have text : textOf [label ++ line] ++ rest = label ++ (line ++ '\n' :: rest) := by
    rw [textOf,List.flatMap_singleton,List.append_assoc,List.append_assoc]
    rfl
  obtain ⟨within,begins⟩ := starts (line ++ '\n' :: rest)
  rw [text,begins,registersFrom_quiet u quiet]
  rfl

theorem Label.append {label text : PyStr} (starts : Label u label) (quiet : Quiet text) : Label u (label ++ text) := by
  intro rest
  obtain ⟨within,begins⟩ := starts (text ++ rest)
  obtain ⟨last,ends⟩ := registersFrom_across u quiet within rest
  exact ⟨last,by rw [List.append_assoc,begins,ends]⟩

theorem label_slide : Label u "Slide: ".toList := fun _ => ⟨_,rfl⟩
theorem label_errorDesc : Label u "ERROR_DESC".toList := fun _ => ⟨_,rfl⟩
theorem label_moduleBase : Label u "MODULE_BASE".toList := fun _ => ⟨_,rfl⟩
theorem label_traceSize : Label u "STACK_TRACE_SIZE: ".toList := fun _ => ⟨_,rfl⟩
theorem label_traceDecoded : Label u "STACK_TRACE_DECODED: ".toList := fun _ => ⟨_,rfl⟩
theorem label_frame : Label u "STACK_TRACE[".toList := fun _ => ⟨_,rfl⟩
theorem label_pc : Label u ("PC".toList ++ ['-']) := fun _ => ⟨_,rfl⟩
theorem label_lr : Label u ("LR".toList ++ ['-']) := fun _ => ⟨_,rfl⟩

end Silence

section Registers

variable {u : Unicode} {name : PyStr}

theorem registersFrom_skip (front : PyStr) (within : Bool) (rest : PyStr) :
    ∃ last, registersFrom u front.length within (front ++ rest) = registersFrom u 0 last rest := by
  induction front generalizing within with
  | nil => exact ⟨within,rfl⟩
  | cons c front ih => exact ih (u.word c)

theorem registerValue_hex (name : PyStr) (value : Nat) (rest : PyStr) :
    registerValue name (":".toList ++ (" ".toList ++ (hex value ++ '\n' :: rest))) =
      some ⟨name,Nat.toDigits 16 value,'\n' :: rest⟩ := by
  have all : ∀ c ∈ Nat.toDigits 16 value, isHexDigit c = true := fun c member => isHexDigit_of_mem member
  have digits : (Nat.toDigits 16 value ++ '\n' :: rest).takeWhile isHexDigit = Nat.toDigits 16 value := by
    rw [List.takeWhile_append_of_pos all,List.takeWhile_cons_of_neg (by decide),List.append_nil]
  have behind : (Nat.toDigits 16 value ++ '\n' :: rest).dropWhile isHexDigit = '\n' :: rest := by
    rw [List.dropWhile_append_of_pos all,List.dropWhile_cons_of_neg (by decide)]
  have number : ((":".toList ++ (" ".toList ++ (hex value ++ '\n' :: rest))).tail.dropWhile isSpace).dropPrefix?
      "0x".toList = some (Nat.toDigits 16 value ++ '\n' :: rest) := by
    have blank : (":".toList ++ (" ".toList ++ (hex value ++ '\n' :: rest))).tail.dropWhile isSpace =
        '0' :: 'x' :: (Nat.toDigits 16 value ++ '\n' :: rest) := rfl
    rw [blank]
    exact List.dropPrefix?_eq_some_iff.mpr ⟨"0x".toList,rfl,beq_self_eq_true _⟩
  rw [registerValue,if_pos (.inl rfl),number,Option.bind_some,hexDigits,digits,behind,if_neg Nat.toDigits_ne_nil]

theorem findSome?_only {α β : Type} [DecidableEq α] {f : α → Option β} {items : List α} {item : α} {value : β}
    (only : ∀ other ∈ items, f other = if other = item then some value else none) (member : item ∈ items) :
    items.findSome? f = some value := by
  induction items with
  | nil => cases member
  | cons first items ih =>
    rw [List.findSome?_cons,only first List.mem_cons_self]
    by_cases here : first = item
    · rw [if_pos here]
    · rw [if_neg here]
      exact ih (fun other member => only other (List.mem_cons_of_mem _ member))
        ((List.mem_cons.mp member).resolve_left (Ne.symm here))

/-- The pattern matches behind the name of a register as it would without the other names. -/
theorem registerAt_name (known : name ∈ registerNames) {rest : PyStr} {found : RegisterMatch}
    (value : registerValue name (":".toList ++ rest) = some found) :
    registerAt u (name ++ (":".toList ++ rest)) = some found := by
  have only : ∀ other ∈ registerNames, (name ++ (":".toList ++ rest)).dropPrefix? other =
      if other = name then some (":".toList ++ rest) else none := by
    intro other member
    simp only [registerNames,List.mem_cons,List.not_mem_nil,or_false] at known member
    rcases known with rfl | rfl | rfl | rfl | rfl <;> rcases member with rfl | rfl | rfl | rfl | rfl <;> rfl
  refine findSome?_only (fun other member => ?_) known
  rw [only other member]
  by_cases same : other = name
  · rw [if_pos same,if_pos same,same]
    exact value
  · rw [if_neg same,if_neg same]
    rfl

theorem tells_register (known : name ∈ registerNames) (value : Nat) :
    Tells u [name ++ ": ".toList ++ hex value] [(name,Nat.toDigits 16 value)] := by
  intro rest
  have text : textOf [name ++ ": ".toList ++ hex value] ++ rest =
      name ++ (":".toList ++ (" ".toList ++ (hex value ++ '\n' :: rest))) := by
    rw [textOf,List.flatMap_singleton,List.append_assoc,List.append_assoc,List.append_assoc]
    rfl
  have found := registerAt_name (u := u) known (registerValue_hex name value rest)
  have some : name ≠ [] := by
    rintro rfl
    exact absurd known (by decide)
  obtain ⟨first,name,rfl⟩ := List.exists_cons_of_ne_nil some
  have skipped : (name ++ (":".toList ++ (" ".toList ++ (hex value ++ '\n' :: rest)))).length - ('\n' :: rest).length =
      (name ++ (":".toList ++ (" ".toList ++ hex value))).length := by
    simp only [List.length_append,List.length_cons]
    omega
  have behind : name ++ (":".toList ++ (" ".toList ++ (hex value ++ '\n' :: rest))) =
      (name ++ (":".toList ++ (" ".toList ++ hex value))) ++ '\n' :: rest := by
    simp only [List.append_assoc]
  obtain ⟨last,ends⟩ := registersFrom_skip (u := u) (name ++ (":".toList ++ (" ".toList ++ hex value))) (u.word first)
    ('\n' :: rest)
  rw [text,List.cons_append,registersFrom,if_neg Bool.false_ne_true]
  rw [List.cons_append] at found
  rw [found]
  refine congrArg (_ :: ·) ?_
  rw [skipped,behind,ends]
  exact registersFrom_other u (by decide) last rest

/-- The second line of an address begins with `-`, which no match has behind its name. -/
theorem tells_adjusted {label : PyStr} (starts : Label u (label ++ ['-'])) (slide raw : Nat) :
    ∃ line, executableAddress none slide label raw = [label ++ ": ".toList ++ hex raw,line] ∧ Tells u [line] [] := by
  by_cases below : raw < slide
  · refine ⟨(label ++ ['-']) ++ "adjusted: <address below slide>".toList,?_,starts.tells (.of_all (by decide))⟩
    rw [executableAddress,if_pos below,List.append_assoc label ['-']]
    rfl
  · have quiet : Quiet ("adjusted: ".toList ++ hex (raw - slide)) := Quiet.append (.of_all (by decide)) (quiet_hex _)
    refine ⟨(label ++ ['-']) ++ ("adjusted: ".toList ++ hex (raw - slide)),?_,starts.tells quiet⟩
    rw [executableAddress,if_neg below,List.append_assoc label ['-'],List.append_assoc label "-adjusted: ".toList]
    rfl

theorem tells_frame (slide index raw : Nat) : Tells u (executableAddress none slide (frameLabel index) raw) [] := by
  have number : Quiet ((if index < 10 then ['0'] else []) ++ decimal index ++ "]".toList) := by
    refine Quiet.append (Quiet.append ?_ (quiet_decimal index)) (.of_all (by decide))
    split
    · exact .of_all (by decide)
    · exact .of_all (by decide)
  have starts : Label u (frameLabel index) := label_frame.append number
  have dash : Label u (frameLabel index ++ ['-']) := starts.append (.of_all (by decide))
  obtain ⟨line,lines,silent⟩ := tells_adjusted dash slide raw
  have value : Quiet (": ".toList ++ hex raw) := Quiet.append (.of_all (by decide)) (quiet_hex raw)
  have shown := (starts.tells value).append silent
  rw [← List.append_assoc] at shown
  rw [lines]
  exact shown

theorem tells_namedLine {name : PyStr} (label : Label u name) (registers : Registers) :
    Tells u (namedLine registers name) [] := by
  rw [namedLine]
  cases get name registers with
  | none => exact tells_nil
  | some value =>
    have quiet : Quiet (": ".toList ++ hex value) := Quiet.append (.of_all (by decide)) (quiet_hex value)
    rw [Option.map_some,Option.toList_some,List.append_assoc]
    exact label.tells quiet

theorem tells_registerLines (slide : Nat) (registers : Registers) (known : name ∈ registerNames) :
    Tells u (registerLines none slide registers name)
      ((get name registers).map fun value => (name,Nat.toDigits 16 value)).toList := by
  rw [registerLines,namedLine]
  cases get name registers with
  | none =>
    split
    · exact tells_nil
    · exact tells_nil
  | some value =>
    split
    next code =>
      have starts : Label u (name ++ ['-']) := by
        rcases code with rfl | rfl
        · exact label_pc
        · exact label_lr
      obtain ⟨line,lines,silent⟩ := tells_adjusted starts slide value
      rw [Option.map_some,Option.getD_some,lines]
      exact (tells_register known value).append silent
    next => exact tells_register known value

theorem tells_stackLines (slide : Nat) (report : FatalReport) : Tells u (stackLines none slide report) [] := by
  rw [stackLines]
  split
  next =>
    have frames : Tells u (report.stackTrace.zipIdx.flatMap fun frame =>
        executableAddress none slide (frameLabel frame.2) frame.1) (report.stackTrace.zipIdx.flatMap fun _ => []) :=
      Tells.flatMap fun frame _ => tells_frame slide frame.2 frame.1
    have none : (report.stackTrace.zipIdx.flatMap fun _ => []) = ([] : List (PyStr × PyStr)) :=
      List.flatMap_eq_nil_iff.mpr fun _ _ => rfl
    rw [none] at frames
    exact (label_traceSize.tells (quiet_decimal _)).append ((label_traceDecoded.tells (quiet_decimal _)).append frames)
  next => exact tells_nil

end Registers

def printedRegisters (registers : Registers) : Registers :=
  registerNames.filterMap fun name => (get name registers).map fun value => (name,value)

def printedMatches (registers : Registers) : List (PyStr × PyStr) :=
  registerNames.filterMap fun name => (get name registers).map fun value => (name,Nat.toDigits 16 value)

theorem nodup_printedRegisters (registers : Registers) : ((printedRegisters registers).map Prod.fst).Nodup := by
  have names : (printedRegisters registers).map Prod.fst = registerNames.filter fun name => (get name registers).isSome := by
    rw [printedRegisters,List.map_filterMap,← List.filterMap_eq_filter]
    refine List.filterMap_congr fun name _ => ?_
    rw [Option.guard]
    cases get name registers with
    | none => rfl
    | some value => rfl
  rw [names]
  exact List.Nodup.filter _ (by decide)

namespace Arguments

variable {args : Arguments}

theorem lines_tell (u : Unicode) (plain : args.elf = none) (report : FatalReport) (registers : Registers) :
    Tells u (args.lines report registers) (printedMatches registers) := by
  have named := Tells.flatMap fun name known => tells_registerLines (u := u) (args.slideOf registers) registers known
  rw [← List.filterMap_eq_flatMap_toList] at named
  have slide : Tells u ["Slide: ".toList ++ hex (args.slideOf registers)] [] := label_slide.tells (quiet_hex _)
  have rest := ((tells_namedLine label_errorDesc registers).append (tells_namedLine label_moduleBase registers)).append
    named |>.append (tells_stackLines (args.slideOf registers) report)
  rw [List.append_nil] at rest
  rw [lines,plain]
  exact slide.append rest

theorem registersFrom_lines (u : Unicode) (plain : args.elf = none) (report : FatalReport) (registers : Registers) :
    registersFrom u 0 false (textOf (args.lines report registers)) = printedMatches registers := by
  have told := lines_tell u plain report registers []
  rw [List.append_nil,registersFrom,List.append_nil] at told
  exact told

theorem textRegisters_lines (u : Unicode) (plain : args.elf = none) (report : FatalReport) (registers : Registers) :
    textRegisters u (textOf (args.lines report registers)) = printedRegisters registers := by
  rw [textRegisters,registersFrom_lines u plain,printedMatches,List.map_filterMap]
  have values : (registerNames.filterMap fun name =>
      ((get name registers).map fun value => (name,Nat.toDigits 16 value)).map fun found => (found.1,parseHex found.2)) =
        printedRegisters registers := by
    refine List.filterMap_congr fun name _ => ?_
    rw [Option.map_map]
    exact congrArg (Option.map · _) (funext fun value => congrArg (name,·) (parseHex_toDigits value))
  rw [values]
  exact setAll_of_distinct (nodup_printedRegisters registers)

/-- The text begins with the slide, and not with the signs of a binary report. -/
theorem lines_noMagic (plain : args.elf = none) (report : FatalReport) (registers : Registers) :
    wordAt 4 0 (Utf8.encode (textOf (args.lines report registers))) ≠ fatalMagic := by
  obtain ⟨rest,text⟩ : ∃ rest, textOf (args.lines report registers) = "Slid".toList ++ rest := by
    rw [lines,plain]
    exact ⟨_,rfl⟩
  have bytes : Utf8.encode "Slid".toList = [0x53,0x6c,0x69,0x64] := by decide
  have front : Utf8.encode ("Slid".toList ++ rest) = [0x53,0x6c,0x69,0x64] ++ Utf8.encode rest := by
    rw [Utf8.encode,List.flatMap_append,← Utf8.encode,bytes,← Utf8.encode]
  have word : slice 0 4 ([0x53,0x6c,0x69,0x64] ++ Utf8.encode rest) = [0x53,0x6c,0x69,0x64] := rfl
  rw [text,front,wordAt,word]
  decide

end Arguments

/-- What is printed without an ELF file is itself a report: the pattern matches the registers that were printed, each
once, and nothing else. -/
theorem main_readsBack (u : Unicode) {args : Arguments} (plain : args.elf = none) (done : (main u args).status = 0) :
    ∃ report, args.readReport u = .ok report ∧
      registersFrom u 0 false (textOf (main u args).stdout) = printedMatches (args.overridden report.registers) ∧
      readReport u (Utf8.encode (textOf (main u args).stdout)) =
        .ok ⟨printedRegisters (args.overridden report.registers),[],0,[]⟩ := by
  have present : args.missingElf = none := by rw [Arguments.missingElf,plain,Option.bind_none]
  rw [main,present] at done ⊢
  cases read : args.readReport u with
  | error text =>
    rw [read] at done
    cases done
  | ok report =>
    rw [read] at done
    simp only [Arguments.outcome] at done ⊢
    split at done
    next => cases done
    next some =>
      refine ⟨report,rfl,?_,?_⟩
      · rw [if_neg some]
        exact Arguments.registersFrom_lines u plain report _
      · rw [if_neg some,readReport,if_neg fun magic => Arguments.lines_noMagic plain report _ magic.2,
          Utf8.decodeReplace_encode,Arguments.textRegisters_lines u plain]

/-- A binary report with a stack trace, and an address below the slide in place of its program counter. -/
def twoFramesArguments : Arguments :=
  ⟨some ("fatal.bin".toList,some (twoFrames.bytes ++ [0x7100000040,0x7100000050].flatMap wordBytes)),none,none,some 0x10,
    none,none⟩

theorem main_readsBack_twoFrames : ∃ report, twoFramesArguments.readReport ⟨fun _ => false,fun _ => none⟩ = .ok report ∧
    report.stackTrace = [0x7100000040,0x7100000050] ∧
    registersFrom ⟨fun _ => false,fun _ => none⟩ 0 false
      (textOf (main ⟨fun _ => false,fun _ => none⟩ twoFramesArguments).stdout) =
        [("PC".toList,"10".toList),("LR".toList,"7100000010".toList),("FAR".toList,"0".toList),("SP".toList,"20".toList),
          ("ESR".toList,"92000046".toList)] ∧
    readReport ⟨fun _ => false,fun _ => none⟩
      (Utf8.encode (textOf (main ⟨fun _ => false,fun _ => none⟩ twoFramesArguments).stdout)) =
        .ok ⟨[("PC".toList,0x10),("LR".toList,0x7100000010),("FAR".toList,0),("SP".toList,0x20),
          ("ESR".toList,0x92000046)],[],0,[]⟩ := by
  obtain ⟨report,read,found,again⟩ := @main_readsBack ⟨fun _ => false,fun _ => none⟩ twoFramesArguments rfl
    (by decide +kernel)
  have parts : twoFramesArguments.readReport ⟨fun _ => false,fun _ => none⟩ =
      .ok ⟨twoFrames.registers,[0x7100000040,0x7100000050],2,[]⟩ := by decide +kernel
  obtain rfl := Except.ok.inj (read.symm.trans parts)
  exact ⟨_,read,rfl,found.trans (by decide +kernel),again.trans (by decide +kernel)⟩

end NxReverse.Tools.Fatal
