import NxReverse.Lib.Utf8
import NxReverse.Tools.ReportRows

/-! Fatal reports, binary or as text, as `decode_fatal.py` reads them, and what it prints of one. A binary report is
read up to where it was cut off, and what is printed of any report is a report of the same registers. -/
namespace NxReverse.Tools.Fatal

open Text Words Dicts Reports

def fatalMagic : Nat := 0x32454641
def fatalHeaderSize : Nat := 0x150
def stackTraceSizeOffset : Nat := 0x140
def stackTraceOffset : Nat := 0x150
def maxStackTraceSize : Nat := 0x20

abbrev Registers := List (PyStr × Nat)

structure FatalReport where
  registers : Registers
  stackTrace : List Nat
  declaredStackTraceSize : Nat
  warnings : List PyStr
  deriving DecidableEq, Repr

def hex (value : Nat) : PyStr := "0x".toList ++ Nat.toDigits 16 value

def isHexDigit (c : Char) : Bool :=
  c.isDigit || (97 ≤ c.toNat && c.toNat ≤ 102) || (65 ≤ c.toNat && c.toNat ≤ 70)

def hexValue (c : Char) : Nat :=
  if c.isDigit then c.toNat - 48 else if c.toNat < 97 then c.toNat - 55 else c.toNat - 87

/-- `parse_hex` of the digits behind `0x`. -/
def parseHex (digits : PyStr) : Nat := digits.foldl (fun value c => value * 16 + hexValue c) 0

def registerNames : List PyStr := ["PC".toList,"LR".toList,"FAR".toList,"SP".toList,"ESR".toList]

/-- A match of `REGISTER_PATTERN`, with the text behind it. -/
structure RegisterMatch where
  name : PyStr
  digits : PyStr
  behind : PyStr

/-- `([0-9A-Fa-f]+)`. -/
def hexDigits (name text : PyStr) : Option RegisterMatch :=
  if text.takeWhile isHexDigit = [] then none
  else some ⟨name,text.takeWhile isHexDigit,text.dropWhile isHexDigit⟩

/-- `[:=]\s*(0x[0-9A-Fa-f]+)`. -/
def registerValue (name text : PyStr) : Option RegisterMatch :=
  if text.head? = some ':' ∨ text.head? = some '=' then
    ((text.tail.dropWhile isSpace).dropPrefix? "0x".toList).bind (hexDigits name)
  else none

section Patterns

variable (u : Unicode)

/-- `REGISTER_PATTERN` where no word goes on. -/
def registerAt (text : PyStr) : Option RegisterMatch :=
  registerNames.findSome? fun name => (text.dropPrefix? name).bind fun rest =>
    if rest.head?.any u.word then none else registerValue name (rest.dropWhile isSpace)

/-- `REGISTER_PATTERN.findall`. The first `skip` signs belong to the match before them, and `within` says that a word
may go on. -/
def registersFrom : Nat → Bool → PyStr → List (PyStr × PyStr)
  | _,_,[] => []
  | skip + 1,_,c :: rest => registersFrom skip (u.word c) rest
  | 0,within,c :: rest =>
    match if within then none else registerAt u (c :: rest) with
    | some found => (found.name,found.digits) :: registersFrom (rest.length - found.behind.length) (u.word c) rest
    | none => registersFrom 0 (u.word c) rest

def textRegisters (text : PyStr) : Registers :=
  setAll [] ((registersFrom u 0 false text).map fun found => (found.1,parseHex found.2))

/-- `struct.unpack_from` of an unsigned word. -/
def wordAt (width offset : Nat) (data : Bytes) : Nat := readLE (slice offset width data)

def binaryRegisters (data : Bytes) : Registers := [
  ("PC".toList,wordAt 8 0x110 data),
  ("LR".toList,wordAt 8 0x100 data),
  ("SP".toList,wordAt 8 0x108 data),
  ("ESR".toList,wordAt 4 0x12C data),
  ("FAR".toList,wordAt 8 0x130 data),
  ("MODULE_BASE".toList,wordAt 8 0x118 data),
  ("ERROR_DESC".toList,wordAt 4 0x4 data)]

def declares (declared : Nat) : PyStr := "stack trace declares ".toList ++ decimal declared ++ " frames".toList

def warningsOf (declared available : Nat) : List PyStr :=
  (if maxStackTraceSize < declared then
    [declares declared ++ "; clamped to format maximum ".toList ++ decimal maxStackTraceSize] else []) ++
  if available < declared then [declares declared ++ ", but only ".toList ++ decimal available ++ " are present".toList] else []

def truncatedText (size : Nat) : PyStr :=
  "truncated binary fatal report: expected at least ".toList ++ hex fatalHeaderSize ++ " bytes, got ".toList ++ hex size

def readStackTrace (declared available : Nat) (data : Bytes) : FatalReport where
  registers := binaryRegisters data
  stackTrace := (List.range (min declared (min maxStackTraceSize available))).map fun index =>
    wordAt 8 (stackTraceOffset + 8 * index) data
  declaredStackTraceSize := declared
  warnings := warningsOf declared available

def readReport (data : Bytes) : Except PyStr FatalReport :=
  if 4 ≤ data.length ∧ wordAt 4 0 data = fatalMagic then
    if data.length < fatalHeaderSize then .error (truncatedText data.length)
    else .ok (readStackTrace (wordAt 8 stackTraceSizeOffset data) ((data.length - stackTraceOffset) / 8) data)
  else .ok ⟨textRegisters u (Utf8.decodeReplace data),[],0,[]⟩

end Patterns

structure Elf where
  path : PyStr
  isFile : Bool
  symbol : Nat → PyStr

/-- The arguments, with the numbers that `parse_hex` has read. A report that is not a file has no bytes. -/
structure Arguments where
  report : Option (PyStr × Option Bytes)
  elf : Option Elf
  slide : Option Nat
  pc : Option Nat
  lr : Option Nat
  far : Option Nat

structure Outcome where
  status : Nat
  stdout : List PyStr
  stderr : List PyStr

def executableAddress (elf : Option Elf) (slide : Nat) (label : PyStr) (raw : Nat) : List PyStr :=
  (label ++ ": ".toList ++ hex raw) ::
    if raw < slide then [label ++ "-adjusted: <address below slide>".toList]
    else (label ++ "-adjusted: ".toList ++ hex (raw - slide)) ::
      (elf.map fun elf => label ++ "-symbol: ".toList ++ elf.symbol (raw - slide)).toList

def namedLine (registers : Registers) (name : PyStr) : List PyStr :=
  ((get name registers).map fun value => name ++ ": ".toList ++ hex value).toList

def registerLines (elf : Option Elf) (slide : Nat) (registers : Registers) (name : PyStr) : List PyStr :=
  if name = "PC".toList ∨ name = "LR".toList then
    ((get name registers).map (executableAddress elf slide name)).getD []
  else namedLine registers name

/-- `STACK_TRACE[{index:02d}]`. -/
def frameLabel (index : Nat) : PyStr :=
  "STACK_TRACE[".toList ++ ((if index < 10 then ['0'] else []) ++ decimal index ++ "]".toList)

def stackLines (elf : Option Elf) (slide : Nat) (report : FatalReport) : List PyStr :=
  if report.declaredStackTraceSize ≠ 0 ∨ report.stackTrace ≠ [] then
    ("STACK_TRACE_SIZE: ".toList ++ decimal report.declaredStackTraceSize) ::
      ("STACK_TRACE_DECODED: ".toList ++ decimal report.stackTrace.length) ::
        report.stackTrace.zipIdx.flatMap fun frame => executableAddress elf slide (frameLabel frame.2) frame.1
  else []

def override (name : PyStr) (value : Option Nat) (registers : Registers) : Registers :=
  value.elim registers fun value => set name value registers

namespace Arguments

variable (args : Arguments)

def overridden (registers : Registers) : Registers :=
  override "FAR".toList args.far (override "LR".toList args.lr (override "PC".toList args.pc registers))

def slideOf (registers : Registers) : Nat := args.slide.getD ((get "MODULE_BASE".toList registers).getD 0)

def lines (report : FatalReport) (registers : Registers) : List PyStr :=
  (args.elf.map fun elf => "ELF:   ".toList ++ elf.path).toList ++
    ("Slide: ".toList ++ hex (args.slideOf registers)) ::
      (namedLine registers "ERROR_DESC".toList ++ namedLine registers "MODULE_BASE".toList ++
        registerNames.flatMap (registerLines args.elf (args.slideOf registers) registers) ++
        stackLines args.elf (args.slideOf registers) report)

def outcome (report : FatalReport) (registers : Registers) : Outcome :=
  if registers = [] ∧ report.stackTrace = [] then
    ⟨1,[],report.warnings.map ("Warning: ".toList ++ ·) ++
      ["No addresses found. Pass a report path or --pc/--lr.".toList]⟩
  else ⟨0,args.lines report registers,report.warnings.map ("Warning: ".toList ++ ·)⟩

def readReport (u : Unicode) : Except PyStr FatalReport :=
  match args.report with
  | none => .ok ⟨[],[],0,[]⟩
  | some (path,none) => .error ("Report not found: ".toList ++ path)
  | some (_,some data) => (Fatal.readReport u data).mapError ("Failed to parse report: ".toList ++ ·)

def missingElf : Option PyStr := args.elf.bind fun elf => if elf.isFile then none else some elf.path

end Arguments

def main (u : Unicode) (args : Arguments) : Outcome :=
  match args.missingElf with
  | some path => ⟨1,[],["ELF not found: ".toList ++ path]⟩
  | none =>
    match args.readReport u with
    | .error text => ⟨1,[],[text]⟩
    | .ok report => args.outcome report (args.overridden report.registers)

abbrev Gap (size : Nat) := {bytes : Bytes // bytes.length = size}

/-- The header of a binary report, with the parts that nothing reads. -/
structure FatalHeader where
  errorDesc : UInt32
  general : Gap 0xF8
  lr : UInt64
  sp : UInt64
  pc : UInt64
  moduleBase : UInt64
  flags : Gap 0xC
  esr : UInt32
  far : UInt64
  identifier : Gap 8
  stackTraceSize : UInt64
  dumpSize : Gap 8

def wordBytes (value : UInt64) : Bytes := bytesLE 8 value.toNat

namespace FatalHeader

variable (h : FatalHeader)

def bytes : Bytes :=
  bytesLE 4 fatalMagic ++ (bytesLE 4 h.errorDesc.toNat ++ (h.general ++ (wordBytes h.lr ++ (wordBytes h.sp ++
    (wordBytes h.pc ++ (wordBytes h.moduleBase ++ (h.flags ++ (bytesLE 4 h.esr.toNat ++ (wordBytes h.far ++
      (h.identifier ++ (wordBytes h.stackTraceSize ++ h.dumpSize)))))))))))

def registers : Registers := [
  ("PC".toList,h.pc.toNat),
  ("LR".toList,h.lr.toNat),
  ("SP".toList,h.sp.toNat),
  ("ESR".toList,h.esr.toNat),
  ("FAR".toList,h.far.toNat),
  ("MODULE_BASE".toList,h.moduleBase.toNat),
  ("ERROR_DESC".toList,h.errorDesc.toNat)]

end FatalHeader

@[simp] theorem length_wordBytes (value : UInt64) : (wordBytes value).length = 8 := length_bytesLE 8 _

theorem FatalHeader.length_bytes (h : FatalHeader) : h.bytes.length = fatalHeaderSize := by
  simp [bytes,h.general.property,h.flags.property,h.identifier.property,h.dumpSize.property,fatalHeaderSize]

theorem wordAt_append {front : Bytes} {start : Nat} (length : front.length = start) (width offset : Nat) (rest : Bytes) :
    wordAt width (start + offset) (front ++ rest) = wordAt width offset rest := by
  rw [wordAt,slice_append length,← wordAt]

theorem wordAt_here {width value : Nat} (fits : value < 256 ^ width) (rest : Bytes) :
    wordAt width 0 (bytesLE width value ++ rest) = value := by
  rw [wordAt,slice_here (length_bytesLE width value),readLE_bytesLE,Nat.mod_eq_of_lt fits]

theorem wordAt_wordBytes (value : UInt64) (rest : Bytes) : wordAt 8 0 (wordBytes value ++ rest) = value.toNat :=
  wordAt_here value.toNat_lt rest

/-- A word inside what is left of a file is that of the file. -/
theorem wordAt_take {width offset size : Nat} (inside : offset + width ≤ size) (data : Bytes) :
    wordAt width offset (data.take size) = wordAt width offset data := by
  have same : slice offset width (data.take size) = slice offset width data := by
    rw [slice,List.drop_take,List.take_take,Nat.min_eq_left (by omega),slice]
  rw [wordAt,same,wordAt]

namespace FatalHeader

variable (h : FatalHeader) (rest : Bytes)

theorem magic_read : wordAt 4 0 (h.bytes ++ rest) = fatalMagic := by
  rw [bytes,List.append_assoc]
  exact wordAt_here (by decide) _

/-- Behind the description of the error and the general registers. -/
theorem wordAt_state (width offset : Nat) : wordAt width (4 + (4 + (0xF8 + offset))) (h.bytes ++ rest) =
    wordAt width offset (wordBytes h.lr ++ (wordBytes h.sp ++ (wordBytes h.pc ++ (wordBytes h.moduleBase ++ (h.flags ++
      (bytesLE 4 h.esr.toNat ++ (wordBytes h.far ++ (h.identifier ++ (wordBytes h.stackTraceSize ++
        (h.dumpSize ++ rest)))))))))) := by
  simp only [bytes,List.append_assoc]
  rw [wordAt_append (length_bytesLE _ _),wordAt_append (length_bytesLE _ _),wordAt_append h.general.property]

/-- Behind the base of the module and the flags. -/
theorem wordAt_fault (width offset : Nat) :
    wordAt width (4 + (4 + (0xF8 + (8 + (8 + (8 + (8 + (0xC + offset)))))))) (h.bytes ++ rest) =
      wordAt width offset (bytesLE 4 h.esr.toNat ++ (wordBytes h.far ++ (h.identifier ++
        (wordBytes h.stackTraceSize ++ (h.dumpSize ++ rest))))) := by
  rw [wordAt_state,wordAt_append (length_wordBytes _),wordAt_append (length_wordBytes _),
    wordAt_append (length_wordBytes _),wordAt_append (length_wordBytes _),wordAt_append h.flags.property]

theorem registers_read : binaryRegisters (h.bytes ++ rest) = h.registers := by
  have errorDesc : wordAt 4 (4 + 0) (h.bytes ++ rest) = h.errorDesc.toNat := by
    rw [bytes,List.append_assoc,wordAt_append (length_bytesLE _ _),List.append_assoc]
    exact wordAt_here h.errorDesc.toNat_lt _
  have lr : wordAt 8 (4 + (4 + (0xF8 + 0))) (h.bytes ++ rest) = h.lr.toNat := by
    rw [wordAt_state,wordAt_wordBytes]
  have sp : wordAt 8 (4 + (4 + (0xF8 + (8 + 0)))) (h.bytes ++ rest) = h.sp.toNat := by
    rw [wordAt_state,wordAt_append (length_wordBytes _),wordAt_wordBytes]
  have pc : wordAt 8 (4 + (4 + (0xF8 + (8 + (8 + 0))))) (h.bytes ++ rest) = h.pc.toNat := by
    rw [wordAt_state,wordAt_append (length_wordBytes _),wordAt_append (length_wordBytes _),wordAt_wordBytes]
  have moduleBase : wordAt 8 (4 + (4 + (0xF8 + (8 + (8 + (8 + 0)))))) (h.bytes ++ rest) = h.moduleBase.toNat := by
    rw [wordAt_state,wordAt_append (length_wordBytes _),wordAt_append (length_wordBytes _),
      wordAt_append (length_wordBytes _),wordAt_wordBytes]
  have esr : wordAt 4 (4 + (4 + (0xF8 + (8 + (8 + (8 + (8 + (0xC + 0)))))))) (h.bytes ++ rest) = h.esr.toNat := by
    rw [wordAt_fault]
    exact wordAt_here h.esr.toNat_lt _
  have far : wordAt 8 (4 + (4 + (0xF8 + (8 + (8 + (8 + (8 + (0xC + (4 + 0))))))))) (h.bytes ++ rest) = h.far.toNat := by
    rw [wordAt_fault,wordAt_append (length_bytesLE _ _),wordAt_wordBytes]
  rw [binaryRegisters,registers]
  exact congr (congrArg List.cons (congrArg _ pc)) (congr (congrArg List.cons (congrArg _ lr))
    (congr (congrArg List.cons (congrArg _ sp)) (congr (congrArg List.cons (congrArg _ esr))
      (congr (congrArg List.cons (congrArg _ far)) (congr (congrArg List.cons (congrArg _ moduleBase))
        (congrArg (fun value => [("ERROR_DESC".toList,value)]) errorDesc))))))

theorem stackTraceSize_read : wordAt 8 stackTraceSizeOffset (h.bytes ++ rest) = h.stackTraceSize.toNat := by
  have size : wordAt 8 (4 + (4 + (0xF8 + (8 + (8 + (8 + (8 + (0xC + (4 + (8 + (8 + 0))))))))))) (h.bytes ++ rest) =
      h.stackTraceSize.toNat := by
    rw [wordAt_fault,wordAt_append (length_bytesLE _ _),wordAt_append (length_wordBytes _),
      wordAt_append h.identifier.property,wordAt_wordBytes]
  exact size

end FatalHeader

theorem words_read {frames : List UInt64} {size count : Nat} (inside : 8 * count ≤ size) (some : count ≤ frames.length) :
    (List.range count).map (fun index => wordAt 8 (8 * index) ((frames.flatMap wordBytes).take size)) =
      (frames.take count).map UInt64.toNat := by
  induction frames generalizing size count with
  | nil =>
    rw [Nat.le_zero.mp some]
    rfl
  | cons frame frames ih =>
    cases count with
    | zero => rfl
    | succ count =>
      have left : ((frame :: frames).flatMap wordBytes).take size =
          wordBytes frame ++ (frames.flatMap wordBytes).take (size - 8) := by
        rw [List.flatMap_cons,List.take_append,List.take_of_length_le (by rw [length_wordBytes]; omega),length_wordBytes]
      rw [left,List.range_succ_eq_map,List.map_cons,List.map_map,List.take_succ_cons,List.map_cons,Nat.mul_zero,
        wordAt_wordBytes]
      refine congrArg (frame.toNat :: ·) (Eq.trans (List.map_congr_left fun index _ => ?_)
        (ih (by omega : 8 * count ≤ size - 8) (Nat.le_of_succ_le_succ some)))
      rw [Function.comp_apply,Nat.mul_succ,Nat.add_comm,wordAt_append (length_wordBytes frame)]

/-- A file that ends inside the magic word is text without a register. -/
theorem readReport_inMagic (u : Unicode) (h : FatalHeader) (rest : Bytes) {size : Nat} (few : size < 4) :
    readReport u ((h.bytes ++ rest).take size) = .ok ⟨[],[],0,[]⟩ := by
  have front : (h.bytes ++ rest).take size = [0x41,0x46,0x45].take size := by
    have word : h.bytes ++ rest = [0x41,0x46,0x45] ++ (h.bytes ++ rest).drop 3 := rfl
    rw [word,List.take_append_of_le_length (Nat.le_of_lt_succ few)]
  have none : textRegisters u (Utf8.decodeReplace ([0x41,0x46,0x45].take size)) = [] := by
    match size,few with
    | 0,_ => rfl
    | 1,_ => rfl
    | 2,_ => rfl
    | 3,_ => rfl
  have length : ([0x41,0x46,0x45].take size : Bytes).length < 4 :=
    Nat.lt_of_le_of_lt (List.length_take_le _ _) few
  rw [front,readReport,if_neg fun magic => Nat.not_le.mpr length magic.1,none]

/-- Cut behind its magic word, a report has its registers and the frames that are left, or it is told that it is too
short. -/
theorem readReport_behindMagic (u : Unicode) (h : FatalHeader) (frames : List UInt64) {size : Nat} (some : 4 ≤ size) :
    readReport u ((h.bytes ++ frames.flatMap wordBytes).take size) =
      if size < fatalHeaderSize then .error (truncatedText size)
      else .ok ⟨h.registers,
        (frames.take (min h.stackTraceSize.toNat (min maxStackTraceSize ((size - fatalHeaderSize) / 8)))).map UInt64.toNat,
        h.stackTraceSize.toNat,
        warningsOf h.stackTraceSize.toNat (min ((size - fatalHeaderSize) / 8) frames.length)⟩ := by
  have header := h.length_bytes
  have whole : (frames.flatMap wordBytes).length = 8 * frames.length := by
    simp [List.length_flatMap,Nat.mul_comm]
  have length : ((h.bytes ++ frames.flatMap wordBytes).take size).length = min size (fatalHeaderSize + 8 * frames.length) := by
    rw [List.length_take,List.length_append,header,whole]
  have magic : wordAt 4 0 ((h.bytes ++ frames.flatMap wordBytes).take size) = fatalMagic := by
    rw [wordAt_take some,h.magic_read]
  have enough : 4 ≤ ((h.bytes ++ frames.flatMap wordBytes).take size).length := by
    rw [length,fatalHeaderSize]
    omega
  rw [readReport,if_pos ⟨enough,magic⟩,length]
  by_cases short : size < fatalHeaderSize
  · rw [if_pos short,if_pos (by omega),Nat.min_eq_left (by omega)]
  · have split : (h.bytes ++ frames.flatMap wordBytes).take size =
        h.bytes ++ (frames.flatMap wordBytes).take (size - fatalHeaderSize) := by
      rw [List.take_append,List.take_of_length_le (by omega),header]
    have available : (min size (fatalHeaderSize + 8 * frames.length) - stackTraceOffset) / 8 =
        min ((size - fatalHeaderSize) / 8) frames.length := by
      rw [stackTraceOffset,fatalHeaderSize] at *
      omega
    rw [if_neg short,if_neg (by omega),available,split,h.stackTraceSize_read,readStackTrace,h.registers_read]
    refine congrArg (fun trace => Except.ok (FatalReport.mk _ trace _ _)) ?_
    have kept : (List.range (min h.stackTraceSize.toNat (min maxStackTraceSize
          (min ((size - fatalHeaderSize) / 8) frames.length)))).map (fun index => wordAt 8 (stackTraceOffset + 8 * index)
            (h.bytes ++ (frames.flatMap wordBytes).take (size - fatalHeaderSize))) =
        (frames.take (min h.stackTraceSize.toNat (min maxStackTraceSize
          (min ((size - fatalHeaderSize) / 8) frames.length)))).map UInt64.toNat := by
      refine Eq.trans (List.map_congr_left fun index _ => wordAt_append header 8 (8 * index) _) (words_read ?_ ?_)
      · omega
      · omega
    rw [kept]
    refine congrArg (List.map UInt64.toNat) (List.take_eq_take_iff.mpr ?_)
    omega

/-- However early the file ends, it is read as what is left of it. -/
theorem readReport_cut (u : Unicode) (h : FatalHeader) (frames : List UInt64) (size : Nat) :
    readReport u ((h.bytes ++ frames.flatMap wordBytes).take size) =
      if size < 4 then .ok ⟨[],[],0,[]⟩
      else if size < fatalHeaderSize then .error (truncatedText size)
      else .ok ⟨h.registers,
        (frames.take (min h.stackTraceSize.toNat (min maxStackTraceSize ((size - fatalHeaderSize) / 8)))).map UInt64.toNat,
        h.stackTraceSize.toNat,
        warningsOf h.stackTraceSize.toNat (min ((size - fatalHeaderSize) / 8) frames.length)⟩ := by
  by_cases few : size < 4
  · rw [if_pos few]
    exact readReport_inMagic u h _ few
  · rw [if_neg few]
    exact readReport_behindMagic u h frames (Nat.le_of_not_lt few)

def twoFrames : FatalHeader :=
  ⟨0xFF,⟨List.replicate 0xF8 0,rfl⟩,0x7100000010,0x20,0x7100000030,0x7100000000,⟨List.replicate 0xC 0,rfl⟩,0x92000046,0,
    ⟨List.replicate 8 0,rfl⟩,2,⟨List.replicate 8 0,rfl⟩⟩

/-- The second of two frames is cut off in its middle. -/
theorem readReport_cut_midFrame : readReport ⟨fun _ => false,fun _ => none⟩
    ((twoFrames.bytes ++ [0x7100000040,0x7100000050].flatMap wordBytes).take 0x15C) =
      .ok ⟨twoFrames.registers,[0x7100000040],2,["stack trace declares 2 frames, but only 1 are present".toList]⟩ :=
  (readReport_cut _ twoFrames _ 0x15C).trans rfl

/-- Nothing is warned of exactly if every declared frame was decoded. -/
theorem warnings_eq_nil_iff {u : Unicode} {data : Bytes} {report : FatalReport} (read : readReport u data = .ok report) :
    report.warnings = [] ↔ report.stackTrace.length = report.declaredStackTraceSize := by
  rw [readReport] at read
  split at read
  · split at read
    · cases read
    · cases read
      simp only [readStackTrace,warningsOf,List.append_eq_nil_iff,ite_eq_right_iff,reduceCtorEq,imp_false,
        List.length_map,List.length_range]
      omega
  · cases read
    exact ⟨fun _ => rfl,fun _ => rfl⟩

end NxReverse.Tools.Fatal
