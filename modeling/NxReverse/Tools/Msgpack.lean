import NxReverse.Lib.Dicts
import NxReverse.Lib.Text
import NxReverse.Lib.Utf8

/-! The msgpack reader of the ERPT reports: the Python values it builds, the texts that `str` makes of them, and
`MsgpackReader.parse` over a byte string. The recursion of `parse` is bounded by a fuel; whether a character beyond
ASCII is printable is left to the interpreter's tables. -/
namespace NxReverse.Tools.Msgpack

open Text Words

/-- A Python string; decoding leaves no lone surrogates. -/
abbrev PyStr := List Char

/-- What the reader builds. A dictionary keeps its order. -/
inductive Value where
  | int (value : Int)
  | bool (value : Bool)
  | str (text : PyStr)
  | bin (data : Bytes)
  | list (items : List Value)
  | dict (fields : List (PyStr × Value))
  deriving Repr

/-- Lowercase hexadecimal of a fixed width. -/
def lowerHex : Nat → Nat → PyStr
  | 0,_ => []
  | width + 1,value => lowerHex width (value / 16) ++ [Nat.digitChar (value % 16)]

section Texts

variable (isPrintable : Char → Bool)

def escapeChar (quote c : Char) : PyStr :=
  if c = quote ∨ c = '\\' then ['\\',c]
  else if c = '\t' then ['\\','t']
  else if c = '\n' then ['\\','n']
  else if c = '\r' then ['\\','r']
  else if c.toNat < 0x20 ∨ c.toNat = 0x7F then ['\\','x'] ++ lowerHex 2 c.toNat
  else if c.toNat < 0x7F ∨ isPrintable c then [c]
  else if c.toNat ≤ 0xFF then ['\\','x'] ++ lowerHex 2 c.toNat
  else if c.toNat ≤ 0xFFFF then ['\\','u'] ++ lowerHex 4 c.toNat
  else ['\\','U'] ++ lowerHex 8 c.toNat

/-- Double quotes only where the text has single quotes and no double ones. -/
def quoteOf (text : PyStr) : Char := if '\'' ∈ text ∧ '"' ∉ text then '"' else '\''

def reprStr (text : PyStr) : PyStr :=
  quoteOf text :: text.flatMap (escapeChar isPrintable (quoteOf text)) ++ [quoteOf text]

/-- A byte literal; only ASCII is printed as it is. -/
def reprBytes (data : Bytes) : PyStr := 'b' :: reprStr (fun _ => false) (data.map fun byte => Char.ofNat byte.toNat)

def reprBool (value : Bool) : PyStr := if value then "True".toList else "False".toList

def reprBin (data : Bytes) : PyStr := "BinaryValue(data=".toList ++ reprBytes data ++ ")".toList

mutual

/-- `repr`; what follows the first item of a list or dictionary carries the separator. -/
def repr : Value → PyStr
  | .int value => signedDecimal value
  | .bool value => reprBool value
  | .str text => reprStr isPrintable text
  | .bin data => reprBin data
  | .list [] => ['[',']']
  | .list (item :: items) => '[' :: repr item ++ reprItems items
  | .dict [] => ['\x7b','\x7d']
  | .dict ((key,value) :: fields) => '\x7b' :: reprStr isPrintable key ++ [':',' '] ++ repr value ++ reprFields fields

def reprItems : List Value → PyStr
  | [] => [']']
  | item :: items => [',',' '] ++ repr item ++ reprItems items

def reprFields : List (PyStr × Value) → PyStr
  | [] => ['\x7d']
  | (key,value) :: fields => [',',' '] ++ reprStr isPrintable key ++ [':',' '] ++ repr value ++ reprFields fields

end

def str : Value → PyStr
  | .str text => text
  | value => repr isPrintable value

end Texts

inductive ParseError where
  | decodeError (text : CString)
  | outOfFuel
  deriving DecidableEq, Repr

/-- A read gives its result and the offset behind it. -/
abbrev Reading := Except ParseError

/-- `{offset:x}`. -/
def hex (value : Nat) : CString := Nat.toDigits 16 value

section Reader

variable (data : Bytes)

def require (offset size : Nat) : Reading Unit :=
  if offset + size > data.length then
    .error (.decodeError ("truncated msgpack at 0x".toList ++ hex offset ++ ", need ".toList ++ decimal size ++
      " bytes".toList))
  else .ok ()

def readU8 (offset : Nat) : Reading (Nat × Nat) := do
  require data offset 1
  .ok ((data.getD offset 0).toNat,offset + 1)

/-- `int.from_bytes(raw, "big", signed=signed)`. -/
def fromBytes (signed : Bool) (raw : Bytes) : Int :=
  if signed ∧ 256 ^ raw.length ≤ 2 * readBE raw then (readBE raw : Int) - 256 ^ raw.length else readBE raw

def readBe (offset size : Nat) (signed : Bool) : Reading (Int × Nat) := do
  require data offset size
  .ok (fromBytes signed (slice offset size data),offset + size)

def readBytes (offset size : Nat) : Reading (Bytes × Nat) := do
  require data offset size
  .ok (slice offset size data,offset + size)

def readStr (offset size : Nat) : Reading (PyStr × Nat) := do
  let (raw,offset) ← readBytes data offset size
  .ok (Utf8.decodeReplace raw,offset)

-- the branches of `parse` that read a number, and a size with what it counts
def parseInt (offset size : Nat) (signed : Bool) : Reading (Value × Nat) := do
  let (value,offset) ← readBe data offset size signed
  .ok (.int value,offset)

def parseBin (offset width : Nat) : Reading (Value × Nat) := do
  let (size,offset) ← readBe data offset width false
  let (raw,offset) ← readBytes data offset size.toNat
  .ok (.bin raw,offset)

def parseFixStr (offset size : Nat) : Reading (Value × Nat) := do
  let (text,offset) ← readStr data offset size
  .ok (.str text,offset)

def parseStr (offset width : Nat) : Reading (Value × Nat) := do
  let (size,offset) ← readBe data offset width false
  parseFixStr data offset size.toNat

end Reader

section Parse

variable (isPrintable : Char → Bool)

def parseItems (parse : Nat → Reading (Value × Nat)) : Nat → Nat → Reading (List Value × Nat)
  | 0,offset => .ok ([],offset)
  | count + 1,offset => do
    let (value,offset) ← parse offset
    let (values,offset) ← parseItems parse count offset
    .ok (value :: values,offset)

def parseFields (parse : Nat → Reading (Value × Nat)) :
    Nat → List (PyStr × Value) → Nat → Reading (List (PyStr × Value) × Nat)
  | 0,values,offset => .ok (values,offset)
  | count + 1,values,offset => do
    let (key,offset) ← parse offset
    let (value,offset) ← parse offset
    parseFields parse count (Dicts.set (str isPrintable key) value values) offset

def parseArray (parse : Nat → Reading (Value × Nat)) (offset count : Nat) : Reading (Value × Nat) := do
  let (values,offset) ← parseItems parse count offset
  .ok (.list values,offset)

def parseMap (parse : Nat → Reading (Value × Nat)) (offset count : Nat) : Reading (Value × Nat) := do
  let (values,offset) ← parseFields isPrintable parse count [] offset
  .ok (.dict values,offset)

/-- A branch of `parse`. Sizes and counts are in the tag or in a field of `width` bytes behind it. -/
inductive Branch where
  | value (value : Value)
  | int (size : Nat) (signed : Bool)
  | bin (width : Nat)
  | fixStr (size : Nat)
  | str (width : Nat)
  | fixArray (count : Nat)
  | array (width : Nat)
  | fixMap (count : Nat)
  | map (width : Nat)
  | unsupported

/-- The branch that a tag takes. -/
def branchOf (tag : Nat) : Branch :=
  if tag ≤ 0x7F then .value (.int tag)
  else if tag ≥ 0xE0 then .value (.int (tag - 0x100))
  else if 0x80 ≤ tag ∧ tag ≤ 0x8F then .fixMap (tag &&& 0x0F)
  else if 0x90 ≤ tag ∧ tag ≤ 0x9F then .fixArray (tag &&& 0x0F)
  else if 0xA0 ≤ tag ∧ tag ≤ 0xBF then .fixStr (tag &&& 0x1F)
  else if tag = 0xC2 then .value (.bool false)
  else if tag = 0xC3 then .value (.bool true)
  else if tag = 0xC4 then .bin 1
  else if tag = 0xC5 then .bin 2
  else if tag = 0xCC then .int 1 false
  else if tag = 0xCD then .int 2 false
  else if tag = 0xCE then .int 4 false
  else if tag = 0xCF then .int 8 false
  else if tag = 0xD0 then .int 1 true
  else if tag = 0xD1 then .int 2 true
  else if tag = 0xD2 then .int 4 true
  else if tag = 0xD3 then .int 8 true
  else if tag = 0xD9 then .str 1
  else if tag = 0xDA then .str 2
  else if tag = 0xDC then .array 2
  else if tag = 0xDE then .map 2
  else .unsupported

/-- `parse` behind the tag. -/
def parseBranch (data : Bytes) (parse : Nat → Reading (Value × Nat)) (tag offset : Nat) :
    Branch → Reading (Value × Nat)
  | .value value => .ok (value,offset)
  | .int size signed => parseInt data offset size signed
  | .bin width => parseBin data offset width
  | .fixStr size => parseFixStr data offset size
  | .str width => parseStr data offset width
  | .fixArray count => parseArray parse offset count
  | .array width => do
    let (count,offset) ← readBe data offset width false
    parseArray parse offset count.toNat
  | .fixMap count => parseMap isPrintable parse offset count
  | .map width => do
    let (count,offset) ← readBe data offset width false
    parseMap isPrintable parse offset count.toNat
  | .unsupported => .error (.decodeError ("unsupported msgpack tag 0x".toList ++ lowerHex 2 tag ++ " at 0x".toList ++
      hex (offset - 1)))

/-- `parse` with a bound on its nesting. -/
def parseWith (data : Bytes) : Nat → Nat → Reading (Value × Nat)
  | 0,_ => .error .outOfFuel
  | fuel + 1,offset => do
    let (tag,offset) ← readU8 data offset
    parseBranch isPrintable data (parseWith data fuel) tag offset (branchOf tag)

/-- `MsgpackReader(data).parse(offset)`; each level of nesting takes a byte. -/
def parse (data : Bytes) (offset : Nat) : Reading (Value × Nat) := parseWith isPrintable data (data.length + 1) offset

end Parse

end NxReverse.Tools.Msgpack
