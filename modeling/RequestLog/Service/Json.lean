import RequestLog.Fault
import RequestLog.Number.Decimal
import RequestLog.Number.Numeral
import RequestLog.Text.Quoted
import RequestLog.Text.Utf8
import RequestLog.Value.Basic

/-!
# Documents as JSON

`plainFields` turns values into such as JSON has: bytes and moments become texts, a tuple a list,
and what is no finite number nothing. `write` writes such a value without any blanks, and `read?`
reads what `write` writes.
-/

namespace RequestLog.Service.Json

mutual

/-- A value of the kinds that JSON has, on no more than so many levels. An object that is known by
its presentation only has none, and neither have bytes that are no text. -/
def plain : Nat → Value → Except Fault Value
  | 0, _ => .error .tooDeep
  | levels + 1, v =>
    match v with
    | .float x => .ok (if x.isFinite then .float x else .absent)
    | .bytes b | .buffer b =>
      match Text.Utf8.decode b with
      | .ok s => .ok (.text s)
      | .error d => .error (.bytesUnwritable d)
    | .moment m => .ok (.text m.documentText)
    | .list items | .tuple items => do return .list (← plainItems levels items)
    | .mapping entries => do return .mapping (← plainEntries levels entries)
    | .thing p q => .error (.unwritable (Value.thing p q).typeName)
    | v => .ok v

/-- Several values of the kinds that JSON has. -/
def plainItems : Nat → List Value → Except Fault (List Value)
  | _, [] => .ok []
  | levels, v :: rest => do return (← plain levels v) :: (← plainItems levels rest)

/-- The entries of a mapping with values of the kinds that JSON has. -/
def plainEntries : Nat → List (String × Value) → Except Fault Fields
  | _, [] => .ok []
  | levels, (k, v) :: rest => do return (k, ← plain levels v) :: (← plainEntries levels rest)

end

/-- The most levels that a value in a document may have. -/
def mostLevels : Nat := 255

/-- The fields of a document with values of the kinds that JSON has. -/
def plainFields (fields : Fields) : Except Fault Fields := plainEntries mostLevels fields

/-! ### Writing -/

/-- The layout of numbers: positional from `0.00001` and below `10 ^ 16`. -/
def layout : Layout := ⟨-5, 16, 1⟩

/-- A character inside quotation marks. -/
def escape (c : Char) : List Char :=
  if c = '"' then ['\\', '"']
  else if c = '\\' then ['\\', '\\']
  else if c = '\n' then ['\\', 'n']
  else if c = '\r' then ['\\', 'r']
  else if c = '\t' then ['\\', 't']
  else if c = '\x08' then ['\\', 'b']
  else if c = '\x0c' then ['\\', 'f']
  else if c.toNat < 0x20 then '\\' :: 'u' :: Text.Quoted.hexDigits 4 c.toNat
  else [c]

/-- A text in quotation marks. -/
def quoted (s : String) : List Char := '"' :: (s.toList.flatMap escape ++ ['"'])

/-- Several parts with a comma between any two. -/
def separated : List (List Char) → List Char
  | [] => []
  | [p] => p
  | p :: rest => p ++ ',' :: separated rest

mutual

/-- A value as JSON. -/
def writeChars : Value → List Char
  | .bool b => if b then "true".toList else "false".toList
  | .int n => (toString n).toList
  | .float x => x.textBy layout
  | .text s => quoted s
  | .list items => '[' :: (separated (writeItems items) ++ [']'])
  | .mapping entries => '\x7b' :: (separated (writeEntries entries) ++ ['\x7d'])
  | _ => "null".toList

/-- Several values as JSON. -/
def writeItems : List Value → List (List Char)
  | [] => []
  | v :: rest => writeChars v :: writeItems rest

/-- The entries of a mapping as JSON. -/
def writeEntries : List (String × Value) → List (List Char)
  | [] => []
  | (k, v) :: rest => (quoted k ++ ':' :: writeChars v) :: writeEntries rest

end

/-- A value as JSON. -/
def write (v : Value) : String := String.ofList (writeChars v)

/-- A character by its code in units of sixteen bits, of which it takes two beyond the first
65536. -/
def byUnits (c : Char) : List Char :=
  let unit (n : Nat) : List Char := '\\' :: 'u' :: Text.Quoted.hexDigits 4 n
  if c.toNat < 0x10000 then unit c.toNat
  else unit (0xd7c0 + c.toNat / 0x400) ++ unit (0xdc00 + c.toNat % 0x400)

/-- JSON with every character beyond ASCII by its code. -/
def inAscii (json : String) : String :=
  String.ofList (json.toList.flatMap fun c => if Text.Ascii.isAscii c then [c] else byUnits c)

/-! ### Reading -/

/-- The value of four digits of base sixteen. -/
def codeOf (digits : List Char) : Nat :=
  digits.foldl (fun n c => 16 * n +
    (if c.isDigit then c.toNat - 48 else (c.toLower.toNat - 87))) 0

/-- Reads a text up to its closing quotation mark. -/
def readText : List Char → Option (List Char × List Char)
  | '"' :: rest => some ([], rest)
  | '\\' :: 'u' :: a :: b :: c :: d :: rest =>
    (readText rest).map fun p => (Char.ofNat (codeOf [a, b, c, d]) :: p.1, p.2)
  | '\\' :: c :: rest =>
    let read := match c with
      | 'n' => '\n'
      | 'r' => '\r'
      | 't' => '\t'
      | 'b' => '\x08'
      | 'f' => '\x0c'
      | c => c
    (readText rest).map fun p => (read :: p.1, p.2)
  | c :: rest => (readText rest).map fun p => (c :: p.1, p.2)
  | [] => none

/-- A character of a number. -/
def isNumberChar (c : Char) : Bool :=
  c.isDigit || c == '-' || c == '+' || c == '.' || c == 'e' || c == 'E'

/-- The number that some characters stand for: an integer unless there is a point or exponent. -/
def numberOf (cs : List Char) : Option Value :=
  if cs.any fun c => c == '.' || c == 'e' || c == 'E' then
    (Numeral.readFloat (String.ofList cs)).map .float
  else
    match Numeral.sign cs with
    | (_, []) => none
    | (negative, digits) =>
      let n : Int := Numeral.valueOf digits
      some (.int (if negative then -n else n))

mutual

/-- Reads a value. The first argument bounds the depth of the reading. -/
def readValue : Nat → List Char → Option (Value × List Char)
  | 0, _ => none
  | fuel + 1, cs =>
    match cs with
    | 'n' :: 'u' :: 'l' :: 'l' :: rest => some (.absent, rest)
    | 't' :: 'r' :: 'u' :: 'e' :: rest => some (.bool true, rest)
    | 'f' :: 'a' :: 'l' :: 's' :: 'e' :: rest => some (.bool false, rest)
    | '"' :: rest => (readText rest).map fun p => (.text (String.ofList p.1), p.2)
    | '[' :: ']' :: rest => some (.list [], rest)
    | '[' :: rest => (readItems fuel rest).map fun p => (.list p.1, p.2)
    | '\x7b' :: '\x7d' :: rest => some (.mapping [], rest)
    | '\x7b' :: rest => (readEntries fuel rest).map fun p => (.mapping p.1, p.2)
    | cs => (numberOf (cs.takeWhile isNumberChar)).map fun v => (v, cs.dropWhile isNumberChar)

/-- Reads the items of a list up to its end. -/
def readItems : Nat → List Char → Option (List Value × List Char)
  | 0, _ => none
  | fuel + 1, cs => do
    let (v, rest) ← readValue fuel cs
    match rest with
    | ',' :: rest => (readItems fuel rest).map fun p => (v :: p.1, p.2)
    | ']' :: rest => some ([v], rest)
    | _ => none

/-- Reads the entries of a mapping up to its end. -/
def readEntries : Nat → List Char → Option (Fields × List Char)
  | 0, _ => none
  | fuel + 1, cs =>
    match cs with
    | '"' :: rest => do
      let (k, rest) ← readText rest
      match rest with
      | ':' :: rest => do
        let (v, rest) ← readValue fuel rest
        match rest with
        | ',' :: rest => (readEntries fuel rest).map fun p => ((String.ofList k, v) :: p.1, p.2)
        | '\x7d' :: rest => some ([(String.ofList k, v)], rest)
        | _ => none
      | _ => none
    | _ => none

end

/-- The value that a text in JSON stands for. -/
def read? (s : String) : Option Value :=
  match readValue (s.length + 1) s.toList with
  | some (v, []) => some v
  | _ => none

end RequestLog.Service.Json
