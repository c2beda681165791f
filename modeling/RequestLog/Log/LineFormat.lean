import RequestLog.Fault
import RequestLog.Log.Placement
import RequestLog.Text.Digit
import RequestLog.Text.Word
import RequestLog.Value.Basic

/-!
# Line formats

A line of the log is written by a format: a text in which a percent sign, a field name in
parentheses and a letter stand for a field of the entry, perhaps with flags, a width and a
precision. Before the first name one placeholder without a name may stand, for the entry as a
whole. A format is acceptable when it has at least one proper placeholder somewhere; whether an
entry can be written by it shows only then.
-/

namespace RequestLog.Log

/-- Where and when an entry is written: the place in the program, the moment, also as a text, the
time since the log was begun, and what was running. -/
structure Origin where
  path : String := ""
  file : String := ""
  unit : String := ""
  function : String := ""
  line : Int := 0
  time : String := ""
  created : Binary64 := .finite false 0 0
  milliseconds : Binary64 := .finite false 0 0
  sinceStart : Binary64 := .finite false 0 0
  thread : Int := 0
  threadName : String := "MainThread"
  process : Int := 0
  processName : String := "MainProcess"
  deriving DecidableEq, Repr

/-- An entry of the log: its logger, its level and its text, and where and when it is written. -/
structure Entry where
  logger : String
  level : Int
  text : String
  origin : Origin := {}
  deriving DecidableEq, Repr

/-- An entry at the level that a value stands for, which must be an integer. -/
def Entry.make (logger : String) (level : Value) (text : String) : Except Fault Entry :=
  match level with
  | .int n => .ok { logger, level := n, text }
  | .bool b => .ok { logger, level := if b then 1 else 0, text }
  | _ => .error (.unsuitable "level must be an integer")

/-- The name of a level; a level without a name of its own shows its number. -/
def levelName (level : Int) : String :=
  match level with
  | 50 => "CRITICAL"
  | 40 => "ERROR"
  | 30 => "WARNING"
  | 20 => "INFO"
  | 10 => "DEBUG"
  | 0 => "NOTSET"
  | n => "Level " ++ toString n

namespace LineFormat

/-- The format when none is given. -/
def plain : String := "%(message)s"

/-- A format that names the moment of writing somewhere makes a text of it. -/
def isTimed : List Char → Bool
  | [] => false
  | c :: rest => "%(asctime)".toList.isPrefixOf (c :: rest) || isTimed rest

/-- The fields of an entry in order. -/
def fields (timed : Bool) (e : Entry) : List (String × FieldValue) :=
  let o := e.origin
  [("name", .text e.logger), ("msg", .text e.text), ("args", .form "()"),
    ("levelname", .text (levelName e.level)), ("levelno", .number e.level),
    ("pathname", .text o.path), ("filename", .text o.file), ("module", .text o.unit),
    ("exc_info", .form "None"), ("exc_text", .form "None"), ("stack_info", .form "None"),
    ("lineno", .number o.line), ("funcName", .text o.function), ("created", .fraction o.created),
    ("msecs", .fraction o.milliseconds), ("relativeCreated", .fraction o.sinceStart),
    ("thread", .number o.thread), ("threadName", .text o.threadName),
    ("processName", .text o.processName), ("process", .number o.process),
    ("message", .text e.text)] ++ if timed then [("asctime", .text o.time)] else []

/-- The form of an entry as a whole: each field under its name. -/
def whole (timed : Bool) (e : Entry) : String :=
  "\x7b" ++ ", ".intercalate ((fields timed e).map fun f =>
    Text.Quoted.quote f.1 ++ ": " ++ f.2.literal) ++ "\x7d"

/-- A character that is a flag. -/
def isFlag (c : Char) : Bool := c == '#' || c == '0' || c == '+' || c == ' ' || c == '-'

/-- A letter that ends a placeholder, in either case. -/
def isConversion (c : Char) : Bool :=
  "diouxefgcrsaDIOUXEFGCRSA%".toList.contains c ||
    [0x130, 0x131, 0x17f].contains c.toNat

/-- A decimal digit of any script. -/
def isDigit (c : Char) : Bool := (Text.digitValue? c).isSome

/-- Skips a star or some digits. -/
def skipAmount : List Char → List Char
  | '*' :: rest => rest
  | cs => cs.dropWhile isDigit

/-- Skips a point and the amount after it, if there is one. -/
def skipPrecision : List Char → List Char
  | '.' :: rest => if skipAmount rest = rest then '.' :: rest else skipAmount rest
  | cs => cs

/-- The characters begin with a proper placeholder. -/
def beginsPlaceholder : List Char → Bool
  | '%' :: '(' :: rest =>
    match rest.dropWhile Text.isWordChar with
    | ')' :: tail =>
      (rest.head?.any Text.isWordChar) &&
        (skipPrecision (skipAmount (tail.dropWhile isFlag))).head?.any isConversion
    | _ => false
  | _ => false

/-- There is a proper placeholder somewhere. -/
def isAcceptable : List Char → Bool
  | [] => false
  | c :: rest => beginsPlaceholder (c :: rest) || isAcceptable rest

/-- The name in parentheses, which may hold parentheses in pairs, and what follows it. -/
def takeName : Nat → List Char → Option (List Char × List Char)
  | _, [] => none
  | depth, c :: rest =>
    if c = ')' then
      match depth with
      | 0 => some ([], rest)
      | d + 1 => (takeName d rest).map fun p => (c :: p.1, p.2)
    else (takeName (if c = '(' then depth + 1 else depth) rest).map fun p => (c :: p.1, p.2)

/-- Reads the digits of an amount. -/
def takeAmount (cs : List Char) : Nat × List Char :=
  ((cs.takeWhile Char.isDigit).foldl (fun n c => 10 * n + (c.toNat - 48)) 0,
    cs.dropWhile Char.isDigit)

/-- The amounts that are too large for anything to be written. -/
def isTooLarge (amount : Nat) : Bool := Nat.pow 2 31 ≤ amount

/-- Reads what follows the name of a placeholder, up to its letter. -/
def takePlacement (cs : List Char) : Option (Placement × List Char) :=
  let flags := cs.takeWhile isFlag
  let (width, cs) := takeAmount (cs.dropWhile isFlag)
  let (precision, cs) : Option Nat × List Char := match cs with
    | '.' :: rest => let (n, rest) := takeAmount rest; (some n, rest)
    | cs => (none, cs)
  let cs := match cs with
    | 'h' :: rest | 'l' :: rest | 'L' :: rest => rest
    | cs => cs
  if isTooLarge width || precision.any isTooLarge then none
  else
    match cs with
    | [] => none
    | c :: rest => some (⟨flags, width, precision, c⟩, rest)

/-- Reads a placeholder after its percent sign: what it writes, and what follows. Without a name of
its own it stands for what is left to be written, if anything is. -/
def placeholder? (named : List (String × FieldValue)) (left : Option FieldValue) :
    List Char → Option (List Char × List Char)
  | '(' :: rest => do
    let (name, rest) ← takeName 0 rest
    let v ← named.lookup (String.ofList name)
    let (placement, rest) ← takePlacement rest
    return (← placement.write? v, rest)
  | cs => do
    let v ← left
    let (placement, rest) ← takePlacement cs
    return (← placement.write? v, rest)

/-- Writes named fields by the characters of a format, of which each step reads at least one. What
is `left` to be written without a name is the whole entry until the first placeholder. -/
def writeChars (named : List (String × FieldValue)) :
    Nat → Option FieldValue → List Char → Option (List Char)
  | _, _, [] => some []
  | 0, _, _ => none
  | fuel + 1, left, '%' :: '%' :: rest => (writeChars named fuel left rest).map ('%' :: ·)
  | fuel + 1, left, '%' :: rest => do
    let (written, rest) ← placeholder? named left rest
    return written ++ (← writeChars named fuel none rest)
  | fuel + 1, left, c :: rest => (writeChars named fuel left rest).map (c :: ·)

/-- An entry as a format writes it, or nothing if it cannot be written. -/
def write? (format : String) (e : Entry) : Option String :=
  let timed := isTimed format.toList
  (writeChars (fields timed e) format.length (some (.form (whole timed e))) format.toList).map
    String.ofList

end LineFormat

end RequestLog.Log
