import RequestLog.Text.Blank
import RequestLog.Text.LetterCase
import RequestLog.Text.Percent
import RequestLog.Store.Client

/-!
# Parameters of a query for records

The query of a request names what is looked for: a method, a status and a url to be matched, a
field to sort by and the direction, and which part of the result. Each parameter is read from its
last occurrence and checked; all issues are collected, in the order of the parameters.
-/

namespace RequestLog.Service

/-- What can be wrong with a parameter. -/
inductive Issue where
  | notInteger
  | integerTooLong
  | tooSmall (least : Int)
  | tooLarge (most : Int)
  | noMatch (pattern : String)
  deriving DecidableEq, Repr

namespace Issue

/-- The name of an issue, as answers show it. -/
def name : Issue → String
  | notInteger => "int_parsing"
  | integerTooLong => "int_parsing_size"
  | tooSmall _ => "greater_than_equal"
  | tooLarge _ => "less_than_equal"
  | noMatch _ => "string_pattern_mismatch"

/-- What a parameter should be, by the issue that it has. -/
def advice : Issue → String
  | notInteger => "Input should be a valid integer, unable to parse string as an integer"
  | integerTooLong => "Unable to parse input string as an integer, exceeded maximum size"
  | tooSmall least => "Input should be greater than or equal to " ++ toString least
  | tooLarge most => "Input should be less than or equal to " ++ toString most
  | noMatch pattern => "String should match pattern '" ++ pattern ++ "'"

/-- What the parameter did not keep to, under the name that answers give it. -/
def bound? : Issue → Option (String × Value)
  | notInteger | integerTooLong => none
  | tooSmall least => some ("ge", .int least)
  | tooLarge most => some ("le", .int most)
  | noMatch pattern => some ("pattern", .text pattern)

end Issue

/-- The directions of sorting. -/
inductive Direction where
  | ascending
  | descending
  deriving DecidableEq, Repr

/-- The number that stands for a direction in a sort order. -/
def Direction.number : Direction → Int
  | ascending => 1
  | descending => -1

/-- What a request looks for. -/
structure Parameters where
  method : Option String := none
  status : Option Int := none
  url : Option String := none
  sort : Option String := none
  order : Direction := .descending
  limit : Option Int := none
  skip : Int := 0
  deriving DecidableEq, Repr

namespace Parameters

/-- A blank of Unicode, which may surround an integer. The information separators are none. -/
def isSpace (c : Char) : Bool :=
  Text.isBlank c && !(decide (0x1c ≤ c.toNat) && decide (c.toNat ≤ 0x1f))

/-- Removes one plus sign, which no minus may follow. -/
def dropPlus : List Char → Option (List Char)
  | '+' :: '-' :: _ => none
  | '+' :: rest => some rest
  | cs => some cs

/-- Takes one minus sign away, and says whether there was one. -/
def takeMinus : List Char → Bool × List Char
  | '-' :: rest => (true, rest)
  | cs => (false, cs)

/-- The rest of a number after a zero, from its first other digit or a minus sign on; a zero that
stands before a point or at the end stays, and so do zeros behind that minus sign. -/
def afterZeros : Char → List Char → Option (List Char)
  | last, [] => some [last]
  | last, c :: rest =>
    if c = '0' || c = '_' then afterZeros c rest
    else if c.isDigit || c = '-' then some (c :: rest)
    else if c = '.' then some (last :: c :: rest)
    else none

/-- Removes zeros at the beginning. -/
def dropZeros : List Char → Option (List Char)
  | '0' :: rest => afterZeros '0' rest
  | c :: rest => if c.isDigit || c = '-' then some (c :: rest) else none
  | [] => none

/-- Removes a point and the zeros after it, of which there must be some and nothing else. -/
def dropFraction (cs : List Char) : List Char :=
  match Text.cutAt '.' cs with
  | some (whole, c :: fraction) => if (c :: fraction).all (· = '0') then whole else cs
  | _ => cs

/-- Removes underscores that stand alone between other characters. -/
def dropUnderscores (cs : List Char) : Option (List Char) :=
  match cs.splitOn '_' with
  | [part] => some part
  | parts => if parts.any List.isEmpty then none else some parts.flatten

/-- Removes what does not count in a number without its sign. -/
def cleanedDigits (cs : List Char) : Option (List Char) :=
  (dropZeros cs).bind fun cs => dropUnderscores (dropFraction cs)

/-- Removes what does not count in a number: blanks around it, a plus sign, zeros at the beginning,
single underscores inside and a fraction of zeros. -/
def cleaned (cs : List Char) : Option (List Char) := do
  let (negative, digits) := takeMinus (← dropPlus (Text.trimBy isSpace cs))
  let digits ← cleanedDigits digits
  return if negative then '-' :: digits else digits

/-- The most digits that an integer may have. -/
def mostDigits : Nat := 4300

/-- The characters begin with an integer that has too many digits; its sign does not count. A zero
at the beginning ends an integer. -/
def isOverlong (cs : List Char) : Bool :=
  let digits := (takeMinus cs).2.takeWhile Char.isDigit
  digits.head? != some '0' && decide (mostDigits < digits.length)

/-- Digits as they stand in an integer: some, not too many, and a zero in front of no other. -/
def isPlain (digits : List Char) : Bool :=
  !digits.isEmpty && digits.all Char.isDigit && decide (digits.length ≤ mostDigits) &&
    (digits.head? != some '0' || decide (digits.length = 1))

/-- An integer in plain digits, perhaps with a minus sign. -/
def plainInteger? (cs : List Char) : Option Int :=
  let (negative, digits) := takeMinus cs
  if isPlain digits then
    let n : Int := digits.foldl (fun n c => 10 * n + (c.toNat - 48)) 0
    some (if negative then -n else n)
  else none

/-- The integer that a text stands for. Only a text that is too long as it stands is called too
long; one that is so after what does not count was removed is no integer. -/
def integer (s : String) : Except Issue Int :=
  if isOverlong s.toList then .error .integerTooLong
  else (((cleaned s.toList).bind plainInteger?).map .ok).getD (.error .notInteger)

/-- An integer within bounds. -/
def bounded (least most : Option Int) (n : Int) : Except Issue Int :=
  match least.filter (n < ·), most.filter (· < n) with
  | some l, _ => .error (.tooSmall l)
  | none, some m => .error (.tooLarge m)
  | none, none => .ok n

/-- The direction that a text names. -/
def direction (s : String) : Except Issue Direction :=
  match s with
  | "asc" => .ok .ascending
  | "desc" => .ok .descending
  | _ => .error (.noMatch "^(asc|desc)$")

/-- A parameter that is read by `read` if it is given. -/
def given {α : Type} (fields : List (String × String)) (name : String)
    (read : String → Except Issue α) : Except Issue (Option α) :=
  match Text.Percent.last? name fields with
  | some s => (read s).map some
  | none => .ok none

/-- The issue of a parameter, with its name. -/
def issueOf {α : Type} (name : String) (r : Except Issue α) : List (Issue × String) :=
  match r with
  | .ok _ => []
  | .error i => [(i, name)]

/-- An integer of a parameter, between bounds. -/
def integerWithin (least most : Option Int) (s : String) : Except Issue Int := do
  bounded least most (← integer s)

/-- The parameters of a query, or all that is wrong with them. -/
def read (query : List Char) : Except (List (Issue × String)) Parameters :=
  let fields := Text.Percent.fields .kept query
  let status := given fields "status" integer
  let order := given fields "order" direction
  let limit := given fields "limit" (integerWithin (some 1) (some 10000))
  let skip := given fields "skip" (integerWithin (some 0) none)
  match status, order, limit, skip with
  | .ok status, .ok order, .ok limit, .ok skip => .ok {
      method := Text.Percent.last? "method" fields
      status := status
      url := Text.Percent.last? "url" fields
      sort := Text.Percent.last? "sort" fields
      order := order.getD .descending
      limit := limit
      skip := skip.getD 0 }
  | _, _, _, _ => .error (issueOf "status" status ++ issueOf "order" order ++
      issueOf "limit" limit ++ issueOf "skip" skip)

/-- A text that is not empty. -/
def nonEmpty (s : Option String) : Option String := s.filter (· ≠ "")

/-- The filter document: what is to be matched, under the names of the fields of a record. -/
def filter (p : Parameters) : Fields :=
  ((nonEmpty p.method).map fun m => ("method", Value.text (Text.upper m))).toList ++
  (p.status.map fun s => ("status", Value.int s)).toList ++
  ((nonEmpty p.url).map fun u => ("url", Value.text u)).toList

/-- The sort order, if a field is named. -/
def sortOrder (p : Parameters) : Value :=
  match nonEmpty p.sort with
  | some field => .list [.tuple [.text field, .int p.order.number]]
  | none => .absent

/-- The query for the store. The given limit comes before the usual one. -/
def query (p : Parameters) (usualLimit : Value) : Store.Query :=
  { filter := .mapping p.filter, sort := p.sortOrder,
    limit := (p.limit.map Value.int).getD usualLimit, skip := .int p.skip }

end Parameters

end RequestLog.Service
