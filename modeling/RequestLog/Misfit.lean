/-!
# Values that do not fit

A form says of which kind each of its parts has to be. A misfit is a value that does not fit its
part; `report` tells of several of them, each with its place and, shortened if it is long, its
literal.
-/

namespace RequestLog

/-- Why a value does not fit. -/
inductive Misfit.Reason where
  /-- no text -/
  | noText
  /-- bytes that are no text -/
  | noTextInBytes
  /-- no integer, and nothing that may stand for one -/
  | noInteger
  /-- a text that stands for no integer -/
  | malformedInteger
  /-- an integer that is too large -/
  | integerTooLarge
  /-- a number that is no integer -/
  | fractional
  /-- no finite number -/
  | infinite
  /-- no truth value, and nothing that may stand for one -/
  | noTruth
  /-- something that stands for no truth value -/
  | unknownTruth
  deriving DecidableEq, Repr

/-- The name of a reason. -/
def Misfit.Reason.name : Misfit.Reason → String
  | noText => "string_type"
  | noTextInBytes => "string_unicode"
  | noInteger => "int_type"
  | malformedInteger => "int_parsing"
  | integerTooLarge => "int_parsing_size"
  | fractional => "int_from_float"
  | infinite => "finite_number"
  | noTruth => "bool_type"
  | unknownTruth => "bool_parsing"

/-- What a value should be, by the reason why it does not fit. -/
def Misfit.Reason.advice : Misfit.Reason → String
  | noText => "Input should be a valid string"
  | noTextInBytes =>
    "Input should be a valid string, unable to parse raw data as a unicode string"
  | noInteger => "Input should be a valid integer"
  | malformedInteger =>
    "Input should be a valid integer, unable to parse string as an integer"
  | integerTooLarge => "Unable to parse input string as an integer, exceeded maximum size"
  | fractional => "Input should be a valid integer, got a number with a fractional part"
  | infinite => "Input should be a finite number"
  | noTruth => "Input should be a valid boolean"
  | unknownTruth => "Input should be a valid boolean, unable to interpret input"

/-- A value that does not fit: its place in the form, the reason, its literal and its kind. -/
structure Misfit where
  place : List String
  reason : Misfit.Reason
  literal : String
  typeName : String
  deriving DecidableEq, Repr

namespace Misfit

/-- The first characters whose UTF-8 takes no more than so many bytes. -/
def takeBytes : Nat → List Char → List Char
  | _, [] => []
  | n, c :: rest => if c.utf8Size ≤ n then c :: takeBytes (n - c.utf8Size) rest else []

/-- A text of at most fifty bytes: the beginning and the end of a longer one, with three points
between them. -/
def shortened (s : String) : String :=
  if s.utf8ByteSize ≤ 50 then s
  else
    String.ofList (takeBytes 25 s.toList ++ ['.', '.', '.'] ++
      (takeBytes 24 s.toList.reverse).reverse)

/-- A step of a place. One that has a point in itself is set off. -/
def stepText (step : String) : String :=
  if step.toList.contains '.' then "`" ++ step ++ "`" else step

/-- The version of the rules that values are checked by. -/
def rulesVersion : String := "2.14"

/-- Where the reasons are explained. -/
def explanations : String := "https:" ++ "//errors.pydantic.dev/" ++ rulesVersion ++ "/v/"

/-- The lines that tell of one misfit. -/
def lines (m : Misfit) : String :=
  ".".intercalate (m.place.map stepText) ++ "\n  " ++ m.reason.advice ++
    " [type=" ++ m.reason.name ++ ", input_value=" ++ shortened m.literal ++
    ", input_type=" ++ m.typeName ++ "]\n    For further information visit " ++
    explanations ++ m.reason.name

/-- What is wrong with the values of a form. -/
def report (form : String) (found : List Misfit) : String :=
  toString found.length ++ " validation error" ++ (if found.length = 1 then "" else "s") ++
    " for " ++ form ++ "\n" ++ "\n".intercalate (found.map lines)

end Misfit

end RequestLog
