import RequestLog.Fault
import RequestLog.Number.Decimal
import RequestLog.Number.Numeral
import RequestLog.Text.Quoted
import RequestLog.Value.Basic

/-!
# Values as texts

`literal` writes a value so that its kind shows: a text stands in quotation marks, a list in
brackets. `present` writes it for a reader: a text stands as it is, and an object as it presents
itself. Either may fail, as an object may, and as an integer of too many digits does, wherever it
stands in a value.
-/

namespace RequestLog.Value

/-- An integer in decimal digits, unless these are too many. -/
def integerLiteral (n : Int) : Except Fault String :=
  if (Nat.toDigits 10 n.natAbs).length ≤ Numeral.mostDigits then .ok (toString n)
  else .error .integerUnwritable

mutual

/-- A value so that its kind shows. -/
def literal : Value → Except Fault String
  | absent => .ok "None"
  | bool b => .ok (if b then "True" else "False")
  | int n => integerLiteral n
  | float x => .ok x.text
  | text s => .ok (Text.Quoted.quote s)
  | bytes b => .ok (Text.Quoted.quoteBytes b)
  | buffer b => .ok (Text.Quoted.quoteBuffer b)
  | moment m => .ok m.constructorText
  | list items => do return "[" ++ ", ".intercalate (← literals items) ++ "]"
  | tuple [v] => do return "(" ++ (← literal v) ++ ",)"
  | tuple items => do return "(" ++ ", ".intercalate (← literals items) ++ ")"
  | mapping entries => do return "\x7b" ++ ", ".intercalate (← entryLiterals entries) ++ "\x7d"
  | thing _ written => written

/-- The literals of several values. -/
def literals : List Value → Except Fault (List String)
  | [] => .ok []
  | v :: rest => do return (← literal v) :: (← literals rest)

/-- The entries of a mapping, each with a colon. -/
def entryLiterals : List (String × Value) → Except Fault (List String)
  | [] => .ok []
  | (k, v) :: rest => do
    return (Text.Quoted.quote k ++ ": " ++ (← literal v)) :: (← entryLiterals rest)

end

/-- A value for a reader, or the fault of an object that fails to present itself. -/
def present : Value → Except Fault String
  | text s => .ok s
  | moment m => .ok (m.isoText ' ')
  | thing shown _ => shown
  | v => literal v

end RequestLog.Value
