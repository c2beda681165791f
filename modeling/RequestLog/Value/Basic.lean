import RequestLog.Fault
import RequestLog.Value.Moment
import RequestLog.Text.Latin

/-!
# Values

Everything that a token resolves to, that a setting holds or that a stored document carries is a
value. Most values a record keeps are simple (`isSimple`): a text, a number, a truth value, a
moment, or nothing at all.
-/

namespace RequestLog

/-- A value. A `buffer` is bytes that may change; a `thing` is an object that is known only by how
it presents itself to a reader and by its literal, both of which it may fail to give. -/
inductive Value where
  | absent
  | bool (b : Bool)
  | int (n : Int)
  | float (x : Binary64)
  | text (s : String)
  | bytes (b : Bytes)
  | buffer (b : Bytes)
  | moment (m : Moment)
  | list (items : List Value)
  | tuple (items : List Value)
  | mapping (entries : List (String × Value))
  | thing (presentation literal : Except Fault String)
  deriving Inhabited

namespace Value

/-- There is no value. -/
def isAbsent : Value → Bool
  | absent => true
  | _ => false

/-- The value is one that a record keeps as it is. -/
def isSimple : Value → Bool
  | absent | bool _ | int _ | float _ | text _ | moment _ => true
  | _ => false

/-- The value counts as true. Nothing, zero and whatever is empty do not. -/
def truth : Value → Bool
  | absent => false
  | bool b => b
  | int n => n != 0
  | float x => !x.isZero
  | text s => !s.isEmpty
  | bytes b | buffer b => !b.isEmpty
  | list items | tuple items => !items.isEmpty
  | mapping entries => !entries.isEmpty
  | moment _ | thing .. => true

/-- The first value unless it does not count as true. -/
def orElse (v w : Value) : Value := if v.truth then v else w

/-- The text of a text. -/
def text? : Value → Option String
  | text s => some s
  | _ => none

/-- A text, or nothing. -/
def ofText? (s : Option String) : Value := (s.map text).getD absent

/-- The name of the kind of value, as messages show it. -/
def typeName : Value → String
  | absent => "NoneType"
  | bool _ => "bool"
  | int _ => "int"
  | float _ => "float"
  | text _ => "str"
  | bytes _ => "bytes"
  | buffer _ => "bytearray"
  | moment _ => "datetime.datetime"
  | list _ => "list"
  | tuple _ => "tuple"
  | mapping _ => "dict"
  | thing .. => "object"

mutual

/-- The value can be a key of a mapping; what may change cannot. -/
def unhashable? : Value → Option String
  | list _ => some "list"
  | mapping _ => some "dict"
  | buffer _ => some "bytearray"
  | tuple items => unhashableIn? items
  | _ => none

/-- The first value among several that cannot be a key, by its kind. -/
def unhashableIn? : List Value → Option String
  | [] => none
  | v :: rest => (unhashable? v).orElse fun _ => unhashableIn? rest

end

end Value

/-- Named values in order. -/
abbrev Fields := List (String × Value)

end RequestLog
