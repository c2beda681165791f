import RequestLog.Fault
import RequestLog.Table
import RequestLog.Value.Keyed
import RequestLog.Value.Literal

/-!
# Records

A record holds the named values of one exchange, in order and each name once. It does not change;
`document` gives the entries for the store, with or without the absent ones. Two records are equal
when they have the same names and equal values under each, whatever the order.
-/

namespace RequestLog

/-- Named values in order, no name twice. -/
structure Record where
  fields : Table Value

namespace Record

/-- A record of pairs: a name that comes again keeps its first place and takes the last value. -/
def ofList (pairs : Fields) : Record := ⟨Table.ofList pairs⟩

/-- The names in order. -/
def keys (r : Record) : List String := r.fields.keys

/-- The values in order. -/
def values (r : Record) : List Value := r.fields.entries.map (·.2)

/-- How many fields the record has. -/
def size (r : Record) : Nat := r.fields.entries.length

/-- The value under a name, or nothing for a name that is not there. -/
def get? (r : Record) (key : String) : Option Value := r.fields.get? key

/-- The value under a name that must be there. -/
def get (r : Record) (key : String) : Except Fault Value :=
  match r.get? key with
  | some v => .ok v
  | none => .error (.missingKey key)

/-- No field carries a value. A record without fields is absent too. -/
def isAbsent (r : Record) : Bool := r.values.all Value.isAbsent

/-- The document for the store. -/
def document (r : Record) (omitAbsent : Bool) : Document :=
  Document.withoutAbsent omitAbsent (Document.ofFields r.fields.entries)

/-- Records do not change. -/
def set (_ : Record) (_ : String) (_ : Value) : Except Fault Record := .error .recordReadOnly

/-- The two records have the same names and equal values under each. -/
def same (r s : Record) : Bool :=
  Value.same (.mapping r.fields.entries) (.mapping s.fields.entries)

/-- How a record presents itself. -/
def literal (r : Record) : Except Fault String := do
  return "Record(" ++ (← (Value.mapping r.fields.entries).literal) ++ ")"

end Record

end RequestLog
