import RequestLog.Value.Equality

/-!
# Documents

A document is what a store keeps of one exchange: values under keys, in order. The keys of a record
are its names; another builder may use keys of any kind that cannot change. Keys that are equal as
values are one key, as a truth value and the number that it counts as are.
-/

namespace RequestLog

/-- A document: values under keys, in order. -/
abbrev Document := List (Value × Value)

namespace Document

/-- The document of named values. -/
def ofFields (fields : Fields) : Document := fields.map fun e => (.text e.1, e.2)

/-- The document after a key has taken a value: at its place, or at the end if the key is new. -/
def put (key v : Value) : Document → Document
  | [] => [(key, v)]
  | (k, w) :: rest => if k.same key then (k, v) :: rest else (k, w) :: put key v rest

/-- The document of pairs: a key that comes again keeps its first place and takes the last
value. -/
def ofPairs (pairs : List (Value × Value)) : Document :=
  pairs.foldl (fun d p => put p.1 p.2 d) []

/-- The entries without those that carry no value, if they are to be left out. -/
def withoutAbsent (omitAbsent : Bool) (d : Document) : Document :=
  if omitAbsent then d.filter fun e => !e.2.isAbsent else d

end Document

end RequestLog
