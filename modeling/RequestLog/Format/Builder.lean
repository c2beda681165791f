import RequestLog.Record
import RequestLog.Template
import RequestLog.Token.Registry
import RequestLog.Value.Elements

/-!
# Building records

A compiled template builds a record by resolving its placeholders in order, each once. Other
builders may give anything: what they give is turned into a document like a mapping, and counts as
absent when none of its entries carries a value. For each of these it is read once, which need not
come to the same: what can be gone through only once has nothing left for the document.
-/

namespace RequestLog

/-- An object as it is found by those who read it like a mapping, one after the other: its pairs at
the first reading, its literal, and its pairs at the second reading. Each of these it may fail to
give. -/
structure Readings where
  first : Except Fault (List (Value × Value))
  literal : Except Fault String
  second : Except Fault (List (Value × Value))

/-- What a builder gives: a record, any value, or an object that is known by how it is read. -/
inductive Built where
  | record (r : Record)
  | value (v : Value)
  | object (o : Readings)

/-- Makes a record of an exchange with the tokens of a registry. -/
abbrev Builder (σ : Type) : Type := Registry (Resolver σ) → Sight → Act LogLine σ Built

namespace Template

variable {σ : Type}

/-- The values of some placeholders, in order, each under its key. -/
def fieldValues (registry : Registry (Resolver σ)) (sight : Sight) :
    List Placeholder → Act LogLine σ Fields
  | [] => pure []
  | p :: rest => do
    let v ← registry.resolve p.name sight p.argument
    let values ← fieldValues registry sight rest
    return (p.key, v) :: values

/-- The record of an exchange by a compiled template. -/
def build (t : Template) (registry : Registry (Resolver σ)) (sight : Sight) :
    Act LogLine σ Record := do
  return Record.ofList (← fieldValues registry sight t.fields)

end Template

namespace Built

/-- The entry that a pair stands for, given its place in the sequence of pairs. -/
def entry (index : Nat) (v : Value) : Except Fault (Value × Value) :=
  match v.elements? with
  | none => .error (.pairNotSequence index)
  | some [k, w] =>
    match k.unhashable? with
    | some typeName => .error (.unhashable typeName)
    | none => .ok (k, w)
  | some items => .error (.pairLength index items.length)

/-- The entries that a sequence of pairs stands for, from a place on. -/
def entriesFrom : Nat → List Value → Except Fault (List (Value × Value))
  | _, [] => .ok []
  | index, v :: rest => do
    let e ← entry index v
    let es ← entriesFrom (index + 1) rest
    return e :: es

/-- A value as a document: a mapping, or a sequence of pairs. -/
def documentOf (v : Value) : Except Fault Document :=
  match v with
  | .mapping entries => .ok (Document.ofFields entries)
  | v => do return Document.ofPairs (← entriesFrom 0 (← v.elements))

/-- What goes through the pairs of a sequence once: they are there for the first reading alone. -/
def once (items : List Value) : Built :=
  .object {
    first := entriesFrom 0 items
    literal := .ok "<generator object>"
    second := .ok [] }

/-- Nothing that the builder gave carries a value, as it is read first. -/
def isAbsent (b : Built) : Except Fault Bool :=
  match b with
  | .record r => .ok r.isAbsent
  | .value .absent => .ok true
  | .value v => do return (← documentOf v).all fun e => e.2.isAbsent
  | .object o => do return (Document.ofPairs (← o.first)).all fun e => e.2.isAbsent

/-- The document for the store, as what the builder gave is read again. -/
def document (b : Built) (omitAbsent : Bool) : Except Fault Document :=
  match b with
  | .record r => .ok (r.document omitAbsent)
  | .value v => do return Document.withoutAbsent omitAbsent (← documentOf v)
  | .object o => do return Document.withoutAbsent omitAbsent (Document.ofPairs (← o.second))

/-- How the result of a builder presents itself. -/
def literal (b : Built) : Except Fault String :=
  match b with
  | .record r => r.literal
  | .value v => v.literal
  | .object o => o.literal

end Built

end RequestLog
