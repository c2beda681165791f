import RequestLog.Format.Builder
import RequestLog.Service.Json
import RequestLog.Service.Parameters

/-!
# Pages

What the service shows has a form: a page of records, or a word on its own health. Each part of a
form is checked by its kind, and everything that does not fit is reported at once. A part may be
given as something that stands for it: an integer as a text, a text as bytes.
-/

namespace RequestLog.Service

/-- A result, or all that does not fit. -/
abbrev Checked (α : Type) : Type := Except (List Misfit) α

/-- The name of the kind of a value as reports show it. -/
def shownTypeName : Value → String
  | .moment _ => "datetime"
  | v => v.typeName

/-- The literal of a value as reports show it, or its kind if it has no literal. -/
def shownLiteral (v : Value) : String :=
  match v.literal with
  | .ok s => s
  | .error _ => "<unprintable " ++ shownTypeName v ++ " object>"

/-- What was read of a value at a place. -/
def fitted {α : Type} (place : List String) (v : Value) (r : Except Misfit.Reason α) : Checked α :=
  r.mapError fun reason => [⟨place, reason, shownLiteral v, shownTypeName v⟩]

/-- Both results, or all that does not fit. -/
def both {α β : Type} : Checked α → Checked β → Checked (α × β)
  | .ok a, .ok b => .ok (a, b)
  | .error found, .ok _ | .ok _, .error found => .error found
  | .error found, .error others => .error (found ++ others)

/-- All results, or all that does not fit. -/
def together {α : Type} : List (Checked α) → Checked (List α)
  | [] => .ok []
  | r :: rest => (both r (together rest)).map fun p => p.1 :: p.2

/-! ### The kinds of parts -/

/-- The text that a value is or stands for. -/
def textOf (v : Value) : Except Misfit.Reason String :=
  match v with
  | .text s => .ok s
  | .bytes b | .buffer b =>
    match Text.Utf8.decode? b with
    | some s => .ok s
    | none => .error .noTextInBytes
  | _ => .error .noText

/-- The integer that a text stands for. -/
def integerOfText (s : String) : Except Misfit.Reason Int :=
  (Parameters.integer s).mapError fun
    | .integerTooLong => .integerTooLarge
    | _ => .malformedInteger

/-- The bound that a fractional value must stay below to stand for an integer. -/
def fractionBound : Nat := Nat.pow 2 63

/-- The integer that a fractional value is. -/
def integerOfFraction (x : Binary64) : Except Misfit.Reason Int :=
  match x with
  | .finite s m e =>
    let n := Binary64.roundToInt s m e
    if !x.isInt n then .error .fractional
    else if n.natAbs < fractionBound then .ok n
    else .error .integerTooLarge
  | _ => .error .infinite

/-- The integer that a value is or stands for. -/
def integerOf (v : Value) : Except Misfit.Reason Int :=
  match v with
  | .int n => .ok n
  | .bool b => .ok (if b then 1 else 0)
  | .float x => integerOfFraction x
  | .text s => integerOfText s
  | .bytes b => ((Text.Utf8.decode? b).map integerOfText).getD (.error .malformedInteger)
  | _ => .error .noInteger

/-- The truth value that an integer stands for. -/
def truthOfInteger (n : Int) : Except Misfit.Reason Bool :=
  if n = 0 then .ok false
  else if n = 1 then .ok true
  else if -(fractionBound : Int) ≤ n ∧ n < fractionBound then .error .unknownTruth
  else .error .noTruth

/-- The words that stand for what holds. -/
def yesWords : List String := ["1", "t", "y", "on", "yes", "true"]

/-- The words that stand for what does not hold. -/
def noWords : List String := ["0", "f", "n", "off", "no", "false"]

/-- The truth value that a word stands for, in any case. -/
def truthOfText (s : String) : Except Misfit.Reason Bool :=
  if s.toLower ∈ yesWords then .ok true
  else if s.toLower ∈ noWords then .ok false
  else .error .unknownTruth

/-- The truth value that a value is or stands for. -/
def truthOf (v : Value) : Except Misfit.Reason Bool :=
  match v with
  | .bool b => .ok b
  | .int n => truthOfInteger n
  | .float x => ((integerOfFraction x).mapError fun _ => .noTruth).bind truthOfInteger
  | .text s => truthOfText s
  | .bytes b => ((Text.Utf8.decode? b).map truthOfText).getD (.error .unknownTruth)
  | _ => .error .noTruth

/-! ### Forms -/

/-- A stored document as it is shown: its identifier becomes a text. -/
def shownDocument (v : Value) : Except Fault Document := do
  (← (Built.value v).document false).mapM fun e =>
    if e.1.text? = some "_id" then return (e.1, .text (← e.2.present)) else return e

/-- A key as a step of a place. -/
def keyStep (key : Value) : String :=
  match key with
  | .text s => s
  | .bool b => if b then "1" else "0"
  | key => shownLiteral key

/-- A shown document with the texts that its keys are or stand for. -/
def row (index : Nat) (d : Document) : Checked Fields :=
  (together (d.map fun e =>
    (fitted ["records", toString index, keyStep e.1, "[key]"] e.1 (textOf e.1)).map
      fun key => (key, e.2))).map fun fields => (Table.ofList fields).entries

/-- The shown form, or the fault that something in it does not fit. -/
def filled {α : Type} (form : String) (r : Checked α) : Except Fault α :=
  r.mapError (.misfits form)

/-- A page of records: the documents, their number, and the limit and skip that they were asked for
with. -/
def page (documents : List Value) (limit : Value) (skip : Int) : Except Fault Value := do
  let shown ← documents.mapM shownDocument
  let rows := together (shown.zipIdx.map fun p => row p.2 p.1)
  let (rows, limit) ←
    filled "LogListResponse" (both rows (fitted ["limit"] limit (integerOf limit)))
  let rows ← rows.mapM Json.plainFields
  return .mapping [("records", .list (rows.map .mapping)), ("count", .int documents.length),
    ("limit", .int limit), ("skip", .int skip)]

/-- The version of the service. -/
def version : String := "0.1.0"

/-- How the service is: whether its sink has a target, how many batches it has not reported, and
when. -/
def condition (configured pending : Value) (now : Moment) : Except Fault Value := do
  let (configured, pending) ← filled "HealthResponse"
    (both (fitted ["target_configured"] configured (truthOf configured))
      (fitted ["pending_writes"] pending (integerOf pending)))
  return .mapping [("status", .text "healthy"), ("version", .text version),
    ("target_configured", .bool configured), ("pending_writes", .int pending),
    ("timestamp", .text (now.isoText 'T'))]

end RequestLog.Service
