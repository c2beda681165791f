import RequestLog.Act
import RequestLog.LogLine
import RequestLog.Store.Address
import RequestLog.Value.Elements
import RequestLog.Value.Keyed
import RequestLog.Value.Literal

/-!
# Talking to the store

Every operation on the store opens a connection of its own, and closes it again whatever happens
in between. The store's client is a component outside the library: each call on it is noted as an
event, and it answers with a reply or a fault. An insert may have to wait; it is then begun and
ended separately.
-/

namespace RequestLog.Store

/-- Where records go. -/
structure Target where
  address : Value := .absent
  database : Value := .absent
  collection : Value := .absent
  deriving Inhabited

/-- The parts of a target that are missing, in order. -/
def Target.missing (t : Target) : List String :=
  ([("url", t.address), ("db", t.database), ("collection", t.collection)].filter
    fun p => !p.2.truth).map (·.1)

/-- No part of the target is missing. -/
def Target.isComplete (t : Target) : Bool :=
  t.address.truth && t.database.truth && t.collection.truth

/-- How the target is named in log lines. -/
def Target.label (t : Target) : Except Fault String := do
  return (← t.database.present) ++ "." ++ (← t.collection.present)

/-- What a connection is opened with. -/
structure Connection where
  address : Value
  timeout : Value
  encrypted : Bool

/-- A call on the store's client. -/
inductive Call where
  | connect (connection : Connection)
  | select (database collection : Value)
  | insert (database collection : Value) (documents : List Document)
  | find (database collection filter : Value)
  | sort (pairs : List Value)
  | skip (count : Value)
  | limit (count : Value)
  | fetch (count : Value)
  | await (ticket : Nat)
  | close

/-- What the client replies: that something is done, how many documents it inserted, the documents
it found, or that the answer to the call has to be waited for. -/
inductive Reply where
  | done
  | inserted (count : Nat)
  | found (documents : List Value)
  | waiting (ticket : Nat)

/-- The store's client. -/
abbrev Client (σ : Type) : Type := Call → Step σ Reply

/-- The client, and the time it may take to find a server. -/
structure Access (σ : Type) where
  client : Client σ
  timeout : Value

/-- What happens while the store is used. -/
inductive Event where
  | call (c : Call)
  | log (line : LogLine)

/-- The call, if the event is one. -/
def Event.call? : Event → Option Call
  | .call c => some c
  | .log _ => none

/-- The line that was written to the log, if the event is that one was. -/
def Event.line? : Event → Option LogLine
  | .log line => some line
  | .call _ => none

variable {σ : Type}

/-- Makes a call. -/
def perform (client : Client σ) (c : Call) : Act Event σ Reply := do
  Act.note (.call c)
  Act.ask (client c)

/-- Makes a call, and waits for its answer if need be. -/
def performAwaited (client : Client σ) (c : Call) : Act Event σ Reply := do
  match ← perform client c with
  | .waiting ticket => perform client (.await ticket)
  | reply => return reply

/-- Does something with an open connection and closes it. -/
def closing {α : Type} (client : Client σ) (m : Act Event σ α) : Act Event σ α :=
  m.andFinally (do let _ ← perform client .close)

/-- The address decides whether a connection is encrypted. It must be a text: bytes are taken apart
like one before they are refused, and so is whatever stands for an empty address. -/
def encrypted (address : Value) : Except Fault Bool :=
  match address with
  | .text url => Address.isEncrypted url
  | .bytes b => do
    let _ ← Address.asciiOptions b
    .error .bytesExpected
  | v =>
    match v.unhashable? with
    | some typeName => .error (.unhashable typeName)
    | none => .error (.noOperation v.typeName (if v.truth then "decode" else "startswith"))

/-- What the connection to a target is opened with. The target must be complete. -/
def connection (access : Access σ) (t : Target) : Except Fault Connection :=
  if t.isComplete then do return ⟨t.address, access.timeout, ← encrypted t.address⟩
  else .error (.targetIncomplete t.missing)

/-- Opens the connection to a target. -/
def connect (access : Access σ) (t : Target) : Act Event σ Unit := do
  let o ← Act.ofExcept (connection access t)
  let _ ← perform access.client (.connect o)

/-! ### Inserting -/

/-- The line that reports an insert. -/
def insertedLine (t : Target) (count : Nat) : Except Fault LogLine := do
  return ⟨.debug, .store,
    "Inserted " ++ toString count ++ " record(s) into " ++ (← t.label)⟩

/-- Ends an insert whose outcome is there: reports it and closes the connection. -/
def endInsert (client : Client σ) (t : Target) (documents : List Document)
    (outcome : Except Fault Reply) : Act Event σ Reply :=
  closing client do
    let reply ← Act.ofExcept outcome
    Act.note (.log (← Act.ofExcept (insertedLine t documents.length)))
    return reply

/-- How far an insert that has been begun has come. -/
inductive Progress where
  | ended (reply : Reply)
  | waiting (ticket : Nat)

/-- Begins an insert, and ends it unless it has to wait. -/
def beginInsert (access : Access σ) (t : Target) (documents : List Document) :
    Act Event σ Progress := do
  connect access t
  let asked : Act Event σ Reply := do
    let _ ← perform access.client (.select t.database t.collection)
    perform access.client (.insert t.database t.collection documents)
  match ← asked.attempt with
  | .ok (.waiting ticket) => return .waiting ticket
  | outcome => return .ended (← endInsert access.client t documents outcome)

/-- Inserts documents. -/
def insert (access : Access σ) (t : Target) (documents : List Document) : Act Event σ Reply := do
  match ← beginInsert access t documents with
  | .ended reply => return reply
  | .waiting ticket =>
    endInsert access.client t documents (← (perform access.client (.await ticket)).attempt)

/-! ### Finding -/

/-- What is looked for: a filter, an order, and which part of the result. -/
structure Query where
  filter : Value := .absent
  sort : Value := .absent
  limit : Value := .int 1000
  skip : Value := .int 0

/-- The limit when none is given. -/
def usualLimit : Value := .int 1000

/-- A pair of a sort order. -/
def sortPair (v : Value) : Except Fault Value := do return .tuple (← v.elements)

/-- The pairs of a sort order, which is a mapping or a sequence of pairs. -/
def sortPairs (v : Value) : Except Fault (List Value) :=
  if !v.truth then .ok []
  else
    match v with
    | .mapping entries => .ok (entries.map fun e => .tuple [.text e.1, e.2])
    | v => do (← v.elements).mapM sortPair

/-- Finds documents. A limit or a skip of zero stands for the usual one. -/
def find (access : Access σ) (t : Target) (q : Query) : Act Event σ (List Value) := do
  let limit := q.limit.orElse usualLimit
  let skip := q.skip.orElse (.int 0)
  connect access t
  closing access.client do
    let _ ← perform access.client (.select t.database t.collection)
    let _ ← perform access.client
      (.find t.database t.collection (q.filter.orElse (.mapping [])))
    let pairs ← Act.ofExcept (sortPairs q.sort)
    if !pairs.isEmpty then
      let _ ← perform access.client (.sort pairs)
    let _ ← perform access.client (.skip skip)
    let _ ← perform access.client (.limit limit)
    match ← performAwaited access.client (.fetch limit) with
    | .found documents => return documents
    | _ => return []

end RequestLog.Store
