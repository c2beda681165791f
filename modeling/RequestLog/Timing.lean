import RequestLog.Exchange
import RequestLog.Number.Places

/-!
# Timing

A clock gives one reading after another, in nanoseconds. A request is marked with a reading when it
arrives and a response when it starts, and only then; the time between the two marks is what a
response took.
-/

namespace RequestLog

/-- A clock: its readings, and how many have been taken. -/
structure Clock where
  reading : Nat → Int
  taken : Nat := 0

namespace Clock

/-- A clock that gives the readings in order and then the last one again and again. -/
def ofList (readings : List Int) : Clock := ⟨fun n => readings.getD n (readings.getLastD 0), 0⟩

/-- Takes the next reading. -/
def read (c : Clock) : Int × Clock := (c.reading c.taken, { c with taken := c.taken + 1 })

end Clock

/-- The request with its arrival marked by a reading, and the client's address kept as it is
now. -/
def Request.markedAt (r : Request) (reading : Int) : Request :=
  { r with remoteAddress := r.clientAddress, started := some reading }

/-- Marks the arrival of a request. -/
def Request.start (r : Request) (c : Clock) : Request × Clock :=
  let (reading, c) := c.read
  (r.markedAt reading, c)

/-- The response with its start marked by a reading. -/
def Response.markedAt (r : Response) (reading : Int) : Response :=
  { r with started := some reading }

/-- Marks the start of a response unless it is marked, and says whether it did. -/
def Response.mark (r : Response) (c : Clock) : Bool × Response × Clock :=
  match r.started with
  | some _ => (false, r, c)
  | none =>
    let (reading, c) := c.read
    (true, r.markedAt reading, c)

namespace Timing

/-- Nanoseconds in a millisecond. -/
def perMillisecond : Nat := 1000000

/-- The largest magnitude of an integer that is still near a fractional value. -/
def tooLarge (n : Int) : Bool := !(Binary64.ofInt n).isFinite

/-- The milliseconds between two readings. -/
def elapsed (started ended : Int) : Except Fault Binary64 :=
  if tooLarge (ended - started) then .error .integerTooLarge
  else .ok ((Binary64.ofInt (ended - started)).divNat perMillisecond)

/-- The integer that a value gives as a number of decimal places. -/
def places (v : Value) : Except Fault Int :=
  match v with
  | .int n => .ok n
  | .bool b => .ok (if b then 1 else 0)
  | v => .error (.integerExpected v.typeName)

/-- A time rounded to a number of decimal places, or to an integer if none is given. -/
def round (x : Binary64) (digits : Value) : Except Fault Value :=
  match digits, x with
  | .absent, .finite s m e => .ok (.int (Binary64.roundToInt s m e))
  | digits, x => do
    let n ← places digits
    match x.roundTo n with
    | some y => return .float y
    | none => .error .roundedTooLarge

/-- The milliseconds from the arrival of the request to the start of the response, rounded; absent
when one of the two is not marked. -/
def responseTime (request : Request) (response : Response) (digits : Value) :
    Except Fault Value :=
  match request.started, response.started with
  | some a, some b => do round (← elapsed a b) digits
  | _, _ => .ok .absent

end Timing

end RequestLog
