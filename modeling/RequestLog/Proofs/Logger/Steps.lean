import RequestLog.Logger
import RequestLog.Proofs.Run
import RequestLog.Proofs.Scope

/-!
# Single steps of the logger

What the parts of the logger do, each by an equation: reading the clock, marking the start of a
response, letting one message through, and serving what is or is not a request. What goes wrong in
logging is reported and settled, as long as it has a wording (`logRequest_apply`).
-/

namespace RequestLog.Logger

variable {ε Q R σ : Type} (l : Logger σ) (w : Surroundings ε Q R σ)

theorem readClock_apply (s : σ) :
    (l.readClock : Act (Event Q ε) σ Int) s =
      ⟨[.clockRead (l.clock s).1], .ok (l.clock s).1, (l.clock s).2⟩ := rfl

/-- The start of a response that has none is marked by the next reading of the clock. -/
theorem markStart_unmarked {r : Response} (h : r.started = none) (s : σ) :
    (l.markStart r : Act (Event Q ε) σ Response) s =
      ⟨[.clockRead (l.clock s).1], .ok (r.markedAt (l.clock s).1), (l.clock s).2⟩ := by
  unfold markStart
  rw [h]
  rfl

theorem markStart_marked {r : Response} {n : Int} (h : r.started = some n) (s : σ) :
    (l.markStart r : Act (Event Q ε) σ Response) s = ⟨[], .ok r, s⟩ := by
  unfold markStart
  rw [h]
  rfl

/-- Marking the start of a response never fails. -/
theorem markStart_ok (r : Response) (s : σ) :
    ∃ marked, ((l.markStart r : Act (Event Q ε) σ Response) s).result = .ok marked := by
  cases h : r.started with
  | none => exact ⟨_, congrArg Outcome.result (l.markStart_unmarked h s)⟩
  | some n => exact ⟨_, congrArg Outcome.result (l.markStart_marked h s)⟩

/-- The line that reports a fault in logging. -/
def failedLine (wording : String) : LogLine :=
  ⟨.error, .requests, "Request logging failed: " ++ wording⟩

/-- What a fault in logging leaves in the log: a line, if it has a wording. -/
def report (f : Fault) : List (Event Q ε) :=
  (f.message.toOption.map failedLine).toList.map .logged

/-- What the logging of an exchange comes to in the end: there is no record where it failed, and no
fault is left but the one that wording it fails with. -/
def settled : Except Fault (Option Built) → Except Fault (Option Built)
  | .ok b => .ok b
  | .error f => f.message.map fun _ => none

/-- Logging an exchange, and then reporting the fault, if there is one. -/
theorem logRequest_apply (request : Request) (response : Response) (s : σ) :
    let exchange : Outcome (Event Q ε) σ (Option Built) := l.logExchange request response s
    (l.logRequest request response : Act (Event Q ε) σ (Option Built)) s =
      ⟨exchange.events ++ (match exchange.result with
          | .ok _ => []
          | .error f => report f),
        settled exchange.result, exchange.state⟩ := by
  intro exchange
  unfold logRequest
  rw [Act.bind_of_ok (Act.attempt_apply _ s)]
  cases hresult : exchange.result with
  | ok b => simp [exchange, settled, Outcome.after]
  | error f =>
      cases hmessage : f.message with
      | error g =>
          simp [exchange, settled, report, hmessage, Outcome.after, Act.bind_apply,
            Except.toOption, Except.map]
      | ok wording =>
          simp [exchange, settled, report, hmessage, Outcome.after, Act.bind_apply,
            Except.toOption, Except.map, log, failedLine]

/-- Where a fault is left in the end, logging failed with one that has no wording. -/
theorem settled_eq_error_iff {r : Except Fault (Option Built)} {g : Fault} :
    settled r = .error g ↔ ∃ f, r = .error f ∧ f.message = .error g := by
  cases r with
  | ok b => simp [settled]
  | error f => cases h : f.message <;> simp [settled, h, Except.map]

/-! ### Letting a message through -/

/-- A message without a type is refused before the server sees it. -/
theorem forward_untyped {m : Message} (h : m.kind = none) (r : Response) :
    l.forward w r m = pure (r, .error (.missingKey "type")) := by
  unfold forward
  simp [h]

/-- A message that starts a response: the start is marked, status and headers are taken, and the
headers count as sent if the server takes the message. -/
theorem forward_start {m : Message} (h : m.isStart) (r : Response) :
    l.forward w r m = do
      let r ← l.markStart r
      let outcome ← w.sendMessage m
      return (if outcome.isOk then { r.captureStart m with headersSent := .bool true }
        else r.captureStart m, outcome) := by
  have htyped : m.kind.isNone = false := by
    cases hkind : m.kind with
    | none => simp [Message.isStart, hkind] at h
    | some v => rfl
  unfold forward
  simp [h, htyped]

/-- Any other message: the response is finished if the server takes the last part of it. -/
theorem forward_other {m : Message} (htyped : m.kind.isSome) (h : m.isStart = false)
    (r : Response) :
    l.forward w r m = do
      let outcome ← w.sendMessage m
      return (if outcome.isOk && m.isLast then { r with finished := .bool true } else r,
        outcome) := by
  have htyped' : m.kind.isNone = false := by
    rw [Option.isNone_eq_false_iff]
    exact htyped
  unfold forward
  simp [h, htyped']

/-! ### Serving -/

/-- What is no request passes through. -/
theorem serve_other {scope : Scope} {kind : Value} (h : scope.kind = some kind)
    (hother : kind.text? ≠ some "http") (app : App Q R) :
    l.serve w scope app = app.call w := by
  unfold serve App.call
  rw [h]
  simp [hother]

variable {scope : Scope} {request : Request}

/-- In immediate mode a request is logged before the application is called. -/
theorem serve_immediate (h : scope.kind = some (.text "http")) (hi : l.immediate = true)
    (hr : Request.ofScope scope l.trustProxy = .ok request) (app : App Q R) :
    l.serve w scope app = (do
      let n ← l.readClock
      let response ← l.markStart {}
      let _ ← l.logRequest (request.markedAt n) response
      app.call w) := by
  unfold serve App.call
  rw [h]
  simp only [Value.text?, hr, hi, if_true]
  exact Act.ofExcept_ok_bind _ _

/-- Otherwise it is logged when the application has ended. -/
theorem serve_deferred (h : scope.kind = some (.text "http")) (hi : l.immediate = false)
    (hr : Request.ofScope scope l.trustProxy = .ok request) (app : App Q R) :
    l.serve w scope app = (do
      let n ← l.readClock
      let (response, outcome) ← l.watch w app {}
      let _ ← l.logRequest (request.markedAt n) response
      Act.ofExcept outcome) := by
  unfold serve
  rw [h]
  simp only [Value.text?, if_false, hr, hi, Bool.false_eq_true]
  exact Act.ofExcept_ok_bind _ _

/-! ### A small logger -/

/-- A logger whose clock counts its readings, whose records hold the status token alone, and whose
sink takes everything. -/
def ofStatus : Logger Nat where
  clock n := (n, n + 1)
  now := ⟨2024, 5, 1, 12, 0, 0, 0, none⟩
  build sight := do
    return .record (Record.ofList
      [("status", ← Act.ofExcept (Token.Builtin.status.evaluate sight none))])
  submit _ n := (.ok (), n)

end RequestLog.Logger
