import RequestLog.Proofs.Forwarding
import RequestLog.Timing

/-!
# Lifecycles

A request and the response to it are marked with the readings of a clock, and meanwhile other things
are done with them: a moment is captured, the time between the marks or the address of the client
is asked for, and what the request says is changed. A run is told passage by passage
(`Lifecycle.passages`), each with what was before and after it. What one passage keeps, all later
ones keep (`forall_passages`); so a mark of a response is made once and stays, and the address
that a request arrived with stays as well. The main statement is `isOrderly_passages`.
-/

namespace RequestLog

/-- The clock after some more readings. -/
def Clock.after (c : Clock) (readings : Nat) : Clock := { c with taken := c.taken + readings }

theorem Clock.after_after (c : Clock) (m n : Nat) : (c.after m).after n = c.after (m + n) := by
  simp [Clock.after, Nat.add_assoc]

/-! ### Addresses that stay -/

namespace Request

variable {r r' : Request} {address : Value}

/-- The client has an address without regard to the connection: a proxy said it, or it was kept at
the arrival. -/
structure Holds (r : Request) (address : Value) : Prop where
  truth : address.truth
  held : r.ip.orElse r.remoteAddress = address

/-- An address that is held is the address of the client, whatever the connection is. -/
theorem Holds.clientAddress (h : r.Holds address) : r.clientAddress = address := by
  rw [RequestLog.Request.clientAddress, h.held, Value.orElse, if_pos, Value.orElse, if_pos h.truth]
  · rw [Value.orElse, if_pos h.truth]
    exact h.truth

/-- What the request says about its connection and everything else may change. -/
theorem Holds.of_eq (h : r.Holds address) (hip : r'.ip = r.ip)
    (hremote : r'.remoteAddress = r.remoteAddress) : r'.Holds address where
  truth := h.truth
  held := by rw [hip, hremote, h.held]

/-- The address of the client is something, or it is absent. -/
theorem truth_clientAddress (h : r.clientAddress ≠ .absent) : r.clientAddress.truth := by
  unfold clientAddress at h ⊢
  generalize (r.ip.orElse r.remoteAddress).orElse r.socketAddress = v at h ⊢
  unfold Value.orElse at h ⊢
  split
  · assumption
  · rename_i hv
    exact absurd (if_neg hv) h

/-- At its arrival a request comes to hold the address that it has. -/
theorem holds_markedAt (h : r.clientAddress ≠ .absent) (reading : Int) :
    (r.markedAt reading).Holds r.clientAddress where
  truth := truth_clientAddress h
  held := by
    show r.ip.orElse r.clientAddress = r.clientAddress
    rw [clientAddress_eq]
    cases hip : r.ip.truth <;> simp [Value.orElse, hip]

end Request

/-- A request and the response to it, and the clock that their marks are read off. -/
structure Lifecycle where
  clock : Clock
  request : Request
  response : Response

namespace Lifecycle

/-- What is done in a lifecycle. -/
inductive Command where
  /-- marks the arrival of the request -/
  | start
  /-- marks the start of the response -/
  | mark
  /-- captures a moment -/
  | capture
  /-- asks for the time between the two marks -/
  | time (digits : Value)
  /-- asks for the address of the client -/
  | address
  /-- changes what the request says -/
  | change (f : Request → Request)

/-- The command changes neither what a proxy said of the client's address nor what was kept of
it at the arrival. The address of the connection may change. -/
def Command.SparesAddress : Command → Prop
  | change f => ∀ r, (f r).ip = r.ip ∧ (f r).remoteAddress = r.remoteAddress
  | _ => True

/-- What a command tells. -/
inductive Report where
  /-- the moment that was marked at the arrival, or captured -/
  | moment (reading : Option Int)
  /-- whether the start of the response was marked now -/
  | marked (now : Bool)
  /-- what was asked for -/
  | value (v : Except Fault Value)
  /-- nothing -/
  | changed

/-- Does what is commanded. -/
def perform (l : Lifecycle) : Command → Report × Lifecycle
  | .start =>
    let (request, clock) := l.request.start l.clock
    (.moment request.started, { l with request, clock })
  | .mark =>
    let (now, response, clock) := l.response.mark l.clock
    (.marked now, { l with response, clock })
  | .capture =>
    let (reading, clock) := l.clock.read
    (.moment (some reading), { l with clock })
  | .time digits => (.value (Timing.responseTime l.request l.response digits), l)
  | .address => (.value (.ok l.request.clientAddress), l)
  | .change f => (.changed, { l with request := f l.request })

/-- One command in a run: what was before, what was told, and what was after it. -/
structure Passage where
  before : Lifecycle
  command : Command
  report : Report
  after : Lifecycle

namespace Passage

/-- The start of the response was marked. -/
def stamps (p : Passage) : Bool :=
  match p.command, p.report with
  | .mark, .marked true => true
  | _, _ => false

/-- The clock has to be read: the arrival or the start of the response was marked, or a moment was
captured. -/
def reads (p : Passage) : Bool :=
  match p.command with
  | .start | .capture => true
  | _ => p.stamps

/-- The reading that was marked or captured. -/
def reading? (p : Passage) : Option Int :=
  match p.command, p.report with
  | .start, .moment reading | .capture, .moment reading => reading
  | .mark, .marked true => p.after.response.started
  | _, _ => none

end Passage

/-- The passage that a command makes. -/
def passage (l : Lifecycle) (c : Command) : Passage := ⟨l, c, (l.perform c).1, (l.perform c).2⟩

/-- The passages of a run. -/
def passages : Lifecycle → List Command → List Passage
  | _, [] => []
  | l, c :: rest => l.passage c :: (l.perform c).2.passages rest

/-- What a run comes to. -/
def after (l : Lifecycle) (commands : List Command) : Lifecycle :=
  commands.foldl (fun l c => (l.perform c).2) l

variable {l : Lifecycle} {commands : List Command}

/-! ### Runs -/

/-- A stretch of a run is a run from where the passages before have led. -/
theorem passages_eq_append {front back : List Passage}
    (h : l.passages commands = front ++ back) :
    ∃ before since, front = l.passages before ∧ back = (l.after before).passages since := by
  induction front generalizing l commands with
  | nil => exact ⟨[], commands, rfl, h.symm⟩
  | cons p front ih =>
      cases commands with
      | nil => cases h
      | cons c rest =>
          obtain ⟨rfl, hrest⟩ := List.cons.inj h
          obtain ⟨before, since, rfl, rfl⟩ := ih hrest
          exact ⟨c :: before, since, rfl, rfl⟩

/-- A passage in a run begins where the passages before it have led. -/
theorem passages_eq_append_cons {front back : List Passage} {p : Passage}
    (h : l.passages commands = front ++ p :: back) :
    ∃ before c since, front = l.passages before ∧ p = (l.after before).passage c ∧
      back = ((l.after before).perform c).2.passages since := by
  obtain ⟨before, since, hfront, hback⟩ := passages_eq_append h
  cases since with
  | nil => cases hback
  | cons c since =>
      obtain ⟨rfl, rfl⟩ := List.cons.inj hback
      exact ⟨before, c, since, hfront, rfl, rfl⟩

theorem exists_passage_of_mem {p : Passage} (h : p ∈ l.passages commands) :
    ∃ (here : Lifecycle) (c : Command), p = here.passage c := by
  obtain ⟨front, back, hrun⟩ := List.append_of_mem h
  obtain ⟨before, c, -, -, hp, -⟩ := passages_eq_append_cons hrun
  exact ⟨_, c, hp⟩

/-- **Runs.**  What is kept by every command of a kind holds after each passage of a run of such
commands. -/
theorem forall_passages {keeps : Command → Prop} {holds : Lifecycle → Prop}
    (hstep : ∀ l c, keeps c → holds l → holds (l.perform c).2) (hl : holds l)
    (hkeeps : ∀ q ∈ l.passages commands, keeps q.command) :
    ∀ q ∈ l.passages commands, holds q.after := by
  induction commands generalizing l with
  | nil => exact fun q hq => nomatch hq
  | cons c rest ih =>
      obtain ⟨hc, hrest⟩ := List.forall_mem_cons.mp hkeeps
      have hafter : holds (l.perform c).2 := hstep l c hc hl
      exact List.forall_mem_cons.mpr ⟨hafter, ih hafter hrest⟩

/-! ### Marks of the response -/

/-- After marking there is a mark, and it is said to be new exactly if there was none before. -/
theorem marked_iff (l : Lifecycle) :
    ∃ now, (l.perform .mark).1 = .marked now ∧
      (now = true ↔ l.response.started = none ∧ (l.perform .mark).2.response.started.isSome) ∧
      (l.perform .mark).2.response.started.isSome := by
  unfold perform Response.mark
  cases hstarted : l.response.started with
  | none => exact ⟨true, rfl, by simp [Response.markedAt]⟩
  | some n => exact ⟨false, rfl, by simp [hstarted]⟩

/-- No command changes a mark of the response. -/
theorem started_perform {n : Int} (h : l.response.started = some n) (c : Command) :
    (l.perform c).2.response.started = some n := by
  cases c with
  | mark =>
      unfold perform Response.mark
      rw [h]
      exact h
  | _ => exact h

/-- Where the response is marked no command marks it. -/
theorem stamps_of_isSome (h : l.response.started.isSome) (c : Command) :
    (l.passage c).stamps = false := by
  cases c with
  | mark =>
      obtain ⟨n, hn⟩ := Option.isSome_iff_exists.mp h
      simp [passage, perform, Response.mark, hn, Passage.stamps]
  | _ => rfl

/-- A command that marks the response leaves a mark. -/
theorem isSome_of_stamps {c : Command} (h : (l.passage c).stamps) :
    (l.perform c).2.response.started.isSome := by
  cases c with
  | mark =>
      obtain ⟨now, -, -, hmarked⟩ := l.marked_iff
      exact hmarked
  | _ => cases h

/-- In a run from a marked response there is no marking, and in any other one at most. -/
theorem countP_stamps_le (l : Lifecycle) (commands : List Command) :
    (l.passages commands).countP Passage.stamps ≤ if l.response.started.isSome then 0 else 1 := by
  induction commands generalizing l with
  | nil => exact Nat.zero_le _
  | cons c rest ih =>
      have hrest := ih (l.perform c).2
      rw [passages, List.countP_cons]
      cases hstarted : l.response.started with
      | some n =>
          have hmarked : l.response.started.isSome := by rw [hstarted]; rfl
          rw [started_perform hstarted] at hrest
          simpa [stamps_of_isSome hmarked] using hrest
      | none =>
          cases hstamps : (l.passage c).stamps with
          | true =>
              rw [isSome_of_stamps hstamps] at hrest
              simpa using hrest
          | false =>
              have hle : (if (l.perform c).2.response.started.isSome then 0 else 1) ≤ 1 := by
                split <;> omega
              simpa using hrest.trans hle

/-! ### Readings of the clock -/

/-- A command reads the clock once if it has to, and not otherwise. What it then marks or captures
is the next reading. -/
theorem clock_perform (l : Lifecycle) (c : Command) :
    (l.perform c).2.clock = l.clock.after (if (l.passage c).reads then 1 else 0) ∧
      (l.passage c).reading? =
        if (l.passage c).reads then some (l.clock.reading l.clock.taken) else none := by
  cases c with
  | mark =>
      cases hstarted : l.response.started <;>
        simp [passage, perform, Response.mark, hstarted, Passage.reads, Passage.stamps,
          Passage.reading?, Clock.read, Clock.after, Response.markedAt]
  | _ => exact ⟨rfl, rfl⟩

/-- **Clocks.**  After a run the clock has been read as often as there are passages that have to
read it. -/
theorem clock_after (l : Lifecycle) (commands : List Command) :
    (l.after commands).clock =
      l.clock.after ((l.passages commands).countP Passage.reads) := by
  induction commands generalizing l with
  | nil => rfl
  | cons c rest ih =>
      have hstep := (l.clock_perform c).1
      calc ((l.perform c).2.after rest).clock
          = (l.perform c).2.clock.after (((l.perform c).2.passages rest).countP Passage.reads) :=
            ih _
        _ = l.clock.after ((l.passages (c :: rest)).countP Passage.reads) := by
            rw [hstep, Clock.after_after, passages, List.countP_cons, Nat.add_comm]

/-! ### The address of the client -/

/-- A command that spares the address leaves an address that is held. -/
theorem holds_perform {address : Value} {c : Command} (hc : c.SparesAddress)
    (h : l.request.Holds address) : (l.perform c).2.request.Holds address := by
  cases c with
  | start =>
      have haddress := h.clientAddress
      have hpresent : l.request.clientAddress ≠ .absent := by
        intro habsent
        have htruth := h.truth
        rw [← haddress, habsent] at htruth
        cases htruth
      rw [← haddress]
      exact Request.holds_markedAt hpresent _
  | change f => exact h.of_eq (hc _).1 (hc _).2
  | _ => exact h

/-! ### Runs as a whole -/

/-- How a run goes. -/
structure IsOrderly (l : Lifecycle) (run : List Passage) : Prop where
  /-- Marking the response says that it did exactly if it made a mark where there was none, and
  leaves a mark in any case. -/
  marked : ∀ p ∈ run, p.command = .mark → ∃ now, p.report = .marked now ∧
    (now = true ↔ p.before.response.started = none ∧ p.after.response.started.isSome) ∧
    p.after.response.started.isSome
  /-- A mark of the response stays as it is. -/
  kept : ∀ front p back n, run = front ++ p :: back → p.before.response.started = some n →
    ∀ q ∈ p :: back, q.after.response.started = some n
  /-- The response is marked once at most. -/
  once : run.countP Passage.stamps ≤ 1
  /-- The clock gives its readings one by one to the passages that have to read it, and no other
  passage touches it. -/
  readings : ∀ front p back, run = front ++ p :: back →
    let before := front.countP Passage.reads
    p.before.clock = l.clock.after before ∧
      if p.reads then
        p.after.clock = l.clock.after (before + 1) ∧
          p.reading? = some (l.clock.reading (l.clock.taken + before))
      else p.after.clock = p.before.clock ∧ p.reading? = none
  /-- What is marked at the arrival is what is told. -/
  arrival : ∀ p ∈ run, p.command = .start → p.report = .moment p.after.request.started
  /-- Marking the arrival does not change the address of the client, and if there is one it stays
  while no proxy says another one, wherever the connection comes from. -/
  address : ∀ front p back, run = front ++ p :: back → p.command = .start →
    p.after.request.clientAddress = p.before.request.clientAddress ∧
      (p.before.request.clientAddress ≠ .absent → (∀ q ∈ back, q.command.SparesAddress) →
        ∀ q ∈ back, q.after.request.clientAddress = p.before.request.clientAddress)

/-- **Lifecycles.**  Whatever is done with a request and a response, in any order, from any state of
theirs: the response is marked once at most and keeps its mark; the readings of the clock go in
order to the arrivals, the captured moments and the one mark of the response, and nothing else reads
the clock; and a request has the address with which it arrived, also if its connection comes to have
another one. -/
theorem isOrderly_passages (l : Lifecycle) (commands : List Command) :
    l.IsOrderly (l.passages commands) where
  marked := by
    intro p hp hmark
    obtain ⟨here, c, rfl⟩ := exists_passage_of_mem hp
    obtain rfl : c = .mark := hmark
    exact here.marked_iff
  kept := by
    intro front p back n hrun hstarted
    obtain ⟨before, c, since, -, rfl, rfl⟩ := passages_eq_append_cons hrun
    have hstep (l : Lifecycle) (c : Command) (_ : True) (h : l.response.started = some n) :
        (l.perform c).2.response.started = some n := started_perform h c
    change ∀ q ∈ (l.after before).passages (c :: since), q.after.response.started = some n
    exact forall_passages hstep hstarted fun _ _ => trivial
  once := by
    have hle := l.countP_stamps_le commands
    split at hle <;> omega
  readings := by
    intro front p back hrun
    obtain ⟨before, c, since, rfl, rfl, -⟩ := passages_eq_append_cons hrun
    have hbefore := l.clock_after before
    obtain ⟨hafter, hreading⟩ := (l.after before).clock_perform c
    refine ⟨hbefore, ?_⟩
    split
    · rename_i hreads
      rw [if_pos hreads] at hafter hreading
      rw [hbefore] at hafter hreading
      exact ⟨hafter.trans (Clock.after_after _ _ _), hreading⟩
    · rename_i hreads
      rw [if_neg hreads] at hafter hreading
      exact ⟨hafter, hreading⟩
  arrival := by
    intro p hp hstart
    obtain ⟨here, c, rfl⟩ := exists_passage_of_mem hp
    obtain rfl : c = .start := hstart
    rfl
  address := by
    intro front p back hrun hstart
    obtain ⟨before, c, since, -, rfl, rfl⟩ := passages_eq_append_cons hrun
    obtain rfl : c = .start := hstart
    refine ⟨Request.clientAddress_markedAt _ _, fun hpresent hspares q hq => ?_⟩
    have hstep (l' : Lifecycle) (c : Command) (hc : c.SparesAddress)
        (h : l'.request.Holds (l.after before).request.clientAddress) :
        (l'.perform c).2.request.Holds (l.after before).request.clientAddress := holds_perform hc h
    have hstart := Request.holds_markedAt hpresent ((l.after before).clock.read).1
    exact (forall_passages hstep hstart hspares q hq).clientAddress

end Lifecycle

end RequestLog
