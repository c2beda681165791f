import RequestLog.Proofs.Store.Bracket
import RequestLog.Proofs.Store.Schedule

/-!
# Incomplete targets

What is asked of the store is refused as wrongly set up, before a connection is opened, exactly if
the target is incomplete (`isRefused_iff`): an address that is there may be refused too, but for
other reasons (`notOfSetup_encrypted`). The insert of a batch for an incomplete target comes to its
end without a word to the store, and a drain leaves none of them unreported: `Lacking`.
-/

namespace RequestLog.Store

variable {σ α β : Type}

/-! ### Faults of addresses -/

/-- If there is no value then not because the store is set up wrongly. -/
def NotOfSetup (r : Except Fault α) : Prop := ∀ f, r = .error f → f.kind ≠ .storeConfiguration

/-- A value is no fault at all. -/
theorem notOfSetup_ok (a : α) : NotOfSetup (.ok a) := by
  intro f hf
  cases hf

/-- A fault of another kind is no fault of the set-up. -/
theorem notOfSetup_error {f : Fault} (h : f.kind ≠ .storeConfiguration) :
    NotOfSetup (.error f : Except Fault α) := by
  intro f' hf'
  cases hf'
  exact h

/-- Two steps one after the other do not fail in this way if neither of them does. -/
theorem NotOfSetup.bind {r : Except Fault α} {k : α → Except Fault β} (hr : NotOfSetup r)
    (hk : ∀ a, NotOfSetup (k a)) : NotOfSetup (r >>= k) := by
  intro f hf
  cases r with
  | error f' =>
      cases hf
      exact hr f rfl
  | ok a => exact hk a f hf

/-- A check of all items does not fail in this way if it does not for any of them. -/
theorem NotOfSetup.forM {items : List α} {check : α → Except Fault Unit}
    (h : ∀ a, NotOfSetup (check a)) : NotOfSetup (items.forM check) := by
  induction items with
  | nil => exact notOfSetup_ok ()
  | cons a rest ih => exact (h a).bind fun _ => ih

namespace Host

/-- Brackets that do not fit are another fault. -/
theorem notOfSetup_checkBrackets (host : List Char) : NotOfSetup (checkBrackets host) := by
  have hbracketed : NotOfSetup (bracketed host) := by
    unfold bracketed
    dsimp only
    split
    · exact notOfSetup_ok _
    · exact notOfSetup_error nofun
    · split
      · exact notOfSetup_ok _
      · exact notOfSetup_ok _
      · exact notOfSetup_ok _
      · exact notOfSetup_error nofun
  have hcheck : ∀ cs, NotOfSetup (checkBracketed cs) := by
    intro cs
    unfold checkBracketed
    split
    · split
      · exact notOfSetup_ok _
      · exact notOfSetup_error nofun
    · split
      · exact notOfSetup_error nofun
      · split
        · exact notOfSetup_ok _
        · exact notOfSetup_error nofun
  unfold checkBrackets
  split
  · exact notOfSetup_ok _
  · exact hbracketed.bind hcheck
  · exact notOfSetup_error nofun

/-- A separator in a host is another fault. -/
theorem notOfSetup_checkSeparators (host : List Char) : NotOfSetup (checkSeparators host) := by
  unfold checkSeparators
  split
  · exact notOfSetup_error nofun
  · exact notOfSetup_ok _

end Host

namespace Address

/-- An address that cannot be split is another fault. -/
theorem notOfSetup_query (url : String) : NotOfSetup (query url) :=
  (Host.notOfSetup_checkBrackets _).bind fun _ => (Host.notOfSetup_checkSeparators _).bind fun _ =>
    notOfSetup_ok _

/-- Not to know whether a connection is encrypted is another fault. -/
theorem notOfSetup_isEncrypted (url : String) : NotOfSetup (isEncrypted url) := by
  refine NotOfSetup.bind ((notOfSetup_query url).bind fun _ => notOfSetup_ok _) fun found => ?_
  split
  · exact notOfSetup_ok _
  · exact notOfSetup_ok _

/-- Characters beyond ASCII are another fault. -/
theorem notOfSetup_checkAscii (s : String) : NotOfSetup (checkAscii s) := by
  unfold checkAscii
  split
  · exact notOfSetup_ok _
  · exact notOfSetup_error nofun

/-- Options in bytes that are no text are another fault. -/
theorem notOfSetup_asciiOptions (url : Bytes) : NotOfSetup (asciiOptions url) := by
  have hdecoded : NotOfSetup ((Text.Ascii.decode url).mapError Fault.addressUndecodable) := by
    cases Text.Ascii.decode url with
    | ok text => exact notOfSetup_ok text
    | error found => exact notOfSetup_error nofun
  have hchecked : ∀ fields : List (String × String), NotOfSetup
      (fields.forM fun f => do checkAscii f.1; checkAscii f.2) := fun fields =>
    NotOfSetup.forM fun f => (notOfSetup_checkAscii f.1).bind fun _ => notOfSetup_checkAscii f.2
  exact hdecoded.bind fun text => (notOfSetup_query text).bind fun _ =>
    (hchecked _).bind fun _ => notOfSetup_ok _

end Address

/-- Whatever is wrong with an address, it is not the set-up of the store. -/
theorem notOfSetup_encrypted (address : Value) : NotOfSetup (encrypted address) := by
  unfold encrypted
  split
  · exact Address.notOfSetup_isEncrypted _
  · exact (Address.notOfSetup_asciiOptions _).bind fun _ => notOfSetup_error nofun
  · split
    · exact notOfSetup_error nofun
    · exact notOfSetup_error nofun

/-! ### Refusals -/

/-- What is asked of the store is refused as wrongly set up, and no connection is opened for it. -/
structure IsRefused (o : Outcome Event σ α) : Prop where
  fault : ∃ f, o.result = .error f ∧ f.kind = .storeConfiguration
  unopened : ∀ opening, .call (.connect opening) ∉ o.events

/-- What ends if the connection is not to be opened, and opens it otherwise, is refused exactly if
the target is incomplete. -/
theorem isRefused_iff (access : Access σ) (t : Target) {o : Outcome Event β α}
    (hends : ∀ f, connection access t = .error f → o.events = [] ∧ o.result = .error f)
    (hopens : ∀ opening, connection access t = .ok opening →
      .call (.connect opening) ∈ o.events) :
    IsRefused o ↔ t.isComplete = false := by
  constructor
  · intro h
    by_contra hcomplete
    rw [Bool.not_eq_false] at hcomplete
    cases hopening : connection access t with
    | ok opening => exact h.unopened opening (hopens opening hopening)
    | error f =>
        obtain ⟨f', hf', hkind⟩ := h.fault
        rw [(hends f hopening).2] at hf'
        cases hf'
        rw [connection, if_pos hcomplete] at hopening
        have hspared := (notOfSetup_encrypted t.address).bind fun encrypted =>
          notOfSetup_ok (⟨t.address, access.timeout, encrypted⟩ : Connection)
        exact hspared f hopening hkind
  · intro hincomplete
    have hopening := connection_of_missing access ((isComplete_eq_false_iff t).mp hincomplete)
    obtain ⟨hevents, hresult⟩ := hends _ hopening
    exact ⟨⟨_, hresult, rfl⟩, by simp [hevents]⟩

/-- A connection that is to be opened is opened first. -/
theorem mem_connect {access : Access σ} {t : Target} {opening : Connection}
    (h : connection access t = .ok opening) (c : σ) :
    .call (.connect opening) ∈ (connect access t c).events := by
  rw [connect, h, Act.ofExcept_ok_bind]
  exact Act.mem_bind (Act.mem_bind (List.mem_singleton_self _))

namespace Sink

variable (access : Access σ) (s : Sink σ)

/-- An insert with a sink is one with its target, and changes the client alone. -/
theorem insertNow_apply (documents : List Document) : insertNow access documents s =
    ⟨(insert access s.target documents s.client).events,
      (insert access s.target documents s.client).result,
      { s with client := (insert access s.target documents s.client).state }⟩ := rfl

/-- A search with a sink is one with its target, and changes the client alone. -/
theorem query_apply (q : Query) : query access q s =
    ⟨(find access s.target q s.client).events, (find access s.target q s.client).result,
      { s with client := (find access s.target q s.client).state }⟩ := rfl

/-- An insert is refused exactly if the target is incomplete. -/
theorem isRefused_insertNow_iff (documents : List Document) :
    IsRefused (insertNow access documents s) ↔ s.target.isComplete = false := by
  rw [insertNow_apply]
  refine isRefused_iff access s.target (fun f hf => ?_) fun opening hopening => ?_
  · rw [insert_of_error hf]
    exact ⟨rfl, rfl⟩
  · exact Act.mem_bind (Act.mem_bind (mem_connect hopening _))

/-- A search is refused exactly if the target is incomplete. -/
theorem isRefused_query_iff (q : Query) :
    IsRefused (query access q s) ↔ s.target.isComplete = false := by
  rw [query_apply]
  refine isRefused_iff access s.target (fun f hf => ?_) fun opening hopening => ?_
  · rw [find_of_error hf]
    exact ⟨rfl, rfl⟩
  · exact Act.mem_bind (mem_connect hopening _)

end Sink

/-! ### Batches for an incomplete target -/

/-- The line that reports a batch whose target has this name and lacks these parts. -/
def lackingLine (name : String) (missing : List String) : LogLine :=
  ⟨.error, .store, "Failed to persist request record to " ++ name ++ ": " ++
    ("persistence target is incomplete, missing: " ++ ", ".intercalate missing)⟩

/-- What is noted for a batch whose target is incomplete: nothing before it is reported, and then
its report alone, which says what is missing, or that somebody cancelled the insert. A drain comes
to its end and leaves the batch reported. -/
structure Lacking (access : Access σ) (target : Target) (name : String)
    (entries : List (Entry σ)) (l : Loop σ) (i : Nat) : Prop where
  unreported : isReported entries i = false → eventsOf (jobsFor i entries) = []
  reported : isReported entries i →
    eventsOf (jobsFor i entries) = [.log (lackingLine name target.missing)] ∨
      IsCancelled entries i ∧ eventsOf (jobsFor i entries) = [.log cancelledLine]
  drained : ∃ more l', History access target (entries ++ more) l' ∧
    l'.sink = (Sink.drain access l.sink).state ∧
    eventsOf more = (Sink.drain access l.sink).events ∧
    (Sink.drain access l.sink).result = .ok true ∧ isReported (entries ++ more) i ∧
    (¬ IsCancelled entries i →
      eventsOf (jobsFor i (entries ++ more)) = [.log (lackingLine name target.missing)])

section Batches

variable {access : Access σ} {target : Target} {entries : List (Entry σ)} {l : Loop σ} {i : Nat}

/-- A task ends as soon as it is started. -/
theorem Task.start_of_incomplete (hlacks : target.isComplete = false) (t : Task) (c : σ) :
    t.start access target c = ⟨[], .ok (.ended (if t.cancelRequested then .cancelled
      else .failed (.targetIncomplete target.missing))), c⟩ := by
  have hopening := connection_of_missing access ((isComplete_eq_false_iff target).mp hlacks)
  rw [Task.start_apply, beginInsert_of_error hopening]
  split
  · rfl
  · rfl

/-- Nothing is noted in the course of a task, and it never waits. -/
theorem Course.of_incomplete (hlacks : target.isComplete = false) {own : List (Entry σ)} {t : Task}
    (h : Course access target i own t) :
    eventsOf own = [] ∧ (t.stage = .scheduled ∨ t.stage = .ended .cancelled ∨
      t.stage = .ended (.failed (.targetIncomplete target.missing))) := by
  induction h with
  | scheduled documents => exact ⟨rfl, .inl rfl⟩
  | cancel h ih => exact ih
  | @start own t h hs c stage hresult ih =>
      rw [Task.start_of_incomplete hlacks] at hresult
      cases hresult
      rw [eventsOf_append, ih.1, eventsOf_singleton, Task.start_of_incomplete hlacks]
      refine ⟨rfl, .inr ?_⟩
      cases t.cancelRequested with
      | true => exact .inl rfl
      | false => exact .inr rfl
  | @resume own t h ticket hs c stage hresult ih =>
      simp [hs] at ih

/-- What is noted for a batch is its report alone. -/
theorem History.noted_of_incomplete (h : History access target entries l)
    (hlacks : target.isComplete = false) {name : String} (hname : target.label = .ok name)
    (hi : i < (batches entries).length) :
    (isReported entries i = false → eventsOf (jobsFor i entries) = []) ∧
    (isReported entries i →
      eventsOf (jobsFor i entries) = [.log (lackingLine name target.missing)] ∨
        IsCancelled entries i ∧ eventsOf (jobsFor i entries) = [.log cancelledLine]) := by
  obtain ⟨t, ht, -, hstanding⟩ := h.task_of_batch (List.getElem?_eq_getElem hi)
  rw [isReported_eq]
  rcases hstanding.parts with hcourse | ⟨course, ending, c, hcourse, hstage, hown⟩
  · refine ⟨fun _ => (hcourse.of_incomplete hlacks).1, fun hreported => ?_⟩
    obtain ⟨e, he, hjob⟩ := List.any_eq_true.mp hreported
    exact absurd (by simpa using hjob) (hcourse.unreported.2 e he)
  · obtain ⟨hnothing, hends⟩ := hcourse.of_incomplete hlacks
    rw [hown, eventsOf_append, hnothing, eventsOf_singleton, toList_line? hname]
    refine ⟨fun hreported => by simp [Turn.job?] at hreported, fun _ => ?_⟩
    rw [hstage] at hends
    rcases hends with hscheduled | hcancelled | hfailed
    · cases hscheduled
    · cases hcancelled
      exact .inr ⟨h.balanced.cancelled i t ht (hcourse.cancelRequested hstage), rfl⟩
    · cases hfailed
      exact .inl rfl

/-- A task for which nothing is queued has ended. -/
theorem Standing.isEnded_of_idle (hlacks : target.isComplete = false) {own : List (Entry σ)}
    {t : Task} (h : Standing access target i own t []) : t.isEnded := by
  cases h with
  | waiting hcourse hs =>
      have hends := (hcourse.of_incomplete hlacks).2
      simp [hs] at hends
  | reported hcourse hs c => simp [Task.isEnded, hs]

/-- A drain comes to its end, and every batch was reported then. -/
theorem History.drain_of_incomplete (h : History access target entries l)
    (hlacks : target.isComplete = false) :
    ∃ more l', History access target (entries ++ more) l' ∧
      l'.sink = (Sink.drain access l.sink).state ∧
      eventsOf more = (Sink.drain access l.sink).events ∧
      (Sink.drain access l.sink).result = .ok true ∧ (∀ e ∈ more, ∀ i, e.turn ≠ .cancel i) ∧
      ∀ i, i < (batches (entries ++ more)).length → isReported (entries ++ more) i := by
  obtain ⟨more, l', hmore, hsink, hevents, hresult, huncancelled, hqueue⟩ := h.drain
  have hreported : ∀ i, i < (batches (entries ++ more)).length → l'.sink.queue = [] →
      isReported (entries ++ more) i := by
    intro i hi hidle
    obtain ⟨t, ht, -, hstanding⟩ := hmore.task_of_batch (List.getElem?_eq_getElem hi)
    have hjobs : jobsOf i l'.sink.queue = [] := by rw [hidle]; rfl
    rw [isReported_eq, hstanding.any_report_iff, hjobs]
    rw [hjobs] at hstanding
    rw [hstanding.isEnded_of_idle hlacks]
    rfl
  -- The tasks that are pending are those that were not reported.
  have hpending : l'.sink.pending = [] := by
    by_contra hne
    obtain ⟨i, hi⟩ := List.exists_mem_of_ne_nil _ hne
    rw [hmore.balanced.pending, hmore.length_tasks, List.mem_filter, List.mem_range] at hi
    simp [hreported i hi.1 (hqueue hne)] at hi
  refine ⟨more, l', hmore, hsink, hevents, ?_, huncancelled, fun i hi => ?_⟩
  · rw [hresult, hpending]
    rfl
  · have hnot : i ∉ l'.sink.pending := by simp [hpending]
    rw [hmore.balanced.pending, hmore.length_tasks, List.mem_filter, List.mem_range] at hnot
    simpa [hi] using hnot

/-- **Incomplete targets.**  The insert of every batch says nothing to the store and leaves one line
in the log, at the latest when the sink is drained. -/
theorem History.lacking (h : History access target entries l) (hlacks : target.isComplete = false)
    {name : String} (hname : target.label = .ok name) (hi : i < (batches entries).length) :
    Lacking access target name entries l i := by
  obtain ⟨hunreported, hreported⟩ := h.noted_of_incomplete hlacks hname hi
  obtain ⟨more, l', hmore, hsink, hevents, hresult, huncancelled, hall⟩ :=
    h.drain_of_incomplete hlacks
  have hlater : i < (batches (entries ++ more)).length := by
    rw [batches_append, List.length_append]
    exact Nat.lt_add_right _ hi
  refine ⟨hunreported, hreported, more, l', hmore, hsink, hevents, hresult, hall i hlater, ?_⟩
  intro hnot
  rcases (hmore.noted_of_incomplete hlacks hname hlater).2 (hall i hlater) with
    hfailed | ⟨⟨e, he, hturn⟩, -⟩
  · exact hfailed
  · rcases List.mem_append.mp he with he | he
    · exact absurd ⟨e, he, hturn⟩ hnot
    · exact absurd hturn (huncancelled e he i)

end Batches

end RequestLog.Store
