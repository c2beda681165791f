import Mathlib.Data.List.Nodup
import RequestLog.Proofs.Settings.InForce

/-!
# Values under any name

The settings in force are given values under any names. What has the name of a setting takes its
place, and most other names are ignored. A few names are reserved for what settings have besides:
what is computed of them, their summary, and all their entries at once. One value is told by
`Assigns`, and all of them, up to the first that is refused, by `Configures`. The main statement is
`configure_updates`.
-/

namespace RequestLog.Configuration

open Settings

/-! ### One value -/

/-- The names of what settings have besides their fields. -/
def reservedNames : List String :=
  ["target_configured", "to_dict", "__dict__", "__class__", "__weakref__"]

/-- A value is refused under a name, with a fault of this kind. -/
inductive Refuses (name : String) (v : Value) : FaultKind → Prop
  | computed (hname : name = "target_configured") : Refuses name v .operation
  | fixed (hname : name = "__weakref__") : Refuses name v .operation
  | sort (hname : name = "__class__") : Refuses name v .type
  | entries (hname : name = "__dict__") (h : ∀ entries, v ≠ .mapping entries) : Refuses name v .type

/-- What one value under a name does to the settings. -/
inductive Assigns (s : Settings) (name : String) (v : Value) : Except Fault Settings → Prop
  | field {f : Field} (hname : name = f.name) :
      Assigns s name v (.ok (if counts (f, v) then s.set f v else s))
  | hidden (hname : name = "to_dict") : Assigns s name v (.ok { s with summaryHidden := some v })
  | renewed {entries : Fields} (hname : name = "__dict__") (h : v = .mapping entries) :
      Assigns s name v (.ok (ofEntries entries))
  | refused {fault : Fault} (h : Refuses name v fault.kind) : Assigns s name v (.error fault)
  | ignored (hfield : ∀ f : Field, name ≠ f.name) (hreserved : name ∉ reservedNames) :
      Assigns s name v (.ok s)

/-- No field has one of the reserved names. -/
theorem not_mem_reservedNames (f : Field) : f.name ∉ reservedNames := by
  cases f <;> decide

/-- What no field is called names no field. -/
theorem ofName?_eq_none {name : String} (h : ∀ f : Field, name ≠ f.name) :
    Field.ofName? name = none := by
  cases hname : Field.ofName? name with
  | none => rfl
  | some f => exact absurd (Field.ofName?_eq_some_iff.mp hname) (h f)

/-- **One value.** -/
theorem assigns_assign (s : Settings) (name : String) (v : Value) :
    Assigns s name v (s.assign name v) := by
  by_cases hfield : ∃ f : Field, name = f.name
  · obtain ⟨f, rfl⟩ := hfield
    rw [assign_field]
    exact .field rfl
  · have hname : ∀ f : Field, name ≠ f.name := fun f heq => hfield ⟨f, heq⟩
    have hnone := ofName?_eq_none hname
    have htarget : isTargetName name = false := by
      rw [isTargetName, hnone]
      rfl
    rw [assign, htarget, Bool.false_and, if_neg Bool.false_ne_true]
    unfold replace
    split
    · exact .refused (.computed rfl)
    · exact .refused (.fixed rfl)
    · split
      · exact .renewed rfl rfl
      · rename_i h
        exact .refused (.entries rfl h)
    · exact .refused (.sort rfl)
    · rename_i hcomputed hfixed hentries hsort
      rw [putEntry, hnone]
      dsimp only
      split
      · rename_i hsummary
        exact .hidden hsummary
      · rename_i hsummary
        refine .ignored hname ?_
        simp only [reservedNames, List.mem_cons, List.not_mem_nil, or_false, not_or]
        exact ⟨hcomputed, hsummary, hentries, hsort, hfixed⟩

/-! ### What is overlaid -/

/-- What is given under the names of settings. -/
def fieldsOf (values : List (String × Value)) : List (Field × Value) :=
  values.filterMap fun p => (Field.ofName? p.1).map fun f => (f, p.2)

/-- The settings are others with what is given, in their fields and in the place of the summary. -/
structure Overlaid (values : List (String × Value)) (s s' : Settings) : Prop where
  fields : Overlays (fieldsOf values) s s'
  summary : s'.summaryHidden = (values.reverse.lookup "to_dict").or s.summaryHidden

/-- A value is given for a field if it is given under its name. -/
theorem mem_fieldsOf {values : List (String × Value)} {f : Field} {v : Value} :
    (f, v) ∈ fieldsOf values ↔ (f.name, v) ∈ values := by
  simp only [fieldsOf, List.mem_filterMap, Option.map_eq_some_iff, Prod.mk.injEq]
  constructor
  · rintro ⟨⟨name, w⟩, hmem, g, hname, rfl, rfl⟩
    obtain rfl := Field.ofName?_eq_some_iff.mp hname
    exact hmem
  · intro hmem
    exact ⟨(f.name, v), hmem, f, f.ofName?_name, rfl, rfl⟩

/-- Values given after others are given for fields after theirs. -/
theorem fieldsOf_append (values values' : List (String × Value)) :
    fieldsOf (values ++ values') = fieldsOf values ++ fieldsOf values' :=
  List.filterMap_append ..

/-- A value under the name of a field is given for this field. -/
theorem fieldsOf_name (f : Field) (v : Value) : fieldsOf [(f.name, v)] = [(f, v)] := by
  simp [fieldsOf, f.ofName?_name]

/-- A value under another name is given for no field. -/
theorem fieldsOf_of_ne {name : String} (h : ∀ f : Field, name ≠ f.name) (v : Value) :
    fieldsOf [(name, v)] = [] := by
  simp [fieldsOf, ofName?_eq_none h]

/-- Without values nothing is changed. -/
theorem Overlaid.refl (s : Settings) : Overlaid [] s s := ⟨.refl s, rfl⟩

/-- Two overlays one after the other are one overlay of all their values. -/
theorem Overlaid.trans {values values' : List (String × Value)} {s s' s'' : Settings}
    (h : Overlaid values s s') (h' : Overlaid values' s' s'') :
    Overlaid (values ++ values') s s'' where
  fields := by
    rw [fieldsOf_append]
    exact h.fields.trans h'.fields
  summary := by
    rw [h'.summary, h.summary, List.reverse_append, List.lookup_append, Option.or_assoc]

/-- One value is overlaid, unless it is all entries at once. -/
theorem Assigns.overlaid {s s' : Settings} {name : String} {v : Value}
    (h : Assigns s name v (.ok s')) (hentries : name ≠ "__dict__") : Overlaid [(name, v)] s s' := by
  have hsummary : name ≠ "to_dict" → [(name, v)].reverse.lookup "to_dict" = none := by
    intro hne
    simp [List.lookup_cons, beq_eq_false_iff_ne.mpr hne.symm]
  have hfield : ∀ f : Field, f.name ≠ "to_dict" := fun f heq =>
    not_mem_reservedNames f (by rw [heq]; decide)
  cases h with
  | @field f hname =>
      subst hname
      refine ⟨?_, ?_⟩
      · rw [fieldsOf_name]
        exact overlays_field s f v
      · rw [hsummary (hfield f), Option.none_or]
        split
        · exact summaryHidden_set s f v
        · rfl
  | hidden hname =>
      subst hname
      exact ⟨fun f => by cases f <;> rfl, rfl⟩
  | renewed hname h => exact absurd hname hentries
  | ignored hother hreserved =>
      refine ⟨?_, ?_⟩
      · rw [fieldsOf_of_ne hother]
        exact .refl s
      · rw [hsummary fun heq => hreserved (by rw [heq]; decide), Option.none_or]

/-! ### One value after another -/

/-- What settings come to that are given values one after another. The last mapping that is given
for all entries at once drops everything before it. -/
inductive Rests (values : List (String × Value)) (s s' : Settings) : Prop
  | kept (h : ∀ p ∈ values, p.1 ≠ "__dict__") (hs : Overlaid values s s')
  | renewed {before since : List (String × Value)} {entries : Fields}
      (h : values = before ++ ("__dict__", .mapping entries) :: since)
      (hsince : ∀ p ∈ since, p.1 ≠ "__dict__") (hs : Overlaid since (ofEntries entries) s')

/-- A value that is assigned before the others is one more of them. -/
theorem Rests.cons {p : String × Value} {rest : List (String × Value)} {s s₁ s' : Settings}
    (hfirst : Assigns s p.1 p.2 (.ok s₁)) (hrest : Rests rest s₁ s') :
    Rests (p :: rest) s s' := by
  obtain ⟨name, v⟩ := p
  cases hrest with
  | @renewed before since entries h hsince hs =>
      have hvalues : (name, v) :: rest =
          ((name, v) :: before) ++ ("__dict__", .mapping entries) :: since := by
        rw [h, List.cons_append]
      exact .renewed hvalues hsince hs
  | kept h hs =>
      by_cases hname : name = "__dict__"
      · have hreserved : name ∈ reservedNames := by rw [hname]; decide
        cases hfirst with
        | @renewed entries _ hv =>
            have hvalues : (name, v) :: rest = [] ++ ("__dict__", .mapping entries) :: rest := by
              rw [hname, show v = .mapping entries from hv, List.nil_append]
            exact .renewed hvalues h hs
        | @field f hfield => exact absurd (hfield ▸ hreserved) (not_mem_reservedNames f)
        | hidden hsummary => exact absurd (hname.symm.trans hsummary) (by decide)
        | ignored _ hother => exact absurd hreserved hother
      · refine .kept ?_ ((hfirst.overlaid hname).trans hs)
        exact List.forall_mem_cons.mpr ⟨hname, h⟩

/-- The value is refused. -/
def IsRefused (p : String × Value) : Prop := ∃ kind, Refuses p.1 p.2 kind

/-- What giving values one after another comes to. The first that is refused ends it; what was given
before it stays. -/
inductive Configures (values : List (String × Value)) (s : Settings) :
    Except Fault Unit × Settings → Prop
  | done {s' : Settings} (h : ∀ p ∈ values, ¬IsRefused p) (hs : Rests values s s') :
      Configures values s (.ok (), s')
  | stopped {before after : List (String × Value)} {p : String × Value} {fault : Fault}
      {s' : Settings} (h : values = before ++ p :: after) (hbefore : ∀ q ∈ before, ¬IsRefused q)
      (hp : Refuses p.1 p.2 fault.kind) (hs : Rests before s s') :
      Configures values s (.error fault, s')

/-- Only reserved names are refused, and among them is not that of the summary. -/
theorem Refuses.reserved {name : String} {v : Value} {kind : FaultKind} (h : Refuses name v kind) :
    name ∈ reservedNames ∧ name ≠ "to_dict" := by
  cases h with
  | computed hname | fixed hname | sort hname | entries hname _ =>
      rw [hname]
      decide

/-- What is taken is not refused. -/
theorem Assigns.not_isRefused {s s' : Settings} {p : String × Value}
    (h : Assigns s p.1 p.2 (.ok s')) : ¬IsRefused p := by
  rintro ⟨kind, hrefuses⟩
  obtain ⟨hreserved, hsummary⟩ := hrefuses.reserved
  cases h with
  | @field f hname => exact not_mem_reservedNames f (hname ▸ hreserved)
  | hidden hname => exact hsummary hname
  | @renewed entries hname hv =>
      cases hrefuses with
      | entries _ h => exact h entries hv
      | computed hother | fixed hother | sort hother =>
          exact absurd (hname.symm.trans hother) (by decide)
  | ignored _ hother => exact hother hreserved

/-- **One value after another.** -/
theorem configures_assignAll (values : List (String × Value)) (s : Settings) :
    Configures values s (assignAll values s) := by
  induction values generalizing s with
  | nil => exact .done (List.forall_mem_nil _) (.kept (List.forall_mem_nil _) (.refl s))
  | cons p rest ih =>
      have hfirst := assigns_assign s p.1 p.2
      rw [assignAll]
      cases hassign : s.assign p.1 p.2 with
      | error fault =>
          rw [hassign] at hfirst
          obtain ⟨name, v⟩ := p
          cases hfirst with
          | refused h =>
              have hvalues : (name, v) :: rest = [] ++ (name, v) :: rest := rfl
              exact .stopped hvalues (List.forall_mem_nil _) h
                (.kept (List.forall_mem_nil _) (.refl s))
      | ok s₁ =>
          rw [hassign] at hfirst
          have hrest := ih s₁
          dsimp only
          generalize assignAll rest s₁ = o at hrest ⊢
          cases hrest with
          | done h hs =>
              exact .done (List.forall_mem_cons.mpr ⟨hfirst.not_isRefused, h⟩) (.cons hfirst hs)
          | @stopped before after refused fault _ h hbefore hp hs =>
              have hvalues : p :: rest = (p :: before) ++ refused :: after := by
                rw [h, List.cons_append]
              exact .stopped hvalues
                (List.forall_mem_cons.mpr ⟨hfirst.not_isRefused, hbefore⟩) hp (.cons hfirst hs)

/-! ### What is configured under any names -/

/-- The values in the order in which they are given: those of the target come first. -/
def targetFirst (values : List (String × Value)) : List (String × Value) :=
  values.filter (fun p => isTargetName p.1) ++ values.filter (fun p => !isTargetName p.1)

/-- The settings after an update. A field has the value that is given for it, but a part of the
target is only replaced by something. Everything else is as it was, and what is computed of the
settings is computed of these fields. -/
structure Updates (values : List (String × Value)) (s s' : Settings) : Prop where
  given : ∀ f v, (f.name, v) ∈ values →
    s'.get f = if f.isTarget && !v.truth then s.get f else v
  kept : ∀ f, f.name ∉ values.map (·.1) → s'.get f = s.get f
  summaryHidden : s'.summaryHidden = s.summaryHidden
  hasTarget : s'.hasTarget ↔ ∀ f : Field, f.isTarget → (s'.get f).truth
  summary : s.summaryHidden = none → s'.summary = .ok ((Field.all.filter (· ≠ .lineFormat)).map
    fun f => (f.name,
      if f = .address then .text (if (s'.get f).truth then "***" else "") else s'.get f))

/-- The target comes first, and no value is lost or added. -/
theorem mem_targetFirst {values : List (String × Value)} {p : String × Value} :
    p ∈ targetFirst values ↔ p ∈ values := by
  rw [targetFirst, List.mem_append, List.mem_filter, List.mem_filter, ← and_or_left]
  cases isTargetName p.1 <;> simp

theorem fieldsOf_filter (q : Bool → Bool) (values : List (String × Value)) :
    fieldsOf (values.filter fun p => q (isTargetName p.1)) =
      (fieldsOf values).filter fun p => q p.1.isTarget := by
  rw [fieldsOf, fieldsOf, List.filterMap_filter, List.filter_filterMap]
  refine List.filterMap_congr fun p _ => ?_
  cases hname : Field.ofName? p.1 with
  | none => simp
  | some f =>
      have htarget : isTargetName p.1 = f.isTarget := by rw [isTargetName, hname, Option.any_some]
      cases hq : q f.isTarget <;> simp [htarget, hq, Option.filter]

/-- That the target comes first makes no difference to what is given last for a field. -/
theorem lastGiven_targetFirst (values : List (String × Value)) (f : Field) :
    lastGiven (fieldsOf (targetFirst values)) f = lastGiven (fieldsOf values) f := by
  have htarget := fieldsOf_filter (fun b => b) values
  have hothers := fieldsOf_filter (fun b => !b) values
  rw [targetFirst, fieldsOf_append, htarget, hothers]
  exact lastGiven_partition (fieldsOf values) f

/-- Where nothing is given for a field, nothing is given last. -/
theorem lastGiven_of_not_mem {values : List (Field × Value)} {f : Field}
    (h : ∀ v, (f, v) ∉ values) : lastGiven values f = none := by
  rw [lastGiven, List.filter_eq_nil_iff.mpr]
  · rfl
  · rintro ⟨g, v⟩ hmem hboth
    obtain ⟨hfield, -⟩ := Bool.and_eq_true_iff.mp hboth
    obtain rfl : g = f := beq_iff_eq.mp hfield
    exact h v hmem

/-- Of names that are all different each has one value. -/
theorem lastGiven_of_mem {values : List (String × Value)} (hdistinct : (values.map (·.1)).Nodup)
    {f : Field} {v : Value} (h : (f.name, v) ∈ values) :
    lastGiven (fieldsOf values) f = if counts (f, v) then some v else none := by
  obtain ⟨before, after, rfl⟩ := List.append_of_mem h
  rw [List.map_append, List.map_cons, List.nodup_middle, List.nodup_cons, List.mem_append,
    not_or] at hdistinct
  obtain ⟨⟨hbefore, hafter⟩, -⟩ := hdistinct
  have habsent : ∀ {others : List (String × Value)}, f.name ∉ others.map (·.1) →
      lastGiven (fieldsOf others) f = none := fun hothers =>
    lastGiven_of_not_mem fun w hmem => hothers (List.mem_map.mpr ⟨_, mem_fieldsOf.mp hmem, rfl⟩)
  rw [List.append_cons, fieldsOf_append, fieldsOf_append, fieldsOf_name, lastGiven_append,
    lastGiven_append, habsent hbefore, habsent hafter, Option.none_or, Option.or_none]
  cases hcounts : counts (f, v) <;> simp [lastGiven, hcounts]

/-- Values are configured one after another over the settings in force. -/
theorem configure_eq {c c' : Configuration} {lines : List LogLine} {n : Nat} {s s' : Settings}
    {r : Except Fault Unit} {values : List (String × Value)}
    (h : settings c = ⟨lines, .ok (n, s), c'⟩)
    (hassign : assignAll (targetFirst values) s = (r, s')) :
    configure values c = ⟨lines, r.map fun _ => (n, s'), { c' with current := some (n, s') }⟩ := by
  rw [targetFirst] at hassign
  rw [configure, Act.bind_of_ok h]
  dsimp only
  rw [List.partition_eq_filter_filter]
  dsimp only [Function.comp_def]
  rw [hassign]
  cases r with
  | error fault => simp [Outcome.after, Act.bind_apply]; rfl
  | ok u => simp [Outcome.after, Act.bind_apply]; rfl

/-- Settings have a target if each of its parts is there. -/
theorem hasTarget_iff (s : Settings) :
    s.hasTarget ↔ ∀ f : Field, f.isTarget → (s.get f).truth := by
  rw [Settings.hasTarget, Bool.and_eq_true, Bool.and_eq_true]
  constructor
  · rintro ⟨⟨haddress, hdatabase⟩, hcollection⟩ f hf
    cases f with
    | address => exact haddress
    | database => exact hdatabase
    | collection => exact hcollection
    | _ => cases hf
  · intro h
    exact ⟨⟨h .address rfl, h .database rfl⟩, h .collection rfl⟩

/-- Where no name is reserved nothing is refused, and what is given is overlaid. -/
theorem Configures.of_unreserved {values : List (String × Value)} {s s' : Settings}
    {r : Except Fault Unit} (h : Configures (targetFirst values) s (r, s'))
    (hdistinct : (values.map (·.1)).Nodup) (hnames : ∀ p ∈ values, p.1 ∉ reservedNames) :
    r = .ok () ∧ Updates values s s' := by
  have hnames' : ∀ p ∈ targetFirst values, p.1 ∉ reservedNames := fun p hp =>
    hnames p (mem_targetFirst.mp hp)
  cases h with
  | @stopped before after p fault _ hvalues _ hp hs =>
      have hmem : p ∈ targetFirst values := by rw [hvalues]; simp
      exact absurd hp.reserved.1 (hnames' p hmem)
  | done hrefused hs =>
      refine ⟨rfl, ?_⟩
      cases hs with
      | @renewed before since entries hvalues _ _ =>
          have hmem : ("__dict__", .mapping entries) ∈ targetFirst values := by rw [hvalues]; simp
          exact absurd (by decide : "__dict__" ∈ reservedNames) (hnames' _ hmem)
      | kept _ hs =>
          have hhidden : s'.summaryHidden = s.summaryHidden := by
            have hlookup : (targetFirst values).reverse.lookup "to_dict" = none := by
              refine List.lookup_eq_none_iff.mpr fun p hp => ?_
              have hname : p.1 ≠ "to_dict" := fun heq =>
                hnames' p (List.mem_reverse.mp hp) (by rw [heq]; decide)
              exact bne_iff_ne.mpr hname.symm
            rw [hs.summary, hlookup, Option.none_or]
          refine ⟨fun f v hmem => ?_, fun f hmem => ?_, hhidden, ?_, fun hshown => ?_⟩
          · rw [hs.fields, lastGiven_targetFirst, lastGiven_of_mem hdistinct hmem]
            cases htarget : f.isTarget <;> cases htruth : v.truth <;> simp [counts, htarget, htruth]
          · have hnone : lastGiven (fieldsOf values) f = none :=
              lastGiven_of_not_mem fun v hv =>
                hmem (List.mem_map.mpr ⟨_, mem_fieldsOf.mp hv, rfl⟩)
            rw [hs.fields, lastGiven_targetFirst, hnone, Option.getD_none]
          · exact hasTarget_iff s'
          · rw [Settings.summary, hhidden, hshown]
            rfl

/-- A value under a name that is neither a setting's nor reserved makes no difference. -/
theorem assign_of_ignored {name : String} (hfield : Field.ofName? name = none)
    (hreserved : name ∉ reservedNames) (s : Settings) (v : Value) : s.assign name v = .ok s := by
  have hname : ∀ f : Field, name ≠ f.name := by
    rintro f rfl
    cases f.ofName?_name.symm.trans hfield
  have hassigns := assigns_assign s name v
  generalize s.assign name v = r at hassigns
  cases hassigns with
  | @field f h => exact absurd h (hname f)
  | hidden h | renewed h _ => exact absurd (by rw [h]; decide) hreserved
  | refused h => exact absurd h.reserved.1 hreserved
  | ignored _ _ => rfl

/-- Values under names that are neither of a field nor reserved make no difference. -/
theorem assignAll_settings {values : List (String × Value)}
    (hnames : ∀ p ∈ values, p.1 ∉ reservedNames) (s : Settings) :
    assignAll (values.filter fun p => (Field.ofName? p.1).isSome) s = assignAll values s := by
  induction values generalizing s with
  | nil => rfl
  | cons p rest ih =>
      obtain ⟨hname, hrest⟩ := List.forall_mem_cons.mp hnames
      cases hfield : Field.ofName? p.1 with
      | none =>
          rw [List.filter_cons_of_neg (by simp [hfield]), ih hrest, assignAll,
            assign_of_ignored hfield hname]
      | some f =>
          rw [List.filter_cons_of_pos (by simp [hfield]), assignAll, assignAll]
          cases s.assign p.1 p.2 with
          | error fault => rfl
          | ok s₁ => exact ih hrest s₁

/-- Values may be left out before or after the target is put first. -/
theorem targetFirst_filter (q : String × Value → Bool) (values : List (String × Value)) :
    targetFirst (values.filter q) = (targetFirst values).filter q := by
  rw [targetFirst, targetFirst, List.filter_append]
  simp only [List.filter_filter, Bool.and_comm]

/-- Something is refused exactly if it fails. -/
theorem Configures.error_iff {values : List (String × Value)} {s s' : Settings}
    {r : Except Fault Unit} (h : Configures values s (r, s')) :
    (∃ fault, r = .error fault) ↔ ∃ p ∈ values, IsRefused p := by
  cases h with
  | done hrefused hs =>
      refine ⟨?_, ?_⟩
      · rintro ⟨fault, hfault⟩
        cases hfault
      · rintro ⟨p, hmem, hp⟩
        exact absurd hp (hrefused p hmem)
  | @stopped before after p fault _ hvalues _ hp hs =>
      exact ⟨fun _ => ⟨p, by rw [hvalues]; simp, fault.kind, hp⟩, fun _ => ⟨fault, rfl⟩⟩

/-- **Values under any names.**  They are given one after another to the settings in force, which
ends with the first that is refused. Where no name is reserved none is: then exactly the fields that
are named change, and other names make no difference. -/
theorem configure_updates {c c' : Configuration} {lines : List LogLine} {n : Nat} {s : Settings}
    (h : settings c = ⟨lines, .ok (n, s), c'⟩) {values : List (String × Value)}
    (hdistinct : (values.map (·.1)).Nodup) :
    ∃ r s', configure values c =
        ⟨lines, r.map fun _ => (n, s'), { c' with current := some (n, s') }⟩ ∧
      Configures (targetFirst values) s (r, s') ∧
      ((∃ fault, r = .error fault) ↔ ∃ p ∈ values, IsRefused p) ∧
      ((∀ p ∈ values, p.1 ∉ reservedNames) → r = .ok () ∧ Updates values s s' ∧
        configure (values.filter fun p => (Field.ofName? p.1).isSome) c = configure values c) := by
  have hconfigures := configures_assignAll (targetFirst values) s
  generalize hassign : assignAll (targetFirst values) s = o at hconfigures
  obtain ⟨r, s'⟩ := o
  refine ⟨r, s', configure_eq h hassign, hconfigures, ?_, fun hnames => ?_⟩
  · simp only [hconfigures.error_iff, mem_targetFirst]
  · obtain ⟨hdone, hupdates⟩ := hconfigures.of_unreserved hdistinct hnames
    refine ⟨hdone, hupdates, ?_⟩
    have hordered : ∀ p ∈ targetFirst values, p.1 ∉ reservedNames := fun p hp =>
      hnames p (mem_targetFirst.mp hp)
    have hsettings := assignAll_settings hordered s
    rw [← targetFirst_filter, hassign] at hsettings
    rw [configure_eq h hassign, configure_eq h hsettings]

/-- A name that nothing is known of is ignored, and an empty collection is not taken. -/
theorem configure_updates_unknown :
    ∃ s', (configure [("immediate", .bool true), ("unknown_option", .text "ignored"),
        ("db_name", .text "logs"), ("collection", .text "")] (start Table.empty)).result =
          .ok (0, s') ∧
      s'.get .immediate = .bool true ∧ s'.get .database = .text "logs" ∧
      s'.get .collection = .text "" ∧ s'.get .queryLimit = .int 1000 ∧
      s'.hasTarget = false := by
  let values : List (String × Value) := [("immediate", .bool true),
    ("unknown_option", .text "ignored"), ("db_name", .text "logs"), ("collection", .text "")]
  have hsettings : settings (start Table.empty) =
      ⟨[], .ok (0, {}), { current := some (0, {}), made := 1 }⟩ := rfl
  have hdistinct : (values.map (·.1)).Nodup := by decide
  obtain ⟨r, s', hconfigure, -, -, hunreserved⟩ := configure_updates hsettings hdistinct
  obtain ⟨rfl, hupdates, -⟩ := hunreserved (by decide)
  have hcollection : s'.get .collection = .text "" :=
    hupdates.given .collection (.text "") (by simp [values, Field.name])
  refine ⟨s', by rw [hconfigure]; rfl, ?_, ?_, hcollection, ?_, ?_⟩
  · exact hupdates.given .immediate (.bool true) (by simp [values, Field.name])
  · exact hupdates.given .database (.text "logs") (by simp [values, Field.name])
  · exact hupdates.kept .queryLimit (by decide)
  · refine Bool.eq_false_iff.mpr fun htarget => ?_
    have htruth := hupdates.hasTarget.mp htarget .collection rfl
    rw [hcollection] at htruth
    cases htruth

/-- Not every name that is no setting's is ignored: what is computed of the settings is refused. -/
theorem computed_name_is_refused :
    (settings (start Table.empty)).result = .ok (0, {}) ∧
      (configure [("target_configured", .bool true)] (start Table.empty)).result =
        .error (.settingComputed "target_configured") :=
  ⟨rfl, rfl⟩

end RequestLog.Configuration
