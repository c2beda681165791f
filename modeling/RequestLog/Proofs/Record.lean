import RequestLog.Proofs.Value
import RequestLog.Record

/-!
# Records of pairs

A record that is made of pairs has each name once, at its first place and with its last value
(`Keeps`). It is found again in its document (`ofDocument?_document`). The document without the
absent values is the whole document of a smaller record (`document_true`), which has no more to
leave out (`document_withoutAbsent`). Two records are equal exactly if they have the same names and
equal values under each (`same_iff_agrees`): the order of a record shows in its document only. The
main statement is `keeps_pairs`.
-/

namespace RequestLog.Record

variable {r s : Record}

/-- Records with the same entries are the same. -/
theorem eq_of_entries (h : r.fields.entries = s.fields.entries) : r = s := by
  obtain ⟨t⟩ := r
  obtain ⟨u⟩ := s
  obtain ⟨entries, ht⟩ := t
  obtain ⟨entries', hu⟩ := u
  obtain rfl : entries = entries' := h
  rfl

/-- A record is made again of its own fields. -/
theorem ofList_entries (r : Record) : ofList r.fields.entries = r :=
  eq_of_entries (Table.entries_ofList r.fields.nodup)

/-! ### Pairs -/

/-- What a record keeps of pairs: each name once, in the order in which the names first came, with
the value that it came with last. -/
structure Keeps (r : Record) (pairs : Fields) : Prop where
  nodup : r.keys.Nodup
  keys : r.keys = (pairs.map (·.1)).eraseDups
  last : ∀ key v, r.get? key = some v ↔ Table.IsLast pairs key v

/-- A record of pairs keeps what the pairs say. -/
theorem ofList_keeps (pairs : Fields) : (ofList pairs).Keeps pairs where
  nodup := (ofList pairs).fields.nodup
  keys := Table.keys_ofList pairs
  last _ _ := Table.get?_ofList_eq_some_iff

/-! ### Documents -/

/-- An entry of a document as a named value, if its key is a text. -/
def named? (e : Value × Value) : Option (String × Value) := e.1.text?.map fun key => (key, e.2)

/-- The record of a document, if all its keys are texts. -/
def ofDocument? (d : Document) : Option Record := (d.mapM named?).map ofList

/-- The record of a document of fields is the record of the fields. -/
theorem ofDocument?_ofFields (fields : Fields) :
    ofDocument? (Document.ofFields fields) = some (ofList fields) := by
  have hnamed : (Document.ofFields fields).mapM named? = some fields := by
    induction fields with
    | nil => rfl
    | cons e rest ih =>
        have hcons : Document.ofFields (e :: rest) =
            (.text e.1, e.2) :: Document.ofFields rest := rfl
        rw [hcons, List.mapM_cons, ih]
        rfl
  rw [ofDocument?, hnamed, Option.map_some]

/-- The record of the fields that carry a value. -/
def withoutAbsent (r : Record) : Record := ⟨r.fields.filter fun e => !e.2.isAbsent⟩

/-- What is absent is left out once and for all. -/
theorem withoutAbsent_withoutAbsent (r : Record) :
    r.withoutAbsent.withoutAbsent = r.withoutAbsent := by
  apply eq_of_entries
  simp only [withoutAbsent, Table.filter, List.filter_filter, Bool.and_self]

/-- The whole document has all the fields. -/
theorem document_false (r : Record) : r.document false = Document.ofFields r.fields.entries := rfl

/-- The document without what is absent is the whole one without it. -/
theorem document_filter (r : Record) :
    r.document true = (r.document false).filter fun e => !e.2.isAbsent := rfl

/-- The document without the absent values is the whole document of a smaller record. -/
theorem document_true (r : Record) : r.document true = r.withoutAbsent.document false := by
  rw [document_filter, document_false, Document.ofFields, List.filter_map]
  rfl

/-- A record is found again in its document. -/
theorem ofDocument?_document (r : Record) : ofDocument? (r.document false) = some r := by
  rw [document_false, ofDocument?_ofFields, ofList_entries]

/-- From the smaller record nothing is left out. -/
theorem document_withoutAbsent (r : Record) (omitAbsent : Bool) :
    r.withoutAbsent.document omitAbsent = r.document true := by
  cases omitAbsent with
  | false => exact r.document_true.symm
  | true => rw [document_true, withoutAbsent_withoutAbsent, document_true]

/-- Nothing is left of a record exactly if it is absent. -/
theorem document_eq_nil_iff (r : Record) : r.document true = [] ↔ r.isAbsent = true := by
  have hentries : (∀ e ∈ r.document false, ¬(!e.2.isAbsent) = true) ↔
      ∀ v ∈ r.values, v.isAbsent = true := by
    rw [document_false, Document.ofFields, List.forall_mem_map, values, List.forall_mem_map]
    simp only [Bool.not_eq_true', Bool.not_eq_false]
  rw [document_filter, List.filter_eq_nil_iff, hentries, isAbsent, List.all_eq_true]

/-- The document without the absent values has the entries that carry a value, in their order. A
record made of it has the same document, whole or not. It is empty exactly if the record is
absent. -/
structure OmitsAbsent (r : Record) : Prop where
  sublist : (r.document true).Sublist (r.document false)
  mem_iff : ∀ e, e ∈ r.document true ↔ e ∈ r.document false ∧ e.2 ≠ .absent
  again : ∃ s, ofDocument? (r.document true) = some s ∧
    ∀ omitAbsent, s.document omitAbsent = r.document true
  nil_iff : r.document true = [] ↔ r.isAbsent = true

/-- A document without what is absent keeps all else, in order. -/
theorem omitsAbsent (r : Record) : r.OmitsAbsent where
  sublist := List.filter_sublist
  mem_iff e := by
    rw [document_filter, List.mem_filter, Bool.not_eq_true', Value.isAbsent_eq_false_iff]
  again := by
    refine ⟨r.withoutAbsent, ?_, r.document_withoutAbsent⟩
    rw [document_true, ofDocument?_document]
  nil_iff := r.document_eq_nil_iff

/-! ### Equality -/

/-- The two records have the same names and equal values under each. -/
structure Agrees (r s : Record) : Prop where
  keys : ∀ key, key ∈ r.keys ↔ key ∈ s.keys
  values : ∀ key v w, r.get? key = some v → s.get? key = some w → v.Equals w

/-- Records are the same if they agree under each name. -/
theorem same_iff_agrees : r.same s = true ↔ r.Agrees s := by
  have hmapping := Value.mapping_equals_iff r.fields.nodup s.fields.nodup
  rw [same, Value.same_iff_equals, hmapping]
  exact ⟨fun h => ⟨h.1, h.2⟩, fun h => ⟨h.keys, h.values⟩⟩

/-- Values of different kinds that stand for the same thing. -/
example : (ofList [("a", .bool true), ("b", .bytes [1])]).same
    (ofList [("b", .buffer [1]), ("a", .int 1)]) = true := by
  decide

/-- The fields of a record in another order make an equal record, if each value equals itself. -/
theorem agrees_of_perm {fields : Fields} (hfields : fields.Perm r.fields.entries)
    (hself : ∀ e ∈ fields, e.2.Equals e.2) : r.Agrees (ofList fields) := by
  have hkeys : (fields.map (·.1)).Perm r.keys := hfields.map _
  have hentries : (ofList fields).fields.entries = fields :=
    Table.entries_ofList (hkeys.nodup_iff.mpr r.fields.nodup)
  refine ⟨fun key => ?_, fun key v w hv hw => ?_⟩
  · rw [keys, keys, Table.keys, Table.keys, hentries]
    exact hkeys.mem_iff.symm
  · -- As the names are distinct, the two values come from one and the same field.
    have hmem : (key, w) ∈ fields := hentries ▸ Table.get?_eq_some_iff.mp hw
    have hfound : r.get? key = some w := Table.get?_eq_some_iff.mpr (hfields.mem_iff.mp hmem)
    obtain rfl : v = w := Option.some.inj (hv.symm.trans hfound)
    exact hself _ hmem

/-- **Records of pairs.**  A record that is made of pairs has each name once, in the order in which
the names first came, with the value that came last. Made again of its whole document it is the
same record. The document without the absent values has the entries that carry a value, in their
order; a record made of it has just this document, and it is empty exactly if the record is absent.
Records of pairs are equal exactly if they have the same names and equal values under each. The
order does not matter: if all values can be compared, which a value that is no number cannot, the
fields of a record make an equal one in any order. -/
theorem keeps_pairs (pairs : Fields) :
    let r := ofList pairs
    r.Keeps pairs ∧ ofDocument? (r.document false) = some r ∧ r.OmitsAbsent ∧
      (∀ others : Fields, r.same (ofList others) = true ↔ r.Agrees (ofList others)) ∧
      ((∀ p ∈ pairs, p.2.isComparable) →
        ∀ others : Fields, others.Perm r.fields.entries → r.same (ofList others) = true) := by
  intro r
  refine ⟨ofList_keeps pairs, r.ofDocument?_document, r.omitsAbsent, fun _ => same_iff_agrees, ?_⟩
  intro hpairs others hothers
  have hself : ∀ e ∈ others, e.2.Equals e.2 := by
    intro e he
    have hpair : e ∈ pairs := Table.mem_of_mem_ofList (hothers.mem_iff.mp he)
    exact e.2.equals_self (hpairs e hpair)
  exact same_iff_agrees.mpr (agrees_of_perm hothers hself)

/-- A name that comes twice, a value that only looks empty, and the fields in another order. -/
theorem keeps_pairs_reordered :
    let pairs : Fields := [("a", .absent), ("b", .absent), ("c", .text ""), ("a", .int 1)]
    let others : Fields := [("c", .text ""), ("a", .int 1), ("b", .absent)]
    (∀ p ∈ pairs, p.2.isComparable) ∧ others.Perm (ofList pairs).fields.entries ∧
      (ofList pairs).document true = [(.text "a", .int 1), (.text "c", .text "")] ∧
      (ofList pairs).same (ofList others) = true := by
  intro pairs others
  have hcomparable : ∀ p ∈ pairs, p.2.isComparable := by decide
  let first : Fields := [("a", .int 1), ("b", .absent)]
  let last : Fields := [("c", .text "")]
  have hperm : others.Perm (ofList pairs).fields.entries :=
    show (last ++ first).Perm (first ++ last) from List.perm_append_comm
  exact ⟨hcomparable, hperm, rfl, (keeps_pairs pairs).2.2.2.2 hcomparable others hperm⟩

end RequestLog.Record
