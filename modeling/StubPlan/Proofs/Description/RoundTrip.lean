import StubPlan.Proofs.Description.Descriptor
import StubPlan.Proofs.Table

/-! Documents of values that were read. A value that some document gives is given by its own document
too, in whichever spelling the names of its fields are written. -/
namespace StubPlan

def Value.items? : Value → Option (List Value)
  | .list items | .tuple items | .set items => some items
  | _ => none

section Parts

/-! What is read of a whole is read of its parts, and the document of a whole is read as its parts
are. -/

variable {spelling : Spelling} {item value : Shape} {v : Value}

lemma Shape.read_many (item : Shape) (v : Value) : (Shape.many item).read v =
    match v.items? with
    | some items =>
      Checked.all (items.zipIdx.map fun (v, i) => Checked.under (.item i) (item.read v))
    | none => Checked.fault .notList := by
  cases v <;> rfl

lemma Shape.exists_read_of_mem_many {xs : List item.Carrier} (h : (Shape.many item).read v = .ok xs)
    {x : item.Carrier} (hx : x ∈ xs) : ∃ w, item.read w = .ok x := by
  rw [Shape.read_many] at h
  split at h
  · next items _ =>
    have hmem : .ok x ∈ items.zipIdx.map fun (v, i) => Checked.under (.item i) (item.read v) := by
      rw [Checked.all_eq_ok_iff.mp h]
      exact List.mem_map_of_mem hx
    obtain ⟨⟨w, i⟩, -, hread⟩ := List.mem_map.mp hmem
    exact ⟨w, Checked.under_eq_ok_iff.mp hread⟩
  · exact absurd h (by simp)

lemma Shape.read_write_many {xs : List item.Carrier}
    (h : ∀ x ∈ xs, item.read (item.write spelling x) = .ok x) :
    (Shape.many item).read ((Shape.many item).write spelling xs) = .ok xs := by
  have hitem : ∀ p ∈ xs.zipIdx,
      Checked.under (.item p.2) (item.read (item.write spelling p.1)) = .ok p.1 := by
    intro p hp
    rw [h p.1 (List.fst_mem_of_mem_zipIdx hp), Checked.under_ok]
  rw [Shape.read_many, Shape.write]
  refine Checked.all_eq_ok_iff.mpr ?_
  calc (xs.map (item.write spelling)).zipIdx.map
        (fun (v, i) => Checked.under (.item i) (item.read v))
      = xs.zipIdx.map
          (fun p => Checked.under (.item p.2) (item.read (item.write spelling p.1))) := by
        rw [List.zipIdx_map, List.map_map]
        rfl
    _ = xs.zipIdx.map fun p => .ok p.1 := List.map_congr_left hitem
    _ = (xs.zipIdx.map Prod.fst).map .ok := by rw [List.map_map]; rfl
    _ = xs.map .ok := by rw [List.zipIdx_map_fst]

/-- The entry of a table that an entry of a mapping gives. -/
def Shape.readEntry (value : Shape) (entry : Value × Value) : Checked (String × value.Carrier) :=
  Checked.under (.key entry.1.keyText)
    (Checked.both (Checked.under .keyItself (readText entry.1)) (value.read entry.2))

lemma Shape.readEntry_eq_ok_iff {entry : Value × Value} {e : String × value.Carrier} :
    value.readEntry entry = .ok e ↔ readText entry.1 = .ok e.1 ∧ value.read entry.2 = .ok e.2 := by
  rw [Shape.readEntry, Checked.under_eq_ok_iff, Checked.both_eq_ok_iff, Checked.under_eq_ok_iff]

lemma Shape.read_table_map (value : Shape) (entries : List (Value × Value)) :
    (Shape.table value).read (.map entries) =
      (Checked.all (entries.map value.readEntry)).map Table.ofEntries := rfl

lemma Shape.exists_entries_of_read_table {xs : List (String × value.Carrier)}
    (h : (Shape.table value).read v = .ok xs) : ∃ entries pairs,
      v = .map entries ∧ entries.map value.readEntry = pairs.map .ok ∧
        Table.ofEntries pairs = xs := by
  cases v with
  | map entries =>
    rw [Shape.read_table_map, Except.map_eq_ok_iff] at h
    obtain ⟨pairs, hpairs, htable⟩ := h
    exact ⟨entries, pairs, rfl, Checked.all_eq_ok_iff.mp hpairs, htable⟩
  | _ => exact absurd h (by simp [Shape.read])

lemma Shape.exists_read_of_mem_table {xs : List (String × value.Carrier)}
    (h : (Shape.table value).read v = .ok xs) {e : String × value.Carrier} (he : e ∈ xs) :
    ∃ w, value.read w = .ok e.2 := by
  obtain ⟨entries, pairs, -, hpairs, rfl⟩ := Shape.exists_entries_of_read_table h
  have hmem : .ok e ∈ entries.map value.readEntry := by
    rw [hpairs]
    exact List.mem_map_of_mem (Table.mem_of_mem_ofEntries he)
  obtain ⟨entry, -, hread⟩ := List.mem_map.mp hmem
  exact ⟨entry.2, (Shape.readEntry_eq_ok_iff.mp hread).2⟩

lemma Shape.nodup_of_read_table {xs : List (String × value.Carrier)}
    (h : (Shape.table value).read v = .ok xs) : (xs.map Prod.fst).Nodup := by
  obtain ⟨entries, pairs, -, -, rfl⟩ := Shape.exists_entries_of_read_table h
  exact Table.nodup_ofEntries pairs

lemma Shape.read_write_table {xs : List (String × value.Carrier)} (hnodup : (xs.map Prod.fst).Nodup)
    (h : ∀ e ∈ xs, value.read (value.write spelling e.2) = .ok e.2) :
    (Shape.table value).read ((Shape.table value).write spelling xs) = .ok xs := by
  rw [Shape.write, Shape.read_table_map, Except.map_eq_ok_iff]
  refine ⟨xs, Checked.all_eq_ok_iff.mpr ?_, Table.ofEntries_eq_self hnodup⟩
  rw [List.map_map]
  refine List.map_congr_left fun e he => ?_
  exact Shape.readEntry_eq_ok_iff.mpr ⟨rfl, h e he⟩

/-- A field that may be missing has a value that its own document gives. -/
lemma Shape.read_write_absent {shape : Shape} (h : shape.mayBeAbsent) :
    shape.read (shape.write spelling shape.absent) = .ok shape.absent := by
  cases shape with
  | slot | record => exact absurd h Bool.false_ne_true
  | _ => rfl

/-- Only what may stand empty is written as null. -/
lemma Shape.write_ne_null {shape : Shape} (h : shape.isSolid) (x : shape.Carrier) :
    shape.write spelling x ≠ .null := by
  cases shape with
  | optional | slot => exact absurd h Bool.false_ne_true
  | _ => simp [Shape.write]

lemma Shape.read_optional_of_ne_null {inner : Shape} (h : v ≠ .null) :
    (Shape.optional inner).read v = (inner.read v).map some := by
  cases v with
  | null => exact absurd rfl h
  | _ => rfl

end Parts

section Records

variable {spelling : Spelling} {name : String} {required : Bool} {shape : Shape} {fields rest : Fields}
  {entries : List (Value × Value)} {k v : Value}

def readField (name : String) (required : Bool) (shape : Shape) (entries : List (Value × Value)) :
    Checked shape.Carrier :=
  match findField name entries with
  | some (found, v) => Checked.under (.key found) (shape.read v)
  | none =>
    if required then Checked.under (.key name) (Checked.fault .missing) else .ok shape.absent

lemma Fields.read_field (name : String) (required : Bool) (shape : Shape) (rest : Fields)
    (entries : List (Value × Value)) : (Fields.field name required shape rest).read entries =
      Checked.both (readField name required shape entries) (rest.read entries) := rfl

/-- A field's value is read from a value that is found, or is that of a field that may be missing. -/
lemma readField_cases {x : shape.Carrier} (h : readField name required shape entries = .ok x) :
    (∃ v, shape.read v = .ok x) ∨ ¬ required ∧ x = shape.absent := by
  unfold readField at h
  split at h
  · next v _ => exact .inl ⟨v, Checked.under_eq_ok_iff.mp h⟩
  · split at h
    · exact absurd h (by simp)
    · next hrequired => exact .inr ⟨hrequired, (Except.ok.inj h).symm⟩

lemma readField_cons_of_not_spells (h : k.spells name = false) :
    readField name required shape ((k, v) :: entries) =
      readField name required shape entries := by
  rw [readField, readField, findField_cons_of_not_spells h]

/-- An entry that spells no field does not count. -/
lemma Fields.read_cons_of_not_spells : ∀ {fields : Fields},
    (∀ name ∈ fields.names, k.spells name = false) →
      fields.read ((k, v) :: entries) = fields.read entries
  | .none, _ => rfl
  | .field name required shape rest, h => by
    rw [Fields.names, List.forall_mem_cons] at h
    rw [Fields.read_field, Fields.read_field, readField_cons_of_not_spells h.1,
      Fields.read_cons_of_not_spells h.2]

lemma Fields.exists_name_of_mem_write : ∀ {fields : Fields} {x : fields.Carrier} {e : Value × Value},
    e ∈ fields.write spelling x → ∃ name ∈ fields.names, e.1 = .text (spelling.write name)
  | .none, _, _, h => absurd h List.not_mem_nil
  | .field name required shape rest, x, e, h => by
    rcases List.mem_cons.mp h with rfl | h
    · exact ⟨name, List.mem_cons_self, rfl⟩
    · obtain ⟨other, hother, hkey⟩ := Fields.exists_name_of_mem_write h
      exact ⟨other, List.mem_cons_of_mem name hother, hkey⟩

/-- The document of a record is read field by field: what is written for a field is found there, and
does not count for the fields after it. -/
lemma Fields.read_write_field {x : (Fields.field name required shape rest).Carrier}
    (hapart : ∀ other ∈ rest.names, areApart name other)
    (hfield : shape.read (shape.write spelling x.1) = .ok x.1)
    (hrest : rest.read (rest.write spelling x.2) = .ok x.2) :
    (Fields.field name required shape rest).read
      ((Fields.field name required shape rest).write spelling x) = .ok x := by
  have hothers : ∀ e ∈ rest.write spelling x.2, e.1.spells name = false := by
    intro e he
    obtain ⟨other, hother, hkey⟩ := Fields.exists_name_of_mem_write he
    rw [hkey]
    exact not_isSpellingOf_of_areApart (hapart other hother) (isSpellingOf_write spelling other)
  have hskip : ∀ other ∈ rest.names, (Value.text (spelling.write name)).spells other = false :=
    fun other hother => not_isSpellingOf_of_areApart (areApart_symm (hapart other hother))
      (isSpellingOf_write spelling name)
  rw [Fields.write, Fields.read_field, Fields.read_cons_of_not_spells hskip, hrest, readField,
    findField_cons_write spelling hothers]
  simp only [hfield, Checked.under_ok, Checked.both_ok]

end Records

mutual
/-- What a document gives for a shape is given by its own document too. -/
theorem Shape.read_write_of_read (spelling : Spelling) : ∀ (shape : Shape) {v : Value}
    {x : shape.Carrier}, shape.isSound → shape.read v = .ok x →
      shape.read (shape.write spelling x) = .ok x
  | .text _, _, _, _, _ => rfl
  | .flag, _, _, _, _ => rfl
  | .optional inner, v, none, _, _ => rfl
  | .optional inner, v, some x, hsound, hread => by
    rw [Shape.isSound, Bool.and_eq_true] at hsound
    have hne : v ≠ .null := by
      rintro rfl
      exact absurd hread (by simp [Shape.read])
    rw [Shape.read_optional_of_ne_null hne, Except.map_eq_ok_iff] at hread
    obtain ⟨y, hy, hsome⟩ := hread
    obtain rfl := Option.some.inj hsome
    -- what is there is never written as null, so that it is read as there again
    rw [Shape.write, Shape.read_optional_of_ne_null (Shape.write_ne_null hsound.1 y),
      Shape.read_write_of_read spelling inner hsound.2 hy]
    rfl
  | .slot inner, v, x, hsound, hread => by
    rw [Shape.read, Except.map_eq_ok_iff] at hread
    obtain ⟨y, hy, rfl⟩ := hread
    rw [Shape.read, Shape.write, Shape.read_write_of_read spelling inner hsound hy]
    rfl
  | .many item, v, xs, hsound, hread => by
    refine Shape.read_write_many fun x hx => ?_
    obtain ⟨w, hw⟩ := Shape.exists_read_of_mem_many hread hx
    exact Shape.read_write_of_read spelling item hsound hw
  | .table value, v, xs, hsound, hread => by
    refine Shape.read_write_table (Shape.nodup_of_read_table hread) fun e he => ?_
    obtain ⟨w, hw⟩ := Shape.exists_read_of_mem_table hread he
    exact Shape.read_write_of_read spelling value hsound hw
  | .record fields, v, x, hsound, hread => by
    cases v with
    | map entries => exact Fields.read_write_of_read spelling fields hsound hread
    | _ => exact absurd hread (by simp [Shape.read])
/-- What a mapping gives for fields is given by the mapping written for it too. -/
theorem Fields.read_write_of_read (spelling : Spelling) : ∀ (fields : Fields)
    {entries : List (Value × Value)} {x : fields.Carrier}, fields.isSound →
      fields.read entries = .ok x → fields.read (fields.write spelling x) = .ok x
  | .none, _, _, _, _ => rfl
  | .field name required shape rest, entries, (a, b), hsound, hread => by
    obtain ⟨hapart, habsent, hshape, hrest⟩ := Fields.isSound_field_iff.mp hsound
    rw [Fields.read_field, Checked.both_eq_ok_iff] at hread
    refine Fields.read_write_field hapart ?_
      (Fields.read_write_of_read spelling rest hrest hread.2)
    -- a field that was not there is written out with the value that it has then
    obtain ⟨w, hw⟩ | ⟨hmissing, rfl⟩ := readField_cases hread.1
    · exact Shape.read_write_of_read spelling shape hshape hw
    · exact Shape.read_write_absent (habsent.resolve_left hmissing)
end

lemma Described.read_eq_ok_iff {α : Type} [Described α] {v : Value} {x : α} :
    Described.read α v = .ok x ↔ ∃ c, (Described.shape α).read v = .ok c ∧ ofCarrier c = x :=
  Except.map_eq_ok_iff

/-- A part of an API description that some document describes is described by its own document too,
whether the names of fields are written in snake case or in camel case. -/
theorem Descriptor.read_write (d : Descriptor) {v : Value} {x : d.Carrier}
    (h : Described.read d.Carrier v = .ok x) (spelling : Spelling) :
    Described.read d.Carrier (Described.write spelling x) = .ok x := by
  obtain ⟨c, hread, rfl⟩ := Described.read_eq_ok_iff.mp h
  refine Described.read_eq_ok_iff.mpr ⟨c, ?_, rfl⟩
  rw [Described.write, LawfulDescribed.toCarrier_ofCarrier]
  exact Shape.read_write_of_read spelling _ LawfulDescribed.isSound hread

/-- A description with an entry of no field, and a variable of which only the name is given. -/
theorem Descriptor.read_write_serverVariable : ∃ x : ApiDescription,
    Described.read ApiDescription (.map [(.text "x-origin", .int 1), (.text "servers", .list
      [.map [(.text "variables", .map [(.text "base_type", .null)])]])]) = .ok x ∧
    Described.read ApiDescription (Described.write .camel x) = .ok x :=
  ⟨⟨none, [⟨none, none, [("base_type", none)]⟩], [], []⟩, rfl,
    Descriptor.read_write .apiDescription (v := .map [(.text "x-origin", .int 1), (.text "servers",
      .list [.map [(.text "variables", .map [(.text "base_type", .null)])]])]) rfl .camel⟩

end StubPlan
