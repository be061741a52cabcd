import StubPlan.Proofs.Description.RoundTrip

/-! Names of fields in either spelling. Reading a document is reading what its shape sees of it, with
all names of fields in snake case; so documents that differ only in how names of fields are spelled
have the same value, or the same faults at places that differ only so. -/
namespace StubPlan

namespace Value

/-- A value without what is in it. -/
def outline : Value → Value
  | .list _ => .list []
  | .tuple _ => .tuple []
  | .set _ => .set []
  | .map _ => .map []
  | v => v

/-- The entries of a mapping; other values have none. -/
def entries : Value → List (Value × Value)
  | .map entries => entries
  | _ => []

end Value

mutual
/-- What a shape sees of a document, with all names of fields in snake case: nothing of the values of
entries that are no fields, and nothing in a value that has parts where the shape has none. -/
def Shape.view : Shape → Value → Value
  | .text _, v => v.outline
  | .flag, v => v.outline
  | .optional inner, v => inner.view v
  | .slot inner, v => inner.view v
  | .many item, v => match v with
    | .list items => .list (items.map item.view)
    | .tuple items => .tuple (items.map item.view)
    | .set items => .set (items.map item.view)
    | v => v.outline
  | .table value, v => match v with
    | .map entries => .map (entries.map fun (k, v) => (k, value.view v))
    | v => v.outline
  | .record fields, v => match v with
    | .map entries => .map (entries.map fields.viewEntry)
    | v => v.outline
/-- What fields see of an entry of a mapping. -/
def Fields.viewEntry : Fields → Value × Value → Value × Value
  | .none, e => (e.1, .null)
  | .field name _ shape rest, e =>
    if e.1.spells name then (.text name, shape.view e.2) else rest.viewEntry e
end

mutual
/-- A path into a document with the names of fields in snake case. Names in a table are no names of
fields and stay as they are. -/
def Shape.place : Shape → List Step → List Step
  | .text _, path => path
  | .flag, path => path
  | .optional inner, path => inner.place path
  | .slot inner, path => inner.place path
  | .many item, path => match path with
    | .item i :: rest => .item i :: item.place rest
    | path => path
  | .table value, path => match path with
    | .key name :: rest => .key name :: value.place rest
    | path => path
  | .record fields, path => match path with
    | .key name :: rest => fields.place name rest
    | path => path
/-- A path that goes on from a name in a record. -/
def Fields.place : Fields → String → List Step → List Step
  | .none, found, path => .key found :: path
  | .field name _ shape rest, found, path =>
    if isSpellingOf name found then .key name :: shape.place path else rest.place found path
end

/-- Whether a mapping has entries for a field in one spelling of its name at most. -/
def isSpelledOnce (name : String) (entries : List (Value × Value)) : Bool :=
  camelCase name = name || (Value.get? name entries).isNone ||
    (Value.get? (camelCase name) entries).isNone

mutual
/-- Whether no record in a document has a field in both spellings of its name. -/
def Shape.isUnambiguous : Shape → Value → Bool
  | .text _, _ => true
  | .flag, _ => true
  | .optional inner, v => inner.isUnambiguous v
  | .slot inner, v => inner.isUnambiguous v
  | .many item, v => (v.items?.getD []).all item.isUnambiguous
  | .table value, v => v.entries.all fun e => value.isUnambiguous e.2
  | .record fields, v => fields.isUnambiguous v.entries
/-- Whether no field has entries in both spellings of its name, nor a record below it. -/
def Fields.isUnambiguous : Fields → List (Value × Value) → Bool
  | .none, _ => true
  | .field name _ shape rest, entries =>
    isSpelledOnce name entries &&
      entries.all (fun e => !e.1.spells name || shape.isUnambiguous e.2) &&
      rest.isUnambiguous entries
end

section Outlines

/-! Where a shape has no parts, what is in a value does not count. -/

lemma readText_outline (v : Value) : readText v.outline = readText v := by
  cases v <;> rfl

lemma readFlag_outline (v : Value) : readFlag v.outline = readFlag v := by
  cases v <;> rfl

lemma Value.outline_eq_null_iff {v : Value} : v.outline = .null ↔ v = .null := by
  cases v <;> simp [Value.outline]

lemma Shape.view_eq_null_iff : ∀ (shape : Shape) {v : Value}, shape.view v = .null ↔ v = .null
  | .text _, _ => Value.outline_eq_null_iff
  | .flag, _ => Value.outline_eq_null_iff
  | .optional inner, _ => inner.view_eq_null_iff
  | .slot inner, _ => inner.view_eq_null_iff
  | .many _, v => by cases v <;> simp [Shape.view, Value.outline]
  | .table _, v => by cases v <;> simp [Shape.view, Value.outline]
  | .record _, v => by cases v <;> simp [Shape.view, Value.outline]

lemma Shape.place_nil : ∀ shape : Shape, shape.place [] = []
  | .text _ => rfl
  | .flag => rfl
  | .optional inner => inner.place_nil
  | .slot inner => inner.place_nil
  | .many _ => rfl
  | .table _ => rfl
  | .record _ => rfl

lemma Shape.place_keyItself : ∀ (shape : Shape) (path : List Step),
    shape.place (.keyItself :: path) = .keyItself :: path
  | .text _, _ => rfl
  | .flag, _ => rfl
  | .optional inner, path => inner.place_keyItself path
  | .slot inner, path => inner.place_keyItself path
  | .many _, _ => rfl
  | .table _, _ => rfl
  | .record _, _ => rfl

end Outlines

section Lookup

/-! The entry of a field that is spelled in one way only. -/

variable {name : String} {entries : List (Value × Value)} {g : Value × Value → Value × Value}

lemma isSpelledOnce_iff : isSpelledOnce name entries ↔ camelCase name = name ∨
    Value.get? name entries = none ∨ Value.get? (camelCase name) entries = none := by
  simp [isSpelledOnce, or_assoc]

lemma isSpelledOnce_of_cons {e : Value × Value} (he : e.1.spells name = false)
    (h : isSpelledOnce name (e :: entries)) : isSpelledOnce name entries := by
  rwa [isSpelledOnce_iff, Value.get?_cons_of_not_spells he,
    Value.get?_camelCase_cons_of_not_spells he, ← isSpelledOnce_iff] at h

/-- A field that is spelled in one way only is found at the first entry that spells it. -/
lemma findField_eq_find? (h : isSpelledOnce name entries) : findField name entries =
    (entries.find? (·.1.spells name)).map fun e => (e.1.keyText, e.2) := by
  induction entries with
  | nil => rfl
  | cons e rest ih =>
    obtain ⟨k, v⟩ := e
    by_cases hk : k.spells name
    · have hfirst : ((k, v) :: rest).find? (·.1.spells name) = some (k, v) :=
        List.find?_cons_of_pos hk
      rw [hfirst]
      obtain ⟨s, rfl, hs⟩ := Value.exists_text_of_spells hk
      by_cases hcamel : s = camelCase name
      · rw [findField, hcamel, Value.get?_cons_self]
        rfl
      · obtain rfl : s = name := (isSpellingOf_iff.mp hs).resolve_right hcamel
        -- the other spelling would come first, but it is not there
        rw [isSpelledOnce_iff, Value.get?_cons_self] at h
        have hnone : Value.get? (camelCase s) ((.text s, v) :: rest) = none :=
          (h.resolve_left fun hsame => hcamel hsame.symm).resolve_left (by simp)
        rw [findField, hnone, Value.get?_cons_self]
        rfl
    · rw [Bool.not_eq_true] at hk
      rw [findField_cons_of_not_spells hk, List.find?_cons_of_neg (by simp [hk]),
        ih (isSpelledOnce_of_cons hk h)]

/-- What fields see of entries, as far as one of them is concerned: its own entry under its name in
snake case, and nothing under its name otherwise. -/
structure SeesField (name : String) (shape : Shape) (g : Value × Value → Value × Value)
    (place : List Step → List Step) : Prop where
  eq_of_spells : ∀ e, e.1.spells name → g e = (.text name, shape.view e.2)
  not_spells : ∀ e, e.1.spells name = false → (g e).1.spells name = false
  place_key : ∀ found path, isSpellingOf name found →
    place (.key found :: path) = .key name :: shape.place path

variable {shape : Shape} {required : Bool} {place : List Step → List Step}

/-- Nothing that is seen has another spelling of a field than its name in snake case. -/
lemma SeesField.get?_camelCase_map (h : SeesField name shape g place) (hne : camelCase name ≠ name)
    (entries : List (Value × Value)) : Value.get? (camelCase name) (entries.map g) = none := by
  induction entries with
  | nil => rfl
  | cons e rest ih =>
    rw [List.map_cons]
    by_cases he : e.1.spells name
    · rw [h.eq_of_spells e he, Value.get?_cons_of_ne (Ne.symm hne), ih]
    · have hnot := h.not_spells e (Bool.eq_false_iff.mpr he)
      exact (Value.get?_camelCase_cons_of_not_spells hnot).trans ih

/-- Among what is seen a field is found under its name in snake case. -/
lemma SeesField.findField_map (h : SeesField name shape g place) (honce : isSpelledOnce name entries) :
    findField name (entries.map g) =
      (findField name entries).map fun found => (name, shape.view found.2) := by
  rw [findField_eq_find? honce, Option.map_map]
  clear honce
  induction entries with
  | nil => rfl
  | cons e rest ih =>
    rw [List.map_cons]
    by_cases he : e.1.spells name
    · have hfirst : (e :: rest).find? (·.1.spells name) = some e := List.find?_cons_of_pos he
      rw [hfirst, h.eq_of_spells e he, findField]
      by_cases hsame : camelCase name = name
      · rw [hsame, Value.get?_cons_self]
        rfl
      · rw [Value.get?_cons_of_ne (Ne.symm hsame), h.get?_camelCase_map hsame,
          Value.get?_cons_self]
        rfl
    · rw [Bool.not_eq_true] at he
      have hskip : (e :: rest).find? (·.1.spells name) = rest.find? (·.1.spells name) :=
        List.find?_cons_of_neg (by simp [he])
      rw [hskip]
      exact (findField_cons_of_not_spells (h.not_spells e he)).trans ih

/-- Reading a field from what is seen is reading it, but for the places of faults. -/
lemma SeesField.readField_map (h : SeesField name shape g place) (honce : isSpelledOnce name entries)
    (hshape : ∀ e ∈ entries, e.1.spells name →
      shape.read (shape.view e.2) = Checked.relocate shape.place (shape.read e.2)) :
    readField name required shape (entries.map g) =
      Checked.relocate place (readField name required shape entries) := by
  have hmissing : Checked.relocate place
      (Checked.under (.key name) (Checked.fault .missing : Checked shape.Carrier)) =
        Checked.under (.key name) (Checked.fault .missing) := by
    have hname : isSpellingOf name name := isSpellingOf_write .snake name
    rw [Checked.relocate_under fun path => h.place_key name path hname,
      Checked.relocate_fault shape.place_nil]
  rw [readField, readField, h.findField_map honce, findField_eq_find? honce]
  rcases hfind : entries.find? (·.1.spells name) with - | e
  · rw [hfind, Option.map_none, Option.map_none]
    cases required with
    | true => exact hmissing.symm
    | false => rfl
  · have hspells : e.1.spells name := by simpa using List.find?_some hfind
    obtain ⟨s, hkey, hs⟩ := Value.exists_text_of_spells hspells
    have hplace := Checked.relocate_under (x := shape.read e.2) fun path => h.place_key s path hs
    have htext : e.1.keyText = s := by rw [hkey]; rfl
    rw [hfind, Option.map_some, Option.map_some, htext, hplace]
    exact congrArg (Checked.under (.key name))
      (hshape e (List.mem_of_find?_eq_some hfind) hspells)

end Lookup

section Parts

variable {item value : Shape} {v : Value}

lemma Shape.read_view_many
    (h : ∀ w ∈ v.items?.getD [], item.read (item.view w) = Checked.relocate item.place (item.read w)) :
    (Shape.many item).read ((Shape.many item).view v) =
      Checked.relocate (Shape.many item).place ((Shape.many item).read v) := by
  have hitems : ((Shape.many item).view v).items? = v.items?.map (·.map item.view) := by
    cases v <;> rfl
  rw [Shape.read_many, Shape.read_many, hitems]
  rcases hv : v.items? with - | items
  · exact (Checked.relocate_fault (Shape.place_nil _)).symm
  · rw [hv, Option.getD_some] at h
    rw [Option.map_some]
    simp only
    rw [Checked.relocate_all, List.zipIdx_map, List.map_map, List.map_map]
    congr 1
    refine List.map_congr_left fun p hp => ?_
    have hplace : ∀ path, (Shape.many item).place (.item p.2 :: path) =
        .item p.2 :: item.place path := fun _ => rfl
    have hitem := h p.1 (List.fst_mem_of_mem_zipIdx hp)
    exact (congrArg (Checked.under (.item p.2)) hitem).trans (Checked.relocate_under hplace).symm

lemma Shape.readEntry_view {e : Value × Value}
    (h : value.read (value.view e.2) = Checked.relocate value.place (value.read e.2)) :
    value.readEntry (e.1, value.view e.2) =
      Checked.relocate (Shape.table value).place (value.readEntry e) := by
  have hkey : Checked.relocate value.place (Checked.under .keyItself (readText e.1)) =
      Checked.under .keyItself (readText e.1) := by
    rw [Checked.relocate_under value.place_keyItself, Checked.relocate_eq_self fun _ => rfl]
  have hplace : ∀ path, (Shape.table value).place (.key e.1.keyText :: path) =
      .key e.1.keyText :: value.place path := fun _ => rfl
  rw [Shape.readEntry, Shape.readEntry, Checked.relocate_under hplace, Checked.relocate_both, hkey, h]

lemma Shape.read_view_table
    (h : ∀ e ∈ v.entries, value.read (value.view e.2) = Checked.relocate value.place (value.read e.2)) :
    (Shape.table value).read ((Shape.table value).view v) =
      Checked.relocate (Shape.table value).place ((Shape.table value).read v) := by
  cases v with
  | map entries =>
    rw [Shape.view, Shape.read_table_map, Shape.read_table_map, Checked.relocate_map,
      Checked.relocate_all, List.map_map, List.map_map]
    congr 2
    exact List.map_congr_left fun e he => Shape.readEntry_view (h e he)
  | _ => exact (Checked.relocate_fault (Shape.place_nil _)).symm

end Parts

section Records

variable {name : String} {g : Value × Value → Value × Value} {place : List Step → List Step}

/-- Whether something holds of the name and the shape of every field. -/
def Fields.Forall (P : String → Shape → Prop) : Fields → Prop
  | .none => True
  | .field name _ shape rest => P name shape ∧ rest.Forall P

lemma Fields.Forall.imp {P Q : String → Shape → Prop} : ∀ {fields : Fields}, fields.Forall P →
    (∀ name ∈ fields.names, ∀ shape, P name shape → Q name shape) → fields.Forall Q
  | .none, _, _ => trivial
  | .field name _ shape _, ⟨hfirst, hrest⟩, h =>
    ⟨h name List.mem_cons_self shape hfirst,
      hrest.imp fun other hother => h other (List.mem_cons_of_mem name hother)⟩

/-- The key of what fields see of an entry that does not spell a name that is apart from theirs. -/
lemma Fields.not_spells_viewEntry : ∀ {fields : Fields} {e : Value × Value},
    (∀ other ∈ fields.names, areApart name other) → e.1.spells name = false →
      (fields.viewEntry e).1.spells name = false
  | .none, _, _, he => he
  | .field other _ shape rest, e, hapart, he => by
    rw [Fields.names, List.forall_mem_cons] at hapart
    rw [Fields.viewEntry]
    split
    · exact not_isSpellingOf_of_areApart hapart.1 (isSpellingOf_write .snake other)
    · exact Fields.not_spells_viewEntry hapart.2 he

/-- Fields whose names are apart see each of themselves. -/
lemma Fields.forall_seesField : ∀ {fields : Fields}, fields.isSound →
    fields.Forall fun name shape =>
      SeesField name shape fields.viewEntry (Shape.record fields).place
  | .none, _ => trivial
  | .field name required shape rest, hsound => by
    obtain ⟨hapart, -, -, hrest⟩ := Fields.isSound_field_iff.mp hsound
    refine ⟨⟨fun e he => if_pos he, fun e he => ?_, fun found path hfound => if_pos hfound⟩,
      (Fields.forall_seesField hrest).imp fun other hother inner h => ?_⟩
    · rw [Fields.viewEntry, he, if_neg Bool.false_ne_true]
      exact Fields.not_spells_viewEntry hapart he
    · -- an entry of the first field is of no other, and what is seen of it has no other name
      have hapart' := hapart other hother
      refine ⟨fun e he => ?_, fun e he => ?_, fun found path hfound => ?_⟩
      · rw [Fields.viewEntry, Value.not_spells_of_areApart hapart' he, if_neg Bool.false_ne_true]
        exact h.eq_of_spells e he
      · rw [Fields.viewEntry]
        split
        · exact not_isSpellingOf_of_areApart (areApart_symm hapart')
            (isSpellingOf_write .snake name)
        · exact h.not_spells e he
      · rw [Shape.place, Fields.place, not_isSpellingOf_of_areApart hapart' hfound,
          if_neg Bool.false_ne_true]
        exact h.place_key found path hfound

end Records

mutual
/-- Reading what a shape sees of a document is reading the document, but for the places of faults. -/
theorem Shape.read_view : ∀ (shape : Shape) {v : Value}, shape.isSound → shape.isUnambiguous v →
    shape.read (shape.view v) = Checked.relocate shape.place (shape.read v)
  | .text _, v, _, _ => (readText_outline v).trans (Checked.relocate_eq_self fun _ => rfl).symm
  | .flag, v, _, _ => (readFlag_outline v).trans (Checked.relocate_eq_self fun _ => rfl).symm
  | .optional inner, v, hsound, honce => by
    rw [Shape.isSound, Bool.and_eq_true] at hsound
    by_cases hv : v = .null
    · subst hv
      rw [(Shape.view_eq_null_iff _).mpr rfl]
      rfl
    · have hview : (Shape.optional inner).view v ≠ .null :=
        fun h => hv ((Shape.view_eq_null_iff _).mp h)
      rw [Shape.read_optional_of_ne_null hview, Shape.read_optional_of_ne_null hv,
        Checked.relocate_map]
      exact congrArg (Except.map some) (Shape.read_view inner hsound.2 honce)
  | .slot inner, v, hsound, honce => by
    rw [Shape.read, Shape.read, Checked.relocate_map]
    exact congrArg (Except.map some) (Shape.read_view inner hsound honce)
  | .many item, v, hsound, honce =>
    Shape.read_view_many fun w hw =>
      Shape.read_view item hsound (List.all_eq_true.mp honce w hw)
  | .table value, v, hsound, honce =>
    Shape.read_view_table fun e he =>
      Shape.read_view value hsound (List.all_eq_true.mp honce e he)
  | .record fields, v, hsound, honce => by
    cases v with
    | map entries => exact Fields.read_view fields (Fields.forall_seesField hsound) hsound honce
    | _ => exact (Checked.relocate_fault (Shape.place_nil _)).symm
/-- Fields that are seen are read from what is seen. -/
theorem Fields.read_view {g : Value × Value → Value × Value} {place : List Step → List Step}
    {entries : List (Value × Value)} : ∀ (fields : Fields),
    (fields.Forall fun name shape => SeesField name shape g place) → fields.isSound →
      fields.isUnambiguous entries →
        fields.read (entries.map g) = Checked.relocate place (fields.read entries)
  | .none, _, _, _ => rfl
  | .field name required shape rest, ⟨hsees, hseesRest⟩, hsound, honce => by
    obtain ⟨-, -, hshape, hrest⟩ := Fields.isSound_field_iff.mp hsound
    rw [Fields.isUnambiguous, Bool.and_eq_true, Bool.and_eq_true] at honce
    obtain ⟨⟨hspelled, hbelow⟩, honceRest⟩ := honce
    rw [Fields.read_field, Fields.read_field, Checked.relocate_both,
      Fields.read_view rest hseesRest hrest honceRest]
    congr 1
    refine hsees.readField_map hspelled fun e he hspells => ?_
    have hbelow := List.all_eq_true.mp hbelow e he
    rw [hspells, Bool.not_true, Bool.false_or] at hbelow
    exact Shape.read_view shape hshape hbelow
end

/-- Whether two outcomes are one value, or the same faults in the same order at places that are the
same but for the spelling of names. -/
def Checked.SameBut {α : Type} (place : List Step → List Step) : Checked α → Checked α → Prop
  | .ok x, .ok y => x = y
  | .error fs, .error gs =>
    fs.map Fault.kind = gs.map Fault.kind ∧ fs.map (place ·.path) = gs.map (place ·.path)
  | _, _ => False

lemma Checked.sameBut_of_relocate_eq {α : Type} {place : List Step → List Step} {x y : Checked α}
    (h : relocate place x = relocate place y) : SameBut place x y := by
  cases x <;> cases y
  case error.error fs gs =>
    have hfaults := Except.error.inj h
    constructor
    · simpa [Function.comp_def] using congrArg (List.map Fault.kind) hfaults
    · simpa [Function.comp_def] using congrArg (List.map Fault.path) hfaults
  case ok.ok => exact Except.ok.inj h
  all_goals exact absurd h (by simp [relocate, Except.mapError])

lemma Shape.relocate_read_of_view_eq {shape : Shape} {v w : Value} (hsound : shape.isSound)
    (hv : shape.isUnambiguous v) (hw : shape.isUnambiguous w) (h : shape.view v = shape.view w) :
    Checked.relocate shape.place (shape.read v) = Checked.relocate shape.place (shape.read w) := by
  rw [← Shape.read_view shape hsound hv, h, Shape.read_view shape hsound hw]

lemma Shape.mem_names_of_read_table {value : Shape} {table : List (Value × Value)}
    {xs : List (String × value.Carrier)} (h : (Shape.table value).read (.map table) = .ok xs)
    (name : String) : name ∈ xs.map Prod.fst ↔ ∃ e ∈ table, readText e.1 = .ok name := by
  obtain ⟨entries, pairs, htable, hpairs, rfl⟩ := Shape.exists_entries_of_read_table h
  obtain rfl := Value.map.inj htable
  rw [Table.mem_names_ofEntries, List.mem_map]
  constructor
  · rintro ⟨p, hp, rfl⟩
    have hmem : .ok p ∈ table.map value.readEntry := by
      rw [hpairs]
      exact List.mem_map_of_mem hp
    obtain ⟨e, he, hread⟩ := List.mem_map.mp hmem
    exact ⟨e, he, (Shape.readEntry_eq_ok_iff.mp hread).1⟩
  · rintro ⟨e, he, hname⟩
    have hmem : value.readEntry e ∈ pairs.map .ok := by
      rw [← hpairs]
      exact List.mem_map_of_mem he
    obtain ⟨p, hp, hread⟩ := List.mem_map.mp hmem
    have hkey := (Shape.readEntry_eq_ok_iff.mp hread.symm).1
    exact ⟨p, hp, Except.ok.inj (hkey.symm.trans hname)⟩

/-- A server has the variables that its document names, each under the name that it has there. -/
lemma Server.mem_names_declared {entries table : List (Value × Value)} {server : Server}
    (hread : Described.read Server (.map entries) = .ok server)
    (htable : Value.get? "variables" entries = some (.map table)) (name : String) :
    name ∈ server.declared.map Prod.fst ↔ ∃ e ∈ table, readText e.1 = .ok name := by
  obtain ⟨⟨url, description, declared, ⟨⟩⟩, hfields, rfl⟩ := Described.read_eq_ok_iff.mp hread
  have hnames : (declared.map fun e =>
      (e.1, e.2.map (Described.ofCarrier : _ → ServerVariable))).map Prod.fst =
        declared.map Prod.fst := by
    rw [List.map_map]
    rfl
  have hfind : findField "variables" entries = some ("variables", .map table) := by
    have hcamel : camelCase "variables" = "variables" := by decide +kernel
    rw [findField, hcamel, htable]
  change Checked.both _ (Checked.both _ (Checked.both (readField _ _ _ _) _)) = _ at hfields
  rw [Checked.both_eq_ok_iff, Checked.both_eq_ok_iff, Checked.both_eq_ok_iff, readField, hfind]
    at hfields
  obtain ⟨-, -, hdeclared, -⟩ := hfields
  exact (iff_of_eq (congrArg (name ∈ ·) hnames)).trans
    (Shape.mem_names_of_read_table (Checked.under_eq_ok_iff.mp hdeclared) name)

/-- Documents of which a kind of part sees the same, neither of them with a field in both spellings
of its name, describe the same or have the same faults at the same places, whatever the spelling of
the names of fields. The names of a server's variables are no names of fields: they are told as they
are written. -/
theorem Descriptor.read_of_view_eq (d : Descriptor) {v w : Value}
    (hv : (Described.shape d.Carrier).isUnambiguous v)
    (hw : (Described.shape d.Carrier).isUnambiguous w)
    (h : (Described.shape d.Carrier).view v = (Described.shape d.Carrier).view w) :
    Checked.SameBut (Described.shape d.Carrier).place
        (Described.read d.Carrier v) (Described.read d.Carrier w) ∧
      ∀ entries table server, Described.read Server (.map entries) = .ok server →
        Value.get? "variables" entries = some (.map table) →
          ∀ name, name ∈ server.declared.map Prod.fst ↔
            ∃ e ∈ table, readText e.1 = .ok name := by
  refine ⟨Checked.sameBut_of_relocate_eq ?_, fun _ _ _ => Server.mem_names_declared⟩
  rw [Described.read, Described.read, Checked.relocate_map, Checked.relocate_map,
    Shape.relocate_read_of_view_eq LawfulDescribed.isSound hv hw h]

/-- A fault in a field that two documents spell differently, and a variable whose name looks like
the name of a field. -/
theorem Descriptor.read_of_view_eq_httpMethod :
    Checked.SameBut (Described.shape Operation).place
        (Described.read Operation (.map [(.text "http_method", .int 3)]))
        (Described.read Operation (.map [(.text "httpMethod", .int 3)])) ∧
      ∀ name, name ∈ ["base_type"] ↔
        ∃ e ∈ [(Value.text "base_type", Value.null)], readText e.1 = .ok name :=
  have h := Descriptor.read_of_view_eq .operation (v := .map [(.text "http_method", .int 3)])
    (w := .map [(.text "httpMethod", .int 3)]) (by decide +kernel) (by decide +kernel) rfl
  ⟨h.1, h.2 [(.text "variables", .map [(.text "base_type", .null)])] _
    ⟨none, none, [("base_type", none)]⟩ rfl rfl⟩

end StubPlan
