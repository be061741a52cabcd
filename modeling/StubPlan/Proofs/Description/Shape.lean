import StubPlan.Description.Shape
import StubPlan.Proofs.Description.Checked

/-! Shapes whose documents can be told apart: no two fields of a record have a spelling in common. The
entry that a field is read from is then found by the field's name alone. -/
namespace StubPlan

section Keys

/-! Keys that spell the name of a field. -/

/-- Whether a text is a spelling of a field's name. -/
def isSpellingOf (name s : String) : Bool := s = name || s = camelCase name

/-- Whether a key is a spelling of a field's name. -/
def Value.spells (name : String) : Value → Bool
  | .text s => isSpellingOf name s
  | _ => false

/-- Whether two names have no spelling in common. -/
def areApart (a b : String) : Bool := !isSpellingOf a b && !isSpellingOf a (camelCase b)

variable {name other : String} {entries : List (Value × Value)} {k v : Value}

lemma isSpellingOf_write (spelling : Spelling) (name : String) :
    isSpellingOf name (spelling.write name) := by
  cases spelling <;> simp [isSpellingOf, Spelling.write]

lemma isSpellingOf_iff {s : String} : isSpellingOf name s ↔ s = name ∨ s = camelCase name := by
  simp [isSpellingOf]

/-- A text spells one of two names that are apart at most. -/
lemma not_isSpellingOf_of_areApart {s : String} (h : areApart name other) (hs : isSpellingOf other s) :
    isSpellingOf name s = false := by
  rw [areApart, Bool.and_eq_true, Bool.not_eq_true', Bool.not_eq_true'] at h
  obtain rfl | rfl := isSpellingOf_iff.mp hs
  · exact h.1
  · exact h.2

lemma areApart_symm (h : areApart name other) : areApart other name := by
  simp only [areApart, isSpellingOf, Bool.and_eq_true, Bool.not_eq_true', Bool.or_eq_false_iff,
    decide_eq_false_iff_not] at h ⊢
  obtain ⟨⟨hname, hcamel⟩, hname', hcamel'⟩ := h
  exact ⟨⟨Ne.symm hname, Ne.symm hname'⟩, Ne.symm hcamel, Ne.symm hcamel'⟩

lemma Value.exists_text_of_spells (h : k.spells name) : ∃ s, k = .text s ∧ isSpellingOf name s := by
  cases k with
  | text s => exact ⟨s, rfl, h⟩
  | _ => exact absurd h Bool.false_ne_true

lemma Value.not_spells_of_areApart (h : areApart name other) (hk : k.spells other) :
    k.spells name = false := by
  obtain ⟨s, rfl, hs⟩ := exists_text_of_spells hk
  exact not_isSpellingOf_of_areApart h hs

lemma Value.get?_cons_self (name : String) (v : Value) (entries : List (Value × Value)) :
    Value.get? name ((.text name, v) :: entries) = some v := by
  simp [Value.get?]

lemma Value.get?_cons_of_ne {s : String} (h : s ≠ name) :
    Value.get? name ((.text s, v) :: entries) = Value.get? name entries := by
  simp [Value.get?, h]

lemma Value.get?_cons_of_not_spells (h : k.spells name = false) :
    Value.get? name ((k, v) :: entries) = Value.get? name entries := by
  cases k with
  | text s =>
    refine get?_cons_of_ne fun hs => ?_
    simp [Value.spells, isSpellingOf, hs] at h
  | _ => rfl

lemma Value.get?_camelCase_cons_of_not_spells (h : k.spells name = false) :
    Value.get? (camelCase name) ((k, v) :: entries) = Value.get? (camelCase name) entries := by
  cases k with
  | text s =>
    refine get?_cons_of_ne fun hs => ?_
    simp [Value.spells, isSpellingOf, hs] at h
  | _ => rfl

/-- An entry whose key is no spelling of a field's name does not count for the field. -/
lemma findField_cons_of_not_spells (h : k.spells name = false) :
    findField name ((k, v) :: entries) = findField name entries := by
  rw [findField, findField, Value.get?_camelCase_cons_of_not_spells h,
    Value.get?_cons_of_not_spells h]

lemma Value.get?_eq_none_of_not_spells (h : ∀ e ∈ entries, e.1.spells name = false) :
    Value.get? name entries = none ∧ Value.get? (camelCase name) entries = none := by
  induction entries with
  | nil => exact ⟨rfl, rfl⟩
  | cons e rest ih =>
    have he := h e List.mem_cons_self
    rw [get?_cons_of_not_spells he, get?_camelCase_cons_of_not_spells he]
    exact ih fun d hd => h d (List.mem_cons_of_mem e hd)

/-- A field is found at an entry under its name when no other entry has a spelling of it. -/
lemma findField_cons_write (spelling : Spelling) (h : ∀ e ∈ entries, e.1.spells name = false) :
    findField name ((.text (spelling.write name), v) :: entries) =
      some (spelling.write name, v) := by
  obtain ⟨hname, hcamel⟩ := Value.get?_eq_none_of_not_spells h
  cases spelling with
  | camel => simp [findField, Spelling.write, Value.get?_cons_self]
  | snake =>
    by_cases hsame : name = camelCase name
    · simp only [findField, Spelling.write, ← hsame, Value.get?_cons_self]
    · simp [findField, Spelling.write, Value.get?_cons_of_ne hsame, hcamel, Value.get?_cons_self]

end Keys

/-- Whether null stands for one thing only when a shape is optional. -/
def Shape.isSolid : Shape → Bool
  | .optional _ | .slot _ => false
  | _ => true

/-- Whether the value of a shape that is not there may be given by a document as well. -/
def Shape.mayBeAbsent : Shape → Bool
  | .slot _ | .record _ => false
  | _ => true

def Fields.names : Fields → List String
  | .none => []
  | .field name _ _ rest => name :: rest.names

mutual
/-- Whether the documents of a shape can be told apart. -/
def Shape.isSound : Shape → Bool
  | .text _ | .flag => true
  | .optional inner => inner.isSolid && inner.isSound
  | .slot inner => inner.isSound
  | .many item => item.isSound
  | .table value => value.isSound
  | .record fields => fields.isSound
/-- Whether the names of fields are apart and their documents can be told apart. -/
def Fields.isSound : Fields → Bool
  | .none => true
  | .field name required shape rest =>
    rest.names.all (areApart name) && (required || shape.mayBeAbsent) && shape.isSound &&
      rest.isSound
end

lemma Fields.isSound_field_iff {name : String} {required : Bool} {shape : Shape} {rest : Fields} :
    (Fields.field name required shape rest).isSound ↔
      (∀ other ∈ rest.names, areApart name other) ∧ (required ∨ shape.mayBeAbsent) ∧
        shape.isSound ∧ rest.isSound := by
  simp [Fields.isSound, and_assoc]

end StubPlan
