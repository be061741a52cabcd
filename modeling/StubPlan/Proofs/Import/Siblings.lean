import Mathlib.Data.List.Nodup
import StubPlan.Import
import StubPlan.Layout
import StubPlan.Proofs.Name.SnakeCase
import StubPlan.Proofs.Text.Split

/-! The statements by which a model imports the models that it depends on. A name that is imported again
is recognised by its statement alone. No dependency is lost by that: the module of a class has no space in
its name, so the class can be read off the statement. -/
namespace StubPlan

section FirstOccurrences

variable {α : Type} [DecidableEq α] {wanted : α → Prop} {entries names : List α} {e : α}

/-- The different entries of a list that are wanted, in the order in which the list first has them. -/
structure FirstOccurrences (wanted : α → Prop) (entries names : List α) : Prop where
  mem_iff : ∀ name, name ∈ names ↔ name ∈ entries ∧ wanted name
  ordered : names.Pairwise (entries.idxOf · < entries.idxOf ·)

namespace FirstOccurrences

lemma nil (wanted : α → Prop) : FirstOccurrences wanted [] [] := ⟨by simp, .nil⟩

lemma nodup (h : FirstOccurrences wanted entries names) : names.Nodup := by
  refine h.ordered.imp fun {a b} hlt => ?_
  rintro rfl
  exact lt_irrefl _ hlt

lemma mem_entries (h : FirstOccurrences wanted entries names) {name : α} (hname : name ∈ names) :
    name ∈ entries := ((h.mem_iff name).mp hname).1

/-- Entries that come later do not move those that are there. -/
lemma ordered_append (h : FirstOccurrences wanted entries names) (more : List α) :
    names.Pairwise ((entries ++ more).idxOf · < (entries ++ more).idxOf ·) := by
  refine h.ordered.imp_of_mem fun {a b} ha hb hlt => ?_
  rwa [List.idxOf_append_of_mem (h.mem_entries ha), List.idxOf_append_of_mem (h.mem_entries hb)]

/-- An entry that is not wanted, or is there already, adds nothing. -/
lemma keep (h : FirstOccurrences wanted entries names) (he : ¬ wanted e ∨ e ∈ names) :
    FirstOccurrences wanted (entries ++ [e]) names where
  mem_iff := by
    intro name
    rw [h.mem_iff, List.mem_append, List.mem_singleton]
    refine ⟨fun hname => ⟨.inl hname.1, hname.2⟩, ?_⟩
    rintro ⟨hentry | rfl, hwanted⟩
    · exact ⟨hentry, hwanted⟩
    · exact (h.mem_iff name).mp (he.resolve_left (not_not_intro hwanted))
  ordered := h.ordered_append [e]

/-- A wanted entry that is not there yet comes last. -/
lemma add (h : FirstOccurrences wanted entries names) (hwanted : wanted e) (he : e ∉ names) :
    FirstOccurrences wanted (entries ++ [e]) (names ++ [e]) where
  mem_iff := by
    intro name
    rw [List.mem_append, List.mem_append, List.mem_singleton, h.mem_iff]
    constructor
    · rintro (hname | rfl)
      · exact ⟨.inl hname.1, hname.2⟩
      · exact ⟨.inr rfl, hwanted⟩
    · rintro ⟨hentry | rfl, hname⟩
      · exact .inl ⟨hentry, hname⟩
      · exact .inr rfl
  ordered := by
    have hnew : e ∉ entries := fun hentry => he ((h.mem_iff e).mpr ⟨hentry, hwanted⟩)
    refine List.pairwise_append.mpr ⟨h.ordered_append [e], List.pairwise_singleton _ e, ?_⟩
    intro name hname last hlast
    obtain rfl := List.mem_singleton.mp hlast
    rw [List.idxOf_append_of_mem (h.mem_entries hname), List.idxOf_append_of_notMem hnew]
    have hlt := List.idxOf_lt_length_of_mem (h.mem_entries hname)
    omega

end FirstOccurrences
end FirstOccurrences

/-- The statement that imports a class from the module beside that of a model. -/
def siblingImport (name : String) : String :=
  "from ." ++ Name.snakeCase name ++ " import " ++ name

/-- The class can be read off the statement that imports it: it stands behind the word after the first
space that follows the module. -/
lemma siblingImport_injective : Function.Injective siblingImport := by
  have hchars : ∀ name, (siblingImport name).toList = "from .".toList ++
      (Name.snakeChars name.toList ++ ' ' :: ("import ".toList ++ name.toList)) := by
    intro name
    simp [siblingImport, Name.snakeCase]
  intro a b h
  have hlists := congrArg String.toList h
  rw [hchars, hchars] at hlists
  have hspace := Name.separator_not_mem_snakeChars (.inr (rfl : ' ' = ' '))
  obtain ⟨-, hnames⟩ := (Chars.append_sep_inj (hspace a.toList) (hspace b.toList)).mp
    (List.append_cancel_left hlists)
  exact String.toList_inj.mp (List.append_cancel_left hnames)

namespace Model

/-- Whether an import of a model names another model: it is not blank and not the model itself. -/
def NamesOther (m : Model) (name : String) : Prop := Text.isBlank name = false ∧ name ≠ m.classname

instance (m : Model) (name : String) : Decidable (m.NamesOther name) := by
  unfold NamesOther
  infer_instance

def addSibling (m : Model) (statements : List String) (name : String) : List String :=
  if m.NamesOther name ∧ siblingImport name ∉ statements then statements ++ [siblingImport name]
  else statements

lemma siblingImports_eq_foldl (m : Model) : m.siblingImports = m.imports.foldl m.addSibling [] := by
  have hround : (fun statements name =>
      if Text.isBlank name || name = m.classname then statements
      else if statements.contains (siblingImport name) then statements
      else statements ++ [siblingImport name]) = m.addSibling := by
    funext statements name
    have hother : (Text.isBlank name || decide (name = m.classname)) = true ↔ ¬ m.NamesOther name := by
      rw [NamesOther, not_and_or, Bool.or_eq_true, decide_eq_true_eq, Bool.not_eq_false, not_not]
    by_cases hname : m.NamesOther name <;> by_cases hmem : siblingImport name ∈ statements <;>
      simp [addSibling, hother, hname, hmem]
  rw [← hround]
  rfl

variable {m : Model} {entries names : List String}

/-- One more import keeps the statements those of the first occurrences. -/
lemma exists_addSibling (h : FirstOccurrences m.NamesOther entries names) (e : String) :
    ∃ after, FirstOccurrences m.NamesOther (entries ++ [e]) after ∧
      m.addSibling (names.map siblingImport) e = after.map siblingImport := by
  have hmem : siblingImport e ∈ names.map siblingImport ↔ e ∈ names :=
    List.mem_map_of_injective siblingImport_injective
  by_cases hadd : m.NamesOther e ∧ e ∉ names
  · refine ⟨names ++ [e], h.add hadd.1 hadd.2, ?_⟩
    rw [addSibling, if_pos ⟨hadd.1, mt hmem.mp hadd.2⟩, List.map_append, List.map_singleton]
  · have hkeep : ¬ (m.NamesOther e ∧ siblingImport e ∉ names.map siblingImport) := by rwa [hmem]
    rw [not_and_or, not_not] at hadd
    exact ⟨names, h.keep hadd, by rw [addSibling, if_neg hkeep]⟩

lemma exists_foldl_addSibling (m : Model) (entries : List String) :
    ∃ names, FirstOccurrences m.NamesOther entries names ∧
      entries.foldl m.addSibling [] = names.map siblingImport := by
  induction entries using List.reverseRecOn with
  | nil => exact ⟨[], .nil _, rfl⟩
  | append_singleton entries e ih =>
    obtain ⟨names, hnames, hfold⟩ := ih
    rw [List.foldl_concat, hfold]
    exact exists_addSibling hnames e

/-- A model has one import statement for each different model that its imports name, in the order in which
they first name it, and no statement twice. The statement imports the class from the file that the layout
gives it, and different classes have different statements. -/
theorem siblingImports_each (m : Model) :
    (∃ names : List String, m.siblingImports = names.map siblingImport ∧
      (∀ name, name ∈ names ↔ name ∈ m.imports ∧ Text.isBlank name = false ∧ name ≠ m.classname) ∧
      names.Pairwise (m.imports.idxOf · < m.imports.idxOf ·)) ∧
    m.siblingImports.Nodup ∧
    (∀ name, ∃ stem, siblingImport name = "from ." ++ stem ++ " import " ++ name ∧
      stem ++ ".py" = Layout.modelFilename name) ∧
    ∀ a b, siblingImport a = siblingImport b ↔ a = b := by
  obtain ⟨names, hnames, hfold⟩ := exists_foldl_addSibling m m.imports
  rw [← siblingImports_eq_foldl] at hfold
  refine ⟨⟨names, hfold, hnames.mem_iff, hnames.ordered⟩, ?_, fun name => ?_, fun a b => ?_⟩
  · rw [hfold]
    exact hnames.nodup.map siblingImport_injective
  · exact ⟨Name.snakeCase name, rfl, rfl⟩
  · exact siblingImport_injective.eq_iff

end Model
end StubPlan
