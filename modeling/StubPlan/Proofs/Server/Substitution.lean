import StubPlan.Proofs.Description.RoundTrip
import StubPlan.Proofs.Text.Blank
import StubPlan.Proofs.Text.Replace
import StubPlan.Proofs.Text.Split
import StubPlan.Server

/-! Putting the variables into a template, one after another. Where names and defaults have no braces,
what one variable brings in is no place of another, so that all places are filled in as if at once. -/
namespace StubPlan
open Chars

def Text.IsBraceFree (s : String) : Prop := '{' ∉ s.toList ∧ '}' ∉ s.toList

instance (s : String) : Decidable (Text.IsBraceFree s) := by
  unfold Text.IsBraceFree
  infer_instance

open Text (IsBraceFree)

section Placeholder

variable {name other : String} {new s t : List Char}

lemma toList_placeholder (name : String) :
    (placeholder name).toList = '{' :: (name.toList ++ ['}']) := String.toList_ofList

lemma placeholder_ne_nil (name : String) : (placeholder name).toList ≠ [] := by
  simp [toList_placeholder]

/-- Different names have placeholders that differ before either ends. -/
lemma placeholder_append_inj (hname : IsBraceFree name) (hother : IsBraceFree other) :
    (placeholder name).toList ++ s = (placeholder other).toList ++ t ↔ name = other ∧ s = t := by
  simp only [toList_placeholder, List.cons_append, List.append_assoc, List.nil_append,
    List.cons.injEq, true_and]
  rw [append_sep_inj hname.2 hother.2, String.toList_inj]

/-- Text without an opening brace has no part in a placeholder. -/
lemma replace_placeholder_append (h : '{' ∉ s) (name : String) (t : List Char) :
    replace (placeholder name).toList new (s ++ t) =
      s ++ replace (placeholder name).toList new t := by
  rw [toList_placeholder, replace_append_of_not_mem h]

/-- The placeholder of another name stays as it is. -/
lemma replace_placeholder_other (hname : IsBraceFree name) (hother : IsBraceFree other)
    (hne : name ≠ other) (t : List Char) :
    replace (placeholder name).toList new ((placeholder other).toList ++ t) =
      (placeholder other).toList ++ replace (placeholder name).toList new t := by
  have hp : ¬ (placeholder name).toList <+: (placeholder other).toList ++ t := by
    rintro ⟨rest, hrest⟩
    exact hne ((placeholder_append_inj hname hother).mp hrest).1
  have hinside : '{' ∉ other.toList ++ ['}'] := by simpa using hother.1
  rw [toList_placeholder other, List.cons_append] at hp ⊢
  rw [replace_cons hp, replace_placeholder_append hinside, List.cons_append]

end Placeholder

/-- One variable put in, wherever its placeholder stands. -/
def putIn (url : String) (v : String × Option ServerVariable) : String :=
  Text.replace (placeholder v.1) (ServerVariable.replacement v.1 v.2) url

lemma Server.substituted_eq_foldl (server : Server) :
    server.substituted = server.declared.foldl putIn (server.url.getD "") := rfl

/-- A piece of a template: text, or the place of a variable. -/
inductive Template.Piece where
  | text (s : String)
  | place (name : String)
  deriving DecidableEq, Repr

namespace Template.Piece

/-- How a piece is written: a place by the placeholder of its variable. -/
def written : Piece → List Char
  | text s => s.toList
  | place name => (placeholder name).toList

/-- Whether neither the text of a piece nor the name of its variable has a brace. -/
def IsPlain : Piece → Prop
  | text s => IsBraceFree s
  | place name => IsBraceFree name

/-- What a piece is when the places of some variables are filled in. -/
def fill (value : String → String) (names : List String) : Piece → Piece
  | text s => text s
  | place name => if name ∈ names then text (value name) else place name

end Template.Piece

/-- A template of URLs, piece by piece. -/
abbrev Template := List Template.Piece

namespace Template

def written (template : Template) : String := String.ofList (template.flatMap Piece.written)

/-- A template with all of its places filled in at once. -/
def filled (value : String → String) (template : Template) : String :=
  String.ofList <| template.flatMap fun
    | .text s => s.toList
    | .place name => (value name).toList

end Template

section Passes

variable {value : String → String} {name : String} {names : List String} {template : Template}

lemma Template.Piece.fill_fill (piece : Piece) :
    (piece.fill value [name]).fill value names = piece.fill value (name :: names) := by
  cases piece with
  | text s => rfl
  | place other => by_cases h : other = name <;> simp [fill, h]

lemma Template.Piece.isPlain_fill {piece : Piece} (h : piece.IsPlain)
    (hvalue : IsBraceFree (value name)) : (piece.fill value [name]).IsPlain := by
  cases piece with
  | text s => exact h
  | place other =>
    by_cases hname : other = name
    · simpa [fill, hname, IsPlain] using hvalue
    · simpa [fill, hname] using h

/-- One pass fills in the places of one variable. -/
lemma Template.replace_written (hname : IsBraceFree name) (htemplate : ∀ p ∈ template, p.IsPlain) :
    Text.replace (placeholder name) (value name) template.written =
      Template.written (template.map (Piece.fill value [name])) := by
  simp only [Text.replace, written, String.toList_ofList, List.flatMap_map]
  refine congrArg String.ofList ?_
  induction template with
  | nil => rfl
  | cons piece rest ih =>
    rw [List.forall_mem_cons] at htemplate
    have ih := ih htemplate.2
    rw [List.flatMap_cons, List.flatMap_cons]
    cases piece with
    | text s =>
      rw [Piece.written, replace_placeholder_append htemplate.1.1, ih]
      rfl
    | place other =>
      by_cases h : name = other
      · subst h
        rw [Piece.written, replace_append_self (placeholder_ne_nil name), ih]
        simp [Piece.fill, Piece.written]
      · rw [Piece.written, replace_placeholder_other hname htemplate.1 h, ih]
        simp [Piece.fill, Piece.written, Ne.symm h]

/-- After some passes the places of their variables are filled in, and the others are as before. -/
lemma Template.foldl_putIn_written {declared : List (String × Option ServerVariable)}
    (hnames : ∀ v ∈ declared, IsBraceFree v.1)
    (hvalue : ∀ v ∈ declared, ServerVariable.replacement v.1 v.2 = value v.1)
    (hplain : ∀ v ∈ declared, IsBraceFree (value v.1)) (htemplate : ∀ p ∈ template, p.IsPlain) :
    declared.foldl putIn template.written =
      Template.written (template.map (Piece.fill value (declared.map Prod.fst))) := by
  induction declared generalizing template with
  | nil =>
    have hsame : ∀ piece ∈ template, piece.fill value [] = id piece := fun piece _ => by
      cases piece <;> rfl
    rw [List.map_nil, List.map_congr_left hsame, List.map_id, List.foldl_nil]
  | cons v rest ih =>
    rw [List.forall_mem_cons] at hnames hvalue hplain
    have hfill : ∀ p ∈ template.map (Piece.fill value [v.1]), p.IsPlain := by
      intro p hp
      obtain ⟨piece, hpiece, rfl⟩ := List.mem_map.mp hp
      exact Piece.isPlain_fill (htemplate piece hpiece) hplain.1
    rw [List.foldl_cons, putIn, hvalue.1, replace_written hnames.1 htemplate,
      ih hnames.2 hvalue.2 hplain.2 hfill, List.map_map]
    exact congrArg Template.written (List.map_congr_left fun piece _ => piece.fill_fill)

/-- When all places are filled in, no placeholder is left. -/
lemma Template.written_map_fill (h : ∀ p ∈ template, ∀ name, p = .place name → name ∈ names) :
    Template.written (template.map (Piece.fill value names)) = template.filled value := by
  rw [written, filled, List.flatMap_map]
  refine congrArg String.ofList (List.flatMap_congr fun piece hpiece => ?_)
  cases piece with
  | text s => rfl
  | place name =>
    have hname := h _ hpiece name rfl
    simp [Piece.fill, hname, Piece.written]

end Passes

namespace Server

/-- Whether each variable is declared once, under a name without braces. -/
structure HasPlainNames (server : Server) : Prop where
  nodup : (server.declared.map Prod.fst).Nodup
  isBraceFree : ∀ v ∈ server.declared, IsBraceFree v.1

def HasPlainDefaults (server : Server) : Prop :=
  ∀ v ∈ server.declared, ∀ given ∈ v.2.bind (·.default), IsBraceFree given

/-- Whether two servers have the same template and the same variables, declared in any order. -/
structure IsReordering (a b : Server) : Prop where
  url : a.url = b.url
  declared : a.declared.Perm b.declared

/-- The default of a variable, or its name when the default is missing or blank. -/
def ownValue (server : Server) (name : String) : String :=
  match server.declared.lookup name with
  | some (some ⟨some given, _, _⟩) => if Text.isBlank given then name else given
  | _ => name

/-- Whether a piece may stand in a server's template: text without braces, or the place of a variable
that the server declares. -/
def Admits (server : Server) : Template.Piece → Prop
  | .text s => IsBraceFree s
  | .place name => name ∈ server.declared.map Prod.fst

instance (server : Server) : (piece : Template.Piece) → Decidable (server.Admits piece)
  | .text s => inferInstanceAs (Decidable (IsBraceFree s))
  | .place name => inferInstanceAs (Decidable (name ∈ server.declared.map Prod.fst))

variable {server : Server} {template : Template}

/-- A server that some document describes declares each variable once. -/
lemma nodup_declared_of_read {v : Value} (h : Described.read Server v = .ok server) :
    (server.declared.map Prod.fst).Nodup := by
  obtain ⟨⟨url, description, declared, ⟨⟩⟩, hread, rfl⟩ := Described.read_eq_ok_iff.mp h
  have hnames : ((Described.ofCarrier (α := Server) (url, description, declared, ())).declared.map
      Prod.fst) = declared.map Prod.fst := List.map_map.trans rfl
  change (Shape.record _).read v = .ok _ at hread
  cases v with
  | map entries =>
    have hfields : Checked.both (readField "url" false optionalText entries)
        (Checked.both (readField "description" false optionalText entries)
          (Checked.both (readField "variables" false
            (.table (.optional (Described.shape ServerVariable))) entries) (.ok ()))) =
        .ok (url, description, declared, ()) := hread
    rw [Checked.both_eq_ok_iff, Checked.both_eq_ok_iff, Checked.both_eq_ok_iff] at hfields
    rw [hnames]
    obtain ⟨w, hw⟩ | ⟨-, rfl⟩ := readField_cases hfields.2.2.1
    · exact Shape.nodup_of_read_table hw
    · exact List.nodup_nil
  | _ => exact absurd hread (by simp [Shape.read])

lemma isPlain_of_admits (hnames : server.HasPlainNames) {piece : Template.Piece}
    (h : server.Admits piece) : piece.IsPlain := by
  cases piece with
  | text s => exact h
  | place name =>
    obtain ⟨v, hv, rfl⟩ := List.mem_map.mp h
    exact hnames.isBraceFree v hv

lemma lookup_of_mem (hnames : server.HasPlainNames) {v : String × Option ServerVariable}
    (hv : v ∈ server.declared) : server.declared.lookup v.1 = some v.2 := by
  obtain ⟨front, back, hsplit⟩ := List.append_of_mem hv
  refine List.lookup_eq_some_iff.mpr ⟨front, back, hsplit, fun w hw => ?_⟩
  have hnodup := hnames.nodup
  rw [hsplit, List.map_append, List.nodup_append] at hnodup
  exact bne_iff_ne.mpr
    (hnodup.2.2 _ (List.mem_map_of_mem hw) v.1 List.mem_cons_self).symm

lemma replacement_eq_ownValue (hnames : server.HasPlainNames) {v : String × Option ServerVariable}
    (hv : v ∈ server.declared) : ServerVariable.replacement v.1 v.2 = server.ownValue v.1 := by
  rw [ownValue, lookup_of_mem hnames hv, ServerVariable.replacement]
  rcases v with ⟨name, - | ⟨- | given, choices, description⟩⟩
  · rfl
  · rfl
  · have hgiven : (some (ServerVariable.mk (some given) choices description)).bind (·.default) =
        some given := rfl
    rw [hgiven]
    cases hblank : Text.isBlank given with
    | true => simp [Text.present?_of_isBlank hblank, hblank]
    | false => simp [Text.present?_of_not_isBlank hblank, hblank]

lemma isBraceFree_ownValue (hnames : server.HasPlainNames) (hdefaults : server.HasPlainDefaults)
    {v : String × Option ServerVariable} (hv : v ∈ server.declared) :
    IsBraceFree (server.ownValue v.1) := by
  rw [← replacement_eq_ownValue hnames hv, ServerVariable.replacement, Text.present?]
  rcases hgiven : v.2.bind (·.default) with - | given
  · exact hnames.isBraceFree v hv
  · rw [Option.filter_some]
    split
    · exact hdefaults v hv given hgiven
    · exact hnames.isBraceFree v hv

/-- Where names and defaults have no braces, a template is filled in at all of its places at once, each
with the value of its own variable, in whatever order the variables are declared. -/
theorem substituted_template {a b : Server} (hab : a.IsReordering b) (hnames : a.HasPlainNames)
    (hdefaults : a.HasPlainDefaults) (htemplate : ∀ piece ∈ template, a.Admits piece)
    (hurl : a.url.getD "" = template.written) :
    b.substituted = template.filled a.ownValue := by
  have hmem : ∀ {v}, v ∈ b.declared → v ∈ a.declared := hab.declared.mem_iff.mpr
  have hbraces : ∀ v ∈ b.declared, IsBraceFree v.1 := fun v hv => hnames.isBraceFree v (hmem hv)
  have hvalue : ∀ v ∈ b.declared, ServerVariable.replacement v.1 v.2 = a.ownValue v.1 :=
    fun v hv => replacement_eq_ownValue hnames (hmem hv)
  have hplain : ∀ v ∈ b.declared, IsBraceFree (a.ownValue v.1) :=
    fun v hv => isBraceFree_ownValue hnames hdefaults (hmem hv)
  have hpieces : ∀ piece ∈ template, piece.IsPlain :=
    fun piece hpiece => isPlain_of_admits hnames (htemplate piece hpiece)
  rw [substituted_eq_foldl, ← hab.url, hurl,
    Template.foldl_putIn_written hbraces hvalue hplain hpieces]
  refine Template.written_map_fill ?_
  rintro _ hpiece name rfl
  exact (hab.declared.map Prod.fst).mem_iff.mp (htemplate _ hpiece)

/-- A name may begin another name, and its place may come twice; a variable without a default, or with
a blank one, stands for its name. -/
theorem substituted_template_versions :
    let a : Server := ⟨some "https://\x7bhost\x7d/\x7bv\x7d/\x7bversion\x7d/\x7bv\x7d", none,
      [("v", some ⟨some "1", [], none⟩), ("version", none), ("host", some ⟨some " ", [], none⟩)]⟩
    let b : Server := { a with declared := a.declared.reverse }
    let template : Template := [.text "https://", .place "host", .text "/", .place "v", .text "/",
      .place "version", .text "/", .place "v"]
    a.IsReordering b ∧ a.HasPlainNames ∧ a.HasPlainDefaults ∧ (∀ piece ∈ template, a.Admits piece) ∧
      a.url.getD "" = template.written ∧ b.substituted = template.filled a.ownValue ∧
      template.filled a.ownValue = "https://host/1/version/1" := by
  intro a b template
  have hab : a.IsReordering b := ⟨rfl, (List.reverse_perm a.declared).symm⟩
  have hnames : a.HasPlainNames := ⟨by decide, by decide⟩
  have hdefaults : a.HasPlainDefaults := by unfold HasPlainDefaults; decide
  have htemplate : ∀ piece ∈ template, a.Admits piece := by decide
  have hurl : a.url.getD "" = template.written := by decide
  exact ⟨hab, hnames, hdefaults, htemplate, hurl,
    substituted_template hab hnames hdefaults htemplate hurl, by decide⟩

end Server

end StubPlan
