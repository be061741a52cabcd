import Mathlib.Logic.Relation
import StubPlan.Proofs.Server.Substitution
import StubPlan.Proofs.Text.Trim

/-! Variables declared in another order. Placeholders do not overlap, so that filling in one of them
leaves the others where they are, and two ways of filling in can always be continued to the same text.
A URL has no braces and nothing to fill in; so it is the only one that a template can give. -/
namespace StubPlan
open Chars
open Relation (ReflTransGen)

namespace Server

/-- One step of putting variables in: a placeholder is replaced, where it stands, by what stands for
its variable. -/
def Fills (server : Server) (s t : List Char) : Prop :=
  ∃ before after, ∃ v ∈ server.declared,
    s = before ++ ((placeholder v.1).toList ++ after) ∧
      t = before ++ ((ServerVariable.replacement v.1 v.2).toList ++ after)

variable {server a b : Server} {s t u : List Char}

section Steps

lemma Fills.of_isReordering (hab : a.IsReordering b) (h : b.Fills s t) : a.Fills s t := by
  obtain ⟨before, after, v, hv, hs, ht⟩ := h
  exact ⟨before, after, v, hab.declared.mem_iff.mpr hv, hs, ht⟩

lemma Fills.append_left (front : List Char) (h : server.Fills s t) :
    server.Fills (front ++ s) (front ++ t) := by
  obtain ⟨before, after, v, hv, rfl, rfl⟩ := h
  exact ⟨front ++ before, after, v, hv, by simp, by simp⟩

lemma reflTransGen_append_left (front : List Char) (h : ReflTransGen server.Fills s t) :
    ReflTransGen server.Fills (front ++ s) (front ++ t) :=
  ReflTransGen.lift (front ++ ·) (fun _ _ => Fills.append_left front) _ _ h

/-- Without an opening brace there is nothing to fill in. -/
lemma eq_of_reflTransGen_fills (h : ReflTransGen server.Fills s t) (hs : '{' ∉ s) : s = t := by
  rcases ReflTransGen.cases_head h with heq | ⟨u, ⟨before, after, v, -, rfl, -⟩, -⟩
  · exact heq
  · exact absurd (by simp [toList_placeholder]) hs

/-- A pass over a text fills in the placeholders of one variable, one after another. -/
lemma reflTransGen_replace {v : String × Option ServerVariable} (hv : v ∈ server.declared)
    (s : List Char) : ReflTransGen server.Fills s
      (replace (placeholder v.1).toList (ServerVariable.replacement v.1 v.2).toList s) := by
  induction s using replace_induction (placeholder_ne_nil v.1) with
  | nil => exact .refl
  | found t ih =>
    have hstep : server.Fills ((placeholder v.1).toList ++ t)
        ((ServerVariable.replacement v.1 v.2).toList ++ t) := ⟨[], t, v, hv, rfl, rfl⟩
    rw [replace_append_self (placeholder_ne_nil v.1)]
    exact .head hstep (reflTransGen_append_left _ ih)
  | kept c t hp ih =>
    rw [replace_cons hp]
    exact reflTransGen_append_left [c] ih

/-- All passes together fill in placeholders, one after another. -/
lemma reflTransGen_substituted (server : Server) :
    ReflTransGen server.Fills (server.url.getD "").toList server.substituted.toList := by
  rw [substituted_eq_foldl]
  refine List.foldlRecOn server.declared putIn
    (motive := fun url => ReflTransGen server.Fills (server.url.getD "").toList url.toList)
    .refl fun url ih v hv => ?_
  rw [putIn, Text.replace, String.toList_ofList]
  exact ih.trans (reflTransGen_replace hv url.toList)

end Steps

section Confluence

/-- Of two placeholders in a text, that which does not begin later is the other one, or ends before the
other one begins. -/
lemma placeholder_append_cases {name other : String} (hname : Text.IsBraceFree name)
    (hother : Text.IsBraceFree other)
    (h : (placeholder name).toList ++ s = u ++ ((placeholder other).toList ++ t)) :
    u = [] ∧ name = other ∧ s = t ∨
      ∃ rest, u = (placeholder name).toList ++ rest ∧
        s = rest ++ ((placeholder other).toList ++ t) := by
  cases u with
  | nil => exact .inl ⟨rfl, (placeholder_append_inj hname hother).mp h⟩
  | cons c u =>
    rw [toList_placeholder name, List.cons_append, List.cons_append] at h
    obtain ⟨rfl, htail⟩ := List.cons.inj h
    rw [toList_placeholder other] at htail ⊢
    have hinside : '{' ∉ name.toList ++ ['}'] := by simpa using hname.1
    obtain ⟨rest, rfl, hs⟩ := exists_append_of_not_mem hinside htail
    exact .inr ⟨rest, by simp [toList_placeholder], hs⟩

/-- Two steps, the first of them at the beginning of the text, lead to the same text or can each be
followed by the other. -/
lemma fills_join (hnames : server.HasPlainNames) {v w : String × Option ServerVariable}
    (hv : v ∈ server.declared) (hw : w ∈ server.declared)
    (h : (placeholder v.1).toList ++ s = u ++ ((placeholder w.1).toList ++ t)) :
    let first := (ServerVariable.replacement v.1 v.2).toList ++ s
    let second := u ++ ((ServerVariable.replacement w.1 w.2).toList ++ t)
    first = second ∨ ∃ r, server.Fills first r ∧ server.Fills second r := by
  intro first second
  obtain ⟨rfl, hname, rfl⟩ | ⟨rest, rfl, rfl⟩ :=
    placeholder_append_cases (hnames.isBraceFree v hv) (hnames.isBraceFree w hw) h
  · obtain rfl : v = w := List.inj_on_of_nodup_map hnames.nodup hv hw hname
    exact .inl rfl
  · refine .inr ⟨(ServerVariable.replacement v.1 v.2).toList ++
      (rest ++ ((ServerVariable.replacement w.1 w.2).toList ++ t)), ?_, ?_⟩
    · exact ⟨(ServerVariable.replacement v.1 v.2).toList ++ rest, t, w, hw, by simp [first], by simp⟩
    · exact ⟨[], rest ++ ((ServerVariable.replacement w.1 w.2).toList ++ t), v, hv,
        by simp [second], rfl⟩

/-- Two steps from a text lead to the same text or can each be followed by the other. -/
lemma fills_diamond (hnames : server.HasPlainNames) (hst : server.Fills s t)
    (hsu : server.Fills s u) : t = u ∨ ∃ r, server.Fills t r ∧ server.Fills u r := by
  obtain ⟨before, after, v, hv, rfl, rfl⟩ := hst
  obtain ⟨before', after', w, hw, hs, rfl⟩ := hsu
  obtain ⟨between, rfl, hrest⟩ | ⟨between, rfl, hrest⟩ := List.append_eq_append_iff.mp hs
  · rw [List.append_assoc]
    obtain heq | ⟨r, hfirst, hsecond⟩ := fills_join hnames hv hw hrest
    · exact .inl (congrArg (before ++ ·) heq)
    · exact .inr ⟨before ++ r, hfirst.append_left before, hsecond.append_left before⟩
  · rw [List.append_assoc]
    obtain heq | ⟨r, hfirst, hsecond⟩ := fills_join hnames hw hv hrest
    · exact .inl (congrArg (before' ++ ·) heq.symm)
    · exact .inr ⟨before' ++ r, hsecond.append_left before', hfirst.append_left before'⟩

/-- Texts without an opening brace that are reached by filling in are the same. -/
lemma eq_of_reflTransGen (hnames : server.HasPlainNames) (hst : ReflTransGen server.Fills s t)
    (hsu : ReflTransGen server.Fills s u) (ht : '{' ∉ t) (hu : '{' ∉ u) : t = u := by
  have hjoin : ∀ x y z, server.Fills x y → server.Fills x z →
      ∃ r, Relation.ReflGen server.Fills y r ∧ ReflTransGen server.Fills z r := by
    intro x y z hxy hxz
    obtain rfl | ⟨r, hyr, hzr⟩ := fills_diamond hnames hxy hxz
    · exact ⟨y, .refl, .refl⟩
    · exact ⟨r, .single hyr, .single hzr⟩
  obtain ⟨r, htr, hur⟩ := Relation.church_rosser hjoin hst hsu
  rw [eq_of_reflTransGen_fills htr ht, eq_of_reflTransGen_fills hur hu]

end Confluence

/-- What is resolved to a URL has no opening brace, and the URL is what is read from it. -/
lemma of_resolvedUrl? {url : Url} (h : server.resolvedUrl? = some url) :
    '{' ∉ server.substituted.toList ∧ Url.parse? (trim server.substituted.toList) = some url := by
  rw [resolvedUrl?, Option.ite_none_left_eq_some] at h
  obtain ⟨-, h⟩ := h
  rw [Option.ite_none_left_eq_some, Option.filter_eq_some_iff] at h
  obtain ⟨hlegal, hparse, -⟩ := h
  refine ⟨fun hmem => hlegal (List.any_eq_true.mpr ⟨'{', ?_, by decide⟩), hparse⟩
  exact mem_dropEndsWhile hmem (by decide)

/-- Two servers with the same template and the same variables, declared in any order, have the same
URL if both have one; one of them may have none. -/
theorem resolvedUrl?_reordering :
    (∀ a b : Server, a.IsReordering b → a.HasPlainNames →
      ∀ u v, a.resolvedUrl? = some u → b.resolvedUrl? = some v → u = v) ∧
    ∃ a b : Server, a.IsReordering b ∧ a.HasPlainNames ∧
      a.resolvedUrl?.isSome ∧ b.resolvedUrl? = none := by
  refine ⟨fun a b hab hnames u v hu hv => ?_, ?_⟩
  · obtain ⟨hbraceA, hparseA⟩ := of_resolvedUrl? hu
    obtain ⟨hbraceB, hparseB⟩ := of_resolvedUrl? hv
    have hreachA := reflTransGen_substituted a
    have hreachB := reflTransGen_substituted b
    rw [← hab.url] at hreachB
    have hreachB := ReflTransGen.mono (fun _ _ => Fills.of_isReordering hab) _ _ hreachB
    have heq := eq_of_reflTransGen hnames hreachA hreachB hbraceA hbraceB
    rw [heq, hparseB] at hparseA
    exact (Option.some.inj hparseA).symm
  · let declared : List (String × Option ServerVariable) :=
      [("host", some ⟨some "\x7bzone\x7d.example.com", [], none⟩), ("zone", some ⟨some "eu", [], none⟩)]
    refine ⟨⟨some "http://\x7bhost\x7d/", none, declared⟩,
      ⟨some "http://\x7bhost\x7d/", none, declared.reverse⟩,
      ⟨rfl, (List.reverse_perm declared).symm⟩, ⟨by decide, by decide⟩, by decide, by decide⟩

/-- The variable whose default names another one is put in first, next to last or last of all. -/
theorem resolvedUrl?_reordering_zone :
    let host : String × Option ServerVariable :=
      ("host", some ⟨some "\x7bzone\x7d.example.com", [], none⟩)
    let zone : String × Option ServerVariable := ("zone", some ⟨some "eu", [], none⟩)
    let a : Server := ⟨some "http://\x7bhost\x7d/\x7bbase\x7d", none, [host, zone, ("base", none)]⟩
    let b : Server := { a with declared := [("base", none), host, zone] }
    a.IsReordering b ∧ a.HasPlainNames ∧
      ∃ u v, a.resolvedUrl? = some u ∧ b.resolvedUrl? = some v ∧ u = v := by
  intro host zone a b
  have hab : a.IsReordering b := ⟨rfl, by decide⟩
  have hnames : a.HasPlainNames := ⟨by decide, by decide⟩
  obtain ⟨u, hu⟩ := Option.isSome_iff_exists.mp (by decide : a.resolvedUrl?.isSome)
  obtain ⟨v, hv⟩ := Option.isSome_iff_exists.mp (by decide : b.resolvedUrl?.isSome)
  exact ⟨hab, hnames, u, v, hu, hv, resolvedUrl?_reordering.1 a b hab hnames u v hu hv⟩

end Server
end StubPlan
