import StubPlan.Layout
import StubPlan.Proofs.Import.Redirect
import StubPlan.Proofs.Name.Package
import StubPlan.Proofs.Name.SnakeCase

/-! Which statements become relative, and to what. The redirection acts before any package is
compared, so the answer turns on what it does to the package a statement names. -/
namespace StubPlan.ImportRewriter
open Text

lemma make_some {modelPackage : String} (h : modelPackage ≠ "") (packageName : Option String) :
    make packageName (some modelPackage) = ⟨packageName, some modelPackage⟩ := by
  unfold make
  split
  · contradiction
  · next heq => exact absurd (Option.some.inj heq) h
  · rfl

@[simp] lemma packageName_make (packageName modelPackage : Option String) :
    (make packageName modelPackage).packageName = packageName := by
  unfold make
  split <;> rfl

lemma modelPrefixes_eq (r : ImportRewriter) :
    r.modelPrefixes = [importPrefix r.modelPackage, redirect (importPrefix r.modelPackage)] := rfl

lemma toRelativeImport_of_mem {s : String} {c : Char} (r : ImportRewriter) (h : c ∈ s.toList)
    (hc : isBlankChar c = false) : r.toRelativeImport s = r.relativeStatement s := by
  simp [toRelativeImport, isBlank_eq_false h hc]

lemma toRelativeImport_importPrefix (r : ImportRewriter) (package : Option String)
    (rest : String) : r.toRelativeImport (importPrefix package ++ rest) =
      r.relativeStatement (importPrefix package ++ rest) :=
  r.toRelativeImport_of_mem (by simp [importPrefix]) (show isBlankChar 'f' = false by decide)

lemma toRelativeImport_of_holds {s : String} (r : ImportRewriter) (h : Holds modelsSegment s) :
    r.toRelativeImport s = r.relativeStatement s :=
  r.toRelativeImport_of_mem (h.subset (show 'm' ∈ modelsSegment.toList by decide)) (by decide)

lemma relativeStatement_eq (r : ImportRewriter) (s : String) :
    r.relativeStatement s =
      match r.modelPrefixes.findSome? (dropFront? · (redirect s)) with
      | some rest => "from ..schemas." ++ rest
      | none => match dropFront? (importPrefix r.packageName) (redirect s) with
        | some rest => "from .." ++ rest
        | none => redirect s := rfl

/-- The model package as given is tried first. -/
lemma relativeStatement_of_given {r : ImportRewriter} {s rest : String}
    (h : redirect s = importPrefix r.modelPackage ++ rest) :
    r.relativeStatement s = "from ..schemas." ++ rest := by
  have hdrop : dropFront? (importPrefix r.modelPackage) (redirect s) = some rest :=
    dropFront?_eq_some_iff.mpr h
  rw [relativeStatement_eq, modelPrefixes_eq, List.findSome?_cons, hdrop]

/-- The redirected model package is tried when the given one is not there. -/
lemma relativeStatement_of_redirected {r : ImportRewriter} {s rest : String}
    (hgiven : ¬ BeginsWith (importPrefix r.modelPackage) (redirect s))
    (h : redirect s = redirect (importPrefix r.modelPackage) ++ rest) :
    r.relativeStatement s = "from ..schemas." ++ rest := by
  have hdrop : dropFront? (redirect (importPrefix r.modelPackage)) (redirect s) = some rest :=
    dropFront?_eq_some_iff.mpr h
  rw [relativeStatement_eq, modelPrefixes_eq, List.findSome?_cons,
    dropFront?_eq_none_iff.mpr hgiven, List.findSome?_cons, hdrop]

/-- The root package is tried when the model package is not there; other statements are only
redirected. -/
lemma relativeStatement_of_not_models {r : ImportRewriter} {s : String}
    (h : ∀ front ∈ r.modelPrefixes, ¬ BeginsWith front (redirect s)) :
    r.relativeStatement s =
      match dropFront? (importPrefix r.packageName) (redirect s) with
      | some rest => "from .." ++ rest
      | none => redirect s := by
  have hnone : r.modelPrefixes.findSome? (dropFront? · (redirect s)) = none :=
    List.findSome?_eq_none_iff.mpr fun front hf => dropFront?_eq_none_iff.mpr (h front hf)
  rw [relativeStatement_eq, hnone]

lemma relativeStatement_of_unrelated {r : ImportRewriter} {s : String}
    (hmodels : ∀ front ∈ r.modelPrefixes, ¬ BeginsWith front (redirect s))
    (hroot : ¬ BeginsWith (importPrefix r.packageName) (redirect s)) :
    r.relativeStatement s = redirect s := by
  rw [relativeStatement_of_not_models hmodels, dropFront?_eq_none_iff.mpr hroot]

/-- All that can become of a statement: its package gives way to the relative one, for a model
package or else for the root package, or it is redirected and no more. -/
lemma relativeStatement_cases (r : ImportRewriter) (s : String) :
    (∃ front ∈ r.modelPrefixes, ∃ rest, redirect s = front ++ rest ∧
      r.relativeStatement s = "from ..schemas." ++ rest) ∨
    (∀ front ∈ r.modelPrefixes, ¬ BeginsWith front (redirect s)) ∧
      ((∃ rest, redirect s = importPrefix r.packageName ++ rest ∧
        r.relativeStatement s = "from .." ++ rest) ∨
      ¬ BeginsWith (importPrefix r.packageName) (redirect s) ∧
        r.relativeStatement s = redirect s) := by
  by_cases hgiven : BeginsWith (importPrefix r.modelPackage) (redirect s)
  · obtain ⟨rest, h⟩ := beginsWith_iff.mp hgiven
    exact .inl ⟨_, by simp [modelPrefixes_eq], rest, h, relativeStatement_of_given h⟩
  by_cases hredirected : BeginsWith (redirect (importPrefix r.modelPackage)) (redirect s)
  · obtain ⟨rest, h⟩ := beginsWith_iff.mp hredirected
    exact .inl ⟨_, by simp [modelPrefixes_eq], rest, h,
      relativeStatement_of_redirected hgiven h⟩
  have hmodels : ∀ front ∈ r.modelPrefixes, ¬ BeginsWith front (redirect s) := by
    simp [modelPrefixes_eq, hgiven, hredirected]
  refine .inr ⟨hmodels, ?_⟩
  by_cases hroot : BeginsWith (importPrefix r.packageName) (redirect s)
  · obtain ⟨rest, h⟩ := beginsWith_iff.mp hroot
    refine .inl ⟨rest, h, ?_⟩
    rw [relativeStatement_of_not_models hmodels, h, dropFront?_append]
  · exact .inr ⟨hroot, relativeStatement_of_unrelated hmodels hroot⟩

/-- A statement that becomes relative loses the letters of its package and gains no `d`. -/
lemma count_relativeStatement_le (r : ImportRewriter) (s : String) :
    (r.relativeStatement s).toList.count 'd' ≤ (redirect s).toList.count 'd' := by
  have hschemas : "from ..schemas.".toList.count 'd' = 0 := by decide
  have hroot : "from ..".toList.count 'd' = 0 := by decide
  rcases relativeStatement_cases r s with
    ⟨front, -, rest, hred, hres⟩ | ⟨-, ⟨rest, hred, hres⟩ | ⟨-, hres⟩⟩
  · rw [hres, hred, String.toList_append, String.toList_append, List.count_append,
      List.count_append]
    omega
  · rw [hres, hred, String.toList_append, String.toList_append, List.count_append,
      List.count_append]
    omega
  · rw [hres]

/-- A statement that is found to import from the model package once it is redirected. -/
def ImportsModels (r : ImportRewriter) (s : String) : Prop :=
  ∃ front ∈ r.modelPrefixes, BeginsWith front (redirect s)

lemma beginsWith_from_schemas (rest : String) :
    BeginsWith "from .." ("from ..schemas." ++ rest) :=
  beginsWith_iff.mpr ⟨"schemas." ++ rest, by rw [← String.append_assoc]; rfl⟩

/-- A redirected statement still names a package, so it is not relative. -/
lemma not_beginsWith_from_redirect {package : String} (hp : Name.isPackageName package.toList)
    (rest : String) :
    ¬ BeginsWith "from .." (redirect (importPrefix (some package) ++ rest)) := by
  obtain ⟨c, more, hcons, hc⟩ := Name.exists_cons_of_isPackageName hp
  obtain ⟨t, ht⟩ := beginsWith_from_redirect hcons hc rest
  rw [BeginsWith, ht]
  intro h
  have hdot := (List.prefix_append_right_inj "from ".toList).mp h
  exact hc (List.cons_prefix_cons.mp hdot).1.symm

/-- A statement from the root package becomes relative exactly when no segment of the package after
the first is `models`, or when it is found to import from the model package. Any other one keeps the
name of a package. -/
theorem toRelativeImport_root_iff {r : ImportRewriter} {package s : String}
    (hp : ∃ raw fallback, Name.packageName raw fallback = package)
    (hr : r.packageName = some package) (hs : BeginsWith (importPrefix (some package)) s) :
    (BeginsWith "from .." (r.toRelativeImport s) ↔
      "models" ∉ (splitAt '.' package).tail ∨ r.ImportsModels s) ∧
    (¬ BeginsWith "from .." (r.toRelativeImport s) → r.toRelativeImport s = redirect s) := by
  obtain ⟨raw, fallback, rfl⟩ := hp
  obtain ⟨rest, rfl⟩ := beginsWith_iff.mp hs
  rw [toRelativeImport_importPrefix, ← holds_importPrefix_iff]
  rcases relativeStatement_cases r _ with
    ⟨front, hfront, rest', hred, hres⟩ | ⟨hmodels, ⟨rest', hred, hres⟩ | ⟨hroot, hres⟩⟩
  · have hrel := beginsWith_from_schemas rest'
    rw [← hres] at hrel
    refine ⟨iff_of_true hrel (.inr ?_), fun h => absurd hrel h⟩
    exact ⟨front, hfront, beginsWith_iff.mpr ⟨rest', hred⟩⟩
  · have hrel := beginsWith_append "from .." rest'
    rw [← hres] at hrel
    refine ⟨iff_of_true hrel (.inl fun hholds => ?_), fun h => absurd hrel h⟩
    rw [hr] at hred
    exact not_beginsWith_redirect hholds rest (beginsWith_iff.mpr ⟨rest', hred⟩)
  · have habs := not_beginsWith_from_redirect (Name.isPackageName_packageName raw fallback) rest
    rw [← hres] at habs
    refine ⟨iff_of_false habs ?_, fun _ => hres⟩
    rintro (hholds | ⟨front, hfront, hbegin⟩)
    · rw [hr] at hroot
      exact hroot (beginsWith_redirect _ rest hholds)
    · exact hmodels front hfront hbegin

/-- A root package of two segments is left out of a statement. -/
theorem toRelativeImport_root_util :
    ((∃ raw fallback, Name.packageName raw fallback = "shop.api") ∧
      (make (some "shop.api") none).packageName = some "shop.api" ∧
      BeginsWith (importPrefix (some "shop.api")) "from shop.api.util import deserialize" ∧
      "models" ∉ (splitAt '.' "shop.api").tail) ∧
    BeginsWith "from .." ((make (some "shop.api") none).toRelativeImport
      "from shop.api.util import deserialize") :=
  ⟨⟨⟨some "shop.api", none, by decide⟩, by decide⟩,
    (toRelativeImport_root_iff ⟨some "shop.api", none, by decide⟩ (packageName_make _ _)
      (by decide)).1.mpr (.inl (by decide))⟩

/-- A root package with a segment `models` inside it stays in the statements that import from it,
under another name. -/
theorem toRelativeImport_root_models :
    Name.packageName (some "shop.models.api") none = "shop.models.api" ∧
    BeginsWith "from shop.models.api." "from shop.models.api.util import deserialize" ∧
    (make (some "shop.models.api") none).toRelativeImport
      "from shop.models.api.util import deserialize" =
        "from shop.schemas.api.util import deserialize" ∧
    ¬ BeginsWith "from .." "from shop.schemas.api.util import deserialize" := by
  decide

/-- A statement that names neither the model package, as given or redirected, nor the root package
stays as it is exactly when it holds no segment `models`. -/
theorem toRelativeImport_eq_self_iff (packageName : Option String) {modelPackage s : String}
    (hne : modelPackage ≠ "") (hroot : ¬ BeginsWith (importPrefix packageName) s)
    (hgiven : ¬ BeginsWith (importPrefix (some modelPackage)) s)
    (hredirected : ¬ BeginsWith (redirect (importPrefix (some modelPackage))) s) :
    (make packageName (some modelPackage)).toRelativeImport s = s ↔ ¬ Holds modelsSegment s := by
  rw [make_some hne]
  constructor
  · intro heq hholds
    rw [toRelativeImport_of_holds _ hholds] at heq
    have hle := count_relativeStatement_le ⟨packageName, some modelPackage⟩ s
    have hlt := (count_redirect s).2 hholds
    rw [heq] at hle
    omega
  · intro hnot
    have hself : redirect s = s := redirect_eq_self hnot
    have hmodels : ∀ front ∈ modelPrefixes ⟨packageName, some modelPackage⟩,
        ¬ BeginsWith front (redirect s) := by
      simp [modelPrefixes_eq, hself, hgiven, hredirected]
    have hroot' : ¬ BeginsWith (importPrefix packageName) (redirect s) := by
      rw [hself]
      exact hroot
    unfold toRelativeImport
    split
    · rfl
    · exact (relativeStatement_of_unrelated hmodels hroot').trans hself

/-- An import of the standard library stays as it is. -/
theorem toRelativeImport_typing :
    ("shop.models" ≠ "" ∧ ¬ BeginsWith (importPrefix (some "shop")) "from typing import Any" ∧
      ¬ BeginsWith (importPrefix (some "shop.models")) "from typing import Any" ∧
      ¬ BeginsWith (redirect (importPrefix (some "shop.models"))) "from typing import Any" ∧
      ¬ Holds modelsSegment "from typing import Any") ∧
    (make (some "shop") (some "shop.models")).toRelativeImport "from typing import Any" =
      "from typing import Any" :=
  ⟨by decide, (toRelativeImport_eq_self_iff (some "shop") (by decide) (by decide) (by decide)
    (by decide)).mpr (by decide)⟩

/-- A module of another project is taken for one of its models when `models` is inside its path. -/
theorem toRelativeImport_foreign_models :
    ("shop.schemas" ≠ "" ∧
      ¬ BeginsWith "from shop." "from django.db.models.fields import CharField" ∧
      ¬ BeginsWith "from shop.schemas." "from django.db.models.fields import CharField" ∧
      ¬ BeginsWith (redirect "from shop.schemas.")
        "from django.db.models.fields import CharField") ∧
    (make (some "shop") (some "shop.schemas")).toRelativeImport
      "from django.db.models.fields import CharField" =
        "from django.db.schemas.fields import CharField" := by
  decide

lemma not_models_of_not_mem {rest : String} (h : '.' ∉ rest.toList) :
    ¬ Holds modelsSegment rest ∧ ¬ BeginsWith "models." rest :=
  ⟨fun hin => h (hin.subset (show '.' ∈ modelsSegment.toList by decide)),
    fun hbegin => h (hbegin.subset (show '.' ∈ "models.".toList by decide))⟩

/-- A statement from the model package lands in `schemas` with the rest as it is, if nothing of the
rest is redirected. -/
lemma relativeStatement_models (packageName : Option String) (modelPackage : String)
    {rest : String} (hrest : ¬ Holds modelsSegment rest) (hbegin : ¬ BeginsWith "models." rest) :
    relativeStatement ⟨packageName, some modelPackage⟩ (importPrefix (some modelPackage) ++ rest) =
      "from ..schemas." ++ rest := by
  have hall : redirect (importPrefix (some modelPackage) ++ rest) =
      redirect (importPrefix (some modelPackage)) ++ rest :=
    redirect_append_of_not_holds ("from " ++ modelPackage) hrest hbegin
  by_cases hholds : Holds modelsSegment (importPrefix (some modelPackage))
  · exact relativeStatement_of_redirected (not_beginsWith_redirect hholds rest) hall
  · exact relativeStatement_of_given (by rw [hall, redirect_eq_self hholds])

/-- A snake case name has no dots but those of the name. -/
lemma dot_not_mem_snakeCase {name : String} (h : '.' ∉ name.toList) :
    '.' ∉ (Name.snakeCase name).toList := by
  rw [Name.snakeCase, String.toList_ofList]
  exact fun hin => h (Name.mem_snakeChars hin (by decide))

/-- Statements from the model package land in `schemas`, however often `models` is a segment of that
package, and a class is imported from the file that the layout gives it. -/
theorem toRelativeImport_models (packageName : Option String) {modelPackage : String}
    (hne : modelPackage ≠ "") :
    (∀ rest, ¬ Holds modelsSegment rest → ¬ BeginsWith "models." rest →
      (make packageName (some modelPackage)).toRelativeImport
        (importPrefix (some modelPackage) ++ rest) = "from ..schemas." ++ rest) ∧
    ∀ name, '.' ∉ name.toList → ∃ stem,
      (make packageName (some modelPackage)).toModelImport name =
        "from ..schemas." ++ stem ++ " import " ++ name ∧
      stem ++ ".py" = Layout.modelFilename name := by
  rw [make_some hne]
  have hmodels : ∀ rest, ¬ Holds modelsSegment rest → ¬ BeginsWith "models." rest →
      toRelativeImport ⟨packageName, some modelPackage⟩
        (importPrefix (some modelPackage) ++ rest) = "from ..schemas." ++ rest := by
    intro rest hrest hbegin
    rw [toRelativeImport_importPrefix]
    exact relativeStatement_models packageName modelPackage hrest hbegin
  refine ⟨hmodels, fun name hname => ⟨Name.snakeCase name, ?_, rfl⟩⟩
  have hdot : '.' ∉ (Name.snakeCase name ++ (" import " ++ name)).toList := by
    simp [dot_not_mem_snakeCase hname, hname]
  obtain ⟨hrest, hbegin⟩ := not_models_of_not_mem hdot
  rw [toModelImport, String.append_assoc, String.append_assoc, hmodels _ hrest hbegin,
    String.append_assoc, String.append_assoc]

/-- A model package with two adjacent segments `models`. -/
theorem toRelativeImport_models_models :
    ("shop.models.models" ≠ "" ∧ ¬ Holds modelsSegment "widget import Widget" ∧
      ¬ BeginsWith "models." "widget import Widget" ∧ '.' ∉ "Widget".toList) ∧
    (make (some "shop") (some "shop.models.models")).toRelativeImport
      (importPrefix (some "shop.models.models") ++ "widget import Widget") =
        "from ..schemas." ++ "widget import Widget" ∧
    ∃ stem, (make (some "shop") (some "shop.models.models")).toModelImport "Widget" =
        "from ..schemas." ++ stem ++ " import " ++ "Widget" ∧
      stem ++ ".py" = Layout.modelFilename "Widget" :=
  ⟨by decide,
    (toRelativeImport_models (some "shop") (by decide)).1 _ (by decide) (by decide),
    (toRelativeImport_models (some "shop") (by decide)).2 _ (by decide)⟩

end StubPlan.ImportRewriter
