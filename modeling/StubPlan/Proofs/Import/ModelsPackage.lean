import StubPlan.Proofs.Import.Relative

/-! Statements that import from the package `models` of the root package. What is below it is found
in `schemas`; the package itself is not recognised, because no dot follows its name. -/
namespace StubPlan.ImportRewriter
open Text

/-- The default model package is the package `schemas` of the root package. -/
lemma make_default {given : Option String} (h : given.getD "" = "") (package : String) :
    make (some package) given = ⟨some package, some (package ++ ".schemas")⟩ := by
  rcases given with _ | given
  · rfl
  · obtain rfl : given = "" := h
    rfl

lemma importPrefix_schemas (package : String) :
    importPrefix (some (package ++ ".schemas")) = importPrefix (some package) ++ "schemas." := by
  apply String.toList_inj.mp
  simp [toList_importPrefix]

/-- A package without segments to redirect is the same in the statements that import from it. -/
lemma redirect_importPrefix_append {package rest : String}
    (hp : "models" ∉ (splitAt '.' package).tail) (hrest : ¬ Holds modelsSegment rest)
    (hbegin : ¬ BeginsWith "models." rest) :
    redirect (importPrefix (some package) ++ rest) = importPrefix (some package) ++ rest := by
  have hself : redirect (importPrefix (some package)) = importPrefix (some package) :=
    redirect_eq_self (mt (holds_importPrefix_iff package).mp hp)
  calc redirect (importPrefix (some package) ++ rest)
      = redirect (importPrefix (some package)) ++ rest :=
        redirect_append_of_not_holds ("from " ++ package) hrest hbegin
    _ = importPrefix (some package) ++ rest := by rw [hself]

/-- Below the package `models`, its own segment is redirected and the rest stays. -/
lemma redirect_below_models {package rest : String}
    (hp : "models" ∉ (splitAt '.' package).tail) (hrest : ¬ Holds modelsSegment rest) :
    redirect (importPrefix (some package) ++ "models." ++ rest) =
      importPrefix (some (package ++ ".schemas")) ++ rest := by
  have hin : ¬ modelsSegment.toList <:+: ("from " ++ package).toList ++ ['.'] := by
    have := mt (holds_importPrefix_iff package).mp hp
    rw [Holds, toList_importPrefix] at this
    simpa using this
  have hfront : ¬ modelsSegment.toList <:+: ("from " ++ package).toList := fun h =>
    hin (h.trans (List.prefix_append _ _).isInfix)
  have hsep : Chars.Separate modelsSegment.toList ("from " ++ package).toList
      (modelsSegment.toList ++ rest.toList) := by
    rw [toList_modelsSegment] at hin ⊢
    exact Chars.separate_of_not_infix dot_not_mem_modelsWord hin
  have hall : (importPrefix (some package) ++ "models." ++ rest).toList =
      ("from " ++ package).toList ++ (modelsSegment.toList ++ rest.toList) := by
    simp [toList_importPrefix, modelsSegment]
  apply String.toList_inj.mp
  rw [toList_redirect, hall, Chars.replace_append modelsSegment_ne_nil hsep,
    Chars.replace_eq_self hfront, Chars.replace_append_self modelsSegment_ne_nil,
    Chars.replace_eq_self hrest]
  simp [toList_importPrefix, schemasSegment]

lemma relativeStatement_below_models {package rest : String}
    (hp : "models" ∉ (splitAt '.' package).tail) (hrest : ¬ Holds modelsSegment rest) :
    relativeStatement ⟨some package, some (package ++ ".schemas")⟩
      (importPrefix (some package) ++ "models." ++ rest) = "from ..schemas." ++ rest := by
  apply relativeStatement_of_given
  exact redirect_below_models hp hrest

/-- Segments of which none is `models` hold nothing to redirect. -/
lemma not_holds_join {segments : List String} (hdots : ∀ s ∈ segments, '.' ∉ s.toList)
    (hmodels : "models" ∉ segments) : ¬ Holds modelsSegment (join "." segments) := by
  rcases eq_or_ne segments [] with rfl | hne
  · decide
  · have hpieces := toList_splitAt_join hne hdots
    intro h
    have hword := (Chars.sep_append_sep_infix_iff dot_not_mem_modelsWord).mp
      (h.trans (List.prefix_append (join "." segments).toList ['.']).isInfix)
    rw [hpieces] at hword
    obtain ⟨segment, hin, heq⟩ := List.mem_map.mp (List.mem_of_mem_tail hword)
    exact hmodels (String.toList_inj.mp heq ▸ hin)

/-- Nothing to redirect runs across the word `import`. -/
lemma not_holds_import {front names : String} (hfront : ¬ Holds modelsSegment front)
    (hnames : ¬ Holds modelsSegment names) :
    ¬ Holds modelsSegment (front ++ " import " ++ names) := by
  intro h
  have hspace : ' ' ∉ modelsSegment.toList := by decide
  have hall : (front ++ " import " ++ names).toList =
      front.toList ++ ' ' :: ("import".toList ++ ' ' :: names.toList) := by simp
  rw [Holds, hall] at h
  rcases Chars.infix_or_infix_of_not_mem hspace h with h | h
  · exact hfront h
  · rcases Chars.infix_or_infix_of_not_mem hspace h with h | h
    · exact absurd h (by decide)
    · exact hnames h

lemma not_beginsWith_models_import (names : String) :
    ¬ BeginsWith "models." ("models" ++ " import " ++ names) := by
  intro h
  have hdot : "models.".toList = "models".toList ++ ['.'] := rfl
  have hspace : " import ".toList = ' ' :: "import ".toList := rfl
  rw [BeginsWith, String.append_assoc, String.toList_append, hdot, List.prefix_append_right_inj,
    String.toList_append, hspace] at h
  exact absurd (List.cons_prefix_cons.mp h).1 (by decide)

/-- The package `models` itself is taken for any other package of the root. -/
lemma relativeStatement_models_import {package names : String}
    (hp : "models" ∉ (splitAt '.' package).tail) (hnames : ¬ Holds modelsSegment names) :
    relativeStatement ⟨some package, some (package ++ ".schemas")⟩
      (importPrefix (some package) ++ ("models" ++ " import " ++ names)) =
        "from .." ++ ("models" ++ " import " ++ names) := by
  have hholds : ¬ Holds modelsSegment ("models" ++ " import " ++ names) :=
    not_holds_import (show ¬ Holds modelsSegment "models" by decide) hnames
  have hred := redirect_importPrefix_append hp hholds (not_beginsWith_models_import names)
  have hschemas : redirect (importPrefix (some (package ++ ".schemas"))) =
      importPrefix (some (package ++ ".schemas")) := by
    rw [importPrefix_schemas]
    exact redirect_importPrefix_append hp (by decide) (by decide)
  have hnot : ¬ BeginsWith (importPrefix (some (package ++ ".schemas")))
      (importPrefix (some package) ++ ("models" ++ " import " ++ names)) := by
    have hs : "schemas.".toList = 's' :: "chemas.".toList := rfl
    have hm : "models".toList = 'm' :: "odels".toList := rfl
    rw [importPrefix_schemas, BeginsWith, String.toList_append, String.toList_append,
      List.prefix_append_right_inj, String.append_assoc, String.toList_append, hs, hm]
    exact fun h => absurd (List.cons_prefix_cons.mp h).1 (by decide)
  rw [relativeStatement_of_not_models, hred, dropFront?_append]
  intro front hfront
  rw [modelPrefixes_eq, hschemas] at hfront
  obtain rfl : front = importPrefix (some (package ++ ".schemas")) := by simpa using hfront
  rw [hred]
  exact hnot

/-- What is imported from the package `models` of a root package, or from below it, comes from
`schemas` exactly when more of the path follows `models`. Else the package `models` stays, which the
project does not have. -/
theorem toRelativeImport_models_iff {package path names : String} {given : Option String}
    {more : List String} (hgiven : given.getD "" = "")
    (hp : "models" ∉ (splitAt '.' package).tail)
    (hpath : splitAt '.' path = "models" :: more) (hmore : "models" ∉ more)
    (hnames : ¬ Holds modelsSegment names) :
    ((make (some package) given).toRelativeImport
        (importPrefix (some package) ++ path ++ " import " ++ names) =
      "from .." ++ join "." ("schemas" :: more) ++ " import " ++ names ↔ path ≠ "models") ∧
    (path = "models" → (make (some package) given).toRelativeImport
        (importPrefix (some package) ++ path ++ " import " ++ names) =
      "from ..models import " ++ names) := by
  have hjoin : join "." ("models" :: more) = path := by rw [← hpath, join_splitAt]
  rw [make_default hgiven, String.append_assoc, String.append_assoc, toRelativeImport_importPrefix]
  cases more with
  | nil =>
    have hmodels : path = "models" := hjoin.symm.trans (by decide)
    have hne : "from .." ++ ("models" ++ " import " ++ names) ≠
        "from .." ++ join "." ["schemas"] ++ " import " ++ names := by
      intro h
      have hchars := congrArg String.toList h
      simp [join] at hchars
    have hres := relativeStatement_models_import hp hnames
    rw [String.append_assoc] at hres hne
    rw [hmodels, hres]
    refine ⟨iff_of_false hne (by simp), fun _ => ?_⟩
    rw [← String.append_assoc]
    rfl
  | cons next more =>
    have hdots : ∀ s ∈ next :: more, '.' ∉ s.toList := fun s hs =>
      sep_not_mem_of_mem_splitAt (hpath ▸ List.mem_cons_of_mem "models" hs)
    have hholds : ¬ Holds modelsSegment (join "." (next :: more) ++ " import " ++ names) :=
      not_holds_import (not_holds_join hdots hmore) hnames
    have hne : path ≠ "models" := by
      rintro rfl
      have hlone : splitAt '.' "models" = ["models"] := by decide
      exact absurd (hlone.symm.trans hpath) (by simp)
    have hall : importPrefix (some package) ++ (path ++ (" import " ++ names)) =
        importPrefix (some package) ++ "models." ++
          (join "." (next :: more) ++ " import " ++ names) := by
      rw [← hjoin, join_cons_cons]
      simp [String.append_assoc]
    refine ⟨iff_of_true ?_ hne, fun h => absurd h hne⟩
    have hfront : "from ..schemas." = "from .." ++ "schemas" ++ "." := rfl
    rw [hall, relativeStatement_below_models hp hholds, join_cons_cons, hfront]
    simp only [String.append_assoc]

/-- A model below the package `models` is found in `schemas`. -/
theorem toRelativeImport_models_widget :
    ((none : Option String).getD "" = "" ∧ "models" ∉ (splitAt '.' "shop").tail ∧
      splitAt '.' "models.widget" = "models" :: ["widget"] ∧ "models" ∉ ["widget"] ∧
      ¬ Holds modelsSegment "Widget") ∧
    (make (some "shop") none).toRelativeImport
      (importPrefix (some "shop") ++ "models.widget" ++ " import " ++ "Widget") =
        "from .." ++ join "." ["schemas", "widget"] ++ " import " ++ "Widget" :=
  ⟨by decide, (toRelativeImport_models_iff rfl (by decide) (by decide) (by decide)
    (by decide)).1.mpr (by decide)⟩

/-- A class imported from the package `models` itself is looked for in a package that is not
there. -/
theorem toRelativeImport_models_itself :
    ("models" ∉ splitAt '.' "shop" ∧ ¬ Holds modelsSegment "Widget") ∧
    (make (some "shop") none).toRelativeImport "from shop.models import Widget" =
      "from ..models import Widget" ∧
    "from ..models import Widget" ≠ "from ..schemas import Widget" := by
  decide

end StubPlan.ImportRewriter
