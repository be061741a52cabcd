import StubPlan.Import
import StubPlan.Proofs.Text.Front
import StubPlan.Proofs.Text.Replace
import StubPlan.Proofs.Text.Split

/-! How a statement with `models` redirected to `schemas` begins. The redirection changes a package
exactly when some segment of it after the first is `models`; what follows the package is redirected
apart from it unless it begins with that segment itself. -/
namespace StubPlan.ImportRewriter
open Text

/-- A text with its segments `models` redirected to `schemas`. -/
def redirect (s : String) : String := Text.replace modelsSegment schemasSegment s

/-- The characters of the segment that is redirected. -/
def modelsWord : List Char := "models".toList

/-- The characters of the segment that takes its place. -/
def schemasWord : List Char := "schemas".toList

lemma toList_modelsSegment : modelsSegment.toList = '.' :: (modelsWord ++ ['.']) := rfl

lemma toList_schemasSegment : schemasSegment.toList = '.' :: (schemasWord ++ ['.']) := rfl

lemma dot_not_mem_modelsWord : '.' ∉ modelsWord := by decide

lemma modelsSegment_ne_nil : modelsSegment.toList ≠ [] := by simp [toList_modelsSegment]

lemma toList_redirect (s : String) :
    (redirect s).toList = Chars.replace modelsSegment.toList schemasSegment.toList s.toList := by
  simp [redirect, Text.replace]

/-- Segment and replacement differ in the first letter after the dot. -/
lemma modelsSegment_append_ne (x y : List Char) :
    modelsSegment.toList ++ x ≠ schemasSegment.toList ++ y := by
  intro h
  have hsecond := (List.cons.inj (List.cons.inj h).2).1
  exact absurd hsecond (by decide)

lemma redirect_eq_self {s : String} (h : ¬ Holds modelsSegment s) : redirect s = s := by
  apply String.toList_inj.mp
  rw [toList_redirect, Chars.replace_eq_self h]

/-- After a dot, text in which nothing is redirected stays as it is. -/
lemma redirect_append_of_not_holds (front : String) {rest : String}
    (hrest : ¬ Holds modelsSegment rest) (hbegin : ¬ BeginsWith "models." rest) :
    redirect (front ++ "." ++ rest) = redirect (front ++ ".") ++ rest := by
  have hdot : (front ++ ".").toList = front.toList ++ ['.'] := by simp
  have hsep : Chars.Separate modelsSegment.toList (front ++ ".").toList rest.toList := by
    rw [hdot, toList_modelsSegment]
    exact Chars.separate_of_not_prefix dot_not_mem_modelsWord hbegin
  apply String.toList_inj.mp
  calc (redirect (front ++ "." ++ rest)).toList
      = Chars.replace modelsSegment.toList schemasSegment.toList
          ((front ++ ".").toList ++ rest.toList) := by
        rw [toList_redirect, String.toList_append]
    _ = (redirect (front ++ ".")).toList ++ rest.toList := by
        rw [Chars.replace_append modelsSegment_ne_nil hsep, Chars.replace_eq_self hrest,
          toList_redirect]
    _ = (redirect (front ++ ".") ++ rest).toList := String.toList_append.symm

/-- A package in which nothing is redirected stays at the beginning of a statement. -/
lemma beginsWith_redirect (front rest : String) (h : ¬ Holds modelsSegment (front ++ ".")) :
    BeginsWith (front ++ ".") (redirect (front ++ "." ++ rest)) := by
  have hin : ¬ modelsSegment.toList <:+: front.toList ++ ['.'] := by simpa [Holds] using h
  have hsep : Chars.Separate modelsSegment.toList front.toList ('.' :: rest.toList) := by
    rw [toList_modelsSegment] at hin ⊢
    exact Chars.separate_of_not_infix dot_not_mem_modelsWord hin
  have hfront : ¬ modelsSegment.toList <:+: front.toList := fun hf =>
    hin (hf.trans (List.prefix_append _ _).isInfix)
  obtain ⟨r, hr⟩ := Chars.replace_sep toList_modelsSegment toList_schemasSegment rest.toList
  have hall : (front ++ "." ++ rest).toList = front.toList ++ '.' :: rest.toList := by simp
  rw [BeginsWith, toList_redirect, hall, Chars.replace_append modelsSegment_ne_nil hsep,
    Chars.replace_eq_self hfront, hr]
  simp

/-- A package in which something is redirected does not stay. -/
lemma not_beginsWith_redirect {front : String} (h : Holds modelsSegment front) (rest : String) :
    ¬ BeginsWith front (redirect (front ++ rest)) := by
  rw [BeginsWith, toList_redirect, String.toList_append]
  exact Chars.not_prefix_replace modelsSegment_ne_nil modelsSegment_append_ne h

/-- Only `models` has the letter `d`, so each redirection leaves one less. -/
lemma count_redirect (s : String) :
    (redirect s).toList.count 'd' ≤ s.toList.count 'd' ∧
      (Holds modelsSegment s → (redirect s).toList.count 'd' < s.toList.count 'd') := by
  rw [toList_redirect]
  exact Chars.countP_replace modelsSegment_ne_nil (by decide) s.toList

lemma toList_importPrefix (package : String) :
    (importPrefix (some package)).toList = "from ".toList ++ (package.toList ++ ['.']) := by
  simp [importPrefix, importedName]

/-- The redirection changes a package with a segment `models` after its first one. -/
lemma holds_importPrefix_iff (package : String) :
    Holds modelsSegment (importPrefix (some package)) ↔
      "models" ∈ (Text.splitAt '.' package).tail := by
  rw [Holds, toList_importPrefix, toList_modelsSegment,
    Chars.infix_append_of_not_mem (by decide),
    Chars.sep_append_sep_infix_iff dot_not_mem_modelsWord, Text.splitAt, ← List.map_tail,
    List.mem_map]
  constructor
  · exact fun h => ⟨modelsWord, h, rfl⟩
  · rintro ⟨piece, hp, h⟩
    have hword : piece = modelsWord := String.toList_ofList.symm.trans (congrArg String.toList h)
    rwa [← hword]

/-- A redirected statement names a package as before, up to its first character. -/
lemma beginsWith_from_redirect {package : String} {c : Char} {more : List Char}
    (hp : package.toList = c :: more) (hc : c ≠ '.') (rest : String) :
    ∃ r, (redirect (importPrefix (some package) ++ rest)).toList = "from ".toList ++ c :: r := by
  have hno : '.' ∉ "from ".toList ++ [c] := by
    rw [List.mem_append, not_or, List.mem_singleton]
    exact ⟨by decide, hc.symm⟩
  have hall : (importPrefix (some package) ++ rest).toList =
      "from ".toList ++ [c] ++ (more ++ '.' :: rest.toList) := by
    rw [String.toList_append, toList_importPrefix, hp]
    simp
  refine ⟨Chars.replace modelsSegment.toList schemasSegment.toList (more ++ '.' :: rest.toList),
    ?_⟩
  rw [toList_redirect, hall, toList_modelsSegment, Chars.replace_append_of_not_mem hno,
    List.append_assoc, List.singleton_append]

end StubPlan.ImportRewriter
