import StubPlan.Layout
import StubPlan.Proofs.Name.Package
import StubPlan.Proofs.Path.Join
import StubPlan.Proofs.Text.Front
import StubPlan.Proofs.Text.Replace

/-! The directories of a layout below that of the root package, and the paths of packages. -/
namespace StubPlan

namespace Chars

/-- Replacing one character is a matter of each character alone. -/
lemma replace_singleton (a b : Char) (s : List Char) :
    replace [a] [b] s = s.map fun c => if c = a then b else c := by
  rw [replace_char, List.map_eq_flatMap]
  refine List.flatMap_congr fun c _ => ?_
  split <;> rfl

/-- A text with separators, cut at the last of them. -/
lemma exists_append_last {sep : Char} {s : List Char} (h : sep ∈ s) :
    ∃ a b, s = a ++ sep :: b ∧ sep ∉ b := by
  obtain ⟨b, a, hrev, hb⟩ := List.eq_append_cons_of_mem (List.mem_reverse.mpr h)
  refine ⟨a.reverse, b.reverse, ?_, by simpa using hb⟩
  have := congrArg List.reverse hrev
  simpa using this

end Chars

namespace Name
open Chars

lemma not_isBlankChar_of_isTokenChar {c : Char} (h : isTokenChar c = true) :
    Text.isBlankChar c = false := by
  have hnat : 97 ≤ c.toNat ∧ c.toNat ≤ 122 ∨ 48 ≤ c.toNat ∧ c.toNat ≤ 57 ∨ c.toNat = 95 := by
    simp only [isTokenChar, isSmall, Bool.or_eq_true, Bool.and_eq_true, decide_eq_true_eq] at h
    rcases h with (h | h) | rfl
    · exact .inl h
    · exact .inr (.inl h)
    · exact .inr (.inr rfl)
  simp only [Text.isBlankChar, Bool.or_eq_false_iff, Bool.and_eq_false_iff, decide_eq_false_iff_not,
    beq_eq_false_iff_ne]
  omega

lemma isPackageName_append (a b : List Char) :
    isPackageName (a ++ '.' :: b) = (isPackageName a && isPackageName b) := by
  rw [isPackageName, splitAt_append, List.all_append]
  rfl

/-- Two dotted names joined by a dot are one. -/
lemma isPackageName_dot (a b : String) :
    isPackageName (a ++ "." ++ b).toList = (isPackageName a.toList && isPackageName b.toList) := by
  rw [← isPackageName_append]
  simp

/-- Package names have no other characters than their tokens and dots. -/
lemma eq_dot_or_isTokenChar {s : List Char} (h : isPackageName s = true) {c : Char} (hc : c ∈ s) :
    c = '.' ∨ isTokenChar c = true :=
  (eq_or_mem_splitAt '.' hc).imp_right fun ⟨p, hp, hcp⟩ =>
    isTokenChar_of_isToken (List.all_eq_true.mp h p hp) c hcp

lemma not_isBlankChar_of_isPackageName {s : List Char} (h : isPackageName s = true) :
    ∀ c ∈ s, Text.isBlankChar c = false := by
  intro c hc
  rcases eq_dot_or_isTokenChar h hc with rfl | htoken
  · decide
  · exact not_isBlankChar_of_isTokenChar htoken

lemma trim_of_isPackageName {name : String} (h : isPackageName name.toList) :
    Text.trim name = name := by
  rw [Text.trim, trim_eq_self (not_isBlankChar_of_isPackageName h), String.ofList_toList]

lemma ne_empty_of_isPackageName {name : String} (h : isPackageName name.toList) : name ≠ "" := by
  rintro rfl
  exact absurd h (by decide)

/-- A package name with dots, cut at the last of them. -/
lemma exists_last_token {name : String} (h : isPackageName name.toList) (hdot : '.' ∈ name.toList) :
    ∃ a b : String, name = a ++ "." ++ b ∧ isPackageName a.toList ∧ isPackageName b.toList ∧
      '.' ∉ b.toList := by
  obtain ⟨a, b, heq, hb⟩ := exists_append_last hdot
  rw [heq, isPackageName_append] at h
  obtain ⟨ha, hb'⟩ := Bool.and_eq_true_iff.mp h
  refine ⟨String.ofList a, String.ofList b, ?_, by simpa using ha, by simpa using hb',
    by simpa using hb⟩
  apply String.toList_inj.mp
  simp [heq]

lemma slash_not_mem_of_isPackageName {s : List Char} (h : isPackageName s = true) : '/' ∉ s := by
  intro hc
  have hslash : ¬ ('/' = '.' ∨ isTokenChar '/' = true) := by decide
  exact hslash (eq_dot_or_isTokenChar h hc)

end Name

lemma toList_packagePath (package : String) :
    (packagePath package).toList = package.toList.map fun c => if c = '.' then '/' else c := by
  have hdot : ".".toList = ['.'] := rfl
  have hslash : "/".toList = ['/'] := rfl
  rw [packagePath, Text.replace, String.toList_ofList, hdot, hslash, Chars.replace_singleton]

lemma packagePath_append (a b : String) : packagePath (a ++ b) = packagePath a ++ packagePath b := by
  apply String.toList_inj.mp
  simp [toList_packagePath]

lemma packagePath_of_not_mem {package : String} (h : '.' ∉ package.toList) :
    packagePath package = package := by
  apply String.toList_inj.mp
  rw [toList_packagePath]
  refine (List.map_congr_left fun c hc => ?_).trans (List.map_id _)
  have hne : c ≠ '.' := fun heq => h (heq ▸ hc)
  simp [hne]

/-- The path of a package is not blank. -/
lemma not_isBlank_packagePath {package : String} (h : Name.isPackageName package.toList) :
    Text.isBlank (packagePath package) = false := by
  obtain ⟨c, rest, hcons, hc⟩ := Name.exists_cons_of_isPackageName h
  have hblank := Name.not_isBlankChar_of_isPackageName h c (by simp [hcons])
  refine Text.isBlank_eq_false ?_ hblank
  rw [toList_packagePath, hcons]
  simp [hc]

namespace Layout
open StubPlan.Path

/-- The directories of a layout hang below that of the root package. -/
structure IsRooted (l : Layout) : Prop where
  proper : IsProper l.packageRootDir
  controllers : l.controllersDir = join [some l.packageRootDir, some "controllers"]
  schemas : l.schemasDir = join [some l.packageRootDir, some "schemas"]
  handlers : l.handlersDir = join [some l.packageRootDir,
    some (relativePackageDir l.packageName (some l.handlerPackage))]
  tests : l.testsDir = join [some l.packageRootDir, some l.testsRoot]

lemma isRooted_resolve (packageName : String)
    (outputFolder sourceRoot testsRoot handlerPackage : Option String) :
    (resolve packageName outputFolder sourceRoot testsRoot handlerPackage).IsRooted where
  proper := by
    simp only [resolve]
    split
    · exact fun _ => rfl
    · exact isProper_join _
  controllers := rfl
  schemas := rfl
  handlers := rfl
  tests := rfl

end Layout
end StubPlan
