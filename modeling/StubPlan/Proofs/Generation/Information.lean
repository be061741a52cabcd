import StubPlan.Generation.Context
import StubPlan.Proofs.Layout.Directory
import StubPlan.Proofs.Options.Valid
import StubPlan.Proofs.Text.Resolved
import StubPlan.Proofs.Unicode.LowerCase

/-! What is told about a generated project. Every value falls back on a default that is never blank,
except the name of the application: it falls back on the spoken form of the package's name, which is
blank for a package that is named by underscores alone. -/
namespace StubPlan

namespace Name
open Chars Text

lemma isResolved_of_isPackageName {name : String} (h : isPackageName name.toList) :
    IsResolved name := by
  refine isResolved_of_forall ?_ (not_isBlankChar_of_isPackageName h)
  rintro rfl
  exact absurd h (by decide)

/-- The packages in a package are named after it and resolved as it is. -/
lemma isResolved_subpackage {package token : String} (h : isPackageName package.toList)
    (htoken : isPackageName token.toList) : IsResolved (package ++ ("." ++ token)) := by
  rw [← String.append_assoc]
  exact isResolved_of_isPackageName (by rw [isPackageName_dot, h, htoken]; rfl)

/-- The capital of a character of a token is not blank; an underscore has been spoken before. -/
lemma isBlank_upperChar_of_isTokenChar {c : Char} (h : isTokenChar c) (hmark : c ≠ '_') :
    Chars.isBlank (Unicode.upperChar c) = false := by
  have hmem : c.toNat ∈ List.range' 97 26 ++ List.range' 48 10 := by
    simp only [isTokenChar, isSmall, Bool.or_eq_true, Bool.and_eq_true, decide_eq_true_eq] at h
    rw [List.mem_append, List.mem_range'_1, List.mem_range'_1]
    rcases h with (⟨hlow, hhigh⟩ | ⟨hlow, hhigh⟩) | heq
    · exact .inl ⟨hlow, Nat.lt_succ_of_le hhigh⟩
    · exact .inr ⟨hlow, Nat.lt_succ_of_le hhigh⟩
    · exact absurd heq hmark
  exact Unicode.of_forall_ofNat (P := fun c => Chars.isBlank (Unicode.upperChar c) = false)
    (by decide +kernel) hmem

/-- An underscore is spoken as a space. -/
def spokenChar (c : Char) : Char := if c = '_' then ' ' else c

lemma isBlankChar_spokenChar {c : Char} (h : isBlankChar c = false) :
    isBlankChar (spokenChar c) = decide (c = '_') := by
  unfold spokenChar
  split
  · next hc => rw [decide_eq_true hc]; rfl
  · next hc => rw [h, decide_eq_false hc]

lemma all_isBlankChar_spoken {s : List Char} (h : ∀ c ∈ s, isBlankChar c = false) :
    (s.map spokenChar).all isBlankChar = s.all (· = '_') := by
  induction s with
  | nil => rfl
  | cons c rest ih =>
    rw [List.map_cons, List.all_cons, List.all_cons, isBlankChar_spokenChar (h c List.mem_cons_self),
      ih fun x hx => h x (List.mem_cons_of_mem c hx)]

/-- Spoken, the name of a package is blank when it has underscores only. -/
lemma isBlank_spokenName {package : String} (h : isPackageName package.toList) :
    isBlank (Context.spokenName package) = package.toList.all (· = '_') := by
  obtain ⟨c, rest, hcons, hdot⟩ := exists_cons_of_isPackageName h
  have hblank := not_isBlankChar_of_isPackageName h
  have hspoken : (Text.replace "_" " " package).toList = spokenChar c :: rest.map spokenChar := by
    have hmark : "_".toList = ['_'] := rfl
    have hspace : " ".toList = [' '] := rfl
    rw [Text.replace, String.toList_ofList, hmark, hspace, replace_singleton, hcons]
    rfl
  have hname : isBlank (Context.spokenName package) =
      (Chars.isBlank (Unicode.upperChar (spokenChar c)) && (rest.map spokenChar).all isBlankChar) := by
    rw [Context.spokenName, capitalize, hspoken, Text.isBlank, String.toList_ofList,
      Chars.isBlank, List.all_append]
    rfl
  rw [hcons] at hblank ⊢
  rw [hname, all_isBlankChar_spoken fun x hx => hblank x (List.mem_cons_of_mem c hx), List.all_cons]
  refine congrArg (· && rest.all (· = '_')) ?_
  by_cases hc : c = '_'
  · subst hc
    decide
  · have htoken : isTokenChar c := (eq_dot_or_isTokenChar h (by simp [hcons])).resolve_left hdot
    rw [spokenChar, if_neg hc, isBlank_upperChar_of_isTokenChar htoken hc, decide_eq_false hc]

end Name

namespace Options

def textAt (o : Options) (f : OptionField) : Option String :=
  match o.value f with
  | .text s => some s
  | _ => none

variable {o : Options} {f : OptionField}

lemma IsValid.text?_eq (h : o.IsValid) (hf : f.kind ≠ .flag) : o.text? f = .ok (o.textAt f) := by
  rcases OptionKind.null_or_text_of_admits (h f) hf with hv | ⟨s, hv⟩
  · rw [text?, textAt, hv]
  · rw [text?, textAt, hv]

lemma IsValid.outputFolder_eq (h : o.IsValid) : ∃ folder, o.outputFolder = .ok folder := by
  obtain ⟨s, hv⟩ := OptionKind.exists_text_of_admits (h .outputFolder)
  exact ⟨s, by rw [outputFolder, hv]⟩

lemma IsValid.packageText_eq (h : o.IsValid) : ∃ raw, o.packageText = .ok raw := by
  unfold packageText
  split
  · exact ⟨none, rfl⟩
  · exact ⟨_, h.text?_eq (by decide)⟩

end Options

namespace Context

/-- How the values that are told of a project come about: each is the first that is given, in the
options before the description, or else a default. -/
structure Tells (o : Options) (d : ApiDescription) (c : Context) : Prop where
  isPackageName : Name.isPackageName c.packageName.toList
  packageVersion : c.packageVersion =
    firstOr defaultVersion [o.textAt .packageVersion, d.info.bind (·.version)]
  apiPackage : c.apiPackage = firstOr (c.packageName ++ ".controllers") [o.textAt .apiPackage]
  modelPackage : c.modelPackage = firstOr (c.packageName ++ ".schemas") [o.textAt .modelPackage]
  handlerPackage : c.handlerPackage =
    firstOr (c.packageName ++ ".handlers") [o.textAt .handlerPackage]
  appName : c.appName = Text.firstPresent?
    [o.textAt .appName, d.info.bind (·.title), some (spokenName c.packageName)]
  appDescription : c.appDescription =
    firstOr (defaultDescription c.appName) [o.textAt .appDescription, d.info.bind (·.description)]
  infoEmail : c.infoEmail =
    firstOr defaultEmail [o.textAt .infoEmail, (d.info.bind (·.contact)).bind (·.email)]
  packageUrl : c.packageUrl = firstOr defaultUrl
    [o.textAt .packageUrl, (d.info.bind (·.contact)).bind (·.url), d.info.bind (·.termsOfService)]

/-- Valid options and a description always give the values of a run. -/
lemma exists_tells {o : Options} (h : o.IsValid) (d : ApiDescription) :
    ∃ c, resolve o d = .ok c ∧ Tells o d c := by
  obtain ⟨folder, hfolder⟩ := h.outputFolder_eq
  obtain ⟨raw, hraw⟩ := h.packageText_eq
  have htext (f : OptionField) (hf : f.kind ≠ .flag) := h.text?_eq hf
  rw [resolve, hfolder, hraw, htext .apiPackage (by decide), htext .modelPackage (by decide),
    htext .handlerPackage (by decide), htext .contextPath (by decide),
    htext .pythonSrcRoot (by decide), htext .testsRoot (by decide),
    htext .packageVersion (by decide), htext .appName (by decide),
    htext .appDescription (by decide), htext .infoEmail (by decide), htext .packageUrl (by decide)]
  have hpackage := Name.isPackageName_packageName raw (some (Path.lastSegment folder))
  refine ⟨_, rfl, ?_⟩
  generalize Name.packageName raw (some (Path.lastSegment folder)) = package at hpackage ⊢
  exact
    { isPackageName := hpackage
      packageVersion := rfl
      apiPackage := rfl
      modelPackage := rfl
      handlerPackage := rfl
      appName := rfl
      appDescription := rfl
      infoEmail := rfl
      packageUrl := rfl }

lemma isResolved_firstOr {default : String} (h : Text.IsResolved default)
    (values : List (Option String)) : Text.IsResolved (firstOr default values) := by
  unfold firstOr
  rcases hs : Text.firstPresent? values with _ | s
  · exact h
  · exact Text.isResolved_of_firstPresent? hs

variable {o : Options} {d : ApiDescription} {c : Context}

/-- The text that introduces an application is resolved even when the application has no name. -/
lemma Tells.isResolved_defaultDescription (h : Tells o d c) :
    Text.IsResolved (defaultDescription c.appName) := by
  rw [h.appName]
  rcases hname : Text.firstPresent? _ with _ | name
  · decide
  · exact (Text.isResolved_of_firstPresent? hname).append (by decide) (by decide)

/-- What is told of a project besides the name of its application. -/
def information (c : Context) : List String :=
  [c.packageName, c.packageVersion, c.apiPackage, c.modelPackage, c.handlerPackage,
    c.appDescription, c.infoEmail, c.packageUrl]

lemma Tells.isResolved_information (h : Tells o d c) :
    ∀ s ∈ c.information, Text.IsResolved s := by
  have hsub (token : String) (htoken : Name.isPackageName token.toList) :
      Text.IsResolved (c.packageName ++ ("." ++ token)) :=
    Name.isResolved_subpackage h.isPackageName htoken
  simp only [information, List.forall_mem_cons]
  refine ⟨Name.isResolved_of_isPackageName h.isPackageName, ?_, ?_, ?_, ?_, ?_, ?_, ?_, by simp⟩
  · rw [h.packageVersion]
    exact isResolved_firstOr (by decide) _
  · rw [h.apiPackage]
    exact isResolved_firstOr (hsub "controllers" (by decide)) _
  · rw [h.modelPackage]
    exact isResolved_firstOr (hsub "schemas" (by decide)) _
  · rw [h.handlerPackage]
    exact isResolved_firstOr (hsub "handlers" (by decide)) _
  · rw [h.appDescription]
    exact isResolved_firstOr h.isResolved_defaultDescription _
  · rw [h.infoEmail]
    exact isResolved_firstOr (by decide) _
  · rw [h.packageUrl]
    exact isResolved_firstOr (by decide) _

/-- Whether anything names the application of a package: an option, the description, or a character
of the package's name that is not an underscore. -/
def NamesApp (o : Options) (d : ApiDescription) (package : String) : Prop :=
  Text.present? (o.textAt .appName) ≠ none ∨ Text.present? (d.info.bind (·.title)) ≠ none ∨
    ∃ c ∈ package.toList, c ≠ '_'

lemma Tells.exists_appName_iff (h : Tells o d c) :
    (∃ name, c.appName = some name ∧ Text.IsResolved name) ↔ NamesApp o d c.packageName := by
  have hspoken : Text.present? (some (spokenName c.packageName)) ≠ none ↔
      ∃ x ∈ c.packageName.toList, x ≠ '_' := by
    rw [Ne, Text.present?_eq_none_iff, Name.isBlank_spokenName h.isPackageName]
    simp
  rw [h.appName, Text.exists_firstPresent?_iff, NamesApp, ← hspoken]
  simp

/-- All that is told of a project with valid options is there, says something and has no blanks at its
ends, except that the name of its application is there only when anything names it. -/
theorem resolve_isResolved_iff {o : Options} (h : o.IsValid) (d : ApiDescription) :
    ∃ c, resolve o d = .ok c ∧ (∀ s ∈ c.information, Text.IsResolved s) ∧
      ((∃ name, c.appName = some name ∧ Text.IsResolved name) ↔ NamesApp o d c.packageName) := by
  obtain ⟨c, hc, htells⟩ := exists_tells h d
  exact ⟨c, hc, htells.isResolved_information, htells.exists_appName_iff⟩

/-- A title in the description names the application of the package `_`. -/
theorem resolve_isResolved_pets :
    let o := Options.unset.set .packageName (.text "_")
    let d : ApiDescription := { ApiDescription.empty with
      info := some ⟨some " Pets ", none, none, none, none⟩ }
    o.IsValid ∧ ∃ c, resolve o d = .ok c ∧ (∀ s ∈ c.information, Text.IsResolved s) ∧
      ∃ name, c.appName = some name ∧ Text.IsResolved name := by
  intro o d
  have hvalid : o.IsValid := Options.isValid_unset.set rfl
  obtain ⟨c, hc, hinformation, hname⟩ := resolve_isResolved_iff hvalid d
  exact ⟨hvalid, c, hc, hinformation, hname.mpr (.inr (.inl (by decide)))⟩

/-- Nothing names the application of the package `_` on its own. -/
theorem resolve_not_isResolved_underscore :
    let o := Options.unset.set .packageName (.text "_")
    o.IsValid ∧ (resolve o .empty).map (fun c => (c.packageName, c.appName, c.appDescription)) =
      .ok ("_", none, "None server stub generated by OpenAPI Generator.") := by
  exact ⟨Options.isValid_unset.set rfl, by decide⟩

end Context
end StubPlan
