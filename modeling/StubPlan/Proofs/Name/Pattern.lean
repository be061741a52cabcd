import Mathlib.Computability.RegularExpressions
import StubPlan.Proofs.Name.Settled

/-! The pattern of package names. Whatever a package is named after, its name fits the pattern and has
one token for each segment that says something; and the texts that fit it are those that name
themselves. -/
namespace StubPlan.Name
open Chars RegularExpression

section Pattern

/-- The characters from one to another. -/
def charRange (first last : Char) : List Char :=
  (List.range' first.toNat (last.toNat + 1 - first.toNat)).map Char.ofNat

def oneOf (chars : List Char) : RegularExpression Char := (chars.map char).sum

/-- The characters with which a token begins. -/
def startChars : List Char := '_' :: charRange 'a' 'z'

/-- A small letter or an underscore, then any number of small letters, digits and underscores. -/
def tokenPattern : RegularExpression Char :=
  oneOf startChars * (oneOf (startChars ++ charRange '0' '9')).star

/-- Tokens with single dots between them. -/
def packagePattern : RegularExpression Char := tokenPattern * (char '.' * tokenPattern).star

variable {chars s t : List Char}

/-- Below the surrogates, a range of characters holds what lies between its ends. -/
lemma mem_charRange {first last c : Char} (hlast : last.toNat < 0xD800) :
    c ∈ charRange first last ↔ first ≤ c ∧ c ≤ last := by
  rw [charRange, List.mem_map]
  constructor
  · rintro ⟨n, hn, rfl⟩
    rw [List.mem_range'_1] at hn
    have hnat : (Char.ofNat n).toNat = n := Unicode.toNat_ofNat_of_isValidChar (.inl (by omega))
    change first.toNat ≤ (Char.ofNat n).toNat ∧ (Char.ofNat n).toNat ≤ last.toNat
    omega
  · rintro ⟨hfirst, hle⟩
    have hle : c.toNat ≤ last.toNat := hle
    exact ⟨c.toNat, List.mem_range'_1.mpr ⟨hfirst, by omega⟩, Char.ofNat_toNat c⟩

lemma mem_startChars {c : Char} : c ∈ startChars ↔ (isSmall c || c = '_') := by
  rw [startChars, List.mem_cons, mem_charRange (by decide)]
  simp [isSmall, or_comm]

lemma mem_startChars_append {c : Char} :
    c ∈ startChars ++ charRange '0' '9' ↔ isTokenChar c := by
  rw [List.mem_append, mem_startChars, mem_charRange (by decide)]
  simp [isTokenChar, or_right_comm]

lemma mem_matches_oneOf : s ∈ (oneOf chars).matches' ↔ ∃ c ∈ chars, s = [c] := by
  induction chars with
  | nil => simp [oneOf]
  | cons c rest ih =>
    have hcons : oneOf (c :: rest) = char c + oneOf rest := rfl
    rw [hcons, matches'_add, Language.mem_add, ih, matches'_char]
    simp only [List.mem_cons, exists_eq_or_imp]
    rfl

/-- Any number of some characters. -/
lemma mem_matches_star_oneOf : s ∈ (oneOf chars).star.matches' ↔ ∀ c ∈ s, c ∈ chars := by
  rw [matches'_star, Language.mem_kstar]
  constructor
  · rintro ⟨pieces, rfl, hpieces⟩ c hc
    obtain ⟨piece, hpiece, hmem⟩ := List.mem_flatten.mp hc
    obtain ⟨d, hd, rfl⟩ := mem_matches_oneOf.mp (hpieces piece hpiece)
    rwa [List.mem_singleton.mp hmem]
  · intro h
    refine ⟨s.map ([·]), (List.flatMap_singleton' s).symm, fun piece hpiece => ?_⟩
    obtain ⟨c, hc, rfl⟩ := List.mem_map.mp hpiece
    exact mem_matches_oneOf.mpr ⟨c, h c hc, rfl⟩

lemma mem_matches_tokenPattern : t ∈ tokenPattern.matches' ↔ isToken t := by
  rw [tokenPattern, matches'_mul, Language.mem_mul]
  constructor
  · rintro ⟨start, hstart, rest, hrest, rfl⟩
    obtain ⟨c, hc, rfl⟩ := mem_matches_oneOf.mp hstart
    have hrest := mem_matches_star_oneOf.mp hrest
    refine Bool.and_eq_true_iff.mpr ⟨mem_startChars.mp hc, List.all_eq_true.mpr fun x hx => ?_⟩
    exact mem_startChars_append.mp (hrest x hx)
  · intro h
    cases t with
    | nil => exact absurd h Bool.false_ne_true
    | cons c rest =>
      obtain ⟨hc, hrest⟩ := Bool.and_eq_true_iff.mp h
      refine ⟨[c], mem_matches_oneOf.mpr ⟨c, mem_startChars.mpr hc, rfl⟩, rest, ?_, rfl⟩
      exact mem_matches_star_oneOf.mpr fun x hx =>
        mem_startChars_append.mpr (List.all_eq_true.mp hrest x hx)

lemma mem_matches_dotted :
    s ∈ (char '.' * tokenPattern).matches' ↔ ∃ t, isToken t ∧ s = '.' :: t := by
  rw [matches'_mul, matches'_char, Language.mem_mul]
  constructor
  · rintro ⟨dot, rfl, t, ht, rfl⟩
    exact ⟨t, mem_matches_tokenPattern.mp ht, rfl⟩
  · rintro ⟨t, ht, rfl⟩
    exact ⟨['.'], rfl, t, mem_matches_tokenPattern.mpr ht, rfl⟩

lemma isPackageName_append_dot (h : isToken t) (rest : List Char) :
    isPackageName (t ++ '.' :: rest) = isPackageName rest := by
  rw [isPackageName, splitAt_append_sep (dot_not_mem_of_isToken h), List.all_cons, h,
    Bool.true_and, isPackageName]

/-- The first text and each of the others after a dot. -/
lemma intercalate_dot (first : List Char) (more : List (List Char)) :
    ['.'].intercalate (first :: more) = first ++ (more.map ('.' :: ·)).flatten := by
  induction more generalizing first with
  | nil => simp
  | cons next more ih =>
    rw [List.intercalate_cons_cons, ih, List.map_cons, List.flatten_cons]
    simp

/-- The texts that fit the pattern are the dotted package names. -/
lemma mem_matches_packagePattern : s ∈ packagePattern.matches' ↔ isPackageName s := by
  rw [packagePattern, matches'_mul, matches'_star, Language.mem_mul]
  constructor
  · rintro ⟨first, hfirst, rest, hrest, rfl⟩
    obtain ⟨dotted, rfl, hdotted⟩ := Language.mem_kstar.mp hrest
    have hfirst := mem_matches_tokenPattern.mp hfirst
    clear hrest
    induction dotted generalizing first with
    | nil => simpa using isPackageName_of_isToken hfirst
    | cons next more ih =>
      rw [List.forall_mem_cons] at hdotted
      obtain ⟨t, ht, rfl⟩ := mem_matches_dotted.mp hdotted.1
      rw [List.flatten_cons, List.cons_append, isPackageName_append_dot hfirst]
      exact ih t (mem_matches_tokenPattern.mpr ht) hdotted.2 ht
  · intro h
    obtain ⟨first, more, hpieces⟩ := splitAt_eq_cons '.' s
    have htoken : ∀ t ∈ first :: more, isToken t := by
      rw [← hpieces]
      exact List.all_eq_true.mp h
    rw [List.forall_mem_cons] at htoken
    refine ⟨first, mem_matches_tokenPattern.mpr htoken.1, (more.map ('.' :: ·)).flatten, ?_, ?_⟩
    · refine Language.mem_kstar.mpr ⟨_, rfl, fun dotted hdotted => ?_⟩
      obtain ⟨t, ht, rfl⟩ := List.mem_map.mp hdotted
      exact mem_matches_dotted.mpr ⟨t, htoken.2 t ht, rfl⟩
    · rw [← intercalate_dot, ← hpieces, intercalate_splitAt]

end Pattern

section Segments

/-- The text that a package is named after: what is given, without the blanks at its ends, or the
fallback for a single dot, if there is one. -/
def nameSource (raw fallback : Option String) : String :=
  let given := Text.trim (raw.getD "")
  if given = "." ∧ fallback.getD "" ≠ "" then fallback.getD "" else given

/-- The segments of a dotted name that say something. -/
def segments (name : String) : List String := (Text.splitAt '.' name).filter (!Text.isBlank ·)

/-- The token that a segment gives, whatever stands beside it. -/
def segmentToken (segment : String) : String := packageToken (Text.trim segment)

variable (raw fallback : Option String)

lemma packageCandidate_eq : packageCandidate raw fallback = (nameSource raw fallback).toList := by
  have hdot : Text.trim (raw.getD "") = "." ↔ trim (raw.getD "").toList = ['.'] := by
    rw [← String.toList_inj, Text.toList_trim]
    rfl
  rw [packageCandidate, nameSource, apply_ite String.toList, Text.toList_trim]
  simp only [hdot]

/-- The tokens of a dotted name are made of its segments one by one. -/
lemma map_ofList_packageTokens (name : String) :
    (packageTokens name.toList).map String.ofList = (segments name).map segmentToken := by
  rw [packageTokens, segments, Text.splitAt, List.filter_map, List.map_map, List.map_map]
  refine congrArg₂ List.map (funext fun segment => ?_) (List.filter_congr fun segment _ => ?_)
  · simp [segmentToken, packageToken]
  · simp [Text.isBlank]

/-- The pieces of a package name are the tokens of which it is made. -/
lemma splitAt_packageName :
    Text.splitAt '.' (packageName raw fallback) =
      if segments (nameSource raw fallback) = [] then [defaultPackage]
      else (segments (nameSource raw fallback)).map segmentToken := by
  have hdot : ∀ t ∈ packageTokens (packageCandidate raw fallback), '.' ∉ t := by
    intro t ht
    obtain ⟨segment, -, rfl⟩ := List.mem_map.mp ht
    exact dot_not_mem_of_isToken (isToken_tokenChars _)
  have hsegments := map_ofList_packageTokens (nameSource raw fallback)
  rw [← packageCandidate_eq] at hsegments
  rw [packageName]
  split
  · next hnil =>
    rw [hnil, List.map_nil, eq_comm, List.map_eq_nil_iff] at hsegments
    rw [if_pos hsegments]
    decide
  · next tokens hne =>
    have hsome : segments (nameSource raw fallback) ≠ [] := by
      intro hnil
      rw [hnil, List.map_nil, List.map_eq_nil_iff] at hsegments
      exact hne hsegments
    rw [if_neg hsome, ← hsegments, Text.splitAt, String.toList_ofList, splitAt_intercalate hne hdot]

/-- The texts that name themselves are the dotted package names, whatever the fallback. -/
lemma packageName_eq_self_iff {s : String} (fallback : Option String) :
    packageName (some s) fallback = s ↔ isPackageName s.toList := by
  refine ⟨fun h => ?_, fun h => packageName_eq_self h fallback⟩
  rw [← h]
  exact isPackageName_packageName (some s) fallback

/-- The name of a package fits the pattern. It has one token for each segment of the text that the
package is named after which is not blank, in order, and each is made of its own segment; without any
it is the default. Naming a package after its name changes nothing, and the texts of which that holds
are those that fit the pattern, whatever the fallback. -/
theorem packageName_segmentwise :
    (packageName raw fallback).toList ∈ packagePattern.matches' ∧
      Text.splitAt '.' (packageName raw fallback) =
        (if segments (nameSource raw fallback) = [] then ["aiohttp_server"]
        else (segments (nameSource raw fallback)).map segmentToken) ∧
      (∀ other, packageName (some (packageName raw fallback)) other = packageName raw fallback) ∧
      ∀ s other, packageName (some s) other = s ↔ s.toList ∈ packagePattern.matches' := by
  have hname : isPackageName (packageName raw fallback).toList :=
    isPackageName_packageName raw fallback
  refine ⟨mem_matches_packagePattern.mpr hname, splitAt_packageName raw fallback,
    packageName_eq_self hname, fun s other => ?_⟩
  rw [mem_matches_packagePattern, packageName_eq_self_iff]

end Segments

end StubPlan.Name
