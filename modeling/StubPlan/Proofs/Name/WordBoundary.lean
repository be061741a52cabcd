import StubPlan.Proofs.Name.ClassName
import StubPlan.Proofs.Text.Boundary
import StubPlan.Proofs.TypeExpr.Character

/-! Where words begin inside a name. Snake case looks for two kinds of boundaries, one after the other,
and each search sees what the one before has put in. All the same each place of the name is decided by the
characters next to it: by the one before it, its own, and the two after it. -/
namespace StubPlan.Name
open Chars Unicode
open Text (Boundary Part)

section Searches

/-- The boundary before the last capital of several, where small letters go on with the word that it
begins. -/
def acronymBoundary : Boundary where
  before := [.many isCapital]
  after := [.one isCapital, .one isSmall, .many isSmall]
  before_ne_nil := List.cons_ne_nil _ _

/-- The boundary between a small letter or a digit and a capital. -/
def wordBoundary : Boundary where
  before := [.one fun c => isSmall c || isDecimal c]
  after := [.one isCapital]
  before_ne_nil := List.cons_ne_nil _ _

variable {a b rest : List Char} {c : Char}

lemma not_isSmall_of_isCapital (h : isCapital c) : isSmall c = false :=
  of_forall_ofNat (P := fun c => isSmall c = false) (by decide) (toNat_mem_of_isCapital h)

/-- A capital begins names, and no digit does. -/
lemma not_isDecimal_of_isCapital (h : isCapital c) : isDecimal c = false := by
  have hstart : TypeExpr.isNameStart c := by
    rw [TypeExpr.isNameStart_eq, inRanges_iff]
    exact ⟨(0x41, 0x5A), List.mem_cons_self, of_decide_eq_true (Bool.and_eq_true_iff.mp h).1,
      of_decide_eq_true (Bool.and_eq_true_iff.mp h).2⟩
  rw [Bool.eq_false_iff]
  intro hdecimal
  have hdigit : isDigit c := by rw [isDigit, hdecimal, Bool.true_or]
  rw [TypeExpr.not_isNameStart_of_isDigit hdigit] at hstart
  exact Bool.false_ne_true hstart

/-- A capital goes on with no word before it. -/
lemma not_word_of_isCapital (h : isCapital c) : (isSmall c || isDecimal c) = false := by
  rw [not_isSmall_of_isCapital h, not_isDecimal_of_isCapital h, Bool.or_false]

lemma not_isCapital_of_isSmall (h : isSmall c) : isCapital c = false := by
  rw [Bool.eq_false_iff]
  intro hcapital
  rw [not_isSmall_of_isCapital hcapital] at h
  exact Bool.false_ne_true h

lemma splitAcronyms_cons_cons (a b : Char) (rest : List Char) :
    splitAcronyms (a :: b :: rest) =
      if isCapital a && isCapital b && rest[0]?.any isSmall && rest[1]?.any isSmall then
        a :: '_' :: splitAcronyms (b :: rest)
      else a :: splitAcronyms (b :: rest) := by
  match rest with
  | [] => simp [splitAcronyms]
  | [c] => simp [splitAcronyms]
  | c :: d :: rest => simp [splitAcronyms]

lemma splitAcronyms_cons_of_not_capital (h : isCapital c = false) (s : List Char) :
    splitAcronyms (c :: s) = c :: splitAcronyms s := by
  cases s with
  | nil => rfl
  | cons b rest => simp [splitAcronyms_cons_cons, h]

lemma splitWords_cons_of_not_word (h : (isSmall c || isDecimal c) = false) (s : List Char) :
    splitWords (c :: s) = c :: splitWords s := by
  cases s with
  | nil => rfl
  | cons b rest => simp [splitWords, h]

lemma of_matches_acronymBoundary (h : acronymBoundary.Matches a b) :
    (a ≠ [] ∧ ∀ c ∈ a, isCapital c) ∧
      ∃ c x y more, b = c :: x :: y :: more ∧ isCapital c ∧ ∀ z ∈ x :: y :: more, isSmall z := by
  obtain ⟨before, after, hbefore, hafter, rfl, rfl⟩ := h
  obtain _ | ⟨hrun, _ | _⟩ := hbefore
  obtain _ | ⟨⟨c, hc, rfl⟩, _ | ⟨⟨x, hx, rfl⟩, _ | ⟨⟨hne, hsmalls⟩, _ | _⟩⟩⟩ := hafter
  obtain ⟨y, more, rfl⟩ := List.exists_cons_of_ne_nil hne
  exact ⟨by simpa [Part.Takes] using hrun, c, x, y, more, by simp, hc, List.forall_mem_cons.mpr ⟨hx, hsmalls⟩⟩

/-- Inside a word of small letters there is no boundary of this kind. -/
lemma splitAcronyms_append_of_small {smalls : List Char} (h : ∀ c ∈ smalls, isSmall c)
    (rest : List Char) : splitAcronyms (smalls ++ rest) = smalls ++ splitAcronyms rest := by
  induction smalls with
  | nil => rfl
  | cons c smalls ih =>
    obtain ⟨hc, hsmalls⟩ := List.forall_mem_cons.mp h
    rw [List.cons_append, splitAcronyms_cons_of_not_capital (not_isCapital_of_isSmall hc), ih hsmalls,
      List.cons_append]

/-- Several capitals are divided before the last of them, when two small letters follow, and nowhere
else. -/
lemma splitAcronyms_run {run : List Char} {c x y : Char} (hne : run ≠ [])
    (hrun : ∀ c ∈ run, isCapital c) (hc : isCapital c) (hx : isSmall x) (hy : isSmall y)
    (rest : List Char) : splitAcronyms (run ++ c :: x :: y :: rest) =
      run ++ '_' :: splitAcronyms (c :: x :: y :: rest) := by
  induction run with
  | nil => exact absurd rfl hne
  | cons r run ih =>
    obtain ⟨hr, hrun⟩ := List.forall_mem_cons.mp hrun
    cases run with
    | nil => simp [splitAcronyms_cons_cons, hr, hc, hx, hy]
    | cons r' run =>
      -- the second character after this one is still a capital
      have hnot : (run ++ c :: x :: y :: rest)[0]?.any isSmall = false := by
        cases run with
        | nil => simpa using not_isSmall_of_isCapital hc
        | cons r'' run => simpa using not_isSmall_of_isCapital (hrun r'' (by simp))
      have ih := ih (by simp) hrun
      rw [List.cons_append, List.cons_append, splitAcronyms_cons_cons, hnot, Bool.and_false,
        Bool.false_and, if_neg Bool.false_ne_true, ← List.cons_append, ih]
      rfl

/-- One look at four characters finds the same boundaries as the search for whole words. -/
lemma marked_acronymBoundary (s : List Char) : acronymBoundary.marked '_' s = splitAcronyms s := by
  refine Boundary.marked_eq rfl (fun a b rest h => ?_) (fun c s h => ?_) s
  · obtain ⟨⟨hne, hrun⟩, c, x, y, more, rfl, hc, hsmalls⟩ := of_matches_acronymBoundary h
    have hx := hsmalls x (by simp)
    have hy := hsmalls y (by simp)
    have hword : splitAcronyms (c :: x :: y :: (more ++ rest)) =
        c :: (x :: y :: more ++ splitAcronyms rest) := by
      rw [splitAcronyms_cons_cons, List.getElem?_cons_zero, Option.any_some, ← List.cons_append,
        ← List.cons_append, splitAcronyms_append_of_small hsmalls]
      simp [not_isCapital_of_isSmall hx]
    rw [List.cons_append, List.cons_append, List.cons_append, splitAcronyms_run hne hrun hc hx hy,
      hword]
    rfl
  · match s with
    | [] => rfl
    | [b] => simp [splitAcronyms]
    | [b, x] => simp [splitAcronyms]
    | b :: x :: y :: rest =>
      rw [splitAcronyms, if_neg]
      intro hcond
      simp only [Bool.and_eq_true] at hcond
      obtain ⟨⟨⟨hc, hb⟩, hx⟩, hy⟩ := hcond
      refine h [c] [b, x, y] ⟨[[c]], [[b], [x], [y]], ?_, ?_, rfl, rfl⟩ (by simp)
      · simpa [acronymBoundary, Part.Takes] using hc
      · simpa [acronymBoundary, Part.Takes] using ⟨hb, hx, hy⟩

lemma marked_wordBoundary (s : List Char) : wordBoundary.marked '_' s = splitWords s := by
  refine Boundary.marked_eq rfl (fun a b rest h => ?_) (fun c s h => ?_) s
  · obtain ⟨before, after, hbefore, hafter, rfl, rfl⟩ := h
    obtain _ | ⟨⟨x, hx, rfl⟩, _ | _⟩ := hbefore
    obtain _ | ⟨⟨c, hc, rfl⟩, _ | _⟩ := hafter
    simp [splitWords, hx, hc, splitWords_cons_of_not_word (not_word_of_isCapital hc)]
  · cases s with
    | nil => rfl
    | cons b rest =>
      rw [splitWords, if_neg]
      intro hcond
      obtain ⟨hc, hb⟩ := Bool.and_eq_true_iff.mp hcond
      refine h [c] [b] ⟨[[c]], [[b]], ?_, ?_, rfl, rfl⟩ (by simp)
      · simpa [wordBoundary, Part.Takes] using hc
      · simpa [wordBoundary, Part.Takes] using hb

end Searches

section Places

/-- Whether a word begins at a place inside a text: at a capital, if a small letter or a digit comes
before it, or if a capital comes before it and two small letters come after it. -/
def beginsWord (s : List Char) (i : Nat) : Bool :=
  0 < i && s[i]?.any isCapital &&
    (s[i - 1]?.any (fun c => isSmall c || isDecimal c) ||
      s[i - 1]?.any isCapital && s[i + 1]?.any isSmall && s[i + 2]?.any isSmall)

/-- The text with an underscore at each place inside it where a word begins. -/
def wordsMarked (s : List Char) : List Char :=
  s.zipIdx.flatMap fun (c, i) => if beginsWord s i then ['_', c] else [c]

/-- The same search character by character; `before` is the character that comes before the text. -/
def markFrom (before : Option Char) : List Char → List Char
  | [] => []
  | c :: rest =>
    if isCapital c && (before.any (fun b => isSmall b || isDecimal b) ||
        before.any isCapital && rest[0]?.any isSmall && rest[1]?.any isSmall) then
      '_' :: c :: markFrom (some c) rest
    else c :: markFrom (some c) rest

lemma beginsWord_append (front : List Char) (c : Char) (rest : List Char) :
    beginsWord (front ++ c :: rest) front.length =
      (isCapital c && (front.getLast?.any (fun b => isSmall b || isDecimal b) ||
        front.getLast?.any isCapital && rest[0]?.any isSmall && rest[1]?.any isSmall)) := by
  have hplace : (front ++ c :: rest)[front.length]? = some c := by simp
  have hnext : (front ++ c :: rest)[front.length + 1]? = rest[0]? := by
    simp [List.getElem?_append_right]
  have hlater : (front ++ c :: rest)[front.length + 2]? = rest[1]? := by
    simp [List.getElem?_append_right]
  rw [beginsWord, hplace, hnext, hlater]
  rcases List.eq_nil_or_concat front with rfl | ⟨front, b, rfl⟩ <;> simp

lemma flatMap_zipIdx_eq_markFrom (front s : List Char) :
    ((s.zipIdx front.length).flatMap fun (c, i) =>
        if beginsWord (front ++ s) i then ['_', c] else [c]) = markFrom front.getLast? s := by
  induction s generalizing front with
  | nil => rfl
  | cons c rest ih =>
    have ih := ih (front ++ [c])
    rw [List.append_assoc, List.singleton_append, List.length_append, List.length_singleton,
      List.getLast?_concat] at ih
    rw [List.zipIdx_cons, List.flatMap_cons, ih, markFrom]
    dsimp only
    rw [beginsWord_append]
    split <;> rfl

lemma wordsMarked_eq_markFrom (s : List Char) : wordsMarked s = markFrom none s :=
  flatMap_zipIdx_eq_markFrom [] s

/-- What the first search puts in takes no boundary from the second one and adds none. -/
lemma splitWords_splitAcronyms_cons (a : Char) (s : List Char) :
    splitWords (splitAcronyms (a :: s)) = a :: markFrom (some a) s := by
  induction s generalizing a with
  | nil => rfl
  | cons b rest ih =>
    rw [splitAcronyms_cons_cons, markFrom]
    cases hcond : isCapital a && isCapital b && rest[0]?.any isSmall && rest[1]?.any isSmall with
    | true =>
      simp only [Bool.and_eq_true] at hcond
      obtain ⟨⟨⟨ha, hb⟩, hx⟩, hy⟩ := hcond
      have hmark : (isSmall '_' || isDecimal '_') = false := by decide
      rw [if_pos rfl, splitWords_cons_of_not_word (not_word_of_isCapital ha),
        splitWords_cons_of_not_word hmark, ih]
      simp [ha, hb, hx, hy]
    | false =>
      -- the first search leaves the next character where it is, so the second one sees it
      obtain ⟨u, hu⟩ : ∃ u, splitAcronyms (b :: rest) = b :: u :=
        List.head?_eq_some_iff.mp (head?_splitAcronyms (b :: rest))
      have ih := ih b
      rw [hu] at ih
      rw [if_neg Bool.false_ne_true, hu, splitWords, ih]
      cases hb : isCapital b with
      | false => simp
      | true =>
        have hnot : (isCapital a && rest[0]?.any isSmall && rest[1]?.any isSmall) = false := by
          simpa [hb] using hcond
        simp only [Option.any_some, hnot, Bool.or_false, Bool.and_true, Bool.true_and]
        split <;> rfl

lemma splitWords_splitAcronyms (s : List Char) :
    splitWords (splitAcronyms s) = wordsMarked s := by
  rw [wordsMarked_eq_markFrom]
  cases s with
  | nil => rfl
  | cons a rest => simp [splitWords_splitAcronyms_cons, markFrom]

/-- The text with two underscores for each dollar sign. -/
def dollarsSpelled (s : List Char) : List Char :=
  s.flatMap fun c => if c = '$' then ['_', '_'] else [c]

lemma replace_dollar (s : List Char) : replace ['$'] ['_', '_'] s = dollarsSpelled s :=
  replace_char '$' ['_', '_'] s

end Places

/-- Snake case follows one rule for each place of the name. With two underscores for each dollar sign,
exactly the places where a word begins get an underscore before them; then hyphens and spaces become
underscores, and all is written in lower case. The two searches, each cutting the longest matches from
left to right, put in the same underscores and nothing else. -/
theorem snakeCase_eq_wordsMarked (word : String) :
    snakeCase word = String.ofList (lower ((wordsMarked (dollarsSpelled word.toList)).map
        fun c => if c = '-' ∨ c = ' ' then '_' else c)) ∧
      wordsMarked (dollarsSpelled word.toList) =
        wordBoundary.marked '_' (acronymBoundary.marked '_' (dollarsSpelled word.toList)) := by
  refine ⟨?_, ?_⟩
  · rw [snakeCase, snakeChars, replace_dollar, splitWords_splitAcronyms, joinSeparated]
  · rw [marked_acronymBoundary, marked_wordBoundary, splitWords_splitAcronyms]

example : wordsMarked "XMLHttpRequest2GETs-as URLMap".toList =
    "XML_Http_Request2_GETs-as URL_Map".toList := by decide

end StubPlan.Name
