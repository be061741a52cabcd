import StubPlan.Proofs.Name.Settled

/-! The snake case of class names. It can be read back when each capital begins a word of its own;
names in which capitals follow each other, or that have underscores, may share theirs. -/
namespace StubPlan.Name
open Chars Unicode

/-- Whether a text may name a class: a capital, then letters from A to Z of either case, digits and
underscores. -/
def isClassName : List Char → Bool
  | [] => false
  | c :: rest => isCapital c && rest.all fun x => isCapital x || isTokenChar x

/-- Whether no two capitals follow each other. -/
def capitalsApart : List Char → Bool
  | a :: b :: rest => !(isCapital a && isCapital b) && capitalsApart (b :: rest)
  | _ => true

/-- Whether a text names a class by words that begin with a capital and go on without any. -/
def isPascalCase (s : List Char) : Bool := isClassName s && !s.contains '_' && capitalsApart s

variable {s : List Char}

lemma isTokenChar_or_isCapital (h : isClassName s) : ∀ c ∈ s, isCapital c ∨ isTokenChar c := by
  cases s with
  | nil => exact absurd h Bool.false_ne_true
  | cons a rest =>
    obtain ⟨ha, hrest⟩ := Bool.and_eq_true_iff.mp h
    rw [List.forall_mem_cons]
    exact ⟨.inl ha, fun c hc => Bool.or_eq_true_iff.mp (List.all_eq_true.mp hrest c hc)⟩

lemma not_mem_of_isClassName (h : isClassName s) {c : Char}
    (hc : (isCapital c || isTokenChar c) = false) : c ∉ s := by
  intro hmem
  have hchar := isTokenChar_or_isCapital h c hmem
  rw [← Bool.or_eq_true, hc] at hchar
  exact Bool.false_ne_true hchar

/-- The snake case of a class name is a matter of its capitals: some get an underscore before them,
and all are written small. -/
lemma snakeChars_of_isClassName (h : isClassName s) :
    snakeChars s = (splitWords (splitAcronyms s)).map Char.toLower := by
  have hdollar : '$' ∉ s := not_mem_of_isClassName h (by decide)
  have hchars : ∀ c ∈ splitWords (splitAcronyms s), isCapital c ∨ isTokenChar c := by
    intro c hc
    rcases mem_splitWords hc with rfl | hc
    · exact .inr (by decide)
    rcases mem_splitAcronyms hc with rfl | hc
    · exact .inr (by decide)
    exact isTokenChar_or_isCapital h c hc
  have hjoined : joinSeparated (splitWords (splitAcronyms s)) = splitWords (splitAcronyms s) :=
    joinSeparated_eq_self (fun hc => absurd (hchars '-' hc) (by decide))
      fun hc => absurd (hchars ' ' hc) (by decide)
  have hlow : ∀ c ∈ splitWords (splitAcronyms s), c.toNat < 128 := by
    intro c hc
    rcases hchars c hc with hcapital | htoken
    · have := toNat_of_isCapital hcapital
      omega
    · have := toNat_of_isTokenChar htoken
      omega
  rw [snakeChars, replace_dollar_eq_self hdollar, hjoined, lower_eq_map hlow]

lemma head?_splitAcronyms (s : List Char) : (splitAcronyms s).head? = s.head? := by
  fun_induction splitAcronyms s <;> rfl

lemma head?_splitWords (s : List Char) : (splitWords s).head? = s.head? := by
  fun_induction splitWords s <;> rfl

/-- The snake case of a class name begins with the small form of the capital it begins with. -/
lemma head?_snakeChars (h : isClassName s) : (snakeChars s).head? = s.head?.map Char.toLower := by
  rw [snakeChars_of_isClassName h, List.head?_map, head?_splitWords, head?_splitAcronyms]

section ReadBack

/-- A capital as the beginning of a word in snake case. -/
def markCapital (c : Char) : List Char := if isCapital c then ['_', c.toLower] else [c]

/-- The class name that a text in snake case gives: what follows an underscore is a capital. -/
def readBack : List Char → List Char
  | '_' :: c :: rest => c.toUpper :: readBack rest
  | c :: rest => c :: readBack rest
  | [] => []

lemma toUpper_toLower {c : Char} (h : isCapital c) : c.toLower.toUpper = c :=
  of_forall_ofNat (P := fun c => c.toLower.toUpper = c) (by decide) (toNat_mem_of_isCapital h)

lemma readBack_flatMap (h : '_' ∉ s) : readBack (s.flatMap markCapital) = s := by
  induction s with
  | nil => rfl
  | cons c rest ih =>
    rw [List.mem_cons, not_or] at h
    rw [List.flatMap_cons, markCapital]
    split
    · next hc =>
      change c.toLower.toUpper :: readBack (rest.flatMap markCapital) = c :: rest
      rw [toUpper_toLower hc, ih h.2]
    · rw [List.singleton_append, readBack.eq_2 _ _ (by rintro _ _ rfl; exact absurd rfl h.1),
        ih h.2]

lemma isDecimal_of_isTokenChar {c : Char} (h : isTokenChar c) (hmark : c ≠ '_') :
    (isSmall c || isDecimal c) = true := by
  simp only [isTokenChar, Bool.or_eq_true, Bool.and_eq_true, decide_eq_true_eq] at h
  rcases h with (hsmall | ⟨hlow, hhigh⟩) | rfl
  · rw [hsmall, Bool.true_or]
  · have hmem : c.toNat ∈ List.range' 48 10 :=
      List.mem_range'_1.mpr ⟨hlow, Nat.lt_succ_of_le hhigh⟩
    have hdecimal : isDecimal c = true :=
      of_forall_ofNat (P := fun c => isDecimal c = true) (by decide) hmem
    rw [hdecimal, Bool.or_true]
  · exact absurd rfl hmark

lemma splitAcronyms_of_capitalsApart (h : capitalsApart s) : splitAcronyms s = s := by
  fun_induction splitAcronyms s with
  | case1 a b c d rest hc ih =>
    simp only [Bool.and_eq_true] at hc
    simp [capitalsApart, hc.1.1.1, hc.1.1.2] at h
  | case2 a b c d rest hc ih =>
    rw [capitalsApart, Bool.and_eq_true] at h
    rw [ih h.2]
  | case3 short hs => rfl

/-- Where capitals are apart, each after the first character has an underscore before it. -/
lemma splitWords_of_capitalsApart {a : Char} {rest : List Char} (h : capitalsApart (a :: rest))
    (hchars : ∀ c ∈ a :: rest, isCapital c ∨ isTokenChar c) (hmark : '_' ∉ a :: rest) :
    splitWords (a :: rest) = a :: rest.flatMap fun c => if isCapital c then ['_', c] else [c] := by
  induction rest generalizing a with
  | nil => rfl
  | cons b rest ih =>
    rw [List.forall_mem_cons] at hchars
    rw [List.mem_cons, not_or] at hmark
    rw [capitalsApart, Bool.and_eq_true] at h
    have hrest := ih h.2 hchars.2 hmark.2
    rw [splitWords, List.flatMap_cons]
    cases hb : isCapital b with
    | false => simp [hrest]
    | true =>
      have ha : isCapital a = false := by simpa [hb] using h.1
      have hword := isDecimal_of_isTokenChar (hchars.1.resolve_left (by simp [ha]))
        (Ne.symm hmark.1)
      simp [hword, hrest]

/-- A name with capitals apart has one word for each of its capitals. -/
lemma cons_snakeChars (h : isPascalCase s) : '_' :: snakeChars s = s.flatMap markCapital := by
  rw [isPascalCase, Bool.and_eq_true, Bool.and_eq_true] at h
  obtain ⟨⟨hclass, hmark⟩, hapart⟩ := h
  have hmark : '_' ∉ s := by simpa using hmark
  have hchars := isTokenChar_or_isCapital hclass
  rw [snakeChars_of_isClassName hclass, splitAcronyms_of_capitalsApart hapart]
  cases s with
  | nil => exact absurd hclass Bool.false_ne_true
  | cons a rest =>
    have ha : isCapital a := (Bool.and_eq_true_iff.mp hclass).1
    rw [splitWords_of_capitalsApart hapart hchars hmark, List.map_cons, List.map_flatMap,
      List.flatMap_cons, markCapital, if_pos ha]
    refine congrArg ('_' :: a.toLower :: ·) (List.flatMap_congr fun c hc => ?_)
    have hc' : isCapital c = false → c.toLower = c := by
      intro hlow
      rw [← isUpper_eq_isCapital] at hlow
      exact toLower_eq_self hlow
    rw [markCapital]
    cases hcapital : isCapital c with
    | false => simp [hc' hcapital]
    | true => rfl

/-- Names with capitals apart have different snake cases. -/
lemma snakeChars_inj {t : List Char} (hs : isPascalCase s) (ht : isPascalCase t) :
    snakeChars s = snakeChars t ↔ s = t := by
  have hmark : ∀ {u}, isPascalCase u → '_' ∉ u := by
    intro u hu
    rw [isPascalCase, Bool.and_eq_true, Bool.and_eq_true] at hu
    simpa using hu.1.2
  refine ⟨fun h => ?_, congrArg snakeChars⟩
  have hflat : s.flatMap markCapital = t.flatMap markCapital := by
    rw [← cons_snakeChars hs, ← cons_snakeChars ht, h]
  rw [← readBack_flatMap (hmark hs), hflat, readBack_flatMap (hmark ht)]

end ReadBack

end StubPlan.Name
