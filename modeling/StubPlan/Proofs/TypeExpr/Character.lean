import Mathlib.Tactic.Common
import StubPlan.Text.Blank
import StubPlan.TypeExpr.Token

/-! The character classes that decide where tokens begin and end, as sets of code points. Names hold
no quotes, backslashes, dots or blanks of their own, and no digit begins a name. -/
namespace StubPlan.Unicode

lemma inRanges_iff {ranges : List (Nat × Nat)} {n : Nat} :
    inRanges ranges n ↔ ∃ r ∈ ranges, r.1 ≤ n ∧ n ≤ r.2 := by
  simp [inRanges]

lemma inRanges_append (as bs : List (Nat × Nat)) (n : Nat) :
    inRanges (as ++ bs) n = (inRanges as n || inRanges bs n) := by
  simp [inRanges]

/-- A range of one code point holds that code point. -/
lemma inRanges_single (n m : Nat) : inRanges [(n, n)] m = decide (m = n) := by
  apply Bool.eq_iff_iff.mpr
  simp only [inRanges, List.any_cons, List.any_nil, Bool.or_false, Bool.and_eq_true,
    decide_eq_true_eq]
  omega

/-- Whether no range of one list meets a range of the other. -/
def apart (as bs : List (Nat × Nat)) : Bool :=
  as.all fun a => bs.all fun b => Nat.blt a.2 b.1 || Nat.blt b.2 a.1

lemma not_inRanges_of_apart {as bs : List (Nat × Nat)} {n : Nat} (h : apart as bs)
    (ha : inRanges as n) : inRanges bs n = false := by
  apply Bool.eq_false_iff.mpr
  intro hb
  obtain ⟨a, has, hal, har⟩ := inRanges_iff.mp ha
  obtain ⟨b, hbs, hbl, hbr⟩ := inRanges_iff.mp hb
  have hab := List.all_eq_true.mp (List.all_eq_true.mp h a has) b hbs
  simp only [Bool.or_eq_true, Nat.blt_eq] at hab
  omega

/-- The digits of either kind. -/
def digitRanges : List (Nat × Nat) := decimalZeros.map (fun z => (z, z + 9)) ++ otherDigits

lemma isDigit_eq (c : Char) : isDigit c = inRanges digitRanges c.toNat := by
  apply Bool.eq_iff_iff.mpr
  simp [isDigit, isDecimal, decimalValue?, digitRanges, inRanges]

end StubPlan.Unicode

namespace StubPlan.TypeExpr
open Unicode

/-- The characters that begin a segment of a name. -/
def startRanges : List (Nat × Nat) := letters ++ [(0x5F, 0x5F)]

/-- The characters inside a segment of a name. -/
def nameRanges : List (Nat × Nat) := startRanges ++ digitRanges ++ otherNumerals

/-- The two quotes, the dot and the backslash. -/
def markRanges : List (Nat × Nat) := [(0x22, 0x22), (0x27, 0x27), (0x2E, 0x2E), (0x5C, 0x5C)]

def blankRanges : List (Nat × Nat) :=
  [(9, 13), (28, 32), (0x85, 0x85), (0xA0, 0xA0), (0x1680, 0x1680), (0x2000, 0x200A),
   (0x2028, 0x2028), (0x2029, 0x2029), (0x202F, 0x202F), (0x205F, 0x205F), (0x3000, 0x3000)]

lemma nameRanges_apart : apart nameRanges (markRanges ++ blankRanges) := by decide +kernel

lemma digitRanges_apart : apart digitRanges startRanges := by decide +kernel

lemma isNameStart_eq (c : Char) : isNameStart c = inRanges startRanges c.toNat := by
  simp only [isNameStart, isLetter, startRanges, inRanges_append, inRanges_single]
  congr 2
  exact propext Char.toNat_inj.symm

lemma isNameChar_eq (c : Char) : isNameChar c = inRanges nameRanges c.toNat := by
  have hs := isNameStart_eq c
  apply Bool.eq_iff_iff.mpr
  simp only [isNameStart] at hs
  simp only [isNameChar, isAlphanumeric, nameRanges, inRanges_append, ← hs, isDigit_eq,
    Bool.or_eq_true]
  tauto

lemma isBlankChar_eq (c : Char) : Text.isBlankChar c = inRanges blankRanges c.toNat := by
  have point : ∀ n k : Nat, (decide (k ≤ n) && decide (n ≤ k)) = (n == k) := by
    intro n k
    apply Bool.eq_iff_iff.mpr
    simp only [Bool.and_eq_true, decide_eq_true_eq, beq_iff_eq]
    omega
  simp only [Text.isBlankChar, blankRanges, inRanges, List.any_cons, List.any_nil, point,
    Bool.or_false, Bool.or_assoc]

lemma isNameChar_of_isNameStart {c : Char} (h : isNameStart c) : isNameChar c := by
  rw [isNameStart_eq] at h
  simp [isNameChar_eq, nameRanges, inRanges_append, h]

lemma isNameChar_of_isDigit {c : Char} (h : isDigit c) : isNameChar c := by
  rw [isDigit_eq] at h
  simp [isNameChar_eq, nameRanges, inRanges_append, h]

/-- A digit does not begin a name. -/
lemma not_isNameStart_of_isDigit {c : Char} (h : isDigit c) : isNameStart c = false := by
  rw [isDigit_eq] at h
  rw [isNameStart_eq]
  exact not_inRanges_of_apart digitRanges_apart h

lemma not_marked_of_isNameChar {c : Char} (h : isNameChar c) :
    inRanges markRanges c.toNat = false ∧ inRanges blankRanges c.toNat = false := by
  rw [isNameChar_eq] at h
  have hc := not_inRanges_of_apart nameRanges_apart h
  rwa [inRanges_append, Bool.or_eq_false_iff] at hc

/-- No blank stands inside a name. -/
lemma not_isBlankChar_of_isNameChar {c : Char} (h : isNameChar c) :
    Text.isBlankChar c = false := by
  rw [isBlankChar_eq]
  exact (not_marked_of_isNameChar h).2

lemma isNameChar_eq_false {c : Char} (h : inRanges markRanges c.toNat) :
    isNameChar c = false := by
  apply Bool.eq_false_iff.mpr
  intro hc
  rw [(not_marked_of_isNameChar hc).1] at h
  exact Bool.false_ne_true h

@[simp] lemma isNameChar_dot : isNameChar '.' = false := isNameChar_eq_false (by decide)

@[simp] lemma isNameChar_backslash : isNameChar '\\' = false := isNameChar_eq_false (by decide)

@[simp] lemma isNameChar_quote : isNameChar '\'' = false := isNameChar_eq_false (by decide)

lemma isQuote_eq_false {c : Char} (h : isNameChar c) : isQuote c = false := by
  apply Bool.eq_false_iff.mpr
  intro hq
  have marked := (not_marked_of_isNameChar h).1
  simp only [isQuote, Bool.or_eq_true, decide_eq_true_eq] at hq
  rcases hq with rfl | rfl <;> exact absurd marked (by decide)

lemma ne_backslash_of_isQuote {q : Char} (h : isQuote q) : q ≠ '\\' := by
  rintro rfl
  exact absurd h (by decide)

end StubPlan.TypeExpr
