import Mathlib.Algebra.Group.Nat.Defs
import Mathlib.Data.List.Basic
import StubPlan.Numeral

/-! Which texts write a number without a sign, and which number. The number lies between two neighbouring
multiples of a power of ten, which its first digit and the count of its digits tell. -/
namespace StubPlan.Numeral
open Chars Unicode

section Grammar

/-- Digits of any script, where one underscore may stand between two of them. -/
inductive IsGrouped : List Char → Prop
  | digit {c} : isDecimal c → IsGrouped [c]
  | next {c s} : isDecimal c → IsGrouped s → IsGrouped (c :: s)
  | group {c s} : isDecimal c → IsGrouped s → IsGrouped (c :: '_' :: s)

/-- How digits go on after a digit: not at all, or with more of them, next to it or in another group. -/
inductive GoesOn : List Char → Prop
  | done : GoesOn []
  | next {s} : IsGrouped s → GoesOn s
  | group {s} : IsGrouped s → GoesOn ('_' :: s)

/-- Whether a text writes a number that has not too many digits to be read. -/
def IsNumeral (s : List Char) : Prop := IsGrouped s ∧ s.countP isDecimal ≤ maxNumeralDigits

variable {c : Char} {s : List Char} {digits : List Nat}

lemma isGrouped_cons_iff : IsGrouped (c :: s) ↔ isDecimal c ∧ GoesOn s := by
  constructor
  · rintro (hc | ⟨hc, hs⟩ | ⟨hc, hs⟩)
    · exact ⟨hc, .done⟩
    · exact ⟨hc, .next hs⟩
    · exact ⟨hc, .group hs⟩
  · rintro ⟨hc, _ | hs | hs⟩
    · exact .digit hc
    · exact .next hc hs
    · exact .group hc hs

lemma decimalValue?_underscore : decimalValue? '_' = none := by decide

lemma not_isGrouped_nil : ¬ IsGrouped [] := nofun

lemma goesOn_cons_iff :
    GoesOn (c :: s) ↔ isDecimal c ∧ GoesOn s ∨ c = '_' ∧ IsGrouped s := by
  constructor
  · rintro (_ | h | h)
    · exact .inl (isGrouped_cons_iff.mp h)
    · exact .inr ⟨rfl, h⟩
  · rintro (h | ⟨rfl, h⟩)
    · exact .next (isGrouped_cons_iff.mpr h)
    · exact .group h

/-- Reading takes exactly the texts of digits in groups, and gives the values of the digits. -/
lemma digits?_eq_some_iff (after : Bool) (s : List Char) :
    digits? after s = some digits ↔
      (if after then GoesOn s else IsGrouped s) ∧ digits = s.filterMap decimalValue? := by
  induction s generalizing after digits with
  | nil =>
    cases after with
    | false => simp [digits?, not_isGrouped_nil]
    | true => simp [digits?, GoesOn.done, eq_comm]
  | cons c s ih =>
    rw [digits?, List.filterMap_cons]
    rcases hc : decimalValue? c with - | d
    · have hdecimal : isDecimal c = false := by rw [isDecimal, hc]; rfl
      cases after with
      | false => simp [isGrouped_cons_iff, hdecimal]
      | true =>
        by_cases hmark : c = '_'
        · rw [if_pos ⟨hmark, rfl⟩, ih]
          simp [hmark, goesOn_cons_iff, isDecimal, decimalValue?_underscore]
        · simp [hmark, goesOn_cons_iff, hdecimal]
    · have hdecimal : isDecimal c = true := by rw [isDecimal, hc]; rfl
      have hmark : c ≠ '_' := by
        rintro rfl
        rw [decimalValue?_underscore] at hc
        contradiction
      have hcons : (if after then GoesOn (c :: s) else IsGrouped (c :: s)) ↔ GoesOn s := by
        cases after <;> simp [goesOn_cons_iff, isGrouped_cons_iff, hdecimal, hmark]
      rw [hcons, Option.map_eq_some_iff]
      constructor
      · rintro ⟨rest, hrest, rfl⟩
        obtain ⟨hgoes, rfl⟩ := (ih true).mp hrest
        exact ⟨hgoes, rfl⟩
      · rintro ⟨hgoes, rfl⟩
        exact ⟨_, (ih true).mpr ⟨hgoes, rfl⟩, rfl⟩

instance (s : List Char) : Decidable (IsGrouped s) :=
  decidable_of_iff ((digits? false s).isSome) <| by
    simp [Option.isSome_iff_exists, digits?_eq_some_iff]

instance (s : List Char) : Decidable (IsNumeral s) := by
  unfold IsNumeral
  infer_instance

lemma length_filterMap_decimalValue? (s : List Char) :
    (s.filterMap decimalValue?).length = s.countP isDecimal := by
  rw [List.length_filterMap_eq_countP]
  rfl

/-- A number without a sign is read from exactly the numerals. -/
lemma nat?_eq_some_iff {n : Nat} :
    nat? s = some n ↔ IsNumeral s ∧ n = value (s.filterMap decimalValue?) := by
  rw [nat?, Option.bind_eq_some_iff, IsNumeral]
  constructor
  · rintro ⟨digits, hdigits, hn⟩
    obtain ⟨hgrouped, rfl⟩ := (digits?_eq_some_iff false s).mp hdigits
    rw [Option.ite_none_right_eq_some, length_filterMap_decimalValue?] at hn
    exact ⟨⟨hgrouped, hn.1⟩, (Option.some.inj hn.2).symm⟩
  · rintro ⟨⟨hgrouped, hcount⟩, rfl⟩
    refine ⟨_, (digits?_eq_some_iff false s).mpr ⟨hgrouped, rfl⟩, ?_⟩
    rw [length_filterMap_decimalValue?, if_pos hcount]

end Grammar

section Value

variable {c : Char} {d n : Nat} {digits : List Nat}

lemma decimalValue?_lt (h : decimalValue? c = some d) : d < 10 := by
  obtain ⟨start, hstart, rfl⟩ := Option.map_eq_some_iff.mp h
  have hin := List.find?_some hstart
  simp only [Bool.and_eq_true, decide_eq_true_eq] at hin
  omega

/-- Each digit moves the number so far one place up and fills in the place that comes free. -/
lemma foldl_bounds (h : ∀ d ∈ digits, d < 10) (n : Nat) :
    n * 10 ^ digits.length ≤ digits.foldl (fun n d => 10 * n + d) n ∧
      digits.foldl (fun n d => 10 * n + d) n < (n + 1) * 10 ^ digits.length := by
  induction digits generalizing n with
  | nil => simp
  | cons d digits ih =>
    obtain ⟨hd, hdigits⟩ := List.forall_mem_cons.mp h
    obtain ⟨hlow, hhigh⟩ := ih hdigits (10 * n + d)
    rw [List.foldl_cons, List.length_cons, Nat.pow_succ', ← Nat.mul_assoc, ← Nat.mul_assoc]
    constructor
    · exact Nat.le_trans (Nat.mul_le_mul_right _ (by omega)) hlow
    · exact Nat.lt_of_lt_of_le hhigh (Nat.mul_le_mul_right _ (by omega))

/-- The first digit, and how many digits come after it, bound the number. -/
lemma value_cons_bounds (d : Nat) (h : ∀ d ∈ digits, d < 10) :
    d * 10 ^ digits.length ≤ value (d :: digits) ∧
      value (d :: digits) < (d + 1) * 10 ^ digits.length := by
  simpa [value] using foldl_bounds h d

end Value

end StubPlan.Numeral
