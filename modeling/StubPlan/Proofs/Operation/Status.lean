import Mathlib.Algebra.Ring.Int.Defs
import StubPlan.Proofs.Numeral
import StubPlan.Proofs.Operation.Success

/-! The status that an operation succeeds with. Only the first character of a code is looked at to find
the response, and the whole of it is then read as a number. So the status is the default one, or a number
that begins with a two; how many digits it has nobody asks. -/
namespace StubPlan
open Chars Unicode
open Numeral (IsNumeral)
open Response (IsPassedOver IsFirstSuccess firstSuccess? firstSuccess?_eq_some_iff
  firstSuccess?_eq_none_iff)

section Leading

variable {s : List Char} {code : String}

/-- A text that begins with a two has no sign to take off. -/
lemma takeSign_of_two (h : ['2'] <+: s) : Numeral.takeSign s = (false, s) := by
  obtain ⟨rest, rfl⟩ := h
  rfl

/-- A code that begins with a two is read as a numeral, if it is one. -/
lemma readStatus_of_two (h : ['2'] <+: trim code.toList) :
    readStatus (some code) =
      if IsNumeral (trim code.toList) then
        (Numeral.value ((trim code.toList).filterMap decimalValue?) : Int)
      else defaultStatus := by
  have hint : Numeral.int? code.toList =
      (Numeral.nat? (trim code.toList)).map fun n => (n : Int) := by
    simp [Numeral.int?, takeSign_of_two h]
  rw [readStatus, Option.bind_some, hint]
  split
  · next hnumeral => rw [Numeral.nat?_eq_some_iff.mpr ⟨hnumeral, rfl⟩]; rfl
  · next hnot =>
    have hnone : Numeral.nat? (trim code.toList) = none :=
      Option.eq_none_iff_forall_ne_some.mpr fun n hn => hnot (Numeral.nat?_eq_some_iff.mp hn).1
    rw [hnone]
    rfl

/-- The number has a two in front of all but one of its digits. -/
lemma value_of_two (h : ['2'] <+: s) :
    ∃ k, s.countP isDecimal = k + 1 ∧
      2 * 10 ^ k ≤ Numeral.value (s.filterMap decimalValue?) ∧
      Numeral.value (s.filterMap decimalValue?) < 3 * 10 ^ k := by
  obtain ⟨rest, rfl⟩ := h
  have htwo : decimalValue? '2' = some 2 := by decide
  have hdigits : ∀ d ∈ rest.filterMap decimalValue?, d < 10 := by
    intro d hd
    obtain ⟨c, -, hc⟩ := List.mem_filterMap.mp hd
    exact Numeral.decimalValue?_lt hc
  refine ⟨(rest.filterMap decimalValue?).length, ?_, ?_⟩
  · rw [← Numeral.length_filterMap_decimalValue?, List.singleton_append,
      List.filterMap_cons_some htwo, List.length_cons]
  · rw [List.singleton_append, List.filterMap_cons_some htwo]
    exact Numeral.value_cons_bounds 2 hdigits

/-- Of the numbers that begin with a two, those with three digits are the statuses of success. -/
lemma mem_success_iff {k n : Nat} (hlow : 2 * 10 ^ k ≤ n) (hhigh : n < 3 * 10 ^ k) :
    200 ≤ n ∧ n ≤ 299 ↔ k = 2 := by
  constructor
  · rintro ⟨h200, h299⟩
    by_contra hk
    rcases Nat.lt_or_gt_of_ne hk with hk | hk
    · have hpow : 10 ^ k ≤ 10 ^ 1 := Nat.pow_le_pow_right (by decide) (by omega)
      omega
    · have hpow : 10 ^ 3 ≤ 10 ^ k := Nat.pow_le_pow_right (by decide) hk
      omega
  · rintro rfl
    omega

end Leading

variable {op : Operation} {r : Response} {code : String}

lemma Response.IsFirstSuccess.exists_code (h : IsFirstSuccess op.responses r) : ∃ code, r.code = some code := by
  obtain ⟨-, -, -, -, code, hcode, -⟩ := h
  exact ⟨code, hcode⟩

lemma Response.IsFirstSuccess.two_prefix (h : IsFirstSuccess op.responses r) (hcode : r.code = some code) :
    ['2'] <+: trim code.toList := by
  obtain ⟨-, -, -, -, given, hgiven, hprefix⟩ := h
  rw [hcode] at hgiven
  rwa [Option.some.inj hgiven]

/-- The status of an operation, by the code of the first response that declares success. -/
lemma status_eq (h : IsFirstSuccess op.responses r) (hcode : r.code = some code) :
    op.success.status = if IsNumeral (trim code.toList) then
        (Numeral.value ((trim code.toList).filterMap decimalValue?) : Int)
      else defaultStatus := by
  rw [Operation.success, successResponse_of_isFirstSuccess h, hcode,
    readStatus_of_two (h.two_prefix hcode)]

lemma status_of_isPassedOver (h : ∀ x ∈ op.responses, IsPassedOver x) : op.success.status = 200 :=
  congrArg SuccessResponse.status (successResponse_of_isPassedOver h _)

/-- A code that is a numeral of three digits, or none at all, gives a status of success. -/
lemma status_mem_iff (h : IsFirstSuccess op.responses r) (hcode : r.code = some code) :
    200 ≤ op.success.status ∧ op.success.status ≤ 299 ↔
      (IsNumeral (trim code.toList) → (trim code.toList).countP isDecimal = 3) := by
  rw [status_eq h hcode]
  split
  · next hnumeral =>
    obtain ⟨k, hk, hlow, hhigh⟩ := value_of_two (h.two_prefix hcode)
    have hmem := mem_success_iff hlow hhigh
    rw [forall_prop_of_true hnumeral, hk]
    omega
  · next hnot => simp [hnot, defaultStatus]

/-- An operation succeeds with the default status where it declares no success, and where the code that
does is no numeral. Otherwise the status is the number which the code writes, whose digits begin with a
two. It is a status of success if and only if this number, if there is one, has three digits. -/
theorem Operation.success_status_iff (op : Operation) :
    ((∀ x ∈ op.responses, IsPassedOver x) → op.success.status = 200) ∧
    (∀ r code, IsFirstSuccess op.responses r → r.code = some code →
      (¬ IsNumeral (trim code.toList) → op.success.status = 200) ∧
      (IsNumeral (trim code.toList) →
        op.success.status = Numeral.value ((trim code.toList).filterMap decimalValue?) ∧
        ∃ k, (trim code.toList).countP isDecimal = k + 1 ∧
          2 * 10 ^ k ≤ op.success.status ∧ op.success.status < 3 * 10 ^ k)) ∧
    (200 ≤ op.success.status ∧ op.success.status ≤ 299 ↔
      ∀ r code, IsFirstSuccess op.responses r → r.code = some code →
        IsNumeral (trim code.toList) → (trim code.toList).countP isDecimal = 3) := by
  refine ⟨status_of_isPassedOver, fun r code h hcode => ⟨fun hnot => ?_, fun hnumeral => ?_⟩, ?_⟩
  · rw [status_eq h hcode, if_neg hnot]
    rfl
  · obtain ⟨k, hk, hlow, hhigh⟩ := value_of_two (h.two_prefix hcode)
    rw [status_eq h hcode, if_pos hnumeral]
    exact ⟨rfl, k, hk, by exact_mod_cast hlow, by exact_mod_cast hhigh⟩
  · constructor
    · exact fun hstatus r code h hcode => (status_mem_iff h hcode).mp hstatus
    · intro hcodes
      rcases hfirst : firstSuccess? op.responses with - | r
      · rw [status_of_isPassedOver (firstSuccess?_eq_none_iff.mp hfirst)]
        decide
      · have h := firstSuccess?_eq_some_iff.mp hfirst
        obtain ⟨code, hcode⟩ := h.exists_code
        exact (status_mem_iff h hcode).mpr (hcodes r code h hcode)

/-- A code of three digits in two groups and two scripts, after a response that is passed over; a code
that stands for several statuses; and no success at all. -/
theorem Operation.success_status_iff_grouped :
    let missing : Response := ⟨some "404", none, none⟩
    let created : Response := ⟨some " 2_0٤ ", none, none⟩
    let several : Response := ⟨some "2XX", none, none⟩
    let op : Operation := ⟨"", "", "", none, [], [], [], [], none,
      [some missing, some created, some ⟨some "2000", none, none⟩], none⟩
    let vague : Operation := { op with responses := [some several] }
    let failing : Operation := { op with responses := [none, some missing] }
    (IsFirstSuccess op.responses created ∧ IsNumeral (trim " 2_0٤ ".toList) ∧
      op.success.status = 204 ∧ 200 ≤ op.success.status ∧ op.success.status ≤ 299) ∧
    (IsFirstSuccess vague.responses several ∧ ¬ IsNumeral (trim "2XX".toList) ∧
      vague.success.status = 200) ∧
    (∀ x ∈ failing.responses, IsPassedOver x) ∧ failing.success.status = 200 := by
  intro missing created several op vague failing
  have hfirst : IsFirstSuccess op.responses created := ⟨[some missing], _, rfl, by decide, by decide⟩
  have hnumeral : IsNumeral (trim " 2_0٤ ".toList) := by decide
  have hvague : IsFirstSuccess vague.responses several := ⟨[], _, rfl, by decide, by decide⟩
  have hnot : ¬ IsNumeral (trim "2XX".toList) := by decide
  have hpassed : ∀ x ∈ failing.responses, IsPassedOver x := by decide
  have hstatus := ((success_status_iff op).2.1 created _ hfirst rfl).2 hnumeral
  refine ⟨⟨hfirst, hnumeral, hstatus.1.trans (by decide), ?_⟩, ?_, ?_⟩
  · refine (success_status_iff op).2.2.mpr fun r code hr hcode _ => ?_
    obtain rfl : created = r := Option.some.inj <|
      (firstSuccess?_eq_some_iff.mpr hfirst).symm.trans (firstSuccess?_eq_some_iff.mpr hr)
    obtain rfl : " 2_0٤ " = code := Option.some.inj hcode
    decide
  · exact ⟨hvague, hnot, ((success_status_iff vague).2.1 several _ hvague rfl).1 hnot⟩
  · exact ⟨hpassed, (success_status_iff failing).1 hpassed⟩

/-- A code of four digits is read as it stands, and the operation succeeds with a number that is no
status. -/
theorem Operation.success_status_thousands :
    let op : Operation := ⟨"", "", "", none, [], [], [], [], none,
      [some ⟨some "2000", none, none⟩], none⟩
    op.success = ⟨2000, none⟩ ∧ ¬ (200 ≤ op.success.status ∧ op.success.status ≤ 299) := by
  decide

end StubPlan
