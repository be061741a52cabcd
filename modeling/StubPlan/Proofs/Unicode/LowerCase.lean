import Mathlib.Tactic.Common
import StubPlan.Unicode.LetterCase

/-! Lower case brings in small letters only, and leaves the small letters of the Latin script as they
are. A text in lower case is its own lower case, since no mapping leads to a character that another one
changes. -/
namespace StubPlan.Unicode

/-- What holds of the characters with some code points holds of a character with one of them. -/
lemma of_forall_ofNat {P : Char → Prop} {points : List Nat} {c : Char}
    (h : ∀ n ∈ points, P (Char.ofNat n)) (hc : c.toNat ∈ points) : P c := by
  have hpoint := h c.toNat hc
  rwa [Char.ofNat_toNat] at hpoint

/-- The images of the lower case mappings are code points of characters, from the small letters
on. -/
lemma lowerRuns_images : (lowerRuns.all fun (first, last, _, image) =>
    Nat.ble 0x61 image && (Nat.blt (image + (last - first)) 0xD800 ||
      Nat.blt 0xDFFF image && Nat.blt (image + (last - first)) 0x110000)) = true := by
  decide +kernel

lemma toNat_ofNat_of_isValidChar {n : Nat} (h : n.isValidChar) : (Char.ofNat n).toNat = n := by
  rw [Char.ofNat, dif_pos h]
  rfl

lemma toNat_ofNat_lowerImage {n m : Nat} (h : runImage? lowerRuns n = some m) :
    0x61 ≤ m ∧ (Char.ofNat m).toNat = m := by
  obtain ⟨⟨first, last, step, image⟩, hrun, rfl⟩ := Option.map_eq_some_iff.mp h
  have himage := List.all_eq_true.mp lowerRuns_images _ (List.mem_of_find?_eq_some hrun)
  have hin := List.find?_some hrun
  simp only [Bool.and_eq_true, Bool.or_eq_true, decide_eq_true_eq, beq_iff_eq, Nat.ble_eq,
    Nat.blt_eq] at himage hin
  have hvalid : (image + (n - first)).isValidChar := by
    unfold Nat.isValidChar
    omega
  refine ⟨?_, ?_⟩
  · change 0x61 ≤ image + (n - first)
    omega
  · change (Char.ofNat (image + (n - first))).toNat = image + (n - first)
    exact toNat_ofNat_of_isValidChar hvalid

/-- Lower case brings in no characters before the small letters. -/
lemma mem_lowerChar {c x : Char} (h : x ∈ lowerChar c) (hx : x.toNat < 0x61) : x = c := by
  unfold lowerChar at h
  split at h
  · simp only [List.mem_cons, List.not_mem_nil, or_false] at h
    rcases h with rfl | rfl
    · exact absurd hx (by decide)
    · exact absurd hx (by decide)
  · split at h
    · next m hm =>
      obtain ⟨hlow, hnat⟩ := toNat_ofNat_lowerImage hm
      rw [List.mem_singleton] at h
      subst h
      omega
    · exact List.mem_singleton.mp h

lemma mem_lowerFrom {before s : List Char} {x : Char} (h : x ∈ lowerFrom before s)
    (hx : x.toNat < 0x61) : x ∈ s := by
  induction s generalizing before with
  | nil => exact h
  | cons c rest ih =>
    rw [lowerFrom] at h
    rcases List.mem_append.mp h with h | h
    · split at h
      · split at h <;> rw [List.mem_singleton] at h <;> subst h <;> exact absurd hx (by decide)
      · rw [mem_lowerChar h hx]
        exact List.mem_cons_self
    · exact List.mem_cons_of_mem c (ih h)

/-- Lower case keeps the text's own characters before the small letters and adds none. -/
lemma mem_lower {s : List Char} {x : Char} (h : x ∈ lower s) (hx : x.toNat < 0x61) : x ∈ s :=
  mem_lowerFrom h hx

/-- The runs after the first one hold none of the first characters. -/
lemma lowerRuns_tail : (lowerRuns.tail.all fun run => Nat.ble 128 run.1) = true := by decide +kernel

/-- No run holds one of the first characters that is no capital. -/
lemma runImage?_lowerRuns_eq_none {n : Nat} (h : n < 128) (hcapital : n ∉ List.range' 65 26) :
    runImage? lowerRuns n = none := by
  have hruns : lowerRuns = (0x41, 0x5A, 1, 0x61) :: lowerRuns.tail := rfl
  rw [runImage?, Option.map_eq_none_iff, List.find?_eq_none, hruns, List.forall_mem_cons]
  rw [List.mem_range'_1] at hcapital
  constructor
  · simp only [Bool.and_eq_true, decide_eq_true_eq]
    omega
  · intro run hrun
    have hfirst := Nat.le_of_ble_eq_true (List.all_eq_true.mp lowerRuns_tail run hrun)
    simp only [Bool.and_eq_true, decide_eq_true_eq]
    omega

lemma toLower_eq_self {c : Char} (h : c.isUpper = false) : c.toLower = c :=
  dif_neg (of_decide_eq_false h)

/-- Of the first characters lower case changes the capitals only, each on its own. -/
lemma lowerChar_of_lt {c : Char} (h : c.toNat < 128) : lowerChar c = [c.toLower] := by
  by_cases hcapital : c.toNat ∈ List.range' 65 26
  · exact of_forall_ofNat (P := fun c => lowerChar c = [c.toLower]) (by decide) hcapital
  · have hdotted : c.toNat ≠ 0x130 := by omega
    have hupper : c.isUpper = false := decide_eq_false fun hupper =>
      hcapital (List.mem_range'_1.mpr ⟨hupper.1, Nat.lt_succ_of_le hupper.2⟩)
    rw [lowerChar, if_neg hdotted, runImage?_lowerRuns_eq_none h hcapital, toLower_eq_self hupper]

lemma lower_eq_map {s : List Char} (h : ∀ c ∈ s, c.toNat < 128) : lower s = s.map Char.toLower := by
  have hfrom : ∀ before, lowerFrom before s = s.map Char.toLower := by
    induction s with
    | nil => exact fun _ => rfl
    | cons c rest ih =>
      intro before
      rw [List.forall_mem_cons] at h
      have hsigma : c.toNat ≠ 0x3A3 := by omega
      rw [lowerFrom, if_neg hsigma, lowerChar_of_lt h.1, ih h.2]
      rfl
  exact hfrom []

/-- Lower case with the characters of most texts, the first ones, each on its own. -/
def lowerShort (s : List Char) : List Char :=
  if s.all fun c => Nat.blt c.toNat 128 then s.map Char.toLower else lower s

/-- Evaluated in this form, a text of the first characters needs none of the tables. -/
lemma lower_eq_lowerShort (s : List Char) : lower s = lowerShort s := by
  unfold lowerShort
  split
  · next h => exact lower_eq_map fun c hc => Nat.blt_eq.mp (List.all_eq_true.mp h c hc)
  · rfl

section Settled

/-- Sets of code points, each given by the bits of a number, as one set. -/
def bitUnion (sets : List Nat) : Nat := sets.foldr (· ||| ·) 0

lemma testBit_bitUnion {sets : List Nat} {n : Nat} :
    (bitUnion sets).testBit n ↔ ∃ set ∈ sets, set.testBit n := by
  induction sets with
  | nil => simp [bitUnion]
  | cons set sets ih =>
    rw [bitUnion, List.foldr_cons, ← bitUnion, Nat.testBit_or, Bool.or_eq_true, ih]
    simp only [List.mem_cons, exists_eq_or_imp]

/-- The code points from one to another in steps. -/
def runBits (first last step : Nat) : Nat :=
  bitUnion ((List.range' first ((last - first) / step + 1) step).map (1 <<< ·))

lemma testBit_runBits {first last step n : Nat} (hfirst : first ≤ n) (hlast : n ≤ last)
    (hstep : (n - first) % step = 0) : (runBits first last step).testBit n := by
  have hdiv : step * ((n - first) / step) = n - first :=
    Nat.mul_div_cancel' (Nat.dvd_of_mod_eq_zero hstep)
  have hle : (n - first) / step ≤ (last - first) / step := Nat.div_le_div_right (by omega)
  have hmem : n ∈ List.range' first ((last - first) / step + 1) step :=
    List.mem_range'.mpr ⟨(n - first) / step, Nat.lt_succ_of_le hle, by omega⟩
  have hbit : (1 <<< n).testBit n := by
    rw [Nat.one_shiftLeft]
    exact Nat.testBit_two_pow_self
  exact testBit_bitUnion.mpr ⟨1 <<< n, List.mem_map_of_mem hmem, hbit⟩

/-- The code points that lower case changes. -/
def lowerSources : Nat :=
  bitUnion (runBits 0x130 0x130 1 ::
    lowerRuns.map fun (first, last, step, _) => runBits first last step)

/-- The code points that single characters are mapped to. -/
def lowerImages : Nat :=
  bitUnion (lowerRuns.map fun (first, last, step, image) =>
    runBits image (image + (last - first)) step)

/-- No mapping leads to a code point that lower case changes. On bits this is one operation, where each
pair of runs would have to be compared. -/
lemma lowerImages_and_lowerSources : lowerImages &&& lowerSources = 0 := by decide +kernel

lemma testBit_of_runImage? {n m : Nat} (h : runImage? lowerRuns n = some m) :
    lowerSources.testBit n ∧ lowerImages.testBit m := by
  obtain ⟨⟨first, last, step, image⟩, hrun, rfl⟩ := Option.map_eq_some_iff.mp h
  have hmem := List.mem_of_find?_eq_some hrun
  have hin := List.find?_some hrun
  simp only [Bool.and_eq_true, decide_eq_true_eq, beq_iff_eq] at hin
  obtain ⟨⟨hfirst, hlast⟩, hstep⟩ := hin
  constructor
  · exact testBit_bitUnion.mpr ⟨runBits first last step,
      List.mem_cons_of_mem _ (List.mem_map.mpr ⟨_, hmem, rfl⟩), testBit_runBits hfirst hlast hstep⟩
  · refine testBit_bitUnion.mpr ⟨runBits image (image + (last - first)) step,
      List.mem_map.mpr ⟨_, hmem, rfl⟩, testBit_runBits (Nat.le_add_right _ _) ?_ ?_⟩
    · exact Nat.add_le_add_left (Nat.sub_le_sub_right hlast first) image
    · rwa [Nat.add_sub_cancel_left]

/-- What a character is mapped to is not mapped on. -/
lemma runImage?_lowerRuns_image {n m : Nat} (h : runImage? lowerRuns n = some m) :
    m ≠ 0x130 ∧ runImage? lowerRuns m = none := by
  have hm : lowerSources.testBit m = false := by
    have hboth := congrArg (Nat.testBit · m) lowerImages_and_lowerSources
    simpa only [Nat.testBit_and, (testBit_of_runImage? h).2, Bool.true_and, Nat.zero_testBit] using hboth
  constructor
  · rintro rfl
    have hdotted : lowerSources.testBit 0x130 := testBit_bitUnion.mpr
      ⟨runBits 0x130 0x130 1, List.mem_cons_self, testBit_runBits (Nat.le_refl _) (Nat.le_refl _) rfl⟩
    exact Bool.false_ne_true (hm.symm.trans hdotted)
  · rw [Option.eq_none_iff_forall_ne_some]
    intro k hk
    exact Bool.false_ne_true (hm.symm.trans (testBit_of_runImage? hk).1)

/-- What lower case brings in besides the images of the table stays as it is; a capital
sigma does not. -/
lemma lowerChar_special : lowerChar 'i' = ['i'] ∧ lowerChar (Char.ofNat 0x307) = [Char.ofNat 0x307] ∧
    lowerChar (Char.ofNat 0x3C2) = [Char.ofNat 0x3C2] ∧
    lowerChar (Char.ofNat 0x3C3) = [Char.ofNat 0x3C3] ∧
    lowerChar (Char.ofNat 0x3A3) ≠ [Char.ofNat 0x3A3] := by
  decide +kernel

/-- The lower case of a character has no other lower case than itself. -/
lemma lowerChar_of_mem_lowerChar {c x : Char} (h : x ∈ lowerChar c) : lowerChar x = [x] := by
  unfold lowerChar at h
  split at h
  · simp only [List.mem_cons, List.not_mem_nil, or_false] at h
    rcases h with rfl | rfl
    · exact lowerChar_special.1
    · exact lowerChar_special.2.1
  · next hdotted =>
    split at h
    · next m hm =>
      obtain ⟨hne, hnone⟩ := runImage?_lowerRuns_image hm
      rw [List.mem_singleton] at h
      rw [← (toNat_ofNat_lowerImage hm).2, ← h] at hne hnone
      rw [lowerChar, if_neg hne, hnone]
    · next hnone =>
      rw [List.mem_singleton] at h
      rw [h, lowerChar, if_neg hdotted, hnone]

lemma lowerChar_of_mem_lowerFrom {before s : List Char} {x : Char} (h : x ∈ lowerFrom before s) :
    lowerChar x = [x] := by
  induction s generalizing before with
  | nil => exact absurd h List.not_mem_nil
  | cons c rest ih =>
    rw [lowerFrom] at h
    rcases List.mem_append.mp h with h | h
    · split at h
      · split at h <;> rw [List.mem_singleton] at h <;> subst h
        · exact lowerChar_special.2.2.1
        · exact lowerChar_special.2.2.2.1
      · exact lowerChar_of_mem_lowerChar h
    · exact ih h

lemma lowerChar_of_mem_lower {s : List Char} {x : Char} (h : x ∈ lower s) : lowerChar x = [x] :=
  lowerChar_of_mem_lowerFrom h

/-- The texts in lower case are those of which each character is. -/
lemma lower_eq_self_iff {s : List Char} : lower s = s ↔ ∀ c ∈ s, lowerChar c = [c] := by
  constructor
  · intro h c hc
    rw [← h] at hc
    exact lowerChar_of_mem_lower hc
  · intro h
    have hfrom : ∀ before, lowerFrom before s = s := by
      induction s with
      | nil => exact fun _ => rfl
      | cons c rest ih =>
        intro before
        rw [List.forall_mem_cons] at h
        -- a capital sigma would not be in lower case, wherever it stands
        have hsigma : c.toNat ≠ 0x3A3 := by
          intro hsigma
          have hmapped : lowerChar c ≠ [c] := of_forall_ofNat (P := fun c => lowerChar c ≠ [c])
            (List.forall_mem_singleton.mpr lowerChar_special.2.2.2.2)
            (List.mem_singleton.mpr hsigma)
          exact hmapped h.1
        rw [lowerFrom, if_neg hsigma, h.1, ih h.2]
        rfl
    exact hfrom []

/-- Lower case leaves small letters, digits and underscores as they are. -/
lemma lower_eq_self {s : List Char} (h : ∀ c ∈ s, c.toNat < 128 ∧ c.isUpper = false) :
    lower s = s :=
  lower_eq_self_iff.mpr fun c hc => by
    rw [lowerChar_of_lt (h c hc).1, toLower_eq_self (h c hc).2]

end Settled

end StubPlan.Unicode
