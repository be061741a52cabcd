import Mathlib.Data.List.TakeWhile
import Mathlib.Tactic.Common
import StubPlan.Console.Wrap
import StubPlan.Proofs.Text.Split
import StubPlan.Proofs.Text.Trim

/-! Lines of a console against the text that they are the lines of. A text is broken at blanks and
inside words that are folded, and nothing but blanks is lost at a break. Only a part that is wider
than its line is cut off, and no part is when all characters take one cell and all words fit. -/
namespace StubPlan.Wrap
open Chars Unicode
open Text (isBlankChar)

/-- The parts that a text is broken into; the blanks at a break belong to no part. -/
inductive Broken : List Char → List (List Char) → Prop where
  | nil : Broken [] []
  | part (part : List Char) {gap rest : List Char} {parts : List (List Char)} (hgap : isBlank gap)
      (hrest : Broken rest parts) : Broken (part ++ gap ++ rest) (part :: parts)

/-- A text with its tabs as spaces. -/
def untabbed (text : List Char) : List Char :=
  ['\n'].intercalate ((splitAt '\n' text).map (expandTabsFrom 0))

namespace Broken

variable {a b gap : List Char} {ps qs : List (List Char)}

lemma append (ha : Broken a ps) (hb : Broken b qs) : Broken (a ++ b) (ps ++ qs) := by
  induction ha with
  | nil => exact hb
  | part part hgap _ ih =>
    rw [List.append_assoc]
    exact .part part hgap ih

/-- Blanks at the end may go with the last part. -/
lemma append_blank (h : Broken a ps) (hne : ps ≠ []) (hgap : isBlank gap) :
    Broken (a ++ gap) ps := by
  induction h with
  | nil => exact absurd rfl hne
  | @part part gap' rest parts hgap' hrest ih =>
    rcases eq_or_ne parts [] with rfl | hparts
    · obtain rfl : rest = [] := by cases hrest; rfl
      have hboth : isBlank (gap' ++ gap) := by
        rw [isBlank, List.all_append]
        exact Bool.and_eq_true_iff.mpr ⟨hgap', hgap⟩
      have := Broken.part part hboth .nil
      simpa using this
    · rw [List.append_assoc]
      exact .part part hgap' (ih hparts)

/-- Parts put together, each without some of the blanks at its end. -/
lemma flatten {trim : List Char → List Char}
    (htrim : ∀ p, ∃ gap, isBlank gap ∧ p = trim p ++ gap) (ps : List (List Char)) :
    Broken ps.flatten (ps.map trim) := by
  induction ps with
  | nil => exact .nil
  | cons p ps ih =>
    obtain ⟨gap, hgap, hp⟩ := htrim p
    have := Broken.part (trim p) hgap ih
    rwa [← hp] at this

/-- The parts of lines, with a line break after each but the last. -/
lemma intercalate {f : List Char → List (List Char)} {lines : List (List Char)}
    (h : ∀ line ∈ lines, Broken line (f line) ∧ f line ≠ []) :
    Broken (['\n'].intercalate lines) (lines.flatMap f) := by
  induction lines with
  | nil => exact .nil
  | cons line lines ih =>
    obtain ⟨hline, hne⟩ := h line List.mem_cons_self
    have hrest := ih fun l hl => h l (List.mem_cons_of_mem line hl)
    cases lines with
    | nil => simpa using hline
    | cons next lines =>
      rw [List.intercalate_cons_cons]
      exact (hline.append_blank hne (by decide)).append hrest

end Broken

section Words

/-- The words of a line that is not blank are the whole line. -/
lemma flatten_wordsFrom {word s : List Char} {ended : Bool}
    (h : ended ∨ isBlank (word.reverse ++ s) = false) :
    (wordsFrom word ended s).flatten = word.reverse ++ s := by
  induction s generalizing word ended with
  | nil =>
    rw [wordsFrom]
    rcases h with rfl | h
    · simp
    · have hword : isBlank word = false := by simpa [isBlank] using h
      simp [hword]
  | cons c rest ih =>
    rw [wordsFrom]
    split
    · next hc =>
      rw [ih]
      · simp
      · by_cases hword : isBlank word
        · rcases h with rfl | h
          · exact .inl rfl
          · exact .inr (by simpa using h)
        · exact .inl (by simp [hword])
    · next hc =>
      split
      · rw [List.flatten_cons, ih (.inr (by simp [isBlank, hc]))]
        simp
      · rw [ih (.inr (by simp [isBlank, hc]))]
        simp

lemma wordsFrom_of_isBlank {word s : List Char} (h : isBlank (word.reverse ++ s)) :
    wordsFrom word false s = [] := by
  induction s generalizing word with
  | nil =>
    have hword : isBlank word := by simpa [isBlank] using h
    simp [wordsFrom, hword]
  | cons c rest ih =>
    have hall : isBlank word ∧ isBlankChar c ∧ isBlank rest := by
      simpa [isBlank] using h
    rw [wordsFrom, if_pos hall.2.1, hall.1]
    exact ih (by simpa using h)

variable {line : List Char}

lemma words_of_isBlank (h : isBlank line) : words line = [] :=
  @wordsFrom_of_isBlank [] line (by simpa using h)

lemma flatten_words (h : isBlank line = false) : (words line).flatten = line :=
  flatten_wordsFrom (.inr (by simpa using h))

lemma flatten_chopFrom (width : Nat) (part : List Char) (used : Nat) (s : List Char) :
    (chopFrom width part used s).flatten = part.reverse ++ s := by
  induction s generalizing part used with
  | nil => simp [chopFrom]
  | cons c rest ih =>
    rw [chopFrom]
    split
    · rw [List.flatten_cons, ih]
      simp
    · rw [ih]
      simp

end Words

namespace Filling

variable {overflow : Overflow} {width : Nat}

lemma flatten_startLine (f : Filling) (text : List Char) :
    (f.startLine text).lines.flatten = f.lines.flatten ++ text := by
  rw [startLine]
  split
  · next h =>
    rw [Bool.and_eq_true, decide_eq_true_eq, decide_eq_true_eq] at h
    simp [lines, h.1, h.2]
  · simp [lines]

/-- Steps that each add a text to the lines add all of them. -/
lemma flatten_foldl {step : Filling → List Char → Filling}
    (hstep : ∀ f text, (step f text).lines.flatten = f.lines.flatten ++ text)
    (texts : List (List Char)) (f : Filling) :
    (texts.foldl step f).lines.flatten = f.lines.flatten ++ texts.flatten := by
  induction texts generalizing f with
  | nil => simp
  | cons text texts ih =>
    rw [List.foldl_cons, ih, hstep, List.flatten_cons, List.append_assoc]

/-- A word is added whole, however it is broken. -/
lemma flatten_add (f : Filling) (word : List Char) :
    (f.add overflow width word).lines.flatten = f.lines.flatten ++ word := by
  rw [add]
  split
  · simp [lines]
  · split
    · rw [flatten_foldl flatten_startLine, flatten_chopFrom]
      rfl
    · exact flatten_startLine f word

end Filling

section Lines

variable (overflow : Overflow) (width : Nat) (line : List Char)

lemma flatten_breakLine : (breakLine overflow width line).flatten = line := by
  rw [breakLine]
  split
  · simp
  · next hwords =>
    have hblank : isBlank line = false := by
      by_contra h
      exact hwords (words_of_isBlank (by simpa using h))
    rw [Filling.flatten_foldl Filling.flatten_add, flatten_words hblank]
    rfl

lemma breakLine_ne_nil : breakLine overflow width line ≠ [] := by
  rw [breakLine]
  split
  · simp
  · simp [Filling.lines]

/-- Only blanks are taken off the end of a line. -/
lemma exists_trimExcess_append : ∃ gap, isBlank gap ∧ line = trimExcess width line ++ gap := by
  obtain ⟨cut, hcut, hline⟩ := exists_dropEndWhile_append isBlankChar line
  refine ⟨_, ?_, (List.take_append_drop _ line).symm⟩
  refine List.all_eq_true.mpr fun c hc => hcut c ?_
  have hdrop : line.drop (dropEndWhile isBlankChar line).length = cut := by
    generalize dropEndWhile isBlankChar line = kept at hline ⊢
    rw [hline, List.drop_left]
  rw [← hdrop]
  exact (List.drop_suffix_drop_left line (le_max_left _ _)).subset hc

end Lines

/-- The parts that a text is broken into, before any of them is cut off. -/
def parts (overflow : Overflow) (width : Nat) (text : List Char) : List (List Char) :=
  ((splitAt '\n' text).map (expandTabsFrom 0)).flatMap fun line =>
    (breakLine overflow width line).map (trimExcess width)

lemma broken_parts (overflow : Overflow) (width : Nat) (text : List Char) :
    Broken (untabbed text) (parts overflow width text) := by
  refine .intercalate fun line _ => ⟨?_, by simpa using breakLine_ne_nil overflow width line⟩
  have := Broken.flatten (exists_trimExcess_append width) (breakLine overflow width line)
  rwa [flatten_breakLine] at this

lemma lines_eq (overflow : Overflow) (width : Nat) (text : List Char) :
    lines overflow width text = (parts overflow width text).map (truncate overflow width) := by
  rw [lines, parts, List.flatMap_map, List.map_flatMap]

/-- The length of a line without the blanks at its end. -/
def kept (line : List Char) : Nat := (dropEndWhile isBlankChar line).length

/-- Whether a text fits its lines: all characters but line breaks take one cell, and each word, with
the blanks before the first one, fits a line or can be folded. -/
structure Fits (overflow : Overflow) (width : Nat) (text : List Char) : Prop where
  single : ∀ c ∈ text, c = '\n' ∨ cellWidth c = 1
  words : ∀ line ∈ splitAt '\n' text, ∀ word ∈ words line,
    overflow = .fold ∧ 0 < width ∨ kept word ≤ width

section Single

variable {s : List Char} {overflow : Overflow} {width : Nat}

lemma cells_eq_length (h : ∀ c ∈ s, cellWidth c = 1) : cells s = s.length := by
  have hafter : ∀ last, cellsAfter last s = s.length := by
    induction s with
    | nil => exact fun _ => rfl
    | cons c rest ih =>
      intro last
      have hc := h c List.mem_cons_self
      rw [cellsAfter, hc, ih (fun x hx => h x (List.mem_cons_of_mem c hx)) (some c)]
      · simp [Nat.add_comm]
      · rintro x rest' rfl
        exact absurd hc (by decide +kernel)
      · rintro rfl
        exact absurd hc (by decide +kernel)
  exact hafter none

lemma expandTabsFrom_eq_self (h : ∀ c ∈ s, cellWidth c = 1) (column : Nat) :
    expandTabsFrom column s = s := by
  induction s generalizing column with
  | nil => rfl
  | cons c rest ih =>
    rw [expandTabsFrom, ih fun x hx => h x (List.mem_cons_of_mem c hx)]
    rintro rfl
    exact absurd (h '\t' List.mem_cons_self) (by decide +kernel)

/-- The parts of a folded word fit the width. -/
lemma length_le_of_mem_chopFrom {part : List Char} {used : Nat} (hwidth : 0 < width)
    (hs : ∀ c ∈ s, cellWidth c = 1) (hused : used = part.length) (hpart : part.length ≤ width) :
    ∀ p ∈ chopFrom width part used s, p.length ≤ width := by
  induction s generalizing part used with
  | nil => simpa [chopFrom] using hpart
  | cons c rest ih =>
    have hc := hs c List.mem_cons_self
    have hrest : ∀ x ∈ rest, cellWidth x = 1 := fun x hx => hs x (List.mem_cons_of_mem c hx)
    rw [chopFrom, hc]
    split
    · rw [List.forall_mem_cons, List.length_reverse]
      exact ⟨hpart, ih hrest rfl hwidth⟩
    · next hle => exact ih hrest (by simp [hused]) (by simp; omega)

lemma kept_append_le (a b : List Char) : kept (a ++ b) ≤ max (kept a) (a.length + kept b) := by
  rw [kept, dropEndWhile_append]
  split
  · exact le_max_left _ _
  · rw [List.length_append]
    exact le_max_right _ _

lemma kept_le_length (line : List Char) : kept line ≤ line.length :=
  (prefix_dropEndWhile isBlankChar line).length_le

/-- Lines are filled up to a width, blanks at their ends aside. -/
structure Filling.IsWithin (width : Nat) (f : Filling) : Prop where
  used : f.used = f.line.length
  kept : ∀ line ∈ f.lines, kept line ≤ width

namespace Filling.IsWithin

variable {f : Filling}

lemma mem_lines {line : List Char} : line ∈ f.lines ↔ line = f.line ∨ line ∈ f.full := by
  simp [Filling.lines, or_comm]

lemma startLine (h : f.IsWithin width) (hs : ∀ c ∈ s, cellWidth c = 1)
    (hkept : Wrap.kept s ≤ width) : (f.startLine s).IsWithin width := by
  rw [Filling.startLine]
  split
  · exact ⟨cells_eq_length hs, by simpa [Filling.lines] using hkept⟩
  · refine ⟨cells_eq_length hs, fun line hline => ?_⟩
    rcases mem_lines.mp hline with rfl | hline
    · exact hkept
    · exact h.kept line (mem_lines.mpr (List.mem_cons.mp hline))

/-- A word that fits a line or is folded leaves the lines within the width. -/
lemma add (h : f.IsWithin width) (hs : ∀ c ∈ s, cellWidth c = 1)
    (hword : overflow = .fold ∧ 0 < width ∨ Wrap.kept s ≤ width) :
    (f.add overflow width s).IsWithin width := by
  have hneeded : cells (dropEndWhile isBlankChar s) = Wrap.kept s :=
    cells_eq_length fun c hc => hs c ((prefix_dropEndWhile isBlankChar s).subset hc)
  rw [Filling.add, hneeded]
  split
  · next hle =>
    rw [h.used] at hle
    refine ⟨by simp [h.used, cells_eq_length hs], fun line hline => ?_⟩
    rcases mem_lines.mp hline with rfl | hline
    · exact (kept_append_le _ _).trans (max_le (h.kept _ (mem_lines.mpr (.inl rfl))) hle)
    · exact h.kept line (mem_lines.mpr (.inr hline))
  · split
    · next hfold =>
      rw [Bool.and_eq_true, decide_eq_true_eq, decide_eq_true_eq] at hfold
      have hwidth : 0 < width := (hword.resolve_right (by omega)).2
      refine List.foldlRecOn _ _ h fun g hg p hp => hg.startLine (fun c hc => hs c ?_) ?_
      · have hflatten := flatten_chopFrom width [] 0 s
        rw [List.reverse_nil, List.nil_append] at hflatten
        exact hflatten ▸ List.mem_flatten.mpr ⟨p, hp, hc⟩
      · exact (kept_le_length p).trans
          (length_le_of_mem_chopFrom hwidth hs rfl (Nat.zero_le _) p hp)
    · next hfold =>
      refine h.startLine hs (hword.elim (fun hf => ?_) id)
      by_contra hgt
      exact hfold (by simp [hf.1, Nat.lt_of_not_le hgt])

end Filling.IsWithin

lemma kept_of_isBlank {line : List Char} (h : isBlank line) : kept line = 0 := by
  have hall : line.all isBlankChar := h
  have hnil := dropEndWhile_append isBlankChar [] line
  rw [List.nil_append, if_pos hall] at hnil
  rw [kept, hnil]
  rfl

/-- No line is wider than the width, blanks at its end aside. -/
lemma kept_le_of_mem_breakLine (hs : ∀ c ∈ s, cellWidth c = 1)
    (hwords : ∀ word ∈ words s, overflow = .fold ∧ 0 < width ∨ kept word ≤ width) :
    ∀ line ∈ breakLine overflow width s, kept line ≤ width := by
  rcases hblank : isBlank s with - | -
  · have hflatten := flatten_words hblank
    have hwithin : ((words s).foldl (Filling.add overflow width) ⟨[], [], 0⟩).IsWithin width := by
      have hempty : Filling.IsWithin width ⟨[], [], 0⟩ :=
        ⟨rfl, by simp [Filling.lines, kept, dropEndWhile]⟩
      refine List.foldlRecOn _ _ hempty fun f hf word hword =>
        hf.add (fun c hc => hs c ?_) (hwords word hword)
      exact hflatten ▸ List.mem_flatten.mpr ⟨word, hword, hc⟩
    rw [breakLine]
    split
    · next hnil =>
      rw [hnil] at hflatten
      rw [← hflatten] at hblank
      exact absurd hblank (by decide)
    · exact hwithin.kept
  · rw [breakLine, words_of_isBlank hblank]
    dsimp only
    rw [List.forall_mem_singleton, kept_of_isBlank hblank]
    exact Nat.zero_le _

lemma length_trimExcess_le {line : List Char} (h : kept line ≤ width) :
    (trimExcess width line).length ≤ width := by
  have hmax : max (dropEndWhile isBlankChar line).length (min line.length width) ≤ width :=
    max_le h (min_le_right _ _)
  exact (List.length_take_le _ _).trans hmax

namespace Fits

variable {text : List Char}

lemma cellWidth_eq_one (h : Fits overflow width text) {line : List Char}
    (hline : line ∈ splitAt '\n' text) : ∀ c ∈ line, cellWidth c = 1 := by
  intro c hc
  obtain ⟨hsep, hin⟩ := mem_splitAt hline
  exact (h.single c (hin.subset hc)).resolve_left fun heq => hsep (heq ▸ hc)

lemma map_expandTabsFrom (h : Fits overflow width text) :
    (splitAt '\n' text).map (expandTabsFrom 0) = splitAt '\n' text :=
  (List.map_congr_left fun _ hline => expandTabsFrom_eq_self (h.cellWidth_eq_one hline) 0).trans
    (List.map_id _)

/-- A text that fits is not cut off: its lines are the parts that it is broken into. -/
theorem broken_lines (h : Fits overflow width text) :
    Broken text (lines overflow width text) := by
  have huntabbed : untabbed text = text := by
    rw [untabbed, h.map_expandTabsFrom, intercalate_splitAt]
  have hcells : ∀ p ∈ parts overflow width text, cells p ≤ width := by
    intro p hp
    rw [parts, h.map_expandTabsFrom, List.mem_flatMap] at hp
    obtain ⟨line, hline, hp⟩ := hp
    obtain ⟨part, hpart, rfl⟩ := List.mem_map.mp hp
    have hsingle := h.cellWidth_eq_one hline
    have hkept := kept_le_of_mem_breakLine hsingle (h.words line hline) part hpart
    have hwhole : ∀ c ∈ trimExcess width part, cellWidth c = 1 := fun c hc => by
      refine hsingle c ?_
      rw [← flatten_breakLine overflow width line]
      exact List.mem_flatten.mpr ⟨part, hpart, List.mem_of_mem_take hc⟩
    rw [cells_eq_length hwhole]
    exact length_trimExcess_le hkept
  have hparts := broken_parts overflow width text
  rw [huntabbed] at hparts
  have htruncate : ∀ p ∈ parts overflow width text, truncate overflow width p = id p :=
    fun p hp => if_pos (hcells p hp)
  rw [lines_eq, List.map_congr_left htruncate, List.map_id]
  exact hparts

end Fits

end Single

end StubPlan.Wrap
