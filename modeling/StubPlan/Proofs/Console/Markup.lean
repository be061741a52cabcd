import Mathlib.Algebra.GroupWithZero.Nat
import StubPlan.Console.Markup
import StubPlan.Proofs.Console.Emoji
import StubPlan.Proofs.Except
import StubPlan.Proofs.Text.Replace

/-! Which texts a console shows as they stand. Reading a text as markup never adds opening brackets
or backslashes to it, and every tag and every backslash before a bracket takes some away; so a text
that shows as it stands has none of them. -/
namespace StubPlan.Markup
open Chars

/-- A tag, which the console takes for markup: text in brackets that begins as tags do and holds no
other bracket. -/
def IsTag (t : List Char) : Prop :=
  ∃ c content, startsTag c ∧ (∀ x ∈ content, x ≠ ']' ∧ x ≠ '[') ∧ t = '[' :: c :: content ++ [']']

/-- A text that the console has nothing to do with: there is no tag in it, no bracket behind a
backslash, no name of an emoji and no control. -/
structure IsPlain (s : List Char) : Prop where
  noTag : ∀ t, IsTag t → ¬ t <:+: s
  noEscape : ¬ ['\\', '['] <:+: s
  noEmoji : Emoji.expand s = s
  noControl : ∀ c ∈ s, isControl c = false

/-- The characters that markup consists of. -/
def isMark (c : Char) : Bool := c = '[' || c = '\\'

section Tags

variable {s t : List Char} {f : Found}

/-- A tag that is found, with its backslashes. -/
def Found.written (f : Found) : List Char :=
  List.replicate f.slashes '\\' ++ '[' :: f.content ++ [']']

lemma Found.length_written (f : Found) : f.written.length = f.length := by
  simp [Found.written, Found.length]
  omega

lemma findTag?_eq_some (h : findTag? (· ≠ '[') s = some f) :
    IsTag ('[' :: f.content ++ [']']) ∧ ∃ rest, s = f.written ++ rest := by
  unfold findTag? at h
  split at h
  · next c rest hdrop =>
    dsimp only at h
    split at h
    · next hfound =>
      obtain rfl := Option.some.inj h
      rw [Bool.and_eq_true, decide_eq_true_eq] at hfound
      obtain ⟨hstart, hend⟩ := hfound
      set content := rest.takeWhile fun c => c ≠ ']' && decide (c ≠ '[') with hcontent
      have htake : content <+: rest := List.takeWhile_prefix _
      obtain ⟨after, hafter⟩ := htake
      obtain ⟨after, rfl⟩ : ∃ more, after = ']' :: more := by
        rw [← hafter, List.getElem?_append_right le_rfl, Nat.sub_self,
          ← List.head?_eq_getElem?] at hend
        exact ⟨after.tail, List.eq_cons_of_mem_head? hend⟩
      refine ⟨⟨c, content, hstart, fun x hx => ?_, rfl⟩, after, ?_⟩
      · simpa using List.mem_takeWhile_imp hx
      · have hslashes : s.takeWhile (· = '\\') =
            List.replicate (s.takeWhile (· = '\\')).length '\\' :=
          List.eq_replicate_iff.mpr ⟨rfl, fun x hx => by simpa using List.mem_takeWhile_imp hx⟩
        calc s = s.takeWhile (· = '\\') ++ s.dropWhile (· = '\\') :=
            (List.takeWhile_append_dropWhile).symm
          _ = _ := by
            rw [hdrop, ← hafter, Found.written, ← hslashes]
            simp
    · exact absurd h (by simp)
  · exact absurd h (by simp)

lemma findTag?_of_isTag (h : IsTag t) (rest : List Char) :
    findTag? (· ≠ '[') (t ++ rest) ≠ none := by
  obtain ⟨c, content, hstart, hcontent, rfl⟩ := h
  have hnot : ∀ x ∈ content, (x ≠ ']' && decide (x ≠ '[')) = true := by simpa using hcontent
  have htake :
      ((content ++ ']' :: rest).takeWhile fun c => c ≠ ']' && decide (c ≠ '[')) = content := by
    rw [List.takeWhile_append_of_pos hnot]
    simp
  have hdrop : ('[' :: c :: (content ++ ']' :: rest)).dropWhile (· = '\\') =
      '[' :: c :: (content ++ ']' :: rest) := rfl
  simp only [findTag?, List.cons_append, List.append_assoc, List.nil_append, hdrop, htake]
  simp [hstart]

/-- A text has no tag when none is found at any place of it. -/
lemma forall_findTag?_iff :
    (∀ u, u <:+ s → findTag? (· ≠ '[') u = none) ↔ ∀ t, IsTag t → ¬ t <:+: s := by
  constructor
  · rintro h t ht ⟨a, b, hs⟩
    exact findTag?_of_isTag ht b (h (t ++ b) ⟨a, by rw [← hs, List.append_assoc]⟩)
  · intro h u hu
    by_contra hne
    obtain ⟨f, hf⟩ := Option.ne_none_iff_exists'.mp hne
    obtain ⟨htag, rest, hrest⟩ := findTag?_eq_some hf
    have hin : '[' :: f.content ++ [']'] <:+: u :=
      ⟨List.replicate f.slashes '\\', rest, by rw [hrest, Found.written]; simp⟩
    exact h _ htag (hin.trans hu.isInfix)

lemma findTag?_cons {c : Char} (h : isMark c = false) : findTag? (· ≠ '[') (c :: s) = none := by
  rw [isMark, Bool.or_eq_false_iff, decide_eq_false_iff_not, decide_eq_false_iff_not] at h
  have hdrop : (c :: s).dropWhile (· = '\\') = c :: s := by simp [h.2]
  rw [findTag?, hdrop]
  split
  · next heq => exact absurd (List.cons.inj heq).1 h.1
  · rfl

end Tags

section Pieces

variable {s plain : List Char} {opened : List Part}

def Piece.marks : Piece → Nat
  | .text s => s.countP isMark
  | .tag _ => 0

/-- The marks of pieces together. -/
def marks (ps : List Piece) : Nat := (ps.map Piece.marks).sum

lemma marks_append (ps qs : List Piece) : marks (ps ++ qs) = marks ps + marks qs := by
  simp [marks]

/-- The text before a tag as a piece, if there is any. -/
lemma marks_plain (plain : List Char) :
    marks (if plain = [] then [] else [.text plain.reverse]) = plain.countP isMark := by
  split
  · next h => rw [h]; rfl
  · simp [marks, Piece.marks]

/-- A tag that is found stands for fewer marks than it is written with. -/
lemma marks_found (f : Found) : marks f.pieces < f.written.countP isMark := by
  have hwritten : f.written.countP isMark = f.slashes + 1 + f.content.countP isMark := by
    simp [Found.written, List.countP_append, List.countP_replicate, isMark]
    omega
  have hslashes : marks (if List.replicate (f.slashes / 2) '\\' = [] then []
      else [.text (List.replicate (f.slashes / 2) '\\')]) = f.slashes / 2 := by
    simpa [isMark, List.countP_replicate] using marks_plain (List.replicate (f.slashes / 2) '\\')
  have htext : marks [.text ('[' :: f.content ++ [']'])] = 1 + f.content.countP isMark := by
    simp [marks, Piece.marks, List.countP_append, isMark]
    omega
  rw [Found.pieces, marks_append, hslashes, hwritten]
  split
  · rw [htext]
    omega
  · have : marks [.tag f.content] = 0 := rfl
    omega

/-- The text after a tag that begins with the first character of a text. -/
lemma drop_of_eq_written {f : Found} {c : Char} {rest after : List Char}
    (h : c :: rest = f.written ++ after) : rest.drop (f.length - 1) = after := by
  have hlen : f.length = (f.length - 1) + 1 := by simp [Found.length]
  rw [← List.drop_succ_cons (a := c), ← hlen, h, ← f.length_written, List.drop_left]

/-- The pieces of a text have no more marks than the text, and fewer if a tag is found in it. -/
lemma marks_piecesAfter (plain : List Char) (skip : Nat) (s : List Char) :
    marks (piecesAfter plain skip s) ≤ plain.countP isMark + (s.drop skip).countP isMark ∧
    ((∃ u, u <:+ s.drop skip ∧ findTag? (· ≠ '[') u ≠ none) →
      marks (piecesAfter plain skip s) < plain.countP isMark + (s.drop skip).countP isMark) := by
  induction s generalizing plain skip with
  | nil =>
    rw [piecesAfter, marks_plain, List.drop_nil]
    refine ⟨le_rfl, ?_⟩
    rintro ⟨u, hu, hne⟩
    rw [List.suffix_nil.mp hu] at hne
    exact absurd rfl hne
  | cons c rest ih =>
    rcases skip with - | skip
    · rw [piecesAfter, List.drop_zero]
      rcases hf : findTag? (· ≠ '[') (c :: rest) with - | f
      · dsimp only
        have hcount : (c :: plain).countP isMark + rest.countP isMark =
            plain.countP isMark + (c :: rest).countP isMark := by
          rw [List.countP_cons, List.countP_cons]
          omega
        rw [← hcount]
        refine ⟨(ih (c :: plain) 0).1, ?_⟩
        rintro ⟨u, hu, hne⟩
        rcases List.suffix_cons_iff.mp hu with rfl | hu
        · exact absurd hf hne
        · exact (ih (c :: plain) 0).2 ⟨u, hu, hne⟩
      · dsimp only
        obtain ⟨-, after, hafter⟩ := findTag?_eq_some hf
        have htag := marks_found f
        have hrest := (ih [] (f.length - 1)).1
        rw [drop_of_eq_written hafter, List.countP_nil] at hrest
        rw [marks_append, marks_append, marks_plain, hafter, List.countP_append]
        exact ⟨by omega, fun _ => by omega⟩
    · exact ih plain skip

/-- A text in which no tag is found is one piece. -/
lemma piecesAfter_of_noTag (h : ∀ u, u <:+ s → findTag? (· ≠ '[') u = none) :
    piecesAfter plain 0 s =
      if s.reverse ++ plain = [] then [] else [.text (s.reverse ++ plain).reverse] := by
  induction s generalizing plain with
  | nil => rfl
  | cons c rest ih =>
    have hrest : ∀ u, u <:+ rest → findTag? (· ≠ '[') u = none :=
      fun u hu => h u (hu.trans (List.suffix_cons c rest))
    rw [piecesAfter, h _ (List.suffix_refl _), ih hrest]
    simp

end Pieces

section Text

variable {s t : List Char} {opened : List Part}

/-- What shows of the text of a piece, but for controls. -/
def visible (s : List Char) : List Char := Emoji.expand (replace ['\\', '['] ['['] s)

lemma textOf_plain (plain : List Char) (ps : List Piece) :
    textOf opened ((if plain = [] then [] else [.text plain.reverse]) ++ ps) =
      (textOf opened ps).map (visible plain.reverse ++ ·) := by
  split
  · next h =>
    subst h
    have hnil : visible ([] : List Char).reverse = [] := by
      simp [visible, replace, replaceAfter, Emoji.expand]
    rw [hnil]
    rcases h : textOf opened ps with e | t <;> simp [h, Except.map]
  · rfl

lemma checkStyles_plain (plain : List Char) (ps : List Piece) :
    checkStyles ((if plain = [] then [] else [.text plain.reverse]) ++ ps) = checkStyles ps := by
  split <;> rfl

lemma not_isMark_of_isOrdinary {c : Char} (h : Emoji.isOrdinary c) : isMark c = false := by
  rw [isMark, Bool.or_eq_false_iff, decide_eq_false_iff_not, decide_eq_false_iff_not]
  constructor <;> rintro rfl <;> exact absurd h (by decide)

/-- A backslash before a bracket does not show, and emoji bring none. -/
lemma countP_visible (s : List Char) : (visible s).countP isMark ≤ s.countP isMark ∧
    (['\\', '['] <:+: s → (visible s).countP isMark < s.countP isMark) := by
  have hemoji := Emoji.countP_expand_le (fun _ => not_isMark_of_isOrdinary)
    (replace ['\\', '['] ['['] s)
  obtain ⟨hle, hlt⟩ := @countP_replace ['\\', '['] ['['] isMark (by simp) (by decide) s
  exact ⟨hemoji.trans hle, fun h => hemoji.trans_lt (hlt h)⟩

/-- The text that is read from pieces has no more marks than they have. -/
lemma countP_textOf_le {ps : List Piece} (h : textOf opened ps = .ok t) :
    t.countP isMark ≤ marks ps := by
  induction ps generalizing opened t with
  | nil =>
    obtain rfl : [] = t := by simpa [textOf] using h
    exact le_rfl
  | cons piece rest ih =>
    cases piece with
    | text s =>
      obtain ⟨u, hu, rfl⟩ := Except.map_eq_ok_iff.mp h
      have hrest := ih hu
      have hs := (countP_visible s).1
      rw [List.countP_append]
      exact Nat.add_le_add hs hrest
    | tag content =>
      obtain ⟨more, -, hmore⟩ := Except.bind_eq_ok_iff.mp h
      exact (ih hmore).trans (by simp [marks, Piece.marks])

/-- What shows is what is read from the pieces, without controls. -/
lemma shown_eq_ok_iff : shown s = .ok t ↔
    ∃ u, textOf [] (pieces s) = .ok u ∧ checkStyles (pieces s) = .ok () ∧
      u.filter (!isControl ·) = t := by
  simp only [shown, pure, Except.pure, Except.bind_eq_ok_iff, Except.ok.injEq]
  refine exists_congr fun u => and_congr_right fun _ => ?_
  constructor
  · rintro ⟨⟨⟩, h⟩
    exact h
  · exact fun h => ⟨(), h⟩

/-- A text without tags is read as one piece. -/
lemma shown_of_noTag (h : ∀ t, IsTag t → ¬ t <:+: s) :
    shown s = .ok ((visible s).filter (!isControl ·)) := by
  have hpieces : pieces s = (if s.reverse = [] then [] else [.text s.reverse.reverse]) ++ [] := by
    rw [pieces, piecesAfter_of_noTag (forall_findTag?_iff.mpr h), List.append_nil, List.append_nil]
  refine shown_eq_ok_iff.mpr ⟨visible s, ?_, ?_, rfl⟩
  · rw [hpieces, textOf_plain]
    simp [textOf, Except.map]
  · rw [hpieces, checkStyles_plain]
    rfl

/-- No mark is a control. -/
lemma countP_filter_isControl (u : List Char) :
    (u.filter (!isControl ·)).countP isMark = u.countP isMark := by
  rw [List.countP_filter]
  refine List.countP_congr fun c _ => ?_
  rw [Bool.and_eq_true, and_iff_left_iff_imp]
  intro hmark
  rw [isMark, Bool.or_eq_true, decide_eq_true_eq, decide_eq_true_eq] at hmark
  rcases hmark with rfl | rfl <;> decide

lemma not_isControl_of_isOrdinary {c : Char} (h : Emoji.isOrdinary c) : isControl c = false := by
  simp only [Emoji.isOrdinary, isControl, Bool.or_eq_true, Bool.and_eq_true, decide_eq_true_eq,
    Bool.or_eq_false_iff, decide_eq_false_iff_not] at h ⊢
  omega

/-- A text shows as it stands exactly when the console has nothing to do with it. -/
theorem shown_eq_self_iff : shown s = .ok s ↔ IsPlain s := by
  constructor
  · intro h
    have hnoTag : ∀ t, IsTag t → ¬ t <:+: s := by
      obtain ⟨u, hu, -, hfilter⟩ := shown_eq_ok_iff.mp h
      refine forall_findTag?_iff.mp ?_
      by_contra hfound
      push Not at hfound
      obtain ⟨v, hv, hne⟩ := hfound
      have hlt : marks (pieces s) < s.countP isMark := by
        simpa [pieces] using (marks_piecesAfter [] 0 s).2 ⟨v, hv, hne⟩
      have hle := countP_textOf_le hu
      rw [← countP_filter_isControl, hfilter] at hle
      omega
    have hvisible : (visible s).filter (!isControl ·) = s := by
      simpa using (shown_of_noTag hnoTag).symm.trans h
    have hnoControl : ∀ c ∈ s, isControl c = false := by
      intro c hc
      rw [← hvisible] at hc
      simpa using (List.mem_filter.mp hc).2
    have hnoEscape : ¬ ['\\', '['] <:+: s := by
      intro hin
      have hlt := (countP_visible s).2 hin
      rw [← countP_filter_isControl, hvisible] at hlt
      exact lt_irrefl _ hlt
    rw [visible, replace_eq_self hnoEscape] at hvisible
    have hcontrols : (Emoji.expand s).countP isControl = 0 :=
      Nat.le_zero.mp ((Emoji.countP_expand_le (fun _ => not_isControl_of_isOrdinary) s).trans_eq
        (List.countP_eq_zero.mpr fun c hc => by simp [hnoControl c hc]))
    have hkept : (Emoji.expand s).filter (!isControl ·) = Emoji.expand s :=
      List.filter_eq_self.mpr fun c hc => by simpa using List.countP_eq_zero.mp hcontrols c hc
    exact ⟨hnoTag, hnoEscape, hkept.symm.trans hvisible, hnoControl⟩
  · intro h
    rw [shown_of_noTag h.noTag, visible, replace_eq_self h.noEscape, h.noEmoji,
      List.filter_eq_self.mpr fun c hc => by simp [h.noControl c hc]]

example : (shown "[b]Shop".toList).toOption = some "Shop".toList := by decide +kernel

end Text

/-- The characters that mean nothing to the console wherever they stand. -/
def isInert (c : Char) : Bool := !isMark c && c ≠ ':' && !isControl c

section Inert

variable {a s : List Char}

lemma isMark_of_isInert {c : Char} (h : isInert c) : isMark c = false := by
  simp_all [isInert]

lemma colon_not_mem (h : ∀ c ∈ a, isInert c) : ':' ∉ a := fun hc => absurd (h _ hc) (by decide)

lemma isPlain_of_isInert (h : ∀ c ∈ s, isInert c) : IsPlain s := by
  have hbracket : '[' ∉ s := fun hc => absurd (h _ hc) (by decide)
  refine ⟨?_, fun hin => hbracket (hin.subset (by simp)),
    Emoji.expand_eq_self (colon_not_mem h), fun c hc => ?_⟩
  · rintro t ⟨c, content, -, -, rfl⟩ hin
    exact hbracket (hin.subset (by simp))
  · have := h c hc
    simp_all [isInert]

lemma visible_append (h : ∀ c ∈ a, isInert c) (s : List Char) :
    visible (a ++ s) = a ++ visible s := by
  have hslash : '\\' ∉ a := fun hc => absurd (h _ hc) (by decide)
  rw [visible, replace_append_of_not_mem hslash, Emoji.expand_append (colon_not_mem h), visible]

lemma piecesAfter_append (h : ∀ c ∈ a, isInert c) (plain s : List Char) :
    piecesAfter plain 0 (a ++ s) = piecesAfter (a.reverse ++ plain) 0 s := by
  induction a generalizing plain with
  | nil => rfl
  | cons c a ih =>
    rw [List.cons_append, piecesAfter, findTag?_cons (isMark_of_isInert (h c List.mem_cons_self))]
    dsimp only
    rw [ih fun x hx => h x (List.mem_cons_of_mem c hx)]
    simp

/-- Inert text before the rest of a text stands in its first piece, and stays there as it is. -/
lemma textOf_piecesAfter (h : ∀ c ∈ a, isInert c) (opened : List Part) (plain s : List Char) :
    textOf opened (piecesAfter (plain ++ a.reverse) 0 s) =
        (textOf opened (piecesAfter plain 0 s)).map (a ++ ·) ∧
      checkStyles (piecesAfter (plain ++ a.reverse) 0 s) = checkStyles (piecesAfter plain 0 s) := by
  have hfirst : ∀ plain ps, textOf opened ((if plain ++ a.reverse = [] then []
      else [.text (plain ++ a.reverse).reverse]) ++ ps) =
      (textOf opened ((if plain = [] then [] else [.text plain.reverse]) ++ ps)).map (a ++ ·) := by
    intro plain ps
    rw [textOf_plain, textOf_plain, List.reverse_append, List.reverse_reverse, visible_append h]
    rcases textOf opened ps with e | t <;> simp [Except.map]
  induction s generalizing plain with
  | nil =>
    rw [piecesAfter, piecesAfter, ← List.append_nil (if plain ++ a.reverse = [] then _ else _),
      ← List.append_nil (if plain = [] then _ else _), hfirst, checkStyles_plain, checkStyles_plain]
    exact ⟨rfl, rfl⟩
  | cons c rest ih =>
    rw [piecesAfter, piecesAfter]
    rcases findTag? (· ≠ '[') (c :: rest) with - | f
    · exact ih (c :: plain)
    · dsimp only
      rw [List.append_assoc, List.append_assoc, hfirst, checkStyles_plain, checkStyles_plain]
      exact ⟨rfl, rfl⟩

/-- Inert text before a text shows before what shows of it. -/
lemma shown_append (h : ∀ c ∈ a, isInert c) (s : List Char) :
    shown (a ++ s) = (shown s).map (a ++ ·) := by
  have hpieces : pieces (a ++ s) = piecesAfter ([] ++ a.reverse) 0 s := by
    rw [pieces, piecesAfter_append h, List.append_nil, List.nil_append]
  have hkept : a.filter (!isControl ·) = a := List.filter_eq_self.mpr fun c hc => by
    simpa using (isPlain_of_isInert h).noControl c hc
  obtain ⟨htext, hstyles⟩ := textOf_piecesAfter h [] [] s
  rw [shown, shown, hpieces, htext, hstyles, ← pieces]
  rcases textOf [] (pieces s) with e | t
  · rfl
  · rcases checkStyles (pieces s) with e | -
    · rfl
    · simp [bind, Except.bind, Except.map, pure, Except.pure, hkept]

end Inert

end StubPlan.Markup
