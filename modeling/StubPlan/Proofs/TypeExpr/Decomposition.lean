import StubPlan.Proofs.Text.Split
import StubPlan.Proofs.TypeExpr.Character

/-! The tokens of a type expression, described without the scan that finds them: what the text of
each kind looks like and what may stand after it. An expression has exactly one such list of tokens,
and it is the one that the scan finds. -/
namespace StubPlan.TypeExpr
open Unicode

/-- Text inside a literal: every quote is escaped, and no escape is left open. -/
inductive Enclosed (quote : Char) : List Char → Prop
  | nil : Enclosed quote []
  | plain {c : Char} {s : List Char} (hq : c ≠ quote) (hb : c ≠ '\\') (hs : Enclosed quote s) :
      Enclosed quote (c :: s)
  | escaped {c : Char} {s : List Char} (hs : Enclosed quote s) : Enclosed quote ('\\' :: c :: s)

/-- Text inside a name after its first character: each dot begins a further segment. -/
inductive Continues : List Char → Prop
  | nil : Continues []
  | char {c : Char} {s : List Char} (hc : isNameChar c) (hs : Continues s) : Continues (c :: s)
  | dot {s : List Char} (hd : startsName s) (hs : Continues s) : Continues ('.' :: s)

/-- A segment of a name: a character that begins one, then any that may stand in one. -/
def IsSegment (s : List Char) : Prop :=
  ∃ c rest, s = c :: rest ∧ isNameStart c ∧ ∀ x ∈ rest, isNameChar x

/-- Whether a text goes on with a character of a name. -/
def startsRun : List Char → Bool
  | [] => false
  | c :: _ => isNameChar c

/-- Whether a name before the text would take in some of it. -/
def extendsName : List Char → Bool
  | [] => false
  | c :: rest => isNameChar c || (c = '.' && startsName rest)

/-- The text that a token of each kind may have before the rest of an expression. A literal that is
not closed ends the expression; names and numbers are as long as they can be. -/
inductive Stands : TokenKind → List Char → List Char → Prop
  | closed {q : Char} {inner after : List Char} (hq : isQuote q) (hi : Enclosed q inner) :
      Stands .literal (q :: (inner ++ [q])) after
  | unclosed {q : Char} {inner escape : List Char} (hq : isQuote q) (hi : Enclosed q inner)
      (he : escape = [] ∨ escape = ['\\']) : Stands .literal (q :: (inner ++ escape)) []
  | name {c : Char} {body after : List Char} (hc : isNameStart c) (hb : Continues body)
      (ha : extendsName after = false) : Stands .name (c :: body) after
  | number {c : Char} {run after : List Char} (hc : isDigit c) (hr : ∀ x ∈ run, isNameChar x)
      (ha : startsRun after = false) : Stands .other (c :: run) after
  | single {c : Char} {after : List Char} (hq : isQuote c = false) (hs : isNameStart c = false)
      (hd : isDigit c = false) : Stands .other [c] after

/-- Tokens whose texts make up an expression, each as it may stand before the rest. -/
inductive Decomposes : List Token → List Char → Prop
  | nil : Decomposes [] []
  | cons {t : Token} {ts : List Token} {after : List Char} (ht : Stands t.kind t.text.toList after)
      (hts : Decomposes ts after) : Decomposes (t :: ts) (t.text.toList ++ after)

section Parts

lemma takeLiteral_enclosed {q : Char} {inner : List Char} (h : Enclosed q inner) (hq : q ≠ '\\')
    (after : List Char) : takeLiteral q (inner ++ q :: after) = (inner ++ [q], after) := by
  induction h with
  | nil =>
    rw [List.nil_append, takeLiteral.eq_3 _ _ _ (by rintro _ _ rfl; exact absurd rfl hq)]
    simp
  | @plain c s hc hb hs ih =>
    rw [List.cons_append, takeLiteral.eq_3 _ _ _ (by rintro _ _ rfl; exact absurd rfl hb)]
    simp [hc, ih]
  | @escaped c s hs ih => simp [takeLiteral, ih]

lemma takeLiteral_open {q : Char} {inner escape : List Char} (h : Enclosed q inner)
    (hq : q ≠ '\\') (he : escape = [] ∨ escape = ['\\']) :
    takeLiteral q (inner ++ escape) = (inner ++ escape, []) := by
  induction h with
  | nil => rcases he with rfl | rfl <;> simp [takeLiteral, hq.symm]
  | @plain c s hc hb hs ih =>
    rw [List.cons_append, takeLiteral.eq_3 _ _ _ (by rintro _ _ rfl; exact absurd rfl hb)]
    simp [hc, ih]
  | @escaped c s hs ih => simp [takeLiteral, ih]

/-- A literal is taken up to its closing quote, or is not closed and takes everything. -/
lemma takeLiteral_spec (q : Char) (s : List Char) :
    (∃ inner, Enclosed q inner ∧ (takeLiteral q s).1 = inner ++ [q]) ∨
    (∃ inner escape, Enclosed q inner ∧ (escape = [] ∨ escape = ['\\']) ∧
      (takeLiteral q s).1 = inner ++ escape ∧ (takeLiteral q s).2 = []) := by
  fun_induction takeLiteral q s with
  | case1 => exact .inr ⟨[], [], .nil, .inl rfl, rfl, rfl⟩
  | case2 c rest text after heq ih =>
    rw [heq] at ih
    rcases ih with ⟨inner, hi, rfl⟩ | ⟨inner, escape, hi, he, rfl, rfl⟩
    · exact .inl ⟨'\\' :: c :: inner, .escaped hi, rfl⟩
    · exact .inr ⟨'\\' :: c :: inner, escape, .escaped hi, he, rfl, rfl⟩
  | case3 rest hb => exact .inl ⟨[], .nil, rfl⟩
  | case4 c rest hb hq text after heq ih =>
    rw [heq] at ih
    by_cases hc : c = '\\'
    · -- A backslash with nothing behind it ends the text.
      subst hc
      cases rest with
      | nil =>
        obtain ⟨rfl, rfl⟩ := Prod.mk.inj heq
        exact .inr ⟨[], ['\\'], .nil, .inr rfl, rfl, rfl⟩
      | cons x rest => exact absurd rfl (hb x rest rfl)
    · rcases ih with ⟨inner, hi, rfl⟩ | ⟨inner, escape, hi, he, rfl, rfl⟩
      · exact .inl ⟨c :: inner, .plain hq hc hi, rfl⟩
      · exact .inr ⟨c :: inner, escape, .plain hq hc hi, he, rfl, rfl⟩

lemma takeName_continues {body after : List Char} (h : Continues body)
    (ha : extendsName after = false) : takeName (body ++ after) = (body, after) := by
  induction h with
  | nil =>
    cases after with
    | nil => rfl
    | cons c rest =>
      simp only [extendsName] at ha
      simp [takeName, ha]
  | @char c s hc hs ih => simp [takeName, hc, ih]
  | @dot s hd hs ih =>
    have hd' : startsName (s ++ after) := by
      cases s with
      | nil => exact absurd hd (by decide)
      | cons x s => exact hd
    simp [takeName, hd', ih]

lemma startsName_takeName {s : List Char} (h : startsName s) : startsName (takeName s).1 := by
  cases s with
  | nil => exact absurd h (by decide)
  | cons c rest =>
    have hc : isNameChar c := isNameChar_of_isNameStart h
    simpa [takeName, hc, startsName] using h

/-- A name is taken with all of its segments and no further. -/
lemma takeName_spec (s : List Char) :
    Continues (takeName s).1 ∧ extendsName (takeName s).2 = false := by
  fun_induction takeName s with
  | case1 => exact ⟨.nil, rfl⟩
  | case2 c rest h text after heq ih =>
    rw [heq] at ih
    refine ⟨?_, ih.2⟩
    rcases Bool.or_eq_true_iff.mp h with hc | hc
    · exact .char hc ih.1
    · obtain ⟨hdot, hstart⟩ := Bool.and_eq_true_iff.mp hc
      obtain rfl := of_decide_eq_true hdot
      have hfirst := startsName_takeName hstart
      rw [heq] at hfirst
      exact .dot hfirst ih.1
  | case3 c rest h => exact ⟨.nil, Bool.eq_false_iff.mpr h⟩

lemma startsRun_dropWhile (s : List Char) : startsRun (s.dropWhile isNameChar) = false := by
  induction s with
  | nil => rfl
  | cons c rest ih =>
    rw [List.dropWhile_cons]
    split
    · exact ih
    · next h => exact Bool.eq_false_iff.mpr h

lemma span_run {run after : List Char} (hr : ∀ x ∈ run, isNameChar x)
    (ha : startsRun after = false) :
    (run ++ after).takeWhile isNameChar = run ∧ (run ++ after).dropWhile isNameChar = after := by
  induction run with
  | nil =>
    cases after with
    | nil => exact ⟨rfl, rfl⟩
    | cons c rest =>
      have hc : isNameChar c = false := ha
      simp [hc]
  | cons c run ih =>
    have hc : isNameChar c := hr c (by simp)
    have htail := ih (fun x hx => hr x (by simp [hx]))
    simpa [hc] using htail

end Parts

section Segments

variable {s first : List Char} {more : List (List Char)}

lemma continues_cons_iff {c : Char} :
    Continues (c :: s) ↔ (isNameChar c ∨ c = '.' ∧ startsName s) ∧ Continues s := by
  constructor
  · intro h
    cases h with
    | char hc hs => exact ⟨.inl hc, hs⟩
    | dot hd hs => exact ⟨.inr ⟨rfl, hd⟩, hs⟩
  · rintro ⟨hc | ⟨rfl, hd⟩, hs⟩
    · exact .char hc hs
    · exact .dot hd hs

lemma isSegment_first_iff (hs : Chars.splitAt '.' s = first :: more) :
    IsSegment first ↔ startsName s ∧ ∀ x ∈ first, isNameChar x := by
  cases s with
  | nil =>
    obtain ⟨rfl, -⟩ : first = [] ∧ more = [] := by simpa [Chars.splitAt, eq_comm] using hs
    simp [IsSegment, startsName]
  | cons c s =>
    by_cases hc : c = '.'
    · subst hc
      obtain ⟨rfl, -⟩ := List.cons.inj (hs.symm.trans (Chars.splitAt_sep '.' s))
      refine iff_of_false ?_ fun h => absurd (isNameChar_of_isNameStart h.1) (by simp)
      simp [IsSegment]
    · obtain ⟨first', more', hrest⟩ := Chars.splitAt_eq_cons '.' s
      obtain ⟨rfl, -⟩ := List.cons.inj (hs.symm.trans (Chars.splitAt_cons hc hrest))
      rw [List.forall_mem_cons]
      constructor
      · rintro ⟨x, rest, heq, hx, hrest⟩
        obtain ⟨rfl, rfl⟩ := List.cons.inj heq
        exact ⟨hx, isNameChar_of_isNameStart hx, hrest⟩
      · rintro ⟨hstart, -, hall⟩
        exact ⟨c, first', rfl, hstart, hall⟩

/-- Text goes on inside a name when its first piece has name characters only and the others are
segments. -/
lemma continues_iff (hs : Chars.splitAt '.' s = first :: more) :
    Continues s ↔ (∀ x ∈ first, isNameChar x) ∧ ∀ piece ∈ more, IsSegment piece := by
  induction s generalizing first more with
  | nil =>
    obtain ⟨rfl, rfl⟩ : first = [] ∧ more = [] := by simpa [Chars.splitAt, eq_comm] using hs
    exact iff_of_true .nil (by simp)
  | cons c s ih =>
    obtain ⟨first', more', hrest⟩ := Chars.splitAt_eq_cons '.' s
    rw [continues_cons_iff, ih hrest]
    by_cases hc : c = '.'
    · subst hc
      obtain ⟨rfl, rfl⟩ := List.cons.inj (hs.symm.trans (Chars.splitAt_sep '.' s))
      rw [hrest, List.forall_mem_cons, isSegment_first_iff hrest]
      simp [and_assoc]
    · obtain ⟨rfl, rfl⟩ := List.cons.inj (hs.symm.trans (Chars.splitAt_cons hc hrest))
      rw [List.forall_mem_cons]
      simp [hc, and_assoc]

/-- A name is made of segments with dots between them. -/
lemma forall_isSegment_iff (s : List Char) :
    (∀ piece ∈ Chars.splitAt '.' s, IsSegment piece) ↔ startsName s ∧ Continues s := by
  obtain ⟨first, more, hs⟩ := Chars.splitAt_eq_cons '.' s
  rw [hs, List.forall_mem_cons, isSegment_first_iff hs, continues_iff hs, and_assoc]

end Segments

lemma Stands.ne_nil {k : TokenKind} {text after : List Char} (h : Stands k text after) :
    text ≠ [] := by
  cases h <;> simp

lemma stands_literal {q : Char} (hq : isQuote q) (s : List Char) :
    Stands .literal (q :: (takeLiteral q s).1) (takeLiteral q s).2 := by
  rcases takeLiteral_spec q s with ⟨inner, hi, h⟩ | ⟨inner, escape, hi, he, h, hrest⟩
  · rw [h]
    exact .closed hq hi
  · rw [h, hrest]
    exact .unclosed hq hi he

/-- A token that stands before a text is the first one that the scan finds. -/
lemma Stands.lex_append {k : TokenKind} {text after : List Char} (h : Stands k text after) :
    lex (text ++ after) = (k, text) :: lex after := by
  cases h with
  | @closed q inner after hq hi =>
    rw [List.cons_append, List.append_assoc, List.singleton_append, lex, if_pos hq,
      takeLiteral_enclosed hi (ne_backslash_of_isQuote hq)]
  | @unclosed q inner escape hq hi he =>
    rw [List.append_nil, lex.eq_2, if_pos hq, takeLiteral_open hi (ne_backslash_of_isQuote hq) he]
  | @name c body after hc hb ha =>
    have hq : isQuote c = false := isQuote_eq_false (isNameChar_of_isNameStart hc)
    rw [List.cons_append, lex, if_neg (by simp [hq]), if_pos hc, takeName_continues hb ha]
  | @number c run after hc hr ha =>
    have hq : isQuote c = false := isQuote_eq_false (isNameChar_of_isDigit hc)
    have hs : isNameStart c = false := not_isNameStart_of_isDigit hc
    rw [List.cons_append, lex, if_neg (by simp [hq]), if_neg (by simp [hs]), if_pos hc,
      (span_run hr ha).1, (span_run hr ha).2]
  | @single c after hq hs hd =>
    rw [List.singleton_append, lex, if_neg (by simp [hq]), if_neg (by simp [hs]),
      if_neg (by simp [hd])]

lemma Decomposes.of_stands {k : TokenKind} {text after : List Char} {ts : List Token}
    (ht : Stands k text after) (hts : Decomposes ts after) :
    Decomposes (⟨k, String.ofList text⟩ :: ts) (text ++ after) := by
  simpa using Decomposes.cons (t := ⟨k, String.ofList text⟩) (by simpa using ht) hts

/-- The tokens that the scan finds make up the text, each as it may stand before the rest. -/
lemma decomposes_lex (s : List Char) :
    Decomposes ((lex s).map fun (kind, text) => ⟨kind, String.ofList text⟩) s := by
  fun_induction lex s with
  | case1 => exact .nil
  | case2 c rest hq ih =>
    simpa [takeLiteral_append] using Decomposes.of_stands (stands_literal hq rest) ih
  | case3 c rest hq hs ih =>
    obtain ⟨hb, ha⟩ := takeName_spec rest
    simpa [takeName_append] using Decomposes.of_stands (.name hs hb ha) ih
  | case4 c rest hq hs hd ih =>
    have hr : ∀ x ∈ rest.takeWhile isNameChar, isNameChar x :=
      List.all_eq_true.mp List.all_takeWhile
    simpa using Decomposes.of_stands (.number hd hr (startsRun_dropWhile rest)) ih
  | case5 c rest hq hs hd ih =>
    simp only [Bool.not_eq_true] at hq hs hd
    exact Decomposes.of_stands (.single hq hs hd) ih

/-- Tokens that make up a text are those that the scan finds. -/
lemma Decomposes.map_lex {ts : List Token} {s : List Char} (h : Decomposes ts s) :
    (lex s).map (fun (kind, text) => (⟨kind, String.ofList text⟩ : Token)) = ts := by
  induction h with
  | nil => simp [lex]
  | @cons t ts after ht hts ih => simp [ht.lex_append, ih]

/-- The tokens of an expression are those that make it up, and there are no others. -/
theorem tokenize_eq_iff {e : String} {ts : List Token} :
    tokenize e = ts ↔ Decomposes ts e.toList := by
  constructor
  · rintro rfl
    exact decomposes_lex e.toList
  · exact fun h => h.map_lex

lemma Decomposes.flatMap_text {ts : List Token} {s : List Char} (h : Decomposes ts s) :
    ts.flatMap (·.text.toList) = s := by
  induction h with
  | nil => rfl
  | @cons t ts after ht hts ih => rw [List.flatMap_cons, ih]

/-- The texts of the tokens make up the expression. -/
lemma join_tokenize (e : String) : String.join ((tokenize e).map (·.text)) = e := by
  have h := (tokenize_eq_iff.mp (rfl : tokenize e = tokenize e)).flatMap_text
  apply String.toList_inj.mp
  rw [String.toList_join, List.flatMap_map, h]

end StubPlan.TypeExpr
