import Mathlib.Algebra.Ring.Parity
import Mathlib.Data.List.DropRight
import StubPlan.Proofs.TypeExpr.Decomposition

/-! What the tokens of a type expression are, told by their texts alone. Whether a quote is escaped is a
matter of how many backslashes stand before it, and a name is a matter of its segments. That settles the
tokens of every expression, however its quotes are paired. -/
namespace StubPlan.TypeExpr
open Unicode Chars

section Escapes

/-- Whether the character behind a text is escaped: an odd number of backslashes stands before it. -/
def EndsEscaping (s : List Char) : Prop := Odd (s.rtakeWhile (· = '\\')).length

/-- Whether a character stands in a text without being escaped. -/
def HoldsUnescaped (q : Char) (s : List Char) : Prop :=
  ∃ front back, s = front ++ q :: back ∧ ¬ EndsEscaping front

variable {q c : Char} {a s inner : List Char}

lemma not_endsEscaping_nil : ¬ EndsEscaping [] := by simp [EndsEscaping]

lemma endsEscaping_concat : EndsEscaping (s ++ [c]) ↔ c = '\\' ∧ ¬ EndsEscaping s := by
  rw [EndsEscaping, List.rtakeWhile_concat]
  by_cases hc : c = '\\'
  · rw [if_pos (decide_eq_true hc), List.length_append, List.length_singleton, Nat.odd_add_one,
      and_iff_right hc, EndsEscaping]
  · rw [if_neg (by simpa using hc)]
    exact iff_of_false not_endsEscaping_nil fun h => hc h.1

/-- Behind a text that leaves no escape open, escapes are counted anew. -/
lemma endsEscaping_append (ha : ¬ EndsEscaping a) (s : List Char) :
    EndsEscaping (a ++ s) ↔ EndsEscaping s := by
  induction s using List.reverseRecOn with
  | nil =>
    rw [List.append_nil]
    exact iff_of_false ha not_endsEscaping_nil
  | append_singleton s c ih => rw [← List.append_assoc, endsEscaping_concat, endsEscaping_concat, ih]

lemma not_endsEscaping_singleton (hc : c ≠ '\\') : ¬ EndsEscaping [c] := by
  rw [← List.nil_append [c], endsEscaping_concat]
  exact fun h => hc h.1

lemma endsEscaping_backslash : EndsEscaping ['\\'] := by
  rw [← List.nil_append ['\\'], endsEscaping_concat]
  exact ⟨rfl, not_endsEscaping_nil⟩

/-- A backslash and the character that it takes with it leave no escape open. -/
lemma not_endsEscaping_pair (c : Char) : ¬ EndsEscaping ['\\', c] := by
  have hpair : ['\\', c] = ['\\'] ++ [c] := rfl
  rw [hpair, endsEscaping_concat]
  exact fun h => h.2 endsEscaping_backslash

lemma Enclosed.not_endsEscaping (h : Enclosed q s) : ¬ EndsEscaping s := by
  induction h with
  | nil => exact not_endsEscaping_nil
  | @plain c s _ hb _ ih => exact mt (endsEscaping_append (not_endsEscaping_singleton hb) s).mp ih
  | @escaped c s _ ih => exact mt (endsEscaping_append (not_endsEscaping_pair c) s).mp ih

lemma Enclosed.not_holdsUnescaped (h : Enclosed q s) (hq : q ≠ '\\') : ¬ HoldsUnescaped q s := by
  induction h with
  | nil =>
    rintro ⟨front, back, heq, -⟩
    exact absurd heq.symm (List.append_ne_nil_of_right_ne_nil front (List.cons_ne_nil q back))
  | @plain c s hc hb _ ih =>
    rintro ⟨front, back, heq, hfront⟩
    cases front with
    | nil => exact hc (List.cons.inj heq).1
    | cons x front =>
      obtain ⟨rfl, rfl⟩ := List.cons.inj heq
      exact ih ⟨front, back, rfl, mt (endsEscaping_append (not_endsEscaping_singleton hb) front).mpr hfront⟩
  | @escaped c s _ ih =>
    rintro ⟨front, back, heq, hfront⟩
    match front with
    | [] => exact hq (List.cons.inj heq).1.symm
    | [x] =>
      obtain ⟨rfl, -⟩ := List.cons.inj heq
      exact hfront endsEscaping_backslash
    | x :: y :: front =>
      obtain ⟨hx, heq⟩ := List.cons.inj heq
      obtain ⟨rfl, rfl⟩ := List.cons.inj heq
      rw [← hx] at hfront
      exact ih ⟨front, back, rfl, mt (endsEscaping_append (not_endsEscaping_pair c) front).mpr hfront⟩

/-- A text with no quote that is not escaped is the inside of a literal, but for an escape that may be
left open. -/
lemma exists_enclosed (hs : ¬ HoldsUnescaped q s) :
    ∃ inner escape, Enclosed q inner ∧ (escape = [] ∨ escape = ['\\']) ∧ s = inner ++ escape := by
  have hparts := takeLiteral_append q s
  rcases takeLiteral_spec q s with ⟨inner, hi, htext⟩ | ⟨inner, escape, hi, he, htext, hrest⟩
  · rw [htext, List.append_assoc, List.singleton_append] at hparts
    exact absurd ⟨inner, (takeLiteral q s).2, hparts.symm, hi.not_endsEscaping⟩ hs
  · refine ⟨inner, escape, hi, he, ?_⟩
    rw [← hparts, htext, hrest, List.append_nil]

/-- The inside of a closed literal holds no quote that is not escaped, and leaves no escape open. -/
lemma enclosed_iff (hq : q ≠ '\\') : Enclosed q s ↔ ¬ HoldsUnescaped q s ∧ ¬ EndsEscaping s := by
  refine ⟨fun h => ⟨h.not_holdsUnescaped hq, h.not_endsEscaping⟩, fun ⟨hs, hopen⟩ => ?_⟩
  obtain ⟨inner, escape, hi, rfl | rfl, rfl⟩ := exists_enclosed hs
  · rwa [List.append_nil]
  · exact absurd (endsEscaping_concat.mpr ⟨rfl, hi.not_endsEscaping⟩) hopen

/-- So does that of a literal that is not closed, except that it may leave one open. -/
lemma not_holdsUnescaped_iff (hq : q ≠ '\\') :
    ¬ HoldsUnescaped q s ↔
      ∃ inner escape, Enclosed q inner ∧ (escape = [] ∨ escape = ['\\']) ∧ s = inner ++ escape := by
  refine ⟨exists_enclosed, ?_⟩
  rintro ⟨inner, escape, hi, rfl | rfl, rfl⟩
  · rw [List.append_nil]
    exact hi.not_holdsUnescaped hq
  · rintro ⟨front, back, heq, hfront⟩
    rcases List.eq_nil_or_concat' back with rfl | ⟨back, last, rfl⟩
    · exact hq (List.singleton_inj.mp (List.append_inj_right' heq rfl)).symm
    · rw [← List.cons_append, ← List.append_assoc] at heq
      exact hi.not_holdsUnescaped hq ⟨front, back, List.append_inj_left' heq rfl, hfront⟩

end Escapes

section Kinds

/-- What the text of a token of each kind is, before the rest of an expression. The first quote like the
one that a literal begins with that is not escaped ends the literal; without one the literal ends the
expression. The segments of a name, and the name characters behind a digit, are all that there are. -/
def Conforms : TokenKind → List Char → List Char → Prop
  | .literal, text, after => ∃ q body, text = q :: body ∧ isQuote q ∧
      ((∃ inner, body = inner ++ [q] ∧ ¬ HoldsUnescaped q inner ∧ ¬ EndsEscaping inner) ∨
        ¬ HoldsUnescaped q body ∧ after = [])
  | .name, text, after => (∀ piece ∈ splitAt '.' text, IsSegment piece) ∧ extendsName after = false
  | .other, text, after =>
      (∃ c run, text = c :: run ∧ isDigit c ∧ (∀ x ∈ run, isNameChar x) ∧ startsRun after = false) ∨
        ∃ c, text = [c] ∧ isQuote c = false ∧ isNameStart c = false ∧ isDigit c = false

variable {text after : List Char}

lemma conforms_literal_iff : Conforms .literal text after ↔ Stands .literal text after := by
  constructor
  · rintro ⟨q, body, rfl, hq, ⟨inner, rfl, hinner, hopen⟩ | ⟨hbody, rfl⟩⟩
    · exact .closed hq ((enclosed_iff (ne_backslash_of_isQuote hq)).mpr ⟨hinner, hopen⟩)
    · obtain ⟨inner, escape, hi, he, rfl⟩ := exists_enclosed hbody
      exact .unclosed hq hi he
  · intro h
    cases h with
    | @closed q inner _ hq hi =>
      exact ⟨q, _, rfl, hq, .inl ⟨inner, rfl, (enclosed_iff (ne_backslash_of_isQuote hq)).mp hi⟩⟩
    | @unclosed q inner escape hq hi he =>
      have hbody := (not_holdsUnescaped_iff (ne_backslash_of_isQuote hq)).mpr ⟨inner, escape, hi, he, rfl⟩
      exact ⟨q, _, rfl, hq, .inr ⟨hbody, rfl⟩⟩

lemma conforms_name_iff : Conforms .name text after ↔ Stands .name text after := by
  rw [Conforms, forall_isSegment_iff]
  constructor
  · rintro ⟨⟨hstart, hcontinues⟩, hafter⟩
    cases text with
    | nil => exact absurd hstart Bool.false_ne_true
    | cons c body => exact .name hstart (continues_cons_iff.mp hcontinues).2 hafter
  · intro h
    cases h with
    | name hc hb hafter => exact ⟨⟨hc, .char (isNameChar_of_isNameStart hc) hb⟩, hafter⟩

lemma conforms_other_iff : Conforms .other text after ↔ Stands .other text after := by
  constructor
  · rintro (⟨c, run, rfl, hc, hrun, hafter⟩ | ⟨c, rfl, hq, hs, hd⟩)
    · exact .number hc hrun hafter
    · exact .single hq hs hd
  · intro h
    cases h with
    | number hc hrun hafter => exact .inl ⟨_, _, rfl, hc, hrun, hafter⟩
    | single hq hs hd => exact .inr ⟨_, rfl, hq, hs, hd⟩

lemma conforms_iff {kind : TokenKind} : Conforms kind text after ↔ Stands kind text after := by
  cases kind with
  | name => exact conforms_name_iff
  | literal => exact conforms_literal_iff
  | other => exact conforms_other_iff

end Kinds

/-- Tokens make up a text when their texts do and each stands as it may before those of the others. -/
lemma decomposes_iff {ts : List Token} {s : List Char} :
    Decomposes ts s ↔ ts.flatMap (·.text.toList) = s ∧ ∀ front t back, ts = front ++ t :: back →
      Stands t.kind t.text.toList (back.flatMap (·.text.toList)) := by
  constructor
  · intro h
    refine ⟨h.flatMap_text, ?_⟩
    induction h with
    | nil =>
      intro front t back heq
      exact absurd heq.symm (List.append_ne_nil_of_right_ne_nil front (List.cons_ne_nil t back))
    | @cons u ts after hu hts ih =>
      intro front t back heq
      cases front with
      | nil =>
        obtain ⟨rfl, rfl⟩ := List.cons.inj heq
        rwa [hts.flatMap_text]
      | cons x front => exact ih front t back (List.cons.inj heq).2
  · rintro ⟨rfl, h⟩
    induction ts with
    | nil => exact .nil
    | cons t ts ih =>
      rw [List.flatMap_cons]
      refine .cons (h [] t ts rfl) (ih fun front u back heq => ?_)
      exact h (t :: front) u back (congrArg (t :: ·) heq)

lemma Decomposes.text_ne_empty {ts : List Token} {s : List Char} (h : Decomposes ts s) :
    ∀ t ∈ ts, t.text ≠ "" := by
  intro t ht hempty
  obtain ⟨front, back, rfl⟩ := List.append_of_mem ht
  exact ((decomposes_iff.mp h).2 front t back rfl).ne_nil (by simp [hempty])

lemma Decomposes.length_le {ts : List Token} {s : List Char} (h : Decomposes ts s) :
    ts.length ≤ s.length := by
  induction h with
  | nil => exact le_rfl
  | cons ht _ ih =>
    have hpos := List.length_pos_of_ne_nil ht.ne_nil
    rw [List.length_cons, List.length_append]
    omega

/-- Every expression has one list of tokens that make it up and conform to their kinds, and this is the one
that the scan finds. None of them is empty, so that there are no more of them than characters. -/
theorem tokenize_conforms (e : String) :
    (∀ ts : List Token, ts = tokenize e ↔ String.join (ts.map (·.text)) = e ∧
      ∀ front t back, ts = front ++ t :: back →
        Conforms t.kind t.text.toList (String.join (back.map (·.text))).toList) ∧
    (∀ t ∈ tokenize e, t.text ≠ "") ∧ (tokenize e).length ≤ e.length := by
  have htexts : ∀ ts : List Token,
      (String.join (ts.map (·.text))).toList = ts.flatMap (·.text.toList) := by
    intro ts
    rw [String.toList_join, List.flatMap_map]
  have hd : Decomposes (tokenize e) e.toList := tokenize_eq_iff.mp rfl
  refine ⟨fun ts => ?_, hd.text_ne_empty, ?_⟩
  · rw [eq_comm, tokenize_eq_iff, decomposes_iff, ← String.toList_inj, htexts]
    simp only [htexts, conforms_iff]
  · rw [← String.length_toList]
    exact hd.length_le

end StubPlan.TypeExpr
