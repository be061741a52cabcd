import StubPlan.Proofs.TypeExpr.Decomposition
import StubPlan.TypeExpr.SelfReference

/-! Quoting acts on tokens: the tokens of a quoted expression are those of the expression with each
reference to the class turned into a literal. Quotes put around a name do not change how the text
around it is cut, because they neither go on with a name nor leave a literal open. -/
namespace StubPlan.TypeExpr

/-- A token that refers to the class as the literal that stands for it, any other as it is. -/
def Token.asQuoted (className : String) (t : Token) : Token :=
  if t.refersTo className then ⟨.literal, "'" ++ t.text ++ "'"⟩ else t

lemma text_asQuoted (className : String) (t : Token) :
    (t.asQuoted className).text = t.quoted className := by
  unfold Token.asQuoted Token.quoted
  split <;> rfl

lemma asQuoted_eq_self {className : String} {t : Token} (h : t.refersTo className = false) :
    t.asQuoted className = t := by
  simp [Token.asQuoted, h]

/-- What stands in quotes no longer refers to the class. -/
lemma refersTo_asQuoted (className : String) (t : Token) :
    (t.asQuoted className).refersTo className = false := by
  cases h : t.refersTo className with
  | false => rwa [asQuoted_eq_self h]
  | true =>
    rw [Token.asQuoted, if_pos h]
    rfl

section Names

/-- A name is made of name characters and dots. -/
lemma Continues.mem {s : List Char} (h : Continues s) {x : Char} (hx : x ∈ s) :
    isNameChar x ∨ x = '.' := by
  induction h with
  | nil => exact absurd hx List.not_mem_nil
  | @char c s hc hs ih =>
    rcases List.mem_cons.mp hx with rfl | hx
    · exact .inl hc
    · exact ih hx
  | @dot s hd hs ih =>
    rcases List.mem_cons.mp hx with rfl | hx
    · exact .inr rfl
    · exact ih hx

lemma enclosed_of_forall {q : Char} {s : List Char} (h : ∀ x ∈ s, x ≠ q ∧ x ≠ '\\') :
    Enclosed q s := by
  induction s with
  | nil => exact .nil
  | cons c s ih =>
    obtain ⟨hq, hb⟩ := h c (by simp)
    exact .plain hq hb (ih fun x hx => h x (by simp [hx]))

/-- A name in quotes is a literal, whatever comes after it. -/
lemma Stands.quote {text after : List Char} (h : Stands .name text after) (after' : List Char) :
    Stands .literal ('\'' :: (text ++ ['\''])) after' := by
  cases h with
  | @name c body _ hc hb _ =>
    refine .closed (by decide) (enclosed_of_forall fun x hx => ?_)
    have hx' : isNameChar x ∨ x = '.' := by
      rcases List.mem_cons.mp hx with rfl | hx
      · exact .inl (isNameChar_of_isNameStart hc)
      · exact hb.mem hx
    constructor
    · rintro rfl
      exact absurd hx' (by simp)
    · rintro rfl
      exact absurd hx' (by simp)

end Names

section Lookahead

def quotedText (className : String) (ts : List Token) : List Char :=
  ts.flatMap fun t => (t.quoted className).toList

lemma quotedText_cons (className : String) (t : Token) (ts : List Token) :
    quotedText className (t :: ts) = (t.quoted className).toList ++ quotedText className ts := by
  simp [quotedText]

lemma Decomposes.eq_nil {ts : List Token} {s : List Char} (h : Decomposes ts s) (hs : s = []) :
    ts = [] := by
  cases h with
  | nil => rfl
  | cons ht hts => exact absurd (List.append_eq_nil_iff.mp hs).1 ht.ne_nil

/-- Quoted text begins with a quote or with what the text begins with. -/
lemma Decomposes.head_quotedText {ts : List Token} {s : List Char} (h : Decomposes ts s)
    (className : String) :
    (quotedText className ts).head? = some '\'' ∨
      (quotedText className ts).head? = s.head? := by
  cases h with
  | nil => exact .inr rfl
  | @cons t ts after ht hts =>
    rw [quotedText_cons]
    cases hr : t.refersTo className with
    | true => simp [Token.quoted, hr]
    | false =>
      obtain ⟨c, body, htext⟩ := List.exists_cons_of_ne_nil ht.ne_nil
      simp [Token.quoted, hr, htext]

lemma startsRun_eq (s : List Char) : startsRun s = s.head?.any isNameChar := by
  cases s <;> rfl

lemma startsName_eq (s : List Char) : startsName s = s.head?.any isNameStart := by
  cases s <;> rfl

lemma Decomposes.startsRun_of_quotedText {ts : List Token} {s : List Char} (h : Decomposes ts s)
    {className : String} (hq : startsRun (quotedText className ts)) : startsRun s := by
  rw [startsRun_eq] at hq ⊢
  rcases h.head_quotedText className with hhead | hhead
  · simp [hhead] at hq
  · rwa [← hhead]

/-- No name that stands before quoted text takes in more than it would before the text. -/
lemma Decomposes.extendsName_of_quotedText {ts : List Token} {s : List Char}
    (h : Decomposes ts s) {className : String} (hq : extendsName (quotedText className ts)) :
    extendsName s := by
  cases h with
  | nil => exact hq
  | @cons t ts after ht hts =>
    rw [quotedText_cons] at hq
    cases hr : t.refersTo className with
    | true => simp [Token.quoted, hr, extendsName] at hq
    | false =>
      obtain ⟨c, body, htext⟩ := List.exists_cons_of_ne_nil ht.ne_nil
      simp only [Token.quoted, hr, Bool.false_eq_true, if_false, htext, List.cons_append,
        extendsName, Bool.or_eq_true, Bool.and_eq_true] at hq ⊢
      refine hq.imp_right (And.imp_right fun hstart => ?_)
      -- A dot that is a token of its own is followed by the next token, which may be quoted.
      cases body with
      | nil =>
        rw [List.nil_append, startsName_eq] at hstart ⊢
        rcases hts.head_quotedText className with hhead | hhead
        · rw [hhead] at hstart
          exact absurd hstart (by decide +kernel)
        · rwa [← hhead]
      | cons x body => exact hstart

/-- What may stand before a text may also stand before its quoted form. -/
lemma Stands.before_quotedText {k : TokenKind} {text after : List Char} {ts : List Token}
    (h : Stands k text after) (hts : Decomposes ts after) (className : String) :
    Stands k text (quotedText className ts) := by
  cases h with
  | closed hq hi => exact .closed hq hi
  | unclosed hq hi he =>
    rw [hts.eq_nil rfl]
    exact .unclosed hq hi he
  | name hc hb ha =>
    refine .name hc hb (Bool.eq_false_iff.mpr fun hext => ?_)
    exact Bool.eq_false_iff.mp ha (hts.extendsName_of_quotedText hext)
  | number hc hr ha =>
    refine .number hc hr (Bool.eq_false_iff.mpr fun hrun => ?_)
    exact Bool.eq_false_iff.mp ha (hts.startsRun_of_quotedText hrun)
  | single hq hs hd => exact .single hq hs hd

end Lookahead

/-- Quoting keeps the cuts between tokens. -/
lemma Decomposes.quote {ts : List Token} {s : List Char} (h : Decomposes ts s)
    (className : String) :
    Decomposes (ts.map (Token.asQuoted className)) (quotedText className ts) := by
  induction h with
  | nil => exact .nil
  | @cons t ts after ht hts ih =>
    rw [List.map_cons, quotedText_cons, ← text_asQuoted]
    refine .cons ?_ ih
    cases hr : t.refersTo className with
    | false =>
      rw [asQuoted_eq_self hr]
      exact ht.before_quotedText hts className
    | true =>
      have hname : t.kind = .name := by
        simp only [Token.refersTo, Bool.and_eq_true, decide_eq_true_eq] at hr
        exact hr.1
      rw [hname] at ht
      simpa [Token.asQuoted, hr] using ht.quote (quotedText className ts)

section EarlyExits

lemma occursIn_iff {part s : List Char} : occursIn part s ↔ part <:+: s := by
  induction s with
  | nil => simp [occursIn]
  | cons c rest ih => simp [occursIn, List.infix_cons_iff, ih]

lemma Decomposes.stands_of_mem {ts : List Token} {s : List Char} {t : Token}
    (h : Decomposes ts s) (ht : t ∈ ts) :
    (∃ after, Stands t.kind t.text.toList after) ∧ t.text.toList <:+: s := by
  induction h with
  | nil => exact absurd ht List.not_mem_nil
  | @cons u ts after hu hts ih =>
    rcases List.mem_cons.mp ht with rfl | ht
    · exact ⟨⟨after, hu⟩, (List.prefix_append _ _).isInfix⟩
    · exact ⟨(ih ht).1, (ih ht).2.trans (List.suffix_append _ _).isInfix⟩

/-- The pieces of a name are segments. -/
lemma Stands.isSegment {text after piece : List Char} (h : Stands .name text after)
    (hp : piece ∈ Chars.splitAt '.' text) : IsSegment piece := by
  cases h with
  | @name c body _ hc hb _ =>
    have hcontinues : Continues (c :: body) := .char (isNameChar_of_isNameStart hc) hb
    exact (forall_isSegment_iff (c :: body)).mpr ⟨hc, hcontinues⟩ piece hp

/-- A class that some token refers to is not blank and occurs in the text. -/
lemma Decomposes.refersTo {ts : List Token} {s : List Char} {t : Token} {className : String}
    (h : Decomposes ts s) (ht : t ∈ ts) (hr : t.refersTo className) :
    className.toList <:+: s ∧ ∃ x ∈ className.toList, Text.isBlankChar x = false := by
  simp only [Token.refersTo, Bool.and_eq_true, decide_eq_true_eq, Text.splitAt,
    List.contains_eq_mem, List.mem_map] at hr
  obtain ⟨hname, piece, hp, rfl⟩ := hr
  obtain ⟨⟨after, hstands⟩, hin⟩ := h.stands_of_mem ht
  rw [hname] at hstands
  obtain ⟨x, rest, hpiece, hx, -⟩ := hstands.isSegment hp
  rw [String.toList_ofList]
  refine ⟨(Chars.mem_splitAt hp).2.trans hin, x, by simp [hpiece], ?_⟩
  exact not_isBlankChar_of_isNameChar (isNameChar_of_isNameStart hx)

end EarlyExits

/-- The tests before the scan do not change the result: where one of them holds, no token refers to
the class. -/
theorem quoteSelf_eq (className e : String) :
    quoteSelf className e = String.join ((tokenize e).map (Token.quoted className)) := by
  unfold quoteSelf
  split
  · next hexit =>
    have hd : Decomposes (tokenize e) e.toList := tokenize_eq_iff.mp rfl
    have hnone : ∀ t ∈ tokenize e, t.quoted className = t.text := by
      intro t ht
      cases hr : t.refersTo className with
      | false => simp [Token.quoted, hr]
      | true =>
        obtain ⟨hin, x, hx, hblank⟩ := hd.refersTo ht hr
        exfalso
        simp only [Bool.or_eq_true, Bool.not_eq_true', Text.isBlank, Chars.isBlank,
          List.all_eq_true] at hexit
        rcases hexit with (hexit | hexit) | hexit
        · simp [hexit x (hin.subset hx)] at hblank
        · simp [hexit x hx] at hblank
        · simp [occursIn_iff.mpr hin] at hexit
    rw [List.map_congr_left hnone, join_tokenize]
  · rfl

/-- Quoting acts token by token and survives a second scan. -/
theorem tokenize_quoteSelf_map (className e : String) :
    tokenize (quoteSelf className e) = (tokenize e).map (Token.asQuoted className) := by
  have hd : Decomposes (tokenize e) e.toList := tokenize_eq_iff.mp rfl
  apply tokenize_eq_iff.mpr
  rw [quoteSelf_eq, String.toList_join, List.flatMap_map]
  exact hd.quote className

/-- After quoting, no token refers to the class. -/
theorem refersTo_of_mem_tokenize_quoteSelf {className e : String} {t : Token}
    (ht : t ∈ tokenize (quoteSelf className e)) : t.refersTo className = false := by
  rw [tokenize_quoteSelf_map] at ht
  obtain ⟨u, -, rfl⟩ := List.mem_map.mp ht
  exact refersTo_asQuoted className u

/-- Quoting twice is quoting once. -/
theorem quoteSelf_quoteSelf (className e : String) :
    quoteSelf className (quoteSelf className e) = quoteSelf className e := by
  have hnone : ∀ t ∈ tokenize (quoteSelf className e), t.quoted className = t.text := by
    intro t ht
    simp [Token.quoted, refersTo_of_mem_tokenize_quoteSelf ht]
  rw [quoteSelf_eq className (quoteSelf className e), List.map_congr_left hnone, join_tokenize]

lemma refersTo_iff {className : String} {t : Token} :
    t.refersTo className ↔ t.kind = .name ∧ className ∈ Text.splitAt '.' t.text := by
  simp [Token.refersTo]

/-- Whatever class and expression are, the quoted expression has the tokens of the expression, with
each name that has the class among its segments as a literal. It is made of these tokens without
regard to the tests before the scan, and quoting it again changes nothing. -/
theorem tokenize_quoteSelf (className e : String) :
    tokenize (quoteSelf className e) = (tokenize e).map (fun t =>
      if t.kind = .name ∧ className ∈ Text.splitAt '.' t.text then
        ⟨.literal, "'" ++ t.text ++ "'"⟩
      else t) ∧
    quoteSelf className e = String.join ((tokenize e).map (Token.quoted className)) ∧
    quoteSelf className (quoteSelf className e) = quoteSelf className e := by
  refine ⟨?_, quoteSelf_eq className e, quoteSelf_quoteSelf className e⟩
  rw [tokenize_quoteSelf_map]
  refine List.map_congr_left fun t _ => ?_
  simp only [Token.asQuoted, refersTo_iff]

end StubPlan.TypeExpr
