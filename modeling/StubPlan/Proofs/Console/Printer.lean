import StubPlan.Console.Standard
import StubPlan.Proofs.Console.Markup
import StubPlan.Proofs.Console.Table

/-! What is assumed of a console on which values are printed: how it reads markup, and that texts for
which there is room stand in the lines of what is drawn. The console of the program is such a one. -/
namespace StubPlan

namespace Markup

def HasTag (s : List Char) : Prop := ∃ t, IsTag t ∧ t <:+: s

/-- A text in which a tag closes a part where none can be open: nothing that means anything to the
console stands before it. -/
def ClosesNothing (s : List Char) : Prop :=
  ∃ before name rest, (∀ c ∈ before, isInert c) ∧ (∀ c ∈ name, c ≠ ']' ∧ c ≠ '[') ∧
    s = before ++ '[' :: '/' :: (name ++ ']' :: rest)

/-- A tag that begins with a slash closes a part, which must be open. -/
lemma exists_afterTag_eq_error (name : List Char) : ∃ f, afterTag [] ('/' :: name) = .error f := by
  have hpart : ∃ closed, (Part.ofTag ('/' :: name)).name = '/' :: closed := by
    rw [Part.ofTag, Chars.cutAt?, if_neg (by decide)]
    rcases Chars.cutAt? '=' name with - | ⟨before, after⟩
    · exact ⟨name, rfl⟩
    · exact ⟨before, rfl⟩
  obtain ⟨closed, hclosed⟩ := hpart
  simp only [afterTag, hclosed]
  split
  · exact ⟨_, rfl⟩
  · rcases styleName (Chars.trim closed) with f | style
    · exact ⟨f, rfl⟩
    · exact ⟨_, rfl⟩

/-- A text stops the console with the first tag that closes what is not open. -/
lemma exists_shown_eq_error {s : List Char} (h : ClosesNothing s) : ∃ f, shown s = .error f := by
  obtain ⟨before, name, rest, hbefore, hname, rfl⟩ := h
  have htake : ((name ++ ']' :: rest).takeWhile fun c => c ≠ ']' && decide (c ≠ '[')) = name := by
    rw [List.takeWhile_append_of_pos (by simpa using hname)]
    simp
  have hfound : findTag? (· ≠ '[') ('[' :: '/' :: (name ++ ']' :: rest)) = some ⟨0, '/' :: name⟩ := by
    have hdrop : ('[' :: '/' :: (name ++ ']' :: rest)).dropWhile (· = '\\') =
        '[' :: '/' :: (name ++ ']' :: rest) := rfl
    simp only [findTag?, hdrop, htake]
    simp [startsTag]
  obtain ⟨more, hpieces⟩ : ∃ more, pieces ('[' :: '/' :: (name ++ ']' :: rest)) =
      .tag ('/' :: name) :: more := by
    rw [pieces, piecesAfter, hfound]
    exact ⟨piecesAfter [] ((⟨0, '/' :: name⟩ : Found).length - 1) ('/' :: (name ++ ']' :: rest)),
      by simp [Found.pieces]⟩
  obtain ⟨f, hf⟩ := exists_afterTag_eq_error name
  refine ⟨f, ?_⟩
  rw [shown_append hbefore, shown, hpieces, textOf, hf]
  rfl

end Markup

namespace Printer

/-- A printer reads markup: text that means nothing to it shows as it stands, a text with a tag does
not, a tag that closes what is not open is an error, and what is written is what is drawn. -/
structure ReadsMarkup (p : Printer) : Prop where
  nil : p.shown [] = .ok []
  inert : ∀ (s : String) (codes : Codes), s.toList.all Markup.isInert →
    p.shown (codesOf s ++ codes) = (p.shown codes).map (codesOf s ++ ·)
  tag : ∀ s : String, Markup.HasTag s.toList → p.shown (codesOf s) ≠ .ok (codesOf s)
  closing : ∀ s : String, Markup.ClosesNothing s.toList → ∃ e, p.shown (codesOf s) = .error e
  dim : p.shown (codesOf "[dim]Supporting files:[/dim]") = .ok (codesOf "Supporting files:")
  written : ∀ line s, p.encode line = .ok s → codesOf s = line

/-- A text stands in lines: it is broken into parts at blanks and inside words, and each part stands in
one of the lines, from the first one on. -/
def StandsIn (text : Codes) (block : List Codes) : Prop :=
  ∃ chars parts, text = chars.map Char.toNat ∧ Wrap.Broken chars parts ∧
    ∀ i (h : i < parts.length), ∃ hblock : i < block.length, parts[i].map Char.toNat <:+: block[i]

/-- For which texts there is room in lines by themselves, and in the columns of labels and of values
of a table. -/
structure Room where
  line : Codes → Prop
  label : Table → Codes → Prop
  value : Table → Codes → Prop

/-- A printer lays out texts for which there is room: they stand in their lines, and the label and the
value of a row in the same ones. -/
structure LaysOut (p : Printer) (room : Room) : Prop where
  line : ∀ text, room.line text → StandsIn text (p.lines text)
  row : ∀ t : Table, ∀ row ∈ t.rows, ∃ block, block <:+: p.draw t ∧
    (room.label t row.1 → StandsIn row.1 block) ∧ (room.value t row.2 → StandsIn row.2 block)

lemma ReadsMarkup.shown_of_inert {p : Printer} (hp : p.ReadsMarkup) {s : String}
    (h : s.toList.all Markup.isInert) : p.shown (codesOf s) = .ok (codesOf s) := by
  have happend := hp.inert s [] h
  rwa [List.append_nil, hp.nil, Except.map, List.append_nil] at happend

end Printer

section Characters

variable {codes : Codes} {s : List Char}

lemma chars?_map_toNat_append (s : List Char) (codes : Codes) :
    chars? (s.map Char.toNat ++ codes) = (chars? codes).map (s ++ ·) := by
  induction s with
  | nil => simp
  | cons c s ih =>
    have hvalid : c.toNat.isValidChar := c.valid
    rw [List.map_cons, List.cons_append, chars?, if_pos hvalid, ih, Char.ofNat_toNat, Option.map_map]
    rfl

lemma chars?_map_toNat (s : List Char) : chars? (s.map Char.toNat) = some s := by
  simpa [chars?] using chars?_map_toNat_append s []

lemma toNat_ofNat {n : Nat} (h : n.isValidChar) : (Char.ofNat n).toNat = n := by
  rw [Char.ofNat, dif_pos h]
  rfl

lemma eq_of_chars? (h : chars? codes = some s) : codes = s.map Char.toNat := by
  induction codes generalizing s with
  | nil =>
    obtain rfl : [] = s := Option.some.inj h
    rfl
  | cons n codes ih =>
    rw [chars?] at h
    split at h
    · next hvalid =>
      obtain ⟨rest, hrest, rfl⟩ := Option.map_eq_some_iff.mp h
      rw [List.map_cons, ← ih hrest, toNat_ofNat hvalid]
    · exact absurd h (by simp)

lemma codesOf_ofList (s : List Char) : codesOf (String.ofList s) = s.map Char.toNat := by
  rw [codesOf, String.toList_ofList]

lemma codesOf_append (a b : String) : codesOf (a ++ b) = codesOf a ++ codesOf b := by
  rw [codesOf, String.toList_append, List.map_append, ← codesOf, ← codesOf]

lemma codesOf_injective : Function.Injective codesOf := by
  intro a b h
  have hchars := congrArg chars? h
  rw [codesOf, codesOf, chars?_map_toNat, chars?_map_toNat] at hchars
  exact String.toList_inj.mp (Option.some.inj hchars)

end Characters

namespace Printer

def Room.standard (width : Nat) : Room :=
  let widths (t : Table) := Table.columnWidths width (t.texts.2.1 :: t.texts.2.2)
  { line := fun text => ∃ s, chars? text = some s ∧ Wrap.Fits .fold width s
    label := fun t text => ∃ s, chars? text = some s ∧
      Wrap.Fits .ellipsis ((widths t).1 - Table.padding) s
    value := fun t text => ∃ s, chars? text = some s ∧
      Wrap.Fits .ellipsis ((widths t).2 - Table.padding) s }

variable {width : Nat}

lemma shown_standard_of_chars {codes : Codes} {s : List Char} (h : chars? codes = some s) :
    (standard width).shown codes =
      ((Markup.shown s).map (·.map Char.toNat)).mapError Markup.Fault.error := by
  simp only [standard, ofChars, h, Except.ok_bind]
  rcases Markup.shown s with f | t <;> rfl

lemma shown_standard_codesOf (s : String) : (standard width).shown (codesOf s) =
    ((Markup.shown s.toList).map (·.map Char.toNat)).mapError Markup.Fault.error :=
  shown_standard_of_chars (chars?_map_toNat s.toList)

/-- The console of the program reads markup. -/
theorem readsMarkup_standard (width : Nat) : (standard width).ReadsMarkup where
  nil := rfl
  inert a codes ha := by
    rcases h : chars? codes with - | s
    · have happend : chars? (codesOf a ++ codes) = none := by
        rw [codesOf, chars?_map_toNat_append, h]
        rfl
      simp only [standard, ofChars, h, happend]
      rfl
    · have happend : chars? (codesOf a ++ codes) = some (a.toList ++ s) := by
        rw [codesOf, chars?_map_toNat_append, h]
        rfl
      rw [shown_standard_of_chars h, shown_standard_of_chars happend,
        Markup.shown_append (List.all_eq_true.mp ha)]
      rcases Markup.shown s with f | t
      · rfl
      · simp [Except.map, Except.mapError, codesOf]
  tag s := by
    rintro ⟨t, ht, hin⟩ h
    rw [shown_standard_codesOf, Except.mapError_eq_ok_iff, Except.map_eq_ok_iff] at h
    obtain ⟨u, hu, hcodes⟩ := h
    obtain rfl : u = s.toList := by
      rw [← codesOf_ofList] at hcodes
      rw [← codesOf_injective hcodes, String.toList_ofList]
    exact (Markup.shown_eq_self_iff.mp hu).noTag t ht hin
  closing s h := by
    obtain ⟨f, hf⟩ := Markup.exists_shown_eq_error h
    exact ⟨f.error, by rw [shown_standard_codesOf, hf]; rfl⟩
  dim := by
    have hshown : (Markup.shown "[dim]Supporting files:[/dim]".toList).toOption =
        some "Supporting files:".toList := by decide +kernel
    rw [shown_standard_codesOf]
    rcases heq : Markup.shown "[dim]Supporting files:[/dim]".toList with f | t
    · rw [heq] at hshown
      exact absurd hshown (by simp [Except.toOption])
    · rw [heq] at hshown
      obtain rfl := Option.some.inj hshown
      rfl
  written line s h := by
    simp only [standard, ofChars] at h
    split at h
    · next chars hchars =>
      obtain rfl := Except.ok.inj h
      rw [codesOf_ofList, eq_of_chars? hchars]
    · exact absurd h (by simp [Except.map])

/-- The console of the program can write all that it draws. -/
lemma exists_mapM_encode_standard (lines : List (List Char)) :
    ∃ out, (lines.map (·.map Char.toNat)).mapM (standard width).encode = .ok out := by
  refine Except.exists_mapM_eq_ok_iff.mpr fun line hline => ?_
  obtain ⟨s, -, rfl⟩ := List.mem_map.mp hline
  exact ⟨String.ofList s, by simp [standard, ofChars, chars?_map_toNat, Except.map]⟩

lemma standsIn_map {s : List Char} {parts block : List (List Char)} (h : Wrap.Broken s parts)
    (hblock : Table.StandIn parts block) :
    StandsIn (s.map Char.toNat) (block.map (·.map Char.toNat)) := by
  refine ⟨s, parts, rfl, h, fun i hi => ?_⟩
  obtain ⟨hlength, hin⟩ := hblock i hi
  exact ⟨by simpa using hlength, by simpa using hin.map Char.toNat⟩

/-- The console of the program lays out what fits its lines and columns. -/
theorem laysOut_standard (width : Nat) : (standard width).LaysOut (.standard width) where
  line text := by
    rintro ⟨s, hs, hfits⟩
    simp only [standard, hs, Option.getD_some]
    rw [eq_of_chars? hs]
    exact standsIn_map hfits.broken_lines fun i h => ⟨h, List.infix_rfl⟩
  row t row hrow := by
    have hmem : row.map (fun codes => (chars? codes).getD []) (fun codes => (chars? codes).getD []) ∈
        t.texts.2.2 := List.mem_map_of_mem hrow
    refine ⟨_, (Table.rowLines_infix_drawn width t.texts.1 t.texts.2.1 hmem).map _, ?_, ?_⟩
    · rintro ⟨s, hs, hfits⟩
      have hlabel := Table.label_standIn_rowLines '│'
        (Table.columnWidths width (t.texts.2.1 :: t.texts.2.2))
        (row.map (fun codes => (chars? codes).getD []) fun codes => (chars? codes).getD [])
      simp only [Prod.map_fst, hs, Option.getD_some] at hlabel
      rw [eq_of_chars? hs]
      exact standsIn_map hfits.broken_lines hlabel
    · rintro ⟨s, hs, hfits⟩
      have hvalue := Table.value_standIn_rowLines '│'
        (Table.columnWidths width (t.texts.2.1 :: t.texts.2.2))
        (row.map (fun codes => (chars? codes).getD []) fun codes => (chars? codes).getD [])
      simp only [Prod.map_snd, hs, Option.getD_some] at hvalue
      rw [eq_of_chars? hs]
      exact standsIn_map hfits.broken_lines hvalue

end Printer
end StubPlan
