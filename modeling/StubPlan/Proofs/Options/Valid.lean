import StubPlan.Options.Resolve
import StubPlan.Proofs.Except

/-! Options whose values are of the kinds that the options take. Whatever document, environment and
files options are read from, they are of these kinds; only codes that make no text may stand where a
text is asked for. -/
namespace StubPlan

def OptionKind.admits : OptionKind → Value → Bool
  | .text _, .text _ | .optionalText, .text _ => true
  | .optionalText, .null => true
  | .flag, .flag _ => true
  | _, _ => false

namespace OptionKind

variable {kind : OptionKind} {v : Value}

lemma exists_text_of_admits {default : String} (h : (OptionKind.text default).admits v) :
    ∃ s, v = .text s := by
  cases v with
  | text s => exact ⟨s, rfl⟩
  | _ => exact absurd h Bool.false_ne_true

/-- An option that is no flag has a text or nothing. -/
lemma null_or_text_of_admits (h : kind.admits v) (hkind : kind ≠ .flag) :
    v = .null ∨ ∃ s, v = .text s := by
  cases kind with
  | text default => exact .inr (exists_text_of_admits h)
  | optionalText =>
    cases v with
    | null => exact .inl rfl
    | text s => exact .inr ⟨s, rfl⟩
    | _ => exact absurd h Bool.false_ne_true
  | flag => exact absurd rfl hkind

end OptionKind

namespace OptionField

variable {f : OptionField} {v : Value}

lemma admits_default (f : OptionField) : f.kind.admits f.default := by
  cases f <;> rfl

lemma admits_text (h : f.kind ≠ .flag) (s : String) : f.kind.admits (.text s) := by
  cases hkind : f.kind with
  | text => rfl
  | optionalText => rfl
  | flag => exact absurd hkind h

/-- A value that is read is of the option's kind, or is codes that make no text. -/
lemma admits_of_read {given : Value} (h : f.read given = .ok v) :
    f.kind.admits v ∨ ∃ codes, v = .halves codes := by
  unfold OptionField.read at h
  split at h
  · exact absurd h (by simp [Checked.fault])
  · split at h
    · next hkind =>
      obtain ⟨b, -, rfl⟩ := Except.map_eq_ok_iff.mp h
      exact .inl (by rw [hkind]; rfl)
    · next hkind _ =>
      obtain rfl := Except.ok.inj h
      exact .inl (by rw [hkind]; rfl)
    · next hflag =>
      obtain rfl := Except.ok.inj h
      exact .inl (admits_text hflag _)
    · exact .inr ⟨_, (Except.ok.inj h).symm⟩
    · next hflag =>
      obtain ⟨s, -, rfl⟩ := Except.map_eq_ok_iff.mp h
      exact .inl (admits_text hflag s)
    · exact absurd h (by simp [Checked.fault])

lemma admits_of_resolve {sources : List OptionSource} (h : f.resolve sources = .ok v) :
    f.kind.admits v ∨ ∃ codes, v = .halves codes := by
  unfold OptionField.resolve at h
  split at h
  · next given _ =>
    rcases hread : f.read given with faults | w
    · rw [hread] at h
      exact absurd h (by simp [Checked.under])
    · rw [hread] at h
      obtain rfl : w = v := Except.ok.inj h
      exact admits_of_read hread
  · obtain rfl := Except.ok.inj h
    exact .inl (admits_default f)

end OptionField

namespace Options

variable {o : Options}

def IsValid (o : Options) : Prop := ∀ f : OptionField, f.kind.admits (o.value f)

def unset : Options := ⟨OptionField.default⟩

lemma isValid_unset : unset.IsValid := OptionField.admits_default

lemma IsValid.set (h : o.IsValid) {f : OptionField} {v : Value} (hv : f.kind.admits v) :
    (o.set f v).IsValid := by
  intro g
  by_cases hg : g = f
  · subst hg
    simpa [Options.set] using hv
  · simpa [Options.set, hg] using h g

lemma admits_of_ofSources {sources : List OptionSource} {unknown : List String}
    (h : ofSources sources unknown = .ok o) (f : OptionField) :
    f.kind.admits (o.value f) ∨ ∃ codes, o.value f = .halves codes := by
  unfold ofSources at h
  split at h
  · obtain rfl := Except.ok.inj h
    rcases hf : f.resolve sources with faults | v
    · simp only [hf]
      exact .inl (OptionField.admits_default f)
    · simp only [hf]
      exact OptionField.admits_of_resolve hf
  · exact absurd h (by simp)

/-- When a document names the sources itself, there are none. -/
lemma ofSources_of_ofNamedSources {named : Value} (h : ofNamedSources named = .ok o) :
    ofSources [] [] = .ok o := by
  have hnone {v : Value} (h : (if v.isEmpty then (ofSources [] []).mapError .faults
      else .error OptionsError.unfitDirective) = .ok o) : ofSources [] [] = .ok o := by
    split at h
    · exact Except.mapError_eq_ok_iff.mp h
    · exact absurd h (by simp)
  unfold ofNamedSources at h
  split at h
  · exact hnone h
  · exact hnone h
  · split at h <;> exact absurd h (by simp)
  all_goals exact absurd h (by simp)

/-- Options are always made of some sources, with some names unknown to them. -/
lemma exists_ofSources_of_read {document : Value} {s : Surroundings}
    (h : Options.read document s = .ok o) :
    ∃ sources unknown, ofSources sources unknown = .ok o := by
  unfold Options.read at h
  split at h
  · split at h
    · split at h
      · exact ⟨[], [], ofSources_of_ofNamedSources h⟩
      · simp only [ofInput, Except.bind_eq_ok_iff, Except.mapError_eq_ok_iff] at h
        obtain ⟨d, -, assigned, -, front, -, folders, -, h⟩ := h
        exact ⟨_, _, h⟩
    · exact absurd h (by simp)
  · exact absurd h (by simp)

/-- Whatever is read, options have values of their kinds, unless codes that make no text are among
them. -/
theorem isValid_of_read {document : Value} {s : Surroundings} (h : Options.read document s = .ok o)
    (htexts : ∀ f codes, o.value f ≠ .halves codes) : o.IsValid := by
  obtain ⟨sources, unknown, hsources⟩ := exists_ofSources_of_read h
  intro f
  refine (admits_of_ofSources hsources f).resolve_right ?_
  rintro ⟨codes, hcodes⟩
  exact htexts f codes hcodes

end Options
end StubPlan
