import StubPlan.Proofs.Decimal.Written
import StubPlan.Proofs.Options.Valid

/-! What an option makes of a value, and of a value that it has taken already. Trimming is done once,
but for the texts that bytes encode: those are taken with their blanks. -/
namespace StubPlan
open Text

namespace OptionField

variable {f : OptionField} {given v : Value} {s : String}

/-- Whether a text is one that an option keeps: it says something and has no blanks at its ends, or
it is what the option is when it is not set. -/
def Keeps (f : OptionField) (s : String) : Prop := IsResolved s ∨ f.default = .text s

lemma trim_eq_self_of_default (h : f.default = .text s) : trim s = s := by
  cases f <;> cases h <;> rfl

lemma normalize_text_eq_self_iff : f.normalize (.text s) = .text s ↔ f.Keeps s := by
  rcases hs : isBlank s with - | -
  · have hdefault : f.default = .text s → IsResolved s := fun h =>
      (isResolved_iff_trim_eq_self hs).mpr (trim_eq_self_of_default h)
    have hkeeps : f.Keeps s ↔ IsResolved s := or_iff_left_of_imp hdefault
    rw [hkeeps, isResolved_iff_trim_eq_self hs]
    simp [normalize, hs]
  · simp [normalize, Keeps, IsResolved, hs]

lemma keeps_of_normalize_eq (h : f.normalize given = .text s) : f.Keeps s := by
  cases given with
  | text t =>
    simp only [normalize] at h
    split at h
    · exact .inr h
    · next ht =>
      obtain rfl := Value.text.inj h
      exact .inl (isResolved_trim (Bool.eq_false_iff.mpr ht))
  | int n =>
    simp only [normalize] at h
    split at h
    · exact absurd h (by simp)
    · obtain rfl := Value.text.inj h
      exact .inl (isResolved_toString n)
  | float x =>
    simp only [normalize] at h
    split at h
    · exact absurd h (by simp)
    · obtain rfl := Value.text.inj h
      exact .inl (Binary64.isResolved_written x)
  | _ => exact absurd h (by simp [normalize])

lemma normalize_default (f : OptionField) : f.normalize f.default = f.default := by
  cases f <;> rfl

lemma read_default (f : OptionField) : f.read f.default = .ok f.default := by
  cases f <;> rfl

lemma normalize_number (f : OptionField) (h : (v matches .int _) ∨ (v matches .float _)) :
    f.normalize v = v ∨ ∃ s, f.normalize v = .text s := by
  by_cases hflag : f.kind = .flag
  · left
    cases v <;> simp_all [normalize]
  · right
    cases v <;> simp_all [normalize]

lemma eq_bytes_of_normalize_eq {bs : List UInt8} (h : f.normalize given = .bytes bs) :
    given = .bytes bs := by
  cases given with
  | bytes => exact h
  | text t =>
    have hdefault : f.default ≠ .bytes bs := by cases f <;> simp [default, kind]
    simp only [normalize] at h
    split at h
    · exact absurd h hdefault
    · exact absurd h (by simp)
  | int n | float x =>
    simp only [normalize] at h
    split at h <;> exact absurd h (by simp)
  | _ => exact absurd h (by simp [normalize])

lemma normalize_normalize (f : OptionField) (v : Value) :
    f.normalize (f.normalize v) = f.normalize v := by
  by_cases htext : ∃ s, f.normalize v = .text s
  · obtain ⟨s, hs⟩ := htext
    rw [hs]
    exact normalize_text_eq_self_iff.mpr (keeps_of_normalize_eq hs)
  · cases v with
    | text t =>
      -- a text that becomes no text is blank
      have hblank : isBlank t := by
        by_contra ht
        exact htext ⟨trim t, by simp [normalize, ht]⟩
      have hdefault : f.normalize (.text t) = f.default := by simp [normalize, hblank]
      rw [hdefault, normalize_default]
    | halves codes => simp [normalize]
    | int n =>
      have hsame := (f.normalize_number (v := .int n) (.inl rfl)).resolve_right htext
      rw [hsame, hsame]
    | float x =>
      have hsame := (f.normalize_number (v := .float x) (.inr rfl)).resolve_right htext
      rw [hsame, hsame]
    | _ => rfl

lemma exists_flag_of_read (h : f.read given = .ok v) (hflag : f.kind = .flag) :
    ∃ b, v = .flag b := by
  rw [OptionField.read, if_neg (by simp [hflag])] at h
  simp only [hflag, Except.map_eq_ok_iff] at h
  obtain ⟨b, -, hb⟩ := h
  exact ⟨b, hb.symm⟩

/-- What an option has taken has no blanks that it would lose, unless it is the text of bytes. -/
lemma normalize_eq_self_of_read (h : f.read given = .ok v) : f.normalize v = v ∨
    ∃ bs s, given = .bytes bs ∧ Checked.textOfBytes bs = .ok s ∧ v = .text s := by
  by_cases hflag : f.kind = .flag
  · obtain ⟨b, rfl⟩ := exists_flag_of_read h hflag
    exact .inl rfl
  · have hnormal {w : Value} (hw : f.normalize given = w) : f.normalize w = w := by
      rw [← hw, normalize_normalize]
    unfold OptionField.read at h
    split at h
    · exact absurd h (by simp [Checked.fault])
    · split at h
      · next hkind => exact absurd hkind hflag
      · next hnull =>
        obtain rfl := Except.ok.inj h
        exact .inl (hnormal hnull)
      · next htext _ =>
        obtain rfl := Except.ok.inj h
        exact .inl (hnormal htext)
      · next hhalves _ =>
        obtain rfl := Except.ok.inj h
        exact .inl (hnormal hhalves)
      · next bs hbytes _ =>
        obtain ⟨s, hs, rfl⟩ := Except.map_eq_ok_iff.mp h
        exact .inr ⟨bs, s, eq_bytes_of_normalize_eq hbytes, hs, rfl⟩
      · exact absurd h (by simp [Checked.fault])

lemma read_text (hflag : f.kind ≠ .flag) (s : String) :
    f.read (.text s) = .ok (f.normalize (.text s)) := by
  cases hkind : f.kind with
  | flag => exact absurd hkind hflag
  | text | optionalText =>
    by_cases hs : isBlank s <;>
      simp [OptionField.read, normalize, OptionField.default, hkind, isTooLong, hs]

lemma read_halves (hflag : f.kind ≠ .flag) (codes : List Nat) :
    f.read (.halves codes) = .ok (f.normalize (.halves codes)) := by
  cases hkind : f.kind with
  | flag => exact absurd hkind hflag
  | text | optionalText => simp [OptionField.read, normalize, hkind, isTooLong]

/-- What an option has taken it takes again, without its blanks. -/
lemma read_of_read (h : f.read given = .ok v) : f.read v = .ok (f.normalize v) := by
  by_cases hflag : f.kind = .flag
  · obtain ⟨b, rfl⟩ := exists_flag_of_read h hflag
    simp [OptionField.read, normalize, hflag, readFlag, Except.map]
  · rcases admits_of_read h with hadmits | ⟨codes, rfl⟩
    · obtain rfl | ⟨s, rfl⟩ := OptionKind.null_or_text_of_admits hadmits hflag
      · have hkind : f.kind = .optionalText := by
          cases hkind : f.kind <;> simp_all [OptionKind.admits]
        simp [OptionField.read, normalize, hkind, isTooLong]
      · exact read_text hflag s
    · exact read_halves hflag codes

end OptionField

end StubPlan
