import StubPlan.Proofs.Options.Keeps

/-! What an option takes, one rule for each kind of value. A text loses the blanks at its ends, a blank
one stands for the default, and a number stands for its text where a text is asked for. -/
namespace StubPlan
open Text

namespace OptionField

/-- The value that an option makes of a given one. Bytes count as the text that they encode, with its
blanks; whatever writes a flag counts as one where a flag is asked for. -/
inductive Takes (f : OptionField) : Value → Value → Prop
  | blank {s : String} (h : isBlank s) : Takes f (.text s) f.default
  | text {s : String} (hflag : f.kind ≠ .flag) (h : isBlank s = false) :
    Takes f (.text s) (.text (trim s))
  | int {n : Int} (hflag : f.kind ≠ .flag) (h : isTooLong (.int n) = false) :
    Takes f (.int n) (.text (toString n))
  | float {x : Binary64} (hflag : f.kind ≠ .flag) : Takes f (.float x) (.text x.written)
  | null (h : f.kind = .optionalText) : Takes f .null .null
  | bytes {bs : List UInt8} {s : String} (hflag : f.kind ≠ .flag)
    (h : Checked.textOfBytes bs = .ok s) : Takes f (.bytes bs) (.text s)
  | halves {codes : List Nat} (hflag : f.kind ≠ .flag) :
    Takes f (.halves codes) (.halves (Chars.trimCodes codes))
  | word {s : String} {b : Bool} (hflag : f.kind = .flag) (h : isBlank s = false)
    (hword : readFlagWord (trim s) = .ok b) : Takes f (.text s) (.flag b)
  | flag {v : Value} {b : Bool} (hflag : f.kind = .flag) (htext : ∀ s, v ≠ .text s)
    (h : readFlag v = .ok b) : Takes f v (.flag b)

variable {f : OptionField} {given v : Value}

lemma normalize_of_isBlank {s : String} (h : isBlank s) : f.normalize (.text s) = f.default := by
  simp [normalize, h]

lemma normalize_of_not_isBlank {s : String} (h : isBlank s = false) :
    f.normalize (.text s) = .text (trim s) := by
  simp [normalize, h]

section Flag

variable (hflag : f.kind = .flag)
include hflag

lemma default_of_flag : f.default = .flag false := by
  rw [default, hflag]

lemma read_of_flag : f.read given = (readFlag (f.normalize given)).map Value.flag := by
  simp [OptionField.read, hflag]

lemma takes_of_readFlag {b : Bool} (h : readFlag (f.normalize given) = .ok b) :
    f.Takes given (.flag b) := by
  cases given with
  | text s =>
    rcases hs : isBlank s with _ | _
    · rw [normalize_of_not_isBlank hs] at h
      exact .word hflag hs h
    · rw [normalize_of_isBlank hs, default_of_flag hflag] at h
      rw [← Except.ok.inj h, ← default_of_flag hflag]
      exact .blank hs
  | halves codes => exact absurd h (by simp [normalize, readFlag, Checked.fault])
  | _ => exact .flag hflag (by simp) (by simpa [normalize, hflag] using h)

lemma read_of_takes_flag (h : f.Takes given v) : f.read given = .ok v := by
  rw [read_of_flag hflag, Except.map_eq_ok_iff]
  cases h with
  | blank hs =>
    rw [normalize_of_isBlank hs, default_of_flag hflag]
    exact ⟨false, rfl, rfl⟩
  | word _ hs hword =>
    rw [normalize_of_not_isBlank hs]
    exact ⟨_, hword, rfl⟩
  | flag _ htext hread =>
    refine ⟨_, ?_, rfl⟩
    cases given with
    | text s => exact absurd rfl (htext s)
    | halves codes => exact absurd hread (by simp [readFlag, Checked.fault])
    | _ => simpa [normalize, hflag] using hread
  | null hkind => exact absurd (hflag.symm.trans hkind) (by simp)
  | text hother | int hother | float hother | bytes hother | halves hother =>
    exact absurd hflag hother

end Flag

section NoFlag

/-! An option that is no flag looks at the kind of a value only. -/

variable (hflag : f.kind ≠ .flag)
include hflag

lemma read_int (n : Int) : f.read (.int n) =
    if isTooLong (.int n) then Checked.fault .unusable else .ok (.text (toString n)) := by
  cases hkind : f.kind <;> simp_all [OptionField.read, normalize, Value.scalarText?]

lemma read_float (x : Binary64) : f.read (.float x) = .ok (.text x.written) := by
  cases hkind : f.kind <;> simp_all [OptionField.read, normalize, isTooLong, Value.scalarText?]

lemma read_bytes (bs : List UInt8) :
    f.read (.bytes bs) = (Checked.textOfBytes bs).map Value.text := by
  cases hkind : f.kind <;> simp_all [OptionField.read, normalize, isTooLong]

lemma read_null_eq_ok_iff : f.read .null = .ok v ↔ f.kind = .optionalText ∧ v = .null := by
  cases hkind : f.kind with
  | flag => exact absurd hkind hflag
  | text t => simp [OptionField.read, normalize, hkind, isTooLong, Checked.fault]
  | optionalText => simp [OptionField.read, normalize, hkind, isTooLong, eq_comm (a := v)]

lemma takes_of_read (h : f.read given = .ok v) : f.Takes given v := by
  cases given with
  | text s =>
    rw [read_text hflag] at h
    obtain rfl := Except.ok.inj h
    rcases hs : isBlank s with _ | _
    · rw [normalize_of_not_isBlank hs]
      exact .text hflag hs
    · rw [normalize_of_isBlank hs]
      exact .blank hs
  | halves codes =>
    rw [read_halves hflag] at h
    obtain rfl := Except.ok.inj h
    exact .halves hflag
  | int n =>
    rw [read_int hflag] at h
    split at h
    · exact absurd h (by simp [Checked.fault])
    · next hshort =>
      obtain rfl := Except.ok.inj h
      exact .int hflag (Bool.eq_false_iff.mpr hshort)
  | float x =>
    rw [read_float hflag] at h
    obtain rfl := Except.ok.inj h
    exact .float hflag
  | null =>
    obtain ⟨hkind, rfl⟩ := (read_null_eq_ok_iff hflag).mp h
    exact .null hkind
  | bytes bs =>
    rw [read_bytes hflag] at h
    obtain ⟨s, hs, rfl⟩ := Except.map_eq_ok_iff.mp h
    exact .bytes hflag hs
  | _ =>
    -- no other value is taken where a text is asked for
    cases hkind : f.kind <;> simp_all [OptionField.read, normalize, isTooLong, Checked.fault]

lemma read_of_takes (h : f.Takes given v) : f.read given = .ok v := by
  cases h with
  | blank hs => rw [read_text hflag, normalize_of_isBlank hs]
  | text _ hs => rw [read_text hflag, normalize_of_not_isBlank hs]
  | int _ hshort => rw [read_int hflag, if_neg (Bool.eq_false_iff.mp hshort)]
  | float => exact read_float hflag _
  | null hkind => exact (read_null_eq_ok_iff hflag).mpr ⟨hkind, rfl⟩
  | bytes _ hs =>
    rw [read_bytes hflag, hs]
    rfl
  | halves => exact read_halves hflag _
  | word hother | flag hother => exact absurd hother hflag

end NoFlag

/-- An option takes a value as the rules say, and no others. -/
lemma read_eq_ok_iff : f.read given = .ok v ↔ f.Takes given v := by
  by_cases hflag : f.kind = .flag
  · refine ⟨fun h => ?_, read_of_takes_flag hflag⟩
    rw [read_of_flag hflag] at h
    obtain ⟨b, hb, rfl⟩ := Except.map_eq_ok_iff.mp h
    exact takes_of_readFlag hflag hb
  · exact ⟨takes_of_read hflag, read_of_takes hflag⟩

lemma Takes.unique {w : Value} (hv : f.Takes given v) (hw : f.Takes given w) : v = w :=
  Except.ok.inj ((read_eq_ok_iff.mpr hv).symm.trans (read_eq_ok_iff.mpr hw))

lemma takes_default (f : OptionField) : f.Takes f.default f.default :=
  read_eq_ok_iff.mp f.read_default

end OptionField
end StubPlan
