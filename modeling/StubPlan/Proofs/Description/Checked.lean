import Mathlib.Data.List.Basic
import StubPlan.Description.Fault
import StubPlan.Proofs.Except

/-! Checks that go on after a fault. Together they give their values only if each of them does, and
what is done to the places of their faults is done to each of them. -/
namespace StubPlan.Checked

variable {α β : Type}

section Values

variable {x : Checked α} {y : Checked β} {a : α} {b : β} {step : Step}

@[simp] lemma under_ok : under step (.ok a : Checked α) = .ok a := rfl

@[simp] lemma under_eq_ok_iff : under step x = .ok a ↔ x = .ok a := by
  cases x <;> simp [under]

@[simp] lemma both_ok : both (.ok a : Checked α) (.ok b : Checked β) = .ok (a, b) := rfl

@[simp] lemma both_eq_ok_iff : both x y = .ok (a, b) ↔ x = .ok a ∧ y = .ok b := by
  cases x <;> cases y <;> simp [both]

@[simp] lemma fault_ne_ok {kind : FaultKind} : (fault kind : Checked α) ≠ .ok a := by
  simp [fault]

@[simp] lemma fault_ne_error_nil {kind : FaultKind} : (fault kind : Checked α) ≠ .error [] := by
  simp [fault]

lemma map_ne_error_nil (h : x ≠ .error []) (g : α → β) : x.map g ≠ .error [] := by
  cases x <;> simp_all [Except.map]

lemma under_ne_error_nil (h : x ≠ .error []) (step : Step) : under step x ≠ .error [] := by
  cases x <;> simp_all [under]

/-- All checks give values exactly when each of them gives its own. -/
lemma all_eq_ok_iff {xs : List (Checked α)} {values : List α} :
    all xs = .ok values ↔ xs = values.map .ok := by
  induction xs generalizing values with
  | nil => cases values <;> simp [all]
  | cons x rest ih =>
    rw [all, Except.map_eq_ok_iff]
    constructor
    · rintro ⟨⟨a, more⟩, hboth, rfl⟩
      obtain ⟨rfl, hrest⟩ := both_eq_ok_iff.mp hboth
      rw [List.map_cons, ih.mp hrest]
    · intro h
      cases values with
      | nil => exact absurd h (by simp)
      | cons a more =>
        obtain ⟨rfl, hrest⟩ := List.cons.inj h
        exact ⟨(a, more), both_eq_ok_iff.mpr ⟨rfl, ih.mpr hrest⟩, rfl⟩

end Values

section Places

/-! Faults that are told with another spelling of the path to them. -/

/-- The same outcome with its faults at other places. -/
def relocate (place : List Step → List Step) (x : Checked α) : Checked α :=
  x.mapError (List.map fun f => { f with path := place f.path })

variable {place inner : List Step → List Step} {x : Checked α} {y : Checked β}

lemma relocate_eq_self (h : ∀ path, place path = path) : relocate place x = x := by
  cases x <;> simp [relocate, Except.mapError, h]

lemma relocate_map {f : α → β} : relocate place (x.map f) = (relocate place x).map f := by
  cases x <;> rfl

lemma relocate_both : relocate place (both x y) = both (relocate place x) (relocate place y) := by
  cases x <;> cases y <;> simp [relocate, both, Except.mapError]

lemma relocate_all {xs : List (Checked α)} :
    relocate place (all xs) = all (xs.map (relocate place)) := by
  induction xs with
  | nil => rfl
  | cons x rest ih => rw [List.map_cons, all, all, relocate_map, relocate_both, ih]

lemma relocate_fault {kind : FaultKind} (h : place [] = []) :
    relocate place (fault kind : Checked α) = fault kind := by
  simp [relocate, fault, Except.mapError, h]

/-- Places below a step are those places below the step that the step becomes. -/
lemma relocate_under {step image : Step} (h : ∀ path, place (step :: path) = image :: inner path) :
    relocate place (under step x) = under image (relocate inner x) := by
  cases x <;> simp [relocate, under, Except.mapError, h]

end Places

end StubPlan.Checked
