import Mathlib.Data.List.Nodup
import StubPlan.Table

/-! Tables made of entries have every name of the entries once, and nothing but entries. -/
namespace StubPlan.Table

variable {α : Type} {entry e : String × α} {t entries : List (String × α)}

lemma mem_of_mem_put (h : e ∈ put entry t) : e = entry ∨ e ∈ t := by
  induction t with
  | nil => exact .inl (List.mem_singleton.mp h)
  | cons first rest ih =>
    rw [put] at h
    split at h
    · exact (List.mem_cons.mp h).imp_right (List.mem_cons_of_mem first)
    · rcases List.mem_cons.mp h with rfl | h
      · exact .inr List.mem_cons_self
      · exact (ih h).imp_right (List.mem_cons_of_mem first)

lemma map_fst_put (entry : String × α) (t : List (String × α)) :
    (put entry t).map Prod.fst =
      if entry.1 ∈ t.map Prod.fst then t.map Prod.fst else t.map Prod.fst ++ [entry.1] := by
  induction t with
  | nil => rfl
  | cons first rest ih =>
    by_cases hname : first.1 = entry.1
    · simp [put, hname]
    · have hne : entry.1 ≠ first.1 := fun h => hname h.symm
      rw [put, if_neg hname, List.map_cons, ih]
      by_cases hin : entry.1 ∈ rest.map Prod.fst <;> simp [hin, hne]

/-- A new name comes last. -/
lemma put_of_not_mem (h : entry.1 ∉ t.map Prod.fst) : put entry t = t ++ [entry] := by
  induction t with
  | nil => rfl
  | cons first rest ih =>
    rw [List.map_cons, List.mem_cons, not_or] at h
    rw [put, if_neg (fun hname => h.1 hname.symm), ih h.2, List.cons_append]

lemma nodup_put (h : (t.map Prod.fst).Nodup) : ((put entry t).map Prod.fst).Nodup := by
  rw [map_fst_put]
  split
  · exact h
  · next hnew =>
    refine List.nodup_append.mpr ⟨h, List.nodup_singleton _, fun a ha b hb hab => ?_⟩
    rw [hab, List.mem_singleton.mp hb] at ha
    exact hnew ha

/-- What every entry keeps, and the empty table has, the table of some entries has. -/
lemma ofEntries_induction {P : List (String × α) → Prop} (hnil : P [])
    (hput : ∀ e ∈ entries, ∀ t, P t → P (put e t)) : P (ofEntries entries) :=
  List.foldlRecOn entries _ hnil fun t ht e he => hput e he t ht

lemma nodup_ofEntries (entries : List (String × α)) : ((ofEntries entries).map Prod.fst).Nodup :=
  ofEntries_induction (P := fun t => (t.map Prod.fst).Nodup) List.nodup_nil
    fun _ _ _ => nodup_put

lemma mem_of_mem_ofEntries (h : e ∈ ofEntries entries) : e ∈ entries := by
  refine ofEntries_induction (P := fun t => ∀ e ∈ t, e ∈ entries) (by simp) ?_ e h
  intro entry hentry t ht e he
  obtain rfl | he := mem_of_mem_put he
  · exact hentry
  · exact ht e he

lemma mem_names_put {name : String} :
    name ∈ (put entry t).map Prod.fst ↔ name ∈ t.map Prod.fst ∨ name = entry.1 := by
  rw [map_fst_put]
  split
  · next hin =>
    refine ⟨.inl, ?_⟩
    rintro (h | rfl)
    · exact h
    · exact hin
  · rw [List.mem_append, List.mem_singleton]

/-- A table has the names of its entries. -/
lemma mem_names_ofEntries {name : String} :
    name ∈ (ofEntries entries).map Prod.fst ↔ name ∈ entries.map Prod.fst := by
  have hgo : ∀ t : List (String × α),
      name ∈ (entries.foldl (fun done entry => put entry done) t).map Prod.fst ↔
        name ∈ t.map Prod.fst ∨ name ∈ entries.map Prod.fst := by
    induction entries with
    | nil => simp
    | cons entry rest ih =>
      intro t
      rw [List.foldl_cons, ih, mem_names_put, List.map_cons, List.mem_cons, or_assoc]
  exact (hgo []).trans (or_iff_right List.not_mem_nil)

/-- Entries of different names are a table already. -/
lemma ofEntries_eq_self (h : (entries.map Prod.fst).Nodup) : ofEntries entries = entries := by
  have hgo : ∀ t : List (String × α), ((t ++ entries).map Prod.fst).Nodup →
      entries.foldl (fun done entry => put entry done) t = t ++ entries := by
    clear h
    induction entries with
    | nil => simp
    | cons entry rest ih =>
      intro t ht
      have hnew : entry.1 ∉ t.map Prod.fst := by
        rw [List.map_append, List.nodup_append] at ht
        exact fun hin => ht.2.2 _ hin _ List.mem_cons_self rfl
      rw [List.foldl_cons, put_of_not_mem hnew, ih _ (by simpa using ht)]
      simp
  exact hgo [] h

end StubPlan.Table
