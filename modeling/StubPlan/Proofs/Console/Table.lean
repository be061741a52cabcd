import StubPlan.Console.Table
import StubPlan.Proofs.Console.Wrap

/-! Tables against the texts in them. Each row is drawn as a block of lines, in which the lines of its
label and those of its value stand one below the other. -/
namespace StubPlan.Table
open Unicode

/-- Parts stand in lines, each in one of them, from the first line on. -/
def StandIn (parts block : List (List Char)) : Prop :=
  ∀ i (h : i < parts.length), ∃ hblock : i < block.length, parts[i] <:+: block[i]

section Rows

variable (side : Char) (widths : Nat × Nat) (row : List Char × List Char)

lemma infix_cellLines {width : Nat} {text : List Char} {i : Nat}
    (h : i < (Wrap.lines .ellipsis (width - padding) text).length) :
    (Wrap.lines .ellipsis (width - padding) text)[i] <:+:
      (cellLines width text)[i]?.getD (List.replicate width ' ') := by
  rw [cellLines, List.getElem?_map, List.getElem?_eq_getElem h, Option.map_some, Option.getD_some]
  generalize (Wrap.lines .ellipsis (width - padding) text)[i] = line
  exact ⟨[' '], List.replicate (width - padding - cells line) ' ' ++ [' '], by simp [Wrap.padEnd]⟩

lemma length_rowLines : (rowLines side widths row).length =
    max (Wrap.lines .ellipsis (widths.1 - padding) row.1).length
      (Wrap.lines .ellipsis (widths.2 - padding) row.2).length := by
  simp [rowLines, cellLines]

lemma label_standIn_rowLines :
    StandIn (Wrap.lines .ellipsis (widths.1 - padding) row.1) (rowLines side widths row) := by
  intro i h
  refine ⟨by rw [length_rowLines]; exact h.trans_le (le_max_left _ _), ?_⟩
  refine (infix_cellLines h).trans ⟨[side], ?_⟩
  exact ⟨side :: (cellLines widths.2 row.2)[i]?.getD (List.replicate widths.2 ' ') ++ [side],
    by simp [rowLines]⟩

lemma value_standIn_rowLines :
    StandIn (Wrap.lines .ellipsis (widths.2 - padding) row.2) (rowLines side widths row) := by
  intro i h
  refine ⟨by rw [length_rowLines]; exact h.trans_le (le_max_right _ _), ?_⟩
  refine (infix_cellLines h).trans ?_
  exact ⟨side :: (cellLines widths.1 row.1)[i]?.getD (List.replicate widths.1 ' ') ++ [side],
    [side], by simp [rowLines]⟩

end Rows

lemma infix_flatMap {α β : Type} (f : α → List β) {x : α} {xs : List α} (h : x ∈ xs) :
    f x <:+: xs.flatMap f := by
  obtain ⟨before, after, rfl⟩ := List.append_of_mem h
  exact ⟨before.flatMap f, after.flatMap f, by simp⟩

/-- The lines of a row are lines of its table. -/
lemma rowLines_infix_drawn (width : Nat) (title : List Char) (header : List Char × List Char)
    {rows : List (List Char × List Char)} {row : List Char × List Char} (h : row ∈ rows) :
    rowLines '│' (columnWidths width (header :: rows)) row <:+: drawn width title header rows :=
  (infix_flatMap _ h).trans ⟨_, _, rfl⟩

end StubPlan.Table
