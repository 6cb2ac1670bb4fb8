import AbiBindings.Proofs.Json.Objects

/-!
# Json — records spelled as arrays

A record may be spelled as an array, with its columns in their own order. Then its row pairs the keys of the
columns with the items, from the left; columns at the end may be left out if they need not be there.

* `Shape.row_of_array` — the row of a record that is read from an array.
-/

namespace AbiBindings.Json

/-- Items that pass the checks stand beside columns, from the left, and there are not more of them. -/
theorem checkItems_eq_ok {shape : Shape} {place : Place} {position : Nat} {columns : List Column}
    {items : List Json} {row : Row} (h : checkItems shape place position columns items = .ok row) :
    items.length ≤ columns.length ∧ row = (columns.map (·.key)).zip items := by
  -- on the columns, beside which the items are taken one by one
  induction columns generalizing position items row with
  | nil =>
    cases items with
    | nil =>
      obtain rfl := Except.ok.inj h
      exact ⟨Nat.le_refl _, rfl⟩
    | cons item items => simp [checkItems] at h
  | cons column columns ih =>
    cases items with
    | nil =>
      rw [checkItems] at h
      split at h
      next => simp at h
      next =>
        obtain ⟨-, rfl⟩ := ih h
        exact ⟨Nat.zero_le _, by simp⟩
    | cons item items =>
      rw [checkItems, bind_eq_ok] at h
      obtain ⟨-, -, h⟩ := h
      obtain ⟨rest, hRest, hRow⟩ := bind_eq_ok.mp h
      obtain rfl := pure_eq_ok.mp hRow
      obtain ⟨hLength, rfl⟩ := ih hRest
      exact ⟨Nat.succ_le_succ hLength, rfl⟩

/-- An array that is read as a record has no more items than there are columns, and they stand in the columns
from the left. -/
theorem Shape.row_of_array {shape : Shape} {place : Place} {items : List Json} {row : Row}
    (h : shape.read place (.array items) = .ok row) :
    items.length ≤ shape.columns.length ∧ row = (shape.columns.map (·.key)).zip items :=
  checkItems_eq_ok h

end AbiBindings.Json
