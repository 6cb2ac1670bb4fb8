import AbiBindings.Json.Row
import AbiBindings.Proofs.Success
import Mathlib.Data.List.Nodup

/-!
# Json — objects and the records they spell

Order and values of the members of an object are free; what a reader relies on is which keys there
are and what stands under each of them. This module says so of objects and carries it over to records
that are read from objects.

* `keysOnce` — every object, however deep, has each of its keys once;
* `OnlyKeys` — an object without any other keys;
* `Row.need_eq_ok`, `Row.maybe_eq_ok` — columns by name;
* `Shape.read_bind_eq_ok` — a record is read from an object exactly if the object has no other keys
  than the columns and the columns can be taken from it.
-/

namespace AbiBindings.Json

/-! ## Keys -/

mutual

/-- Whether every object inside the value has each of its keys once. -/
def keysOnce : Json → Bool
  | .array items => itemsKeysOnce items
  | .object members => decide (members.map (·.1)).Nodup && membersKeysOnce members
  | _ => true

/-- The same for each of several items. -/
def itemsKeysOnce : List Json → Bool
  | [] => true
  | item :: rest => item.keysOnce && itemsKeysOnce rest

/-- The same for the values of several members. -/
def membersKeysOnce : List (String × Json) → Bool
  | [] => true
  | member :: rest => memberKeysOnce member && membersKeysOnce rest

/-- The same for the value of a member. -/
def memberKeysOnce : String × Json → Bool
  | (_, value) => value.keysOnce

end

/-- An object without keys other than `keys`. -/
def OnlyKeys (keys : List String) : Json → Prop
  | .object members => ∀ member ∈ members, member.1 ∈ keys
  | _ => False

/-- Where each key stands once, a member is what its key leads to. -/
theorem lookup_of_mem {members : List (String × Json)} (hOnce : (members.map (·.1)).Nodup)
    {key : String} {value : Json} (h : (key, value) ∈ members) :
    members.lookup key = some value := by
  induction members with
  | nil => simp at h
  | cons member members ih =>
    obtain ⟨other, otherValue⟩ := member
    rw [List.map_cons, List.nodup_cons] at hOnce
    -- the key is that of the first member, or of a later one and then not that of the first
    rcases List.mem_cons.mp h with hHead | hTail
    · obtain ⟨rfl, rfl⟩ := Prod.mk.inj hHead
      exact List.lookup_cons_self
    · have hNe : key ≠ other := fun hEq =>
        hOnce.1 (hEq ▸ List.mem_map.mpr ⟨(key, value), hTail, rfl⟩)
      rw [List.lookup_cons, beq_false_of_ne hNe]
      exact ih hOnce.2 hTail

theorem membersKeysOnce_iff {members : List (String × Json)} :
    membersKeysOnce members = true ↔ ∀ member ∈ members, member.2.keysOnce = true := by
  induction members with
  | nil => simp [membersKeysOnce]
  | cons member members ih =>
    obtain ⟨key, value⟩ := member
    rw [membersKeysOnce, Bool.and_eq_true, List.forall_mem_cons, ih, memberKeysOnce]

theorem itemsKeysOnce_iff {items : List Json} :
    itemsKeysOnce items = true ↔ ∀ item ∈ items, item.keysOnce = true := by
  induction items with
  | nil => simp [itemsKeysOnce]
  | cons item items ih => simp [itemsKeysOnce, ih]

theorem nodup_of_keysOnce {members : List (String × Json)}
    (h : (Json.object members).keysOnce = true) : (members.map (·.1)).Nodup := by
  simp only [keysOnce, Bool.and_eq_true, decide_eq_true_eq] at h
  exact h.1

/-- The values in such an object are such values. -/
theorem keysOnce_of_mem_members {members : List (String × Json)}
    (h : (Json.object members).keysOnce = true) {member : String × Json} (hMem : member ∈ members) :
    member.2.keysOnce = true := by
  simp only [keysOnce, Bool.and_eq_true] at h
  exact membersKeysOnce_iff.mp h.2 member hMem

theorem keysOnce_of_mem_items {items : List Json} (h : (Json.array items).keysOnce = true)
    {item : Json} (hMem : item ∈ items) : item.keysOnce = true :=
  itemsKeysOnce_iff.mp h item hMem

/-- A value with a member is an object. -/
theorem exists_members_of_member? {value : Json} {key : String} {inner : Json}
    (h : value.member? key = some inner) :
    ∃ members, value = .object members ∧ members.lookup key = some inner := by
  cases value with
  | object members => exact ⟨members, rfl, h⟩
  | _ => simp [member?] at h

/-- So is what stands under a key. -/
theorem keysOnce_of_member? {value : Json} {key : String} {inner : Json}
    (hOnce : value.keysOnce = true) (h : value.member? key = some inner) :
    inner.keysOnce = true := by
  obtain ⟨members, rfl, hLookup⟩ := exists_members_of_member? h
  exact keysOnce_of_mem_members hOnce (mem_of_lookup hLookup)

/-! ## Depth -/

/-- An item is less deep than its array. -/
theorem depth_lt_of_mem_items {items : List Json} {item : Json} (h : item ∈ items) :
    item.depth < (Json.array items).depth := by
  -- on the items, of which the first may be the one
  have hLe : item.depth ≤ depthOfItems items := by
    induction items with
    | nil => simp at h
    | cons other items ih =>
      rw [depthOfItems]
      rcases List.mem_cons.mp h with rfl | hTail
      · exact Nat.le_max_left _ _
      · exact Nat.le_trans (ih hTail) (Nat.le_max_right _ _)
  rw [depth]
  omega

/-- What stands under a key is less deep than the object. -/
theorem depth_lt_of_member? {value : Json} {key : String} {inner : Json}
    (h : value.member? key = some inner) : inner.depth < value.depth := by
  obtain ⟨members, rfl, hLookup⟩ := exists_members_of_member? h
  have hMem := mem_of_lookup hLookup
  have hLe : inner.depth ≤ depthOfMembers members := by
    clear hLookup h
    -- on the members, of which the first may be the one
    induction members with
    | nil => simp at hMem
    | cons other members ih =>
      rw [depthOfMembers]
      rcases List.mem_cons.mp hMem with rfl | hTail
      · exact Nat.le_max_left _ _
      · exact Nat.le_trans (ih hTail) (Nat.le_max_right _ _)
  rw [depth]
  omega

/-! ## Single values -/

theorem readText_eq_ok {value : Json} {s : String} :
    readText value = .ok s ↔ value = .string s := by
  cases value <;> simp [readText]

theorem readBool_eq_ok {value : Json} {flag : Bool} :
    readBool value = .ok flag ↔ value = .bool flag := by
  cases value <;> simp [readBool]

/-- An unsigned number is read from a number that is written as one, and not from a negative one or a
fraction. -/
theorem readUnsignedNumber_eq_ok {value : Json} {n : UInt64} :
    readUnsignedNumber value = .ok n ↔ value = .number (.unsigned n) := by
  unfold readUnsignedNumber
  split <;> simp_all

section Readers

variable {α : Type} {readItem : Json → Except Fault α}

/-- An optional value is none if it is `null`, and else what the reader makes of it. -/
theorem readOptional_eq_ok {value : Json} {a? : Option α} :
    readOptional readItem value = .ok a? ↔
      (value = .null ∧ a? = none) ∨ (value ≠ .null ∧ ∃ a, readItem value = .ok a ∧ a? = some a) := by
  unfold readOptional
  split
  next => simp [eq_comm]
  next hNull =>
    have hNe : value ≠ .null := hNull
    rw [map_eq_ok]
    simp [hNe, eq_comm]

theorem readList_eq_ok {value : Json} {as : List α} :
    readList readItem value = .ok as ↔
      ∃ items, value = .array items ∧ List.Forall₂ (fun item a => readItem item = .ok a) items as := by
  cases value <;> simp [readList, mapM_eq_ok_iff]

/-- A table is read from an object, entry by entry, in the order of its members. -/
theorem readTable_eq_ok {value : Json} {entries : List (String × α)} :
    readTable readItem value = .ok entries ↔
      ∃ members, value = .object members ∧
        List.Forall₂ (fun member entry => member.1 = entry.1 ∧ readItem member.2 = .ok entry.2)
          members entries := by
  -- an entry keeps its name
  have hEntry : ∀ (member : String × Json) (entry : String × α),
      (member.1, ·) <$> readItem member.2 = .ok entry ↔
        member.1 = entry.1 ∧ readItem member.2 = .ok entry.2 := by
    intro member entry
    obtain ⟨key, inner⟩ := member
    obtain ⟨name, a⟩ := entry
    rw [map_eq_ok]
    constructor
    · intro h
      obtain ⟨b, hRead, hEntry⟩ := h
      obtain ⟨rfl, rfl⟩ := Prod.mk.inj hEntry
      exact ⟨rfl, hRead⟩
    · intro h
      obtain ⟨rfl, hRead⟩ := h
      exact ⟨a, hRead, rfl⟩
  cases value <;> simp [readTable, mapM_eq_ok_iff, hEntry]

/-! ## Columns -/

/-- A column that is needed is there and can be read. -/
theorem Row.need_eq_ok {row : Row} {key : String} {a : α} :
    row.need key readItem = .ok a ↔ ∃ value, row.lookup key = some value ∧ readItem value = .ok a := by
  unfold Row.need
  cases hLookup : row.lookup key with
  | some value => simp
  | none => simp

/-- A column that may be missing stands for a fixed value then. -/
theorem Row.maybe_eq_ok {row : Row} {key : String} {absent a : α} :
    row.maybe key absent readItem = .ok a ↔
      (row.lookup key = none ∧ a = absent) ∨
        ∃ value, row.lookup key = some value ∧ readItem value = .ok a := by
  unfold Row.maybe
  cases hLookup : row.lookup key with
  | some value => simp
  | none => simp [eq_comm]

end Readers

/-! ## Records -/

/-- The check of the members passes if each has a column and passes the check of that. -/
theorem checkMembers_eq_ok {columns : List Column} {members : List (String × Json)} :
    checkMembers columns members = .ok () ↔
      ∀ member ∈ members,
        ∃ column, columns.find? (·.key == member.1) = some column ∧ column.check member.2 = .ok () := by
  induction members with
  | nil => exact ⟨fun _ => by simp, fun _ => rfl⟩
  | cons member members ih =>
    obtain ⟨key, value⟩ := member
    rw [checkMembers, List.forall_mem_cons, ← ih]
    cases hFind : columns.find? (·.key == key) with
    -- a member without a column is an error
    | none => simp [throw, throwThe, MonadExceptOf.throw, bind, Except.bind]
    | some column =>
      -- a member is checked by its own column before the next one is looked at
      rw [bind_eq_ok]
      constructor
      · intro h
        obtain ⟨⟨⟩, hCheck, hRest⟩ := h
        exact ⟨⟨column, rfl, hCheck⟩, hRest⟩
      · intro h
        obtain ⟨⟨other, hOther, hCheck⟩, hRest⟩ := h
        obtain rfl := Option.some.inj hOther
        exact ⟨(), hCheck, hRest⟩

/-- An object that is read as a record has no keys but those of the columns. -/
theorem Shape.onlyKeys_of_read {shape : Shape} {place : Place} {members : List (String × Json)}
    {row : Row} (h : shape.read place (.object members) = .ok row) :
    row = members ∧ OnlyKeys (shape.columns.map (·.key)) (.object members) := by
  simp only [Shape.read, bind_eq_ok, pure_eq_ok] at h
  obtain ⟨⟨⟩, hCheck, rfl⟩ := h
  refine ⟨rfl, fun member hMember => ?_⟩
  obtain ⟨column, hFind, -⟩ := checkMembers_eq_ok.mp hCheck member hMember
  -- the column was found by the key of the member
  have hKey := List.find?_some hFind
  exact List.mem_map.mpr ⟨column, List.mem_of_find?_eq_some hFind, by simpa using hKey⟩

/-- An object is read as a record if it has no keys but those of the columns, each of them once, and
what stands in a column passes its check. -/
theorem Shape.read_of_onlyKeys {shape : Shape} {place : Place} {members : List (String × Json)}
    (hOnce : (members.map (·.1)).Nodup)
    (hKeys : OnlyKeys (shape.columns.map (·.key)) (.object members))
    (hCheck : ∀ column ∈ shape.columns, ∀ value, members.lookup column.key = some value →
      column.check value = .ok ()) :
    shape.read place (.object members) = .ok members := by
  have hMembers : checkMembers shape.columns members = .ok () := by
    refine checkMembers_eq_ok.mpr fun member hMember => ?_
    obtain ⟨column, hColumn, hKey⟩ := List.mem_map.mp (hKeys member hMember)
    have hSome : (shape.columns.find? (·.key == member.1)).isSome :=
      List.find?_isSome.mpr ⟨column, hColumn, by simpa using hKey⟩
    obtain ⟨found, hFind⟩ := Option.isSome_iff_exists.mp hSome
    have hFound : found.key = member.1 := by simpa using List.find?_some hFind
    -- the check is on what the key leads to, which is this member as its key stands once
    have hLookup : members.lookup found.key = some member.2 := by
      rw [hFound]
      exact lookup_of_mem hOnce hMember
    exact ⟨found, hFind, hCheck found (List.mem_of_find?_eq_some hFind) member.2 hLookup⟩
  rw [Shape.read, hMembers]
  rfl

section Columns

variable {α : Type} {readItem : Json → Except Fault α} {row : Row} {key : String} {value : Json}

/-- A column that was taken has passed its check. -/
theorem Column.check_of_need {a : α} (h : row.need key readItem = .ok a)
    (hLookup : row.lookup key = some value) :
    (Column.needed key readItem).check value = .ok () := by
  obtain ⟨found, hFound, hRead⟩ := Row.need_eq_ok.mp h
  obtain rfl := Option.some.inj (hFound.symm.trans hLookup)
  exact discard_eq_ok.mpr ⟨a, hRead⟩

/-- So has a column that may be missing, if it is there. -/
theorem Column.check_of_maybe {absent a : α} (h : row.maybe key absent readItem = .ok a)
    (hLookup : row.lookup key = some value) :
    (Column.optional key readItem).check value = .ok () := by
  rcases Row.maybe_eq_ok.mp h with ⟨hNone, -⟩ | ⟨found, hFound, hRead⟩
  · simp [hNone] at hLookup
  · obtain rfl := Option.some.inj (hFound.symm.trans hLookup)
    exact discard_eq_ok.mpr ⟨a, hRead⟩

/-- **Records from objects.** Where taking the columns implies their checks, a value that is no array
is read as a record exactly if it is an object with no keys but those of the columns, and the columns
can be taken from it. -/
theorem Shape.read_bind_eq_ok {shape : Shape} {place : Place} {d : Json} {take : Row → Except Fault α}
    {a : α} (hArray : ∀ items, d ≠ .array items)
    (hOnce : ∀ members, d = .object members → (members.map (·.1)).Nodup)
    (hCheck : ∀ members : Row, take members = .ok a → ∀ column ∈ shape.columns,
      ∀ value, members.lookup column.key = some value → column.check value = .ok ()) :
    (shape.read place d >>= take) = .ok a ↔
      ∃ members, d = .object members ∧ OnlyKeys (shape.columns.map (·.key)) d ∧
        take members = .ok a := by
  -- a value that is neither an array nor an object is not read at all
  rw [bind_eq_ok]
  constructor
  · intro h
    obtain ⟨row, hRow, hTake⟩ := h
    cases d with
    | object members =>
      obtain ⟨rfl, hKeys⟩ := Shape.onlyKeys_of_read hRow
      exact ⟨row, rfl, hKeys, hTake⟩
    | array items => exact absurd rfl (hArray items)
    | _ => simp [Shape.read] at hRow
  · intro h
    obtain ⟨members, rfl, hKeys, hTake⟩ := h
    exact ⟨members, Shape.read_of_onlyKeys (hOnce members rfl) hKeys (hCheck members hTake), hTake⟩

end Columns

end AbiBindings.Json
