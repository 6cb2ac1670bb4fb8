import AbiBindings.Bindings.Generate
import AbiBindings.Proofs.Success
import Mathlib.Data.List.Nodup

/-!
# Bindings — the first repetition

Three searches look for a name that is taken: among the claims of a module, among the bindings of a
client, among the parameters of a method. Each goes through a list once, with what it has seen so far
beside it. What they find is stated here without the search: the first element whose key an earlier
element has, together with that earlier element.

* `FirstRepeat` — the first repetition of a key; there is at most one (`FirstRepeat.unique`);
* `Searched` — the right answer of a search: nothing if all keys differ, the first repetition if not;
* `firstClash?_searched`, `firstRepeat?_searched`, `firstSharedBinding?_searched` — the searches
  answer right;
* `checkClaims_eq_error`, `checkParameters_eq_error`, `checkBindings_eq_error`, and `_eq_ok` for
  each — the checks that are built on them.
-/

namespace AbiBindings.Bindings

open Manifest (Method)

/-! ## Repetitions -/

section Repetitions

variable {α β : Type} {key : α → String} {items : List α} {earlier later : α}

/-- `later` is the first of `items` that has the key of an earlier one, and `earlier` is that one. -/
def FirstRepeat (key : α → String) (items : List α) (earlier later : α) : Prop :=
  ∃ before after, items = before ++ later :: after ∧ (before.map key).Nodup ∧
    earlier ∈ before ∧ key earlier = key later

/-- An element whose key an earlier one has. -/
theorem not_nodup_of_mem {before after : List α} (hMem : earlier ∈ before)
    (hKey : key earlier = key later) : ¬ ((before ++ later :: after).map key).Nodup := by
  intro hNodup
  rw [List.map_append, List.map_cons] at hNodup
  have hDisjoint := (List.nodup_append.mp hNodup).2.2
  exact hDisjoint (key earlier) (List.mem_map_of_mem hMem) (key later) List.mem_cons_self hKey

theorem FirstRepeat.not_nodup (h : FirstRepeat key items earlier later) :
    ¬ (items.map key).Nodup := by
  obtain ⟨before, after, rfl, -, hMem, hKey⟩ := h
  exact not_nodup_of_mem hMem hKey

/-- There is at most one first repetition. -/
theorem FirstRepeat.unique {earlier' later' : α} (h : FirstRepeat key items earlier later)
    (h' : FirstRepeat key items earlier' later') : earlier = earlier' ∧ later = later' := by
  obtain ⟨before, after, rfl, hNodup, hMem, hKey⟩ := h
  obtain ⟨before', after', hItems, hNodup', hMem', hKey'⟩ := h'
  -- of the two beginnings, one continues the other; it cannot go past the repetition
  rcases List.append_eq_append_iff.mp hItems with ⟨rest, rfl, hRest⟩ | ⟨rest, rfl, hRest⟩
  · cases rest with
    | nil =>
      obtain ⟨rfl, -⟩ := List.cons.inj hRest
      rw [List.append_nil] at hMem'
      exact ⟨List.inj_on_of_nodup_map hNodup hMem hMem' (hKey.trans hKey'.symm), rfl⟩
    | cons next rest =>
      obtain ⟨rfl, -⟩ := List.cons.inj hRest
      exact absurd hNodup' (not_nodup_of_mem hMem hKey)
  · cases rest with
    | nil =>
      obtain ⟨rfl, -⟩ := List.cons.inj hRest
      rw [List.append_nil] at hMem
      exact ⟨List.inj_on_of_nodup_map hNodup' hMem hMem' (hKey.trans hKey'.symm), rfl⟩
    | cons next rest =>
      obtain ⟨rfl, -⟩ := List.cons.inj hRest
      exact absurd hNodup (not_nodup_of_mem hMem' hKey')

/-- What a search for the first repetition in `items` answers; `answer` makes the answer of the two
elements. -/
inductive Searched (key : α → String) (answer : α → α → β) (items : List α) : Option β → Prop
  | nothing (hNodup : (items.map key).Nodup) : Searched key answer items none
  | found {earlier later : α} (hRepeat : FirstRepeat key items earlier later) :
    Searched key answer items (some (answer earlier later))

section Checks

variable {ε : Type} {answer : α → α → β} {found? : Option β} {refuse : β → ε} {e : ε}

/-- A check that refuses what a search finds passes exactly if all keys differ. -/
theorem Searched.check_eq_ok (h : Searched key answer items found?) :
    found?.elim (Except.ok ()) (.error <| refuse ·) = .ok () ↔ (items.map key).Nodup := by
  cases h with
  | nothing hNodup => exact iff_of_true rfl hNodup
  | found hFound => exact iff_of_false nofun hFound.not_nodup

/-- A check that refuses what a search finds refuses the first repetition and nothing else. -/
theorem Searched.check_eq_error (h : Searched key answer items found?) :
    found?.elim (Except.ok ()) (.error <| refuse ·) = .error e ↔
      ∃ earlier later, FirstRepeat key items earlier later ∧ e = refuse (answer earlier later) := by
  cases h with
  | nothing hNodup =>
    constructor
    · intro hError
      -- a search that finds nothing refuses nothing
      simp at hError
    · intro hRefused
      obtain ⟨earlier, later, hRepeat, -⟩ := hRefused
      exact absurd hNodup hRepeat.not_nodup
  | found hFound =>
    constructor
    · intro hError
      exact ⟨_, _, hFound, (Except.error.inj hError).symm⟩
    · intro hRefused
      obtain ⟨earlier, later, hRepeat, rfl⟩ := hRefused
      obtain ⟨rfl, rfl⟩ := hFound.unique hRepeat
      rfl

end Checks

/-- An element whose key is taken is the first repetition. -/
theorem firstRepeat_of_mem {taken : List α} {item : α} (rest : List α)
    (hTaken : (taken.map key).Nodup) (hMem : key item ∈ taken.map key) :
    ∃ holder, FirstRepeat key (taken ++ item :: rest) holder item := by
  obtain ⟨holder, hHolder, hKey⟩ := List.mem_map.mp hMem
  exact ⟨holder, taken, rest, rfl, hTaken, hHolder, hKey⟩

/-- One more element with a new key. -/
theorem nodup_snoc {taken : List α} {item : α} (hTaken : (taken.map key).Nodup)
    (hNew : key item ∉ taken.map key) : ((taken ++ [item]).map key).Nodup := by
  rw [List.map_append, List.nodup_append]
  refine ⟨hTaken, by simp, ?_⟩
  intro name hName other hOther hEq
  simp only [List.map_cons, List.map_nil, List.mem_singleton] at hOther
  exact hNew (hOther ▸ hEq ▸ hName)

end Repetitions

/-! ## The searches -/

/-- A clash is made of the second claim's name and both origins. -/
def clashOf (earlier later : Claim) : Clash := ⟨later.name, earlier.origin, later.origin⟩

/-- The search, started with claims of different names behind it, searches these and those ahead of it. -/
theorem firstClashAfter?_searched {taken claims : List Claim}
    (hTaken : (taken.map Claim.name).Nodup) :
    Searched Claim.name clashOf (taken ++ claims) (firstClashAfter? taken claims) := by
  -- on the claims that are left, none of those behind repeating another
  induction claims generalizing taken with
  | nil =>
    rw [List.append_nil]
    exact .nothing hTaken
  | cons claim rest ih =>
    rw [firstClashAfter?]
    -- the name is taken, by the claim that has been found, or it is new and the claim is taken along
    cases hFind : taken.find? (·.name == claim.name) with
    | some holder =>
      have hName : holder.name = claim.name := by simpa using List.find?_some hFind
      exact .found ⟨taken, rest, rfl, hTaken, List.mem_of_find?_eq_some hFind, hName⟩
    | none =>
      have hNew : claim.name ∉ taken.map Claim.name := by
        intro hMem
        obtain ⟨holder, hHolder, hName⟩ := List.mem_map.mp hMem
        have hNe := List.find?_eq_none.mp hFind holder hHolder
        simp [hName] at hNe
      have hRest := ih (nodup_snoc hTaken hNew)
      rwa [List.append_assoc, List.singleton_append] at hRest

theorem firstClash?_searched (claims : List Claim) :
    Searched Claim.name clashOf claims (firstClash? claims) :=
  @firstClashAfter?_searched [] claims List.nodup_nil

/-- The first of `items` whose key is among `seen` or is that of an earlier one. -/
def firstTakenAfter? {α : Type} (key : α → String) (seen : List String) : List α → Option α
  | [] => none
  | item :: rest =>
    if seen.contains (key item) then some item else firstTakenAfter? key (key item :: seen) rest

/-- Such a search answers right as long as what it has seen are the keys of the elements behind it. -/
theorem firstTakenAfter?_searched {α : Type} {key : α → String} {seen : List String}
    {taken items : List α} (hSeen : ∀ name, name ∈ seen ↔ name ∈ taken.map key)
    (hTaken : (taken.map key).Nodup) :
    Searched key (fun _ later => later) (taken ++ items) (firstTakenAfter? key seen items) := by
  -- on the items that are left; those behind are `taken`, and `seen` are their keys
  induction items generalizing seen taken with
  | nil =>
    rw [List.append_nil]
    exact .nothing hTaken
  | cons item rest ih =>
    rw [firstTakenAfter?]
    by_cases hKey : key item ∈ seen
    · rw [if_pos (by simpa using hKey)]
      obtain ⟨holder, hRepeat⟩ := firstRepeat_of_mem rest hTaken ((hSeen _).mp hKey)
      exact .found hRepeat
    · rw [if_neg (by simpa using hKey)]
      have hNew : key item ∉ taken.map key := fun hMem => hKey ((hSeen _).mpr hMem)
      -- with the key of this element, what has been seen are the keys up to here
      have hNext : ∀ name, name ∈ key item :: seen ↔ name ∈ (taken ++ [item]).map key := by
        intro name
        rw [List.mem_cons, hSeen, List.map_append, List.mem_append, or_comm, List.map_singleton,
          List.mem_singleton]
      have hRest := ih hNext (nodup_snoc hTaken hNew)
      rwa [List.append_assoc, List.singleton_append] at hRest

/-- The search among parameters is the general one, with the names themselves as keys. -/
theorem firstRepeatAfter?_eq (seen names : List String) :
    firstRepeatAfter? seen names = firstTakenAfter? id seen names := by
  induction names generalizing seen with
  | nil => rfl
  | cons name rest ih =>
    rw [firstRepeatAfter?, firstTakenAfter?, ih]
    rfl

/-- The search among bindings is the general one too. -/
theorem firstSharedBinding?_eq (style : Style) (seen : List String) (methods : List Method) :
    firstSharedBinding? style seen methods = firstTakenAfter? style.bindingName seen methods := by
  induction methods generalizing seen with
  | nil => rfl
  | cons method rest ih =>
    rw [firstSharedBinding?, firstTakenAfter?, ih]

theorem firstRepeat?_searched (names : List String) :
    Searched id (fun _ later => later) names (firstRepeat? names) := by
  rw [firstRepeat?, firstRepeatAfter?_eq]
  exact @firstTakenAfter?_searched _ id [] [] names (fun _ => Iff.rfl) List.nodup_nil

theorem firstSharedBinding?_searched (style : Style) (methods : List Method) :
    Searched style.bindingName (fun _ later => later) methods
      (firstSharedBinding? style [] methods) := by
  rw [firstSharedBinding?_eq]
  exact @firstTakenAfter?_searched _ _ [] [] methods (fun _ => Iff.rfl) List.nodup_nil

/-! ## The checks -/

section Checks

variable {file : String} {claims : List Claim} {method : Method} {names : List String}
  {style : Style} {methods : List Method} {e : GenerateError}

/-- Each of the three checks asks its search and refuses what is found. -/
theorem checkClaims_eq_elim :
    checkClaims file claims
      = (firstClash? claims).elim (.ok ()) (.error <| .duplicateDeclaration file ·) := by
  rw [checkClaims]
  cases firstClash? claims <;> rfl

theorem checkParameters_eq_elim :
    checkParameters method names
      = (firstRepeat? names).elim (.ok ()) (.error <| .duplicateParameter method.name ·) := by
  rw [checkParameters]
  cases firstRepeat? names <;> rfl

theorem checkBindings_eq_elim :
    checkBindings style methods
      = (firstSharedBinding? style [] methods).elim (.ok ())
          fun method => .error (.duplicateBinding (style.bindingName method) method.name) := by
  rw [checkBindings]
  cases firstSharedBinding? style [] methods <;> rfl

theorem checkClaims_eq_ok :
    checkClaims file claims = .ok () ↔ (claims.map Claim.name).Nodup := by
  rw [checkClaims_eq_elim]
  exact (firstClash?_searched claims).check_eq_ok

/-- Claims are refused for the first name that is claimed twice, with the origins of both claims. -/
theorem checkClaims_eq_error :
    checkClaims file claims = .error e ↔
      ∃ earlier later, FirstRepeat Claim.name claims earlier later ∧
        e = .duplicateDeclaration file ⟨later.name, earlier.origin, later.origin⟩ := by
  rw [checkClaims_eq_elim]
  exact (firstClash?_searched claims).check_eq_error

theorem checkParameters_eq_ok : checkParameters method names = .ok () ↔ names.Nodup := by
  rw [checkParameters_eq_elim, (firstRepeat?_searched names).check_eq_ok, List.map_id]

/-- The parameters of a method are refused for the first name that repeats. -/
theorem checkParameters_eq_error :
    checkParameters method names = .error e ↔
      ∃ earlier later, FirstRepeat id names earlier later ∧
        e = .duplicateParameter method.name later := by
  rw [checkParameters_eq_elim]
  exact (firstRepeat?_searched names).check_eq_error

theorem checkBindings_eq_ok :
    checkBindings style methods = .ok () ↔ (methods.map style.bindingName).Nodup := by
  rw [checkBindings_eq_elim]
  exact (firstSharedBinding?_searched style methods).check_eq_ok

/-- The methods are refused for the first whose binding is taken, with the binding and the name of that
method. -/
theorem checkBindings_eq_error :
    checkBindings style methods = .error e ↔
      ∃ earlier later, FirstRepeat style.bindingName methods earlier later ∧
        e = .duplicateBinding (style.bindingName later) later.name := by
  rw [checkBindings_eq_elim]
  exact (firstSharedBinding?_searched style methods).check_eq_error

end Checks

end AbiBindings.Bindings
