import Mathlib.Data.List.Forall2
import Mathlib.Tactic.Common

/-!
# When chained computations succeed

A computation that may fail succeeds exactly if each of its steps does, and fails with the error of
the first step that fails. These lemmas take a success apart into the successes of its steps, and put
it together again.

* `bind_eq_ok`, `map_eq_ok`, `mapError_eq_ok`, and `_eq_error` for some — one step after the other;
* `mapM_eq_ok_iff`, `forM_eq_ok_iff` — the same step for every element of a list;
* `forall_mem_of_mapM_eq_ok`, `eq_map_of_mapM_eq_ok` — what holds of the results, and what they are;
* `mapM_eq_error_iff` — the first element whose step fails;
* `lookup_filter_ne`, `forall₂_lookup_zip`, `lookup_map_value` — lists of pairs, in which steps look for keys.
-/

namespace AbiBindings

variable {ε ε' α β : Type}

/-- The second step is reached with what the first gives back. -/
theorem bind_eq_ok {x : Except ε α} {f : α → Except ε β} {b : β} :
    (x >>= f) = .ok b ↔ ∃ a, x = .ok a ∧ f a = .ok b := by
  cases x <;> simp [bind, Except.bind]

/-- The first step fails, or it succeeds and the second fails. -/
theorem bind_eq_error {x : Except ε α} {f : α → Except ε β} {e : ε} :
    (x >>= f) = .error e ↔ x = .error e ∨ ∃ a, x = .ok a ∧ f a = .error e := by
  cases x <;> simp [bind, Except.bind]

/-- A check in front of a computation. -/
theorem check_bind_eq_error {check : Except ε Unit} {x : Except ε β} {e : ε} :
    (check >>= fun _ => x) = .error e ↔ check = .error e ∨ (check = .ok () ∧ x = .error e) := by
  cases check <;> simp [bind, Except.bind]

/-- What only rearranges a result does not fail. -/
theorem bind_pure_eq_error {x : Except ε α} {f : α → β} {e : ε} :
    (x >>= fun a => pure (f a)) = .error e ↔ x = .error e := by
  cases x <;> simp [bind, Except.bind, pure, Except.pure]

theorem pure_ne_error {a : α} {e : ε} : (pure a : Except ε α) ≠ .error e := nofun

theorem pure_eq_ok {a b : α} : (pure a : Except ε α) = .ok b ↔ a = b := by
  simp [pure, Except.pure]

theorem map_eq_ok {x : Except ε α} {f : α → β} {b : β} :
    f <$> x = .ok b ↔ ∃ a, x = .ok a ∧ f a = b := by
  cases x <;> simp [Functor.map, Except.map]

theorem mapError_eq_ok {x : Except ε α} {f : ε → ε'} {a : α} :
    x.mapError f = .ok a ↔ x = .ok a := by
  cases x <;> simp [Except.mapError]

theorem run_pure_eq_ok {σ : Type} {a b : α} {s t : σ} :
    (pure a : StateT σ (Except ε) α).run s = .ok (b, t) ↔ a = b ∧ s = t := by
  rw [StateT.run_pure, pure_eq_ok, Prod.mk.injEq]

/-- A check succeeds as soon as it returns anything. -/
theorem discard_eq_ok {x : Except ε α} : discard x = .ok () ↔ ∃ a, x = .ok a := by
  cases x <;> simp [discard, Functor.discard, Functor.mapConst, Except.map]

/-- A relation may be weakened by what is known of the elements on the left. -/
theorem forall₂_imp_of_mem {R S : α → β → Prop} {as : List α} {bs : List β}
    (h : List.Forall₂ R as bs) (hImp : ∀ a ∈ as, ∀ b, R a b → S a b) : List.Forall₂ S as bs :=
  ((List.forall₂_and_left as bs).mpr ⟨fun _ ha => ha, h⟩).imp fun a b hab => hImp a hab.1 b hab.2

/-- A relation may be replaced by one that says the same of the elements on the left. -/
theorem forall₂_congr_of_mem {R S : α → β → Prop} {as : List α} {bs : List β}
    (h : ∀ a ∈ as, ∀ b, R a b ↔ S a b) : List.Forall₂ R as bs ↔ List.Forall₂ S as bs :=
  ⟨fun hR => forall₂_imp_of_mem hR fun a ha b => (h a ha b).mp,
    fun hS => forall₂_imp_of_mem hS fun a ha b => (h a ha b).mpr⟩

/-- What follows from being related to anything holds of all elements on the left. -/
theorem forall_mem_of_forall₂ {R : α → β → Prop} {P : α → Prop} {as : List α} {bs : List β}
    (h : List.Forall₂ R as bs) (hImp : ∀ a ∈ as, ∀ b, R a b → P a) : ∀ a ∈ as, P a :=
  ((List.forall₂_and_left as bs).mp (forall₂_imp_of_mem h fun a ha b hab => ⟨hImp a ha b hab, hab⟩)).1

/-- Two lists related through a third one are related element by element. -/
theorem forall₂_comp_iff {γ : Type} {R : α → β → Prop} {S : β → γ → Prop} {as : List α}
    {cs : List γ} :
    (∃ bs, List.Forall₂ R as bs ∧ List.Forall₂ S bs cs) ↔
      List.Forall₂ (fun a c => ∃ b, R a b ∧ S b c) as cs := by
  -- on the first list: what is between begins with what its head is related to
  induction as generalizing cs with
  | nil => simp
  | cons a as ih =>
    simp only [List.forall₂_cons_left_iff, ← ih]
    constructor
    · intro h
      obtain ⟨_, ⟨b, bs, hb, hbs, rfl⟩, hSecond⟩ := h
      obtain ⟨c, cs, hc, hcs, rfl⟩ := List.forall₂_cons_left_iff.mp hSecond
      exact ⟨c, cs, ⟨b, hb, hc⟩, ⟨bs, hbs, hcs⟩, rfl⟩
    · intro h
      obtain ⟨c, cs, ⟨b, hb, hc⟩, ⟨bs, hbs, hcs⟩, rfl⟩ := h
      exact ⟨b :: bs, ⟨b, bs, hb, hbs, rfl⟩, .cons hc hcs⟩

/-- Steps in a row give back one result for each element, in order. -/
theorem mapM_eq_ok_iff {f : α → Except ε β} {as : List α} {bs : List β} :
    as.mapM f = .ok bs ↔ List.Forall₂ (fun a b => f a = .ok b) as bs := by
  induction as generalizing bs with
  | nil => rw [List.mapM_nil, pure_eq_ok, List.forall₂_nil_left_iff, eq_comm]
  | cons a as ih =>
    simp only [List.mapM_cons, bind_eq_ok, pure_eq_ok, ih, List.forall₂_cons_left_iff]
    constructor
    · intro h
      obtain ⟨b, hb, bs', hbs, rfl⟩ := h
      exact ⟨b, bs', hb, hbs, rfl⟩
    · intro h
      obtain ⟨b, bs', hb, hbs, rfl⟩ := h
      exact ⟨b, hb, bs', hbs, rfl⟩

/-- What every step gives back holds of everything that the steps in a row give back. -/
theorem forall_mem_of_mapM_eq_ok {P : β → Prop} {f : α → Except ε β} {as : List α} {bs : List β}
    (hMap : as.mapM f = .ok bs) (hStep : ∀ a ∈ as, ∀ b, f a = .ok b → P b) : ∀ b ∈ bs, P b := by
  rw [mapM_eq_ok_iff] at hMap
  induction hMap with
  | nil => simp
  | cons hHead _ ih =>
    obtain ⟨hFirst, hRest⟩ := List.forall_mem_cons.mp hStep
    exact List.forall_mem_cons.mpr ⟨hFirst _ hHead, ih hRest⟩

/-- What related elements have in common, their lists have. -/
theorem map_eq_map_of_forall₂ {γ : Type} {R : α → β → Prop} {f : α → γ} {g : β → γ} {as : List α}
    {bs : List β} (h : List.Forall₂ R as bs) (hImp : ∀ a b, R a b → f a = g b) : as.map f = bs.map g := by
  induction h with
  | nil => rfl
  | cons hHead _ ih => rw [List.map_cons, List.map_cons, hImp _ _ hHead, ih]

/-- If what a step gives back is known, so is what steps in a row give back. -/
theorem eq_map_of_mapM_eq_ok {f : α → Except ε β} {g : α → β} {as : List α} {bs : List β}
    (hMap : as.mapM f = .ok bs) (hStep : ∀ a b, f a = .ok b → b = g a) : bs = as.map g := by
  have hLists := map_eq_map_of_forall₂ (mapM_eq_ok_iff.mp hMap) fun a b hStepOk => (hStep a b hStepOk).symm
  rw [List.map_id'] at hLists
  exact hLists.symm

/-- Steps in a row succeed exactly if each of them does. -/
theorem exists_mapM_eq_ok {f : α → Except ε β} {as : List α} :
    (∃ bs, as.mapM f = .ok bs) ↔ ∀ a ∈ as, ∃ b, f a = .ok b := by
  induction as with
  | nil => simp [List.mapM_nil, pure, Except.pure]
  | cons a as ih =>
    rw [List.forall_mem_cons, ← ih]
    simp only [List.mapM_cons, bind_eq_ok, pure_eq_ok]
    constructor
    · intro h
      obtain ⟨_, b, hb, bs, hbs, -⟩ := h
      exact ⟨⟨b, hb⟩, bs, hbs⟩
    · intro h
      obtain ⟨⟨b, hb⟩, bs, hbs⟩ := h
      exact ⟨b :: bs, b, hb, bs, hbs, rfl⟩

/-- A chain of steps fails with the error of the first step that fails. -/
theorem mapM_eq_error_iff {f : α → Except ε β} {as : List α} {e : ε} :
    as.mapM f = .error e ↔
      ∃ before a after, as = before ++ a :: after ∧ (∀ x ∈ before, ∃ b, f x = .ok b) ∧
        f a = .error e := by
  induction as with
  | nil => simp [List.mapM_nil, pure, Except.pure]
  | cons first rest ih =>
    have hRest : ∀ b, (do let bs ← rest.mapM f; pure (b :: bs)) = .error e ↔
        rest.mapM f = .error e := by
      intro b
      cases rest.mapM f <;> simp [bind, Except.bind, pure, Except.pure]
    -- the first step fails, or it does not and the rest does
    simp only [List.mapM_cons, bind_eq_error, hRest, ih]
    constructor
    · intro h
      rcases h with hFirst | ⟨b, hFirst, before, a, after, rfl, hBefore, hError⟩
      · exact ⟨[], first, rest, rfl, by simp, hFirst⟩
      · exact ⟨first :: before, a, after, rfl, List.forall_mem_cons.mpr ⟨⟨b, hFirst⟩, hBefore⟩,
          hError⟩
    · intro h
      obtain ⟨before, a, after, hSplit, hBefore, hError⟩ := h
      cases before with
      | nil =>
        obtain ⟨rfl, rfl⟩ := List.cons.inj hSplit
        exact Or.inl hError
      | cons x before =>
        obtain ⟨rfl, rfl⟩ := List.cons.inj hSplit
        obtain ⟨⟨b, hFirst⟩, hBefore⟩ := List.forall_mem_cons.mp hBefore
        exact Or.inr ⟨b, hFirst, before, a, after, rfl, hBefore, hError⟩

/-- The same for steps that give back something or nothing. -/
theorem mapM_eq_some_iff {f : α → Option β} {as : List α} {bs : List β} :
    as.mapM f = some bs ↔ List.Forall₂ (fun a b => f a = some b) as bs := by
  induction as generalizing bs with
  | nil => simp [eq_comm]
  | cons a as ih =>
    simp only [List.mapM_cons, List.forall₂_cons_left_iff, Option.bind_eq_bind,
      Option.bind_eq_some_iff, Option.pure_def, Option.some.injEq, ih]
    constructor
    · intro h
      obtain ⟨b, hb, bs', hbs, rfl⟩ := h
      exact ⟨b, bs', hb, hbs, rfl⟩
    · intro h
      obtain ⟨b, bs', hb, hbs, rfl⟩ := h
      exact ⟨b, hb, bs', hbs, rfl⟩

/-- Checks in a row pass if each of them does. -/
theorem forM_eq_ok_iff {f : α → Except ε Unit} {as : List α} :
    forM as f = .ok () ↔ ∀ a ∈ as, f a = .ok () := by
  induction as with
  | nil => simp [List.forM_nil, pure, Except.pure]
  | cons a as ih =>
    rw [List.forM_cons, bind_eq_ok, List.forall_mem_cons, ← ih]
    constructor
    · intro h
      obtain ⟨⟨⟩, hHead, hTail⟩ := h
      exact ⟨hHead, hTail⟩
    · intro h
      obtain ⟨hHead, hTail⟩ := h
      exact ⟨(), hHead, hTail⟩

/-! ## Lists of pairs -/

section Lookup

variable [BEq α] [LawfulBEq α]

theorem mem_of_lookup {pairs : List (α × β)} {key : α} {value : β}
    (h : pairs.lookup key = some value) : (key, value) ∈ pairs := by
  obtain ⟨before, after, hPairs, -⟩ := List.lookup_eq_some_iff.mp h
  simp [hPairs]

/-- Leaving out the pairs with one key does not change what stands under another. -/
theorem lookup_filter_ne {pairs : List (α × β)} (out key : α) (hNe : key ≠ out) :
    (pairs.filter (·.1 != out)).lookup key = pairs.lookup key := by
  induction pairs with
  | nil => rfl
  | cons pair pairs ih =>
    obtain ⟨other, value⟩ := pair
    -- the first pair is left out, or it stays where it was
    by_cases hOut : other = out
    · have hKey : (key == other) = false := beq_false_of_ne (hOut ▸ hNe)
      rw [List.filter_cons, if_neg (by simp [hOut]), ih, List.lookup_cons, hKey]
    · rw [List.filter_cons, if_pos (by simp [hOut]), List.lookup_cons, List.lookup_cons, ih]

/-- Names that differ are found with their own values. -/
theorem forall₂_lookup_zip {names : List α} {values : List β} (hNodup : names.Nodup)
    (hLength : names.length = values.length) :
    List.Forall₂ (fun name value => (names.zip values).lookup name = some value) names values := by
  induction names generalizing values with
  | nil =>
    obtain rfl := List.length_eq_zero_iff.mp hLength.symm
    exact .nil
  | cons name names ih =>
    cases values with
    | nil => simp at hLength
    | cons value values =>
      -- the other names are not found at the first place, since it has another name
      obtain ⟨hNew, hNodup⟩ := List.nodup_cons.mp hNodup
      refine .cons (by simp) (forall₂_imp_of_mem (ih hNodup (by simpa using hLength)) ?_)
      intro other hOther found hFound
      have hNe : (other == name) = false := by
        rw [beq_eq_false_iff_ne]
        rintro rfl
        exact hNew hOther
      rw [List.zip_cons_cons, List.lookup_cons, hNe]
      exact hFound

/-- What is in front of a list does not matter for a name that is not there. -/
theorem lookup_append_of_not_mem {front rest : List (α × β)} {name : α}
    (h : name ∉ front.map (·.1)) : (front ++ rest).lookup name = rest.lookup name := by
  rw [List.lookup_append, List.lookup_eq_none_iff.mpr, Option.none_or]
  intro entry hEntry
  rw [bne_iff_ne]
  rintro rfl
  exact h (List.mem_map_of_mem hEntry)

/-- Values that are changed one by one, each by its key. -/
theorem lookup_map_value {γ : Type} (f : α → β → γ) (pairs : List (α × β)) (key : α) :
    (pairs.map fun pair => (pair.1, f pair.1 pair.2)).lookup key = (pairs.lookup key).map (f key) := by
  induction pairs with
  | nil => rfl
  | cons pair pairs ih =>
    rw [List.map_cons, List.lookup_cons, List.lookup_cons, ih]
    cases hKey : key == pair.1 with
    | true => rw [eq_of_beq hKey]; rfl
    | false => rfl

end Lookup

end AbiBindings
