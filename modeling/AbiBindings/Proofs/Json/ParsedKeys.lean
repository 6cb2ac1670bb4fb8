import AbiBindings.Manifest.Validation
import AbiBindings.Proofs.Json.Objects

/-!
# Json — keys of parsed documents

A text may repeat a key, a value that was read from it does not: setting a member that is there already
keeps its place and replaces what stands there. So whatever is proved of values in which each object has
each of its keys once holds of every text that can be read.

* `Yields` — what holds of everything that a reading may give;
* `keysOnce_insertMember` — setting a member does not repeat a key;
* `keysOnce_reads` — nor does reading a value, items or members;
* `keysOnce_of_parse`, `Manifest.exists_document_of_parse` — what texts spell.
-/

namespace AbiBindings.Json

/-! ## What a reading gives -/

/-- Whatever a reading gives, in whatever text and from wherever in it, has the property `P`. -/
def Yields {α : Type} (P : α → Prop) (reading : Reading α) : Prop :=
  ∀ bytes offset a next, reading bytes offset = .ok (a, next) → P a

section Yields

variable {α β : Type} {P : β → Prop}

theorem yields_pure {b : β} (h : P b) : Yields P (pure b) := by
  intro bytes offset a next hRead
  obtain ⟨rfl, -⟩ := run_pure_eq_ok.mp hRead
  exact h

/-- A step that goes on with what another one gives. -/
theorem Yields.bind {Q : α → Prop} {reading : Reading α} {rest : α → Reading β} (hReading : Yields Q reading)
    (hRest : ∀ a, Q a → Yields P (rest a)) : Yields P (reading >>= rest) := by
  intro bytes offset b next hRead
  obtain ⟨⟨a, middle⟩, hFirst, hSecond⟩ := bind_eq_ok.mp hRead
  exact hRest a (hReading bytes offset a middle hFirst) bytes middle b next hSecond

/-- A step of which nothing needs to be known. -/
theorem yields_bind {reading : Reading α} {rest : α → Reading β} (hRest : ∀ a, Yields P (rest a)) :
    Yields P (reading >>= rest) :=
  Yields.bind (Q := fun _ => True) (fun _ _ _ _ _ => trivial) fun a _ => hRest a

/-- Where reading stops, nothing is given. -/
theorem yields_stopAtPeek (cause : SyntaxCause) : Yields P (stopAtPeek cause) :=
  fun _ _ _ _ hRead => absurd hRead nofun

/-- A step behind a check. -/
theorem yields_guarded {bad : Prop} [Decidable bad] {cause : SyntaxCause} {reading : Reading β}
    (h : Yields P reading) : Yields P (if bad then stopAtPeek cause >>= fun _ : Unit => reading else reading) := by
  split
  · exact yields_bind fun _ => h
  · exact h

end Yields

/-! ## Members -/

/-- Setting a member neither repeats a key nor changes the values of other members. -/
theorem keysOnce_insertMember {members : List (String × Json)} {key : String} {value : Json}
    (hMembers : (Json.object members).keysOnce = true) (hValue : value.keysOnce = true) :
    (Json.object (insertMember members key value)).keysOnce = true := by
  have hNodup := nodup_of_keysOnce hMembers
  have hValues : ∀ member ∈ members, member.2.keysOnce = true := fun _ h => keysOnce_of_mem_members hMembers h
  rw [keysOnce, Bool.and_eq_true, decide_eq_true_eq, membersKeysOnce_iff, insertMember]
  split
  next =>
    -- the key is there already, so the keys stay as they are
    have hKeys : (members.map fun member => if member.1 == key then (key, value) else member).map (·.1)
        = members.map (·.1) := by
      rw [List.map_map]
      refine List.map_congr_left fun member _ => ?_
      show (if member.1 == key then (key, value) else member).1 = member.1
      split
      next hKey => exact (eq_of_beq hKey).symm
      next => rfl
    refine ⟨hKeys ▸ hNodup, List.forall_mem_map.mpr fun member hMember => ?_⟩
    split
    · exact hValue
    · exact hValues member hMember
  next hNew =>
    have hAbsent : key ∉ members.map (·.1) := by
      intro h
      obtain ⟨member, hMember, hKey⟩ := List.mem_map.mp h
      exact hNew (List.any_eq_true.mpr ⟨member, hMember, beq_iff_eq.mpr hKey⟩)
    rw [List.map_append, List.forall_mem_append, List.forall_mem_singleton]
    refine ⟨?_, hValues, hValue⟩
    rw [List.map_singleton, ← List.concat_eq_append]
    exact hNodup.concat hAbsent

/-! ## Reading -/

/-- **Reading.** No value that is read has a key twice in an object, nor do the items and the members that
are read behind ones in which none is. -/
theorem keysOnce_reads (fuel : Nat) :
    (∀ depth, Yields (·.keysOnce = true) (readValue depth fuel)) ∧
      (∀ depth first done, (Json.array done).keysOnce = true →
        Yields (fun items => (Json.array items).keysOnce = true) (readItems depth first done fuel)) ∧
      ∀ depth first done, (Json.object done).keysOnce = true →
        Yields (fun members => (Json.object members).keysOnce = true) (readMembers depth first done fuel) := by
  -- the three readers call each other with one unit of fuel less, so one induction does for all
  induction fuel with
  | zero =>
    exact ⟨fun _ => yields_stopAtPeek _, fun _ _ _ _ => yields_stopAtPeek _, fun _ _ _ _ => yields_stopAtPeek _⟩
  | succ fuel ih =>
    obtain ⟨ihValue, ihItems, ihMembers⟩ := ih
    refine ⟨fun depth => ?_, fun depth first done hDone => ?_, fun depth first done hDone => ?_⟩
    · rw [readValue]
      have hItems : Yields (keysOnce · = true) (do return array (← readItems (depth - 1) true [] fuel)) :=
        (ihItems (depth - 1) true [] (by decide)).bind fun _ hRead => yields_pure hRead
      have hMembers : Yields (keysOnce · = true) (do return object (← readMembers (depth - 1) true [] fuel)) :=
        (ihMembers (depth - 1) true [] (by decide)).bind fun _ hRead => yields_pure hRead
      -- one case for each byte that a value may begin with
      refine yields_bind fun byte? => ?_
      split
      next => exact yields_stopAtPeek _
      next => exact yields_bind fun _ => yields_bind fun _ => yields_pure rfl
      next => exact yields_bind fun _ => yields_bind fun _ => yields_pure rfl
      next => exact yields_bind fun _ => yields_bind fun _ => yields_pure rfl
      next => exact yields_bind fun _ => yields_pure rfl
      next => exact yields_guarded (yields_bind fun _ => hItems)
      next => exact yields_guarded (yields_bind fun _ => hMembers)
      next =>
        split
        next => exact yields_bind fun _ => yields_pure rfl
        next => exact yields_stopAtPeek _
    · rw [readItems]
      refine yields_bind fun more => ?_
      split
      next =>
        refine (ihValue depth).bind fun item hItem => ihItems depth false (item :: done) ?_
        rw [keysOnce, itemsKeysOnce_iff, List.forall_mem_cons]
        exact ⟨hItem, fun _ h => keysOnce_of_mem_items hDone h⟩
      next =>
        refine yields_pure ?_
        rw [keysOnce, itemsKeysOnce_iff]
        exact fun _ h => keysOnce_of_mem_items hDone (List.mem_reverse.mp h)
    · rw [readMembers]
      refine yields_bind fun more => ?_
      split
      next =>
        refine yields_bind fun key => (ihValue depth).bind fun value hValue => ?_
        exact ihMembers depth false _ (keysOnce_insertMember hDone hValue)
      next => exact yields_pure hDone

/-! ## Texts -/

/-- **Texts.** In a document that is parsed, every object has each of its keys once. -/
theorem keysOnce_of_parse {bytes : ByteArray} {document : Json} (h : parse bytes = .ok document) :
    document.keysOnce = true := by
  -- what is left to do behind the value adds nothing to it
  have hDocument : Yields (·.keysOnce = true) (readDocument defaultDepth) := by
    refine yields_bind fun left => ((keysOnce_reads _).1 defaultDepth).bind fun value hValue => ?_
    refine yields_bind fun byte? => ?_
    split
    · exact yields_stopAtPeek _
    · exact yields_pure hValue
  rw [parse, parseWithin] at h
  split at h
  next value next hRead =>
    obtain rfl := Except.ok.inj h
    exact hDocument bytes 0 value next hRead
  next => exact absurd h nofun

end AbiBindings.Json

namespace AbiBindings.Manifest

/-- A manifest that is read from a text is read from a document without repeated keys. -/
theorem exists_document_of_parse {bytes : ByteArray} {manifest : Manifest} (h : parse bytes = .ok manifest) :
    ∃ document, Json.parse bytes = .ok document ∧ document.keysOnce = true ∧ ofJson document = .ok manifest := by
  obtain ⟨document, hParse, hRead⟩ := bind_eq_ok.mp h
  rw [mapError_eq_ok] at hParse
  exact ⟨document, hParse, Json.keysOnce_of_parse hParse, hRead⟩

end AbiBindings.Manifest
