import AbiBindings.Manifest.Fingerprint
import Mathlib.Algebra.Group.Nat.Defs
import Mathlib.Tactic.Common

/-!
# Fingerprint — framed encodings

A fingerprint covers the encodings of many values, one behind the other. Nothing can slip from one
value into the next if every encoding is *framed*: whatever follows it, its bytes tell where it ends
and which value it stands for. Framing is a property of one encoder, so it is proved for each kind of
part alone and carried through sequences.

* `Framed` — a common beginning of two byte sequences determines the value and what follows;
* `framed_encodeCount`, `framed_encodeFlag`, `framed_encodeText` — the parts;
* `framed_encodeList` — elements behind their number.

An encoder may leave something out on purpose; `view` is what it does tell about a value.
-/

namespace AbiBindings.Manifest

/-- Lengths and counts that fit into the eight bytes they are written in. -/
def FitsCount (n : Nat) : Prop := n < 2 ^ 64

/-- An encoding that tells where it ends, and the `view` of the value it stands for. -/
def Framed {α β : Type} (Fits : α → Prop) (view : α → β) (encode : α → List UInt8) : Prop :=
  ∀ ⦃a b : α⦄ ⦃s t : List UInt8⦄, Fits a → Fits b → encode a ++ s = encode b ++ t →
    view a = view b ∧ s = t

variable {α β : Type} {Fits : α → Prop} {view : α → β} {encode : α → List UInt8}

/-! ## Counts -/

theorem length_littleEndian (width n : Nat) : (littleEndian width n).length = width := by
  induction width generalizing n with
  | zero => rfl
  | succ width ih => simp [littleEndian, ih]

/-- The bytes of a number determine it up to the multiples that do not fit. -/
theorem mod_eq_of_littleEndian_eq {width n m : Nat}
    (h : littleEndian width n = littleEndian width m) : n % 256 ^ width = m % 256 ^ width := by
  induction width generalizing n m with
  | zero => simp [Nat.mod_one]
  | succ width ih =>
    rw [littleEndian, littleEndian, List.cons.injEq] at h
    obtain ⟨hLow, hHigh⟩ := h
    -- the first byte is the number modulo 256, the others are what is left of it
    have hDigit : n % 256 = m % 256 := by
      have hByte := congrArg UInt8.toNat hLow
      simp only [UInt8.toNat_ofNat'] at hByte
      omega
    rw [Nat.pow_succ, Nat.mul_comm, Nat.mod_mul, Nat.mod_mul, hDigit, ih hHigh]

theorem length_encodeCount (n : Nat) : (encodeCount n).length = 8 := length_littleEndian 8 n

/-- A count tells where it ends, as it takes eight bytes. -/
theorem framed_encodeCount : Framed FitsCount id encodeCount := by
  intro n m s t hn hm h
  have hLength : (encodeCount n).length = (encodeCount m).length := by
    rw [length_encodeCount, length_encodeCount]
  -- both counts take eight bytes, so both sides are split at the same place
  obtain ⟨hBytes, hRest⟩ := List.append_inj h hLength
  have hMod := mod_eq_of_littleEndian_eq hBytes
  unfold FitsCount at hn hm
  refine ⟨?_, hRest⟩
  -- two numbers below the bound with the same bytes are the same
  show n = m
  omega

/-! ## Flags and texts -/

/-- A flag is one byte, and each flag has its own. -/
theorem framed_encodeFlag : Framed (fun _ => True) id encodeFlag := by
  intro a b s t _ _ h
  cases a <;> cases b <;> simp_all [encodeFlag]

theorem length_textBytes (s : String) : s.toUTF8.data.toList.length = s.utf8ByteSize := by
  rw [String.toUTF8_eq_toByteArray, Array.length_toList]
  rfl

/-- A text tells where it ends by its size, which stands before it. -/
theorem framed_encodeText : Framed (fun s : String => FitsCount s.utf8ByteSize) id encodeText := by
  intro a b s t ha hb h
  rw [encodeText, encodeText, List.append_assoc, List.append_assoc] at h
  obtain ⟨hSize, hBytes⟩ := framed_encodeCount ha hb h
  -- the texts behind the counts are as long as these say
  have hLength : a.toUTF8.data.toList.length = b.toUTF8.data.toList.length := by
    rw [length_textBytes, length_textBytes]
    exact hSize
  obtain ⟨hData, hRest⟩ := List.append_inj hBytes hLength
  refine ⟨?_, hRest⟩
  have hArray : a.toByteArray = b.toByteArray := by
    rw [← String.toUTF8_eq_toByteArray, ← String.toUTF8_eq_toByteArray]
    exact ByteArray.ext (Array.toList_inj.mp hData)
  exact String.toByteArray_inj.mp hArray

/-! ## Sequences -/

/-- Equally many framed encodings in a row determine the values behind them, one after the other. -/
theorem Framed.flatMap_inj (hFramed : Framed Fits view encode) {as bs : List α} {s t : List UInt8}
    (hLength : as.length = bs.length) (ha : ∀ a ∈ as, Fits a) (hb : ∀ b ∈ bs, Fits b)
    (h : as.flatMap encode ++ s = bs.flatMap encode ++ t) : as.map view = bs.map view ∧ s = t := by
  -- on both lists at once, since they are equally long
  induction as generalizing bs with
  | nil =>
    cases bs with
    | nil => exact ⟨rfl, h⟩
    | cons b bs => simp at hLength
  | cons a as ih =>
    cases bs with
    | nil => simp at hLength
    | cons b bs =>
      rw [List.flatMap_cons, List.flatMap_cons, List.append_assoc, List.append_assoc] at h
      obtain ⟨hHead, hTail⟩ := hFramed (ha a List.mem_cons_self) (hb b List.mem_cons_self) h
      obtain ⟨hViews, hRest⟩ := ih (by simpa using hLength)
        (fun x hx => ha x (List.mem_cons_of_mem a hx))
        (fun x hx => hb x (List.mem_cons_of_mem b hx)) hTail
      exact ⟨by rw [List.map_cons, List.map_cons, hHead, hViews], hRest⟩

/-- A list whose number of elements can be written, and whose elements all fit. -/
def FitsList (Fits : α → Prop) (items : List α) : Prop :=
  FitsCount items.length ∧ ∀ item ∈ items, Fits item

/-- A list tells where it ends by the number of its elements, if each of them does. -/
theorem framed_encodeList (hFramed : Framed Fits view encode) :
    Framed (FitsList Fits) (List.map view) (encodeList encode) := by
  intro as bs s t ha hb h
  rw [encodeList, encodeList, List.append_assoc, List.append_assoc] at h
  -- equally many elements, so they end at the same place too
  obtain ⟨hLength, hItems⟩ := framed_encodeCount ha.1 hb.1 h
  exact hFramed.flatMap_inj hLength ha.2 hb.2 hItems

end AbiBindings.Manifest
