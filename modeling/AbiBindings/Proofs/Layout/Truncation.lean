import AbiBindings.Proofs.Layout.Levels

/-!
# Layout — full sinks

A sink that is full refuses a chunk, and the action that has put it fails. What an action would add in a
sink without bound is then cut short somewhere. Nothing else comes of it: what fits is added as a whole,
what was there stays, and the next action begins in the state that the failure has left.

* `Writer.within` — the same writer with another capacity of its sink;
* `Truncated` — how a run ends, given what it adds in a sink without bound;
* `Truncates` — actions that a full sink cuts short, with a lemma for each way to put actions together;
* `perform_truncated` — steps on a writer that has gone through any others, failed ones included.
-/

namespace AbiBindings.Layout

/-! ## Two runs -/

/-- The writer with another capacity of its sink. -/
def Writer.within (w : Writer) (capacity? : Option Nat) : Writer :=
  { w with sink := { w.sink with capacity? } }

/-- How a run ends in a sink with this limit that holds `text`, if without a bound it adds `added`, returns
`a` and leaves the writer `free`: it does the same, or it adds a part and fails. -/
inductive Truncated {α : Type} (limit : Nat) (text added : String) (a : α) (free : Writer) :
    EStateM.Result WriteError Writer α → Prop where
  | whole : (text ++ added).utf8ByteSize ≤ limit →
    Truncated limit text added a free (.ok a (free.within (some limit)))
  | cut {w : Writer} {part rest : String} : limit < (text ++ added).utf8ByteSize →
    w.sink = ⟨text ++ part, some limit⟩ → (text ++ part).utf8ByteSize ≤ limit → added = part ++ rest →
      rest ≠ "" → Truncated limit text added a free (.error .sinkFull w)

/-- An action that never fails without a bound, and that a full sink cuts short. -/
def Truncates {α : Type} (x : Writing α) : Prop :=
  ∀ (w : Writer) (limit : Nat), w.sink.text.utf8ByteSize ≤ limit → ∃ a free added,
    x (w.within none) = .ok a free ∧ free.sink = ⟨w.sink.text ++ added, none⟩ ∧
      Truncated limit w.sink.text added a free (x (w.within (some limit)))

section Actions

variable {α β : Type}

theorem Writer.within_of_capacity {w : Writer} {capacity? : Option Nat}
    (h : w.sink.capacity? = capacity?) : w.within capacity? = w := by
  subst h
  rfl

/-- An action that leaves the sink alone and does not look at it. -/
theorem truncates_of_blind {x : Writing α} (h : ∀ w : Writer, ∃ (a : α) (w' : Writer), w'.sink = w.sink ∧
    ∀ capacity?, x (w.within capacity?) = .ok a (w'.within capacity?)) : Truncates x := by
  intro w limit hFits
  -- the chunk that it adds is empty
  obtain ⟨a, w', hSink, hRun⟩ := h w
  rw [hRun, hRun]
  refine ⟨a, w'.within none, "", rfl, ?_, ?_⟩
  · rw [String.append_empty, ← hSink]
    rfl
  · refine Truncated.whole ?_
    rw [String.append_empty]
    exact hFits

theorem truncates_pure (a : α) : Truncates (pure a) :=
  truncates_of_blind fun w => ⟨a, w, rfl, fun _ => rfl⟩

/-- A change of the state beside the sink. -/
theorem truncates_modify {change : Writer → Writer} (hSink : ∀ w, (change w).sink = w.sink)
    (h : ∀ w capacity?, change (w.within capacity?) = (change w).within capacity?) :
    Truncates (modify change) := by
  refine truncates_of_blind fun w => ⟨(), change w, hSink w, fun capacity? => ?_⟩
  rw [← h]
  rfl

/-- What an action does may depend on the state beside the sink. -/
theorem truncates_get_bind {f : Writer → Writing α} (hBlind : ∀ w capacity?, f (w.within capacity?) = f w)
    (h : ∀ w, Truncates (f w)) : Truncates (get >>= f) := by
  intro w limit hFits
  obtain ⟨a, free, added, hFree, hSink, hRun⟩ := h w w limit hFits
  refine ⟨a, free, added, ?_, hSink, ?_⟩
  · show f (w.within none) (w.within none) = _
    rw [hBlind, hFree]
  · show Truncated _ _ _ _ _ (f (w.within (some limit)) (w.within (some limit)))
    rw [hBlind]
    exact hRun

/-- Two actions in a row. The second is reached only if all of the first has fitted; else the failure of the
first is that of both. -/
theorem Truncates.bind {x : Writing α} {f : α → Writing β} (hx : Truncates x)
    (hf : ∀ a, Truncates (f a)) : Truncates (x >>= f) := by
  intro w limit hFits
  obtain ⟨a, between, added, hFree, hSink, hRun⟩ := hx w limit hFits
  have hNone : between.within none = between := Writer.within_of_capacity (by rw [hSink])
  have hText : between.sink.text = w.sink.text ++ added := by rw [hSink]
  -- without a bound, the second action goes on where the first one has ended
  have hBind : ∀ {b free}, f a between = .ok b free → (x >>= f) (w.within none) = .ok b free := by
    intro b free hSecond
    rw [run_bind hFree, hSecond]
  -- how the first action has ended in the full sink
  generalize hEnd : x (w.within (some limit)) = ending at hRun
  cases hRun with
  | whole hWhole =>
    obtain ⟨b, free, more, hSecond, hMore, hRest⟩ := hf a between limit (by rwa [hText])
    rw [hNone] at hSecond
    rw [hText] at hMore hRest
    refine ⟨b, free, added ++ more, hBind hSecond, by rw [hMore, String.append_assoc], ?_⟩
    rw [run_bind hEnd]
    generalize f a (between.within (some limit)) = second at hRest
    cases hRest with
    | whole hAll =>
      rw [String.append_assoc] at hAll
      exact .whole hAll
    | @cut w' part rest hFull hPart hKept hSplit hLeft =>
      rw [String.append_assoc] at hFull hPart hKept
      exact .cut hFull hPart hKept (by rw [hSplit, String.append_assoc]) hLeft
  | @cut w' part rest hFull hPart hKept hSplit hLeft =>
    -- the second action is not reached, but what it would add is known
    obtain ⟨b, free, more, hSecond, hMore, -⟩ := hf a between _ (Nat.le_refl _)
    rw [hNone] at hSecond
    rw [hText] at hMore
    refine ⟨b, free, added ++ more, hBind hSecond, by rw [hMore, String.append_assoc], ?_⟩
    have hFails : (x >>= f) (w.within (some limit)) = .error .sinkFull w' := by
      show EStateM.bind x f (w.within (some limit)) = _
      rw [EStateM.bind, hEnd]
    rw [hFails]
    refine .cut ?_ hPart hKept (by rw [hSplit, String.append_assoc]) ?_
    · rw [← String.append_assoc, String.utf8ByteSize_append]
      omega
    · exact fun hEmpty => hLeft (String.append_eq_empty_iff.mp hEmpty).1

/-! ## Actions -/

/-- A chunk is added as a whole or not at all. -/
theorem truncates_put (chunk : String) : Truncates (put chunk) := by
  intro w limit hFits
  have hFree : put chunk (w.within none) = .ok () ((w.within none).add chunk) := put_eq rfl chunk
  refine ⟨(), _, chunk, hFree, rfl, ?_⟩
  have hRoom : (w.within (some limit)).sink.hasRoom chunk
      = decide ((w.sink.text ++ chunk).utf8ByteSize ≤ limit) := by
    rw [String.utf8ByteSize_append]
    rfl
  -- a chunk is added as a whole or not at all
  rw [put, hRoom]
  by_cases hWhole : (w.sink.text ++ chunk).utf8ByteSize ≤ limit
  · rw [decide_eq_true hWhole, if_pos rfl]
    exact .whole hWhole
  · rw [decide_eq_false hWhole, if_neg Bool.false_ne_true]
    refine .cut (Nat.lt_of_not_le hWhole) ?_ ?_ String.empty_append.symm ?_
    · rw [String.append_empty]
      rfl
    · rw [String.append_empty]
      exact hFits
    · -- an empty chunk would have fitted
      rintro rfl
      rw [String.append_empty] at hWhole
      exact hWhole hFits

/-- A chunk several times over, cut short within one of the times or between two. -/
theorem truncates_putTimes (chunk : String) (count : Nat) : Truncates (putTimes chunk count) := by
  induction count with
  | zero => exact truncates_pure ()
  | succ count ih => exact (truncates_put chunk).bind fun _ => ih

/-- The margin is written only at the beginning of a line, which the sink has no part in. -/
theorem truncates_margin : Truncates margin := by
  -- whether a line begins is the same in any sink
  refine truncates_get_bind (fun _ _ => rfl) fun w => ?_
  by_cases hStart : w.atLineStart = true
  · rw [if_pos hStart]
    exact (truncates_putTimes _ _).bind fun _ => truncates_modify (fun _ => rfl) fun _ _ => rfl
  · rw [if_neg hStart]
    exact truncates_pure ()

/-- A text with its margin; of an empty one nothing is written, not even that. -/
theorem truncates_write (text : String) : Truncates (write text) := by
  rw [write]
  by_cases hText : text.isEmpty = true
  · rw [if_pos hText]
    exact truncates_pure ()
  · rw [if_neg hText]
    exact truncates_margin.bind fun _ => truncates_put text

/-- The end of a line is noted only after its chunk has been added. -/
theorem truncates_endLine : Truncates endLine :=
  (truncates_put "\n").bind fun _ => truncates_modify (fun _ => rfl) fun _ _ => rfl

theorem truncates_writeLine (text : String) : Truncates (writeLine text) :=
  (truncates_write text).bind fun _ => truncates_endLine

theorem truncates_writeLines (lines : List String) : Truncates (writeLines lines) := by
  induction lines with
  | nil => exact truncates_pure ()
  | cons line rest ih => exact (truncates_writeLine line).bind fun _ => ih

theorem truncates_docComment (lines : List String) : Truncates (docComment lines) := by
  rw [docComment_eq_writeLines]
  exact truncates_writeLines (docLines lines)

theorem truncates_takeGuard : Truncates takeGuard :=
  truncates_modify (fun _ => rfl) fun _ _ => rfl

theorem truncates_returnGuard (position : Nat) : Truncates (returnGuard position) := by
  refine truncates_modify (fun w => ?_) fun w capacity? => ?_
  · split <;> rfl
  · -- which guards are held is nothing to the sink
    have hGuards : (w.within capacity?).guards = w.guards := rfl
    rw [hGuards]
    split <;> rfl

/-- A body one level deeper is cut short where it is cut short by itself. -/
theorem Truncates.indented {body : Writing Unit} (h : Truncates body) : Truncates (indented body) := by
  intro w limit hFits
  obtain ⟨_, free, added, hFree, hSink, hRun⟩ := h w.deeper limit hFits
  have hDeeper : ∀ capacity?, { w.within capacity? with level := (w.within capacity?).level + 1 }
      = w.deeper.within capacity? := fun _ => rfl
  refine ⟨(), { free with level := free.level - 1 }, added, ?_, hSink, ?_⟩
  -- the level that a body is given back with is the same, whether it has fitted or not
  · rw [Layout.indented, hDeeper, hFree]
  · rw [Layout.indented, hDeeper]
    generalize body (w.deeper.within (some limit)) = ending at hRun
    cases hRun with
    | whole hWhole => exact .whole hWhole
    | cut hFull hPart hKept hSplit hLeft => exact .cut hFull hPart hKept hSplit hLeft

theorem Truncates.block {body : Writing Unit} (header : String) (h : Truncates body) :
    Truncates (block header body) :=
  (truncates_writeLine _).bind fun _ => h.indented.bind fun _ => truncates_writeLine _

end Actions

/-! ## Steps -/

mutual

/-- A full sink cuts a step short, at whatever depth. -/
theorem Step.truncates_run : ∀ step : Step, Truncates step.run
  | .write text => truncates_write text
  | .line text => truncates_writeLine text
  | .blank => truncates_endLine
  | .doc lines => truncates_docComment lines
  | .indent => truncates_takeGuard
  | .drop guard => truncates_returnGuard guard
  | .nested body => (truncates_runSteps body).indented
  | .block header body => (truncates_runSteps body).block header

theorem truncates_runSteps : ∀ steps : List Step, Truncates (runSteps steps)
  | [] => truncates_pure ()
  | step :: rest => step.truncates_run.bind fun _ => truncates_runSteps rest

end

/-! ## Steps one by one -/

/-- The writer behind steps that are carried out one by one, each whether or not those before it have
succeeded. -/
def Writer.performAll (w : Writer) (steps : List Step) : Writer :=
  steps.foldl (fun w step => (w.perform step).2) w

/-- What stays true of a writer with a limit, whatever steps it goes through. -/
structure Writer.Limited (w : Writer) (limit : Nat) : Prop where
  capacity : w.sink.capacity? = some limit
  fits : w.sink.text.utf8ByteSize ≤ limit
  counted : w.Counted 0

section Limited

variable {w : Writer} {limit : Nat}

/-- The state behind a step is the same for the caller as for the steps around it. -/
theorem Writer.perform_snd (w : Writer) (step : Step) : (w.perform step).2 = stateAfter step.run w := by
  unfold Writer.perform stateAfter
  cases step.run w <;> rfl

/-- How a step ends on a writer with a limit. -/
theorem Writer.Limited.exists_truncated (h : w.Limited limit) (step : Step) :
    ∃ free added, step.run (w.within none) = .ok () free ∧ free.sink = ⟨w.sink.text ++ added, none⟩ ∧
      Truncated limit w.sink.text added () free (step.run w) := by
  obtain ⟨_, free, added, hFree, hSink, hRun⟩ := step.truncates_run w limit h.fits
  rw [Writer.within_of_capacity h.capacity] at hRun
  exact ⟨free, added, hFree, hSink, hRun⟩

/-- No step, succeed or fail, breaks the limit or loses count of the guards. -/
theorem Writer.Limited.perform (h : w.Limited limit) (step : Step) : (w.perform step).2.Limited limit := by
  obtain ⟨free, added, -, hSink, hRun⟩ := h.exists_truncated step
  have hCounted := step.keepsCount_run w 0 h.counted
  rw [← w.perform_snd] at hCounted
  unfold Writer.perform at *
  generalize step.run w = ending at *
  -- nothing is ever put into the sink that does not fit
  cases hRun with
  | whole hWhole =>
    refine ⟨rfl, ?_, hCounted⟩
    show free.sink.text.utf8ByteSize ≤ limit
    rw [hSink]
    exact hWhole
  | @cut w' part rest hFull hPart hKept hSplit hLeft =>
    have hText : w'.sink.text = w.sink.text ++ part := by rw [hPart]
    have hCapacity : w'.sink.capacity? = some limit := by rw [hPart]
    exact ⟨hCapacity, by rw [hText]; exact hKept, hCounted⟩

/-- So it stays through any number of steps. -/
theorem Writer.Limited.performAll (h : w.Limited limit) (steps : List Step) :
    (w.performAll steps).Limited limit := by
  induction steps generalizing w with
  | nil => exact h
  | cons step rest ih => exact ih (h.perform step)

end Limited

/-- **Truncation.** Behind any steps on a writer whose sink has a limit, failed ones included, a step succeeds
exactly if all that it would add without the limit still fits. Then it adds that, and leaves the level and
the beginning of the line as it would without the limit. Otherwise it adds a part of that, but not all of it,
behind what was there, and the level counts the guards that are still held: no block that has failed leaves a
level behind. -/
theorem perform_truncated (width limit : Nat) (earlier : List Step) (step : Step) :
    let w := Writer.performAll { width, sink := { capacity? := some limit } } earlier
    ∃ free added, step.run (w.within none) = .ok () free ∧ free.sink.text = w.sink.text ++ added ∧
      ((w.perform step).1 = true ↔ w.sink.text.utf8ByteSize + added.utf8ByteSize ≤ limit) ∧
      match w.perform step with
      | (true, w') => w'.sink.text = w.sink.text ++ added ∧ w'.level = free.level ∧
        w'.atLineStart = free.atLineStart
      | (false, w') => ∃ part rest, added = part ++ rest ∧ rest ≠ "" ∧
        w'.sink.text = w.sink.text ++ part ∧ w'.level = w'.guards := by
  intro w
  have hStart : Writer.Limited { width, sink := { capacity? := some limit } } limit :=
    -- an empty writer counts no guards and holds no text
    ⟨rfl, Nat.zero_le limit, rfl⟩
  have hLimited : w.Limited limit := hStart.performAll earlier
  obtain ⟨free, added, hFree, hSink, hRun⟩ := hLimited.exists_truncated step
  have hAfter := (hLimited.perform step).counted
  have hText : free.sink.text = w.sink.text ++ added := by rw [hSink]
  refine ⟨free, added, hFree, hText, ?_⟩
  unfold Writer.perform at *
  generalize step.run w = ending at *
  rw [← String.utf8ByteSize_append]
  cases hRun with
  -- all fits, or the sink has refused a chunk
  | whole hWhole => exact ⟨iff_of_true rfl hWhole, hText, rfl, rfl⟩
  | @cut w' part rest hFull hPart hKept hSplit hLeft =>
    have hLevel : w'.level = 0 + w'.guards := hAfter
    rw [Nat.zero_add] at hLevel
    refine ⟨iff_of_false Bool.false_ne_true (Nat.not_le_of_lt hFull), part, rest, hSplit, hLeft, ?_, hLevel⟩
    rw [hPart]

end AbiBindings.Layout
