import AbiBindings.Proofs.Layout.Lines

/-!
# Layout — levels, blocks and guards

The level of a writer is a counter that several actions change: taking and returning guards, and the
beginning and the end of a body. It is right if it counts the blocks that are open and the guards that
are held, and no action makes it wrong, not even one that fails half way.

* `stateAfter` — the writer behind an action, whether the action has succeeded or not;
* `Writer.Counted` — the level counts open blocks and held guards;
* `KeepsCount` — actions behind which it still does, with a lemma for each way to put actions together;
* `Meets`, `Meets.counted` — all the states that steps go through, inside of blocks as well.
-/

namespace AbiBindings.Layout

/-! ## Right levels -/

/-- The writer behind an action, whether the action has succeeded or not. -/
def stateAfter {α : Type} (x : Writing α) (w : Writer) : Writer :=
  match x w with
  | .ok _ w' | .error _ w' => w'

/-- The level counts the open blocks, of which there are this many, and the guards that are held. -/
def Writer.Counted (w : Writer) (blocks : Nat) : Prop := w.level = blocks + w.guards

/-- An action behind which the level is right if it was right before. -/
def KeepsCount {α : Type} (x : Writing α) : Prop :=
  ∀ (w : Writer) (blocks : Nat), w.Counted blocks → (stateAfter x w).Counted blocks

section Count

variable {α β : Type} {w : Writer} {blocks : Nat}

theorem Writer.Counted.deeper (h : w.Counted blocks) : w.deeper.Counted (blocks + 1) := by
  unfold Writer.Counted at *
  show w.level + 1 = blocks + 1 + w.guards
  omega

theorem stateAfter_of_ok {x : Writing α} {w' : Writer} {a : α} (h : x w = .ok a w') :
    stateAfter x w = w' := by
  rw [stateAfter, h]

theorem keepsCount_pure (a : α) : KeepsCount (pure a) := fun _ _ h => h

theorem keepsCount_get : KeepsCount get := fun _ _ h => h

theorem keepsCount_modify {change : Writer → Writer}
    (h : ∀ w blocks, w.Counted blocks → (change w).Counted blocks) : KeepsCount (modify change) := h

/-- Of two actions one after the other, the first may fail, and then its state is the last. -/
theorem KeepsCount.bind {x : Writing α} {f : α → Writing β} (hx : KeepsCount x)
    (hf : ∀ a, KeepsCount (f a)) : KeepsCount (x >>= f) := by
  intro w blocks h
  have hFirst := hx w blocks h
  show (stateAfter (EStateM.bind x f) w).Counted blocks
  unfold stateAfter EStateM.bind at *
  -- if the first action fails, the state is what it has left
  cases hRun : x w with
  | ok a w' =>
    rw [hRun] at hFirst
    exact hf a w' blocks hFirst
  | error e w' =>
    rw [hRun] at hFirst
    exact hFirst

/-! ## Actions -/

/-- Putting a chunk changes neither level nor guards. -/
theorem keepsCount_put (chunk : String) : KeepsCount (put chunk) := by
  intro w blocks h
  unfold stateAfter put
  -- a chunk that is refused changes nothing, one that is not changes only the sink
  by_cases hRoom : w.sink.hasRoom chunk = true
  · rw [if_pos hRoom]
    exact h
  · rw [if_neg hRoom]
    exact h

theorem keepsCount_putTimes (chunk : String) (count : Nat) : KeepsCount (putTimes chunk count) := by
  induction count with
  | zero => exact keepsCount_pure ()
  | succ count ih => exact (keepsCount_put chunk).bind fun _ => ih

/-- A margin is written or not; the level is only read. -/
theorem keepsCount_margin : KeepsCount margin := by
  refine keepsCount_get.bind fun w => ?_
  by_cases hStart : w.atLineStart = true
  · rw [if_pos hStart]
    exact (keepsCount_putTimes _ _).bind fun _ => keepsCount_modify fun _ _ h => h
  · rw [if_neg hStart]
    exact keepsCount_pure ()

/-- A text is written behind its margin, or nothing is written at all. -/
theorem keepsCount_write (text : String) : KeepsCount (write text) := by
  rw [write]
  by_cases hText : text.isEmpty = true
  · rw [if_pos hText]
    exact keepsCount_pure ()
  · rw [if_neg hText]
    exact keepsCount_margin.bind fun _ => keepsCount_put text

theorem keepsCount_endLine : KeepsCount endLine :=
  (keepsCount_put "\n").bind fun _ => keepsCount_modify fun _ _ h => h

theorem keepsCount_writeLine (text : String) : KeepsCount (writeLine text) :=
  (keepsCount_write text).bind fun _ => keepsCount_endLine

theorem keepsCount_writeLines (lines : List String) : KeepsCount (writeLines lines) := by
  induction lines with
  | nil => exact keepsCount_pure ()
  | cons line rest ih => exact (keepsCount_writeLine line).bind fun _ => ih

theorem keepsCount_docComment (lines : List String) : KeepsCount (docComment lines) := by
  rw [docComment_eq_writeLines]
  exact keepsCount_writeLines (docLines lines)

/-- Taking a guard adds one to both sides. -/
theorem keepsCount_takeGuard : KeepsCount takeGuard := by
  refine keepsCount_modify fun w blocks h => ?_
  unfold Writer.Counted at *
  show w.level + 1 = blocks + (w.guards + 1)
  omega

/-- A guard that is not there is not returned, so the level is never taken below the open blocks. -/
theorem keepsCount_returnGuard (position : Nat) : KeepsCount (returnGuard position) := by
  refine keepsCount_modify fun w blocks h => ?_
  unfold Writer.Counted at *
  -- a guard that is held is one less on both sides; one that is not is left alone
  split
  next hHeld =>
    show w.level - 1 = blocks + (w.guards - 1)
    omega
  next => exact h

/-- A body is one block further in, and gives its level back whatever becomes of it. -/
theorem KeepsCount.indented {body : Writing Unit} (h : KeepsCount body) : KeepsCount (indented body) := by
  intro w blocks hCounted
  have hBody := h w.deeper (blocks + 1) hCounted.deeper
  have hDeeper : { w with level := w.level + 1 } = w.deeper := rfl
  unfold stateAfter at *
  rw [Layout.indented, hDeeper]
  -- both ways out of the body take one from the level
  cases hRun : body w.deeper with
  | ok _ w' | error _ w' =>
    rw [hRun] at hBody
    unfold Writer.Counted at *
    show w'.level - 1 = blocks + w'.guards
    dsimp only at hBody
    omega

theorem KeepsCount.block {body : Writing Unit} (header : String) (h : KeepsCount body) :
    KeepsCount (block header body) :=
  (keepsCount_writeLine _).bind fun _ => h.indented.bind fun _ => keepsCount_writeLine _

end Count

/-! ## Steps -/

mutual

/-- A step keeps the level right, whether it succeeds or not. -/
theorem Step.keepsCount_run : ∀ step : Step, KeepsCount step.run
  | .write text => keepsCount_write text
  | .line text => keepsCount_writeLine text
  | .blank => keepsCount_endLine
  | .doc lines => keepsCount_docComment lines
  | .indent => keepsCount_takeGuard
  | .drop guard => keepsCount_returnGuard guard
  | .nested body => (keepsCount_runSteps body).indented
  | .block header body => (keepsCount_runSteps body).block header

theorem keepsCount_runSteps : ∀ steps : List Step, KeepsCount (runSteps steps)
  | [] => keepsCount_pure ()
  | step :: rest => step.keepsCount_run.bind fun _ => keepsCount_runSteps rest

end

/-- The states that steps go through, from a writer with this many open blocks on, each with the number
of blocks that are open there. -/
inductive Meets : Nat → Writer → List Step → Nat → Writer → Prop where
  | here {blocks : Nat} {w : Writer} {steps : List Step} : Meets blocks w steps blocks w
  | behind {blocks later : Nat} {w w' met : Writer} {step : Step} {rest : List Step} :
    step.run w = .ok () w' → Meets blocks w' rest later met → Meets blocks w (step :: rest) later met
  | inNested {blocks later : Nat} {w met : Writer} {body rest : List Step} :
    Meets (blocks + 1) w.deeper body later met →
      Meets blocks w (.nested body :: rest) later met
  | inBlock {blocks later : Nat} {w w' met : Writer} {header : String} {body rest : List Step} :
    writeLine (header ++ " \x7b") w = .ok () w' →
      Meets (blocks + 1) w'.deeper body later met →
        Meets blocks w (.block header body :: rest) later met

/-- **Levels.** In all states that steps go through, the level counts the open blocks and the guards that
are held. -/
theorem Meets.counted {blocks later : Nat} {w met : Writer} {steps : List Step}
    (h : Meets blocks w steps later met) (hCounted : w.Counted blocks) : met.Counted later := by
  -- the induction goes along the way that leads to the state
  induction h with
  | here => exact hCounted
  -- the step has left a writer that is counted, since it has succeeded
  | behind hStep _ ih =>
    rw [← stateAfter_of_ok hStep] at ih
    exact ih (Step.keepsCount_run _ _ _ hCounted)
  -- inside of a body there is one block more
  | inNested _ ih => exact ih hCounted.deeper
  | inBlock hHeader _ ih =>
    rw [← stateAfter_of_ok hHeader] at ih
    exact ih (keepsCount_writeLine _ _ _ hCounted).deeper

end AbiBindings.Layout
