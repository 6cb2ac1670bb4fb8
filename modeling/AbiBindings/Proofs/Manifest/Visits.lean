import AbiBindings.Proofs.Manifest.Nodes

/-!
# Manifest — the calls of a visit

What is done at the nodes of a type may change a state, and may fail. A visit does it at one node after the
other, each before what is nested inside it, and stops behind the first failure. Here that is said of the
calls themselves, which a callback can be made to list.

* `Callback` — what is done at a node; `Callback.listed` — the same, with a list of the calls;
* `Calls`, `Visit` — calls that succeed one after the other, and how a visit ends;
* `VisitsInOrder` — a visit that calls exactly at these nodes, up to the first failure;
* `visitsInOrder_type`, `visitsInOrder_types` — the visits of a type and of a manifest.
-/

namespace AbiBindings.Manifest

variable {σ ε : Type}

/-- What is done at a node with this location. The state is kept when it fails. -/
abbrev Callback (σ ε : Type) := TypeRef → String → ExceptT ε (StateM σ) Unit

/-- The callback that also adds each of its calls to a list. -/
def Callback.listed (act : Callback σ ε) : Callback (σ × List (TypeRef × String)) ε :=
  fun node location (s, calls) =>
    let (result, t) := act node location s
    (result, t, calls ++ [(node, location)])

/-- Calls at these nodes, one after the other, all succeed and lead from one state to the other. -/
inductive Calls (act : Callback σ ε) : List (TypeRef × String) → σ → σ → Prop where
  | nil {s : σ} : Calls act [] s s
  | cons {node : TypeRef × String} {nodes : List (TypeRef × String)} {s middle t : σ} :
    act node.1 node.2 s = (.ok (), middle) → Calls act nodes middle t → Calls act (node :: nodes) s t

/-- How a visit of these nodes ends: every call has succeeded, or one of them has failed behind others that
have succeeded. The failure is what the visit returns, and nothing is called behind it. -/
inductive Visit (act : Callback σ ε) (nodes : List (TypeRef × String)) (s : σ) :
    List (TypeRef × String) → Except ε Unit → σ → Prop where
  | whole {t : σ} : Calls act nodes s t → Visit act nodes s nodes (.ok ()) t
  | stopped {before behind : List (TypeRef × String)} {node : TypeRef × String} {middle t : σ} {e : ε} :
    nodes = before ++ node :: behind → Calls act before s middle →
      act node.1 node.2 middle = (.error e, t) → Visit act nodes s (before ++ [node]) (.error e) t

/-- A visit that calls what it is given at these nodes, in this order, up to the first failure, and that
returns what is left of the state. -/
def VisitsInOrder (visit : ∀ σ ε : Type, Callback σ ε → ExceptT ε (StateM σ) Unit)
    (nodes : List (TypeRef × String)) : Prop :=
  ∀ (σ ε : Type) (act : Callback σ ε) (s : σ), ∃ called result t,
    Visit act nodes s called result t ∧ visit σ ε act s = (result, t)
      ∧ visit _ ε act.listed (s, []) = (result, t, called)

/-! ## Going through nodes -/

/-- Behind a step that succeeds, the next one goes on from the state that it has left. -/
theorem bind_eq_of_ok {α β : Type} {x : ExceptT ε (StateM σ) α} {f : α → ExceptT ε (StateM σ) β}
    {s t : σ} {a : α} (h : x s = (.ok a, t)) : (x >>= f) s = f a t := by
  show StateT.bind x (ExceptT.bindCont f) s = f a t
  rw [StateT.bind, h]
  rfl

/-- Behind a step that fails there is no next one; the state is kept as it is then. -/
theorem bind_eq_of_error {α β : Type} {x : ExceptT ε (StateM σ) α} {f : α → ExceptT ε (StateM σ) β}
    {s t : σ} {e : ε} (h : x s = (.error e, t)) : (x >>= f) s = (.error e, t) := by
  show StateT.bind x (ExceptT.bindCont f) s = (.error e, t)
  rw [StateT.bind, h]
  rfl

/-- A call is listed whether it succeeds or fails. -/
theorem Callback.listed_eq {act : Callback σ ε} {node : TypeRef × String} {s t : σ} {result : Except ε Unit}
    (h : act node.1 node.2 s = (result, t)) (calls : List (TypeRef × String)) :
    act.listed node.1 node.2 (s, calls) = (result, t, calls ++ [node]) := by
  rw [Callback.listed, h]

/-- A call that succeeds in front of a visit. -/
theorem Visit.cons {act : Callback σ ε} {node : TypeRef × String} {nodes called : List (TypeRef × String)}
    {s middle t : σ} {result : Except ε Unit} (hFirst : act node.1 node.2 s = (.ok (), middle))
    (h : Visit act nodes middle called result t) : Visit act (node :: nodes) s (node :: called) result t := by
  cases h with
  | whole hCalls => exact .whole (.cons hFirst hCalls)
  | stopped hNodes hCalls hError =>
    exact .stopped (congrArg (node :: ·) hNodes) (.cons hFirst hCalls) hError

/-- Going through nodes is visiting them, whatever calls have been listed before. -/
theorem exists_visit_forM (act : Callback σ ε) (nodes : List (TypeRef × String)) (s : σ) :
    ∃ called result t, Visit act nodes s called result t
      ∧ (forM nodes fun node => act node.1 node.2) s = (result, t)
      ∧ ∀ calls, (forM nodes fun node => act.listed node.1 node.2) (s, calls)
        = (result, t, calls ++ called) := by
  -- on the nodes; the state and the list of calls differ from call to call
  induction nodes generalizing s with
  | nil => exact ⟨[], .ok (), s, .whole .nil, rfl, fun calls => by rw [List.append_nil]; rfl⟩
  | cons node nodes ih =>
    simp only [List.forM_cons]
    match hFirst : act node.1 node.2 s with
    -- nothing is called behind a failure
    | (.error e, middle) =>
      have hNodes : node :: nodes = [] ++ node :: nodes := rfl
      exact ⟨[node], .error e, middle, .stopped hNodes .nil hFirst, bind_eq_of_error hFirst,
        fun calls => bind_eq_of_error (Callback.listed_eq hFirst calls)⟩
    | (.ok (), middle) =>
      obtain ⟨called, result, t, hVisit, hRun, hCalls⟩ := ih middle
      refine ⟨node :: called, result, t, hVisit.cons hFirst, (bind_eq_of_ok hFirst).trans hRun, fun calls => ?_⟩
      rw [bind_eq_of_ok (Callback.listed_eq hFirst calls), hCalls, List.append_assoc]
      rfl

/-- Whatever comes to going through nodes is a visit of them. -/
theorem visitsInOrder_of_forM {visit : ∀ σ ε : Type, Callback σ ε → ExceptT ε (StateM σ) Unit}
    {nodes : List (TypeRef × String)}
    (h : ∀ (σ ε : Type) (act : Callback σ ε), visit σ ε act = forM nodes fun node => act node.1 node.2) :
    VisitsInOrder visit nodes := by
  intro σ ε act s
  obtain ⟨called, result, t, hVisit, hRun, hCalls⟩ := exists_visit_forM act nodes s
  refine ⟨called, result, t, hVisit, ?_, ?_⟩
  · rw [h, hRun]
  · rw [h, hCalls, List.nil_append]

/-- **Visits.** A type is visited node by node, each node before what is nested inside it. -/
theorem visitsInOrder_type (type : TypeRef) (location : String) :
    VisitsInOrder (fun _ _ act => type.visit act location) (type.nodes location) :=
  visitsInOrder_of_forM fun _ _ act => type.visit_eq_forM act location

/-- A manifest is visited type by type. -/
theorem visitsInOrder_types (manifest : Manifest) :
    VisitsInOrder (fun _ _ act => manifest.visitTypes act) manifest.nodes :=
  visitsInOrder_of_forM fun _ _ act => visitTypes_eq_forM act manifest

/-- A visit that counts nodes and fails at the first reference, the key of a map and the third node. -/
example : ((TypeRef.list (.map (.named "Key") (.named "Value"))).visit (fun node location => do
      modify (· + 1)
      if node.kindName = "$ref" then throw location) "x" : ExceptT String (StateM Nat) Unit) 0
    = (.error "x.items.key", 3) := by rfl

end AbiBindings.Manifest
