import BuildYard.Failure
/-!
# Computations over a state

An `Attempt` is a computation over a state that may fail; whatever it did to the state before it failed
stays done. A `Strand` is an attempt in steps, so that others can go on between them.
-/

namespace BuildYard

/-- A computation over a state that may fail. -/
abbrev Attempt (σ α : Type) : Type := ExceptT Failure (StateM σ) α

namespace Attempt

variable {σ α : Type}

/-- The computation that runs a function of the state. -/
def of (f : σ → Except Failure α × σ) : Attempt σ α := ExceptT.mk f

/-- The outcome and the state after a computation. -/
def outcome (a : Attempt σ α) (s : σ) : Except Failure α × σ := a s

/-- The computation with a known outcome. -/
def ofResult (r : Except Failure α) : Attempt σ α := of fun s => (r, s)

/-- The computation with its failure seen from the operation it happened in. -/
def within (operation : String) (a : Attempt σ α) : Attempt σ α :=
  of fun s => let (r, s') := a.outcome s; (during operation r, s')

/-! The outcome of a computation, by the way it is put together. -/

@[simp] theorem outcome_of (f : σ → Except Failure α × σ) (s : σ) : (of f).outcome s = f s := rfl

@[simp] theorem outcome_ofResult (r : Except Failure α) (s : σ) :
    (ofResult r).outcome s = (r, s) := rfl

@[simp] theorem outcome_within (operation : String) (a : Attempt σ α) (s : σ) :
    (a.within operation).outcome s = (during operation (a.outcome s).1, (a.outcome s).2) := rfl

@[simp] theorem outcome_pure (a : α) (s : σ) : (pure a : Attempt σ α).outcome s = (.ok a, s) := rfl

theorem outcome_bind {β : Type} (a : Attempt σ α) (f : α → Attempt σ β) (s : σ) :
    (a >>= f).outcome s =
      match a.outcome s with
      | (.ok x, s') => (f x).outcome s'
      | (.error e, s') => (.error e, s') := by
  change ExceptT.bindCont f (a s).1 (a s).2 = _
  unfold outcome
  cases a s with
  | mk r s' => cases r <;> rfl

/-- A computation whose result is changed by a function. -/
theorem outcome_bind_pure {β : Type} (a : Attempt σ α) (f : α → β) (s : σ) :
    (a >>= fun x => pure (f x)).outcome s = ((a.outcome s).1.map f, (a.outcome s).2) := by
  rw [outcome_bind]
  rcases a.outcome s with ⟨_ | _, _⟩ <;> rfl

end Attempt

/-! ## Computations in steps -/

/-- A computation in steps. The state may change between two of them; the last one gives the result. -/
inductive Strand (σ α : Type) where
  | last (a : Attempt σ α)
  /-- A step of the state, and what is left to do, by the state before the step. -/
  | step (next : σ → σ) (rest : σ → Strand σ α)

namespace Strand

variable {σ α : Type}

/-- All the steps, with nothing between them. -/
def run : Strand σ α → Attempt σ α
  | last a => a
  | step next rest => .of fun s => (rest s).run.outcome (next s)

/-- The strand with its failure seen from the operation it happened in. -/
def within (operation : String) : Strand σ α → Strand σ α
  | last a => last (a.within operation)
  | step next rest => step next fun s => (rest s).within operation

/-- Strands one after the other, up to the first that fails. -/
def inOrder : List (Strand σ Unit) → Attempt σ Unit
  | [] => pure ()
  | strand :: rest => do
    strand.run
    inOrder rest

/-- Strands side by side, up to the first that fails. A turn is the place of a strand among those that
have not ended, and lets it take a step; the strands that are left after the turns go on in their
order. -/
def byTurns : List Nat → List (Strand σ Unit) → Attempt σ Unit
  | [], strands => inOrder strands
  | turn :: turns, strands =>
    match strands[turn]? with
    | none => byTurns turns strands
    | some (last a) => do
      a
      byTurns turns (strands.eraseIdx turn)
    | some (step next rest) =>
      .of fun s => (byTurns turns (strands.set turn (rest s))).outcome (next s)

@[simp] theorem outcome_run_last (a : Attempt σ α) (s : σ) :
    (last a).run.outcome s = a.outcome s := rfl

@[simp] theorem outcome_run_step (next : σ → σ) (rest : σ → Strand σ α) (s : σ) :
    (step next rest).run.outcome s = (rest s).run.outcome (next s) := rfl

theorem run_within (operation : String) (strand : Strand σ α) :
    (strand.within operation).run = strand.run.within operation := by
  induction strand with
  | last a => rfl
  | step next rest ih =>
    funext s
    exact congrFun (ih s) (next s)

end Strand

end BuildYard
