import BuildYard.Cluster.Attempt
/-!
# Strands side by side

`Joins` says how strands that go on side by side come to an end when nothing is known about their order:
at each moment any strand that has not ended may take a step, the first that fails ends it all, and else
it ends when all of them have ended.

* `joins_iff`: these are the ends that turns can lead to.
-/

namespace BuildYard.Strand

variable {σ : Type}

/-- How strands side by side come to an end, from a state to a state. -/
inductive Joins : List (Strand σ Unit) → σ → Except Failure Unit → σ → Prop
  /-- All of them have ended. -/
  | ended {s : σ} : Joins [] s (.ok ()) s
  /-- The last step of one fails, and the others are left where they are. -/
  | fails {strands : List (Strand σ Unit)} (turn : Nat) {a : Attempt σ Unit} {s t : σ} {e : Failure}
      (here : strands[turn]? = some (.last a)) (failed : a.outcome s = (.error e, t)) :
      Joins strands s (.error e) t
  /-- One ends, and the others go on. -/
  | ends {strands : List (Strand σ Unit)} (turn : Nat) {a : Attempt σ Unit} {s s' t : σ}
      {r : Except Failure Unit} (here : strands[turn]? = some (.last a))
      (done : a.outcome s = (.ok (), s')) (others : Joins (strands.eraseIdx turn) s' r t) :
      Joins strands s r t
  /-- One takes a step. -/
  | goes {strands : List (Strand σ Unit)} (turn : Nat) {next : σ → σ} {rest : σ → Strand σ Unit}
      {s t : σ} {r : Except Failure Unit} (here : strands[turn]? = some (.step next rest))
      (others : Joins (strands.set turn (rest s)) (next s) r t) : Joins strands s r t

/-- In order the first strand takes all its steps before the second takes one. -/
theorem joins_inOrder (strands : List (Strand σ Unit)) (s : σ) :
    Joins strands s ((inOrder strands).outcome s).1 ((inOrder strands).outcome s).2 := by
  induction strands generalizing s with
  | nil => exact .ended
  | cons strand strands ih =>
    rw [inOrder, Attempt.outcome_bind]
    induction strand generalizing s with
    | last a =>
      rw [outcome_run_last]
      rcases ha : a.outcome s with ⟨e | _, s'⟩
      · exact .fails 0 rfl ha
      · exact .ends 0 rfl ha (ih s')
    | step next rest ihStrand => exact .goes 0 rfl (ihStrand s (next s))

/-- Turns lead to one of the ends. -/
theorem joins_byTurns (turns : List Nat) (strands : List (Strand σ Unit)) (s : σ) :
    Joins strands s ((byTurns turns strands).outcome s).1 ((byTurns turns strands).outcome s).2 := by
  induction turns generalizing strands s with
  | nil => exact joins_inOrder strands s
  | cons turn turns ih =>
    rw [byTurns]
    split
    · exact ih strands s
    · rename_i a here
      rw [Attempt.outcome_bind]
      rcases ha : a.outcome s with ⟨e | _, s'⟩
      · exact .fails turn here ha
      · exact .ends turn here ha (ih _ s')
    · rename_i next rest here
      exact .goes turn here (ih _ (next s))

/-- The turn of a strand between others. -/
theorem outcome_byTurns_between (turns : List Nat) (front back : List (Strand σ Unit))
    (next : σ → σ) (rest : σ → Strand σ Unit) (s : σ) :
    (byTurns (front.length :: turns) (front ++ .step next rest :: back)).outcome s =
      (byTurns turns (front ++ rest s :: back)).outcome (next s) := by
  have hturn : (front ++ Strand.step next rest :: back)[front.length]? = some (.step next rest) := by
    simp
  have hset : (front ++ Strand.step next rest :: back).set front.length (rest s) =
      front ++ rest s :: back := by
    simp
  rw [byTurns, hturn]
  dsimp only
  rw [Attempt.outcome_of, hset]

/-- Every end is one that turns lead to: the turns that were taken on the way. -/
theorem Joins.exists_turns {strands : List (Strand σ Unit)} {s t : σ} {r : Except Failure Unit}
    (h : Joins strands s r t) : ∃ turns, (byTurns turns strands).outcome s = (r, t) := by
  induction h with
  | ended => exact ⟨[], rfl⟩
  | @fails strands turn a s t e here failed =>
    refine ⟨[turn], ?_⟩
    simp only [byTurns, here, Attempt.outcome_bind, failed]
  | @ends strands turn a s s' t r here done others ih =>
    obtain ⟨turns, hturns⟩ := ih
    refine ⟨turn :: turns, ?_⟩
    simp only [byTurns, here, Attempt.outcome_bind, done, hturns]
  | @goes strands turn next rest s t r here others ih =>
    obtain ⟨turns, hturns⟩ := ih
    refine ⟨turn :: turns, ?_⟩
    simp only [byTurns, here, Attempt.outcome_of, hturns]

/-- **Strands side by side can come to an end in the ways that turns lead to, and in no other.** -/
theorem joins_iff {strands : List (Strand σ Unit)} {s t : σ} {r : Except Failure Unit} :
    Joins strands s r t ↔ ∃ turns, (byTurns turns strands).outcome s = (r, t) := by
  refine ⟨Joins.exists_turns, ?_⟩
  rintro ⟨turns, hturns⟩
  have hjoins := joins_byTurns turns strands s
  rwa [hturns] at hjoins

end BuildYard.Strand
