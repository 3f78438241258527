import BuildYard.Time.Calendar
/-!
# Instants

An instant is a count of seconds since 1970-01-01T00:00:00 UTC with nanoseconds. The last second of
a minute may hold up to two thousand million nanoseconds: from the first thousand million on they
belong to a leap second. Every instant lies between -262143-01-01T00:00:00 and
+262142-12-31T23:59:59.
-/

namespace BuildYard

namespace Instant

/-- The first second that is represented, 1 January of the year -262143. -/
def firstSecond : Int := -8334601228800

/-- The last second that is represented, the last of the year 262142. -/
def lastSecond : Int := 8210266876799

/-- The nanoseconds of a second. -/
def second : Nat := 1000000000

/-- Seconds and nanoseconds that make an instant. -/
def Represented (seconds : Int) (nanos : Nat) : Prop :=
  firstSecond ≤ seconds ∧ seconds ≤ lastSecond ∧
    (nanos < second ∨ (nanos < 2 * second ∧ seconds % 60 = 59))

instance (seconds : Int) (nanos : Nat) : Decidable (Represented seconds nanos) :=
  inferInstanceAs (Decidable (_ ∧ _ ∧ (_ ∨ (_ ∧ _))))

end Instant

/-- A point in time. -/
structure Instant where
  /-- Whole seconds since 1970-01-01T00:00:00 UTC. -/
  seconds : Int
  /-- Nanoseconds after those seconds. -/
  nanos : Nat
  /-- The two make an instant. -/
  represented : Instant.Represented seconds nanos
  deriving DecidableEq

namespace Instant

/-- The instant with these seconds and nanoseconds, if there is one. -/
def of? (seconds : Int) (nanos : Nat) : Option Instant :=
  if h : Represented seconds nanos then some ⟨seconds, nanos, h⟩ else none

/-- The two numbers make the instant, or none. -/
theorem of?_eq_some_iff {seconds : Int} {nanos : Nat} {t : Instant} :
    of? seconds nanos = some t ↔ t.seconds = seconds ∧ t.nanos = nanos := by
  unfold of?
  constructor
  · intro h
    split at h
    · obtain rfl := Option.some.inj h
      exact ⟨rfl, rfl⟩
    · cases h
  · rintro ⟨rfl, rfl⟩
    rw [dif_pos t.represented]

/-- The start of 1970. -/
def epoch : Instant := ⟨0, 0, by decide⟩

instance : Inhabited Instant := ⟨epoch⟩

/-- Is the instant inside a leap second? -/
def isLeap (t : Instant) : Bool := second ≤ t.nanos

/-- The instant a number of seconds later, or earlier if the number is negative, if there is one.
Counting from inside a leap second, the leap second is the second before when going forward and the
second after when going back. -/
def addSeconds? (t : Instant) (n : Int) : Option Instant :=
  if n = 0 then some t
  else if t.isLeap then of? (if 0 < n then t.seconds + n else t.seconds + 1 + n) (t.nanos - second)
  else of? (t.seconds + n) t.nanos

/-- The date of an instant. -/
def date (t : Instant) : Date := Date.ofDay (t.seconds / 86400)

/-- The seconds since midnight. -/
def secondOfDay (t : Instant) : Nat := (t.seconds % 86400).toNat

end Instant

end BuildYard
