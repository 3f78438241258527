import BuildYard.Build.Status
import BuildYard.Health.PodView
/-!
# Counters

What the build yard counts, and the text in which the counts are given out: a family of counters
has two lines of explanation and then a line for each counter. Families and labels are in order of
their names. A counter with a label appears as soon as it has counted something.
-/

namespace BuildYard

/-- The counts since the start. -/
structure Counters where
  submitted : Nat := 0
  canceled : Nat := 0
  /-- Status polls by the phase they found. -/
  polls : BuildPhase → Nat := fun _ => 0
  /-- Health roll-ups by their result. -/
  rollups : Health → Nat := fun _ => 0

namespace Counters

/-- One more job was created. -/
def addSubmitted (c : Counters) : Counters := { c with submitted := c.submitted + 1 }

/-- More jobs were canceled. -/
def addCanceled (n : Nat) (c : Counters) : Counters := { c with canceled := c.canceled + n }

/-- One more poll found a phase. -/
def addPoll (phase : BuildPhase) (c : Counters) : Counters :=
  { c with polls := fun p => if p = phase then c.polls p + 1 else c.polls p }

/-- One more roll-up had a result. -/
def addRollup (health : Health) (c : Counters) : Counters :=
  { c with rollups := fun h => if h = health then c.rollups h + 1 else c.rollups h }

/-- A counter with the name and value of its label, if it has one. -/
structure Series where
  label : Option (String × String)
  count : Nat

/-- A family of counters. -/
structure Family where
  name : String
  help : String
  series : List Series

/-- The counters with a label that have counted something. -/
def labelled {α : Type} (label : String) (text : α → String) (count : α → Nat) (values : List α) :
    List Series :=
  (values.filter fun a => 0 < count a).map fun a => ⟨some (label, text a), count a⟩

/-- The families of counters. -/
def families (c : Counters) : List Family := [
  { name := "unbind_build_jobs_canceled_total"
    help := "Total number of active build jobs deleted to make room for a newer build."
    series := [⟨none, c.canceled⟩] },
  { name := "unbind_build_jobs_submitted_total"
    help := "Total number of build jobs created."
    series := [⟨none, c.submitted⟩] },
  { name := "unbind_health_rollups_total"
    help := "Simple health rollups by result."
    series := labelled "health" Health.text c.rollups [.degraded, .healthy, .unhealthy] },
  { name := "unbind_job_status_polls_total"
    help := "Job status observations by resulting condition."
    series := labelled "condition" BuildPhase.text c.polls
      [.failed, .pending, .running, .succeeded] }]

/-- The line of one counter. -/
def Series.line (name : String) (s : Series) : String :=
  let label := match s.label with
    | some (key, value) => "\x7b" ++ key ++ "=\"" ++ value ++ "\"\x7d"
    | none => ""
  name ++ label ++ " " ++ String.ofList (Text.decimal s.count) ++ "\n"

/-- The lines of a family; a family without counters has none. -/
def Family.lines (f : Family) : String :=
  if f.series.isEmpty then ""
  else
    "# HELP " ++ f.name ++ " " ++ f.help ++ "\n" ++ "# TYPE " ++ f.name ++ " counter\n" ++
      String.join (f.series.map (Series.line f.name))

/-- The counts as text. -/
def text (c : Counters) : String := String.join (c.families.map Family.lines)

end Counters

end BuildYard
