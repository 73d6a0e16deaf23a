import DialogGate.Text.Basic

/-! # Log records

A record tells what was done, how much it matters and which part of the program tells it. A log is
the list of its records in order; `Log.atLevel` keeps those that matter enough.
-/

namespace DialogGate.Log

/-- How much a record matters, the most severe first. -/
inductive Level where
  | error | warn | info | debug | trace
  deriving DecidableEq, Repr

namespace Level

/-- The place of a level in the order of severity. -/
def rank : Level → Nat
  | error => 1
  | warn => 2
  | info => 3
  | debug => 4
  | trace => 5

/-- The name of a level in a log. -/
def name : Level → Text
  | error => "ERROR".toList
  | warn => "WARN".toList
  | info => "INFO".toList
  | debug => "DEBUG".toList
  | trace => "TRACE".toList

end Level

/-- The part of the program that tells a record. -/
inductive Origin where
  | parser | tags | choices | resolveCommand
  deriving DecidableEq, Repr

/-- The name of a part in a log. -/
def Origin.name : Origin → Text
  | parser => "choice_conditions::parser".toList
  | tags => "choice_conditions::tags".toList
  | choices => "choice_conditions::choices".toList
  | resolveCommand => "choice_conditions::cli::resolve".toList

/-- What was done. -/
structure Record where
  level : Level
  origin : Origin
  message : Text
  deriving DecidableEq, Repr

/-- The records of at least the given severity; none if no level is given. -/
def atLevel (level : Option Level) (records : List Record) : List Record :=
  match level with
  | some l => records.filter (·.level.rank ≤ l.rank)
  | none => []

theorem mem_atLevel {l : Level} {r : Record} {records : List Record} :
    r ∈ atLevel (some l) records ↔ r ∈ records ∧ r.level.rank ≤ l.rank := by
  simp [atLevel]

end DialogGate.Log
