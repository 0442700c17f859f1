/-!
# Journal

Operations report what they did as lines of a journal, each with a level of
severity.  A reader keeps the lines at its own level and above.
-/

namespace VoxelCache

section Journal

/-- Severity of a line. -/
inductive Level where
  | error
  | warn
  | info
  | debug
  | trace
deriving DecidableEq

namespace Level

def name : Level → String
  | error => "ERROR"
  | warn => "WARN"
  | info => "INFO"
  | debug => "DEBUG"
  | trace => "TRACE"

/-- Position in order of decreasing severity. -/
def rank : Level → Nat
  | error => 0
  | warn => 1
  | info => 2
  | debug => 3
  | trace => 4

end Level

/-- One line of the journal. -/
structure Line where
  level : Level
  text : String
deriving DecidableEq

namespace Line

/-- The line as a reader sees it. -/
def display (line : Line) : String :=
  line.level.name ++ " " ++ line.text

end Line

/-- Lines in the order in which they were written. -/
abbrev Journal := List Line

namespace Journal

/-- The lines that are at least as severe as a level. -/
def upTo (level : Level) (journal : Journal) : Journal :=
  journal.filter fun line => line.level.rank ≤ level.rank

end Journal

end Journal

end VoxelCache
