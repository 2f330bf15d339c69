/-!
# Log entries

Operations that report on their way return their entries beside their result, oldest first. Which
entries a user sees depends on a `Verbosity`, and on nothing else.
-/

namespace RuntimeProfiles.Log

/-- How urgent an entry is, most urgent first. -/
inductive Level where
  | error
  | warn
  | info
  | debug
  | trace
deriving DecidableEq, Repr

namespace Level

def name : Level → String
  | .error => "ERROR"
  | .warn => "WARN"
  | .info => "INFO"
  | .debug => "DEBUG"
  | .trace => "TRACE"

/-- Zero for the most urgent level. -/
def rank : Level → Nat
  | .error => 0
  | .warn => 1
  | .info => 2
  | .debug => 3
  | .trace => 4

/-- The least urgent level that is shown after `count` requests for more detail: warnings without
one, everything from the third on. -/
def shownAt : (count : Nat) → Level
  | 0 => .warn
  | 1 => .info
  | 2 => .debug
  | _ => .trace

end Level

/-- One message of the program about its own work. -/
structure Entry where
  level : Level
  message : String
deriving DecidableEq, Repr

namespace Entry

/-- The line that shows an entry, without the end of line. -/
def line (entry : Entry) : String := "[" ++ entry.level.name ++ "] " ++ entry.message

/-- Whether an entry is shown after `count` requests for more detail. -/
def isShownAt (count : Nat) (entry : Entry) : Bool := entry.level.rank ≤ (Level.shownAt count).rank

end Entry

end RuntimeProfiles.Log
