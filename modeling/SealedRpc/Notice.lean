import SealedRpc.Text.Basic

/-!
# Log notices

What an operation reports while it works: a level, the part that speaks, and the name of
the event. Notices never carry bodies, keys or plaintext.
-/

namespace SealedRpc

/-- How urgent a notice is. -/
inductive Level where
  | debug
  | info
  | warning
  deriving DecidableEq, Repr

namespace Level

/-- The name of a level. -/
def name : Level → String
  | .debug => "DEBUG"
  | .info => "INFO"
  | .warning => "WARNING"

/-- The number of a level; the higher, the more urgent. -/
def severity : Level → Nat
  | .debug => 10
  | .info => 20
  | .warning => 30

/-- The names that a threshold may have, with their numbers. Zero lets everything pass. -/
def thresholds : List (Text × Nat) :=
  [("CRITICAL", 50), ("FATAL", 50), ("ERROR", 40), ("WARN", 30), ("WARNING", 30),
    ("INFO", 20), ("DEBUG", 10), ("NOTSET", 0)]

/-- The number of the threshold with this name. -/
def threshold? (name : Text) : Option Nat :=
  thresholds.lookup name

end Level

/-- A log notice. -/
structure Notice where
  level : Level
  source : String
  event : String
  deriving DecidableEq, Repr

namespace Notice

/-- The line of a notice in a log. -/
def line (n : Notice) : Text :=
  n.level.name ++ ":" ++ n.source ++ ":" ++ n.event

/-- Whether a notice reaches a threshold. -/
def reaches (threshold : Nat) (n : Notice) : Bool :=
  threshold ≤ n.level.severity

end Notice

end SealedRpc
