import SealedRpc.Codec.Workers
import SealedRpc.Json.Shown

/-!
# How many workers were asked for

What an application sets as the number of workers. Nothing, and whatever counts as nothing,
means one worker; a text, a list or a dictionary cannot be compared with a number, and work
that comes to that comparison fails.
-/

namespace SealedRpc

/-- The number of workers that an application asks for. -/
inductive WorkerSetting where
  | pool (pool : Pool)
  | notCompared (kind : Text)
  deriving Repr

namespace WorkerSetting

/-- The setting in a value, for workers that finish in a given order. -/
def ofJson (finishing : List Nat) : Json → WorkerSetting
  | .int n => .pool ⟨some n, finishing⟩
  | .null | .bool _ | .float _ | .text [] | .array [] | .object [] => .pool .single
  | v => .notCompared v.kind

/-- The words for a setting that cannot be compared with a number. -/
def notComparedMessage (kind : Text) : Text :=
  "'<=' not supported between instances of '" ++ kind ++ "' and 'int'"

end WorkerSetting

end SealedRpc
