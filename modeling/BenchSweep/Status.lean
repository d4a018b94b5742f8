/-
  How an invocation of the harness ended.
-/

namespace BenchSweep

/-- The end of an invocation. -/
inductive Status where
  | succeeded
  /-- An end without success; there is no code when a signal brought it about. -/
  | failed (code : Option Int)
deriving DecidableEq, Repr, Inhabited

namespace Status

/-- Whether the invocation succeeded. -/
def isSuccess : Status → Bool
  | .succeeded => true
  | .failed _ => false

/-- The word for a status, with the code if there is one. -/
def display : Status → String
  | .succeeded => "ok"
  | .failed (some code) => s!"exit code {code}"
  | .failed none => "terminated by signal"

end Status
end BenchSweep
