/-!
# Outcomes of executions

What one engine did with one query: how it ended, the rows or the error text it printed, and the
units of code it covered. Crashes and timeouts are outcomes too.
-/

namespace QueryFuzz
namespace Engine

/-- A result row, one text for each column, as the engine printed it. -/
abbrev Row := List String

/-- How an engine run ended. -/
inductive Status where
  | exited (code : Int)
  | signaled (signal : Int)
  /-- An engine inside the process gave up with a message. -/
  | panicked (message : String)
  | timedOut
  deriving DecidableEq, Repr

def Status.text : Status → String
  | exited code => s!"exited with code {code}"
  | signaled signal => s!"terminated by signal {signal}"
  | panicked message => "panicked: " ++ message
  | timedOut => "timed out"

structure Outcome where
  version : String
  status : Status
  /-- The engine ended abnormally. -/
  crashed : Bool
  timedOut : Bool
  /-- None if the engine reported an error, crashed or timed out. -/
  rows : Option (List Row)
  error : Option String
  stdout : String
  stderr : String
  elapsedMs : Nat
  /-- Covered units in the order they were reported. -/
  coverage : List String
  deriving DecidableEq, Repr

/-- Did the engine run to its end, with rows or with an error? -/
def Outcome.completed (o : Outcome) : Bool :=
  !o.crashed && !o.timedOut

/-- The outcomes of one query on both engines. The second is missing if the first made it
pointless. -/
structure DualOutcome where
  primary : Outcome
  reference : Option Outcome
  deriving DecidableEq, Repr

end Engine
end QueryFuzz
