import QueryFuzz.Storage.Disk

/-!
# Processes

What it takes to start a program and what is left when it has ended. A system runs programs on a
disk; time passes only for the programs and is counted in milliseconds.
-/

namespace QueryFuzz
namespace Engine

structure Invocation where
  program : String
  arguments : List String
  /-- The working directory of the program. -/
  directory : Storage.Location
  /-- Environment variables. -/
  environment : List (String × String)
  input : ByteArray
  /-- The program is ended after this time. -/
  limit : Option Nat

inductive Ending where
  | exited (code : Nat)
  | signaled (signal : Nat)
  /-- The time was up. -/
  | overran
  deriving DecidableEq, Repr

structure Completion where
  ending : Ending
  stdout : ByteArray
  stderr : ByteArray
  elapsed : Nat
  /-- When the last process that could still write closed the output. -/
  closed : Nat

/-- Runs programs; a failure means that the program could not be started. -/
abbrev System := Invocation → Storage.Action Completion

end Engine
end QueryFuzz
