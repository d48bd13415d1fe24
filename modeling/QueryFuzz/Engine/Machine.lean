import QueryFuzz.Engine.Execution
import QueryFuzz.Report.Timestamp

/-!
# Machines

What the engines of a run share: a disk, a clock, the request to stop, and the state `ε` of engines
that live inside the process.
-/

namespace QueryFuzz

structure Machine (ε : Type) where
  disk : Storage.Disk
  /-- The time that each reading of the clock shows. -/
  clock : Nat → Report.Timestamp
  /-- How often the clock was read. -/
  readings : Nat
  /-- Somebody asked the run to stop. -/
  stopped : Bool
  engines : ε

namespace Machine

variable {ε α : Type}

/-- An operation on the disk alone. -/
def onDisk (operation : StateM Storage.Disk α) : StateM (Machine ε) α := fun m =>
  let (a, d) := operation m.disk
  (a, { m with disk := d })

/-- An operation on the engines alone. -/
def onEngines (operation : StateM ε α) : StateM (Machine ε) α := fun m =>
  let (a, e) := operation m.engines
  (a, { m with engines := e })

def stop : StateM (Machine ε) Unit := modify fun m => { m with stopped := true }

def now : StateM (Machine ε) Report.Timestamp := fun m =>
  (m.clock m.readings, { m with readings := m.readings + 1 })

end Machine
end QueryFuzz
