import QubitRotation.Capped
import QubitRotation.Circuit
import QubitRotation.Hardware.Costs

/-!
# Running times

The running time of a sequence is the sum of its gate costs, capped at 64 bits.
`Costs.runningTime` adds gate by gate, `Costs.timing` counts the gates of each axis and
multiplies. Both refuse a sequence with a Y rotation and name the first one.
-/

namespace QubitRotation.Hardware

/-- A running time split by axis. -/
structure Timing where
  zGates : Nat
  xGates : Nat
  zTime : UInt64
  xTime : UInt64
  total : UInt64
  deriving DecidableEq, Inhabited, Repr

/-- The running time in one line. -/
def Timing.text (timing : Timing) : String :=
  s!"{timing.total.toNat} ({timing.zGates} Z gates: {timing.zTime.toNat}, " ++
  s!"{timing.xGates} X gates: {timing.xTime.toNat})"

namespace Costs

/-- Adds the costs of gates to a time, gate by gate. -/
def addTimes (costs : Costs) (time : UInt64) (gates : List Gate) : Except Fault UInt64 :=
  gates.foldlM (fun total gate => return Capped.addWords total (← costs.ofGate gate)) time

/-- The running time of a sequence. -/
def runningTime (costs : Costs) (gates : List Gate) : Except Fault UInt64 :=
  costs.addTimes 0 gates

/-- The running time of a circuit, split by axis. -/
def timing (costs : Costs) (circuit : Circuit) : Except Fault Timing :=
  match circuit.firstNonNative? with
  | some gate => .error (.notNative gate)
  | none =>
      let zGates := circuit.countAbout .z
      let xGates := circuit.countAbout .x
      let zTime := Capped.mulWord costs.z zGates
      let xTime := Capped.mulWord costs.x xGates
      .ok { zGates, xGates, zTime, xTime, total := Capped.addWords zTime xTime }

end Costs

end QubitRotation.Hardware
