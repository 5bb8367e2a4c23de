import NativeBindings.Failure

/-!
# Sinks

A sink takes bytes, at most so many at once and so many in all. Bytes are handed to it until it
has taken all of them, or takes none.
-/

namespace NativeBindings

/-- How much a sink takes. A missing bound means no bound. -/
structure Sink where
  /-- The number of bytes taken in all. -/
  limit : Option Nat := none
  /-- The number of bytes taken at once. -/
  chunk : Option Nat := none
  /-- Whether a sink that can take nothing reports that it took nothing, and not a fault. -/
  reportsZero : Bool := false
  deriving DecidableEq, Repr

namespace Sink

/-- The number of bytes that a sink takes of those offered, after those taken before. -/
def takes (sink : Sink) (taken offered : Nat) : Nat :=
  let most := match sink.limit with
    | some limit => min offered (limit - taken)
    | none => offered
  match sink.chunk with
  | some chunk => min most chunk
  | none => most

/-- The fault of a write that took nothing. -/
def fault (sink : Sink) : IoFault :=
  if sink.reportsZero then .nothingTaken else .closed

/-- Hand bytes to a sink until it has all of them: those it took, and the fault that stopped it. -/
def writeAll (sink : Sink) (taken : Nat) (bytes : List UInt8) : List UInt8 × Option IoFault :=
  if bytes.isEmpty then ([], none)
  else
    let count := sink.takes taken bytes.length
    if _h : count = 0 then ([], some sink.fault)
    else
      let (more, fault) := sink.writeAll (taken + count) (bytes.drop count)
      (bytes.take count ++ more, fault)
termination_by bytes.length
decreasing_by
  simp only [List.length_drop]
  have : bytes.length ≠ 0 := by
    intro hlen
    simp_all
  omega

end Sink

end NativeBindings
