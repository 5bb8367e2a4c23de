import NativeBindings.Sink

/-!
# Emissions

What a backend writes for a class, as data: the texts in order, and how it ends. Handed to a sink,
it gives the bytes that arrive.
-/

namespace NativeBindings

/-- The texts that a backend writes, in order, and how it ends if all of them are taken. -/
structure Emission where
  writes : List (List UInt8)
  outcome : Except Failure Unit
  /-- The failure reported when the sink stops taking bytes. -/
  onFault : IoFault → Failure

namespace Emission

/-- All bytes that are written if nothing stops them. -/
def bytes (emission : Emission) : List UInt8 :=
  emission.writes.flatten

/-- Write texts to a sink in order, after so many bytes taken before: the bytes that it takes, and
the fault that stops it. -/
def writeTo (sink : Sink) (taken : Nat) : List (List UInt8) → List UInt8 × Option IoFault
  | [] => ([], none)
  | text :: rest =>
    match sink.writeAll taken text with
    | (accepted, some fault) => (accepted, some fault)
    | (accepted, none) =>
      let (more, fault) := writeTo sink (taken + accepted.length) rest
      (accepted ++ more, fault)

/-- Hand an emission to a sink: the bytes that arrive, and how it ends. -/
def run (emission : Emission) (sink : Sink) : List UInt8 × Except Failure Unit :=
  match writeTo sink 0 emission.writes with
  | (accepted, some fault) => (accepted, .error (emission.onFault fault))
  | (accepted, none) => (accepted, emission.outcome)

end Emission

end NativeBindings
