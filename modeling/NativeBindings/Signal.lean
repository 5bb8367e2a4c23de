/-!
# Signals

The signals that can end a program, by their numbers.
-/

namespace NativeBindings

/-- A signal by its number. -/
structure Signal where
  number : Nat
  deriving DecidableEq, Repr

namespace Signal

/-- The short names of the signals from number one on. -/
def shortNames : List String :=
  ["HUP", "INT", "QUIT", "ILL", "TRAP", "ABRT", "BUS", "FPE", "KILL", "USR1", "SEGV", "USR2",
    "PIPE", "ALRM", "TERM", "STKFLT", "CHLD", "CONT", "STOP", "TSTP", "TTIN", "TTOU", "URG",
    "XCPU", "XFSZ", "VTALRM", "PROF", "WINCH", "IO", "PWR", "SYS"]

/-- The short name of a signal, if it has one. -/
def shortName? (signal : Signal) : Option String :=
  if signal.number = 0 then none else shortNames[signal.number - 1]?

/-- The number of a signal with its full name. -/
def text (signal : Signal) : String :=
  match signal.shortName? with
  | some name => toString signal.number ++ " (SIG" ++ name ++ ")"
  | none => toString signal.number

end Signal

end NativeBindings
