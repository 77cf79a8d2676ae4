import KeyTrace.Path

/-!
# The environment

## Main definitions

* `Environment`: what surrounds the program besides files and arguments.
-/

namespace KeyTrace

/-- What surrounds the program besides files and arguments. -/
structure Environment where
  /-- The folder of the user. -/
  home : Path
  /-- The folder for configuration files. -/
  configHome : Path
  /-- The number of processors. -/
  processors : Nat
  /-- Whether output is styled. -/
  color : Bool
deriving Repr

end KeyTrace
