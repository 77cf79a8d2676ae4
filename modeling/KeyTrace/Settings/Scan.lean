/-!
# Settings of a scan

## Main definitions

* `ScanSettings`, `ScanSettings.standard`: what a scan may be told, and the values that hold
  otherwise.
-/

namespace KeyTrace

/-- What a scan may be told. -/
structure ScanSettings where
  /-- Whether code generated by designers is left out. -/
  excludeDesignerFiles : Bool
  /-- Extensions of resource files, which are left out. -/
  resourceExtensions : List String
  /-- How many files or entries are handled at a time; one per processor when unset. -/
  parallelJobs : Option Nat
  /-- The size allowed for a compiled template, in bytes. -/
  patternSizeLimit : Nat
  /-- Whether ignore files are honoured. -/
  respectIgnoreFiles : Bool
  /-- Whether hidden files are searched. -/
  includeHidden : Bool
deriving Repr, DecidableEq

namespace ScanSettings

/-- The settings that hold unless others are given. -/
def standard : ScanSettings :=
  ⟨true, [".resx", ".resw", ".restext"], none, 1024 * 1024, true, false⟩

/-- The number of workers on a machine with the given number of processors. -/
def workers (s : ScanSettings) (processors : Nat) : Nat := max 1 (s.parallelJobs.getD processors)

end ScanSettings

end KeyTrace
