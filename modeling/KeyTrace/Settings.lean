import KeyTrace.Rule.Set
import KeyTrace.Settings.Scan

/-!
# Settings

## Main definitions

* `Settings`, `Settings.standard`: what the program may be told, and what holds otherwise.
* `Settings.validate`: the mistakes that are found when settings are loaded.
-/

namespace KeyTrace

/-- What the program may be told. -/
structure Settings where
  scan : ScanSettings
  rules : List RuleDecl
deriving Repr, DecidableEq

namespace Settings

/-- The settings that hold unless others are given. -/
def standard : Settings := ⟨.standard, RuleDecl.builtin⟩

/-- The position of the first rule without an extension. -/
def firstEmptyRule? (s : Settings) : Option Nat :=
  s.rules.findIdx? fun r => (Extension.list r.extensions).isEmpty

/-- Refuses rules without extensions and a size limit of zero. Templates are not looked at. -/
def validate (s : Settings) : Except ConfigFault Unit :=
  match s.firstEmptyRule? with
  | some i => .error (.emptyRule i)
  | none =>
    if s.scan.patternSizeLimit = 0 then .error .zeroSizeLimit else .ok ()

/-- The loaded rules. -/
def ruleSet (s : Settings) : Except Failure RuleSet := RuleSet.load s.rules

end Settings

end KeyTrace
