import KeyTrace.Ascending
import KeyTrace.Index.Token
import KeyTrace.Text.Lowercase

/-!
# Candidate keys

The keys that are searched for, each with its probe. A token of a line points to the keys that have
it as their probe, exactly or without regard to case. Keys without a token cannot be found this way
and are left out.

## Main definitions

* `Candidate`, `Candidates`, `Candidates.ofKeys`: distinct keys in ascending order with probes.
* `Candidate.isHit`: whether a token points to the key.
-/

namespace KeyTrace

/-- A key and its probe. -/
structure Candidate where
  key : String
  probe : List Char
deriving Repr, DecidableEq

namespace Candidate

/-- Whether a token points to the key: it is the probe, or it differs from it in case only and case
is ignored. -/
def isHit (c : Candidate) (ignoreCase : Bool) (token : List Char) : Bool :=
  c.probe == token ||
    (ignoreCase && Lowercase.lowerChars c.probe == Lowercase.lowerChars token)

/-- Whether some token of a line points to the key. -/
def isHitBy (c : Candidate) (ignoreCase : Bool) (tokens : List (List Char)) : Bool :=
  tokens.any fun t => c.isHit ignoreCase t

end Candidate

/-- Keys to be searched for. -/
abbrev Candidates := List Candidate

/-- The candidates for the given keys. -/
def Candidates.ofKeys (keys : List String) : Candidates :=
  (Ascending.texts keys).filterMap fun k => (Token.probe k.toList).map fun p => ⟨k, p⟩

end KeyTrace
