import KeyTrace.Rule

/-!
# Rule sets

The rules of a configuration in their order, with an index from extensions to the rules that cover
them. A rule is known by its position.

## Main definitions

* `RuleSet`, `RuleSet.ofRules`, `RuleSet.load`: rules and their index.
* `RuleSet.idsFor`: the rules that cover an extension.
* `RuleSet.check`: the templates that can never match.
-/

namespace KeyTrace

namespace RuleSet

/-- Notes that the rule at a position covers an extension. -/
def record (id : Nat) (ext : String) : List (String × List Nat) → List (String × List Nat)
  | [] => [(ext, [id])]
  | (e, ids) :: rest => if e = ext then (e, ids ++ [id]) :: rest else (e, ids) :: record id ext rest

/-- The index of the rules from position `id` on, added to a given one. -/
def indexFrom (id : Nat) (index : List (String × List Nat)) :
    List Rule → List (String × List Nat)
  | [] => index
  | r :: rest => indexFrom (id + 1) (r.extensions.foldl (fun ix e => record id e ix) index) rest

end RuleSet

/-- Rules in order, and for each extension the positions of the rules that cover it. -/
structure RuleSet where
  rules : List Rule
  index : List (String × List Nat)
  index_eq : index = RuleSet.indexFrom 0 [] rules
deriving Repr

namespace RuleSet

/-- The set of the given rules. -/
def ofRules (rules : List Rule) : RuleSet := ⟨rules, indexFrom 0 [] rules, rfl⟩

/-- Loads declared rules; the first one that does not load decides. -/
def load (decls : List RuleDecl) : Except Failure RuleSet := (decls.mapM Rule.load).map ofRules

/-- The rules in force when none are declared. -/
def builtin : RuleSet := (load RuleDecl.builtin).toOption.getD (ofRules [])

/-- The positions of the rules that cover an extension, ascending. -/
def idsFor (s : RuleSet) (extension : String) : List Nat :=
  match Extension.normalize extension with
  | some e => (s.index.lookup e).getD []
  | none => []

/-- The rule at a position. -/
def rule? (s : RuleSet) (id : Nat) : Option Rule := s.rules[id]?

/-- Every extension that some rule covers, ascending. -/
def extensions (s : RuleSet) : List String := Ascending.texts (s.index.map Prod.fst)

/-- The size allowed for a template when templates are only checked. -/
def checkLimit : Nat := 10 * 1024 * 1024

/-- Compiles each template with stand-ins for container and key, and reports those that fail. -/
def check (s : RuleSet) : List (Nat × Failure) :=
  s.rules.zipIdx.filterMap fun (r, id) =>
    r.pattern.bind fun template =>
      match Pattern.compile false checkLimit (Template.expand template "File" "Key").toList with
      | .ok _ => none
      | .error cause => some (id, .template template cause)

end RuleSet

end KeyTrace
