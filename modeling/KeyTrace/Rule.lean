import KeyTrace.Ascending
import KeyTrace.Failure
import KeyTrace.Rule.Extension
import KeyTrace.Rule.Template

/-!
# Match rules

A rule says what a reference to a key looks like in files with certain extensions. It is declared
in the configuration and loaded from there; loading normalises the extensions, and an empty
pattern or comment token counts as none. A rule without a pattern looks for the key as plain text.

## Main definitions

* `RuleDecl`: a rule as declared; `RuleDecl.builtin`: the rules in force when none are declared.
* `Rule`, `Rule.load`: a loaded rule.
* `Rule.appliesTo`: whether a rule covers an extension.
* `Rule.display`: the rule in one line.
-/

namespace KeyTrace

/-- A rule as it is declared. -/
structure RuleDecl where
  /-- Extensions separated by commas. -/
  extensions : String
  caseSensitive : Bool
  pattern : Option String
  commentToken : Option String
deriving Repr, DecidableEq

/-- The rules in force when the configuration declares none. -/
def RuleDecl.builtin : List RuleDecl := [
  ⟨".cs,.xaml,.cshtml,.razor", true, some "\\W($File\\.$Key)\\W", some "//"⟩,
  ⟨".cs", true, some "ResourceManager\\.GetString\\(\"($Key)\"", some "//"⟩,
  ⟨".cs", true, some "typeof\\($File\\).+\"($Key)\"|\"($Key)\".+typeof\\($File\\)", some "//"⟩,
  ⟨".vb", false, some "\\W($File\\.$Key)\\W", some "'"⟩,
  ⟨".c,.cpp,.cxx,.h,.hpp,.hxx", true, some "\\W($File::$Key)\\W", some "//"⟩,
  ⟨".aspx,.ascx,.master", false, some "<%\\$\\s*Resources:\\s*$File\\s*,\\s*($Key)\\s*%>", none⟩,
  ⟨".js,.jsx,.ts,.tsx", true, some "\\W($File\\.$Key)\\W", some "//"⟩]

/-- A loaded rule. -/
structure Rule where
  /-- Normal forms of the extensions, ascending. -/
  extensions : List String
  caseSensitive : Bool
  /-- The template, or none for the key as plain text. -/
  pattern : Option String
  commentToken : Option String
deriving Repr, DecidableEq

namespace Rule

/-- A text that counts as none when it is empty. -/
def nonEmpty? (s : Option String) : Option String := s.filter fun t => !t.isEmpty

/-- Loads a declared rule, which must list an extension. -/
def load (d : RuleDecl) : Except Failure Rule :=
  let extensions := Ascending.texts (Extension.list d.extensions)
  if extensions.isEmpty then .error (.config (.noExtensions d.pattern))
  else
    .ok ⟨extensions, d.caseSensitive, nonEmpty? d.pattern, nonEmpty? d.commentToken⟩

/-- Whether the rule covers files with the extension, however it is written. -/
def appliesTo (r : Rule) (extension : String) : Bool :=
  match Extension.normalize extension with
  | some e => r.extensions.contains e
  | none => false

/-- Whether the rule looks for the key as plain text. -/
def isLiteral (r : Rule) : Bool := r.pattern.isNone

/-- The rule in one line. -/
def display (r : Rule) : String :=
  ",".intercalate r.extensions ++ " " ++ r.pattern.getD "<literal key>" ++ " " ++
    (if r.caseSensitive then "(case sensitive)" else "(ignore case)") ++
    match r.commentToken with
    | some t => " comment '" ++ t ++ "'"
    | none => ""

end Rule

end KeyTrace
