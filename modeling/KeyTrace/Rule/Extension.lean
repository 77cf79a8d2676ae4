import KeyTrace.Text.Blank
import KeyTrace.Text.Lowercase
import KeyTrace.Text.Pieces

/-!
# File extensions

Extensions are written in many ways: `*.cs`, `cs` and `.CS` all mean the same files. The normal
form has one leading dot and is in lower case.

## Main definitions

* `Extension.normalize`: the normal form, if anything is left of the text.
* `Extension.list`: the normal forms in a list separated by commas.
-/

namespace KeyTrace

namespace Extension

/-- The normal form of an extension: blanks around it, then stars and then dots before it are
dropped, and what is left is put in lower case after a dot. -/
def normalize (raw : String) : Option String :=
  let bare := ((Blank.trim raw.toList).dropWhile (fun c => c == '*')).dropWhile fun c => c == '.'
  if bare.isEmpty then none else some (String.ofList ('.' :: Lowercase.lowerChars bare))

/-- The normal forms of the extensions in a list separated by commas. -/
def list (raw : String) : List String :=
  (Pieces.cut (fun c => c == ',') raw.toList).filterMap fun p => normalize (String.ofList p)

end Extension

end KeyTrace
