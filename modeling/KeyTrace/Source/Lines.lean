import KeyTrace.FileTree
import KeyTrace.Source
import KeyTrace.Text.Lines

/-!
# The lines of a source file

A source file is read whole and never refused: bytes that are no text become replacement
characters, a mark at the start that tells the byte order is dropped, and a file that cannot be
read has no lines and leaves a warning.

## Main definitions

* `SourceFile.linesOf`: the lines in some content.
* `SourceFile.readLines`: the lines of a file, and the warning if there is one.
-/

namespace KeyTrace

namespace SourceFile

/-- The text without the mark of byte order at its start. -/
def dropMark : List Char → List Char
  | '\ufeff' :: rest => rest
  | s => s

/-- The lines in the content of a file. -/
def linesOf (content : Bytes) : List String :=
  (Lines.split (dropMark (Utf8.decodeLossy content))).map String.ofList

/-- The lines of a file in a tree, and a warning if it cannot be read. -/
def readLines (t : FileTree) (f : SourceFile) : List String × List LogRecord :=
  match t.read f.path with
  | .ok content => (linesOf content, [])
  | .error e => ([], [⟨.warning, "Cannot read " ++ f.path.display ++ ": " ++ e.message⟩])

end SourceFile

end KeyTrace
