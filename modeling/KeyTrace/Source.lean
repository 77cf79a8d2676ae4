import KeyTrace.Path
import KeyTrace.Rule.Extension
import KeyTrace.Settings.Scan

/-!
# Source files

A source file is known by its path and the normal form of its extension. Generated files and the
resource files themselves are not searched.

## Main definitions

* `SourceFile`, `SourceFile.ofPath`, `SourceFile.compare`: source files and their order.
* `SourceFile.isScannable`: whether a file is searched under the given settings.
* `SourceFile.distinct`: the files to search, in order and each once.
-/

namespace KeyTrace

/-- The normal form of a path's extension, empty if there is none or it is no text. -/
def Path.normalExtension (p : Path) : String :=
  (p.textExtension?.bind Extension.normalize).getD ""

/-- A file that may refer to resources. -/
structure SourceFile where
  path : Path
  /-- The normal form of the extension, empty if there is none or it is no text. -/
  extension : String
  extension_eq : extension = Path.normalExtension path
deriving Repr, DecidableEq

namespace SourceFile

/-- The source file at a path. -/
def ofPath (p : Path) : SourceFile := ⟨p, Path.normalExtension p, rfl⟩

/-- The order of files by their paths. -/
def compare (a b : SourceFile) : Ordering :=
  (Path.compare a.path b.path).then (compareText a.extension b.extension)

/-- Whether the file is generated code behind a designer, such as `Resources.Designer.cs`. -/
def isDesigner (f : SourceFile) : Bool :=
  match (Path.stem? f.path).bind Utf8.text? with
  | some s => ".designer".toList.isSuffixOf (Lowercase.lowerChars s.toList)
  | none => false

/-- Whether the file's extension is one of those of resource files. -/
def isResource (f : SourceFile) (extensions : List String) : Bool :=
  !f.extension.isEmpty && (extensions.filterMap Extension.normalize).contains f.extension

/-- Whether the file is searched at all. -/
def isScannable (f : SourceFile) (s : ScanSettings) : Bool :=
  !(s.excludeDesignerFiles && f.isDesigner) && !f.isResource s.resourceExtensions

/-- The files to search, in ascending order; of files with equal paths the first one stays. -/
def distinct (s : ScanSettings) (files : List SourceFile) : List SourceFile :=
  Ascending.ofList compare (files.filter fun f => f.isScannable s)

end SourceFile

end KeyTrace
