import KeyTrace.Toml.Scalar

/-!
# Reading TOML

A document is read line by line: headers, values under their keys, and comments. The values are
put into the table of the document as they are read; a key that is given twice, or a header that
contradicts an earlier line, makes the document malformed.

## Main definitions

* `Toml.readString`: strings in their four forms.
* `Toml.readValue`: values.
* `Toml.read?`: the table of a document, if it is well formed.
-/

namespace KeyTrace

namespace Toml

/-! ### Blanks and comments -/

/-- A blank within a line. -/
def isBlank (c : Char) : Bool := c == ' ' || c == '\t'

/-- The text without blanks at its start. -/
def dropBlanks (s : List Char) : List Char := s.dropWhile isBlank

/-- Whether a character may stand in a comment or unescaped in a string of one line. -/
def isPlain (c : Char) : Bool := c == '\t' || (0x20 ≤ c.toNat && c != '\x7f')

/-- What follows the end of a line, if the text begins with one. -/
def lineEnd? (s : List Char) : Option (List Char) :=
  match s with
  | '\n' :: rest => some rest
  | '\r' :: '\n' :: rest => some rest
  | _ => none

/-- What follows blanks and a comment on the rest of a line. -/
def dropComment (s : List Char) : List Char :=
  match dropBlanks s with
  | '#' :: rest => rest.dropWhile isPlain
  | s => s

/-- What follows blanks, comments and line ends. -/
def dropLines : Nat → List Char → List Char
  | 0, s => s
  | fuel + 1, s =>
    let s := dropComment s
    match lineEnd? s with
    | some rest => dropLines fuel rest
    | none => s

/-- What follows blanks, comments and line ends. -/
def dropAll (s : List Char) : List Char := dropLines (s.length + 1) s

/-! ### Strings -/

/-- Reads `n` hexadecimal digits of a code point. -/
def readCode (n : Nat) (s : List Char) : Option (Char × List Char) :=
  let d := s.take n
  if d.length == n && d.all fun c => (Pattern.hexDigit? c).isSome then
    (Pattern.scalar? (TomlWord.valueOf 16 d)).map fun c => (c, s.drop n)
  else none

/-- Reads an escape after its backslash. -/
def readEscape (s : List Char) : Option (Char × List Char) :=
  match s with
  | 'b' :: rest => some ('\x08', rest)
  | 't' :: rest => some ('\t', rest)
  | 'n' :: rest => some ('\n', rest)
  | 'f' :: rest => some ('\x0c', rest)
  | 'r' :: rest => some ('\r', rest)
  | 'e' :: rest => some ('\x1b', rest)
  | '"' :: rest => some ('"', rest)
  | '\\' :: rest => some ('\\', rest)
  | 'x' :: rest => readCode 2 rest
  | 'u' :: rest => readCode 4 rest
  | 'U' :: rest => readCode 8 rest
  | _ => none

/-- Reads a string of one line after its opening quote. -/
def readLineString (quote : Char) : Nat → List Char → Option (List Char × List Char)
  | 0, _ => none
  | _ + 1, [] => none
  | fuel + 1, c :: rest =>
    if c == quote then some ([], rest)
    else
      let first :=
        if c == '\\' && quote == '"' then readEscape rest
        else if isPlain c then some (c, rest)
        else none
      first.bind fun (k, left) =>
        (readLineString quote fuel left).map fun (s, left) => (k :: s, left)

/-- What follows blanks and line ends. -/
def dropBlankLines : List Char → List Char
  | '\r' :: '\n' :: rest => dropBlankLines rest
  | c :: rest => if isBlank c || c == '\n' then dropBlankLines rest else c :: rest
  | [] => []

/-- What follows a backslash at the end of a line in a string: blanks and line ends are passed over.
None if the backslash does not end a line. -/
def foldedLine? (s : List Char) : Option (List Char) :=
  (lineEnd? (dropBlanks s)).map dropBlankLines

/-- Reads a string of several lines after its opening quotes. Up to two quotes may stand before the
closing ones. -/
def readBlockString (quote : Char) : Nat → List Char → Option (List Char × List Char)
  | 0, _ => none
  | _ + 1, [] => none
  | fuel + 1, c :: rest =>
    if c == quote then
      let run := 1 + (rest.takeWhile fun d => d == quote).length
      if 3 ≤ run then
        let kept := min run 5 - 3
        some (List.replicate kept quote, (c :: rest).drop (kept + 3))
      else (readBlockString quote fuel rest).map fun (s, left) => (c :: s, left)
    else if c == '\\' && quote == '"' then
      match foldedLine? rest with
      | some left => readBlockString quote fuel left
      | none =>
        (readEscape rest).bind fun (k, left) =>
          (readBlockString quote fuel left).map fun (s, left) => (k :: s, left)
    else if isPlain c || c == '\n' || (c == '\r' && rest.head? == some '\n') then
      (readBlockString quote fuel rest).map fun (s, left) => (c :: s, left)
    else none

/-- Reads a string after its first quote. A line end right after three quotes does not belong to
it. -/
def readString (quote : Char) (s : List Char) : Option (List Char × List Char) :=
  match s with
  | a :: b :: rest =>
    if a == quote && b == quote then
      let rest := (lineEnd? rest).getD rest
      readBlockString quote (rest.length + 1) rest
    else readLineString quote (s.length + 1) s
  | _ => readLineString quote (s.length + 1) s

/-! ### Keys -/

/-- A character of a key without quotes. -/
def isKeyChar (c : Char) : Bool := Word.isAsciiWord c || c == '-'

/-- Reads one name of a key. -/
def readName (s : List Char) : Option (String × List Char) :=
  match s with
  | '"' :: rest =>
    (readLineString '"' (rest.length + 1) rest).map fun (n, left) => (String.ofList n, left)
  | '\'' :: rest =>
    (readLineString '\'' (rest.length + 1) rest).map fun (n, left) => (String.ofList n, left)
  | _ =>
    let name := s.takeWhile isKeyChar
    if name.isEmpty then none else some (String.ofList name, s.dropWhile isKeyChar)

/-- Reads a key: names parted by dots, with blanks around them. The last name comes first in the
result. -/
def readKey (before : List String) : Nat → List Char → Option (List String × List Char)
  | 0, _ => none
  | fuel + 1, s =>
    (readName (dropBlanks s)).bind fun (name, left) =>
      match dropBlanks left with
      | '.' :: rest => readKey (name :: before) fuel rest
      | s => some (name :: before, s)

/-- How deep arrays and tables between braces may be nested, and how many names a key may have. -/
def nestingLimit : Nat := 80

/-- Reads a key as the way to its last name, and that name. -/
def readPath (s : List Char) : Option ((List String × String) × List Char) :=
  (readKey [] (s.length + 1) s).bind fun (names, left) =>
    match names with
    | last :: way =>
      if way.length < nestingLimit then some ((way.reverse, last), left) else none
    | [] => none

/-! ### Values -/

/-- A character of a word. -/
def isWordChar (c : Char) : Bool :=
  Word.isAsciiWord c || c == '+' || c == '-' || c == '.' || c == ':'

/-- Reads a word. A date may be followed by a blank and a time. -/
def readWord (s : List Char) : Option (TomlValue × List Char) :=
  let word := s.takeWhile isWordChar
  let rest := s.dropWhile isWordChar
  match TomlWord.readDate word, rest with
  | some [], ' ' :: c :: more =>
    if TomlWord.isDigit c then
      let time := (c :: more).takeWhile isWordChar
      (TomlWord.value? (word ++ ' ' :: time)).map fun v => (v, (c :: more).dropWhile isWordChar)
    else (TomlWord.value? word).map fun v => (v, rest)
  | _, _ => (TomlWord.value? word).map fun v => (v, rest)

mutual

/-- Reads a value within `depth` further levels. -/
def readValue : Nat → Nat → List Char → Option (TomlValue × List Char)
  | 0, _, _ => none
  | fuel + 1, depth, s =>
    match s with
    | '"' :: rest => (readString '"' rest).map fun (t, left) => (.string (String.ofList t), left)
    | '\'' :: rest => (readString '\'' rest).map fun (t, left) => (.string (String.ofList t), left)
    | '[' :: rest =>
      if depth == 0 then none
      else (readItems fuel (depth - 1) rest).map fun (items, left) => (.array items, left)
    | '\x7b' :: rest =>
      if depth == 0 then none
      else (readMembers fuel (depth - 1) ⟨.header, []⟩ rest).map fun (t, left) =>
        (.table .braces t.members, left)
    | _ => readWord s

/-- Reads the items of an array and its closing bracket. -/
def readItems : Nat → Nat → List Char → Option (List TomlValue × List Char)
  | 0, _, _ => none
  | fuel + 1, depth, s =>
    match dropAll s with
    | ']' :: rest => some ([], rest)
    | s =>
      (readValue fuel depth s).bind fun (v, left) =>
        match dropAll left with
        | ',' :: rest => (readItems fuel depth rest).map fun (items, left) => (v :: items, left)
        | ']' :: rest => some ([v], rest)
        | _ => none

/-- Reads the members of a table between braces and its closing brace. Comments and line ends may
stand between all parts of a member but not within its key. -/
def readMembers : Nat → Nat → TomlTable → List Char → Option (TomlTable × List Char)
  | 0, _, _, _ => none
  | fuel + 1, depth, t, s =>
    match dropAll s with
    | '\x7d' :: rest => some (t, rest)
    | s =>
      (readPath s).bind fun ((way, name), left) =>
        match dropAll left with
        | '=' :: rest =>
          (readValue fuel depth (dropAll rest)).bind fun (v, left) =>
            (t.setKey? way name v).bind fun t =>
              match dropAll left with
              | ',' :: rest => readMembers fuel depth t rest
              | '\x7d' :: rest => some (t, rest)
              | _ => none
        | _ => none

end

/-! ### Documents -/

/-- A document on its way: its table and the way to the table of the last header. -/
structure ReadState where
  root : TomlTable
  header : List String

/-- What follows a closing bracket, or two if the header is that of one of several tables. -/
def closing? (several : Bool) (s : List Char) : Option (List Char) :=
  match s with
  | ']' :: rest =>
    if several then
      match rest with
      | ']' :: rest => some rest
      | _ => none
    else some rest
  | _ => none

/-- Reads a header after its brackets. -/
def readHeader (st : ReadState) (several : Bool) (s : List Char) :
    Option (ReadState × List Char) :=
  (readPath s).bind fun ((way, name), left) =>
    (closing? several left).bind fun left =>
      let root := if several then st.root.append? way name else st.root.open? way name
      root.map fun root => (⟨root, way ++ [name]⟩, left)

/-- Reads a key and its value. -/
def readKeyValue (st : ReadState) (s : List Char) : Option (ReadState × List Char) :=
  (readPath s).bind fun ((way, name), left) =>
    match left with
    | '=' :: rest =>
      (readValue (2 * rest.length + 2) nestingLimit (dropBlanks rest)).bind fun (v, left) =>
        (TomlTable.alter? false (TomlTable.setKey? way name v) st.header st.root).map fun root =>
          ({ st with root := root }, left)
    | _ => none

/-- Reads what a line holds: a header, a value under its key, or nothing. -/
def readLine (st : ReadState) (s : List Char) : Option (ReadState × List Char) :=
  match dropBlanks s with
  | [] => some (st, [])
  | '#' :: rest => some (st, '#' :: rest)
  | '\n' :: rest => some (st, '\n' :: rest)
  | '\r' :: rest => some (st, '\r' :: rest)
  | '[' :: '[' :: rest => readHeader st true rest
  | '[' :: rest => readHeader st false rest
  | s => readKeyValue st s

/-- Reads lines until the document ends. -/
def readLines : Nat → ReadState → List Char → Option ReadState
  | 0, _, _ => none
  | fuel + 1, st, s =>
    (readLine st s).bind fun (st, left) =>
      match dropComment left with
      | [] => some st
      | left => (lineEnd? left).bind fun rest => readLines fuel st rest

/-- The table of a document. A mark of byte order at its start is dropped. -/
def read? (s : List Char) : Option TomlTable :=
  let s := match s with
    | '\ufeff' :: rest => rest
    | _ => s
  (readLines (s.length + 1) ⟨⟨.header, []⟩, []⟩ s).map ReadState.root

end Toml

end KeyTrace
