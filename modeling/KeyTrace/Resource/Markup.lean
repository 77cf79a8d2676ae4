import KeyTrace.Pattern.ClassReader
import KeyTrace.Text.Blank
import KeyTrace.Text.Word

/-!
# Names in markup

A resource file in markup has one `data` element per entry, whose `name` attribute is the key. An
element with a `type` or `mimetype` attribute holds something other than text. Names may be written
with entities, and names that a form designer uses for its own ends are no keys.

## Main definitions

* `Markup.elements`: the attributes of each `data` element.
* `Markup.attribute?`, `Markup.isTyped`: the value of an attribute, and whether an element has one
  for its type.
* `Markup.decode`: a text with its entities resolved, in a single pass.
* `Markup.names`: the keys in a file.
-/

namespace KeyTrace

namespace Markup

/-! ### Elements and attributes -/

/-- Whether no word goes on here. -/
def endsWord (s : List Char) : Bool := !s.head?.any Word.isWord

/-- The name of the elements that hold entries. -/
def elementName : List Char := ['d', 'a', 't', 'a']

/-- Whether the text goes on with the name of an entry's element. -/
def startsElement (s : List Char) : Bool :=
  elementName.isPrefixOf s && endsWord (s.drop elementName.length)

/-- What stands between the angle brackets of each element, its name included. `inside` holds what
has been read of the current element, last character first. -/
def elementsFrom : Option (List Char) → List Char → List (List Char)
  | _, [] => []
  | some acc, c :: rest =>
    if c == '>' then acc.reverse :: elementsFrom none rest else elementsFrom (some (c :: acc)) rest
  | none, c :: rest =>
    if c == '<' && startsElement rest then elementsFrom (some []) rest else elementsFrom none rest

/-- The attributes of each element, as they are written. -/
def elements (s : List Char) : List (List Char) :=
  (elementsFrom none s).map fun e => e.drop elementName.length

/-- What follows the sign of equality, if the text is the rest of an attribute after its name. -/
def afterEquals (s : List Char) : Option (List Char) :=
  match s.dropWhile Blank.isBlank with
  | '=' :: rest => some rest
  | _ => none

/-- A text between double quotes. -/
def quoted? (s : List Char) : Option (List Char) :=
  match s.dropWhile Blank.isBlank with
  | '"' :: rest =>
    if rest.contains '"' then some (rest.takeWhile fun c => c != '"') else none
  | _ => none

/-- The value of the first attribute of the given name that has one in double quotes. `before` is
the character before the text. -/
def attributeFrom (name : List Char) (before : Option Char) : List Char → Option (List Char)
  | [] => none
  | c :: rest =>
    let here :=
      if !before.any Word.isWord && name.isPrefixOf (c :: rest) then
        (afterEquals ((c :: rest).drop name.length)).bind quoted?
      else none
    match here with
    | some v => some v
    | none => attributeFrom name (some c) rest

/-- The value of the attribute of the given name. -/
def attribute? (name : List Char) (attributes : List Char) : Option (List Char) :=
  attributeFrom name none attributes

/-- Whether there is an attribute of the given name. -/
def hasFrom (name : List Char) (before : Option Char) : List Char → Bool
  | [] => false
  | c :: rest =>
    (!before.any Word.isWord && name.isPrefixOf (c :: rest) &&
      (afterEquals ((c :: rest).drop name.length)).isSome) || hasFrom name (some c) rest

/-- Whether the element holds something other than text. -/
def isTyped (attributes : List Char) : Bool :=
  hasFrom ['t', 'y', 'p', 'e'] none attributes ||
    hasFrom ['m', 'i', 'm', 'e', 't', 'y', 'p', 'e'] none attributes

/-! ### Entities -/

/-- The value of digits in a base, given what each digit is worth; `none` if one is no digit or
there is none. -/
def digits? (base : Nat) (value : Char → Option Nat) (s : List Char) : Option Nat :=
  if s.isEmpty then none
  else s.foldl (fun n c => n.bind fun n => (value c).map fun d => base * n + d) (some 0)

/-- The value of a decimal digit. -/
def decimal? (c : Char) : Option Nat :=
  if '0' ≤ c && c ≤ '9' then some (c.toNat - 48) else none

/-- The character an entity stands for, given the text between its signs. -/
def entity? (body : List Char) : Option Char :=
  match body with
  | ['l', 't'] => some '<'
  | ['g', 't'] => some '>'
  | ['q', 'u', 'o', 't'] => some '"'
  | ['a', 'p', 'o', 's'] => some '\''
  | ['a', 'm', 'p'] => some '&'
  | '#' :: 'x' :: hex => (digits? 16 Pattern.hexDigit? hex).bind Pattern.scalar?
  | '#' :: dec => (digits? 10 decimal? dec).bind Pattern.scalar?
  | _ => none

/-- A character that may stand in an entity. -/
def isEntityChar (c : Char) : Bool := (Word.isAsciiWord c && c != '_') || c == '#'

/-- The entity after an ampersand: its character and its length, the semicolon included. -/
def entityAt? (s : List Char) : Option (Char × Nat) :=
  let body := s.takeWhile isEntityChar
  match s.drop body.length with
  | ';' :: _ => (entity? body).map fun c => (c, body.length + 1)
  | _ => none

/-- Resolves entities after passing over `skip` characters that belong to the last one. -/
def decodeFrom : Nat → List Char → List Char
  | _, [] => []
  | skip + 1, _ :: rest => decodeFrom skip rest
  | 0, c :: rest =>
    if c == '&' then
      match entityAt? rest with
      | some (k, length) => k :: decodeFrom length rest
      | none => c :: decodeFrom 0 rest
    else c :: decodeFrom 0 rest

/-- The text with its entities resolved. Resolved text is not looked at again, and what stands for
no character stays as it is. -/
def decode (s : List Char) : List Char := decodeFrom 0 s

/-! ### Names -/

/-- Whether a name is empty or belongs to a form designer. -/
def isDesignerName (name : List Char) : Bool :=
  name.isEmpty || ['>', '>'].isPrefixOf name || ['$', 't', 'h', 'i', 's', '.'].isPrefixOf name

/-- The key of an element, if it is the element of a text. -/
def name? (attributes : List Char) : Option String :=
  if isTyped attributes then none
  else
    (attribute? ['n', 'a', 'm', 'e'] attributes).bind fun v =>
      let name := decode v
      if isDesignerName name then none else some (String.ofList name)

/-- The keys in a file, in order. -/
def names (s : List Char) : List String := (elements s).filterMap name?

end Markup

end KeyTrace
