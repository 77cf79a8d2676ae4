import KeyTrace.Pattern.ClassReader
import KeyTrace.Text.Letter

/-!
# Reading patterns

The text of a pattern is read item by item. The state holds the items of the current sequence, the
alternatives before it, and a stack of the groups that are still open; each step reads one item,
applies one repetition to the last item, or opens or closes a group. Switches set inside a group
end with it.

## Main definitions

* `Pattern.ReadState`, `Pattern.readStep`: the state and one step.
* `Pattern.readNode`: the expression a text stands for, or `none` for malformed text.
-/

namespace KeyTrace

namespace Pattern

/-- How deep groups, repetitions, sequences, alternatives and classes may be nested. -/
def depthLimit : Nat := 250

/-- One item of a sequence. -/
structure Item where
  node : Node
  /-- How deep the item's parts are nested. -/
  depth : Nat
  /-- False for a switch, which is no part of the expression. -/
  isPart : Bool
deriving Repr

/-- Several items in a row as one. -/
def sequence (items : List Item) : Item :=
  match items with
  | [a] => a
  | _ => ⟨Node.sequence ((items.filter Item.isPart).map Item.node),
      if items.isEmpty then 0 else 1 + (items.map Item.depth).foldl max 0, true⟩

/-- Alternatives as one item. -/
def alternatives (branches : List Item) : Item :=
  match branches with
  | [a] => a
  | _ => ⟨Node.choice (branches.map Item.node), 1 + (branches.map Item.depth).foldl max 0, true⟩

/-- A group that is still open: its number if it is noted, and what stands around it. -/
structure OpenGroup where
  index : Option Nat
  flags : Flags
  items : List Item
  branches : List Item
deriving Repr

/-- How far a pattern has been read. Items and branches are kept last first. -/
structure ReadState where
  flags : Flags
  items : List Item
  branches : List Item
  groups : List OpenGroup
  /-- How many groups are noted so far. -/
  count : Nat
  /-- The names of groups so far. -/
  names : List (List Char)
deriving Repr

/-- The state before the first item. -/
def ReadState.initial (ignoreCase : Bool) : ReadState :=
  ⟨.initial ignoreCase, [], [], [], 0, []⟩

namespace ReadState

/-- Adds an expression without parts of its own. -/
def push (st : ReadState) (n : Node) : ReadState := { st with items := ⟨n, 0, true⟩ :: st.items }

/-- The item made of the current sequence and the alternatives before it. -/
def current (st : ReadState) : Item :=
  alternatives ((sequence st.items.reverse :: st.branches).reverse)

end ReadState

/-! ### Items -/

/-- A character, closed under case where the flags say so. -/
def characterNode (flags : Flags) (c : Char) : Node :=
  if flags.ignoreCase then Node.ofClass (CharClass.anyCase flags.unicode c) else .literal [c]

/-- The expression of an item. Without Unicode, an escape for a byte above ASCII stands for no
character. -/
def nodeOf (flags : Flags) : Atom → Option Node
  | .literal c isByte =>
    if !flags.unicode && isByte && 0x80 ≤ c.toNat then none else some (characterNode flags c)
  | .set k => some (Node.ofClass k)
  | .look l => some (.look l)

/-- What the dot matches. -/
def dotClass (flags : Flags) : Option CharClass :=
  if !flags.unicode then none
  else if flags.dotAll then some CharClass.all
  else if flags.crlf then some (Runs.ofChars ['\n', '\r']).compl
  else some (CharClass.single '\n').compl

/-- What a caret matches. -/
def startLook (flags : Flags) : Look :=
  if !flags.multiLine then .textStart else if flags.crlf then .lineStartCrLf else .lineStart

/-- What a dollar sign matches. -/
def endLook (flags : Flags) : Look :=
  if !flags.multiLine then .textEnd else if flags.crlf then .lineEndCrLf else .lineEnd

/-! ### Repetitions -/

/-- Repeats the last item. There must be one, and it must not be a switch. -/
def repeatLast (st : ReadState) (lo : Nat) (hi : Option Nat) (long : Bool) : Option ReadState :=
  match st.items with
  | a :: rest =>
    if a.isPart then
      let node := Node.repeated lo hi (long != st.flags.swapGreed) a.node
      some { st with items := ⟨node, a.depth + 1, true⟩ :: rest }
    else none
  | [] => none

/-- Reads a repetition sign's bounds: the sign itself has been read, and a question mark right
after it makes the repetition short. -/
def readRepeat (st : ReadState) (lo : Nat) (hi : Option Nat) (s : List Char) :
    Option (ReadState × List Char) :=
  match s with
  | '?' :: rest => (repeatLast st lo hi false).map fun st => (st, rest)
  | _ => (repeatLast st lo hi true).map fun st => (st, s)

/-- Reads decimal digits. -/
def readDigits (spaced : Bool) (value : Option Nat) : Nat → List Char → Option Nat × List Char
  | 0, s => (value, s)
  | _ + 1, [] => (value, [])
  | fuel + 1, c :: rest =>
    if '0' ≤ c && c ≤ '9' then
      readDigits spaced (some (10 * value.getD 0 + (c.toNat - 48))) fuel (skip spaced rest)
    else (value, c :: rest)

/-- Reads a count between blanks. The outer `none` is a number that is too large, and the inner
one a missing number. -/
def readCount (spaced : Bool) (s : List Char) : Option (Option Nat × List Char) :=
  let s := s.dropWhile Blank.isBlank
  let (value, s) := readDigits spaced none (s.length + 1) s
  let s := s.dropWhile Blank.isBlank
  if 0xffffffff < value.getD 0 then none else some (value, s)

/-- Reads a repetition between braces after the opening one. -/
def readBraces (st : ReadState) (s : List Char) : Option (ReadState × List Char) :=
  let x := st.flags.spaced
  let finish := fun (lo : Nat) (hi : Option Nat) (s : List Char) =>
    match s with
    | '\x7d' :: rest =>
      let rest' := skip x rest
      if hi.any fun h => h < lo then none
      else
        match rest' with
        | '?' :: left => (repeatLast st lo hi false).map fun st => (st, left)
        | _ => (repeatLast st lo hi true).map fun st => (st, rest')
    | _ => none
  (readCount x (skip x s)).bind fun (lo, s) =>
    lo.bind fun lo =>
      match s with
      | ',' :: rest =>
        match skip x rest with
        | '\x7d' :: left => finish lo none ('\x7d' :: left)
        | [] => none
        | s => (readCount x s).bind fun (hi, s) => hi.bind fun hi => finish lo (some hi) s
      | _ => finish lo (some lo) s

/-! ### Groups -/

/-- Whether a character may stand in the name of a group. -/
def isNameChar (first : Bool) (c : Char) : Bool :=
  if c.toNat < 0x80 then
    if first then Word.isAsciiWord c && !('0' ≤ c && c ≤ '9')
    else Word.isAsciiWord c || c == '.' || c == '[' || c == ']'
  else if first then Letter.isAlphabetic c
  else Letter.isAlphanumeric c

/-- Reads the name of a group up to its closing angle bracket. -/
def readGroupName (s : List Char) : Option (List Char × List Char) :=
  let name := s.takeWhile fun c => c != '>'
  match s.dropWhile fun c => c != '>' with
  | '>' :: rest =>
    match name with
    | [] => none
    | c :: more =>
      if isNameChar true c && more.all (isNameChar false) then some (name, rest) else none
  | _ => none

/-- Turns one switch on or off. -/
def setFlag (flags : Flags) (on : Bool) : Char → Option Flags
  | 'i' => some { flags with ignoreCase := on }
  | 'm' => some { flags with multiLine := on }
  | 's' => some { flags with dotAll := on }
  | 'U' => some { flags with swapGreed := on }
  | 'u' => some { flags with unicode := on }
  | 'R' => some { flags with crlf := on }
  | 'x' => some { flags with spaced := on }
  | _ => none

/-- Applies the letters between `(?` and the sign that ends them. No letter may occur twice, the
hyphen once at most, and something must follow it. `seen` holds what has been read. -/
def applyFlags (seen : List Char) (flags : Flags) : List Char → Option Flags
  | [] => if seen.head? == some '-' then none else some flags
  | c :: rest =>
    if seen.contains c then none
    else if c == '-' then applyFlags (c :: seen) flags rest
    else (setFlag flags (!seen.contains '-') c).bind fun f => applyFlags (c :: seen) f rest

/-- Opens a group. -/
def openGroup (st : ReadState) (index : Option Nat) (flags : Flags) : ReadState :=
  { st with
    flags := flags, items := [], branches := [],
    groups := ⟨index, st.flags, st.items, st.branches⟩ :: st.groups }

/-- Opens a group that is noted. -/
def openNoted (st : ReadState) : ReadState :=
  { openGroup st (some (st.count + 1)) st.flags with count := st.count + 1 }

/-- Opens a group with a name that no other group has. -/
def openNamed (st : ReadState) (s : List Char) : Option (ReadState × List Char) :=
  (readGroupName s).bind fun (name, rest) =>
    if st.names.contains name then none
    else some ({ openNoted st with names := name :: st.names }, rest)

/-- Reads what follows an opening parenthesis: a name, switches for the group or from here on, or
nothing. Assertions about the text around are refused. -/
def readOpening (st : ReadState) (s : List Char) : Option (ReadState × List Char) :=
  match skip st.flags.spaced s with
  | '?' :: '=' :: _ => none
  | '?' :: '!' :: _ => none
  | '?' :: '<' :: '=' :: _ => none
  | '?' :: '<' :: '!' :: _ => none
  | '?' :: 'P' :: '<' :: rest => openNamed st rest
  | '?' :: '<' :: rest => openNamed st rest
  | '?' :: rest =>
    let isEnd := fun c => c == ':' || c == ')'
    let letters := rest.takeWhile fun c => !isEnd c
    (applyFlags [] st.flags letters).bind fun flags =>
      match rest.dropWhile fun c => !isEnd c with
      | ':' :: left => some (openGroup st none flags, left)
      | ')' :: left =>
        if letters.isEmpty then none
        else some ({ st with flags := flags, items := ⟨.empty, 0, false⟩ :: st.items }, left)
      | _ => none
  | s => some (openNoted st, s)

/-- Closes the innermost group. -/
def closeGroup (st : ReadState) : Option ReadState :=
  match st.groups with
  | [] => none
  | g :: groups =>
    let body := st.current
    let node := match g.index with
      | some i => Node.group i body.node
      | none => body.node
    some { st with
      flags := g.flags, items := ⟨node, body.depth + 1, true⟩ :: g.items,
      branches := g.branches, groups := groups }

/-! ### The whole pattern -/

/-- Reads one item, or one sign that applies to items. -/
def readStep (st : ReadState) : List Char → Option (ReadState × List Char)
  | [] => some (st, [])
  | c :: rest =>
    match c with
    | '(' => readOpening st rest
    | ')' => (closeGroup st).map fun st => (st, rest)
    | '|' =>
      some ({ st with items := [], branches := sequence st.items.reverse :: st.branches }, rest)
    | '[' =>
      (readClass st.flags rest).map fun (n, left) =>
        ({ st with items := ⟨Node.ofClass n.cls, n.depth, true⟩ :: st.items }, left)
    | '?' => readRepeat st 0 (some 1) rest
    | '*' => readRepeat st 0 none rest
    | '+' => readRepeat st 1 none rest
    | '\x7b' => readBraces st rest
    | '\\' =>
      (readEscape st.flags rest).bind fun (a, left) =>
        (nodeOf st.flags a).map fun n => (st.push n, left)
    | '.' => (dotClass st.flags).map fun k => (st.push (Node.ofClass k), rest)
    | '^' => some (st.push (.look (startLook st.flags)), rest)
    | '$' => some (st.push (.look (endLook st.flags)), rest)
    | _ => (nodeOf st.flags (.literal c false)).map fun n => (st.push n, rest)

/-- Reads items until the text ends. -/
def readFrom : Nat → ReadState → List Char → Option ReadState
  | 0, _, _ => none
  | fuel + 1, st, s =>
    match skip st.flags.spaced s with
    | [] => some st
    | s => (readStep st s).bind fun (st, s) => readFrom fuel st s

/-- The expression that a pattern's text stands for and the number of its groups, if the text is
well formed. -/
def readNode (ignoreCase : Bool) (s : List Char) : Option (Node × Nat) :=
  (readFrom (s.length + 1) (.initial ignoreCase) s).bind fun st =>
    if st.groups.isEmpty && st.current.depth ≤ depthLimit then some (st.current.node, st.count)
    else none

end Pattern

end KeyTrace
