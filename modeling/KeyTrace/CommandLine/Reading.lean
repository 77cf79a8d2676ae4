/-!
# Reading a command line

The words of a command line are options, values of options and plain words. An option is written
`--name`, `--name=value` or `--name value`, or with its letter as `-n`, `-nvalue`, `-n=value` or
`-n value`; letters of options without a value can share one dash. After `--` every word is plain.

An option that takes values is settled once the words for it are over: only then are its values
looked at. So of two mistakes the one in an earlier option is found first, unless a later word is
no known option at all.

## Main definitions

* `UsageFault`: why a command line is not carried out; `UsageFault.message`.
* `Vocabulary`: the options and words that are known.
* `Reading`, `Reading.read`: what has been read so far, and reading words.
* `Reading.value?`, `Reading.values`, `Reading.has`: what was given.
-/

namespace KeyTrace

/-- Why a command line is not carried out. -/
inductive UsageFault where
  /-- The user asks for help. -/
  | help
  /-- The user asks for the version. -/
  | version
  /-- There is nothing on the command line. -/
  | nothingGiven
  /-- There are options but no command. -/
  | missingCommand
  /-- The word in the place of the command is none. -/
  | unknownCommand
  /-- An option or a plain word is not known here. -/
  | unknownArgument
  /-- An option that is needed is missing. -/
  | missingArgument
  /-- A value is missing or not acceptable. -/
  | invalidValue
  /-- An option that takes no value has one. -/
  | tooManyValues
  /-- An option that can be given once is given again. -/
  | repeated
deriving Repr, DecidableEq

/-- What is said about a command line that is not understood. -/
def UsageFault.message : UsageFault → String
  | help => ""
  | version => ""
  | nothingGiven => "error: a command is needed; try '--help'\n"
  | missingCommand => "error: a command is missing; try '--help'\n"
  | unknownCommand => "error: there is no such command; try '--help'\n"
  | unknownArgument => "error: an argument was not expected here; try '--help'\n"
  | missingArgument => "error: an argument is missing; try '--help'\n"
  | invalidValue => "error: the value of an option is missing or invalid; try '--help'\n"
  | tooManyValues => "error: an option takes no value; try '--help'\n"
  | repeated => "error: an option is given more than once; try '--help'\n"

/-- The values of an option. -/
structure ValueDecl where
  /-- Whether the option takes any number of values and can be given again. -/
  many : Bool
  /-- The values it takes. -/
  accepts : String → Bool

/-- What an option does. -/
inductive OptionKind where
  | help
  | version
  /-- It stands for itself. -/
  | switch
  /-- It takes values. -/
  | value (decl : ValueDecl)

/-- An option: its name, its letter and what it does. -/
structure OptionDecl where
  name : String
  letter : Option Char
  kind : OptionKind

/-- The options and words that are known. -/
structure Vocabulary where
  options : List OptionDecl
  /-- The name of the value that a plain word gives, if plain words are allowed. -/
  place : Option (String × ValueDecl)
  /-- The commands, which end the words read here. -/
  commands : List String

/-- An option with the values read for it so far. -/
structure Pending where
  name : String
  decl : ValueDecl
  values : List String

/-- Whether the next plain word is a value of the option. -/
def Pending.isOpen (p : Pending) : Bool := p.decl.many || p.values.isEmpty

/-- What has been read. -/
structure Reading where
  /-- The settled options with their values, in the order given. -/
  settled : List (String × List String)
  pending : Option Pending
  /-- Whether every further word is plain. -/
  plainOnly : Bool

namespace Reading

/-- Nothing has been read. -/
def start : Reading := ⟨[], none, false⟩

/-! ### What was given -/

/-- Whether an option is settled. -/
def has (r : Reading) (name : String) : Bool := r.settled.any fun o => o.1 == name

/-- The values of an option. -/
def values (r : Reading) (name : String) : List String :=
  r.settled.flatMap fun o => if o.1 == name then o.2 else []

/-- The value of an option that takes one. -/
def value? (r : Reading) (name : String) : Option String := (r.values name).head?

/-! ### Settling -/

/-- Settles an option without a value. -/
def settleSwitch (r : Reading) (name : String) : Except UsageFault Reading :=
  if r.has name then .error .repeated else .ok { r with settled := r.settled ++ [(name, [])] }

/-- Settles an option with its values. -/
def settleValues (r : Reading) (p : Pending) : Except UsageFault Reading :=
  if p.values.isEmpty then .error .invalidValue
  else if !p.decl.many && r.has p.name then .error .repeated
  else if p.values.all p.decl.accepts then
    .ok { r with settled := r.settled ++ [(p.name, p.values)] }
  else .error .invalidValue

/-- Settles the option whose values were read last. -/
def settle (r : Reading) : Except UsageFault Reading :=
  match r.pending with
  | none => .ok r
  | some p => settleValues { r with pending := none } p

/-! ### Single words -/

/-- An option, perhaps with a value in the same word. -/
def option (r : Reading) (o : OptionDecl) (attached : Option String) :
    Except UsageFault Reading :=
  match o.kind, attached with
  | .help, none => r.settle.bind fun _ => .error .help
  | .version, none => r.settle.bind fun _ => .error .version
  | .switch, none => r.settle.bind fun r => r.settleSwitch o.name
  | .value d, none => r.settle.map fun r => { r with pending := some ⟨o.name, d, []⟩ }
  | .value d, some v => r.settle.bind fun r => r.settleValues ⟨o.name, d, [v]⟩
  | _, some _ => .error .tooManyValues

/-- The value behind a letter in the same word. -/
def behindLetter : List Char → Option String
  | [] => none
  | '=' :: value => some (String.ofList value)
  | value => some (String.ofList value)

/-- The letters behind one dash. -/
def letters (v : Vocabulary) (r : Reading) : List Char → Except UsageFault Reading
  | [] => .ok r
  | c :: rest =>
    match v.options.find? fun o => o.letter == some c with
    | none => .error .unknownArgument
    | some o =>
      match o.kind with
      | .value _ => r.option o (behindLetter rest)
      | _ => (r.option o none).bind fun r => letters v r rest

/-- The name behind two dashes and the value behind the first equals sign. -/
def cutName (word : List Char) : String × Option String :=
  (String.ofList (word.takeWhile fun c => c != '='),
    match word.dropWhile fun c => c != '=' with
    | _ :: value => some (String.ofList value)
    | [] => none)

/-- An option by its name. -/
def named (v : Vocabulary) (r : Reading) (word : List Char) : Except UsageFault Reading :=
  let (name, attached) := cutName word
  match v.options.find? fun o => o.name == name with
  | none => .error .unknownArgument
  | some o => r.option o attached

/-- What is wrong with a plain word where none is allowed. A command behind `--` is only written in
the wrong place. -/
def stray (v : Vocabulary) (r : Reading) (word : String) : UsageFault :=
  if v.commands.isEmpty || (r.plainOnly && v.commands.contains word) then .unknownArgument
  else .unknownCommand

/-- A plain word that is no value of an option. -/
def plain (v : Vocabulary) (r : Reading) (word : String) : Except UsageFault Reading :=
  match v.place with
  | none => .error (stray v r word)
  | some (name, decl) =>
    if r.has name || r.pending.any (fun p => p.name == name) then .error (stray v r word)
    else r.settle.map fun r => { r with pending := some ⟨name, decl, [word]⟩ }

/-- Whether the next plain word is a value of an option. -/
def isOpen (r : Reading) : Bool := !r.plainOnly && r.pending.any Pending.isOpen

/-- One word that is no command. A single dash is a plain word. -/
def word (v : Vocabulary) (r : Reading) (w : String) : Except UsageFault Reading :=
  if r.plainOnly then r.plain v w
  else
    match w.toList with
    | ['-', '-'] => .ok { r with plainOnly := true }
    | '-' :: '-' :: rest => r.named v rest
    | '-' :: c :: rest => r.letters v (c :: rest)
    | _ =>
      match r.pending with
      | some p =>
        if p.isOpen then .ok { r with pending := some { p with values := p.values ++ [w] } }
        else r.plain v w
      | none => r.plain v w

/-! ### The words of a command line -/

/-- Reads the words up to the first command; what is left starts with it. -/
def read (v : Vocabulary) (r : Reading) : List String → Except UsageFault (Reading × List String)
  | [] => .ok (r, [])
  | w :: rest =>
    if !r.plainOnly && !r.isOpen && v.commands.contains w then .ok (r, w :: rest)
    else
      match r.word v w with
      | .ok r => read v r rest
      | .error e => .error e

/-- Reads words among which no command is expected. -/
def readAll (v : Vocabulary) (words : List String) : Except UsageFault Reading :=
  (read v start words).bind fun r => r.1.settle

end Reading

end KeyTrace
