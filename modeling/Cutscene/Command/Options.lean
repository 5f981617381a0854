set_option relaxedAutoImplicit false
set_option autoImplicit false

/-!
# Options

The arguments of a command: options that may take a value, and one argument in a fixed place.
Arguments are read from left to right, and the first that is wrong, or that asks for help or for
the version, ends the reading.

## Main definitions

* `Cutscene.Command.Flag`, `Cutscene.Command.Arguments` — what a command takes.
* `Cutscene.Command.Given` — what it was given.
* `Cutscene.Command.Arguments.read` — reads arguments.
* `Cutscene.Command.Arguments.help` — what the command takes, as text.
-/

namespace Cutscene.Command

/-- What an option takes. -/
inductive Takes where
  /-- Nothing. -/
  | nothing
  /-- A text. -/
  | text
  /-- A path, which is never empty. -/
  | path
  deriving DecidableEq, Repr

/-- An option of a command. -/
structure Flag where
  /-- The name, without the two dashes. -/
  name : String
  /-- The letter that stands for it. -/
  letter : Option Char
  /-- What it takes. -/
  takes : Takes
  /-- What it is good for. -/
  about : String
  deriving Repr

/-- What a command takes. -/
structure Arguments where
  /-- The options. -/
  flags : List Flag
  /-- The name of the argument that is not an option, and what it is good for. -/
  subject : Option (String × String)
  deriving Repr

/-- Why reading arguments has ended early. -/
inductive Stop where
  /-- Help was asked for. -/
  | help
  /-- The version was asked for. -/
  | version
  /-- The arguments are wrong. -/
  | misuse
  deriving DecidableEq, Repr

/-- The arguments that a command was given. -/
structure Given where
  /-- The values of options; those that take nothing have an empty one. -/
  values : List (String × String)
  /-- The argument that is not an option. -/
  subject : Option String
  deriving DecidableEq, Repr

namespace Given

/-- The value of an option. -/
def value? (g : Given) (name : String) : Option String :=
  (g.values.find? (·.1 == name)).map (·.2)

/-- Whether an option was given. -/
def has (g : Given) (name : String) : Bool := (g.value? name).isSome

/-- Takes the value of an option. No option may come twice, and no path be empty. -/
def take (g : Given) (s : Flag) (value : String) : Except Stop Given :=
  if g.has s.name || (s.takes == .path && value.isEmpty) then .error .misuse
  else .ok { g with values := g.values ++ [(s.name, value)] }

/-- Takes the argument that is not an option, if there is to be one and it is the first. -/
def takeSubject (g : Given) (a : Arguments) (value : String) : Except Stop Given :=
  if a.subject.isSome && g.subject.isNone then .ok { g with subject := some value }
  else .error .misuse

end Given

/-- Whether an argument can be the value of the option before it. -/
def isValue (arg : String) : Bool := !arg.startsWith "-" || arg == "-"

/-- What a letter behind a dash does: it ends the reading, is an option without a value, takes the
rest of the argument as its value, or wants the next argument. -/
inductive LetterStep where
  /-- Nothing is left of the argument. -/
  | done (g : Given)
  /-- The option wants the next argument. -/
  | wants (g : Given) (s : Flag)

/-- How an option is written. -/
def Flag.usage (s : Flag) : String :=
  (match s.letter with
    | some c => "-" ++ String.ofList [c] ++ ", "
    | none => "    ") ++ "--" ++ s.name ++
  (match s.takes with
    | .nothing => ""
    | .text | .path =>
      " <" ++ String.ofList (s.name.toList.map fun c => if c = '-' then '_' else c.toUpper) ++ ">")

namespace Arguments

/-- The option of a name. -/
def named? (a : Arguments) (name : String) : Option Flag := a.flags.find? (·.name == name)

/-- The option of a letter. -/
def lettered? (a : Arguments) (letter : Char) : Option Flag :=
  a.flags.find? (·.letter == some letter)

/-- Reads the letters behind a dash. -/
def readLetters (a : Arguments) (g : Given) : List Char → Except Stop LetterStep
  | [] => .ok (.done g)
  | c :: cs =>
    match a.lettered? c with
    | some s =>
      if s.takes = .nothing then do a.readLetters (← g.take s "") cs
      else
        match cs with
        | [] => .ok (.wants g s)
        | '=' :: value => return .done (← g.take s (String.ofList value))
        | value => return .done (← g.take s (String.ofList value))
    | none => .error (if c = 'h' then .help else if c = 'V' then .version else .misuse)

/-- What an argument does that begins with two dashes. -/
def readName (a : Arguments) (g : Given) (text : List Char) : Except Stop LetterStep :=
  let name := String.ofList (text.takeWhile (· != '='))
  let value := match text.dropWhile (· != '=') with
    | [] => none
    | _ :: value => some (String.ofList value)
  match a.named? name, value with
  | some s, none => if s.takes = .nothing then return .done (← g.take s "") else .ok (.wants g s)
  | some s, some value =>
    if s.takes = .nothing then .error .misuse else return .done (← g.take s value)
  | none, none =>
    .error (if name = "help" then .help else if name = "version" then .version else .misuse)
  | none, some _ => .error .misuse

/-- What one argument does. -/
def readOne (a : Arguments) (g : Given) (arg : String) : Except Stop LetterStep :=
  match arg.toList with
  | '-' :: '-' :: text => a.readName g text
  | '-' :: c :: cs => a.readLetters g (c :: cs)
  | _ => return .done (← g.takeSubject a arg)

/-- Reads arguments. Behind two dashes on their own nothing is an option any more. -/
def readFrom (a : Arguments) (g : Given) : List String → Except Stop Given
  | [] => .ok g
  | arg :: rest =>
    if arg = "--" then rest.foldlM (fun g value => g.takeSubject a value) g
    else
      match a.readOne g arg with
      | .error stop => .error stop
      | .ok (.done g) => a.readFrom g rest
      | .ok (.wants g s) =>
        match rest with
        | [] => .error .misuse
        | value :: rest =>
          if isValue value then
            match g.take s value with
            | .error stop => .error stop
            | .ok g => a.readFrom g rest
          else .error .misuse

/-- Reads the arguments of a command. An argument that is not an option has to be there if the
command takes one. -/
def read (a : Arguments) (args : List String) : Except Stop Given := do
  let g ← a.readFrom ⟨[], none⟩ args
  if a.subject.isSome && g.subject.isNone then .error .misuse else return g

/-! ## Help -/

/-- Two columns, the first as wide as its longest entry. -/
def columns (entries : List (String × String)) : List String :=
  let width := entries.foldl (fun width e => max width e.1.length) 0
  entries.map fun (left, right) => "  " ++ left ++ "".pushn ' ' (width - left.length + 2) ++ right

/-- The options that every command has. -/
def commonEntries : List (String × String) :=
  [("-h, --help", "Print help"), ("-V, --version", "Print version")]

/-- What a command takes, as text. -/
def help (a : Arguments) (program about : String) : String :=
  let usage := "Usage: " ++ program ++ " [OPTIONS]" ++
    (a.subject.elim "" fun (name, _) => " <" ++ name ++ ">")
  let subject := match a.subject with
    | some (name, text) => ["Arguments:"] ++ columns [("<" ++ name ++ ">", text)] ++ [""]
    | none => []
  let options := columns (a.flags.map (fun s => (s.usage, s.about)) ++ commonEntries)
  "\n".intercalate ([about, "", usage, ""] ++ subject ++ ["Options:"] ++ options) ++ "\n"

end Arguments

end Cutscene.Command
