import Cutscene.Command.Options
import Cutscene.Script.Loading

set_option relaxedAutoImplicit false
set_option autoImplicit false

/-!
# Requests

What a command line asks for. There are two programs: one with a command for each way to look at
scenes or to play them, and one that only opens the terminal.

## Main definitions

* `Cutscene.Command.Request` — what can be asked for.
* `Cutscene.Command.Ask` — a request, or what ends the program before there is one.
* `Cutscene.Command.Program` — the programs; `Program.ask` reads their arguments.
-/

namespace Cutscene.Command

/-- What can be asked for. Scripts come from a path, or else they are the built-in ones. -/
inductive Request where
  /-- The scenes, in a table. -/
  | list (scripts : Option Path)
  /-- The steps of a scene, in a table or as JSON. -/
  | inspect (scripts : Option Path) (scene : String) (json : Bool)
  /-- What is wrong with the scripts. -/
  | check (scripts : Option Path)
  /-- A scene, played through; without delay if it is to be instant. -/
  | play (scripts : Option Path) (scene : String) (instant : Bool)
  /-- The terminal, with a scene to start; `reports` says whether diagnostics are shown. -/
  | openTerminal (scripts : Option Path) (scene : String) (logFile : Option Path) (reports : Bool)
  deriving DecidableEq, Repr

namespace Request

/-- Where the scripts come from. -/
def scripts : Request → Option Path
  | list scripts => scripts
  | inspect scripts _ _ => scripts
  | check scripts => scripts
  | play scripts _ _ => scripts
  | openTerminal scripts _ _ _ => scripts

/-- The file that a log is written to. -/
def logFile : Request → Option Path
  | openTerminal _ _ logFile _ => logFile
  | list _ => none
  | inspect _ _ _ => none
  | check _ => none
  | play _ _ _ => none

end Request

/-- What a command line comes to. -/
inductive Ask where
  /-- Something to be done. -/
  | request (r : Request)
  /-- Something to be printed. -/
  | print (text : String)
  /-- The command line is wrong; the text says how it should be. -/
  | misuse (help : String)

/-! ## What the commands take -/

/-- The option for scripts. -/
def scriptsFlag (letter : Option Char) : Flag where
  name := "scripts"
  letter := letter
  takes := .path
  about := "Script file or directory of .json scripts (default: built-in content)"

/-- The option for the scene to start with. -/
def sceneFlag : Flag := ⟨"scene", none, .text, "Scene to start with [default: init]"⟩

/-- The option for the log. -/
def logFlag : Flag := ⟨"log-file", none, .path, "Write logs to this file"⟩

/-- The scene to start with if nothing is said. -/
def defaultScene : String := "init"

/-- A command: its name, what it is good for, what it takes, and what that asks for. -/
structure Subcommand where
  /-- The name. -/
  name : String
  /-- What the command is good for. -/
  about : String
  /-- What it takes. -/
  arguments : Arguments
  /-- What it asks for. -/
  request : Given → Request

/-- The commands. -/
def subcommands : List Subcommand := [
  { name := "list"
    about := "List the scenes in a script"
    arguments := ⟨[scriptsFlag (some 's')], none⟩
    request := fun g => .list (g.value? "scripts") },
  { name := "show"
    about := "Show the steps of a scene"
    arguments := ⟨[⟨"json", none, .nothing, "Print the scene as JSON"⟩, scriptsFlag (some 's')],
      some ("SCENE", "Scene name (case-sensitive)")⟩
    request := fun g => .inspect (g.value? "scripts") (g.subject.getD "") (g.has "json") },
  { name := "check"
    about := "Compile scripts and report diagnostics"
    arguments := ⟨[scriptsFlag (some 's')], none⟩
    request := fun g => .check (g.value? "scripts") },
  { name := "play"
    about := "Play a scene without a renderer, printing each line"
    arguments := ⟨[⟨"instant", none, .nothing, "Use zero-length timers"⟩, scriptsFlag (some 's')],
      some ("SCENE", "Scene name")⟩
    request := fun g => .play (g.value? "scripts") (g.subject.getD "") (g.has "instant") },
  { name := "tui"
    about := "Launch the interactive CRT monitor"
    arguments := ⟨[sceneFlag, logFlag, scriptsFlag (some 's')], none⟩
    request := fun g => .openTerminal (g.value? "scripts") ((g.value? "scene").getD defaultScene)
      (g.value? "log-file") true }]

/-- What the program for the terminal takes. -/
def terminalArguments : Arguments := ⟨[scriptsFlag none, sceneFlag, logFlag], none⟩

/-! ## Programs -/

/-- A program. -/
inductive Program where
  /-- The program with the commands. -/
  | tool
  /-- The program that opens the terminal. -/
  | terminal
  deriving DecidableEq, Repr

namespace Program

/-- The name of a program. -/
def name : Program → String
  | tool => "crtscene"
  | terminal => "crtscene-tui"

/-- What a program is good for. -/
def about : Program → String
  | tool => "crtscene: scripted cutscenes on a CRT monitor"
  | terminal => "Play crtscene cutscenes on a terminal CRT monitor"

end Program

/-- The line that names a program and its version. -/
def versionLine (program : String) : String := program ++ " 0.1.0\n"

/-- What comes of reading arguments: a request, or what was asked for instead. -/
def Ask.ofReading (path display about : String) (a : Arguments) (request : Given → Request)
    (args : List String) : Ask :=
  match a.read args with
  | .ok g => .request (request g)
  | .error .help => .print (a.help path about)
  | .error .version => .print (versionLine display)
  | .error .misuse => .misuse (a.help path about)

/-- What the program with the commands takes, as text. -/
def toolHelp : String :=
  let entries := subcommands.map (fun s => (s.name, s.about)) ++
    [("help", "Print this message or the help of the given subcommand(s)")]
  "\n".intercalate ([Program.tool.about, "", "Usage: crtscene <COMMAND>", "", "Commands:"] ++
    Arguments.columns entries ++ ["", "Options:"] ++
    Arguments.columns Arguments.commonEntries) ++ "\n"

/-- What the command for help takes, as text. -/
def helpHelp : String :=
  "\n".intercalate (["Print this message or the help of the given subcommand(s)", "",
    "Usage: crtscene help [COMMAND]...", "", "Arguments:"] ++
    Arguments.columns [("[COMMAND]...", "Print help for the subcommand(s)")]) ++ "\n"

/-- Help on a command. -/
def askHelp : List String → Ask
  | [] => .print toolHelp
  | [name] =>
    if name = "help" then .print helpHelp
    else
      match subcommands.find? (·.name == name) with
      | some s => .print (s.arguments.help ("crtscene " ++ name) s.about)
      | none => .misuse toolHelp
  | _ => .misuse toolHelp

/-- What comes of an argument in the place of a command that is none. -/
def askOption (arg : String) : Ask :=
  match (⟨[], none⟩ : Arguments).read [arg] with
  | .error .help => .print toolHelp
  | .error .version => .print (versionLine Program.tool.name)
  | _ => .misuse toolHelp

/-- Reads the arguments of a program. -/
def Program.ask : Program → List String → Ask
  | terminal, args =>
    .ofReading terminal.name terminal.name terminal.about terminalArguments
      (fun g => .openTerminal (g.value? "scripts") ((g.value? "scene").getD defaultScene)
        (g.value? "log-file") false) args
  | tool, [] => .misuse toolHelp
  | tool, arg :: args =>
    if arg = "help" then askHelp args
    else
      match subcommands.find? (·.name == arg) with
      | some s =>
        .ofReading ("crtscene " ++ s.name) ("crtscene-" ++ s.name) s.about s.arguments s.request
          args
      | none => askOption arg

end Cutscene.Command
