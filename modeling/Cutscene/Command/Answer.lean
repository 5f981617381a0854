import Cutscene.Command.Request
import Cutscene.Command.Table
import Cutscene.Playback.PlayThrough
import Cutscene.Script.Builtin

set_option relaxedAutoImplicit false
set_option autoImplicit false

/-!
# Answers

What a request is answered with: an exit code, and what is printed. A request comes with whatever
it needs from the outside, the log file created and the scripts read; the rest is settled here.

## Main definitions

* `Cutscene.Command.Output`, `Cutscene.Command.Answer` — what is printed, and the exit code.
* `Cutscene.Command.Request.answer` — the answer to a request.
-/

namespace Cutscene.Command

/-- Something printed, or time that passes before the next thing is. -/
inductive Output where
  /-- A text. -/
  | print (text : String)
  /-- Some time. -/
  | wait (length : Duration)
  deriving DecidableEq

/-- An answer. -/
structure Answer where
  /-- The exit code. -/
  code : UInt8
  /-- What is printed, in time. -/
  output : List Output
  /-- What is printed as an error. -/
  errors : String
  /-- The scene that a terminal is to be opened for, with all the others. -/
  terminal : Option (Repertoire × String) := none

namespace Answer

/-- All that is printed. -/
def text (a : Answer) : String :=
  String.join (a.output.map fun
    | .print text => text
    | .wait _ => "")

/-- Success, with a text. -/
def success (text : String) : Answer := ⟨0, [.print text], "", none⟩

/-- Failure, with a message. -/
def failure (message : String) : Answer := ⟨1, [], "error: " ++ message ++ "\n", none⟩

/-- Prints something as an error before everything else. -/
def after (a : Answer) (errors : String) : Answer := { a with errors := errors ++ a.errors }

end Answer

/-! ## Diagnostics -/

/-- A number of things: their name gets an `s` unless there is one. -/
def counted (n : Nat) (name : String) : String :=
  toString n ++ " " ++ name ++ (if n = 1 then "" else "s")

/-- Lines, each with its line break. -/
def unlines (lines : List String) : String := String.join (lines.map (· ++ "\n"))

/-- All diagnostics, and how many there are. -/
def report (c : Compilation) : String :=
  if c.diagnostics.isEmpty then ""
  else
    let warnings := counted c.warnings.length "warning"
    let summary :=
      if c.hasErrors then counted c.errors.length "error" ++ ", " ++ warnings else warnings
    unlines (c.diagnostics.map Diagnostic.display ++ ["  " ++ summary])

/-- What becomes of scripts that compile without errors; otherwise the errors are reported. -/
def withScenes (loaded : Except LoadError Compilation) (f : Repertoire → Answer) : Answer :=
  match loaded with
  | .error e => .failure e.message
  | .ok c =>
    let answer :=
      if c.hasErrors then .failure "compilation failed with errors" else f c.repertoire
    answer.after (report c)

/-- What becomes of a scene; otherwise the error is that there is none. -/
def withScene (r : Repertoire) (name : String) (f : Scene → Answer) : Answer :=
  match r.find name with
  | .error e => .failure e.message
  | .ok scene => f scene

/-! ## Scenes -/

/-- The scenes of a repertoire, in a table. A sum of pauses that is out of range is fatal. -/
def listAnswer (r : Repertoire) : Answer :=
  if r.isEmpty then .success "  No scenes found.\n"
  else
    match r.toList.mapM Scene.scriptedDelay? with
    | none => ⟨101, [], "", none⟩
    | some delays =>
      let row (s : Scene) (delay : Duration) : List String :=
        [s.name, toString s.length, toString s.dialogueCount,
          if delay.nanos = 0 then "-" else Decimal.fixed 1 delay.seconds ++ "s"]
      let table : Table :=
        ⟨["Scene", "Steps", "Dialogue", "Scripted delay"], List.zipWith row r.toList delays⟩
      .success (unlines [table.render, "", "  " ++ counted r.size "scene"])

/-- The most characters of a line that are shown in a table. -/
def shownChars : Nat := 60

/-- A line as it is shown in a table: one that is too long ends in dots. -/
def shorten (text : String) : String :=
  if shownChars < text.length then String.ofList (text.toList.take (shownChars - 3)) ++ "..."
  else text

/-- The flags of a step in a table. -/
def flagsCell (s : Step) : String :=
  let flags := (if s.autoAdvance then ["auto"] else []) ++ (if s.skippable then ["skip"] else [])
  if flags.isEmpty then "-" else " ".intercalate flags

/-- What belongs to the kind of a step, in a table. -/
def payloadCell (s : Step) : String :=
  match s.action with
  | .say line => line.speaker ++ " (" ++ line.side.name ++ "): " ++ shorten line.text
  | .pause millis => toString millis.toNat ++ " ms"
  | .assign values =>
    ", ".intercalate (values.entries.map fun (name, value) => name ++ "=" ++ value.display)
  | .reset => "-"
  | .complete => "-"

/-- The steps of a scene, in a table or as JSON. -/
def showAnswer (json : Bool) (s : Scene) : Answer :=
  if json then .success (s.toJson.write .indented ++ "\n")
  else
    let rows := s.steps.mapIdx fun i step =>
      [toString i, step.kind.tag, flagsCell step, payloadCell step]
    let table : Table := ⟨["#", "Type", "Flags", "Payload"], rows⟩
    .success (unlines ["  " ++ s.name ++ " [" ++ toString s.length ++ " steps]", "", table.render])

/-- How much there is in a repertoire. -/
def checkAnswer (r : Repertoire) : Answer :=
  let steps := r.total Scene.length
  let lines := r.total Scene.dialogueCount
  .success (unlines ["  All checks passed.",
    "  " ++ toString r.size ++ " scenes, " ++ toString steps ++ " steps, " ++ toString lines ++
      " dialogue lines"])

/-! ## Playing -/

/-- A line that has been said. -/
def spoken (b : Bubble) : String := b.line.speaker ++ ": " ++ b.visibleText

/-- What a happening puts out. -/
def Output.ofHappening : Happening → List Output
  | .waited length => [.wait length]
  | .said bubble => [.print (spoken bubble ++ "\n")]
  | .proceeded => []

/-- The seconds of a number of nanoseconds. -/
def secondsText (nanos : Nat) : String :=
  Decimal.fixed 1 (((Duration.ofNanos? nanos).getD .longest).seconds) ++ "s"

/-- The lines of a scene as they are said, and what it took to play it. -/
def playAnswer (settings : Settings) (scene : String) (r : Repertoire) : Answer :=
  match ((Stage.ofRepertoire r settings).playThrough scene).2 with
  | .error e => .failure e.message
  | .ok past =>
    let summary := "  " ++ toString past.lines.length ++ " lines, " ++ toString past.proceeds ++
      " proceeds, " ++ secondsText past.elapsed
    ⟨0, past.flatMap Output.ofHappening ++ [.print (unlines ["", summary])], "", none⟩

/-- The terminal, if the scene is there. -/
def terminalAnswer (scene : String) (r : Repertoire) : Answer :=
  withScene r scene fun _ => ⟨0, [], "", some (r, scene)⟩

/-! ## Requests -/

/-- The answer to a request, given whether the log file could be created and what the scripts
compile to. -/
def Request.answer (r : Request) (log : Except ReadError Unit)
    (loaded : Except LoadError Compilation) : Answer :=
  match r with
  | .list _ => withScenes loaded listAnswer
  | .inspect _ scene json => withScenes loaded fun r => withScene r scene (showAnswer json)
  | .check _ => withScenes loaded checkAnswer
  | .play _ scene instant =>
    withScenes loaded (playAnswer (if instant then .instant else .standard) scene)
  | .openTerminal _ scene logFile reports =>
    match log, logFile with
    | .error e, some path => .failure ("cannot create " ++ path ++ ": " ++ e.message)
    | _, _ =>
      if reports then withScenes loaded (terminalAnswer scene)
      else
        match loaded >>= Compilation.load with
        | .error e => .failure e.message
        | .ok r => terminalAnswer scene r

/-- What the scripts of a request compile to, given what is found at their path. -/
def Request.load (r : Request) (look : Path → Place) : Except LoadError Compilation :=
  match r.scripts with
  | some path => Compilation.ofPlace path (look path)
  | none => .ok Builtin.compilation

end Cutscene.Command
