import Cutscene.Script.Compilation

set_option relaxedAutoImplicit false
set_option autoImplicit false

/-!
# Loading scripts

Scripts are loaded from a text, from a file, or from a folder, all of whose script files together
make one repertoire. The files of a folder are taken in the order of their names, however the
folder lists them. A file that cannot be read ends the loading; a file in a folder that is no
script is reported, and the others are still compiled.

## Main definitions

* `Cutscene.ReadError`, `Cutscene.Place` — what is found at a path.
* `Cutscene.LoadError` — what keeps scripts from being loaded.
* `Cutscene.Compilation.ofText`, `Cutscene.Compilation.ofPlace` — the compilation of what is
  there.
* `Cutscene.Repertoire.ofText`, `Cutscene.Repertoire.ofPlace` — its scenes, if there is no error.
-/

namespace Cutscene

/-! ## Places -/

/-- Why a file cannot be read. -/
inductive ReadError where
  /-- There is nothing at the path. -/
  | missing
  /-- The path goes on behind a file. -/
  | notAFolder
  /-- The path leads to a folder. -/
  | isAFolder
  /-- A name on the path, or the path, is longer than names and paths can be. -/
  | nameTooLong
  /-- The path has a null character in it. -/
  | nullInPath
  /-- The bytes of the file are no text. -/
  | notText
  /-- Any other cause, in the words of whoever tried. -/
  | other (cause : String)
  deriving DecidableEq, Repr

/-- The wording of the cause. -/
def ReadError.message : ReadError → String
  | missing => "No such file or directory (os error 2)"
  | notAFolder => "Not a directory (os error 20)"
  | isAFolder => "Is a directory (os error 21)"
  | nameTooLong => "File name too long (os error 36)"
  | nullInPath => "file name contained an unexpected NUL byte"
  | notText => "stream did not contain valid UTF-8"
  | other cause => cause

/-- What reading a file gives. -/
abbrev Content := Except ReadError String

/-- What is found at a path. -/
inductive Place where
  /-- A folder: the names in it, in any order, with what reading each gives. -/
  | folder (entries : List (String × Content))
  /-- Anything else: what reading it gives. -/
  | file (content : Content)

/-- Paths are texts whose parts are divided by slashes. -/
abbrev Path := String

namespace Path

/-- The path of something in a folder. A name that starts with a slash is a path by itself. -/
def join (folder name : Path) : Path :=
  if name.startsWith "/" then name
  else if folder.endsWith "/" then folder ++ name
  else folder ++ "/" ++ name

/-- The parts of a path, without those that lead nowhere. -/
def parts (path : Path) : List String :=
  (path.splitOn "/").filter fun part => part != "" && part != "."

/-- The last part of a path, unless that is a step up. -/
def fileName? (path : Path) : Option String :=
  match (parts path).getLast? with
  | some ".." => none
  | part => part

/-- Whether a name is that of a script file: it ends in `.json`, and something comes before. -/
def isScript (name : String) : Bool := name.endsWith ".json" && name != ".json"

end Path

/-! ## Errors -/

/-- The wording for a text that is no script. -/
def Json.Problem.message : Json.Problem → String
  | .fault .malformed => "malformed text"
  | .fault .cutShort => "text ends too early"
  | .mismatch m => m.message

/-- What keeps scripts from being loaded. -/
inductive LoadError where
  /-- A file cannot be read. -/
  | unreadable (path : Path) (cause : ReadError)
  /-- A text is no script. -/
  | notAScript (problem : Json.Problem)
  /-- The compilation has errors. -/
  | invalid (errors : List Diagnostic)

/-- The wording of an error about loading. -/
def LoadError.message : LoadError → String
  | .unreadable path cause => "cannot read " ++ path ++ ": " ++ cause.message
  | .notAScript problem => "invalid script: " ++ problem.message
  | .invalid errors =>
    "script has " ++ toString errors.length ++ " error(s), first: " ++
      (errors.head?.map Diagnostic.message).getD ""

/-! ## Loading -/

namespace Compilation

/-- The compilation of a script text. -/
def ofText (text : String) : Except LoadError Compilation :=
  match Draft.ofText text with
  | .ok draft => .ok (ofDraft draft)
  | .error problem => .error (.notAScript problem)

/-- Reads a file of a folder and adds its scenes. -/
def addFile (folder : Path) (c : Compilation) (entry : String × Content) :
    Except LoadError Compilation :=
  match entry.2 with
  | .error cause => .error (.unreadable (folder.join entry.1) cause)
  | .ok text =>
    match Draft.ofText text with
    | .ok draft => .ok (c.addDraft (some entry.1) draft)
    | .error problem =>
      .ok (c.note ⟨.error, some entry.1, (LoadError.notAScript problem).message⟩)

/-- The script files among the entries of a folder, in the order of their names. -/
def scriptFiles (entries : List (String × Content)) : List (String × Content) :=
  (Dictionary.ofList (entries.filter (Path.isScript ·.1))).entries

/-- The compilation of a folder. -/
def ofFolder (path : Path) (entries : List (String × Content)) : Except LoadError Compilation :=
  let files := scriptFiles entries
  let start :=
    if files.isEmpty then empty.note ⟨.error, none, "no .json files found in " ++ path⟩ else empty
  files.foldlM (addFile path) start

/-- The compilation of a file. -/
def ofFile (path : Path) (content : Content) : Except LoadError Compilation :=
  match content with
  | .error cause => .error (.unreadable path cause)
  | .ok text =>
    match Draft.ofText text with
    | .ok draft => .ok (empty.addDraft path.fileName? draft)
    | .error problem => .error (.notAScript problem)

/-- The compilation of what is found at a path. -/
def ofPlace (path : Path) : Place → Except LoadError Compilation
  | .folder entries => ofFolder path entries
  | .file content => ofFile path content

/-- The scenes of a compilation without errors. -/
def load (c : Compilation) : Except LoadError Repertoire := c.finished.mapError .invalid

end Compilation

namespace Repertoire

/-- The scenes of a script text. -/
def ofText (text : String) : Except LoadError Repertoire :=
  Compilation.ofText text >>= Compilation.load

/-- The scenes of what is found at a path. -/
def ofPlace (path : Path) (place : Place) : Except LoadError Repertoire :=
  Compilation.ofPlace path place >>= Compilation.load

end Repertoire

end Cutscene
