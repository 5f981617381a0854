import Cutscene.Script.Loading

set_option relaxedAutoImplicit false
set_option autoImplicit false

/-!
# Trees of files

Folders and files in memory, known by their paths from a root. A path is followed step by step,
and every step but the last has to lead to a folder; a slash at the end asks for a folder as
well. Leaving the root leads to folders around it. Looking up a path gives what a script is loaded
from.

## Main definitions

* `Cutscene.FileTree` — the folders and files below a root.
* `Cutscene.FileTree.add` — puts a folder or a file into a tree.
* `Cutscene.FileTree.follow` — where steps lead to.
* `Cutscene.FileTree.look` — what is found at a path.
* `Cutscene.FileTree.create` — makes an empty file.
-/

namespace Cutscene

/-- A folder or a file. -/
inductive FileNode where
  /-- A folder. -/
  | folder
  /-- A file, with what reading it gives. -/
  | file (content : Content)

/-- The folders and files below a root, and those that are known around it. -/
structure FileTree where
  /-- The path of the root. Other paths start from the root, unless they start with a slash. -/
  root : Path
  /-- The nodes by the names on the way to them from the root. -/
  nodes : List (List String × FileNode)

/-- The names on a path, which may also be points for staying in a folder or leaving it. -/
def Path.names (path : Path) : List String := (path.splitOn "/").filter (· != "")

/-- Whether a path ends in a slash. -/
def Path.endsInSlash (path : Path) : Bool := path.endsWith "/"

namespace FileTree

/-- Whether a place is the root or one of the folders around it, which two points lead to. -/
def isAround (place : List String) : Bool := place.all (· == "..")

/-- The node at a place, which is given by the names on the way to it from the root. -/
def node? (t : FileTree) (place : List String) : Option FileNode :=
  if isAround place then some .folder
  else (t.nodes.find? (·.1 == place)).map (·.2)

/-- Puts a node in its place, where it replaces the one that may be there. -/
def put (t : FileTree) (place : List String) (node : FileNode) : FileTree :=
  { t with nodes := (place, node) :: t.nodes.filter (·.1 != place) }

/-! ## Steps -/

/-- The place that a name leads to from a folder: one point stays there, two points leave it. -/
def step (place : List String) (name : String) : List String :=
  if name = "." then place
  else if name = ".." then
    if isAround place then place ++ [".."] else place.dropLast
  else place ++ [name]

/-- The names that lead from the root to where a path leads, unless the path is empty. The root of
all paths is around the root of the tree. -/
def localNames? (t : FileTree) (path : Path) : Option (List String) :=
  if path.isEmpty then none
  else if path = t.root then some []
  else if path.startsWith (t.root ++ "/") then some (Path.names (path.drop t.root.length).toString)
  else if path.startsWith "/" then some (".." :: path.names)
  else some path.names

/-! ## Building -/

/-- Puts a node at a path, and folders where they are missing on the way to it. -/
def add (t : FileTree) (path : Path) (node : FileNode) : FileTree :=
  let place := ((t.localNames? path).getD []).foldl step []
  let above := (List.range place.length).map place.take
  let t := above.foldl (fun t p => if (t.node? p).isSome then t else t.put p .folder) t
  t.put place node

/-! ## Looking up -/

/-- Fails unless there is a folder at a place. -/
def expectFolder (t : FileTree) (place : List String) : Except ReadError Unit :=
  match t.node? place with
  | none => .error .missing
  | some (.file _) => .error .notAFolder
  | some .folder => .ok ()

/-- Fails unless a name can be one: it has no more bytes than a name can have. -/
def checkName (name : String) : Except ReadError Unit :=
  if name.utf8ByteSize ≤ 255 then .ok () else .error .nameTooLong

/-- Fails unless a path can be one: no character of it is null, and it has no more bytes than a
path can have. -/
def checkPath (path : Path) : Except ReadError Unit :=
  if path.toList.contains '\x00' then .error .nullInPath
  else if path.utf8ByteSize < 4096 then .ok ()
  else .error .nameTooLong

/-- Where names lead to from a place. There has to be a folder wherever one more name follows. -/
def follow (t : FileTree) (place : List String) : List String → Except ReadError (List String)
  | [] => .ok place
  | name :: rest => do
    t.expectFolder place
    checkName name
    t.follow (step place name) rest

/-- The place of a path. -/
def resolve (t : FileTree) (path : Path) : Except ReadError (List String) := do
  checkPath path
  match t.localNames? path with
  | some names => t.follow [] (if path.endsInSlash then names ++ ["."] else names)
  | none => .error .missing

/-- The names in a folder, with what reading them gives. -/
def entries (t : FileTree) (folder : List String) : List (String × Content) :=
  t.nodes.filterMap fun (place, node) =>
    match place.getLast? with
    | some name =>
      if place.dropLast == folder then
        match node with
        | .folder => some (name, .error .isAFolder)
        | .file content => some (name, content)
      else none
    | none => none

/-- What is found at a path. -/
def look (t : FileTree) (path : Path) : Place :=
  match t.resolve path with
  | .error e => .file (.error e)
  | .ok place =>
    match t.node? place with
    | none => .file (.error .missing)
    | some .folder => .folder (t.entries place)
    | some (.file content) => .file content

/-! ## Making files -/

/-- Makes an empty file at a path, in the place of the file that may be there. The path has to
end in the name of a file, without a slash behind it, and the folder has to be there. -/
def create (t : FileTree) (path : Path) : Except ReadError FileTree := do
  checkPath path
  match t.localNames? path with
  | none => .error .missing
  | some names =>
    match names.getLast? with
    | none => .error .isAFolder
    | some name =>
      let folder ← t.follow [] names.dropLast
      t.expectFolder folder
      if name = "." ∨ name = ".." ∨ path.endsInSlash then .error .isAFolder
      checkName name
      match t.node? (folder ++ [name]) with
      | some .folder => .error .isAFolder
      | _ => return t.put (folder ++ [name]) (.file (.ok ""))

end FileTree

end Cutscene
