import Cutscene.Scene.Basic

set_option relaxedAutoImplicit false
set_option autoImplicit false

/-!
# Repertoires

The repertoire is the collection of scenes that can be played, each under its own name. It only
grows, and a name once taken stays with its scene.

## Main definitions

* `Cutscene.Repertoire` — scenes by name.
* `Cutscene.Repertoire.insert`, `Cutscene.Repertoire.ofScenes` — adding scenes one by one.
* `Cutscene.Repertoire.merge` — adding the scenes of another repertoire up to the first clash.
-/

namespace Cutscene

/-- Scenes by name. -/
structure Repertoire where
  /-- The scenes in the order of their names. -/
  scenes : Dictionary Scene
  /-- Each scene lies under its own name. -/
  named : ∀ e ∈ scenes.entries, e.2.name = e.1

namespace Repertoire

/-- No scenes. -/
def empty : Repertoire := ⟨.empty, by simp [Dictionary.empty]⟩

instance : Inhabited Repertoire := ⟨empty⟩

/-- The scene of a name. -/
def get? (r : Repertoire) (name : String) : Option Scene := r.scenes.get? name

/-- The scene of a name, or the error that there is none. -/
def find (r : Repertoire) (name : String) : Except SceneError Scene :=
  match r.get? name with
  | some s => .ok s
  | none => .error (.notFound name)

/-- Whether a name is taken. -/
def contains (r : Repertoire) (name : String) : Bool := r.scenes.contains name

/-- Adds a scene under its name. -/
def add (r : Repertoire) (s : Scene) : Repertoire where
  scenes := r.scenes.insert s.name s
  named e he := by
    rcases Dictionary.mem_put he with rfl | he
    · rfl
    · exact r.named e he

/-- Adds a scene whose name is not taken. -/
def insert (r : Repertoire) (s : Scene) : Except SceneError Repertoire :=
  if r.contains s.name then .error (.duplicate s.name) else .ok (r.add s)

/-- The repertoire of a list of scenes with distinct names. -/
def ofScenes (scenes : List Scene) : Except SceneError Repertoire :=
  scenes.foldlM insert empty

/-- Moves scenes over one by one, until a name is taken. What was moved before stays. -/
def mergeScenes (r : Repertoire) : List Scene → Repertoire × Except SceneError Unit
  | [] => (r, .ok ())
  | s :: scenes =>
    match r.insert s with
    | .ok r => r.mergeScenes scenes
    | .error e => (r, .error e)

/-- Moves the scenes of another repertoire over, in the order of their names. -/
def merge (r other : Repertoire) : Repertoire × Except SceneError Unit :=
  r.mergeScenes other.scenes.values

/-- The names of the scenes, least first. -/
def names (r : Repertoire) : List String := r.scenes.keys

/-- The scenes in the order of their names. -/
def toList (r : Repertoire) : List Scene := r.scenes.values

/-- The number of scenes. -/
def size (r : Repertoire) : Nat := r.scenes.size

/-- Whether there are no scenes. -/
def isEmpty (r : Repertoire) : Bool := r.scenes.isEmpty

/-- Something that is counted in each scene, over all scenes. -/
def total (count : Scene → Nat) (r : Repertoire) : Nat := r.toList.foldr (fun s n => count s + n) 0

end Repertoire

end Cutscene
