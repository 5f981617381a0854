import Cutscene.Proofs.Dictionary
import Cutscene.Scene.Repertoire

set_option relaxedAutoImplicit false
set_option autoImplicit false

/-!
# Looking scenes up

## Main results

* `Cutscene.Repertoire.name_of_get?` — a scene is found under its own name and no other.
* `Cutscene.Repertoire.mem_toList_of_get?` — a scene that is found is one of the repertoire.
-/

namespace Cutscene

namespace Repertoire

variable {r : Repertoire} {name : String} {scene : Scene}

/-- A scene is found under its own name and no other. -/
theorem name_of_get? (r : Repertoire) (h : r.get? name = some scene) : scene.name = name :=
  r.named _ (Dictionary.mem_of_lookup h)

/-- A scene that is found is one of the repertoire. -/
theorem mem_toList_of_get? (h : r.get? name = some scene) : scene ∈ r.toList :=
  List.mem_map_of_mem (Dictionary.mem_of_lookup h)

/-- A name is not taken exactly if no scene is found under it. -/
lemma contains_eq_false_iff : r.contains name = false ↔ r.get? name = none := by
  simp [contains, get?, Dictionary.contains]

end Repertoire

end Cutscene
