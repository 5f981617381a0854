import Cutscene.Text.Quoted
import Cutscene.Json.Value

set_option relaxedAutoImplicit false
set_option autoImplicit false

/-!
# What is wrong with a text

A text is read in one pass, and the first thing found wrong in it is the answer: that it is not
JSON, that it stops too early, or that a value is not of the kind wanted at its place.

## Main definitions

* `Cutscene.Json.Fault` — the ways not to be JSON.
* `Cutscene.Json.Found` — what stands at a place, as messages call it.
* `Cutscene.Json.Mismatch` — the ways not to fit, with `Mismatch.message` for the wording.
* `Cutscene.Json.Problem` — a fault or a mismatch.
-/

namespace Cutscene.Json

/-- A way not to be JSON. -/
inductive Fault where
  /-- The text breaks the grammar, or a limit that readers set. -/
  | malformed
  /-- The text ends inside a value. -/
  | cutShort
  deriving DecidableEq, Repr

/-- A value as a message names it. -/
inductive Found where
  /-- The value `null`. -/
  | null
  /-- A truth value. -/
  | flag (b : Bool)
  /-- A number. -/
  | number (n : Number)
  /-- A text. -/
  | text (s : String)
  /-- A list. -/
  | list
  /-- A record. -/
  | record

/-- The wording for a value. -/
def Found.describe : Found → String
  | .null => "null"
  | .flag b => "boolean `" ++ (if b then "true" else "false") ++ "`"
  | .number (.whole n) => "integer `" ++ String.ofList (Number.whole n).chars ++ "`"
  | .number (.real x) => "floating point `" ++ Decimal.Layout.json.format x ++ "`"
  | .text s => "string " ++ Text.quoted s
  | .list => "sequence"
  | .record => "map"

/-- A way for JSON not to fit what is wanted. -/
inductive Mismatch where
  /-- A value of another kind than the one wanted. -/
  | wrongKind (found : Found) (wanted : String)
  /-- A value of the right kind outside the wanted range. -/
  | wrongValue (found : Found) (wanted : String)
  /-- A field that has to be there is not. -/
  | missingField (name : String)
  /-- A field comes twice. -/
  | duplicateField (name : String)
  /-- A name that is none of the choices. -/
  | unknownChoice (name : String) (choices : List String)
  /-- A list of fields that ends too early. -/
  | tooShort (length : Nat) (wanted : String) (fields : Nat)
  /-- A value that fits none of the forms of its type. -/
  | noForm (type : String)

/-- Choices as a message lists them: two with `or`, more with commas. -/
def listChoices (choices : List String) : String :=
  match choices.map fun c => "`" ++ c ++ "`" with
  | [a, b] => a ++ " or " ++ b
  | quoted => "one of " ++ ", ".intercalate quoted

/-- The wording of a mismatch. -/
def Mismatch.message : Mismatch → String
  | .wrongKind found wanted => "invalid type: " ++ found.describe ++ ", expected " ++ wanted
  | .wrongValue found wanted => "invalid value: " ++ found.describe ++ ", expected " ++ wanted
  | .missingField name => "missing field `" ++ name ++ "`"
  | .duplicateField name => "duplicate field `" ++ name ++ "`"
  | .unknownChoice name choices =>
    "unknown variant `" ++ name ++ "`, expected " ++ listChoices choices
  | .tooShort length wanted fields =>
    "invalid length " ++ toString length ++ ", expected " ++ wanted ++ " with " ++
      toString fields ++ (if fields = 1 then " element" else " elements")
  | .noForm type => "data did not match any variant of untagged enum " ++ type

/-- What stops a reading. -/
inductive Problem where
  /-- The text is not JSON. -/
  | fault (f : Fault)
  /-- A value does not fit. -/
  | mismatch (m : Mismatch)

end Cutscene.Json
