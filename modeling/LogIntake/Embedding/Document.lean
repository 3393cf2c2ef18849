import LogIntake.Json.Tree
import LogIntake.Similarity

/-!
# Embeddings as JSON documents

A provider answers with a document: an object with `data`, an array of objects with `embedding`,
an array of numbers. Either object may be written as an array of its one field. In the objects
other keys are passed over, and neither of the two may stand there twice. A number becomes a
single; one that is too large becomes infinite.
-/

namespace LogIntake.Embedding

open Json (Tree)
open Number (Single)

/-- The single that a numeral names. An integer is rounded once, any other number through the
double that it names. -/
def single? (n : Json.Numeral) : Option Single :=
  match n.integer? with
  | some i => some (.ofInt i)
  | none => n.double?.map (·.toSingle)

/-- The single in a tree. -/
def component? : Tree → Option Single
  | .numeral n => single? n
  | _ => none

/-- The value of the one field of an object in a tree. -/
def field? (key : String) : Tree → Option Tree
  | .obj members => Tree.onlyMember? members key
  | .arr [t] => some t
  | _ => none

/-- The items of an array in a tree. -/
def items? : Tree → Option (List Tree)
  | .arr items => some items
  | _ => none

/-- The embedding in an item of a document. -/
def ofItem? (t : Tree) : Option Embedding := do
  let components ← items? (← field? "embedding" t)
  components.mapM component?

/-- The embeddings of a document. -/
def ofDocument? (t : Tree) : Option (List Embedding) := do
  let items ← items? (← field? "data" t)
  items.mapM ofItem?

end LogIntake.Embedding
