import LogIntake.Entry.Basic
import LogIntake.Json.Tree
import LogIntake.Time.Text

/-!
# Entries as JSON documents

An entry is also stored and exchanged as a document of its own: an object with `timestamp`,
`message` and `source`, strings all three, and optionally `metadata`, an object; or an array of
these in this order. In the object other keys are passed over, and none of the four may stand
there twice. Nothing is trimmed or cut down.
-/

namespace LogIntake.Entry

open Json (Tree)
open Json.Tree (membersAt? onlyMember?)

/-- The instant that a string in a tree names. -/
def treeTime? (t : Tree) : Option Time.Instant := do
  let s ← t.text?
  Time.Instant.ofLenient? s.toList

/-- The metadata of a document, which lies one level deep in it. -/
def treeMetadata? (t : Tree) : Option Json.Fields := do
  let v ← t.valueIn? (Json.maxOpen - 1)
  v.fields?

/-- The entry of a document. -/
def ofDocument? : Tree → Option Entry
  | .obj members => do
    let time ← treeTime? (← onlyMember? members "timestamp")
    let message ← Tree.text? (← onlyMember? members "message")
    let source ← Tree.text? (← onlyMember? members "source")
    let metadata ← match ← membersAt? members "metadata" with
      | [] => pure []
      | [t] => treeMetadata? t
      | _ => none
    pure ⟨time, message, source, metadata⟩
  | .arr [time, message, source] => do
    pure ⟨← treeTime? time, ← message.text?, ← source.text?, []⟩
  | .arr [time, message, source, metadata] => do
    pure ⟨← treeTime? time, ← message.text?, ← source.text?, ← treeMetadata? metadata⟩
  | _ => none

end LogIntake.Entry
