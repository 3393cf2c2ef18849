import LogIntake.Entry.Timestamp
import LogIntake.Fault
import LogIntake.Json.Tree
import LogIntake.Text.Blank

/-!
# Log lines

A line of a request body is a JSON object in one of two shapes. A **direct** line has the key
`message` and gives time, message, source and metadata under their own names. A **shipped** line
has the key `log` in its place, one of several keys for the time, and metadata from the
container it was collected from, which may also name the source.

A body is split at each newline; lines that are blank are passed over, and each other line gives
either an entry or a fault under its number, whatever the lines around it hold.
-/

namespace LogIntake

open Json (Fields)

/-! ### Fields -/

namespace Entry

/-- The text of a string that is not blank, without the blanks around it. -/
def nonBlank? (v : Option Json) : Option String :=
  match v.bind Json.text? with
  | some s => if Text.isBlankText s then none else some (Text.trim s)
  | none => none

/-- The text of a field that must not be blank, without the line ends after it. -/
def requiredText (v : Option Json) : Except FieldProblem String :=
  match v with
  | none | some .null => .error .missing
  | some (.str s) =>
    let s := Text.trimLineEnd s
    if Text.isBlankText s then .error .empty else .ok s
  | some _ => .error .notText

/-- A fault of a line about one of its fields. -/
def blame {α : Type} (line : Nat) (field : String) : Except FieldProblem α → Except Fault α
  | .ok a => .ok a
  | .error p => .error (.invalidRecord line (p.message field))

/-! ### Direct lines -/

/-- The metadata of a direct line. -/
def directMetadata (v : Option Json) : Except FieldProblem Fields :=
  match v with
  | none | some .null => .ok []
  | some (.obj fields) => .ok fields
  | some _ => .error .notObject

/-- The time of a direct line. -/
def directTime (v : Option Json) : Except FieldProblem Time.Instant :=
  match v with
  | none => .error .missing
  | some v => timestamp? v

/-- The entry of a direct line. -/
def ofDirect (line : Nat) (fields : Fields) : Except Fault Entry := do
  let time ← blame line "timestamp" (directTime (fields.get? "timestamp"))
  let message ← blame line "message" (requiredText (fields.get? "message"))
  let source ← blame line "source" (requiredText (fields.get? "source"))
  let metadata ← blame line "metadata" (directMetadata (fields.get? "metadata"))
  pure (Entry.ofInstant time message source metadata)

/-! ### Shipped lines -/

/-- The keys for the time of a shipped line; the first one present counts. -/
def timeKeys : List String := ["date", "@timestamp", "time"]

/-- The keys for the source of a shipped line; the first usable one counts. -/
def sourceKeys : List String := ["source", "file", "path"]

/-- The container's fields that become metadata, each with its name there. -/
def containerKeys : List (String × String) :=
  [("pod_name", "pod"), ("namespace_name", "namespace"), ("host", "node"),
   ("container_name", "container"), ("container_image", "image"), ("labels", "labels")]

/-- Adds a value to metadata unless it is absent or null. -/
def addPresent (metadata : Fields) (key : String) (v : Option Json) : Fields :=
  match v with
  | none | some .null => metadata
  | some v => metadata.insert key v

/-- The metadata of a shipped line: what its container says and the stream it was written to. -/
def shippedMetadata (container : Option Fields) (stream : Option Json) : Fields :=
  let named := match container with
    | some c => containerKeys.foldl (fun m k => addPresent m k.2 (c.get? k.1)) []
    | none => []
  addPresent named "stream" stream

/-- The source that a container gives: namespace and pod, and the container's name if it has
one, with slashes between them. -/
def containerSource? (container : Fields) : Option String := do
  let space ← nonBlank? (container.get? "namespace_name")
  let pod ← nonBlank? (container.get? "pod_name")
  match nonBlank? (container.get? "container_name") with
  | some name => pure (space ++ "/" ++ pod ++ "/" ++ name)
  | none => pure (space ++ "/" ++ pod)

/-- The time of a shipped line, with the key to blame. -/
def shippedTime (line : Nat) (fields : Fields) : Except Fault Time.Instant :=
  match timeKeys.findSome? fun k => (fields.get? k).map (k, ·) with
  | none => blame line "date" (.error .missing)
  | some (key, v) => blame line key (timestamp? v)

/-- The source of a shipped line: its own, or else its container's. -/
def shippedSource? (fields : Fields) (container : Option Fields) : Option String :=
  (sourceKeys.findSome? fun k => nonBlank? (fields.get? k)) <|> container.bind containerSource?

/-- The entry of a shipped line. -/
def ofShipped (line : Nat) (fields : Fields) : Except Fault Entry := do
  let time ← shippedTime line fields
  let message ← blame line "log" (requiredText (fields.get? "log"))
  let container := (fields.get? "kubernetes").bind Json.fields?
  let metadata := shippedMetadata container (fields.get? "stream")
  match shippedSource? fields container with
  | some source => pure (Entry.ofInstant time message source metadata)
  | none => blame line "source" (.error .missing)

/-! ### Lines and bodies -/

/-- The entry of the fields of a line. -/
def ofFields (line : Nat) (fields : Fields) : Except Fault Entry :=
  if fields.contains "message" then ofDirect line fields
  else if fields.contains "log" then ofShipped line fields
  else blame line "message" (.error .missing)

/-- The entry of the JSON value of a line. -/
def ofJson (line : Nat) : Json → Except Fault Entry
  | .obj fields => ofFields line fields
  | _ => .error (.malformedLine line "expected a JSON object")

/-- The entry of a line of bytes. -/
def ofLine (line : Nat) (bytes : List UInt8) : Except Fault Entry :=
  match Json.ofBytes? bytes with
  | some v => ofJson line v
  | none => .error (.malformedLine line "not a JSON text")

end Entry

/-- The lines of a body: it is split at each newline byte, so a body without one is a single
line. -/
def splitLines : List UInt8 → List (List UInt8)
  | [] => [[]]
  | b :: rest =>
    match splitLines rest with
    | [] => [[b]]
    | l :: ls => if b = 0x0A then [] :: l :: ls else (b :: l) :: ls

/-- What a body holds: entries with the numbers of their lines, and the faults of the other
lines, both in the order of the lines. -/
structure Reading where
  entries : List (Nat × Entry)
  faults : List Fault
  deriving DecidableEq, Repr

namespace Reading

/-- The reading of no lines. -/
def empty : Reading := ⟨[], []⟩

/-- The number of lines that are not blank. -/
def total (r : Reading) : Nat :=
  r.entries.length + r.faults.length

/-- Whether all lines were blank. -/
def isEmpty (r : Reading) : Bool :=
  r.total = 0

/-- Puts the result of a line before the results of the lines after it. -/
def cons (line : Nat) (result : Except Fault Entry) (r : Reading) : Reading :=
  match result with
  | .ok e => { r with entries := (line, e) :: r.entries }
  | .error f => { r with faults := f :: r.faults }

/-- The reading of lines that are numbered from `line` on. -/
def ofLines (line : Nat) : List (List UInt8) → Reading
  | [] => empty
  | l :: ls =>
    let trimmed := Text.trimAscii l
    let rest := ofLines (line + 1) ls
    if trimmed.isEmpty then rest else rest.cons line (Entry.ofLine line trimmed)

/-- The reading of a body. -/
def ofBody (body : List UInt8) : Reading :=
  ofLines 1 (splitLines body)

end Reading

end LogIntake
