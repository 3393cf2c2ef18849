import LogIntake.Number.Double

/-!
# Similarity of embeddings

An **embedding** is the vector of singles that a provider gives for a text. Two embeddings of
one length are compared by the cosine of the angle between them, computed in double precision
from the first component to the last. Where the product of the norms is at most `2 ^ (-52)` the
angle is not defined.
-/

namespace LogIntake

open Number (Single)

/-- The vector of a text. -/
abbrev Embedding := List Single

namespace Embedding

/-- The sums that a cosine needs: the inner product and the squares of both norms. -/
structure Sums where
  dot : Float
  left : Float
  right : Float

/-- The sums of two vectors, component by component. -/
def sums (a b : Embedding) : Sums :=
  (List.zip a b).foldl (fun s p =>
    let x := p.1.toFloat
    let y := p.2.toFloat
    ⟨s.dot + x * y, s.left + x * x, s.right + y * y⟩) ⟨0, 0, 0⟩

/-- The least product of norms with an angle lies just above this number. -/
def smallestNorm : Float := Float.ofBits 0x3CB0000000000000

/-- The cosine of the angle between two vectors; `none` where they differ in length, are empty
or have no angle. -/
def cosine? (a b : Embedding) : Option Single :=
  if a.length ≠ b.length ∨ a.isEmpty then none
  else
    let s := sums a b
    let norms := s.left.sqrt * s.right.sqrt
    if norms ≤ smallestNorm then none else some (.ofFloat (s.dot / norms))

/-- Whether the cosine of two vectors exists and reaches a threshold. -/
def similar (threshold : Single) (a b : Embedding) : Bool :=
  match cosine? a b with
  | some c => threshold.le c
  | none => false

end Embedding

end LogIntake
