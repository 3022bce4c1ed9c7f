/-!
# Runs of characters

A set of characters is listed by the runs of consecutive numbers in it, each
with its first and its last.
-/

namespace SchemaScript

namespace Text

def inRuns (runs : List (Nat × Nat)) (char : Char) : Bool :=
  runs.any fun (first, last) => first ≤ char.toNat && char.toNat ≤ last

end Text

end SchemaScript
