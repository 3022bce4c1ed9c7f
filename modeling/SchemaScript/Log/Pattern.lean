import SchemaScript.Log.Pattern.Group

/-!
# Search patterns

A rule of a filter may ask for a value by a search pattern.  This file says
which texts are patterns that can be used.
-/

namespace SchemaScript

namespace Log

namespace Pattern

def depthLimit : Nat :=
  250

end Pattern

/--
Whether a text is a search pattern: it can be read to its end, all its groups
are closed there, and its parts are not nested too deep.
-/
def isPattern (text : List Char) : Bool :=
  (Pattern.Progress.scan {} text).any fun progress =>
    progress.outer = [] && progress.branches.depth ≤ Pattern.depthLimit

end Log

end SchemaScript
