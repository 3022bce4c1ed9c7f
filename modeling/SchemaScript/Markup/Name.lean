import SchemaScript.Text.Cut

/-!
# Qualified names

A name in markup may carry a label before its first colon; what follows the
colon is the local name.  A label stands for a namespace.
-/

namespace SchemaScript

namespace Markup

namespace Name

def label? (name : List Char) : Option (List Char) :=
  (Text.cut? [':'] name).map Prod.fst

/-- The characters after the first colon, or the whole name if it has none. -/
def localPart (name : List Char) : List Char :=
  ((Text.cut? [':'] name).map Prod.snd).getD name

theorem label?_append {label : List Char} (noColon : ':' ∉ label) (rest : List Char) :
    label? (label ++ ':' :: rest) = some label := by
  simp [label?, Text.cut?_append_of_not_mem noColon]

theorem localPart_append {label : List Char} (noColon : ':' ∉ label) (rest : List Char) :
    localPart (label ++ ':' :: rest) = rest := by
  simp [localPart, Text.cut?_append_of_not_mem noColon]

theorem label?_of_not_mem {name : List Char} (noColon : ':' ∉ name) : label? name = none := by
  simp [label?, Text.cut?_of_not_mem noColon]

theorem localPart_of_not_mem {name : List Char} (noColon : ':' ∉ name) :
    localPart name = name := by
  simp [localPart, Text.cut?_of_not_mem noColon]

end Name

end Markup

end SchemaScript
