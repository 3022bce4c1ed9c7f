/-!
# Blanks in markup

Markup knows four blank characters, and no others: space, tab, line feed and
carriage return.
-/

namespace SchemaScript

namespace Markup

/-- The characters that separate the parts of a tag. -/
def isBlank (char : Char) : Bool :=
  char = ' ' || char = '\t' || char = '\n' || char = '\r'

/-- Drops the blanks at the end of a text; a text of blanks alone is kept. -/
def trimEnd (text : List Char) : List Char :=
  if text.all isBlank then text else (text.reverse.dropWhile isBlank).reverse

end Markup

end SchemaScript
