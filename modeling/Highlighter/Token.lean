-- A token: a piece of a text with its category and where it starts.
import Highlighter.Kind

namespace Highlighter

/-- A piece of a text. Offsets count bytes in UTF-8. -/
structure Token where
  kind : Kind
  text : String
  start : Nat
  deriving DecidableEq

namespace Token

/-- The offset just after the token. -/
def stop (t : Token) : Nat := t.start + t.text.utf8ByteSize

end Token

end Highlighter
