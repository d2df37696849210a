-- The name of a file at the end of a path. A path is a sequence of bytes; its name need not be text.
namespace Highlighter.FileName

/-- The byte between the components of a path. -/
def separator : UInt8 := 0x2F

/-- The byte of a dot. -/
def dot : UInt8 := 0x2E

/-- The components of a path. Empty ones and those of a single dot name nothing. -/
def components (path : List UInt8) : List (List UInt8) :=
  (path.splitOn separator).filter fun c => c != [] && c != [dot]

/-- The last component of a path, unless it leads upward. -/
def last? (path : List UInt8) : Option (List UInt8) :=
  (components path).getLast?.filter (· != [dot, dot])

/-- The text of bytes in UTF-8. -/
def text? (bytes : List UInt8) : Option String := String.fromUTF8? ⟨bytes.toArray⟩

/-- The name of the file at the end of a path, if there is one and it is text. -/
def ofPath? (path : List UInt8) : Option String := (last? path).bind text?

/-- The bytes of a path that is text. -/
def bytes (path : String) : List UInt8 := path.toUTF8.toList

end Highlighter.FileName
