-- Lexical categories in a dotted hierarchy: a category stands below the one whose name its own name
-- extends, and takes its style from there unless it has one of its own.
namespace Highlighter

/-! ## The categories -/

/-- The categories of tokens, in the order in which tables list them. -/
inductive Kind where
  | text
  | whitespace
  | error
  | other
  | keyword
  | name
  | nameFunction
  | nameClass
  | literal
  | number
  | string
  | operator
  | punctuation
  | comment
  | commentSingleline
  | commentMultiline
  | generic
  deriving DecidableEq

namespace Kind

/-- All categories, in order. -/
def all : List Kind :=
  [text, whitespace, error, other, keyword, name, nameFunction, nameClass, literal, number, string,
    operator, punctuation, comment, commentSingleline, commentMultiline, generic]

theorem mem_all (k : Kind) : k ∈ all := by cases k <;> decide

/-- The place of a category in the order. -/
def rank : Kind → Nat
  | text => 0
  | whitespace => 1
  | error => 2
  | other => 3
  | keyword => 4
  | name => 5
  | nameFunction => 6
  | nameClass => 7
  | literal => 8
  | number => 9
  | string => 10
  | operator => 11
  | punctuation => 12
  | comment => 13
  | commentSingleline => 14
  | commentMultiline => 15
  | generic => 16

/-! ## The hierarchy -/

/-- The category directly above, if there is one. -/
def parent? : Kind → Option Kind
  | whitespace => some text
  | nameFunction => some name
  | nameClass => some name
  | number => some literal
  | string => some literal
  | commentSingleline => some comment
  | commentMultiline => some comment
  | _ => none

theorem rank_parent_lt {k p : Kind} (h : k.parent? = some p) : p.rank < k.rank := by
  cases k <;> simp [parent?] at h <;> subst h <;> decide

/-- The chain from the top of the hierarchy down to the category itself. -/
def lineage (k : Kind) : List Kind :=
  match _h : k.parent? with
  | none => [k]
  | some p => p.lineage ++ [k]
termination_by k.rank
decreasing_by exact rank_parent_lt _h

/-- The first category is the second or stands below it. -/
def isWithin (k above : Kind) : Bool := k.lineage.contains above

/-! ## Names -/

/-- The dotted name, which texts and tables use. -/
def dotted : Kind → String
  | text => "Text"
  | whitespace => "Text.Whitespace"
  | error => "Error"
  | other => "Other"
  | keyword => "Keyword"
  | name => "Name"
  | nameFunction => "Name.Function"
  | nameClass => "Name.Class"
  | literal => "Literal"
  | number => "Literal.Number"
  | string => "Literal.String"
  | operator => "Operator"
  | punctuation => "Punctuation"
  | comment => "Comment"
  | commentSingleline => "Comment.Singleline"
  | commentMultiline => "Comment.Multiline"
  | generic => "Generic"

/-- The name without dots, which listings use. -/
def label : Kind → String
  | text => "Text"
  | whitespace => "Whitespace"
  | error => "Error"
  | other => "Other"
  | keyword => "Keyword"
  | name => "Name"
  | nameFunction => "NameFunction"
  | nameClass => "NameClass"
  | literal => "Literal"
  | number => "Number"
  | string => "String"
  | operator => "Operator"
  | punctuation => "Punctuation"
  | comment => "Comment"
  | commentSingleline => "CommentSingleline"
  | commentMultiline => "CommentMultiline"
  | generic => "Generic"

/-- The prefix that a fully qualified name carries. -/
def qualifier : String := "Token."

/-- The category with this dotted name. -/
def ofDotted? (name : String) : Option Kind := all.find? fun k => k.dotted == name

/-- The name without one leading qualifier. -/
def unqualified (name : String) : String :=
  if qualifier.toList.isPrefixOf name.toList then
    String.ofList (name.toList.drop qualifier.toList.length)
  else name

/-- The category that a name stands for, with or without the qualifier. -/
def read? (name : String) : Option Kind := ofDotted? (unqualified name)

end Kind

/-- A name that no category has. -/
structure UnknownKind where
  name : String
  deriving DecidableEq

/-- The message for an unknown name. -/
def UnknownKind.message (e : UnknownKind) : String := "Unknown token category: " ++ e.name

/-- The category that a name stands for, or the name as the fault. -/
def Kind.read (name : String) : Except UnknownKind Kind :=
  match Kind.read? name with
  | some k => .ok k
  | none => .error ⟨name⟩

end Highlighter
