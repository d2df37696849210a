-- Globs, the patterns for names of files: `?` and `*` for any text, sets in brackets, and `**` for any
-- number of whole path components.
namespace Highlighter

/-- A part of a glob. -/
inductive GlobToken where
  | char (c : Char)
  /-- Any one character. -/
  | anyChar
  /-- Any text. -/
  | anyText
  /-- Any path components, with the separator after them. -/
  | anyComponents
  /-- One character that lies in one of the spans, or, if `negated`, in none. -/
  | set (negated : Bool) (spans : List (Char × Char))
  deriving DecidableEq

/-- What is wrong with a glob. -/
inductive GlobProblem where
  | invalidRange
  | wildcards
  | recursiveWildcards
  deriving DecidableEq

/-- A problem with a glob and the number of characters before it. -/
structure GlobError where
  position : Nat
  problem : GlobProblem
  deriving DecidableEq

/-- The message for a faulty glob. -/
def GlobError.message (e : GlobError) : String :=
  "Pattern syntax error near position " ++ toString e.position ++ ": " ++
    match e.problem with
    | .invalidRange => "invalid range pattern"
    | .wildcards => "wildcards are either regular `*` or recursive `**`"
    | .recursiveWildcards => "recursive wildcards must form a single path component"

/-- A glob. -/
structure Glob where
  tokens : List GlobToken
  deriving DecidableEq

namespace Glob

/-! ## Reading -/

/-- The character between the components of a path. -/
def isSeparator (c : Char) : Bool := c == '/'

/-- The spans of a set: `a-c` is one span, any other character a span by itself. -/
def spans : List Char → List (Char × Char)
  | a :: '-' :: c :: rest => (a, c) :: spans rest
  | a :: rest => (a, a) :: spans rest
  | [] => []

/-- Reads a set after its opening bracket. Its first character stands for itself, even a closing
bracket. -/
def set? (cs : List Char) : Option (GlobToken × List Char) :=
  let (negated, cs) :=
    match cs with
    | '!' :: rest => (true, rest)
    | _ => (false, cs)
  match cs with
  | [] => none
  | first :: rest =>
    match rest.dropWhile (· != ']') with
    | [] => none
    | _ :: after => some (.set negated (spans (first :: rest.takeWhile (· != ']'))), after)

/-- Reads a glob from a position on. `last` is the character before it. `fuel` bounds the number of
tokens. -/
def tokensOf : Nat → Nat → Option Char → List Char → Except GlobError (List GlobToken)
  | 0, _, _, _ => .ok []
  | _ + 1, _, _, [] => .ok []
  | fuel + 1, position, last, c :: rest =>
    match c with
    | '?' => (tokensOf fuel (position + 1) (some c) rest).map (.anyChar :: ·)
    | '*' =>
      let stars := 1 + (rest.takeWhile (· == '*')).length
      let after := rest.dropWhile (· == '*')
      if stars = 1 then (tokensOf fuel (position + 1) (some c) rest).map (.anyText :: ·)
      else if 2 < stars then .error ⟨position + 2, .wildcards⟩
      else if last.any (!isSeparator ·) then .error ⟨position - 1, .recursiveWildcards⟩
      else
        match after with
        | [] => .ok [.anyComponents]
        | d :: after =>
          if isSeparator d then
            (tokensOf fuel (position + 3) (some d) after).map (.anyComponents :: ·)
          else .error ⟨position + 2, .recursiveWildcards⟩
    | '[' =>
      match set? rest with
      | none => .error ⟨position, .invalidRange⟩
      | some (token, after) =>
        (tokensOf fuel (position + 1 + (rest.length - after.length)) (some ']') after).map (token :: ·)
    | c => (tokensOf fuel (position + 1) (some c) rest).map (.char c :: ·)

/-- Reads a glob. -/
def read (s : String) : Except GlobError Glob :=
  (tokensOf s.toList.length 0 none s.toList).map Glob.mk

/-! ## Matching

A glob is matched from its last token to its first. A row tells for a text and each of its later parts,
down to the empty one, whether the tokens so far match it. So every token is tried once at each place. -/

/-- A row in which a place holds if it or a later one held. -/
def orLater : List Bool → List Bool
  | [] => []
  | here :: row =>
    let later := orLater row
    (here || later.headD false) :: later

/-- The row in which a place holds if a separator from there on has a place that holds after it, or if
the end holds. -/
def afterSeparator : List Char → List Bool → List Bool
  | c :: cs, _ :: row =>
    let later := afterSeparator cs row
    ((isSeparator c && row.headD false) || later.headD false) :: later
  | _, row => row

/-- The row in which a place holds if the character there passes a test and the place after it holds. -/
def afterChar (test : Char → Bool) : List Char → List Bool → List Bool
  | c :: cs, _ :: row => (test c && row.headD false) :: afterChar test cs row
  | _, _ => [false]

/-- The row of a token before others, whose row is given. -/
def tokenRow (cs : List Char) (row : List Bool) : GlobToken → List Bool
  | .anyText => orLater row
  | .anyComponents => List.zipWith (· || ·) row (afterSeparator cs row)
  | .anyChar => afterChar (fun _ => true) cs row
  | .char a => afterChar (· == a) cs row
  | .set negated spans =>
    afterChar
      (fun c => spans.any (fun span => decide (span.1 ≤ c) && decide (c ≤ span.2)) != negated) cs row

/-- The row of some tokens: no tokens match the empty text only. -/
def rowOf (cs : List Char) (tokens : List GlobToken) : List Bool :=
  tokens.foldr (fun token row => tokenRow cs row token) (cs.map (fun _ => false) ++ [true])

/-- The glob matches a text. -/
def matchText (g : Glob) (s : String) : Bool := (rowOf s.toList g.tokens).headD false

end Glob

end Highlighter
