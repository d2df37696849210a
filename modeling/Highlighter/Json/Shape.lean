-- Values of known types read from JSON: strings, truth values, names out of a list, and records, which
-- are objects or lists of their fields in order.
import Highlighter.Json.Scan

namespace Highlighter.Json

/-! ## Simple values -/

/-- Reads a string. -/
def text : Read String := fun s =>
  let s := s.skip
  match s.rest with
  | [] => failPeeked .endInValue s
  | '"' :: _ => stringRest s.eat
  | _ => .error (wrongType "a string" s)

/-- Reads a truth value. -/
def truth : Read Bool := fun s =>
  let s := s.skip
  match s.rest with
  | [] => failPeeked .endInValue s
  | 't' :: _ => (ident "rue".toList s.eat).map (true, ·)
  | 'f' :: _ => (ident "alse".toList s.eat).map (false, ·)
  | _ => .error (wrongType "a boolean" s)

/-- Reads `null` or a value. -/
def optional (read : Read α) : Read (Option α) := fun s =>
  let s := s.skip
  match s.rest with
  | 'n' :: _ => (ident "ull".toList s.eat).map (none, ·)
  | _ => (read s).map fun (a, s) => (some a, s)

/-- Reads a value from its text; `check` says why a text is refused. -/
def checked (check : String → Except String α) : Read α := fun s =>
  match text s with
  | .error e => .error e
  | .ok (t, s) =>
    match check t with
    | .ok a => .ok (a, s)
    | .error message => refuse message s

/-- Reads the colon between a key and its value. -/
def colon (s : Source) : Except Fault Source :=
  let s := s.skip
  match s.rest with
  | [] => failPeeked .endInObject s
  | ':' :: _ => .ok s.eat
  | _ => failPeeked .expectedColon s

/-- The value with a name, given the source after the name. -/
def named (choices : List (String × α)) (name : String) (s : Source) : Except Fault (α × Source) :=
  match choices.lookup name with
  | some a => .ok (a, s)
  | none => failAt (.unknownVariant name (choices.map (·.1))) s

/-- Reads what follows the name of a choice in an object: nothing but `null`. -/
def emptyContent (s : Source) : Except Fault Source :=
  match colon s with
  | .error e => .error e
  | .ok s =>
    let s := s.skip
    match s.rest with
    | [] => failPeeked .endInValue s
    | 'n' :: _ => ident "ull".toList s.eat
    | _ => .error (wrongType "unit" s)

/-- Reads a value out of a list of named ones: its name, or an object with the name as its key and
`null` as its value. -/
def choice (choices : List (String × α)) : Read α := fun s =>
  let s := s.skip
  match s.rest with
  | [] => failPeeked .endInValue s
  | '"' :: _ =>
    match stringRest s.eat with
    | .error e => .error e
    | .ok (name, s) => named choices name s
  | '\x7b' :: _ =>
    let s := s.eat.skip
    match s.rest with
    | [] => failPeeked .endInObject s
    | '\x7d' :: _ => failPeeked .expectedValue s
    | '"' :: _ =>
      match stringRest s.eat with
      | .error e => .error e
      | .ok (name, s) =>
        match named choices name s with
        | .error e => .error e
        | .ok (a, s) =>
          match emptyContent s with
          | .error e => .error e
          | .ok s =>
            let s := s.skip
            match s.rest with
            | [] => failAt .endInObject s
            | '\x7d' :: _ => .ok (a, s.eat)
            | _ => failAt .expectedValue s
    | _ => failPeeked .keyNotString s
  | _ => failPeeked .expectedValue s

/-! ## Objects -/

/-- Reads a member whose key starts here, and adds it to what was read before. -/
def member1 {σ : Type} (entry : σ → String → Read σ) (acc : σ) : Read σ := fun s =>
  match stringRest s.eat with
  | .error e => .error e
  | .ok (key, s) => entry acc key s

/-- Reads members up to the closing brace, which is left. `first` says that none was read before.
`fuel` bounds their number. -/
def members {σ : Type} (entry : σ → String → Read σ) : Nat → Bool → σ → Read σ
  | 0, _, _, s => failAt .endInObject s
  | fuel + 1, first, acc, s =>
    let s := s.skip
    let more (s : Source) : Except Fault (σ × Source) :=
      match member1 entry acc s with
      | .error e => .error e
      | .ok (acc, s) => members entry fuel false acc s
    match s.rest with
    | [] => failPeeked .endInObject s
    | c :: _ =>
      if c = '\x7d' then .ok (acc, s)
      else if first then if c = '"' then more s else failPeeked .keyNotString s
      else if c = ',' then
        let s := s.eat.skip
        match s.rest with
        | [] => failPeeked .endInValue s
        | '"' :: _ => more s
        | '\x7d' :: _ => failPeeked .trailingComma s
        | _ => failPeeked .keyNotString s
      else failPeeked .expectedObjectCommaOrEnd s

/-- Settles the place of a fault inside an object: after the object if it ends here, or else after
blanks. -/
def closeObject : Except Fault (α × Source) → Except Fault (α × Source)
  | .error (.pending problem s) =>
    let s := s.skip
    match s.rest with
    | '\x7d' :: _ => failAt problem s.eat
    | _ => failAt problem s
  | .error e => .error e
  | .ok (a, s) => .ok (a, s.skip.eat)

/-- Reads an object, given the source after its opening brace. `finish` makes the value of all its
members. -/
def objectRest {σ : Type} (entry : σ → String → Read σ) (start : σ) (finish : σ → Except Problem α) :
    Read α := fun s =>
  closeObject <|
    match members entry (s.rest.length + 1) true start s with
    | .error e => .error e
    | .ok (acc, s) =>
      match finish acc with
      | .ok a => .ok (a, s)
      | .error problem => failLater problem s

/-! ## Lists -/

/-- Reads as many elements as there are readers, or fewer if the list ends before. -/
def elements {σ : Type} (absent : Nat → σ → Except Problem σ) :
    List (σ → Read σ) → Nat → Bool → σ → Read σ
  | [], _, _, acc, s => .ok (acc, s)
  | read :: more, index, first, acc, s =>
    let s := s.skip
    let one (s : Source) : Except Fault (σ × Source) :=
      match read acc s with
      | .error e => .error e
      | .ok (acc, s) => elements absent more (index + 1) false acc s
    match s.rest with
    | [] => failPeeked .endInList s
    | c :: _ =>
      if c = ']' then
        match absent index acc with
        | .error problem => failLater problem s
        | .ok acc => elements absent more (index + 1) first acc s
      else if first then one s
      else if c = ',' then
        let s := s.eat.skip
        match s.rest with
        | [] => failPeeked .endInValue s
        | ']' :: _ => failPeeked .trailingComma s
        | _ => one s
      else failPeeked .expectedListCommaOrEnd s

/-- Settles the place of a fault inside a list, or reads its end. -/
def closeList : Except Fault (α × Source) → Except Fault (α × Source)
  | .error (.pending problem s) =>
    let s := s.skip
    match s.rest with
    | ']' :: _ => failAt problem s.eat
    | ',' :: _ => failAt problem s.eat.skip
    | _ => failAt problem s
  | .error e => .error e
  | .ok (a, s) =>
    let s := s.skip
    match s.rest with
    | [] => failPeeked .endInList s
    | ']' :: _ => .ok (a, s.eat)
    | ',' :: _ =>
      let s := s.eat.skip
      match s.rest with
      | ']' :: _ => failPeeked .trailingComma s
      | _ => failPeeked .trailingCharacters s
    | _ => failPeeked .trailingCharacters s

/-- Reads a list, given the source after its opening bracket. -/
def listRest {σ : Type} (readers : List (σ → Read σ)) (absent : Nat → σ → Except Problem σ)
    (start : σ) (finish : σ → Except Problem α) : Read α := fun s =>
  closeList <|
    match elements absent readers 0 true start s with
    | .error e => .error e
    | .ok (acc, s) =>
      match finish acc with
      | .ok a => .ok (a, s)
      | .error problem => failLater problem s

/-! ## Records and whole texts -/

/-- Reads a record as an object or as a list. -/
def record (expected : String) (object list : Read α) : Read α := fun s =>
  let s := s.skip
  match s.rest with
  | [] => failPeeked .endInValue s
  | '[' :: _ => list s.eat
  | '\x7b' :: _ => object s.eat
  | _ => .error (wrongType expected s)

/-- Reads an object with any keys. -/
def mapping (object : Read α) : Read α := fun s =>
  let s := s.skip
  match s.rest with
  | [] => failPeeked .endInValue s
  | '\x7b' :: _ => object s.eat
  | _ => .error (wrongType "a map" s)

/-- Reads a field that must not be set yet. -/
def field (name : String) (former : Option α) (read : Read α) : Read α := fun s =>
  if former.isSome then failLater (.duplicateField name) s
  else
    match colon s with
    | .error e => .error e
    | .ok s => read s

/-- Passes over a member that has no meaning. -/
def ignoredMember (s : Source) : Except Fault Source :=
  match colon s with
  | .error e => .error e
  | .ok s => ignoreValue s

/-- A problem with a text and, unless the problem is with the text as a whole, its place. -/
structure Error where
  problem : Problem
  position? : Option Position
  deriving DecidableEq

/-- The message for an error. -/
def Error.message (e : Error) : String :=
  match e.position? with
  | none => e.problem.message
  | some p =>
    e.problem.message ++ " at line " ++ toString p.line ++ " column " ++ toString p.column

/-- The error of a fault that nothing has placed. -/
def Fault.toError : Fault → Error
  | located problem position => ⟨problem, some position⟩
  | pending problem _ => ⟨problem, none⟩

/-- Reads a whole text as one value. -/
def ofText (read : Read α) (text : String) : Except Error α :=
  match read (Source.start text) with
  | .error e => .error e.toError
  | .ok (a, s) =>
    let s := s.skip
    match s.rest with
    | [] => .ok a
    | _ => .error ⟨.trailingCharacters, some s.peeked⟩

end Highlighter.Json
