-- Categories, colours, fonts, attributes and style tables as JSON.
import Highlighter.Json.Shape
import Highlighter.Json.Written
import Highlighter.Style.Basic

namespace Highlighter

/-! ## Single values -/

/-- A category is written by its dotted name. -/
def Kind.json (k : Kind) : List Char := Json.string k.dotted

/-- Reads a category by its name. -/
def Kind.ofJson : Json.Read Kind := Json.checked fun s => (Kind.read s).mapError (·.message)

/-- A colour is written in its long form. -/
def Color.json (c : Color) : List Char := Json.string c.text

/-- Reads a colour. -/
def Color.ofJson : Json.Read Color := Json.checked fun s => (Color.read s).mapError (·.message)

/-- A font is written by its name. -/
def Font.json (f : Font) : List Char := Json.string f.name

/-- Reads a font by its name. -/
def Font.ofJson : Json.Read Font :=
  Json.choice ([Font.roman, .sans, .mono].map fun f => (f.name, f))

/-! ## Attributes -/

namespace Attributes

/-- Attributes are written with all their fields. -/
def json (a : Attributes) : List Char :=
  Json.object
    [("color", Json.nullable Color.json a.color),
      ("bgcolor", Json.nullable Color.json a.background),
      ("border", Json.nullable Color.json a.border),
      ("bold", Json.bool a.bold),
      ("italic", Json.bool a.italic),
      ("underline", Json.bool a.underline),
      ("font", Json.nullable Font.json a.font)]

/-- The fields that have been read. -/
structure Draft where
  color : Option (Option Color)
  background : Option (Option Color)
  border : Option (Option Color)
  bold : Option Bool
  italic : Option Bool
  underline : Option Bool
  font : Option (Option Font)

namespace Draft

/-- Nothing has been read. -/
def empty : Draft := ⟨none, none, none, none, none, none, none⟩

/-- A truth value that must be there. -/
def required (name : String) : Option Bool → Except Json.Problem Bool
  | some b => .ok b
  | none => .error (.missingField name)

/-- The attributes, if nothing is missing. Colours and the font may be. -/
def finish (d : Draft) : Except Json.Problem Attributes := do
  let bold ← required "bold" d.bold
  let italic ← required "italic" d.italic
  let underline ← required "underline" d.underline
  return ⟨d.color.getD none, d.background.getD none, d.border.getD none, bold, italic, underline,
    d.font.getD none⟩

/-- Reads the member with a key. Members with other keys are passed over. -/
def entry (d : Draft) (key : String) : Json.Read Draft := fun s =>
  let color := Json.optional Color.ofJson
  match key with
  | "color" => (Json.field key d.color color s).map fun (c, s) => ({ d with color := some c }, s)
  | "bgcolor" =>
    (Json.field key d.background color s).map fun (c, s) => ({ d with background := some c }, s)
  | "border" => (Json.field key d.border color s).map fun (c, s) => ({ d with border := some c }, s)
  | "bold" => (Json.field key d.bold Json.truth s).map fun (b, s) => ({ d with bold := some b }, s)
  | "italic" =>
    (Json.field key d.italic Json.truth s).map fun (b, s) => ({ d with italic := some b }, s)
  | "underline" =>
    (Json.field key d.underline Json.truth s).map fun (b, s) => ({ d with underline := some b }, s)
  | "font" =>
    (Json.field key d.font (Json.optional Font.ofJson) s).map fun (f, s) =>
      ({ d with font := some f }, s)
  | _ => (Json.ignoredMember s).map (d, ·)

/-- The readers of the fields in order. -/
def inOrder : List (Draft → Json.Read Draft) :=
  let color := Json.optional Color.ofJson
  [fun d s => (color s).map fun (c, s) => ({ d with color := some c }, s),
    fun d s => (color s).map fun (c, s) => ({ d with background := some c }, s),
    fun d s => (color s).map fun (c, s) => ({ d with border := some c }, s),
    fun d s => (Json.truth s).map fun (b, s) => ({ d with bold := some b }, s),
    fun d s => (Json.truth s).map fun (b, s) => ({ d with italic := some b }, s),
    fun d s => (Json.truth s).map fun (b, s) => ({ d with underline := some b }, s),
    fun d s => (Json.optional Font.ofJson s).map fun (f, s) => ({ d with font := some f }, s)]

end Draft

/-- Reads attributes. -/
def ofJson : Json.Read Attributes :=
  Json.record "struct StyleAttributes" (Json.objectRest Draft.entry .empty Draft.finish)
    (Json.listRest Draft.inOrder
      (fun index _ => .error (.invalidLength index "struct StyleAttributes with 7 elements"))
      .empty Draft.finish)

end Attributes

/-! ## Tables -/

/-- The table of a style as an object with the dotted names as keys. -/
def Style.json (s : Style) : String :=
  String.ofList (Json.object (s.table.map fun (k, a) => (k.dotted, a.json)))

end Highlighter
