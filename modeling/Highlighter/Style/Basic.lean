-- Styles: a rule for some of the categories. A category takes over the attributes of those above it,
-- from the default on down, unless a rule on the way says not to.
import Highlighter.KindMap
import Highlighter.Style.Rule

namespace Highlighter

/-- A style. -/
structure Style where
  name : String
  /-- The attributes where no rule says otherwise. -/
  base : Attributes
  rules : KindMap StyleRule

namespace Style

/-- The style with one more rule, which replaces the former one of its category. -/
def set (s : Style) (k : Kind) (rule : String) : Except StyleError Style :=
  match StyleRule.read rule with
  | .ok r => .ok { s with rules := s.rules.insert k r }
  | .error e => .error e

/-- The style with more rules, set one after the other. The first that cannot be read decides. -/
def override (s : Style) : List (Kind × String) → Except StyleError Style
  | [] => .ok s
  | (k, rule) :: rest =>
    match s.set k rule with
    | .ok s => s.override rest
    | .error e => .error e

/-- The style with a default and rules. The default is read first. -/
def build (name default : String) (entries : List (Kind × String)) : Except StyleError Style :=
  match StyleRule.read default with
  | .ok r => override ⟨name, r.apply .plain, .empty⟩ entries
  | .error e => .error e

/-- The style has a rule of its own for the category. -/
def hasEntry (s : Style) (k : Kind) : Bool := s.rules.contains k

/-- The attributes after the rule of one category of a lineage, if it has one. -/
def descend (s : Style) (a : Attributes) (k : Kind) : Attributes :=
  match s.rules.get? k with
  | none => a
  | some r => r.apply (if r.inherits then a else s.base)

/-- The attributes of a category. -/
def attributes (s : Style) (k : Kind) : Attributes := k.lineage.foldl s.descend s.base

/-- The attributes of all categories, in order. -/
def table (s : Style) : List (Kind × Attributes) := Kind.all.map fun k => (k, s.attributes k)

end Style

end Highlighter
