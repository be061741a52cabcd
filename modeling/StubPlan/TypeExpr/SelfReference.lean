import StubPlan.Text.Blank
import StubPlan.Text.Replace
import StubPlan.TypeExpr.Token

/-! A class may refer to itself before it is fully defined when the reference stands in quotes. -/
namespace StubPlan.TypeExpr

/-- Whether a text occurs in another, anywhere. -/
def occursIn (part : List Char) : List Char → Bool
  | [] => part.isEmpty
  | c :: rest => part.isPrefixOf (c :: rest) || occursIn part rest

def Token.refersTo (className : String) (t : Token) : Bool :=
  t.kind = .name && (Text.splitAt '.' t.text).contains className

/-- The text of a token, in quotes when it refers to the class. -/
def Token.quoted (className : String) (t : Token) : String :=
  if t.refersTo className then "'" ++ t.text ++ "'" else t.text

/-- The expression with every reference to the class in quotes. A name is matched by whole segments
and quoted as a whole; literals stay as they are. -/
def quoteSelf (className : String) (expression : String) : String :=
  if Text.isBlank expression || Text.isBlank className ||
      !occursIn className.toList expression.toList then expression
  else String.join ((tokenize expression).map (Token.quoted className))

def quoteSelf? (className expression : Option String) : Option String :=
  match className with
  | none => expression
  | some name => expression.map (quoteSelf name)

end StubPlan.TypeExpr
