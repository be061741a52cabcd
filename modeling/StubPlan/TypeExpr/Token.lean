import StubPlan.Unicode.Digit

/-! Tokens of a type expression: names, which may be dotted, string literals with their quotes, and
everything else. The texts of the tokens make up the expression. -/
namespace StubPlan.TypeExpr
open Unicode

inductive TokenKind where
  | name
  | literal
  | other
  deriving DecidableEq, Repr

structure Token where
  kind : TokenKind
  text : String
  deriving DecidableEq, Repr

def isQuote (c : Char) : Bool := c = '"' || c = '\''

def isNameStart (c : Char) : Bool := isLetter c || c = '_'

/-- Whether a character may stand inside a segment of a name. -/
def isNameChar (c : Char) : Bool := isAlphanumeric c || c = '_'

def startsName : List Char → Bool
  | [] => false
  | c :: _ => isNameStart c

/-- What is left of a literal after its opening quote, up to its closing one, and the text after it.
A backslash takes the next character with it; a literal that is not closed takes all. -/
def takeLiteral (quote : Char) : List Char → List Char × List Char
  | [] => ([], [])
  | '\\' :: c :: rest =>
    let (text, after) := takeLiteral quote rest
    ('\\' :: c :: text, after)
  | c :: rest =>
    if c = quote then ([c], rest)
    else
      let (text, after) := takeLiteral quote rest
      (c :: text, after)

/-- What is left of a name after its first character, and the text after it. A dot belongs to the
name when another segment follows. -/
def takeName : List Char → List Char × List Char
  | [] => ([], [])
  | c :: rest =>
    if isNameChar c || (c = '.' && startsName rest) then
      let (text, after) := takeName rest
      (c :: text, after)
    else ([], c :: rest)

theorem takeLiteral_append (quote : Char) (s : List Char) :
    (takeLiteral quote s).1 ++ (takeLiteral quote s).2 = s := by
  fun_induction takeLiteral quote s <;> simp_all

theorem takeName_append (s : List Char) : (takeName s).1 ++ (takeName s).2 = s := by
  fun_induction takeName s <;> simp_all

theorem length_takeLiteral_le (quote : Char) (s : List Char) :
    (takeLiteral quote s).2.length ≤ s.length := by
  have h := congrArg List.length (takeLiteral_append quote s)
  simp only [List.length_append] at h
  omega

theorem length_takeName_le (s : List Char) : (takeName s).2.length ≤ s.length := by
  have h := congrArg List.length (takeName_append s)
  simp only [List.length_append] at h
  omega

def lex : List Char → List (TokenKind × List Char)
  | [] => []
  | c :: rest =>
    if isQuote c then
      (.literal, c :: (takeLiteral c rest).1) :: lex (takeLiteral c rest).2
    else if isNameStart c then
      (.name, c :: (takeName rest).1) :: lex (takeName rest).2
    else if isDigit c then
      (.other, c :: rest.takeWhile isNameChar) :: lex (rest.dropWhile isNameChar)
    else (.other, [c]) :: lex rest
  termination_by s => s.length
  decreasing_by
    · have := length_takeLiteral_le c rest
      simp only [List.length_cons]
      omega
    · have := length_takeName_le rest
      simp only [List.length_cons]
      omega
    · have := (List.dropWhile_sublist isNameChar (l := rest)).length_le
      simp only [List.length_cons]
      omega
    · simp

def tokenize (expression : String) : List Token :=
  (lex expression.toList).map fun (kind, text) => ⟨kind, String.ofList text⟩

end StubPlan.TypeExpr
