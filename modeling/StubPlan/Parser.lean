import StubPlan.Value

/-! Parsers of documents, which give the value that a text writes. What a text means to them is not
said here, only how their work can end. -/
namespace StubPlan

/-- An error of a parser that is no mistake in writing: a scalar that is no number, writes one beyond
the greatest, has nothing after its sign, is no known word or has not the form of a moment, a key of a
mapping that cannot be one, nodes too deep in others, or any other error, by its name. -/
inductive ParserError where
  | unreadable
  | tooLarge
  | noDigits
  | unknownWord
  | noMoment
  | unfitKey
  | tooDeep
  | other (name : String)
  deriving DecidableEq, Repr

/-- Why a text gives no value: it has a mistake in writing, or its parser stumbles over an error of
another kind. -/
inductive ParserFault where
  | malformed
  | raised (error : ParserError)
  deriving DecidableEq, Repr

end StubPlan
