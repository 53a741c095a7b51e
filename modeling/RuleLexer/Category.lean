/-!
# Token categories

Every token has one of twelve categories. A category has a variant name, one word, and a dotted name
that places it in a hierarchy; the dotted name may be written without a leading `Literal.`.
-/

namespace RuleLexer

/-- What a token is. -/
inductive Category
  | keyword
  | keywordConstant
  | functionName
  | variable
  | number
  | operator
  | stringEscape
  | stringDouble
  | stringSingle
  | commentMultiline
  | error
  | plainText
  deriving DecidableEq, Repr, Inhabited

namespace Category

/-- Every category, in the order in which names are looked up. -/
def all : List Category :=
  [.keyword, .keywordConstant, .functionName, .variable, .number, .operator, .stringEscape,
   .stringDouble, .stringSingle, .commentMultiline, .error, .plainText]

/-- The one-word name. -/
def name : Category → String
  | .keyword => "Keyword"
  | .keywordConstant => "KeywordConstant"
  | .functionName => "FunctionName"
  | .variable => "Variable"
  | .number => "Number"
  | .operator => "Operator"
  | .stringEscape => "StringEscape"
  | .stringDouble => "StringDouble"
  | .stringSingle => "StringSingle"
  | .commentMultiline => "CommentMultiline"
  | .error => "Error"
  | .plainText => "PlainText"

/-- The name in the hierarchy of categories. -/
def dottedName : Category → String
  | .keyword => "Keyword"
  | .keywordConstant => "Keyword.Constant"
  | .functionName => "Name.Function"
  | .variable => "Name.Variable"
  | .number => "Literal.Number"
  | .operator => "Operator"
  | .stringEscape => "Literal.String.Escape"
  | .stringDouble => "Literal.String.Double"
  | .stringSingle => "Literal.String.Single"
  | .commentMultiline => "Comment.Multiline"
  | .error => "Error"
  | .plainText => "Text"

/-- The first segment that a dotted name may leave out. -/
def literalSegment : String := "Literal."

/-- A name without its leading literal segment, if it has one. -/
def withoutLiteral (name : String) : List Char :=
  let chars := name.toList
  if literalSegment.toList.isPrefixOf chars then chars.drop literalSegment.length else chars

/-- Whether a text names the category: by its variant name, by its dotted name, or by a name that
agrees with the dotted name once the literal segment of both is removed. -/
def isNamed (category : Category) (text : String) : Bool :=
  text == category.name || text == category.dottedName ||
    withoutLiteral text == withoutLiteral category.dottedName

def ofName? (text : String) : Option Category :=
  all.find? (·.isNamed text)

/-- The message for a text that names no category. -/
def unknownMessage (text : String) : String :=
  "unknown token category `" ++ text ++ "`"

/-- A text that was meant to name a category and names none. -/
structure Unknown where
  text : String
  deriving DecidableEq, Repr

/-- The category that a text names, or that it names none. -/
def ofName (text : String) : Except Unknown Category :=
  match ofName? text with
  | some category => .ok category
  | none => .error ⟨text⟩

end Category

end RuleLexer
