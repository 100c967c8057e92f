/-!
# Texts that are refused

A text is refused for what it says, if it does not follow the grammar, or for what it
means, if a value is not of the kind that is expected. Either way there is a place: the line
and the column of the byte that settles it.
-/

namespace EntityGraph

namespace Json

/-- Why a text does not follow the grammar. -/
inductive Cause where
  | endInList
  | endInObject
  | endInString
  | endInValue
  | colonExpected
  | listCommaExpected
  | objectCommaExpected
  | wordExpected
  | valueExpected
  | nameExpected
  | escapeInvalid
  | numberInvalid
  | numberOutOfRange
  | controlInString
  | loneSurrogate
  | secondSurrogateExpected
  | trailingComma
  | trailingCharacters
  | nestingTooDeep
deriving DecidableEq

/-- The wording of a cause. -/
def Cause.message : Cause → String
  | .endInList => "EOF while parsing a list"
  | .endInObject => "EOF while parsing an object"
  | .endInString => "EOF while parsing a string"
  | .endInValue => "EOF while parsing a value"
  | .colonExpected => "expected `:`"
  | .listCommaExpected => "expected `,` or `]`"
  | .objectCommaExpected => "expected `,` or `\x7d`"
  | .wordExpected => "expected ident"
  | .valueExpected => "expected value"
  | .nameExpected => "key must be a string"
  | .escapeInvalid => "invalid escape"
  | .numberInvalid => "invalid number"
  | .numberOutOfRange => "number out of range"
  | .controlInString => "control character (\\u0000-\\u001F) found while parsing a string"
  | .loneSurrogate => "lone leading surrogate in hex escape"
  | .secondSurrogateExpected => "unexpected end of hex escape"
  | .trailingComma => "trailing comma"
  | .trailingCharacters => "trailing characters"
  | .nestingTooDeep => "recursion limit exceeded"

/-- Why a text is refused. -/
inductive Refusal where
  /-- The text does not follow the grammar. -/
  | malformed (cause : Cause)
  /-- A value is not of the kind expected. -/
  | misshapen (found expected : String)
  /-- A field is given twice. -/
  | repeatedField (name : String)
  /-- A field that has to be there is not. -/
  | missingField (name : String)
  /-- The parts of a value do not make up what is expected. -/
  | incomplete (expected : String)
  /-- A value goes on after all that is expected. -/
  | overlong (expected : String)
deriving DecidableEq

/-- The wording of a refusal. -/
def Refusal.message : Refusal → String
  | .malformed cause => cause.message
  | .misshapen found expected => "invalid type: " ++ found ++ ", expected " ++ expected
  | .repeatedField name => "duplicate field `" ++ name ++ "`"
  | .missingField name => "missing field `" ++ name ++ "`"
  | .incomplete expected => "incomplete value, expected " ++ expected
  | .overlong expected => "value too long, expected " ++ expected

/-- A refusal and the number of bytes up to it, the refused byte included. -/
structure Fault where
  refusal : Refusal
  offset : Nat

/-- A refusal and its place: the line, counted from one, and the column, which is the number of
bytes on that line up to the refusal. -/
structure ReadError where
  refusal : Refusal
  line : Nat
  column : Nat
deriving DecidableEq

/-- The wording of a refusal with its place. -/
def ReadError.message (error : ReadError) : String :=
  error.refusal.message ++ " at line " ++ toString error.line ++ " column "
    ++ toString error.column

/-- The line and column reached after a number of bytes. -/
def place (line column : Nat) : Nat → List Char → Nat × Nat
  | _, [] => (line, column)
  | bytes, c :: rest =>
    if bytes = 0 then (line, column)
    else if c = '\n' then place (line + 1) 0 (bytes - 1) rest
    else place line (column + min bytes c.utf8Size) (bytes - c.utf8Size) rest

end Json

end EntityGraph
