import ConsoleNav.Decimal.Layout
import ConsoleNav.Text.Quoted

/-!
What can be wrong with a JSON text that is read as a value of some type, where in the value, and the
message for it.
-/
namespace ConsoleNav.Json

inductive Found where
  | null
  | bool (b : Bool)
  | int (n : Int)
  | float (x : Float)
  | string (s : String)
  | list
  | object

def Found.describe : Found → String
  | .null => "null"
  | .bool b => "boolean `" ++ (if b then "true" else "false") ++ "`"
  | .int n => "integer `" ++ toString n ++ "`"
  | .float x => "floating point `" ++ Decimal.floatText x ++ "`"
  | .string s => "string " ++ Text.quoted s
  | .list => "sequence"
  | .object => "map"

/-- What is wrong. The first group is a text that ends too early, the second a text that is not JSON,
the third a JSON text that is no value of the type. -/
inductive Cause where
  | endInList
  | endInObject
  | endInString
  | endInValue
  | expectedColon
  | expectedCommaInList
  | expectedCommaInObject
  | expectedWord
  | expectedValue
  | badEscape
  | badNumber
  | numberOutOfRange
  | controlCharacter
  | keyNotString
  | loneSurrogate
  | unfinishedSurrogate
  | notUnicode
  | trailingComma
  | trailingCharacters
  | tooDeep
  | wrongType (found : Found) (expected : String)
  | wrongValue (found : Found) (expected : String)
  | wrongLength (length : Nat) (expected : String)
  | missingField (name : String)
  | repeatedField (name : String)
  | unknownVariant (found : String) (known : List String)
  | refused (reason : String)

inductive Category where
  | ending
  | form
  | data
deriving DecidableEq

def Cause.category : Cause → Category
  | .endInList | .endInObject | .endInString | .endInValue => .ending
  | .wrongType .. | .wrongValue .. | .wrongLength .. | .missingField _ | .repeatedField _
  | .unknownVariant .. | .refused _ => .data
  | _ => .form

def listVariants (known : List String) : String :=
  let quote (s : String) : String := "`" ++ s ++ "`"
  match known with
  | [a] => quote a
  | [a, b] => quote a ++ " or " ++ quote b
  | _ => "one of " ++ ", ".intercalate (known.map quote)

def Cause.message : Cause → String
  | .endInList => "EOF while parsing a list"
  | .endInObject => "EOF while parsing an object"
  | .endInString => "EOF while parsing a string"
  | .endInValue => "EOF while parsing a value"
  | .expectedColon => "expected `:`"
  | .expectedCommaInList => "expected `,` or `]`"
  | .expectedCommaInObject => "expected `,` or `\x7d`"
  | .expectedWord => "expected ident"
  | .expectedValue => "expected value"
  | .badEscape => "invalid escape"
  | .badNumber => "invalid number"
  | .numberOutOfRange => "number out of range"
  | .controlCharacter => "control character (\\u0000-\\u001F) found while parsing a string"
  | .keyNotString => "key must be a string"
  | .loneSurrogate => "lone leading surrogate in hex escape"
  | .unfinishedSurrogate => "unexpected end of hex escape"
  | .notUnicode => "invalid unicode code point"
  | .trailingComma => "trailing comma"
  | .trailingCharacters => "trailing characters"
  | .tooDeep => "recursion limit exceeded"
  | .wrongType found expected => "invalid type: " ++ found.describe ++ ", expected " ++ expected
  | .wrongValue found expected => "invalid value: " ++ found.describe ++ ", expected " ++ expected
  | .wrongLength n expected => "invalid length " ++ toString n ++ ", expected " ++ expected
  | .missingField name => "missing field `" ++ name ++ "`"
  | .repeatedField name => "duplicate field `" ++ name ++ "`"
  | .unknownVariant found known =>
    "unknown variant `" ++ found ++ "`, expected " ++ listVariants known
  | .refused reason => reason

inductive Step where
  | index (i : Nat)
  | key (name : String)
  | unknown

/-- Something wrong at a place in the value, given from the outside inwards. -/
structure Fault where
  path : List Step
  cause : Cause

def Fault.at (step : Step) (f : Fault) : Fault :=
  { f with path := step :: f.path }

def pathText : List Step → Bool → String
  | [], _ => ""
  | .index i :: steps, _ => "[" ++ toString i ++ "]" ++ pathText steps true
  | .key name :: steps, dotted => (if dotted then "." else "") ++ name ++ pathText steps true
  | .unknown :: steps, dotted => (if dotted then "." else "") ++ "?" ++ pathText steps true

def Step.isUnknown : Step → Bool
  | .unknown => true
  | _ => false

/-- The message with the place before it. A place of unknown steps only is left out. -/
def Fault.messageWithPath (f : Fault) : String :=
  if f.path.all Step.isUnknown then f.cause.message
  else pathText f.path false ++ ": " ++ f.cause.message

end ConsoleNav.Json
