import Tunnel.Number.Shortest
import Tunnel.Text.Quoted

/-!
# Faults of a JSON text

Why a JSON text cannot be read. It may end too early, it may break the grammar, or it may be
well-formed and hold something that is not wanted where it stands. The first fault from left to
right is the one reported.

## Main definitions

* `Json.Found` — what stands where something else is wanted
* `Json.Mismatch` — why a well-formed value is not wanted
* `Json.Fault` — why a text cannot be read
* `Json.Fault.category` — which of the three kinds a fault is of
* `Json.Fault.text` — its wording
-/

namespace Tunnel.Json

/-- What stands where something else is wanted. -/
inductive Found
  | null
  | boolean (value : Bool)
  | integer (value : Int)
  /-- A magnitude in binary floating point, with its sign. -/
  | floating (negative : Bool) (magnitude : Binary64)
  | string (value : String)
  | sequence
  | map
deriving DecidableEq, Repr

/-- The wording of what was found. -/
def Found.text : Found → String
  | null => "null"
  | boolean value => "boolean `" ++ (if value then "true" else "false") ++ "`"
  | integer value => "integer `" ++ toString value ++ "`"
  | floating negative magnitude =>
    "floating point `" ++ (if negative then "-" else "") ++ String.ofList magnitude.render ++ "`"
  | string value => "string " ++ Text.quote value
  | sequence => "sequence"
  | map => "map"

/-- Why a well-formed value is not wanted where it stands. -/
inductive Mismatch
  | wrongType (found : Found) (expected : String)
  | unknownVariant (found : String) (expected : List String)
  | duplicateField (name : String)
  /-- The value has the right type and says something that is refused. -/
  | refused (reason : String)
deriving DecidableEq, Repr

/-- The wording of a mismatch. -/
def Mismatch.text : Mismatch → String
  | wrongType found expected => "invalid type: " ++ found.text ++ ", expected " ++ expected
  | unknownVariant found expected =>
    "unknown variant `" ++ found ++ "`, expected one of " ++
      String.intercalate ", " (expected.map fun name => "`" ++ name ++ "`")
  | duplicateField name => "duplicate field `" ++ name ++ "`"
  | refused reason => reason

/-- Why a text cannot be read. -/
inductive Fault
  | endInList
  | endInObject
  | endInString
  | endInValue
  | expectedColon
  | expectedListCommaOrEnd
  | expectedObjectCommaOrEnd
  | expectedIdentifier
  | expectedValue
  | invalidEscape
  | invalidNumber
  | numberOutOfRange
  | controlCharacter
  | keyMustBeString
  | loneSurrogate
  | endOfHexEscape
  | trailingComma
  | trailingCharacters
  | mismatch (cause : Mismatch)
deriving DecidableEq, Repr

/-- The kinds of fault. -/
inductive Category
  | truncated
  | malformed
  | data
deriving DecidableEq, Repr

namespace Fault

/-- The kind of a fault. -/
def category : Fault → Category
  | endInList | endInObject | endInString | endInValue => .truncated
  | mismatch _ => .data
  | _ => .malformed

/-- The wording of a fault. -/
def text : Fault → String
  | endInList => "EOF while parsing a list"
  | endInObject => "EOF while parsing an object"
  | endInString => "EOF while parsing a string"
  | endInValue => "EOF while parsing a value"
  | expectedColon => "expected `:`"
  | expectedListCommaOrEnd => "expected `,` or `]`"
  | expectedObjectCommaOrEnd => "expected `,` or `\x7d`"
  | expectedIdentifier => "expected ident"
  | expectedValue => "expected value"
  | invalidEscape => "invalid escape"
  | invalidNumber => "invalid number"
  | numberOutOfRange => "number out of range"
  | controlCharacter => "control character (\\u0000-\\u001F) found while parsing a string"
  | keyMustBeString => "key must be a string"
  | loneSurrogate => "lone leading surrogate in hex escape"
  | endOfHexEscape => "unexpected end of hex escape"
  | trailingComma => "trailing comma"
  | trailingCharacters => "trailing characters"
  | mismatch cause => cause.text

end Fault

end Tunnel.Json
