import GraphBrowser.Decimal.Text
import GraphBrowser.Text.Quoted

set_option autoImplicit false

namespace GraphBrowser

inductive Found where
  | null
  | boolean (b : Bool)
  | integer (n : Int)
  | fractional (x : Float)
  | text (s : String)
  | sequence
  | map

inductive Wanted where
  | fragment
  | node
  | link
  | links
  | text
deriving DecidableEq

inductive DecodeError where
  | endInValue
  | endInList
  | endInObject
  | endInString
  | expectedValue
  | expectedIdent
  | expectedColon
  | expectedCommaInList
  | expectedCommaInObject
  | keyMustBeString
  | trailingComma
  | trailingCharacters
  | invalidNumber
  | numberOutOfRange
  | invalidEscape
  | controlCharacter
  | loneSurrogate
  | unexpectedEndOfHex
  | wrongType (found : Found) (wanted : Wanted)
  | duplicateField (key : String)
  | missingField (key : String)
  -- A record written as an array ended after `count` of its fields.
  | tooFewFields (count : Nat) (record : Wanted) (fields : Nat)

def Found.describe : Found → String
  | .null => "null"
  | .boolean b => "boolean `" ++ toString b ++ "`"
  | .integer n => "integer `" ++ toString n ++ "`"
  | .fractional x => "floating point `" ++ NumberFormat.fractional.write x ++ "`"
  | .text s => "string " ++ Text.quoted s
  | .sequence => "sequence"
  | .map => "map"

def Wanted.describe : Wanted → String
  | .fragment => "struct Fragment"
  | .node => "struct NodeSummary"
  | .link => "struct LinkTriple"
  | .links => "a sequence"
  | .text => "a string"

def DecodeError.message : DecodeError → String
  | .endInValue => "EOF while parsing a value"
  | .endInList => "EOF while parsing a list"
  | .endInObject => "EOF while parsing an object"
  | .endInString => "EOF while parsing a string"
  | .expectedValue => "expected value"
  | .expectedIdent => "expected ident"
  | .expectedColon => "expected `:`"
  | .expectedCommaInList => "expected `,` or `]`"
  | .expectedCommaInObject => "expected `,` or `\x7d`"
  | .keyMustBeString => "key must be a string"
  | .trailingComma => "trailing comma"
  | .trailingCharacters => "trailing characters"
  | .invalidNumber => "invalid number"
  | .numberOutOfRange => "number out of range"
  | .invalidEscape => "invalid escape"
  | .controlCharacter => "control character (\\u0000-\\u001F) found while parsing a string"
  | .loneSurrogate => "lone leading surrogate in hex escape"
  | .unexpectedEndOfHex => "unexpected end of hex escape"
  | .wrongType found wanted =>
      "invalid type: " ++ found.describe ++ ", expected " ++ wanted.describe
  | .duplicateField key => "duplicate field `" ++ key ++ "`"
  | .missingField key => "missing field `" ++ key ++ "`"
  | .tooFewFields count record fields =>
      "invalid length " ++ toString count ++ ", expected " ++ record.describe ++ " with " ++
        toString fields ++ " elements"

end GraphBrowser
