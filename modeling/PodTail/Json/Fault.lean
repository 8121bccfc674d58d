/-!
# Faults in a JSON text

Why a text is no document of the wanted shape, and where: lines count from one, columns count the
bytes since the last line break.
-/

set_option autoImplicit false

namespace PodTail

namespace Json

/-- What is wrong at a place of a text. -/
inductive Problem where
  | endInValue
  | endInText
  | endInList
  | endInObject
  | colonMissing
  | listNotContinued
  | objectNotContinued
  | wordMisspelt
  | valueMissing
  | badEscape
  | badNumber
  | numberTooLarge
  | badCodePoint
  | bareControl
  | keyNotText
  | loneSurrogate
  | trailingComma
  | trailingText
  | hexEscapeCut
  | tooDeep
  /-- A value of another type than the one wanted. -/
  | wrongType (found wanted : String)
  /-- A value of the right type that is not one of those wanted. -/
  | wrongValue (found wanted : String)
  | memberMissing (key : String)
  | memberRepeated (key : String)
  /-- A text refused by a rule of its own, in the words of that rule. -/
  | refused (words : String)
  deriving DecidableEq, Repr

/-- The words for a problem. -/
def Problem.message : Problem → String
  | .endInValue => "EOF while parsing a value"
  | .endInText => "EOF while parsing a string"
  | .endInList => "EOF while parsing a list"
  | .endInObject => "EOF while parsing an object"
  | .colonMissing => "expected `:`"
  | .listNotContinued => "expected `,` or `]`"
  | .objectNotContinued => "expected `,` or `\x7d`"
  | .wordMisspelt => "expected ident"
  | .valueMissing => "expected value"
  | .badEscape => "invalid escape"
  | .badNumber => "invalid number"
  | .numberTooLarge => "number out of range"
  | .badCodePoint => "invalid unicode code point"
  | .bareControl => "control character (\\u0000-\\u001F) found while parsing a string"
  | .keyNotText => "key must be a string"
  | .loneSurrogate => "lone leading surrogate in hex escape"
  | .trailingComma => "trailing comma"
  | .trailingText => "trailing characters"
  | .hexEscapeCut => "unexpected end of hex escape"
  | .tooDeep => "recursion limit exceeded"
  | .wrongType found wanted => "invalid type: " ++ found ++ ", expected " ++ wanted
  | .wrongValue found wanted => "invalid value: " ++ found ++ ", expected " ++ wanted
  | .memberMissing key => "missing field `" ++ key ++ "`"
  | .memberRepeated key => "duplicate field `" ++ key ++ "`"
  | .refused words => words

/-- A problem and its place. -/
structure Fault where
  problem : Problem
  line : Nat
  column : Nat
  deriving DecidableEq, Repr

/-- The words for a fault. -/
def Fault.message (f : Fault) : String :=
  f.problem.message ++ " at line " ++ toString f.line ++ " column " ++ toString f.column

end Json

end PodTail
