import TextTable.Number.Digits
import TextTable.Value.Printer

/-! # Format errors

Why a value could not be formatted. An error is a cause, and `FormatError.message` gives its
wording.
-/

namespace TextTable

/-- What separates the groups of digits in a number. -/
inductive Grouping where
  | comma
  | underscore
  deriving DecidableEq, Repr

def Grouping.char : Grouping → Char
  | .comma => ','
  | .underscore => '_'

def Grouping.ofChar? : Char → Option Grouping
  | ',' => some .comma
  | '_' => some .underscore
  | _ => none

/-- What is wrong with a format spec or a template. -/
inductive SpecFault where
  | missingPrecision
  | trailingText
  | integerPrecision
  | radixGrouping (separator : Grouping) (code : Char)
  | characterRange (n : Int)
  | textSign
  | textAlternate
  | textGrouping
  | textAfterSign
  | closingBrace
  | openingBrace
  | nestedField
  | unmatchedBracket
  | manualToAutomatic
  | automaticToManual
  | missingBracket
  | afterBracket
  | unknownConversion (code : Char)
  | incompleteKey
  | incompleteConversion
  | unsupportedConversion (code : Char)
  | placeholder (offset : Nat)
  | choice
  deriving DecidableEq

def SpecFault.message : SpecFault → Text
  | .missingPrecision => "format specifier missing precision".toList
  | .trailingText => "invalid format specifier".toList
  | .integerPrecision => "precision not allowed in integer format specifier".toList
  | .radixGrouping separator code =>
    "cannot specify '".toList ++ separator.char :: "' with '".toList ++ [code, '\'']
  | .characterRange n => "%c arg not in range: ".toList ++ intText n
  | .textSign => "sign not allowed in string format specifier".toList
  | .textAlternate => "alternate form (#) not allowed in string format specifier".toList
  | .textGrouping => "cannot specify grouping with strings".toList
  | .textAfterSign => "'=' alignment not allowed in string format specifier".toList
  | .closingBrace => "single '\x7d' encountered".toList
  | .openingBrace => "single '\x7b' encountered".toList
  | .nestedField => "nested replacement fields are not supported".toList
  | .unmatchedBracket => "unmatched '[' in field".toList
  | .manualToAutomatic => "cannot switch from manual to automatic field numbering".toList
  | .automaticToManual => "cannot switch from automatic to manual field numbering".toList
  | .missingBracket => "missing ']' in field".toList
  | .afterBracket => "only '.' or '[' may follow ']' in a field".toList
  | .unknownConversion code => "unknown conversion specifier ".toList ++ [code]
  | .incompleteKey => "incomplete format key".toList
  | .incompleteConversion => "incomplete format".toList
  | .unsupportedConversion code => "unsupported format character '".toList ++ [code, '\'']
  | .placeholder offset => "invalid placeholder at offset ".toList ++ Nat.toDigits 10 offset
  | .choice => "expected 'true_text,false_text'".toList

/-- How the arguments fail to match a template. -/
inductive ArgumentFault where
  | mappingRequired
  | tooFew
  | tooMany
  deriving DecidableEq, Repr

def ArgumentFault.message : ArgumentFault → Text
  | .mappingRequired => "format requires a mapping".toList
  | .tooFew => "not enough arguments for format string".toList
  | .tooMany => "not all arguments converted during string formatting".toList

/-- Why a value could not be formatted. -/
inductive FormatError where
  /-- The spec or template is faulty. The text is empty where only a part of it is at hand. -/
  | invalidSpec (spec : Text) (fault : SpecFault)
  /-- The type code does not apply to values of this type. -/
  | typeMismatch (code : Char) (type : ValueType)
  | missingKey (key : Text)
  /-- No item or argument has this index. -/
  | index (i : Nat)
  /-- A number was needed. -/
  | notNumeric (type : ValueType)
  | arguments (fault : ArgumentFault)
  /-- An error of a user function, with its own wording. -/
  | custom (text : Text)
  deriving DecidableEq

namespace FormatError

def message : FormatError → Text
  | .invalidSpec spec fault =>
    "invalid format spec '".toList ++ spec ++ "': ".toList ++ fault.message
  | .typeMismatch code type =>
    "format code '".toList ++ code :: "' is not valid for ".toList ++ type.name ++
      " values".toList
  | .missingKey key => "missing key '".toList ++ key ++ ['\'']
  | .index i => "index ".toList ++ Nat.toDigits 10 i ++ " out of range".toList
  | .notNumeric type => "expected a number, got ".toList ++ type.name
  | .arguments fault => fault.message
  | .custom text => text

/-- The error with the text of the whole spec, where it has none yet. -/
def withSpec (spec : Text) : FormatError → FormatError
  | .invalidSpec [] fault => .invalidSpec spec fault
  | e => e

end FormatError

end TextTable
