import FilterTemplate.Regex.Error
import FilterTemplate.Text.Numeral

/-!
# What is wrong with a template

A fault has a cause, the fragment of the template that it is about, and the span where that stands.
A few numbers and flags are refused by what reads them and have no place in the template; those are
kept apart.
-/

namespace FilterTemplate

/-- The numbers of a substring filter. -/
inductive Quantity
  | index | length
  deriving DecidableEq, Repr

inductive Cause
  /- of the template's structure -/
  | danglingEscape
  | nestedChain
  | unmatched (delimiter : Char)
  | emptyFilter
  | unknownFilter (symbol : Char)
  /- of a filter's arguments -/
  | trailingText (symbol : Char)
  | badRange
  | zero (quantity : Quantity)
  | missingLength
  | negativeLength
  | missingIndex
  | emptyMask
  | missingCount (symbol : Char)
  | zeroCount
  | missingCountDelimiter
  | missingDelimiter (symbol : Char)
  | emptyTarget
  | missingPattern
  | badPattern (error : Regex.Error)
  | badReplacement (error : Regex.Error)
  deriving DecidableEq, Repr

def Quantity.name : Quantity → Text
  | .index => "Index".toList
  | .length => "Length".toList

/-- A character between quotes, as messages show it. -/
def shown (c : Char) : Text := [Text.singleQuote, c, Text.singleQuote]

def Cause.message : Cause → Text
  | .danglingEscape => "Expected a character after escape".toList
  | .nestedChain => "Filter chains cannot be nested".toList
  | .unmatched delimiter => "Unmatched ".toList ++ shown delimiter
  | .emptyFilter => "Expected a filter".toList
  | .unknownFilter symbol => "Unknown filter ".toList ++ shown symbol
  | .trailingText symbol => "Unexpected characters after filter ".toList ++ shown symbol
  | .badRange => "Invalid substring range, expected #A, #A-B, #A+L or #A-".toList
  | .zero quantity => quantity.name ++ " must not be zero".toList
  | .missingLength => "Expected a length after '+'".toList
  | .negativeLength => "Length must be positive".toList
  | .missingIndex => "Expected an index after '-'".toList
  | .emptyMask => "Padding mask must not be empty".toList
  | .missingCount symbol =>
    "Expected ".toList ++ shown symbol ++ " or a count after ".toList ++ shown symbol
  | .zeroCount => "Padding count must be positive".toList
  | .missingCountDelimiter => "Expected a delimiter after padding count".toList
  | .missingDelimiter symbol => "Expected a delimiter after filter ".toList ++ shown symbol
  | .emptyTarget => "Substitution target must not be empty".toList
  | .missingPattern => "Expected a regular expression after '='".toList
  | .badPattern error => "Invalid regular expression: ".toList ++ error.message
  | .badReplacement error => "Invalid replacement: ".toList ++ error.message

structure Fault where
  cause : Cause
  fragment : Text
  start : Nat
  stop : Nat
  deriving DecidableEq, Repr

/-- What is refused without a place. -/
inductive Refusal
  | numeralTooLong (numeral : Numeral.TooLong)
  | repetitionTooLarge
  | contradictoryFlags
  deriving DecidableEq, Repr

def Refusal.message : Refusal → Text
  | .numeralTooLong numeral => numeral.message
  | .repetitionTooLarge => Regex.Failure.message .repetitionTooLarge
  | .contradictoryFlags => Regex.Failure.message .contradictoryFlags

/-- Why a template cannot be read. -/
inductive Failure
  | fault (fault : Fault)
  | refused (refusal : Refusal)
  deriving DecidableEq, Repr

end FilterTemplate
