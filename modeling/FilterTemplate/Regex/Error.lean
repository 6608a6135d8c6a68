import FilterTemplate.Text.Numeral
import FilterTemplate.Text.Quoted

/-!
# What is wrong with a pattern or a replacement

Every cause carries what its message shows of the text. Three causes are no faults of form: a bound
of a repetition, or a numeral in one, that is too large to be read, and flags that contradict each
other over the whole pattern. They are kept apart as `Failure`s that have no message of the
pattern's own.
-/

namespace FilterTemplate.Regex

inductive Error
  | danglingEscape
  | badEscape (escape : Text)
  | incompleteEscape (escape : Text)
  | octalTooLarge (escape : Text)
  | missingBrace
  | missingAngle
  | missingName (what : Text)
  | unterminatedName (terminator : Char)
  | undefinedCharacterName (name : Text)
  | badGroupName (name : Text)
  | unknownGroupName (name : Text)
  | duplicateGroupName (name : Text) (index earlier : Nat)
  | badGroupNumber
  | invalidReference (group : Nat)
  | openGroupReference
  | lookBehindReference
  | unterminatedSet
  | badRange (first last : Text)
  | minimumAboveMaximum
  | nothingToRepeat
  | multipleRepeat
  | unexpectedEnd
  | unknownExtension (shown : Text)
  | unterminatedComment
  | unterminatedGroup
  | unbalancedParenthesis
  | tooManyBranches
  | globalFlagsInside
  | localeFlag
  | incompatibleFlags
  | unknownFlag
  | missingFlagOrEnd
  | missingFlag
  | missingColon
  | globalFlagScoped
  | typeFlagRemoved
  | globalFlagRemoved
  | flagAddedAndRemoved
  | variableWidthBehind
  | repetitionInTemplate (operator : Text)
  deriving DecidableEq, Repr

/-- Why a pattern cannot be read. -/
inductive Failure
  | malformed (error : Error)
  | repetitionTooLarge
  | numeralTooLong (numeral : Numeral.TooLong)
  | contradictoryFlags
  deriving DecidableEq, Repr

instance : Coe Error Failure := ⟨.malformed⟩

def Error.message : Error → Text
  | .danglingEscape => "bad escape (end of pattern)".toList
  | .badEscape escape => "bad escape ".toList ++ escape
  | .incompleteEscape escape => "incomplete escape ".toList ++ escape
  | .octalTooLarge escape =>
    "octal escape value ".toList ++ escape ++ " outside of range 0-0o377".toList
  | .missingBrace => "missing \x7b".toList
  | .missingAngle => "missing <".toList
  | .missingName what => "missing ".toList ++ what
  | .unterminatedName terminator =>
    "missing ".toList ++ [terminator] ++ ", unterminated name".toList
  | .undefinedCharacterName name => "undefined character name ".toList ++ Text.quoted name
  | .badGroupName name => "bad character in group name ".toList ++ Text.quoted name
  | .unknownGroupName name => "unknown group name ".toList ++ Text.quoted name
  | .duplicateGroupName name index earlier =>
    "redefinition of group name ".toList ++ Text.quoted name ++ " as group ".toList ++
      Numeral.write index ++ "; was group ".toList ++ Numeral.write earlier
  | .badGroupNumber => "bad group number".toList
  | .invalidReference group => "invalid group reference ".toList ++ Numeral.write group
  | .openGroupReference => "cannot refer to an open group".toList
  | .lookBehindReference =>
    "cannot refer to group defined in the same lookbehind subpattern".toList
  | .unterminatedSet => "unterminated character set".toList
  | .badRange first last => "bad character range ".toList ++ first ++ ['-'] ++ last
  | .minimumAboveMaximum => "min repeat greater than max repeat".toList
  | .nothingToRepeat => "nothing to repeat".toList
  | .multipleRepeat => "multiple repeat".toList
  | .unexpectedEnd => "unexpected end of pattern".toList
  | .unknownExtension shown => "unknown extension ?".toList ++ shown
  | .unterminatedComment => "missing ), unterminated comment".toList
  | .unterminatedGroup => "missing ), unterminated subpattern".toList
  | .unbalancedParenthesis => "unbalanced parenthesis".toList
  | .tooManyBranches => "conditional backref with more than two branches".toList
  | .globalFlagsInside => "global flags not at the start of the expression".toList
  | .localeFlag => "bad inline flags: cannot use 'L' flag with a str pattern".toList
  | .incompatibleFlags => "bad inline flags: flags 'a', 'u' and 'L' are incompatible".toList
  | .unknownFlag => "unknown flag".toList
  | .missingFlagOrEnd => "missing -, : or )".toList
  | .missingFlag => "missing flag".toList
  | .missingColon => "missing :".toList
  | .globalFlagScoped => "bad inline flags: cannot turn on global flag".toList
  | .typeFlagRemoved => "bad inline flags: cannot turn off flags 'a', 'u' and 'L'".toList
  | .globalFlagRemoved => "bad inline flags: cannot turn off global flag".toList
  | .flagAddedAndRemoved => "bad inline flags: flag turned on and off".toList
  | .variableWidthBehind => "look-behind requires fixed-width pattern".toList
  | .repetitionInTemplate operator =>
    "internal: unsupported template operator ".toList ++ operator

/-- The message of a failure, where the pattern is malformed that of its error. -/
def Failure.message : Failure → Text
  | .malformed error => error.message
  | .repetitionTooLarge => "the repetition number is too large".toList
  | .numeralTooLong numeral => numeral.message
  | .contradictoryFlags => "ASCII and UNICODE flags are incompatible".toList

end FilterTemplate.Regex
