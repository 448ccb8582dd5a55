import TextScan.Location
import TextScan.Pattern.Node
import TextScan.Text.Quoted

/-!
# What can be wrong with a pattern

A `Defect` is a breach of the rules of patterns, and `Defect.text` its wording. Reading a pattern
fails with a defect at a place in it, or for one of a few reasons that lie outside those rules
(`CompileError`).
-/

namespace TextScan

/-- A breach of the rules of patterns. -/
inductive Defect where
  /-- The pattern ends in a lone backslash. -/
  | danglingEscape
  /-- An escape that has no meaning. -/
  | badEscape (escape : Text)
  /-- An escape with too few digits. -/
  | incompleteEscape (escape : Text)
  /-- An octal escape above the greatest value. -/
  | octalTooLarge (escape : Text)
  /-- A character is to be named, and no name follows. -/
  | missingBrace
  /-- The name of a character is empty. -/
  | missingCharacterName
  /-- The name of a character is not known. -/
  | undefinedCharacter (name : Text)
  /-- A name is not closed. -/
  | unterminatedName (close : Char)
  /-- A bracket is not closed. -/
  | unterminatedSet
  /-- A range whose ends are out of order or no single characters. -/
  | badRange (lo hi : Text)
  /-- A quantifier that has nothing before it. -/
  | nothingToRepeat
  /-- A quantifier after a quantifier. -/
  | multipleRepeat
  /-- The bounds of a quantifier are out of order. -/
  | boundsReversed
  /-- The pattern ends inside the opening of a group. -/
  | unexpectedEnd
  /-- The opening of a group has no meaning. -/
  | unknownExtension (opening : Text)
  /-- The name of a group is empty. -/
  | missingGroupName
  /-- The name of a group is no identifier. -/
  | badGroupName (name : Text)
  /-- No group has this name. -/
  | unknownGroupName (name : Text)
  /-- Two groups have one name. -/
  | redefinedName (name : Text) (group earlier : Nat)
  /-- A condition on the group number zero. -/
  | badGroupNumber
  /-- No group has this number. -/
  | invalidReference (group : Nat)
  /-- A reference to a group from inside of it. -/
  | openReference
  /-- A reference to a group from inside the look-behind that defines it. -/
  | lookbehindReference
  /-- A comment is not closed. -/
  | unterminatedComment
  /-- A condition with three branches. -/
  | tooManyBranches
  /-- A group is not closed. -/
  | unterminatedGroup
  /-- A group is closed that was not opened. -/
  | unbalancedParenthesis
  /-- Flags for the whole pattern stand inside it. -/
  | misplacedFlags
  /-- A list of flags is not ended. -/
  | missingFlagEnd
  /-- No flag follows the minus sign. -/
  | missingFlag
  /-- A list of removed flags is not ended. -/
  | missingColon
  /-- A letter that is no flag. -/
  | unknownFlag
  /-- The locale flag in a pattern over characters. -/
  | localeLetter
  /-- Two flags that choose an alphabet. -/
  | alphabetsClash
  /-- An alphabet is to be removed. -/
  | alphabetRemoved
  /-- A flag is both added and removed. -/
  | flagAddedAndRemoved
  /-- A flag that only the whole pattern can have is added for a group. -/
  | globalFlagAdded
  /-- A flag that only the whole pattern can have is removed for a group. -/
  | globalFlagRemoved
  /-- A look-behind that can take different numbers of characters. -/
  | variableWidth
  /-- A look-behind that takes too many characters. -/
  | tooFarBehind
  /-- A repetition in a pattern that may have none. -/
  | repeatInTemplate (greed : Greed)
  deriving DecidableEq, Repr

/-- The wording of a defect. -/
def Defect.text : Defect → String
  | .danglingEscape => "bad escape (end of pattern)"
  | .badEscape e => "bad escape " ++ String.ofList e
  | .incompleteEscape e => "incomplete escape " ++ String.ofList e
  | .octalTooLarge e => "octal escape value " ++ String.ofList e ++ " outside of range 0-0o377"
  | .missingBrace => "missing \x7b"
  | .missingCharacterName => "missing character name"
  | .undefinedCharacter n => "undefined character name " ++ Quoted.text n
  | .unterminatedName c => "missing " ++ String.singleton c ++ ", unterminated name"
  | .unterminatedSet => "unterminated character set"
  | .badRange lo hi => "bad character range " ++ String.ofList lo ++ "-" ++ String.ofList hi
  | .nothingToRepeat => "nothing to repeat"
  | .multipleRepeat => "multiple repeat"
  | .boundsReversed => "min repeat greater than max repeat"
  | .unexpectedEnd => "unexpected end of pattern"
  | .unknownExtension e => "unknown extension " ++ String.ofList e
  | .missingGroupName => "missing group name"
  | .badGroupName n => "bad character in group name " ++ Quoted.text n
  | .unknownGroupName n => "unknown group name " ++ Quoted.text n
  | .redefinedName n new old =>
    s!"redefinition of group name {Quoted.text n} as group {new}; was group {old}"
  | .badGroupNumber => "bad group number"
  | .invalidReference n => s!"invalid group reference {n}"
  | .openReference => "cannot refer to an open group"
  | .lookbehindReference => "cannot refer to group defined in the same lookbehind subpattern"
  | .unterminatedComment => "missing ), unterminated comment"
  | .tooManyBranches => "conditional backref with more than two branches"
  | .unterminatedGroup => "missing ), unterminated subpattern"
  | .unbalancedParenthesis => "unbalanced parenthesis"
  | .misplacedFlags => "global flags not at the start of the expression"
  | .missingFlagEnd => "missing -, : or )"
  | .missingFlag => "missing flag"
  | .missingColon => "missing :"
  | .unknownFlag => "unknown flag"
  | .localeLetter => "bad inline flags: cannot use 'L' flag with a str pattern"
  | .alphabetsClash => "bad inline flags: flags 'a', 'u' and 'L' are incompatible"
  | .alphabetRemoved => "bad inline flags: cannot turn off flags 'a', 'u' and 'L'"
  | .flagAddedAndRemoved => "bad inline flags: flag turned on and off"
  | .globalFlagAdded => "bad inline flags: cannot turn on global flag"
  | .globalFlagRemoved => "bad inline flags: cannot turn off global flag"
  | .variableWidth => "look-behind requires fixed-width pattern"
  | .tooFarBehind => "looks too much behind"
  | .repeatInTemplate .greedy => "internal: unsupported template operator MAX_REPEAT"
  | .repeatInTemplate .lazy => "internal: unsupported template operator MIN_REPEAT"
  | .repeatInTemplate .possessive => "internal: unsupported template operator POSSESSIVE_REPEAT"

/-- Why a pattern could not be compiled. -/
inductive CompileError where
  /-- The pattern breaks a rule, at a place in it if one is known. -/
  | malformed (defect : Defect) (pos : Option Nat)
  /-- A bound of a quantifier is too large. -/
  | repetitionTooLarge
  /-- A bound of a quantifier has too many digits to be read. -/
  | tooManyDigits (count : Nat)
  /-- The locale flag was given. -/
  | localeFlag
  /-- The flags for ASCII and for all scripts were both given. -/
  | alphabetConflict
  /-- The mask of flags does not fit into a machine word. -/
  | flagsTooLarge
  deriving DecidableEq, Repr

/-- The wording of a defect at a place in a pattern. The line and column are added when the pattern
has several lines. -/
def Defect.report (source : Text) (d : Defect) : Option Nat → String
  | none => d.text
  | some p =>
    let l := Location.ofOffset source p
    let place := if source.contains '\n' then s!" (line {l.line}, column {l.column})" else ""
    d.text ++ s!" at position {p}" ++ place

/-- What compiling a pattern, or a part of it, gives. -/
abbrev Compiled := Except CompileError

/-- Failure with a defect at a place. -/
def malformedAt {α : Type} (d : Defect) (p : Nat) : Compiled α :=
  .error (.malformed d (some p))

end TextScan
