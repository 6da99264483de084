import SourceAtlas.Limits
import SourceAtlas.Text.Printable

/-!
# What can be wrong with a pattern

A pattern text is refused for a reason, and most reasons come with the place where reading stopped.
The wording of every reason is in `Reason.message`; `Fault.message` adds the place, and the line and
column too if the pattern has more than one line.

Four kinds of fault are not mistakes of notation: a repetition bound beyond what a matcher can count
(`Fault.countTooLarge`) or with more digits than are read (`Fault.countTooLong`), a contradiction
between flags (`Fault.flagsContradict`), and groups nested too deep (`Fault.tooDeep`). They are kept
apart because callers treat them differently.
-/

namespace SourceAtlas.Regex

/-- Reasons to refuse a pattern, with the text they quote. -/
inductive Reason where
  | badEscapeAtEnd
  | missing (what : String)
  | unterminatedName (terminator : Char)
  | badNameCharacter (name : List Char)
  | incompleteEscape (escape : List Char)
  | badEscape (escape : List Char)
  | undefinedCharacterName (name : List Char)
  | octalTooLarge (escape : List Char)
  | openGroup
  | groupInSameLookbehind
  | invalidGroupReference (index : Nat)
  | unterminatedSet
  | badRange (low high : List Char)
  | boundsReversed
  | nothingToRepeat
  | multipleRepeat
  | unexpectedEnd
  | unknownGroupName (name : List Char)
  | unknownExtension (text : List Char)
  | unterminatedComment
  | unterminatedGroup
  | badGroupNumber
  | tooManyBranches
  | flagsNotAtStart
  | groupRedefined (name : List Char) (index earlier : Nat)
  | unbalancedParenthesis
  | unknownFlag
  | localeFlag
  | exclusiveFlags
  | flagNotSwitchable
  | globalFlagOn
  | globalFlagOff
  | flagOnAndOff
  deriving DecidableEq, Repr

/-- **The wording of a reason.** -/
def Reason.message : Reason → String
  | .badEscapeAtEnd => "bad escape (end of pattern)"
  | .missing what => "missing " ++ what
  | .unterminatedName t => "missing " ++ t.toString ++ ", unterminated name"
  | .badNameCharacter name => "bad character in group name " ++ String.ofList (Text.quoted name)
  | .incompleteEscape e => "incomplete escape " ++ String.ofList e
  | .badEscape e => "bad escape " ++ String.ofList e
  | .undefinedCharacterName name =>
    "undefined character name " ++ String.ofList (Text.quoted name)
  | .octalTooLarge e =>
    "octal escape value " ++ String.ofList e ++ " outside of range 0-0o377"
  | .openGroup => "cannot refer to an open group"
  | .groupInSameLookbehind =>
    "cannot refer to group defined in the same lookbehind subpattern"
  | .invalidGroupReference index => "invalid group reference " ++ toString index
  | .unterminatedSet => "unterminated character set"
  | .badRange low high =>
    "bad character range " ++ String.ofList low ++ "-" ++ String.ofList high
  | .boundsReversed => "min repeat greater than max repeat"
  | .nothingToRepeat => "nothing to repeat"
  | .multipleRepeat => "multiple repeat"
  | .unexpectedEnd => "unexpected end of pattern"
  | .unknownGroupName name => "unknown group name " ++ String.ofList (Text.quoted name)
  | .unknownExtension text => "unknown extension ?" ++ String.ofList text
  | .unterminatedComment => "missing ), unterminated comment"
  | .unterminatedGroup => "missing ), unterminated subpattern"
  | .badGroupNumber => "bad group number"
  | .tooManyBranches => "conditional backref with more than two branches"
  | .flagsNotAtStart => "global flags not at the start of the expression"
  | .groupRedefined name index earlier =>
    "redefinition of group name " ++ String.ofList (Text.quoted name) ++ " as group " ++
      toString index ++ "; was group " ++ toString earlier
  | .unbalancedParenthesis => "unbalanced parenthesis"
  | .unknownFlag => "unknown flag"
  | .localeFlag => "bad inline flags: cannot use 'L' flag with a str pattern"
  | .exclusiveFlags => "bad inline flags: flags 'a', 'u' and 'L' are incompatible"
  | .flagNotSwitchable => "bad inline flags: cannot turn off flags 'a', 'u' and 'L'"
  | .globalFlagOn => "bad inline flags: cannot turn on global flag"
  | .globalFlagOff => "bad inline flags: cannot turn off global flag"
  | .flagOnAndOff => "bad inline flags: flag turned on and off"

/-- **Faults of a pattern.** -/
inductive Fault where
  /-- A reason and the offset it was found at. -/
  | at (reason : Reason) (pos : Nat)
  /-- A look-behind whose width is not fixed. -/
  | lookbehindWidth
  /-- A look-behind too wide to step back over. -/
  | lookbehindTooFar
  /-- A repetition under the flag that forbids them. -/
  | repetitionForbidden (kind : String)
  /-- A repetition bound too large to count. -/
  | countTooLarge
  /-- A repetition bound with more digits than are read. -/
  | countTooLong (digits : Nat)
  /-- The flags for the two alphabets at once. -/
  | flagsContradict
  /-- Groups nested deeper than they can be read. -/
  | tooDeep
  deriving DecidableEq, Repr

/-- Number of newlines in a text. -/
def countLines (cs : List Char) : Nat :=
  cs.count '\n'

/-- Number of characters behind the last newline, and one more. -/
def columnOf (cs : List Char) : Nat :=
  (cs.reverse.takeWhile (· ≠ '\n')).length + 1

/-- **The wording of a fault** in a given pattern. -/
def Fault.message (pattern : List Char) : Fault → String
  | .at reason pos =>
    let place := reason.message ++ " at position " ++ toString pos
    if pattern.contains '\n' then
      let read := pattern.take pos
      place ++ " (line " ++ toString (countLines read + 1) ++ ", column " ++
        toString (columnOf read) ++ ")"
    else place
  | .lookbehindWidth => "look-behind requires fixed-width pattern"
  | .lookbehindTooFar => "looks too much behind"
  | .repetitionForbidden kind => "internal: unsupported template operator " ++ kind
  | .countTooLarge => "the repetition number is too large"
  | .countTooLong digits => tooManyDigits digits
  | .flagsContradict => "ASCII and UNICODE flags are incompatible"
  | .tooDeep => SourceAtlas.tooDeep

end SourceAtlas.Regex
