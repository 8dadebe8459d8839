/-!
# Breakdowns

Most faults of settings are errors that are reported or passed over. A few are not expected by any
part of the program: a number that cannot be computed, a date that does not exist, a text too long
to be held, a style that no table lists. Such a breakdown ends the whole run.

## Main definitions

* `Breakdown`: the causes of breakdowns
* `Rejection`: why a text in some notation cannot be read
-/

namespace ImportOrder

/-- **The cause of a breakdown.** -/
inductive Breakdown where
  /-- A text that should write a number does not write one. -/
  | badNumber
  /-- Nothing is written where a number should be. -/
  | missingNumber
  /-- An integer has too many digits to be read or written. -/
  | tooManyDigits
  /-- A number is too large to be computed with. -/
  | tooLarge
  /-- A text is too long to be held. -/
  | outOfMemory
  /-- A word that should write a truth value does not write one. -/
  | badTruthValue
  /-- A text that should write a point in time does not write one. -/
  | badTimestamp
  /-- A date or a time of day that does not exist. -/
  | impossibleTime
  /-- A mapping stands where a point in time should be written. -/
  | timestampOfMapping
  /-- The number of an escape is no code point. -/
  | badCodePoint
  /-- Two options of an expression exclude each other. -/
  | clashingOptions
  /-- A style that no table lists. -/
  | unknownStyle
  /-- A key that is no text stands where texts are put in order. -/
  | keyNotText
  /-- A file name that the file system cannot write. -/
  | badFileName
  /-- A file name with the character that ends names. -/
  | endedFileName
  /-- A file name that is longer than the file system allows. -/
  | longFileName
  /-- The root directory, which has no name, stands where a file should. -/
  | missingFileName
  /-- Parts are nested too deeply. -/
  | tooDeep
deriving Repr, DecidableEq, Inhabited

namespace Breakdown

/-- The wording of a breakdown. -/
def message : Breakdown → String
  | badNumber => "a number cannot be read"
  | missingNumber => "a number is missing"
  | tooManyDigits => "an integer has too many digits"
  | tooLarge => "a number is too large"
  | outOfMemory => "a text is too long"
  | badTruthValue => "a truth value cannot be read"
  | badTimestamp => "a point in time cannot be read"
  | impossibleTime => "a point in time does not exist"
  | timestampOfMapping => "a point in time is written as a mapping"
  | badCodePoint => "a code point does not exist"
  | clashingOptions => "the options of an expression exclude each other"
  | unknownStyle => "a style is not known"
  | keyNotText => "a key is not a text"
  | badFileName => "a file name cannot be written"
  | endedFileName => "a file name has a null character"
  | longFileName => "a file name is too long"
  | missingFileName => "a file name is missing"
  | tooDeep => "parts are nested too deeply"

end Breakdown

/-- **Why a text cannot be read**: it breaks the rules of its notation, or reading it breaks
down. -/
inductive Rejection where
  | malformed
  | broken (cause : Breakdown)
deriving Repr, DecidableEq, Inhabited

end ImportOrder
