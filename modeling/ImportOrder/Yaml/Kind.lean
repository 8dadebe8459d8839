import ImportOrder.Text.Basic
import ImportOrder.Yaml.Timestamp

/-!
# Kinds of YAML nodes

The tag of a node names its kind. A plain scalar without a tag gets its kind from its text: a truth
value, a number, nothing, a timestamp, the key that merges, or else a string. Numbers have the
forms of YAML 1.1: octal after a zero, binary, hexadecimal, base sixty with colons, and underscores
between digits.

## Main definitions

* `Yaml.NodeKind`: the kinds
* `Yaml.NodeKind.ofText`: the kind of a plain text
* `Yaml.NodeKind.ofTag`: the kind that a tag names
-/

namespace ImportOrder

namespace Yaml

/-- **The kind of a node.** The kinds `merge` and `equals` have a meaning as keys only, and nodes of
an `unknown` kind have none. -/
inductive NodeKind where
  | null
  | bool
  | int
  | float
  | str
  | binary
  | timestamp
  | sequence
  | mapping
  | set
  | orderedMapping
  | pairs
  | merge
  | equals
  | unknown
deriving Repr, DecidableEq, Inhabited

/-- A text without its sign. -/
def unsigned : Text → Text
  | '+' :: t => t
  | '-' :: t => t
  | t => t

/-- Whether a character is a digit or an underscore. -/
def isDigitChar (c : Char) : Bool := isAsciiDigit c || c == '_'

/-- Whether all characters of a text are in a class, and there are some. -/
def someAll (ok : Char → Bool) (t : Text) : Bool := !t.isEmpty && t.all ok

/-- Whether a text is a digit with digits and underscores after it. -/
def isDigitRun : Text → Bool
  | [] => false
  | c :: t => isAsciiDigit c && t.all isDigitChar

/-- Whether a text is one place of a number in base sixty. -/
def isSixtieth : Text → Bool
  | [c] => isAsciiDigit c
  | [a, b] => '0' ≤ a && a ≤ '5' && isAsciiDigit b
  | _ => false

/-- Whether a text is empty or an exponent with its sign. -/
def isExponent : Text → Bool
  | [] => true
  | e :: sign :: ds =>
    (e == 'e' || e == 'E') && (sign == '-' || sign == '+') && someAll isAsciiDigit ds
  | _ => false

/-- Whether a text writes an integer, its sign apart. -/
def isUnsignedInt (t : Text) : Bool :=
  match t with
  | ['0'] => true
  | '0' :: 'b' :: ds => someAll (fun c => c == '0' || c == '1' || c == '_') ds
  | '0' :: 'x' :: ds => someAll (fun c => (hexValue? c).isSome || c == '_') ds
  | '0' :: ds => someAll (fun c => ('0' ≤ c && c ≤ '7') || c == '_') ds
  | _ =>
    match Text.splitAt ':' t with
    | [] => false
    | places => (places.head?.map isDigitRun).getD false && places.tail.all isSixtieth

/-- Whether a text writes a number with a point, its sign apart. -/
def isUnsignedFloat (t : Text) : Bool :=
  let whole := t.takeWhile (· != '.')
  match t.drop whole.length with
  | '.' :: fraction =>
    let places := Text.splitAt ':' whole
    let rest := fraction.dropWhile isDigitChar
    match places with
    | [run] => isDigitRun run && isExponent rest
    | run :: more => isDigitRun run && more.all isSixtieth && rest.isEmpty
    | [] => false
  | _ => false

/-- Whether a text starts with its point and has a digit after it. -/
def isFraction : Text → Bool
  | '.' :: c :: t => isAsciiDigit c && isExponent (t.dropWhile isDigitChar)
  | _ => false

/-- The words of truth values. -/
def boolWords : List (String × Bool) :=
  [("yes", true), ("no", false), ("true", true), ("false", false), ("on", true), ("off", false)]

/-- A word in the three spellings that count: small, with a capital, and all capitals. -/
def spellings (word : String) : List String := [word, word.capitalize, word.toUpper]

/-- What the tag of the standard kinds starts with. -/
def standardStart : Text := "tag:yaml.org,2002:".toList

namespace NodeKind

/-- The kind of a text that is not empty, without a line break at its end. -/
def ofTrimmed (t : Text) : NodeKind :=
  let s := String.ofList t
  let u := unsigned t
  if (boolWords.flatMap (spellings ·.1)).contains s then .bool
  else if isUnsignedFloat u || isFraction t then .float
  else if [".inf", ".Inf", ".INF"].contains (String.ofList u) then .float
  else if [".nan", ".NaN", ".NAN"].contains s then .float
  else if isUnsignedInt u then .int
  else if s == "<<" then .merge
  else if ["~", "null", "Null", "NULL"].contains s then .null
  else if isTimestamp t then .timestamp
  else if s == "=" then .equals
  else if ["!", "&", "*"].contains s then .unknown
  else .str

/-- The kind of a plain text. A line break at its end does not matter. -/
def ofText (t : Text) : NodeKind :=
  if t.isEmpty then .null
  else if withoutLastBreak t = [] then .str
  else ofTrimmed (withoutLastBreak t)

/-- The kinds that have a standard name. -/
def names : List (String × NodeKind) :=
  [("null", .null), ("bool", .bool), ("int", .int), ("float", .float), ("str", .str),
    ("binary", .binary), ("timestamp", .timestamp), ("seq", .sequence), ("map", .mapping),
    ("set", .set), ("omap", .orderedMapping), ("pairs", .pairs), ("merge", .merge),
    ("value", .equals)]

/-- The kind that a tag names. -/
def ofTag (tag : Text) : NodeKind :=
  ((Text.after? standardStart tag).bind fun name => names.lookup (String.ofList name)).getD .unknown

/-- Whether nodes of a kind are made of other nodes. -/
def isCollection : NodeKind → Bool
  | .sequence | .mapping | .set | .orderedMapping | .pairs => true
  | _ => false

end NodeKind

end Yaml

end ImportOrder
