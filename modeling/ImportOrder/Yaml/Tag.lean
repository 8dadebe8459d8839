import ImportOrder.Number.Numeral
import ImportOrder.Yaml.Token

/-!
# YAML directives, anchors and tags

What may stand before a document or a node: directives at the start of a line, names of anchors,
and tags with their handles and escapes.

## Main definitions

* `Yaml.directive`, `Yaml.anchorName`, `Yaml.tag`: each of them, read from its mark on
-/

namespace ImportOrder

namespace Yaml

/-- Takes a number, which must have digits, but not too many. -/
def number : Scan Text := do
  let ds ← takeWhile isAsciiDigit
  require (!ds.isEmpty)
  if digitLimit < ds.length then throw (.broken .tooManyDigits)
  return ds

/-- The characters of the rest of a tag. -/
def isUriChar (c : Char) : Bool :=
  isAsciiLetter c || isAsciiDigit c || "-;/?:@&=+$,_.!~*'()[]%".toList.contains c

/-- The bytes that hexadecimal escapes write. -/
def uriBytes? : Text → Option (List UInt8 × Text)
  | '%' :: a :: b :: t => do
    let n ← hexNumber? [a, b]
    let (bytes, rest) ← uriBytes? t
    return (n.toUInt8 :: bytes, rest)
  | '%' :: _ => none
  | t => some ([], t)

/-- A text with the escapes of its bytes replaced by the characters that they encode. -/
def unescapeUri? : (fuel : Nat) → Text → Option Text
  | 0, _ => none
  | _ + 1, [] => some []
  | fuel + 1, c :: t =>
    if c == '%' then do
      let (bytes, rest) ← uriBytes? (c :: t)
      let decoded ← String.fromUTF8? ⟨bytes.toArray⟩
      return decoded.toList ++ (← unescapeUri? fuel rest)
    else do return c :: (← unescapeUri? fuel t)

/-- Takes the rest of a tag, of which there must be some. -/
def tagUri : Scan Text := do
  let raw ← takeWhile isUriChar
  require (!raw.isEmpty)
  match unescapeUri? (raw.length + 1) raw with
  | some t => return t
  | none => reject

/-- Takes the handle of a tag: an exclamation mark, or a name between two. -/
def tagHandle : Scan Text := do
  require ((← peek 0) = some '!')
  forward 1
  if (← peek 0) = some ' ' then return ['!']
  let name ← takeWhile isNameChar
  require ((← peek 0) = some '!')
  forward 1
  return '!' :: name ++ ['!']

/-- Takes a directive. -/
def directive : Scan Token := do
  forward 1
  let name ← takeWhile isNameChar
  require (!name.isEmpty && endsField (← peek 0))
  if name = "YAML".toList then
    let _ ← takeWhile (· == ' ')
    let major ← number
    require ((← peek 0) = some '.')
    forward 1
    let minor ← number
    require (endsField (← peek 0))
    restOfLine
    return .directive name [major, minor]
  else if name = "TAG".toList then
    let _ ← takeWhile (· == ' ')
    let handle ← tagHandle
    require ((← peek 0) = some ' ')
    let _ ← takeWhile (· == ' ')
    let start ← tagUri
    require (endsField (← peek 0))
    restOfLine
    return .directive name [handle, start]
  else
    let _ ← takeWhile (!isBreak ·)
    restOfLine
    return .directive name []

/-- Takes the name of an anchor or alias after its mark. -/
def anchorName : Scan Text := do
  forward 1
  let name ← takeWhile isNameChar
  let next ← peek 0
  require (!name.isEmpty &&
    (endsWord next || (next.map ("?:,]\x7d%@\x60".toList.contains ·)).getD false))
  return name

/-- Takes a tag. -/
def tag : Scan Token := do
  let next ← peek 1
  let (handle, rest) ←
    if next = some '<' then do
      forward 2
      let uri ← tagUri
      require ((← peek 0) = some '>')
      forward 1
      pure (none, uri)
    else if endsWord next then do
      forward 1
      pure (none, ['!'])
    else do
      let word := ((← get).rest.drop 1).takeWhile fun c => !(c == ' ' || isBreak c)
      if word.contains '!' then
        let handle ← tagHandle
        pure (some handle, ← tagUri)
      else
        forward 1
        pure (some ['!'], ← tagUri)
  require (endsField (← peek 0))
  return .tag handle rest

end Yaml

end ImportOrder
