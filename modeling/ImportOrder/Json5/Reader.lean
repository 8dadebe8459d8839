import ImportOrder.Breakdown
import ImportOrder.Data.Basic
import ImportOrder.Number.Numeral
import ImportOrder.Source.Piece
import ImportOrder.Text.Identifier

/-!
# JSON5

Settings files are JSON with the usual liberties: comments, trailing commas, unquoted keys, strings
in either quote, hexadecimal and signed numbers, infinities. Each rule of the format is a function
that gives what it read and the text that remains.

## Main definitions

* `Json5.value`: reads a value
* `Json5.parse`: reads a whole document
-/

namespace ImportOrder

namespace Json5

/-- The blanks between tokens: controls that move the position, spaces, and the byte order mark. -/
def isSeparator (c : Char) : Bool :=
  let n := c.toNat
  isLineTerminator c || c == '\t' || c == '\x0b' || c == '\x0c' || c == ' ' || c == '\xa0' ||
    c == '\ufeff' || n == 0x1680 || (0x2000 ≤ n && n ≤ 0x200a) || n == 0x202f || n == 0x205f ||
    n == 0x3000

/-- The length of the comment at the start of a text, zero if there is none. -/
def commentLength : Text → Nat
  | '/' :: '/' :: t => 2 + (t.takeWhile (!isLineTerminator ·)).length
  | '/' :: '*' :: t => ((closeBlockComment? t).map (2 + ·.length)).getD 0
  | _ => 0

/-- The text after `skip` characters and then after all separators and comments. -/
def skipFrom : (skip : Nat) → Text → Text
  | _, [] => []
  | skip + 1, _ :: t => skipFrom skip t
  | 0, c :: t =>
    if isSeparator c then skipFrom 0 t
    else
      match commentLength (c :: t) with
      | 0 => c :: t
      | n + 1 => skipFrom n t

/-- The text after separators and comments. -/
def skipBlanks (t : Text) : Text := skipFrom 0 t

/-- Characters with an escape of one letter. -/
def shortEscape (c : Char) : Char :=
  match c with
  | 'b' => '\x08'
  | 'f' => '\x0c'
  | 'n' => '\n'
  | 'r' => '\r'
  | 't' => '\t'
  | 'v' => '\x0b'
  | c => c

/-- Reads a string after its opening quote. Only the two ordinary line ends have to be escaped, and
a pair of escapes for the halves of a character stays a pair of halves. -/
def stringBody (quote : Char) : Text → Option (WideText × Text)
  | [] => none
  | c :: t =>
    if c = quote then some ([], t)
    else if c = '\\' then
      match t with
      | '\r' :: '\n' :: u => stringBody quote u
      | 'x' :: a :: b :: u => do
        let point ← (hexNumber? [a, b]).bind CodePoint.ofNat?
        let (s, rest) ← stringBody quote u
        return (point :: s, rest)
      | 'u' :: a :: b :: c :: d :: u => do
        let point ← (hexNumber? [a, b, c, d]).bind CodePoint.ofNat?
        let (s, rest) ← stringBody quote u
        return (point :: s, rest)
      | d :: u =>
        if isLineTerminator d then stringBody quote u
        else if d = '0' ∧ ¬ (u.head?.map isAsciiDigit).getD false then do
          let (s, rest) ← stringBody quote u
          return (.char '\x00' :: s, rest)
        else if d = 'x' ∨ d = 'u' ∨ isAsciiDigit d then none
        else do
          let (s, rest) ← stringBody quote u
          return (.char (shortEscape d) :: s, rest)
      | [] => none
    else if c = '\n' ∨ c = '\r' then none
    else do
      let (s, rest) ← stringBody quote t
      return (.char c :: s, rest)

/-- Reads the characters of an unquoted key; each may be written by its code point. -/
def identifierBody (first : Bool) : Text → WideText × Text
  | '\\' :: 'u' :: a :: b :: c :: d :: t =>
    match (hexNumber? [a, b, c, d]).bind CodePoint.ofNat? with
    | some point =>
      let (s, rest) := identifierBody false t
      (point :: s, rest)
    | none => ([], '\\' :: 'u' :: a :: b :: c :: d :: t)
  | c :: t =>
    if (if first then isIdentifierStart c else isIdentifierPart c) then
      let (s, rest) := identifierBody false t
      (.char c :: s, rest)
    else ([], c :: t)
  | [] => ([], [])

/-- Reads a key. -/
def key : Text → Option (WideText × Text)
  | [] => none
  | c :: t =>
    if c = '"' ∨ c = '\x27' then stringBody c t
    else
      match identifierBody true (c :: t) with
      | ([], _) => none
      | (s, rest) => some (s, rest)

/-- Reads the exponent of a number, if there is one. An exponent needs a digit. -/
def exponent? : Text → Option (Option Int × Text)
  | [] => some (none, [])
  | e :: t =>
    if e = 'e' ∨ e = 'E' then
      let (negative, u) :=
        match t with
        | '+' :: u => (false, u)
        | '-' :: u => (true, u)
        | u => (false, u)
      let digits := u.takeWhile isAsciiDigit
      if digits = [] then none
      else
        let n : Int := decimalNumber digits
        some (some (if negative then -n else n), u.dropWhile isAsciiDigit)
    else some (none, e :: t)

/-- Reads a decimal number without a sign. A number with a point or an exponent is a floating-point
number, and others are integers, with a limited number of digits; an integer part does not start
with a zero. -/
def decimal (negative : Bool) (t : Text) : Option (Data × Text) := do
  let whole := t.takeWhile isAsciiDigit
  if 1 < whole.length ∧ whole.head? = some '0' then none
  let rest := t.dropWhile isAsciiDigit
  let (fraction, rest) :=
    match rest with
    | '.' :: u => (some (u.takeWhile isAsciiDigit), u.dropWhile isAsciiDigit)
    | u => (none, u)
  if whole = [] ∧ fraction.getD [] = [] then none
  let (exponent, rest) ← exponent? rest
  if fraction.isNone && exponent.isNone then
    if digitLimit < whole.length then none
    let n : Int := decimalNumber whole
    return (.int (if negative then -n else n), rest)
  else
    let digits := whole ++ fraction.getD []
    let x := readDecimal (decimalNumber digits) (exponent.getD 0 - (fraction.getD []).length)
    return (.scalar (.float (if negative then -x else x)), rest)

/-- Reads a number, which has one sign at most. -/
def number (t : Text) : Option (Data × Text) :=
  let (negative, t) := Numeral.splitSign t
  let signed (x : Float) : Data := .scalar (.float (if negative then -x else x))
  match Text.after? "Infinity".toList t, Text.after? "NaN".toList t, t with
  | some rest, _, _ => some (signed (1 / 0), rest)
  | _, some rest, _ => some (signed (0 / 0), rest)
  | _, _, '0' :: x :: u =>
    if x = 'x' ∨ x = 'X' then do
      let digits := u.takeWhile (hexValue? · |>.isSome)
      if digits = [] then none
      let n : Int ← (hexNumber? digits).map fun n => if negative then -(n : Int) else n
      return (.int n, u.dropWhile (hexValue? · |>.isSome))
    else decimal negative ('0' :: x :: u)
  | _, _, t => decimal negative t

/-- What is read, or the rejection of the text. -/
def orMalformed {α : Type} (x : Option α) : Except Rejection α :=
  match x with
  | some a => .ok a
  | none => .error .malformed

/-- Reads a value that is no collection. -/
def single (t : Text) : Option (Data × Text) :=
  match t with
  | [] => none
  | c :: u =>
    if c = '"' ∨ c = '\x27' then (stringBody c u).map fun (s, rest) => (.str s, rest)
    else
      match Text.after? "null".toList t, Text.after? "true".toList t,
        Text.after? "false".toList t with
      | some rest, _, _ => some (.null, rest)
      | _, some rest, _ => some (.bool true, rest)
      | _, _, some rest => some (.bool false, rest)
      | _, _, _ => number t

mutual

/-- Reads a value in which `room` collections may be nested, with room for `fuel` steps. -/
def value : (fuel room : Nat) → Text → Except Rejection (Data × Text)
  | 0, _, _ => .error .malformed
  | fuel + 1, room, t =>
    match t with
    | '\x7b' :: u =>
      if room = 0 then .error (.broken .tooDeep)
      else (members fuel (room - 1) (skipBlanks u) []).map fun (es, rest) => (.map es, rest)
    | '[' :: u =>
      if room = 0 then .error (.broken .tooDeep)
      else (elements fuel (room - 1) (skipBlanks u)).map fun (ds, rest) => (.list ds, rest)
    | t => orMalformed (single t)

/-- Reads the rest of a list, from an item or the closing bracket. -/
def elements : (fuel room : Nat) → Text → Except Rejection (List Data × Text)
  | 0, _, _ => .error .malformed
  | fuel + 1, room, t =>
    match t with
    | ']' :: rest => .ok ([], rest)
    | t => do
      let (d, rest) ← value fuel room t
      match skipBlanks rest with
      | ',' :: rest =>
        let (ds, rest) ← elements fuel room (skipBlanks rest)
        return (d :: ds, rest)
      | ']' :: rest => return ([d], rest)
      | _ => throw .malformed

/-- Reads the rest of a map, from a key or the closing brace; `seen` are the entries so far. -/
def members : (fuel room : Nat) → Text → List (Scalar × Data) →
    Except Rejection (List (Scalar × Data) × Text)
  | 0, _, _, _ => .error .malformed
  | fuel + 1, room, t, seen =>
    match t with
    | '\x7d' :: rest => .ok (seen, rest)
    | t => do
      let (k, rest) ← orMalformed (key t)
      match skipBlanks rest with
      | ':' :: rest =>
        let (d, rest) ← value fuel room (skipBlanks rest)
        let seen := Data.insertKey seen (.str k) d
        match skipBlanks rest with
        | ',' :: rest => members fuel room (skipBlanks rest) seen
        | '\x7d' :: rest => return (seen, rest)
        | _ => throw .malformed
      | _ => throw .malformed

end

/-- Reads a document: one value with nothing but separators and comments around it, in which `room`
collections may be nested. -/
def parse (room : Nat) (t : Text) : Except Rejection Data := do
  let (d, rest) ← value (2 * t.length + 2) room (skipBlanks t)
  if skipBlanks rest = [] then return d else throw .malformed

end Json5

end ImportOrder
