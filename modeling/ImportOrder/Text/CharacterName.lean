import ImportOrder.Number.Numeral
import ImportOrder.Text.Basic
import ImportOrder.Text.CodeRanges
import ImportOrder.Text.NameTable

/-!
# Names of characters

The character that a standard name belongs to. Capitals do not matter in the names of the table,
which lists only part of the characters that have names. The names of Chinese characters hold their
code point, and those of Korean syllables their sounds; in these, capitals do matter.

## Main definitions

* `listedCharacter?`: the code point of the character with a name, if the name is known here
-/

namespace ImportOrder

/-- The code point of the character with a name among characters that follow one another. -/
def NameRun.find? (r : NameRun) (name : Text) : Option Nat :=
  (Text.after? r.lead.toList name).bind fun rest =>
    ((r.rows.flatMap (·.splitOn ", ")).idxOf? (String.ofList rest)).map (r.first + ·)

/-- The code points of Chinese characters. -/
def ideographs : CodeRanges := [
  (0x3400, 0x4dbf), (0x4e00, 0x9fff), (0x20000, 0x2a6df), (0x2a700, 0x2b738), (0x2b740, 0x2b81d),
  (0x2b820, 0x2cea1), (0x2ceb0, 0x2ebe0), (0x30000, 0x3134a)]

/-- The Chinese character whose code point is written with four or five digits. -/
def ideographNamed? (name : Text) : Option Nat := do
  let digits ← Text.after? "CJK UNIFIED IDEOGRAPH-".toList name
  guard (digits.length = 4 ∨ digits.length = 5)
  guard (digits.all fun c => isAsciiDigit c || ('A' ≤ c && c ≤ 'F'))
  let n ← hexNumber? digits
  guard (ideographs.contains n)
  return n

/-- The sounds that Korean syllables start with, those in their middle, and those at their end, in
the order of the code points. -/
def syllableSounds : List Text × List Text × List Text :=
  (sounds "G,GG,N,D,DD,R,M,B,BB,S,SS,,J,JJ,C,K,T,P,H",
    sounds "A,AE,YA,YAE,EO,E,YEO,YE,O,WA,WAE,OE,YO,U,WEO,WE,WI,YU,EU,YI,I",
    sounds ",G,GG,GS,N,NJ,NH,D,L,LG,LM,LB,LS,LT,LP,LH,M,B,BS,S,SS,NG,J,C,K,T,P,H")
where
  sounds (names : String) : List Text := (names.splitOn ",").map String.toList

/-- The longest of some sounds that a text starts with: its place among them, and the rest. -/
def longestSound? (sounds : List Text) (t : Text) : Option (Nat × Text) :=
  let found := sounds.zipIdx.filter fun s => s.1.isPrefixOf t
  let longest := found.foldl (fun best s =>
    match best with
    | some b => if b.1.length < s.1.length then some s else best
    | none => some s) none
  longest.map fun s => (s.2, t.drop s.1.length)

/-- The Korean syllable with a name. Each of its sounds is as long as it can be. -/
def syllableNamed? (name : Text) : Option Nat := do
  let rest ← Text.after? "HANGUL SYLLABLE ".toList name
  let (start, rest) ← longestSound? syllableSounds.1 rest
  let (middle, rest) ← longestSound? syllableSounds.2.1 rest
  let (last, rest) ← longestSound? syllableSounds.2.2 rest
  guard rest.isEmpty
  return 0xac00 + (start * 21 + middle) * 28 + last

/-- The code point of the character with a name, if it is a Korean syllable, a Chinese character or
one of the table. The table is partial: characters of other scripts are not in it. -/
def listedCharacter? (name : Text) : Option Nat :=
  let upper := name.map Char.toUpper
  ((((syllableNamed? name).or (ideographNamed? name)).or
    (otherNames.lookup (String.ofList upper))).or (nameRuns.findSome? (·.find? upper)))

end ImportOrder
