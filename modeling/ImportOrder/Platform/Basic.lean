import ImportOrder.Text.Basic

/-!
# The platform

Some of what the program does depends on what it runs on: which characters have names, how long a
text can be, which file names there can be, and how many calls can be open at once.

## Main definitions

* `Platform`: what the program runs on
-/

namespace ImportOrder

/-- **What the program runs on.** -/
class Platform where
  /-- The code point of the character with a name. -/
  characterNamed? : Text → Option Nat
  /-- The greatest length of a text that can be held. -/
  memoryLimit : Nat
  /-- The greatest length of a file name, in bytes. -/
  nameLimit : Nat
  /-- The greatest length of a path, in bytes. -/
  pathLimit : Nat
  /-- How many project files can be read one on account of another. -/
  chainLimit : Nat
  /-- How deeply lists and maps can be nested in a JSON text, if it is read on account of so many
  other project files. -/
  jsonDepth : (before : Nat) → Nat
  /-- How deeply nodes can be nested in a YAML text. -/
  yamlDepth : Nat
  /-- How deeply groups can be nested in a regular expression. -/
  regexDepth : Nat
  /-- How deeply a value can be nested that a message shows. -/
  displayDepth : Nat

end ImportOrder
