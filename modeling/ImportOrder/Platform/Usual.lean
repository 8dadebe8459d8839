import ImportOrder.Platform.Basic
import ImportOrder.Text.CharacterName

/-!
# The usual platform

The platform that the command line program is given.

## Main definitions

* `Platform.usual`: the usual platform
-/

namespace ImportOrder

/-- **The usual platform.** Of the names of characters it knows those in the table. One more project
file takes a fifth of what one more level of a JSON text does. -/
@[reducible] def Platform.usual : Platform where
  characterNamed? := listedCharacter?
  memoryLimit := 68719476736
  nameLimit := 255
  pathLimit := 4095
  chainLimit := 970
  jsonDepth before := 195 - before / 5
  yamlDepth := 484
  regexDepth := 488
  displayDepth := 980

end ImportOrder
