import ImportOrder.Journal
import ImportOrder.Settings.Basic
import ImportOrder.StableSort

/-!
# Reading settings

A layer of settings is read from file data: an object with one key for each setting. A key whose
value is null is left open. Unknown keys are errors in strict reading and remarks otherwise.

## Main definitions

* `Layer.read`: the layer that an object describes
* `Settings.resolveSources`: layers and objects on top of the defaults
-/

namespace ImportOrder

namespace SettingsValue

/-- The error that a key has a value of the wrong kind. -/
def wrong [Platform] {α : Type} (key expected : String) (value : Data) : Except SettingsError α :=
  .error (SettingsError.badValue key expected value).worded

/-- A setting with a fixed set of values. -/
def choice [Platform] (options : List String) (key : String) (value : Data) :
    Except SettingsError String :=
  match value.str?.filter (options.contains ·) with
  | some s => .ok s
  | none => wrong key ("one of " ++ String.intercalate ", " options) value

/-- A setting that is on or off. -/
def boolean [Platform] (key : String) (value : Data) : Except SettingsError Bool :=
  match value.bool? with
  | some b => .ok b
  | none => wrong key "a boolean" value

/-- A whole number that is not below a least one. -/
def integer [Platform] (least : Nat) (key : String) (value : Data) : Except SettingsError Int :=
  match value.int?.filter ((least : Int) ≤ ·) with
  | some n => .ok n
  | none => wrong key s!"an integer >= {least}" value

/-- Texts; a single one need not stand in a list. -/
def strings [Platform] (key : String) (value : Data) : Except SettingsError (List WideText) :=
  match value with
  | .str s => .ok [s]
  | .list items =>
    match items.mapM Data.text? with
    | some ss => .ok ss
    | none => wrong key "a string or a list of strings" value
  | _ => wrong key "a string or a list of strings" value

/-- The style of line endings; capitals do not matter. -/
def eolStyle [Platform] (key : String) (value : Data) : Except SettingsError String :=
  match value.str?.map fun s => String.ofList (s.toList.map Char.toLower) with
  | some "lf" => .ok "LF"
  | some "crlf" => .ok "CRLF"
  | some "auto" => .ok "auto"
  | _ => wrong key "LF, CRLF or auto" value

/-- The keys that a group rule may have. -/
def groupKeys : List WideText := ["name", "pattern", "position"].map WideText.ofString

/-- The keys of a group rule that are not known. -/
def unknownKeys (entries : List (Scalar × Data)) : List Scalar :=
  (entries.map (·.1)).filter fun k => !(Data.scalar k).text?.any groupKeys.contains

/-- The error for a group rule with unknown keys. They are listed in order, as only texts can be. -/
def unknownFields (index : Nat) (keys : List Scalar) : SettingsError :=
  match keys.mapM fun k => (Data.scalar k).text? with
  | some names => .unknownGroupFields index (inOrder WideText.le names)
  | none => .broken .keyNotText

/-- The position of a group rule, if it has one. -/
def position [Platform] (index : Nat) (value : Option Data) : Except SettingsError (Option Int) :=
  match value with
  | none | some .null => .ok none
  | some v => (integer 0 s!"groups[{index}].position" v).map some

/-- A group rule: an object, or a text that is both its name and its pattern. -/
def groupRule [Platform] (strict : Bool) (index : Nat) (value : Data) :
    Except SettingsError GroupRule :=
  match value with
  | .str s => .ok ⟨s, [s], none⟩
  | .map entries => do
    if strict && !(unknownKeys entries).isEmpty then
      throw (unknownFields index (unknownKeys entries))
    match Data.lookup? entries "pattern" with
    | none => throw (.missingPattern index)
    | some pattern =>
      let patterns ← strings s!"groups[{index}].pattern" pattern
      match (Data.lookup? entries "name").getD (.str (WideText.ofString s!"group{index}")) with
      | .str name =>
        return ⟨name, patterns, ← position index (Data.lookup? entries "position")⟩
      | other => wrong s!"groups[{index}].name" "a string" other
  | other => wrong s!"groups[{index}]" "an object or a string" other

/-- A list of group rules, from a given index on. -/
def groupRules [Platform] (strict : Bool) :
    (index : Nat) → List Data → Except SettingsError (List GroupRule)
  | _, [] => .ok []
  | index, d :: ds => do
    let rule ← groupRule strict index d
    return rule :: (← groupRules strict (index + 1) ds)

/-- The group rules of a layer. -/
def groupList [Platform] (strict : Bool) (key : String) (value : Data) :
    Except SettingsError (List GroupRule) :=
  match value with
  | .list items => groupRules strict 0 items
  | other => wrong key "a list" other

end SettingsValue

namespace Layer

open SettingsValue in
/-- The layer with the setting of a key, if the key is known. -/
def setKey? [Platform] (strict : Bool) (l : Layer) (key : String) (v : Data) :
    Option (Except SettingsError Layer) :=
  match key with
  | "groups" => some do return { l with groups := some (← groupList strict key v) }
  | "extendGroups" => some do return { l with extendGroups := some (← boolean key v) }
  | "sortBy" => some do return { l with sortBy := some (← choice ["specifier", "name"] key v) }
  | "caseSensitive" => some do return { l with caseSensitive := some (← boolean key v) }
  | "sortNames" => some do return { l with sortNames := some (← boolean key v) }
  | "typeOnlyLast" => some do return { l with typeOnlyLast := some (← boolean key v) }
  | "emptyLinesBetweenGroups" =>
    some do return { l with emptyLinesBetweenGroups := some (← integer 0 key v) }
  | "mergeDuplicates" => some do return { l with mergeDuplicates := some (← boolean key v) }
  | "quoteMark" =>
    some do return { l with quoteMark := some (← choice ["single", "double", "preserve"] key v) }
  | "semicolon" =>
    some do return { l with semicolon := some (← choice ["always", "never", "preserve"] key v) }
  | "bracketSpacing" => some do return { l with bracketSpacing := some (← boolean key v) }
  | "trailingComma" =>
    some do return { l with trailingComma := some (← choice ["none", "multiline"] key v) }
  | "maxLineLength" => some do return { l with maxLineLength := some (← integer 0 key v) }
  | "tabSize" => some do return { l with tabSize := some (← integer 1 key v) }
  | "eol" => some do return { l with eol := some (← eolStyle key v) }
  | "fileCommentGap" => some do return { l with fileCommentGap := some (← integer 1 key v) }
  | "ignoreESLintRules" => some do return { l with ignoreLintRules := some (← strings key v) }
  | "exclude" => some do return { l with exclude := some (← strings key v) }
  | _ => none

/-- The layer with the settings of some entries. -/
def readEntries [Platform] (strict : Bool) (l : Layer) :
    List (Scalar × Data) → Journaled SettingsError Layer
  | [] => pure l
  | (key, value) :: entries => do
    let name := (Data.scalar key).str?
    -- a known key with a null value is left open before its value is looked at
    match name.bind fun k => setKey? strict l k value with
    | none =>
      if strict then Journaled.fail (SettingsError.unknownField key).worded
      else
        match key.displayFault? with
        | some cause => Journaled.fail (.broken cause)
        | none =>
          Journaled.debug s!"Ignoring unknown config field {key.display}"
          readEntries strict l entries
    | some result =>
      match value with
      | .null => readEntries strict l entries
      | _ =>
        let next ← Journaled.ofExcept result
        readEntries strict next entries

/-- The layer that file data describes. -/
def read [Platform] (strict : Bool) (d : Data) : Journaled SettingsError Layer :=
  match d with
  | .map entries => readEntries strict {} entries
  | other => Journaled.fail (SettingsError.notAnObject other).worded

end Layer

/-- **A layer as it is given**: settings, or file data that describes them. -/
inductive LayerSource where
  | layer (l : Layer)
  | data (d : Data)

namespace LayerSource

/-- The layer that is given. -/
def read [Platform] (strict : Bool) : LayerSource → Journaled SettingsError Layer
  | layer l => pure l
  | data d => Layer.read strict d

end LayerSource

namespace Settings

/-- Layers on top of the defaults, the least specific first. -/
def resolveSources [Platform] (strict : Bool) (sources : List LayerSource) :
    Journaled SettingsError Settings := do
  let layers ← Journaled.forEach (LayerSource.read strict) sources
  Journaled.ofExcept (resolve layers)

end Settings

end ImportOrder
