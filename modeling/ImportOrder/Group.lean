import ImportOrder.Failure
import ImportOrder.Project.Basic
import ImportOrder.Regex.Match
import ImportOrder.Regex.Parser
import ImportOrder.Statement

/-!
# Groups of imports

Group rules are written with patterns, such as `builtin` or `prefix:@app/`. A statement belongs to
the first group, in the order of the rules, that has a pattern for it; the groups come out in the
order of their positions. A group for everything else is added if no rule takes everything.

## Main definitions

* `Matcher`, `Matcher.compile`: a pattern and its written form
* `GroupRule`, `Group`: a rule as written, and a group with its patterns read
* `Group.build`: the groups of some rules
* `Group.classify?`: the group of a statement
-/

namespace ImportOrder

/-- **A pattern for imports.** -/
inductive Matcher where
  | builtin
  | relative
  | scopedPackage
  | aliasPath
  | sideEffect
  | any
  | exact (specifier : WideText)
  | startsWith (head : WideText)
  | regex (source : WideText) (expression : Regex)
deriving Repr, Inhabited

/-- The modules that come with the runtime. -/
def builtinModules : List String := [
  "assert", "async_hooks", "buffer", "child_process", "cluster", "console", "constants", "crypto",
  "dgram", "diagnostics_channel", "dns", "domain", "events", "fs", "http", "http2", "https",
  "inspector", "module", "net", "os", "path", "perf_hooks", "process", "punycode", "querystring",
  "readline", "repl", "stream", "string_decoder", "sys", "timers", "tls", "trace_events", "tty",
  "url", "util", "v8", "vm", "wasi", "worker_threads", "zlib"]

/-- Whether a specifier names a module of the runtime. Classic resolution knows them by their
scheme only. -/
def isBuiltin (project : Option Project) (specifier : Text) : Bool :=
  "node:".toList.isPrefixOf specifier ||
    ((project.bind Project.moduleResolution) != some "classic" &&
      builtinModules.any (·.toList == specifier.takeWhile (· ≠ '/')))

/-- Whether a specifier is a path from the importing file. -/
def isRelative (specifier : Text) : Bool :=
  specifier == ".".toList || specifier == "..".toList || "./".toList.isPrefixOf specifier ||
    "../".toList.isPrefixOf specifier

namespace Matcher

/-- Whether a pattern is for a statement. -/
def accepts (project : Option Project) (s : Statement) : Matcher → Bool
  | builtin => isBuiltin project s.specifier
  | relative => isRelative s.specifier
  | scopedPackage => s.specifier.head? == some '@' && s.specifier.contains '/'
  | aliasPath => (project.map (·.isAlias s.specifier)).getD false
  | sideEffect => s.isSideEffect
  | any => true
  | exact specifier => s.specifier.widen == specifier
  | startsWith head => head.isPrefixOf s.specifier.widen
  | regex _ expression => expression.search s.specifier

/-- The patterns that are single words. -/
def keyword? : String → Option Matcher
  | "builtin" => some builtin
  | "relative" => some relative
  | "scoped" => some scopedPackage
  | "alias" => some aliasPath
  | "side-effect" => some sideEffect
  | "*" => some any
  | _ => none

/-- The pattern of a kind with a value. -/
def ofValue [Platform] (pattern kind value : WideText) : Except SettingsError Matcher :=
  match kind.string? with
  | some "exact" => .ok (exact value)
  | some "prefix" => .ok (startsWith value)
  | some "regex" =>
    match Regex.parse value with
    | .ok r => .ok (regex value r)
    | .error cause => .error (.ofRejection value cause)
  | _ => .error (.unknownPattern pattern)

/-- The pattern that a text writes: a word, or a kind and a value with a colon between them. -/
def compile [Platform] (pattern : WideText) : Except SettingsError Matcher :=
  match pattern.string?.bind keyword? with
  | some m => .ok m
  | none =>
    let kind := pattern.takeWhile (· ≠ .char ':')
    let value := (pattern.dropWhile (· ≠ .char ':')).drop 1
    if value.isEmpty then .error (.unknownPattern pattern) else ofValue pattern kind value

/-- The kind of a pattern in its written form. -/
def kind : Matcher → String
  | builtin => "builtin"
  | relative => "relative"
  | scopedPackage => "scoped"
  | aliasPath => "alias"
  | sideEffect => "side-effect"
  | any => "*"
  | exact _ => "exact"
  | startsWith _ => "prefix"
  | regex _ _ => "regex"

/-- The value of a pattern in its written form. -/
def value? : Matcher → Option WideText
  | exact v | startsWith v | regex v _ => some v
  | _ => none

/-- Whether a pattern is for every statement. -/
def isCatchAll : Matcher → Bool
  | any => true
  | _ => false

end Matcher

/-- **A group rule** as settings write it. -/
structure GroupRule where
  name : WideText
  patterns : List WideText
  position : Option Int := none
deriving Repr, DecidableEq, Inhabited

/-- **A group** with its patterns read. -/
structure Group where
  name : WideText
  position : Int
  matchers : List Matcher
deriving Repr, Inhabited

namespace Group

/-- Whether a group has a pattern for a statement. -/
def accepts (project : Option Project) (g : Group) (s : Statement) : Bool :=
  g.matchers.any (Matcher.accepts project s)

/-- The groups of rules from a given index on; `taken` are the positions so far. A rule without a
position has its index. -/
def compileRules [Platform] : (index : Nat) → (taken : List (Int × WideText)) → List GroupRule →
    Except SettingsError (List Group)
  | _, _, [] => .ok []
  | index, taken, rule :: rules =>
    let position := rule.position.getD index
    match taken.find? (·.1 == position) with
    | some (_, name) => .error (SettingsError.samePosition name rule.name position).worded
    | none => do
      let matchers ← rule.patterns.mapM Matcher.compile
      let groups ← compileRules (index + 1) (taken ++ [(position, rule.name)]) rules
      return ⟨rule.name, position, matchers⟩ :: groups

/-- The position after all others. -/
def nextPosition (groups : List Group) : Int :=
  match groups.map (·.position) with
  | [] => 0
  | first :: rest => rest.foldl max first + 1

/-- Whether some group takes everything. -/
def hasCatchAll (groups : List Group) : Bool := groups.any (·.matchers.any Matcher.isCatchAll)

/-- Adds a last group for everything else, unless some group takes everything. -/
def withCatchAll (groups : List Group) : List Group :=
  if hasCatchAll groups then groups else groups ++ [⟨"other", nextPosition groups, [.any]⟩]

/-- The groups of some rules, in the order in which they are tried. -/
def build [Platform] (rules : List GroupRule) : Except SettingsError (List Group) :=
  (compileRules 0 [] rules).map withCatchAll

/-- The first group that has a pattern for a statement. -/
def classify? (project : Option Project) (groups : List Group) (s : Statement) : Option Group :=
  groups.find? (·.accepts project s)

end Group

end ImportOrder
