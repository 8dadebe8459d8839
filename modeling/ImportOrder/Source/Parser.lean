import ImportOrder.Source.Head

/-!
# Reading the head of a module

The directives and static imports at the start of a source are read from its tokens. Reading stops
at the first token that starts anything else: code begins there, and what it holds has no effect.

Reading gives a value and the tokens that remain.

## Main definitions

* `Parser.namedItem`, `Parser.namedItems`: one name of an import list, and the list
* `Parser.importDecl`: an import declaration
* `Head.parse`: the head of a source
-/

namespace ImportOrder

namespace Parser

variable (size : Nat)

/-- Reads a token that must meet a condition. -/
def expect (wanted : Wanted) (ok : Token → Bool) (ts : List Token) :
    Except SyntaxError (Token × List Token) :=
  let t := Token.peek size ts 0
  if t.kind = .bad then .error (.unterminated t.start)
  else if ok t then .ok (t, ts.tail)
  else .error (.expected wanted t)

/-- Reads a token that must be written in a given way. -/
def expectText (s : String) : List Token → Except SyntaxError (Token × List Token) :=
  expect size (.text s) (·.is s)

/-- Reads a name. -/
def expectName : List Token → Except SyntaxError (Token × List Token) :=
  expect size .name (·.kind = .name)

/-- Reads a string. -/
def expectString : List Token → Except SyntaxError (Token × List Token) :=
  expect size .string (·.kind = .string)

theorem length_of_expect {wanted : Wanted} {ok : Token → Bool} {ts rest : List Token} {t : Token}
    (h : expect size wanted ok ts = .ok (t, rest)) : rest.length ≤ ts.length := by
  simp only [expect] at h
  split at h
  · cases h
  · split at h
    · obtain ⟨-, rfl⟩ := Prod.mk.inj (Except.ok.inj h)
      simp
    · cases h

/-- Whether `type` before the tokens `rest` of an import list modifies the name that follows. It is
itself the imported name at the end of an item, and in `type as x`. -/
def isTypeModifierInList (rest : List Token) : Bool :=
  let next := Token.peek size rest 0
  let endsItem (t : Token) : Bool := t.is "," || t.is "\x7d"
  if endsItem next then false
  else if next.isName "as" && endsItem (Token.peek size rest 2)
      && !(Token.peek size rest 1).isName "as" then false
  else true

/-- Reads what may follow an imported name, and gives the binding. -/
def renamed (imported : Token) (typeOnly : Bool) (rest : List Token) :
    Except SyntaxError (Binding × List Token) :=
  if (Token.peek size rest 0).isName "as" then
    match expectName size rest.tail with
    | .error e => .error e
    | .ok (name, rest) => .ok (⟨.namedExport, imported.text, some name.text, typeOnly⟩, rest)
  else if imported.kind = .string then .error (.stringNeedsAlias imported.start)
  else .ok (⟨.namedExport, imported.text, none, typeOnly⟩, rest)

/-- Reads one item of an import list. -/
def namedItem (dialect : Dialect) : List Token → Except SyntaxError (Binding × List Token)
  | [] => .error (.unexpectedInList (Token.eof size))
  | t :: rest =>
    if t.kind ≠ .name ∧ t.kind ≠ .string then .error (.unexpectedInList t)
    else if dialect.typescript && t.isName "type" && isTypeModifierInList size rest then
      renamed size (Token.peek size rest 0) true rest.tail
    else renamed size t false rest

theorem length_of_renamed {imported : Token} {typeOnly : Bool} {ts rest : List Token} {b : Binding}
    (h : renamed size imported typeOnly ts = .ok (b, rest)) : rest.length ≤ ts.length := by
  unfold renamed at h
  split at h
  · split at h
    · cases h
    · rename_i hn
      have hlen := length_of_expect size hn
      obtain ⟨-, rfl⟩ := Prod.mk.inj (Except.ok.inj h)
      simp at hlen
      omega
  · split at h
    · cases h
    · obtain ⟨-, rfl⟩ := Prod.mk.inj (Except.ok.inj h)
      exact Nat.le_refl _

theorem length_of_namedItem {dialect : Dialect} {ts rest : List Token} {b : Binding}
    (h : namedItem size dialect ts = .ok (b, rest)) : rest.length < ts.length := by
  cases ts with
  | nil => cases h
  | cons t ts =>
    simp only [namedItem] at h
    split at h
    · cases h
    · split at h <;> have hlen := length_of_renamed size h <;> simp at hlen ⊢ <;> omega

/-- Reads the items of an import list and the brace that closes it. -/
def namedItems (dialect : Dialect) (ts : List Token) :
    Except SyntaxError (List Binding × List Token) :=
  if (Token.peek size ts 0).is "\x7d" then .ok ([], ts.tail)
  else
    match _h : namedItem size dialect ts with
    | .error e => .error e
    | .ok (b, rest) =>
      if (Token.peek size rest 0).is "," then
        match namedItems dialect rest.tail with
        | .error e => .error e
        | .ok (bs, rest) => .ok (b :: bs, rest)
      else
        match expectText size "\x7d" rest with
        | .error e => .error e
        | .ok (_, rest) => .ok ([b], rest)
termination_by ts.length
decreasing_by
  have := length_of_namedItem size _h
  simp
  omega

/-- Reads an import list in braces. -/
def namedList (dialect : Dialect) (ts : List Token) :
    Except SyntaxError (List Binding × List Token) := do
  let (_, ts) ← expectText size "\x7b" ts
  namedItems size dialect ts

/-- Whether `type` after `import` makes the whole import type-only: `rest` follows the word. Before
a single `from` it is the name of the default binding. -/
def isTypeModifier (rest : List Token) : Bool :=
  let next := Token.peek size rest 0
  if next.is "\x7b" || next.is "*" then true
  else if next.isName "from" then (Token.peek size rest 1).isName "from"
  else next.kind = .name

/-- Whether a token opens the part of an import clause after the default binding. -/
def opensClause (t : Token) : Bool := t.is "*" || t.is "\x7b"

/-- Reads `* as name` or an import list. -/
def starOrList (dialect : Dialect) (ts : List Token) :
    Except SyntaxError (List Binding × List Token) :=
  if (Token.peek size ts 0).is "*" then do
    let (_, ts) ← expectText size "as" ts.tail
    let (name, ts) ← expectName size ts
    return ([⟨.namespaceObject, name.text, none, false⟩], ts)
  else namedList size dialect ts

/-- Reads the bindings after the default one of an import, if a comma announces them. -/
def afterDefault (dialect : Dialect) (ts : List Token) :
    Except SyntaxError (List Binding × List Token) :=
  if (Token.peek size ts 0).is "," then
    if opensClause (Token.peek size ts.tail 0) then starOrList size dialect ts.tail
    else .error (.unexpected (Token.peek size ts.tail 0))
  else .ok ([], ts)

/-- Reads the bindings of an import that starts at offset `start`. -/
def clause (dialect : Dialect) (start : Nat) (ts : List Token) :
    Except SyntaxError (List Binding × List Token) :=
  let t := Token.peek size ts 0
  let next := Token.peek size ts 1
  if t.kind = .name ∧ next.is "=" then .error (.importEquals start)
  else if t.kind = .name ∧ ¬ (t.isName "from" ∧ next.kind = .string) then do
    let (bs, ts) ← afterDefault size dialect ts.tail
    return (⟨.defaultExport, t.text, none, false⟩ :: bs, ts)
  else if opensClause t then starOrList size dialect ts
  else .error (.expectedClause t)

/-- Reads import attributes after their opening brace, up to and with the closing one. -/
def closeAttributes (keyword : Nat) : List Token → Except SyntaxError (Token × List Token)
  | [] => .error (.unterminatedAttributes keyword)
  | t :: ts =>
    if t.is "\x7d" then .ok (t, ts)
    else if t.kind = .bad then .error (.unterminatedAttributes keyword)
    else closeAttributes keyword ts

/-- Reads import attributes, if there are any: their span. -/
def attributes? (ts : List Token) : Except SyntaxError (Option Span × List Token) :=
  let keyword := Token.peek size ts 0
  if (keyword.isName "with" || keyword.isName "assert") && !keyword.newlineBefore
      && (Token.peek size ts 1).is "\x7b" then do
    let (close, ts) ← closeAttributes keyword.start (ts.drop 2)
    return (some ⟨keyword.start, close.stop⟩, ts)
  else .ok (none, ts)

/-- Reads what comes before the module string: the bindings, and whether they are types only. -/
def importClause (dialect : Dialect) (start : Nat) (ts : List Token) :
    Except SyntaxError ((List Binding × Bool) × List Token) :=
  if (Token.peek size ts 0).kind = .string then .ok (([], false), ts)
  else do
    let typeOnly := dialect.typescript && (Token.peek size ts 0).isName "type"
      && isTypeModifier size ts.tail
    let (bindings, ts) ← clause size dialect start (if typeOnly then ts.tail else ts)
    let (_, ts) ← expectText size "from" ts
    return ((bindings, typeOnly), ts)

/-- Reads the end of an import: a semicolon, or else the end of the line or of the text. -/
def importEnd (ts : List Token) : Except SyntaxError (Option Token × List Token) :=
  let next := Token.peek size ts 0
  if next.is ";" then .ok (some next, ts.tail)
  else if next.kind ≠ .eof ∧ ¬ next.newlineBefore then .error (.unexpectedAfterImport next)
  else .ok (none, ts)

/-- Reads an import declaration that starts at offset `start`, from the token after `import`. -/
def importDecl (dialect : Dialect) (source : Text) (start : Nat) (ts : List Token) :
    Except SyntaxError (ImportDecl × List Token) := do
  let ((bindings, typeOnly), ts) ← importClause size dialect start ts
  let (target, ts) ← expectString size ts
  let (attributes, ts) ← attributes? size ts
  let (semicolon, ts) ← importEnd size ts
  return ({
    span := ⟨start, ((semicolon.map Token.stop).or (attributes.map Span.stop)).getD target.stop⟩
    specifier := target.text.tail.dropLast
    quote := (target.text.head?.bind Quote.ofChar?).getD .single
    bindings
    typeOnly
    attributes := attributes.map fun s => source.slice s.start s.stop
    hasSemicolon := semicolon.isSome }, ts)

/-- Reads directives: strings that stand alone as statements. -/
def directives : List Token → List Span × List Token
  | [] => ([], [])
  | t :: ts =>
    if t.kind = .string then
      match ts with
      | [] => ([⟨t.start, t.stop⟩], [])
      | u :: rest =>
        if u.is ";" then
          let (ds, rest) := directives rest
          (⟨t.start, u.stop⟩ :: ds, rest)
        else if u.newlineBefore then
          let (ds, rest) := directives (u :: rest)
          (⟨t.start, t.stop⟩ :: ds, rest)
        else ([], t :: u :: rest)
    else ([], t :: ts)

/-- Whether the tokens start with a static import: `import(` and `import.` are expressions. -/
def startsImport (ts : List Token) : Bool :=
  (Token.peek size ts 0).isName "import" &&
    !((Token.peek size ts 1).is "(" || (Token.peek size ts 1).is ".")

/-! ## Reading never adds tokens -/

theorem ok_of_bind {ε α β : Type} {x : Except ε α} {f : α → Except ε β} {b : β}
    (h : (x >>= f) = .ok b) : ∃ a, x = .ok a ∧ f a = .ok b := by
  cases x with
  | error e => cases h
  | ok a => exact ⟨a, rfl, h⟩

theorem length_of_namedItems {dialect : Dialect} {ts rest : List Token} {bs : List Binding}
    (h : namedItems size dialect ts = .ok (bs, rest)) : rest.length ≤ ts.length := by
  induction hn : ts.length using Nat.strongRecOn generalizing ts rest bs with
  | _ n ih =>
    subst hn
    rw [namedItems] at h
    split at h
    · obtain ⟨-, rfl⟩ := Prod.mk.inj (Except.ok.inj h)
      simp
    · split at h
      · cases h
      · rename_i b mid hitem
        have hmid := length_of_namedItem size hitem
        split at h
        · split at h
          · cases h
          · rename_i more after hmore
            obtain ⟨-, rfl⟩ := Prod.mk.inj (Except.ok.inj h)
            have := ih mid.tail.length (by simp; omega) hmore rfl
            simp at this
            omega
        · split at h
          · cases h
          · rename_i hclose
            obtain ⟨-, rfl⟩ := Prod.mk.inj (Except.ok.inj h)
            have := length_of_expect size hclose
            omega

theorem length_of_starOrList {dialect : Dialect} {ts rest : List Token} {bs : List Binding}
    (h : starOrList size dialect ts = .ok (bs, rest)) : rest.length ≤ ts.length := by
  unfold starOrList at h
  split at h
  · obtain ⟨⟨t₁, ts₁⟩, h₁, h⟩ := ok_of_bind h
    obtain ⟨⟨t₂, ts₂⟩, h₂, h⟩ := ok_of_bind h
    obtain ⟨-, rfl⟩ := Prod.mk.inj (Except.ok.inj h)
    have := length_of_expect size h₁
    have := length_of_expect size h₂
    simp at *
    omega
  · obtain ⟨⟨t₁, ts₁⟩, h₁, h⟩ := ok_of_bind h
    have := length_of_expect size h₁
    have := length_of_namedItems size h
    omega

theorem length_of_afterDefault {dialect : Dialect} {ts rest : List Token} {bs : List Binding}
    (h : afterDefault size dialect ts = .ok (bs, rest)) : rest.length ≤ ts.length := by
  unfold afterDefault at h
  split at h
  · split at h
    · have := length_of_starOrList size h
      simp at this
      omega
    · cases h
  · obtain ⟨-, rfl⟩ := Prod.mk.inj (Except.ok.inj h)
    exact Nat.le_refl _

theorem length_of_clause {dialect : Dialect} {start : Nat} {ts rest : List Token}
    {bs : List Binding} (h : clause size dialect start ts = .ok (bs, rest)) :
    rest.length ≤ ts.length := by
  simp only [clause] at h
  split at h
  · cases h
  split at h
  · obtain ⟨⟨bs₁, ts₁⟩, h₁, h⟩ := ok_of_bind h
    obtain ⟨-, rfl⟩ := Prod.mk.inj (Except.ok.inj h)
    have := length_of_afterDefault size h₁
    simp at this ⊢
    omega
  split at h
  · exact length_of_starOrList size h
  · cases h

theorem length_of_importClause {dialect : Dialect} {start : Nat} {ts rest : List Token}
    {r : List Binding × Bool} (h : importClause size dialect start ts = .ok (r, rest)) :
    rest.length ≤ ts.length := by
  unfold importClause at h
  split at h
  · obtain ⟨-, rfl⟩ := Prod.mk.inj (Except.ok.inj h)
    exact Nat.le_refl _
  · obtain ⟨⟨bs₁, ts₁⟩, h₁, h⟩ := ok_of_bind h
    obtain ⟨⟨t₂, ts₂⟩, h₂, h⟩ := ok_of_bind h
    obtain ⟨-, rfl⟩ := Prod.mk.inj (Except.ok.inj h)
    have h₃ := length_of_clause size h₁
    have h₄ := length_of_expect size h₂
    split at h₃
    · rw [List.length_tail] at h₃
      exact Nat.le_trans h₄ (by omega)
    · exact Nat.le_trans h₄ h₃

theorem length_of_closeAttributes {keyword : Nat} {ts rest : List Token} {t : Token}
    (h : closeAttributes keyword ts = .ok (t, rest)) : rest.length ≤ ts.length := by
  induction ts with
  | nil => cases h
  | cons u ts ih =>
    simp only [closeAttributes] at h
    split at h
    · obtain ⟨-, rfl⟩ := Prod.mk.inj (Except.ok.inj h)
      simp
    split at h
    · cases h
    · have := ih h
      simp
      omega

theorem length_of_attributes? {ts rest : List Token} {s : Option Span}
    (h : attributes? size ts = .ok (s, rest)) : rest.length ≤ ts.length := by
  simp only [attributes?] at h
  split at h
  · obtain ⟨⟨t₁, ts₁⟩, h₁, h⟩ := ok_of_bind h
    obtain ⟨-, rfl⟩ := Prod.mk.inj (Except.ok.inj h)
    have := length_of_closeAttributes h₁
    simp at this ⊢
    omega
  · obtain ⟨-, rfl⟩ := Prod.mk.inj (Except.ok.inj h)
    exact Nat.le_refl _

theorem length_of_importEnd {ts rest : List Token} {t : Option Token}
    (h : importEnd size ts = .ok (t, rest)) : rest.length ≤ ts.length := by
  simp only [importEnd] at h
  split at h
  · obtain ⟨-, rfl⟩ := Prod.mk.inj (Except.ok.inj h)
    simp
  split at h
  · cases h
  · obtain ⟨-, rfl⟩ := Prod.mk.inj (Except.ok.inj h)
    exact Nat.le_refl _

theorem length_of_importDecl {dialect : Dialect} {source : Text} {start : Nat}
    {ts rest : List Token} {d : ImportDecl}
    (h : importDecl size dialect source start ts = .ok (d, rest)) : rest.length ≤ ts.length := by
  unfold importDecl at h
  obtain ⟨⟨⟨bs, ty⟩, ts₁⟩, h₁, h⟩ := ok_of_bind h
  obtain ⟨⟨t₂, ts₂⟩, h₂, h⟩ := ok_of_bind h
  obtain ⟨⟨t₃, ts₃⟩, h₃, h⟩ := ok_of_bind h
  obtain ⟨⟨t₄, ts₄⟩, h₄, h⟩ := ok_of_bind h
  obtain ⟨-, rfl⟩ := Prod.mk.inj (Except.ok.inj h)
  have := length_of_importClause size h₁
  have := length_of_expect size h₂
  have := length_of_attributes? size h₃
  have := length_of_importEnd size h₄
  omega

/-! ## The head -/

/-- Reads the imports at the start of the tokens. -/
def imports (dialect : Dialect) (source : Text) (ts : List Token) :
    Except SyntaxError (List ImportDecl × List Token) :=
  match ts with
  | [] => .ok ([], [])
  | t :: rest =>
    if startsImport size (t :: rest) then
      match _h : importDecl size dialect source t.start rest with
      | .error e => .error e
      | .ok (d, rest) =>
        match imports dialect source rest with
        | .error e => .error e
        | .ok (ds, rest) => .ok (d :: ds, rest)
    else .ok ([], t :: rest)
termination_by ts.length
decreasing_by
  have := length_of_importDecl size _h
  simp
  omega

end Parser

/-- The length of the first line of a source, if the line names an interpreter. -/
def shebangLength (source : Text) : Nat :=
  if "#!".toList.isPrefixOf source then
    (source.takeWhile fun c => c ≠ '\r' ∧ c ≠ '\n').length
  else 0

namespace Head

/-- Reads the head of a source. -/
def parse (source : Text) (dialect : Dialect) : Except SyntaxError Head := do
  let shebangEnd := shebangLength source
  let pieces := Piece.scan (source.drop shebangEnd)
  let (directives, tokens) := Parser.directives (Token.ofPieces shebangEnd false pieces)
  let (imports, rest) ← Parser.imports source.length dialect source tokens
  let codeStart := rest.head?.map Token.start
  return {
    source
    dialect
    shebangEnd
    directives
    imports
    comments := (Comment.ofPieces shebangEnd pieces).filter
      (·.start < codeStart.getD source.length)
    codeStart }

end Head

end ImportOrder
