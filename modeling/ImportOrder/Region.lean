import ImportOrder.Source.Parser
import ImportOrder.Source.Pragma
import ImportOrder.Statement

/-!
# The import region

The imports of a source, with the comments that belong to them, occupy one stretch of it. A comment
that starts on the line where an import ends trails that import; other comments above an import
lead it. Above the first import, comments that concern the whole file stay where they are: pragmas,
and what a gap of blank lines sets apart.

## Main definitions

* `Attached`: an import declaration with its comments
* `Head.attached`: the imports of a head with their comments
* `Head.statements`, `Head.region`: the statements of a head and the stretch they occupy
-/

namespace ImportOrder

/-- **An import declaration with its comments.** -/
structure Attached where
  decl : ImportDecl
  leading : List Comment
  trailing : List Comment
deriving Repr, DecidableEq, Inhabited

namespace Comment

/-- The comments on the line that goes on at offset `stop`, and the rest. -/
def splitTrailing (source : Text) : (stop : Nat) → List Comment → List Comment × List Comment
  | _, [] => ([], [])
  | stop, c :: cs =>
    if (source.slice stop c.start).lineBreaks = 0 then
      let (trailing, rest) := splitTrailing source c.stop cs
      (c :: trailing, rest)
    else ([], c :: cs)

/-- Whether a comment above the first import concerns the whole file: it is a pragma, or `gap`
blank lines separate it from what follows at offset `next`. -/
def isFileLevel (source : Text) (gap : Nat) (c : Comment) (next : Nat) : Bool :=
  c.isPragma || gap ≤ (source.slice c.stop next).blankLines

/-- The comments below the last file-level one; the first import starts at offset `first`. -/
def belowFileLevel (source : Text) (gap first : Nat) (cs : List Comment) : List Comment :=
  let nexts := cs.tail.map Comment.start ++ [first]
  (((cs.zip nexts).reverse.takeWhile fun p => !isFileLevel source gap p.1 p.2).reverse).map (·.1)

/-- The lines that comments make up: comments on one line stay together. -/
def lines (source : Text) : List Comment → List Text
  | [] => []
  | [c] => [c.text]
  | c :: d :: cs =>
    let gap := source.slice c.stop d.start
    match lines source (d :: cs) with
    | [] => [c.text]
    | line :: more =>
      if gap.lineBreaks = 0 then (c.text ++ gap ++ line) :: more else c.text :: line :: more

/-- The source from the first of some comments to the last. -/
def stretch? (source : Text) (cs : List Comment) : Option Text :=
  match cs.head?, cs.getLast? with
  | some c, some d => some (source.slice c.start d.stop)
  | _, _ => none

end Comment

namespace Attached

/-- Gives the declarations their comments: `leading` are those of the first one, `after` all that
follow it. -/
def attach (source : Text) (decl : ImportDecl) (leading after : List Comment) :
    List ImportDecl → List Attached
  | [] => [⟨decl, leading, (Comment.splitTrailing source decl.span.stop after).1⟩]
  | next :: decls =>
    let between := after.takeWhile (·.start < next.span.start)
    let (trailing, nextLeading) := Comment.splitTrailing source decl.span.stop between
    ⟨decl, leading, trailing⟩ ::
      attach source next nextLeading (after.drop between.length) decls

/-- Where the declaration starts, with its comments. -/
def start (a : Attached) : Nat := (a.leading.head?.map Comment.start).getD a.decl.span.start

/-- Where the declaration ends, with its comments. -/
def stop (a : Attached) : Nat := (a.trailing.getLast?.map Comment.stop).getD a.decl.span.stop

/-- The statement of a declaration with its comments. -/
def statement (source : Text) (innerComments : Bool) (index : Nat) (a : Attached) : Statement where
  specifier := a.decl.specifier
  bindings := a.decl.bindings
  typeOnly := a.decl.typeOnly
  leadingComments := Comment.lines source a.leading
  trailingComment := Comment.stretch? source a.trailing
  start := a.decl.span.start
  stop := a.decl.span.stop
  raw := some (source.slice a.decl.span.start a.decl.span.stop)
  quote := a.decl.quote
  attributes := a.decl.attributes
  hasSemicolon := a.decl.hasSemicolon
  innerComments
  index

end Attached

namespace ImportDecl

/-- Whether a comment stands inside a declaration. -/
def holds (d : ImportDecl) (c : Comment) : Bool := d.span.start < c.start && c.start < d.span.stop

end ImportDecl

namespace Head

/-- Where the shebang and the directives end. -/
def floor (h : Head) : Nat := h.directives.foldl (fun n d => max n d.stop) h.shebangEnd

/-- The comments below the shebang and the directives. -/
def commentsBelowFloor (h : Head) : List Comment := h.comments.filter (h.floor ≤ ·.start)

/-- The comments that stand in no declaration. -/
def outerComments (h : Head) : List Comment :=
  h.commentsBelowFloor.filter fun c => !h.imports.any (·.holds c)

/-- The comments that lead the first import, which starts at offset `first`. Those on the line of
the shebang or of a directive stay there. -/
def firstLeading (h : Head) (gap first : Nat) : List Comment :=
  let above := h.outerComments.takeWhile (·.start < first)
  let below := if h.floor = 0 then above else (Comment.splitTrailing h.source h.floor above).2
  Comment.belowFileLevel h.source gap first below

/-- The imports with their comments. -/
def attached (h : Head) (gap : Nat) : List Attached :=
  match h.imports with
  | [] => []
  | d :: ds =>
    Attached.attach h.source d (h.firstLeading gap d.span.start)
      (h.outerComments.dropWhile (·.start < d.span.start)) ds

/-- The import statements of a source. -/
def statements (h : Head) (gap : Nat) : List Statement :=
  (h.attached gap).mapIdx fun i a =>
    a.statement h.source (h.commentsBelowFloor.any a.decl.holds) i

/-- The stretch of source that the imports and their comments occupy. -/
def region (h : Head) (gap : Nat) : Option Span :=
  match (h.attached gap).head?, (h.attached gap).getLast? with
  | some a, some b => some ⟨a.start, b.stop⟩
  | _, _ => none

end Head

end ImportOrder
