import ImportOrder.Proofs.Results
import ImportOrder.Proofs.Source.Frame
import Mathlib.Data.List.Nodup

/-!
# What the region of a head holds

The region is replaced as a whole, so that nothing may stand in it that is not written again. It
holds the declarations, the comments recorded for them, and blanks between these. Every comment
below the directives has one place: inside a statement, above one, behind one, or outside of the
region.

## Main definitions

* `Statement.Records`: the comments recorded for a statement
* `CommentPlace`: where a comment can stand
* `Head.Accounts`: a region of which statements and recorded comments are all

## Main results

* `CommentPlace.existsUnique_holds`: comments that are named once have one place
* `Head.exists_accounts`: the region of a source holds nothing but what is recorded
-/

namespace ImportOrder

/-! ## The place of a comment -/

/-- **Where a comment can stand**: inside a statement, above one, or behind one on its line (the
statement is given by its number), or else outside of the region. -/
inductive CommentPlace where
  | inside (i : Nat)
  | above (i : Nat)
  | behind (i : Nat)
  | outside
deriving Repr, DecidableEq

namespace CommentPlace

/-- Whether a comment stands at a place; `comments` are those above and behind each statement. -/
def Holds (region : Span) (sts : List Statement) (comments : List (List Comment × List Comment))
    (c : Comment) : CommentPlace → Prop
  | inside i => ∃ st, sts[i]? = some st ∧ st.start < c.start ∧ c.stop ≤ st.stop
  | above i => ∃ cs, comments[i]? = some cs ∧ c ∈ cs.1
  | behind i => ∃ cs, comments[i]? = some cs ∧ c ∈ cs.2
  | outside => c.stop ≤ region.start ∨ region.stop ≤ c.start

/-- Whether a place is above or behind a statement. -/
def isBeside : CommentPlace → Bool
  | above _ | behind _ => true
  | inside _ | outside => false

variable {region : Span} {sts : List Statement} {comments : List (List Comment × List Comment)}
  {c : Comment}

/-- Statements in order hold a comment once. -/
theorem eq_of_surrounds (hsts : sts.Pairwise (·.stop ≤ ·.start)) (hc : c.start < c.stop)
    {i j : Nat} (hi : (inside i).Holds region sts comments c)
    (hj : (inside j).Holds region sts comments c) : i = j := by
  have hordered := List.pairwise_iff_getElem.1 hsts
  obtain ⟨st, hi, hst⟩ := hi
  obtain ⟨st', hj, hst'⟩ := hj
  obtain ⟨hilt, rfl⟩ := List.getElem?_eq_some_iff.1 hi
  obtain ⟨hjlt, rfl⟩ := List.getElem?_eq_some_iff.1 hj
  rcases Nat.lt_trichotomy i j with hij | hij | hij
  · have := hordered i j hilt hjlt hij
    omega
  · exact hij
  · have := hordered j i hjlt hilt hij
    omega

/-- Comments that are named once are named for one statement. -/
theorem eq_of_mem_parts (hnodup : (comments.flatMap fun cs => cs.1 ++ cs.2).Nodup) {i j : Nat}
    {cs ds : List Comment × List Comment} (hi : comments[i]? = some cs)
    (hj : comments[j]? = some ds) (hcs : c ∈ cs.1 ++ cs.2) (hds : c ∈ ds.1 ++ ds.2) : i = j := by
  have hdisjoint := List.pairwise_iff_getElem.1 (List.nodup_flatMap.1 hnodup).2
  obtain ⟨hilt, rfl⟩ := List.getElem?_eq_some_iff.1 hi
  obtain ⟨hjlt, rfl⟩ := List.getElem?_eq_some_iff.1 hj
  rcases Nat.lt_trichotomy i j with hij | hij | hij
  · exact absurd hds (hdisjoint i j hilt hjlt hij hcs)
  · exact hij
  · exact absurd hcs (hdisjoint j i hjlt hilt hij hds)

/-- A comment that is named once does not stand both above and behind statements. -/
theorem not_above_and_behind (hnodup : (comments.flatMap fun cs => cs.1 ++ cs.2).Nodup) {i j : Nat}
    (hi : (above i).Holds region sts comments c) : ¬(behind j).Holds region sts comments c := by
  obtain ⟨cs, hi, hcs⟩ := hi
  rintro ⟨ds, hj, hds⟩
  obtain rfl := eq_of_mem_parts hnodup hi hj (List.mem_append_left _ hcs)
    (List.mem_append_right _ hds)
  obtain rfl := Option.some.inj (hi.symm.trans hj)
  have hparts := (List.nodup_flatMap.1 hnodup).1 cs (List.mem_of_getElem? hi)
  exact List.disjoint_of_nodup_append hparts hcs hds

/-- Comments that are named once have one place beside statements. -/
theorem eq_of_isBeside (hnodup : (comments.flatMap fun cs => cs.1 ++ cs.2).Nodup)
    {p q : CommentPlace} (hp : p.Holds region sts comments c) (hq : q.Holds region sts comments c)
    (hpbeside : p.isBeside = true) (hqbeside : q.isBeside = true) : p = q := by
  cases p with
  | inside | outside => cases hpbeside
  | above i =>
    cases q with
    | inside | outside => cases hqbeside
    | above j =>
      obtain ⟨⟨cs, hi, hcs⟩, ⟨ds, hj, hds⟩⟩ := And.intro hp hq
      rw [eq_of_mem_parts hnodup hi hj (List.mem_append_left _ hcs) (List.mem_append_left _ hds)]
    | behind j => exact absurd hq (not_above_and_behind hnodup hp)
  | behind i =>
    cases q with
    | inside | outside => cases hqbeside
    | above j => exact absurd hp (not_above_and_behind hnodup hq)
    | behind j =>
      obtain ⟨⟨cs, hi, hcs⟩, ⟨ds, hj, hds⟩⟩ := And.intro hp hq
      rw [eq_of_mem_parts hnodup hi hj (List.mem_append_right _ hcs) (List.mem_append_right _ hds)]

/-- The comments that are named are those beside statements. -/
theorem exists_isBeside_iff : (∃ p : CommentPlace, p.isBeside = true ∧
    p.Holds region sts comments c) ↔ c ∈ comments.flatMap fun cs => cs.1 ++ cs.2 := by
  constructor
  · rintro ⟨p, hbeside, hp⟩
    cases p with
    | inside | outside => cases hbeside
    | above i =>
      obtain ⟨cs, hi, hcs⟩ := hp
      exact List.mem_flatMap.2 ⟨cs, List.mem_of_getElem? hi, List.mem_append_left _ hcs⟩
    | behind i =>
      obtain ⟨cs, hi, hcs⟩ := hp
      exact List.mem_flatMap.2 ⟨cs, List.mem_of_getElem? hi, List.mem_append_right _ hcs⟩
  · intro h
    obtain ⟨cs, hcs, hside⟩ := List.mem_flatMap.1 h
    obtain ⟨i, hi⟩ := List.getElem?_of_mem hcs
    rcases List.mem_append.1 hside with hside | hside
    · exact ⟨above i, rfl, cs, hi, hside⟩
    · exact ⟨behind i, rfl, cs, hi, hside⟩

section

variable (hc : c.start < c.stop)
  (hwithin : ∀ st ∈ sts, region.start ≤ st.start ∧ st.stop ≤ region.stop)
  (hnodup : (comments.flatMap fun cs => cs.1 ++ cs.2).Nodup)
  (hnamed : (c ∈ comments.flatMap fun cs => cs.1 ++ cs.2) ↔
    region.start ≤ c.start ∧ c.stop ≤ region.stop ∧
      ∀ st ∈ sts, ¬(st.start < c.start ∧ c.stop ≤ st.stop))

include hnamed

/-- A comment that is named if it stands in the region and in no statement has a place. -/
theorem exists_holds (hregion : (region.start ≤ c.start ∧ c.stop ≤ region.stop) ∨
    c.stop ≤ region.start ∨ region.stop ≤ c.start) :
    ∃ p : CommentPlace, p.Holds region sts comments c := by
  rcases hregion with hin | hout
  · by_cases hst : ∃ st ∈ sts, st.start < c.start ∧ c.stop ≤ st.stop
    · obtain ⟨st, hmem, hst⟩ := hst
      obtain ⟨i, hi⟩ := List.getElem?_of_mem hmem
      exact ⟨inside i, st, hi, hst⟩
    · have hnot : ∀ st ∈ sts, ¬(st.start < c.start ∧ c.stop ≤ st.stop) := fun st hmem h =>
        hst ⟨st, hmem, h⟩
      obtain ⟨p, -, hp⟩ := exists_isBeside_iff.2 (hnamed.2 ⟨hin.1, hin.2, hnot⟩)
      exact ⟨p, hp⟩
  · exact ⟨outside, hout⟩

include hc hwithin

/-- A comment inside a statement is not named, and it is not outside of the region. -/
theorem not_mem_of_inside {i : Nat} (h : (inside i).Holds region sts comments c) :
    (c ∉ comments.flatMap fun cs => cs.1 ++ cs.2) ∧ ¬outside.Holds region sts comments c := by
  obtain ⟨st, hi, hst⟩ := h
  have hmem := List.mem_of_getElem? hi
  refine ⟨fun h => (hnamed.1 h).2.2 st hmem hst, ?_⟩
  have := hwithin st hmem
  rintro (hout | hout) <;> omega

include hnodup

/-- A comment that is named once has no two places. -/
theorem eq_of_holds (hsts : sts.Pairwise (·.stop ≤ ·.start))
    {p q : CommentPlace} (hp : p.Holds region sts comments c)
    (hq : q.Holds region sts comments c) : p = q := by
  have hbeside : ∀ p : CommentPlace, p.isBeside = true → p.Holds region sts comments c →
      c ∈ comments.flatMap fun cs => cs.1 ++ cs.2 := fun p hp h =>
    exists_isBeside_iff.1 ⟨p, hp, h⟩
  have houtside : outside.Holds region sts comments c →
      c ∉ comments.flatMap fun cs => cs.1 ++ cs.2 := by
    rintro hout h
    have := hnamed.1 h
    rcases hout with hout | hout <;> omega
  cases p with
  | inside i =>
    cases q with
    | inside j => rw [eq_of_surrounds hsts hc hp hq]
    | above j | behind j =>
      exact absurd (hbeside _ rfl hq) (not_mem_of_inside hc hwithin hnamed hp).1
    | outside => exact absurd hq (not_mem_of_inside hc hwithin hnamed hp).2
  | above i | behind i =>
    cases q with
    | inside j => exact absurd (hbeside _ rfl hp) (not_mem_of_inside hc hwithin hnamed hq).1
    | above j | behind j => exact eq_of_isBeside hnodup hp hq rfl rfl
    | outside => exact absurd (hbeside _ rfl hp) (houtside hq)
  | outside =>
    cases q with
    | inside j => exact absurd hp (not_mem_of_inside hc hwithin hnamed hq).2
    | above j | behind j => exact absurd (hbeside _ rfl hq) (houtside hp)
    | outside => rfl

end

/-- Comments that are named once, and are named if they stand in the region and in no statement,
have one place each. -/
theorem existsUnique_holds (hc : c.start < c.stop) (hsts : sts.Pairwise (·.stop ≤ ·.start))
    (hwithin : ∀ st ∈ sts, region.start ≤ st.start ∧ st.stop ≤ region.stop)
    (hnodup : (comments.flatMap fun cs => cs.1 ++ cs.2).Nodup)
    (hregion : (region.start ≤ c.start ∧ c.stop ≤ region.stop) ∨
      c.stop ≤ region.start ∨ region.stop ≤ c.start)
    (hnamed : (c ∈ comments.flatMap fun cs => cs.1 ++ cs.2) ↔
      region.start ≤ c.start ∧ c.stop ≤ region.stop ∧
        ∀ st ∈ sts, ¬(st.start < c.start ∧ c.stop ≤ st.stop)) :
    ∃! place : CommentPlace, place.Holds region sts comments c := by
  obtain ⟨p, hp⟩ := exists_holds hnamed hregion
  exact ⟨p, hp, fun q hq => eq_of_holds hc hwithin hnodup hnamed hsts hq hp⟩

end CommentPlace

/-! ## Statements and their declarations -/

/-- **The statement of a declaration**: it says what the declaration says, and keeps its text. -/
structure Statement.Restates (source : Text) (decl : ImportDecl) (st : Statement) : Prop where
  start : st.start = decl.span.start
  stop : st.stop = decl.span.stop
  raw : st.raw = some (source.slice decl.span.start decl.span.stop)
  specifier : st.specifier = decl.specifier
  quote : st.quote = decl.quote
  bindings : st.bindings = decl.bindings
  typeOnly : st.typeOnly = decl.typeOnly
  attributes : st.attributes = decl.attributes
  hasSemicolon : st.hasSemicolon = decl.hasSemicolon

/-- **The comments of a statement**: `leading` make up the lines above it, one or more of them each,
and `trailing` are what stands behind it. -/
structure Statement.Records (source : Text) (st : Statement) (leading trailing : List Comment) :
    Prop where
  leading : ∃ groups : List (List Comment), groups.flatten = leading ∧
    List.Forall₂ (fun group line => Comment.stretch? source group = some line) groups
      st.leadingComments
  trailing : Comment.stretch? source trailing = st.trailingComment

theorem forall₂_mapIdx {α β : Type} {R : α → β → Prop} {f : Nat → α → β} {as : List α}
    (h : ∀ i, ∀ a ∈ as, R a (f i a)) : List.Forall₂ R as (as.mapIdx f) := by
  induction as generalizing f with
  | nil => exact .nil
  | cons a as ih =>
    rw [List.mapIdx_cons]
    exact .cons (h 0 a List.mem_cons_self)
      (ih fun i b hb => h (i + 1) b (List.mem_cons_of_mem a hb))

theorem Attached.map_decl_attach (source : Text) (decl : ImportDecl) (leading after : List Comment)
    (decls : List ImportDecl) :
    (attach source decl leading after decls).map Attached.decl = decl :: decls := by
  induction decls generalizing decl leading after with
  | nil => rfl
  | cons next decls ih =>
    rw [attach]
    dsimp only
    rw [List.map_cons, ih]

namespace Head

variable {h : Head} {gap : Nat}

theorem map_decl_attached (h : Head) (gap : Nat) :
    (h.attached gap).map Attached.decl = h.imports := by
  rw [attached]
  split
  · rename_i himports
    rw [himports]
    rfl
  · rename_i decl decls himports
    rw [himports, Attached.map_decl_attach]

/-- There is one statement for each declaration. -/
theorem forall₂_restates (h : Head) (gap : Nat) :
    List.Forall₂ (Statement.Restates h.source) h.imports (h.statements gap) := by
  rw [← map_decl_attached h gap, List.forall₂_map_left_iff, statements]
  exact forall₂_mapIdx fun i a _ => ⟨rfl, rfl, rfl, rfl, rfl, rfl, rfl, rfl, rfl⟩

/-- The statements stand where the declarations stand. -/
theorem map_span_statements (h : Head) (gap : Nat) :
    (h.statements gap).map (fun st => Span.mk st.start st.stop) = h.imports.map (·.span) := by
  have hspans : List.Forall₂ Eq (h.imports.map (·.span))
      ((h.statements gap).map fun st => Span.mk st.start st.stop) := by
    rw [List.forall₂_map_left_iff, List.forall₂_map_right_iff]
    refine (forall₂_restates h gap).imp fun decl st hst => ?_
    rw [hst.start, hst.stop]
  rw [List.forall₂_eq_eq_eq] at hspans
  exact hspans.symm

theorem exists_statement_iff {P : Nat → Nat → Prop} :
    (∃ st ∈ h.statements gap, P st.start st.stop) ↔
      ∃ decl ∈ h.imports, P decl.span.start decl.span.stop := by
  have hsts : (∃ s ∈ (h.statements gap).map (fun st => Span.mk st.start st.stop),
      P s.start s.stop) ↔ ∃ st ∈ h.statements gap, P st.start st.stop := by simp
  rw [← hsts, map_span_statements]
  simp

theorem forall_statement_iff {P : Nat → Nat → Prop} :
    (∀ st ∈ h.statements gap, P st.start st.stop) ↔
      ∀ decl ∈ h.imports, P decl.span.start decl.span.stop := by
  have hsts : (∀ s ∈ (h.statements gap).map (fun st => Span.mk st.start st.stop),
      P s.start s.stop) ↔ ∀ st ∈ h.statements gap, P st.start st.stop := List.forall_mem_map
  rw [← hsts, map_span_statements, List.forall_mem_map]

theorem pairwise_statements_iff : (h.statements gap).Pairwise (·.stop ≤ ·.start) ↔
    h.imports.Pairwise (·.span.stop ≤ ·.span.start) := by
  have hsts : ((h.statements gap).map fun st => Span.mk st.start st.stop).Pairwise
      (·.stop ≤ ·.start) ↔ (h.statements gap).Pairwise (·.stop ≤ ·.start) := List.pairwise_map
  rw [← hsts, map_span_statements, List.pairwise_map]

end Head

namespace Layout.Frame.IsOf

variable {d : Dialect} {l : Layout} {gap : Nat} {f : Frame}

/-- The comments attached to a declaration are recorded for its statement. -/
theorem records (h : l.IsValid d) (hf : f.IsOf d l gap) {a : Attached}
    (ha : a ∈ (l.head d).attached gap) (inner : Bool) (i : Nat) :
    (a.statement (l.head d).source inner i).Records (l.head d).source a.leading a.trailing := by
  have hsub : (a.leading ++ a.trailing).Sublist
      (((l.head d).attached gap).flatMap fun a => a.leading ++ a.trailing) :=
    List.sublist_flatten_of_mem (List.mem_map_of_mem ha)
  have hleading : a.leading.Sublist
      (((l.head d).attached gap).flatMap fun a => a.leading ++ a.trailing) :=
    (List.sublist_append_left _ _).trans hsub
  constructor
  · refine Comment.exists_lines ((pairwise_recorded h hf).sublist hleading) fun c hc => ?_
    exact (slice_of_mem_comments h ((mem_recorded_iff h hf).1 (hleading.subset hc)).1).2
  · rfl

/-- A statement is known to have comments inside if there are some. -/
theorem innerComments_iff (h : l.IsValid d) (hf : f.IsOf d l gap) {st : Statement}
    (hst : st ∈ (l.head d).statements gap) :
    st.innerComments = true ↔
      ∃ c ∈ (l.head d).comments, st.start < c.start ∧ c.stop ≤ st.stop := by
  obtain ⟨i, hi, rfl⟩ := List.mem_mapIdx.1 hst
  generalize ha : ((l.head d).attached gap)[i] = a
  have hmem : a.decl ∈ (l.head d).imports := by
    rw [← Head.map_decl_attached _ gap, ← ha]
    exact List.mem_map_of_mem (List.getElem_mem hi)
  have hfloor : (l.head d).floor ≤ a.decl.span.start := by
    rw [floor_head h]
    exact Nat.le_trans hf.floor (within hf hmem).1
  show (l.head d).commentsBelowFloor.any a.decl.holds = true ↔
    ∃ c ∈ (l.head d).comments, a.decl.span.start < c.start ∧ c.stop ≤ a.decl.span.stop
  rw [List.any_eq_true]
  constructor
  · rintro ⟨c, hc, hholds⟩
    have hc := (List.mem_filter.1 hc).1
    exact ⟨c, hc, (holds_iff h hf hc hmem).1 hholds⟩
  · rintro ⟨c, hc, hin⟩
    refine ⟨c, List.mem_filter.2 ⟨hc, decide_eq_true ?_⟩, (holds_iff h hf hc hmem).2 hin⟩
    omega

/-- The characters of the region. -/
theorem covers (h : l.IsValid d) (hf : f.IsOf d l gap) {i : Nat} (hle : f.start l ≤ i)
    (hlt : i < f.stop l) :
    (∃ decl ∈ (l.head d).imports, decl.span.start ≤ i ∧ i < decl.span.stop) ∨
      (∃ c ∈ (l.head d).comments, c.start ≤ i ∧ i < c.stop) ∨
        ∃ x, (l.head d).source[i]? = some x ∧ (isSpace x = true ∨ isLineTerminator x = true) := by
  obtain ⟨pre, post, hpre, hsource⟩ := exists_source hf
  rw [hf.imports, hsource]
  rw [Frame.stop] at hlt
  rw [← hpre] at hle hlt ⊢
  rcases Segment.covers post hf.segments (standsBefore h hf) hf.line hle hlt with
    hdecl | ⟨c, hc, hin⟩ | hblank
  · exact .inl hdecl
  · refine .inr (.inl ⟨c, ?_, hin⟩)
    rw [comments_eq hf, ← hpre]
    exact List.mem_append_right _ (List.mem_append_left _ hc)
  · exact .inr (.inr hblank)

end Layout.Frame.IsOf

namespace Head

/-- The comments recorded for the statements: those above and those behind each one. -/
def recorded (h : Head) (gap : Nat) : List (List Comment × List Comment) :=
  (h.attached gap).map fun a => (a.leading, a.trailing)

theorem flatMap_recorded (h : Head) (gap : Nat) :
    (h.recorded gap).flatMap (fun cs => cs.1 ++ cs.2) =
      (h.attached gap).flatMap fun a => a.leading ++ a.trailing := by
  rw [recorded, List.flatMap_map]

/-- **A region that holds nothing else** than statements, their comments, and blanks. -/
structure Accounts (h : Head) (gap : Nat) (region : Span) : Prop where
  /-- There is one statement for each declaration, with its text. -/
  restates : List.Forall₂ (Statement.Restates h.source) h.imports (h.statements gap)
  /-- The statements stand in the region one after the other. -/
  nonempty : ∀ st ∈ h.statements gap, st.start < st.stop
  ordered : (h.statements gap).Pairwise (·.stop ≤ ·.start)
  within : ∀ st ∈ h.statements gap, region.start ≤ st.start ∧ st.stop ≤ region.stop
  /-- What is in no statement and in no comment is blank. -/
  covered : region.stop ≤ h.source.length ∧ ∀ i, region.start ≤ i → i < region.stop →
    (∃ st ∈ h.statements gap, st.start ≤ i ∧ i < st.stop) ∨
      (∃ c ∈ h.comments, c.start ≤ i ∧ i < c.stop) ∨
        ∃ x, h.source[i]? = some x ∧ (isSpace x = true ∨ isLineTerminator x = true)
  /-- A statement with comments inside is known to have some. -/
  inner : ∀ st ∈ h.statements gap,
    st.innerComments = true ↔ ∃ c ∈ h.comments, st.start < c.start ∧ c.stop ≤ st.stop
  /-- The recorded comments are what the statements say of them. -/
  records : List.Forall₂ (fun st cs => st.Records h.source cs.1 cs.2) (h.statements gap)
    (h.recorded gap)
  /-- Each comment has one place. -/
  place : ∀ c ∈ h.commentsBelowFloor,
    ∃! place : CommentPlace, place.Holds region (h.statements gap) (h.recorded gap) c
  /-- The recorded comments are all that stand between the statements, once each and in order. -/
  complete : ∀ c, (c ∈ (h.recorded gap).flatMap fun cs => cs.1 ++ cs.2) ↔
    c ∈ h.comments ∧ region.start ≤ c.start ∧ c.stop ≤ region.stop ∧
      ∀ st ∈ h.statements gap, ¬(st.start < c.start ∧ c.stop ≤ st.stop)
  increasing : ((h.recorded gap).flatMap fun cs => cs.1 ++ cs.2).Pairwise (·.start < ·.start)

/-- **The region of a source holds nothing but what is recorded.** -/
theorem exists_accounts {source : Text} {d : Dialect} {h : Head}
    (hparse : Head.parse source d = .ok h) (himports : h.imports ≠ []) (gap : Nat) :
    ∃ region, h.region gap = some region ∧ h.Accounts gap region := by
  obtain ⟨l, hl, -, rfl⟩ := Layout.exists_of_parse hparse himports
  obtain ⟨f, hf⟩ := Layout.exists_frame hl gap
  have hordered : ((l.head d).statements gap).Pairwise (·.stop ≤ ·.start) := by
    rw [pairwise_statements_iff, hf.imports]
    exact Segment.pairwise_decls _ _
  have hwithin : ∀ st ∈ (l.head d).statements gap, f.start l ≤ st.start ∧ st.stop ≤ f.stop l :=
    (forall_statement_iff (P := fun start stop => f.start l ≤ start ∧ stop ≤ f.stop l)).2
      fun decl hdecl => hf.within hdecl
  have hincreasing : (((l.head d).recorded gap).flatMap fun cs => cs.1 ++ cs.2).Pairwise
      (·.start < ·.start) := by
    rw [flatMap_recorded]
    exact hf.start_lt_of_recorded hl
  have hcomplete : ∀ c, (c ∈ ((l.head d).recorded gap).flatMap fun cs => cs.1 ++ cs.2) ↔
      c ∈ (l.head d).comments ∧ f.start l ≤ c.start ∧ c.stop ≤ f.stop l ∧
        ∀ st ∈ (l.head d).statements gap, ¬(st.start < c.start ∧ c.stop ≤ st.stop) := by
    intro c
    rw [flatMap_recorded, hf.mem_recorded_iff hl,
      forall_statement_iff (P := fun start stop => ¬(start < c.start ∧ c.stop ≤ stop))]
  refine ⟨⟨f.start l, f.stop l⟩, hf.region, ?_⟩
  constructor
  case restates => exact forall₂_restates _ gap
  case nonempty =>
    rw [forall_statement_iff (P := fun start stop => start < stop), hf.imports]
    exact fun decl hdecl => Segment.start_lt_stop_of_mem_decls hf.segments hdecl
  case ordered => exact hordered
  case within => exact hwithin
  case covered =>
    refine ⟨hf.stop_le_length, fun i hle hlt => ?_⟩
    rw [exists_statement_iff (P := fun start stop => start ≤ i ∧ i < stop)]
    exact hf.covers hl hle hlt
  case inner => exact fun st hst => hf.innerComments_iff hl hst
  case records =>
    rw [recorded, List.forall₂_map_right_iff]
    exact (forall₂_mapIdx fun i a ha => hf.records hl ha _ i).flip
  case place =>
    intro c hc
    have hc := (List.mem_filter.1 hc).1
    refine CommentPlace.existsUnique_holds (Layout.slice_of_mem_comments hl hc).1 hordered hwithin
      (hincreasing.imp fun hlt heq => absurd (congrArg Comment.start heq) (Nat.ne_of_lt hlt)) ?_
      ((hcomplete c).trans (and_iff_right hc))
    rcases hf.region_cases hl hc with ⟨-, hin⟩ | ⟨-, hout⟩
    · exact .inl hin
    · exact .inr hout
  case complete => exact hcomplete
  case increasing => exact hincreasing

/-- A source with comments on the line of a directive, above the imports, in one and beside them. -/
def commentedSource : Text :=
  ("'use strict' // d\n// file\n\n// lead\n/* a */ import x /* in */ from 'm'; // t\n" ++
    "/* b */ import 'k'\ncode()").toList

/-- The region starts below the first two comments and ends before the code. -/
theorem accounts_commentedSource : ∃ h, Head.parse commentedSource ⟨true, false⟩ = .ok h ∧
    h.imports ≠ [] ∧ h.region 1 = some ⟨27, 94⟩ ∧ h.Accounts 1 ⟨27, 94⟩ := by
  have hread : (Head.parse commentedSource ⟨true, false⟩).toOption.bind (fun h =>
      if h.imports = [] then none else h.region 1) = some ⟨27, 94⟩ := by
    decide +kernel
  obtain ⟨h, hparse, hregion⟩ := Option.bind_eq_some_iff.1 hread
  have hparse := Except.eq_ok_of_toOption hparse
  split at hregion
  · cases hregion
  · rename_i himports
    obtain ⟨region, hsome, haccounts⟩ := exists_accounts hparse himports 1
    obtain rfl := Option.some.inj (hsome.symm.trans hregion)
    exact ⟨h, hparse, himports, hregion, haccounts⟩

end Head

end ImportOrder
