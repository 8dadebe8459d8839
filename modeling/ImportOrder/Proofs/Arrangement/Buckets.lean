import ImportOrder.Arrangement
import ImportOrder.Platform.Usual
import ImportOrder.Proofs.Arrangement.Ordering
import ImportOrder.Proofs.Merge.Duplicates
import Mathlib.Data.List.Nodup

/-!
# Statements in their groups

Arranging puts each statement into the first group that has a pattern for it, merges and sorts the
statements of each group, and gives the groups in the order of their positions. Merging makes new
statements, but each of them belongs where the merged ones did: patterns look at the module and at
whether something is bound.

## Main definitions

* `membersAt`: the statements that belong to the group at a position
* `mergedMembers`: statements of a group, merged if they are to be
* `IsBucket`: what a group of arranged statements is

## Main results

* `Group.nodup_build`: different groups have different positions
* `arrange_eq_ok_iff`: what arranging does
* `exists_like_of_mergedMembers`: merged statements are like those that were merged
* `arrange_buckets`: arranged statements are in their groups, merged and in order
-/

namespace ImportOrder

/-! ## Positions -/

namespace Group

theorem nodup_compileRules [Platform] {index : Nat} {taken : List (Int × WideText)}
    {rules : List GroupRule}
    {groups : List Group} (h : compileRules index taken rules = .ok groups) :
    (groups.map (·.position)).Nodup ∧ ∀ g ∈ groups, ∀ e ∈ taken, e.1 ≠ g.position := by
  -- The positions taken so far are generalized: a rule is checked against all rules before it.
  induction rules generalizing index taken groups with
  | nil =>
    obtain rfl := Except.ok.inj h
    simp
  | cons rule rules ih =>
    simp only [compileRules] at h
    split at h
    · cases h
    rename_i hfree
    cases hm : rule.patterns.mapM Matcher.compile with
    | error e => simp [hm, bind, Except.bind] at h
    | ok matchers =>
      rw [hm] at h
      cases hrest : compileRules (index + 1)
          (taken ++ [(rule.position.getD index, rule.name)]) rules with
      | error e => simp [hrest, bind, Except.bind] at h
      | ok rest =>
        rw [hrest] at h
        obtain rfl := Except.ok.inj h
        obtain ⟨hnodup, hapart⟩ := ih hrest
        constructor
        · rw [List.map_cons, List.nodup_cons]
          refine ⟨?_, hnodup⟩
          intro hmem
          obtain ⟨g, hg, heq⟩ := List.mem_map.1 hmem
          exact hapart g hg _ (List.mem_append_right _ (List.mem_singleton.2 rfl)) heq.symm
        · intro g hg e he
          rcases List.mem_cons.1 hg with rfl | hg
          · simpa using List.find?_eq_none.1 hfree e he
          · exact hapart g hg e (List.mem_append_left _ he)

theorem le_foldl_max (n : Int) (ns : List Int) :
    n ≤ ns.foldl max n ∧ ∀ m ∈ ns, m ≤ ns.foldl max n := by
  induction ns generalizing n with
  | nil => simp
  | cons m ns ih =>
    obtain ⟨hstart, hrest⟩ := ih (max n m)
    refine ⟨by simp only [List.foldl_cons]; omega, ?_⟩
    intro k hk
    rcases List.mem_cons.1 hk with rfl | hk
    · simp only [List.foldl_cons]
      omega
    · exact hrest k hk

/-- The next position comes after all others. -/
theorem lt_nextPosition {groups : List Group} {g : Group} (h : g ∈ groups) :
    g.position < nextPosition groups := by
  have hmem : g.position ∈ groups.map (·.position) := List.mem_map_of_mem h
  unfold nextPosition
  cases hps : groups.map (·.position) with
  | nil =>
    rw [hps] at hmem
    simp at hmem
  | cons n ns =>
    rw [hps] at hmem
    obtain ⟨hfirst, hrest⟩ := le_foldl_max n ns
    rcases List.mem_cons.1 hmem with heq | hmem
    · simp only [heq]
      omega
    · have := hrest _ hmem
      simp only
      omega

/-- **Different groups have different positions.** -/
theorem nodup_build [Platform] {rules : List GroupRule} {groups : List Group}
    (h : build rules = .ok groups) : (groups.map (·.position)).Nodup := by
  unfold build at h
  cases hrules : compileRules 0 [] rules with
  | error e =>
    rw [hrules] at h
    cases h
  | ok compiled =>
    rw [hrules] at h
    obtain rfl := Except.ok.inj h
    obtain ⟨hnodup, -⟩ := nodup_compileRules hrules
    unfold withCatchAll
    split
    · exact hnodup
    · rw [List.map_append, List.map_singleton, List.nodup_append]
      refine ⟨hnodup, by simp, ?_⟩
      intro n hn m hm
      obtain ⟨g, hg, rfl⟩ := List.mem_map.1 hn
      obtain rfl := List.mem_singleton.1 hm
      exact Int.ne_of_lt (lt_nextPosition hg)

/-- Groups of different positions with the same position are the same. -/
theorem eq_of_position {groups : List Group} (hnodup : (groups.map (·.position)).Nodup)
    {g g' : Group} (hg : g ∈ groups) (hg' : g' ∈ groups) (h : g.position = g'.position) : g = g' :=
  List.inj_on_of_nodup_map hnodup hg hg' h

end Group

theorem perm_sortedPositions (groups : List Group) :
    (sortedPositions groups).Perm (groups.map (·.position)) := inOrder_perm _ _

theorem pairwise_sortedPositions {groups : List Group}
    (hnodup : (groups.map (·.position)).Nodup) : (sortedPositions groups).Pairwise (· < ·) := by
  have hle : (sortedPositions groups).Pairwise (fun m n => decide (m ≤ n) = true) := by
    apply pairwise_inOrder
    · intro a b c hab hbc
      simp only [decide_eq_true_eq] at hab hbc ⊢
      omega
    · intro a b
      simp only [Bool.or_eq_true, decide_eq_true_eq]
      omega
  have hne : (sortedPositions groups).Pairwise (· ≠ ·) :=
    (perm_sortedPositions groups).nodup_iff.2 hnodup
  refine (hle.and hne).imp ?_
  rintro m n ⟨hmn, hne⟩
  have := of_decide_eq_true hmn
  omega

/-! ## What arranging does -/

/-- The statements that belong to the group at a position. -/
def membersAt (project : Option Project) (groups : List Group) (position : Int)
    (ss : List Statement) : List Statement :=
  ss.filter fun st => (Group.classify? project groups st).any (·.position == position)

/-- Statements of a group, merged if the settings ask for it. -/
def mergedMembers (s : Settings) (ss : List Statement) : Except Failure (List Statement) :=
  if s.mergeDuplicates then (mergeDuplicates ss).result else .ok ss

section Arranging

variable {s : Settings} {project : Option Project} {groups : List Group} {ss : List Statement}

/-- Statements are placed if each of them belongs to a group. -/
theorem classifyAll_eq_ok_iff {placed : List (Int × Statement)} :
    classifyAll project groups ss = .ok placed ↔
      List.Forall₂ (fun st p => ∃ g, Group.classify? project groups st = some g ∧
        p = (g.position, st)) ss placed := by
  rw [classifyAll, mapM_eq_ok_iff]
  apply iff_of_eq
  congr 1
  funext st p
  cases Group.classify? project groups st with
  | none => simp
  | some g => simp [eq_comm]

theorem exists_classifyAll_iff : (∃ placed, classifyAll project groups ss = .ok placed) ↔
    ∀ st ∈ ss, (Group.classify? project groups st).isSome = true := by
  simp only [classifyAll_eq_ok_iff]
  induction ss with
  | nil => simp
  | cons st ss ih =>
    rw [List.forall_mem_cons, ← ih]
    constructor
    · rintro ⟨placed, hplaced⟩
      cases hplaced with
      | cons hst hrest =>
        obtain ⟨g, hg, -⟩ := hst
        exact ⟨by simp [hg], _, hrest⟩
    · rintro ⟨hst, placed, hrest⟩
      obtain ⟨g, hg⟩ := Option.isSome_iff_exists.1 hst
      exact ⟨(g.position, st) :: placed, .cons ⟨g, hg, rfl⟩ hrest⟩

theorem membersAt_of_classifyAll {placed : List (Int × Statement)}
    (h : classifyAll project groups ss = .ok placed) (position : Int) :
    (placed.filter (·.1 == position)).map (·.2) = membersAt project groups position ss := by
  have hplaced := classifyAll_eq_ok_iff.1 h
  clear h
  unfold membersAt
  induction hplaced with
  | nil => rfl
  | @cons st p ss placed hp _ ih =>
    obtain ⟨g, hg, rfl⟩ := hp
    by_cases hpos : g.position = position
    · simp [hg, hpos, ih]
    · simp [hg, hpos, ih]

/-- **What arranging a group does**: the members are merged, if they are to be, and sorted. -/
theorem arrangeGroup_eq_ok_iff {placed : List (Int × Statement)} {position : Int}
    {group : List Statement} (h : classifyAll project groups ss = .ok placed) :
    (arrangeGroup s placed position).result = .ok group ↔
      ∃ merged, mergedMembers s (membersAt project groups position ss) = .ok merged ∧
        group = sortStatements s merged := by
  rw [← membersAt_of_classifyAll h, arrangeGroup, mergedMembers]
  split
  all_goals
    rw [Journaled.bind_eq_ok_iff]
    simp only [Journaled.result_pure, Except.ok.injEq, eq_comm]

/-- **What arranging does**: every statement belongs to a group, and the groups that have members
come out in the order of their positions, each one merged and sorted. -/
theorem arrange_eq_ok_iff [Platform] {out : List (List Statement)} :
    (arrange s project ss).result = .ok out ↔
      ∃ groups arranged, s.builtGroups = .ok groups ∧
        (∀ st ∈ ss, (Group.classify? project groups st).isSome = true) ∧
        List.Forall₂ (fun position group => ∃ merged,
          mergedMembers s (membersAt project groups position ss) = .ok merged ∧
            group = sortStatements s merged) (sortedPositions groups) arranged ∧
        out = arranged.filter (!·.isEmpty) := by
  simp only [arrange, Journaled.bind_eq_ok_iff, Journaled.result_ofExcept, mapError_eq_ok_iff,
    Journaled.forEach_eq_ok_iff, Journaled.debug, Journaled.result_note, Journaled.result_pure]
  constructor
  · rintro ⟨groups, hgroups, placed, hplaced, arranged, harranged, -, -, hout⟩
    refine ⟨groups, arranged, hgroups, exists_classifyAll_iff.1 ⟨placed, hplaced⟩, ?_,
      (Except.ok.inj hout).symm⟩
    exact harranged.imp fun position group hgroup => (arrangeGroup_eq_ok_iff hplaced).1 hgroup
  · rintro ⟨groups, arranged, hgroups, hclassified, harranged, rfl⟩
    obtain ⟨placed, hplaced⟩ := exists_classifyAll_iff.2 hclassified
    refine ⟨groups, hgroups, placed, hplaced, arranged, ?_, (), trivial, rfl⟩
    exact harranged.imp fun position group hgroup => (arrangeGroup_eq_ok_iff hplaced).2 hgroup

end Arranging

/-! ## Merged statements stay in their groups -/

/-- **Alike for every pattern**: two statements import the same module, and both bind something or
neither does. -/
def Statement.IsLike (a b : Statement) : Prop :=
  a.specifier = b.specifier ∧ a.isSideEffect = b.isSideEffect

theorem Matcher.accepts_congr {a b : Statement} (h : a.IsLike b) (project : Option Project)
    (m : Matcher) : Matcher.accepts project a m = Matcher.accepts project b m := by
  obtain ⟨hspecifier, hside⟩ := h
  cases m <;> simp only [Matcher.accepts, hspecifier, hside]

theorem Group.accepts_congr {a b : Statement} (h : a.IsLike b) (project : Option Project)
    (g : Group) : g.accepts project a = g.accepts project b := by
  simp only [Group.accepts, funext (Matcher.accepts_congr h project)]

/-- Statements that are alike belong to the same group. -/
theorem Group.classify?_congr {a b : Statement} (h : a.IsLike b) (project : Option Project)
    (groups : List Group) : classify? project groups a = classify? project groups b := by
  simp only [classify?, Group.accepts_congr h]

namespace Statement

/-- A statement that replaces others is like one of them: it binds something only if one of them
does, and nothing only if one of them is for the side effect. -/
theorem exists_like_of_combine {first : Statement} {others merged : List Statement}
    (hkey : ∀ st ∈ first :: others, st.specifier = first.specifier)
    (h : first.combine others = .ok merged) :
    ∀ st ∈ merged, ∃ st' ∈ first :: others, st.IsLike st' := by
  obtain ⟨u, hu, -, rfl⟩ := combine_eq_ok h
  intro st hst
  obtain ⟨i, hi, rfl⟩ := List.mem_mapIdx.1 hst
  have hlike : ∀ st' ∈ first :: others,
      ((mergedShapes first.typeOnly (first :: others) u)[i].isEmpty = st'.bindings.isEmpty) →
        (withShape first (first :: others) i
          (mergedShapes first.typeOnly (first :: others) u)[i]).IsLike st' :=
    fun st' hst' hempty => ⟨(hkey st' hst').symm, hempty⟩
  cases hshape : (mergedShapes first.typeOnly (first :: others) u)[i] with
  | nil =>
    rw [hshape] at hlike
    rcases mergedShapes_cases first.typeOnly (first :: others) u with
      ⟨-, st', hst', hside⟩ | ⟨heq, -⟩
    · exact ⟨st', hst', hlike st' hst' hside.symm⟩
    · have hmem : [] ∈ u.shapes first.typeOnly := by
        rw [← heq, ← hshape]
        exact List.getElem_mem hi
      have hnone := (bindings_eq_nil_iff hu).1 (nil_mem_shapes hmem)
      refine ⟨first, List.mem_cons_self, hlike first List.mem_cons_self ?_⟩
      rw [List.flatMap_eq_nil_iff.1 hnone first List.mem_cons_self]
  | cons b bs =>
    rw [hshape] at hlike
    -- Any binding in the shape comes from one of the statements, which then binds something too.
    have hb : b ∈ u.bindings := by
      rw [← flatten_mergedShapes first.typeOnly (first :: others) u]
      exact List.mem_flatten.2 ⟨_, List.getElem_mem hi, by simp [hshape]⟩
    rcases Union.mem_addAll hu b hb with hb | hb
    · simp [Union.bindings] at hb
    · obtain ⟨st', hst', hb⟩ := List.mem_flatMap.1 hb
      refine ⟨st', hst', hlike st' hst' ?_⟩
      simp [List.ne_nil_of_mem hb]

end Statement

/-- Merged statements are like those that were merged. -/
theorem exists_like_of_mergedMembers {s : Settings} {ss merged : List Statement}
    (h : mergedMembers s ss = .ok merged) : ∀ st ∈ merged, ∃ st' ∈ ss, st.IsLike st' := by
  unfold mergedMembers at h
  split at h
  · obtain ⟨ms, hclasses, rfl⟩ := mergeDuplicates_eq_ok h
    intro st hst
    obtain ⟨m, hm, hst⟩ := List.mem_flatten.1 hst
    obtain ⟨c, hc, hmerge⟩ := exists_mem_of_forall₂ hclasses hm
    obtain ⟨st₀, -, rfl⟩ := mem_classesByKey.1 hc
    have hclass : ∀ st ∈ ofKey st₀.mergeKey ss, st ∈ ss ∧ st.specifier = st₀.specifier := by
      intro st hst
      obtain ⟨hmem, hkey⟩ := mem_ofKey.1 hst
      exact ⟨hmem, congrArg MergeKey.specifier hkey⟩
    rcases mergeClass_cases hmerge with ⟨-, rfl⟩ | ⟨first, others, heq, hcombine⟩
    · exact ⟨st, (hclass st hst).1, rfl, rfl⟩
    · rw [heq] at hclass
      have hkey : ∀ st ∈ first :: others, st.specifier = first.specifier := by
        intro st hst
        rw [(hclass st hst).2, (hclass first List.mem_cons_self).2]
      obtain ⟨st', hst', hlike⟩ := Statement.exists_like_of_combine hkey hcombine st hst
      exact ⟨st', (hclass st' hst').1, hlike⟩
  · obtain rfl := Except.ok.inj h
    exact fun st hst => ⟨st, hst, rfl, rfl⟩

theorem mergedMembers_ne_nil {s : Settings} {ss merged : List Statement} (hne : ss ≠ [])
    (h : mergedMembers s ss = .ok merged) : merged ≠ [] := by
  unfold mergedMembers at h
  split at h
  · exact mergeDuplicates_ne_nil hne h
  · obtain rfl := Except.ok.inj h
    exact hne

/-! ## Groups of arranged statements -/

/-- **A group of arranged statements**: its statements belong to the group, which is the first that
has a pattern for them; they are in order; and they are what the members of the group become by
merging. -/
structure IsBucket (s : Settings) (project : Option Project) (groups : List Group)
    (ss : List Statement) (g : Group) (bucket : List Statement) : Prop where
  ne_nil : bucket ≠ []
  classified : ∀ st ∈ bucket, Group.classify? project groups st = some g
  first : ∀ st ∈ bucket, ∃ before after, groups = before ++ g :: after ∧
    g.accepts project st = true ∧ ∀ g' ∈ before, g'.accepts project st = false
  ordered : bucket.Pairwise (Statement.mayPrecede s · · = true)
  mem_members : ∀ st, st ∈ membersAt project groups g.position ss ↔
    st ∈ ss ∧ Group.classify? project groups st = some g
  members : ∃ merged, mergedMembers s (membersAt project groups g.position ss) = .ok merged ∧
    bucket.Perm merged

section Buckets

variable {s : Settings} {project : Option Project} {groups : List Group} {ss : List Statement}

theorem mem_membersAt (hnodup : (groups.map (·.position)).Nodup) {g : Group} (hg : g ∈ groups)
    {st : Statement} : st ∈ membersAt project groups g.position ss ↔
      st ∈ ss ∧ Group.classify? project groups st = some g := by
  rw [membersAt, List.mem_filter]
  refine and_congr_right fun _ => ?_
  cases hst : Group.classify? project groups st with
  | none => simp
  | some g' =>
    simp only [Option.any_some, beq_iff_eq, Option.some.injEq]
    constructor
    · exact Group.eq_of_position hnodup (List.mem_of_find?_eq_some hst) hg
    · rintro rfl
      rfl

/-- The members of a group, merged and sorted, are a group of arranged statements. -/
theorem isBucket_sortStatements (hnodup : (groups.map (·.position)).Nodup) {g : Group}
    (hg : g ∈ groups) {merged : List Statement}
    (h : mergedMembers s (membersAt project groups g.position ss) = .ok merged)
    (hne : sortStatements s merged ≠ []) :
    IsBucket s project groups ss g (sortStatements s merged) := by
  have hclassified : ∀ st ∈ sortStatements s merged,
      Group.classify? project groups st = some g := by
    intro st hst
    obtain ⟨st', hst', hlike⟩ := exists_like_of_mergedMembers h st (mem_inOrder.1 hst)
    rw [Group.classify?_congr hlike]
    exact ((mem_membersAt hnodup hg).1 hst').2
  refine ⟨hne, hclassified, ?_, pairwise_sortStatements s merged,
    fun st => mem_membersAt hnodup hg, merged, h, inOrder_perm _ _⟩
  intro st hst
  obtain ⟨haccepts, before, after, heq, hbefore⟩ :=
    List.find?_eq_some_iff_append.1 (hclassified st hst)
  exact ⟨before, after, heq, haccepts, by simpa using hbefore⟩

/-- A group that has a statement as a member does not come out empty. -/
theorem sortStatements_ne_nil_of_classified {g : Group} {st : Statement} (hst : st ∈ ss)
    (hg : Group.classify? project groups st = some g) {merged : List Statement}
    (h : mergedMembers s (membersAt project groups g.position ss) = .ok merged) :
    sortStatements s merged ≠ [] := by
  have hmember : st ∈ membersAt project groups g.position ss :=
    List.mem_filter.2 ⟨hst, by simp [hg]⟩
  have hne := mergedMembers_ne_nil (List.ne_nil_of_mem hmember) h
  obtain ⟨st', hst'⟩ := List.exists_mem_of_ne_nil _ hne
  exact List.ne_nil_of_mem (mem_inOrder.2 hst')

theorem exists_filter_of_forall₂ {α β : Type} {R : α → β → Prop} {xs : List α} {ys : List β}
    (h : List.Forall₂ R xs ys) (p : β → Bool) :
    ∃ zs, zs.Sublist xs ∧ List.Forall₂ (fun x y => R x y ∧ p y = true) zs (ys.filter p) ∧
      ∀ x ∈ xs, x ∈ zs ∨ ∃ y, R x y ∧ p y = false := by
  induction h with
  | nil => exact ⟨[], .slnil, .nil, by simp⟩
  | @cons x y xs ys hxy _ ih =>
    obtain ⟨zs, hsub, hzs, hrest⟩ := ih
    cases hp : p y with
    | true =>
      refine ⟨x :: zs, hsub.cons_cons x, ?_, ?_⟩
      · rw [List.filter_cons_of_pos hp]
        exact .cons ⟨hxy, hp⟩ hzs
      · intro x' hx'
        rcases List.mem_cons.1 hx' with rfl | hx'
        · exact .inl List.mem_cons_self
        · exact (hrest x' hx').imp_left (List.mem_cons_of_mem x)
    | false =>
      refine ⟨zs, hsub.cons x, ?_, ?_⟩
      · rw [List.filter_cons_of_neg (by simp [hp])]
        exact hzs
      · intro x' hx'
        rcases List.mem_cons.1 hx' with rfl | hx'
        · exact .inr ⟨y, hxy, hp⟩
        · exact hrest x' hx'

/-- **Arranged statements are in their groups**: the groups come out in the order of their
positions, each with its members, merged and in order, and every statement has its group among
them. -/
theorem arrange_buckets [Platform] {out : List (List Statement)}
    (h : (arrange s project ss).result = .ok out) : ∃ groups filled, s.builtGroups = .ok groups ∧
      filled.Pairwise (fun g g' : Group => g.position < g'.position) ∧
      List.Forall₂ (IsBucket s project groups ss) filled out ∧
      ∀ st ∈ ss, ∃ g ∈ filled, Group.classify? project groups st = some g := by
  obtain ⟨groups, arranged, hgroups, hclassified, harranged, rfl⟩ := arrange_eq_ok_iff.1 h
  have hnodup := Group.nodup_build hgroups
  let sorted := inOrder (fun g g' : Group => decide (g.position ≤ g'.position)) groups
  have hpositions : sortedPositions groups = sorted.map (·.position) := inOrder_map _ _ _
  have hincreasing := pairwise_sortedPositions hnodup
  rw [hpositions, List.forall₂_map_left_iff] at harranged
  rw [hpositions, List.pairwise_map] at hincreasing
  obtain ⟨filled, hsub, hfilled, hempty⟩ := exists_filter_of_forall₂ harranged (!·.isEmpty)
  have hmem : ∀ g ∈ sorted, g ∈ groups := fun g => mem_inOrder.1
  refine ⟨groups, filled, hgroups, hincreasing.sublist hsub, ?_, ?_⟩
  · have hall := (List.forall₂_and_left _ _).2 ⟨fun g hg => hmem g (hsub.subset hg), hfilled⟩
    refine hall.imp ?_
    rintro g bucket ⟨hg, ⟨merged, hmerged, rfl⟩, hne⟩
    exact isBucket_sortStatements hnodup hg hmerged (by simpa using hne)
  · intro st hst
    obtain ⟨g, hg⟩ := Option.isSome_iff_exists.1 (hclassified st hst)
    have hgmem := List.mem_of_find?_eq_some hg
    refine ⟨g, (hempty g (mem_inOrder.2 hgmem)).resolve_right ?_, hg⟩
    rintro ⟨bucket, ⟨merged, hmerged, rfl⟩, hnil⟩
    exact sortStatements_ne_nil_of_classified hst hg hmerged (by simpa using hnil)

end Buckets

/-- Settings with a group for side effects that is tried first and comes out second. -/
def effectSettings : Settings :=
  { groups := [⟨"effects", ["side-effect"], some 1⟩, ⟨"local", ["relative"], some 0⟩] }

/-- Imports of `./m` that do not fit into one statement, and modules run for their side effects. -/
def effectStatements : List Statement :=
  [{ specifier := "./m".toList, bindings := [⟨.namespaceObject, ['n'], none, false⟩] },
   { specifier := ['k'], index := 1 },
   { specifier := "./m".toList, index := 2, bindings := [⟨.namedExport, ['a'], none, true⟩] },
   { specifier := "./m".toList, index := 3 },
   { specifier := "./m".toList, index := 4, bindings := [⟨.defaultExport, ['d'], none, false⟩,
      ⟨.namedExport, ['a'], none, false⟩] }]

section Usual

attribute [local instance] Platform.usual

/-- The imports of `./m` become two statements of the first group, and those for side effects stay
in the second one. -/
theorem arrange_effectStatements : ∃ out,
    (arrange effectSettings none effectStatements).result = .ok out ∧
      out.map List.length = [2, 2] := by
  have hrun : (arrange effectSettings none effectStatements).result.toOption.map
      (·.map List.length) = some [2, 2] := by decide +kernel
  obtain ⟨out, hout, hlength⟩ := Option.map_eq_some_iff.1 hrun
  exact ⟨out, Except.eq_ok_of_toOption hout, hlength⟩

/-- The statements for the side effects are of the group that is tried first and comes second. -/
theorem arrange_buckets_effects : ∃ out,
    (arrange effectSettings none effectStatements).result = .ok out ∧
      out.map List.length = [2, 2] ∧
      ∃ groups filled, effectSettings.builtGroups = .ok groups ∧
        filled.Pairwise (fun g g' : Group => g.position < g'.position) ∧
        List.Forall₂ (IsBucket effectSettings none groups effectStatements) filled out ∧
        ∀ st ∈ effectStatements, ∃ g ∈ filled, Group.classify? none groups st = some g := by
  obtain ⟨out, hok, hlength⟩ := arrange_effectStatements
  exact ⟨out, hok, hlength, arrange_buckets hok⟩

end Usual

end ImportOrder
