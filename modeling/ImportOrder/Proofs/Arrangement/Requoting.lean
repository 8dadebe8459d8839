import ImportOrder.Platform.Usual
import ImportOrder.Proofs.Arrangement.BindingOrder
import ImportOrder.Proofs.Arrangement.Repeat
import ImportOrder.Proofs.Format.Failures
import ImportOrder.Proofs.Merge.Relabeling
import ImportOrder.Proofs.Render.RoundTrip

/-!
# Quotes are only style

Statements that differ in the quotes around their strings are put into the same groups, merged and
sorted in the same way, and written the same between given quotes. There is one exception: imported
names are compared with their quotes when statements are merged, so that one string under one local
name is a conflict if it is written in two ways.

## Main definitions

* `arrangedAt`: the group at a position
* `Statement.IsRewording`: a relabeling that sorting does not see
* `Statement.requoted`: a statement with all its strings between the same quotes
* `Statement.KeepsStrings`: strings that stay as they are but for their quotes
* `MixesQuotes`: one string under one local name is written in two ways

## Main results

* `arrange_eq_mapM`: what arranging does, also if it fails
* `arrange_map`: arranging reworded statements
* `arrange_requoted`: when quotes matter
-/

namespace ImportOrder

/-! ## Arranging reworded statements -/

section Arranging

variable {s : Settings} {project : Option Project} {groups : List Group} {ss : List Statement}

/-- The group at a position, merged and in order. -/
def arrangedAt (s : Settings) (project : Option Project) (groups : List Group)
    (ss : List Statement) (position : Int) : Except Failure (List Statement) :=
  (mergedMembers s (membersAt project groups position ss)).map (sortStatements s)

/-- **What arranging does, also if it fails**: the groups are arranged one after another, and empty
ones are left out. -/
theorem arrange_eq_mapM [Platform] (hgroups : s.builtGroups = .ok groups) :
    (arrange s project ss).result =
      ((sortedPositions groups).mapM (arrangedAt s project groups ss)).map
        (List.filter (!·.isEmpty)) := by
  obtain ⟨placed, hplaced⟩ := exists_classifyAll_iff.2 fun st (_ : st ∈ ss) =>
    Group.isSome_classify? hgroups project st
  have hgroup : (fun position => (arrangeGroup s placed position).result) =
      arrangedAt s project groups ss := by
    funext position
    rw [arrangedAt, ← membersAt_of_classifyAll hplaced, arrangeGroup, mergedMembers]
    split
    · rw [Journaled.result_bind]
      cases (mergeDuplicates _).result <;> rfl
    · rfl
  rw [arrange, hgroups]
  show (Journaled.ofExcept ((classifyAll project groups ss).mapError Failure.settings) >>= _).result
    = _
  rw [hplaced]
  show (Journaled.forEach (arrangeGroup s placed) (sortedPositions groups) >>= _).result = _
  rw [Journaled.result_bind, Journaled.result_forEach, hgroup]
  cases (sortedPositions groups).mapM (arrangedAt s project groups ss) <;> rfl

theorem arrange_of_builtGroups_error [Platform] {e : SettingsError} (h : s.builtGroups = .error e) :
    (arrange s project ss).result = .error (.settings e) := by
  rw [arrange, h]
  rfl

end Arranging

namespace Statement

/-- **A relabeling that sorting does not see** either. -/
structure IsRewording (φ : Statement → Statement) (f : Binding → Binding) : Prop
    extends IsRelabeling φ f where
  index : ∀ st, (φ st).index = st.index
  nameText : ∀ b, (f b).nameText = b.nameText

end Statement

section Reworded

variable {φ : Statement → Statement} {f : Binding → Binding} (hφ : Statement.IsRewording φ f)

include hφ

theorem Binding.mayPrecede_map (s : Settings) (a b : Binding) :
    mayPrecede s (f a) (f b) = mayPrecede s a b := by
  simp only [mayPrecede, compare, hφ.binding.kind, hφ.nameText, hφ.binding.localName,
    hφ.binding.typeOnly]

theorem sortBindings_map (s : Settings) (bs : List Binding) :
    sortBindings s (bs.map f) = (sortBindings s bs).map f := by
  rw [sortBindings, inOrder_map]
  simp only [Binding.mayPrecede_map hφ]
  rfl

namespace Statement

theorem sortText_map (s : Settings) (st : Statement) : (φ st).sortText s = st.sortText s := by
  rw [sortText, hφ.bindings, sortBindings_map hφ, List.head?_map,
    specifier_map hφ.toIsRelabeling, sortText]
  cases (sortBindings s st.bindings).head? with
  | none => rfl
  | some b =>
    show (if s.sortBy = "name" then (f b).localName else st.specifier) = _
    rw [hφ.binding.localName b]

theorem mayPrecede_map (s : Settings) (a b : Statement) :
    mayPrecede s (φ a) (φ b) = mayPrecede s a b := by
  simp only [mayPrecede, compare, sortText_map hφ, specifier_map hφ.toIsRelabeling, typeRank,
    typeOnly_map hφ.toIsRelabeling, hφ.index]

end Statement

theorem sortStatements_map (s : Settings) (sts : List Statement) :
    sortStatements s (sts.map φ) = (sortStatements s sts).map φ := by
  rw [sortStatements, inOrder_map]
  simp only [Statement.mayPrecede_map hφ]
  rfl

variable {s : Settings} {project : Option Project} {ss : List Statement}

theorem arrangedAt_map {groups : List Group} {position : Int}
    (hnames : s.mergeDuplicates = true → ∀ c ∈ classesByKey (membersAt project groups position ss),
      2 ≤ c.length → Binding.Separates f (c.flatMap (·.bindings))) :
    arrangedAt s project groups (ss.map φ) position =
      (arrangedAt s project groups ss position).map (List.map φ) := by
  have hmerged : mergedMembers s (membersAt project groups position (ss.map φ)) =
      (mergedMembers s (membersAt project groups position ss)).map (List.map φ) := by
    rw [membersAt_map hφ.toIsRelabeling, mergedMembers, mergedMembers]
    split
    · rename_i hmerge
      exact mergeDuplicates_map hφ.toIsRelabeling (hnames hmerge)
    · rfl
  rw [arrangedAt, arrangedAt, hmerged]
  cases mergedMembers s (membersAt project groups position ss) with
  | error e => rfl
  | ok merged =>
    show Except.ok (sortStatements s (merged.map φ)) = _
    rw [sortStatements_map hφ]
    rfl

/-- **Arranging reworded statements** gives the reworded result, if different names that are put
together stay different. -/
theorem arrange_map [Platform]
    (hnames : s.mergeDuplicates = true → ∀ groups position, s.builtGroups = .ok groups →
      ∀ c ∈ classesByKey (membersAt project groups position ss), 2 ≤ c.length →
        Binding.Separates f (c.flatMap (·.bindings))) :
    (arrange s project (ss.map φ)).result =
      (arrange s project ss).result.map (List.map (List.map φ)) := by
  cases hgroups : s.builtGroups with
  | error e =>
    rw [arrange_of_builtGroups_error hgroups, arrange_of_builtGroups_error hgroups]
    rfl
  | ok groups =>
    have hmap : (sortedPositions groups).mapM (arrangedAt s project groups (ss.map φ)) =
        ((sortedPositions groups).mapM (arrangedAt s project groups ss)).map
          (List.map (List.map φ)) :=
      mapM_eq_map fun position _ =>
        arrangedAt_map hφ fun hmerge => hnames hmerge groups position hgroups
    rw [arrange_eq_mapM hgroups, arrange_eq_mapM hgroups, hmap]
    cases (sortedPositions groups).mapM (arrangedAt s project groups ss) with
    | error e => rfl
    | ok arranged =>
      show Except.ok _ = Except.ok _
      rw [← filter_nonempty_map]

end Reworded

/-! ## Strings between other quotes -/

/-- The style that asks for a quote. -/
def Quote.style : Quote → String
  | single => "single"
  | double => "double"

/-- An exported name between the given quotes, if it is a string. -/
def encloseName (target : Quote) (name : Text) : Text :=
  match stringName? name with
  | some (_, body) => target.enclose body
  | none => name

namespace Binding

/-- A binding with the string that it imports between other quotes. A string is imported under
another name, so that a name which is kept is no string. -/
def between (target : Quote) (b : Binding) : Binding :=
  { b with name := if b.localName = b.name then b.name else encloseName target b.name }

/-- **A string that stays as it is but for its quotes**, if the imported name is one. Then it is a
named export and gets another name. -/
def KeepsString (target : Quote) (b : Binding) : Prop :=
  ∀ q body, stringName? b.name = some (q, body) →
    b.kind = .namedExport ∧ b.localName ≠ b.name ∧ requote body q target = target.enclose body

theorem localName_between (target : Quote) (b : Binding) :
    (b.between target).localName = b.localName := by
  have hrename : (b.between target).rename? = b.rename? := rfl
  cases hr : b.rename? with
  | some new => rw [localName, hrename, localName, hr, Option.getD_some, Option.getD_some]
  | none =>
    have hlocal : b.localName = b.name := by rw [localName, hr, Option.getD_none]
    rw [localName, hrename, hr, Option.getD_none, between, if_pos hlocal, hlocal]

theorem nameText_between (target : Quote) (b : Binding) :
    (b.between target).nameText = b.nameText := by
  have henclose : ∀ name : Text, ((stringName? (encloseName target name)).map (·.2)).getD
      (encloseName target name) = ((stringName? name).map (·.2)).getD name := by
    intro name
    cases h : stringName? name with
    | none => rw [encloseName, h, h]
    | some p => rw [encloseName, h, stringName?_enclose]; rfl
  rw [nameText, between]
  dsimp only
  split
  · rfl
  · exact henclose b.name

theorem isRelabeling_between (target : Quote) : IsRelabeling (between target) where
  kind _ := rfl
  localName b := localName_between target b
  typeOnly _ := rfl
  sameNamed a b h := by
    obtain ⟨hname, hlocal⟩ : a.name = b.name ∧ a.localName = b.localName := by
      simpa [Union.sameNamed] using h
    rw [Union.sameNamed, localName_between, localName_between, between, between, hname, hlocal]
    simp

/-- A string that stays as it is but for its quotes is written between the new ones. -/
theorem between_eq_requoted {target : Quote} {b : Binding} (h : b.KeepsString target) :
    b.between target = b.requoted target := by
  rw [between, requoted, encloseName, requoteName]
  cases hname : stringName? b.name with
  | none => simp
  | some p =>
    obtain ⟨q, body⟩ := p
    obtain ⟨-, hlocal, hkeeps⟩ := h q body hname
    simp [hlocal, hkeeps]

theorem render_between {target : Quote} {b : Binding} (h : b.KeepsString target) :
    (b.between target).render target = b.render target := by
  have hname : requoteName target (requoteName target b.name) = requoteName target b.name := by
    cases hname : stringName? b.name with
    | none => rw [requoteName, requoteName, hname, hname]
    | some p =>
      obtain ⟨q, body⟩ := p
      have hrequote : requoteName target b.name = target.enclose body := by
        rw [requoteName, hname]
        exact (h q body hname).2.2
      rw [hrequote, requoteName, stringName?_enclose]
      simp [requote, Quote.enclose]
  rw [between_eq_requoted h, render_eq, render_eq]
  show _ ++ (requoteName target (requoteName target b.name) ++ _) = _
  rw [hname]
  rfl

/-- Default and namespace bindings import no string. -/
theorem between_of_head {target : Quote} {b : Binding} (h : b.KeepsString target)
    (hk : b.kind ≠ .namedExport) : b.between target = b := by
  have hname : stringName? b.name = none := by
    cases hname : stringName? b.name with
    | none => rfl
    | some p => exact absurd (h p.1 p.2 hname).1 hk
  rw [between, encloseName, hname]
  simp

end Binding

namespace Statement

/-- A statement without its place in the text, and with its strings between other quotes. If `kept`,
one with comments inside has its own quotes and its text. -/
def between (target : Quote) (kept : Bool) (st : Statement) : Statement :=
  { st with
    bindings := st.bindings.map (Binding.between target)
    quote := if kept && st.innerComments then st.quote else target
    raw := if kept && st.innerComments then st.raw else none
    start := 0
    stop := 0 }

/-- Neither merging nor sorting looks at quotes, if different names stay different. -/
theorem isRewording_between (target : Quote) (kept : Bool) :
    IsRewording (between target kept) (Binding.between target) where
  binding := Binding.isRelabeling_between target
  bindings _ := rfl
  mergeKey _ := rfl
  innerComments _ := rfl
  index _ := rfl
  nameText := Binding.nameText_between target
  withShape first group i bs := by
    have hplace : ∀ st ∈ group.map (between target kept), st.start = 0 ∧ st.stop = 0 := by
      intro st hst
      obtain ⟨st', -, rfl⟩ := List.mem_map.1 hst
      exact ⟨rfl, rfl⟩
    have hstart := foldl_eq_self (fun n => Nat.min_self n) fun st hst => (hplace st hst).1
    have hstop := foldl_eq_self (fun n => Nat.max_self n) fun st hst => (hplace st hst).2
    rw [withShape, mergedLeading_map (between target kept) (fun _ => rfl) fun _ => rfl,
      List.findSome?_map]
    show Statement.mk _ _ _ _ _ (List.foldl _ 0 _) (List.foldl _ 0 _) _ _ _ _ _ _ = _
    rw [hstart, hstop, between, withShape]
    simp [Function.comp_def, between]

end Statement

/-! ## Strings of statements that are read -/

namespace Binding

/-- A string that is read is a named export and gets another name. -/
theorem localName_ne_of_isRead {d : Dialect} {b : Binding} (h : b.IsRead d)
    (hopen : b.name ∉ Piece.openings) {q : Quote} {body : Text}
    (hname : stringName? b.name = some (q, body)) :
    b.kind = .namedExport ∧ b.localName ≠ b.name := by
  have hword : ∀ {w : Word}, w.Whole → w.kind ≠ .string → w.text = b.name → False := by
    intro w hw hkind heq
    have hnone := Word.stringName?_eq_none hw (heq ▸ hopen) hkind
    rw [heq, hname] at hnone
    cases hnone
  have hk : b.kind = .namedExport := by
    by_contra hk
    exact hword (h.1 hk).1 (by simp) rfl
  refine ⟨hk, ?_⟩
  obtain ⟨ws, bare, hitem, hws⟩ := h.2 hk
  have hrenamed : ∀ {m : Text}, Word.name m ∈ ws → b.newName = some m → b.localName ≠ b.name := by
    intro m hm hnew heq
    rw [localName, rename?_of_whole (hws _ hm) hnew, Option.getD_some] at heq
    exact hword (hws _ hm) (by simp) heq
  cases hitem with
  | name n => exact (hword (hws (.name n) (by simp)) (by simp) rfl).elim
  | renamed hw ht => exact hrenamed (by simp) rfl
  | typed ht hw hs => exact (hword (hws _ (by simp)) hs rfl).elim
  | typedRenamed ht hw => exact hrenamed (by simp) rfl

end Binding

namespace Statement

/-- **A statement with its strings between other quotes**, and without its text and its place. -/
def requoted (target : Quote) (st : Statement) : Statement :=
  { st with
    specifier := (requote st.specifier st.quote target).tail.dropLast
    bindings := st.bindings.map (Binding.requoted target)
    quote := target
    raw := none
    start := 0
    stop := 0 }

/-- **Strings that stay as they are but for their quotes**: the specifier, and the names that are
imported. -/
structure KeepsStrings (target : Quote) (st : Statement) : Prop where
  specifier : requote st.specifier st.quote target = target.enclose st.specifier
  names : ∀ b ∈ st.bindings, b.KeepsString target

/-- **Strings that requoting leaves as they are** but for their quotes. Imported names are names or
strings. -/
structure IsRequotable (target : Quote) (st : Statement) : Prop where
  specifier : requote st.specifier st.quote target = target.enclose st.specifier
  names : ∀ b ∈ st.bindings, b.kind = .namedExport → IsNameOrString b.name
  strings : ∀ b ∈ st.bindings, ∀ p ∈ stringName? b.name,
    requote p.2 p.1 target = target.enclose p.2

/-- The strings of a statement that is read are where strings can be. -/
theorem WellFormed.keepsStrings {d : Dialect} {target : Quote} {st : Statement}
    (h : st.WellFormed d) (hplain : st.IsRequotable target) : st.KeepsStrings target := by
  refine ⟨hplain.specifier, fun b hb q body hname => ?_⟩
  obtain ⟨dflt, ns, named, hbs, hbind⟩ := h.bindings
  have hread := Binding.isRead_of_areBindings hbind b (hbs ▸ hb)
  have hopen := h.not_mem_openings hplain.names b hb
  obtain ⟨hk, hlocal⟩ := Binding.localName_ne_of_isRead hread hopen hname
  exact ⟨hk, hlocal, hplain.strings b hb (q, body) hname⟩

variable {target : Quote}

theorem requoted_eq_between {st : Statement} (h : st.KeepsStrings target) :
    st.requoted target = st.between target false := by
  have hbindings : st.bindings.map (Binding.requoted target) =
      st.bindings.map (Binding.between target) :=
    List.map_congr_left fun b hb => (Binding.between_eq_requoted (h.names b hb)).symm
  have hspecifier : (requote st.specifier st.quote target).tail.dropLast = st.specifier := by
    rw [h.specifier]
    simp [Quote.enclose]
  rw [requoted, between, hbindings, hspecifier]
  rfl

/-- Merged statements have the strings of those that were merged. -/
theorem keepsStrings_combine {first : Statement} {others merged : List Statement}
    (hall : ∀ st ∈ first :: others, st.KeepsStrings target)
    (h : first.combine others = .ok merged) : ∀ st ∈ merged, st.KeepsStrings target := by
  obtain ⟨u, hu, -, rfl⟩ := combine_eq_ok h
  intro st hst
  refine ⟨?_, fun b hb => ?_⟩
  · obtain ⟨i, hi, rfl⟩ := List.mem_mapIdx.1 hst
    exact (hall first List.mem_cons_self).specifier
  · have hmem : b ∈ u.bindings := by
      rw [← flatMap_bindings_mapIdx first (first :: others) u]
      exact List.mem_flatMap.2 ⟨st, hst, hb⟩
    rcases Union.mem_addAll hu b hmem with hnone | hmem
    · simp [Union.bindings] at hnone
    · obtain ⟨st', hst', hb⟩ := List.mem_flatMap.1 hmem
      exact (hall st' hst').names b hb

theorem keepsStrings_arrange [Platform] {s : Settings} {project : Option Project}
    {ss : List Statement} {out : List (List Statement)} (hss : ∀ st ∈ ss, st.KeepsStrings target)
    (h : (arrange s project ss).result = .ok out) :
    ∀ group ∈ out, ∀ st ∈ group, st.KeepsStrings target := fun group hgroup =>
  (forall_mem_arrange keepsStrings_combine hss h group hgroup).2

end Statement

/-! ## Writing statements with other quotes -/

section Writing

variable {s : Settings} {target : Quote} (hquote : s.quoteMark = target.style)

include hquote

namespace Statement

theorem targetQuote_of_style (st : Statement) : st.targetQuote s = target := by
  rw [targetQuote, Settings.quote?, hquote]
  cases target <;> rfl

variable {st : Statement}

theorem isUnchanged_between (hinner : st.innerComments = true) :
    (st.between target true).isUnchanged s = st.isUnchanged s := by
  have hsorted : sortBindings s (st.bindings.map (Binding.between target)) =
      st.bindings.map (Binding.between target) ↔ sortBindings s st.bindings = st.bindings := by
    rw [sortBindings_map (isRewording_between target true)]
    refine ⟨fun h => ?_, fun h => by rw [h]⟩
    exact inOrder_eq_self_of_map (fun _ _ _ => Binding.mayPrecede_trans)
      (Binding.mayPrecede_total s) (Binding.mayPrecede_map (isRewording_between target true) s) h
  have hown : (st.between target true).quote = st.quote := by
    simp [between, hinner]
  have hstyle : (st.between target true).keepsStyle s = st.keepsStyle s := by
    rw [keepsStyle, keepsStyle, targetQuote_of_style hquote, targetQuote_of_style hquote, hown]
    rfl
  rw [isUnchanged, isUnchanged, hstyle]
  simp only [between, hsorted]

theorem source_between (h : st.KeepsStrings target) (hinner : st.innerComments = false)
    (kept : Bool) : (st.between target kept).source s = st.source s := by
  have hown : (st.between target kept).quote = target := by
    simp [between, hinner]
  have hspecifier : requote st.specifier target target = target.enclose st.specifier := by
    simp [requote, Quote.enclose]
  rw [source, source, targetQuote_of_style hquote, targetQuote_of_style hquote, hown, h.specifier]
  show requote st.specifier target target ++ _ ++ _ = _
  rw [hspecifier]
  rfl

theorem renderNamed_between (h : st.KeepsStrings target) (kept : Bool) :
    (st.between target kept).renderNamed s = st.renderNamed s := by
  have hsort := sortBindings_map (isRewording_between target kept) s st.bindings
  rw [renderNamed, renderNamed, targetQuote_of_style hquote, targetQuote_of_style hquote]
  show ((sortBindings s (st.bindings.map (Binding.between target))).filter _).map _ = _
  rw [hsort, List.filter_map, List.map_map]
  apply List.map_congr_left
  intro b hb
  exact Binding.render_between (h.names b (mem_inOrder.1 (List.mem_filter.1 hb).1))

omit hquote in
theorem renderHeads_between (h : st.KeepsStrings target) (kept : Bool) :
    (st.between target kept).renderHeads s = st.renderHeads s := by
  have hsort := sortBindings_map (isRewording_between target kept) s st.bindings
  rw [renderHeads, renderHeads]
  show (sortBindings s (st.bindings.map (Binding.between target))).filterMap _ = _
  rw [hsort, List.filterMap_map]
  apply List.filterMap_congr
  intro b hb
  by_cases hk : b.kind = .namedExport
  · have hk' : (b.between target).kind = .namedExport := hk
    simp [hk, hk']
  · rw [Function.comp_apply, Binding.between_of_head (h.names b (mem_inOrder.1 hb)) hk]

theorem render_between [Platform] (h : st.KeepsStrings target) (eol : Eol) :
    (st.between target true).render s eol = st.render s eol := by
  by_cases hinner : st.innerComments = true
  · have hraw : (st.between target true).raw = st.raw := by simp [between, hinner]
    rw [render, render, isUnchanged_between hquote hinner, hraw]
    rw [if_pos hinner, if_pos (show (st.between target true).innerComments = true from hinner)]
    rfl
  · have hnone : st.innerComments = false := by simpa using hinner
    have hassemble : ∀ list, (st.between target true).assemble s list = st.assemble s list := by
      intro list
      rw [assemble, assemble, renderHeads_between h, source_between hquote h hnone]
      rfl
    have hside := isSideEffect_map (isRewording_between target true).toIsRelabeling st
    have hbare : (st.between target true).renderBare s = st.renderBare s := by
      rw [renderBare, renderBare, source_between hquote h hnone]
      rfl
    rw [render, render, if_neg hinner,
      if_neg (show ¬(st.between target true).innerComments = true from hinner), hside, hbare,
      renderBindings, renderBindings, renderNamed_between hquote h]
    simp only [hassemble]

theorem renderLines_between [Platform] (h : st.KeepsStrings target) (eol : Eol) :
    (st.between target true).renderLines s eol = st.renderLines s eol := by
  rw [renderLines, renderLines, render_between hquote h]
  rfl

end Statement

/-- Statements are written the same if they differ in quotes only. -/
theorem renderRegion_between [Platform] {groups : List (List Statement)}
    (h : ∀ group ∈ groups, ∀ st ∈ group, st.KeepsStrings target) (eol : Eol) :
    renderRegion s eol (groups.map (List.map (Statement.between target true))) =
      renderRegion s eol groups := by
  have hblocks : (groups.map (List.map (Statement.between target true))).mapM
      (renderGroup s eol) = groups.mapM (renderGroup s eol) := by
    apply mapM_map_congr
    intro group hgroup
    have hlines : (group.map (Statement.between target true)).mapM (Statement.renderLines s eol) =
        group.mapM (Statement.renderLines s eol) :=
      mapM_map_congr fun st hst => Statement.renderLines_between hquote (h group hgroup st hst) eol
    rw [renderGroup, renderGroup, hlines]
  rw [renderRegion, renderRegion, hblocks]

end Writing

/-! ## One string written in two ways -/

/-- **One string written in two ways**: two named bindings import it under one local name, and their
imported names differ in quotes only. -/
def Binding.DiffersInQuotes (target : Quote) (a b : Binding) : Prop :=
  a.kind = .namedExport ∧ b.kind = .namedExport ∧ a.localName = b.localName ∧ a.name ≠ b.name ∧
    requoteName target a.name = requoteName target b.name

/-- **Quotes are mixed**: of the statements that are merged into one, some write one string in two
ways. -/
def MixesQuotes [Platform] (s : Settings) (project : Option Project) (target : Quote)
    (ss : List Statement) : Prop :=
  s.mergeDuplicates = true ∧ ∃ groups position key, s.builtGroups = .ok groups ∧
    2 ≤ (ofKey key (membersAt project groups position ss)).length ∧
    ∃ a ∈ (ofKey key (membersAt project groups position ss)).flatMap (·.bindings),
      ∃ b ∈ (ofKey key (membersAt project groups position ss)).flatMap (·.bindings),
        a.DiffersInQuotes target b

section Mixing

variable {s : Settings} {project : Option Project} {target : Quote} {ss : List Statement}

/-- Different names stay different between other quotes if quotes are not mixed. -/
theorem separates_of_not_mixesQuotes [Platform] (hss : ∀ st ∈ ss, st.KeepsStrings target)
    (hmix : ¬MixesQuotes s project target ss) (hmerge : s.mergeDuplicates = true)
    (groups : List Group) (position : Int) (hgroups : s.builtGroups = .ok groups) :
    ∀ c ∈ classesByKey (membersAt project groups position ss), 2 ≤ c.length →
      Binding.Separates (Binding.between target) (c.flatMap (·.bindings)) := by
  intro c hc hlength a ha b hb hka hkb hsame
  obtain ⟨first, -, rfl⟩ := mem_classesByKey.1 hc
  have hkeeps : ∀ b ∈ (ofKey first.mergeKey (membersAt project groups position ss)).flatMap
      (·.bindings), b.KeepsString target := by
    intro b hb
    obtain ⟨st, hst, hb⟩ := List.mem_flatMap.1 hb
    exact (hss st (List.mem_filter.1 (mem_ofKey.1 hst).1).1).names b hb
  obtain ⟨hname, hlocal⟩ : (a.between target).name = (b.between target).name ∧
      (a.between target).localName = (b.between target).localName := by
    simpa [Union.sameNamed] using hsame
  rw [Binding.localName_between, Binding.localName_between] at hlocal
  rw [Binding.between_eq_requoted (hkeeps a ha), Binding.between_eq_requoted (hkeeps b hb)] at hname
  by_contra hdiffer
  have hne : a.name ≠ b.name := by
    intro heq
    exact hdiffer (by simp [Union.sameNamed, heq, hlocal])
  exact hmix ⟨hmerge, groups, position, _, hgroups, hlength, a, ha, b, hb, hka, hkb, hlocal, hne,
    hname⟩

/-- In a union, bindings of one local name import the same name. -/
theorem Union.name_eq_of_addAll {u : Union} {bs : List Binding}
    (h : ({} : Union).addAll bs = .ok u) {a b : Binding} (ha : a ∈ bs) (hb : b ∈ bs)
    (hka : a.kind = .namedExport) (hkb : b.kind = .namedExport)
    (hlocal : a.localName = b.localName) : a.name = b.name := by
  have hnodup := nodup_addAll (by simp [bindings]) h
  have hmem : ∀ b ∈ bs, ∃ b' ∈ u.bindings, b'.signature = b.signature := by
    intro b hb
    exact List.mem_map.1 <|
      (mem_signature_addAll tidy_empty h b.signature).2 (.inr (List.mem_map_of_mem hb))
  obtain ⟨a', ha', hsa⟩ := hmem a ha
  obtain ⟨b', hb', hsb⟩ := hmem b hb
  have hsame : a' = b' := by
    apply List.inj_on_of_nodup_map hnodup ha' hb'
    have hla : a'.localName = a.localName := congrArg (·.2.2) hsa
    have hlb : b'.localName = b.localName := congrArg (·.2.2) hsb
    rw [hla, hlb, hlocal]
  have hsignature : a.signature = b.signature := by rw [← hsa, ← hsb, hsame]
  have hnames := congrArg (·.2.1) hsignature
  simpa [Binding.signature, hka, hkb] using hnames

/-- Arranging fails if quotes are mixed. -/
theorem not_mixesQuotes_of_arrange [Platform] {out : List (List Statement)}
    (h : (arrange s project ss).result = .ok out) : ¬MixesQuotes s project target ss := by
  rintro ⟨hmerge, groups, position, key, hgroups, hlength, a, ha, b, hb, hka, hkb, hlocal, hne, -⟩
  obtain ⟨groups', arranged, hgroups', -, harranged, -⟩ := arrange_eq_ok_iff.1 h
  obtain rfl : groups = groups' := Except.ok.inj (hgroups.symm.trans hgroups')
  obtain ⟨st, hst⟩ : ∃ st, st ∈ ofKey key (membersAt project groups position ss) :=
    List.exists_mem_of_length_pos (by omega)
  obtain ⟨hmember, hkey⟩ := mem_ofKey.1 hst
  have hposition : position ∈ sortedPositions groups := by
    obtain ⟨-, g, hg, rfl⟩ := exists_of_mem_membersAt hmember
    exact (perm_sortedPositions groups).mem_iff.2
      (List.mem_map_of_mem (List.mem_of_find?_eq_some hg))
  obtain ⟨group, -, merged, hmerged, -⟩ := exists_mem_of_forall₂ harranged.flip hposition
  rw [mergedMembers, if_pos hmerge] at hmerged
  obtain ⟨ms, hms, -⟩ := mergeDuplicates_eq_ok hmerged
  obtain ⟨m, -, hm⟩ := exists_mem_of_forall₂ hms.flip
    (mem_classesByKey.2 ⟨st, hmember, by rw [hkey]⟩)
  rcases mergeClass_cases hm with ⟨hshort, -⟩ | ⟨first, others, hclass, hcombine⟩
  · omega
  · obtain ⟨u, hu, -, -⟩ := Statement.combine_eq_ok hcombine
    rw [hclass] at ha hb
    exact hne (Union.name_eq_of_addAll hu ha hb hka hkb hlocal)

/-- Where the merging of relabeled statements succeeds, only a conflict can stop the merging. -/
theorem conflict_of_mergeDuplicates {φ : Statement → Statement} {f : Binding → Binding}
    (hφ : Statement.IsRelabeling φ f) {merged : List Statement} {e : Failure}
    (hok : (mergeDuplicates (ss.map φ)).result = .ok merged)
    (h : (mergeDuplicates ss).result = .error e) : ∃ k, e = .conflict k := by
  obtain ⟨first, others, hclass, hmore, hcombine⟩ := exists_combine_of_mergeDuplicates h
  rcases Statement.combine_eq_error hcombine with ⟨⟨st, hst, hinner⟩, -⟩ | hconflict
  · obtain ⟨ms, hms, -⟩ := mergeDuplicates_eq_ok hok
    rw [classesByKey_map hφ] at hms
    obtain ⟨m, -, hm⟩ := exists_mem_of_forall₂ hms.flip (List.mem_map_of_mem hclass)
    rcases mergeClass_cases hm with ⟨hshort, -⟩ | ⟨first', others', heq, hcombine'⟩
    · exact absurd (by simpa using hshort) hmore
    · obtain ⟨u, -, hnone, -⟩ := Statement.combine_eq_ok hcombine'
      rw [← heq] at hnone
      have hfalse := hnone (φ st) (List.mem_map_of_mem hst)
      rw [hφ.innerComments, hinner] at hfalse
      cases hfalse
  · exact hconflict

theorem conflict_of_arrange [Platform] {φ : Statement → Statement} {f : Binding → Binding}
    (hφ : Statement.IsRewording φ f) {out : List (List Statement)} {e : Failure}
    (hok : (arrange s project (ss.map φ)).result = .ok out)
    (h : (arrange s project ss).result = .error e) : ∃ k, e = .conflict k := by
  obtain ⟨groups, arranged, hgroups, -, harranged, -⟩ := arrange_eq_ok_iff.1 hok
  rw [arrange_eq_mapM hgroups] at h
  obtain ⟨position, hposition, h⟩ := exists_of_mapM_eq_error (Except.eq_error_of_map h)
  have hfail := Except.eq_error_of_map h
  obtain ⟨group, -, merged, hmerged, -⟩ := exists_mem_of_forall₂ harranged.flip hposition
  rw [membersAt_map hφ.toIsRelabeling] at hmerged
  unfold mergedMembers at hfail hmerged
  split at hfail
  · rename_i hmerge
    rw [if_pos hmerge] at hmerged
    exact conflict_of_mergeDuplicates hφ.toIsRelabeling hmerged hfail
  · cases hfail

end Mixing

/-! ## When quotes matter -/

namespace Statement

variable {target : Quote}

theorem between_of_kept {st st' : Statement}
    (h : st.between target false = st'.between target false)
    (hkept : st.innerComments = true → st.raw = st'.raw ∧ st.quote = st'.quote) :
    st.between target true = st'.between target true := by
  have hinner : st.innerComments = st'.innerComments := by
    show (st.between target false).innerComments = (st'.between target false).innerComments
    rw [h]
  have hkeep : ∀ st : Statement, st.between target true =
      { st.between target false with
        quote := if st.innerComments then st.quote else target
        raw := if st.innerComments then st.raw else none } := fun _ => rfl
  rw [hkeep st, hkeep st', h, ← hinner]
  split
  · rename_i hcomments
    obtain ⟨hraw, hquote⟩ := hkept hcomments
    rw [hraw, hquote]
  · rfl

theorem map_between_of_kept {ss ss' : List Statement}
    (h : ss.map (between target false) = ss'.map (between target false))
    (hkept : List.Forall₂ (fun st st' => st.innerComments = true →
      st.raw = st'.raw ∧ st.quote = st'.quote) ss ss') :
    ss.map (between target true) = ss'.map (between target true) := by
  induction hkept with
  | nil => rfl
  | cons hst _ ih =>
    obtain ⟨hhead, htail⟩ := List.cons.inj h
    rw [List.map_cons, List.map_cons, between_of_kept hhead hst, ih htail]

end Statement

section Requoted

variable {s : Settings} {project : Option Project} {target : Quote} {ss ss' : List Statement}

theorem map_requoted_arrange [Platform] (hss : ∀ st ∈ ss, st.KeepsStrings target) :
    (arrange s project ss).result.map (List.map (List.map (Statement.requoted target))) =
      (arrange s project ss).result.map (List.map (List.map (Statement.between target false))) := by
  cases hout : (arrange s project ss).result with
  | error e => rfl
  | ok out =>
    have hgroups := Statement.keepsStrings_arrange hss hout
    show Except.ok _ = Except.ok _
    congr 1
    apply List.map_congr_left
    intro group hgroup
    exact List.map_congr_left fun st hst =>
      Statement.requoted_eq_between (hgroups group hgroup st hst)

theorem arrange_between [Platform] (kept : Bool) (hss : ∀ st ∈ ss, st.KeepsStrings target)
    (hmix : ¬MixesQuotes s project target ss) :
    (arrange s project (ss.map (Statement.between target kept))).result =
      (arrange s project ss).result.map (List.map (List.map (Statement.between target kept))) :=
  arrange_map (Statement.isRewording_between target kept) fun hmerge groups position hgroups =>
    separates_of_not_mixesQuotes hss hmix hmerge groups position hgroups

/-- Arranged statements are written the same if they differ in quotes only. -/
theorem renderRegion_of_map_between [Platform] (hquote : s.quoteMark = target.style)
    (hss : ∀ st ∈ ss, st.KeepsStrings target) (hss' : ∀ st ∈ ss', st.KeepsStrings target)
    (h : (arrange s project ss).result.map (List.map (List.map (Statement.between target true))) =
      (arrange s project ss').result.map (List.map (List.map (Statement.between target true))))
    (eol : Eol) :
    ((arrange s project ss).result >>= renderRegion s eol) =
      ((arrange s project ss').result >>= renderRegion s eol) := by
  cases hout : (arrange s project ss).result with
  | error e =>
    rw [hout] at h
    rw [Except.eq_error_of_map h.symm]
  | ok out =>
    rw [hout] at h
    obtain ⟨out', hout', heq⟩ := Except.exists_of_map_eq_ok h.symm
    rw [hout']
    show renderRegion s eol out = renderRegion s eol out'
    rw [← renderRegion_between hquote (Statement.keepsStrings_arrange hss hout) eol,
      ← renderRegion_between hquote (Statement.keepsStrings_arrange hss' hout') eol, heq]

/-- **Quotes are only style**, unless one string is written in two ways. Let statements differ in
the quotes around strings that requoting leaves as they are. If neither of them mix quotes,
arranging them fails for the same reason or gives the same statements but for quotes, and what is
written for them is the same if statements with comments inside are. And if arranging the one
returns, arranging the other is a conflict exactly if they mix quotes. -/
theorem arrange_requoted [Platform] {d d' : Dialect} (hquote : s.quoteMark = target.style)
    (hread : ∀ st ∈ ss, st.WellFormed d) (hread' : ∀ st ∈ ss', st.WellFormed d')
    (hstrings : ∀ st ∈ ss ++ ss', st.IsRequotable target)
    (hsame : ss.map (Statement.requoted target) = ss'.map (Statement.requoted target)) :
    (¬MixesQuotes s project target ss → ¬MixesQuotes s project target ss' →
      (arrange s project ss).result.map (List.map (List.map (Statement.requoted target))) =
        (arrange s project ss').result.map (List.map (List.map (Statement.requoted target))) ∧
      (List.Forall₂ (fun st st' => st.innerComments = true →
          st.raw = st'.raw ∧ st.quote = st'.quote) ss ss' →
        ∀ eol, ((arrange s project ss).result >>= renderRegion s eol) =
          ((arrange s project ss').result >>= renderRegion s eol))) ∧
    ∀ groups, (arrange s project ss').result = .ok groups →
      (MixesQuotes s project target ss ↔
        ∃ k, (arrange s project ss).result = .error (.conflict k)) := by
  have hss : ∀ st ∈ ss, st.KeepsStrings target := fun st hst =>
    (hread st hst).keepsStrings (hstrings st (List.mem_append_left _ hst))
  have hss' : ∀ st ∈ ss', st.KeepsStrings target := fun st hst =>
    (hread' st hst).keepsStrings (hstrings st (List.mem_append_right _ hst))
  have hbetween : ss.map (Statement.between target false) =
      ss'.map (Statement.between target false) := by
    rw [← List.map_congr_left fun st hst => Statement.requoted_eq_between (hss st hst), hsame]
    exact List.map_congr_left fun st hst => Statement.requoted_eq_between (hss' st hst)
  refine ⟨fun hmix hmix' => ⟨?_, fun hkept eol => ?_⟩, fun groups hreturns => ?_⟩
  · rw [map_requoted_arrange hss, map_requoted_arrange hss', ← arrange_between false hss hmix,
      hbetween, arrange_between false hss' hmix']
  · apply renderRegion_of_map_between hquote hss hss'
    rw [← arrange_between true hss hmix, Statement.map_between_of_kept hbetween hkept,
      arrange_between true hss' hmix']
  · have hok : (arrange s project (ss.map (Statement.between target false))).result =
        .ok (groups.map (List.map (Statement.between target false))) := by
      rw [hbetween, arrange_between false hss' (not_mixesQuotes_of_arrange hreturns), hreturns]
      rfl
    constructor
    · intro hmix
      cases hout : (arrange s project ss).result with
      | ok out => exact absurd hmix (not_mixesQuotes_of_arrange hout)
      | error e =>
        obtain ⟨k, rfl⟩ :=
          conflict_of_arrange (Statement.isRewording_between target false) hok hout
        exact ⟨k, rfl⟩
    · rintro ⟨k, hconflict⟩
      by_contra hmix
      rw [arrange_between false hss hmix, hconflict] at hok
      cases hok

end Requoted

/-- A source that imports one string twice, first between the given quotes. -/
def repeatedSource (q : Quote) : Text :=
  "import \x7b".toList ++ q.enclose ['a'] ++
    " as x\x7d from 'm';\nimport \x7b'a' as x\x7d from 'm';\n".toList

/-- The statements of the source. -/
def repeatedStatements (q : Quote) : List Statement :=
  [{ specifier := ['m']
     bindings := [⟨.namedExport, q.enclose ['a'], some ['x'], false⟩]
     stop := 27
     raw := some ("import \x7b".toList ++ q.enclose ['a'] ++ " as x\x7d from 'm';".toList) },
    { specifier := ['m']
      bindings := [⟨.namedExport, Quote.single.enclose ['a'], some ['x'], false⟩]
      start := 28
      stop := 55
      raw := some "import \x7b'a' as x\x7d from 'm';".toList
      index := 1 }]

section Usual

attribute [local instance] Platform.usual

/-- The imports are merged if the string is written in one way, and are a conflict otherwise. -/
theorem arrange_repeatedSource : ∃ head head' groups k,
    Head.parse (repeatedSource .double) ⟨true, false⟩ = .ok head ∧
      Head.parse (repeatedSource .single) ⟨true, false⟩ = .ok head' ∧
      (head.statements 1).map (Statement.requoted .single) =
        (head'.statements 1).map (Statement.requoted .single) ∧
      (arrange {} none (head'.statements 1)).result = .ok groups ∧
      (arrange {} none (head.statements 1)).result = .error (.conflict k) := by
  have hread : ∀ q, (Head.parse (repeatedSource q) ⟨true, false⟩).toOption.map (·.statements 1) =
      some (repeatedStatements q) := by
    intro q
    cases q <;> decide +kernel
  have hsame : (repeatedStatements .double).map (Statement.requoted .single) =
      (repeatedStatements .single).map (Statement.requoted .single) := by
    decide +kernel
  have hstrings : ∀ st ∈ repeatedStatements .double ++ repeatedStatements .single,
      st.IsRequotable .single := by
    have hplain : ∀ st ∈ repeatedStatements .double ++ repeatedStatements .single,
        requote st.specifier st.quote .single = Quote.single.enclose st.specifier ∧
          (∀ b ∈ st.bindings, b.kind = .namedExport → IsNameOrString b.name) ∧
          ∀ b ∈ st.bindings, ∀ p ∈ stringName? b.name,
            requote p.2 p.1 .single = Quote.single.enclose p.2 := by
      decide +kernel
    exact fun st hst => ⟨(hplain st hst).1, (hplain st hst).2.1, (hplain st hst).2.2⟩
  have hmix : MixesQuotes {} none .single (repeatedStatements .double) := by
    have hmembers : (Settings.builtGroups {}).toOption.map (fun groups =>
        ofKey ⟨['m'], false, none⟩ (membersAt none groups 1 (repeatedStatements .double))) =
          some (repeatedStatements .double) := by
      decide +kernel
    obtain ⟨groups, hgroups, hmembers⟩ := Option.map_eq_some_iff.1 hmembers
    refine ⟨rfl, groups, 1, ⟨['m'], false, none⟩, Except.eq_ok_of_toOption hgroups, ?_⟩
    rw [hmembers]
    exact ⟨by decide, ⟨.namedExport, Quote.double.enclose ['a'], some ['x'], false⟩, by decide,
      ⟨.namedExport, Quote.single.enclose ['a'], some ['x'], false⟩, by decide, rfl, rfl, rfl,
      by decide, by decide⟩
  have hmerged : (arrange {} none (repeatedStatements .single)).result.toOption.isSome = true := by
    decide +kernel
  obtain ⟨groups, hgroups⟩ := Option.isSome_iff_exists.1 hmerged
  have hgroups := Except.eq_ok_of_toOption hgroups
  obtain ⟨head, hparse, hstatements⟩ := Option.map_eq_some_iff.1 (hread .double)
  obtain ⟨head', hparse', hstatements'⟩ := Option.map_eq_some_iff.1 (hread .single)
  have hparse := Except.eq_ok_of_toOption hparse
  have hparse' := Except.eq_ok_of_toOption hparse'
  have hformed := Head.wellFormed_statements hparse 1
  have hformed' := Head.wellFormed_statements hparse' 1
  rw [hstatements] at hformed
  rw [hstatements'] at hformed'
  obtain ⟨k, hconflict⟩ :=
    ((arrange_requoted rfl hformed hformed' hstrings hsame).2 groups hgroups).1 hmix
  refine ⟨head, head', groups, k, hparse, hparse', ?_, ?_, ?_⟩
  · rw [hstatements, hstatements', hsame]
  · rw [hstatements', hgroups]
  · rw [hstatements, hconflict]

/-- An import of a module whose name has a quote inside, between the given quotes. -/
def quotedInside : Quote → Statement
  | .single =>
    { specifier := "a\"b".toList, bindings := [⟨.namedExport, ['x'], none, false⟩] }
  | .double =>
    { specifier := "a\\\"b".toList, quote := .double,
      bindings := [⟨.namedExport, ['x'], none, false⟩] }

-- Where requoting changes more than the quotes, one module written in two ways is not merged.
example : (quotedInside .double).requoted .single = (quotedInside .single).requoted .single ∧
    (arrange {} none [quotedInside .single, quotedInside .single]).result.toOption.map
      (List.map List.length) = some [1] ∧
    (arrange {} none [quotedInside .single, quotedInside .double]).result.toOption.map
      (List.map List.length) = some [2] := by
  decide +kernel

end Usual

end ImportOrder
