import ImportOrder.Proofs.Render.Written

/-!
# Written bindings

The bindings of a statement are written as words of the grammar, so that the reader finds them
again, with the strings among them in the quotes asked for. There is one exception: a list over
several lines with a comma behind its last name, where that name is a bare `as` with a type mark.

## Main definitions

* `Binding.requoted`: a binding with its name in other quotes
* `Binding.IsItem`: a named binding that an import list can hold
* `Binding.isBareAs`: the name `as` with a type mark and without a new name

## Main results

* `Binding.written_render`: a named binding is written as an item of the grammar
* `items_intercalate`, `items_comma`, `stuck_comma`: import lists
-/

namespace ImportOrder

open Grammar

/-! ## Names in other quotes -/

/-- An exported name, in the given quotes if it is a string. -/
def requoteName (quote : Quote) (name : Text) : Text :=
  match stringName? name with
  | some (q, body) => requote body q quote
  | none => name

theorem stringName?_enclose (q : Quote) (body : Text) :
    stringName? (q.enclose body) = some (q, body) := by
  simp [stringName?, Quote.enclose]

namespace Word

/-- A word, in the given quotes if it is a string. -/
def requoted (quote : Quote) (w : Word) : Word := ⟨w.kind, requoteName quote w.text⟩

theorem mem_openings_of_bad {w : Word} (h : w.Whole) (hbad : w.kind = .bad) :
    w.text ∈ Piece.openings := by
  obtain ⟨kind, text⟩ := w
  obtain ⟨k, hk, hs⟩ := h
  obtain rfl : kind = .bad := hbad
  have hshape := hs.shape
  cases hshape <;> simp [PieceKind.token?] at hk
  case bad h => exact h

theorem not_mem_openings {w : Word} (h : w.Whole) (hbad : w.kind ≠ .bad) :
    w.text ∉ Piece.openings := by
  intro hmem
  have hother : (⟨.bad, w.text⟩ : Word).Whole :=
    ⟨.bad, rfl, Piece.standsBefore_of_mem_openings hmem⟩
  exact hbad (congrArg Word.kind (h.eq_of_text hother rfl))

/-- What is no string has no quotes. -/
theorem stringName?_eq_none {w : Word} (h : w.Whole) (hopen : w.text ∉ Piece.openings)
    (hkind : w.kind ≠ .string) : stringName? w.text = none := by
  obtain ⟨kind, text⟩ := w
  obtain ⟨k, hk, hs⟩ := h
  have hshape := hs.shape
  cases hshape <;> simp only [PieceKind.token?, Option.some.injEq, reduceCtorEq] at hk
  case string => exact absurd hk.symm hkind
  case bad h => exact absurd h hopen
  case name c t _ _ hc _ =>
    have hq : c ≠ '\x27' ∧ c ≠ '"' := by
      constructor <;> rintro rfl <;> cases hc
    simp [stringName?, Quote.ofChar?, hq]
  case punct c _ _ hq _ => simp [stringName?, Quote.ofChar?, hq]

/-- Only strings change their quotes, and they stay strings. -/
theorem requoted_cases {w : Word} (h : w.Whole) (hopen : w.text ∉ Piece.openings)
    (quote : Quote) :
    (w.kind ≠ .string → w.requoted quote = w) ∧ (w.requoted quote).Whole := by
  have hself : w.kind ≠ .string → w.requoted quote = w := by
    intro hkind
    rw [requoted, requoteName, stringName?_eq_none h hopen hkind]
  refine ⟨hself, ?_⟩
  by_cases hkind : w.kind = .string
  · obtain ⟨kind, text⟩ := w
    obtain rfl : kind = .string := hkind
    obtain ⟨r, body, ht, hbody⟩ := whole_string_iff.1 h
    obtain ⟨body', hrequote, hbody'⟩ := exists_requote hbody quote
    refine whole_string_iff.2 ⟨quote, body', ?_, hbody'⟩
    rw [requoteName, ht, stringName?_enclose, ← hrequote]
  · rw [hself hkind]
    exact h

end Word

namespace Binding

/-- **A binding with its name in other quotes**, if it is a string. -/
def requoted (quote : Quote) (b : Binding) : Binding := { b with name := requoteName quote b.name }

/-- **A bare `as`**: it has a type mark and no new name. -/
def isBareAs (b : Binding) : Bool := b.typeOnly && b.newName.isNone && b.name == "as".toList

/-- **A named binding that an import list can hold.** -/
def IsItem (d : Dialect) (b : Binding) : Prop :=
  ∃ ws bare, Item d ws b bare ∧ ∀ w ∈ ws, w.Whole

end Binding

namespace Grammar

variable {d : Dialect}

theorem whole_as : (Word.name "as".toList).Whole := ⟨.name, rfl, rfl⟩

theorem whole_type : (Word.name "type".toList).Whole := ⟨.name, rfl, rfl⟩

theorem whole_from : (Word.name "from".toList).Whole := ⟨.name, rfl, rfl⟩

theorem bare_eq {ws : List Word} {b : Binding} {bare : Bool} (h : Item d ws b bare)
    (hws : ∀ w ∈ ws, w.Whole) : bare = b.isBareAs := by
  cases h with
  | name => rfl
  | renamed => rfl
  | @typed w _ _ _ =>
    have hiff : w = .name "as".toList ↔ w.text = "as".toList :=
      ⟨fun h => by rw [h]; rfl, fun h => (hws w (by simp)).eq_of_text whole_as h⟩
    simp only [hiff, Binding.isBareAs, Option.isNone_none, Bool.true_and]
    exact (beq_eq_decide _ _).symm
  | typedRenamed => simp [Binding.isBareAs]

theorem item_kind {ws : List Word} {b : Binding} {bare : Bool} (h : Item d ws b bare) :
    b.kind = .namedExport := by
  cases h <;> rfl

/-- Words of an item may be replaced by others if only strings change. -/
theorem item_map {f : Word → Word} {ws : List Word} {b : Binding} {bare : Bool}
    (h : Item d ws b bare) (hkind : ∀ w ∈ ws, (f w).kind = w.kind)
    (hself : ∀ w ∈ ws, w.kind ≠ .string → f w = w) (hwhole : ∀ w ∈ ws, (f w).Whole) :
    ∃ w ∈ ws, b.name = w.text ∧ Item d (ws.map f) { b with name := (f w).text } bare := by
  cases h with
  | name n =>
    have hn : f (.name n) = .name n := hself _ (by simp) (by simp)
    exact ⟨.name n, by simp, rfl, by simpa [hn] using Item.name n⟩
  | @renamed w m hw ht =>
    have has : f (.name "as".toList) = .name "as".toList := hself _ (by simp) (by simp)
    have hm : f (.name m) = .name m := hself _ (by simp) (by simp)
    have hfw : (f w).kind = .name ∨ (f w).kind = .string := by rwa [hkind w (by simp)]
    refine ⟨w, by simp, rfl, ?_⟩
    simp only [List.map_cons, List.map_nil, has, hm]
    refine .renamed hfw fun hts htype => ht hts ?_
    rw [← htype, hself w (by simp)]
    rw [← hkind w (by simp), htype]
    simp
  | @typed w ht hw hs =>
    have htype : f (.name "type".toList) = .name "type".toList := hself _ (by simp) (by simp)
    have hfw : f w = w := hself w (by simp) hs
    refine ⟨w, by simp, rfl, ?_⟩
    simp only [List.map_cons, List.map_nil, htype, hfw]
    exact .typed ht hw hs
  | @typedRenamed w m ht hw =>
    have htype : f (.name "type".toList) = .name "type".toList := hself _ (by simp) (by simp)
    have has : f (.name "as".toList) = .name "as".toList := hself _ (by simp) (by simp)
    have hm : f (.name m) = .name m := hself _ (by simp) (by simp)
    have hfw : (f w).endsItem = false := by
      by_cases hs : w.kind = .string
      · exact Parser.endsItem_of_whole (hwhole w (by simp)) (by rw [hkind w (by simp), hs]; simp)
      · rwa [hself w (by simp) hs]
    refine ⟨w, by simp, rfl, ?_⟩
    simp only [List.map_cons, List.map_nil, htype, has, hm]
    exact .typedRenamed ht hfw

end Grammar

/-! ## Written items -/

namespace Binding

theorem render_eq (quote : Quote) (b : Binding) :
    b.render quote = (if b.typeOnly then "type ".toList else []) ++
      (requoteName quote b.name ++ match b.rename? with
        | some new => " as ".toList ++ new
        | none => []) := by
  unfold render requoteName
  cases stringName? b.name <;> cases b.rename? <;> cases b.typeOnly <;> simp

theorem rename?_of_whole {b : Binding} {m : Text} (hm : (Word.name m).Whole)
    (hb : b.newName = some m) : b.rename? = some m := by
  obtain ⟨k, -, hs⟩ := hm
  have hne : m ≠ [] := hs.text_ne_nil
  cases m with
  | nil => exact absurd rfl hne
  | cons c m => simp [rename?, hb]

theorem written_requoted {w : Word} (hw : w.Whole) (hopen : w.text ∉ Piece.openings)
    (quote : Quote) : Written (requoteName quote w.text) [w.requoted quote] := by
  refine written_of_whole (w := w.requoted quote) (Word.requoted_cases hw hopen quote).2 ?_
  intro hbad
  exact hopen (Word.mem_openings_of_bad hw hbad)

theorem written_name {n : Text} (h : (Word.name n).Whole) : Written n [.name n] :=
  written_of_whole (w := .name n) h (by simp)

theorem opens_of_item {d : Dialect} {ws : List Word} {b : Binding} {bare : Bool}
    (h : Item d ws b bare) (hws : ∀ w ∈ ws, w.Whole) (hopen : b.name ∉ Piece.openings) :
    ∀ w ∈ ws, w.text ∉ Piece.openings := by
  intro w hw
  by_cases hk : w.kind = .name
  · exact Word.not_mem_openings (hws w hw) (by simp [hk])
  · have hname : w.text = b.name := by
      cases h <;> simp only [List.mem_cons, List.not_mem_nil, or_false] at hw
      case name => simp_all
      case renamed => rcases hw with rfl | rfl | rfl <;> simp_all
      case typed => rcases hw with rfl | rfl <;> simp_all
      case typedRenamed => rcases hw with rfl | rfl | rfl | rfl <;> simp_all
    rwa [hname]

theorem written_item {d : Dialect} {ws : List Word} {b : Binding} {bare : Bool}
    (h : Item d ws b bare) (hws : ∀ w ∈ ws, w.Whole) (hopen : b.name ∉ Piece.openings)
    (quote : Quote) : Written (b.render quote) (ws.map (Word.requoted quote)) := by
  have hopens := opens_of_item h hws hopen
  have hself : ∀ {n}, Word.name n ∈ ws → (Word.name n).requoted quote = .name n := fun hn =>
    (Word.requoted_cases (hws _ hn) (hopens _ hn) quote).1 (by simp)
  have hword : ∀ {w}, w ∈ ws → Written (requoteName quote w.text) [w.requoted quote] := fun hw =>
    written_requoted (hws _ hw) (hopens _ hw) quote
  have has := written_name whole_as
  rw [render_eq]
  cases h with
  | name n => simpa [rename?] using hword (w := .name n) (by simp)
  | @renamed w m _ _ =>
    have hm : (Word.name m).Whole := hws _ (by simp)
    rw [rename?_of_whole hm rfl]
    have hrow := (hword (w := w) (by simp)).glue (has.glue (written_name hm) .space) .space
    simpa [hself] using hrow
  | @typed w _ _ _ =>
    have hrow := (written_name whole_type).glue (hword (w := w) (by simp)) .space
    simpa [rename?, hself] using hrow
  | @typedRenamed w m _ _ =>
    have hm : (Word.name m).Whole := hws _ (by simp)
    rw [rename?_of_whole hm rfl]
    have hrow := (written_name whole_type).glue
      ((hword (w := w) (by simp)).glue (has.glue (written_name hm) .space) .space) .space
    simpa [hself] using hrow

/-- A named binding is written as an item of the grammar. -/
theorem written_render {d : Dialect} {b : Binding} (h : b.IsItem d)
    (hopen : b.name ∉ Piece.openings) (quote : Quote) :
    ∃ ws, Item d ws (b.requoted quote) b.isBareAs ∧ Written (b.render quote) ws := by
  obtain ⟨ws, bare, hitem, hws⟩ := h
  have hopens := opens_of_item hitem hws hopen
  obtain ⟨w, hw, hname, hmap⟩ := item_map (f := Word.requoted quote) hitem (fun _ _ => rfl)
    (fun w hw => (Word.requoted_cases (hws w hw) (hopens w hw) quote).1)
    (fun w hw => (Word.requoted_cases (hws w hw) (hopens w hw) quote).2)
  refine ⟨ws.map (Word.requoted quote), ?_, written_item hitem hws hopen quote⟩
  rw [requoted, hname, ← bare_eq hitem hws]
  exact hmap

end Binding

/-! ## Written lists -/

section Lists

variable {d : Dialect} {bs : List Binding} {wss : List (List Word)}

/-- Items next to the words that they are written as. -/
def AreItems (d : Dialect) (quote : Quote) : List Binding → List (List Word) → Prop :=
  List.Forall₂ fun b ws => Item d ws (b.requoted quote) b.isBareAs

theorem exists_items (quote : Quote)
    (h : ∀ b ∈ bs, b.IsItem d ∧ b.name ∉ Piece.openings) :
    ∃ wss, AreItems d quote bs wss ∧ List.Forall₂ Written (bs.map (Binding.render quote)) wss := by
  induction bs with
  | nil => exact ⟨[], .nil, .nil⟩
  | cons b bs ih =>
    obtain ⟨hitem, hopen⟩ := h b (by simp)
    obtain ⟨ws, hws, hwritten⟩ := Binding.written_render hitem hopen quote
    obtain ⟨wss, hwss, hrest⟩ := ih fun c hc => h c (by simp [hc])
    exact ⟨ws :: wss, .cons hws hwss, .cons hwritten hrest⟩

/-- Items with commas between them and the brace behind the last one. -/
theorem items_intercalate {quote : Quote} (h : AreItems d quote bs wss) :
    Items d (List.intercalate [.punct ','] wss ++ [.punct '\x7d'])
      (bs.map (Binding.requoted quote)) := by
  induction h with
  | nil => exact .close
  | @cons b ws bs wss hb hbs ih =>
    cases hbs with
    | nil => simpa [List.intercalate] using Items.last hb
    | cons hc hcs =>
      have hmore := Items.more hb ih (by simp)
      simpa [List.intercalate] using hmore

/-- Items with a comma behind the last one as well, which is no bare `as`. -/
theorem items_comma {quote : Quote} (h : AreItems d quote bs wss) (hne : bs ≠ [])
    (hbare : ∀ b ∈ bs.getLast?, b.isBareAs = false) :
    Items d (List.intercalate [.punct ','] wss ++ [.punct ',', .punct '\x7d'])
      (bs.map (Binding.requoted quote)) := by
  induction h with
  | nil => exact absurd rfl hne
  | @cons b ws bs wss hb hbs ih =>
    cases hbs with
    | nil =>
      have hlast : b.isBareAs = false := hbare b (by simp)
      have hmore := Items.more hb .close (by simp [hlast])
      simpa [List.intercalate] using hmore
    | cons hc hcs =>
      have hmore := Items.more hb (ih (by simp) (by simpa using hbare)) (by simp)
      simpa [List.intercalate] using hmore

/-- A bare `as` with a comma and the brace behind it is not read. -/
theorem stuck_comma {quote : Quote} (h : AreItems d quote bs wss) {b : Binding}
    (hlast : bs.getLast? = some b) (hbare : b.isBareAs = true) :
    Stuck d (List.intercalate [.punct ','] wss ++ [.punct ',', .punct '\x7d']) := by
  induction h with
  | nil => simp at hlast
  | @cons c ws bs wss hc hbs ih =>
    cases hbs with
    | nil =>
      obtain rfl : c = b := by simpa using hlast
      rw [hbare] at hc
      generalize hr : c.requoted quote = r at hc
      generalize htrue : true = bare at hc
      cases hc with
      | name => cases htrue
      | renamed => cases htrue
      | @typed w _ _ _ =>
        obtain rfl : w = .name "as".toList := by simpa using htrue.symm
        simpa [List.intercalate] using Stuck.bare
      | typedRenamed => cases htrue
    | cons hc' hcs =>
      have hmore := Stuck.more hc (ih (by simpa using hlast))
      simpa [List.intercalate] using hmore

end Lists

theorem Text.times_space (n : Nat) : Text.times [' '] n = List.replicate n ' ' := by
  simp [Text.times]

theorem Text.join_map_append (sep pre : Text) (ts : List Text) (hne : ts ≠ []) :
    Text.join sep (ts.map (pre ++ ·)) = pre ++ Text.join (sep ++ pre) ts := by
  induction ts with
  | nil => exact absurd rfl hne
  | cons t ts ih =>
    cases ts with
    | nil => simp
    | cons u ts =>
      rw [List.map_cons, List.map_cons, Text.join_cons_cons, Text.join_cons_cons,
        ← List.map_cons (f := (pre ++ ·)), ih (by simp)]
      simp

namespace Statement

variable {names : List Text} {wss : List (List Word)}

/-- A list on one line. -/
theorem written_listOnLine (s : Settings) (h : List.Forall₂ Written names wss)
    (hne : names ≠ []) :
    Written (listOnLine s names)
      (.punct '\x7b' :: (List.intercalate [.punct ','] wss ++ [.punct '\x7d'])) := by
  have hjoin : Written (Text.join ", ".toList names) (List.intercalate [.punct ','] wss) :=
    written_join .space h hne
  unfold listOnLine
  cases s.bracketSpacing with
  | true => simpa using (hjoin.glue written_close .space).punct_glue (c := '\x7b') (by simp) .space
  | false =>
    simpa using (hjoin.tight written_close ⟨_, rfl, by decide⟩).punct_cons (c := '\x7b') (by simp)

/-- A list over several lines. -/
theorem written_listOverLines (s : Settings) (eol : Eol) (h : List.Forall₂ Written names wss)
    (hne : names ≠ []) :
    Written (listOverLines s eol names) (.punct '\x7b' :: (List.intercalate [.punct ','] wss ++
      ((if s.trailingComma = "multiline" then [.punct ','] else []) ++ [.punct '\x7d']))) := by
  have hline : Glue (eol.text ++ List.replicate s.indent ' ') := .line eol s.indent
  have hclose : Glue eol.text := by simpa using Glue.line eol 0
  have hjoin := written_join hline h hne
  unfold listOverLines
  simp only [Text.times_space, Text.join_map_append _ _ _ hne]
  split
  · have hrow := (((hjoin.tight written_comma ⟨',', rfl, by decide⟩).glue written_close
      hclose).punct_glue (c := '\x7b') (by simp) hline)
    simpa using hrow
  · have hrow := (hjoin.glue written_close hclose).punct_glue (c := '\x7b') (by simp) hline
    simpa using hrow

end Statement

end ImportOrder
