import ImportOrder.Proofs.Results
import ImportOrder.Proofs.Source.Grammar

/-!
# Import lists as the language has them

An item of an import list is a name or a string, with the mark `type` before it or not, renamed or
not. How many words it has tells how to read it: `type` alone is a name, `type as` is the name `as`
with the mark, and in `type as x` the name `type` is renamed.

The reader decides with the words that follow, before it knows where the item ends, and so it
differs from the language in three ways. It does not read `type as as`, which renames `type` to
`as`. It does not read `type as` at the end of a list if a comma follows. And behind the mark it
reads any word as a name. These are all the differences.

## Main definitions

* `Grammar.segments`: the items of a list
* `Grammar.Specifier`: an item as the language has it
* `Grammar.Misnamed`: a mark before a word that is no name
* `Grammar.EndsInTypeAs`: lists that end in `type as` and a comma
* `Grammar.Misread`: lists that are not read as the language has them

## Main results

* `Parser.namedItem_eq_ok_iff`: one item, up to a comma or brace
* `Parser.namedItems_eq_ok_iff`: the lists that are read, and the bindings they give
* `Parser.namedList_specifiers_iff`: the lists that are read as the language has them
-/

namespace ImportOrder

namespace Grammar

/-- **The items of a list.** A comma ends an item; the last one may do without. -/
def segments : List Word → List (List Word)
  | [] => []
  | w :: ws =>
    if w = .punct ',' then [] :: segments ws
    else ((w :: (segments ws).head?.getD []) :: (segments ws).tail)

/-- **An item as the language has it.** -/
inductive Specifier : List Word → Binding → Prop
  | name (n : Text) : Specifier [.name n] ⟨.namedExport, n, none, false⟩
  | renamed {w : Word} (m : Text) (hw : w.kind = .name ∨ w.kind = .string) :
      Specifier [w, .name "as".toList, .name m] ⟨.namedExport, w.text, some m, false⟩
  | typed (n : Text) : Specifier [.name "type".toList, .name n] ⟨.namedExport, n, none, true⟩
  | typedRenamed {w : Word} (m : Text) (hw : w.kind = .name ∨ w.kind = .string) :
      Specifier [.name "type".toList, w, .name "as".toList, .name m]
        ⟨.namedExport, w.text, some m, true⟩

/-- **A mark before a word that is neither a name nor a string.** -/
inductive Misnamed : List Word → Binding → Prop
  | typed {w : Word} (hw : w.kind ≠ .name) (hs : w.kind ≠ .string) :
      Misnamed [.name "type".toList, w] ⟨.namedExport, w.text, none, true⟩
  | typedRenamed {w : Word} (m : Text) (hw : w.kind ≠ .name) (hs : w.kind ≠ .string) :
      Misnamed [.name "type".toList, w, .name "as".toList, .name m]
        ⟨.namedExport, w.text, some m, true⟩

/-- The item that renames `type` to `as`. -/
def typeAsAs : List Word := [.name "type".toList, .name "as".toList, .name "as".toList]

/-- The item that is the name `as` with the mark. -/
def typeAs : List Word := [.name "type".toList, .name "as".toList]

/-- What is read as an item. -/
def Readable (ws : List Word) (b : Binding) : Prop :=
  Specifier ws b ∧ ws ≠ typeAsAs ∨ Misnamed ws b

/-- **A list that ends in `type as`** and a comma. With the word behind the closing brace in view, a
comma or brace there has the same effect. -/
def EndsInTypeAs (ws : List Word) (next : Word) : Prop :=
  (segments ws).getLast? = some typeAs ∧ (ws.getLast? = some (.punct ',') ∨ next.endsItem = true)

/-- **Lists that are not read as the language has them**: items are overlooked, or words that are no
names are accepted. -/
inductive Misread (ws : List Word) (next : Word) : Prop
  | overlooked {bs : List Binding} (h : List.Forall₂ Specifier (segments ws) bs)
      (hitem : typeAsAs ∈ segments ws ∨ EndsInTypeAs ws next) : Misread ws next
  | accepted {bs : List Binding} (h : List.Forall₂ Readable (segments ws) bs)
      (hend : ¬EndsInTypeAs ws next) {item : List Word} {b : Binding}
      (hitem : item ∈ segments ws) (hb : Misnamed item b) : Misread ws next

/-! ## Items of a list -/

theorem segments_of_notMem {ws : List Word} (hne : ws ≠ []) (h : .punct ',' ∉ ws) :
    segments ws = [ws] := by
  induction ws with
  | nil => exact absurd rfl hne
  | cons w ws ih =>
    rw [List.mem_cons, not_or] at h
    rw [segments, if_neg (Ne.symm h.1)]
    cases ws with
    | nil => rfl
    | cons v ws =>
      rw [ih (by simp) h.2]
      rfl

theorem segments_append_comma {ws : List Word} (ws' : List Word) (h : .punct ',' ∉ ws) :
    segments (ws ++ .punct ',' :: ws') = ws :: segments ws' := by
  induction ws with
  | nil => rw [List.nil_append, segments, if_pos rfl]
  | cons w ws ih =>
    rw [List.mem_cons, not_or] at h
    rw [List.cons_append, segments, if_neg (Ne.symm h.1), ih h.2]
    rfl

theorem segments_ne_nil {ws : List Word} (h : ws ≠ []) : segments ws ≠ [] := by
  cases ws with
  | nil => exact absurd rfl h
  | cons w ws =>
    rw [segments]
    split <;> simp

/-! ### The end of a list -/

theorem not_endsInTypeAs_nil (next : Word) : ¬EndsInTypeAs [] next := by
  rintro ⟨h, -⟩
  cases h

theorem endsInTypeAs_of_notMem {ws : List Word} {next : Word} (hne : ws ≠ [])
    (h : .punct ',' ∉ ws) : EndsInTypeAs ws next ↔ ws = typeAs ∧ next.endsItem = true := by
  have hlast : ws.getLast? ≠ some (.punct ',') := fun hlast => h (List.mem_of_getLast? hlast)
  rw [EndsInTypeAs, segments_of_notMem hne h]
  simp [hlast]

theorem endsInTypeAs_concat_comma {ws : List Word} {next : Word} (h : .punct ',' ∉ ws) :
    EndsInTypeAs (ws ++ [.punct ',']) next ↔ ws = typeAs := by
  rw [EndsInTypeAs, segments_append_comma [] h]
  simp [segments]

theorem endsInTypeAs_append_comma {ws ws' : List Word} {next : Word} (h : .punct ',' ∉ ws)
    (hne : ws' ≠ []) : EndsInTypeAs (ws ++ .punct ',' :: ws') next ↔ EndsInTypeAs ws' next := by
  obtain ⟨v, vs, rfl⟩ := List.exists_cons_of_ne_nil hne
  obtain ⟨item, items, hitems⟩ := List.exists_cons_of_ne_nil (segments_ne_nil hne)
  rw [EndsInTypeAs, EndsInTypeAs, segments_append_comma _ h, hitems, List.getLast?_cons_cons,
    List.getLast?_append_of_ne_nil _ (by simp), List.getLast?_cons_cons]

/-! ### Kinds of items -/

theorem not_readable_nil (b : Binding) : ¬Readable [] b := by
  rintro (⟨h, -⟩ | h) <;> cases h

theorem Misnamed.not_specifier {ws : List Word} {b b' : Binding} (h : Misnamed ws b) :
    ¬Specifier ws b' := by
  intro hs
  cases h with
  | typed hw =>
    cases hs
    exact hw rfl
  | typedRenamed m hw hs' =>
    cases hs with
    | typedRenamed _ hk => exact hk.elim hw hs'

theorem not_readable_typeAsAs (b : Binding) : ¬Readable typeAsAs b := by
  rintro (⟨-, h⟩ | h)
  · exact h rfl
  · cases h

/-- The readable lists that do not end in `type as` are those of the language, but for misread
ones. -/
theorem forall_readable_iff_specifier {ws : List Word} {next : Word} :
    (∀ bs, List.Forall₂ Readable (segments ws) bs ∧ ¬EndsInTypeAs ws next ↔
      List.Forall₂ Specifier (segments ws) bs) ↔ ¬Misread ws next := by
  constructor
  · -- A misread list is one on which the two sides differ.
    rintro hagree (⟨h, hitem⟩ | ⟨h, hend, hitem, hb⟩)
    · obtain ⟨hread, hend⟩ := (hagree _).2 h
      rcases hitem with hmem | hends
      · obtain ⟨b, -, hb⟩ := exists_mem_of_forall₂ hread.flip hmem
        exact not_readable_typeAsAs b hb
      · exact hend hends
    · have hspec := (hagree _).1 ⟨h, hend⟩
      obtain ⟨b, -, hspec⟩ := exists_mem_of_forall₂ hspec.flip hitem
      exact hb.not_specifier hspec
  · intro hno bs
    constructor
    · rintro ⟨h, hend⟩
      have hnames : ∀ item ∈ segments ws, ∀ b, ¬Misnamed item b :=
        fun item hitem b hb => hno (.accepted h hend hitem hb)
      refine List.Forall₂.imp ?_ ((List.forall₂_and_left _ _).2 ⟨hnames, h⟩)
      rintro item b ⟨hname, ⟨hspec, -⟩ | hb⟩
      · exact hspec
      · exact absurd hb (hname b)
    · intro h
      have hitems : ∀ item ∈ segments ws, item ≠ typeAsAs := by
        rintro item hitem rfl
        exact hno (.overlooked h (.inl hitem))
      refine ⟨List.Forall₂.imp ?_ ((List.forall₂_and_left _ _).2 ⟨hitems, h⟩), fun hends => ?_⟩
      · rintro item b ⟨hne, hspec⟩
        exact .inl ⟨hspec, hne⟩
      · exact hno (.overlooked h (.inr hends))

theorem Item.readable {d : Dialect} {ws : List Word} {b : Binding} {bare : Bool}
    (hd : d.typescript = true) (h : Item d ws b bare) :
    Readable ws b ∧ bare = decide (ws = typeAs) := by
  cases h with
  | name n => exact ⟨.inl ⟨.name n, by simp [typeAsAs]⟩, by simp [typeAs]⟩
  | @renamed w m hw ht =>
    refine ⟨.inl ⟨.renamed m hw, fun heq => ?_⟩, by simp [typeAs]⟩
    simp only [typeAsAs, List.cons.injEq, and_true, true_and] at heq
    exact ht hd heq.1 (congrArg Word.text heq.2)
  | @typed w ht hw hs =>
    refine ⟨?_, by simp [typeAs]⟩
    by_cases hk : w.kind = .name
    · obtain ⟨kind, n⟩ := w
      obtain rfl : kind = .name := hk
      exact .inl ⟨.typed n, by simp [typeAsAs]⟩
    · exact .inr (.typed hk hs)
  | @typedRenamed w m ht hw =>
    refine ⟨?_, by simp [typeAs]⟩
    by_cases hk : w.kind = .name ∨ w.kind = .string
    · exact .inl ⟨.typedRenamed m hk, by simp [typeAsAs]⟩
    · rw [not_or] at hk
      exact .inr (.typedRenamed m hk.1 hk.2)

theorem Readable.exists_item {d : Dialect} {ws : List Word} {b : Binding}
    (hd : d.typescript = true) (hws : ∀ w ∈ ws, w.endsItem = false) (h : Readable ws b) :
    ∃ bare, Item d ws b bare := by
  rcases h with ⟨hs, hne⟩ | hm
  · cases hs with
    | name n => exact ⟨_, .name n⟩
    | @renamed w m hw =>
      refine ⟨_, .renamed hw fun _ htype has => hne ?_⟩
      rw [htype, has]
      rfl
    | typed n => exact ⟨_, .typed hd (hws (.name n) (by simp)) (by simp)⟩
    | @typedRenamed w m hw => exact ⟨_, .typedRenamed hd (hws w (by simp))⟩
  · cases hm with
    | @typed w hw hs => exact ⟨_, .typed hd (hws w (by simp)) hs⟩
    | @typedRenamed w m hw hs => exact ⟨_, .typedRenamed hd (hws w (by simp))⟩

/-- No word of an item is a comma or brace. -/
theorem Item.kind_or_endsItem {d : Dialect} {ws : List Word} {b : Binding} {bare : Bool}
    (h : Item d ws b bare) : ∀ w ∈ ws, w.kind ≠ .punct ∨ w.endsItem = false := by
  cases h with
  | name n => simp
  | renamed hw => rcases hw with hw | hw <;> simp [hw]
  | typed _ hw => simp [hw]
  | typedRenamed _ hw => simp [hw]

end Grammar

namespace Parser

open Grammar

variable {size : Nat} {d : Dialect}

/-! ## Reading items -/

/-- **One item, up to a comma or brace.** -/
theorem namedItem_eq_ok_iff (hd : d.typescript = true) {its after mid : List Token} {stop : Token}
    {b : Binding} (hits : ∀ t ∈ its, t.word.endsItem = false) (hkind : stop.kind = .punct)
    (hstop : stop.word.endsItem = true) :
    namedItem size d (its ++ stop :: after) = .ok (b, mid) ∧
        (Token.peek size mid 0).word.endsItem = true ↔
      mid = stop :: after ∧ Readable (its.map Token.word) b ∧
        (its.map Token.word = typeAs → (Token.peek size after 0).word.endsItem = false) := by
  constructor
  · rintro ⟨h, hend⟩
    obtain ⟨its', bare, heq, hitem, hbare⟩ := item_of_namedItem h hend
    have hsame : its' = its ∧ mid = stop :: after := by
      -- If one part were longer, a comma or brace would be a word of an item, or a word of the item
      -- would be one.
      rcases List.append_eq_append_iff.1 heq with ⟨more, rfl, hmore⟩ | ⟨more, rfl, rfl⟩
      · cases more with
        | nil => exact ⟨by simp, hmore.symm⟩
        | cons x more =>
          obtain rfl : stop = x := (List.cons.inj hmore).1
          rcases hitem.kind_or_endsItem stop.word (by simp) with hk | hk
          · exact absurd hkind hk
          · rw [hstop] at hk
            cases hk
      · cases more with
        | nil => exact ⟨by simp, rfl⟩
        | cons x more =>
          have hx := hits x (by simp)
          rw [List.cons_append, Token.peek_cons_zero, hx] at hend
          cases hend
    obtain ⟨rfl, rfl⟩ := hsame
    obtain ⟨hread, rfl⟩ := hitem.readable hd
    exact ⟨rfl, hread, fun has => hbare (decide_eq_true has)⟩
  · rintro ⟨rfl, hread, hlook⟩
    have hwords : ∀ w ∈ its.map Token.word, w.endsItem = false := by simpa using hits
    obtain ⟨bare, hitem⟩ := hread.exists_item hd hwords
    obtain ⟨-, rfl⟩ := hitem.readable hd
    exact ⟨namedItem_of_item hitem hstop fun has => hlook (of_decide_eq_true has), hstop⟩

/-- A list that does not end at once is read item by item. -/
theorem namedItems_eq_ok_iff_item {ts more : List Token} {bs : List Binding}
    (hopen : (Token.peek size ts 0).text ≠ ['\x7d']) :
    namedItems size d ts = .ok (bs, more) ↔
      ∃ b stop after, namedItem size d ts = .ok (b, stop :: after) ∧
        ((stop.text = [','] ∧ ∃ bs', namedItems size d after = .ok (bs', more) ∧ bs = b :: bs') ∨
          (stop.text = ['\x7d'] ∧ stop.kind ≠ .bad ∧ more = after ∧ bs = [b])) := by
  rw [namedItems, if_neg (by simpa [Token.is] using hopen)]
  constructor
  · intro h
    split at h
    · cases h
    rename_i b mid hitem
    split at h
    · rename_i hcomma
      split at h
      · cases h
      rename_i bs' rest hrest
      obtain ⟨rfl, rfl⟩ := Prod.mk.inj (Except.ok.inj h)
      cases mid with
      | nil => cases hcomma
      | cons stop after =>
        exact ⟨b, stop, after, hitem, .inl ⟨Token.is_iff.1 hcomma, bs', hrest, rfl⟩⟩
    · split at h
      · cases h
      rename_i stop rest hclose
      obtain ⟨rfl, rfl⟩ := Prod.mk.inj (Except.ok.inj h)
      obtain ⟨rfl, htext, hbad⟩ := expect_eq_ok rfl hclose
      exact ⟨b, stop, rest, hitem, .inr ⟨Token.is_iff.1 htext, hbad, rfl, rfl⟩⟩
  · rintro ⟨b, stop, after, hitem, ⟨htext, bs', hrest, rfl⟩ | ⟨htext, hbad, rfl, rfl⟩⟩
    · split
      · simp_all
      rename_i b' mid hitem'
      obtain ⟨rfl, rfl⟩ := Prod.mk.inj (Except.ok.inj (hitem.symm.trans hitem'))
      rw [Token.peek_cons_zero, if_pos (Token.is_iff.2 htext), List.tail_cons, hrest]
    · split
      · simp_all
      rename_i b' mid hitem'
      obtain ⟨rfl, rfl⟩ := Prod.mk.inj (Except.ok.inj (hitem.symm.trans hitem'))
      rw [Token.peek_cons_zero, if_neg (by simp [Token.is, htext]),
        expectText_of_text more htext hbad]

/-! ## Reading lists -/

/-- A token of a list that is no brace ends an item only if it is a comma. -/
theorem endsItem_iff_comma {t : Token} (ht : t.word.Whole) (hbrace : t.word ≠ .punct '\x7d') :
    t.word.endsItem = true ↔ t.word = .punct ',' := by
  constructor
  · intro h
    simp only [Word.endsItem, Bool.or_eq_true, beq_iff_eq] at h
    rcases h with h | h
    · exact ht.eq_of_text (w := .punct ',') ⟨.punct, rfl, rfl⟩ h
    · exact absurd (ht.eq_of_text (w := .punct '\x7d') ⟨.punct, rfl, rfl⟩ h) hbrace
  · intro h
    rw [h]
    rfl

theorem endsItem_of_notMem_comma {ts : List Token}
    (hts : ∀ t ∈ ts, t.word.Whole ∧ t.word ≠ .punct '\x7d') (h : .punct ',' ∉ ts.map Token.word) :
    ∀ t ∈ ts, t.word.endsItem = false := by
  intro t ht
  obtain ⟨hwhole, hbrace⟩ := hts t ht
  rw [← Bool.not_eq_true, endsItem_iff_comma hwhole hbrace]
  exact fun hcomma => h (List.mem_map.2 ⟨t, ht, hcomma⟩)

theorem exists_first_comma {ts : List Token} (h : .punct ',' ∈ ts.map Token.word) :
    ∃ its comma ts', ts = its ++ comma :: ts' ∧ comma.word = .punct ',' ∧
      .punct ',' ∉ its.map Token.word := by
  obtain ⟨ws, ws', hws, hfirst⟩ := List.eq_append_cons_of_mem h
  obtain ⟨its, rest, rfl, rfl, hrest⟩ := List.map_eq_append_iff.1 hws
  obtain ⟨comma, ts', rfl, hcomma, -⟩ := List.map_eq_cons_iff.1 hrest
  exact ⟨its, comma, ts', rfl, hcomma, hfirst⟩

/-- A list is read by its first item, and then by what follows the comma or brace. -/
theorem namedItems_append_iff (hd : d.typescript = true) {its after more : List Token}
    {stop : Token} {bs : List Binding} (hits : ∀ t ∈ its, t.word.endsItem = false)
    (hkind : stop.kind = .punct) (hstop : stop.word.endsItem = true)
    (hopen : its = [] → stop.text = [',']) :
    namedItems size d (its ++ stop :: after) = .ok (bs, more) ↔
      ∃ b, Readable (its.map Token.word) b ∧
        (its.map Token.word = typeAs → (Token.peek size after 0).word.endsItem = false) ∧
        ((stop.text = [','] ∧ ∃ bs', namedItems size d after = .ok (bs', more) ∧ bs = b :: bs') ∨
          (stop.text = ['\x7d'] ∧ more = after ∧ bs = [b])) := by
  have hfirst : (Token.peek size (its ++ stop :: after) 0).text ≠ ['\x7d'] := by
    cases its with
    | nil =>
      rw [List.nil_append, Token.peek_cons_zero, hopen rfl]
      simp
    | cons t its =>
      intro htext
      have ht := hits t (by simp)
      rw [Word.endsItem, Bool.or_eq_false_iff] at ht
      simpa [Token.text_word, show t.text = ['\x7d'] from htext] using ht.2
  rw [namedItems_eq_ok_iff_item hfirst]
  constructor
  · rintro ⟨b, stop', after', hitem, hnext⟩
    -- Whatever the reader stopped at ended the item, so that it is `stop`.
    have hend : (Token.peek size (stop' :: after') 0).word.endsItem = true := by
      rcases hnext with ⟨htext, -⟩ | ⟨htext, -⟩ <;> simp [Word.endsItem, htext]
    obtain ⟨heq, hread, hlook⟩ := (namedItem_eq_ok_iff hd hits hkind hstop).1 ⟨hitem, hend⟩
    obtain ⟨rfl, rfl⟩ := List.cons.inj heq
    refine ⟨b, hread, hlook, hnext.imp id ?_⟩
    rintro ⟨htext, -, hmore, hbs⟩
    exact ⟨htext, hmore, hbs⟩
  · rintro ⟨b, hread, hlook, hnext⟩
    have hitem : namedItem size d (its ++ stop :: after) = .ok (b, stop :: after) :=
      ((namedItem_eq_ok_iff hd hits hkind hstop).2 ⟨rfl, hread, hlook⟩).1
    refine ⟨b, stop, after, hitem, hnext.imp id ?_⟩
    rintro ⟨htext, hmore, hbs⟩
    exact ⟨htext, by simp [hkind], hmore, hbs⟩

/-- **The step over a comma.** -/
theorem namedItems_comma_iff (hd : d.typescript = true) {its after more : List Token}
    {comma : Token} {bs : List Binding} (hits : ∀ t ∈ its, t.word.endsItem = false)
    (hcomma : comma.word = .punct ',') :
    namedItems size d (its ++ comma :: after) = .ok (bs, more) ↔
      ∃ b bs', bs = b :: bs' ∧ Readable (its.map Token.word) b ∧
        (its.map Token.word = typeAs → (Token.peek size after 0).word.endsItem = false) ∧
        namedItems size d after = .ok (bs', more) := by
  have htext : comma.text = [','] := congrArg Word.text hcomma
  rw [namedItems_append_iff hd hits (congrArg Word.kind hcomma) (by rw [hcomma]; rfl)
    fun _ => htext]
  constructor
  · rintro ⟨b, hread, hlook, ⟨-, bs', hbs', rfl⟩ | ⟨hbrace, -⟩⟩
    · exact ⟨b, bs', rfl, hread, hlook, hbs'⟩
    · rw [htext] at hbrace
      cases hbrace
  · rintro ⟨b, bs', rfl, hread, hlook, hbs'⟩
    exact ⟨b, hread, hlook, .inl ⟨htext, bs', hbs', rfl⟩⟩

/-- **The last item**, if no comma follows it. -/
theorem namedItems_last_iff (hd : d.typescript = true) {its rest more : List Token}
    {close : Token} {bs : List Binding} (hne : its ≠ [])
    (hits : ∀ t ∈ its, t.word.endsItem = false) (hclose : close.word = .punct '\x7d') :
    namedItems size d (its ++ close :: rest) = .ok (bs, more) ↔
      more = rest ∧ List.Forall₂ Readable [its.map Token.word] bs ∧
        (its.map Token.word = typeAs → (Token.peek size rest 0).word.endsItem = false) := by
  have htext : close.text = ['\x7d'] := congrArg Word.text hclose
  rw [namedItems_append_iff hd hits (congrArg Word.kind hclose) (by rw [hclose]; rfl)
    fun hnil => absurd hnil hne]
  constructor
  · rintro ⟨b, hread, hlook, ⟨hcomma, -⟩ | ⟨-, rfl, rfl⟩⟩
    · rw [htext] at hcomma
      cases hcomma
    · exact ⟨rfl, .cons hread .nil, hlook⟩
  · rintro ⟨rfl, hall, hlook⟩
    cases hall with
    | @cons _ b _ _ hread hnil =>
      cases hnil
      exact ⟨b, hread, hlook, .inr ⟨htext, rfl, rfl⟩⟩

/-- What the word behind a comma must be after `type as` says where the list must not end. -/
theorem not_endsInTypeAs_comma_iff {its : List Word} {ts rest : List Token} {close : Token}
    {bs : List Binding} {next : Word} (hclose : close.word = .punct '\x7d')
    (hts : ∀ t ∈ ts, t.word.Whole ∧ t.word ≠ .punct '\x7d') (hits : .punct ',' ∉ its)
    (hall : List.Forall₂ Readable (segments (ts.map Token.word)) bs) :
    ¬EndsInTypeAs (its ++ .punct ',' :: ts.map Token.word) next ↔
      (its = typeAs → (Token.peek size (ts ++ close :: rest) 0).word.endsItem = false) ∧
        ¬EndsInTypeAs (ts.map Token.word) next := by
  cases ts with
  | nil =>
    rw [List.map_nil, endsInTypeAs_concat_comma hits, List.nil_append, Token.peek_cons_zero, hclose]
    simp [not_endsInTypeAs_nil, Word.endsItem]
  | cons t ts =>
    rw [endsInTypeAs_append_comma hits (by simp)]
    refine ⟨fun hnot => ⟨fun _ => ?_, hnot⟩, And.right⟩
    obtain ⟨hwhole, hbrace⟩ := hts t (by simp)
    rw [List.cons_append, Token.peek_cons_zero, ← Bool.not_eq_true,
      endsItem_iff_comma hwhole hbrace]
    intro ht
    rw [List.map_cons, ht, segments, if_pos rfl] at hall
    cases hall with
    | cons hnil _ => exact not_readable_nil _ hnil

/-- **The lists that are read**, and the bindings they give. -/
theorem namedItems_eq_ok_iff (hd : d.typescript = true) {ts rest more : List Token} {close : Token}
    {bs : List Binding} (hclose : close.word = .punct '\x7d')
    (hts : ∀ t ∈ ts, t.word.Whole ∧ t.word ≠ .punct '\x7d') :
    namedItems size d (ts ++ close :: rest) = .ok (bs, more) ↔
      more = rest ∧ List.Forall₂ Readable (segments (ts.map Token.word)) bs ∧
        ¬EndsInTypeAs (ts.map Token.word) (Token.peek size rest 0).word := by
  -- On the length, as what follows the first comma is a shorter list.
  induction hn : ts.length using Nat.strongRecOn generalizing ts bs with
  | _ n ih =>
    subst hn
    by_cases hcomma : .punct ',' ∈ ts.map Token.word
    · obtain ⟨its, comma, ts', rfl, hword, hits⟩ := exists_first_comma hcomma
      have hfree := endsItem_of_notMem_comma (fun t ht => hts t (by simp [ht])) hits
      have hts' : ∀ t ∈ ts', t.word.Whole ∧ t.word ≠ .punct '\x7d' :=
        fun t ht => hts t (by simp [ht])
      have hrest : ∀ bs', namedItems size d (ts' ++ close :: rest) = .ok (bs', more) ↔ _ :=
        fun bs' => ih ts'.length (by simp; omega) hts' rfl
      rw [List.append_assoc, List.cons_append, namedItems_comma_iff hd hfree hword,
        List.map_append, List.map_cons, hword, segments_append_comma _ hits]
      constructor
      · rintro ⟨b, bs', rfl, hread, hlook, hbs'⟩
        obtain ⟨rfl, hall, hnot⟩ := (hrest bs').1 hbs'
        exact ⟨rfl, .cons hread hall,
          (not_endsInTypeAs_comma_iff hclose hts' hits hall).2 ⟨hlook, hnot⟩⟩
      · rintro ⟨rfl, hitems, hnot⟩
        cases hitems with
        | @cons _ b _ bs' hread hall =>
          obtain ⟨hlook, hnot⟩ := (not_endsInTypeAs_comma_iff hclose hts' hits hall).1 hnot
          exact ⟨b, bs', rfl, hread, hlook, (hrest bs').2 ⟨rfl, hall, hnot⟩⟩
    · cases ts with
      | nil =>
        rw [List.nil_append, namedItems, Token.peek_cons_zero,
          if_pos (Token.is_iff.2 (congrArg Word.text hclose)), List.tail_cons, List.map_nil,
          segments, List.forall₂_nil_left_iff]
        simp [not_endsInTypeAs_nil, and_comm, eq_comm]
      | cons t ts =>
        have hfree := endsItem_of_notMem_comma hts hcomma
        rw [namedItems_last_iff hd (by simp) hfree hclose, segments_of_notMem (by simp) hcomma,
          endsInTypeAs_of_notMem (by simp) hcomma, not_and, Bool.not_eq_true]

/-- The opening brace is read first. -/
theorem namedList_cons {o : Token} (ts : List Token) (ho : o.word = .punct '\x7b') :
    namedList size d (o :: ts) = namedItems size d ts := by
  have hkind : o.kind = .punct := congrArg Word.kind ho
  rw [namedList, expectText_of_text ts (congrArg Word.text ho) (by simp [hkind])]
  rfl

/-- **The lists that are read as the language has them.** A list between braces is read if its items
are readable and it does not end in `type as` and a comma. So it is read as the language has it,
with the same bindings if it is one and not otherwise, unless it is misread. -/
theorem namedList_specifiers_iff (hd : d.typescript = true) {o close : Token}
    {ts rest : List Token} (ho : o.word = .punct '\x7b') (hclose : close.word = .punct '\x7d')
    (hts : ∀ t ∈ ts, t.word.Whole ∧ t.word ≠ .punct '\x7d') :
    (∀ bs more, namedList size d (o :: (ts ++ close :: rest)) = .ok (bs, more) ↔
      more = rest ∧ List.Forall₂ Readable (segments (ts.map Token.word)) bs ∧
        ¬EndsInTypeAs (ts.map Token.word) (Token.peek size rest 0).word) ∧
    ((∀ bs more, namedList size d (o :: (ts ++ close :: rest)) = .ok (bs, more) ↔
      more = rest ∧ List.Forall₂ Specifier (segments (ts.map Token.word)) bs) ↔
      ¬Misread (ts.map Token.word) (Token.peek size rest 0).word) := by
  rw [namedList_cons _ ho]
  simp only [namedItems_eq_ok_iff hd hclose hts, ← forall_readable_iff_specifier]
  refine ⟨fun _ _ => trivial, fun h bs => ?_, fun h bs more => and_congr_right fun _ => h bs⟩
  simpa using h bs rest

/-- A token of a word, at the start of the source: the reader of lists looks at words only. -/
def tokenOf (w : Word) : Token := ⟨w.kind, w.text, 0, false⟩

/-- A list in braces and nothing else. -/
def braced (ws : List Word) : List Token :=
  tokenOf (.punct '\x7b') :: (ws.map tokenOf ++ [tokenOf (.punct '\x7d')])

/-- The mark before a star. -/
def typeStar : List Word := [.name "type".toList, .punct '*']

/-- Two names that the language has are refused, and a star is taken for a name. -/
theorem namedList_braced_misread :
    ((∀ bs more, namedList 0 ⟨true, false⟩ (braced typeAsAs) ≠ .ok (bs, more)) ∧
      List.Forall₂ Specifier (segments typeAsAs)
        [⟨.namedExport, "type".toList, some "as".toList, false⟩]) ∧
    ((∀ bs more, namedList 0 ⟨true, false⟩ (braced (typeAs ++ [.punct ','])) ≠ .ok (bs, more)) ∧
      List.Forall₂ Specifier (segments (typeAs ++ [.punct ',']))
        [⟨.namedExport, "as".toList, none, true⟩]) ∧
    (namedList 0 ⟨true, false⟩ (braced typeStar) = .ok ([⟨.namedExport, ['*'], none, true⟩], []) ∧
      ∀ bs, ¬List.Forall₂ Specifier (segments typeStar) bs) := by
  have hwhole : ∀ w ∈ [Word.name "type".toList, .name "as".toList, .punct ',', .punct '*'],
      w.Whole ∧ w ≠ .punct '\x7d' := by
    simp only [List.forall_mem_cons, List.not_mem_nil, false_imp_iff, implies_true, and_true]
    exact ⟨⟨⟨.name, rfl, rfl⟩, by decide⟩, ⟨⟨.name, rfl, rfl⟩, by decide⟩,
      ⟨⟨.punct, rfl, rfl⟩, by decide⟩, ⟨.punct, rfl, rfl⟩, by decide⟩
  have hread : ∀ ws : List Word,
      ws ⊆ [Word.name "type".toList, .name "as".toList, .punct ',', .punct '*'] →
      ∀ bs more, namedList 0 ⟨true, false⟩ (braced ws) = .ok (bs, more) ↔
        more = [] ∧ List.Forall₂ Readable (segments ws) bs ∧
          ¬EndsInTypeAs ws (Token.eof 0).word := by
    intro ws hws bs more
    have hts : ∀ t ∈ ws.map tokenOf, t.word.Whole ∧ t.word ≠ .punct '\x7d' := by
      intro t ht
      obtain ⟨w, hw, rfl⟩ := List.mem_map.1 ht
      exact hwhole w (hws hw)
    have h := (@namedList_specifiers_iff 0 ⟨true, false⟩ rfl (tokenOf (.punct '\x7b'))
      (tokenOf (.punct '\x7d')) (ws.map tokenOf) [] rfl rfl hts).1 bs more
    rwa [List.map_map, show Token.word ∘ tokenOf = id from rfl, List.map_id] at h
  refine ⟨⟨?_, .cons (.renamed _ (.inl rfl)) .nil⟩, ⟨?_, .cons (.typed _) .nil⟩, ?_, ?_⟩
  · intro bs more h
    obtain ⟨-, hall, -⟩ := (hread _ (by decide) _ _).1 h
    cases hall with
    | cons hitem _ => exact not_readable_typeAsAs _ hitem
  · intro bs more h
    obtain ⟨-, -, hend⟩ := (hread _ (by decide) _ _).1 h
    exact hend ((endsInTypeAs_concat_comma (by decide)).2 rfl)
  · refine (hread _ (by decide) _ _).2 ⟨rfl, .cons (.inr (.typed (by decide) (by decide))) .nil, ?_⟩
    rw [endsInTypeAs_of_notMem (by decide) (by decide)]
    exact fun h => absurd h.1 (by decide)
  · intro bs h
    cases h with
    | cons hitem _ => exact Misnamed.not_specifier (.typed (by decide) (by decide)) hitem

end Parser

end ImportOrder
