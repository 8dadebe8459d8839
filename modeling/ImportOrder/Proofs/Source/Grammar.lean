import ImportOrder.Proofs.Source.Words
import ImportOrder.Source.Parser

/-!
# The grammar of import declarations

What an import declaration looks like, as a grammar over words, and how the reader of declarations
keeps to it: it reads the sentences of the grammar, all of a sentence, and nothing else. Since
words have no place, a sentence is read in the same way wherever it stands.

The word `type` is the one that needs care. In a list it may be a mark on the name behind it or a
name itself, and the reader decides by up to three words behind it. So a bare name `as` with the
mark is read only where no comma follows, or a comma and another name.

## Main definitions

* `Grammar.Item`, `Grammar.Items`: the names of an import list, up to the closing brace
* `Grammar.StarOrList`, `Grammar.Core`, `Grammar.Clause`: the bindings of a declaration, up to the
  word `from`
* `Grammar.Attributes`: import attributes

## Main results

* `Parser.items_of_namedItems`, `Parser.namedItems_of_items`: import lists
* `Parser.clause_of_importClause`, `Parser.importClause_of_clause`: clauses
-/

namespace ImportOrder

namespace Word

/-- The word that a name is. -/
def name (n : Text) : Word := ⟨.name, n⟩

/-- The word that a single character is. -/
def punct (c : Char) : Word := ⟨.punct, [c]⟩

@[simp] theorem kind_name (n : Text) : (name n).kind = .name := rfl

@[simp] theorem text_name (n : Text) : (name n).text = n := rfl

@[simp] theorem kind_punct (c : Char) : (punct c).kind = .punct := rfl

@[simp] theorem text_punct (c : Char) : (punct c).text = [c] := rfl

/-- Whether a word can stand behind an item of an import list. -/
def endsItem (w : Word) : Bool := w.text == [','] || w.text == ['\x7d']

end Word

namespace Grammar

variable (d : Dialect)

/-- **An item of an import list**, and whether it is the bare name `as` with a type mark. The name
behind the mark may be any word that does not end the item. -/
inductive Item : List Word → Binding → Bool → Prop
  | name (n : Text) : Item [.name n] ⟨.namedExport, n, none, false⟩ false
  | renamed {w : Word} {m : Text} (hw : w.kind = .name ∨ w.kind = .string)
      (ht : d.typescript = true → w = .name "type".toList → m ≠ "as".toList) :
      Item [w, .name "as".toList, .name m] ⟨.namedExport, w.text, some m, false⟩ false
  | typed {w : Word} (ht : d.typescript = true) (hw : w.endsItem = false)
      (hs : w.kind ≠ .string) :
      Item [.name "type".toList, w] ⟨.namedExport, w.text, none, true⟩
        (decide (w = .name "as".toList))
  | typedRenamed {w : Word} {m : Text} (ht : d.typescript = true) (hw : w.endsItem = false) :
      Item [.name "type".toList, w, .name "as".toList, .name m]
        ⟨.namedExport, w.text, some m, true⟩ false

/-- **The items of an import list** and the brace behind them. -/
inductive Items : List Word → List Binding → Prop
  | close : Items [.punct '\x7d'] []
  | last {ws : List Word} {b : Binding} {bare : Bool} (h : Item d ws b bare) :
      Items (ws ++ [.punct '\x7d']) [b]
  | more {ws ws' : List Word} {b : Binding} {bs : List Binding} {bare : Bool}
      (h : Item d ws b bare) (hs : Items ws' bs) (hbare : bare = true → bs ≠ []) :
      Items (ws ++ .punct ',' :: ws') (b :: bs)

/-- **Items that end in a bare name `as`** with the mark, then a comma and the brace. -/
inductive Stuck : List Word → Prop
  | bare : Stuck [.name "type".toList, .name "as".toList, .punct ',', .punct '\x7d']
  | more {ws ws' : List Word} {b : Binding} {bare : Bool} (h : Item d ws b bare)
      (hs : Stuck ws') : Stuck (ws ++ .punct ',' :: ws')

/-- **A namespace or an import list.** -/
inductive StarOrList : List Word → List Binding → Prop
  | star (m : Text) : StarOrList [.punct '*', .name "as".toList, .name m]
      [⟨.namespaceObject, m, none, false⟩]
  | list {ws : List Word} {bs : List Binding} (h : Items d ws bs) :
      StarOrList (.punct '\x7b' :: ws) bs

/-- **The bindings of a declaration.** -/
inductive Core : List Word → List Binding → Prop
  | default (n : Text) : Core [.name n] [⟨.defaultExport, n, none, false⟩]
  | rest {ws : List Word} {bs : List Binding} (h : StarOrList d ws bs) : Core ws bs
  | both (n : Text) {ws : List Word} {bs : List Binding} (h : StarOrList d ws bs) :
      Core (.name n :: .punct ',' :: ws) (⟨.defaultExport, n, none, false⟩ :: bs)

/-- **What stands before the module string** of a declaration: nothing, or bindings and the word
`from`; and whether they are types only. A default binding `from` with the type mark stands alone,
since `type` is read as the binding if a comma follows. -/
inductive Clause : List Word → List Binding → Bool → Prop
  | nothing : Clause [] [] false
  | plain {ws : List Word} {bs : List Binding} (h : Core d ws bs) :
      Clause (ws ++ [.name "from".toList]) bs false
  | typed {ws : List Word} {bs : List Binding} (ht : d.typescript = true) (h : Core d ws bs)
      (hfrom : ws.head? = some (.name "from".toList) → ws.length = 1) :
      Clause (.name "type".toList :: ws ++ [.name "from".toList]) bs true

/-- **A clause whose list is stuck.** -/
inductive StuckClause : List Word → Prop
  | list {ws : List Word} (h : Stuck d ws) : StuckClause (.punct '\x7b' :: ws)
  | both (n : Text) {ws : List Word} (h : Stuck d ws) :
      StuckClause (.name n :: .punct ',' :: .punct '\x7b' :: ws)
  | typedList {ws : List Word} (ht : d.typescript = true) (h : Stuck d ws) :
      StuckClause (.name "type".toList :: .punct '\x7b' :: ws)
  | typedBoth {n : Text} {ws : List Word} (ht : d.typescript = true) (hn : n ≠ "from".toList)
      (h : Stuck d ws) :
      StuckClause (.name "type".toList :: .name n :: .punct ',' :: .punct '\x7b' :: ws)

/-- **Import attributes.** -/
def Attributes (ws : List Word) : Prop :=
  ∃ keyword body, ws = keyword :: .punct '\x7b' :: (body ++ [.punct '\x7d']) ∧
    (keyword = .name "with".toList ∨ keyword = .name "assert".toList) ∧
    ∀ w ∈ body, w.text ≠ ['\x7d'] ∧ w.kind ≠ .bad

end Grammar

namespace Token

@[simp] theorem is_iff {t : Token} {s : String} : t.is s = true ↔ t.text = s.toList := by
  simp [is]

theorem isName_iff {t : Token} {s : String} : t.isName s = true ↔ t.word = .name s.toList := by
  simp [isName, word, Word.name]

@[simp] theorem kind_word (t : Token) : t.word.kind = t.kind := rfl

@[simp] theorem text_word (t : Token) : t.word.text = t.text := rfl

@[simp] theorem peek_cons_zero (size : Nat) (t : Token) (ts : List Token) :
    peek size (t :: ts) 0 = t := rfl

@[simp] theorem peek_cons_succ (size : Nat) (t : Token) (ts : List Token) (n : Nat) :
    peek size (t :: ts) (n + 1) = peek size ts n := rfl

@[simp] theorem peek_nil (size n : Nat) : peek size [] n = eof size := rfl

end Token

namespace Parser

open Grammar

variable {size : Nat} {d : Dialect}

/-! ## Single tokens -/

theorem expect_eq_ok {wanted : Wanted} {ok : Token → Bool} {ts rest : List Token} {t : Token}
    (heof : ok (.eof size) = false) (h : expect size wanted ok ts = .ok (t, rest)) :
    ts = t :: rest ∧ ok t = true ∧ t.kind ≠ .bad := by
  simp only [expect] at h
  split at h
  · cases h
  · rename_i hbad
    split at h
    · rename_i hok
      obtain ⟨rfl, rfl⟩ := Prod.mk.inj (Except.ok.inj h)
      cases ts with
      | nil =>
        rw [Token.peek_nil, heof] at hok
        cases hok
      | cons t ts => exact ⟨rfl, hok, hbad⟩
    · cases h

theorem expect_of_ok {wanted : Wanted} {ok : Token → Bool} {t : Token} (rest : List Token)
    (hok : ok t = true) (hbad : t.kind ≠ .bad) :
    expect size wanted ok (t :: rest) = .ok (t, rest) := by
  simp [expect, hok, hbad]

theorem expectName_eq_ok {ts rest : List Token} {t : Token}
    (h : expectName size ts = .ok (t, rest)) : ts = t :: rest ∧ t.word = .name t.text := by
  obtain ⟨hts, hk, -⟩ := expect_eq_ok (by simp [Token.eof]) h
  have hk : t.kind = .name := by simpa using hk
  exact ⟨hts, by simp [Token.word, Word.name, hk]⟩

theorem expectName_of_word {t : Token} {n : Text} (rest : List Token) (h : t.word = .name n) :
    expectName size (t :: rest) = .ok (t, rest) := by
  have hk : t.kind = .name := congrArg Word.kind h
  exact expect_of_ok rest (by simp [hk]) (by simp [hk])

theorem expectText_eq_ok {s : String} {ts rest : List Token} {t : Token} (hs : s ≠ "")
    (h : expectText size s ts = .ok (t, rest)) : ts = t :: rest ∧ t.text = s.toList := by
  obtain ⟨hts, hk, -⟩ := expect_eq_ok (by simpa [Token.eof, Token.is] using hs) h
  exact ⟨hts, by simpa using hk⟩

theorem expectText_of_text {s : String} {t : Token} (rest : List Token) (h : t.text = s.toList)
    (hbad : t.kind ≠ .bad) : expectText size s (t :: rest) = .ok (t, rest) :=
  expect_of_ok rest (by simpa using h) hbad

/-! ## Items of import lists -/

theorem renamed_eq_ok {imported : Token} {typeOnly : Bool} {ts rest : List Token} {b : Binding}
    (h : renamed size imported typeOnly ts = .ok (b, rest)) :
    (∃ a m, ts = a :: m :: rest ∧ a.word = .name "as".toList ∧ m.word = .name m.text ∧
      b = ⟨.namedExport, imported.text, some m.text, typeOnly⟩) ∨
    (ts = rest ∧ imported.kind ≠ .string ∧ (Token.peek size rest 0).word ≠ .name "as".toList ∧
      b = ⟨.namedExport, imported.text, none, typeOnly⟩) := by
  unfold renamed at h
  split at h
  · rename_i has
    rw [Token.isName_iff] at has
    split at h
    · cases h
    · rename_i m rest' hm
      obtain ⟨rfl, rfl⟩ := Prod.mk.inj (Except.ok.inj h)
      obtain ⟨htail, hm⟩ := expectName_eq_ok hm
      cases ts with
      | nil => simp at htail
      | cons a ts =>
        obtain rfl : ts = m :: rest' := htail
        exact .inl ⟨a, m, rfl, has, by assumption, rfl⟩
  · rename_i has
    rw [Token.isName_iff] at has
    split at h
    · cases h
    · rename_i hk
      obtain ⟨rfl, rfl⟩ := Prod.mk.inj (Except.ok.inj h)
      exact .inr ⟨rfl, hk, has, rfl⟩

theorem renamed_of_as {imported a m : Token} {n : Text} (typeOnly : Bool) (rest : List Token)
    (ha : a.word = .name "as".toList) (hm : m.word = .name n) :
    renamed size imported typeOnly (a :: m :: rest) =
      .ok (⟨.namedExport, imported.text, some n, typeOnly⟩, rest) := by
  have hn : m.text = n := congrArg Word.text hm
  simp [renamed, Token.isName_iff.2 ha, expectName_of_word rest hm, hn]

theorem renamed_of_not_as {imported : Token} (typeOnly : Bool) {rest : List Token}
    (hk : imported.kind ≠ .string) (has : (Token.peek size rest 0).word ≠ .name "as".toList) :
    renamed size imported typeOnly rest =
      .ok (⟨.namedExport, imported.text, none, typeOnly⟩, rest) := by
  have has : (Token.peek size rest 0).isName "as" = false := by
    rw [← Bool.not_eq_true, Token.isName_iff]
    exact has
  simp [renamed, has, hk]

theorem isTypeModifierInList_iff {ts : List Token} :
    isTypeModifierInList size ts = true ↔ (Token.peek size ts 0).word.endsItem = false ∧
      ((Token.peek size ts 0).word = .name "as".toList →
        (Token.peek size ts 2).word.endsItem = true →
          (Token.peek size ts 1).word = .name "as".toList) := by
  simp only [← Token.isName_iff]
  simp only [isTypeModifierInList, Word.endsItem, Token.text_word, Token.is]
  generalize Token.isName (Token.peek size ts 0) "as" = a
  generalize Token.isName (Token.peek size ts 1) "as" = b
  cases a <;> cases b <;> simp

theorem endsItem_as : (Word.name "as".toList).endsItem = false := rfl

/-- The word that ends an item does not rename it. -/
theorem ne_as_of_endsItem {w : Word} (h : w.endsItem) : w ≠ .name "as".toList := by
  rintro rfl
  cases h

/-- What is read as an item of a list is one, if the item ends there. -/
theorem item_of_namedItem {ts rest : List Token} {b : Binding}
    (h : namedItem size d ts = .ok (b, rest)) (hend : (Token.peek size rest 0).word.endsItem) :
    ∃ its bare, ts = its ++ rest ∧ Item d (its.map Token.word) b bare ∧
      (bare = true → (Token.peek size rest 1).word.endsItem = false) := by
  have hne_as := ne_as_of_endsItem hend
  cases ts with
  | nil => cases h
  | cons t ts =>
    simp only [namedItem] at h
    split at h
    · cases h
    rename_i hkind
    split at h
    · rename_i hmark
      simp only [Bool.and_eq_true, Token.isName_iff, isTypeModifierInList_iff] at hmark
      obtain ⟨⟨hd, htype⟩, hw, has⟩ := hmark
      cases ts with
      | nil =>
        obtain ⟨_, _, hnil, -⟩ | ⟨rfl, -⟩ := renamed_eq_ok h
        · simp at hnil
        · cases hend
      | cons w ts =>
        obtain ⟨a, m, rfl, ha, hm, rfl⟩ | ⟨rfl, hk, -, rfl⟩ := renamed_eq_ok h
        · refine ⟨[t, w, a, m], false, rfl, ?_, by simp⟩
          simpa [htype, ha, hm] using Item.typedRenamed hd hw
        · refine ⟨[t, w], _, rfl, by simpa [htype] using Item.typed hd hw hk, fun hbare => ?_⟩
          -- A bare `as` before a word that ends an item would have been taken for the new name of
          -- `type`.
          by_contra hnext
          exact hne_as (has (of_decide_eq_true hbare) (by simpa using hnext))
    · rename_i hmark
      simp only [Bool.and_eq_true, Token.isName_iff, isTypeModifierInList_iff, not_and] at hmark
      obtain ⟨a, m, rfl, ha, hm, rfl⟩ | ⟨rfl, hk, -, rfl⟩ := renamed_eq_ok h
      · refine ⟨[t, a, m], false, rfl, ?_, by simp⟩
        have hitem : Item d [t.word, .name "as".toList, .name m.text]
            ⟨.namedExport, t.text, some m.text, false⟩ false := by
          refine Item.renamed ?_ fun hd htype hmas => ?_
          · simpa [Token.kind_word, or_iff_not_imp_left] using hkind
          · -- `type as as` is not read as a renaming: the second `as` makes `type` a mark.
            refine hmark ⟨hd, htype⟩ (by rw [Token.peek_cons_zero, ha, endsItem_as]) fun _ _ => ?_
            simpa [hmas] using hm
        simpa [ha, hm] using hitem
      · have hname : t.word = .name t.text := by
          have : t.kind = .name := by
            by_contra hne
            exact hkind ⟨hne, hk⟩
          simp [Token.word, Word.name, this]
        exact ⟨[t], false, rfl, by simpa [hname] using Item.name t.text, by simp⟩

theorem namedItem_of_mark {t w : Token} {ts : List Token} (hd : d.typescript = true)
    (ht : t.word = .name "type".toList) (hmark : isTypeModifierInList size (w :: ts) = true) :
    namedItem size d (t :: w :: ts) = renamed size w true ts := by
  have hk : t.kind = .name := congrArg Word.kind ht
  simp [namedItem, hk, hd, Token.isName_iff.2 ht, hmark]

theorem namedItem_of_not_mark {t : Token} {ts : List Token}
    (hk : t.kind = .name ∨ t.kind = .string)
    (hmark : d.typescript = true → t.word = .name "type".toList →
      ¬isTypeModifierInList size ts = true) :
    namedItem size d (t :: ts) = renamed size t false ts := by
  have hmark : (d.typescript && t.isName "type" && isTypeModifierInList size ts) = false := by
    rw [← Bool.not_eq_true, Bool.and_eq_true, Bool.and_eq_true, Token.isName_iff]
    rintro ⟨⟨hd, ht⟩, h⟩
    exact hmark hd ht h
  rcases hk with hk | hk <;> simp [namedItem, hk, hmark]

/-- An item is read to its end, if another one or the end of the list follows. -/
theorem namedItem_of_item {its rest : List Token} {b : Binding} {bare : Bool}
    (h : Item d (its.map Token.word) b bare) (hend : (Token.peek size rest 0).word.endsItem)
    (hbare : bare = true → (Token.peek size rest 1).word.endsItem = false) :
    namedItem size d (its ++ rest) = .ok (b, rest) := by
  have hne_as := ne_as_of_endsItem hend
  -- The cases are the forms of an item; each settles first whether `type` is a mark.
  generalize hws : its.map Token.word = ws at h
  cases h with
  | name n =>
    obtain ⟨t, rfl, ht⟩ : ∃ t, its = [t] ∧ t.word = .name n := by simpa using hws
    have hk : t.kind = .name := congrArg Word.kind ht
    have hn : t.text = n := congrArg Word.text ht
    rw [List.singleton_append, namedItem_of_not_mark (.inl hk), renamed_of_not_as _ _ hne_as, hn]
    · simp [hk]
    · intro _ _ hmark
      rw [(isTypeModifierInList_iff.1 hmark).1] at hend
      cases hend
  | @renamed w m hw ht =>
    simp only [List.map_eq_cons_iff, List.map_eq_nil_iff] at hws
    obtain ⟨t, _, rfl, rfl, a, _, rfl, ha, x, _, rfl, hx, rfl⟩ := hws
    rw [List.cons_append, namedItem_of_not_mark hw]
    · exact renamed_of_as false rest ha hx
    · intro hd htype hmark
      have hxas := (isTypeModifierInList_iff.1 hmark).2 ha hend
      exact ht hd htype (congrArg Word.text (hx.symm.trans hxas))
  | @typed w hd hw hs =>
    simp only [List.map_eq_cons_iff, List.map_eq_nil_iff] at hws
    obtain ⟨t, _, rfl, ht, x, _, rfl, rfl, rfl⟩ := hws
    rw [List.cons_append, List.singleton_append, namedItem_of_mark hd ht]
    · exact renamed_of_not_as true hs hne_as
    · refine isTypeModifierInList_iff.2 ⟨hw, fun has hnext => ?_⟩
      have hfalse := hbare (decide_eq_true has)
      rw [Token.peek_cons_succ, hfalse] at hnext
      cases hnext
  | @typedRenamed w m hd hw =>
    simp only [List.map_eq_cons_iff, List.map_eq_nil_iff] at hws
    obtain ⟨t, _, rfl, ht, x, _, rfl, rfl, a, _, rfl, ha, y, _, rfl, hy, rfl⟩ := hws
    rw [List.cons_append, List.cons_append, namedItem_of_mark hd ht]
    · exact renamed_of_as true rest ha hy
    · exact isTypeModifierInList_iff.2 ⟨hw, fun _ _ => ha⟩

/-! ## Import lists -/

theorem items_nil {ws : List Word} (h : Items d ws []) : ws = [.punct '\x7d'] := by
  cases h
  rfl

/-- An item that was read before a comma goes with the list behind it. A bare `as` is read only if a
name follows the comma, so that it is not the last item. -/
theorem items_more_of_read {its its' rest : List Token} {c : Token} {b : Binding}
    {bs : List Binding} {bare : Bool} (hits : Item d (its.map Token.word) b bare)
    (hbare : bare = true → (Token.peek size (c :: (its' ++ rest)) 1).word.endsItem = false)
    (hc : c.word = .punct ',') (hits' : Items d (its'.map Token.word) bs) :
    Items d ((its ++ c :: its').map Token.word) (b :: bs) := by
  rw [List.map_append, List.map_cons, hc]
  refine Items.more hits hits' ?_
  rintro hb rfl
  obtain ⟨t, rfl, ht⟩ : ∃ t, its' = [t] ∧ t.word = .punct '\x7d' := by
    simpa using items_nil hits'
  have hfalse := hbare hb
  rw [Token.peek_cons_succ, List.singleton_append, Token.peek_cons_zero, ht] at hfalse
  cases hfalse

/-- What is read as an import list is one. -/
theorem items_of_namedItems {ts rest : List Token} {bs : List Binding}
    (hts : ∀ t ∈ ts, t.word.Whole) (h : namedItems size d ts = .ok (bs, rest)) :
    ∃ its, ts = its ++ rest ∧ Items d (its.map Token.word) bs := by
  -- Lists are read item by item; the cases in which the reader fails are void.
  fun_induction namedItems size d ts generalizing bs rest with
  | case1 ts hclose =>
    obtain ⟨rfl, rfl⟩ := Prod.mk.inj (Except.ok.inj h)
    cases ts with
    | nil => cases hclose
    | cons t ts =>
      have ht : t.word = .punct '\x7d' :=
        (hts t (by simp)).eq_of_text ⟨.punct, rfl, rfl⟩ (Token.is_iff.1 hclose)
      exact ⟨[t], rfl, by simpa [ht] using Items.close⟩
  | case4 ts _ b mid hitem hcomma bs' rest' hmore ih =>
    obtain ⟨rfl, rfl⟩ := Prod.mk.inj (Except.ok.inj h)
    have hend : (Token.peek size mid 0).word.endsItem := by
      simp [Word.endsItem, Token.is_iff.1 hcomma]
    obtain ⟨its, bare, rfl, hits, hbare⟩ := item_of_namedItem hitem hend
    cases mid with
    | nil => cases hcomma
    | cons c mid =>
      have hc : c.word = .punct ',' :=
        (hts c (by simp)).eq_of_text ⟨.punct, rfl, rfl⟩ (Token.is_iff.1 hcomma)
      obtain ⟨its', rfl, hits'⟩ := ih (fun t ht => hts t (by simp_all)) hmore
      exact ⟨its ++ c :: its', by simp, items_more_of_read hits hbare hc hits'⟩
  | case6 ts _ b mid hitem _ t rest' hclose =>
    obtain ⟨rfl, rfl⟩ := Prod.mk.inj (Except.ok.inj h)
    obtain ⟨rfl, htext⟩ := expectText_eq_ok (by decide) hclose
    have hend : t.word.endsItem := by simp [Word.endsItem, htext]
    obtain ⟨its, bare, rfl, hits, -⟩ := item_of_namedItem hitem hend
    have ht : t.word = .punct '\x7d' := (hts t (by simp)).eq_of_text ⟨.punct, rfl, rfl⟩ htext
    exact ⟨its ++ [t], by simp, by simpa [ht] using Items.last hits⟩
  | case2 | case3 | case5 => cases h

theorem endsItem_of_whole {w : Word} (hw : w.Whole) (hk : w.kind ≠ .punct) :
    w.endsItem = false := by
  rw [← Bool.not_eq_true]
  intro h
  simp only [Word.endsItem, Bool.or_eq_true, beq_iff_eq] at h
  rcases h with h | h
  · exact hk (by rw [hw.eq_of_text (w := .punct ',') ⟨.punct, rfl, rfl⟩ h]; rfl)
  · exact hk (by rw [hw.eq_of_text (w := .punct '\x7d') ⟨.punct, rfl, rfl⟩ h]; rfl)

/-- An item starts with a name or a string. -/
theorem item_head {ws : List Word} {b : Binding} {bare : Bool} (h : Item d ws b bare) :
    ∃ w ws', ws = w :: ws' ∧ w.kind ≠ .punct := by
  cases h with
  | name n => exact ⟨_, _, rfl, by simp [Word.name]⟩
  | renamed hw => exact ⟨_, _, rfl, by rcases hw with hw | hw <;> simp [hw]⟩
  | typed => exact ⟨_, _, rfl, by simp [Word.name]⟩
  | typedRenamed => exact ⟨_, _, rfl, by simp [Word.name]⟩

/-- The first token of an item does not end one. -/
theorem endsItem_of_item {its rest : List Token} {b : Binding} {bare : Bool}
    (hits : ∀ t ∈ its, t.word.Whole) (h : Item d (its.map Token.word) b bare) :
    (Token.peek size (its ++ rest) 0).word.endsItem = false := by
  obtain ⟨w, ws, hw, hk⟩ := item_head h
  obtain ⟨t, ts, rfl, rfl, rfl⟩ := List.map_eq_cons_iff.1 hw
  exact endsItem_of_whole (hits t (by simp)) hk

theorem endsItem_of_items {its rest : List Token} {bs : List Binding}
    (hits : ∀ t ∈ its, t.word.Whole) (h : Items d (its.map Token.word) bs) (hbs : bs ≠ []) :
    (Token.peek size (its ++ rest) 0).word.endsItem = false := by
  generalize hws : its.map Token.word = ws at h
  cases h with
  | close => exact absurd rfl hbs
  | last hi =>
    obtain ⟨is, ts, rfl, rfl, -⟩ := List.map_eq_append_iff.1 hws
    rw [List.append_assoc]
    exact endsItem_of_item (fun t ht => hits t (by simp [ht])) hi
  | more hi =>
    obtain ⟨is, ts, rfl, rfl, -⟩ := List.map_eq_append_iff.1 hws
    rw [List.append_assoc]
    exact endsItem_of_item (fun t ht => hits t (by simp [ht])) hi

/-- How reading goes on behind an item. -/
theorem namedItems_eq_of_item {ts mid : List Token} {b : Binding}
    (hopen : (Token.peek size ts 0).word.endsItem = false)
    (hitem : namedItem size d ts = .ok (b, mid)) :
    namedItems size d ts =
      if (Token.peek size mid 0).is "," then
        match namedItems size d mid.tail with
        | .error e => .error e
        | .ok (bs, rest) => .ok (b :: bs, rest)
      else
        match expectText size "\x7d" mid with
        | .error e => .error e
        | .ok (_, rest) => .ok ([b], rest) := by
  simp only [Word.endsItem, Bool.or_eq_false_iff] at hopen
  rw [namedItems, if_neg (by simpa [Token.is] using hopen.2)]
  split
  · simp_all
  · rename_i b' mid' hitem'
    obtain ⟨rfl, rfl⟩ := Prod.mk.inj (Except.ok.inj (hitem.symm.trans hitem'))
    rfl

/-- An import list is read to its end, if no comma or brace follows. -/
theorem namedItems_of_items {its rest : List Token} {bs : List Binding}
    (hits : ∀ t ∈ its, t.word.Whole) (h : Items d (its.map Token.word) bs)
    (hrest : (Token.peek size rest 0).word.endsItem = false) :
    namedItems size d (its ++ rest) = .ok (bs, rest) := by
  generalize hws : its.map Token.word = ws at h
  induction h generalizing its with
  | close =>
    obtain ⟨t, rfl, ht⟩ : ∃ t, its = [t] ∧ t.word = .punct '\x7d' := by simpa using hws
    have htext : t.is "\x7d" = true := Token.is_iff.2 (congrArg Word.text ht)
    rw [namedItems]
    simp [htext]
  | @last ws b bare hi =>
    obtain ⟨is, ts, rfl, rfl, hts⟩ := List.map_eq_append_iff.1 hws
    obtain ⟨t, rfl, ht⟩ : ∃ t, ts = [t] ∧ t.word = .punct '\x7d' := by simpa using hts
    have his : ∀ t ∈ is, t.word.Whole := fun t ht => hits t (by simp [ht])
    rw [List.append_assoc]
    have hitem : namedItem size d (is ++ t :: rest) = .ok (b, t :: rest) :=
      -- What follows the brace is looked at too, if the last item is a bare `as`.
      namedItem_of_item hi (by rw [Token.peek_cons_zero, ht]; rfl) fun _ => hrest
    have htext : t.text = ['\x7d'] := congrArg Word.text ht
    have hclose : expectText size "\x7d" (t :: rest) = .ok (t, rest) :=
      expectText_of_text rest htext (by simp [← Token.kind_word, ht])
    rw [List.singleton_append, namedItems_eq_of_item (endsItem_of_item his hi) hitem]
    simp [Token.is, htext, hclose]
  | @more ws ws' b bs bare hi hs hbare ih =>
    obtain ⟨is, ts, rfl, rfl, hts⟩ := List.map_eq_append_iff.1 hws
    obtain ⟨c, ts, rfl, hc, rfl⟩ := List.map_eq_cons_iff.1 hts
    have his : ∀ t ∈ is, t.word.Whole := fun t ht => hits t (by simp [ht])
    have hts' : ∀ t ∈ ts, t.word.Whole := fun t ht => hits t (by simp [ht])
    rw [List.append_assoc]
    have hitem : namedItem size d (is ++ c :: (ts ++ rest)) = .ok (b, c :: (ts ++ rest)) :=
      namedItem_of_item hi (by rw [Token.peek_cons_zero, hc]; rfl)
        fun hb => endsItem_of_items hts' hs (hbare hb)
    rw [List.cons_append, namedItems_eq_of_item (endsItem_of_item his hi) hitem]
    simp [Token.is, ← Token.text_word, hc, ih hts' rfl]

theorem namedItems_of_item_error {ts : List Token} {e : SyntaxError}
    (hopen : (Token.peek size ts 0).word.endsItem = false)
    (hitem : namedItem size d ts = .error e) : namedItems size d ts = .error e := by
  simp only [Word.endsItem, Bool.or_eq_false_iff] at hopen
  rw [namedItems, if_neg (by simpa [Token.is] using hopen.2)]
  split <;> simp_all

theorem stuck_head {ws : List Word} (h : Stuck d ws) :
    ∃ w ws', ws = w :: ws' ∧ w.kind ≠ .punct := by
  cases h with
  | bare => exact ⟨_, _, rfl, by simp⟩
  | more hi =>
    obtain ⟨w, ws, rfl, hk⟩ := item_head hi
    exact ⟨w, _, rfl, hk⟩

theorem endsItem_of_stuck {its rest : List Token} (hits : ∀ t ∈ its, t.word.Whole)
    (h : Stuck d (its.map Token.word)) :
    (Token.peek size (its ++ rest) 0).word.endsItem = false := by
  obtain ⟨w, ws, hw, hk⟩ := stuck_head h
  obtain ⟨t, ts, rfl, rfl, rfl⟩ := List.map_eq_cons_iff.1 hw
  exact endsItem_of_whole (hits t (by simp)) hk

/-- Items that end in a bare `as` and a comma cannot be read. -/
theorem namedItems_of_stuck {its rest : List Token} (hits : ∀ t ∈ its, t.word.Whole)
    (h : Stuck d (its.map Token.word)) : ∃ e, namedItems size d (its ++ rest) = .error e := by
  generalize hws : its.map Token.word = ws at h
  induction h generalizing its with
  | bare =>
    simp only [List.map_eq_cons_iff, List.map_eq_nil_iff] at hws
    obtain ⟨t, _, rfl, ht, a, _, rfl, ha, c, _, rfl, hc, x, _, rfl, hx, rfl⟩ := hws
    -- With the brace two words on, `type` is a name and `as` renames it, to a comma.
    have hitem : namedItem size d (t :: a :: c :: x :: rest) = .error (.expected .name c) := by
      rw [namedItem_of_not_mark (.inl (congrArg Word.kind ht))]
      · have hck : c.kind = .punct := congrArg Word.kind hc
        simp [renamed, Token.isName_iff.2 ha, expectName, expect, hck]
      · intro _ _ hmark
        have hcas := (isTypeModifierInList_iff.1 hmark).2 ha (by
          rw [Token.peek_cons_succ, Token.peek_cons_succ, Token.peek_cons_zero, hx]
          rfl)
        rw [Token.peek_cons_succ, Token.peek_cons_zero, hc] at hcas
        cases hcas
    refine ⟨_, namedItems_of_item_error ?_ hitem⟩
    rw [List.cons_append, Token.peek_cons_zero, ht]
    rfl
  | @more ws ws' b bare hi hs ih =>
    obtain ⟨is, ts, rfl, rfl, hts⟩ := List.map_eq_append_iff.1 hws
    obtain ⟨c, ts, rfl, hc, rfl⟩ := List.map_eq_cons_iff.1 hts
    have his : ∀ t ∈ is, t.word.Whole := fun t ht => hits t (by simp [ht])
    have hts' : ∀ t ∈ ts, t.word.Whole := fun t ht => hits t (by simp [ht])
    obtain ⟨e, he⟩ := ih hts' rfl
    have hitem : namedItem size d (is ++ c :: (ts ++ rest)) = .ok (b, c :: (ts ++ rest)) :=
      namedItem_of_item hi (by rw [Token.peek_cons_zero, hc]; rfl)
        fun _ => endsItem_of_stuck hts' hs
    refine ⟨e, ?_⟩
    rw [List.append_assoc, List.cons_append, namedItems_eq_of_item (endsItem_of_item his hi) hitem]
    simp [Token.is, ← Token.text_word, hc, he]

/-! ## Clauses -/

theorem starOrList_eq_ok {ts rest : List Token} {bs : List Binding}
    (hts : ∀ t ∈ ts, t.word.Whole) (h : starOrList size d ts = .ok (bs, rest)) :
    ∃ cs, ts = cs ++ rest ∧ StarOrList d (cs.map Token.word) bs := by
  unfold starOrList at h
  split at h
  · rename_i hstar
    obtain ⟨⟨a, ts₁⟩, h₁, h⟩ := ok_of_bind h
    obtain ⟨⟨m, ts₂⟩, h₂, h⟩ := ok_of_bind h
    obtain ⟨rfl, rfl⟩ := Prod.mk.inj (Except.ok.inj h)
    obtain ⟨htail, ha⟩ := expectText_eq_ok (by decide) h₁
    obtain ⟨rfl, hm⟩ := expectName_eq_ok h₂
    cases ts with
    | nil => cases hstar
    | cons s ts =>
      obtain rfl : ts = a :: m :: ts₂ := htail
      have hs : s.word = .punct '*' :=
        (hts s (by simp)).eq_of_text ⟨.punct, rfl, rfl⟩ (Token.is_iff.1 hstar)
      have ha : a.word = .name "as".toList :=
        (hts a (by simp)).eq_of_text ⟨.name, rfl, rfl⟩ ha
      refine ⟨[s, a, m], rfl, ?_⟩
      simpa [hs, ha, hm] using StarOrList.star m.text
  · obtain ⟨⟨o, ts₁⟩, h₁, h₂⟩ := ok_of_bind h
    obtain ⟨rfl, ho⟩ := expectText_eq_ok (by decide) h₁
    have ho : o.word = .punct '\x7b' := (hts o (by simp)).eq_of_text ⟨.punct, rfl, rfl⟩ ho
    obtain ⟨its, rfl, hits⟩ := items_of_namedItems (fun t ht => hts t (by simp [ht])) h₂
    refine ⟨o :: its, rfl, ?_⟩
    simpa [ho] using StarOrList.list hits

theorem starOrList_of {cs rest : List Token} {bs : List Binding}
    (hcs : ∀ t ∈ cs, t.word.Whole) (h : StarOrList d (cs.map Token.word) bs)
    (hrest : (Token.peek size rest 0).word.endsItem = false) :
    starOrList size d (cs ++ rest) = .ok (bs, rest) := by
  generalize hws : cs.map Token.word = ws at h
  cases h with
  | star m =>
    simp only [List.map_eq_cons_iff, List.map_eq_nil_iff] at hws
    obtain ⟨s, _, rfl, hs, a, _, rfl, ha, x, _, rfl, hx, rfl⟩ := hws
    have hstar : s.is "*" = true := Token.is_iff.2 (congrArg Word.text hs)
    have has : expectText size "as" (a :: x :: rest) = .ok (a, x :: rest) :=
      expectText_of_text _ (congrArg Word.text ha) (by
        rw [← Token.kind_word, ha]
        simp [Word.name])
    have hm : x.text = m := congrArg Word.text hx
    simp [starOrList, hstar, has, expectName_of_word rest hx, hm, bind, Except.bind, pure,
      Except.pure]
  | @list ws bs hi =>
    obtain ⟨o, its, rfl, ho, rfl⟩ := List.map_eq_cons_iff.1 hws
    have htext : o.text = ['\x7b'] := congrArg Word.text ho
    have hopen : expectText size "\x7b" (o :: (its ++ rest)) = .ok (o, its ++ rest) :=
      expectText_of_text _ htext (by
        rw [← Token.kind_word, ho]
        simp [Word.punct])
    have hits := namedItems_of_items (fun t ht => hcs t (by simp [ht])) hi hrest
    simp [starOrList, Token.is, htext, namedList, hopen, hits, bind, Except.bind]

theorem opensClause_of_starOrList {cs : List Token} {bs : List Binding}
    (h : StarOrList d (cs.map Token.word) bs) (rest : List Token) :
    opensClause (Token.peek size (cs ++ rest) 0) = true ∧
      (Token.peek size (cs ++ rest) 0).kind = .punct := by
  generalize hws : cs.map Token.word = ws at h
  cases h with
  | star m =>
    obtain ⟨s, cs, rfl, hs, -⟩ := List.map_eq_cons_iff.1 hws
    exact ⟨by simp [opensClause, Token.is, ← Token.text_word, hs, Word.punct], by
      simp [← Token.kind_word, hs, Word.punct]⟩
  | list =>
    obtain ⟨s, cs, rfl, hs, -⟩ := List.map_eq_cons_iff.1 hws
    exact ⟨by simp [opensClause, Token.is, ← Token.text_word, hs, Word.punct], by
      simp [← Token.kind_word, hs, Word.punct]⟩

theorem afterDefault_eq_ok {ts rest : List Token} {bs : List Binding}
    (hts : ∀ t ∈ ts, t.word.Whole) (h : afterDefault size d ts = .ok (bs, rest)) :
    (ts = rest ∧ bs = []) ∨
      ∃ c cs, ts = c :: cs ++ rest ∧ c.word = .punct ',' ∧ StarOrList d (cs.map Token.word) bs := by
  unfold afterDefault at h
  split at h
  · rename_i hcomma
    split at h
    · cases ts with
      | nil => cases hcomma
      | cons c ts =>
        obtain ⟨cs, rfl, hcs⟩ := starOrList_eq_ok (fun t ht => hts t (by simp_all)) h
        have hc : c.word = .punct ',' :=
          (hts c (by simp)).eq_of_text ⟨.punct, rfl, rfl⟩ (Token.is_iff.1 hcomma)
        exact .inr ⟨c, cs, rfl, hc, hcs⟩
    · cases h
  · obtain ⟨rfl, rfl⟩ := Prod.mk.inj (Except.ok.inj h)
    exact .inl ⟨rfl, rfl⟩

/-- What is read as the bindings of a declaration are bindings. -/
theorem core_of_clause {start : Nat} {ts rest : List Token} {bs : List Binding}
    (hts : ∀ t ∈ ts, t.word.Whole) (h : clause size d start ts = .ok (bs, rest)) :
    ∃ cs, ts = cs ++ rest ∧ Core d (cs.map Token.word) bs := by
  simp only [clause] at h
  split at h
  · cases h
  split at h
  · rename_i hname
    obtain ⟨⟨bs₁, ts₁⟩, h₁, h₂⟩ := ok_of_bind h
    obtain ⟨rfl, rfl⟩ := Prod.mk.inj (Except.ok.inj h₂)
    cases ts with
    | nil => cases hname.1
    | cons t ts =>
      have ht : t.word = .name t.text := by
        have hk : t.kind = .name := hname.1
        simp [Token.word, Word.name, hk]
      have h₁ : afterDefault size d ts = .ok (bs₁, ts₁) := h₁
      obtain ⟨rfl, rfl⟩ | ⟨c, cs, rfl, hc, hcs⟩ :=
        afterDefault_eq_ok (fun u hu => hts u (by simp [hu])) h₁
      · exact ⟨[t], rfl, by simpa [ht] using Core.default t.text⟩
      · exact ⟨t :: c :: cs, rfl, by simpa [ht, hc] using Core.both t.text hcs⟩
  split at h
  · obtain ⟨cs, rfl, hcs⟩ := starOrList_eq_ok hts h
    exact ⟨cs, rfl, .rest hcs⟩
  · cases h

/-- The bindings of a declaration are read up to the word `from`. -/
theorem clause_of_core {start : Nat} {cs rest : List Token} {f : Token} {bs : List Binding}
    (hcs : ∀ t ∈ cs, t.word.Whole) (h : Core d (cs.map Token.word) bs)
    (hf : f.word = .name "from".toList) :
    clause size d start (cs ++ f :: rest) = .ok (bs, f :: rest) := by
  have hend : (Token.peek size (f :: rest) 0).word.endsItem = false := by
    rw [Token.peek_cons_zero, hf]
    rfl
  have hfk : f.kind = .name := congrArg Word.kind hf
  have hft : f.text = "from".toList := congrArg Word.text hf
  generalize hws : cs.map Token.word = ws at h
  cases h with
  | default n =>
    obtain ⟨t, rfl, ht⟩ : ∃ t, cs = [t] ∧ t.word = .name n := by simpa using hws
    have hk : t.kind = .name := congrArg Word.kind ht
    have hn : t.text = n := congrArg Word.text ht
    simp [clause, hk, hn, Token.is, hft, hfk, afterDefault, bind, Except.bind, pure, Except.pure]
  | rest hr =>
    subst hws
    obtain ⟨hopen, hk⟩ := @opensClause_of_starOrList size d _ _ hr (f :: rest)
    simp [clause, hk, hopen, starOrList_of hcs hr hend]
  | @both n ws' bs hr =>
    obtain ⟨t, cs, rfl, ht, hws⟩ := List.map_eq_cons_iff.1 hws
    obtain ⟨c, cs, rfl, hc, rfl⟩ := List.map_eq_cons_iff.1 hws
    obtain ⟨hopen, -⟩ := @opensClause_of_starOrList size d _ _ hr (f :: rest)
    have hk : t.kind = .name := congrArg Word.kind ht
    have hn : t.text = n := congrArg Word.text ht
    have hct : c.text = [','] := congrArg Word.text hc
    have hck : c.kind = .punct := congrArg Word.kind hc
    have hrest : starOrList size d (cs ++ f :: rest) = .ok (bs, f :: rest) :=
      starOrList_of (fun u hu => hcs u (by simp [hu])) hr hend
    simp [clause, hk, hn, Token.is, hct, hck, afterDefault, hopen, hrest, bind, Except.bind, pure,
      Except.pure]

/-- The bindings of a declaration start with a name, a star or a brace. -/
theorem core_head {ws : List Word} {bs : List Binding} (h : Core d ws bs) :
    ∃ w ws', ws = w :: ws' ∧
      ((w = .name w.text ∧ (ws' = [] ∨ ws'.head? = some (.punct ','))) ∨
        w = .punct '*' ∨ w = .punct '\x7b') := by
  cases h with
  | default n => exact ⟨.name n, [], rfl, .inl ⟨rfl, .inl rfl⟩⟩
  | rest hr =>
    cases hr with
    | star m => exact ⟨_, _, rfl, .inr (.inl rfl)⟩
    | list hi => exact ⟨_, _, rfl, .inr (.inr rfl)⟩
  | both n hr => exact ⟨.name n, _, rfl, .inl ⟨rfl, .inr rfl⟩⟩

/-- A clause starts with a name, a star or a brace. -/
theorem clause_head {ws : List Word} {bs : List Binding} {typeOnly : Bool}
    (h : Clause d ws bs typeOnly) :
    ws = [] ∨ ∃ w ws', ws = w :: ws' ∧ (w.kind = .name ∨ w = .punct '*' ∨ w = .punct '\x7b') := by
  cases h with
  | nothing => exact .inl rfl
  | plain hc =>
    obtain ⟨w, ws', rfl, hw⟩ := core_head hc
    exact .inr ⟨w, _, rfl, hw.imp (fun hn => congrArg Word.kind hn.1) id⟩
  | typed => exact .inr ⟨_, _, rfl, .inl rfl⟩

/-- The word `type` before bindings is a mark, unless `from` follows and is not a binding that
stands alone. -/
theorem isTypeModifier_iff_of_core {cs rest : List Token} {f : Token} {bs : List Binding}
    (h : Core d (cs.map Token.word) bs) (hf : f.word = .name "from".toList) :
    isTypeModifier size (cs ++ f :: rest) = true ↔
      ((cs.map Token.word).head? = some (.name "from".toList) → cs.length = 1) := by
  obtain ⟨w, ws, hws, hw⟩ := core_head h
  obtain ⟨t, cs, rfl, rfl, rfl⟩ := List.map_eq_cons_iff.1 hws
  rcases hw with ⟨hname, hnext⟩ | hstar | hbrace
  · -- The word `from` behind `type` is a binding only if another `from` follows at once.
    by_cases hfrom : t.word = .name "from".toList
    · have htext : t.text = "from".toList := congrArg Word.text hfrom
      cases cs with
      | nil =>
        simp [isTypeModifier, Token.is, htext, Token.isName_iff.2 hfrom, Token.isName_iff.2 hf]
      | cons c cs =>
        have hc : c.word = .punct ',' := by simpa using hnext
        have hcf : c.isName "from" = false := by
          simp [Token.isName, ← Token.kind_word, hc, Word.punct]
        simp [isTypeModifier, Token.is, htext, Token.isName_iff.2 hfrom, hcf, hfrom]
    · have hk : t.kind = .name := congrArg Word.kind hname
      have hne : t.isName "from" = false := by
        rw [← Bool.not_eq_true, Token.isName_iff]
        exact hfrom
      simp [isTypeModifier, hne, hk]
      intro hfrom'
      exact absurd hfrom' hfrom
  · have htext : t.text = ['*'] := congrArg Word.text hstar
    simp [isTypeModifier, Token.is, htext, hstar, Word.punct, Word.name]
  · have htext : t.text = ['\x7b'] := congrArg Word.text hbrace
    simp [isTypeModifier, Token.is, htext, hbrace, Word.punct, Word.name]

/-- What is read before the module string is a clause. -/
theorem clause_of_importClause {start : Nat} {ts rest : List Token} {bs : List Binding}
    {typeOnly : Bool} (hts : ∀ t ∈ ts, t.word.Whole)
    (h : importClause size d start ts = .ok ((bs, typeOnly), rest)) :
    ∃ cs, ts = cs ++ rest ∧ Clause d (cs.map Token.word) bs typeOnly := by
  unfold importClause at h
  split at h
  · simp only [Except.ok.injEq, Prod.mk.injEq] at h
    obtain ⟨⟨rfl, rfl⟩, rfl⟩ := h
    exact ⟨[], rfl, .nothing⟩
  · obtain ⟨⟨bs₁, ts₁⟩, h₁, h₂⟩ := ok_of_bind h
    obtain ⟨⟨f, ts₂⟩, h₃, h₄⟩ := ok_of_bind h₂
    obtain ⟨⟨rfl, rfl⟩, rfl⟩ : (bs₁ = bs ∧ _ = typeOnly) ∧ ts₂ = rest := by
      simpa [pure, Except.pure] using h₄
    obtain ⟨rfl, hf⟩ := expectText_eq_ok (by decide) h₃
    split at h₁
    · rename_i htype
      rw [htype]
      simp only [Bool.and_eq_true, Token.isName_iff] at htype
      obtain ⟨⟨hd, ht⟩, hmod⟩ := htype
      cases ts with
      | nil => cases ht
      | cons t ts =>
        obtain ⟨cs, htail, hcs⟩ :=
          core_of_clause (fun u hu => hts u (List.mem_of_mem_tail hu)) h₁
        obtain rfl : ts = cs ++ f :: ts₂ := htail
        have hf : f.word = .name "from".toList :=
          (hts f (by simp)).eq_of_text ⟨.name, rfl, rfl⟩ hf
        refine ⟨t :: (cs ++ [f]), by simp, ?_⟩
        have hclause := Clause.typed hd hcs fun hhead => by
          simpa using (isTypeModifier_iff_of_core hcs hf).1 hmod hhead
        have ht : t.word = .name "type".toList := ht
        simpa [ht, hf] using hclause
    · rename_i htype
      obtain ⟨cs, rfl, hcs⟩ := core_of_clause hts h₁
      have hf : f.word = .name "from".toList :=
        (hts f (by simp)).eq_of_text ⟨.name, rfl, rfl⟩ hf
      refine ⟨cs ++ [f], by simp, ?_⟩
      rw [Bool.eq_false_iff.2 htype]
      simpa [hf] using Clause.plain hcs

theorem importClause_of_clause_from {start : Nat} {ts rest : List Token} {f : Token}
    {bs : List Binding} {typeOnly : Bool} (hk : (Token.peek size ts 0).kind ≠ .string)
    (htype : (d.typescript && (Token.peek size ts 0).isName "type" &&
      isTypeModifier size ts.tail) = typeOnly)
    (hclause : clause size d start (if typeOnly then ts.tail else ts) = .ok (bs, f :: rest))
    (hf : f.word = .name "from".toList) :
    importClause size d start ts = .ok ((bs, typeOnly), rest) := by
  have hfrom : expectText size "from" (f :: rest) = .ok (f, rest) :=
    expectText_of_text rest (congrArg Word.text hf) (by
      rw [← Token.kind_word, hf]
      simp [Word.name])
  rw [importClause, if_neg hk]
  simp only [htype, hclause, bind, Except.bind, hfrom, pure, Except.pure]

/-- Without a mark, the word `type` is a binding. -/
theorem not_isTypeModifier_of_core {t f : Token} {cs rest : List Token} {bs : List Binding}
    (h : Core d ((t :: cs).map Token.word) bs) (ht : t.word = .name "type".toList)
    (hf : f.word = .name "from".toList) (hrest : (Token.peek size rest 0).kind = .string) :
    isTypeModifier size (cs ++ f :: rest) = false := by
  have hrf : (Token.peek size rest 0).isName "from" = false := by simp [Token.isName, hrest]
  have hft : f.text = "from".toList := congrArg Word.text hf
  obtain ⟨w, ws, hws, hw⟩ := core_head h
  obtain ⟨rfl, rfl⟩ : t.word = w ∧ cs.map Token.word = ws := by simpa using hws
  rcases hw with ⟨-, hnil | hcomma⟩ | hw | hw
  · obtain rfl := List.map_eq_nil_iff.1 hnil
    simp [isTypeModifier, Token.is, hft, Token.isName_iff.2 hf, hrf]
  · cases cs with
    | nil => simp at hcomma
    | cons c cs =>
      have hc : c.word = .punct ',' := by simpa using hcomma
      have hct : c.text = [','] := congrArg Word.text hc
      have hck : c.kind = .punct := congrArg Word.kind hc
      simp [isTypeModifier, Token.is, hct, Token.isName, hck]
  all_goals
    rw [ht] at hw
    cases hw

/-- A clause is read up to the module string. -/
theorem importClause_of_clause {start : Nat} {cs rest : List Token} {bs : List Binding}
    {typeOnly : Bool} (hcs : ∀ t ∈ cs, t.word.Whole)
    (h : Clause d (cs.map Token.word) bs typeOnly)
    (hrest : (Token.peek size rest 0).kind = .string) :
    importClause size d start (cs ++ rest) = .ok ((bs, typeOnly), rest) := by
  generalize hws : cs.map Token.word = ws at h
  cases h with
  | nothing =>
    obtain rfl := List.map_eq_nil_iff.1 hws
    simp [importClause, hrest]
  | @plain ws bs hcore =>
    obtain ⟨cs, fs, rfl, rfl, hfs⟩ := List.map_eq_append_iff.1 hws
    obtain ⟨f, rfl, hf⟩ : ∃ f, fs = [f] ∧ f.word = .name "from".toList := by simpa using hfs
    have hclause : clause size d start (cs ++ f :: rest) = .ok (bs, f :: rest) :=
      clause_of_core (fun u hu => hcs u (by simp [hu])) hcore hf
    -- The first word of the bindings decides what the reader does; it is no string, and no mark.
    obtain ⟨w, ws, hw, hhead⟩ := core_head hcore
    obtain ⟨t, cs, rfl, rfl, rfl⟩ := List.map_eq_cons_iff.1 hw
    refine importClause_of_clause_from ?_ ?_ (by simpa using hclause) hf
    · rcases hhead with ⟨hw, -⟩ | hw | hw <;> simp [← Token.kind_word, congrArg Word.kind hw]
    · simp only [Bool.and_eq_false_iff]
      by_cases ht : t.word = .name "type".toList
      · right
        simpa using not_isTypeModifier_of_core hcore ht hf hrest
      · exact .inl (.inr (by simpa [← Bool.not_eq_true, Token.isName_iff] using ht))
  | @typed ws bs hd hcore hfrom =>
    obtain ⟨t, cs, rfl, ht, hws⟩ := List.map_eq_cons_iff.1 hws
    obtain ⟨cs, fs, rfl, rfl, hfs⟩ := List.map_eq_append_iff.1 hws
    obtain ⟨f, rfl, hf⟩ : ∃ f, fs = [f] ∧ f.word = .name "from".toList := by simpa using hfs
    have hclause : clause size d start (cs ++ f :: rest) = .ok (bs, f :: rest) :=
      clause_of_core (fun u hu => hcs u (by simp [hu])) hcore hf
    refine importClause_of_clause_from (by simp [← Token.kind_word, ht, Word.name]) ?_
      (by simpa using hclause) hf
    have hmod : isTypeModifier size (cs ++ f :: rest) = true :=
      (isTypeModifier_iff_of_core hcore hf).2 (by simpa using hfrom)
    simpa [hd, Token.isName_iff.2 ht] using hmod

theorem starOrList_of_stuck {o : Token} {its rest : List Token}
    (hits : ∀ t ∈ its, t.word.Whole) (ho : o.word = .punct '\x7b')
    (h : Stuck d (its.map Token.word)) :
    ∃ e, starOrList size d (o :: (its ++ rest)) = .error e := by
  have htext : o.text = ['\x7b'] := congrArg Word.text ho
  have hopen : expectText size "\x7b" (o :: (its ++ rest)) = .ok (o, its ++ rest) :=
    expectText_of_text _ htext (by simp [← Token.kind_word, ho])
  obtain ⟨e, he⟩ := @namedItems_of_stuck size d its rest hits h
  exact ⟨e, by simp [starOrList, Token.is, htext, namedList, hopen, he, bind, Except.bind]⟩

theorem clause_of_stuck_list {start : Nat} {o : Token} {its rest : List Token}
    (hits : ∀ t ∈ its, t.word.Whole) (ho : o.word = .punct '\x7b')
    (h : Stuck d (its.map Token.word)) :
    ∃ e, clause size d start (o :: (its ++ rest)) = .error e := by
  have htext : o.text = ['\x7b'] := congrArg Word.text ho
  have hkind : o.kind = .punct := congrArg Word.kind ho
  obtain ⟨e, he⟩ := @starOrList_of_stuck size d o its rest hits ho h
  exact ⟨e, by simp [clause, hkind, opensClause, Token.is, htext, he]⟩

theorem clause_of_stuck_both {start : Nat} {t c o : Token} {n : Text} {its rest : List Token}
    (hits : ∀ u ∈ its, u.word.Whole) (ht : t.word = .name n) (hc : c.word = .punct ',')
    (ho : o.word = .punct '\x7b') (h : Stuck d (its.map Token.word)) :
    ∃ e, clause size d start (t :: c :: o :: (its ++ rest)) = .error e := by
  have htk : t.kind = .name := congrArg Word.kind ht
  have hck : c.kind = .punct := congrArg Word.kind hc
  have hct : c.text = [','] := congrArg Word.text hc
  have hot : o.text = ['\x7b'] := congrArg Word.text ho
  obtain ⟨e, he⟩ := @starOrList_of_stuck size d o its rest hits ho h
  refine ⟨e, ?_⟩
  simp [clause, htk, hck, Token.is, hct, afterDefault, opensClause, hot, he, bind, Except.bind]

/-- A clause with such a list cannot be read. -/
theorem importClause_of_stuck {start : Nat} {cs rest : List Token}
    (hcs : ∀ t ∈ cs, t.word.Whole) (h : StuckClause d (cs.map Token.word)) :
    ∃ e, importClause size d start (cs ++ rest) = .error e := by
  -- The list fails to be read, so that it is enough that the reader gets there.
  generalize hws : cs.map Token.word = ws at h
  cases h with
  | @list ws hs =>
    obtain ⟨o, its, rfl, ho, rfl⟩ := List.map_eq_cons_iff.1 hws
    have hkind : o.kind = .punct := congrArg Word.kind ho
    obtain ⟨e, he⟩ := @clause_of_stuck_list size d start o its rest
      (fun t ht => hcs t (by simp [ht])) ho hs
    exact ⟨e, by simp [importClause, hkind, Token.isName, he, bind, Except.bind]⟩
  | @both n ws hs =>
    simp only [List.map_eq_cons_iff] at hws
    obtain ⟨t, _, rfl, ht, c, _, rfl, hc, o, its, rfl, ho, rfl⟩ := hws
    have htk : t.kind = .name := congrArg Word.kind ht
    have hck : c.kind = .punct := congrArg Word.kind hc
    have hct : c.text = [','] := congrArg Word.text hc
    obtain ⟨e, he⟩ := @clause_of_stuck_both size d start t c o n its rest
      (fun t ht => hcs t (by simp [ht])) ht hc ho hs
    have hmod : isTypeModifier size (c :: o :: (its ++ rest)) = false := by
      simp [isTypeModifier, Token.is, hct, Token.isName, hck]
    exact ⟨e, by simp [importClause, htk, hmod, he, bind, Except.bind]⟩
  | @typedList ws hd hs =>
    simp only [List.map_eq_cons_iff] at hws
    obtain ⟨t, _, rfl, ht, o, its, rfl, ho, rfl⟩ := hws
    have htk : t.kind = .name := congrArg Word.kind ht
    have hot : o.text = ['\x7b'] := congrArg Word.text ho
    obtain ⟨e, he⟩ := @clause_of_stuck_list size d start o its rest
      (fun t ht => hcs t (by simp [ht])) ho hs
    have hmod : isTypeModifier size (o :: (its ++ rest)) = true := by
      simp [isTypeModifier, Token.is, hot]
    refine ⟨e, ?_⟩
    simp [importClause, htk, hd, Token.isName_iff.2 ht, hmod, he, bind, Except.bind]
  | @typedBoth n ws hd hn hs =>
    simp only [List.map_eq_cons_iff] at hws
    obtain ⟨t, _, rfl, ht, u, _, rfl, hu, c, _, rfl, hc, o, its, rfl, ho, rfl⟩ := hws
    have htk : t.kind = .name := congrArg Word.kind ht
    have huk : u.kind = .name := congrArg Word.kind hu
    have hfrom : u.isName "from" = false := by
      rw [← Bool.not_eq_true, Token.isName_iff, hu]
      intro heq
      exact hn (congrArg Word.text heq)
    obtain ⟨e, he⟩ := @clause_of_stuck_both size d start u c o n its rest
      (fun t ht => hcs t (by simp [ht])) hu hc ho hs
    have hmod : isTypeModifier size (u :: c :: o :: (its ++ rest)) = true := by
      simp [isTypeModifier, hfrom, huk]
    refine ⟨e, ?_⟩
    simp [importClause, htk, hd, Token.isName_iff.2 ht, hmod, he, bind, Except.bind]

end Parser

end ImportOrder
