import ImportOrder.FileTree
import ImportOrder.Source.Head

/-!
# Paths and the places that they lead to

A path without empty components, single dots and slashes inside of components is the path that its
text describes. From a directory whose own place has no double dots, a path leads to the place that
its components alone give.

## Main definitions

* `Path.IsNormal`: no component is empty, a single dot or has a slash
* `IsDataName`: the names of files that hold data

## Main results

* `Path.ofString_toString`: a normal path is what its text describes
* `Workspace.resolve_of_locate`: walking a path gives the place of its components
* `Dialect.ofPath?_eq_none`: a file that holds data is no source file
-/

namespace ImportOrder

/-! ## Texts cut at a separator -/

namespace Text

variable {sep : Char} {t u : Text}

theorem splitAt_of_notMem (h : sep ∉ t) : splitAt sep t = [t] := by
  induction t with
  | nil => rfl
  | cons c t ih =>
    have hc := List.ne_of_not_mem_cons h
    have ht := List.not_mem_of_not_mem_cons h
    rw [splitAt, if_neg (Ne.symm hc), ih ht]

theorem splitAt_ne_nil (sep : Char) (t : Text) : splitAt sep t ≠ [] := by
  cases t with
  | nil => exact List.cons_ne_nil _ _
  | cons c t =>
    rw [splitAt]
    split
    · exact List.cons_ne_nil _ _
    · split <;> exact List.cons_ne_nil _ _

theorem splitAt_append (sep : Char) (t u : Text) :
    splitAt sep (t ++ sep :: u) = splitAt sep t ++ splitAt sep u := by
  induction t with
  | nil =>
    show splitAt sep (sep :: u) = [] :: splitAt sep u
    rw [splitAt, if_pos rfl]
  | cons c t ih =>
    obtain ⟨part, parts, hparts⟩ := List.exists_cons_of_ne_nil (splitAt_ne_nil sep t)
    rw [List.cons_append, splitAt, splitAt, ih, hparts]
    split <;> rfl

/-- No part has the separator. -/
theorem notMem_of_mem_splitAt {part : Text} (h : part ∈ splitAt sep t) : sep ∉ part := by
  induction t generalizing part with
  | nil =>
    rw [List.mem_singleton.1 h]
    exact List.not_mem_nil
  | cons c t ih =>
    rw [splitAt] at h
    split at h
    · rcases List.mem_cons.1 h with rfl | h
      · exact List.not_mem_nil
      · exact ih h
    · rename_i hc
      split at h
      · rename_i hnil
        exact absurd hnil (splitAt_ne_nil sep t)
      · rename_i first parts hparts
        rw [hparts] at ih
        rcases List.mem_cons.1 h with rfl | h
        · exact List.not_mem_cons_of_ne_of_not_mem (Ne.symm hc) (ih List.mem_cons_self)
        · exact ih (List.mem_cons_of_mem first h)

/-- Joined parts come apart again. -/
theorem splitAt_join {parts : List Text} (hne : parts ≠ []) (h : ∀ part ∈ parts, sep ∉ part) :
    splitAt sep (join [sep] parts) = parts := by
  induction parts with
  | nil => exact absurd rfl hne
  | cons part parts ih =>
    have hpart := h part List.mem_cons_self
    cases parts with
    | nil => rw [join_singleton, splitAt_of_notMem hpart]
    | cons next rest =>
      have hrest := ih (List.cons_ne_nil _ _) fun p hp => h p (List.mem_cons_of_mem part hp)
      rw [join_cons_cons, List.append_assoc, List.singleton_append, splitAt_append,
        splitAt_of_notMem hpart, hrest, List.singleton_append]

end Text

/-! ## Normal paths -/

namespace Path

/-- **A normal path**: no component is empty, a single dot or has a slash. -/
def IsNormal (p : Path) : Prop := ∀ c ∈ p.parts, c ≠ "" ∧ c ≠ "." ∧ '/' ∉ c.toList

theorem mem_components {s c : String} (h : c ∈ components s) :
    c ≠ "" ∧ c ≠ "." ∧ '/' ∉ c.toList := by
  obtain ⟨hmem, hc⟩ := List.mem_filter.1 h
  obtain ⟨part, hpart, rfl⟩ := List.mem_map.1 hmem
  obtain ⟨hempty, hdot⟩ := of_decide_eq_true hc
  refine ⟨hempty, hdot, ?_⟩
  rw [String.toList_ofList]
  exact Text.notMem_of_mem_splitAt hpart

theorem isNormal_ofString (s : String) : (ofString s).IsNormal := fun _ hc => mem_components hc

theorem toList_intercalate (parts : List String) :
    (String.intercalate "/" parts).toList = Text.join ['/'] (parts.map String.toList) := by
  rw [String.toList_intercalate]
  rfl

/-- The components of a text that starts with a slash. -/
theorem components_slash (s : String) : components ("/" ++ s) = components s := by
  have hlist : ("/" ++ s).toList = '/' :: s.toList := by simp
  simp only [components, hlist, Text.splitAt, if_true, List.map_cons]
  rfl

theorem components_intercalate {parts : List String}
    (h : ∀ c ∈ parts, c ≠ "" ∧ c ≠ "." ∧ '/' ∉ c.toList) :
    components (String.intercalate "/" parts) = parts := by
  have hkept : parts.filter (fun p => decide (p ≠ "" ∧ p ≠ ".")) = parts := by
    rw [List.filter_eq_self]
    intro c hc
    exact decide_eq_true ⟨(h c hc).1, (h c hc).2.1⟩
  by_cases hparts : parts = []
  · subst hparts
    rfl
  · have hsplit : Text.splitAt '/' (Text.join ['/'] (parts.map String.toList)) =
        parts.map String.toList := by
      apply Text.splitAt_join
      · exact fun hnil => hparts (List.map_eq_nil_iff.1 hnil)
      · intro part hpart
        obtain ⟨c, hc, rfl⟩ := List.mem_map.1 hpart
        exact (h c hc).2.2
    rw [components, toList_intercalate, hsplit, List.map_map]
    simpa using hkept

theorem toList_intercalate_concat (dir : List String) (name : String) :
    ∃ u, ("/" ++ String.intercalate "/" (dir ++ [name])).toList = u ++ '/' :: name.toList := by
  have hshift : ∀ parts : List Text,
      '/' :: parts.flatMap (· ++ ['/']) = parts.flatMap ('/' :: ·) ++ ['/'] := by
    intro parts
    induction parts with
    | nil => rfl
    | cons part parts ih =>
      rw [List.flatMap_cons, List.flatMap_cons, List.append_assoc, List.append_assoc, ← ih]
      rfl
  refine ⟨(dir.map String.toList).flatMap ('/' :: ·), ?_⟩
  rw [String.toList_append, toList_intercalate, List.map_append, List.map_singleton,
    Text.join_concat]
  show '/' :: (dir.map String.toList).flatMap (· ++ ['/']) ++ name.toList = _
  rw [hshift, List.append_assoc]
  rfl

/-- The name of an absolute path is read from its text. -/
theorem getLast?_ofString_absolute {dir : List String} {name : String} (hempty : name ≠ "")
    (hdot : name ≠ ".") (hslash : '/' ∉ name.toList) :
    (ofString (ofAbsolute (dir ++ [name])).toString).parts.getLast? = some name := by
  obtain ⟨u, hu⟩ := toList_intercalate_concat dir name
  have htext : (ofAbsolute (dir ++ [name])).toString =
      "/" ++ String.intercalate "/" (dir ++ [name]) := rfl
  show (components _).getLast? = _
  rw [htext, components, hu, Text.splitAt_append, Text.splitAt_of_notMem hslash, List.map_append,
    List.filter_append]
  simp [hempty, hdot]

/-- The text of a relative path does not start with a slash. -/
theorem head?_intercalate_ne {parts : List String}
    (h : ∀ c ∈ parts, c ≠ "" ∧ c ≠ "." ∧ '/' ∉ c.toList) :
    (String.intercalate "/" parts).toList.head? ≠ some '/' := by
  rw [toList_intercalate]
  cases parts with
  | nil => simp
  | cons c parts =>
    obtain ⟨hempty, -, hslash⟩ := h c List.mem_cons_self
    obtain ⟨x, xs, hc⟩ := List.exists_cons_of_ne_nil (mt String.toList_eq_nil_iff.1 hempty)
    rw [hc] at hslash
    have hx := List.ne_of_not_mem_cons hslash
    cases parts with
    | nil => simpa [hc] using Ne.symm hx
    | cons next parts =>
      rw [List.map_cons, List.map_cons, Text.join_cons_cons, hc]
      simpa using Ne.symm hx

/-- **A normal path is what its text describes.** -/
theorem ofString_toString {p : Path} (h : p.IsNormal) : ofString p.toString = p := by
  obtain ⟨absolute, parts⟩ := p
  have hparts : components (String.intercalate "/" parts) = parts := components_intercalate h
  cases absolute with
  | true =>
    show Path.mk _ _ = _
    have htext : toString ⟨true, parts⟩ = "/" ++ String.intercalate "/" parts := rfl
    rw [htext, components_slash, hparts]
    simp
  | false =>
    cases parts with
    | nil => rfl
    | cons c parts =>
      have htext : toString ⟨false, c :: parts⟩ = String.intercalate "/" (c :: parts) := rfl
      rw [ofString, htext, hparts, decide_eq_false (head?_intercalate_ne h)]

end Path

/-! ## Walking -/

namespace Path

/-- One component of a walk; the components of the place so far are in reverse. -/
def step (acc : List String) (c : String) : List String := if c = ".." then acc.tail else c :: acc

theorem collapse_eq (parts : List String) : collapse parts = (parts.foldl step []).reverse := rfl

theorem foldl_step_of_notMem {parts acc : List String} (h : ".." ∉ parts) :
    parts.foldl step acc = parts.reverse ++ acc := by
  induction parts generalizing acc with
  | nil => rfl
  | cons c parts ih =>
    have hc := List.ne_of_not_mem_cons h
    have hparts := List.not_mem_of_not_mem_cons h
    rw [List.foldl_cons, step, if_neg (Ne.symm hc), ih hparts]
    simp

theorem getLast?_foldl_step {parts acc : List String} {c : String} (hlast : parts.getLast? = some c)
    (hc : c ≠ "..") : (parts.foldl step acc).reverse.getLast? = some c := by
  obtain ⟨init, rfl⟩ := List.getLast?_eq_some_iff.1 hlast
  rw [List.foldl_append, List.foldl_cons, List.foldl_nil, step, if_neg hc]
  simp

/-- The place of a path has its name. -/
theorem getLast?_resolve {current : List String} {p : Path} {c : String}
    (hlast : p.parts.getLast? = some c) (hc : c ≠ "..") :
    (p.resolve current).getLast? = some c := by
  rw [resolve, collapse_eq]
  apply getLast?_foldl_step _ hc
  split
  · exact hlast
  · rw [List.getLast?_append, hlast]
    rfl

end Path

namespace Workspace

variable {w : Workspace} {p : Path} {place : Place}

theorem eq_of_walk {t : FileTree} {here : Place} {parts : List String}
    (h : walk t here parts = .ok place) :
    place = (parts.foldl Path.step here.reverse).reverse := by
  induction parts generalizing here with
  | nil =>
    obtain rfl := Except.ok.inj h
    simp
  | cons c parts ih =>
    rw [walk] at h
    split at h
    · cases h
    · cases h
    · rw [ih h, List.foldl_cons, Path.step]
      split <;> simp

/-- **Walking a path** gives the place of its components. -/
theorem resolve_of_locate (hcurrent : ".." ∉ w.current) (h : w.locate p = .ok place) :
    w.resolve p = place := by
  rw [eq_of_walk h, resolve, Path.resolve, Path.collapse_eq]
  split
  · rfl
  · rw [List.foldl_append, Path.foldl_step_of_notMem hcurrent, List.append_nil]

/-- A path leads to a place with its name. -/
theorem getLast?_of_locate {c : String} (h : w.locate p = .ok place)
    (hlast : p.parts.getLast? = some c) (hc : c ≠ "..") : place.getLast? = some c := by
  rw [eq_of_walk h]
  exact Path.getLast?_foldl_step hlast hc

end Workspace

/-! ## Files that hold data -/

/-- The endings of the names of files that hold data. -/
def dataEndings : List String := [".json", ".eslintrc", ".yaml", ".yml"]

/-- **The name of a file that holds data.** -/
def IsDataName (name : String) : Prop := ∃ e ∈ dataEndings, e.toList <:+ name.toList

instance (name : String) : Decidable (IsDataName name) :=
  inferInstanceAs (Decidable (∃ e ∈ dataEndings, e.toList <:+ name.toList))

theorem suffixOfName_of_suffix {name : String} {ending : Text} (hdot : '.' ∉ ending)
    (h : '.' :: ending <:+ name.toList) :
    Path.suffixOfName name = "" ∨ Path.suffixOfName name = String.ofList ('.' :: ending) := by
  obtain ⟨stem, hname⟩ := h
  have hreverse : name.toList.reverse = ending.reverse ++ '.' :: stem.reverse := by
    rw [← hname]
    simp
  have hending : name.toList.reverse.takeWhile (· ≠ '.') = ending.reverse := by
    rw [hreverse, List.takeWhile_append_of_pos]
    · simp
    · intro c hc
      exact decide_eq_true fun hcd => hdot (hcd ▸ List.mem_reverse.1 hc)
  unfold Path.suffixOfName
  dsimp only
  split
  · rw [hending, List.reverse_reverse]
    exact .inr rfl
  · exact .inl rfl

/-- **A file that holds data is no source file.** -/
theorem Dialect.ofPath?_eq_none {p : Path} {name : String} (hlast : p.parts.getLast? = some name)
    (h : IsDataName name) : ofPath? p = none := by
  have hnone : ofEnding? "" = none := by decide
  have hname : p.suffix = Path.suffixOfName name := by rw [Path.suffix, Path.name, hlast]; rfl
  obtain ⟨e, he, hsuffix⟩ := h
  rw [ofPath?, hname]
  have hending : ∃ ending, '.' ∉ ending ∧ e.toList = '.' :: ending ∧
      ofEnding? (String.ofList ('.' :: ending)) = none := by
    simp only [dataEndings, List.mem_cons, List.not_mem_nil, or_false] at he
    rcases he with rfl | rfl | rfl | rfl
    · exact ⟨"json".toList, by decide, rfl, by decide⟩
    · exact ⟨"eslintrc".toList, by decide, rfl, by decide⟩
    · exact ⟨"yaml".toList, by decide, rfl, by decide⟩
    · exact ⟨"yml".toList, by decide, rfl, by decide⟩
  obtain ⟨ending, hdot, hlist, hforeign⟩ := hending
  rw [hlist] at hsuffix
  rcases suffixOfName_of_suffix hdot hsuffix with hempty | hended
  · rw [hempty, hnone]
  · rw [hended, hforeign]

/-- A source file has a name, which is not that of a file that holds data. -/
theorem Dialect.exists_name {p : Path} {d : Dialect} (h : ofPath? p = some d) :
    ∃ name, p.parts.getLast? = some name ∧ name ≠ ".." ∧ ¬IsDataName name := by
  cases hlast : p.parts.getLast? with
  | none =>
    have hnone : ofEnding? (Path.suffixOfName "") = none := by decide
    rw [ofPath?, Path.suffix, Path.name, hlast] at h
    cases hnone.symm.trans h
  | some name =>
    refine ⟨name, rfl, ?_, ?_⟩
    · rintro rfl
      have hnone : ofEnding? (Path.suffixOfName "..") = none := by decide
      rw [ofPath?, Path.suffix, Path.name, hlast] at h
      cases hnone.symm.trans h
    · intro hdata
      cases (ofPath?_eq_none hlast hdata).symm.trans h

end ImportOrder
