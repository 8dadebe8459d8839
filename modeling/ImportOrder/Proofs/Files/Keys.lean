import ImportOrder.DataFile
import ImportOrder.Proofs.Files.DataText
import ImportOrder.Proofs.Results

/-!
# The names of maps

The keys of a map that are texts are its names. Setting a key changes the value of one name, and the
maps of data files are built by setting one key after another. So each name stands once in a map
that is read, and what it stands for does not depend on where it is looked for.

## Main definitions

* `Data.valueOf?`: the value of a name
* `Data.names`: the names of a map, in order
* `Data.WellFormed`: data with each name once in each of its maps

## Main results

* `Data.valueOf?_insertKey`, `Data.valueOf?_updateKeys`: what setting keys changes
* `Json5.wellFormed_parse`, `Yaml.wellFormed_parse`: the readers give such data
* `Workspace.wellFormed_readData`: data of files
-/

namespace ImportOrder

namespace Scalar

/-- The name that a key is. -/
def name? : Scalar → Option WideText
  | str name => some name
  | null | bool _ | int _ | float _ | bytes _ | moment _ => none

theorem name?_eq_some_iff {k : Scalar} {name : WideText} : k.name? = some name ↔ k = .str name := by
  cases k <;> simp [name?]

/-- Only a text is the same key as a text. -/
theorem sameKey_str (k : Scalar) (name : WideText) :
    k.sameKey (.str name) = decide (k.name? = some name) := by
  cases k <;> simp [sameKey, toInt?, name?, beq_eq_decide]

theorem str_sameKey (name : WideText) (k : Scalar) :
    (str name).sameKey k = decide (k.name? = some name) := by
  cases k <;> simp [sameKey, toInt?, name?, beq_eq_decide, eq_comm]

end Scalar

namespace Data

variable {entries base new : List (Scalar × Data)} {name : WideText}

/-- **The value of a name** among entries. -/
def valueOf? (entries : List (Scalar × Data)) (name : WideText) : Option Data :=
  (entries.find? (·.1.sameKey (.str name))).map (·.2)

theorem lookup?_eq (entries : List (Scalar × Data)) (key : String) :
    lookup? entries key = valueOf? entries (.ofString key) := rfl

/-- **The names of a map**, in order. -/
def names (entries : List (Scalar × Data)) : List WideText := entries.filterMap (·.1.name?)

@[simp] theorem valueOf?_nil (name : WideText) : valueOf? [] name = none := rfl

theorem valueOf?_cons (e : Scalar × Data) (entries : List (Scalar × Data)) (name : WideText) :
    valueOf? (e :: entries) name =
      if e.1.name? = some name then some e.2 else valueOf? entries name := by
  rw [valueOf?, List.find?_cons, Scalar.sameKey_str]
  by_cases h : e.1.name? = some name <;> simp [h, valueOf?]

theorem valueOf?_append (as bs : List (Scalar × Data)) (name : WideText) :
    valueOf? (as ++ bs) name = (valueOf? as name).or (valueOf? bs name) := by
  simp [valueOf?, List.find?_append, Option.map_or]

/-- A name has no value exactly if it is no name of the map. -/
theorem valueOf?_eq_none_iff : valueOf? entries name = none ↔ name ∉ names entries := by
  induction entries with
  | nil => simp [names]
  | cons e entries ih =>
    rw [valueOf?_cons]
    by_cases h : e.1.name? = some name
    · simp [names, h]
    · simpa [names, h] using ih

/-- The value of a name stands in the map. -/
theorem mem_of_valueOf? {value : Data} (h : valueOf? entries name = some value) :
    (.str name, value) ∈ entries := by
  induction entries with
  | nil => simp at h
  | cons e entries ih =>
    rw [valueOf?_cons] at h
    split at h
    · rename_i hname
      obtain ⟨key, v⟩ := e
      obtain rfl := Scalar.name?_eq_some_iff.1 hname
      obtain rfl := Option.some.inj h
      simp
    · exact List.mem_cons_of_mem e (ih h)

/-! ## Setting keys -/

theorem names_map (key : Scalar) (value : Data) (entries : List (Scalar × Data)) :
    names (entries.map fun e => if e.1.sameKey key then (e.1, value) else e) = names entries := by
  rw [names, List.filterMap_map, names]
  congr 1
  funext e
  by_cases h : e.1.sameKey key = true <;> simp [h]

theorem any_sameKey_iff : entries.any (·.1.sameKey (.str name)) = true ↔ name ∈ names entries := by
  simp [names, Scalar.sameKey_str]

/-- The names after a key is set: a new one comes last. -/
theorem names_insertKey (entries : List (Scalar × Data)) (key : Scalar) (value : Data) :
    names (insertKey entries key value) = names entries ∨
      ∃ name, key = .str name ∧ name ∉ names entries ∧
        names (insertKey entries key value) = names entries ++ [name] := by
  unfold insertKey
  split
  · exact .inl (names_map key value entries)
  · rename_i hany
    cases hkey : key.name? with
    | none =>
      refine .inl ?_
      simp [names, hkey]
    | some name =>
      refine .inr ⟨name, Scalar.name?_eq_some_iff.1 hkey, ?_, by simp [names, hkey]⟩
      obtain rfl := Scalar.name?_eq_some_iff.1 hkey
      exact fun hmem => hany (any_sameKey_iff.2 hmem)

theorem nodup_insertKey (h : (names entries).Nodup) (key : Scalar) (value : Data) :
    (names (insertKey entries key value)).Nodup := by
  rcases names_insertKey entries key value with hsame | ⟨name, -, hnew, hlast⟩
  · rwa [hsame]
  · rw [hlast, List.nodup_append]
    refine ⟨h, by simp, ?_⟩
    rintro a ha b hb rfl
    exact hnew (List.mem_singleton.1 hb ▸ ha)

theorem nodup_updateKeys (h : (names base).Nodup) (new : List (Scalar × Data)) :
    (names (updateKeys base new)).Nodup := by
  unfold updateKeys
  induction new generalizing base with
  | nil => exact h
  | cons e new ih => exact ih (nodup_insertKey h e.1 e.2)

/-- Replacing the values of one key. -/
theorem valueOf?_map (key : Scalar) (value : Data) (entries : List (Scalar × Data)) :
    valueOf? (entries.map fun e => if e.1.sameKey key then (e.1, value) else e) name =
      if key.name? = some name then (valueOf? entries name).map fun _ => value
      else valueOf? entries name := by
  induction entries with
  | nil => simp
  | cons e entries ih =>
    obtain ⟨k, v⟩ := e
    rw [List.map_cons, valueOf?_cons, valueOf?_cons, ih]
    by_cases hk : k.name? = some name
    · obtain rfl := Scalar.name?_eq_some_iff.1 hk
      by_cases hkey : key.name? = some name <;> simp [hk, hkey, Scalar.str_sameKey]
    · by_cases hsame : k.sameKey key = true <;> simp [hk, hsame]

/-- **Setting a key** changes the value of the name that it is. -/
theorem valueOf?_insertKey (entries : List (Scalar × Data)) (key : Scalar) (value : Data)
    (name : WideText) : valueOf? (insertKey entries key value) name =
      if key.name? = some name then some value else valueOf? entries name := by
  unfold insertKey
  split
  · rename_i hany
    rw [valueOf?_map]
    split
    · rename_i hkey
      obtain rfl := Scalar.name?_eq_some_iff.1 hkey
      obtain ⟨v, hv⟩ : ∃ v, valueOf? entries name = some v := by
        rw [← Option.isSome_iff_exists, Option.isSome_iff_ne_none, ne_eq, valueOf?_eq_none_iff,
          not_not]
        exact any_sameKey_iff.1 hany
      simp [hv]
    · rfl
  · rename_i hany
    rw [valueOf?_append, valueOf?_cons]
    split
    · rename_i hkey
      obtain rfl := Scalar.name?_eq_some_iff.1 hkey
      have hnone : valueOf? entries name = none :=
        valueOf?_eq_none_iff.2 fun hmem => hany (any_sameKey_iff.2 hmem)
      simp [hnone]
    · simp

/-- **Setting the keys of a map** in another one: its names get its values, and others keep
theirs. -/
theorem valueOf?_updateKeys (hnew : (names new).Nodup) (base : List (Scalar × Data))
    (name : WideText) :
    valueOf? (updateKeys base new) name = (valueOf? new name).or (valueOf? base name) := by
  unfold updateKeys
  induction new generalizing base with
  | nil => rfl
  | cons e new ih =>
    have hrest : (names new).Nodup :=
      List.Nodup.sublist (List.Sublist.filterMap _ (List.sublist_cons_self _ _)) hnew
    rw [List.foldl_cons, ih hrest, valueOf?_insertKey, valueOf?_cons]
    split
    · rename_i hname
      have hnone : valueOf? new name = none := by
        rw [valueOf?_eq_none_iff]
        simp only [names, List.filterMap_cons, hname, List.nodup_cons] at hnew
        exact hnew.1
      simp [hnone]
    · rfl

/-! ## Well-formed data -/

/-- **Well-formed data**: each name stands once in each of its maps. -/
inductive WellFormed : Data → Prop
  | scalar (s : Scalar) : WellFormed (.scalar s)
  | list {items : List Data} (h : ∀ d ∈ items, WellFormed d) : WellFormed (.list items)
  | map {entries : List (Scalar × Data)} (hnames : (names entries).Nodup)
      (h : ∀ e ∈ entries, WellFormed e.2) : WellFormed (.map entries)
  | set (members : List Scalar) : WellFormed (.set members)
  | pair {first second : Data} (hfirst : WellFormed first) (hsecond : WellFormed second) :
      WellFormed (.pair first second)

theorem WellFormed.names_nodup (h : WellFormed (.map entries)) : (names entries).Nodup := by
  cases h with
  | map hnames _ => exact hnames

theorem WellFormed.valueOf? {value : Data} (h : WellFormed (.map entries))
    (hvalue : valueOf? entries name = some value) : value.WellFormed := by
  cases h with
  | map _ hall => exact hall _ (mem_of_valueOf? hvalue)

theorem wellFormed_insertKey {key : Scalar} {value : Data} (h : WellFormed (.map entries))
    (hvalue : value.WellFormed) : WellFormed (.map (insertKey entries key value)) := by
  refine .map (nodup_insertKey h.names_nodup key value) ?_
  cases h with
  | map _ hall =>
    intro e he
    unfold insertKey at he
    split at he
    · obtain ⟨e', he', rfl⟩ := List.mem_map.1 he
      split
      · exact hvalue
      · exact hall e' he'
    · rcases List.mem_append.1 he with he | he
      · exact hall e he
      · obtain rfl := List.mem_singleton.1 he
        exact hvalue

theorem wellFormed_updateKeys (hbase : WellFormed (.map base))
    (hnew : ∀ e ∈ new, e.2.WellFormed) : WellFormed (.map (updateKeys base new)) := by
  unfold updateKeys
  induction new generalizing base with
  | nil => exact hbase
  | cons e new ih =>
    exact ih (wellFormed_insertKey hbase (hnew e (by simp))) fun e' he' => hnew e' (by simp [he'])

theorem wellFormed_empty : WellFormed (.map []) := .map (by simp [names]) (by simp)

/-- The entries of a map in well-formed data. -/
theorem WellFormed.field? {d value : Data} (h : d.WellFormed) {key : String}
    (hvalue : d.field? key = some value) : value.WellFormed := by
  obtain ⟨entries, hentries, hvalue⟩ := Option.bind_eq_some_iff.1 hvalue
  cases d <;> simp only [entries?, reduceCtorEq, Option.some.injEq] at hentries
  subst hentries
  exact h.valueOf? hvalue

end Data

/-! ## Data that is read -/

namespace Json5

/-- **What the readers give with some fuel is well-formed**, if the entries so far are. -/
structure ReadsWellFormed (fuel : Nat) : Prop where
  ofValue {room : Nat} {t rest : Text} {d : Data} (h : value fuel room t = .ok (d, rest)) :
    d.WellFormed
  ofElements {room : Nat} {t rest : Text} {ds : List Data}
    (h : elements fuel room t = .ok (ds, rest)) : ∀ d ∈ ds, d.WellFormed
  ofMembers {room : Nat} {t rest : Text} {seen es : List (Scalar × Data)}
    (hseen : Data.WellFormed (.map seen)) (h : members fuel room t seen = .ok (es, rest)) :
    Data.WellFormed (.map es)

section

variable {fuel room : Nat} {t rest : Text}

/-- A value is a map, a list or no collection. -/
theorem ReadsWellFormed.ofValue_succ (hread : ReadsWellFormed fuel) {d : Data}
    (h : value (fuel + 1) room t = .ok (d, rest)) : d.WellFormed := by
  rw [value.eq_def] at h
  simp only at h
  split at h
  · split at h
    · cases h
    · obtain ⟨⟨es, rest'⟩, hes, hret⟩ := Except.exists_of_map_eq_ok h
      obtain ⟨rfl, rfl⟩ := Prod.mk.inj hret
      exact hread.ofMembers Data.wellFormed_empty hes
  · split at h
    · cases h
    · obtain ⟨⟨ds, rest'⟩, hds, hret⟩ := Except.exists_of_map_eq_ok h
      obtain ⟨rfl, rfl⟩ := Prod.mk.inj hret
      exact .list (hread.ofElements hds)
  · unfold orMalformed at h
    split at h
    · rename_i x hsingle
      obtain rfl := Except.ok.inj h
      obtain ⟨s, rfl⟩ := exists_scalar_of_single hsingle
      exact .scalar s
    · cases h

/-- A list ends, or goes on with an item. -/
theorem ReadsWellFormed.ofElements_succ (hread : ReadsWellFormed fuel) {ds : List Data}
    (h : elements (fuel + 1) room t = .ok (ds, rest)) : ∀ d ∈ ds, d.WellFormed := by
  rw [elements.eq_def] at h
  simp only at h
  split at h
  · obtain ⟨rfl, rfl⟩ := Prod.mk.inj (Except.ok.inj h)
    simp
  · obtain ⟨⟨d, rest'⟩, hd, h⟩ := Parser.ok_of_bind h
    have hd := hread.ofValue hd
    split at h
    · obtain ⟨⟨ds', rest'⟩, hds, h⟩ := Parser.ok_of_bind h
      obtain ⟨rfl, rfl⟩ := Prod.mk.inj (Except.ok.inj h)
      simpa using ⟨hd, hread.ofElements hds⟩
    · obtain ⟨rfl, rfl⟩ := Prod.mk.inj (Except.ok.inj h)
      simpa using hd
    · cases h

/-- A map ends, or goes on with a key and its value, which are set among the entries so far. -/
theorem ReadsWellFormed.ofMembers_succ (hread : ReadsWellFormed fuel)
    {seen es : List (Scalar × Data)} (hseen : Data.WellFormed (.map seen))
    (h : members (fuel + 1) room t seen = .ok (es, rest)) : Data.WellFormed (.map es) := by
  rw [members.eq_def] at h
  simp only at h
  split at h
  · obtain ⟨rfl, rfl⟩ := Prod.mk.inj (Except.ok.inj h)
    exact hseen
  · obtain ⟨⟨k, rest'⟩, -, h⟩ := Parser.ok_of_bind h
    split at h
    · obtain ⟨⟨d, rest'⟩, hd, h⟩ := Parser.ok_of_bind h
      have hseen : Data.WellFormed (.map (Data.insertKey seen (.str k) d)) :=
        Data.wellFormed_insertKey hseen (hread.ofValue hd)
      split at h
      · exact hread.ofMembers hseen h
      · obtain ⟨rfl, rfl⟩ := Prod.mk.inj (Except.ok.inj h)
        exact hseen
      · cases h
    · cases h

end

/-- The values, lists and maps that are read are well-formed. -/
theorem readsWellFormed (fuel : Nat) : ReadsWellFormed fuel := by
  -- The three readers call each other with less fuel, so they are followed together.
  induction fuel with
  | zero => constructor <;> intros <;> contradiction
  | succ fuel ih => exact ⟨ih.ofValue_succ, ih.ofElements_succ, ih.ofMembers_succ⟩

/-- **JSON gives well-formed data.** -/
theorem wellFormed_parse {room : Nat} {t : Text} {d : Data} (h : parse room t = .ok d) :
    d.WellFormed := by
  obtain ⟨⟨d', rest⟩, hvalue, h⟩ := Parser.ok_of_bind h
  simp only at h
  split at h
  · obtain rfl := Except.ok.inj h
    exact (readsWellFormed _).ofValue hvalue
  · cases h

end Json5

namespace Yaml

namespace Construction

theorem wellFormed_nodeData (c : Construction) {others : Nat → Data}
    (h : ∀ n, (others n).WellFormed) (id : Nat) : (c.nodeData others id).WellFormed := by
  have hitems : ∀ {f : Nat → Data}, (∀ n, (f n).WellFormed) → ∀ items : List Nat,
      Data.WellFormed (.list (items.map f)) := by
    intro f hf items
    refine .list fun d hd => ?_
    obtain ⟨n, -, rfl⟩ := List.mem_map.1 hd
    exact hf n
  simp only [nodeData]
  split
  · exact .scalar _
  · exact hitems h _
  · refine hitems (fun item => ?_) _
    split
    · exact .pair (h _) (h _)
    · exact .scalar _
  · refine hitems (fun item => ?_) _
    split
    · exact .pair (h _) (h _)
    · exact .scalar _
  · refine Data.wellFormed_updateKeys Data.wellFormed_empty ?_
    intro e he
    obtain ⟨⟨key, value⟩, -, hsome⟩ := List.mem_filterMap.1 he
    obtain ⟨s, -, rfl⟩ := Option.map_eq_some_iff.1 hsome
    exact h value
  · exact .set _
  · exact .scalar _

theorem wellFormed_getD {known : Array Data} (h : ∀ d ∈ known, d.WellFormed) (n : Nat) :
    (known.getD n .null).WellFormed := by
  rw [Array.getD_eq_getD_getElem?]
  cases hget : known[n]? with
  | none => exact .scalar _
  | some d => exact h d (Array.mem_of_getElem? hget)

theorem wellFormed_sweep (c : Construction) {known : Array Data} (h : ∀ d ∈ known, d.WellFormed) :
    ∀ d ∈ c.sweep known, d.WellFormed := by
  unfold sweep
  refine List.foldlRecOn (motive := fun now : Array Data => ∀ d ∈ now, d.WellFormed) _ _ h ?_
  intro now hnow id _ d hd
  rcases Array.mem_or_eq_of_mem_setIfInBounds hd with hd | rfl
  · exact hnow d hd
  · apply wellFormed_nodeData
    intro other
    split
    · exact wellFormed_getD hnow other
    · exact wellFormed_getD h other

theorem wellFormed_data (c : Construction) (aliases : Nat) :
    ∀ d ∈ c.data aliases, d.WellFormed := by
  unfold data
  refine List.foldlRecOn (motive := fun known : Array Data => ∀ d ∈ known, d.WellFormed) _ _ ?_ ?_
  · intro d hd
    obtain ⟨-, rfl⟩ := Array.mem_replicate.1 hd
    exact .scalar _
  · intro known hknown _ _
    exact c.wellFormed_sweep hknown

end Construction

/-- **YAML gives well-formed data.** -/
theorem wellFormed_parse [Platform] {t : Text} {d : Data} (h : parse t = .ok d) :
    d.WellFormed := by
  obtain ⟨doc, -, h⟩ := Parser.ok_of_bind h
  obtain ⟨c, -, h⟩ := Parser.ok_of_bind h
  obtain rfl := Except.ok.inj h
  exact Construction.wellFormed_getD (c.wellFormed_data doc.aliases) doc.root

end Yaml

namespace Workspace

section

variable {w : Workspace} {parse : Text → Except Rejection Data} {fault : ReadFault} {p : Path}

/-- A file that is not read, without a breakdown, is at fault. -/
theorem readWith_eq_error {e : SettingsError} (h : w.readWith parse fault p = .error e) :
    (∃ cause, e = .broken cause) ∨ ∃ fault, e = .unreadableFile p.toString fault := by
  rcases Except.bind_eq_error h with h | ⟨source, -, h⟩
  · obtain ⟨fault, -, rfl⟩ := mapError_eq_error h
    exact .inr ⟨fault, rfl⟩
  · split at h
    · cases h
    · obtain rfl := Except.error.inj h
      exact .inr ⟨fault, rfl⟩
    · rename_i cause _
      obtain rfl := Except.error.inj h
      exact .inl ⟨cause, rfl⟩

theorem wellFormed_readWith (hparse : ∀ t d, parse t = .ok d → d.WellFormed) {d : Data}
    (h : w.readWith parse fault p = .ok d) : d.WellFormed := by
  obtain ⟨source, -, h⟩ := Parser.ok_of_bind h
  split at h
  · rename_i data hdata
    obtain rfl := Except.ok.inj h
    exact hparse _ _ hdata
  · cases h
  · cases h

end

/-- **The data of files is well-formed.** -/
theorem wellFormed_readData [Platform] {w : Workspace} {format : DataFormat} {p : Path}
    {before : Nat} {d : Data} (h : w.readData format p before = .ok d) : d.WellFormed := by
  refine wellFormed_readWith ?_ h
  intro t d hdata
  cases format with
  | json => exact Json5.wellFormed_parse hdata
  | yaml => exact Yaml.wellFormed_parse hdata

end Workspace

end ImportOrder
