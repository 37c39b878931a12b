import Docblock.Proofs.Schema.Reading

/-!
# Filters that are read are allowed

`Allowed` says when filters may stand beside alternatives, and `TypeExpr.Filtered` that this is so
for every field inside a type, at any depth. Reading gives only such types (`filtered_of_read`): the
filters of a field come from `Filter.ofTail`, which refuses those that are not allowed, also where a
later remark replaces the earlier ones.

There is one lemma for each definition of the reader, and the whole recursion is put together along
the three cases of reading. The text of a field is never looked at: that a filter is allowed is
known from the check that let it through, and nothing else has to be known about where it came from.

The checks of values build on this. A checker that meets a filter of another category, or a step of
zero, would have no answer, and it never does for a type that was read. One consequence is drawn
here already, beside filters no alternative is a name (`Allowed.name?_eq_none`), and another where
values are checked: what such alternatives say of a value does not hang on strictness
(`Allowed.shape_eq`). That filters are sensible is not claimed. A minimum may be larger than the
maximum beside it.
-/

namespace Docblock

/-- A filter of a category, with a value of its kind; a step is not zero. -/
def Filter.Fits (filter : Filter) (category : Category) : Prop :=
  ∃ rule, category.rule? filter.name = some rule ∧ rule.kind.admits filter.value = true ∧
    ¬(rule = .step ∧ filter.value.eqv (.int 0) = true)

/-- A type beside which filters may stand: it marks a value as missing, or its category has all
of them. -/
def TypeExpr.Takes (type : TypeExpr) (filters : List Filter) : Prop :=
  type.isNullish = true ∨
    ∃ category, type.category? = some category ∧ ∀ filter ∈ filters, filter.Fits category

/-- Filters that may stand beside alternatives. -/
def Allowed (types : List TypeExpr) (filters : List Filter) : Prop :=
  filters = [] ∨ ∀ type ∈ types, type.Takes filters

namespace TypeExpr

/-- The fields of a tuple or an object type. -/
def fields : TypeExpr → List (Field TypeExpr)
  | tuple _ fields | object _ fields => fields
  | _ => []

/-- The types right inside a type. -/
def inner : TypeExpr → List TypeExpr
  | array _ types => types
  | map _ keys values => keys ++ values
  | tuple _ fields | object _ fields => fields.flatMap (·.types)
  | _ => []

/-- A type in which every field, at any depth, has filters that are allowed. -/
inductive Filtered : TypeExpr → Prop
  | intro {type : TypeExpr} (fields : ∀ field ∈ type.fields, Allowed field.types field.filters)
      (inner : ∀ part ∈ type.inner, Filtered part) : Filtered type

theorem Filtered.fields {type : TypeExpr} (h : type.Filtered) {field : Field TypeExpr}
    (hf : field ∈ type.fields) : Allowed field.types field.filters := by
  obtain ⟨hfields, -⟩ := h
  exact hfields field hf

theorem Filtered.inner {type part : TypeExpr} (h : type.Filtered) (hp : part ∈ type.inner) :
    part.Filtered := by
  obtain ⟨-, hinner⟩ := h
  exact hinner part hp

theorem filtered_of_inner_eq_nil {type : TypeExpr} (hf : type.fields = [])
    (hi : type.inner = []) : type.Filtered :=
  .intro (by simp [hf]) (by simp [hi])

end TypeExpr

/-- A field with allowed filters, and types of such fields. -/
structure Field.Filtered (field : Field TypeExpr) : Prop where
  allowed : Allowed field.types field.filters
  types : ∀ type ∈ field.types, type.Filtered

namespace TypeExpr

theorem Filtered.field {type : TypeExpr} {field : Field TypeExpr} (h : type.Filtered)
    (hf : field ∈ type.fields) : field.Filtered := by
  refine ⟨h.fields hf, fun part hp => h.inner ?_⟩
  cases type <;> simp only [TypeExpr.fields, List.not_mem_nil] at hf
  · exact List.mem_flatMap.2 ⟨field, hf, hp⟩
  · exact List.mem_flatMap.2 ⟨field, hf, hp⟩

theorem filtered_tuple {text : String} {fields : List (Field TypeExpr)}
    (h : ∀ field ∈ fields, field.Filtered) : (tuple text fields).Filtered := by
  refine .intro (fun field hf => (h field hf).allowed) fun part hp => ?_
  obtain ⟨field, hf, hp⟩ := List.mem_flatMap.1 hp
  exact (h field hf).types part hp

theorem filtered_object {text : String} {fields : List (Field TypeExpr)}
    (h : ∀ field ∈ fields, field.Filtered) : (object text fields).Filtered := by
  refine .intro (fun field hf => (h field hf).allowed) fun part hp => ?_
  obtain ⟨field, hf, hp⟩ := List.mem_flatMap.1 hp
  exact (h field hf).types part hp

end TypeExpr

/-! ## What stands beside filters -/

namespace Allowed

/-- Beside filters no alternative is a name. -/
theorem name?_eq_none {types : List TypeExpr} {filters : List Filter}
    (h : Allowed types filters) (hf : filters ≠ []) {type : TypeExpr} (ht : type ∈ types) :
    type.name? = none := by
  rcases h.resolve_left hf type ht with hn | ⟨category, hc, -⟩
  · cases type <;> first | rfl | exact absurd hn (by simp [TypeExpr.isNullish])
  · cases type <;> first | rfl | exact absurd hc (by simp [TypeExpr.category?])

end Allowed

/-! ## Reading -/

namespace Filter

theorem fits_of_checkOne {category : Category} {shown : Except Fault String} {filter : Filter}
    (h : checkOne category shown filter = .ok ()) : filter.Fits category := by
  unfold checkOne at h
  split at h
  · exact absurd h refuse_ne_ok
  · rename_i rule hrule
    split at h
    · obtain ⟨text, -, h⟩ := bind_eq_ok.1 h
      exact absurd h refuse_ne_ok
    · rename_i hkind
      split at h
      · obtain ⟨text, -, h⟩ := bind_eq_ok.1 h
        exact absurd h refuse_ne_ok
      · rename_i hstep
        refine ⟨rule, hrule, by simpa using hkind, ?_⟩
        simpa using hstep

theorem takes_of_checkAllowed {literal : String} {filters : List Filter} {type : TypeExpr}
    (h : checkAllowed literal filters type = .ok ()) :
    filters = [] ∨ type.Takes filters := by
  unfold checkAllowed at h
  split at h
  · rename_i hskip
    rcases Bool.or_eq_true _ _ ▸ hskip with he | hn
    · exact .inl (List.isEmpty_iff.1 he)
    · exact .inr (.inl hn)
  · split at h
    · exact absurd h refuse_ne_ok
    · rename_i category hc
      refine .inr (.inr ⟨category, hc, fun filter hf => ?_⟩)
      exact fits_of_checkOne (forM_eq_ok.1 h filter hf)

/-- The filters of a text are allowed for the types that they were read for. -/
theorem allowed_of_ofTail {cs : List Char} {types : List TypeExpr} {description : String}
    {filters : List Filter} (h : ofTail cs types = .ok (description, filters)) :
    Allowed types filters := by
  unfold ofTail at h
  dsimp only at h
  split at h
  · rw [pure_eq_ok] at h
    cases h
    exact .inl rfl
  · rename_i before literal after _
    obtain ⟨entries, -, h⟩ := bind_eq_ok.1 h
    obtain ⟨⟨⟩, hall, h⟩ := bind_eq_ok.1 h
    rw [pure_eq_ok] at h
    cases h
    by_cases he : entries.map ofEntry = []
    · exact .inl he
    · refine .inr fun type ht => ?_
      exact (takes_of_checkAllowed (forM_eq_ok.1 hall type ht)).resolve_left he

end Filter

namespace TypeExpr

/-- A remark that comes late documents the last field anew, and its filters are checked too. -/
theorem filtered_documentLast {remark : List Char} {done fields : List (Field TypeExpr)}
    (h : documentLast remark done = .ok fields) (hd : ∀ field ∈ done, field.Filtered) :
    ∀ field ∈ fields, field.Filtered := by
  unfold documentLast at h
  split at h
  · cases h
    exact hd
  · rename_i last before
    split at h
    · cases h
      exact hd
    · obtain ⟨⟨description, filters⟩, htail, h⟩ := bind_eq_ok.1 h
      rw [pure_eq_ok] at h
      subst h
      intro field hf
      rcases List.mem_cons.1 hf with rfl | hf
      · exact ⟨Filter.allowed_of_ofTail htail, (hd last (by simp)).types⟩
      · exact hd field (by simp [hf])

theorem filtered_makeField {keyed : Bool} {place : Nat} {key trailing : List Char}
    {types : List TypeExpr} {field : Field TypeExpr}
    (h : makeField keyed place key trailing types = .ok field)
    (ht : ∀ type ∈ types, type.Filtered) : field.Filtered := by
  unfold makeField at h
  dsimp only at h
  obtain ⟨⟨description, filters⟩, htail, h⟩ := bind_eq_ok.1 h
  rw [pure_eq_ok] at h
  subst h
  refine ⟨Filter.allowed_of_ofTail htail, fun type hm => ?_⟩
  dsimp only at hm
  split at hm
  · exact ht type hm
  · split at hm
    · rcases List.mem_append.1 hm with hm | hm
      · exact ht type hm
      · cases List.mem_singleton.1 hm
        exact filtered_of_inner_eq_nil rfl rfl
    · exact ht type hm

theorem filtered_of_shorthand {cs : List Char} {types : List TypeExpr}
    (h : shorthand? cs = some types) : ∀ type ∈ types, type.Filtered := by
  have any : ∀ part ∈ [any "*"], part.Filtered := by
    intro part hp
    cases List.mem_singleton.1 hp
    exact filtered_of_inner_eq_nil rfl rfl
  unfold shorthand? at h
  dsimp only at h
  intro type ht
  split at h
  · cases h
    exact any type ht
  · split at h
    · cases h
      cases List.mem_singleton.1 ht
      exact .intro (by simp [TypeExpr.fields]) any
    · split at h
      · cases h
        cases List.mem_singleton.1 ht
        refine .intro (by simp [TypeExpr.fields]) fun part hp => ?_
        rcases List.mem_append.1 hp with hp | hp
        · exact any part hp
        · exact any part hp
      · cases h

theorem filtered_singleton {type : TypeExpr} (h : type.Filtered) :
    ∀ part ∈ [type], part.Filtered := by
  intro part hp
  cases List.mem_singleton.1 hp
  exact h

/-- What is read from an expression has only allowed filters. -/
def ReadsFiltered (cs : List Char) : Prop :=
  ∀ types, read cs = .ok types → ∀ type ∈ types, type.Filtered

theorem filtered_readAll {texts : List (List Char)} {types : List TypeExpr}
    (inside : ∀ text ∈ texts, Within ReadsFiltered text) (h : readAll texts = .ok types) :
    ∀ type ∈ types, type.Filtered := by
  induction texts generalizing types with
  | nil =>
    rw [readAll] at h
    cases h
    simp
  | cons text rest ih =>
    rw [readAll, bind_eq_ok] at h
    obtain ⟨first, hf, h⟩ := h
    obtain ⟨others, ho, h⟩ := bind_eq_ok.1 h
    rw [pure_eq_ok] at h
    subst h
    intro type ht
    rcases List.mem_append.1 ht with ht | ht
    · exact inside text (by simp) text (Nat.le_refl _) first hf type ht
    · exact ih (fun other hm => inside other (by simp [hm])) ho type ht

/-- The fields read before keep their filters, or get those of a remark. -/
theorem filtered_readFields {keyed : Bool} {texts : List (List Char)}
    {done fields : List (Field TypeExpr)} (inside : ∀ text ∈ texts, Within ReadsFiltered text)
    (hd : ∀ field ∈ done, field.Filtered) (h : readFields keyed texts done = .ok fields) :
    ∀ field ∈ fields, field.Filtered := by
  induction texts generalizing done with
  | nil =>
    rw [readFields] at h
    cases h
    intro field hf
    exact hd field (List.mem_reverse.1 hf)
  | cons text rest ih =>
    have others : ∀ {done : List (Field TypeExpr)}, (∀ field ∈ done, field.Filtered) →
        readFields keyed rest done = .ok fields → ∀ field ∈ fields, field.Filtered :=
      ih fun other hm => inside other (by simp [hm])
    rw [readFields_cons] at h
    obtain ⟨member, hm, h⟩ := bind_eq_ok.1 h
    obtain ⟨documented, hdoc, h⟩ := bind_eq_ok.1 h
    have before := filtered_documentLast hdoc hd
    split at h
    · exact others before h
    · rename_i key type trailing content
      obtain ⟨types, ht, h⟩ := bind_eq_ok.1 h
      obtain ⟨field, hf, h⟩ := bind_eq_ok.1 h
      have read := inside text (by simp) type (Member.length_type_le hm content) types ht
      exact others (List.forall_mem_cons.2 ⟨filtered_makeField hf read, before⟩) h

theorem filtered_readForm {text : String} {layer : Layer} {types : List TypeExpr}
    (inside : ∀ t ∈ layer.inner, Within ReadsFiltered t) (h : readForm text layer = .ok types) :
    ∀ type ∈ types, type.Filtered := by
  have one : ∀ t ∈ layer.inner, ∀ read', read t = .ok read' → ∀ type ∈ read', type.Filtered :=
    fun t ht => inside t ht t (Nat.le_refl _)
  cases layer with
  | array element =>
    obtain ⟨elements, he, h⟩ := bind_eq_ok.1 h
    cases h
    exact filtered_singleton (.intro (by simp [TypeExpr.fields])
      (one element (by simp [Layer.inner]) elements he))
  | object members =>
    obtain ⟨fields, hf, h⟩ := bind_eq_ok.1 h
    cases h
    exact filtered_singleton (filtered_object (filtered_readFields inside (by simp) hf))
  | tuple members =>
    obtain ⟨fields, hf, h⟩ := bind_eq_ok.1 h
    cases h
    exact filtered_singleton (filtered_tuple (filtered_readFields inside (by simp) hf))
  | map key value =>
    obtain ⟨keys, hk, h⟩ := bind_eq_ok.1 h
    obtain ⟨values, hv, h⟩ := bind_eq_ok.1 h
    cases h
    refine filtered_singleton (.intro (by simp [TypeExpr.fields]) fun part hp => ?_)
    rcases List.mem_append.1 hp with hp | hp
    · exact one key (by simp [Layer.inner]) keys hk part hp
    · exact one value (by simp [Layer.inner]) values hv part hp
  | _ =>
    -- The forms with nothing inside.
    cases h
    exact filtered_singleton (filtered_of_inner_eq_nil rfl rfl)

theorem reads_filtered (cs : List Char) : ReadsFiltered cs := by
  induction cs using induction_on with
  | shorthand cs shorthands hs =>
    intro types h
    rw [read_of_shorthand hs] at h
    cases h
    exact filtered_of_shorthand hs
  | union cs members hs hu parts =>
    intro types h
    rw [read_of_union hs hu, bind_eq_ok] at h
    obtain ⟨types', hm, h⟩ := h
    rw [pure_eq_ok] at h
    subst h
    split
    · exact filtered_singleton (filtered_of_inner_eq_nil rfl rfl)
    · exact filtered_readAll parts hm
  | form cs hs hu inside =>
    intro types h
    rw [read_of_form hs hu] at h
    exact filtered_readForm inside h

/-- A type that was read has allowed filters everywhere inside. -/
theorem filtered_of_read {cs : List Char} {types : List TypeExpr} (h : read cs = .ok types) :
    ∀ type ∈ types, type.Filtered :=
  reads_filtered cs types h

end TypeExpr

end Docblock
