import Docblock.Proofs.Library.Step

/-!
# Libraries grow

Loading only adds to a library: sources stay where they are, and what is known stays known as what
it is. A file that is being read does not become known before it is done, so the place that it gets
in the end is new.

That is said of what loading does, not of libraries as such: forgetting a file takes away what is
known of it, and only its source stays. What is said of a whole session must get by without it.
-/

namespace Docblock

namespace Library

theorem index?_add (library : Library) (source : Source) (path other : String) :
    (library.add path source).index? other =
      (library.index? other).or
        (if other = path then some library.corpus.sources.length else none) := by
  unfold index? add
  rw [List.lookup_append]
  by_cases h : other = path
  · simp [h]
  · simp [List.lookup_cons, h, beq_eq_false_iff_ne.2 h]

theorem index?_add_self {library : Library} {source : Source} {path : String}
    (h : library.index? path = none) :
    (library.add path source).index? path = some library.corpus.sources.length := by
  simp [index?_add, h]

theorem index?_add_of_ne {library : Library} {source : Source} {path other : String}
    (h : other ≠ path) : (library.add path source).index? other = library.index? other := by
  simp [index?_add, h]

/-- A source that was taken in is the last. -/
theorem getElem?_add {library : Library} {path : String} {source found : Source} {index : Nat} :
    (library.add path source).corpus.sources[index]? = some found ↔
      library.corpus.sources[index]? = some found ∨
        index = library.corpus.sources.length ∧ source = found := by
  simp only [add, List.getElem?_append]
  split
  · rename_i lt
    constructor
    · exact .inl
    · rintro (h | ⟨rfl, -⟩)
      · exact h
      · exact absurd lt (Nat.lt_irrefl _)
  · rename_i ge
    rw [List.getElem?_eq_none (Nat.le_of_not_lt ge), List.getElem?_singleton]
    constructor
    · intro h
      split at h
      · cases h
        exact .inr ⟨by omega, rfl⟩
      · cases h
    · rintro (h | ⟨rfl, rfl⟩)
      · cases h
      · simp

/-- What is kept of a library while some files are being read. -/
structure Grown (visiting : List String) (before after : Library) : Prop where
  sources : before.corpus.sources <+: after.corpus.sources
  known : ∀ {path index}, before.index? path = some index → after.index? path = some index
  closed : ∀ {path}, path ∈ visiting → before.index? path = none → after.index? path = none

namespace Grown

variable {visiting : List String} {before middle after : Library}

theorem refl (visiting : List String) (library : Library) : Grown visiting library library where
  sources := List.prefix_rfl
  known h := h
  closed _ h := h

theorem trans (first : Grown visiting before middle) (second : Grown visiting middle after) :
    Grown visiting before after where
  sources := first.sources.trans second.sources
  known h := second.known (first.known h)
  closed hv h := second.closed hv (first.closed hv h)

/-- What is kept while more files are being read is kept while fewer are. -/
theorem mono {more : List String} (h : Grown more before after)
    (hs : ∀ path ∈ visiting, path ∈ more) : Grown visiting before after where
  sources := h.sources
  known := h.known
  closed hv := h.closed (hs _ hv)

/-- A file that is done is none of those that are still being read. -/
theorem add (source : Source) {path : String} (fresh : path ∉ visiting)
    (unknown : before.index? path = none) :
    Grown visiting before (before.add path source) where
  sources := List.prefix_append _ _
  known {other index} h := by
    have ne : other ≠ path := by
      rintro rfl
      rw [unknown] at h
      cases h
    rw [index?_add_of_ne ne, h]
  closed {other} hv h := by
    have ne : other ≠ path := by
      rintro rfl
      exact fresh hv
    rw [index?_add_of_ne ne, h]

theorem getElem? (h : Grown visiting before after) {index : Nat} {source : Source}
    (hs : before.corpus.sources[index]? = some source) :
    after.corpus.sources[index]? = some source := by
  obtain ⟨more, hmore⟩ := h.sources
  have lt := (List.getElem?_eq_some_iff.1 hs).1
  rw [← hmore, List.getElem?_append_left lt, hs]

theorem block? (h : Grown visiting before after) {ref : BlockRef} {block : Block}
    (hb : before.corpus.block? ref = some block) : after.corpus.block? ref = some block := by
  simp only [Corpus.block?, Option.bind_eq_bind, Option.bind_eq_some_iff] at hb ⊢
  obtain ⟨source, hs, hp⟩ := hb
  exact ⟨source, h.getElem? hs, hp⟩

end Grown

end Library

/-! ## Loading makes a library grow -/

section

variable {settings : Settings} {storage : Storage} {visiting : List String} {path : String}

theorem grown_rule (settings : Settings) (storage : Storage) : LoadRule settings storage
    (fun visiting path s outcome s' => Library.Grown visiting s.library s'.library ∧
      ∀ index, outcome = .ok index → s'.library.index? path = some index)
    (fun visiting path _ _ s _ s' => Library.Grown (path :: visiting) s.library s'.library) where
  known h := by
    refine ⟨.refl _ _, fun index heq => ?_⟩
    cases heq
    exact h
  broken _ _ := ⟨.refl _ _, fun _ heq => by cases heq⟩
  ambientFault _ _ _ _ ha := ⟨ha.mono (by simp +contextual), fun _ heq => by cases heq⟩
  importedFault _ _ _ _ _ ha hi := ⟨(ha.trans hi).mono (by simp +contextual), fun _ heq => by cases heq⟩
  done {visiting path s s₁ s₂ outline ambient imported} fresh unknown _ _ _ ha hi := by
    have grown := ha.trans hi
    have open_still : s₂.library.index? path = none := grown.closed (by simp) unknown
    refine ⟨(grown.mono (by simp +contextual)).trans (.add _ fresh open_still), fun _ heq => ?_⟩
    cases heq
    exact Library.index?_add_self open_still
  nil := .refl _ _
  skip _ h := h
  fault _ _ _ h := h.1
  next _ _ _ _ hfile hrest := hfile.1.trans hrest

/-- A library grows by loading a file, whether that ends well or not. -/
theorem grown_of_load {fresh : path ∉ visiting} {s s' : LoadState}
    {outcome : Except LoadFault Nat}
    (h : (load settings storage visiting path fresh).Ends s outcome s') :
    Library.Grown visiting s.library s'.library :=
  ((grown_rule settings storage).holds fresh h).1

/-- A file that was loaded is known. -/
theorem index?_of_load {fresh : path ∉ visiting} {s s' : LoadState} {index : Nat}
    (h : (load settings storage visiting path fresh).Ends s (.ok index) s') :
    s'.library.index? path = some index :=
  ((grown_rule settings storage).holds fresh h).2 index rfl

/-- A library grows by following the imports of a file. -/
theorem grown_of_walk {imports : List Import} {found : List BlockRef} {s s' : LoadState}
    {outcome : Except LoadFault (List BlockRef)}
    (h : (loadThrough settings storage visiting path imports found).Ends s outcome s') :
    Library.Grown (path :: visiting) s.library s'.library :=
  (grown_rule settings storage).walks h

end

end Docblock
