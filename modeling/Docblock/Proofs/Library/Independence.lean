import Docblock.Proofs.Block.Naming
import Docblock.Proofs.Library.Reach
import Docblock.Proofs.Schema.Reading
import Mathlib

/-!
# Reading does not depend on what was read before

Reading a file again, or after others, gives it the same view as reading it first, whatever was read
and failed in between, where no cycle of imports is reached from it (`Independent`). On a cycle the
view of a file depends on where the cycle was entered: the first file of it that is read is cut off
from the others. Where every import brings something, no cycle is harmless.

That last condition (`Earnest`) cannot be left out. A cycle of files that declare no names is read
in any order with the same result, which is empty, and it is the same with imports of names that
nobody declares.
-/

namespace Docblock

open Library

variable {settings : Settings} {storage : Storage}

namespace Library

/-- The library after some files were read, one after the other, well or not. -/
def after (settings : Settings) (storage : Storage) (history : List String) : Library :=
  history.foldl (fun library path => (library.read settings storage path).library) empty

/-- A source has the blocks of a view, and sees the same blocks in the same order. -/
def Shows (library : Library) (index : Nat) (view : View) : Prop :=
  ∃ source, library.corpus.sources[index]? = some source ∧ source.file = view.file ∧
    source.blocks = view.blocks ∧
    source.ambient.map library.corpus.site? = view.ambient.map some ∧
    source.imported.map library.corpus.site? = view.imported.map some

end Library

/-- However many files were read before, reading a file gives the view that reading it alone
gives. -/
def Independent (settings : Settings) (storage : Storage) (path : String) : Prop :=
  ∀ history index,
    ((after settings storage history).read settings storage path).outcome = .ok index →
    ∃ view alone, (empty.read settings storage path).outcome = .ok alone ∧
      (empty.read settings storage path).library.Shows alone view ∧
      ((after settings storage history).read settings storage path).library.Shows index view

/-! ## What readings keep -/

namespace Library

/-- What holds of a library however it came about by reading. -/
structure Regular (settings : Settings) (storage : Storage) (library : Library) : Prop where
  sound : Sound settings storage library
  whole : Whole library
  sighted : Sighted settings storage library

theorem regular_empty (settings : Settings) (storage : Storage) :
    Regular settings storage empty :=
  ⟨sound_empty, whole_empty, sighted_empty settings storage⟩

theorem Regular.read {library : Library} (h : Regular settings storage library) (path : String) :
    Regular settings storage (library.read settings storage path).library :=
  have ends := library.read_ends settings storage path
  ⟨sound_of_load ends h.sound, whole_of_load ends h.whole, sighted_of_load ends h.sighted⟩

theorem regular_after (settings : Settings) (storage : Storage) (history : List String) :
    Regular settings storage (after settings storage history) := by
  unfold after
  generalize hl : empty = library
  have regular : Regular settings storage library := hl ▸ regular_empty settings storage
  clear hl
  induction history generalizing library with
  | nil => exact regular
  | cons path rest ih => exact ih _ (regular.read path)

/-- In a whole library blocks of different references have different places. -/
theorem Whole.site?_inj {library : Library} (whole : library.Whole) {ref other : BlockRef}
    (named : library.corpus.Names ref)
    (same : library.corpus.site? ref = library.corpus.site? other) : ref = other := by
  obtain ⟨site, hs⟩ := named.exists_site
  obtain ⟨source, hfound, heq⟩ := Option.map_eq_some_iff.1 hs
  obtain ⟨source', hfound', heq'⟩ := Option.map_eq_some_iff.1 (same.symm.trans hs)
  obtain ⟨files, places⟩ := Site.mk.inj (heq.trans heq'.symm)
  have index := whole.index? hfound
  rw [files, whole.index? hfound'] at index
  cases ref
  cases other
  cases index
  cases places
  rfl

theorem Covers.shows {library : Library} {index : Nat} {view : View} {source : Source}
    (h : library.Covers index view source) (sound : Sound settings storage library)
    (whole : library.Whole) : library.Shows index view := by
  have firsts_eq : ∀ refs : List BlockRef, refs.Nodup → (∀ ref ∈ refs, library.corpus.Names ref) →
      firsts (refs.map library.corpus.site?) = refs.map library.corpus.site? := by
    intro refs nodup named
    exact firsts_of_nodup
      (nodup.map_on fun ref hr other _ same => whole.site?_inj (named ref hr) same)
  obtain ⟨ambient, ambient_named⟩ := sound.ambient h.found
  obtain ⟨imported, imported_named⟩ := sound.imported h.found
  refine ⟨source, h.found, h.file, h.blocks, ?_, ?_⟩
  · rw [← firsts_eq _ ambient ambient_named, h.ambient]
  · rw [← firsts_eq _ imported imported_named, h.imported]

end Library

/-! ## Without cycles -/

/-- Reading a file from which no cycle is reached gives its view, in any library that came about
by reading. -/
theorem independent_of_acyclic {path : String}
    (acyclic : Acyclic settings storage (Path.normal path)) :
    Independent settings storage path := by
  intro history index hok
  have warm_ends := (after settings storage history).read_ends settings storage path
  rw [hok] at warm_ends
  have warm := (regular_after settings storage history).read path
  obtain ⟨view, source, built, covers⟩ :=
    warm.sighted _ index (index?_of_load warm_ends) acyclic
  have alone_ends := empty.read_ends settings storage path
  obtain ⟨alone, s', ends⟩ := @Readable.load _ _ [] _ built.readable (by simp) ⟨empty, []⟩
  obtain ⟨halone, -⟩ := alone_ends.unique ends
  rw [halone] at alone_ends
  have fresh := (regular_empty settings storage).read path
  -- Both libraries show the one view that the file has.
  obtain ⟨view', source', built', covers'⟩ :=
    fresh.sighted _ alone (index?_of_load alone_ends) acyclic
  cases built.unique built'
  exact ⟨view, alone, halone, covers'.shows fresh.sound fresh.whole,
    covers.shows warm.sound warm.whole⟩

/-! ## On cycles -/

/-- A block that is seen is no block of a file that is not known. -/
theorem file_ne_of_unknown {library : Library} (whole : library.Whole) {file : String}
    (unknown : library.index? file = none) {ref : BlockRef} {site : Site}
    (hs : library.corpus.site? ref = some site) : site.file ≠ file := by
  rintro rfl
  obtain ⟨source, hfound, rfl⟩ := Option.map_eq_some_iff.1 hs
  cases unknown.symm.trans (whole.index? hfound)

theorem mem_of_map_site? {corpus : Corpus} {refs : List BlockRef} {sites : List Site}
    (same : refs.map corpus.site? = sites.map some) {ref : BlockRef} {site : Site} (hr : ref ∈ refs)
    (hs : corpus.site? ref = some site) : site ∈ sites := by
  have image : corpus.site? ref ∈ refs.map corpus.site? := List.mem_map_of_mem hr
  rw [same, hs] at image
  obtain ⟨other, hm, heq⟩ := List.mem_map.1 image
  cases heq
  exact hm

/-- A file that is read first sees the blocks of its own that any other file gives it. -/
theorem mem_view_of_read_first {path target : String} {imp : Import} {index place : Nat}
    {outline : Outline} {view : View}
    (made : Makes settings storage (Path.normal path) imp target) (ne : target ≠ Path.normal path)
    (opened : Outline.ofFile settings storage target = .ok outline)
    (own : place ∈ imp.own outline.blocks)
    (hok : (empty.read settings storage path).outcome = .ok index)
    (shows_view : (empty.read settings storage path).library.Shows index view) :
    Site.mk target place ∈ view.ambient ++ view.imported := by
  have ends := empty.read_ends settings storage path
  rw [hok] at ends
  obtain ⟨outline', ambient, imported, s₁, s₂, opened', ra, ri, rfl, hs⟩ := load_new rfl ends
  have sound := ((regular_empty settings storage).read path).sound
  rw [show (empty.read settings storage path).library = s₂.library.add (Path.normal path) _ from
    congrArg LoadState.library hs] at shows_view sound
  obtain ⟨source, hfound, -, -, hambient, himported⟩ := shows_view
  -- The source of the file is the one that was taken in last.
  cases (getElem?_add.2 (.inr ⟨rfl, rfl⟩)).symm.trans hfound
  obtain ⟨outline'', opened'', hm, ht⟩ := made
  cases opened'.symm.trans opened''
  have away : target ∉ [Path.normal path] := by simpa using ne
  have grown := grown_of_walk ri
  have unknown : s₂.library.index? (Path.normal path) = none :=
    ((grown_of_walk ra).trans grown).closed List.mem_cons_self rfl
  have add : Grown [] s₂.library (s₂.library.add (Path.normal path)
      ⟨Path.normal path, outline'.blocks, ambient, imported⟩) := .add _ (by simp) unknown
  have sound₁ := sound_of_walk ra sound_empty
  rcases List.mem_append.1 hm with hm | hm
  · obtain ⟨index, known, hr⟩ := mem_of_walk ra sound_empty hm ht away opened own
    exact List.mem_append_left _
      (mem_of_map_site? hambient hr (sound.site?_eq (add.known (grown.known known)) place))
  · obtain ⟨index, known, hr⟩ := mem_of_walk ri sound₁ hm ht away opened own
    exact List.mem_append_right _
      (mem_of_map_site? himported hr (sound.site?_eq (add.known known) place))

/-- A file that became known while another was being read sees no blocks of that one. -/
theorem not_mem_view_of_read_within {path target : String} {index first place : Nat} {view : View}
    (hok : (empty.read settings storage target).outcome = .ok first)
    (known : (empty.read settings storage target).library.index? path = some index)
    (ne : path ≠ Path.normal target)
    (shows_view : (empty.read settings storage target).library.Shows index view) :
    Site.mk (Path.normal target) place ∉ view.ambient ++ view.imported := by
  have ends := empty.read_ends settings storage target
  rw [hok] at ends
  obtain ⟨outline, ambient, imported, s₁, s₂, -, ra, ri, -, hs⟩ := load_new rfl ends
  rw [show (empty.read settings storage target).library = s₂.library.add (Path.normal target) _
    from congrArg LoadState.library hs] at shows_view known
  have sound := sound_of_walk ri (sound_of_walk ra sound_empty)
  have whole := whole_of_walk ri (whole_of_walk ra whole_empty)
  have unknown : s₂.library.index? (Path.normal target) = none :=
    ((grown_of_walk ra).trans (grown_of_walk ri)).closed List.mem_cons_self rfl
  have add : Grown [] s₂.library (s₂.library.add (Path.normal target)
      ⟨Path.normal target, outline.blocks, ambient, imported⟩) := .add _ (by simp) unknown
  rw [index?_add_of_ne ne] at known
  obtain ⟨source, -, hfound, -⟩ := sound.known known
  obtain ⟨source', hfound', -, -, hambient, himported⟩ := shows_view
  cases (add.getElem? hfound).symm.trans hfound'
  -- What the source sees was there when the other file was not known yet.
  have unseen : ∀ (refs : List BlockRef) (sites : List Site), refs.map
      (s₂.library.add (Path.normal target) ⟨Path.normal target, outline.blocks, ambient,
        imported⟩).corpus.site? = sites.map some →
      (∀ ref ∈ refs, s₂.library.corpus.Names ref) → Site.mk (Path.normal target) place ∉ sites := by
    intro refs sites same named hm
    have image := List.mem_map_of_mem (f := some) hm
    rw [← same] at image
    obtain ⟨ref, hr, heq⟩ := List.mem_map.1 image
    obtain ⟨site, hsite⟩ := (named ref hr).exists_site
    cases (add.site? hsite).symm.trans heq
    exact file_ne_of_unknown whole unknown hsite rfl
  intro hm
  rcases List.mem_append.1 hm with hm | hm
  · exact unseen _ _ hambient (sound.ambient hfound).2 hm
  · exact unseen _ _ himported (sound.imported hfound).2 hm

/-- Where a file is imported that leads back, and brings a block of its own, the view of the
importing file depends on which of the two is read first. -/
theorem not_independent_of_cycle {path target : String} {imp : Import} {outline : Outline}
    (readable : Readable settings storage (Path.normal path))
    (made : Makes settings storage (Path.normal path) imp (Path.normal target))
    (ne : Path.normal target ≠ Path.normal path)
    (back : LeadsTo settings storage (Path.normal target) (Path.normal path))
    (opened : Outline.ofFile settings storage (Path.normal target) = .ok outline)
    (own : imp.own outline.blocks ≠ []) : ¬Independent settings storage path := by
  intro independent
  obtain ⟨place, hp⟩ := List.exists_mem_of_ne_nil _ own
  -- Reading the imported file first makes the importing file known.
  have first_ends := empty.read_ends settings storage target
  obtain ⟨first, s₁, ends⟩ := @Readable.load _ _ [] _ (readable.step made.imports) (by simp) ⟨empty, []⟩
  obtain ⟨hfirst, -⟩ := first_ends.unique ends
  rw [hfirst] at first_ends
  have closed := (closed_rule settings storage).holds _ first_ends (closed_empty []) first rfl
  obtain ⟨index, known⟩ := closed.leadsTo (index?_of_load first_ends) back
  -- So reading that one finds it there, cut off from the file that was read first.
  have warm_ends := (after settings storage [target]).read_ends settings storage path
  have here : (load settings storage [] (Path.normal path) (by simp)).Ends
      ⟨after settings storage [target], []⟩ (.ok index) ⟨after settings storage [target], []⟩ :=
    load_of_known known
  obtain ⟨hindex, hstate⟩ := warm_ends.unique here
  obtain ⟨view, alone, halone, shows_alone, shows_warm⟩ := independent [target] index hindex
  rw [show ((after settings storage [target]).read settings storage path).library = _ from
    congrArg LoadState.library hstate] at shows_warm
  have seen := mem_view_of_read_first made ne opened hp halone shows_alone
  exact not_mem_view_of_read_within hfirst known ne.symm shows_warm seen

/-- Every file that is led to can be opened, and every import of another file brings a block of
that file. -/
structure Earnest (settings : Settings) (storage : Storage) (path : String) : Prop where
  readable : Readable settings storage path
  brings : ∀ {source imp target}, LeadsTo settings storage path source →
    Makes settings storage source imp target → target ≠ source →
    ∃ outline, Outline.ofFile settings storage target = .ok outline ∧ imp.own outline.blocks ≠ []

/-- What a file sees does not depend on what was read before where no cycle is reached from it.
Where every import brings something, this holds of all files on the way only then. -/
theorem independent_iff_acyclic (settings : Settings) (storage : Storage) (path : String) :
    (Acyclic settings storage (Path.normal path) → Independent settings storage path) ∧
      (Earnest settings storage (Path.normal path) →
        ((∀ file, LeadsTo settings storage (Path.normal path) (Path.normal file) →
          Independent settings storage file) ↔ Acyclic settings storage (Path.normal path))) := by
  refine ⟨independent_of_acyclic, fun earnest => ⟨?_, ?_⟩⟩
  · intro independent source target hs imports back
    by_contra ne
    obtain ⟨imp, made⟩ := imports
    obtain ⟨outline, opened, own⟩ := earnest.brings hs made ne
    obtain ⟨file, rfl⟩ := exists_normal hs
    obtain ⟨other, rfl⟩ := exists_normal (hs.tail made.imports)
    have readable : Readable settings storage (Path.normal file) :=
      fun next hl => earnest.readable next (hs.trans hl)
    exact not_independent_of_cycle readable made ne back opened own (independent file hs)
  · intro acyclic file hl
    exact independent_of_acyclic (acyclic.leadsTo hl)

/-! ## Two files that import each other -/

namespace Ring

def comment : String := "/** @typedef {number} Count */"

def line : List Char := "@typedef {number} Count".toList

def tag : Tag where
  kind := .typedef
  typeText := "number"
  types := [.primitive "number" .number]
  name := "Count"
  description := ""
  filters := []
  optional := false
  defaultValue := none
  member := none
  place := 0

/-- The block of the comment on the second line of a file. -/
def block (file : String) : Block :=
  ⟨⟨"", ⟨false, false⟩, false, none, none, some tag, none, none, none, [], [], []⟩, file, 2, 2, ""⟩

theorem read_types : TypeExpr.read ['n', 'u', 'm', 'b', 'e', 'r'] = .ok tag.types := by
  rw [TypeExpr.read_of_form (by cbv) (by cbv)]
  cbv

theorem ofText_line : Tag.ofText .typedef line = .ok tag :=
  Tag.ofText_naming (by cbv) (by cbv) (by cbv) (by cbv) read_types (by cbv) (by cbv)

theorem ofComment_comment (file : String) (offset : Nat) :
    Block.ofComment file ⟨comment, offset, 2, 2, ""⟩ = .ok (block file) :=
  Block.ofComment_naming file (by cbv)
    (Elements.ofLines_naming (by cbv) (by cbv) (by cbv) (by decide) ofText_line)

/-- A file that holds the comment, and imports for their effects above it. -/
theorem ofFile_eq {storage : Storage} {path code : String} {offset : Nat} {paths : List String}
    (read : storage.read Settings.standard.encoding path = .ok code)
    (comments : Comment.ofSource code.toList = [⟨comment, offset, 2, 2, ""⟩])
    (imports : sideEffectImports code = paths) :
    Outline.ofFile .standard storage path = .ok ⟨[block path], paths.map .effects, []⟩ :=
  Outline.ofFile_of_comment read comments (ofComment_comment path offset) rfl imports

/-- One file imports the other. -/
def chain : Storage where
  entries := [
    ("x.js", .text "import './y.js'\n/** @typedef {number} Count */"),
    ("y.js", .text "\n/** @typedef {number} Count */")]
  folders := none

/-- Both files import each other. -/
def ring : Storage where
  entries := [
    ("x.js", .text "import './y.js'\n/** @typedef {number} Count */"),
    ("y.js", .text "import './x.js'\n/** @typedef {number} Count */")]
  folders := none

theorem chain_x : Outline.ofFile .standard chain "x.js" =
    .ok ⟨[block "x.js"], [.effects "./y.js"], []⟩ :=
  @ofFile_eq chain "x.js" _ 16 ["./y.js"] (by cbv) (by cbv) (by cbv)

theorem chain_y : Outline.ofFile .standard chain "y.js" = .ok ⟨[block "y.js"], [], []⟩ :=
  @ofFile_eq chain "y.js" _ 1 [] (by cbv) (by cbv) (by cbv)

theorem ring_x : Outline.ofFile .standard ring "x.js" =
    .ok ⟨[block "x.js"], [.effects "./y.js"], []⟩ :=
  @ofFile_eq ring "x.js" _ 16 ["./y.js"] (by cbv) (by cbv) (by cbv)

theorem ring_y : Outline.ofFile .standard ring "y.js" =
    .ok ⟨[block "y.js"], [.effects "./x.js"], []⟩ :=
  @ofFile_eq ring "y.js" _ 16 ["./x.js"] (by cbv) (by cbv) (by cbv)

theorem target_x : importTarget? (Path.folder "x.js") "./y.js" = some "y.js" := by decide

theorem target_y : importTarget? (Path.folder "y.js") "./x.js" = some "x.js" := by decide

/-- A file with one import imports the file that it leads to. -/
theorem imports_iff {storage : Storage} {path target other : String} {blocks : List Block}
    {imp : Import} (opened : Outline.ofFile .standard storage path = .ok ⟨blocks, [imp], []⟩)
    (ht : importTarget? (Path.folder path) imp.path = some target) :
    Imports .standard storage path other ↔ other = target := by
  constructor
  · intro h
    obtain ⟨imp', hm, ht'⟩ := h.of_outline opened
    obtain rfl : imp' = imp := by simpa [Outline.imports] using hm
    exact (Option.some.inj (ht.symm.trans ht')).symm
  · rintro rfl
    exact ⟨imp, _, opened, by simp [Outline.imports], ht⟩

theorem acyclic_chain : Acyclic .standard chain "x.js" := by
  have last : ∀ target, ¬Imports .standard chain "y.js" target := by
    intro target h
    obtain ⟨imp, hm, -⟩ := h.of_outline chain_y
    cases hm
  have away : ∀ source, LeadsTo .standard chain "x.js" source → source = "x.js" ∨ source = "y.js" := by
    intro source hs
    induction hs with
    | refl => exact .inl rfl
    | tail _ imports ih =>
      rcases ih with rfl | rfl
      · exact .inr ((imports_iff chain_x target_x).1 imports)
      · exact absurd imports (last _)
  intro source target hs imports back
  rcases away source hs with rfl | rfl
  · rw [(imports_iff chain_x target_x).1 imports] at back ⊢
    rcases back.cases_head with same | ⟨next, imports', -⟩
    · exact same
    · exact absurd imports' (last _)
  · exact absurd imports (last _)

theorem leadsTo_ring {file : String} (h : LeadsTo .standard ring "x.js" file) :
    file = "x.js" ∨ file = "y.js" := by
  induction h with
  | refl => exact .inl rfl
  | tail _ imports ih =>
    rcases ih with rfl | rfl
    · exact .inr ((imports_iff ring_x target_x).1 imports)
    · exact .inl ((imports_iff ring_y target_y).1 imports)

theorem earnest_ring : Earnest .standard ring "x.js" where
  readable file hl := by
    rcases leadsTo_ring hl with rfl | rfl
    · exact ⟨_, ring_x⟩
    · exact ⟨_, ring_y⟩
  brings {source imp target} hl made ne := by
    obtain ⟨outline, opened, hm, ht⟩ := made
    have given : ∀ file path, (Import.effects path).own [block file] ≠ [] := by
      intro file path
      exact List.cons_ne_nil 0 []
    rcases leadsTo_ring hl with rfl | rfl
    · cases ring_x.symm.trans opened
      obtain rfl : imp = .effects "./y.js" := by simpa [Outline.imports] using hm
      cases target_x.symm.trans ht
      exact ⟨_, ring_y, given _ _⟩
    · cases ring_y.symm.trans opened
      obtain rfl : imp = .effects "./x.js" := by simpa [Outline.imports] using hm
      cases target_y.symm.trans ht
      exact ⟨_, ring_x, given _ _⟩

theorem not_acyclic_ring : ¬Acyclic .standard ring "x.js" := by
  intro acyclic
  have there : Imports .standard ring "x.js" "y.js" := (imports_iff ring_x target_x).2 rfl
  have back : Imports .standard ring "y.js" "x.js" := (imports_iff ring_y target_y).2 rfl
  exact absurd (acyclic _ _ .refl there (.single back)) (by decide)

theorem normal_x : Path.normal "x.js" = "x.js" := by decide

end Ring

/-- Along a chain of imports what was read before does not matter; around a ring it does. -/
theorem independent_iff_acyclic_two_files :
    (Acyclic .standard Ring.chain (Path.normal "x.js") ∧
      Independent .standard Ring.chain "x.js") ∧
    Earnest .standard Ring.ring (Path.normal "x.js") ∧
    ¬∀ file, LeadsTo .standard Ring.ring (Path.normal "x.js") (Path.normal file) →
      Independent .standard Ring.ring file := by
  have chain := (independent_iff_acyclic .standard Ring.chain "x.js").1
  have ring := (independent_iff_acyclic .standard Ring.ring "x.js").2
  rw [Ring.normal_x] at chain ring ⊢
  refine ⟨⟨Ring.acyclic_chain, chain Ring.acyclic_chain⟩, Ring.earnest_ring, fun all => ?_⟩
  exact Ring.not_acyclic_ring ((ring Ring.earnest_ring).1 all)

end Docblock
