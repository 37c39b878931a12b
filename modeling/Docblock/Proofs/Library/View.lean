import Docblock.Proofs.Library.Step
import Mathlib.Data.List.Basic
import Mathlib.Data.List.Induction
import Mathlib.Logic.Relation

/-!
# What a file sees, without a library

A view is what a file sees through its imports, with blocks named by their file and their place in
it. The views of the files that a file imports determine its own (`Built`), whatever has been read
before: nothing but what is stored enters. Imports of a file by itself add nothing. There is at most
one view (`Built.unique`), and none for a file on a longer way of imports back to itself.

A library is not needed here, and no order of reading, which is the point of a view: it is what a
reading is compared with. Blocks are named by files and places because sources are numbered as they
are read, and a file that is read again has another number than before.

`Built` is an inductive relation and not a function. On a cycle there would be nothing for a
function to give, and the relation leaves the question open until it is known that there is none.
-/

namespace Docblock

/-! ## Lists that grow by what is new -/

section

variable {α β : Type} [DecidableEq α] [DecidableEq β]

/-- A list with those of another put to it that are not there yet. -/
def addNew (found new : List α) : List α :=
  new.foldl (fun done a => if done.contains a then done else done ++ [a]) found

theorem addBlocks_eq (found new : List BlockRef) : addBlocks found new = addNew found new := rfl

theorem addNew_cons (found : List α) (a : α) (rest : List α) :
    addNew found (a :: rest) = addNew (if a ∈ found then found else found ++ [a]) rest := by
  simp [addNew]

theorem addNew_singleton (found : List α) (a : α) :
    addNew found [a] = if a ∈ found then found else found ++ [a] := addNew_cons found a []

theorem addNew_append (found first second : List α) :
    addNew found (first ++ second) = addNew (addNew found first) second :=
  List.foldl_append

theorem mem_addNew {found new : List α} {a : α} : a ∈ addNew found new ↔ a ∈ found ∨ a ∈ new := by
  induction new generalizing found with
  | nil => simp [addNew]
  | cons b rest ih =>
    rw [addNew_cons, ih]
    split
    · rename_i hb
      constructor
      · rintro (h | h)
        · exact .inl h
        · exact .inr (List.mem_cons_of_mem _ h)
      · rintro (h | h)
        · exact .inl h
        · rcases List.mem_cons.1 h with rfl | h
          · exact .inl hb
          · exact .inr h
    · simp [or_assoc]

theorem nodup_addNew {found : List α} (h : found.Nodup) (new : List α) :
    (addNew found new).Nodup := by
  induction new generalizing found with
  | nil => exact h
  | cons a rest ih =>
    rw [addNew_cons]
    apply ih
    split
    · exact h
    · rename_i ha
      exact List.nodup_append.2 ⟨h, by simp, by
        intro b hb c hc
        rw [List.mem_singleton.1 hc]
        rintro rfl
        exact ha hb⟩

/-- The members of a list, each where it stands first. -/
def firsts (as : List α) : List α := addNew [] as

theorem mem_firsts {as : List α} {a : α} : a ∈ firsts as ↔ a ∈ as := by
  simp [firsts, mem_addNew]

theorem firsts_concat (as : List α) (a : α) :
    firsts (as ++ [a]) = if a ∈ as then firsts as else firsts as ++ [a] := by
  rw [firsts, addNew_append, addNew_singleton]
  exact if_congr mem_firsts rfl rfl

/-- A list in which nothing stands twice is the list of its members. -/
theorem firsts_of_nodup {as : List α} (h : as.Nodup) : firsts as = as := by
  induction as using List.reverseRecOn with
  | nil => rfl
  | append_singleton as a ih =>
    obtain ⟨hn, -, hd⟩ := List.nodup_append.1 h
    have ha : a ∉ as := fun hm => hd a hm a (by simp) rfl
    rw [firsts_concat, if_neg ha, ih hn]

/-- Members that are told apart stay apart. -/
theorem addNew_map {f : α → β} (inj : Function.Injective f) (found new : List α) :
    addNew (found.map f) (new.map f) = (addNew found new).map f := by
  induction new generalizing found with
  | nil => rfl
  | cons a rest ih =>
    rw [List.map_cons, addNew_cons, addNew_cons, ← ih]
    by_cases ha : a ∈ found
    · have image : f a ∈ found.map f := List.mem_map_of_mem ha
      rw [if_pos ha, if_pos image]
    · have image : f a ∉ found.map f := fun hm => ha ((List.mem_map_of_injective inj).1 hm)
      rw [if_neg ha, if_neg image, List.map_append, List.map_singleton]

/-- What stands twice in a list adds nothing the second time. -/
theorem addNew_firsts (found new : List α) : addNew found (firsts new) = addNew found new := by
  induction new using List.reverseRecOn with
  | nil => rfl
  | append_singleton new a ih =>
    rw [firsts_concat, addNew_append found new]
    by_cases ha : a ∈ new
    · have there : a ∈ addNew found new := mem_addNew.2 (.inr ha)
      rw [if_pos ha, ih, addNew_singleton, if_pos there]
    · rw [if_neg ha, addNew_append, ih]

/-- Renaming what a list grows by. -/
theorem firsts_map_addNew (f : α → β) (found new : List α) :
    firsts ((addNew found new).map f) = addNew (firsts (found.map f)) (new.map f) := by
  induction new generalizing found with
  | nil => rfl
  | cons a rest ih =>
    rw [addNew_cons, ih, List.map_cons, addNew_cons]
    by_cases ha : a ∈ found
    · have image : f a ∈ firsts (found.map f) := mem_firsts.2 (List.mem_map_of_mem ha)
      rw [if_pos ha, if_pos image]
    · rw [if_neg ha, List.map_append, List.map_singleton, firsts_concat]
      simp only [mem_firsts]

end

/-! ## What a source gives -/

/-- The places of the blocks with names as types. -/
def namedPlaces (blocks : List Block) : List Nat :=
  blocks.zipIdx.filterMap fun (block, place) =>
    if block.typedefTag?.isSome then some place else none

theorem mem_namedPlaces {blocks : List Block} {place : Nat} :
    place ∈ namedPlaces blocks ↔
      ∃ block, blocks[place]? = some block ∧ block.typedefTag?.isSome = true := by
  simp only [namedPlaces, List.mem_filterMap, Prod.exists, List.mem_zipIdx_iff_getElem?]
  constructor
  · rintro ⟨block, i, hb, h⟩
    split at h
    · cases h
      exact ⟨block, hb, by assumption⟩
    · cases h
  · rintro ⟨block, hb, named⟩
    exact ⟨block, place, hb, if_pos named⟩

namespace Import

/-- The places of the blocks of its own that a source gives to an import. -/
def own (blocks : List Block) : Import → List Nat
  | .effects _ => namedPlaces blocks
  | .names words _ =>
    (namedPlaces blocks).filter fun place =>
      blocks[place]?.any fun block => words.any (block.declares ·)

theorem mem_namedPlaces_of_own {blocks : List Block} {imp : Import} {place : Nat}
    (h : place ∈ imp.own blocks) : place ∈ namedPlaces blocks := by
  cases imp with
  | effects path => exact h
  | names names path => exact (List.mem_filter.1 h).1

/-- What a source has from others and passes on to an import. -/
def passed {α : Type} (ambient : List α) : Import → List α
  | .effects _ => ambient
  | .names _ _ => []

end Import

theorem Source.localRefs_eq (source : Source) (index : Nat) :
    source.localRefs index = (namedPlaces source.blocks).map (BlockRef.mk index) := by
  rw [Source.localRefs, namedPlaces, List.map_filterMap]
  congr 1
  funext entry
  dsimp only
  split <;> rfl

/-- A source gives blocks of its own, and then some of others. -/
theorem Library.offers_eq {library : Library} {index : Nat} {source : Source}
    (h : library.corpus.sources[index]? = some source) (imp : Import) :
    library.offers imp index =
      (imp.own source.blocks).map (BlockRef.mk index) ++ imp.passed source.ambient := by
  cases imp with
  | effects path =>
    simp only [offers, offered, h, Source.localRefs_eq, Import.own, Import.passed]
  | names names path =>
    simp only [offers, offeredAs, h, Source.localRefs_eq, Import.own, Import.passed,
      List.append_nil, List.filter_map]
    congr 1
    refine List.filter_congr fun place _ => ?_
    simp [Corpus.block?, h]

/-! ## Views -/

/-- A block by its file and its place there. -/
structure Site where
  file : String
  place : Nat
  deriving DecidableEq, Repr

/-- What a file has: its blocks, and the blocks of other files that it sees. -/
structure View where
  file : String
  blocks : List Block
  ambient : List Site
  imported : List Site

/-- The blocks that a file gives to an import of it. -/
def View.offers (view : View) (imp : Import) : List Site :=
  (imp.own view.blocks).map (Site.mk view.file) ++ imp.passed view.ambient

/-- The blocks that the imports of a file give, added to those found so far, where `shown` tells
the views of other files. -/
def gather (shown : String → View) (path : String) : List Import → List Site → List Site
  | [], found => found
  | imp :: rest, found =>
    match importTarget? (Path.folder path) imp.path with
    | none => gather shown path rest found
    | some target =>
      if target = path then gather shown path rest found
      else gather shown path rest (addNew found ((shown target).offers imp))

theorem gather_congr {shown other : String → View} {path : String} {imports : List Import}
    (same : ∀ imp ∈ imports, ∀ target, importTarget? (Path.folder path) imp.path = some target →
      target ≠ path → shown target = other target) (found : List Site) :
    gather shown path imports found = gather other path imports found := by
  induction imports generalizing found with
  | nil => rfl
  | cons imp rest ih =>
    have hrest := ih fun imp hm => same imp (List.mem_cons_of_mem _ hm)
    unfold gather
    split
    · exact hrest _
    · rename_i target ht
      split
      · exact hrest _
      · rename_i ne
        rw [same imp List.mem_cons_self target ht ne]
        exact hrest _

/-! ## The graph of imports -/

section

variable (settings : Settings) (storage : Storage)

/-- An import that a file makes, and the file it leads to. -/
def Makes (path : String) (imp : Import) (target : String) : Prop :=
  ∃ outline, Outline.ofFile settings storage path = .ok outline ∧ imp ∈ outline.imports ∧
    importTarget? (Path.folder path) imp.path = some target

/-- A file imports another. -/
def Imports (path target : String) : Prop := ∃ imp, Makes settings storage path imp target

/-- Imports lead from a file to another in any number of steps. -/
def LeadsTo : String → String → Prop := Relation.ReflTransGen (Imports settings storage)

/-- From a file on, no import leads back to where it was made, but for imports of a file by
itself. -/
def Acyclic (path : String) : Prop :=
  ∀ source target, LeadsTo settings storage path source →
    Imports settings storage source target → LeadsTo settings storage target source →
    target = source

/-- The view of a file, from the views of the files that it imports. -/
inductive Built : String → View → Prop
  | intro {path : String} {outline : Outline} (shown : String → View)
      (opened : Outline.ofFile settings storage path = .ok outline)
      (each : ∀ target, Imports settings storage path target → target ≠ path →
        Built target (shown target)) :
      Built path ⟨path, outline.blocks, gather shown path outline.effects [],
        gather shown path outline.names []⟩

end

variable {settings : Settings} {storage : Storage}

/-- The imports of a file are those in its outline. -/
theorem Imports.of_outline {path target : String} {outline : Outline}
    (h : Imports settings storage path target)
    (opened : Outline.ofFile settings storage path = .ok outline) :
    ∃ imp ∈ outline.imports, importTarget? (Path.folder path) imp.path = some target := by
  obtain ⟨imp, other, opened', hm, ht⟩ := h
  cases opened.symm.trans opened'
  exact ⟨imp, hm, ht⟩

/-- Imports that a file makes. -/
def MadeBy (settings : Settings) (storage : Storage) (path : String) (imports : List Import) :
    Prop :=
  ∀ imp ∈ imports, ∀ target, importTarget? (Path.folder path) imp.path = some target →
    Imports settings storage path target

theorem MadeBy.effects {path : String} {outline : Outline}
    (opened : Outline.ofFile settings storage path = .ok outline) :
    MadeBy settings storage path outline.effects :=
  fun imp hm _ ht => ⟨imp, outline, opened, List.mem_append_left _ hm, ht⟩

theorem MadeBy.names {path : String} {outline : Outline}
    (opened : Outline.ofFile settings storage path = .ok outline) :
    MadeBy settings storage path outline.names :=
  fun imp hm _ ht => ⟨imp, outline, opened, List.mem_append_right _ hm, ht⟩

theorem MadeBy.tail {path : String} {imp : Import} {rest : List Import}
    (h : MadeBy settings storage path (imp :: rest)) : MadeBy settings storage path rest :=
  fun other hm => h other (List.mem_cons_of_mem _ hm)

theorem Makes.imports {path target : String} {imp : Import}
    (h : Makes settings storage path imp target) : Imports settings storage path target := ⟨imp, h⟩

theorem Acyclic.leadsTo {path file : String} (h : Acyclic settings storage path)
    (hl : LeadsTo settings storage path file) : Acyclic settings storage file :=
  fun source target hs => h source target (hl.trans hs)

/-- What an import leads to is in normal form. -/
theorem normal_of_target {folder path target : String}
    (h : importTarget? folder path = some target) : ∃ raw, target = Path.normal raw := by
  unfold importTarget? at h
  split at h
  · exact ⟨_, (Option.some.inj h).symm⟩
  · cases h

/-- Files that are led to are in normal form. -/
theorem exists_normal {path file : String}
    (h : LeadsTo settings storage (Path.normal path) file) : ∃ raw, file = Path.normal raw := by
  rcases Relation.ReflTransGen.cases_tail h with same | ⟨source, -, imports⟩
  · exact ⟨path, same⟩
  · obtain ⟨imp, outline, -, -, ht⟩ := imports
    exact normal_of_target ht

/-- A file has at most one view. -/
theorem Built.unique {path : String} {view other : View} (h : Built settings storage path view)
    (h' : Built settings storage path other) : view = other := by
  induction h generalizing other with
  | @intro path outline shown opened _ ih =>
    obtain ⟨shown', opened', each'⟩ := h'
    cases opened.symm.trans opened'
    have same : ∀ imp ∈ outline.imports, ∀ target,
        importTarget? (Path.folder path) imp.path = some target → target ≠ path →
        shown target = shown' target := by
      intro imp hm target ht ne
      have makes : Imports settings storage path target := ⟨imp, outline, opened, hm, ht⟩
      exact ih target makes ne (each' target makes ne)
    have effects := gather_congr (fun imp hm => same imp (List.mem_append_left _ hm)) []
    have names := gather_congr (fun imp hm => same imp (List.mem_append_right _ hm)) []
    rw [effects, names]

end Docblock
