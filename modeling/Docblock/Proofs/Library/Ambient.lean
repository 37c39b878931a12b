import Docblock.Proofs.Library.Naming

/-!
# How far imports for effects are followed

The named blocks that a file sees through imports for their effects are those of all files that such
imports lead to, in any number of steps, as far as every file on the way has blocks itself
(`ambient_iff_draws`). A file without blocks passes nothing on, whatever it imports, so what lies
behind it is seen only if another way leads there.

The file itself is no part of what it sees, although an import of itself would be a way to it.
Longer ways back are left out by asking that no cycle is reached. Imports of names have no part in
this: they bring blocks of the file that they name, and nothing of what that file sees.
-/

namespace Docblock

open Library

section

variable (settings : Settings) (storage : Storage)

/-- A file names another in an import for its effects. -/
def ImportsEffects (path target : String) : Prop :=
  ∃ code, storage.read settings.encoding path = .ok code ∧ ∃ spec ∈ sideEffectImports code,
    importTarget? (Path.folder path) spec = some target

/-- A file can be opened and has a block. -/
def HasBlocks (path : String) : Prop :=
  ∃ outline, Outline.ofFile settings storage path = .ok outline ∧ outline.blocks ≠ []

/-- A file has a block and names another in an import for its effects. -/
def Draws (path target : String) : Prop :=
  HasBlocks settings storage path ∧ ImportsEffects settings storage path target

/-- There is a block with a name as a type at a place of a file. -/
def NamedAt (site : Site) : Prop :=
  ∃ block, blockAt? settings storage site = some block ∧ block.typedefTag?.isSome = true

end

variable {settings : Settings} {storage : Storage}

/-- The imports for effects that are followed are those that the source names. -/
theorem Outline.effects_of_opened {path : String} {outline : Outline}
    (opened : ofFile settings storage path = .ok outline) :
    ∃ code, storage.read settings.encoding path = .ok code ∧
      outline.effects = if settings.followImports && !outline.blocks.isEmpty then
        (sideEffectImports code).map .effects else [] := by
  obtain ⟨code, blocks, hcode, -, rfl⟩ := exists_source opened
  refine ⟨code, hcode, ?_⟩
  rw [blocks_ofSource, ofSource]
  split <;> rfl

theorem Outline.exists_spec {path : String} {outline : Outline} {imp : Import}
    (opened : ofFile settings storage path = .ok outline) (hm : imp ∈ outline.effects) :
    ∃ spec, imp = .effects spec := by
  obtain ⟨code, -, effects⟩ := effects_of_opened opened
  rw [effects] at hm
  split at hm
  · obtain ⟨spec, -, rfl⟩ := List.mem_map.1 hm
    exact ⟨spec, rfl⟩
  · cases hm

/-- Where imports are followed, a file with blocks imports what it names for its effects. -/
theorem draws_iff {path target : String} {outline : Outline} (follow : settings.followImports = true)
    (opened : Outline.ofFile settings storage path = .ok outline) :
    Draws settings storage path target ↔ ∃ imp ∈ outline.effects, (∃ spec, imp = .effects spec) ∧
      importTarget? (Path.folder path) imp.path = some target := by
  obtain ⟨code, hcode, effects⟩ := Outline.effects_of_opened opened
  have blocks : HasBlocks settings storage path ↔ outline.blocks ≠ [] := by
    simp [HasBlocks, opened]
  have names : ImportsEffects settings storage path target ↔
      ∃ spec ∈ sideEffectImports code, importTarget? (Path.folder path) spec = some target := by
    simp [ImportsEffects, hcode]
  rw [Draws, blocks, names, effects, follow]
  cases outline.blocks with
  | nil => simp
  | cons block rest => simp [Import.path]

theorem Draws.imports {path target : String} (follow : settings.followImports = true)
    (h : Draws settings storage path target) : Imports settings storage path target := by
  obtain ⟨outline, opened, -⟩ := h.1
  obtain ⟨imp, hm, -, ht⟩ := (draws_iff follow opened).1 h
  exact ⟨imp, outline, opened, List.mem_append_left _ hm, ht⟩

theorem leadsTo_of_draws {path file : String} (follow : settings.followImports = true)
    (h : Relation.TransGen (Draws settings storage) path file) :
    LeadsTo settings storage path file :=
  h.to_reflTransGen.lift id fun _ _ draws => draws.imports follow

/-- A way to another file leaves its first file for good by one step. -/
theorem exists_draws_of_ne {path file : String} (ne : file ≠ path)
    (h : Relation.TransGen (Draws settings storage) path file) :
    ∃ target, Draws settings storage path target ∧ target ≠ path ∧
      (file = target ∨ Relation.TransGen (Draws settings storage) target file) := by
  induction h using Relation.TransGen.head_induction_on with
  | single draws => exact ⟨file, draws, ne, .inl rfl⟩
  | @head first next draws rest ih =>
    by_cases same : next = first
    · subst same
      exact ih ne
    · exact ⟨next, draws, same, .inr rest⟩

/-! ## What a view has seen -/

/-- What imports give is given by one of them, by another file than the one that imports. -/
theorem mem_gather {shown : String → View} {path : String} {imports : List Import}
    {found : List Site} {site : Site} :
    site ∈ gather shown path imports found ↔ site ∈ found ∨ ∃ imp ∈ imports, ∃ target,
      importTarget? (Path.folder path) imp.path = some target ∧ target ≠ path ∧
        site ∈ (shown target).offers imp := by
  induction imports generalizing found with
  | nil => simp [gather]
  | cons imp rest ih =>
    rw [gather]
    cases ht : importTarget? (Path.folder path) imp.path with
    | none => simp [ih, ht]
    | some target =>
      dsimp only
      by_cases same : target = path
      · rw [if_pos same, ih]
        simp [ht, same]
      · rw [if_neg same, ih, mem_addNew]
        simp [ht, same, or_assoc]

/-- A file gives to an import for its effects its own named blocks, and those that it sees. -/
theorem View.mem_offers_effects {view : View} {spec : String} {site : Site} :
    site ∈ view.offers (.effects spec) ↔
      (site.file = view.file ∧ site.place ∈ namedPlaces view.blocks) ∨ site ∈ view.ambient := by
  obtain ⟨file, place⟩ := site
  simp [View.offers, Import.own, Import.passed, and_comm, eq_comm]

theorem namedAt_iff {site : Site} {outline : Outline}
    (opened : Outline.ofFile settings storage site.file = .ok outline) :
    NamedAt settings storage site ↔ site.place ∈ namedPlaces outline.blocks := by
  rw [NamedAt, blockAt?_of_opened opened, mem_namedPlaces]

/-- A file with a view can be opened, and has the blocks of the view. -/
theorem Built.exists_outline {path : String} {view : View}
    (built : Built settings storage path view) :
    view.file = path ∧ ∃ outline, Outline.ofFile settings storage path = .ok outline ∧
      view.blocks = outline.blocks := by
  obtain ⟨shown, opened, -⟩ := built
  exact ⟨rfl, _, opened, rfl⟩

/-- A view has seen the named blocks of all files that are drawn from its file, and no others. -/
theorem Built.mem_ambient_iff {path : String} {view : View}
    (built : Built settings storage path view) (follow : settings.followImports = true)
    (acyclic : Acyclic settings storage path) (site : Site) :
    site ∈ view.ambient ↔ site.file ≠ path ∧
      Relation.TransGen (Draws settings storage) path site.file ∧ NamedAt settings storage site := by
  induction built with
  | @intro path outline shown opened each ih =>
    -- What another file gives is its own, or what it was drawn from itself.
    have given : ∀ target spec, Draws settings storage path target → target ≠ path →
        (site ∈ (shown target).offers (.effects spec) ↔ NamedAt settings storage site ∧
          (site.file = target ∨ site.file ≠ target ∧
            Relation.TransGen (Draws settings storage) target site.file)) := by
      intro target spec draws ne
      have imports := draws.imports follow
      have from_target := ih target imports ne (acyclic.leadsTo (.single imports))
      obtain ⟨file, other, opened', blocks⟩ := (each target imports ne).exists_outline
      rw [View.mem_offers_effects, from_target, file, blocks]
      by_cases same : site.file = target
      · subst same
        simp [namedAt_iff opened']
      · simp [same, and_comm]
    dsimp only
    rw [mem_gather]
    constructor
    · rintro (none | ⟨imp, hm, target, ht, ne, offered⟩)
      · cases none
      obtain ⟨spec, rfl⟩ := Outline.exists_spec opened hm
      have draws := (draws_iff follow opened).2 ⟨_, hm, ⟨spec, rfl⟩, ht⟩
      obtain ⟨named, here | ⟨-, there⟩⟩ := (given target spec draws ne).1 offered
      · exact ⟨here ▸ ne, here ▸ .single draws, named⟩
      · refine ⟨fun same => ne ?_, .head draws there, named⟩
        rw [same] at there
        exact acyclic path target .refl (draws.imports follow) (leadsTo_of_draws follow there)
    · rintro ⟨ne, drawn, named⟩
      obtain ⟨target, draws, away, way⟩ := exists_draws_of_ne ne drawn
      obtain ⟨imp, hm, ⟨spec, rfl⟩, ht⟩ := (draws_iff follow opened).1 draws
      refine .inr ⟨_, hm, target, ht, away, (given target spec draws away).2 ⟨named, ?_⟩⟩
      by_cases same : site.file = target
      · exact .inl same
      · exact .inr ⟨same, way.resolve_left same⟩

/-! ## What a reading has seen -/

/-- Reading a file sees the named blocks of the files that it imports for their effects, and of
those that these import, as long as each file on the way has a block. It sees no others. -/
theorem ambient_iff_draws (settings : Settings) (storage : Storage) (actions : List Action)
    (path : String) (follow : settings.followImports = true)
    (readable : Readable settings storage (Path.normal path))
    (acyclic : Acyclic settings storage (Path.normal path)) :
    let reading :=
      (ofSession (actions.map (.mk settings storage))).read settings storage path
    ∃ index source, reading.outcome = .ok index ∧
      reading.library.corpus.sources[index]? = some source ∧
      ∀ site, (∃ ref ∈ source.ambient, reading.library.corpus.site? ref = some site) ↔
        site.file ≠ Path.normal path ∧
          Relation.TransGen (Draws settings storage) (Path.normal path) site.file ∧
          NamedAt settings storage site := by
  obtain ⟨index, hok⟩ :=
    (ofSession (actions.map (.mk settings storage))).exists_read_of_readable readable
  obtain ⟨view, source, built, covers⟩ :=
    (steady_of_session settings storage actions).covers_of_read acyclic hok
  refine ⟨index, source, hok, covers.found, fun site => ?_⟩
  rw [covers.mem_ambient, built.mem_ambient_iff follow acyclic]

/-! ## A file without blocks on the way -/

namespace Gap

open Docblock.Ring

/-- A file imports one without blocks, which imports a third. -/
def gap : Storage where
  entries := [
    ("x.js", .text "import './z.js'\n/** @typedef {number} Count */"),
    ("z.js", .text "import './y.js'"),
    ("y.js", .text "\n/** @typedef {number} Count */")]
  folders := none

theorem gap_x : Outline.ofFile .standard gap "x.js" =
    .ok ⟨[block "x.js"], [.effects "./z.js"], []⟩ :=
  @ofFile_eq gap "x.js" _ 16 ["./z.js"] (by cbv) (by cbv) (by cbv)

theorem gap_z : Outline.ofFile .standard gap "z.js" = .ok ⟨[], [], []⟩ := by
  have comments : Comment.ofSource "import './y.js'".toList = [] := by cbv
  have read : gap.read Settings.standard.encoding "z.js" = .ok "import './y.js'" := by cbv
  unfold Outline.ofFile
  simp only [read, Block.ofSource, comments, List.mapM_nil]
  rfl

theorem gap_y : Outline.ofFile .standard gap "y.js" = .ok ⟨[block "y.js"], [], []⟩ :=
  @ofFile_eq gap "y.js" _ 1 [] (by cbv) (by cbv) (by cbv)

theorem target_z : importTarget? (Path.folder "x.js") "./z.js" = some "z.js" := by decide

theorem not_imports_z (target : String) : ¬Imports .standard gap "z.js" target := by
  intro h
  obtain ⟨imp, hm, -⟩ := h.of_outline gap_z
  cases hm

theorem leadsTo_gap {file : String} (h : LeadsTo .standard gap "x.js" file) :
    file = "x.js" ∨ file = "z.js" := by
  induction h with
  | refl => exact .inl rfl
  | tail _ imports ih =>
    rcases ih with rfl | rfl
    · exact .inr ((imports_iff gap_x target_z).1 imports)
    · exact absurd imports (not_imports_z _)

theorem readable_gap : Readable .standard gap "x.js" := by
  intro file hl
  rcases leadsTo_gap hl with rfl | rfl
  · exact ⟨_, gap_x⟩
  · exact ⟨_, gap_z⟩

theorem acyclic_gap : Acyclic .standard gap "x.js" := by
  intro source target hs imports back
  rcases leadsTo_gap hs with rfl | rfl
  · rw [(imports_iff gap_x target_z).1 imports] at back ⊢
    rcases back.cases_head with same | ⟨next, imports', -⟩
    · exact same
    · exact absurd imports' (not_imports_z _)
  · exact absurd imports (not_imports_z _)

/-- What is drawn from the first file is the one without blocks, from which nothing is. -/
theorem drawn_gap {file : String} (h : Relation.TransGen (Draws .standard gap) "x.js" file) :
    file = "z.js" := by
  have follow : Settings.standard.followImports = true := rfl
  induction h with
  | single draws => exact (imports_iff gap_x target_z).1 (draws.imports follow)
  | tail _ draws ih =>
    rw [ih] at draws
    exact absurd (draws.imports follow) (not_imports_z _)

/-- The names of imports lead to the third file all the same. -/
theorem names_gap : Relation.TransGen (ImportsEffects .standard gap) "x.js" "y.js" := by
  have first : ImportsEffects .standard gap "x.js" "z.js" :=
    ⟨"import './z.js'\n/** @typedef {number} Count */", by cbv, "./z.js", by decide, target_z⟩
  have second : ImportsEffects .standard gap "z.js" "y.js" :=
    ⟨"import './y.js'", by cbv, "./y.js", by decide, by decide⟩
  exact .tail (.single first) second

theorem namedAt_y {storage : Storage}
    (opened : Outline.ofFile .standard storage "y.js" = .ok ⟨[block "y.js"], [], []⟩) :
    NamedAt .standard storage ⟨"y.js", 0⟩ :=
  ⟨block "y.js", by rw [blockAt?_of_opened opened]; rfl, rfl⟩

end Gap

/-- A file sees the block of a file that it imports, but not behind a file without blocks. -/
theorem ambient_iff_draws_gap :
    (∃ index source, (empty.read .standard Ring.chain "x.js").outcome = .ok index ∧
      (empty.read .standard Ring.chain "x.js").library.corpus.sources[index]? = some source ∧
      ∃ ref ∈ source.ambient,
        (empty.read .standard Ring.chain "x.js").library.corpus.site? ref = some ⟨"y.js", 0⟩) ∧
    Relation.TransGen (ImportsEffects .standard Gap.gap) "x.js" "y.js" ∧
    NamedAt .standard Gap.gap ⟨"y.js", 0⟩ ∧
    ∃ index source, (empty.read .standard Gap.gap "x.js").outcome = .ok index ∧
      (empty.read .standard Gap.gap "x.js").library.corpus.sources[index]? = some source ∧
      ¬∃ ref ∈ source.ambient,
        (empty.read .standard Gap.gap "x.js").library.corpus.site? ref = some ⟨"y.js", 0⟩ := by
  refine ⟨?_, Gap.names_gap, Gap.namedAt_y Gap.gap_y, ?_⟩
  · obtain ⟨view, built⟩ := built_chain
    obtain ⟨index, source, hok, found, seen⟩ := ambient_iff_draws .standard Ring.chain [] "x.js" rfl
      (Ring.normal_x ▸ built.readable) (Ring.normal_x ▸ Ring.acyclic_chain)
    have draws : Draws .standard Ring.chain "x.js" "y.js" :=
      (draws_iff rfl Ring.chain_x).2 ⟨_, List.mem_singleton_self _, ⟨_, rfl⟩, Ring.target_x⟩
    refine ⟨index, source, hok, found, (seen ⟨"y.js", 0⟩).2 ?_⟩
    rw [Ring.normal_x]
    exact ⟨by decide, .single draws, Gap.namedAt_y Ring.chain_y⟩
  · obtain ⟨index, source, hok, found, seen⟩ := ambient_iff_draws .standard Gap.gap [] "x.js" rfl
      (Ring.normal_x ▸ Gap.readable_gap) (Ring.normal_x ▸ Gap.acyclic_gap)
    refine ⟨index, source, hok, found, fun there => ?_⟩
    obtain ⟨-, drawn, -⟩ := (seen ⟨"y.js", 0⟩).1 there
    rw [Ring.normal_x] at drawn
    exact absurd (Gap.drawn_gap drawn) (by decide)

end Docblock
