import Docblock.Proofs.Library.Ambient
import Docblock.Proofs.Library.Readers

/-!
# When users of one library disturb each other

Reading in a shared library gives a user the blocks that reading alone would give exactly when every
view that a choice of readers among the users can give to the file sees what each user's own view
sees (`undisturbed_iff`). A known file is not read again, whoever asks for it: users that open all
files alike do not notice (`undisturbed_of_alike`), but one that follows no imports takes from the
others what they would have seen (`not_undisturbed_of_unfollowed`).

What is seen is compared as two sets of sites, without the order in which blocks were found. Names
can depend on that order as well, so being undisturbed does not yet say that every name means the
same. Nothing is asked where the shared reading fails. Where it ends well, so must the reading
alone, and a file that one user could not open by itself disturbs that user too.
-/

namespace Docblock

open Library

/-! ## What is seen -/

/-- The blocks that a source sees through imports for their effects, and those that it sees through
imports of names. -/
def Library.sees (library : Library) (index : Nat) : Finset Site × Finset Site :=
  match library.corpus.sources[index]? with
  | none => (∅, ∅)
  | some source =>
    ((source.ambient.filterMap library.corpus.site?).toFinset,
      (source.imported.filterMap library.corpus.site?).toFinset)

/-- The blocks that a view has seen, in the same way. -/
def View.sees (view : View) : Finset Site × Finset Site :=
  (view.ambient.toFinset, view.imported.toFinset)

theorem Library.Covers.sees {library : Library} {index : Nat} {view : View} {source : Source}
    (h : library.Covers index view source) : library.sees index = view.sees := by
  rw [Library.sees, h.found]
  refine Prod.ext (Finset.ext fun site => ?_) (Finset.ext fun site => ?_)
  · simpa [View.sees] using h.mem_ambient site
  · simpa [View.sees] using h.mem_imported site

section

variable {users : List Settings} {storage : Storage} {path : String}

/-- However the users have shared a library, a user to whom it gives a file sees there what the user
would see without the others. -/
def Undisturbed (users : List Settings) (storage : Storage) (path : String) : Prop :=
  ∀ library, Shared users storage library → ∀ settings ∈ users, ∀ index,
    (library.read settings storage path).outcome = .ok index →
    ∃ alone, (empty.read settings storage path).outcome = .ok alone ∧
      (library.read settings storage path).library.sees index =
        (empty.read settings storage path).library.sees alone

/-! ## Alone and together -/

/-- Reading a file alone gives it the view that is its own. -/
theorem sees_alone {settings : Settings} {index : Nat}
    (acyclic : Acyclic settings storage (Path.normal path))
    (hok : (empty.read settings storage path).outcome = .ok index) :
    ∃ view, Built settings storage (Path.normal path) view ∧
      (empty.read settings storage path).library.sees index = view.sees := by
  have ends := empty.read_ends settings storage path
  rw [hok] at ends
  obtain ⟨view, source, built, covers⟩ :=
    ((regular_empty settings storage).read path).sighted _ index (index?_of_load ends) acyclic
  exact ⟨view, built, covers.sees⟩

/-- A file with a view is read alone, and sees what the view has seen. -/
theorem Built.exists_alone {settings : Settings} {view : View}
    (built : Built settings storage (Path.normal path) view)
    (acyclic : Acyclic settings storage (Path.normal path)) :
    ∃ alone, (empty.read settings storage path).outcome = .ok alone ∧
      (empty.read settings storage path).library.sees alone = view.sees := by
  obtain ⟨alone, s, ends⟩ := @Readable.load _ _ [] _ built.readable (by simp) ⟨empty, []⟩
  obtain ⟨hok, -⟩ := (empty.read_ends settings storage path).unique ends
  obtain ⟨own, built', sees⟩ := sees_alone acyclic hok
  cases built.unique built'
  exact ⟨alone, hok, sees⟩

/-- What a user reads in a shared library has been read by some of the users. -/
theorem Shared.exists_readers {library : Library} {settings : Settings} {index : Nat}
    (shared : Shared users storage library) (member : settings ∈ users)
    (acyclic : AcyclicAmong users storage (Path.normal path))
    (hok : (library.read settings storage path).outcome = .ok index) :
    ∃ readers view, (∀ file other, readers file = some other → other ∈ users) ∧
      BuiltBy readers storage (Path.normal path) view ∧
      (library.read settings storage path).library.sees index = view.sees := by
  obtain ⟨readers, readBy⟩ := Docblock.exists_readers shared
  obtain ⟨more, readBy⟩ := readBy.read member path
  have ends := library.read_ends settings storage path
  rw [hok] at ends
  obtain ⟨view, source, built, covers⟩ := readBy.views (index?_of_load ends) acyclic
  exact ⟨more, view, fun _ _ => readBy.member, built, covers.sees⟩

/-- What some of the users give a file, all of them find in a library that they share. -/
theorem BuiltBy.exists_shared {readers : Readers} {view : View}
    (built : BuiltBy readers storage (Path.normal path) view)
    (members : ∀ file other, readers file = some other → other ∈ users) :
    ∃ library index, Shared users storage library ∧ ∀ settings,
      (library.read settings storage path).outcome = .ok index ∧
        (library.read settings storage path).library.sees index = view.sees := by
  obtain ⟨library, shared, faithful, -, index, known⟩ :=
    built.prepares members ⟨path, rfl⟩ empty .empty (faithful_empty readers storage)
  obtain ⟨view', source, built', covers⟩ := faithful _ index known
  cases built.unique built'
  refine ⟨library, index, shared, fun settings => ?_⟩
  rw [read_of_ends rfl (load_of_known known)]
  exact ⟨rfl, covers.sees⟩

end

/-! ## Users that follow no imports -/

section

variable {users : List Settings} {storage : Storage} {settings : Settings} {path : String}

/-- A file has no imports for a user that follows none. -/
theorem Outline.imports_of_unfollowed {outline : Outline}
    (unfollowed : settings.followImports = false)
    (opened : ofFile settings storage path = .ok outline) :
    outline.effects = [] ∧ outline.names = [] := by
  obtain ⟨code, blocks, -, -, rfl⟩ := exists_source opened
  simp [ofSource, unfollowed]

theorem not_imports_of_unfollowed {target : String} (unfollowed : settings.followImports = false) :
    ¬Imports settings storage path target := by
  rintro ⟨imp, outline, opened, hm, -⟩
  obtain ⟨effects, names⟩ := Outline.imports_of_unfollowed unfollowed opened
  simp [Outline.imports, effects, names] at hm

/-- Users that follow no imports make no cycles. -/
theorem Acyclic.among (acyclic : Acyclic settings storage path)
    (others : ∀ other ∈ users, other = settings ∨ other.followImports = false) :
    AcyclicAmong users storage path := by
  have followed : ∀ source target, ImportsAmong users storage source target →
      Imports settings storage source target := by
    rintro source target ⟨other, member, imports⟩
    rcases others other member with rfl | unfollowed
    · exact imports
    · exact absurd imports (not_imports_of_unfollowed unfollowed)
  intro source target hs imports back
  exact acyclic source target (hs.lift id followed) (followed _ _ imports) (back.lift id followed)

/-- A file that was read by a user that follows no imports sees nothing. -/
theorem exists_builtBy_of_unfollowed {readers : Readers} {outline : Outline}
    (reader : readers path = some settings) (unfollowed : settings.followImports = false)
    (opened : Outline.ofFile settings storage path = .ok outline) :
    ∃ view, BuiltBy readers storage path view ∧ view.sees = (∅, ∅) := by
  obtain ⟨effects, names⟩ := Outline.imports_of_unfollowed unfollowed opened
  refine ⟨_, .intro (fun _ => ⟨path, [], [], []⟩) reader opened fun imp hm => ?_, ?_⟩
  · simp [Outline.imports, effects, names] at hm
  · simp [View.sees, effects, names, gather]

/-- A file that can be opened can be opened by all that read it with the same encoding. -/
theorem Outline.exists_of_encoding {other : Settings} {outline : Outline}
    (encoding : other.encoding = settings.encoding)
    (opened : ofFile settings storage path = .ok outline) :
    ∃ outline, ofFile other storage path = .ok outline := by
  obtain ⟨code, blocks, hcode, parsed, -⟩ := exists_source opened
  simp only [ofFile, encoding, hcode, parsed]
  exact ⟨_, rfl⟩

/-- A user that follows no imports disturbs every other to whom the file shows something. -/
theorem not_undisturbed_of_unfollowed {plain : Settings} {own : View}
    (unfollowed : plain.followImports = false) (plain_member : plain ∈ users)
    (encoding : plain.encoding = settings.encoding) (member : settings ∈ users)
    (acyclic : Acyclic settings storage (Path.normal path))
    (built : Built settings storage (Path.normal path) own) (sees : own.sees ≠ (∅, ∅)) :
    ¬Undisturbed users storage path := by
  intro undisturbed
  obtain ⟨file, outline, opened, -⟩ := built.exists_outline
  obtain ⟨_, opened⟩ := Outline.exists_of_encoding encoding opened
  obtain ⟨view, built_view, nothing⟩ :=
    @exists_builtBy_of_unfollowed _ _ _ (fun _ => some plain) _ rfl unfollowed opened
  have members : ∀ file other, (fun _ : String => some plain) file = some other → other ∈ users := by
    rintro file other ⟨⟩
    exact plain_member
  obtain ⟨library, index, shared, there⟩ := built_view.exists_shared members
  obtain ⟨hok, sees_shared⟩ := there settings
  obtain ⟨alone, halone, same⟩ := undisturbed library shared settings member index hok
  obtain ⟨other, built_other, sees_other⟩ := sees_alone acyclic halone
  cases built.unique built_other
  exact sees (sees_other.symm.trans (same.symm.trans (sees_shared.trans nothing)))

/-! ## Users that open files alike -/

/-- How strictly values are checked plays no part in opening a file. -/
theorem Outline.ofFile_congr {other : Settings} (encoding : settings.encoding = other.encoding)
    (follow : settings.followImports = other.followImports) (storage : Storage) (path : String) :
    ofFile settings storage path = ofFile other storage path := by
  simp only [ofFile, ofSource, encoding, follow]

/-- A view that was given by users that open files alike is the own view of each. -/
theorem BuiltBy.built {readers : Readers} {view : View} (h : BuiltBy readers storage path view)
    (alike : ∀ file other, readers file = some other →
      Outline.ofFile other storage file = Outline.ofFile settings storage file) :
    Built settings storage path view := by
  induction h with
  | intro shown reader opened _ ih =>
    rw [alike _ _ reader] at opened
    refine .intro shown opened fun target imports ne => ?_
    obtain ⟨imp, hm, ht⟩ := imports.of_outline opened
    exact ih imp hm target ht ne

/-- Users that differ in nothing but how strictly they check do not disturb each other. -/
theorem undisturbed_of_alike
    (alike : ∀ settings ∈ users, ∀ other ∈ users, settings.encoding = other.encoding ∧
      settings.followImports = other.followImports)
    (acyclic : AcyclicAmong users storage (Path.normal path)) :
    Undisturbed users storage path := by
  intro library shared settings member index hok
  obtain ⟨readers, view, members, built, sees⟩ := shared.exists_readers member acyclic hok
  have own : Built settings storage (Path.normal path) view := by
    refine built.built fun file other reader => ?_
    obtain ⟨encoding, follow⟩ := alike other (members file other reader) settings member
    exact Outline.ofFile_congr encoding follow storage file
  obtain ⟨alone, halone, sees_own⟩ := own.exists_alone (acyclic.acyclic member)
  exact ⟨alone, halone, sees.trans sees_own.symm⟩

end

/-! ## All users -/

/-- Users do not disturb each other at a file exactly when, whoever of them reads it and the files
that it leads to, it sees what it would see if any one of them had read them all. -/
theorem undisturbed_iff (users : List Settings) (storage : Storage) (path : String)
    (acyclic : AcyclicAmong users storage (Path.normal path)) :
    Undisturbed users storage path ↔
      ∀ readers view, (∀ file other, readers file = some other → other ∈ users) →
        BuiltBy readers storage (Path.normal path) view →
        ∀ settings ∈ users, ∃ own, Built settings storage (Path.normal path) own ∧
          view.sees = own.sees := by
  constructor
  · intro undisturbed readers view members built settings member
    obtain ⟨library, index, shared, there⟩ := built.exists_shared members
    obtain ⟨hok, sees⟩ := there settings
    obtain ⟨alone, halone, same⟩ := undisturbed library shared settings member index hok
    obtain ⟨own, built_own, sees_own⟩ := sees_alone (acyclic.acyclic member) halone
    exact ⟨own, built_own, sees.symm.trans (same.trans sees_own)⟩
  · intro alike library shared settings member index hok
    obtain ⟨readers, view, members, built, sees⟩ := shared.exists_readers member acyclic hok
    obtain ⟨own, built_own, same⟩ := alike readers view members built settings member
    obtain ⟨alone, halone, sees_own⟩ := built_own.exists_alone (acyclic.acyclic member)
    exact ⟨alone, halone, sees.trans (same.trans sees_own.symm)⟩

/-- One of two users reads a file without its imports, and the other then misses what these give. -/
theorem undisturbed_iff_unfollowed :
    AcyclicAmong [⟨"utf-8", false, false⟩, .standard] Ring.chain (Path.normal "x.js") ∧
      ¬Undisturbed [⟨"utf-8", false, false⟩, .standard] Ring.chain "x.js" := by
  have acyclic : AcyclicAmong [⟨"utf-8", false, false⟩, .standard] Ring.chain "x.js" :=
    Ring.acyclic_chain.among (by simp)
  have encoding : (⟨"utf-8", false, false⟩ : Settings).encoding = Settings.standard.encoding := rfl
  obtain ⟨_, opened⟩ := Outline.exists_of_encoding encoding Ring.chain_x
  have alike := (undisturbed_iff _ _ "x.js" (Ring.normal_x ▸ acyclic)).1
  rw [Ring.normal_x] at alike ⊢
  refine ⟨acyclic, fun undisturbed => ?_⟩
  obtain ⟨view, built, nothing⟩ :=
    @exists_builtBy_of_unfollowed _ _ _ (fun _ => some ⟨"utf-8", false, false⟩) _ rfl rfl opened
  obtain ⟨own, built_own, same⟩ := alike undisturbed _ view (by simp) built .standard (by simp)
  have seen : Site.mk "y.js" 0 ∈ own.ambient := by
    refine (built_own.mem_ambient_iff rfl Ring.acyclic_chain _).2 ⟨by decide, .single ?_, ?_⟩
    · exact (draws_iff rfl Ring.chain_x).2 ⟨_, List.mem_singleton_self _, ⟨_, rfl⟩, Ring.target_x⟩
    · exact Gap.namedAt_y Ring.chain_y
  have empty : own.ambient.toFinset = ∅ := congrArg Prod.fst (same.symm.trans nothing)
  rw [List.toFinset_eq_empty_iff] at empty
  rw [empty] at seen
  cases seen

end Docblock
