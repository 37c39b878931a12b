import Docblock.Proofs.Library.Sighted

/-!
# All that imports lead to

When every file that imports lead to can be opened, reading ends well, and afterwards all these
files are known. What a file imports gives it blocks, unless the file that is imported is still
being read.

Cycles are no exception to the first half, which is why it is apart from what is said of views: a
cycle costs blocks, but no file. In the second half the exception is the file that is being read,
and only a library that is entered from outside has none (`Closed.leadsTo`).
-/

namespace Docblock

open Library

variable {settings : Settings} {storage : Storage}

/-- Every file that imports lead to can be opened. -/
def Readable (settings : Settings) (storage : Storage) (path : String) : Prop :=
  ∀ file, LeadsTo settings storage path file →
    ∃ outline, Outline.ofFile settings storage file = .ok outline

theorem Readable.step {path target : String} (h : Readable settings storage path)
    (hi : Imports settings storage path target) : Readable settings storage target :=
  fun file hl => h file (.head hi hl)

/-- Whatever a file with a view leads to has a view. -/
theorem Built.leadsTo {path file : String} {view : View} (h : Built settings storage path view)
    (hl : LeadsTo settings storage path file) : ∃ view, Built settings storage file view := by
  induction hl with
  | refl => exact ⟨view, h⟩
  | @tail file target _ imports ih =>
    obtain ⟨view, hb⟩ := ih
    by_cases same : target = file
    · subst same
      exact ⟨view, hb⟩
    · obtain ⟨shown, opened, each⟩ := hb
      exact ⟨shown target, each target imports same⟩

/-- A file with a view is readable. -/
theorem Built.readable {path : String} {view : View} (h : Built settings storage path view) :
    Readable settings storage path := by
  intro file hl
  obtain ⟨view, hb⟩ := h.leadsTo hl
  obtain ⟨shown, opened, -⟩ := hb
  exact ⟨_, opened⟩

/-! ## Reading ends well -/

theorem readable_rule (settings : Settings) (storage : Storage) : LoadRule settings storage
    (fun _ path _ outcome _ => Readable settings storage path → ∃ index, outcome = .ok index)
    (fun _ path imports _ _ outcome _ => Readable settings storage path →
      MadeBy settings storage path imports → ∃ out, outcome = .ok out) where
  known _ _ := ⟨_, rfl⟩
  broken _ broken readable := by
    obtain ⟨outline, opened⟩ := readable _ .refl
    cases broken.symm.trans opened
  ambientFault _ _ opened _ ha readable := by
    obtain ⟨out, heq⟩ := ha readable (.effects opened)
    cases heq
  importedFault _ _ opened _ _ _ hi readable := by
    obtain ⟨out, heq⟩ := hi readable (.names opened)
    cases heq
  done _ _ _ _ _ _ _ _ := ⟨_, rfl⟩
  nil _ _ := ⟨_, rfl⟩
  skip _ hrest readable made := hrest readable made.tail
  fault _ ht _ hfile readable made := by
    obtain ⟨index, heq⟩ := hfile (readable.step (made _ List.mem_cons_self _ ht))
    cases heq
  next _ _ _ _ _ hrest readable made := hrest readable made.tail

/-- Loading a readable file ends well. -/
theorem Readable.load {visiting : List String} {path : String} (h : Readable settings storage path)
    (fresh : path ∉ visiting) (s : LoadState) :
    ∃ index s', (load settings storage visiting path fresh).Ends s (.ok index) s' := by
  obtain ⟨outcome, s', ends⟩ := (Docblock.load settings storage visiting path fresh).exists_ends s
  obtain ⟨index, rfl⟩ := (readable_rule settings storage).holds fresh ends h
  exact ⟨index, s', ends⟩

/-! ## What was read is known -/

/-- What known files import is known, but for the files that are being read. -/
def Closed (settings : Settings) (storage : Storage) (visiting : List String)
    (library : Library) : Prop :=
  ∀ file index, library.index? file = some index → ∀ target, Imports settings storage file target →
    target ∈ visiting ∨ ∃ index, library.index? target = some index

/-- A file whose imports are known or still being read is taken in. -/
theorem Closed.add {visiting : List String} {path : String} {library : Library} (source : Source)
    (closed : Closed settings storage (path :: visiting) library)
    (unknown : library.index? path = none)
    (targets : ∀ target, Imports settings storage path target →
      target ∈ path :: visiting ∨ ∃ index, library.index? target = some index) :
    Closed settings storage visiting (library.add path source) := by
  have add : Grown [] library (library.add path source) := .add _ (by simp) unknown
  -- What was open or known before is open or known now; the file itself is known now.
  have settle : ∀ target,
      (target ∈ path :: visiting ∨ ∃ index, library.index? target = some index) →
      target ∈ visiting ∨ ∃ index, (library.add path source).index? target = some index := by
    rintro target (hv | ⟨index, known⟩)
    · rcases List.mem_cons.1 hv with rfl | hv
      · exact .inr ⟨_, index?_add_self unknown⟩
      · exact .inl hv
    · exact .inr ⟨index, add.known known⟩
  intro file index hk target imports
  by_cases same : file = path
  · subst same
    exact settle target (targets target imports)
  · rw [index?_add_of_ne same] at hk
    exact settle target (closed file index hk target imports)

theorem targets_rule (settings : Settings) (storage : Storage) : LoadRule settings storage
    (fun _ _ _ _ _ => True)
    (fun visiting path imports _ _ outcome s' => ∀ out, outcome = .ok out →
      ∀ imp ∈ imports, ∀ target, importTarget? (Path.folder path) imp.path = some target →
        target ∈ path :: visiting ∨ ∃ index, s'.library.index? target = some index) where
  known _ := trivial
  broken _ _ := trivial
  ambientFault _ _ _ _ _ := trivial
  importedFault _ _ _ _ _ _ _ := trivial
  done _ _ _ _ _ _ _ := trivial
  nil _ _ imp hm := by cases hm
  skip visited hrest out heq other hm target ht := by
    rcases List.mem_cons.1 hm with rfl | hm
    · exact .inl (visited target ht)
    · exact hrest out heq other hm target ht
  fault _ _ _ _ _ heq := by cases heq
  next {visiting path target s s₁ s' imp rest found index outcome} _ ht rf rr _ hrest out heq other
      hm target' ht' := by
    rcases List.mem_cons.1 hm with rfl | hm
    · cases ht.symm.trans ht'
      exact .inr ⟨index, (grown_of_walk rr).known (index?_of_load rf)⟩
    · exact hrest out heq other hm target' ht'

/-- Imports of a file lead to known files once they were followed, but for those that are being
read. -/
theorem targets_of_load {visiting : List String} {path target : String} {outline : Outline}
    {ambient imported : List BlockRef} {s s₁ s₂ : LoadState}
    (opened : Outline.ofFile settings storage path = .ok outline)
    (effects : (loadThrough settings storage visiting path outline.effects []).Ends s (.ok ambient)
      s₁)
    (names : (loadThrough settings storage visiting path outline.names []).Ends s₁ (.ok imported)
      s₂) (imports : Imports settings storage path target) :
    target ∈ path :: visiting ∨ ∃ index, s₂.library.index? target = some index := by
  obtain ⟨imp, hm, ht⟩ := imports.of_outline opened
  rcases List.mem_append.1 hm with hm | hm
  · rcases (targets_rule settings storage).walks effects ambient rfl imp hm target ht with
      hv | ⟨index, known⟩
    · exact .inl hv
    · exact .inr ⟨index, (grown_of_walk names).known known⟩
  · exact (targets_rule settings storage).walks names imported rfl imp hm target ht

theorem closed_rule (settings : Settings) (storage : Storage) : LoadRule settings storage
    (fun visiting _ s outcome s' => Closed settings storage visiting s.library →
      ∀ index, outcome = .ok index → Closed settings storage visiting s'.library)
    (fun visiting path _ _ s outcome s' => Closed settings storage (path :: visiting) s.library →
      ∀ out, outcome = .ok out → Closed settings storage (path :: visiting) s'.library) where
  known _ closed _ _ := closed
  broken _ _ _ _ heq := by cases heq
  ambientFault _ _ _ _ _ _ _ heq := by cases heq
  importedFault _ _ _ _ _ _ _ _ _ heq := by cases heq
  done {visiting path s s₁ s₂ outline ambient imported} fresh unknown opened ra ri ha hi closed
      index _ := by
    have more : Closed settings storage (path :: visiting) s.library := by
      intro file index hk target imports
      rcases closed file index hk target imports with hv | known
      · exact .inl (List.mem_cons_of_mem _ hv)
      · exact .inr known
    have closed₂ := hi (ha more ambient rfl) imported rfl
    have unknown₂ := ((grown_of_walk ra).trans (grown_of_walk ri)).closed List.mem_cons_self unknown
    exact closed₂.add _ unknown₂ fun target imports => targets_of_load opened ra ri imports
  nil closed _ _ := closed
  skip _ hrest := hrest
  fault _ _ _ _ _ _ heq := by cases heq
  next _ _ _ _ hfile hrest closed := hrest (hfile closed _ rfl)

theorem closed_empty (visiting : List String) : Closed settings storage visiting empty := by
  intro file index h
  cases h

/-- Everything that a known file leads to is known. -/
theorem Closed.leadsTo {library : Library} (h : Closed settings storage [] library)
    {path file : String} {index : Nat} (known : library.index? path = some index)
    (hl : LeadsTo settings storage path file) : ∃ index, library.index? file = some index := by
  induction hl with
  | refl => exact ⟨index, known⟩
  | tail _ imports ih =>
    obtain ⟨index, known⟩ := ih
    rcases h _ index known _ imports with hv | known
    · cases hv
    · exact known

/-! ## What imports give -/

/-- Imports give the blocks of the files that they lead to, but for files that are being read. -/
theorem own_rule (settings : Settings) (storage : Storage) : LoadRule settings storage
    (fun _ _ _ _ _ => True)
    (fun visiting path imports found s outcome s' => Sound settings storage s.library →
      ∀ out, outcome = .ok out → (∀ ref ∈ found, ref ∈ out) ∧
        ∀ imp ∈ imports, ∀ target, importTarget? (Path.folder path) imp.path = some target →
          target ∉ path :: visiting → ∃ index outline,
            s'.library.index? target = some index ∧
            Outline.ofFile settings storage target = .ok outline ∧
            ∀ place ∈ imp.own outline.blocks, BlockRef.mk index place ∈ out) where
  known _ := trivial
  broken _ _ := trivial
  ambientFault _ _ _ _ _ := trivial
  importedFault _ _ _ _ _ _ _ := trivial
  done _ _ _ _ _ _ _ := trivial
  nil _ out heq := by
    cases heq
    exact ⟨fun ref hr => hr, fun imp hm => by cases hm⟩
  skip {visiting path s s' imp rest found outcome} visited hrest sound out heq := by
    obtain ⟨kept, given⟩ := hrest sound out heq
    refine ⟨kept, fun other hm target ht fresh => ?_⟩
    rcases List.mem_cons.1 hm with rfl | hm
    · exact absurd (visited target ht) fresh
    · exact given other hm target ht fresh
  fault _ _ _ _ _ _ heq := by cases heq
  next {visiting path target s s₁ s' imp rest found index outcome} fresh ht rf rr _ hrest sound
      out heq := by
    have sound₁ := sound_of_load rf sound
    obtain ⟨kept, given⟩ := hrest sound₁ out heq
    refine ⟨fun ref hr => kept ref (mem_addNew.2 (.inl hr)), fun other hm target' ht' fresh' => ?_⟩
    rcases List.mem_cons.1 hm with rfl | hm
    · cases ht.symm.trans ht'
      -- The blocks are found when the import is followed, and what is found is kept to the end.
      obtain ⟨source, outline, hs, -, opened, blocks⟩ := sound₁.known (index?_of_load rf)
      refine ⟨index, outline, (grown_of_walk rr).known (index?_of_load rf), opened,
        fun place hp => ?_⟩
      refine kept _ (mem_addNew.2 (.inr ?_))
      rw [offers_eq hs, blocks]
      exact List.mem_append_left _ (List.mem_map_of_mem hp)
    · exact given other hm target' ht' fresh'

/-- Following an import of a file that is not being read gives the blocks of its own that the
file has for the import. -/
theorem mem_of_walk {visiting : List String} {path target : String} {imports : List Import}
    {s s' : LoadState} {out : List BlockRef} {imp : Import} {outline : Outline} {place : Nat}
    (h : (loadThrough settings storage visiting path imports []).Ends s (.ok out) s')
    (sound : Sound settings storage s.library) (hm : imp ∈ imports)
    (ht : importTarget? (Path.folder path) imp.path = some target)
    (fresh : target ∉ path :: visiting)
    (opened : Outline.ofFile settings storage target = .ok outline)
    (own : place ∈ imp.own outline.blocks) :
    ∃ index, s'.library.index? target = some index ∧ BlockRef.mk index place ∈ out := by
  obtain ⟨-, given⟩ := (own_rule settings storage).walks h sound out rfl
  obtain ⟨index, outline', known, opened', all⟩ := given imp hm target ht fresh
  cases opened.symm.trans opened'
  exact ⟨index, known, all place own⟩

end Docblock
