import Docblock.Proofs.Library.Errand
import Docblock.Proofs.Library.View

/-!
# Errands end

The errand for a file ends as loading it does, with the same library and the same paths read, from
any library and whatever the files import (`Errand.outcome_of_load`). Where a fault breaks it off,
the files that are left unfinished are a chain of imports down to the one that could not be opened,
and none of them is known. Every file whose building was begun is known in the end, or is one of
these, so no file is read twice (`read_once`).

What is left is part of the statement from the beginning, and not a consequence of it. The desk of
an errand shows it, and that the desk is the same at every depth has to be proved along with the
rest. No file is read twice within one reading only: what was left unfinished is not known, so the
next reading begins it again.
-/

namespace Docblock

open Library

/-- The desk in a state of loading, with the files that are being built. -/
def LoadState.desk (s : LoadState) (underway : List String) : Desk := ⟨s.library, s.reads, underway⟩

/-- Files that are built one within the other, the last one first: this one cannot be opened, and
each of the others imports the one in front of it. -/
inductive Chain (settings : Settings) (storage : Storage) (fault : LoadFault) :
    String → List String → Prop
  | unopened {path : String} : Outline.ofFile settings storage path = .error fault →
      Chain settings storage fault path [path]
  | imports {path target : String} {files : List String} :
      Imports settings storage path target → Chain settings storage fault target files →
      Chain settings storage fault path (files ++ [path])

namespace Chain

variable {settings : Settings} {storage : Storage} {fault : LoadFault} {path : String}
variable {files : List String}

theorem mem (h : Chain settings storage fault path files) : path ∈ files := by
  cases h with
  | unopened => exact List.mem_singleton_self path
  | imports => exact List.mem_append_right _ (List.mem_singleton_self path)

theorem leadsTo (h : Chain settings storage fault path files) {file : String}
    (hm : file ∈ files) : LeadsTo settings storage path file := by
  induction h with
  | unopened =>
    rw [List.mem_singleton.1 hm]
    exact .refl
  | imports first _ ih =>
    rcases List.mem_append.1 hm with hm | hm
    · exact .head first (ih hm)
    · rw [List.mem_singleton.1 hm]
      exact .refl

theorem exists_unopened (h : Chain settings storage fault path files) :
    ∃ file ∈ files, Outline.ofFile settings storage file = .error fault := by
  induction h with
  | @unopened path unopened => exact ⟨path, List.mem_singleton_self path, unopened⟩
  | imports _ _ ih =>
    obtain ⟨file, hm, unopened⟩ := ih
    exact ⟨file, List.mem_append_left _ hm, unopened⟩

end Chain

/-! ## What a load leaves -/

/-- Paths that are read between two states: none of them twice, and none that was known or is being
read. Each is known afterwards, or is left. -/
structure Reads (visiting left : List String) (s s' : LoadState) (new : List String) : Prop where
  reads : s'.reads = s.reads ++ new
  nodup : new.Nodup
  fresh : ∀ file ∈ new, file ∉ visiting ∧ s.library.index? file = none
  known : ∀ file ∈ new, file ∈ left ∨ ∃ index, s'.library.index? file = some index

/-- What is left of the files that were begun: where there is a fault, files that are to blame for
it, and none where there is not. No file that is left is known. -/
structure Leaves {α : Type} (blame : LoadFault → List String → Prop) (visiting : List String)
    (s : LoadState) (outcome : Except LoadFault α) (s' : LoadState) (left : List String) :
    Prop where
  done : ∀ a, outcome = .ok a → left = []
  blamed : ∀ fault, outcome = .error fault → blame fault left
  unknown : ∀ file ∈ left, s'.library.index? file = none
  reads : ∃ new, Reads visiting left s s' new

/-- The files that are left when the imports of a file cannot be followed. -/
def ChainBelow (settings : Settings) (storage : Storage) (path : String) (fault : LoadFault)
    (left : List String) : Prop :=
  ∃ target, Imports settings storage path target ∧ Chain settings storage fault target left

section

variable {α β : Type} {blame : LoadFault → List String → Prop}
variable {settings : Settings} {storage : Storage} {visiting : List String} {path : String}
variable {s s₁ s' : LoadState} {left new : List String}

theorem leaves_ok (a : α) (visiting : List String) (s : LoadState) :
    Leaves blame visiting s (.ok a) s [] where
  done _ _ := rfl
  blamed _ heq := by cases heq
  unknown _ hm := by cases hm
  reads := ⟨[], by simp, .nil, nofun, nofun⟩

/-- What was read first is known when more is read, so nothing is read again. -/
theorem Reads.append {more : List String} (first : Reads visiting [] s s₁ new)
    (grown : Grown visiting s.library s₁.library) (next : Reads visiting left s₁ s' more)
    (grown' : Grown visiting s₁.library s'.library) : Reads visiting left s s' (new ++ more) where
  reads := by rw [next.reads, first.reads, List.append_assoc]
  nodup := by
    refine List.nodup_append.2 ⟨first.nodup, next.nodup, fun file hf other hm same => ?_⟩
    subst same
    obtain none | ⟨index, known⟩ := first.known file hf
    · cases none
    · cases (next.fresh file hm).2.symm.trans known
  fresh file hm := by
    rcases List.mem_append.1 hm with hm | hm
    · exact first.fresh file hm
    · obtain ⟨away, unknown⟩ := next.fresh file hm
      refine ⟨away, Option.eq_none_iff_forall_not_mem.2 fun index known => ?_⟩
      cases unknown.symm.trans (grown.known known)
  known file hm := by
    rcases List.mem_append.1 hm with hm | hm
    · obtain none | ⟨index, known⟩ := first.known file hm
      · cases none
      · exact .inr ⟨index, grown'.known known⟩
    · exact next.known file hm

/-- Steps that end well leave nothing, so the next ones leave what they leave by themselves. -/
theorem Leaves.after {other : LoadFault → List String → Prop} {a : α} {done : List String}
    {outcome : Except LoadFault β} (first : Leaves other visiting s (.ok a) s₁ done)
    (grown : Grown visiting s.library s₁.library)
    (next : Leaves blame visiting s₁ outcome s' left)
    (grown' : Grown visiting s₁.library s'.library) : Leaves blame visiting s outcome s' left where
  done := next.done
  blamed := next.blamed
  unknown := next.unknown
  reads := by
    obtain rfl := first.done a rfl
    obtain ⟨new, reads⟩ := first.reads
    obtain ⟨more, reads'⟩ := next.reads
    exact ⟨new ++ more, reads.append grown reads' grown'⟩

/-- A file is read before what it imports. Afterwards it is left or known like the others. -/
theorem Reads.cons {last : List String} {after : LoadState} (fresh : path ∉ visiting)
    (unknown : s.library.index? path = none)
    (inside : Reads (path :: visiting) left (s.noted path) s' new) (reads : after.reads = s'.reads)
    (known : ∀ file, file = path ∨ file ∈ left ∨ (∃ index, s'.library.index? file = some index) →
      file ∈ last ∨ ∃ index, after.library.index? file = some index) :
    Reads visiting last s after (path :: new) where
  reads := by rw [reads, inside.reads, LoadState.noted, List.append_assoc, List.singleton_append]
  nodup := List.nodup_cons.2
    ⟨fun hm => (inside.fresh path hm).1 List.mem_cons_self, inside.nodup⟩
  fresh file hm := by
    rcases List.mem_cons.1 hm with rfl | hm
    · exact ⟨fresh, unknown⟩
    · obtain ⟨away, other⟩ := inside.fresh file hm
      exact ⟨fun hv => away (List.mem_cons_of_mem _ hv), other⟩
  known file hm := by
    rcases List.mem_cons.1 hm with rfl | hm
    · exact known file (.inl rfl)
    · exact known file (.inr (inside.known file hm))

/-- A file that cannot be opened is left. -/
theorem leaves_broken {fault : LoadFault} (fresh : path ∉ visiting)
    (unknown : s.library.index? path = none)
    (broken : Outline.ofFile settings storage path = .error fault) :
    Leaves (α := α) (Chain settings storage · path ·) visiting s (.error fault) (s.noted path)
      [path] where
  done _ heq := by cases heq
  blamed _ heq := by
    cases heq
    exact .unopened broken
  unknown file hm := by
    rw [List.mem_singleton.1 hm]
    exact unknown
  reads := ⟨[path], by simp [LoadState.noted], by simp, by simp [fresh, unknown], by simp⟩

/-- A file whose imports cannot be followed is left behind those that are left of them. -/
theorem Leaves.within {fault : LoadFault} (fresh : path ∉ visiting)
    (unknown : s.library.index? path = none)
    (h : Leaves (α := β) (ChainBelow settings storage path) (path :: visiting) (s.noted path)
      (.error fault) s' left)
    (grown : Grown (path :: visiting) (s.noted path).library s'.library) :
    Leaves (α := α) (Chain settings storage · path ·) visiting s (.error fault) s'
      (left ++ [path]) where
  done _ heq := by cases heq
  blamed _ heq := by
    cases heq
    obtain ⟨target, imports, chain⟩ := h.blamed fault rfl
    exact .imports imports chain
  unknown file hm := by
    rcases List.mem_append.1 hm with hm | hm
    · exact h.unknown file hm
    · rw [List.mem_singleton.1 hm]
      exact grown.closed List.mem_cons_self unknown
  reads := by
    obtain ⟨new, inside⟩ := h.reads
    refine ⟨path :: new, inside.cons fresh unknown rfl fun file => ?_⟩
    rintro (rfl | below | known)
    · exact .inl (by simp)
    · exact .inl (List.mem_append_left _ below)
    · exact .inr known

/-- A file whose imports were followed is taken in, and nothing is left. -/
theorem Leaves.finished {a : α} {b : β} {blocks : List Block} {ambient imported : List BlockRef}
    (fresh : path ∉ visiting) (unknown : s.library.index? path = none)
    (h : Leaves (ChainBelow settings storage path) (path :: visiting) (s.noted path) (.ok a) s'
      left) (open_still : s'.library.index? path = none) :
    Leaves blame visiting s (.ok b) (s'.finished ⟨path, blocks, ambient, imported⟩) [] := by
  have add : Grown [] s'.library (s'.library.add path ⟨path, blocks, ambient, imported⟩) :=
    .add _ (by simp) open_still
  obtain ⟨new, inside⟩ := h.reads
  refine ⟨fun _ _ => rfl, nofun, nofun, path :: new, inside.cons fresh unknown rfl fun file => ?_⟩
  rintro (rfl | below | ⟨index, known⟩)
  · exact .inr ⟨_, index?_add_self open_still⟩
  · rw [h.done a rfl] at below
    cases below
  · exact .inr ⟨index, add.known known⟩

end

/-! ## Loading, carried out -/

open Storage

theorem errand_rule (settings : Settings) (storage : Storage) : LoadRule settings storage
    (fun visiting path s outcome s' => path ∉ visiting → ∃ left,
      (∀ underway, (storage.fetch settings visiting path).outcome (s.desk underway) =
        some (outcome, s'.desk (left ++ underway))) ∧
      Leaves (Chain settings storage · path ·) visiting s outcome s' left)
    (fun visiting path imports found s outcome s' => MadeBy settings storage path imports → ∃ left,
      (∀ underway, (storage.through settings (path :: visiting) (Path.folder path) imports
        found).outcome (s.desk underway) = some (outcome, s'.desk (left ++ underway))) ∧
      Leaves (ChainBelow settings storage path) (path :: visiting) s outcome s' left) where
  known known _ := ⟨[], fun underway => outcome_fetch_of_known known, leaves_ok _ _ _⟩
  broken {visiting path s fault} unknown broken fresh := by
    refine ⟨[path], fun underway => ?_, leaves_broken fresh unknown broken⟩
    exact outcome_fetch_of_error unknown (outcome_build_of_unopened broken)
  ambientFault {visiting path s s' outline fault} _ unknown opened ra ha fresh := by
    obtain ⟨left, runs, leaves⟩ := ha (.effects opened)
    refine ⟨left ++ [path], fun underway => ?_, leaves.within fresh unknown (grown_of_walk ra)⟩
    rw [List.append_assoc]
    exact outcome_fetch_of_error unknown (outcome_build_of_effects opened (runs (path :: underway)))
  importedFault {visiting path s s₁ s' outline ambient fault} _ unknown opened ra ri ha hi
      fresh := by
    obtain ⟨done, effects, first⟩ := ha (.effects opened)
    obtain ⟨left, runs, leaves⟩ := hi (.names opened)
    obtain rfl := first.done ambient rfl
    have grown := grown_of_walk ra
    have grown' := grown_of_walk ri
    -- The first list ended well and left nothing, so what is left comes from the second.
    have both := first.after grown leaves grown'
    refine ⟨left ++ [path], fun underway => ?_, both.within fresh unknown (grown.trans grown')⟩
    rw [List.append_assoc]
    exact outcome_fetch_of_error unknown
      (outcome_build_of_names opened (effects (path :: underway)) (runs (path :: underway)))
  done {visiting path s s₁ s₂ outline ambient imported} fresh unknown opened ra ri ha hi _ := by
    obtain ⟨done, effects, first⟩ := ha (.effects opened)
    obtain ⟨left, names, leaves⟩ := hi (.names opened)
    obtain rfl := first.done ambient rfl
    obtain rfl := leaves.done imported rfl
    have grown := grown_of_walk ra
    have grown' := grown_of_walk ri
    have open_still := (grown.trans grown').closed List.mem_cons_self unknown
    have both := first.after grown leaves grown'
    refine ⟨[], fun underway => ?_, both.finished fresh unknown open_still⟩
    exact outcome_fetch_of_built unknown
      (outcome_build_of_through opened (effects (path :: underway)) (names (path :: underway)))
      open_still
  nil _ := ⟨[], fun _ => rfl, leaves_ok _ _ _⟩
  skip {visiting path s s' imp rest found outcome} visited hrest made := by
    obtain ⟨left, runs, leaves⟩ := hrest made.tail
    refine ⟨left, fun underway => ?_, leaves⟩
    rw [outcome_through_of_visited visited, runs]
  fault {visiting path target s s' imp rest found fault} fresh ht _ hfile made := by
    obtain ⟨left, runs, leaves⟩ := hfile fresh
    refine ⟨left, fun underway => outcome_through_of_error ht fresh (runs underway), ?_⟩
    exact { leaves with
      done := nofun
      blamed := fun other heq => ⟨target, made imp List.mem_cons_self target ht, by
        cases heq
        exact leaves.blamed fault rfl⟩ }
  next {visiting path target s s₁ s' imp rest found index outcome} fresh ht rf rr hfile hrest
      made := by
    obtain ⟨done, given, first⟩ := hfile fresh
    obtain ⟨left, runs, leaves⟩ := hrest made.tail
    refine ⟨left, fun underway => ?_, first.after (grown_of_load rf) leaves (grown_of_walk rr)⟩
    rw [outcome_through_of_file ht fresh (given underway), first.done index rfl]
    exact runs underway

/-- Loading a file can be carried out, and leaves a chain of files, or none. -/
theorem Errand.outcome_of_load {settings : Settings} {storage : Storage} {visiting : List String}
    {path : String} {fresh : path ∉ visiting} {s s' : LoadState} {outcome : Except LoadFault Nat}
    (h : (load settings storage visiting path fresh).Ends s outcome s') :
    ∃ left, (∀ underway, (storage.fetch settings visiting path).outcome (s.desk underway) =
        some (outcome, s'.desk (left ++ underway))) ∧
      Leaves (Chain settings storage · path ·) visiting s outcome s' left :=
  (errand_rule settings storage).holds fresh h fresh

/-! ## Reading ends, and reads no file twice -/

section

variable {settings : Settings} {storage : Storage}

/-- What is read between two states is a file or led to from it. -/
def Reached (settings : Settings) (storage : Storage) (path : String) (s s' : LoadState) : Prop :=
  ∀ file ∈ s'.reads, file ∈ s.reads ∨ LeadsTo settings storage path file

theorem reached_refl (path : String) (s : LoadState) : Reached settings storage path s s :=
  fun _ hr => .inl hr

theorem Reached.trans {path : String} {s s₁ s' : LoadState}
    (first : Reached settings storage path s s₁) (next : Reached settings storage path s₁ s') :
    Reached settings storage path s s' := by
  intro file hr
  rcases next file hr with before | reached
  · exact first file before
  · exact .inr reached

theorem Reached.imports {path target : String} {s s' : LoadState}
    (h : Reached settings storage target s s') (imports : Imports settings storage path target) :
    Reached settings storage path s s' :=
  fun file hr => (h file hr).imp_right (.head imports)

theorem reached_noted (path : String) (s : LoadState) :
    Reached settings storage path s (s.noted path) := by
  intro file hr
  rcases List.mem_append.1 hr with old | here
  · exact .inl old
  · exact .inr (List.mem_singleton.1 here ▸ .refl)

/-- Only files that imports lead to are read. -/
theorem reached_rule (settings : Settings) (storage : Storage) : LoadRule settings storage
    (fun _ path s _ s' => Reached settings storage path s s')
    (fun _ path imports _ s _ s' => MadeBy settings storage path imports →
      Reached settings storage path s s') where
  known _ := reached_refl _ _
  broken _ _ := reached_noted _ _
  ambientFault _ _ opened _ ha := (reached_noted _ _).trans (ha (.effects opened))
  importedFault _ _ opened _ _ ha hi :=
    ((reached_noted _ _).trans (ha (.effects opened))).trans (hi (.names opened))
  done _ _ opened _ _ ha hi :=
    ((reached_noted _ _).trans (ha (.effects opened))).trans (hi (.names opened))
  nil _ := reached_refl _ _
  skip _ hrest made := hrest made.tail
  fault _ ht _ hfile made := hfile.imports (made _ List.mem_cons_self _ ht)
  next _ ht _ _ hfile hrest made :=
    (hfile.imports (made _ List.mem_cons_self _ ht)).trans (hrest made.tail)

end

namespace Library

variable {library : Library} {settings : Settings} {storage : Storage} {path : String}

/-- Reading a file can be carried out, and leaves a chain of files, or none. -/
theorem exists_errand (library : Library) (settings : Settings) (storage : Storage)
    (path : String) :
    let reading := library.read settings storage path
    ∃ left, (storage.fetch settings [] (Path.normal path)).outcome ⟨library, [], []⟩ =
        some (reading.outcome, ⟨reading.library, reading.reads, left⟩) ∧
      Leaves (Chain settings storage · (Path.normal path) ·) [] ⟨library, []⟩ reading.outcome
        ⟨reading.library, reading.reads⟩ left := by
  obtain ⟨left, runs, leaves⟩ := Errand.outcome_of_load (library.read_ends settings storage path)
  refine ⟨left, (runs []).trans ?_, leaves⟩
  rw [List.append_nil]
  rfl

/-- What an errand comes to is what reading does. -/
theorem read_of_errand {outcome : Except LoadFault Nat} {desk : Desk}
    (h : (storage.fetch settings [] (Path.normal path)).outcome ⟨library, [], []⟩ =
      some (outcome, desk)) :
    library.read settings storage path = ⟨outcome, desk.library, desk.reads⟩ := by
  obtain ⟨left, runs, -⟩ := library.exists_errand settings storage path
  cases h.symm.trans runs
  rfl

/-- Reading a file ends, whatever is known and however files import each other. Each file is read
once at most, under its path in normal form, and none that was known. When reading ends well, all
that was read is known. -/
theorem read_once (library : Library) (settings : Settings) (storage : Storage) (path : String) :
    ∃ outcome desk, (storage.fetch settings [] (Path.normal path)).outcome ⟨library, [], []⟩ =
        some (outcome, desk) ∧
      library.read settings storage path = ⟨outcome, desk.library, desk.reads⟩ ∧
      desk.reads.Nodup ∧
      (∀ file ∈ desk.reads, (∃ raw, file = Path.normal raw) ∧ library.index? file = none) ∧
      ((∃ index, outcome = .ok index) →
        ∀ file ∈ desk.reads, ∃ index, desk.library.index? file = some index) := by
  obtain ⟨left, runs, leaves⟩ := library.exists_errand settings storage path
  obtain ⟨new, reads, nodup, fresh, known⟩ := leaves.reads
  obtain rfl : (library.read settings storage path).reads = new := reads
  refine ⟨_, _, runs, rfl, nodup, fun file hr => ⟨?_, (fresh file hr).2⟩, ?_⟩
  · have ends := library.read_ends settings storage path
    rcases (reached_rule settings storage).holds _ ends file hr with none | reached
    · cases none
    · exact exists_normal reached
  · rintro ⟨index, hok⟩ file hr
    obtain rfl := leaves.done index hok
    exact (known file hr).resolve_left List.not_mem_nil

end Library

end Docblock
