import Docblock.Block.Basic
import Docblock.Remaining

/-!
# Sources and the names they see

All sources that have been read, in the order in which they were finished. A source sees the names
of its own blocks, then those of the sources that it imports for their effects, then those that it
imports by name. A registry lists the sources whose names are seen, and the first block with a name
is the one that is meant.

Blocks are named by the number of their source and their place in it, and sources are never taken
out, so a name of this kind means the same for good. It is not known here which file a source was
read from last. That is kept by a library.
-/

namespace Docblock

/-- A block by its source and its place there. -/
structure BlockRef where
  source : Nat
  place : Nat
  deriving DecidableEq, Repr

/-- A source that has been read: its blocks, and the blocks of other sources that it sees. -/
structure Source where
  file : String
  blocks : List Block
  ambient : List BlockRef
  imported : List BlockRef
  deriving Repr

/-- A block that gives itself this name as a type. -/
def Block.declares (name : String) (block : Block) : Bool :=
  block.typedefTag?.any (·.name == name)

namespace Source

/-- The blocks of a source that have names as types. -/
def localRefs (source : Source) (index : Nat) : List BlockRef :=
  source.blocks.zipIdx.filterMap fun (block, place) =>
    if block.typedefTag?.isSome then some ⟨index, place⟩ else none

end Source

/-- All sources that have been read. -/
structure Corpus where
  sources : List Source
  deriving Repr

/-- The sources whose names are seen, in order. -/
abbrev Registry := List Nat

namespace Corpus

/-- The block that a reference means. -/
def block? (corpus : Corpus) (ref : BlockRef) : Option Block := do
  let source ← corpus.sources[ref.source]?
  source.blocks[ref.place]?

/-- References to all blocks. -/
def refs (corpus : Corpus) : List BlockRef :=
  corpus.sources.zipIdx.flatMap fun (source, index) =>
    (List.range source.blocks.length).map fun place => ⟨index, place⟩

/-- The named blocks that a source sees. -/
def seenBy (corpus : Corpus) (index : Nat) : List BlockRef :=
  match corpus.sources[index]? with
  | none => []
  | some source => source.localRefs index ++ source.ambient ++ source.imported

/-- The block that a name means. -/
def resolve (corpus : Corpus) (registry : Registry) (name : String) : Option BlockRef :=
  (registry.flatMap corpus.seenBy).find? fun ref => (corpus.block? ref).any (Block.declares name)

theorem mem_refs {corpus : Corpus} {ref : BlockRef} {block : Block}
    (h : corpus.block? ref = some block) : ref ∈ corpus.refs := by
  simp only [block?, Option.bind_eq_bind, Option.bind_eq_some_iff] at h
  obtain ⟨source, hs, hb⟩ := h
  refine List.mem_flatMap.2 ⟨(source, ref.source), ?_, ?_⟩
  · exact List.mem_zipIdx_iff_getElem?.2 hs
  · have := (List.getElem?_eq_some_iff.1 hb).1
    exact List.mem_map.2 ⟨ref.place, List.mem_range.2 this, rfl⟩

/-- How many blocks are not among the given ones. -/
def countOpen (corpus : Corpus) (closed : List BlockRef) : Nat :=
  countRemaining corpus.refs closed

/-- One block fewer is open when a block is closed that was not. -/
theorem countOpen_cons_lt {corpus : Corpus} {closed : List BlockRef} {ref : BlockRef}
    {block : Block} (h : corpus.block? ref = some block) (hc : ref ∉ closed) :
    corpus.countOpen (ref :: closed) < corpus.countOpen closed :=
  countRemaining_cons_lt (mem_refs h) hc

end Corpus

end Docblock
