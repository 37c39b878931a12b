import Docblock.Proofs.Block.Located
import Docblock.Proofs.Block.Typed
import Docblock.Proofs.Outcome
import Docblock.Proofs.Schema.Reading
import Mathlib

/-!
# The block of a line

The code on a line is declared by a block that ends on the line above, or by one that stands on the
line alone and gives a type (`Block.Declares`). The search for it stops at the first block that ends
below the line. The blocks of a source end in order, so none that comes later declares the line, and
the search gives the last block of all that does (`Block.indexForLine?_ofSource`).

The order is a property of sources and not of lists of blocks, and without it the search would not
be right. It comes from the places of the comments. Everything else is shown of any list of blocks
that end in order (`Block.findLine_cases`).

Any line may be asked for, a negative one too. A block declares the line below it even where the
source ends before that line.
-/

namespace Docblock

open Text

/-- The last place in a list whose member has a property. -/
structure LastPlace {α : Type} (p : α → Prop) (as : List α) (place : Nat) : Prop where
  holds : ∃ a, as[place]? = some a ∧ p a
  last : ∀ later a, place < later → as[later]? = some a → ¬p a

namespace LastPlace

variable {α : Type} {p : α → Prop} {a : α} {as : List α} {place : Nat}

/-- A member in front makes no difference where there is a last place. -/
theorem cons (h : LastPlace p as place) (a : α) : LastPlace p (a :: as) (place + 1) where
  holds := h.holds
  last later b behind member := by
    obtain ⟨rest, rfl⟩ : ∃ rest, later = rest + 1 := ⟨later - 1, by omega⟩
    exact h.last rest b (by omega) member

theorem head (here : p a) (none : ∀ b ∈ as, ¬p b) : LastPlace p (a :: as) 0 where
  holds := ⟨a, rfl, here⟩
  last later b behind member := by
    obtain ⟨rest, rfl⟩ : ∃ rest, later = rest + 1 := ⟨later - 1, by omega⟩
    exact none b (List.mem_of_getElem? member)

theorem unique {other : Nat} (h : LastPlace p as place) (h' : LastPlace p as other) :
    place = other := by
  obtain ⟨a, member, has⟩ := h.holds
  obtain ⟨b, member', has'⟩ := h'.holds
  rcases Nat.lt_trichotomy place other with before | same | behind
  · exact absurd has' (h.last other b before member')
  · exact same
  · exact absurd has (h'.last place a behind member)

theorem exists_mem (h : LastPlace p as place) : ∃ a ∈ as, p a := by
  obtain ⟨a, member, has⟩ := h.holds
  exact ⟨a, List.mem_of_getElem? member, has⟩

end LastPlace

namespace Block

variable {block : Block} {blocks rest : List Block} {line : Int}

/-- A block declares the code on a line: it ends on the line above, or it stands on that line alone
and gives a type. -/
def Declares (line : Int) (block : Block) : Prop :=
  (block.endLine : Int) = line - 1 ∨
    ((block.startLine : Int) = line ∧ (block.endLine : Int) = line ∧
      block.elements.type.isSome = true)

instance (line : Int) (block : Block) : Decidable (block.Declares line) :=
  inferInstanceAs (Decidable (_ ∨ _))

/-! ## The search -/

/-- Among blocks that do not end below the line, those that speak of it are those that declare
it. -/
theorem coversLine_iff (upright : block.startLine ≤ block.endLine)
    (above : (block.endLine : Int) ≤ line) : block.coversLine line = true ↔ block.Declares line := by
  rw [coversLine, Bool.or_eq_true, Bool.and_eq_true, beq_iff_eq, beq_iff_eq, Declares]
  constructor
  · rintro (next | ⟨starts, typed⟩)
    · exact .inl (by omega)
    · exact .inr ⟨by omega, by omega, typed⟩
  · rintro (next | ⟨starts, -, typed⟩)
    · exact .inl (by omega)
    · exact .inr ⟨starts.symm, typed⟩

/-- A block that ends below the line does not declare it. -/
theorem not_declares_of_lt (below : line < block.endLine) : ¬block.Declares line := by
  rintro (next | ⟨-, ends, -⟩) <;> omega

/-- Behind a block that ends below the line, no block declares it. -/
theorem not_declares_of_ordered (below : line < block.endLine)
    (ordered : ∀ later ∈ rest, block.endLine ≤ later.endLine) :
    ∀ later ∈ block :: rest, ¬later.Declares line := by
  intro later found
  rcases List.mem_cons.1 found with rfl | found
  · exact not_declares_of_lt below
  · have := ordered later found
    exact not_declares_of_lt (by omega)

/-- The search through blocks that end in order gives the last that declares the line, or what was
found before where none does. -/
theorem findLine_cases (upright : ∀ block ∈ blocks, block.startLine ≤ block.endLine)
    (ordered : blocks.Pairwise (·.endLine ≤ ·.endLine)) (place : Nat) (found : Option Nat) :
    (∃ n, LastPlace (Declares line) blocks n ∧
      findLine line place found blocks = some (place + n)) ∨
    ((∀ block ∈ blocks, ¬block.Declares line) ∧ findLine line place found blocks = found) := by
  induction blocks generalizing place found with
  | nil => exact .inr ⟨by simp, rfl⟩
  | cons block rest ih =>
    obtain ⟨after, ordered⟩ := List.pairwise_cons.1 ordered
    obtain ⟨here, upright⟩ := List.forall_mem_cons.1 upright
    rw [findLine]
    split
    · rename_i below
      exact .inr ⟨not_declares_of_ordered below after, rfl⟩
    · rename_i above
      have speaks := coversLine_iff here (Int.not_lt.1 above)
      rcases ih upright ordered (place + 1) (if block.coversLine line then some place else found)
        with ⟨n, last, search⟩ | ⟨none, search⟩
      · exact .inl ⟨n + 1, last.cons block, by rw [search, Nat.add_right_comm, Nat.add_assoc]⟩
      · rw [search]
        by_cases declares : block.Declares line
        · rw [if_pos (speaks.2 declares)]
          exact .inl ⟨0, .head declares none, rfl⟩
        · rw [if_neg (mt speaks.1 declares)]
          exact .inr ⟨List.forall_mem_cons.2 ⟨declares, none⟩, rfl⟩

/-! ## The blocks of a source -/

/-- A block stands on the lines of the comment that it is read from. -/
theorem lines_of_ofComment {file : String} {comment : Comment}
    (made : ofComment file comment = .ok block) :
    block.startLine = comment.startLine ∧ block.endLine = comment.endLine := by
  unfold ofComment at made
  split at made
  · cases made
    exact ⟨rfl, rfl⟩
  · cases made

section

variable {file code : String} (read : ofSource file code = .ok blocks)

include read

theorem ordered_of_ofSource : blocks.Pairwise (·.endLine ≤ ·.endLine) := by
  have same : blocks.map (·.endLine) = (Comment.ofSource code.toList).map (·.endLine) :=
    map_of_mapM (fun _ _ made => (lines_of_ofComment made).2) read
  have ordered := List.pairwise_map.2 (Comment.ordered_ofSource code.toList)
  rw [← same] at ordered
  exact List.pairwise_map.1 ordered

theorem startLine_le_of_ofSource (found : block ∈ blocks) : block.startLine ≤ block.endLine := by
  obtain ⟨comment, hc, made⟩ := exists_of_mem_mapM read found
  obtain ⟨starts, ends⟩ := lines_of_ofComment made
  rw [starts, ends]
  exact (Comment.located_of_mem hc).startLine_le

/-- The search among the blocks of a source gives the last block that declares the code on the line,
and none just where no block does. -/
theorem indexForLine?_ofSource (line : Int) :
    (∀ place, indexForLine? blocks line = some place ↔ LastPlace (Declares line) blocks place) ∧
    (indexForLine? blocks line = none ↔ ∀ block ∈ blocks, ¬block.Declares line) := by
  have upright : ∀ block ∈ blocks, block.startLine ≤ block.endLine :=
    fun _ => startLine_le_of_ofSource read
  unfold indexForLine?
  rcases findLine_cases upright (ordered_of_ofSource read) 0 none with
    ⟨n, last, search⟩ | ⟨none, search⟩
  · rw [Nat.zero_add] at search
    obtain ⟨block, found, declares⟩ := last.exists_mem
    refine ⟨fun place => ?_, ?_⟩
    · rw [search, Option.some.injEq]
      exact ⟨fun same => same ▸ last, fun other => last.unique other⟩
    · rw [search]
      exact ⟨nofun, fun none => absurd declares (none block found)⟩
  · refine ⟨fun place => ?_, ?_⟩
    · rw [search]
      refine ⟨nofun, fun last => ?_⟩
      obtain ⟨block, found, declares⟩ := last.exists_mem
      exact absurd declares (none block found)
    · rw [search]
      exact ⟨fun _ => none, fun _ => rfl⟩

end

end Block

/-! ### A type beside the code -/

namespace Beside

def code : String := "/** a */\n/** @type {T} */ x\n/** b */ y"

/-- The block of a comment that only describes. -/
def describing (text : String) (line : Nat) (follower : String) : Block where
  elements := ⟨text, ⟨false, false⟩, false, none, none, none, none, none, none, [], [], []⟩
  file := ""
  startLine := line
  endLine := line
  follower := follower

def typing : Block := ⟨.typing (.typing ['T'] [.named "T" "T"]), "", 2, 2, "x"⟩

def blocks : List Block := [describing "a" 1 "", typing, describing "b" 3 "y"]

theorem ofLines_typed : Elements.ofLines [typed ['T']] = .ok typing.elements := by
  have read : TypeExpr.read ['T'] = .ok [.named "T" "T"] := by
    rw [TypeExpr.read_of_form (by cbv) (by cbv)]
    cbv
  have solid : isBlank 'T' = false := rfl
  have tight : Tight ['T'] := ⟨by simp [solid], by simp [solid]⟩
  have balanced : Balanced ['T'] := .cons rfl .nil
  exact Elements.ofLines_typed (by simp) balanced tight rfl read

theorem ofSource_code : Block.ofSource "" code = .ok blocks := by
  have comments : Comment.ofSource code.toList = [⟨"/** a */", 0, 1, 1, ""⟩,
      ⟨"/** @type {T} */", 9, 2, 2, "x"⟩, ⟨"/** b */", 28, 3, 3, "y"⟩] := by cbv
  have a : Elements.ofLines [['a']] = .ok (describing "a" 1 "").elements := rfl
  have b : Elements.ofLines [['b']] = .ok (describing "b" 3 "y").elements := rfl
  have first : Block.ofComment "" ⟨"/** a */", 0, 1, 1, ""⟩ = .ok (describing "a" 1 "") :=
    Block.ofComment_of_elements "" (by cbv) a
  have second : Block.ofComment "" ⟨"/** @type {T} */", 9, 2, 2, "x"⟩ = .ok typing :=
    Block.ofComment_of_elements "" (by cbv) ofLines_typed
  have third : Block.ofComment "" ⟨"/** b */", 28, 3, 3, "y"⟩ = .ok (describing "b" 3 "y") :=
    Block.ofComment_of_elements "" (by cbv) b
  rw [Block.ofSource, comments]
  exact mapM_cons_eq_ok first (mapM_cons_eq_ok second (mapM_cons_eq_ok third List.mapM_nil))

theorem lastPlace : LastPlace (Block.Declares 2) blocks 1 :=
  .cons (.head (by decide) (by decide)) _

end Beside

/-- Of two blocks that declare the code on a line the later one is found, behind which the search
stops. No block is found for a line far below. -/
theorem Block.indexForLine?_ofSource_beside : ofSource "" Beside.code = .ok Beside.blocks ∧
    (Declares 2 (Beside.describing "a" 1 "") ∧ Declares 2 Beside.typing) ∧
    indexForLine? Beside.blocks 2 = some 1 ∧ indexForLine? Beside.blocks 9 = none := by
  refine ⟨Beside.ofSource_code, by decide, ?_, ?_⟩
  · exact ((indexForLine?_ofSource Beside.ofSource_code 2).1 1).2 Beside.lastPlace
  · exact (indexForLine?_ofSource Beside.ofSource_code 9).2.2 (by decide)

end Docblock
