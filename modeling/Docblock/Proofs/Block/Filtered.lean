import Docblock.Block.Basic
import Docblock.Proofs.Schema.Filtered

/-!
# Blocks with allowed filters

What a block has of a kind of tag is what the occurrences of that kind make, if the tag is looked
for (`slot_of_ofLines`). So every tag of a block was read from a text (`isRead_of_ofSource`), and it
has filters that are allowed for its types, and types whose fields have such filters
(`filtered_of_ofSource`). An import has no types, so nothing is said of what follows it.

Between the reading of a tag and the block there are only a choice of the last occurrence, the
leaving out of owners and the numbering of places. Each keeps everything that matters here, so the
property is shown of a text once and carried along (`Tag.IsRead`).

This is the only door through which filters come to be checked. Every theorem about checks of what
was read from a source starts with it, and none looks at the source again.
-/

namespace Docblock

/-- A tag with allowed filters, and types of fields with such. -/
structure Tag.Filtered (tag : Tag) : Prop where
  allowed : Allowed tag.types tag.filters
  types : ∀ type ∈ tag.types, type.Filtered

namespace Tag

theorem filtered_of_ofText {kind : TagKind} {cs : List Char} {tag : Tag}
    (h : ofText kind cs = .ok tag) : tag.Filtered := by
  unfold ofText at h
  dsimp only at h
  split at h
  · -- The braces of an import hold no type.
    obtain ⟨_, ⟨⟩, h⟩ := bind_eq_ok.1 h
    obtain ⟨⟨description, filters⟩, htail, h⟩ := bind_eq_ok.1 h
    rw [pure_eq_ok] at h
    subst h
    exact ⟨Filter.allowed_of_ofTail htail, by simp⟩
  · obtain ⟨types, hread, h⟩ := bind_eq_ok.1 h
    obtain ⟨⟨description, filters⟩, htail, h⟩ := bind_eq_ok.1 h
    rw [pure_eq_ok] at h
    subst h
    exact ⟨Filter.allowed_of_ofTail htail, TypeExpr.filtered_of_read hread⟩

/-- A tag that was read from a text. Its place may have been changed since. -/
def IsRead (tag : Tag) : Prop :=
  ∃ kind cs other place, ofText kind cs = .ok other ∧ tag = { other with place }

theorem IsRead.filtered {tag : Tag} (h : tag.IsRead) : tag.Filtered := by
  obtain ⟨kind, cs, other, place, read, rfl⟩ := h
  have filtered := filtered_of_ofText read
  exact ⟨filtered.allowed, filtered.types⟩

theorem isRead_of_lastOf {kind : TagKind} {lines : List (List Char)} {tag : Tag}
    (h : lastOf kind lines = .ok (some tag)) : tag.IsRead := by
  unfold lastOf at h
  split at h
  · cases h
  · obtain ⟨tag', ht, h⟩ := bind_eq_ok.1 h
    rw [pure_eq_ok] at h
    cases h
    exact ⟨kind, _, tag, tag.place, ht, rfl⟩

/-- Only tags that were there are kept. -/
theorem mem_of_mem_dropOwners {tags : List Tag} {tag : Tag} (h : tag ∈ dropOwners tags) :
    tag ∈ tags := by
  have kept : ∀ tag ∈ (tags.foldr keep (none, [])).2, tag ∈ tags := by
    clear h
    induction tags with
    | nil => simp
    | cons first rest ih =>
      intro tag h
      rw [List.foldr_cons, keep] at h
      split at h
      · rcases List.mem_cons.1 h with rfl | h
        · simp
        · simp [ih tag h]
      · split at h
        · simp [ih tag h]
        · rcases List.mem_cons.1 h with rfl | h
          · simp
          · simp [ih tag h]
  exact kept tag h

/-- Numbering changes nothing but the places. -/
theorem exists_of_mem_number {tags : List Tag} {next : Nat} {previous : String} {tag : Tag}
    (h : tag ∈ number next previous tags) : ∃ other ∈ tags, ∃ place, tag = { other with place } := by
  induction tags generalizing next previous with
  | nil => cases h
  | cons first rest ih =>
    rw [number] at h
    split at h
    · rcases List.mem_cons.1 h with rfl | h
      · exact ⟨first, by simp, _, rfl⟩
      · obtain ⟨other, ho, hp⟩ := ih h
        exact ⟨other, by simp [ho], hp⟩
    · rcases List.mem_cons.1 h with rfl | h
      · exact ⟨first, by simp, _, rfl⟩
      · obtain ⟨other, ho, hp⟩ := ih h
        exact ⟨other, by simp [ho], hp⟩

theorem isRead_of_allOf {kind : TagKind} {lines : List (List Char)} {tags : List Tag}
    (h : allOf kind lines = .ok tags) {tag : Tag} (ht : tag ∈ tags) : tag.IsRead := by
  unfold allOf at h
  obtain ⟨read, hread, h⟩ := bind_eq_ok.1 h
  rw [pure_eq_ok] at h
  subst h
  obtain ⟨other, ho, place, rfl⟩ := exists_of_mem_number ht
  have hmem := List.mem_filter.1 (mem_of_mem_dropOwners ho)
  obtain ⟨text, -, htext⟩ := exists_of_mem_mapM hread hmem.1
  exact ⟨kind, text, other, place, htext, rfl⟩

end Tag

/-- All tags of a block. -/
def Elements.tags (elements : Elements) : List Tag :=
  elements.type.toList ++ elements.enum.toList ++ elements.typedef.toList ++
    elements.callback.toList ++ elements.returns.toList ++ elements.yields.toList ++
    elements.param ++ elements.property ++ elements.imports

namespace Elements

/-- The tags of a kind that a block has any number of. -/
def several (elements : Elements) : TagKind → List Tag
  | .param => elements.param
  | .property => elements.property
  | .imports => elements.imports
  | _ => []

/-- What is there of a kind of tag is what its occurrences make, if the tag is looked for. -/
theorem slot_of_ofLines {lines : List (List Char)} {elements : Elements}
    (read : ofLines lines = .ok elements) (kind : TagKind) :
    (kind ∈ TagKind.singles →
      (if (lines.filterMap usedTag?).contains kind.name.toList then Tag.lastOf kind lines
        else .ok none) = .ok (elements.single? kind)) ∧
    (kind ∉ TagKind.singles →
      (if (lines.filterMap usedTag?).contains kind.name.toList then Tag.allOf kind lines
        else .ok []) = .ok (elements.several kind)) := by
  unfold ofLines at read
  dsimp only at read
  obtain ⟨type, htype, read⟩ := bind_eq_ok.1 read
  obtain ⟨enum, henum, read⟩ := bind_eq_ok.1 read
  obtain ⟨typedef, htypedef, read⟩ := bind_eq_ok.1 read
  obtain ⟨callback, hcallback, read⟩ := bind_eq_ok.1 read
  obtain ⟨returns, hreturns, read⟩ := bind_eq_ok.1 read
  obtain ⟨yields, hyields, read⟩ := bind_eq_ok.1 read
  obtain ⟨param, hparam, read⟩ := bind_eq_ok.1 read
  obtain ⟨property, hproperty, read⟩ := bind_eq_ok.1 read
  obtain ⟨imports, himports, read⟩ := bind_eq_ok.1 read
  rw [pure_eq_ok] at read
  subst read
  cases kind with
  | type => exact ⟨fun _ => htype, fun other => absurd (by decide) other⟩
  | enum => exact ⟨fun _ => henum, fun other => absurd (by decide) other⟩
  | typedef => exact ⟨fun _ => htypedef, fun other => absurd (by decide) other⟩
  | callback => exact ⟨fun _ => hcallback, fun other => absurd (by decide) other⟩
  | returns => exact ⟨fun _ => hreturns, fun other => absurd (by decide) other⟩
  | yields => exact ⟨fun _ => hyields, fun other => absurd (by decide) other⟩
  | param => exact ⟨fun single => absurd single (by decide), fun _ => hparam⟩
  | property => exact ⟨fun single => absurd single (by decide), fun _ => hproperty⟩
  | imports => exact ⟨fun single => absurd single (by decide), fun _ => himports⟩

end Elements

namespace Block

/-- A block all of whose tags have allowed filters. -/
def Filtered (block : Block) : Prop := ∀ tag ∈ block.elements.tags, tag.Filtered

theorem isRead_of_ofLines {lines : List (List Char)} {elements : Elements}
    (h : Elements.ofLines lines = .ok elements) : ∀ tag ∈ elements.tags, tag.IsRead := by
  have single : ∀ kind ∈ TagKind.singles, ∀ tag ∈ (elements.single? kind).toList,
      tag.IsRead := by
    intro kind mem tag ht
    have slot := (Elements.slot_of_ofLines h kind).1 mem
    rw [Option.mem_toList.1 ht] at slot
    split at slot
    · exact Tag.isRead_of_lastOf slot
    · cases slot
  have several : ∀ kind ∉ TagKind.singles, ∀ tag ∈ elements.several kind, tag.IsRead := by
    intro kind other tag ht
    have slot := (Elements.slot_of_ofLines h kind).2 other
    split at slot
    · exact Tag.isRead_of_allOf slot ht
    · rw [← Except.ok.inj slot] at ht
      cases ht
  intro tag ht
  simp only [Elements.tags, List.mem_append] at ht
  rcases ht with (((((((ht | ht) | ht) | ht) | ht) | ht) | ht) | ht) | ht
  · exact single .type (by decide) tag ht
  · exact single .enum (by decide) tag ht
  · exact single .typedef (by decide) tag ht
  · exact single .callback (by decide) tag ht
  · exact single .returns (by decide) tag ht
  · exact single .yields (by decide) tag ht
  · exact several .param (by decide) tag ht
  · exact several .property (by decide) tag ht
  · exact several .imports (by decide) tag ht

/-- Every tag of a block was read from a text. -/
theorem isRead_of_ofSource {file code : String} {blocks : List Block}
    (h : ofSource file code = .ok blocks) {block : Block} (hb : block ∈ blocks) :
    ∀ tag ∈ block.elements.tags, tag.IsRead := by
  obtain ⟨comment, -, hc⟩ := exists_of_mem_mapM h hb
  unfold ofComment at hc
  split at hc
  · rename_i elements he
    cases hc
    exact isRead_of_ofLines he
  · cases hc

/-- Every block of a source has allowed filters. -/
theorem filtered_of_ofSource {file code : String} {blocks : List Block}
    (h : ofSource file code = .ok blocks) {block : Block} (hb : block ∈ blocks) :
    block.Filtered :=
  fun tag ht => (isRead_of_ofSource h hb tag ht).filtered

end Block

end Docblock
