import Docblock.Proofs.Block.Inline
import Docblock.Proofs.Block.Naming
import Docblock.Proofs.Text.Nesting
import Mathlib.Data.List.TakeWhile

/-!
# A type written as a comment

A comment of one line gives a type and says nothing else (`typed`). Its source has one block, whose
only tag is a type tag with what is read from the text of the type, after its tags are written in
the spelling that is kept (`ofSource_typed`). The text needs brackets that match and no sign of an
optional type at its end.

The type is any text that can be read, so theorems about types become theorems about sources with
it. Whether the spelling changes the type is a hypothesis: what is read is the text that is kept. A
type with a name, a description or filters behind it is a longer line and not treated here.
-/

namespace Docblock

open Text Comment

/-- A tag that has no name, and whose type is not optional. -/
theorem Tag.ofText_nameless {kind : TagKind} {line type rest : List Char} {types : List TypeExpr}
    {description : String} {filters : List Filter} (nameless : kind.isNamed = false)
    (taken : takeType (dropTag line) = (type, rest)) (sure : optionalType? type = none)
    (read : TypeExpr.read type = .ok types)
    (after : Filter.ofTail rest types = .ok (description, filters)) :
    Tag.ofText kind line = .ok {
      kind := kind
      typeText := String.ofList type
      types := types
      name := ""
      description := description
      filters := filters
      optional := false
      defaultValue := none
      member := none
      place := 0 } := by
  have typed : kind ≠ .imports := by
    rintro rfl
    cases nameless
  have unbracketed : optionalName? [] = none := rfl
  have whole : splitMember? [] = none := rfl
  unfold Tag.ofText
  simp [taken, nameless, sure, typed, read, after, unbracketed, whole, bind, Except.bind, pure,
    Except.pure]

/-- The elements of a comment that gives a type and says nothing else. -/
def Elements.typing (tag : Tag) : Elements :=
  ⟨"", ⟨false, false⟩, false, some tag, none, none, none, none, none, [], [], []⟩

/-- The type tag that a text makes, without a description and filters. -/
def Tag.typing (text : List Char) (types : List TypeExpr) : Tag where
  kind := .type
  typeText := String.ofList text
  types := types
  name := ""
  description := ""
  filters := []
  optional := false
  defaultValue := none
  member := none
  place := 0

variable {text : List Char} {types : List TypeExpr}

/-- The line of a type tag with a type. -/
def typed (text : List Char) : List Char :=
  '@' :: 't' :: 'y' :: 'p' :: 'e' :: ' ' :: '{' :: (text ++ ['}'])

namespace Tag

theorem ofText_typed (balanced : Balanced text) (tight : Tight text)
    (sure : optionalType? text = none) (read : TypeExpr.read text = .ok types) :
    ofText .type (typed text) = .ok (.typing text types) := by
  have taken : takeType (dropTag (typed text)) = (text, []) := by
    have bare : dropTag (typed text) = '{' :: (text ++ ['}']) := rfl
    have closes : closingFrom '{' '}' 1 (text ++ ['}']) = some text.length := by
      rw [balanced '{' '}' rfl]
      simp [closingFrom]
    rw [bare, takeType_braces closes, tight.trim_eq]
  exact ofText_nameless rfl taken sure read rfl

end Tag

namespace Elements

theorem usedTag?_typed (newline : '\n' ∉ text) : usedTag? (typed text) = some "type".toList := by
  have line : (' ' :: '{' :: (text ++ ['}'])).dropWhile (· != '\n') = [] := by
    refine List.dropWhile_eq_nil_iff.2 fun c hc => ?_
    rw [bne_iff_ne]
    rintro rfl
    simp [newline] at hc
  show (if (true && (((' ' :: '{' :: (text ++ ['}'])).dropWhile (· != '\n')).isEmpty || _)) = true
    then some _ else none) = _
  rw [line]
  rfl

theorem ofLines_typed (newline : '\n' ∉ text) (balanced : Balanced text) (tight : Tight text)
    (sure : Tag.optionalType? text = none) (read : TypeExpr.read text = .ok types) :
    ofLines [typed text] = .ok (typing (.typing text types)) := by
  have used : [typed text].filterMap usedTag? = ["type".toList] := by
    simp [usedTag?_typed newline]
  have last : Tag.lastOf .type [typed text] = .ok (some (.typing text types)) := by
    unfold Tag.lastOf
    have occurs : tagOccurrences TagKind.type.name.toList [typed text] = [typed text] := rfl
    rw [occurs]
    dsimp only [List.getLast?, List.getLast]
    rw [Tag.ofText_typed balanced tight sure read]
    rfl
  have scope : Scope.ofLines [typed text] = ⟨false, false⟩ := rfl
  have description : descriptionOf [typed text] = [] := rfl
  unfold ofLines
  simp [used, last, TagKind.name, bind, Except.bind, pure, Except.pure]
  rw [scope, description]
  rfl

end Elements

theorem renameTags_typed (text : List Char) :
    renameTags 0 (typed text) = typed (renameTags 0 text) :=
  renameTags_between ['@', 't', 'y', 'p', 'e', ' '] text [] (c := '{') (d := '}') rfl (by decide)
    rfl

theorem sayable_typed (h : Sayable text) : Sayable (typed text) :=
  .prepend ['@', 't', 'y', 'p', 'e', ' ', '{'] (by decide) (h.concat (by decide))

theorem tight_typed (text : List Char) : Tight (typed text) := by
  refine ⟨by rintro c ⟨⟩; rfl, ?_⟩
  have last : (typed text).getLast? = some '}' := by
    simp [typed, List.getLast?_cons]
  rw [last]
  rintro c ⟨⟩
  rfl

namespace Block

/-- The source of a comment that gives a type has one block, which gives that type: with its tags in
the spelling that is kept. -/
theorem ofSource_typed {kept : List Char} (file : String) (sayable : Sayable text)
    (spelled : renameTags 0 text = kept) (balanced : Balanced kept) (tight : Tight kept)
    (sure : Tag.optionalType? kept = none) (read : TypeExpr.read kept = .ok types) :
    ofSource file (String.ofList (inlined (typed text))) =
      .ok [⟨.typing (.typing kept types), file, 1, 1, ""⟩] := by
  subst spelled
  have found : Comment.ofSource (String.ofList (inlined (typed text))).toList =
      [⟨String.ofList (inlined (typed text)), 0, 1, 1, ""⟩] := by
    rw [String.toList_ofList]
    exact ofSource_inlined (sayable_typed sayable)
  have line : linesOf (removeMarks (renameTags 0 (String.ofList (inlined (typed text))).toList)) =
      [typed (renameTags 0 text)] := by
    rw [String.toList_ofList, renameTags_inlined, renameTags_typed]
    exact (line_inlined (by simp [typed]) (sayable_typed sayable.renameTags) (tight_typed _)).2
  have elements := Elements.ofLines_typed sayable.renameTags.newline balanced tight sure read
  exact ofSource_of_comment found (ofComment_of_elements file line elements)

end Block

end Docblock
