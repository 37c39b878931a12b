import Docblock.Block.Basic
import Docblock.Proofs.Text.Nesting

/-!
# Tags with names

What a tag with a name says (`Tag.ofText_named`). A comment whose single line is a typedef tag has
the elements of that tag and nothing else.

These are equations of reading, with a hypothesis for each part of the line: the type that is taken
off, the word that follows, and what is left for the description. They save every theorem about a
small source from going through the whole reader of comments. The lines themselves are given each
time, and their parts are found by evaluation, so nothing here is about texts of a general form.
-/

namespace Docblock

open Text

/-- A type in braces ends where they are closed. -/
theorem Tag.takeType_braces {type rest : List Char}
    (closes : closingFrom '{' '}' 1 (type ++ '}' :: rest) = some type.length) :
    takeType ('{' :: (type ++ '}' :: rest)) = (trim type, rest) := by
  have close : closingBracket? ('{' :: (type ++ '}' :: rest)) = some (type.length + 1) := by
    rw [closingBracket?_brace, closes]
    rfl
  unfold takeType
  rw [List.head?_cons, if_pos rfl, close]
  simp

/-- A tag that has a name, whatever in it is optional. -/
theorem Tag.ofText_named {kind : TagKind} {line type rest word tail : List Char}
    {types : List TypeExpr} {description : String} {filters : List Filter}
    (named : kind.isNamed = true) (typed : kind ≠ .imports)
    (taken : takeType (dropTag line) = (type, rest))
    (split : splitWord (trim rest) = (word, tail))
    (read : TypeExpr.read ((optionalType? type).getD type) = .ok types)
    (after : Filter.ofTail tail types = .ok (description, filters)) :
    Tag.ofText kind line = .ok {
      kind := kind
      typeText := String.ofList ((optionalType? type).getD type)
      types := types
      name := String.ofList ((optionalName? word).getD (word, none)).1
      description := description
      filters := filters
      optional := (optionalName? word).isSome || (optionalType? type).isSome
      defaultValue := ((optionalName? word).getD (word, none)).2.map String.ofList
      member := (splitMember? ((optionalName? word).getD (word, none)).1).map fun parts =>
        (String.ofList parts.1, String.ofList parts.2)
      place := 0 } := by
  unfold Tag.ofText
  simp [taken, named, split, typed, read, after, bind, Except.bind, pure, Except.pure]

/-- A tag that has a name, and nothing in it is optional. -/
theorem Tag.ofText_plain {kind : TagKind} {line type rest name tail : List Char}
    {types : List TypeExpr} {description : String} {filters : List Filter}
    (named : kind.isNamed = true) (typed : kind ≠ .imports)
    (taken : takeType (dropTag line) = (type, rest))
    (word : splitWord (trim rest) = (name, tail)) (bare : optionalName? name = none)
    (sure : optionalType? type = none) (read : TypeExpr.read type = .ok types)
    (after : Filter.ofTail tail types = .ok (description, filters))
    (whole : splitMember? name = none) :
    Tag.ofText kind line = .ok {
      kind := kind
      typeText := String.ofList type
      types := types
      name := String.ofList name
      description := description
      filters := filters
      optional := false
      defaultValue := none
      member := none
      place := 0 } := by
  rw [ofText_named named typed taken word (by rwa [sure]) after]
  simp [bare, sure, whole]

/-- A typedef tag that has a type and a name, neither of them optional. -/
theorem Tag.ofText_naming {line type rest name tail : List Char} {types : List TypeExpr}
    {description : String} {filters : List Filter}
    (taken : takeType (dropTag line) = (type, rest))
    (word : splitWord (trim rest) = (name, tail)) (bare : optionalName? name = none)
    (sure : optionalType? type = none) (read : TypeExpr.read type = .ok types)
    (after : Filter.ofTail tail types = .ok (description, filters))
    (whole : splitMember? name = none) :
    Tag.ofText .typedef line = .ok {
      kind := .typedef
      typeText := String.ofList type
      types := types
      name := String.ofList name
      description := description
      filters := filters
      optional := false
      defaultValue := none
      member := none
      place := 0 } :=
  ofText_plain rfl nofun taken word bare sure read after whole

namespace Elements

/-- The elements of a comment that names a type and says nothing else. -/
def naming (tag : Tag) : Elements :=
  ⟨"", ⟨false, false⟩, false, none, none, some tag, none, none, none, [], [], []⟩

theorem ofLines_naming {line : List Char} {tag : Tag}
    (used : usedTag? line = some TagKind.typedef.name.toList)
    (occurs : tagOccurrences TagKind.typedef.name.toList [line] = [line])
    (scope : Scope.ofLines [line] = ⟨false, false⟩) (description : descriptionOf [line] = [])
    (named : Tag.ofText .typedef line = .ok tag) : ofLines [line] = .ok (naming tag) := by
  have words : [line].filterMap usedTag? = ["typedef".toList] := by simp [used, TagKind.name]
  have last : Tag.lastOf .typedef [line] = .ok (some tag) := by
    unfold Tag.lastOf
    rw [occurs]
    dsimp only [List.getLast?, List.getLast]
    rw [named]
    rfl
  unfold ofLines
  simp [words, last, TagKind.name, bind, Except.bind, pure, Except.pure]
  rw [scope, description]
  rfl

/-- The elements of a comment that speaks of parameters and says nothing else. -/
def params (tags : List Tag) : Elements :=
  ⟨"", ⟨false, false⟩, false, none, none, none, none, none, none, tags, [], []⟩

theorem ofLines_params {lines : List (List Char)} {tags : List Tag}
    (used : "param".toList ∈ lines.filterMap usedTag?)
    (only : ∀ word ∈ lines.filterMap usedTag?, word = "param".toList)
    (scope : Scope.ofLines lines = ⟨false, false⟩) (description : descriptionOf lines = [])
    (all : Tag.allOf .param lines = .ok tags) : ofLines lines = .ok (params tags) := by
  have other : ∀ word, word ≠ "param".toList →
      (lines.filterMap usedTag?).contains word = false := by
    intro word ne
    rw [List.contains_eq_mem, decide_eq_false fun mem => ne (only word mem)]
  have params : (lines.filterMap usedTag?).contains "param".toList = true := by
    rw [List.contains_eq_mem, decide_eq_true used]
  unfold ofLines
  simp only [TagKind.name, params, other _ (show "strict".toList ≠ _ by decide),
    other _ (show "type".toList ≠ _ by decide), other _ (show "enum".toList ≠ _ by decide),
    other _ (show "typedef".toList ≠ _ by decide), other _ (show "callback".toList ≠ _ by decide),
    other _ (show "returns".toList ≠ _ by decide), other _ (show "yields".toList ≠ _ by decide),
    other _ (show "property".toList ≠ _ by decide), other _ (show "import".toList ≠ _ by decide),
    all, scope, description]
  rfl

end Elements

namespace Block

/-- The block of a comment has the elements that its lines have. -/
theorem ofComment_of_elements {comment : Comment} {lines : List (List Char)} {elements : Elements}
    (file : String) (read : linesOf (removeMarks (renameTags 0 comment.text.toList)) = lines)
    (made : Elements.ofLines lines = .ok elements) :
    ofComment file comment =
      .ok ⟨elements, file, comment.startLine, comment.endLine, comment.follower⟩ := by
  unfold ofComment Elements.ofComment
  rw [read, made]

/-- The block of a comment that names a type and says nothing else. -/
theorem ofComment_naming {comment : Comment} {line : List Char} {tag : Tag} (file : String)
    (lines : linesOf (removeMarks (renameTags 0 comment.text.toList)) = [line])
    (elements : Elements.ofLines [line] = .ok (.naming tag)) :
    ofComment file comment =
      .ok ⟨.naming tag, file, comment.startLine, comment.endLine, comment.follower⟩ :=
  ofComment_of_elements file lines elements

/-- A source with a single comment has the block of that. -/
theorem ofSource_of_comment {file code : String} {comment : Comment} {block : Block}
    (found : Comment.ofSource code.toList = [comment]) (made : ofComment file comment = .ok block) :
    ofSource file code = .ok [block] := by
  unfold ofSource
  rw [found, List.mapM_cons, List.mapM_nil, made]
  rfl

end Block

end Docblock
