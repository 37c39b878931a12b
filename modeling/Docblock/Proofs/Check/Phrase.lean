import Docblock.Proofs.Block.Typed
import Docblock.Proofs.Check.Use
import Docblock.Proofs.Schema.RoundTrip

/-!
# A string as the type in a comment

A source gives a quoted string for a type and nothing else (`Phrase.source`). It has one block,
which takes one string and nothing else: the one that is written, but for its tags. Before types are
read, tags are written in the spelling that is kept, within quotes too. So the string that is
written is the one that is taken just when no at sign in it begins another spelling of a tag
(`Phrase.exists_block_of_source`). Remarks, separators and stars in the string change nothing.

Everything else that is done to a comment leaves the string alone, and it takes four theorems about
it to say so: the comment is the only one of its source, its marks are taken off, the type tag is
read, and the text of a literal is read back. They are put together here.

The string must be one that can be quoted at all in a comment of one line (`Phrase`). How a string
with a quote, a bracket or a line end could be written is not asked.
-/

namespace Docblock

open Text Comment

/-! ## What is written -/

/-- What can stand between the quotes of a string in a comment of one line: no quote of its kind, no
backslash and no bracket, and no end of the line or of the comment. -/
structure Phrase extends StringBody where
  line : Sayable chars

namespace Phrase

/-- The string. -/
def text (phrase : Phrase) : String := String.ofList phrase.chars

/-- The text of the type that is the string alone. -/
def type (phrase : Phrase) : List Char := (TypeTree.string phrase.toStringBody).print

/-- The source that gives the string for a type, and nothing else. -/
def source (phrase : Phrase) : String := String.ofList (inlined (typed phrase.type))

/-- Every tag in a phrase is in the spelling that is kept. -/
def Kept (phrase : Phrase) : Prop :=
  ∀ before rest, phrase.chars = before ++ '@' :: rest → renamed? '@' rest = none

theorem letter_free {c : Char} (h : c.isLower = true) :
    c ≠ '\'' ∧ c ≠ '\\' ∧ isBracket c = false := by
  refine ⟨?_, ?_, ?_⟩
  · rintro rfl
    cases h
  · rintro rfl
    cases h
  · by_contra bracket
    have mark : c ∈ ['(', ')', '[', ']', '<', '>', '{', '}'] :=
      List.contains_iff_mem.1 (Bool.eq_true_of_not_eq_false bracket)
    have other : ∀ d ∈ ['(', ')', '[', ']', '<', '>', '{', '}'], d.isLower = false := by decide
    rw [other c mark] at h
    cases h

/-- A phrase with its tags in the spelling that is kept. -/
def renamed (phrase : Phrase) : Phrase where
  chars := renameTags 0 phrase.chars
  free c hc := (mem_of_mem_renameTags hc).elim (phrase.free c) letter_free
  line := phrase.line.renameTags

theorem text_renamed_eq_iff (phrase : Phrase) : phrase.renamed.text = phrase.text ↔ phrase.Kept :=
  String.ofList_inj.trans renameTags_eq_self_iff

/-! ## What is read -/

theorem sayable_type (phrase : Phrase) : Sayable phrase.type :=
  .prepend ['\''] (by decide) (phrase.line.concat (by decide))

theorem type_eq (phrase : Phrase) : phrase.type = '\'' :: (phrase.chars ++ ['\'']) := rfl

theorem renameTags_type (phrase : Phrase) : renameTags 0 phrase.type = phrase.renamed.type :=
  renameTags_between [] phrase.chars [] (c := '\'') (d := '\'') rfl (by decide) rfl

theorem optionalType?_type (phrase : Phrase) : Tag.optionalType? phrase.type = none := by
  have last : phrase.type.getLast? = some '\'' := by
    simp [type_eq, List.getLast?_cons]
  unfold Tag.optionalType?
  rw [last, if_neg]
  rintro ⟨-, ⟨⟩⟩

/-- The block of a source that gives a string for a type. -/
def block (file : String) (phrase : Phrase) : Block :=
  ⟨.typing (.typing phrase.type [(TypeTree.string phrase.toStringBody).type]), file, 1, 1, ""⟩

theorem ofSource_source (file : String) (phrase : Phrase) :
    Block.ofSource file phrase.source = .ok [phrase.renamed.block file] :=
  have solid := phrase.renamed.toStringBody.solid
  Block.ofSource_typed file phrase.sayable_type phrase.renameTags_type solid.balanced solid.tight
    phrase.renamed.optionalType?_type (TypeTree.read_print _)

end Phrase

/-! ## What is taken -/

theorem Literal.admits_string_iff {text : String} {value : Value} :
    (Literal.string text).admits value = true ↔ value = .string text := by
  cases value with
  | string other => rw [admits, beq_iff_eq, Value.string.injEq, eq_comm]
  | _ => simp [admits]

/-- That a value is not of a type at all can always be told, as no path is shown. -/
theorem Report.exists_of_explained_ofType (kind : TagKind) (what expected : String) (depth : Nat)
    (value : Value) : ∃ failure,
      explained kind what depth (some (.ofType expected value [] "")) =
        .ok ⟨some kind, some failure⟩ := by
  obtain ⟨failure, told⟩ := ((Failure.ofType expected value [] "").missingIff_explain what
    depth).exists_ok fun untold => Nat.not_lt_zero depth untold.deep
  exact ⟨failure, bind_eq_ok.2 ⟨failure, told, rfl⟩⟩

section

variable [AddressTest]

/-- A check against a literal alone gives an outcome, and only the literal passes. -/
theorem check_literal (corpus : Corpus) (registry : Registry) (text : String) (literal : Literal)
    (value : Value) (strict : Bool) :
    check corpus registry [] [] [.literal text literal] value [] strict =
      .ok (if literal.admits value then none else some (.ofType text value [] "")) := by
  have target : corpus.target? registry (.literal text literal) = none := rfl
  have unfiltered : (TypeExpr.literal text literal).Passes [] value := fun _ _ => rfl
  cases admitted : literal.admits value with
  | true =>
    have shape : (TypeExpr.literal text literal).shape value strict = .members [] (.ok []) := by
      rw [TypeExpr.shape, admitted]
      rfl
    exact (check_singleton_eq_none_iff unfiltered).2 (checkType_of_plain target shape)
  | false =>
    have shape : (TypeExpr.literal text literal).shape value strict = .mismatch := by
      rw [TypeExpr.shape, admitted]
      rfl
    rw [check]
    refine (checkAny_of_refused (checkType_of_mismatch target shape) rfl).trans ?_
    rw [checkAny]
    rfl

namespace Phrase

/-- The block takes the string, whatever is read with it. -/
theorem exists_report (file : String) (phrase : Phrase) (corpus : Corpus) (source : Nat)
    (forceStrict : Bool) (value : Value) :
    ∃ report, Schema.report ⟨corpus, source, phrase.block file, forceStrict⟩ value = .ok report ∧
      (report.passed = true ↔ value = .string phrase.text) := by
  have checked := check_literal corpus [source] (String.ofList phrase.type) (.string phrase.text) value
    (Schema.strict ⟨corpus, source, phrase.block file, forceStrict⟩)
  rw [← Literal.admits_string_iff]
  cases admitted : (Literal.string phrase.text).admits value with
  | true =>
    rw [admitted, if_pos rfl] at checked
    exact ⟨⟨some .type, none⟩, bind_eq_ok.2 ⟨none, checked, rfl⟩, by simp [Report.passed]⟩
  | false =>
    rw [admitted, if_neg Bool.false_ne_true] at checked
    obtain ⟨failure, told⟩ := Report.exists_of_explained_ofType .type "value"
      (String.ofList phrase.type) 0 value
    exact ⟨_, bind_eq_ok.2 ⟨_, checked, told⟩, by simp [Report.passed]⟩

/-- A source that gives a string for a type has one block. A check against it gives a report for
every value, and what passes is one string: the one that is written, with its tags in the spelling
that is kept. So just the string that is written is taken if and only if all tags in it are kept. -/
theorem exists_block_of_source (file : String) (phrase : Phrase) :
    ∃ block, Block.ofSource file phrase.source = .ok [block] ∧
      ∀ corpus source forceStrict,
        (∀ value, ∃ report,
          Schema.report ⟨corpus, source, block, forceStrict⟩ value = .ok report ∧
            (report.passed = true ↔ value = .string phrase.renamed.text)) ∧
        ((∀ text, Schema.Passes ⟨corpus, source, block, forceStrict⟩ (.whole (.string text)) ↔
          text = phrase.text) ↔ phrase.Kept) := by
  refine ⟨phrase.renamed.block file, phrase.ofSource_source file, ?_⟩
  intro corpus source forceStrict
  have reports := phrase.renamed.exists_report file corpus source forceStrict
  refine ⟨reports, ?_⟩
  have passes : ∀ text, Schema.Passes ⟨corpus, source, phrase.renamed.block file, forceStrict⟩
      (.whole (.string text)) ↔ text = phrase.renamed.text := by
    intro text
    obtain ⟨report, told, passed⟩ := reports (.string text)
    rw [Value.string.injEq] at passed
    constructor
    · rintro ⟨other, told', approved⟩
      cases told.symm.trans told'
      exact passed.1 approved
    · exact fun same => ⟨report, told, passed.2 same⟩
  rw [← text_renamed_eq_iff]
  constructor
  · exact fun own => (own _).1 ((passes _).2 rfl)
  · exact fun same text => same ▸ passes text

end Phrase

end

namespace Phrase

/-- An address in quotes. -/
def address : Phrase where
  chars := ['m', 'e', '@', 'h', 'o', 's', 't']
  free := by decide
  line := by decide

example : address.source = "/** @type \x7b'me@host'\x7d */" ∧
    address.renamed.text = "me@external" := by
  decide

end Phrase

end Docblock
