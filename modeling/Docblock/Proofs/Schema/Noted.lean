import Docblock.Proofs.Filter.Cut
import Docblock.Proofs.Schema.RoundTrip
import Docblock.Proofs.Text.Remark

/-!
# Remarks on fields

Object types as trees again, each field with at most one note: a remark with a description and
filters, either before the comma behind the field or after it. The note after a comma stands at the
start of the next member, from where it goes back to the field that it was written for. Reading the
text of a tree gives every field its own note and no other (`NotedFields.read_literal`).

The trees carry what a note must not contain, so that the theorem has no hypotheses: a description
has no braces, no line ends and no slashes, it does not begin with a dash, and it is trimmed, since
each of these would be changed or cut off when the note is read. The filters of a note are given by
the text of a literal together with the proof of what is read from it. How literals are read is not
repeated here.

One field has one note. What becomes of a second one, in front of the next member, is another
matter, and there the first is lost.
-/

namespace Docblock

open Text

/-! ## Trees -/

/-- A filter literal on one line, with no braces inside, and the filters in it. -/
structure NoteFilters (types : List TypeExpr) where
  body : List Char
  plain : ∀ c ∈ body, c ≠ '{' ∧ c ≠ '}' ∧ c ≠ '\n' ∧ c ≠ '\r'
  entries : List (String × Value)
  read : Filter.readLiteral ('{' :: (body ++ ['}'])) = .ok entries
  allowed : Allowed types (entries.map Filter.ofEntry)

/-- A description, which may be empty, and filters that are allowed for some types. -/
structure Note (types : List TypeExpr) where
  description : List Char
  plain : ∀ c ∈ description, c ≠ '{' ∧ c ≠ '}' ∧ c ≠ '/' ∧ c ≠ '\n' ∧ c ≠ '\r'
  tight : Tight description
  dash : description.head? ≠ some '-'
  filters : Option (NoteFilters types)

/-- Where the note of a field stands: before the comma behind the field, or after it. -/
inductive NotePlace (types : List TypeExpr) where
  | nowhere
  | before (note : Note types)
  | after (note : Note types)

/-- A field with its note. -/
structure NotedField where
  indent : List Char
  blank : Blanks indent
  key : Identifier
  type : TypeUnion
  place : NotePlace type.types

/-- The fields of an object type. -/
inductive NotedFields where
  | one (field : NotedField)
  | more (field : NotedField) (rest : NotedFields)

def NoteFilters.print {types : List TypeExpr} (filters : NoteFilters types) : List Char :=
  '{' :: (filters.body ++ ['}'])

namespace Note

variable {types : List TypeExpr}

/-- The text of a note, without the slashes. -/
def print (note : Note types) : List Char :=
  note.description ++ (note.filters.map fun filters => ' ' :: filters.print).getD []

/-- The filters of a note. -/
def list (note : Note types) : List Filter :=
  (note.filters.map fun filters => filters.entries.map Filter.ofEntry).getD []

end Note

/-- A line that can stand in a remark. -/
structure RemarkLine where
  chars : List Char
  one : '\n' ∉ chars
  slash : (trim chars).head? ≠ some '/'

/-- A remark behind a text, if there is one, up to the next line. -/
def remarkText : Option RemarkLine → List Char
  | none => []
  | some line => ' ' :: (remark line.chars ++ ['\n'])

/-- What is left of such a remark. -/
def remarkOf (line : Option RemarkLine) : List Char :=
  (line.map fun line => trim line.chars).getD []

section

variable {types : List TypeExpr}

theorem NoteFilters.print_line (filters : NoteFilters types) :
    ∀ c ∈ filters.print, c ≠ '\n' ∧ c ≠ '\r' := by
  intro c hc
  simp only [print, List.mem_cons, List.mem_append, List.not_mem_nil, or_false] at hc
  rcases hc with rfl | hc | rfl
  · decide
  · exact (filters.plain c hc).2.2
  · decide

theorem NoteFilters.paired_body (filters : NoteFilters types) : Paired '{' '}' filters.body :=
  .of_free (fun hm => (filters.plain _ hm).1 rfl) fun hm => (filters.plain _ hm).2.1 rfl

theorem Note.newline_not_mem (note : Note types) : '\n' ∉ note.print := by
  intro hm
  rcases List.mem_append.1 hm with hm | hm
  · exact (note.plain _ hm).2.2.2.1 rfl
  · cases filters : note.filters with
    | none => simp [filters] at hm
    | some filters' =>
      rw [filters, Option.map_some, Option.getD_some] at hm
      rcases List.mem_cons.1 hm with newline | hm
      · cases newline
      · exact (filters'.print_line _ hm).1 rfl

/-- A note begins with its description, or with the brace of its filters. -/
theorem Note.head?_trim_print (note : Note types) : (trim note.print).head? ≠ some '/' := by
  unfold print
  cases text : note.description with
  | cons c rest =>
    have here : c ∈ note.description := by simp [text]
    have solid := note.tight.starts c (by rw [text]; rfl)
    rw [List.cons_append, trim_cons solid]
    exact fun same => (note.plain c here).2.2.1 (Option.some.inj same)
  | nil =>
    cases note.filters with
    | none => simp
    | some filters =>
      rw [Option.map_some, Option.getD_some, List.nil_append, ← List.singleton_append,
        trim_blanks_append blanks_space, NoteFilters.print, trim_cons rfl]
      simp

/-- The line of a note. -/
def Note.line (note : Note types) : RemarkLine where
  chars := ' ' :: note.print
  one := by
    intro hm
    rcases List.mem_cons.1 hm with newline | hm
    · cases newline
    · exact note.newline_not_mem hm
  slash := by
    rw [← List.singleton_append, trim_blanks_append blanks_space]
    exact note.head?_trim_print

theorem Note.remarkOf_line (note : Note types) : remarkOf (some note.line) = trim note.print :=
  trim_blanks_append blanks_space note.print

end

namespace NotedField

/-- The line of a note before the comma. -/
def own (field : NotedField) : Option RemarkLine :=
  match field.place with
  | .before note => some note.line
  | _ => none

/-- The line of a note after the comma. -/
def next (field : NotedField) : Option RemarkLine :=
  match field.place with
  | .after note => some note.line
  | _ => none

/-- The text of a field up to its comma. -/
def print (field : NotedField) : List Char :=
  field.indent ++ (fieldText field.key field.type ++ remarkText field.own)

/-- A field with what its note says. -/
def field (noted : NotedField) : Field TypeExpr :=
  match noted.place with
  | .nowhere => ⟨String.ofList noted.key.chars, noted.type.types, "", []⟩
  | .before note | .after note =>
    ⟨String.ofList noted.key.chars, noted.type.types, String.ofList note.description, note.list⟩

end NotedField

namespace NotedFields

/-- The texts of fields with commas between them. Behind the last there is a comma only when a note
stands after it. -/
def print : NotedFields → List Char
  | .one field =>
    field.print ++ (field.next.map fun line => ',' :: remarkText (some line)).getD []
  | .more field rest => field.print ++ ',' :: (remarkText field.next ++ rest.print)

/-- The fields in their order. -/
def fields : NotedFields → List (Field TypeExpr)
  | .one field => [field.field]
  | .more field rest => field.field :: rest.fields

/-- The text of the object type. -/
def literal (fields : NotedFields) : List Char := '{' :: (fields.print ++ ['}'])

/-- What stands between the commas: a note after a comma goes with the next member. -/
def texts (line : Option RemarkLine) : NotedFields → List (List Char)
  | .one field =>
    (remarkText line ++ field.print) :: (field.next.map fun line => [remarkText (some line)]).getD []
  | .more field rest => (remarkText line ++ field.print) :: rest.texts field.next

end NotedFields

/-! ## Notes are read as they are written -/

namespace Filter

theorem splitBraces?_eq_none {cs : List Char} (plain : '{' ∉ cs) : splitBraces? cs = none := by
  have all : cs.takeWhile (· != '{') = cs :=
    List.takeWhile_eq_self_iff.2 fun c hc => bne_iff_ne.2 fun same => plain (same ▸ hc)
  unfold splitBraces?
  rw [all]
  dsimp only
  rw [List.drop_length]
  rfl

/-- A text without braces is a description and no filters. -/
theorem ofTail_of_plain {cs : List Char} (plain : '{' ∉ cs) (types : List TypeExpr) :
    ofTail cs types = .ok (String.ofList (trim (flatten cs)), []) := by
  have flat := brace_not_mem_flatten plain blanks_nil
  rw [List.append_nil] at flat
  unfold ofTail
  dsimp only
  rw [splitBraces?_eq_none flat]
  rfl

/-- Blanks before a description make no difference. -/
theorem ofTail_trimStart (cs : List Char) (types : List TypeExpr) :
    ofTail (trimStart cs) types = ofTail cs types := by
  have again : trimStart (trimStart cs) = trimStart cs :=
    trimStart_append [] (by simp) fun c hc => head?_trimStart hc
  have flat : flatten (trimStart cs) = flatten cs := by rw [flatten_eq, flatten_eq, again]
  unfold ofTail
  rw [flat]

end Filter

namespace Note

variable {types : List TypeExpr} (note : Note types)

/-- A description is kept as it is. -/
theorem flatten_description : Filter.flatten note.description = note.description := by
  have start : trimStart note.description = note.description :=
    trimStart_append [] (by simp) note.tight.starts
  have dash : Filter.undash note.description = note.description := by
    cases text : note.description with
    | nil => rfl
    | cons c rest =>
      have other := note.dash
      rw [text] at other
      exact Filter.undash_eq (fun same => other (congrArg some same)) rest
  rw [Filter.flatten_eq, start, dash, Filter.onOneLine_eq fun c hc => (note.plain c hc).2.2.2]

/-- A note says what it was written with. -/
theorem ofTail_print :
    Filter.ofTail (trim note.print) types = .ok (String.ofList note.description, note.list) := by
  have brace : '{' ∉ note.description := fun hm => (note.plain _ hm).1 rfl
  unfold print list
  cases note.filters with
  | none =>
    rw [Option.map_none, Option.map_none, Option.getD_none, Option.getD_none, List.append_nil,
      note.tight.trim_eq, Filter.ofTail_of_plain brace, note.flatten_description,
      note.tight.trim_eq]
  | some filters =>
    have tight : Tight filters.print := .between rfl rfl filters.body
    have nested : Nested (trim filters.print) := by
      rw [tight.trim_eq]
      refine closingBracket?_eq_length_iff.1 ?_
      rw [closingBracket?_cons rfl, filters.paired_body.closingFrom_eq (by decide)]
      simp
    have ends : trim (note.description ++ ' ' :: filters.print) =
        trimStart (note.description ++ ' ' :: filters.print) := by
      have closes : note.description ++ ' ' :: filters.print =
          (note.description ++ ' ' :: '{' :: filters.body) ++ ['}'] := by
        simp [NoteFilters.print]
      rw [closes, trim, trimStart_append_of_head (by rintro c ⟨⟩; rfl), trimEnd_append_cons rfl]
      rfl
    rw [Option.map_some, Option.map_some, Option.getD_some, Option.getD_some, ends,
      Filter.ofTail_trimStart,
      Filter.ofTail_of_nested brace filters.print_line filters.read filters.allowed nested,
      note.flatten_description, note.tight.trim_eq]

end Note

/-! ## Members -/

variable {separators : List Char}

theorem separating_comma : Separating [','] := by
  intro c hc
  rw [List.mem_singleton.1 hc]
  decide

theorem passed_remarkText (free : Separating separators) (line : Option RemarkLine) :
    Passed separators (remarkText line) := by
  have slash : '/' ∉ separators := fun hm => (free _ hm).2.2.2 rfl
  cases line with
  | none => exact .of_run .nil
  | some line =>
    have space : Passed separators [' '] := passed_blanks free blanks_space
    exact space.append (passed_remark slash line.one)

/-- The text of a member without the blanks around it. -/
theorem trim_append_remarkText {w : List Char} (tight : Tight w) (ne : w ≠ [])
    (line : Option RemarkLine) : trim (w ++ remarkText line) =
      w ++ (line.map fun line => ' ' :: remark (trimEnd line.chars)).getD [] := by
  cases line with
  | none => rw [remarkText, List.append_nil, tight.trim_eq, Option.map_none, Option.getD_none,
      List.append_nil]
  | some line =>
    obtain ⟨c, rest, rfl⟩ := List.exists_cons_of_ne_nil ne
    have blank : isBlank c = false := tight.starts c rfl
    have whole : c :: rest ++ remarkText (some line) =
        c :: ((rest ++ [' ', '/']) ++ '/' :: (line.chars ++ ['\n'])) := by
      simp [remarkText, remark]
    rw [whole, trim_append_cons blank rfl, trimEnd_append_blanks _ blanks_newline]
    simp [remark]

/-- A key and its type are cut at the colon, and the remark goes with the type. -/
theorem splitKey_field (key : Identifier) (type : TypeUnion) (line : Option RemarkLine) :
    Member.splitKey (trim (fieldText key type ++ remarkText line)) =
      (key.chars, trim (type.print ++ remarkText line)) := by
  have colon : Separating [':'] := by
    intro c hc
    rw [List.mem_singleton.1 hc]
    decide
  have field := solid_fieldText key type
  have bare : unwrap (fieldText key type ++ remarkText line) =
      trim (fieldText key type ++ remarkText line) := by
    refine unwrap_of_head ?_
    rw [trim_append_remarkText field.tight field.nonempty, head?_append_left field.nonempty]
    exact field.starts
  have behind : Passed [':'] ([' '] ++ (type.print ++ remarkText line)) :=
    (passed_blanks colon blanks_space).append
      ((Passed.of_run (type.solid.run.mono (by decide))).append (passed_remarkText colon line))
  have front : Passed [':'] key.chars := .of_run (key.solid.run.mono (by decide))
  have cut : split [':'] (trim (fieldText key type ++ remarkText line)) =
      [key.chars, trim (type.print ++ remarkText line)] := by
    have text : fieldText key type ++ remarkText line =
        key.chars ++ ':' :: ([' '] ++ (type.print ++ remarkText line)) := by simp [fieldText]
    rw [split_eq_members, unwrap_trim, bare, members_trim, members_eq colon, text,
      front.pieces_separator (by decide), behind.pieces_eq, List.map_cons, List.map_singleton,
      key.solid.tight.trim_eq, trim_blanks_append blanks_space]
  rw [Member.splitKey, cut]
  dsimp only
  rw [key.unquote_filter]
  rfl

theorem exists_fieldText (key : Identifier) (type : TypeUnion) :
    ∃ c rest, fieldText key type = c :: rest ∧ Plain c := by
  obtain ⟨c, rest, text⟩ := List.exists_cons_of_ne_nil key.nonempty
  exact ⟨c, _, by rw [fieldText, text]; rfl, key.plain c (by simp [text])⟩

/-- The remark in front of a member is that of the field before. -/
theorem leadingRemark?_noted (line : Option RemarkLine) (field : NotedField) :
    leadingRemark? (trim (remarkText line ++ field.print)) =
      some (remarkOf line, trim (fieldText field.key field.type ++ remarkText field.own)) := by
  obtain ⟨c, rest, text, plain⟩ : ∃ c rest,
      fieldText field.key field.type ++ remarkText field.own = c :: rest ∧ Plain c := by
    obtain ⟨c, rest, text, plain⟩ := exists_fieldText field.key field.type
    exact ⟨c, _, by rw [text]; rfl, plain⟩
  have slash : c ≠ '/' := plain.ne (by decide)
  cases line with
  | none =>
    rw [remarkText, List.nil_append, NotedField.print, trim_blanks_append field.blank, text,
      trim_cons plain.blank, leadingRemark?_cons plain.blank slash, ← trim_cons plain.blank,
      trim_trim]
    rfl
  | some line =>
    have whole : trim (remarkText (some line) ++ field.print) =
        remark line.chars ++ '\n' :: (field.indent ++ trim (c :: rest)) := by
      have spaced : remarkText (some line) ++ field.print =
          [' '] ++ '/' :: (('/' :: line.chars ++ '\n' :: field.indent) ++ c :: rest) := by
        rw [NotedField.print, text]
        simp [remarkText, remark]
      rw [spaced, trim_blanks_append blanks_space, trim_append_cons rfl plain.blank,
        trim_cons plain.blank]
      simp [remark]
    have head : ∀ d ∈ (trim (c :: rest)).head?, isBlank d = false ∧ d ≠ '/' := by
      rw [trim_cons plain.blank]
      rintro d ⟨⟩
      exact ⟨plain.blank, slash⟩
    rw [whole, leadingRemark?_remark line.one field.blank head, trim_trim, text]
    rfl

/-- The remark behind a type is that of its own field. -/
theorem trailingRemark_noted (type : TypeUnion) (line : Option RemarkLine) :
    trailingRemark (trim (type.print ++ remarkText line)) = (type.print, remarkOf line) := by
  have solid := type.solid
  rw [trim_append_remarkText solid.tight solid.nonempty]
  cases line with
  | none =>
    rw [Option.map_none, Option.getD_none, List.append_nil]
    exact solid.trailingRemark_eq
  | some line =>
    have one : '\n' ∉ trimEnd line.chars := fun hm => line.one (mem_of_mem_trimEnd hm)
    rw [Option.map_some, Option.getD_some,
      trailingRemark_remark solid.run solid.tight one (by rw [trim_trimEnd]; exact line.slash),
      trim_trimEnd]
    rfl

/-- The parts of a member. -/
theorem ofText_noted (line : Option RemarkLine) (field : NotedField) :
    Member.ofText true (trim (remarkText line ++ field.print)) =
      .ok ⟨remarkOf line, some (field.key.chars, field.type.print, remarkOf field.own)⟩ := by
  have some : ¬(trim (fieldText field.key field.type ++ remarkText field.own)).isEmpty = true := by
    rw [trim_append_remarkText (solid_fieldText _ _).tight (solid_fieldText _ _).nonempty]
    simp [(solid_fieldText field.key field.type).nonempty]
  rw [Member.ofText, leadingRemark?_noted]
  dsimp only
  rw [if_neg some, Member.keyAndType, if_pos rfl, splitKey_field]
  dsimp only
  rw [trailingRemark_noted]

/-- The last member when a note stands after the last field. -/
theorem ofText_remark (line : RemarkLine) :
    Member.ofText true (trim (remarkText (some line))) = .ok ⟨trim line.chars, none⟩ := by
  have one : '\n' ∉ trimEnd line.chars := fun hm => line.one (mem_of_mem_trimEnd hm)
  have text : trim (remarkText (some line)) = remark (trimEnd line.chars) := by
    have spaced : remarkText (some line) = [' '] ++ '/' :: ([] ++ '/' :: (line.chars ++ ['\n'])) :=
      rfl
    rw [spaced, trim_blanks_append blanks_space, trim_append_cons rfl rfl,
      trimEnd_append_blanks _ blanks_newline]
    rfl
  have parts : leadingRemark? (trim (remarkText (some line))) = some (trim line.chars, []) := by
    rw [text, leadingRemark?_last one, trim_trimEnd]
  rw [Member.ofText, parts]
  rfl

/-! ## Fields -/

namespace TypeExpr

/-- A field with what stands before its comma. -/
def firstField (noted : NotedField) : Field TypeExpr :=
  match noted.place with
  | .before _ => noted.field
  | _ => ⟨String.ofList noted.key.chars, noted.type.types, "", []⟩

theorem makeField_noted (place : Nat) (noted : NotedField) :
    makeField true place noted.key.chars (remarkOf noted.own) noted.type.types =
      .ok (firstField noted) := by
  rw [makeField_identifier]
  unfold NotedField.own firstField NotedField.field
  cases place : noted.place with
  | before note =>
    dsimp only
    rw [note.remarkOf_line, note.ofTail_print]
    rfl
  | nowhere | after _ => rfl

/-- A note after the comma goes back to its field. -/
theorem documentLast_next (noted : NotedField) (done : List (Field TypeExpr)) :
    documentLast (remarkOf noted.next) (firstField noted :: done) = .ok (noted.field :: done) := by
  unfold NotedField.next firstField NotedField.field
  cases place : noted.place with
  | nowhere | before _ => exact documentLast_nil _
  | after note =>
    dsimp only
    rw [note.remarkOf_line, documentLast]
    by_cases empty : trim note.print = []
    · -- A note that says nothing is passed over.
      have said := note.ofTail_print
      rw [empty, show Filter.ofTail [] _ = .ok ("", []) from rfl, Except.ok.injEq,
        Prod.mk.injEq] at said
      rw [if_pos (by simp [empty]), ← said.1, ← said.2]
    · rw [if_neg (by simpa using empty)]
      dsimp only
      rw [note.ofTail_print]
      rfl

/-- One member is one more field, after the note of the field before it. -/
theorem readFields_noted (line : Option RemarkLine) (noted : NotedField)
    {done done' : List (Field TypeExpr)} (before : documentLast (remarkOf line) done = .ok done')
    (rest : List (List Char)) :
    readFields true (trim (remarkText line ++ noted.print) :: rest) done =
      readFields true rest (firstField noted :: done') := by
  rw [readFields_cons, ofText_noted]
  dsimp only [bind, Except.bind]
  rw [before]
  dsimp only
  rw [noted.type.read_print.1]
  dsimp only
  rw [makeField_noted]

/-- The members are read as the fields. -/
theorem readFields_texts (fields : NotedFields) (line : Option RemarkLine)
    {done done' : List (Field TypeExpr)} (before : documentLast (remarkOf line) done = .ok done') :
    readFields true ((fields.texts line).map trim) done =
      .ok (done'.reverse ++ fields.fields) := by
  induction fields generalizing line done done' with
  | one noted =>
    rw [NotedFields.texts, List.map_cons, readFields_noted line noted before]
    have after := documentLast_next noted done'
    cases next : noted.next with
    | none =>
      rw [next, remarkOf, Option.map_none, Option.getD_none, documentLast_nil, Except.ok.injEq,
        List.cons.injEq] at after
      rw [Option.map_none, Option.getD_none, List.map_nil, readFields, after.1, List.reverse_cons]
      rfl
    | some line =>
      rw [next] at after
      rw [Option.map_some, Option.getD_some, List.map_singleton, readFields_cons, ofText_remark]
      refine bind_eq_ok.2 ⟨_, rfl, bind_eq_ok.2 ⟨_, after, ?_⟩⟩
      dsimp only
      rw [readFields, List.reverse_cons]
      rfl
  | more noted rest ih =>
    rw [NotedFields.texts, List.map_cons, readFields_noted line noted before,
      ih noted.next (documentLast_next noted done'), NotedFields.fields, List.reverse_cons,
      List.append_assoc, List.singleton_append]

end TypeExpr

/-! ## Object types -/

theorem Note.paired_line {types : List TypeExpr} (note : Note types) :
    Paired '{' '}' (remarkText (some note.line)) := by
  have description : Paired '{' '}' note.description :=
    .of_free (fun hm => (note.plain _ hm).1 rfl) fun hm => (note.plain _ hm).2.1 rfl
  have filters : Paired '{' '}'
      ((note.filters.map fun filters => ' ' :: filters.print).getD []) := by
    cases note.filters with
    | none => exact .of_free (by simp) (by simp)
    | some filters =>
      have space : Paired '{' '}' [' '] := .of_free (by decide) (by decide)
      exact space.append (filters.paired_body.wrap (by decide))
  have start : Paired '{' '}' [' ', '/', '/', ' '] := .of_free (by decide) (by decide)
  have newline : Paired '{' '}' ['\n'] := .of_free (by decide) (by decide)
  exact start.append ((description.append filters).append newline)

theorem NotedField.paired_own (noted : NotedField) : Paired '{' '}' (remarkText noted.own) := by
  unfold own
  cases noted.place with
  | before note => exact note.paired_line
  | nowhere | after _ => exact .of_free (by simp [remarkText]) (by simp [remarkText])

theorem NotedField.paired_next (noted : NotedField) : Paired '{' '}' (remarkText noted.next) := by
  unfold next
  cases noted.place with
  | after note => exact note.paired_line
  | nowhere | before _ => exact .of_free (by simp [remarkText]) (by simp [remarkText])

namespace NotedFields

theorem passed_print (line : Option RemarkLine) (noted : NotedField) :
    Passed [','] (remarkText line ++ noted.print) :=
  (passed_remarkText separating_comma line).append
    ((passed_blanks separating_comma noted.blank).append
      ((Passed.of_run (solid_fieldText noted.key noted.type).run).append
        (passed_remarkText separating_comma noted.own)))

/-- Only the commas between fields cut the text. -/
theorem pieces_print (fields : NotedFields) (line : Option RemarkLine) (previous : Option Char) :
    pieces [','] 0 previous (remarkText line ++ fields.print) = fields.texts line := by
  induction fields generalizing line previous with
  | one noted =>
    rw [print, texts]
    cases noted.next with
    | none =>
      rw [Option.map_none, Option.getD_none, List.append_nil, (passed_print line noted).pieces_eq]
      rfl
    | some next =>
      rw [Option.map_some, Option.getD_some, ← List.append_assoc,
        (passed_print line noted).pieces_separator (by decide),
        (passed_remarkText separating_comma (some next)).pieces_eq]
      rfl
  | more noted rest ih =>
    rw [print, texts, ← List.append_assoc,
      (passed_print line noted).pieces_separator (by decide), ih]

/-- The text of fields begins with a key. -/
theorem exists_trim_print (fields : NotedFields) :
    ∃ c rest, trim fields.print = c :: rest ∧ Plain c := by
  have first : ∀ (noted : NotedField) (more : List Char),
      ∃ c rest, trim (noted.print ++ more) = c :: rest ∧ Plain c := by
    intro noted more
    obtain ⟨c, rest, text, plain⟩ := exists_fieldText noted.key noted.type
    refine ⟨c, trimEnd (rest ++ remarkText noted.own ++ more), ?_, plain⟩
    rw [NotedField.print, List.append_assoc, trim_blanks_append noted.blank, text,
      List.cons_append, List.cons_append, trim_cons plain.blank]
  cases fields with
  | one noted => exact first noted _
  | more noted rest => exact first noted _

theorem split_print (fields : NotedFields) :
    split [','] fields.print = (fields.texts none).map trim := by
  have bare : unwrap fields.print = trim fields.print := by
    obtain ⟨c, rest, text, plain⟩ := fields.exists_trim_print
    refine unwrap_of_head ?_
    rw [text]
    exact fun same => plain.ne (by decide) (Option.some.inj same)
  rw [split_eq_members, bare, members_trim, members_eq separating_comma]
  exact congrArg (List.map trim) (fields.pieces_print none none)

/-- The braces in the text of fields are paired, those of filters included. -/
theorem paired_print (fields : NotedFields) : Paired '{' '}' fields.print := by
  have comma : Paired '{' '}' [','] := .of_free (by decide) (by decide)
  have field : ∀ noted : NotedField, Paired '{' '}' noted.print := fun noted =>
    have indent : Paired '{' '}' noted.indent :=
      .of_free (noted.blank.not_mem rfl) (noted.blank.not_mem rfl)
    indent.append ((Paired.of_balanced rfl (solid_fieldText noted.key noted.type).balanced).append
      noted.paired_own)
  induction fields with
  | one noted =>
    have next := noted.paired_next
    rw [print]
    cases after : noted.next with
    | none => simpa using field noted
    | some line =>
      rw [after] at next
      exact (field noted).append (comma.append next)
  | more noted rest ih => exact (field noted).append (comma.append (noted.paired_next.append ih))

/-- Every field of an object type has the description and the filters of its own note. -/
theorem read_literal (fields : NotedFields) : TypeExpr.read fields.literal =
    .ok [.object (String.ofList fields.literal) fields.fields] := by
  have tight : Tight fields.literal := .between rfl rfl fields.print
  have bare : unwrap fields.literal = fields.literal := by
    rw [unwrap_of_head (by rw [tight.trim_eq]; simp [literal]), tight.trim_eq]
  have short : TypeExpr.shorthand? fields.literal = none := by
    have colon : ':' ∈ fields.literal := by
      cases fields <;> simp [literal, print, NotedField.print, fieldText]
    exact TypeExpr.shorthand?_eq_none (asciiLower_not_mem colon (by decide))
  have alone : TypeExpr.unionMembers? fields.literal = none := by
    have run : Run TypeExpr.unionSeparators fields.literal :=
      Run.paired rfl (by decide) fields.paired_print
    have single : split TypeExpr.unionSeparators fields.literal = [fields.literal] := by
      rw [split, bare, (Joined.one run).pieces_eq, List.map_singleton, tight.trim_eq]
    simp [TypeExpr.unionMembers?, single]
  -- No remark stands in front of the first field.
  have first : TypeExpr.documentLast (remarkOf none) [] = .ok [] := rfl
  rw [TypeExpr.read_of_form (by rw [tight.trim_eq, short]) (by rw [tight.trim_eq, alone]),
    tight.trim_eq, bare, literal, Layer.ofText_braces, fields.split_print, TypeExpr.readForm,
    TypeExpr.readFields_texts fields none first]
  rfl

end NotedFields

/-- A field of numbers with a note before its comma. -/
def NotedField.sized : NotedField where
  indent := []
  blank := blanks_nil
  key := ⟨['a'], by decide, by decide⟩
  type := .one (.primitive .number)
  place := .before {
    description := "size".toList
    plain := by decide
    tight := ⟨by rintro c ⟨⟩; rfl, by rintro c ⟨⟩; rfl⟩
    dash := by decide
    filters := some {
      body := "min: 1".toList
      plain := by decide
      entries := [("min", .int 1)]
      read := rfl
      allowed := by
        refine .inr fun type mem => .inr ⟨.number, ?_⟩
        cases List.mem_singleton.1 mem
        refine ⟨rfl, fun filter mem => ?_⟩
        cases List.mem_singleton.1 mem
        exact ⟨_, rfl, rfl, by decide⟩ } }

/-- A field of texts with a note after its comma. -/
def NotedField.titled : NotedField where
  indent := [' ']
  blank := blanks_space
  key := ⟨['b'], by decide, by decide⟩
  type := .one (.primitive .string)
  place := .after {
    description := "title".toList
    plain := by decide
    tight := ⟨by rintro c ⟨⟩; rfl, by rintro c ⟨⟩; rfl⟩
    dash := by decide
    filters := none }

example : (NotedFields.more .sized (.one .titled)).literal =
      "\x7ba: number // size \x7bmin: 1\x7d\n, b: string, // title\n\x7d".toList ∧
    (NotedFields.more .sized (.one .titled)).fields = [
      ⟨"a", [.primitive "number" .number], "size", [⟨"min", .int 1, ""⟩]⟩,
      ⟨"b", [.primitive "string" .string], "title", []⟩] :=
  ⟨rfl, rfl⟩

end Docblock
