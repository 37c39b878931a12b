import Docblock.Proofs.Schema.Syntax

/-!
# The text of types

The text of a type is solid (`TypeTree.solid`): every scanner passes over it without stopping, and
it has nothing at its ends that would be taken away. With commas, colons and bars between them solid
texts stay solid for the scanners that do not stop there.

What a solid text has to have is what the scanners ask for together, and no single one needs all of
it: a search for a closing bracket asks that it is balanced, a scan for separators that it is a run,
and trimming and unwrapping look at the ends. The induction over trees is done once for all of them.
Then each scanner is told what to make of the text (`Solid.split_eq`, `Solid.unwrap_eq`), and the
trees are not opened again for that.

Separators are a parameter, since alternatives have bars in their text and items have none outside
brackets. Items and fields are both lists of texts with commas (`listed`), and what is said of the
one kind of list holds of the other.
-/

namespace Docblock

open Text

/-- A text that no scanner stops in and that nothing is taken away from at its ends. -/
structure Solid (stops w : List Char) : Prop where
  nonempty : w ≠ []
  run : Run stops w
  balanced : Balanced w
  tight : Tight w
  starts : w.head? ≠ some '('
  ends : w.getLast? ≠ some '['

namespace Solid

variable {stops v w : List Char}

theorem mono {fewer : List Char} (h : Solid stops w) (hs : ∀ c ∈ fewer, c ∈ stops) :
    Solid fewer w := { h with run := h.run.mono hs }

/-- A text of plain characters. -/
theorem of_plain (hs : ∀ c ∈ stops, c ∈ marks) (hne : w ≠ []) (h : ∀ c ∈ w, Plain c) :
    Solid stops w where
  nonempty := hne
  run := Plain.run hs h
  balanced := Plain.balanced h
  tight := Plain.tight h
  starts hc := (h _ (List.mem_of_head? hc)).ne (by decide) rfl
  ends hc := (h _ (List.mem_of_getLast? hc)).ne (by decide) rfl

/-- Two solid texts with characters between them that the scanners do not stop at. -/
theorem join (hv : Solid stops v) (between : List Char) (hw : Solid stops w)
    (free : ∀ c ∈ between, c ∉ stops ∧ c ≠ '/' ∧ isBracket c = false ∧ isQuote c = false) :
    Solid stops (v ++ (between ++ w)) where
  nonempty h := hv.nonempty (List.append_eq_nil_iff.1 h).1
  run := by
    have run : Run stops (between ++ w) := by
      induction between with
      | nil => exact hw.run
      | cons c rest ih =>
        obtain ⟨hs, hslash, hb, hq⟩ := free c (by simp)
        exact .single hs hslash hb hq (ih fun d hd => free d (by simp [hd]))
    exact hv.run.append run
  balanced := hv.balanced.append
    ((Balanced.of_all fun c hc => (free c hc).2.2.1).append hw.balanced)
  tight := by
    constructor
    · rw [head?_append_left hv.nonempty]
      exact hv.tight.starts
    · rw [← List.append_assoc, getLast?_append_right _ hw.nonempty]
      exact hw.tight.ends
  starts := by
    rw [head?_append_left hv.nonempty]
    exact hv.starts
  ends := by
    rw [← List.append_assoc, getLast?_append_right _ hw.nonempty]
    exact hw.ends

/-- A plain word with balanced text in brackets after it. -/
theorem enclosed {word : String} {o c : Char} (pair : closerOf? o = some c)
    (hs : ∀ d ∈ stops, d ∈ marks) (free : o ∉ stops) (round : o ≠ '(')
    (plain : ∀ d ∈ word.toList, Plain d) (hw : Balanced w) :
    Solid stops (Docblock.enclosed word o w c) where
  nonempty h := by simp [Docblock.enclosed] at h
  run := (Plain.run hs plain).append (.bracket pair free hw)
  balanced := (Plain.balanced plain).append (.wrap pair hw)
  tight := by
    have blanks : isBlank o = false ∧ isBlank c = false := by
      rcases closerOf?_eq_some.1 pair with ⟨rfl, rfl⟩ | ⟨rfl, rfl⟩ | ⟨rfl, rfl⟩ | ⟨rfl, rfl⟩ <;>
        decide
    constructor
    · intro d hd
      unfold Docblock.enclosed at hd
      cases hword : word.toList with
      | nil =>
        rw [hword] at hd
        cases hd
        exact blanks.1
      | cons e rest =>
        rw [hword] at hd
        cases hd
        exact (plain d (by rw [hword]; simp)).blank
    · intro d hd
      simp only [Docblock.enclosed, List.getLast?_append, List.getLast?_cons, Option.mem_def,
        Option.some_or, Option.getD_some, Option.some.injEq] at hd
      exact hd ▸ blanks.2
  starts hd := by
    unfold Docblock.enclosed at hd
    cases hword : word.toList with
    | nil =>
      rw [hword] at hd
      exact round (Option.some.inj hd)
    | cons e rest =>
      rw [hword] at hd
      exact (plain e (by rw [hword]; simp)).ne (by decide) (Option.some.inj hd)
  ends hd := by
    have other : c ≠ '[' := by
      rcases closerOf?_eq_some.1 pair with ⟨rfl, rfl⟩ | ⟨rfl, rfl⟩ | ⟨rfl, rfl⟩ | ⟨rfl, rfl⟩ <;>
        decide
    simp only [Docblock.enclosed, List.getLast?_append, List.getLast?_cons, Option.some_or,
      Option.getD_some, Option.some.injEq] at hd
    exact other hd

end Solid

/-- The characters between types. -/
def typeStops : List Char := ['|', '&', ',', ':']

/-- The characters between items and after keys. -/
def memberStops : List Char := [',', ':']

theorem plain_toDigits (n : Nat) : ∀ c ∈ Nat.toDigits 10 n, Plain c :=
  fun _ hc => .of_isDigit (Nat.isDigit_of_mem_toDigits (by decide) (by decide) hc)

theorem plain_wholeText (n : Int) : ∀ c ∈ NumberLiteral.wholeText n, Plain c := by
  intro c hc
  unfold NumberLiteral.wholeText at hc
  split at hc
  · rcases List.mem_cons.1 hc with rfl | hc
    · exact ⟨by decide, by decide⟩
    · exact plain_toDigits _ c hc
  · exact plain_toDigits _ c hc

theorem solid_wholeText (n : Int) : Solid typeStops (NumberLiteral.wholeText n) := by
  refine .of_plain (by decide) ?_ (plain_wholeText n)
  have digits : Nat.toDigits 10 n.natAbs ≠ [] :=
    List.ne_nil_of_length_pos Nat.length_toDigits_pos
  unfold NumberLiteral.wholeText
  split
  · simp
  · exact digits

theorem Identifier.plain (key : Identifier) : ∀ c ∈ key.chars, Plain c := by
  intro c hc
  rcases key.word c hc with word | rfl
  · exact .of_isWord word
  · exact ⟨by decide, by decide⟩

theorem Identifier.solid (key : Identifier) : Solid typeStops key.chars :=
  .of_plain (by decide) key.nonempty key.plain

theorem TypeName.solid (name : TypeName) : Solid typeStops name.chars :=
  .of_plain (by decide) name.nonempty fun c hc => .of_isWord (name.word c hc)

theorem StringBody.solid (body : StringBody) : Solid typeStops ('\'' :: (body.chars ++ ['\''])) where
  nonempty := by simp
  run := .quoted rfl (by decide) fun c hc => ⟨(body.free c hc).1, (body.free c hc).2.1⟩
  balanced := .cons rfl ((Balanced.of_all fun c hc => (body.free c hc).2.2).append (.cons rfl .nil))
  tight := .between (by decide) (by decide) body.chars
  starts := by simp
  ends := by simp [List.getLast?_cons]

mutual

/-- No scanner stops in the text of a type. -/
theorem TypeTree.solid : (tree : TypeTree) → Solid typeStops tree.print
  | .any => .of_plain (by decide) (by decide) (by decide)
  | .boolean b => by
    cases b <;> exact .of_plain (by decide) (by decide) (by decide)
  | .integer n _ => solid_wholeText n
  | .string body => body.solid
  | .primitive name => by
    cases name <;> exact .of_plain (by decide) (by decide) (by decide)
  | .null => .of_plain (by decide) (by decide) (by decide)
  | .undefined => .of_plain (by decide) (by decide) (by decide)
  | .array element =>
    .enclosed rfl (by decide) (by decide) (by decide) (by decide) element.solid.balanced
  | .map key value => by
    have body : Solid [] (key.print ++ ([',', ' '] ++ value.print)) :=
      (key.solid.mono (by simp)).join _ (value.solid.mono (by simp)) (by decide)
    exact .enclosed rfl (by decide) (by decide) (by decide) (by decide) body.balanced
  | .tuple items =>
    .enclosed rfl (by decide) (by decide) (by decide) (by simp) items.solid.balanced
  | .object fields =>
    .enclosed rfl (by decide) (by decide) (by decide) (by simp) fields.solid.balanced
  | .named name => name.solid

/-- The scanners that stop between items and after keys do not stop in alternatives. -/
theorem TypeUnion.solid : (union : TypeUnion) → Solid memberStops union.print
  | .one type => type.solid.mono (by decide)
  | .more type rest => (type.solid.mono (by decide)).join ['|'] rest.solid (by decide)

theorem TypeItems.solid : (items : TypeItems) → Solid [] items.print
  | .one item => item.solid.mono (by simp)
  | .more item rest => (item.solid.mono (by simp)).join [',', ' '] rest.solid (by decide)

theorem TypeFields.solid : (fields : TypeFields) → Solid [] fields.print
  | .one key type =>
    (key.solid.mono (by simp)).join [':', ' '] (type.solid.mono (by simp)) (by decide)
  | .more key type rest =>
    (key.solid.mono (by simp)).join [':', ' ']
      ((type.solid.mono (by simp)).join [',', ' '] rest.solid (by decide)) (by decide)

end

/-! ## What the scanners make of solid texts -/

namespace Solid

variable {stops w : List Char}

theorem unwrap_eq (h : Solid stops w) : unwrap w = w := by
  unfold unwrap
  rw [h.tight.trim_eq, if_neg fun hc => h.starts hc.1]

theorem leadingRemark?_eq (h : Solid stops w) : leadingRemark? w = some ([], w) := by
  cases h.run with
  | nil => exact absurd rfl h.nonempty
  | @cons c span rest free slash spans run =>
    have blank := h.tight.starts c (by simp)
    have split : splitLeading? false (c :: (span ++ rest)) = some ([], c :: (span ++ rest)) := by
      rw [splitLeading?, if_neg (by simp [blank]), if_neg slash]
    unfold leadingRemark?
    rw [split]
    simp [h.tight.trim_eq, flattenRemarks, joinRemarks]

theorem trailingRemark_eq (h : Solid stops w) : trailingRemark w = (w, []) := by
  unfold trailingRemark
  rw [splitTrailing_run h.run]
  simp [h.tight.trim_eq]

/-- A solid text is its own only piece. -/
theorem split_eq (h : Solid stops w) : split stops w = [w] := by
  rw [split, h.unwrap_eq, (Joined.one h.run).pieces_eq]
  simp [h.tight.trim_eq]

end Solid

/-- The texts of alternatives. -/
def TypeUnion.texts : TypeUnion → List (List Char)
  | .one type => [type.print]
  | .more type rest => type.print :: rest.texts

/-- The texts of items. -/
def TypeItems.texts : TypeItems → List (List Char)
  | .one item => [item.print]
  | .more item rest => item.print :: rest.texts

/-- The text of a field. -/
def fieldText (key : Identifier) (type : TypeUnion) : List Char :=
  key.chars ++ ':' :: ' ' :: type.print

/-- The texts of fields. -/
def TypeFields.texts : TypeFields → List (List Char)
  | .one key type => [fieldText key type]
  | .more key type rest => fieldText key type :: rest.texts

theorem map_trim_of_solid {stops : List Char} {texts : List (List Char)}
    (h : ∀ text ∈ texts, Solid stops text) : texts.map trim = texts := by
  have same : texts.map trim = texts.map id :=
    List.map_congr_left fun text ht => (h text ht).tight.trim_eq
  rw [same, List.map_id]

theorem TypeUnion.solid_texts :
    (union : TypeUnion) → ∀ text ∈ union.texts, Solid typeStops text
  | .one type, text, ht => by
    rw [List.mem_singleton.1 ht]
    exact type.solid
  | .more type rest, text, ht => by
    rcases List.mem_cons.1 ht with rfl | ht
    · exact type.solid
    · exact rest.solid_texts text ht

theorem TypeUnion.joined : (union : TypeUnion) → Joined ['|', '&'] union.print union.texts
  | .one type => .one (type.solid.run.mono (by decide))
  | .more type rest => .more (type.solid.run.mono (by decide)) (by decide) rest.joined

/-- Every alternative is a piece of its own. -/
theorem TypeUnion.split_print (union : TypeUnion) : split ['|', '&'] union.print = union.texts := by
  rw [split, union.solid.unwrap_eq, union.joined.pieces_eq, map_trim_of_solid union.solid_texts]

/-! ## Lists with commas -/

/-- Texts with a comma and a space between each two. -/
def listed : List (List Char) → List Char
  | [] => []
  | [text] => text
  | text :: rest => text ++ ',' :: ' ' :: listed rest

theorem listed_cons (text : List Char) {rest : List (List Char)} (h : rest ≠ []) :
    listed (text :: rest) = text ++ ',' :: ' ' :: listed rest := by
  cases rest with
  | nil => exact absurd rfl h
  | cons next more => rfl

theorem solid_listed {texts : List (List Char)} (hne : texts ≠ [])
    (h : ∀ text ∈ texts, Solid [','] text) : Solid [] (listed texts) := by
  induction texts with
  | nil => exact absurd rfl hne
  | cons text rest ih =>
    have solid : Solid [] text := (h text (by simp)).mono (by simp)
    cases rest with
    | nil => exact solid
    | cons next more =>
      exact solid.join [',', ' '] (ih (by simp) fun t ht => h t (by simp [ht])) (by decide)

theorem exists_joined_listed {texts : List (List Char)} (hne : texts ≠ [])
    (h : ∀ text ∈ texts, Solid [','] text) (before : List Char) (hb : ∀ c ∈ before, c = ' ') :
    ∃ raw, Joined [','] (before ++ listed texts) raw ∧ raw.map trim = texts := by
  have spaces : ∀ {before : List Char}, (∀ c ∈ before, c = ' ') →
      (∀ c ∈ before, isBlank c = true) ∧ Run [','] before := by
    intro before hb
    refine ⟨fun c hc => by rw [hb c hc]; decide, ?_⟩
    induction before with
    | nil => exact .nil
    | cons c rest ih =>
      rw [hb c (by simp)]
      exact .single (by decide) (by decide) (by decide) (by decide)
        (ih fun d hd => hb d (by simp [hd]))
  obtain ⟨blanks, run⟩ := spaces hb
  induction texts generalizing before with
  | nil => exact absurd rfl hne
  | cons text rest ih =>
    have solid := h text (by simp)
    have trimmed : trim (before ++ text) = text := trim_append before blanks solid.tight
    cases rest with
    | nil => exact ⟨[before ++ text], .one (run.append solid.run), by simp [trimmed]⟩
    | cons next more =>
      obtain ⟨blanks', run'⟩ := @spaces [' '] (by simp)
      obtain ⟨raw, joined, hraw⟩ :=
        ih (by simp) (fun t ht => h t (by simp [ht])) [' '] (by simp) blanks' run'
      refine ⟨(before ++ text) :: raw, ?_, by rw [List.map_cons, trimmed, hraw]⟩
      have := Joined.more (run.append solid.run) (List.mem_singleton.2 rfl) joined
      rwa [List.append_assoc] at this

/-- Every solid text in a list is a piece of its own. -/
theorem split_listed {texts : List (List Char)} (hne : texts ≠ [])
    (h : ∀ text ∈ texts, Solid [','] text) : split [','] (listed texts) = texts := by
  obtain ⟨raw, joined, hraw⟩ := exists_joined_listed hne h [] (by simp)
  rw [List.nil_append] at joined
  rw [split, (solid_listed hne h).unwrap_eq, joined.pieces_eq, hraw]

/-! ## Items and fields are lists -/

theorem TypeItems.texts_ne_nil (items : TypeItems) : items.texts ≠ [] := by
  cases items <;> simp [texts]

theorem TypeItems.listed_texts : (items : TypeItems) → listed items.texts = items.print
  | .one item => rfl
  | .more item rest => by
    rw [texts, listed_cons _ rest.texts_ne_nil, rest.listed_texts, print]

theorem TypeItems.solid_texts : (items : TypeItems) → ∀ text ∈ items.texts, Solid [','] text
  | .one item, text, ht => by
    rw [List.mem_singleton.1 ht]
    exact item.solid.mono (by decide)
  | .more item rest, text, ht => by
    rcases List.mem_cons.1 ht with rfl | ht
    · exact item.solid.mono (by decide)
    · exact rest.solid_texts text ht

/-- Every item is a member of its own. -/
theorem TypeItems.split_print (items : TypeItems) : split [','] items.print = items.texts := by
  rw [← items.listed_texts, split_listed items.texts_ne_nil items.solid_texts]

/-- A key of any kind with its type. -/
theorem solid_keyed {key : List Char} (h : Solid typeStops key) (type : TypeUnion) :
    Solid [','] (key ++ ':' :: ' ' :: type.print) :=
  (h.mono (by decide)).join [':', ' '] (type.solid.mono (by decide)) (by decide)

theorem solid_fieldText (key : Identifier) (type : TypeUnion) :
    Solid [','] (fieldText key type) :=
  solid_keyed key.solid type

theorem TypeFields.texts_ne_nil (fields : TypeFields) : fields.texts ≠ [] := by
  cases fields <;> simp [texts]

theorem TypeFields.listed_texts : (fields : TypeFields) → listed fields.texts = fields.print
  | .one key type => rfl
  | .more key type rest => by
    rw [texts, listed_cons _ rest.texts_ne_nil, rest.listed_texts, print, fieldText,
      List.append_assoc]
    rfl

theorem TypeFields.solid_texts : (fields : TypeFields) → ∀ text ∈ fields.texts, Solid [','] text
  | .one key type, text, ht => by
    rw [List.mem_singleton.1 ht]
    exact solid_fieldText key type
  | .more key type rest, text, ht => by
    rcases List.mem_cons.1 ht with rfl | ht
    · exact solid_fieldText key type
    · exact rest.solid_texts text ht

/-- Every field is a member of its own. -/
theorem TypeFields.split_print (fields : TypeFields) : split [','] fields.print = fields.texts := by
  rw [← fields.listed_texts, split_listed fields.texts_ne_nil fields.solid_texts]

/-- The key and the value of a map are its members. -/
theorem split_mapBody (key value : TypeUnion) :
    split [','] (key.print ++ ',' :: ' ' :: value.print) = [key.print, value.print] :=
  (TypeItems.more key (.one value)).split_print

/-- A key and its type are cut at the colon between them. -/
theorem split_keyed {key : List Char} (h : Solid typeStops key) (type : TypeUnion) :
    split [':'] (key ++ ':' :: ' ' :: type.print) = [key, type.print] := by
  have run : Run [':'] (' ' :: type.print) :=
    .single (by decide) (by decide) (by decide) (by decide) (type.solid.run.mono (by decide))
  have joined : Joined [':'] (key ++ ':' :: ' ' :: type.print) [key, ' ' :: type.print] :=
    .more (h.run.mono (by decide)) (by decide) (.one run)
  rw [split, (solid_keyed h type).unwrap_eq, joined.pieces_eq, List.map_cons,
    List.map_cons, List.map_nil, h.tight.trim_eq]
  rw [show ' ' :: type.print = [' '] ++ type.print from rfl,
    trim_append [' '] (by decide) type.solid.tight]

end Docblock
