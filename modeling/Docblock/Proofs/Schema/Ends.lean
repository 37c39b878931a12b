import Docblock.Proofs.Block.Rendered
import Docblock.Proofs.Schema.Alternatives
import Docblock.Proofs.Text.Members

/-!
# Reading ends

The recursion of reading without a measure (`Shorthands.reading`). A shorthand is written out and
then read like any other expression, and what is left out of a map is read as the star, so what is
read next may be longer than what it came from. Nothing in the recursion says that it ends; with the
shorthands there are it does, for every expression, with what `read` gives (`reading_eq`): what a
shorthand stands for is read in a few steps, and every other expression goes on with shorter ones.

Not every set of shorthands has that property. One that is written out to a text with itself in it
would be read forever, and then the recursion has no outcome (`Attempt.outcome` is none). This is
why the shorthands are a parameter, and why the recursion is given as a least fixed point instead of
the definition with a measure, in which the question could not be asked.

Reading is refused for a remark only, and the characters inside an expression are characters of it
(`Layer.mem_of_mem_inner`). So an expression without a slash can be read, whatever else is wrong
with it (`reads_of_not_mem`). How deep the recursion goes is not bounded here.
-/

namespace Docblock

open Text

/-! ## Attempts -/

/-- Steps that give a result or break off, and need not end. -/
abbrev Attempt := ExceptT Fault Option

namespace Attempt

variable {α β : Type}

/-- What steps come to: nothing when they do not end. -/
def outcome (x : Attempt α) : Option (Except Fault α) := x.run

/-- A step that ends. -/
def lift (x : Except Fault α) : Attempt α := ExceptT.mk (some x)

@[simp] theorem outcome_lift (x : Except Fault α) : (lift x).outcome = some x := rfl

theorem lift_ok (a : α) : lift (.ok a) = pure a := rfl

theorem lift_pure (a : α) : lift (pure a) = pure a := rfl

/-- Steps that end one after the other end together. -/
theorem lift_bind (x : Except Fault α) (f : α → Except Fault β) :
    lift (x >>= f) = lift x >>= fun a => lift (f a) := by
  cases x <;> rfl

end Attempt

/-! ## The recursion -/

/-- What stands for an expression that is left out. -/
def TypeExpr.orAny (cs : List Char) : List Char := if cs.isEmpty then ['*'] else cs

/-- What expressions are written out to before they are read. -/
structure Shorthands where
  writtenOut : List Char → List Char

/-- The shorthands that there are. -/
def Shorthands.standard : Shorthands := ⟨TypeExpr.canonical⟩

namespace Shorthands

open Attempt TypeExpr

mutual

/-- The alternatives of a type expression. -/
def reading (shorthands : Shorthands) (cs : List Char) : Attempt (List TypeExpr) :=
  shorthands |>.readingWritten (shorthands.writtenOut cs)
partial_fixpoint

/-- The alternatives of an expression that is written out. -/
def readingWritten (shorthands : Shorthands) (cs : List Char) : Attempt (List TypeExpr) :=
  match unionMembers? cs with
  | some members => do
    let types ← shorthands |>.readingAll members
    return if types.isEmpty then [.any (String.ofList cs)] else types
  | none => shorthands |>.readingForm (String.ofList cs) (Layer.ofText (unwrap cs))
partial_fixpoint

/-- The type of an outermost form; `text` is what the type was read from. -/
def readingForm (shorthands : Shorthands) (text : String) (layer : Layer) :
    Attempt (List TypeExpr) :=
  match layer with
  | .any => return [any text]
  | .literal value => return [literal text value]
  | .primitive name => return [primitive text name]
  | .null => return [null text]
  | .undefined => return [undefined text]
  | .array element => do
    let element ← shorthands |>.reading element
    return [array text element]
  | .object members => do
    let fields ← shorthands |>.readingFields true members []
    return [object text fields]
  | .tuple members => do
    let fields ← shorthands |>.readingFields false members []
    return [tuple text fields]
  | .map key value => do
    let key ← shorthands |>.reading (orAny key)
    let value ← shorthands |>.reading (orAny value)
    return [map text key value]
  | .named name => return [named text (String.ofList name)]
partial_fixpoint

/-- The alternatives of several expressions, one after the other. -/
def readingAll (shorthands : Shorthands) (texts : List (List Char)) : Attempt (List TypeExpr) :=
  match texts with
  | [] => return []
  | text :: rest => do
    let types ← shorthands |>.reading text
    let others ← shorthands |>.readingAll rest
    return types ++ others
partial_fixpoint

/-- The fields of members, after those read so far, which are given last first. -/
def readingFields (shorthands : Shorthands) (keyed : Bool) (texts : List (List Char))
    (done : List (Field TypeExpr)) : Attempt (List (Field TypeExpr)) :=
  match texts with
  | [] => return done.reverse
  | text :: rest => do
    let member ← lift (Member.ofText keyed text)
    let done ← lift (documentLast member.leading done)
    match member.content with
    | none => shorthands |>.readingFields keyed rest done
    | some (key, type, trailing) => do
      let types ← shorthands |>.reading type
      let field ← lift (makeField keyed done.length key trailing types)
      shorthands |>.readingFields keyed rest (field :: done)
partial_fixpoint

end

end Shorthands

namespace TypeExpr

open Attempt Shorthands

theorem reading_canonical (cs : List Char) :
    standard.reading cs = standard.readingWritten (canonical cs) := by
  rw [reading]
  rfl

theorem readingWritten_of_form {cs : List Char} (hu : unionMembers? cs = none) :
    standard.readingWritten cs =
      standard.readingForm (String.ofList cs) (Layer.ofText (unwrap cs)) := by
  rw [readingWritten, hu]

theorem readingWritten_of_union {cs : List Char} {members : List (List Char)}
    (hu : unionMembers? cs = some members) :
    standard.readingWritten cs = (do
      let types ← standard.readingAll members
      return if types.isEmpty then [.any (String.ofList cs)] else types) := by
  rw [readingWritten, hu]

/-! ## What ends inside -/

/-- Reading an expression ends with what `read` gives. -/
def Ends (cs : List Char) : Prop := standard.reading cs = lift (read cs)

theorem readingAll_eq {texts : List (List Char)} (h : ∀ text ∈ texts, Within Ends text) :
    standard.readingAll texts = lift (readAll texts) := by
  induction texts with
  | nil => rw [readingAll, readAll, lift_ok]
  | cons text rest ih =>
    have first : standard.reading text = lift (read text) := h text (by simp) text (Nat.le_refl _)
    rw [readingAll, first, ih fun other hm => h other (by simp [hm]), readAll_cons]
    simp only [lift_bind, lift_pure]

theorem readingFields_eq {keyed : Bool} {texts : List (List Char)}
    (h : ∀ text ∈ texts, Within Ends text) (done : List (Field TypeExpr)) :
    standard.readingFields keyed texts done = lift (readFields keyed texts done) := by
  induction texts generalizing done with
  | nil => rw [readingFields, readFields, lift_ok]
  | cons text rest ih =>
    have others := ih fun other hm => h other (by simp [hm])
    rw [readingFields, readFields_cons, lift_bind]
    cases parts : Member.ofText keyed text with
    | error fault => rfl
    | ok member =>
      -- What the remark in front says of the field before has nothing to go on with.
      simp only [lift_ok, pure_bind, lift_bind]
      congr 1
      funext done
      cases content : member.content with
      | none => exact others done
      | some parts' =>
        obtain ⟨key, type, trailing⟩ := parts'
        have inside : standard.reading type = lift (read type) :=
          h text (by simp) type (Member.length_type_le parts content)
        simp only [inside, others, lift_bind]

theorem readingWritten_star : standard.readingWritten ['*'] = lift (.ok [.any "*"]) := by
  have form : Layer.ofText (unwrap ['*']) = .any := by rfl
  rw [readingWritten_of_form (by decide), form, readingForm]
  rfl

theorem reading_star : standard.reading ['*'] = lift (.ok [.any "*"]) := by
  have written : canonical ['*'] = ['*'] := by decide
  rw [reading_canonical, written, readingWritten_star]

/-- What is left out is read as the star. -/
theorem reading_orAny {cs : List Char} (h : Within Ends cs) :
    standard.reading (orAny cs) = lift (read cs) := by
  cases cs with
  | nil =>
    have nothing : read [] = .ok [.any "*"] := read_of_shorthand rfl
    rw [nothing]
    exact reading_star
  | cons c cs => exact h (c :: cs) (Nat.le_refl _)

theorem readingForm_eq {layer : Layer} (h : ∀ t ∈ layer.inner, Within Ends t) (text : String) :
    standard.readingForm text layer = lift (readForm text layer) := by
  cases layer with
  | array element =>
    have inside : standard.reading element = lift (read element) :=
      h element (by simp [Layer.inner]) element (Nat.le_refl _)
    simp only [readingForm, readForm, inside, lift_bind, lift_pure]
  | object members =>
    have inside : standard.readingFields true members [] = lift (readFields true members []) :=
      readingFields_eq h []
    simp only [readingForm, readForm, inside, lift_bind, lift_pure]
  | tuple members =>
    have inside : standard.readingFields false members [] = lift (readFields false members []) :=
      readingFields_eq h []
    simp only [readingForm, readForm, inside, lift_bind, lift_pure]
  | map key value =>
    have keys := reading_orAny (h key (by simp [Layer.inner]))
    have values := reading_orAny (h value (by simp [Layer.inner]))
    simp only [readingForm, readForm, keys, values, lift_bind, lift_pure]
  | _ =>
    rw [readingForm]
    rfl

/-! ## Shorthands -/

theorem readingWritten_stars : standard.readingWritten "*[]".toList =
    lift (.ok [.array "*[]" [.any "*"]]) := by
  have form : Layer.ofText (unwrap "*[]".toList) = .array ['*'] := by rfl
  rw [readingWritten_of_form (by decide), form, readingForm, reading_star]
  rfl

theorem readingWritten_object : standard.readingWritten "Object<*,*>".toList =
    lift (.ok [.map "Object<*,*>" [.any "*"] [.any "*"]]) := by
  have form : Layer.ofText (unwrap "Object<*,*>".toList) = .map ['*'] ['*'] := by rfl
  have star : orAny ['*'] = ['*'] := rfl
  rw [readingWritten_of_form (by decide), form, readingForm, star, reading_star]
  rfl

/-- Reading ends for a shorthand, though what it stands for may be longer. -/
theorem reading_of_shorthand {cs : List Char} {types : List TypeExpr}
    (hs : shorthand? (trim cs) = some types) : standard.reading cs = lift (.ok types) := by
  rw [reading_canonical, canonical, hs]
  -- One case for each of the expressions that words stand for.
  unfold shorthand? at hs
  dsimp only at hs
  split at hs
  · cases hs
    exact readingWritten_star
  · split at hs
    · cases hs
      exact readingWritten_stars
    · split at hs
      · cases hs
        exact readingWritten_object
      · cases hs

/-! ## Every expression -/

theorem canonical_of_none {cs : List Char} (hs : shorthand? (trim cs) = none) :
    canonical cs = trim cs := by
  rw [canonical, hs]

/-- The recursion without a measure ends with what `read` gives. -/
theorem reading_eq (cs : List Char) : standard.reading cs = lift (read cs) := by
  induction cs using induction_on with
  | shorthand cs types hs => rw [reading_of_shorthand hs, read_of_shorthand hs]
  | union cs members hs hu parts =>
    rw [reading_canonical, canonical_of_none hs, readingWritten_of_union hu, read_of_union hs hu,
      readingAll_eq parts, lift_bind]
    rfl
  | form cs hs hu inside =>
    rw [reading_canonical, canonical_of_none hs, readingWritten_of_form hu, read_of_form hs hu,
      readingForm_eq inside]

end TypeExpr

/-! ## The characters inside -/

theorem TypeExpr.mem_of_mem_unionMembers {cs : List Char} {members : List (List Char)}
    (hu : unionMembers? cs = some members) {member : List Char} {c : Char} (hm : member ∈ members)
    (hc : c ∈ member) : c ∈ cs := by
  unfold unionMembers? at hu
  dsimp only at hu
  split at hu
  · cases hu
    exact mem_of_mem_split (List.mem_filter.1 hm).1 hc
  · cases hu

namespace Layer

variable {cs body t : List Char} {c : Char}

theorem mem_of_mem_between {opener closer : Char} (h : between? opener closer cs = some body)
    (hc : c ∈ body) : c ∈ cs := by
  unfold between? at h
  split at h
  · cases h
    exact List.mem_of_mem_drop (List.mem_of_mem_dropLast hc)
  · cases h

theorem mem_of_mem_generic {word : List Char} (h : generic? word cs = some body) (hc : c ∈ body) :
    c ∈ cs := by
  unfold generic? at h
  split at h
  · have inside := mem_of_mem_between (Option.filter_eq_some_iff.1 h).1 hc
    split at inside
    · exact List.mem_of_mem_drop (List.mem_of_mem_drop inside)
    · exact List.mem_of_mem_drop inside
  · cases h

theorem mem_of_mem_arraySuffix (h : arraySuffix? cs = some body) (hc : c ∈ body) : c ∈ cs := by
  unfold arraySuffix? at h
  dsimp only at h
  split at h
  · split at h
    · cases h
      exact List.mem_of_mem_take hc
    · exact List.mem_of_mem_take (mem_of_mem_between h hc)
  · cases h

theorem mem_of_mem_mapBody (ht : t ∈ (ofMapBody body).inner) (hc : c ∈ t) : c ∈ body := by
  unfold ofMapBody at ht
  split at ht
  · rename_i key value rest cut
    have member : t ∈ split [','] body := by
      rw [cut]
      simp only [inner, List.mem_cons, List.not_mem_nil, or_false] at ht
      rcases ht with rfl | rfl <;> simp
    exact mem_of_mem_split member hc
  · rename_i key cut
    simp only [inner, List.mem_cons, List.not_mem_nil, or_false] at ht
    rcases ht with rfl | rfl
    · exact mem_of_mem_split (by rw [cut]; simp) hc
    · cases hc
  · simp only [inner, List.mem_cons, List.not_mem_nil, or_false, or_self] at ht
    subst ht
    cases hc

theorem mem_of_mem_forms {layer : Layer} (h : some layer ∈ forms cs) (ht : t ∈ layer.inner)
    (hc : c ∈ t) : c ∈ cs := by
  simp only [forms, List.mem_cons, List.not_mem_nil, or_false] at h
  rcases h with h | h | h | h | h | h | h | h | h | h | h
  · rw [inner_of_word h.symm] at ht
    cases ht
  · obtain ⟨number, -, rfl⟩ := Option.map_eq_some_iff.1 h.symm
    cases ht
  · obtain ⟨contents, -, rfl⟩ := Option.map_eq_some_iff.1 h.symm
    cases ht
  · rw [inner_of_primitive h.symm] at ht
    cases ht
  · obtain ⟨body, hb, rfl⟩ := Option.map_eq_some_iff.1 h.symm
    exact mem_of_mem_generic hb (List.mem_singleton.1 ht ▸ hc)
  · obtain ⟨body, hb, rfl⟩ := Option.map_eq_some_iff.1 h.symm
    exact mem_of_mem_arraySuffix hb (List.mem_singleton.1 ht ▸ hc)
  · obtain ⟨body, hb, rfl⟩ := Option.map_eq_some_iff.1 h.symm
    exact mem_of_mem_between hb (mem_of_mem_split ht hc)
  · obtain ⟨body, hb, rfl⟩ := Option.map_eq_some_iff.1 h.symm
    exact mem_of_mem_between hb (mem_of_mem_split ht hc)
  · obtain ⟨body, hb, rfl⟩ := Option.map_eq_some_iff.1 h.symm
    exact mem_of_mem_generic hb (mem_of_mem_mapBody ht hc)
  · obtain ⟨body, hb, rfl⟩ := Option.map_eq_some_iff.1 h.symm
    exact mem_of_mem_generic hb (mem_of_mem_mapBody ht hc)
  · split at h
    · cases h
      cases ht
    · cases h

/-- Every character inside a type expression is a character of the expression. -/
theorem mem_of_mem_inner (ht : t ∈ (ofText cs).inner) (hc : c ∈ t) : c ∈ cs := by
  unfold ofText at ht
  cases found : (forms cs).findSome? id with
  | none =>
    rw [found] at ht
    cases ht
  | some layer =>
    rw [found] at ht
    obtain ⟨form, hf, rfl⟩ := List.exists_of_findSome?_eq_some found
    exact mem_of_mem_forms hf ht hc

end Layer

namespace Member

/-- Beyond the colons in it, the type of a member has only characters of the member. -/
theorem mem_of_mem_keyAndType {keyed : Bool} {content : List Char} {c : Char}
    (hc : c ∈ (keyAndType keyed content).2) : c = ':' ∨ c ∈ content := by
  cases keyed with
  | false => exact .inr hc
  | true =>
    simp only [keyAndType, if_true, splitKey] at hc
    split at hc
    · cases hc
    · rename_i key rest cut
      -- What was cut at colons behind the first one is joined with colons again.
      rcases mem_join hc with colon | ⟨part, hp, inside⟩
      · exact .inl colon
      · exact .inr (mem_of_mem_split (by rw [cut]; exact List.mem_cons_of_mem _ hp) inside)

/-- A member without a slash has no remarks. -/
theorem ofText_of_not_mem {text : List Char} (free : '/' ∉ text) (keyed : Bool) :
    ∃ content, ofText keyed text = .ok ⟨[], content⟩ ∧
      ∀ key type trailing, content = some (key, type, trailing) → '/' ∉ type ∧ trailing = [] := by
  rw [ofText, leadingRemark?_of_not_mem free]
  dsimp only
  split
  · exact ⟨none, rfl, nofun⟩
  · have slash : '/' ∉ (keyAndType keyed (trim text)).2 := by
      intro hm
      rcases mem_of_mem_keyAndType hm with colon | hm
      · cases colon
      · exact free (mem_of_mem_trim hm)
    rw [trailingRemark_of_not_mem slash]
    refine ⟨_, rfl, fun key type trailing same => ?_⟩
    cases same
    exact ⟨fun hm => slash (mem_of_mem_trim hm), rfl⟩

end Member

/-! ## Without a slash -/

namespace TypeExpr

open Shorthands

/-- An expression can be read. -/
def Reads (cs : List Char) : Prop := ∃ types, read cs = .ok types

/-- A text has no slash, and every expression without one that is no longer can be read. -/
def ReadsWithin (text : List Char) : Prop :=
  '/' ∉ text ∧ Within (fun cs => '/' ∉ cs → Reads cs) text

theorem ReadsWithin.reads {text : List Char} (h : ReadsWithin text) : Reads text :=
  h.2 text (Nat.le_refl _) h.1

theorem exists_readAll {texts : List (List Char)} (h : ∀ text ∈ texts, ReadsWithin text) :
    ∃ types, readAll texts = .ok types := by
  induction texts with
  | nil => exact ⟨[], by rw [readAll]⟩
  | cons text rest ih =>
    obtain ⟨types, first⟩ := (h text (by simp)).reads
    obtain ⟨others, all⟩ := ih fun other hm => h other (by simp [hm])
    exact ⟨types ++ others, by rw [readAll_cons, first, all]; rfl⟩

/-- A field without a remark behind it can be made whatever its types are. -/
theorem exists_makeField (keyed : Bool) (place : Nat) (key : List Char) (types : List TypeExpr) :
    ∃ field, makeField keyed place key [] types = .ok field :=
  ⟨_, bind_eq_ok.2 ⟨("", []), rfl, rfl⟩⟩

theorem exists_readFields (keyed : Bool) {texts : List (List Char)}
    (h : ∀ text ∈ texts, ReadsWithin text) (done : List (Field TypeExpr)) :
    ∃ fields, readFields keyed texts done = .ok fields := by
  induction texts generalizing done with
  | nil => exact ⟨done.reverse, by rw [readFields]⟩
  | cons text rest ih =>
    have others := ih fun other hm => h other (by simp [hm])
    obtain ⟨free, shorter⟩ := h text (by simp)
    obtain ⟨content, parts, bare⟩ := Member.ofText_of_not_mem free keyed
    rw [readFields_cons, parts]
    -- No remark in front, so nothing is said of the field before.
    simp only [bind, Except.bind, documentLast_nil]
    cases content with
    | none => exact others done
    | some content =>
      obtain ⟨key, type, trailing⟩ := content
      obtain ⟨slash, rfl⟩ := bare key type trailing rfl
      obtain ⟨types, inside⟩ := shorter type (Member.length_type_le parts rfl) slash
      obtain ⟨field, made⟩ := exists_makeField keyed done.length key types
      simp only [inside, made]
      exact others (field :: done)

theorem exists_readForm {layer : Layer} (h : ∀ t ∈ layer.inner, ReadsWithin t) (text : String) :
    ∃ types, readForm text layer = .ok types := by
  cases layer with
  | array element =>
    obtain ⟨types, inside⟩ := (h element (by simp [Layer.inner])).reads
    exact ⟨_, bind_eq_ok.2 ⟨types, inside, rfl⟩⟩
  | object members =>
    obtain ⟨fields, inside⟩ := exists_readFields true h []
    exact ⟨_, bind_eq_ok.2 ⟨fields, inside, rfl⟩⟩
  | tuple members =>
    obtain ⟨fields, inside⟩ := exists_readFields false h []
    exact ⟨_, bind_eq_ok.2 ⟨fields, inside, rfl⟩⟩
  | map key value =>
    obtain ⟨keys, first⟩ := (h key (by simp [Layer.inner])).reads
    obtain ⟨values, second⟩ := (h value (by simp [Layer.inner])).reads
    exact ⟨_, bind_eq_ok.2 ⟨keys, first, bind_eq_ok.2 ⟨values, second, rfl⟩⟩⟩
  | _ => exact ⟨_, rfl⟩

/-- An expression without a slash can be read. -/
theorem reads_of_not_mem {cs : List Char} (free : '/' ∉ cs) : Reads cs := by
  induction cs using induction_on with
  | shorthand cs types hs => exact ⟨types, read_of_shorthand hs⟩
  | union cs members hs hu parts =>
    have readable : ∀ member ∈ members, ReadsWithin member := fun member hm =>
      ⟨fun hc => free (mem_of_mem_trim (mem_of_mem_unionMembers hu hm hc)), parts member hm⟩
    obtain ⟨types, all⟩ := exists_readAll readable
    exact ⟨_, (read_of_union hs hu).trans (bind_eq_ok.2 ⟨types, all, rfl⟩)⟩
  | form cs hs hu inside =>
    have readable : ∀ t ∈ (Layer.ofText (unwrap (trim cs))).inner, ReadsWithin t := fun t ht =>
      ⟨fun hc => free (mem_of_mem_trim (mem_of_mem_unwrap (Layer.mem_of_mem_inner ht hc))),
        inside t ht⟩
    obtain ⟨types, form⟩ := exists_readForm readable (String.ofList (trim cs))
    exact ⟨types, (read_of_form hs hu).trans form⟩

/-- Reading ends for every expression, with its types or with what is wrong with it, and one
without a slash has at least one type. -/
theorem outcome_reading (s : String) :
    (standard.reading s.toList).outcome = some (ofString s) ∧
      ('/' ∉ s.toList → ∃ first rest, ofString s = .ok (first :: rest)) := by
  refine ⟨by rw [reading_eq, Attempt.outcome_lift, ofString], fun free => ?_⟩
  obtain ⟨types, all⟩ := reads_of_not_mem free
  obtain ⟨first, rest, rfl⟩ := List.exists_cons_of_ne_nil (read_ne_nil all)
  exact ⟨first, rest, all⟩

/-- Brackets and quotes that are never closed. -/
theorem outcome_reading_open :
    '/' ∉ "\x7ba: (b, 'c<|[]".toList ∧
      ∃ first rest, ofString "\x7ba: (b, 'c<|[]" = .ok (first :: rest) := by
  have free : '/' ∉ "\x7ba: (b, 'c<|[]".toList := by decide
  exact ⟨free, (outcome_reading _).2 free⟩

end TypeExpr

end Docblock
