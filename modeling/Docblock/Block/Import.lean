import Docblock.Text.Blank

/-!
# Imports of source text

A statement that imports a file for its effects alone begins a line with the word, after blanks at
most, and then has the path in quotes.

Only lines are looked at, and not where they stand, so a statement in a comment counts as one.
Imports that bind names are no part of this. What a file takes from another by name is written in
its tags.
-/

namespace Docblock

open Text

/-- A single or a double quotation mark. -/
def isStringQuote (c : Char) : Bool := c == '\'' || c == '"'

/-- The path that an import at the start of a line names, and the length of the statement. The
two quotes need not be equal. -/
def importAt? (cs : List Char) : Option (List Char × Nat) :=
  match cs.dropWhile isIndent with
  | 'i' :: 'm' :: 'p' :: 'o' :: 'r' :: 't' :: rest =>
    match rest.dropWhile isBlank with
    | quote :: rest =>
      let path := rest.takeWhile fun c => !isStringQuote c && c != '\n'
      match rest.drop path.length with
      | c :: after =>
        if isStringQuote quote && !path.isEmpty && isStringQuote c then
          some (path, cs.length - after.length)
        else none
      | [] => none
    | [] => none
  | _ => none

/-- The paths of the imports of a text, in order. The first `skip` characters belong to one. -/
def importsFrom : Nat → Bool → List Char → List String
  | _, _, [] => []
  | skip + 1, _, c :: rest => importsFrom skip (c == '\n') rest
  | 0, lineStart, c :: rest =>
    match if lineStart then importAt? (c :: rest) else none with
    | some (path, length) =>
      String.ofList path :: importsFrom (length - 1) (c == '\n') rest
    | none => importsFrom 0 (c == '\n') rest

/-- The paths that a source imports for their effects alone, in order. -/
def sideEffectImports (code : String) : List String := importsFrom 0 true code.toList

end Docblock
