import Reckoner.Command
import Reckoner.Text.Bytes

/-!
Commands read by bytes. The lower case of a line says which words it starts or ends with, and the
argument is then cut out of the line itself, so many bytes from its start or from its end. A line
and its lower case need not be equally long, so such a cut may fall inside a character or outside
the line, where there is nothing to read.
-/

namespace Reckoner

/-- What stands before so many bytes at the end of a text and what stands in them, if the text can
be cut there. -/
def Text.cutBefore? (count : Nat) (text : Text) : Option (Text × Text) :=
  if count ≤ byteLength text then cutAt? (byteLength text - count) text else none

theorem Text.cutBefore?_append (first second : Text) :
    cutBefore? (byteLength second) (first ++ second) = some (first, second) := by
  rw [cutBefore?, byteLength_append, if_pos (Nat.le_add_left _ _), Nat.add_sub_cancel]
  exact cutAt?_append first second

namespace Command

/-- A word that a line with an argument starts with. -/
structure Opening where
  word : Text
  /-- Where the argument starts, in bytes. -/
  bytes : Nat
  command : Text → Command

/-- What comes before the name of a theme. -/
def naming : Opening := ⟨"theme ".toList, 6, fun name => .theme (some name)⟩

/-- What comes before the path of an export. -/
def exporting : Opening := ⟨"export ".toList, 7, .exportTo⟩

/-- What comes before an expression to be evaluated in steps. -/
def detailing : Opening := ⟨"details ".toList, 8, fun expression => .evaluate expression true⟩

/-- The words that come before an argument. -/
def openings : List Opening := [naming, exporting, detailing]

/-- The word that comes behind an expression. -/
def closing : Text := " details".toList

/-- The bytes from the end of a line that are left away with the word behind an expression; the
blank in front of the word goes when the rest is trimmed. -/
def closingBytes : Nat := 7

/-- The command of a line that is trimmed and not empty, by its lower case. -/
def ofSlices? (lowered line : Text) : Option Command :=
  match words.lookup lowered with
  | some command => some command
  | none =>
    match openings.find? (fun opening => opening.word.isPrefixOf lowered) with
    | some opening =>
      (Text.cutAt? opening.bytes line).map (fun cut => opening.command (Text.trim cut.2))
    | none =>
      if closing.isSuffixOf lowered then
        (Text.cutBefore? closingBytes line).map (fun cut => .evaluate (Text.trim cut.1) true)
      else some (.evaluate line false)

/-- The command of a line by the lower case of what is left of it after trimming. There is none for a
blank line, and no answer at all if a cut misses. -/
def parseSlices? (lowered line : Text) : Option (Option Command) :=
  let line := Text.trim line
  if line = [] then some none else (ofSlices? lowered line).map some

example : ofSlices? "theme nord".toList "Theme Nord".toList = some (.theme (some "Nord".toList)) := by
  decide

end Command

end Reckoner
