import Reckoner.Console.Event
import Reckoner.Text.Bytes

/-!
The input line by bytes. The text is kept in UTF-8 and the cursor is a count of characters, so that
each change first looks up the byte that the cursor stands at. A change that would cut the text
inside a character or beyond its end, or look at a character that is not there, is none at all.
-/

namespace Reckoner

/-- What the keys that edit the input line ask for. -/
inductive Edit where
  | insert (c : Char)
  | clear
  | deleteBefore
  | deleteAfter
  | left
  | right
  | wordLeft
  | wordRight
  | lineStart
  | lineEnd
  deriving DecidableEq, Repr

/-- What a key asks for while the help page is not shown, if it edits the input line. -/
def KeyPress.edit? (press : KeyPress) : Option Edit :=
  match press.code with
  | .char c =>
    if press.control then
      if c = 'u' || c = 'U' then some .clear else if c = 'p' then some (.insert 'π') else none
    else if press.alt then none
    else some (.insert c)
  | .backspace => some .deleteBefore
  | .delete => some .deleteAfter
  | .left => some (if press.control then .wordLeft else .left)
  | .right => some (if press.control then .wordRight else .right)
  | .lineStart => some .lineStart
  | .lineEnd => some .lineEnd
  | _ => none

/-- The input line as a text and a count of characters before the cursor. -/
@[ext]
structure Buffer where
  input : Text := []
  cursor : Nat := 0
  scroll : Nat := 0
  deriving DecidableEq, Repr

namespace Buffer

/-- Text put in at the cursor. -/
def insert (buffer : Buffer) (text : Text) : Option Buffer :=
  (Text.insertAt? (Text.byteIndex buffer.input buffer.cursor) text buffer.input).map
    (fun input => { buffer with input := input, cursor := buffer.cursor + text.length })

/-- The character after the cursor taken out, if there is one. -/
def deleteAfter (buffer : Buffer) : Option Buffer := do
  let index := Text.byteIndex buffer.input buffer.cursor
  let (_, after) ← Text.cutAt? index buffer.input
  match after with
  | [] => return buffer
  | c :: _ =>
    let input ← Text.cutOut? index (index + c.utf8Size) buffer.input
    return { buffer with input := input }

/-- The character before the cursor taken out, if there is one. -/
def deleteBefore (buffer : Buffer) : Option Buffer :=
  if 0 < buffer.cursor then { buffer with cursor := buffer.cursor - 1 }.deleteAfter
  else some buffer

/-- The count of characters that are left before a place when those of a kind are passed over. -/
def passLeft (kind : Char → Bool) (input : Text) : Nat → Option Nat
  | 0 => some 0
  | place + 1 => do
    let c ← input[place]?
    if kind c then passLeft kind input place else return place + 1

/-- The place from which on the next character is of another kind, or the end. -/
def passRight (kind : Char → Bool) (input : Text) (place : Nat) : Option Nat :=
  if place < input.length then
    match input[place]? with
    | none => none
    | some c => if kind c then passRight kind input (place + 1) else some place
  else some place
termination_by input.length - place

/-- The cursor at a place, or at the end if that comes first. -/
def moveTo (buffer : Buffer) (place : Nat) : Buffer :=
  { buffer with cursor := min place buffer.input.length }

/-- The cursor passed over white space and then over the word before it. -/
def moveWordLeft (buffer : Buffer) : Option Buffer := do
  let place ← passLeft Text.isBlank buffer.input buffer.cursor
  let place ← passLeft (fun c => !Text.isBlank c) buffer.input place
  return buffer.moveTo place

/-- The cursor passed over the word that it is in and then over white space. -/
def moveWordRight (buffer : Buffer) : Option Buffer := do
  let place ← passRight (fun c => !Text.isBlank c) buffer.input buffer.cursor
  let place ← passRight Text.isBlank buffer.input place
  return buffer.moveTo place

/-- The line after an edit. -/
def perform (buffer : Buffer) : Edit → Option Buffer
  | .insert c => buffer.insert [c]
  | .clear => some {}
  | .deleteBefore => buffer.deleteBefore
  | .deleteAfter => buffer.deleteAfter
  | .left => some { buffer with cursor := buffer.cursor - 1 }
  | .right => some (buffer.moveTo (buffer.cursor + 1))
  | .wordLeft => buffer.moveWordLeft
  | .wordRight => buffer.moveWordRight
  | .lineStart => some { buffer with cursor := 0, scroll := 0 }
  | .lineEnd => some { buffer with cursor := buffer.input.length }

/-- The line after edits, one after the other. -/
def performAll (buffer : Buffer) (edits : List Edit) : Option Buffer :=
  edits.foldlM perform buffer

end Buffer

end Reckoner
