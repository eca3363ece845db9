import Reckoner.Text.Bytes
import Reckoner.Text.Columns

/-!
Wrapping as two loops. The outer one takes a word at a time and puts it on the line begun, or on a
new one if it does not fit; a word that is wider than a line is left to the inner loop, which cuts
one piece from its front in each pass. A piece is measured in columns, but cut off by its bytes. A
pass that would cut inside a character, or behind the end, is none at all.
-/

namespace Reckoner.Text

/-- The front of a word: its characters so far, their columns and their bytes. -/
structure Chunk where
  text : Text := []
  columns : Nat := 0
  bytes : Nat := 0
  deriving DecidableEq, Repr

namespace Chunk

/-- A front with one more character. -/
def push (chunk : Chunk) (c : Char) : Chunk :=
  { text := chunk.text ++ [c], columns := chunk.columns + charColumns c,
    bytes := chunk.bytes + c.utf8Size }

/-- A front with as many more characters as fit before the first that does not. -/
def fill (width : Nat) (chunk : Chunk) : Text → Chunk
  | [] => chunk
  | c :: rest =>
    if width < chunk.columns + charColumns c then chunk else (chunk.push c).fill width rest

/-- A front of a word that fits the width, or its first character if none does: a character wider
than the whole line still has to go somewhere. -/
def first (width : Nat) (word : Text) : Chunk :=
  let chunk := fill width {} word
  if chunk.bytes = 0 then
    let c := word.head?.getD ' '
    { chunk with text := chunk.text ++ [c], bytes := c.utf8Size }
  else chunk

end Chunk

/-- How far the two loops have come. -/
structure Wrapping where
  /-- The lines that are done. -/
  lines : List Text := []
  /-- The line begun. -/
  line : Text := []
  /-- The columns of the line begun. -/
  used : Nat := 0
  /-- What is left of a word that is cut into pieces. -/
  remaining : Text := []
  /-- The words after that. -/
  words : List Text
  deriving DecidableEq, Repr

/-- What a pass comes to. -/
inductive Pass where
  | next (wrapping : Wrapping)
  | ended (lines : List Text)
  deriving DecidableEq, Repr

namespace Wrapping

/-- Before the first pass. -/
def start (text : Text) : Wrapping := { words := Text.words text }

/-- The line begun put to those that are done. -/
def close (wrapping : Wrapping) : Wrapping :=
  { wrapping with lines := wrapping.lines ++ [trim wrapping.line], line := [], used := 0 }

/-- One piece cut from what is left of a word, on a line of its own. -/
def cut (width : Nat) (wrapping : Wrapping) : Option Wrapping :=
  let chunk := Chunk.first width wrapping.remaining
  let closed := if wrapping.line = [] then wrapping else wrapping.close
  (cutAt? chunk.bytes wrapping.remaining).map (fun (_, behind) =>
    { closed with lines := closed.lines ++ [chunk.text], remaining := behind })

/-- A word put on the line begun, or on a new one if there is no room. -/
def add (width : Nat) (word : Text) (wrapping : Wrapping) : Wrapping :=
  let roomy :=
    if width < wrapping.used + columns word + 1 ∧ wrapping.line ≠ [] then wrapping.close
    else wrapping
  let spaced :=
    if roomy.line = [] then roomy
    else { roomy with line := roomy.line ++ [' '], used := roomy.used + 1 }
  { spaced with line := spaced.line ++ word, used := spaced.used + columns word }

/-- The lines when there is nothing left to take. -/
def finish (wrapping : Wrapping) : List Text :=
  if wrapping.line = [] then wrapping.lines else wrapping.close.lines

/-- One pass of the inner loop while it has something to cut, else one of the outer loop. -/
def pass (width : Nat) (wrapping : Wrapping) : Option Pass :=
  match wrapping.remaining, wrapping.words with
  | _ :: _, _ => (wrapping.cut width).map .next
  | [], [] => some (.ended wrapping.finish)
  | [], word :: rest =>
    if width < columns word then some (.next { wrapping with remaining := word, words := rest })
    else some (.next ({ wrapping with words := rest }.add width word))

/-- Passes that come to an end with the given lines. -/
inductive Ends (width : Nat) : Wrapping → List Text → Prop
  | ended {wrapping : Wrapping} {lines : List Text}
      (last : wrapping.pass width = some (.ended lines)) : Ends width wrapping lines
  | next {wrapping after : Wrapping} {lines : List Text}
      (passes : wrapping.pass width = some (.next after)) (later : Ends width after lines) :
      Ends width wrapping lines

end Wrapping

end Reckoner.Text
