import Reckoner.Text.Columns

/-!
Wrapping of a text to a width in columns. Words are put on a line while they fit, with single blanks
between them; a word wider than a line starts on a line of its own and is cut into pieces that fit,
and a character wider than a line is a piece by itself.
-/

namespace Reckoner.Text

/-- The pieces of the unread characters, given the piece begun so far, last character first, and its
columns. -/
def piecesFrom (width : Nat) (begun : Text) (used : Nat) : Text → List Text
  | [] => if begun = [] then [] else [begun.reverse]
  | c :: rest =>
    if begun = [] || used + charColumns c ≤ width then
      piecesFrom width (c :: begun) (used + charColumns c) rest
    else begun.reverse :: piecesFrom width [c] (charColumns c) rest

/-- A word cut into pieces that fit a width. -/
def pieces (width : Nat) (word : Text) : List Text := piecesFrom width [] 0 word

/-- The lines for the words that are left, given the line begun so far and its columns. -/
def linesFrom (width : Nat) (line : Text) (used : Nat) : List Text → List Text
  | [] => if line = [] then [] else [line]
  | word :: rest =>
    let wide := columns word
    let begun := if line = [] then [] else [line]
    if width < wide then begun ++ pieces width word ++ linesFrom width [] 0 rest
    else if line = [] then linesFrom width word wide rest
    else if width < used + wide + 1 then line :: linesFrom width word wide rest
    else linesFrom width (line ++ [' '] ++ word) (used + 1 + wide) rest

/-- A text wrapped to lines of at most the given columns. -/
def wrap (width : Nat) (text : Text) : List Text :=
  if width = 0 then [[]] else linesFrom width [] 0 (words text)

end Reckoner.Text
