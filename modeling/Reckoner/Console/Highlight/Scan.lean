import Reckoner.Console.Highlight

/-!
Highlighting in one pass. The characters of a word or a number are collected, and two flags tell
which of the two they are; the collected text becomes a span when a character of another kind comes,
or the end.
-/

namespace Reckoner.Highlight

/-- The style of a word. -/
def wordStyle (surroundings : Style) (palette : Palette) (word : Text) : Style :=
  if isFunctionName word then functionStyle palette else surroundings

/-- The style of a character that is a span by itself. -/
def signStyle (surroundings : Style) (palette : Palette) (c : Char) : Style :=
  if Spacing.isOperator c then operatorStyle palette
  else if c = ' ' then Style.plain
  else surroundings

/-- How far a pass has come. -/
structure Scan where
  /-- The spans made so far. -/
  done : StyledLine := []
  /-- The characters collected for the next span. -/
  current : Text := []
  inWord : Bool := false
  inNumber : Bool := false
  deriving DecidableEq, Repr

namespace Scan

variable (surroundings : Style) (palette : Palette)

/-- The collected characters as a word. -/
def flushWord (scan : Scan) : Scan :=
  { scan with
    done := scan.done ++ [⟨scan.current, wordStyle surroundings palette scan.current⟩]
    current := []
    inWord := false }

/-- The collected characters as a number. -/
def flushNumber (scan : Scan) : Scan :=
  { scan with
    done := scan.done ++ [⟨scan.current, numberStyle palette⟩]
    current := []
    inNumber := false }

/-- One more character. -/
def step (scan : Scan) (c : Char) : Scan :=
  if isWordy c then
    let scan := if scan.inNumber then scan.flushNumber palette else scan
    { scan with current := scan.current ++ [c], inWord := true }
  else if isNumeric c then
    let scan := if scan.inWord then scan.flushWord surroundings palette else scan
    { scan with current := scan.current ++ [c], inNumber := true }
  else
    let scan :=
      if scan.inWord then scan.flushWord surroundings palette
      else if scan.inNumber then scan.flushNumber palette
      else scan
    { scan with done := scan.done ++ [⟨[c], signStyle surroundings palette c⟩] }

/-- The spans at the end of a text. -/
def finish (scan : Scan) : StyledLine :=
  if scan.inWord then (scan.flushWord surroundings palette).done
  else if scan.inNumber then (scan.flushNumber palette).done
  else scan.done

/-- The spans that one pass makes of a text. -/
def run (text : Text) : StyledLine :=
  (text.foldl (step surroundings palette) {}).finish surroundings palette

end Scan

end Reckoner.Highlight
