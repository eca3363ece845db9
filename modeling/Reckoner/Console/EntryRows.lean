import Reckoner.Console.Highlight
import Reckoner.Console.State
import Reckoner.Text.Wrap

/-!
The rows that show the entries of the list: the expression, wrapped, with its result and age behind
the first part of it, then the steps of a detailed evaluation and the time it took, and a line of
dashes between entries.
-/

namespace Reckoner

namespace Entry

/-- The rows of the expression. The first one ends in the result and its age. -/
def expressionRows (palette : Palette) (now : Moment) (isSelected : Bool) (width : Nat)
    (entry : Entry) : List StyledLine :=
  let muted := Style.colored palette.muted
  let surroundings :=
    Style.colored (if isSelected then palette.secondAccent else palette.foreground)
  let outcome : StyledLine :=
    [⟨" = ".toList, muted⟩,
     ⟨Answer.text entry.result, (Style.colored palette.accent).inBold⟩,
     ⟨"  (".toList ++ entry.moment.ageText now ++ ")".toList, muted⟩]
  match Text.wrap width (Spacing.format entry.input) with
  | [] => []
  | first :: rest =>
    (⟨"> ".toList, Style.colored palette.accent⟩ :: Highlight.spans surroundings palette first
        ++ outcome)
      :: rest.map (fun line =>
        ⟨"  ".toList, Style.plain⟩ :: Highlight.spans surroundings palette line)

/-- The text of a step, numbered from one. -/
def stepText (number : Nat) (step : Step) : Text :=
  "Step ".toList ++ Text.ofNat number ++ ": ".toList ++ step.application.text ++ " = ".toList
    ++ Answer.text step.result

/-- The rows of one step. -/
def stepRows (palette : Palette) (width number : Nat) (step : Step) : List StyledLine :=
  let muted := Style.colored palette.muted
  match Text.wrap width (stepText number step) with
  | [] => []
  | first :: rest =>
    [⟨"    - ".toList ++ first, muted⟩] ::
      rest.map (fun line => [⟨"      ".toList ++ line, muted⟩])

/-- A time in nanoseconds as milliseconds. -/
def milliseconds (elapsed : Nat) : Float :=
  ((elapsed / Moment.secondNanos).toFloat
    + (elapsed % Moment.secondNanos).toFloat / Moment.secondNanos.toFloat) * 1000.0

/-- The row that says how long the evaluation took. -/
def timeRow (palette : Palette) (elapsed : Nat) : StyledLine :=
  [⟨"    - Time: ".toList ++ fixedText 6 (milliseconds elapsed) ++ " ms".toList,
    Style.colored palette.secondAccent⟩]

/-- The rows of a detailed evaluation below its expression. -/
def detailRows (palette : Palette) (width : Nat) (entry : Entry) : List StyledLine :=
  if entry.detailed then
    entry.steps.zipIdx.flatMap (fun (step, index) => stepRows palette width (index + 1) step)
      ++ [timeRow palette entry.elapsed]
  else []

/-- All rows of an entry. -/
def rows (palette : Palette) (now : Moment) (isSelected : Bool) (width : Nat) (entry : Entry) :
    List StyledLine :=
  entry.expressionRows palette now isSelected width ++ entry.detailRows palette width

end Entry

namespace Console

/-- The line of dashes between two entries. -/
def dashes (palette : Palette) (width : Nat) : StyledLine :=
  [⟨Text.copies width '-', Style.colored palette.border⟩]

/-- The rows of each entry, with the dashes that follow it, for a list of the given width. -/
def entryBlocks (console : Console) (now : Moment) (width : Nat) : List (List StyledLine) :=
  let palette := console.theme.palette
  console.entries.zipIdx.map (fun (entry, index) =>
    entry.rows palette now (index = console.selected) (width - 4)
      ++ (if index + 1 < console.entries.length then [dashes palette width] else []))

/-- The row at which each block starts, the first one at the given row. -/
def blockStarts : Nat → List (List StyledLine) → List Nat
  | _, [] => []
  | start, block :: rest => start :: blockStarts (start + block.length) rest

end Console

end Reckoner
