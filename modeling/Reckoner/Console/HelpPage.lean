import Reckoner.Console.State
import Reckoner.Console.MainPage

/-!
The help page, which fills the screen and may be scrolled.
-/

namespace Reckoner

namespace HelpPage

/-- What a line of the help page is. -/
inductive Kind where
  | title
  | heading
  | body
  deriving DecidableEq, Repr

/-- The lines of the help page. -/
def content : List (Kind × Text) :=
  [(.title, "CyberCalc - Terminal Calculator".toList),
   (.body, []),
   (.heading, "Operators (highest precedence last):".toList),
   (.body, "  + : Addition        (e.g., 5 + 3 = 8)".toList),
   (.body, "  - : Subtraction     (e.g., 10 - 4 = 6)".toList),
   (.body, "  * : Multiplication  (e.g., 6 * 7 = 42)  also ×".toList),
   (.body, "  / : Division        (e.g., 15 / 3 = 5)  also ÷".toList),
   (.body, "  ^ : Exponentiation  (e.g., 2 ^ 3 ^ 2 = 512, right to left)".toList),
   (.body, "  -x : Negation       (e.g., -2 ^ 2 = -4)".toList),
   (.body, []),
   (.heading, "Functions (argument in parentheses):".toList),
   (.body, "  sin(x), cos(x), tan(x) : Trigonometry (x in radians)".toList),
   (.body, "  sqrt(x)  : Square root".toList),
   (.body, "  ln(x)    : Natural logarithm".toList),
   (.body, "  log(x)   : Base-10 logarithm".toList),
   (.body, "  abs(x)   : Absolute value".toList),
   (.body, []),
   (.heading, "Constants:".toList),
   (.body, "  π : 3.14159... (Ctrl+P)".toList),
   (.body, []),
   (.heading, "Commands:".toList),
   (.body, "  details <expression> : Show step-by-step evaluation with time".toList),
   (.body, "  m+ / mr / mc : Add last result to memory / recall / clear".toList),
   (.body, "  theme [name] : Switch theme (cyber, dark, light, nord)".toList),
   (.body, "  export <file> : Write history as JSON".toList),
   (.body, "  clear : Clear calculation history".toList),
   (.body, "  help : Show this help screen".toList),
   (.body, "  quit : Exit the calculator".toList),
   (.body, []),
   (.heading, "Navigation:".toList),
   (.body, "  ← → : Move cursor left/right".toList),
   (.body, "  Ctrl+←/→ : Move cursor by words".toList),
   (.body, "  Home/End : Move to start/end of line".toList),
   (.body, "  ↑ ↓ : Navigate calculation history".toList),
   (.body, "  PgUp/PgDn : Page through history".toList),
   (.body, "  F2 : Next theme    Ctrl+U : Clear input    Esc : Dismiss message".toList),
   (.body, []),
   (.heading, "Examples:".toList),
   (.body, "  (2 + 3) * 4".toList),
   (.body, "  sqrt(16) + log(1000)".toList),
   (.body, "  details 2 ^ 3 ^ 2".toList),
   (.body, "  -(10 - 15) / 2".toList)]

/-- The style of a line. -/
def styleOf (palette : Palette) : Kind → Style
  | .title => (Style.colored palette.accent).inBold
  | .heading => { foreground := some palette.secondAccent, underlined := true }
  | .body => Style.plain

/-- The lines in their styles. -/
def lines (palette : Palette) : List StyledLine :=
  content.map (fun (kind, text) => [⟨text, styleOf palette kind⟩])

/-- The frame around the page. -/
def frame (palette : Palette) : Frame where
  symbols := BorderSymbols.double
  style := { foreground := some palette.foreground, background := some palette.background }
  border := Style.colored palette.accent
  title := " CyberCalc Help ".toList

/-- The scroll is counted in words of 16 bits. -/
def scrollLimit : Nat := 65536

/-- Draws the page on a terminal of a given size. -/
def draw (palette : Palette) (scroll width height : Nat) : Drawing :=
  let screen := Screen.blank width height
  { screen := (screen.drawFrame screen.area (frame palette)).drawWrapped screen.area.inner .left
      (scroll % scrollLimit) (lines palette) }

end HelpPage

namespace Console

/-- Draws what is shown on a terminal of a given size. -/
def draw (console : Console) (now : Moment) (width height : Nat) : Console × Drawing :=
  if console.showsHelp then
    (console, HelpPage.draw console.theme.palette console.helpScroll width height)
  else MainPage.draw console now width height

end Console

end Reckoner
