import Reckoner.Theme

/-!
Styles of text on a screen. A style says only what it changes: a colour that it does not name stays
as it was, and bold and underline can be added but not taken away.
-/

namespace Reckoner

/-- Colours and emphasis. -/
structure Style where
  foreground : Option Color := none
  background : Option Color := none
  bold : Bool := false
  underlined : Bool := false
  deriving DecidableEq, Repr

namespace Style

/-- The style that changes nothing. -/
def plain : Style := {}

/-- Text in a colour. -/
def colored (color : Color) : Style := { foreground := some color }

/-- The same style in bold. -/
def inBold (style : Style) : Style := { style with bold := true }

/-- A style with another one on top of it. -/
def patch (below above : Style) : Style where
  foreground := above.foreground <|> below.foreground
  background := above.background <|> below.background
  bold := below.bold || above.bold
  underlined := below.underlined || above.underlined

theorem patch_plain (style : Style) : style.patch plain = style := by
  simp [patch, plain]

theorem plain_patch (style : Style) : plain.patch style = style := by
  cases style with
  | mk foreground background bold underlined =>
    cases foreground <;> cases background <;> simp [patch, plain]

end Style

/-- A text in one style. -/
structure Span where
  text : Text
  style : Style := Style.plain
  deriving DecidableEq, Repr

/-- A line of text in several styles. -/
abbrev StyledLine := List Span

/-- The text of a line without its styles. -/
def StyledLine.text (line : StyledLine) : Text := line.flatMap Span.text

end Reckoner
