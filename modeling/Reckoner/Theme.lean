import Reckoner.Text.Fold

/-!
Colour themes: their names, the order in which they follow each other, and their palettes.
-/

namespace Reckoner

/-- A colour by its red, green and blue parts. -/
structure Color where
  red : UInt8
  green : UInt8
  blue : UInt8
  deriving DecidableEq, Repr

/-- The colour themes. -/
inductive Theme where
  | cyber
  | dark
  | light
  | nord
  deriving DecidableEq, Repr

/-- The colours of a theme by what they are used for. -/
structure Palette where
  background : Color
  panel : Color
  selection : Color
  accent : Color
  secondAccent : Color
  danger : Color
  foreground : Color
  muted : Color
  /-- The accent, thinned to a fifth over the background. -/
  border : Color
  deriving DecidableEq, Repr

namespace Theme

/-- Every theme, each before the one that follows it. -/
def all : List Theme := [.cyber, .dark, .light, .nord]

/-- The theme of a new installation. -/
def standard : Theme := .cyber

/-- The name of a theme. -/
def name : Theme → Text
  | .cyber => "cyber".toList
  | .dark => "dark".toList
  | .light => "light".toList
  | .nord => "nord".toList

/-- The theme after this one; after the last comes the first. -/
def next : Theme → Theme
  | .cyber => .dark
  | .dark => .light
  | .light => .nord
  | .nord => .cyber

/-- The theme of a name, without regard to case and to white space around it. -/
def ofName? (name : Text) : Option Theme :=
  all.find? (fun theme => theme.name = Text.fold (Text.trim name))

/-- What is said of a name that no theme has. -/
def unknownMessage (name : Text) : Text :=
  "Unknown theme: ".toList ++ Text.trim name ++ " (available: cyber, dark, light, nord)".toList

/-- The colours of a theme. -/
def palette : Theme → Palette
  | .cyber => {
      background := ⟨0x0A, 0x0E, 0x27⟩
      panel := ⟨0x15, 0x19, 0x32⟩
      selection := ⟨0x1E, 0x25, 0x42⟩
      accent := ⟨0x00, 0xFF, 0x88⟩
      secondAccent := ⟨0x00, 0xD4, 0xFF⟩
      danger := ⟨0xFF, 0x47, 0x57⟩
      foreground := ⟨0xFF, 0xFF, 0xFF⟩
      muted := ⟨0xA0, 0xA8, 0xC0⟩
      border := ⟨8, 62, 58⟩ }
  | .dark => {
      background := ⟨0x1A, 0x1A, 0x2E⟩
      panel := ⟨0x16, 0x21, 0x3E⟩
      selection := ⟨0x0F, 0x34, 0x60⟩
      accent := ⟨0xE9, 0x45, 0x60⟩
      secondAccent := ⟨0xF3, 0x9C, 0x12⟩
      danger := ⟨0xE7, 0x4C, 0x3C⟩
      foreground := ⟨0xFF, 0xFF, 0xFF⟩
      muted := ⟨0xBD, 0xC3, 0xC7⟩
      border := ⟨67, 35, 56⟩ }
  | .light => {
      background := ⟨0xF0, 0xF0, 0xF0⟩
      panel := ⟨0xFF, 0xFF, 0xFF⟩
      selection := ⟨0xE8, 0xE8, 0xE8⟩
      accent := ⟨0x34, 0x98, 0xDB⟩
      secondAccent := ⟨0x9B, 0x59, 0xB6⟩
      danger := ⟨0xE7, 0x4C, 0x3C⟩
      foreground := ⟨0x2C, 0x3E, 0x50⟩
      muted := ⟨0x7F, 0x8C, 0x8D⟩
      border := ⟨202, 222, 236⟩ }
  | .nord => {
      background := ⟨0x2E, 0x34, 0x40⟩
      panel := ⟨0x3B, 0x42, 0x52⟩
      selection := ⟨0x43, 0x4C, 0x5E⟩
      accent := ⟨0x88, 0xC0, 0xD0⟩
      secondAccent := ⟨0x81, 0xA1, 0xC1⟩
      danger := ⟨0xBF, 0x61, 0x6A⟩
      foreground := ⟨0xEC, 0xEF, 0xF4⟩
      muted := ⟨0xD8, 0xDE, 0xE9⟩
      border := ⟨64, 80, 93⟩ }

theorem ofName?_name (theme : Theme) : ofName? theme.name = some theme := by
  cases theme <;> decide +kernel

/-- The themes follow each other in a ring through all of them. -/
theorem next_next_next_next (theme : Theme) : theme.next.next.next.next = theme := by
  cases theme <;> rfl

end Theme

end Reckoner
