import Reckoner.Text.Columns.Ligature

/-!
What stands behind a character, as far as it bears on the columns that the character adds. Pictures
tied together by joiners are drawn as one picture: a picture and its modifier, a flag of two regional
indicators or of a black flag and the tags of a region, a keycap. A variation selector asks for one
of two forms of the character in front of it. So a text is measured from its end, one character at a
time (`Following.prepend`), with the `Tail` read so far and the selector in front of it.

No character takes back more columns than were counted for the tail behind it (`Tail.slack`,
`Following.slack_prepend`).
-/

namespace Reckoner.Text

/-- The form that a variation selector asks for. -/
inductive Selector where
  | picture
  | text
  deriving DecidableEq, Repr

/-- How many regional indicators stand in front of joined pictures. -/
inductive Indicators where
  | one
  | even
  | odd
  deriving DecidableEq, Repr

/-- The tags read so far of the code of a region, from its end: letters, or digits in front of at
most four letters. -/
inductive RegionTags where
  | letters (count : Nat)
  | digits (count : Nat)
  deriving DecidableEq, Repr

namespace RegionTags

/-- The tags with one more in front of them. -/
def extend? (c : Char) : RegionTags → Option RegionTags
  | .letters count =>
    if within 0xE0061 0xE007A c.toNat then
      if count < 6 then some (.letters (count + 1)) else none
    else if within 0xE0030 0xE0039 c.toNat && count < 5 then some (.digits 1)
    else none
  | .digits count =>
    if within 0xE0030 0xE0039 c.toNat && count < 3 then some (.digits (count + 1)) else none

/-- Whether the tags may be the whole code of a region. -/
def isWhole : RegionTags → Bool
  | .letters count => within 3 6 count
  | .digits count => count = 3

end RegionTags

/-- What a text begins with. -/
inductive Tail where
  /-- Nothing that a character in front of it would join. -/
  | other
  | lineFeed
  | picture
  /-- A modifier of the picture in front of it. -/
  | modifier
  /-- A regional indicator. -/
  | indicator
  /-- Two or more regional indicators. -/
  | indicators
  /-- A joiner and a picture. -/
  | joined
  /-- The frame of a keycap that is joined to a picture. -/
  | joinedKeycap
  /-- Regional indicators that are joined to a picture. -/
  | joinedIndicators (count : Indicators)
  /-- The tags of a region whose flag is joined to a picture. -/
  | joinedTags (tags : RegionTags)
  /-- A form of the Arabic letter alef. -/
  | alef
  /-- The end of a ligature, with a joiner in front of it or not. -/
  | ligature (ending : Ending) (tied : Bool)
  deriving DecidableEq, Repr

/-- The regional indicators, two of which stand for a flag. -/
def isIndicator (c : Char) : Bool := within 0x1F1E6 0x1F1FF c.toNat

/-- Characters drawn as pictures that are neither modifiers nor regional indicators. -/
def isPicture (c : Char) : Bool :=
  pictureRanges.contains c.toNat && !isIndicator c && !isModifier c

/-- The joiner. -/
def isJoiner (c : Char) : Bool := c.toNat = 0x200D

namespace Tail

/-- The tail that a character is by itself. -/
def ofChar (c : Char) : Tail :=
  if isAlef c then .alef
  else if isIndicator c then .indicator
  else if isModifier c then .modifier
  else if isPicture c then .picture
  else match Ending.ofChar? c with
    | some ending => .ligature ending false
    | none => .other

/-- The tail that is left of the end of a ligature. -/
def ofEnding : Option Ending → Tail
  | some ending => .ligature ending false
  | none => .other

/-- The columns that a character adds in front of a tail, if the two are drawn together, and the
tail that they make. -/
def join? (c : Char) : Tail → Option (Int × Tail)
  | .other | .lineFeed | .joinedKeycap => none
  | .picture => if isJoiner c then some (0, .joined) else none
  | .modifier =>
    if modifierBaseRanges.contains c.toNat then some (0, .picture)
    else if isJoiner c then some (0, .joined)
    else none
  | .indicator => if isIndicator c then some (1, .indicators) else none
  | .indicators =>
    if isIndicator c then some (1, .indicators)
    else if isJoiner c then some (0, .joined)
    else none
  | .joined =>
    if c.toNat = 0x20E3 then some (0, .joinedKeycap)
    else if isIndicator c then some (1, .joinedIndicators .one)
    else if isModifier c then some (0, .modifier)
    else if c.toNat = 0xE007F then some (0, .joinedTags (.letters 0))
    else if isPicture c then some (0, .picture)
    else none
  | .joinedIndicators .one =>
    if isIndicator c then some (-1, .joinedIndicators .even) else none
  | .joinedIndicators .even =>
    if isIndicator c then some (3, .joinedIndicators .odd)
    else if isJoiner c then some (0, .joined)
    else none
  | .joinedIndicators .odd =>
    if isIndicator c then some (-1, .joinedIndicators .even)
    else if isJoiner c then some (0, .joined)
    else none
  | .joinedTags tags =>
    if c.toNat = 0x1F3F4 && tags.isWhole then some (0, .picture)
    else (tags.extend? c).map fun more => (0, .joinedTags more)
  | .alef =>
    if isLam c then some (0, .other)
    else if isTransparentMark c then some (0, .alef)
    else none
  | .ligature ending tied =>
    if isJoiner c then some (0, .ligature ending true)
    else if isInvisibleMark c then some (0, .ligature ending tied)
    else (ending.extend? c tied).map fun (own, more) => (own, ofEnding more)

/-- Whether a picture in front of the tail would be joined to another one. -/
def isJoined : Tail → Bool
  | .joined | .joinedKeycap => true
  | _ => false

/-- The columns that a character in front of a tail may take back. -/
def slack : Tail → Int
  | .joinedIndicators .one | .joinedIndicators .odd => 1
  | .ligature ending _ => ending.slack
  | _ => 0

theorem slack_ofEnding (more : Option Ending) :
    (ofEnding more).slack = (more.map Ending.slack).getD 0 := by
  cases more <;> rfl

theorem slack_nonneg (tail : Tail) : 0 ≤ tail.slack := by
  cases tail with
  | joinedIndicators count => cases count <;> decide
  | ligature ending tied => cases ending <;> simp [slack, Ending.slack]
  | _ => simp [slack]

theorem slack_ofChar (c : Char) : (ofChar c).slack ≤ charColumns c := by
  unfold ofChar
  split
  · simp [slack]
  split
  · simp [slack]
  split
  · simp [slack]
  split
  · simp [slack]
  split
  · next ending read => exact Ending.slack_ofChar? read
  · simp [slack]

theorem slack_join? {c : Char} {tail made : Tail} {own : Int}
    (joins : tail.join? c = some (own, made)) : made.slack ≤ own + tail.slack := by
  cases tail with
  | ligature ending tied =>
    simp only [join?] at joins
    split at joins
    · cases joins; simp [slack]
    split at joins
    · cases joins; simp [slack]
    · obtain ⟨⟨added, more⟩, extended, eq⟩ := Option.map_eq_some_iff.1 joins
      cases eq
      rw [slack_ofEnding]
      exact Ending.slack_extend? extended
  | joinedTags tags =>
    simp only [join?] at joins
    split at joins
    · cases joins; simp [slack]
    · obtain ⟨more, _, eq⟩ := Option.map_eq_some_iff.1 joins
      cases eq
      simp [slack]
  | joinedIndicators count =>
    cases count <;> simp only [join?] at joins <;> grind [slack]
  | _ =>
    simp only [join?] at joins
    grind [slack]

end Tail

/-- A tail and the variation selector in front of it, if there is one. -/
structure Following where
  tail : Tail
  selector : Option Selector
  deriving DecidableEq, Repr

namespace Following

/-- Nothing that a character in front of it would join. -/
def nothing : Following := ⟨.other, none⟩

/-- A selector in front of a tail. The end of a ligature is still seen behind it, and behind the one
that asks for a picture the pictures that this will be joined to. -/
def select (selector : Selector) : Tail → Following
  | .ligature ending tied => ⟨.ligature ending tied, some selector⟩
  | tail => if selector = .picture && tail.isJoined then ⟨tail, some selector⟩
    else ⟨.other, some selector⟩

/-- The tail that a character has behind it to which the selector does not apply. -/
def unselected : Following → Tail
  | ⟨tail, none⟩ => tail
  | ⟨.ligature ending tied, some _⟩ => .ligature ending tied
  | ⟨_, some _⟩ => .other

/-- Whether a selector makes a character a picture. -/
def makesPicture (c : Char) (next : Following) : Bool :=
  next.selector = some .picture && selectableRanges.contains c.toNat

/-- Whether a selector makes a text of a character that is else a picture. Signs in a frame are as
wide in a text as in a picture. -/
def makesText (c : Char) (next : Following) : Bool :=
  next.selector = some .text && selectableRanges.contains c.toNat
    && pictureRanges.contains c.toNat && !within 0x1F200 0x1F2FF c.toNat

/-- The columns that a character adds in front of what follows it, and what the character in front
of it will see. -/
def prepend (c : Char) (next : Following) : Int × Following :=
  if next.makesPicture c then (if next.tail.isJoined then 0 else 2, ⟨.picture, none⟩)
  else if c.toNat ≤ 0xA0 then
    if c = '\n' then (1, ⟨.lineFeed, none⟩)
    else if c = '\r' && next.tail = .lineFeed then (0, nothing)
    else (1, nothing)
  else if c.toNat = 0xFE0F then (0, select .picture next.unselected)
  else if c.toNat = 0xFE0E then (0, select .text next.unselected)
  else if next.makesText c then (1, nothing)
  else match next.unselected.join? c with
    | some (own, tail) => (own, ⟨tail, none⟩)
    | none => (charColumns c, ⟨.ofChar c, none⟩)

theorem slack_select (selector : Selector) (tail : Tail) :
    (select selector tail).tail.slack ≤ tail.slack := by
  unfold select
  split
  · exact Int.le_refl _
  · split
    · exact Int.le_refl _
    · exact tail.slack_nonneg

theorem slack_unselected (next : Following) : next.unselected.slack ≤ next.tail.slack := by
  unfold unselected
  split
  · exact Int.le_refl _
  · exact Int.le_refl _
  · exact Tail.slack_nonneg _

/-- A character takes back no more columns than what follows it can spare, and leaves as many as the
next one may take back. -/
theorem slack_prepend (c : Char) (next : Following) :
    (next.prepend c).2.tail.slack ≤ (next.prepend c).1 + next.tail.slack := by
  have spare := next.tail.slack_nonneg
  have rest := next.slack_unselected
  have other : Tail.slack .other = 0 := rfl
  have lineFeed : Tail.slack .lineFeed = 0 := rfl
  have picture : Tail.slack .picture = 0 := rfl
  unfold prepend
  split
  · split <;> simp only [picture] <;> omega
  split
  · split
    · simp only [lineFeed]; omega
    · split <;> simp only [nothing, other] <;> omega
  split
  · have := slack_select .picture next.unselected
    simp only
    omega
  split
  · have := slack_select .text next.unselected
    simp only
    omega
  split
  · simp only [nothing, other]; omega
  split
  · next own tail joins =>
    have := Tail.slack_join? joins
    simp only
    omega
  · have := Tail.slack_ofChar c
    simp only
    omega

end Following

end Reckoner.Text
