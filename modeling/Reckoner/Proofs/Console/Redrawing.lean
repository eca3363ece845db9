import Reckoner.Launch
import Reckoner.Proofs.Console.Scrolling

/-!
# Drawing again

While the terminal waits for an event, what is shown is drawn again and again, and each drawing
scrolls the input line and the list and notes what it measures. So a drawing has two parts: the
front end is laid out for the terminal (`Console.laidOut`), and then it is painted as it is
(`Console.painted`). A front end that is laid out stays so (`Console.laidOut_laidOut`), so drawing
twice is drawing once (`Console.draw_draw`).
-/

namespace Reckoner

namespace MainPage

/-- The area of the input line with its frame. -/
def inputArea (width : Nat) : Area := ⟨0, 0, width, inputHeight⟩

/-- The area of the list with its frame. -/
def listArea (width height : Nat) : Area := ⟨0, listRow, width, height - listRow⟩

/-! ## Laying out -/

/-- The front end with its list laid out, if there is one. -/
def layOutEntries (console : Console) (now : Moment) (inner : Area) : Console :=
  if console.entries.isEmpty then console
  else settleList console (console.entryBlocks now inner.width) inner.height

/-- The front end laid out for a page of a given size. -/
def layOut (console : Console) (now : Moment) (width height : Nat) : Console :=
  { layOutEntries
      { console with editor := console.editor.scrollTo (visibleWidth (inputArea width).inner) }
      now (listArea width height).inner with
    listHeight := (listArea width height).height }

/-- A list that was laid out stays where it is, whatever height was noted. -/
theorem layOutEntries_layOutEntries (console : Console) (now : Moment) (inner : Area)
    (height : Nat) :
    layOutEntries { layOutEntries console now inner with listHeight := height } now inner =
      { layOutEntries console now inner with listHeight := height } := by
  by_cases empty : console.entries.isEmpty
  · have same : layOutEntries console now inner = console := if_pos empty
    rw [same]
    exact if_pos empty
  · have same : layOutEntries console now inner =
        settleList console (console.entryBlocks now inner.width) inner.height := if_neg empty
    rw [same]
    exact if_neg empty

/-- Laying out the list changes only what is noted of it. -/
theorem layOutEntries_eq (console : Console) (now : Moment) (inner : Area) :
    ∃ rows scroll bottom, layOutEntries console now inner =
      { console with entryRows := rows, listScroll := scroll, toBottom := bottom } := by
  rw [layOutEntries]
  split
  · exact ⟨_, _, _, rfl⟩
  · exact ⟨_, _, _, rfl⟩

/-- Laying out the page changes only the scroll of the input line and what is noted of the list. -/
theorem layOut_eq (console : Console) (now : Moment) (width height : Nat) :
    ∃ rows scroll bottom, layOut console now width height =
      { console with
        editor := console.editor.scrollTo (visibleWidth (inputArea width).inner)
        entryRows := rows
        listScroll := scroll
        toBottom := bottom
        listHeight := (listArea width height).height } := by
  obtain ⟨rows, scroll, bottom, same⟩ := layOutEntries_eq
    { console with editor := console.editor.scrollTo (visibleWidth (inputArea width).inner) } now
    (listArea width height).inner
  refine ⟨rows, scroll, bottom, ?_⟩
  rw [layOut, same]

theorem visibleWidth_pos {width : Nat} (wide : minWidth ≤ width) :
    0 < visibleWidth (inputArea width).inner := by
  rw [minWidth] at wide
  simp only [visibleWidth, inputArea, Area.inner]
  omega

/-- **A page that was laid out stays so.** -/
theorem layOut_layOut (console : Console) (now : Moment) {width : Nat} (wide : minWidth ≤ width)
    (height : Nat) :
    layOut (layOut console now width height) now width height =
      layOut console now width height := by
  have line : (console.editor.scrollTo (visibleWidth (inputArea width).inner)).scrollTo
      (visibleWidth (inputArea width).inner) =
        console.editor.scrollTo (visibleWidth (inputArea width).inner) :=
    Editor.scrollTo_scrollTo (visibleWidth_pos wide)
  have list := layOutEntries_layOutEntries
    { console with editor := console.editor.scrollTo (visibleWidth (inputArea width).inner) } now
    (listArea width height).inner (listArea width height).height
  obtain ⟨rows, scroll, bottom, same⟩ := layOut_eq console now width height
  have kept : (layOut console now width height).editor.scrollTo
      (visibleWidth (inputArea width).inner) = (layOut console now width height).editor := by
    rw [same, line]
  calc layOut (layOut console now width height) now width height
      = { layOutEntries (layOut console now width height) now (listArea width height).inner with
          listHeight := (listArea width height).height } := by rw [layOut, kept]
    _ = { layOut console now width height with
          listHeight := (listArea width height).height } := by rw [layOut, list]
    _ = layOut console now width height := rfl

/-! ## Painting -/

/-- What stands above the list: the input line, the message and the keys. -/
def paintTop (console : Console) (screen : Screen) : Drawing :=
  let palette := console.theme.palette
  let input := drawInput screen palette (inputArea screen.width) console.editor
  let flashed :=
    match console.flash with
    | some flash =>
      input.screen.drawCut ⟨0, flashRow, screen.width, 1⟩ .left [flashLine palette flash]
    | none => input.screen
  { input with
    screen := flashed.drawCut ⟨0, statusRow, screen.width, 1⟩ .left
      [statusLine palette console.theme console.session.calculator.hasMemory] }

/-- The list with its frame. -/
def paintList (console : Console) (now : Moment) (screen : Screen) (area : Area) : Screen :=
  let palette := console.theme.palette
  let framed := screen.drawFrame area (listFrame palette)
  if console.entries.isEmpty then drawEmpty framed palette area.inner
  else
    framed.drawList area.inner (console.entryBlocks now area.inner.width).flatten console.listScroll
      console.entryRows[console.selected]? (selectionStyle palette)

/-- The page, painted over a screen. -/
def paint (console : Console) (now : Moment) (screen : Screen) : Drawing :=
  let top := paintTop console screen
  { top with
    screen := paintList console now top.screen (listArea screen.width screen.height) }

theorem drawList_eq (console : Console) (now : Moment) (screen : Screen) (area : Area) :
    drawList console now screen area =
      (layOutEntries console now area.inner,
        paintList (layOutEntries console now area.inner) now screen area) := by
  by_cases empty : console.entries.isEmpty
  · rw [layOutEntries, if_pos empty, paintList, if_pos empty]
    exact if_pos empty
  · have kept : ¬(settleList console (console.entryBlocks now area.inner.width)
        area.inner.height).entries.isEmpty := empty
    rw [layOutEntries, if_neg empty, paintList, if_neg kept]
    exact if_neg empty

/-- What stands above the list does not look at what is noted of the list. -/
theorem paintTop_layOutEntries (console : Console) (now : Moment) (inner : Area) (height : Nat)
    (screen : Screen) :
    paintTop { layOutEntries console now inner with listHeight := height } screen =
      paintTop console screen := by
  obtain ⟨rows, scroll, bottom, same⟩ := layOutEntries_eq console now inner
  rw [same]
  rfl

/-- **A page is drawn by laying it out and then painting it.** -/
theorem drawFull_eq (console : Console) (now : Moment) (screen : Screen) :
    drawFull console now screen =
      (layOut console now screen.width screen.height,
        paint (layOut console now screen.width screen.height) now screen) := by
  have top := paintTop_layOutEntries
    { console with editor := console.editor.scrollTo (visibleWidth (inputArea screen.width).inner) }
    now (listArea screen.width screen.height).inner (listArea screen.width screen.height).height
    screen
  rw [paint, layOut, top]
  unfold drawFull
  dsimp only
  rw [drawList_eq]
  rfl

end MainPage

namespace Console

/-- The front end laid out for a terminal of a given size. -/
def laidOut (console : Console) (now : Moment) (width height : Nat) : Console :=
  if console.showsHelp then console
  else if MainPage.isTooSmall width height then { console with tooSmall := true }
  else MainPage.layOut { console with tooSmall := false } now width height

/-- The screen before anything stands on it. -/
def ground (palette : Palette) (width height : Nat) : Screen :=
  (Screen.blank width height).restyle ⟨0, 0, width, height⟩
    { background := some palette.background }

/-- What is shown of the front end as it is. -/
def painted (console : Console) (now : Moment) (width height : Nat) : Drawing :=
  let palette := console.theme.palette
  if console.showsHelp then HelpPage.draw palette console.helpScroll width height
  else if console.tooSmall then
    { screen := MainPage.drawResize (ground palette width height) palette }
  else MainPage.paint console now (ground palette width height)

section Parts

variable {console : Console} {now : Moment} {width height : Nat}

theorem laidOut_of_help (help : console.showsHelp = true) :
    console.laidOut now width height = console := if_pos help

theorem laidOut_of_small (help : ¬console.showsHelp = true)
    (small : MainPage.isTooSmall width height = true) :
    console.laidOut now width height = { console with tooSmall := true } :=
  (if_neg help).trans (if_pos small)

theorem laidOut_of_page (help : ¬console.showsHelp = true)
    (large : ¬MainPage.isTooSmall width height = true) :
    console.laidOut now width height =
      MainPage.layOut { console with tooSmall := false } now width height :=
  (if_neg help).trans (if_neg large)

theorem painted_of_help (help : console.showsHelp = true) :
    console.painted now width height =
      HelpPage.draw console.theme.palette console.helpScroll width height := if_pos help

theorem painted_of_small (help : ¬console.showsHelp = true) (small : console.tooSmall = true) :
    console.painted now width height =
      { screen := MainPage.drawResize (ground console.theme.palette width height)
          console.theme.palette } :=
  (if_neg help).trans (if_pos small)

theorem painted_of_page (help : ¬console.showsHelp = true) (large : ¬console.tooSmall = true) :
    console.painted now width height =
      MainPage.paint console now (ground console.theme.palette width height) :=
  (if_neg help).trans (if_neg large)

/-- A page that is laid out is painted. -/
theorem painted_layOut (help : ¬console.showsHelp = true) :
    (MainPage.layOut { console with tooSmall := false } now width height).painted now width height =
      MainPage.paint (MainPage.layOut { console with tooSmall := false } now width height) now
        (ground console.theme.palette width height) := by
  obtain ⟨rows, scroll, bottom, same⟩ :=
    MainPage.layOut_eq { console with tooSmall := false } now width height
  have theme : (MainPage.layOut { console with tooSmall := false } now width height).theme =
      console.theme := by rw [same]; rfl
  rw [painted_of_page (by rw [same]; exact help) (by rw [same]; exact Bool.false_ne_true), theme]

end Parts

theorem width_ground (palette : Palette) (width height : Nat) :
    (ground palette width height).width = width := (Screen.changes_restyle ..).width

theorem height_ground (palette : Palette) (width height : Nat) :
    (ground palette width height).height = height := Screen.height_restyle ..

theorem isWhole_ground (palette : Palette) (width height : Nat) :
    (ground palette width height).IsWhole :=
  (Screen.changes_restyle ..).isWhole (Screen.isWhole_blank width height)

/-- **Drawing is laying out and then painting.** -/
theorem draw_eq (console : Console) (now : Moment) (width height : Nat) :
    console.draw now width height =
      (console.laidOut now width height,
        (console.laidOut now width height).painted now width height) := by
  rw [draw]
  by_cases help : console.showsHelp
  · rw [if_pos help, laidOut_of_help help, painted_of_help help]
  rw [if_neg help, MainPage.draw]
  by_cases small : MainPage.isTooSmall width height
  · have shown : ({ console with tooSmall := true } : Console).painted now width height =
        { screen := MainPage.drawResize (ground console.theme.palette width height)
            console.theme.palette } := painted_of_small help rfl
    rw [laidOut_of_small help small, shown, small]
    exact if_pos rfl
  · have page := MainPage.drawFull_eq { console with tooSmall := false } now
      (ground console.theme.palette width height)
    rw [width_ground, height_ground] at page
    rw [laidOut_of_page help small, painted_layOut help, Bool.eq_false_iff.mpr small, ← page]
    exact if_neg Bool.false_ne_true

/-- **The front end stays laid out.** -/
theorem laidOut_laidOut (console : Console) (now : Moment) (width height : Nat) :
    (console.laidOut now width height).laidOut now width height =
      console.laidOut now width height := by
  by_cases help : console.showsHelp
  · rw [laidOut_of_help help, laidOut_of_help help]
  by_cases small : MainPage.isTooSmall width height
  · have again : ({ console with tooSmall := true } : Console).laidOut now width height =
        { console with tooSmall := true } := laidOut_of_small help small
    rw [laidOut_of_small help small, again]
  · obtain ⟨rows, scroll, bottom, same⟩ :=
      MainPage.layOut_eq { console with tooSmall := false } now width height
    have wide : MainPage.minWidth ≤ width := by
      by_contra narrow
      exact small (Bool.or_eq_true_iff.mpr (.inl (decide_eq_true (by omega))))
    have again : (MainPage.layOut { console with tooSmall := false } now width height).laidOut now
          width height =
        MainPage.layOut { MainPage.layOut { console with tooSmall := false } now width height with
          tooSmall := false } now width height :=
      laidOut_of_page (by rw [same]; exact help) small
    have large : { MainPage.layOut { console with tooSmall := false } now width height with
          tooSmall := false } =
        MainPage.layOut { console with tooSmall := false } now width height := by rw [same]
    rw [laidOut_of_page help small, again, large]
    exact MainPage.layOut_layOut _ now wide height

/-! ## Drawing again -/

theorem flash_laidOut (console : Console) (now : Moment) (width height : Nat) :
    (console.laidOut now width height).flash = console.flash := by
  rw [laidOut]
  split
  · rfl
  split
  · rfl
  · obtain ⟨rows, scroll, bottom, same⟩ :=
      MainPage.layOut_eq { console with tooSmall := false } now width height
    rw [same]

/-- A message that is not shown any more. -/
def isOver (now : Moment) (flash : Flash) : Bool := flashNanos ≤ now.nanosSince flash.since

theorem flash_expireFlash (console : Console) (now : Moment) :
    (console.expireFlash now).flash = console.flash.filter (!isOver now ·) := by
  rw [expireFlash]
  cases found : console.flash with
  | none => exact found
  | some flash =>
      rw [Option.filter_some, isOver]
      by_cases old : flashNanos ≤ now.nanosSince flash.since
      · simp only [old, if_true, decide_true, Bool.not_true, Bool.false_eq_true, if_false]
      · simp only [old, if_false, decide_false, Bool.not_false, if_true, found]

/-- A message that was left stays at that instant, whatever was done to the rest. -/
theorem expireFlash_of_flash {console after : Console} {now : Moment}
    (same : after.flash = (console.expireFlash now).flash) : after.expireFlash now = after := by
  rw [expireFlash]
  cases found : after.flash with
  | none => rfl
  | some flash =>
      rw [same, flash_expireFlash, Option.filter_eq_some_iff, isOver, Bool.not_eq_true',
        decide_eq_false_iff_not] at found
      exact if_neg found.2

/-- **Drawing again at the same instant changes nothing**, neither of the front end nor of what is
shown; and so it is for any number of passes of the loop, which may also take the message away. -/
theorem draw_draw (console : Console) (now : Moment) (width height : Nat) :
    (console.draw now width height).1.draw now width height = console.draw now width height ∧
      ∀ passes, (((refresh · now width height)^[passes] console).expireFlash now).draw now width
          height = (console.expireFlash now).draw now width height := by
  have again (console : Console) :
      (console.draw now width height).1.draw now width height =
        console.draw now width height := by
    rw [draw_eq console, draw_eq, laidOut_laidOut]
  refine ⟨again console, fun passes => ?_⟩
  induction passes generalizing console with
  | zero => rfl
  | succ passes ih =>
      -- The first pass has taken away what there was to take, so the next one finds nothing to do.
      have kept : (console.refresh now width height).expireFlash now =
          console.refresh now width height := by
        have flash : (console.refresh now width height).flash =
            (console.expireFlash now).flash := by rw [refresh, draw_eq, flash_laidOut]
        exact expireFlash_of_flash flash
      rw [Function.iterate_succ_apply, ih, kept]
      exact again (console.expireFlash now)

end Console

end Reckoner
