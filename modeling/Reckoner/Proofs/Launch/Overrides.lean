import Reckoner.Proofs.Console.Steps
import Reckoner.Proofs.Disk.Names
import Reckoner.Proofs.Prompt.Writes
import Reckoner.Proofs.Settings.Format

/-!
# What a run leaves of the settings

What the command line asks for is part of the settings that the session keeps, so it is written
back with every theme that is chosen: the stored count stays what it was, and the history is stored
as kept in a file exactly if it was and the command line did not forbid it (`settings_of_run`). A
run with the option `--no-persist` therefore turns the file off for the runs after it.
-/

namespace Reckoner

/-! ## The session of a run -/

section Runs

variable {files : DataDir} {kept : Settings} {exported : List Text}

theorem Session.Keeps.apply {session : Session} (keeps : session.Keeps files kept)
    {operation : Session.Operation}
    (asked : ∀ path, operation.exportPath? = some path → path ∈ exported) :
    (operation.apply session).Keeps files kept ∧
      session.store.disk.Evolves (files.Writes kept exported)
        (operation.apply session).store.disk := by
  cases operation with
  | nextTheme => exact keeps.setTheme _
  | submit now line =>
      refine keeps.submit now fun path parsed => asked path ?_
      rw [Session.Operation.exportPath?, parsed]

namespace Console

theorem keeps_handle {console : Console} (keeps : console.session.Keeps files kept) {now : Moment}
    {event : Event}
    (asked : ∀ operation ∈ (console.operation? now event).toList, ∀ path,
      operation.exportPath? = some path → path ∈ exported) :
    (console.handle now event).session.Keeps files kept ∧
      console.session.store.disk.Evolves (files.Writes kept exported)
        (console.handle now event).session.store.disk := by
  rw [session_handle]
  cases demand : console.operation? now event with
  | none => exact ⟨keeps, .refl⟩
  | some operation =>
      rw [demand] at asked
      exact keeps.apply (asked operation List.mem_cons_self)

theorem keeps_flush {console : Console} (keeps : console.session.Keeps files kept) {log : Log}
    (own : log.IsIn files) (now : Moment) :
    (console.flush log now).session.Keeps files kept ∧
      console.session.store.disk.Evolves (files.Writes kept exported)
        (console.flush log now).session.store.disk :=
  ⟨⟨keeps.files, keeps.settings, keeps.history⟩, Log.evolves_flush own now _⟩

/-- **A run keeps the settings but for the theme**, and writes what a session may write. -/
theorem keeps_handleAll {console : Console} (keeps : console.session.Keeps files kept) {log : Log}
    (own : log.IsIn files) {width height : Nat} {events : List (Moment × Event)}
    (asked : ∀ operation ∈ console.operations log width height events, ∀ path,
      operation.exportPath? = some path → path ∈ exported) :
    (console.handleAll log width height events).session.Keeps files kept ∧
      console.session.store.disk.Evolves (files.Writes kept exported)
        (console.handleAll log width height events).session.store.disk := by
  induction events generalizing console with
  | nil => exact ⟨keeps, .refl⟩
  | cons first rest ih =>
      obtain ⟨now, event⟩ := first
      have same := (console.refreshed now width height).session
      rw [← same] at keeps ⊢
      rw [handleAll]
      rw [operations] at asked
      split
      · exact ⟨keeps, .refl⟩
      · rename_i goesOn
        rw [if_neg goesOn] at asked
        obtain ⟨handled, event⟩ :=
          keeps_handle keeps fun operation member => asked operation (List.mem_append_left _ member)
        obtain ⟨flushed, log⟩ := keeps_flush handled own now
        obtain ⟨done, later⟩ :=
          ih flushed fun operation member => asked operation (List.mem_append_right _ member)
        exact ⟨done, (event.trans log).trans later⟩

end Console

end Runs

namespace Launch

/-! ## The start -/

/-- The log of the full screen, and the disk once it has been opened. -/
def opened (launch : Launch) (arguments : Arguments) : Log × Disk :=
  Log.openFile launch.disk (launch.dataDir arguments).log arguments.verbosity

/-- The settings that are loaded for the full screen. -/
def loaded (launch : Launch) (arguments : Arguments) : Settings :=
  (Settings.load { disk := (launch.opened arguments).2 } (launch.dataDir arguments).settings).1

/-- The session of the full screen when it starts. -/
def firstSession (launch : Launch) (arguments : Arguments) : Session :=
  openSession (Store.note { disk := (launch.opened arguments).2 } .info .program (startMessage .tui))
    (launch.dataDir arguments) arguments

/-- The full screen before anything happens at the terminal. -/
def firstConsole (launch : Launch) (arguments : Arguments) : Console :=
  (Console.ofSession (launch.firstSession arguments)).flush (launch.opened arguments).1 launch.now

/-- The paths that the history is exported to while events happen at a terminal. -/
def exportPaths (launch : Launch) (arguments : Arguments) (terminal : Terminal) : List Text :=
  ((launch.firstConsole arguments).operations (launch.opened arguments).1 terminal.width
    terminal.height terminal.events).filterMap Session.Operation.exportPath?

/-- A launch that shows the full screen at a terminal. -/
structure ShowsScreen (launch : Launch) (arguments : Arguments) (terminal : Terminal) : Prop where
  read : Arguments.read launch.arguments = .ok arguments
  interactive : arguments.expression = none
  screen : arguments.mode.getD .tui = .tui
  attached : launch.terminal = some terminal

section Screen

variable {launch : Launch} {arguments : Arguments} {terminal : Terminal}

theorem ShowsScreen.run_eq (shows : launch.ShowsScreen arguments terminal) :
    launch.run.disk =
      runScreen terminal (launch.opened arguments).1 launch.now
        (launch.firstSession arguments) := by
  rw [run, shows.read]
  dsimp only
  rw [shows.interactive]
  dsimp only
  rw [shows.screen, startMode]
  dsimp only
  rw [shows.attached]
  rfl

/-- The session starts with the settings that were loaded, as the command line changes them. -/
theorem keeps_firstSession (launch : Launch) (arguments : Arguments) :
    (launch.firstSession arguments).Keeps (launch.dataDir arguments)
        (overridden arguments (launch.loaded arguments)) ∧
      (launch.firstSession arguments).store.disk = (launch.opened arguments).2 := by
  have frame := Settings.load_frame
    (Store.note { disk := (launch.opened arguments).2 } .info .program (startMessage .tui))
    (launch.dataDir arguments).settings
  have settings : (Settings.load _ (launch.dataDir arguments).settings).1 =
    launch.loaded arguments := frame.1
  rw [firstSession, openSession]
  dsimp only
  rw [settings]
  exact ⟨Session.keeps_start _ _ _, (Session.disk_start _ _ _).trans frame.2⟩

/-- What a run may write where: what its session may, of which the settings are those that were
loaded, as the command line changes them. -/
def Writes (launch : Launch) (arguments : Arguments) (terminal : Terminal) : Text → Text → Prop :=
  (launch.dataDir arguments).Writes (overridden arguments (launch.loaded arguments))
    (launch.exportPaths arguments terminal)

/-- **A run writes what its session may write**, from the opening of the log to its last record. -/
theorem ShowsScreen.evolves (shows : launch.ShowsScreen arguments terminal) :
    launch.disk.Evolves (launch.Writes arguments terminal) launch.run.disk := by
  have opening : (launch.opened arguments).1.IsIn (launch.dataDir arguments) ∧
      launch.disk.Evolves (launch.Writes arguments terminal) (launch.opened arguments).2 :=
    Log.evolves_openFile launch.disk arguments.verbosity
  obtain ⟨own, opened⟩ := opening
  obtain ⟨keeps, begun⟩ := launch.keeps_firstSession arguments
  have beginning : (launch.firstConsole arguments).session.Keeps (launch.dataDir arguments)
        (overridden arguments (launch.loaded arguments)) ∧
      (launch.firstSession arguments).store.disk.Evolves (launch.Writes arguments terminal)
        (launch.firstConsole arguments).session.store.disk :=
    Console.keeps_flush keeps own launch.now
  obtain ⟨started, first⟩ := beginning
  rw [begun] at first
  obtain ⟨-, events⟩ := Console.keeps_handleAll started own (fun operation member path asked =>
    List.mem_filterMap.mpr ⟨operation, member, asked⟩)
  have last (session : Session) (message : Text) :
      session.store.disk.Evolves (launch.Writes arguments terminal)
        ((launch.opened arguments).1.flush launch.now
          (session.note .info .screen message).store).1.disk :=
    Log.evolves_flush own launch.now (session.note .info .screen message).store
  rw [shows.run_eq, runScreen]
  exact ((opened.trans first).trans events).trans (last _ _)

/-! ## What is left -/

/-- **The settings that a run leaves.** What lies at the path of the settings when the full screen
has been left lay there before, or is an export that was asked for by name, or is the text of
settings with the count that was loaded, and with the history in a file if it was loaded so and the
command line did not ask otherwise. -/
theorem settings_of_run (shows : launch.ShowsScreen arguments terminal) {content : Text}
    (left : launch.run.disk.read (launch.dataDir arguments).settings = .ok content) :
    (∃ place, launch.disk.get? place = some (.file content) ∧
      launch.run.disk.find (launch.dataDir arguments).settings =
        .ok (.present place (.file content))) ∨
    (∃ path ∈ launch.exportPaths arguments terminal,
      launch.run.disk.find path = launch.run.disk.find (launch.dataDir arguments).settings ∧
        ∃ items, content = History.exportText items) ∨
    ∃ settings : Settings, content = settings.fileText ∧
      Settings.ofFile? content = some settings ∧
      settings.maxHistory = (launch.loaded arguments).maxHistory ∧
      settings.persistHistory =
        ((launch.loaded arguments).persistHistory && !arguments.noPersist) := by
  obtain ⟨settingsName, historyName, logName⟩ := DataDir.isFileName_files
  obtain ⟨place, found⟩ := Disk.find_of_read left
  rcases shows.evolves.file_cases (Disk.find_isAt found) with before | ⟨path, wrote, also⟩
  · exact .inl ⟨place, before, found⟩
  · right
    -- The history and the log have other names than the settings.
    cases wrote with
    | settings theme =>
        have fits : (launch.loaded arguments).maxHistory < Json.Numeral.wordLimit :=
          Settings.maxHistory_load _ _
        exact .inr ⟨_, rfl, Settings.ofFile?_fileText fits, rfl, rfl⟩
    | history => exact absurd (Disk.name_eq_of_find settingsName historyName found also) (by decide)
    | log => exact absurd (Disk.name_eq_of_find settingsName logName found also) (by decide)
    | copy asked items => exact .inl ⟨path, asked, also.trans found.symm, items, rfl⟩

end Screen

/-- A terminal at which the next theme is asked for, and then the program is left. -/
def themingTerminal : Terminal where
  width := 80
  height := 24
  events := [(⟨1710936001, 0⟩, .key { code := .function 2 }),
    (⟨1710936002, 0⟩, .key { code := .char 'c', control := true })]

/-- A launch on stored settings, with options, at which the next theme is asked for. -/
def theming (options : List Text) : Launch where
  arguments := options
  dataHome := some "data".toList
  disk := { entries := [(["data".toList], .directory),
    (["data".toList, "settings.json".toList], .file (Settings.fileText ⟨.cyber, 10, true⟩))] }
  now := ⟨1710936000, 0⟩
  terminal := some themingTerminal

theorem settings_of_run_theming :
    (theming ["--theme=dark".toList]).ShowsScreen { theme := some .dark } themingTerminal ∧
      (theming ["--theme=dark".toList]).run.disk.read "data/settings.json".toList =
        .ok (Settings.fileText ⟨.light, 10, true⟩) ∧
      ∃ settings, Settings.ofFile? (Settings.fileText ⟨.light, 10, true⟩) = some settings ∧
        settings.maxHistory = 10 ∧ settings.persistHistory = true := by
  have shows : (theming ["--theme=dark".toList]).ShowsScreen { theme := some .dark }
      themingTerminal := ⟨rfl, rfl, rfl, rfl⟩
  have left : (theming ["--theme=dark".toList]).run.disk.read "data/settings.json".toList =
      .ok (Settings.fileText ⟨.light, 10, true⟩) := rfl
  refine ⟨shows, left, ?_⟩
  rcases settings_of_run shows left with ⟨place, before, found⟩ | ⟨path, asked, -⟩ | saved
  · -- What lay there before is another text.
    have there : (theming ["--theme=dark".toList]).run.disk.find "data/settings.json".toList =
        .ok (.present ["data".toList, "settings.json".toList]
          (.file (Settings.fileText ⟨.light, 10, true⟩))) := rfl
    have same := there.symm.trans found
    cases same
    exact absurd before (by decide)
  · have unexported : (theming ["--theme=dark".toList]).exportPaths { theme := some .dark }
        themingTerminal = [] := rfl
    rw [unexported] at asked
    cases asked
  · obtain ⟨settings, -, read, count, persists⟩ := saved
    exact ⟨settings, read, count, persists⟩

/-- **An option of one run is stored for the runs after it.** The history was kept in a file, and
after a run with `--no-persist` in which another theme was chosen it is stored as kept in memory. -/
theorem persistHistory_of_no_persist :
    (theming ["--no-persist".toList]).ShowsScreen { noPersist := true } themingTerminal ∧
      (theming ["--no-persist".toList]).loaded { noPersist := true } = ⟨.cyber, 10, true⟩ ∧
      ((theming ["--no-persist".toList]).run.disk.read "data/settings.json".toList).toOption.bind
        Settings.ofFile? = some ⟨.dark, 10, false⟩ :=
  ⟨⟨rfl, rfl, rfl, rfl⟩, by decide +kernel, by decide +kernel⟩

end Launch

end Reckoner
