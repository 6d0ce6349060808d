import RenderSync.Proofs.Lodging
import RenderSync.Proofs.Meanwhile

/-!
# Copies beside that of a session

The executable of a session is copied into a directory in which others have their copies, too.
`CopyState.Beside` says that one of somebody else is there, under another name than the copy of this
party has.  An operation leaves it there unless it makes a copy under that name
(`CopyState.Beside.perform`).

To connect takes several operations: the old process is stopped and its copy given up, the working
copy is pointed to the executable and put to use, and others act in between.  The copy of somebody
else stays, whatever comes of the connect, as long as the executable that it finds has another name
and nobody changes the directory besides: neither others nor the process that is stopped
(`Session.Undisturbed`, `Session.Beside.connectAmid`).
-/

namespace RenderSync

open FileTree

variable {directory : Path} {name : String} {content : Content}

/-- The name of a copy is one step of a path. -/
theorem WorkingCopy.slash_notMem_nameFor? {source : Path} {name : String}
    (h : nameFor? source = some name) : '/' ∉ name.toList := by
  obtain ⟨last, hlast, rfl⟩ := Option.map_eq_some_iff.mp h
  obtain ⟨piece, hpiece, rfl⟩ := List.mem_map.mp (Path.mem_pieces_of_fileName? hlast)
  rw [String.toList_append, String.toList_ofList, List.mem_append, not_or]
  exact ⟨by decide, (Text.of_mem_splitAt hpiece).1⟩

/-! ## 1. Operations -/

namespace CopyState

variable {ρ : Type} {use : CopyUse ρ} {state : CopyState ρ}

/-- An operation changes the source only to the one that it names. -/
theorem perform_source (use : CopyUse ρ) (h : state.held.copy.isSome = state.held.isOpen)
    (operation : Operation) :
    (state.perform use operation).2.held.source = operation.target state.held.source := by
  let noting : CopyState (ρ × List CopyCall) := ⟨state.held, state.files, (state.user, [])⟩
  have hnoted := perform_noted use operation noting
  have hcopies : noting.held.copy.isSome = noting.held.isOpen := h
  have hsource := (perform_cases use hcopies operation).1
  exact (congrArg (fun done => done.2.held.source) hnoted).trans hsource

/-- **The copy of somebody else is beside**: in the directory there are copies only, one of them
with this name and content, and the copy of this party has another name. -/
def Beside (directory : Path) (name : String) (content : Content) (state : CopyState ρ) : Prop :=
  ∃ inside used memory,
    (⟨state.held, state.files, (state.user, memory)⟩ : CopyState (ρ × Option Content)).Lodged
      directory inside used ∧
    inside name = some content ∧ used ≠ some name

/-- It is there, with its content. -/
theorem Beside.content? (h : state.Beside directory name content) :
    state.files.content? (directory.join ⟨name⟩) = some content := by
  obtain ⟨inside, used, memory, hlodged, hinside, -⟩ := h
  exact (hlodged.houses.has hinside).content? hlodged.houses.rooted

theorem Beside.copy_isSome (h : state.Beside directory name content) :
    state.held.copy.isSome = state.held.isOpen := by
  obtain ⟨inside, used, memory, hlodged, -⟩ := h
  exact hlodged.copy_isSome

/-- Only the working copy of this party and the files matter. -/
theorem Beside.congr {ρ' : Type} {other : CopyState ρ'} (h : state.Beside directory name content)
    (hheld : other.held = state.held) (hfiles : other.files = state.files) :
    other.Beside directory name content := by
  obtain ⟨inside, used, memory, ⟨hplace, hopen, hcopy, hremembered, hhouses⟩, hinside, hused⟩ := h
  refine ⟨inside, used, memory, ⟨?_, ?_, ?_, hremembered, ?_⟩, hinside, hused⟩
  · exact (congrArg WorkingCopy.directory hheld).trans hplace
  · exact (congrArg WorkingCopy.isOpen hheld).trans hopen
  · exact (congrArg WorkingCopy.copy hheld).trans hcopy
  · exact hfiles.symm ▸ hhouses

/-- **It stays where everybody leaves the directory alone.** -/
theorem Beside.spared (h : state.Beside directory name content) {files : FileTree}
    (hspares : state.files.Spares directory files) :
    CopyState.Beside directory name content { state with files := files } := by
  obtain ⟨inside, used, memory, ⟨hplace, hopen, hcopy, hremembered, hhouses⟩, hinside, hused⟩ := h
  exact ⟨inside, used, memory, ⟨hplace, hopen, hcopy, hremembered, hhouses.spared hspares⟩,
    hinside, hused⟩

/-- **It stays where an operation makes no copy of its name**, whatever comes of the operation. -/
theorem Beside.perform (use : CopyUse ρ) (h : state.Beside directory name content)
    (operation : Operation)
    (hother : operation = .closeCopy ∨ ∀ source, operation.target state.held.source = some source →
      WorkingCopy.nameFor? source ≠ some name) :
    (state.perform use operation).2.Beside directory name content := by
  obtain ⟨inside, used, memory, hlodged, hinside, hused⟩ := h
  generalize hremembering : (⟨state.held, state.files, (state.user, memory)⟩ :
    CopyState (ρ × Option Content)) = remembering at hlodged
  have hheld : remembering.held = state.held := by rw [← hremembering]
  have hforgets : remembering.map Prod.fst = state := by rw [← hremembering]; rfl
  have hafter : (state.perform use operation).2 =
      (remembering.perform use.remembering operation).2.map Prod.fst := by
    rw [← hforgets, perform_remembering]
  suffices hstays : ∃ remaining later,
      (remembering.perform use.remembering operation).2.Lodged directory remaining later ∧
        remaining name = some content ∧ later ≠ some name by
    obtain ⟨remaining, later, hlater, hcontent, hname⟩ := hstays
    rw [hafter]
    exact ⟨remaining, later, _, hlater, hcontent, hname⟩
  cases hmaking : remembering.making? use.remembering operation with
  | none =>
    obtain ⟨later, remaining, hlater, hcases, hsame⟩ :=
      hlodged.perform_of_not_making use hmaking
    refine ⟨remaining, later, hlater, (hsame name hused).trans hinside, ?_⟩
    rcases hcases with rfl | rfl
    · exact hused
    · exact (Option.some_ne_none name).symm
  | some made =>
    obtain ⟨copy, files, user⟩ := made
    obtain ⟨source, own, hsource, hown, hcopy⟩ := making?_name hmaking
    obtain ⟨new, later, remaining, hnew, hjoin, hlater, hsame, hcases⟩ :=
      hlodged.perform_of_making use hmaking
    rw [hlodged.place] at hcopy
    obtain rfl : own = new := Path.join_inj (WorkingCopy.slash_notMem_nameFor? hown) hnew.slash
      (hcopy.symm.trans hjoin)
    have hne : name ≠ own := by
      rintro rfl
      rcases hother with rfl | hother
      · cases hmaking
      · exact hother source (hheld ▸ hsource) hown
    refine ⟨remaining, later, hlater, (hsame name hne hused).trans hinside, ?_⟩
    rcases hcases with ⟨-, rfl, -⟩ | ⟨-, rfl, -⟩
    · exact fun hname => hne (Option.some.inj hname).symm
    · exact (Option.some_ne_none name).symm

end CopyState

/-! ## 2. Others -/

/-- Others leave a directory alone. -/
def Outside.Spares (directory : Path) (others : Outside) : Prop :=
  ∀ world : World, world.files.Spares directory (others.change world).files

/-- So do all who act while a session is connected. -/
structure Meanwhile.Spares (directory : Path) (meanwhile : Meanwhile) : Prop where
  process : meanwhile.beforeProcess.Spares directory
  connection : meanwhile.beforeConnection.Spares directory
  command : ∀ place, (meanwhile.beforeCommand place).Spares directory

theorem Meanwhile.Spares.nothing (directory : Path) : Meanwhile.nothing.Spares directory :=
  ⟨fun world => .refl directory world.files, fun world => .refl directory world.files,
    fun _ world => .refl directory world.files⟩

/-- Sending changes no files, and those who act in between leave the directory alone. -/
theorem Channel.sendAllAmid_spares {before : Nat → Outside}
    (h : ∀ place, (before place).Spares directory) (channel : Channel) (texts : List String) :
    ∀ (place : Nat) (world : World),
      world.files.Spares directory (channel.sendAllAmid before texts place world).2.files := by
  induction texts with
  | nil => exact fun _ world => .refl directory world.files
  | cons text rest ih =>
    intro place world
    have hbefore := h place world
    rw [sendAllAmid]
    rcases channel.send text ((before place).change world).network with ⟨e | ⟨⟩, network⟩
    · exact hbefore
    · have hrest := ih (place + 1) { (before place).change world with network := network }
      exact hbefore.trans hrest

namespace Session

variable {session : Session} {world : World} {meanwhile : Meanwhile} {config : ServerConfig}

/-- The copy of somebody else is beside that of the session. -/
def Beside (directory : Path) (name : String) (content : Content) (session : Session)
    (world : World) : Prop :=
  (session.cliState world).Beside directory name content

/-- A process that is stopped leaves the directory alone. -/
def StopsAside (directory : Path) (session : Session) (world : World) : Prop :=
  world.files.Spares directory (session.stopProcess world).2.files

/-! ## 3. Processes -/

/-- Where there is no process, there is none to be stopped. -/
theorem stopsAside_of_idle (directory : Path) (h : session.supervisor.process = none)
    (world : World) : session.StopsAside directory world := by
  have hstop := Supervisor.stop_of_none world.files world.processes h
  unfold StopsAside stopProcess
  rw [hstop]
  exact .refl directory world.files

/-- Only the working copy and the files matter. -/
theorem Beside.congr (h : session.Beside directory name content world) {other : Session}
    {later : World} (hcli : other.cli = session.cli) (hfiles : later.files = world.files) :
    other.Beside directory name content later :=
  CopyState.Beside.congr h hcli hfiles

theorem Beside.spared (h : session.Beside directory name content world) {later : World}
    (hspares : world.files.Spares directory later.files) :
    session.Beside directory name content later :=
  (CopyState.Beside.spared h hspares).congr rfl rfl

/-- Stopping the process gives up its own copy only. -/
theorem Beside.stopCli (h : session.Beside directory name content world)
    (hstop : session.StopsAside directory world) :
    (session.stopCli world).1.Beside directory name content (session.stopCli world).2 := by
  unfold Session.stopCli
  dsimp only
  split
  · have hstopped : (session.stopProcess world).1.Beside directory name content
        (session.stopProcess world).2 := (h.spared hstop).congr rfl rfl
    exact (CopyState.Beside.perform CliUser.use hstopped .closeCopy (Or.inl rfl)).congr rfl rfl
  · exact h.congr rfl rfl

/-- Putting an executable of another name to use makes no copy of this one. -/
theorem Beside.entered (h : session.Beside directory name content world) {launch : Launch}
    (hname : WorkingCopy.nameFor? launch.path ≠ some name) :
    (Session.entered launch session world).2.Beside directory name content := by
  have haimed : ({ session with arguments := launch.arguments }.cliState world).Beside directory
      name content := CopyState.Beside.congr h rfl rfl
  have hpointed := haimed.perform CliUser.use (.setSource (some launch.path))
    (Or.inr fun source hsource => Option.some.inj hsource ▸ hname)
  have hsource := CopyState.perform_source CliUser.use haimed.copy_isSome
    (.setSource (some launch.path))
  refine hpointed.perform CliUser.use .openCopy (Or.inr fun source htarget => ?_)
  have hsame : some launch.path = some source := hsource.symm.trans htarget
  exact Option.some.inj hsame ▸ hname

/-- Nor does starting it. -/
theorem Beside.startCli (h : session.Beside directory name content world) {launch : Launch}
    (hstop : session.StopsAside directory world)
    (hname : WorkingCopy.nameFor? launch.path ≠ some name) :
    (session.startCli launch world).2.1.Beside directory name content
      (session.startCli launch world).2.2 := by
  have hentered := (h.stopCli hstop).entered hname
  rw [startCli_eq]
  dsimp only
  rcases hstep : Session.entered launch (session.stopCli world).1 (session.stopCli world).2 with
    ⟨_ | _, state⟩ <;> rw [hstep] at hentered
  · exact hentered.congr rfl rfl
  · exact hentered.congr rfl rfl

/-- **Seeing to the process leaves the copy of somebody else alone**, whatever comes of it. -/
theorem Beside.ensureCli (h : session.Beside directory name content world)
    (hstop : session.StopsAside directory world)
    (hname : ∀ path, session.cliPath world config = .ok path →
      WorkingCopy.nameFor? path ≠ some name) :
    (session.ensureCli config world).2.1.Beside directory name content
      (session.ensureCli config world).2.2 := by
  rcases ensureCli_cases config session world with
    ⟨-, he⟩ | ⟨-, ⟨e, -, he⟩ | ⟨path, hpath, ⟨-, he⟩ | ⟨-, he⟩⟩⟩
  · rw [he]
    exact h.stopCli hstop
  · rw [he]
    exact h
  · rw [he]
    exact h
  · rw [he]
    exact h.startCli hstop (hname path hpath)

/-! ## 4. Connecting -/

/-- **Nobody concerns the copy of that name while a session is connected**: the executable has
another one, and those who act in between leave the directory alone, as does the process that is
stopped, be it at once or after others have acted. -/
structure Undisturbed (directory : Path) (name : String) (meanwhile : Meanwhile)
    (config : ServerConfig) (session : Session) (world : World) : Prop where
  named : ∀ path, (session.down world).1.cliPath
    (meanwhile.beforeProcess.change (session.down world).2) config = .ok path →
      WorkingCopy.nameFor? path ≠ some name
  spares : meanwhile.Spares directory
  stops : session.channel.isConnected = true → session.StopsAside directory world
  stopsLater : (session.down world).1.StopsAside directory
    (meanwhile.beforeProcess.change (session.down world).2)

theorem Beside.disconnect (h : session.Beside directory name content world)
    (hstop : session.StopsAside directory world) :
    (session.disconnect world).1.Beside directory name content (session.disconnect world).2 := by
  unfold Session.disconnect
  split
  · exact h
  · exact (h.stopCli hstop).congr rfl rfl

theorem Beside.down (h : session.Beside directory name content world)
    (hstop : session.channel.isConnected = true → session.StopsAside directory world) :
    (session.down world).1.Beside directory name content (session.down world).2 := by
  unfold Session.down
  split
  · next hconnected => exact h.disconnect (hstop hconnected)
  · exact h

/-- Connecting changes no files, and those who act in between leave the directory alone. -/
theorem Beside.connectChannelAmid (h : session.Beside directory name content world)
    {before : Nat → Outside} (hspares : ∀ place, (before place).Spares directory)
    (config : ServerConfig) :
    (session.connectChannelAmid before config world).2.1.Beside directory name content
      (session.connectChannelAmid before config world).2.2 := by
  unfold Session.connectChannelAmid
  rcases session.channel.connect config.ip config.port world.network with
    ⟨e | ⟨⟩, channel, network⟩
  · exact h.congr rfl rfl
  · have hsent := Channel.sendAllAmid_spares hspares channel
      ((session.bootstrap.commands world.files).map Command.line) 0
      { world with network := network }
    dsimp only
    rcases hstep : channel.sendAllAmid before
      ((session.bootstrap.commands world.files).map Command.line) 0
      { world with network := network } with ⟨e | ⟨⟩, sent⟩ <;> rw [hstep] at hsent
    · exact (h.spared hsent).congr rfl rfl
    · exact (h.spared hsent).congr rfl rfl

/-- **A connect leaves the copy of somebody else alone**, whatever comes of it. -/
theorem Beside.connectAmid (h : session.Beside directory name content world)
    (hundisturbed : session.Undisturbed directory name meanwhile config world) :
    (session.connectAmid meanwhile config world).2.1.Beside directory name content
      (session.connectAmid meanwhile config world).2.2 := by
  have hdown := (h.down hundisturbed.stops).spared (hundisturbed.spares.process _)
  have hready : (session.readied meanwhile config world).2.1.Beside directory name content
      (session.readied meanwhile config world).2.2 :=
    (hdown.ensureCli hundisturbed.stopsLater hundisturbed.named).spared
      (hundisturbed.spares.connection _)
  unfold Session.connectAmid
  split
  · exact h
  · rcases hstep : session.readied meanwhile config world with ⟨e | ⟨⟩, ready, later⟩ <;>
      rw [hstep] at hready
    · exact hready
    · exact hready.connectChannelAmid hundisturbed.spares.command config

end Session

end RenderSync
