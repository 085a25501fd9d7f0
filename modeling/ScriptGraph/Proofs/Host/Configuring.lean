import ScriptGraph.Host.Action
import ScriptGraph.Proofs.Host.Files
import ScriptGraph.Proofs.Settings.Change
import ScriptGraph.Proofs.Settings.RoundTrip

/-!
# Changing settings, and building under them

Settings that were saved load again, unless their version is too new.  So a run of the program that
changes settings leaves a file that loads to the settings before with the changes made, or leaves
all files as they are if there is nothing to change; and a later build writes the first line and
takes the width that this run printed (`configured_settings_reach_build`).

What a build does with settings is said by `Action.buildWith`, which is given a first line and a
width and knows of no settings.  Where its script is found afterwards is said by `Delivers`.
-/

namespace ScriptGraph

/-! ## Running actions -/

namespace Action

variable {α β : Type} {host after later : Host} {path text : String} {s : Settings}
  {previous : Option Settings} {change : Settings.Change}

theorem run_bind_ok {x : Action α} {a : α} (h : x.run.run host = (.ok a, after))
    (f : α → Action β) : (x >>= f).run.run host = (f a).run.run after := by
  change (ExceptT.bindCont f (x.run.run host).1) (x.run.run host).2 = _
  rw [h]
  rfl

theorem run_bind_error {x : Action α} {cause : HostError}
    (h : x.run.run host = (.error cause, after)) (f : α → Action β) :
    (x >>= f).run.run host = (.error cause, after) := by
  change (ExceptT.bindCont f (x.run.run host).1) (x.run.run host).2 = _
  rw [h]
  rfl

/-- What succeeds in two steps succeeds in each. -/
theorem exists_of_run_bind {x : Action α} {f : α → Action β} {b : β}
    (h : (x >>= f).run.run host = (.ok b, after)) :
    ∃ a mid, x.run.run host = (.ok a, mid) ∧ (f a).run.run mid = (.ok b, after) := by
  rcases hx : x.run.run host with ⟨cause | a, mid⟩
  · rw [run_bind_error hx] at h
    cases h
  · exact ⟨a, mid, rfl, (run_bind_ok hx f).symm.trans h⟩

theorem run_get : (get : Action Host).run.run host = (.ok host, host) := rfl

theorem run_note (notices : List Notice) :
    (note notices).run.run host =
      (.ok (), { host with notices := host.notices ++ notices }) := rfl

theorem files_of_changeFiles {f : FileTree → Except FileError FileTree}
    (h : (changeFiles f).run.run host = (.ok (), after)) :
    ∃ files, f host.files = .ok files ∧ after = { host with files } := by
  rw [changeFiles, run_bind_ok run_get] at h
  cases hf : f host.files with
  | error cause =>
      simp only [hf] at h
      cases h
  | ok files =>
      simp only [hf] at h
      cases h
      exact ⟨files, rfl, rfl⟩

/-! ## Loading and saving -/

theorem run_loadSettings_none (hread : host.files.read path = .error .notFound) :
    (loadSettings path).run.run host = (.ok none, host) := by
  rw [loadSettings, run_bind_ok run_get]
  simp only [hread]
  rfl

theorem run_loadSettings_some (hread : host.files.read path = .ok text)
    (hparse : Settings.parse text = .ok s) :
    (loadSettings path).run.run host = (.ok (some s), host) := by
  rw [loadSettings, run_bind_ok run_get]
  simp only [hread, hparse]
  rfl

theorem run_loadSettings_refused {cause : Settings.Refusal}
    (hread : host.files.read path = .ok text) (hparse : Settings.parse text = .error cause) :
    (loadSettings path).run.run host = (.error (.settings path cause), host) := by
  rw [loadSettings, run_bind_ok run_get]
  simp only [hread, hparse]
  rfl

/-- Loading succeeds in two ways: there is no file, or there is one with settings. -/
theorem loadSettings_cases (h : ((loadSettings path).run.run host).1 = .ok previous) :
    (host.files.read path = .error .notFound ∧ previous = none) ∨
      ∃ text s, host.files.read path = .ok text ∧ Settings.parse text = .ok s ∧
        previous = some s := by
  rw [loadSettings, run_bind_ok run_get] at h
  split at h
  · rename_i hread
    cases h
    exact .inl ⟨hread, rfl⟩
  · cases h
  · rename_i text hread
    split at h
    · cases h
    · rename_i s hparse
      cases h
      exact .inr ⟨text, s, hread, hparse, rfl⟩

/-- Loading looks at the files alone, and changes nothing. -/
theorem run_loadSettings (h : ((loadSettings path).run.run host).1 = .ok previous)
    (hfiles : later.files = host.files) :
    (loadSettings path).run.run later = (.ok previous, later) := by
  obtain ⟨hread, rfl⟩ | ⟨text, s, hread, hparse, rfl⟩ := loadSettings_cases h
  · exact run_loadSettings_none (hfiles ▸ hread)
  · exact run_loadSettings_some (hfiles ▸ hread) hparse

/-- Settings that load are of a version that is supported. -/
theorem formatVersion_le_of_loadSettings
    (h : ((loadSettings path).run.run host).1 = .ok previous) :
    (previous.getD {}).formatVersion ≤ Settings.supportedVersion := by
  obtain ⟨-, rfl⟩ | ⟨text, s, -, hparse, rfl⟩ := loadSettings_cases h
  · exact UInt32.le_refl _
  · exact (Settings.ofText?_of_parse hparse).2

/-- Settings do not load from the sink. -/
theorem find_ne_sink (h : ((loadSettings path).run.run host).1 = .ok previous) :
    host.files.find path ≠ .ok .sink := by
  intro hsink
  have hempty := FileTree.read_of_sink hsink
  obtain ⟨hread, -⟩ | ⟨text, s, hread, hparse, -⟩ := loadSettings_cases h
  · rw [hempty] at hread
    cases hread
  · rw [hempty] at hread
    cases hread
    cases hparse

/-- Settings load from a file. -/
theorem exists_file (h : ((loadSettings path).run.run host).1 = .ok (some s)) :
    ∃ f, host.files.find path = .ok (.file f) := by
  obtain ⟨-, hnone⟩ | ⟨text, _, hread, -⟩ := loadSettings_cases h
  · cases hnone
  · cases hfind : host.files.find path with
    | error cause =>
        simp only [FileTree.read, FileTree.fileAt, hfind] at hread
        cases hread
    | ok entry =>
        cases entry with
        | directory =>
            simp only [FileTree.read, FileTree.fileAt, hfind] at hread
            cases hread
        | file f => exact ⟨f, rfl⟩
        | sink => exact absurd hfind (find_ne_sink h)

theorem run_saveSettings {files : FileTree} (h : host.files.write path s.text = .ok files) :
    (saveSettings path s).run.run host = (.ok (), { host with files }) := by
  rw [saveSettings, changeFiles, run_bind_ok run_get]
  simp only [h]
  rfl

theorem run_saveSettings_error {cause : FileError}
    (h : host.files.write path s.text = .error cause) :
    (saveSettings path s).run.run host = (.error (.file cause), host) := by
  rw [saveSettings, changeFiles, run_bind_ok run_get]
  simp only [h]
  rfl

/-- Settings that were written load again, and those of a later version are refused. -/
theorem run_loadSettings_of_write (hsink : host.files.find path ≠ .ok .sink)
    (hwrite : host.files.write path s.text = .ok after.files) :
    (loadSettings path).run.run after =
      (if s.formatVersion ≤ Settings.supportedVersion then .ok (some s)
        else .error (.settings path (.tooNew s.formatVersion)), after) := by
  have hread : after.files.read path = .ok s.text := FileTree.read_write hsink hwrite
  have hparse := Settings.parse_text s
  by_cases hversion : s.formatVersion ≤ Settings.supportedVersion
  · rw [if_pos hversion] at hparse ⊢
    exact run_loadSettings_some hread hparse
  · rw [if_neg hversion] at hparse ⊢
    exact run_loadSettings_refused hread hparse

theorem write_of_saveSettings (h : (saveSettings path s).run.run host = (.ok (), after)) :
    host.files.write path s.text = .ok after.files := by
  obtain ⟨files, hwrite, rfl⟩ := files_of_changeFiles h
  exact hwrite

/-! ## Changing settings -/

theorem run_configure_of_isEmpty (h : change.isEmpty = true) :
    (configure path s change).run.run host =
      (.ok (), { host with printed := host.printed ++ (s.update change).summary }) := by
  simp only [configure, h]
  rfl

theorem run_configure {files : FileTree} (h : change.isEmpty = false)
    (hwrite : host.files.write path (s.update change).text = .ok files) :
    (configure path s change).run.run host =
      (.ok (), { host with files, printed := host.printed ++ (s.update change).summary }) := by
  simp only [configure, h, Bool.not_false, if_true]
  rw [run_bind_ok (run_saveSettings hwrite)]
  rfl

theorem run_configure_error {cause : FileError} (h : change.isEmpty = false)
    (hwrite : host.files.write path (s.update change).text = .error cause) :
    (configure path s change).run.run host = (.error (.file cause), host) := by
  simp only [configure, h, Bool.not_false, if_true]
  rw [run_bind_error (run_saveSettings_error hwrite)]

/-! ## Building -/

/-- The script of a graph with a first line and a width of the indentation. -/
def scriptWith (line : String) (width : UInt64) (graph : Graph) : Script :=
  let drawing : Drawing := ⟨graph, .standard⟩
  let draft := drawing.writeMain (drawing.writeFunctions { width := width.toNat })
  { text := Script.ofLines (line :: "" :: Script.banner :: "" :: (draft.functions ++ draft.main))
    notices := draft.notices }

/-- Compile the graph of a file to a script with a first line and a width of the indentation. -/
def buildWith (line : String) (width : UInt64) (graph : String) (output : Option String) :
    Action Unit := do
  let graph ← loadGraph graph
  if Style.maxIndentWidth < width then throw (.indentTooWide width)
  let script := scriptWith line width graph
  note script.notices
  match output with
  | some path => writeScript path script
  | none => print script.text

/-- A build without a line of its own takes the line and the width of the settings. -/
theorem build_eq_buildWith (s : Settings) (graph : String) (output : Option String) :
    build s graph output none = buildWith s.style.shebangLine s.indentWidth graph output := by
  have hstyle : scriptStyle s none = s.style := rfl
  by_cases hfits : s.style.indentWidth ≤ Style.maxIndentWidth
  · have hconfig : s.style.config? = some ⟨s.style, hfits⟩ := dif_pos hfits
    have hscript : ∀ g : Graph, Drawing.compile ⟨g, .standard⟩ ⟨s.style, hfits⟩ =
        scriptWith s.style.shebangLine s.indentWidth g := by
      intro g
      simp [Drawing.compile, Drawing.scriptLines, Drawing.header, Drawing.draft, scriptWith,
        Settings.style]
    have hwide : ¬ Style.maxIndentWidth < s.indentWidth := UInt64.not_lt.mpr hfits
    cases output <;> simp only [build, compile, compileGraph, buildWith, hstyle, hconfig, hscript,
      hwide, if_false, bind_assoc, pure_bind]
  · have hconfig : s.style.config? = none := dif_neg hfits
    have hwide : Style.maxIndentWidth < s.indentWidth := UInt64.not_le.mp hfits
    simp only [build, compile, compileGraph, buildWith, hstyle, hconfig, hwide, if_true, bind_assoc]
    rfl

/-- Loading a graph draws identifiers and notices things. -/
theorem run_loadGraph (host : Host) (path : String) :
    ∃ result ids notices,
      (loadGraph path).run.run host = (result, { host with ids, notices }) := by
  cases hread : host.files.read path with
  | error cause =>
      refine ⟨.error (.file cause), host.ids, host.notices, ?_⟩
      rw [loadGraph, readText, bind_assoc, run_bind_ok run_get]
      simp only [hread]
      rfl
  | ok text =>
      rw [loadGraph, readText, bind_assoc, run_bind_ok run_get]
      simp only [hread, pure_bind]
      cases Document.ofText? text with
      | none => exact ⟨.error .malformedDocument, host.ids, host.notices, rfl⟩
      | some document =>
          simp only
          rw [run_bind_ok run_get, run_bind_ok (run_note _)]
          cases (document.toGraph .standard host.ids).outcome with
          | error cause => exact ⟨.error (.load cause), _, _, rfl⟩
          | ok loaded => exact ⟨.ok loaded.1, loaded.2, _, rfl⟩

/-- Where the script of a build is found: behind what was printed before, or in the file that it was
written to, unless that is the sink. -/
def Delivers (before after : Host) (text : String) : Option String → Prop
  | none => after.printed = before.printed ++ text
  | some path => before.files.find path ≠ .ok .sink → after.files.read path = .ok text

theorem delivers_of_writeScript {script : Script}
    (h : (writeScript path script).run.run host = (.ok (), after)) :
    Delivers host after script.text (some path) := by
  obtain ⟨_, mid, hwrite, hexecutable⟩ := exists_of_run_bind h
  obtain ⟨written, hwritten, rfl⟩ := files_of_changeFiles hwrite
  obtain ⟨files, hfiles, rfl⟩ := files_of_changeFiles hexecutable
  intro hsink
  have hread : written.read path = .ok script.text := FileTree.read_write hsink hwritten
  obtain ⟨f, hfind, -⟩ := FileTree.find_modify hsink hwritten
  exact FileTree.read_makeExecutable (by simp [hfind]) hfiles hread

/-- A build that succeeds delivers the script of a graph. -/
theorem delivers_of_buildWith {line graph : String} {width : UInt64} {output : Option String}
    (h : (buildWith line width graph output).run.run host = (.ok (), after)) :
    ∃ g, Delivers host after (scriptWith line width g).text output := by
  obtain ⟨result, ids, notices, hload⟩ := run_loadGraph host graph
  obtain ⟨g, mid, hgraph, hrest⟩ := exists_of_run_bind h
  obtain ⟨rfl, rfl⟩ := Prod.mk.inj (hload.symm.trans hgraph)
  refine ⟨g, ?_⟩
  by_cases hwide : Style.maxIndentWidth < width
  · simp only [hwide, if_true] at hrest
    cases hrest
  · simp only [hwide, if_false] at hrest
    rw [run_bind_ok (run_note _)] at hrest
    cases output with
    | none =>
        cases hrest
        rfl
    | some path =>
        -- the files are those from before the graph was loaded
        have hwritten := delivers_of_writeScript hrest
        exact hwritten

/-- A script begins with its first line. -/
theorem text_scriptWith (line : String) (width : UInt64) (graph : Graph) :
    ∃ rest, (scriptWith line width graph).text = line ++ "\n" ++ rest := by
  rw [scriptWith, Script.ofLines, String.intercalate_cons_cons, String.append_assoc]
  exact ⟨_, rfl⟩

end Action

/-! ## Running the program -/

/-- The outcome of an action. -/
def Outcome.ofRun : Except HostError Unit × Host → Outcome
  | (.ok (), host) => { exitCode := 0, host }
  | (.error cause, host) => { exitCode := cause.exitCode, host, failure := some cause }

/-- What fails has an exit code that says so. -/
theorem Outcome.eq_ok_of_exitCode {result : Except HostError Unit × Host}
    (h : (ofRun result).exitCode = 0) : result = (.ok (), (ofRun result).host) := by
  obtain ⟨cause | _, host⟩ := result
  · cases cause <;> cases h
  · rfl

section

variable {host : Host} {arguments : List String} {path : String} {verbose : Bool}
  {previous : Option Settings} {change : Settings.Change}
  (hload : ((Action.loadSettings path).run.run host).1 = .ok previous)

include hload

/-- A command that says that all is well after an action has the outcome of the action. -/
theorem runProgram_eq_ofRun {command : Command} {action : Action Unit}
    (harguments : Invocation.parse arguments = .ok ⟨path, verbose, command⟩)
    (hcommand : Action.perform path (previous.getD {}) command = do action; return true) :
    runProgram host arguments = .ofRun (action.run.run host) := by
  have hinvoke : (Action.invoke ⟨path, verbose, command⟩).run.run host =
      (do action; return true : Action Bool).run.run host := by
    rw [Action.invoke, Action.run_bind_ok (Action.run_loadSettings hload rfl), hcommand]
  rcases hrun : action.run.run host with ⟨cause | _, after⟩
  · rw [Action.run_bind_error hrun] at hinvoke
    simp only [runProgram, harguments, hinvoke]
    rfl
  · rw [Action.run_bind_ok hrun] at hinvoke
    simp only [runProgram, harguments, hinvoke]
    rfl

theorem runProgram_build {graph : String} {output : Option String}
    (harguments : Invocation.parse arguments = .ok ⟨path, verbose, .build graph output none⟩) :
    runProgram host arguments = .ofRun ((Action.buildWith (previous.getD {}).style.shebangLine
      (previous.getD {}).indentWidth graph output).run.run host) := by
  rw [← Action.build_eq_buildWith]
  exact runProgram_eq_ofRun hload harguments rfl

/-- The script of a build that succeeds begins with the first line of the settings. -/
theorem delivers_of_build {graph : String} {output : Option String}
    (harguments : Invocation.parse arguments = .ok ⟨path, verbose, .build graph output none⟩)
    (hcode : (runProgram host arguments).exitCode = 0) :
    ∃ rest, Action.Delivers host (runProgram host arguments).host
      ((previous.getD {}).style.shebangLine ++ "\n" ++ rest) output := by
  rw [runProgram_build hload harguments] at hcode ⊢
  obtain ⟨g, hdelivers⟩ := Action.delivers_of_buildWith (Outcome.eq_ok_of_exitCode hcode)
  obtain ⟨rest, hrest⟩ := Action.text_scriptWith (previous.getD {}).style.shebangLine
    (previous.getD {}).indentWidth g
  rw [hrest] at hdelivers
  exact ⟨rest, hdelivers⟩

variable (harguments : Invocation.parse arguments = .ok ⟨path, verbose, .config change⟩)

include harguments

theorem runProgram_config :
    runProgram host arguments =
      .ofRun ((Action.configure path (previous.getD {}) change).run.run host) :=
  runProgram_eq_ofRun hload harguments rfl

/-- A run that changes settings which are there, or that changes nothing, succeeds. -/
theorem exitCode_config (hthere : previous.isSome = true ∨ change.isEmpty = true) :
    (runProgram host arguments).exitCode = 0 := by
  rw [runProgram_config hload harguments]
  cases hempty : change.isEmpty with
  | true =>
      rw [Action.run_configure_of_isEmpty hempty]
      rfl
  | false =>
      rw [hempty] at hthere
      obtain ⟨s, rfl⟩ := Option.isSome_iff_exists.mp (hthere.resolve_right Bool.false_ne_true)
      obtain ⟨f, hfile⟩ := Action.exists_file hload
      obtain ⟨files, hwrite⟩ := FileTree.exists_write hfile (s.update change).text
      rw [Option.getD_some, Action.run_configure hempty hwrite]
      rfl

/-- What a run that changes settings leaves behind, if it succeeds: without changes all is as
before, and otherwise the changed settings are saved.  They are shown in either case. -/
theorem host_of_config (hcode : (runProgram host arguments).exitCode = 0) :
    (runProgram host arguments).host.printed =
        host.printed ++ ((previous.getD {}).update change).summary ∧
      (change.isEmpty = true → (runProgram host arguments).host.files = host.files) ∧
      (change.isEmpty = false →
        host.files.write path ((previous.getD {}).update change).text =
          .ok (runProgram host arguments).host.files) := by
  rw [runProgram_config hload harguments] at hcode ⊢
  cases hempty : change.isEmpty with
  | true =>
      rw [Action.run_configure_of_isEmpty hempty]
      exact ⟨rfl, fun _ => rfl, fun h => absurd h.symm Bool.false_ne_true⟩
  | false =>
      cases hwrite : host.files.write path ((previous.getD {}).update change).text with
      | error cause =>
          rw [Action.run_configure_error hempty hwrite] at hcode
          cases hcode
      | ok files =>
          rw [Action.run_configure hempty hwrite]
          exact ⟨rfl, fun h => absurd h Bool.false_ne_true, fun _ => rfl⟩

/-- After a run that changes settings and succeeds, the changed settings load. -/
theorem loadSettings_of_config (hcode : (runProgram host arguments).exitCode = 0) :
    ∃ loaded, ((Action.loadSettings path).run.run (runProgram host arguments).host).1 = .ok loaded ∧
      loaded.getD {} = (previous.getD {}).update change ∧
      (change.isEmpty = false → loaded = some ((previous.getD {}).update change)) := by
  obtain ⟨-, hkept, hsaved⟩ := host_of_config hload harguments hcode
  cases hempty : change.isEmpty with
  | true =>
      refine ⟨previous, ?_, (Settings.update_of_isEmpty _ hempty).symm,
        fun h => absurd h.symm Bool.false_ne_true⟩
      rw [Action.run_loadSettings hload (hkept hempty)]
  | false =>
      have hversion : ((previous.getD {}).update change).formatVersion ≤
          Settings.supportedVersion := Action.formatVersion_le_of_loadSettings hload
      have hloaded := Action.run_loadSettings_of_write (Action.find_ne_sink hload) (hsaved hempty)
      rw [if_pos hversion] at hloaded
      exact ⟨_, congrArg Prod.fst hloaded, rfl, fun _ => rfl⟩

end

/-- What a run that changes settings leaves behind: the settings it arrives at, where they are
found, how they are shown and what they do. -/
structure ConfiguredTo (before after : Host) (path : String) (previous : Settings)
    (change : Settings.Change) (s : Settings) : Prop where
  changed : previous.ChangedBy change s
  firstLine : FirstLine s.shebang s.style.shebangLine
  /-- without a change no file is touched -/
  files_eq : change.isEmpty = true → after.files = before.files
  loads : change.isEmpty = false → ((Action.loadSettings path).run.run after).1 = .ok (some s)
  printed_eq : after.printed = before.printed ++ ("shebang:      " ++ s.style.shebangLine ++
    "\nindent_width: " ++ toString s.indentWidth.toNat ++
    "\ndebug:        " ++ (if s.debug then "true" else "false") ++ "\n")
  /-- the line and the width that are shown are those of every later build that gives no line -/
  builds : ∀ (later : Host) (arguments : List String) (verbose : Bool) (graph : String)
    (output : Option String), later.files = after.files →
    Invocation.parse arguments = .ok ⟨path, verbose, .build graph output none⟩ →
    runProgram later arguments =
      .ofRun ((Action.buildWith s.style.shebangLine s.indentWidth graph output).run.run later)
  /-- the script of such a build, in its file or printed, begins with the line that is shown -/
  begins : ∀ (later : Host) (arguments : List String) (verbose : Bool) (graph : String)
    (output : Option String), later.files = after.files →
    Invocation.parse arguments = .ok ⟨path, verbose, .build graph output none⟩ →
    (runProgram later arguments).exitCode = 0 →
    ∃ rest, Action.Delivers later (runProgram later arguments).host
      (s.style.shebangLine ++ "\n" ++ rest) output

/-- Settings survive saving and loading, so what is changed by one run is what the next run loads,
and what is shown about settings is what a build does with them. -/
theorem configured_settings_reach_build :
    (∀ s : Settings,
      Settings.parse s.text = (if s.formatVersion ≤ Settings.supportedVersion then .ok s
        else .error (.tooNew s.formatVersion)) ∧
      ∀ (path : String) (before after : Host), before.files.find path ≠ .ok .sink →
        (Action.saveSettings path s).run.run before = (.ok (), after) →
        (Action.loadSettings path).run.run after =
          (if s.formatVersion ≤ Settings.supportedVersion then .ok (some s)
            else .error (.settings path (.tooNew s.formatVersion)), after)) ∧
    ∀ (host : Host) (arguments : List String) (path : String) (verbose : Bool)
      (change : Settings.Change) (previous : Option Settings),
      Invocation.parse arguments = .ok ⟨path, verbose, .config change⟩ →
      ((Action.loadSettings path).run.run host).1 = .ok previous →
      (previous.isSome = true ∨ change.isEmpty = true →
        (runProgram host arguments).exitCode = 0) ∧
      ((runProgram host arguments).exitCode = 0 →
        ∃ s, ConfiguredTo host (runProgram host arguments).host path (previous.getD {}) change s) := by
  refine ⟨fun s => ⟨Settings.parse_text s, fun path before after hsink hsave =>
    Action.run_loadSettings_of_write hsink (Action.write_of_saveSettings hsave)⟩, ?_⟩
  intro host arguments path verbose change previous harguments hload
  refine ⟨exitCode_config hload harguments, fun hcode => ?_⟩
  obtain ⟨hprinted, hkept, -⟩ := host_of_config hload harguments hcode
  obtain ⟨loaded, hloaded, heq, hsome⟩ := loadSettings_of_config hload harguments hcode
  have hlater : ∀ later : Host, later.files = (runProgram host arguments).host.files →
      ((Action.loadSettings path).run.run later).1 = .ok loaded := by
    intro later hfiles
    rw [Action.run_loadSettings hloaded hfiles]
  refine ⟨(previous.getD {}).update change, Settings.changedBy_update _ _,
    Settings.firstLine_style _, hkept, ?_, hprinted, ?_, ?_⟩
  · intro hempty
    rw [hloaded, hsome hempty]
  · intro later building _ graph output hfiles hbuilding
    rw [← heq]
    exact runProgram_build (hlater later hfiles) hbuilding
  · intro later building _ graph output hfiles hbuilding hbuilt
    rw [← heq]
    exact delivers_of_build (hlater later hfiles) hbuilding hbuilt

/-- Settings with a shebang whose characters have to be escaped. -/
def oddSettings : Settings :=
  { shebang := some "#! \"\\\n\x7f\u00e9", indentWidth := 0xffffffffffffffff, debug := true }

/-- A host with a file of these settings. -/
def oddHost : Host :=
  { files := { entries := .ofList [("s", .file (.ofText oddSettings.text))] }
    ids := { sequence := fun _ => default } }

theorem configured_settings_reach_build_odd :
    Settings.parse { oddSettings with formatVersion := 2 }.text = .error (.tooNew 2) ∧
    ∃ s, ConfiguredTo oddHost
      (runProgram oddHost ["--config", "s", "config", "--shebang= ", "--indent-width=+2"]).host "s"
      oddSettings { shebang := some " ", indentWidth := some 2 } s := by
  have hread : oddHost.files.read "s" = .ok oddSettings.text :=
    FileTree.read_of_file rfl |>.trans (File.text_of_bytes rfl)
  have hload : ((Action.loadSettings "s").run.run oddHost).1 = .ok (some oddSettings) := by
    rw [Action.run_loadSettings_some hread (Settings.parse_text oddSettings)]
  have hrun := configured_settings_reach_build.2 oddHost
    ["--config", "s", "config", "--shebang= ", "--indent-width=+2"] "s" false
    { shebang := some " ", indentWidth := some 2 } _ rfl hload
  have hnew := (configured_settings_reach_build.1 { oddSettings with formatVersion := 2 }).1
  rw [if_neg (by decide)] at hnew
  exact ⟨hnew, hrun.2 (hrun.1 (.inl rfl))⟩

end ScriptGraph
