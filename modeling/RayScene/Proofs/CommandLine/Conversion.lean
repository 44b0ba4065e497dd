import RayScene.CommandLine.Convert
import RayScene.Proofs.Outcome
import RayScene.Proofs.Scene.Compiling
import RayScene.Proofs.Studio.Failures
import RayScene.Proofs.Studio.LastWrite
import RayScene.Proofs.Studio.Stages

/-!
# What a conversion does

Whatever the scene file holds and whatever the programs do, a conversion ends with status 0 or 1,
has printed all of the renderer input or nothing, and fails without a change of files
(`run_converts`). Not handled are only a scene file that is no text, a name that is none for the
system, and a timeout that it cannot wait for.
-/

namespace RayScene.CommandLine

open Studio

namespace Convert

variable {files : Files} {path : Path} {w w' : World} {scene : String} {output : Option String}
  {text : String}

theorem readScene_ok {e : Edition} {s : Scene} :
    readScene e files path = .ok s ↔ ∃ content source, files.read path = .ok content ∧
      Utf8.decode content = .ok source ∧
      Scene.ofText e (String.ofList (lineFeeds source.toList)) = .ok s := by
  constructor
  · intro h
    obtain ⟨content, found, h⟩ := Outcome.bind_ok h
    obtain ⟨source, decoded, h⟩ := Outcome.bind_ok h
    exact ⟨content, source, Outcome.mapError_ok found, Outcome.mapError_ok decoded,
      Outcome.mapError_ok h⟩
  · rintro ⟨content, source, found, decoded, parsed⟩
    unfold readScene
    rw [found]
    dsimp only [Except.mapError, bind, Except.bind]
    rw [decoded]
    dsimp only
    rw [parsed]

def Malformed (w : World) (scene : String) (m : Utf8.Malformed) : Prop :=
  ∃ content, w.files.read (Path.ofText scene) = .ok content ∧ Utf8.decode content = .error m

def Compiles (w : World) (scene text : String) : Prop :=
  ∃ content source s, w.files.read (Path.ofText scene) = .ok content ∧
    Utf8.decode content = .ok source ∧
    Scene.ofText w.edition (String.ofList (lineFeeds source.toList)) = .ok s ∧
    s.compileText w.trig = .ok text

/-- Both programs succeed and the image is written, if one is wanted. -/
def Renders (w : World) (text : String) (w' : World) : Option String → Prop
  | none => w' = w
  | some place => ∃ runs png files, Draws w text w.settings.timeout runs (.ok png) ∧
      w.files.write (Path.ofText place) png = .ok files ∧
      files.read (Path.ofText place) = .ok png ∧ w' = { w with runs := w.runs ++ runs, files }

/-- An error on the way is told in a line, after what was logged about it. -/
def TellsError (time errors : String) : Prop :=
  ∃ log message, (log = "" ∨ ∃ logged, log = logLine time logged) ∧
    errors = log ++ errorText message

/-- What a conversion does not handle: a name with U+0000, a scene file that is no text, and a
timeout that the system cannot wait for. With it comes what was printed before, and what was run. -/
inductive Unhandled (w : World) (scene : String) (output : Option String) :
    Failure → String → List Invocation → Prop
  | sceneName : (Path.ofText scene).hasNullCharacter = true →
      Unhandled w scene output .nullCharacter "" []
  | sceneText {m : Utf8.Malformed} : Malformed w scene m →
      Unhandled w scene output (.malformedText m) "" []
  | imageName {place text : String} {runs : List Invocation} {png : Bytes} :
      output = some place → Compiles w scene text →
      Draws w text w.settings.timeout runs (.ok png) →
      (Path.ofText place).hasNullCharacter = true →
      Unhandled w scene output .nullCharacter text runs
  | notAwaited {place text : String} :
      output = some place → Compiles w scene text → Unwaited w text w.settings.timeout →
      Unhandled w scene output (.unwaitable w.settings.timeout) text
        [rendererRun w text w.settings.timeout]

/-- What a conversion does that handles what it meets. -/
structure Converted (time : String) (w : World) (scene : String) (output : Option String)
    (finished : Finished) (w' : World) : Prop where
  exit : finished.exit = .ok 0 ∨ finished.exit = .ok 1
  printed {text : String} : Compiles w scene text → finished.output = text
  silent : (∀ text, ¬ Compiles w scene text) → finished.output = ""
  success : finished.exit = .ok 0 ↔
    ∃ text, Compiles w scene text ∧ Renders w text w' output
  failure : finished.exit = .ok 1 → TellsError time finished.errors ∧ w'.files = w.files

theorem compiles_iff :
    Compiles w scene text ↔ ∃ s, readScene w.edition w.files (Path.ofText scene) = .ok s ∧
      s.compileText w.trig = .ok text := by
  constructor
  · rintro ⟨content, source, s, found, decoded, parsed, compiled⟩
    exact ⟨s, readScene_ok.mpr ⟨content, source, found, decoded, parsed⟩, compiled⟩
  · rintro ⟨s, read, compiled⟩
    obtain ⟨content, source, found, decoded, parsed⟩ := readScene_ok.mp read
    exact ⟨content, source, s, found, decoded, parsed, compiled⟩

theorem Compiles.unique {text' : String} (h : Compiles w scene text)
    (h' : Compiles w scene text') : text' = text := by
  obtain ⟨s, read, compiled⟩ := compiles_iff.mp h
  obtain ⟨s', read', compiled'⟩ := compiles_iff.mp h'
  cases read.symm.trans read'
  exact Except.ok.inj (compiled'.symm.trans compiled)

inductive Told : Cause → Prop
  | file (e : SystemError) : Told (.file e)
  | fault (f : Fault) : Told (.studio (.fault f))

theorem readScene_error {cause : Cause}
    (h : readScene w.edition w.files (Path.ofText scene) = .error cause) :
    Told cause ∨ ∃ f, Unhandled w scene output f "" [] := by
  unfold readScene at h
  cases found : w.files.read (Path.ofText scene) with
  | error e =>
    rw [found] at h
    cases h
    cases null : (Path.ofText scene).hasNullCharacter with
    | true => exact .inr ⟨_, .sceneName null⟩
    | false =>
      obtain ⟨failed, rfl⟩ := Files.read_error null found
      exact .inl (.file failed)
  | ok content =>
    rw [found] at h
    dsimp only [Except.mapError, bind, Except.bind] at h
    cases decoded : Utf8.decode content with
    | error m => exact .inr ⟨_, .sceneText ⟨content, found, decoded⟩⟩
    | ok source =>
      rw [decoded] at h
      dsimp only at h
      cases parsed : Scene.ofText w.edition (String.ofList (lineFeeds source.toList)) with
      | ok s =>
        rw [parsed] at h
        cases h
      | error vs =>
        rw [parsed] at h
        cases h
        exact .inl (.fault _)

theorem failed_told {cause : Cause} (told : Told cause) (time printed : String) :
    (failed time printed cause).exit = .ok 1 ∧ (failed time printed cause).output = printed ∧
      TellsError time (failed time printed cause).errors := by
  cases told with
  | file e => exact ⟨rfl, rfl, "", e.message, .inl rfl, String.empty_append.symm⟩
  | fault fault =>
    refine ⟨rfl, rfl, logText time fault, fault.message, ?_, rfl⟩
    cases fault with
    | render f => exact .inr ⟨f.logMessage, rfl⟩
    | schema _ _ => exact .inl rfl
    | precondition _ => exact .inl rfl
    | unresolved _ => exact .inl rfl
    | missing _ _ => exact .inl rfl

theorem converted_failed (refused : ∀ text, ¬ Compiles w scene text) (time : String) {cause : Cause}
    (told : Told cause) : Converted time w scene output (failed time "" cause) w := by
  obtain ⟨exit, silent, tells⟩ := failed_told told time ""
  refine {
    exit := .inr exit
    printed := fun compiles => absurd compiles (refused _)
    silent := fun _ => silent
    success := ?_
    failure := fun _ => ⟨tells, rfl⟩ }
  rw [exit]
  refine iff_of_false nofun ?_
  rintro ⟨text, compiles, _⟩
  exact refused text compiles

/-! ### Rendering -/

/-- Rendering to a name with U+0000 runs the programs, and is not handled. -/
theorem render_null {s : Scene} {runs : List Invocation} {png : Bytes} {place : String}
    (compiled : s.compileText w.trig = .ok text)
    (draws : Draws w text w.settings.timeout runs (.ok png))
    (null : (Path.ofText place).hasNullCharacter = true) :
    runIn w (render s (some place)) =
      (.error .nullCharacter, { w with runs := w.runs ++ runs }) := by
  have refused : w.files.write (Path.ofText (Path.ofText place).text) png =
      .error .nullCharacter := by
    rw [Path.ofText_text (Path.isRead_ofText place)]
    exact Files.write_null null png
  obtain ⟨result, w', ran, ends⟩ := renderTo_ends w s (Path.ofText place).text
  refine runIn_bind_error ?_ _
  cases ends with
  | notCompiled failed => cases compiled.symm.trans failed
  | notDrawn compiled' notDrawn =>
    cases compiled.symm.trans compiled'
    cases (draws.unique notDrawn).2
  | notWritten compiled' draws' failed =>
    cases compiled.symm.trans compiled'
    obtain ⟨rfl, same⟩ := draws.unique draws'
    cases same
    cases refused.symm.trans failed
    exact ran
  | written compiled' draws' written =>
    cases compiled.symm.trans compiled'
    obtain ⟨rfl, same⟩ := draws.unique draws'
    cases same
    cases refused.symm.trans written

theorem render_notDrawn {s : Scene} {runs : List Invocation} {e : Failure}
    (compiled : s.compileText w.trig = .ok text)
    (draws : Draws w text w.settings.timeout runs (.error e)) (place : String) :
    runIn w (render s (some place)) = (.error e, { w with runs := w.runs ++ runs }) := by
  obtain ⟨result, w', ran, ends⟩ := renderTo_ends w s (Path.ofText place).text
  refine runIn_bind_error ?_ _
  cases ends with
  | notCompiled failed => cases compiled.symm.trans failed
  | notDrawn compiled' draws' =>
    cases compiled.symm.trans compiled'
    obtain ⟨rfl, same⟩ := draws.unique draws'
    cases same
    exact ran
  | notWritten compiled' draws' _ =>
    cases compiled.symm.trans compiled'
    cases (draws.unique draws').2
  | written compiled' draws' _ =>
    cases compiled.symm.trans compiled'
    cases (draws.unique draws').2

/-- Nothing keeps a rendering from ending in a way that a conversion handles. -/
structure Handled (w : World) (text : String) (output : Option String) : Prop where
  noNull {place : String} {runs : List Invocation} {png : Bytes} : output = some place →
    Draws w text w.settings.timeout runs (.ok png) → (Path.ofText place).hasNullCharacter = false
  waited {place : String} : output = some place → ¬ Unwaited w text w.settings.timeout

/-- Rendering a scene that compiles renders it, or fails with a fault and leaves the files alone. -/
theorem render_ends {s : Scene} (compiled : s.compileText w.trig = .ok text)
    (handled : Handled w text output) :
    (∃ w', runIn w (render s output) = (.ok (), w') ∧ Renders w text w' output) ∨
      ∃ f runs, runIn w (render s output) = (.error (.fault f), { w with runs }) ∧
        ∀ w', ¬ Renders w text w' output := by
  cases output with
  | none => exact .inl ⟨w, rfl, rfl⟩
  | some place =>
    have same : Path.ofText (Path.ofText place).text = Path.ofText place :=
      Path.ofText_text (Path.isRead_ofText place)
    obtain ⟨result, w', ran, ends⟩ := renderTo_ends w s (Path.ofText place).text
    unfold render
    cases ends with
    | notCompiled failed => cases compiled.symm.trans failed
    | notDrawn compiled' notDrawn =>
      cases compiled.symm.trans compiled'
      rcases notDrawn.error with ⟨f, rfl⟩ | rfl
      · refine .inr ⟨_, _, runIn_bind_error ran _, ?_⟩
        rintro w' ⟨runs, png, files, draws, _⟩
        cases (notDrawn.unique draws).2
      · exact absurd (notDrawn.unwaitable_iff.mp rfl).2 (handled.waited rfl)
    | notWritten compiled' draws failed =>
      cases compiled.symm.trans compiled'
      rw [same] at failed
      obtain ⟨refused, rfl⟩ := Files.write_error (handled.noNull rfl draws) failed
      refine .inr ⟨_, _, runIn_bind_error ran _, ?_⟩
      rintro w' ⟨runs, png, files, draws', written, _⟩
      obtain ⟨rfl, same⟩ := draws.unique draws'
      cases same
      cases failed.symm.trans written
    | written compiled' draws written =>
      cases compiled.symm.trans compiled'
      rw [same] at written
      exact .inl ⟨_, runIn_bind_ok ran _, _, _, _, draws, written, Files.read_write_same written,
        rfl⟩

/-- What is known of the end of a conversion whose scene compiles. -/
theorem converted_compiled {s : Scene} (time : String) (compiles : Compiles w scene text)
    (compiled : s.compileText w.trig = .ok text) (handled : Handled w text output) :
    Converted time w scene output (rendered time text (runIn w (render s output)).1)
      (runIn w (render s output)).2 := by
  rcases render_ends compiled handled with ⟨w', ran, renders⟩ | ⟨f, runs, ran, notRendered⟩
  · rw [ran]
    exact {
      exit := .inl rfl
      printed := fun compiles' => compiles'.unique compiles
      silent := fun refused => absurd compiles (refused text)
      success := iff_of_true rfl ⟨text, compiles, renders⟩
      failure := nofun }
  · obtain ⟨exit, printed, tells⟩ := failed_told (.fault f) time text
    rw [ran]
    refine {
      exit := .inr exit
      printed := fun compiles' => printed.trans (compiles'.unique compiles)
      silent := fun refused => absurd compiles (refused text)
      success := ?_
      failure := fun _ => ⟨tells, rfl⟩ }
    refine iff_of_false (fun ended => ?_) ?_
    · cases exit.symm.trans ended
    · rintro ⟨text', compiles', renders⟩
      rw [compiles.unique compiles'] at renders
      exact notRendered _ renders

theorem converted {time : String}
    (handled : ∀ f printed runs, ¬ Unhandled w scene output f printed runs) :
    Converted time w scene output (Convert.run time scene output w).1
      (Convert.run time scene output w).2 := by
  unfold Convert.run
  cases read : readScene w.edition w.files (Path.ofText scene) with
  | error cause =>
    have refused (text : String) : ¬ Compiles w scene text := by
      intro compiles
      obtain ⟨s, read', _⟩ := compiles_iff.mp compiles
      cases read.symm.trans read'
    rcases readScene_error read with told | ⟨f, unhandled⟩
    · exact converted_failed refused time told
    · exact absurd unhandled (handled f "" [])
  | ok s =>
    dsimp only
    cases compiled : s.compileText w.trig with
    | ok text =>
      have compiles : Compiles w scene text := compiles_iff.mpr ⟨s, read, compiled⟩
      refine converted_compiled time compiles compiled ⟨fun wanted draws => ?_, fun wanted => ?_⟩
      · exact eq_false_of_ne_true fun null => handled _ _ _ (.imageName wanted compiles draws null)
      · exact fun unwaited => handled _ _ _ (.notAwaited wanted compiles unwaited)
    | error e =>
      obtain ⟨_, source, _, _, parsed⟩ := readScene_ok.mp read
      obtain ⟨v, accepted⟩ := Scene.check_of_ofText parsed
      obtain ⟨f, same⟩ := Scene.fault_of_compile_error accepted compiled
      dsimp only
      rw [same]
      refine converted_failed (fun text compiles => ?_) time (.fault f)
      obtain ⟨s', read', compiled'⟩ := compiles_iff.mp compiles
      cases read.symm.trans read'
      cases compiled.symm.trans compiled'

theorem run_unhandled {f : Failure} {printed : String} {runs : List Invocation}
    (unhandled : Unhandled w scene output f printed runs) (time : String) :
    Convert.run time scene output w =
      (⟨.error f, printed, ""⟩, { w with runs := w.runs ++ runs }) := by
  unfold Convert.run
  cases unhandled with
  | sceneName null =>
    have read : readScene w.edition w.files (Path.ofText scene) =
        .error (.studio .nullCharacter) := by
      unfold readScene
      rw [Files.read_null null]
      rfl
    rw [read, List.append_nil]
    rfl
  | @sceneText m malformed =>
    obtain ⟨content, found, decoded⟩ := malformed
    have read : readScene w.edition w.files (Path.ofText scene) =
        .error (.studio (.malformedText m)) := by
      unfold readScene
      rw [found]
      dsimp only [Except.mapError, bind, Except.bind]
      rw [decoded]
    rw [read, List.append_nil]
    rfl
  | imageName wanted compiles draws null =>
    obtain ⟨s, read, compiled⟩ := compiles_iff.mp compiles
    rw [read]
    dsimp only
    rw [compiled, wanted, render_null compiled draws null]
    rfl
  | notAwaited wanted compiles unwaited =>
    obtain ⟨s, read, compiled⟩ := compiles_iff.mp compiles
    rw [read]
    dsimp only
    rw [compiled, wanted, render_notDrawn compiled unwaited.draws]
    rfl

/-- A scene file that is no text, a name with U+0000 and a timeout that the system cannot wait for
are not handled: a conversion that meets them ends with that failure, and has changed no file. Every
other conversion does what a conversion does (`Converted`), whatever the scene file holds, if it is
there, and whatever the programs do. -/
theorem run_converts {arguments : List String}
    (command : Command.ofArguments arguments = .ok (.convert scene output))
    (time : String) (w : World) :
    (Converted time w scene output (CommandLine.run time arguments w).1
        (CommandLine.run time arguments w).2 ↔
      ∀ f printed runs, ¬ Unhandled w scene output f printed runs) ∧
    ∀ f printed runs, Unhandled w scene output f printed runs →
      CommandLine.run time arguments w =
        (⟨.error f, printed, ""⟩, { w with runs := w.runs ++ runs }) := by
  have ran : CommandLine.run time arguments w = run time scene output w := by
    unfold CommandLine.run
    rw [command]
  rw [ran]
  refine ⟨⟨fun converts f printed runs unhandled => ?_, converted⟩,
    fun f printed runs unhandled => run_unhandled unhandled time⟩
  rw [run_unhandled unhandled] at converts
  rcases converts.exit with ended | ended
  · cases ended
  · cases ended

def worldWith (content : Bytes) : World :=
  { worldFor "images" with files := ⟨[(["scene.json"], .file content false)]⟩ }

theorem read_worldWith (content : Bytes) :
    (worldWith content).files.read (Path.ofText "scene.json") = .ok content := rfl

theorem run_converts_pillar :
    let w := worldWith (Utf8.encode Example.pillar.scene.source)
    let arguments := ["scene.json", "scene.png"]
    Command.ofArguments arguments = .ok (.convert "scene.json" (some "scene.png")) ∧
      Converted "" w "scene.json" (some "scene.png") (CommandLine.run "" arguments w).1
        (CommandLine.run "" arguments w).2 := by
  intro w arguments
  have command : Command.ofArguments arguments =
      .ok (.convert "scene.json" (some "scene.png")) := by decide +kernel
  refine ⟨command, (run_converts command "" w).1.mpr fun f printed runs unhandled => ?_⟩
  cases unhandled with
  | sceneName null => exact absurd null (by decide +kernel)
  | sceneText malformed =>
    obtain ⟨content, found, malformed⟩ := malformed
    have same := Except.ok.inj ((read_worldWith _).symm.trans found)
    rw [← same, Utf8.decode_encode] at malformed
    cases malformed
  | imageName wanted _ _ null =>
    cases wanted
    exact absurd null (by decide +kernel)
  | notAwaited _ _ unwaited => exact absurd unwaited.refused (by decide +kernel)

/-- A scene file of a single byte that is no text is not handled. -/
theorem run_not_converts :
    let w := worldWith [0xFF]
    let arguments := ["scene.json", "scene.png"]
    CommandLine.run "" arguments w =
        (⟨.error (.malformedText ⟨0, .startByte, [0xFF]⟩), "", ""⟩, w) ∧
      ¬ Converted "" w "scene.json" (some "scene.png") (CommandLine.run "" arguments w).1
        (CommandLine.run "" arguments w).2 := by
  intro w arguments
  have command : Command.ofArguments arguments =
      .ok (.convert "scene.json" (some "scene.png")) := by decide +kernel
  have malformed : Malformed w "scene.json" ⟨0, .startByte, [0xFF]⟩ :=
    ⟨[0xFF], read_worldWith _, by decide +kernel⟩
  have ran : CommandLine.run "" arguments w =
      (⟨.error (.malformedText ⟨0, .startByte, [0xFF]⟩), "", ""⟩, w) := by
    unfold CommandLine.run
    rw [command]
    exact run_unhandled (.sceneText malformed) ""
  refine ⟨ran, fun converts => ?_⟩
  rw [ran] at converts
  rcases converts.exit with ended | ended
  · cases ended
  · cases ended

end Convert

end RayScene.CommandLine
