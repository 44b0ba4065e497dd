import RayScene.Agent.Tool
import RayScene.Proofs.Scene.Compiling
import RayScene.Proofs.Scene.Decides
import RayScene.Proofs.Studio.Failures
import RayScene.Proofs.Studio.LastWrite

/-!
# Calls of tools

A call of a tool gives a result that is no error if and only if the tool exists, its arguments are
valid and its action succeeds. What else fails is reported in the result, with two exceptions: a
source that is no text, and a scene whose nets name surrogates (`callNamed_outcome`).
-/

namespace RayScene
open Studio

theorem Check.object_ok {α : Type} {kind : Kind} {read : Fields → Checked α} {v : Json} {a : α}
    (h : Check.object kind read v = .ok a) : ∃ fields, v = .obj fields ∧ read fields = .ok a := by
  unfold Check.object at h
  split at h
  · exact ⟨_, rfl, h⟩
  · cases h

theorem Check.required_ok {α : Type} {fields : Fields} {key : LooseText} {check : Json → Checked α}
    {a : α} (h : Check.required fields key check = .ok a) :
    ∃ v, Fields.get? fields key = some v ∧ check v = .ok a := by
  unfold Check.required at h
  split at h
  · rename_i v given
    exact ⟨v, given, Collected.relabel_ok h⟩
  · cases h

theorem Check.string_ok {v : Json} {s : LooseText} (h : Check.string v = .ok s) : v = .str s := by
  unfold Check.string at h
  split at h
  · cases h
    rfl
  · cases h

theorem RenderArguments.check_ok {input : Json} {args : RenderArguments}
    (h : RenderArguments.check input = .ok args) :
    input.get? "name" = some (.str args.name) ∧ ∃ v, Scene.check v = .ok args.scene := by
  obtain ⟨fields, rfl, h⟩ := Check.object_ok h
  obtain ⟨_, scene, rfl, h, content⟩ := Collected.app_ok h
  obtain ⟨_, name, rfl, h, named⟩ := Collected.app_ok h
  cases h
  obtain ⟨v, given, text⟩ := Check.required_ok named
  obtain ⟨v', _, accepted⟩ := Check.required_ok content
  cases Check.string_ok text
  exact ⟨given, v', accepted⟩

/-! ### Checked actions -/

section Checked

variable {α β γ : Type} {w w' : World} {c : Checked α} {action : α → Studio β} {f : α → β → γ}

def onChecked (c : Checked α) (action : α → Studio β) (f : α → β → γ) : Studio γ := do
  let a ← accept c
  let b ← action a
  return f a b

theorem onChecked_cases (w : World) (c : Checked α) (action : α → Studio β) (f : α → β → γ) :
    (∃ vs, c = .error vs ∧
        runIn w (onChecked c action f) = (.error (.fault (.schema .value vs)), w)) ∨
      ∃ a, c = .ok a ∧
        ((∃ e w', runIn w (action a) = (.error e, w') ∧
            runIn w (onChecked c action f) = (.error e, w')) ∨
          ∃ b w', runIn w (action a) = (.ok b, w') ∧
            runIn w (onChecked c action f) = (.ok (f a b), w')) := by
  unfold onChecked accept
  cases c with
  | error vs => exact .inl ⟨vs, rfl, runIn_bind_error (runIn_ofExcept_error rfl w) _⟩
  | ok a =>
    rw [runIn_bind_ok (runIn_ofExcept_ok rfl w)]
    refine .inr ⟨a, rfl, ?_⟩
    rcases result : runIn w (action a) with ⟨e | b, w'⟩
    · exact .inl ⟨e, w', rfl, runIn_bind_error result _⟩
    · exact .inr ⟨b, w', rfl, runIn_bind_ok result _⟩

theorem runIn_onChecked (w : World) (c : Checked α) (action : α → Studio β) (f : α → β → γ) :
    runIn w (onChecked c action f) =
      ((runIn w (onChecked c action Prod.mk)).1.map fun p => f p.1 p.2,
        (runIn w (onChecked c action Prod.mk)).2) := by
  unfold onChecked accept
  cases c with
  | error vs => rfl
  | ok a =>
    rw [runIn_bind_ok (runIn_ofExcept_ok rfl w), runIn_bind_ok (runIn_ofExcept_ok rfl w)]
    rcases result : runIn w (action a) with ⟨e | b, w'⟩
    · rw [runIn_bind_error result, runIn_bind_error result]
      rfl
    · rw [runIn_bind_ok result, runIn_bind_ok result]
      rfl

theorem onChecked_ok {r : γ} :
    runIn w (onChecked c action f) = (.ok r, w') ↔
      ∃ a b, c = .ok a ∧ runIn w (action a) = (.ok b, w') ∧ r = f a b := by
  rcases onChecked_cases w c action f with
    ⟨vs, refused, ended⟩ | ⟨a, read, ⟨e, w₁, failed, ended⟩ | ⟨b, w₁, went, ended⟩⟩
  · rw [ended, refused]
    constructor
    · intro h
      cases h
    · rintro ⟨a, b, read, _⟩
      cases read
  · rw [ended, read]
    constructor
    · intro h
      cases h
    · rintro ⟨a', b, read', went, _⟩
      cases read'
      cases failed.symm.trans went
  · rw [ended, read]
    constructor
    · intro h
      cases h
      exact ⟨a, b, rfl, went, rfl⟩
    · rintro ⟨a', b', read', went', rfl⟩
      cases read'
      cases went.symm.trans went'
      rfl

theorem onChecked_error {a : α} {e : Failure} (read : c = .ok a)
    (failed : runIn w (action a) = (.error e, w')) :
    runIn w (onChecked c action f) = (.error e, w') := by
  unfold onChecked accept
  rw [runIn_bind_ok (runIn_ofExcept_ok read w), runIn_bind_error failed]

theorem onChecked_fails {P : Failure → Prop} (violated : ∀ vs, P (.fault (.schema .value vs)))
    (fails : ∀ a, c = .ok a → Fails w (action a) P) : Fails w (onChecked c action f) P := by
  unfold onChecked
  cases c with
  | error vs => exact Fails.of_error (runIn_bind_error (runIn_ofExcept_error rfl w) _) (violated vs)
  | ok a =>
    apply Fails.bind_ok (runIn_ofExcept_ok rfl w)
    apply Fails.bind (fails a rfl)
    intro b w₁ _
    exact Fails.of_ok rfl

end Checked

namespace Tool

variable {w w' : World} {input : Json} {t : Tool} {r : ToolResult}

theorem run_render (input : Json) : Tool.render.run input =
    onChecked (RenderArguments.check input) (fun args => renderAs args.scene args.name)
      fun args png => .image ("Rendered image " ++ Text.quoted args.name ++ ".") png := rfl

theorem run_readImage (input : Json) : Tool.readImage.run input =
    onChecked (checkNameArgument input) storedImage
      fun name png => .image ("Loaded image " ++ Text.quoted name ++ ".") png := rfl

theorem run_readSource (input : Json) : Tool.readSource.run input =
    onChecked (checkNameArgument input) storedSource fun name source =>
      ⟨[blockOfText ("Source of " ++ Text.quoted name ++ ":\n" ++ source ++ "\n")], false⟩ := rfl

/-- The arguments are valid and the action succeeds; the result carries what it gives. -/
inductive Succeeds (w : World) (input : Json) : Tool → ToolResult → World → Prop
  | render {args : RenderArguments} {png : Bytes} {w' : World} :
      RenderArguments.check input = .ok args →
      runIn w (renderAs args.scene args.name) = (.ok png, w') →
      Succeeds w input .render (.image ("Rendered image " ++ Text.quoted args.name ++ ".") png) w'
  | readImage {name : LooseText} {png : Bytes} {w' : World} :
      checkNameArgument input = .ok name → runIn w (storedImage name) = (.ok png, w') →
      Succeeds w input .readImage (.image ("Loaded image " ++ Text.quoted name ++ ".") png) w'
  | readSource {name : LooseText} {source : String} {w' : World} :
      checkNameArgument input = .ok name → runIn w (storedSource name) = (.ok source, w') →
      Succeeds w input .readSource
        ⟨[blockOfText ("Source of " ++ Text.quoted name ++ ":\n" ++ source ++ "\n")], false⟩ w'

/-- Rendering fails with something that nobody is told, or a source is no text. -/
inductive Escapes (w : World) (input : Json) : Tool → Prop
  | render {args : RenderArguments} {n : String} {e : Failure} :
      RenderArguments.check input = .ok args → Accepts args.name n →
      Unreported w args.scene n e → Escapes w input .render
  | readSource {given : LooseText} {n : String} {content : Bytes} {m : Utf8.Malformed} :
      checkNameArgument input = .ok given → Accepts given n →
      w.files.read (w.settings.imagesDirectory.child (Artifact.source.file n)) = .ok content →
      Utf8.decode content = .error m → Escapes w input .readSource

theorem Succeeds.isError (h : t.Succeeds w input r w') : r.isError = false := by
  cases h <;> rfl

theorem run_ok_iff : runIn w (t.run input) = (.ok r, w') ↔ t.Succeeds w input r w' := by
  cases t with
  | render =>
    rw [run_render, onChecked_ok]
    constructor
    · rintro ⟨args, png, read, went, rfl⟩
      exact .render read went
    · intro succeeds
      cases succeeds with
      | render read went => exact ⟨_, _, read, went, rfl⟩
  | readImage =>
    rw [run_readImage, onChecked_ok]
    constructor
    · rintro ⟨name, png, read, went, rfl⟩
      exact .readImage read went
    · intro succeeds
      cases succeeds with
      | readImage read went => exact ⟨_, _, read, went, rfl⟩
  | readSource =>
    rw [run_readSource, onChecked_ok]
    constructor
    · rintro ⟨name, source, read, went, rfl⟩
      exact .readSource read went
    · intro succeeds
      cases succeeds with
      | readSource read went => exact ⟨_, _, read, went, rfl⟩

theorem run_fails (configured : w.IsConfigured) (input : Json) (t : Tool) :
    Fails w (t.run input) fun e => (∃ f, e = .fault f) ∨ t.Escapes w input := by
  have violated (vs : List Violation) : (∃ f, Failure.fault (.schema .value vs) = .fault f) ∨
      t.Escapes w input := .inl ⟨_, rfl⟩
  cases t with
  | render =>
    refine onChecked_fails violated fun args read => ?_
    rcases accepts_or args.name with ⟨n, accepted⟩ | rejected
    · apply (renderAs_fails configured args.scene accepted).mono
      intro e failed
      cases failed with
      | render f => exact .inl ⟨_, rfl⟩
      | compile failed =>
        obtain ⟨_, v, checked⟩ := RenderArguments.check_ok read
        exact .inl (Scene.fault_of_compile_error checked failed)
      | unreported unreported => exact .inr (.render read accepted unreported)
    · exact Fails.of_error (renderAs_rejected rejected w args.scene) (.inl ⟨_, rfl⟩)
  | readImage =>
    refine onChecked_fails violated fun given read => ?_
    rcases accepts_or given with ⟨n, accepted⟩ | rejected
    · exact (storedContent_fails configured accepted .image).mono fun e failed => .inl ⟨_, failed⟩
    · exact Fails.of_error (storedContent_rejected rejected w .image) (.inl ⟨_, rfl⟩)
  | readSource =>
    refine onChecked_fails violated fun given read => ?_
    rcases accepts_or given with ⟨n, accepted⟩ | rejected
    · apply (storedSource_fails configured accepted).mono
      rintro e (missing | ⟨content, m, found, malformed, _⟩)
      · exact .inl ⟨_, missing⟩
      · exact .inr (.readSource read accepted found malformed)
    · exact Fails.of_error (storedSource_rejected rejected w) (.inl ⟨_, rfl⟩)

theorem run_escapes (h : t.Escapes w input) :
    ∃ e w', runIn w (t.run input) = (.error e, w') ∧ ∀ f, e ≠ .fault f := by
  cases h with
  | @render args n e read accepted unreported =>
    have ended := renderAs_unreported accepted unreported
    rcases result : runIn w (renderAs args.scene args.name) with ⟨outcome, w'⟩
    rw [result] at ended
    cases ended
    exact ⟨e, w', onChecked_error read result, unreported.ne_fault⟩
  | readSource read accepted found malformed =>
    have content : runIn w (storedContent _ .source) = (.ok _, w) :=
      (storedContent_read accepted w .source).trans (runIn_ofExcept_ok found w)
    have ended : runIn w (storedSource _) = (.error (.malformedText _), w) :=
      (runIn_bind_ok content _).trans (runIn_ofExcept_error malformed w)
    exact ⟨_, w, onChecked_error read ended, fun f same => by cases same⟩

/-! ### Calls -/

def faultReport (t : Tool) (f : Fault) : ToolResult :=
  .error ("Tool " ++ Named.name t ++ " failed: " ++ f.message)

theorem call_ok_iff :
    runIn w (t.call input) = (.ok r, w') ↔
      t.Succeeds w input r w' ∨
        ∃ f, runIn w (t.run input) = (.error (.fault f), w') ∧ r = t.faultReport f := by
  unfold call
  rw [runIn_tryCatch, ← run_ok_iff]
  rcases runIn w (t.run input) with ⟨e | r₁, w₁⟩
  · cases e with
    | fault f =>
      constructor
      · intro h
        cases h
        exact .inr ⟨f, rfl, rfl⟩
      · rintro (h | ⟨f, same, rfl⟩)
        · cases h
        · cases same
          rfl
    | _ =>
      constructor
      · intro h
        cases h
      · rintro (h | ⟨f, same, _⟩)
        · cases h
        · cases same
  · constructor
    · exact .inl
    · rintro (h | ⟨f, same, _⟩)
      · exact h
      · cases same

/-- A call ends in a failure exactly when its tool does not fail with a fault. -/
theorem call_error_iff (configured : w.IsConfigured) :
    (∃ e w', runIn w (t.call input) = (.error e, w')) ↔ t.Escapes w input := by
  unfold call
  rw [runIn_tryCatch]
  constructor
  · rintro ⟨e, w', h⟩
    rcases result : runIn w (t.run input) with ⟨e₁ | r, w₁⟩
    · rw [result] at h
      rcases (run_fails configured input t).only result with ⟨f, rfl⟩ | escapes
      · cases h
      · exact escapes
    · rw [result] at h
      cases h
  · intro escapes
    obtain ⟨e, w', ended, other⟩ := run_escapes escapes
    rw [ended]
    cases e with
    | fault f => exact absurd rfl (other f)
    | _ => exact ⟨_, _, rfl⟩

theorem ofJson?_eq_some_iff {name : Json} : ofJson? name = some t ↔ name = .str (Named.name t) := by
  have distinct : (Named.names Tool).Nodup := by decide
  have listed : t ∈ Named.all := by cases t <;> decide
  unfold ofJson?
  constructor
  · intro found
    split at found
    · rename_i s
      obtain ⟨text, proper, named⟩ := Option.bind_eq_some_iff.mp found
      obtain ⟨_, rfl⟩ := (Check.ofName?_eq_some_iff distinct).mp named
      cases s with
      | proper s =>
        cases proper
        rfl
      | broken before unit after => cases proper
    · cases found
  · rintro rfl
    exact (Check.ofName?_eq_some_iff distinct).mpr ⟨listed, rfl⟩

def IsUnknown (name : Json) : Prop := ∀ t : Tool, name ≠ .str (Named.name t)

def unknownReport (name : Json) : ToolResult := .error ("Unknown tool: " ++ name.display)

theorem callNamed_of_name (t : Tool) (input : Json) :
    callNamed (.str (Named.name t)) input = t.call input := by
  unfold callNamed
  rw [ofJson?_eq_some_iff.mpr rfl]

theorem callNamed_unknown {name : Json} (unknown : IsUnknown name) (input : Json) (w : World) :
    runIn w (callNamed name input) = (.ok (unknownReport name), w) := by
  unfold callNamed
  cases found : ofJson? name with
  | none => rfl
  | some t => exact absurd (ofJson?_eq_some_iff.mp found) (unknown t)

theorem known_or (name : Json) : (∃ t : Tool, name = .str (Named.name t)) ∨ IsUnknown name := by
  by_cases known : ∃ t : Tool, name = .str (Named.name t)
  · exact .inl known
  · exact .inr fun t same => known ⟨t, same⟩

theorem callNamed_ok_iff {name : Json} :
    runIn w (callNamed name input) = (.ok r, w') ↔
      (IsUnknown name ∧ r = unknownReport name ∧ w' = w) ∨
        ∃ t : Tool, name = .str (Named.name t) ∧ runIn w (t.call input) = (.ok r, w') := by
  constructor
  · intro h
    rcases known_or name with ⟨t, rfl⟩ | unknown
    · rw [callNamed_of_name] at h
      exact .inr ⟨t, rfl, h⟩
    · cases (callNamed_unknown unknown input w).symm.trans h
      exact .inl ⟨unknown, rfl, rfl⟩
  · rintro (⟨unknown, rfl, rfl⟩ | ⟨t, rfl, h⟩)
    · exact callNamed_unknown unknown input w'
    · rwa [callNamed_of_name]

theorem callNamed_error_iff (configured : w.IsConfigured) {name : Json} :
    (∃ e w', runIn w (callNamed name input) = (.error e, w')) ↔
      ∃ t : Tool, name = .str (Named.name t) ∧ t.Escapes w input := by
  constructor
  · rintro ⟨e, w', h⟩
    rcases known_or name with ⟨t, rfl⟩ | unknown
    · rw [callNamed_of_name] at h
      exact ⟨t, rfl, (call_error_iff configured).mp ⟨e, w', h⟩⟩
    · cases (callNamed_unknown unknown input w).symm.trans h
  · rintro ⟨t, rfl, escapes⟩
    rw [callNamed_of_name]
    exact (call_error_iff configured).mpr escapes

/-- A call gives a result that is no error exactly when its tool succeeds, and reports what else
fails, unless a source is no text or rendering fails with something that nobody is told. -/
theorem callNamed_outcome (configured : w.IsConfigured) (name input : Json) :
    (∀ r w', runIn w (callNamed name input) = (.ok r, w') ∧ r.isError = false ↔
        ∃ t : Tool, name = .str (Named.name t) ∧ t.Succeeds w input r w') ∧
      (∀ r w', runIn w (callNamed name input) = (.ok r, w') ∧ r.isError = true ↔
        (IsUnknown name ∧ r = unknownReport name ∧ w' = w) ∨
          ∃ (t : Tool) (f : Fault), name = .str (Named.name t) ∧
            runIn w (t.run input) = (.error (.fault f), w') ∧ r = t.faultReport f) ∧
      ((∃ e w', runIn w (callNamed name input) = (.error e, w')) ↔
        ∃ t : Tool, name = .str (Named.name t) ∧ t.Escapes w input) := by
  refine ⟨fun r w' => ⟨?_, ?_⟩, fun r w' => ⟨?_, ?_⟩, callNamed_error_iff configured⟩
  · rintro ⟨returned, fine⟩
    rcases callNamed_ok_iff.mp returned with ⟨_, rfl, _⟩ | ⟨t, named, called⟩
    · cases fine
    rcases call_ok_iff.mp called with succeeds | ⟨f, _, rfl⟩
    · exact ⟨t, named, succeeds⟩
    · cases fine
  · rintro ⟨t, named, succeeds⟩
    exact ⟨callNamed_ok_iff.mpr (.inr ⟨t, named, call_ok_iff.mpr (.inl succeeds)⟩),
      succeeds.isError⟩
  · rintro ⟨returned, isError⟩
    rcases callNamed_ok_iff.mp returned with unknown | ⟨t, named, called⟩
    · exact .inl unknown
    rcases call_ok_iff.mp called with succeeds | ⟨f, failed, same⟩
    · rw [succeeds.isError] at isError
      cases isError
    · exact .inr ⟨t, f, named, failed, same⟩
  · rintro (⟨unknown, rfl, rfl⟩ | ⟨t, f, named, failed, rfl⟩)
    · exact ⟨callNamed_ok_iff.mpr (.inl ⟨unknown, rfl, rfl⟩), rfl⟩
    · exact ⟨callNamed_ok_iff.mpr (.inr ⟨t, named, call_ok_iff.mpr (.inr ⟨f, failed, rfl⟩)⟩), rfl⟩

def sourceWorld (content : Bytes) : World :=
  { worldFor "images" with
    files := ⟨[(["images"], .directory), (["images", "a.json"], .file content false)]⟩ }

def readA : Json := .obj [("name", .str "a")]

theorem callNamed_outcome_source :
    (sourceWorld (Utf8.encode "hi")).IsConfigured ∧
      (∃ r, runIn (sourceWorld (Utf8.encode "hi")) (callNamed (.str "read_source") readA) =
        (.ok r, sourceWorld (Utf8.encode "hi")) ∧ r.isError = false) ∧
      ∃ e w', runIn (sourceWorld [0xff]) (callNamed (.str "read_source") readA) =
        (.error e, w') := by
  have configured (content : Bytes) : (sourceWorld content).IsConfigured :=
    ⟨"images", by decide, rfl⟩
  obtain ⟨succeeds, _⟩ :=
    callNamed_outcome (configured (Utf8.encode "hi")) (.str "read_source") readA
  obtain ⟨_, _, escapes⟩ := callNamed_outcome (configured [0xff]) (.str "read_source") readA
  refine ⟨configured _, ?_, escapes.mpr ⟨.readSource, rfl, ?_⟩⟩
  · have stored : runIn (sourceWorld (Utf8.encode "hi")) (storedSource "a") =
        (.ok "hi", sourceWorld (Utf8.encode "hi")) := by rfl
    exact ⟨_, (succeeds _ _).mpr ⟨.readSource, rfl, .readSource rfl stored⟩⟩
  · have accepted : Accepts "a" "a" := ⟨rfl, rfl⟩
    exact .readSource rfl accepted rfl rfl

/-- A source that is no text is not reported. -/
theorem callNamed_malformed_source :
    runIn (sourceWorld [0xff]) (callNamed (.str "read_source") readA) =
      (.error (.malformedText ⟨0, .startByte, [0xff]⟩), sourceWorld [0xff]) := by
  rfl

end Tool
end RayScene
