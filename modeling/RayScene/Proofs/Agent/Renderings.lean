import RayScene.Proofs.Agent.Course
import RayScene.Proofs.Agent.Tools
import RayScene.Proofs.Studio.LastWrite
import RayScene.Proofs.Studio.Rendered

/-!
# What a run rendered

The names that a run reports are those of the calls that its messages show as rendered, and at the
end of the run each of them has the image that was shown last and a source that can be read
(`run_rendered`).
-/

namespace RayScene

namespace Message

def ofKind (kind : String) (m : Message) : List Json :=
  m.blocks.filter fun b => (b.get? "type").any (Json.isText kind)

/-- The calls in messages, each with the result in its place in the next message. -/
def exchanged : List Message → List (Json × Json)
  | m :: next :: rest =>
    (ofKind "tool_use" m).zip (ofKind "tool_result" next) ++ exchanged (next :: rest)
  | _ => []

def isShown (pair : Json × Json) : Bool :=
  (pair.1.get? "name").any (Json.isText "render") &&
    match pair.2.get? "is_error" with
    | some (.bool isError) => !isError
    | _ => false

def shownRenderings (messages : List Message) : List (Json × Json) :=
  (exchanged messages).filter isShown

def sceneName? (pair : Json × Json) : Option Json :=
  (pair.1.get? "input").bind fun input => input.get? "name"

def imageData? (pair : Json × Json) : Option Json :=
  match pair.2.get? "content" with
  | some (.arr [_, image]) => (image.get? "source").bind fun source => source.get? "data"
  | _ => none

/-- The data of the last image that messages show under a name. -/
def lastImage? (n : String) (messages : List Message) : Option Json :=
  ((shownRenderings messages).filter fun pair =>
    (sceneName? pair).any (Json.isText n)).getLast?.bind imageData?

end Message

namespace Agent
open Studio Message

theorem isRendering_error (name : Json) {r : ToolResult} (h : r.isError = true) :
    isRendering name r = false := by
  rw [isRendering, h, Bool.not_true, Bool.and_false]

theorem isRendering_other {t : Tool} (other : t ≠ .render) (r : ToolResult) :
    isRendering (.str (Named.name t)) r = false := by
  have different : (some t == some Tool.render) = false :=
    beq_eq_false_iff_ne.mpr fun same => other (Option.some.inj same)
  rw [isRendering, Tool.ofJson?_eq_some_iff.mpr rfl, different, Bool.false_and]

theorem keeps_run {t : Tool} (other : t ≠ .render) (input : Json) : Keeps id (t.run input) := by
  cases t with
  | render => exact absurd rfl other
  | readImage =>
    apply Keeps.bind (Keeps.ofExcept _ _)
    intro name
    apply Keeps.bind (keeps_storedContent name .image)
    exact fun png => Keeps.pure _
  | readSource =>
    apply Keeps.bind (Keeps.ofExcept _ _)
    intro name
    apply Keeps.bind (keeps_storedSource name)
    exact fun source => Keeps.pure _

/-- A call changes nothing, or renders an accepted scene, and is a rendering if that succeeds. -/
theorem callNamed_cases {w w' : World} {name input : Json} {r : ToolResult}
    (called : runIn w (Tool.callNamed name input) = (.ok r, w')) :
    (isRendering name r = false ∧ w' = w) ∨
      ∃ args outcome, RenderArguments.check input = .ok args ∧
        runIn w (renderAs args.scene args.name) = (outcome, w') ∧
        ((isRendering name r = false ∧ ∃ e, outcome = .error e) ∨
          ∃ text png, isRendering name r = true ∧ outcome = .ok png ∧
            r = ToolResult.image text png) := by
  rcases Tool.callNamed_ok_iff.mp called with ⟨_, rfl, rfl⟩ | ⟨t, rfl, answered⟩
  · exact .inl ⟨isRendering_error _ rfl, rfl⟩
  by_cases isRender : t = .render
  · subst isRender
    rcases Tool.call_ok_iff.mp answered with succeeds | ⟨f, failed, rfl⟩
    · cases succeeds with
      | render read went => exact .inr ⟨_, _, read, went, .inr ⟨_, _, rfl, rfl, rfl⟩⟩
    have noRendering := isRendering_error (.str (Named.name Tool.render))
      (r := Tool.render.faultReport f) rfl
    rw [Tool.run_render] at failed
    rcases onChecked_cases w (RenderArguments.check input) _ _ with
      ⟨vs, _, ended⟩ | ⟨args, read, ⟨e, w₁, went, ended⟩ | ⟨png, w₁, _, ended⟩⟩
    · cases ended.symm.trans failed
      exact .inl ⟨noRendering, rfl⟩
    · cases ended.symm.trans failed
      exact .inr ⟨args, _, read, went, .inl ⟨noRendering, _, rfl⟩⟩
    · cases ended.symm.trans failed
  · have ran : ∃ outcome, runIn w (t.run input) = (outcome, w') := by
      rcases Tool.call_ok_iff.mp answered with succeeds | ⟨f, failed, _⟩
      · exact ⟨_, Tool.run_ok_iff.mpr succeeds⟩
      · exact ⟨_, failed⟩
    obtain ⟨outcome, ran⟩ := ran
    have same := keeps_run isRender input w
    rw [ran] at same
    exact .inl ⟨isRendering_other isRender r, same⟩

def renders (n : String) (done : ToolCall × ToolResult) : Bool :=
  isRendering done.1.name done.2 && (done.1.input.get? "name").any (Json.isText n)

theorem renders_iff {n : String} {d : ToolCall × ToolResult} :
    renders n d = true ↔
      isRendering d.1.name d.2 = true ∧ d.1.input.get? "name" = some (.str (.proper n)) := by
  rw [renders, Bool.and_eq_true, Option.any_eq_true]
  simp only [Json.isText_iff, exists_eq_right]

theorem settings_callNamed {w w' : World} {name input : Json} {r : ToolResult}
    (called : runIn w (Tool.callNamed name input) = (.ok r, w')) : w'.settings = w.settings := by
  rcases callNamed_cases called with ⟨_, rfl⟩ | ⟨args, outcome, _, ran, _⟩
  · rfl
  · exact settings_renderAs ran

section Step

variable {w w' : World} {call : ToolCall} {r : ToolResult}
  (isRead : Path.IsRead w.settings.imagesDirectory)
  (called : runIn w (Tool.callNamed call.name call.input) = (.ok r, w'))

include isRead called

/-- A rendering stores the image that it shows under the name that was given. -/
theorem isRendered_of_rendering (rendering : isRendering call.name r = true) :
    ∃ n text png, call.input.get? "name" = some (.str (.proper n)) ∧
      r = ToolResult.image text png ∧ IsRendered w' n png := by
  rcases callNamed_cases called with ⟨other, _⟩ | ⟨args, outcome, read, ran, failed | shown⟩
  · cases other.symm.trans rendering
  · cases failed.1.symm.trans rendering
  obtain ⟨text, png, _, returned, rfl⟩ := shown
  obtain ⟨named, v, accepted⟩ := RenderArguments.check_ok read
  obtain ⟨n, given, rendered⟩ := isRendered_renderAs isRead accepted ran returned
  exact ⟨n, text, png, by rw [named, given], rfl, rendered⟩

theorem isRendered_of_renders {n : String} (rendering : renders n (call, r) = true) :
    ∃ text png, r = ToolResult.image text png ∧ IsRendered w' n png := by
  obtain ⟨isRendering, named⟩ := renders_iff.mp rendering
  obtain ⟨m, text, png, given, image, rendered⟩ :=
    isRendered_of_rendering isRead called isRendering
  cases given.symm.trans named
  exact ⟨text, png, image, rendered⟩

theorem IsRendered.callNamed {n : String} {png : Bytes} (h : IsRendered w n png)
    (other : renders n (call, r) = false) : IsRendered w' n png := by
  rcases callNamed_cases called with ⟨_, rfl⟩ | ⟨args, outcome, read, ran, result⟩
  · exact h
  obtain ⟨named, v, accepted⟩ := RenderArguments.check_ok read
  refine h.renderAs isRead accepted ran ?_
  rcases result with ⟨_, failed⟩ | ⟨text, png', rendering, _, _⟩
  · exact .inr failed
  · left
    intro same
    rw [same] at named
    cases (renders_iff.mpr ⟨rendering, named⟩).symm.trans other

end Step

def lastRendering (n : String) (done : List (ToolCall × ToolResult)) :
    Option (ToolCall × ToolResult) := (done.filter (renders n)).getLast?

theorem lastRendering_cons (n : String) (d : ToolCall × ToolResult)
    (rest : List (ToolCall × ToolResult)) :
    lastRendering n (d :: rest) =
      (lastRendering n rest).or (if renders n d then some d else none) := by
  unfold lastRendering
  rw [List.filter_cons]
  split
  · rw [List.getLast?_cons]
    cases (rest.filter (renders n)).getLast? <;> rfl
  · rw [Option.or_none]

/-- After the calls there is, under each name, the image that was shown last; a name without one
keeps what it has. -/
theorem Executes.isRendered {w w' : World} {done : List (ToolCall × ToolResult)}
    (h : Executes w done w') (isRead : Path.IsRead w.settings.imagesDirectory) (n : String) :
    (∀ d, lastRendering n done = some d →
        ∃ text png, d.2 = ToolResult.image text png ∧ IsRendered w' n png) ∧
      (lastRendering n done = none → ∀ png, IsRendered w n png → IsRendered w' n png) := by
  induction h with
  | nil w =>
    constructor
    · intro d last
      cases last
    · exact fun _ _ rendered => rendered
  | @cons w w₁ w' call result rest called _ ih =>
    have same := settings_callNamed called
    rw [← same] at isRead
    obtain ⟨shown, kept⟩ := ih isRead
    rw [same] at isRead
    constructor
    · intro d last
      rw [lastRendering_cons] at last
      cases later : lastRendering n rest with
      | some d' =>
        rw [later] at last
        cases last
        exact shown _ later
      | none =>
        rw [later, Option.none_or] at last
        split at last
        · rename_i rendering
          cases last
          obtain ⟨text, png, image, rendered⟩ := isRendered_of_renders isRead called rendering
          exact ⟨text, png, image, kept later png rendered⟩
        · cases last
    · intro last png rendered
      rw [lastRendering_cons] at last
      obtain ⟨later, other⟩ := Option.or_eq_none_iff.mp last
      refine kept later png (IsRendered.callNamed isRead called rendered ?_)
      rw [Bool.eq_false_iff]
      intro rendering
      rw [if_pos rendering] at other
      cases other

theorem Executes.named {w w' : World} {done : List (ToolCall × ToolResult)}
    (h : Executes w done w') (isRead : Path.IsRead w.settings.imagesDirectory) :
    ∀ d ∈ done, isRendering d.1.name d.2 = true →
      ∃ n : String, d.1.input.get? "name" = some (.str n) ∧ renders n d = true := by
  induction h with
  | nil w => exact fun d member => absurd member List.not_mem_nil
  | @cons w w₁ w' call result rest called _ ih =>
    intro d member rendering
    rcases List.mem_cons.mp member with rfl | later
    · obtain ⟨n, _, _, named, _, _⟩ := isRendered_of_rendering isRead called rendering
      exact ⟨n, named, renders_iff.mpr ⟨rendering, named⟩⟩
    · rw [← settings_callNamed called] at isRead
      exact ih isRead d later rendering

/-! ### What the messages show -/

/-- A call and its result as the messages show them. -/
def shown (done : ToolCall × ToolResult) : Json × Json :=
  (.obj [("type", .str "tool_use"), ("id", done.1.id), ("name", done.1.name),
    ("input", done.1.input)], done.2.block done.1.id)

theorem ofKind_kept (blocks : List Block) :
    ofKind "tool_use" (assistant (blocks.filterMap Block.kept?)) =
      (blocks.filterMap Block.call?).map fun call => .obj [("type", .str "tool_use"),
        ("id", call.id), ("name", call.name), ("input", call.input)] := by
  show (blocks.filterMap Block.kept?).filter _ = _
  induction blocks with
  | nil => rfl
  | cons b rest ih =>
    cases b with
    | text t => exact ih
    | toolUse id name input => exact congrArg (_ :: ·) ih
    | other => exact ih

theorem ofKind_resultBlocks (done : List (ToolCall × ToolResult)) :
    ofKind "tool_result" (user (.arr (resultBlocks done))) = resultBlocks done ∧
      ofKind "tool_use" (user (.arr (resultBlocks done))) = [] := by
  constructor
  · apply List.filter_eq_self.mpr
    intro b member
    obtain ⟨d, _, rfl⟩ := List.mem_map.mp member
    rfl
  · apply List.filter_eq_nil_iff.mpr
    intro b member
    obtain ⟨d, _, rfl⟩ := List.mem_map.mp member
    exact Bool.false_ne_true

theorem exchanged_answered {blocks : List Block} {done : List (ToolCall × ToolResult)}
    (calls : done.map Prod.fst = blocks.filterMap Block.call?) (new : List Message) :
    exchanged (assistant (blocks.filterMap Block.kept?) ::
        user (.arr (resultBlocks done)) :: new) = done.map shown ++ exchanged new := by
  obtain ⟨results, noCalls⟩ := ofKind_resultBlocks done
  have later : exchanged (user (.arr (resultBlocks done)) :: new) = exchanged new := by
    cases new with
    | nil => rfl
    | cons m rest => rw [exchanged, noCalls, List.zip_nil_left, List.nil_append]
  rw [exchanged, later, results, ofKind_kept, ← calls, List.map_map]
  congr 1
  exact List.zip_map'

theorem isShown_shown (d : ToolCall × ToolResult) :
    isShown (shown d) = isRendering d.1.name d.2 := by
  have named : (Tool.ofJson? d.1.name == some .render) = Json.isText "render" d.1.name := by
    rw [Bool.eq_iff_iff, beq_iff_eq, Tool.ofJson?_eq_some_iff, Json.isText_iff]
    rfl
  rw [isRendering, named]
  rfl

theorem shownRenderings_eq {new : List Message} {done : List (ToolCall × ToolResult)}
    (h : exchanged new = done.map shown) :
    shownRenderings new = (done.filter fun d => isRendering d.1.name d.2).map shown := by
  rw [shownRenderings, h, List.filter_map]
  congr 2
  exact funext isShown_shown

theorem lastImage?_eq {new : List Message} {done : List (ToolCall × ToolResult)}
    (h : exchanged new = done.map shown) (n : String) :
    lastImage? n new = (lastRendering n done).bind fun d => imageData? (shown d) := by
  have same : (shownRenderings new).filter (fun pair => (sceneName? pair).any (Json.isText n)) =
      (done.filter (renders n)).map shown := by
    rw [shownRenderings_eq h, List.filter_map, List.filter_filter]
    congr 2
    exact funext fun d => Bool.and_comm _ _
  rw [lastImage?, same, List.getLast?_map, lastRendering]
  cases (done.filter (renders n)).getLast? <;> rfl

theorem mem_renderedNames {name : Json} {done : List (ToolCall × ToolResult)} :
    name ∈ renderedNames done ↔
      ∃ d ∈ done, isRendering d.1.name d.2 = true ∧ d.1.input.get? "name" = some name := by
  unfold renderedNames
  rw [List.mem_flatMap]
  refine exists_congr fun d => and_congr_right fun _ => ?_
  obtain ⟨call, result⟩ := d
  dsimp only
  split
  · rename_i rendering
    rw [Option.mem_toList, rendering]
    exact (and_iff_right rfl).symm
  · rename_i other
    exact iff_of_false List.not_mem_nil fun h => other h.1

theorem renderedNames_eq {done : List (ToolCall × ToolResult)}
    (named : ∀ d ∈ done, isRendering d.1.name d.2 = true →
      ∃ name, d.1.input.get? "name" = some name) :
    (renderedNames done).map some =
      (done.filter fun d => isRendering d.1.name d.2).map fun d => d.1.input.get? "name" := by
  induction done with
  | nil => rfl
  | cons d rest ih =>
    have later := ih fun d' member => named d' (List.mem_cons_of_mem d member)
    obtain ⟨call, result⟩ := d
    unfold renderedNames at later ⊢
    rw [List.flatMap_cons, List.map_append, later, List.filter_cons]
    dsimp only
    split
    · rename_i rendering
      obtain ⟨name, given⟩ := named (call, result) List.mem_cons_self rendering
      rw [List.map_cons, given]
      rfl
    · rfl

theorem Executes.withClient {w w' : World} {done : List (ToolCall × ToolResult)}
    (h : Executes w done w') (client : Option ModelClient) :
    Executes (w.withClient client) done (w'.withClient client) := by
  induction h with
  | nil w => exact .nil _
  | cons called _ ih => exact .cons (by rw [unaware_callNamed, called]) ih

theorem Executes.append {w w₁ w' : World} {done more : List (ToolCall × ToolResult)}
    (h : Executes w done w₁) (later : Executes w₁ more w') : Executes w (done ++ more) w' := by
  induction h with
  | nil w => exact later
  | cons called _ ih => exact .cons called (ih later)

/-- A run that returns has made calls one after another, and its messages show them all. -/
theorem converse_executes (session : Session) (remaining : Nat) :
    ∀ (w : World) (turns : Nat) (rendered : List Json) (messages : List Message) {r : AgentResult}
      {w' : World}, runIn w (converse session turns rendered messages remaining) = (.ok r, w') →
      ∃ done new w₁ client, Executes w done w₁ ∧ w' = w₁.withClient client ∧
        r.rendered = rendered ++ renderedNames done ∧ r.messages = messages ++ new ∧
        exchanged new = done.map shown := by
  induction remaining with
  | zero =>
    intro w turns rendered messages r w' h
    cases h
    exact ⟨[], [], w, w.client, .nil w, rfl, (List.append_nil _).symm, (List.append_nil _).symm,
      rfl⟩
  | succ remaining ih =>
    intro w turns rendered messages r w' h
    obtain ⟨fields, stop, blocks, w₁, _, _, _, ⟨client, changed⟩, step⟩ := converse_returns h
    rcases step with ⟨_, done, w₂, executes, calls, later⟩ | ⟨_, rfl, rfl⟩
    · obtain ⟨more, new, w₃, client', executes', rfl, names, further, shows⟩ := ih _ _ _ _ later
      have first : Executes w done (w₂.withClient w.client) := by
        have lifted := executes.withClient w.client
        rw [changed] at lifted
        exact lifted
      refine ⟨done ++ more, assistant (blocks.filterMap Block.kept?) ::
        user (.arr (resultBlocks done)) :: new, w₃.withClient w.client, client',
        first.append (executes'.withClient w.client), rfl, ?_, ?_, ?_⟩
      · rw [names, renderedNames, renderedNames, renderedNames, List.flatMap_append,
          List.append_assoc]
      · rw [further, answered, ← resultBlocks_eq calls, List.append_assoc]
        rfl
      · rw [exchanged_answered calls, shows, List.map_append]
    · exact ⟨[], [assistant (blocks.filterMap Block.kept?)], w, client, .nil w, changed,
        (List.append_nil _).symm, rfl, rfl⟩

/-- The names that a run reports are those of the renderings that its new messages show, in order.
At the end of the run, each of them has the image that was shown last under it, and a source that is
the text of a scene. -/
theorem run_rendered {prompt : LooseText} {model : Option LooseText} {maxTurns : Option Int}
    {history : List Message} {w w' : World} {r : AgentResult} (configured : w.IsConfigured)
    (returned : runIn w (run prompt model maxTurns history) = (.ok r, w')) :
    ∃ start new, addUserText prompt history = .ok start ∧ r.messages = start ++ new ∧
      r.rendered.map some = (shownRenderings new).map sceneName? ∧
      ∀ name ∈ r.rendered, ∃ (n : String) (png : Bytes), name = .str n ∧
        lastImage? n new = some (.str (Base64.encode png)) ∧
        runIn w' (storedImage n) = (.ok png, w') ∧
        ∃ source s, runIn w' (storedSource n) = (.ok source, w') ∧
          ∀ e : Edition, Scene.ofText e source = .ok s := by
  obtain ⟨start, client, session, added, _, _, _, went⟩ := run_ok returned
  obtain ⟨done, new, w₁, client', executes, rfl, names, messages, shows⟩ :=
    converse_executes session _ _ 0 [] start went
  rw [List.nil_append] at names
  have isRead : Path.IsRead (w.withClient client).settings.imagesDirectory := configured.isRead
  have named := executes.named isRead
  refine ⟨start, new, added, messages, ?_, ?_⟩
  · rw [names, shownRenderings_eq shows, List.map_map]
    apply renderedNames_eq
    intro d member rendering
    obtain ⟨n, given, _⟩ := named d member rendering
    exact ⟨_, given⟩
  · intro name member
    rw [names] at member
    obtain ⟨d, isDone, rendering, isName⟩ := mem_renderedNames.mp member
    obtain ⟨n, given, renders⟩ := named d isDone rendering
    obtain rfl : name = .str n := Option.some.inj (isName.symm.trans given)
    obtain ⟨d', last⟩ : ∃ d', lastRendering n done = some d' := by
      cases last : lastRendering n done with
      | some d' => exact ⟨d', rfl⟩
      | none =>
        have nothing := List.getLast?_eq_none_iff.mp last
        exact absurd renders (List.filter_eq_nil_iff.mp nothing d isDone)
    obtain ⟨text, png, image, rendered⟩ := (executes.isRendered isRead n).1 d' last
    have kept : IsRendered (w₁.withClient client') n png :=
      ⟨rendered.valid, rendered.image, rendered.source⟩
    refine ⟨n, png, rfl, ?_, kept.storedImage, kept.storedSource⟩
    rw [lastImage?_eq shows, last, Option.bind_some, imageData?, shown, image]
    rfl

def renderThenAnswer : List Reply :=
  let call (id : LooseText) (content : Json) : List (LooseText × Json) :=
    [("type", .str "tool_use"), ("id", .str id), ("name", .str "render"),
      ("input", .obj [("name", .str "b"), ("content", content)])]
  [.blocks [call "t1" Example.pillar.scene.toJson, call "t2" .null] (some "tool_use"),
    .blocks [[("type", .str "text"), ("text", .str "Done")]] (some "end_turn")]

/-- The pillar is reported once, and it is there after the call that failed. -/
theorem run_rendered_pillar :
    let w := { worldFor "images" with
      client := some ⟨"", Settings.maxRetries, renderThenAnswer, []⟩ }
    w.IsConfigured ∧ ∃ r w' png, runIn w (run "A pillar" none none []) = (.ok r, w') ∧
      r.rendered = [.str "b"] ∧ runIn w' (storedImage "b") = (.ok png, w') ∧
      ∃ source s, runIn w' (storedSource "b") = (.ok source, w') ∧
        ∀ e : Edition, Scene.ofText e source = .ok s := by
  intro w
  have configured : w.IsConfigured := ⟨"images", by decide, rfl⟩
  have names : (runIn w (run "A pillar" none none [])).1.toOption.map
      (fun r => r.rendered.map (Json.isText "b")) = some [true] := by decide +kernel
  generalize went : runIn w (run "A pillar" none none []) = outcome at names
  obtain ⟨⟨⟩ | r, w'⟩ := outcome
  · cases names
  · obtain ⟨name, one, isName⟩ := List.map_eq_singleton_iff.mp (Option.some.inj names)
    rw [Json.isText_iff.mp isName] at one
    obtain ⟨_, _, _, _, _, there⟩ := run_rendered configured went
    obtain ⟨n, png, same, _, image, source⟩ := there (.str "b") (one ▸ List.mem_singleton_self _)
    cases same
    exact ⟨configured, r, w', png, rfl, one, image, source⟩

end Agent
end RayScene
