import RayScene.Proofs.Http.Rendering

/-!
# The endpoint and the tool render alike

A request to render and a call of the tool with the same fields do the same and report the same, each
in its way (`serve_agrees_with_tool`). What the one does not report, the other does not either.
-/

namespace RayScene

open Studio (runIn)

/-- A call of the tool gives the image, or a report of the fault; another failure ends it. -/
theorem Tool.runIn_render (w : World) (input : Json) :
    runIn w (callNamed (.str "render") input) =
      match runIn w (rendering input) with
      | (.ok (args, png), w') =>
        (.ok (.image ("Rendered image " ++ Text.quoted args.name ++ ".") png), w')
      | (.error (.fault f), w') => (.ok (render.faultReport f), w')
      | (.error e, w') => (.error e, w') := by
  have named : callNamed (.str "render") input = render.call input := callNamed_of_name render input
  have ran : runIn w (render.run input) =
      ((runIn w (rendering input)).1.map fun p =>
          .image ("Rendered image " ++ Text.quoted p.1.name ++ ".") p.2,
        (runIn w (rendering input)).2) :=
    runIn_onChecked w _ _ _
  rw [named, call, Studio.runIn_tryCatch, ran]
  rcases runIn w (rendering input) with ⟨e | ⟨args, png⟩, w'⟩
  · cases e <;> rfl
  · rfl

namespace Http

variable {w w' : World} {body : Fields} {response : Response} {r : ToolResult}

/-- A response and the result of a tool say the same: that rendering succeeded, and the image, or
what went wrong. -/
structure SaysTheSame (response : Response) (r : ToolResult) : Prop where
  success : r.isError = false ↔ response.status = 200
  image : response.status = 200 →
    ∃ text, r.content = [blockOfText text, blockOfImage (Base64.encode response.body)]
  report : response.status ≠ 200 → ∃ v detail, response.content = .json v ∧
    v.get? "detail" = some (.str (.proper detail)) ∧
    r.content = [blockOfText (.proper ("Tool render failed: " ++ detail))]

theorem saysTheSame_image (name : LooseText) (png : Bytes) :
    SaysTheSame (imageResponse name png)
      (.image ("Rendered image " ++ Text.quoted name ++ ".") png) where
  success := iff_of_true rfl rfl
  image _ := ⟨_, rfl⟩
  report failed := absurd rfl failed

theorem saysTheSame_fault (f : Fault) :
    SaysTheSame (.ofFailure (.fault f)) (Tool.render.faultReport f) where
  success := iff_of_false nofun (Response.ofFailure_ne_ok (.fault f))
  image isOk := absurd isOk (Response.ofFailure_ne_ok (.fault f))
  report _ := by
    refine ⟨_, f.message, rfl, rfl, ?_⟩
    have start : "Tool " ++ Named.name Tool.render ++ " failed: " = "Tool render failed: " := by
      decide +kernel
    rw [← start]
    rfl

/-- A request to render and a call of the tool with the same fields leave the same world, and the
call returns what the response says, except when nobody is told what rendering fails with: then the
response says nothing and the call does not return. -/
theorem serve_agrees_with_tool (configured : w.IsConfigured) {request : Request}
    (posts : PostsRender request body) :
    ∃ response w', runIn w (serve request) = (.ok response, w') ∧
      ((∃ r, runIn w (Tool.callNamed (.str "render") (.obj body)) = (.ok r, w') ∧
          SaysTheSame response r) ↔ ¬ Unanswered w (.obj body)) ∧
      (Unanswered w (.obj body) → response = .internalError ∧
        ∃ e, runIn w (Tool.callNamed (.str "render") (.obj body)) = (.error e, w')) := by
  have served := runIn_serve_render posts w
  have called := Tool.runIn_render w (.obj body)
  by_cases h : Unanswered w (.obj body)
  · obtain ⟨e, w', ran, other⟩ := rendering_unanswered h
    rw [ran] at served called
    have raised : runIn w (Tool.callNamed (.str "render") (.obj body)) = (.error e, w') := by
      rw [called]
      cases e with
      | fault f => exact absurd rfl (other f)
      | _ => rfl
    refine ⟨_, w', served, iff_of_false ?_ (not_not.mpr h),
      fun _ => ⟨Response.ofFailure_other other, e, raised⟩⟩
    rintro ⟨r, returned, _⟩
    cases raised.symm.trans returned
  · rcases rendering_answered configured h with ⟨f, w', ran⟩ | ⟨args, png, w', ran⟩
    · rw [ran] at served called
      exact ⟨_, w', served, iff_of_true ⟨_, called, saysTheSame_fault f⟩ h,
        fun unanswered => absurd unanswered h⟩
    · rw [ran] at served called
      exact ⟨_, w', served, iff_of_true ⟨_, called, saysTheSame_image args.name png⟩ h,
        fun unanswered => absurd unanswered h⟩

theorem serve_agrees_with_tool_pillar :
    (Studio.worldFor "images").IsConfigured ∧
      PostsRender (post "/api/render" (Json.obj pillarBody).indented) pillarBody ∧
      ∃ response w' r, runIn (Studio.worldFor "images")
          (serve (post "/api/render" (Json.obj pillarBody).indented)) = (.ok response, w') ∧
        runIn (Studio.worldFor "images") (Tool.callNamed (.str "render") (.obj pillarBody)) =
          (.ok r, w') ∧ SaysTheSame response r := by
  obtain ⟨response, w', served, agrees, _⟩ :=
    serve_agrees_with_tool Studio.isConfigured_images postsRender_pillarBody
  obtain ⟨r, returned, same⟩ := agrees.mpr (answered_pillarBody (by decide +kernel))
  exact ⟨Studio.isConfigured_images, postsRender_pillarBody, response, w', r, served, returned,
    same⟩

/-- With a scene whose net names a surrogate the call does not return, and the response has no
detail. -/
theorem not_serve_agrees_with_tool_surrogate :
    (Studio.worldFor "images").IsConfigured ∧
      PostsRender (post "/api/render" (Json.obj surrogateBody).indented) surrogateBody ∧
      (∃ w', runIn (Studio.worldFor "images")
          (serve (post "/api/render" (Json.obj surrogateBody).indented)) =
            (.ok .internalError, w')) ∧
      ∀ r w', runIn (Studio.worldFor "images")
        (Tool.callNamed (.str "render") (.obj surrogateBody)) ≠ (.ok r, w') := by
  refine ⟨Studio.isConfigured_images, postsRender_surrogateBody,
    serve_unanswered postsRender_surrogateBody unanswered_surrogateBody, fun r w' returned => ?_⟩
  obtain ⟨e, w₁, ran, other⟩ := rendering_unanswered unanswered_surrogateBody
  have called := Tool.runIn_render (Studio.worldFor "images") (.obj surrogateBody)
  rw [ran, returned] at called
  cases e with
  | fault f => exact absurd rfl (other f)
  | _ => cases called

end Http

end RayScene
