import RayScene.Agent.Run
import RayScene.Http.Forms
import RayScene.Http.Route
import RayScene.Verdict

/-!
# The server

Each endpoint is an action of the studio. A fault is answered with its status and text, any other
failure with an error that says nothing.
-/

namespace RayScene.Http

structure Request where
  /-- the scheme and the host that the client uses -/
  origin : String
  method : String
  target : String
  body : Option Body

def faultResponse (f : Fault) : Response :=
  .ofContent f.report.status (.json (.obj [("error", .str f.report.reportClass.name),
    ("detail", .str f.message)]))

def complaintResponse (complaints : List Complaint) : Response :=
  .strictJson 422 (.obj [("detail", .arr (complaints.map Complaint.toJson))])

def withForm {α : Type} (body : Option Body) (read : Json → Intake α)
    (next : α → Studio Response) : Studio Response :=
  match Body.value? body with
  | .error .unreadable => return .detail 400 "There was an error parsing the body"
  | .error (.invalid complaint) => return complaintResponse [complaint]
  | .ok none => return complaintResponse [⟨[], .present, .null⟩]
  | .ok (some v) =>
    match read v with
    | .ok a => next a
    | .error complaints => return complaintResponse complaints

namespace Endpoint

def answerHealth : Studio Response := do
  let w ← get
  let found (command : String) : Bool := w.files.hasCommand w.programs command
  return .ok (.json (.obj [("status", .str "ok"), ("version", .str Settings.version),
    ("renderer", .bool (found w.settings.rendererPath)),
    ("converter", .bool (found w.settings.converterPath)),
    ("providers", .obj [("claude", .bool (w.settings.apiKey ≠ ""))])]))

def answerValidate (text : LooseText) : Studio Response := do
  let w ← get
  let verdict ← Studio.ofExcept id (Verdict.ofText w.edition w.trig text)
  return .ok (.json verdict.toJson)

def answerCompile (body : Fields) : Studio Response := do
  let s ← Studio.accept (Scene.check (.obj body))
  return .ok (.text (← Studio.compile s))

def answerRender (body : Fields) : Studio Response := do
  let args ← Studio.accept (RenderArguments.check (.obj body))
  let png ← Studio.renderAs args.scene args.name
  return { Response.ok (.png png) with
    disposition := some ("inline; filename=\"" ++ args.name.shown ++ ".png\"") }

def answerScenes : Studio Response := do
  return .ok (.json (.arr ((← Studio.sceneNames).map .text)))

def answerScene (name : String) : Studio Response := do
  return .ok (.source (← Studio.storedSource name))

def answerImage (name : String) : Studio Response := do
  return .ok (.png (← Studio.storedImage name))

def answerExamples : Studio Response :=
  return .ok (.json (.arr (Example.all.map Example.toJson)))

def answerAgent (form : AgentForm) : Studio Response := do
  let prompt := Prompt.build form.prompt form.theme
  if prompt.isEmpty then Studio.fault (.schema .value [⟨[.key "prompt"], .promptOrTheme⟩])
  let result ← Agent.run prompt form.model form.maxTurns (form.history.getD [])
  return .result result.toJson

def answer (body : Option Body) : Endpoint → Studio Response
  | health => answerHealth
  | validate => withForm body readValidation answerValidate
  | compile => withForm body Intake.dictionary answerCompile
  | render => withForm body Intake.dictionary answerRender
  | scenes => answerScenes
  | scene name => answerScene name
  | image name => answerImage name
  | examples => answerExamples
  | agent => withForm body AgentForm.read answerAgent

end Endpoint

def recover (action : Studio Response) : Studio Response :=
  tryCatch action fun
    | .fault f => return faultResponse f
    | _ => return .internalError

def serve (r : Request) : Studio Response := do
  let target := Target.ofText r.target
  let method := String.ofList (r.method.toList.map Char.toUpper)
  let response ← match Route.find method target.path with
    | .endpoint e => recover (e.answer r.body)
    | .wrongMethod allow => pure (.wrongMethod allow)
    | .moved path => pure (.moved (Route.address r.origin path target.query))
    | .unknown => pure .notFound
  return { response with headOnly := method = "HEAD" }

end RayScene.Http
