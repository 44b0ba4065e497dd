import RayScene.Http.Server
import RayScene.Proofs.Studio.Actions

/-!
# How requests are served

What is found for a request acts, and a failure of the action is answered too.
-/

namespace RayScene

theorem Fault.status_ne_ok (f : Fault) : f.report.status ≠ 200 := by
  have same : f.report.status = f.report.reportClass.status := by
    cases f <;> rfl
  rw [same]
  cases f.report.reportClass <;> decide

namespace Http

open Studio (runIn runIn_bind_ok)

variable {w w' : World} {action : Studio Response} {response : Response}

def Response.ofFailure : Failure → Response
  | .fault f => faultResponse f
  | _ => .internalError

theorem Response.ofFailure_ne_ok (e : Failure) : (ofFailure e).status ≠ 200 := by
  cases e with
  | fault f => exact f.status_ne_ok
  | _ => exact (by decide : (500 : Int) ≠ 200)

theorem runIn_recover_ok (h : runIn w action = (.ok response, w')) :
    runIn w (recover action) = (.ok response, w') := by
  unfold recover
  rw [Studio.runIn_tryCatch, h]

theorem runIn_recover_error {e : Failure} (h : runIn w action = (.error e, w')) :
    runIn w (recover action) = (.ok (.ofFailure e), w') := by
  unfold recover
  rw [Studio.runIn_tryCatch, h]
  cases e <;> rfl

theorem withForm_ok {α : Type} {body : Option Body} {read : Json → Intake α} {v : Json} {a : α}
    (value : Body.value? body = .ok (some v)) (isRead : read v = .ok a)
    (next : α → Studio Response) : withForm body read next = next a := by
  unfold withForm
  rw [value]
  dsimp only
  rw [isRead]

/-- What is found for a method other than `HEAD` is served with its content. -/
theorem serve_found {request : Request} {method : String} {e : Endpoint}
    (isMethod : request.method = method)
    (upper : String.ofList (method.toList.map Char.toUpper) = method) (content : method ≠ "HEAD")
    (found : Route.find method (Target.ofText request.target).path = .endpoint e)
    (h : runIn w (recover (e.answer request.body)) = (.ok response, w')) :
    runIn w (serve request) = (.ok { response with headOnly := false }, w') := by
  unfold serve
  dsimp only
  rw [isMethod, upper, found]
  dsimp only
  rw [runIn_bind_ok h, decide_eq_false content]
  rfl

end Http

end RayScene
