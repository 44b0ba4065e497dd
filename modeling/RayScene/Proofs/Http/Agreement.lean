import RayScene.Proofs.Http.Serving
import RayScene.Proofs.Json.Bodies
import RayScene.Proofs.Json.Limits
import RayScene.Proofs.Scene.Editions
import RayScene.Proofs.Scene.Written
import RayScene.Proofs.Studio.Stages

/-!
# Texts and values agree

A scene is checked alike as a text and as the value that the text spells: with the same result as
such, and as the bodies of two requests, one that asks for a verdict on the text and one that asks
to compile the value. Unknown fields may be reported in other places, and more often, and a text
beyond the limits of texts may be refused as a whole instead.
-/

namespace RayScene

open Json.Grammar (Spells)

theorem Verdict.valid_iff {e : Edition} {trig : Trig} {text : LooseText} :
    (∃ n, ofText e trig text = .ok (.valid n)) ↔
      ∃ s wire, Scene.ofText e text = .ok s ∧ s.compileText trig = .ok wire := by
  unfold ofText
  constructor
  · rintro ⟨n, valid⟩
    split at valid
    · cases valid
    · rename_i s read
      split at valid
      · rename_i wire compiled
        exact ⟨s, wire, read, compiled⟩
      · split at valid <;> cases valid
  · rintro ⟨s, wire, read, compiled⟩
    rw [read]
    dsimp only
    rw [compiled]
    exact ⟨_, rfl⟩

namespace Http

open Studio (runIn runIn_bind_ok runIn_bind_error runIn_ofExcept_ok runIn_ofExcept_error)

variable {w w' : World}

def depthOnly : Json.Machine.Limits := ⟨(Json.textLimits false).depth, none, none, false, true⟩

theorem textLimits_within (countsSign : Bool) : (Json.textLimits countsSign).Within depthOnly where
  depth := le_rfl
  wholeDigits _ _ _ := rfl
  integerDigits _ _ _ := rfl
  surrogates _ := rfl

/-- The text is checked as the value that it spells: what is read is the same, what is reported is
the same but for the places of unknown fields in the list, and for how often they are in it. -/
structure Agrees (e : Edition) (text : String) (v : Json) : Prop where
  restates : Checked.Restates (Scene.ofText e text) (Scene.check v.once)
  perm : e.repeats = false ∨ v.once = v →
    (Scene.ofText e text).errors.Perm (Scene.check v.once).errors
  same : e.repeats = false ∨ v.once = v → e.order = .unknownLast →
    Scene.ofText e text = Scene.check v.once

structure IsRefused (e : Edition) (text : String) (v : Json) : Prop where
  beyond : ¬ Spells (Json.textLimits e.countsSign) text v
  refused : ∃ error, Scene.ofText e text = .error [⟨[], .json error⟩]

/-- Whatever its digits and its strings are, a text is checked as what it spells, or refused. -/
theorem agrees_or_refused (e : Edition) {text : String} {v : Json} (h : Spells depthOnly text v) :
    Agrees e text v ∨ IsRefused e text v := by
  cases parsed : Json.parse (Json.textLimits e.countsSign) text with
  | ok v' =>
    cases Json.parse_unique (textLimits_within _) h parsed
    have read : Scene.ofText e text = Scene.checkIn e.order (e.checked v) := by
      rw [Scene.ofText, parsed]
    refine .inl ⟨?_, fun once => ?_, fun once last => ?_⟩
    · rw [read]
      exact e.checkIn_restates v
    · rw [read]
      exact Edition.checkIn_perm once
    · rw [read, Edition.checked_eq_once once, last]
      rfl
  | error error =>
    refine .inr ⟨fun within => ?_, error, ?_⟩
    · cases parsed.symm.trans (Json.parse_of_spells within)
    · rw [Scene.ofText, parsed]
      rfl

/-- The request is answered, and with a response of this kind. -/
def Answers (w : World) (request : Request) (kind : Response → Prop) : Prop :=
  ∃ response, (runIn w (serve request)).1 = .ok response ∧ kind response

structure Posts (request : Request) (path body : String) : Prop where
  method : request.method = "POST"
  target : request.target = path
  body : ∃ mediaType, request.body = some ⟨mediaType, body⟩ ∧ Body.isJson mediaType = true

theorem complaint_ne_ok (complaints : List Complaint) :
    (complaintResponse complaints).status ≠ 200 := by
  unfold complaintResponse Response.strictJson
  split
  · exact (by decide : (422 : ℤ) ≠ 200)
  · exact (by decide : (500 : ℤ) ≠ 200)

theorem value?_of_spells {mediaType text : String} {v : Json}
    (isJson : Body.isJson mediaType = true) (h : Spells Json.bodyLimits text v) :
    Body.value? (some ⟨mediaType, text⟩) = .ok (some v.once) := by
  have nonempty : text.isEmpty = false := by
    refine eq_false_of_ne_true fun empty => ?_
    cases String.isEmpty_iff.mp empty
    cases Json.Machine.result?_of_spells h
  unfold Body.value?
  dsimp only
  rw [nonempty, isJson, Json.parseBody_of_spells h]
  rfl

theorem roomy_bodyLimits : Json.Roomy Json.bodyLimits := fun _ _ _ => rfl

theorem value?_indented {mediaType : String} {v : Json} (isJson : Body.isJson mediaType = true)
    (written : Json.Writable Json.bodyLimits 0 v) :
    Body.value? (some ⟨mediaType, v.indented⟩) = .ok (some v) := by
  have value := value?_of_spells isJson (Json.spells_indented roomy_bodyLimits (by decide) written)
  rwa [Json.once_eq_self written.hasDistinctKeys] at value

theorem serve_posts {request : Request} {path body : String} {e : Endpoint}
    (posts : Posts request path body)
    (found : Route.find "POST" (Target.ofText path).path = .endpoint e) {response : Response}
    (h : runIn w (recover (e.answer request.body)) = (.ok response, w')) :
    runIn w (serve request) = (.ok { response with headOnly := false }, w') := by
  rw [← posts.target] at found
  exact serve_found posts.method rfl (by decide) found h

theorem answers_iff {request : Request} {path body : String} {e : Endpoint}
    {action : Studio Response} (posts : Posts request path body)
    (found : Route.find "POST" (Target.ofText path).path = .endpoint e)
    (opened : e.answer request.body = action) {response : Response}
    (h : runIn w (recover action) = (.ok response, w')) (kind : Response → Prop) :
    Answers w request kind ↔ kind { response with headOnly := false } := by
  rw [← opened] at h
  unfold Answers
  rw [serve_posts posts found h]
  constructor
  · rintro ⟨_, same, isKind⟩
    cases same
    exact isKind
  · exact fun isKind => ⟨_, rfl, isKind⟩

/-! ### The two endpoints -/

def Response.SaysValid (response : Response) : Prop :=
  ∃ v, response.status = 200 ∧ response.content = .json v ∧ v.get? "valid" = some (.bool true)

theorem runIn_answerValidate (w : World) (text : LooseText) :
    runIn w (Endpoint.answerValidate text) =
      ((Verdict.ofText w.edition w.trig text).map fun verdict => .ok (.json verdict.toJson),
        w) := by
  unfold Endpoint.answerValidate
  rw [runIn_bind_ok (Studio.runIn_get w)]
  cases verdict : Verdict.ofText w.edition w.trig text with
  | error e => exact runIn_bind_error (runIn_ofExcept_error rfl w) _
  | ok verdict => exact runIn_bind_ok (runIn_ofExcept_ok rfl w) _

theorem answers_validate {request : Request} {body : String} {fields : Fields} {text : LooseText}
    (posts : Posts request "/api/validate" body)
    (spelled : Spells Json.bodyLimits body (.obj fields))
    (given : Fields.get? fields "scene_json" = some (.str text)) (w : World) :
    Answers w request Response.SaysValid ↔
      ∃ s wire, Scene.ofText w.edition text = .ok s ∧ s.compileText w.trig = .ok wire := by
  have found : Route.find "POST" (Target.ofText "/api/validate").path = .endpoint .validate := by
    decide +kernel
  obtain ⟨mediaType, sent, isJson⟩ := posts.body
  have isRead : readValidation (Json.obj fields).once = .ok text := by
    rw [Json.once]
    unfold readValidation Intake.required
    dsimp only
    rw [Fields.get?_fieldsOnce, given]
    rfl
  have opened : Endpoint.answer request.body .validate = Endpoint.answerValidate text := by
    rw [sent]
    exact withForm_ok (value?_of_spells isJson spelled) isRead _
  have ran := runIn_answerValidate w text
  rw [← Verdict.valid_iff]
  cases verdict : Verdict.ofText w.edition w.trig text with
  | error e =>
    rw [verdict] at ran
    rw [answers_iff posts found opened (runIn_recover_error ran)]
    constructor
    · rintro ⟨_, isOk, _⟩
      exact absurd isOk (Response.ofFailure_ne_ok e)
    · rintro ⟨_, wrong⟩
      cases wrong
  | ok verdict' =>
    rw [verdict] at ran
    rw [answers_iff posts found opened (runIn_recover_ok ran)]
    cases verdict' with
    | valid n => exact ⟨fun _ => ⟨n, rfl⟩, fun _ => ⟨_, rfl, rfl, rfl⟩⟩
    | invalid f =>
      constructor
      · rintro ⟨_, _, same, valid⟩
        cases same
        cases valid
      · rintro ⟨_, wrong⟩
        cases wrong

theorem runIn_answerCompile (w : World) (fields : Fields) :
    (∃ s text, Scene.check (.obj fields) = .ok s ∧ s.compileText w.trig = .ok text ∧
        runIn w (Endpoint.answerCompile fields) = (.ok (.ok (.text text)), w)) ∨
      (∀ s text, Scene.check (.obj fields) = .ok s → s.compileText w.trig ≠ .ok text) ∧
        ∃ e, runIn w (Endpoint.answerCompile fields) = (.error e, w) := by
  unfold Endpoint.answerCompile
  cases checked : Scene.check (.obj fields) with
  | error vs =>
    refine .inr ⟨fun s text accepted => ?_, _, runIn_bind_error (runIn_ofExcept_error rfl w) _⟩
    cases accepted
  | ok s =>
    have compiling := Studio.runIn_compile w s
    cases compiled : s.compileText w.trig with
    | error e =>
      rw [compiled] at compiling
      refine .inr ⟨fun s' text same => ?_, Failure.ofCompile e, ?_⟩
      · cases same
        rw [compiled]
        exact nofun
      · exact (runIn_bind_ok (runIn_ofExcept_ok rfl w) _).trans (runIn_bind_error compiling _)
    | ok text =>
      rw [compiled] at compiling
      refine .inl ⟨s, text, rfl, compiled, ?_⟩
      exact (runIn_bind_ok (runIn_ofExcept_ok rfl w) _).trans (runIn_bind_ok compiling _)

theorem answers_compile {request : Request} {body : String} {v : Json}
    (posts : Posts request "/api/compile" body) (spelled : Spells Json.bodyLimits body v)
    (w : World) :
    Answers w request (fun response => response.status = 200) ↔
      ∃ s wire, Scene.check v.once = .ok s ∧ s.compileText w.trig = .ok wire := by
  have found : Route.find "POST" (Target.ofText "/api/compile").path = .endpoint .compile := by
    decide +kernel
  obtain ⟨mediaType, sent, isJson⟩ := posts.body
  have value := value?_of_spells isJson spelled
  generalize v.once = v at value ⊢
  by_cases object : ∃ fields, v = .obj fields
  · obtain ⟨fields, rfl⟩ := object
    have opened : Endpoint.answer request.body .compile = Endpoint.answerCompile fields := by
      rw [sent]
      exact withForm_ok value rfl _
    rcases runIn_answerCompile w fields with ⟨s, wire, accepted, compiled, ran⟩ | ⟨fails, e, ran⟩
    · rw [answers_iff posts found opened (runIn_recover_ok ran)]
      exact ⟨fun _ => ⟨s, wire, accepted, compiled⟩, fun _ => rfl⟩
    · rw [answers_iff posts found opened (runIn_recover_error ran)]
      exact ⟨fun isOk => absurd isOk (Response.ofFailure_ne_ok e),
        fun ⟨s, wire, accepted, compiled⟩ => absurd compiled (fails s wire accepted)⟩
  · have refused : Intake.dictionary v = Intake.complain .dictionary v := by
      unfold Intake.dictionary
      split
      · exact absurd ⟨_, rfl⟩ object
      · rfl
    have opened : Endpoint.answer request.body .compile =
        pure (complaintResponse [⟨[], .dictionary, v⟩]) := by
      rw [sent]
      unfold Endpoint.answer withForm
      dsimp only
      rw [value]
      dsimp only
      rw [refused]
      rfl
    rw [answers_iff posts found opened (runIn_recover_ok rfl)]
    refine ⟨fun isOk => absurd isOk (complaint_ne_ok _), ?_⟩
    rintro ⟨s, wire, accepted, _⟩
    obtain ⟨fields, same, _⟩ := ((Scene.check_decides v).ok_iff s).mp accepted
    exact absurd ⟨fields, same⟩ object

def AsksVerdict (request : Request) (text : LooseText) : Prop :=
  ∃ body fields, Posts request "/api/validate" body ∧ Spells Json.bodyLimits body (.obj fields) ∧
    Fields.get? fields "scene_json" = some (.str text)

/-- A request to compile a value; its body may repeat keys. -/
def AsksCompile (request : Request) (v : Json) : Prop :=
  ∃ body spelled, Posts request "/api/compile" body ∧ Spells Json.bodyLimits body spelled ∧
    spelled.once = v

/-- A text and the value that it spells are checked alike, and a verdict says that the text is valid
if and only if the value compiles. Only a text beyond the limits may be refused as a whole instead,
and then no verdict says that it is valid. -/
theorem text_agrees_with_value (e : Edition) {text : String} {v : Json}
    (spelled : Spells depthOnly text v) :
    (Agrees e text v ∧ ∀ (w : World) (asked given : Request), w.edition = e →
        AsksVerdict asked text → AsksCompile given v.once →
          (Answers w asked Response.SaysValid ↔
            Answers w given fun response => response.status = 200)) ∨
      IsRefused e text v ∧ ∀ (w : World) (asked : Request), w.edition = e →
        AsksVerdict asked text → ¬ Answers w asked Response.SaysValid := by
  rcases agrees_or_refused e spelled with agrees | refused
  · refine .inl ⟨agrees, ?_⟩
    rintro w asked given rfl ⟨body, fields, posts, spelled, field⟩
      ⟨body', v', posts', spelled', same⟩
    rw [answers_validate posts spelled field, answers_compile posts' spelled', same]
    exact exists_congr fun s => exists_congr fun _ =>
      and_congr_left fun _ => agrees.restates.reads s
  · refine .inr ⟨refused, ?_⟩
    rintro w asked rfl ⟨body, fields, posts, spelled, field⟩ valid
    obtain ⟨s, wire, read, _⟩ := (answers_validate posts spelled field w).mp valid
    obtain ⟨error, failed⟩ := refused.refused
    cases failed.symm.trans read

def post (path body : String) : Request where
  origin := "http://localhost"
  method := "POST"
  target := path
  body := some ⟨"application/json", body⟩

theorem posts_post (path body : String) : Posts (post path body) path body :=
  ⟨rfl, rfl, _, rfl, by decide +kernel⟩

theorem text_agrees_with_value_pillar :
    let s := Example.pillar.scene
    Spells depthOnly s.source s.toJson ∧ Scene.check s.toJson = .ok s ∧
      ∀ e : Edition, Scene.ofText e s.source = .ok s ∧ ∀ w : World, w.edition = e →
        (Answers w (post "/api/validate" (Json.obj [("scene_json", .str s.source)]).indented)
            Response.SaysValid ↔
          Answers w (post "/api/compile" s.source) fun response => response.status = 200) := by
  intro s
  have accepted : Scene.check s.toJson = .ok s := by decide +kernel
  have written := Scene.written (((Scene.check_decides _).ok_iff s).mp accepted) (by decide +kernel)
  have spelled : Spells depthOnly s.source s.toJson :=
    Json.spells_indented (fun _ _ _ => rfl) (by decide) (written.shallow (by decide))
  have asText (e : Edition) : Spells (Json.textLimits e.countsSign) s.source s.toJson :=
    Json.spells_indented (Json.roomy_textLimits _) (show 0 < 201 by decide)
      (written.shallow (show 0 + 4 < 201 by decide))
  have asBody : Spells Json.bodyLimits s.source s.toJson :=
    Json.spells_indented roomy_bodyLimits (by decide) (written.shallow (by decide))
  have once : s.toJson.once = s.toJson := Json.once_eq_self written.hasDistinctKeys
  have request : Json.Writable Json.bodyLimits 0 (.obj [("scene_json", .str s.source)]) :=
    ⟨⟨Json.apart_chars _, by decide, Json.apart_chars _, trivial⟩, List.nodup_singleton _⟩
  refine ⟨spelled, accepted, fun e => ?_⟩
  rcases text_agrees_with_value e spelled with ⟨agrees, agree⟩ | ⟨⟨beyond, _⟩, _⟩
  · have read := (agrees.restates.reads s).mpr (by rw [once]; exact accepted)
    refine ⟨read, fun w edition => agree w _ _ edition ?_ ⟨_, _, posts_post _ _, asBody, rfl⟩⟩
    exact ⟨_, _, posts_post _ _, Json.spells_indented roomy_bodyLimits (by decide) request, rfl⟩
  · exact absurd (asText e) beyond

/-! ### Beyond the limits -/

/-- A scene without objects, seen from `x` on the first axis, with these nets. -/
def emptyScene (x nets : Json) : Json :=
  .obj [("camera_position", .obj [("x", x), ("y", .int 0), ("z", .int 0)]),
    ("camera_angle", .obj [("a", .int 0), ("b", .int 0)]),
    ("lights", .arr [.obj [("angle", .obj [("a", .int 0), ("b", .int 0)]), ("intensity", .int 0)]]),
    ("objects", .arr []), ("and_nets", nets)]

theorem writable_emptyScene {limits : Json.Machine.Limits} {depth : Nat} {x nets : Json}
    (room : depth + 4 < limits.depth)
    (digit : Json.Writable limits depth (.int 0))
    (hx : Json.Writable limits (depth + 2) x) (hnets : Json.Writable limits (depth + 1) nets) :
    Json.Writable limits depth (emptyScene x nets) := by
  have name : ∀ s : String, Json.Apart limits (LooseText.proper s).points := fun s =>
    Json.apart_chars _
  have within : ∀ k ≤ 4, depth + k < limits.depth := fun k _ => by omega
  rw [Json.Writable] at digit
  simp [emptyScene, Json.Writable, Json.FieldsWritable, Json.ItemsWritable, name, within 1,
    within 2, within 3, within 4, digit, hx, hnets, Fields.keys]

theorem spells_emptyScene {x nets : Json} (hx : Json.Writable depthOnly 2 x)
    (hnets : Json.Writable depthOnly 1 nets) :
    Spells depthOnly (emptyScene x nets).indented (emptyScene x nets) :=
  Json.spells_indented (fun _ _ _ => rfl) (by decide)
    (writable_emptyScene (by decide) ⟨rfl, rfl⟩ hx hnets)

def surrogateNet : Json := emptyScene (.int 0) (.arr [.arr [.str (.broken "" 0xD800 [])]])

def roundInt (negative : Bool) (zeros : Nat) : ℤ := if negative then -10 ^ zeros else 10 ^ zeros

/-- A place with more digits than a text may have. -/
def distantPlace : Json := emptyScene (.int (roundInt false 4300)) (.arr [])

/-- A place with as many digits as a text may have, and a sign. -/
def placeBehind : Json := emptyScene (.int (roundInt true 4299)) (.arr [])

theorem toDigits_pow (k : Nat) : Nat.toDigits 10 (10 ^ k) = '1' :: List.replicate k '0' := by
  induction k with
  | zero => rfl
  | succ k ih =>
    have large : ¬ 10 ^ (k + 1) < 10 := by
      have positive := Nat.pow_pos (n := k) (by decide : 0 < 10)
      omega
    rw [Nat.toDigits_eq_if (by decide), if_neg large, Nat.pow_succ,
      Nat.mul_div_cancel _ (by decide), Nat.mul_mod_left, ih, List.cons_append,
      List.replicate_succ']
    rfl

theorem intChars_roundInt (negative : Bool) (zeros : Nat) :
    Json.intChars (roundInt negative zeros) =
      (if negative then ['-', '1'] else ['1']) ++ List.replicate zeros '0' := by
  have positive : (0 : ℤ) < 10 ^ zeros := by positivity
  unfold Json.intChars roundInt
  cases negative with
  | true =>
    rw [if_pos rfl, if_pos (neg_neg_of_pos positive), Int.natAbs_neg, Int.natAbs_pow, if_pos rfl]
    exact congrArg ('-' :: ·) (toDigits_pow zeros)
  | false =>
    rw [if_neg Bool.false_ne_true, if_neg positive.not_gt, Int.natAbs_pow]
    exact toDigits_pow zeros

theorem indented_emptyScene (x nets : Json) :
    ∃ rest, (emptyScene x nets).indented.toList =
      "\x7b\n  \"camera_position\": \x7b\n    \"x\": ".toList ++ (x.indentedChars 2 ++ rest) := by
  have before : "\x7b\n  \"camera_position\": \x7b\n    \"x\": ".toList =
      '\x7b' :: (Json.newLine 1 ++ (Json.quoteChars "camera_position" ++ ':' :: ' ' :: '\x7b' ::
        (Json.newLine 2 ++ (Json.quoteChars "x" ++ [':', ' '])))) := rfl
  rw [Json.indented, String.toList_ofList, before]
  simp only [emptyScene, Json.indentedChars, List.append_assoc, List.cons_append, List.nil_append]
  exact ⟨_, rfl⟩

theorem ofText_of_stuck {e : Edition} {text : String}
    (stuck : Json.Machine.feed (Json.Machine.step (Json.textLimits e.countsSign))
      Json.Machine.initial text.toList = none) :
    ∃ error, Scene.ofText e text = .error [⟨[], .json error⟩] := by
  have refused : Json.parse (Json.textLimits e.countsSign) text =
      .error (Json.syntaxError (Json.textLimits e.countsSign) text.toList) := by
    unfold Json.parse
    dsimp only
    rw [stuck]
    rfl
  refine ⟨Json.syntaxError (Json.textLimits e.countsSign) text.toList, ?_⟩
  rw [Scene.ofText, refused]
  rfl

theorem ofText_roundInt {e : Edition} {negative : Bool} {zeros : Nat}
    (far : 4300 < (Json.textLimits e.countsSign).span negative (1 + zeros)) (nets : Json) :
    ∃ error, Scene.ofText e (emptyScene (.int (roundInt negative zeros)) nets).indented =
      .error [⟨[], .json error⟩] := by
  obtain ⟨rest, spelled⟩ := indented_emptyScene (.int (roundInt negative zeros)) nets
  rw [Json.indentedChars, intChars_roundInt] at spelled
  generalize (emptyScene (.int (roundInt negative zeros)) nets).indented = text at spelled
  refine ofText_of_stuck ?_
  generalize e.countsSign = countsSign at far ⊢
  have digits : Decimal.AllDigits (List.replicate zeros '0') := Decimal.allDigits_zeros zeros
  have opened : Json.Machine.feed (Json.Machine.step (Json.textLimits countsSign))
      Json.Machine.initial ("\x7b\n  \"camera_position\": \x7b\n    \"x\": ".toList ++
        (if negative then ['-', '1'] else ['1'])) =
        some ⟨[.member [] "x", .member [] "camera_position"],
          .number ⟨negative, .whole, 1, 0, false, 0, 1⟩⟩ := by
    cases negative <;> cases countsSign <;> rfl
  have within : (Json.textLimits countsSign).span negative 1 ≤ 4300 := by
    unfold Json.Machine.Limits.span
    split <;> omega
  have stuck : Json.Machine.feed (Json.Machine.step (Json.textLimits countsSign))
      ⟨[.member [] "x", .member [] "camera_position"],
        .number ⟨negative, .whole, 1, 0, false, 0, 1⟩⟩ (List.replicate zeros '0' ++ rest) = none :=
    Json.Machine.feed_beyond rfl digits rfl within
      (by rw [List.length_replicate]; exact far) rest
  rw [spelled, List.append_assoc, ← List.append_assoc]
  unfold Json.Machine.feed at opened stuck ⊢
  rw [List.foldlM_append, opened]
  exact stuck

theorem ofText_surrogateNet (e : Edition) :
    ∃ error, Scene.ofText e surrogateNet.indented = .error [⟨[], .json error⟩] := by
  refine ofText_of_stuck (Option.isNone_iff_eq_none.mp ?_)
  rw [Json.indented, String.toList_ofList]
  generalize e.countsSign = countsSign
  -- The pieces are appended from the right, so that each is evaluated once.
  simp only [surrogateNet, emptyScene, Json.indentedChars, Json.itemsIndented, Json.fieldsIndented,
    List.append_assoc, List.cons_append, List.nil_append]
  revert countsSign
  decide +kernel

section Unknown

open Json.Grammar

theorem key_a (rest : List Char) : Key depthOnly ('"' :: 'a' :: '"' :: ':' :: rest) "a" rest :=
  .spelled (.none _) (.plain (by decide) (by decide) (by decide) (.close _)) (.none _)

theorem part_zero (c : Char) (rest : List Char) :
    Part depthOnly 1 ('0' :: c :: rest) (.int 0) c rest := by
  have zero : Whole depthOnly false ['0'] := Json.whole_zero rfl
  exact .spelled (by decide) (.none _) (.number (.plain (.integer zero rfl))) (.none _)

def unknownField : Json := .obj [("a", .int 0)]

theorem spells_unknownField : Spells depthOnly "\x7b\"a\":0\x7d" unknownField :=
  ⟨by decide, _, [], .none _, .object (.last (key_a _) (part_zero _ _)), .none _⟩

def unknownTwice : Json := .obj [("a", .int 0), ("a", .int 0)]

theorem spells_unknownTwice : Spells depthOnly "\x7b\"a\":0,\"a\":0\x7d" unknownTwice :=
  ⟨by decide, _, [], .none _,
    .object (.more (key_a _) (part_zero _ _) (.last (key_a _) (part_zero _ _))), .none _⟩

end Unknown

/-- Beyond the limits of texts a value can be a scene whose text is none, and a value that is none
can have a text whose only violation is the text itself. In the later edition this holds for a
negative number with fewer digits too, an unknown field comes before the fields that are missing,
and a field that the text repeats is reported again. -/
theorem text_disagrees_with_value :
    (Spells depthOnly surrogateNet.indented surrogateNet ∧ (Scene.check surrogateNet).isOk = true ∧
        ∀ e, (Scene.ofText e surrogateNet.indented).isOk = false) ∧
      (Spells depthOnly distantPlace.indented distantPlace ∧
        Scene.check distantPlace = .error [⟨[.key "camera_position", .key "x"], .floatRange⟩] ∧
        ∀ e, ∃ error, Scene.ofText e distantPlace.indented = .error [⟨[], .json error⟩]) ∧
      (Spells depthOnly placeBehind.indented placeBehind ∧
        Scene.check placeBehind = .error [⟨[.key "camera_position", .key "x"], .floatRange⟩] ∧
        ∃ error, Scene.ofText .later placeBehind.indented = .error [⟨[], .json error⟩]) ∧
      (Spells depthOnly "\x7b\"a\":0\x7d" unknownField ∧
        (Scene.ofText .later "\x7b\"a\":0\x7d").errors.head? = some ⟨[.key "a"], .noExtra⟩ ∧
        (Scene.check unknownField.once).errors.head? ≠ some ⟨[.key "a"], .noExtra⟩) ∧
      Spells depthOnly "\x7b\"a\":0,\"a\":0\x7d" unknownTwice ∧
        (Scene.ofText .later "\x7b\"a\":0,\"a\":0\x7d").errors.length = 7 ∧
        (Scene.check unknownTwice.once).errors.length = 6 := by
  have far {negative : Bool} {zeros : Nat} :
      Spells depthOnly (emptyScene (.int (roundInt negative zeros)) (.arr [])).indented
        (emptyScene (.int (roundInt negative zeros)) (.arr [])) :=
    spells_emptyScene ⟨rfl, rfl⟩ trivial
  refine ⟨⟨spells_emptyScene ⟨rfl, rfl⟩ ?_, ?_, fun e => ?_⟩,
    ⟨far, by decide +kernel, fun e => ofText_roundInt (Nat.lt_add_right _ (by decide)) _⟩,
    ⟨far, by decide +kernel, ofText_roundInt (by decide) _⟩,
    ⟨spells_unknownField, by decide +kernel, by decide +kernel⟩,
    spells_unknownTwice, by decide +kernel, by decide +kernel⟩
  · have apart : Json.Apart depthOnly [.surrogate 0xD800] := .surrogate rfl (.inl rfl) nofun .nil
    exact ⟨by decide, ⟨by decide, apart, trivial⟩, trivial⟩
  · decide +kernel
  · obtain ⟨error, refused⟩ := ofText_surrogateNet e
    rw [refused]
    rfl

end Http

end RayScene
