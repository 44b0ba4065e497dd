import RayScene.Proofs.Agent.Renderings
import RayScene.Proofs.Http.Sending
import RayScene.Proofs.Studio.Holdings

/-!
# How a run ends

With a model that answers in whole blocks, and a store of scenes, a run returns a result unless the
prompt cannot be added to the history or a call to render fails with something that nobody is told
(`run_ends`).
The result can be sent if what the run starts with and what the model answers can.
-/

namespace RayScene

/-- A text block with its text, or a call with all its fields. -/
inductive IsWhole (fields : Fields) : Prop
  | text {s : LooseText} : Fields.get? fields "type" = some (.str "text") →
      Fields.get? fields "text" = some (.str s) → IsWhole fields
  | call {id name input : Json} : Fields.get? fields "type" = some (.str "tool_use") →
      Fields.get? fields "id" = some id → Fields.get? fields "name" = some name →
      Fields.get? fields "input" = some input → IsWhole fields

namespace Reply

def IsWhole : Reply → Prop
  | blocks fields _ => ∀ block ∈ fields, RayScene.IsWhole block
  | refused _ => False

/-- What a conversation keeps of the reply can be part of a result. -/
def Fits (reply : Reply) : Prop := ∀ v ∈ reply.parts.filterMap Block.kept?, Json.Fits 4 v

instance (reply : Reply) : Decidable reply.Fits :=
  inferInstanceAs (Decidable (∀ v ∈ reply.parts.filterMap Block.kept?, Json.Fits 4 v))

end Reply

namespace Message

/-- No text can be added after the message: it has no role, or it is a user's whose content is
missing or has no blocks. -/
inductive IsDefective (m : Message) : Prop
  | noRole : Fields.get? m "role" = none → IsDefective m
  | noContent : m.HasRole "user" → Fields.get? m "content" = none → IsDefective m
  | content {v : Json} {defect : MessageDefect} : m.HasRole "user" →
      Fields.get? m "content" = some v → contentBlocks v = .error defect → IsDefective m

theorem not_exists_error {α : Type} (a : α) :
    ¬ ∃ defect, (Except.ok a : Except MessageDefect α) = .error defect := by
  rintro ⟨defect, same⟩
  cases same

theorem addUserText_last_error_iff (prompt : LooseText) {m : Message} :
    (∃ defect, addUserText prompt [m] = .error defect) ↔ m.IsDefective := by
  unfold addUserText
  cases role : Fields.get? m "role" with
  | none => exact iff_of_true ⟨_, rfl⟩ (.noRole role)
  | some r =>
    dsimp only
    have isUser : m.HasRole "user" ↔ r.isText "user" = true := by
      rw [HasRole, role, Json.isText_iff, Option.some.injEq]
    split
    · rename_i user
      have user := isUser.mpr user
      unfold withText
      cases content : Fields.get? m "content" with
      | none => exact iff_of_true ⟨_, rfl⟩ (.noContent user content)
      | some v =>
        dsimp only
        cases read : contentBlocks v with
        | error defect => exact iff_of_true ⟨_, rfl⟩ (.content user content read)
        | ok blocks =>
          refine iff_of_false (not_exists_error _) ?_
          rintro (absent | ⟨_, absent⟩ | ⟨_, found, failed⟩)
          · cases role.symm.trans absent
          · cases content.symm.trans absent
          · cases content.symm.trans found
            cases read.symm.trans failed
    · rename_i other
      refine iff_of_false (not_exists_error _) ?_
      rintro (absent | ⟨user, _⟩ | ⟨user, _, _⟩)
      · cases role.symm.trans absent
      · exact other (isUser.mp user)
      · exact other (isUser.mp user)

theorem addUserText_error_iff (prompt : LooseText) {history : List Message} :
    (∃ defect, addUserText prompt history = .error defect) ↔
      ∃ m ∈ history.getLast?, m.IsDefective := by
  rcases List.eq_nil_or_concat history with rfl | ⟨init, last, rfl⟩
  · refine iff_of_false (not_exists_error _) ?_
    rintro ⟨m, member, _⟩
    cases member
  rw [List.concat_eq_append, List.getLast?_concat, addUserText_append]
  have lastOnly : (∃ m ∈ some last, m.IsDefective) ↔ last.IsDefective := by
    constructor
    · rintro ⟨m, same, defective⟩
      cases same
      exact defective
    · exact fun defective => ⟨last, rfl, defective⟩
  rw [lastOnly, ← addUserText_last_error_iff prompt]
  cases addUserText prompt [last] with
  | error defect => exact iff_of_true ⟨defect, rfl⟩ ⟨defect, rfl⟩
  | ok messages => exact iff_of_false (not_exists_error _) (not_exists_error _)

end Message

namespace Agent
open Studio Message

structure IsAnswered (replies : List Reply) (cap : Nat) : Prop where
  enough : turnsTaken replies cap ≤ replies.length
  whole : ∀ reply ∈ replies.take (turnsTaken replies cap), reply.IsWhole

theorem turnsTaken_cons_true {reply : Reply} (h : reply.goesOn = true) (rest : List Reply)
    (cap : Nat) : turnsTaken (reply :: rest) (cap + 1) = turnsTaken rest cap + 1 := by
  rw [turnsTaken, turnsTaken, goingOn_cons_true h]
  omega

theorem turnsTaken_cons_false {reply : Reply} (h : reply.goesOn = false) (rest : List Reply)
    (cap : Nat) : turnsTaken (reply :: rest) (cap + 1) = 1 := by
  rw [turnsTaken, goingOn_cons_false h]
  omega

theorem callsMade_cons_true {reply : Reply} (h : reply.goesOn = true) (rest : List Reply)
    (cap : Nat) : callsMade (reply :: rest) (cap + 1) = reply.calls ++ callsMade rest cap := by
  have count : min (goingOn rest + 1) (cap + 1) = min (goingOn rest) cap + 1 := by omega
  rw [callsMade, goingOn_cons_true h, count, List.take_succ_cons, List.flatMap_cons]
  rfl

theorem callsMade_cons_false {reply : Reply} (h : reply.goesOn = false) (rest : List Reply)
    (cap : Nat) : callsMade (reply :: rest) cap = [] := by
  rw [callsMade, goingOn_cons_false h, Nat.zero_min, List.take_zero]
  rfl

/-- A turn has a whole reply, and each one after it has one if the reply asks to go on. -/
theorem IsAnswered.cons {replies : List Reply} {cap : Nat} (h : IsAnswered replies (cap + 1)) :
    ∃ reply rest, replies = reply :: rest ∧ reply.IsWhole ∧
      (reply.goesOn = true → IsAnswered rest cap) := by
  obtain ⟨enough, whole⟩ := h
  cases replies with
  | nil => exact absurd enough (by simp [turnsTaken])
  | cons reply rest =>
    refine ⟨reply, rest, rfl, whole reply ?_, fun goesOn => ?_⟩
    · cases goesOn : reply.goesOn with
      | true => rw [turnsTaken_cons_true goesOn]; exact List.mem_cons_self
      | false => rw [turnsTaken_cons_false goesOn]; exact List.mem_cons_self
    · rw [turnsTaken_cons_true goesOn] at enough whole
      exact ⟨Nat.le_of_succ_le_succ enough, fun later member =>
        whole later (List.mem_cons_of_mem reply member)⟩

theorem ofFields_whole {fields : Fields} (h : IsWhole fields) :
    ∃ b, Block.ofFields fields = .ok b ∧ ∀ t, b.text? = some t → ∃ s, t = .str s := by
  cases h with
  | @text s kind text =>
    refine ⟨.text (.str s), ?_, ?_⟩
    · unfold Block.ofFields Block.field
      rw [kind, text]
      rfl
    · intro t same
      cases same
      exact ⟨s, rfl⟩
  | @call id name input kind isId isName isInput =>
    refine ⟨.toolUse id name input, ?_, nofun⟩
    unfold Block.ofFields Block.field
    rw [kind, isId, isName, isInput]
    rfl

theorem readBlocks_whole {fields : List Fields} (h : ∀ f ∈ fields, IsWhole f) :
    ∃ blocks, readBlocks fields = .ok blocks ∧
      ∀ t ∈ blocks.filterMap Block.text?, ∃ s, t = .str s := by
  unfold readBlocks
  induction fields with
  | nil => exact ⟨[], rfl, nofun⟩
  | cons f rest ih =>
    obtain ⟨first, others⟩ := List.forall_mem_cons.mp h
    obtain ⟨b, read, isText⟩ := ofFields_whole first
    obtain ⟨blocks, readRest, areTexts⟩ := ih others
    refine ⟨b :: blocks, ?_, fun t member => ?_⟩
    · rw [List.mapM_cons, read, readRest]
      rfl
    · obtain ⟨block, isBlock, text⟩ := List.mem_filterMap.mp member
      rcases List.mem_cons.mp isBlock with rfl | later
      · exact isText t text
      · exact areTexts t (List.mem_filterMap.mpr ⟨block, later, text⟩)

theorem mapM_strings {read : Json × Nat → Except Failure LooseText}
    (isRead : ∀ s i, read (.str s, i) = .ok s) {texts : List Json}
    (h : ∀ t ∈ texts, ∃ s, t = .str s) (start : Nat) :
    ∃ strings, (texts.zipIdx start).mapM read = .ok strings := by
  induction texts generalizing start with
  | nil => exact ⟨[], rfl⟩
  | cons t rest ih =>
    obtain ⟨⟨s, rfl⟩, others⟩ := List.forall_mem_cons.mp h
    obtain ⟨strings, later⟩ := ih others (start + 1)
    refine ⟨s :: strings, ?_⟩
    rw [List.zipIdx_cons, List.mapM_cons, isRead, later]
    rfl

theorem joinTexts_strings {blocks : List Block}
    (h : ∀ t ∈ blocks.filterMap Block.text?, ∃ s, t = .str s) :
    ∃ text, joinTexts blocks = .ok text := by
  have returned {read : Except Failure (List LooseText)} (h : ∃ strings, read = .ok strings) :
      ∃ text, (do return LooseText.intercalate "\n" (← read)) = Except.ok (ε := Failure) text := by
    obtain ⟨strings, rfl⟩ := h
    exact ⟨_, rfl⟩
  exact returned (mapM_strings (fun _ _ => rfl) h 0)

theorem isProper_text {reply : Reply} (fits : reply.Fits) : reply.text.isProper = true := by
  apply LooseText.isProper_intercalate rfl
  intro s member
  obtain ⟨t, isText, isString⟩ := List.mem_filterMap.mp member
  obtain ⟨block, isPart, text⟩ := List.mem_filterMap.mp isText
  cases block with
  | text given =>
    cases text
    have kept := fits _ (List.mem_filterMap.mpr ⟨_, isPart, rfl⟩)
    have part := (Json.fits_obj.mp kept).2 ("text", t) (by simp)
    split at isString
    · cases isString
      exact (Json.fits_str.mp part).1
    · cases isString
  | toolUse id name input => cases text
  | other => cases text

/-! ### Calls -/

/-- One of the calls, when its turn comes, is to render and fails with something that nobody is
told. -/
def Stumbles (w : World) : List ToolCall → Prop
  | [] => False
  | call :: rest =>
    (call.name = .str (Named.name Tool.render) ∧ Tool.render.Escapes w call.input) ∨
      Stumbles (w.afterCalls [call]) rest

theorem stumbles_append {w : World} {calls more : List ToolCall} :
    Stumbles w (calls ++ more) ↔ Stumbles w calls ∨ Stumbles (w.afterCalls calls) more := by
  induction calls generalizing w with
  | nil => exact (false_or _).symm.to_iff
  | cons call rest ih =>
    have later : w.afterCalls (call :: rest) = (w.afterCalls [call]).afterCalls rest := rfl
    rw [List.cons_append, Stumbles, Stumbles, ih, later, or_assoc]

theorem unreported_withClient {w : World} {client : Option ModelClient} {s : Scene} {n : String}
    {e : Failure} : Unreported (w.withClient client) s n e ↔ Unreported w s n e := by
  constructor
  · rintro (⟨made, broken⟩ | ⟨⟨made, storable, written⟩, compiled, ⟨refused, starts⟩⟩)
    · exact .notStorable made broken
    · exact .notAwaited ⟨made, storable, written⟩ compiled ⟨refused, starts⟩
  · rintro (⟨made, broken⟩ | ⟨⟨made, storable, written⟩, compiled, ⟨refused, starts⟩⟩)
    · exact .notStorable made broken
    · exact .notAwaited ⟨made, storable, written⟩ compiled ⟨refused, starts⟩

theorem escapes_withClient {w : World} {client : Option ModelClient} {input : Json} :
    Tool.render.Escapes (w.withClient client) input ↔ Tool.render.Escapes w input := by
  constructor
  · rintro ⟨read, accepted, unreported⟩
    exact .render read accepted (unreported_withClient.mp unreported)
  · rintro ⟨read, accepted, unreported⟩
    exact .render read accepted (unreported_withClient.mpr unreported)

theorem stumbles_withClient {w : World} {client : Option ModelClient} {calls : List ToolCall} :
    Stumbles (w.withClient client) calls ↔ Stumbles w calls := by
  induction calls generalizing w with
  | nil => exact Iff.rfl
  | cons call rest ih =>
    rw [Stumbles, Stumbles, escapes_withClient, afterCalls_withClient, ih]

theorem call_escapes {w : World} {input : Json} {t : Tool} (escapes : t.Escapes w input) :
    ∃ e w', runIn w (t.call input) = (.error e, w') ∧ ∀ f, e ≠ .fault f := by
  obtain ⟨e, w', ended, other⟩ := Tool.run_escapes escapes
  refine ⟨e, w', ?_, other⟩
  unfold Tool.call
  rw [runIn_tryCatch, ended]
  cases e with
  | fault f => exact absurd rfl (other f)
  | _ => rfl

section Calls

variable {w w' : World} (configured : w.IsConfigured) (holds : HoldsScenes w)

include configured holds

theorem callNamed_returns {name input : Json}
    (reported : ¬ (name = .str (Named.name Tool.render) ∧ Tool.render.Escapes w input)) :
    ∃ r w', runIn w (Tool.callNamed name input) = (.ok r, w') := by
  rcases result : runIn w (Tool.callNamed name input) with ⟨e | r, w'⟩
  · obtain ⟨t, named, escapes⟩ := (Tool.callNamed_error_iff configured).mp ⟨e, w', result⟩
    cases escapes with
    | render read accepted unreported =>
      exact absurd ⟨named, .render read accepted unreported⟩ reported
    | readSource read accepted found malformed =>
      obtain ⟨s, isText⟩ := holds.decode accepted.2 found
      cases isText.symm.trans malformed
  · exact ⟨r, w', rfl⟩

theorem holdsScenes_callNamed {name input : Json} {r : ToolResult}
    (called : runIn w (Tool.callNamed name input) = (.ok r, w')) : HoldsScenes w' := by
  rcases callNamed_cases called with ⟨_, rfl⟩ | ⟨args, outcome, _, ran, _⟩
  · exact holds
  · have left := holds.leave configured.isRead (.render args.scene args.name)
    rw [Call.leave, ran] at left
    exact left

end Calls

/-- Calls are made, all of them, unless one to render fails with something that nobody is told. -/
theorem callTools_ends (blocks : List Block) :
    ∀ {w : World}, w.IsConfigured → HoldsScenes w →
      (Stumbles w (blocks.filterMap Block.call?) ∧
          ∃ e w', runIn w (callTools blocks) = (.error e, w') ∧ ∀ f, e ≠ .fault f) ∨
        (¬ Stumbles w (blocks.filterMap Block.call?) ∧
          ∃ results w', runIn w (callTools blocks) = (.ok results, w') ∧
            w'.IsConfigured ∧ HoldsScenes w') := by
  induction blocks with
  | nil => exact fun configured holds => .inr ⟨id, _, _, rfl, configured, holds⟩
  | cons b rest ih =>
    intro w configured holds
    cases b with
    | text t => exact ih configured holds
    | other => exact ih configured holds
    | toolUse id name input =>
      rw [show (Block.toolUse id name input :: rest).filterMap Block.call? =
        ⟨id, name, input⟩ :: rest.filterMap Block.call? from rfl, Stumbles]
      unfold callTools
      by_cases escapes : name = .str (Named.name Tool.render) ∧ Tool.render.Escapes w input
      · obtain ⟨rfl, unreported⟩ := escapes
        obtain ⟨e, w', ended, other⟩ := call_escapes unreported
        rw [← Tool.callNamed_of_name] at ended
        exact .inl ⟨.inl ⟨rfl, unreported⟩, e, w', runIn_bind_error ended _, other⟩
      · obtain ⟨r, w₁, called⟩ := callNamed_returns configured holds escapes
        have after : w.afterCalls [⟨id, name, input⟩] = w₁ := congrArg Prod.snd called
        have configured₁ : w₁.IsConfigured := by
          unfold World.IsConfigured
          rw [settings_callNamed called]
          exact configured
        rw [runIn_bind_ok called, after, or_iff_right escapes]
        rcases ih configured₁ (holdsScenes_callNamed configured holds called) with
          ⟨stumbles, e, w', ended, other⟩ | ⟨goes, ⟨names, results⟩, w', later, kept⟩
        · exact .inl ⟨stumbles, e, w', runIn_bind_error ended _, other⟩
        · exact .inr ⟨goes, _, w', runIn_bind_ok later _, kept⟩

theorem fits_blockOfText {text : LooseText} (h : text.isProper = true) :
    Json.Fits 6 (blockOfText text) := by
  unfold blockOfText
  rw [Json.fits_obj, List.forall_mem_cons, List.forall_mem_singleton]
  exact ⟨by decide, Json.fits_str.mpr ⟨rfl, by decide⟩, Json.fits_str.mpr ⟨h, by decide⟩⟩

theorem fits_image {text : LooseText} (h : text.isProper = true) (png : Bytes) :
    ∀ v ∈ (ToolResult.image text png).content, Json.Fits 6 v := by
  unfold ToolResult.image
  rw [List.forall_mem_cons, List.forall_mem_singleton]
  refine ⟨fits_blockOfText h, ?_⟩
  unfold blockOfImage
  simp [Json.fits_obj, Json.fits_str, Http.Response.maxHeight, LooseText.isProper,
    LooseText.proper?]

theorem isProper_display {depth : Nat} {v : Json} (fits : v.Fits depth) :
    v.display.isProper = true := by
  cases v with
  | str s => exact (Json.fits_str.mp fits).1
  | _ => rfl

theorem fits_callNamed {w w' : World} {name input : Json} {r : ToolResult}
    (called : runIn w (Tool.callNamed name input) = (.ok r, w')) (fits : name.Fits 5) :
    ∀ v ∈ r.content, Json.Fits 6 v := by
  have text {text : LooseText} (h : text.isProper = true) :
      ∀ v ∈ [blockOfText text], Json.Fits 6 v :=
    List.forall_mem_singleton.mpr (fits_blockOfText h)
  rcases Tool.callNamed_ok_iff.mp called with ⟨_, rfl, _⟩ | ⟨t, _, answered⟩
  · exact text (LooseText.isProper_append rfl (isProper_display fits))
  rcases Tool.call_ok_iff.mp answered with succeeds | ⟨f, _, rfl⟩
  · cases succeeds with
    | render _ _ => exact fits_image rfl _
    | readImage _ _ => exact fits_image rfl _
    | readSource _ _ => exact text rfl
  · exact text rfl

theorem fits_resultBlocks {w w' : World} {done : List (ToolCall × ToolResult)}
    (executes : Executes w done w') (fits : ∀ d ∈ done, d.1.id.Fits 5 ∧ d.1.name.Fits 5) :
    ∀ v ∈ resultBlocks done, Json.Fits 4 v := by
  induction executes with
  | nil w => exact nofun
  | @cons w w₁ w' call r rest called _ ih =>
    obtain ⟨⟨id, name⟩, others⟩ := List.forall_mem_cons.mp fits
    unfold resultBlocks
    rw [List.map_cons, List.forall_mem_cons]
    refine ⟨?_, ih others⟩
    have content := fits_callNamed called name
    unfold ToolResult.block
    simp only [Json.fits_obj, List.forall_mem_cons, List.not_mem_nil, false_implies, implies_true,
      and_true]
    exact ⟨by decide, Json.fits_str.mpr ⟨rfl, by decide⟩, id,
      Json.fits_arr.mpr ⟨by decide, content⟩, (Json.fits_leaf rfl).mpr ⟨rfl, by decide⟩⟩

theorem fits_renderedNames {w w' : World} {done : List (ToolCall × ToolResult)}
    (isRead : Path.IsRead w.settings.imagesDirectory) (executes : Executes w done w') :
    ∀ name ∈ renderedNames done, Json.Fits 2 name := by
  intro name member
  obtain ⟨d, isDone, rendering, named⟩ := mem_renderedNames.mp member
  obtain ⟨n, given, _⟩ := executes.named isRead d isDone rendering
  cases given.symm.trans named
  exact Json.fits_str.mpr ⟨rfl, by decide⟩

/-- The results of calls fit if the reply does. -/
theorem fits_answered {w w' : World} {fields : List Fields} {stop : Option String}
    {blocks : List Block} {done : List (ToolCall × ToolResult)} {messages : List Message}
    (read : readBlocks fields = .ok blocks) (executes : Executes w done w')
    (calls : done.map Prod.fst = blocks.filterMap Block.call?) :
    (∀ m ∈ answered messages blocks (done.map Prod.snd), m.Fits) ↔
      (∀ m ∈ messages, m.Fits) ∧ (Reply.blocks fields stop).Fits := by
  unfold answered Reply.Fits
  rw [← resultBlocks_eq calls, parts_blocks read, List.forall_mem_append, List.forall_mem_cons,
    List.forall_mem_singleton]
  refine and_congr_right fun _ => Iff.trans (and_iff_left_of_imp fun kept => ?_) fits_blocks
  refine fits_blocks.mpr (fits_resultBlocks executes fun d isDone => ?_)
  have isCall : d.1 ∈ blocks.filterMap Block.call? := calls ▸ List.mem_map_of_mem isDone
  obtain ⟨block, isBlock, given⟩ := List.mem_filterMap.mp isCall
  cases block with
  | toolUse id name input =>
    have whole := fits_blocks.mp kept _ (List.mem_filterMap.mpr ⟨_, isBlock, rfl⟩)
    have parts := (Json.fits_obj.mp whole).2
    rw [← Option.some.inj given]
    exact ⟨parts ("id", id) (by simp), parts ("name", name) (by simp)⟩
  | text t => cases given
  | other => cases given

/-! ### Turns -/

theorem client_of_replies {w : World} {reply : Reply} {rest : List Reply}
    (h : w.replies = reply :: rest) : ∃ client, w.client = some client := by
  cases present : w.client with
  | some client => exact ⟨client, rfl⟩
  | none =>
    rw [World.replies, present] at h
    cases h

theorem connect_of_client {w : World} {client : ModelClient} (present : w.client = some client) :
    runIn w connect = (.ok client, w) := by
  unfold connect
  rw [runIn_bind_ok (runIn_get w), present]
  rfl

theorem send_blocks {w : World} {fields : List Fields} {stop : Option String} {rest : List Reply}
    (h : w.replies = .blocks fields stop :: rest) (r : Request) :
    ∃ client, runIn w (send r) = (.ok (fields, stop), w.withClient client) ∧
      (w.withClient client).replies = rest := by
  obtain ⟨client, present⟩ := client_of_replies h
  have replies : client.replies = .blocks fields stop :: rest := by
    rw [World.replies, present] at h
    exact h
  unfold send
  rw [runIn_bind_ok (connect_of_client present), replies]
  exact ⟨_, rfl, rfl⟩

/-- How turns end that a model answers: they fail where a call to render fails with something that
nobody is told, and otherwise give a result, which fits if the messages before and the replies
do. -/
inductive Ends (w : World) (replies : List Reply) (cap : Nat) (messages : List Message)
    (rendered : List Json) (outcome : Except Failure AgentResult) : Prop
  | stumbles {e : Failure} : Stumbles w (callsMade replies cap) → outcome = .error e →
      (∀ f, e ≠ .fault f) → Ends w replies cap messages rendered outcome
  | returns {r : AgentResult} : ¬ Stumbles w (callsMade replies cap) → outcome = .ok r →
      ((∀ name ∈ rendered, name.Fits 2) → (r.toJson.Fits 0 ↔ (∀ m ∈ messages, m.Fits) ∧
        ∀ reply ∈ replies.take (turnsTaken replies cap), reply.Fits)) →
      Ends w replies cap messages rendered outcome

namespace Ends

variable {w w' : World} {reply : Reply} {rest : List Reply} {cap : Nat}
  {messages messages' : List Message} {rendered names : List Json}
  {outcome : Except Failure AgentResult}

theorem of_stumbles (goesOn : reply.goesOn = true) (stumbles : Stumbles w reply.calls) {e : Failure}
    (failed : outcome = .error e) (other : ∀ f, e ≠ .fault f) :
    Ends w (reply :: rest) (cap + 1) messages rendered outcome := by
  refine .stumbles ?_ failed other
  rw [callsMade_cons_true goesOn]
  exact stumbles_append.mpr (.inl stumbles)

theorem of_answer (ends : reply.goesOn = false) (turns : Int) (reason : String) :
    Ends w (reply :: rest) (cap + 1) messages rendered
      (.ok ⟨reply.text, rendered, turns, reason,
        messages ++ [assistant (reply.parts.filterMap Block.kept?)]⟩) := by
  refine .returns (fun stumbles => ?_) rfl fun fits => ?_
  · rw [callsMade_cons_false ends] at stumbles
    exact stumbles
  · rw [AgentResult.fits_toJson, turnsTaken_cons_false ends, List.take_succ_cons, List.take_zero,
      List.forall_mem_singleton, List.forall_mem_append, List.forall_mem_singleton]
    constructor
    · rintro ⟨_, _, before, kept⟩
      exact ⟨before, fits_blocks.mp kept⟩
    · rintro ⟨before, kept⟩
      exact ⟨isProper_text kept, fits, before, fits_blocks.mpr kept⟩

/-- The calls of the first reply are made, and then the other turns. -/
theorem cons (goesOn : reply.goesOn = true) (goes : ¬ Stumbles w reply.calls)
    {client : Option ModelClient} (after : w' = (w.afterCalls reply.calls).withClient client)
    (names_fit : ∀ name ∈ names, name.Fits 2)
    (fits_next : (∀ m ∈ messages', m.Fits) ↔ (∀ m ∈ messages, m.Fits) ∧ reply.Fits)
    (h : Ends w' rest cap messages' (rendered ++ names) outcome) :
    Ends w (reply :: rest) (cap + 1) messages rendered outcome := by
  have further : Stumbles w (callsMade (reply :: rest) (cap + 1)) ↔
      Stumbles w' (callsMade rest cap) := by
    rw [callsMade_cons_true goesOn, stumbles_append, or_iff_right goes, after, stumbles_withClient]
  cases h with
  | stumbles stumbles failed other => exact .stumbles (further.mpr stumbles) failed other
  | returns goes returned iff =>
    refine .returns (mt further.mp goes) returned fun fits => ?_
    rw [iff (List.forall_mem_append.mpr ⟨fits, names_fit⟩), fits_next, turnsTaken_cons_true goesOn,
      List.take_succ_cons, List.forall_mem_cons, and_assoc]

end Ends

theorem converse_ends (session : Session) (remaining : Nat) :
    ∀ {w : World} (turns : Nat) (rendered : List Json) (messages : List Message),
      w.IsConfigured → HoldsScenes w → IsAnswered w.replies remaining →
      Ends w w.replies remaining messages rendered
        (runIn w (converse session turns rendered messages remaining)).1 := by
  -- By induction on the turns that are left. Each uses up one reply, and leaves a store of scenes.
  induction remaining with
  | zero =>
    intro w turns rendered messages _ _ _
    refine .returns (fun stumbles => ?_) rfl fun fits => ?_
    · rw [callsMade, Nat.min_zero, List.take_zero] at stumbles
      exact stumbles
    · rw [turnsTaken, Nat.min_zero, List.take_zero, AgentResult.fits_toJson]
      constructor
      · rintro ⟨_, _, each⟩
        exact ⟨each, fun reply member => absurd member List.not_mem_nil⟩
      · rintro ⟨each, _⟩
        exact ⟨rfl, fits, each⟩
  | succ remaining ih =>
    intro w turns rendered messages configured holds answers
    obtain ⟨reply, rest, replies, whole, later⟩ := answers.cons
    cases reply with
    | refused text => exact absurd whole id
    | blocks fields stop =>
      obtain ⟨blocks, read, areTexts⟩ := readBlocks_whole whole
      have parts := parts_blocks read stop
      have calls : (Reply.blocks fields stop).calls = blocks.filterMap Block.call? := by
        rw [Reply.calls, parts]
      obtain ⟨client, sent, left⟩ :=
        send_blocks replies ⟨session.model, session.maxTokens, messages⟩
      rw [converse, runIn_bind_ok sent, replies]
      dsimp only
      rw [runIn_bind_ok (runIn_ofExcept_ok read _), any_isToolUse_eq read]
      split
      · rename_i goesOn
        have configured₁ : (w.withClient client).IsConfigured := configured
        rcases callTools_ends blocks configured₁ holds with
          ⟨stumbles, e, w', ended, other⟩ |
          ⟨goes, ⟨names, results⟩, w₂, called, configured₂, holds₂⟩
        · rw [stumbles_withClient, ← calls] at stumbles
          rw [runIn_bind_error ended]
          exact .of_stumbles goesOn stumbles rfl other
        · obtain ⟨done, executes, made, rfl, rfl⟩ := callTools_ok called
          rw [stumbles_withClient, ← calls] at goes
          have after := executes.world
          rw [made, ← calls, afterCalls_withClient] at after
          have replies₂ : w₂.replies = rest :=
            (World.replies_of_client executes.client).trans left
          have next := ih (turns + 1) (rendered ++ renderedNames done)
            (answered messages blocks (done.map Prod.snd)) configured₂ holds₂
            (replies₂ ▸ later goesOn)
          rw [replies₂, answered, ← resultBlocks_eq made] at next
          rw [runIn_bind_ok called, List.append_assoc]
          exact .cons goesOn goes after (fits_renderedNames configured₁.isRead executes)
            (by rw [resultBlocks_eq made]; exact fits_answered read executes made) next
      · rename_i ends
        have ends : (Reply.blocks fields stop).goesOn = false := eq_false_of_ne_true ends
        obtain ⟨text, joined⟩ := joinTexts_strings areTexts
        rw [runIn_bind_ok (runIn_ofExcept_ok joined _), text_blocks read joined stop, ← parts]
        exact .of_answer ends _ _

/-- Something ends the run: the prompt cannot be added to the history, or a call to render fails
with something that nobody is told. -/
def Breaks (w : World) (history : List Message) (cap : Nat) : Prop :=
  (∃ m ∈ history.getLast?, m.IsDefective) ∨ Stumbles w (callsMade w.replies cap)

/-- What the run starts with, and what the model answers in it, can be part of a result. -/
def PartsFit (w : World) (prompt : LooseText) (history : List Message) (cap : Nat) : Prop :=
  ∃ start, addUserText prompt history = .ok start ∧ (∀ m ∈ start, m.Fits) ∧
    ∀ reply ∈ w.replies.take (turnsTaken w.replies cap), reply.Fits

theorem run_defective {w : World} {client : ModelClient} (present : w.client = some client)
    {prompt : LooseText} {history : List Message} {defect : MessageDefect}
    (failed : addUserText prompt history = .error defect) (model : Option LooseText)
    (maxTurns : Option Int) :
    runIn w (run prompt model maxTurns history) = (.error (.defective defect), w) := by
  unfold run
  rw [runIn_bind_ok (runIn_read w World.settings)]
  dsimp only
  rw [runIn_bind_ok (connect_of_client present)]
  exact runIn_bind_error (runIn_ofExcept_error failed w) _

/-- A run fails, never with a fault, if something ends it, and returns otherwise. -/
theorem run_ends {w : World} (configured : w.IsConfigured) (holds : HoldsScenes w)
    (reaches : w.Reaches) {maxTurns : Option Int}
    (answered : IsAnswered w.replies (turnCap w maxTurns))
    (prompt : LooseText) (model : Option LooseText) (history : List Message) :
    (Breaks w history (turnCap w maxTurns) ∧
        ∃ e, (runIn w (run prompt model maxTurns history)).1 = .error e ∧ ∀ f, e ≠ .fault f) ∨
      (¬ Breaks w history (turnCap w maxTurns) ∧
        ∃ r, (runIn w (run prompt model maxTurns history)).1 = .ok r ∧
          (r.toJson.Fits 0 ↔ PartsFit w prompt history (turnCap w maxTurns))) := by
  unfold Breaks PartsFit
  rw [← addUserText_error_iff prompt]
  unfold run
  rw [runIn_bind_ok (runIn_read w World.settings)]
  dsimp only
  rcases connect_cases w with ⟨absent, impossible, _⟩ | ⟨client, connected, _, replies⟩
  · exact absurd reaches (not_reaches absent impossible)
  rw [runIn_bind_ok connected]
  cases added : addUserText prompt history with
  | error defect =>
    rw [runIn_bind_error (runIn_ofExcept_error rfl _)]
    exact .inl ⟨.inl ⟨defect, rfl⟩, _, rfl, nofun⟩
  | ok start =>
    rw [runIn_bind_ok (runIn_ofExcept_ok rfl _), or_iff_right (not_exists_error start)]
    have same : (w.withClient (some client)).replies = w.replies := replies
    have ends := converse_ends ⟨Settings.modelId (givenOr LooseText.isEmpty
      w.settings.defaultModel model), w.settings.maxTokens,
      givenOr (· == 0) w.settings.maxTurns maxTurns⟩ (turnCap w maxTurns)
      (w := w.withClient (some client)) 0 [] start configured holds (same ▸ answered)
    rw [same] at ends
    cases ends with
    | stumbles stumbles failed other =>
      exact .inl ⟨stumbles_withClient.mp stumbles, _, failed, other⟩
    | @returns r goes returned fits =>
      refine .inr ⟨mt stumbles_withClient.mpr goes, r, returned, (fits nofun).trans ?_⟩
      constructor
      · exact fun parts => ⟨start, rfl, parts⟩
      · rintro ⟨start', isStart, parts⟩
        cases isStart
        exact parts

end Agent
end RayScene
