import RayScene.Proofs.Agent.Dialogue
import RayScene.Proofs.Agent.Replies

/-!
# Texts of the user

Texts that are added one after another end up in one turn of the user, the last message, whatever
form its content had before. Nothing is lost, all other messages stay as they are, and no two turns
of the user meet that did not meet before (`addUserTexts_gathers`).
-/

namespace RayScene

def addUserTexts (texts : List LooseText) (messages : List Message) :
    Except MessageDefect (List Message) :=
  texts.foldlM (fun messages text => addUserText text messages) messages

namespace Message

/-- The content of a message as blocks: a list of blocks, or a text, which counts as one block. -/
inductive ReadsAs (m : Message) : List Json → Prop
  | text {s : LooseText} : Fields.get? m "content" = some (.str s) → ReadsAs m [blockOfText s]
  | blocks {items : List Json} : Fields.get? m "content" = some (.arr items) → ReadsAs m items

/-- The message has a role, whatever it is, and a content that reads as blocks. -/
structure HasForm (m : Message) : Prop where
  role : ∃ role, Fields.get? m "role" = some role
  content : ∃ blocks, m.ReadsAs blocks

/-- The messages do not differ, unless in their content. -/
def SameFrame (m m' : Message) : Prop :=
  ∀ key : LooseText, key ≠ "content" → Fields.get? m' key = Fields.get? m key

/-- New blocks are in one turn of the user, at the end. That is the turn of the user that the
messages end with, where the blocks come after the old ones, or a new turn if they end with none. -/
inductive Gathers (new : List Json) : List Message → List Message → Prop
  | opened {messages : List Message} {turn : Message} (other : ¬ EndsWithUser messages)
      (role : turn.HasRole "user") (content : turn.ReadsAs new) :
      Gathers new messages (messages ++ [turn])
  | joined {init : List Message} {last turn : Message} {old : List Json}
      (role : last.HasRole "user") (content : last.ReadsAs old) (frame : last.SameFrame turn)
      (content' : turn.ReadsAs (old ++ new)) : Gathers new (init ++ [last]) (init ++ [turn])

def UserAt (messages : List Message) (i : Nat) : Prop := ∃ m ∈ messages[i]?, m.HasRole "user"

/-- Two turns of the user are neighbours, the first one at place `i`. -/
def UsersMeet (messages : List Message) (i : Nat) : Prop :=
  UserAt messages i ∧ UserAt messages (i + 1)

/-- Text goes to the end of what a message reads as, and makes its content a list. -/
theorem ReadsAs.withText {m : Message} {blocks : List Json} (h : m.ReadsAs blocks)
    (text : LooseText) :
    m.withText text = .ok (Fields.set m "content" (.arr (blocks ++ [blockOfText text]))) := by
  cases h with
  | text given =>
    rw [Message.withText, given]
    rfl
  | blocks given =>
    rw [Message.withText, given]
    rfl

theorem addUserText_opens {messages : List Message} (forms : ∀ m ∈ messages, m.HasForm)
    (other : ¬ EndsWithUser messages) (text : LooseText) :
    addUserText text messages = .ok (messages ++ [user (.str text)]) := by
  rcases List.eq_nil_or_concat messages with rfl | ⟨init, last, rfl⟩
  · rfl
  rw [List.concat_eq_append] at forms other ⊢
  obtain ⟨role, given⟩ := (forms last (List.mem_append_right _ (List.mem_singleton_self last))).role
  have notUser : ¬ role.isText "user" = true := by
    intro isUser
    rw [Json.isText_iff.mp isUser] at given
    exact other (endsWithUser_append init given)
  have alone : addUserText text [last] = .ok [last, user (.str text)] := by
    rw [addUserText, given]
    exact if_neg notUser
  rw [addUserText_append, alone, List.append_assoc]
  rfl

theorem addUserText_joins {init : List Message} {last : Message} {blocks : List Json}
    (role : last.HasRole "user") (content : last.ReadsAs blocks) (text : LooseText) :
    addUserText text (init ++ [last]) =
      .ok (init ++ [Fields.set last "content" (.arr (blocks ++ [blockOfText text]))]) := by
  rw [addUserText_append, addUserText_user role, content.withText]
  rfl

/-! ### Several texts -/

theorem addUserTexts_cons {text : LooseText} {messages next : List Message}
    (h : addUserText text messages = .ok next) (texts : List LooseText) :
    addUserTexts (text :: texts) messages = addUserTexts texts next := by
  rw [addUserTexts, List.foldlM_cons, h]
  rfl

theorem addUserTexts_append (first second : List LooseText) (messages : List Message) :
    addUserTexts (first ++ second) messages =
      addUserTexts first messages >>= addUserTexts second :=
  List.foldlM_append

theorem addUserTexts_joins (texts : List LooseText) (init : List Message) {last : Message}
    {blocks : List Json} (role : last.HasRole "user") (content : last.ReadsAs blocks) :
    ∃ turn, addUserTexts texts (init ++ [last]) = .ok (init ++ [turn]) ∧ last.SameFrame turn ∧
      turn.ReadsAs (blocks ++ texts.map blockOfText) := by
  -- The content may be a text before the first step, and is a list after it. The steps have in
  -- common what the turn reads as.
  induction texts generalizing last blocks with
  | nil => exact ⟨last, rfl, fun _ _ => rfl, (List.append_nil blocks).symm ▸ content⟩
  | cons text texts ih =>
    have frame : last.SameFrame (Fields.set last "content" (.arr (blocks ++ [blockOfText text]))) :=
      fun key different => get?_set_other last different.symm _
    have role' : HasRole (Fields.set last "content" (.arr (blocks ++ [blockOfText text]))) "user" :=
      (frame "role" (by decide)).trans role
    obtain ⟨turn, added, frame', content'⟩ := ih role' (.blocks (get?_set_same last "content" _))
    refine ⟨turn, ?_, ?_, ?_⟩
    · rw [addUserTexts_cons (addUserText_joins role content text), added]
    · exact fun key different => (frame' key different).trans (frame key different)
    · rw [List.map_cons, List.append_cons]
      exact content'

theorem addUserTexts_ok {messages : List Message} (forms : ∀ m ∈ messages, m.HasForm)
    {texts : List LooseText} (nonempty : texts ≠ []) :
    ∃ result, addUserTexts texts messages = .ok result ∧
      Gathers (texts.map blockOfText) messages result := by
  by_cases waits : EndsWithUser messages
  · obtain ⟨init, last, rfl, role⟩ := last_of_endsWithUser waits
    obtain ⟨old, content⟩ :=
      (forms last (List.mem_append_right _ (List.mem_singleton_self last))).content
    obtain ⟨turn, added, frame, content'⟩ := addUserTexts_joins texts init role content
    exact ⟨_, added, .joined role content frame content'⟩
  · -- The first text opens a turn, and the others join it.
    obtain ⟨text, texts, rfl⟩ := List.exists_cons_of_ne_nil nonempty
    obtain ⟨turn, added, frame, content⟩ := addUserTexts_joins texts messages
      (hasRole_user (.str text)) (.text rfl)
    refine ⟨_, (addUserTexts_cons (addUserText_opens forms waits text) texts).trans added, ?_⟩
    exact .opened waits (frame "role" (by decide)) content

theorem addUserTexts_batches {messages : List Message} (forms : ∀ m ∈ messages, m.HasForm)
    (first second : List LooseText) :
    ∃ middle, addUserTexts first messages = .ok middle ∧
      addUserTexts second middle = addUserTexts (first ++ second) messages := by
  have added : ∃ middle, addUserTexts first messages = .ok middle := by
    cases first with
    | nil => exact ⟨messages, rfl⟩
    | cons text texts =>
      obtain ⟨middle, added, _⟩ := addUserTexts_ok forms (List.cons_ne_nil text texts)
      exact ⟨middle, added⟩
  obtain ⟨middle, added⟩ := added
  refine ⟨middle, added, ?_⟩
  rw [addUserTexts_append, added]
  rfl

variable {new : List Json} {messages result : List Message}

theorem Gathers.endsWithUser (h : Gathers new messages result) : EndsWithUser result := by
  cases h with
  | opened _ role _ => exact endsWithUser_append _ role
  | joined role _ frame _ => exact endsWithUser_append _ ((frame "role" (by decide)).trans role)

theorem Gathers.length_le (h : Gathers new messages result) :
    result.length ≤ messages.length + 1 := by
  cases h with
  | opened => rw [List.length_append, List.length_singleton]
  | joined => simp only [List.length_append, List.length_singleton, Nat.le_succ]

theorem userAt_lt {i : Nat} (h : UserAt messages i) : i < messages.length := by
  obtain ⟨m, there, _⟩ := h
  exact (List.getElem?_eq_some_iff.mp there).1

theorem userAt_concat {turn : Message} {i : Nat} :
    UserAt (messages ++ [turn]) i ↔
      UserAt messages i ∨ (i = messages.length ∧ turn.HasRole "user") := by
  rcases lt_trichotomy i messages.length with before | rfl | after
  · rw [UserAt, List.getElem?_append_left before]
    exact ⟨.inl, fun h => h.resolve_right fun wrong => before.ne wrong.1⟩
  · rw [UserAt, List.getElem?_concat_length]
    constructor
    · rintro ⟨m, same, role⟩
      cases same
      exact .inr ⟨rfl, role⟩
    · rintro (h | ⟨_, role⟩)
      · exact absurd (userAt_lt h) (lt_irrefl _)
      · exact ⟨turn, rfl, role⟩
  · constructor
    · intro h
      have within := userAt_lt h
      rw [List.length_append, List.length_singleton] at within
      omega
    · rintro (h | ⟨same, _⟩)
      · exact absurd (userAt_lt h) after.asymm
      · exact absurd same after.ne'

/-- Where the last turn was the user's, another one in its place adds no place of the user. -/
theorem userAt_of_last {last turn : Message} (role : last.HasRole "user") {i : Nat}
    (h : UserAt (messages ++ [turn]) i) : UserAt (messages ++ [last]) i := by
  rcases userAt_concat.mp h with before | ⟨final, _⟩
  · exact userAt_concat.mpr (.inl before)
  · exact userAt_concat.mpr (.inr ⟨final, role⟩)

theorem endsWithUser_of_userAt {i : Nat} (h : UserAt messages i) (final : i + 1 = messages.length) :
    EndsWithUser messages := by
  obtain ⟨m, there, role⟩ := h
  refine ⟨m, ?_, role⟩
  rw [List.getLast?_eq_getElem?, ← final]
  exact there

theorem Gathers.usersMeet (h : Gathers new messages result) {i : Nat} (meet : UsersMeet result i) :
    UsersMeet messages i := by
  obtain ⟨first, second⟩ := meet
  cases h with
  | opened other =>
    -- Before a new turn there is none of the user.
    rcases userAt_concat.mp first with first | ⟨rfl, _⟩
    · rcases userAt_concat.mp second with second | ⟨final, _⟩
      · exact ⟨first, second⟩
      · exact absurd (endsWithUser_of_userAt first final) other
    · rcases userAt_concat.mp second with second | ⟨final, _⟩
      · exact absurd (userAt_lt second) (by omega)
      · exact absurd final (by omega)
  | joined role => exact ⟨userAt_of_last role first, userAt_of_last role second⟩

/-- Texts can be added to all messages with a role and a content that reads as blocks. They are
gathered in one turn of the user at the end. At most this turn is new, and no two turns of the user
meet that did not meet before. It does not matter whether the texts come in one batch or in two. -/
theorem addUserTexts_gathers {messages : List Message} (forms : ∀ m ∈ messages, m.HasForm) :
    (∀ texts : List LooseText, texts ≠ [] → ∃ result, addUserTexts texts messages = .ok result ∧
      Gathers (texts.map blockOfText) messages result ∧ EndsWithUser result ∧
      result.length ≤ messages.length + 1 ∧ ∀ i, UsersMeet result i → UsersMeet messages i) ∧
    ∀ first second : List LooseText, ∃ middle, addUserTexts first messages = .ok middle ∧
      addUserTexts second middle = addUserTexts (first ++ second) messages := by
  refine ⟨fun texts nonempty => ?_, addUserTexts_batches forms⟩
  obtain ⟨result, added, gathers⟩ := addUserTexts_ok forms nonempty
  exact ⟨result, added, gathers, gathers.endsWithUser, gathers.length_le,
    fun _ => gathers.usersMeet⟩

def repeatedRequest : List Message := [user (.str "A ball"), user (.str "A red one")]

theorem addUserTexts_gathers_repeated :
    (∀ m ∈ repeatedRequest, m.HasForm) ∧ (["Large", "On a floor"] : List LooseText) ≠ [] ∧
      ∃ result, addUserTexts ["Large", "On a floor"] repeatedRequest = .ok result ∧
        Gathers [blockOfText "Large", blockOfText "On a floor"] repeatedRequest result ∧
        EndsWithUser result ∧ result.length ≤ 3 ∧
        ∀ i, UsersMeet result i → UsersMeet repeatedRequest i := by
  have form (text : LooseText) : (user (.str text)).HasForm := ⟨⟨_, rfl⟩, _, .text rfl⟩
  have forms : ∀ m ∈ repeatedRequest, m.HasForm := by
    rw [repeatedRequest, List.forall_mem_cons, List.forall_mem_singleton]
    exact ⟨form _, form _⟩
  have nonempty : (["Large", "On a floor"] : List LooseText) ≠ [] := List.cons_ne_nil _ _
  exact ⟨forms, nonempty, (addUserTexts_gathers forms).1 _ nonempty⟩

end Message

end RayScene
