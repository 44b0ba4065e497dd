import Mathlib.Init
import RayScene.Studio.Store

/-!
# Actions step by step

What actions of the studio do one after the other, which names rendering and looking at artifacts
accept, and what looking at artifacts keeps.
-/

namespace RayScene.Studio

variable {α β ε : Type}

theorem runIn_bind_ok {w w' : World} {a : Studio α} {x : α} (h : runIn w a = (.ok x, w'))
    (next : α → Studio β) : runIn w (a >>= next) = runIn w' (next x) := by
  have step : (ExceptT.run a).run w = (.ok x, w') := h
  show ((ExceptT.run (a >>= next)).run w) = _
  rw [ExceptT.run_bind, StateT.run_bind, step]
  rfl

theorem runIn_bind_error {w w' : World} {a : Studio α} {e : Failure}
    (h : runIn w a = (.error e, w')) (next : α → Studio β) :
    runIn w (a >>= next) = (.error e, w') := by
  have step : (ExceptT.run a).run w = (.error e, w') := h
  show ((ExceptT.run (a >>= next)).run w) = _
  rw [ExceptT.run_bind, StateT.run_bind, step]
  rfl

theorem runIn_bind (w : World) (a : Studio α) (next : α → Studio β) :
    (∃ e w', runIn w a = (.error e, w') ∧ runIn w (a >>= next) = (.error e, w')) ∨
      ∃ x w', runIn w a = (.ok x, w') ∧ runIn w (a >>= next) = runIn w' (next x) := by
  rcases result : runIn w a with ⟨e | x, w'⟩
  · exact .inl ⟨e, w', rfl, runIn_bind_error result next⟩
  · exact .inr ⟨x, w', rfl, runIn_bind_ok result next⟩

theorem runIn_get (w : World) : runIn w get = (.ok w, w) := rfl

theorem runIn_set (w w' : World) : runIn w (set w' : Studio PUnit) = (.ok ⟨⟩, w') := rfl

theorem runIn_read (w : World) (f : World → α) : runIn w (read f) = (.ok (f w), w) := rfl

theorem runIn_ofExcept_ok {toFailure : ε → Failure} {r : Except ε α} {a : α} (h : r = .ok a)
    (w : World) : runIn w (ofExcept toFailure r) = (.ok a, w) := by
  rw [h]
  rfl

theorem runIn_ofExcept_error {toFailure : ε → Failure} {r : Except ε α} {e : ε} (h : r = .error e)
    (w : World) : runIn w (ofExcept toFailure r) = (.error (toFailure e), w) := by
  rw [h]
  rfl

theorem runIn_ofExcept (w : World) (toFailure : ε → Failure) (r : Except ε α) :
    (runIn w (ofExcept toFailure r)).2 = w := by
  cases r with
  | error e => rfl
  | ok a => rfl

theorem runIn_tryCatch (w : World) (a : Studio α) (handle : Failure → Studio α) :
    runIn w (tryCatch a handle) =
      match runIn w a with
      | (.ok x, w') => (.ok x, w')
      | (.error e, w') => runIn w' (handle e) := by
  show (ExceptT.run (ExceptT.tryCatch a handle)).run w = _
  rcases result : runIn w a with ⟨e | x, w'⟩
  · have step : StateT.run a w = (.error e, w') := result
    rw [ExceptT.tryCatch, ExceptT.run_mk, StateT.run_bind, step]
    rfl
  · have step : StateT.run a w = (.ok x, w') := result
    rw [ExceptT.tryCatch, ExceptT.run_mk, StateT.run_bind, step]
    rfl

/-! ### The store -/

def Accepts (name : LooseText) (n : String) : Prop :=
  name = .proper n ∧ ArtifactName.isValid n = true

def nameFailure : Failure := .fault (.schema .value [⟨[.key "name"], .artifactName⟩])

theorem runIn_validName_ok {name : LooseText} {n : String} (h : Accepts name n) (w : World) :
    runIn w (validName name) = (.ok n, w) := by
  obtain ⟨rfl, valid⟩ := h
  unfold validName
  rw [LooseText.proper?, Option.filter_some, if_pos valid]
  rfl

theorem runIn_validName_error {name : LooseText} (h : ∀ n, ¬ Accepts name n) (w : World) :
    runIn w (validName name) = (.error nameFailure, w) := by
  have invalid : name.proper?.filter ArtifactName.isValid = none := by
    rw [Option.filter_eq_none_iff]
    intro n proper valid
    cases name with
    | proper s =>
      cases proper
      exact h n ⟨rfl, valid⟩
    | broken before unit after => cases proper
  unfold validName
  rw [invalid]
  rfl

theorem accepts_or (name : LooseText) : (∃ n, Accepts name n) ∨ ∀ n, ¬ Accepts name n := by
  by_cases accepted : ∃ n, Accepts name n
  · exact .inl accepted
  · exact .inr fun n h => accepted ⟨n, h⟩

theorem runIn_pathOf (w : World) (name : String) (artifact : Artifact) :
    runIn w (pathOf name artifact) =
      (.ok (w.settings.imagesDirectory.child (name ++ artifact.ending)), w) := rfl

theorem runIn_makeImagesDirectory (w : World) :
    runIn w makeImagesDirectory =
      (.ok (w.files.makeDirectories w.settings.imagesDirectory).2,
        { w with files := (w.files.makeDirectories w.settings.imagesDirectory).1 }) := rfl

theorem renderAs_rejected {name : LooseText} (h : ∀ n, ¬ Accepts name n) (w : World) (s : Scene) :
    runIn w (renderAs s name) = (.error nameFailure, w) := by
  unfold renderAs
  exact runIn_bind_error (runIn_validName_error h w) _

theorem renderAs_not_stored {name : LooseText} {n : String} (h : Accepts name n) {w w' : World}
    {s : Scene} {e : Failure} (storing : runIn w (storeSource s n) = (.error e, w')) :
    runIn w (renderAs s name) = (.error e, w') := by
  unfold renderAs
  rw [runIn_bind_ok (runIn_validName_ok h w)]
  exact runIn_bind_error storing _

theorem renderAs_stored {name : LooseText} {n : String} (h : Accepts name n) {w w' : World}
    {s : Scene} (storing : runIn w (storeSource s n) = (.ok (), w')) :
    runIn w (renderAs s name) = runIn w' (renderTo s
      (some (w'.settings.imagesDirectory.child (n ++ Artifact.image.ending)).text)) := by
  unfold renderAs
  rw [runIn_bind_ok (runIn_validName_ok h w), runIn_bind_ok storing,
    runIn_bind_ok (runIn_pathOf w' n .image)]

theorem storedContent_rejected {name : LooseText} (h : ∀ n, ¬ Accepts name n) (w : World)
    (artifact : Artifact) : runIn w (storedContent name artifact) = (.error nameFailure, w) := by
  unfold storedContent
  exact runIn_bind_error (runIn_validName_error h w) _

theorem storedSource_rejected {name : LooseText} (h : ∀ n, ¬ Accepts name n) (w : World) :
    runIn w (storedSource name) = (.error nameFailure, w) :=
  runIn_bind_error (storedContent_rejected h w .source) _

theorem storedContent_read {name : LooseText} {n : String} (h : Accepts name n) (w : World)
    (artifact : Artifact) :
    runIn w (storedContent name artifact) =
      runIn w (ofExcept (.ofAccess fun _ => .fault (.missing artifact n))
        (w.files.read (w.settings.imagesDirectory.child (n ++ artifact.ending)))) := by
  unfold storedContent
  rw [runIn_bind_ok (runIn_validName_ok h w), runIn_bind_ok (runIn_pathOf w n artifact),
    runIn_bind_ok (runIn_get w)]

def Keeps {γ : Type} (part : World → γ) (a : Studio α) : Prop :=
  ∀ w, part (runIn w a).2 = part w

variable {γ : Type} {part : World → γ}

theorem Keeps.pure (a : α) : Keeps part (pure a) := fun _ => rfl

theorem Keeps.ofExcept (toFailure : ε → Failure) (r : Except ε α) :
    Keeps part (ofExcept toFailure r) := by
  intro w
  rw [runIn_ofExcept]

theorem Keeps.bind {a : Studio α} {next : α → Studio β} (first : Keeps part a)
    (others : ∀ x, Keeps part (next x)) : Keeps part (a >>= next) := by
  intro w
  have kept := first w
  rcases runIn_bind w a next with ⟨e, w', ended, same⟩ | ⟨x, w', went, same⟩
  · rw [same]
    rwa [ended] at kept
  · rw [same, others x w']
    rwa [went] at kept

theorem keeps_storedContent (name : LooseText) (artifact : Artifact) :
    Keeps part (storedContent name artifact) := by
  intro w
  rcases accepts_or name with ⟨n, accepted⟩ | rejected
  · rw [storedContent_read accepted, runIn_ofExcept]
  · rw [storedContent_rejected rejected]

theorem keeps_storedSource (name : LooseText) : Keeps part (storedSource name) :=
  (keeps_storedContent name .source).bind fun _ => Keeps.ofExcept _ _

theorem keeps_sceneNames : Keeps part sceneNames := by
  intro w
  unfold sceneNames
  rw [runIn_bind_ok (runIn_get w)]
  refine Keeps.bind (Keeps.ofExcept _ _) (fun found => ?_) w
  split
  · exact Keeps.pure _
  · exact Keeps.pure _

end RayScene.Studio
