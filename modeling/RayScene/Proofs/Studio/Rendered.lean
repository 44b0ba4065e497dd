import RayScene.Proofs.Scene.Written
import RayScene.Proofs.Studio.Calls
import RayScene.Proofs.Text.Utf8

/-!
# Rendered scenes

An image that was rendered under a name stays until another one is rendered under that name, and so
does a source that can be read: `IsRendered` survives every rendering of an accepted scene that
fails, or goes to another name.
-/

namespace RayScene.Studio

/-- What is stored after a call is what the call stores, or else what was stored before. -/
theorem Call.stored_leave {w : World} (isRead : Path.IsRead w.settings.imagesDirectory)
    (call : Call) {n : String} (valid : ArtifactName.isValid n = true) {artifact : Artifact}
    {content : Bytes}
    (h : (givenBy n w call artifact).or
      (stored w.files w.settings.imagesDirectory n artifact) = some content) :
    stored (call.leave w).files w.settings.imagesDirectory n artifact = some content := by
  let Kept (fs : Files) (known : Known) : Prop :=
    ∀ n artifact content, ArtifactName.isValid n = true → known n artifact = some content →
      stored fs w.settings.imagesDirectory n artifact = some content
  have survives : Survives w.settings.imagesDirectory Kept := by
    constructor
    · intro fs known kept n artifact content valid something
      have there := kept n artifact content valid something
      rw [Files.makeDirectories_of_isDirectory (isDirectory_of_stored there)]
      exact there
    · intro fs fs' known name artifact content kept _ validName written n another content' valid
        something
      by_cases same : n = name ∧ another = artifact
      · obtain ⟨rfl, rfl⟩ := same
        rw [Known.update_same] at something
        cases something
        exact stored_write_same written
      · rw [Known.update, if_neg same] at something
        rw [stored_write_other validName written valid same]
        exact kept n another content' valid something
  have start : Kept w.files (stored w.files w.settings.imagesDirectory) :=
    fun _ _ _ _ something => something
  exact call.leave_keeps survives isRead start n artifact content valid h

structure IsRendered (w : World) (n : String) (png : Bytes) : Prop where
  valid : ArtifactName.isValid n = true
  image : stored w.files w.settings.imagesDirectory n .image = some png
  source : ∃ v s, Scene.check v = .ok s ∧ s.isStorable = true ∧
    stored w.files w.settings.imagesDirectory n .source = some (Utf8.encode s.source)

namespace IsRendered

variable {w w' : World} {n : String} {png : Bytes}

theorem storedImage (h : IsRendered w n png) : runIn w (storedImage n) = (.ok png, w) :=
  (storedContent_read ⟨rfl, h.valid⟩ w .image).trans
    (runIn_ofExcept_ok (stored_eq_some.mp h.image) w)

theorem storedSource (h : IsRendered w n png) :
    ∃ source s, runIn w (storedSource n) = (.ok source, w) ∧
      ∀ e : Edition, Scene.ofText e source = .ok s := by
  obtain ⟨v, s, accepted, storable, found⟩ := h.source
  refine ⟨s.source, s, ?_, fun e => Scene.ofText_source e accepted storable⟩
  have content : runIn w (storedContent n .source) = (.ok (Utf8.encode s.source), w) :=
    (storedContent_read ⟨rfl, h.valid⟩ w .source).trans
      (runIn_ofExcept_ok (stored_eq_some.mp found) w)
  exact (runIn_bind_ok content _).trans (runIn_ofExcept_ok (Utf8.decode_encode s.source) w)

end IsRendered

section Render

variable {w w' : World} {v : Json} {s : Scene} {given : LooseText} {n : String}
  {outcome : Except Failure Bytes}

theorem isStorable_of_storedBy {s' : Scene}
    (h : storedBy n w (.render s given) = some s') : s' = s ∧ s.isStorable = true := by
  by_cases both : Accepts given n ∧ (runIn w (storeSource s n)).1.isOk = true
  · rw [storedBy, if_pos both] at h
    cases h
    rcases storeSource_files w s n with ⟨e, failed⟩ | ⟨_, _, storable, _, _⟩
    · rw [failed] at both
      cases both.2
    · exact ⟨rfl, storable⟩
  · rw [storedBy, if_neg both] at h
    cases h

theorem settings_renderAs (ran : runIn w (renderAs s given) = (outcome, w')) :
    w'.settings = w.settings := by
  obtain ⟨runs, files, same⟩ := renderAs_world w s given
  have left : w' = { w with runs, files } := (congrArg Prod.snd ran).symm.trans same
  rw [left]

variable (isRead : Path.IsRead w.settings.imagesDirectory) (accepted : Scene.check v = .ok s)
  (ran : runIn w (renderAs s given) = (outcome, w'))

include isRead ran

theorem stored_renderAs (valid : ArtifactName.isValid n = true) {artifact : Artifact}
    {content : Bytes}
    (h : (givenBy n w (.render s given) artifact).or
      (stored w.files w.settings.imagesDirectory n artifact) = some content) :
    stored w'.files w'.settings.imagesDirectory n artifact = some content := by
  have left : (Call.render s given).leave w = w' := congrArg Prod.snd ran
  rw [settings_renderAs ran, ← left]
  exact (Call.render s given).stored_leave isRead valid h

include accepted

/-- After rendering an accepted scene, the source under a name is that of some accepted scene if it
was so before, or if the rendering stored it. -/
theorem source_renderAs (valid : ArtifactName.isValid n = true)
    (h : (storedBy n w (.render s given)).isSome = true ∨ ∃ v s, Scene.check v = .ok s ∧
      s.isStorable = true ∧
      stored w.files w.settings.imagesDirectory n .source = some (Utf8.encode s.source)) :
    ∃ v s, Scene.check v = .ok s ∧ s.isStorable = true ∧
      stored w'.files w'.settings.imagesDirectory n .source = some (Utf8.encode s.source) := by
  cases storing : storedBy n w (.render s given) with
  | some s' =>
    obtain ⟨rfl, storable⟩ := isStorable_of_storedBy storing
    refine ⟨v, s', accepted, storable, stored_renderAs isRead ran valid ?_⟩
    rw [givenBy, storing]
    rfl
  | none =>
    rcases h with stores | ⟨v', s', accepted', storable, before⟩
    · rw [storing] at stores
      cases stores
    · refine ⟨v', s', accepted', storable, stored_renderAs isRead ran valid ?_⟩
      rw [givenBy, storing, Option.map_none, Option.none_or]
      exact before

theorem isRendered_renderAs {png : Bytes} (returned : outcome = .ok png) :
    ∃ n, given = .proper n ∧ IsRendered w' n png := by
  subst returned
  rcases accepts_or given with ⟨n, accepts⟩ | rejected
  · refine ⟨n, accepts.1, accepts.2, stored_renderAs isRead ran accepts.2 ?_,
      source_renderAs isRead accepted ran accepts.2 (.inl ?_)⟩
    · rw [givenBy, renderedBy, if_pos accepts, ran]
      rfl
    · rcases renderAs_cases isRead accepts (s := s) with ⟨e, _, failed⟩ | ⟨_, _, _, storing, _⟩
      · cases failed.symm.trans ran
      · rw [storedBy, if_pos ⟨accepts, by rw [storing]; rfl⟩]
        rfl
  · cases (renderAs_rejected rejected w s).symm.trans ran

theorem IsRendered.renderAs {png : Bytes} (h : IsRendered w n png)
    (other : given ≠ .proper n ∨ ∃ e, outcome = .error e) : IsRendered w' n png := by
  have nothing : renderedBy n w (.render s given) = none := by
    by_cases accepts : Accepts given n
    · rcases other with different | ⟨e, rfl⟩
      · exact absurd accepts.1 different
      · rw [renderedBy, if_pos accepts, ran]
        rfl
    · rw [renderedBy, if_neg accepts]
  refine ⟨h.valid, stored_renderAs isRead ran h.valid ?_,
    source_renderAs isRead accepted ran h.valid (.inr h.source)⟩
  rw [givenBy, nothing, Option.none_or]
  exact h.image

end Render

end RayScene.Studio
