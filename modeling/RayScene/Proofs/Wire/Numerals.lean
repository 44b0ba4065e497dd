import RayScene.Proofs.Wire.RoundTrip

/-!
# The numerals of a compiled text

All that a wire text holds are numbers. If those of the scene and of its camera position are finite,
every token of the text spells an integer or a finite number (`isNumeral_of_mem_tokens`).
-/

namespace RayScene

/-- Not an infinite double, nor NaN. -/
def Number.IsFinite : Number → Prop
  | .int _ => True
  | .bool _ => True
  | .float x => Double.isFinite x = true

theorem Number.IsFiniteFloat.isFinite {n : Number} (h : n.IsFiniteFloat) : n.IsFinite := by
  obtain ⟨x, rfl, finite⟩ := h
  exact finite

def IsNumeral (t : List Char) : Prop :=
  (∃ n, Decimal.integer? t = some n) ∨ ∃ q, Value.ofChars? t = some (.finite q)

theorem isNumeral_spelled {x : Number} (h : x.IsFinite) : IsNumeral x.spelled.toList := by
  cases x with
  | int n => exact .inl ⟨n, Decimal.integer?_toString n⟩
  | bool b =>
    cases b with
    | false => exact .inl ⟨0, Decimal.integer?_toString 0⟩
    | true => exact .inl ⟨1, Decimal.integer?_toString 1⟩
  | float x =>
    have finite : Double.isFinite x = true := h
    have value : ∃ q, Double.value x = .finite q := ⟨_, by rw [Double.value, if_pos finite]⟩
    obtain ⟨q, value⟩ := value
    exact .inr ⟨q, (Value.ofChars?_floatToken x).trans (congrArg some value)⟩

namespace Wire

/-- The numbers of a line that are not places or counts are finite. -/
def Line.IsFinite : Line → Prop
  | .numbers values => ∀ x ∈ values, x.IsFinite
  | .indices _ => True

theorem isNumeral_of_mem_line {line : Line} (h : line.IsFinite) {t : List Char}
    (member : t ∈ lineTokens line) : IsNumeral t := by
  cases line with
  | numbers values =>
    obtain ⟨x, inLine, rfl⟩ := List.mem_map.mp member
    exact isNumeral_spelled (h x inLine)
  | indices values =>
    obtain ⟨n, _, rfl⟩ := List.mem_map.mp member
    exact .inl ⟨n, Decimal.integer?_toString n⟩

theorem isFinite_vector {v : Vec3} (h : v.IsFinite) : ∀ x ∈ vector v, x.IsFinite := by
  obtain ⟨x, y, z⟩ := h
  rw [vector, List.forall_mem_cons, List.forall_mem_cons, List.forall_mem_singleton]
  exact ⟨x.isFinite, y.isFinite, z.isFinite⟩

theorem isFinite_lightLine {l : Light} (h : l.IsFinite) : ∀ x ∈ lightLine l, x.IsFinite := by
  obtain ⟨⟨pitch, yaw⟩, intensity⟩ := h
  rw [lightLine, List.forall_mem_cons, List.forall_mem_cons, List.forall_mem_singleton]
  exact ⟨pitch.isFinite, yaw.isFinite, intensity.isFinite⟩

theorem isFinite_getD {d : Option Number} {default : Number} (h : ∀ x ∈ d, x.IsFiniteFloat)
    (finite : default.IsFinite) : (d.getD default).IsFinite := by
  cases d with
  | none => exact finite
  | some x => exact (h x rfl).isFinite

theorem isFinite_record {o : SceneObject} (h : o.IsFinite) :
    ∀ x ∈ (Record.ofObject o).line, x.IsFinite := by
  have diffuse : (o.diffuse.getD defaultDiffuse).IsFinite := isFinite_getD h.diffuse trivial
  have highlight : (o.highlight.getD defaultHighlight).IsFinite := by
    refine isFinite_getD h.highlight ?_
    show Double.isFinite 0.5 = true
    decide +kernel
  simp only [Record.line, List.forall_mem_append, List.forall_mem_cons]
  refine ⟨⟨⟨⟨⟨⟨trivial, trivial, trivial, trivial, List.forall_mem_nil _⟩,
    isFinite_vector h.param⟩, isFinite_vector h.position⟩,
    h.direction.isFinite, diffuse, highlight, List.forall_mem_nil _⟩,
    h.color.red.isFinite, h.color.green.isFinite, h.color.blue.isFinite, List.forall_mem_nil _⟩, ?_⟩
  cases rotation : o.rotation with
  | none =>
    rw [Record.ofObject, rotation]
    exact List.forall_mem_nil _
  | some v =>
    rw [Record.ofObject, rotation]
    exact isFinite_vector (h.rotation v rotation)

variable {s : Scene} {x y z : Float} {nets : List (List ℤ)}

theorem isFinite_closed {lines : List Line} (finite : ∀ line ∈ lines, line.IsFinite) :
    ∀ line ∈ Wire.closed lines, line.IsFinite :=
  List.forall_mem_append.mpr ⟨finite, List.forall_mem_singleton.mpr trivial⟩

theorem isFinite_lines (h : s.IsFinite) (hx : Double.isFinite x = true)
    (hy : Double.isFinite y = true) (hz : Double.isFinite z = true) :
    ∀ line ∈ (ofScene s (x, y, z) nets).lines, line.IsFinite := by
  have camera : Line.IsFinite (.numbers [.float x, .float y, .float z]) :=
    List.forall_mem_cons.mpr ⟨hx, List.forall_mem_cons.mpr ⟨hy, List.forall_mem_singleton.mpr hz⟩⟩
  have angles : Line.IsFinite (.numbers [s.cameraAngles.pitch, s.cameraAngles.yaw]) :=
    List.forall_mem_cons.mpr ⟨h.angles.1.isFinite, List.forall_mem_singleton.mpr h.angles.2.isFinite⟩
  have lights : ∀ line ∈ s.lights.map fun l => Line.numbers (lightLine l), line.IsFinite :=
    List.forall_mem_map.mpr fun l member => isFinite_lightLine (h.lights l member)
  have records : ∀ line ∈ (s.objects.map Record.ofObject).map fun r => Line.numbers r.line,
      line.IsFinite := by
    rw [List.map_map]
    exact List.forall_mem_map.mpr fun o member => isFinite_record (h.objects o member)
  have netLines : ∀ line ∈ nets.map fun net => Line.indices (netLine net), line.IsFinite :=
    List.forall_mem_map.mpr fun _ _ => trivial
  unfold lines ofScene
  iterate 4 rw [List.forall_mem_append]
  refine ⟨⟨⟨⟨?first, lights⟩, isFinite_closed records⟩, isFinite_closed netLines⟩, ?last⟩
  case first =>
    refine List.forall_mem_cons.mpr ⟨camera, List.forall_mem_cons.mpr ⟨angles, ?_⟩⟩
    exact List.forall_mem_singleton.mpr trivial
  case last => exact List.forall_mem_cons.mpr ⟨trivial, List.forall_mem_singleton.mpr trivial⟩

theorem isNumeral_of_mem_tokens (h : s.IsFinite) (hx : Double.isFinite x = true)
    (hy : Double.isFinite y = true) (hz : Double.isFinite z = true) {text : String}
    (written : (ofScene s (x, y, z) nets).text? = some text) {t : List Char}
    (member : t ∈ tokens text.toList) : IsNumeral t := by
  rw [tokens_text written] at member
  obtain ⟨line, inText, inLine⟩ := List.mem_flatMap.mp member
  exact isNumeral_of_mem_line (isFinite_lines h hx hy hz line inText) inLine

end Wire

end RayScene
