import RayScene.Proofs.Wire.Reader

/-!
# Written sections are read back

Each part of the wire text is taken by its reader, and gives what was written: numbers by value,
objects with their defaults, groups as they are. A section of groups is taken as a whole only if no
group is empty; an empty group ends it early (`sectionTokens_gap`).
-/

namespace RayScene

/-- A number with a token that gives its value back: an integer has to be a double. -/
def Number.IsCarried : Number → Prop
  | .int n => n.natAbs < 2 ^ 53
  | .bool _ => True
  | .float _ => True

structure Vec3.IsCarried (v : Vec3) : Prop where
  x : v.x.IsCarried
  y : v.y.IsCarried
  z : v.z.IsCarried

structure Angles.IsCarried (d : Angles) : Prop where
  pitch : d.pitch.IsCarried
  yaw : d.yaw.IsCarried

structure Light.IsCarried (l : Light) : Prop where
  angles : l.angles.IsCarried
  intensity : l.intensity.IsCarried

structure Color.IsCarried (c : Color) : Prop where
  red : c.red.IsCarried
  green : c.green.IsCarried
  blue : c.blue.IsCarried

structure SceneObject.IsCarried (o : SceneObject) : Prop where
  param : o.param.IsCarried
  position : o.position.IsCarried
  direction : o.direction.IsCarried
  color : o.color.IsCarried
  rotation : ∀ v ∈ o.rotation, v.IsCarried
  diffuse : ∀ x ∈ o.diffuse, x.IsCarried
  highlight : ∀ x ∈ o.highlight, x.IsCarried

structure Scene.IsCarried (s : Scene) : Prop where
  angles : s.cameraAngles.IsCarried
  lights : ∀ l ∈ s.lights, l.IsCarried
  objects : ∀ o ∈ s.objects, o.IsCarried

def SceneObject.numbers (o : SceneObject) : List Number :=
  Wire.vector o.param ++ Wire.vector o.position ++ [o.direction] ++ o.diffuse.toList ++
    o.highlight.toList ++ [o.color.red, o.color.green, o.color.blue] ++
    o.rotation.toList.flatMap Wire.vector

/-- The numbers of a scene that are written as they are, which all but the camera position are. -/
def Scene.numbers (s : Scene) : List Number :=
  [s.cameraAngles.pitch, s.cameraAngles.yaw] ++ s.lights.flatMap Wire.lightLine ++
    s.objects.flatMap SceneObject.numbers

theorem Number.isWritable_of_natAbs_lt {n : ℤ} (h : n.natAbs < 2 ^ 53) :
    (Number.int n).IsWritable := by
  have doubles : 2 ^ 53 ≤ 10 ^ 16 := by decide
  exact h.trans_le (doubles.trans (Nat.pow_le_pow_right (by decide) (by decide)))

theorem Number.IsCarried.isWritable {x : Number} (h : x.IsCarried) : x.IsWritable := by
  cases x with
  | int n => exact isWritable_of_natAbs_lt h
  | bool b => trivial
  | float x => trivial

theorem SceneObject.IsCarried.numbers {o : SceneObject} (h : o.IsCarried) :
    ∀ x ∈ o.numbers, x.IsCarried := by
  obtain ⟨param, position, direction, color, rotation, diffuse, highlight⟩ := h
  have ofVector {v : Vec3} (hv : v.IsCarried) : ∀ x ∈ Wire.vector v, x.IsCarried := by
    simp only [Wire.vector, List.forall_mem_cons]
    exact ⟨hv.x, hv.y, hv.z, nofun⟩
  simp only [SceneObject.numbers, List.forall_mem_append, List.forall_mem_cons,
    List.forall_mem_flatMap, Option.mem_toList]
  exact ⟨⟨⟨⟨⟨⟨ofVector param, ofVector position⟩, direction, nofun⟩, diffuse⟩, highlight⟩,
    color.red, color.green, color.blue, nofun⟩, fun v member => ofVector (rotation v member)⟩

theorem Scene.IsCarried.numbers {s : Scene} (h : s.IsCarried) :
    ∀ x ∈ s.numbers, x.IsCarried := by
  simp only [Scene.numbers, List.forall_mem_append, List.forall_mem_cons, List.forall_mem_flatMap,
    Wire.lightLine]
  refine ⟨⟨⟨h.angles.pitch, h.angles.yaw, nofun⟩, fun l member => ?_⟩,
    fun o member => (h.objects o member).numbers⟩
  have light := h.lights l member
  exact ⟨light.angles.pitch, light.angles.yaw, light.intensity, nofun⟩

def Vec3.value (v : Vec3) : Value × Value × Value := (v.x.value, v.y.value, v.z.value)

def Angles.value (d : Angles) : Value × Value := (d.pitch.value, d.yaw.value)

def Color.value (c : Color) : Value × Value × Value := (c.red.value, c.green.value, c.blue.value)

def Light.value (l : Light) : Value × Value × Value :=
  (l.angles.pitch.value, l.angles.yaw.value, l.intensity.value)

namespace Wire

/-- An object as it should be read: plain, matte, with diffuse fraction 1 and highlight 1/2 unless
it says otherwise. -/
def Entry.ofObject (o : SceneObject) : Entry where
  texture := .finite (textureIndex (o.texture.getD .plain))
  shape := .finite (shapeIndex o.shape)
  reflection := .finite (reflectionIndex (o.reflection.getD .matte))
  param := o.param.value
  position := o.position.value
  direction := o.direction.value
  diffuse := (o.diffuse.map Number.value).getD (.finite 1)
  highlight := (o.highlight.map Number.value).getD (.finite (1 / 2))
  color := o.color.value
  rotation := o.rotation.map Vec3.value

/-- A scene as it should be read, with this camera position and these nets. The one group of nets
names all of them. -/
def Reading.ofScene (s : Scene) (camera : Float × Float × Float) (nets : List (List ℤ)) :
    Reading where
  camera := (Double.value camera.1, Double.value camera.2.1, Double.value camera.2.2)
  angles := s.cameraAngles.value
  lights := s.lights.map Light.value
  entries := s.objects.map Entry.ofObject
  nets := nets
  orNets := [99 :: (List.range nets.length).map Int.ofNat]

namespace Reader

variable {α β : Type}

theorem ofChars?_spelled {x : Number} (h : x.IsCarried) :
    Value.ofChars? x.spelled.toList = some x.value := by
  cases x with
  | int n => exact Value.ofChars?_integer h
  | bool b =>
    -- A truth value has the token of the integer that it stands for.
    cases b with
    | false =>
      have read := Value.ofChars?_integer (n := 0) (by decide)
      rw [Int.cast_zero] at read
      exact read
    | true =>
      have read := Value.ofChars?_integer (n := 1) (by decide)
      rw [Int.cast_one] at read
      exact read
  | float x => exact Value.ofChars?_floatToken x

theorem takes_number_line {x : Number} {xs : List Number} {next : Value → Reader β} {b : β}
    (h : x.IsCarried) (others : Takes (next x.value) (numberTokens xs) b) :
    Takes (number >>= next) (numberTokens (x :: xs)) b :=
  (takes_token (ofChars?_spelled h)).bind others

theorem takes_triple_line {x y z : Number} {xs : List Number}
    {next : Value × Value × Value → Reader β} {b : β} (hx : x.IsCarried) (hy : y.IsCarried)
    (hz : z.IsCarried) (others : Takes (next (x.value, y.value, z.value)) (numberTokens xs) b) :
    Takes (triple >>= next) (numberTokens (x :: y :: z :: xs)) b := by
  have numbers : Takes triple (numberTokens [x, y, z]) (x.value, y.value, z.value) :=
    takes_number_line hx (takes_number_line hy (takes_number_line hz (Takes.pure _)))
  exact numbers.bind others

theorem takes_triple {x y z : Number} (hx : x.IsCarried) (hy : y.IsCarried) (hz : z.IsCarried) :
    Takes triple (numberTokens [x, y, z]) (x.value, y.value, z.value) :=
  takes_number_line hx (takes_number_line hy (takes_number_line hz (Takes.pure _)))

theorem takes_pair {x y : Number} (hx : x.IsCarried) (hy : y.IsCarried) :
    Takes pair (numberTokens [x, y]) (x.value, y.value) :=
  takes_number_line hx (takes_number_line hy (Takes.pure _))

theorem takes_count (n : Nat) : Takes count (numberTokens [.int n]) n := by
  have read : Takes integer (numberTokens [.int n]) n := takes_token (Decimal.integer?_toString n)
  refine read.bind ?_
  rw [if_pos (Int.natCast_nonneg n), Int.toNat_natCast]
  exact Takes.pure n

/-! ### Objects -/

theorem value_defaultHighlight : defaultHighlight.value = .finite (1 / 2) := by
  have magnitude : Double.magnitude 0.5 = 4602678819172646912 := by decide +kernel
  have positive : Double.isNegative 0.5 = false := by decide +kernel
  have parts : Double.parts 4602678819172646912 = (4503599627370496, -53) := by decide +kernel
  show Double.value 0.5 = _
  rw [Double.value, Double.isFinite, magnitude, positive, if_pos (by decide), Double.ratio, parts]
  norm_num

theorem value_defaultDiffuse : defaultDiffuse.value = .finite 1 := by
  show Value.finite ((1 : ℤ) : ℚ) = _
  rw [Int.cast_one]

theorem natAbs_textureIndex (t : Texture) : (textureIndex t).natAbs < 2 ^ 53 := by
  cases t <;> decide

theorem natAbs_shapeIndex (k : Shape) : (shapeIndex k).natAbs < 2 ^ 53 := by
  cases k <;> decide

theorem natAbs_reflectionIndex (r : Reflection) : (reflectionIndex r).natAbs < 2 ^ 53 := by
  cases r <;> decide

/-- A record starts with the number of a texture, which is not the sentinel. -/
theorem starts_record (r : Record) : Starts (numberTokens r.line) := by
  refine ⟨_, _, rfl, ?_⟩
  show Decimal.integer? (toString (textureIndex r.texture)).toList ≠ some sentinel
  rw [Decimal.integer?_toString]
  cases r.texture <;> decide

/-- The line of an object ends with its rotation, after the flag 1 further in front. -/
theorem takes_rotation (r : Option Vec3) : (∀ v ∈ r, v.IsCarried) →
    Takes (rotation (Number.int (if r.isSome then 1 else 0)).value)
      (numberTokens (match r with
        | some v => vector v
        | none => [])) (r.map Vec3.value) := by
  intro h
  cases r with
  | none =>
    have flag : (Number.int 0).value ≠ .finite 1 := by simp [Number.value]
    show Takes (rotation (Number.int 0).value) [] none
    rw [rotation, if_neg flag]
    exact Takes.pure none
  | some v =>
    have flag : (Number.int 1).value = .finite 1 := by simp [Number.value]
    obtain ⟨x, y, z⟩ := h v rfl
    show Takes (rotation (Number.int 1).value) (numberTokens [v.x, v.y, v.z]) (some v.value)
    rw [rotation, if_pos flag]
    exact (takes_triple x y z).map some

theorem diffuse_carried {d : Option Number} (h : ∀ x ∈ d, x.IsCarried) :
    (d.getD defaultDiffuse).IsCarried ∧
      (d.getD defaultDiffuse).value = (d.map Number.value).getD (.finite 1) := by
  cases d with
  | none => exact ⟨by show 1 < 2 ^ 53; decide, value_defaultDiffuse⟩
  | some x => exact ⟨h x rfl, rfl⟩

theorem highlight_carried {d : Option Number} (h : ∀ x ∈ d, x.IsCarried) :
    (d.getD defaultHighlight).IsCarried ∧
      (d.getD defaultHighlight).value = (d.map Number.value).getD (.finite (1 / 2)) := by
  cases d with
  | none => exact ⟨trivial, value_defaultHighlight⟩
  | some x => exact ⟨h x rfl, rfl⟩

theorem takes_entry {o : SceneObject} (h : o.IsCarried) :
    Takes entry (numberTokens (Record.ofObject o).line) (Entry.ofObject o) := by
  obtain ⟨carriedDiffuse, sameDiffuse⟩ := diffuse_carried h.diffuse
  obtain ⟨carriedHighlight, sameHighlight⟩ := highlight_carried h.highlight
  have flag : (Number.int (if o.rotation.isSome then 1 else 0)).IsCarried := by
    show (if o.rotation.isSome then (1 : ℤ) else 0).natAbs < 2 ^ 53
    split <;> decide
  refine takes_number_line (natAbs_textureIndex _) (takes_number_line (natAbs_shapeIndex _)
    (takes_number_line (natAbs_reflectionIndex _) (takes_number_line flag ?_)))
  refine takes_triple_line h.param.x h.param.y h.param.z
    (takes_triple_line h.position.x h.position.y h.position.z ?_)
  refine takes_number_line h.direction (takes_number_line carriedDiffuse
    (takes_number_line carriedHighlight ?_))
  refine takes_triple_line h.color.red h.color.green h.color.blue ?_
  rw [Entry.ofObject, ← sameDiffuse, ← sameHighlight]
  rw [← List.append_nil (numberTokens _)]
  exact (takes_rotation o.rotation h.rotation).bind (Takes.pure _)
/-! ### Groups -/

def groupTokens (g : List ℤ) : List (List Char) :=
  (g.flatMap fun i => [(toString i).toList]) ++ [sentinelToken]

def sectionTokens (gs : List (List ℤ)) : List (List Char) :=
  gs.flatMap groupTokens ++ [sentinelToken]

theorem lineTokens_netLine (g : List ℤ) : lineTokens (.indices (netLine g)) = groupTokens g := by
  show (g ++ [sentinel]).map (fun n => (toString n).toList) = _
  rw [List.map_append, groupTokens, ← List.map_eq_flatMap]
  rfl

theorem takes_group {g : List ℤ} (h : sentinel ∉ g) : Takes group (groupTokens g) g := by
  have pieces : ∀ i ∈ g,
      Starts [(toString i).toList] ∧ Takes integer [(toString i).toList] (id i) := by
    intro i member
    have read := Decimal.integer?_toString i
    refine ⟨⟨_, _, rfl, ?_⟩, takes_token read⟩
    rw [read]
    intro same
    exact h (Option.some.inj same ▸ member)
  have taken := takes_closed (fun i => [(toString i).toList]) id g pieces
  rwa [List.map_id] at taken

theorem starts_group {g : List ℤ} (h : sentinel ∉ g) (nonempty : g ≠ []) :
    Starts (groupTokens g) := by
  obtain ⟨i, rest, rfl⟩ := List.exists_cons_of_ne_nil nonempty
  refine ⟨(toString i).toList, _, rfl, ?_⟩
  rw [Decimal.integer?_toString]
  intro same
  exact h (Option.some.inj same ▸ List.mem_cons_self)

theorem takes_groups {gs : List (List ℤ)} (h : ∀ g ∈ gs, sentinel ∉ g) (full : [] ∉ gs) :
    Takes (closed group) (sectionTokens gs) gs := by
  have pieces : ∀ g ∈ gs, Starts (groupTokens g) ∧ Takes group (groupTokens g) (id g) := by
    intro g member
    have nonempty : g ≠ [] := fun empty => full (empty ▸ member)
    exact ⟨starts_group (h g member) nonempty, takes_group (h g member)⟩
  have taken := takes_closed groupTokens id gs pieces
  rwa [List.map_id] at taken

/-- An empty group is a sentinel like the one at the end of a section. -/
theorem sectionTokens_gap (front back : List (List ℤ)) :
    sectionTokens (front ++ [] :: back) = sectionTokens front ++ sectionTokens back := by
  rw [sectionTokens, List.flatMap_append, List.flatMap_cons, sectionTokens, sectionTokens,
    List.append_assoc, List.append_assoc, List.append_assoc]
  rfl

/-- A section with an empty group is taken up to the first one. -/
theorem takes_groups_gap {gs : List (List ℤ)} (h : ∀ g ∈ gs, sentinel ∉ g) (gap : [] ∈ gs) :
    ∃ front back, gs = front ++ [] :: back ∧
      ∀ rest, closed group (sectionTokens gs ++ rest) =
        some (front, sectionTokens back ++ rest) := by
  obtain ⟨front, back, rfl, full⟩ := List.eq_append_cons_of_mem gap
  refine ⟨front, back, rfl, ?_⟩
  intro rest
  have taken := takes_groups (fun g member => h g (List.mem_append_left _ member)) full
  rw [sectionTokens_gap, List.append_assoc]
  exact taken _

/-- Of any section a part is taken. -/
theorem takes_groups_part {gs : List (List ℤ)} (h : ∀ g ∈ gs, sentinel ∉ g) :
    ∃ front left, ∀ rest, closed group (sectionTokens gs ++ rest) = some (front, left ++ rest) := by
  by_cases gap : [] ∈ gs
  · obtain ⟨front, back, _, taken⟩ := takes_groups_gap h gap
    exact ⟨front, sectionTokens back, taken⟩
  · exact ⟨gs, [], takes_groups h gap⟩

end Reader

/-! ### Whole texts -/

def ofScene (s : Scene) (camera : Float × Float × Float) (nets : List (List ℤ)) : Wire where
  camera := camera
  angles := s.cameraAngles
  lights := s.lights
  records := s.objects.map Record.ofObject
  nets := nets

theorem Record.isWritable_line_iff (o : SceneObject) :
    (∀ x ∈ (Record.ofObject o).line, x.IsWritable) ↔ ∀ x ∈ o.numbers, x.IsWritable := by
  have small {n : ℤ} (h : n.natAbs < 2 ^ 53) := Number.isWritable_of_natAbs_lt h
  have texture := small (Reader.natAbs_textureIndex (o.texture.getD .plain))
  have shape := small (Reader.natAbs_shapeIndex o.shape)
  have reflection := small (Reader.natAbs_reflectionIndex (o.reflection.getD .matte))
  have zero : (Number.int 0).IsWritable := small (by decide)
  have one : (Number.int 1).IsWritable := small (by decide)
  have diffuse : (o.diffuse.getD defaultDiffuse).IsWritable ↔ ∀ x ∈ o.diffuse, x.IsWritable := by
    cases o.diffuse with
    | none => exact iff_of_true one nofun
    | some x => simp
  have highlight :
      (o.highlight.getD defaultHighlight).IsWritable ↔ ∀ x ∈ o.highlight, x.IsWritable := by
    cases o.highlight with
    | none => exact iff_of_true trivial nofun
    | some x => simp
  cases rotation : o.rotation <;>
    simp [Record.line, Record.ofObject, defaultTexture, defaultReflection, texture, shape,
      reflection, zero, one, diffuse, highlight, SceneObject.numbers, rotation, or_imp, forall_and]

theorem isWritable_ofScene_iff (s : Scene) (camera : Float × Float × Float)
    (nets : List (List ℤ)) :
    (ofScene s camera nets).IsWritable ↔ ∀ x ∈ s.numbers, x.IsWritable := by
  have record (o : SceneObject) :
      Line.IsWritable (.numbers (Record.ofObject o).line) ↔ ∀ x ∈ o.numbers, x.IsWritable :=
    Record.isWritable_line_iff o
  have float (x : Float) : (Number.float x).IsWritable := trivial
  have index (values : List ℤ) : Line.IsWritable (.indices values) := trivial
  simp only [IsWritable, lines, ofScene, Wire.closed, List.forall_mem_append, List.forall_mem_cons,
    List.forall_mem_map, List.map_map, Function.comp, record, index, Scene.numbers,
    List.forall_mem_flatMap]
  simp [Line.IsWritable, float]

theorem text?_ofScene {s : Scene} (h : s.IsCarried) (camera : Float × Float × Float)
    (nets : List (List ℤ)) :
    (ofScene s camera nets).text? = some (ofScene s camera nets).spelled :=
  (text?_eq_some_iff _ _).mpr ⟨(isWritable_ofScene_iff s camera nets).mpr fun x member =>
    (h.numbers x member).isWritable, rfl⟩

def allNetsGroup (count : Nat) : List ℤ := allNets :: (List.range count).map Int.ofNat

namespace Reader

theorem tokens_ofScene (s : Scene) (camera : Float × Float × Float) (nets : List (List ℤ)) :
    tokens (ofScene s camera nets).spelled.toList =
      numberTokens [.float camera.1, .float camera.2.1, .float camera.2.2] ++
      (numberTokens [s.cameraAngles.pitch, s.cameraAngles.yaw] ++
      (numberTokens [.int s.lights.length] ++
      (s.lights.flatMap (fun l => numberTokens (lightLine l)) ++
      (s.objects.flatMap (fun o => numberTokens (Record.ofObject o).line) ++ [sentinelToken] ++
      (sectionTokens nets ++ sectionTokens [allNetsGroup nets.length]))))) := by
  have groups : nets.flatMap (fun net => lineTokens (.indices (netLine net))) =
      nets.flatMap groupTokens :=
    congrArg (nets.flatMap ·) (funext lineTokens_netLine)
  have all : lineTokens (.indices (allNetsLine nets.length)) =
      groupTokens (allNetsGroup nets.length) :=
    lineTokens_netLine (allNetsGroup nets.length)
  rw [tokens_spelled]
  simp only [ofScene, lines, Wire.closed, List.flatMap_append, List.flatMap_cons, List.flatMap_nil,
    List.flatMap_map, List.append_nil, groups, all, sectionTokens, List.append_assoc]
  rfl

/-- What comes before the nets is read as the scene says. -/
theorem reading_ofScene {s : Scene} (h : s.IsCarried) (camera : Float × Float × Float)
    (nets : List (List ℤ)) :
    readPrefix (ofScene s camera nets).spelled =
      (do
        let read ← closed group
        let orNets ← closed group
        return { Reading.ofScene s camera [] with nets := read, orNets } : Reader Reading)
        (sectionTokens nets ++ sectionTokens [allNetsGroup nets.length]) := by
  have position := takes_triple (x := .float camera.1) (y := .float camera.2.1)
    (z := .float camera.2.2) trivial trivial trivial
  have lights := takes_times (fun l => numberTokens (lightLine l)) Light.value s.lights
    fun l member => takes_triple (h.lights l member).angles.pitch (h.lights l member).angles.yaw
      (h.lights l member).intensity
  have entries := takes_closed (fun o => numberTokens (Record.ofObject o).line) Entry.ofObject
    s.objects fun o member => ⟨starts_record _, takes_entry (h.objects o member)⟩
  rw [readPrefix, tokens_ofScene, reading]
  rw [position.step, (takes_pair h.angles.pitch h.angles.yaw).step, (takes_count _).step,
    lights.step, entries.step]
  rfl

theorem sentinel_notMem_allNetsGroup (count : Nat) : sentinel ∉ allNetsGroup count := by
  intro member
  rcases List.mem_cons.mp member with same | member
  · exact absurd same (by decide)
  · obtain ⟨i, _, same⟩ := List.mem_map.mp member
    cases same

end Reader

section Prefix

open Reader

variable {s : Scene} {nets : List (List ℤ)}

theorem readPrefix_full (h : s.IsCarried) (camera : Float × Float × Float)
    (inner : ∀ net ∈ nets, sentinel ∉ net) (full : [] ∉ nets) :
    readPrefix (ofScene s camera nets).spelled = some (Reading.ofScene s camera nets, []) := by
  have innerAll : ∀ g ∈ [allNetsGroup nets.length], sentinel ∉ g := by
    intro g member
    rw [List.mem_singleton.mp member]
    exact sentinel_notMem_allNetsGroup nets.length
  have fullAll : [] ∉ [allNetsGroup nets.length] := by
    intro member
    cases List.mem_singleton.mp member
  have last := (takes_groups innerAll fullAll) []
  rw [List.append_nil] at last
  rw [reading_ofScene h, (takes_groups inner full).step, bind_eq last]
  rfl

/-- If a net is empty, the nets end at the first such net and the nets of nets within what is left
of the section. -/
theorem readPrefix_gap (h : s.IsCarried) (camera : Float × Float × Float)
    (inner : ∀ net ∈ nets, sentinel ∉ net) (gap : [] ∈ nets) :
    ∃ front orNets t rest, readPrefix (ofScene s camera nets).spelled =
      some ({ Reading.ofScene s camera [] with nets := front, orNets }, t :: rest) := by
  obtain ⟨front, back, same, taken⟩ := takes_groups_gap inner gap
  have innerBack : ∀ g ∈ back, sentinel ∉ g := fun g member =>
    inner g (same ▸ List.mem_append_right _ (List.mem_cons_of_mem _ member))
  obtain ⟨orNets, left, takenBack⟩ := takes_groups_part innerBack
  rw [reading_ofScene h, bind_eq (taken _), bind_eq (takenBack _)]
  cases left with
  | nil => exact ⟨front, orNets, _, _, rfl⟩
  | cons t rest => exact ⟨front, orNets, _, _, rfl⟩

/-- The text of a scene is read back as that scene if no net is empty. Otherwise the nets end early
and something is left over. -/
theorem read_ofScene (h : s.IsCarried) (camera : Float × Float × Float)
    (inner : ∀ net ∈ nets, sentinel ∉ net) :
    read (ofScene s camera nets).spelled =
      if [] ∈ nets then none else some (Reading.ofScene s camera nets) := by
  split
  · rename_i gap
    obtain ⟨front, orNets, t, rest, left⟩ := readPrefix_gap h camera inner gap
    rw [read, left]
  · rename_i full
    rw [read, readPrefix_full h camera inner full]

/-- Whether or not a net is empty, the record of each object is read. -/
theorem exists_readPrefix_ofScene (h : s.IsCarried) (camera : Float × Float × Float)
    (inner : ∀ net ∈ nets, sentinel ∉ net) :
    ∃ r rest, readPrefix (ofScene s camera nets).spelled = some (r, rest) ∧
      r.entries = s.objects.map Entry.ofObject := by
  by_cases gap : [] ∈ nets
  · obtain ⟨front, orNets, t, rest, left⟩ := readPrefix_gap h camera inner gap
    exact ⟨_, _, left, rfl⟩
  · exact ⟨_, _, readPrefix_full h camera inner gap, rfl⟩

end Prefix

end Wire

end RayScene
