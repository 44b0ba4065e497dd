import RayScene.Scene.Schema

/-!
# Schemas of tool arguments

The model is told in JSON Schema what the arguments of a tool are. The bounds and names in a schema
are those that the checks of scenes use.
-/

namespace RayScene.ToolSchema

def saying (schema : Fields) (key : String) (value : Json) : Fields :=
  schema ++ [(.proper key, value)]

def titled (title : String) (schema : Fields) : Fields := saying schema "title" (.str title)

def described (text : String) (schema : Fields) : Fields :=
  saying schema "description" (.str text)

def ofType (name : String) : Fields := [("type", .str name)]

def numberIn (least most : Int) : Fields :=
  ("maximum", .int most) :: ("minimum", .int least) :: ofType "number"

def reference (name : String) : Fields := [("$ref", .str ("#/$defs/" ++ name))]

def listOf (items : Fields) : Fields := ("items", .obj items) :: ofType "array"

/-- A value that may also be null, which it is if it is left out. -/
def optional (schema : Fields) : Fields :=
  [("anyOf", .arr [.obj schema, .obj (ofType "null")]), ("default", .null)]

def object (properties : List (String × Fields)) (required : List String) : Fields :=
  ("properties", .obj (properties.map fun (key, schema) => (.proper key, .obj schema))) ::
    ("required", .arr (required.map .text)) :: ofType "object"

def closedObject (properties : List (String × Fields)) (required : List String) : Fields :=
  ("additionalProperties", .bool false) :: object properties required

def choice (α : Type) [Named α] : Fields :=
  ("enum", .arr ((Named.names α).map .text)) :: ofType "string"

def definition (name : String) (schema : Fields) : LooseText × Json :=
  (name, .obj (titled name schema))

/-! ### Definitions -/

def shapeName : String := "ObjectShape"

def textureName : String := "TextureType"

def reflectionName : String := "ReflectType"

def anglesSchema : Fields :=
  described "Angles in degrees. a=0, b=0 looks along +z." <| closedObject [
    ("a", described "Pitch in degrees; positive looks down" (titled "A" (numberIn (-90) 90))),
    ("b", described "Yaw in degrees; 90 faces +x, -90 faces -x"
      (titled "B" (numberIn (-180) 180)))]
    Angles.keys

def colorSchema : Fields :=
  closedObject [("r", titled "R" (numberIn 0 255)), ("g", titled "G" (numberIn 0 255)),
    ("b", titled "B" (numberIn 0 255))] Color.keys

def lightSchema : Fields :=
  closedObject [("angle", reference Kind.angles.name),
    ("intensity", described "Light intensity 0-255" (titled "Intensity" (numberIn 0 255)))]
    Light.keys

def vectorSchema : Fields :=
  closedObject [("x", titled "X" (ofType "number")), ("y", titled "Y" (ofType "number")),
    ("z", titled "Z" (ofType "number"))] Vec3.keys

def objectSchema : Fields :=
  closedObject [
    ("name", described "Object name (ID), unique within the scene"
      (titled "Name" (("minLength", .int 1) :: ofType "string"))),
    ("shape", reference shapeName),
    ("param", described ("Meaning depends on shape. Cube: X, Y, Z size. Plane: normal vector. " ++
      "Quad: A, B, C of sgn(A)/(A*A)*X^2 + sgn(B)/(B*B)*Y^2 + sgn(C)/(C*C)*Z^2 = 1; " ++
      "a 0 gives an infinite cylinder along that axis, a negative value a hyperboloid. " ++
      "Cone: exactly one value must be negative; " ++
      "the cone points along that axis with its apex at the origin.")
      (reference Kind.vec3.name)),
    ("position", reference Kind.vec3.name),
    ("direction", described "CSG direction: 1 intersects, -1 subtracts (difference)"
      (titled "Direction" (ofType "number"))),
    ("color", described "RGB, each 0-255" (reference Kind.color.name)),
    ("texture", optional (reference textureName)),
    ("reflect_type", optional (reference reflectionName)),
    ("rotation", described "Rotation in degrees around X, Y, Z"
      (optional (reference Kind.vec3.name))),
    ("diffuse", described ("Fraction of the color reflected, 0-1. Below 1 darkens non-mirror " ++
      "surfaces.") (titled "Diffuse" (optional (numberIn 0 1)))),
    ("highlight", described ("Highlight strength 0-255. Only effective when reflect_type is " ++
      "Normal.") (titled "Highlight" (optional (numberIn 0 255))))]
    (SceneObject.keys.take 6)

def sceneSchema : Fields :=
  closedObject [
    ("camera_position", reference Kind.vec3.name),
    ("camera_angle", reference Kind.angles.name),
    ("lights", described "Lights in the scene. Exactly one is required." <| titled "Lights" <|
      ("maxItems", .int requiredLights) :: ("minItems", .int requiredLights) ::
        listOf (reference Kind.light.name)),
    ("objects", described "Object definitions, at most 60." <| titled "Objects" <|
      ("maxItems", .int maxObjects) :: listOf (reference Kind.sceneObject.name)),
    ("and_nets", described ("AND-nets. Each entry lists object names from `objects`. " ++
      "Objects in no AND-net are drawn on their own; members of a net are drawn as the CSG " ++
      "product (or difference) of its members. An object may belong to several nets.") <|
      titled "And Nets" (listOf (listOf (ofType "string"))))]
    Scene.keys

def definitions : Fields := [
  definition Kind.angles.name anglesSchema,
  definition Kind.color.name colorSchema,
  definition Kind.light.name lightSchema,
  definition shapeName (choice Shape),
  definition reflectionName (choice Reflection),
  definition Kind.scene.name sceneSchema,
  definition Kind.sceneObject.name objectSchema,
  definition textureName (choice Texture),
  definition Kind.vec3.name vectorSchema]

def sceneName : Fields := described "Scene name" (titled "Name" (ofType "string"))

def renderArguments : Json :=
  .obj (("$defs", .obj definitions) :: titled Kind.renderArguments.name (object [
    ("name", sceneName),
    ("content", described "Scene content" (reference Kind.scene.name))]
    ["name", "content"]))

def nameArguments : Json :=
  .obj (titled Kind.nameArguments.name (object [("name", sceneName)] ["name"]))

end RayScene.ToolSchema
