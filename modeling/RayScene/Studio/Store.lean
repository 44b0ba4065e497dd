import RayScene.Scene.Source
import RayScene.Studio.Pipeline
import RayScene.Text.Base64

/-!
# The store

Scenes are stored by name in the directory for images: the source and the image of a scene are two
files of that name. Names are checked first, so that no name leads out of the directory.
-/

namespace RayScene

namespace ArtifactName

def isPart (c : Char) : Bool := c.isAlphanum || c = '_' || c = '.' || c = '-'

/-- Names have at least one character, all of them parts of names, and no point in front. -/
def isValid (name : String) : Bool :=
  match name.toList with
  | [] => false
  | c :: rest => c ≠ '.' && isPart c && rest.all isPart

end ArtifactName

def Artifact.ending : Artifact → String
  | source => ".json"
  | image => ".png"

namespace Studio

/-- A name that was given; one that is not valid is a violation. -/
def validName (name : LooseText) : Studio String :=
  match name.proper?.filter ArtifactName.isValid with
  | some name => return name
  | none => fault (.schema .value [⟨[.key "name"], .artifactName⟩])

def pathOf (name : String) (artifact : Artifact) : Studio Path := do
  return (← read fun w => w.settings.imagesDirectory).child (name ++ artifact.ending)

def makeImagesDirectory : Studio (Except AccessError Unit) := do
  let w ← get
  let (files, made) := w.files.makeDirectories w.settings.imagesDirectory
  set { w with files }
  return made

/-- What it amounts to that a scene cannot be stored. -/
def notStored (name : String) : AccessError → Failure :=
  .ofAccess fun e => .fault (.render (.notStored name e))

/-- Stores the source of a scene under a valid name, making the directory if needed. What can go
wrong is what can keep the file from being opened; an error after that, which would leave a part of
the text there, is left out with all that `Files.write` leaves out. -/
def storeSource (s : Scene) (name : String) : Studio Unit := do
  let path ← pathOf name .source
  ofExcept (notStored name) (← makeImagesDirectory)
  unless s.isStorable do throw .notStorable
  let w ← get
  let files ← ofExcept (notStored name) (w.files.write path (Utf8.encode s.source))
  set { w with files }

/-- Stores a scene and its image under a name. Of a scene that does not render the source stays. -/
def renderAs (s : Scene) (name : LooseText) : Studio Bytes := do
  let name ← validName name
  storeSource s name
  let place ← pathOf name .image
  renderTo s (some place.text)

def storedContent (name : LooseText) (artifact : Artifact) : Studio Bytes := do
  let name ← validName name
  let path ← pathOf name artifact
  ofExcept (.ofAccess fun _ => .fault (.missing artifact name)) ((← get).files.read path)

def storedImage (name : LooseText) : Studio Bytes := storedContent name .image

def storedSource (name : LooseText) : Studio String := do
  let content ← storedContent name .source
  ofExcept .malformedText (Utf8.decode content)

/-- The scene that a file name stands for. The name that is nothing but the ending is kept. -/
def sceneOfFile? (file : String) : Option String :=
  let cs := file.toList
  let ending := Artifact.source.ending.toList
  if cs = ending then some file
  else if ending.isSuffixOf cs then some (String.ofList (cs.take (cs.length - ending.length)))
  else none

/-- The names of all stored sources, ascending. -/
def sceneNames : Studio (List String) := do
  let w ← get
  let directory := w.settings.imagesDirectory
  if ← ofExcept .system (w.files.isDirectory directory) then
    return ((w.files.names directory).filterMap sceneOfFile?).mergeSort fun a b => a ≤ b
  else return []

end Studio

end RayScene
