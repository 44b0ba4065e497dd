import RayScene.Proofs.Wire.Tokens

/-!
# The reader of the renderer

The renderer takes the tokens in order and knows no lengths but the light count: sections and groups
go on up to a token -1 where an item could start. `Wire.read` is what a text says in this way, if
nothing is left of it.
-/

namespace RayScene.Wire

abbrev Reader := StateT (List (List Char)) Option

namespace Reader

variable {α : Type}

def token (read? : List Char → Option α) : Reader α
  | [] => none
  | t :: rest => (read? t).map (·, rest)

def number : Reader Value := token Value.ofChars?

def integer : Reader ℤ := token Decimal.integer?

def count : Reader Nat := do
  let n ← integer
  if 0 ≤ n then return n.toNat else failure

def times (item : Reader α) : Nat → Reader (List α)
  | 0 => return []
  | n + 1 => do
    let first ← item
    let others ← times item n
    return first :: others

/-- Reads items up to a sentinel where an item could start. An item takes some token. -/
def closed (item : Reader α) : Reader (List α)
  | [] => none
  | t :: rest =>
    if Decimal.integer? t = some sentinel then some ([], rest)
    else
      match item (t :: rest) with
      | none => none
      | some (first, after) =>
        if after.length ≤ rest.length then
          (closed item after).map fun (others, left) => (first :: others, left)
        else none
termination_by tokens => tokens.length

def triple : Reader (Value × Value × Value) := do return (← number, ← number, ← number)

def pair : Reader (Value × Value) := do return (← number, ← number)

end Reader

structure Entry where
  texture : Value
  shape : Value
  reflection : Value
  param : Value × Value × Value
  position : Value × Value × Value
  direction : Value
  diffuse : Value
  highlight : Value
  color : Value × Value × Value
  rotation : Option (Value × Value × Value)
deriving DecidableEq

structure Reading where
  camera : Value × Value × Value
  angles : Value × Value
  lights : List (Value × Value × Value)
  entries : List Entry
  nets : List (List ℤ)
  orNets : List (List ℤ)
deriving DecidableEq

namespace Reader

def rotation (flag : Value) : Reader (Option (Value × Value × Value)) :=
  if flag = .finite 1 then some <$> triple else return none

/-- Reads an object: 16 numbers, and 3 more if the fourth one is 1. -/
def entry : Reader Entry := do
  let texture ← number
  let shape ← number
  let reflection ← number
  let flag ← number
  let param ← triple
  let position ← triple
  let direction ← number
  let diffuse ← number
  let highlight ← number
  let color ← triple
  let rotation ← rotation flag
  return { texture, shape, reflection, param, position, direction, diffuse, highlight, color,
           rotation }

def group : Reader (List ℤ) := closed integer

/-- Reads the sections in order. A section of groups ends with an empty group. -/
def reading : Reader Reading := do
  let camera ← triple
  let angles ← pair
  let lights ← times triple (← count)
  let entries ← closed entry
  let nets ← closed group
  let orNets ← closed group
  return { camera, angles, lights, entries, nets, orNets }

end Reader

/-- What a text says and the tokens after it. -/
def readPrefix (text : String) : Option (Reading × List (List Char)) :=
  Reader.reading (tokens text.toList)

def read (text : String) : Option Reading :=
  match readPrefix text with
  | some (reading, []) => some reading
  | _ => none

namespace Reader

variable {α β γ : Type}

/-! ### Printed items -/

/-- The reader takes exactly these tokens, whatever follows them. -/
def Takes (item : Reader α) (printed : List (List Char)) (a : α) : Prop :=
  ∀ rest, item (printed ++ rest) = some (a, rest)

theorem Takes.pure (a : α) : Takes (pure a : Reader α) [] a := fun _ => rfl

theorem bind_eq {item : Reader α} {ts rest : List (List Char)} {a : α}
    (h : item ts = some (a, rest)) (next : α → Reader β) : (item >>= next) ts = next a rest := by
  show (item ts).bind (fun (a, left) => next a left) = next a rest
  rw [h]
  rfl

theorem Takes.step {item : Reader α} {ps : List (List Char)} {a : α} (taken : Takes item ps a)
    (next : α → Reader β) (rest : List (List Char)) : (item >>= next) (ps ++ rest) = next a rest :=
  bind_eq (taken rest) next

theorem Takes.bind {item : Reader α} {next : α → Reader β} {ps qs : List (List Char)} {a : α}
    {b : β} (first : Takes item ps a) (second : Takes (next a) qs b) :
    Takes (item >>= next) (ps ++ qs) b := by
  intro rest
  rw [List.append_assoc, first.step next]
  exact second rest

theorem Takes.map {item : Reader α} {ps : List (List Char)} {a : α} (f : α → β)
    (taken : Takes item ps a) : Takes (f <$> item) ps (f a) := by
  intro rest
  show (item (ps ++ rest)).bind (fun (a, left) => some (f a, left)) = some (f a, rest)
  rw [taken rest]
  rfl

theorem takes_token {read? : List Char → Option α} {t : List Char} {a : α} (h : read? t = some a) :
    Takes (token read?) [t] a := by
  intro rest
  show (read? t).map (·, rest) = some (a, rest)
  rw [h]
  rfl

theorem takes_times {item : Reader α} (print : β → List (List Char)) (value : β → α) :
    ∀ bs : List β, (∀ b ∈ bs, Takes item (print b) (value b)) →
      Takes (times item bs.length) (bs.flatMap print) (bs.map value)
  | [], _ => Takes.pure []
  | b :: bs, h => by
    have first := h b List.mem_cons_self
    have others := takes_times print value bs fun b' member => h b' (List.mem_cons_of_mem _ member)
    rw [List.flatMap_cons, ← List.append_nil (bs.flatMap print)]
    exact first.bind (others.bind (Takes.pure _))

def sentinelToken : List Char := (toString sentinel).toList

/-- Tokens of an item that cannot be taken for the end of a section. -/
def Starts (printed : List (List Char)) : Prop :=
  ∃ t rest, printed = t :: rest ∧ Decimal.integer? t ≠ some sentinel

theorem closed_sentinel (item : Reader α) (rest : List (List Char)) :
    closed item (sentinelToken :: rest) = some ([], rest) := by
  have ends : Decimal.integer? sentinelToken = some sentinel := Decimal.integer?_toString sentinel
  rw [closed, if_pos ends]

theorem closed_item {item : Reader α} {printed : List (List Char)} {a : α} (starts : Starts printed)
    (taken : Takes item printed a) (rest : List (List Char)) :
    closed item (printed ++ rest) =
      (closed item rest).map fun (others, left) => (a :: others, left) := by
  obtain ⟨t, more, rfl, different⟩ := starts
  have step := taken rest
  rw [List.cons_append] at step ⊢
  rw [closed, if_neg different, step]
  dsimp only
  rw [if_pos (by rw [List.length_append]; omega)]

theorem takes_closed {item : Reader α} (print : β → List (List Char)) (value : β → α) (bs : List β)
    (h : ∀ b ∈ bs, Starts (print b) ∧ Takes item (print b) (value b)) :
    Takes (closed item) (bs.flatMap print ++ [sentinelToken]) (bs.map value) := by
  intro rest
  induction bs with
  | nil => exact closed_sentinel item rest
  | cons b bs ih =>
    obtain ⟨starts, taken⟩ := h b List.mem_cons_self
    rw [List.flatMap_cons, List.append_assoc, List.append_assoc, closed_item starts taken,
      ← List.append_assoc, ih fun b' member => h b' (List.mem_cons_of_mem _ member)]
    rfl

end Reader

end RayScene.Wire
