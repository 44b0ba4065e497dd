import Mathlib.Init
import RayScene.Text.Utf8

/-!
# Text and its bytes

The bytes of a text are read back as that text: `decode_encode`. One character is followed through
the states of the scan. That it is no surrogate and below U+110000 is what the bounds on its second
byte ask for.
-/

namespace RayScene.Utf8

theorem toNat_byte {k : Nat} (h : k < 256) : (UInt8.ofNat k).toNat = k := by
  rw [UInt8.toNat_ofNat']
  exact Nat.mod_eq_of_lt h

theorem byte_lt {k : Nat} (h : k < 256) (b : UInt8) : UInt8.ofNat k < b ↔ k < b.toNat := by
  rw [UInt8.lt_iff_toNat_lt, toNat_byte h]

theorem byte_eq {k : Nat} (h : k < 256) (b : UInt8) : UInt8.ofNat k = b ↔ k = b.toNat := by
  rw [← UInt8.toNat_inj, toNat_byte h]

theorem start_byte {k : Nat} (h : k < 256) :
    start (UInt8.ofNat k) =
      if k < 0x80 then .char (Char.ofNat k)
      else if k < 0xC2 then .invalid
      else if k < 0xE0 then .pending ⟨[UInt8.ofNat k], k % 32, 0, 0x80, 0xBF⟩
      else if k < 0xF0 then
        .pending ⟨[UInt8.ofNat k], k % 16, 1, if k = 0xE0 then 0xA0 else 0x80,
          if k = 0xED then 0x9F else 0xBF⟩
      else if k < 0xF5 then
        .pending ⟨[UInt8.ofNat k], k % 8, 2, if k = 0xF0 then 0x90 else 0x80,
          if k = 0xF4 then 0x8F else 0xBF⟩
      else .invalid := by
  unfold start
  simp only [byte_lt h, byte_eq h, toNat_byte h]
  rfl

/-- A byte within the bounds of what is pending adds its six bits. -/
theorem scanFrom_accepted {p : Pending} {k : Nat} (h : k < 64)
    (low : p.least.toNat ≤ k + 0x80) (high : k + 0x80 ≤ p.greatest.toNat) (bs : Bytes) :
    scanFrom (some p) (UInt8.ofNat (k + 0x80) :: bs) =
      match p.further with
      | 0 => .char (Char.ofNat (64 * p.value + k)) :: scanFrom none bs
      | n + 1 => scanFrom (some ⟨UInt8.ofNat (k + 0x80) :: p.seen, 64 * p.value + k, n,
          0x80, 0xBF⟩) bs := by
  have value := toNat_byte (k := k + 0x80) (by omega)
  have accepted : p.accepts (UInt8.ofNat (k + 0x80)) = true := by
    unfold Pending.accepts
    rw [Bool.and_eq_true, decide_eq_true_eq, decide_eq_true_eq, UInt8.le_iff_toNat_le,
      UInt8.le_iff_toNat_le, value]
    exact ⟨low, high⟩
  have bits : (k + 0x80) % 64 = k := by omega
  rw [scanFrom, if_pos accepted, Pending.push, value, bits]
  cases p.further with
  | zero => rfl
  | succ n => rfl

theorem scanFrom_two {v : Nat} (low : 0x80 ≤ v) (high : v ≤ 0x7ff) (bs : Bytes) :
    scanFrom none (UInt8.ofNat (v / 64 % 0x20 + 0xc0) :: UInt8.ofNat (v % 0x40 + 0x80) :: bs) =
      .char (Char.ofNat v) :: scanFrom none bs := by
  have value : 64 * ((v / 64 % 0x20 + 0xc0) % 32) + v % 0x40 = v := by omega
  rw [scanFrom, start_byte (by omega), if_neg (by omega), if_neg (by omega), if_pos (by omega),
    resume, scanFrom_accepted (by omega) (Nat.le_add_left _ _) (by show _ ≤ 191; omega)]
  dsimp only
  rw [value]

theorem scanFrom_three {v : Nat} (low : 0x800 ≤ v) (high : v ≤ 0xffff)
    (noSurrogate : v < 0xD800 ∨ 0xDFFF < v) (bs : Bytes) :
    scanFrom none (UInt8.ofNat (v / 4096 % 0x10 + 0xe0) :: UInt8.ofNat (v / 64 % 0x40 + 0x80) ::
      UInt8.ofNat (v % 0x40 + 0x80) :: bs) = .char (Char.ofNat v) :: scanFrom none bs := by
  have value : 64 * (64 * ((v / 4096 % 0x10 + 0xe0) % 16) + v / 64 % 0x40) + v % 0x40 = v := by
    omega
  rw [scanFrom, start_byte (by omega), if_neg (by omega), if_neg (by omega), if_neg (by omega),
    if_pos (by omega), resume, scanFrom_accepted (by omega) ?least ?greatest]
  case least =>
    dsimp only
    split
    · show 160 ≤ _
      omega
    · exact Nat.le_add_left _ _
  case greatest =>
    dsimp only
    split
    · show _ ≤ 159
      omega
    · show _ ≤ 191
      omega
  dsimp only
  rw [scanFrom_accepted (by omega) (Nat.le_add_left _ _) (by show _ ≤ 191; omega)]
  dsimp only
  rw [value]

theorem scanFrom_four {v : Nat} (low : 0x10000 ≤ v) (high : v < 0x110000) (bs : Bytes) :
    scanFrom none (UInt8.ofNat (v / 262144 % 0x08 + 0xf0) :: UInt8.ofNat (v / 4096 % 0x40 + 0x80) ::
      UInt8.ofNat (v / 64 % 0x40 + 0x80) :: UInt8.ofNat (v % 0x40 + 0x80) :: bs) =
      .char (Char.ofNat v) :: scanFrom none bs := by
  have value : 64 * (64 * (64 * ((v / 262144 % 0x08 + 0xf0) % 8) + v / 4096 % 0x40) +
      v / 64 % 0x40) + v % 0x40 = v := by omega
  rw [scanFrom, start_byte (by omega), if_neg (by omega), if_neg (by omega), if_neg (by omega),
    if_neg (by omega), if_pos (by omega), resume, scanFrom_accepted (by omega) ?least ?greatest]
  case least =>
    dsimp only
    split
    · show 144 ≤ _
      omega
    · exact Nat.le_add_left _ _
  case greatest =>
    dsimp only
    split
    · show _ ≤ 143
      omega
    · show _ ≤ 191
      omega
  dsimp only
  rw [scanFrom_accepted (by omega) (Nat.le_add_left _ _) (by show _ ≤ 191; omega)]
  dsimp only
  rw [scanFrom_accepted (by omega) (Nat.le_add_left _ _) (by show _ ≤ 191; omega)]
  dsimp only
  rw [value]

theorem scanFrom_encodeChar (c : Char) (bs : Bytes) :
    scanFrom none (String.utf8EncodeChar c ++ bs) = .char c :: scanFrom none bs := by
  have valid : c.toNat < 0xD800 ∨ (0xDFFF < c.toNat ∧ c.toNat < 0x110000) := c.valid
  have number : c.val.toNat = c.toNat := rfl
  unfold String.utf8EncodeChar
  dsimp only
  rw [number]
  conv => rhs; rw [← Char.ofNat_toNat c]
  split
  case isTrue one =>
    rw [List.singleton_append, scanFrom, start_byte (by omega), if_pos (by omega), resume]
  case isFalse more =>
    split
    case isTrue two => exact scanFrom_two (by omega) two bs
    case isFalse more =>
      split
      case isTrue three => exact scanFrom_three (by omega) three (by omega) bs
      case isFalse four => exact scanFrom_four (by omega) (by omega) bs

theorem scan_encode (s : String) : scan (encode s) = s.toList.map Piece.char := by
  unfold scan encode
  induction s.toList with
  | nil => rfl
  | cons c cs ih => rw [List.flatMap_cons, scanFrom_encodeChar, ih, List.map_cons]

theorem collect_chars (cs text : List Char) (position : Nat) :
    collect position text (cs.map Piece.char) = .ok (text.reverse ++ cs) := by
  induction cs generalizing text position with
  | nil =>
    rw [List.append_nil]
    rfl
  | cons c cs ih =>
    rw [List.map_cons, collect, ih, List.reverse_cons, List.append_assoc, List.singleton_append]

theorem decode_encode (s : String) : decode (encode s) = .ok s := by
  unfold decode
  rw [scan_encode, collect_chars, List.reverse_nil, List.nil_append]
  exact congrArg Except.ok String.ofList_toList

end RayScene.Utf8
