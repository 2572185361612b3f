import Mathlib.Tactic.SplitIfs
import PackageRequires.Text

namespace PackageRequires.Text

/-! The order of texts is the order of their UTF-8 bytes.

The encodings of two characters differ at some byte within both, and the byte of
the lower code point is the lower one there; so what follows does not matter.
-/

/-- The UTF-8 bytes of a text. -/
def bytes (text : Text) : List UInt8 := text.flatMap String.utf8EncodeChar

@[simp] theorem bytes_nil : bytes [] = [] := rfl

@[simp] theorem bytes_cons (c : Char) (text : Text) :
    bytes (c :: text) = String.utf8EncodeChar c ++ bytes text := rfl

theorem utf8EncodeChar_ne_nil (c : Char) : String.utf8EncodeChar c ≠ [] := by
  intro none
  have size := String.length_utf8EncodeChar c
  rw [none] at size
  exact absurd size.symm (Nat.pos_iff_ne_zero.mp c.utf8Size_pos)

theorem toNat_le_largest (c : Char) : c.toNat ≤ 0x10ffff := by
  have valid := c.valid
  simp only [UInt32.isValidChar, Nat.isValidChar] at valid
  change c.val.toNat ≤ _
  omega

/-- A byte holds its mark and one digit of the code point. -/
theorem toNat_marked (n : Nat) {size mark : Nat} (positive : 0 < size) (fits : size + mark ≤ 256) :
    (UInt8.ofNat (n % size + mark)).toNat = n % size + mark := by
  have digit := Nat.mod_lt n positive
  rw [UInt8.toNat_ofNat']
  exact Nat.mod_eq_of_lt (by omega)

theorem toNat_single {n : Nat} (single : n ≤ 127) : (UInt8.ofNat n).toNat = n := by
  rw [UInt8.toNat_ofNat']
  exact Nat.mod_eq_of_lt (by omega)

/-- Four digits of base 64 are compared from the highest one down. -/
theorem digits_lt {v w : Nat} (below : v < w) (largest : w ≤ 0x10ffff) :
    v / 262144 % 8 < w / 262144 % 8 ∨ v / 262144 % 8 = w / 262144 % 8 ∧
      (v / 4096 % 64 < w / 4096 % 64 ∨ v / 4096 % 64 = w / 4096 % 64 ∧
        (v / 64 % 64 < w / 64 % 64 ∨ v / 64 % 64 = w / 64 % 64 ∧ v % 64 < w % 64)) := by
  have step : ∀ {m n : Nat}, m < n → m / 64 < n / 64 ∨ m / 64 = n / 64 ∧ m % 64 < n % 64 := by
    omega
  have second (n : Nat) : n / 4096 = n / 64 / 64 := by omega
  have third (n : Nat) : n / 262144 = n / 4096 / 64 := by omega
  have lead {n : Nat} (inRange : n ≤ 0x10ffff) : n / 262144 % 8 = n / 262144 := by omega
  rw [lead largest, lead (by omega : v ≤ 0x10ffff)]
  rcases step below with above | ⟨same, last⟩
  · rcases step above with above | ⟨same, last⟩
    · rw [← second, ← second] at above
      rcases step above with above | ⟨same, last⟩ <;> omega
    · omega
  · omega

theorem utf8EncodeChar_append_lt {c d : Char} (below : c.toNat < d.toNat)
    (front back : List UInt8) :
    String.utf8EncodeChar c ++ front < String.utf8EncodeChar d ++ back := by
  have largest := toNat_le_largest d
  change c.val.toNat < d.val.toNat at below
  change d.val.toNat ≤ _ at largest
  unfold String.utf8EncodeChar
  generalize c.val.toNat = v at below ⊢
  generalize d.val.toNat = w at below largest ⊢
  have digits := digits_lt below largest
  dsimp only
  -- One goal for each pair of lengths; the first byte already tells different lengths apart.
  split_ifs <;>
    simp (disch := omega) only [List.cons_append, List.nil_append, List.cons_lt_cons_iff,
      UInt8.lt_iff_toNat_lt, ← UInt8.toNat_inj, toNat_marked, toNat_single] <;>
    omega

theorem append_lt_append_iff (front left right : List UInt8) :
    front ++ left < front ++ right ↔ left < right := by
  induction front with
  | nil => rfl
  | cons byte front ih => simpa [List.cons_lt_cons_iff] using ih

theorem isBefore_iff_bytes_lt {left right : Text} :
    isBefore left right = true ↔ bytes left < bytes right := by
  induction left generalizing right with
  | nil =>
      cases right with
      | nil => simp [isBefore]
      | cons d right =>
          obtain ⟨first, later, encoded⟩ := List.exists_cons_of_ne_nil (utf8EncodeChar_ne_nil d)
          simp [isBefore, encoded]
  | cons c left ih =>
      cases right with
      | nil => simp [isBefore]
      | cons d right =>
          simp only [isBefore, Bool.or_eq_true, decide_eq_true_eq, Bool.and_eq_true, beq_iff_eq,
            bytes_cons]
          rcases Nat.lt_trichotomy c.toNat d.toNat with below | same | above
          · exact iff_of_true (.inl below) (utf8EncodeChar_append_lt below _ _)
          · obtain rfl := Char.toNat_inj.mp same
            simp [ih, append_lt_append_iff]
          · have reversed := utf8EncodeChar_append_lt above (bytes right) (bytes left)
            refine iff_of_false ?_ (List.lt_asymm reversed)
            intro before
            rcases before with below | ⟨same, _⟩
            · omega
            · rw [same] at above
              exact Nat.lt_irrefl _ above

end PackageRequires.Text
