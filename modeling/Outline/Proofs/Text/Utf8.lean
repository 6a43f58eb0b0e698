import Mathlib.Data.List.Basic
import Mathlib.Tactic.IntervalCases
import Mathlib.Tactic.Positivity

/-! The bytes of a text. A character is written as a leading byte, which tells how many bytes follow
and holds the highest digits of its code, and then the other digits to the base 64, highest first.
More bytes mean a larger leading byte, so texts are ordered by their bytes as they are ordered by
their characters. -/
namespace Outline.Text

/-- The bytes of a text. -/
def utf8 (text : String) : List UInt8 := text.toUTF8.data.toList

/-! ### Digits -/

/-- The last `k` digits of a code to the base 64, as the bytes after a leading byte. -/
def digits : (k code : Nat) → List UInt8
  | 0, _ => []
  | k + 1, code => UInt8.ofNat (code / 64 ^ k % 64 + 0x80) :: digits k code

theorem ofNat_cons_lt {m n : Nat} (h : m < n) (hn : n < 256) (as bs : List UInt8) :
    UInt8.ofNat m :: as < UInt8.ofNat n :: bs := by
  refine List.cons_lt_cons_iff.mpr (.inl ?_)
  rw [UInt8.lt_iff_toNat_lt, UInt8.toNat_ofNat', UInt8.toNat_ofNat']
  omega

theorem digits_append_lt {k v w : Nat} (h : v % 64 ^ k < w % 64 ^ k) (as bs : List UInt8) :
    digits k v ++ as < digits k w ++ bs := by
  induction k with
  | zero =>
    rw [pow_zero, Nat.mod_one, Nat.mod_one] at h
    omega
  | succ k ih =>
    rw [pow_succ, Nat.mod_mul, Nat.mod_mul] at h
    have hv : v % 64 ^ k < 64 ^ k := Nat.mod_lt _ (by positivity)
    have hw : w % 64 ^ k < 64 ^ k := Nat.mod_lt _ (by positivity)
    by_cases hlt : v / 64 ^ k % 64 < w / 64 ^ k % 64
    · exact ofNat_cons_lt (by omega) (by omega) _ _
    · have heq : v / 64 ^ k % 64 = w / 64 ^ k % 64 := by
        by_contra hne
        have hmul : 64 ^ k * (w / 64 ^ k % 64) + 64 ^ k ≤ 64 ^ k * (v / 64 ^ k % 64) := by
          rw [← Nat.mul_succ]
          exact Nat.mul_le_mul_left _ (by omega)
        omega
      rw [heq] at h
      simp only [digits, List.cons_append, heq]
      exact List.cons_lt_cons_iff.mpr (.inr ⟨rfl, ih (by omega)⟩)

/-! ### Characters -/

/-- What a leading byte is counted from when `k` bytes follow it. -/
def mark : Nat → Nat
  | 0 => 0
  | 1 => 0xc0
  | 2 => 0xe0
  | _ => 0xf0

/-- The least code that is written with `k` bytes after the leading one. -/
def least : Nat → Nat
  | 0 => 0
  | 1 => 0x80
  | 2 => 0x800
  | 3 => 0x10000
  | _ => 0x110000

theorem utf8EncodeChar_eq (c : Char) :
    ∃ k ≤ 3, least k ≤ c.val.toNat ∧ c.val.toNat < least (k + 1) ∧
      String.utf8EncodeChar c =
        UInt8.ofNat (mark k + c.val.toNat / 64 ^ k) :: digits k c.val.toNat := by
  have hc : c.val.toNat < 0x110000 := by
    have := c.valid
    simp only [UInt32.isValidChar, Nat.isValidChar] at this
    omega
  unfold String.utf8EncodeChar
  generalize c.val.toNat = v at hc
  dsimp only
  split
  · exact ⟨0, by omega, by simp [least], by simp only [least]; omega, by simp [mark, digits]⟩
  split
  · refine ⟨1, by omega, by simp only [least]; omega, by simp only [least]; omega, ?_⟩
    have h : v / 64 % 0x20 + 0xc0 = mark 1 + v / 64 ^ 1 := by simp only [mark]; omega
    simp only [h, digits, pow_zero, Nat.div_one]
  split
  · refine ⟨2, by omega, by simp only [least]; omega, by simp only [least]; omega, ?_⟩
    have h : v / 4096 % 0x10 + 0xe0 = mark 2 + v / 64 ^ 2 := by simp only [mark]; omega
    simp only [h, digits, pow_zero, pow_one, Nat.div_one]
  · refine ⟨3, by omega, by simp only [least]; omega, by simp only [least]; omega, ?_⟩
    have h : v / 262144 % 0x08 + 0xf0 = mark 3 + v / 64 ^ 3 := by simp only [mark]; omega
    simp only [h, digits, pow_zero, pow_one, Nat.div_one]
    rfl

theorem least_mono {k l : Nat} (h : k ≤ l) (hl : l ≤ 3) : least k ≤ least l := by
  interval_cases l <;> interval_cases k <;> simp [least]

theorem lead_lt_byte {k v : Nat} (hk : k ≤ 3) (hv : v < least (k + 1)) :
    mark k + v / 64 ^ k < 256 := by
  interval_cases k <;> simp only [mark, least] at hv ⊢ <;> omega

/-- A leading byte with fewer bytes after it is smaller. -/
theorem lead_lt_mark {k l v : Nat} (h : k < l) (hl : l ≤ 3) (hv : v < least (k + 1)) :
    mark k + v / 64 ^ k < mark l := by
  interval_cases l <;> interval_cases k <;> simp only [mark, least] at hv ⊢ <;> omega

/-- A smaller character has smaller bytes, whatever follows. -/
theorem utf8EncodeChar_append_lt {c d : Char} (h : c < d) (as bs : List UInt8) :
    String.utf8EncodeChar c ++ as < String.utf8EncodeChar d ++ bs := by
  have hlt : c.val.toNat < d.val.toNat := h
  obtain ⟨k, hk, hkc, hck, hc⟩ := utf8EncodeChar_eq c
  obtain ⟨l, hl, hld, hdl, hd⟩ := utf8EncodeChar_eq d
  rw [hc, hd]
  generalize c.val.toNat = v at *
  generalize d.val.toNat = w at *
  have hbyte := lead_lt_byte hl hdl
  rcases Nat.lt_trichotomy k l with hkl | rfl | hkl
  · have hlead := lead_lt_mark hkl hl hck
    exact ofNat_cons_lt (Nat.lt_add_right _ hlead) hbyte _ _
  · by_cases hdiv : v / 64 ^ k < w / 64 ^ k
    · exact ofNat_cons_lt (by omega) hbyte _ _
    · -- the leading bytes are the same, so the digits after them decide
      have heq : v / 64 ^ k = w / 64 ^ k :=
        Nat.le_antisymm (Nat.div_le_div_right hlt.le) (Nat.le_of_not_lt hdiv)
      have hmod : v % 64 ^ k < w % 64 ^ k := by
        have hv := Nat.div_add_mod v (64 ^ k)
        have hw := Nat.div_add_mod w (64 ^ k)
        rw [heq] at hv
        omega
      rw [heq]
      exact List.cons_lt_cons_iff.mpr (.inr ⟨rfl, digits_append_lt hmod as bs⟩)
  · have hleast : least (l + 1) ≤ least k := least_mono hkl hk
    omega

/-! ### Texts -/

theorem utf8_eq_flatMap (text : String) :
    utf8 text = text.toList.flatMap String.utf8EncodeChar := by
  rw [utf8, String.toUTF8_eq_toByteArray, ← String.utf8Encode_toList, List.utf8Encode,
    List.toList_data_toByteArray]

theorem flatMap_utf8EncodeChar_lt {cs ds : List Char} (h : cs < ds) :
    cs.flatMap String.utf8EncodeChar < ds.flatMap String.utf8EncodeChar := by
  induction h with
  | @nil d ds =>
    rw [List.flatMap_nil, List.flatMap_cons]
    obtain ⟨b, bs, hb⟩ := List.exists_cons_of_ne_nil (String.utf8EncodeChar_ne_nil (c := d))
    rw [hb]
    exact List.nil_lt_cons _ _
  | rel h => exact utf8EncodeChar_append_lt h _ _
  | @cons c cs ds h ih =>
    rw [List.flatMap_cons, List.flatMap_cons]
    exact List.append_left_lt ih

/-- Texts are ordered by their bytes as they are ordered by their characters. -/
theorem utf8_lt_utf8 {s t : String} (h : s < t) : utf8 s < utf8 t := by
  rw [utf8_eq_flatMap, utf8_eq_flatMap]
  exact flatMap_utf8EncodeChar_lt h

end Outline.Text
