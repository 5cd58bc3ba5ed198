import Mathlib.Data.List.Basic
import RouteMigration.Project.FileTree

/-!
# The order of bytes

Texts are compared by their characters here, and a file system compares names by the bytes that
they are written with.  The two orders agree: the first bytes of a character grow with the number
of bytes, and among characters of one length the bytes are the digits of the character.

## Main Definitions

* `Text.bytes` — the bytes of a text
* `Location.bytes` — the bytes of each name of a location

## Main Statements

* `Text.bytes_lt_bytes` — a smaller text has smaller bytes
* `Location.bytes_lt_bytes` — a smaller location has smaller bytes, name by name
-/

namespace RouteMigration

namespace Text

/-- The bytes that a text is written with. -/
def bytes (s : String) : List UInt8 := s.toUTF8.data.toList

theorem bytes_eq_flatMap (s : String) : bytes s = s.toList.flatMap String.utf8EncodeChar := by
  have hencode : s.toUTF8 = s.toList.utf8Encode := String.utf8Encode_toList.symm
  rw [bytes, hencode, List.utf8Encode, List.data_toByteArray]

/-- A smaller character has smaller bytes, whatever follows the two. -/
theorem utf8EncodeChar_append_lt {c d : Char} (h : c < d) (xs ys : List UInt8) :
    String.utf8EncodeChar c ++ xs < String.utf8EncodeChar d ++ ys := by
  have hval : c.val.toNat < d.val.toNat := h
  have hmax : d.val.toNat < 1114112 := by
    rcases d.valid with hlow | ⟨-, hhigh⟩
    · exact Nat.lt_trans hlow (by decide)
    · exact hhigh
  unfold String.utf8EncodeChar
  generalize c.val.toNat = m at hval
  generalize d.val.toNat = n at hval hmax
  -- no byte is cut off, and the last three bytes are digits to the base 64
  have htail : ∀ k, (k % 64 + 128) % 2 ^ 8 = k % 64 + 128 := by omega
  have hlead₂ : ∀ k, (k % 32 + 192) % 2 ^ 8 = k % 32 + 192 := by omega
  have hlead₃ : ∀ k, (k % 16 + 224) % 2 ^ 8 = k % 16 + 224 := by omega
  have hdigits : ∀ k : Nat, k / 4096 = k / 262144 * 64 + k / 4096 % 64 ∧
      k / 64 = k / 4096 * 64 + k / 64 % 64 := by omega
  obtain ⟨hm₁, hm₂⟩ := hdigits m
  obtain ⟨hn₁, hn₂⟩ := hdigits n
  have hm₀ : (m / 262144 % 8 + 240) % 2 ^ 8 = m / 262144 + 240 := by omega
  have hn₀ : (n / 262144 % 8 + 240) % 2 ^ 8 = n / 262144 + 240 := by omega
  have hle₁ : m / 64 ≤ n / 64 := Nat.div_le_div_right (Nat.le_of_lt hval)
  have hle₂ : m / 4096 ≤ n / 4096 := Nat.div_le_div_right (Nat.le_of_lt hval)
  have hle₃ : m / 262144 ≤ n / 262144 := Nat.div_le_div_right (Nat.le_of_lt hval)
  dsimp only
  split_ifs <;>
    simp only [List.cons_append, List.nil_append, List.cons_lt_cons_iff, UInt8.lt_iff_toNat_lt,
      ← UInt8.toNat_inj, UInt8.toNat_ofNat', htail, hlead₂, hlead₃, hm₀, hn₀] <;>
    omega

/-- **Texts by their bytes.** -/
theorem bytes_lt_bytes {s t : String} (h : s < t) : bytes s < bytes t := by
  rw [bytes_eq_flatMap, bytes_eq_flatMap]
  have hlist : s.toList < t.toList := String.lt_iff.mp h
  generalize s.toList = cs at hlist
  generalize t.toList = ds at hlist
  induction cs generalizing ds with
  | nil =>
    cases ds with
    | nil => exact absurd hlist (List.not_lt_nil _)
    | cons d ds =>
      obtain ⟨b, bs, hbytes⟩ := List.exists_cons_of_ne_nil (String.utf8EncodeChar_ne_nil (c := d))
      rw [List.flatMap_cons, hbytes]
      exact List.nil_lt_cons _ _
  | cons c cs ih =>
    cases ds with
    | nil => exact absurd hlist (List.not_lt_nil _)
    | cons d ds =>
      rw [List.flatMap_cons, List.flatMap_cons]
      rcases List.cons_lt_cons_iff.mp hlist with hlt | ⟨rfl, hrest⟩
      · exact utf8EncodeChar_append_lt hlt _ _
      · exact List.append_left_lt (ih ds hrest)

end Text

namespace Location

/-- The bytes of each name of a location. -/
def bytes (l : Location) : List (List UInt8) := l.map Text.bytes

/-- **Locations by their bytes.** -/
theorem bytes_lt_bytes {l l' : Location} (h : l < l') : bytes l < bytes l' := by
  induction l generalizing l' with
  | nil =>
    cases l' with
    | nil => exact absurd h (List.not_lt_nil _)
    | cons n' l' => exact List.nil_lt_cons _ _
  | cons n l ih =>
    cases l' with
    | nil => exact absurd h (List.not_lt_nil _)
    | cons n' l' =>
      refine List.cons_lt_cons_iff.mpr ?_
      rcases List.cons_lt_cons_iff.mp h with hlt | ⟨rfl, hrest⟩
      · exact Or.inl (Text.bytes_lt_bytes hlt)
      · exact Or.inr ⟨rfl, ih hrest⟩

end Location

end RouteMigration
