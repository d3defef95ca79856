import Mathlib.Data.List.Induction
import Mathlib.Tactic.Ring

namespace SorobanSas.Library

open List

/-!
# Fixed-width big-endian byte strings

Digest preimages and packed storage records are concatenations of fields
whose widths are fixed.  Reading such a layout back needs two facts only: an
encoding of `width` bytes has length `width`, and decoding it gives the value
back whenever the value fits.
-/

/-- The `width` low-order bytes of `value`, most significant first. -/
def bigEndian : Nat -> Nat -> List UInt8
  | 0, _ => []
  | width + 1, value => bigEndian width (value / 256) ++ [UInt8.ofNat value]

/-- The number a byte string denotes when its first byte is the most
significant one. -/
def fromBigEndian (bytes : List UInt8) : Nat := bytes.foldl (fun value byte => value * 256 + byte.toNat) 0

@[simp] theorem length_bigEndian (width value : Nat) : (bigEndian width value).length = width := by
  induction width generalizing value with
  | zero => rfl
  | succ width ih => simp [bigEndian, ih]

theorem fromBigEndian_append_singleton (bytes : List UInt8) (byte : UInt8) :
    fromBigEndian (bytes ++ [byte]) = fromBigEndian bytes * 256 + byte.toNat := by
  simp [fromBigEndian]

theorem fromBigEndian_bigEndian {width value : Nat} (fits : value < 256 ^ width) :
    fromBigEndian (bigEndian width value) = value := by
  induction width generalizing value with
  | zero =>
    have vanishes : value = 0 := by simpa using fits
    rw [vanishes]
    rfl
  | succ width ih =>
    have quotient : value / 256 < 256 ^ width := by
      rw [Nat.div_lt_iff_lt_mul (by decide)]
      simpa [Nat.pow_succ] using fits
    rw [bigEndian, fromBigEndian_append_singleton, ih quotient]
    have byte : (UInt8.ofNat value).toNat = value % 256 := by simp
    omega

/-- Two values that fit the width and have the same encoding are equal. -/
theorem bigEndian_injective {width first second : Nat} (fitsFirst : first < 256 ^ width)
    (fitsSecond : second < 256 ^ width) (same : bigEndian width first = bigEndian width second) : first = second := by
  rw [← fromBigEndian_bigEndian fitsFirst, same, fromBigEndian_bigEndian fitsSecond]

theorem fromBigEndian_lt (bytes : List UInt8) : fromBigEndian bytes < 256 ^ bytes.length := by
  induction bytes using List.reverseRecOn with
  | nil => exact Nat.one_pos
  | append_singleton bytes byte =>
    have small := byte.toNat_lt
    rw [fromBigEndian_append_singleton, length_append, length_singleton, Nat.pow_succ]
    omega

/-- Every byte string is the encoding of the number it denotes. -/
theorem bigEndian_fromBigEndian (bytes : List UInt8) : bigEndian bytes.length (fromBigEndian bytes) = bytes := by
  induction bytes using List.reverseRecOn with
  | nil => rfl
  | append_singleton bytes byte ih =>
    have small : byte.toNat < 256 := byte.toNat_lt
    have high : (fromBigEndian bytes * 256 + byte.toNat) / 256 = fromBigEndian bytes := by omega
    have low : UInt8.ofNat (fromBigEndian bytes * 256 + byte.toNat) = byte := by
      apply UInt8.toNat.inj
      simp
    rw [length_append, length_singleton, fromBigEndian_append_singleton, bigEndian, high, ih, low]

/-! ## Order -/

/-- Strings that start with equally long parts are compared by these parts first. -/
theorem append_lt_append {γ : Type} [LT γ] {first second : List γ}
    (length : first.length = second.length) (rest other : List γ) :
    first ++ rest < second ++ other <-> first < second ∨ first = second ∧ rest < other := by
  induction first generalizing second with
  | nil =>
    rw [eq_nil_of_length_eq_zero length.symm]
    simp
  | cons head tail ih =>
    cases second with
    | nil => cases length
    | cons head' tail' =>
      rw [cons_append, cons_append, cons_lt_cons_iff, cons_lt_cons_iff, ih (Nat.succ.inj length), List.cons.injEq]
      tauto

/-- Values that fit the width are compared as their encodings are. -/
theorem bigEndian_lt {width first second : Nat} (fitsFirst : first < 256 ^ width)
    (fitsSecond : second < 256 ^ width) : bigEndian width first < bigEndian width second <-> first < second := by
  induction width generalizing first second with
  | zero =>
    rw [Nat.pow_zero] at fitsFirst fitsSecond
    simp [bigEndian]
    omega
  | succ width ih =>
    have quotient : ∀ {value}, value < 256 ^ (width + 1) -> value / 256 < 256 ^ width := by
      intro value fits
      rw [Nat.div_lt_iff_lt_mul (by decide)]
      simpa [Nat.pow_succ] using fits
    have high : bigEndian width (first / 256) = bigEndian width (second / 256) <-> first / 256 = second / 256 :=
      ⟨bigEndian_injective (quotient fitsFirst) (quotient fitsSecond), congrArg _⟩
    have low : [UInt8.ofNat first] < [UInt8.ofNat second] <-> first % 256 < second % 256 := by
      rw [cons_lt_cons_iff, UInt8.lt_iff_toNat_lt]
      simp
    rw [bigEndian, bigEndian, append_lt_append (by simp), ih (quotient fitsFirst) (quotient fitsSecond), high, low]
    omega

/-- Byte strings of one length are compared as the numbers they denote are. -/
theorem fromBigEndian_lt_iff {first second : List UInt8} (length : first.length = second.length) :
    fromBigEndian first < fromBigEndian second <-> first < second := by
  have fits := fromBigEndian_lt first
  rw [length] at fits
  rw [← bigEndian_lt fits (fromBigEndian_lt second), bigEndian_fromBigEndian, ← length, bigEndian_fromBigEndian]

/-! ## Reading a layout field by field -/

universe u v

variable {α : Type u} {β : Type v} {encode : α -> List β} {width : Nat}

/-- No encoding is the start of another one, so that a value can be read off the front of a
longer string. -/
def PrefixFree (encode : α -> List β) : Prop :=
  ∀ first second rest other, encode first ++ rest = encode second ++ other -> first = second ∧ rest = other

namespace PrefixFree

variable {first second : α} {rest other : List β}

theorem read (free : PrefixFree encode) (same : encode first ++ rest = encode second ++ other) :
    first = second ∧ rest = other := free first second rest other same

theorem injective (free : PrefixFree encode) : Function.Injective encode := by
  intro first second same
  have extended : encode first ++ [] = encode second ++ [] := by rw [same]
  exact (free.read extended).1

/-- Encodings of one width need no delimiter. -/
theorem of_width (fixed : ∀ value, (encode value).length = width)
    (injective : Function.Injective encode) : PrefixFree encode := by
  intro first second rest other same
  have widths : (encode first).length = (encode second).length := by rw [fixed, fixed]
  rcases append_inj same widths with ⟨encodings, rests⟩
  exact ⟨injective encodings, rests⟩

end PrefixFree

end SorobanSas.Library
