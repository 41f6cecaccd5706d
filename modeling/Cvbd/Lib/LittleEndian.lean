import Mathlib.Algebra.Ring.Int.Defs
import Mathlib.Algebra.Ring.Nat
import Mathlib.Data.Nat.ModEq
import Cvbd.Lib.Region

/-!
Little-endian integers of any width, as digit functions in base 256, and their
storage as fields of a byte region.
-/

namespace Cvbd.LittleEndian

/-- Byte `index` of the little-endian representation of `value`. -/
def digit (value index : Nat) : UInt8 := UInt8.ofNat (value / 256 ^ index)

/-- The number whose lowest `width` bytes are `bytes 0 .. bytes (width - 1)`. -/
def decode (bytes : Nat → UInt8) : Nat → Nat
  | 0 => 0
  | width + 1 => decode bytes width + 256 ^ width * (bytes width).toNat

theorem decode_congr {left right : Nat → UInt8} {width : Nat}
    (same : ∀ index, index < width → left index = right index) :
    decode left width = decode right width := by
  induction width with
  | zero => rfl
  | succ width ih =>
      simp only [decode]
      rw [ih (fun index below => same index (by omega)), same width (by omega)]

theorem decode_digit (value width : Nat) : decode (digit value) width = value % 256 ^ width := by
  induction width with
  | zero => simp [decode, Nat.mod_one]
  | succ width ih =>
      simp only [decode, ih, Nat.mod_pow_succ]
      simp [digit]

theorem decode_digit_of_lt {value width : Nat} (fits : value < 256 ^ width) :
    decode (digit value) width = value := by
  rw [decode_digit, Nat.mod_eq_of_lt fits]

/-- The integer field of `width` bytes at `start`. -/
def load (bytes : Nat → UInt8) (start width : Nat) : Nat :=
  decode (fun index => bytes (start + index)) width

def store (bytes : Nat → UInt8) (start width value : Nat) : Nat → UInt8 :=
  Region.copy bytes start (digit value) width

theorem load_store {value width : Nat} (bytes : Nat → UInt8) (start : Nat)
    (fits : value < 256 ^ width) : load (store bytes start width value) start width = value := by
  unfold load store
  have same := decode_congr fun index below =>
    Region.copy_add bytes (digit value) start width index below
  rw [same]
  exact decode_digit_of_lt fits

/-- A field is unaffected by a copy that lies before or behind it. -/
theorem load_copy_disjoint {bytes src : Nat → UInt8} {start width first count : Nat}
    (disjoint : start + width ≤ first ∨ first + count ≤ start) :
    load (Region.copy bytes first src count) start width = load bytes start width :=
  decode_congr fun _ below => Region.copy_disjoint disjoint below

theorem load_store_disjoint {bytes : Nat → UInt8} {start width first count value : Nat}
    (disjoint : start + width ≤ first ∨ first + count ≤ start) :
    load (store bytes first count value) start width = load bytes start width :=
  load_copy_disjoint disjoint

/-- A field that lies inside the overlaid prefix is read from the overlay. -/
theorem load_overlay {bytes message : Nat → UInt8} {start width size : Nat}
    (inside : start + width ≤ size) :
    load (Region.copy bytes 0 message size) start width = load message start width :=
  decode_congr fun _ below => Region.copy_prefix (by omega)

theorem load_congr {left right : Nat → UInt8} {start width : Nat}
    (same : ∀ index, start ≤ index → index < start + width → left index = right index) :
    load left start width = load right start width :=
  decode_congr fun index below => same (start + index) (by omega) (by omega)

end Cvbd.LittleEndian
