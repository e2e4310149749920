import Mathlib.Data.List.Basic
import Mathlib.Algebra.Group.Nat.Basic
import Mathlib.Algebra.Group.Int
import Mathlib.Algebra.Order.Ring.Nat

/-!
# Bytes, byte orders and `to_endian`

The (de)serializers of `serialization.h` move an integer as its object
representation, the `sizeof(T)` bytes of the value in host byte order, after
`to_endian` has swapped them when the configured order is not the host's.
This module models those representations:

* `toLE width value` and `ofLE bytes`, the little-endian bytes of a natural and
  back, with the round-trip laws `ofLE_toLE` and `toLE_ofLE`;
* `Endian.bytes` and `Endian.value`, the same in either byte order;
* `byteSwap` and `toEndian`, the `__builtin_bswap` calls of `to_endian`, and
  the two laws that make the wire independent of the host:
  `Endian.bytes_toEndian` for writing and `Endian.toEndian_value` for reading;
* `IntType`, the integral types of one, two, four and eight bytes, with the
  two's complement object representation `IntType.toBits` of their values.
-/

namespace OmronDiscovery

/-! ## Bytes as naturals -/

/-- The number of values of `size_t`; its arithmetic wraps modulo this. -/
def sizeModulus : Nat := 2 ^ 64

@[simp]
theorem byte_toNat_ofNat (n : Nat) : (UInt8.ofNat n).toNat = n % 256 := by
  simp [UInt8.toNat, UInt8.ofNat, BitVec.toNat_ofNat]

@[simp]
theorem byte_ofNat_toNat (byte : UInt8) : UInt8.ofNat byte.toNat = byte := by
  apply UInt8.eq_of_toBitVec_eq
  simp [UInt8.toNat, UInt8.ofNat]

theorem byte_toNat_lt (byte : UInt8) : byte.toNat < 256 :=
  byte.toBitVec.isLt

/-! ## Little-endian layout -/

/-- The `width` little-endian bytes of `value`; bits above `8 * width` are
dropped, as a conversion to a `width`-byte unsigned type drops them. -/
def toLE : Nat → Nat → List UInt8
  | 0, _ => []
  | width + 1, value => UInt8.ofNat (value % 256) :: toLE width (value / 256)

/-- The natural whose little-endian bytes are `bytes`. -/
def ofLE : List UInt8 → Nat
  | [] => 0
  | byte :: rest => byte.toNat + 256 * ofLE rest

@[simp]
theorem toLE_zero (value : Nat) : toLE 0 value = [] := rfl

@[simp]
theorem toLE_succ (width value : Nat) :
    toLE (width + 1) value = UInt8.ofNat (value % 256) :: toLE width (value / 256) :=
  rfl

@[simp]
theorem ofLE_nil : ofLE [] = 0 := rfl

@[simp]
theorem ofLE_cons (byte : UInt8) (rest : List UInt8) :
    ofLE (byte :: rest) = byte.toNat + 256 * ofLE rest :=
  rfl

@[simp]
theorem length_toLE (width value : Nat) : (toLE width value).length = width := by
  induction width generalizing value with
  | zero => rfl
  | succ width inductionHypothesis => simp [inductionHypothesis]

theorem ofLE_toLE (width value : Nat) : ofLE (toLE width value) = value % 256 ^ width := by
  induction width generalizing value with
  | zero => simp [Nat.mod_one]
  | succ width inductionHypothesis =>
      rw [toLE_succ, ofLE_cons, inductionHypothesis, byte_toNat_ofNat, Nat.mod_mod,
        Nat.pow_succ', Nat.mod_mul]

theorem ofLE_lt (bytes : List UInt8) : ofLE bytes < 256 ^ bytes.length := by
  induction bytes with
  | nil => simp
  | cons byte rest inductionHypothesis =>
      have byteBound := byte_toNat_lt byte
      rw [ofLE_cons, List.length_cons, Nat.pow_succ]
      omega

theorem toLE_ofLE (bytes : List UInt8) : toLE bytes.length (ofLE bytes) = bytes := by
  induction bytes with
  | nil => rfl
  | cons byte rest inductionHypothesis =>
      have byteBound := byte_toNat_lt byte
      have lowByte : (byte.toNat + 256 * ofLE rest) % 256 = byte.toNat := by omega
      have highBytes : (byte.toNat + 256 * ofLE rest) / 256 = ofLE rest := by omega
      rw [List.length_cons, toLE_succ, ofLE_cons, lowByte, highBytes, byte_ofNat_toNat,
        inductionHypothesis]

/-- A list of one byte reads the same in both directions. -/
theorem toLE_one_reverse (value : Nat) : (toLE 1 value).reverse = toLE 1 value := rfl

/-! ## Byte orders -/

/-- `std::endian`, restricted to the two orders a host can have. -/
inductive Endian
  | little
  | big
  deriving DecidableEq, Repr

namespace Endian

/-- The `width` bytes of `value` laid out in the given byte order. -/
def bytes : Endian → Nat → Nat → List UInt8
  | little, width, value => toLE width value
  | big, width, value => (toLE width value).reverse

/-- The natural laid out as `bytes` in the given byte order. -/
def value : Endian → List UInt8 → Nat
  | little, bytes => ofLE bytes
  | big, bytes => ofLE bytes.reverse

@[simp]
theorem length_bytes (order : Endian) (width value : Nat) :
    (order.bytes width value).length = width := by
  cases order <;> simp [bytes]

theorem value_bytes (order : Endian) (width value : Nat) :
    order.value (order.bytes width value) = value % 256 ^ width := by
  cases order <;> simp [bytes, Endian.value, ofLE_toLE]

theorem bytes_value (order : Endian) (bytes : List UInt8) :
    order.bytes bytes.length (order.value bytes) = bytes := by
  cases order with
  | little => exact toLE_ofLE bytes
  | big =>
      have reversed := toLE_ofLE bytes.reverse
      rw [List.length_reverse] at reversed
      simp only [Endian.bytes, Endian.value, reversed, List.reverse_reverse]

theorem value_lt (order : Endian) (bytes : List UInt8) :
    order.value bytes < 256 ^ bytes.length := by
  cases order with
  | little => exact ofLE_lt bytes
  | big => simpa using ofLE_lt bytes.reverse

end Endian

/-! ## `to_endian` -/

/-- `__builtin_bswap16/32/64` on a `width`-byte value: its bytes in reverse
order. -/
def byteSwap (width value : Nat) : Nat :=
  ofLE (toLE width value).reverse

/-- `to_endian<Endianess>(v)` on a host of byte order `host`, for a type of
`width` bytes whose object representation is `value`: the identity when the
orders agree or the type has one byte, a byte swap otherwise.  The overload
`to_endian(v, endian)` dispatches on `endian` to this template. -/
def toEndian (endianess host : Endian) (width value : Nat) : Nat :=
  if endianess = host then value
  else if width = 1 then value
  else byteSwap width value

/-- The object representation of `to_endian(v)` is `v` laid out in the
configured order, on either host. -/
theorem Endian.bytes_toEndian (endianess host : Endian) (width value : Nat) :
    host.bytes width (toEndian endianess host width value) = endianess.bytes width value := by
  unfold toEndian
  by_cases sameOrder : endianess = host
  · rw [if_pos sameOrder, sameOrder]
  · rw [if_neg sameOrder]
    by_cases oneByte : width = 1
    · subst oneByte
      cases endianess <;> cases host <;>
        simp_all [Endian.bytes, toLE_one_reverse]
    · have swapped := toLE_ofLE (toLE width value).reverse
      simp only [List.length_reverse, length_toLE] at swapped
      rw [if_neg oneByte]
      cases endianess <;> cases host <;>
        simp_all [Endian.bytes, byteSwap]

/-- Reading: `to_endian` of the host value of `bytes` is their value in the
configured order, on either host. -/
theorem Endian.toEndian_value (endianess host : Endian) (bytes : List UInt8) :
    toEndian endianess host bytes.length (host.value bytes) = endianess.value bytes := by
  unfold toEndian
  by_cases sameOrder : endianess = host
  · rw [if_pos sameOrder, sameOrder]
  · rw [if_neg sameOrder]
    by_cases oneByte : bytes.length = 1
    · obtain ⟨byte, rfl⟩ := List.length_eq_one.mp oneByte
      cases endianess <;> cases host <;> simp_all [Endian.value]
    · rw [if_neg oneByte]
      have straight := toLE_ofLE bytes
      have reversed := toLE_ofLE bytes.reverse
      rw [List.length_reverse] at reversed
      cases endianess <;> cases host <;>
        simp_all [Endian.value, byteSwap]

/-! ## Integral types -/

/-- The integral types the (de)serializers are instantiated with, by `sizeof`
and signedness. -/
inductive IntType
  | u8
  | i8
  | u16
  | i16
  | u32
  | i32
  | u64
  | i64
  deriving DecidableEq, Repr

namespace IntType

/-- `sizeof(T)`. -/
def width : IntType → Nat
  | u8 | i8 => 1
  | u16 | i16 => 2
  | u32 | i32 => 4
  | u64 | i64 => 8

/-- Whether `T` is signed. -/
def signed : IntType → Bool
  | u8 | u16 | u32 | u64 => false
  | i8 | i16 | i32 | i64 => true

/-- The values of `T`. -/
def InRange (type : IntType) (value : Int) : Prop :=
  if type.signed then -2 ^ (8 * type.width - 1) ≤ value ∧ value < 2 ^ (8 * type.width - 1)
  else 0 ≤ value ∧ value < 2 ^ (8 * type.width)

/-- The object representation of `value`, read as an unsigned number: two's
complement in `8 * width` bits, as `std::bit_cast` to the unsigned type of the
same width gives it. -/
def toBits (type : IntType) (value : Int) : Nat :=
  (value % (2 ^ (8 * type.width) : Int)).toNat

/-- The value whose object representation is `bits`. -/
def ofBits (type : IntType) (bits : Nat) : Int :=
  if type.signed ∧ 2 ^ (8 * type.width - 1) ≤ bits then (bits : Int) - 2 ^ (8 * type.width)
  else bits

theorem toBits_lt (type : IntType) (value : Int) : type.toBits value < 256 ^ type.width := by
  cases type <;> simp only [toBits, width] <;> omega

theorem ofBits_toBits {type : IntType} {value : Int} (inRange : type.InRange value) :
    type.ofBits (type.toBits value) = value := by
  cases type <;> simp only [InRange, ofBits, toBits, width, signed, if_true,
    Bool.false_eq_true, if_false, true_and, false_and] at inRange ⊢ <;> (try split) <;> omega

end IntType

/-- A value of an integral type. -/
structure IntValue where
  type : IntType
  value : Int
  inRange : type.InRange value

end OmronDiscovery
