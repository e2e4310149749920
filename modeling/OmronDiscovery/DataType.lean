import OmronDiscovery.Bytes
import Mathlib.Algebra.BigOperators.Group.List

/-!
# `DataType` and the size of an array

`DataType` is an enumeration over `uint8_t` declared in `omron.h`, which is not
among the sources: a value read from the wire is `static_cast` from its byte,
so the model represents a `DataType` by that byte, and the byte of each
enumerator is a parameter, `DataTypeCodes`.

* `isValidValue`, the enumerators `is_valid_value` recognises;
* `getArraySize`, `get_array_size` with its `size_t` products;
* `getArraySize_eq`: the running product is the exact product of the
  dimensions modulo `2^64`, and the three branches for `Bool` are the bytes of
  the fewest 16-bit words holding that many bits;
* `getArraySize_of_noWrap`: when nothing wraps, the size is exact.
-/

namespace OmronDiscovery

/-- The enumerators of `DataType`, in the order `to_string` lists them. -/
inductive DataTypeName
  | undefined
  | date
  | time
  | dateAndTime
  | timeOfDay
  | bool
  | sint
  | int
  | dint
  | lint
  | usint
  | uint
  | udint
  | ulint
  | real
  | lreal
  | string
  | byte
  | word
  | dword
  | lword
  | time2
  | abbreviatedStructure
  | «structure»
  | array
  deriving DecidableEq, Repr

/-- The byte each enumerator of `DataType` stands for.  The `switch`
statements over the enumerators need them distinct. -/
structure DataTypeCodes where
  code : DataTypeName → UInt8
  code_injective : Function.Injective code

theorem DataTypeName.toCtorIdx_lt (name : DataTypeName) : name.toCtorIdx < 25 := by
  cases name <;> decide

/-- The enumerators numbered in declaration order: one assignment of distinct
bytes. -/
def DataTypeCodes.declarationOrder : DataTypeCodes where
  code name := UInt8.ofNat name.toCtorIdx
  code_injective first second equalCodes := by
    have equalIndices := congrArg UInt8.toNat equalCodes
    have firstBound := first.toCtorIdx_lt
    have secondBound := second.toCtorIdx_lt
    simp only [byte_toNat_ofNat] at equalIndices
    rw [← DataTypeName.ofNat_toCtorIdx first, ← DataTypeName.ofNat_toCtorIdx second]
    congr 1
    omega

/-- The enumerators `is_valid_value` accepts: all but `Undefined`. -/
def DataTypeName.validNames : List DataTypeName :=
  [date, time, dateAndTime, timeOfDay, bool, sint, int, dint, lint, usint, uint, udint, ulint,
    real, lreal, string, byte, word, dword, lword, time2, abbreviatedStructure, «structure», array]

/-- `is_valid_value(data_type)`. -/
def isValidValue (codes : DataTypeCodes) (dataType : UInt8) : Bool :=
  DataTypeName.validNames.any fun name => codes.code name == dataType

/-- `get_array_size(dimensions, element_type, element_size)`: the product of the
dimensions, then either the bytes of that many bits packed into 16-bit words,
for `Bool` elements, or that many elements of `element_size` bytes.  Both
products are `size_t` arithmetic. -/
def getArraySize (codes : DataTypeCodes) (dimensions : List Nat) (elementType : UInt8)
    (elementSize : Nat) : Nat :=
  let dimProduct := dimensions.foldl (fun product dim => product * dim % sizeModulus) 1
  if elementType = codes.code .bool then
    let remainder := dimProduct % 16
    let fullBytes := dimProduct / 8
    if remainder ≥ 8 then fullBytes + 1
    else if remainder > 0 then fullBytes + 2
    else fullBytes
  else dimProduct * elementSize % sizeModulus

/-! ## The size of an array -/

/-- The `size_t` running product is the exact product modulo `2^64`. -/
theorem foldl_mul_mod (dimensions : List Nat) (product : Nat) :
    dimensions.foldl (fun product dim => product * dim % sizeModulus) (product % sizeModulus) =
      product * dimensions.prod % sizeModulus := by
  induction dimensions generalizing product with
  | nil => rw [List.foldl_nil, List.prod_nil, Nat.mul_one]
  | cons dim dimensions inductionHypothesis =>
      rw [List.foldl_cons, Nat.mod_mul_mod, inductionHypothesis, List.prod_cons, Nat.mul_assoc]

/-- What `get_array_size` computes, for every list of dimensions: `Bool`
elements take two bytes for every started 16 of the product's bits, other
elements the product times the element size, both products modulo `2^64`. -/
theorem getArraySize_eq (codes : DataTypeCodes) (dimensions : List Nat) (elementType : UInt8)
    (elementSize : Nat) :
    getArraySize codes dimensions elementType elementSize =
      if elementType = codes.code .bool then 2 * ((dimensions.prod % sizeModulus + 15) / 16)
      else dimensions.prod * elementSize % sizeModulus := by
  have product : dimensions.foldl (fun product dim => product * dim % sizeModulus) 1 =
      dimensions.prod % sizeModulus := by
    simpa using foldl_mul_mod dimensions 1
  unfold getArraySize
  rw [product]
  split
  · dsimp only
    split_ifs <;> omega
  · exact Nat.mod_mul_mod

/-- When the exact product of the dimensions is below `2^64`, an array of
`Bool` takes `2 * ⌈P / 16⌉` bytes, whatever the element size; when the product
times the element size is below `2^64`, any other array takes that product. -/
theorem getArraySize_of_noWrap (codes : DataTypeCodes) (dimensions : List Nat) (elementSize : Nat) :
    (dimensions.prod < sizeModulus →
      getArraySize codes dimensions (codes.code .bool) elementSize =
        2 * ((dimensions.prod + 15) / 16)) ∧
    ∀ elementType, elementType ≠ codes.code .bool →
      dimensions.prod * elementSize < sizeModulus →
      getArraySize codes dimensions elementType elementSize = dimensions.prod * elementSize :=
  ⟨fun productLt => by rw [getArraySize_eq, if_pos rfl, Nat.mod_eq_of_lt productLt],
    fun _ notBool sizeLt => by rw [getArraySize_eq, if_neg notBool, Nat.mod_eq_of_lt sizeLt]⟩

/-- A three-by-three array takes two bytes of `Bool`s, or 36 bytes of 4-byte
elements. -/
theorem getArraySize_of_noWrap_threeByThree :
    getArraySize .declarationOrder [3, 3] (DataTypeCodes.declarationOrder.code .bool) 1 = 2 ∧
      getArraySize .declarationOrder [3, 3] 8 4 = 36 :=
  ⟨(getArraySize_of_noWrap .declarationOrder [3, 3] 1).1 (by decide),
    (getArraySize_of_noWrap .declarationOrder [3, 3] 4).2 8 (by decide) (by decide)⟩

end OmronDiscovery
