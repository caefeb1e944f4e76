import Mathlib
import WizPay.Lib.Sha256

/-!
# The contract ABI

Argument lists of numbers of a fixed width, lists of them, and texts. `pack` and
`unpack` follow `accounts/abi` of go-ethereum. Unpacking is lenient: it takes any offset
inside the data, and ignores the high bytes of a narrow number, the bytes after a text
and everything that no offset names.
-/
namespace Abi

open Sha256

/-- The number that big-endian bytes stand for. -/
def number (data : List UInt8) : Nat := data.foldl (fun value byte => 256 * value + byte.toNat) 0

/-- A number as 32 bytes. -/
def word (n : Nat) : List UInt8 := bigEndian n 32

@[simp] theorem bigEndian_length (n width : Nat) : (bigEndian n width).length = width := by simp [bigEndian]

@[simp] theorem word_length (n : Nat) : (word n).length = 32 := bigEndian_length n 32

theorem foldl_number (data : List UInt8) (start : Nat) :
    data.foldl (fun value byte => 256 * value + byte.toNat) start = start * 256 ^ data.length + number data := by
  induction data generalizing start with
  | nil => simp [number]
  | cons byte rest ih =>
    have whole : number (byte :: rest) = (256 * 0 + byte.toNat) * 256 ^ rest.length + number rest := ih _
    rw [List.foldl_cons, ih, whole, List.length_cons, Nat.pow_succ]
    ring

@[simp] theorem number_nil : number [] = 0 := rfl

theorem number_cons (byte : UInt8) (rest : List UInt8) :
    number (byte :: rest) = byte.toNat * 256 ^ rest.length + number rest := by
  rw [number, List.foldl_cons, foldl_number]
  simp

theorem number_append (first second : List UInt8) :
    number (first ++ second) = number first * 256 ^ second.length + number second := by
  rw [number, List.foldl_append, foldl_number]
  rfl

theorem number_lt (data : List UInt8) : number data < 256 ^ data.length := by
  induction data with
  | nil => simp
  | cons byte rest ih =>
    rw [number_cons, List.length_cons, Nat.pow_succ]
    have := byte.toNat_lt
    calc byte.toNat * 256 ^ rest.length + number rest
        < byte.toNat * 256 ^ rest.length + 256 ^ rest.length := by omega
      _ = (byte.toNat + 1) * 256 ^ rest.length := by ring
      _ ≤ 256 * 256 ^ rest.length := by gcongr; omega
      _ = 256 ^ rest.length * 256 := by ring

theorem bigEndian_succ (n width : Nat) :
    bigEndian n (width + 1) = UInt8.ofNat (n / 256 ^ width) :: bigEndian n width := by
  simp [bigEndian, List.range_succ]

theorem number_bigEndian (n width : Nat) : number (bigEndian n width) = n % 256 ^ width := by
  induction width with
  | zero => simp [bigEndian, Nat.mod_one]
  | succ width ih =>
    have byte : (UInt8.ofNat (n / 256 ^ width)).toNat = n / 256 ^ width % 256 := by simp
    rw [bigEndian_succ, number_cons, bigEndian_length, ih, byte, Nat.pow_succ, Nat.mod_mul]
    ring

theorem number_word {n : Nat} (small : n < 2 ^ 256) : number (word n) = n := by
  rw [word, number_bigEndian, Nat.mod_eq_of_lt (by simpa using small)]

variable {first second output : List UInt8} {start : Nat} {ts : List Ty}

theorem number_injective (length : first.length = second.length) (same : number first = number second) : first = second := by
  induction first generalizing second with
  | nil => exact (List.length_eq_zero_iff.mp length.symm).symm
  | cons x rest ih =>
    cases second with
    | nil => cases length
    | cons y others =>
      have length : rest.length = others.length := by simpa using length
      rw [number_cons, number_cons, length] at same
      have low := number_lt rest
      have low' := number_lt others
      rw [length] at low
      have high : x.toNat = y.toNat := by
        have := congrArg (· / 256 ^ others.length) same
        simpa [Nat.mul_comm _ (256 ^ others.length), Nat.mul_add_div (Nat.pow_pos (by decide : 0 < 256)),
          Nat.div_eq_of_lt low, Nat.div_eq_of_lt low'] using this
      rw [UInt8.toNat_inj.mp high, ih length (by rw [high] at same; omega)]

theorem word_number {data : List UInt8} (length : data.length = 32) : word (number data) = data := by
  apply number_injective (by simp [length])
  have small := number_lt data
  rw [length] at small
  exact number_word (by simpa using small)

/-! ### Types and values -/

inductive Ty
  | word (width : Nat)
  | words (width : Nat)
  | text
deriving DecidableEq

/-- A text is its bytes. -/
@[reducible] def Ty.Val : Ty → Type
  | .word width => BitVec width
  | .words width => List (BitVec width)
  | .text => List UInt8

/-- Numbers fit a word. -/
def Ty.Fits : Ty → Prop
  | .word width => width ≤ 256
  | .words width => width ≤ 256
  | .text => True

@[reducible] def Tuple : List Ty → Type
  | [] => Unit
  | t :: ts => t.Val × Tuple ts

/-! ### Packing -/

/-- Zeros up to the next multiple of 32. -/
def padding (length : Nat) : List UInt8 := List.replicate ((32 - length % 32) % 32) 0

/-- The tail of a dynamic argument. -/
def tail : (t : Ty) → t.Val → List UInt8
  | .word _, _ => []
  | .words _, values => word values.length ++ values.flatMap fun value => word value.toNat
  | .text, data => word data.length ++ (data ++ padding data.length)

/-- The word of an argument, where a tail begins at the offset. -/
def head : (t : Ty) → t.Val → Nat → List UInt8
  | .word _, value, _ => word value.toNat
  | _, _, offset => word offset

def heads : (ts : List Ty) → Tuple ts → Nat → List UInt8
  | [], _, _ => []
  | t :: ts, (value, values), offset => head t value offset ++ heads ts values (offset + (tail t value).length)

def tails : (ts : List Ty) → Tuple ts → List UInt8
  | [], _ => []
  | t :: ts, (value, values) => tail t value ++ tails ts values

/-- `Arguments.Pack`. -/
def pack (ts : List Ty) (values : Tuple ts) : List UInt8 := heads ts values (32 * ts.length) ++ tails ts values

/-! ### Unpacking -/

/-- `output[start : start+32]` as a number. -/
def wordAt (output : List UInt8) (start : Nat) : Option Nat :=
  if start + 32 ≤ output.length then some (number ((output.drop start).take 32)) else none

/-- `lengthPrefixPointsTo`: where the tail's items begin and how many there are. Its
bounds on the bit length hold for every slice that fits into memory. -/
def lengthPrefixPointsTo (output : List UInt8) (index : Nat) : Option (Nat × Nat) := do
  let offset ← wordAt output index
  let length ← wordAt output offset
  if offset + 32 + length ≤ output.length then some (offset + 32, length) else none

/-- `forEachUnpack` for items of one word. -/
def forEachUnpack (width : Nat) (output : List UInt8) : Nat → Nat → Option (List (BitVec width))
  | _, 0 => some []
  | start, size + 1 => do
    let value ← wordAt output start
    let rest ← forEachUnpack width output (start + 32) size
    some (BitVec.ofNat width value :: rest)

/-- `toGoType`. -/
def toGoType (output : List UInt8) : (t : Ty) → Nat → Option t.Val
  | .word width, index => (wordAt output index).map (BitVec.ofNat width)
  | .words width, index => do
    let (start, size) ← lengthPrefixPointsTo output index
    if start + 32 * size ≤ output.length then forEachUnpack width output start size else none
  | .text, index => do
    let (start, size) ← lengthPrefixPointsTo output index
    some ((output.drop start).take size)

def unpackFrom (output : List UInt8) : (ts : List Ty) → Nat → Option (Tuple ts)
  | [], _ => some ()
  | t :: ts, index => do
    let value ← toGoType output t index
    let values ← unpackFrom output ts (index + 32)
    some (value, values)

/-- `Arguments.Unpack`: no data is no arguments. -/
def unpack (ts : List Ty) (data : List UInt8) : Option (Tuple ts) :=
  if data = [] ∧ ts ≠ [] then none else unpackFrom data ts 0

/-! ### What was packed is unpacked -/

/-- The bytes of `part` stand at `start`. -/
def At (output : List UInt8) (start : Nat) (part : List UInt8) : Prop :=
  ∃ before after, output = before ++ (part ++ after) ∧ before.length = start

theorem At.left (at_ : At output start (first ++ second)) :
    At output start first := by
  obtain ⟨before, after, rfl, length⟩ := at_
  exact ⟨before, second ++ after, by simp, length⟩

theorem At.right (at_ : At output start (first ++ second)) :
    At output (start + first.length) second := by
  obtain ⟨before, after, rfl, rfl⟩ := at_
  exact ⟨before ++ first, after, by simp, by simp⟩

theorem At.le {part : List UInt8} (at_ : At output start part) :
    start + part.length ≤ output.length := by
  obtain ⟨before, after, rfl, rfl⟩ := at_
  simp

theorem At.read {part : List UInt8} (at_ : At output start part) :
    (output.drop start).take part.length = part := by
  obtain ⟨before, after, rfl, rfl⟩ := at_
  simp

theorem wordAt_of_at {start n : Nat} (at_ : At output start (word n)) (small : n < 2 ^ 256) :
    wordAt output start = some n := by
  have bound := at_.le
  have read := at_.read
  rw [word_length] at bound read
  rw [wordAt, if_pos bound, read, number_word small]

section Sizes

variable {width : Nat} (fits : width ≤ 256)

include fits

theorem toNat_lt_word (value : BitVec width) : value.toNat < 2 ^ 256 :=
  lt_of_lt_of_le value.isLt (Nat.pow_le_pow_right (by decide) fits)

theorem forEachUnpack_of_at {values : List (BitVec width)}
    (at_ : At output start (values.flatMap fun value => word value.toNat)) :
    forEachUnpack width output start values.length = some values := by
  induction values generalizing start with
  | nil => rfl
  | cons value rest ih =>
    rw [List.flatMap_cons] at at_
    have next := at_.right
    rw [word_length] at next
    simp [forEachUnpack, wordAt_of_at at_.left (toNat_lt_word fits value), ih next]

end Sizes

theorem flatMap_word_length {width : Nat} (values : List (BitVec width)) :
    (values.flatMap fun value => word value.toNat).length = 32 * values.length := by
  induction values with
  | nil => rfl
  | cons value rest ih =>
    rw [List.flatMap_cons, List.length_append, ih, word_length, List.length_cons]
    ring

/-- A tail is found through the offset that points to it. -/
theorem lengthPrefixPointsTo_of_at {output rest : List UInt8} {index offset length : Nat}
    (pointer : At output index (word offset)) (body : At output offset (word length ++ rest)) (fits : length ≤ rest.length)
    (bounded : output.length < 2 ^ 256) : lengthPrefixPointsTo output index = some (offset + 32, length) := by
  have inside := body.le
  rw [List.length_append, word_length] at inside
  have first := wordAt_of_at pointer (by omega)
  have second := wordAt_of_at body.left (by omega)
  simp only [lengthPrefixPointsTo, first, second, Option.bind_eq_bind, Option.bind_some]
  rw [if_pos (by omega)]

theorem toGoType_of_at (bounded : output.length < 2 ^ 256) {t : Ty} (fits : t.Fits) (value : t.Val)
    {index offset : Nat} (here : At output index (head t value offset)) (there : At output offset (tail t value)) :
    toGoType output t index = some value := by
  cases t with
  | word width =>
    have read := wordAt_of_at here (toNat_lt_word fits value)
    simp [toGoType, read]
  | words width =>
    have items := flatMap_word_length value
    have pointed := lengthPrefixPointsTo_of_at here there (by omega) bounded
    have body := there.right
    rw [word_length] at body
    have inside := body.le
    simp only [toGoType, pointed, Option.bind_eq_bind, Option.bind_some]
    rw [if_pos (by omega), forEachUnpack_of_at fits body]
  | text =>
    have pointed := lengthPrefixPointsTo_of_at here there (by simp) bounded
    have body := there.right.left
    rw [word_length] at body
    simp only [toGoType, pointed, Option.bind_eq_bind, Option.bind_some]
    rw [body.read]

theorem unpackFrom_of_at (bounded : output.length < 2 ^ 256) (fits : ∀ t ∈ ts, t.Fits) (values : Tuple ts)
    {index offset : Nat} (here : At output index (heads ts values offset))
    (there : At output offset (tails ts values)) : unpackFrom output ts index = some values := by
  induction ts generalizing index offset with
  | nil => rfl
  | cons t ts ih =>
    obtain ⟨value, values⟩ := values
    have size : (head t value offset).length = 32 := by cases t <;> simp [head]
    have next := here.right
    rw [size] at next
    have first := toGoType_of_at bounded (fits t (.head _)) value here.left there.left
    have rest := ih (fun t member => fits t (.tail _ member)) values next there.right
    simp [unpackFrom, first, rest]

theorem heads_length (ts : List Ty) (values : Tuple ts) (offset : Nat) : (heads ts values offset).length = 32 * ts.length := by
  induction ts generalizing offset with
  | nil => rfl
  | cons t ts ih =>
    obtain ⟨value, values⟩ := values
    have size : (head t value offset).length = 32 := by cases t <;> simp [head]
    rw [heads, List.length_append, size, ih, List.length_cons]
    ring

/-- Bytes that an argument adds behind the heads. -/
def tailLength : (t : Ty) → t.Val → Nat
  | .word _, _ => 0
  | .words _, values => 32 + 32 * values.length
  | .text, data => 32 + data.length + (32 - data.length % 32) % 32

theorem tail_length (t : Ty) (value : t.Val) : (tail t value).length = tailLength t value := by
  cases t with
  | word width => rfl
  | words width => rw [tail, List.length_append, word_length, flatMap_word_length, tailLength]
  | text => simp [tail, tailLength, padding, Nat.add_assoc]

theorem pack_length (values : Tuple ts) :
    (pack ts values).length = 32 * ts.length + (tails ts values).length := by
  rw [pack, List.length_append, heads_length]

/-- What was packed is unpacked, whatever stands behind it. -/
theorem unpack_append (fits : ∀ t ∈ ts, t.Fits) (values : Tuple ts) (rest : List UInt8)
    (bounded : (pack ts values ++ rest).length < 2 ^ 256) : unpack ts (pack ts values ++ rest) = some values := by
  have whole : ¬ (pack ts values ++ rest = [] ∧ ts ≠ []) := by
    rintro ⟨empty, some⟩
    have length := congrArg List.length (List.append_eq_nil_iff.mp empty).1
    rw [pack_length, List.length_nil] at length
    have := List.length_pos_iff.mpr some
    omega
  rw [unpack, if_neg whole]
  have here : At (pack ts values ++ rest) 0 (heads ts values (32 * ts.length)) :=
    ⟨[], tails ts values ++ rest, by simp [pack], rfl⟩
  have there : At (pack ts values ++ rest) (32 * ts.length) (tails ts values) :=
    ⟨heads ts values (32 * ts.length), rest, by simp [pack], heads_length ts values _⟩
  exact unpackFrom_of_at bounded fits values here there

/-- **What was packed is unpacked.** -/
theorem unpack_pack (fits : ∀ t ∈ ts, t.Fits) (values : Tuple ts) (bounded : (pack ts values).length < 2 ^ 256) : unpack ts (pack ts values) = some values := by
  have whole := unpack_append fits values [] (by simpa using bounded)
  rwa [List.append_nil] at whole

/-! ### Words of full width

Unpacking full words loses nothing: the packed words are the bytes they were read from,
and only what stands behind them is ignored. -/

theorem wordAt_eq_some {start n : Nat} (read : wordAt output start = some n) :
    n < 2 ^ 256 ∧ word n = (output.drop start).take 32 ∧ start + 32 ≤ output.length := by
  unfold wordAt at read
  split at read
  next inside =>
    have length : ((output.drop start).take 32).length = 32 := by
      rw [List.length_take, List.length_drop]
      omega
    rw [← Option.some.inj read]
    have small := number_lt ((output.drop start).take 32)
    rw [length] at small
    exact ⟨by simpa using small, word_number length, inside⟩
  next => cases read

theorem unpackFrom_words (offset : Nat) (full : ∀ t ∈ ts, t = .word 256) {index : Nat} {values : Tuple ts}
    (read : unpackFrom output ts index = some values) :
    heads ts values offset = (output.drop index).take (32 * ts.length) ∧ tails ts values = [] := by
  induction ts generalizing index with
  | nil => exact ⟨by simp [heads], rfl⟩
  | cons t ts ih =>
    obtain rfl := full t (.head _)
    obtain ⟨value, rest⟩ := values
    simp only [unpackFrom, toGoType, Option.bind_eq_bind, Option.bind_eq_some_iff, Option.map_eq_some_iff,
      Option.some.injEq, Prod.mk.injEq] at read
    obtain ⟨first, ⟨n, here, rfl⟩, others, there, rfl, rfl⟩ := read
    obtain ⟨small, spelled, -⟩ := wordAt_eq_some here
    obtain ⟨heads_rest, tails_rest⟩ := ih (fun t member => full t (.tail _ member)) there
    have word : (BitVec.ofNat 256 n).toNat = n := by rw [BitVec.toNat_ofNat, Nat.mod_eq_of_lt small]
    constructor
    · simp only [heads, head, tail, List.length_nil, Nat.add_zero, word, spelled, heads_rest]
      rw [← List.drop_drop, ← List.take_add, List.length_cons, Nat.mul_succ, Nat.add_comm]
    · simpa only [tails, tail, List.nil_append] using tails_rest

theorem pack_unpack_words {data : List UInt8} (full : ∀ t ∈ ts, t = .word 256) {values : Tuple ts}
    (read : unpack ts data = some values) : pack ts values = data.take (32 * ts.length) := by
  unfold unpack at read
  split at read
  next => cases read
  next =>
    obtain ⟨first, second⟩ := unpackFrom_words (32 * ts.length) full read
    rw [pack, first, second, List.append_nil, List.drop_zero]

end Abi
