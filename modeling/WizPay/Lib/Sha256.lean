import WizPay.Lib.GoText

/-!
# SHA-256

FIPS 180-4 over lists of bytes. Every definition is structurally recursive, so a digest
of a short message is evaluated by the kernel.
-/
namespace Sha256

open GoText

/-- The eight working variables, and the eight words of the chaining value. -/
structure Words where
  a : UInt32
  b : UInt32
  c : UInt32
  d : UInt32
  e : UInt32
  f : UInt32
  g : UInt32
  h : UInt32

def initial : Words :=
  ⟨0x6a09e667, 0xbb67ae85, 0x3c6ef372, 0xa54ff53a, 0x510e527f, 0x9b05688c, 0x1f83d9ab, 0x5be0cd19⟩

def roundConstants : List UInt32 := [
  0x428a2f98, 0x71374491, 0xb5c0fbcf, 0xe9b5dba5, 0x3956c25b, 0x59f111f1, 0x923f82a4, 0xab1c5ed5,
  0xd807aa98, 0x12835b01, 0x243185be, 0x550c7dc3, 0x72be5d74, 0x80deb1fe, 0x9bdc06a7, 0xc19bf174,
  0xe49b69c1, 0xefbe4786, 0x0fc19dc6, 0x240ca1cc, 0x2de92c6f, 0x4a7484aa, 0x5cb0a9dc, 0x76f988da,
  0x983e5152, 0xa831c66d, 0xb00327c8, 0xbf597fc7, 0xc6e00bf3, 0xd5a79147, 0x06ca6351, 0x14292967,
  0x27b70a85, 0x2e1b2138, 0x4d2c6dfc, 0x53380d13, 0x650a7354, 0x766a0abb, 0x81c2c92e, 0x92722c85,
  0xa2bfe8a1, 0xa81a664b, 0xc24b8b70, 0xc76c51a3, 0xd192e819, 0xd6990624, 0xf40e3585, 0x106aa070,
  0x19a4c116, 0x1e376c08, 0x2748774c, 0x34b0bcb5, 0x391c0cb3, 0x4ed8aa4a, 0x5b9cca4f, 0x682e6ff3,
  0x748f82ee, 0x78a5636f, 0x84c87814, 0x8cc70208, 0x90befffa, 0xa4506ceb, 0xbef9a3f7, 0xc67178f2]

def rotr (x n : UInt32) : UInt32 := (x >>> n) ||| (x <<< (32 - n))

def round (s : Words) (k w : UInt32) : Words :=
  let sum1 := rotr s.e 6 ^^^ rotr s.e 11 ^^^ rotr s.e 25
  let choice := (s.e &&& s.f) ^^^ (~~~s.e &&& s.g)
  let first := s.h + sum1 + choice + k + w
  let sum0 := rotr s.a 2 ^^^ rotr s.a 13 ^^^ rotr s.a 22
  let majority := (s.a &&& s.b) ^^^ (s.a &&& s.c) ^^^ (s.b &&& s.c)
  ⟨first + (sum0 + majority), s.a, s.b, s.c, s.d + first, s.e, s.f, s.g⟩

/-- Extend the message schedule; the newest word stands first. -/
def extend : Nat → List UInt32 → List UInt32
  | 0, schedule => schedule
  | count + 1, schedule =>
    let x := schedule.getD 1 0
    let y := schedule.getD 14 0
    let sigma1 := rotr x 17 ^^^ rotr x 19 ^^^ (x >>> 10)
    let sigma0 := rotr y 7 ^^^ rotr y 18 ^^^ (y >>> 3)
    extend count ((sigma1 + schedule.getD 6 0 + sigma0 + schedule.getD 15 0) :: schedule)

/-- The big-endian 32-bit words of a block. -/
def wordsOf : List UInt8 → List UInt32
  | a :: b :: c :: d :: rest =>
    ((a.toUInt32 <<< 24) ||| (b.toUInt32 <<< 16) ||| (c.toUInt32 <<< 8) ||| d.toUInt32) :: wordsOf rest
  | _ => []

def compress (s : Words) (block : List UInt8) : Words :=
  let schedule := (extend 48 (wordsOf block).reverse).reverse
  let r := (roundConstants.zip schedule).foldl (fun s kw => round s kw.1 kw.2) s
  ⟨s.a + r.a, s.b + r.b, s.c + r.c, s.d + r.d, s.e + r.e, s.f + r.f, s.g + r.g, s.h + r.h⟩

/-- The low `width` bytes of `n`, most significant first. -/
def bigEndian (n width : Nat) : List UInt8 :=
  (List.range width).reverse.map fun i => UInt8.ofNat (n / 256 ^ i)

def pad (message : List UInt8) : List UInt8 :=
  message ++ [0x80] ++ List.replicate ((119 - message.length % 64) % 64) 0 ++ bigEndian (8 * message.length) 8

def blocks : Nat → List UInt8 → List (List UInt8)
  | 0, _ => []
  | count + 1, message => message.take 64 :: blocks count (message.drop 64)

/-- `sha256.Sum256`. -/
def sum256 (message : List UInt8) : List UInt8 :=
  let padded := pad message
  let r := (blocks (padded.length / 64) padded).foldl compress initial
  [r.a, r.b, r.c, r.d, r.e, r.f, r.g, r.h].flatMap fun word => bigEndian word.toNat 4

/-! ### Hexadecimal text -/

def hexDigit (n : Nat) : Char := "0123456789abcdef".toList.getD n '0'

def hexByte (b : UInt8) : List Char := [hexDigit (b.toNat / 16), hexDigit (b.toNat % 16)]

/-- `hex.EncodeToString`. -/
def hexText (data : List UInt8) : String := String.ofList (data.flatMap hexByte)

-- the first test vector of FIPS 180-4
example : hexText (sum256 [0x61, 0x62, 0x63]) =
    "ba7816bf8f01cfea414140de5dae2223b00361a396177a9cb410ff61f20015ad" := by decide +kernel

theorem hexDigit_injective : ∀ m < 16, ∀ n < 16, hexDigit m = hexDigit n → m = n := by decide

theorem hexByte_injective {x y : UInt8} (same : hexByte x = hexByte y) : x = y := by
  simp only [hexByte, List.cons.injEq, and_true] at same
  have hx := x.toNat_lt
  have hy := y.toNat_lt
  have high := hexDigit_injective _ (by omega) _ (by omega) same.1
  have low := hexDigit_injective _ (by omega) _ (by omega) same.2
  exact UInt8.toNat_inj.mp (by omega)

theorem hexText_injective {first second : List UInt8} (same : hexText first = hexText second) :
    first = second := by
  have chars : first.flatMap hexByte = second.flatMap hexByte := String.ofList_inj.mp same
  clear same
  induction first generalizing second with
  | nil =>
    cases second with
    | nil => rfl
    | cons y rest => simp [hexByte] at chars
  | cons x rest ih =>
    cases second with
    | nil => simp [hexByte] at chars
    | cons y others =>
      simp only [List.flatMap_cons] at chars
      obtain ⟨head, tail⟩ := List.append_inj chars rfl
      rw [hexByte_injective head, ih tail]

/-! ### The text of a digest is plain -/

theorem sum256_length (message : List UInt8) : (sum256 message).length = 32 := by
  simp [sum256, bigEndian]

theorem isGraphic_hexDigit (n : Nat) : isGraphic (hexDigit n) = true := by
  by_cases small : n < 16
  · revert n
    decide
  · have outside : "0123456789abcdef".toList.length ≤ n := by
      simp; omega
    rw [hexDigit, List.getD_eq_getElem?_getD, List.getElem?_eq_none outside]
    decide

theorem isGraphic_hexText (data : List UInt8) : ∀ c ∈ (hexText data).toList, isGraphic c = true := by
  intro c member
  simp only [hexText, String.toList_ofList, List.mem_flatMap, hexByte, List.mem_cons, List.not_mem_nil, or_false] at member
  obtain ⟨byte, -, rfl | rfl⟩ := member
  · exact isGraphic_hexDigit _
  · exact isGraphic_hexDigit _

theorem hexText_length (data : List UInt8) : (hexText data).toList.length = 2 * data.length := by
  simp only [hexText, String.toList_ofList]
  induction data with
  | nil => rfl
  | cons byte rest ih => simp [hexByte, ih]; omega

end Sha256
