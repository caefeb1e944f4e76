import WizPay.Lib.GoText

/-!
# Keccak-256

The permutation of FIPS 202 and the sponge with the original padding. The lanes are
fields and not the items of a list, so that the kernel evaluates a digest quickly.
-/
namespace Keccak

structure Row where
  a : UInt64
  b : UInt64
  c : UInt64
  d : UInt64
  e : UInt64

structure State where
  a : Row
  b : Row
  c : Row
  d : Row
  e : Row

def roundConstants : List UInt64 := [
  0x0000000000000001, 0x0000000000008082, 0x800000000000808a, 0x8000000080008000, 0x000000000000808b,
  0x0000000080000001, 0x8000000080008081, 0x8000000000008009, 0x000000000000008a, 0x0000000000000088,
  0x0000000080008009, 0x000000008000000a, 0x000000008000808b, 0x800000000000008b, 0x8000000000008089,
  0x8000000000008003, 0x8000000000008002, 0x8000000000000080, 0x000000000000800a, 0x800000008000000a,
  0x8000000080008081, 0x8000000000008080, 0x0000000080000001, 0x8000000080008008]

def rotl (x n : UInt64) : UInt64 := (x <<< n) ||| (x >>> (64 - n))

def Row.xor (r s : Row) : Row := ⟨r.a ^^^ s.a, r.b ^^^ s.b, r.c ^^^ s.c, r.d ^^^ s.d, r.e ^^^ s.e⟩

def State.xor (s t : State) : State := ⟨s.a.xor t.a, s.b.xor t.b, s.c.xor t.c, s.d.xor t.d, s.e.xor t.e⟩

def theta (s : State) : State :=
  let c := s.a.xor (s.b.xor (s.c.xor (s.d.xor s.e)))
  let parity : Row :=
    ⟨c.e ^^^ rotl c.b 1, c.a ^^^ rotl c.c 1, c.b ^^^ rotl c.d 1, c.c ^^^ rotl c.e 1, c.d ^^^ rotl c.a 1⟩
  s.xor ⟨parity, parity, parity, parity, parity⟩

/-- The rotation of the lanes and their move to new places, `rho` and `pi`. -/
def moved (s : State) : State :=
  ⟨⟨s.a.a, rotl s.b.b 44, rotl s.c.c 43, rotl s.d.d 21, rotl s.e.e 14⟩,
    ⟨rotl s.a.d 28, rotl s.b.e 20, rotl s.c.a 3, rotl s.d.b 45, rotl s.e.c 61⟩,
    ⟨rotl s.a.b 1, rotl s.b.c 6, rotl s.c.d 25, rotl s.d.e 8, rotl s.e.a 18⟩,
    ⟨rotl s.a.e 27, rotl s.b.a 36, rotl s.c.b 10, rotl s.d.c 15, rotl s.e.d 56⟩,
    ⟨rotl s.a.c 62, rotl s.b.d 55, rotl s.c.e 39, rotl s.d.a 41, rotl s.e.b 2⟩⟩

def Row.chi (r : Row) : Row :=
  ⟨r.a ^^^ (~~~r.b &&& r.c), r.b ^^^ (~~~r.c &&& r.d), r.c ^^^ (~~~r.d &&& r.e), r.d ^^^ (~~~r.e &&& r.a),
    r.e ^^^ (~~~r.a &&& r.b)⟩

def chi (s : State) : State := ⟨s.a.chi, s.b.chi, s.c.chi, s.d.chi, s.e.chi⟩

def iota (constant : UInt64) (s : State) : State := { s with a := { s.a with a := s.a.a ^^^ constant } }

def permutation (s : State) : State :=
  roundConstants.foldl (fun s constant => iota constant (chi (moved (theta s)))) s

/-- The little-endian lanes of a block. -/
def lanesOf : List UInt8 → List UInt64
  | a :: b :: c :: d :: e :: f :: g :: h :: rest =>
    (a.toUInt64 ||| (b.toUInt64 <<< 8) ||| (c.toUInt64 <<< 16) ||| (d.toUInt64 <<< 24) ||| (e.toUInt64 <<< 32) |||
      (f.toUInt64 <<< 40) ||| (g.toUInt64 <<< 48) ||| (h.toUInt64 <<< 56)) :: lanesOf rest
  | _ => []

def Row.ofLanes (lanes : List UInt64) : Row :=
  ⟨lanes.getD 0 0, lanes.getD 1 0, lanes.getD 2 0, lanes.getD 3 0, lanes.getD 4 0⟩

def State.ofLanes (lanes : List UInt64) : State :=
  ⟨.ofLanes lanes, .ofLanes (lanes.drop 5), .ofLanes (lanes.drop 10), .ofLanes (lanes.drop 15), .ofLanes (lanes.drop 20)⟩

def rate : Nat := 136

/-- The padding ends in the same byte in which it begins when one byte is missing. -/
def pad (message : List UInt8) : List UInt8 :=
  let missing := rate - message.length % rate
  if missing = 1 then message ++ [0x81] else message ++ [0x01] ++ List.replicate (missing - 2) 0 ++ [0x80]

def absorb (s : State) (block : List UInt8) : State := permutation (s.xor (.ofLanes (lanesOf block)))

def blocks : Nat → List UInt8 → List (List UInt8)
  | 0, _ => []
  | count + 1, message => message.take rate :: blocks count (message.drop rate)

/-- The eight bytes of a lane, the lowest first. -/
def bytesOf (value : UInt64) : List UInt8 := (List.range 8).map fun i => UInt8.ofNat (value.toNat / 256 ^ i)

/-- `sha3.NewLegacyKeccak256`. -/
def sum256 (message : List UInt8) : List UInt8 :=
  let padded := pad message
  let s := (blocks (padded.length / rate) padded).foldl absorb (.ofLanes [])
  [s.a.a, s.a.b, s.a.c, s.a.d].flatMap bytesOf

@[simp] theorem sum256_length (message : List UInt8) : (sum256 message).length = 32 := by
  simp [sum256, bytesOf]

-- the digest of the empty message
example : (sum256 []).take 4 = [0xc5, 0xd2, 0x46, 0x01] := by decide +kernel

end Keccak
