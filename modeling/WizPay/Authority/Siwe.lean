import WizPay.Authority.Tables

/-!
# Wallet sign-in messages

`internal/siwe/siwe.go`: the signed message, rebuilt from the stored challenge, and the
check of the signature. The elliptic curve is a parameter.
-/
namespace WizPay.Siwe

open GoText GoTime Authority

def errDenied : Error := .text "wallet authentication denied"
def errEnrollmentRequired : Error := .text "owner enrollment required"
def errAccountRevoked : Error := .text "account authority revoked"

def domain : String := "connect.wizpay.xyz"
def uri : String := "https://connect.wizpay.xyz"
def lifetime : Int := 2 * minute

/-- `common.HexToAddress(raw).Hex()`, and the address that a signature of the prefixed
message recovers to, spelled the same way. -/
structure Curve where
  checksum : String → String
  recover : String → List UInt8 → Option String

structure Challenge where
  id : String
  nonce : String
  message : String
  address : String
  sessionReference : String
  transactionID : String
  clientID : String
  tenantID : String
  purpose : Purpose
  issuedAt : Int
  expiresAt : Int
deriving DecidableEq

structure Request where
  sessionDigest : String
  csrfDigest : String
  tenantID : String
  address : String
  requireEnrollment : Bool
deriving DecidableEq

structure Rotation where
  digest : String
  csrfHash : String
  reference : String
deriving DecidableEq

variable (curve : Curve)

/-- `Address`: mixed case must carry the checksum. -/
def address (raw : String) : Option String :=
  if isAddress raw &&
      ((raw.toList.drop 2).all (!isUpperLetter ·) || (raw.toList.drop 2).all (fun c => isDecimalDigit c || isUpperLetter c) ||
        raw == curve.checksum raw) then
    some (curve.checksum raw)
  else none

def statement : Purpose → String
  | .authenticate => "Authenticate to WizPay MCP. This does not authorize transactions."
  | .enroll =>
    "Prove wallet control for WizPay enrollment. Owner approval is required. This does not authenticate or authorize transactions."

/-- `Message`, or a denial. -/
def message (c : Challenge) : Option String :=
  if address curve c.address == some c.address && len c.nonce == 64 && !isZero c.issuedAt && c.issuedAt < c.expiresAt &&
      c.expiresAt - c.issuedAt ≤ lifetime && c.nonce.toList.all Contracts.isHexCharacter then
    some (domain ++ " wants you to sign in with your Ethereum account:\n" ++ c.address ++ "\n\n" ++ statement c.purpose ++
      "\n\nURI: " ++ uri ++ "\nVersion: 1\nChain ID: 5042\nNonce: " ++ c.nonce ++ "\nIssued At: " ++
      formatRFC3339Nano c.issuedAt ++ "\nExpiration Time: " ++ formatRFC3339Nano c.expiresAt)
  else none

def hexValue (c : Char) : Option Nat :=
  if isDecimalDigit c then some (c.toNat - '0'.toNat)
  else if 'a'.toNat ≤ c.toNat && c.toNat ≤ 'f'.toNat then some (c.toNat - 'a'.toNat + 10)
  else if 'A'.toNat ≤ c.toNat && c.toNat ≤ 'F'.toNat then some (c.toNat - 'A'.toNat + 10)
  else none

/-- `hex.DecodeString`. -/
def decodeHex : List Char → Option (List UInt8)
  | [] => some []
  | [_] => none
  | high :: low :: rest => do
    let h ← hexValue high
    let l ← hexValue low
    let bytes ← decodeHex rest
    return UInt8.ofNat (16 * h + l) :: bytes

/-- The big-endian number of some bytes. -/
def number (bytes : List UInt8) : Nat := bytes.foldl (fun value byte => 256 * value + byte.toNat) 0

/-- The order of the curve's group. -/
def order : Nat := 0xfffffffffffffffffffffffffffffffebaaedce6af48a03bbfd25e8cd0364141

/-- `crypto.ValidateSignatureValues` with the lower half of `s`. -/
def validSignatureValues (v r s : Nat) : Bool :=
  1 ≤ r && 1 ≤ s && s ≤ order / 2 && r < order && s < order && (v == 0 || v == 1)

/-- The recovery byte, which wallets write in two ways. -/
def recoveryByte (v : Nat) : Option Nat :=
  if v = 0 ∨ v = 1 then some v else if v = 27 ∨ v = 28 then some (v - 27) else none

/-- The signature with its recovery byte in the short form. -/
def normalized (signature : String) : Option (List UInt8) :=
  match signature.toList with
  | '0' :: 'x' :: digits => do
    let sig ← decodeHex digits
    if sig.length ≠ 65 then none
    let v ← recoveryByte (sig.getD 64 0).toNat
    if validSignatureValues v (number (sig.take 32)) (number ((sig.drop 32).take 32)) then
      some (sig.take 64 ++ [UInt8.ofNat v])
    else none
  | _ => none

/-- `Verify`. -/
def verify (text claimed signature : String) : Bool :=
  len signature == 132 && 0 < len text && len text ≤ 2048 &&
    match normalized signature with
    | none => false
    | some sig =>
      match curve.recover text sig, address curve claimed with
      | some signer, some expected => signer == expected
      | _, _ => false

/-- `ValidTime`. -/
def validTime (c : Challenge) (now : Int) : Bool :=
  !isZero c.issuedAt && !(now < c.issuedAt) && now < c.expiresAt && c.issuedAt < c.expiresAt &&
    c.expiresAt - c.issuedAt ≤ lifetime

end WizPay.Siwe
