import WizPay.Contracts.Payroll
import WizPay.Contracts.Swap

/-!
# Encoders and decoders are inverse

Encoded calldata is decoded to the same values, with the addresses spelled by the
decoder, and decoded calldata is the encoding of what it was decoded to.
-/
namespace WizPay.Contracts

open Checks

section Inverse

variable {Input Decoded : Type}

/-- A decoder inverts an encoder. `input` hands what was decoded to the encoder, and
`respelled` spells the addresses of an input as the decoder does. -/
structure Inverse (encode : Option Registry → Input → Except Error EncodedCall)
    (decode : List UInt8 → Except Error Decoded) (input : Decoded → Input) (respelled : Input → Input) : Prop where
  decodes : ∀ registry i call, encode registry i = .ok call → ∃ out, decode call.callData = .ok out ∧ input out = respelled i
  encodes : ∀ data out, decode data = .ok out → ∃ call, encode none (input out) = .ok call ∧ call.callData = data
  injective : ∀ first second out, decode first = .ok out → decode second = .ok out → first = second

variable {ts : List Abi.Ty} {signature method label : String} {read : Abi.Tuple ts → Decoded}
  {check : Input → Except Error Unit} {input : Decoded → Input} {respelled : Input → Input}
  {values : Input → Abi.Tuple ts} {encode : Option Registry → Input → Except Error EncodedCall}

/-- The three codecs have one shape: arguments are packed behind a selector, and reading
the packed arguments of a checked input gives the input back. -/
theorem inverse_of
    (encoded : ∀ registry i call, encode registry i = .ok call →
      check i = .ok () ∧ call.callData = selector4 signature ++ Abi.pack ts (values i))
    (encodes : ∀ i, check i = .ok () → ∃ call, encode none i = .ok call ∧
      call.callData = selector4 signature ++ Abi.pack ts (values i))
    (unpacks : ∀ i, check i = .ok () → Abi.unpack ts (Abi.pack ts (values i)) = some (values i))
    (reads : ∀ i, check i = .ok () → input (read (values i)) = respelled i ∧ check (respelled i) = .ok ())
    (written : ∀ arguments, values (input (read arguments)) = arguments) :
    Inverse encode (decodeCall signature method label read fun out => check (input out)) input respelled where
  decodes := by
    intro registry i call sealed
    obtain ⟨checked, data⟩ := encoded registry i call sealed
    obtain ⟨same, passes⟩ := reads i checked
    refine ⟨read (values i), decodeCall_eq_ok.mpr ⟨values i, data, unpacks i checked, ?_, rfl⟩, same⟩
    rw [same]
    exact passes
  encodes := by
    intro data out decoded
    obtain ⟨arguments, rfl, -, checked, rfl⟩ := decodeCall_eq_ok.mp decoded
    obtain ⟨call, sealed, callData⟩ := encodes _ checked
    rw [written] at callData
    exact ⟨call, sealed, callData⟩
  injective := by
    intro first second out decoded decoded'
    obtain ⟨arguments, rfl, -, -, rfl⟩ := decodeCall_eq_ok.mp decoded
    obtain ⟨arguments', rfl, -, -, same⟩ := decodeCall_eq_ok.mp decoded'
    have values_same := congrArg (fun out => values (input out)) same
    rw [written, written] at values_same
    rw [values_same]

end Inverse

namespace Payroll

theorem unpack_sameToken {input : SameTokenPayrollInput} (checked : validateSameToken input = .ok ()) :
    Abi.unpack sameTokenTypes (Abi.pack sameTokenTypes input.values) = some input.values := by
  simp only [validateSameToken, guard_ok] at checked
  obtain ⟨-, few, length, -, -, short, -⟩ := validateBatch_eq_ok.mp checked.2
  apply Abi.unpack_pack
  · simp [sameTokenTypes, Abi.Ty.Fits]
  · have size : (Abi.pack sameTokenTypes input.values).length ≤ 10000 := by
      simp only [Abi.pack_length, sameTokenTypes, SameTokenPayrollInput.values, Abi.tails, List.length_append,
        Abi.tail_length, Abi.tailLength, List.length_map, List.length_cons, List.length_nil]
      simp only [maxBatchRecipients, maxReferenceIDLength] at few short
      omega
    exact lt_of_le_of_lt size (by decide)

theorem unpack_crossToken {input : CrossTokenPayrollInput} (checked : validateCrossToken input = .ok ()) :
    Abi.unpack crossTokenTypes (Abi.pack crossTokenTypes input.values) = some input.values := by
  simp only [validateCrossToken, guard_ok] at checked
  obtain ⟨-, few, length, -, -, short, -⟩ := validateBatch_eq_ok.mp checked.2.1
  apply Abi.unpack_pack
  · simp [crossTokenTypes, Abi.Ty.Fits]
  · have size : (Abi.pack crossTokenTypes input.values).length ≤ 10000 := by
      simp only [Abi.pack_length, crossTokenTypes, CrossTokenPayrollInput.values, Abi.tails, List.length_append,
        Abi.tail_length, Abi.tailLength, List.length_map, List.length_cons, List.length_nil]
      simp only [maxBatchRecipients, maxReferenceIDLength] at few short
      omega
    exact lt_of_le_of_lt size (by decide)

end Payroll

theorem Swap.unpack_executeSwap (input : Swap.ExecuteSwapInput) :
    Abi.unpack Swap.executeSwapTypes (Abi.pack Swap.executeSwapTypes input.values) = some input.values := by
  apply Abi.unpack_pack
  · simp [Swap.executeSwapTypes, Abi.Ty.Fits]
  · simp [Abi.pack_length, Swap.executeSwapTypes, Swap.ExecuteSwapInput.values, Abi.tails, Abi.tail_length,
      Abi.tailLength]

theorem Payroll.sameToken_inverse :
    Inverse Payroll.encodeSameTokenPayroll Payroll.decodeSameTokenPayrollCall Payroll.DecodedSameTokenPayroll.input
      Payroll.SameTokenPayrollInput.respelled :=
  inverse_of (fun _ _ _ sealed => Payroll.encode_callData sealed)
    (fun _ checked => ⟨_, Payroll.encode_default (by simp [Payroll.payrollSignatures]) checked _, rfl⟩)
    (fun _ checked => Payroll.unpack_sameToken checked) (fun _ checked => Payroll.read_sameToken_values checked)
    Payroll.sameToken_values_read

theorem Payroll.crossToken_inverse :
    Inverse Payroll.encodeCrossTokenPayroll Payroll.decodeCrossTokenPayrollCall Payroll.DecodedCrossTokenPayroll.input
      Payroll.CrossTokenPayrollInput.respelled :=
  inverse_of (fun _ _ _ sealed => Payroll.encode_callData sealed)
    (fun _ checked => ⟨_, Payroll.encode_default (by simp [Payroll.payrollSignatures]) checked _, rfl⟩)
    (fun _ checked => Payroll.unpack_crossToken checked) (fun _ checked => Payroll.read_crossToken_values checked)
    Payroll.crossToken_values_read

theorem Swap.executeSwap_inverse :
    Inverse Swap.encodeExecuteSwap Swap.decodeExecuteSwapCall Swap.DecodedExecuteSwap.input Swap.ExecuteSwapInput.respelled :=
  inverse_of (fun _ _ _ sealed => Swap.encodeExecuteSwap_callData sealed)
    (fun _ checked => ⟨_, Swap.encodeExecuteSwap_default checked, rfl⟩)
    (fun input _ => Swap.unpack_executeSwap input) (fun _ checked => Swap.read_values checked) Swap.values_read

open Payroll Swap in
/-- **Encoders and decoders are inverse**, for every registry, batch and reference ID. -/
theorem calldata_codecs_inverse :
    Inverse encodeSameTokenPayroll decodeSameTokenPayrollCall DecodedSameTokenPayroll.input
        SameTokenPayrollInput.respelled ∧
      Inverse encodeCrossTokenPayroll decodeCrossTokenPayrollCall DecodedCrossTokenPayroll.input
        CrossTokenPayrollInput.respelled ∧
      Inverse encodeExecuteSwap decodeExecuteSwapCall DecodedExecuteSwap.input ExecuteSwapInput.respelled :=
  ⟨sameToken_inverse, crossToken_inverse, executeSwap_inverse⟩

end WizPay.Contracts
