import Mathlib
import WizPay.Lib.Digits

/-!
# Codes that are read off a stream

A code is read off the front of a stream when the stream determines both the coded
value and the rest.
-/
namespace Codes

open GoText

/-- A text that is read off up to a mark is known by the number of marks in it. -/
theorem delimited_inj {α : Type*} [DecidableEq α] {mark : α} {first second r s : List α}
    (marks : first.count mark = second.count mark) (same : first ++ mark :: r = second ++ mark :: s) :
    first = second ∧ r = s := by
  induction first generalizing second with
  | nil =>
    cases second with
    | nil => exact ⟨rfl, (List.cons.inj same).2⟩
    | cons c second =>
      obtain ⟨rfl, -⟩ := List.cons.inj same
      simp at marks
  | cons c first ih =>
    cases second with
    | nil =>
      obtain ⟨rfl, -⟩ := List.cons.inj same
      simp at marks
    | cons d second =>
      obtain ⟨rfl, rest⟩ := List.cons.inj same
      obtain ⟨rfl, rfl⟩ := ih (by simpa [List.count_cons] using marks) rest
      exact ⟨rfl, rfl⟩

section Sequences

variable {α β : Type*} {code : α → List β} {valid : α → Prop} {follow : List β → Prop} {agree : α → α → Prop}

/-- Two streams that start with codes and go on as `follow` allows agree in the values and in the rests. -/
def ReadsOff (code : α → List β) (valid : α → Prop) (follow : List β → Prop) (agree : α → α → Prop) : Prop :=
  ∀ ⦃a b r s⦄, valid a → valid b → follow r → follow s → code a ++ r = code b ++ s → agree a b ∧ r = s

theorem follow_flatMap {r : List β} (goesOn : ∀ a rest, follow (code a ++ rest)) (ends : follow r) :
    ∀ values : List α, follow (values.flatMap code ++ r)
  | [] => ends
  | a :: rest => by
    rw [List.flatMap_cons, List.append_assoc]
    exact goesOn a _

/-- A sequence is read off code by code when its length is known or the stream ends with it. -/
theorem ReadsOff.flatMap (reads : ReadsOff code valid follow agree)
    (goesOn : ∀ a rest, follow (code a ++ rest)) {r s : List β} (endsFirst : follow r) (endsSecond : follow s)
    {first second : List α} (validFirst : ∀ a ∈ first, valid a) (validSecond : ∀ a ∈ second, valid a)
    (known : first.length = second.length ∨ (∀ a, code a ≠ []) ∧ r = [] ∧ s = [])
    (same : first.flatMap code ++ r = second.flatMap code ++ s) : List.Forall₂ agree first second ∧ r = s := by
  induction first generalizing second with
  | nil =>
    cases second with
    | nil => exact ⟨.nil, same⟩
    | cons b second => rcases known with size | ⟨starts, rfl, rfl⟩ <;> simp_all
  | cons a first ih =>
    cases second with
    | nil => rcases known with size | ⟨starts, rfl, rfl⟩ <;> simp_all
    | cons b second =>
      rw [List.forall_mem_cons] at validFirst validSecond
      simp only [List.flatMap_cons, List.append_assoc] at same
      obtain ⟨head, rest⟩ := reads validFirst.1 validSecond.1 (follow_flatMap goesOn endsFirst first)
        (follow_flatMap goesOn endsSecond second) same
      obtain ⟨tail, ended⟩ := ih validFirst.2 validSecond.2 (known.imp_left Nat.succ.inj) rest
      exact ⟨.cons head tail, ended⟩

end Sequences

/-! ### Texts in a byte stream -/

theorem bytes_append (first second : String) : bytes (first ++ second) = bytes first ++ bytes second := by
  simp [bytes, String.toByteArray_append]

theorem bytes_eq (text : String) : bytes text = text.toList.flatMap String.utf8EncodeChar := by
  conv_lhs => rw [← String.ofList_toList (s := text), bytes, String.toByteArray_ofList, List.utf8Encode,
    List.data_toByteArray]

/-- Printable ASCII without the mark. -/
def Unmarked (mark : UInt8) (text : String) : Prop := ∀ c ∈ text.toList, isGraphic c = true ∧ c.toNat ≠ mark.toNat

theorem not_mem_bytes {mark : UInt8} {text : String} (unmarked : Unmarked mark text) : mark ∉ bytes text := by
  intro member
  rw [bytes_eq, List.mem_flatMap] at member
  obtain ⟨c, listed, byte⟩ := member
  obtain ⟨graphic, other⟩ := unmarked c listed
  -- a printable character is written as one byte
  rw [String.utf8EncodeChar_eq_singleton (isGraphic_plain graphic).2.2, List.mem_singleton] at byte
  rw [isGraphic_iff] at graphic
  have small : c.val.toNat < 256 := Nat.lt_of_le_of_lt graphic.2 (by decide)
  rw [byte, UInt32.toNat_toUInt8, Nat.mod_eq_of_lt small] at other
  exact other rfl

theorem marked_inj {mark : UInt8} {first second : String} {r s : List UInt8} (plain : Unmarked mark first)
    (plain' : Unmarked mark second) (same : bytes first ++ mark :: r = bytes second ++ mark :: s) :
    first = second ∧ r = s := by
  have marks : (bytes first).count mark = (bytes second).count mark := by
    rw [List.count_eq_zero.mpr (not_mem_bytes plain), List.count_eq_zero.mpr (not_mem_bytes plain')]
  obtain ⟨texts, rest⟩ := delimited_inj marks same
  exact ⟨bytes_injective texts, rest⟩

theorem unmarked_line {text : String} (graphic : ∀ c ∈ text.toList, isGraphic c = true) : Unmarked 10 text := by
  intro c listed
  refine ⟨graphic c listed, fun newline => ?_⟩
  have visible := graphic c listed
  rw [isGraphic, newline] at visible
  exact absurd visible (by decide)

theorem toString_nat_inj {m n : Nat} (same : toString m = toString n) : m = n := by
  have read := parseBig_toString m
  rw [same, parseBig_toString] at read
  exact (Int.ofNat.inj (Option.some.inj read)).symm

/-- A number is read off up to a mark that is not a digit. -/
theorem number_inj {mark : UInt8} (apart : mark.toNat < 48 ∨ 57 < mark.toNat) {m n : Nat} {r s : List UInt8}
    (same : bytes (toString m) ++ mark :: r = bytes (toString n) ++ mark :: s) : m = n ∧ r = s := by
  have unmarked (k : Nat) : Unmarked mark (toString k) := by
    intro c listed
    have digit := decimal_digits c listed
    have bounds := isDecimalDigit_iff.mp digit
    exact ⟨isGraphic_digit digit, by omega⟩
  obtain ⟨numbers, rest⟩ := marked_inj (unmarked m) (unmarked n) same
  exact ⟨toString_nat_inj numbers, rest⟩

end Codes
