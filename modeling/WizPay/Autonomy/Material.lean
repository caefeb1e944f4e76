import Mathlib
import WizPay.Autonomy.Controls
import WizPay.Lib.Codes

/-!
# What the digest of a schedule binds

The digest is taken of the fields with bars between them. The agent is not one of the fields, and a free text may have
bars of its own.
-/
namespace WizPay.Autonomy

open Checks Codes GoText GoTime Storage

/-- Two texts have as many bars. -/
def SameBars (first second : String) : Prop := first.toList.count '|' = second.toList.count '|'

theorem barred_inj {first second : List String} (bars : List.Forall₂ SameBars first second)
    (same : "|".intercalate first = "|".intercalate second) : first = second := by
  have chars := congrArg String.toList same
  rw [String.toList_intercalate, String.toList_intercalate, show "|".toList = ['|'] from rfl] at chars
  clear same
  induction bars with
  | nil => rfl
  | @cons x y xs ys head tail ih =>
    cases tail with
    | nil => simpa [String.toList_inj] using chars
    | cons next rest =>
      simp only [List.map_cons, List.intercalate_cons_cons, List.append_assoc, List.singleton_append] at chars ih
      obtain ⟨same, others⟩ := delimited_inj head chars
      rw [String.toList_injective same, ih others]

theorem toString_int_inj {m n : Int} (same : toString m = toString n) : m = n := by
  have read := parseBig_int m
  rw [same, parseBig_int] at read
  exact (Option.some.inj read).symm

theorem IntentType.text_inj {a b : IntentType} (valid : a.valid = true) (valid' : b.valid = true)
    (same : a.text = b.text) : a = b := by
  cases a <;> cases b <;> simp_all [IntentType.valid, IntentType.text]

theorem Frequency.text_inj {a b : Frequency} (valid : a.valid = true) (valid' : b.valid = true)
    (same : a.text = b.text) : a = b := by
  cases a <;> cases b <;> simp_all [Frequency.valid, Frequency.text]

theorem MissedRunPolicy.text_inj {a b : MissedRunPolicy} (valid : a.valid = true) (valid' : b.valid = true)
    (same : a.text = b.text) : a = b := by
  cases a <;> cases b <;> simp_all [MissedRunPolicy.valid, MissedRunPolicy.text]

namespace Schedule

/-- The fields of the digest in their order. -/
def fields (s : Schedule) : List String :=
  let r := s.spec.recurrence
  [s.id, toString s.version, s.principal.tenantID, s.principal.userID, s.walletBindingID,
    toString s.walletBindingVersion, s.grantID, toString s.grantVersion, s.delegationID,
    toString s.delegationVersion, s.spec.intent.text, r.frequency.text, formatRFC3339Nano r.start,
    formatRFC3339Nano r.stop, toString r.weekday, toString r.dayOfMonth, r.location, s.spec.missed.text,
    s.spec.concurrency.text, toString s.spec.maxRecipients, s.spec.templateDigest]

/-- The schedules are the same but for their times, their status and their digest. -/
def Agrees (a b : Schedule) : Prop :=
  { a with createdAt := b.createdAt, updatedAt := b.updatedAt, status := b.status, digest := b.digest } = b

/-- Valid schedules with the same fields and the same agent agree. -/
theorem agrees_of_fields {zones : TimeZones} {a b : Schedule} (valid : a.Valid zones) (valid' : b.Valid zones)
    (agent : a.principal.agentID = b.principal.agentID) (same : a.fields = b.fields) : a.Agrees b := by
  have specs := valid.spec
  have specs' := valid'.spec
  simp only [ScheduleSpec.validate, checks_ok, Bool.not_eq_false, not_not, Recurrence.validate_ok] at specs specs'
  obtain ⟨recurs, missed, forbid, intent, -⟩ := specs
  obtain ⟨recurs', missed', forbid', intent', -⟩ := specs'
  simp only [fields, List.cons.injEq] at same
  obtain ⟨id, version, tenant, user, binding, bindingVersion, grant, grantVersion, delegation, delegationVersion, intents,
    frequency, start, stop, weekday, day, location, missing, -, most, template, -⟩ := same
  obtain ⟨_, _, ⟨_, _, _⟩, _, _, _, _, _, _, _, _, _, ⟨⟨_, _, _, _, _, _, _⟩, _, _, _, _, _⟩, _⟩ := a
  obtain ⟨_, _, ⟨_, _, _⟩, _, _, _, _, _, _, _, _, _, ⟨⟨_, _, _, _, _, _, _⟩, _, _, _, _, _⟩, _⟩ := b
  cases toString_nat_inj version
  cases toString_nat_inj bindingVersion
  cases toString_nat_inj grantVersion
  cases toString_nat_inj delegationVersion
  cases toString_int_inj weekday
  cases toString_int_inj day
  cases toString_int_inj most
  cases formatRFC3339Nano_injective start
  cases formatRFC3339Nano_injective stop
  cases IntentType.text_inj intent intent' intents
  cases Frequency.text_inj recurs.frequency recurs'.frequency frequency
  cases MissedRunPolicy.text_inj missed missed' missing
  have explicit := recurs.explicit.trans recurs'.explicit.symm
  simp_all [Agrees]

/-- **Schedules with the same digest material agree** if and only if they have the same agent and every field has as
many bars in the one as in the other. -/
theorem material_binds_iff {zones : TimeZones} {a b : Schedule} (valid : a.validate zones = .ok ())
    (valid' : b.validate zones = .ok ()) (same : a.material = b.material) :
    a.Agrees b ↔ a.principal.agentID = b.principal.agentID ∧ List.Forall₂ SameBars a.fields b.fields := by
  constructor
  · intro agrees
    rw [← agrees]
    exact ⟨rfl, List.forall₂_same.mpr fun _ _ => rfl⟩
  · rintro ⟨agent, bars⟩
    exact agrees_of_fields (validate_ok.mp valid) (validate_ok.mp valid') agent (barred_inj bars same)

end Schedule

/-- A copy of the daily schedule with a later time and another status. -/
def pausedCopy : Schedule := { dailySchedule with status := .paused, updatedAt := 2000 }

/-- It has the same material, and agrees. -/
theorem material_binds_copy : dailySchedule.material = pausedCopy.material ∧
    (dailySchedule.Agrees pausedCopy ↔ dailySchedule.principal.agentID = pausedCopy.principal.agentID ∧
      List.Forall₂ SameBars dailySchedule.fields pausedCopy.fields) :=
  ⟨rfl, Schedule.material_binds_iff dailySchedule_valid
    (Schedule.validate_ok.mpr ⟨by decide, dailyDraft_principal, dailyDraft_spec, rfl, rfl⟩) rfl⟩

/-- The daily schedule of another agent. -/
def otherAgent : Schedule := { dailySchedule with principal := ⟨"t", "u", "b"⟩ }

/-- It has the same material, and so the same digest. -/
theorem agent_unbound : dailySchedule.validate hostZones = .ok () ∧ otherAgent.validate hostZones = .ok () ∧
    dailySchedule.material = otherAgent.material ∧ ¬ dailySchedule.Agrees otherAgent := by
  refine ⟨dailySchedule_valid, Schedule.validate_ok.mpr ⟨by decide, by decide +kernel, dailyDraft_spec, rfl, rfl⟩, rfl, ?_⟩
  intro agrees
  have agents := congrArg (fun s => s.principal.agentID) agrees
  exact absurd agents (by decide)

end WizPay.Autonomy
