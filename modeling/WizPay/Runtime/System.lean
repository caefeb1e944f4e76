import WizPay.Runtime.Service

/-!
# Workers over one database

Every statement or transaction is atomic; its answer can be lost, before or after it
took effect. The adapter, the verifier and the workers' clocks answer anything. Meanwhile
the database clock moves freely, and new executions are created.
-/
namespace WizPay.Runtime

open Exec Storage Threads

/-- The possible answers to a statement or transaction with the given outcome. A
lost answer is any error other than "no rows". -/
inductive DbAnswer {α : Type} (outcome : Except Error (α × ExecutionTables)) (t : ExecutionTables) :
    Except Error α → ExecutionTables → Prop
  | done (value : α) (after : ExecutionTables) (effect : outcome = .ok (value, after)) :
      DbAnswer outcome t (.ok value) after
  | refused (e : Error) (refusal : outcome = .error e) : DbAnswer outcome t (.error e) t
  | lost (e : Error) (fault : e.isNoRows = false) : DbAnswer outcome t (.error e) t
  | unacknowledged (e : Error) (value : α) (after : ExecutionTables) (fault : e.isNoRows = false)
      (effect : outcome = .ok (value, after)) : DbAnswer outcome t (.error e) after

def answer : (call : Call) → ExecutionTables → Reply call → ExecutionTables → Prop
  | .claimExecutionWork k actorID leaseOwner micros, t, reply, after =>
    DbAnswer (claimExecutionWork k actorID leaseOwner micros t) t reply after
  -- rows locked by others are skipped, so any claimable row or none may be taken
  | .claimNextExecutionWork leaseOwner micros, t, reply, after =>
    (reply = .error .noRows ∧ after = t) ∨ ∃ k, DbAnswer (claimAt k leaseOwner micros t) t reply after
  | .findExecutionOwner k, t, reply, after =>
    DbAnswer ((findExecutionOwner k t).map (·, t)) t reply after
  | .findExecutionByID k actorID, t, reply, after =>
    DbAnswer ((findExecutionByID k actorID t).map (·, t)) t reply after
  | .validateExecutionClaim f, t, reply, after => DbAnswer (.ok (validateExecutionClaim f t, t)) t reply after
  | .markSubmissionStarted f, t, reply, after => DbAnswer (markSubmissionStarted f t) t reply after
  | .updateClaimed f u record, t, reply, after =>
    DbAnswer ((updateClaimed f u record t).map ((), ·)) t reply after
  | .persistClaimed f u p record, t, reply, after =>
    DbAnswer ((persistClaimed f u p record t).map ((), ·)) t reply after
  | .releaseExecutionWork f nextRunAt, t, reply, after =>
    DbAnswer (.ok (releaseExecutionWork f nextRunAt t)) t reply after
  | .appendVerificationEvidence p, t, reply, after =>
    DbAnswer (appendVerificationEvidence p t) t reply after
  | .findVerificationEvidence k actorID, t, reply, after =>
    DbAnswer (.ok (findVerificationEvidence k actorID t, t)) t reply after
  | .now, t, _, after => after = t
  | .execute .., t, _, after => after = t
  | .getStatus .., t, _, after => after = t
  | .verify .., t, _, after => after = t

/-- What happens to the tables outside the workers. -/
inductive Environment : ExecutionTables → ExecutionTables → Prop
  | clock (t : ExecutionTables) (clock : Int) : Environment t { t with clock := clock }
  | create (t after : ExecutionTables) (r : RequestRow) (e : ExecutionRow)
      (created : (insertRequest r t >>= insertExecution e) = .ok after) : Environment t after

def system : System ExecutionTables Reply := ⟨answer, Environment⟩

/-- A thread is one `Process` call or one worker loop. -/
inductive IsWorker : Proc Unit → Prop
  | process (config : Config) (scope : Scope) (executionID : String) :
      IsWorker (process config scope executionID >>= fun _ => pure ())
  | run (config : Config) (rounds : Nat) : IsWorker (run config rounds >>= fun _ => pure ())

/-- Any family of workers over any tables, before the first step. -/
structure Initial {ι : Type} (c : Threads.Config ExecutionTables ι Reply) : Prop where
  workers : ∀ i, IsWorker (c.thread i)
  trace : c.trace = []

section Answers

variable {α : Type} {outcome : Except Error (α × ExecutionTables)} {t after : ExecutionTables}
  {reply : Except Error α}

theorem DbAnswer.effect (answered : DbAnswer outcome t reply after) :
    after = t ∨ ∃ value, outcome = .ok (value, after) := by
  cases answered with
  | done value _ effect => exact .inr ⟨value, effect⟩
  | refused => exact .inl rfl
  | lost => exact .inl rfl
  | unacknowledged _ value _ _ effect => exact .inr ⟨value, effect⟩

theorem DbAnswer.of_ok {value : α} (answered : DbAnswer outcome t (.ok value) after) :
    outcome = .ok (value, after) := by
  cases answered with
  | done _ _ effect => exact effect

theorem DbAnswer.read {found : Except Error α} (answered : DbAnswer (found.map (·, t)) t reply after) :
    after = t := by
  rcases answered.effect with same | ⟨value, effect⟩
  · exact same
  · cases found with
    | error e => cases effect
    | ok value => cases effect; rfl

theorem DbAnswer.read_ok {found : α} (answered : DbAnswer (.ok (found, t)) t reply after) : after = t := by
  rcases answered.effect with same | ⟨value, effect⟩
  · exact same
  · cases effect
    rfl

theorem DbAnswer.write {updated : Except Error ExecutionTables} {reply : Except Error Unit}
    (answered : DbAnswer (updated.map ((), ·)) t reply after) : after = t ∨ updated = .ok after := by
  rcases answered.effect with same | ⟨value, effect⟩
  · exact .inl same
  · cases updated with
    | error e => cases effect
    | ok stored => cases effect; exact .inr rfl

end Answers

/-- What a request that was answered may have done to the tables. -/
inductive Change (t after : ExecutionTables) : Call → Prop
  | nothing (call : Call) (same : after = t) : Change t after call
  | lease (call : Call) (target : Key) (change : WorkRow → WorkRow) (keys : ∀ w, (change w).key = w.key)
      (mark : ∀ w, (change w).submissionStarted = w.submissionStarted)
      (changed : after = { t with work := Table.modify WorkRow.key target change t.work }) : Change t after call
  | mark (f : Fence) (row : WorkRow) (marked : markSubmissionStarted f t = .ok (row, after)) :
      Change t after (.markSubmissionStarted f)
  | update (f : Fence) (u : ExecutionUpdate) (record : AuditRow) (mid : ExecutionTables) (held : holds f t = true)
      (updated : updateExecution u t = .ok mid) (audited : appendAudit record mid = .ok after) :
      Change t after (.updateClaimed f u record)
  | observe (f : Fence) (u : ExecutionUpdate) (p : EvidenceParams) (record : AuditRow) (mid last : ExecutionTables)
      (held : holds f t = true) (updated : updateExecution u t = .ok mid)
      (appended : appendVerificationEvidence p mid = .ok (1, last)) (audited : appendAudit record last = .ok after) :
      Change t after (.persistClaimed f u p record)
  | append (p : EvidenceParams) (inserted : Nat) (appended : appendVerificationEvidence p t = .ok (inserted, after)) :
      Change t after (.appendVerificationEvidence p)

theorem change_of_answer {t after : ExecutionTables} {call : Call} {reply : Reply call}
    (answered : answer call t reply after) : Change t after call := by
  have claim {call : Call} {k : Key} {leaseOwner : String} {micros : Int} {row : WorkRow}
      (claimed : claimAt k leaseOwner micros t = .ok (row, after)) : Change t after call := by
    obtain ⟨w, _, _, _, changed⟩ := claimAt_ok claimed
    exact .lease call k (·.lease leaseOwner micros t.clock) (fun _ => rfl) (fun _ => rfl) changed
  cases call with
  | claimExecutionWork =>
    rcases DbAnswer.effect answered with same | ⟨row, claimed⟩
    · exact .nothing _ same
    · exact claim (claimExecutionWork_ok claimed)
  | claimNextExecutionWork =>
    rcases answered with ⟨_, same⟩ | ⟨target, answered⟩
    · exact .nothing _ same
    · rcases answered.effect with same | ⟨row, claimed⟩
      · exact .nothing _ same
      · exact claim claimed
  | markSubmissionStarted f =>
    rcases DbAnswer.effect answered with same | ⟨row, marked⟩
    · exact .nothing _ same
    · exact .mark f row marked
  | updateClaimed f u record =>
    rcases DbAnswer.write answered with same | updated
    · exact .nothing _ same
    · obtain ⟨held, mid, first, second⟩ := updateClaimed_ok updated
      exact .update f u record mid held first second
  | persistClaimed f u p record =>
    rcases DbAnswer.write answered with same | persisted
    · exact .nothing _ same
    · obtain ⟨held, mid, last, first, second, third⟩ := persistClaimed_ok persisted
      exact .observe f u p record mid last held first second third
  | releaseExecutionWork f nextRunAt =>
    rcases DbAnswer.effect answered with same | ⟨rows, released⟩
    · exact .nothing _ same
    · rcases releaseExecutionWork_cases (Except.ok.inj released) with same | changed
      · exact .nothing _ same
      · exact .lease _ f.key (·.released nextRunAt) (fun _ => rfl) (fun _ => rfl) changed
  | appendVerificationEvidence p =>
    rcases DbAnswer.effect answered with same | ⟨inserted, appended⟩
    · exact .nothing _ same
    · exact .append p inserted appended
  | findExecutionOwner | findExecutionByID => exact .nothing _ (DbAnswer.read answered)
  | validateExecutionClaim | findVerificationEvidence => exact .nothing _ (DbAnswer.read_ok answered)
  | now | execute | getStatus | verify => exact .nothing _ answered

end WizPay.Runtime
