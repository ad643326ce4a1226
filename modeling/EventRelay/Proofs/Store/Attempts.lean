import EventRelay.Proofs.Retry.Loop
import EventRelay.Proofs.Store.Backend

/-!
# Which write is the last

The script of a backend tells what every coming write meets.  A write that is
tried again ends with the first one that meets nothing, that meets a failure
other than contention, or that is the last one allowed, and this is the only
one that can have changed a document: it has put the whole document in place,
or nothing has changed at all.
-/

namespace EventRelay.Store

/-! ## What a script says -/

/--
What the write with a number meets, counted from one; behind the end of the
script it meets nothing.
-/
def fate (script : List (Option Error)) (number : Nat) : Option Error :=
  script[number - 1]?.join

/-- What a write meets is in the script, unless it meets nothing. -/
theorem mem_of_fate
    {script : List (Option Error)} {number : Nat} {error : Error}
    (met : fate script number = some error) :
    some error ∈ script :=
  List.mem_of_getElem? (Option.join_eq_some_iff.mp met)

/-- Whether a write ends the attempts, by what the script says. -/
inductive LastWrite
    (script : List (Option Error)) (budget number : Nat) : Prop where
  | stored (met : fate script number = none)
  | refused (error : Error) (met : fate script number = some error)
      (lasting : error.isContention = false)
  | exhausted (spent : number = budget)

/-- The first write that ends the attempts. -/
def FirstLastWrite (script : List (Option Error)) (budget number : Nat) :
    Prop :=
  IsLeast {number | 0 < number ∧ LastWrite script budget number} number

/-- All allowed writes are made where the last one meets contention. -/
theorem FirstLastWrite.spent
    {script : List (Option Error)} {budget writes : Nat}
    (first : FirstLastWrite script budget writes) {last : Error}
    (met : fate script writes = some last)
    (contention : last.isContention = true) :
    writes = budget := by
  cases first.1.2 with
  | stored none =>
      rw [met] at none
      cases none
  | refused error other lasting =>
      rw [met] at other
      cases other
      rw [contention] at lasting
      cases lasting
  | exhausted spent => exact spent

/-- What a write answers that meets this. -/
def refusal : Option Error → Except Error Unit
  | none => .ok ()
  | some error => .error error

namespace Backend

variable (schema key : String) (document : Json) (backend : Backend)

/-! ## Single writes -/

theorem put_answer :
    (backend.put schema key document).1 =
      refusal backend.writeScript.head?.join := by
  unfold put
  cases backend.writeScript.head?.join with
  | none => rfl
  | some error => rfl

@[simp]
theorem put_writeScript :
    (backend.put schema key document).2.writeScript =
      backend.writeScript.tail := by
  unfold put
  split <;> rfl

@[simp]
theorem put_writes :
    (backend.put schema key document).2.writes = backend.writes + 1 := by
  unfold put
  split <;> rfl

@[simp]
theorem put_readScript :
    (backend.put schema key document).2.readScript = backend.readScript := by
  unfold put
  split <;> rfl

/-- Only a write that meets nothing changes the documents. -/
theorem put_documents :
    (backend.put schema key document).2.documents =
      match backend.writeScript.head?.join with
      | none => backend.documents.put schema key document
      | some _ => backend.documents := by
  unfold put
  cases backend.writeScript.head?.join with
  | none => rfl
  | some error => rfl

/-! ## Writes one after the other -/

section Writes

variable {schema key : String} {document : Json} {backend : Backend}

/-- Every write takes one entry of the script, whatever it meets. -/
theorem script_stateAfter (writes : Nat) :
    let after := Retry.stateAfter (put schema key document) writes backend
    after.writeScript = backend.writeScript.drop writes ∧
      after.readScript = backend.readScript ∧
      after.writes = backend.writes + writes := by
  induction writes generalizing backend with
  | zero => exact ⟨rfl, rfl, rfl⟩
  | succ writes induction =>
      obtain ⟨script, reads, counted⟩ :=
        @induction (backend.put schema key document).2
      rw [Retry.stateAfter_succ]
      refine ⟨?_, ?_, ?_⟩
      · rw [script, put_writeScript, List.drop_tail]
      · rw [reads, put_readScript]
      · rw [counted, put_writes, Nat.add_assoc, Nat.add_comm 1]

theorem head?_stateAfter (number : Nat) :
    (Retry.stateAfter (put schema key document) (number - 1)
        backend).writeScript.head?.join =
      fate backend.writeScript number := by
  rw [(script_stateAfter (number - 1)).1, List.head?_drop]
  rfl

/-- A write answers what its entry of the script says. -/
theorem answer_put (number : Nat) :
    Retry.answer (put schema key document) backend number =
      refusal (fate backend.writeScript number) := by
  rw [← @head?_stateAfter schema key document]
  exact put_answer schema key document _

theorem ends_put_iff {budget number : Nat} :
    Retry.Ends Error.isContention (put schema key document) budget backend
        number ↔
      LastWrite backend.writeScript budget number := by
  have answered := @answer_put schema key document backend number
  constructor
  · intro ends
    cases met : fate backend.writeScript number with
    | none => exact .stored met
    | some error =>
        rw [met] at answered
        cases ends with
        | succeeded value succeeded =>
            rw [answered] at succeeded
            cases succeeded
        | rejected other failed final =>
            rw [answered] at failed
            cases failed
            exact .refused error met final
        | spent last => exact .exhausted last
  · intro last
    cases last with
    | stored met => exact .succeeded () (by rw [answered, met]; rfl)
    | refused error met lasting =>
        exact .rejected error (by rw [answered, met]; rfl) lasting
    | exhausted spent => exact .spent spent

/-- Writes that all meet a failure change no document. -/
theorem documents_stateAfter
    {writes : Nat}
    (failing :
      ∀ number, 0 < number → number ≤ writes →
        fate backend.writeScript number ≠ none) :
    (Retry.stateAfter (put schema key document) writes backend).documents =
      backend.documents := by
  induction writes with
  | zero => rfl
  | succ writes induction =>
      have met :
          (Retry.stateAfter (put schema key document) writes
              backend).writeScript.head?.join =
            fate backend.writeScript (writes + 1) :=
        head?_stateAfter (writes + 1)
      have failed := failing (writes + 1) (Nat.succ_pos writes) (Nat.le_refl _)
      have earlier := induction fun number positive among =>
        failing number positive (Nat.le_succ_of_le among)
      rw [Retry.stateAfter_last, put_documents, met]
      cases entry : fate backend.writeScript (writes + 1) with
      | none => exact absurd entry failed
      | some error => exact earlier

end Writes

/-! ## Writes that are tried again -/

/--
How a write that is tried again goes that ends with the attempt of a number:
the document is in place, or nothing has changed and the answer tells a
failure that lasts or the last of all allowed attempts.
-/
inductive Ended
    (budget : Nat) (schema key : String) (document : Json)
    (diagnostic : String) (backend : Backend) (number : Nat) :
    Answer Unit → Prop where
  | stored (after : Backend) (met : fate backend.writeScript number = none)
      (left : after.documents = backend.documents.put schema key document) :
      Ended budget schema key document diagnostic backend number (.ok (), after)
  | refused (error : Error) (after : Backend)
      (met : fate backend.writeScript number = some error)
      (lasting : error.isContention = false)
      (same : after.documents = backend.documents) :
      Ended budget schema key document diagnostic backend number
        (.error error, after)
  | exhausted (last : Error) (after : Backend) (spent : number = budget)
      (met : fate backend.writeScript number = some last)
      (contention : last.isContention = true)
      (same : after.documents = backend.documents) :
      Ended budget schema key document diagnostic backend number
        (.error (.exhausted diagnostic budget last), after)

/-- Only the write that ends the attempts can change the documents. -/
theorem documents_stateAfter_last
    {schema key : String} {document : Json} {backend : Backend}
    {budget writes : Nat}
    (first : FirstLastWrite backend.writeScript budget writes) :
    (Retry.stateAfter (put schema key document) writes backend).documents =
      match fate backend.writeScript writes with
      | none => backend.documents.put schema key document
      | some _ => backend.documents := by
  obtain ⟨⟨positive, _⟩, least⟩ := first
  obtain ⟨earlier, rfl⟩ : ∃ earlier, writes = earlier + 1 :=
    ⟨writes - 1, by omega⟩
  have failing :
      ∀ number, 0 < number → number ≤ earlier →
        fate backend.writeScript number ≠ none := by
    intro number counted among met
    have last := least ⟨counted, .stored met⟩
    omega
  have met :
      (Retry.stateAfter (put schema key document) earlier
          backend).writeScript.head?.join =
        fate backend.writeScript (earlier + 1) :=
    head?_stateAfter (earlier + 1)
  rw [Retry.stateAfter_last, put_documents, met,
    documents_stateAfter failing]

theorem putRetrying_ended
    (policy : Retry.Policy) (schema key : String) (document : Json)
    (diagnostic : String) (backend : Backend) :
    ∃ writes,
      FirstLastWrite backend.writeScript policy.budget writes ∧
      ∃ result after,
        backend.putRetrying policy schema key document diagnostic =
          (result, after) ∧
        after.writeScript = backend.writeScript.drop writes ∧
        after.readScript = backend.readScript ∧
        after.writes = backend.writes + writes ∧
        Ended policy.budget schema key document diagnostic backend writes
          (result, after) := by
  obtain ⟨writes, first, run⟩ :=
    policy.runWhile_eq Error.isContention (put schema key document) backend
  have counted :
      FirstLastWrite backend.writeScript policy.budget writes := by
    unfold Retry.FirstEnd at first
    simp only [ends_put_iff] at first
    exact first
  obtain ⟨script, reads, made⟩ :=
    @script_stateAfter schema key document backend writes
  have left := @documents_stateAfter_last schema key document _ _ _ counted
  refine ⟨writes, counted, ?_⟩
  unfold putRetrying
  rw [run, answer_put]
  refine ⟨_, _, rfl, script, reads, made, ?_⟩
  dsimp only
  cases met : fate backend.writeScript writes with
  | none =>
      rw [met] at left
      exact .stored _ met left
  | some error =>
      rw [met] at left
      cases contention : error.isContention with
      | false =>
          simp only [refusal, Retry.conclude, contention]
          exact .refused error _ met contention left
      | true =>
          simp only [refusal, Retry.conclude, contention, if_true]
          exact .exhausted error _ (counted.spent met contention) met
            contention left

/-- What a healthy backend has in its script fails no write. -/
theorem Healthy.fate_eq_none
    {backend : Backend} (healthy : backend.Healthy) (number : Nat) :
    fate backend.writeScript number = none := by
  cases met : fate backend.writeScript number with
  | none => rfl
  | some error => cases healthy.writes _ (mem_of_fate met)

/-- After all attempts the document is in place, or nothing has changed. -/
theorem putRetrying_fares
    (policy : Retry.Policy) (schema key : String) (document : Json)
    (diagnostic : String) (backend : Backend) :
    backend.Fares () (backend.documents.put schema key document)
      (backend.putRetrying policy schema key document diagnostic) := by
  obtain ⟨writes, _, result, after, answered, script, reads, _, ended⟩ :=
    putRetrying_ended policy schema key document diagnostic backend
  rw [answered]
  cases ended with
  | stored _ met left =>
      refine .answered after left fun healthy => ⟨?_, ?_⟩
      · intro entry member
        rw [script] at member
        exact healthy.writes entry (List.mem_of_mem_drop member)
      · rw [reads]
        exact healthy.reads
  | refused error _ met lasting same =>
      refine .failed error after same fun healthy => ?_
      rw [healthy.fate_eq_none] at met
      cases met
  | exhausted last _ spent met contention same =>
      refine .failed _ after same fun healthy => ?_
      rw [healthy.fate_eq_none] at met
      cases met

end Backend

end EventRelay.Store
