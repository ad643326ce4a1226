import EventRelay.Proofs.Relay.Duplicates

/-!
# Whole passes

In a course a pass may be broken off, and calls may come between two of its
turns.  Here every pass is whole, as `Replayer.replayAll` makes it, and comes
before or after every publishing call.  A chronicle keeps what each pass did:
the calls to the transport, each with the record whose turn it was, and what
was answered at the turns.

Every chronicle is that of a course (`Chronicle.OfCourse.run`).  So the
envelopes that passes had taken for a record are those of the passes that
failed to stamp it and the one of its stamp, and a stamped record is handed
over no more (`taken_passes`).
-/

namespace EventRelay

open EventRelay.Json EventRelay.Store

variable {σ : Type}

/-- What a relay does as a whole. -/
inductive Deed (σ : Type) where
  /-- A call to a publisher whose breaker is in the given state. -/
  | publish (relay : Relay σ) (breaker : Breaker.State) (request : Request)
  /-- A replay pass. -/
  | replay (relay : Relay σ)

/-- What a replay pass did. -/
structure PassLog where
  /-- The calls to the transport, each with the record whose turn it was. -/
  calls : List (BackupRecord × Delivery)
  turns : List Turn

namespace PassLog

/-- What the turns that a course logged did. -/
def ofLogged (entries : List Logged) : PassLog :=
  ⟨entries.flatMap fun logged =>
      logged.deliveries.map (Prod.mk logged.turn.record),
    entries.map Logged.turn⟩

/-- Whether the event of a record was sent and its stamp failed. -/
def isUnstamped (messageId : String) (pass : PassLog) : Bool :=
  pass.turns.any fun turn =>
    decide (turn.record.messageId = messageId) && turn.isUnstamped

/-- What was handed over for records with the identifier. -/
def callsFor (messageId : String) (pass : PassLog) : List Delivery :=
  (pass.calls.filter fun call => call.1.messageId = messageId).map Prod.snd

theorem isUnstamped_ofLogged (messageId : String) (entries : List Logged) :
    (ofLogged entries).isUnstamped messageId =
      entries.any fun logged =>
        logged.concerns messageId && logged.turn.isUnstamped := by
  simp [isUnstamped, ofLogged, List.any_map, Logged.concerns,
    Function.comp_def]

theorem callsFor_ofLogged (messageId : String) (entries : List Logged) :
    (ofLogged entries).callsFor messageId =
      (entries.filter (Logged.concerns messageId)).flatMap
        Logged.deliveries := by
  induction entries with
  | nil => rfl
  | cons first entries induction =>
      have own :
          (((first.deliveries.map (Prod.mk first.turn.record)).filter
              fun call => call.1.messageId = messageId).map Prod.snd) =
            if first.concerns messageId then first.deliveries else [] := by
        cases concerned : first.concerns messageId with
        | true =>
            have same : first.turn.record.messageId = messageId :=
              of_decide_eq_true concerned
            simp [List.filter_map, Function.comp_def, same]
        | false =>
            have other : first.turn.record.messageId ≠ messageId :=
              of_decide_eq_false concerned
            simp [List.filter_map, Function.comp_def, other]
      unfold callsFor ofLogged at induction ⊢
      rw [List.flatMap_cons, List.filter_append, List.map_append, own,
        induction, List.filter_cons]
      split
      · rw [List.flatMap_cons]
      · rfl

end PassLog

/--
What a replay pass of a relay does; its calls are those that the transport sees
(`Replayer.handed_replayAll`).
-/
def Relay.passLog (relay : Relay σ) (world : Watched σ) : PassLog :=
  ⟨relay.replayer.passCalls relay.transport relay.archive world,
    (relay.replayer.passTurns relay.transport.recorded relay.archive
      world).1⟩

/-- The outside and what the passes so far did, oldest first. -/
structure Chronicle (σ : Type) where
  world : Watched σ
  passes : List PassLog

namespace Chronicle

/-- The chronicle before any pass. -/
def start (world : World σ Backend) : Chronicle σ :=
  ⟨world.watched, []⟩

/-- One publishing call, or one pass as a whole. -/
def advance (archive : Archive) (chronicle : Chronicle σ) :
    Deed σ → Chronicle σ
  | .publish relay breaker request =>
    { chronicle with
      world :=
        ((relay.within archive).answer request
          { chronicle.world with breaker := breaker }).2 }
  | .replay relay =>
    ⟨(relay.within archive).pass chronicle.world,
      chronicle.passes ++ [(relay.within archive).passLog chronicle.world]⟩

/-- Deeds one after the other. -/
def run (archive : Archive) (chronicle : Chronicle σ)
    (deeds : List (Deed σ)) : Chronicle σ :=
  deeds.foldl (advance archive) chronicle

/-- What passes handed over for records with the identifier, in order. -/
def callsFor (chronicle : Chronicle σ) (messageId : String) : List Delivery :=
  chronicle.passes.flatMap (PassLog.callsFor messageId)

/--
How many passes sent the event of a record with the identifier and failed to
stamp it.
-/
def unstamped (chronicle : Chronicle σ) (messageId : String) : Nat :=
  chronicle.passes.countP (PassLog.isUnstamped messageId)

theorem run_append
    (archive : Archive) (chronicle : Chronicle σ)
    (first second : List (Deed σ)) :
    run archive chronicle (first ++ second) =
      run archive (run archive chronicle first) second := by
  simp [run, List.foldl_append]

end Chronicle

/-! ## A pass in steps -/

namespace Course

theorem run_turns
    (archive : Archive) (relay : Relay σ) (records : List BackupRecord)
    (course : Course σ) (waits : course.waiting = records) :
    ∃ entries,
      run archive course (List.replicate records.length (.proceed relay)) =
        ⟨(relay.replayer.turns relay.transport.recorded
            (relay.within archive).archive records course.world).2,
          [], course.earlier, course.current ++ entries⟩ ∧
      PassLog.ofLogged entries =
        ⟨relay.replayer.calls relay.transport (relay.within archive).archive
            records course.world,
          (relay.replayer.turns relay.transport.recorded
            (relay.within archive).archive records course.world).1⟩ := by
  induction records generalizing course with
  | nil =>
      obtain ⟨world, waiting, earlier, current⟩ := course
      cases waits
      refine ⟨[], ?_, rfl⟩
      rw [List.append_nil]
      rfl
  | cons record records induction =>
      have given :
          advance archive course (.proceed relay) =
            course.give archive relay record records := by
        unfold advance
        rw [waits]
      obtain ⟨entries, ends, logged⟩ :=
        induction (course.give archive relay record records) rfl
      obtain ⟨called, turned⟩ := PassLog.mk.inj logged
      refine ⟨course.entry archive relay record :: entries, ?_, ?_⟩
      · rw [List.length_cons, List.replicate_succ, run, List.foldl_cons, given]
        refine Eq.trans ends ?_
        rw [give, List.append_assoc]
        rfl
      · rw [PassLog.ofLogged, List.flatMap_cons, List.map_cons, called, turned]
        have own : (course.entry archive relay record).turn.record = record :=
          Replayer.turn_record _ _ _ _ _
        rw [own]
        rfl

/--
A replay pass is a course that begins it and gives every record that waits its
turn, and what the course logs is what the pass does.
-/
theorem run_pass
    (archive : Archive) (relay : Relay σ) (course : Course σ) :
    ∃ count entries,
      run archive course
          (.begin relay :: List.replicate count (.proceed relay)) =
        ⟨(relay.within archive).pass course.world, [],
          course.earlier ++ [course.current], entries⟩ ∧
      PassLog.ofLogged entries =
        (relay.within archive).passLog course.world := by
  have ended :
      (relay.within archive).pass course.world =
        (relay.replayer.passTurns relay.transport.recorded
          (relay.within archive).archive course.world).2 :=
    Replayer.replayAll_passTurns _ _ _ _
  have logs :
      (relay.within archive).passLog course.world =
        ⟨relay.replayer.passCalls relay.transport
            (relay.within archive).archive course.world,
          (relay.replayer.passTurns relay.transport.recorded
            (relay.within archive).archive course.world).1⟩ := rfl
  rw [ended, logs]
  unfold Replayer.passTurns Replayer.passCalls
  rcases scanned : (relay.within archive).archive.scan course.world.vault with
    ⟨answer, backend⟩
  cases answer with
  | error error =>
      refine ⟨0, [], ?_, rfl⟩
      show course.begun archive relay = _
      rw [begun, scanned]
  | ok scan =>
      have listed :
          course.begun archive relay =
            ⟨{ course.world with vault := backend }, scan.unsent,
              course.earlier ++ [course.current], []⟩ := by
        rw [begun, scanned]
      obtain ⟨entries, ends, logged⟩ :=
        run_turns archive relay scan.unsent (course.begun archive relay)
          (by rw [listed])
      rw [listed] at ends logged
      refine ⟨scan.unsent.length, entries, ?_, logged⟩
      show run archive (course.begun archive relay) _ = _
      rw [listed]
      exact ends

end Course

/-! ## The course of a chronicle -/

namespace Chronicle

/--
A chronicle is that of a course: the outside is the same, and the passes did
what the course logged, after an empty pass at its start.
-/
structure OfCourse (chronicle : Chronicle σ) (course : Course σ) : Prop where
  world : course.world = chronicle.world
  passes :
    (course.earlier ++ [course.current]).map PassLog.ofLogged =
      ⟨[], []⟩ :: chronicle.passes

namespace OfCourse

variable {archive : Archive} {chronicle : Chronicle σ} {course : Course σ}

theorem start (world : World σ Backend) :
    (Chronicle.start world).OfCourse (Course.start world) :=
  ⟨rfl, rfl⟩

/-- A publishing call is one step, and a pass is as many as it takes. -/
theorem advance (same : chronicle.OfCourse course) (deed : Deed σ) :
    ∃ steps,
      (chronicle.advance archive deed).OfCourse
        (course.run archive steps) := by
  rcases same with ⟨world, passes⟩
  cases deed with
  | publish relay breaker request =>
      refine ⟨[.publish relay breaker request], ?_, passes⟩
      show ((relay.within archive).answer request _).2 = _
      rw [world]
      rfl
  | replay relay =>
      rcases course.run_pass archive relay with ⟨count, entries, ends, logged⟩
      refine ⟨.begin relay :: List.replicate count (.proceed relay), ?_, ?_⟩
      · rw [ends, world]
        rfl
      · rw [ends, List.map_append, passes, List.map_singleton, logged, world]
        rfl

theorem run (same : chronicle.OfCourse course) (deeds : List (Deed σ)) :
    ∃ steps,
      (chronicle.run archive deeds).OfCourse (course.run archive steps) := by
  induction deeds generalizing chronicle course with
  | nil => exact ⟨[], same⟩
  | cons deed deeds induction =>
      rcases same.advance deed with ⟨first, same⟩
      rcases induction same with ⟨others, same⟩
      exact ⟨first ++ others, course.run_append archive first others ▸ same⟩

theorem callsFor_eq (same : chronicle.OfCourse course) (messageId : String) :
    chronicle.callsFor messageId =
      (course.turnsOf messageId).flatMap Logged.deliveries := by
  have told :
      ((course.earlier ++ [course.current]).map PassLog.ofLogged).flatMap
          (PassLog.callsFor messageId) =
        chronicle.callsFor messageId := by
    rw [same.passes]
    rfl
  have turned :
      course.turnsOf messageId =
        (course.earlier ++ [course.current]).flatten.filter
          (Logged.concerns messageId) := by
    simp [Course.turnsOf]
  rw [← told, turned]
  generalize course.earlier ++ [course.current] = logs
  induction logs with
  | nil => rfl
  | cons entries logs induction =>
      simp [PassLog.callsFor_ofLogged, induction]

theorem unstamped_eq (same : chronicle.OfCourse course) (messageId : String) :
    chronicle.unstamped messageId = course.unstamped messageId := by
  have told :
      ((course.earlier ++ [course.current]).map PassLog.ofLogged).countP
          (PassLog.isUnstamped messageId) =
        chronicle.unstamped messageId := by
    rw [same.passes]
    rfl
  rw [← told, List.countP_map, Course.unstamped]
  simp [Function.comp_def, PassLog.isUnstamped_ofLogged]

end OfCourse

/--
From an archive that was filled by persisting envelopes, after any publishing
calls and whole passes: for every record the envelopes that passes had taken
are as many as the passes that sent its event and failed to stamp it, and one
more if it is stamped.  Once it is stamped, no later pass hands its event over.
-/
theorem taken_passes
    (archive : Archive) (world : World σ Backend)
    (populated : Course.Populated archive world.supply world.vault)
    (clock : ∀ index, (world.supply.times index).Valid)
    (deeds later : List (Deed σ))
    (distinct :
      ((start world).run archive (deeds ++ later)).world.supply.Distinct)
    {key : String} {record : BackupRecord}
    (reads :
      archive.ReadsAt
        ((start world).run archive deeds).world.vault.documents key record) :
    (((start world).run archive deeds).callsFor record.messageId).countP
          Delivery.isTaken =
        ((start world).run archive deeds).unstamped record.messageId +
          (if record.isSent then 1 else 0) ∧
      (record.isSent = true →
        ((start world).run archive (deeds ++ later)).callsFor
            record.messageId =
          ((start world).run archive deeds).callsFor record.messageId) := by
  rw [run_append] at distinct ⊢
  rcases (OfCourse.start world).run deeds with ⟨steps, same⟩
  rcases same.run later with ⟨others, end_⟩
  obtain ⟨kept, _⟩ := (Course.kept_start populated clock).run steps
  rw [← end_.world] at distinct
  rw [← same.world] at reads
  obtain ⟨balanced, _, settled⟩ := kept.accounts others distinct reads
  refine ⟨?_, fun sent => ?_⟩
  · rw [same.callsFor_eq, same.unstamped_eq]
    exact balanced
  · rw [end_.callsFor_eq, same.callsFor_eq, settled sent]

end Chronicle

end EventRelay
