import EventRelay.Proofs.Relay.Advance

/-!
# A tally of envelopes and stamps

For each identifier, the envelopes that a course had taken in the turns of its
record are those of the passes that failed to stamp it, and one more if it is
stamped.  `Tally` carries this balance through a course.  It needs that what
waits is filed as it waits, each record once, and that none of it has had its
turn in the pass; this holds because records lie under their own identifiers
and no identifier is minted twice.
-/

namespace EventRelay

open EventRelay.Json EventRelay.Store

/-- The record has an identifier that was minted. -/
def Supply.Minted (supply : Supply) (record : BackupRecord) : Prop :=
  ∃ index < supply.minted,
    record.messageId = (supply.identifiers index).toText

theorem Supply.Minted.since
    {before after : Supply} {record : BackupRecord}
    (minted : before.Minted record) (since : before.Since after) :
    after.Minted record := by
  obtain ⟨index, earlier, own⟩ := minted
  exact ⟨index, Nat.lt_of_lt_of_le earlier since.minted,
    since.identifiers ▸ own⟩

/-! ## Stamps in an archive -/

namespace Archive

/-- How many stamps the record under an identifier bears, which is at most one.
-/
def stampsAt (archive : Archive) (documents : Documents) (messageId : String) :
    Nat :=
  match documents.find? archive.schema messageId with
  | none => 0
  | some document =>
    match decode document with
    | .ok record => if record.isSent then 1 else 0
    | .error _ => 0

variable {archive : Archive} {documents : Documents}
  {record other : BackupRecord}

theorem stampsAt_of_find?
    (storable : record.Storable) {messageId : String}
    (found :
      documents.find? archive.schema messageId =
        some (BackupRecord.codec.toDocument record)) :
    archive.stampsAt documents messageId = if record.isSent then 1 else 0 := by
  unfold stampsAt
  rw [found]
  dsimp only
  rw [decode_toDocument storable]

theorem stampsAt_of_missing
    {messageId : String}
    (missing : documents.find? archive.schema messageId = none) :
    archive.stampsAt documents messageId = 0 := by
  unfold stampsAt
  rw [missing]

theorem stampsAt_put_self (storable : record.Storable) :
    archive.stampsAt
        (documents.put archive.schema record.messageId
          (BackupRecord.codec.toDocument record))
        record.messageId =
      if record.isSent then 1 else 0 :=
  stampsAt_of_find? storable (Documents.find?_put_self _ _ _ _)

theorem stampsAt_put_of_ne
    {key messageId : String} (different : messageId ≠ key) (document : Json) :
    archive.stampsAt (documents.put archive.schema key document) messageId =
      archive.stampsAt documents messageId := by
  unfold stampsAt
  rw [Documents.find?_put_of_ne _ _ different]

theorem Waits.stampsAt (waits : archive.Waits documents record) :
    archive.stampsAt documents record.messageId = 0 := by
  rw [stampsAt_of_find? waits.storable waits.found, waits.unsent]
  rfl

theorem Waits.put
    (waits : archive.Waits documents record) {key : String}
    (different : record.messageId ≠ key) (document : Json) :
    archive.Waits (documents.put archive.schema key document) record := by
  refine ⟨?_, waits.storable, waits.unsent⟩
  rw [Documents.find?_put_of_ne _ _ different]
  exact waits.found

/-! ## What a scan lists -/

theorem Holds.waits
    {property : BackupRecord → Prop} (holds : archive.Holds property documents)
    (listed : record ∈ (sortOut (documents.list archive.schema)).unsent) :
    archive.Waits documents record := by
  obtain ⟨found, storable, unsent⟩ := holds.find?_of_mem_unsent listed
  exact ⟨found, storable, unsent⟩

end Archive

/-! ## What a turn leaves in the archive -/

namespace Ends

variable {archive : Archive} {record other : BackupRecord}
  {before after : Documents} {entry : Logged}

/-- The envelope that was taken is paid for by a failed stamp or by a stamp. -/
theorem taken_eq
    (ends : Ends archive record before after entry)
    (waits : archive.Waits before record) :
    entry.taken =
      (if entry.turn.isUnstamped then 1 else 0) +
        archive.stampsAt after record.messageId := by
  cases ends with
  | unsent taken stamp same => rw [taken, stamp, same, waits.stampsAt]; rfl
  | unstamped taken stamp same => rw [taken, stamp, same, waits.stampsAt]; rfl
  | stamped taken stamp sentAt valid written =>
      have stamps :
          archive.stampsAt
              (before.put archive.schema record.messageId
                (BackupRecord.codec.toDocument (record.markSent sentAt)))
              record.messageId =
            1 :=
        Archive.stampsAt_put_self (waits.storable.markSent valid)
      rw [taken, stamp, written, stamps]
      rfl

theorem stampsAt_of_ne
    (ends : Ends archive record before after entry) {messageId : String}
    (different : messageId ≠ record.messageId) :
    archive.stampsAt after messageId = archive.stampsAt before messageId := by
  cases ends with
  | unsent _ _ same => rw [same]
  | unstamped _ _ same => rw [same]
  | stamped _ _ sentAt valid written =>
      rw [written]
      exact Archive.stampsAt_put_of_ne different _

theorem waits_of_ne
    (ends : Ends archive record before after entry)
    (waits : archive.Waits before other)
    (different : other.messageId ≠ record.messageId) :
    archive.Waits after other := by
  cases ends with
  | unsent _ _ same => exact same ▸ waits
  | unstamped _ _ same => exact same ▸ waits
  | stamped _ _ sentAt valid written => exact written ▸ waits.put different _

theorem filed
    (ends : Ends archive record before after entry)
    (waits : archive.Waits before record)
    (filed : archive.Filed before other) :
    archive.Filed after other := by
  cases ends with
  | unsent _ _ same => exact same ▸ filed
  | unstamped _ _ same => exact same ▸ filed
  | stamped _ _ sentAt valid written =>
      rw [written]
      refine filed.put (waits.storable.markSent valid) ?_
      intro same
      have here := waits.found
      rw [show record.messageId = other.messageId from same] at here
      exact (BackupRecord.sameEvent_markSent record sentAt).trans
        (filed.sameEvent waits.storable here)

theorem holds
    (ends : Ends archive record before after entry)
    (waits : archive.Waits before record) {supply : Supply}
    (holds : archive.Holds supply.Minted before) :
    archive.Holds supply.Minted after := by
  cases ends with
  | unsent _ _ same => exact same ▸ holds
  | unstamped _ _ same => exact same ▸ holds
  | stamped _ _ sentAt valid written =>
      obtain ⟨_, own, _, _, index, earlier, named⟩ :=
        holds.of_find? waits.found
      rw [written]
      exact holds.put (waits.storable.markSent valid)
        ⟨index, earlier, own.symm.trans named⟩

end Ends

namespace Course

variable {σ : Type} {archive : Archive} {course after : Course σ}

/-! ## Counts -/

section Counts

variable (course) (world : Watched σ) (waiting : List BackupRecord)
  (messageId : String)

theorem turnsOf_entry (entry : Logged) :
    (Course.mk world waiting course.earlier
        (course.current ++ [entry])).turnsOf messageId =
      course.turnsOf messageId ++
        if entry.concerns messageId then [entry] else [] := by
  unfold turnsOf
  rw [← List.append_assoc, List.filter_append, List.filter_cons,
    List.filter_nil]

theorem turnsOf_begins :
    (Course.mk world waiting (course.earlier ++ [course.current])
        []).turnsOf messageId =
      course.turnsOf messageId := by
  unfold turnsOf
  rw [List.flatten_append, List.flatten_singleton, List.append_nil]

theorem taken_entry (entry : Logged) :
    (Course.mk world waiting course.earlier
        (course.current ++ [entry])).taken messageId =
      course.taken messageId +
        if entry.concerns messageId then entry.taken else 0 := by
  unfold taken
  rw [turnsOf_entry, List.flatMap_append, List.countP_append]
  split
  · rw [List.flatMap_singleton]
    rfl
  · rfl

theorem taken_begins :
    (Course.mk world waiting (course.earlier ++ [course.current])
        []).taken messageId =
      course.taken messageId := by
  unfold taken
  rw [turnsOf_begins]

theorem unstamped_begins :
    (Course.mk world waiting (course.earlier ++ [course.current])
        []).unstamped messageId =
      course.unstamped messageId := by
  unfold unstamped
  rw [List.countP_append]
  rfl

/-- A turn adds to the passes that failed to stamp if it is the first there. -/
theorem unstamped_entry
    {entry : Logged}
    (first :
      entry.concerns messageId = true →
        ∀ logged ∈ course.current, logged.concerns messageId = false) :
    (Course.mk world waiting course.earlier
        (course.current ++ [entry])).unstamped messageId =
      course.unstamped messageId +
        if entry.concerns messageId && entry.turn.isUnstamped then 1
        else 0 := by
  unfold unstamped
  rw [List.countP_append, List.countP_append, List.countP_singleton,
    List.countP_singleton, List.any_append, Nat.add_assoc]
  congr 1
  cases concerned : entry.concerns messageId with
  | false => simp [concerned]
  | true =>
      have none :
          (course.current.any fun logged =>
            logged.concerns messageId && logged.turn.isUnstamped) = false := by
        rw [List.any_eq_false]
        intro logged member
        simp [first concerned logged member]
      simp [none, concerned]

end Counts

/-! ## The invariant -/

/--
The archive holds records under identifiers that were minted, and for each
identifier the envelopes that were taken are those of the failed stamps and the
one of the stamp.
-/
structure Tally (archive : Archive) (course : Course σ) : Prop where
  holds :
      archive.Holds course.world.supply.Minted course.world.vault.documents
  balanced : ∀ messageId,
    course.taken messageId =
      course.unstamped messageId +
        archive.stampsAt course.world.vault.documents messageId
  filed : ∀ entry ∈ course.earlier.flatten ++ course.current,
    archive.Filed course.world.vault.documents entry.turn.record
  waits : ∀ record ∈ course.waiting,
    archive.Waits course.world.vault.documents record
  apart : (course.waiting.map BackupRecord.messageId).Nodup
  fresh : ∀ record ∈ course.waiting, ∀ entry ∈ course.current,
    entry.concerns record.messageId = false

theorem Tally.holds_since
    (tally : Tally archive course) {supply : Supply}
    (since : course.world.supply.Since supply) :
    archive.Holds supply.Minted course.world.vault.documents :=
  tally.holds.mono fun _ minted => minted.since since

/-- An identifier that is drawn only now has nothing filed under it. -/
theorem Tally.missing
    (tally : Tally archive course)
    (since : course.world.supply.Since after.world.supply)
    (distinct : after.world.supply.Distinct)
    (minted : course.world.supply.minted < after.world.supply.minted) :
    course.world.vault.documents.find? archive.schema
        (course.world.supply.identifiers course.world.supply.minted).toText =
      none := by
  rw [Option.eq_none_iff_forall_ne_some]
  intro document found
  obtain ⟨record, own, _, _, index, earlier, same⟩ :=
    tally.holds.of_find? found
  have drawn :
      after.world.supply.identifiers index =
        after.world.supply.identifiers course.world.supply.minted := by
    rw [since.identifiers]
    exact Identifier.toText_injective (same.symm.trans own)
  have known :=
    distinct index (Nat.lt_trans earlier minted) _ minted drawn
  exact Nat.ne_of_lt earlier known

theorem Tally.rests
    (tally : Tally archive course) {world : Watched σ}
    (since : course.world.supply.Since world.supply)
    (same : world.vault.documents = course.world.vault.documents) :
    Tally archive
      ⟨world, course.waiting, course.earlier, course.current⟩ := by
  have holds := tally.holds_since since
  exact ⟨same ▸ holds, same ▸ tally.balanced, same ▸ tally.filed,
    same ▸ tally.waits, tally.apart, tally.fresh⟩

/-- A record that is filed under an identifier drawn only now disturbs none. -/
theorem Tally.files
    (tally : Tally archive course) {world : Watched σ}
    (since : course.world.supply.Since world.supply) {record : BackupRecord}
    (missing :
      course.world.vault.documents.find? archive.schema record.messageId =
        none)
    (minted : world.supply.Minted record) (storable : record.Storable)
    (unsent : record.isSent = false)
    (written :
      world.vault.documents =
        course.world.vault.documents.put archive.schema record.messageId
          (BackupRecord.codec.toDocument record)) :
    Tally archive
      ⟨world, course.waiting, course.earlier, course.current⟩ := by
  have holds := tally.holds_since since
  refine ⟨?_, ?_, ?_, ?_, tally.apart, tally.fresh⟩
  · exact written ▸ holds.put storable minted
  · intro messageId
    have balanced := tally.balanced messageId
    show course.taken messageId =
      course.unstamped messageId +
        archive.stampsAt world.vault.documents messageId
    rw [written]
    by_cases own : messageId = record.messageId
    · subst own
      rw [Archive.stampsAt_of_missing missing] at balanced
      rw [Archive.stampsAt_put_self storable, unsent]
      exact balanced
    · rw [Archive.stampsAt_put_of_ne own]
      exact balanced
  · intro entry member
    rw [written]
    have filed := tally.filed entry member
    refine filed.put storable ?_
    intro own
    obtain ⟨_, found, _⟩ := filed
    rw [← own, missing] at found
    cases found
  · intro other member
    rw [written]
    have waits := tally.waits other member
    refine waits.put ?_ _
    intro own
    have found := waits.found
    rw [own, missing] at found
    cases found

theorem Tally.begins
    (tally : Tally archive course) {world : Watched σ}
    {waiting : List BackupRecord}
    (since : course.world.supply.Since world.supply)
    (same : world.vault.documents = course.world.vault.documents)
    (listed :
      waiting.Sublist
        (Archive.sortOut
          (course.world.vault.documents.list archive.schema)).unsent) :
    Tally archive
      ⟨world, waiting, course.earlier ++ [course.current], []⟩ := by
  have holds := tally.holds_since since
  refine ⟨same ▸ holds, ?_, ?_, ?_, ?_, ?_⟩
  · intro messageId
    rw [taken_begins, unstamped_begins]
    exact same ▸ tally.balanced messageId
  · intro entry member
    rw [List.flatten_append, List.flatten_singleton, List.append_nil] at member
    exact same ▸ tally.filed entry member
  · intro record member
    exact same ▸ tally.holds.waits (listed.subset member)
  · exact (listed.map _).nodup tally.holds.nodup_unsent
  · intro record _ entry member
    cases member

/-- A turn pays for what was taken in it, and disturbs no other account. -/
theorem Tally.balanced_turns
    (tally : Tally archive course) {world : Watched σ}
    {record : BackupRecord} {waiting : List BackupRecord} {entry : Logged}
    (waits : course.waiting = record :: waiting)
    (own : entry.turn.record = record)
    (ends :
      Ends archive record course.world.vault.documents world.vault.documents
        entry)
    (messageId : String) :
    (Course.mk world waiting course.earlier
        (course.current ++ [entry])).taken messageId =
      (Course.mk world waiting course.earlier
          (course.current ++ [entry])).unstamped messageId +
        archive.stampsAt world.vault.documents messageId := by
  have listed : record ∈ course.waiting := waits ▸ List.mem_cons_self
  have balanced := tally.balanced messageId
  have concerned :
      entry.concerns messageId = decide (record.messageId = messageId) := by
    unfold Logged.concerns
    rw [own]
  have first :
      entry.concerns messageId = true →
        ∀ logged ∈ course.current, logged.concerns messageId = false := by
    intro known logged member
    rw [concerned] at known
    obtain rfl := of_decide_eq_true known
    exact tally.fresh record listed logged member
  rw [taken_entry, unstamped_entry _ _ _ _ first]
  by_cases same : record.messageId = messageId
  · subst same
    have paid := ends.taken_eq (tally.waits record listed)
    rw [(tally.waits record listed).stampsAt] at balanced
    rw [concerned, decide_eq_true rfl, if_pos rfl, Bool.true_and]
    omega
  · rw [ends.stampsAt_of_ne (Ne.symm same), concerned, decide_eq_false same]
    exact balanced

theorem Tally.turns
    (tally : Tally archive course) {world : Watched σ}
    {record : BackupRecord} {waiting : List BackupRecord} {entry : Logged}
    (waits : course.waiting = record :: waiting)
    (since : course.world.supply.Since world.supply)
    (own : entry.turn.record = record)
    (ends :
      Ends archive record course.world.vault.documents world.vault.documents
        entry) :
    Tally archive
      ⟨world, waiting, course.earlier, course.current ++ [entry]⟩ := by
  have holds := tally.holds_since since
  have apart := tally.apart
  rw [waits, List.map_cons] at apart
  obtain ⟨alone, apart⟩ := List.nodup_cons.mp apart
  have first := tally.waits record (waits ▸ List.mem_cons_self)
  have others {other : BackupRecord} (member : other ∈ waiting) :
      other ∈ course.waiting ∧ other.messageId ≠ record.messageId :=
    ⟨waits ▸ List.mem_cons_of_mem _ member,
      fun same => alone (same ▸ List.mem_map_of_mem member)⟩
  refine ⟨ends.holds first holds, tally.balanced_turns waits own ends, ?_, ?_,
    apart, ?_⟩
  · intro logged member
    rw [← List.append_assoc] at member
    rcases List.mem_append.mp member with earlier | last
    · exact ends.filed first (tally.filed logged earlier)
    · cases List.mem_singleton.mp last
      rw [own]
      exact ends.filed first
        ⟨record, first.found, first.storable, rfl, rfl, rfl⟩
  · intro other member
    obtain ⟨listed, different⟩ := others member
    exact ends.waits_of_ne (tally.waits other listed) different
  · intro other member logged given
    obtain ⟨listed, different⟩ := others member
    rcases List.mem_append.mp given with earlier | last
    · exact tally.fresh other listed logged earlier
    · cases List.mem_singleton.mp last
      unfold Logged.concerns
      rw [own]
      exact decide_eq_false different.symm

theorem Tally.does
    (tally : Tally archive course)
    (since : course.world.supply.Since after.world.supply)
    (distinct : after.world.supply.Distinct)
    (does : course.Does archive after) :
    Tally archive after := by
  cases does with
  | rests world same => exact tally.rests since same
  | files world record minted own storable unsent written =>
      have missing := tally.missing since distinct minted
      rw [← own] at missing
      exact tally.files since missing
        ⟨_, minted, since.identifiers ▸ own⟩ storable unsent written
  | begins world waiting same listed => exact tally.begins since same listed
  | turns world record waiting entry waits own ends =>
      exact tally.turns waits since own ends

/-! ## Runs -/

/-- The clock works, and the tally holds if no identifier was minted twice. -/
structure Kept (archive : Archive) (course : Course σ) : Prop where
  clock : ∀ index, (course.world.supply.times index).Valid
  tally : course.world.supply.Distinct → Tally archive course

theorem Kept.advance (kept : Kept archive course) (step : Step σ) :
    Kept archive (course.advance archive step) := by
  have since := since_advance archive kept.clock step
  refine ⟨since.times ▸ kept.clock, ?_⟩
  intro distinct
  have tally := kept.tally (since.distinct distinct)
  exact tally.does since distinct (does_advance kept.clock tally.waits step)

theorem Kept.run (kept : Kept archive course) (steps : List (Step σ)) :
    Kept archive (course.run archive steps) ∧
      course.world.supply.Since (course.run archive steps).world.supply := by
  induction steps generalizing course with
  | nil => exact ⟨kept, .refl _⟩
  | cons step steps induction =>
      obtain ⟨last, since⟩ := induction (kept.advance step)
      exact ⟨last, (since_advance archive kept.clock step).trans since⟩

/-- A record that is stamped stays so, and has no turn. -/
theorem Tally.settled
    (tally : Tally archive course)
    (since : course.world.supply.Since after.world.supply)
    (distinct : after.world.supply.Distinct) {messageId : String}
    (stamped :
      archive.stampsAt course.world.vault.documents messageId = 1)
    (does : course.Does archive after) :
    archive.stampsAt after.world.vault.documents messageId = 1 ∧
      after.turnsOf messageId = course.turnsOf messageId := by
  cases does with
  | rests world same => exact ⟨same ▸ stamped, rfl⟩
  | files world record minted own storable unsent written =>
      have missing := tally.missing since distinct minted
      refine ⟨?_, rfl⟩
      show archive.stampsAt world.vault.documents messageId = 1
      rw [written, Archive.stampsAt_put_of_ne _ _]
      · exact stamped
      · rintro rfl
        rw [← own] at missing
        rw [Archive.stampsAt_of_missing missing] at stamped
        cases stamped
  | begins world waiting same listed =>
      exact ⟨same ▸ stamped, turnsOf_begins course world waiting messageId⟩
  | turns world record waiting entry waits own ends =>
      have first := tally.waits record (waits ▸ List.mem_cons_self)
      have different : messageId ≠ record.messageId := by
        rintro rfl
        rw [first.stampsAt] at stamped
        cases stamped
      refine ⟨(ends.stampsAt_of_ne different).trans stamped, ?_⟩
      rw [turnsOf_entry]
      unfold Logged.concerns
      rw [own, decide_eq_false (Ne.symm different)]
      exact List.append_nil _

theorem Kept.settled
    (kept : Kept archive course) {messageId : String}
    (stamped :
      archive.stampsAt course.world.vault.documents messageId = 1)
    (steps : List (Step σ))
    (distinct : (course.run archive steps).world.supply.Distinct) :
    (course.run archive steps).turnsOf messageId =
      course.turnsOf messageId := by
  induction steps generalizing course with
  | nil => rfl
  | cons step steps induction =>
      have next := kept.advance step
      have since := since_advance archive kept.clock step
      have between := (next.run steps).2.distinct distinct
      have tally := kept.tally (since.distinct between)
      obtain ⟨stays, same⟩ := tally.settled since between stamped
        (does_advance kept.clock tally.waits step)
      exact (induction next stays distinct).trans same

end Course

end EventRelay
