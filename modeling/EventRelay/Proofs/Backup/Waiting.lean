import EventRelay.Proofs.Backup.Overlay
import Mathlib.Data.List.Sort

/-!
# What a scan makes of every document

A document is stamped, waits to be sent or is no record at all, and a scan
counts it in this one place.  What waits is sorted by the time of its failure
alone.  Sorting keeps the order of records that failed at the same time, and
the documents were listed by their keys, so the waiting records come by time
and then by key.  A record does not tell the key of its document, so the keys
are carried along here.
-/

namespace EventRelay

open EventRelay.Json EventRelay.Store

/-- Items of the same rank keep their order when a list is sorted by rank. -/
theorem filter_mergeSort
    {α : Type} (rank : α → Int) (items : List α) (level : Int) :
    (items.mergeSort fun left right =>
        decide (rank left ≤ rank right)).filter
        (fun item => decide (rank item = level)) =
      items.filter fun item => decide (rank item = level) := by
  have alike :
      (items.filter fun item => decide (rank item = level)).Pairwise
        fun left right => decide (rank left ≤ rank right) = true := by
    refine List.pairwise_of_forall_mem_list ?_
    intro left inLeft right inRight
    have leftRank := of_decide_eq_true (List.mem_filter.mp inLeft).2
    have rightRank := of_decide_eq_true (List.mem_filter.mp inRight).2
    exact decide_eq_true (by omega)
  have kept := List.sublist_mergeSort
    (fun first second third => by simp only [decide_eq_true_eq]; omega)
    (fun left right => by simp only [Bool.or_eq_true, decide_eq_true_eq]; omega)
    alike (List.filter_sublist (l := items))
  have again := kept.filter fun item => decide (rank item = level)
  rw [List.filter_filter] at again
  simp only [Bool.and_self] at again
  exact (again.eq_of_length
    ((List.mergeSort_perm items _).filter _).length_eq.symm).symm

/-- A list in some order that is sorted by rank is in this order by rank. -/
theorem pairwise_mergeSort_rank
    {α : Type} (rank : α → Int) {before : α → α → Prop} {items : List α}
    (ordered : items.Pairwise before) :
    (items.mergeSort fun left right =>
        decide (rank left ≤ rank right)).Pairwise
      fun left right =>
        rank left < rank right ∨
          rank left = rank right ∧ before left right := by
  have ranks :
      (items.mergeSort fun left right =>
          decide (rank left ≤ rank right)).Pairwise
        fun left right => rank left ≤ rank right := by
    refine (List.pairwise_mergeSort ?_ ?_ _).imp of_decide_eq_true
    · intro first second third
      simp only [decide_eq_true_eq]
      omega
    · intro left right
      simp only [Bool.or_eq_true, decide_eq_true_eq]
      omega
  rw [List.pairwise_iff_forall_sublist] at ranks ⊢
  intro left right pair
  rcases Int.lt_or_eq_of_le (ranks pair) with lower | same
  · exact .inl lower
  -- Two items of one rank are listed as they were before sorting.
  · have alike := pair.filter fun item => decide (rank item = rank right)
    have both :
        [left, right].filter (fun item => decide (rank item = rank right)) =
          [left, right] := by
      simp [same]
    rw [both, filter_mergeSort] at alike
    exact .inr ⟨same, List.pairwise_iff_forall_sublist.mp ordered
      (alike.trans List.filter_sublist)⟩

namespace Archive

/-! ## The kinds of documents -/

/-- A document that is read as a record with a stamp. -/
def isStamped (document : Json) : Bool :=
  (decode document).toOption.any BackupRecord.isSent

/-- A document that is read as a record without a stamp. -/
def isWaiting (document : Json) : Bool :=
  (decode document).toOption.any fun record => !record.isSent

/-- A document that is read as no record. -/
def isUndecodable (document : Json) : Bool :=
  (decode document).toOption.isNone

theorem isStamped_toDocument {record : BackupRecord}
    (storable : record.Storable) :
    isStamped (BackupRecord.codec.toDocument record) = record.isSent := by
  unfold isStamped
  rw [decode_toDocument storable]
  rfl

theorem isWaiting_toDocument {record : BackupRecord}
    (storable : record.Storable) :
    isWaiting (BackupRecord.codec.toDocument record) = !record.isSent := by
  unfold isWaiting
  rw [decode_toDocument storable]
  rfl

/-- A scan judges a document by its kind. -/
theorem judge_kind (document : Json) :
    (judge document).isSent = isStamped document ∧
      (judge document).unsent?.isSome = isWaiting document ∧
      (judge document).undecodable?.isSome = isUndecodable document := by
  unfold judge isStamped isWaiting isUndecodable
  cases decode document with
  | error error => exact ⟨rfl, rfl, rfl⟩
  | ok record =>
      cases sent : record.isSent with
      | true => simp [sent, Finding.isSent, Finding.unsent?,
          Finding.undecodable?, Except.toOption]
      | false => simp [sent, Finding.isSent, Finding.unsent?,
          Finding.undecodable?, Except.toOption]

/-- A scan counts the documents of each kind. -/
theorem sortOut_counts (contents : List Json) :
    (sortOut contents).sent = contents.countP isStamped ∧
      (sortOut contents).unsent.length = contents.countP isWaiting ∧
      (sortOut contents).undecodable.length =
        contents.countP isUndecodable := by
  unfold sortOut
  simp only [List.length_mergeSort, List.length_filterMap_eq_countP,
    List.countP_map, Function.comp_def, judge_kind, and_self]

/-- What is not stamped either waits or is no record, and never both. -/
theorem countP_not_isStamped (contents : List Json) :
    contents.countP (fun document => !isStamped document) =
      contents.countP isWaiting + contents.countP isUndecodable := by
  induction contents with
  | nil => rfl
  | cons document contents induction =>
      have own :
          (if (!isStamped document) = true then 1 else 0) =
            (if isWaiting document = true then 1 else 0) +
              if isUndecodable document = true then 1 else 0 := by
        unfold isStamped isWaiting isUndecodable
        cases decode document with
        | error error => rfl
        | ok record =>
            cases sent : record.isSent with
            | true => simp [sent, Except.toOption]
            | false => simp [sent, Except.toOption]
      rw [List.countP_cons, List.countP_cons, List.countP_cons, induction, own]
      omega

/-! ## The order of what waits -/

/-- The record of an entry that waits, with the key of the entry. -/
def waitingEntry? (entry : String × Json) : Option (String × BackupRecord) :=
  (judge entry.2).unsent?.map (Prod.mk entry.1)

/--
The records that wait, each with the key of its document, in the order in which
a scan gives them.
-/
def waiting (archive : Archive) (documents : Documents) :
    List (String × BackupRecord) :=
  ((documents.inSchema archive.schema).filterMap waitingEntry?).mergeSort
    fun left right => decide (left.2.failedAt ≤ right.2.failedAt)

/-- Whether a record failed before another, or has the lesser key. -/
def Precedes (left right : String × BackupRecord) : Prop :=
  left.2.failedAt < right.2.failedAt ∨
    left.2.failedAt = right.2.failedAt ∧ left.1 < right.1

theorem Precedes.asymm
    {left right : String × BackupRecord} (precedes : Precedes left right) :
    ¬Precedes right left := by
  rcases precedes with earlier | ⟨same, less⟩
  · rintro (later | ⟨again, _⟩)
    · omega
    · omega
  · rintro (later | ⟨_, greater⟩)
    · omega
    · exact String.lt_asymm less greater

variable {archive : Archive} {documents : Documents}

theorem map_waiting (archive : Archive) (documents : Documents) :
    (archive.waiting documents).map Prod.snd =
      (sortOut (documents.list archive.schema)).unsent := by
  have alone :
      (((documents.inSchema archive.schema).filterMap
        waitingEntry?).map Prod.snd) =
        ((documents.list archive.schema).map judge).filterMap
          Finding.unsent? := by
    unfold Documents.list Dictionary.values
    rw [List.map_filterMap, List.filterMap_map, List.filterMap_map]
    apply congrArg (fun found => List.filterMap found _)
    funext entry
    unfold waitingEntry?
    rw [Option.map_map]
    exact Option.map_id_apply
  have sorted :
      (archive.waiting documents).map Prod.snd =
        (((documents.inSchema archive.schema).filterMap
          waitingEntry?).map Prod.snd).mergeSort
          fun left right => decide (left.failedAt ≤ right.failedAt) :=
    List.map_mergeSort fun _ _ _ _ => rfl
  rw [sorted, alone]
  rfl

theorem mem_waiting
    (ordered : (documents.inSchema archive.schema).Ascending) {key : String}
    {record : BackupRecord} :
    (key, record) ∈ archive.waiting documents ↔
      archive.ReadsAt documents key record ∧ record.isSent = false := by
  unfold waiting
  rw [(List.mergeSort_perm _ _).mem_iff, List.mem_filterMap]
  constructor
  · rintro ⟨⟨other, document⟩, listed, found⟩
    obtain ⟨present, waits, same⟩ := Option.map_eq_some_iff.mp found
    cases same
    obtain ⟨decoded, unsent⟩ := unsent?_judge_eq_some.mp waits
    exact ⟨⟨document, ordered.find?_eq_some_iff.mpr listed, decoded⟩, unsent⟩
  · rintro ⟨⟨document, found, decoded⟩, unsent⟩
    refine ⟨(key, document), ordered.find?_eq_some_iff.mp found, ?_⟩
    unfold waitingEntry?
    rw [unsent?_judge_eq_some.mpr ⟨decoded, unsent⟩]
    rfl

/-- What waits comes by the time of its failure and then by key. -/
theorem pairwise_waiting
    (ordered : (documents.inSchema archive.schema).Ascending) :
    (archive.waiting documents).Pairwise Precedes := by
  have keys :
      ((documents.inSchema archive.schema).filterMap waitingEntry?).Pairwise
        fun left right => left.1 < right.1 := by
    refine ordered.filterMap _ ?_
    intro left right less first here second there
    obtain ⟨_, _, rfl⟩ := Option.map_eq_some_iff.mp here
    obtain ⟨_, _, rfl⟩ := Option.map_eq_some_iff.mp there
    exact less
  exact pairwise_mergeSort_rank _ keys

/-- What waits comes with every key once. -/
theorem nodup_waiting
    (ordered : (documents.inSchema archive.schema).Ascending) :
    ((archive.waiting documents).map Prod.fst).Nodup := by
  rw [List.Nodup, List.pairwise_map]
  refine (pairwise_waiting ordered).imp_of_mem ?_
  rintro ⟨key, left⟩ ⟨_, right⟩ leftWaits rightWaits precedes rfl
  obtain rfl :=
    ((mem_waiting ordered).mp leftWaits).1.unique
      ((mem_waiting ordered).mp rightWaits).1
  rcases precedes with earlier | ⟨_, less⟩
  · exact Int.lt_irrefl _ earlier
  · exact String.lt_irrefl _ less

end Archive

end EventRelay
