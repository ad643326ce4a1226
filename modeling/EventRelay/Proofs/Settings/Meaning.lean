import EventRelay.Proofs.Number.Numeral
import EventRelay.Settings.Basic

/-!
# What the texts of variables mean

What a variable may be set to, and what it then means, is given here apart
from the readers: a name, a count, a pause, a factor or a word for yes or no.
Every reader accepts exactly the texts that mean something, with the value
that they mean.
-/

namespace EventRelay

open EventRelay.Number

/-- The text is a name, which is not empty. -/
def MeansName (text name : String) : Prop :=
  text ≠ "" ∧ name = text

/-- The text is a topic that replaces the standard one. -/
def MeansTopic (text : String) (topic : Option String) : Prop :=
  text ≠ "" ∧ topic = some text

/-- The text is a count of at least one that fits 32 bits. -/
def MeansQuota (text : String) (quota : Quota) : Prop :=
  SpellsWhole text quota.count

/-- The text is a number of milliseconds that fits 64 bits. -/
def MeansPause (text : String) (pause : Duration) : Prop :=
  ∃ millis, SpellsWhole text millis ∧ millis < UInt64.size ∧
    pause = .ofMillis millis

/-- The text is a numeral of a finite number of at least one. -/
def MeansFactor (text : String) (factor : Multiplier) : Prop :=
  ∃ numeral : Numeral, text.toList = numeral.text ∧
    numeral.value = .finite factor.number

/-- The words for yes and for no. -/
def flagWords : Bool → List String
  | true => ["true", "1", "yes", "on"]
  | false => ["false", "0", "no", "off"]

/-- The text is one of the words, in any case of letters. -/
def MeansFlag (text : String) (flag : Bool) : Prop :=
  Text.lowercase text ∈ flagWords flag

/-! ## Readers -/

theorem readNonEmpty_eq_ok {text name : String} :
    readNonEmpty text = .ok name ↔ MeansName text name := by
  unfold readNonEmpty MeansName
  split
  next empty =>
      constructor
      · intro read
        cases read
      · rintro ⟨written, -⟩
        exact (written (String.isEmpty_iff.mp empty)).elim
  next written =>
      constructor
      · intro read
        cases read
        exact ⟨fun empty => written (String.isEmpty_iff.mpr empty), rfl⟩
      · rintro ⟨-, rfl⟩
        rfl

theorem readQuota_eq_ok {text : String} {quota : Quota} :
    readQuota text = .ok quota ↔ MeansQuota text quota := by
  constructor
  · intro read
    unfold readQuota at read
    split at read
    next => cases read
    next count number =>
        split at read
        next quota counted =>
            cases read
            unfold Quota.ofNat? at counted
            split at counted
            next =>
                cases counted
                exact (readNatural_eq_ok.mp number).1
            next => cases counted
        next => cases read
  · intro means
    have within : quota.count ≤ UInt32.size - 1 :=
      Nat.le_sub_one_of_lt quota.bounded
    have counted : Quota.ofNat? quota.count = some quota :=
      dif_pos ⟨quota.positive, quota.bounded⟩
    unfold readQuota
    rw [readNatural_eq_ok.mpr ⟨means, within⟩]
    dsimp only
    rw [counted]

theorem readMillis_eq_ok {text : String} {pause : Duration} :
    readMillis text = .ok pause ↔ MeansPause text pause := by
  constructor
  · intro read
    unfold readMillis at read
    split at read
    next => cases read
    next millis number =>
        obtain ⟨spells, bounded⟩ := readNatural_eq_ok.mp number
        cases read
        exact ⟨millis, spells, Nat.lt_of_le_sub_one (by decide) bounded, rfl⟩
  · rintro ⟨millis, spells, bounded, rfl⟩
    unfold readMillis
    rw [readNatural_eq_ok.mpr ⟨spells, Nat.le_sub_one_of_lt bounded⟩]

theorem readMultiplier_eq_ok {text : String} {factor : Multiplier} :
    readMultiplier text = .ok factor ↔ MeansFactor text factor := by
  unfold MeansFactor
  rw [← readBinary64_eq_finite]
  constructor
  · intro read
    unfold readMultiplier at read
    split at read
    next => cases read
    next number finite =>
        split at read
        next =>
            cases read
            exact finite
        next => cases read
    next => cases read
  · intro finite
    unfold readMultiplier
    rw [finite]
    exact dif_pos factor.atLeastOne

theorem readFlag_eq_ok {text : String} {flag : Bool} :
    readFlag text = .ok flag ↔ MeansFlag text flag := by
  have apart : ∀ word ∈ flagWords false, ¬ (flagWords true).contains word := by
    decide
  have reads :
      readFlag text =
        if (flagWords true).contains (Text.lowercase text) then .ok true
        else if (flagWords false).contains (Text.lowercase text) then .ok false
        else .error (text, .flag) := rfl
  unfold MeansFlag
  rw [reads, ← List.contains_iff_mem]
  cases flag with
  | true =>
      constructor
      · intro read
        split at read
        next yes => exact yes
        next => split at read <;> cases read
      · intro yes
        rw [if_pos yes]
  | false =>
      constructor
      · intro read
        split at read
        next => cases read
        next =>
            split at read
            next no => exact no
            next => cases read
      · intro no
        rw [if_neg (apart _ (List.contains_iff_mem.mp no)), if_pos no]

end EventRelay
