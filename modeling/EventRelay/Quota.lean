/-!
# Quotas

A quota is a count of at least one that fits 32 bits: how many failures open a
breaker, how many probes it takes, how many attempts a write has.
-/

namespace EventRelay

/-- A positive count of 32 bits. -/
structure Quota where
  count : Nat
  positive : 1 ≤ count
  bounded : count < UInt32.size
  deriving DecidableEq

namespace Quota

/-- The quota nearest to a count: zero counts as one. -/
def clamp (count : UInt32) : Quota where
  count := max count.toNat 1
  positive := Nat.le_max_right ..
  bounded := Nat.max_lt.2 ⟨count.toNat_lt, by decide⟩

@[simp]
theorem count_clamp (count : UInt32) :
    (clamp count).count = max count.toNat 1 := rfl

/-- The count as a number of 32 bits. -/
def number (quota : Quota) : UInt32 :=
  .ofNatLT quota.count quota.bounded

@[simp]
theorem toNat_number (quota : Quota) : quota.number.toNat = quota.count := rfl

/-- The quota of a count that is in range. -/
def ofNat? (count : Nat) : Option Quota :=
  if range : 1 ≤ count ∧ count < UInt32.size then
    some ⟨count, range.1, range.2⟩
  else
    none

/-- The least quota. -/
def one : Quota := ⟨1, by decide, by decide⟩

/-- The quota of five. -/
def five : Quota := ⟨5, by decide, by decide⟩

/-- The quota of ten. -/
def ten : Quota := ⟨10, by decide, by decide⟩

end Quota

end EventRelay
