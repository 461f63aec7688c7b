import Mathlib.Algebra.Group.Nat.Defs

/-! Versions of the VHLO dialect. -/

namespace Stablehlo

/-- A version, as its major, minor and patch numbers. -/
structure Version where
  /-- The major number. -/
  major : Int
  /-- The minor number. -/
  minor : Int
  /-- The patch number. -/
  patch : Int
  deriving DecidableEq, Repr

namespace Version

/-- The current version of the dialect. -/
def currentVersion : Version := ⟨1, 21, 0⟩

/-- The minimum supported version of the dialect. -/
def minimumVersion : Version := ⟨0, 9, 0⟩

/-- Versions are compared number by number, from the major one on. -/
instance : LE Version where
  le a b := a.major < b.major ∨
    a.major = b.major ∧ (a.minor < b.minor ∨ a.minor = b.minor ∧ a.patch ≤ b.patch)

instance : LT Version where
  lt a b := ¬b ≤ a

instance (a b : Version) : Decidable (a ≤ b) :=
  inferInstanceAs (Decidable (_ ∨ _ ∧ (_ ∨ _ ∧ _)))

instance (a b : Version) : Decidable (a < b) := inferInstanceAs (Decidable (¬_))

/-- What the order of two versions says about their numbers. -/
theorem le_def {a b : Version} : a ≤ b ↔ a.major < b.major ∨
    a.major = b.major ∧ (a.minor < b.minor ∨ a.minor = b.minor ∧ a.patch ≤ b.patch) := Iff.rfl

/-- Of two versions, one is at most the other. -/
theorem le_total (a b : Version) : a ≤ b ∨ b ≤ a := by
  simp only [le_def]
  omega

/-- A version at most a second one is at most all that the second one is at most. -/
theorem le_trans {a b c : Version} (first : a ≤ b) (second : b ≤ c) : a ≤ c := by
  simp only [le_def] at *
  omega

end Version

/-- The first and the last version that has something. -/
structure VersionRange where
  /-- The minimum version. -/
  minVersion : Version
  /-- The maximum version, inclusive. -/
  maxVersion : Version

/-- Everything from a version on. -/
def VersionRange.since (minVersion : Version) : VersionRange :=
  ⟨minVersion, Version.currentVersion⟩

/-- A version within the range. -/
def VersionRange.isLegalVersion (range : VersionRange) (target : Version) : Bool :=
  decide (range.minVersion ≤ target) && decide (target ≤ range.maxVersion)

end Stablehlo
