import Stablehlo.Reference.Tensor
import Stablehlo.Support.Decimal
import Stablehlo.Vhlo.Version

/-! Versions written as strings, and strings read as versions. -/

namespace Stablehlo

open Decimal (IsNumeral value withoutLeadingZeros)

section Reading

/-- A decimal integer, with a sign in front of a negative one. `none` is what the library reports
for a string that is no integer or one that a 64-bit integer does not hold. -/
def getAsInteger (str : List Char) : Option Int :=
  match str with
  | '-' :: digits =>
    if IsNumeral digits ∧ value digits ≤ 2 ^ 63 then some (-value digits) else none
  | digits => if IsNumeral digits ∧ value digits < 2 ^ 63 then some (value digits) else none

/-- The number of a numeral. -/
def parseNumber (numRef : List Char) : Except Failure Int :=
  match getAsInteger numRef with
  | none => .error (.fatalError "failed to parse version number")
  | some num => .ok num

/-- The matches of `^([0-9]+)\.([0-9]+)\.([0-9]+)$`. -/
def versionRegex (versionRef : List Char) : Option (List Char × List Char × List Char) :=
  match versionRef.splitOn '.' with
  | [major, minor, patch] =>
    if IsNumeral major ∧ IsNumeral minor ∧ IsNumeral patch then some (major, minor, patch)
    else none
  | _ => none

/-- The three numbers of a version argument, `none` for one that is not `#.#.#`. -/
def extractVersionNumbers (versionRef : List Char) : Except Failure (Option (Int × Int × Int)) :=
  match versionRegex versionRef with
  | none => .ok none
  | some (major, minor, patch) => do
    let major ← parseNumber major
    let minor ← parseNumber minor
    let patch ← parseNumber patch
    return some (major, minor, patch)

/-- The version that a string stands for, `none` if the string is invalid. -/
def Version.fromString (versionRef : String) : Except Failure (Option Version) := do
  match ← extractVersionNumbers versionRef.toList with
  | none => return none
  | some (major, minor, patch) => return some ⟨major, minor, patch⟩

end Reading

section Writing

/-- A number as a stream writes it. -/
def writeNumber (number : Int) : List Char :=
  if number < 0 then '-' :: Nat.toDigits 10 number.natAbs else Nat.toDigits 10 number.natAbs

/-- The string of a version. -/
def Version.toString (version : Version) : String :=
  String.ofList (writeNumber version.major ++ '.' :: writeNumber version.minor ++
    '.' :: writeNumber version.patch)

end Writing

section Regex

/-- Three decimal numerals separated by dots. -/
structure IsVersionString (str : List Char) (major minor patch : List Char) : Prop where
  /-- The first numeral. -/
  isMajor : IsNumeral major
  /-- The second numeral. -/
  isMinor : IsNumeral minor
  /-- The third numeral. -/
  isPatch : IsNumeral patch
  /-- The dots between them. -/
  dots : str = major ++ '.' :: minor ++ '.' :: patch

/-- There is no dot in a numeral. -/
theorem dot_notMem {numeral : List Char} (isNumeral : IsNumeral numeral) : '.' ∉ numeral := by
  intro listed
  have digit := isNumeral.2 _ listed
  exact absurd digit (by decide)

/-- The regular expression matches the strings of three numerals, with these as its matches. -/
theorem versionRegex_eq_some {str major minor patch : List Char} :
    versionRegex str = some (major, minor, patch) ↔ IsVersionString str major minor patch := by
  constructor
  · intro isMatch
    unfold versionRegex at isMatch
    split at isMatch
    · next first second third parts =>
      split at isMatch
      · next numerals =>
        cases isMatch
        -- The parts between the dots make up the string again.
        have joined : List.intercalate ['.'] (str.splitOn '.') = str :=
          List.intercalate_splitOn '.'
        rw [parts] at joined
        exact ⟨numerals.1, numerals.2.1, numerals.2.2, by
          simpa [List.intercalate, List.intersperse] using joined.symm⟩
      · cases isMatch
    · cases isMatch
  · rintro ⟨isMajor, isMinor, isPatch, rfl⟩
    have parts : (major ++ '.' :: minor ++ '.' :: patch).splitOn '.' = [major, minor, patch] := by
      have split := @List.splitOn_intercalate _ [major, minor, patch] _ _ '.' (by
        simp [dot_notMem isMajor, dot_notMem isMinor, dot_notMem isPatch]) (by simp)
      simpa [List.intercalate, List.intersperse] using split
    rw [versionRegex, parts]
    exact if_pos ⟨isMajor, isMinor, isPatch⟩

end Regex

section Numbers

/-- The numeral of a number that fits into a 64-bit integer is read as that number. -/
theorem parseNumber_eq {numeral : List Char} (isNumeral : IsNumeral numeral) :
    parseNumber numeral =
      if value numeral < 2 ^ 63 then .ok (value numeral : Int)
      else .error (.fatalError "failed to parse version number") := by
  have integer : getAsInteger numeral =
      if value numeral < 2 ^ 63 then some (value numeral : Int) else none := by
    unfold getAsInteger
    split
    · next digits =>
      -- A sign is no digit.
      exact absurd (isNumeral.2 '-' List.mem_cons_self) (by decide)
    · by_cases fits : value numeral < 2 ^ 63
      · rw [if_pos ⟨isNumeral, fits⟩, if_pos fits]
      · rw [if_neg fun both => fits both.2, if_neg fits]
  rw [parseNumber, integer]
  by_cases fits : value numeral < 2 ^ 63
  · rw [if_pos fits, if_pos fits]
  · rw [if_neg fits, if_neg fits]

/-- A number is written as a numeral unless it is negative. -/
theorem writeNumber_natCast (number : Nat) : writeNumber number = Nat.toDigits 10 number := by
  rw [writeNumber, if_neg (by omega), Int.natAbs_natCast]

/-- The sign of a negative number is no digit. -/
theorem not_isNumeral_writeNumber {number : Int} (negative : number < 0) :
    ¬IsNumeral (writeNumber number) := by
  intro isNumeral
  rw [writeNumber, if_pos negative] at isNumeral
  exact absurd (isNumeral.2 '-' List.mem_cons_self) (by decide)

/-- What is written is a numeral exactly for the numbers that are not negative. -/
theorem isNumeral_writeNumber {number : Int} : IsNumeral (writeNumber number) ↔ 0 ≤ number := by
  constructor
  · intro isNumeral
    by_contra negative
    exact not_isNumeral_writeNumber (by omega) isNumeral
  · intro nonneg
    obtain ⟨natural, rfl⟩ := Int.eq_ofNat_of_zero_le nonneg
    rw [writeNumber_natCast]
    exact Decimal.isNumeral_toDigits natural

/-- There is no dot in a number that is written. -/
theorem dot_notMem_writeNumber (number : Int) : '.' ∉ writeNumber number := by
  have digits : '.' ∉ Nat.toDigits 10 number.natAbs :=
    dot_notMem (Decimal.isNumeral_toDigits number.natAbs)
  unfold writeNumber
  split
  · intro listed
    rcases List.mem_cons.mp listed with sign | listed
    · exact absurd sign (by decide)
    · exact digits listed
  · exact digits

end Numbers

section Versions

variable {versionRef : String} {major minor patch : List Char}

/-- A numeral in a version string that stands for more than a 64-bit integer holds. -/
def Overflows (major minor patch : List Char) : Prop :=
  ∃ numeral ∈ [major, minor, patch], 2 ^ 63 ≤ value numeral

/-- The version of three numerals. -/
def versionOf (major minor patch : List Char) : Version :=
  ⟨value major, value minor, value patch⟩

/-- A string without a match is invalid. -/
theorem fromString_of_invalid
    (invalid : ¬∃ major minor patch, IsVersionString versionRef.toList major minor patch) :
    Version.fromString versionRef = .ok none := by
  have noMatch : versionRegex versionRef.toList = none := by
    rw [Option.eq_none_iff_forall_ne_some]
    intro found isMatch
    exact invalid ⟨_, _, _, versionRegex_eq_some.mp isMatch⟩
  rw [Version.fromString, extractVersionNumbers, noMatch]
  rfl

/-- The numerals of a match are read one after the other. -/
theorem fromString_of_match (valid : IsVersionString versionRef.toList major minor patch) :
    Version.fromString versionRef =
      if value major < 2 ^ 63 ∧ value minor < 2 ^ 63 ∧ value patch < 2 ^ 63 then
        .ok (some (versionOf major minor patch))
      else .error (.fatalError "failed to parse version number") := by
  rw [Version.fromString, extractVersionNumbers, versionRegex_eq_some.mpr valid]
  simp only [parseNumber_eq valid.isMajor, parseNumber_eq valid.isMinor,
    parseNumber_eq valid.isPatch]
  -- The first numeral that does not fit aborts the run.
  by_cases first : value major < 2 ^ 63
  · rw [if_pos first]
    by_cases second : value minor < 2 ^ 63
    · rw [if_pos second]
      by_cases third : value patch < 2 ^ 63
      · rw [if_pos third, if_pos (And.intro first (And.intro second third))]
        rfl
      · have outside : ¬(value major < 2 ^ 63 ∧ value minor < 2 ^ 63 ∧ value patch < 2 ^ 63) :=
          fun all => third all.2.2
        rw [if_neg third, if_neg outside]
        rfl
    · have outside : ¬(value major < 2 ^ 63 ∧ value minor < 2 ^ 63 ∧ value patch < 2 ^ 63) :=
        fun all => second all.2.1
      rw [if_neg second, if_neg outside]
      rfl
  · have outside : ¬(value major < 2 ^ 63 ∧ value minor < 2 ^ 63 ∧ value patch < 2 ^ 63) :=
      fun all => first all.1
    rw [if_neg first, if_neg outside]
    rfl

/-- A number above what a 64-bit integer holds is the exception. -/
theorem not_overflows : ¬Overflows major minor patch ↔
    value major < 2 ^ 63 ∧ value minor < 2 ^ 63 ∧ value patch < 2 ^ 63 := by
  simp [Overflows]

/-- The version of three numerals is written as they are without their leading zeros. -/
theorem toString_versionOf (isMajor : IsNumeral major) (isMinor : IsNumeral minor)
    (isPatch : IsNumeral patch) :
    (versionOf major minor patch).toString.toList =
      withoutLeadingZeros major ++ '.' :: withoutLeadingZeros minor ++
        '.' :: withoutLeadingZeros patch := by
  rw [Version.toString, String.toList_ofList, versionOf, writeNumber_natCast, writeNumber_natCast,
    writeNumber_natCast, Decimal.toDigits_value isMajor, Decimal.toDigits_value isMinor,
    Decimal.toDigits_value isPatch]

/-- The strings that are invalid are those without a match. -/
theorem fromString_eq_none : Version.fromString versionRef = .ok none ↔
    ¬∃ major minor patch, IsVersionString versionRef.toList major minor patch := by
  refine ⟨?_, fromString_of_invalid⟩
  rintro invalid ⟨major, minor, patch, valid⟩
  rw [fromString_of_match valid] at invalid
  split at invalid <;> cases invalid

/-- The strings that abort the program have a numeral that no 64-bit integer holds. -/
theorem fromString_eq_error :
    Version.fromString versionRef = .error (.fatalError "failed to parse version number") ↔
      ∃ major minor patch, IsVersionString versionRef.toList major minor patch ∧
        Overflows major minor patch := by
  constructor
  · intro aborts
    by_cases isMatch : ∃ major minor patch, IsVersionString versionRef.toList major minor patch
    · obtain ⟨major, minor, patch, valid⟩ := isMatch
      refine ⟨major, minor, patch, valid, ?_⟩
      by_contra fits
      rw [fromString_of_match valid, if_pos (not_overflows.mp fits)] at aborts
      cases aborts
    · rw [fromString_of_invalid isMatch] at aborts
      cases aborts
  · rintro ⟨major, minor, patch, valid, high⟩
    rw [fromString_of_match valid, if_neg fun fits => not_overflows.mpr fits high]

/-- The strings that are read have numerals that 64-bit integers hold. -/
theorem fromString_eq_some {version : Version} :
    Version.fromString versionRef = .ok (some version) ↔
      ∃ major minor patch, IsVersionString versionRef.toList major minor patch ∧
        ¬Overflows major minor patch ∧ version = versionOf major minor patch := by
  constructor
  · intro read
    by_cases isMatch : ∃ major minor patch, IsVersionString versionRef.toList major minor patch
    · obtain ⟨major, minor, patch, valid⟩ := isMatch
      rw [fromString_of_match valid] at read
      split at read
      · next fits =>
        cases read
        exact ⟨major, minor, patch, valid, not_overflows.mpr fits, rfl⟩
      · cases read
    · rw [fromString_of_invalid isMatch] at read
      cases read
  · rintro ⟨major, minor, patch, valid, fits, rfl⟩
    rw [fromString_of_match valid, if_pos (not_overflows.mp fits)]

/-- Strings that are not three numerals are invalid, those with a numeral from `2 ^ 63` on abort the
program, and all other ones are read as a version that is written without leading zeros. -/
theorem Version.fromString_eq (versionRef : String) :
    (Version.fromString versionRef = .ok none ↔
      ¬∃ major minor patch, IsVersionString versionRef.toList major minor patch) ∧
    (Version.fromString versionRef = .error (.fatalError "failed to parse version number") ↔
      ∃ major minor patch, IsVersionString versionRef.toList major minor patch ∧
        Overflows major minor patch) ∧
    ∀ version, Version.fromString versionRef = .ok (some version) ↔
      ∃ major minor patch, IsVersionString versionRef.toList major minor patch ∧
        ¬Overflows major minor patch ∧ version = versionOf major minor patch ∧
        version.toString.toList = withoutLeadingZeros major ++ '.' :: withoutLeadingZeros minor ++
          '.' :: withoutLeadingZeros patch := by
  refine ⟨fromString_eq_none, fromString_eq_error, fun version => fromString_eq_some.trans ?_⟩
  constructor
  · rintro ⟨major, minor, patch, valid, fits, rfl⟩
    exact ⟨major, minor, patch, valid, fits, rfl,
      toString_versionOf valid.isMajor valid.isMinor valid.isPatch⟩
  · rintro ⟨major, minor, patch, valid, fits, same, -⟩
    exact ⟨major, minor, patch, valid, fits, same⟩

/-- The version of three 64-bit integers. -/
def versionOfInts (major minor patch : Int64) : Version :=
  ⟨major.toInt, minor.toInt, patch.toInt⟩

/-- The string of a version has the three numbers between its dots. -/
theorem isVersionString_toString {version : Version} :
    (∃ major minor patch, IsVersionString version.toString.toList major minor patch) ↔
      0 ≤ version.major ∧ 0 ≤ version.minor ∧ 0 ≤ version.patch := by
  have parts : version.toString.toList.splitOn '.' =
      [writeNumber version.major, writeNumber version.minor, writeNumber version.patch] := by
    have split := @List.splitOn_intercalate _ [writeNumber version.major,
      writeNumber version.minor, writeNumber version.patch] _ _ '.' (by
        simp [dot_notMem_writeNumber]) (by simp)
    simpa [Version.toString, List.intercalate, List.intersperse] using split
  constructor
  · rintro ⟨major, minor, patch, valid⟩
    -- What is between the dots are the numerals of the match.
    have found := versionRegex_eq_some.mpr valid
    rw [versionRegex, parts] at found
    dsimp only at found
    split at found
    · next numerals =>
      exact ⟨isNumeral_writeNumber.mp numerals.1, isNumeral_writeNumber.mp numerals.2.1,
        isNumeral_writeNumber.mp numerals.2.2⟩
    · cases found
  · rintro ⟨first, second, third⟩
    refine ⟨_, _, _, isNumeral_writeNumber.mpr first, isNumeral_writeNumber.mpr second,
      isNumeral_writeNumber.mpr third, ?_⟩
    rw [Version.toString, String.toList_ofList]

/-- A version that is written is read again, unless one of its numbers is negative: then what is
written is invalid. -/
theorem Version.fromString_toString (major minor patch : Int64) :
    Version.fromString (versionOfInts major minor patch).toString =
      if 0 ≤ major.toInt ∧ 0 ≤ minor.toInt ∧ 0 ≤ patch.toInt then
        .ok (some (versionOfInts major minor patch))
      else .ok none := by
  split
  · next nonneg =>
    obtain ⟨first, isFirst⟩ := Int.eq_ofNat_of_zero_le nonneg.1
    obtain ⟨second, isSecond⟩ := Int.eq_ofNat_of_zero_le nonneg.2.1
    obtain ⟨third, isThird⟩ := Int.eq_ofNat_of_zero_le nonneg.2.2
    -- No number of 64 bits is written as a numeral that does not fit.
    have firstFits := major.toInt_lt
    have secondFits := minor.toInt_lt
    have thirdFits := patch.toInt_lt
    refine fromString_eq_some.mpr ⟨Nat.toDigits 10 first, Nat.toDigits 10 second,
      Nat.toDigits 10 third, ⟨Decimal.isNumeral_toDigits _, Decimal.isNumeral_toDigits _,
        Decimal.isNumeral_toDigits _, ?_⟩, not_overflows.mpr ?_, ?_⟩
    · rw [Version.toString, String.toList_ofList, versionOfInts, isFirst, isSecond, isThird,
        writeNumber_natCast, writeNumber_natCast, writeNumber_natCast]
    · simp only [Decimal.value_toDigits]
      omega
    · rw [versionOf, Decimal.value_toDigits, Decimal.value_toDigits, Decimal.value_toDigits,
        ← isFirst, ← isSecond, ← isThird, versionOfInts]
  · next negative =>
    -- The sign of a negative number is not a digit.
    exact fromString_eq_none.mpr fun valid => negative (isVersionString_toString.mp valid)

end Versions

end Stablehlo
