import Stablehlo.Support.EnumTable

/-! The enumerations of the StableHLO dialect, with their names and numbers. -/

namespace Stablehlo

/-- How `compare` compares. -/
inductive ComparisonDirection where
  | eq
  | ne
  | ge
  | gt
  | le
  | lt
  deriving DecidableEq, Repr

instance : EnumTable ComparisonDirection where
  all := [.eq, .ne, .ge, .gt, .le, .lt]
  name
    | .eq => "EQ"
    | .ne => "NE"
    | .ge => "GE"
    | .gt => "GT"
    | .le => "LE"
    | .lt => "LT"
  number
    | .eq => 0
    | .ne => 1
    | .ge => 2
    | .gt => 3
    | .le => 4
    | .lt => 5
  number_lt value := by cases value <;> decide
  find?_name value := by cases value <;> rfl
  find?_number value := by cases value <;> rfl

/-- What `compare` takes its operands for. -/
inductive ComparisonType where
  | noType
  | float
  | totalOrder
  | signed
  | unsigned
  deriving DecidableEq, Repr

instance : EnumTable ComparisonType where
  all := [.noType, .float, .totalOrder, .signed, .unsigned]
  name
    | .noType => "NOTYPE"
    | .float => "FLOAT"
    | .totalOrder => "TOTALORDER"
    | .signed => "SIGNED"
    | .unsigned => "UNSIGNED"
  number
    | .noType => 0
    | .float => 1
    | .totalOrder => 2
    | .signed => 3
    | .unsigned => 4
  number_lt value := by cases value <;> decide
  find?_name value := by cases value <;> rfl
  find?_number value := by cases value <;> rfl

/-- The API version of a `custom_call`. -/
inductive CustomCallApiVersion where
  | unspecified
  | original
  | statusReturning
  | statusReturningUnified
  | typedFfi
  deriving DecidableEq, Repr

instance : EnumTable CustomCallApiVersion where
  all := [.unspecified, .original, .statusReturning, .statusReturningUnified, .typedFfi]
  name
    | .unspecified => "API_VERSION_UNSPECIFIED"
    | .original => "API_VERSION_ORIGINAL"
    | .statusReturning => "API_VERSION_STATUS_RETURNING"
    | .statusReturningUnified => "API_VERSION_STATUS_RETURNING_UNIFIED"
    | .typedFfi => "API_VERSION_TYPED_FFI"
  number
    | .unspecified => 0
    | .original => 1
    | .statusReturning => 2
    | .statusReturningUnified => 3
    | .typedFfi => 4
  number_lt value := by cases value <;> decide
  find?_name value := by cases value <;> rfl
  find?_number value := by cases value <;> rfl

/-- The kind of a Fourier transform. -/
inductive FftType where
  | fft
  | ifft
  | rfft
  | irfft
  deriving DecidableEq, Repr

instance : EnumTable FftType where
  all := [.fft, .ifft, .rfft, .irfft]
  name
    | .fft => "FFT"
    | .ifft => "IFFT"
    | .rfft => "RFFT"
    | .irfft => "IRFFT"
  number
    | .fft => 0
    | .ifft => 1
    | .rfft => 2
    | .irfft => 3
  number_lt value := by cases value <;> decide
  find?_name value := by cases value <;> rfl
  find?_number value := by cases value <;> rfl

/-- The precision of a computation. -/
inductive Precision where
  | default
  | high
  | highest
  deriving DecidableEq, Repr

instance : EnumTable Precision where
  all := [.default, .high, .highest]
  name
    | .default => "DEFAULT"
    | .high => "HIGH"
    | .highest => "HIGHEST"
  number
    | .default => 0
    | .high => 1
    | .highest => 2
  number_lt value := by cases value <;> decide
  find?_name value := by cases value <;> rfl
  find?_number value := by cases value <;> rfl

/-- The algorithm of `rng_bit_generator`. -/
inductive RngAlgorithm where
  | default
  | threeFry
  | philox
  deriving DecidableEq, Repr

instance : EnumTable RngAlgorithm where
  all := [.default, .threeFry, .philox]
  name
    | .default => "DEFAULT"
    | .threeFry => "THREE_FRY"
    | .philox => "PHILOX"
  number
    | .default => 0
    | .threeFry => 1
    | .philox => 2
  number_lt value := by cases value <;> decide
  find?_name value := by cases value <;> rfl
  find?_number value := by cases value <;> rfl

/-- The distribution of `rng`. -/
inductive RngDistribution where
  | uniform
  | normal
  deriving DecidableEq, Repr

instance : EnumTable RngDistribution where
  all := [.uniform, .normal]
  name
    | .uniform => "UNIFORM"
    | .normal => "NORMAL"
  number
    | .uniform => 1
    | .normal => 2
  number_lt value := by cases value <;> decide
  find?_name value := by cases value <;> rfl
  find?_number value := by cases value <;> rfl

/-- How `triangular_solve` takes its operand. -/
inductive Transpose where
  | transposeInvalid
  | noTranspose
  | transpose
  | adjoint
  deriving DecidableEq, Repr

instance : EnumTable Transpose where
  all := [.transposeInvalid, .noTranspose, .transpose, .adjoint]
  name
    | .transposeInvalid => "TRANSPOSE_INVALID"
    | .noTranspose => "NO_TRANSPOSE"
    | .transpose => "TRANSPOSE"
    | .adjoint => "ADJOINT"
  number
    | .transposeInvalid => 0
    | .noTranspose => 1
    | .transpose => 2
    | .adjoint => 3
  number_lt value := by cases value <;> decide
  find?_name value := by cases value <;> rfl
  find?_number value := by cases value <;> rfl

/-- What a result accuracy asks for. -/
inductive ResultAccuracyMode where
  | default
  | highest
  | tolerance
  deriving DecidableEq, Repr

instance : EnumTable ResultAccuracyMode where
  all := [.default, .highest, .tolerance]
  name
    | .default => "DEFAULT"
    | .highest => "HIGHEST"
    | .tolerance => "TOLERANCE"
  number
    | .default => 0
    | .highest => 1
    | .tolerance => 2
  number_lt value := by cases value <;> decide
  find?_name value := by cases value <;> rfl
  find?_number value := by cases value <;> rfl

end Stablehlo
