import Stablehlo.Support.EnumTable
import Stablehlo.Vhlo.Types

/-! The names and numbers of the enumerations of the VHLO dialect. -/

namespace Stablehlo

instance : EnumTable ComparisonDirectionV1 where
  all := [.eq, .ne, .ge, .gt, .le, .lt]
  name
    | .eq => "EQ"
    | .ne => "NE"
    | .ge => "GE"
    | .gt => "GT"
    | .le => "LE"
    | .lt => "LT"
  number
    | .eq => 0
    | .ne => 1
    | .ge => 2
    | .gt => 3
    | .le => 4
    | .lt => 5
  number_lt value := by cases value <;> decide
  find?_name value := by cases value <;> rfl
  find?_number value := by cases value <;> rfl

instance : EnumTable ComparisonTypeV1 where
  all := [.noType, .float, .totalOrder, .signed, .unsigned]
  name
    | .noType => "NOTYPE"
    | .float => "FLOAT"
    | .totalOrder => "TOTALORDER"
    | .signed => "SIGNED"
    | .unsigned => "UNSIGNED"
  number
    | .noType => 0
    | .float => 1
    | .totalOrder => 2
    | .signed => 3
    | .unsigned => 4
  number_lt value := by cases value <;> decide
  find?_name value := by cases value <;> rfl
  find?_number value := by cases value <;> rfl

instance : EnumTable CustomCallApiVersionV1 where
  all := [.unspecified, .original, .statusReturning, .statusReturningUnified, .typedFfi]
  name
    | .unspecified => "API_VERSION_UNSPECIFIED"
    | .original => "API_VERSION_ORIGINAL"
    | .statusReturning => "API_VERSION_STATUS_RETURNING"
    | .statusReturningUnified => "API_VERSION_STATUS_RETURNING_UNIFIED"
    | .typedFfi => "API_VERSION_TYPED_FFI"
  number
    | .unspecified => 0
    | .original => 1
    | .statusReturning => 2
    | .statusReturningUnified => 3
    | .typedFfi => 4
  number_lt value := by cases value <;> decide
  find?_name value := by cases value <;> rfl
  find?_number value := by cases value <;> rfl

instance : EnumTable FftTypeV1 where
  all := [.fft, .ifft, .rfft, .irfft]
  name
    | .fft => "FFT"
    | .ifft => "IFFT"
    | .rfft => "RFFT"
    | .irfft => "IRFFT"
  number
    | .fft => 0
    | .ifft => 1
    | .rfft => 2
    | .irfft => 3
  number_lt value := by cases value <;> decide
  find?_name value := by cases value <;> rfl
  find?_number value := by cases value <;> rfl

instance : EnumTable PrecisionV1 where
  all := [.default, .high, .highest]
  name
    | .default => "DEFAULT"
    | .high => "HIGH"
    | .highest => "HIGHEST"
  number
    | .default => 0
    | .high => 1
    | .highest => 2
  number_lt value := by cases value <;> decide
  find?_name value := by cases value <;> rfl
  find?_number value := by cases value <;> rfl

instance : EnumTable RngAlgorithmV1 where
  all := [.default, .threeFry, .philox]
  name
    | .default => "DEFAULT"
    | .threeFry => "THREE_FRY"
    | .philox => "PHILOX"
  number
    | .default => 0
    | .threeFry => 1
    | .philox => 2
  number_lt value := by cases value <;> decide
  find?_name value := by cases value <;> rfl
  find?_number value := by cases value <;> rfl

instance : EnumTable RngDistributionV1 where
  all := [.uniform, .normal]
  name
    | .uniform => "UNIFORM"
    | .normal => "NORMAL"
  number
    | .uniform => 1
    | .normal => 2
  number_lt value := by cases value <;> decide
  find?_name value := by cases value <;> rfl
  find?_number value := by cases value <;> rfl

instance : EnumTable TransposeV1 where
  all := [.transposeInvalid, .noTranspose, .transpose, .adjoint]
  name
    | .transposeInvalid => "TRANSPOSE_INVALID"
    | .noTranspose => "NO_TRANSPOSE"
    | .transpose => "TRANSPOSE"
    | .adjoint => "ADJOINT"
  number
    | .transposeInvalid => 0
    | .noTranspose => 1
    | .transpose => 2
    | .adjoint => 3
  number_lt value := by cases value <;> decide
  find?_name value := by cases value <;> rfl
  find?_number value := by cases value <;> rfl

instance : EnumTable ResultAccuracyModeV1 where
  all := [.default, .highest, .tolerance]
  name
    | .default => "DEFAULT"
    | .highest => "HIGHEST"
    | .tolerance => "TOLERANCE"
  number
    | .default => 0
    | .highest => 1
    | .tolerance => 2
  number_lt value := by cases value <;> decide
  find?_name value := by cases value <;> rfl
  find?_number value := by cases value <;> rfl

end Stablehlo
