import Stablehlo.Vhlo.Types

/-! Operations of the VHLO dialect, and the constraints that some have at old versions. -/

namespace Stablehlo

/-- The operations. -/
inductive VhloOpName where
  | absOpV1
  | addOpV1
  | afterAllOpV1
  | allGatherOpV1
  | allGatherOpV2
  | allReduceOpV1
  | allReduceOpV2
  | allToAllOpV1
  | allToAllOpV2
  | andOpV1
  | asyncStartOpV1
  | asyncDoneOpV1
  | atan2OpV1
  | batchNormGradOpV1
  | batchNormInferenceOpV1
  | batchNormTrainingOpV1
  | bitcastConvertOpV1
  | broadcastInDimOpV1
  | broadcastOpV1
  | callOpV1
  | caseOpV1
  | cbrtOpV1
  | cbrtOpV2
  | ceilOpV1
  | choleskyOpV1
  | clampOpV1
  | clzOpV1
  | collectiveBroadcastOpV1
  | collectiveBroadcastOpV2
  | collectiveReduceOpV1
  | collectivePermuteOpV1
  | compareOpV1
  | complexOpV1
  | compositeOpV1
  | compositeOpV2
  | concatenateOpV1
  | constantOpV1
  | convertOpV1
  | convolutionOpV1
  | cosineOpV1
  | cosineOpV2
  | createTokenOpV1
  | crossReplicaSumOpV1
  | customCallOpV1
  | customCallOpV2
  | divOpV1
  | dotGeneralOpV1
  | dotGeneralOpV2
  | dotOpV1
  | dynamicBroadcastInDimOpV1
  | dynamicConvOpV1
  | dynamicConvOpV2
  | dynamicGatherOpV1
  | dynamicGatherOpV2
  | dynamicIotaOpV1
  | dynamicPadOpV1
  | dynamicReshapeOpV1
  | dynamicSliceOpV1
  | dynamicUpdateSliceOpV1
  | einsumOpV1
  | expm1OpV1
  | expm1OpV2
  | expOpV1
  | expOpV2
  | fftOpV1
  | floorOpV1
  | funcOpV1
  | gatherOpV1
  | gatherOpV2
  | getDimensionSizeOpV1
  | getTupleElementOpV1
  | ifOpV1
  | imagOpV1
  | infeedOpV1
  | iotaOpV1
  | isFiniteOpV1
  | log1pOpV1
  | log1pOpV2
  | logisticOpV1
  | logisticOpV2
  | logOpV1
  | logOpV2
  | mapOpV1
  | maxOpV1
  | minOpV1
  | mulOpV1
  | negOpV1
  | notOpV1
  | optimizationBarrierOpV1
  | orOpV1
  | outfeedOpV1
  | padOpV1
  | partitionIdOpV1
  | populationCountOpV1
  | powOpV1
  | realDynamicSliceOpV1
  | realOpV1
  | recvOpV1
  | recvOpV2
  | reduceOpV1
  | reducePrecisionOpV1
  | reduceScatterOpV1
  | reduceWindowOpV1
  | remOpV1
  | replicaIdOpV1
  | reshapeOpV1
  | returnOpV1
  | reverseOpV1
  | rngBitGeneratorOpV1
  | rngOpV1
  | roundNearestEvenOpV1
  | roundOpV1
  | rsqrtOpV1
  | rsqrtOpV2
  | scatterOpV1
  | scatterOpV2
  | selectAndScatterOpV1
  | selectOpV1
  | sendOpV1
  | sendOpV2
  | setDimensionSizeOpV1
  | shiftLeftOpV1
  | shiftRightArithmeticOpV1
  | shiftRightLogicalOpV1
  | signOpV1
  | sineOpV1
  | sineOpV2
  | sliceOpV1
  | sortOpV1
  | sqrtOpV1
  | sqrtOpV2
  | subtractOpV1
  | tanOpV1
  | tanOpV2
  | tanhOpV1
  | tanhOpV2
  | torchIndexSelectOpV1
  | transposeOpV1
  | triangularSolveOpV1
  | tupleOpV1
  | unaryEinsumOpV1
  | uniformDequantizeOpV1
  | uniformQuantizeOpV1
  | whileOpV1
  | xorOpV1
  deriving DecidableEq, Repr

/-- The versions that have an operation. -/
def VhloOpName.versions : VhloOpName → VersionRange
  | .allGatherOpV1 | .allReduceOpV1 | .allToAllOpV1 => ⟨⟨0, 9, 0⟩, ⟨1, 4, 0⟩⟩
  | .allGatherOpV2 | .allReduceOpV2 | .allToAllOpV2 => .since ⟨1, 5, 0⟩
  | .asyncStartOpV1 | .asyncDoneOpV1 => .since ⟨1, 15, 0⟩
  | .cbrtOpV1 | .cosineOpV1 | .expm1OpV1 | .log1pOpV1 | .logisticOpV1 | .logOpV1 | .rsqrtOpV1
  | .sineOpV1 | .sqrtOpV1 | .tanhOpV1 => ⟨⟨0, 9, 0⟩, ⟨1, 9, 0⟩⟩
  | .cbrtOpV2 | .cosineOpV2 | .expm1OpV2 | .log1pOpV2 | .logisticOpV2 | .logOpV2 | .rsqrtOpV2
  | .sineOpV2 | .sqrtOpV2 | .tanOpV2 | .tanhOpV2 => .since ⟨1, 10, 0⟩
  | .collectiveBroadcastOpV1 => ⟨⟨0, 16, 0⟩, ⟨1, 19, 0⟩⟩
  | .collectiveBroadcastOpV2 => .since ⟨1, 20, 0⟩
  | .collectiveReduceOpV1 => .since ⟨1, 19, 0⟩
  | .compositeOpV1 => ⟨⟨0, 19, 0⟩, ⟨1, 13, 0⟩⟩
  | .compositeOpV2 => .since ⟨1, 14, 0⟩
  | .customCallOpV1 => ⟨⟨0, 9, 0⟩, ⟨1, 17, 0⟩⟩
  | .customCallOpV2 => .since ⟨1, 18, 0⟩
  | .dotGeneralOpV1 => ⟨⟨0, 9, 0⟩, ⟨1, 5, 0⟩⟩
  | .dotGeneralOpV2 => .since ⟨1, 6, 0⟩
  | .dynamicConvOpV1 => ⟨⟨0, 9, 0⟩, ⟨0, 19, 0⟩⟩
  | .dynamicConvOpV2 => .since ⟨0, 20, 0⟩
  | .dynamicGatherOpV1 | .gatherOpV1 | .scatterOpV1 => ⟨⟨0, 9, 0⟩, ⟨1, 0, 0⟩⟩
  | .dynamicGatherOpV2 | .gatherOpV2 | .scatterOpV2 => .since ⟨1, 1, 0⟩
  | .expOpV1 => ⟨⟨0, 9, 0⟩, ⟨1, 8, 0⟩⟩
  | .expOpV2 => .since ⟨1, 9, 0⟩
  | .recvOpV1 | .sendOpV1 => ⟨⟨0, 9, 0⟩, ⟨1, 11, 0⟩⟩
  | .recvOpV2 | .sendOpV2 => .since ⟨1, 12, 0⟩
  | .tanOpV1 => ⟨⟨1, 4, 0⟩, ⟨1, 9, 0⟩⟩
  | .absOpV1 | .addOpV1 | .afterAllOpV1 | .andOpV1 | .atan2OpV1 | .batchNormGradOpV1
  | .batchNormInferenceOpV1 | .batchNormTrainingOpV1 | .bitcastConvertOpV1
  | .broadcastInDimOpV1 | .broadcastOpV1 | .callOpV1 | .caseOpV1 | .ceilOpV1 | .choleskyOpV1
  | .clampOpV1 | .clzOpV1 | .collectivePermuteOpV1 | .compareOpV1 | .complexOpV1
  | .concatenateOpV1 | .constantOpV1 | .convertOpV1 | .convolutionOpV1 | .createTokenOpV1
  | .crossReplicaSumOpV1 | .divOpV1 | .dotOpV1 | .dynamicBroadcastInDimOpV1 | .dynamicIotaOpV1
  | .dynamicPadOpV1 | .dynamicReshapeOpV1 | .dynamicSliceOpV1 | .dynamicUpdateSliceOpV1
  | .einsumOpV1 | .fftOpV1 | .floorOpV1 | .funcOpV1 | .getDimensionSizeOpV1
  | .getTupleElementOpV1 | .ifOpV1 | .imagOpV1 | .infeedOpV1 | .iotaOpV1 | .isFiniteOpV1
  | .mapOpV1 | .maxOpV1 | .minOpV1 | .mulOpV1 | .negOpV1 | .notOpV1 | .optimizationBarrierOpV1
  | .orOpV1 | .outfeedOpV1 | .padOpV1 | .partitionIdOpV1 | .populationCountOpV1 | .powOpV1
  | .realDynamicSliceOpV1 | .realOpV1 | .reduceOpV1 | .reducePrecisionOpV1
  | .reduceScatterOpV1 | .reduceWindowOpV1 | .remOpV1 | .replicaIdOpV1 | .reshapeOpV1
  | .returnOpV1 | .reverseOpV1 | .rngBitGeneratorOpV1 | .rngOpV1 | .roundNearestEvenOpV1
  | .roundOpV1 | .selectAndScatterOpV1 | .selectOpV1 | .setDimensionSizeOpV1 | .shiftLeftOpV1
  | .shiftRightArithmeticOpV1 | .shiftRightLogicalOpV1 | .signOpV1 | .sliceOpV1 | .sortOpV1
  | .subtractOpV1 | .torchIndexSelectOpV1 | .transposeOpV1 | .triangularSolveOpV1 | .tupleOpV1
  | .unaryEinsumOpV1 | .uniformDequantizeOpV1 | .uniformQuantizeOpV1 | .whileOpV1
  | .xorOpV1 => .since ⟨0, 9, 0⟩

/-- How many operands, regions or results an operation has. -/
inductive Arity where
  /-- That many. -/
  | exactly (count : Nat)
  /-- That many and a list of any length. -/
  | atLeast (count : Nat)
  /-- That many and two lists of the same length. -/
  | paired (count : Nat)
  deriving DecidableEq, Repr

/-- Whether a number is one of those. -/
def Arity.accepts : Arity → Nat → Bool
  | .exactly count, actual => actual == count
  | .atLeast count, actual => count ≤ actual
  | .paired count, actual => count ≤ actual && (actual - count) % 2 == 0

/-- What the definition of an operation says about its parts. -/
structure OpDefinition where
  /-- The number of operands. -/
  operands : Arity
  /-- The names of the inherent attributes, in order. -/
  attributes : List String
  /-- The number of regions. -/
  regions : Arity
  /-- The number of results. -/
  results : Arity

/-- The definition of an operation. -/
def VhloOpName.definition : VhloOpName → OpDefinition
  | .absOpV1 | .asyncDoneOpV1 | .bitcastConvertOpV1 | .cbrtOpV1 | .ceilOpV1 | .clzOpV1
  | .convertOpV1 | .cosineOpV1 | .expm1OpV1 | .expOpV1 | .floorOpV1 | .imagOpV1 | .isFiniteOpV1
  | .log1pOpV1 | .logisticOpV1 | .logOpV1 | .negOpV1 | .notOpV1 | .populationCountOpV1
  | .realOpV1 | .reshapeOpV1 | .roundNearestEvenOpV1 | .roundOpV1 | .rsqrtOpV1 | .signOpV1
  | .sineOpV1 | .sqrtOpV1 | .tanOpV1 | .tanhOpV1 | .uniformDequantizeOpV1 | .uniformQuantizeOpV1 =>
    ⟨.exactly 1, [], .exactly 0, .exactly 1⟩
  | .addOpV1 | .andOpV1 | .atan2OpV1 | .complexOpV1 | .divOpV1 | .dynamicReshapeOpV1 | .maxOpV1
  | .minOpV1 | .mulOpV1 | .orOpV1 | .powOpV1 | .remOpV1 | .shiftLeftOpV1
  | .shiftRightArithmeticOpV1 | .shiftRightLogicalOpV1 | .subtractOpV1 | .xorOpV1 =>
    ⟨.exactly 2, [], .exactly 0, .exactly 1⟩
  | .afterAllOpV1 | .tupleOpV1 =>
    ⟨.atLeast 0, [], .exactly 0, .exactly 1⟩
  | .allGatherOpV1 =>
    ⟨.exactly 1, ["all_gather_dim", "replica_groups", "channel_id", "use_global_device_ids"],
      .exactly 0, .exactly 1⟩
  | .allGatherOpV2 =>
    ⟨.atLeast 0, ["all_gather_dim", "replica_groups", "channel_id", "use_global_device_ids"],
      .exactly 0, .atLeast 0⟩
  | .allReduceOpV1 =>
    ⟨.exactly 1, ["replica_groups", "channel_id", "use_global_device_ids"], .exactly 1, .exactly 1⟩
  | .allReduceOpV2 =>
    ⟨.atLeast 0, ["replica_groups", "channel_id", "use_global_device_ids"], .exactly 1, .atLeast 0⟩
  | .allToAllOpV1 =>
    ⟨.exactly 1, ["split_dimension", "concat_dimension", "split_count", "replica_groups",
      "channel_id"], .exactly 0, .exactly 1⟩
  | .allToAllOpV2 =>
    ⟨.atLeast 0, ["split_dimension", "concat_dimension", "split_count", "replica_groups",
      "channel_id"], .exactly 0, .atLeast 0⟩
  | .asyncStartOpV1 =>
    ⟨.atLeast 0, [], .exactly 1, .exactly 1⟩
  | .batchNormGradOpV1 =>
    ⟨.exactly 5, ["epsilon", "feature_index"], .exactly 0, .exactly 3⟩
  | .batchNormInferenceOpV1 =>
    ⟨.exactly 5, ["epsilon", "feature_index"], .exactly 0, .exactly 1⟩
  | .batchNormTrainingOpV1 =>
    ⟨.exactly 3, ["epsilon", "feature_index"], .exactly 0, .exactly 3⟩
  | .broadcastInDimOpV1 =>
    ⟨.exactly 1, ["broadcast_dimensions"], .exactly 0, .exactly 1⟩
  | .broadcastOpV1 =>
    ⟨.exactly 1, ["broadcast_sizes"], .exactly 0, .exactly 1⟩
  | .callOpV1 =>
    ⟨.atLeast 0, ["callee"], .exactly 0, .atLeast 0⟩
  | .caseOpV1 =>
    ⟨.exactly 1, [], .atLeast 0, .atLeast 0⟩
  | .cbrtOpV2 | .cosineOpV2 | .expm1OpV2 | .expOpV2 | .log1pOpV2 | .logisticOpV2 | .logOpV2
  | .rsqrtOpV2 | .sineOpV2 | .sqrtOpV2 | .tanOpV2 | .tanhOpV2 =>
    ⟨.exactly 1, ["result_accuracy"], .exactly 0, .exactly 1⟩
  | .choleskyOpV1 =>
    ⟨.exactly 1, ["lower"], .exactly 0, .exactly 1⟩
  | .clampOpV1 | .selectOpV1 =>
    ⟨.exactly 3, [], .exactly 0, .exactly 1⟩
  | .collectiveBroadcastOpV1 =>
    ⟨.exactly 1, ["replica_groups", "channel_id"], .exactly 0, .exactly 1⟩
  | .collectiveBroadcastOpV2 =>
    ⟨.atLeast 0, ["replica_groups", "channel_id", "has_dynamic_root"], .exactly 0, .atLeast 0⟩
  | .collectiveReduceOpV1 =>
    ⟨.atLeast 0, ["replica_groups", "channel_id", "use_global_device_ids", "has_dynamic_root"],
      .exactly 1, .atLeast 0⟩
  | .collectivePermuteOpV1 =>
    ⟨.exactly 1, ["source_target_pairs", "channel_id"], .exactly 0, .exactly 1⟩
  | .compareOpV1 =>
    ⟨.exactly 2, ["comparison_direction", "compare_type"], .exactly 0, .exactly 1⟩
  | .compositeOpV1 =>
    ⟨.atLeast 0, ["name", "composite_attributes", "decomposition", "version"],
      .exactly 0, .atLeast 0⟩
  | .compositeOpV2 =>
    ⟨.atLeast 0, ["name", "composite_attributes", "decomposition", "version"],
      .atLeast 0, .atLeast 0⟩
  | .concatenateOpV1 =>
    ⟨.atLeast 0, ["dimension"], .exactly 0, .exactly 1⟩
  | .constantOpV1 =>
    ⟨.exactly 0, ["value"], .exactly 0, .exactly 1⟩
  | .convolutionOpV1 =>
    ⟨.exactly 2, ["window_strides", "padding", "lhs_dilation", "rhs_dilation", "window_reversal",
      "input_batch_dimension", "input_feature_dimension", "input_spatial_dimensions",
      "kernel_input_feature_dimension", "kernel_output_feature_dimension",
      "kernel_spatial_dimensions", "output_batch_dimension", "output_feature_dimension",
      "output_spatial_dimensions", "feature_group_count", "batch_group_count", "precision_config"],
      .exactly 0, .exactly 1⟩
  | .createTokenOpV1 | .partitionIdOpV1 | .replicaIdOpV1 =>
    ⟨.exactly 0, [], .exactly 0, .exactly 1⟩
  | .crossReplicaSumOpV1 =>
    ⟨.exactly 1, ["replica_groups"], .exactly 0, .exactly 1⟩
  | .customCallOpV1 =>
    ⟨.atLeast 0, ["call_target_name", "has_side_effect", "backend_config", "api_version",
      "called_computations", "operand_layouts", "result_layouts", "output_operand_aliases"],
      .exactly 0, .atLeast 0⟩
  | .customCallOpV2 =>
    ⟨.atLeast 0, ["call_target_name", "has_side_effect", "backend_config", "api_version",
      "called_computations", "operand_layouts", "result_layouts", "output_operand_aliases",
      "result_tilings"], .exactly 0, .atLeast 0⟩
  | .dotGeneralOpV1 =>
    ⟨.exactly 2, ["lhs_batching_dimensions", "rhs_batching_dimensions",
      "lhs_contracting_dimensions", "rhs_contracting_dimensions", "precision_config"],
      .exactly 0, .exactly 1⟩
  | .dotGeneralOpV2 =>
    ⟨.exactly 2, ["lhs_batching_dimensions", "rhs_batching_dimensions",
      "lhs_contracting_dimensions", "rhs_contracting_dimensions", "precision_config",
      "lhs_precision_type", "rhs_precision_type", "accumulation_type", "lhs_component_count",
      "rhs_component_count", "num_primitive_operations", "allow_imprecise_accumulation"],
      .exactly 0, .exactly 1⟩
  | .dotOpV1 =>
    ⟨.exactly 2, ["precision_config"], .exactly 0, .exactly 1⟩
  | .dynamicBroadcastInDimOpV1 =>
    ⟨.exactly 2, ["broadcast_dimensions", "known_expanding_dimensions",
      "known_nonexpanding_dimensions"], .exactly 0, .exactly 1⟩
  | .dynamicConvOpV1 =>
    ⟨.exactly 3, ["window_strides", "padding", "lhs_dilation", "rhs_dilation", "window_reversal",
      "input_batch_dimension", "input_feature_dimension", "input_spatial_dimensions",
      "kernel_input_feature_dimension", "kernel_output_feature_dimension",
      "kernel_spatial_dimensions", "output_batch_dimension", "output_feature_dimension",
      "output_spatial_dimensions", "feature_group_count", "batch_group_count", "precision_config"],
      .exactly 0, .exactly 1⟩
  | .dynamicConvOpV2 =>
    ⟨.exactly 3, ["window_strides", "lhs_dilation", "rhs_dilation", "window_reversal",
      "input_batch_dimension", "input_feature_dimension", "input_spatial_dimensions",
      "kernel_input_feature_dimension", "kernel_output_feature_dimension",
      "kernel_spatial_dimensions", "output_batch_dimension", "output_feature_dimension",
      "output_spatial_dimensions", "feature_group_count", "batch_group_count", "precision_config"],
      .exactly 0, .exactly 1⟩
  | .dynamicGatherOpV1 =>
    ⟨.exactly 3, ["offset_dims", "collapsed_slice_dims", "start_index_map", "index_vector_dim",
      "indices_are_sorted"], .exactly 0, .exactly 1⟩
  | .dynamicGatherOpV2 =>
    ⟨.exactly 3, ["offset_dims", "collapsed_slice_dims", "operand_batching_dims",
      "start_indices_batching_dims", "start_index_map", "index_vector_dim", "indices_are_sorted"],
      .exactly 0, .exactly 1⟩
  | .dynamicIotaOpV1 =>
    ⟨.exactly 1, ["iota_dimension"], .exactly 0, .exactly 1⟩
  | .dynamicPadOpV1 =>
    ⟨.exactly 5, [], .exactly 0, .exactly 1⟩
  | .dynamicSliceOpV1 =>
    ⟨.atLeast 1, ["slice_sizes"], .exactly 0, .exactly 1⟩
  | .dynamicUpdateSliceOpV1 =>
    ⟨.atLeast 2, [], .exactly 0, .exactly 1⟩
  | .einsumOpV1 =>
    ⟨.exactly 2, ["einsum_config"], .exactly 0, .exactly 1⟩
  | .fftOpV1 =>
    ⟨.exactly 1, ["fft_type", "fft_length"], .exactly 0, .exactly 1⟩
  | .funcOpV1 =>
    ⟨.exactly 0, ["sym_name", "function_type", "sym_visibility", "arg_attrs", "res_attrs"],
      .exactly 1, .exactly 0⟩
  | .gatherOpV1 =>
    ⟨.exactly 2, ["offset_dims", "collapsed_slice_dims", "start_index_map", "index_vector_dim",
      "slice_sizes", "indices_are_sorted"], .exactly 0, .exactly 1⟩
  | .gatherOpV2 =>
    ⟨.exactly 2, ["offset_dims", "collapsed_slice_dims", "operand_batching_dims",
      "start_indices_batching_dims", "start_index_map", "index_vector_dim", "slice_sizes",
      "indices_are_sorted"], .exactly 0, .exactly 1⟩
  | .getDimensionSizeOpV1 =>
    ⟨.exactly 1, ["dimension"], .exactly 0, .exactly 1⟩
  | .getTupleElementOpV1 =>
    ⟨.exactly 1, ["index"], .exactly 0, .exactly 1⟩
  | .ifOpV1 =>
    ⟨.exactly 1, [], .exactly 2, .atLeast 0⟩
  | .infeedOpV1 =>
    ⟨.exactly 1, ["infeed_config", "layout"], .exactly 0, .atLeast 0⟩
  | .iotaOpV1 =>
    ⟨.exactly 0, ["iota_dimension"], .exactly 0, .exactly 1⟩
  | .mapOpV1 =>
    ⟨.atLeast 0, ["dimensions"], .exactly 1, .exactly 1⟩
  | .optimizationBarrierOpV1 =>
    ⟨.atLeast 0, [], .exactly 0, .atLeast 0⟩
  | .outfeedOpV1 =>
    ⟨.atLeast 1, ["outfeed_config"], .exactly 0, .exactly 1⟩
  | .padOpV1 =>
    ⟨.exactly 2, ["edge_padding_low", "edge_padding_high", "interior_padding"],
      .exactly 0, .exactly 1⟩
  | .realDynamicSliceOpV1 =>
    ⟨.exactly 4, [], .exactly 0, .exactly 1⟩
  | .recvOpV1 =>
    ⟨.exactly 1, ["channel_id", "channel_type", "is_host_transfer"], .exactly 0, .atLeast 0⟩
  | .recvOpV2 =>
    ⟨.exactly 1, ["channel_id", "channel_type", "is_host_transfer", "source_target_pairs"],
      .exactly 0, .atLeast 0⟩
  | .reduceOpV1 =>
    ⟨.paired 0, ["dimensions"], .exactly 1, .atLeast 0⟩
  | .reducePrecisionOpV1 =>
    ⟨.exactly 1, ["exponent_bits", "mantissa_bits"], .exactly 0, .exactly 1⟩
  | .reduceScatterOpV1 =>
    ⟨.exactly 1, ["scatter_dimension", "replica_groups", "channel_id", "use_global_device_ids"],
      .exactly 1, .exactly 1⟩
  | .reduceWindowOpV1 =>
    ⟨.paired 0, ["window_dimensions", "window_strides", "base_dilations", "window_dilations",
      "padding"], .exactly 1, .atLeast 0⟩
  | .returnOpV1 =>
    ⟨.atLeast 0, [], .exactly 0, .exactly 0⟩
  | .reverseOpV1 =>
    ⟨.exactly 1, ["dimensions"], .exactly 0, .exactly 1⟩
  | .rngBitGeneratorOpV1 =>
    ⟨.exactly 1, ["rng_algorithm"], .exactly 0, .exactly 2⟩
  | .rngOpV1 =>
    ⟨.exactly 3, ["rng_distribution"], .exactly 0, .exactly 1⟩
  | .scatterOpV1 =>
    ⟨.paired 1, ["update_window_dims", "inserted_window_dims", "scatter_dims_to_operand_dims",
      "index_vector_dim", "indices_are_sorted", "unique_indices"], .exactly 1, .atLeast 0⟩
  | .scatterOpV2 =>
    ⟨.paired 1, ["update_window_dims", "inserted_window_dims", "input_batching_dims",
      "scatter_indices_batching_dims", "scatter_dims_to_operand_dims", "index_vector_dim",
      "indices_are_sorted", "unique_indices"], .exactly 1, .atLeast 0⟩
  | .selectAndScatterOpV1 =>
    ⟨.exactly 3, ["window_dimensions", "window_strides", "padding"], .exactly 2, .exactly 1⟩
  | .sendOpV1 =>
    ⟨.atLeast 1, ["channel_id", "channel_type", "is_host_transfer"], .exactly 0, .exactly 1⟩
  | .sendOpV2 =>
    ⟨.atLeast 1, ["channel_id", "channel_type", "is_host_transfer", "source_target_pairs"],
      .exactly 0, .exactly 1⟩
  | .setDimensionSizeOpV1 =>
    ⟨.exactly 2, ["dimension"], .exactly 0, .exactly 1⟩
  | .sliceOpV1 =>
    ⟨.exactly 1, ["start_indices", "limit_indices", "strides"], .exactly 0, .exactly 1⟩
  | .sortOpV1 =>
    ⟨.atLeast 0, ["dimension", "is_stable"], .exactly 1, .atLeast 0⟩
  | .torchIndexSelectOpV1 =>
    ⟨.exactly 2, ["dim", "batch_dims"], .exactly 0, .exactly 1⟩
  | .transposeOpV1 =>
    ⟨.exactly 1, ["permutation"], .exactly 0, .exactly 1⟩
  | .triangularSolveOpV1 =>
    ⟨.exactly 2, ["left_side", "lower", "unit_diagonal", "transpose_a"], .exactly 0, .exactly 1⟩
  | .unaryEinsumOpV1 =>
    ⟨.exactly 1, ["einsum_config"], .exactly 0, .exactly 1⟩
  | .whileOpV1 =>
    ⟨.atLeast 0, [], .exactly 2, .atLeast 0⟩

/-- A value, which is an operand or a result. -/
structure Value where
  /-- The value itself. -/
  id : Nat
  /-- The type of the value. -/
  type : VhloType
  deriving DecidableEq

/-- An operation without its regions. -/
structure OperationState where
  /-- The name. -/
  name : VhloOpName
  /-- The operands. -/
  operands : List Value
  /-- The inherent attributes, in the order of the definition. -/
  attributes : List (String × VhloAttr)
  /-- The other attributes. -/
  discardableAttributes : List (String × VhloAttr)
  /-- The results. -/
  results : List Value
  deriving DecidableEq

namespace OperationState

/-- An inherent attribute. -/
def getAttr (op : OperationState) (name : String) : Option VhloAttr :=
  op.attributes.lookup name

/-- The operation has the parts that its definition says. -/
def verify (op : OperationState) (numRegions : Nat) : Bool :=
  op.name.definition.operands.accepts op.operands.length &&
    op.attributes.map Prod.fst == op.name.definition.attributes &&
    op.name.definition.regions.accepts numRegions &&
    op.name.definition.results.accepts op.results.length

end OperationState

/-- The element type of a tensor type; the cast aborts on any other type. -/
def getVhloElementType : VhloType → Option VhloType
  | .rankedTensorV1 _ elementType _ | .unrankedTensorV1 elementType => some elementType
  | _ => none

/-- Whether operands and results have the same element types, up to the shorter list. -/
def checkIfOperandAndResultElementTypesMatch (operandTypes resultTypes : List VhloType) :
    Option Bool := do
  let inputElementTypes ← operandTypes.mapM getVhloElementType
  let resultElementTypes ← resultTypes.mapM getVhloElementType
  return (inputElementTypes.zip resultElementTypes).all fun pair => pair.1 == pair.2

/-- Mismatched operand and result types in reductions are new in 0.17.0. -/
def verifyConstraint_0_17_0 (op : OperationState) (targetVersion : Version) : Option Bool := do
  -- The types are compared, and with that cast, whatever the version is.
  let matched ← checkIfOperandAndResultElementTypesMatch (op.operands.map Value.type)
    (op.results.map Value.type)
  return matched || !decide (targetVersion < ⟨0, 17, 0⟩)

/-- Dictionaries as backend configurations and typed foreign calls are new in 1.3.0. -/
def verifyConstraint_1_3_0 (op : OperationState) (targetVersion : Version) : Option Bool := do
  if targetVersion < ⟨1, 3, 0⟩ then
    let backendConfig ← op.getAttr "backend_config"
    if backendConfig matches .dictionaryV1 _ then return false
    let .enumV1 (.customCallApiVersionV1 apiVersion) ← op.getAttr "api_version" | none
    return apiVersion != .typedFfi
  return true

/-- Operands that are futures are new in 1.17.0. -/
def verifyConstraint_1_17_0 (op : OperationState) (targetVersion : Version) : Bool :=
  !decide (targetVersion < ⟨1, 17, 0⟩) ||
    op.operands.all fun operand => !(operand.type matches .futureV1 _)

/-- The eight-bit floating point types. -/
def isVhloFp8Type : VhloType → Bool
  | .scalar .floatF8E3M4V1 | .scalar .floatF8E4M3V1 | .scalar .floatF8E4M3FNV1
  | .scalar .floatF8E5M2V1 | .scalar .floatF8E4M3FNUZV1 | .scalar .floatF8E4M3B11FNUZV1
  | .scalar .floatF8E5M2FNUZV1 | .scalar .floatF8E8M0FNUV1 => true
  | _ => false

/-- Two operands of different eight-bit floating point types are new in 1.20.0. -/
def verifyConstraint_1_20_0 (op : OperationState) (targetVersion : Version) : Option Bool := do
  if targetVersion < ⟨1, 20, 0⟩ then
    let lhs :: rhs :: _ := op.operands | return false
    let lhsElementType ← getVhloElementType lhs.type
    let rhsElementType ← getVhloElementType rhs.type
    return !(lhsElementType != rhsElementType && isVhloFp8Type lhsElementType &&
      isVhloFp8Type rhsElementType)
  return true

/-- One of the eight-bit floating point types is new as a precision type in 1.21.0. -/
def verifyConstraint_1_21_0 (op : OperationState) (targetVersion : Version) : Option Bool := do
  if targetVersion < ⟨1, 21, 0⟩ then
    let lhsType ← op.getAttr "lhs_precision_type"
    let rhsType ← op.getAttr "rhs_precision_type"
    return !(lhsType matches .typeV1 (.scalar .floatF8E4M3FNV1)) &&
      !(rhsType matches .typeV1 (.scalar .floatF8E4M3FNV1))
  return true

/-- The versioned constraint of an operation; there is no answer where a cast aborts. -/
def validateConstraint (op : OperationState) (targetVersion : Version) : Option Bool :=
  match op.name with
  | .allReduceOpV1 | .reduceOpV1 | .reduceScatterOpV1 | .reduceWindowOpV1 | .scatterOpV1
  | .selectAndScatterOpV1 => verifyConstraint_0_17_0 op targetVersion
  | .convolutionOpV1 | .dynamicConvOpV2 => verifyConstraint_1_20_0 op targetVersion
  | .customCallOpV1 =>
    if verifyConstraint_1_17_0 op targetVersion then verifyConstraint_1_3_0 op targetVersion
    else some false
  | .dotGeneralOpV2 => verifyConstraint_1_21_0 op targetVersion
  | _ => some true

end Stablehlo
