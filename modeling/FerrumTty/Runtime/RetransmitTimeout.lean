import FerrumTty.Library.TruncatingAverage
import FerrumTty.Runtime.SessionRuntime

/-!
# The retransmission estimator

The smoothed round trip and its variation are truncating averages, of weights eight and four. Both
stay between the bounds of the samples, so none of the saturating operations saturates. Under
one sample that is repeated first the smoothed round trip comes to rest and then the variation,
and the timeout is then close to the sample.
-/

namespace FerrumTty.Runtime

set_option autoImplicit false

open Crypto State Session TruncatingAverage

theorem saturating_add_exact {left right : Nat} (room : left + right ≤ U64_MAXIMUM) :
    saturatingAdd left right = left + right :=
  Nat.min_eq_left room

theorem saturating_mul_exact {left right : Nat} (room : left * right ≤ U64_MAXIMUM) :
    saturatingMul left right = left * right :=
  Nat.min_eq_left room

namespace SessionRuntime

variable {terminal : Terminal} {runtime : SessionRuntime terminal} {smoothed variation sample : Nat}

def updateAll (runtime : SessionRuntime terminal) (samples : List Nat) : SessionRuntime terminal :=
  samples.foldl updateRetransmitTimeout runtime

/-- No saturating operation of the next update reaches its bound. -/
structure Unsaturated (runtime : SessionRuntime terminal) (sample : Nat) : Prop where
  smoothing : ∀ smoothed, runtime.smoothedRoundTripMilliseconds = some smoothed →
    smoothed * 7 + sample < U64_MAXIMUM
  variation : ∀ smoothed, runtime.smoothedRoundTripMilliseconds = some smoothed →
    runtime.roundTripVariationMilliseconds * 3 + ((smoothed - sample) + (sample - smoothed)) <
      U64_MAXIMUM
  timeout : ∀ smoothed,
    (runtime.updateRetransmitTimeout sample).smoothedRoundTripMilliseconds = some smoothed →
      smoothed + (runtime.updateRetransmitTimeout sample).roundTripVariationMilliseconds * 4 <
        U64_MAXIMUM

/-- The two averages, and the timeout that they give. -/
structure Estimates (runtime : SessionRuntime terminal) (smoothed variation : Nat) : Prop where
  known : runtime.smoothedRoundTripMilliseconds = some smoothed
  varies : runtime.roundTripVariationMilliseconds = variation
  timeout : runtime.retransmitMilliseconds =
    clamp (smoothed + variation * 4) MINIMUM_RETRANSMIT_MILLISECONDS MAXIMUM_RETRANSMIT_MILLISECONDS

/-- The estimates lie between the bounds of the samples; the variation has no lower one. -/
structure Between (low high smoothed variation : Nat) : Prop where
  least : low ≤ smoothed
  most : smoothed ≤ high
  varies : variation ≤ high

theorem timeout_exact (smoothedBound : smoothed ≤ 30000) (variationBound : variation ≤ 30000) :
    saturatingAdd smoothed (saturatingMul variation 4) = smoothed + variation * 4 := by
  have maximum : 30000 + 30000 * 4 ≤ U64_MAXIMUM := by decide
  rw [saturating_mul_exact (by omega), saturating_add_exact (by omega)]

theorem filter_exact {inertia value : Nat} (weight : inertia ≤ 7) (valueBound : value ≤ 30000)
    (bounded : sample ≤ 30000) :
    saturatingAdd (saturatingMul value inertia) sample / (inertia + 1) =
      average inertia value sample := by
  have maximum : 30000 * 7 + 30000 ≤ U64_MAXIMUM := by decide
  have product : value * inertia ≤ 30000 * 7 := Nat.mul_le_mul valueBound weight
  rw [saturating_mul_exact (by omega), saturating_add_exact (by omega)]
  rfl

theorem update_first (unknown : runtime.smoothedRoundTripMilliseconds = none)
    (bounded : sample ≤ 30000) :
    Estimates (runtime.updateRetransmitTimeout sample) sample (sample / 2) := by
  unfold updateRetransmitTimeout
  rw [unknown]
  refine ⟨rfl, rfl, ?_⟩
  dsimp only
  rw [timeout_exact bounded (Nat.le_trans (Nat.div_le_self sample 2) bounded)]

theorem update_next (estimates : Estimates runtime smoothed variation)
    (smoothedBound : smoothed ≤ 30000) (variationBound : variation ≤ 30000)
    (bounded : sample ≤ 30000) :
    Estimates (runtime.updateRetransmitTimeout sample) (average 7 smoothed sample)
      (average 3 variation ((smoothed - sample) + (sample - smoothed))) := by
  have near : (smoothed - sample) + (sample - smoothed) ≤ 30000 := by omega
  have smoothing := filter_exact (show 7 ≤ 7 by decide) smoothedBound bounded
  have varying := filter_exact (show 3 ≤ 7 by decide) variationBound near
  unfold updateRetransmitTimeout
  rw [estimates.known]
  dsimp only
  rw [estimates.varies, smoothing, varying,
    timeout_exact (average_le smoothedBound bounded) (average_le variationBound near)]
  exact ⟨rfl, rfl, rfl⟩

theorem update_all_append (runtime : SessionRuntime terminal) (first second : List Nat) :
    runtime.updateAll (first ++ second) = (runtime.updateAll first).updateAll second :=
  List.foldl_append

theorem update_between {low high : Nat} (estimates : Estimates runtime smoothed variation)
    (between : Between low high smoothed variation) (small : high ≤ 30000) (least : low ≤ sample)
    (most : sample ≤ high) :
    ∃ nextSmoothed nextVariation,
      Estimates (runtime.updateRetransmitTimeout sample) nextSmoothed nextVariation ∧
        Between low high nextSmoothed nextVariation := by
  have apart : (smoothed - sample) + (sample - smoothed) ≤ high := by
    have below := between.most
    omega
  refine ⟨_, _, update_next estimates (between.most.trans small) (between.varies.trans small)
    (most.trans small), ?_⟩
  exact ⟨le_average between.least least, average_le between.most most,
    average_le between.varies apart⟩

/-- After some samples the estimates are known and lie between the bounds of the samples. -/
theorem samples_between {low high : Nat} (unknown : runtime.smoothedRoundTripMilliseconds = none)
    (small : high ≤ 30000) {samples : List Nat}
    (inside : ∀ sample ∈ samples, low ≤ sample ∧ sample ≤ high) (heard : samples ≠ []) :
    ∃ smoothed variation, Estimates (runtime.updateAll samples) smoothed variation ∧
      Between low high smoothed variation := by
  induction samples using List.reverseRecOn with
  | nil => exact absurd rfl heard
  | append_singleton earlier sample induction =>
      obtain ⟨least, most⟩ := inside sample (List.mem_append_right _ List.mem_cons_self)
      rw [update_all_append]
      cases earlier with
      | nil =>
          refine ⟨sample, sample / 2, update_first unknown (most.trans small), least, most, ?_⟩
          exact (Nat.div_le_self sample 2).trans most
      | cons first others =>
          obtain ⟨smoothed, variation, estimates, between⟩ :=
            induction (fun other member => inside other (List.mem_append_left _ member))
              (List.cons_ne_nil _ _)
          exact update_between estimates between small least most

theorem timeout_in_range (estimates : Estimates runtime smoothed variation) :
    250 ≤ runtime.retransmitMilliseconds ∧ runtime.retransmitMilliseconds ≤ 10000 := by
  rw [estimates.timeout, clamp, MINIMUM_RETRANSMIT_MILLISECONDS, MAXIMUM_RETRANSMIT_MILLISECONDS]
  omega

theorem timeout_unsaturated
    (estimates : Estimates (runtime.updateRetransmitTimeout sample) smoothed variation)
    (smoothedBound : smoothed ≤ 30000) (variationBound : variation ≤ 30000) {next : Nat}
    (known : (runtime.updateRetransmitTimeout sample).smoothedRoundTripMilliseconds = some next) :
    next + (runtime.updateRetransmitTimeout sample).roundTripVariationMilliseconds * 4 <
      U64_MAXIMUM := by
  have maximum : 30000 + 30000 * 4 < U64_MAXIMUM := by decide
  rw [estimates.known, Option.some.injEq] at known
  rw [estimates.varies, ← known]
  omega

theorem first_unsaturated (unknown : runtime.smoothedRoundTripMilliseconds = none)
    (bounded : sample ≤ 30000) : Unsaturated runtime sample where
  smoothing smoothed known := by
    rw [unknown] at known
    cases known
  variation smoothed known := by
    rw [unknown] at known
    cases known
  timeout _ known := timeout_unsaturated (update_first unknown bounded) bounded
    ((Nat.div_le_self sample 2).trans bounded) known

theorem next_unsaturated (estimates : Estimates runtime smoothed variation)
    (smoothedBound : smoothed ≤ 30000) (variationBound : variation ≤ 30000)
    (bounded : sample ≤ 30000) : Unsaturated runtime sample where
  smoothing known same := by
    have maximum : 30000 * 7 + 30000 < U64_MAXIMUM := by decide
    rw [estimates.known, Option.some.injEq] at same
    omega
  variation known same := by
    have maximum : 30000 * 3 + 30000 < U64_MAXIMUM := by decide
    rw [estimates.known, Option.some.injEq] at same
    rw [estimates.varies]
    omega
  timeout _ known :=
    timeout_unsaturated (update_next estimates smoothedBound variationBound bounded)
      (average_le smoothedBound bounded) (average_le variationBound (by omega)) known

section Repeated

variable (smoothedBound : smoothed ≤ 30000) (variationBound : variation ≤ 30000)
  (bounded : sample ≤ 30000)

include smoothedBound variationBound bounded

theorem repeated_estimates (estimates : Estimates runtime smoothed variation) (count : Nat) :
    ∃ later, Estimates (runtime.updateAll (List.replicate count sample))
        ((average 7 · sample)^[count] smoothed) later ∧
      (average 7 · sample)^[count] smoothed ≤ 30000 ∧ later ≤ 30000 := by
  induction count generalizing runtime smoothed variation with
  | zero => exact ⟨variation, estimates, smoothedBound, variationBound⟩
  | succ count induction =>
      have next := update_next estimates smoothedBound variationBound bounded
      exact induction (average_le smoothedBound bounded) (average_le variationBound (by omega)) next

theorem repeated_variation (estimates : Estimates runtime smoothed variation)
    (rests : Function.IsFixedPt (average 7 · sample) smoothed) (count : Nat) :
    Estimates (runtime.updateAll (List.replicate count sample)) smoothed
      ((average 3 · ((smoothed - sample) + (sample - smoothed)))^[count] variation) := by
  induction count generalizing runtime variation with
  | zero => exact estimates
  | succ count induction =>
      have next := update_next estimates smoothedBound variationBound bounded
      have same : average 7 smoothed sample = smoothed := rests
      rw [same] at next
      exact induction (average_le variationBound (by omega)) next

end Repeated

/-- At rest the smoothed round trip is at most seven short of the sample, and the variation is
at most what it is short. -/
theorem rest_near_sample (smoothedRests : Function.IsFixedPt (average 7 · sample) smoothed)
    (variationRests : Function.IsFixedPt
      (average 3 · ((smoothed - sample) + (sample - smoothed))) variation) :
    clamp (smoothed + variation * 4) 250 10000 ≤ clamp sample 250 10000 + 21 ∧
      clamp sample 250 10000 ≤ clamp (smoothed + variation * 4) 250 10000 + 3 := by
  obtain ⟨below, short⟩ := rests_iff.mp smoothedRests
  obtain ⟨varies, slow⟩ := rests_iff.mp variationRests
  unfold clamp
  omega

theorem timeout_settles (estimates : Estimates runtime smoothed variation)
    (smoothedBound : smoothed ≤ 30000) (variationBound : variation ≤ 30000)
    (bounded : sample ≤ 30000) :
    ∃ count timeout, timeout ≤ clamp sample 250 10000 + 21 ∧
      clamp sample 250 10000 ≤ timeout + 3 ∧
      ∀ more, count ≤ more →
        (runtime.updateAll (List.replicate more sample)).retransmitMilliseconds = timeout := by
  obtain ⟨first, smoothedRests⟩ := settles 7 smoothed sample
  obtain ⟨later, reached, restBound, laterBound⟩ :=
    repeated_estimates smoothedBound variationBound bounded estimates first
  generalize (average 7 · sample)^[first] smoothed = rest at smoothedRests reached restBound
  obtain ⟨second, variationRests⟩ := settles 3 later ((rest - sample) + (sample - rest))
  obtain ⟨upper, lower⟩ := rest_near_sample smoothedRests variationRests
  refine ⟨first + second, _, upper, lower, ?_⟩
  intro more enough
  obtain ⟨extra, rfl⟩ := Nat.exists_eq_add_of_le enough
  have settled := repeated_variation restBound laterBound bounded reached smoothedRests (extra + second)
  rw [Function.iterate_add_apply, (variationRests.iterate extra).eq] at settled
  rw [Nat.add_assoc, Nat.add_comm second, List.replicate_add, update_all_append]
  exact settled.timeout

/-- Every sequence of samples up to thirty seconds keeps the estimates between the least and the
greatest sample and the timeout in its range, and saturates nothing. When the samples stay the
same the timeout comes to rest close to them. -/
theorem retransmit_estimates_in_range (terminal : Terminal) (key : SessionKey)
    (start : MonotonicTime) {samples : List Nat} (bounded : ∀ sample ∈ samples, sample ≤ 30000) :
    (∀ low high, samples.min? = some low → samples.max? = some high →
      ∃ smoothed,
        ((new terminal key start).updateAll samples).smoothedRoundTripMilliseconds = some smoothed ∧
        low ≤ smoothed ∧ smoothed ≤ high ∧
        ((new terminal key start).updateAll samples).roundTripVariationMilliseconds ≤ high ∧
        250 ≤ ((new terminal key start).updateAll samples).retransmitMilliseconds ∧
        ((new terminal key start).updateAll samples).retransmitMilliseconds ≤ 10000) ∧
    (∀ sample ≤ 30000, Unsaturated ((new terminal key start).updateAll samples) sample) ∧
    (∀ sample ≤ 30000, ∃ count timeout, timeout ≤ clamp sample 250 10000 + 28 ∧
      clamp sample 250 10000 ≤ timeout + 28 ∧
      ∀ more, count ≤ more →
        ((new terminal key start).updateAll
          (samples ++ List.replicate more sample)).retransmitMilliseconds = timeout) := by
  refine ⟨?_, ?_, ?_⟩
  · intro low high least greatest
    have lowest := (List.min?_eq_some_iff.mp least).2
    obtain ⟨member, highest⟩ := List.max?_eq_some_iff.mp greatest
    obtain ⟨smoothed, variation, estimates, between⟩ :=
      @samples_between terminal (new terminal key start) low high rfl (bounded high member) samples
        (fun sample inside => ⟨lowest sample inside, highest sample inside⟩)
        (List.ne_nil_of_mem member)
    refine ⟨smoothed, estimates.known, between.least, between.most, ?_, timeout_in_range estimates⟩
    rw [estimates.varies]
    exact between.varies
  · intro sample small
    by_cases heard : samples = []
    · rw [heard]
      exact first_unsaturated rfl small
    · obtain ⟨smoothed, variation, estimates, between⟩ :=
        @samples_between terminal (new terminal key start) 0 30000 rfl le_rfl samples
          (fun sample inside => ⟨Nat.zero_le _, bounded sample inside⟩) heard
      exact next_unsaturated estimates between.most between.varies small
  · intro sample small
    have inside : ∀ other ∈ samples ++ [sample], 0 ≤ other ∧ other ≤ 30000 := by
      intro other member
      rcases List.mem_append.mp member with earlier | last
      · exact ⟨Nat.zero_le _, bounded other earlier⟩
      · rw [List.mem_singleton.mp last]
        exact ⟨Nat.zero_le _, small⟩
    obtain ⟨smoothed, variation, estimates, between⟩ :=
      @samples_between terminal (new terminal key start) 0 30000 rfl le_rfl _ inside
        (List.append_ne_nil_of_right_ne_nil _ (List.cons_ne_nil _ _))
    obtain ⟨count, timeout, upper, lower, settled⟩ :=
      timeout_settles estimates between.most between.varies small
    refine ⟨count + 1, timeout, by omega, by omega, ?_⟩
    intro more enough
    obtain ⟨rest, rfl⟩ : ∃ rest, more = rest + 1 := ⟨more - 1, by omega⟩
    rw [List.replicate_succ, List.append_cons, update_all_append]
    exact settled rest (by omega)

/-- A second sample moves the average by an eighth of the way. -/
theorem two_samples_in_range :
    ∃ smoothed, ((new plainLibraries.terminal zeroKey ⟨0⟩).updateAll
        [100, 300]).smoothedRoundTripMilliseconds = some smoothed ∧
      100 ≤ smoothed ∧ smoothed ≤ 300 := by
  have bounded : ∀ sample ∈ [100, 300], sample ≤ 30000 := by decide
  obtain ⟨smoothed, known, least, most, _⟩ :=
    (retransmit_estimates_in_range plainLibraries.terminal zeroKey ⟨0⟩ bounded).1 100 300 rfl rfl
  exact ⟨smoothed, known, least, most⟩

end SessionRuntime

end FerrumTty.Runtime
