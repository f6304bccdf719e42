/-
# ManualTraffic.Proofs.Results.Range -- when the figures of a run are finite

What goes into the figures of a run is checked piece by piece: the frame size is finite, the
duration is finite and above zero, an answer is a whole number that is held exactly
(`Checked`).  That keeps a NaN out of every figure.  It does not bound the rates, which are
products and quotients: a rate is finite exactly if no step of its computation leaves the
range of the format (`Steady`).  It is enough that the run lasts at least one unit of time and
that the frame size is at most `sizeBound`.
-/
import ManualTraffic.Proofs.Operator.Answer
import ManualTraffic.FlowConfig.FrameSize
import ManualTraffic.FlowConfig.Merge
import ManualTraffic.Proofs.Binary64.Value
import ManualTraffic.Results

namespace ManualTraffic

set_option autoImplicit false

namespace Results

open Binary64

variable {framesize duration count : Binary64}

/-! ## What the checks leave -/

/-- What the figures of a run are made of, each past its own check. -/
structure Checked (framesize duration : Binary64) (answers : List Binary64) : Prop where
  sized : ∃ config : FlowConfig, config.frameSize = .ok framesize
  lasting : ∃ given, positiveDuration given = .ok duration
  answered : ∀ answer ∈ answers, ∃ text, Answer.integer? text = some answer

theorem isFinite_of_frameSize {config : FlowConfig} (sized : config.frameSize = .ok framesize) :
    framesize.isFinite = true := by
  unfold FlowConfig.frameSize at sized
  split at sized
  · split at sized
    · split at sized
      · next finite => exact Except.ok.inj sized ▸ finite
      · cases sized
    · cases sized
  · cases sized

theorem frameSize_ofFrameSize (sized : framesize.isFinite = true) :
    (FlowConfig.ofFrameSize framesize).frameSize = .ok framesize :=
  if_pos sized

theorem positiveDuration_of_isPositive (positive : duration.isPositive = true) :
    positiveDuration (some duration) = .ok duration :=
  if_pos positive

theorem isPositive_of_positiveDuration {given : Option Binary64}
    (lasting : positiveDuration given = .ok duration) :
    given = some duration ∧ duration.isPositive = true := by
  unfold positiveDuration at lasting
  split at lasting
  · split at lasting
    · next positive =>
        obtain rfl := Except.ok.inj lasting
        exact ⟨rfl, positive⟩
    · cases lasting
  · cases lasting

/-- An answer is a whole number up to `Answer.limit` in magnitude, held exactly. -/
theorem answer_exact {text : String} (answered : Answer.integer? text = some count) :
    ∃ n ≤ Answer.limit, count.isFinite = true ∧ |count.value| = n := by
  obtain ⟨negative, n, -, small, whole⟩ := Answer.integer?_eq_some_iff.1 answered
  have held := Answer.representable_of_le_limit small
  rw [eq_ofNat_of_whole? whole]
  exact ⟨n, small, by rw [ofNat_of_representable held, isFinite], abs_value_ofNat held⟩

/-! ## Rates -/

/-- No step of the computation of the two rates of a count leaves the range of the format. -/
structure Steady (framesize duration count : Binary64) : Prop where
  perTime : InRange (count.value / duration.value)
  bytes : InRange (count.value * framesize.value)
  bytesPerTime : InRange ((count * framesize).value / duration.value)

/-- The rates of a count are finite exactly if it is steady. -/
theorem steady_iff (sized : framesize.isFinite = true)
    (positive : duration.isPositive = true) (counted : count.isFinite = true) :
    ((count / duration).isFinite = true ∧ (count * framesize / duration).isFinite = true) ↔
      Steady framesize duration count := by
  rw [isFinite_div_iff counted positive]
  constructor
  · rintro ⟨perTime, finite⟩
    have product := isFinite_of_div positive (mul_ne_nan counted sized) finite
    exact ⟨perTime, (isFinite_mul_iff counted sized).1 product,
      (isFinite_div_iff product positive).1 finite⟩
  · rintro ⟨perTime, bytes, bytesPerTime⟩
    have product := (isFinite_mul_iff counted sized).2 bytes
    exact ⟨perTime, (isFinite_div_iff product positive).2 bytesPerTime⟩

/-- A frame size that no answer takes out of the range of the format. -/
def sizeBound : Nat := Nat.pow 2 970

theorem limit_mul_sizeBound : Answer.limit * sizeBound < limit := by decide +kernel

/-- In a run of at least one unit of time, a count of frames of at most `sizeBound` is steady. -/
theorem Steady.of_bounds {text : String} (answered : Answer.integer? text = some count)
    (sized : framesize.isFinite = true) (lasts : 1 ≤ duration.value)
    (bounded : |framesize.value| ≤ sizeBound) : Steady framesize duration count := by
  obtain ⟨n, small, counted, magnitude⟩ := answer_exact answered
  have bytes : InRange (count.value * framesize.value) := by
    calc |count.value * framesize.value| = n * |framesize.value| := by rw [abs_mul, magnitude]
      _ ≤ (Answer.limit : ℚ) * sizeBound :=
        mul_le_mul (Nat.cast_le.2 small) bounded (abs_nonneg _) (Nat.cast_nonneg _)
      _ < (limit : ℚ) := by exact_mod_cast limit_mul_sizeBound
  have product : (count * framesize).isFinite = true := (isFinite_mul_iff counted sized).2 bytes
  exact ⟨(inRange_value counted).div lasts, bytes, (inRange_value product).div lasts⟩

/-! ## Figures -/

variable {framesTx framesRx minLatency maxLatency avgLatency : Binary64}

/-- The figures of a run, in the order in which they are reported. -/
def runKeys : List ResultKey :=
  [.throughputTxFps, .throughputRxFps, .throughputTxMbps, .throughputRxMbps,
    .throughputTxPercent, .throughputRxPercent, .minLatencyNs, .maxLatencyNs, .avgLatencyNs]

/-- The names of the figures that are computed. -/
def rateKeys : List ResultKey := runKeys.take 4

/-- The figures of a run that are computed. -/
def rates (framesize duration framesTx framesRx : Binary64) : Results :=
  [(.throughputTxFps, framesTx / duration), (.throughputRxFps, framesRx / duration),
    (.throughputTxMbps, framesTx * framesize / duration),
    (.throughputRxMbps, framesRx * framesize / duration)]

/-- The figures of a run that are fixed, or passed on as they are. -/
def passedOn (minLatency maxLatency avgLatency : Binary64) : Results :=
  [(.throughputTxPercent, .zero), (.throughputRxPercent, .zero), (.minLatencyNs, minLatency),
    (.maxLatencyNs, maxLatency), (.avgLatencyNs, avgLatency)]

theorem ofThroughput_of_lasting (framesize : Binary64)
    (lasting : positiveDuration (some duration) = .ok duration) :
    ofThroughput framesize (some duration)
        [framesTx, framesRx, minLatency, maxLatency, avgLatency] =
      .ok (rates framesize duration framesTx framesRx ++
        passedOn minLatency maxLatency avgLatency) := by
  simp only [ofThroughput, lasting, rates, passedOn, List.cons_append, List.nil_append]

theorem finite_passedOn (minFinite : minLatency.isFinite = true)
    (maxFinite : maxLatency.isFinite = true) (avgFinite : avgLatency.isFinite = true) :
    ∀ figure ∈ passedOn minLatency maxLatency avgLatency, figure.2.isFinite = true := by
  have zero_finite : zero.isFinite = true := by decide +kernel
  simp only [passedOn, List.forall_mem_cons]
  exact ⟨zero_finite, zero_finite, minFinite, maxFinite, avgFinite, List.forall_mem_nil _⟩

theorem rates_ne_nan (sized : framesize.isFinite = true) (positive : duration.isPositive = true)
    (finiteTx : framesTx.isFinite = true) (finiteRx : framesRx.isFinite = true) :
    ∀ figure ∈ rates framesize duration framesTx framesRx, figure.2 ≠ .nan := by
  have perTime {x : Binary64} (number : x ≠ .nan) : x / duration ≠ .nan :=
    div_ne_nan number positive
  simp only [rates, List.forall_mem_cons]
  exact ⟨perTime (ne_nan_of_isFinite finiteTx), perTime (ne_nan_of_isFinite finiteRx),
    perTime (mul_ne_nan finiteTx sized), perTime (mul_ne_nan finiteRx sized),
    List.forall_mem_nil _⟩

/-- The rates are finite exactly if both counts are steady. -/
theorem rates_finite_iff (sized : framesize.isFinite = true)
    (positive : duration.isPositive = true) (finiteTx : framesTx.isFinite = true)
    (finiteRx : framesRx.isFinite = true) :
    (∀ figure ∈ rates framesize duration framesTx framesRx, figure.2.isFinite = true) ↔
      ∀ count ∈ [framesTx, framesRx], Steady framesize duration count := by
  simp only [rates, List.forall_mem_cons, List.not_mem_nil, false_implies, implies_true,
    ← steady_iff sized positive finiteTx, ← steady_iff sized positive finiteRx]
  tauto

/-- **When the figures of a run are finite.**  Checked inputs give all figures, and none of
them is a NaN.  Those that are not computed are finite.  All of them are exactly if the counts of
frames are steady, as they are in a run of at least one unit of time with a frame size of at
most `sizeBound`. -/
theorem run_figures_finite_iff
    (checked : Checked framesize duration
      [framesTx, framesRx, minLatency, maxLatency, avgLatency]) :
    ∃ results, ofThroughput framesize (some duration)
        [framesTx, framesRx, minLatency, maxLatency, avgLatency] = .ok results ∧
      results.map Prod.fst = runKeys ∧
      (∀ figure ∈ results, figure.2 ≠ .nan) ∧
      (∀ figure ∈ results, figure.1 ∉ rateKeys → figure.2.isFinite = true) ∧
      ((∀ figure ∈ results, figure.2.isFinite = true) ↔
        ∀ count ∈ [framesTx, framesRx], Steady framesize duration count) ∧
      (1 ≤ duration.value → |framesize.value| ≤ sizeBound →
        ∀ figure ∈ results, figure.2.isFinite = true) := by
  obtain ⟨⟨config, size⟩, ⟨given, lasting⟩, answered⟩ := checked
  obtain ⟨rfl, positive⟩ := isPositive_of_positiveDuration lasting
  have sized := isFinite_of_frameSize size
  have counted : ∀ answer ∈ [framesTx, framesRx, minLatency, maxLatency, avgLatency],
      answer.isFinite = true := by
    intro answer among
    obtain ⟨text, reads⟩ := answered answer among
    obtain ⟨_, _, whole, -⟩ := answer_exact reads
    exact whole
  simp only [List.forall_mem_cons] at counted
  obtain ⟨finiteTx, finiteRx, finiteMin, finiteMax, finiteAvg, -⟩ := counted
  have others := finite_passedOn finiteMin finiteMax finiteAvg
  have finite_iff : (∀ figure ∈ rates framesize duration framesTx framesRx ++
      passedOn minLatency maxLatency avgLatency, figure.2.isFinite = true) ↔
        ∀ count ∈ [framesTx, framesRx], Steady framesize duration count := by
    rw [List.forall_mem_append, and_iff_left others]
    exact rates_finite_iff sized positive finiteTx finiteRx
  refine ⟨_, ofThroughput_of_lasting framesize lasting, rfl, ?_, ?_, finite_iff, ?_⟩
  · rw [List.forall_mem_append]
    exact ⟨rates_ne_nan sized positive finiteTx finiteRx,
      fun figure among => ne_nan_of_isFinite (others figure among)⟩
  · rw [List.forall_mem_append]
    refine ⟨fun figure among notRate => absurd ?_ notRate,
      fun figure among _ => others figure among⟩
    exact List.mem_map_of_mem (f := Prod.fst) among
  · intro lasts bounded
    refine finite_iff.2 fun count among => ?_
    obtain ⟨text, reads⟩ :=
      answered count (List.mem_append_left [minLatency, maxLatency, avgLatency] among)
    exact .of_bounds reads sized lasts bounded

/-- Frames of 64 bytes over 20 seconds. -/
theorem run_figures_finite_short_frames :
    let framesize := ofNat false 64
    let duration := ofNat false 20
    ∃ results, ofThroughput framesize (some duration)
        [ofNat false 2000, ofNat false 1900, ofNat true 10, ofNat false 50, ofNat false 25] =
          .ok results ∧
      ∀ figure ∈ results, figure.2.isFinite = true := by
  intro framesize duration
  have checked : Checked framesize duration
      [ofNat false 2000, ofNat false 1900, ofNat true 10, ofNat false 50, ofNat false 25] := by
    refine ⟨⟨_, frameSize_ofFrameSize (by decide +kernel)⟩,
      ⟨some duration, positiveDuration_of_isPositive (by decide +kernel)⟩, ?_⟩
    simp only [List.forall_mem_cons]
    exact ⟨⟨"2000", by decide +kernel⟩, ⟨" 1900", by decide +kernel⟩, ⟨"-10", by decide +kernel⟩,
      ⟨"+50", by decide +kernel⟩, ⟨"25", by decide +kernel⟩, List.forall_mem_nil _⟩
  have lasts : duration.value = 20 := value_ofNat (representable_of_le (by decide))
  have size : framesize.value = 64 := value_ofNat (representable_of_le (by decide))
  obtain ⟨results, returned, -, -, -, -, bounded⟩ := run_figures_finite_iff checked
  refine ⟨results, returned, bounded ?_ ?_⟩
  · rw [lasts]
    norm_num
  · rw [size, abs_of_pos (by norm_num)]
    exact_mod_cast (by decide +kernel : 64 ≤ sizeBound)

/-- A frame size of `10 ^ 308` over as long a time as there are frames: the exact figure is the
frame size again, but the product on the way to it is out of range. -/
theorem run_figures_infinite_long_frames :
    let framesize := ofNat false (Nat.pow 10 308)
    let count := ofNat false 2000
    Checked framesize count [count, count, ofNat false 10, ofNat false 50, ofNat false 25] ∧
      ∃ results, ofThroughput framesize (some count)
          [count, count, ofNat false 10, ofNat false 50, ofNat false 25] = .ok results ∧
        (.throughputTxMbps, .infinite false) ∈ results := by
  intro framesize count
  have lasting : positiveDuration (some count) = .ok count :=
    positiveDuration_of_isPositive (by decide +kernel)
  have infinite : count * framesize / count = .infinite false := by decide +kernel
  refine ⟨⟨⟨_, frameSize_ofFrameSize (by decide +kernel)⟩, ⟨_, lasting⟩, ?_⟩,
    _, ofThroughput_of_lasting framesize lasting, ?_⟩
  · simp only [List.forall_mem_cons]
    exact ⟨⟨"2000", by decide +kernel⟩, ⟨"2000", by decide +kernel⟩, ⟨"10", by decide +kernel⟩,
      ⟨"50", by decide +kernel⟩, ⟨"25", by decide +kernel⟩, List.forall_mem_nil _⟩
  · rw [rates, infinite]
    exact .tail _ (.tail _ (.head _))

end Results

end ManualTraffic
