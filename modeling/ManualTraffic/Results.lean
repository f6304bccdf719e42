/-
# ManualTraffic.Results -- the figures of a test

The operator's answers, in the order of the statistics asked for, become a record
of named figures.  Bytes and rates are products and quotients of an answer, the
frame size and the duration.  Percentages of the line rate are not known to a
manual generator and are always 0.
-/
import ManualTraffic.Fault
import ManualTraffic.KeyOrder

namespace ManualTraffic

set_option autoImplicit false

/-- The names of the figures. -/
inductive ResultKey where
  | txFrames | rxFrames | txBytes | rxBytes | payloadErr | seqErr
  | throughputTxFps | throughputRxFps | throughputTxMbps | throughputRxMbps
  | throughputTxPercent | throughputRxPercent
  | minLatencyNs | maxLatencyNs | avgLatencyNs
  deriving DecidableEq

namespace ResultKey

def name : ResultKey → String
  | txFrames => "tx_frames"
  | rxFrames => "rx_frames"
  | txBytes => "tx_bytes"
  | rxBytes => "rx_bytes"
  | payloadErr => "payload_err"
  | seqErr => "seq_err"
  | throughputTxFps => "throughput_tx_fps"
  | throughputRxFps => "throughput_rx_fps"
  | throughputTxMbps => "throughput_tx_mbps"
  | throughputRxMbps => "throughput_rx_mbps"
  | throughputTxPercent => "throughput_tx_percent"
  | throughputRxPercent => "throughput_rx_percent"
  | minLatencyNs => "min_latency_ns"
  | maxLatencyNs => "max_latency_ns"
  | avgLatencyNs => "avg_latency_ns"

/-- The name of the constant under which a benchmark refers to a figure. -/
def constant (key : ResultKey) : String := key.name.toUpper

def all : List ResultKey :=
  [txFrames, rxFrames, txBytes, rxBytes, payloadErr, seqErr, throughputTxFps, throughputRxFps,
    throughputTxMbps, throughputRxMbps, throughputTxPercent, throughputRxPercent, minLatencyNs,
    maxLatencyNs, avgLatencyNs]

end ResultKey

/-- The figures of a test, in the order in which they are reported. -/
abbrev Results := List (ResultKey × Binary64)

namespace Results

/-! ## The statistics asked for -/

def burstStats : List String := ["frames rx", "payload errors", "sequence errors"]

def throughputStats : List String :=
  ["frames tx", "frames rx", "min latency", "max latency", "avg latency"]

/-! ## Figures from answers -/

/-- A test lasts a finite time above zero. -/
def positiveDuration (given : Option Binary64) : Except Fault Binary64 :=
  match given with
  | some duration => if duration.isPositive then .ok duration else .error (.badDuration given)
  | none => .error (.badDuration none)

/-- The figures of a burst: one answer for each of `burstStats`. -/
def ofBurst (numpkts framesize : Binary64) : List Binary64 → Except Fault Results
  | [framesRx, payloadErrors, sequenceErrors] =>
      .ok [(.txFrames, numpkts), (.rxFrames, framesRx), (.txBytes, framesize * numpkts),
        (.rxBytes, framesize * framesRx), (.payloadErr, payloadErrors),
        (.seqErr, sequenceErrors)]
  | answers => .error (.answerCount burstStats answers.length)

/-- The figures of a continuous or a throughput run: one answer for each of
`throughputStats`. -/
def ofThroughput (framesize : Binary64) (duration : Option Binary64) :
    List Binary64 → Except Fault Results
  | [framesTx, framesRx, minLatency, maxLatency, avgLatency] =>
      match positiveDuration duration with
      | .error fault => .error fault
      | .ok duration =>
          .ok [(.throughputTxFps, framesTx / duration), (.throughputRxFps, framesRx / duration),
            (.throughputTxMbps, framesTx * framesize / duration),
            (.throughputRxMbps, framesRx * framesize / duration),
            (.throughputTxPercent, .zero), (.throughputRxPercent, .zero),
            (.minLatencyNs, minLatency), (.maxLatencyNs, maxLatency),
            (.avgLatencyNs, avgLatency)]
  | answers => .error (.answerCount throughputStats answers.length)

end Results

/-- Figures under any names, some of them unknown, as they are handed to a
report. -/
abbrev Record := Members (Option Binary64)

/-- The results of a test as a record. -/
def Results.toRecord (results : Results) : Record :=
  results.map fun (key, value) => (key.name, some value)

end ManualTraffic
