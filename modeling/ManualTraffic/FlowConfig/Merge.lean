/-
# ManualTraffic.FlowConfig.Merge -- an override on top of defaults

`FlowConfig.merge` copies the defaults and writes the entries of the override over
the copy, mapping into mapping.  Keys of the override win at every level and keys
of the defaults alone stay; neither argument changes.  One thing is refused: a
scalar over a mapping, at the first key where it happens.
-/
import ManualTraffic.FlowConfig.Basic

namespace ManualTraffic

set_option autoImplicit false

/-- A scalar override met a mapping, at the key path `path`. -/
structure MergeConflict where
  path : String
  deriving DecidableEq

namespace FlowConfig

/-- A key after the path to its mapping; the empty path leaves no trace. -/
def keyPath (path key : String) : String := if path = "" then key else path ++ "." ++ key

/-- Writes the entries of an override, in order, over `merged`.  Where both sides
are mappings, the override is written over a copy of what is there. -/
def mergeInto (merged : FlowConfig) (path : String) :
    FlowConfig → Except MergeConflict FlowConfig
  | .root | .bare | .over _ => .ok merged
  | .scalar key value rest =>
      match merged.read key with
      | .mapping _ => .error ⟨keyPath path key⟩
      | _ => mergeInto (merged.put key (.scalar value)) path rest
  | .mapping key inner rest =>
      match merged.read key with
      | .mapping current =>
          match mergeInto current.clone (keyPath path key) inner with
          | .ok below => mergeInto (merged.put key (.mapping below)) path rest
          | .error conflict => .error conflict
      | _ => mergeInto (merged.put key (.mapping inner.clone)) path rest

/-- The defaults with the override on top, both standing at `path` of a larger
configuration. -/
def mergeAt (path : String) (defaults override : FlowConfig) : Except MergeConflict FlowConfig :=
  mergeInto defaults.clone path override

/-- The defaults with the override on top. -/
def merge (defaults override : FlowConfig) : Except MergeConflict FlowConfig :=
  mergeAt "" defaults override

/-- The outcomes of a run of merges: each override goes on top of the last good
state, and one that is refused leaves that state as it was. -/
def mergeEach (state : FlowConfig) : List FlowConfig → List (Except MergeConflict FlowConfig)
  | [] => []
  | override :: overrides =>
      match state.merge override with
      | .ok merged => .ok merged :: mergeEach merged overrides
      | .error conflict => .error conflict :: mergeEach state overrides

/-- The last good state of a run of merges. -/
def mergeAll (state : FlowConfig) : List FlowConfig → FlowConfig
  | [] => state
  | override :: overrides =>
      match state.merge override with
      | .ok merged => mergeAll merged overrides
      | .error _ => mergeAll state overrides

/-- The override that sets the frame size alone. -/
def ofFrameSize (size : Binary64) : FlowConfig :=
  .mapping "l2" (.scalar "framesize" (.number size) .root) .root

end FlowConfig

end ManualTraffic
