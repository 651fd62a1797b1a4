import LevelScript.Bytes

/-!
The bytes that no read has touched.
-/

namespace LevelScript

/-- Marks the positions of a span. -/
def markSpan (mask : Array Bool) (span : Span) : Array Bool :=
  (List.range' span.start (span.stop - span.start)).foldl (fun m i => m.setIfInBounds i true) mask

/-- For every position of a buffer whether a read touched it. -/
def touched (size : Nat) (reads : List Span) : Array Bool :=
  reads.foldl markSpan (Array.replicate size false)

/-- The maximal runs of `false` in a mask whose first position is `pos`; `opened` is where the run
began that is still going on. -/
def gaps (pos : Nat) (opened : Option Nat) : List Bool → List Span
  | [] =>
    match opened with
    | some start => [⟨start, pos⟩]
    | none => []
  | false :: rest => gaps (pos + 1) (some (opened.getD pos)) rest
  | true :: rest =>
    match opened with
    | some start => ⟨start, pos⟩ :: gaps (pos + 1) none rest
    | none => gaps (pos + 1) none rest

/-- The maximal spans of a buffer that no read has touched, in order. -/
def unreadSpans (size : Nat) (reads : List Span) : List Span :=
  gaps 0 none (touched size reads).toList

end LevelScript
