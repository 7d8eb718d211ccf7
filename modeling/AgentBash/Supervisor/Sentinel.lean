import AgentBash.Supervisor.EventLoop

/-!
# The ready sentinel

The matcher searches a rolling window of what the workload wrote. For a word literal it searches
only the end of the window after a search that found nothing; the result is the same.
-/

namespace AgentBash

set_option autoImplicit false

open RootWork

namespace SentinelMatcher

/-- The end of a stream that fits a window. -/
def window (limit : Nat) (given : Bytes) : Bytes := given.drop (given.length - limit)

def pushAll (matcher : SentinelMatcher) (chunks : List Bytes) : SentinelMatcher :=
  chunks.foldl (fun matcher chunk => (matcher.pushStdout chunk).2) matcher

/-- A compiled word literal matches where the literal occurs. -/
def MatchesLiteral (isMatch : Bytes → Bool) (pattern : Bytes) : Prop :=
  pattern ≠ [] → pattern.all wordByte = true → ∀ text, isMatch text = true ↔ pattern <:+: text

section Occurrences

variable {pattern old more text : Bytes}

/-- A literal that does not occur in the old bytes ends in new ones. -/
theorem occurs_at_end (absent : ¬ pattern <:+: old) (more : Bytes) :
    pattern <:+: (old ++ more).drop (old.length - (pattern.length - 1)) ↔ pattern <:+: old ++ more := by
  constructor
  · intro occurs
    exact occurs.trans (List.drop_suffix _ _).isInfix
  · rintro ⟨front, back, split⟩
    have late : old.length < front.length + pattern.length := by
      by_contra early
      refine absent ⟨front, (old.drop (front.length + pattern.length)), ?_⟩
      have prefixed : front ++ pattern = old.take (front.length + pattern.length) := by
        have both := congrArg (List.take (front.length + pattern.length)) split
        rw [← List.length_append, List.take_left] at both
        rw [both, List.length_append, List.take_append_of_le_length (by omega)]
      rw [prefixed, List.take_append_drop]
    have skipped : old.length - (pattern.length - 1) ≤ front.length := by omega
    refine ⟨front.drop (old.length - (pattern.length - 1)), back, ?_⟩
    rw [← split, List.append_assoc, List.append_assoc, List.drop_append_of_le_length skipped]

theorem window_append {limit : Nat} :
    window limit (window limit text ++ more) = window limit (text ++ more) := by
  unfold window
  simp only [List.length_append, List.length_drop]
  rw [← List.drop_append_of_le_length (Nat.sub_le _ _), List.drop_drop]
  congr 1
  omega

end Occurrences

section Pushing

variable {isMatch : Bytes → Bool} {pattern : Bytes} {matcher : SentinelMatcher} {limit : Nat}
  {given : Bytes}

/-- What a matcher knows of the stream it was given. -/
structure Follows (isMatch : Bytes → Bool) (pattern : Bytes) (limit : Nat) (given : Bytes)
    (matcher : SentinelMatcher) : Prop where
  compiled : matcher.isMatch = isMatch
  bound : matcher.limit = limit
  literal : matcher.literalLen =
    if !pattern.isEmpty && pattern.all wordByte then some pattern.length else none
  buffer : matcher.buffer = window limit given
  negative : pattern ≠ [] → pattern.all wordByte = true → matcher.previousMatch = false →
    ¬ pattern <:+: window limit given

theorem follows_new (isMatch : Bytes → Bool) (pattern : Bytes) :
    Follows isMatch pattern (new isMatch pattern).limit [] (new isMatch pattern) where
  compiled := rfl
  bound := rfl
  literal := rfl
  buffer := List.drop_nil.symm
  negative some_ _ _ occurs := by
    rw [window, List.drop_nil] at occurs
    exact some_ (List.eq_nil_of_infix_nil occurs)

/-- The shortened search answers as the search of the whole window does. -/
theorem Follows.found (literal : MatchesLiteral isMatch pattern)
    (follows : Follows isMatch pattern limit given matcher) (bytes : Bytes) :
    (matcher.pushStdout bytes).1 = isMatch (window limit (given ++ bytes)) := by
  have trimmed : (matcher.buffer ++ bytes).drop ((matcher.buffer ++ bytes).length - matcher.limit) =
      window limit (given ++ bytes) := by
    rw [follows.buffer, follows.bound]
    exact window_append
  simp only [pushStdout, follows.compiled, trimmed]
  by_cases short : pattern ≠ [] ∧ pattern.all wordByte = true ∧ matcher.previousMatch = false
  · obtain ⟨some_, word, negative⟩ := short
    have len : matcher.literalLen = some pattern.length := by
      rw [follows.literal, word, List.isEmpty_eq_false_iff.mpr some_]
      rfl
    rw [searchStart, len, negative]
    simp only
    generalize gone : (matcher.buffer ++ bytes).length - matcher.limit = removed at trimmed ⊢
    -- what survives the trimming of the old bytes does not contain the literal either
    have retained : (matcher.buffer.drop removed).length = matcher.buffer.length - removed :=
      List.length_drop
    have absent : ¬ pattern <:+: matcher.buffer.drop removed := by
      intro occurs
      refine follows.negative some_ word negative ?_
      rw [← follows.buffer]
      exact occurs.trans (List.drop_suffix _ _).isInfix
    have split : window limit (given ++ bytes) =
        matcher.buffer.drop removed ++ bytes.drop (removed - matcher.buffer.length) := by
      rw [← trimmed, List.drop_append]
    have same := occurs_at_end absent (bytes.drop (removed - matcher.buffer.length))
    rw [retained] at same
    rw [split]
    exact Bool.eq_iff_iff.mpr ((literal some_ word _).trans (same.trans (literal some_ word _).symm))
  · have whole : ∀ old, matcher.searchStart old = 0 := by
      intro old
      rw [searchStart]
      split
      · next len negative shorter =>
        rw [follows.literal] at negative
        split at negative
        · next word =>
          rw [Bool.and_eq_true, Bool.not_eq_true', List.isEmpty_eq_false_iff] at word
          exact absurd ⟨word.1, word.2, shorter⟩ short
        · cases negative
      · rfl
    rw [whole, List.drop_zero]

theorem Follows.push (literal : MatchesLiteral isMatch pattern)
    (follows : Follows isMatch pattern limit given matcher) (bytes : Bytes) :
    Follows isMatch pattern limit (given ++ bytes) (matcher.pushStdout bytes).2 where
  compiled := follows.compiled
  bound := follows.bound
  literal := follows.literal
  buffer := by
    simp only [pushStdout, follows.buffer, follows.bound]
    exact window_append
  negative some_ word negative occurs := by
    have found := follows.found literal bytes
    rw [show (matcher.pushStdout bytes).1 = false from negative] at found
    rw [(literal some_ word _).mpr occurs] at found
    cases found

theorem Follows.pushAll (literal : MatchesLiteral isMatch pattern)
    (follows : Follows isMatch pattern limit given matcher) (chunks : List Bytes) :
    Follows isMatch pattern limit (given ++ chunks.flatten) (matcher.pushAll chunks) := by
  induction chunks generalizing matcher given with
  | nil =>
      rw [List.flatten_nil, List.append_nil]
      exact follows
  | cons chunk chunks ih =>
      have next := ih (follows.push literal chunk)
      rw [List.append_assoc, ← List.flatten_cons] at next
      exact next

end Pushing

/-- After every push the matcher reports what a search of the last `limit` bytes of the whole
stream reports. -/
theorem sentinel_match_exact (isMatch : Bytes → Bool) (pattern : Bytes)
    (literal : MatchesLiteral isMatch pattern) (chunks : List Bytes) (bytes : Bytes) :
    (((new isMatch pattern).pushAll chunks).pushStdout bytes).1 =
      isMatch (window (new isMatch pattern).limit (chunks.flatten ++ bytes)) := by
  have follows := (follows_new isMatch pattern).pushAll literal chunks
  rw [List.nil_append] at follows
  exact follows.found literal bytes

theorem sentinel_match_exact_split :
    (((new (fun text => decide (([79, 75] : Bytes) <:+: text)) [79, 75]).pushAll
      [[1, 79], []]).pushStdout [75]).1 =
      decide (([79, 75] : Bytes) <:+: window
        (new (fun text => decide (([79, 75] : Bytes) <:+: text)) [79, 75]).limit
        ([[1, 79], []].flatten ++ [75])) :=
  sentinel_match_exact _ [79, 75] (fun _ _ _ => decide_eq_true_iff) [[1, 79], []] [75]

end SentinelMatcher

end AgentBash
