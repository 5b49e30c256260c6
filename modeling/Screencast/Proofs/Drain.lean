/-
What a drain takes of bytes that are sent.

Whatever a drain does, it takes them from the front (`send_took`), and when it
reports success it has taken all of them.
-/
import Screencast.Drain

namespace Screencast

namespace Drain

/-! ## What is taken -/

/-- What a drain took of the bytes that it was offered: a part from the front, and all of them if
it reports success. -/
structure Took {ε α : Type} (drain : Drain) (bytes : List UInt8) (run : Except ε α × Drain) :
    Prop where
  front : ∃ part, part <+: bytes ∧ run.2.taken = drain.taken ++ part
  whole : run.1.isOk → run.2.taken = drain.taken ++ bytes

theorem write_taken (drain : Drain) (bytes : List UInt8) :
    (drain.write bytes).2.taken = drain.taken ++ bytes.take
      (match (drain.write bytes).1 with
        | .ok n => n
        | .error _ => 0) := by
  unfold write
  split
  · simp [accept]
  · simp [accept]
  · simp

theorem flush_taken (drain : Drain) : drain.flush.2.taken = drain.taken := by
  unfold flush
  split <;> rfl

theorem flushAll_taken (drain : Drain) : drain.flushAll.2.taken = drain.taken := by
  fun_induction flushAll drain with
  | case1 drain drain' h =>
    have := drain.flush_taken
    rwa [h] at this
  | case2 drain fault drain' h _ ih =>
    have := drain.flush_taken
    rw [h] at this
    exact ih.trans this
  | case3 drain fault drain' h =>
    have := drain.flush_taken
    rwa [h] at this

theorem writeAll_took (stalled : Fault) (drain : Drain) (bytes : List UInt8) :
    Took drain bytes (drain.writeAll stalled bytes) := by
  fun_induction writeAll stalled drain bytes with
  | case1 drain => exact ⟨⟨[], by simp, by simp⟩, by simp⟩
  | case2 drain b rest drain' h =>
    have htaken := drain.write_taken (b :: rest)
    rw [h] at htaken
    exact ⟨⟨[], by simp, by simpa using htaken⟩, by simp [Except.isOk, Except.toBool]⟩
  | case3 drain b rest n drain' h ih =>
    have htaken := drain.write_taken (b :: rest)
    rw [h] at htaken
    simp only [List.take_succ_cons] at htaken
    obtain ⟨⟨part, hpart, hfront⟩, hwhole⟩ := ih
    -- `n + 1` bytes are taken by this write, and `part` by the writes that follow.
    refine ⟨⟨b :: rest.take n ++ part, ?_, ?_⟩, ?_⟩
    · have hsplit : b :: rest = b :: rest.take n ++ rest.drop n := by
        rw [List.cons_append, List.take_append_drop]
      rw [hsplit]
      exact (List.prefix_append_right_inj _).mpr hpart
    · rw [hfront, htaken, List.append_assoc]
    · intro hok
      rw [hwhole hok, htaken, List.append_assoc, List.cons_append, List.take_append_drop]
  | case4 drain b rest fault drain' h _ ih =>
    have htaken := drain.write_taken (b :: rest)
    rw [h] at htaken
    simp only [List.take_zero, List.append_nil] at htaken
    exact ⟨by rw [← htaken]; exact ih.front, by rw [← htaken]; exact ih.whole⟩
  | case5 drain b rest fault drain' h =>
    have htaken := drain.write_taken (b :: rest)
    rw [h] at htaken
    exact ⟨⟨[], by simp, by simpa using htaken⟩, by simp [Except.isOk, Except.toBool]⟩

theorem send_took (drain : Drain) (bytes : List UInt8) : Took drain bytes (drain.send bytes) := by
  have hwrite := drain.writeAll_took stalledStream bytes
  unfold send
  split
  · next drain' h =>
    rw [h] at hwrite
    have htaken := hwrite.whole rfl
    exact ⟨⟨bytes, List.prefix_rfl, by rw [flushAll_taken, htaken]⟩,
      fun _ => by rw [flushAll_taken, htaken]⟩
  · exact hwrite

end Drain

end Screencast
