/-
What a drain takes behind a buffer.

What a buffered drain was given is what the drain took and what is held back
for it (`given`). Passing on what is held back moves bytes from one to the
other and so changes nothing of it (`given_pass`), whatever the drain does;
writing adds all of the bytes, or a part from their front if it fails
(`writeAll_adds`).
-/
import Screencast.Drain.Buffered
import Screencast.Proofs.Drain

namespace Screencast.Drain

/-! ## Writing to a drain -/

/-- What an attempt to write some bytes adds: all of them, or only a part from the front if it
fails. -/
def Adds {ε : Type} (before bytes after : List UInt8) : Except ε Unit → Prop
  | .ok () => after = before ++ bytes
  | .error _ => ∃ part, part <+: bytes ∧ part ≠ bytes ∧ after = before ++ part

theorem flushes_write (drain : Drain) (bytes : List UInt8) :
    (drain.write bytes).2.flushes = drain.flushes := by
  unfold write
  split <;> rfl

theorem flushes_flush (drain : Drain) : drain.flush.2.flushes = drain.flushes + 1 := by
  unfold flush
  split <;> rfl

theorem writes_flush (drain : Drain) : drain.flush.2.writes = drain.writes := by
  unfold flush
  split <;> rfl

/-- However often a drain is written to, it is not flushed. -/
theorem flushes_writeAll (stalled : Fault) (drain : Drain) (bytes : List UInt8) :
    (drain.writeAll stalled bytes).2.flushes = drain.flushes := by
  have hwrite {drain drain' : Drain} {bytes : List UInt8} {result : Except Fault Nat}
      (h : drain.write bytes = (result, drain')) : drain'.flushes = drain.flushes := by
    have hflushes := drain.flushes_write bytes
    rwa [h] at hflushes
  fun_induction writeAll stalled drain bytes with
  | case1 drain => rfl
  | case2 drain b rest drain' h => exact hwrite h
  | case3 drain b rest n drain' h ih => exact ih.trans (hwrite h)
  | case4 drain b rest fault drain' h _ ih => exact ih.trans (hwrite h)
  | case5 drain b rest fault drain' h => exact hwrite h

/-- A drain that reports a fault has not taken everything. -/
theorem length_writeAll_lt {stalled fault : Fault} {drain : Drain} {bytes : List UInt8} :
    (drain.writeAll stalled bytes).1 = .error fault →
      (drain.writeAll stalled bytes).2.taken.length < drain.taken.length + bytes.length := by
  -- A write that fails, and one that takes nothing, leaves as many bytes taken as there were.
  have hnone {drain drain' : Drain} {bytes : List UInt8} {result : Except Fault Nat}
      (h : drain.write bytes = (result, drain')) (hresult : ∀ n, result ≠ .ok (n + 1)) :
      drain'.taken.length = drain.taken.length := by
    have htaken := drain.write_taken bytes
    rw [h] at htaken
    have hlength := congrArg List.length htaken
    cases result with
    | error fault => simpa using hlength
    | ok n =>
      cases n with
      | zero => simpa using hlength
      | succ n => exact absurd rfl (hresult n)
  fun_induction writeAll stalled drain bytes with
  | case1 drain => intro h; cases h
  | case2 drain b rest drain' h =>
    intro _
    have hsame := hnone h (by simp)
    rw [hsame, List.length_cons]
    omega
  | case3 drain b rest n drain' h ih =>
    intro hfault
    have htaken : drain'.taken = drain.taken ++ (b :: rest).take (n + 1) := by
      have htaken := drain.write_taken (b :: rest)
      rw [h] at htaken
      exact htaken
    have hlength := congrArg List.length htaken
    rw [List.length_append, List.length_take, List.length_cons] at hlength
    have hlater := ih hfault
    rw [List.length_drop] at hlater
    rw [List.length_cons]
    omega
  | case4 drain b rest fault' drain' h _ ih =>
    intro hfault
    have hsame := hnone h (by simp)
    have hlater := ih hfault
    omega
  | case5 drain b rest fault' drain' h =>
    intro _
    have hsame := hnone h (by simp)
    rw [hsame, List.length_cons]
    omega

/-- **A drain takes all that it is offered, or reports a fault and has taken a part from the
front.** -/
theorem writeAll_adds (stalled : Fault) (drain : Drain) (bytes : List UInt8) :
    Adds drain.taken bytes (drain.writeAll stalled bytes).2.taken
      (drain.writeAll stalled bytes).1 := by
  have htook := drain.writeAll_took stalled bytes
  cases hresult : (drain.writeAll stalled bytes).1 with
  | ok => exact htook.whole (by rw [hresult]; rfl)
  | error fault =>
    obtain ⟨part, hpart, htaken⟩ := htook.front
    refine ⟨part, hpart, ?_, htaken⟩
    rintro rfl
    have hlength := length_writeAll_lt hresult
    rw [htaken, List.length_append] at hlength
    exact Nat.lt_irrefl _ hlength

namespace Buffered

/-! ## Passing on what is held back -/

/-- The bytes that a buffered drain was given: those that the drain took and those that are held
back. -/
def given (buffered : Buffered) : List UInt8 := buffered.drain.taken ++ buffered.held

/-- The buffer holds no more than it can hold. -/
def Fits (buffered : Buffered) : Prop := buffered.held.length ≤ buffered.capacity

variable (buffered : Buffered)

/-- Passing on what is held back loses nothing and adds nothing, also when it fails. -/
theorem given_pass : buffered.pass.2.given = buffered.given := by
  obtain ⟨part, ⟨later, hheld⟩, htaken⟩ :=
    (buffered.drain.writeAll_took stalled buffered.held).front
  have hlength := congrArg List.length htaken
  rw [List.length_append] at hlength
  have hdropped : (buffered.drain.writeAll stalled buffered.held).2.taken.length -
      buffered.drain.taken.length = part.length := by omega
  show (buffered.drain.writeAll stalled buffered.held).2.taken ++ buffered.held.drop
      ((buffered.drain.writeAll stalled buffered.held).2.taken.length -
        buffered.drain.taken.length) = buffered.drain.taken ++ buffered.held
  rw [hdropped, htaken, ← hheld, List.drop_left, List.append_assoc]

theorem held_pass_of_isOk (h : buffered.pass.1.isOk = true) : buffered.pass.2.held = [] := by
  have htaken := (buffered.drain.writeAll_took stalled buffered.held).whole h
  have hlength := congrArg List.length htaken
  rw [List.length_append] at hlength
  apply List.drop_eq_nil_of_le
  omega

theorem length_held_pass_le : buffered.pass.2.held.length ≤ buffered.held.length := by
  show (buffered.held.drop _).length ≤ _
  rw [List.length_drop]
  omega

theorem flushes_pass : buffered.pass.2.drain.flushes = buffered.drain.flushes :=
  flushes_writeAll stalled buffered.drain buffered.held

/-- There is nothing to pass on where nothing is held back. -/
theorem pass_of_held_nil {buffered : Buffered} (h : buffered.held = []) : buffered.pass = (.ok (), buffered) := by
  obtain ⟨drain, capacity, held⟩ := buffered
  obtain rfl : held = [] := h
  have hwrite : drain.writeAll stalled [] = (.ok (), drain) := by rw [Drain.writeAll]
  unfold pass
  dsimp only
  rw [hwrite, List.drop_nil]

/-! ## Writing -/

/-- Bytes are written on past the buffer only when nothing is held back. -/
theorem put_adds (bytes : List UInt8)
    (hroom : buffered.held = [] ∨ buffered.held.length + bytes.length ≤ buffered.capacity) :
    Adds buffered.given bytes (buffered.put bytes).2.given (buffered.put bytes).1 := by
  unfold put
  by_cases hfull : buffered.capacity ≤ bytes.length
  · have hempty : buffered.held = [] := by
      rcases hroom with hempty | hroom
      · exact hempty
      · apply List.eq_nil_of_length_eq_zero
        omega
    rw [if_pos hfull]
    show Adds (_ ++ buffered.held) bytes (_ ++ buffered.held) _
    rw [hempty, List.append_nil, List.append_nil]
    exact writeAll_adds stalledFile buffered.drain bytes
  · rw [if_neg hfull]
    show buffered.drain.taken ++ (buffered.held ++ bytes) = _
    rw [← List.append_assoc]
    rfl

theorem put_fits {buffered : Buffered} (hfits : buffered.Fits) {bytes : List UInt8}
    (hroom : buffered.held = [] ∨ buffered.held.length + bytes.length ≤ buffered.capacity) :
    (buffered.put bytes).2.Fits := by
  unfold put
  by_cases hfull : buffered.capacity ≤ bytes.length
  · rw [if_pos hfull]
    exact hfits
  · rw [if_neg hfull]
    show (buffered.held ++ bytes).length ≤ buffered.capacity
    rw [List.length_append]
    rcases hroom with hempty | hroom
    · rw [hempty, List.length_nil]
      omega
    · exact hroom

theorem flushes_put (bytes : List UInt8) :
    (buffered.put bytes).2.drain.flushes = buffered.drain.flushes := by
  unfold put
  split
  · exact flushes_writeAll stalledFile buffered.drain bytes
  · rfl

/-- A write puts the bytes into a buffer that has room for them or is empty; or it fails before
it comes to them, because there was no room and what is held back could not be passed on. -/
theorem writeAll_cases (bytes : List UInt8) :
    (∃ emptied : Buffered, buffered.writeAll bytes = emptied.put bytes ∧
        emptied.given = buffered.given ∧ emptied.capacity = buffered.capacity ∧
        emptied.drain.flushes = buffered.drain.flushes ∧
        emptied.held.length ≤ buffered.held.length ∧
        (emptied.held = [] ∨ emptied.held.length + bytes.length ≤ emptied.capacity)) ∨
      ∃ fault, buffered.writeAll bytes = (.error fault, buffered.pass.2) ∧
        buffered.capacity < buffered.held.length + bytes.length := by
  unfold writeAll
  by_cases hfull : buffered.capacity < buffered.held.length + bytes.length
  · rw [if_pos hfull]
    rcases hpass : buffered.pass with ⟨fault | _, passed⟩
    · exact .inr ⟨fault, rfl, hfull⟩
    · have hgiven := buffered.given_pass
      have hflushes := buffered.flushes_pass
      have hheld := buffered.length_held_pass_le
      have hempty := buffered.held_pass_of_isOk (by rw [hpass]; rfl)
      have hcapacity : buffered.pass.2.capacity = buffered.capacity := rfl
      rw [hpass] at hgiven hflushes hheld hempty hcapacity
      exact .inl ⟨passed, rfl, hgiven, hcapacity, hflushes, hheld, .inl hempty⟩
  · rw [if_neg hfull]
    exact .inl ⟨buffered, rfl, rfl, rfl, rfl, Nat.le_refl _, .inr (Nat.le_of_not_lt hfull)⟩

/-- **A buffered drain is given all that is written to it, or a part from the front of what it
fails to write.** -/
theorem writeAll_adds {buffered : Buffered} (hfits : buffered.Fits) (bytes : List UInt8) :
    Adds buffered.given bytes (buffered.writeAll bytes).2.given (buffered.writeAll bytes).1 := by
  rcases buffered.writeAll_cases bytes with ⟨emptied, heq, hgiven, -, -, -, hroom⟩ | ⟨fault, heq, hfull⟩
  · rw [heq, ← hgiven]
    exact emptied.put_adds bytes hroom
  · rw [heq]
    -- Had there been no bytes to write, what is held back would have fitted.
    refine ⟨[], List.nil_prefix, ?_, ?_⟩
    · rintro rfl
      have hheld : buffered.held.length ≤ buffered.capacity := hfits
      rw [List.length_nil] at hfull
      omega
    · rw [List.append_nil]
      exact buffered.given_pass

theorem writeAll_fits {buffered : Buffered} (hfits : buffered.Fits) (bytes : List UInt8) :
    (buffered.writeAll bytes).2.Fits := by
  have hheld : buffered.held.length ≤ buffered.capacity := hfits
  rcases buffered.writeAll_cases bytes with ⟨emptied, heq, -, hcapacity, -, hle, hroom⟩ | ⟨fault, heq, -⟩
  · rw [heq]
    refine put_fits ?_ hroom
    show emptied.held.length ≤ emptied.capacity
    omega
  · rw [heq]
    exact Nat.le_trans buffered.length_held_pass_le hfits

theorem flushes_writeAll (bytes : List UInt8) :
    (buffered.writeAll bytes).2.drain.flushes = buffered.drain.flushes := by
  rcases buffered.writeAll_cases bytes with ⟨emptied, heq, -, -, hflushes, -⟩ | ⟨fault, heq, -⟩
  · rw [heq, flushes_put, hflushes]
  · rw [heq]
    exact buffered.flushes_pass

theorem capacity_writeAll (bytes : List UInt8) :
    (buffered.writeAll bytes).2.capacity = buffered.capacity := by
  have hput (emptied : Buffered) : (emptied.put bytes).2.capacity = emptied.capacity := by
    unfold put
    split <;> rfl
  rcases buffered.writeAll_cases bytes with ⟨emptied, heq, -, hcapacity, -⟩ | ⟨fault, heq, -⟩
  · rw [heq, hput, hcapacity]
  · rw [heq]
    rfl

/-! ## Flushing -/

/-- A flush fails with what could not be passed on, or flushes the drain. -/
theorem flush_cases :
    buffered.flush.2 = buffered.pass.2 ∨
      buffered.flush.2 = { buffered.pass.2 with drain := buffered.pass.2.drain.flush.2 } := by
  unfold flush
  rcases buffered.pass with ⟨fault | _, passed⟩
  · exact .inl rfl
  · exact .inr rfl

/-- A flush gives nothing to a drain. -/
theorem given_flush : buffered.flush.2.given = buffered.given := by
  rcases buffered.flush_cases with heq | heq
  · rw [heq, given_pass]
  · rw [heq]
    show buffered.pass.2.drain.flush.2.taken ++ buffered.pass.2.held = buffered.given
    rw [flush_taken]
    exact buffered.given_pass

theorem flush_fits {buffered : Buffered} (hfits : buffered.Fits) : buffered.flush.2.Fits := by
  have hpass : buffered.pass.2.Fits := Nat.le_trans buffered.length_held_pass_le hfits
  rcases buffered.flush_cases with heq | heq
  · rw [heq]
    exact hpass
  · rw [heq]
    exact hpass

theorem capacity_flush : buffered.flush.2.capacity = buffered.capacity := by
  rcases buffered.flush_cases with heq | heq
  · rw [heq]
    rfl
  · rw [heq]
    rfl

/-- Where nothing is held back, a flush is one flush of the drain and nothing else. -/
theorem flush_of_held_nil {buffered : Buffered} (h : buffered.held = []) :
    buffered.flush.2 = { buffered with drain := buffered.drain.flush.2 } := by
  unfold flush
  rw [pass_of_held_nil h]

/-! ## One write after another -/

/-- Writes some bytes after others, whether or not each write succeeds. -/
def writeEach (buffered : Buffered) (parts : List (List UInt8)) : Buffered :=
  parts.foldl (fun buffered bytes => (buffered.writeAll bytes).2) buffered

theorem writeEach_fits {buffered : Buffered} (hfits : buffered.Fits) (parts : List (List UInt8)) :
    (buffered.writeEach parts).Fits := by
  induction parts generalizing buffered with
  | nil => exact hfits
  | cons bytes rest ih => exact ih (writeAll_fits hfits bytes)

theorem flushes_writeEach (parts : List (List UInt8)) :
    (buffered.writeEach parts).drain.flushes = buffered.drain.flushes := by
  induction parts generalizing buffered with
  | nil => rfl
  | cons bytes rest ih => exact (ih _).trans (buffered.flushes_writeAll bytes)

theorem capacity_writeEach (parts : List (List UInt8)) :
    (buffered.writeEach parts).capacity = buffered.capacity := by
  induction parts generalizing buffered with
  | nil => rfl
  | cons bytes rest ih => exact (ih _).trans (buffered.capacity_writeAll bytes)

/-- A buffer that can hold nothing holds nothing. -/
theorem Fits.held_eq_nil {buffered : Buffered} (h : buffered.Fits)
    (hcapacity : buffered.capacity = 0) : buffered.held = [] := by
  have hlength : buffered.held.length ≤ buffered.capacity := h
  apply List.eq_nil_of_length_eq_zero
  omega

end Buffered

end Screencast.Drain
