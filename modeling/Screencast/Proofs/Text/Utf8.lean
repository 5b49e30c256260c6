/-
Text that is written as UTF-8, read leniently and cut to a given room.

A character that has been begun can still come to certain numbers only: those
that start with the bits read so far and go on with a byte that is awaited
(`Partial.Reaches`). Two results are read off that. A first byte that is written
reaches the number of its character (`written`), so that what was written is
read back (`decodeLossy_encode`). And every number that can be reached is that
of a character beyond ASCII (`Partial.Proper`), so that a NUL is only ever read
where a NUL byte stands (`getLast?_decodeLossy`).

`fit` is the longest opening part of a text that takes up no more than a given
number of bytes (`fits_fit`), and going back from there to a place at which the
text can be cut finds the end of it (`take_lastBoundary`).
-/
import Screencast.Text.Utf8

namespace Screencast.Utf8

/-! ## Characters in progress -/

/-- A number without the bits that its last `n` continuations bring. -/
def leading : Nat → Nat → Nat
  | 0, code => code
  | n + 1, code => leading n code / 64

@[simp] theorem leading_zero (code : Nat) : leading 0 code = code := rfl

@[simp] theorem leading_succ (n code : Nat) : leading (n + 1) code = leading n code / 64 := rfl

namespace Partial

/-- A number that the character in progress can still come to: it starts with the bits read so far,
and its next byte is one that is awaited. -/
structure Reaches (part : Partial) (code : Nat) : Prop where
  read : part.code = leading (part.owed + 1) code
  low_le : part.low ≤ leading part.owed code % 64 + 0x80
  le_high : leading part.owed code % 64 + 0x80 ≤ part.high

/-- A character in progress awaits continuations only, and whatever it can come to is a character
beyond ASCII. -/
structure Proper (part : Partial) : Prop where
  low : 0x80 ≤ part.low
  high : part.high ≤ 0xBF
  reaches : ∀ code, part.Reaches code → 0x80 ≤ code ∧ code.isValidChar

/-- A byte that is awaited leaves only numbers that could be reached before it. -/
theorem Reaches.of_next {part : Partial} {byte : Nat} (hlow : 0x80 ≤ part.low)
    (hhigh : part.high ≤ 0xBF) (hbyte : part.low ≤ byte ∧ byte ≤ part.high) {code : Nat}
    (h : part.code * 0x40 + byte % 0x40 = leading part.owed code) : part.Reaches code := by
  have hnext : leading part.owed code % 64 + 0x80 = byte := by omega
  refine ⟨?_, by omega, by omega⟩
  rw [leading_succ]
  omega

theorem Proper.of_next {owed low high code byte : Nat} (h : Proper ⟨owed + 1, low, high, code⟩)
    (hbyte : low ≤ byte ∧ byte ≤ high) :
    Proper ⟨owed, 0x80, 0xBF, code * 0x40 + byte % 0x40⟩ := by
  refine ⟨Nat.le_refl _, Nat.le_refl _, ?_⟩
  intro later hlater
  exact h.reaches later (.of_next h.low h.high hbyte hlater.read)

end Partial

/-! ## First bytes -/

theorem first_one {byte : Nat} (h : byte < 0x80) : first byte = ([Char.ofNat byte], none) := by
  rw [first, if_pos h]

theorem first_two {byte : Nat} (hlow : 0xC2 ≤ byte) (hhigh : byte < 0xE0) :
    first byte = ([], some ⟨0, 0x80, 0xBF, byte % 0x20⟩) := by
  rw [first, if_neg (by omega), if_neg (by omega), if_pos hhigh]

theorem first_three {byte : Nat} (hlow : 0xE0 ≤ byte) (hhigh : byte < 0xF0) :
    first byte = ([], some ⟨1, if byte = 0xE0 then 0xA0 else 0x80,
      if byte = 0xED then 0x9F else 0xBF, byte % 0x10⟩) := by
  rw [first, if_neg (by omega), if_neg (by omega), if_neg (by omega)]
  by_cases he0 : byte = 0xE0
  · subst he0
    rfl
  by_cases hed : byte = 0xED
  · subst hed
    rfl
  rw [if_neg he0, if_neg hed, if_pos hhigh, if_neg he0, if_neg hed]

theorem first_four {byte : Nat} (hlow : 0xF0 ≤ byte) (hhigh : byte < 0xF5) :
    first byte = ([], some ⟨2, if byte = 0xF0 then 0x90 else 0x80,
      if byte = 0xF4 then 0x8F else 0xBF, byte % 0x08⟩) := by
  rw [first, if_neg (by omega), if_neg (by omega), if_neg (by omega), if_neg (by omega),
    if_neg (by omega), if_neg (by omega)]
  by_cases hf0 : byte = 0xF0
  · subst hf0
    rfl
  by_cases hf4 : byte = 0xF4
  · subst hf4
    rfl
  rw [if_neg hf0, if_pos (by omega), if_neg hf0, if_neg hf4]

/-- Any other byte begins no character. -/
theorem first_none {byte : Nat} (h : 0x80 ≤ byte ∧ byte < 0xC2 ∨ 0xF5 ≤ byte) :
    first byte = ([replacement], none) := by
  rcases h with ⟨hlow, hhigh⟩ | h
  · rw [first, if_neg (by omega), if_pos hhigh]
  · rw [first, if_neg (by omega), if_neg (by omega), if_neg (by omega), if_neg (by omega),
      if_neg (by omega), if_neg (by omega), if_neg (by omega), if_neg (by omega),
      if_neg (by omega)]

/-! ## Written characters -/

/-- The last bytes of a character with the given number. -/
def continuation : Nat → Nat → List UInt8
  | 0, _ => []
  | n + 1, code => UInt8.ofNat (leading n code % 64 + 0x80) :: continuation n code

/-- The bytes that a character is written as. -/
inductive Written (c : Char) : List UInt8 → Prop
  | ascii (hcode : c.val.toNat < 0x80) : Written c [UInt8.ofNat c.val.toNat]
  | longer {byte : Nat} {part : Partial} (hlow : 0xC2 ≤ byte) (hhigh : byte < 0xF5)
      (hfirst : first byte = ([], some part)) (hreaches : part.Reaches c.val.toNat) :
      Written c (UInt8.ofNat byte :: continuation (part.owed + 1) c.val.toNat)

theorem written (c : Char) : Written c (String.utf8EncodeChar c) := by
  have hvalid : c.val.toNat < 0xD800 ∨ 0xDFFF < c.val.toNat ∧ c.val.toNat < 0x110000 := c.valid
  fun_cases String.utf8EncodeChar c with
  | case1 v hone => exact .ascii (by omega)
  | case2 v hone htwo =>
    have hfirst : first (v / 64 % 32 + 0xC0) = _ := first_two (by omega) (by omega)
    have hreaches : Partial.Reaches ⟨0, 0x80, 0xBF, (v / 64 % 32 + 0xC0) % 0x20⟩ v := by
      constructor <;> simp only [leading_succ, leading_zero] <;> omega
    have hwritten := Written.longer (by omega) (by omega) hfirst hreaches
    simp only [continuation, leading_zero] at hwritten
    exact hwritten
  | case3 v hone htwo hthree =>
    have hfirst : first (v / 4096 % 16 + 0xE0) = _ := first_three (by omega) (by omega)
    have hreaches : Partial.Reaches ⟨1, if v / 4096 % 16 + 0xE0 = 0xE0 then 0xA0 else 0x80,
        if v / 4096 % 16 + 0xE0 = 0xED then 0x9F else 0xBF, (v / 4096 % 16 + 0xE0) % 0x10⟩ v := by
      refine ⟨?_, ?_, ?_⟩ <;> simp only [leading_succ, leading_zero]
      · omega
      · split <;> omega
      · split <;> omega
    have hwritten := Written.longer (by omega) (by omega) hfirst hreaches
    simp only [continuation, leading_succ, leading_zero] at hwritten
    exact hwritten
  | case4 v hone htwo hthree =>
    have hfirst : first (v / 262144 % 8 + 0xF0) = _ := first_four (by omega) (by omega)
    have hreaches : Partial.Reaches ⟨2, if v / 262144 % 8 + 0xF0 = 0xF0 then 0x90 else 0x80,
        if v / 262144 % 8 + 0xF0 = 0xF4 then 0x8F else 0xBF, (v / 262144 % 8 + 0xF0) % 0x08⟩ v := by
      refine ⟨?_, ?_, ?_⟩ <;> simp only [leading_succ, leading_zero]
      · omega
      · split <;> omega
      · split <;> omega
    have hwritten := Written.longer (by omega) (by omega) hfirst hreaches
    simp only [continuation, leading_succ, leading_zero, Nat.div_div_eq_div_mul] at hwritten
    exact hwritten

theorem isContinuation_ofNat {n : Nat} (h : n < 256) :
    isContinuation (UInt8.ofNat n) = true ↔ 0x80 ≤ n ∧ n < 0xC0 := by
  have hn : (UInt8.ofNat n).toNat = n := UInt8.toNat_ofNat_of_lt' h
  simp [isContinuation, UInt8.le_iff_toNat_le, UInt8.lt_iff_toNat_lt, hn]

/-- The bytes after the first one of a character are continuations. -/
theorem isContinuation_of_mem {n code : Nat} {byte : UInt8} (h : byte ∈ continuation n code) :
    isContinuation byte = true := by
  induction n with
  | zero => cases h
  | succ n ih =>
    rcases List.mem_cons.mp h with rfl | hlater
    · exact (isContinuation_ofNat (by omega)).mpr (by omega)
    · exact ih hlater

/-- A character is written as a byte that begins it and continuations. -/
theorem exists_first (c : Char) :
    ∃ byte later, String.utf8EncodeChar c = byte :: later ∧ isContinuation byte = false ∧
      ∀ other ∈ later, isContinuation other = true := by
  have hwritten := written c
  generalize String.utf8EncodeChar c = bytes at hwritten ⊢
  cases hwritten with
  | ascii hcode =>
    refine ⟨_, [], rfl, ?_, nofun⟩
    rw [Bool.eq_false_iff, ne_eq, isContinuation_ofNat (by omega)]
    omega
  | longer hlow hhigh =>
    refine ⟨_, _, rfl, ?_, fun _ => isContinuation_of_mem⟩
    rw [Bool.eq_false_iff, ne_eq, isContinuation_ofNat (by omega)]
    omega

/-- A NUL byte is written for a NUL only. -/
theorem eq_nul_of_zero_mem {c : Char} (h : 0 ∈ String.utf8EncodeChar c) : c = '\x00' := by
  have hwritten := written c
  generalize String.utf8EncodeChar c = bytes at hwritten h
  cases hwritten with
  | ascii hcode =>
    have hzero : c.val.toNat % 2 ^ 8 = 0 := by
      rw [← UInt8.toNat_ofNat', ← List.mem_singleton.mp h]
      rfl
    have hcode : c.val.toNat = 0 := by omega
    exact (Char.ofNat_toNat c).symm.trans (congrArg Char.ofNat hcode)
  | @longer byte _ hlow hhigh =>
    rcases List.mem_cons.mp h with hbyte | hlater
    · have hzero : byte % 2 ^ 8 = 0 := by
        rw [← UInt8.toNat_ofNat', ← hbyte]
        rfl
      omega
    · exact absurd (isContinuation_of_mem hlater) (by decide)

/-! ## Reading what was written -/

/-- The next byte of a number that can be reached is awaited, and brings its bits. -/
theorem next_of_reaches {owed low high read code : Nat}
    (h : Partial.Reaches ⟨owed, low, high, read⟩ code) :
    next (some ⟨owed, low, high, read⟩) (leading owed code % 64 + 0x80) =
      match owed with
      | 0 => ([Char.ofNat code], none)
      | left + 1 => ([], some ⟨left, 0x80, 0xBF, leading (left + 1) code⟩) := by
  obtain ⟨hread, hlow, hhigh⟩ := h
  dsimp only at hread hlow hhigh
  have hbits : read * 0x40 + (leading owed code % 64 + 0x80) % 0x40 = leading owed code := by
    rw [hread, leading_succ]
    omega
  rw [next]
  dsimp only
  rw [if_pos ⟨hlow, hhigh⟩, hbits]
  cases owed with
  | zero => rfl
  | succ left => rfl

/-- A character in progress is completed by the bytes that a number it can come to ends in. -/
theorem decodeFrom_continuation {part : Partial} {code : Nat} (h : part.Reaches code)
    (rest : List UInt8) :
    decodeFrom (some part) (continuation (part.owed + 1) code ++ rest) =
      Char.ofNat code :: decodeFrom none rest := by
  have hbyte (n : Nat) : (UInt8.ofNat (leading n code % 64 + 0x80)).toNat =
      leading n code % 64 + 0x80 :=
    UInt8.toNat_ofNat_of_lt' (by show _ < 256; omega)
  obtain ⟨owed, low, high, read⟩ := part
  induction owed generalizing low high read with
  | zero =>
    rw [continuation, List.cons_append, decodeFrom, hbyte, next_of_reaches h]
    rfl
  | succ left ih =>
    rw [continuation, List.cons_append, decodeFrom, hbyte, next_of_reaches h]
    -- What is awaited now is any continuation, so the number is still reached.
    have hlater : Partial.Reaches ⟨left, 0x80, 0xBF, leading (left + 1) code⟩ code :=
      ⟨rfl, by dsimp only; omega, by dsimp only; omega⟩
    exact ih _ _ _ hlater

/-- A character that was written is read back, and what follows it is read on its own. -/
theorem decodeFrom_encodeChar (c : Char) (rest : List UInt8) :
    decodeFrom none (String.utf8EncodeChar c ++ rest) = c :: decodeFrom none rest := by
  have hwritten := written c
  have hback : Char.ofNat c.val.toNat = c := Char.ofNat_toNat c
  generalize String.utf8EncodeChar c = bytes at hwritten ⊢
  cases hwritten with
  | ascii hcode =>
    have hbyte : (UInt8.ofNat c.val.toNat).toNat = c.val.toNat :=
      UInt8.toNat_ofNat_of_lt' (Nat.lt_trans hcode (by decide))
    rw [List.singleton_append, decodeFrom, hbyte, next, first_one hcode, hback]
    rfl
  | @longer byte _ hlow hhigh hfirst hreaches =>
    have hbyte : (UInt8.ofNat byte).toNat = byte :=
      UInt8.toNat_ofNat_of_lt' (Nat.lt_trans hhigh (by decide))
    have hrest := decodeFrom_continuation hreaches rest
    rw [hback] at hrest
    rw [List.cons_append, decodeFrom, hbyte, next, hfirst]
    exact hrest

/-- **What was written is read back.** -/
theorem decodeLossy_encode (text : List Char) : decodeLossy (encode text) = text := by
  induction text with
  | nil => rfl
  | cons c rest ih =>
    rw [decodeLossy, encode_cons, decodeFrom_encodeChar]
    exact congrArg (c :: ·) ih

/-- Bytes come back when they are read and written again just if they are valid. -/
theorem encode_decodeLossy_iff {bytes : List UInt8} :
    encode (decodeLossy bytes) = bytes ↔ bytes.toByteArray.IsValidUTF8 := by
  constructor
  · intro h
    exact ⟨decodeLossy bytes, congrArg List.toByteArray h.symm⟩
  · rintro ⟨text, htext⟩
    have hbytes : encode text = bytes := by
      have hlists := congrArg (fun array => array.data.toList) htext
      simpa [List.utf8Encode, encode] using hlists.symm
    rw [← hbytes, decodeLossy_encode]

/-! ## NULs that are read -/

theorem ofNat_ne_nul {code : Nat} (hvalid : code.isValidChar) (h : code ≠ 0) :
    Char.ofNat code ≠ '\x00' := by
  intro hnul
  rw [Char.ofNat, dif_pos hvalid] at hnul
  exact h (congrArg Char.toNat hnul)

/-- What holds of a byte that was read: the text it adds, and the character that is in progress
after it. -/
structure Reads (byte : Nat) (read : List Char × Option Partial) : Prop where
  proper : ∀ part ∈ read.2, part.Proper
  /-- A NUL is read at a NUL byte only. -/
  nul : '\x00' ∈ read.1 → byte = 0
  /-- A byte adds text unless a character is in progress after it. -/
  shown : read.2 = none → read.1 ≠ []

theorem Reads.of_replacement (byte : Nat) : Reads byte ([replacement], none) where
  proper := by simp
  nul := by
    intro hnul
    exact absurd (List.mem_singleton.mp hnul) (by decide)
  shown := by simp

theorem Reads.of_proper {byte : Nat} {part : Partial} (h : part.Proper) :
    Reads byte ([], some part) where
  proper := by simpa using h
  nul := by simp
  shown := by simp

/-- A character of two bytes is beyond ASCII, as its first byte is above 0xC1. -/
theorem proper_two {byte : Nat} (hlow : 0xC2 ≤ byte) (hhigh : byte < 0xE0) :
    Partial.Proper ⟨0, 0x80, 0xBF, byte % 0x20⟩ := by
  refine ⟨Nat.le_refl _, Nat.le_refl _, ?_⟩
  rintro code ⟨hread, -, -⟩
  simp only [leading_succ, leading_zero] at hread
  exact ⟨by omega, Or.inl (by omega)⟩

/-- The lower bound of the second byte rules overlong forms out, and the upper one the surrogates. -/
theorem proper_three {byte : Nat} (hlow : 0xE0 ≤ byte) (hhigh : byte < 0xF0) :
    Partial.Proper ⟨1, if byte = 0xE0 then 0xA0 else 0x80, if byte = 0xED then 0x9F else 0xBF,
      byte % 0x10⟩ := by
  refine ⟨by dsimp only; split <;> omega, by dsimp only; split <;> omega, ?_⟩
  rintro code ⟨hread, hlow', hhigh'⟩
  simp only [leading_succ, leading_zero] at hread hlow' hhigh'
  show _ ∧ (code < 0xD800 ∨ 0xDFFF < code ∧ code < 0x110000)
  split at hlow' <;> split at hhigh' <;> omega

/-- The lower bound of the second byte rules overlong forms out, and the upper one what is beyond the
last character. -/
theorem proper_four {byte : Nat} (hlow : 0xF0 ≤ byte) (hhigh : byte < 0xF5) :
    Partial.Proper ⟨2, if byte = 0xF0 then 0x90 else 0x80, if byte = 0xF4 then 0x8F else 0xBF,
      byte % 0x08⟩ := by
  refine ⟨by dsimp only; split <;> omega, by dsimp only; split <;> omega, ?_⟩
  rintro code ⟨hread, hlow', hhigh'⟩
  simp only [leading_succ, leading_zero] at hread hlow' hhigh'
  show _ ∧ (code < 0xD800 ∨ 0xDFFF < code ∧ code < 0x110000)
  split at hlow' <;> split at hhigh' <;> omega

theorem first_reads (byte : Nat) : Reads byte (first byte) := by
  by_cases hone : byte < 0x80
  · rw [first_one hone]
    refine ⟨by simp, ?_, by simp⟩
    intro hnul
    by_cases hbyte : byte = 0
    · exact hbyte
    · exact absurd (List.mem_singleton.mp hnul).symm (ofNat_ne_nul (Or.inl (by omega)) hbyte)
  by_cases htwo : 0xC2 ≤ byte ∧ byte < 0xE0
  · rw [first_two htwo.1 htwo.2]
    exact .of_proper (proper_two htwo.1 htwo.2)
  by_cases hthree : 0xE0 ≤ byte ∧ byte < 0xF0
  · rw [first_three hthree.1 hthree.2]
    exact .of_proper (proper_three hthree.1 hthree.2)
  by_cases hfour : 0xF0 ≤ byte ∧ byte < 0xF5
  · rw [first_four hfour.1 hfour.2]
    exact .of_proper (proper_four hfour.1 hfour.2)
  · rw [first_none (by omega)]
    exact .of_replacement byte

theorem next_reads {state : Option Partial} (hstate : ∀ part ∈ state, part.Proper) (byte : Nat) :
    Reads byte (next state byte) := by
  match state, hstate with
  | none, _ => exact first_reads byte
  | some ⟨owed, low, high, code⟩, hstate =>
    have hproper := hstate _ rfl
    rw [next]
    dsimp only
    by_cases hbyte : low ≤ byte ∧ byte ≤ high
    · rw [if_pos hbyte]
      cases owed with
      | zero =>
        -- The character is complete, and its number is one that it could come to.
        have hreached := hproper.reaches (code * 0x40 + byte % 0x40)
          (.of_next hproper.low hproper.high hbyte rfl)
        refine ⟨by simp, ?_, by simp⟩
        intro hnul
        exact absurd (List.mem_singleton.mp hnul).symm (ofNat_ne_nul hreached.2 (by omega))
      | succ left => exact .of_proper (hproper.of_next hbyte)
    · rw [if_neg hbyte]
      have hfirst := first_reads byte
      refine ⟨hfirst.proper, ?_, by simp⟩
      intro hnul
      rcases List.mem_cons.mp hnul with hreplacement | hmem
      · exact absurd hreplacement (by decide)
      · exact hfirst.nul hmem

/-- Bytes that do not end in a NUL byte are read as text that does not end in a NUL. -/
theorem decodeFrom_concat {state : Option Partial} (hstate : ∀ part ∈ state, part.Proper)
    (bytes : List UInt8) {last : UInt8} (hlast : last ≠ 0) :
    ∃ front c, decodeFrom state (bytes ++ [last]) = front ++ [c] ∧ c ≠ '\x00' := by
  induction bytes generalizing state with
  | nil =>
    have hread := next_reads hstate last.toNat
    rw [List.nil_append, decodeFrom]
    rcases hnext : next state last.toNat with ⟨text, _ | part⟩
    · -- The text that the last byte adds is not empty.
      rw [hnext] at hread
      have hne := hread.shown rfl
      refine ⟨text.dropLast, text.getLast hne, ?_, ?_⟩
      · rw [List.dropLast_concat_getLast]
        exact List.append_nil text
      · intro hnul
        have hzero := hread.nul (hnul ▸ List.getLast_mem hne)
        exact hlast (UInt8.toNat_inj.mp hzero)
    · -- The last byte leaves a character unfinished.
      exact ⟨text, replacement, rfl, by decide⟩
  | cons byte rest ih =>
    have hread := next_reads hstate byte.toNat
    obtain ⟨front, c, hrest, hc⟩ := ih hread.proper
    refine ⟨(next state byte.toNat).1 ++ front, c, ?_, hc⟩
    rw [List.cons_append, decodeFrom, List.append_assoc, ← hrest]

/-- **A text that is read ends in a NUL only where the bytes do.** -/
theorem getLast?_decodeLossy {bytes : List UInt8} (h : bytes.getLast? ≠ some 0) :
    (decodeLossy bytes).getLast? ≠ some '\x00' := by
  rcases List.eq_nil_or_concat bytes with rfl | ⟨front, last, rfl⟩
  · exact nofun
  · rw [List.concat_eq_append] at h ⊢
    have hlast : last ≠ 0 := by simpa using h
    have hnone : ∀ part ∈ (none : Option Partial), part.Proper := nofun
    obtain ⟨text, c, htext, hc⟩ := decodeFrom_concat hnone front hlast
    rw [decodeLossy, htext, List.getLast?_concat]
    exact fun heq => hc (Option.some.inj heq)

/-! ## Places to cut -/

theorem isBoundary_encode (front back : List Char) :
    isBoundary (encode (front ++ back)) (encode front).length = true := by
  rw [isBoundary, encode_append, List.getElem?_append_right (Nat.le_refl _), Nat.sub_self]
  cases back with
  | nil => simp
  | cons c rest =>
    obtain ⟨byte, later, hbytes, hbyte, -⟩ := exists_first c
    rw [encode_cons, hbytes]
    simp [hbyte]

/-- Inside a character there is no place to cut. -/
theorem isBoundary_inside (front : List Char) (c : Char) (back : List Char) {inside : Nat}
    (hpos : 0 < inside) (hlt : inside < c.utf8Size) :
    isBoundary (encode (front ++ c :: back)) ((encode front).length + inside) = false := by
  obtain ⟨byte, later, hbytes, -, hlater⟩ := exists_first c
  have hsize : later.length + 1 = c.utf8Size := by
    rw [← String.length_utf8EncodeChar, hbytes, List.length_cons]
  obtain ⟨n, rfl⟩ : ∃ n, inside = n + 1 := ⟨inside - 1, by omega⟩
  have hn : n < later.length := by omega
  have hbyte : (encode (front ++ c :: back))[(encode front).length + (n + 1)]? = some later[n] := by
    rw [encode_append, List.getElem?_append_right (by omega), Nat.add_sub_cancel_left, encode_cons,
      hbytes, List.cons_append, List.getElem?_cons_succ, List.getElem?_append_left hn,
      List.getElem?_eq_getElem hn]
  rw [isBoundary, hbyte]
  simp [hlater _ (List.getElem_mem hn)]

/-- The last place to cut is one behind which there is none. -/
theorem lastBoundary_eq {bytes : List UInt8} {cut place : Nat} (hle : cut ≤ place)
    (hcut : isBoundary bytes cut = true)
    (hnone : ∀ later, cut < later → later ≤ place → isBoundary bytes later = false) :
    lastBoundary bytes place = cut := by
  induction place with
  | zero =>
    obtain rfl : cut = 0 := by omega
    rfl
  | succ place ih =>
    rw [lastBoundary]
    by_cases heq : cut = place + 1
    · rw [← heq, if_pos hcut]
    · rw [hnone (place + 1) (by omega) (Nat.le_refl _), if_neg Bool.false_ne_true]
      exact ih (by omega) fun later hlt hlater => hnone later hlt (by omega)

/-! ## What fits -/

/-- The longest opening part of a text that takes up at most `room` bytes. -/
structure Fits (room : Nat) (text part : List Char) : Prop where
  opening : part <+: text
  room_le : (encode part).length ≤ room
  longest : ∀ other, other <+: text → (encode other).length ≤ room → other <+: part

/-- The longest opening part of a text that takes up at most `room` bytes, found from the front. -/
def fit : Nat → List Char → List Char
  | _, [] => []
  | room, c :: rest => if c.utf8Size ≤ room then c :: fit (room - c.utf8Size) rest else []

/-- What fits takes up no more than the room given. -/
theorem length_encode_fit_le (room : Nat) (text : List Char) :
    (encode (fit room text)).length ≤ room := by
  induction text generalizing room with
  | nil => exact Nat.zero_le room
  | cons c rest ih =>
    rw [fit]
    split
    · next hfits =>
      have hrest := ih (room - c.utf8Size)
      rw [encode_cons, List.length_append, String.length_utf8EncodeChar]
      omega
    · exact Nat.zero_le room

/-- What fits is an opening part. -/
theorem fit_opening (room : Nat) (text : List Char) : fit room text <+: text := by
  induction text generalizing room with
  | nil => exact List.nil_prefix
  | cons c rest ih =>
    rw [fit]
    split
    · exact List.cons_prefix_cons.mpr ⟨rfl, ih _⟩
    · exact List.nil_prefix

/-- Every opening part that takes up no more than the room is part of what fits. -/
theorem prefix_fit {room : Nat} {part text : List Char} (h : part <+: text)
    (hroom : (encode part).length ≤ room) : part <+: fit room text := by
  induction part generalizing room text with
  | nil => exact List.nil_prefix
  | cons c part ih =>
    obtain ⟨rest, rfl⟩ : ∃ rest, text = c :: rest := by
      obtain ⟨more, rfl⟩ := h
      exact ⟨part ++ more, rfl⟩
    rw [encode_cons, List.length_append, String.length_utf8EncodeChar] at hroom
    rw [fit, if_pos (by omega)]
    exact List.cons_prefix_cons.mpr ⟨rfl, ih (List.cons_prefix_cons.mp h).2 (by omega)⟩

theorem fits_fit (room : Nat) (text : List Char) : Fits room text (fit room text) where
  opening := fit_opening room text
  room_le := length_encode_fit_le room text
  longest := fun _ hother hroom => prefix_fit hother hroom

/-- A text that takes up no more than the room fits whole. -/
theorem fit_eq_self {room : Nat} {text : List Char} (h : (encode text).length ≤ room) :
    fit room text = text :=
  (fit_opening room text).eq_of_length_le (prefix_fit List.prefix_rfl h).length_le

/-- A text fits whole, or there is no room left for the next character. -/
theorem fit_cases (room : Nat) (text : List Char) :
    fit room text = text ∨ ∃ c rest, text = fit room text ++ c :: rest ∧
      room < (encode (fit room text)).length + c.utf8Size := by
  induction text generalizing room with
  | nil => exact .inl rfl
  | cons c rest ih =>
    by_cases hfits : c.utf8Size ≤ room
    · rw [fit, if_pos hfits]
      rcases ih (room - c.utf8Size) with hwhole | ⟨c', rest', hrest, hroom⟩
      · exact .inl (by rw [hwhole])
      · refine .inr ⟨c', rest', ?_, ?_⟩
        · rw [List.cons_append, ← hrest]
        · rw [encode_cons, List.length_append, String.length_utf8EncodeChar]
          omega
    · rw [fit, if_neg hfits]
      exact .inr ⟨c, rest, rfl, by simpa using hfits⟩

/-- Going back from the room that there is to a place to cut finds the end of what fits. -/
theorem lastBoundary_encode (room : Nat) (text : List Char) :
    lastBoundary (encode text) (min (encode text).length room) =
      (encode (fit room text)).length := by
  have hroom := length_encode_fit_le room text
  obtain ⟨rest, hrest⟩ := fit_opening room text
  have hlength : (encode text).length = (encode (fit room text)).length + (encode rest).length := by
    rw [← List.length_append, ← encode_append, hrest]
  apply lastBoundary_eq (by omega)
  · -- What fits ends at a place to cut.
    have hboundary := isBoundary_encode (fit room text) rest
    rwa [hrest] at hboundary
  · intro later hlt hle
    rcases fit_cases room text with hwhole | ⟨c, more, htext, hfull⟩
    · -- There is nothing behind the whole text.
      rw [hwhole] at hlt
      omega
    · -- Any place up to the room is inside the first character that does not fit.
      obtain ⟨inside, rfl⟩ : ∃ inside, later = (encode (fit room text)).length + inside :=
        ⟨later - (encode (fit room text)).length, by omega⟩
      have hinside := isBoundary_inside (fit room text) c more (by omega : 0 < inside) (by omega)
      rwa [← htext] at hinside

theorem take_lastBoundary (room : Nat) (text : List Char) :
    (encode text).take (lastBoundary (encode text) (min (encode text).length room)) =
      encode (fit room text) := by
  obtain ⟨rest, hrest⟩ := fit_opening room text
  have hsplit : encode text = encode (fit room text) ++ encode rest := by
    rw [← encode_append, hrest]
  rw [lastBoundary_encode, hsplit, List.take_left' rfl]

end Screencast.Utf8
