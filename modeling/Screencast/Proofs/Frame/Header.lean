/-
Headers written and read.

The marks and the time stamp fill the 64 bits of the first word without
overlap, so packing them is undone by taking the word apart (`ofWord_word`) and
the other way round (`word_ofWord`). On bytes: reading a header that was written
gives it back with its time stamp reduced (`decode_encode_append`), and every
12 bytes are the writing of the header that is read from them (`decode_eq`).
-/
import Screencast.Frame

namespace Screencast.Frame.Header

/-! ## The word -/

theorem word_lt (header : Header) : header.word < Bytes.bound 8 := by
  have hconfig := header.config.toNat_le
  have hkeyframe := header.keyframe.toNat_le
  have hpts : header.pts.toNat % ptsBound < ptsBound := Nat.mod_lt _ (by decide)
  simp only [word, configBit, keyframeBit, ptsBound, Bytes.bound] at *
  omega

theorem word_ofWord {word : Nat} (size : Nat) (h : word < Bytes.bound 8) :
    (ofWord word size).word = word := by
  have hpts : word % ptsBound % 2 ^ 64 = word % ptsBound := by
    simp only [ptsBound, keyframeBit]
    omega
  simp only [Header.word, ofWord, UInt64.toNat_ofNat', hpts, Nat.mod_mod]
  -- A mark is one binary digit of the word.
  have hconfig : (word / configBit % 2 == 1).toNat = word / configBit % 2 := by
    rcases Nat.mod_two_eq_zero_or_one (word / configBit) with hbit | hbit <;> rw [hbit] <;> rfl
  have hkeyframe : (word / keyframeBit % 2 == 1).toNat = word / keyframeBit % 2 := by
    rcases Nat.mod_two_eq_zero_or_one (word / keyframeBit) with hbit | hbit <;> rw [hbit] <;> rfl
  rw [hconfig, hkeyframe]
  simp only [configBit, keyframeBit, ptsBound, Bytes.bound] at *
  omega

/-- The header as it arrives: bits of the time stamp that are not sent are gone. -/
def sent (header : Header) : Header :=
  { header with pts := UInt64.ofNat (header.pts.toNat % ptsBound) }

theorem sent_of_lt {header : Header} (h : header.pts.toNat < ptsBound) :
    header.sent = header := by
  rw [sent, Nat.mod_eq_of_lt h, UInt64.ofNat_toNat]

theorem ofWord_word (header : Header) : ofWord header.word header.size.toNat = header.sent := by
  have hconfig : header.word / configBit % 2 = header.config.toNat := by
    have := header.config.toNat_le
    have := header.keyframe.toNat_le
    simp only [word, configBit, keyframeBit, ptsBound]
    omega
  have hkeyframe : header.word / keyframeBit % 2 = header.keyframe.toNat := by
    have := header.config.toNat_le
    have := header.keyframe.toNat_le
    simp only [word, configBit, keyframeBit, ptsBound]
    omega
  have hpts : header.word % ptsBound = header.pts.toNat % ptsBound := by
    have := header.config.toNat_le
    have := header.keyframe.toNat_le
    simp only [word, configBit, keyframeBit, ptsBound]
    omega
  have hbit (mark : Bool) : (mark.toNat == 1) = mark := by cases mark <;> rfl
  rw [ofWord, hconfig, hkeyframe, hpts, hbit, hbit, UInt32.ofNat_toNat]
  rfl

/-! ## The bytes -/

/-- Reading a header that was written gives it back, its time stamp reduced. -/
theorem decode_encode_append (header : Header) (rest : List UInt8) :
    decode (header.encode ++ rest) = .ok header.sent := by
  have hfield : Bytes.field wireSize (header.encode ++ rest) = .ok header.encode := by
    rw [Bytes.field_of_le (by simp), List.take_left' header.length_encode]
  have hword : (header.encode.take 8) = Bytes.ofNat 8 header.word :=
    List.take_left' (Bytes.length_ofNat ..)
  have hsize : (header.encode.drop 8) = Bytes.ofNat 4 header.size.toNat :=
    List.drop_left' (Bytes.length_ofNat ..)
  have hlt : header.size.toNat < Bytes.bound 4 := header.size.toNat_lt
  rw [decode, hfield]
  simp only [bind, Except.bind, pure, Except.pure]
  rw [hword, hsize, Bytes.toNat_ofNat_of_lt header.word_lt, Bytes.toNat_ofNat_of_lt hlt,
    ofWord_word]

/-- A byte string that is long enough begins with a header: with the one whose writing it begins
with, and whose time stamp can be sent. -/
theorem decode_eq {bytes : List UInt8} (h : wireSize ≤ bytes.length) :
    ∃ header : Header, decode bytes = .ok header ∧ header.encode = bytes.take wireSize ∧
      header.pts.toNat < ptsBound := by
  -- The word and the size by name, so that both directions can be rewritten in them.
  obtain ⟨high, hhigh⟩ : ∃ high, high = (bytes.take wireSize).take 8 := ⟨_, rfl⟩
  obtain ⟨low, hlow⟩ : ∃ low, low = (bytes.take wireSize).drop 8 := ⟨_, rfl⟩
  have hlength : (bytes.take wireSize).length = 12 := by
    rw [List.length_take, Nat.min_eq_left h]
    rfl
  have hhigh8 : high.length = 8 := by rw [hhigh, List.length_take, hlength]; rfl
  have hlow4 : low.length = 4 := by rw [hlow, List.length_drop, hlength]
  have hword : Bytes.toNat high < Bytes.bound 8 := hhigh8 ▸ Bytes.toNat_lt high
  have hsize : Bytes.toNat low < 2 ^ 32 := by
    have := Bytes.toNat_lt low
    rwa [hlow4] at this
  refine ⟨ofWord (Bytes.toNat high) (Bytes.toNat low), ?_, ?_, ?_⟩
  · rw [decode, Bytes.field_of_le h, hhigh, hlow]
    rfl
  · have hsize' : (ofWord (Bytes.toNat high) (Bytes.toNat low)).size.toNat = Bytes.toNat low := by
      simpa [ofWord] using hsize
    have hback : Bytes.ofNat 8 (Bytes.toNat high) = high := hhigh8 ▸ Bytes.ofNat_toNat high
    have hback' : Bytes.ofNat 4 (Bytes.toNat low) = low := hlow4 ▸ Bytes.ofNat_toNat low
    rw [encode, word_ofWord _ hword, hsize', hback, hback', hhigh, hlow, List.take_append_drop]
  · have hlt : Bytes.toNat high % ptsBound < ptsBound := Nat.mod_lt _ (by decide)
    simp only [ofWord, UInt64.toNat_ofNat', ptsBound, keyframeBit] at hlt ⊢
    omega

/-- A byte string that is long enough is a header and what follows it. -/
theorem exists_encode_append {bytes : List UInt8} (h : wireSize ≤ bytes.length) :
    ∃ (header : Header) (rest : List UInt8), header.pts.toNat < ptsBound ∧
      bytes = header.encode ++ rest := by
  obtain ⟨header, -, hencode, hpts⟩ := decode_eq h
  exact ⟨header, bytes.drop wireSize, hpts, by rw [hencode, List.take_append_drop]⟩

/-- The size that a header at the head of a byte string declares. -/
def declared (bytes : List UInt8) : Nat := Bytes.toNat ((bytes.drop 8).take 4)

theorem declared_encode_append (header : Header) (rest : List UInt8) :
    declared (header.encode ++ rest) = header.size.toNat := by
  have hdrop : (header.encode ++ rest).drop 8 = Bytes.ofNat 4 header.size.toNat ++ rest := by
    rw [encode, List.append_assoc, List.drop_left' (Bytes.length_ofNat ..)]
  rw [declared, hdrop, List.take_left' (Bytes.length_ofNat ..),
    Bytes.toNat_ofNat_of_lt header.size.toNat_lt]

end Screencast.Frame.Header
