/-
The number of columns that a text takes up where it is printed.

A character takes up no column, one or two, as its properties say. Some
characters join up with what follows them and then take up less, or more, than
they do apart: emoji joined into one picture, the letters of a flag, letters
that are written as one. So a line is read from its end, and what has been
read is kept as far as a character before it can still join up with it.
-/
import Screencast.Text.Width.Emoji
import Screencast.Text.Width.Joining
import Screencast.Text.Width.Ranges

namespace Screencast.Width

/-- The number lies in one of the ranges, whose ends are included. -/
def among (ranges : List (Nat × Nat)) (n : Nat) : Bool :=
  ranges.any fun (first, last) => first ≤ n && n ≤ last

/-! ## Classes of characters -/

/-- The joiner, which itself takes up no column. -/
def joiner : Nat := 0x200D

/-- The frame of a key around the character before it. -/
def keycap : Nat := 0x20E3

/-- The joiner of Tifinagh consonants. -/
def consonantJoiner : Nat := 0x2D7F

/-- A black flag, which other flags are made of. -/
def blackFlag : Nat := 0x1F3F4

def isTone (n : Nat) : Bool := 0x1F3FB ≤ n && n ≤ 0x1F3FF

/-- A letter of a flag. -/
def isFlagLetter (n : Nat) : Bool := 0x1F1E6 ≤ n && n ≤ 0x1F1FF

/-- A letter in the name of a flag that is made of a black one. -/
def isTagLetter (n : Nat) : Bool := 0xE0061 ≤ n && n ≤ 0xE007A

/-- A digit in the name of a flag that is made of a black one. -/
def isTagDigit (n : Nat) : Bool := 0xE0030 ≤ n && n ≤ 0xE0039

/-- The end of the name of a flag that is made of a black one. -/
def tagEnd : Nat := 0xE007F

/-- A Tifinagh consonant. -/
def isConsonant (n : Nat) : Bool := (0x2D31 ≤ n && n ≤ 0x2D65) || n == 0x2D6F

/-- A quotation mark that has a full-width form. -/
def isQuotation (n : Nat) : Bool := n == 0x2018 || n == 0x2019 || n == 0x201C || n == 0x201D

/-- An emoji that has a text form of one column. The forms of the enclosed ideographs are alike. -/
def isNarrowable (n : Nat) : Bool :=
  among emoji n && among twoForms n && !(0x1F200 ≤ n && n ≤ 0x1F2FF)

/-- A mark that does not part the letters around it. -/
def isInvisibleMark (n : Nat) : Bool :=
  n == 0x34F || (0x17B4 ≤ n && n ≤ 0x17B5) || (0x180B ≤ n && n ≤ 0x180D) || n == 0x180F ||
    n == joiner || (0xFE00 ≤ n && n ≤ 0xFE0F) || (0xE0100 ≤ n && n ≤ 0xE01EF)

/-- The columns of a character by itself. -/
def alone (n : Nat) : Nat :=
  if n = 0x17D8 then 3
  else if among mark n then 0
  else if among wide n then 2
  else 1

/-! ## What follows a character -/

/-- What a character is followed by, as far as it can join up with it. -/
inductive Following
  | other
  /-- A skin tone. -/
  | tone
  /-- The last letter of a flag. -/
  | flagLetter
  /-- More letters of flags. -/
  | flagLetters
  /-- A whole emoji. -/
  | emoji
  /-- A joiner and an emoji. -/
  | joinedEmoji
  /-- The frame of a key, a joiner and an emoji. -/
  | joinedKeycap
  /-- A letter of a flag, a joiner and an emoji. -/
  | joinedFlagLetter
  /-- More letters of flags, in pairs or with one left over, a joiner and an emoji. -/
  | joinedFlagLetters (paired : Bool)
  /-- The end of the name of a flag, of which so many letters and so many digits have come, a
  joiner and an emoji. -/
  | joinedTag (letters digits : Nat)
  /-- An Arabic Alef. -/
  | alef
  /-- A Hebrew Lamed, behind a joiner or not. -/
  | lamed (joined : Bool)
  /-- A Buginese Ya, behind a joiner or not. -/
  | ya (joined : Bool)
  /-- A Buginese vowel, a joiner and a Ya. -/
  | vowelYa
  /-- A Tifinagh consonant, behind a joiner or not. -/
  | consonant (joined : Bool)
  /-- The joiner of Tifinagh consonants and a consonant. -/
  | joinedConsonant
  /-- The second of two tone letters of Lisu. -/
  | toneLetter
  /-- An Old Turkic I, behind a joiner or not. -/
  | orkhonI (joined : Bool)
  /-- A Khmer letter that has a form below another. -/
  | subjoined
  /-- The vowel E of Kirat Rai. -/
  | vowelE
  /-- The vowel Ai of Kirat Rai. -/
  | vowelAi
  deriving DecidableEq, Repr

namespace Following

/-- A letter, with which a selector between it and another does not interfere. -/
def isLetter : Following → Bool
  | alef | lamed _ | ya _ | vowelYa | consonant _ | joinedConsonant | toneLetter | orkhonI _
  | subjoined => true
  | _ => false

/-- An emoji behind a joiner, which also waits for a selector. -/
def isJoined : Following → Bool
  | joinedEmoji | joinedKeycap => true
  | _ => false

/-- What follows a joiner that precedes a letter. -/
def afterJoiner : Following → Following
  | lamed _ => lamed true
  | ya _ => ya true
  | consonant _ => consonant true
  | orkhonI _ => orkhonI true
  | following => following

/-- What a character is for the one before it, if it joins up with nothing itself. -/
def ofCharacter (n : Nat) : Following :=
  if n = 0x5DC then lamed false
  else if among Width.alef n then alef
  else if among Width.subjoined n then subjoined
  else if n = 0x1A10 then ya false
  else if isConsonant n then consonant false
  else if n = 0xA4FC ∨ n = 0xA4FD then toneLetter
  else if n = 0x10C03 then orkhonI false
  else if n = 0x16D67 then vowelE
  else if n = 0x16D68 then vowelAi
  else if isFlagLetter n then flagLetter
  else if isTone n then tone
  else if among Width.emoji n then emoji
  else other

/-- The joining of letters: by how much it changes the columns, and what has then been read. -/
def joinLetter? (following : Following) (n : Nat) : Option (Int × Following) :=
  match following with
  | alef =>
    if among lam n then some (0, other)
    else if alone n = 0 && !among parting n then some (0, alef)
    else none
  | lamed true => if n = 0x5D0 then some (0, other) else none
  -- What stacks a letter below another takes up nothing, and neither does the letter.
  | subjoined => if n = 0x17D2 then some (-1, other) else none
  | ya true => if n = 0x1A17 then some (0, vowelYa) else none
  | vowelYa => if n = 0x1A15 then some (0, other) else none
  | consonant joined =>
    if n = consonantJoiner then some (1, joinedConsonant)
    else if joined && isConsonant n then some (0, other)
    else none
  | joinedConsonant => if isConsonant n then some (-1, other) else none
  | toneLetter => if 0xA4F8 ≤ n ∧ n ≤ 0xA4FB then some (0, other) else none
  | orkhonI true => if n = 0x10C32 then some (0, other) else none
  | vowelE =>
    if n = 0x16D63 ∨ n = 0x16D69 then some (0, other)
    else if n = 0x16D67 then some (0, vowelAi)
    else if n = 0x16D68 then some (1, vowelE)
    else none
  | vowelAi => if n = 0x16D63 then some (0, other) else none
  | _ => none

/-- The joining of what stands before a joiner and an emoji. -/
def joinEmoji? (n : Nat) : Option (Int × Following) :=
  if n = keycap then some (0, joinedKeycap)
  else if isFlagLetter n then some (1, joinedFlagLetter)
  else if isTone n then some (0, tone)
  else if n = tagEnd then some (0, joinedTag 0 0)
  else if among Width.emoji n then some (0, emoji)
  else none

/-- The joining of the name of a flag. It has 3 to 6 letters, or up to 4 and then 3 digits. -/
def joinTag? (letters digits n : Nat) : Option (Int × Following) :=
  if isTagLetter n && digits == 0 && letters < 6 then some (0, joinedTag (letters + 1) 0)
  else if isTagDigit n && letters ≤ 4 && digits < 3 then some (0, joinedTag letters (digits + 1))
  else if n = blackFlag ∧ (digits = 3 ∨ digits = 0 ∧ 3 ≤ letters) then some (0, emoji)
  else none

/-- The joining of emoji and flags. -/
def joinPicture? (following : Following) (n : Nat) : Option (Int × Following) :=
  match following with
  | tone =>
    if among toned n then some (0, emoji)
    else if n = joiner then some (0, joinedEmoji)
    else none
  | flagLetter => if isFlagLetter n then some (1, flagLetters) else none
  | flagLetters =>
    if isFlagLetter n then some (1, flagLetters)
    else if n = joiner then some (0, joinedEmoji)
    else none
  | emoji => if n = joiner then some (0, joinedEmoji) else none
  | joinedEmoji => joinEmoji? n
  -- A flag before a joiner takes up nothing, but a letter left over takes up one column.
  | joinedFlagLetter => if isFlagLetter n then some (-1, joinedFlagLetters true) else none
  | joinedFlagLetters paired =>
    if isFlagLetter n then some (if paired then 3 else -1, joinedFlagLetters !paired)
    else if n = joiner then some (0, joinedEmoji)
    else none
  | joinedTag letters digits => joinTag? letters digits n
  | _ => none

/-- The joining of a character to what follows it, if it does join. -/
def join? (following : Following) (n : Nat) : Option (Int × Following) :=
  (following.joinLetter? n).or (following.joinPicture? n)

end Following

/-! ## Reading a line from its end -/

/-- What asks for a form of the character before it. -/
inductive Selector
  | text
  | emoji
  | fullWidth
  deriving DecidableEq, Repr

/-- The selector that a character is. -/
def Selector.ofCharacter? : Nat → Option Selector
  | 0xFE0E => some text
  | 0xFE0F => some emoji
  | 0xFE01 => some fullWidth
  | _ => none

/-- What has been read of a line from its end. -/
structure Reading where
  columns : Int := 0
  following : Following := .other
  /-- The selectors at its beginning that a character can still heed. -/
  selectors : List Selector := []
  deriving DecidableEq, Repr

namespace Reading

/-- A selector has come. Letters are joined across it, and emoji that are joined wait for theirs;
everything else is parted by it. -/
def select (reading : Reading) (selector : Selector) : Reading :=
  if reading.following.isLetter then
    { reading with selectors := selector :: reading.selectors }
  else
    let stays := selector == .emoji && reading.following.isJoined
    { reading with
      following := if stays then reading.following else .other
      selectors := [selector] }

/-- The character before a selector of the emoji form has none. The selector holds for no other
character, and nothing but letters is joined across it. -/
def forgoEmoji (reading : Reading) : Reading :=
  if !reading.selectors.contains .emoji then reading
  else if reading.following.isLetter then
    { reading with selectors := reading.selectors.filter (· != .emoji) }
  else { reading with following := .other, selectors := [] }

/-- A character has come that heeds no selector. -/
def take (reading : Reading) (n : Nat) : Reading :=
  let (change, following) :=
    if reading.following.isLetter && reading.following != .alef && isInvisibleMark n then
      (0, if n = joiner then reading.following.afterJoiner else reading.following)
    else (reading.following.join? n).getD (alone n, .ofCharacter n)
  { columns := reading.columns + change, following }

/-- The columns of the form that the selectors other than that of the emoji form ask for, if the
character has it. -/
def selected? (reading : Reading) (n : Nat) : Option Int :=
  if reading.selectors.contains .text && isNarrowable n then some 1
  else if reading.selectors.contains .fullWidth && isQuotation n then some 2
  else none

/-- The next character towards the beginning of the line. -/
def next (reading : Reading) (c : Char) : Reading :=
  let n := c.toNat
  if reading.selectors.contains .emoji && among twoForms n then
    { columns := reading.columns + (if reading.following.isJoined then 0 else 2)
      following := .emoji }
  else
    let reading := reading.forgoEmoji
    -- Up to the no-break space a character takes up one column, controls included.
    if n ≤ 0xA0 then { columns := reading.columns + 1 }
    else
      match Selector.ofCharacter? n, reading.selected? n with
      | some selector, _ => reading.select selector
      | none, some change => { columns := reading.columns + change }
      | none, none => reading.take n

end Reading

/-- The columns of a line. -/
def ofLine (line : String) : Nat :=
  (line.toList.foldr (fun c reading => reading.next c) ({} : Reading)).columns.toNat

end Screencast.Width
