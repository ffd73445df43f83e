import TableScaffold.Text.Basic

/-!
# Reading UTF-8 that may be damaged

Every maximal damaged part of the bytes stands for one replacement character; a part
ends where the bytes can no longer begin a character.
-/

namespace TableScaffold.Text

/-- The character in place of damaged bytes. -/
def replacement : Char := Char.ofNat 0xFFFD

/-- Whether a byte goes on with a character. -/
def isContinuation (b : Nat) : Bool := 0x80 ≤ b && b ≤ 0xBF

/-- The number of bytes of the character that a byte begins, and the bounds of its
second byte; 0 if it begins none. -/
def leadByte (b : Nat) : Nat × Nat × Nat :=
  if b < 0x80 then (1, 0, 0)
  else if b < 0xC2 then (0, 0, 0)
  else if b < 0xE0 then (2, 0x80, 0xBF)
  else if b = 0xE0 then (3, 0xA0, 0xBF)
  else if b = 0xED then (3, 0x80, 0x9F)
  else if b < 0xF0 then (3, 0x80, 0xBF)
  else if b = 0xF0 then (4, 0x90, 0xBF)
  else if b < 0xF4 then (4, 0x80, 0xBF)
  else if b = 0xF4 then (4, 0x80, 0x8F)
  else (0, 0, 0)

/-- The number of bytes behind the first one that belong to the character or the
damaged part that begins with `b`. -/
def partLength (b : Nat) (r : List Nat) : Nat :=
  let (size, low, high) := leadByte b
  match r with
  | [] => 0
  | c :: r => if size < 2 || c < low || high < c then 0
    else 1 + ((r.take (size - 2)).takeWhile isContinuation).length

/-- The character of a part: the value of its bits if it is complete. -/
def partCharacter (b : Nat) (behind : List Nat) : Char :=
  let size := (leadByte b).1
  if size = 0 || behind.length + 1 ≠ size then replacement
  else if size = 1 then Char.ofNat b
  else
    let lead := b % Nat.pow 2 (7 - size)
    Char.ofNat (behind.foldl (fun n c => n * 64 + c % 64) lead)

/-- The text of bytes in UTF-8. -/
def ofDamagedUtf8 : List Nat → Text
  | [] => []
  | b :: r => partCharacter b (r.take (partLength b r)) :: ofDamagedUtf8 (r.drop (partLength b r))
termination_by t => t.length
decreasing_by simp only [List.length_drop, List.length_cons]; omega

end TableScaffold.Text
