import TableScaffold.Text.Basic

/-!
# What a terminal shows of a text

Control characters are not shown, blanks apart, and neither are the control sequences
that an escape character begins: two characters, a sequence with parameters, a command
to the operating system, or a string for a device.
-/

namespace TableScaffold.Text

/-! ## Kinds of characters -/

/-- The character that begins a control sequence. -/
def escapeCharacter : Char := '\x1b'

/-- Whether a character ends every control sequence. -/
def isCancel (c : Char) : Bool := c = '\x18' || c = '\x1a'

/-- Whether a control character moves the place where text is shown. -/
def isMotion (c : Char) : Bool := c = '\t' || c = '\n' || c = '\x0c' || c = '\r'

/-- Whether a character lies outside of ASCII. -/
def isWide (c : Char) : Bool := 0x80 ≤ c.toNat

/-- Whether a character is shown where no control sequence is open. -/
def isShown (c : Char) : Bool := isWide c || isMotion c || (' ' ≤ c && c ≤ '~')

/-- Whether a byte of a character ends a string for a device. -/
def endsDeviceString (c : Char) : Bool := (String.utf8EncodeChar c).contains 0x9c

/-! ## Control sequences -/

/-- The control sequence that is open at a place in a text. -/
inductive Control where
  /-- no sequence -/
  | closed
  /-- behind the escape character -/
  | escape
  /-- behind the characters that stand before the last one of a short sequence -/
  | intermediate
  /-- a sequence with parameters -/
  | sequence
  /-- a command to the operating system -/
  | command
  /-- the parameters of a string for a device -/
  | deviceHead
  /-- a string for a device -/
  | deviceString
  deriving DecidableEq, Repr

namespace Control

/-- What the character behind the escape character opens. -/
def opened (c : Char) : Control :=
  match c with
  | '[' => sequence
  | ']' => command
  | 'P' => deviceHead
  | 'X' => deviceString
  | '^' => deviceString
  | '_' => deviceString
  | c => if c < ' ' || '~' < c then escape else if c < '0' then intermediate else closed

/-- What is open behind a character that is not shown. -/
def next (s : Control) (c : Char) : Control :=
  if c = escapeCharacter then escape
  else if isCancel c then closed
  else
    match s with
    | closed => closed
    | escape => opened c
    | intermediate => if '0' ≤ c && c ≤ '~' then closed else intermediate
    | sequence => if '@' ≤ c && c ≤ '~' then closed else sequence
    | command => if c = '\x07' then closed else command
    | deviceHead => if '@' ≤ c && c ≤ '~' then deviceString else deviceHead
    | deviceString => if endsDeviceString c then closed else deviceString

/-- Whether a character is shown. -/
def shows (s : Control) (c : Char) : Bool :=
  match s with
  | closed => isShown c
  | escape => isMotion c
  | intermediate => isMotion c
  | sequence => isMotion c
  | _ => false

end Control

/-! ## Showing -/

/-- What is shown of a text behind an open sequence.  A blank interrupts a sequence:
what follows is shown too, up to the next control character, and there the sequence
goes on unless a character outside of ASCII has closed it. -/
def visibleBehind (s : Control) (interrupted : Bool) : Text → Text
  | [] => []
  | c :: r =>
    if (if interrupted then Control.closed else s).shows c then
      c :: visibleBehind (if isWide c then .closed else s) true r
    else visibleBehind (s.next c) false r

/-- What a terminal shows of a text. -/
def visible (t : Text) : Text := visibleBehind .closed false t

end TableScaffold.Text
