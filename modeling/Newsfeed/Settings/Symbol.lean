/-!
# Symbols of a settings file

A settings file is UTF-8 where it is read, but a comment may hold anything.  So a file is taken
apart into symbols: its characters, and a blank symbol for each byte that belongs to no character,
which only a comment may hold.
-/

namespace Newsfeed.Settings

/-- A character, or nothing for a byte that belongs to none. -/
abbrev Symbol := Option Char

namespace Symbol

/-- The symbols of a text. -/
def ofText (text : String) : List Symbol := text.toList.map some

/-- The symbols of a file from byte `i` on. -/
def ofBytesFrom (bytes : ByteArray) (i : Nat) : List Symbol :=
  if i < bytes.size then
    match bytes.utf8DecodeChar? i with
    | some c => some c :: ofBytesFrom bytes (i + c.utf8Size)
    | none => none :: ofBytesFrom bytes (i + 1)
  else []
termination_by bytes.size - i
decreasing_by
  · have := c.utf8Size_pos
    omega
  · omega

/-- The symbols of a file. -/
def ofBytes (bytes : ByteArray) : List Symbol := ofBytesFrom bytes 0

/-- The characters among some symbols. -/
def toChars (ss : List Symbol) : List Char := ss.filterMap id

/-- Whether a symbol is one of the given characters. -/
def isOneOf (chars : List Char) : Symbol → Bool
  | some c => chars.contains c
  | none => false

end Symbol

end Newsfeed.Settings
