/-!
# Pictures of invisible characters

A report shows a line of source as it is, but for the characters that would disturb it: a tab
becomes four blanks, a control character its picture, a mark that changes the direction of text the
replacement character, and the joiner of zero width is dropped.
-/

namespace PegCheck.Text

/-- What is shown for a character. -/
def picture (c : Char) : List Char :=
  let n := c.toNat
  if c == '\t' then [' ', ' ', ' ', ' ']
  else if c == '\n' then [c]
  else if n < 0x20 then [Char.ofNat (0x2400 + n)]
  else if n = 0x7F then ['\u2421']
  else if n = 0x200D then []
  else if (0x202A ≤ n && n ≤ 0x202E) || (0x2066 ≤ n && n ≤ 0x2069) then ['\ufffd']
  else [c]

/-- What is shown for a text. -/
def pictures (text : List Char) : List Char := text.flatMap picture

end PegCheck.Text
