import TimeRange.Text.Combining
import TimeRange.Text.Unassigned

/-!
# Characters without a shape of their own

A quoted text shows every character that a reader can tell apart and escapes
the others: control and format characters, spaces other than the common one,
line and paragraph separators, fillers that leave the place of a letter empty,
characters that combine with the one before them, and code points without a
character.
-/

namespace TimeRange.Text

/--
Control and format characters and separators, with the general categories `Cc`,
`Cf`, `Zs`, `Zl` and `Zp`, except the common space.
-/
def controls : CodeRanges :=
  [(0x0, 0x1F), (0x7F, 0xA0), (0xAD, 0xAD), (0x600, 0x605), (0x61C, 0x61C), (0x6DD, 0x6DD),
    (0x70F, 0x70F), (0x890, 0x891), (0x8E2, 0x8E2), (0x1680, 0x1680), (0x180E, 0x180E),
    (0x2000, 0x200F), (0x2028, 0x202F), (0x205F, 0x2064), (0x2066, 0x206F), (0x3000, 0x3000),
    (0xFEFF, 0xFEFF), (0xFFF9, 0xFFFB), (0x110BD, 0x110BD), (0x110CD, 0x110CD), (0x13430, 0x1343F),
    (0x1BCA0, 0x1BCA3), (0x1D173, 0x1D17A), (0xE0001, 0xE0001), (0xE0020, 0xE007F)]

def fillers : CodeRanges :=
  [(0x115F, 0x1160), (0x3164, 0x3164), (0xFFA0, 0xFFA0)]

def isInvisible (character : Char) : Bool :=
  controls.has character || fillers.has character || combining.has character
    || unassigned.has character

end TimeRange.Text
