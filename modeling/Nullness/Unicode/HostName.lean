import Nullness.Unicode.Category
import Nullness.Unicode.Expansion
import Nullness.Unicode.Folding

/-!
# Characters in the names of hosts

A name is read without regard to the form of its characters. Some of them are passed over, others
stand for one or more characters, and some may not occur at all.

* `inHostName`: what a character of a name is read as.
-/

namespace Nullness

namespace Unicode

/-- The characters that a name is read without. -/
def passedOver : CodeRanges :=
  [(0xad, 0xad), (0x34f, 0x34f), (0x115f, 0x1160), (0x17b4, 0x17b5), (0x180b, 0x180f),
   (0x200b, 0x200b), (0x2060, 0x2064), (0x206a, 0x206f), (0x3164, 0x3164), (0xfe00, 0xfe0f),
   (0xfeff, 0xfeff), (0xffa0, 0xffa0), (0x1bca0, 0x1bca3), (0x1d173, 0x1d17a), (0xe0100, 0xe01ef)]

/-- The characters that no name contains although they have a meaning: what stands for a text with a
full stop in it, descriptions of characters, and characters in place of unknown ones. -/
def refused : CodeRanges :=
  [(0x2024, 0x2026), (0x2488, 0x249b), (0x2ff0, 0x2fff), (0x31ef, 0x31ef), (0x33c2, 0x33c2),
   (0x33c7, 0x33c7), (0x33d8, 0x33d8), (0xfe12, 0xfe12), (0xfe19, 0xfe19), (0xfe30, 0xfe30),
   (0xfe52, 0xfe52), (0xfffc, 0xfffd), (0x1f100, 0x1f100)]

/-- The joints between letters; only those that make a difference are admitted, which depends on the
letters around them. -/
def joints : CodeRanges := [(0x200c, 0x200d)]

/-- What a character of a name is read as, or `none` when no name contains it. ASCII characters are
not judged here. -/
def inHostName (c : Char) : Option (List Char) :=
  if passedOver.contains c then some []
  else
    match foldLetter? c with
    | some letter => some [letter]
    | none =>
      match expand? c with
      | some text => some text
      | none =>
        if c.toNat < 128 || joints.contains c then some [c]
        else if isMeaningless c || refused.contains c then none
        else some [c]

end Unicode

end Nullness
