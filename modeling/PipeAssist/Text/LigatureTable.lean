import PipeAssist.Text.WidthTable

/-!
# Letters of ligatures

The code points that take less room together than one by one: the letters of a ligature, and the
marks that may stand between them.
-/

set_option autoImplicit false

namespace PipeAssist.Text.LigatureTable

/-- Arabic letters of the joining group alef that form a ligature with a lam before them. -/
def alefs : CodeRanges :=
  [(0x622, 0x623), (0x625, 0x625), (0x627, 0x627), (0x671, 0x673), (0x675, 0x675),
   (0x773, 0x774), (0x870, 0x882)]

/-- Arabic letters of the joining group lam. -/
def lams : CodeRanges :=
  [(0x644, 0x644), (0x6B5, 0x6B8), (0x76A, 0x76A), (0x8A6, 0x8A6), (0x8C7, 0x8C7)]

/-- Khmer letters that a coeng sign puts below the letter before it. -/
def coengLetters : CodeRanges :=
  [(0x1780, 0x1782), (0x1784, 0x1787), (0x1789, 0x178C), (0x178E, 0x1793), (0x1795, 0x1798),
   (0x179B, 0x179D), (0x17A0, 0x17A0), (0x17A2, 0x17A2), (0x17A7, 0x17A7), (0x17AB, 0x17AC),
   (0x17AF, 0x17AF)]

/-- Code points without width that do not let Arabic letters join across them. -/
def joinBreakers : CodeRanges :=
  [(0x605, 0x605), (0x890, 0x891), (0x8E2, 0x8E2), (0x9BE, 0x9BE), (0x9D7, 0x9D7),
   (0xB3E, 0xB3E), (0xB57, 0xB57), (0xBBE, 0xBBE), (0xBD7, 0xBD7), (0xCC0, 0xCC0),
   (0xCC2, 0xCC2), (0xCC7, 0xCC8), (0xCCA, 0xCCB), (0xCD5, 0xCD6), (0xD3E, 0xD3E),
   (0xD4E, 0xD4E), (0xD57, 0xD57), (0xDCF, 0xDCF), (0xDDF, 0xDDF), (0x1160, 0x11FF),
   (0x1715, 0x1715), (0x1734, 0x1734), (0x180E, 0x180E), (0x1B35, 0x1B35), (0x1B3B, 0x1B3B),
   (0x1B3D, 0x1B3D), (0x1B43, 0x1B44), (0x1BAA, 0x1BAA), (0x1BF2, 0x1BF3), (0x200C, 0x200D),
   (0x2065, 0x2069), (0x302E, 0x302F), (0x3164, 0x3164), (0xA8FA, 0xA8FA), (0xA953, 0xA953),
   (0xA9C0, 0xA9C0), (0xD7B0, 0xD7C6), (0xD7CB, 0xD7FB), (0xFFA0, 0xFFA0), (0xFFF0, 0xFFF8),
   (0x111C0, 0x111C0), (0x111C2, 0x111C3), (0x11235, 0x11235), (0x1133E, 0x1133E),
   (0x1134D, 0x1134D), (0x11357, 0x11357), (0x113B8, 0x113B8), (0x113C2, 0x113C2),
   (0x113C5, 0x113C5), (0x113C7, 0x113C9), (0x113CF, 0x113CF), (0x114B0, 0x114B0),
   (0x114BD, 0x114BD), (0x115AF, 0x115AF), (0x116B6, 0x116B6), (0x11930, 0x11930),
   (0x1193D, 0x1193D), (0x1193F, 0x1193F), (0x11941, 0x11941), (0x11A84, 0x11A89),
   (0x11D46, 0x11D46), (0x11F41, 0x11F41), (0x16FF0, 0x16FF1), (0x1D165, 0x1D166),
   (0x1D16D, 0x1D172), (0xE0000, 0xE0000), (0xE0002, 0xE001F), (0xE0080, 0xE00FF),
   (0xE01F0, 0xE0FFF)]

/-- Whether a code point is an Arabic alef. -/
def isAlef (code : Nat) : Bool := alefs.holds code

/-- Whether a code point is an Arabic lam. -/
def isLam (code : Nat) : Bool := lams.holds code

/-- Whether Arabic letters join across a code point. -/
def isJoinTransparent (code : Nat) : Bool :=
  WidthTable.isZero code && !joinBreakers.holds code

/-- Whether a code point is a Khmer letter that a coeng sign puts below the letter before it. -/
def isCoengLetter (code : Nat) : Bool := coengLetters.holds code

/-- Whether a code point is a Tifinagh consonant. -/
def isTifinagh (code : Nat) : Bool := (0x2D31 ≤ code && code ≤ 0x2D65) || code = 0x2D6F

/-- Whether a code point is a combining mark that is not shown, and may stand anywhere in a
ligature. -/
def isHiddenMark (code : Nat) : Bool :=
  code = 0x34F || (0x17B4 ≤ code && code ≤ 0x17B5) || (0x180B ≤ code && code ≤ 0x180D) ||
    code = 0x180F || (0xFE00 ≤ code && code ≤ 0xFE0F) || (0xE0100 ≤ code && code ≤ 0xE01EF)

end PipeAssist.Text.LigatureTable
