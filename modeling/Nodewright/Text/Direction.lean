import Nodewright.Text.Mark

/-! # Directions of writing

Letters are written towards the right or towards the left. Figures are written towards the right in
either case, and other signs have no direction of their own. A text that starts with a letter can
be read in one direction only if it fits that letter: `fitsDirection` says when.

The runs are those of the character database; a run may reach over code points that are no
character and over marks. -/

namespace Nodewright.Text

/-- How a character takes part in the direction of a text. -/
inductive Direction where
  /-- A letter written towards the right. -/
  | toRight
  /-- A letter written towards the left. -/
  | toLeft
  /-- A figure that is used with letters of either kind. -/
  | figure
  /-- A figure that is used with Arabic letters only. -/
  | arabicFigure
  /-- A mark, which goes with the character before it. -/
  | mark
  /-- Any other sign. -/
  | neutral
deriving DecidableEq, Repr

/-- The first and the last character of each run that is not written towards the right. -/
def directionRuns : List (Nat × Nat × Direction) := [
  (0x21, 0x2f, .neutral), (0x30, 0x39, .figure), (0x3a, 0x40, .neutral), (0x5b, 0x60, .neutral),
  (0x7b, 0xa9, .neutral), (0xab, 0xb1, .neutral), (0xb2, 0xb3, .figure), (0xb4, 0xb4, .neutral),
  (0xb6, 0xb8, .neutral), (0xb9, 0xb9, .figure), (0xbb, 0xbf, .neutral), (0xd7, 0xd7, .neutral),
  (0xf7, 0xf7, .neutral), (0x2b9, 0x2ba, .neutral), (0x2c2, 0x2cf, .neutral),
  (0x2d2, 0x2df, .neutral), (0x2e5, 0x2ed, .neutral), (0x2ef, 0x2ff, .neutral),
  (0x374, 0x375, .neutral), (0x37e, 0x37e, .neutral), (0x384, 0x385, .neutral),
  (0x387, 0x387, .neutral), (0x3f6, 0x3f6, .neutral), (0x58a, 0x58f, .neutral),
  (0x5be, 0x5f4, .toLeft), (0x606, 0x607, .neutral), (0x608, 0x608, .toLeft),
  (0x609, 0x60a, .neutral), (0x60b, 0x60b, .toLeft), (0x60c, 0x60c, .neutral),
  (0x60d, 0x60d, .toLeft), (0x60e, 0x60f, .neutral), (0x61b, 0x64a, .toLeft),
  (0x660, 0x669, .arabicFigure), (0x66a, 0x66a, .neutral), (0x66b, 0x66c, .arabicFigure),
  (0x66d, 0x6d5, .toLeft), (0x6de, 0x6de, .neutral), (0x6e5, 0x6e6, .toLeft),
  (0x6e9, 0x6e9, .neutral), (0x6ee, 0x6ef, .toLeft), (0x6f0, 0x6f9, .figure),
  (0x6fa, 0x7f5, .toLeft), (0x7f6, 0x7f9, .neutral), (0x7fa, 0x8c9, .toLeft),
  (0x9f2, 0x9f3, .neutral), (0x9fb, 0x9fb, .neutral), (0xaf1, 0xaf1, .neutral),
  (0xbf3, 0xbfa, .neutral), (0xc78, 0xc7e, .neutral), (0xe3f, 0xe3f, .neutral),
  (0xf3a, 0xf3d, .neutral), (0x1390, 0x1399, .neutral), (0x1400, 0x1400, .neutral),
  (0x1680, 0x1680, .neutral), (0x169b, 0x169c, .neutral), (0x17db, 0x17db, .neutral),
  (0x17f0, 0x180e, .neutral), (0x1940, 0x1945, .neutral), (0x19de, 0x19ff, .neutral),
  (0x1fbd, 0x1fbd, .neutral), (0x1fbf, 0x1fc1, .neutral), (0x1fcd, 0x1fcf, .neutral),
  (0x1fdd, 0x1fdf, .neutral), (0x1fed, 0x1fef, .neutral), (0x1ffd, 0x206f, .neutral),
  (0x2070, 0x2070, .figure), (0x2074, 0x2079, .figure), (0x207a, 0x207e, .neutral),
  (0x2080, 0x2089, .figure), (0x208a, 0x208e, .neutral), (0x20a0, 0x2101, .neutral),
  (0x2103, 0x2106, .neutral), (0x2108, 0x2109, .neutral), (0x2114, 0x2114, .neutral),
  (0x2116, 0x2118, .neutral), (0x211e, 0x2123, .neutral), (0x2125, 0x2125, .neutral),
  (0x2127, 0x2127, .neutral), (0x2129, 0x2129, .neutral), (0x212e, 0x212e, .neutral),
  (0x213a, 0x213b, .neutral), (0x2140, 0x2144, .neutral), (0x214a, 0x214d, .neutral),
  (0x2150, 0x215f, .neutral), (0x2189, 0x2335, .neutral), (0x237b, 0x2394, .neutral),
  (0x2396, 0x2487, .neutral), (0x2488, 0x249b, .figure), (0x24ea, 0x26ab, .neutral),
  (0x26ad, 0x27ff, .neutral), (0x2900, 0x2bff, .neutral), (0x2ce5, 0x2cea, .neutral),
  (0x2cf9, 0x2cff, .neutral), (0x2e00, 0x3004, .neutral), (0x3008, 0x3020, .neutral),
  (0x3030, 0x3030, .neutral), (0x3036, 0x3037, .neutral), (0x303d, 0x303f, .neutral),
  (0x309b, 0x309c, .neutral), (0x30a0, 0x30a0, .neutral), (0x30fb, 0x30fb, .neutral),
  (0x31c0, 0x31e5, .neutral), (0x321d, 0x321e, .neutral), (0x3250, 0x325f, .neutral),
  (0x327c, 0x327e, .neutral), (0x32b1, 0x32bf, .neutral), (0x32cc, 0x32cf, .neutral),
  (0x3377, 0x337a, .neutral), (0x33de, 0x33df, .neutral), (0x33ff, 0x33ff, .neutral),
  (0x4dc0, 0x4dff, .neutral), (0xa490, 0xa4c6, .neutral), (0xa60d, 0xa60f, .neutral),
  (0xa673, 0xa67f, .neutral), (0xa700, 0xa721, .neutral), (0xa788, 0xa788, .neutral),
  (0xa828, 0xa82b, .neutral), (0xa838, 0xa839, .neutral), (0xa874, 0xa877, .neutral),
  (0xab6a, 0xab6b, .neutral), (0xfb1d, 0xfb28, .toLeft), (0xfb29, 0xfb29, .neutral),
  (0xfb2a, 0xfbc2, .toLeft), (0xfbc3, 0xfbd2, .neutral), (0xfbd3, 0xfd3d, .toLeft),
  (0xfd3e, 0xfd4f, .neutral), (0xfd50, 0xfd8f, .toLeft), (0xfd90, 0xfd91, .neutral),
  (0xfd92, 0xfdc7, .toLeft), (0xfdc8, 0xfdcf, .neutral), (0xfdf0, 0xfdfc, .toLeft),
  (0xfdfd, 0xfe6b, .neutral), (0xfe70, 0xfefc, .toLeft), (0xfeff, 0xff0f, .neutral),
  (0xff10, 0xff19, .figure), (0xff1a, 0xff20, .neutral), (0xff3b, 0xff40, .neutral),
  (0xff5b, 0xff65, .neutral), (0xffe0, 0xfffd, .neutral), (0x10101, 0x10101, .neutral),
  (0x10140, 0x1018c, .neutral), (0x10190, 0x101a0, .neutral), (0x102e1, 0x102fb, .figure),
  (0x10800, 0x1091b, .toLeft), (0x1091f, 0x1091f, .neutral), (0x10920, 0x10b35, .toLeft),
  (0x10b39, 0x10b3f, .neutral), (0x10b40, 0x10d23, .toLeft), (0x10d30, 0x10d39, .arabicFigure),
  (0x10d40, 0x10d65, .toLeft), (0x10d6e, 0x10d6e, .neutral), (0x10d6f, 0x10d8f, .toLeft),
  (0x10e60, 0x10e7e, .arabicFigure), (0x10e80, 0x10ec7, .toLeft), (0x10ed0, 0x10ed8, .neutral),
  (0x10f00, 0x10ff6, .toLeft), (0x11052, 0x11065, .neutral), (0x11660, 0x1166c, .neutral),
  (0x11fd5, 0x11ff1, .neutral), (0x16fe2, 0x16fe2, .neutral), (0x1bca0, 0x1cef0, .neutral),
  (0x1d173, 0x1d17a, .neutral), (0x1d1e9, 0x1d245, .neutral), (0x1d300, 0x1d356, .neutral),
  (0x1d6db, 0x1d6db, .neutral), (0x1d715, 0x1d715, .neutral), (0x1d74f, 0x1d74f, .neutral),
  (0x1d789, 0x1d789, .neutral), (0x1d7c3, 0x1d7c3, .neutral), (0x1d7ce, 0x1d7ff, .figure),
  (0x1e2ff, 0x1e2ff, .neutral), (0x1e800, 0x1eebb, .toLeft), (0x1eef0, 0x1f0f5, .neutral),
  (0x1f100, 0x1f10a, .figure), (0x1f10b, 0x1f10f, .neutral), (0x1f12f, 0x1f12f, .neutral),
  (0x1f16a, 0x1f16f, .neutral), (0x1f1ad, 0x1f1ad, .neutral), (0x1f260, 0x1fbef, .neutral),
  (0x1fbf0, 0x1fbf9, .figure), (0x1fbfa, 0x1fbfa, .neutral)]

/-- Marks that are written towards the right as letters are. -/
def rightwardMarks : List Nat := [0xcbf, 0xcc6, 0x11a07, 0x11a08, 0x11c3f]

/-- The direction of a character. -/
def directionOf (c : Char) : Direction :=
  if rightwardMarks.contains c.toNat then .toRight
  else if nonspacing.contains c.toNat then .mark
  else
    match directionRuns.find? fun (first, last, _) => first ≤ c.toNat && c.toNat ≤ last with
    | some (_, _, direction) => direction
    | none => .toRight

/-- Whether a text holds a character that is written towards the left. -/
def holdsLeftward (cs : List Char) : Bool :=
  cs.any fun c => directionOf c = .toLeft || directionOf c = .arabicFigure

/-- Whether directions fit that of the first letter. The last one, behind which only marks may
    stand, is that of a letter or a figure. -/
def directionsFit (directions : List Direction) : Bool :=
  let last := (directions.reverse.dropWhile (· = .mark)).head?
  match directions.head? with
  | none => true
  | some .toRight =>
    !directions.contains .toLeft && !directions.contains .arabicFigure &&
      (last = some .toRight || last = some .figure)
  | some .toLeft =>
    !directions.contains .toRight && last ≠ some .neutral &&
      !(directions.contains .figure && directions.contains .arabicFigure)
  | some _ => false

/-- Whether a text is read in the direction of its first letter. -/
def fitsDirection (cs : List Char) : Bool := directionsFit (cs.map directionOf)

end Nodewright.Text
