import FileCleanup.Text.Ranges

namespace FileCleanup.Domain

open Text

/-!
What the characters of a name of a domain do to their neighbours: combining marks, the direction
of writing, and how letters join (Unicode, general category M, Bidi_Class and Joining_Type).
-/

/-- Combining marks, and characters that stand for a text that begins with one. -/
def markRanges : List (Nat × Nat) :=
  [(0x300, 0x344), (0x346, 0x36f), (0x483, 0x489), (0x591, 0x5bd), (0x5bf, 0x5bf),
    (0x5c1, 0x5c2), (0x5c4, 0x5c5), (0x5c7, 0x5c7), (0x610, 0x61a), (0x64b, 0x65f),
    (0x670, 0x670), (0x6d6, 0x6dc), (0x6df, 0x6e4), (0x6e7, 0x6e8), (0x6ea, 0x6ed),
    (0x711, 0x711), (0x730, 0x74a), (0x7a6, 0x7b0), (0x7eb, 0x7f3), (0x7fd, 0x7fd),
    (0x816, 0x819), (0x81b, 0x823), (0x825, 0x827), (0x829, 0x82d), (0x859, 0x85b),
    (0x897, 0x89f), (0x8ca, 0x903), (0x93a, 0x93c), (0x93e, 0x94f), (0x951, 0x957),
    (0x962, 0x963), (0x981, 0x983), (0x9bc, 0x9bc), (0x9be, 0x9cd), (0x9d7, 0x9d7),
    (0x9e2, 0x9e3), (0x9fe, 0xa03), (0xa3c, 0xa51), (0xa70, 0xa71), (0xa75, 0xa75),
    (0xa81, 0xa83), (0xabc, 0xabc), (0xabe, 0xacd), (0xae2, 0xae3), (0xafa, 0xb03),
    (0xb3c, 0xb3c), (0xb3e, 0xb57), (0xb62, 0xb63), (0xb82, 0xb82), (0xbbe, 0xbcd),
    (0xbd7, 0xbd7), (0xc00, 0xc04), (0xc3c, 0xc3c), (0xc3e, 0xc56), (0xc62, 0xc63),
    (0xc81, 0xc83), (0xcbc, 0xcbc), (0xcbe, 0xcd6), (0xce2, 0xce3), (0xcf3, 0xd03),
    (0xd3b, 0xd3c), (0xd3e, 0xd4d), (0xd57, 0xd57), (0xd62, 0xd63), (0xd81, 0xd83),
    (0xdca, 0xddf), (0xdf2, 0xdf3), (0xe31, 0xe31), (0xe33, 0xe3a), (0xe47, 0xe4e),
    (0xeb1, 0xeb1), (0xeb3, 0xebc), (0xec8, 0xece), (0xf18, 0xf19), (0xf35, 0xf35),
    (0xf37, 0xf37), (0xf39, 0xf39), (0xf3e, 0xf3f), (0xf71, 0xf84), (0xf86, 0xf87),
    (0xf8d, 0xfbc), (0xfc6, 0xfc6), (0x102b, 0x103e), (0x1056, 0x1059), (0x105e, 0x1060),
    (0x1062, 0x1064), (0x1067, 0x106d), (0x1071, 0x1074), (0x1082, 0x108d),
    (0x108f, 0x108f), (0x109a, 0x109d), (0x135d, 0x135f), (0x1712, 0x1715),
    (0x1732, 0x1734), (0x1752, 0x1753), (0x1772, 0x1773), (0x17b6, 0x17d3),
    (0x17dd, 0x17dd), (0x1885, 0x1886), (0x18a9, 0x18a9), (0x1920, 0x193b),
    (0x1a17, 0x1a1b), (0x1a55, 0x1a7f), (0x1ab0, 0x1b04), (0x1b34, 0x1b44),
    (0x1b6b, 0x1b73), (0x1b80, 0x1b82), (0x1ba1, 0x1bad), (0x1be6, 0x1bf3),
    (0x1c24, 0x1c37), (0x1cd0, 0x1cd2), (0x1cd4, 0x1ce8), (0x1ced, 0x1ced),
    (0x1cf4, 0x1cf4), (0x1cf7, 0x1cf9), (0x1dc0, 0x1dff), (0x20d0, 0x20f0),
    (0x2cef, 0x2cf1), (0x2d7f, 0x2d7f), (0x2de0, 0x2dff), (0x302a, 0x302f),
    (0x3099, 0x309a), (0xa66f, 0xa672), (0xa674, 0xa67d), (0xa69e, 0xa69f),
    (0xa6f0, 0xa6f1), (0xa802, 0xa802), (0xa806, 0xa806), (0xa80b, 0xa80b),
    (0xa823, 0xa827), (0xa82c, 0xa82c), (0xa880, 0xa881), (0xa8b4, 0xa8c5),
    (0xa8e0, 0xa8f1), (0xa8ff, 0xa8ff), (0xa926, 0xa92d), (0xa947, 0xa953),
    (0xa980, 0xa983), (0xa9b3, 0xa9c0), (0xa9e5, 0xa9e5), (0xaa29, 0xaa36),
    (0xaa43, 0xaa43), (0xaa4c, 0xaa4d), (0xaa7b, 0xaa7d), (0xaab0, 0xaab0),
    (0xaab2, 0xaab4), (0xaab7, 0xaab8), (0xaabe, 0xaabf), (0xaac1, 0xaac1),
    (0xaaeb, 0xaaef), (0xaaf5, 0xaaf6), (0xabe3, 0xabea), (0xabec, 0xabed),
    (0xfb1e, 0xfb1e), (0xfe20, 0xfe2f), (0xff9e, 0xff9f), (0x101fd, 0x101fd),
    (0x102e0, 0x102e0), (0x10376, 0x1037a), (0x10a01, 0x10a0f), (0x10a38, 0x10a3f),
    (0x10ae5, 0x10ae6), (0x10d24, 0x10d27), (0x10d69, 0x10d6d), (0x10eab, 0x10eac),
    (0x10efa, 0x10eff), (0x10f46, 0x10f50), (0x10f82, 0x10f85), (0x11000, 0x11002),
    (0x11038, 0x11046), (0x11070, 0x11070), (0x11073, 0x11074), (0x1107f, 0x11082),
    (0x110b0, 0x110ba), (0x110c2, 0x110c2), (0x11100, 0x11102), (0x11127, 0x11134),
    (0x11145, 0x11146), (0x11173, 0x11173), (0x11180, 0x11182), (0x111b3, 0x111c0),
    (0x111c9, 0x111cc), (0x111ce, 0x111cf), (0x1122c, 0x11237), (0x1123e, 0x1123e),
    (0x11241, 0x11241), (0x112df, 0x112ea), (0x11300, 0x11303), (0x1133b, 0x1133c),
    (0x1133e, 0x1134d), (0x11357, 0x11357), (0x11362, 0x11374), (0x113b8, 0x113d0),
    (0x113d2, 0x113d2), (0x113e1, 0x113e2), (0x11435, 0x11446), (0x1145e, 0x1145e),
    (0x114b0, 0x114c3), (0x115af, 0x115c0), (0x115dc, 0x115dd), (0x11630, 0x11640),
    (0x116ab, 0x116b7), (0x1171d, 0x1172b), (0x1182c, 0x1183a), (0x11930, 0x1193e),
    (0x11940, 0x11940), (0x11942, 0x11943), (0x119d1, 0x119e0), (0x119e4, 0x119e4),
    (0x11a01, 0x11a0a), (0x11a33, 0x11a39), (0x11a3b, 0x11a3e), (0x11a47, 0x11a47),
    (0x11a51, 0x11a5b), (0x11a8a, 0x11a99), (0x11b60, 0x11b67), (0x11c2f, 0x11c3f),
    (0x11c92, 0x11cb6), (0x11d31, 0x11d45), (0x11d47, 0x11d47), (0x11d8a, 0x11d97),
    (0x11ef3, 0x11ef6), (0x11f00, 0x11f01), (0x11f03, 0x11f03), (0x11f34, 0x11f42),
    (0x11f5a, 0x11f5a), (0x13440, 0x13440), (0x13447, 0x13455), (0x1611e, 0x1612f),
    (0x16af0, 0x16af4), (0x16b30, 0x16b36), (0x16f4f, 0x16f4f), (0x16f51, 0x16f92),
    (0x16fe4, 0x16ff1), (0x1bc9d, 0x1bc9e), (0x1cf00, 0x1cf46), (0x1d165, 0x1d169),
    (0x1d16d, 0x1d182), (0x1d185, 0x1d18b), (0x1d1aa, 0x1d1ad), (0x1d242, 0x1d244),
    (0x1da00, 0x1da36), (0x1da3b, 0x1da6c), (0x1da75, 0x1da75), (0x1da84, 0x1da84),
    (0x1da9b, 0x1daaf), (0x1e000, 0x1e02a), (0x1e08f, 0x1e08f), (0x1e130, 0x1e136),
    (0x1e2ae, 0x1e2ae), (0x1e2ec, 0x1e2ef), (0x1e4ec, 0x1e4ef), (0x1e5ee, 0x1e5ef),
    (0x1e6e3, 0x1e6e3), (0x1e6e6, 0x1e6e6), (0x1e6ee, 0x1e6ef), (0x1e6f5, 0x1e6f5),
    (0x1e8d0, 0x1e8d6), (0x1e944, 0x1e94a)]

def isMark (c : Char) : Bool :=
  inRanges markRanges c.toNat

/-- Letters and signs that are written from the right, Arabic ones among them. -/
def rightRanges : List (Nat × Nat) :=
  [(0x5be, 0x5f4), (0x608, 0x608), (0x60b, 0x60b), (0x60d, 0x60d), (0x61b, 0x64a),
    (0x66d, 0x6d5), (0x6e5, 0x6e6), (0x6ee, 0x6ef), (0x6fa, 0x7f5), (0x7fa, 0x8c9),
    (0xfb1d, 0xfb28), (0xfb2a, 0xfd3d), (0xfd50, 0xfdce), (0xfdf0, 0xfdfc),
    (0xfe70, 0xfefc), (0x10800, 0x1091b), (0x10920, 0x10b35), (0x10b40, 0x10d23),
    (0x10d40, 0x10d8f), (0x10e80, 0x10ff6), (0x1e800, 0x1eebb)]

def arabicNumberRanges : List (Nat × Nat) :=
  [(0x660, 0x669), (0x66b, 0x66c), (0x10d30, 0x10d39), (0x10e60, 0x10e7e)]

/-- Digits that run on like the European ones. -/
def numberRanges : List (Nat × Nat) :=
  [(0x6f0, 0x6f9), (0x102e1, 0x102fb)]

/-- Letters that join the one behind them. -/
def joinsBehindRanges : List (Nat × Nat) :=
  [(0x620, 0x620), (0x626, 0x626), (0x628, 0x628), (0x62a, 0x62e), (0x633, 0x63f),
    (0x641, 0x647), (0x649, 0x64a), (0x66e, 0x66f), (0x679, 0x687), (0x69a, 0x6bf),
    (0x6c1, 0x6c2), (0x6cc, 0x6cc), (0x6ce, 0x6ce), (0x6d0, 0x6d1), (0x6fa, 0x6fc),
    (0x6ff, 0x6ff), (0x712, 0x714), (0x71a, 0x71d), (0x71f, 0x727), (0x729, 0x729),
    (0x72b, 0x72b), (0x72d, 0x72e), (0x74e, 0x758), (0x75c, 0x76a), (0x76d, 0x770),
    (0x772, 0x772), (0x775, 0x777), (0x77a, 0x77f), (0x7ca, 0x7ea), (0x841, 0x845),
    (0x848, 0x848), (0x84a, 0x853), (0x855, 0x855), (0x860, 0x860), (0x862, 0x865),
    (0x868, 0x868), (0x886, 0x886), (0x889, 0x88d), (0x88f, 0x88f), (0x8a0, 0x8a9),
    (0x8af, 0x8b0), (0x8b3, 0x8b8), (0x8ba, 0x8c8), (0x1807, 0x1807), (0x1820, 0x1878),
    (0x1887, 0x18a8), (0x18aa, 0x18aa), (0xa840, 0xa872), (0x10ac0, 0x10ac4),
    (0x10acd, 0x10acd), (0x10ad3, 0x10adc), (0x10ade, 0x10ae0), (0x10aeb, 0x10aee),
    (0x10b80, 0x10b80), (0x10b82, 0x10b82), (0x10b86, 0x10b88), (0x10b8a, 0x10b8b),
    (0x10b8d, 0x10b8d), (0x10b90, 0x10b90), (0x10bad, 0x10bae), (0x10d00, 0x10d21),
    (0x10d23, 0x10d23), (0x10ec3, 0x10ec4), (0x10ec6, 0x10ec7), (0x10f30, 0x10f32),
    (0x10f34, 0x10f44), (0x10f51, 0x10f53), (0x10f70, 0x10f73), (0x10f76, 0x10f81),
    (0x10fb0, 0x10fb0), (0x10fb2, 0x10fb3), (0x10fb8, 0x10fb8), (0x10fbb, 0x10fbc),
    (0x10fbe, 0x10fbf), (0x10fc1, 0x10fc1), (0x10fc4, 0x10fc4), (0x10fca, 0x10fcb),
    (0x1e922, 0x1e943)]

/-- Letters that join the one before them. -/
def joinsBeforeRanges : List (Nat × Nat) :=
  [(0x620, 0x620), (0x622, 0x63f), (0x641, 0x64a), (0x66e, 0x66f), (0x671, 0x673),
    (0x679, 0x6d3), (0x6d5, 0x6d5), (0x6ee, 0x6ef), (0x6fa, 0x6fc), (0x6ff, 0x6ff),
    (0x710, 0x710), (0x712, 0x72f), (0x74d, 0x77f), (0x7ca, 0x7ea), (0x840, 0x858),
    (0x860, 0x860), (0x862, 0x865), (0x867, 0x882), (0x886, 0x886), (0x889, 0x88f),
    (0x8a0, 0x8ac), (0x8ae, 0x8c8), (0x1807, 0x1807), (0x1820, 0x1878), (0x1887, 0x18a8),
    (0x18aa, 0x18aa), (0xa840, 0xa871), (0x10ac0, 0x10ac5), (0x10ac7, 0x10ac7),
    (0x10ac9, 0x10aca), (0x10ace, 0x10ad6), (0x10ad8, 0x10ae1), (0x10ae4, 0x10ae4),
    (0x10aeb, 0x10aef), (0x10b80, 0x10b91), (0x10ba9, 0x10bae), (0x10d01, 0x10d23),
    (0x10ec2, 0x10ec4), (0x10ec6, 0x10ec7), (0x10f30, 0x10f44), (0x10f51, 0x10f54),
    (0x10f70, 0x10f81), (0x10fb0, 0x10fb0), (0x10fb2, 0x10fb6), (0x10fb8, 0x10fbf),
    (0x10fc1, 0x10fc4), (0x10fc9, 0x10fca), (0x1e922, 0x1e943)]

end FileCleanup.Domain
