import FileCleanup.Text.Ranges

namespace FileCleanup.Domain

open Text

/-!
Characters beyond ASCII that a name of a domain may hold in place of others: ones that do not
count, and ones that stand for ASCII text, such as wide, raised and encircled letters (Unicode
Technical Standard 46).
-/

def ignoredRanges : List (Nat × Nat) :=
  [(0xad, 0xad), (0x34f, 0x34f), (0x115f, 0x1160), (0x17b4, 0x17b5), (0x180b, 0x180f),
    (0x200b, 0x200b), (0x2060, 0x2064), (0x206a, 0x206f), (0x3164, 0x3164),
    (0xfe00, 0xfe0f), (0xfeff, 0xfeff), (0xffa0, 0xffa0), (0x1bca0, 0x1bca3),
    (0x1d173, 0x1d17a), (0xe0100, 0xe01ef)]

def isIgnored (c : Char) : Bool :=
  inRanges ignoredRanges c.toNat

/-- Characters that stand for a text with a blank, or with a mark that parts of an address are
told apart by.  Those for angle brackets are left out, since these can become part of others. -/
def forbiddenFormRanges : List (Nat × Nat) :=
  [(0xa0, 0xa0), (0xa8, 0xa8), (0xaf, 0xaf), (0xb4, 0xb4), (0xb8, 0xb8), (0x2d8, 0x2dd),
    (0x37a, 0x37a), (0x384, 0x385), (0x1fbd, 0x1fbd), (0x1fbf, 0x1fc1), (0x1fcd, 0x1fcf),
    (0x1fdd, 0x1fdf), (0x1fed, 0x1fee), (0x1ffd, 0x1ffe), (0x2000, 0x200a),
    (0x2017, 0x2017), (0x202f, 0x202f), (0x203e, 0x203e), (0x2047, 0x2049),
    (0x205f, 0x205f), (0x2100, 0x2101), (0x2105, 0x2106), (0x2a74, 0x2a74),
    (0x3000, 0x3000), (0x309b, 0x309c), (0xfc5e, 0xfc63), (0xfdfa, 0xfdfb),
    (0xfe13, 0xfe13), (0xfe16, 0xfe16), (0xfe47, 0xfe4c), (0xfe55, 0xfe56),
    (0xfe5f, 0xfe5f), (0xfe68, 0xfe68), (0xfe6a, 0xfe6b), (0xfe70, 0xfe70),
    (0xfe72, 0xfe72), (0xfe74, 0xfe74), (0xfe76, 0xfe76), (0xfe78, 0xfe78),
    (0xfe7a, 0xfe7a), (0xfe7c, 0xfe7c), (0xfe7e, 0xfe7e), (0xff03, 0xff03),
    (0xff05, 0xff05), (0xff0f, 0xff0f), (0xff1a, 0xff1a), (0xff1f, 0xff20),
    (0xff3b, 0xff3e), (0xff5c, 0xff5c), (0xffe3, 0xffe3)]

def isForbiddenForm (c : Char) : Bool :=
  inRanges forbiddenFormRanges c.toNat

/-- Code points in a row that stand for one ASCII character each, after the first of them. -/
def asciiCharacters : List (Nat × String) :=
  [(0xaa, "a"), (0xb2, "23"), (0xb9, "1o"), (0x17f, "s"), (0x2b0, "h"), (0x2b2, "jr"),
    (0x2b7, "wy"), (0x2e1, "lsx"), (0x37e, ";"), (0x1d2c, "a"), (0x1d2e, "b"), (0x1d30, "de"),
    (0x1d33, "ghijklmn"), (0x1d3c, "o"), (0x1d3e, "prtuwa"), (0x1d47, "bde"), (0x1d4d, "g"),
    (0x1d4f, "km"), (0x1d52, "o"), (0x1d56, "ptu"), (0x1d5b, "v"), (0x1d62, "iruv"),
    (0x1d9c, "c"), (0x1da0, "f"), (0x1dbb, "z"), (0x1fef, "\x60"), (0x2070, "0i"),
    (0x2074, "456789+"), (0x207c, "=()n0123456789+"), (0x208c, "=()"), (0x2090, "aeox"),
    (0x2095, "hklmnpst"), (0x2102, "c"), (0x210a, "ghhhh"), (0x2110, "iill"), (0x2115, "n"),
    (0x2119, "pqrrr"), (0x2124, "z"), (0x2128, "z"), (0x212a, "k"), (0x212c, "bc"),
    (0x212f, "eef"), (0x2133, "mo"), (0x2139, "i"), (0x2145, "ddeij"), (0x2160, "i"),
    (0x2164, "v"), (0x2169, "x"), (0x216c, "lcdmi"), (0x2174, "v"), (0x2179, "x"),
    (0x217c, "lcdm"), (0x2460, "123456789"),
    (0x24b6, "abcdefghijklmnopqrstuvwxyzabcdefghijklmnopqrstuvwxyz0"), (0x2c7c, "jv"),
    (0x3002, "."), (0xa7f1, "scfq"), (0xfb29, "+"), (0xfe10, ","), (0xfe14, ";!"),
    (0xfe33, "__()\x7b\x7d"), (0xfe4d, "___,"), (0xfe54, ";"), (0xfe57, "!"),
    (0xfe59, "()\x7b\x7d"), (0xfe60, "&*+-"), (0xfe64, "<>="), (0xfe69, "$"), (0xff01, "!\""),
    (0xff04, "$"), (0xff06, "&'()*+,-."), (0xff10, "0123456789"), (0xff1b, ";<=>"),
    (0xff21, "abcdefghijklmnopqrstuvwxyz"), (0xff3f, "_\x60abcdefghijklmnopqrstuvwxyz\x7b"),
    (0xff5d, "\x7d~"), (0xff61, "."), (0x107a5, "q"),
    (0x1ccd6, "abcdefghijklmnopqrstuvwxyz0123456789"),
    (0x1d400, "abcdefghijklmnopqrstuvwxyzabcdefghijklmnopqrstuvwxyz"),
    (0x1d434, "abcdefghijklmnopqrstuvwxyzabcdefg"),
    (0x1d456, "ijklmnopqrstuvwxyzabcdefghijklmnopqrstuvwxyzabcdefgh"),
    (0x1d48a, "ijklmnopqrstuvwxyza"), (0x1d49e, "cd"), (0x1d4a2, "g"), (0x1d4a5, "jk"),
    (0x1d4a9, "nopq"), (0x1d4ae, "stuvwxyzabcd"), (0x1d4bb, "f"), (0x1d4bd, "hijklmn"),
    (0x1d4c5, "pqrstuvwxyzabcdefghijklmnopqrstuvwxyzabcdefghijklmno"),
    (0x1d4f9, "pqrstuvwxyzab"), (0x1d507, "defg"), (0x1d50d, "jklmnopq"), (0x1d516, "stuvwxy"),
    (0x1d51e, "abcdefghijklmnopqrstuvwxyzab"), (0x1d53b, "defg"), (0x1d540, "ijklm"),
    (0x1d546, "o"), (0x1d54a, "stuvwxy"),
    (0x1d552, "abcdefghijklmnopqrstuvwxyzabcdefghijklmnopqrstuvwxyz"),
    (0x1d586, "abcdefghijklmnopqrstuvwxyzabcdefghijklmnopqrstuvwxyz"),
    (0x1d5ba, "abcdefghijklmnopqrstuvwxyzabcdefghijklmnopqrstuvwxyz"),
    (0x1d5ee, "abcdefghijklmnopqrstuvwxyzabcdefghijklmnopqrstuvwxyz"),
    (0x1d622, "abcdefghijklmnopqrstuvwxyzabcdefghijklmnopqrstuvwxyz"),
    (0x1d656, "abcdefghijklmnopqrstuvwxyzabcdefghijklmnopqrstuvwxyz"),
    (0x1d68a, "abcdefghijklmnopqrstuvwxyz"),
    (0x1d7ce, "01234567890123456789012345678901234567890123456789"), (0x1f12b, "cr"),
    (0x1f130, "abcdefghijklmnopqrstuvwxyz"), (0x1fbf0, "0123456789")]

/-- Code points in a row that stand for longer texts, after the first of them. -/
def asciiWords : List (Nat × List String) :=
  [(0x132, ["ij", "ij"]), (0x1c7, ["lj", "lj", "lj", "nj", "nj", "nj"]),
    (0x1f1, ["dz", "dz", "dz"]), (0x203c, ["!!"]), (0x20a8, ["rs"]), (0x2116, ["no"]),
    (0x2120, ["sm", "tel", "tm"]), (0x213b, ["fax"]), (0x2161, ["ii", "iii", "iv"]),
    (0x2165, ["vi", "vii", "viii", "ix"]), (0x216a, ["xi", "xii"]),
    (0x2171, ["ii", "iii", "iv"]), (0x2175, ["vi", "vii", "viii", "ix"]),
    (0x217a, ["xi", "xii"]), (0x2469, ["10", "11", "12", "13", "14", "15", "16", "17", "18"]),
    (0x2472, ["19", "20", "(1)", "(2)", "(3)", "(4)", "(5)", "(6)", "(7)"]),
    (0x247b, ["(8)", "(9)", "(10)", "(11)", "(12)", "(13)", "(14)", "(15)", "(16)"]),
    (0x2484, ["(17)", "(18)", "(19)", "(20)"]),
    (0x249c, ["(a)", "(b)", "(c)", "(d)", "(e)", "(f)", "(g)", "(h)", "(i)"]),
    (0x24a5, ["(j)", "(k)", "(l)", "(m)", "(n)", "(o)", "(p)", "(q)", "(r)"]),
    (0x24ae, ["(s)", "(t)", "(u)", "(v)", "(w)", "(x)", "(y)", "(z)"]), (0x2a75, ["==", "==="]),
    (0x3250, ["pte", "21", "22", "23", "24", "25", "26", "27", "28"]),
    (0x3259, ["29", "30", "31", "32", "33", "34", "35"]),
    (0x32b1, ["36", "37", "38", "39", "40", "41", "42", "43", "44"]),
    (0x32ba, ["45", "46", "47", "48", "49", "50"]), (0x32cc, ["hg", "erg", "ev", "ltd"]),
    (0x3371, ["hpa", "da", "au", "bar", "ov", "pc", "dm", "dm2", "dm3"]), (0x337a, ["iu"]),
    (0x3380, ["pa", "na"]), (0x3383, ["ma", "ka", "kb", "mb", "gb", "cal", "kcal", "pf", "nf"]),
    (0x338e, ["mg", "kg", "hz", "khz", "mhz", "ghz", "thz"]),
    (0x3396, ["ml", "dl", "kl", "fm", "nm"]),
    (0x339c, ["mm", "cm", "km", "mm2", "cm2", "m2", "km2", "mm3", "cm3"]),
    (0x33a5, ["m3", "km3"]), (0x33a9, ["pa", "kpa", "mpa", "gpa", "rad"]),
    (0x33b0, ["ps", "ns"]), (0x33b3, ["ms", "pv", "nv"]),
    (0x33b7, ["mv", "kv", "mv", "pw", "nw"]), (0x33bd, ["mw", "kw", "mw"]),
    (0x33c3, ["bq", "cc", "cd"]),
    (0x33c8, ["db", "gy", "ha", "hp", "in", "kk", "km", "kt", "lm"]),
    (0x33d1, ["ln", "log", "lx", "mb", "mil", "mol", "ph"]),
    (0x33d9, ["ppm", "pr", "sr", "sv", "wb"]), (0x33ff, ["gal"]),
    (0xfb00, ["ff", "fi", "fl", "ffi", "ffl", "st", "st"]),
    (0x1f101, ["0,", "1,", "2,", "3,", "4,", "5,", "6,", "7,", "8,"]), (0x1f10a, ["9,"]),
    (0x1f110, ["(a)", "(b)", "(c)", "(d)", "(e)", "(f)", "(g)", "(h)", "(i)"]),
    (0x1f119, ["(j)", "(k)", "(l)", "(m)", "(n)", "(o)", "(p)", "(q)", "(r)"]),
    (0x1f122, ["(s)", "(t)", "(u)", "(v)", "(w)", "(x)", "(y)", "(z)"]),
    (0x1f12d, ["cd", "wz"]), (0x1f14a, ["hv", "mv", "sd", "ss", "ppv", "wc"]),
    (0x1f16a, ["mc", "md", "mr"]), (0x1f190, ["dj"])]

/-- The ASCII text that a character stands for. -/
def asciiForm? (c : Char) : Option (List Char) :=
  let code := c.toNat
  (asciiCharacters.findSome? fun (first, texts) =>
    if first ≤ code then (texts.toList[code - first]?).map ([·]) else none).or
  (asciiWords.findSome? fun (first, texts) =>
    if first ≤ code then (texts[code - first]?).map String.toList else none)

end FileCleanup.Domain
