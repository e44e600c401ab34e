/-!
# Table of romanizations

Latin spellings of the characters of other scripts, of letters with no decomposition, and of
symbols. Each row gives the spellings of consecutive characters.
-/

namespace ClauseAudit.Naming

def latinRows : List (Nat × List String) := [
  (0xA0, [" ", "!", "C/", "PS", "$?", "Y=", "|", "SS", "\"", "(c)", "a", "<<", "!", "", "(r)",
    "-", "deg", "+-", "2", "3", "'", "u", "P", "*", ",", "1", "o", ">>", "1/4", "1/2", "3/4", "?",
    "A", "A", "A", "A", "A", "A", "AE", "C", "E", "E", "E", "E", "I", "I", "I", "I", "D", "N",
    "O", "O", "O", "O", "O", "x", "O", "U", "U", "U", "U", "Y", "Th", "ss", "a", "a", "a", "a",
    "a", "a", "ae", "c", "e", "e", "e", "e", "i", "i", "i", "i", "d", "n", "o", "o", "o", "o",
    "o", "/", "o", "u", "u", "u", "u", "y", "th", "y"]),
  (0x110, ["D", "d"]),
  (0x126, ["H", "h"]),
  (0x131, ["i"]),
  (0x138, ["k"]),
  (0x141, ["L", "l"]),
  (0x14A, ["NG", "ng"]),
  (0x152, ["OE", "oe"]),
  (0x166, ["T", "t"]),
  (0x180, ["b", "B", "B", "b", "6", "6", "O", "C", "c", "D", "D", "D", "d", "d", "3", "@", "E",
    "F", "f", "G", "G", "hv", "I", "I", "K", "k", "l", "l", "W", "N", "n", "O"]),
  (0x1A2, ["OI", "oi", "P", "p", "YR", "2", "2", "SH", "sh", "t", "T", "t", "T"]),
  (0x1B1, ["Y", "V", "Y", "y", "Z", "z", "ZH", "ZH", "zh", "zh", "2", "5", "5", "ts", "w", "|",
    "||", "|=", "!"]),
  (0x1DD, ["@"]),
  (0x1E4, ["G", "g"]),
  (0x1F6, ["HV", "W"]),
  (0x21C, ["Y", "y"]),
  (0x220, ["N", "d", "OU", "ou", "Z", "z"]),
  (0x234, ["l", "n", "t", "j", "db", "qp", "A", "C", "c", "L", "T", "s", "z"]),
  (0x243, ["B", "U", "^", "E", "e", "J", "j", "q", "q", "R", "r", "Y", "y"]),
  (0x250, ["a", "a", "a", "b", "o", "c", "d", "d", "e", "@", "@", "e", "e", "e", "e", "j", "g",
    "g", "g", "g", "u", "Y", "h", "h", "i", "i", "I", "l", "l", "l", "lZ", "W", "W", "m", "n",
    "n", "n", "o", "OE", "O", "F", "R", "R", "R", "R", "r", "r", "r", "R", "R", "R", "s", "S",
    "j", "S", "S", "t", "t", "U", "U", "v", "^", "W", "Y", "Y", "z", "z", "Z", "Z", "?", "?", "?",
    "C", "@", "B", "E", "G", "H", "j", "k", "L", "q", "?", "?", "dz", "dZ", "dz", "ts", "tS",
    "tC", "fN", "ls", "lz", "WW", "]]"]),
  (0x2B9, ["'", "\"", "`", "'", "`", "`", "'", "?", "?", "<", ">", "^", "V", "^", "V", "'", "-",
    "/", "\\", ",", "", "\\", "/", ":", ".", "`", "'", "^", "V", "+", "-", "V"]),
  (0x363, ["a", "e", "i", "o", "u", "c", "d", "h", "m", "r", "t", "v", "x"]),
  (0x1E9E, ["Ss"])]

def greekRows : List (Nat × List String) := [
  (0x374, ["'", ","]),
  (0x391, ["A", "B", "G", "D", "E", "Z", "E", "Th", "I", "K", "L", "M", "N", "Ks", "O", "P", "R"]),
  (0x3A3, ["S", "T", "U", "Ph", "Kh", "Ps", "O"]),
  (0x3B1, ["a", "b", "g", "d", "e", "z", "e", "th", "i", "k", "l", "m", "n", "x", "o", "p", "r",
    "s", "s", "t", "u", "ph", "kh", "ps", "o"]),
  (0x3D7, ["&"]),
  (0x3DA, ["St", "st", "W", "w", "Q", "q", "Sp", "sp", "Sh", "sh", "F", "f", "Kh", "kh", "H", "h",
    "G", "g", "CH", "ch", "Ti", "ti"]),
  (0x3F3, ["j"])]

def cyrillicRows : List (Nat × List String) := [
  (0x402, ["Dj"]),
  (0x404, ["Ie", "Dz", "I"]),
  (0x408, ["J", "Lj", "Nj", "Tsh"]),
  (0x40F, ["Dzh"]),
  (0x410, ["A", "B", "V", "G", "D", "E", "Zh", "Z", "I", "I", "K", "L", "M", "N", "O", "P", "R",
    "S", "T", "U", "F", "Kh", "Ts", "Ch", "Sh", "Shch", "'", "Y", "'", "E", "Iu", "Ia"]),
  (0x430, ["a", "b", "v", "g", "d", "e", "zh", "z", "i", "i", "k", "l", "m", "n", "o", "p", "r",
    "s", "t", "u", "f", "kh", "ts", "ch", "sh", "shch", "'", "y", "'", "e", "iu", "ia"]),
  (0x452, ["dj"]),
  (0x454, ["ie", "dz", "i"]),
  (0x458, ["j", "lj", "nj", "tsh"]),
  (0x45F, ["dzh"]),
  (0x460, ["O", "o", "E", "e", "Ie", "ie", "E", "e", "Ie", "ie", "O", "o", "Io", "io", "Ks", "ks",
    "Ps", "ps", "F", "f", "Y", "y"]),
  (0x478, ["u", "u", "O", "o", "O", "o", "Ot", "ot", "Q", "q", "*1000*"]),
  (0x490, ["G'", "g'", "G'", "g'", "G'", "g'", "Zh'", "zh'", "Z'", "z'", "K'", "k'", "K'", "k'",
    "K'", "k'", "K'", "k'", "N'", "n'", "Ng", "ng", "P'", "p'", "Kh", "kh", "S'", "s'", "T'",
    "t'", "U", "u", "U'", "u'", "Kh'", "kh'", "Tts", "tts", "Ch'", "ch'", "Ch'", "ch'", "H", "h",
    "Ch", "ch", "Ch'", "ch'", "`"]),
  (0x4C3, ["K'", "k'"]),
  (0x4C7, ["N'", "n'"]),
  (0x4CB, ["Ch", "ch"]),
  (0x4D4, ["Ae", "ae"]),
  (0x4D8, ["@", "@"]),
  (0x4E0, ["Dz", "dz"]),
  (0x4E8, ["O", "o"])]

def caucasianRows : List (Nat × List String) := [
  (0x531, ["A", "B", "G", "D", "E", "Z", "E", "E", "T`", "Zh", "I", "L", "Kh", "Ts", "K", "H",
    "Dz", "Gh", "Ch", "M", "Y", "N", "Sh", "O", "Ch`", "P", "J", "Rh", "S", "V", "T", "R", "Ts`",
    "W", "P`", "K`", "O", "F"]),
  (0x559, ["<", "'", "/", "!", ",", "?", "."]),
  (0x561, ["a", "b", "g", "d", "e", "z", "e", "e", "t`", "zh", "i", "l", "kh", "ts", "k", "h",
    "dz", "gh", "ch", "m", "y", "n", "sh", "o", "ch`", "p", "j", "rh", "s", "v", "t", "r", "ts`",
    "w", "p`", "k`", "o", "f"]),
  (0x589, [".", "-"]),
  (0x10A0, ["A", "B", "G", "D", "E", "V", "Z", "T`", "I", "K", "L", "M", "N", "O", "P", "Zh", "R",
    "S", "T", "U", "P`", "K`", "G'", "Q", "Sh", "Ch`", "C`", "Z'", "C", "Ch", "X", "J", "H", "E",
    "Y", "W", "Xh", "OE"]),
  (0x10D0, ["a", "b", "g", "d", "e", "v", "z", "t`", "i", "k", "l", "m", "n", "o", "p", "zh", "r",
    "s", "t", "u", "p`", "k`", "g'", "q", "sh", "ch`", "c`", "z'", "c", "ch", "x", "j", "h", "e",
    "y", "w", "xh", "oe", "f"]),
  (0x10FB, ["//"])]

def semiticRows : List (Nat × List String) := [
  (0x5B0, ["@", "e", "a", "o", "i", "e", "e", "a", "a", "o", "", "u", "'", "", "-", "-", "|", "",
    "", ":", ""]),
  (0x5D0, ["", "b", "g", "d", "h", "v", "z", "kh", "t", "y", "k", "k", "l", "m", "m", "n", "n",
    "s", "`", "p", "p", "ts", "ts", "q", "r", "sh", "t"]),
  (0x5F0, ["V", "oy", "i", "'", "\""]),
  (0x60C, [","]),
  (0x61B, [";"]),
  (0x61F, ["?"]),
  (0x628, ["b", "@", "t", "th", "j", "H", "kh", "d", "dh", "r", "z", "s", "sh", "S", "D", "T",
    "Z", "`", "G"]),
  (0x641, ["f", "q", "k", "l", "m", "n", "h", "w", "~", "y", "an", "un", "in", "a", "u", "i", "W",
    "", "", "'", "'"]),
  (0x660, ["0", "1", "2", "3", "4", "5", "6", "7", "8", "9", "%", ".", ",", "*"]),
  (0x671, ["'", "'", "'"]),
  (0x679, ["tt", "tth", "b", "t", "T", "p", "th", "bh", "'h", "H", "ny", "dy", "H", "ch", "cch",
    "dd", "D", "D", "Dt", "dh", "ddh", "d", "D", "D", "rr", "R", "R", "R", "R", "R", "R", "j",
    "R", "S", "S", "S", "S", "S", "T", "GH", "F", "F", "F", "v", "f", "ph", "Q", "Q", "kh", "k",
    "K", "K", "ng", "K", "g", "G", "N", "G", "G", "G", "L", "L", "L", "L", "N", "N", "N", "N",
    "N", "h", "Ch", "hy", "h", "H", "@", "W", "oe", "oe", "u", "yu", "yu", "W", "v", "y", "Y",
    "Y", "W", "", "", "y", "y'", ".", "ae"]),
  (0x6F0, ["0", "1", "2", "3", "4", "5", "6", "7", "8", "9"])]

def indianRows : List (Nat × List String) := [
  (0x901, ["N", "N", "H"]),
  (0x905, ["a", "aa", "i", "ii", "u", "uu", "R", "L", "eN", "e", "e", "ai", "oN", "o", "o", "au",
    "k", "kh", "g", "gh", "ng", "c", "ch", "j", "jh", "ny", "tt", "tth", "dd", "ddh", "nn", "t",
    "th", "d", "dh", "n", "nnn", "p", "ph", "b", "bh", "m", "y", "r", "rr", "l", "l", "lll", "v",
    "sh", "ss", "s", "h"]),
  (0x93C, ["'", "'", "aa", "i", "ii", "u", "uu", "R", "RR", "eN", "e", "e", "ai", "oN", "o", "o",
    "au", ""]),
  (0x950, ["AUM", "'", "'", "`", "'"]),
  (0x958, ["q", "khh", "ghh", "z", "dddh", "rh", "f", "yy", "RR", "LL", "L", "LL", " / ", " // ",
    "0", "1", "2", "3", "4", "5", "6", "7", "8", "9", "."]),
  (0x981, ["N", "N", "H"]),
  (0x985, ["a", "aa", "i", "ii", "u", "uu", "R", "L", "eN", "e", "e", "ai", "oN", "o", "o", "au",
    "k", "kh", "g", "gh", "ng", "c", "ch", "j", "jh", "ny", "tt", "tth", "dd", "ddh", "nn", "t",
    "th", "d", "dh", "n", "nnn", "p", "ph", "b", "bh", "m", "y", "r", "rr", "l", "l", "lll", "v",
    "sh", "ss", "s", "h"]),
  (0x9BC, ["'", "'", "aa", "i", "ii", "u", "uu", "R", "RR", "eN", "e", "e", "ai", "oN", "o", "o",
    "au", ""]),
  (0x9E0, ["RR", "LL", "L", "LL"]),
  (0x9E6, ["0", "1", "2", "3", "4", "5", "6", "7", "8", "9"]),
  (0xA01, ["N", "N", "H"]),
  (0xA05, ["a", "aa", "i", "ii", "u", "uu", "R", "L", "eN", "ee", "ee", "ai", "oN", "oo", "oo",
    "au", "k", "kh", "g", "gh", "ng", "c", "ch", "j", "jh", "ny", "tt", "tth", "dd", "ddh", "nn",
    "t", "th", "d", "dh", "n", "nnn", "p", "ph", "b", "bh", "m", "y", "r", "rr", "l", "ll", "lll",
    "v", "sh", "ss", "s", "h"]),
  (0xA3C, ["'", "'", "aa", "i", "ii", "u", "uu", "R", "RR", "eN", "ee", "ee", "ai", "oN", "oo",
    "oo", "au", ""]),
  (0xA60, ["RR", "LL", "L", "LL"]),
  (0xA66, ["0", "1", "2", "3", "4", "5", "6", "7", "8", "9"]),
  (0xA81, ["N", "N", "H"]),
  (0xA85, ["a", "aa", "i", "ii", "u", "uu", "R", "L", "eN", "e", "e", "ai", "oN", "o", "o", "au",
    "k", "kh", "g", "gh", "ng", "c", "ch", "j", "jh", "ny", "tt", "tth", "dd", "ddh", "nn", "t",
    "th", "d", "dh", "n", "nnn", "p", "ph", "b", "bh", "m", "y", "r", "rr", "l", "ll", "lll", "v",
    "sh", "ss", "s", "h"]),
  (0xABC, ["'", "'", "aa", "i", "ii", "u", "uu", "R", "RR", "eN", "e", "e", "ai", "oN", "o", "o",
    "au", ""]),
  (0xAE0, ["RR", "LL", "L", "LL"]),
  (0xAE6, ["0", "1", "2", "3", "4", "5", "6", "7", "8", "9"]),
  (0xB01, ["N", "N", "H"]),
  (0xB05, ["a", "aa", "i", "ii", "u", "uu", "R", "L", "eN", "e", "e", "ai", "oN", "o", "o", "au",
    "k", "kh", "g", "gh", "ng", "c", "ch", "j", "jh", "ny", "tt", "tth", "dd", "ddh", "nn", "t",
    "th", "d", "dh", "n", "nnn", "p", "ph", "b", "bh", "m", "y", "r", "rr", "l", "ll", "lll", "v",
    "sh", "ss", "s", "h"]),
  (0xB3C, ["'", "'", "aa", "i", "ii", "u", "uu", "R", "RR", "eN", "e", "e", "ai", "oN", "o", "o",
    "au", ""]),
  (0xB60, ["RR", "LL", "L", "LL"]),
  (0xB66, ["0", "1", "2", "3", "4", "5", "6", "7", "8", "9"]),
  (0xB81, ["N", "N", "H"]),
  (0xB85, ["a", "aa", "i", "ii", "u", "uu", "R", "L", "eN", "e", "ee", "ai", "oN", "o", "oo",
    "au", "k", "kh", "g", "gh", "ng", "c", "ch", "j", "jh", "ny", "tt", "tth", "dd", "ddh", "nn",
    "t", "th", "d", "dh", "n", "nnn", "p", "ph", "b", "bh", "m", "y", "r", "rr", "l", "ll", "lll",
    "v", "sh", "ss", "s", "h"]),
  (0xBBC, ["'", "'", "aa", "i", "ii", "u", "uu", "R", "RR", "eN", "e", "ee", "ai", "oN", "o",
    "oo", "au", ""]),
  (0xBE0, ["RR", "LL", "L", "LL"]),
  (0xBE6, ["0", "1", "2", "3", "4", "5", "6", "7", "8", "9"]),
  (0xC01, ["N", "N", "H"]),
  (0xC05, ["a", "aa", "i", "ii", "u", "uu", "R", "L", "eN", "e", "ee", "ai", "oN", "o", "oo",
    "au", "k", "kh", "g", "gh", "ng", "c", "ch", "j", "jh", "ny", "tt", "tth", "dd", "ddh", "nn",
    "t", "th", "d", "dh", "n", "nnn", "p", "ph", "b", "bh", "m", "y", "r", "rr", "l", "ll", "lll",
    "v", "sh", "ss", "s", "h"]),
  (0xC3C, ["'", "'", "aa", "i", "ii", "u", "uu", "R", "RR", "eN", "e", "ee", "ai", "oN", "o",
    "oo", "au", ""]),
  (0xC60, ["RR", "LL", "L", "LL"]),
  (0xC66, ["0", "1", "2", "3", "4", "5", "6", "7", "8", "9"]),
  (0xC81, ["N", "N", "H"]),
  (0xC85, ["a", "aa", "i", "ii", "u", "uu", "R", "L", "eN", "e", "ee", "ai", "oN", "o", "oo",
    "au", "k", "kh", "g", "gh", "ng", "c", "ch", "j", "jh", "ny", "tt", "tth", "dd", "ddh", "nn",
    "t", "th", "d", "dh", "n", "nnn", "p", "ph", "b", "bh", "m", "y", "r", "rr", "l", "ll", "lll",
    "v", "sh", "ss", "s", "h"]),
  (0xCBC, ["'", "'", "aa", "i", "ii", "u", "uu", "R", "RR", "eN", "e", "ee", "ai", "oN", "o",
    "oo", "au", ""]),
  (0xCE0, ["RR", "LL", "L", "LL"]),
  (0xCE6, ["0", "1", "2", "3", "4", "5", "6", "7", "8", "9"]),
  (0xD01, ["N", "N", "H"]),
  (0xD05, ["a", "aa", "i", "ii", "u", "uu", "R", "L", "eN", "e", "ee", "ai", "oN", "o", "oo",
    "au", "k", "kh", "g", "gh", "ng", "c", "ch", "j", "jh", "ny", "tt", "tth", "dd", "ddh", "nn",
    "t", "th", "d", "dh", "n", "nnn", "p", "ph", "b", "bh", "m", "y", "r", "rr", "l", "ll", "lll",
    "v", "sh", "ss", "s", "h"]),
  (0xD3C, ["'", "'", "aa", "i", "ii", "u", "uu", "R", "RR", "eN", "e", "ee", "ai", "oN", "o",
    "oo", "au", ""]),
  (0xD60, ["RR", "LL", "L", "LL"]),
  (0xD66, ["0", "1", "2", "3", "4", "5", "6", "7", "8", "9"])]

def thaiRows : List (Nat × List String) := [
  (0xE01, ["k", "kh", "kh", "kh", "kh", "kh", "ng", "cch", "ch", "ch", "ch", "ch", "y", "d", "t",
    "th", "th", "th", "n", "d", "t", "th", "th", "th", "n", "b", "p", "ph", "f", "ph", "f", "ph",
    "m", "y", "r", "R", "l", "L", "w", "s", "s", "s", "h", "l", "`", "h", "~", "a", "a", "aa",
    "am", "i", "ii", "ue", "uue", "u", "uu", "'"]),
  (0xE3F, ["Bh.", "e", "ae", "o", "ai", "ai", "ao", "+"]),
  (0xE4D, ["M"]),
  (0xE4F, [" * ", "0", "1", "2", "3", "4", "5", "6", "7", "8", "9", " // ", " /// "]),
  (0xE81, ["k", "kh"]),
  (0xE84, ["kh"]),
  (0xE87, ["ng", "ch"]),
  (0xE8A, ["s"]),
  (0xE8D, ["ny"]),
  (0xE94, ["d", "h", "th", "th"]),
  (0xE99, ["n", "b", "p", "ph", "f", "ph", "f"]),
  (0xEA1, ["m", "y", "r"]),
  (0xEA5, ["l"]),
  (0xEA7, ["w"]),
  (0xEAA, ["s", "h"]),
  (0xEAD, ["`", "", "~", "a", "", "aa", "am", "i", "ii", "y", "yy", "u", "uu"]),
  (0xEBB, ["o", "l", "ny"]),
  (0xEC0, ["e", "ei", "o", "ay", "ai"]),
  (0xED0, ["0", "1", "2", "3", "4", "5", "6", "7", "8", "9"])]

def ethiopicRows : List (Nat × List String) := [
  (0x1200, ["ha", "hu", "hi", "haa", "hee", "he", "ho"]),
  (0x1208, ["la", "lu", "li", "laa", "lee", "le", "lo"]),
  (0x1210, ["hha", "hhu", "hhi", "hhaa", "hhee", "hhe", "hho"]),
  (0x1218, ["ma", "mu", "mi", "maa", "mee", "me", "mo"]),
  (0x1220, ["sza", "szu", "szi", "szaa", "szee", "sze", "szo"]),
  (0x1228, ["ra", "ru", "ri", "raa", "ree", "re", "ro"]),
  (0x1230, ["sa", "su", "si", "saa", "see", "se", "so"]),
  (0x1238, ["sha", "shu", "shi", "shaa", "shee", "she", "sho"]),
  (0x1240, ["qa", "qu", "qi", "qaa", "qee", "qe", "qo"]),
  (0x1250, ["qha", "qhu", "qhi", "qhaa", "qhee", "qhe", "qho"]),
  (0x1260, ["ba", "bu", "bi", "baa", "bee", "be", "bo"]),
  (0x1268, ["va", "vu", "vi", "vaa", "vee", "ve", "vo"]),
  (0x1270, ["ta", "tu", "ti", "taa", "tee", "te", "to"]),
  (0x1278, ["ca", "cu", "ci", "caa", "cee", "ce", "co"]),
  (0x1290, ["na", "nu", "ni", "naa", "nee", "ne", "no"]),
  (0x1298, ["nya", "nyu", "nyi", "nyaa", "nyee", "nye", "nyo"]),
  (0x12A8, ["ka", "ku", "ki", "kaa", "kee", "ke", "ko"]),
  (0x12C8, ["wa", "wu", "wi", "waa", "wee", "we", "wo"]),
  (0x12D8, ["za", "zu", "zi", "zaa", "zee", "ze", "zo"]),
  (0x12E0, ["zha", "zhu", "zhi", "zhaa", "zhee", "zhe", "zho"]),
  (0x12E8, ["ya", "yu", "yi", "yaa", "yee", "ye", "yo"]),
  (0x12F0, ["da", "du", "di", "daa", "dee", "de", "do"]),
  (0x1300, ["ja", "ju", "ji", "jaa", "jee", "je", "jo"]),
  (0x1308, ["ga", "gu", "gi", "gaa", "gee", "ge", "go"]),
  (0x1320, ["tha", "thu", "thi", "thaa", "thee", "the", "tho"]),
  (0x1328, ["cha", "chu", "chi", "chaa", "chee", "che", "cho"]),
  (0x1330, ["pha", "phu", "phi", "phaa", "phee", "phe", "pho"]),
  (0x1338, ["tsa", "tsu", "tsi", "tsaa", "tsee", "tse", "tso"]),
  (0x1340, ["tza", "tzu", "tzi", "tzaa", "tzee", "tze", "tzo"]),
  (0x1348, ["fa", "fu", "fi", "faa", "fee", "fe", "fo"]),
  (0x1350, ["pa", "pu", "pi", "paa", "pee", "pe", "po"])]

def hangulRows : List (Nat × List String) := [
  (0x1100, ["g", "gg", "n", "d", "dd", "r", "m", "b", "bb", "s", "ss", "", "j", "jj", "c", "k",
    "t", "p", "h"]),
  (0x1161, ["a", "ae", "ya", "yae", "eo", "e", "yeo", "ye", "o", "wa", "wae", "oe", "yo", "u",
    "weo", "we", "wi", "yu", "eu", "yi", "i"]),
  (0x11A8, ["g", "gg", "gs", "n", "nj", "nh", "d", "l", "lg", "lm", "lb", "ls", "lt", "lp", "lh",
    "m", "b", "bs", "s", "ss", "ng", "j", "c", "k", "t", "p", "h"])]

def kanaRows : List (Nat × List String) := [
  (0x3001, [",", ".", "\"", "[JIS]", "\"", "/", "0", "<", "> ", "<<", ">> ", "[", "] ", "\x7b",
    "\x7d ", "[(", ")] ", "@", "X ", "[", "] ", "[[", "]] ", "((", ")) ", "[[", "]] ", " ~", "``",
    "''", ",,"]),
  (0x3041, ["a", "a", "i", "i", "u", "u", "e", "e", "o", "o", "ka", "ga", "ki", "gi", "ku", "gu",
    "ke", "ge", "ko", "go", "sa", "za", "shi", "zi", "su", "zu", "se", "ze", "so", "zo", "ta",
    "da", "chi", "di", "tsu", "tsu", "du", "te", "de", "to", "do", "na", "ni", "nu", "ne", "no",
    "ha", "ba", "pa", "hi", "bi", "pi", "hu", "bu", "pu", "he", "be", "pe", "ho", "bo", "po",
    "ma", "mi", "mu", "me", "mo", "ya", "ya", "yu", "yu", "yo", "yo", "ra", "ri", "ru", "re",
    "ro", "wa", "wa", "wi", "we", "wo", "n", "vu"]),
  (0x309D, ["\"", "\""]),
  (0x30A1, ["a", "a", "i", "i", "u", "u", "e", "e", "o", "o", "ka", "ga", "ki", "gi", "ku", "gu",
    "ke", "ge", "ko", "go", "sa", "za", "shi", "zi", "su", "zu", "se", "ze", "so", "zo", "ta",
    "da", "chi", "di", "tsu", "tsu", "du", "te", "de", "to", "do", "na", "ni", "nu", "ne", "no",
    "ha", "ba", "pa", "hi", "bi", "pi", "hu", "bu", "pu", "he", "be", "pe", "ho", "bo", "po",
    "ma", "mi", "mu", "me", "mo", "ya", "ya", "yu", "yu", "yo", "yo", "ra", "ri", "ru", "re",
    "ro", "wa", "wa", "wi", "we", "wo", "n", "vu", "ka", "ke", "va", "vi", "ve", "vo", "*", "-",
    "\"", "\""]),
  (0x3105, ["B", "P", "M", "F", "D", "T", "N", "L", "G", "K", "H", "J", "Q", "X", "ZH", "CH",
    "SH", "R", "Z", "C", "S", "A", "O", "E", "EH", "AI", "EI", "AU", "OU", "AN", "EN", "ANG",
    "ENG", "ER", "I", "U", "IU"])]

def symbolRows : List (Nat × List String) := [
  (0x2010, ["-", "-", "-", "-", "--", "--", "||", "", "'", "'", ",", "'", "\"", "\"", ",,", "\"",
    "+", "++", "*", "*>", ".", "..", "...", "."]),
  (0x2028, ["\n", "\n\n"]),
  (0x2030, ["%0", "%00", "'", "''", "'''", "`", "``", "```", "^", "<", ">", "*", "!!", "!?", "-",
    "", "-", "^", "***", "--", "/", "-[", "]-", "??", "?!", "!?", "7", "PP", "(]", "[)"]),
  (0x20A0, ["ECU", "CL", "Cr", "FF", "L", "mil", "N", "Pts", "Rs", "W", "NS", "D", "EUR", "K",
    "T", "Dr"]),
  (0x212E, ["e"]),
  (0x2132, ["F"]),
  (0x2190, ["-", "|", "-", "|", "-", "|", "\\", "/", "\\", "/", "-", "-", "~", "~", "-", "|", "-",
    "|", "-", "-", "-", "|", "-", "|", "|", "-", "-", "-", "-", "-", "-", "|", "|", "|", "|", "|",
    "|", "|", "^", "V", "\\", "=", "V", "^", "-", "-", "|", "|", "-", "-", "|", "|", "=", "|",
    "=", "=", "|", "=", "|", "=", "=", "=", "=", "=", "=", "|", "=", "|", "=", "|", "\\", "/",
    "\\", "/", "=", "=", "~", "~", "|", "|", "-", "|", "-", "|", "-", "-", "-", "|", "-", "|",
    "|", "|", "|", "|", "|", "|", "-", "\\", "\\", "|"]),
  (0x2500, ["-", "-", "|", "|", "-", "-", "|", "|", "-", "-", "|", "|", "+", "+", "+", "+", "+",
    "+", "+", "+", "+", "+", "+", "+", "+", "+", "+", "+", "+", "+", "+", "+", "+", "+", "+", "+",
    "+", "+", "+", "+", "+", "+", "+", "+", "+", "+", "+", "+", "+", "+", "+", "+", "+", "+", "+",
    "+", "+", "+", "+", "+", "+", "+", "+", "+", "+", "+", "+", "+", "+", "+", "+", "+", "+", "+",
    "+", "+", "-", "-", "|", "|", "-", "|", "+", "+", "+", "+", "+", "+", "+", "+", "+", "+", "+",
    "+", "+", "+", "+", "+", "+", "+", "+", "+", "+", "+", "+", "+", "+", "+", "+", "+", "+", "+",
    "+", "+", "+", "/", "\\", "X", "-", "|", "-", "|", "-", "|", "-", "|", "-", "|", "-", "|"]),
  (0x2580, ["#", "#", "#", "#", "#", "#", "#", "#", "#", "#", "#", "#", "#", "#", "#", "#", "#",
    "#", "#", "#", "#", "#", "-", "|"]),
  (0x25A0, ["#", "#", "#", "#", "#", "#", "#", "#", "#", "#", "#", "#", "^", "^", "^", "^", ">",
    ">", ">", ">", ">", ">", "V", "V", "V", "V", "<", "<", "<", "<", "<", "<", "*", "*", "*", "*",
    "*", "*", "*", "*", "*", "*", "*", "*", "*", "*", "*", "*", "*", "*", "*"])]

/-- All spellings. -/
def romanizationRows : List (Nat × List String) :=
  latinRows ++ greekRows ++ cyrillicRows ++ caucasianRows ++ semiticRows ++ indianRows ++
    thaiRows ++ ethiopicRows ++ hangulRows ++ kanaRows ++ symbolRows

end ClauseAudit.Naming
