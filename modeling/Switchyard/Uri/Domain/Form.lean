import Switchyard.Text.Range

namespace Switchyard.Uri.Domain

/-- Characters that count for nothing: hyphens that show at the end of a line only, joiners of
words, selectors of variants, fillers, marks of musical phrases. -/
def ignored : List (Nat × Nat) := [
  (0xAD, 0xAD), (0x34F, 0x34F), (0x115F, 0x1160), (0x17B4, 0x17B5), (0x180B, 0x180F),
  (0x200B, 0x200B), (0x2060, 0x2064), (0x206A, 0x206F), (0x3164, 0x3164), (0xFE00, 0xFE0F),
  (0xFEFF, 0xFEFF), (0xFFA0, 0xFFA0), (0x1BCA0, 0x1BCA3), (0x1D173, 0x1D17A),
  (0xE0100, 0xE01EF)]

def isIgnored (c : Char) : Bool := Text.inRanges c.toNat ignored

def letter (n : Nat) : Char := Char.ofNat (97 + n)

def inParentheses (text : List Char) : List Char := '(' :: text ++ [')']

structure FormRun where
  first : Nat
  last : Nat
  text : Nat → List Char

/-- Rows of letters, numbers and signs. The letters of mathematics come in alphabets, with holes
that are refused. -/
def formRuns : List FormRun := [
  ⟨0xFF01, 0xFF5E, fun n => [(Char.ofNat (0x21 + n)).toLower]⟩,
  ⟨0x2070, 0x2070, fun n => Nat.toDigits 10 n⟩,
  ⟨0x2074, 0x2079, fun n => Nat.toDigits 10 (n + 4)⟩,
  ⟨0x2080, 0x2089, fun n => Nat.toDigits 10 n⟩,
  ⟨0x2460, 0x2473, fun n => Nat.toDigits 10 (n + 1)⟩,
  ⟨0x2474, 0x2487, fun n => inParentheses (Nat.toDigits 10 (n + 1))⟩,
  ⟨0x249C, 0x24B5, fun n => inParentheses [letter n]⟩,
  ⟨0x24B6, 0x24E9, fun n => [letter (n % 26)]⟩,
  ⟨0x3251, 0x325F, fun n => Nat.toDigits 10 (n + 21)⟩,
  ⟨0x32B1, 0x32BF, fun n => Nat.toDigits 10 (n + 36)⟩,
  ⟨0x1CCD6, 0x1CCEF, fun n => [letter n]⟩,
  ⟨0x1CCF0, 0x1CCF9, fun n => Nat.toDigits 10 n⟩,
  ⟨0x1D400, 0x1D6A3, fun n => [letter (n % 26)]⟩,
  ⟨0x1D7CE, 0x1D7FF, fun n => Nat.toDigits 10 (n % 10)⟩,
  ⟨0x1F110, 0x1F129, fun n => inParentheses [letter n]⟩,
  ⟨0x1F130, 0x1F149, fun n => [letter n]⟩,
  ⟨0x1FBF0, 0x1FBF9, fun n => Nat.toDigits 10 n⟩]

def singleForms : List (String × List Nat) := [
  ("!", [0xFE15, 0xFE57]), ("$", [0xFE69]), ("&", [0xFE60]),
  ("(", [0x207D, 0x208D, 0xFE35, 0xFE59]), (")", [0x207E, 0x208E, 0xFE36, 0xFE5A]), ("*", [0xFE61]),
  ("+", [0x207A, 0x208A, 0xFB29, 0xFE62]), (",", [0xFE10, 0xFE50]), ("-", [0xFE63]),
  (".", [0x3002, 0xFF61]), ("0", [0x24EA]), ("1", [0xB9]), ("2", [0xB2]), ("3", [0xB3]),
  (";", [0x37E, 0xFE14, 0xFE54]), ("=", [0x207C, 0x208C, 0xFE66]),
  ("_", [0xFE33, 0xFE34, 0xFE4D, 0xFE4E, 0xFE4F]), ("\x60", [0x1FEF]),
  ("a", [0xAA, 0x1D2C, 0x1D43, 0x2090]), ("b", [0x1D2E, 0x1D47, 0x212C]),
  ("c", [0x1D9C, 0x2102, 0x212D, 0x216D, 0x217D, 0xA7F2, 0x1F12B]),
  ("d", [0x1D30, 0x1D48, 0x2145, 0x2146, 0x216E, 0x217E]),
  ("e", [0x1D31, 0x1D49, 0x2091, 0x212F, 0x2130, 0x2147]), ("f", [0x1DA0, 0x2131, 0xA7F3]),
  ("g", [0x1D33, 0x1D4D, 0x210A]), ("h", [0x2B0, 0x1D34, 0x2095, 0x210B, 0x210C, 0x210D, 0x210E]),
  ("i", [0x1D35, 0x1D62, 0x2071, 0x2110, 0x2111, 0x2139, 0x2148, 0x2160, 0x2170]),
  ("j", [0x2B2, 0x1D36, 0x2149, 0x2C7C]), ("k", [0x1D37, 0x1D4F, 0x2096, 0x212A]),
  ("l", [0x2E1, 0x1D38, 0x2097, 0x2112, 0x2113, 0x216C, 0x217C]),
  ("m", [0x1D39, 0x1D50, 0x2098, 0x2133, 0x216F, 0x217F]), ("n", [0x1D3A, 0x207F, 0x2099, 0x2115]),
  ("o", [0xBA, 0x1D3C, 0x1D52, 0x2092, 0x2134]), ("p", [0x1D3E, 0x1D56, 0x209A, 0x2119]),
  ("q", [0x211A, 0xA7F4, 0x107A5]), ("r", [0x2B3, 0x1D3F, 0x1D63, 0x211B, 0x211C, 0x211D, 0x1F12C]),
  ("s", [0x17F, 0x2E2, 0x209B, 0xA7F1]), ("t", [0x1D40, 0x1D57, 0x209C]),
  ("u", [0x1D41, 0x1D58, 0x1D64]), ("v", [0x1D5B, 0x1D65, 0x2164, 0x2174, 0x2C7D]),
  ("w", [0x2B7, 0x1D42]), ("x", [0x2E3, 0x2093, 0x2169, 0x2179]), ("y", [0x2B8]),
  ("z", [0x1DBB, 0x2124, 0x2128]), ("\x7b", [0xFE37, 0xFE5B]), ("\x7d", [0xFE38, 0xFE5C]),
  ("!!", [0x203C]), ("0,", [0x1F101]), ("1,", [0x1F102]), ("2,", [0x1F103]), ("3,", [0x1F104]),
  ("4,", [0x1F105]), ("5,", [0x1F106]), ("6,", [0x1F107]), ("7,", [0x1F108]), ("8,", [0x1F109]),
  ("9,", [0x1F10A]), ("==", [0x2A75]), ("===", [0x2A76]), ("au", [0x3373]), ("bar", [0x3374]),
  ("bq", [0x33C3]), ("cal", [0x3388]), ("cc", [0x33C4]), ("cd", [0x33C5, 0x1F12D]),
  ("cm", [0x339D]), ("cm2", [0x33A0]), ("cm3", [0x33A4]), ("da", [0x3372]), ("db", [0x33C8]),
  ("dj", [0x1F190]), ("dl", [0x3397]), ("dm", [0x3377]), ("dm2", [0x3378]), ("dm3", [0x3379]),
  ("dz", [0x1F1, 0x1F2, 0x1F3]), ("erg", [0x32CD]), ("ev", [0x32CE]), ("fax", [0x213B]),
  ("ff", [0xFB00]), ("ffi", [0xFB03]), ("ffl", [0xFB04]), ("fi", [0xFB01]), ("fl", [0xFB02]),
  ("fm", [0x3399]), ("gal", [0x33FF]), ("gb", [0x3387]), ("ghz", [0x3393]), ("gpa", [0x33AC]),
  ("gy", [0x33C9]), ("ha", [0x33CA]), ("hg", [0x32CC]), ("hp", [0x33CB]), ("hpa", [0x3371]),
  ("hv", [0x1F14A]), ("hz", [0x3390]), ("ii", [0x2161, 0x2171]), ("iii", [0x2162, 0x2172]),
  ("ij", [0x132, 0x133]), ("in", [0x33CC]), ("iu", [0x337A]), ("iv", [0x2163, 0x2173]),
  ("ix", [0x2168, 0x2178]), ("ka", [0x3384]), ("kb", [0x3385]), ("kcal", [0x3389]),
  ("kg", [0x338F]), ("khz", [0x3391]), ("kk", [0x33CD]), ("kl", [0x3398]), ("km", [0x339E, 0x33CE]),
  ("km2", [0x33A2]), ("km3", [0x33A6]), ("kpa", [0x33AA]), ("kt", [0x33CF]), ("kv", [0x33B8]),
  ("kw", [0x33BE]), ("lj", [0x1C7, 0x1C8, 0x1C9]), ("lm", [0x33D0]), ("ln", [0x33D1]),
  ("log", [0x33D2]), ("ltd", [0x32CF]), ("lx", [0x33D3]), ("m2", [0x33A1]), ("m3", [0x33A5]),
  ("ma", [0x3383]), ("mb", [0x3386, 0x33D4]), ("mc", [0x1F16A]), ("md", [0x1F16B]),
  ("mg", [0x338E]), ("mhz", [0x3392]), ("mil", [0x33D5]), ("ml", [0x3396]), ("mm", [0x339C]),
  ("mm2", [0x339F]), ("mm3", [0x33A3]), ("mol", [0x33D6]), ("mpa", [0x33AB]), ("mr", [0x1F16C]),
  ("ms", [0x33B3]), ("mv", [0x33B7, 0x33B9, 0x1F14B]), ("mw", [0x33BD, 0x33BF]), ("na", [0x3381]),
  ("nf", [0x338B]), ("nj", [0x1CA, 0x1CB, 0x1CC]), ("nm", [0x339A]), ("no", [0x2116]),
  ("ns", [0x33B1]), ("nv", [0x33B5]), ("nw", [0x33BB]), ("ov", [0x3375]), ("pa", [0x3380, 0x33A9]),
  ("pc", [0x3376]), ("pf", [0x338A]), ("ph", [0x33D7]), ("ppm", [0x33D9]), ("ppv", [0x1F14E]),
  ("pr", [0x33DA]), ("ps", [0x33B0]), ("pte", [0x3250]), ("pv", [0x33B4]), ("pw", [0x33BA]),
  ("rad", [0x33AD]), ("rs", [0x20A8]), ("sd", [0x1F14C]), ("sm", [0x2120]), ("sr", [0x33DB]),
  ("ss", [0x1F14D]), ("st", [0xFB05, 0xFB06]), ("sv", [0x33DC]), ("tel", [0x2121]),
  ("thz", [0x3394]), ("tm", [0x2122]), ("vi", [0x2165, 0x2175]), ("vii", [0x2166, 0x2176]),
  ("viii", [0x2167, 0x2177]), ("wb", [0x33DD]), ("wc", [0x1F14F]), ("wz", [0x1F12E]),
  ("xi", [0x216A, 0x217A]), ("xii", [0x216B, 0x217B])]

def formText? (c : Char) : Option (List Char) :=
  let n := c.toNat
  match formRuns.find? fun r => r.first ≤ n && n ≤ r.last with
  | some run => some (run.text (n - run.first))
  | none => (singleForms.find? fun e => e.2.contains n).map fun e => e.1.toList

end Switchyard.Uri.Domain
