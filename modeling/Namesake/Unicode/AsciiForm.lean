import Namesake.Unicode.Decomposition

/-!
# The ASCII form of a text

A policy that wants plain names keeps of each character what is left of its compatibility
decomposition once everything beyond ASCII has been dropped: the base letter of an accented one,
the letters of a ligature, the digits of a circled number. A character with no such remainder
disappears. The tables are those of Unicode 14.0.

## Main definitions

* `asciiForm` — the ASCII characters that one character leaves behind
* `transliterate` — the ASCII form of a text
-/

namespace Namesake.Unicode

/-- Runs of characters that stand for consecutive ASCII characters, with the ASCII code of the
first. Part 1. -/
def plainRuns0 : List (Nat × Nat × Nat) :=
  [(0x00A0, 0x00A0, 0x0020), (0x00A8, 0x00A8, 0x0020), (0x00AA, 0x00AA, 0x0061),
   (0x00AF, 0x00AF, 0x0020), (0x00B2, 0x00B3, 0x0032), (0x00B4, 0x00B4, 0x0020),
   (0x00B8, 0x00B8, 0x0020), (0x00B9, 0x00B9, 0x0031), (0x00BA, 0x00BA, 0x006F),
   (0x013F, 0x013F, 0x004C), (0x0140, 0x0140, 0x006C), (0x0149, 0x0149, 0x006E),
   (0x017F, 0x017F, 0x0073), (0x02B0, 0x02B0, 0x0068), (0x02B2, 0x02B2, 0x006A),
   (0x02B3, 0x02B3, 0x0072), (0x02B7, 0x02B7, 0x0077), (0x02B8, 0x02B8, 0x0079),
   (0x02D8, 0x02D8, 0x0020), (0x02D9, 0x02D9, 0x0020), (0x02DA, 0x02DA, 0x0020),
   (0x02DB, 0x02DB, 0x0020), (0x02DC, 0x02DC, 0x0020), (0x02DD, 0x02DD, 0x0020),
   (0x02E1, 0x02E1, 0x006C), (0x02E2, 0x02E2, 0x0073), (0x02E3, 0x02E3, 0x0078),
   (0x037A, 0x037A, 0x0020), (0x0384, 0x0384, 0x0020), (0x1D2C, 0x1D2C, 0x0041),
   (0x1D2E, 0x1D2E, 0x0042), (0x1D30, 0x1D31, 0x0044), (0x1D33, 0x1D3A, 0x0047),
   (0x1D3C, 0x1D3C, 0x004F), (0x1D3E, 0x1D3E, 0x0050), (0x1D3F, 0x1D3F, 0x0052),
   (0x1D40, 0x1D41, 0x0054), (0x1D42, 0x1D42, 0x0057), (0x1D43, 0x1D43, 0x0061),
   (0x1D47, 0x1D47, 0x0062), (0x1D48, 0x1D49, 0x0064), (0x1D4D, 0x1D4D, 0x0067),
   (0x1D4F, 0x1D4F, 0x006B), (0x1D50, 0x1D50, 0x006D), (0x1D52, 0x1D52, 0x006F),
   (0x1D56, 0x1D56, 0x0070), (0x1D57, 0x1D58, 0x0074), (0x1D5B, 0x1D5B, 0x0076),
   (0x1D62, 0x1D62, 0x0069), (0x1D63, 0x1D63, 0x0072), (0x1D64, 0x1D65, 0x0075),
   (0x1D9C, 0x1D9C, 0x0063), (0x1DA0, 0x1DA0, 0x0066), (0x1DBB, 0x1DBB, 0x007A),
   (0x1E9A, 0x1E9A, 0x0061), (0x1FBD, 0x1FBD, 0x0020), (0x1FBF, 0x1FBF, 0x0020),
   (0x1FC0, 0x1FC0, 0x0020), (0x1FFE, 0x1FFE, 0x0020), (0x2002, 0x2002, 0x0020),
   (0x2003, 0x2003, 0x0020), (0x2004, 0x2004, 0x0020), (0x2005, 0x2005, 0x0020),
   (0x2006, 0x2006, 0x0020), (0x2007, 0x2007, 0x0020), (0x2008, 0x2008, 0x0020),
   (0x2009, 0x2009, 0x0020), (0x200A, 0x200A, 0x0020), (0x2017, 0x2017, 0x0020),
   (0x2024, 0x2024, 0x002E), (0x202F, 0x202F, 0x0020), (0x203E, 0x203E, 0x0020),
   (0x205F, 0x205F, 0x0020), (0x2070, 0x2070, 0x0030), (0x2071, 0x2071, 0x0069),
   (0x2074, 0x2079, 0x0034), (0x207A, 0x207A, 0x002B), (0x207C, 0x207C, 0x003D),
   (0x207D, 0x207E, 0x0028), (0x207F, 0x207F, 0x006E), (0x2080, 0x2089, 0x0030),
   (0x208A, 0x208A, 0x002B), (0x208C, 0x208C, 0x003D), (0x208D, 0x208E, 0x0028),
   (0x2090, 0x2090, 0x0061), (0x2091, 0x2091, 0x0065), (0x2092, 0x2092, 0x006F),
   (0x2093, 0x2093, 0x0078), (0x2095, 0x2095, 0x0068), (0x2096, 0x2099, 0x006B),
   (0x209A, 0x209A, 0x0070), (0x209B, 0x209C, 0x0073), (0x2102, 0x2102, 0x0043),
   (0x2103, 0x2103, 0x0043), (0x2109, 0x2109, 0x0046), (0x210A, 0x210A, 0x0067),
   (0x210B, 0x210B, 0x0048), (0x210C, 0x210C, 0x0048), (0x210D, 0x210D, 0x0048),
   (0x210E, 0x210E, 0x0068), (0x2110, 0x2110, 0x0049), (0x2111, 0x2111, 0x0049),
   (0x2112, 0x2112, 0x004C), (0x2113, 0x2113, 0x006C), (0x2115, 0x2115, 0x004E),
   (0x2119, 0x211B, 0x0050), (0x211C, 0x211C, 0x0052), (0x211D, 0x211D, 0x0052),
   (0x2124, 0x2124, 0x005A), (0x2128, 0x2128, 0x005A), (0x212C, 0x212D, 0x0042),
   (0x212F, 0x212F, 0x0065), (0x2130, 0x2131, 0x0045), (0x2133, 0x2133, 0x004D),
   (0x2134, 0x2134, 0x006F), (0x2139, 0x2139, 0x0069), (0x2145, 0x2145, 0x0044),
   (0x2146, 0x2147, 0x0064), (0x2148, 0x2149, 0x0069), (0x215F, 0x215F, 0x0031),
   (0x2160, 0x2160, 0x0049), (0x2164, 0x2164, 0x0056), (0x2169, 0x2169, 0x0058),
   (0x216C, 0x216C, 0x004C), (0x216D, 0x216E, 0x0043), (0x216F, 0x216F, 0x004D),
   (0x2170, 0x2170, 0x0069), (0x2174, 0x2174, 0x0076), (0x2179, 0x2179, 0x0078),
   (0x217C, 0x217C, 0x006C), (0x217D, 0x217E, 0x0063), (0x217F, 0x217F, 0x006D),
   (0x2460, 0x2468, 0x0031), (0x24B6, 0x24CF, 0x0041), (0x24D0, 0x24E9, 0x0061),
   (0x24EA, 0x24EA, 0x0030), (0x2C7C, 0x2C7C, 0x006A), (0x2C7D, 0x2C7D, 0x0056),
   (0x3000, 0x3000, 0x0020), (0x309B, 0x309B, 0x0020), (0x309C, 0x309C, 0x0020),
   (0x32C0, 0x32C8, 0x0031), (0x3358, 0x3361, 0x0030), (0x3382, 0x3382, 0x0041),
   (0x338C, 0x338C, 0x0046), (0x338D, 0x338D, 0x0067), (0x3395, 0x3395, 0x006C),
   (0x339B, 0x339B, 0x006D), (0x33B2, 0x33B2, 0x0073), (0x33B6, 0x33B6, 0x0056)]

/-- Runs of characters that stand for consecutive ASCII characters, with the ASCII code of the
first. Part 2. -/
def plainRuns1 : List (Nat × Nat × Nat) :=
  [(0x33BC, 0x33BC, 0x0057), (0x33C0, 0x33C0, 0x006B), (0x33C1, 0x33C1, 0x004D),
   (0x33E0, 0x33E8, 0x0031), (0xA7F2, 0xA7F2, 0x0043), (0xA7F3, 0xA7F3, 0x0046),
   (0xA7F4, 0xA7F4, 0x0051), (0xFB29, 0xFB29, 0x002B), (0xFC5E, 0xFC5E, 0x0020),
   (0xFC5F, 0xFC5F, 0x0020), (0xFC60, 0xFC60, 0x0020), (0xFC61, 0xFC61, 0x0020),
   (0xFC62, 0xFC62, 0x0020), (0xFC63, 0xFC63, 0x0020), (0xFDFB, 0xFDFB, 0x0020),
   (0xFE10, 0xFE10, 0x002C), (0xFE13, 0xFE14, 0x003A), (0xFE15, 0xFE15, 0x0021),
   (0xFE16, 0xFE16, 0x003F), (0xFE33, 0xFE33, 0x005F), (0xFE34, 0xFE34, 0x005F),
   (0xFE35, 0xFE36, 0x0028), (0xFE37, 0xFE37, 0x007B), (0xFE38, 0xFE38, 0x007D),
   (0xFE47, 0xFE47, 0x005B), (0xFE48, 0xFE48, 0x005D), (0xFE49, 0xFE49, 0x0020),
   (0xFE4A, 0xFE4A, 0x0020), (0xFE4B, 0xFE4B, 0x0020), (0xFE4C, 0xFE4C, 0x0020),
   (0xFE4D, 0xFE4D, 0x005F), (0xFE4E, 0xFE4E, 0x005F), (0xFE4F, 0xFE4F, 0x005F),
   (0xFE50, 0xFE50, 0x002C), (0xFE52, 0xFE52, 0x002E), (0xFE54, 0xFE54, 0x003B),
   (0xFE55, 0xFE55, 0x003A), (0xFE56, 0xFE56, 0x003F), (0xFE57, 0xFE57, 0x0021),
   (0xFE59, 0xFE5A, 0x0028), (0xFE5B, 0xFE5B, 0x007B), (0xFE5C, 0xFE5C, 0x007D),
   (0xFE5F, 0xFE5F, 0x0023), (0xFE60, 0xFE60, 0x0026), (0xFE61, 0xFE62, 0x002A),
   (0xFE63, 0xFE63, 0x002D), (0xFE64, 0xFE64, 0x003C), (0xFE65, 0xFE65, 0x003E),
   (0xFE66, 0xFE66, 0x003D), (0xFE68, 0xFE68, 0x005C), (0xFE69, 0xFE6A, 0x0024),
   (0xFE6B, 0xFE6B, 0x0040), (0xFE70, 0xFE70, 0x0020), (0xFE72, 0xFE72, 0x0020),
   (0xFE74, 0xFE74, 0x0020), (0xFE76, 0xFE76, 0x0020), (0xFE78, 0xFE78, 0x0020),
   (0xFE7A, 0xFE7A, 0x0020), (0xFE7C, 0xFE7C, 0x0020), (0xFE7E, 0xFE7E, 0x0020),
   (0xFF01, 0xFF5E, 0x0021), (0xFFE3, 0xFFE3, 0x0020), (0x107A5, 0x107A5, 0x0071),
   (0x1D400, 0x1D419, 0x0041), (0x1D41A, 0x1D433, 0x0061), (0x1D434, 0x1D44D, 0x0041),
   (0x1D44E, 0x1D454, 0x0061), (0x1D456, 0x1D467, 0x0069), (0x1D468, 0x1D481, 0x0041),
   (0x1D482, 0x1D49B, 0x0061), (0x1D49C, 0x1D49C, 0x0041), (0x1D49E, 0x1D49F, 0x0043),
   (0x1D4A2, 0x1D4A2, 0x0047), (0x1D4A5, 0x1D4A6, 0x004A), (0x1D4A9, 0x1D4AC, 0x004E),
   (0x1D4AE, 0x1D4B5, 0x0053), (0x1D4B6, 0x1D4B9, 0x0061), (0x1D4BB, 0x1D4BB, 0x0066),
   (0x1D4BD, 0x1D4C3, 0x0068), (0x1D4C5, 0x1D4CF, 0x0070), (0x1D4D0, 0x1D4E9, 0x0041),
   (0x1D4EA, 0x1D503, 0x0061), (0x1D504, 0x1D505, 0x0041), (0x1D507, 0x1D50A, 0x0044),
   (0x1D50D, 0x1D514, 0x004A), (0x1D516, 0x1D51C, 0x0053), (0x1D51E, 0x1D537, 0x0061),
   (0x1D538, 0x1D539, 0x0041), (0x1D53B, 0x1D53E, 0x0044), (0x1D540, 0x1D544, 0x0049),
   (0x1D546, 0x1D546, 0x004F), (0x1D54A, 0x1D550, 0x0053), (0x1D552, 0x1D56B, 0x0061),
   (0x1D56C, 0x1D585, 0x0041), (0x1D586, 0x1D59F, 0x0061), (0x1D5A0, 0x1D5B9, 0x0041),
   (0x1D5BA, 0x1D5D3, 0x0061), (0x1D5D4, 0x1D5ED, 0x0041), (0x1D5EE, 0x1D607, 0x0061),
   (0x1D608, 0x1D621, 0x0041), (0x1D622, 0x1D63B, 0x0061), (0x1D63C, 0x1D655, 0x0041),
   (0x1D656, 0x1D66F, 0x0061), (0x1D670, 0x1D689, 0x0041), (0x1D68A, 0x1D6A3, 0x0061),
   (0x1D7CE, 0x1D7D7, 0x0030), (0x1D7D8, 0x1D7E1, 0x0030), (0x1D7E2, 0x1D7EB, 0x0030),
   (0x1D7EC, 0x1D7F5, 0x0030), (0x1D7F6, 0x1D7FF, 0x0030), (0x1F12A, 0x1F12A, 0x0053),
   (0x1F12B, 0x1F12B, 0x0043), (0x1F12C, 0x1F12C, 0x0052), (0x1F130, 0x1F149, 0x0041),
   (0x1FBF0, 0x1FBF9, 0x0030)]

/-- Runs of characters that stand for consecutive ASCII characters, with the ASCII code of the
first. -/
def plainRuns : List (Nat × Nat × Nat) :=
  [plainRuns0, plainRuns1].flatten

/-- Characters that stand for several ASCII characters. Part 1. -/
def plainSpellings0 : List (Nat × Text) :=
  [(0x00BC, ['1', '4']), (0x00BD, ['1', '2']), (0x00BE, ['3', '4']), (0x0132, ['I', 'J']),
   (0x0133, ['i', 'j']), (0x01C4, ['D', 'Z']), (0x01C5, ['D', 'z']), (0x01C6, ['d', 'z']),
   (0x01C7, ['L', 'J']), (0x01C8, ['L', 'j']), (0x01C9, ['l', 'j']), (0x01CA, ['N', 'J']),
   (0x01CB, ['N', 'j']), (0x01CC, ['n', 'j']), (0x01F1, ['D', 'Z']), (0x01F2, ['D', 'z']),
   (0x01F3, ['d', 'z']), (0x2025, ['.', '.']), (0x2026, ['.', '.', '.']), (0x203C, ['!', '!']),
   (0x2047, ['?', '?']), (0x2048, ['?', '!']), (0x2049, ['!', '?']), (0x20A8, ['R', 's']),
   (0x2100, ['a', '/', 'c']), (0x2101, ['a', '/', 's']), (0x2105, ['c', '/', 'o']),
   (0x2106, ['c', '/', 'u']), (0x2116, ['N', 'o']), (0x2120, ['S', 'M']),
   (0x2121, ['T', 'E', 'L']), (0x2122, ['T', 'M']), (0x213B, ['F', 'A', 'X']),
   (0x2150, ['1', '7']), (0x2151, ['1', '9']), (0x2152, ['1', '1', '0']), (0x2153, ['1', '3']),
   (0x2154, ['2', '3']), (0x2155, ['1', '5']), (0x2156, ['2', '5']), (0x2157, ['3', '5']),
   (0x2158, ['4', '5']), (0x2159, ['1', '6']), (0x215A, ['5', '6']), (0x215B, ['1', '8']),
   (0x215C, ['3', '8']), (0x215D, ['5', '8']), (0x215E, ['7', '8']), (0x2161, ['I', 'I']),
   (0x2162, ['I', 'I', 'I']), (0x2163, ['I', 'V']), (0x2165, ['V', 'I']),
   (0x2166, ['V', 'I', 'I']), (0x2167, ['V', 'I', 'I', 'I']), (0x2168, ['I', 'X']),
   (0x216A, ['X', 'I']), (0x216B, ['X', 'I', 'I']), (0x2171, ['i', 'i']),
   (0x2172, ['i', 'i', 'i']), (0x2173, ['i', 'v']), (0x2175, ['v', 'i']),
   (0x2176, ['v', 'i', 'i']), (0x2177, ['v', 'i', 'i', 'i']), (0x2178, ['i', 'x']),
   (0x217A, ['x', 'i']), (0x217B, ['x', 'i', 'i']), (0x2189, ['0', '3']), (0x2469, ['1', '0']),
   (0x246A, ['1', '1']), (0x246B, ['1', '2']), (0x246C, ['1', '3']), (0x246D, ['1', '4']),
   (0x246E, ['1', '5']), (0x246F, ['1', '6']), (0x2470, ['1', '7']), (0x2471, ['1', '8']),
   (0x2472, ['1', '9']), (0x2473, ['2', '0']), (0x2474, ['(', '1', ')']),
   (0x2475, ['(', '2', ')']), (0x2476, ['(', '3', ')']), (0x2477, ['(', '4', ')']),
   (0x2478, ['(', '5', ')']), (0x2479, ['(', '6', ')']), (0x247A, ['(', '7', ')']),
   (0x247B, ['(', '8', ')']), (0x247C, ['(', '9', ')']), (0x247D, ['(', '1', '0', ')']),
   (0x247E, ['(', '1', '1', ')']), (0x247F, ['(', '1', '2', ')']), (0x2480, ['(', '1', '3', ')']),
   (0x2481, ['(', '1', '4', ')']), (0x2482, ['(', '1', '5', ')']), (0x2483, ['(', '1', '6', ')']),
   (0x2484, ['(', '1', '7', ')']), (0x2485, ['(', '1', '8', ')']), (0x2486, ['(', '1', '9', ')']),
   (0x2487, ['(', '2', '0', ')']), (0x2488, ['1', '.']), (0x2489, ['2', '.']),
   (0x248A, ['3', '.']), (0x248B, ['4', '.']), (0x248C, ['5', '.']), (0x248D, ['6', '.']),
   (0x248E, ['7', '.']), (0x248F, ['8', '.']), (0x2490, ['9', '.']), (0x2491, ['1', '0', '.']),
   (0x2492, ['1', '1', '.']), (0x2493, ['1', '2', '.']), (0x2494, ['1', '3', '.']),
   (0x2495, ['1', '4', '.']), (0x2496, ['1', '5', '.']), (0x2497, ['1', '6', '.']),
   (0x2498, ['1', '7', '.']), (0x2499, ['1', '8', '.']), (0x249A, ['1', '9', '.']),
   (0x249B, ['2', '0', '.']), (0x249C, ['(', 'a', ')']), (0x249D, ['(', 'b', ')'])]

/-- Characters that stand for several ASCII characters. Part 2. -/
def plainSpellings1 : List (Nat × Text) :=
  [(0x249E, ['(', 'c', ')']), (0x249F, ['(', 'd', ')']), (0x24A0, ['(', 'e', ')']),
   (0x24A1, ['(', 'f', ')']), (0x24A2, ['(', 'g', ')']), (0x24A3, ['(', 'h', ')']),
   (0x24A4, ['(', 'i', ')']), (0x24A5, ['(', 'j', ')']), (0x24A6, ['(', 'k', ')']),
   (0x24A7, ['(', 'l', ')']), (0x24A8, ['(', 'm', ')']), (0x24A9, ['(', 'n', ')']),
   (0x24AA, ['(', 'o', ')']), (0x24AB, ['(', 'p', ')']), (0x24AC, ['(', 'q', ')']),
   (0x24AD, ['(', 'r', ')']), (0x24AE, ['(', 's', ')']), (0x24AF, ['(', 't', ')']),
   (0x24B0, ['(', 'u', ')']), (0x24B1, ['(', 'v', ')']), (0x24B2, ['(', 'w', ')']),
   (0x24B3, ['(', 'x', ')']), (0x24B4, ['(', 'y', ')']), (0x24B5, ['(', 'z', ')']),
   (0x2A74, [':', ':', '=']), (0x2A75, ['=', '=']), (0x2A76, ['=', '=', '=']),
   (0x3200, ['(', ')']), (0x3201, ['(', ')']), (0x3202, ['(', ')']), (0x3203, ['(', ')']),
   (0x3204, ['(', ')']), (0x3205, ['(', ')']), (0x3206, ['(', ')']), (0x3207, ['(', ')']),
   (0x3208, ['(', ')']), (0x3209, ['(', ')']), (0x320A, ['(', ')']), (0x320B, ['(', ')']),
   (0x320C, ['(', ')']), (0x320D, ['(', ')']), (0x320E, ['(', ')']), (0x320F, ['(', ')']),
   (0x3210, ['(', ')']), (0x3211, ['(', ')']), (0x3212, ['(', ')']), (0x3213, ['(', ')']),
   (0x3214, ['(', ')']), (0x3215, ['(', ')']), (0x3216, ['(', ')']), (0x3217, ['(', ')']),
   (0x3218, ['(', ')']), (0x3219, ['(', ')']), (0x321A, ['(', ')']), (0x321B, ['(', ')']),
   (0x321C, ['(', ')']), (0x321D, ['(', ')']), (0x321E, ['(', ')']), (0x3220, ['(', ')']),
   (0x3221, ['(', ')']), (0x3222, ['(', ')']), (0x3223, ['(', ')']), (0x3224, ['(', ')']),
   (0x3225, ['(', ')']), (0x3226, ['(', ')']), (0x3227, ['(', ')']), (0x3228, ['(', ')']),
   (0x3229, ['(', ')']), (0x322A, ['(', ')']), (0x322B, ['(', ')']), (0x322C, ['(', ')']),
   (0x322D, ['(', ')']), (0x322E, ['(', ')']), (0x322F, ['(', ')']), (0x3230, ['(', ')']),
   (0x3231, ['(', ')']), (0x3232, ['(', ')']), (0x3233, ['(', ')']), (0x3234, ['(', ')']),
   (0x3235, ['(', ')']), (0x3236, ['(', ')']), (0x3237, ['(', ')']), (0x3238, ['(', ')']),
   (0x3239, ['(', ')']), (0x323A, ['(', ')']), (0x323B, ['(', ')']), (0x323C, ['(', ')']),
   (0x323D, ['(', ')']), (0x323E, ['(', ')']), (0x323F, ['(', ')']), (0x3240, ['(', ')']),
   (0x3241, ['(', ')']), (0x3242, ['(', ')']), (0x3243, ['(', ')']), (0x3250, ['P', 'T', 'E']),
   (0x3251, ['2', '1']), (0x3252, ['2', '2']), (0x3253, ['2', '3']), (0x3254, ['2', '4']),
   (0x3255, ['2', '5']), (0x3256, ['2', '6']), (0x3257, ['2', '7']), (0x3258, ['2', '8']),
   (0x3259, ['2', '9']), (0x325A, ['3', '0']), (0x325B, ['3', '1']), (0x325C, ['3', '2']),
   (0x325D, ['3', '3']), (0x325E, ['3', '4']), (0x325F, ['3', '5']), (0x32B1, ['3', '6']),
   (0x32B2, ['3', '7']), (0x32B3, ['3', '8']), (0x32B4, ['3', '9']), (0x32B5, ['4', '0']),
   (0x32B6, ['4', '1']), (0x32B7, ['4', '2']), (0x32B8, ['4', '3']), (0x32B9, ['4', '4']),
   (0x32BA, ['4', '5'])]

/-- Characters that stand for several ASCII characters. Part 3. -/
def plainSpellings2 : List (Nat × Text) :=
  [(0x32BB, ['4', '6']), (0x32BC, ['4', '7']), (0x32BD, ['4', '8']), (0x32BE, ['4', '9']),
   (0x32BF, ['5', '0']), (0x32C9, ['1', '0']), (0x32CA, ['1', '1']), (0x32CB, ['1', '2']),
   (0x32CC, ['H', 'g']), (0x32CD, ['e', 'r', 'g']), (0x32CE, ['e', 'V']),
   (0x32CF, ['L', 'T', 'D']), (0x3362, ['1', '0']), (0x3363, ['1', '1']), (0x3364, ['1', '2']),
   (0x3365, ['1', '3']), (0x3366, ['1', '4']), (0x3367, ['1', '5']), (0x3368, ['1', '6']),
   (0x3369, ['1', '7']), (0x336A, ['1', '8']), (0x336B, ['1', '9']), (0x336C, ['2', '0']),
   (0x336D, ['2', '1']), (0x336E, ['2', '2']), (0x336F, ['2', '3']), (0x3370, ['2', '4']),
   (0x3371, ['h', 'P', 'a']), (0x3372, ['d', 'a']), (0x3373, ['A', 'U']),
   (0x3374, ['b', 'a', 'r']), (0x3375, ['o', 'V']), (0x3376, ['p', 'c']), (0x3377, ['d', 'm']),
   (0x3378, ['d', 'm', '2']), (0x3379, ['d', 'm', '3']), (0x337A, ['I', 'U']),
   (0x3380, ['p', 'A']), (0x3381, ['n', 'A']), (0x3383, ['m', 'A']), (0x3384, ['k', 'A']),
   (0x3385, ['K', 'B']), (0x3386, ['M', 'B']), (0x3387, ['G', 'B']), (0x3388, ['c', 'a', 'l']),
   (0x3389, ['k', 'c', 'a', 'l']), (0x338A, ['p', 'F']), (0x338B, ['n', 'F']),
   (0x338E, ['m', 'g']), (0x338F, ['k', 'g']), (0x3390, ['H', 'z']), (0x3391, ['k', 'H', 'z']),
   (0x3392, ['M', 'H', 'z']), (0x3393, ['G', 'H', 'z']), (0x3394, ['T', 'H', 'z']),
   (0x3396, ['m', 'l']), (0x3397, ['d', 'l']), (0x3398, ['k', 'l']), (0x3399, ['f', 'm']),
   (0x339A, ['n', 'm']), (0x339C, ['m', 'm']), (0x339D, ['c', 'm']), (0x339E, ['k', 'm']),
   (0x339F, ['m', 'm', '2']), (0x33A0, ['c', 'm', '2']), (0x33A1, ['m', '2']),
   (0x33A2, ['k', 'm', '2']), (0x33A3, ['m', 'm', '3']), (0x33A4, ['c', 'm', '3']),
   (0x33A5, ['m', '3']), (0x33A6, ['k', 'm', '3']), (0x33A7, ['m', 's']),
   (0x33A8, ['m', 's', '2']), (0x33A9, ['P', 'a']), (0x33AA, ['k', 'P', 'a']),
   (0x33AB, ['M', 'P', 'a']), (0x33AC, ['G', 'P', 'a']), (0x33AD, ['r', 'a', 'd']),
   (0x33AE, ['r', 'a', 'd', 's']), (0x33AF, ['r', 'a', 'd', 's', '2']), (0x33B0, ['p', 's']),
   (0x33B1, ['n', 's']), (0x33B3, ['m', 's']), (0x33B4, ['p', 'V']), (0x33B5, ['n', 'V']),
   (0x33B7, ['m', 'V']), (0x33B8, ['k', 'V']), (0x33B9, ['M', 'V']), (0x33BA, ['p', 'W']),
   (0x33BB, ['n', 'W']), (0x33BD, ['m', 'W']), (0x33BE, ['k', 'W']), (0x33BF, ['M', 'W']),
   (0x33C2, ['a', '.', 'm', '.']), (0x33C3, ['B', 'q']), (0x33C4, ['c', 'c']),
   (0x33C5, ['c', 'd']), (0x33C6, ['C', 'k', 'g']), (0x33C7, ['C', 'o', '.']),
   (0x33C8, ['d', 'B']), (0x33C9, ['G', 'y']), (0x33CA, ['h', 'a']), (0x33CB, ['H', 'P']),
   (0x33CC, ['i', 'n']), (0x33CD, ['K', 'K']), (0x33CE, ['K', 'M']), (0x33CF, ['k', 't']),
   (0x33D0, ['l', 'm']), (0x33D1, ['l', 'n']), (0x33D2, ['l', 'o', 'g']), (0x33D3, ['l', 'x']),
   (0x33D4, ['m', 'b']), (0x33D5, ['m', 'i', 'l']), (0x33D6, ['m', 'o', 'l']),
   (0x33D7, ['P', 'H']), (0x33D8, ['p', '.', 'm', '.']), (0x33D9, ['P', 'P', 'M']),
   (0x33DA, ['P', 'R']), (0x33DB, ['s', 'r']), (0x33DC, ['S', 'v'])]

/-- Characters that stand for several ASCII characters. Part 4. -/
def plainSpellings3 : List (Nat × Text) :=
  [(0x33DD, ['W', 'b']), (0x33DE, ['V', 'm']), (0x33DF, ['A', 'm']), (0x33E9, ['1', '0']),
   (0x33EA, ['1', '1']), (0x33EB, ['1', '2']), (0x33EC, ['1', '3']), (0x33ED, ['1', '4']),
   (0x33EE, ['1', '5']), (0x33EF, ['1', '6']), (0x33F0, ['1', '7']), (0x33F1, ['1', '8']),
   (0x33F2, ['1', '9']), (0x33F3, ['2', '0']), (0x33F4, ['2', '1']), (0x33F5, ['2', '2']),
   (0x33F6, ['2', '3']), (0x33F7, ['2', '4']), (0x33F8, ['2', '5']), (0x33F9, ['2', '6']),
   (0x33FA, ['2', '7']), (0x33FB, ['2', '8']), (0x33FC, ['2', '9']), (0x33FD, ['3', '0']),
   (0x33FE, ['3', '1']), (0x33FF, ['g', 'a', 'l']), (0xFB00, ['f', 'f']), (0xFB01, ['f', 'i']),
   (0xFB02, ['f', 'l']), (0xFB03, ['f', 'f', 'i']), (0xFB04, ['f', 'f', 'l']),
   (0xFB05, ['s', 't']), (0xFB06, ['s', 't']), (0xFDFA, [' ', ' ', ' ']),
   (0xFE19, ['.', '.', '.']), (0xFE30, ['.', '.']), (0x1F100, ['0', '.']), (0x1F101, ['0', ',']),
   (0x1F102, ['1', ',']), (0x1F103, ['2', ',']), (0x1F104, ['3', ',']), (0x1F105, ['4', ',']),
   (0x1F106, ['5', ',']), (0x1F107, ['6', ',']), (0x1F108, ['7', ',']), (0x1F109, ['8', ',']),
   (0x1F10A, ['9', ',']), (0x1F110, ['(', 'A', ')']), (0x1F111, ['(', 'B', ')']),
   (0x1F112, ['(', 'C', ')']), (0x1F113, ['(', 'D', ')']), (0x1F114, ['(', 'E', ')']),
   (0x1F115, ['(', 'F', ')']), (0x1F116, ['(', 'G', ')']), (0x1F117, ['(', 'H', ')']),
   (0x1F118, ['(', 'I', ')']), (0x1F119, ['(', 'J', ')']), (0x1F11A, ['(', 'K', ')']),
   (0x1F11B, ['(', 'L', ')']), (0x1F11C, ['(', 'M', ')']), (0x1F11D, ['(', 'N', ')']),
   (0x1F11E, ['(', 'O', ')']), (0x1F11F, ['(', 'P', ')']), (0x1F120, ['(', 'Q', ')']),
   (0x1F121, ['(', 'R', ')']), (0x1F122, ['(', 'S', ')']), (0x1F123, ['(', 'T', ')']),
   (0x1F124, ['(', 'U', ')']), (0x1F125, ['(', 'V', ')']), (0x1F126, ['(', 'W', ')']),
   (0x1F127, ['(', 'X', ')']), (0x1F128, ['(', 'Y', ')']), (0x1F129, ['(', 'Z', ')']),
   (0x1F12D, ['C', 'D']), (0x1F12E, ['W', 'Z']), (0x1F14A, ['H', 'V']), (0x1F14B, ['M', 'V']),
   (0x1F14C, ['S', 'D']), (0x1F14D, ['S', 'S']), (0x1F14E, ['P', 'P', 'V']), (0x1F14F, ['W', 'C']),
   (0x1F16A, ['M', 'C']), (0x1F16B, ['M', 'D']), (0x1F16C, ['M', 'R']), (0x1F190, ['D', 'J'])]

/-- Characters that stand for several ASCII characters. -/
def plainSpellings : List (Nat × Text) :=
  [plainSpellings0, plainSpellings1, plainSpellings2, plainSpellings3].flatten

/-- The ASCII character that a member of a run stands for. -/
def runForm : List (Nat × Nat × Nat) → Nat → Option Char
  | [], _ => none
  | (lo, hi, first) :: rest, n =>
    if n < lo then none
    else if n ≤ hi then some (Char.ofNat (first + (n - lo)))
    else runForm rest n

/-- The listed spelling of a character. -/
def spelling : List (Nat × Text) → Nat → Text
  | [], _ => []
  | (code, form) :: rest, n =>
    if n < code then [] else if n = code then form else spelling rest n

/-- What an indecomposable character leaves behind. An ASCII character stays what it is. -/
def plainForm (c : Char) : Text :=
  if c.toNat < 128 then [c]
  else
    match runForm plainRuns c.toNat with
    | some p => [p]
    | none => spelling plainSpellings c.toNat

/-- The ASCII characters that one character leaves behind. -/
def asciiForm (c : Char) : Text :=
  if c.toNat < 128 then [c] else (canonical c).flatMap plainForm

/-- The ASCII form of a text. Marks are sorted by no rule here, because none of them is ASCII. -/
def transliterate (t : Text) : Text :=
  t.flatMap asciiForm

end Namesake.Unicode
