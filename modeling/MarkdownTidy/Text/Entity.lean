import MarkdownTidy.Text.Utf8

/-! The named character references of HTML, by first letter. -/

namespace MarkdownTidy

structure Entity where
  name : String
  /-- Whether the name is recognized without a semicolon. -/
  bare : Bool
  codes : List Nat

namespace Entity

def table : Char → List Entity
  | 'A' => [
    ⟨"AElig", true, [0xC6]⟩, ⟨"AMP", true, [0x26]⟩, ⟨"Aacute", true, [0xC1]⟩,
    ⟨"Abreve", false, [0x102]⟩, ⟨"Acirc", true, [0xC2]⟩, ⟨"Acy", false, [0x410]⟩,
    ⟨"Afr", false, [0x1D504]⟩, ⟨"Agrave", true, [0xC0]⟩, ⟨"Alpha", false, [0x391]⟩,
    ⟨"Amacr", false, [0x100]⟩, ⟨"And", false, [0x2A53]⟩, ⟨"Aogon", false, [0x104]⟩,
    ⟨"Aopf", false, [0x1D538]⟩, ⟨"ApplyFunction", false, [0x2061]⟩, ⟨"Aring", true, [0xC5]⟩,
    ⟨"Ascr", false, [0x1D49C]⟩, ⟨"Assign", false, [0x2254]⟩, ⟨"Atilde", true, [0xC3]⟩,
    ⟨"Auml", true, [0xC4]⟩]
  | 'B' => [
    ⟨"Backslash", false, [0x2216]⟩, ⟨"Barv", false, [0x2AE7]⟩, ⟨"Barwed", false, [0x2306]⟩,
    ⟨"Bcy", false, [0x411]⟩, ⟨"Because", false, [0x2235]⟩, ⟨"Bernoullis", false, [0x212C]⟩,
    ⟨"Beta", false, [0x392]⟩, ⟨"Bfr", false, [0x1D505]⟩, ⟨"Bopf", false, [0x1D539]⟩,
    ⟨"Breve", false, [0x2D8]⟩, ⟨"Bscr", false, [0x212C]⟩, ⟨"Bumpeq", false, [0x224E]⟩]
  | 'C' => [
    ⟨"CHcy", false, [0x427]⟩, ⟨"COPY", true, [0xA9]⟩, ⟨"Cacute", false, [0x106]⟩,
    ⟨"Cap", false, [0x22D2]⟩, ⟨"CapitalDifferentialD", false, [0x2145]⟩,
    ⟨"Cayleys", false, [0x212D]⟩, ⟨"Ccaron", false, [0x10C]⟩, ⟨"Ccedil", true, [0xC7]⟩,
    ⟨"Ccirc", false, [0x108]⟩, ⟨"Cconint", false, [0x2230]⟩, ⟨"Cdot", false, [0x10A]⟩,
    ⟨"Cedilla", false, [0xB8]⟩, ⟨"CenterDot", false, [0xB7]⟩, ⟨"Cfr", false, [0x212D]⟩,
    ⟨"Chi", false, [0x3A7]⟩, ⟨"CircleDot", false, [0x2299]⟩, ⟨"CircleMinus", false, [0x2296]⟩,
    ⟨"CirclePlus", false, [0x2295]⟩, ⟨"CircleTimes", false, [0x2297]⟩,
    ⟨"ClockwiseContourIntegral", false, [0x2232]⟩, ⟨"CloseCurlyDoubleQuote", false, [0x201D]⟩,
    ⟨"CloseCurlyQuote", false, [0x2019]⟩, ⟨"Colon", false, [0x2237]⟩, ⟨"Colone", false, [0x2A74]⟩,
    ⟨"Congruent", false, [0x2261]⟩, ⟨"Conint", false, [0x222F]⟩,
    ⟨"ContourIntegral", false, [0x222E]⟩, ⟨"Copf", false, [0x2102]⟩,
    ⟨"Coproduct", false, [0x2210]⟩, ⟨"CounterClockwiseContourIntegral", false, [0x2233]⟩,
    ⟨"Cross", false, [0x2A2F]⟩, ⟨"Cscr", false, [0x1D49E]⟩, ⟨"Cup", false, [0x22D3]⟩,
    ⟨"CupCap", false, [0x224D]⟩]
  | 'D' => [
    ⟨"DD", false, [0x2145]⟩, ⟨"DDotrahd", false, [0x2911]⟩, ⟨"DJcy", false, [0x402]⟩,
    ⟨"DScy", false, [0x405]⟩, ⟨"DZcy", false, [0x40F]⟩, ⟨"Dagger", false, [0x2021]⟩,
    ⟨"Darr", false, [0x21A1]⟩, ⟨"Dashv", false, [0x2AE4]⟩, ⟨"Dcaron", false, [0x10E]⟩,
    ⟨"Dcy", false, [0x414]⟩, ⟨"Del", false, [0x2207]⟩, ⟨"Delta", false, [0x394]⟩,
    ⟨"Dfr", false, [0x1D507]⟩, ⟨"DiacriticalAcute", false, [0xB4]⟩,
    ⟨"DiacriticalDot", false, [0x2D9]⟩, ⟨"DiacriticalDoubleAcute", false, [0x2DD]⟩,
    ⟨"DiacriticalGrave", false, [0x60]⟩, ⟨"DiacriticalTilde", false, [0x2DC]⟩,
    ⟨"Diamond", false, [0x22C4]⟩, ⟨"DifferentialD", false, [0x2146]⟩, ⟨"Dopf", false, [0x1D53B]⟩,
    ⟨"Dot", false, [0xA8]⟩, ⟨"DotDot", false, [0x20DC]⟩, ⟨"DotEqual", false, [0x2250]⟩,
    ⟨"DoubleContourIntegral", false, [0x222F]⟩, ⟨"DoubleDot", false, [0xA8]⟩,
    ⟨"DoubleDownArrow", false, [0x21D3]⟩, ⟨"DoubleLeftArrow", false, [0x21D0]⟩,
    ⟨"DoubleLeftRightArrow", false, [0x21D4]⟩, ⟨"DoubleLeftTee", false, [0x2AE4]⟩,
    ⟨"DoubleLongLeftArrow", false, [0x27F8]⟩, ⟨"DoubleLongLeftRightArrow", false, [0x27FA]⟩,
    ⟨"DoubleLongRightArrow", false, [0x27F9]⟩, ⟨"DoubleRightArrow", false, [0x21D2]⟩,
    ⟨"DoubleRightTee", false, [0x22A8]⟩, ⟨"DoubleUpArrow", false, [0x21D1]⟩,
    ⟨"DoubleUpDownArrow", false, [0x21D5]⟩, ⟨"DoubleVerticalBar", false, [0x2225]⟩,
    ⟨"DownArrow", false, [0x2193]⟩, ⟨"DownArrowBar", false, [0x2913]⟩,
    ⟨"DownArrowUpArrow", false, [0x21F5]⟩, ⟨"DownBreve", false, [0x311]⟩,
    ⟨"DownLeftRightVector", false, [0x2950]⟩, ⟨"DownLeftTeeVector", false, [0x295E]⟩,
    ⟨"DownLeftVector", false, [0x21BD]⟩, ⟨"DownLeftVectorBar", false, [0x2956]⟩,
    ⟨"DownRightTeeVector", false, [0x295F]⟩, ⟨"DownRightVector", false, [0x21C1]⟩,
    ⟨"DownRightVectorBar", false, [0x2957]⟩, ⟨"DownTee", false, [0x22A4]⟩,
    ⟨"DownTeeArrow", false, [0x21A7]⟩, ⟨"Downarrow", false, [0x21D3]⟩, ⟨"Dscr", false, [0x1D49F]⟩,
    ⟨"Dstrok", false, [0x110]⟩]
  | 'E' => [
    ⟨"ENG", false, [0x14A]⟩, ⟨"ETH", true, [0xD0]⟩, ⟨"Eacute", true, [0xC9]⟩,
    ⟨"Ecaron", false, [0x11A]⟩, ⟨"Ecirc", true, [0xCA]⟩, ⟨"Ecy", false, [0x42D]⟩,
    ⟨"Edot", false, [0x116]⟩, ⟨"Efr", false, [0x1D508]⟩, ⟨"Egrave", true, [0xC8]⟩,
    ⟨"Element", false, [0x2208]⟩, ⟨"Emacr", false, [0x112]⟩,
    ⟨"EmptySmallSquare", false, [0x25FB]⟩, ⟨"EmptyVerySmallSquare", false, [0x25AB]⟩,
    ⟨"Eogon", false, [0x118]⟩, ⟨"Eopf", false, [0x1D53C]⟩, ⟨"Epsilon", false, [0x395]⟩,
    ⟨"Equal", false, [0x2A75]⟩, ⟨"EqualTilde", false, [0x2242]⟩, ⟨"Equilibrium", false, [0x21CC]⟩,
    ⟨"Escr", false, [0x2130]⟩, ⟨"Esim", false, [0x2A73]⟩, ⟨"Eta", false, [0x397]⟩,
    ⟨"Euml", true, [0xCB]⟩, ⟨"Exists", false, [0x2203]⟩, ⟨"ExponentialE", false, [0x2147]⟩]
  | 'F' => [
    ⟨"Fcy", false, [0x424]⟩, ⟨"Ffr", false, [0x1D509]⟩, ⟨"FilledSmallSquare", false, [0x25FC]⟩,
    ⟨"FilledVerySmallSquare", false, [0x25AA]⟩, ⟨"Fopf", false, [0x1D53D]⟩,
    ⟨"ForAll", false, [0x2200]⟩, ⟨"Fouriertrf", false, [0x2131]⟩, ⟨"Fscr", false, [0x2131]⟩]
  | 'G' => [
    ⟨"GJcy", false, [0x403]⟩, ⟨"GT", true, [0x3E]⟩, ⟨"Gamma", false, [0x393]⟩,
    ⟨"Gammad", false, [0x3DC]⟩, ⟨"Gbreve", false, [0x11E]⟩, ⟨"Gcedil", false, [0x122]⟩,
    ⟨"Gcirc", false, [0x11C]⟩, ⟨"Gcy", false, [0x413]⟩, ⟨"Gdot", false, [0x120]⟩,
    ⟨"Gfr", false, [0x1D50A]⟩, ⟨"Gg", false, [0x22D9]⟩, ⟨"Gopf", false, [0x1D53E]⟩,
    ⟨"GreaterEqual", false, [0x2265]⟩, ⟨"GreaterEqualLess", false, [0x22DB]⟩,
    ⟨"GreaterFullEqual", false, [0x2267]⟩, ⟨"GreaterGreater", false, [0x2AA2]⟩,
    ⟨"GreaterLess", false, [0x2277]⟩, ⟨"GreaterSlantEqual", false, [0x2A7E]⟩,
    ⟨"GreaterTilde", false, [0x2273]⟩, ⟨"Gscr", false, [0x1D4A2]⟩, ⟨"Gt", false, [0x226B]⟩]
  | 'H' => [
    ⟨"HARDcy", false, [0x42A]⟩, ⟨"Hacek", false, [0x2C7]⟩, ⟨"Hat", false, [0x5E]⟩,
    ⟨"Hcirc", false, [0x124]⟩, ⟨"Hfr", false, [0x210C]⟩, ⟨"HilbertSpace", false, [0x210B]⟩,
    ⟨"Hopf", false, [0x210D]⟩, ⟨"HorizontalLine", false, [0x2500]⟩, ⟨"Hscr", false, [0x210B]⟩,
    ⟨"Hstrok", false, [0x126]⟩, ⟨"HumpDownHump", false, [0x224E]⟩, ⟨"HumpEqual", false, [0x224F]⟩]
  | 'I' => [
    ⟨"IEcy", false, [0x415]⟩, ⟨"IJlig", false, [0x132]⟩, ⟨"IOcy", false, [0x401]⟩,
    ⟨"Iacute", true, [0xCD]⟩, ⟨"Icirc", true, [0xCE]⟩, ⟨"Icy", false, [0x418]⟩,
    ⟨"Idot", false, [0x130]⟩, ⟨"Ifr", false, [0x2111]⟩, ⟨"Igrave", true, [0xCC]⟩,
    ⟨"Im", false, [0x2111]⟩, ⟨"Imacr", false, [0x12A]⟩, ⟨"ImaginaryI", false, [0x2148]⟩,
    ⟨"Implies", false, [0x21D2]⟩, ⟨"Int", false, [0x222C]⟩, ⟨"Integral", false, [0x222B]⟩,
    ⟨"Intersection", false, [0x22C2]⟩, ⟨"InvisibleComma", false, [0x2063]⟩,
    ⟨"InvisibleTimes", false, [0x2062]⟩, ⟨"Iogon", false, [0x12E]⟩, ⟨"Iopf", false, [0x1D540]⟩,
    ⟨"Iota", false, [0x399]⟩, ⟨"Iscr", false, [0x2110]⟩, ⟨"Itilde", false, [0x128]⟩,
    ⟨"Iukcy", false, [0x406]⟩, ⟨"Iuml", true, [0xCF]⟩]
  | 'J' => [
    ⟨"Jcirc", false, [0x134]⟩, ⟨"Jcy", false, [0x419]⟩, ⟨"Jfr", false, [0x1D50D]⟩,
    ⟨"Jopf", false, [0x1D541]⟩, ⟨"Jscr", false, [0x1D4A5]⟩, ⟨"Jsercy", false, [0x408]⟩,
    ⟨"Jukcy", false, [0x404]⟩]
  | 'K' => [
    ⟨"KHcy", false, [0x425]⟩, ⟨"KJcy", false, [0x40C]⟩, ⟨"Kappa", false, [0x39A]⟩,
    ⟨"Kcedil", false, [0x136]⟩, ⟨"Kcy", false, [0x41A]⟩, ⟨"Kfr", false, [0x1D50E]⟩,
    ⟨"Kopf", false, [0x1D542]⟩, ⟨"Kscr", false, [0x1D4A6]⟩]
  | 'L' => [
    ⟨"LJcy", false, [0x409]⟩, ⟨"LT", true, [0x3C]⟩, ⟨"Lacute", false, [0x139]⟩,
    ⟨"Lambda", false, [0x39B]⟩, ⟨"Lang", false, [0x27EA]⟩, ⟨"Laplacetrf", false, [0x2112]⟩,
    ⟨"Larr", false, [0x219E]⟩, ⟨"Lcaron", false, [0x13D]⟩, ⟨"Lcedil", false, [0x13B]⟩,
    ⟨"Lcy", false, [0x41B]⟩, ⟨"LeftAngleBracket", false, [0x27E8]⟩,
    ⟨"LeftArrow", false, [0x2190]⟩, ⟨"LeftArrowBar", false, [0x21E4]⟩,
    ⟨"LeftArrowRightArrow", false, [0x21C6]⟩, ⟨"LeftCeiling", false, [0x2308]⟩,
    ⟨"LeftDoubleBracket", false, [0x27E6]⟩, ⟨"LeftDownTeeVector", false, [0x2961]⟩,
    ⟨"LeftDownVector", false, [0x21C3]⟩, ⟨"LeftDownVectorBar", false, [0x2959]⟩,
    ⟨"LeftFloor", false, [0x230A]⟩, ⟨"LeftRightArrow", false, [0x2194]⟩,
    ⟨"LeftRightVector", false, [0x294E]⟩, ⟨"LeftTee", false, [0x22A3]⟩,
    ⟨"LeftTeeArrow", false, [0x21A4]⟩, ⟨"LeftTeeVector", false, [0x295A]⟩,
    ⟨"LeftTriangle", false, [0x22B2]⟩, ⟨"LeftTriangleBar", false, [0x29CF]⟩,
    ⟨"LeftTriangleEqual", false, [0x22B4]⟩, ⟨"LeftUpDownVector", false, [0x2951]⟩,
    ⟨"LeftUpTeeVector", false, [0x2960]⟩, ⟨"LeftUpVector", false, [0x21BF]⟩,
    ⟨"LeftUpVectorBar", false, [0x2958]⟩, ⟨"LeftVector", false, [0x21BC]⟩,
    ⟨"LeftVectorBar", false, [0x2952]⟩, ⟨"Leftarrow", false, [0x21D0]⟩,
    ⟨"Leftrightarrow", false, [0x21D4]⟩, ⟨"LessEqualGreater", false, [0x22DA]⟩,
    ⟨"LessFullEqual", false, [0x2266]⟩, ⟨"LessGreater", false, [0x2276]⟩,
    ⟨"LessLess", false, [0x2AA1]⟩, ⟨"LessSlantEqual", false, [0x2A7D]⟩,
    ⟨"LessTilde", false, [0x2272]⟩, ⟨"Lfr", false, [0x1D50F]⟩, ⟨"Ll", false, [0x22D8]⟩,
    ⟨"Lleftarrow", false, [0x21DA]⟩, ⟨"Lmidot", false, [0x13F]⟩,
    ⟨"LongLeftArrow", false, [0x27F5]⟩, ⟨"LongLeftRightArrow", false, [0x27F7]⟩,
    ⟨"LongRightArrow", false, [0x27F6]⟩, ⟨"Longleftarrow", false, [0x27F8]⟩,
    ⟨"Longleftrightarrow", false, [0x27FA]⟩, ⟨"Longrightarrow", false, [0x27F9]⟩,
    ⟨"Lopf", false, [0x1D543]⟩, ⟨"LowerLeftArrow", false, [0x2199]⟩,
    ⟨"LowerRightArrow", false, [0x2198]⟩, ⟨"Lscr", false, [0x2112]⟩, ⟨"Lsh", false, [0x21B0]⟩,
    ⟨"Lstrok", false, [0x141]⟩, ⟨"Lt", false, [0x226A]⟩]
  | 'M' => [
    ⟨"Map", false, [0x2905]⟩, ⟨"Mcy", false, [0x41C]⟩, ⟨"MediumSpace", false, [0x205F]⟩,
    ⟨"Mellintrf", false, [0x2133]⟩, ⟨"Mfr", false, [0x1D510]⟩, ⟨"MinusPlus", false, [0x2213]⟩,
    ⟨"Mopf", false, [0x1D544]⟩, ⟨"Mscr", false, [0x2133]⟩, ⟨"Mu", false, [0x39C]⟩]
  | 'N' => [
    ⟨"NJcy", false, [0x40A]⟩, ⟨"Nacute", false, [0x143]⟩, ⟨"Ncaron", false, [0x147]⟩,
    ⟨"Ncedil", false, [0x145]⟩, ⟨"Ncy", false, [0x41D]⟩, ⟨"NegativeMediumSpace", false, [0x200B]⟩,
    ⟨"NegativeThickSpace", false, [0x200B]⟩, ⟨"NegativeThinSpace", false, [0x200B]⟩,
    ⟨"NegativeVeryThinSpace", false, [0x200B]⟩, ⟨"NestedGreaterGreater", false, [0x226B]⟩,
    ⟨"NestedLessLess", false, [0x226A]⟩, ⟨"NewLine", false, [0xA]⟩, ⟨"Nfr", false, [0x1D511]⟩,
    ⟨"NoBreak", false, [0x2060]⟩, ⟨"NonBreakingSpace", false, [0xA0]⟩, ⟨"Nopf", false, [0x2115]⟩,
    ⟨"Not", false, [0x2AEC]⟩, ⟨"NotCongruent", false, [0x2262]⟩, ⟨"NotCupCap", false, [0x226D]⟩,
    ⟨"NotDoubleVerticalBar", false, [0x2226]⟩, ⟨"NotElement", false, [0x2209]⟩,
    ⟨"NotEqual", false, [0x2260]⟩, ⟨"NotEqualTilde", false, [0x2242, 0x338]⟩,
    ⟨"NotExists", false, [0x2204]⟩, ⟨"NotGreater", false, [0x226F]⟩,
    ⟨"NotGreaterEqual", false, [0x2271]⟩, ⟨"NotGreaterFullEqual", false, [0x2267, 0x338]⟩,
    ⟨"NotGreaterGreater", false, [0x226B, 0x338]⟩, ⟨"NotGreaterLess", false, [0x2279]⟩,
    ⟨"NotGreaterSlantEqual", false, [0x2A7E, 0x338]⟩, ⟨"NotGreaterTilde", false, [0x2275]⟩,
    ⟨"NotHumpDownHump", false, [0x224E, 0x338]⟩, ⟨"NotHumpEqual", false, [0x224F, 0x338]⟩,
    ⟨"NotLeftTriangle", false, [0x22EA]⟩, ⟨"NotLeftTriangleBar", false, [0x29CF, 0x338]⟩,
    ⟨"NotLeftTriangleEqual", false, [0x22EC]⟩, ⟨"NotLess", false, [0x226E]⟩,
    ⟨"NotLessEqual", false, [0x2270]⟩, ⟨"NotLessGreater", false, [0x2278]⟩,
    ⟨"NotLessLess", false, [0x226A, 0x338]⟩, ⟨"NotLessSlantEqual", false, [0x2A7D, 0x338]⟩,
    ⟨"NotLessTilde", false, [0x2274]⟩, ⟨"NotNestedGreaterGreater", false, [0x2AA2, 0x338]⟩,
    ⟨"NotNestedLessLess", false, [0x2AA1, 0x338]⟩, ⟨"NotPrecedes", false, [0x2280]⟩,
    ⟨"NotPrecedesEqual", false, [0x2AAF, 0x338]⟩, ⟨"NotPrecedesSlantEqual", false, [0x22E0]⟩,
    ⟨"NotReverseElement", false, [0x220C]⟩, ⟨"NotRightTriangle", false, [0x22EB]⟩,
    ⟨"NotRightTriangleBar", false, [0x29D0, 0x338]⟩, ⟨"NotRightTriangleEqual", false, [0x22ED]⟩,
    ⟨"NotSquareSubset", false, [0x228F, 0x338]⟩, ⟨"NotSquareSubsetEqual", false, [0x22E2]⟩,
    ⟨"NotSquareSuperset", false, [0x2290, 0x338]⟩, ⟨"NotSquareSupersetEqual", false, [0x22E3]⟩,
    ⟨"NotSubset", false, [0x2282, 0x20D2]⟩, ⟨"NotSubsetEqual", false, [0x2288]⟩,
    ⟨"NotSucceeds", false, [0x2281]⟩, ⟨"NotSucceedsEqual", false, [0x2AB0, 0x338]⟩,
    ⟨"NotSucceedsSlantEqual", false, [0x22E1]⟩, ⟨"NotSucceedsTilde", false, [0x227F, 0x338]⟩,
    ⟨"NotSuperset", false, [0x2283, 0x20D2]⟩, ⟨"NotSupersetEqual", false, [0x2289]⟩,
    ⟨"NotTilde", false, [0x2241]⟩, ⟨"NotTildeEqual", false, [0x2244]⟩,
    ⟨"NotTildeFullEqual", false, [0x2247]⟩, ⟨"NotTildeTilde", false, [0x2249]⟩,
    ⟨"NotVerticalBar", false, [0x2224]⟩, ⟨"Nscr", false, [0x1D4A9]⟩, ⟨"Ntilde", true, [0xD1]⟩,
    ⟨"Nu", false, [0x39D]⟩]
  | 'O' => [
    ⟨"OElig", false, [0x152]⟩, ⟨"Oacute", true, [0xD3]⟩, ⟨"Ocirc", true, [0xD4]⟩,
    ⟨"Ocy", false, [0x41E]⟩, ⟨"Odblac", false, [0x150]⟩, ⟨"Ofr", false, [0x1D512]⟩,
    ⟨"Ograve", true, [0xD2]⟩, ⟨"Omacr", false, [0x14C]⟩, ⟨"Omega", false, [0x3A9]⟩,
    ⟨"Omicron", false, [0x39F]⟩, ⟨"Oopf", false, [0x1D546]⟩,
    ⟨"OpenCurlyDoubleQuote", false, [0x201C]⟩, ⟨"OpenCurlyQuote", false, [0x2018]⟩,
    ⟨"Or", false, [0x2A54]⟩, ⟨"Oscr", false, [0x1D4AA]⟩, ⟨"Oslash", true, [0xD8]⟩,
    ⟨"Otilde", true, [0xD5]⟩, ⟨"Otimes", false, [0x2A37]⟩, ⟨"Ouml", true, [0xD6]⟩,
    ⟨"OverBar", false, [0x203E]⟩, ⟨"OverBrace", false, [0x23DE]⟩,
    ⟨"OverBracket", false, [0x23B4]⟩, ⟨"OverParenthesis", false, [0x23DC]⟩]
  | 'P' => [
    ⟨"PartialD", false, [0x2202]⟩, ⟨"Pcy", false, [0x41F]⟩, ⟨"Pfr", false, [0x1D513]⟩,
    ⟨"Phi", false, [0x3A6]⟩, ⟨"Pi", false, [0x3A0]⟩, ⟨"PlusMinus", false, [0xB1]⟩,
    ⟨"Poincareplane", false, [0x210C]⟩, ⟨"Popf", false, [0x2119]⟩, ⟨"Pr", false, [0x2ABB]⟩,
    ⟨"Precedes", false, [0x227A]⟩, ⟨"PrecedesEqual", false, [0x2AAF]⟩,
    ⟨"PrecedesSlantEqual", false, [0x227C]⟩, ⟨"PrecedesTilde", false, [0x227E]⟩,
    ⟨"Prime", false, [0x2033]⟩, ⟨"Product", false, [0x220F]⟩, ⟨"Proportion", false, [0x2237]⟩,
    ⟨"Proportional", false, [0x221D]⟩, ⟨"Pscr", false, [0x1D4AB]⟩, ⟨"Psi", false, [0x3A8]⟩]
  | 'Q' => [
    ⟨"QUOT", true, [0x22]⟩, ⟨"Qfr", false, [0x1D514]⟩, ⟨"Qopf", false, [0x211A]⟩,
    ⟨"Qscr", false, [0x1D4AC]⟩]
  | 'R' => [
    ⟨"RBarr", false, [0x2910]⟩, ⟨"REG", true, [0xAE]⟩, ⟨"Racute", false, [0x154]⟩,
    ⟨"Rang", false, [0x27EB]⟩, ⟨"Rarr", false, [0x21A0]⟩, ⟨"Rarrtl", false, [0x2916]⟩,
    ⟨"Rcaron", false, [0x158]⟩, ⟨"Rcedil", false, [0x156]⟩, ⟨"Rcy", false, [0x420]⟩,
    ⟨"Re", false, [0x211C]⟩, ⟨"ReverseElement", false, [0x220B]⟩,
    ⟨"ReverseEquilibrium", false, [0x21CB]⟩, ⟨"ReverseUpEquilibrium", false, [0x296F]⟩,
    ⟨"Rfr", false, [0x211C]⟩, ⟨"Rho", false, [0x3A1]⟩, ⟨"RightAngleBracket", false, [0x27E9]⟩,
    ⟨"RightArrow", false, [0x2192]⟩, ⟨"RightArrowBar", false, [0x21E5]⟩,
    ⟨"RightArrowLeftArrow", false, [0x21C4]⟩, ⟨"RightCeiling", false, [0x2309]⟩,
    ⟨"RightDoubleBracket", false, [0x27E7]⟩, ⟨"RightDownTeeVector", false, [0x295D]⟩,
    ⟨"RightDownVector", false, [0x21C2]⟩, ⟨"RightDownVectorBar", false, [0x2955]⟩,
    ⟨"RightFloor", false, [0x230B]⟩, ⟨"RightTee", false, [0x22A2]⟩,
    ⟨"RightTeeArrow", false, [0x21A6]⟩, ⟨"RightTeeVector", false, [0x295B]⟩,
    ⟨"RightTriangle", false, [0x22B3]⟩, ⟨"RightTriangleBar", false, [0x29D0]⟩,
    ⟨"RightTriangleEqual", false, [0x22B5]⟩, ⟨"RightUpDownVector", false, [0x294F]⟩,
    ⟨"RightUpTeeVector", false, [0x295C]⟩, ⟨"RightUpVector", false, [0x21BE]⟩,
    ⟨"RightUpVectorBar", false, [0x2954]⟩, ⟨"RightVector", false, [0x21C0]⟩,
    ⟨"RightVectorBar", false, [0x2953]⟩, ⟨"Rightarrow", false, [0x21D2]⟩,
    ⟨"Ropf", false, [0x211D]⟩, ⟨"RoundImplies", false, [0x2970]⟩,
    ⟨"Rrightarrow", false, [0x21DB]⟩, ⟨"Rscr", false, [0x211B]⟩, ⟨"Rsh", false, [0x21B1]⟩,
    ⟨"RuleDelayed", false, [0x29F4]⟩]
  | 'S' => [
    ⟨"SHCHcy", false, [0x429]⟩, ⟨"SHcy", false, [0x428]⟩, ⟨"SOFTcy", false, [0x42C]⟩,
    ⟨"Sacute", false, [0x15A]⟩, ⟨"Sc", false, [0x2ABC]⟩, ⟨"Scaron", false, [0x160]⟩,
    ⟨"Scedil", false, [0x15E]⟩, ⟨"Scirc", false, [0x15C]⟩, ⟨"Scy", false, [0x421]⟩,
    ⟨"Sfr", false, [0x1D516]⟩, ⟨"ShortDownArrow", false, [0x2193]⟩,
    ⟨"ShortLeftArrow", false, [0x2190]⟩, ⟨"ShortRightArrow", false, [0x2192]⟩,
    ⟨"ShortUpArrow", false, [0x2191]⟩, ⟨"Sigma", false, [0x3A3]⟩,
    ⟨"SmallCircle", false, [0x2218]⟩, ⟨"Sopf", false, [0x1D54A]⟩, ⟨"Sqrt", false, [0x221A]⟩,
    ⟨"Square", false, [0x25A1]⟩, ⟨"SquareIntersection", false, [0x2293]⟩,
    ⟨"SquareSubset", false, [0x228F]⟩, ⟨"SquareSubsetEqual", false, [0x2291]⟩,
    ⟨"SquareSuperset", false, [0x2290]⟩, ⟨"SquareSupersetEqual", false, [0x2292]⟩,
    ⟨"SquareUnion", false, [0x2294]⟩, ⟨"Sscr", false, [0x1D4AE]⟩, ⟨"Star", false, [0x22C6]⟩,
    ⟨"Sub", false, [0x22D0]⟩, ⟨"Subset", false, [0x22D0]⟩, ⟨"SubsetEqual", false, [0x2286]⟩,
    ⟨"Succeeds", false, [0x227B]⟩, ⟨"SucceedsEqual", false, [0x2AB0]⟩,
    ⟨"SucceedsSlantEqual", false, [0x227D]⟩, ⟨"SucceedsTilde", false, [0x227F]⟩,
    ⟨"SuchThat", false, [0x220B]⟩, ⟨"Sum", false, [0x2211]⟩, ⟨"Sup", false, [0x22D1]⟩,
    ⟨"Superset", false, [0x2283]⟩, ⟨"SupersetEqual", false, [0x2287]⟩, ⟨"Supset", false, [0x22D1]⟩]
  | 'T' => [
    ⟨"THORN", true, [0xDE]⟩, ⟨"TRADE", false, [0x2122]⟩, ⟨"TSHcy", false, [0x40B]⟩,
    ⟨"TScy", false, [0x426]⟩, ⟨"Tab", false, [0x9]⟩, ⟨"Tau", false, [0x3A4]⟩,
    ⟨"Tcaron", false, [0x164]⟩, ⟨"Tcedil", false, [0x162]⟩, ⟨"Tcy", false, [0x422]⟩,
    ⟨"Tfr", false, [0x1D517]⟩, ⟨"Therefore", false, [0x2234]⟩, ⟨"Theta", false, [0x398]⟩,
    ⟨"ThickSpace", false, [0x205F, 0x200A]⟩, ⟨"ThinSpace", false, [0x2009]⟩,
    ⟨"Tilde", false, [0x223C]⟩, ⟨"TildeEqual", false, [0x2243]⟩,
    ⟨"TildeFullEqual", false, [0x2245]⟩, ⟨"TildeTilde", false, [0x2248]⟩,
    ⟨"Topf", false, [0x1D54B]⟩, ⟨"TripleDot", false, [0x20DB]⟩, ⟨"Tscr", false, [0x1D4AF]⟩,
    ⟨"Tstrok", false, [0x166]⟩]
  | 'U' => [
    ⟨"Uacute", true, [0xDA]⟩, ⟨"Uarr", false, [0x219F]⟩, ⟨"Uarrocir", false, [0x2949]⟩,
    ⟨"Ubrcy", false, [0x40E]⟩, ⟨"Ubreve", false, [0x16C]⟩, ⟨"Ucirc", true, [0xDB]⟩,
    ⟨"Ucy", false, [0x423]⟩, ⟨"Udblac", false, [0x170]⟩, ⟨"Ufr", false, [0x1D518]⟩,
    ⟨"Ugrave", true, [0xD9]⟩, ⟨"Umacr", false, [0x16A]⟩, ⟨"UnderBar", false, [0x5F]⟩,
    ⟨"UnderBrace", false, [0x23DF]⟩, ⟨"UnderBracket", false, [0x23B5]⟩,
    ⟨"UnderParenthesis", false, [0x23DD]⟩, ⟨"Union", false, [0x22C3]⟩,
    ⟨"UnionPlus", false, [0x228E]⟩, ⟨"Uogon", false, [0x172]⟩, ⟨"Uopf", false, [0x1D54C]⟩,
    ⟨"UpArrow", false, [0x2191]⟩, ⟨"UpArrowBar", false, [0x2912]⟩,
    ⟨"UpArrowDownArrow", false, [0x21C5]⟩, ⟨"UpDownArrow", false, [0x2195]⟩,
    ⟨"UpEquilibrium", false, [0x296E]⟩, ⟨"UpTee", false, [0x22A5]⟩,
    ⟨"UpTeeArrow", false, [0x21A5]⟩, ⟨"Uparrow", false, [0x21D1]⟩,
    ⟨"Updownarrow", false, [0x21D5]⟩, ⟨"UpperLeftArrow", false, [0x2196]⟩,
    ⟨"UpperRightArrow", false, [0x2197]⟩, ⟨"Upsi", false, [0x3D2]⟩, ⟨"Upsilon", false, [0x3A5]⟩,
    ⟨"Uring", false, [0x16E]⟩, ⟨"Uscr", false, [0x1D4B0]⟩, ⟨"Utilde", false, [0x168]⟩,
    ⟨"Uuml", true, [0xDC]⟩]
  | 'V' => [
    ⟨"VDash", false, [0x22AB]⟩, ⟨"Vbar", false, [0x2AEB]⟩, ⟨"Vcy", false, [0x412]⟩,
    ⟨"Vdash", false, [0x22A9]⟩, ⟨"Vdashl", false, [0x2AE6]⟩, ⟨"Vee", false, [0x22C1]⟩,
    ⟨"Verbar", false, [0x2016]⟩, ⟨"Vert", false, [0x2016]⟩, ⟨"VerticalBar", false, [0x2223]⟩,
    ⟨"VerticalLine", false, [0x7C]⟩, ⟨"VerticalSeparator", false, [0x2758]⟩,
    ⟨"VerticalTilde", false, [0x2240]⟩, ⟨"VeryThinSpace", false, [0x200A]⟩,
    ⟨"Vfr", false, [0x1D519]⟩, ⟨"Vopf", false, [0x1D54D]⟩, ⟨"Vscr", false, [0x1D4B1]⟩,
    ⟨"Vvdash", false, [0x22AA]⟩]
  | 'W' => [
    ⟨"Wcirc", false, [0x174]⟩, ⟨"Wedge", false, [0x22C0]⟩, ⟨"Wfr", false, [0x1D51A]⟩,
    ⟨"Wopf", false, [0x1D54E]⟩, ⟨"Wscr", false, [0x1D4B2]⟩]
  | 'X' => [
    ⟨"Xfr", false, [0x1D51B]⟩, ⟨"Xi", false, [0x39E]⟩, ⟨"Xopf", false, [0x1D54F]⟩,
    ⟨"Xscr", false, [0x1D4B3]⟩]
  | 'Y' => [
    ⟨"YAcy", false, [0x42F]⟩, ⟨"YIcy", false, [0x407]⟩, ⟨"YUcy", false, [0x42E]⟩,
    ⟨"Yacute", true, [0xDD]⟩, ⟨"Ycirc", false, [0x176]⟩, ⟨"Ycy", false, [0x42B]⟩,
    ⟨"Yfr", false, [0x1D51C]⟩, ⟨"Yopf", false, [0x1D550]⟩, ⟨"Yscr", false, [0x1D4B4]⟩,
    ⟨"Yuml", false, [0x178]⟩]
  | 'Z' => [
    ⟨"ZHcy", false, [0x416]⟩, ⟨"Zacute", false, [0x179]⟩, ⟨"Zcaron", false, [0x17D]⟩,
    ⟨"Zcy", false, [0x417]⟩, ⟨"Zdot", false, [0x17B]⟩, ⟨"ZeroWidthSpace", false, [0x200B]⟩,
    ⟨"Zeta", false, [0x396]⟩, ⟨"Zfr", false, [0x2128]⟩, ⟨"Zopf", false, [0x2124]⟩,
    ⟨"Zscr", false, [0x1D4B5]⟩]
  | 'a' => [
    ⟨"aacute", true, [0xE1]⟩, ⟨"abreve", false, [0x103]⟩, ⟨"ac", false, [0x223E]⟩,
    ⟨"acE", false, [0x223E, 0x333]⟩, ⟨"acd", false, [0x223F]⟩, ⟨"acirc", true, [0xE2]⟩,
    ⟨"acute", true, [0xB4]⟩, ⟨"acy", false, [0x430]⟩, ⟨"aelig", true, [0xE6]⟩,
    ⟨"af", false, [0x2061]⟩, ⟨"afr", false, [0x1D51E]⟩, ⟨"agrave", true, [0xE0]⟩,
    ⟨"alefsym", false, [0x2135]⟩, ⟨"aleph", false, [0x2135]⟩, ⟨"alpha", false, [0x3B1]⟩,
    ⟨"amacr", false, [0x101]⟩, ⟨"amalg", false, [0x2A3F]⟩, ⟨"amp", true, [0x26]⟩,
    ⟨"and", false, [0x2227]⟩, ⟨"andand", false, [0x2A55]⟩, ⟨"andd", false, [0x2A5C]⟩,
    ⟨"andslope", false, [0x2A58]⟩, ⟨"andv", false, [0x2A5A]⟩, ⟨"ang", false, [0x2220]⟩,
    ⟨"ange", false, [0x29A4]⟩, ⟨"angle", false, [0x2220]⟩, ⟨"angmsd", false, [0x2221]⟩,
    ⟨"angmsdaa", false, [0x29A8]⟩, ⟨"angmsdab", false, [0x29A9]⟩, ⟨"angmsdac", false, [0x29AA]⟩,
    ⟨"angmsdad", false, [0x29AB]⟩, ⟨"angmsdae", false, [0x29AC]⟩, ⟨"angmsdaf", false, [0x29AD]⟩,
    ⟨"angmsdag", false, [0x29AE]⟩, ⟨"angmsdah", false, [0x29AF]⟩, ⟨"angrt", false, [0x221F]⟩,
    ⟨"angrtvb", false, [0x22BE]⟩, ⟨"angrtvbd", false, [0x299D]⟩, ⟨"angsph", false, [0x2222]⟩,
    ⟨"angst", false, [0xC5]⟩, ⟨"angzarr", false, [0x237C]⟩, ⟨"aogon", false, [0x105]⟩,
    ⟨"aopf", false, [0x1D552]⟩, ⟨"ap", false, [0x2248]⟩, ⟨"apE", false, [0x2A70]⟩,
    ⟨"apacir", false, [0x2A6F]⟩, ⟨"ape", false, [0x224A]⟩, ⟨"apid", false, [0x224B]⟩,
    ⟨"apos", false, [0x27]⟩, ⟨"approx", false, [0x2248]⟩, ⟨"approxeq", false, [0x224A]⟩,
    ⟨"aring", true, [0xE5]⟩, ⟨"ascr", false, [0x1D4B6]⟩, ⟨"ast", false, [0x2A]⟩,
    ⟨"asymp", false, [0x2248]⟩, ⟨"asympeq", false, [0x224D]⟩, ⟨"atilde", true, [0xE3]⟩,
    ⟨"auml", true, [0xE4]⟩, ⟨"awconint", false, [0x2233]⟩, ⟨"awint", false, [0x2A11]⟩]
  | 'b' => [
    ⟨"bNot", false, [0x2AED]⟩, ⟨"backcong", false, [0x224C]⟩, ⟨"backepsilon", false, [0x3F6]⟩,
    ⟨"backprime", false, [0x2035]⟩, ⟨"backsim", false, [0x223D]⟩, ⟨"backsimeq", false, [0x22CD]⟩,
    ⟨"barvee", false, [0x22BD]⟩, ⟨"barwed", false, [0x2305]⟩, ⟨"barwedge", false, [0x2305]⟩,
    ⟨"bbrk", false, [0x23B5]⟩, ⟨"bbrktbrk", false, [0x23B6]⟩, ⟨"bcong", false, [0x224C]⟩,
    ⟨"bcy", false, [0x431]⟩, ⟨"bdquo", false, [0x201E]⟩, ⟨"becaus", false, [0x2235]⟩,
    ⟨"because", false, [0x2235]⟩, ⟨"bemptyv", false, [0x29B0]⟩, ⟨"bepsi", false, [0x3F6]⟩,
    ⟨"bernou", false, [0x212C]⟩, ⟨"beta", false, [0x3B2]⟩, ⟨"beth", false, [0x2136]⟩,
    ⟨"between", false, [0x226C]⟩, ⟨"bfr", false, [0x1D51F]⟩, ⟨"bigcap", false, [0x22C2]⟩,
    ⟨"bigcirc", false, [0x25EF]⟩, ⟨"bigcup", false, [0x22C3]⟩, ⟨"bigodot", false, [0x2A00]⟩,
    ⟨"bigoplus", false, [0x2A01]⟩, ⟨"bigotimes", false, [0x2A02]⟩, ⟨"bigsqcup", false, [0x2A06]⟩,
    ⟨"bigstar", false, [0x2605]⟩, ⟨"bigtriangledown", false, [0x25BD]⟩,
    ⟨"bigtriangleup", false, [0x25B3]⟩, ⟨"biguplus", false, [0x2A04]⟩,
    ⟨"bigvee", false, [0x22C1]⟩, ⟨"bigwedge", false, [0x22C0]⟩, ⟨"bkarow", false, [0x290D]⟩,
    ⟨"blacklozenge", false, [0x29EB]⟩, ⟨"blacksquare", false, [0x25AA]⟩,
    ⟨"blacktriangle", false, [0x25B4]⟩, ⟨"blacktriangledown", false, [0x25BE]⟩,
    ⟨"blacktriangleleft", false, [0x25C2]⟩, ⟨"blacktriangleright", false, [0x25B8]⟩,
    ⟨"blank", false, [0x2423]⟩, ⟨"blk12", false, [0x2592]⟩, ⟨"blk14", false, [0x2591]⟩,
    ⟨"blk34", false, [0x2593]⟩, ⟨"block", false, [0x2588]⟩, ⟨"bne", false, [0x3D, 0x20E5]⟩,
    ⟨"bnequiv", false, [0x2261, 0x20E5]⟩, ⟨"bnot", false, [0x2310]⟩, ⟨"bopf", false, [0x1D553]⟩,
    ⟨"bot", false, [0x22A5]⟩, ⟨"bottom", false, [0x22A5]⟩, ⟨"bowtie", false, [0x22C8]⟩,
    ⟨"boxDL", false, [0x2557]⟩, ⟨"boxDR", false, [0x2554]⟩, ⟨"boxDl", false, [0x2556]⟩,
    ⟨"boxDr", false, [0x2553]⟩, ⟨"boxH", false, [0x2550]⟩, ⟨"boxHD", false, [0x2566]⟩,
    ⟨"boxHU", false, [0x2569]⟩, ⟨"boxHd", false, [0x2564]⟩, ⟨"boxHu", false, [0x2567]⟩,
    ⟨"boxUL", false, [0x255D]⟩, ⟨"boxUR", false, [0x255A]⟩, ⟨"boxUl", false, [0x255C]⟩,
    ⟨"boxUr", false, [0x2559]⟩, ⟨"boxV", false, [0x2551]⟩, ⟨"boxVH", false, [0x256C]⟩,
    ⟨"boxVL", false, [0x2563]⟩, ⟨"boxVR", false, [0x2560]⟩, ⟨"boxVh", false, [0x256B]⟩,
    ⟨"boxVl", false, [0x2562]⟩, ⟨"boxVr", false, [0x255F]⟩, ⟨"boxbox", false, [0x29C9]⟩,
    ⟨"boxdL", false, [0x2555]⟩, ⟨"boxdR", false, [0x2552]⟩, ⟨"boxdl", false, [0x2510]⟩,
    ⟨"boxdr", false, [0x250C]⟩, ⟨"boxh", false, [0x2500]⟩, ⟨"boxhD", false, [0x2565]⟩,
    ⟨"boxhU", false, [0x2568]⟩, ⟨"boxhd", false, [0x252C]⟩, ⟨"boxhu", false, [0x2534]⟩,
    ⟨"boxminus", false, [0x229F]⟩, ⟨"boxplus", false, [0x229E]⟩, ⟨"boxtimes", false, [0x22A0]⟩,
    ⟨"boxuL", false, [0x255B]⟩, ⟨"boxuR", false, [0x2558]⟩, ⟨"boxul", false, [0x2518]⟩,
    ⟨"boxur", false, [0x2514]⟩, ⟨"boxv", false, [0x2502]⟩, ⟨"boxvH", false, [0x256A]⟩,
    ⟨"boxvL", false, [0x2561]⟩, ⟨"boxvR", false, [0x255E]⟩, ⟨"boxvh", false, [0x253C]⟩,
    ⟨"boxvl", false, [0x2524]⟩, ⟨"boxvr", false, [0x251C]⟩, ⟨"bprime", false, [0x2035]⟩,
    ⟨"breve", false, [0x2D8]⟩, ⟨"brvbar", true, [0xA6]⟩, ⟨"bscr", false, [0x1D4B7]⟩,
    ⟨"bsemi", false, [0x204F]⟩, ⟨"bsim", false, [0x223D]⟩, ⟨"bsime", false, [0x22CD]⟩,
    ⟨"bsol", false, [0x5C]⟩, ⟨"bsolb", false, [0x29C5]⟩, ⟨"bsolhsub", false, [0x27C8]⟩,
    ⟨"bull", false, [0x2022]⟩, ⟨"bullet", false, [0x2022]⟩, ⟨"bump", false, [0x224E]⟩,
    ⟨"bumpE", false, [0x2AAE]⟩, ⟨"bumpe", false, [0x224F]⟩, ⟨"bumpeq", false, [0x224F]⟩]
  | 'c' => [
    ⟨"cacute", false, [0x107]⟩, ⟨"cap", false, [0x2229]⟩, ⟨"capand", false, [0x2A44]⟩,
    ⟨"capbrcup", false, [0x2A49]⟩, ⟨"capcap", false, [0x2A4B]⟩, ⟨"capcup", false, [0x2A47]⟩,
    ⟨"capdot", false, [0x2A40]⟩, ⟨"caps", false, [0x2229, 0xFE00]⟩, ⟨"caret", false, [0x2041]⟩,
    ⟨"caron", false, [0x2C7]⟩, ⟨"ccaps", false, [0x2A4D]⟩, ⟨"ccaron", false, [0x10D]⟩,
    ⟨"ccedil", true, [0xE7]⟩, ⟨"ccirc", false, [0x109]⟩, ⟨"ccups", false, [0x2A4C]⟩,
    ⟨"ccupssm", false, [0x2A50]⟩, ⟨"cdot", false, [0x10B]⟩, ⟨"cedil", true, [0xB8]⟩,
    ⟨"cemptyv", false, [0x29B2]⟩, ⟨"cent", true, [0xA2]⟩, ⟨"centerdot", false, [0xB7]⟩,
    ⟨"cfr", false, [0x1D520]⟩, ⟨"chcy", false, [0x447]⟩, ⟨"check", false, [0x2713]⟩,
    ⟨"checkmark", false, [0x2713]⟩, ⟨"chi", false, [0x3C7]⟩, ⟨"cir", false, [0x25CB]⟩,
    ⟨"cirE", false, [0x29C3]⟩, ⟨"circ", false, [0x2C6]⟩, ⟨"circeq", false, [0x2257]⟩,
    ⟨"circlearrowleft", false, [0x21BA]⟩, ⟨"circlearrowright", false, [0x21BB]⟩,
    ⟨"circledR", false, [0xAE]⟩, ⟨"circledS", false, [0x24C8]⟩, ⟨"circledast", false, [0x229B]⟩,
    ⟨"circledcirc", false, [0x229A]⟩, ⟨"circleddash", false, [0x229D]⟩, ⟨"cire", false, [0x2257]⟩,
    ⟨"cirfnint", false, [0x2A10]⟩, ⟨"cirmid", false, [0x2AEF]⟩, ⟨"cirscir", false, [0x29C2]⟩,
    ⟨"clubs", false, [0x2663]⟩, ⟨"clubsuit", false, [0x2663]⟩, ⟨"colon", false, [0x3A]⟩,
    ⟨"colone", false, [0x2254]⟩, ⟨"coloneq", false, [0x2254]⟩, ⟨"comma", false, [0x2C]⟩,
    ⟨"commat", false, [0x40]⟩, ⟨"comp", false, [0x2201]⟩, ⟨"compfn", false, [0x2218]⟩,
    ⟨"complement", false, [0x2201]⟩, ⟨"complexes", false, [0x2102]⟩, ⟨"cong", false, [0x2245]⟩,
    ⟨"congdot", false, [0x2A6D]⟩, ⟨"conint", false, [0x222E]⟩, ⟨"copf", false, [0x1D554]⟩,
    ⟨"coprod", false, [0x2210]⟩, ⟨"copy", true, [0xA9]⟩, ⟨"copysr", false, [0x2117]⟩,
    ⟨"crarr", false, [0x21B5]⟩, ⟨"cross", false, [0x2717]⟩, ⟨"cscr", false, [0x1D4B8]⟩,
    ⟨"csub", false, [0x2ACF]⟩, ⟨"csube", false, [0x2AD1]⟩, ⟨"csup", false, [0x2AD0]⟩,
    ⟨"csupe", false, [0x2AD2]⟩, ⟨"ctdot", false, [0x22EF]⟩, ⟨"cudarrl", false, [0x2938]⟩,
    ⟨"cudarrr", false, [0x2935]⟩, ⟨"cuepr", false, [0x22DE]⟩, ⟨"cuesc", false, [0x22DF]⟩,
    ⟨"cularr", false, [0x21B6]⟩, ⟨"cularrp", false, [0x293D]⟩, ⟨"cup", false, [0x222A]⟩,
    ⟨"cupbrcap", false, [0x2A48]⟩, ⟨"cupcap", false, [0x2A46]⟩, ⟨"cupcup", false, [0x2A4A]⟩,
    ⟨"cupdot", false, [0x228D]⟩, ⟨"cupor", false, [0x2A45]⟩, ⟨"cups", false, [0x222A, 0xFE00]⟩,
    ⟨"curarr", false, [0x21B7]⟩, ⟨"curarrm", false, [0x293C]⟩, ⟨"curlyeqprec", false, [0x22DE]⟩,
    ⟨"curlyeqsucc", false, [0x22DF]⟩, ⟨"curlyvee", false, [0x22CE]⟩,
    ⟨"curlywedge", false, [0x22CF]⟩, ⟨"curren", true, [0xA4]⟩,
    ⟨"curvearrowleft", false, [0x21B6]⟩, ⟨"curvearrowright", false, [0x21B7]⟩,
    ⟨"cuvee", false, [0x22CE]⟩, ⟨"cuwed", false, [0x22CF]⟩, ⟨"cwconint", false, [0x2232]⟩,
    ⟨"cwint", false, [0x2231]⟩, ⟨"cylcty", false, [0x232D]⟩]
  | 'd' => [
    ⟨"dArr", false, [0x21D3]⟩, ⟨"dHar", false, [0x2965]⟩, ⟨"dagger", false, [0x2020]⟩,
    ⟨"daleth", false, [0x2138]⟩, ⟨"darr", false, [0x2193]⟩, ⟨"dash", false, [0x2010]⟩,
    ⟨"dashv", false, [0x22A3]⟩, ⟨"dbkarow", false, [0x290F]⟩, ⟨"dblac", false, [0x2DD]⟩,
    ⟨"dcaron", false, [0x10F]⟩, ⟨"dcy", false, [0x434]⟩, ⟨"dd", false, [0x2146]⟩,
    ⟨"ddagger", false, [0x2021]⟩, ⟨"ddarr", false, [0x21CA]⟩, ⟨"ddotseq", false, [0x2A77]⟩,
    ⟨"deg", true, [0xB0]⟩, ⟨"delta", false, [0x3B4]⟩, ⟨"demptyv", false, [0x29B1]⟩,
    ⟨"dfisht", false, [0x297F]⟩, ⟨"dfr", false, [0x1D521]⟩, ⟨"dharl", false, [0x21C3]⟩,
    ⟨"dharr", false, [0x21C2]⟩, ⟨"diam", false, [0x22C4]⟩, ⟨"diamond", false, [0x22C4]⟩,
    ⟨"diamondsuit", false, [0x2666]⟩, ⟨"diams", false, [0x2666]⟩, ⟨"die", false, [0xA8]⟩,
    ⟨"digamma", false, [0x3DD]⟩, ⟨"disin", false, [0x22F2]⟩, ⟨"div", false, [0xF7]⟩,
    ⟨"divide", true, [0xF7]⟩, ⟨"divideontimes", false, [0x22C7]⟩, ⟨"divonx", false, [0x22C7]⟩,
    ⟨"djcy", false, [0x452]⟩, ⟨"dlcorn", false, [0x231E]⟩, ⟨"dlcrop", false, [0x230D]⟩,
    ⟨"dollar", false, [0x24]⟩, ⟨"dopf", false, [0x1D555]⟩, ⟨"dot", false, [0x2D9]⟩,
    ⟨"doteq", false, [0x2250]⟩, ⟨"doteqdot", false, [0x2251]⟩, ⟨"dotminus", false, [0x2238]⟩,
    ⟨"dotplus", false, [0x2214]⟩, ⟨"dotsquare", false, [0x22A1]⟩,
    ⟨"doublebarwedge", false, [0x2306]⟩, ⟨"downarrow", false, [0x2193]⟩,
    ⟨"downdownarrows", false, [0x21CA]⟩, ⟨"downharpoonleft", false, [0x21C3]⟩,
    ⟨"downharpoonright", false, [0x21C2]⟩, ⟨"drbkarow", false, [0x2910]⟩,
    ⟨"drcorn", false, [0x231F]⟩, ⟨"drcrop", false, [0x230C]⟩, ⟨"dscr", false, [0x1D4B9]⟩,
    ⟨"dscy", false, [0x455]⟩, ⟨"dsol", false, [0x29F6]⟩, ⟨"dstrok", false, [0x111]⟩,
    ⟨"dtdot", false, [0x22F1]⟩, ⟨"dtri", false, [0x25BF]⟩, ⟨"dtrif", false, [0x25BE]⟩,
    ⟨"duarr", false, [0x21F5]⟩, ⟨"duhar", false, [0x296F]⟩, ⟨"dwangle", false, [0x29A6]⟩,
    ⟨"dzcy", false, [0x45F]⟩, ⟨"dzigrarr", false, [0x27FF]⟩]
  | 'e' => [
    ⟨"eDDot", false, [0x2A77]⟩, ⟨"eDot", false, [0x2251]⟩, ⟨"eacute", true, [0xE9]⟩,
    ⟨"easter", false, [0x2A6E]⟩, ⟨"ecaron", false, [0x11B]⟩, ⟨"ecir", false, [0x2256]⟩,
    ⟨"ecirc", true, [0xEA]⟩, ⟨"ecolon", false, [0x2255]⟩, ⟨"ecy", false, [0x44D]⟩,
    ⟨"edot", false, [0x117]⟩, ⟨"ee", false, [0x2147]⟩, ⟨"efDot", false, [0x2252]⟩,
    ⟨"efr", false, [0x1D522]⟩, ⟨"eg", false, [0x2A9A]⟩, ⟨"egrave", true, [0xE8]⟩,
    ⟨"egs", false, [0x2A96]⟩, ⟨"egsdot", false, [0x2A98]⟩, ⟨"el", false, [0x2A99]⟩,
    ⟨"elinters", false, [0x23E7]⟩, ⟨"ell", false, [0x2113]⟩, ⟨"els", false, [0x2A95]⟩,
    ⟨"elsdot", false, [0x2A97]⟩, ⟨"emacr", false, [0x113]⟩, ⟨"empty", false, [0x2205]⟩,
    ⟨"emptyset", false, [0x2205]⟩, ⟨"emptyv", false, [0x2205]⟩, ⟨"emsp", false, [0x2003]⟩,
    ⟨"emsp13", false, [0x2004]⟩, ⟨"emsp14", false, [0x2005]⟩, ⟨"eng", false, [0x14B]⟩,
    ⟨"ensp", false, [0x2002]⟩, ⟨"eogon", false, [0x119]⟩, ⟨"eopf", false, [0x1D556]⟩,
    ⟨"epar", false, [0x22D5]⟩, ⟨"eparsl", false, [0x29E3]⟩, ⟨"eplus", false, [0x2A71]⟩,
    ⟨"epsi", false, [0x3B5]⟩, ⟨"epsilon", false, [0x3B5]⟩, ⟨"epsiv", false, [0x3F5]⟩,
    ⟨"eqcirc", false, [0x2256]⟩, ⟨"eqcolon", false, [0x2255]⟩, ⟨"eqsim", false, [0x2242]⟩,
    ⟨"eqslantgtr", false, [0x2A96]⟩, ⟨"eqslantless", false, [0x2A95]⟩, ⟨"equals", false, [0x3D]⟩,
    ⟨"equest", false, [0x225F]⟩, ⟨"equiv", false, [0x2261]⟩, ⟨"equivDD", false, [0x2A78]⟩,
    ⟨"eqvparsl", false, [0x29E5]⟩, ⟨"erDot", false, [0x2253]⟩, ⟨"erarr", false, [0x2971]⟩,
    ⟨"escr", false, [0x212F]⟩, ⟨"esdot", false, [0x2250]⟩, ⟨"esim", false, [0x2242]⟩,
    ⟨"eta", false, [0x3B7]⟩, ⟨"eth", true, [0xF0]⟩, ⟨"euml", true, [0xEB]⟩,
    ⟨"euro", false, [0x20AC]⟩, ⟨"excl", false, [0x21]⟩, ⟨"exist", false, [0x2203]⟩,
    ⟨"expectation", false, [0x2130]⟩, ⟨"exponentiale", false, [0x2147]⟩]
  | 'f' => [
    ⟨"fallingdotseq", false, [0x2252]⟩, ⟨"fcy", false, [0x444]⟩, ⟨"female", false, [0x2640]⟩,
    ⟨"ffilig", false, [0xFB03]⟩, ⟨"fflig", false, [0xFB00]⟩, ⟨"ffllig", false, [0xFB04]⟩,
    ⟨"ffr", false, [0x1D523]⟩, ⟨"filig", false, [0xFB01]⟩, ⟨"fjlig", false, [0x66, 0x6A]⟩,
    ⟨"flat", false, [0x266D]⟩, ⟨"fllig", false, [0xFB02]⟩, ⟨"fltns", false, [0x25B1]⟩,
    ⟨"fnof", false, [0x192]⟩, ⟨"fopf", false, [0x1D557]⟩, ⟨"forall", false, [0x2200]⟩,
    ⟨"fork", false, [0x22D4]⟩, ⟨"forkv", false, [0x2AD9]⟩, ⟨"fpartint", false, [0x2A0D]⟩,
    ⟨"frac12", true, [0xBD]⟩, ⟨"frac13", false, [0x2153]⟩, ⟨"frac14", true, [0xBC]⟩,
    ⟨"frac15", false, [0x2155]⟩, ⟨"frac16", false, [0x2159]⟩, ⟨"frac18", false, [0x215B]⟩,
    ⟨"frac23", false, [0x2154]⟩, ⟨"frac25", false, [0x2156]⟩, ⟨"frac34", true, [0xBE]⟩,
    ⟨"frac35", false, [0x2157]⟩, ⟨"frac38", false, [0x215C]⟩, ⟨"frac45", false, [0x2158]⟩,
    ⟨"frac56", false, [0x215A]⟩, ⟨"frac58", false, [0x215D]⟩, ⟨"frac78", false, [0x215E]⟩,
    ⟨"frasl", false, [0x2044]⟩, ⟨"frown", false, [0x2322]⟩, ⟨"fscr", false, [0x1D4BB]⟩]
  | 'g' => [
    ⟨"gE", false, [0x2267]⟩, ⟨"gEl", false, [0x2A8C]⟩, ⟨"gacute", false, [0x1F5]⟩,
    ⟨"gamma", false, [0x3B3]⟩, ⟨"gammad", false, [0x3DD]⟩, ⟨"gap", false, [0x2A86]⟩,
    ⟨"gbreve", false, [0x11F]⟩, ⟨"gcirc", false, [0x11D]⟩, ⟨"gcy", false, [0x433]⟩,
    ⟨"gdot", false, [0x121]⟩, ⟨"ge", false, [0x2265]⟩, ⟨"gel", false, [0x22DB]⟩,
    ⟨"geq", false, [0x2265]⟩, ⟨"geqq", false, [0x2267]⟩, ⟨"geqslant", false, [0x2A7E]⟩,
    ⟨"ges", false, [0x2A7E]⟩, ⟨"gescc", false, [0x2AA9]⟩, ⟨"gesdot", false, [0x2A80]⟩,
    ⟨"gesdoto", false, [0x2A82]⟩, ⟨"gesdotol", false, [0x2A84]⟩,
    ⟨"gesl", false, [0x22DB, 0xFE00]⟩, ⟨"gesles", false, [0x2A94]⟩, ⟨"gfr", false, [0x1D524]⟩,
    ⟨"gg", false, [0x226B]⟩, ⟨"ggg", false, [0x22D9]⟩, ⟨"gimel", false, [0x2137]⟩,
    ⟨"gjcy", false, [0x453]⟩, ⟨"gl", false, [0x2277]⟩, ⟨"glE", false, [0x2A92]⟩,
    ⟨"gla", false, [0x2AA5]⟩, ⟨"glj", false, [0x2AA4]⟩, ⟨"gnE", false, [0x2269]⟩,
    ⟨"gnap", false, [0x2A8A]⟩, ⟨"gnapprox", false, [0x2A8A]⟩, ⟨"gne", false, [0x2A88]⟩,
    ⟨"gneq", false, [0x2A88]⟩, ⟨"gneqq", false, [0x2269]⟩, ⟨"gnsim", false, [0x22E7]⟩,
    ⟨"gopf", false, [0x1D558]⟩, ⟨"grave", false, [0x60]⟩, ⟨"gscr", false, [0x210A]⟩,
    ⟨"gsim", false, [0x2273]⟩, ⟨"gsime", false, [0x2A8E]⟩, ⟨"gsiml", false, [0x2A90]⟩,
    ⟨"gt", true, [0x3E]⟩, ⟨"gtcc", false, [0x2AA7]⟩, ⟨"gtcir", false, [0x2A7A]⟩,
    ⟨"gtdot", false, [0x22D7]⟩, ⟨"gtlPar", false, [0x2995]⟩, ⟨"gtquest", false, [0x2A7C]⟩,
    ⟨"gtrapprox", false, [0x2A86]⟩, ⟨"gtrarr", false, [0x2978]⟩, ⟨"gtrdot", false, [0x22D7]⟩,
    ⟨"gtreqless", false, [0x22DB]⟩, ⟨"gtreqqless", false, [0x2A8C]⟩, ⟨"gtrless", false, [0x2277]⟩,
    ⟨"gtrsim", false, [0x2273]⟩, ⟨"gvertneqq", false, [0x2269, 0xFE00]⟩,
    ⟨"gvnE", false, [0x2269, 0xFE00]⟩]
  | 'h' => [
    ⟨"hArr", false, [0x21D4]⟩, ⟨"hairsp", false, [0x200A]⟩, ⟨"half", false, [0xBD]⟩,
    ⟨"hamilt", false, [0x210B]⟩, ⟨"hardcy", false, [0x44A]⟩, ⟨"harr", false, [0x2194]⟩,
    ⟨"harrcir", false, [0x2948]⟩, ⟨"harrw", false, [0x21AD]⟩, ⟨"hbar", false, [0x210F]⟩,
    ⟨"hcirc", false, [0x125]⟩, ⟨"hearts", false, [0x2665]⟩, ⟨"heartsuit", false, [0x2665]⟩,
    ⟨"hellip", false, [0x2026]⟩, ⟨"hercon", false, [0x22B9]⟩, ⟨"hfr", false, [0x1D525]⟩,
    ⟨"hksearow", false, [0x2925]⟩, ⟨"hkswarow", false, [0x2926]⟩, ⟨"hoarr", false, [0x21FF]⟩,
    ⟨"homtht", false, [0x223B]⟩, ⟨"hookleftarrow", false, [0x21A9]⟩,
    ⟨"hookrightarrow", false, [0x21AA]⟩, ⟨"hopf", false, [0x1D559]⟩, ⟨"horbar", false, [0x2015]⟩,
    ⟨"hscr", false, [0x1D4BD]⟩, ⟨"hslash", false, [0x210F]⟩, ⟨"hstrok", false, [0x127]⟩,
    ⟨"hybull", false, [0x2043]⟩, ⟨"hyphen", false, [0x2010]⟩]
  | 'i' => [
    ⟨"iacute", true, [0xED]⟩, ⟨"ic", false, [0x2063]⟩, ⟨"icirc", true, [0xEE]⟩,
    ⟨"icy", false, [0x438]⟩, ⟨"iecy", false, [0x435]⟩, ⟨"iexcl", true, [0xA1]⟩,
    ⟨"iff", false, [0x21D4]⟩, ⟨"ifr", false, [0x1D526]⟩, ⟨"igrave", true, [0xEC]⟩,
    ⟨"ii", false, [0x2148]⟩, ⟨"iiiint", false, [0x2A0C]⟩, ⟨"iiint", false, [0x222D]⟩,
    ⟨"iinfin", false, [0x29DC]⟩, ⟨"iiota", false, [0x2129]⟩, ⟨"ijlig", false, [0x133]⟩,
    ⟨"imacr", false, [0x12B]⟩, ⟨"image", false, [0x2111]⟩, ⟨"imagline", false, [0x2110]⟩,
    ⟨"imagpart", false, [0x2111]⟩, ⟨"imath", false, [0x131]⟩, ⟨"imof", false, [0x22B7]⟩,
    ⟨"imped", false, [0x1B5]⟩, ⟨"in", false, [0x2208]⟩, ⟨"incare", false, [0x2105]⟩,
    ⟨"infin", false, [0x221E]⟩, ⟨"infintie", false, [0x29DD]⟩, ⟨"inodot", false, [0x131]⟩,
    ⟨"int", false, [0x222B]⟩, ⟨"intcal", false, [0x22BA]⟩, ⟨"integers", false, [0x2124]⟩,
    ⟨"intercal", false, [0x22BA]⟩, ⟨"intlarhk", false, [0x2A17]⟩, ⟨"intprod", false, [0x2A3C]⟩,
    ⟨"iocy", false, [0x451]⟩, ⟨"iogon", false, [0x12F]⟩, ⟨"iopf", false, [0x1D55A]⟩,
    ⟨"iota", false, [0x3B9]⟩, ⟨"iprod", false, [0x2A3C]⟩, ⟨"iquest", true, [0xBF]⟩,
    ⟨"iscr", false, [0x1D4BE]⟩, ⟨"isin", false, [0x2208]⟩, ⟨"isinE", false, [0x22F9]⟩,
    ⟨"isindot", false, [0x22F5]⟩, ⟨"isins", false, [0x22F4]⟩, ⟨"isinsv", false, [0x22F3]⟩,
    ⟨"isinv", false, [0x2208]⟩, ⟨"it", false, [0x2062]⟩, ⟨"itilde", false, [0x129]⟩,
    ⟨"iukcy", false, [0x456]⟩, ⟨"iuml", true, [0xEF]⟩]
  | 'j' => [
    ⟨"jcirc", false, [0x135]⟩, ⟨"jcy", false, [0x439]⟩, ⟨"jfr", false, [0x1D527]⟩,
    ⟨"jmath", false, [0x237]⟩, ⟨"jopf", false, [0x1D55B]⟩, ⟨"jscr", false, [0x1D4BF]⟩,
    ⟨"jsercy", false, [0x458]⟩, ⟨"jukcy", false, [0x454]⟩]
  | 'k' => [
    ⟨"kappa", false, [0x3BA]⟩, ⟨"kappav", false, [0x3F0]⟩, ⟨"kcedil", false, [0x137]⟩,
    ⟨"kcy", false, [0x43A]⟩, ⟨"kfr", false, [0x1D528]⟩, ⟨"kgreen", false, [0x138]⟩,
    ⟨"khcy", false, [0x445]⟩, ⟨"kjcy", false, [0x45C]⟩, ⟨"kopf", false, [0x1D55C]⟩,
    ⟨"kscr", false, [0x1D4C0]⟩]
  | 'l' => [
    ⟨"lAarr", false, [0x21DA]⟩, ⟨"lArr", false, [0x21D0]⟩, ⟨"lAtail", false, [0x291B]⟩,
    ⟨"lBarr", false, [0x290E]⟩, ⟨"lE", false, [0x2266]⟩, ⟨"lEg", false, [0x2A8B]⟩,
    ⟨"lHar", false, [0x2962]⟩, ⟨"lacute", false, [0x13A]⟩, ⟨"laemptyv", false, [0x29B4]⟩,
    ⟨"lagran", false, [0x2112]⟩, ⟨"lambda", false, [0x3BB]⟩, ⟨"lang", false, [0x27E8]⟩,
    ⟨"langd", false, [0x2991]⟩, ⟨"langle", false, [0x27E8]⟩, ⟨"lap", false, [0x2A85]⟩,
    ⟨"laquo", true, [0xAB]⟩, ⟨"larr", false, [0x2190]⟩, ⟨"larrb", false, [0x21E4]⟩,
    ⟨"larrbfs", false, [0x291F]⟩, ⟨"larrfs", false, [0x291D]⟩, ⟨"larrhk", false, [0x21A9]⟩,
    ⟨"larrlp", false, [0x21AB]⟩, ⟨"larrpl", false, [0x2939]⟩, ⟨"larrsim", false, [0x2973]⟩,
    ⟨"larrtl", false, [0x21A2]⟩, ⟨"lat", false, [0x2AAB]⟩, ⟨"latail", false, [0x2919]⟩,
    ⟨"late", false, [0x2AAD]⟩, ⟨"lates", false, [0x2AAD, 0xFE00]⟩, ⟨"lbarr", false, [0x290C]⟩,
    ⟨"lbbrk", false, [0x2772]⟩, ⟨"lbrace", false, [0x7B]⟩, ⟨"lbrack", false, [0x5B]⟩,
    ⟨"lbrke", false, [0x298B]⟩, ⟨"lbrksld", false, [0x298F]⟩, ⟨"lbrkslu", false, [0x298D]⟩,
    ⟨"lcaron", false, [0x13E]⟩, ⟨"lcedil", false, [0x13C]⟩, ⟨"lceil", false, [0x2308]⟩,
    ⟨"lcub", false, [0x7B]⟩, ⟨"lcy", false, [0x43B]⟩, ⟨"ldca", false, [0x2936]⟩,
    ⟨"ldquo", false, [0x201C]⟩, ⟨"ldquor", false, [0x201E]⟩, ⟨"ldrdhar", false, [0x2967]⟩,
    ⟨"ldrushar", false, [0x294B]⟩, ⟨"ldsh", false, [0x21B2]⟩, ⟨"le", false, [0x2264]⟩,
    ⟨"leftarrow", false, [0x2190]⟩, ⟨"leftarrowtail", false, [0x21A2]⟩,
    ⟨"leftharpoondown", false, [0x21BD]⟩, ⟨"leftharpoonup", false, [0x21BC]⟩,
    ⟨"leftleftarrows", false, [0x21C7]⟩, ⟨"leftrightarrow", false, [0x2194]⟩,
    ⟨"leftrightarrows", false, [0x21C6]⟩, ⟨"leftrightharpoons", false, [0x21CB]⟩,
    ⟨"leftrightsquigarrow", false, [0x21AD]⟩, ⟨"leftthreetimes", false, [0x22CB]⟩,
    ⟨"leg", false, [0x22DA]⟩, ⟨"leq", false, [0x2264]⟩, ⟨"leqq", false, [0x2266]⟩,
    ⟨"leqslant", false, [0x2A7D]⟩, ⟨"les", false, [0x2A7D]⟩, ⟨"lescc", false, [0x2AA8]⟩,
    ⟨"lesdot", false, [0x2A7F]⟩, ⟨"lesdoto", false, [0x2A81]⟩, ⟨"lesdotor", false, [0x2A83]⟩,
    ⟨"lesg", false, [0x22DA, 0xFE00]⟩, ⟨"lesges", false, [0x2A93]⟩,
    ⟨"lessapprox", false, [0x2A85]⟩, ⟨"lessdot", false, [0x22D6]⟩, ⟨"lesseqgtr", false, [0x22DA]⟩,
    ⟨"lesseqqgtr", false, [0x2A8B]⟩, ⟨"lessgtr", false, [0x2276]⟩, ⟨"lesssim", false, [0x2272]⟩,
    ⟨"lfisht", false, [0x297C]⟩, ⟨"lfloor", false, [0x230A]⟩, ⟨"lfr", false, [0x1D529]⟩,
    ⟨"lg", false, [0x2276]⟩, ⟨"lgE", false, [0x2A91]⟩, ⟨"lhard", false, [0x21BD]⟩,
    ⟨"lharu", false, [0x21BC]⟩, ⟨"lharul", false, [0x296A]⟩, ⟨"lhblk", false, [0x2584]⟩,
    ⟨"ljcy", false, [0x459]⟩, ⟨"ll", false, [0x226A]⟩, ⟨"llarr", false, [0x21C7]⟩,
    ⟨"llcorner", false, [0x231E]⟩, ⟨"llhard", false, [0x296B]⟩, ⟨"lltri", false, [0x25FA]⟩,
    ⟨"lmidot", false, [0x140]⟩, ⟨"lmoust", false, [0x23B0]⟩, ⟨"lmoustache", false, [0x23B0]⟩,
    ⟨"lnE", false, [0x2268]⟩, ⟨"lnap", false, [0x2A89]⟩, ⟨"lnapprox", false, [0x2A89]⟩,
    ⟨"lne", false, [0x2A87]⟩, ⟨"lneq", false, [0x2A87]⟩, ⟨"lneqq", false, [0x2268]⟩,
    ⟨"lnsim", false, [0x22E6]⟩, ⟨"loang", false, [0x27EC]⟩, ⟨"loarr", false, [0x21FD]⟩,
    ⟨"lobrk", false, [0x27E6]⟩, ⟨"longleftarrow", false, [0x27F5]⟩,
    ⟨"longleftrightarrow", false, [0x27F7]⟩, ⟨"longmapsto", false, [0x27FC]⟩,
    ⟨"longrightarrow", false, [0x27F6]⟩, ⟨"looparrowleft", false, [0x21AB]⟩,
    ⟨"looparrowright", false, [0x21AC]⟩, ⟨"lopar", false, [0x2985]⟩, ⟨"lopf", false, [0x1D55D]⟩,
    ⟨"loplus", false, [0x2A2D]⟩, ⟨"lotimes", false, [0x2A34]⟩, ⟨"lowast", false, [0x2217]⟩,
    ⟨"lowbar", false, [0x5F]⟩, ⟨"loz", false, [0x25CA]⟩, ⟨"lozenge", false, [0x25CA]⟩,
    ⟨"lozf", false, [0x29EB]⟩, ⟨"lpar", false, [0x28]⟩, ⟨"lparlt", false, [0x2993]⟩,
    ⟨"lrarr", false, [0x21C6]⟩, ⟨"lrcorner", false, [0x231F]⟩, ⟨"lrhar", false, [0x21CB]⟩,
    ⟨"lrhard", false, [0x296D]⟩, ⟨"lrm", false, [0x200E]⟩, ⟨"lrtri", false, [0x22BF]⟩,
    ⟨"lsaquo", false, [0x2039]⟩, ⟨"lscr", false, [0x1D4C1]⟩, ⟨"lsh", false, [0x21B0]⟩,
    ⟨"lsim", false, [0x2272]⟩, ⟨"lsime", false, [0x2A8D]⟩, ⟨"lsimg", false, [0x2A8F]⟩,
    ⟨"lsqb", false, [0x5B]⟩, ⟨"lsquo", false, [0x2018]⟩, ⟨"lsquor", false, [0x201A]⟩,
    ⟨"lstrok", false, [0x142]⟩, ⟨"lt", true, [0x3C]⟩, ⟨"ltcc", false, [0x2AA6]⟩,
    ⟨"ltcir", false, [0x2A79]⟩, ⟨"ltdot", false, [0x22D6]⟩, ⟨"lthree", false, [0x22CB]⟩,
    ⟨"ltimes", false, [0x22C9]⟩, ⟨"ltlarr", false, [0x2976]⟩, ⟨"ltquest", false, [0x2A7B]⟩,
    ⟨"ltrPar", false, [0x2996]⟩, ⟨"ltri", false, [0x25C3]⟩, ⟨"ltrie", false, [0x22B4]⟩,
    ⟨"ltrif", false, [0x25C2]⟩, ⟨"lurdshar", false, [0x294A]⟩, ⟨"luruhar", false, [0x2966]⟩,
    ⟨"lvertneqq", false, [0x2268, 0xFE00]⟩, ⟨"lvnE", false, [0x2268, 0xFE00]⟩]
  | 'm' => [
    ⟨"mDDot", false, [0x223A]⟩, ⟨"macr", true, [0xAF]⟩, ⟨"male", false, [0x2642]⟩,
    ⟨"malt", false, [0x2720]⟩, ⟨"maltese", false, [0x2720]⟩, ⟨"map", false, [0x21A6]⟩,
    ⟨"mapsto", false, [0x21A6]⟩, ⟨"mapstodown", false, [0x21A7]⟩, ⟨"mapstoleft", false, [0x21A4]⟩,
    ⟨"mapstoup", false, [0x21A5]⟩, ⟨"marker", false, [0x25AE]⟩, ⟨"mcomma", false, [0x2A29]⟩,
    ⟨"mcy", false, [0x43C]⟩, ⟨"mdash", false, [0x2014]⟩, ⟨"measuredangle", false, [0x2221]⟩,
    ⟨"mfr", false, [0x1D52A]⟩, ⟨"mho", false, [0x2127]⟩, ⟨"micro", true, [0xB5]⟩,
    ⟨"mid", false, [0x2223]⟩, ⟨"midast", false, [0x2A]⟩, ⟨"midcir", false, [0x2AF0]⟩,
    ⟨"middot", true, [0xB7]⟩, ⟨"minus", false, [0x2212]⟩, ⟨"minusb", false, [0x229F]⟩,
    ⟨"minusd", false, [0x2238]⟩, ⟨"minusdu", false, [0x2A2A]⟩, ⟨"mlcp", false, [0x2ADB]⟩,
    ⟨"mldr", false, [0x2026]⟩, ⟨"mnplus", false, [0x2213]⟩, ⟨"models", false, [0x22A7]⟩,
    ⟨"mopf", false, [0x1D55E]⟩, ⟨"mp", false, [0x2213]⟩, ⟨"mscr", false, [0x1D4C2]⟩,
    ⟨"mstpos", false, [0x223E]⟩, ⟨"mu", false, [0x3BC]⟩, ⟨"multimap", false, [0x22B8]⟩,
    ⟨"mumap", false, [0x22B8]⟩]
  | 'n' => [
    ⟨"nGg", false, [0x22D9, 0x338]⟩, ⟨"nGt", false, [0x226B, 0x20D2]⟩,
    ⟨"nGtv", false, [0x226B, 0x338]⟩, ⟨"nLeftarrow", false, [0x21CD]⟩,
    ⟨"nLeftrightarrow", false, [0x21CE]⟩, ⟨"nLl", false, [0x22D8, 0x338]⟩,
    ⟨"nLt", false, [0x226A, 0x20D2]⟩, ⟨"nLtv", false, [0x226A, 0x338]⟩,
    ⟨"nRightarrow", false, [0x21CF]⟩, ⟨"nVDash", false, [0x22AF]⟩, ⟨"nVdash", false, [0x22AE]⟩,
    ⟨"nabla", false, [0x2207]⟩, ⟨"nacute", false, [0x144]⟩, ⟨"nang", false, [0x2220, 0x20D2]⟩,
    ⟨"nap", false, [0x2249]⟩, ⟨"napE", false, [0x2A70, 0x338]⟩, ⟨"napid", false, [0x224B, 0x338]⟩,
    ⟨"napos", false, [0x149]⟩, ⟨"napprox", false, [0x2249]⟩, ⟨"natur", false, [0x266E]⟩,
    ⟨"natural", false, [0x266E]⟩, ⟨"naturals", false, [0x2115]⟩, ⟨"nbsp", true, [0xA0]⟩,
    ⟨"nbump", false, [0x224E, 0x338]⟩, ⟨"nbumpe", false, [0x224F, 0x338]⟩,
    ⟨"ncap", false, [0x2A43]⟩, ⟨"ncaron", false, [0x148]⟩, ⟨"ncedil", false, [0x146]⟩,
    ⟨"ncong", false, [0x2247]⟩, ⟨"ncongdot", false, [0x2A6D, 0x338]⟩, ⟨"ncup", false, [0x2A42]⟩,
    ⟨"ncy", false, [0x43D]⟩, ⟨"ndash", false, [0x2013]⟩, ⟨"ne", false, [0x2260]⟩,
    ⟨"neArr", false, [0x21D7]⟩, ⟨"nearhk", false, [0x2924]⟩, ⟨"nearr", false, [0x2197]⟩,
    ⟨"nearrow", false, [0x2197]⟩, ⟨"nedot", false, [0x2250, 0x338]⟩, ⟨"nequiv", false, [0x2262]⟩,
    ⟨"nesear", false, [0x2928]⟩, ⟨"nesim", false, [0x2242, 0x338]⟩, ⟨"nexist", false, [0x2204]⟩,
    ⟨"nexists", false, [0x2204]⟩, ⟨"nfr", false, [0x1D52B]⟩, ⟨"ngE", false, [0x2267, 0x338]⟩,
    ⟨"nge", false, [0x2271]⟩, ⟨"ngeq", false, [0x2271]⟩, ⟨"ngeqq", false, [0x2267, 0x338]⟩,
    ⟨"ngeqslant", false, [0x2A7E, 0x338]⟩, ⟨"nges", false, [0x2A7E, 0x338]⟩,
    ⟨"ngsim", false, [0x2275]⟩, ⟨"ngt", false, [0x226F]⟩, ⟨"ngtr", false, [0x226F]⟩,
    ⟨"nhArr", false, [0x21CE]⟩, ⟨"nharr", false, [0x21AE]⟩, ⟨"nhpar", false, [0x2AF2]⟩,
    ⟨"ni", false, [0x220B]⟩, ⟨"nis", false, [0x22FC]⟩, ⟨"nisd", false, [0x22FA]⟩,
    ⟨"niv", false, [0x220B]⟩, ⟨"njcy", false, [0x45A]⟩, ⟨"nlArr", false, [0x21CD]⟩,
    ⟨"nlE", false, [0x2266, 0x338]⟩, ⟨"nlarr", false, [0x219A]⟩, ⟨"nldr", false, [0x2025]⟩,
    ⟨"nle", false, [0x2270]⟩, ⟨"nleftarrow", false, [0x219A]⟩,
    ⟨"nleftrightarrow", false, [0x21AE]⟩, ⟨"nleq", false, [0x2270]⟩,
    ⟨"nleqq", false, [0x2266, 0x338]⟩, ⟨"nleqslant", false, [0x2A7D, 0x338]⟩,
    ⟨"nles", false, [0x2A7D, 0x338]⟩, ⟨"nless", false, [0x226E]⟩, ⟨"nlsim", false, [0x2274]⟩,
    ⟨"nlt", false, [0x226E]⟩, ⟨"nltri", false, [0x22EA]⟩, ⟨"nltrie", false, [0x22EC]⟩,
    ⟨"nmid", false, [0x2224]⟩, ⟨"nopf", false, [0x1D55F]⟩, ⟨"not", true, [0xAC]⟩,
    ⟨"notin", false, [0x2209]⟩, ⟨"notinE", false, [0x22F9, 0x338]⟩,
    ⟨"notindot", false, [0x22F5, 0x338]⟩, ⟨"notinva", false, [0x2209]⟩,
    ⟨"notinvb", false, [0x22F7]⟩, ⟨"notinvc", false, [0x22F6]⟩, ⟨"notni", false, [0x220C]⟩,
    ⟨"notniva", false, [0x220C]⟩, ⟨"notnivb", false, [0x22FE]⟩, ⟨"notnivc", false, [0x22FD]⟩,
    ⟨"npar", false, [0x2226]⟩, ⟨"nparallel", false, [0x2226]⟩,
    ⟨"nparsl", false, [0x2AFD, 0x20E5]⟩, ⟨"npart", false, [0x2202, 0x338]⟩,
    ⟨"npolint", false, [0x2A14]⟩, ⟨"npr", false, [0x2280]⟩, ⟨"nprcue", false, [0x22E0]⟩,
    ⟨"npre", false, [0x2AAF, 0x338]⟩, ⟨"nprec", false, [0x2280]⟩,
    ⟨"npreceq", false, [0x2AAF, 0x338]⟩, ⟨"nrArr", false, [0x21CF]⟩, ⟨"nrarr", false, [0x219B]⟩,
    ⟨"nrarrc", false, [0x2933, 0x338]⟩, ⟨"nrarrw", false, [0x219D, 0x338]⟩,
    ⟨"nrightarrow", false, [0x219B]⟩, ⟨"nrtri", false, [0x22EB]⟩, ⟨"nrtrie", false, [0x22ED]⟩,
    ⟨"nsc", false, [0x2281]⟩, ⟨"nsccue", false, [0x22E1]⟩, ⟨"nsce", false, [0x2AB0, 0x338]⟩,
    ⟨"nscr", false, [0x1D4C3]⟩, ⟨"nshortmid", false, [0x2224]⟩,
    ⟨"nshortparallel", false, [0x2226]⟩, ⟨"nsim", false, [0x2241]⟩, ⟨"nsime", false, [0x2244]⟩,
    ⟨"nsimeq", false, [0x2244]⟩, ⟨"nsmid", false, [0x2224]⟩, ⟨"nspar", false, [0x2226]⟩,
    ⟨"nsqsube", false, [0x22E2]⟩, ⟨"nsqsupe", false, [0x22E3]⟩, ⟨"nsub", false, [0x2284]⟩,
    ⟨"nsubE", false, [0x2AC5, 0x338]⟩, ⟨"nsube", false, [0x2288]⟩,
    ⟨"nsubset", false, [0x2282, 0x20D2]⟩, ⟨"nsubseteq", false, [0x2288]⟩,
    ⟨"nsubseteqq", false, [0x2AC5, 0x338]⟩, ⟨"nsucc", false, [0x2281]⟩,
    ⟨"nsucceq", false, [0x2AB0, 0x338]⟩, ⟨"nsup", false, [0x2285]⟩,
    ⟨"nsupE", false, [0x2AC6, 0x338]⟩, ⟨"nsupe", false, [0x2289]⟩,
    ⟨"nsupset", false, [0x2283, 0x20D2]⟩, ⟨"nsupseteq", false, [0x2289]⟩,
    ⟨"nsupseteqq", false, [0x2AC6, 0x338]⟩, ⟨"ntgl", false, [0x2279]⟩, ⟨"ntilde", true, [0xF1]⟩,
    ⟨"ntlg", false, [0x2278]⟩, ⟨"ntriangleleft", false, [0x22EA]⟩,
    ⟨"ntrianglelefteq", false, [0x22EC]⟩, ⟨"ntriangleright", false, [0x22EB]⟩,
    ⟨"ntrianglerighteq", false, [0x22ED]⟩, ⟨"nu", false, [0x3BD]⟩, ⟨"num", false, [0x23]⟩,
    ⟨"numero", false, [0x2116]⟩, ⟨"numsp", false, [0x2007]⟩, ⟨"nvDash", false, [0x22AD]⟩,
    ⟨"nvHarr", false, [0x2904]⟩, ⟨"nvap", false, [0x224D, 0x20D2]⟩, ⟨"nvdash", false, [0x22AC]⟩,
    ⟨"nvge", false, [0x2265, 0x20D2]⟩, ⟨"nvgt", false, [0x3E, 0x20D2]⟩,
    ⟨"nvinfin", false, [0x29DE]⟩, ⟨"nvlArr", false, [0x2902]⟩, ⟨"nvle", false, [0x2264, 0x20D2]⟩,
    ⟨"nvlt", false, [0x3C, 0x20D2]⟩, ⟨"nvltrie", false, [0x22B4, 0x20D2]⟩,
    ⟨"nvrArr", false, [0x2903]⟩, ⟨"nvrtrie", false, [0x22B5, 0x20D2]⟩,
    ⟨"nvsim", false, [0x223C, 0x20D2]⟩, ⟨"nwArr", false, [0x21D6]⟩, ⟨"nwarhk", false, [0x2923]⟩,
    ⟨"nwarr", false, [0x2196]⟩, ⟨"nwarrow", false, [0x2196]⟩, ⟨"nwnear", false, [0x2927]⟩]
  | 'o' => [
    ⟨"oS", false, [0x24C8]⟩, ⟨"oacute", true, [0xF3]⟩, ⟨"oast", false, [0x229B]⟩,
    ⟨"ocir", false, [0x229A]⟩, ⟨"ocirc", true, [0xF4]⟩, ⟨"ocy", false, [0x43E]⟩,
    ⟨"odash", false, [0x229D]⟩, ⟨"odblac", false, [0x151]⟩, ⟨"odiv", false, [0x2A38]⟩,
    ⟨"odot", false, [0x2299]⟩, ⟨"odsold", false, [0x29BC]⟩, ⟨"oelig", false, [0x153]⟩,
    ⟨"ofcir", false, [0x29BF]⟩, ⟨"ofr", false, [0x1D52C]⟩, ⟨"ogon", false, [0x2DB]⟩,
    ⟨"ograve", true, [0xF2]⟩, ⟨"ogt", false, [0x29C1]⟩, ⟨"ohbar", false, [0x29B5]⟩,
    ⟨"ohm", false, [0x3A9]⟩, ⟨"oint", false, [0x222E]⟩, ⟨"olarr", false, [0x21BA]⟩,
    ⟨"olcir", false, [0x29BE]⟩, ⟨"olcross", false, [0x29BB]⟩, ⟨"oline", false, [0x203E]⟩,
    ⟨"olt", false, [0x29C0]⟩, ⟨"omacr", false, [0x14D]⟩, ⟨"omega", false, [0x3C9]⟩,
    ⟨"omicron", false, [0x3BF]⟩, ⟨"omid", false, [0x29B6]⟩, ⟨"ominus", false, [0x2296]⟩,
    ⟨"oopf", false, [0x1D560]⟩, ⟨"opar", false, [0x29B7]⟩, ⟨"operp", false, [0x29B9]⟩,
    ⟨"oplus", false, [0x2295]⟩, ⟨"or", false, [0x2228]⟩, ⟨"orarr", false, [0x21BB]⟩,
    ⟨"ord", false, [0x2A5D]⟩, ⟨"order", false, [0x2134]⟩, ⟨"orderof", false, [0x2134]⟩,
    ⟨"ordf", true, [0xAA]⟩, ⟨"ordm", true, [0xBA]⟩, ⟨"origof", false, [0x22B6]⟩,
    ⟨"oror", false, [0x2A56]⟩, ⟨"orslope", false, [0x2A57]⟩, ⟨"orv", false, [0x2A5B]⟩,
    ⟨"oscr", false, [0x2134]⟩, ⟨"oslash", true, [0xF8]⟩, ⟨"osol", false, [0x2298]⟩,
    ⟨"otilde", true, [0xF5]⟩, ⟨"otimes", false, [0x2297]⟩, ⟨"otimesas", false, [0x2A36]⟩,
    ⟨"ouml", true, [0xF6]⟩, ⟨"ovbar", false, [0x233D]⟩]
  | 'p' => [
    ⟨"par", false, [0x2225]⟩, ⟨"para", true, [0xB6]⟩, ⟨"parallel", false, [0x2225]⟩,
    ⟨"parsim", false, [0x2AF3]⟩, ⟨"parsl", false, [0x2AFD]⟩, ⟨"part", false, [0x2202]⟩,
    ⟨"pcy", false, [0x43F]⟩, ⟨"percnt", false, [0x25]⟩, ⟨"period", false, [0x2E]⟩,
    ⟨"permil", false, [0x2030]⟩, ⟨"perp", false, [0x22A5]⟩, ⟨"pertenk", false, [0x2031]⟩,
    ⟨"pfr", false, [0x1D52D]⟩, ⟨"phi", false, [0x3C6]⟩, ⟨"phiv", false, [0x3D5]⟩,
    ⟨"phmmat", false, [0x2133]⟩, ⟨"phone", false, [0x260E]⟩, ⟨"pi", false, [0x3C0]⟩,
    ⟨"pitchfork", false, [0x22D4]⟩, ⟨"piv", false, [0x3D6]⟩, ⟨"planck", false, [0x210F]⟩,
    ⟨"planckh", false, [0x210E]⟩, ⟨"plankv", false, [0x210F]⟩, ⟨"plus", false, [0x2B]⟩,
    ⟨"plusacir", false, [0x2A23]⟩, ⟨"plusb", false, [0x229E]⟩, ⟨"pluscir", false, [0x2A22]⟩,
    ⟨"plusdo", false, [0x2214]⟩, ⟨"plusdu", false, [0x2A25]⟩, ⟨"pluse", false, [0x2A72]⟩,
    ⟨"plusmn", true, [0xB1]⟩, ⟨"plussim", false, [0x2A26]⟩, ⟨"plustwo", false, [0x2A27]⟩,
    ⟨"pm", false, [0xB1]⟩, ⟨"pointint", false, [0x2A15]⟩, ⟨"popf", false, [0x1D561]⟩,
    ⟨"pound", true, [0xA3]⟩, ⟨"pr", false, [0x227A]⟩, ⟨"prE", false, [0x2AB3]⟩,
    ⟨"prap", false, [0x2AB7]⟩, ⟨"prcue", false, [0x227C]⟩, ⟨"pre", false, [0x2AAF]⟩,
    ⟨"prec", false, [0x227A]⟩, ⟨"precapprox", false, [0x2AB7]⟩, ⟨"preccurlyeq", false, [0x227C]⟩,
    ⟨"preceq", false, [0x2AAF]⟩, ⟨"precnapprox", false, [0x2AB9]⟩, ⟨"precneqq", false, [0x2AB5]⟩,
    ⟨"precnsim", false, [0x22E8]⟩, ⟨"precsim", false, [0x227E]⟩, ⟨"prime", false, [0x2032]⟩,
    ⟨"primes", false, [0x2119]⟩, ⟨"prnE", false, [0x2AB5]⟩, ⟨"prnap", false, [0x2AB9]⟩,
    ⟨"prnsim", false, [0x22E8]⟩, ⟨"prod", false, [0x220F]⟩, ⟨"profalar", false, [0x232E]⟩,
    ⟨"profline", false, [0x2312]⟩, ⟨"profsurf", false, [0x2313]⟩, ⟨"prop", false, [0x221D]⟩,
    ⟨"propto", false, [0x221D]⟩, ⟨"prsim", false, [0x227E]⟩, ⟨"prurel", false, [0x22B0]⟩,
    ⟨"pscr", false, [0x1D4C5]⟩, ⟨"psi", false, [0x3C8]⟩, ⟨"puncsp", false, [0x2008]⟩]
  | 'q' => [
    ⟨"qfr", false, [0x1D52E]⟩, ⟨"qint", false, [0x2A0C]⟩, ⟨"qopf", false, [0x1D562]⟩,
    ⟨"qprime", false, [0x2057]⟩, ⟨"qscr", false, [0x1D4C6]⟩, ⟨"quaternions", false, [0x210D]⟩,
    ⟨"quatint", false, [0x2A16]⟩, ⟨"quest", false, [0x3F]⟩, ⟨"questeq", false, [0x225F]⟩,
    ⟨"quot", true, [0x22]⟩]
  | 'r' => [
    ⟨"rAarr", false, [0x21DB]⟩, ⟨"rArr", false, [0x21D2]⟩, ⟨"rAtail", false, [0x291C]⟩,
    ⟨"rBarr", false, [0x290F]⟩, ⟨"rHar", false, [0x2964]⟩, ⟨"race", false, [0x223D, 0x331]⟩,
    ⟨"racute", false, [0x155]⟩, ⟨"radic", false, [0x221A]⟩, ⟨"raemptyv", false, [0x29B3]⟩,
    ⟨"rang", false, [0x27E9]⟩, ⟨"rangd", false, [0x2992]⟩, ⟨"range", false, [0x29A5]⟩,
    ⟨"rangle", false, [0x27E9]⟩, ⟨"raquo", true, [0xBB]⟩, ⟨"rarr", false, [0x2192]⟩,
    ⟨"rarrap", false, [0x2975]⟩, ⟨"rarrb", false, [0x21E5]⟩, ⟨"rarrbfs", false, [0x2920]⟩,
    ⟨"rarrc", false, [0x2933]⟩, ⟨"rarrfs", false, [0x291E]⟩, ⟨"rarrhk", false, [0x21AA]⟩,
    ⟨"rarrlp", false, [0x21AC]⟩, ⟨"rarrpl", false, [0x2945]⟩, ⟨"rarrsim", false, [0x2974]⟩,
    ⟨"rarrtl", false, [0x21A3]⟩, ⟨"rarrw", false, [0x219D]⟩, ⟨"ratail", false, [0x291A]⟩,
    ⟨"ratio", false, [0x2236]⟩, ⟨"rationals", false, [0x211A]⟩, ⟨"rbarr", false, [0x290D]⟩,
    ⟨"rbbrk", false, [0x2773]⟩, ⟨"rbrace", false, [0x7D]⟩, ⟨"rbrack", false, [0x5D]⟩,
    ⟨"rbrke", false, [0x298C]⟩, ⟨"rbrksld", false, [0x298E]⟩, ⟨"rbrkslu", false, [0x2990]⟩,
    ⟨"rcaron", false, [0x159]⟩, ⟨"rcedil", false, [0x157]⟩, ⟨"rceil", false, [0x2309]⟩,
    ⟨"rcub", false, [0x7D]⟩, ⟨"rcy", false, [0x440]⟩, ⟨"rdca", false, [0x2937]⟩,
    ⟨"rdldhar", false, [0x2969]⟩, ⟨"rdquo", false, [0x201D]⟩, ⟨"rdquor", false, [0x201D]⟩,
    ⟨"rdsh", false, [0x21B3]⟩, ⟨"real", false, [0x211C]⟩, ⟨"realine", false, [0x211B]⟩,
    ⟨"realpart", false, [0x211C]⟩, ⟨"reals", false, [0x211D]⟩, ⟨"rect", false, [0x25AD]⟩,
    ⟨"reg", true, [0xAE]⟩, ⟨"rfisht", false, [0x297D]⟩, ⟨"rfloor", false, [0x230B]⟩,
    ⟨"rfr", false, [0x1D52F]⟩, ⟨"rhard", false, [0x21C1]⟩, ⟨"rharu", false, [0x21C0]⟩,
    ⟨"rharul", false, [0x296C]⟩, ⟨"rho", false, [0x3C1]⟩, ⟨"rhov", false, [0x3F1]⟩,
    ⟨"rightarrow", false, [0x2192]⟩, ⟨"rightarrowtail", false, [0x21A3]⟩,
    ⟨"rightharpoondown", false, [0x21C1]⟩, ⟨"rightharpoonup", false, [0x21C0]⟩,
    ⟨"rightleftarrows", false, [0x21C4]⟩, ⟨"rightleftharpoons", false, [0x21CC]⟩,
    ⟨"rightrightarrows", false, [0x21C9]⟩, ⟨"rightsquigarrow", false, [0x219D]⟩,
    ⟨"rightthreetimes", false, [0x22CC]⟩, ⟨"ring", false, [0x2DA]⟩,
    ⟨"risingdotseq", false, [0x2253]⟩, ⟨"rlarr", false, [0x21C4]⟩, ⟨"rlhar", false, [0x21CC]⟩,
    ⟨"rlm", false, [0x200F]⟩, ⟨"rmoust", false, [0x23B1]⟩, ⟨"rmoustache", false, [0x23B1]⟩,
    ⟨"rnmid", false, [0x2AEE]⟩, ⟨"roang", false, [0x27ED]⟩, ⟨"roarr", false, [0x21FE]⟩,
    ⟨"robrk", false, [0x27E7]⟩, ⟨"ropar", false, [0x2986]⟩, ⟨"ropf", false, [0x1D563]⟩,
    ⟨"roplus", false, [0x2A2E]⟩, ⟨"rotimes", false, [0x2A35]⟩, ⟨"rpar", false, [0x29]⟩,
    ⟨"rpargt", false, [0x2994]⟩, ⟨"rppolint", false, [0x2A12]⟩, ⟨"rrarr", false, [0x21C9]⟩,
    ⟨"rsaquo", false, [0x203A]⟩, ⟨"rscr", false, [0x1D4C7]⟩, ⟨"rsh", false, [0x21B1]⟩,
    ⟨"rsqb", false, [0x5D]⟩, ⟨"rsquo", false, [0x2019]⟩, ⟨"rsquor", false, [0x2019]⟩,
    ⟨"rthree", false, [0x22CC]⟩, ⟨"rtimes", false, [0x22CA]⟩, ⟨"rtri", false, [0x25B9]⟩,
    ⟨"rtrie", false, [0x22B5]⟩, ⟨"rtrif", false, [0x25B8]⟩, ⟨"rtriltri", false, [0x29CE]⟩,
    ⟨"ruluhar", false, [0x2968]⟩, ⟨"rx", false, [0x211E]⟩]
  | 's' => [
    ⟨"sacute", false, [0x15B]⟩, ⟨"sbquo", false, [0x201A]⟩, ⟨"sc", false, [0x227B]⟩,
    ⟨"scE", false, [0x2AB4]⟩, ⟨"scap", false, [0x2AB8]⟩, ⟨"scaron", false, [0x161]⟩,
    ⟨"sccue", false, [0x227D]⟩, ⟨"sce", false, [0x2AB0]⟩, ⟨"scedil", false, [0x15F]⟩,
    ⟨"scirc", false, [0x15D]⟩, ⟨"scnE", false, [0x2AB6]⟩, ⟨"scnap", false, [0x2ABA]⟩,
    ⟨"scnsim", false, [0x22E9]⟩, ⟨"scpolint", false, [0x2A13]⟩, ⟨"scsim", false, [0x227F]⟩,
    ⟨"scy", false, [0x441]⟩, ⟨"sdot", false, [0x22C5]⟩, ⟨"sdotb", false, [0x22A1]⟩,
    ⟨"sdote", false, [0x2A66]⟩, ⟨"seArr", false, [0x21D8]⟩, ⟨"searhk", false, [0x2925]⟩,
    ⟨"searr", false, [0x2198]⟩, ⟨"searrow", false, [0x2198]⟩, ⟨"sect", true, [0xA7]⟩,
    ⟨"semi", false, [0x3B]⟩, ⟨"seswar", false, [0x2929]⟩, ⟨"setminus", false, [0x2216]⟩,
    ⟨"setmn", false, [0x2216]⟩, ⟨"sext", false, [0x2736]⟩, ⟨"sfr", false, [0x1D530]⟩,
    ⟨"sfrown", false, [0x2322]⟩, ⟨"sharp", false, [0x266F]⟩, ⟨"shchcy", false, [0x449]⟩,
    ⟨"shcy", false, [0x448]⟩, ⟨"shortmid", false, [0x2223]⟩, ⟨"shortparallel", false, [0x2225]⟩,
    ⟨"shy", true, [0xAD]⟩, ⟨"sigma", false, [0x3C3]⟩, ⟨"sigmaf", false, [0x3C2]⟩,
    ⟨"sigmav", false, [0x3C2]⟩, ⟨"sim", false, [0x223C]⟩, ⟨"simdot", false, [0x2A6A]⟩,
    ⟨"sime", false, [0x2243]⟩, ⟨"simeq", false, [0x2243]⟩, ⟨"simg", false, [0x2A9E]⟩,
    ⟨"simgE", false, [0x2AA0]⟩, ⟨"siml", false, [0x2A9D]⟩, ⟨"simlE", false, [0x2A9F]⟩,
    ⟨"simne", false, [0x2246]⟩, ⟨"simplus", false, [0x2A24]⟩, ⟨"simrarr", false, [0x2972]⟩,
    ⟨"slarr", false, [0x2190]⟩, ⟨"smallsetminus", false, [0x2216]⟩, ⟨"smashp", false, [0x2A33]⟩,
    ⟨"smeparsl", false, [0x29E4]⟩, ⟨"smid", false, [0x2223]⟩, ⟨"smile", false, [0x2323]⟩,
    ⟨"smt", false, [0x2AAA]⟩, ⟨"smte", false, [0x2AAC]⟩, ⟨"smtes", false, [0x2AAC, 0xFE00]⟩,
    ⟨"softcy", false, [0x44C]⟩, ⟨"sol", false, [0x2F]⟩, ⟨"solb", false, [0x29C4]⟩,
    ⟨"solbar", false, [0x233F]⟩, ⟨"sopf", false, [0x1D564]⟩, ⟨"spades", false, [0x2660]⟩,
    ⟨"spadesuit", false, [0x2660]⟩, ⟨"spar", false, [0x2225]⟩, ⟨"sqcap", false, [0x2293]⟩,
    ⟨"sqcaps", false, [0x2293, 0xFE00]⟩, ⟨"sqcup", false, [0x2294]⟩,
    ⟨"sqcups", false, [0x2294, 0xFE00]⟩, ⟨"sqsub", false, [0x228F]⟩, ⟨"sqsube", false, [0x2291]⟩,
    ⟨"sqsubset", false, [0x228F]⟩, ⟨"sqsubseteq", false, [0x2291]⟩, ⟨"sqsup", false, [0x2290]⟩,
    ⟨"sqsupe", false, [0x2292]⟩, ⟨"sqsupset", false, [0x2290]⟩, ⟨"sqsupseteq", false, [0x2292]⟩,
    ⟨"squ", false, [0x25A1]⟩, ⟨"square", false, [0x25A1]⟩, ⟨"squarf", false, [0x25AA]⟩,
    ⟨"squf", false, [0x25AA]⟩, ⟨"srarr", false, [0x2192]⟩, ⟨"sscr", false, [0x1D4C8]⟩,
    ⟨"ssetmn", false, [0x2216]⟩, ⟨"ssmile", false, [0x2323]⟩, ⟨"sstarf", false, [0x22C6]⟩,
    ⟨"star", false, [0x2606]⟩, ⟨"starf", false, [0x2605]⟩, ⟨"straightepsilon", false, [0x3F5]⟩,
    ⟨"straightphi", false, [0x3D5]⟩, ⟨"strns", false, [0xAF]⟩, ⟨"sub", false, [0x2282]⟩,
    ⟨"subE", false, [0x2AC5]⟩, ⟨"subdot", false, [0x2ABD]⟩, ⟨"sube", false, [0x2286]⟩,
    ⟨"subedot", false, [0x2AC3]⟩, ⟨"submult", false, [0x2AC1]⟩, ⟨"subnE", false, [0x2ACB]⟩,
    ⟨"subne", false, [0x228A]⟩, ⟨"subplus", false, [0x2ABF]⟩, ⟨"subrarr", false, [0x2979]⟩,
    ⟨"subset", false, [0x2282]⟩, ⟨"subseteq", false, [0x2286]⟩, ⟨"subseteqq", false, [0x2AC5]⟩,
    ⟨"subsetneq", false, [0x228A]⟩, ⟨"subsetneqq", false, [0x2ACB]⟩, ⟨"subsim", false, [0x2AC7]⟩,
    ⟨"subsub", false, [0x2AD5]⟩, ⟨"subsup", false, [0x2AD3]⟩, ⟨"succ", false, [0x227B]⟩,
    ⟨"succapprox", false, [0x2AB8]⟩, ⟨"succcurlyeq", false, [0x227D]⟩,
    ⟨"succeq", false, [0x2AB0]⟩, ⟨"succnapprox", false, [0x2ABA]⟩, ⟨"succneqq", false, [0x2AB6]⟩,
    ⟨"succnsim", false, [0x22E9]⟩, ⟨"succsim", false, [0x227F]⟩, ⟨"sum", false, [0x2211]⟩,
    ⟨"sung", false, [0x266A]⟩, ⟨"sup", false, [0x2283]⟩, ⟨"sup1", true, [0xB9]⟩,
    ⟨"sup2", true, [0xB2]⟩, ⟨"sup3", true, [0xB3]⟩, ⟨"supE", false, [0x2AC6]⟩,
    ⟨"supdot", false, [0x2ABE]⟩, ⟨"supdsub", false, [0x2AD8]⟩, ⟨"supe", false, [0x2287]⟩,
    ⟨"supedot", false, [0x2AC4]⟩, ⟨"suphsol", false, [0x27C9]⟩, ⟨"suphsub", false, [0x2AD7]⟩,
    ⟨"suplarr", false, [0x297B]⟩, ⟨"supmult", false, [0x2AC2]⟩, ⟨"supnE", false, [0x2ACC]⟩,
    ⟨"supne", false, [0x228B]⟩, ⟨"supplus", false, [0x2AC0]⟩, ⟨"supset", false, [0x2283]⟩,
    ⟨"supseteq", false, [0x2287]⟩, ⟨"supseteqq", false, [0x2AC6]⟩, ⟨"supsetneq", false, [0x228B]⟩,
    ⟨"supsetneqq", false, [0x2ACC]⟩, ⟨"supsim", false, [0x2AC8]⟩, ⟨"supsub", false, [0x2AD4]⟩,
    ⟨"supsup", false, [0x2AD6]⟩, ⟨"swArr", false, [0x21D9]⟩, ⟨"swarhk", false, [0x2926]⟩,
    ⟨"swarr", false, [0x2199]⟩, ⟨"swarrow", false, [0x2199]⟩, ⟨"swnwar", false, [0x292A]⟩,
    ⟨"szlig", true, [0xDF]⟩]
  | 't' => [
    ⟨"target", false, [0x2316]⟩, ⟨"tau", false, [0x3C4]⟩, ⟨"tbrk", false, [0x23B4]⟩,
    ⟨"tcaron", false, [0x165]⟩, ⟨"tcedil", false, [0x163]⟩, ⟨"tcy", false, [0x442]⟩,
    ⟨"tdot", false, [0x20DB]⟩, ⟨"telrec", false, [0x2315]⟩, ⟨"tfr", false, [0x1D531]⟩,
    ⟨"there4", false, [0x2234]⟩, ⟨"therefore", false, [0x2234]⟩, ⟨"theta", false, [0x3B8]⟩,
    ⟨"thetasym", false, [0x3D1]⟩, ⟨"thetav", false, [0x3D1]⟩, ⟨"thickapprox", false, [0x2248]⟩,
    ⟨"thicksim", false, [0x223C]⟩, ⟨"thinsp", false, [0x2009]⟩, ⟨"thkap", false, [0x2248]⟩,
    ⟨"thksim", false, [0x223C]⟩, ⟨"thorn", true, [0xFE]⟩, ⟨"tilde", false, [0x2DC]⟩,
    ⟨"times", true, [0xD7]⟩, ⟨"timesb", false, [0x22A0]⟩, ⟨"timesbar", false, [0x2A31]⟩,
    ⟨"timesd", false, [0x2A30]⟩, ⟨"tint", false, [0x222D]⟩, ⟨"toea", false, [0x2928]⟩,
    ⟨"top", false, [0x22A4]⟩, ⟨"topbot", false, [0x2336]⟩, ⟨"topcir", false, [0x2AF1]⟩,
    ⟨"topf", false, [0x1D565]⟩, ⟨"topfork", false, [0x2ADA]⟩, ⟨"tosa", false, [0x2929]⟩,
    ⟨"tprime", false, [0x2034]⟩, ⟨"trade", false, [0x2122]⟩, ⟨"triangle", false, [0x25B5]⟩,
    ⟨"triangledown", false, [0x25BF]⟩, ⟨"triangleleft", false, [0x25C3]⟩,
    ⟨"trianglelefteq", false, [0x22B4]⟩, ⟨"triangleq", false, [0x225C]⟩,
    ⟨"triangleright", false, [0x25B9]⟩, ⟨"trianglerighteq", false, [0x22B5]⟩,
    ⟨"tridot", false, [0x25EC]⟩, ⟨"trie", false, [0x225C]⟩, ⟨"triminus", false, [0x2A3A]⟩,
    ⟨"triplus", false, [0x2A39]⟩, ⟨"trisb", false, [0x29CD]⟩, ⟨"tritime", false, [0x2A3B]⟩,
    ⟨"trpezium", false, [0x23E2]⟩, ⟨"tscr", false, [0x1D4C9]⟩, ⟨"tscy", false, [0x446]⟩,
    ⟨"tshcy", false, [0x45B]⟩, ⟨"tstrok", false, [0x167]⟩, ⟨"twixt", false, [0x226C]⟩,
    ⟨"twoheadleftarrow", false, [0x219E]⟩, ⟨"twoheadrightarrow", false, [0x21A0]⟩]
  | 'u' => [
    ⟨"uArr", false, [0x21D1]⟩, ⟨"uHar", false, [0x2963]⟩, ⟨"uacute", true, [0xFA]⟩,
    ⟨"uarr", false, [0x2191]⟩, ⟨"ubrcy", false, [0x45E]⟩, ⟨"ubreve", false, [0x16D]⟩,
    ⟨"ucirc", true, [0xFB]⟩, ⟨"ucy", false, [0x443]⟩, ⟨"udarr", false, [0x21C5]⟩,
    ⟨"udblac", false, [0x171]⟩, ⟨"udhar", false, [0x296E]⟩, ⟨"ufisht", false, [0x297E]⟩,
    ⟨"ufr", false, [0x1D532]⟩, ⟨"ugrave", true, [0xF9]⟩, ⟨"uharl", false, [0x21BF]⟩,
    ⟨"uharr", false, [0x21BE]⟩, ⟨"uhblk", false, [0x2580]⟩, ⟨"ulcorn", false, [0x231C]⟩,
    ⟨"ulcorner", false, [0x231C]⟩, ⟨"ulcrop", false, [0x230F]⟩, ⟨"ultri", false, [0x25F8]⟩,
    ⟨"umacr", false, [0x16B]⟩, ⟨"uml", true, [0xA8]⟩, ⟨"uogon", false, [0x173]⟩,
    ⟨"uopf", false, [0x1D566]⟩, ⟨"uparrow", false, [0x2191]⟩, ⟨"updownarrow", false, [0x2195]⟩,
    ⟨"upharpoonleft", false, [0x21BF]⟩, ⟨"upharpoonright", false, [0x21BE]⟩,
    ⟨"uplus", false, [0x228E]⟩, ⟨"upsi", false, [0x3C5]⟩, ⟨"upsih", false, [0x3D2]⟩,
    ⟨"upsilon", false, [0x3C5]⟩, ⟨"upuparrows", false, [0x21C8]⟩, ⟨"urcorn", false, [0x231D]⟩,
    ⟨"urcorner", false, [0x231D]⟩, ⟨"urcrop", false, [0x230E]⟩, ⟨"uring", false, [0x16F]⟩,
    ⟨"urtri", false, [0x25F9]⟩, ⟨"uscr", false, [0x1D4CA]⟩, ⟨"utdot", false, [0x22F0]⟩,
    ⟨"utilde", false, [0x169]⟩, ⟨"utri", false, [0x25B5]⟩, ⟨"utrif", false, [0x25B4]⟩,
    ⟨"uuarr", false, [0x21C8]⟩, ⟨"uuml", true, [0xFC]⟩, ⟨"uwangle", false, [0x29A7]⟩]
  | 'v' => [
    ⟨"vArr", false, [0x21D5]⟩, ⟨"vBar", false, [0x2AE8]⟩, ⟨"vBarv", false, [0x2AE9]⟩,
    ⟨"vDash", false, [0x22A8]⟩, ⟨"vangrt", false, [0x299C]⟩, ⟨"varepsilon", false, [0x3F5]⟩,
    ⟨"varkappa", false, [0x3F0]⟩, ⟨"varnothing", false, [0x2205]⟩, ⟨"varphi", false, [0x3D5]⟩,
    ⟨"varpi", false, [0x3D6]⟩, ⟨"varpropto", false, [0x221D]⟩, ⟨"varr", false, [0x2195]⟩,
    ⟨"varrho", false, [0x3F1]⟩, ⟨"varsigma", false, [0x3C2]⟩,
    ⟨"varsubsetneq", false, [0x228A, 0xFE00]⟩, ⟨"varsubsetneqq", false, [0x2ACB, 0xFE00]⟩,
    ⟨"varsupsetneq", false, [0x228B, 0xFE00]⟩, ⟨"varsupsetneqq", false, [0x2ACC, 0xFE00]⟩,
    ⟨"vartheta", false, [0x3D1]⟩, ⟨"vartriangleleft", false, [0x22B2]⟩,
    ⟨"vartriangleright", false, [0x22B3]⟩, ⟨"vcy", false, [0x432]⟩, ⟨"vdash", false, [0x22A2]⟩,
    ⟨"vee", false, [0x2228]⟩, ⟨"veebar", false, [0x22BB]⟩, ⟨"veeeq", false, [0x225A]⟩,
    ⟨"vellip", false, [0x22EE]⟩, ⟨"verbar", false, [0x7C]⟩, ⟨"vert", false, [0x7C]⟩,
    ⟨"vfr", false, [0x1D533]⟩, ⟨"vltri", false, [0x22B2]⟩, ⟨"vnsub", false, [0x2282, 0x20D2]⟩,
    ⟨"vnsup", false, [0x2283, 0x20D2]⟩, ⟨"vopf", false, [0x1D567]⟩, ⟨"vprop", false, [0x221D]⟩,
    ⟨"vrtri", false, [0x22B3]⟩, ⟨"vscr", false, [0x1D4CB]⟩, ⟨"vsubnE", false, [0x2ACB, 0xFE00]⟩,
    ⟨"vsubne", false, [0x228A, 0xFE00]⟩, ⟨"vsupnE", false, [0x2ACC, 0xFE00]⟩,
    ⟨"vsupne", false, [0x228B, 0xFE00]⟩, ⟨"vzigzag", false, [0x299A]⟩]
  | 'w' => [
    ⟨"wcirc", false, [0x175]⟩, ⟨"wedbar", false, [0x2A5F]⟩, ⟨"wedge", false, [0x2227]⟩,
    ⟨"wedgeq", false, [0x2259]⟩, ⟨"weierp", false, [0x2118]⟩, ⟨"wfr", false, [0x1D534]⟩,
    ⟨"wopf", false, [0x1D568]⟩, ⟨"wp", false, [0x2118]⟩, ⟨"wr", false, [0x2240]⟩,
    ⟨"wreath", false, [0x2240]⟩, ⟨"wscr", false, [0x1D4CC]⟩]
  | 'x' => [
    ⟨"xcap", false, [0x22C2]⟩, ⟨"xcirc", false, [0x25EF]⟩, ⟨"xcup", false, [0x22C3]⟩,
    ⟨"xdtri", false, [0x25BD]⟩, ⟨"xfr", false, [0x1D535]⟩, ⟨"xhArr", false, [0x27FA]⟩,
    ⟨"xharr", false, [0x27F7]⟩, ⟨"xi", false, [0x3BE]⟩, ⟨"xlArr", false, [0x27F8]⟩,
    ⟨"xlarr", false, [0x27F5]⟩, ⟨"xmap", false, [0x27FC]⟩, ⟨"xnis", false, [0x22FB]⟩,
    ⟨"xodot", false, [0x2A00]⟩, ⟨"xopf", false, [0x1D569]⟩, ⟨"xoplus", false, [0x2A01]⟩,
    ⟨"xotime", false, [0x2A02]⟩, ⟨"xrArr", false, [0x27F9]⟩, ⟨"xrarr", false, [0x27F6]⟩,
    ⟨"xscr", false, [0x1D4CD]⟩, ⟨"xsqcup", false, [0x2A06]⟩, ⟨"xuplus", false, [0x2A04]⟩,
    ⟨"xutri", false, [0x25B3]⟩, ⟨"xvee", false, [0x22C1]⟩, ⟨"xwedge", false, [0x22C0]⟩]
  | 'y' => [
    ⟨"yacute", true, [0xFD]⟩, ⟨"yacy", false, [0x44F]⟩, ⟨"ycirc", false, [0x177]⟩,
    ⟨"ycy", false, [0x44B]⟩, ⟨"yen", true, [0xA5]⟩, ⟨"yfr", false, [0x1D536]⟩,
    ⟨"yicy", false, [0x457]⟩, ⟨"yopf", false, [0x1D56A]⟩, ⟨"yscr", false, [0x1D4CE]⟩,
    ⟨"yucy", false, [0x44E]⟩, ⟨"yuml", true, [0xFF]⟩]
  | 'z' => [
    ⟨"zacute", false, [0x17A]⟩, ⟨"zcaron", false, [0x17E]⟩, ⟨"zcy", false, [0x437]⟩,
    ⟨"zdot", false, [0x17C]⟩, ⟨"zeetrf", false, [0x2128]⟩, ⟨"zeta", false, [0x3B6]⟩,
    ⟨"zfr", false, [0x1D537]⟩, ⟨"zhcy", false, [0x436]⟩, ⟨"zigrarr", false, [0x21DD]⟩,
    ⟨"zopf", false, [0x1D56B]⟩, ⟨"zscr", false, [0x1D4CF]⟩, ⟨"zwj", false, [0x200D]⟩,
    ⟨"zwnj", false, [0x200C]⟩]
  | _ => []

def find? (name : Bytes) : Option Entity :=
  match name with
  | [] => none
  | c :: _ => (table (Char.ofNat c.toNat)).find? fun e => utf8 e.name == name

def codes? (name : Bytes) : Option (List Nat) := (find? name).map (·.codes)

def bareCodes? (name : Bytes) : Option (List Nat) :=
  match find? name with
  | some e => if e.bare then some e.codes else none
  | none => none

def longestBareName : Nat := 6

end Entity

end MarkdownTidy
