import StubClass.Number.Numeral
import StubClass.Text.Case
import StubClass.Text.Identifier

set_option autoImplicit false
set_option maxRecDepth 8192

/-! # Categories of characters

What sort of character a character is by Unicode 14: a letter, a figure, a letter of upper, lower or
title case. Most follow from what may start an identifier and from the case mappings; what is
otherwise is listed. The case of a text is folded so that texts that differ in case alone become the
same. -/

namespace StubClass.Text

/-! ## The tables -/

/-- What may start an identifier and is no letter. -/
def startsOnly : Ranges := [
  (95, 95), (5870, 5872), (6277, 6278), (8472, 8472), (8494, 8494), (8544, 8578), (8581, 8584),
  (12295, 12295), (12321, 12329), (12344, 12346), (42726, 42735), (65856, 65908), (66369, 66369),
  (66378, 66378), (66513, 66517), (74752, 74862)]

/-- The letters that cannot start an identifier. -/
def lettersOnly : Ranges := [
  (890, 890), (3635, 3635), (3763, 3763), (11823, 11823), (64606, 64611), (65018, 65019), (65136,
  65136), (65138, 65138), (65140, 65140), (65142, 65142), (65144, 65144), (65146, 65146), (65148,
  65148), (65150, 65150), (65438, 65439)]

/-- The letters of title case. -/
def titleCased : Ranges := [
  (453, 453), (456, 456), (459, 459), (498, 498), (8072, 8079), (8088, 8095), (8104, 8111), (8124,
  8124), (8140, 8140), (8188, 8188)]

/-- The letters of upper case that have no lower case. -/
def upperOnly : Ranges := [
  (978, 980), (8450, 8450), (8455, 8455), (8459, 8461), (8464, 8466), (8469, 8469), (8473, 8477),
  (8484, 8484), (8488, 8488), (8492, 8493), (8496, 8497), (8499, 8499), (8510, 8511), (8517,
  8517), (119808, 119833), (119860, 119885), (119912, 119937), (119964, 119964), (119966, 119967),
  (119970, 119970), (119973, 119974), (119977, 119980), (119982, 119989), (120016, 120041),
  (120068, 120069), (120071, 120074), (120077, 120084), (120086, 120092), (120120, 120121),
  (120123, 120126), (120128, 120132), (120134, 120134), (120138, 120144), (120172, 120197),
  (120224, 120249), (120276, 120301), (120328, 120353), (120380, 120405), (120432, 120457),
  (120488, 120512), (120546, 120570), (120604, 120628), (120662, 120686), (120720, 120744),
  (120778, 120778), (127280, 127305), (127312, 127337), (127344, 127369)]

/-- The letters of lower case that have no upper case. -/
def lowerOnly : Ranges := [
  (170, 170), (186, 186), (312, 312), (397, 397), (411, 411), (426, 427), (442, 442), (446, 446),
  (545, 545), (564, 569), (597, 597), (600, 600), (602, 602), (605, 607), (610, 610), (612, 612),
  (615, 615), (621, 622), (624, 624), (627, 628), (630, 636), (638, 639), (641, 641), (644, 646),
  (653, 657), (659, 659), (661, 668), (671, 696), (704, 705), (736, 740), (890, 890), (1020,
  1020), (1376, 1376), (1416, 1416), (7424, 7544), (7546, 7548), (7550, 7565), (7567, 7615),
  (7836, 7837), (7839, 7839), (8305, 8305), (8319, 8319), (8336, 8348), (8458, 8458), (8462,
  8463), (8467, 8467), (8495, 8495), (8500, 8500), (8505, 8505), (8508, 8509), (8518, 8521),
  (11377, 11377), (11380, 11380), (11383, 11389), (11492, 11492), (42652, 42653), (42800, 42801),
  (42864, 42872), (42894, 42894), (42901, 42901), (42927, 42927), (42963, 42963), (42965, 42965),
  (43000, 43002), (43824, 43858), (43860, 43866), (43868, 43880), (67456, 67456), (67459, 67461),
  (67463, 67504), (67506, 67514), (119834, 119859), (119886, 119892), (119894, 119911), (119938,
  119963), (119990, 119993), (119995, 119995), (119997, 120003), (120005, 120015), (120042,
  120067), (120094, 120119), (120146, 120171), (120198, 120223), (120250, 120275), (120302,
  120327), (120354, 120379), (120406, 120431), (120458, 120485), (120514, 120538), (120540,
  120545), (120572, 120596), (120598, 120603), (120630, 120654), (120656, 120661), (120688,
  120712), (120714, 120719), (120746, 120770), (120772, 120777), (120779, 120779), (122624,
  122633), (122635, 122654)]

/-- The figures that are digits but not of a decimal system. -/
def otherDigits : Ranges := [
  (178, 179), (185, 185), (4969, 4977), (6618, 6618), (8304, 8304), (8308, 8313), (8320, 8329),
  (9312, 9320), (9332, 9340), (9352, 9360), (9450, 9450), (9461, 9469), (9471, 9471), (10102,
  10110), (10112, 10120), (10122, 10130), (68160, 68163), (69216, 69224), (69714, 69722), (127232,
  127242)]

/-- The figures that stand for numbers but are no digits. -/
def otherNumerals : Ranges := [
  (188, 190), (2548, 2553), (2930, 2935), (3056, 3058), (3192, 3198), (3416, 3422), (3440, 3448),
  (3882, 3891), (4978, 4988), (5870, 5872), (6128, 6137), (8528, 8578), (8581, 8585), (9321,
  9331), (9341, 9351), (9361, 9371), (9451, 9460), (9470, 9470), (10111, 10111), (10121, 10121),
  (10131, 10131), (11517, 11517), (12295, 12295), (12321, 12329), (12344, 12346), (12690, 12693),
  (12832, 12841), (12872, 12879), (12881, 12895), (12928, 12937), (12977, 12991), (13317, 13317),
  (13443, 13443), (14378, 14378), (15181, 15181), (19968, 19968), (19971, 19971), (19975, 19975),
  (19977, 19977), (20061, 20061), (20108, 20108), (20116, 20116), (20118, 20118), (20159, 20160),
  (20191, 20191), (20200, 20200), (20237, 20237), (20336, 20336), (20740, 20740), (20806, 20806),
  (20841, 20841), (20843, 20843), (20845, 20845), (21313, 21313), (21315, 21317), (21324, 21324),
  (21441, 21444), (22235, 22235), (22769, 22769), (22777, 22777), (24186, 24186), (24318, 24319),
  (24332, 24334), (24336, 24336), (25342, 25342), (25420, 25420), (26578, 26578), (28422, 28422),
  (29590, 29590), (30334, 30334), (32902, 32902), (33836, 33836), (36014, 36014), (36019, 36019),
  (36144, 36144), (38433, 38433), (38470, 38470), (38476, 38476), (38520, 38520), (38646, 38646),
  (42726, 42735), (43056, 43061), (63851, 63851), (63859, 63859), (63864, 63864), (63922, 63922),
  (63953, 63953), (63955, 63955), (63997, 63997), (65799, 65843), (65856, 65912), (65930, 65931),
  (66273, 66299), (66336, 66339), (66369, 66369), (66378, 66378), (66513, 66517), (67672, 67679),
  (67705, 67711), (67751, 67759), (67835, 67839), (67862, 67867), (68028, 68029), (68032, 68047),
  (68050, 68095), (68164, 68168), (68221, 68222), (68253, 68255), (68331, 68335), (68440, 68447),
  (68472, 68479), (68521, 68527), (68858, 68863), (69225, 69246), (69405, 69414), (69457, 69460),
  (69573, 69579), (69723, 69733), (70113, 70132), (71482, 71483), (71914, 71922), (72794, 72812),
  (73664, 73684), (74752, 74862), (93019, 93025), (93824, 93846), (119520, 119539), (119648,
  119672), (125127, 125135), (126065, 126123), (126125, 126127), (126129, 126132), (126209,
  126253), (126255, 126269), (127243, 127244), (131073, 131073), (131172, 131172), (131298,
  131298), (131361, 131361), (133418, 133418), (133507, 133507), (133516, 133516), (133532,
  133532), (133866, 133866), (133885, 133885), (133913, 133913), (140176, 140176), (141720,
  141720), (146203, 146203), (156269, 156269), (194704, 194704)]

/-! ## Sorts -/

/-- Whether a character is a letter. -/
def isLetter (c : Char) : Bool :=
  lettersOnly.contains c || (identifierStart.contains c && !startsOnly.contains c)

/-- Whether a character is a digit of a decimal system. -/
def isDecimal (c : Char) : Bool :=
  (Number.digit? c).isSome

/-- Whether a character is a digit. -/
def isDigit (c : Char) : Bool :=
  isDecimal c || otherDigits.contains c

/-- Whether a character stands for a number. -/
def isNumeral (c : Char) : Bool :=
  isDigit c || otherNumerals.contains c

/-- Whether a character is a letter of upper case. -/
def isUpper (c : Char) : Bool :=
  upperOnly.contains c || (lowerChars c != [c] && !titleCased.contains c)

/-- Whether a character is a letter of lower case. -/
def isLower (c : Char) : Bool :=
  lowerOnly.contains c || (upperChars c != [c] && !titleCased.contains c)

/-- Whether a character is a letter of upper, lower or title case. -/
def isCased (c : Char) : Bool :=
  isUpper c || isLower c || titleCased.contains c

/-- Whether a text has cased letters, and those of one case only. -/
def isOfCase (mine other : Char → Bool) (cs : List Char) : Bool :=
  cs.any mine && !cs.any fun c => other c || titleCased.contains c

/-- Whether every word starts with a letter of upper or title case and goes on in lower case;
`inside` says whether the character before was cased. -/
def isTitled : (inside found : Bool) → List Char → Bool
  | _, found, [] => found
  | inside, found, c :: cs =>
    if isUpper c || titleCased.contains c then !inside && isTitled true true cs
    else if isLower c then inside && isTitled true true cs
    else isTitled false found cs

/-! ## Words -/

/-- The characters after `before` with those that start a word in title case and the others in lower
case. -/
def titleAfter : (before rest : List Char) → List Char
  | _, [] => []
  | before, c :: rest =>
    (if (before.head?.map isCased).getD false then lowerBetween before c rest
      else titleChars c) ++ titleAfter (c :: before) rest

/-- The text with the first character of every word in title case and the rest in lower case. -/
def titleText (text : String) : String :=
  String.ofList (titleAfter [] text.toList)

/-! ## Folding -/

/-- A character with its case folded. -/
def foldChar (c : Char) : List Char :=
  let n := c.toNat
  if n == 0x131 || (0x13a0 ≤ n && n ≤ 0x13f5) then [c]
  else if 0x13f8 ≤ n && n ≤ 0x13fd then [Char.ofNat (n - 8)]
  else if 0xab70 ≤ n && n ≤ 0xabbf then [Char.ofNat (n - 0xab70 + 0x13a0)]
  else if n == 0x1e9e then ['s', 's']
  else (upperChars c).flatMap lowerChars

/-- A text with its case folded. -/
def foldedText (text : String) : String :=
  String.ofList (text.toList.flatMap foldChar)

end StubClass.Text
