import LiveSelector.Text.Ranges

namespace LiveSelector.Text

/-!
Normal form C of texts by Unicode 17.  A letter with marks is one character where there is one for
it, and marks that do not meet stand in one order, whichever they were written in.  The tables hold
the characters that domain names hold; a range may run over others.
-/

/-- Marks by where they stand at their letter; marks of one class meet. -/
def combiningRanges : List (Nat × List (Nat × Nat)) := [
  (1, [(0x334, 0x338), (0x1CD4, 0x1CD4), (0x1CE2, 0x1CE8), (0x20D2, 0x20D3), (0x20D8, 0x20DA),
    (0x20E5, 0x20E6), (0x20EA, 0x20EB), (0x10A39, 0x10A39), (0x16AF0, 0x16AF4), (0x1BC9E, 0x1BC9E),
    (0x1D167, 0x1D169)]),
  (6, [(0x16FF0, 0x16FF1)]),
  (7, [(0x93C, 0x93C), (0x9BC, 0x9BC), (0xA3C, 0xA3C), (0xABC, 0xABC), (0xB3C, 0xB3C),
    (0xC3C, 0xC3C), (0xCBC, 0xCBC), (0x1037, 0x1037), (0x1B34, 0x1B34), (0x1BE6, 0x1BE6),
    (0x1C37, 0x1C37), (0xA9B3, 0xA9B3), (0x110BA, 0x110BA), (0x11173, 0x11173), (0x111CA, 0x111CA),
    (0x11236, 0x11236), (0x112E9, 0x112E9), (0x1133B, 0x1133C), (0x11446, 0x11446),
    (0x114C3, 0x114C3), (0x115C0, 0x115C0), (0x116B7, 0x116B7), (0x1183A, 0x1183A),
    (0x11943, 0x11943), (0x11D42, 0x11D42), (0x1E94A, 0x1E94A)]),
  (8, [(0x3099, 0x309A)]),
  (9, [(0x94D, 0x94D), (0x9CD, 0x9CD), (0xA4D, 0xA4D), (0xACD, 0xACD), (0xB4D, 0xB4D),
    (0xBCD, 0xBCD), (0xC4D, 0xC4D), (0xCCD, 0xCCD), (0xD3B, 0xD3C), (0xD4D, 0xD4D), (0xDCA, 0xDCA),
    (0xE3A, 0xE3A), (0xEBA, 0xEBA), (0xF84, 0xF84), (0x1039, 0x103A), (0x1714, 0x1715),
    (0x1734, 0x1734), (0x17D2, 0x17D2), (0x1A60, 0x1A60), (0x1B44, 0x1B44), (0x1BAA, 0x1BAB),
    (0x1BF2, 0x1BF3), (0x2D7F, 0x2D7F), (0xA806, 0xA806), (0xA82C, 0xA82C), (0xA8C4, 0xA8C4),
    (0xA953, 0xA953), (0xA9C0, 0xA9C0), (0xAAF6, 0xAAF6), (0xABED, 0xABED), (0x10A3F, 0x10A3F),
    (0x11046, 0x11046), (0x11070, 0x11070), (0x1107F, 0x1107F), (0x110B9, 0x110B9),
    (0x11133, 0x11134), (0x111C0, 0x111C0), (0x11235, 0x11235), (0x112EA, 0x112EA),
    (0x1134D, 0x1134D), (0x113CE, 0x113D0), (0x11442, 0x11442), (0x114C2, 0x114C2),
    (0x115BF, 0x115BF), (0x1163F, 0x1163F), (0x116B6, 0x116B6), (0x1172B, 0x1172B),
    (0x11839, 0x11839), (0x1193D, 0x1193E), (0x119E0, 0x119E0), (0x11A34, 0x11A34),
    (0x11A47, 0x11A47), (0x11A99, 0x11A99), (0x11C3F, 0x11C3F), (0x11D44, 0x11D45),
    (0x11D97, 0x11D97), (0x11F41, 0x11F42), (0x1612F, 0x1612F)]),
  (10, [(0x5B0, 0x5B0)]),
  (11, [(0x5B1, 0x5B1)]),
  (12, [(0x5B2, 0x5B2)]),
  (13, [(0x5B3, 0x5B3)]),
  (14, [(0x5B4, 0x5B4)]),
  (15, [(0x5B5, 0x5B5)]),
  (16, [(0x5B6, 0x5B6)]),
  (17, [(0x5B7, 0x5B7)]),
  (18, [(0x5B8, 0x5B8), (0x5C7, 0x5C7)]),
  (19, [(0x5B9, 0x5BA)]),
  (20, [(0x5BB, 0x5BB)]),
  (21, [(0x5BC, 0x5BC)]),
  (22, [(0x5BD, 0x5BD)]),
  (23, [(0x5BF, 0x5BF)]),
  (24, [(0x5C1, 0x5C1)]),
  (25, [(0x5C2, 0x5C2)]),
  (26, [(0xFB1E, 0xFB1E)]),
  (27, [(0x64B, 0x64B), (0x8F0, 0x8F0)]),
  (28, [(0x64C, 0x64C), (0x8F1, 0x8F1)]),
  (29, [(0x64D, 0x64D), (0x8F2, 0x8F2)]),
  (30, [(0x618, 0x618), (0x64E, 0x64E)]),
  (31, [(0x619, 0x619), (0x64F, 0x64F)]),
  (32, [(0x61A, 0x61A), (0x650, 0x650)]),
  (33, [(0x651, 0x651)]),
  (34, [(0x652, 0x652)]),
  (35, [(0x670, 0x670)]),
  (36, [(0x711, 0x711)]),
  (84, [(0xC55, 0xC55)]),
  (91, [(0xC56, 0xC56)]),
  (103, [(0xE38, 0xE39)]),
  (107, [(0xE48, 0xE4B)]),
  (118, [(0xEB8, 0xEB9)]),
  (122, [(0xEC8, 0xECB)]),
  (129, [(0xF71, 0xF71)]),
  (130, [(0xF72, 0xF72), (0xF7A, 0xF7D), (0xF80, 0xF80)]),
  (132, [(0xF74, 0xF74)]),
  (202, [(0x321, 0x322), (0x327, 0x328), (0x1DD0, 0x1DD0)]),
  (214, [(0x1DCE, 0x1DCE)]),
  (216, [(0x31B, 0x31B), (0xF39, 0xF39), (0x1D165, 0x1D166), (0x1D16E, 0x1D172)]),
  (218, [(0x1DFA, 0x1DFA), (0x302A, 0x302A)]),
  (220, [(0x316, 0x319), (0x31C, 0x320), (0x323, 0x326), (0x329, 0x333), (0x339, 0x33C),
    (0x347, 0x349), (0x34D, 0x34E), (0x353, 0x356), (0x359, 0x35A), (0x591, 0x591), (0x596, 0x596),
    (0x59B, 0x59B), (0x5A2, 0x5A7), (0x5AA, 0x5AA), (0x5C5, 0x5C5), (0x655, 0x656), (0x65C, 0x65C),
    (0x65F, 0x65F), (0x6E3, 0x6E3), (0x6EA, 0x6EA), (0x6ED, 0x6ED), (0x731, 0x731), (0x734, 0x734),
    (0x737, 0x739), (0x73B, 0x73C), (0x73E, 0x73E), (0x742, 0x742), (0x744, 0x744), (0x746, 0x746),
    (0x748, 0x748), (0x7F2, 0x7F2), (0x7FD, 0x7FD), (0x859, 0x85B), (0x899, 0x89B), (0x8CF, 0x8D3),
    (0x8E3, 0x8E3), (0x8E6, 0x8E6), (0x8E9, 0x8E9), (0x8ED, 0x8EF), (0x8F6, 0x8F6), (0x8F9, 0x8FA),
    (0x952, 0x952), (0xF18, 0xF19), (0xF35, 0xF35), (0xF37, 0xF37), (0xFC6, 0xFC6),
    (0x108D, 0x108D), (0x193B, 0x193B), (0x1A18, 0x1A18), (0x1A7F, 0x1A7F), (0x1AB5, 0x1ABA),
    (0x1ABD, 0x1ABD), (0x1ABF, 0x1AC0), (0x1AC3, 0x1AC4), (0x1ACA, 0x1ACA), (0x1ADD, 0x1ADD),
    (0x1AE6, 0x1AE6), (0x1B6C, 0x1B6C), (0x1CD5, 0x1CD9), (0x1CDC, 0x1CDF), (0x1CED, 0x1CED),
    (0x1DC2, 0x1DC2), (0x1DCA, 0x1DCA), (0x1DCF, 0x1DCF), (0x1DF9, 0x1DF9), (0x1DFD, 0x1DFD),
    (0x1DFF, 0x1DFF), (0x20E8, 0x20E8), (0x20EC, 0x20EF), (0xA92B, 0xA92D), (0xAAB4, 0xAAB4),
    (0xFE27, 0xFE2D), (0x101FD, 0x101FD), (0x102E0, 0x102E0), (0x10A0D, 0x10A0D),
    (0x10A3A, 0x10A3A), (0x10AE6, 0x10AE6), (0x10EFA, 0x10EFB), (0x10EFD, 0x10EFF),
    (0x10F46, 0x10F47), (0x10F4B, 0x10F4B), (0x10F4D, 0x10F50), (0x10F83, 0x10F83),
    (0x10F85, 0x10F85), (0x1D17B, 0x1D182), (0x1D18A, 0x1D18B), (0x1E4EE, 0x1E4EE),
    (0x1E5EF, 0x1E5EF), (0x1E8D0, 0x1E8D6)]),
  (222, [(0x59A, 0x59A), (0x5AD, 0x5AD), (0x1939, 0x1939), (0x302D, 0x302D)]),
  (224, [(0x302E, 0x302F)]),
  (226, [(0x1D16D, 0x1D16D)]),
  (228, [(0x5AE, 0x5AE), (0x18A9, 0x18A9), (0x1DF7, 0x1DF8), (0x302B, 0x302B)]),
  (230, [(0x300, 0x314), (0x33D, 0x346), (0x34A, 0x34C), (0x350, 0x352), (0x357, 0x357),
    (0x35B, 0x35B), (0x363, 0x36F), (0x483, 0x487), (0x592, 0x595), (0x597, 0x599), (0x59C, 0x5A1),
    (0x5A8, 0x5A9), (0x5AB, 0x5AC), (0x5AF, 0x5AF), (0x5C4, 0x5C4), (0x610, 0x617), (0x653, 0x654),
    (0x657, 0x65B), (0x65D, 0x65E), (0x6D6, 0x6DC), (0x6DF, 0x6E2), (0x6E4, 0x6E4), (0x6E7, 0x6E8),
    (0x6EB, 0x6EC), (0x730, 0x730), (0x732, 0x733), (0x735, 0x736), (0x73A, 0x73A), (0x73D, 0x73D),
    (0x73F, 0x741), (0x743, 0x743), (0x745, 0x745), (0x747, 0x747), (0x749, 0x74A), (0x7EB, 0x7F1),
    (0x7F3, 0x7F3), (0x816, 0x819), (0x81B, 0x823), (0x825, 0x827), (0x829, 0x82D), (0x897, 0x898),
    (0x89C, 0x89F), (0x8CA, 0x8CE), (0x8D4, 0x8E1), (0x8E4, 0x8E5), (0x8E7, 0x8E8), (0x8EA, 0x8EC),
    (0x8F3, 0x8F5), (0x8F7, 0x8F8), (0x8FB, 0x8FF), (0x951, 0x951), (0x953, 0x954), (0x9FE, 0x9FE),
    (0xF82, 0xF83), (0xF86, 0xF87), (0x135D, 0x135F), (0x17DD, 0x17DD), (0x193A, 0x193A),
    (0x1A17, 0x1A17), (0x1A75, 0x1A7C), (0x1AB0, 0x1AB4), (0x1ABB, 0x1ABC), (0x1AC1, 0x1AC2),
    (0x1AC5, 0x1AC9), (0x1ACB, 0x1ADC), (0x1AE0, 0x1AE5), (0x1AE7, 0x1AEA), (0x1B6B, 0x1B6B),
    (0x1B6D, 0x1B73), (0x1CD0, 0x1CD2), (0x1CDA, 0x1CDB), (0x1CE0, 0x1CE0), (0x1CF4, 0x1CF4),
    (0x1CF8, 0x1CF9), (0x1DC0, 0x1DC1), (0x1DC3, 0x1DC9), (0x1DCB, 0x1DCC), (0x1DD1, 0x1DF5),
    (0x1DFB, 0x1DFB), (0x1DFE, 0x1DFE), (0x20D0, 0x20D1), (0x20D4, 0x20D7), (0x20DB, 0x20DC),
    (0x20E1, 0x20E1), (0x20E7, 0x20E7), (0x20E9, 0x20E9), (0x20F0, 0x20F0), (0x2CEF, 0x2CF1),
    (0x2DE0, 0x2DFF), (0xA66F, 0xA66F), (0xA674, 0xA67D), (0xA69E, 0xA69F), (0xA6F0, 0xA6F1),
    (0xA8E0, 0xA8F1), (0xAAB0, 0xAAB0), (0xAAB2, 0xAAB3), (0xAAB7, 0xAAB8), (0xAABE, 0xAABF),
    (0xAAC1, 0xAAC1), (0xFE20, 0xFE26), (0xFE2E, 0xFE2F), (0x10376, 0x1037A), (0x10A0F, 0x10A0F),
    (0x10A38, 0x10A38), (0x10AE5, 0x10AE5), (0x10D24, 0x10D27), (0x10D69, 0x10D6D),
    (0x10EAB, 0x10EAC), (0x10F48, 0x10F4A), (0x10F4C, 0x10F4C), (0x10F82, 0x10F82),
    (0x10F84, 0x10F84), (0x11100, 0x11102), (0x11366, 0x11374), (0x1145E, 0x1145E),
    (0x16B30, 0x16B36), (0x1D185, 0x1D189), (0x1D1AA, 0x1D1AD), (0x1D242, 0x1D244),
    (0x1E000, 0x1E08F), (0x1E130, 0x1E136), (0x1E2AE, 0x1E2AE), (0x1E2EC, 0x1E2EF),
    (0x1E4EF, 0x1E4EF), (0x1E5EE, 0x1E5EE), (0x1E6E3, 0x1E6E3), (0x1E6E6, 0x1E6E6),
    (0x1E6EE, 0x1E6EF), (0x1E6F5, 0x1E6F5), (0x1E944, 0x1E949)]),
  (232, [(0x315, 0x315), (0x31A, 0x31A), (0x358, 0x358), (0x1DF6, 0x1DF6), (0x302C, 0x302C),
    (0x1E4EC, 0x1E4ED)]),
  (233, [(0x35C, 0x35C), (0x35F, 0x35F), (0x362, 0x362), (0x1DFC, 0x1DFC)]),
  (234, [(0x35D, 0x35E), (0x360, 0x361), (0x1AEB, 0x1AEB), (0x1DCD, 0x1DCD)])]

/-- The class of a mark; a character of class 0 is no mark or keeps its place. -/
def combiningClass (c : Char) : Nat :=
  if c.toNat < 0x300 then 0
  else
    match combiningRanges.find? fun (_, ranges) => inRanges ranges c with
    | some (number, _) => number
    | none => 0

/-- Marks, each with the letters that it joins and what it makes of them. -/
def joinedLetters : List (Char × List (Char × Char)) := [
  ('\u0300', [('a', 'à'), ('e', 'è'), ('i', 'ì'), ('o', 'ò'), ('u', 'ù'), ('ü', 'ǜ'), ('n', 'ǹ'),
    ('е', 'ѐ'), ('и', 'ѝ'), ('ē', 'ḕ'), ('ō', 'ṑ'), ('w', 'ẁ'), ('â', 'ầ'), ('ă', 'ằ'), ('ê', 'ề'),
    ('ô', 'ồ'), ('ơ', 'ờ'), ('ư', 'ừ'), ('y', 'ỳ'), ('ἀ', 'ἂ'), ('ἁ', 'ἃ'), ('ἐ', 'ἒ'), ('ἑ', 'ἓ'),
    ('ἠ', 'ἢ'), ('ἡ', 'ἣ'), ('ἰ', 'ἲ'), ('ἱ', 'ἳ'), ('ὀ', 'ὂ'), ('ὁ', 'ὃ'), ('ὐ', 'ὒ'), ('ὑ', 'ὓ'),
    ('ὠ', 'ὢ'), ('ὡ', 'ὣ'), ('α', 'ὰ'), ('ε', 'ὲ'), ('η', 'ὴ'), ('ι', 'ὶ'), ('ο', 'ὸ'), ('υ', 'ὺ'),
    ('ω', 'ὼ'), ('ϊ', 'ῒ'), ('ϋ', 'ῢ')]),
  ('\u0301', [('a', 'á'), ('e', 'é'), ('i', 'í'), ('o', 'ó'), ('u', 'ú'), ('y', 'ý'), ('c', 'ć'),
    ('l', 'ĺ'), ('n', 'ń'), ('r', 'ŕ'), ('s', 'ś'), ('z', 'ź'), ('ü', 'ǘ'), ('g', 'ǵ'), ('å', 'ǻ'),
    ('æ', 'ǽ'), ('ø', 'ǿ'), ('ϊ', 'ΐ'), ('α', 'ά'), ('ε', 'έ'), ('η', 'ή'), ('ι', 'ί'), ('ϋ', 'ΰ'),
    ('ο', 'ό'), ('υ', 'ύ'), ('ω', 'ώ'), ('г', 'ѓ'), ('к', 'ќ'), ('ç', 'ḉ'), ('ē', 'ḗ'), ('ï', 'ḯ'),
    ('k', 'ḱ'), ('m', 'ḿ'), ('õ', 'ṍ'), ('ō', 'ṓ'), ('p', 'ṕ'), ('ũ', 'ṹ'), ('w', 'ẃ'), ('â', 'ấ'),
    ('ă', 'ắ'), ('ê', 'ế'), ('ô', 'ố'), ('ơ', 'ớ'), ('ư', 'ứ'), ('ἀ', 'ἄ'), ('ἁ', 'ἅ'), ('ἐ', 'ἔ'),
    ('ἑ', 'ἕ'), ('ἠ', 'ἤ'), ('ἡ', 'ἥ'), ('ἰ', 'ἴ'), ('ἱ', 'ἵ'), ('ὀ', 'ὄ'), ('ὁ', 'ὅ'), ('ὐ', 'ὔ'),
    ('ὑ', 'ὕ'), ('ὠ', 'ὤ'), ('ὡ', 'ὥ')]),
  ('\u0302', [('a', 'â'), ('e', 'ê'), ('i', 'î'), ('o', 'ô'), ('u', 'û'), ('c', 'ĉ'), ('g', 'ĝ'),
    ('h', 'ĥ'), ('j', 'ĵ'), ('s', 'ŝ'), ('w', 'ŵ'), ('y', 'ŷ'), ('z', 'ẑ'), ('ạ', 'ậ'), ('ẹ', 'ệ'),
    ('ọ', 'ộ')]),
  ('\u0303', [('a', 'ã'), ('n', 'ñ'), ('o', 'õ'), ('i', 'ĩ'), ('u', 'ũ'), ('v', 'ṽ'), ('â', 'ẫ'),
    ('ă', 'ẵ'), ('e', 'ẽ'), ('ê', 'ễ'), ('ô', 'ỗ'), ('ơ', 'ỡ'), ('ư', 'ữ'), ('y', 'ỹ')]),
  ('\u0304', [('a', 'ā'), ('e', 'ē'), ('i', 'ī'), ('o', 'ō'), ('u', 'ū'), ('ü', 'ǖ'), ('ä', 'ǟ'),
    ('ȧ', 'ǡ'), ('æ', 'ǣ'), ('ǫ', 'ǭ'), ('ö', 'ȫ'), ('õ', 'ȭ'), ('ȯ', 'ȱ'), ('y', 'ȳ'), ('и', 'ӣ'),
    ('у', 'ӯ'), ('g', 'ḡ'), ('ḷ', 'ḹ'), ('ṛ', 'ṝ'), ('α', 'ᾱ'), ('ι', 'ῑ'), ('υ', 'ῡ')]),
  ('\u0306', [('a', 'ă'), ('e', 'ĕ'), ('g', 'ğ'), ('i', 'ĭ'), ('o', 'ŏ'), ('u', 'ŭ'), ('и', 'й'),
    ('у', 'ў'), ('ж', 'ӂ'), ('а', 'ӑ'), ('е', 'ӗ'), ('ȩ', 'ḝ'), ('ạ', 'ặ'), ('α', 'ᾰ'), ('ι', 'ῐ'),
    ('υ', 'ῠ')]),
  ('\u0307', [('c', 'ċ'), ('e', 'ė'), ('g', 'ġ'), ('z', 'ż'), ('a', 'ȧ'), ('o', 'ȯ'), ('b', 'ḃ'),
    ('d', 'ḋ'), ('f', 'ḟ'), ('h', 'ḣ'), ('m', 'ṁ'), ('n', 'ṅ'), ('p', 'ṗ'), ('r', 'ṙ'), ('s', 'ṡ'),
    ('ś', 'ṥ'), ('š', 'ṧ'), ('ṣ', 'ṩ'), ('t', 'ṫ'), ('w', 'ẇ'), ('x', 'ẋ'), ('y', 'ẏ'), ('𐗒', '𐗉'),
    ('𐗚', '𐗤')]),
  ('\u0308', [('a', 'ä'), ('e', 'ë'), ('i', 'ï'), ('o', 'ö'), ('u', 'ü'), ('y', 'ÿ'), ('ι', 'ϊ'),
    ('υ', 'ϋ'), ('е', 'ё'), ('і', 'ї'), ('а', 'ӓ'), ('ә', 'ӛ'), ('ж', 'ӝ'), ('з', 'ӟ'), ('и', 'ӥ'),
    ('о', 'ӧ'), ('ө', 'ӫ'), ('э', 'ӭ'), ('у', 'ӱ'), ('ч', 'ӵ'), ('ы', 'ӹ'), ('h', 'ḧ'), ('õ', 'ṏ'),
    ('ū', 'ṻ'), ('w', 'ẅ'), ('x', 'ẍ'), ('t', 'ẗ')]),
  ('\u0309', [('a', 'ả'), ('â', 'ẩ'), ('ă', 'ẳ'), ('e', 'ẻ'), ('ê', 'ể'), ('i', 'ỉ'), ('o', 'ỏ'),
    ('ô', 'ổ'), ('ơ', 'ở'), ('u', 'ủ'), ('ư', 'ử'), ('y', 'ỷ')]),
  ('\u030A', [('a', 'å'), ('u', 'ů'), ('w', 'ẘ'), ('y', 'ẙ')]),
  ('\u030B', [('o', 'ő'), ('u', 'ű'), ('у', 'ӳ')]),
  ('\u030C', [('c', 'č'), ('d', 'ď'), ('e', 'ě'), ('l', 'ľ'), ('n', 'ň'), ('r', 'ř'), ('s', 'š'),
    ('t', 'ť'), ('z', 'ž'), ('a', 'ǎ'), ('i', 'ǐ'), ('o', 'ǒ'), ('u', 'ǔ'), ('ü', 'ǚ'), ('g', 'ǧ'),
    ('k', 'ǩ'), ('ʒ', 'ǯ'), ('j', 'ǰ'), ('h', 'ȟ')]),
  ('\u030F', [('a', 'ȁ'), ('e', 'ȅ'), ('i', 'ȉ'), ('o', 'ȍ'), ('r', 'ȑ'), ('u', 'ȕ'), ('ѵ', 'ѷ')]),
  ('\u0311', [('a', 'ȃ'), ('e', 'ȇ'), ('i', 'ȋ'), ('o', 'ȏ'), ('r', 'ȓ'), ('u', 'ȗ')]),
  ('\u0313', [('α', 'ἀ'), ('ε', 'ἐ'), ('η', 'ἠ'), ('ι', 'ἰ'), ('ο', 'ὀ'), ('υ', 'ὐ'), ('ω', 'ὠ'),
    ('ρ', 'ῤ')]),
  ('\u0314', [('α', 'ἁ'), ('ε', 'ἑ'), ('η', 'ἡ'), ('ι', 'ἱ'), ('ο', 'ὁ'), ('υ', 'ὑ'), ('ω', 'ὡ'),
    ('ρ', 'ῥ')]),
  ('\u031B', [('o', 'ơ'), ('u', 'ư')]),
  ('\u0323', [('b', 'ḅ'), ('d', 'ḍ'), ('h', 'ḥ'), ('k', 'ḳ'), ('l', 'ḷ'), ('m', 'ṃ'), ('n', 'ṇ'),
    ('r', 'ṛ'), ('s', 'ṣ'), ('t', 'ṭ'), ('v', 'ṿ'), ('w', 'ẉ'), ('z', 'ẓ'), ('a', 'ạ'), ('e', 'ẹ'),
    ('i', 'ị'), ('o', 'ọ'), ('ơ', 'ợ'), ('u', 'ụ'), ('ư', 'ự'), ('y', 'ỵ')]),
  ('\u0324', [('u', 'ṳ')]),
  ('\u0325', [('a', 'ḁ')]),
  ('\u0326', [('s', 'ș'), ('t', 'ț')]),
  ('\u0327', [('c', 'ç'), ('g', 'ģ'), ('k', 'ķ'), ('l', 'ļ'), ('n', 'ņ'), ('r', 'ŗ'), ('s', 'ş'),
    ('t', 'ţ'), ('e', 'ȩ'), ('d', 'ḑ'), ('h', 'ḩ')]),
  ('\u0328', [('a', 'ą'), ('e', 'ę'), ('i', 'į'), ('u', 'ų'), ('o', 'ǫ')]),
  ('\u032D', [('d', 'ḓ'), ('e', 'ḙ'), ('l', 'ḽ'), ('n', 'ṋ'), ('t', 'ṱ'), ('u', 'ṷ')]),
  ('\u032E', [('h', 'ḫ')]),
  ('\u0330', [('e', 'ḛ'), ('i', 'ḭ'), ('u', 'ṵ')]),
  ('\u0331', [('b', 'ḇ'), ('d', 'ḏ'), ('k', 'ḵ'), ('l', 'ḻ'), ('n', 'ṉ'), ('r', 'ṟ'), ('t', 'ṯ'),
    ('z', 'ẕ'), ('h', 'ẖ')]),
  ('\u0338', [('←', '↚'), ('→', '↛'), ('↔', '↮'), ('⇐', '⇍'), ('⇔', '⇎'), ('⇒', '⇏'), ('∃', '∄'),
    ('∈', '∉'), ('∋', '∌'), ('∣', '∤'), ('∥', '∦'), ('∼', '≁'), ('≃', '≄'), ('≅', '≇'), ('≈', '≉'),
    ('=', '≠'), ('≡', '≢'), ('≍', '≭'), ('<', '≮'), ('>', '≯'), ('≤', '≰'), ('≥', '≱'), ('≲', '≴'),
    ('≳', '≵'), ('≶', '≸'), ('≷', '≹'), ('≺', '⊀'), ('≻', '⊁'), ('⊂', '⊄'), ('⊃', '⊅'), ('⊆', '⊈'),
    ('⊇', '⊉'), ('⊢', '⊬'), ('⊨', '⊭'), ('⊩', '⊮'), ('⊫', '⊯'), ('≼', '⋠'), ('≽', '⋡'), ('⊑', '⋢'),
    ('⊒', '⋣'), ('⊲', '⋪'), ('⊳', '⋫'), ('⊴', '⋬'), ('⊵', '⋭')]),
  ('\u0342', [('ἀ', 'ἆ'), ('ἁ', 'ἇ'), ('ἠ', 'ἦ'), ('ἡ', 'ἧ'), ('ἰ', 'ἶ'), ('ἱ', 'ἷ'), ('ὐ', 'ὖ'),
    ('ὑ', 'ὗ'), ('ὠ', 'ὦ'), ('ὡ', 'ὧ'), ('α', 'ᾶ'), ('η', 'ῆ'), ('ι', 'ῖ'), ('ϊ', 'ῗ'), ('υ', 'ῦ'),
    ('ϋ', 'ῧ'), ('ω', 'ῶ')]),
  ('\u0653', [('ا', 'آ')]),
  ('\u0654', [('ا', 'أ'), ('و', 'ؤ'), ('ي', 'ئ'), ('ە', 'ۀ'), ('ہ', 'ۂ'), ('ے', 'ۓ')]),
  ('\u0655', [('ا', 'إ')]),
  ('\u093C', [('न', 'ऩ'), ('र', 'ऱ'), ('ळ', 'ऴ')]),
  ('\u09BE', [('ে', 'ো')]),
  ('\u09D7', [('ে', 'ৌ')]),
  ('\u0B3E', [('େ', 'ୋ')]),
  ('\u0B56', [('େ', 'ୈ')]),
  ('\u0B57', [('େ', 'ୌ')]),
  ('\u0BBE', [('ெ', 'ொ'), ('ே', 'ோ')]),
  ('\u0BD7', [('ஒ', 'ஔ'), ('ெ', 'ௌ')]),
  ('\u0C56', [('ె', 'ై')]),
  ('\u0CC2', [('ೆ', 'ೊ')]),
  ('\u0CD5', [('ಿ', 'ೀ'), ('ೆ', 'ೇ'), ('ೊ', 'ೋ')]),
  ('\u0CD6', [('ೆ', 'ೈ')]),
  ('\u0D3E', [('െ', 'ൊ'), ('േ', 'ോ')]),
  ('\u0D57', [('െ', 'ൌ')]),
  ('\u0DCA', [('ෙ', 'ේ'), ('ො', 'ෝ')]),
  ('\u0DCF', [('ෙ', 'ො')]),
  ('\u0DDF', [('ෙ', 'ෞ')]),
  ('\u102E', [('ဥ', 'ဦ')]),
  ('\u1B35', [('ᬅ', 'ᬆ'), ('ᬇ', 'ᬈ'), ('ᬉ', 'ᬊ'), ('ᬋ', 'ᬌ'), ('ᬍ', 'ᬎ'), ('ᬑ', 'ᬒ'), ('ᬺ', 'ᬻ'),
    ('ᬼ', 'ᬽ'), ('ᬾ', 'ᭀ'), ('ᬿ', 'ᭁ'), ('ᭂ', 'ᭃ')]),
  ('\u3099', [('か', 'が'), ('き', 'ぎ'), ('く', 'ぐ'), ('け', 'げ'), ('こ', 'ご'), ('さ', 'ざ'), ('し', 'じ'),
    ('す', 'ず'), ('せ', 'ぜ'), ('そ', 'ぞ'), ('た', 'だ'), ('ち', 'ぢ'), ('つ', 'づ'), ('て', 'で'), ('と', 'ど'),
    ('は', 'ば'), ('ひ', 'び'), ('ふ', 'ぶ'), ('へ', 'べ'), ('ほ', 'ぼ'), ('う', 'ゔ'), ('ゝ', 'ゞ'), ('カ', 'ガ'),
    ('キ', 'ギ'), ('ク', 'グ'), ('ケ', 'ゲ'), ('コ', 'ゴ'), ('サ', 'ザ'), ('シ', 'ジ'), ('ス', 'ズ'), ('セ', 'ゼ'),
    ('ソ', 'ゾ'), ('タ', 'ダ'), ('チ', 'ヂ'), ('ツ', 'ヅ'), ('テ', 'デ'), ('ト', 'ド'), ('ハ', 'バ'), ('ヒ', 'ビ'),
    ('フ', 'ブ'), ('ヘ', 'ベ'), ('ホ', 'ボ'), ('ウ', 'ヴ'), ('ワ', 'ヷ'), ('ヰ', 'ヸ'), ('ヱ', 'ヹ'), ('ヲ', 'ヺ'),
    ('ヽ', 'ヾ')]),
  ('\u309A', [('は', 'ぱ'), ('ひ', 'ぴ'), ('ふ', 'ぷ'), ('へ', 'ぺ'), ('ほ', 'ぽ'), ('ハ', 'パ'), ('ヒ', 'ピ'),
    ('フ', 'プ'), ('ヘ', 'ペ'), ('ホ', 'ポ')]),
  ('𑂺', [('𑂙', '𑂚'), ('𑂛', '𑂜'), ('𑂥', '𑂫')]),
  ('𑄧', [('𑄱', '𑄮'), ('𑄲', '𑄯')]),
  ('𑌾', [('𑍇', '𑍋')]),
  ('𑍗', [('𑍇', '𑍌')]),
  ('𑎸', [('𑏂', '𑏇')]),
  ('𑎻', [('𑎄', '𑎅')]),
  ('𑏂', [('𑎋', '𑎎'), ('𑏂', '𑏅')]),
  ('𑏉', [('𑎂', '𑎃'), ('𑎐', '𑎑'), ('𑏂', '𑏈')]),
  ('𑒰', [('𑒹', '𑒼')]),
  ('𑒺', [('𑒹', '𑒻')]),
  ('𑒽', [('𑒹', '𑒾')]),
  ('𑖯', [('𑖸', '𑖺'), ('𑖹', '𑖻')]),
  ('𑤰', [('𑤵', '𑤸')]),
  ('𖄞', [('𖄞', '𖄡')]),
  ('𖄟', [('𖄞', '𖄣'), ('𖄩', '𖄤'), ('𖄡', '𖄦'), ('𖄢', '𖄧')]),
  ('𖄠', [('𖄞', '𖄥'), ('𖄡', '𖄨')]),
  ('𖄩', [('𖄞', '𖄢')]),
  ('𖵧', [('𖵧', '𖵨'), ('𖵣', '𖵩'), ('𖵩', '𖵪')])]

/-- Korean syllables have a leading consonant, a vowel and perhaps a trailing consonant. -/
def syllable? (first second : Char) : Option Char :=
  if 0x1100 ≤ first.toNat ∧ first.toNat < 0x1113 ∧
      0x1161 ≤ second.toNat ∧ second.toNat < 0x1176 then
    some (Char.ofNat (0xAC00 + ((first.toNat - 0x1100) * 21 + (second.toNat - 0x1161)) * 28))
  else if 0xAC00 ≤ first.toNat ∧ first.toNat < 0xD7A4 ∧ (first.toNat - 0xAC00) % 28 = 0 ∧
      0x11A7 < second.toNat ∧ second.toNat < 0x11C3 then
    some (Char.ofNat (first.toNat + (second.toNat - 0x11A7)))
  else none

/-- A syllable without its last part, and that part. -/
def syllableParts? (c : Char) : Option (Char × Char) :=
  if 0xAC00 ≤ c.toNat ∧ c.toNat < 0xD7A4 then
    let place := c.toNat - 0xAC00
    if place % 28 = 0 then
      some (Char.ofNat (0x1100 + place / 588), Char.ofNat (0x1161 + place % 588 / 28))
    else some (Char.ofNat (c.toNat - place % 28), Char.ofNat (0x11A7 + place % 28))
  else none

/-- The character that two characters make. -/
def joined? (first second : Char) : Option Char :=
  if second.toNat < 0x300 then none
  else
    match syllable? first second with
    | some c => some c
    | none =>
      match joinedLetters.lookup second with
      | some letters => letters.lookup first
      | none => none

/-- The two characters that a character is made of. -/
def parts? (c : Char) : Option (Char × Char) :=
  if c.toNat < 0xC0 then none
  else
    match syllableParts? c with
    | some halves => some halves
    | none =>
      joinedLetters.findSome? fun (mark, letters) =>
        (letters.find? (·.2 = c)).map fun (letter, _) => (letter, mark)

/-- A character taken apart; the first of two parts may have two parts itself. -/
def apart (c : Char) : List Char :=
  match parts? c with
  | none => [c]
  | some (first, second) =>
    match parts? first with
    | none => [first, second]
    | some (base, inner) => [base, inner, second]

/-- A character put in front of characters in order: a mark goes behind marks of smaller class. -/
def place (c : Char) : List Char → List Char
  | [] => [c]
  | d :: rest =>
    if 0 < combiningClass d ∧ combiningClass d < combiningClass c then d :: place c rest
    else c :: d :: rest

/-- Characters made one where they can be.  `passed` are the marks, nearest first, that have been
left behind the letter; a mark joins the letter if none of them meets it. -/
def compose (letter : Char) (passed : List Char) : List Char → List Char
  | [] => letter :: passed.reverse
  | c :: rest =>
    let cut :=
      match passed with
      | [] => false
      | last :: _ => combiningClass c ≤ combiningClass last
    match if cut then none else joined? letter c with
    | some made => compose made passed rest
    | none =>
      if combiningClass c = 0 then letter :: passed.reverse ++ compose c [] rest
      else compose letter (c :: passed) rest

def normalForm (text : List Char) : List Char :=
  match (text.flatMap apart).foldr place [] with
  | [] => []
  | first :: rest => compose first [] rest

theorem combiningClass_ascii {c : Char} (ascii : c.toNat < 0x80) : combiningClass c = 0 :=
  if_pos (by omega)

theorem compose_ascii {letter : Char} {text : List Char}
    (ascii : ∀ c ∈ text, c.toNat < 0x80) :
    compose letter [] text = letter :: text := by
  induction text generalizing letter with
  | nil => rfl
  | cons c rest ih =>
      obtain ⟨first, others⟩ := List.forall_mem_cons.mp ascii
      have alone : joined? letter c = none := if_pos (by omega)
      simp only [compose, alone, combiningClass_ascii first, ih others]
      rfl

/-- No character of ASCII joins another one or is taken apart. -/
theorem normalForm_ascii {text : List Char} (ascii : ∀ c ∈ text, c.toNat < 0x80) :
    normalForm text = text := by
  have whole : text.flatMap apart = text := by
    induction text with
    | nil => rfl
    | cons c rest ih =>
        obtain ⟨first, others⟩ := List.forall_mem_cons.mp ascii
        have single : parts? c = none := if_pos (by omega)
        rw [List.flatMap_cons, ih others, apart, single]
        rfl
  have ordered : text.foldr place [] = text := by
    clear whole
    induction text with
    | nil => rfl
    | cons c rest ih =>
        obtain ⟨-, others⟩ := List.forall_mem_cons.mp ascii
        rw [List.foldr_cons, ih others]
        cases rest with
        | nil => rfl
        | cons d more =>
            have class_zero := combiningClass_ascii (others d List.mem_cons_self)
            rw [place, class_zero]
            simp
  rw [normalForm, whole, ordered]
  cases text with
  | nil => rfl
  | cons c rest => exact compose_ascii (List.forall_mem_cons.mp ascii).2

end LiveSelector.Text
