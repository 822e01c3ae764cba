import LogPipeline.Unicode.Ranges

/-!
# Scripts

The script of every code point. Scripts are numbered; a name, long or short, in lower case and
without separators, leads to the number. Zero stands for a code point of no listed script.
-/

namespace LogPipeline.Unicode

set_option maxRecDepth 10000 in
/-- The number of each script, under each of its names. -/
def scriptNames : List (String × Nat) := [
  ("adlm", 1), ("adlam", 1), ("aghb", 2), ("caucasianalbanian", 2), ("ahom", 3), ("arab", 4),
  ("arabic", 4), ("armi", 5), ("imperialaramaic", 5), ("armn", 6), ("armenian", 6), ("avst", 7),
  ("avestan", 7), ("bali", 8), ("balinese", 8), ("bamu", 9), ("bamum", 9), ("bass", 10),
  ("bassavah", 10), ("batk", 11), ("batak", 11), ("beng", 12), ("bengali", 12), ("bhks", 13),
  ("bhaiksuki", 13), ("bopo", 14), ("bopomofo", 14), ("brah", 15), ("brahmi", 15), ("brai", 16),
  ("braille", 16), ("bugi", 17), ("buginese", 17), ("buhd", 18), ("buhid", 18), ("cakm", 19),
  ("chakma", 19), ("cans", 20), ("canadianaboriginal", 20), ("cari", 21), ("carian", 21),
  ("cham", 22), ("cher", 23), ("cherokee", 23), ("chrs", 24), ("chorasmian", 24), ("copt", 25),
  ("coptic", 25), ("qaac", 25), ("cpmn", 26), ("cyprominoan", 26), ("cprt", 27), ("cypriot", 27),
  ("cyrl", 28), ("cyrillic", 28), ("deva", 29), ("devanagari", 29), ("diak", 30),
  ("divesakuru", 30), ("dogr", 31), ("dogra", 31), ("dsrt", 32), ("deseret", 32), ("dupl", 33),
  ("duployan", 33), ("egyp", 34), ("egyptianhieroglyphs", 34), ("elba", 35), ("elbasan", 35),
  ("elym", 36), ("elymaic", 36), ("ethi", 37), ("ethiopic", 37), ("geor", 38), ("georgian", 38),
  ("glag", 39), ("glagolitic", 39), ("gong", 40), ("gunjalagondi", 40), ("gonm", 41),
  ("masaramgondi", 41), ("goth", 42), ("gothic", 42), ("gran", 43), ("grantha", 43), ("grek", 44),
  ("greek", 44), ("gujr", 45), ("gujarati", 45), ("guru", 46), ("gurmukhi", 46), ("hang", 47),
  ("hangul", 47), ("hani", 48), ("han", 48), ("hano", 49), ("hanunoo", 49), ("hatr", 50),
  ("hatran", 50), ("hebr", 51), ("hebrew", 51), ("hira", 52), ("hiragana", 52), ("hluw", 53),
  ("anatolianhieroglyphs", 53), ("hmng", 54), ("pahawhhmong", 54), ("hmnp", 55),
  ("nyiakengpuachuehmong", 55), ("hung", 56), ("oldhungarian", 56), ("ital", 57),
  ("olditalic", 57), ("java", 58), ("javanese", 58), ("kali", 59), ("kayahli", 59), ("kana", 60),
  ("katakana", 60), ("kawi", 61), ("khar", 62), ("kharoshthi", 62), ("khmr", 63), ("khmer", 63),
  ("khoj", 64), ("khojki", 64), ("kits", 65), ("khitansmallscript", 65), ("knda", 66),
  ("kannada", 66), ("kthi", 67), ("kaithi", 67), ("lana", 68), ("taitham", 68), ("laoo", 69),
  ("lao", 69), ("latn", 70), ("latin", 70), ("lepc", 71), ("lepcha", 71), ("limb", 72),
  ("limbu", 72), ("lina", 73), ("lineara", 73), ("linb", 74), ("linearb", 74), ("lisu", 75),
  ("lyci", 76), ("lycian", 76), ("lydi", 77), ("lydian", 77), ("mahj", 78), ("mahajani", 78),
  ("maka", 79), ("makasar", 79), ("mand", 80), ("mandaic", 80), ("mani", 81), ("manichaean", 81),
  ("marc", 82), ("marchen", 82), ("medf", 83), ("medefaidrin", 83), ("mend", 84),
  ("mendekikakui", 84), ("merc", 85), ("meroiticcursive", 85), ("mero", 86),
  ("meroitichieroglyphs", 86), ("mlym", 87), ("malayalam", 87), ("modi", 88), ("mong", 89),
  ("mongolian", 89), ("mroo", 90), ("mro", 90), ("mtei", 91), ("meeteimayek", 91), ("mult", 92),
  ("multani", 92), ("mymr", 93), ("myanmar", 93), ("nagm", 94), ("nagmundari", 94), ("nand", 95),
  ("nandinagari", 95), ("narb", 96), ("oldnortharabian", 96), ("nbat", 97), ("nabataean", 97),
  ("newa", 98), ("nkoo", 99), ("nko", 99), ("nshu", 100), ("nushu", 100), ("ogam", 101),
  ("ogham", 101), ("olck", 102), ("olchiki", 102), ("orkh", 103), ("oldturkic", 103),
  ("orya", 104), ("oriya", 104), ("osge", 105), ("osage", 105), ("osma", 106), ("osmanya", 106),
  ("ougr", 107), ("olduyghur", 107), ("palm", 108), ("palmyrene", 108), ("pauc", 109),
  ("paucinhau", 109), ("perm", 110), ("oldpermic", 110), ("phag", 111), ("phagspa", 111),
  ("phli", 112), ("inscriptionalpahlavi", 112), ("phlp", 113), ("psalterpahlavi", 113),
  ("phnx", 114), ("phoenician", 114), ("plrd", 115), ("miao", 115), ("prti", 116),
  ("inscriptionalparthian", 116), ("rjng", 117), ("rejang", 117), ("rohg", 118),
  ("hanifirohingya", 118), ("runr", 119), ("runic", 119), ("samr", 120), ("samaritan", 120),
  ("sarb", 121), ("oldsoutharabian", 121), ("saur", 122), ("saurashtra", 122), ("sgnw", 123),
  ("signwriting", 123), ("shaw", 124), ("shavian", 124), ("shrd", 125), ("sharada", 125),
  ("sidd", 126), ("siddham", 126), ("sind", 127), ("khudawadi", 127), ("sinh", 128),
  ("sinhala", 128), ("sogd", 129), ("sogdian", 129), ("sogo", 130), ("oldsogdian", 130),
  ("sora", 131), ("sorasompeng", 131), ("soyo", 132), ("soyombo", 132), ("sund", 133),
  ("sundanese", 133), ("sylo", 134), ("sylotinagri", 134), ("syrc", 135), ("syriac", 135),
  ("tagb", 136), ("tagbanwa", 136), ("takr", 137), ("takri", 137), ("tale", 138), ("taile", 138),
  ("talu", 139), ("newtailue", 139), ("taml", 140), ("tamil", 140), ("tang", 141),
  ("tangut", 141), ("tavt", 142), ("taiviet", 142), ("telu", 143), ("telugu", 143), ("tfng", 144),
  ("tifinagh", 144), ("tglg", 145), ("tagalog", 145), ("thaa", 146), ("thaana", 146),
  ("thai", 147), ("tibt", 148), ("tibetan", 148), ("tirh", 149), ("tirhuta", 149), ("tnsa", 150),
  ("tangsa", 150), ("toto", 151), ("ugar", 152), ("ugaritic", 152), ("vaii", 153), ("vai", 153),
  ("vith", 154), ("vithkuqi", 154), ("wara", 155), ("warangciti", 155), ("wcho", 156),
  ("wancho", 156), ("xpeo", 157), ("oldpersian", 157), ("xsux", 158), ("cuneiform", 158),
  ("yezi", 159), ("yezidi", 159), ("yiii", 160), ("yi", 160), ("zanb", 161),
  ("zanabazarsquare", 161), ("zinh", 162), ("inherited", 162), ("qaai", 162), ("zyyy", 163),
  ("common", 163), ("zzzz", 164), ("unknown", 164)]

set_option maxRecDepth 100000 in
/-- Where each run of one script begins, in order. -/
def scriptRuns : Array (Nat × Nat) := #[
  (0x0, 163), (0x41, 70), (0x5B, 163), (0x61, 70), (0x7B, 163), (0xAA, 70), (0xAB, 163),
  (0xBA, 70), (0xBB, 163), (0xC0, 70), (0xD7, 163), (0xD8, 70), (0xF7, 163), (0xF8, 70),
  (0x2B9, 163), (0x2E0, 70), (0x2E5, 163), (0x2EA, 14), (0x2EC, 163), (0x300, 162), (0x370, 44),
  (0x374, 163), (0x375, 44), (0x378, 164), (0x37A, 44), (0x37E, 163), (0x37F, 44), (0x380, 164),
  (0x384, 44), (0x385, 163), (0x386, 44), (0x387, 163), (0x388, 44), (0x38B, 164), (0x38C, 44),
  (0x38D, 164), (0x38E, 44), (0x3A2, 164), (0x3A3, 44), (0x3E2, 25), (0x3F0, 44), (0x400, 28),
  (0x485, 162), (0x487, 28), (0x530, 164), (0x531, 6), (0x557, 164), (0x559, 6), (0x58B, 164),
  (0x58D, 6), (0x590, 164), (0x591, 51), (0x5C8, 164), (0x5D0, 51), (0x5EB, 164), (0x5EF, 51),
  (0x5F5, 164), (0x600, 4), (0x605, 163), (0x606, 4), (0x60C, 163), (0x60D, 4), (0x61B, 163),
  (0x61C, 4), (0x61F, 163), (0x620, 4), (0x640, 163), (0x641, 4), (0x64B, 162), (0x656, 4),
  (0x670, 162), (0x671, 4), (0x6DD, 163), (0x6DE, 4), (0x700, 135), (0x70E, 164), (0x70F, 135),
  (0x74B, 164), (0x74D, 135), (0x750, 4), (0x780, 146), (0x7B2, 164), (0x7C0, 99), (0x7FB, 164),
  (0x7FD, 99), (0x800, 120), (0x82E, 164), (0x830, 120), (0x83F, 164), (0x840, 80), (0x85C, 164),
  (0x85E, 80), (0x85F, 164), (0x860, 135), (0x86B, 164), (0x870, 4), (0x892, 164), (0x897, 4),
  (0x8E2, 163), (0x8E3, 4), (0x900, 29), (0x951, 162), (0x955, 29), (0x964, 163), (0x966, 29),
  (0x980, 12), (0x984, 164), (0x985, 12), (0x98D, 164), (0x98F, 12), (0x991, 164), (0x993, 12),
  (0x9A9, 164), (0x9AA, 12), (0x9B1, 164), (0x9B2, 12), (0x9B3, 164), (0x9B6, 12), (0x9BA, 164),
  (0x9BC, 12), (0x9C5, 164), (0x9C7, 12), (0x9C9, 164), (0x9CB, 12), (0x9CF, 164), (0x9D7, 12),
  (0x9D8, 164), (0x9DC, 12), (0x9DE, 164), (0x9DF, 12), (0x9E4, 164), (0x9E6, 12), (0x9FF, 164),
  (0xA01, 46), (0xA04, 164), (0xA05, 46), (0xA0B, 164), (0xA0F, 46), (0xA11, 164), (0xA13, 46),
  (0xA29, 164), (0xA2A, 46), (0xA31, 164), (0xA32, 46), (0xA34, 164), (0xA35, 46), (0xA37, 164),
  (0xA38, 46), (0xA3A, 164), (0xA3C, 46), (0xA3D, 164), (0xA3E, 46), (0xA43, 164), (0xA47, 46),
  (0xA49, 164), (0xA4B, 46), (0xA4E, 164), (0xA51, 46), (0xA52, 164), (0xA59, 46), (0xA5D, 164),
  (0xA5E, 46), (0xA5F, 164), (0xA66, 46), (0xA77, 164), (0xA81, 45), (0xA84, 164), (0xA85, 45),
  (0xA8E, 164), (0xA8F, 45), (0xA92, 164), (0xA93, 45), (0xAA9, 164), (0xAAA, 45), (0xAB1, 164),
  (0xAB2, 45), (0xAB4, 164), (0xAB5, 45), (0xABA, 164), (0xABC, 45), (0xAC6, 164), (0xAC7, 45),
  (0xACA, 164), (0xACB, 45), (0xACE, 164), (0xAD0, 45), (0xAD1, 164), (0xAE0, 45), (0xAE4, 164),
  (0xAE6, 45), (0xAF2, 164), (0xAF9, 45), (0xB00, 164), (0xB01, 104), (0xB04, 164), (0xB05, 104),
  (0xB0D, 164), (0xB0F, 104), (0xB11, 164), (0xB13, 104), (0xB29, 164), (0xB2A, 104),
  (0xB31, 164), (0xB32, 104), (0xB34, 164), (0xB35, 104), (0xB3A, 164), (0xB3C, 104),
  (0xB45, 164), (0xB47, 104), (0xB49, 164), (0xB4B, 104), (0xB4E, 164), (0xB55, 104),
  (0xB58, 164), (0xB5C, 104), (0xB5E, 164), (0xB5F, 104), (0xB64, 164), (0xB66, 104),
  (0xB78, 164), (0xB82, 140), (0xB84, 164), (0xB85, 140), (0xB8B, 164), (0xB8E, 140),
  (0xB91, 164), (0xB92, 140), (0xB96, 164), (0xB99, 140), (0xB9B, 164), (0xB9C, 140),
  (0xB9D, 164), (0xB9E, 140), (0xBA0, 164), (0xBA3, 140), (0xBA5, 164), (0xBA8, 140),
  (0xBAB, 164), (0xBAE, 140), (0xBBA, 164), (0xBBE, 140), (0xBC3, 164), (0xBC6, 140),
  (0xBC9, 164), (0xBCA, 140), (0xBCE, 164), (0xBD0, 140), (0xBD1, 164), (0xBD7, 140),
  (0xBD8, 164), (0xBE6, 140), (0xBFB, 164), (0xC00, 143), (0xC0D, 164), (0xC0E, 143),
  (0xC11, 164), (0xC12, 143), (0xC29, 164), (0xC2A, 143), (0xC3A, 164), (0xC3C, 143),
  (0xC45, 164), (0xC46, 143), (0xC49, 164), (0xC4A, 143), (0xC4E, 164), (0xC55, 143),
  (0xC57, 164), (0xC58, 143), (0xC5B, 164), (0xC5C, 143), (0xC5E, 164), (0xC60, 143),
  (0xC64, 164), (0xC66, 143), (0xC70, 164), (0xC77, 143), (0xC80, 66), (0xC8D, 164), (0xC8E, 66),
  (0xC91, 164), (0xC92, 66), (0xCA9, 164), (0xCAA, 66), (0xCB4, 164), (0xCB5, 66), (0xCBA, 164),
  (0xCBC, 66), (0xCC5, 164), (0xCC6, 66), (0xCC9, 164), (0xCCA, 66), (0xCCE, 164), (0xCD5, 66),
  (0xCD7, 164), (0xCDC, 66), (0xCDF, 164), (0xCE0, 66), (0xCE4, 164), (0xCE6, 66), (0xCF0, 164),
  (0xCF1, 66), (0xCF4, 164), (0xD00, 87), (0xD0D, 164), (0xD0E, 87), (0xD11, 164), (0xD12, 87),
  (0xD45, 164), (0xD46, 87), (0xD49, 164), (0xD4A, 87), (0xD50, 164), (0xD54, 87), (0xD64, 164),
  (0xD66, 87), (0xD80, 164), (0xD81, 128), (0xD84, 164), (0xD85, 128), (0xD97, 164), (0xD9A, 128),
  (0xDB2, 164), (0xDB3, 128), (0xDBC, 164), (0xDBD, 128), (0xDBE, 164), (0xDC0, 128),
  (0xDC7, 164), (0xDCA, 128), (0xDCB, 164), (0xDCF, 128), (0xDD5, 164), (0xDD6, 128),
  (0xDD7, 164), (0xDD8, 128), (0xDE0, 164), (0xDE6, 128), (0xDF0, 164), (0xDF2, 128),
  (0xDF5, 164), (0xE01, 147), (0xE3B, 164), (0xE3F, 163), (0xE40, 147), (0xE5C, 164), (0xE81, 69),
  (0xE83, 164), (0xE84, 69), (0xE85, 164), (0xE86, 69), (0xE8B, 164), (0xE8C, 69), (0xEA4, 164),
  (0xEA5, 69), (0xEA6, 164), (0xEA7, 69), (0xEBE, 164), (0xEC0, 69), (0xEC5, 164), (0xEC6, 69),
  (0xEC7, 164), (0xEC8, 69), (0xECF, 164), (0xED0, 69), (0xEDA, 164), (0xEDC, 69), (0xEE0, 164),
  (0xF00, 148), (0xF48, 164), (0xF49, 148), (0xF6D, 164), (0xF71, 148), (0xF98, 164),
  (0xF99, 148), (0xFBD, 164), (0xFBE, 148), (0xFCD, 164), (0xFCE, 148), (0xFD5, 163),
  (0xFD9, 148), (0xFDB, 164), (0x1000, 93), (0x10A0, 38), (0x10C6, 164), (0x10C7, 38),
  (0x10C8, 164), (0x10CD, 38), (0x10CE, 164), (0x10D0, 38), (0x10FB, 163), (0x10FC, 38),
  (0x1100, 47), (0x1200, 37), (0x1249, 164), (0x124A, 37), (0x124E, 164), (0x1250, 37),
  (0x1257, 164), (0x1258, 37), (0x1259, 164), (0x125A, 37), (0x125E, 164), (0x1260, 37),
  (0x1289, 164), (0x128A, 37), (0x128E, 164), (0x1290, 37), (0x12B1, 164), (0x12B2, 37),
  (0x12B6, 164), (0x12B8, 37), (0x12BF, 164), (0x12C0, 37), (0x12C1, 164), (0x12C2, 37),
  (0x12C6, 164), (0x12C8, 37), (0x12D7, 164), (0x12D8, 37), (0x1311, 164), (0x1312, 37),
  (0x1316, 164), (0x1318, 37), (0x135B, 164), (0x135D, 37), (0x137D, 164), (0x1380, 37),
  (0x139A, 164), (0x13A0, 23), (0x13F6, 164), (0x13F8, 23), (0x13FE, 164), (0x1400, 20),
  (0x1680, 101), (0x169D, 164), (0x16A0, 119), (0x16EB, 163), (0x16EE, 119), (0x16F9, 164),
  (0x1700, 145), (0x1716, 164), (0x171F, 145), (0x1720, 49), (0x1735, 163), (0x1737, 164),
  (0x1740, 18), (0x1754, 164), (0x1760, 136), (0x176D, 164), (0x176E, 136), (0x1771, 164),
  (0x1772, 136), (0x1774, 164), (0x1780, 63), (0x17DE, 164), (0x17E0, 63), (0x17EA, 164),
  (0x17F0, 63), (0x17FA, 164), (0x1800, 89), (0x1802, 163), (0x1804, 89), (0x1805, 163),
  (0x1806, 89), (0x181A, 164), (0x1820, 89), (0x1879, 164), (0x1880, 89), (0x18AB, 164),
  (0x18B0, 20), (0x18F6, 164), (0x1900, 72), (0x191F, 164), (0x1920, 72), (0x192C, 164),
  (0x1930, 72), (0x193C, 164), (0x1940, 72), (0x1941, 164), (0x1944, 72), (0x1950, 138),
  (0x196E, 164), (0x1970, 138), (0x1975, 164), (0x1980, 139), (0x19AC, 164), (0x19B0, 139),
  (0x19CA, 164), (0x19D0, 139), (0x19DB, 164), (0x19DE, 139), (0x19E0, 63), (0x1A00, 17),
  (0x1A1C, 164), (0x1A1E, 17), (0x1A20, 68), (0x1A5F, 164), (0x1A60, 68), (0x1A7D, 164),
  (0x1A7F, 68), (0x1A8A, 164), (0x1A90, 68), (0x1A9A, 164), (0x1AA0, 68), (0x1AAE, 164),
  (0x1AB0, 162), (0x1ADE, 164), (0x1AE0, 162), (0x1AEC, 164), (0x1B00, 8), (0x1B4D, 164),
  (0x1B4E, 8), (0x1B80, 133), (0x1BC0, 11), (0x1BF4, 164), (0x1BFC, 11), (0x1C00, 71),
  (0x1C38, 164), (0x1C3B, 71), (0x1C4A, 164), (0x1C4D, 71), (0x1C50, 102), (0x1C80, 28),
  (0x1C8B, 164), (0x1C90, 38), (0x1CBB, 164), (0x1CBD, 38), (0x1CC0, 133), (0x1CC8, 164),
  (0x1CD0, 162), (0x1CD3, 163), (0x1CD4, 162), (0x1CE1, 163), (0x1CE2, 162), (0x1CE9, 163),
  (0x1CED, 162), (0x1CEE, 163), (0x1CF4, 162), (0x1CF5, 163), (0x1CF8, 162), (0x1CFA, 163),
  (0x1CFB, 164), (0x1D00, 70), (0x1D26, 44), (0x1D2B, 28), (0x1D2C, 70), (0x1D5D, 44),
  (0x1D62, 70), (0x1D66, 44), (0x1D6B, 70), (0x1D78, 28), (0x1D79, 70), (0x1DBF, 44),
  (0x1DC0, 162), (0x1E00, 70), (0x1F00, 44), (0x1F16, 164), (0x1F18, 44), (0x1F1E, 164),
  (0x1F20, 44), (0x1F46, 164), (0x1F48, 44), (0x1F4E, 164), (0x1F50, 44), (0x1F58, 164),
  (0x1F59, 44), (0x1F5A, 164), (0x1F5B, 44), (0x1F5C, 164), (0x1F5D, 44), (0x1F5E, 164),
  (0x1F5F, 44), (0x1F7E, 164), (0x1F80, 44), (0x1FB5, 164), (0x1FB6, 44), (0x1FC5, 164),
  (0x1FC6, 44), (0x1FD4, 164), (0x1FD6, 44), (0x1FDC, 164), (0x1FDD, 44), (0x1FF0, 164),
  (0x1FF2, 44), (0x1FF5, 164), (0x1FF6, 44), (0x1FFF, 164), (0x2000, 163), (0x200C, 162),
  (0x200E, 163), (0x2065, 164), (0x2066, 163), (0x2071, 70), (0x2072, 164), (0x2074, 163),
  (0x207F, 70), (0x2080, 163), (0x208F, 164), (0x2090, 70), (0x209D, 164), (0x20A0, 163),
  (0x20C2, 164), (0x20D0, 162), (0x20F1, 164), (0x2100, 163), (0x2126, 44), (0x2127, 163),
  (0x212A, 70), (0x212C, 163), (0x2132, 70), (0x2133, 163), (0x214E, 70), (0x214F, 163),
  (0x2160, 70), (0x2189, 163), (0x218C, 164), (0x2190, 163), (0x242A, 164), (0x2440, 163),
  (0x244B, 164), (0x2460, 163), (0x2800, 16), (0x2900, 163), (0x2B74, 164), (0x2B76, 163),
  (0x2C00, 39), (0x2C60, 70), (0x2C80, 25), (0x2CF4, 164), (0x2CF9, 25), (0x2D00, 38),
  (0x2D26, 164), (0x2D27, 38), (0x2D28, 164), (0x2D2D, 38), (0x2D2E, 164), (0x2D30, 144),
  (0x2D68, 164), (0x2D6F, 144), (0x2D71, 164), (0x2D7F, 144), (0x2D80, 37), (0x2D97, 164),
  (0x2DA0, 37), (0x2DA7, 164), (0x2DA8, 37), (0x2DAF, 164), (0x2DB0, 37), (0x2DB7, 164),
  (0x2DB8, 37), (0x2DBF, 164), (0x2DC0, 37), (0x2DC7, 164), (0x2DC8, 37), (0x2DCF, 164),
  (0x2DD0, 37), (0x2DD7, 164), (0x2DD8, 37), (0x2DDF, 164), (0x2DE0, 28), (0x2E00, 163),
  (0x2E5E, 164), (0x2E80, 48), (0x2E9A, 164), (0x2E9B, 48), (0x2EF4, 164), (0x2F00, 48),
  (0x2FD6, 164), (0x2FF0, 163), (0x3005, 48), (0x3006, 163), (0x3007, 48), (0x3008, 163),
  (0x3021, 48), (0x302A, 162), (0x302E, 47), (0x3030, 163), (0x3038, 48), (0x303C, 163),
  (0x3040, 164), (0x3041, 52), (0x3097, 164), (0x3099, 162), (0x309B, 163), (0x309D, 52),
  (0x30A0, 163), (0x30A1, 60), (0x30FB, 163), (0x30FD, 60), (0x3100, 164), (0x3105, 14),
  (0x3130, 164), (0x3131, 47), (0x318F, 164), (0x3190, 163), (0x31A0, 14), (0x31C0, 163),
  (0x31E6, 164), (0x31EF, 163), (0x31F0, 60), (0x3200, 47), (0x321F, 164), (0x3220, 163),
  (0x3260, 47), (0x327F, 163), (0x32D0, 60), (0x32FF, 163), (0x3300, 60), (0x3358, 163),
  (0x3400, 48), (0x4DC0, 163), (0x4E00, 48), (0xA000, 160), (0xA48D, 164), (0xA490, 160),
  (0xA4C7, 164), (0xA4D0, 75), (0xA500, 153), (0xA62C, 164), (0xA640, 28), (0xA6A0, 9),
  (0xA6F8, 164), (0xA700, 163), (0xA722, 70), (0xA788, 163), (0xA78B, 70), (0xA7DD, 164),
  (0xA7F1, 70), (0xA800, 134), (0xA82D, 164), (0xA830, 163), (0xA83A, 164), (0xA840, 111),
  (0xA878, 164), (0xA880, 122), (0xA8C6, 164), (0xA8CE, 122), (0xA8DA, 164), (0xA8E0, 29),
  (0xA900, 59), (0xA92E, 163), (0xA92F, 59), (0xA930, 117), (0xA954, 164), (0xA95F, 117),
  (0xA960, 47), (0xA97D, 164), (0xA980, 58), (0xA9CE, 164), (0xA9CF, 163), (0xA9D0, 58),
  (0xA9DA, 164), (0xA9DE, 58), (0xA9E0, 93), (0xA9FF, 164), (0xAA00, 22), (0xAA37, 164),
  (0xAA40, 22), (0xAA4E, 164), (0xAA50, 22), (0xAA5A, 164), (0xAA5C, 22), (0xAA60, 93),
  (0xAA80, 142), (0xAAC3, 164), (0xAADB, 142), (0xAAE0, 91), (0xAAF7, 164), (0xAB01, 37),
  (0xAB07, 164), (0xAB09, 37), (0xAB0F, 164), (0xAB11, 37), (0xAB17, 164), (0xAB20, 37),
  (0xAB27, 164), (0xAB28, 37), (0xAB2F, 164), (0xAB30, 70), (0xAB5B, 163), (0xAB5C, 70),
  (0xAB65, 44), (0xAB66, 70), (0xAB6A, 163), (0xAB6C, 164), (0xAB70, 23), (0xABC0, 91),
  (0xABEE, 164), (0xABF0, 91), (0xABFA, 164), (0xAC00, 47), (0xD7A4, 164), (0xD7B0, 47),
  (0xD7C7, 164), (0xD7CB, 47), (0xD7FC, 164), (0xF900, 48), (0xFA6E, 164), (0xFA70, 48),
  (0xFADA, 164), (0xFB00, 70), (0xFB07, 164), (0xFB13, 6), (0xFB18, 164), (0xFB1D, 51),
  (0xFB37, 164), (0xFB38, 51), (0xFB3D, 164), (0xFB3E, 51), (0xFB3F, 164), (0xFB40, 51),
  (0xFB42, 164), (0xFB43, 51), (0xFB45, 164), (0xFB46, 51), (0xFB50, 4), (0xFD3E, 163),
  (0xFD40, 4), (0xFDD0, 164), (0xFDF0, 4), (0xFE00, 162), (0xFE10, 163), (0xFE1A, 164),
  (0xFE20, 162), (0xFE2E, 28), (0xFE30, 163), (0xFE53, 164), (0xFE54, 163), (0xFE67, 164),
  (0xFE68, 163), (0xFE6C, 164), (0xFE70, 4), (0xFE75, 164), (0xFE76, 4), (0xFEFD, 164),
  (0xFEFF, 163), (0xFF00, 164), (0xFF01, 163), (0xFF21, 70), (0xFF3B, 163), (0xFF41, 70),
  (0xFF5B, 163), (0xFF66, 60), (0xFF70, 163), (0xFF71, 60), (0xFF9E, 163), (0xFFA0, 47),
  (0xFFBF, 164), (0xFFC2, 47), (0xFFC8, 164), (0xFFCA, 47), (0xFFD0, 164), (0xFFD2, 47),
  (0xFFD8, 164), (0xFFDA, 47), (0xFFDD, 164), (0xFFE0, 163), (0xFFE7, 164), (0xFFE8, 163),
  (0xFFEF, 164), (0xFFF9, 163), (0xFFFE, 164), (0x10000, 74), (0x1000C, 164), (0x1000D, 74),
  (0x10027, 164), (0x10028, 74), (0x1003B, 164), (0x1003C, 74), (0x1003E, 164), (0x1003F, 74),
  (0x1004E, 164), (0x10050, 74), (0x1005E, 164), (0x10080, 74), (0x100FB, 164), (0x10100, 163),
  (0x10103, 164), (0x10107, 163), (0x10134, 164), (0x10137, 163), (0x10140, 44), (0x1018F, 164),
  (0x10190, 163), (0x1019D, 164), (0x101A0, 44), (0x101A1, 164), (0x101D0, 163), (0x101FD, 162),
  (0x101FE, 164), (0x10280, 76), (0x1029D, 164), (0x102A0, 21), (0x102D1, 164), (0x102E0, 162),
  (0x102E1, 163), (0x102FC, 164), (0x10300, 57), (0x10324, 164), (0x1032D, 57), (0x10330, 42),
  (0x1034B, 164), (0x10350, 110), (0x1037B, 164), (0x10380, 152), (0x1039E, 164), (0x1039F, 152),
  (0x103A0, 157), (0x103C4, 164), (0x103C8, 157), (0x103D6, 164), (0x10400, 32), (0x10450, 124),
  (0x10480, 106), (0x1049E, 164), (0x104A0, 106), (0x104AA, 164), (0x104B0, 105), (0x104D4, 164),
  (0x104D8, 105), (0x104FC, 164), (0x10500, 35), (0x10528, 164), (0x10530, 2), (0x10564, 164),
  (0x1056F, 2), (0x10570, 154), (0x1057B, 164), (0x1057C, 154), (0x1058B, 164), (0x1058C, 154),
  (0x10593, 164), (0x10594, 154), (0x10596, 164), (0x10597, 154), (0x105A2, 164), (0x105A3, 154),
  (0x105B2, 164), (0x105B3, 154), (0x105BA, 164), (0x105BB, 154), (0x105BD, 164), (0x10600, 73),
  (0x10737, 164), (0x10740, 73), (0x10756, 164), (0x10760, 73), (0x10768, 164), (0x10780, 70),
  (0x10786, 164), (0x10787, 70), (0x107B1, 164), (0x107B2, 70), (0x107BB, 164), (0x10800, 27),
  (0x10806, 164), (0x10808, 27), (0x10809, 164), (0x1080A, 27), (0x10836, 164), (0x10837, 27),
  (0x10839, 164), (0x1083C, 27), (0x1083D, 164), (0x1083F, 27), (0x10840, 5), (0x10856, 164),
  (0x10857, 5), (0x10860, 108), (0x10880, 97), (0x1089F, 164), (0x108A7, 97), (0x108B0, 164),
  (0x108E0, 50), (0x108F3, 164), (0x108F4, 50), (0x108F6, 164), (0x108FB, 50), (0x10900, 114),
  (0x1091C, 164), (0x1091F, 114), (0x10920, 77), (0x1093A, 164), (0x1093F, 77), (0x10940, 164),
  (0x10980, 86), (0x109A0, 85), (0x109B8, 164), (0x109BC, 85), (0x109D0, 164), (0x109D2, 85),
  (0x10A00, 62), (0x10A04, 164), (0x10A05, 62), (0x10A07, 164), (0x10A0C, 62), (0x10A14, 164),
  (0x10A15, 62), (0x10A18, 164), (0x10A19, 62), (0x10A36, 164), (0x10A38, 62), (0x10A3B, 164),
  (0x10A3F, 62), (0x10A49, 164), (0x10A50, 62), (0x10A59, 164), (0x10A60, 121), (0x10A80, 96),
  (0x10AA0, 164), (0x10AC0, 81), (0x10AE7, 164), (0x10AEB, 81), (0x10AF7, 164), (0x10B00, 7),
  (0x10B36, 164), (0x10B39, 7), (0x10B40, 116), (0x10B56, 164), (0x10B58, 116), (0x10B60, 112),
  (0x10B73, 164), (0x10B78, 112), (0x10B80, 113), (0x10B92, 164), (0x10B99, 113), (0x10B9D, 164),
  (0x10BA9, 113), (0x10BB0, 164), (0x10C00, 103), (0x10C49, 164), (0x10C80, 56), (0x10CB3, 164),
  (0x10CC0, 56), (0x10CF3, 164), (0x10CFA, 56), (0x10D00, 118), (0x10D28, 164), (0x10D30, 118),
  (0x10D3A, 164), (0x10E60, 4), (0x10E7F, 164), (0x10E80, 159), (0x10EAA, 164), (0x10EAB, 159),
  (0x10EAE, 164), (0x10EB0, 159), (0x10EB2, 164), (0x10EC2, 4), (0x10EC8, 164), (0x10ED0, 4),
  (0x10ED9, 164), (0x10EFA, 4), (0x10F00, 130), (0x10F28, 164), (0x10F30, 129), (0x10F5A, 164),
  (0x10F70, 107), (0x10F8A, 164), (0x10FB0, 24), (0x10FCC, 164), (0x10FE0, 36), (0x10FF7, 164),
  (0x11000, 15), (0x1104E, 164), (0x11052, 15), (0x11076, 164), (0x1107F, 15), (0x11080, 67),
  (0x110C3, 164), (0x110CD, 67), (0x110CE, 164), (0x110D0, 131), (0x110E9, 164), (0x110F0, 131),
  (0x110FA, 164), (0x11100, 19), (0x11135, 164), (0x11136, 19), (0x11148, 164), (0x11150, 78),
  (0x11177, 164), (0x11180, 125), (0x111E0, 164), (0x111E1, 128), (0x111F5, 164), (0x11200, 64),
  (0x11212, 164), (0x11213, 64), (0x11242, 164), (0x11280, 92), (0x11287, 164), (0x11288, 92),
  (0x11289, 164), (0x1128A, 92), (0x1128E, 164), (0x1128F, 92), (0x1129E, 164), (0x1129F, 92),
  (0x112AA, 164), (0x112B0, 127), (0x112EB, 164), (0x112F0, 127), (0x112FA, 164), (0x11300, 43),
  (0x11304, 164), (0x11305, 43), (0x1130D, 164), (0x1130F, 43), (0x11311, 164), (0x11313, 43),
  (0x11329, 164), (0x1132A, 43), (0x11331, 164), (0x11332, 43), (0x11334, 164), (0x11335, 43),
  (0x1133A, 164), (0x1133B, 162), (0x1133C, 43), (0x11345, 164), (0x11347, 43), (0x11349, 164),
  (0x1134B, 43), (0x1134E, 164), (0x11350, 43), (0x11351, 164), (0x11357, 43), (0x11358, 164),
  (0x1135D, 43), (0x11364, 164), (0x11366, 43), (0x1136D, 164), (0x11370, 43), (0x11375, 164),
  (0x11400, 98), (0x1145C, 164), (0x1145D, 98), (0x11462, 164), (0x11480, 149), (0x114C8, 164),
  (0x114D0, 149), (0x114DA, 164), (0x11580, 126), (0x115B6, 164), (0x115B8, 126), (0x115DE, 164),
  (0x11600, 88), (0x11645, 164), (0x11650, 88), (0x1165A, 164), (0x11660, 89), (0x1166D, 164),
  (0x11680, 137), (0x116BA, 164), (0x116C0, 137), (0x116CA, 164), (0x116D0, 93), (0x116E4, 164),
  (0x11700, 3), (0x1171B, 164), (0x1171D, 3), (0x1172C, 164), (0x11730, 3), (0x11747, 164),
  (0x11800, 31), (0x1183C, 164), (0x118A0, 155), (0x118F3, 164), (0x118FF, 155), (0x11900, 30),
  (0x11907, 164), (0x11909, 30), (0x1190A, 164), (0x1190C, 30), (0x11914, 164), (0x11915, 30),
  (0x11917, 164), (0x11918, 30), (0x11936, 164), (0x11937, 30), (0x11939, 164), (0x1193B, 30),
  (0x11947, 164), (0x11950, 30), (0x1195A, 164), (0x119A0, 95), (0x119A8, 164), (0x119AA, 95),
  (0x119D8, 164), (0x119DA, 95), (0x119E5, 164), (0x11A00, 161), (0x11A48, 164), (0x11A50, 132),
  (0x11AA3, 164), (0x11AB0, 20), (0x11AC0, 109), (0x11AF9, 164), (0x11B00, 29), (0x11B0A, 164),
  (0x11B60, 125), (0x11B68, 164), (0x11C00, 13), (0x11C09, 164), (0x11C0A, 13), (0x11C37, 164),
  (0x11C38, 13), (0x11C46, 164), (0x11C50, 13), (0x11C6D, 164), (0x11C70, 82), (0x11C90, 164),
  (0x11C92, 82), (0x11CA8, 164), (0x11CA9, 82), (0x11CB7, 164), (0x11D00, 41), (0x11D07, 164),
  (0x11D08, 41), (0x11D0A, 164), (0x11D0B, 41), (0x11D37, 164), (0x11D3A, 41), (0x11D3B, 164),
  (0x11D3C, 41), (0x11D3E, 164), (0x11D3F, 41), (0x11D48, 164), (0x11D50, 41), (0x11D5A, 164),
  (0x11D60, 40), (0x11D66, 164), (0x11D67, 40), (0x11D69, 164), (0x11D6A, 40), (0x11D8F, 164),
  (0x11D90, 40), (0x11D92, 164), (0x11D93, 40), (0x11D99, 164), (0x11DA0, 40), (0x11DAA, 164),
  (0x11EE0, 79), (0x11EF9, 164), (0x11F00, 61), (0x11F11, 164), (0x11F12, 61), (0x11F3B, 164),
  (0x11F3E, 61), (0x11F5B, 164), (0x11FB0, 75), (0x11FB1, 164), (0x11FC0, 140), (0x11FF2, 164),
  (0x11FFF, 140), (0x12000, 158), (0x1239A, 164), (0x12400, 158), (0x1246F, 164), (0x12470, 158),
  (0x12475, 164), (0x12480, 158), (0x12544, 164), (0x12F90, 26), (0x12FF3, 164), (0x13000, 34),
  (0x13456, 164), (0x13460, 34), (0x143FB, 164), (0x14400, 53), (0x14647, 164), (0x16800, 9),
  (0x16A39, 164), (0x16A40, 90), (0x16A5F, 164), (0x16A60, 90), (0x16A6A, 164), (0x16A6E, 90),
  (0x16A70, 150), (0x16ABF, 164), (0x16AC0, 150), (0x16ACA, 164), (0x16AD0, 10), (0x16AEE, 164),
  (0x16AF0, 10), (0x16AF6, 164), (0x16B00, 54), (0x16B46, 164), (0x16B50, 54), (0x16B5A, 164),
  (0x16B5B, 54), (0x16B62, 164), (0x16B63, 54), (0x16B78, 164), (0x16B7D, 54), (0x16B90, 164),
  (0x16E40, 83), (0x16E9B, 164), (0x16F00, 115), (0x16F4B, 164), (0x16F4F, 115), (0x16F88, 164),
  (0x16F8F, 115), (0x16FA0, 164), (0x16FE0, 141), (0x16FE1, 100), (0x16FE2, 48), (0x16FE4, 65),
  (0x16FE5, 164), (0x16FF0, 48), (0x16FF7, 164), (0x17000, 141), (0x18B00, 65), (0x18CD6, 164),
  (0x18CFF, 65), (0x18D00, 141), (0x18D1F, 164), (0x18D80, 141), (0x18DF3, 164), (0x1AFF0, 60),
  (0x1AFF4, 164), (0x1AFF5, 60), (0x1AFFC, 164), (0x1AFFD, 60), (0x1AFFF, 164), (0x1B000, 60),
  (0x1B001, 52), (0x1B120, 60), (0x1B123, 164), (0x1B132, 52), (0x1B133, 164), (0x1B150, 52),
  (0x1B153, 164), (0x1B155, 60), (0x1B156, 164), (0x1B164, 60), (0x1B168, 164), (0x1B170, 100),
  (0x1B2FC, 164), (0x1BC00, 33), (0x1BC6B, 164), (0x1BC70, 33), (0x1BC7D, 164), (0x1BC80, 33),
  (0x1BC89, 164), (0x1BC90, 33), (0x1BC9A, 164), (0x1BC9C, 33), (0x1BCA0, 163), (0x1BCA4, 164),
  (0x1CC00, 163), (0x1CCFD, 164), (0x1CD00, 163), (0x1CEB4, 164), (0x1CEBA, 163), (0x1CED1, 164),
  (0x1CEE0, 163), (0x1CEF1, 164), (0x1CF00, 162), (0x1CF2E, 164), (0x1CF30, 162), (0x1CF47, 164),
  (0x1CF50, 163), (0x1CFC4, 164), (0x1D000, 163), (0x1D0F6, 164), (0x1D100, 163), (0x1D127, 164),
  (0x1D129, 163), (0x1D167, 162), (0x1D16A, 163), (0x1D17B, 162), (0x1D183, 163), (0x1D185, 162),
  (0x1D18C, 163), (0x1D1AA, 162), (0x1D1AE, 163), (0x1D1EB, 164), (0x1D200, 44), (0x1D246, 164),
  (0x1D2C0, 163), (0x1D2D4, 164), (0x1D2E0, 163), (0x1D2F4, 164), (0x1D300, 163), (0x1D357, 164),
  (0x1D360, 163), (0x1D379, 164), (0x1D400, 163), (0x1D455, 164), (0x1D456, 163), (0x1D49D, 164),
  (0x1D49E, 163), (0x1D4A0, 164), (0x1D4A2, 163), (0x1D4A3, 164), (0x1D4A5, 163), (0x1D4A7, 164),
  (0x1D4A9, 163), (0x1D4AD, 164), (0x1D4AE, 163), (0x1D4BA, 164), (0x1D4BB, 163), (0x1D4BC, 164),
  (0x1D4BD, 163), (0x1D4C4, 164), (0x1D4C5, 163), (0x1D506, 164), (0x1D507, 163), (0x1D50B, 164),
  (0x1D50D, 163), (0x1D515, 164), (0x1D516, 163), (0x1D51D, 164), (0x1D51E, 163), (0x1D53A, 164),
  (0x1D53B, 163), (0x1D53F, 164), (0x1D540, 163), (0x1D545, 164), (0x1D546, 163), (0x1D547, 164),
  (0x1D54A, 163), (0x1D551, 164), (0x1D552, 163), (0x1D6A6, 164), (0x1D6A8, 163), (0x1D7CC, 164),
  (0x1D7CE, 163), (0x1D800, 123), (0x1DA8C, 164), (0x1DA9B, 123), (0x1DAA0, 164), (0x1DAA1, 123),
  (0x1DAB0, 164), (0x1DF00, 70), (0x1DF1F, 164), (0x1DF25, 70), (0x1DF2B, 164), (0x1E000, 39),
  (0x1E007, 164), (0x1E008, 39), (0x1E019, 164), (0x1E01B, 39), (0x1E022, 164), (0x1E023, 39),
  (0x1E025, 164), (0x1E026, 39), (0x1E02B, 164), (0x1E030, 28), (0x1E06E, 164), (0x1E08F, 28),
  (0x1E090, 164), (0x1E100, 55), (0x1E12D, 164), (0x1E130, 55), (0x1E13E, 164), (0x1E140, 55),
  (0x1E14A, 164), (0x1E14E, 55), (0x1E150, 164), (0x1E290, 151), (0x1E2AF, 164), (0x1E2C0, 156),
  (0x1E2FA, 164), (0x1E2FF, 156), (0x1E300, 164), (0x1E4D0, 94), (0x1E4FA, 164), (0x1E7E0, 37),
  (0x1E7E7, 164), (0x1E7E8, 37), (0x1E7EC, 164), (0x1E7ED, 37), (0x1E7EF, 164), (0x1E7F0, 37),
  (0x1E7FF, 164), (0x1E800, 84), (0x1E8C5, 164), (0x1E8C7, 84), (0x1E8D7, 164), (0x1E900, 1),
  (0x1E94C, 164), (0x1E950, 1), (0x1E95A, 164), (0x1E95E, 1), (0x1E960, 164), (0x1EC71, 163),
  (0x1ECB5, 164), (0x1ED01, 163), (0x1ED3E, 164), (0x1EE00, 4), (0x1EE04, 164), (0x1EE05, 4),
  (0x1EE20, 164), (0x1EE21, 4), (0x1EE23, 164), (0x1EE24, 4), (0x1EE25, 164), (0x1EE27, 4),
  (0x1EE28, 164), (0x1EE29, 4), (0x1EE33, 164), (0x1EE34, 4), (0x1EE38, 164), (0x1EE39, 4),
  (0x1EE3A, 164), (0x1EE3B, 4), (0x1EE3C, 164), (0x1EE42, 4), (0x1EE43, 164), (0x1EE47, 4),
  (0x1EE48, 164), (0x1EE49, 4), (0x1EE4A, 164), (0x1EE4B, 4), (0x1EE4C, 164), (0x1EE4D, 4),
  (0x1EE50, 164), (0x1EE51, 4), (0x1EE53, 164), (0x1EE54, 4), (0x1EE55, 164), (0x1EE57, 4),
  (0x1EE58, 164), (0x1EE59, 4), (0x1EE5A, 164), (0x1EE5B, 4), (0x1EE5C, 164), (0x1EE5D, 4),
  (0x1EE5E, 164), (0x1EE5F, 4), (0x1EE60, 164), (0x1EE61, 4), (0x1EE63, 164), (0x1EE64, 4),
  (0x1EE65, 164), (0x1EE67, 4), (0x1EE6B, 164), (0x1EE6C, 4), (0x1EE73, 164), (0x1EE74, 4),
  (0x1EE78, 164), (0x1EE79, 4), (0x1EE7D, 164), (0x1EE7E, 4), (0x1EE7F, 164), (0x1EE80, 4),
  (0x1EE8A, 164), (0x1EE8B, 4), (0x1EE9C, 164), (0x1EEA1, 4), (0x1EEA4, 164), (0x1EEA5, 4),
  (0x1EEAA, 164), (0x1EEAB, 4), (0x1EEBC, 164), (0x1EEF0, 4), (0x1EEF2, 164), (0x1F000, 163),
  (0x1F02C, 164), (0x1F030, 163), (0x1F094, 164), (0x1F0A0, 163), (0x1F0AF, 164), (0x1F0B1, 163),
  (0x1F0C0, 164), (0x1F0C1, 163), (0x1F0D0, 164), (0x1F0D1, 163), (0x1F0F6, 164), (0x1F100, 163),
  (0x1F1AE, 164), (0x1F1E6, 163), (0x1F200, 52), (0x1F201, 163), (0x1F203, 164), (0x1F210, 163),
  (0x1F23C, 164), (0x1F240, 163), (0x1F249, 164), (0x1F250, 163), (0x1F252, 164), (0x1F260, 163),
  (0x1F266, 164), (0x1F300, 163), (0x1F6D9, 164), (0x1F6DC, 163), (0x1F6ED, 164), (0x1F6F0, 163),
  (0x1F6FD, 164), (0x1F700, 163), (0x1F7DA, 164), (0x1F7E0, 163), (0x1F7EC, 164), (0x1F7F0, 163),
  (0x1F7F1, 164), (0x1F800, 163), (0x1F80C, 164), (0x1F810, 163), (0x1F848, 164), (0x1F850, 163),
  (0x1F85A, 164), (0x1F860, 163), (0x1F888, 164), (0x1F890, 163), (0x1F8AE, 164), (0x1F8B0, 163),
  (0x1F8BC, 164), (0x1F8C0, 163), (0x1F8C2, 164), (0x1F8D0, 163), (0x1F8D9, 164), (0x1F900, 163),
  (0x1FA58, 164), (0x1FA60, 163), (0x1FA6E, 164), (0x1FA70, 163), (0x1FA7D, 164), (0x1FA80, 163),
  (0x1FA8B, 164), (0x1FA8E, 163), (0x1FAC7, 164), (0x1FAC8, 163), (0x1FAC9, 164), (0x1FACD, 163),
  (0x1FADD, 164), (0x1FADF, 163), (0x1FAEB, 164), (0x1FAEF, 163), (0x1FAF9, 164), (0x1FB00, 163),
  (0x1FB93, 164), (0x1FB94, 163), (0x1FBFB, 164), (0x20000, 48), (0x2A6E0, 164), (0x2A700, 48),
  (0x2B81E, 164), (0x2B820, 48), (0x2CEAE, 164), (0x2CEB0, 48), (0x2EBE1, 164), (0x2EBF0, 48),
  (0x2EE5E, 164), (0x2F800, 48), (0x2FA1E, 164), (0x30000, 48), (0x3134B, 164), (0x31350, 48),
  (0x3347A, 164), (0xE0001, 163), (0xE0002, 164), (0xE0020, 163), (0xE0080, 164), (0xE0100, 162),
  (0xE01F0, 164)]

def scriptOf (n : Nat) : Nat :=
  let i := lastAtMost (fun i => (scriptRuns.getD i (0, 0)).1) n 32 0 scriptRuns.size
  (scriptRuns.getD i (0, 0)).2

def scriptNamed? (name : String) : Option Nat := (scriptNames.find? (·.1 == name)).map (·.2)

end LogPipeline.Unicode
