import ExtensionAtlas.Text.Boundaries

/-! Combining marks, as Unicode 14 gives them. A mark has a class that says where it stands at its
letter; marks of different classes behind one letter can change places without a change of meaning.
Class zero is that of every other character and of the marks that keep their places. -/

namespace ExtensionAtlas.Text

def markChanges : Boundaries :=
  ⟨#[
    0x300, 0x370, 0x483, 0x48A, 0x591, 0x5BE, 0x5BF, 0x5C0, 0x5C1, 0x5C3, 0x5C4, 0x5C6, 0x5C7,
    0x5C8, 0x610, 0x61B, 0x64B, 0x660, 0x670, 0x671, 0x6D6, 0x6DD, 0x6DF, 0x6E5, 0x6E7, 0x6E9,
    0x6EA, 0x6EE, 0x711, 0x712, 0x730, 0x74B, 0x7A6, 0x7B1, 0x7EB, 0x7F4, 0x7FD, 0x7FE, 0x816,
    0x81A, 0x81B, 0x824, 0x825, 0x828, 0x829, 0x82E, 0x859, 0x85C, 0x898, 0x8A0, 0x8CA, 0x8E2,
    0x8E3, 0x904, 0x93A, 0x93D, 0x93E, 0x950, 0x951, 0x958, 0x962, 0x964, 0x981, 0x984, 0x9BC,
    0x9BD, 0x9BE, 0x9C5, 0x9C7, 0x9C9, 0x9CB, 0x9CE, 0x9D7, 0x9D8, 0x9E2, 0x9E4, 0x9FE, 0x9FF,
    0xA01, 0xA04, 0xA3C, 0xA3D, 0xA3E, 0xA43, 0xA47, 0xA49, 0xA4B, 0xA4E, 0xA51, 0xA52, 0xA70,
    0xA72, 0xA75, 0xA76, 0xA81, 0xA84, 0xABC, 0xABD, 0xABE, 0xAC6, 0xAC7, 0xACA, 0xACB, 0xACE,
    0xAE2, 0xAE4, 0xAFA, 0xB00, 0xB01, 0xB04, 0xB3C, 0xB3D, 0xB3E, 0xB45, 0xB47, 0xB49, 0xB4B,
    0xB4E, 0xB55, 0xB58, 0xB62, 0xB64, 0xB82, 0xB83, 0xBBE, 0xBC3, 0xBC6, 0xBC9, 0xBCA, 0xBCE,
    0xBD7, 0xBD8, 0xC00, 0xC05, 0xC3C, 0xC3D, 0xC3E, 0xC45, 0xC46, 0xC49, 0xC4A, 0xC4E, 0xC55,
    0xC57, 0xC62, 0xC64, 0xC81, 0xC84, 0xCBC, 0xCBD, 0xCBE, 0xCC5, 0xCC6, 0xCC9, 0xCCA, 0xCCE,
    0xCD5, 0xCD7, 0xCE2, 0xCE4, 0xD00, 0xD04, 0xD3B, 0xD3D, 0xD3E, 0xD45, 0xD46, 0xD49, 0xD4A,
    0xD4E, 0xD57, 0xD58, 0xD62, 0xD64, 0xD81, 0xD84, 0xDCA, 0xDCB, 0xDCF, 0xDD5, 0xDD6, 0xDD7,
    0xDD8, 0xDE0, 0xDF2, 0xDF4, 0xE31, 0xE32, 0xE34, 0xE3B, 0xE47, 0xE4F, 0xEB1, 0xEB2, 0xEB4,
    0xEBD, 0xEC8, 0xECE, 0xF18, 0xF1A, 0xF35, 0xF36, 0xF37, 0xF38, 0xF39, 0xF3A, 0xF3E, 0xF40,
    0xF71, 0xF85, 0xF86, 0xF88, 0xF8D, 0xF98, 0xF99, 0xFBD, 0xFC6, 0xFC7, 0x102B, 0x103F, 0x1056,
    0x105A, 0x105E, 0x1061, 0x1062, 0x1065, 0x1067, 0x106E, 0x1071, 0x1075, 0x1082, 0x108E, 0x108F,
    0x1090, 0x109A, 0x109E, 0x135D, 0x1360, 0x1712, 0x1716, 0x1732, 0x1735, 0x1752, 0x1754, 0x1772,
    0x1774, 0x17B4, 0x17D4, 0x17DD, 0x17DE, 0x180B, 0x180E, 0x180F, 0x1810, 0x1885, 0x1887, 0x18A9,
    0x18AA, 0x1920, 0x192C, 0x1930, 0x193C, 0x1A17, 0x1A1C, 0x1A55, 0x1A5F, 0x1A60, 0x1A7D, 0x1A7F,
    0x1A80, 0x1AB0, 0x1ACF, 0x1B00, 0x1B05, 0x1B34, 0x1B45, 0x1B6B, 0x1B74, 0x1B80, 0x1B83, 0x1BA1,
    0x1BAE, 0x1BE6, 0x1BF4, 0x1C24, 0x1C38, 0x1CD0, 0x1CD3, 0x1CD4, 0x1CE9, 0x1CED, 0x1CEE, 0x1CF4,
    0x1CF5, 0x1CF7, 0x1CFA, 0x1DC0, 0x1E00, 0x20D0, 0x20F1, 0x2CEF, 0x2CF2, 0x2D7F, 0x2D80, 0x2DE0,
    0x2E00, 0x302A, 0x3030, 0x3099, 0x309B, 0xA66F, 0xA673, 0xA674, 0xA67E, 0xA69E, 0xA6A0, 0xA6F0,
    0xA6F2, 0xA802, 0xA803, 0xA806, 0xA807, 0xA80B, 0xA80C, 0xA823, 0xA828, 0xA82C, 0xA82D, 0xA880,
    0xA882, 0xA8B4, 0xA8C6, 0xA8E0, 0xA8F2, 0xA8FF, 0xA900, 0xA926, 0xA92E, 0xA947, 0xA954, 0xA980,
    0xA984, 0xA9B3, 0xA9C1, 0xA9E5, 0xA9E6, 0xAA29, 0xAA37, 0xAA43, 0xAA44, 0xAA4C, 0xAA4E, 0xAA7B,
    0xAA7E, 0xAAB0, 0xAAB1, 0xAAB2, 0xAAB5, 0xAAB7, 0xAAB9, 0xAABE, 0xAAC0, 0xAAC1, 0xAAC2, 0xAAEB,
    0xAAF0, 0xAAF5, 0xAAF7, 0xABE3, 0xABEB, 0xABEC, 0xABEE, 0xFB1E, 0xFB1F, 0xFE00, 0xFE10, 0xFE20,
    0xFE30, 0x101FD, 0x101FE, 0x102E0, 0x102E1, 0x10376, 0x1037B, 0x10A01, 0x10A04, 0x10A05,
    0x10A07, 0x10A0C, 0x10A10, 0x10A38, 0x10A3B, 0x10A3F, 0x10A40, 0x10AE5, 0x10AE7, 0x10D24,
    0x10D28, 0x10EAB, 0x10EAD, 0x10F46, 0x10F51, 0x10F82, 0x10F86, 0x11000, 0x11003, 0x11038,
    0x11047, 0x11070, 0x11071, 0x11073, 0x11075, 0x1107F, 0x11083, 0x110B0, 0x110BB, 0x110C2,
    0x110C3, 0x11100, 0x11103, 0x11127, 0x11135, 0x11145, 0x11147, 0x11173, 0x11174, 0x11180,
    0x11183, 0x111B3, 0x111C1, 0x111C9, 0x111CD, 0x111CE, 0x111D0, 0x1122C, 0x11238, 0x1123E,
    0x1123F, 0x112DF, 0x112EB, 0x11300, 0x11304, 0x1133B, 0x1133D, 0x1133E, 0x11345, 0x11347,
    0x11349, 0x1134B, 0x1134E, 0x11357, 0x11358, 0x11362, 0x11364, 0x11366, 0x1136D, 0x11370,
    0x11375, 0x11435, 0x11447, 0x1145E, 0x1145F, 0x114B0, 0x114C4, 0x115AF, 0x115B6, 0x115B8,
    0x115C1, 0x115DC, 0x115DE, 0x11630, 0x11641, 0x116AB, 0x116B8, 0x1171D, 0x1172C, 0x1182C,
    0x1183B, 0x11930, 0x11936, 0x11937, 0x11939, 0x1193B, 0x1193F, 0x11940, 0x11941, 0x11942,
    0x11944, 0x119D1, 0x119D8, 0x119DA, 0x119E1, 0x119E4, 0x119E5, 0x11A01, 0x11A0B, 0x11A33,
    0x11A3A, 0x11A3B, 0x11A3F, 0x11A47, 0x11A48, 0x11A51, 0x11A5C, 0x11A8A, 0x11A9A, 0x11C2F,
    0x11C37, 0x11C38, 0x11C40, 0x11C92, 0x11CA8, 0x11CA9, 0x11CB7, 0x11D31, 0x11D37, 0x11D3A,
    0x11D3B, 0x11D3C, 0x11D3E, 0x11D3F, 0x11D46, 0x11D47, 0x11D48, 0x11D8A, 0x11D8F, 0x11D90,
    0x11D92, 0x11D93, 0x11D98, 0x11EF3, 0x11EF7, 0x16AF0, 0x16AF5, 0x16B30, 0x16B37, 0x16F4F,
    0x16F50, 0x16F51, 0x16F88, 0x16F8F, 0x16F93, 0x16FE4, 0x16FE5, 0x16FF0, 0x16FF2, 0x1BC9D,
    0x1BC9F, 0x1CF00, 0x1CF2E, 0x1CF30, 0x1CF47, 0x1D165, 0x1D16A, 0x1D16D, 0x1D173, 0x1D17B,
    0x1D183, 0x1D185, 0x1D18C, 0x1D1AA, 0x1D1AE, 0x1D242, 0x1D245, 0x1DA00, 0x1DA37, 0x1DA3B,
    0x1DA6D, 0x1DA75, 0x1DA76, 0x1DA84, 0x1DA85, 0x1DA9B, 0x1DAA0, 0x1DAA1, 0x1DAB0, 0x1E000,
    0x1E007, 0x1E008, 0x1E019, 0x1E01B, 0x1E022, 0x1E023, 0x1E025, 0x1E026, 0x1E02B, 0x1E130,
    0x1E137, 0x1E2AE, 0x1E2AF, 0x1E2EC, 0x1E2F0, 0x1E8D0, 0x1E8D7, 0x1E944, 0x1E94B, 0xE0100,
    0xE01F0]⟩

/-- Marks from `first` on up to the next step have one combining class. -/
structure ClassStep where
  first : Nat
  combiningClass : Nat

/-- The combining classes of the marks, in ascending order. -/
def classSteps : Array ClassStep :=
  #[
    ⟨0x300, 230⟩, ⟨0x315, 232⟩, ⟨0x316, 220⟩, ⟨0x31A, 232⟩, ⟨0x31B, 216⟩, ⟨0x31C, 220⟩,
    ⟨0x321, 202⟩, ⟨0x323, 220⟩, ⟨0x327, 202⟩, ⟨0x329, 220⟩, ⟨0x334, 1⟩, ⟨0x339, 220⟩, ⟨0x33D, 230⟩,
    ⟨0x345, 240⟩, ⟨0x346, 230⟩, ⟨0x347, 220⟩, ⟨0x34A, 230⟩, ⟨0x34D, 220⟩, ⟨0x34F, 0⟩, ⟨0x350, 230⟩,
    ⟨0x353, 220⟩, ⟨0x357, 230⟩, ⟨0x358, 232⟩, ⟨0x359, 220⟩, ⟨0x35B, 230⟩, ⟨0x35C, 233⟩,
    ⟨0x35D, 234⟩, ⟨0x35F, 233⟩, ⟨0x360, 234⟩, ⟨0x362, 233⟩, ⟨0x363, 230⟩, ⟨0x488, 0⟩, ⟨0x591, 220⟩,
    ⟨0x592, 230⟩, ⟨0x596, 220⟩, ⟨0x597, 230⟩, ⟨0x59A, 222⟩, ⟨0x59B, 220⟩, ⟨0x59C, 230⟩,
    ⟨0x5A2, 220⟩, ⟨0x5A8, 230⟩, ⟨0x5AA, 220⟩, ⟨0x5AB, 230⟩, ⟨0x5AD, 222⟩, ⟨0x5AE, 228⟩,
    ⟨0x5AF, 230⟩, ⟨0x5B0, 10⟩, ⟨0x5B1, 11⟩, ⟨0x5B2, 12⟩, ⟨0x5B3, 13⟩, ⟨0x5B4, 14⟩, ⟨0x5B5, 15⟩,
    ⟨0x5B6, 16⟩, ⟨0x5B7, 17⟩, ⟨0x5B8, 18⟩, ⟨0x5B9, 19⟩, ⟨0x5BB, 20⟩, ⟨0x5BC, 21⟩, ⟨0x5BD, 22⟩,
    ⟨0x5BF, 23⟩, ⟨0x5C1, 24⟩, ⟨0x5C2, 25⟩, ⟨0x5C4, 230⟩, ⟨0x5C5, 220⟩, ⟨0x5C7, 18⟩, ⟨0x610, 230⟩,
    ⟨0x618, 30⟩, ⟨0x619, 31⟩, ⟨0x61A, 32⟩, ⟨0x64B, 27⟩, ⟨0x64C, 28⟩, ⟨0x64D, 29⟩, ⟨0x64E, 30⟩,
    ⟨0x64F, 31⟩, ⟨0x650, 32⟩, ⟨0x651, 33⟩, ⟨0x652, 34⟩, ⟨0x653, 230⟩, ⟨0x655, 220⟩, ⟨0x657, 230⟩,
    ⟨0x65C, 220⟩, ⟨0x65D, 230⟩, ⟨0x65F, 220⟩, ⟨0x670, 35⟩, ⟨0x6D6, 230⟩, ⟨0x6E3, 220⟩, ⟨0x6E4, 230⟩,
    ⟨0x6EA, 220⟩, ⟨0x6EB, 230⟩, ⟨0x6ED, 220⟩, ⟨0x711, 36⟩, ⟨0x730, 230⟩, ⟨0x731, 220⟩, ⟨0x732, 230⟩,
    ⟨0x734, 220⟩, ⟨0x735, 230⟩, ⟨0x737, 220⟩, ⟨0x73A, 230⟩, ⟨0x73B, 220⟩, ⟨0x73D, 230⟩,
    ⟨0x73E, 220⟩, ⟨0x73F, 230⟩, ⟨0x742, 220⟩, ⟨0x743, 230⟩, ⟨0x744, 220⟩, ⟨0x745, 230⟩,
    ⟨0x746, 220⟩, ⟨0x747, 230⟩, ⟨0x748, 220⟩, ⟨0x749, 230⟩, ⟨0x7A6, 0⟩, ⟨0x7EB, 230⟩, ⟨0x7F2, 220⟩,
    ⟨0x7F3, 230⟩, ⟨0x7FD, 220⟩, ⟨0x816, 230⟩, ⟨0x859, 220⟩, ⟨0x898, 230⟩, ⟨0x899, 220⟩,
    ⟨0x89C, 230⟩, ⟨0x8CF, 220⟩, ⟨0x8D4, 230⟩, ⟨0x8E3, 220⟩, ⟨0x8E4, 230⟩, ⟨0x8E6, 220⟩,
    ⟨0x8E7, 230⟩, ⟨0x8E9, 220⟩, ⟨0x8EA, 230⟩, ⟨0x8ED, 220⟩, ⟨0x8F0, 27⟩, ⟨0x8F1, 28⟩, ⟨0x8F2, 29⟩,
    ⟨0x8F3, 230⟩, ⟨0x8F6, 220⟩, ⟨0x8F7, 230⟩, ⟨0x8F9, 220⟩, ⟨0x8FB, 230⟩, ⟨0x900, 0⟩, ⟨0x93C, 7⟩,
    ⟨0x93E, 0⟩, ⟨0x94D, 9⟩, ⟨0x94E, 0⟩, ⟨0x951, 230⟩, ⟨0x952, 220⟩, ⟨0x953, 230⟩, ⟨0x955, 0⟩,
    ⟨0x9BC, 7⟩, ⟨0x9BE, 0⟩, ⟨0x9CD, 9⟩, ⟨0x9D7, 0⟩, ⟨0x9FE, 230⟩, ⟨0xA01, 0⟩, ⟨0xA3C, 7⟩,
    ⟨0xA3E, 0⟩, ⟨0xA4D, 9⟩, ⟨0xA51, 0⟩, ⟨0xABC, 7⟩, ⟨0xABE, 0⟩, ⟨0xACD, 9⟩, ⟨0xAE2, 0⟩, ⟨0xB3C, 7⟩,
    ⟨0xB3E, 0⟩, ⟨0xB4D, 9⟩, ⟨0xB55, 0⟩, ⟨0xBCD, 9⟩, ⟨0xBD7, 0⟩, ⟨0xC3C, 7⟩, ⟨0xC3E, 0⟩, ⟨0xC4D, 9⟩,
    ⟨0xC55, 84⟩, ⟨0xC56, 91⟩, ⟨0xC62, 0⟩, ⟨0xCBC, 7⟩, ⟨0xCBE, 0⟩, ⟨0xCCD, 9⟩, ⟨0xCD5, 0⟩,
    ⟨0xD3B, 9⟩, ⟨0xD3E, 0⟩, ⟨0xD4D, 9⟩, ⟨0xD57, 0⟩, ⟨0xDCA, 9⟩, ⟨0xDCF, 0⟩, ⟨0xE38, 103⟩,
    ⟨0xE3A, 9⟩, ⟨0xE47, 0⟩, ⟨0xE48, 107⟩, ⟨0xE4C, 0⟩, ⟨0xEB8, 118⟩, ⟨0xEBA, 9⟩, ⟨0xEBB, 0⟩,
    ⟨0xEC8, 122⟩, ⟨0xECC, 0⟩, ⟨0xF18, 220⟩, ⟨0xF39, 216⟩, ⟨0xF3E, 0⟩, ⟨0xF71, 129⟩, ⟨0xF72, 130⟩,
    ⟨0xF73, 0⟩, ⟨0xF74, 132⟩, ⟨0xF75, 0⟩, ⟨0xF7A, 130⟩, ⟨0xF7E, 0⟩, ⟨0xF80, 130⟩, ⟨0xF81, 0⟩,
    ⟨0xF82, 230⟩, ⟨0xF84, 9⟩, ⟨0xF86, 230⟩, ⟨0xF8D, 0⟩, ⟨0xFC6, 220⟩, ⟨0x102B, 0⟩, ⟨0x1037, 7⟩,
    ⟨0x1038, 0⟩, ⟨0x1039, 9⟩, ⟨0x103B, 0⟩, ⟨0x108D, 220⟩, ⟨0x108F, 0⟩, ⟨0x135D, 230⟩, ⟨0x1712, 0⟩,
    ⟨0x1714, 9⟩, ⟨0x1732, 0⟩, ⟨0x1734, 9⟩, ⟨0x1752, 0⟩, ⟨0x17D2, 9⟩, ⟨0x17D3, 0⟩, ⟨0x17DD, 230⟩,
    ⟨0x180B, 0⟩, ⟨0x18A9, 228⟩, ⟨0x1920, 0⟩, ⟨0x1939, 222⟩, ⟨0x193A, 230⟩, ⟨0x193B, 220⟩,
    ⟨0x1A17, 230⟩, ⟨0x1A18, 220⟩, ⟨0x1A19, 0⟩, ⟨0x1A60, 9⟩, ⟨0x1A61, 0⟩, ⟨0x1A75, 230⟩,
    ⟨0x1A7F, 220⟩, ⟨0x1AB0, 230⟩, ⟨0x1AB5, 220⟩, ⟨0x1ABB, 230⟩, ⟨0x1ABD, 220⟩, ⟨0x1ABE, 0⟩,
    ⟨0x1ABF, 220⟩, ⟨0x1AC1, 230⟩, ⟨0x1AC3, 220⟩, ⟨0x1AC5, 230⟩, ⟨0x1ACA, 220⟩, ⟨0x1ACB, 230⟩,
    ⟨0x1B00, 0⟩, ⟨0x1B34, 7⟩, ⟨0x1B35, 0⟩, ⟨0x1B44, 9⟩, ⟨0x1B6B, 230⟩, ⟨0x1B6C, 220⟩, ⟨0x1B6D, 230⟩,
    ⟨0x1B80, 0⟩, ⟨0x1BAA, 9⟩, ⟨0x1BAC, 0⟩, ⟨0x1BE6, 7⟩, ⟨0x1BE7, 0⟩, ⟨0x1BF2, 9⟩, ⟨0x1C24, 0⟩,
    ⟨0x1C37, 7⟩, ⟨0x1CD0, 230⟩, ⟨0x1CD4, 1⟩, ⟨0x1CD5, 220⟩, ⟨0x1CDA, 230⟩, ⟨0x1CDC, 220⟩,
    ⟨0x1CE0, 230⟩, ⟨0x1CE1, 0⟩, ⟨0x1CE2, 1⟩, ⟨0x1CED, 220⟩, ⟨0x1CF4, 230⟩, ⟨0x1CF7, 0⟩,
    ⟨0x1CF8, 230⟩, ⟨0x1DC2, 220⟩, ⟨0x1DC3, 230⟩, ⟨0x1DCA, 220⟩, ⟨0x1DCB, 230⟩, ⟨0x1DCD, 234⟩,
    ⟨0x1DCE, 214⟩, ⟨0x1DCF, 220⟩, ⟨0x1DD0, 202⟩, ⟨0x1DD1, 230⟩, ⟨0x1DF6, 232⟩, ⟨0x1DF7, 228⟩,
    ⟨0x1DF9, 220⟩, ⟨0x1DFA, 218⟩, ⟨0x1DFB, 230⟩, ⟨0x1DFC, 233⟩, ⟨0x1DFD, 220⟩, ⟨0x1DFE, 230⟩,
    ⟨0x1DFF, 220⟩, ⟨0x20D0, 230⟩, ⟨0x20D2, 1⟩, ⟨0x20D4, 230⟩, ⟨0x20D8, 1⟩, ⟨0x20DB, 230⟩,
    ⟨0x20DD, 0⟩, ⟨0x20E1, 230⟩, ⟨0x20E2, 0⟩, ⟨0x20E5, 1⟩, ⟨0x20E7, 230⟩, ⟨0x20E8, 220⟩,
    ⟨0x20E9, 230⟩, ⟨0x20EA, 1⟩, ⟨0x20EC, 220⟩, ⟨0x20F0, 230⟩, ⟨0x2D7F, 9⟩, ⟨0x2DE0, 230⟩,
    ⟨0x302A, 218⟩, ⟨0x302B, 228⟩, ⟨0x302C, 232⟩, ⟨0x302D, 222⟩, ⟨0x302E, 224⟩, ⟨0x3099, 8⟩,
    ⟨0xA66F, 230⟩, ⟨0xA670, 0⟩, ⟨0xA674, 230⟩, ⟨0xA802, 0⟩, ⟨0xA806, 9⟩, ⟨0xA80B, 0⟩, ⟨0xA82C, 9⟩,
    ⟨0xA880, 0⟩, ⟨0xA8C4, 9⟩, ⟨0xA8C5, 0⟩, ⟨0xA8E0, 230⟩, ⟨0xA8FF, 0⟩, ⟨0xA92B, 220⟩, ⟨0xA947, 0⟩,
    ⟨0xA953, 9⟩, ⟨0xA980, 0⟩, ⟨0xA9B3, 7⟩, ⟨0xA9B4, 0⟩, ⟨0xA9C0, 9⟩, ⟨0xA9E5, 0⟩, ⟨0xAAB0, 230⟩,
    ⟨0xAAB4, 220⟩, ⟨0xAAB7, 230⟩, ⟨0xAAEB, 0⟩, ⟨0xAAF6, 9⟩, ⟨0xABE3, 0⟩, ⟨0xABED, 9⟩, ⟨0xFB1E, 26⟩,
    ⟨0xFE00, 0⟩, ⟨0xFE20, 230⟩, ⟨0xFE27, 220⟩, ⟨0xFE2E, 230⟩, ⟨0x101FD, 220⟩, ⟨0x10376, 230⟩,
    ⟨0x10A01, 0⟩, ⟨0x10A0D, 220⟩, ⟨0x10A0E, 0⟩, ⟨0x10A0F, 230⟩, ⟨0x10A39, 1⟩, ⟨0x10A3A, 220⟩,
    ⟨0x10A3F, 9⟩, ⟨0x10AE5, 230⟩, ⟨0x10AE6, 220⟩, ⟨0x10D24, 230⟩, ⟨0x10F46, 220⟩, ⟨0x10F48, 230⟩,
    ⟨0x10F4B, 220⟩, ⟨0x10F4C, 230⟩, ⟨0x10F4D, 220⟩, ⟨0x10F82, 230⟩, ⟨0x10F83, 220⟩, ⟨0x10F84, 230⟩,
    ⟨0x10F85, 220⟩, ⟨0x11000, 0⟩, ⟨0x11046, 9⟩, ⟨0x11073, 0⟩, ⟨0x1107F, 9⟩, ⟨0x11080, 0⟩,
    ⟨0x110B9, 9⟩, ⟨0x110BA, 7⟩, ⟨0x110C2, 0⟩, ⟨0x11100, 230⟩, ⟨0x11127, 0⟩, ⟨0x11133, 9⟩,
    ⟨0x11145, 0⟩, ⟨0x11173, 7⟩, ⟨0x11180, 0⟩, ⟨0x111C0, 9⟩, ⟨0x111C9, 0⟩, ⟨0x111CA, 7⟩,
    ⟨0x111CB, 0⟩, ⟨0x11235, 9⟩, ⟨0x11236, 7⟩, ⟨0x11237, 0⟩, ⟨0x112E9, 7⟩, ⟨0x112EA, 9⟩,
    ⟨0x11300, 0⟩, ⟨0x1133B, 7⟩, ⟨0x1133E, 0⟩, ⟨0x1134D, 9⟩, ⟨0x11357, 0⟩, ⟨0x11366, 230⟩,
    ⟨0x11435, 0⟩, ⟨0x11442, 9⟩, ⟨0x11443, 0⟩, ⟨0x11446, 7⟩, ⟨0x1145E, 230⟩, ⟨0x114B0, 0⟩,
    ⟨0x114C2, 9⟩, ⟨0x114C3, 7⟩, ⟨0x115AF, 0⟩, ⟨0x115BF, 9⟩, ⟨0x115C0, 7⟩, ⟨0x115DC, 0⟩,
    ⟨0x1163F, 9⟩, ⟨0x11640, 0⟩, ⟨0x116B6, 9⟩, ⟨0x116B7, 7⟩, ⟨0x1171D, 0⟩, ⟨0x1172B, 9⟩,
    ⟨0x1182C, 0⟩, ⟨0x11839, 9⟩, ⟨0x1183A, 7⟩, ⟨0x11930, 0⟩, ⟨0x1193D, 9⟩, ⟨0x11940, 0⟩,
    ⟨0x11943, 7⟩, ⟨0x119D1, 0⟩, ⟨0x119E0, 9⟩, ⟨0x119E4, 0⟩, ⟨0x11A34, 9⟩, ⟨0x11A35, 0⟩,
    ⟨0x11A47, 9⟩, ⟨0x11A51, 0⟩, ⟨0x11A99, 9⟩, ⟨0x11C2F, 0⟩, ⟨0x11C3F, 9⟩, ⟨0x11C92, 0⟩,
    ⟨0x11D42, 7⟩, ⟨0x11D43, 0⟩, ⟨0x11D44, 9⟩, ⟨0x11D47, 0⟩, ⟨0x11D97, 9⟩, ⟨0x11EF3, 0⟩,
    ⟨0x16AF0, 1⟩, ⟨0x16B30, 230⟩, ⟨0x16F4F, 0⟩, ⟨0x16FF0, 6⟩, ⟨0x1BC9D, 0⟩, ⟨0x1BC9E, 1⟩,
    ⟨0x1CF00, 0⟩, ⟨0x1D165, 216⟩, ⟨0x1D167, 1⟩, ⟨0x1D16D, 226⟩, ⟨0x1D16E, 216⟩, ⟨0x1D17B, 220⟩,
    ⟨0x1D185, 230⟩, ⟨0x1D18A, 220⟩, ⟨0x1D1AA, 230⟩, ⟨0x1DA00, 0⟩, ⟨0x1E000, 230⟩, ⟨0x1E8D0, 220⟩,
    ⟨0x1E944, 230⟩, ⟨0x1E94A, 7⟩, ⟨0xE0100, 0⟩]

/-- Whether a code point is a combining mark. -/
def isMark (point : Nat) : Bool := markChanges.containsPoint point

/-- The class of the last step at or below a point, when that is known to be among the `2 ^ bits`
steps from `base` on. -/
def classFrom (point : Nat) : (bits : Nat) → (base : Nat) → Nat
  | 0, base => (classSteps[base]?.map ClassStep.combiningClass).getD 0
  | bits + 1, base =>
    match classSteps[base + Nat.pow 2 bits]? with
    | some step =>
      if step.first ≤ point then classFrom point bits (base + Nat.pow 2 bits)
      else classFrom point bits base
    | none => classFrom point bits base

def combiningClass (point : Nat) : Nat :=
  if isMark point then classFrom point 9 0 else 0

end ExtensionAtlas.Text
