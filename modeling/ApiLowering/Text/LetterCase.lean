import ApiLowering.Text.Ranges

/-!
# Upper and lower case

The case of a character and its full case mappings, which may turn one character into several.

## Main definitions

* `Text.isUppercase`, `Text.isLowercase` — the properties of that name.
* `Text.uppercase`, `Text.lowercase` — the full mappings.
-/

namespace ApiLowering.Text

/-! ## Tables -/

/-- The upper-case characters beyond ASCII. -/
def uppercaseRanges : List (Nat × Nat) :=
  [(0xC0, 0xD6), (0xD8, 0xDE), (0x100, 0x100), (0x102, 0x102), (0x104, 0x104), (0x106, 0x106),
   (0x108, 0x108), (0x10A, 0x10A), (0x10C, 0x10C), (0x10E, 0x10E), (0x110, 0x110), (0x112, 0x112),
   (0x114, 0x114), (0x116, 0x116), (0x118, 0x118), (0x11A, 0x11A), (0x11C, 0x11C), (0x11E, 0x11E),
   (0x120, 0x120), (0x122, 0x122), (0x124, 0x124), (0x126, 0x126), (0x128, 0x128), (0x12A, 0x12A),
   (0x12C, 0x12C), (0x12E, 0x12E), (0x130, 0x130), (0x132, 0x132), (0x134, 0x134), (0x136, 0x136),
   (0x139, 0x139), (0x13B, 0x13B), (0x13D, 0x13D), (0x13F, 0x13F), (0x141, 0x141), (0x143, 0x143),
   (0x145, 0x145), (0x147, 0x147), (0x14A, 0x14A), (0x14C, 0x14C), (0x14E, 0x14E), (0x150, 0x150),
   (0x152, 0x152), (0x154, 0x154), (0x156, 0x156), (0x158, 0x158), (0x15A, 0x15A), (0x15C, 0x15C),
   (0x15E, 0x15E), (0x160, 0x160), (0x162, 0x162), (0x164, 0x164), (0x166, 0x166), (0x168, 0x168),
   (0x16A, 0x16A), (0x16C, 0x16C), (0x16E, 0x16E), (0x170, 0x170), (0x172, 0x172), (0x174, 0x174),
   (0x176, 0x176), (0x178, 0x179), (0x17B, 0x17B), (0x17D, 0x17D), (0x181, 0x182), (0x184, 0x184),
   (0x186, 0x187), (0x189, 0x18B), (0x18E, 0x191), (0x193, 0x194), (0x196, 0x198), (0x19C, 0x19D),
   (0x19F, 0x1A0), (0x1A2, 0x1A2), (0x1A4, 0x1A4), (0x1A6, 0x1A7), (0x1A9, 0x1A9), (0x1AC, 0x1AC),
   (0x1AE, 0x1AF), (0x1B1, 0x1B3), (0x1B5, 0x1B5), (0x1B7, 0x1B8), (0x1BC, 0x1BC), (0x1C4, 0x1C4),
   (0x1C7, 0x1C7), (0x1CA, 0x1CA), (0x1CD, 0x1CD), (0x1CF, 0x1CF), (0x1D1, 0x1D1), (0x1D3, 0x1D3),
   (0x1D5, 0x1D5), (0x1D7, 0x1D7), (0x1D9, 0x1D9), (0x1DB, 0x1DB), (0x1DE, 0x1DE), (0x1E0, 0x1E0),
   (0x1E2, 0x1E2), (0x1E4, 0x1E4), (0x1E6, 0x1E6), (0x1E8, 0x1E8), (0x1EA, 0x1EA), (0x1EC, 0x1EC),
   (0x1EE, 0x1EE), (0x1F1, 0x1F1), (0x1F4, 0x1F4), (0x1F6, 0x1F8), (0x1FA, 0x1FA), (0x1FC, 0x1FC),
   (0x1FE, 0x1FE), (0x200, 0x200), (0x202, 0x202), (0x204, 0x204), (0x206, 0x206), (0x208, 0x208),
   (0x20A, 0x20A), (0x20C, 0x20C), (0x20E, 0x20E), (0x210, 0x210), (0x212, 0x212), (0x214, 0x214),
   (0x216, 0x216), (0x218, 0x218), (0x21A, 0x21A), (0x21C, 0x21C), (0x21E, 0x21E), (0x220, 0x220),
   (0x222, 0x222), (0x224, 0x224), (0x226, 0x226), (0x228, 0x228), (0x22A, 0x22A), (0x22C, 0x22C),
   (0x22E, 0x22E), (0x230, 0x230), (0x232, 0x232), (0x23A, 0x23B), (0x23D, 0x23E), (0x241, 0x241),
   (0x243, 0x246), (0x248, 0x248), (0x24A, 0x24A), (0x24C, 0x24C), (0x24E, 0x24E), (0x370, 0x370),
   (0x372, 0x372), (0x376, 0x376), (0x37F, 0x37F), (0x386, 0x386), (0x388, 0x38A), (0x38C, 0x38C),
   (0x38E, 0x38F), (0x391, 0x3A1), (0x3A3, 0x3AB), (0x3CF, 0x3CF), (0x3D2, 0x3D4), (0x3D8, 0x3D8),
   (0x3DA, 0x3DA), (0x3DC, 0x3DC), (0x3DE, 0x3DE), (0x3E0, 0x3E0), (0x3E2, 0x3E2), (0x3E4, 0x3E4),
   (0x3E6, 0x3E6), (0x3E8, 0x3E8), (0x3EA, 0x3EA), (0x3EC, 0x3EC), (0x3EE, 0x3EE), (0x3F4, 0x3F4),
   (0x3F7, 0x3F7), (0x3F9, 0x3FA), (0x3FD, 0x42F), (0x460, 0x460), (0x462, 0x462), (0x464, 0x464),
   (0x466, 0x466), (0x468, 0x468), (0x46A, 0x46A), (0x46C, 0x46C), (0x46E, 0x46E), (0x470, 0x470),
   (0x472, 0x472), (0x474, 0x474), (0x476, 0x476), (0x478, 0x478), (0x47A, 0x47A), (0x47C, 0x47C),
   (0x47E, 0x47E), (0x480, 0x480), (0x48A, 0x48A), (0x48C, 0x48C), (0x48E, 0x48E), (0x490, 0x490),
   (0x492, 0x492), (0x494, 0x494), (0x496, 0x496), (0x498, 0x498), (0x49A, 0x49A), (0x49C, 0x49C),
   (0x49E, 0x49E), (0x4A0, 0x4A0), (0x4A2, 0x4A2), (0x4A4, 0x4A4), (0x4A6, 0x4A6), (0x4A8, 0x4A8),
   (0x4AA, 0x4AA), (0x4AC, 0x4AC), (0x4AE, 0x4AE), (0x4B0, 0x4B0), (0x4B2, 0x4B2), (0x4B4, 0x4B4),
   (0x4B6, 0x4B6), (0x4B8, 0x4B8), (0x4BA, 0x4BA), (0x4BC, 0x4BC), (0x4BE, 0x4BE), (0x4C0, 0x4C1),
   (0x4C3, 0x4C3), (0x4C5, 0x4C5), (0x4C7, 0x4C7), (0x4C9, 0x4C9), (0x4CB, 0x4CB), (0x4CD, 0x4CD),
   (0x4D0, 0x4D0), (0x4D2, 0x4D2), (0x4D4, 0x4D4), (0x4D6, 0x4D6), (0x4D8, 0x4D8), (0x4DA, 0x4DA),
   (0x4DC, 0x4DC), (0x4DE, 0x4DE), (0x4E0, 0x4E0), (0x4E2, 0x4E2), (0x4E4, 0x4E4), (0x4E6, 0x4E6),
   (0x4E8, 0x4E8), (0x4EA, 0x4EA), (0x4EC, 0x4EC), (0x4EE, 0x4EE), (0x4F0, 0x4F0), (0x4F2, 0x4F2),
   (0x4F4, 0x4F4), (0x4F6, 0x4F6), (0x4F8, 0x4F8), (0x4FA, 0x4FA), (0x4FC, 0x4FC), (0x4FE, 0x4FE),
   (0x500, 0x500), (0x502, 0x502), (0x504, 0x504), (0x506, 0x506), (0x508, 0x508), (0x50A, 0x50A),
   (0x50C, 0x50C), (0x50E, 0x50E), (0x510, 0x510), (0x512, 0x512), (0x514, 0x514), (0x516, 0x516),
   (0x518, 0x518), (0x51A, 0x51A), (0x51C, 0x51C), (0x51E, 0x51E), (0x520, 0x520), (0x522, 0x522),
   (0x524, 0x524), (0x526, 0x526), (0x528, 0x528), (0x52A, 0x52A), (0x52C, 0x52C), (0x52E, 0x52E),
   (0x531, 0x556), (0x10A0, 0x10C5), (0x10C7, 0x10C7), (0x10CD, 0x10CD), (0x13A0, 0x13F5),
   (0x1C89, 0x1C89), (0x1C90, 0x1CBA), (0x1CBD, 0x1CBF), (0x1E00, 0x1E00), (0x1E02, 0x1E02),
   (0x1E04, 0x1E04), (0x1E06, 0x1E06), (0x1E08, 0x1E08), (0x1E0A, 0x1E0A), (0x1E0C, 0x1E0C),
   (0x1E0E, 0x1E0E), (0x1E10, 0x1E10), (0x1E12, 0x1E12), (0x1E14, 0x1E14), (0x1E16, 0x1E16),
   (0x1E18, 0x1E18), (0x1E1A, 0x1E1A), (0x1E1C, 0x1E1C), (0x1E1E, 0x1E1E), (0x1E20, 0x1E20),
   (0x1E22, 0x1E22), (0x1E24, 0x1E24), (0x1E26, 0x1E26), (0x1E28, 0x1E28), (0x1E2A, 0x1E2A),
   (0x1E2C, 0x1E2C), (0x1E2E, 0x1E2E), (0x1E30, 0x1E30), (0x1E32, 0x1E32), (0x1E34, 0x1E34),
   (0x1E36, 0x1E36), (0x1E38, 0x1E38), (0x1E3A, 0x1E3A), (0x1E3C, 0x1E3C), (0x1E3E, 0x1E3E),
   (0x1E40, 0x1E40), (0x1E42, 0x1E42), (0x1E44, 0x1E44), (0x1E46, 0x1E46), (0x1E48, 0x1E48),
   (0x1E4A, 0x1E4A), (0x1E4C, 0x1E4C), (0x1E4E, 0x1E4E), (0x1E50, 0x1E50), (0x1E52, 0x1E52),
   (0x1E54, 0x1E54), (0x1E56, 0x1E56), (0x1E58, 0x1E58), (0x1E5A, 0x1E5A), (0x1E5C, 0x1E5C),
   (0x1E5E, 0x1E5E), (0x1E60, 0x1E60), (0x1E62, 0x1E62), (0x1E64, 0x1E64), (0x1E66, 0x1E66),
   (0x1E68, 0x1E68), (0x1E6A, 0x1E6A), (0x1E6C, 0x1E6C), (0x1E6E, 0x1E6E), (0x1E70, 0x1E70),
   (0x1E72, 0x1E72), (0x1E74, 0x1E74), (0x1E76, 0x1E76), (0x1E78, 0x1E78), (0x1E7A, 0x1E7A),
   (0x1E7C, 0x1E7C), (0x1E7E, 0x1E7E), (0x1E80, 0x1E80), (0x1E82, 0x1E82), (0x1E84, 0x1E84),
   (0x1E86, 0x1E86), (0x1E88, 0x1E88), (0x1E8A, 0x1E8A), (0x1E8C, 0x1E8C), (0x1E8E, 0x1E8E),
   (0x1E90, 0x1E90), (0x1E92, 0x1E92), (0x1E94, 0x1E94), (0x1E9E, 0x1E9E), (0x1EA0, 0x1EA0),
   (0x1EA2, 0x1EA2), (0x1EA4, 0x1EA4), (0x1EA6, 0x1EA6), (0x1EA8, 0x1EA8), (0x1EAA, 0x1EAA),
   (0x1EAC, 0x1EAC), (0x1EAE, 0x1EAE), (0x1EB0, 0x1EB0), (0x1EB2, 0x1EB2), (0x1EB4, 0x1EB4),
   (0x1EB6, 0x1EB6), (0x1EB8, 0x1EB8), (0x1EBA, 0x1EBA), (0x1EBC, 0x1EBC), (0x1EBE, 0x1EBE),
   (0x1EC0, 0x1EC0), (0x1EC2, 0x1EC2), (0x1EC4, 0x1EC4), (0x1EC6, 0x1EC6), (0x1EC8, 0x1EC8),
   (0x1ECA, 0x1ECA), (0x1ECC, 0x1ECC), (0x1ECE, 0x1ECE), (0x1ED0, 0x1ED0), (0x1ED2, 0x1ED2),
   (0x1ED4, 0x1ED4), (0x1ED6, 0x1ED6), (0x1ED8, 0x1ED8), (0x1EDA, 0x1EDA), (0x1EDC, 0x1EDC),
   (0x1EDE, 0x1EDE), (0x1EE0, 0x1EE0), (0x1EE2, 0x1EE2), (0x1EE4, 0x1EE4), (0x1EE6, 0x1EE6),
   (0x1EE8, 0x1EE8), (0x1EEA, 0x1EEA), (0x1EEC, 0x1EEC), (0x1EEE, 0x1EEE), (0x1EF0, 0x1EF0),
   (0x1EF2, 0x1EF2), (0x1EF4, 0x1EF4), (0x1EF6, 0x1EF6), (0x1EF8, 0x1EF8), (0x1EFA, 0x1EFA),
   (0x1EFC, 0x1EFC), (0x1EFE, 0x1EFE), (0x1F08, 0x1F0F), (0x1F18, 0x1F1D), (0x1F28, 0x1F2F),
   (0x1F38, 0x1F3F), (0x1F48, 0x1F4D), (0x1F59, 0x1F59), (0x1F5B, 0x1F5B), (0x1F5D, 0x1F5D),
   (0x1F5F, 0x1F5F), (0x1F68, 0x1F6F), (0x1FB8, 0x1FBB), (0x1FC8, 0x1FCB), (0x1FD8, 0x1FDB),
   (0x1FE8, 0x1FEC), (0x1FF8, 0x1FFB), (0x2102, 0x2102), (0x2107, 0x2107), (0x210B, 0x210D),
   (0x2110, 0x2112), (0x2115, 0x2115), (0x2119, 0x211D), (0x2124, 0x2124), (0x2126, 0x2126),
   (0x2128, 0x2128), (0x212A, 0x212D), (0x2130, 0x2133), (0x213E, 0x213F), (0x2145, 0x2145),
   (0x2160, 0x216F), (0x2183, 0x2183), (0x24B6, 0x24CF), (0x2C00, 0x2C2F), (0x2C60, 0x2C60),
   (0x2C62, 0x2C64), (0x2C67, 0x2C67), (0x2C69, 0x2C69), (0x2C6B, 0x2C6B), (0x2C6D, 0x2C70),
   (0x2C72, 0x2C72), (0x2C75, 0x2C75), (0x2C7E, 0x2C80), (0x2C82, 0x2C82), (0x2C84, 0x2C84),
   (0x2C86, 0x2C86), (0x2C88, 0x2C88), (0x2C8A, 0x2C8A), (0x2C8C, 0x2C8C), (0x2C8E, 0x2C8E),
   (0x2C90, 0x2C90), (0x2C92, 0x2C92), (0x2C94, 0x2C94), (0x2C96, 0x2C96), (0x2C98, 0x2C98),
   (0x2C9A, 0x2C9A), (0x2C9C, 0x2C9C), (0x2C9E, 0x2C9E), (0x2CA0, 0x2CA0), (0x2CA2, 0x2CA2),
   (0x2CA4, 0x2CA4), (0x2CA6, 0x2CA6), (0x2CA8, 0x2CA8), (0x2CAA, 0x2CAA), (0x2CAC, 0x2CAC),
   (0x2CAE, 0x2CAE), (0x2CB0, 0x2CB0), (0x2CB2, 0x2CB2), (0x2CB4, 0x2CB4), (0x2CB6, 0x2CB6),
   (0x2CB8, 0x2CB8), (0x2CBA, 0x2CBA), (0x2CBC, 0x2CBC), (0x2CBE, 0x2CBE), (0x2CC0, 0x2CC0),
   (0x2CC2, 0x2CC2), (0x2CC4, 0x2CC4), (0x2CC6, 0x2CC6), (0x2CC8, 0x2CC8), (0x2CCA, 0x2CCA),
   (0x2CCC, 0x2CCC), (0x2CCE, 0x2CCE), (0x2CD0, 0x2CD0), (0x2CD2, 0x2CD2), (0x2CD4, 0x2CD4),
   (0x2CD6, 0x2CD6), (0x2CD8, 0x2CD8), (0x2CDA, 0x2CDA), (0x2CDC, 0x2CDC), (0x2CDE, 0x2CDE),
   (0x2CE0, 0x2CE0), (0x2CE2, 0x2CE2), (0x2CEB, 0x2CEB), (0x2CED, 0x2CED), (0x2CF2, 0x2CF2),
   (0xA640, 0xA640), (0xA642, 0xA642), (0xA644, 0xA644), (0xA646, 0xA646), (0xA648, 0xA648),
   (0xA64A, 0xA64A), (0xA64C, 0xA64C), (0xA64E, 0xA64E), (0xA650, 0xA650), (0xA652, 0xA652),
   (0xA654, 0xA654), (0xA656, 0xA656), (0xA658, 0xA658), (0xA65A, 0xA65A), (0xA65C, 0xA65C),
   (0xA65E, 0xA65E), (0xA660, 0xA660), (0xA662, 0xA662), (0xA664, 0xA664), (0xA666, 0xA666),
   (0xA668, 0xA668), (0xA66A, 0xA66A), (0xA66C, 0xA66C), (0xA680, 0xA680), (0xA682, 0xA682),
   (0xA684, 0xA684), (0xA686, 0xA686), (0xA688, 0xA688), (0xA68A, 0xA68A), (0xA68C, 0xA68C),
   (0xA68E, 0xA68E), (0xA690, 0xA690), (0xA692, 0xA692), (0xA694, 0xA694), (0xA696, 0xA696),
   (0xA698, 0xA698), (0xA69A, 0xA69A), (0xA722, 0xA722), (0xA724, 0xA724), (0xA726, 0xA726),
   (0xA728, 0xA728), (0xA72A, 0xA72A), (0xA72C, 0xA72C), (0xA72E, 0xA72E), (0xA732, 0xA732),
   (0xA734, 0xA734), (0xA736, 0xA736), (0xA738, 0xA738), (0xA73A, 0xA73A), (0xA73C, 0xA73C),
   (0xA73E, 0xA73E), (0xA740, 0xA740), (0xA742, 0xA742), (0xA744, 0xA744), (0xA746, 0xA746),
   (0xA748, 0xA748), (0xA74A, 0xA74A), (0xA74C, 0xA74C), (0xA74E, 0xA74E), (0xA750, 0xA750),
   (0xA752, 0xA752), (0xA754, 0xA754), (0xA756, 0xA756), (0xA758, 0xA758), (0xA75A, 0xA75A),
   (0xA75C, 0xA75C), (0xA75E, 0xA75E), (0xA760, 0xA760), (0xA762, 0xA762), (0xA764, 0xA764),
   (0xA766, 0xA766), (0xA768, 0xA768), (0xA76A, 0xA76A), (0xA76C, 0xA76C), (0xA76E, 0xA76E),
   (0xA779, 0xA779), (0xA77B, 0xA77B), (0xA77D, 0xA77E), (0xA780, 0xA780), (0xA782, 0xA782),
   (0xA784, 0xA784), (0xA786, 0xA786), (0xA78B, 0xA78B), (0xA78D, 0xA78D), (0xA790, 0xA790),
   (0xA792, 0xA792), (0xA796, 0xA796), (0xA798, 0xA798), (0xA79A, 0xA79A), (0xA79C, 0xA79C),
   (0xA79E, 0xA79E), (0xA7A0, 0xA7A0), (0xA7A2, 0xA7A2), (0xA7A4, 0xA7A4), (0xA7A6, 0xA7A6),
   (0xA7A8, 0xA7A8), (0xA7AA, 0xA7AE), (0xA7B0, 0xA7B4), (0xA7B6, 0xA7B6), (0xA7B8, 0xA7B8),
   (0xA7BA, 0xA7BA), (0xA7BC, 0xA7BC), (0xA7BE, 0xA7BE), (0xA7C0, 0xA7C0), (0xA7C2, 0xA7C2),
   (0xA7C4, 0xA7C7), (0xA7C9, 0xA7C9), (0xA7CB, 0xA7CC), (0xA7CE, 0xA7CE), (0xA7D0, 0xA7D0),
   (0xA7D2, 0xA7D2), (0xA7D4, 0xA7D4), (0xA7D6, 0xA7D6), (0xA7D8, 0xA7D8), (0xA7DA, 0xA7DA),
   (0xA7DC, 0xA7DC), (0xA7F5, 0xA7F5), (0xFF21, 0xFF3A), (0x10400, 0x10427), (0x104B0, 0x104D3),
   (0x10570, 0x1057A), (0x1057C, 0x1058A), (0x1058C, 0x10592), (0x10594, 0x10595),
   (0x10C80, 0x10CB2), (0x10D50, 0x10D65), (0x118A0, 0x118BF), (0x16E40, 0x16E5F),
   (0x16EA0, 0x16EB8), (0x1D400, 0x1D419), (0x1D434, 0x1D44D), (0x1D468, 0x1D481),
   (0x1D49C, 0x1D49C), (0x1D49E, 0x1D49F), (0x1D4A2, 0x1D4A2), (0x1D4A5, 0x1D4A6),
   (0x1D4A9, 0x1D4AC), (0x1D4AE, 0x1D4B5), (0x1D4D0, 0x1D4E9), (0x1D504, 0x1D505),
   (0x1D507, 0x1D50A), (0x1D50D, 0x1D514), (0x1D516, 0x1D51C), (0x1D538, 0x1D539),
   (0x1D53B, 0x1D53E), (0x1D540, 0x1D544), (0x1D546, 0x1D546), (0x1D54A, 0x1D550),
   (0x1D56C, 0x1D585), (0x1D5A0, 0x1D5B9), (0x1D5D4, 0x1D5ED), (0x1D608, 0x1D621),
   (0x1D63C, 0x1D655), (0x1D670, 0x1D689), (0x1D6A8, 0x1D6C0), (0x1D6E2, 0x1D6FA),
   (0x1D71C, 0x1D734), (0x1D756, 0x1D76E), (0x1D790, 0x1D7A8), (0x1D7CA, 0x1D7CA),
   (0x1E900, 0x1E921), (0x1F130, 0x1F149), (0x1F150, 0x1F169), (0x1F170, 0x1F189)]

/-- The lower-case characters beyond ASCII. -/
def lowercaseRanges : List (Nat × Nat) :=
  [(0xAA, 0xAA), (0xB5, 0xB5), (0xBA, 0xBA), (0xDF, 0xF6), (0xF8, 0xFF), (0x101, 0x101),
   (0x103, 0x103), (0x105, 0x105), (0x107, 0x107), (0x109, 0x109), (0x10B, 0x10B), (0x10D, 0x10D),
   (0x10F, 0x10F), (0x111, 0x111), (0x113, 0x113), (0x115, 0x115), (0x117, 0x117), (0x119, 0x119),
   (0x11B, 0x11B), (0x11D, 0x11D), (0x11F, 0x11F), (0x121, 0x121), (0x123, 0x123), (0x125, 0x125),
   (0x127, 0x127), (0x129, 0x129), (0x12B, 0x12B), (0x12D, 0x12D), (0x12F, 0x12F), (0x131, 0x131),
   (0x133, 0x133), (0x135, 0x135), (0x137, 0x138), (0x13A, 0x13A), (0x13C, 0x13C), (0x13E, 0x13E),
   (0x140, 0x140), (0x142, 0x142), (0x144, 0x144), (0x146, 0x146), (0x148, 0x149), (0x14B, 0x14B),
   (0x14D, 0x14D), (0x14F, 0x14F), (0x151, 0x151), (0x153, 0x153), (0x155, 0x155), (0x157, 0x157),
   (0x159, 0x159), (0x15B, 0x15B), (0x15D, 0x15D), (0x15F, 0x15F), (0x161, 0x161), (0x163, 0x163),
   (0x165, 0x165), (0x167, 0x167), (0x169, 0x169), (0x16B, 0x16B), (0x16D, 0x16D), (0x16F, 0x16F),
   (0x171, 0x171), (0x173, 0x173), (0x175, 0x175), (0x177, 0x177), (0x17A, 0x17A), (0x17C, 0x17C),
   (0x17E, 0x180), (0x183, 0x183), (0x185, 0x185), (0x188, 0x188), (0x18C, 0x18D), (0x192, 0x192),
   (0x195, 0x195), (0x199, 0x19B), (0x19E, 0x19E), (0x1A1, 0x1A1), (0x1A3, 0x1A3), (0x1A5, 0x1A5),
   (0x1A8, 0x1A8), (0x1AA, 0x1AB), (0x1AD, 0x1AD), (0x1B0, 0x1B0), (0x1B4, 0x1B4), (0x1B6, 0x1B6),
   (0x1B9, 0x1BA), (0x1BD, 0x1BF), (0x1C6, 0x1C6), (0x1C9, 0x1C9), (0x1CC, 0x1CC), (0x1CE, 0x1CE),
   (0x1D0, 0x1D0), (0x1D2, 0x1D2), (0x1D4, 0x1D4), (0x1D6, 0x1D6), (0x1D8, 0x1D8), (0x1DA, 0x1DA),
   (0x1DC, 0x1DD), (0x1DF, 0x1DF), (0x1E1, 0x1E1), (0x1E3, 0x1E3), (0x1E5, 0x1E5), (0x1E7, 0x1E7),
   (0x1E9, 0x1E9), (0x1EB, 0x1EB), (0x1ED, 0x1ED), (0x1EF, 0x1F0), (0x1F3, 0x1F3), (0x1F5, 0x1F5),
   (0x1F9, 0x1F9), (0x1FB, 0x1FB), (0x1FD, 0x1FD), (0x1FF, 0x1FF), (0x201, 0x201), (0x203, 0x203),
   (0x205, 0x205), (0x207, 0x207), (0x209, 0x209), (0x20B, 0x20B), (0x20D, 0x20D), (0x20F, 0x20F),
   (0x211, 0x211), (0x213, 0x213), (0x215, 0x215), (0x217, 0x217), (0x219, 0x219), (0x21B, 0x21B),
   (0x21D, 0x21D), (0x21F, 0x21F), (0x221, 0x221), (0x223, 0x223), (0x225, 0x225), (0x227, 0x227),
   (0x229, 0x229), (0x22B, 0x22B), (0x22D, 0x22D), (0x22F, 0x22F), (0x231, 0x231), (0x233, 0x239),
   (0x23C, 0x23C), (0x23F, 0x240), (0x242, 0x242), (0x247, 0x247), (0x249, 0x249), (0x24B, 0x24B),
   (0x24D, 0x24D), (0x24F, 0x293), (0x296, 0x2B8), (0x2C0, 0x2C1), (0x2E0, 0x2E4), (0x345, 0x345),
   (0x371, 0x371), (0x373, 0x373), (0x377, 0x377), (0x37A, 0x37D), (0x390, 0x390), (0x3AC, 0x3CE),
   (0x3D0, 0x3D1), (0x3D5, 0x3D7), (0x3D9, 0x3D9), (0x3DB, 0x3DB), (0x3DD, 0x3DD), (0x3DF, 0x3DF),
   (0x3E1, 0x3E1), (0x3E3, 0x3E3), (0x3E5, 0x3E5), (0x3E7, 0x3E7), (0x3E9, 0x3E9), (0x3EB, 0x3EB),
   (0x3ED, 0x3ED), (0x3EF, 0x3F3), (0x3F5, 0x3F5), (0x3F8, 0x3F8), (0x3FB, 0x3FC), (0x430, 0x45F),
   (0x461, 0x461), (0x463, 0x463), (0x465, 0x465), (0x467, 0x467), (0x469, 0x469), (0x46B, 0x46B),
   (0x46D, 0x46D), (0x46F, 0x46F), (0x471, 0x471), (0x473, 0x473), (0x475, 0x475), (0x477, 0x477),
   (0x479, 0x479), (0x47B, 0x47B), (0x47D, 0x47D), (0x47F, 0x47F), (0x481, 0x481), (0x48B, 0x48B),
   (0x48D, 0x48D), (0x48F, 0x48F), (0x491, 0x491), (0x493, 0x493), (0x495, 0x495), (0x497, 0x497),
   (0x499, 0x499), (0x49B, 0x49B), (0x49D, 0x49D), (0x49F, 0x49F), (0x4A1, 0x4A1), (0x4A3, 0x4A3),
   (0x4A5, 0x4A5), (0x4A7, 0x4A7), (0x4A9, 0x4A9), (0x4AB, 0x4AB), (0x4AD, 0x4AD), (0x4AF, 0x4AF),
   (0x4B1, 0x4B1), (0x4B3, 0x4B3), (0x4B5, 0x4B5), (0x4B7, 0x4B7), (0x4B9, 0x4B9), (0x4BB, 0x4BB),
   (0x4BD, 0x4BD), (0x4BF, 0x4BF), (0x4C2, 0x4C2), (0x4C4, 0x4C4), (0x4C6, 0x4C6), (0x4C8, 0x4C8),
   (0x4CA, 0x4CA), (0x4CC, 0x4CC), (0x4CE, 0x4CF), (0x4D1, 0x4D1), (0x4D3, 0x4D3), (0x4D5, 0x4D5),
   (0x4D7, 0x4D7), (0x4D9, 0x4D9), (0x4DB, 0x4DB), (0x4DD, 0x4DD), (0x4DF, 0x4DF), (0x4E1, 0x4E1),
   (0x4E3, 0x4E3), (0x4E5, 0x4E5), (0x4E7, 0x4E7), (0x4E9, 0x4E9), (0x4EB, 0x4EB), (0x4ED, 0x4ED),
   (0x4EF, 0x4EF), (0x4F1, 0x4F1), (0x4F3, 0x4F3), (0x4F5, 0x4F5), (0x4F7, 0x4F7), (0x4F9, 0x4F9),
   (0x4FB, 0x4FB), (0x4FD, 0x4FD), (0x4FF, 0x4FF), (0x501, 0x501), (0x503, 0x503), (0x505, 0x505),
   (0x507, 0x507), (0x509, 0x509), (0x50B, 0x50B), (0x50D, 0x50D), (0x50F, 0x50F), (0x511, 0x511),
   (0x513, 0x513), (0x515, 0x515), (0x517, 0x517), (0x519, 0x519), (0x51B, 0x51B), (0x51D, 0x51D),
   (0x51F, 0x51F), (0x521, 0x521), (0x523, 0x523), (0x525, 0x525), (0x527, 0x527), (0x529, 0x529),
   (0x52B, 0x52B), (0x52D, 0x52D), (0x52F, 0x52F), (0x560, 0x588), (0x10D0, 0x10FA),
   (0x10FC, 0x10FF), (0x13F8, 0x13FD), (0x1C80, 0x1C88), (0x1C8A, 0x1C8A), (0x1D00, 0x1DBF),
   (0x1E01, 0x1E01), (0x1E03, 0x1E03), (0x1E05, 0x1E05), (0x1E07, 0x1E07), (0x1E09, 0x1E09),
   (0x1E0B, 0x1E0B), (0x1E0D, 0x1E0D), (0x1E0F, 0x1E0F), (0x1E11, 0x1E11), (0x1E13, 0x1E13),
   (0x1E15, 0x1E15), (0x1E17, 0x1E17), (0x1E19, 0x1E19), (0x1E1B, 0x1E1B), (0x1E1D, 0x1E1D),
   (0x1E1F, 0x1E1F), (0x1E21, 0x1E21), (0x1E23, 0x1E23), (0x1E25, 0x1E25), (0x1E27, 0x1E27),
   (0x1E29, 0x1E29), (0x1E2B, 0x1E2B), (0x1E2D, 0x1E2D), (0x1E2F, 0x1E2F), (0x1E31, 0x1E31),
   (0x1E33, 0x1E33), (0x1E35, 0x1E35), (0x1E37, 0x1E37), (0x1E39, 0x1E39), (0x1E3B, 0x1E3B),
   (0x1E3D, 0x1E3D), (0x1E3F, 0x1E3F), (0x1E41, 0x1E41), (0x1E43, 0x1E43), (0x1E45, 0x1E45),
   (0x1E47, 0x1E47), (0x1E49, 0x1E49), (0x1E4B, 0x1E4B), (0x1E4D, 0x1E4D), (0x1E4F, 0x1E4F),
   (0x1E51, 0x1E51), (0x1E53, 0x1E53), (0x1E55, 0x1E55), (0x1E57, 0x1E57), (0x1E59, 0x1E59),
   (0x1E5B, 0x1E5B), (0x1E5D, 0x1E5D), (0x1E5F, 0x1E5F), (0x1E61, 0x1E61), (0x1E63, 0x1E63),
   (0x1E65, 0x1E65), (0x1E67, 0x1E67), (0x1E69, 0x1E69), (0x1E6B, 0x1E6B), (0x1E6D, 0x1E6D),
   (0x1E6F, 0x1E6F), (0x1E71, 0x1E71), (0x1E73, 0x1E73), (0x1E75, 0x1E75), (0x1E77, 0x1E77),
   (0x1E79, 0x1E79), (0x1E7B, 0x1E7B), (0x1E7D, 0x1E7D), (0x1E7F, 0x1E7F), (0x1E81, 0x1E81),
   (0x1E83, 0x1E83), (0x1E85, 0x1E85), (0x1E87, 0x1E87), (0x1E89, 0x1E89), (0x1E8B, 0x1E8B),
   (0x1E8D, 0x1E8D), (0x1E8F, 0x1E8F), (0x1E91, 0x1E91), (0x1E93, 0x1E93), (0x1E95, 0x1E9D),
   (0x1E9F, 0x1E9F), (0x1EA1, 0x1EA1), (0x1EA3, 0x1EA3), (0x1EA5, 0x1EA5), (0x1EA7, 0x1EA7),
   (0x1EA9, 0x1EA9), (0x1EAB, 0x1EAB), (0x1EAD, 0x1EAD), (0x1EAF, 0x1EAF), (0x1EB1, 0x1EB1),
   (0x1EB3, 0x1EB3), (0x1EB5, 0x1EB5), (0x1EB7, 0x1EB7), (0x1EB9, 0x1EB9), (0x1EBB, 0x1EBB),
   (0x1EBD, 0x1EBD), (0x1EBF, 0x1EBF), (0x1EC1, 0x1EC1), (0x1EC3, 0x1EC3), (0x1EC5, 0x1EC5),
   (0x1EC7, 0x1EC7), (0x1EC9, 0x1EC9), (0x1ECB, 0x1ECB), (0x1ECD, 0x1ECD), (0x1ECF, 0x1ECF),
   (0x1ED1, 0x1ED1), (0x1ED3, 0x1ED3), (0x1ED5, 0x1ED5), (0x1ED7, 0x1ED7), (0x1ED9, 0x1ED9),
   (0x1EDB, 0x1EDB), (0x1EDD, 0x1EDD), (0x1EDF, 0x1EDF), (0x1EE1, 0x1EE1), (0x1EE3, 0x1EE3),
   (0x1EE5, 0x1EE5), (0x1EE7, 0x1EE7), (0x1EE9, 0x1EE9), (0x1EEB, 0x1EEB), (0x1EED, 0x1EED),
   (0x1EEF, 0x1EEF), (0x1EF1, 0x1EF1), (0x1EF3, 0x1EF3), (0x1EF5, 0x1EF5), (0x1EF7, 0x1EF7),
   (0x1EF9, 0x1EF9), (0x1EFB, 0x1EFB), (0x1EFD, 0x1EFD), (0x1EFF, 0x1F07), (0x1F10, 0x1F15),
   (0x1F20, 0x1F27), (0x1F30, 0x1F37), (0x1F40, 0x1F45), (0x1F50, 0x1F57), (0x1F60, 0x1F67),
   (0x1F70, 0x1F7D), (0x1F80, 0x1F87), (0x1F90, 0x1F97), (0x1FA0, 0x1FA7), (0x1FB0, 0x1FB4),
   (0x1FB6, 0x1FB7), (0x1FBE, 0x1FBE), (0x1FC2, 0x1FC4), (0x1FC6, 0x1FC7), (0x1FD0, 0x1FD3),
   (0x1FD6, 0x1FD7), (0x1FE0, 0x1FE7), (0x1FF2, 0x1FF4), (0x1FF6, 0x1FF7), (0x2071, 0x2071),
   (0x207F, 0x207F), (0x2090, 0x209C), (0x210A, 0x210A), (0x210E, 0x210F), (0x2113, 0x2113),
   (0x212F, 0x212F), (0x2134, 0x2134), (0x2139, 0x2139), (0x213C, 0x213D), (0x2146, 0x2149),
   (0x214E, 0x214E), (0x2170, 0x217F), (0x2184, 0x2184), (0x24D0, 0x24E9), (0x2C30, 0x2C5F),
   (0x2C61, 0x2C61), (0x2C65, 0x2C66), (0x2C68, 0x2C68), (0x2C6A, 0x2C6A), (0x2C6C, 0x2C6C),
   (0x2C71, 0x2C71), (0x2C73, 0x2C74), (0x2C76, 0x2C7D), (0x2C81, 0x2C81), (0x2C83, 0x2C83),
   (0x2C85, 0x2C85), (0x2C87, 0x2C87), (0x2C89, 0x2C89), (0x2C8B, 0x2C8B), (0x2C8D, 0x2C8D),
   (0x2C8F, 0x2C8F), (0x2C91, 0x2C91), (0x2C93, 0x2C93), (0x2C95, 0x2C95), (0x2C97, 0x2C97),
   (0x2C99, 0x2C99), (0x2C9B, 0x2C9B), (0x2C9D, 0x2C9D), (0x2C9F, 0x2C9F), (0x2CA1, 0x2CA1),
   (0x2CA3, 0x2CA3), (0x2CA5, 0x2CA5), (0x2CA7, 0x2CA7), (0x2CA9, 0x2CA9), (0x2CAB, 0x2CAB),
   (0x2CAD, 0x2CAD), (0x2CAF, 0x2CAF), (0x2CB1, 0x2CB1), (0x2CB3, 0x2CB3), (0x2CB5, 0x2CB5),
   (0x2CB7, 0x2CB7), (0x2CB9, 0x2CB9), (0x2CBB, 0x2CBB), (0x2CBD, 0x2CBD), (0x2CBF, 0x2CBF),
   (0x2CC1, 0x2CC1), (0x2CC3, 0x2CC3), (0x2CC5, 0x2CC5), (0x2CC7, 0x2CC7), (0x2CC9, 0x2CC9),
   (0x2CCB, 0x2CCB), (0x2CCD, 0x2CCD), (0x2CCF, 0x2CCF), (0x2CD1, 0x2CD1), (0x2CD3, 0x2CD3),
   (0x2CD5, 0x2CD5), (0x2CD7, 0x2CD7), (0x2CD9, 0x2CD9), (0x2CDB, 0x2CDB), (0x2CDD, 0x2CDD),
   (0x2CDF, 0x2CDF), (0x2CE1, 0x2CE1), (0x2CE3, 0x2CE4), (0x2CEC, 0x2CEC), (0x2CEE, 0x2CEE),
   (0x2CF3, 0x2CF3), (0x2D00, 0x2D25), (0x2D27, 0x2D27), (0x2D2D, 0x2D2D), (0xA641, 0xA641),
   (0xA643, 0xA643), (0xA645, 0xA645), (0xA647, 0xA647), (0xA649, 0xA649), (0xA64B, 0xA64B),
   (0xA64D, 0xA64D), (0xA64F, 0xA64F), (0xA651, 0xA651), (0xA653, 0xA653), (0xA655, 0xA655),
   (0xA657, 0xA657), (0xA659, 0xA659), (0xA65B, 0xA65B), (0xA65D, 0xA65D), (0xA65F, 0xA65F),
   (0xA661, 0xA661), (0xA663, 0xA663), (0xA665, 0xA665), (0xA667, 0xA667), (0xA669, 0xA669),
   (0xA66B, 0xA66B), (0xA66D, 0xA66D), (0xA681, 0xA681), (0xA683, 0xA683), (0xA685, 0xA685),
   (0xA687, 0xA687), (0xA689, 0xA689), (0xA68B, 0xA68B), (0xA68D, 0xA68D), (0xA68F, 0xA68F),
   (0xA691, 0xA691), (0xA693, 0xA693), (0xA695, 0xA695), (0xA697, 0xA697), (0xA699, 0xA699),
   (0xA69B, 0xA69D), (0xA723, 0xA723), (0xA725, 0xA725), (0xA727, 0xA727), (0xA729, 0xA729),
   (0xA72B, 0xA72B), (0xA72D, 0xA72D), (0xA72F, 0xA731), (0xA733, 0xA733), (0xA735, 0xA735),
   (0xA737, 0xA737), (0xA739, 0xA739), (0xA73B, 0xA73B), (0xA73D, 0xA73D), (0xA73F, 0xA73F),
   (0xA741, 0xA741), (0xA743, 0xA743), (0xA745, 0xA745), (0xA747, 0xA747), (0xA749, 0xA749),
   (0xA74B, 0xA74B), (0xA74D, 0xA74D), (0xA74F, 0xA74F), (0xA751, 0xA751), (0xA753, 0xA753),
   (0xA755, 0xA755), (0xA757, 0xA757), (0xA759, 0xA759), (0xA75B, 0xA75B), (0xA75D, 0xA75D),
   (0xA75F, 0xA75F), (0xA761, 0xA761), (0xA763, 0xA763), (0xA765, 0xA765), (0xA767, 0xA767),
   (0xA769, 0xA769), (0xA76B, 0xA76B), (0xA76D, 0xA76D), (0xA76F, 0xA778), (0xA77A, 0xA77A),
   (0xA77C, 0xA77C), (0xA77F, 0xA77F), (0xA781, 0xA781), (0xA783, 0xA783), (0xA785, 0xA785),
   (0xA787, 0xA787), (0xA78C, 0xA78C), (0xA78E, 0xA78E), (0xA791, 0xA791), (0xA793, 0xA795),
   (0xA797, 0xA797), (0xA799, 0xA799), (0xA79B, 0xA79B), (0xA79D, 0xA79D), (0xA79F, 0xA79F),
   (0xA7A1, 0xA7A1), (0xA7A3, 0xA7A3), (0xA7A5, 0xA7A5), (0xA7A7, 0xA7A7), (0xA7A9, 0xA7A9),
   (0xA7AF, 0xA7AF), (0xA7B5, 0xA7B5), (0xA7B7, 0xA7B7), (0xA7B9, 0xA7B9), (0xA7BB, 0xA7BB),
   (0xA7BD, 0xA7BD), (0xA7BF, 0xA7BF), (0xA7C1, 0xA7C1), (0xA7C3, 0xA7C3), (0xA7C8, 0xA7C8),
   (0xA7CA, 0xA7CA), (0xA7CD, 0xA7CD), (0xA7CF, 0xA7CF), (0xA7D1, 0xA7D1), (0xA7D3, 0xA7D3),
   (0xA7D5, 0xA7D5), (0xA7D7, 0xA7D7), (0xA7D9, 0xA7D9), (0xA7DB, 0xA7DB), (0xA7F1, 0xA7F4),
   (0xA7F6, 0xA7F6), (0xA7F8, 0xA7FA), (0xAB30, 0xAB5A), (0xAB5C, 0xAB69), (0xAB70, 0xABBF),
   (0xFB00, 0xFB06), (0xFB13, 0xFB17), (0xFF41, 0xFF5A), (0x10428, 0x1044F), (0x104D8, 0x104FB),
   (0x10597, 0x105A1), (0x105A3, 0x105B1), (0x105B3, 0x105B9), (0x105BB, 0x105BC),
   (0x10780, 0x10780), (0x10783, 0x10785), (0x10787, 0x107B0), (0x107B2, 0x107BA),
   (0x10CC0, 0x10CF2), (0x10D70, 0x10D85), (0x118C0, 0x118DF), (0x16E60, 0x16E7F),
   (0x16EBB, 0x16ED3), (0x1D41A, 0x1D433), (0x1D44E, 0x1D454), (0x1D456, 0x1D467),
   (0x1D482, 0x1D49B), (0x1D4B6, 0x1D4B9), (0x1D4BB, 0x1D4BB), (0x1D4BD, 0x1D4C3),
   (0x1D4C5, 0x1D4CF), (0x1D4EA, 0x1D503), (0x1D51E, 0x1D537), (0x1D552, 0x1D56B),
   (0x1D586, 0x1D59F), (0x1D5BA, 0x1D5D3), (0x1D5EE, 0x1D607), (0x1D622, 0x1D63B),
   (0x1D656, 0x1D66F), (0x1D68A, 0x1D6A5), (0x1D6C2, 0x1D6DA), (0x1D6DC, 0x1D6E1),
   (0x1D6FC, 0x1D714), (0x1D716, 0x1D71B), (0x1D736, 0x1D74E), (0x1D750, 0x1D755),
   (0x1D770, 0x1D788), (0x1D78A, 0x1D78F), (0x1D7AA, 0x1D7C2), (0x1D7C4, 0x1D7C9),
   (0x1D7CB, 0x1D7CB), (0x1DF00, 0x1DF09), (0x1DF0B, 0x1DF1E), (0x1DF25, 0x1DF2A),
   (0x1E030, 0x1E06D), (0x1E922, 0x1E943)]

/-- The characters beyond ASCII whose upper-case form is one other character. -/
def uppercaseShifts : List Shift :=
  [(0xB5, 0xB5, 1, 743), (0xE0, 0xF6, 1, -32), (0xF8, 0xFE, 1, -32), (0xFF, 0xFF, 1, 121),
   (0x101, 0x12F, 2, -1), (0x131, 0x131, 1, -232), (0x133, 0x137, 2, -1), (0x13A, 0x148, 2, -1),
   (0x14B, 0x177, 2, -1), (0x17A, 0x17E, 2, -1), (0x17F, 0x17F, 1, -300), (0x180, 0x180, 1, 195),
   (0x183, 0x185, 2, -1), (0x188, 0x188, 1, -1), (0x18C, 0x18C, 1, -1), (0x192, 0x192, 1, -1),
   (0x195, 0x195, 1, 97), (0x199, 0x199, 1, -1), (0x19A, 0x19A, 1, 163), (0x19B, 0x19B, 1, 42561),
   (0x19E, 0x19E, 1, 130), (0x1A1, 0x1A5, 2, -1), (0x1A8, 0x1A8, 1, -1), (0x1AD, 0x1AD, 1, -1),
   (0x1B0, 0x1B0, 1, -1), (0x1B4, 0x1B6, 2, -1), (0x1B9, 0x1B9, 1, -1), (0x1BD, 0x1BD, 1, -1),
   (0x1BF, 0x1BF, 1, 56), (0x1C5, 0x1C5, 1, -1), (0x1C6, 0x1C6, 1, -2), (0x1C8, 0x1C8, 1, -1),
   (0x1C9, 0x1C9, 1, -2), (0x1CB, 0x1CB, 1, -1), (0x1CC, 0x1CC, 1, -2), (0x1CE, 0x1DC, 2, -1),
   (0x1DD, 0x1DD, 1, -79), (0x1DF, 0x1EF, 2, -1), (0x1F2, 0x1F2, 1, -1), (0x1F3, 0x1F3, 1, -2),
   (0x1F5, 0x1F5, 1, -1), (0x1F9, 0x21F, 2, -1), (0x223, 0x233, 2, -1), (0x23C, 0x23C, 1, -1),
   (0x23F, 0x240, 1, 10815), (0x242, 0x242, 1, -1), (0x247, 0x24F, 2, -1), (0x250, 0x250, 1, 10783),
   (0x251, 0x251, 1, 10780), (0x252, 0x252, 1, 10782), (0x253, 0x253, 1, -210),
   (0x254, 0x254, 1, -206), (0x256, 0x257, 1, -205), (0x259, 0x259, 1, -202),
   (0x25B, 0x25B, 1, -203), (0x25C, 0x25C, 1, 42319), (0x260, 0x260, 1, -205),
   (0x261, 0x261, 1, 42315), (0x263, 0x263, 1, -207), (0x264, 0x264, 1, 42343),
   (0x265, 0x265, 1, 42280), (0x266, 0x266, 1, 42308), (0x268, 0x268, 1, -209),
   (0x269, 0x269, 1, -211), (0x26A, 0x26A, 1, 42308), (0x26B, 0x26B, 1, 10743),
   (0x26C, 0x26C, 1, 42305), (0x26F, 0x26F, 1, -211), (0x271, 0x271, 1, 10749),
   (0x272, 0x272, 1, -213), (0x275, 0x275, 1, -214), (0x27D, 0x27D, 1, 10727),
   (0x280, 0x280, 1, -218), (0x282, 0x282, 1, 42307), (0x283, 0x283, 1, -218),
   (0x287, 0x287, 1, 42282), (0x288, 0x288, 1, -218), (0x289, 0x289, 1, -69),
   (0x28A, 0x28B, 1, -217), (0x28C, 0x28C, 1, -71), (0x292, 0x292, 1, -219),
   (0x29D, 0x29D, 1, 42261), (0x29E, 0x29E, 1, 42258), (0x345, 0x345, 1, 84), (0x371, 0x373, 2, -1),
   (0x377, 0x377, 1, -1), (0x37B, 0x37D, 1, 130), (0x3AC, 0x3AC, 1, -38), (0x3AD, 0x3AF, 1, -37),
   (0x3B1, 0x3C1, 1, -32), (0x3C2, 0x3C2, 1, -31), (0x3C3, 0x3CB, 1, -32), (0x3CC, 0x3CC, 1, -64),
   (0x3CD, 0x3CE, 1, -63), (0x3D0, 0x3D0, 1, -62), (0x3D1, 0x3D1, 1, -57), (0x3D5, 0x3D5, 1, -47),
   (0x3D6, 0x3D6, 1, -54), (0x3D7, 0x3D7, 1, -8), (0x3D9, 0x3EF, 2, -1), (0x3F0, 0x3F0, 1, -86),
   (0x3F1, 0x3F1, 1, -80), (0x3F2, 0x3F2, 1, 7), (0x3F3, 0x3F3, 1, -116), (0x3F5, 0x3F5, 1, -96),
   (0x3F8, 0x3F8, 1, -1), (0x3FB, 0x3FB, 1, -1), (0x430, 0x44F, 1, -32), (0x450, 0x45F, 1, -80),
   (0x461, 0x481, 2, -1), (0x48B, 0x4BF, 2, -1), (0x4C2, 0x4CE, 2, -1), (0x4CF, 0x4CF, 1, -15),
   (0x4D1, 0x52F, 2, -1), (0x561, 0x586, 1, -48), (0x10D0, 0x10FA, 1, 3008),
   (0x10FD, 0x10FF, 1, 3008), (0x13F8, 0x13FD, 1, -8), (0x1C80, 0x1C80, 1, -6254),
   (0x1C81, 0x1C81, 1, -6253), (0x1C82, 0x1C82, 1, -6244), (0x1C83, 0x1C84, 1, -6242),
   (0x1C85, 0x1C85, 1, -6243), (0x1C86, 0x1C86, 1, -6236), (0x1C87, 0x1C87, 1, -6181),
   (0x1C88, 0x1C88, 1, 35266), (0x1C8A, 0x1C8A, 1, -1), (0x1D79, 0x1D79, 1, 35332),
   (0x1D7D, 0x1D7D, 1, 3814), (0x1D8E, 0x1D8E, 1, 35384), (0x1E01, 0x1E95, 2, -1),
   (0x1E9B, 0x1E9B, 1, -59), (0x1EA1, 0x1EFF, 2, -1), (0x1F00, 0x1F07, 1, 8),
   (0x1F10, 0x1F15, 1, 8), (0x1F20, 0x1F27, 1, 8), (0x1F30, 0x1F37, 1, 8), (0x1F40, 0x1F45, 1, 8),
   (0x1F51, 0x1F57, 2, 8), (0x1F60, 0x1F67, 1, 8), (0x1F70, 0x1F71, 1, 74), (0x1F72, 0x1F75, 1, 86),
   (0x1F76, 0x1F77, 1, 100), (0x1F78, 0x1F79, 1, 128), (0x1F7A, 0x1F7B, 1, 112),
   (0x1F7C, 0x1F7D, 1, 126), (0x1FB0, 0x1FB1, 1, 8), (0x1FBE, 0x1FBE, 1, -7205),
   (0x1FD0, 0x1FD1, 1, 8), (0x1FE0, 0x1FE1, 1, 8), (0x1FE5, 0x1FE5, 1, 7), (0x214E, 0x214E, 1, -28),
   (0x2170, 0x217F, 1, -16), (0x2184, 0x2184, 1, -1), (0x24D0, 0x24E9, 1, -26),
   (0x2C30, 0x2C5F, 1, -48), (0x2C61, 0x2C61, 1, -1), (0x2C65, 0x2C65, 1, -10795),
   (0x2C66, 0x2C66, 1, -10792), (0x2C68, 0x2C6C, 2, -1), (0x2C73, 0x2C73, 1, -1),
   (0x2C76, 0x2C76, 1, -1), (0x2C81, 0x2CE3, 2, -1), (0x2CEC, 0x2CEE, 2, -1),
   (0x2CF3, 0x2CF3, 1, -1), (0x2D00, 0x2D25, 1, -7264), (0x2D27, 0x2D27, 1, -7264),
   (0x2D2D, 0x2D2D, 1, -7264), (0xA641, 0xA66D, 2, -1), (0xA681, 0xA69B, 2, -1),
   (0xA723, 0xA72F, 2, -1), (0xA733, 0xA76F, 2, -1), (0xA77A, 0xA77C, 2, -1),
   (0xA77F, 0xA787, 2, -1), (0xA78C, 0xA78C, 1, -1), (0xA791, 0xA793, 2, -1),
   (0xA794, 0xA794, 1, 48), (0xA797, 0xA7A9, 2, -1), (0xA7B5, 0xA7C3, 2, -1),
   (0xA7C8, 0xA7CA, 2, -1), (0xA7CD, 0xA7DB, 2, -1), (0xA7F6, 0xA7F6, 1, -1),
   (0xAB53, 0xAB53, 1, -928), (0xAB70, 0xABBF, 1, -38864), (0xFF41, 0xFF5A, 1, -32),
   (0x10428, 0x1044F, 1, -40), (0x104D8, 0x104FB, 1, -40), (0x10597, 0x105BB, 2, -39),
   (0x10598, 0x105A1, 1, -39), (0x105A4, 0x105B1, 1, -39), (0x105B4, 0x105B9, 1, -39),
   (0x105BC, 0x105BC, 1, -39), (0x10CC0, 0x10CF2, 1, -64), (0x10D70, 0x10D85, 1, -32),
   (0x118C0, 0x118DF, 1, -32), (0x16E60, 0x16E7F, 1, -32), (0x16EBB, 0x16ED3, 1, -27),
   (0x1E922, 0x1E943, 1, -34)]

/-- The characters whose upper-case form is several characters. -/
def uppercaseExpansions : List (Nat × List Nat) :=
  [(0xDF, [0x53, 0x53]), (0x149, [0x2BC, 0x4E]), (0x1F0, [0x4A, 0x30C]),
   (0x390, [0x399, 0x308, 0x301]),
   (0x3B0, [0x3A5, 0x308, 0x301]), (0x587, [0x535, 0x552]), (0x1E96, [0x48, 0x331]),
   (0x1E97, [0x54, 0x308]), (0x1E98, [0x57, 0x30A]), (0x1E99, [0x59, 0x30A]),
   (0x1E9A, [0x41, 0x2BE]), (0x1F50, [0x3A5, 0x313]), (0x1F52, [0x3A5, 0x313, 0x300]),
   (0x1F54, [0x3A5, 0x313, 0x301]), (0x1F56, [0x3A5, 0x313, 0x342]), (0x1F80, [0x1F08, 0x399]),
   (0x1F81, [0x1F09, 0x399]), (0x1F82, [0x1F0A, 0x399]), (0x1F83, [0x1F0B, 0x399]),
   (0x1F84, [0x1F0C, 0x399]), (0x1F85, [0x1F0D, 0x399]), (0x1F86, [0x1F0E, 0x399]),
   (0x1F87, [0x1F0F, 0x399]), (0x1F88, [0x1F08, 0x399]), (0x1F89, [0x1F09, 0x399]),
   (0x1F8A, [0x1F0A, 0x399]), (0x1F8B, [0x1F0B, 0x399]), (0x1F8C, [0x1F0C, 0x399]),
   (0x1F8D, [0x1F0D, 0x399]), (0x1F8E, [0x1F0E, 0x399]), (0x1F8F, [0x1F0F, 0x399]),
   (0x1F90, [0x1F28, 0x399]), (0x1F91, [0x1F29, 0x399]), (0x1F92, [0x1F2A, 0x399]),
   (0x1F93, [0x1F2B, 0x399]), (0x1F94, [0x1F2C, 0x399]), (0x1F95, [0x1F2D, 0x399]),
   (0x1F96, [0x1F2E, 0x399]), (0x1F97, [0x1F2F, 0x399]), (0x1F98, [0x1F28, 0x399]),
   (0x1F99, [0x1F29, 0x399]), (0x1F9A, [0x1F2A, 0x399]), (0x1F9B, [0x1F2B, 0x399]),
   (0x1F9C, [0x1F2C, 0x399]), (0x1F9D, [0x1F2D, 0x399]), (0x1F9E, [0x1F2E, 0x399]),
   (0x1F9F, [0x1F2F, 0x399]), (0x1FA0, [0x1F68, 0x399]), (0x1FA1, [0x1F69, 0x399]),
   (0x1FA2, [0x1F6A, 0x399]), (0x1FA3, [0x1F6B, 0x399]), (0x1FA4, [0x1F6C, 0x399]),
   (0x1FA5, [0x1F6D, 0x399]), (0x1FA6, [0x1F6E, 0x399]), (0x1FA7, [0x1F6F, 0x399]),
   (0x1FA8, [0x1F68, 0x399]), (0x1FA9, [0x1F69, 0x399]), (0x1FAA, [0x1F6A, 0x399]),
   (0x1FAB, [0x1F6B, 0x399]), (0x1FAC, [0x1F6C, 0x399]), (0x1FAD, [0x1F6D, 0x399]),
   (0x1FAE, [0x1F6E, 0x399]), (0x1FAF, [0x1F6F, 0x399]), (0x1FB2, [0x1FBA, 0x399]),
   (0x1FB3, [0x391, 0x399]), (0x1FB4, [0x386, 0x399]), (0x1FB6, [0x391, 0x342]),
   (0x1FB7, [0x391, 0x342, 0x399]), (0x1FBC, [0x391, 0x399]), (0x1FC2, [0x1FCA, 0x399]),
   (0x1FC3, [0x397, 0x399]), (0x1FC4, [0x389, 0x399]), (0x1FC6, [0x397, 0x342]),
   (0x1FC7, [0x397, 0x342, 0x399]), (0x1FCC, [0x397, 0x399]), (0x1FD2, [0x399, 0x308, 0x300]),
   (0x1FD3, [0x399, 0x308, 0x301]), (0x1FD6, [0x399, 0x342]), (0x1FD7, [0x399, 0x308, 0x342]),
   (0x1FE2, [0x3A5, 0x308, 0x300]), (0x1FE3, [0x3A5, 0x308, 0x301]), (0x1FE4, [0x3A1, 0x313]),
   (0x1FE6, [0x3A5, 0x342]), (0x1FE7, [0x3A5, 0x308, 0x342]), (0x1FF2, [0x1FFA, 0x399]),
   (0x1FF3, [0x3A9, 0x399]), (0x1FF4, [0x38F, 0x399]), (0x1FF6, [0x3A9, 0x342]),
   (0x1FF7, [0x3A9, 0x342, 0x399]), (0x1FFC, [0x3A9, 0x399]), (0xFB00, [0x46, 0x46]),
   (0xFB01, [0x46, 0x49]), (0xFB02, [0x46, 0x4C]), (0xFB03, [0x46, 0x46, 0x49]),
   (0xFB04, [0x46, 0x46, 0x4C]), (0xFB05, [0x53, 0x54]), (0xFB06, [0x53, 0x54]),
   (0xFB13, [0x544, 0x546]), (0xFB14, [0x544, 0x535]), (0xFB15, [0x544, 0x53B]),
   (0xFB16, [0x54E, 0x546]), (0xFB17, [0x544, 0x53D])]

/-- The characters beyond ASCII whose lower-case form is one other character. -/
def lowercaseShifts : List Shift :=
  [(0xC0, 0xD6, 1, 32), (0xD8, 0xDE, 1, 32), (0x100, 0x12E, 2, 1), (0x132, 0x136, 2, 1),
   (0x139, 0x147, 2, 1), (0x14A, 0x176, 2, 1), (0x178, 0x178, 1, -121), (0x179, 0x17D, 2, 1),
   (0x181, 0x181, 1, 210), (0x182, 0x184, 2, 1), (0x186, 0x186, 1, 206), (0x187, 0x187, 1, 1),
   (0x189, 0x18A, 1, 205), (0x18B, 0x18B, 1, 1), (0x18E, 0x18E, 1, 79), (0x18F, 0x18F, 1, 202),
   (0x190, 0x190, 1, 203), (0x191, 0x191, 1, 1), (0x193, 0x193, 1, 205), (0x194, 0x194, 1, 207),
   (0x196, 0x196, 1, 211), (0x197, 0x197, 1, 209), (0x198, 0x198, 1, 1), (0x19C, 0x19C, 1, 211),
   (0x19D, 0x19D, 1, 213), (0x19F, 0x19F, 1, 214), (0x1A0, 0x1A4, 2, 1), (0x1A6, 0x1A6, 1, 218),
   (0x1A7, 0x1A7, 1, 1), (0x1A9, 0x1A9, 1, 218), (0x1AC, 0x1AC, 1, 1), (0x1AE, 0x1AE, 1, 218),
   (0x1AF, 0x1AF, 1, 1), (0x1B1, 0x1B2, 1, 217), (0x1B3, 0x1B5, 2, 1), (0x1B7, 0x1B7, 1, 219),
   (0x1B8, 0x1B8, 1, 1), (0x1BC, 0x1BC, 1, 1), (0x1C4, 0x1C4, 1, 2), (0x1C5, 0x1C5, 1, 1),
   (0x1C7, 0x1C7, 1, 2), (0x1C8, 0x1C8, 1, 1), (0x1CA, 0x1CA, 1, 2), (0x1CB, 0x1DB, 2, 1),
   (0x1DE, 0x1EE, 2, 1), (0x1F1, 0x1F1, 1, 2), (0x1F2, 0x1F4, 2, 1), (0x1F6, 0x1F6, 1, -97),
   (0x1F7, 0x1F7, 1, -56), (0x1F8, 0x21E, 2, 1), (0x220, 0x220, 1, -130), (0x222, 0x232, 2, 1),
   (0x23A, 0x23A, 1, 10795), (0x23B, 0x23B, 1, 1), (0x23D, 0x23D, 1, -163),
   (0x23E, 0x23E, 1, 10792), (0x241, 0x241, 1, 1), (0x243, 0x243, 1, -195), (0x244, 0x244, 1, 69),
   (0x245, 0x245, 1, 71), (0x246, 0x24E, 2, 1), (0x370, 0x372, 2, 1), (0x376, 0x376, 1, 1),
   (0x37F, 0x37F, 1, 116), (0x386, 0x386, 1, 38), (0x388, 0x38A, 1, 37), (0x38C, 0x38C, 1, 64),
   (0x38E, 0x38F, 1, 63), (0x391, 0x3A1, 1, 32), (0x3A3, 0x3AB, 1, 32), (0x3CF, 0x3CF, 1, 8),
   (0x3D8, 0x3EE, 2, 1), (0x3F4, 0x3F4, 1, -60), (0x3F7, 0x3F7, 1, 1), (0x3F9, 0x3F9, 1, -7),
   (0x3FA, 0x3FA, 1, 1), (0x3FD, 0x3FF, 1, -130), (0x400, 0x40F, 1, 80), (0x410, 0x42F, 1, 32),
   (0x460, 0x480, 2, 1), (0x48A, 0x4BE, 2, 1), (0x4C0, 0x4C0, 1, 15), (0x4C1, 0x4CD, 2, 1),
   (0x4D0, 0x52E, 2, 1), (0x531, 0x556, 1, 48), (0x10A0, 0x10C5, 1, 7264),
   (0x10C7, 0x10C7, 1, 7264), (0x10CD, 0x10CD, 1, 7264), (0x13A0, 0x13EF, 1, 38864),
   (0x13F0, 0x13F5, 1, 8), (0x1C89, 0x1C89, 1, 1), (0x1C90, 0x1CBA, 1, -3008),
   (0x1CBD, 0x1CBF, 1, -3008), (0x1E00, 0x1E94, 2, 1), (0x1E9E, 0x1E9E, 1, -7615),
   (0x1EA0, 0x1EFE, 2, 1), (0x1F08, 0x1F0F, 1, -8), (0x1F18, 0x1F1D, 1, -8),
   (0x1F28, 0x1F2F, 1, -8), (0x1F38, 0x1F3F, 1, -8), (0x1F48, 0x1F4D, 1, -8),
   (0x1F59, 0x1F5F, 2, -8), (0x1F68, 0x1F6F, 1, -8), (0x1F88, 0x1F8F, 1, -8),
   (0x1F98, 0x1F9F, 1, -8), (0x1FA8, 0x1FAF, 1, -8), (0x1FB8, 0x1FB9, 1, -8),
   (0x1FBA, 0x1FBB, 1, -74), (0x1FBC, 0x1FBC, 1, -9), (0x1FC8, 0x1FCB, 1, -86),
   (0x1FCC, 0x1FCC, 1, -9), (0x1FD8, 0x1FD9, 1, -8), (0x1FDA, 0x1FDB, 1, -100),
   (0x1FE8, 0x1FE9, 1, -8), (0x1FEA, 0x1FEB, 1, -112), (0x1FEC, 0x1FEC, 1, -7),
   (0x1FF8, 0x1FF9, 1, -128), (0x1FFA, 0x1FFB, 1, -126), (0x1FFC, 0x1FFC, 1, -9),
   (0x2126, 0x2126, 1, -7517), (0x212A, 0x212A, 1, -8383), (0x212B, 0x212B, 1, -8262),
   (0x2132, 0x2132, 1, 28), (0x2160, 0x216F, 1, 16), (0x2183, 0x2183, 1, 1),
   (0x24B6, 0x24CF, 1, 26), (0x2C00, 0x2C2F, 1, 48), (0x2C60, 0x2C60, 1, 1),
   (0x2C62, 0x2C62, 1, -10743), (0x2C63, 0x2C63, 1, -3814), (0x2C64, 0x2C64, 1, -10727),
   (0x2C67, 0x2C6B, 2, 1), (0x2C6D, 0x2C6D, 1, -10780), (0x2C6E, 0x2C6E, 1, -10749),
   (0x2C6F, 0x2C6F, 1, -10783), (0x2C70, 0x2C70, 1, -10782), (0x2C72, 0x2C72, 1, 1),
   (0x2C75, 0x2C75, 1, 1), (0x2C7E, 0x2C7F, 1, -10815), (0x2C80, 0x2CE2, 2, 1),
   (0x2CEB, 0x2CED, 2, 1), (0x2CF2, 0x2CF2, 1, 1), (0xA640, 0xA66C, 2, 1), (0xA680, 0xA69A, 2, 1),
   (0xA722, 0xA72E, 2, 1), (0xA732, 0xA76E, 2, 1), (0xA779, 0xA77B, 2, 1),
   (0xA77D, 0xA77D, 1, -35332), (0xA77E, 0xA786, 2, 1), (0xA78B, 0xA78B, 1, 1),
   (0xA78D, 0xA78D, 1, -42280), (0xA790, 0xA792, 2, 1), (0xA796, 0xA7A8, 2, 1),
   (0xA7AA, 0xA7AA, 1, -42308), (0xA7AB, 0xA7AB, 1, -42319), (0xA7AC, 0xA7AC, 1, -42315),
   (0xA7AD, 0xA7AD, 1, -42305), (0xA7AE, 0xA7AE, 1, -42308), (0xA7B0, 0xA7B0, 1, -42258),
   (0xA7B1, 0xA7B1, 1, -42282), (0xA7B2, 0xA7B2, 1, -42261), (0xA7B3, 0xA7B3, 1, 928),
   (0xA7B4, 0xA7C2, 2, 1), (0xA7C4, 0xA7C4, 1, -48), (0xA7C5, 0xA7C5, 1, -42307),
   (0xA7C6, 0xA7C6, 1, -35384), (0xA7C7, 0xA7C9, 2, 1), (0xA7CB, 0xA7CB, 1, -42343),
   (0xA7CC, 0xA7DA, 2, 1), (0xA7DC, 0xA7DC, 1, -42561), (0xA7F5, 0xA7F5, 1, 1),
   (0xFF21, 0xFF3A, 1, 32), (0x10400, 0x10427, 1, 40), (0x104B0, 0x104D3, 1, 40),
   (0x10570, 0x10594, 2, 39), (0x10571, 0x1057A, 1, 39), (0x1057D, 0x1058A, 1, 39),
   (0x1058D, 0x10592, 1, 39), (0x10595, 0x10595, 1, 39), (0x10C80, 0x10CB2, 1, 64),
   (0x10D50, 0x10D65, 1, 32), (0x118A0, 0x118BF, 1, 32), (0x16E40, 0x16E5F, 1, 32),
   (0x16EA0, 0x16EB8, 1, 27), (0x1E900, 0x1E921, 1, 34)]

/-! ## Properties and mappings -/

/-- Whether a character is upper case. -/
def isUppercase (c : Char) : Bool :=
  if c.toNat < 128 then c.isUpper else inRanges uppercaseRanges c

/-- Whether a character is lower case. -/
def isLowercase (c : Char) : Bool :=
  if c.toNat < 128 then c.isLower else inRanges lowercaseRanges c

/-- The upper-case form of a character. -/
def uppercase (c : Char) : List Char :=
  if c.toNat < 128 then [c.toUpper]
  else match uppercaseExpansions.find? (·.1 == c.toNat) with
    | some (_, cs) => cs.map Char.ofNat
    | none => [shiftBy uppercaseShifts c]

/-- The lower-case form of a character. Only the dotted capital I becomes two characters. -/
def lowercase (c : Char) : List Char :=
  if c.toNat < 128 then [c.toLower]
  else if c.toNat = 0x130 then [Char.ofNat 0x69, Char.ofNat 0x307]
  else [shiftBy lowercaseShifts c]

end ApiLowering.Text
