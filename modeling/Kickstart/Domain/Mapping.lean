/-
# Kickstart.Domain.Mapping -- what the characters of a name become

Names that differ only in case, width or style of their characters are the same name.
Before a name is looked at, each character becomes what it is compared as: capital
letters become small ones, forms of a character the character itself, some characters
are left out, and many may not stand in a name at all.  These are the tables for
processing international names (`IdnaMappingTable`) with the letters that were once
replaced (sharp s, final sigma and the joiners) kept.

A row of the table gives what consecutive characters become, from the one with which it
starts; a dash stands for a character that becomes nothing else.
-/
import Kickstart.Text.Runs

namespace Kickstart.Domain

set_option autoImplicit false

/-! ## Characters that become others -/

/-- What characters up to the letter-like symbols become. -/
def mappedLow : List (Nat × String) :=
  [(0xA0, "20"), (0xA8, "20.308 - 61"),
    (0xAF, "20.304 - - 32 33 20.301 3BC - - 20.327 31 6F - 31.2044.34 31.2044.32"),
    (0xBE, "33.2044.34 - E0 E1 E2 E3 E4 E5 E6 E7 E8 E9 EA EB EC ED EE EF F0 F1 F2 F3 F4 F5"),
    (0xD6, "F6 - F8 F9 FA FB FC FD FE"),
    (0x100, "101 - 103 - 105 - 107 - 109 - 10B - 10D - 10F - 111 - 113 - 115 - 117 - 119"),
    (0x11A, "11B - 11D - 11F - 121 - 123 - 125 - 127 - 129 - 12B - 12D - 12F - 69.307"),
    (0x132, "69.6A 69.6A 135 - 137 - - 13A - 13C - 13E - 6C.B7 6C.B7 142 - 144 - 146 - 148"),
    (0x149, "2BC.6E 14B - 14D - 14F - 151 - 153 - 155 - 157 - 159 - 15B - 15D - 15F - 161"),
    (0x162, "163 - 165 - 167 - 169 - 16B - 16D - 16F - 171 - 173 - 175 - 177 - FF 17A - 17C"),
    (0x17D, "17E - 73 - 253 183 - 185 - 254 188 - 256 257 18C - - 1DD 259 25B 192 - 260 263"),
    (0x196, "269 268 199"),
    (0x19C, "26F 272 - 275 1A1 - 1A3 - 1A5 - 280 1A8 - 283 - - 1AD - 288 1B0 - 28A 28B 1B4"),
    (0x1B5, "1B6 - 292 1B9"), (0x1BC, "1BD"),
    (0x1C4, "64.17E 64.17E 64.17E 6C.6A 6C.6A 6C.6A 6E.6A 6E.6A 6E.6A 1CE - 1D0 - 1D2 - 1D4"),
    (0x1D5, "1D6 - 1D8 - 1DA - 1DC - - 1DF - 1E1 - 1E3 - 1E5 - 1E7 - 1E9 - 1EB - 1ED - 1EF"),
    (0x1F1, "64.7A 64.7A 64.7A 1F5 - 195 1BF 1F9 - 1FB - 1FD - 1FF - 201 - 203 - 205 - 207"),
    (0x208, "209 - 20B - 20D - 20F - 211 - 213 - 215 - 217 - 219 - 21B - 21D - 21F - 19E"),
    (0x222, "223 - 225 - 227 - 229 - 22B - 22D - 22F - 231 - 233"),
    (0x23A, "2C65 23C - 19A 2C66 - - 242 - 180 289 28C 247 - 249 - 24B - 24D - 24F"),
    (0x2B0, "68 266 6A 72 279 27B 281 77 79"),
    (0x2D8, "20.306 20.307 20.30A 20.328 20.303 20.30B - - 263 6C 73 78 295"),
    (0x340, "300 301 - 313 308.301 3B9"), (0x370, "371 - 373 - 2B9 - 377"), (0x37A, "20.3B9"),
    (0x37E, "3B 3F3"),
    (0x384, "20.301 20.308.301 3AC B7 3AD 3AE 3AF - 3CC - 3CD 3CE - 3B1 3B2 3B3 3B4 3B5 3B6"),
    (0x397, "3B7 3B8 3B9 3BA 3BB 3BC 3BD 3BE 3BF 3C0 3C1 - 3C3 3C4 3C5 3C6 3C7 3C8 3C9 3CA"),
    (0x3AB, "3CB"),
    (0x3CF, "3D7 3B2 3B8 3C5 3CD 3CB 3C6 3C0 - 3D9 - 3DB - 3DD - 3DF - 3E1 - 3E3 - 3E5"),
    (0x3E6, "3E7 - 3E9 - 3EB - 3ED - 3EF - 3BA 3C1 3C3 - 3B8 3B5 - 3F8 - 3C3 3FB - - 37B"),
    (0x3FE, "37C 37D 450 451 452 453 454 455 456 457 458 459 45A 45B 45C 45D 45E 45F 430"),
    (0x411, "431 432 433 434 435 436 437 438 439 43A 43B 43C 43D 43E 43F 440 441 442 443"),
    (0x424, "444 445 446 447 448 449 44A 44B 44C 44D 44E 44F"),
    (0x460, "461 - 463 - 465 - 467 - 469 - 46B - 46D - 46F - 471 - 473 - 475 - 477 - 479"),
    (0x47A, "47B - 47D - 47F - 481"),
    (0x48A, "48B - 48D - 48F - 491 - 493 - 495 - 497 - 499 - 49B - 49D - 49F - 4A1 - 4A3"),
    (0x4A4, "4A5 - 4A7 - 4A9 - 4AB - 4AD - 4AF - 4B1 - 4B3 - 4B5 - 4B7 - 4B9 - 4BB - 4BD"),
    (0x4BE, "4BF - 4CF 4C2 - 4C4 - 4C6 - 4C8 - 4CA - 4CC - 4CE - - 4D1 - 4D3 - 4D5 - 4D7"),
    (0x4D8, "4D9 - 4DB - 4DD - 4DF - 4E1 - 4E3 - 4E5 - 4E7 - 4E9 - 4EB - 4ED - 4EF - 4F1"),
    (0x4F2, "4F3 - 4F5 - 4F7 - 4F9 - 4FB - 4FD - 4FF - 501 - 503 - 505 - 507 - 509 - 50B"),
    (0x50C, "50D - 50F - 511 - 513 - 515 - 517 - 519 - 51B - 51D - 51F - 521 - 523 - 525"),
    (0x526, "527 - 529 - 52B - 52D - 52F - - 561 562 563 564 565 566 567 568 569 56A 56B"),
    (0x53C, "56C 56D 56E 56F 570 571 572 573 574 575 576 577 578 579 57A 57B 57C 57D 57E"),
    (0x54F, "57F 580 581 582 583 584 585 586"), (0x587, "565.582"),
    (0x675, "627.674 648.674 6C7.674 64A.674"),
    (0x958, "915.93C 916.93C 917.93C 91C.93C 921.93C 922.93C 92B.93C 92F.93C"),
    (0x9DC, "9A1.9BC 9A2.9BC - 9AF.9BC"), (0xA33, "A32.A3C - - A38.A3C"),
    (0xA59, "A16.A3C A17.A3C A1C.A3C - - A2B.A3C"), (0xB5C, "B21.B3C B22.B3C"),
    (0xE33, "E4D.E32"), (0xEB3, "ECD.EB2"), (0xEDC, "EAB.E99 EAB.EA1"), (0xF0C, "F0B"),
    (0xF43, "F42.FB7"), (0xF4D, "F4C.FB7"), (0xF52, "F51.FB7"), (0xF57, "F56.FB7"),
    (0xF5C, "F5B.FB7"), (0xF69, "F40.FB5"),
    (0xF73, "F71.F72 - F71.F74 FB2.F80 FB2.F71.F80 FB3.F80 FB3.F71.F80"), (0xF81, "F71.F80"),
    (0xF93, "F92.FB7"), (0xF9D, "F9C.FB7"), (0xFA2, "FA1.FB7"), (0xFA7, "FA6.FB7"),
    (0xFAC, "FAB.FB7"), (0xFB9, "F90.FB5"),
    (0x10A0, "2D00 2D01 2D02 2D03 2D04 2D05 2D06 2D07 2D08 2D09 2D0A 2D0B 2D0C 2D0D 2D0E"),
    (0x10AF, "2D0F 2D10 2D11 2D12 2D13 2D14 2D15 2D16 2D17 2D18 2D19 2D1A 2D1B 2D1C 2D1D"),
    (0x10BE, "2D1E 2D1F 2D20 2D21 2D22 2D23 2D24 2D25 - 2D27"), (0x10CD, "2D2D"),
    (0x10FC, "10DC"), (0x13F8, "13F0 13F1 13F2 13F3 13F4 13F5"),
    (0x1C80, "432 434 43E 441 442 442 44A 463 A64B 1C8A"),
    (0x1C90, "10D0 10D1 10D2 10D3 10D4 10D5 10D6 10D7 10D8 10D9 10DA 10DB 10DC 10DD 10DE"),
    (0x1C9F, "10DF 10E0 10E1 10E2 10E3 10E4 10E5 10E6 10E7 10E8 10E9 10EA 10EB 10EC 10ED"),
    (0x1CAE, "10EE 10EF 10F0 10F1 10F2 10F3 10F4 10F5 10F6 10F7 10F8 10F9 10FA - - 10FD 10FE"),
    (0x1CBF, "10FF"),
    (0x1D2C, "61 E6 62 - 64 65 1DD 67 68 69 6A 6B 6C 6D 6E - 6F 223 70 72 74 75 77 61 250"),
    (0x1D45, "251 1D02 62 64 65 259 25B 25C 67 - 6B 6D 14B 6F 254 1D16 1D17 70 74 75 1D1D"),
    (0x1D5A, "26F 76 1D25 3B2 3B3 3B4 3C6 3C7 69 72 75 76 3B2 3B3 3C1 3C6 3C7"), (0x1D78, "43D"),
    (0x1D9B, "252 63 255 F0 25C 66 25F 261 265 268 269 26A 1D7B 29D 26D 1D85 29F 271 270 272"),
    (0x1DAF, "273 274 275 278 282 283 1AB 289 28A 1D1C 28B 28C 7A 290 291 292 3B8"),
    (0x1E00, "1E01 - 1E03 - 1E05 - 1E07 - 1E09 - 1E0B - 1E0D - 1E0F - 1E11 - 1E13 - 1E15"),
    (0x1E16, "1E17 - 1E19 - 1E1B - 1E1D - 1E1F - 1E21 - 1E23 - 1E25 - 1E27 - 1E29 - 1E2B"),
    (0x1E2C, "1E2D - 1E2F - 1E31 - 1E33 - 1E35 - 1E37 - 1E39 - 1E3B - 1E3D - 1E3F - 1E41"),
    (0x1E42, "1E43 - 1E45 - 1E47 - 1E49 - 1E4B - 1E4D - 1E4F - 1E51 - 1E53 - 1E55 - 1E57"),
    (0x1E58, "1E59 - 1E5B - 1E5D - 1E5F - 1E61 - 1E63 - 1E65 - 1E67 - 1E69 - 1E6B - 1E6D"),
    (0x1E6E, "1E6F - 1E71 - 1E73 - 1E75 - 1E77 - 1E79 - 1E7B - 1E7D - 1E7F - 1E81 - 1E83"),
    (0x1E84, "1E85 - 1E87 - 1E89 - 1E8B - 1E8D - 1E8F - 1E91 - 1E93 - 1E95"),
    (0x1E9A, "61.2BE 1E61 - - DF - 1EA1 - 1EA3 - 1EA5 - 1EA7 - 1EA9 - 1EAB - 1EAD - 1EAF"),
    (0x1EB0, "1EB1 - 1EB3 - 1EB5 - 1EB7 - 1EB9 - 1EBB - 1EBD - 1EBF - 1EC1 - 1EC3 - 1EC5"),
    (0x1EC6, "1EC7 - 1EC9 - 1ECB - 1ECD - 1ECF - 1ED1 - 1ED3 - 1ED5 - 1ED7 - 1ED9 - 1EDB"),
    (0x1EDC, "1EDD - 1EDF - 1EE1 - 1EE3 - 1EE5 - 1EE7 - 1EE9 - 1EEB - 1EED - 1EEF - 1EF1"),
    (0x1EF2, "1EF3 - 1EF5 - 1EF7 - 1EF9 - 1EFB - 1EFD - 1EFF"),
    (0x1F08, "1F00 1F01 1F02 1F03 1F04 1F05 1F06 1F07"),
    (0x1F18, "1F10 1F11 1F12 1F13 1F14 1F15"),
    (0x1F28, "1F20 1F21 1F22 1F23 1F24 1F25 1F26 1F27"),
    (0x1F38, "1F30 1F31 1F32 1F33 1F34 1F35 1F36 1F37"),
    (0x1F48, "1F40 1F41 1F42 1F43 1F44 1F45"), (0x1F59, "1F51 - 1F53 - 1F55 - 1F57"),
    (0x1F68, "1F60 1F61 1F62 1F63 1F64 1F65 1F66 1F67 - 3AC - 3AD - 3AE - 3AF - 3CC - 3CD"),
    (0x1F7D, "3CE - - 1F00.3B9 1F01.3B9 1F02.3B9 1F03.3B9 1F04.3B9 1F05.3B9 1F06.3B9"),
    (0x1F87, "1F07.3B9 1F00.3B9 1F01.3B9 1F02.3B9 1F03.3B9 1F04.3B9 1F05.3B9 1F06.3B9"),
    (0x1F8F, "1F07.3B9 1F20.3B9 1F21.3B9 1F22.3B9 1F23.3B9 1F24.3B9 1F25.3B9 1F26.3B9"),
    (0x1F97, "1F27.3B9 1F20.3B9 1F21.3B9 1F22.3B9 1F23.3B9 1F24.3B9 1F25.3B9 1F26.3B9"),
    (0x1F9F, "1F27.3B9 1F60.3B9 1F61.3B9 1F62.3B9 1F63.3B9 1F64.3B9 1F65.3B9 1F66.3B9"),
    (0x1FA7, "1F67.3B9 1F60.3B9 1F61.3B9 1F62.3B9 1F63.3B9 1F64.3B9 1F65.3B9 1F66.3B9"),
    (0x1FAF, "1F67.3B9 - - 1F70.3B9 3B1.3B9 3AC.3B9 - - 1FB6.3B9 1FB0 1FB1 1F70 3AC 3B1.3B9"),
    (0x1FBD, "20.313 3B9 20.313 20.342 20.308.342 1F74.3B9 3B7.3B9 3AE.3B9 - - 1FC6.3B9 1F72"),
    (0x1FC9, "3AD 1F74 3AE 3B7.3B9 20.313.300 20.313.301 20.313.342"), (0x1FD3, "390"),
    (0x1FD8, "1FD0 1FD1 1F76 3AF - 20.314.300 20.314.301 20.314.342"), (0x1FE3, "3B0"),
    (0x1FE8, "1FE0 1FE1 1F7A 3CD 1FE5 20.308.300 20.308.301 60 - - 1F7C.3B9 3C9.3B9 3CE.3B9"),
    (0x1FF7, "1FF6.3B9 1F78 3CC 1F7C 3CE 3C9.3B9 20.301 20.314 - 20 20 20 20 20 20 20 20 20"),
    (0x2009, "20 20"), (0x2011, "2010"), (0x2017, "20.333"), (0x202F, "20"),
    (0x2033, "2032.2032 2032.2032.2032 - 2035.2035 2035.2035.2035"), (0x203C, "21.21 - 20.305"),
    (0x2047, "3F.3F 3F.21 21.3F"), (0x2057, "2032.2032.2032.2032"), (0x205F, "20"),
    (0x2070, "30 69 - - 34 35 36 37 38 39 2B 2212 3D 28 29 6E 30 31 32 33 34 35 36 37 38 39"),
    (0x208A, "2B 2212 3D 28 29 - 61 65 6F 78 259 68 6B 6C 6D 6E 70 73 74"), (0x20A8, "72.73")]

/-- What symbols, kana and enclosed characters become. -/
def mappedSymbols : List (Nat × String) :=
  [(0x2100, "61.2F.63 61.2F.73 63 B0.63 - 63.2F.6F 63.2F.75 25B - B0.66 67 68 68 68 68 127"),
    (0x2110, "69 69 6C 6C - 6E 6E.6F - - 70 71 72 72 72 - - 73.6D 74.65.6C 74.6D - 7A - 3C9"),
    (0x2128, "7A - 6B E5 62 63 - 65 65 66 214E 6D 6F 5D0 5D1 5D2 5D3 69 - 66.61.78 3C0 3B3"),
    (0x213E, "3B3 3C0 2211"), (0x2145, "64 64 65 69 6A"),
    (0x2150, "31.2044.37 31.2044.39 31.2044.31.30 31.2044.33 32.2044.33 31.2044.35"),
    (0x2156, "32.2044.35 33.2044.35 34.2044.35 31.2044.36 35.2044.36 31.2044.38 33.2044.38"),
    (0x215D, "35.2044.38 37.2044.38 31.2044 69 69.69 69.69.69 69.76 76 76.69 76.69.69"),
    (0x2167, "76.69.69.69 69.78 78 78.69 78.69.69 6C 63 64 6D 69 69.69 69.69.69 69.76 76"),
    (0x2175, "76.69 76.69.69 76.69.69.69 69.78 78 78.69 78.69.69 6C 63 64 6D"), (0x2183, "2184"),
    (0x2189, "30.2044.33"), (0x222C, "222B.222B 222B.222B.222B - 222E.222E 222E.222E.222E"),
    (0x2329, "3008 3009"),
    (0x2460, "31 32 33 34 35 36 37 38 39 31.30 31.31 31.32 31.33 31.34 31.35 31.36 31.37"),
    (0x2471, "31.38 31.39 32.30 28.31.29 28.32.29 28.33.29 28.34.29 28.35.29 28.36.29"),
    (0x247A, "28.37.29 28.38.29 28.39.29 28.31.30.29 28.31.31.29 28.31.32.29 28.31.33.29"),
    (0x2481, "28.31.34.29 28.31.35.29 28.31.36.29 28.31.37.29 28.31.38.29 28.31.39.29"),
    (0x2487, "28.32.30.29"),
    (0x249C, "28.61.29 28.62.29 28.63.29 28.64.29 28.65.29 28.66.29 28.67.29 28.68.29"),
    (0x24A4, "28.69.29 28.6A.29 28.6B.29 28.6C.29 28.6D.29 28.6E.29 28.6F.29 28.70.29"),
    (0x24AC, "28.71.29 28.72.29 28.73.29 28.74.29 28.75.29 28.76.29 28.77.29 28.78.29"),
    (0x24B4, "28.79.29 28.7A.29 61 62 63 64 65 66 67 68 69 6A 6B 6C 6D 6E 6F 70 71 72 73 74"),
    (0x24CA, "75 76 77 78 79 7A 61 62 63 64 65 66 67 68 69 6A 6B 6C 6D 6E 6F 70 71 72 73 74"),
    (0x24E4, "75 76 77 78 79 7A 30"), (0x2A0C, "222B.222B.222B.222B"),
    (0x2A74, "3A.3A.3D 3D.3D 3D.3D.3D"), (0x2ADC, "2ADD.338"),
    (0x2C00, "2C30 2C31 2C32 2C33 2C34 2C35 2C36 2C37 2C38 2C39 2C3A 2C3B 2C3C 2C3D 2C3E"),
    (0x2C0F, "2C3F 2C40 2C41 2C42 2C43 2C44 2C45 2C46 2C47 2C48 2C49 2C4A 2C4B 2C4C 2C4D"),
    (0x2C1E, "2C4E 2C4F 2C50 2C51 2C52 2C53 2C54 2C55 2C56 2C57 2C58 2C59 2C5A 2C5B 2C5C"),
    (0x2C2D, "2C5D 2C5E 2C5F"),
    (0x2C60, "2C61 - 26B 1D7D 27D - - 2C68 - 2C6A - 2C6C - 251 271 250 252 - 2C73 - - 2C76"),
    (0x2C7C, "6A 76 23F 240 2C81 - 2C83 - 2C85 - 2C87 - 2C89 - 2C8B - 2C8D - 2C8F - 2C91"),
    (0x2C92, "2C93 - 2C95 - 2C97 - 2C99 - 2C9B - 2C9D - 2C9F - 2CA1 - 2CA3 - 2CA5 - 2CA7"),
    (0x2CA8, "2CA9 - 2CAB - 2CAD - 2CAF - 2CB1 - 2CB3 - 2CB5 - 2CB7 - 2CB9 - 2CBB - 2CBD"),
    (0x2CBE, "2CBF - 2CC1 - 2CC3 - 2CC5 - 2CC7 - 2CC9 - 2CCB - 2CCD - 2CCF - 2CD1 - 2CD3"),
    (0x2CD4, "2CD5 - 2CD7 - 2CD9 - 2CDB - 2CDD - 2CDF - 2CE1 - 2CE3"), (0x2CEB, "2CEC - 2CEE"),
    (0x2CF2, "2CF3"), (0x2D6F, "2D61"), (0x2E9F, "6BCD"), (0x2EF3, "9F9F"),
    (0x2F00, "4E00 4E28 4E36 4E3F 4E59 4E85 4E8C 4EA0 4EBA 513F 5165 516B 5182 5196 51AB"),
    (0x2F0F, "51E0 51F5 5200 529B 52F9 5315 531A 5338 5341 535C 5369 5382 53B6 53C8 53E3"),
    (0x2F1E, "56D7 571F 58EB 5902 590A 5915 5927 5973 5B50 5B80 5BF8 5C0F 5C22 5C38 5C6E"),
    (0x2F2D, "5C71 5DDB 5DE5 5DF1 5DFE 5E72 5E7A 5E7F 5EF4 5EFE 5F0B 5F13 5F50 5F61 5F73"),
    (0x2F3C, "5FC3 6208 6236 624B 652F 6534 6587 6597 65A4 65B9 65E0 65E5 66F0 6708 6728"),
    (0x2F4B, "6B20 6B62 6B79 6BB3 6BCB 6BD4 6BDB 6C0F 6C14 6C34 706B 722A 7236 723B 723F"),
    (0x2F5A, "7247 7259 725B 72AC 7384 7389 74DC 74E6 7518 751F 7528 7530 758B 7592 7676"),
    (0x2F69, "767D 76AE 76BF 76EE 77DB 77E2 77F3 793A 79B8 79BE 7A74 7ACB 7AF9 7C73 7CF8"),
    (0x2F78, "7F36 7F51 7F8A 7FBD 8001 800C 8012 8033 807F 8089 81E3 81EA 81F3 81FC 820C"),
    (0x2F87, "821B 821F 826E 8272 8278 864D 866B 8840 884C 8863 897E 898B 89D2 8A00 8C37"),
    (0x2F96, "8C46 8C55 8C78 8C9D 8D64 8D70 8DB3 8EAB 8ECA 8F9B 8FB0 8FB5 9091 9149 91C6"),
    (0x2FA5, "91CC 91D1 9577 9580 961C 96B6 96B9 96E8 9751 975E 9762 9769 97CB 97ED 97F3"),
    (0x2FB4, "9801 98A8 98DB 98DF 9996 9999 99AC 9AA8 9AD8 9ADF 9B25 9B2F 9B32 9B3C 9B5A"),
    (0x2FC3, "9CE5 9E75 9E7F 9EA5 9EBB 9EC3 9ECD 9ED1 9EF9 9EFD 9F0E 9F13 9F20 9F3B 9F4A"),
    (0x2FD2, "9F52 9F8D 9F9C 9FA0"), (0x3000, "20 - 2E"), (0x3036, "3012 - 5341 5344 5345"),
    (0x309B, "20.3099 20.309A - - 3088.308A"), (0x30FF, "30B3.30C8"),
    (0x3131, "1100 1101 11AA 1102 11AC 11AD 1103 1104 1105 11B0 11B1 11B2 11B3 11B4 11B5"),
    (0x3140, "111A 1106 1107 1108 1121 1109 110A 110B 110C 110D 110E 110F 1110 1111 1112"),
    (0x314F, "1161 1162 1163 1164 1165 1166 1167 1168 1169 116A 116B 116C 116D 116E 116F"),
    (0x315E, "1170 1171 1172 1173 1174 1175 - 1114 1115 11C7 11C8 11CC 11CE 11D3 11D7 11D9"),
    (0x316E, "111C 11DD 11DF 111D 111E 1120 1122 1123 1127 1129 112B 112C 112D 112E 112F"),
    (0x317D, "1132 1136 1140 1147 114C 11F1 11F2 1157 1158 1159 1184 1185 1188 1191 1192"),
    (0x318C, "1194 119E 11A1"),
    (0x3192, "4E00 4E8C 4E09 56DB 4E0A 4E2D 4E0B 7532 4E59 4E19 4E01 5929 5730 4EBA"),
    (0x3200, "28.1100.29 28.1102.29 28.1103.29 28.1105.29 28.1106.29 28.1107.29 28.1109.29"),
    (0x3207, "28.110B.29 28.110C.29 28.110E.29 28.110F.29 28.1110.29 28.1111.29 28.1112.29"),
    (0x320E, "28.AC00.29 28.B098.29 28.B2E4.29 28.B77C.29 28.B9C8.29 28.BC14.29 28.C0AC.29"),
    (0x3215, "28.C544.29 28.C790.29 28.CC28.29 28.CE74.29 28.D0C0.29 28.D30C.29 28.D558.29"),
    (0x321C, "28.C8FC.29 28.C624.C804.29 28.C624.D6C4.29 - 28.4E00.29 28.4E8C.29 28.4E09.29"),
    (0x3223, "28.56DB.29 28.4E94.29 28.516D.29 28.4E03.29 28.516B.29 28.4E5D.29 28.5341.29"),
    (0x322A, "28.6708.29 28.706B.29 28.6C34.29 28.6728.29 28.91D1.29 28.571F.29 28.65E5.29"),
    (0x3231, "28.682A.29 28.6709.29 28.793E.29 28.540D.29 28.7279.29 28.8CA1.29 28.795D.29"),
    (0x3238, "28.52B4.29 28.4EE3.29 28.547C.29 28.5B66.29 28.76E3.29 28.4F01.29 28.8CC7.29"),
    (0x323F, "28.5354.29 28.796D.29 28.4F11.29 28.81EA.29 28.81F3.29 554F 5E7C 6587 7B8F"),
    (0x3250, "70.74.65 32.31 32.32 32.33 32.34 32.35 32.36 32.37 32.38 32.39 33.30 33.31"),
    (0x325C, "33.32 33.33 33.34 33.35 1100 1102 1103 1105 1106 1107 1109 110B 110C 110E 110F"),
    (0x326B, "1110 1111 1112 AC00 B098 B2E4 B77C B9C8 BC14 C0AC C544 C790 CC28 CE74 D0C0"),
    (0x327A, "D30C D558 CC38.ACE0 C8FC.C758 C6B0 - 4E00 4E8C 4E09 56DB 4E94 516D 4E03 516B"),
    (0x3288, "4E5D 5341 6708 706B 6C34 6728 91D1 571F 65E5 682A 6709 793E 540D 7279 8CA1"),
    (0x3297, "795D 52B4 79D8 7537 5973 9069 512A 5370 6CE8 9805 4F11 5199 6B63 4E0A 4E2D"),
    (0x32A6, "4E0B 5DE6 53F3 533B 5B97 5B66 76E3 4F01 8CC7 5354 591C 33.36 33.37 33.38 33.39"),
    (0x32B5, "34.30 34.31 34.32 34.33 34.34 34.35 34.36 34.37 34.38 34.39 35.30 31.6708"),
    (0x32C1, "32.6708 33.6708 34.6708 35.6708 36.6708 37.6708 38.6708 39.6708 31.30.6708"),
    (0x32CA, "31.31.6708 31.32.6708 68.67 65.72.67 65.76 6C.74.64 30A2 30A4 30A6 30A8 30AA"),
    (0x32D5, "30AB 30AD 30AF 30B1 30B3 30B5 30B7 30B9 30BB 30BD 30BF 30C1 30C4 30C6 30C8"),
    (0x32E4, "30CA 30CB 30CC 30CD 30CE 30CF 30D2 30D5 30D8 30DB 30DE 30DF 30E0 30E1 30E2"),
    (0x32F3, "30E4 30E6 30E8 30E9 30EA 30EB 30EC 30ED 30EF 30F0 30F1 30F2 4EE4.548C"),
    (0x3300, "30A2.30D1.30FC.30C8 30A2.30EB.30D5.30A1 30A2.30F3.30DA.30A2 30A2.30FC.30EB"),
    (0x3304, "30A4.30CB.30F3.30B0 30A4.30F3.30C1 30A6.30A9.30F3 30A8.30B9.30AF.30FC.30C9"),
    (0x3308, "30A8.30FC.30AB.30FC 30AA.30F3.30B9 30AA.30FC.30E0 30AB.30A4.30EA"),
    (0x330C, "30AB.30E9.30C3.30C8 30AB.30ED.30EA.30FC 30AC.30ED.30F3 30AC.30F3.30DE"),
    (0x3310, "30AE.30AC 30AE.30CB.30FC 30AD.30E5.30EA.30FC 30AE.30EB.30C0.30FC 30AD.30ED"),
    (0x3315, "30AD.30ED.30B0.30E9.30E0 30AD.30ED.30E1.30FC.30C8.30EB"),
    (0x3317, "30AD.30ED.30EF.30C3.30C8 30B0.30E9.30E0 30B0.30E9.30E0.30C8.30F3"),
    (0x331A, "30AF.30EB.30BC.30A4.30ED 30AF.30ED.30FC.30CD 30B1.30FC.30B9 30B3.30EB.30CA"),
    (0x331E, "30B3.30FC.30DD 30B5.30A4.30AF.30EB 30B5.30F3.30C1.30FC.30E0"),
    (0x3321, "30B7.30EA.30F3.30B0 30BB.30F3.30C1 30BB.30F3.30C8 30C0.30FC.30B9 30C7.30B7"),
    (0x3326, "30C9.30EB 30C8.30F3 30CA.30CE 30CE.30C3.30C8 30CF.30A4.30C4"),
    (0x332B, "30D1.30FC.30BB.30F3.30C8 30D1.30FC.30C4 30D0.30FC.30EC.30EB"),
    (0x332E, "30D4.30A2.30B9.30C8.30EB 30D4.30AF.30EB 30D4.30B3 30D3.30EB"),
    (0x3332, "30D5.30A1.30E9.30C3.30C9 30D5.30A3.30FC.30C8 30D6.30C3.30B7.30A7.30EB"),
    (0x3335, "30D5.30E9.30F3 30D8.30AF.30BF.30FC.30EB 30DA.30BD 30DA.30CB.30D2"),
    (0x3339, "30D8.30EB.30C4 30DA.30F3.30B9 30DA.30FC.30B8 30D9.30FC.30BF"),
    (0x333D, "30DD.30A4.30F3.30C8 30DC.30EB.30C8 30DB.30F3 30DD.30F3.30C9 30DB.30FC.30EB"),
    (0x3342, "30DB.30FC.30F3 30DE.30A4.30AF.30ED 30DE.30A4.30EB 30DE.30C3.30CF"),
    (0x3346, "30DE.30EB.30AF 30DE.30F3.30B7.30E7.30F3 30DF.30AF.30ED.30F3 30DF.30EA"),
    (0x334A, "30DF.30EA.30D0.30FC.30EB 30E1.30AC 30E1.30AC.30C8.30F3 30E1.30FC.30C8.30EB"),
    (0x334E, "30E4.30FC.30C9 30E4.30FC.30EB 30E6.30A2.30F3 30EA.30C3.30C8.30EB 30EA.30E9"),
    (0x3353, "30EB.30D4.30FC 30EB.30FC.30D6.30EB 30EC.30E0 30EC.30F3.30C8.30B2.30F3"),
    (0x3357, "30EF.30C3.30C8 30.70B9 31.70B9 32.70B9 33.70B9 34.70B9 35.70B9 36.70B9 37.70B9"),
    (0x3360, "38.70B9 39.70B9 31.30.70B9 31.31.70B9 31.32.70B9 31.33.70B9 31.34.70B9"),
    (0x3367, "31.35.70B9 31.36.70B9 31.37.70B9 31.38.70B9 31.39.70B9 32.30.70B9 32.31.70B9"),
    (0x336E, "32.32.70B9 32.33.70B9 32.34.70B9 68.70.61 64.61 61.75 62.61.72 6F.76 70.63"),
    (0x3377, "64.6D 64.6D.32 64.6D.33 69.75 5E73.6210 662D.548C 5927.6B63 660E.6CBB"),
    (0x337F, "682A.5F0F.4F1A.793E 70.61 6E.61 3BC.61 6D.61 6B.61 6B.62 6D.62 67.62 63.61.6C"),
    (0x3389, "6B.63.61.6C 70.66 6E.66 3BC.66 3BC.67 6D.67 6B.67 68.7A 6B.68.7A 6D.68.7A"),
    (0x3393, "67.68.7A 74.68.7A 3BC.6C 6D.6C 64.6C 6B.6C 66.6D 6E.6D 3BC.6D 6D.6D 63.6D"),
    (0x339E, "6B.6D 6D.6D.32 63.6D.32 6D.32 6B.6D.32 6D.6D.33 63.6D.33 6D.33 6B.6D.33"),
    (0x33A7, "6D.2215.73 6D.2215.73.32 70.61 6B.70.61 6D.70.61 67.70.61 72.61.64"),
    (0x33AE, "72.61.64.2215.73 72.61.64.2215.73.32 70.73 6E.73 3BC.73 6D.73 70.76 6E.76"),
    (0x33B6, "3BC.76 6D.76 6B.76 6D.76 70.77 6E.77 3BC.77 6D.77 6B.77 6D.77 6B.3C9 6D.3C9"),
    (0x33C3, "62.71 63.63 63.64 63.2215.6B.67 - 64.62 67.79 68.61 68.70 69.6E 6B.6B 6B.6D"),
    (0x33CF, "6B.74 6C.6D 6C.6E 6C.6F.67 6C.78 6D.62 6D.69.6C 6D.6F.6C 70.68 - 70.70.6D"),
    (0x33DA, "70.72 73.72 73.76 77.62 76.2215.6D 61.2215.6D 31.65E5 32.65E5 33.65E5 34.65E5"),
    (0x33E4, "35.65E5 36.65E5 37.65E5 38.65E5 39.65E5 31.30.65E5 31.31.65E5 31.32.65E5"),
    (0x33EC, "31.33.65E5 31.34.65E5 31.35.65E5 31.36.65E5 31.37.65E5 31.38.65E5 31.39.65E5"),
    (0x33F3, "32.30.65E5 32.31.65E5 32.32.65E5 32.33.65E5 32.34.65E5 32.35.65E5 32.36.65E5"),
    (0x33FA, "32.37.65E5 32.38.65E5 32.39.65E5 33.30.65E5 33.31.65E5 67.61.6C")]

/-- What compatibility ideographs and presentation forms become. -/
def mappedForms : List (Nat × String) :=
  [(0xA640, "A641 - A643 - A645 - A647 - A649 - A64B - A64D - A64F - A651 - A653 - A655"),
    (0xA656, "A657 - A659 - A65B - A65D - A65F - A661 - A663 - A665 - A667 - A669 - A66B"),
    (0xA66C, "A66D"),
    (0xA680, "A681 - A683 - A685 - A687 - A689 - A68B - A68D - A68F - A691 - A693 - A695"),
    (0xA696, "A697 - A699 - A69B - 44A 44C"),
    (0xA722, "A723 - A725 - A727 - A729 - A72B - A72D - A72F"),
    (0xA732, "A733 - A735 - A737 - A739 - A73B - A73D - A73F - A741 - A743 - A745 - A747"),
    (0xA748, "A749 - A74B - A74D - A74F - A751 - A753 - A755 - A757 - A759 - A75B - A75D"),
    (0xA75E, "A75F - A761 - A763 - A765 - A767 - A769 - A76B - A76D - A76F - A76F"),
    (0xA779, "A77A - A77C - 1D79 A77F - A781 - A783 - A785 - A787"),
    (0xA78B, "A78C - 265 - - A791 - A793"),
    (0xA796, "A797 - A799 - A79B - A79D - A79F - A7A1 - A7A3 - A7A5 - A7A7 - A7A9 - 266 25C"),
    (0xA7AC, "261 26C 26A - 29E 287 29D AB53 A7B5 - A7B7 - A7B9 - A7BB - A7BD - A7BF - A7C1"),
    (0xA7C2, "A7C3 - A794 282 1D8E A7C8 - A7CA - 264 A7CD - A7CF - A7D1 - A7D3 - A7D5 - A7D7"),
    (0xA7D8, "A7D9 - A7DB - 19B"), (0xA7F1, "73 63 66 71 A7F6 - - 127 153"),
    (0xAB5C, "A727 AB37 26B AB52"), (0xAB69, "28D"),
    (0xAB70, "13A0 13A1 13A2 13A3 13A4 13A5 13A6 13A7 13A8 13A9 13AA 13AB 13AC 13AD 13AE"),
    (0xAB7F, "13AF 13B0 13B1 13B2 13B3 13B4 13B5 13B6 13B7 13B8 13B9 13BA 13BB 13BC 13BD"),
    (0xAB8E, "13BE 13BF 13C0 13C1 13C2 13C3 13C4 13C5 13C6 13C7 13C8 13C9 13CA 13CB 13CC"),
    (0xAB9D, "13CD 13CE 13CF 13D0 13D1 13D2 13D3 13D4 13D5 13D6 13D7 13D8 13D9 13DA 13DB"),
    (0xABAC, "13DC 13DD 13DE 13DF 13E0 13E1 13E2 13E3 13E4 13E5 13E6 13E7 13E8 13E9 13EA"),
    (0xABBB, "13EB 13EC 13ED 13EE 13EF"),
    (0xF900, "8C48 66F4 8ECA 8CC8 6ED1 4E32 53E5 9F9C 9F9C 5951 91D1 5587 5948 61F6 7669"),
    (0xF90F, "7F85 863F 87BA 88F8 908F 6A02 6D1B 70D9 73DE 843D 916A 99F1 4E82 5375 6B04"),
    (0xF91E, "721B 862D 9E1E 5D50 6FEB 85CD 8964 62C9 81D8 881F 5ECA 6717 6D6A 72FC 90CE"),
    (0xF92D, "4F86 51B7 52DE 64C4 6AD3 7210 76E7 8001 8606 865C 8DEF 9732 9B6F 9DFA 788C"),
    (0xF93C, "797F 7DA0 83C9 9304 9E7F 8AD6 58DF 5F04 7C60 807E 7262 78CA 8CC2 96F7 58D8"),
    (0xF94B, "5C62 6A13 6DDA 6F0F 7D2F 7E37 964B 52D2 808B 51DC 51CC 7A1C 7DBE 83F1 9675"),
    (0xF95A, "8B80 62CF 6A02 8AFE 4E39 5BE7 6012 7387 7570 5317 78FB 4FBF 5FA9 4E0D 6CCC"),
    (0xF969, "6578 7D22 53C3 585E 7701 8449 8AAA 6BBA 8FB0 6C88 62FE 82E5 63A0 7565 4EAE"),
    (0xF978, "5169 51C9 6881 7CE7 826F 8AD2 91CF 52F5 5442 5973 5EEC 65C5 6FFE 792A 95AD"),
    (0xF987, "9A6A 9E97 9ECE 529B 66C6 6B77 8F62 5E74 6190 6200 649A 6F23 7149 7489 79CA"),
    (0xF996, "7DF4 806F 8F26 84EE 9023 934A 5217 52A3 54BD 70C8 88C2 8AAA 5EC9 5FF5 637B"),
    (0xF9A5, "6BAE 7C3E 7375 4EE4 56F9 5BE7 5DBA 601C 73B2 7469 7F9A 8046 9234 96F6 9748"),
    (0xF9B4, "9818 4F8B 79AE 91B4 96B8 60E1 4E86 50DA 5BEE 5C3F 6599 6A02 71CE 7642 84FC"),
    (0xF9C3, "907C 9F8D 6688 962E 5289 677B 67F3 6D41 6E9C 7409 7559 786B 7D10 985E 516D"),
    (0xF9D2, "622E 9678 502B 5D19 6DEA 8F2A 5F8B 6144 6817 7387 9686 5229 540F 5C65 6613"),
    (0xF9E1, "674E 68A8 6CE5 7406 75E2 7F79 88CF 88E1 91CC 96E2 533F 6EBA 541D 71D0 7498"),
    (0xF9F0, "85FA 96A3 9C57 9E9F 6797 6DCB 81E8 7ACB 7B20 7C92 72C0 7099 8B58 4EC0 8336"),
    (0xF9FF, "523A 5207 5EA6 62D3 7CD6 5B85 6D1E 66B4 8F3B 884C 964D 898B 5ED3 5140 55C0"),
    (0xFA10, "585A - 6674 - - 51DE 732A 76CA 793C 795E 7965 798F 9756 7CBE 7FBD - 8612"),
    (0xFA22, "8AF8 - - 9038 90FD"),
    (0xFA2A, "98EF 98FC 9928 9DB4 90DE 96B7 4FAE 50E7 514D 52C9 52E4 5351 559D 5606 5668"),
    (0xFA39, "5840 58A8 5C64 5C6E 6094 6168 618E 61F2 654F 65E2 6691 6885 6D77 6E1A 6F22"),
    (0xFA48, "716E 722B 7422 7891 793E 7949 7948 7950 7956 795D 798D 798E 7A40 7A81 7BC0"),
    (0xFA57, "7DF4 7E09 7E41 7F72 8005 81ED 8279 8279 8457 8910 8996 8B01 8B39 8CD3 8D08"),
    (0xFA66, "8FB6 9038 96E3 97FF 983B 6075 242EE 8218 - - 4E26 51B5 5168 4F80 5145 5180"),
    (0xFA76, "52C7 52FA 559D 5555 5599 55E2 585A 58B3 5944 5954 5A62 5B28 5ED2 5ED9 5F69"),
    (0xFA85, "5FAD 60D8 614E 6108 618E 6160 61F2 6234 63C4 641C 6452 6556 6674 6717 671B"),
    (0xFA94, "6756 6B79 6BBA 6D41 6EDB 6ECB 6F22 701E 716E 77A7 7235 72AF 732A 7471 7506"),
    (0xFAA3, "753B 761D 761F 76CA 76DB 76F4 774A 7740 78CC 7AB1 7BC0 7C7B 7D5B 7DF4 7F3E"),
    (0xFAB2, "8005 8352 83EF 8779 8941 8986 8996 8ABF 8AF8 8ACB 8B01 8AFE 8AED 8B39 8B8A"),
    (0xFAC1, "8D08 8F38 9072 9199 9276 967C 96E3 9756 97DB 97FF 980B 983B 9B12 9F9C 2284A"),
    (0xFAD0, "22844 233D5 3B9D 4018 4039 25249 25CD0 27ED3 9F43 9F8E"),
    (0xFB00, "66.66 66.69 66.6C 66.66.69 66.66.6C 73.74 73.74"),
    (0xFB13, "574.576 574.565 574.56B 57E.576 574.56D"),
    (0xFB1D, "5D9.5B4 - 5F2.5B7 5E2 5D0 5D3 5D4 5DB 5DC 5DD 5E8 5EA 2B 5E9.5C1 5E9.5C2"),
    (0xFB2C, "5E9.5BC.5C1 5E9.5BC.5C2 5D0.5B7 5D0.5B8 5D0.5BC 5D1.5BC 5D2.5BC 5D3.5BC"),
    (0xFB34, "5D4.5BC 5D5.5BC 5D6.5BC - 5D8.5BC 5D9.5BC 5DA.5BC 5DB.5BC 5DC.5BC - 5DE.5BC"),
    (0xFB40, "5E0.5BC 5E1.5BC - 5E3.5BC 5E4.5BC - 5E6.5BC 5E7.5BC 5E8.5BC 5E9.5BC 5EA.5BC"),
    (0xFB4B, "5D5.5B9 5D1.5BF 5DB.5BF 5E4.5BF 5D0.5DC 671 671 67B 67B 67B 67B 67E 67E 67E"),
    (0xFB59, "67E 680 680 680 680 67A 67A 67A 67A 67F 67F 67F 67F 679 679 679 679 6A4 6A4"),
    (0xFB6C, "6A4 6A4 6A6 6A6 6A6 6A6 684 684 684 684 683 683 683 683 686 686 686 686 687"),
    (0xFB7F, "687 687 687 68D 68D 68C 68C 68E 68E 688 688 698 698 691 691 6A9 6A9 6A9 6A9"),
    (0xFB92, "6AF 6AF 6AF 6AF 6B3 6B3 6B3 6B3 6B1 6B1 6B1 6B1 6BA 6BA 6BB 6BB 6BB 6BB 6C0"),
    (0xFBA5, "6C0 6C1 6C1 6C1 6C1 6BE 6BE 6BE 6BE 6D2 6D2 6D3 6D3"),
    (0xFBD3, "6AD 6AD 6AD 6AD 6C7 6C7 6C6 6C6 6C8 6C8 6C7.674 6CB 6CB 6C5 6C5 6C9 6C9 6D0"),
    (0xFBE5, "6D0 6D0 6D0 649 649 626.627 626.627 626.6D5 626.6D5 626.648 626.648 626.6C7"),
    (0xFBF1, "626.6C7 626.6C6 626.6C6 626.6C8 626.6C8 626.6D0 626.6D0 626.6D0 626.649"),
    (0xFBFA, "626.649 626.649 6CC 6CC 6CC 6CC 626.62C 626.62D 626.645 626.649 626.64A"),
    (0xFC05, "628.62C 628.62D 628.62E 628.645 628.649 628.64A 62A.62C 62A.62D 62A.62E"),
    (0xFC0E, "62A.645 62A.649 62A.64A 62B.62C 62B.645 62B.649 62B.64A 62C.62D 62C.645"),
    (0xFC17, "62D.62C 62D.645 62E.62C 62E.62D 62E.645 633.62C 633.62D 633.62E 633.645"),
    (0xFC20, "635.62D 635.645 636.62C 636.62D 636.62E 636.645 637.62D 637.645 638.645"),
    (0xFC29, "639.62C 639.645 63A.62C 63A.645 641.62C 641.62D 641.62E 641.645 641.649"),
    (0xFC32, "641.64A 642.62D 642.645 642.649 642.64A 643.627 643.62C 643.62D 643.62E"),
    (0xFC3B, "643.644 643.645 643.649 643.64A 644.62C 644.62D 644.62E 644.645 644.649"),
    (0xFC44, "644.64A 645.62C 645.62D 645.62E 645.645 645.649 645.64A 646.62C 646.62D"),
    (0xFC4D, "646.62E 646.645 646.649 646.64A 647.62C 647.645 647.649 647.64A 64A.62C"),
    (0xFC56, "64A.62D 64A.62E 64A.645 64A.649 64A.64A 630.670 631.670 649.670 20.64C.651"),
    (0xFC5F, "20.64D.651 20.64E.651 20.64F.651 20.650.651 20.651.670 626.631 626.632 626.645"),
    (0xFC67, "626.646 626.649 626.64A 628.631 628.632 628.645 628.646 628.649 628.64A"),
    (0xFC70, "62A.631 62A.632 62A.645 62A.646 62A.649 62A.64A 62B.631 62B.632 62B.645"),
    (0xFC79, "62B.646 62B.649 62B.64A 641.649 641.64A 642.649 642.64A 643.627 643.644"),
    (0xFC82, "643.645 643.649 643.64A 644.645 644.649 644.64A 645.627 645.645 646.631"),
    (0xFC8B, "646.632 646.645 646.646 646.649 646.64A 649.670 64A.631 64A.632 64A.645"),
    (0xFC94, "64A.646 64A.649 64A.64A 626.62C 626.62D 626.62E 626.645 626.647 628.62C"),
    (0xFC9D, "628.62D 628.62E 628.645 628.647 62A.62C 62A.62D 62A.62E 62A.645 62A.647"),
    (0xFCA6, "62B.645 62C.62D 62C.645 62D.62C 62D.645 62E.62C 62E.645 633.62C 633.62D"),
    (0xFCAF, "633.62E 633.645 635.62D 635.62E 635.645 636.62C 636.62D 636.62E 636.645"),
    (0xFCB8, "637.62D 638.645 639.62C 639.645 63A.62C 63A.645 641.62C 641.62D 641.62E"),
    (0xFCC1, "641.645 642.62D 642.645 643.62C 643.62D 643.62E 643.644 643.645 644.62C"),
    (0xFCCA, "644.62D 644.62E 644.645 644.647 645.62C 645.62D 645.62E 645.645 646.62C"),
    (0xFCD3, "646.62D 646.62E 646.645 646.647 647.62C 647.645 647.670 64A.62C 64A.62D"),
    (0xFCDC, "64A.62E 64A.645 64A.647 626.645 626.647 628.645 628.647 62A.645 62A.647"),
    (0xFCE5, "62B.645 62B.647 633.645 633.647 634.645 634.647 643.644 643.645 644.645"),
    (0xFCEE, "646.645 646.647 64A.645 64A.647 640.64E.651 640.64F.651 640.650.651 637.649"),
    (0xFCF6, "637.64A 639.649 639.64A 63A.649 63A.64A 633.649 633.64A 634.649 634.64A"),
    (0xFCFF, "62D.649 62D.64A 62C.649 62C.64A 62E.649 62E.64A 635.649 635.64A 636.649"),
    (0xFD08, "636.64A 634.62C 634.62D 634.62E 634.645 634.631 633.631 635.631 636.631"),
    (0xFD11, "637.649 637.64A 639.649 639.64A 63A.649 63A.64A 633.649 633.64A 634.649"),
    (0xFD1A, "634.64A 62D.649 62D.64A 62C.649 62C.64A 62E.649 62E.64A 635.649 635.64A"),
    (0xFD23, "636.649 636.64A 634.62C 634.62D 634.62E 634.645 634.631 633.631 635.631"),
    (0xFD2C, "636.631 634.62C 634.62D 634.62E 634.645 633.647 634.647 637.645 633.62C"),
    (0xFD35, "633.62D 633.62E 634.62C 634.62D 634.62E 637.645 638.645 627.64B 627.64B"),
    (0xFD50, "62A.62C.645 62A.62D.62C 62A.62D.62C 62A.62D.645 62A.62E.645 62A.645.62C"),
    (0xFD56, "62A.645.62D 62A.645.62E 62C.645.62D 62C.645.62D 62D.645.64A 62D.645.649"),
    (0xFD5C, "633.62D.62C 633.62C.62D 633.62C.649 633.645.62D 633.645.62D 633.645.62C"),
    (0xFD62, "633.645.645 633.645.645 635.62D.62D 635.62D.62D 635.645.645 634.62D.645"),
    (0xFD68, "634.62D.645 634.62C.64A 634.645.62E 634.645.62E 634.645.645 634.645.645"),
    (0xFD6E, "636.62D.649 636.62E.645 636.62E.645 637.645.62D 637.645.62D 637.645.645"),
    (0xFD74, "637.645.64A 639.62C.645 639.645.645 639.645.645 639.645.649 63A.645.645"),
    (0xFD7A, "63A.645.64A 63A.645.649 641.62E.645 641.62E.645 642.645.62D 642.645.645"),
    (0xFD80, "644.62D.645 644.62D.64A 644.62D.649 644.62C.62C 644.62C.62C 644.62E.645"),
    (0xFD86, "644.62E.645 644.645.62D 644.645.62D 645.62D.62C 645.62D.645 645.62D.64A"),
    (0xFD8C, "645.62C.62D 645.62C.645 645.62E.62C 645.62E.645 - - 645.62C.62E 647.645.62C"),
    (0xFD94, "647.645.645 646.62D.645 646.62D.649 646.62C.645 646.62C.645 646.62C.649"),
    (0xFD9A, "646.645.64A 646.645.649 64A.645.645 64A.645.645 628.62E.64A 62A.62C.64A"),
    (0xFDA0, "62A.62C.649 62A.62E.64A 62A.62E.649 62A.645.64A 62A.645.649 62C.645.64A"),
    (0xFDA6, "62C.62D.649 62C.645.649 633.62E.649 635.62D.64A 634.62D.64A 636.62D.64A"),
    (0xFDAC, "644.62C.64A 644.645.64A 64A.62D.64A 64A.62C.64A 64A.645.64A 645.645.64A"),
    (0xFDB2, "642.645.64A 646.62D.64A 642.645.62D 644.62D.645 639.645.64A 643.645.64A"),
    (0xFDB8, "646.62C.62D 645.62E.64A 644.62C.645 643.645.645 644.62C.645 646.62C.62D"),
    (0xFDBE, "62C.62D.64A 62D.62C.64A 645.62C.64A 641.645.64A 628.62D.64A 643.645.645"),
    (0xFDC4, "639.62C.645 635.645.645 633.62E.64A 646.62C.64A"),
    (0xFDF0, "635.644.6D2 642.644.6D2 627.644.644.647 627.643.628.631 645.62D.645.62F"),
    (0xFDF5, "635.644.639.645 631.633.648.644 639.644.64A.647 648.633.644.645 635.644.649"),
    (0xFDFA, "635.644.649.20.627.644.644.647.20.639.644.64A.647.20.648.633.644.645"),
    (0xFDFB, "62C.644.20.62C.644.627.644.647 631.6CC.627.644"),
    (0xFE10, "2C 3001 - 3A 3B 21 3F 3016 3017"),
    (0xFE31, "2014 2013 5F 5F 28 29 7B 7D 3014 3015 3010 3011 300A 300B 3008 3009 300C 300D"),
    (0xFE43, "300E 300F - - 5B 5D 20.305 20.305 20.305 20.305 5F 5F 5F 2C 3001 - - 3B 3A 3F"),
    (0xFE57, "21 2014 28 29 7B 7D 3014 3015 23 26 2A 2B 2D 3C 3E 3D - 5C 24 25 40"),
    (0xFE70, "20.64B 640.64B 20.64C - 20.64D - 20.64E 640.64E 20.64F 640.64F 20.650 640.650"),
    (0xFE7C, "20.651 640.651 20.652 640.652 621 622 622 623 623 624 624 625 625 626 626 626"),
    (0xFE8C, "626 627 627 628 628 628 628 629 629 62A 62A 62A 62A 62B 62B 62B 62B 62C 62C"),
    (0xFE9F, "62C 62C 62D 62D 62D 62D 62E 62E 62E 62E 62F 62F 630 630 631 631 632 632 633"),
    (0xFEB2, "633 633 633 634 634 634 634 635 635 635 635 636 636 636 636 637 637 637 637"),
    (0xFEC5, "638 638 638 638 639 639 639 639 63A 63A 63A 63A 641 641 641 641 642 642 642"),
    (0xFED8, "642 643 643 643 643 644 644 644 644 645 645 645 645 646 646 646 646 647 647"),
    (0xFEEB, "647 647 648 648 649 649 64A 64A 64A 64A 644.622 644.622 644.623 644.623"),
    (0xFEF9, "644.625 644.625 644.627 644.627"),
    (0xFF01, "21 22 23 24 25 26 27 28 29 2A 2B 2C 2D 2E 2F 30 31 32 33 34 35 36 37 38 39 3A"),
    (0xFF1B, "3B 3C 3D 3E 3F 40 61 62 63 64 65 66 67 68 69 6A 6B 6C 6D 6E 6F 70 71 72 73 74"),
    (0xFF35, "75 76 77 78 79 7A 5B 5C 5D 5E 5F 60 61 62 63 64 65 66 67 68 69 6A 6B 6C 6D 6E"),
    (0xFF4F, "6F 70 71 72 73 74 75 76 77 78 79 7A 7B 7C 7D 7E 2985 2986 2E 300C 300D 3001"),
    (0xFF65, "30FB 30F2 30A1 30A3 30A5 30A7 30A9 30E3 30E5 30E7 30C3 30FC 30A2 30A4 30A6"),
    (0xFF74, "30A8 30AA 30AB 30AD 30AF 30B1 30B3 30B5 30B7 30B9 30BB 30BD 30BF 30C1 30C4"),
    (0xFF83, "30C6 30C8 30CA 30CB 30CC 30CD 30CE 30CF 30D2 30D5 30D8 30DB 30DE 30DF 30E0"),
    (0xFF92, "30E1 30E2 30E4 30E6 30E8 30E9 30EA 30EB 30EC 30ED 30EF 30F3 3099 309A - 1100"),
    (0xFFA2, "1101 11AA 1102 11AC 11AD 1103 1104 1105 11B0 11B1 11B2 11B3 11B4 11B5 111A"),
    (0xFFB1, "1106 1107 1108 1121 1109 110A 110B 110C 110D 110E 110F 1110 1111 1112"),
    (0xFFC2, "1161 1162 1163 1164 1165 1166 - - 1167 1168 1169 116A 116B 116C - - 116D 116E"),
    (0xFFD4, "116F 1170 1171 1172 - - 1173 1174 1175"),
    (0xFFE0, "A2 A3 AC 20.304 A6 A5 20A9 - 2502 2190 2191 2192 2193 25A0 25CB")]

/-- What characters outside the basic plane become. -/
def mappedHigh : List (Nat × String) :=
  [(0x10400, "10428 10429 1042A 1042B 1042C 1042D 1042E 1042F 10430 10431 10432 10433 10434"),
    (0x1040D, "10435 10436 10437 10438 10439 1043A 1043B 1043C 1043D 1043E 1043F 10440 10441"),
    (0x1041A, "10442 10443 10444 10445 10446 10447 10448 10449 1044A 1044B 1044C 1044D 1044E"),
    (0x10427, "1044F"),
    (0x104B0, "104D8 104D9 104DA 104DB 104DC 104DD 104DE 104DF 104E0 104E1 104E2 104E3 104E4"),
    (0x104BD, "104E5 104E6 104E7 104E8 104E9 104EA 104EB 104EC 104ED 104EE 104EF 104F0 104F1"),
    (0x104CA, "104F2 104F3 104F4 104F5 104F6 104F7 104F8 104F9 104FA 104FB"),
    (0x10570, "10597 10598 10599 1059A 1059B 1059C 1059D 1059E 1059F 105A0 105A1 - 105A3"),
    (0x1057D, "105A4 105A5 105A6 105A7 105A8 105A9 105AA 105AB 105AC 105AD 105AE 105AF 105B0"),
    (0x1058A, "105B1 - 105B3 105B4 105B5 105B6 105B7 105B8 105B9 - 105BB 105BC"),
    (0x10781, "2D0 2D1 E6 299 253 - 2A3 AB66 2A5 2A4 256 257 1D91 258 25E 2A9 264 262 260 29B"),
    (0x10795, "127 29C 267 284 2AA 2AB 26C 1DF04 A78E 26E 1DF05 28E 1DF06 F8 276 277 71 27A"),
    (0x107A7, "1DF08 27D 27E 280 2A8 2A6 AB67 2A7 288 2C71 - 28F 2A1 2A2 298 1C0 1C1 1C2"),
    (0x107B9, "1DF0A 1DF1E"),
    (0x10C80, "10CC0 10CC1 10CC2 10CC3 10CC4 10CC5 10CC6 10CC7 10CC8 10CC9 10CCA 10CCB 10CCC"),
    (0x10C8D, "10CCD 10CCE 10CCF 10CD0 10CD1 10CD2 10CD3 10CD4 10CD5 10CD6 10CD7 10CD8 10CD9"),
    (0x10C9A, "10CDA 10CDB 10CDC 10CDD 10CDE 10CDF 10CE0 10CE1 10CE2 10CE3 10CE4 10CE5 10CE6"),
    (0x10CA7, "10CE7 10CE8 10CE9 10CEA 10CEB 10CEC 10CED 10CEE 10CEF 10CF0 10CF1 10CF2"),
    (0x10D50, "10D70 10D71 10D72 10D73 10D74 10D75 10D76 10D77 10D78 10D79 10D7A 10D7B 10D7C"),
    (0x10D5D, "10D7D 10D7E 10D7F 10D80 10D81 10D82 10D83 10D84 10D85"),
    (0x118A0, "118C0 118C1 118C2 118C3 118C4 118C5 118C6 118C7 118C8 118C9 118CA 118CB 118CC"),
    (0x118AD, "118CD 118CE 118CF 118D0 118D1 118D2 118D3 118D4 118D5 118D6 118D7 118D8 118D9"),
    (0x118BA, "118DA 118DB 118DC 118DD 118DE 118DF"),
    (0x16E40, "16E60 16E61 16E62 16E63 16E64 16E65 16E66 16E67 16E68 16E69 16E6A 16E6B 16E6C"),
    (0x16E4D, "16E6D 16E6E 16E6F 16E70 16E71 16E72 16E73 16E74 16E75 16E76 16E77 16E78 16E79"),
    (0x16E5A, "16E7A 16E7B 16E7C 16E7D 16E7E 16E7F"),
    (0x16EA0, "16EBB 16EBC 16EBD 16EBE 16EBF 16EC0 16EC1 16EC2 16EC3 16EC4 16EC5 16EC6 16EC7"),
    (0x16EAD, "16EC8 16EC9 16ECA 16ECB 16ECC 16ECD 16ECE 16ECF 16ED0 16ED1 16ED2 16ED3"),
    (0x1CCD6, "61 62 63 64 65 66 67 68 69 6A 6B 6C 6D 6E 6F 70 71 72 73 74 75 76 77 78 79 7A"),
    (0x1CCF0, "30 31 32 33 34 35 36 37 38 39"),
    (0x1D15E, "1D157.1D165 1D158.1D165 1D158.1D165.1D16E 1D158.1D165.1D16F 1D158.1D165.1D170"),
    (0x1D163, "1D158.1D165.1D171 1D158.1D165.1D172"),
    (0x1D1BB, "1D1B9.1D165 1D1BA.1D165 1D1B9.1D165.1D16E 1D1BA.1D165.1D16E 1D1B9.1D165.1D16F"),
    (0x1D1C0, "1D1BA.1D165.1D16F"),
    (0x1D400, "61 62 63 64 65 66 67 68 69 6A 6B 6C 6D 6E 6F 70 71 72 73 74 75 76 77 78 79 7A"),
    (0x1D41A, "61 62 63 64 65 66 67 68 69 6A 6B 6C 6D 6E 6F 70 71 72 73 74 75 76 77 78 79 7A"),
    (0x1D434, "61 62 63 64 65 66 67 68 69 6A 6B 6C 6D 6E 6F 70 71 72 73 74 75 76 77 78 79 7A"),
    (0x1D44E, "61 62 63 64 65 66 67 - 69 6A 6B 6C 6D 6E 6F 70 71 72 73 74 75 76 77 78 79 7A"),
    (0x1D468, "61 62 63 64 65 66 67 68 69 6A 6B 6C 6D 6E 6F 70 71 72 73 74 75 76 77 78 79 7A"),
    (0x1D482, "61 62 63 64 65 66 67 68 69 6A 6B 6C 6D 6E 6F 70 71 72 73 74 75 76 77 78 79 7A"),
    (0x1D49C, "61 - 63 64 - - 67 - - 6A 6B - - 6E 6F 70 71 - 73 74 75 76 77 78 79 7A 61 62 63"),
    (0x1D4B9, "64 - 66 - 68 69 6A 6B 6C 6D 6E - 70 71 72 73 74 75 76 77 78 79 7A 61 62 63 64"),
    (0x1D4D4, "65 66 67 68 69 6A 6B 6C 6D 6E 6F 70 71 72 73 74 75 76 77 78 79 7A 61 62 63 64"),
    (0x1D4EE, "65 66 67 68 69 6A 6B 6C 6D 6E 6F 70 71 72 73 74 75 76 77 78 79 7A 61 62 - 64"),
    (0x1D508, "65 66 67 - - 6A 6B 6C 6D 6E 6F 70 71 - 73 74 75 76 77 78 79 - 61 62 63 64 65"),
    (0x1D523, "66 67 68 69 6A 6B 6C 6D 6E 6F 70 71 72 73 74 75 76 77 78 79 7A 61 62 - 64 65"),
    (0x1D53D, "66 67 - 69 6A 6B 6C 6D - 6F"),
    (0x1D54A, "73 74 75 76 77 78 79 - 61 62 63 64 65 66 67 68 69 6A 6B 6C 6D 6E 6F 70 71 72"),
    (0x1D564, "73 74 75 76 77 78 79 7A 61 62 63 64 65 66 67 68 69 6A 6B 6C 6D 6E 6F 70 71 72"),
    (0x1D57E, "73 74 75 76 77 78 79 7A 61 62 63 64 65 66 67 68 69 6A 6B 6C 6D 6E 6F 70 71 72"),
    (0x1D598, "73 74 75 76 77 78 79 7A 61 62 63 64 65 66 67 68 69 6A 6B 6C 6D 6E 6F 70 71 72"),
    (0x1D5B2, "73 74 75 76 77 78 79 7A 61 62 63 64 65 66 67 68 69 6A 6B 6C 6D 6E 6F 70 71 72"),
    (0x1D5CC, "73 74 75 76 77 78 79 7A 61 62 63 64 65 66 67 68 69 6A 6B 6C 6D 6E 6F 70 71 72"),
    (0x1D5E6, "73 74 75 76 77 78 79 7A 61 62 63 64 65 66 67 68 69 6A 6B 6C 6D 6E 6F 70 71 72"),
    (0x1D600, "73 74 75 76 77 78 79 7A 61 62 63 64 65 66 67 68 69 6A 6B 6C 6D 6E 6F 70 71 72"),
    (0x1D61A, "73 74 75 76 77 78 79 7A 61 62 63 64 65 66 67 68 69 6A 6B 6C 6D 6E 6F 70 71 72"),
    (0x1D634, "73 74 75 76 77 78 79 7A 61 62 63 64 65 66 67 68 69 6A 6B 6C 6D 6E 6F 70 71 72"),
    (0x1D64E, "73 74 75 76 77 78 79 7A 61 62 63 64 65 66 67 68 69 6A 6B 6C 6D 6E 6F 70 71 72"),
    (0x1D668, "73 74 75 76 77 78 79 7A 61 62 63 64 65 66 67 68 69 6A 6B 6C 6D 6E 6F 70 71 72"),
    (0x1D682, "73 74 75 76 77 78 79 7A 61 62 63 64 65 66 67 68 69 6A 6B 6C 6D 6E 6F 70 71 72"),
    (0x1D69C, "73 74 75 76 77 78 79 7A 131 237 - - 3B1 3B2 3B3 3B4 3B5 3B6 3B7 3B8 3B9 3BA"),
    (0x1D6B2, "3BB 3BC 3BD 3BE 3BF 3C0 3C1 3B8 3C3 3C4 3C5 3C6 3C7 3C8 3C9 2207 3B1 3B2 3B3"),
    (0x1D6C5, "3B4 3B5 3B6 3B7 3B8 3B9 3BA 3BB 3BC 3BD 3BE 3BF 3C0 3C1 3C3 3C3 3C4 3C5 3C6"),
    (0x1D6D8, "3C7 3C8 3C9 2202 3B5 3B8 3BA 3C6 3C1 3C0 3B1 3B2 3B3 3B4 3B5 3B6 3B7 3B8 3B9"),
    (0x1D6EB, "3BA 3BB 3BC 3BD 3BE 3BF 3C0 3C1 3B8 3C3 3C4 3C5 3C6 3C7 3C8 3C9 2207 3B1 3B2"),
    (0x1D6FE, "3B3 3B4 3B5 3B6 3B7 3B8 3B9 3BA 3BB 3BC 3BD 3BE 3BF 3C0 3C1 3C3 3C3 3C4 3C5"),
    (0x1D711, "3C6 3C7 3C8 3C9 2202 3B5 3B8 3BA 3C6 3C1 3C0 3B1 3B2 3B3 3B4 3B5 3B6 3B7 3B8"),
    (0x1D724, "3B9 3BA 3BB 3BC 3BD 3BE 3BF 3C0 3C1 3B8 3C3 3C4 3C5 3C6 3C7 3C8 3C9 2207 3B1"),
    (0x1D737, "3B2 3B3 3B4 3B5 3B6 3B7 3B8 3B9 3BA 3BB 3BC 3BD 3BE 3BF 3C0 3C1 3C3 3C3 3C4"),
    (0x1D74A, "3C5 3C6 3C7 3C8 3C9 2202 3B5 3B8 3BA 3C6 3C1 3C0 3B1 3B2 3B3 3B4 3B5 3B6 3B7"),
    (0x1D75D, "3B8 3B9 3BA 3BB 3BC 3BD 3BE 3BF 3C0 3C1 3B8 3C3 3C4 3C5 3C6 3C7 3C8 3C9 2207"),
    (0x1D770, "3B1 3B2 3B3 3B4 3B5 3B6 3B7 3B8 3B9 3BA 3BB 3BC 3BD 3BE 3BF 3C0 3C1 3C3 3C3"),
    (0x1D783, "3C4 3C5 3C6 3C7 3C8 3C9 2202 3B5 3B8 3BA 3C6 3C1 3C0 3B1 3B2 3B3 3B4 3B5 3B6"),
    (0x1D796, "3B7 3B8 3B9 3BA 3BB 3BC 3BD 3BE 3BF 3C0 3C1 3B8 3C3 3C4 3C5 3C6 3C7 3C8 3C9"),
    (0x1D7A9, "2207 3B1 3B2 3B3 3B4 3B5 3B6 3B7 3B8 3B9 3BA 3BB 3BC 3BD 3BE 3BF 3C0 3C1 3C3"),
    (0x1D7BC, "3C3 3C4 3C5 3C6 3C7 3C8 3C9 2202 3B5 3B8 3BA 3C6 3C1 3C0 3DD 3DD - - 30 31 32"),
    (0x1D7D1, "33 34 35 36 37 38 39 30 31 32 33 34 35 36 37 38 39 30 31 32 33 34 35 36 37 38"),
    (0x1D7EB, "39 30 31 32 33 34 35 36 37 38 39 30 31 32 33 34 35 36 37 38 39"),
    (0x1E030, "430 431 432 433 434 435 436 437 438 43A 43B 43C 43E 43F 440 441 442 443 444"),
    (0x1E043, "445 446 447 448 44B 44D 44E A689 4D9 456 458 4E9 4AF 4CF 430 431 432 433 434"),
    (0x1E056, "435 436 437 438 43A 43B 43E 43F 441 443 444 445 446 447 448 44A 44B 491 456"),
    (0x1E069, "455 45F 4AB A651 4B1"),
    (0x1E900, "1E922 1E923 1E924 1E925 1E926 1E927 1E928 1E929 1E92A 1E92B 1E92C 1E92D 1E92E"),
    (0x1E90D, "1E92F 1E930 1E931 1E932 1E933 1E934 1E935 1E936 1E937 1E938 1E939 1E93A 1E93B"),
    (0x1E91A, "1E93C 1E93D 1E93E 1E93F 1E940 1E941 1E942 1E943"),
    (0x1EE00, "627 628 62C 62F - 648 632 62D 637 64A 643 644 645 646 633 639 641 635 642 631"),
    (0x1EE14, "634 62A 62B 62E 630 636 638 63A 66E 6BA 6A1 66F - 628 62C - 647 - - 62D - 64A"),
    (0x1EE2A, "643 644 645 646 633 639 641 635 642 - 634 62A 62B 62E - 636 - 63A"),
    (0x1EE42, "62C"),
    (0x1EE47, "62D - 64A - 644 - 646 633 639 - 635 642 - 634 - - 62E - 636 - 63A - 6BA - 66F"),
    (0x1EE61, "628 62C - 647 - - 62D 637 64A 643 - 645 646 633 639 641 635 642 - 634 62A 62B"),
    (0x1EE77, "62E - 636 638 63A 66E - 6A1 - 627 628 62C 62F 647 648 632 62D 637 64A - 644"),
    (0x1EE8C, "645 646 633 639 641 635 642 631 634 62A 62B 62E 630 636 638 63A"),
    (0x1EEA1, "628 62C 62F - 648 632 62D 637 64A - 644 645 646 633 639 641 635 642 631 634"),
    (0x1EEB5, "62A 62B 62E 630 636 638 63A"),
    (0x1F101, "30.2C 31.2C 32.2C 33.2C 34.2C 35.2C 36.2C 37.2C 38.2C 39.2C"),
    (0x1F110, "28.61.29 28.62.29 28.63.29 28.64.29 28.65.29 28.66.29 28.67.29 28.68.29"),
    (0x1F118, "28.69.29 28.6A.29 28.6B.29 28.6C.29 28.6D.29 28.6E.29 28.6F.29 28.70.29"),
    (0x1F120, "28.71.29 28.72.29 28.73.29 28.74.29 28.75.29 28.76.29 28.77.29 28.78.29"),
    (0x1F128, "28.79.29 28.7A.29 3014.73.3015 63 72 63.64 77.7A - 61 62 63 64 65 66 67 68 69"),
    (0x1F139, "6A 6B 6C 6D 6E 6F 70 71 72 73 74 75 76 77 78 79 7A 68.76 6D.76 73.64 73.73"),
    (0x1F14E, "70.70.76 77.63"), (0x1F16A, "6D.63 6D.64 6D.72"), (0x1F190, "64.6A"),
    (0x1F200, "307B.304B 30B3.30B3 30B5"),
    (0x1F210, "624B 5B57 53CC 30C7 4E8C 591A 89E3 5929 4EA4 6620 7121 6599 524D 5F8C 518D"),
    (0x1F21F, "65B0 521D 7D42 751F 8CA9 58F0 5439 6F14 6295 6355 4E00 4E09 904A 5DE6 4E2D"),
    (0x1F22E, "53F3 6307 8D70 6253 7981 7A7A 5408 6E80 6709 6708 7533 5272 55B6 914D"),
    (0x1F240, "3014.672C.3015 3014.4E09.3015 3014.4E8C.3015 3014.5B89.3015 3014.70B9.3015"),
    (0x1F245, "3014.6253.3015 3014.76D7.3015 3014.52DD.3015 3014.6557.3015"),
    (0x1F250, "5F97 53EF"), (0x1FBF0, "30 31 32 33 34 35 36 37 38 39"),
    (0x2F800, "4E3D 4E38 4E41 20122 4F60 4FAE 4FBB 5002 507A 5099 50E7 50CF 349E 2063A 514D"),
    (0x2F80F, "5154 5164 5177 2051C 34B9 5167 518D 2054B 5197 51A4 4ECC 51AC 51B5 291DF 51F5"),
    (0x2F81E, "5203 34DF 523B 5246 5272 5277 3515 52C7 52C9 52E4 52FA 5305 5306 5317 5349"),
    (0x2F82D, "5351 535A 5373 537D 537F 537F 537F 20A2C 7070 53CA 53DF 20B63 53EB 53F1 5406"),
    (0x2F83C, "549E 5438 5448 5468 54A2 54F6 5510 5553 5563 5584 5584 5599 55AB 55B3 55C2"),
    (0x2F84B, "5716 5606 5717 5651 5674 5207 58EE 57CE 57F4 580D 578B 5832 5831 58AC 214E4"),
    (0x2F85A, "58F2 58F7 5906 591A 5922 5962 216A8 216EA 59EC 5A1B 5A27 59D8 5A66 36EE 36FC"),
    (0x2F869, "5B08 5B3E 5B3E 219C8 5BC3 5BD8 5BE7 5BF3 21B18 5BFF 5C06 5F53 5C22 3781 5C60"),
    (0x2F878, "5C6E 5CC0 5C8D 21DE4 5D43 21DE6 5D6E 5D6B 5D7C 5DE1 5DE2 382F 5DFD 5E28 5E3D"),
    (0x2F887, "5E69 3862 22183 387C 5EB0 5EB3 5EB6 5ECA 2A392 5EFE 22331 22331 8201 5F22 5F22"),
    (0x2F896, "38C7 232B8 261DA 5F62 5F6B 38E3 5F9A 5FCD 5FD7 5FF9 6081 393A 391C 6094 226D4"),
    (0x2F8A5, "60C7 6148 614C 614E 614C 617A 618E 61B2 61A4 61AF 61DE 61F2 61F6 6210 621B"),
    (0x2F8B4, "625D 62B1 62D4 6350 22B0C 633D 62FC 6368 6383 63E4 22BF1 6422 63C5 63A9 3A2E"),
    (0x2F8C3, "6469 647E 649D 6477 3A6C 654F 656C 2300A 65E3 66F8 6649 3B19 6691 3B08 3AE4"),
    (0x2F8D2, "5192 5195 6700 669C 80AD 43D9 6717 671B 6721 675E 6753 233C3 3B49 67FA 6785"),
    (0x2F8E1, "6852 6885 2346D 688E 681F 6914 3B9D 6942 69A3 69EA 6AA8 236A3 6ADB 3C18 6B21"),
    (0x2F8F0, "238A7 6B54 3C4E 6B72 6B9F 6BBA 6BBB 23A8D 21D0B 23AFA 6C4E 23CBC 6CBF 6CCD"),
    (0x2F8FE, "6C67 6D16 6D3E 6D77 6D41 6D69 6D78 6D85 23D1E 6D34 6E2F 6E6E 3D33 6ECB 6EC7"),
    (0x2F90D, "23ED1 6DF9 6F6E 23F5E 23F8E 6FC6 7039 701E 701B 3D96 704A 707D 7077 70AD 20525"),
    (0x2F91C, "7145 24263 719C 243AB 7228 7235 7250 24608 7280 7295 24735 24814 737A 738B"),
    (0x2F92A, "3EAC 73A5 3EB8 3EB8 7447 745C 7471 7485 74CA 3F1B 7524 24C36 753E 24C92 7570"),
    (0x2F939, "2219F 7610 24FA1 24FB8 25044 3FFC 4008 76F4 250F3 250F2 25119 25133 771E 771F"),
    (0x2F947, "771F 774A 4039 778B 4046 4096 2541D 784E 788C 78CC 40E3 25626 7956 2569A 256C5"),
    (0x2F956, "798F 79EB 412F 7A40 7A4A 7A4F 2597C 25AA7 25AA7 7AEE 4202 25BAB 7BC6 7BC9 4227"),
    (0x2F965, "25C80 7CD2 42A0 7CE8 7CE3 7D00 25F86 7D63 4301 7DC7 7E02 7E45 4334 26228 26247"),
    (0x2F974, "4359 262D9 7F7A 2633E 7F95 7FFA 8005 264DA 26523 8060 265A8 8070 2335F 43D5"),
    (0x2F982, "80B2 8103 440B 813E 5AB5 267A7 267B5 23393 2339C 8201 8204 8F9E 446B 8291 828B"),
    (0x2F991, "829D 52B3 82B1 82B3 82BD 82E6 26B3C 82E5 831D 8363 83AD 8323 83BD 83E7 8457"),
    (0x2F9A0, "8353 83CA 83CC 83DC 26C36 26D6B 26CD5 452B 84F1 84F3 8516 273CA 8564 26F2C"),
    (0x2F9AE, "455D 4561 26FB1 270D2 456B 8650 865C 8667 8669 86A9 8688 870E 86E2 8779 8728"),
    (0x2F9BD, "876B 8786 45D7 87E1 8801 45F9 8860 8863 27667 88D7 88DE 4635 88FA 34BB 278AE"),
    (0x2F9CC, "27966 46BE 46C7 8AA0 8AED 8B8A 8C55 27CA8 8CAB 8CC1 8D1B 8D77 27F2F 20804 8DCB"),
    (0x2F9DB, "8DBC 8DF0 208DE 8ED4 8F38 285D2 285ED 9094 90F1 9111 2872E 911B 9238 92D7 92D8"),
    (0x2F9EA, "927C 93F9 9415 28BFA 958B 4995 95B7 28D77 49E6 96C3 5DB2 9723 29145 2921A 4A6E"),
    (0x2F9F9, "4A76 97E0 2940A 4AB2 29496 980B 980B 9829 295B6 98E2 4B33 9929 99A7 99C2 99FE"),
    (0x2FA08, "4BCE 29B30 9B12 9C40 9CFD 4CCE 4CED 9D67 2A0CE 4CF8 2A105 2A20E 2A291 9EBB"),
    (0x2FA16, "4D56 9EF9 9EFE 9F05 9F0F 9F16 9F3B 2A600")]

/-- What the characters of a row become. -/
def readRow (first : Nat) (row : String) : List (Nat × Text) :=
  (row.splitOn " ").zipIdx.filterMap fun (word, i) =>
    if word = "-" then none
    else some (first + i, (word.splitOn ".").map fun n => Char.ofNat (Text.hexNumber n))

/-- All characters that become others. -/
def mapped : List (Nat × Text) :=
  (mappedLow ++ mappedSymbols ++ mappedForms ++ mappedHigh).flatMap fun (first, row) =>
    readRow first row

/-! ## Characters that are refused or left out -/

/-- Characters up to the Tibetan script that no name holds. -/
def refusedLow : List (Nat × Nat) :=
  [(0x80, 0x9F), (0x378, 0x379), (0x380, 0x383), (0x38B, 0x38B), (0x38D, 0x38D), (0x3A2, 0x3A2),
    (0x530, 0x530), (0x557, 0x558), (0x58B, 0x58C), (0x590, 0x590), (0x5C8, 0x5CF),
    (0x5EB, 0x5EE), (0x5F5, 0x605), (0x61C, 0x61C), (0x6DD, 0x6DD), (0x70E, 0x70F),
    (0x74B, 0x74C), (0x7B2, 0x7BF), (0x7FB, 0x7FC), (0x82E, 0x82F), (0x83F, 0x83F),
    (0x85C, 0x85D), (0x85F, 0x85F), (0x86B, 0x86F), (0x890, 0x896), (0x8E2, 0x8E2),
    (0x984, 0x984), (0x98D, 0x98E), (0x991, 0x992), (0x9A9, 0x9A9), (0x9B1, 0x9B1),
    (0x9B3, 0x9B5), (0x9BA, 0x9BB), (0x9C5, 0x9C6), (0x9C9, 0x9CA), (0x9CF, 0x9D6),
    (0x9D8, 0x9DB), (0x9DE, 0x9DE), (0x9E4, 0x9E5), (0x9FF, 0xA00), (0xA04, 0xA04),
    (0xA0B, 0xA0E), (0xA11, 0xA12), (0xA29, 0xA29), (0xA31, 0xA31), (0xA34, 0xA34),
    (0xA37, 0xA37), (0xA3A, 0xA3B), (0xA3D, 0xA3D), (0xA43, 0xA46), (0xA49, 0xA4A),
    (0xA4E, 0xA50), (0xA52, 0xA58), (0xA5D, 0xA5D), (0xA5F, 0xA65), (0xA77, 0xA80),
    (0xA84, 0xA84), (0xA8E, 0xA8E), (0xA92, 0xA92), (0xAA9, 0xAA9), (0xAB1, 0xAB1),
    (0xAB4, 0xAB4), (0xABA, 0xABB), (0xAC6, 0xAC6), (0xACA, 0xACA), (0xACE, 0xACF),
    (0xAD1, 0xADF), (0xAE4, 0xAE5), (0xAF2, 0xAF8), (0xB00, 0xB00), (0xB04, 0xB04),
    (0xB0D, 0xB0E), (0xB11, 0xB12), (0xB29, 0xB29), (0xB31, 0xB31), (0xB34, 0xB34),
    (0xB3A, 0xB3B), (0xB45, 0xB46), (0xB49, 0xB4A), (0xB4E, 0xB54), (0xB58, 0xB5B),
    (0xB5E, 0xB5E), (0xB64, 0xB65), (0xB78, 0xB81), (0xB84, 0xB84), (0xB8B, 0xB8D),
    (0xB91, 0xB91), (0xB96, 0xB98), (0xB9B, 0xB9B), (0xB9D, 0xB9D), (0xBA0, 0xBA2),
    (0xBA5, 0xBA7), (0xBAB, 0xBAD), (0xBBA, 0xBBD), (0xBC3, 0xBC5), (0xBC9, 0xBC9),
    (0xBCE, 0xBCF), (0xBD1, 0xBD6), (0xBD8, 0xBE5), (0xBFB, 0xBFF), (0xC0D, 0xC0D),
    (0xC11, 0xC11), (0xC29, 0xC29), (0xC3A, 0xC3B), (0xC45, 0xC45), (0xC49, 0xC49),
    (0xC4E, 0xC54), (0xC57, 0xC57), (0xC5B, 0xC5B), (0xC5E, 0xC5F), (0xC64, 0xC65),
    (0xC70, 0xC76), (0xC8D, 0xC8D), (0xC91, 0xC91), (0xCA9, 0xCA9), (0xCB4, 0xCB4),
    (0xCBA, 0xCBB), (0xCC5, 0xCC5), (0xCC9, 0xCC9), (0xCCE, 0xCD4), (0xCD7, 0xCDB),
    (0xCDF, 0xCDF), (0xCE4, 0xCE5), (0xCF0, 0xCF0), (0xCF4, 0xCFF), (0xD0D, 0xD0D),
    (0xD11, 0xD11), (0xD45, 0xD45), (0xD49, 0xD49), (0xD50, 0xD53), (0xD64, 0xD65),
    (0xD80, 0xD80), (0xD84, 0xD84), (0xD97, 0xD99), (0xDB2, 0xDB2), (0xDBC, 0xDBC),
    (0xDBE, 0xDBF), (0xDC7, 0xDC9), (0xDCB, 0xDCE), (0xDD5, 0xDD5), (0xDD7, 0xDD7),
    (0xDE0, 0xDE5), (0xDF0, 0xDF1), (0xDF5, 0xE00), (0xE3B, 0xE3E), (0xE5C, 0xE80),
    (0xE83, 0xE83), (0xE85, 0xE85), (0xE8B, 0xE8B), (0xEA4, 0xEA4), (0xEA6, 0xEA6),
    (0xEBE, 0xEBF), (0xEC5, 0xEC5), (0xEC7, 0xEC7), (0xECF, 0xECF), (0xEDA, 0xEDB),
    (0xEE0, 0xEFF), (0xF48, 0xF48), (0xF6D, 0xF70), (0xF98, 0xF98), (0xFBD, 0xFBD),
    (0xFCD, 0xFCD), (0xFDB, 0xFFF)]

/-- Characters of the rest of the basic plane that no name holds. -/
def refusedMiddle : List (Nat × Nat) :=
  [(0x10C6, 0x10C6), (0x10C8, 0x10CC), (0x10CE, 0x10CF), (0x1249, 0x1249), (0x124E, 0x124F),
    (0x1257, 0x1257), (0x1259, 0x1259), (0x125E, 0x125F), (0x1289, 0x1289), (0x128E, 0x128F),
    (0x12B1, 0x12B1), (0x12B6, 0x12B7), (0x12BF, 0x12BF), (0x12C1, 0x12C1), (0x12C6, 0x12C7),
    (0x12D7, 0x12D7), (0x1311, 0x1311), (0x1316, 0x1317), (0x135B, 0x135C), (0x137D, 0x137F),
    (0x139A, 0x139F), (0x13F6, 0x13F7), (0x13FE, 0x13FF), (0x1680, 0x1680), (0x169D, 0x169F),
    (0x16F9, 0x16FF), (0x1716, 0x171E), (0x1737, 0x173F), (0x1754, 0x175F), (0x176D, 0x176D),
    (0x1771, 0x1771), (0x1774, 0x177F), (0x17DE, 0x17DF), (0x17EA, 0x17EF), (0x17FA, 0x17FF),
    (0x181A, 0x181F), (0x1879, 0x187F), (0x18AB, 0x18AF), (0x18F6, 0x18FF), (0x191F, 0x191F),
    (0x192C, 0x192F), (0x193C, 0x193F), (0x1941, 0x1943), (0x196E, 0x196F), (0x1975, 0x197F),
    (0x19AC, 0x19AF), (0x19CA, 0x19CF), (0x19DB, 0x19DD), (0x1A1C, 0x1A1D), (0x1A5F, 0x1A5F),
    (0x1A7D, 0x1A7E), (0x1A8A, 0x1A8F), (0x1A9A, 0x1A9F), (0x1AAE, 0x1AAF), (0x1ADE, 0x1ADF),
    (0x1AEC, 0x1AFF), (0x1B4D, 0x1B4D), (0x1BF4, 0x1BFB), (0x1C38, 0x1C3A), (0x1C4A, 0x1C4C),
    (0x1C8B, 0x1C8F), (0x1CBB, 0x1CBC), (0x1CC8, 0x1CCF), (0x1CFB, 0x1CFF), (0x1F16, 0x1F17),
    (0x1F1E, 0x1F1F), (0x1F46, 0x1F47), (0x1F4E, 0x1F4F), (0x1F58, 0x1F58), (0x1F5A, 0x1F5A),
    (0x1F5C, 0x1F5C), (0x1F5E, 0x1F5E), (0x1F7E, 0x1F7F), (0x1FB5, 0x1FB5), (0x1FC5, 0x1FC5),
    (0x1FD4, 0x1FD5), (0x1FDC, 0x1FDC), (0x1FF0, 0x1FF1), (0x1FF5, 0x1FF5), (0x1FFF, 0x1FFF),
    (0x200E, 0x200F), (0x2024, 0x2026), (0x2028, 0x202E), (0x2065, 0x2069), (0x2072, 0x2073),
    (0x208F, 0x208F), (0x209D, 0x209F), (0x20C2, 0x20CF), (0x20F1, 0x20FF), (0x218C, 0x218F),
    (0x242A, 0x243F), (0x244B, 0x245F), (0x2488, 0x249B), (0x2B74, 0x2B75), (0x2CF4, 0x2CF8),
    (0x2D26, 0x2D26), (0x2D28, 0x2D2C), (0x2D2E, 0x2D2F), (0x2D68, 0x2D6E), (0x2D71, 0x2D7E),
    (0x2D97, 0x2D9F), (0x2DA7, 0x2DA7), (0x2DAF, 0x2DAF), (0x2DB7, 0x2DB7), (0x2DBF, 0x2DBF),
    (0x2DC7, 0x2DC7), (0x2DCF, 0x2DCF), (0x2DD7, 0x2DD7), (0x2DDF, 0x2DDF), (0x2E5E, 0x2E7F),
    (0x2E9A, 0x2E9A), (0x2EF4, 0x2EFF), (0x2FD6, 0x2FFF), (0x3040, 0x3040), (0x3097, 0x3098),
    (0x3100, 0x3104), (0x3130, 0x3130), (0x318F, 0x318F), (0x31E6, 0x31EF), (0x321F, 0x321F),
    (0x33C2, 0x33C2), (0x33C7, 0x33C7), (0x33D8, 0x33D8), (0xA48D, 0xA48F), (0xA4C7, 0xA4CF),
    (0xA62C, 0xA63F), (0xA6F8, 0xA6FF), (0xA7DD, 0xA7F0), (0xA82D, 0xA82F), (0xA83A, 0xA83F),
    (0xA878, 0xA87F), (0xA8C6, 0xA8CD), (0xA8DA, 0xA8DF), (0xA954, 0xA95E), (0xA97D, 0xA97F),
    (0xA9CE, 0xA9CE), (0xA9DA, 0xA9DD), (0xA9FF, 0xA9FF), (0xAA37, 0xAA3F), (0xAA4E, 0xAA4F),
    (0xAA5A, 0xAA5B), (0xAAC3, 0xAADA), (0xAAF7, 0xAB00), (0xAB07, 0xAB08), (0xAB0F, 0xAB10),
    (0xAB17, 0xAB1F), (0xAB27, 0xAB27), (0xAB2F, 0xAB2F), (0xAB6C, 0xAB6F), (0xABEE, 0xABEF),
    (0xABFA, 0xABFF), (0xD7A4, 0xD7AF), (0xD7C7, 0xD7CA), (0xD7FC, 0xF8FF), (0xFA6E, 0xFA6F),
    (0xFADA, 0xFAFF), (0xFB07, 0xFB12), (0xFB18, 0xFB1C), (0xFB37, 0xFB37), (0xFB3D, 0xFB3D),
    (0xFB3F, 0xFB3F), (0xFB42, 0xFB42), (0xFB45, 0xFB45), (0xFDD0, 0xFDEF), (0xFE12, 0xFE12),
    (0xFE19, 0xFE1F), (0xFE30, 0xFE30), (0xFE52, 0xFE53), (0xFE67, 0xFE67), (0xFE6C, 0xFE6F),
    (0xFE75, 0xFE75), (0xFEFD, 0xFEFE), (0xFF00, 0xFF00), (0xFFBF, 0xFFC1), (0xFFC8, 0xFFC9),
    (0xFFD0, 0xFFD1), (0xFFD8, 0xFFD9), (0xFFDD, 0xFFDF), (0xFFE7, 0xFFE7), (0xFFEF, 0xFFFF)]

/-- Characters outside the basic plane that no name holds. -/
def refusedHigh : List (Nat × Nat) :=
  [(0x1000C, 0x1000C), (0x10027, 0x10027), (0x1003B, 0x1003B), (0x1003E, 0x1003E),
    (0x1004E, 0x1004F), (0x1005E, 0x1007F), (0x100FB, 0x100FF), (0x10103, 0x10106),
    (0x10134, 0x10136), (0x1018F, 0x1018F), (0x1019D, 0x1019F), (0x101A1, 0x101CF),
    (0x101FE, 0x1027F), (0x1029D, 0x1029F), (0x102D1, 0x102DF), (0x102FC, 0x102FF),
    (0x10324, 0x1032C), (0x1034B, 0x1034F), (0x1037B, 0x1037F), (0x1039E, 0x1039E),
    (0x103C4, 0x103C7), (0x103D6, 0x103FF), (0x1049E, 0x1049F), (0x104AA, 0x104AF),
    (0x104D4, 0x104D7), (0x104FC, 0x104FF), (0x10528, 0x1052F), (0x10564, 0x1056E),
    (0x1057B, 0x1057B), (0x1058B, 0x1058B), (0x10593, 0x10593), (0x10596, 0x10596),
    (0x105A2, 0x105A2), (0x105B2, 0x105B2), (0x105BA, 0x105BA), (0x105BD, 0x105BF),
    (0x105F4, 0x105FF), (0x10737, 0x1073F), (0x10756, 0x1075F), (0x10768, 0x1077F),
    (0x10786, 0x10786), (0x107B1, 0x107B1), (0x107BB, 0x107FF), (0x10806, 0x10807),
    (0x10809, 0x10809), (0x10836, 0x10836), (0x10839, 0x1083B), (0x1083D, 0x1083E),
    (0x10856, 0x10856), (0x1089F, 0x108A6), (0x108B0, 0x108DF), (0x108F3, 0x108F3),
    (0x108F6, 0x108FA), (0x1091C, 0x1091E), (0x1093A, 0x1093E), (0x1095A, 0x1097F),
    (0x109B8, 0x109BB), (0x109D0, 0x109D1), (0x10A04, 0x10A04), (0x10A07, 0x10A0B),
    (0x10A14, 0x10A14), (0x10A18, 0x10A18), (0x10A36, 0x10A37), (0x10A3B, 0x10A3E),
    (0x10A49, 0x10A4F), (0x10A59, 0x10A5F), (0x10AA0, 0x10ABF), (0x10AE7, 0x10AEA),
    (0x10AF7, 0x10AFF), (0x10B36, 0x10B38), (0x10B56, 0x10B57), (0x10B73, 0x10B77),
    (0x10B92, 0x10B98), (0x10B9D, 0x10BA8), (0x10BB0, 0x10BFF), (0x10C49, 0x10C7F),
    (0x10CB3, 0x10CBF), (0x10CF3, 0x10CF9), (0x10D28, 0x10D2F), (0x10D3A, 0x10D3F),
    (0x10D66, 0x10D68), (0x10D86, 0x10D8D), (0x10D90, 0x10E5F), (0x10E7F, 0x10E7F),
    (0x10EAA, 0x10EAA), (0x10EAE, 0x10EAF), (0x10EB2, 0x10EC1), (0x10EC8, 0x10ECF),
    (0x10ED9, 0x10EF9), (0x10F28, 0x10F2F), (0x10F5A, 0x10F6F), (0x10F8A, 0x10FAF),
    (0x10FCC, 0x10FDF), (0x10FF7, 0x10FFF), (0x1104E, 0x11051), (0x11076, 0x1107E),
    (0x110BD, 0x110BD), (0x110C3, 0x110CF), (0x110E9, 0x110EF), (0x110FA, 0x110FF),
    (0x11135, 0x11135), (0x11148, 0x1114F), (0x11177, 0x1117F), (0x111E0, 0x111E0),
    (0x111F5, 0x111FF), (0x11212, 0x11212), (0x11242, 0x1127F), (0x11287, 0x11287),
    (0x11289, 0x11289), (0x1128E, 0x1128E), (0x1129E, 0x1129E), (0x112AA, 0x112AF),
    (0x112EB, 0x112EF), (0x112FA, 0x112FF), (0x11304, 0x11304), (0x1130D, 0x1130E),
    (0x11311, 0x11312), (0x11329, 0x11329), (0x11331, 0x11331), (0x11334, 0x11334),
    (0x1133A, 0x1133A), (0x11345, 0x11346), (0x11349, 0x1134A), (0x1134E, 0x1134F),
    (0x11351, 0x11356), (0x11358, 0x1135C), (0x11364, 0x11365), (0x1136D, 0x1136F),
    (0x11375, 0x1137F), (0x1138A, 0x1138A), (0x1138C, 0x1138D), (0x1138F, 0x1138F),
    (0x113B6, 0x113B6), (0x113C1, 0x113C1), (0x113C3, 0x113C4), (0x113C6, 0x113C6),
    (0x113CB, 0x113CB), (0x113D6, 0x113D6), (0x113D9, 0x113E0), (0x113E3, 0x113FF),
    (0x1145C, 0x1145C), (0x11462, 0x1147F), (0x114C8, 0x114CF), (0x114DA, 0x1157F),
    (0x115B6, 0x115B7), (0x115DE, 0x115FF), (0x11645, 0x1164F), (0x1165A, 0x1165F),
    (0x1166D, 0x1167F), (0x116BA, 0x116BF), (0x116CA, 0x116CF), (0x116E4, 0x116FF),
    (0x1171B, 0x1171C), (0x1172C, 0x1172F), (0x11747, 0x117FF), (0x1183C, 0x1189F),
    (0x118F3, 0x118FE), (0x11907, 0x11908), (0x1190A, 0x1190B), (0x11914, 0x11914),
    (0x11917, 0x11917), (0x11936, 0x11936), (0x11939, 0x1193A), (0x11947, 0x1194F),
    (0x1195A, 0x1199F), (0x119A8, 0x119A9), (0x119D8, 0x119D9), (0x119E5, 0x119FF),
    (0x11A48, 0x11A4F), (0x11AA3, 0x11AAF), (0x11AF9, 0x11AFF), (0x11B0A, 0x11B5F),
    (0x11B68, 0x11BBF), (0x11BE2, 0x11BEF), (0x11BFA, 0x11BFF), (0x11C09, 0x11C09),
    (0x11C37, 0x11C37), (0x11C46, 0x11C4F), (0x11C6D, 0x11C6F), (0x11C90, 0x11C91),
    (0x11CA8, 0x11CA8), (0x11CB7, 0x11CFF), (0x11D07, 0x11D07), (0x11D0A, 0x11D0A),
    (0x11D37, 0x11D39), (0x11D3B, 0x11D3B), (0x11D3E, 0x11D3E), (0x11D48, 0x11D4F),
    (0x11D5A, 0x11D5F), (0x11D66, 0x11D66), (0x11D69, 0x11D69), (0x11D8F, 0x11D8F),
    (0x11D92, 0x11D92), (0x11D99, 0x11D9F), (0x11DAA, 0x11DAF), (0x11DDC, 0x11DDF),
    (0x11DEA, 0x11EDF), (0x11EF9, 0x11EFF), (0x11F11, 0x11F11), (0x11F3B, 0x11F3D),
    (0x11F5B, 0x11FAF), (0x11FB1, 0x11FBF), (0x11FF2, 0x11FFE), (0x1239A, 0x123FF),
    (0x1246F, 0x1246F), (0x12475, 0x1247F), (0x12544, 0x12F8F), (0x12FF3, 0x12FFF),
    (0x13430, 0x1343F), (0x13456, 0x1345F), (0x143FB, 0x143FF), (0x14647, 0x160FF),
    (0x1613A, 0x167FF), (0x16A39, 0x16A3F), (0x16A5F, 0x16A5F), (0x16A6A, 0x16A6D),
    (0x16ABF, 0x16ABF), (0x16ACA, 0x16ACF), (0x16AEE, 0x16AEF), (0x16AF6, 0x16AFF),
    (0x16B46, 0x16B4F), (0x16B5A, 0x16B5A), (0x16B62, 0x16B62), (0x16B78, 0x16B7C),
    (0x16B90, 0x16D3F), (0x16D7A, 0x16E3F), (0x16E9B, 0x16E9F), (0x16EB9, 0x16EBA),
    (0x16ED4, 0x16EFF), (0x16F4B, 0x16F4E), (0x16F88, 0x16F8E), (0x16FA0, 0x16FDF),
    (0x16FE5, 0x16FEF), (0x16FF7, 0x16FFF), (0x18CD6, 0x18CFE), (0x18D1F, 0x18D7F),
    (0x18DF3, 0x1AFEF), (0x1AFF4, 0x1AFF4), (0x1AFFC, 0x1AFFC), (0x1AFFF, 0x1AFFF),
    (0x1B123, 0x1B131), (0x1B133, 0x1B14F), (0x1B153, 0x1B154), (0x1B156, 0x1B163),
    (0x1B168, 0x1B16F), (0x1B2FC, 0x1BBFF), (0x1BC6B, 0x1BC6F), (0x1BC7D, 0x1BC7F),
    (0x1BC89, 0x1BC8F), (0x1BC9A, 0x1BC9B), (0x1BCA4, 0x1CBFF), (0x1CCFD, 0x1CCFF),
    (0x1CEB4, 0x1CEB9), (0x1CED1, 0x1CEDF), (0x1CEF1, 0x1CEFF), (0x1CF2E, 0x1CF2F),
    (0x1CF47, 0x1CF4F), (0x1CFC4, 0x1CFFF), (0x1D0F6, 0x1D0FF), (0x1D127, 0x1D128),
    (0x1D1EB, 0x1D1FF), (0x1D246, 0x1D2BF), (0x1D2D4, 0x1D2DF), (0x1D2F4, 0x1D2FF),
    (0x1D357, 0x1D35F), (0x1D379, 0x1D3FF), (0x1D455, 0x1D455), (0x1D49D, 0x1D49D),
    (0x1D4A0, 0x1D4A1), (0x1D4A3, 0x1D4A4), (0x1D4A7, 0x1D4A8), (0x1D4AD, 0x1D4AD),
    (0x1D4BA, 0x1D4BA), (0x1D4BC, 0x1D4BC), (0x1D4C4, 0x1D4C4), (0x1D506, 0x1D506),
    (0x1D50B, 0x1D50C), (0x1D515, 0x1D515), (0x1D51D, 0x1D51D), (0x1D53A, 0x1D53A),
    (0x1D53F, 0x1D53F), (0x1D545, 0x1D545), (0x1D547, 0x1D549), (0x1D551, 0x1D551),
    (0x1D6A6, 0x1D6A7), (0x1D7CC, 0x1D7CD), (0x1DA8C, 0x1DA9A), (0x1DAA0, 0x1DAA0),
    (0x1DAB0, 0x1DEFF), (0x1DF1F, 0x1DF24), (0x1DF2B, 0x1DFFF), (0x1E007, 0x1E007),
    (0x1E019, 0x1E01A), (0x1E022, 0x1E022), (0x1E025, 0x1E025), (0x1E02B, 0x1E02F),
    (0x1E06E, 0x1E08E), (0x1E090, 0x1E0FF), (0x1E12D, 0x1E12F), (0x1E13E, 0x1E13F),
    (0x1E14A, 0x1E14D), (0x1E150, 0x1E28F), (0x1E2AF, 0x1E2BF), (0x1E2FA, 0x1E2FE),
    (0x1E300, 0x1E4CF), (0x1E4FA, 0x1E5CF), (0x1E5FB, 0x1E5FE), (0x1E600, 0x1E6BF),
    (0x1E6DF, 0x1E6DF), (0x1E6F6, 0x1E6FD), (0x1E700, 0x1E7DF), (0x1E7E7, 0x1E7E7),
    (0x1E7EC, 0x1E7EC), (0x1E7EF, 0x1E7EF), (0x1E7FF, 0x1E7FF), (0x1E8C5, 0x1E8C6),
    (0x1E8D7, 0x1E8FF), (0x1E94C, 0x1E94F), (0x1E95A, 0x1E95D), (0x1E960, 0x1EC70),
    (0x1ECB5, 0x1ED00), (0x1ED3E, 0x1EDFF), (0x1EE04, 0x1EE04), (0x1EE20, 0x1EE20),
    (0x1EE23, 0x1EE23), (0x1EE25, 0x1EE26), (0x1EE28, 0x1EE28), (0x1EE33, 0x1EE33),
    (0x1EE38, 0x1EE38), (0x1EE3A, 0x1EE3A), (0x1EE3C, 0x1EE41), (0x1EE43, 0x1EE46),
    (0x1EE48, 0x1EE48), (0x1EE4A, 0x1EE4A), (0x1EE4C, 0x1EE4C), (0x1EE50, 0x1EE50),
    (0x1EE53, 0x1EE53), (0x1EE55, 0x1EE56), (0x1EE58, 0x1EE58), (0x1EE5A, 0x1EE5A),
    (0x1EE5C, 0x1EE5C), (0x1EE5E, 0x1EE5E), (0x1EE60, 0x1EE60), (0x1EE63, 0x1EE63),
    (0x1EE65, 0x1EE66), (0x1EE6B, 0x1EE6B), (0x1EE73, 0x1EE73), (0x1EE78, 0x1EE78),
    (0x1EE7D, 0x1EE7D), (0x1EE7F, 0x1EE7F), (0x1EE8A, 0x1EE8A), (0x1EE9C, 0x1EEA0),
    (0x1EEA4, 0x1EEA4), (0x1EEAA, 0x1EEAA), (0x1EEBC, 0x1EEEF), (0x1EEF2, 0x1EFFF),
    (0x1F02C, 0x1F02F), (0x1F094, 0x1F09F), (0x1F0AF, 0x1F0B0), (0x1F0C0, 0x1F0C0),
    (0x1F0D0, 0x1F0D0), (0x1F0F6, 0x1F100), (0x1F1AE, 0x1F1E5), (0x1F203, 0x1F20F),
    (0x1F23C, 0x1F23F), (0x1F249, 0x1F24F), (0x1F252, 0x1F25F), (0x1F266, 0x1F2FF),
    (0x1F6D9, 0x1F6DB), (0x1F6ED, 0x1F6EF), (0x1F6FD, 0x1F6FF), (0x1F7DA, 0x1F7DF),
    (0x1F7EC, 0x1F7EF), (0x1F7F1, 0x1F7FF), (0x1F80C, 0x1F80F), (0x1F848, 0x1F84F),
    (0x1F85A, 0x1F85F), (0x1F888, 0x1F88F), (0x1F8AE, 0x1F8AF), (0x1F8BC, 0x1F8BF),
    (0x1F8C2, 0x1F8CF), (0x1F8D9, 0x1F8FF), (0x1FA58, 0x1FA5F), (0x1FA6E, 0x1FA6F),
    (0x1FA7D, 0x1FA7F), (0x1FA8B, 0x1FA8D), (0x1FAC7, 0x1FAC7), (0x1FAC9, 0x1FACC),
    (0x1FADD, 0x1FADE), (0x1FAEB, 0x1FAEE), (0x1FAF9, 0x1FAFF), (0x1FB93, 0x1FB93),
    (0x1FBFB, 0x1FFFF), (0x2A6E0, 0x2A6FF), (0x2B81E, 0x2B81F), (0x2CEAE, 0x2CEAF),
    (0x2EBE1, 0x2EBEF), (0x2EE5E, 0x2F7FF), (0x2FA1E, 0x2FFFF), (0x3134B, 0x3134F),
    (0x3347A, 0xE00FF), (0xE01F0, 0x10FFFF)]

/-- Characters that are left out. -/
def ignoredRuns : List (Nat × Nat) :=
  [(0xAD, 0xAD), (0x34F, 0x34F), (0x115F, 0x1160), (0x17B4, 0x17B5), (0x180B, 0x180F),
    (0x200B, 0x200B), (0x2060, 0x2064), (0x206A, 0x206F), (0x3164, 0x3164), (0xFE00, 0xFE0F),
    (0xFEFF, 0xFEFF), (0xFFA0, 0xFFA0), (0x1BCA0, 0x1BCA3), (0x1D173, 0x1D17A),
    (0xE0100, 0xE01EF)]

/-- A character that no name holds. -/
def isRefused (c : Char) : Bool :=
  Text.inRuns
    (if c.toNat < 0x1000 then refusedLow
    else if c.toNat < 0x10000 then refusedMiddle
    else refusedHigh) c

/-! ## Characters of names -/

/-- What a character of a name becomes, if it may stand in one. -/
def folded? (c : Char) : Option Text :=
  if c.toNat < 0x80 then some [c.toLower]
  else if isRefused c then none
  else if Text.inRuns ignoredRuns c then some []
  else some ((mapped.lookup c.toNat).getD [c])

/-- A character that stays as it is. -/
def isKept (c : Char) : Bool := folded? c = some [c]

end Kickstart.Domain
