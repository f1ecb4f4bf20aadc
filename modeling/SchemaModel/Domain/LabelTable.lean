/-!
# Classes of the characters of labels

Properties that decide whether a label of a domain name is valid. Rows are in the form of
`Text.Packed`. Only characters that may stand in domain names are listed.
-/

namespace SchemaModel.Domain.LabelTable

/-- combining marks -/
def marks : String := "
300-33F 342 346-34E 350-36F 483-489 591-5BD 5BF 5C1-5C2 5C4-5C5 5C7 610-61A 64B-65F 670 6D6-6DC
6DF-6E4 6E7-6E8 6EA-6ED 711 730-74A 7A6-7B0 7EB-7F3 7FD 816-819 81B-823 825-827 829-82D 859-85B
897-89F 8CA-8E1 8E3-903 93A-93C 93E-94F 951-957 962-963 981-983 9BC 9BE-9C4 9C7-9C8 9CB-9CD 9D7
9E2-9E3 9FE A01-A03 A3C A3E-A42 A47-A48 A4B-A4D A51 A70-A71 A75 A81-A83 ABC ABE-AC5 AC7-AC9
ACB-ACD AE2-AE3 AFA-AFF B01-B03 B3C B3E-B44 B47-B48 B4B-B4D B55-B57 B62-B63 B82 BBE-BC2 BC6-BC8
BCA-BCD BD7 C00-C04 C3C C3E-C44 C46-C48 C4A-C4D C55-C56 C62-C63 C81-C83 CBC CBE-CC4 CC6-CC8
CCA-CCD CD5-CD6 CE2-CE3 CF3 D00-D03 D3B-D3C D3E-D44 D46-D48 D4A-D4D D57 D62-D63 D81-D83 DCA
DCF-DD4 DD6 DD8-DDF DF2-DF3 E31 E34-E3A E47-E4E EB1 EB4-EBC EC8-ECE F18-F19 F35 F37 F39 F3E-F3F
F71-F72 F74 F7A-F80 F82-F84 F86-F87 F8D-F92 F94-F97 F99-F9C F9E-FA1 FA3-FA6 FA8-FAB FAD-FB8
FBA-FBC FC6 102B-103E 1056-1059 105E-1060 1062-1064 1067-106D 1071-1074 1082-108D 108F 109A-109D
135D-135F 1712-1715 1732-1734 1752-1753 1772-1773 17B6-17D3 17DD 1885-1886 18A9 1920-192B
1930-193B 1A17-1A1B 1A55-1A5E 1A60-1A7C 1A7F 1AB0-1ACE 1B00-1B04 1B34-1B44 1B6B-1B73 1B80-1B82
1BA1-1BAD 1BE6-1BF3 1C24-1C37 1CD0-1CD2 1CD4-1CE8 1CED 1CF4 1CF7-1CF9 1DC0-1DFF 20D0-20F0
2CEF-2CF1 2D7F 2DE0-2DFF 302A-302F 3099-309A A66F-A672 A674-A67D A69E-A69F A6F0-A6F1 A802 A806
A80B A823-A827 A82C A880-A881 A8B4-A8C5 A8E0-A8F1 A8FF A926-A92D A947-A953 A980-A983 A9B3-A9C0
A9E5 AA29-AA36 AA43 AA4C-AA4D AA7B-AA7D AAB0 AAB2-AAB4 AAB7-AAB8 AABE-AABF AAC1 AAEB-AAEF
AAF5-AAF6 ABE3-ABEA ABEC-ABED FB1E FE20-FE2F 101FD 102E0 10376-1037A 10A01-10A03 10A05-10A06
10A0C-10A0F 10A38-10A3A 10A3F 10AE5-10AE6 10D24-10D27 10D69-10D6D 10EAB-10EAC 10EFC-10EFF
10F46-10F50 10F82-10F85 11000-11002 11038-11046 11070 11073-11074 1107F-11082 110B0-110BA 110C2
11100-11102 11127-11134 11145-11146 11173 11180-11182 111B3-111C0 111C9-111CC 111CE-111CF
1122C-11237 1123E 11241 112DF-112EA 11300-11303 1133B-1133C 1133E-11344 11347-11348 1134B-1134D
11357 11362-11363 11366-1136C 11370-11374 113B8-113C0 113C2 113C5 113C7-113CA 113CC-113D0 113D2
113E1-113E2 11435-11446 1145E 114B0-114C3 115AF-115B5 115B8-115C0 115DC-115DD 11630-11640
116AB-116B7 1171D-1172B 1182C-1183A 11930-11935 11937-11938 1193B-1193E 11940 11942-11943
119D1-119D7 119DA-119E0 119E4 11A01-11A0A 11A33-11A39 11A3B-11A3E 11A47 11A51-11A5B 11A8A-11A99
11C2F-11C36 11C38-11C3F 11C92-11CA7 11CA9-11CB6 11D31-11D36 11D3A 11D3C-11D3D 11D3F-11D45 11D47
11D8A-11D8E 11D90-11D91 11D93-11D97 11EF3-11EF6 11F00-11F01 11F03 11F34-11F3A 11F3E-11F42 11F5A
13440 13447-13455 1611E-1612F 16AF0-16AF4 16B30-16B36 16F4F 16F51-16F87 16F8F-16F92 16FE4
16FF0-16FF1 1BC9D-1BC9E 1CF00-1CF2D 1CF30-1CF46 1D165-1D169 1D16D-1D172 1D17B-1D182 1D185-1D18B
1D1AA-1D1AD 1D242-1D244 1DA00-1DA36 1DA3B-1DA6C 1DA75 1DA84 1DA9B-1DA9F 1DAA1-1DAAF 1E000-1E006
1E008-1E018 1E01B-1E021 1E023-1E024 1E026-1E02A 1E08F 1E130-1E136 1E2AE 1E2EC-1E2EF 1E4EC-1E4EF
1E5EE-1E5EF 1E8D0-1E8D6 1E944-1E94A"

/-- Classes of writing direction: 0 right to left, 1 Arabic letter, 2 Arabic number, 3 European
number, 4 number separator, 5 common separator, 6 number terminator, 7 neutral, 8 boundary neutral,
9 nonspacing mark. All others are left to right. -/
def directions : String := "
0-8:8 E-1B:8 21-22:7 23-25:6 26-2A:7 2B:4 2C:5 2D:4 2E-2F:5 30-39:3 3A:5 3B-40:7 5B-60:7 7B-7E:7
7F:8 A1:7 A2-A5:6 A6-A7:7 A9:7 AB-AC:7 AE:7 B0-B1:6 B6-B7:7 BB:7 BF:7 D7:7 F7:7 2B9-2BA:7
2C2-2CF:7 2D2-2D7:7 2DE-2DF:7 2E5-2ED:7 2EF-2FF:7 300-33F:9 342:9 346-34E:9 350-36F:9 375:7 3F6:7
483-489:9 58A:7 58D-58E:7 58F:6 591-5BD:9 5BE:0 5BF:9 5C0:0 5C1-5C2:9 5C3:0 5C4-5C5:9 5C6:0 5C7:9
5D0-5EA:0 5EF-5F4:0 606-607:7 608:1 609-60A:6 60B:1 60C:5 60D:1 60E-60F:7 610-61A:9 61B:1
61D-64A:1 64B-65F:9 660-669:2 66A:6 66B-66C:2 66D-66F:1 670:9 671-674:1 679-6D5:1 6D6-6DC:9 6DE:7
6DF-6E4:9 6E5-6E6:1 6E7-6E8:9 6E9:7 6EA-6ED:9 6EE-6EF:1 6F0-6F9:3 6FA-70D:1 710:1 711:9 712-72F:1
730-74A:9 74D-7A5:1 7A6-7B0:9 7B1:1 7C0-7EA:0 7EB-7F3:9 7F4-7F5:0 7F6-7F9:7 7FA:0 7FD:9 7FE-815:0
816-819:9 81A:0 81B-823:9 824:0 825-827:9 828:0 829-82D:9 830-83E:0 840-858:0 859-85B:9 85E:0
860-86A:1 870-88F:1 897-89F:9 8A0-8C9:1 8CA-8E1:9 8E3-902:9 93A:9 93C:9 941-948:9 94D:9 951-957:9
962-963:9 981:9 9BC:9 9C1-9C4:9 9CD:9 9E2-9E3:9 9F2-9F3:6 9FB:6 9FE:9 A01-A02:9 A3C:9 A41-A42:9
A47-A48:9 A4B-A4D:9 A51:9 A70-A71:9 A75:9 A81-A82:9 ABC:9 AC1-AC5:9 AC7-AC8:9 ACD:9 AE2-AE3:9
AF1:6 AFA-AFF:9 B01:9 B3C:9 B3F:9 B41-B44:9 B4D:9 B55-B56:9 B62-B63:9 B82:9 BC0:9 BCD:9 BF3-BF8:7
BF9:6 BFA:7 C00:9 C04:9 C3C:9 C3E-C40:9 C46-C48:9 C4A-C4D:9 C55-C56:9 C62-C63:9 C78-C7E:7 C81:9
CBC:9 CCC-CCD:9 CE2-CE3:9 D00-D01:9 D3B-D3C:9 D41-D44:9 D4D:9 D62-D63:9 D81:9 DCA:9 DD2-DD4:9
DD6:9 E31:9 E34-E3A:9 E3F:6 E47-E4E:9 EB1:9 EB4-EBC:9 EC8-ECE:9 F18-F19:9 F35:9 F37:9 F39:9
F3A-F3D:7 F71-F72:9 F74:9 F7A-F7E:9 F80:9 F82-F84:9 F86-F87:9 F8D-F92:9 F94-F97:9 F99-F9C:9
F9E-FA1:9 FA3-FA6:9 FA8-FAB:9 FAD-FB8:9 FBA-FBC:9 FC6:9 102D-1030:9 1032-1037:9 1039-103A:9
103D-103E:9 1058-1059:9 105E-1060:9 1071-1074:9 1082:9 1085-1086:9 108D:9 109D:9 135D-135F:9
1390-1399:7 1400:7 169B-169C:7 1712-1714:9 1732-1733:9 1752-1753:9 1772-1773:9 17B7-17BD:9 17C6:9
17C9-17D3:9 17DB:6 17DD:9 17F0-17F9:7 1800-180A:7 1885-1886:9 18A9:9 1920-1922:9 1927-1928:9
1932:9 1939-193B:9 1940:7 1944-1945:7 19DE-19FF:7 1A17-1A18:9 1A1B:9 1A56:9 1A58-1A5E:9 1A60:9
1A62:9 1A65-1A6C:9 1A73-1A7C:9 1A7F:9 1AB0-1ACE:9 1B00-1B03:9 1B34:9 1B36-1B3A:9 1B3C:9 1B42:9
1B6B-1B73:9 1B80-1B81:9 1BA2-1BA5:9 1BA8-1BA9:9 1BAB-1BAD:9 1BE6:9 1BE8-1BE9:9 1BED:9 1BEF-1BF1:9
1C2C-1C33:9 1C36-1C37:9 1CD0-1CD2:9 1CD4-1CE0:9 1CE2-1CE8:9 1CED:9 1CF4:9 1CF8-1CF9:9 1DC0-1DFF:9
200C-200D:8 2010:7 2012-2016:7 2018-2023:7 2027:7 2030-2032:6 2035:7 2038-203B:7 203D:7
203F-2043:7 2044:5 2045-2046:7 204A-2056:7 2058-205E:7 20A0-20A7:6 20A9-20C1:6 20D0-20F0:9 2104:7
2108:7 2114:7 2117-2118:7 211E-211F:7 2123:7 2125:7 2127:7 2129:7 212E:6 213A:7 2141-2144:7
214A-214D:7 218A-218B:7 2190-2211:7 2212:4 2213:6 2214-222B:7 222E:7 2231-2328:7 232B-2335:7
237B-2394:7 2396-2426:7 2440-244A:7 24EB-26AB:7 26AD-27FF:7 2900-2A0B:7 2A0D-2A73:7 2A77-2ADB:7
2ADD-2B73:7 2B76-2B95:7 2B97-2BFF:7 2CE5-2CEA:7 2CEF-2CF1:9 2CF9-2CFF:7 2D7F:9 2DE0-2DFF:9
2E00-2E5D:7 2E80-2E99:7 2E9B-2E9E:7 2EA0-2EF2:7 3001:7 3003-3004:7 3008-3020:7 302A-302D:9 3030:7
3037:7 303D-303F:7 3099-309A:9 30A0:7 30FB:7 31C0-31E3:7 4DC0-4DFF:7 A490-A4C6:7 A60D-A60F:7
A66F-A672:9 A673:7 A674-A67D:9 A67E-A67F:7 A69E-A69F:9 A6F0-A6F1:9 A700-A721:7 A788:7 A802:9
A806:9 A80B:9 A825-A826:9 A828-A82B:7 A82C:9 A838-A839:6 A874-A877:7 A8C4-A8C5:9 A8E0-A8F1:9
A8FF:9 A926-A92D:9 A947-A951:9 A980-A982:9 A9B3:9 A9B6-A9B9:9 A9BC-A9BD:9 A9E5:9 AA29-AA2E:9
AA31-AA32:9 AA35-AA36:9 AA43:9 AA4C:9 AA7C:9 AAB0:9 AAB2-AAB4:9 AAB7-AAB8:9 AABE-AABF:9 AAC1:9
AAEC-AAED:9 AAF6:9 AB6A-AB6B:7 ABE5:9 ABE8:9 ABED:9 FB1E:9 FBB2-FBD2:1 FD3E-FD4F:7 FD90-FD91:1
FDC8-FDCE:1 FDCF:7 FDFD-FDFF:7 FE20-FE2F:9 FE45-FE46:7 FE73:1 10101:7 10140-1018C:7 10190-1019C:7
101A0:7 101FD:9 102E0:9 102E1-102FB:3 10376-1037A:9 10800-10805:0 10808:0 1080A-10835:0
10837-10838:0 1083C:0 1083F-10855:0 10857-1089E:0 108A7-108AF:0 108E0-108F2:0 108F4-108F5:0
108FB-1091B:0 1091F:7 10920-10939:0 1093F-10959:0 10980-109B7:0 109BC-109CF:0 109D2-10A00:0
10A01-10A03:9 10A05-10A06:9 10A0C-10A0F:9 10A10-10A13:0 10A15-10A17:0 10A19-10A35:0 10A38-10A3A:9
10A3F:9 10A40-10A48:0 10A50-10A58:0 10A60-10A9F:0 10AC0-10AE4:0 10AE5-10AE6:9 10AEB-10AF6:0
10B00-10B35:0 10B39-10B3F:7 10B40-10B55:0 10B58-10B72:0 10B78-10B91:0 10B99-10B9C:0 10BA9-10BAF:0
10C00-10C48:0 10CC0-10CF2:0 10CFA-10CFF:0 10D00-10D23:1 10D24-10D27:9 10D30-10D39:2 10D40-10D49:2
10D4A-10D4F:0 10D69-10D6D:9 10D6E:7 10D6F-10D85:0 10D8E-10D8F:0 10E60-10E7E:2 10E80-10EA9:0
10EAB-10EAC:9 10EAD:0 10EB0-10EB1:0 10EC2-10EC7:1 10ED0-10ED8:1 10EFA-10EFB:1 10EFC-10EFF:9
10F00-10F27:0 10F30-10F45:1 10F46-10F50:9 10F51-10F59:1 10F70-10F81:0 10F82-10F85:9 10F86-10F89:0
10FB0-10FCB:0 10FE0-10FF6:0 11001:9 11038-11046:9 11052-11065:7 11070:9 11073-11074:9
1107F-11081:9 110B3-110B6:9 110B9-110BA:9 110C2:9 11100-11102:9 11127-1112B:9 1112D-11134:9
11173:9 11180-11181:9 111B6-111BE:9 111C9-111CC:9 111CF:9 1122F-11231:9 11234:9 11236-11237:9
1123E:9 11241:9 112DF:9 112E3-112EA:9 11300-11301:9 1133B-1133C:9 11340:9 11366-1136C:9
11370-11374:9 113BB-113C0:9 113CE:9 113D0:9 113D2:9 113E1-113E2:9 11438-1143F:9 11442-11444:9
11446:9 1145E:9 114B3-114B8:9 114BA:9 114BF-114C0:9 114C2-114C3:9 115B2-115B5:9 115BC-115BD:9
115BF-115C0:9 115DC-115DD:9 11633-1163A:9 1163D:9 1163F-11640:9 11660-1166C:7 116AB:9 116AD:9
116B0-116B5:9 116B7:9 1171D-1171F:9 11722-11725:9 11727-1172B:9 1182F-11837:9 11839-1183A:9
1193B-1193C:9 1193E:9 11943:9 119D4-119D7:9 119DA-119DB:9 119E0:9 11A01-11A06:9 11A09-11A0A:9
11A33-11A38:9 11A3B-11A3E:9 11A47:9 11A51-11A56:9 11A59-11A5B:9 11A8A-11A96:9 11A98-11A99:9
11C30-11C36:9 11C38-11C3D:9 11C92-11CA7:9 11CAA-11CB0:9 11CB2-11CB3:9 11CB5-11CB6:9 11D31-11D36:9
11D3A:9 11D3C-11D3D:9 11D3F-11D45:9 11D47:9 11D90-11D91:9 11D95:9 11D97:9 11EF3-11EF4:9
11F00-11F01:9 11F36-11F3A:9 11F40:9 11F42:9 11F5A:9 11FD5-11FDC:7 11FDD-11FE0:6 11FE1-11FF1:7
13440:9 13447-13455:9 1611E-16129:9 1612D-1612F:9 16AF0-16AF4:9 16B30-16B36:9 16F4F:9
16F8F-16F92:9 16FE2:7 16FE4:9 1BC9D-1BC9E:9 1CF00-1CF2D:9 1CF30-1CF46:9 1D167-1D169:9
1D17B-1D182:9 1D185-1D18B:9 1D1AA-1D1AD:9 1D1E9-1D1EA:7 1D200-1D241:7 1D242-1D244:9 1D245:7
1D300-1D356:7 1DA00-1DA36:9 1DA3B-1DA6C:9 1DA75:9 1DA84:9 1DA9B-1DA9F:9 1DAA1-1DAAF:9
1E000-1E006:9 1E008-1E018:9 1E01B-1E021:9 1E023-1E024:9 1E026-1E02A:9 1E08F:9 1E130-1E136:9
1E2AE:9 1E2EC-1E2EF:9 1E2FF:6 1E4EC-1E4EF:9 1E5EE-1E5EF:9 1E800-1E8C4:0 1E8C7-1E8CF:0
1E8D0-1E8D6:9 1E922-1E943:0 1E944-1E94A:9 1E94B:0 1E950-1E959:0 1E95E-1E95F:0 1EC71-1ECB4:1
1ED01-1ED3D:1 1EEF0-1EEF1:7 1F000-1F02B:7 1F030-1F093:7 1F0A0-1F0AE:7 1F0B1-1F0BF:7 1F0C1-1F0CF:7
1F0D1-1F0F5:7 1F10B-1F10F:7 1F12F:7 1F16D-1F16F:7 1F1AD:7 1F260-1F265:7 1F300-1F6D7:7
1F6DC-1F6EC:7 1F6F0-1F6FC:7 1F700-1F776:7 1F77B-1F7D9:7 1F7E0-1F7EB:7 1F7F0:7 1F800-1F80B:7
1F810-1F847:7 1F850-1F859:7 1F860-1F887:7 1F890-1F8AD:7 1F8B0-1F8B1:7 1F900-1FA53:7 1FA60-1FA6D:7
1FA70-1FA7C:7 1FA80-1FA88:7 1FA90-1FABD:7 1FABF-1FAC5:7 1FACE-1FADB:7 1FAE0-1FAE8:7 1FAF0-1FAF8:7
1FB00-1FB92:7 1FB94-1FBCA:7"

/-- Joining types: 0 left, 1 right, 2 dual, 3 transparent. All others do not join. -/
def joining : String := "
300-33F:3 342:3 346-34E:3 350-36F:3 483-489:3 591-5BD:3 5BF:3 5C1-5C2:3 5C4-5C5:3 5C7:3 610-61A:3
620:2 622-625:1 626:2 627:1 628:2 629:1 62A-62E:2 62F-632:1 633-63F:2 641-647:2 648:1 649-64A:2
64B-65F:3 66E-66F:2 670:3 671-673:1 679-687:2 688-699:1 69A-6BF:2 6C0:1 6C1-6C2:2 6C3-6CB:1 6CC:2
6CD:1 6CE:2 6CF:1 6D0-6D1:2 6D2-6D3:1 6D5:1 6D6-6DC:3 6DF-6E4:3 6E7-6E8:3 6EA-6ED:3 6EE-6EF:1
6FA-6FC:2 6FF:2 710:1 711:3 712-714:2 715-719:1 71A-71D:2 71E:1 71F-727:2 728:1 729:2 72A:1 72B:2
72C:1 72D-72E:2 72F:1 730-74A:3 74D:1 74E-758:2 759-75B:1 75C-76A:2 76B-76C:1 76D-770:2 771:1
772:2 773-774:1 775-777:2 778-779:1 77A-77F:2 7A6-7B0:3 7CA-7EA:2 7EB-7F3:3 7FD:3 816-819:3
81B-823:3 825-827:3 829-82D:3 840:1 841-845:2 846-847:1 848:2 849:1 84A-853:2 854:1 855:2
856-858:1 859-85B:3 860:2 862-865:2 867:1 868:2 869-86A:1 870-882:1 886:2 889-88D:2 88E:1 88F:2
897-89F:3 8A0-8A9:2 8AA-8AC:1 8AE:1 8AF-8B0:2 8B1-8B2:1 8B3-8B8:2 8B9:1 8BA-8C8:2 8CA-8E1:3
8E3-902:3 93A:3 93C:3 941-948:3 94D:3 951-957:3 962-963:3 981:3 9BC:3 9C1-9C4:3 9CD:3 9E2-9E3:3
9FE:3 A01-A02:3 A3C:3 A41-A42:3 A47-A48:3 A4B-A4D:3 A51:3 A70-A71:3 A75:3 A81-A82:3 ABC:3
AC1-AC5:3 AC7-AC8:3 ACD:3 AE2-AE3:3 AFA-AFF:3 B01:3 B3C:3 B3F:3 B41-B44:3 B4D:3 B55-B56:3
B62-B63:3 B82:3 BC0:3 BCD:3 C00:3 C04:3 C3C:3 C3E-C40:3 C46-C48:3 C4A-C4D:3 C55-C56:3 C62-C63:3
C81:3 CBC:3 CBF:3 CC6:3 CCC-CCD:3 CE2-CE3:3 D00-D01:3 D3B-D3C:3 D41-D44:3 D4D:3 D62-D63:3 D81:3
DCA:3 DD2-DD4:3 DD6:3 E31:3 E34-E3A:3 E47-E4E:3 EB1:3 EB4-EBC:3 EC8-ECE:3 F18-F19:3 F35:3 F37:3
F39:3 F71-F72:3 F74:3 F7A-F7E:3 F80:3 F82-F84:3 F86-F87:3 F8D-F92:3 F94-F97:3 F99-F9C:3 F9E-FA1:3
FA3-FA6:3 FA8-FAB:3 FAD-FB8:3 FBA-FBC:3 FC6:3 102D-1030:3 1032-1037:3 1039-103A:3 103D-103E:3
1058-1059:3 105E-1060:3 1071-1074:3 1082:3 1085-1086:3 108D:3 109D:3 135D-135F:3 1712-1714:3
1732-1733:3 1752-1753:3 1772-1773:3 17B7-17BD:3 17C6:3 17C9-17D3:3 17DD:3 1807:2 1820-1878:2
1885-1886:3 1887-18A8:2 18A9:3 18AA:2 1920-1922:3 1927-1928:3 1932:3 1939-193B:3 1A17-1A18:3
1A1B:3 1A56:3 1A58-1A5E:3 1A60:3 1A62:3 1A65-1A6C:3 1A73-1A7C:3 1A7F:3 1AB0-1ADD:3 1AE0-1AEB:3
1B00-1B03:3 1B34:3 1B36-1B3A:3 1B3C:3 1B42:3 1B6B-1B73:3 1B80-1B81:3 1BA2-1BA5:3 1BA8-1BA9:3
1BAB-1BAD:3 1BE6:3 1BE8-1BE9:3 1BED:3 1BEF-1BF1:3 1C2C-1C33:3 1C36-1C37:3 1CD0-1CD2:3 1CD4-1CE0:3
1CE2-1CE8:3 1CED:3 1CF4:3 1CF8-1CF9:3 1DC0-1DFF:3 20D0-20F0:3 2CEF-2CF1:3 2D7F:3 2DE0-2DFF:3
302A-302D:3 3099-309A:3 A66F-A672:3 A674-A67D:3 A69E-A69F:3 A6F0-A6F1:3 A802:3 A806:3 A80B:3
A825-A826:3 A82C:3 A840-A871:2 A872:0 A8C4-A8C5:3 A8E0-A8F1:3 A8FF:3 A926-A92D:3 A947-A951:3
A980-A982:3 A9B3:3 A9B6-A9B9:3 A9BC-A9BD:3 A9E5:3 AA29-AA2E:3 AA31-AA32:3 AA35-AA36:3 AA43:3
AA4C:3 AA7C:3 AAB0:3 AAB2-AAB4:3 AAB7-AAB8:3 AABE-AABF:3 AAC1:3 AAEC-AAED:3 AAF6:3 ABE5:3 ABE8:3
ABED:3 FB1E:3 FE20-FE2F:3 101FD:3 102E0:3 10376-1037A:3 10A01-10A03:3 10A05-10A06:3 10A0C-10A0F:3
10A38-10A3A:3 10A3F:3 10AC0-10AC4:2 10AC5:1 10AC7:1 10AC9-10ACA:1 10ACD:0 10ACE-10AD2:1
10AD3-10AD6:2 10AD7:0 10AD8-10ADC:2 10ADD:1 10ADE-10AE0:2 10AE1:1 10AE4:1 10AE5-10AE6:3
10AEB-10AEE:2 10AEF:1 10B80:2 10B81:1 10B82:2 10B83-10B85:1 10B86-10B88:2 10B89:1 10B8A-10B8B:2
10B8C:1 10B8D:2 10B8E-10B8F:1 10B90:2 10B91:1 10BA9-10BAC:1 10BAD-10BAE:2 10D00:0 10D01-10D21:2
10D22:1 10D23:2 10D24-10D27:3 10D69-10D6D:3 10EAB-10EAC:3 10EC2:1 10EC3-10EC4:2 10EC6-10EC7:2
10EFA-10EFF:3 10F30-10F32:2 10F33:1 10F34-10F44:2 10F46-10F50:3 10F51-10F53:2 10F54:1
10F70-10F73:2 10F74-10F75:1 10F76-10F81:2 10F82-10F85:3 10FB0:2 10FB2-10FB3:2 10FB4-10FB6:1
10FB8:2 10FB9-10FBA:1 10FBB-10FBC:2 10FBD:1 10FBE-10FBF:2 10FC1:2 10FC2-10FC3:1 10FC4:2 10FC9:1
10FCA:2 10FCB:0 11001:3 11038-11046:3 11070:3 11073-11074:3 1107F-11081:3 110B3-110B6:3
110B9-110BA:3 110C2:3 11100-11102:3 11127-1112B:3 1112D-11134:3 11173:3 11180-11181:3
111B6-111BE:3 111C9-111CC:3 111CF:3 1122F-11231:3 11234:3 11236-11237:3 1123E:3 11241:3 112DF:3
112E3-112EA:3 11300-11301:3 1133B-1133C:3 11340:3 11366-1136C:3 11370-11374:3 113BB-113C0:3
113CE:3 113D0:3 113D2:3 113E1-113E2:3 11438-1143F:3 11442-11444:3 11446:3 1145E:3 114B3-114B8:3
114BA:3 114BF-114C0:3 114C2-114C3:3 115B2-115B5:3 115BC-115BD:3 115BF-115C0:3 115DC-115DD:3
11633-1163A:3 1163D:3 1163F-11640:3 116AB:3 116AD:3 116B0-116B5:3 116B7:3 1171D:3 1171F:3
11722-11725:3 11727-1172B:3 1182F-11837:3 11839-1183A:3 1193B-1193C:3 1193E:3 11943:3
119D4-119D7:3 119DA-119DB:3 119E0:3 11A01-11A0A:3 11A33-11A38:3 11A3B-11A3E:3 11A47:3
11A51-11A56:3 11A59-11A5B:3 11A8A-11A96:3 11A98-11A99:3 11B60:3 11B62-11B64:3 11B66:3
11C30-11C36:3 11C38-11C3D:3 11C3F:3 11C92-11CA7:3 11CAA-11CB0:3 11CB2-11CB3:3 11CB5-11CB6:3
11D31-11D36:3 11D3A:3 11D3C-11D3D:3 11D3F-11D45:3 11D47:3 11D90-11D91:3 11D95:3 11D97:3
11EF3-11EF4:3 11F00-11F01:3 11F36-11F3A:3 11F40:3 11F42:3 11F5A:3 13440:3 13447-13455:3
1611E-16129:3 1612D-1612F:3 16AF0-16AF4:3 16B30-16B36:3 16F4F:3 16F8F-16F92:3 16FE4:3
1BC9D-1BC9E:3 1CF00-1CF2D:3 1CF30-1CF46:3 1D167-1D169:3 1D17B-1D182:3 1D185-1D18B:3 1D1AA-1D1AD:3
1D242-1D244:3 1DA00-1DA36:3 1DA3B-1DA6C:3 1DA75:3 1DA84:3 1DA9B-1DA9F:3 1DAA1-1DAAF:3
1E000-1E006:3 1E008-1E018:3 1E01B-1E021:3 1E023-1E024:3 1E026-1E02A:3 1E08F:3 1E130-1E136:3
1E2AE:3 1E2EC-1E2EF:3 1E4EC-1E4EF:3 1E5EE-1E5EF:3 1E6E3:3 1E6E6:3 1E6EE-1E6EF:3 1E6F5:3
1E8D0-1E8D6:3 1E922-1E943:2 1E944-1E94B:3"

end SchemaModel.Domain.LabelTable
