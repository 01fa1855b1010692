import Conform.Text.Ranges
import Conform.Text.Unicode17
/-!
Unicode case mapping. Lowercasing and uppercasing map each character to its full mapping,
which may be several characters (`ß` uppercases to `SS`, `İ` lowercases to `i̇`); a capital
sigma lowercases to a final sigma when a cased letter precedes it and none follows it, case
ignorable characters passed over on both sides. Simple case folding relates the characters
that a case-insensitive match treats as one.

The tables are those of Unicode 16.0, which patterns follow; case conversion of text applies
the changes of 17.0 on top of them.
-/
namespace Conform.Text

/-- Runs of the single-character lowercase mapping. -/
def lowerRunsText : String := String.join [
    "41.5A+20 C0.D6+20 D8.DE+20 100.12E+1/2 132.136+1/2 139.147+1/2 14A.176+1/2 178_79 ",
    "179.17D+1/2 181+D2 182.184+1/2 186+CE 187+1 189.18A+CD 18B+1 18E+4F 18F+CA 190+CB 191+1 ",
    "193+CD 194+CF 196+D3 197+D1 198+1 19C+D3 19D+D5 19F+D6 1A0.1A4+1/2 1A6+DA 1A7+1 1A9+DA ",
    "1AC+1 1AE+DA 1AF+1 1B1.1B2+D9 1B3.1B5+1/2 1B7+DB 1B8+1 1BC+1 1C4+2 1C5+1 1C7+2 1C8+1 ",
    "1CA+2 1CB.1DB+1/2 1DE.1EE+1/2 1F1+2 1F2.1F4+1/2 1F6_61 1F7_38 1F8.21E+1/2 220_82 ",
    "222.232+1/2 23A+2A2B 23B+1 23D_A3 23E+2A28 241+1 243_C3 244+45 245+47 246.24E+1/2 ",
    "370.372+1/2 376+1 37F+74 386+26 388.38A+25 38C+40 38E.38F+3F 391.3A1+20 3A3.3AB+20 3CF+8 ",
    "3D8.3EE+1/2 3F4_3C 3F7+1 3F9_7 3FA+1 3FD.3FF_82 400.40F+50 410.42F+20 460.480+1/2 ",
    "48A.4BE+1/2 4C0+F 4C1.4CD+1/2 4D0.52E+1/2 531.556+30 10A0.10C5+1C60 10C7+1C60 10CD+1C60 ",
    "13A0.13EF+97D0 13F0.13F5+8 1C89+1 1C90.1CBA_BC0 1CBD.1CBF_BC0 1E00.1E94+1/2 1E9E_1DBF ",
    "1EA0.1EFE+1/2 1F08.1F0F_8 1F18.1F1D_8 1F28.1F2F_8 1F38.1F3F_8 1F48.1F4D_8 1F59.1F5F_8/2 ",
    "1F68.1F6F_8 1F88.1F8F_8 1F98.1F9F_8 1FA8.1FAF_8 1FB8.1FB9_8 1FBA.1FBB_4A 1FBC_9 ",
    "1FC8.1FCB_56 1FCC_9 1FD8.1FD9_8 1FDA.1FDB_64 1FE8.1FE9_8 1FEA.1FEB_70 1FEC_7 ",
    "1FF8.1FF9_80 1FFA.1FFB_7E 1FFC_9 2126_1D5D 212A_20BF 212B_2046 2132+1C 2160.216F+10 ",
    "2183+1 24B6.24CF+1A 2C00.2C2F+30 2C60+1 2C62_29F7 2C63_EE6 2C64_29E7 2C67.2C6B+1/2 ",
    "2C6D_2A1C 2C6E_29FD 2C6F_2A1F 2C70_2A1E 2C72+1 2C75+1 2C7E.2C7F_2A3F 2C80.2CE2+1/2 ",
    "2CEB.2CED+1/2 2CF2+1 A640.A66C+1/2 A680.A69A+1/2 A722.A72E+1/2 A732.A76E+1/2 ",
    "A779.A77B+1/2 A77D_8A04 A77E.A786+1/2 A78B+1 A78D_A528 A790.A792+1/2 A796.A7A8+1/2 ",
    "A7AA_A544 A7AB_A54F A7AC_A54B A7AD_A541 A7AE_A544 A7B0_A512 A7B1_A52A A7B2_A515 A7B3+3A0 ",
    "A7B4.A7C2+1/2 A7C4_30 A7C5_A543 A7C6_8A38 A7C7.A7C9+1/2 A7CB_A567 A7CC+1 A7D0+1 ",
    "A7D6.A7DA+1/2 A7DC_A641 A7F5+1 FF21.FF3A+20 10400.10427+28 104B0.104D3+28 10570.1057A+27 ",
    "1057C.1058A+27 1058C.10592+27 10594.10595+27 10C80.10CB2+40 10D50.10D65+20 ",
    "118A0.118BF+20 16E40.16E5F+20 1E900.1E921+22"]

/-- Characters whose lowercase is more than one character. -/
def lowerSpecialText : String := String.join [
    "130=69.307"]

/-- Runs of the single-character uppercase mapping. -/
def upperRunsText : String := String.join [
    "61.7A_20 B5+2E7 E0.F6_20 F8.FE_20 FF+79 101.12F_1/2 131_E8 133.137_1/2 13A.148_1/2 ",
    "14B.177_1/2 17A.17E_1/2 17F_12C 180+C3 183.185_1/2 188_1 18C_1 192_1 195+61 199_1 19A+A3 ",
    "19B+A641 19E+82 1A1.1A5_1/2 1A8_1 1AD_1 1B0_1 1B4.1B6_1/2 1B9_1 1BD_1 1BF+38 1C5_1 1C6_2 ",
    "1C8_1 1C9_2 1CB_1 1CC_2 1CE.1DC_1/2 1DD_4F 1DF.1EF_1/2 1F2_1 1F3_2 1F5_1 1F9.21F_1/2 ",
    "223.233_1/2 23C_1 23F.240+2A3F 242_1 247.24F_1/2 250+2A1F 251+2A1C 252+2A1E 253_D2 ",
    "254_CE 256.257_CD 259_CA 25B_CB 25C+A54F 260_CD 261+A54B 263_CF 264+A567 265+A528 ",
    "266+A544 268_D1 269_D3 26A+A544 26B+29F7 26C+A541 26F_D3 271+29FD 272_D5 275_D6 27D+29E7 ",
    "280_DA 282+A543 283_DA 287+A52A 288_DA 289_45 28A.28B_D9 28C_47 292_DB 29D+A515 29E+A512 ",
    "345+54 371.373_1/2 377_1 37B.37D+82 3AC_26 3AD.3AF_25 3B1.3C1_20 3C2_1F 3C3.3CB_20 ",
    "3CC_40 3CD.3CE_3F 3D0_3E 3D1_39 3D5_2F 3D6_36 3D7_8 3D9.3EF_1/2 3F0_56 3F1_50 3F2+7 ",
    "3F3_74 3F5_60 3F8_1 3FB_1 430.44F_20 450.45F_50 461.481_1/2 48B.4BF_1/2 4C2.4CE_1/2 ",
    "4CF_F 4D1.52F_1/2 561.586_30 10D0.10FA+BC0 10FD.10FF+BC0 13F8.13FD_8 1C80_186E 1C81_186D ",
    "1C82_1864 1C83.1C84_1862 1C85_1863 1C86_185C 1C87_1825 1C88+89C2 1C8A_1 1D79+8A04 ",
    "1D7D+EE6 1D8E+8A38 1E01.1E95_1/2 1E9B_3B 1EA1.1EFF_1/2 1F00.1F07+8 1F10.1F15+8 ",
    "1F20.1F27+8 1F30.1F37+8 1F40.1F45+8 1F51.1F57+8/2 1F60.1F67+8 1F70.1F71+4A 1F72.1F75+56 ",
    "1F76.1F77+64 1F78.1F79+80 1F7A.1F7B+70 1F7C.1F7D+7E 1FB0.1FB1+8 1FBE_1C25 1FD0.1FD1+8 ",
    "1FE0.1FE1+8 1FE5+7 214E_1C 2170.217F_10 2184_1 24D0.24E9_1A 2C30.2C5F_30 2C61_1 ",
    "2C65_2A2B 2C66_2A28 2C68.2C6C_1/2 2C73_1 2C76_1 2C81.2CE3_1/2 2CEC.2CEE_1/2 2CF3_1 ",
    "2D00.2D25_1C60 2D27_1C60 2D2D_1C60 A641.A66D_1/2 A681.A69B_1/2 A723.A72F_1/2 ",
    "A733.A76F_1/2 A77A.A77C_1/2 A77F.A787_1/2 A78C_1 A791.A793_1/2 A794+30 A797.A7A9_1/2 ",
    "A7B5.A7C3_1/2 A7C8.A7CA_1/2 A7CD_1 A7D1_1 A7D7.A7DB_1/2 A7F6_1 AB53_3A0 AB70.ABBF_97D0 ",
    "FF41.FF5A_20 10428.1044F_28 104D8.104FB_28 10597.105A1_27 105A3.105B1_27 105B3.105B9_27 ",
    "105BB.105BC_27 10CC0.10CF2_40 10D70.10D85_20 118C0.118DF_20 16E60.16E7F_20 ",
    "1E922.1E943_22"]

/-- Characters whose uppercase is more than one character. -/
def upperSpecialText : String := String.join [
    "DF=53.53 149=2BC.4E 1F0=4A.30C 390=399.308.301 3B0=3A5.308.301 587=535.552 1E96=48.331 ",
    "1E97=54.308 1E98=57.30A 1E99=59.30A 1E9A=41.2BE 1F50=3A5.313 1F52=3A5.313.300 ",
    "1F54=3A5.313.301 1F56=3A5.313.342 1F80=1F08.399 1F81=1F09.399 1F82=1F0A.399 ",
    "1F83=1F0B.399 1F84=1F0C.399 1F85=1F0D.399 1F86=1F0E.399 1F87=1F0F.399 1F88=1F08.399 ",
    "1F89=1F09.399 1F8A=1F0A.399 1F8B=1F0B.399 1F8C=1F0C.399 1F8D=1F0D.399 1F8E=1F0E.399 ",
    "1F8F=1F0F.399 1F90=1F28.399 1F91=1F29.399 1F92=1F2A.399 1F93=1F2B.399 1F94=1F2C.399 ",
    "1F95=1F2D.399 1F96=1F2E.399 1F97=1F2F.399 1F98=1F28.399 1F99=1F29.399 1F9A=1F2A.399 ",
    "1F9B=1F2B.399 1F9C=1F2C.399 1F9D=1F2D.399 1F9E=1F2E.399 1F9F=1F2F.399 1FA0=1F68.399 ",
    "1FA1=1F69.399 1FA2=1F6A.399 1FA3=1F6B.399 1FA4=1F6C.399 1FA5=1F6D.399 1FA6=1F6E.399 ",
    "1FA7=1F6F.399 1FA8=1F68.399 1FA9=1F69.399 1FAA=1F6A.399 1FAB=1F6B.399 1FAC=1F6C.399 ",
    "1FAD=1F6D.399 1FAE=1F6E.399 1FAF=1F6F.399 1FB2=1FBA.399 1FB3=391.399 1FB4=386.399 ",
    "1FB6=391.342 1FB7=391.342.399 1FBC=391.399 1FC2=1FCA.399 1FC3=397.399 1FC4=389.399 ",
    "1FC6=397.342 1FC7=397.342.399 1FCC=397.399 1FD2=399.308.300 1FD3=399.308.301 ",
    "1FD6=399.342 1FD7=399.308.342 1FE2=3A5.308.300 1FE3=3A5.308.301 1FE4=3A1.313 ",
    "1FE6=3A5.342 1FE7=3A5.308.342 1FF2=1FFA.399 1FF3=3A9.399 1FF4=38F.399 1FF6=3A9.342 ",
    "1FF7=3A9.342.399 1FFC=3A9.399 FB00=46.46 FB01=46.49 FB02=46.4C FB03=46.46.49 ",
    "FB04=46.46.4C FB05=53.54 FB06=53.54 FB13=544.546 FB14=544.535 FB15=544.53B FB16=54E.546 ",
    "FB17=544.53D"]

/-- Ranges of the property Cased. -/
def casedText : String := String.join [
    "41.5A 61.7A AA B5 BA C0.D6 D8.F6 F8.1BA 1BC.1BF 1C4.293 295.2B8 2C0.2C1 2E0.2E4 345 ",
    "370.373 376.377 37A.37D 37F 386 388.38A 38C 38E.3A1 3A3.3F5 3F7.481 48A.52F 531.556 ",
    "560.588 10A0.10C5 10C7 10CD 10D0.10FA 10FC.10FF 13A0.13F5 13F8.13FD 1C80.1C8A 1C90.1CBA ",
    "1CBD.1CBF 1D00.1DBF 1E00.1F15 1F18.1F1D 1F20.1F45 1F48.1F4D 1F50.1F57 1F59 1F5B 1F5D ",
    "1F5F.1F7D 1F80.1FB4 1FB6.1FBC 1FBE 1FC2.1FC4 1FC6.1FCC 1FD0.1FD3 1FD6.1FDB 1FE0.1FEC ",
    "1FF2.1FF4 1FF6.1FFC 2071 207F 2090.209C 2102 2107 210A.2113 2115 2119.211D 2124 2126 ",
    "2128 212A.212D 212F.2134 2139 213C.213F 2145.2149 214E 2160.217F 2183.2184 24B6.24E9 ",
    "2C00.2CE4 2CEB.2CEE 2CF2.2CF3 2D00.2D25 2D27 2D2D A640.A66D A680.A69D A722.A787 ",
    "A78B.A78E A790.A7CD A7D0.A7D1 A7D3 A7D5.A7DC A7F2.A7F6 A7F8.A7FA AB30.AB5A AB5C.AB69 ",
    "AB70.ABBF FB00.FB06 FB13.FB17 FF21.FF3A FF41.FF5A 10400.1044F 104B0.104D3 104D8.104FB ",
    "10570.1057A 1057C.1058A 1058C.10592 10594.10595 10597.105A1 105A3.105B1 105B3.105B9 ",
    "105BB.105BC 10780 10783.10785 10787.107B0 107B2.107BA 10C80.10CB2 10CC0.10CF2 ",
    "10D50.10D65 10D70.10D85 118A0.118DF 16E40.16E7F 1D400.1D454 1D456.1D49C 1D49E.1D49F ",
    "1D4A2 1D4A5.1D4A6 1D4A9.1D4AC 1D4AE.1D4B9 1D4BB 1D4BD.1D4C3 1D4C5.1D505 1D507.1D50A ",
    "1D50D.1D514 1D516.1D51C 1D51E.1D539 1D53B.1D53E 1D540.1D544 1D546 1D54A.1D550 ",
    "1D552.1D6A5 1D6A8.1D6C0 1D6C2.1D6DA 1D6DC.1D6FA 1D6FC.1D714 1D716.1D734 1D736.1D74E ",
    "1D750.1D76E 1D770.1D788 1D78A.1D7A8 1D7AA.1D7C2 1D7C4.1D7CB 1DF00.1DF09 1DF0B.1DF1E ",
    "1DF25.1DF2A 1E030.1E06D 1E900.1E943 1F130.1F149 1F150.1F169 1F170.1F189"]

/-- Ranges of the property Case_Ignorable. -/
def caseIgnorableText : String := String.join [
    "27 2E 3A 5E 60 A8 AD AF B4 B7.B8 2B0.36F 374.375 37A 384.385 387 483.489 559 55F 591.5BD ",
    "5BF 5C1.5C2 5C4.5C5 5C7 5F4 600.605 610.61A 61C 640 64B.65F 670 6D6.6DD 6DF.6E8 6EA.6ED ",
    "70F 711 730.74A 7A6.7B0 7EB.7F5 7FA 7FD 816.82D 859.85B 888 890.891 897.89F 8C9.902 93A ",
    "93C 941.948 94D 951.957 962.963 971 981 9BC 9C1.9C4 9CD 9E2.9E3 9FE A01.A02 A3C A41.A42 ",
    "A47.A48 A4B.A4D A51 A70.A71 A75 A81.A82 ABC AC1.AC5 AC7.AC8 ACD AE2.AE3 AFA.AFF B01 B3C ",
    "B3F B41.B44 B4D B55.B56 B62.B63 B82 BC0 BCD C00 C04 C3C C3E.C40 C46.C48 C4A.C4D C55.C56 ",
    "C62.C63 C81 CBC CBF CC6 CCC.CCD CE2.CE3 D00.D01 D3B.D3C D41.D44 D4D D62.D63 D81 DCA ",
    "DD2.DD4 DD6 E31 E34.E3A E46.E4E EB1 EB4.EBC EC6 EC8.ECE F18.F19 F35 F37 F39 F71.F7E ",
    "F80.F84 F86.F87 F8D.F97 F99.FBC FC6 102D.1030 1032.1037 1039.103A 103D.103E 1058.1059 ",
    "105E.1060 1071.1074 1082 1085.1086 108D 109D 10FC 135D.135F 1712.1714 1732.1733 ",
    "1752.1753 1772.1773 17B4.17B5 17B7.17BD 17C6 17C9.17D3 17D7 17DD 180B.180F 1843 ",
    "1885.1886 18A9 1920.1922 1927.1928 1932 1939.193B 1A17.1A18 1A1B 1A56 1A58.1A5E 1A60 ",
    "1A62 1A65.1A6C 1A73.1A7C 1A7F 1AA7 1AB0.1ACE 1B00.1B03 1B34 1B36.1B3A 1B3C 1B42 ",
    "1B6B.1B73 1B80.1B81 1BA2.1BA5 1BA8.1BA9 1BAB.1BAD 1BE6 1BE8.1BE9 1BED 1BEF.1BF1 ",
    "1C2C.1C33 1C36.1C37 1C78.1C7D 1CD0.1CD2 1CD4.1CE0 1CE2.1CE8 1CED 1CF4 1CF8.1CF9 ",
    "1D2C.1D6A 1D78 1D9B.1DFF 1FBD 1FBF.1FC1 1FCD.1FCF 1FDD.1FDF 1FED.1FEF 1FFD.1FFE ",
    "200B.200F 2018.2019 2024 2027 202A.202E 2060.2064 2066.206F 2071 207F 2090.209C ",
    "20D0.20F0 2C7C.2C7D 2CEF.2CF1 2D6F 2D7F 2DE0.2DFF 2E2F 3005 302A.302D 3031.3035 303B ",
    "3099.309E 30FC.30FE A015 A4F8.A4FD A60C A66F.A672 A674.A67D A67F A69C.A69F A6F0.A6F1 ",
    "A700.A721 A770 A788.A78A A7F2.A7F4 A7F8.A7F9 A802 A806 A80B A825.A826 A82C A8C4.A8C5 ",
    "A8E0.A8F1 A8FF A926.A92D A947.A951 A980.A982 A9B3 A9B6.A9B9 A9BC.A9BD A9CF A9E5.A9E6 ",
    "AA29.AA2E AA31.AA32 AA35.AA36 AA43 AA4C AA70 AA7C AAB0 AAB2.AAB4 AAB7.AAB8 AABE.AABF ",
    "AAC1 AADD AAEC.AAED AAF3.AAF4 AAF6 AB5B.AB5F AB69.AB6B ABE5 ABE8 ABED FB1E FBB2.FBC2 ",
    "FE00.FE0F FE13 FE20.FE2F FE52 FE55 FEFF FF07 FF0E FF1A FF3E FF40 FF70 FF9E.FF9F FFE3 ",
    "FFF9.FFFB 101FD 102E0 10376.1037A 10780.10785 10787.107B0 107B2.107BA 10A01.10A03 ",
    "10A05.10A06 10A0C.10A0F 10A38.10A3A 10A3F 10AE5.10AE6 10D24.10D27 10D4E.10D4F ",
    "10D69.10D6D 10D6F 10EAB.10EAC 10EFC.10EFF 10F46.10F50 10F82.10F85 11001 11038.11046 ",
    "11070 11073.11074 1107F.11081 110B3.110B6 110B9.110BA 110BD 110C2 110CD 11100.11102 ",
    "11127.1112B 1112D.11134 11173 11180.11181 111B6.111BE 111C9.111CC 111CF 1122F.11231 ",
    "11234 11236.11237 1123E 11241 112DF 112E3.112EA 11300.11301 1133B.1133C 11340 ",
    "11366.1136C 11370.11374 113BB.113C0 113CE 113D0 113D2 113E1.113E2 11438.1143F ",
    "11442.11444 11446 1145E 114B3.114B8 114BA 114BF.114C0 114C2.114C3 115B2.115B5 ",
    "115BC.115BD 115BF.115C0 115DC.115DD 11633.1163A 1163D 1163F.11640 116AB 116AD ",
    "116B0.116B5 116B7 1171D.1171F 11722.11725 11727.1172B 1182F.11837 11839.1183A ",
    "1193B.1193C 1193E 11943 119D4.119D7 119DA.119DB 119E0 11A01.11A0A 11A33.11A38 ",
    "11A3B.11A3E 11A47 11A51.11A56 11A59.11A5B 11A8A.11A96 11A98.11A99 11C30.11C36 ",
    "11C38.11C3D 11C3F 11C92.11CA7 11CAA.11CB0 11CB2.11CB3 11CB5.11CB6 11D31.11D36 11D3A ",
    "11D3C.11D3D 11D3F.11D45 11D47 11D90.11D91 11D95 11D97 11EF3.11EF4 11F00.11F01 ",
    "11F36.11F3A 11F40 11F42 11F5A 13430.13440 13447.13455 1611E.16129 1612D.1612F ",
    "16AF0.16AF4 16B30.16B36 16B40.16B43 16D40.16D42 16D6B.16D6C 16F4F 16F8F.16F9F ",
    "16FE0.16FE1 16FE3.16FE4 1AFF0.1AFF3 1AFF5.1AFFB 1AFFD.1AFFE 1BC9D.1BC9E 1BCA0.1BCA3 ",
    "1CF00.1CF2D 1CF30.1CF46 1D167.1D169 1D173.1D182 1D185.1D18B 1D1AA.1D1AD 1D242.1D244 ",
    "1DA00.1DA36 1DA3B.1DA6C 1DA75 1DA84 1DA9B.1DA9F 1DAA1.1DAAF 1E000.1E006 1E008.1E018 ",
    "1E01B.1E021 1E023.1E024 1E026.1E02A 1E030.1E06D 1E08F 1E130.1E13D 1E2AE 1E2EC.1E2EF ",
    "1E4EB.1E4EF 1E5EE.1E5EF 1E8D0.1E8D6 1E944.1E94B 1F3FB.1F3FF E0001 E0020.E007F ",
    "E0100.E01EF"]

/-- Runs of simple case folding. -/
def foldRunsText : String := String.join [
    "41.5A+20 B5+307 C0.D6+20 D8.DE+20 100.12E+1/2 132.136+1/2 139.147+1/2 14A.176+1/2 178_79 ",
    "179.17D+1/2 17F_10C 181+D2 182.184+1/2 186+CE 187+1 189.18A+CD 18B+1 18E+4F 18F+CA ",
    "190+CB 191+1 193+CD 194+CF 196+D3 197+D1 198+1 19C+D3 19D+D5 19F+D6 1A0.1A4+1/2 1A6+DA ",
    "1A7+1 1A9+DA 1AC+1 1AE+DA 1AF+1 1B1.1B2+D9 1B3.1B5+1/2 1B7+DB 1B8+1 1BC+1 1C4+2 1C5+1 ",
    "1C7+2 1C8+1 1CA+2 1CB.1DB+1/2 1DE.1EE+1/2 1F1+2 1F2.1F4+1/2 1F6_61 1F7_38 1F8.21E+1/2 ",
    "220_82 222.232+1/2 23A+2A2B 23B+1 23D_A3 23E+2A28 241+1 243_C3 244+45 245+47 246.24E+1/2 ",
    "345+74 370.372+1/2 376+1 37F+74 386+26 388.38A+25 38C+40 38E.38F+3F 391.3A1+20 ",
    "3A3.3AB+20 3C2+1 3CF+8 3D0_1E 3D1_19 3D5_F 3D6_16 3D8.3EE+1/2 3F0_36 3F1_30 3F4_3C ",
    "3F5_40 3F7+1 3F9_7 3FA+1 3FD.3FF_82 400.40F+50 410.42F+20 460.480+1/2 48A.4BE+1/2 4C0+F ",
    "4C1.4CD+1/2 4D0.52E+1/2 531.556+30 10A0.10C5+1C60 10C7+1C60 10CD+1C60 13F8.13FD_8 ",
    "1C80_184E 1C81_184D 1C82_1844 1C83.1C84_1842 1C85_1843 1C86_183C 1C87_1824 1C88+89C3 ",
    "1C89+1 1C90.1CBA_BC0 1CBD.1CBF_BC0 1E00.1E94+1/2 1E9B_3A 1E9E_1DBF 1EA0.1EFE+1/2 ",
    "1F08.1F0F_8 1F18.1F1D_8 1F28.1F2F_8 1F38.1F3F_8 1F48.1F4D_8 1F59.1F5F_8/2 1F68.1F6F_8 ",
    "1F88.1F8F_8 1F98.1F9F_8 1FA8.1FAF_8 1FB8.1FB9_8 1FBA.1FBB_4A 1FBC_9 1FBE_1C05 ",
    "1FC8.1FCB_56 1FCC_9 1FD8.1FD9_8 1FDA.1FDB_64 1FE8.1FE9_8 1FEA.1FEB_70 1FEC_7 ",
    "1FF8.1FF9_80 1FFA.1FFB_7E 1FFC_9 2126_1D5D 212A_20BF 212B_2046 2132+1C 2160.216F+10 ",
    "2183+1 24B6.24CF+1A 2C00.2C2F+30 2C60+1 2C62_29F7 2C63_EE6 2C64_29E7 2C67.2C6B+1/2 ",
    "2C6D_2A1C 2C6E_29FD 2C6F_2A1F 2C70_2A1E 2C72+1 2C75+1 2C7E.2C7F_2A3F 2C80.2CE2+1/2 ",
    "2CEB.2CED+1/2 2CF2+1 A640.A66C+1/2 A680.A69A+1/2 A722.A72E+1/2 A732.A76E+1/2 ",
    "A779.A77B+1/2 A77D_8A04 A77E.A786+1/2 A78B+1 A78D_A528 A790.A792+1/2 A796.A7A8+1/2 ",
    "A7AA_A544 A7AB_A54F A7AC_A54B A7AD_A541 A7AE_A544 A7B0_A512 A7B1_A52A A7B2_A515 A7B3+3A0 ",
    "A7B4.A7C2+1/2 A7C4_30 A7C5_A543 A7C6_8A38 A7C7.A7C9+1/2 A7CB_A567 A7CC+1 A7D0+1 ",
    "A7D6.A7DA+1/2 A7DC_A641 A7F5+1 AB70.ABBF_97D0 FF21.FF3A+20 10400.10427+28 104B0.104D3+28 ",
    "10570.1057A+27 1057C.1058A+27 1058C.10592+27 10594.10595+27 10C80.10CB2+40 ",
    "10D50.10D65+20 118A0.118BF+20 16E40.16E5F+20 1E900.1E921+22"]

def lowerRuns : ShiftMap := ShiftMap.ofText lowerRunsText

def lowerSpecial : List (Nat × List Nat) := readSpecial lowerSpecialText

def upperRuns : ShiftMap := ShiftMap.ofText upperRunsText

def upperSpecial : List (Nat × List Nat) := readSpecial upperSpecialText

def casedSet : RangeSet := RangeSet.ofText casedText

def caseIgnorableSet : RangeSet := RangeSet.ofText caseIgnorableText

def foldRuns : ShiftMap := ShiftMap.ofText foldRunsText

/-- The full mapping of a character by a single-character map and its exceptions. -/
def mapChar (runs : ShiftMap) (special : List (Nat × List Nat)) (c : Char) : List Char :=
  match special.lookup c.toNat with
  | some cs => cs.map Char.ofNat
  | none =>
    match runs.image? c.toNat with
    | some n => [Char.ofNat n]
    | none => [c]

/-- The full lowercase mapping of a character, out of context, as Unicode 17.0 has it. -/
def charLower (c : Char) : List Char :=
  match recentLower.image? c.toNat with
  | some n => [Char.ofNat n]
  | none => mapChar lowerRuns lowerSpecial c

/-- The full uppercase mapping of a character, as Unicode 17.0 has it. -/
def charUpper (c : Char) : List Char :=
  match recentUpper.image? c.toNat with
  | some n => [Char.ofNat n]
  | none => mapChar upperRuns upperSpecial c

/-- Whether a character is cased, as Unicode 17.0 has it. -/
def isCased (c : Char) : Bool :=
  (casedSet.contains c.toNat && !recentUncased.contains c.toNat) || recentCased.contains c.toNat

/-- Whether a character is case ignorable, as Unicode 17.0 has it. -/
def isCaseIgnorable (c : Char) : Bool :=
  caseIgnorableSet.contains c.toNat || recentCaseIgnorable.contains c.toNat

/-- Whether the first character that is not case ignorable is cased. -/
def casedPastIgnorable (cs : List Char) : Bool :=
  match cs.dropWhile isCaseIgnorable with
  | c :: _ => isCased c
  | [] => false

/-- Lowercases `rest`, `before` holding the characters before it, nearest first. -/
def lowerChars (before : List Char) : List Char → List Char
  | [] => []
  | c :: rest =>
    let here :=
      if c = 'Σ' then
        [if casedPastIgnorable before ∧ !casedPastIgnorable rest then 'ς' else 'σ']
      else charLower c
    here ++ lowerChars (c :: before) rest

def toLower (s : String) : String := String.ofList (lowerChars [] s.toList)

def toUpper (s : String) : String := String.ofList (s.toList.flatMap charUpper)

/-- The simple case fold of a code point. -/
def fold (c : Nat) : Nat := (foldRuns.image? c).getD c

/-- The code points that simple case folding identifies with `c`, `c` included. -/
def caseOrbit (c : Nat) : List Nat :=
  let t := fold c
  (t :: foldRuns.preimage t).eraseDups

end Conform.Text
