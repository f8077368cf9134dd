import Signpost.Unicode.Category

/-
  This file defines in which direction characters are
  written, and how letters are joined to their neighbours.

  Key definitions include:
    * `Direction`
    * `direction`
    * `joinsNext`
    * `joinsPrevious`
-/

namespace Signpost.Unicode

open Text

------------------------------------------------------------
-- Directions
------------------------------------------------------------

/-
  The direction of a character: that of a script, that of a
  number, that of signs around numbers, that of what it
  marks, or none.
-/
inductive Direction where
| left
| right
| arabicNumber
| europeanNumber
| numberSign
| neutral
| mark
deriving DecidableEq, Repr

/- Letters that are written from the right. -/
def rightSpans : Spans := .ofText
  "5BE 5C0 5C3 5C6 5D0-5EA 5EF-5F4 7C0-7EA 7F4-7F5 7FA 7FE-815
  81A 824 828 830-83E 840-858 85E FB1D FB1F-FB28 FB2A-FB36
  FB38-FB3C FB3E FB40-FB41 FB43-FB44 FB46-FB4F 10800-10805
  10808 1080A-10835 10837-10838 1083C 1083F-10855 10857-1089E
  108A7-108AF 108E0-108F2 108F4-108F5 108FB-1091B 10920-10939
  1093F 10980-109B7 109BC-109CF 109D2-10A00 10A10-10A13
  10A15-10A17 10A19-10A35 10A40-10A48 10A50-10A58 10A60-10A9F
  10AC0-10AE4 10AEB-10AF6 10B00-10B35 10B40-10B55 10B58-10B72
  10B78-10B91 10B99-10B9C 10BA9-10BAF 10C00-10C48 10C80-10CB2
  10CC0-10CF2 10CFA-10CFF 10E80-10EA9 10EAD 10EB0-10EB1
  10F00-10F27 10F70-10F81 10F86-10F89 10FB0-10FCB 10FE0-10FF6
  1E800-1E8C4 1E8C7-1E8CF 1E900-1E943 1E94B 1E950-1E959
  1E95E-1E95F 608 60B 60D 61B 61D-64A 66D-66F 671-6D5 6E5-6E6
  6EE-6EF 6FA-70D 710 712-72F 74D-7A5 7B1 860-86A 870-88E
  8A0-8C9 FB50-FBC2 FBD3-FD3D FD50-FD8F FD92-FDC7 FDF0-FDFC
  FE70-FE74 FE76-FEFC 10D00-10D23 10F30-10F45 10F51-10F59
  1EC71-1ECB4 1ED01-1ED3D 1EE00-1EE03 1EE05-1EE1F 1EE21-1EE22
  1EE24 1EE27 1EE29-1EE32 1EE34-1EE37 1EE39 1EE3B 1EE42 1EE47
  1EE49 1EE4B 1EE4D-1EE4F 1EE51-1EE52 1EE54 1EE57 1EE59 1EE5B
  1EE5D 1EE5F 1EE61-1EE62 1EE64 1EE67-1EE6A 1EE6C-1EE72
  1EE74-1EE77 1EE79-1EE7C 1EE7E 1EE80-1EE89 1EE8B-1EE9B
  1EEA1-1EEA3 1EEA5-1EEA9 1EEAB-1EEBB"

/- Digits that stand among letters from the right. -/
def arabicNumberSpans : Spans := .ofText
  "660-669 66B-66C 10D30-10D39 10E60-10E7E"

/- Digits that are written from the left. -/
def europeanNumberSpans : Spans := .ofText
  "30-39 B2-B3 B9 6F0-6F9 2070 2074-2079 2080-2089 2488-249B
  FF10-FF19 102E1-102FB 1D7CE-1D7FF 1F100-1F10A 1FBF0-1FBF9"

/- Signs that stand with numbers. -/
def numberSignSpans : Spans := .ofText
  "2B 2D 207A-207B 208A-208B 2212 FB29 FE62-FE63 FF0B FF0D 2C
  2E-2F 3A 60C 2044 FE50 FE52 FE55 FF0C FF0E-FF0F FF1A 23-25
  A2-A5 B0-B1 58F 609-60A 66A 9F2-9F3 9FB AF1 BF9 E3F 17DB
  2030-2034 20A0-20C0 212E 2213 A838-A839 FE5F FE69-FE6A
  FF03-FF05 FFE0-FFE1 FFE5-FFE6 11FDD-11FE0 1E2FF"

/- Characters without a direction of their own. -/
def neutralSpans : Spans := .ofText
  "21-22 26-2A 3B-40 5B-60 7B-7E A1 A6-A9 AB-AC AE-AF B4 B6-B8
  BB-BF D7 F7 2B9-2BA 2C2-2CF 2D2-2DF 2E5-2ED 2EF-2FF 374-375
  37E 384-385 387 3F6 58A 58D-58E 606-607 60E-60F 6DE 6E9
  7F6-7F9 BF3-BF8 BFA C78-C7E F3A-F3D 1390-1399 1400
  169B-169C 17F0-17F9 1800-180A 1940 1944-1945 19DE-19FF 1FBD
  1FBF-1FC1 1FCD-1FCF 1FDD-1FDF 1FED-1FEF 1FFD-1FFE 200C-200D 2010-2027
  2035-2043 2045-205E 207C-207E 208C-208E 2100-2101 2103-2106
  2108-2109 2114 2116-2118 211E-2123 2125 2127 2129 213A-213B
  2140-2144 214A-214D 2150-215F 2189-218B 2190-2211 2214-2335
  237B-2394 2396-2426 2440-244A 2460-2487 24EA-26AB 26AD-27FF
  2900-2B73 2B76-2B95 2B97-2BFF 2CE5-2CEA 2CF9-2CFF 2E00-2E5D
  2E80-2E99 2E9B-2EF3 2F00-2FD5 2FF0-2FFB 3001-3004 3008-3020
  3030 3036-3037 303D-303F 309B-309C 30A0 30FB 31C0-31E3
  321D-321E 3250-325F 327C-327E 32B1-32BF 32CC-32CF 3377-337A
  33DE-33DF 33FF 4DC0-4DFF A490-A4C6 A60D-A60F A673 A67E-A67F
  A700-A721 A788 A828-A82B A874-A877 AB6A-AB6B FD3E-FD4F FDCF
  FDFD-FDFF FE10-FE19 FE30-FE4F FE51 FE54 FE56-FE5E FE60-FE61
  FE64-FE66 FE68 FE6B FF01-FF02 FF06-FF0A FF1B-FF20 FF3B-FF40
  FF5B-FF65 FFE2-FFE4 FFE8-FFEE FFFC-FFFD 10101 10140-1018C
  10190-1019C 101A0 1091F 10B39-10B3F 11052-11065 11660-1166C
  11FD5-11FDC 11FE1-11FF1 16FE2 1D1E9-1D1EA 1D200-1D241 1D245
  1D300-1D356 1D6DB 1D715 1D74F 1D789 1D7C3 1EEF0-1EEF1
  1F000-1F02B 1F030-1F093 1F0A0-1F0AE 1F0B1-1F0BF 1F0C1-1F0CF
  1F0D1-1F0F5 1F10B-1F10F 1F12F 1F16A-1F16F 1F1AD 1F260-1F265
  1F300-1F6D7 1F6DC-1F6EC 1F6F0-1F6FC 1F700-1F776 1F77B-1F7D9
  1F7E0-1F7EB 1F7F0 1F800-1F80B 1F810-1F847 1F850-1F859
  1F860-1F887 1F890-1F8AD 1F8B0-1F8B1 1F900-1FA53 1FA60-1FA6D
  1FA70-1FA7C 1FA80-1FA88 1FA90-1FABD 1FABF-1FAC5 1FACE-1FADB
  1FAE0-1FAE8 1FAF0-1FAF8 1FB00-1FB92 1FB94-1FBCA"

/- The direction of a character. -/
def direction (c : Char) : Direction :=
  if rightSpans.mem c then .right
  else if arabicNumberSpans.mem c then .arabicNumber
  else if europeanNumberSpans.mem c then .europeanNumber
  else if numberSignSpans.mem c then .numberSign
  else if neutralSpans.mem c then .neutral
  else if inCategory "Mn" c || inCategory "Me" c then .mark
  else .left

------------------------------------------------------------
-- Joining
------------------------------------------------------------

/- Letters that join both of their neighbours. -/
def dualJoiningSpans : Spans := .ofText
  "620 626 628 62A-62E 633-63F 641-647 649-64A 66E-66F 678-687
  69A-6BF 6C1-6C2 6CC 6CE 6D0-6D1 6FA-6FC 6FF 712-714 71A-71D
  71F-727 729 72B 72D-72E 74E-758 75C-76A 76D-770 772 775-777
  77A-77F 7CA-7EA 841-845 848 84A-853 855 860 862-865 868 886
  889-88D 8A0-8A9 8AF-8B0 8B3-8B8 8BA-8C8 1807 1820-1878
  1887-18A8 18AA A840-A871 10AC0-10AC4 10AD3-10AD6
  10AD8-10ADC 10ADE-10AE0 10AEB-10AEE 10B80 10B82 10B86-10B88
  10B8A-10B8B 10B8D 10B90 10BAD-10BAE 10D01-10D21 10D23
  10F30-10F32 10F34-10F44 10F51-10F53 10F70-10F73 10F76-10F81
  10FB0 10FB2-10FB3 10FB8 10FBB-10FBC 10FBE-10FBF 10FC1 10FC4
  10FCA 1E900-1E943"

/- Letters that join the one after them only. -/
def leftJoiningSpans : Spans := .ofText
  "A872 10ACD 10AD7 10D00 10FCB"

/- Letters that join the one before them only. -/
def rightJoiningSpans : Spans := .ofText
  "622-625 627 629 62F-632 648 671-673 675-677 688-699 6C0
  6C3-6CB 6CD 6CF 6D2-6D3 6D5 6EE-6EF 710 715-719 71E 728 72A
  72C 72F 74D 759-75B 76B-76C 771 773-774 778-779 840 846-847
  849 854 856-858 867 869-86A 870-882 88E 8AA-8AC 8AE 8B1-8B2
  8B9 10AC5 10AC7 10AC9-10ACA 10ACE-10AD2 10ADD 10AE1 10AE4
  10AEF 10B81 10B83-10B85 10B89 10B8C 10B8E-10B8F 10B91
  10BA9-10BAC 10D22 10F33 10F54 10F74-10F75 10FB4-10FB6
  10FB9-10FBA 10FBD 10FC2-10FC3 10FC9"

/- A letter joins the one after it. -/
def joinsNext (c : Char) : Bool :=
  dualJoiningSpans.mem c || leftJoiningSpans.mem c

/- A letter joins the one before it. -/
def joinsPrevious (c : Char) : Bool :=
  dualJoiningSpans.mem c || rightJoiningSpans.mem c

/- A character does not come between letters that join. -/
def isTransparent (c : Char) : Bool :=
  inCategory "Mn" c || inCategory "Me" c

end Signpost.Unicode
