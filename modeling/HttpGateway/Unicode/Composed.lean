/-
The composed normal form of a text.

* **decompose** — every character that has a canonical decomposition replaced by its parts, and
  combining marks put into the order of their classes.
* **compose** — a starter joined with the marks after it wherever one character stands for both.
* **composed** — the two in turn: the normal form in which a text is compared.
-/
import HttpGateway.Unicode.Ranges

namespace HttpGateway.Unicode

/-- Code points that share a combining class. -/
structure ClassRun where
  first : Nat
  last : Nat
  combiningClass : Nat

/-- A character and its two parts. The second part is zero where there is only one; a character
that is not `restored` stays decomposed. -/
structure Decomposition where
  whole : Nat
  first : Nat
  second : Nat
  restored : Bool

/-- Reads gap, extra and class of each run. -/
def ClassRun.ofNumbers (next : Nat) : List Nat → List ClassRun
  | gap :: extra :: cc :: rest =>
    ⟨next + gap, next + gap + extra, cc⟩ :: ClassRun.ofNumbers (next + gap + extra + 1) rest
  | _ => []

/-- Reads distance, both parts and whether the character is restored. -/
def Decomposition.ofNumbers (last : Nat) : List Nat → List Decomposition
  | gap :: first :: second :: restored :: rest =>
    ⟨last + gap, first, second, restored = 1⟩ :: Decomposition.ofNumbers (last + gap) rest
  | _ => []

/-- The combining classes other than zero. -/
def classRuns : List ClassRun := ClassRun.ofNumbers 0 (tableNumbers "
768 20 230 0 0 232 0 3 220 0 0 232 0 0 216 0 4 220 0 1 202 0 3 220 0 1 202 0 10 220 0 4 1 0 3 220
0 7 230 0 0 240 0 0 230 0 2 220 0 2 230 0 1 220 1 2 230 0 3 220 0 0 230 0 0 232 0 1 220 0 0 230 0
0 233 0 1 234 0 0 233 0 1 234 0 0 233 0 12 230 275 4 230 265 0 220 0 3 230 0 0 220 0 2 230 0 0 222
0 0 220 0 5 230 0 5 220 0 1 230 0 0 220 0 1 230 0 0 222 0 0 228 0 0 230 0 0 10 0 0 11 0 0 12 0 0
13 0 0 14 0 0 15 0 0 16 0 0 17 0 0 18 0 1 19 0 0 20 0 0 21 0 0 22 1 0 23 1 0 24 0 0 25 1 0 230 0 0
220 1 0 18 72 7 230 0 0 30 0 0 31 0 0 32 48 0 27 0 0 28 0 0 29 0 0 30 0 0 31 0 0 32 0 0 33 0 0 34
0 1 230 0 1 220 0 4 230 0 0 220 0 1 230 0 0 220 16 0 35 101 6 230 2 3 230 0 0 220 0 0 230 2 1 230
1 0 220 0 1 230 0 0 220 35 0 36 30 0 230 0 0 220 0 1 230 0 0 220 0 1 230 0 2 220 0 0 230 0 1 220 0
0 230 0 0 220 0 2 230 0 0 220 0 0 230 0 0 220 0 0 230 0 0 220 0 0 230 0 0 220 0 1 230 160 6 230 0
0 220 0 0 230 9 0 220 24 3 230 1 8 230 1 2 230 1 4 230 43 2 220 60 0 230 0 2 220 0 3 230 42 4 230
0 4 220 0 13 230 1 0 220 0 1 230 0 0 220 0 1 230 0 0 220 0 2 230 0 2 220 0 0 27 0 0 28 0 0 29 0 2
230 0 0 220 0 1 230 0 1 220 0 4 230 60 0 7 16 0 9 3 0 230 0 0 220 0 1 230 103 0 7 16 0 9 48 0 230
61 0 7 16 0 9 110 0 7 16 0 9 110 0 7 16 0 9 127 0 9 110 0 7 16 0 9 7 0 84 0 0 91 101 0 7 16 0 9
109 1 9 16 0 9 124 0 9 109 1 103 0 0 9 13 3 107 108 1 118 0 0 9 13 3 122 76 1 220 27 0 220 1 0 220
1 0 216 55 0 129 0 0 130 1 0 132 5 3 130 2 0 130 1 1 230 0 0 9 1 1 230 62 0 220 112 0 7 1 1 9 82 0
220 719 2 230 948 1 9 30 0 9 157 0 9 10 0 230 203 0 228 143 0 222 0 0 230 0 0 220 219 0 230 0 0
220 71 0 9 20 7 230 2 0 220 48 4 230 0 5 220 0 1 230 0 0 220 1 1 220 0 1 230 0 1 220 0 4 230 0 0
220 0 3 230 101 0 7 15 0 9 38 0 230 0 0 220 0 6 230 54 1 9 58 0 7 11 1 9 67 0 7 152 2 230 1 0 1 0
4 220 0 1 230 0 3 220 0 0 230 1 6 1 4 0 220 6 0 230 3 1 230 198 1 230 0 0 220 0 6 230 0 0 220 0 1
230 0 0 234 0 0 214 0 0 220 0 0 202 0 36 230 0 0 232 0 1 228 0 0 220 0 0 218 0 0 230 0 0 233 0 0
220 0 0 230 0 0 220 720 1 230 0 1 1 0 3 230 0 2 1 0 1 230 4 0 230 3 1 1 0 0 230 0 0 220 0 0 230 0
1 1 0 3 220 0 0 230 3070 2 230 141 0 9 96 31 230 554 0 218 0 0 228 0 0 232 0 0 222 0 1 224 105 1 8
30164 0 230 4 9 230 32 1 230 80 1 230 276 0 9 37 0 9 151 0 9 27 17 230 57 2 220 37 0 9 95 0 7 12 0
9 239 0 230 1 1 230 0 0 220 2 1 230 5 1 230 1 0 230 52 0 9 246 0 9 20272 0 26 769 6 230 0 6 220 0
1 230 973 0 220 226 0 220 149 4 230 1682 0 220 1 0 230 40 0 230 0 0 1 0 0 220 4 0 9 165 0 230 0 0
220 573 3 230 387 1 230 153 1 220 0 2 230 0 0 220 0 0 230 0 3 220 49 0 230 0 0 220 0 0 230 0 0 220
192 0 9 41 0 9 14 0 9 57 0 9 0 0 7 69 2 230 48 1 9 62 0 7 76 0 9 9 0 7 106 0 9 0 0 7 178 0 7 0 0 9
80 1 7 16 0 9 24 6 230 3 4 230 205 0 9 3 0 7 23 0 230 99 0 9 0 0 7 251 0 9 0 0 7 126 0 9 118 0 9 0
0 7 115 0 9 269 0 9 0 0 7 258 1 9 4 0 7 156 0 9 83 0 9 18 0 9 81 0 9 421 0 9 258 0 7 1 1 9 81 0 9
19800 4 1 59 6 230 1209 1 6 19628 0 1 5318 1 216 0 2 1 3 0 226 0 4 216 8 7 220 2 4 230 0 1 220 30
3 230 148 2 230 3515 6 230 1 16 230 2 6 230 1 1 230 1 4 230 261 6 230 375 0 230 61 3 230 1504 6
220 109 5 230 0 0 7")

/-- The canonical decompositions. -/
def decompositions : List Decomposition := Decomposition.ofNumbers 0 (tableNumbers "
192 65 768 1 1 65 769 1 1 65 770 1 1 65 771 1 1 65 776 1 1 65 778 1 2 67 807 1 1 69 768 1 1 69 769
1 1 69 770 1 1 69 776 1 1 73 768 1 1 73 769 1 1 73 770 1 1 73 776 1 2 78 771 1 1 79 768 1 1 79 769
1 1 79 770 1 1 79 771 1 1 79 776 1 3 85 768 1 1 85 769 1 1 85 770 1 1 85 776 1 1 89 769 1 3 97 768
1 1 97 769 1 1 97 770 1 1 97 771 1 1 97 776 1 1 97 778 1 2 99 807 1 1 101 768 1 1 101 769 1 1 101
770 1 1 101 776 1 1 105 768 1 1 105 769 1 1 105 770 1 1 105 776 1 2 110 771 1 1 111 768 1 1 111
769 1 1 111 770 1 1 111 771 1 1 111 776 1 3 117 768 1 1 117 769 1 1 117 770 1 1 117 776 1 1 121
769 1 2 121 776 1 1 65 772 1 1 97 772 1 1 65 774 1 1 97 774 1 1 65 808 1 1 97 808 1 1 67 769 1 1
99 769 1 1 67 770 1 1 99 770 1 1 67 775 1 1 99 775 1 1 67 780 1 1 99 780 1 1 68 780 1 1 100 780 1
3 69 772 1 1 101 772 1 1 69 774 1 1 101 774 1 1 69 775 1 1 101 775 1 1 69 808 1 1 101 808 1 1 69
780 1 1 101 780 1 1 71 770 1 1 103 770 1 1 71 774 1 1 103 774 1 1 71 775 1 1 103 775 1 1 71 807 1
1 103 807 1 1 72 770 1 1 104 770 1 3 73 771 1 1 105 771 1 1 73 772 1 1 105 772 1 1 73 774 1 1 105
774 1 1 73 808 1 1 105 808 1 1 73 775 1 4 74 770 1 1 106 770 1 1 75 807 1 1 107 807 1 2 76 769 1 1
108 769 1 1 76 807 1 1 108 807 1 1 76 780 1 1 108 780 1 5 78 769 1 1 110 769 1 1 78 807 1 1 110
807 1 1 78 780 1 1 110 780 1 4 79 772 1 1 111 772 1 1 79 774 1 1 111 774 1 1 79 779 1 1 111 779 1
3 82 769 1 1 114 769 1 1 82 807 1 1 114 807 1 1 82 780 1 1 114 780 1 1 83 769 1 1 115 769 1 1 83
770 1 1 115 770 1 1 83 807 1 1 115 807 1 1 83 780 1 1 115 780 1 1 84 807 1 1 116 807 1 1 84 780 1
1 116 780 1 3 85 771 1 1 117 771 1 1 85 772 1 1 117 772 1 1 85 774 1 1 117 774 1 1 85 778 1 1 117
778 1 1 85 779 1 1 117 779 1 1 85 808 1 1 117 808 1 1 87 770 1 1 119 770 1 1 89 770 1 1 121 770 1
1 89 776 1 1 90 769 1 1 122 769 1 1 90 775 1 1 122 775 1 1 90 780 1 1 122 780 1 34 79 795 1 1 111
795 1 14 85 795 1 1 117 795 1 29 65 780 1 1 97 780 1 1 73 780 1 1 105 780 1 1 79 780 1 1 111 780 1
1 85 780 1 1 117 780 1 1 220 772 1 1 252 772 1 1 220 769 1 1 252 769 1 1 220 780 1 1 252 780 1 1
220 768 1 1 252 768 1 2 196 772 1 1 228 772 1 1 550 772 1 1 551 772 1 1 198 772 1 1 230 772 1 3 71
780 1 1 103 780 1 1 75 780 1 1 107 780 1 1 79 808 1 1 111 808 1 1 490 772 1 1 491 772 1 1 439 780
1 1 658 780 1 1 106 780 1 4 71 769 1 1 103 769 1 3 78 768 1 1 110 768 1 1 197 769 1 1 229 769 1 1
198 769 1 1 230 769 1 1 216 769 1 1 248 769 1 1 65 783 1 1 97 783 1 1 65 785 1 1 97 785 1 1 69 783
1 1 101 783 1 1 69 785 1 1 101 785 1 1 73 783 1 1 105 783 1 1 73 785 1 1 105 785 1 1 79 783 1 1
111 783 1 1 79 785 1 1 111 785 1 1 82 783 1 1 114 783 1 1 82 785 1 1 114 785 1 1 85 783 1 1 117
783 1 1 85 785 1 1 117 785 1 1 83 806 1 1 115 806 1 1 84 806 1 1 116 806 1 3 72 780 1 1 104 780 1
7 65 775 1 1 97 775 1 1 69 807 1 1 101 807 1 1 214 772 1 1 246 772 1 1 213 772 1 1 245 772 1 1 79
775 1 1 111 775 1 1 558 772 1 1 559 772 1 1 89 772 1 1 121 772 1 269 768 0 0 1 769 0 0 2 787 0 0 1
776 769 0 48 697 0 0 10 59 0 0 7 168 769 1 1 913 769 1 1 183 0 0 1 917 769 1 1 919 769 1 1 921 769
1 2 927 769 1 2 933 769 1 1 937 769 1 1 970 769 1 26 921 776 1 1 933 776 1 1 945 769 1 1 949 769 1
1 951 769 1 1 953 769 1 1 971 769 1 26 953 776 1 1 965 776 1 1 959 769 1 1 965 769 1 1 969 769 1 5
978 769 1 1 978 776 1 44 1045 768 1 1 1045 776 1 2 1043 769 1 4 1030 776 1 5 1050 769 1 1 1048 768
1 1 1059 774 1 11 1048 774 1 32 1080 774 1 23 1077 768 1 1 1077 776 1 2 1075 769 1 4 1110 776 1 5
1082 769 1 1 1080 768 1 1 1091 774 1 24 1140 783 1 1 1141 783 1 74 1046 774 1 1 1078 774 1 14 1040
774 1 1 1072 774 1 1 1040 776 1 1 1072 776 1 3 1045 774 1 1 1077 774 1 3 1240 776 1 1 1241 776 1 1
1046 776 1 1 1078 776 1 1 1047 776 1 1 1079 776 1 3 1048 772 1 1 1080 772 1 1 1048 776 1 1 1080
776 1 1 1054 776 1 1 1086 776 1 3 1256 776 1 1 1257 776 1 1 1069 776 1 1 1101 776 1 1 1059 772 1 1
1091 772 1 1 1059 776 1 1 1091 776 1 1 1059 779 1 1 1091 779 1 1 1063 776 1 1 1095 776 1 3 1067
776 1 1 1099 776 1 297 1575 1619 1 1 1575 1620 1 1 1608 1620 1 1 1575 1621 1 1 1610 1620 1 154
1749 1620 1 2 1729 1620 1 17 1746 1620 1 598 2344 2364 1 8 2352 2364 1 3 2355 2364 1 36 2325 2364
0 1 2326 2364 0 1 2327 2364 0 1 2332 2364 0 1 2337 2364 0 1 2338 2364 0 1 2347 2364 0 1 2351 2364
0 108 2503 2494 1 1 2503 2519 1 16 2465 2492 0 1 2466 2492 0 2 2479 2492 0 84 2610 2620 0 3 2616
2620 0 35 2582 2620 0 1 2583 2620 0 1 2588 2620 0 3 2603 2620 0 234 2887 2902 1 3 2887 2878 1 1
2887 2903 1 16 2849 2876 0 1 2850 2876 0 55 2962 3031 1 54 3014 3006 1 1 3015 3006 1 1 3014 3031 1
124 3142 3158 1 120 3263 3285 1 7 3270 3285 1 1 3270 3286 1 2 3270 3266 1 1 3274 3285 1 127 3398
3390 1 1 3399 3390 1 1 3398 3415 1 142 3545 3530 1 2 3545 3535 1 1 3548 3530 1 1 3545 3551 1 357
3906 4023 0 10 3916 4023 0 5 3921 4023 0 5 3926 4023 0 5 3931 4023 0 13 3904 4021 0 10 3953 3954 0
2 3953 3956 0 1 4018 3968 0 2 4019 3968 0 9 3953 3968 0 18 3986 4023 0 10 3996 4023 0 5 4001 4023
0 5 4006 4023 0 5 4011 4023 0 13 3984 4021 0 109 4133 4142 1 2784 6917 6965 1 2 6919 6965 1 2 6921
6965 1 2 6923 6965 1 2 6925 6965 1 4 6929 6965 1 41 6970 6965 1 2 6972 6965 1 3 6974 6965 1 1 6975
6965 1 2 6978 6965 1 701 65 805 1 1 97 805 1 1 66 775 1 1 98 775 1 1 66 803 1 1 98 803 1 1 66 817
1 1 98 817 1 1 199 769 1 1 231 769 1 1 68 775 1 1 100 775 1 1 68 803 1 1 100 803 1 1 68 817 1 1
100 817 1 1 68 807 1 1 100 807 1 1 68 813 1 1 100 813 1 1 274 768 1 1 275 768 1 1 274 769 1 1 275
769 1 1 69 813 1 1 101 813 1 1 69 816 1 1 101 816 1 1 552 774 1 1 553 774 1 1 70 775 1 1 102 775 1
1 71 772 1 1 103 772 1 1 72 775 1 1 104 775 1 1 72 803 1 1 104 803 1 1 72 776 1 1 104 776 1 1 72
807 1 1 104 807 1 1 72 814 1 1 104 814 1 1 73 816 1 1 105 816 1 1 207 769 1 1 239 769 1 1 75 769 1
1 107 769 1 1 75 803 1 1 107 803 1 1 75 817 1 1 107 817 1 1 76 803 1 1 108 803 1 1 7734 772 1 1
7735 772 1 1 76 817 1 1 108 817 1 1 76 813 1 1 108 813 1 1 77 769 1 1 109 769 1 1 77 775 1 1 109
775 1 1 77 803 1 1 109 803 1 1 78 775 1 1 110 775 1 1 78 803 1 1 110 803 1 1 78 817 1 1 110 817 1
1 78 813 1 1 110 813 1 1 213 769 1 1 245 769 1 1 213 776 1 1 245 776 1 1 332 768 1 1 333 768 1 1
332 769 1 1 333 769 1 1 80 769 1 1 112 769 1 1 80 775 1 1 112 775 1 1 82 775 1 1 114 775 1 1 82
803 1 1 114 803 1 1 7770 772 1 1 7771 772 1 1 82 817 1 1 114 817 1 1 83 775 1 1 115 775 1 1 83 803
1 1 115 803 1 1 346 775 1 1 347 775 1 1 352 775 1 1 353 775 1 1 7778 775 1 1 7779 775 1 1 84 775 1
1 116 775 1 1 84 803 1 1 116 803 1 1 84 817 1 1 116 817 1 1 84 813 1 1 116 813 1 1 85 804 1 1 117
804 1 1 85 816 1 1 117 816 1 1 85 813 1 1 117 813 1 1 360 769 1 1 361 769 1 1 362 776 1 1 363 776
1 1 86 771 1 1 118 771 1 1 86 803 1 1 118 803 1 1 87 768 1 1 119 768 1 1 87 769 1 1 119 769 1 1 87
776 1 1 119 776 1 1 87 775 1 1 119 775 1 1 87 803 1 1 119 803 1 1 88 775 1 1 120 775 1 1 88 776 1
1 120 776 1 1 89 775 1 1 121 775 1 1 90 770 1 1 122 770 1 1 90 803 1 1 122 803 1 1 90 817 1 1 122
817 1 1 104 817 1 1 116 776 1 1 119 778 1 1 121 778 1 2 383 775 1 5 65 803 1 1 97 803 1 1 65 777 1
1 97 777 1 1 194 769 1 1 226 769 1 1 194 768 1 1 226 768 1 1 194 777 1 1 226 777 1 1 194 771 1 1
226 771 1 1 7840 770 1 1 7841 770 1 1 258 769 1 1 259 769 1 1 258 768 1 1 259 768 1 1 258 777 1 1
259 777 1 1 258 771 1 1 259 771 1 1 7840 774 1 1 7841 774 1 1 69 803 1 1 101 803 1 1 69 777 1 1
101 777 1 1 69 771 1 1 101 771 1 1 202 769 1 1 234 769 1 1 202 768 1 1 234 768 1 1 202 777 1 1 234
777 1 1 202 771 1 1 234 771 1 1 7864 770 1 1 7865 770 1 1 73 777 1 1 105 777 1 1 73 803 1 1 105
803 1 1 79 803 1 1 111 803 1 1 79 777 1 1 111 777 1 1 212 769 1 1 244 769 1 1 212 768 1 1 244 768
1 1 212 777 1 1 244 777 1 1 212 771 1 1 244 771 1 1 7884 770 1 1 7885 770 1 1 416 769 1 1 417 769
1 1 416 768 1 1 417 768 1 1 416 777 1 1 417 777 1 1 416 771 1 1 417 771 1 1 416 803 1 1 417 803 1
1 85 803 1 1 117 803 1 1 85 777 1 1 117 777 1 1 431 769 1 1 432 769 1 1 431 768 1 1 432 768 1 1
431 777 1 1 432 777 1 1 431 771 1 1 432 771 1 1 431 803 1 1 432 803 1 1 89 768 1 1 121 768 1 1 89
803 1 1 121 803 1 1 89 777 1 1 121 777 1 1 89 771 1 1 121 771 1 7 945 787 1 1 945 788 1 1 7936 768
1 1 7937 768 1 1 7936 769 1 1 7937 769 1 1 7936 834 1 1 7937 834 1 1 913 787 1 1 913 788 1 1 7944
768 1 1 7945 768 1 1 7944 769 1 1 7945 769 1 1 7944 834 1 1 7945 834 1 1 949 787 1 1 949 788 1 1
7952 768 1 1 7953 768 1 1 7952 769 1 1 7953 769 1 3 917 787 1 1 917 788 1 1 7960 768 1 1 7961 768
1 1 7960 769 1 1 7961 769 1 3 951 787 1 1 951 788 1 1 7968 768 1 1 7969 768 1 1 7968 769 1 1 7969
769 1 1 7968 834 1 1 7969 834 1 1 919 787 1 1 919 788 1 1 7976 768 1 1 7977 768 1 1 7976 769 1 1
7977 769 1 1 7976 834 1 1 7977 834 1 1 953 787 1 1 953 788 1 1 7984 768 1 1 7985 768 1 1 7984 769
1 1 7985 769 1 1 7984 834 1 1 7985 834 1 1 921 787 1 1 921 788 1 1 7992 768 1 1 7993 768 1 1 7992
769 1 1 7993 769 1 1 7992 834 1 1 7993 834 1 1 959 787 1 1 959 788 1 1 8000 768 1 1 8001 768 1 1
8000 769 1 1 8001 769 1 3 927 787 1 1 927 788 1 1 8008 768 1 1 8009 768 1 1 8008 769 1 1 8009 769
1 3 965 787 1 1 965 788 1 1 8016 768 1 1 8017 768 1 1 8016 769 1 1 8017 769 1 1 8016 834 1 1 8017
834 1 2 933 788 1 2 8025 768 1 2 8025 769 1 2 8025 834 1 1 969 787 1 1 969 788 1 1 8032 768 1 1
8033 768 1 1 8032 769 1 1 8033 769 1 1 8032 834 1 1 8033 834 1 1 937 787 1 1 937 788 1 1 8040 768
1 1 8041 768 1 1 8040 769 1 1 8041 769 1 1 8040 834 1 1 8041 834 1 1 945 768 1 1 940 0 0 1 949 768
1 1 941 0 0 1 951 768 1 1 942 0 0 1 953 768 1 1 943 0 0 1 959 768 1 1 972 0 0 1 965 768 1 1 973 0
0 1 969 768 1 1 974 0 0 3 7936 837 1 1 7937 837 1 1 7938 837 1 1 7939 837 1 1 7940 837 1 1 7941
837 1 1 7942 837 1 1 7943 837 1 1 7944 837 1 1 7945 837 1 1 7946 837 1 1 7947 837 1 1 7948 837 1 1
7949 837 1 1 7950 837 1 1 7951 837 1 1 7968 837 1 1 7969 837 1 1 7970 837 1 1 7971 837 1 1 7972
837 1 1 7973 837 1 1 7974 837 1 1 7975 837 1 1 7976 837 1 1 7977 837 1 1 7978 837 1 1 7979 837 1 1
7980 837 1 1 7981 837 1 1 7982 837 1 1 7983 837 1 1 8032 837 1 1 8033 837 1 1 8034 837 1 1 8035
837 1 1 8036 837 1 1 8037 837 1 1 8038 837 1 1 8039 837 1 1 8040 837 1 1 8041 837 1 1 8042 837 1 1
8043 837 1 1 8044 837 1 1 8045 837 1 1 8046 837 1 1 8047 837 1 1 945 774 1 1 945 772 1 1 8048 837
1 1 945 837 1 1 940 837 1 2 945 834 1 1 8118 837 1 1 913 774 1 1 913 772 1 1 913 768 1 1 902 0 0 1
913 837 1 2 953 0 0 3 168 834 1 1 8052 837 1 1 951 837 1 1 942 837 1 2 951 834 1 1 8134 837 1 1
917 768 1 1 904 0 0 1 919 768 1 1 905 0 0 1 919 837 1 1 8127 768 1 1 8127 769 1 1 8127 834 1 1 953
774 1 1 953 772 1 1 970 768 1 1 912 0 0 3 953 834 1 1 970 834 1 1 921 774 1 1 921 772 1 1 921 768
1 1 906 0 0 2 8190 768 1 1 8190 769 1 1 8190 834 1 1 965 774 1 1 965 772 1 1 971 768 1 1 944 0 0 1
961 787 1 1 961 788 1 1 965 834 1 1 971 834 1 1 933 774 1 1 933 772 1 1 933 768 1 1 910 0 0 1 929
788 1 1 168 768 1 1 901 0 0 1 96 0 0 3 8060 837 1 1 969 837 1 1 974 837 1 2 969 834 1 1 8182 837 1
1 927 768 1 1 908 0 0 1 937 768 1 1 911 0 0 1 937 837 1 1 180 0 0 3 8194 0 0 1 8195 0 0 293 937 0
0 4 75 0 0 1 197 0 0 111 8592 824 1 1 8594 824 1 19 8596 824 1 31 8656 824 1 1 8660 824 1 1 8658
824 1 53 8707 824 1 5 8712 824 1 3 8715 824 1 24 8739 824 1 2 8741 824 1 27 8764 824 1 3 8771 824
1 3 8773 824 1 2 8776 824 1 23 61 824 1 2 8801 824 1 11 8781 824 1 1 60 824 1 1 62 824 1 1 8804
824 1 1 8805 824 1 3 8818 824 1 1 8819 824 1 3 8822 824 1 1 8823 824 1 7 8826 824 1 1 8827 824 1 3
8834 824 1 1 8835 824 1 3 8838 824 1 1 8839 824 1 35 8866 824 1 1 8872 824 1 1 8873 824 1 1 8875
824 1 49 8828 824 1 1 8829 824 1 1 8849 824 1 1 8850 824 1 7 8882 824 1 1 8883 824 1 1 8884 824 1
1 8885 824 1 60 12296 0 0 1 12297 0 0 1970 10973 824 0 1392 12363 12441 1 2 12365 12441 1 2 12367
12441 1 2 12369 12441 1 2 12371 12441 1 2 12373 12441 1 2 12375 12441 1 2 12377 12441 1 2 12379
12441 1 2 12381 12441 1 2 12383 12441 1 2 12385 12441 1 3 12388 12441 1 2 12390 12441 1 2 12392
12441 1 7 12399 12441 1 1 12399 12442 1 2 12402 12441 1 1 12402 12442 1 2 12405 12441 1 1 12405
12442 1 2 12408 12441 1 1 12408 12442 1 2 12411 12441 1 1 12411 12442 1 23 12358 12441 1 10 12445
12441 1 14 12459 12441 1 2 12461 12441 1 2 12463 12441 1 2 12465 12441 1 2 12467 12441 1 2 12469
12441 1 2 12471 12441 1 2 12473 12441 1 2 12475 12441 1 2 12477 12441 1 2 12479 12441 1 2 12481
12441 1 3 12484 12441 1 2 12486 12441 1 2 12488 12441 1 7 12495 12441 1 1 12495 12442 1 2 12498
12441 1 1 12498 12442 1 2 12501 12441 1 1 12501 12442 1 2 12504 12441 1 1 12504 12442 1 2 12507
12441 1 1 12507 12442 1 23 12454 12441 1 3 12527 12441 1 1 12528 12441 1 1 12529 12441 1 1 12530
12441 1 4 12541 12441 1 51202 35912 0 0 1 26356 0 0 1 36554 0 0 1 36040 0 0 1 28369 0 0 1 20018 0
0 1 21477 0 0 1 40860 0 0 1 40860 0 0 1 22865 0 0 1 37329 0 0 1 21895 0 0 1 22856 0 0 1 25078 0 0
1 30313 0 0 1 32645 0 0 1 34367 0 0 1 34746 0 0 1 35064 0 0 1 37007 0 0 1 27138 0 0 1 27931 0 0 1
28889 0 0 1 29662 0 0 1 33853 0 0 1 37226 0 0 1 39409 0 0 1 20098 0 0 1 21365 0 0 1 27396 0 0 1
29211 0 0 1 34349 0 0 1 40478 0 0 1 23888 0 0 1 28651 0 0 1 34253 0 0 1 35172 0 0 1 25289 0 0 1
33240 0 0 1 34847 0 0 1 24266 0 0 1 26391 0 0 1 28010 0 0 1 29436 0 0 1 37070 0 0 1 20358 0 0 1
20919 0 0 1 21214 0 0 1 25796 0 0 1 27347 0 0 1 29200 0 0 1 30439 0 0 1 32769 0 0 1 34310 0 0 1
34396 0 0 1 36335 0 0 1 38706 0 0 1 39791 0 0 1 40442 0 0 1 30860 0 0 1 31103 0 0 1 32160 0 0 1
33737 0 0 1 37636 0 0 1 40575 0 0 1 35542 0 0 1 22751 0 0 1 24324 0 0 1 31840 0 0 1 32894 0 0 1
29282 0 0 1 30922 0 0 1 36034 0 0 1 38647 0 0 1 22744 0 0 1 23650 0 0 1 27155 0 0 1 28122 0 0 1
28431 0 0 1 32047 0 0 1 32311 0 0 1 38475 0 0 1 21202 0 0 1 32907 0 0 1 20956 0 0 1 20940 0 0 1
31260 0 0 1 32190 0 0 1 33777 0 0 1 38517 0 0 1 35712 0 0 1 25295 0 0 1 27138 0 0 1 35582 0 0 1
20025 0 0 1 23527 0 0 1 24594 0 0 1 29575 0 0 1 30064 0 0 1 21271 0 0 1 30971 0 0 1 20415 0 0 1
24489 0 0 1 19981 0 0 1 27852 0 0 1 25976 0 0 1 32034 0 0 1 21443 0 0 1 22622 0 0 1 30465 0 0 1
33865 0 0 1 35498 0 0 1 27578 0 0 1 36784 0 0 1 27784 0 0 1 25342 0 0 1 33509 0 0 1 25504 0 0 1
30053 0 0 1 20142 0 0 1 20841 0 0 1 20937 0 0 1 26753 0 0 1 31975 0 0 1 33391 0 0 1 35538 0 0 1
37327 0 0 1 21237 0 0 1 21570 0 0 1 22899 0 0 1 24300 0 0 1 26053 0 0 1 28670 0 0 1 31018 0 0 1
38317 0 0 1 39530 0 0 1 40599 0 0 1 40654 0 0 1 21147 0 0 1 26310 0 0 1 27511 0 0 1 36706 0 0 1
24180 0 0 1 24976 0 0 1 25088 0 0 1 25754 0 0 1 28451 0 0 1 29001 0 0 1 29833 0 0 1 31178 0 0 1
32244 0 0 1 32879 0 0 1 36646 0 0 1 34030 0 0 1 36899 0 0 1 37706 0 0 1 21015 0 0 1 21155 0 0 1
21693 0 0 1 28872 0 0 1 35010 0 0 1 35498 0 0 1 24265 0 0 1 24565 0 0 1 25467 0 0 1 27566 0 0 1
31806 0 0 1 29557 0 0 1 20196 0 0 1 22265 0 0 1 23527 0 0 1 23994 0 0 1 24604 0 0 1 29618 0 0 1
29801 0 0 1 32666 0 0 1 32838 0 0 1 37428 0 0 1 38646 0 0 1 38728 0 0 1 38936 0 0 1 20363 0 0 1
31150 0 0 1 37300 0 0 1 38584 0 0 1 24801 0 0 1 20102 0 0 1 20698 0 0 1 23534 0 0 1 23615 0 0 1
26009 0 0 1 27138 0 0 1 29134 0 0 1 30274 0 0 1 34044 0 0 1 36988 0 0 1 40845 0 0 1 26248 0 0 1
38446 0 0 1 21129 0 0 1 26491 0 0 1 26611 0 0 1 27969 0 0 1 28316 0 0 1 29705 0 0 1 30041 0 0 1
30827 0 0 1 32016 0 0 1 39006 0 0 1 20845 0 0 1 25134 0 0 1 38520 0 0 1 20523 0 0 1 23833 0 0 1
28138 0 0 1 36650 0 0 1 24459 0 0 1 24900 0 0 1 26647 0 0 1 29575 0 0 1 38534 0 0 1 21033 0 0 1
21519 0 0 1 23653 0 0 1 26131 0 0 1 26446 0 0 1 26792 0 0 1 27877 0 0 1 29702 0 0 1 30178 0 0 1
32633 0 0 1 35023 0 0 1 35041 0 0 1 37324 0 0 1 38626 0 0 1 21311 0 0 1 28346 0 0 1 21533 0 0 1
29136 0 0 1 29848 0 0 1 34298 0 0 1 38563 0 0 1 40023 0 0 1 40607 0 0 1 26519 0 0 1 28107 0 0 1
33256 0 0 1 31435 0 0 1 31520 0 0 1 31890 0 0 1 29376 0 0 1 28825 0 0 1 35672 0 0 1 20160 0 0 1
33590 0 0 1 21050 0 0 1 20999 0 0 1 24230 0 0 1 25299 0 0 1 31958 0 0 1 23429 0 0 1 27934 0 0 1
26292 0 0 1 36667 0 0 1 34892 0 0 1 38477 0 0 1 35211 0 0 1 24275 0 0 1 20800 0 0 1 21952 0 0 3
22618 0 0 2 26228 0 0 3 20958 0 0 1 29482 0 0 1 30410 0 0 1 31036 0 0 1 31070 0 0 1 31077 0 0 1
31119 0 0 1 38742 0 0 1 31934 0 0 1 32701 0 0 2 34322 0 0 2 35576 0 0 3 36920 0 0 1 37117 0 0 4
39151 0 0 1 39164 0 0 1 39208 0 0 1 40372 0 0 1 37086 0 0 1 38583 0 0 1 20398 0 0 1 20711 0 0 1
20813 0 0 1 21193 0 0 1 21220 0 0 1 21329 0 0 1 21917 0 0 1 22022 0 0 1 22120 0 0 1 22592 0 0 1
22696 0 0 1 23652 0 0 1 23662 0 0 1 24724 0 0 1 24936 0 0 1 24974 0 0 1 25074 0 0 1 25935 0 0 1
26082 0 0 1 26257 0 0 1 26757 0 0 1 28023 0 0 1 28186 0 0 1 28450 0 0 1 29038 0 0 1 29227 0 0 1
29730 0 0 1 30865 0 0 1 31038 0 0 1 31049 0 0 1 31048 0 0 1 31056 0 0 1 31062 0 0 1 31069 0 0 1
31117 0 0 1 31118 0 0 1 31296 0 0 1 31361 0 0 1 31680 0 0 1 32244 0 0 1 32265 0 0 1 32321 0 0 1
32626 0 0 1 32773 0 0 1 33261 0 0 1 33401 0 0 1 33401 0 0 1 33879 0 0 1 35088 0 0 1 35222 0 0 1
35585 0 0 1 35641 0 0 1 36051 0 0 1 36104 0 0 1 36790 0 0 1 36920 0 0 1 38627 0 0 1 38911 0 0 1
38971 0 0 1 24693 0 0 1 148206 0 0 1 33304 0 0 3 20006 0 0 1 20917 0 0 1 20840 0 0 1 20352 0 0 1
20805 0 0 1 20864 0 0 1 21191 0 0 1 21242 0 0 1 21917 0 0 1 21845 0 0 1 21913 0 0 1 21986 0 0 1
22618 0 0 1 22707 0 0 1 22852 0 0 1 22868 0 0 1 23138 0 0 1 23336 0 0 1 24274 0 0 1 24281 0 0 1
24425 0 0 1 24493 0 0 1 24792 0 0 1 24910 0 0 1 24840 0 0 1 24974 0 0 1 24928 0 0 1 25074 0 0 1
25140 0 0 1 25540 0 0 1 25628 0 0 1 25682 0 0 1 25942 0 0 1 26228 0 0 1 26391 0 0 1 26395 0 0 1
26454 0 0 1 27513 0 0 1 27578 0 0 1 27969 0 0 1 28379 0 0 1 28363 0 0 1 28450 0 0 1 28702 0 0 1
29038 0 0 1 30631 0 0 1 29237 0 0 1 29359 0 0 1 29482 0 0 1 29809 0 0 1 29958 0 0 1 30011 0 0 1
30237 0 0 1 30239 0 0 1 30410 0 0 1 30427 0 0 1 30452 0 0 1 30538 0 0 1 30528 0 0 1 30924 0 0 1
31409 0 0 1 31680 0 0 1 31867 0 0 1 32091 0 0 1 32244 0 0 1 32574 0 0 1 32773 0 0 1 33618 0 0 1
33775 0 0 1 34681 0 0 1 35137 0 0 1 35206 0 0 1 35222 0 0 1 35519 0 0 1 35576 0 0 1 35531 0 0 1
35585 0 0 1 35582 0 0 1 35565 0 0 1 35641 0 0 1 35722 0 0 1 36104 0 0 1 36664 0 0 1 36978 0 0 1
37273 0 0 1 37494 0 0 1 38524 0 0 1 38627 0 0 1 38742 0 0 1 38875 0 0 1 38911 0 0 1 38923 0 0 1
38971 0 0 1 39698 0 0 1 40860 0 0 1 141386 0 0 1 141380 0 0 1 144341 0 0 1 15261 0 0 1 16408 0 0 1
16441 0 0 1 152137 0 0 1 154832 0 0 1 163539 0 0 1 40771 0 0 1 40846 0 0 68 1497 1460 0 2 1522
1463 0 11 1513 1473 0 1 1513 1474 0 1 64329 1473 0 1 64329 1474 0 1 1488 1463 0 1 1488 1464 0 1
1488 1468 0 1 1489 1468 0 1 1490 1468 0 1 1491 1468 0 1 1492 1468 0 1 1493 1468 0 1 1494 1468 0 2
1496 1468 0 1 1497 1468 0 1 1498 1468 0 1 1499 1468 0 1 1500 1468 0 2 1502 1468 0 2 1504 1468 0 1
1505 1468 0 2 1507 1468 0 1 1508 1468 0 2 1510 1468 0 1 1511 1468 0 1 1512 1468 0 1 1513 1468 0 1
1514 1468 0 1 1493 1465 0 1 1489 1471 0 1 1499 1471 0 1 1508 1471 0 5452 69785 69818 1 2 69787
69818 1 15 69797 69818 1 131 69937 69927 1 1 69938 69927 1 540 70471 70462 1 1 70471 70487 1 367
70841 70842 1 1 70841 70832 1 2 70841 70845 1 252 71096 71087 1 1 71097 71087 1 893 71989 71984 1
47142 119127 119141 0 1 119128 119141 0 1 119135 119150 0 1 119135 119151 0 1 119135 119152 0 1
119135 119153 0 1 119135 119154 0 87 119225 119141 0 1 119226 119141 0 1 119227 119150 0 1 119228
119150 0 1 119227 119151 0 1 119228 119151 0 75328 20029 0 0 1 20024 0 0 1 20033 0 0 1 131362 0 0
1 20320 0 0 1 20398 0 0 1 20411 0 0 1 20482 0 0 1 20602 0 0 1 20633 0 0 1 20711 0 0 1 20687 0 0 1
13470 0 0 1 132666 0 0 1 20813 0 0 1 20820 0 0 1 20836 0 0 1 20855 0 0 1 132380 0 0 1 13497 0 0 1
20839 0 0 1 20877 0 0 1 132427 0 0 1 20887 0 0 1 20900 0 0 1 20172 0 0 1 20908 0 0 1 20917 0 0 1
168415 0 0 1 20981 0 0 1 20995 0 0 1 13535 0 0 1 21051 0 0 1 21062 0 0 1 21106 0 0 1 21111 0 0 1
13589 0 0 1 21191 0 0 1 21193 0 0 1 21220 0 0 1 21242 0 0 1 21253 0 0 1 21254 0 0 1 21271 0 0 1
21321 0 0 1 21329 0 0 1 21338 0 0 1 21363 0 0 1 21373 0 0 1 21375 0 0 1 21375 0 0 1 21375 0 0 1
133676 0 0 1 28784 0 0 1 21450 0 0 1 21471 0 0 1 133987 0 0 1 21483 0 0 1 21489 0 0 1 21510 0 0 1
21662 0 0 1 21560 0 0 1 21576 0 0 1 21608 0 0 1 21666 0 0 1 21750 0 0 1 21776 0 0 1 21843 0 0 1
21859 0 0 1 21892 0 0 1 21892 0 0 1 21913 0 0 1 21931 0 0 1 21939 0 0 1 21954 0 0 1 22294 0 0 1
22022 0 0 1 22295 0 0 1 22097 0 0 1 22132 0 0 1 20999 0 0 1 22766 0 0 1 22478 0 0 1 22516 0 0 1
22541 0 0 1 22411 0 0 1 22578 0 0 1 22577 0 0 1 22700 0 0 1 136420 0 0 1 22770 0 0 1 22775 0 0 1
22790 0 0 1 22810 0 0 1 22818 0 0 1 22882 0 0 1 136872 0 0 1 136938 0 0 1 23020 0 0 1 23067 0 0 1
23079 0 0 1 23000 0 0 1 23142 0 0 1 14062 0 0 1 14076 0 0 1 23304 0 0 1 23358 0 0 1 23358 0 0 1
137672 0 0 1 23491 0 0 1 23512 0 0 1 23527 0 0 1 23539 0 0 1 138008 0 0 1 23551 0 0 1 23558 0 0 1
24403 0 0 1 23586 0 0 1 14209 0 0 1 23648 0 0 1 23662 0 0 1 23744 0 0 1 23693 0 0 1 138724 0 0 1
23875 0 0 1 138726 0 0 1 23918 0 0 1 23915 0 0 1 23932 0 0 1 24033 0 0 1 24034 0 0 1 14383 0 0 1
24061 0 0 1 24104 0 0 1 24125 0 0 1 24169 0 0 1 14434 0 0 1 139651 0 0 1 14460 0 0 1 24240 0 0 1
24243 0 0 1 24246 0 0 1 24266 0 0 1 172946 0 0 1 24318 0 0 1 140081 0 0 1 140081 0 0 1 33281 0 0 1
24354 0 0 1 24354 0 0 1 14535 0 0 1 144056 0 0 1 156122 0 0 1 24418 0 0 1 24427 0 0 1 14563 0 0 1
24474 0 0 1 24525 0 0 1 24535 0 0 1 24569 0 0 1 24705 0 0 1 14650 0 0 1 14620 0 0 1 24724 0 0 1
141012 0 0 1 24775 0 0 1 24904 0 0 1 24908 0 0 1 24910 0 0 1 24908 0 0 1 24954 0 0 1 24974 0 0 1
25010 0 0 1 24996 0 0 1 25007 0 0 1 25054 0 0 1 25074 0 0 1 25078 0 0 1 25104 0 0 1 25115 0 0 1
25181 0 0 1 25265 0 0 1 25300 0 0 1 25424 0 0 1 142092 0 0 1 25405 0 0 1 25340 0 0 1 25448 0 0 1
25475 0 0 1 25572 0 0 1 142321 0 0 1 25634 0 0 1 25541 0 0 1 25513 0 0 1 14894 0 0 1 25705 0 0 1
25726 0 0 1 25757 0 0 1 25719 0 0 1 14956 0 0 1 25935 0 0 1 25964 0 0 1 143370 0 0 1 26083 0 0 1
26360 0 0 1 26185 0 0 1 15129 0 0 1 26257 0 0 1 15112 0 0 1 15076 0 0 1 20882 0 0 1 20885 0 0 1
26368 0 0 1 26268 0 0 1 32941 0 0 1 17369 0 0 1 26391 0 0 1 26395 0 0 1 26401 0 0 1 26462 0 0 1
26451 0 0 1 144323 0 0 1 15177 0 0 1 26618 0 0 1 26501 0 0 1 26706 0 0 1 26757 0 0 1 144493 0 0 1
26766 0 0 1 26655 0 0 1 26900 0 0 1 15261 0 0 1 26946 0 0 1 27043 0 0 1 27114 0 0 1 27304 0 0 1
145059 0 0 1 27355 0 0 1 15384 0 0 1 27425 0 0 1 145575 0 0 1 27476 0 0 1 15438 0 0 1 27506 0 0 1
27551 0 0 1 27578 0 0 1 27579 0 0 1 146061 0 0 1 138507 0 0 1 146170 0 0 1 27726 0 0 1 146620 0 0
1 27839 0 0 1 27853 0 0 1 27751 0 0 1 27926 0 0 1 27966 0 0 1 28023 0 0 1 27969 0 0 1 28009 0 0 1
28024 0 0 1 28037 0 0 1 146718 0 0 1 27956 0 0 1 28207 0 0 1 28270 0 0 1 15667 0 0 1 28363 0 0 1
28359 0 0 1 147153 0 0 1 28153 0 0 1 28526 0 0 1 147294 0 0 1 147342 0 0 1 28614 0 0 1 28729 0 0 1
28702 0 0 1 28699 0 0 1 15766 0 0 1 28746 0 0 1 28797 0 0 1 28791 0 0 1 28845 0 0 1 132389 0 0 1
28997 0 0 1 148067 0 0 1 29084 0 0 1 148395 0 0 1 29224 0 0 1 29237 0 0 1 29264 0 0 1 149000 0 0 1
29312 0 0 1 29333 0 0 1 149301 0 0 1 149524 0 0 1 29562 0 0 1 29579 0 0 1 16044 0 0 1 29605 0 0 1
16056 0 0 1 16056 0 0 1 29767 0 0 1 29788 0 0 1 29809 0 0 1 29829 0 0 1 29898 0 0 1 16155 0 0 1
29988 0 0 1 150582 0 0 1 30014 0 0 1 150674 0 0 1 30064 0 0 1 139679 0 0 1 30224 0 0 1 151457 0 0
1 151480 0 0 1 151620 0 0 1 16380 0 0 1 16392 0 0 1 30452 0 0 1 151795 0 0 1 151794 0 0 1 151833 0
0 1 151859 0 0 1 30494 0 0 1 30495 0 0 1 30495 0 0 1 30538 0 0 1 16441 0 0 1 30603 0 0 1 16454 0 0
1 16534 0 0 1 152605 0 0 1 30798 0 0 1 30860 0 0 1 30924 0 0 1 16611 0 0 1 153126 0 0 1 31062 0 0
1 153242 0 0 1 153285 0 0 1 31119 0 0 1 31211 0 0 1 16687 0 0 1 31296 0 0 1 31306 0 0 1 31311 0 0
1 153980 0 0 1 154279 0 0 1 154279 0 0 1 31470 0 0 1 16898 0 0 1 154539 0 0 1 31686 0 0 1 31689 0
0 1 16935 0 0 1 154752 0 0 1 31954 0 0 1 17056 0 0 1 31976 0 0 1 31971 0 0 1 32000 0 0 1 155526 0
0 1 32099 0 0 1 17153 0 0 1 32199 0 0 1 32258 0 0 1 32325 0 0 1 17204 0 0 1 156200 0 0 1 156231 0
0 1 17241 0 0 1 156377 0 0 1 32634 0 0 1 156478 0 0 1 32661 0 0 1 32762 0 0 1 32773 0 0 1 156890 0
0 1 156963 0 0 1 32864 0 0 1 157096 0 0 1 32880 0 0 1 144223 0 0 1 17365 0 0 1 32946 0 0 1 33027 0
0 1 17419 0 0 1 33086 0 0 1 23221 0 0 1 157607 0 0 1 157621 0 0 1 144275 0 0 1 144284 0 0 1 33281
0 0 1 33284 0 0 1 36766 0 0 1 17515 0 0 1 33425 0 0 1 33419 0 0 1 33437 0 0 1 21171 0 0 1 33457 0
0 1 33459 0 0 1 33469 0 0 1 33510 0 0 1 158524 0 0 1 33509 0 0 1 33565 0 0 1 33635 0 0 1 33709 0 0
1 33571 0 0 1 33725 0 0 1 33767 0 0 1 33879 0 0 1 33619 0 0 1 33738 0 0 1 33740 0 0 1 33756 0 0 1
158774 0 0 1 159083 0 0 1 158933 0 0 1 17707 0 0 1 34033 0 0 1 34035 0 0 1 34070 0 0 1 160714 0 0
1 34148 0 0 1 159532 0 0 1 17757 0 0 1 17761 0 0 1 159665 0 0 1 159954 0 0 1 17771 0 0 1 34384 0 0
1 34396 0 0 1 34407 0 0 1 34409 0 0 1 34473 0 0 1 34440 0 0 1 34574 0 0 1 34530 0 0 1 34681 0 0 1
34600 0 0 1 34667 0 0 1 34694 0 0 1 17879 0 0 1 34785 0 0 1 34817 0 0 1 17913 0 0 1 34912 0 0 1
34915 0 0 1 161383 0 0 1 35031 0 0 1 35038 0 0 1 17973 0 0 1 35066 0 0 1 13499 0 0 1 161966 0 0 1
162150 0 0 1 18110 0 0 1 18119 0 0 1 35488 0 0 1 35565 0 0 1 35722 0 0 1 35925 0 0 1 162984 0 0 1
36011 0 0 1 36033 0 0 1 36123 0 0 1 36215 0 0 1 163631 0 0 1 133124 0 0 1 36299 0 0 1 36284 0 0 1
36336 0 0 1 133342 0 0 1 36564 0 0 1 36664 0 0 1 165330 0 0 1 165357 0 0 1 37012 0 0 1 37105 0 0 1
37137 0 0 1 165678 0 0 1 37147 0 0 1 37432 0 0 1 37591 0 0 1 37592 0 0 1 37500 0 0 1 37881 0 0 1
37909 0 0 1 166906 0 0 1 38283 0 0 1 18837 0 0 1 38327 0 0 1 167287 0 0 1 18918 0 0 1 38595 0 0 1
23986 0 0 1 38691 0 0 1 168261 0 0 1 168474 0 0 1 19054 0 0 1 19062 0 0 1 38880 0 0 1 168970 0 0 1
19122 0 0 1 169110 0 0 1 38923 0 0 1 38923 0 0 1 38953 0 0 1 169398 0 0 1 39138 0 0 1 19251 0 0 1
39209 0 0 1 39335 0 0 1 39362 0 0 1 39422 0 0 1 19406 0 0 1 170800 0 0 1 39698 0 0 1 40000 0 0 1
40189 0 0 1 19662 0 0 1 19693 0 0 1 40295 0 0 1 172238 0 0 1 19704 0 0 1 172293 0 0 1 172558 0 0 1
172689 0 0 1 40635 0 0 1 19798 0 0 1 40697 0 0 1 40702 0 0 1 40709 0 0 1 40719 0 0 1 40726 0 0 1
40763 0 0 1 173568 0 0")

/-- The combining class; zero for a starter. -/
def combiningClass (c : Char) : Nat :=
  match classRuns.find? fun r => r.first ≤ c.toNat && c.toNat ≤ r.last with
  | some r => r.combiningClass
  | none => 0

/-- The parts of a Hangul syllable. -/
def hangulParts? (n : Nat) : Option (List Nat) :=
  if 0xAC00 ≤ n ∧ n ≤ 0xD7A3 then
    let s := n - 0xAC00
    let tail := s % 28
    some ([0x1100 + s / 588, 0x1161 + s % 588 / 28] ++ (if tail = 0 then [] else [0x11A7 + tail]))
  else none

/-- The full decomposition of one code point. A decomposition is at most four steps deep. -/
def decomposeOne : Nat → Nat → List Nat
  | 0, n => [n]
  | depth + 1, n =>
    match hangulParts? n with
    | some parts => parts
    | none =>
      match decompositions.find? (·.whole = n) with
      | some d => decomposeOne depth d.first ++ (if d.second = 0 then [] else [d.second])
      | none => [n]

/-- Puts a mark in front of the marks of a higher class that it follows directly. -/
def insertMark (c : Char) : List Char → List Char
  | [] => [c]
  | d :: r =>
    if combiningClass c ≠ 0 ∧ combiningClass c < combiningClass d then d :: insertMark c r
    else c :: d :: r

/-- The decomposed form, built with its last character in front. -/
def decompose (s : List Char) : List Char :=
  let parts := s.flatMap fun c =>
    if c.toNat < 0x80 then [c] else (decomposeOne 5 c.toNat).map Char.ofNat
  (parts.foldl (fun acc c => insertMark c acc) []).reverse

/-- The character that stands for two. -/
def pair? (a b : Char) : Option Char :=
  let m := a.toNat
  let n := b.toNat
  if 0x1100 ≤ m ∧ m < 0x1113 ∧ 0x1161 ≤ n ∧ n < 0x1176 then
    some (Char.ofNat (0xAC00 + ((m - 0x1100) * 21 + (n - 0x1161)) * 28))
  else if 0xAC00 ≤ m ∧ m ≤ 0xD7A3 ∧ (m - 0xAC00) % 28 = 0 ∧ 0x11A7 < n ∧ n < 0x11C3 then
    some (Char.ofNat (m + (n - 0x11A7)))
  else
    (decompositions.find? fun d => d.restored && d.first = m && d.second = n).map
      fun d => Char.ofNat d.whole

/-- Joins what follows the starter with it. `kept` are the marks in between that could not be
joined, the last one in front; a mark is blocked by a kept one of its own class or a higher one. -/
def composeAfter (starter : Char) (kept : List Char) : List Char → List Char
  | [] => starter :: kept.reverse
  | c :: rest =>
    let cc := combiningClass c
    let blocked := match kept with
      | [] => false
      | k :: _ => cc ≤ combiningClass k
    match (if blocked then none else pair? starter c) with
    | some whole => composeAfter whole kept rest
    | none =>
      if cc = 0 then starter :: kept.reverse ++ composeAfter c [] rest
      else composeAfter starter (c :: kept) rest

/-- Joins each starter with the marks after it. -/
def compose : List Char → List Char
  | [] => []
  | c :: rest => if combiningClass c = 0 then composeAfter c [] rest else c :: compose rest

/-- The composed normal form. -/
def composed (s : List Char) : List Char :=
  if s.all (·.toNat < 0x80) then s else compose (decompose s)

end HttpGateway.Unicode
