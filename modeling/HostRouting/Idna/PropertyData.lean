import HostRouting.Text.Runs

/-!
# Properties of characters in labels

General category, bidirectional class and joining type by the Unicode character
database, for the characters that are valid in domain names.
-/
namespace HostRouting.Idna

open Text (numbers)

/-- Combining marks. -/
def markRuns : List Nat := numbers
  "768 113 274 8 262 45 1 1 1 2 1 2 1 9 64 11 48 21 16 1 101 8 1 6 2 2 1 4 35 1 30 29 89 11 58 9
  9 1 24 4 1 9 1 3 1 7 41 5 57 9 42 58 54 3 1 18 1 15 2 2 29 4 55 1 1 16 9 9 2 4 24 7 55 32 20 2
  3 1 11 4 55 1 1 18 18 4 20 11 55 1 1 33 3 4 28 1 59 18 7 15 26 5 55 1 1 26 10 4 27 3 56 1 1 30
  6 4 13 17 55 2 1 16 9 1 10 4 27 4 69 28 12 2 61 1 2 11 8 8 98 1 2 9 11 8 72 2 27 1 1 1 1 1 4 2
  49 20 1 2 5 49 8 1 100 20 23 4 4 3 1 3 2 7 3 4 13 12 1 1 10 4 703 3 946 13 19 3 29 14 18 14 54
  30 9 3 165 2 34 1 118 32 215 7 55 43 48 85 47 17 38 9 12 3 30 13 56 22 40 23 149 3 1 21 4 1 6
  1 2 3 198 65 719 52 3051 4 140 1 96 32 554 6 105 4 30162 4 1 10 32 2 80 2 272 1 3 1 4 1 23 5 4
  4 80 2 50 26 18 18 13 1 38 8 25 24 33 4 47 14 36 1 67 23 3 1 8 4 43 3 50 1 1 3 2 2 5 2 1 1 41
  5 5 12 226 8 1 4 20270 148 622 37 952 131 96 1 149 10 1665 15 40 8 165 6 569 12 57 5 317 2 77
  6 70 11 49 4 122 3 53 15 41 1 2 2 10 4 45 11 7 14 48 3 36 15 15 2 44 1 12 3 48 14 8 4 1 2 92
  12 6 1 2 63 95 17 16 5 54 2 1 18 7 6 5 30 56 25 1 1 14 31 53 18 23 1 81 20 235 18 27 36 48 17
  106 13 101 19 252 15 245 15 1 1 1 2 141 16 3 28 1 10 40 7 1 4 8 9 1 11 46 16 198 96 111 17 82
  110 49 21 1 9 58 14 347 4 9 2 1 1 48 15 23 86 5264 1 6 25 11454 18 2496 5 59 7 1048 1 1 66 81
  14 19627 2 4705 80 533 5 3 22 2 7 30 4 148 3 1979 55 4 50 8 1 14 1 22 1125 256 256 48 7 375 18
  44 4 508 4 254 2 243 1 2 1 7 2 5 9 466 82 34 7".toList

/-- Bidirectional class R. -/
def rightToLeftRuns : List Nat := numbers
  "1470 1 1 1 2 1 2 1 9 54 442 43 9 2 4 3 1 24 4 1 9 1 3 1 7 41 5 2 65440 287 1 225 15 40 8 165 6
  78 7 448 64 288 32 43 2 21 62 48 64 18 4 122 55296 208 82 34 7 806".toList

/-- Bidirectional class AL. -/
def arabicLetterRuns : List Nat := numbers
  "1544 1 2 1 1 1 13 48 34 3 1 101 15 2 7 2 10 23 1 30 29 89 11 15 160 56 8 42 62184 396 82 63
  164 397 3328 36 414 59 51 22 11 31 56577 639".toList

/-- Bidirectional class AN. -/
def arabicNumberRuns : List Nat := numbers
  "1632 10 1 2 67267 16 288 32".toList

/-- Bidirectional class EN. -/
def europeanNumberRuns : List Nat := numbers
  "48 10 1718 10 64487 31".toList

/-- Bidirectional class ES. -/
def europeanSeparatorRuns : List Nat := numbers
  "43 1 1 1 8676 1".toList

/-- Bidirectional class CS. -/
def commonSeparatorRuns : List Nat := numbers
  "44 1 1 2 10 1 1489 1 6711 1".toList

/-- Bidirectional class ET. -/
def europeanTerminatorRuns : List Nat := numbers
  "35 3 124 4 10 6 1241 2 120 2 95 1 903 2 7 1 245 8 256 1 581 1 2459 1 2132 5 107 48 94 12 217 1
  34340 8 30621 4 49950 465".toList

/-- Bidirectional class ON. -/
def otherNeutralRuns : List Nat := numbers
  "33 2 3 5 16 38 26 4 34 1 4 10 6 41 24 1 449 2 7 14 2 28 1 17 117 2 127 2 402 5 119 2 6 2 206 1
  10 1 268 4 1017 6 1 6 120 7 699 4 1106 16 96 1 666 5 336 32 304 6 152 34 1552 32 5 15 1 91 100
  42 12 20 60 136 2 290 69 26 1 145 25 620 1 339 256 662 1 153 181 7 13 7 256 517 3 25 15 1 6 4
  2 4 95 1 90 1 196 36 7132 64 22160 64 317 3 99 1 10 3 127 35 101 1 159 4 72 12 746 86 20862 82
  63 81 37 46 654 1 62 77 3 64 1871 1 537 7 1298 20 1530 32 2389 8 4 30 20451 1 25094 89 3 123
  64 96 7056 608 29 3 61 57 122 1144 4 155 4 311 78 340 12 41 7 46 1 7 8 14 4 9 7 219".toList

/-- Bidirectional class BN. -/
def boundaryNeutralRuns : List Nat := numbers
  "0 9 5 14 99 34 8043 4".toList

/-- Bidirectional class NSM. -/
def nonspacingRuns : List Nat := numbers
  "768 113 274 8 262 45 1 1 1 2 1 2 1 9 64 11 48 21 16 1 101 8 1 6 2 2 1 4 35 1 30 29 89 11 58 9
  9 1 24 4 1 9 1 3 1 7 41 5 58 8 42 57 55 1 1 1 4 8 4 1 3 15 2 2 29 1 58 1 4 6 6 1 20 4 24 5 57
  2 3 27 20 2 3 1 11 2 57 1 4 8 4 3 18 4 20 8 58 1 2 1 1 6 6 10 11 4 28 1 61 1 12 3 48 1 3 1 55
  1 1 3 5 18 10 4 27 1 58 1 15 9 13 4 26 2 57 2 4 5 7 1 20 4 27 1 72 5 3 6 89 1 2 11 8 8 98 1 2
  9 11 8 72 2 27 1 1 1 1 1 55 14 1 5 1 2 5 49 8 1 102 4 1 6 1 2 2 2 25 2 4 3 16 4 13 1 2 2 6 1
  15 1 703 3 946 3 29 2 30 14 18 14 55 7 8 1 2 11 9 3 165 2 34 1 118 3 4 2 9 1 6 7 215 2 2 3 56
  1 1 9 1 1 2 8 6 13 48 31 49 4 48 1 1 5 1 1 5 1 40 9 12 2 32 4 2 2 1 3 56 1 1 2 3 1 1 3 58 8 2
  5 149 3 1 13 1 7 4 1 6 1 3 2 198 65 719 52 3051 4 140 1 96 32 554 4 107 4 30162 4 1 10 32 2 80
  2 272 1 3 1 4 1 25 2 5 4 148 10 18 18 13 1 38 8 25 11 46 3 48 1 2 4 2 2 39 1 67 6 2 2 2 11 3 1
  8 1 47 1 51 1 1 3 2 2 5 2 1 1 42 2 8 11 228 1 2 1 4 3 20270 148 622 37 952 131 96 1 149 10
  1665 15 40 8 165 6 569 12 379 2 80 3 70 11 49 4 123 1 54 15 41 1 2 2 10 3 49 4 2 2 7 14 48 3
  36 5 1 9 61 1 12 2 52 9 10 4 2 1 95 3 2 1 1 2 6 1 2 63 95 1 3 13 16 2 57 2 3 1 37 26 184 8 2 3
  1 1 23 1 84 6 1 1 4 2 1 2 238 6 4 2 1 2 27 36 51 8 2 1 1 2 106 1 1 1 2 6 1 1 101 3 2 4 1 9 255
  9 1 2 256 2 1 1 4 1 144 8 4 1 32 6 2 2 40 6 2 4 8 9 1 6 2 3 46 13 1 2 406 14 84 23 1 7 1 2 1
  75 49 21 1 9 64 3 2 1 1 1 347 2 11 2 52 8 2 1 1 1 5373 1 6 25 13968 5 59 7 1048 1 63 4 81 12
  19629 2 4705 80 535 3 17 8 2 7 30 4 148 3 1979 55 4 50 8 1 14 1 22 1125 256 256 48 7 375 18 44
  4 508 4 992 82 34 7".toList

/-- Joining type D. -/
def dualJoiningRuns : List Nat := numbers
  "1568 1 5 1 1 1 1 5 4 13 1 7 1 2 35 2 9 15 18 38 1 2 9 1 1 1 1 2 40 3 2 1 18 3 5 4 1 9 1 1 1 1
  1 2 31 11 3 15 2 4 1 1 2 3 2 6 74 33 86 5 2 1 1 10 1 1 10 1 1 4 2 1 29 1 2 5 18 10 5 2 2 6 1
  15 3902 1 24 96 7 34 1 6 36752 50 25166 5 14 4 1 5 1 3 10 4 145 1 1 1 3 3 1 2 1 1 2 1 28 2 338
  33 1 1 524 3 1 17 12 3 28 4 2 12 46 1 1 2 4 1 2 2 1 2 1 1 2 1 5 1 55639 34".toList

/-- Joining type L. -/
def leftJoiningRuns : List Nat := numbers
  "43122 1 25178 1 9 1 552 1 714 21".toList

/-- Joining type R. -/
def rightJoiningRuns : List Nat := numbers
  "1570 4 1 1 1 1 5 4 21 1 40 3 20 18 38 1 2 9 1 1 1 1 2 2 1 1 24 2 32 1 4 5 4 1 9 1 1 1 1 1 2 1
  29 1 11 3 15 2 4 1 1 2 3 2 198 1 5 2 1 1 10 1 1 3 14 1 1 26 11 1 27 3 1 1 2 2 6 1 66059 1 1 1
  1 2 3 5 10 1 3 1 2 1 10 1 145 1 1 3 3 1 2 1 1 2 1 8 16 4 373 1 528 1 32 1 31 2 62 3 2 2 2 1 4
  2 5 1".toList

/-- Joining type T. -/
def transparentRuns : List Nat := numbers
  "768 113 274 8 262 45 1 1 1 2 1 2 1 9 64 11 48 21 16 1 101 8 1 6 2 2 1 4 35 1 30 29 89 11 58 9
  9 1 24 4 1 9 1 3 1 7 41 5 58 8 42 57 55 1 1 1 4 8 4 1 3 15 2 2 29 1 58 1 4 6 6 1 20 4 24 5 57
  2 3 27 20 2 3 1 11 2 57 1 4 8 4 3 18 4 20 8 58 1 2 1 1 6 6 10 11 4 28 1 61 1 12 3 48 1 3 1 55
  1 1 3 5 18 10 4 27 1 58 1 2 1 6 1 5 9 13 4 26 2 57 2 4 5 7 1 20 4 27 1 72 5 3 6 89 1 2 11 8 8
  98 1 2 9 11 8 72 2 27 1 1 1 1 1 55 14 1 5 1 2 5 49 8 1 102 4 1 6 1 2 2 2 25 2 4 3 16 4 13 1 2
  2 6 1 15 1 703 3 946 3 29 2 30 14 18 14 55 7 8 1 2 11 9 3 165 2 34 1 118 3 4 2 9 1 6 7 215 2 2
  3 56 1 1 9 1 1 2 8 6 13 48 31 49 4 48 1 1 5 1 1 5 1 40 9 12 2 32 4 2 2 1 3 56 1 1 2 3 1 1 3 58
  8 2 5 149 3 1 13 1 7 4 1 6 1 3 2 198 65 719 52 3051 4 140 1 96 32 554 4 107 4 30162 4 1 10 32
  2 80 2 272 1 3 1 4 1 25 2 5 4 148 10 18 18 13 1 38 8 25 11 46 3 48 1 2 4 2 2 39 1 67 6 2 2 2
  11 3 1 8 1 47 1 51 1 1 3 2 2 5 2 1 1 42 2 8 11 228 1 2 1 4 3 20270 148 622 37 952 131 96 1 149
  10 1665 15 40 8 165 6 569 12 379 2 80 3 70 11 49 4 123 1 54 15 41 1 2 2 10 3 49 4 2 2 7 14 48
  3 36 5 1 9 61 1 12 2 52 9 10 4 2 1 95 3 2 1 1 2 6 1 2 63 95 1 3 13 16 2 57 2 3 1 37 26 184 8 2
  3 1 1 23 1 84 6 1 1 4 2 1 2 238 6 4 2 1 2 27 36 51 8 2 1 1 2 106 1 1 1 2 6 1 1 101 3 2 4 1 9
  255 9 1 2 256 2 1 1 4 1 144 8 4 1 32 10 40 6 2 4 8 9 1 6 2 3 46 13 1 2 406 14 1 1 82 23 1 7 1
  2 1 75 49 21 1 9 64 3 2 1 1 1 347 2 11 2 52 8 2 1 1 1 5373 1 6 25 13968 5 59 7 1048 1 63 4 81
  12 19629 2 4705 80 535 3 17 8 2 7 30 4 148 3 1979 55 4 50 8 1 14 1 22 1125 256 256 48 7 375 18
  44 4 508 4 992 82 34 12".toList

end HostRouting.Idna
