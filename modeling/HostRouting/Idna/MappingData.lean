import HostRouting.Text.Runs

/-!
# The mapping of characters in domain names

What becomes of the characters beyond ASCII in a domain name, by the table of Unicode
Technical Standard 46: valid characters stay, ignored ones vanish, mapped ones are
replaced, and all others are refused.
-/
namespace HostRouting.Idna

open Text (numbers)

/-- Valid characters, as stretches. -/
def validRuns : List Nat := numbers
  "0 128 33 727 3 5 16 18 10 388 41 50 2 3 1 55 8 27 4 6 17 22 1 192 1 48 2 59 2 101 14 59 2 49 2
  15 1 28 2 1 1 11 5 32 7 75 1 161 1 8 2 2 2 22 1 7 1 1 3 4 2 9 2 2 2 4 8 1 8 4 2 25 2 3 1 6 4 2
  2 22 1 7 1 2 1 2 1 2 2 1 1 5 4 2 2 3 3 1 10 1 9 17 10 3 1 9 1 3 1 22 1 7 1 2 1 5 2 10 1 3 1 3
  2 1 15 4 2 12 7 7 1 3 1 8 2 2 2 22 1 7 1 2 1 5 2 9 2 2 2 3 7 3 7 5 2 18 10 2 1 6 3 3 1 4 3 2 1
  1 1 2 3 2 3 3 3 12 4 5 3 3 1 4 2 1 6 1 14 21 5 13 1 3 1 23 1 16 2 9 1 3 1 4 7 2 1 3 1 2 2 4 2
  10 7 22 1 3 1 23 1 10 1 5 2 9 1 3 1 4 7 2 5 3 1 4 2 10 1 3 12 13 1 3 1 51 1 3 1 6 4 16 2 26 1
  3 1 18 3 24 1 9 1 1 2 7 3 1 4 6 1 1 1 8 6 10 2 3 12 58 4 29 37 2 1 1 1 5 1 24 1 1 1 23 2 5 1 1
  1 7 1 10 4 2 32 72 1 36 4 39 1 36 1 15 1 13 37 198 10 377 1 4 2 7 1 1 1 4 2 41 1 4 2 33 1 4 2
  7 1 1 1 4 2 15 1 57 1 4 2 67 2 32 3 26 6 86 10 640 1 28 3 89 7 22 9 24 9 20 12 13 1 3 1 2 12
  94 2 10 6 10 6 26 6 89 7 43 5 70 10 31 1 12 4 12 4 1 3 42 2 5 11 44 4 26 6 11 3 62 2 65 1 29 2
  11 6 10 6 14 2 46 2 12 20 77 1 166 8 60 3 15 3 62 53 8 8 43 5 534 10 38 10 8 8 30 50 5 1 15 1
  14 2 6 4 16 6 9 13 2 2 20 3 1 8 53 59 34 14 33 19 136 4 666 22 11 160 1673 2 382 5 45 1 1 5 1
  2 56 8 1 14 24 9 7 1 7 1 7 1 7 1 7 1 7 1 7 1 7 1 126 34 26 1 89 269 63 1 86 2 103 5 43 96 86
  10 47 41 378 62 28813 3 55 9 348 21 183 8 221 25 55 3 10 6 56 8 70 8 12 6 116 11 30 3 78 1 11
  4 33 1 55 9 14 2 10 2 103 24 28 10 6 2 6 2 6 9 7 1 7 1 60 84 46 2 10 6 11172 12 23 4 49 8722
  96 176 25 123 542 45 21 14 16 21 13 33 2 395 12 1 26 1 19 1 2 1 15 2 14 34 123 5 3 4 45 3 88 1
  13 3 1 47 46 130 29 3 49 15 28 4 36 9 30 5 43 5 30 1 37 4 14 82 118 2 10 46 36 4 40 8 52 11 12
  28 11 1 15 1 7 1 2 3 52 12 311 9 22 10 8 24 6 122 6 2 1 1 44 1 2 3 1 2 23 1 72 8 9 48 19 1 2 5
  33 3 27 5 27 38 56 4 20 2 50 1 2 5 8 1 3 1 29 2 3 4 10 7 9 7 64 32 39 4 12 9 54 3 29 2 27 5 26
  7 4 12 7 80 73 119 51 7 46 8 10 6 38 3 29 8 2 208 31 1 42 1 3 2 2 16 6 8 9 33 46 8 42 22 26 38
  28 20 23 9 78 4 36 9 62 1 5 13 25 7 10 6 53 1 18 8 39 9 96 1 20 11 18 1 47 62 7 1 1 1 4 1 15 1
  11 6 59 5 10 6 4 1 8 2 2 2 22 1 7 1 2 1 5 1 10 2 2 2 3 2 1 6 1 5 7 2 7 3 5 11 10 1 1 2 1 1 38
  1 10 1 1 2 1 1 4 1 10 1 2 8 2 29 92 1 5 30 72 8 10 166 54 2 38 34 69 11 10 6 13 19 58 6 10 6
  20 28 27 2 15 4 23 185 60 132 51 12 8 2 1 2 8 1 2 1 30 1 2 2 12 9 10 70 8 2 46 2 11 27 72 8 83
  13 73 7 10 86 8 88 34 14 10 6 9 1 45 1 14 10 29 3 32 2 22 1 14 73 7 1 2 1 44 3 1 1 2 1 9 8 10
  6 6 1 2 1 37 1 2 1 6 7 10 6 44 4 10 246 25 7 17 1 41 3 29 85 1 15 50 13 923 102 111 1 5 11 196
  2636 99 13 1072 16 22 10 3995 5 583 6841 58 1734 569 7 31 1 10 4 81 1 10 6 30 2 6 10 70 10 10
  1 7 1 21 5 19 432 58 230 59 32 25 44 75 4 57 7 17 64 5 11 7 9 7382 41 32 97 115 8701 4 1 7 1 2
  1 291 15 1 29 3 2 1 14 4 8 396 2308 107 5 13 3 9 7 10 2 8 3932 253 3 436 6 23 15 17 15 46 2 23
  9 116 60 246 10 39 2 194 21 70 122 20 12 20 12 87 9 25 1159 652 15 5 1 15 1104 31 6 6 213 7 1
  17 2 7 1 2 1 5 100 1 112 45 3 14 2 10 4 2 320 31 17 58 5 1 464 42 214 43 4 1 192 31 1 22 8 2
  224 7 1 4 1 2 1 15 1 197 2 16 75 42 4 10 4 2 785 68 76 61 434 2 270 44 4 100 12 15 2 15 1 15 1
  37 21 163 56 29 93 6 154 985 3 17 3 13 3 218 6 12 4 1 15 12 4 56 8 10 6 40 8 30 2 12 4 2 14 9
  39 344 8 14 2 13 3 11 3 57 1 1 4 16 2 12 4 10 7 147 1 103 1029 42720 32 4382 2 5774 2 7473 15
  622 4514 4939 5 8490".toList

/-- Ignored characters, as stretches. -/
def ignoredRuns : List Nat := numbers
  "173 1 673 1 3599 2 1619 2 85 5 2043 1 84 5 5 6 4340 1 52379 16 239 1 160 1 48383 4 5327 8
  798597 240".toList

/-- Series of characters that are mapped at one distance, four numbers each: the first
character, how many there are, how far apart they stand, and what the first is mapped to. -/
def shifts : List Nat := numbers
  "65 26 1 97 178 2 1 50 192 23 1 224 216 7 1 248 256 24 2 257 308 2 2 309 313 3 2 314 321 4 2
  322 330 23 2 331 377 3 2 378 386 2 2 387 393 2 1 598 416 3 2 417 433 2 1 650 435 2 2 436 461 8
  2 462 478 9 2 479 504 20 2 505 546 9 2 547 582 5 2 583 832 2 1 768 880 2 2 881 904 3 1 941 910
  2 1 973 913 17 1 945 931 9 1 963 984 12 2 985 1021 3 1 891 1024 16 1 1104 1040 32 1 1072 1120
  17 2 1121 1162 27 2 1163 1217 7 2 1218 1232 48 2 1233 1329 38 1 1377 4256 38 1 11520 5112 6 1
  5104 7299 2 1 1089 7312 43 1 4304 7357 3 1 4349 7470 2 2 98 7475 8 1 103 7488 2 1 116 7492 2 1
  592 7496 2 1 100 7499 2 1 603 7508 2 1 7446 7511 2 1 116 7517 3 1 946 7520 2 1 966 7524 2 1
  117 7526 2 1 946 7529 2 1 966 7588 3 1 616 7598 4 1 626 7603 2 1 642 7606 2 1 649 7609 2 1 651
  7612 3 1 656 7680 75 2 7681 7840 48 2 7841 7944 8 1 7936 7960 6 1 7952 7976 8 1 7968 7992 8 1
  7984 8008 6 1 8000 8025 4 2 8017 8040 8 1 8032 8120 2 1 8112 8152 2 1 8144 8168 2 1 8160 8308
  6 1 52 8317 2 1 40 8320 10 1 48 8333 2 1 40 8342 4 1 107 8347 2 1 115 8458 2 1 103 8467 2 2
  108 8473 3 1 112 8492 2 1 98 8496 2 1 101 8501 4 1 1488 8518 2 1 100 8520 2 1 105 8557 2 1 99
  8573 2 1 99 9001 2 1 12296 9312 9 1 49 9398 26 1 97 9424 26 1 97 11264 48 1 11312 11367 3 2
  11368 11390 2 1 575 11392 50 2 11393 11499 2 2 11500 12345 2 1 21316 12593 2 1 4352 12597 2 1
  4524 12599 3 1 4355 12602 6 1 4528 12609 3 1 4358 12613 10 1 4361 12623 21 1 4449 12645 2 1
  4372 12647 2 1 4551 12657 2 1 4381 12660 2 1 4386 12664 5 1 4395 12674 2 1 4593 12676 3 1 4439
  12679 2 1 4484 12682 2 1 4497 12897 2 1 4354 12899 3 1 4357 12903 2 1 4363 12905 5 1 4366
  13012 2 1 12458 13028 6 1 12490 13038 5 1 12510 13045 6 1 12520 13051 4 1 12527 42560 23 2
  42561 42624 14 2 42625 42786 7 2 42787 42802 31 2 42803 42873 2 2 42874 42878 5 2 42879 42896
  2 2 42897 42902 10 2 42903 42932 8 2 42933 42951 2 2 42952 42956 8 2 42957 43888 80 1 5024
  64082 2 1 31117 64290 2 1 1491 64292 3 1 1499 64381 2 1 1670 64415 2 1 1722 64421 2 1 1728
  64431 2 1 1746 65043 2 1 58 65047 2 1 12310 65077 2 1 40 65081 2 1 12308 65083 2 1 12304 65085
  2 1 12298 65087 2 1 12296 65089 4 1 12300 65113 2 1 40 65117 2 1 12308 65121 2 1 42 65129 2 1
  36 65152 2 1 1569 65154 2 1 1570 65156 2 1 1571 65158 2 1 1572 65160 2 1 1573 65164 2 1 1574
  65166 2 1 1575 65170 2 1 1576 65172 2 1 1577 65176 2 1 1578 65180 2 1 1579 65184 2 1 1580
  65188 2 1 1581 65192 2 1 1582 65194 2 1 1583 65196 2 1 1584 65198 2 1 1585 65200 2 1 1586
  65204 2 1 1587 65208 2 1 1588 65212 2 1 1589 65216 2 1 1590 65220 2 1 1591 65224 2 1 1592
  65228 2 1 1593 65236 2 1 1601 65240 2 1 1602 65244 2 1 1603 65248 2 1 1604 65252 2 1 1605
  65256 2 1 1606 65260 2 1 1607 65262 2 1 1608 65264 2 1 1609 65281 32 1 33 65313 26 1 97 65339
  36 1 91 65375 2 1 10629 65378 2 1 12300 65397 2 1 12458 65413 6 1 12490 65423 5 1 12510 65430
  6 1 12520 65438 2 1 12441 65441 2 1 4352 65445 2 1 4524 65447 3 1 4355 65450 6 1 4528 65457 3
  1 4358 65461 10 1 4361 65474 6 1 4449 65482 6 1 4455 65490 6 1 4461 65498 3 1 4467 65504 2 1
  162 65513 4 1 8592 66560 40 1 66600 66736 36 1 66776 66928 11 1 66967 66940 15 1 66979 66956 7
  1 66995 66964 2 1 67003 67457 2 1 720 67467 2 1 598 67481 2 1 682 67491 2 1 630 67496 2 1 637
  67507 2 1 673 67510 3 1 448 68736 51 1 68800 68944 22 1 68976 71840 32 1 71872 93760 32 1
  93792 93856 25 1 93883 117974 26 1 97 118000 10 1 48 119808 26 1 97 119834 26 1 97 119860 26 1
  97 119886 7 1 97 119894 18 1 105 119912 26 1 97 119938 26 1 97 119964 2 2 97 119973 2 1 106
  119977 4 1 110 119982 8 1 115 119990 4 1 97 119995 2 2 102 119998 6 1 105 120005 11 1 112
  120016 26 1 97 120042 26 1 97 120068 2 1 97 120071 4 1 100 120077 8 1 106 120086 7 1 115
  120094 26 1 97 120120 2 1 97 120123 4 1 100 120128 5 1 105 120138 7 1 115 120146 26 1 97
  120172 26 1 97 120198 26 1 97 120224 26 1 97 120250 26 1 97 120276 26 1 97 120302 26 1 97
  120328 26 1 97 120354 26 1 97 120380 26 1 97 120406 26 1 97 120432 26 1 97 120458 26 1 97
  120488 17 1 945 120506 7 1 963 120514 17 1 945 120532 7 1 963 120546 17 1 945 120564 7 1 963
  120572 17 1 945 120590 7 1 963 120604 17 1 945 120622 7 1 963 120630 17 1 945 120648 7 1 963
  120662 17 1 945 120680 7 1 963 120688 17 1 945 120706 7 1 963 120720 17 1 945 120738 7 1 963
  120746 17 1 945 120764 7 1 963 120782 10 1 48 120792 10 1 48 120802 10 1 48 120812 10 1 48
  120822 10 1 48 122928 9 1 1072 122937 3 1 1082 122940 11 1 1086 122952 2 1 1101 122961 9 1
  1072 122970 2 1 1082 122972 2 1 1086 122975 6 1 1091 122981 2 1 1098 125184 34 1 125218 126464
  2 1 1575 126474 4 1 1603 126485 2 1 1578 126506 4 1 1603 126517 2 1 1578 126539 2 2 1604
  126570 2 2 1603 126581 2 1 1578 126592 2 1 1575 126596 2 1 1607 126603 3 1 1604 126613 2 1
  1578 126635 3 1 1604 126645 2 1 1578 127280 26 1 97 130032 10 1 48 194601 2 1 21253 194689 2 1
  24033 194805 2 1 27578 194885 2 1 30494 195048 2 1 37591".toList

/-- Characters mapped to one character, in pairs. -/
def replacements : List Nat := numbers
  "160 32 170 97 181 956 185 49 186 111 376 255 383 115 385 595 390 596 391 392 395 396 398 477
  399 601 400 603 401 402 403 608 404 611 406 617 407 616 408 409 412 623 413 626 415 629 422
  640 423 424 425 643 428 429 430 648 431 432 439 658 440 441 444 445 500 501 502 405 503 447
  544 414 570 11365 571 572 573 410 574 11366 577 578 579 384 580 649 581 652 688 104 689 614
  690 106 691 114 692 633 693 635 694 641 695 119 696 121 736 611 737 108 738 115 739 120 740
  661 835 787 837 953 884 697 886 887 894 59 895 1011 902 940 903 183 908 972 975 983 976 946
  977 952 978 965 979 973 980 971 981 966 982 960 1008 954 1009 961 1010 963 1012 952 1013 949
  1015 1016 1017 963 1018 1019 1216 1231 3852 3851 4295 11559 4301 11565 4348 4316 7296 1074
  7297 1076 7298 1086 7301 1090 7302 1098 7303 1123 7304 42571 7305 7306 7468 97 7469 230 7473
  101 7474 477 7484 111 7485 547 7486 112 7487 114 7490 119 7491 97 7494 7426 7495 98 7498 601
  7501 103 7503 107 7504 109 7505 331 7506 111 7507 596 7510 112 7513 7453 7514 623 7515 118
  7516 7461 7522 105 7523 114 7528 961 7544 1085 7579 594 7580 99 7581 597 7582 240 7583 604
  7584 102 7585 607 7586 609 7587 613 7591 7547 7592 669 7593 621 7594 7557 7595 671 7596 625
  7597 624 7602 632 7605 427 7608 7452 7611 122 7615 952 7835 7777 7838 223 8049 940 8051 941
  8053 942 8055 943 8057 972 8059 973 8061 974 8122 8048 8123 940 8126 953 8136 8050 8137 941
  8138 8052 8139 942 8147 912 8154 8054 8155 943 8163 944 8170 8058 8171 973 8172 8165 8175 96
  8184 8056 8185 972 8186 8060 8187 974 8192 32 8193 32 8194 32 8195 32 8196 32 8197 32 8198 32
  8199 32 8200 32 8201 32 8202 32 8209 8208 8239 32 8287 32 8304 48 8305 105 8314 43 8315 8722
  8316 61 8319 110 8330 43 8331 8722 8332 61 8336 97 8337 101 8338 111 8339 120 8340 601 8341
  104 8346 112 8450 99 8455 603 8460 104 8461 104 8462 104 8463 295 8464 105 8465 105 8466 108
  8476 114 8477 114 8484 122 8486 969 8488 122 8490 107 8491 229 8495 101 8498 8526 8499 109
  8500 111 8505 105 8508 960 8509 947 8510 947 8511 960 8512 8721 8517 100 8544 105 8548 118
  8553 120 8556 108 8559 109 8560 105 8564 118 8569 120 8572 108 8575 109 8579 8580 9450 48
  11360 11361 11362 619 11363 7549 11364 637 11373 593 11374 625 11375 592 11376 594 11378 11379
  11381 11382 11388 106 11389 118 11506 11507 11631 11617 11935 27597 12019 40863 12032 19968
  12033 20008 12034 20022 12035 20031 12036 20057 12037 20101 12038 20108 12039 20128 12040
  20154 12041 20799 12042 20837 12043 20843 12044 20866 12045 20886 12046 20907 12047 20960
  12048 20981 12049 20992 12050 21147 12051 21241 12052 21269 12053 21274 12054 21304 12055
  21313 12056 21340 12057 21353 12058 21378 12059 21430 12060 21448 12061 21475 12062 22231
  12063 22303 12064 22763 12065 22786 12066 22794 12067 22805 12068 22823 12069 22899 12070
  23376 12071 23424 12072 23544 12073 23567 12074 23586 12075 23608 12076 23662 12077 23665
  12078 24027 12079 24037 12080 24049 12081 24062 12082 24178 12083 24186 12084 24191 12085
  24308 12086 24318 12087 24331 12088 24339 12089 24400 12090 24417 12091 24435 12092 24515
  12093 25096 12094 25142 12095 25163 12096 25903 12097 25908 12098 25991 12099 26007 12100
  26020 12101 26041 12102 26080 12103 26085 12104 26352 12105 26376 12106 26408 12107 27424
  12108 27490 12109 27513 12110 27571 12111 27595 12112 27604 12113 27611 12114 27663 12115
  27668 12116 27700 12117 28779 12118 29226 12119 29238 12120 29243 12121 29247 12122 29255
  12123 29273 12124 29275 12125 29356 12126 29572 12127 29577 12128 29916 12129 29926 12130
  29976 12131 29983 12132 29992 12133 30000 12134 30091 12135 30098 12136 30326 12137 30333
  12138 30382 12139 30399 12140 30446 12141 30683 12142 30690 12143 30707 12144 31034 12145
  31160 12146 31166 12147 31348 12148 31435 12149 31481 12150 31859 12151 31992 12152 32566
  12153 32593 12154 32650 12155 32701 12156 32769 12157 32780 12158 32786 12159 32819 12160
  32895 12161 32905 12162 33251 12163 33258 12164 33267 12165 33276 12166 33292 12167 33307
  12168 33311 12169 33390 12170 33394 12171 33400 12172 34381 12173 34411 12174 34880 12175
  34892 12176 34915 12177 35198 12178 35211 12179 35282 12180 35328 12181 35895 12182 35910
  12183 35925 12184 35960 12185 35997 12186 36196 12187 36208 12188 36275 12189 36523 12190
  36554 12191 36763 12192 36784 12193 36789 12194 37009 12195 37193 12196 37318 12197 37324
  12198 37329 12199 38263 12200 38272 12201 38428 12202 38582 12203 38585 12204 38632 12205
  38737 12206 38750 12207 38754 12208 38761 12209 38859 12210 38893 12211 38899 12212 38913
  12213 39080 12214 39131 12215 39135 12216 39318 12217 39321 12218 39340 12219 39592 12220
  39640 12221 39647 12222 39717 12223 39727 12224 39730 12225 39740 12226 39770 12227 40165
  12228 40565 12229 40575 12230 40613 12231 40635 12232 40643 12233 40653 12234 40657 12235
  40697 12236 40701 12237 40718 12238 40723 12239 40736 12240 40763 12241 40778 12242 40786
  12243 40845 12244 40860 12245 40864 12288 32 12290 46 12342 12306 12344 21313 12595 4522 12596
  4354 12608 4378 12612 4385 12649 4556 12650 4558 12651 4563 12652 4567 12653 4569 12654 4380
  12655 4573 12656 4575 12659 4384 12662 4391 12663 4393 12669 4402 12670 4406 12671 4416 12672
  4423 12673 4428 12681 4488 12684 4500 12685 4510 12686 4513 12690 19968 12691 20108 12692
  19977 12693 22235 12694 19978 12695 20013 12696 19979 12697 30002 12698 20057 12699 19993
  12700 19969 12701 22825 12702 22320 12703 20154 12868 21839 12869 24188 12870 25991 12871
  31631 12896 4352 12902 4361 12910 44032 12911 45208 12912 45796 12913 46972 12914 47560 12915
  48148 12916 49324 12917 50500 12918 51088 12919 52264 12920 52852 12921 53440 12922 54028
  12923 54616 12926 50864 12928 19968 12929 20108 12930 19977 12931 22235 12932 20116 12933
  20845 12934 19971 12935 20843 12936 20061 12937 21313 12938 26376 12939 28779 12940 27700
  12941 26408 12942 37329 12943 22303 12944 26085 12945 26666 12946 26377 12947 31038 12948
  21517 12949 29305 12950 36001 12951 31069 12952 21172 12953 31192 12954 30007 12955 22899
  12956 36969 12957 20778 12958 21360 12959 27880 12960 38917 12961 20241 12962 20889 12963
  27491 12964 19978 12965 20013 12966 19979 12967 24038 12968 21491 12969 21307 12970 23447
  12971 23398 12972 30435 12973 20225 12974 36039 12975 21332 12976 22812 13008 12450 13009
  12452 13010 12454 13011 12456 13014 12461 13015 12463 13016 12465 13017 12467 13018 12469
  13019 12471 13020 12473 13021 12475 13022 12477 13023 12479 13024 12481 13025 12484 13026
  12486 13027 12488 13034 12498 13035 12501 13036 12504 13037 12507 13043 12516 13044 12518
  42652 1098 42653 1100 42864 42863 42877 7545 42891 42892 42893 613 42922 614 42923 604 42924
  609 42925 620 42926 618 42928 670 42929 647 42930 669 42931 43859 42948 42900 42949 642 42950
  7566 42955 612 42972 411 42993 115 42994 99 42995 102 42996 113 42997 42998 43000 295 43001
  339 43868 42791 43869 43831 43870 619 43871 43858 43881 653 63744 35912 63745 26356 63746
  36554 63747 36040 63748 28369 63749 20018 63750 21477 63751 40860 63752 40860 63753 22865
  63754 37329 63755 21895 63756 22856 63757 25078 63758 30313 63759 32645 63760 34367 63761
  34746 63762 35064 63763 37007 63764 27138 63765 27931 63766 28889 63767 29662 63768 33853
  63769 37226 63770 39409 63771 20098 63772 21365 63773 27396 63774 29211 63775 34349 63776
  40478 63777 23888 63778 28651 63779 34253 63780 35172 63781 25289 63782 33240 63783 34847
  63784 24266 63785 26391 63786 28010 63787 29436 63788 37070 63789 20358 63790 20919 63791
  21214 63792 25796 63793 27347 63794 29200 63795 30439 63796 32769 63797 34310 63798 34396
  63799 36335 63800 38706 63801 39791 63802 40442 63803 30860 63804 31103 63805 32160 63806
  33737 63807 37636 63808 40575 63809 35542 63810 22751 63811 24324 63812 31840 63813 32894
  63814 29282 63815 30922 63816 36034 63817 38647 63818 22744 63819 23650 63820 27155 63821
  28122 63822 28431 63823 32047 63824 32311 63825 38475 63826 21202 63827 32907 63828 20956
  63829 20940 63830 31260 63831 32190 63832 33777 63833 38517 63834 35712 63835 25295 63836
  27138 63837 35582 63838 20025 63839 23527 63840 24594 63841 29575 63842 30064 63843 21271
  63844 30971 63845 20415 63846 24489 63847 19981 63848 27852 63849 25976 63850 32034 63851
  21443 63852 22622 63853 30465 63854 33865 63855 35498 63856 27578 63857 36784 63858 27784
  63859 25342 63860 33509 63861 25504 63862 30053 63863 20142 63864 20841 63865 20937 63866
  26753 63867 31975 63868 33391 63869 35538 63870 37327 63871 21237 63872 21570 63873 22899
  63874 24300 63875 26053 63876 28670 63877 31018 63878 38317 63879 39530 63880 40599 63881
  40654 63882 21147 63883 26310 63884 27511 63885 36706 63886 24180 63887 24976 63888 25088
  63889 25754 63890 28451 63891 29001 63892 29833 63893 31178 63894 32244 63895 32879 63896
  36646 63897 34030 63898 36899 63899 37706 63900 21015 63901 21155 63902 21693 63903 28872
  63904 35010 63905 35498 63906 24265 63907 24565 63908 25467 63909 27566 63910 31806 63911
  29557 63912 20196 63913 22265 63914 23527 63915 23994 63916 24604 63917 29618 63918 29801
  63919 32666 63920 32838 63921 37428 63922 38646 63923 38728 63924 38936 63925 20363 63926
  31150 63927 37300 63928 38584 63929 24801 63930 20102 63931 20698 63932 23534 63933 23615
  63934 26009 63935 27138 63936 29134 63937 30274 63938 34044 63939 36988 63940 40845 63941
  26248 63942 38446 63943 21129 63944 26491 63945 26611 63946 27969 63947 28316 63948 29705
  63949 30041 63950 30827 63951 32016 63952 39006 63953 20845 63954 25134 63955 38520 63956
  20523 63957 23833 63958 28138 63959 36650 63960 24459 63961 24900 63962 26647 63963 29575
  63964 38534 63965 21033 63966 21519 63967 23653 63968 26131 63969 26446 63970 26792 63971
  27877 63972 29702 63973 30178 63974 32633 63975 35023 63976 35041 63977 37324 63978 38626
  63979 21311 63980 28346 63981 21533 63982 29136 63983 29848 63984 34298 63985 38563 63986
  40023 63987 40607 63988 26519 63989 28107 63990 33256 63991 31435 63992 31520 63993 31890
  63994 29376 63995 28825 63996 35672 63997 20160 63998 33590 63999 21050 64000 20999 64001
  24230 64002 25299 64003 31958 64004 23429 64005 27934 64006 26292 64007 36667 64008 34892
  64009 38477 64010 35211 64011 24275 64012 20800 64013 21952 64016 22618 64018 26228 64021
  20958 64022 29482 64023 30410 64024 31036 64025 31070 64026 31077 64027 31119 64028 38742
  64029 31934 64030 32701 64032 34322 64034 35576 64037 36920 64038 37117 64042 39151 64043
  39164 64044 39208 64045 40372 64046 37086 64047 38583 64048 20398 64049 20711 64050 20813
  64051 21193 64052 21220 64053 21329 64054 21917 64055 22022 64056 22120 64057 22592 64058
  22696 64059 23652 64060 23662 64061 24724 64062 24936 64063 24974 64064 25074 64065 25935
  64066 26082 64067 26257 64068 26757 64069 28023 64070 28186 64071 28450 64072 29038 64073
  29227 64074 29730 64075 30865 64076 31038 64077 31049 64078 31048 64079 31056 64080 31062
  64081 31069 64084 31296 64085 31361 64086 31680 64087 32244 64088 32265 64089 32321 64090
  32626 64091 32773 64092 33261 64093 33401 64094 33401 64095 33879 64096 35088 64097 35222
  64098 35585 64099 35641 64100 36051 64101 36104 64102 36790 64103 36920 64104 38627 64105
  38911 64106 38971 64107 24693 64108 148206 64109 33304 64112 20006 64113 20917 64114 20840
  64115 20352 64116 20805 64117 20864 64118 21191 64119 21242 64120 21917 64121 21845 64122
  21913 64123 21986 64124 22618 64125 22707 64126 22852 64127 22868 64128 23138 64129 23336
  64130 24274 64131 24281 64132 24425 64133 24493 64134 24792 64135 24910 64136 24840 64137
  24974 64138 24928 64139 25074 64140 25140 64141 25540 64142 25628 64143 25682 64144 25942
  64145 26228 64146 26391 64147 26395 64148 26454 64149 27513 64150 27578 64151 27969 64152
  28379 64153 28363 64154 28450 64155 28702 64156 29038 64157 30631 64158 29237 64159 29359
  64160 29482 64161 29809 64162 29958 64163 30011 64164 30237 64165 30239 64166 30410 64167
  30427 64168 30452 64169 30538 64170 30528 64171 30924 64172 31409 64173 31680 64174 31867
  64175 32091 64176 32244 64177 32574 64178 32773 64179 33618 64180 33775 64181 34681 64182
  35137 64183 35206 64184 35222 64185 35519 64186 35576 64187 35531 64188 35585 64189 35582
  64190 35565 64191 35641 64192 35722 64193 36104 64194 36664 64195 36978 64196 37273 64197
  37494 64198 38524 64199 38627 64200 38742 64201 38875 64202 38911 64203 38923 64204 38971
  64205 39698 64206 40860 64207 141386 64208 141380 64209 144341 64210 15261 64211 16408 64212
  16441 64213 152137 64214 154832 64215 163539 64216 40771 64217 40846 64288 1506 64289 1488
  64295 1512 64296 1514 64297 43 64336 1649 64337 1649 64338 1659 64339 1659 64340 1659 64341
  1659 64342 1662 64343 1662 64344 1662 64345 1662 64346 1664 64347 1664 64348 1664 64349 1664
  64350 1658 64351 1658 64352 1658 64353 1658 64354 1663 64355 1663 64356 1663 64357 1663 64358
  1657 64359 1657 64360 1657 64361 1657 64362 1700 64363 1700 64364 1700 64365 1700 64366 1702
  64367 1702 64368 1702 64369 1702 64370 1668 64371 1668 64372 1668 64373 1668 64374 1667 64375
  1667 64376 1667 64377 1667 64378 1670 64379 1670 64380 1670 64383 1671 64384 1671 64385 1671
  64386 1677 64387 1677 64388 1676 64389 1676 64390 1678 64391 1678 64392 1672 64393 1672 64394
  1688 64395 1688 64396 1681 64397 1681 64398 1705 64399 1705 64400 1705 64401 1705 64402 1711
  64403 1711 64404 1711 64405 1711 64406 1715 64407 1715 64408 1715 64409 1715 64410 1713 64411
  1713 64412 1713 64413 1713 64414 1722 64417 1723 64418 1723 64419 1723 64420 1728 64423 1729
  64424 1729 64425 1729 64426 1726 64427 1726 64428 1726 64429 1726 64430 1746 64433 1747 64467
  1709 64468 1709 64469 1709 64470 1709 64471 1735 64472 1735 64473 1734 64474 1734 64475 1736
  64476 1736 64478 1739 64479 1739 64480 1733 64481 1733 64482 1737 64483 1737 64484 1744 64485
  1744 64486 1744 64487 1744 64488 1609 64489 1609 64508 1740 64509 1740 64510 1740 64511 1740
  65040 44 65041 12289 65045 33 65046 63 65073 8212 65074 8211 65075 95 65076 95 65079 123 65080
  125 65095 91 65096 93 65101 95 65102 95 65103 95 65104 44 65105 12289 65108 59 65109 58 65110
  63 65111 33 65112 8212 65115 123 65116 125 65119 35 65120 38 65123 45 65124 60 65125 62 65126
  61 65128 92 65131 64 65162 1574 65163 1574 65168 1576 65169 1576 65174 1578 65175 1578 65178
  1579 65179 1579 65182 1580 65183 1580 65186 1581 65187 1581 65190 1582 65191 1582 65202 1587
  65203 1587 65206 1588 65207 1588 65210 1589 65211 1589 65214 1590 65215 1590 65218 1591 65219
  1591 65222 1592 65223 1592 65226 1593 65227 1593 65230 1594 65231 1594 65232 1594 65233 1601
  65234 1601 65235 1601 65238 1602 65239 1602 65242 1603 65243 1603 65246 1604 65247 1604 65250
  1605 65251 1605 65254 1606 65255 1606 65258 1607 65259 1607 65266 1610 65267 1610 65268 1610
  65377 46 65380 12289 65381 12539 65382 12530 65383 12449 65384 12451 65385 12453 65386 12455
  65387 12457 65388 12515 65389 12517 65390 12519 65391 12483 65392 12540 65393 12450 65394
  12452 65395 12454 65396 12456 65399 12461 65400 12463 65401 12465 65402 12467 65403 12469
  65404 12471 65405 12473 65406 12475 65407 12477 65408 12479 65409 12481 65410 12484 65411
  12486 65412 12488 65419 12498 65420 12501 65421 12504 65422 12507 65428 12516 65429 12518
  65436 12527 65437 12531 65443 4522 65444 4354 65456 4378 65460 4385 65506 172 65508 166 65509
  165 65510 8361 65512 9474 65517 9632 65518 9675 67459 230 67460 665 67461 595 67463 675 67464
  43878 67465 677 67466 676 67469 7569 67470 600 67471 606 67472 681 67473 612 67474 610 67475
  608 67476 667 67477 295 67478 668 67479 615 67480 644 67483 620 67484 122628 67485 42894 67486
  622 67487 122629 67488 654 67489 122630 67490 248 67493 113 67494 634 67495 122632 67498 640
  67499 680 67500 678 67501 43879 67502 679 67503 648 67504 11377 67506 655 67509 664 67513
  122634 67514 122654 119967 100 119970 103 120134 111 120484 305 120485 567 120505 952 120513
  8711 120531 963 120539 8706 120540 949 120541 952 120542 954 120543 966 120544 961 120545 960
  120563 952 120571 8711 120589 963 120597 8706 120598 949 120599 952 120600 954 120601 966
  120602 961 120603 960 120621 952 120629 8711 120647 963 120655 8706 120656 949 120657 952
  120658 954 120659 966 120660 961 120661 960 120679 952 120687 8711 120705 963 120713 8706
  120714 949 120715 952 120716 954 120717 966 120718 961 120719 960 120737 952 120745 8711
  120763 963 120771 8706 120772 949 120773 952 120774 954 120775 966 120776 961 120777 960
  120778 989 120779 989 122951 1099 122954 42633 122955 1241 122956 1110 122957 1112 122958 1257
  122959 1199 122960 1231 122974 1089 122983 1169 122984 1110 122985 1109 122986 1119 122987
  1195 122988 42577 122989 1201 126466 1580 126467 1583 126469 1608 126470 1586 126471 1581
  126472 1591 126473 1610 126478 1587 126479 1593 126480 1601 126481 1589 126482 1602 126483
  1585 126484 1588 126487 1582 126488 1584 126489 1590 126490 1592 126491 1594 126492 1646
  126493 1722 126494 1697 126495 1647 126497 1576 126498 1580 126500 1607 126503 1581 126505
  1610 126510 1587 126511 1593 126512 1601 126513 1589 126514 1602 126516 1588 126519 1582
  126521 1590 126523 1594 126530 1580 126535 1581 126537 1610 126542 1587 126543 1593 126545
  1589 126546 1602 126548 1588 126551 1582 126553 1590 126555 1594 126557 1722 126559 1647
  126561 1576 126562 1580 126564 1607 126567 1581 126568 1591 126569 1610 126573 1606 126574
  1587 126575 1593 126576 1601 126577 1589 126578 1602 126580 1588 126583 1582 126585 1590
  126586 1592 126587 1594 126588 1646 126590 1697 126594 1580 126595 1583 126598 1586 126599
  1581 126600 1591 126601 1610 126606 1587 126607 1593 126608 1601 126609 1589 126610 1602
  126611 1585 126612 1588 126615 1582 126616 1584 126617 1590 126618 1592 126619 1594 126625
  1576 126626 1580 126627 1583 126629 1608 126630 1586 126631 1581 126632 1591 126633 1610
  126638 1587 126639 1593 126640 1601 126641 1589 126642 1602 126643 1585 126644 1588 126647
  1582 126648 1584 126649 1590 126650 1592 126651 1594 127275 99 127276 114 127490 12469 127504
  25163 127505 23383 127506 21452 127507 12487 127508 20108 127509 22810 127510 35299 127511
  22825 127512 20132 127513 26144 127514 28961 127515 26009 127516 21069 127517 24460 127518
  20877 127519 26032 127520 21021 127521 32066 127522 29983 127523 36009 127524 22768 127525
  21561 127526 28436 127527 25237 127528 25429 127529 19968 127530 19977 127531 36938 127532
  24038 127533 20013 127534 21491 127535 25351 127536 36208 127537 25171 127538 31105 127539
  31354 127540 21512 127541 28288 127542 26377 127543 26376 127544 30003 127545 21106 127546
  21942 127547 37197 127568 24471 127569 21487 194560 20029 194561 20024 194562 20033 194563
  131362 194564 20320 194565 20398 194566 20411 194567 20482 194568 20602 194569 20633 194570
  20711 194571 20687 194572 13470 194573 132666 194574 20813 194575 20820 194576 20836 194577
  20855 194578 132380 194579 13497 194580 20839 194581 20877 194582 132427 194583 20887 194584
  20900 194585 20172 194586 20908 194587 20917 194588 168415 194589 20981 194590 20995 194591
  13535 194592 21051 194593 21062 194594 21106 194595 21111 194596 13589 194597 21191 194598
  21193 194599 21220 194600 21242 194603 21271 194604 21321 194605 21329 194606 21338 194607
  21363 194608 21373 194609 21375 194610 21375 194611 21375 194612 133676 194613 28784 194614
  21450 194615 21471 194616 133987 194617 21483 194618 21489 194619 21510 194620 21662 194621
  21560 194622 21576 194623 21608 194624 21666 194625 21750 194626 21776 194627 21843 194628
  21859 194629 21892 194630 21892 194631 21913 194632 21931 194633 21939 194634 21954 194635
  22294 194636 22022 194637 22295 194638 22097 194639 22132 194640 20999 194641 22766 194642
  22478 194643 22516 194644 22541 194645 22411 194646 22578 194647 22577 194648 22700 194649
  136420 194650 22770 194651 22775 194652 22790 194653 22810 194654 22818 194655 22882 194656
  136872 194657 136938 194658 23020 194659 23067 194660 23079 194661 23000 194662 23142 194663
  14062 194664 14076 194665 23304 194666 23358 194667 23358 194668 137672 194669 23491 194670
  23512 194671 23527 194672 23539 194673 138008 194674 23551 194675 23558 194676 24403 194677
  23586 194678 14209 194679 23648 194680 23662 194681 23744 194682 23693 194683 138724 194684
  23875 194685 138726 194686 23918 194687 23915 194688 23932 194691 14383 194692 24061 194693
  24104 194694 24125 194695 24169 194696 14434 194697 139651 194698 14460 194699 24240 194700
  24243 194701 24246 194702 24266 194703 172946 194704 24318 194705 140081 194706 140081 194707
  33281 194708 24354 194709 24354 194710 14535 194711 144056 194712 156122 194713 24418 194714
  24427 194715 14563 194716 24474 194717 24525 194718 24535 194719 24569 194720 24705 194721
  14650 194722 14620 194723 24724 194724 141012 194725 24775 194726 24904 194727 24908 194728
  24910 194729 24908 194730 24954 194731 24974 194732 25010 194733 24996 194734 25007 194735
  25054 194736 25074 194737 25078 194738 25104 194739 25115 194740 25181 194741 25265 194742
  25300 194743 25424 194744 142092 194745 25405 194746 25340 194747 25448 194748 25475 194749
  25572 194750 142321 194751 25634 194752 25541 194753 25513 194754 14894 194755 25705 194756
  25726 194757 25757 194758 25719 194759 14956 194760 25935 194761 25964 194762 143370 194763
  26083 194764 26360 194765 26185 194766 15129 194767 26257 194768 15112 194769 15076 194770
  20882 194771 20885 194772 26368 194773 26268 194774 32941 194775 17369 194776 26391 194777
  26395 194778 26401 194779 26462 194780 26451 194781 144323 194782 15177 194783 26618 194784
  26501 194785 26706 194786 26757 194787 144493 194788 26766 194789 26655 194790 26900 194791
  15261 194792 26946 194793 27043 194794 27114 194795 27304 194796 145059 194797 27355 194798
  15384 194799 27425 194800 145575 194801 27476 194802 15438 194803 27506 194804 27551 194807
  146061 194808 138507 194809 146170 194810 27726 194811 146620 194812 27839 194813 27853 194814
  27751 194815 27926 194816 27966 194817 28023 194818 27969 194819 28009 194820 28024 194821
  28037 194822 146718 194823 27956 194824 28207 194825 28270 194826 15667 194827 28363 194828
  28359 194829 147153 194830 28153 194831 28526 194832 147294 194833 147342 194834 28614 194835
  28729 194836 28702 194837 28699 194838 15766 194839 28746 194840 28797 194841 28791 194842
  28845 194843 132389 194844 28997 194845 148067 194846 29084 194847 148395 194848 29224 194849
  29237 194850 29264 194851 149000 194852 29312 194853 29333 194854 149301 194855 149524 194856
  29562 194857 29579 194858 16044 194859 29605 194860 16056 194861 16056 194862 29767 194863
  29788 194864 29809 194865 29829 194866 29898 194867 16155 194868 29988 194869 150582 194870
  30014 194871 150674 194872 30064 194873 139679 194874 30224 194875 151457 194876 151480 194877
  151620 194878 16380 194879 16392 194880 30452 194881 151795 194882 151794 194883 151833 194884
  151859 194887 30495 194888 30538 194889 16441 194890 30603 194891 16454 194892 16534 194893
  152605 194894 30798 194895 30860 194896 30924 194897 16611 194898 153126 194899 31062 194900
  153242 194901 153285 194902 31119 194903 31211 194904 16687 194905 31296 194906 31306 194907
  31311 194908 153980 194909 154279 194910 154279 194911 31470 194912 16898 194913 154539 194914
  31686 194915 31689 194916 16935 194917 154752 194918 31954 194919 17056 194920 31976 194921
  31971 194922 32000 194923 155526 194924 32099 194925 17153 194926 32199 194927 32258 194928
  32325 194929 17204 194930 156200 194931 156231 194932 17241 194933 156377 194934 32634 194935
  156478 194936 32661 194937 32762 194938 32773 194939 156890 194940 156963 194941 32864 194942
  157096 194943 32880 194944 144223 194945 17365 194946 32946 194947 33027 194948 17419 194949
  33086 194950 23221 194951 157607 194952 157621 194953 144275 194954 144284 194955 33281 194956
  33284 194957 36766 194958 17515 194959 33425 194960 33419 194961 33437 194962 21171 194963
  33457 194964 33459 194965 33469 194966 33510 194967 158524 194968 33509 194969 33565 194970
  33635 194971 33709 194972 33571 194973 33725 194974 33767 194975 33879 194976 33619 194977
  33738 194978 33740 194979 33756 194980 158774 194981 159083 194982 158933 194983 17707 194984
  34033 194985 34035 194986 34070 194987 160714 194988 34148 194989 159532 194990 17757 194991
  17761 194992 159665 194993 159954 194994 17771 194995 34384 194996 34396 194997 34407 194998
  34409 194999 34473 195000 34440 195001 34574 195002 34530 195003 34681 195004 34600 195005
  34667 195006 34694 195007 17879 195008 34785 195009 34817 195010 17913 195011 34912 195012
  34915 195013 161383 195014 35031 195015 35038 195016 17973 195017 35066 195018 13499 195019
  161966 195020 162150 195021 18110 195022 18119 195023 35488 195024 35565 195025 35722 195026
  35925 195027 162984 195028 36011 195029 36033 195030 36123 195031 36215 195032 163631 195033
  133124 195034 36299 195035 36284 195036 36336 195037 133342 195038 36564 195039 36664 195040
  165330 195041 165357 195042 37012 195043 37105 195044 37137 195045 165678 195046 37147 195047
  37432 195050 37500 195051 37881 195052 37909 195053 166906 195054 38283 195055 18837 195056
  38327 195057 167287 195058 18918 195059 38595 195060 23986 195061 38691 195062 168261 195063
  168474 195064 19054 195065 19062 195066 38880 195067 168970 195068 19122 195069 169110 195070
  38923 195071 38923 195072 38953 195073 169398 195074 39138 195075 19251 195076 39209 195077
  39335 195078 39362 195079 39422 195080 19406 195081 170800 195082 39698 195083 40000 195084
  40189 195085 19662 195086 19693 195087 40295 195088 172238 195089 19704 195090 172293 195091
  172558 195092 172689 195093 40635 195094 19798 195095 40697 195096 40702 195097 40709 195098
  40719 195099 40726 195100 40763 195101 173568".toList

/-- Characters mapped to several: the character, how many, and the characters. -/
def expansions : List Nat := numbers
  "168 2 32 776 175 2 32 772 180 2 32 769 184 2 32 807 188 3 49 8260 52 189 3 49 8260 50 190 3 51
  8260 52 304 2 105 775 306 2 105 106 307 2 105 106 319 2 108 183 320 2 108 183 329 2 700 110
  452 2 100 382 453 2 100 382 454 2 100 382 455 2 108 106 456 2 108 106 457 2 108 106 458 2 110
  106 459 2 110 106 460 2 110 106 497 2 100 122 498 2 100 122 499 2 100 122 728 2 32 774 729 2
  32 775 730 2 32 778 731 2 32 808 732 2 32 771 733 2 32 779 836 2 776 769 890 2 32 953 900 2 32
  769 901 3 32 776 769 1415 2 1381 1410 1653 2 1575 1652 1654 2 1608 1652 1655 2 1735 1652 1656
  2 1610 1652 2392 2 2325 2364 2393 2 2326 2364 2394 2 2327 2364 2395 2 2332 2364 2396 2 2337
  2364 2397 2 2338 2364 2398 2 2347 2364 2399 2 2351 2364 2524 2 2465 2492 2525 2 2466 2492 2527
  2 2479 2492 2611 2 2610 2620 2614 2 2616 2620 2649 2 2582 2620 2650 2 2583 2620 2651 2 2588
  2620 2654 2 2603 2620 2908 2 2849 2876 2909 2 2850 2876 3635 2 3661 3634 3763 2 3789 3762 3804
  2 3755 3737 3805 2 3755 3745 3907 2 3906 4023 3917 2 3916 4023 3922 2 3921 4023 3927 2 3926
  4023 3932 2 3931 4023 3945 2 3904 4021 3955 2 3953 3954 3957 2 3953 3956 3958 2 4018 3968 3959
  3 4018 3953 3968 3960 2 4019 3968 3961 3 4019 3953 3968 3969 2 3953 3968 3987 2 3986 4023 3997
  2 3996 4023 4002 2 4001 4023 4007 2 4006 4023 4012 2 4011 4023 4025 2 3984 4021 7834 2 97 702
  8064 2 7936 953 8065 2 7937 953 8066 2 7938 953 8067 2 7939 953 8068 2 7940 953 8069 2 7941
  953 8070 2 7942 953 8071 2 7943 953 8072 2 7936 953 8073 2 7937 953 8074 2 7938 953 8075 2
  7939 953 8076 2 7940 953 8077 2 7941 953 8078 2 7942 953 8079 2 7943 953 8080 2 7968 953 8081
  2 7969 953 8082 2 7970 953 8083 2 7971 953 8084 2 7972 953 8085 2 7973 953 8086 2 7974 953
  8087 2 7975 953 8088 2 7968 953 8089 2 7969 953 8090 2 7970 953 8091 2 7971 953 8092 2 7972
  953 8093 2 7973 953 8094 2 7974 953 8095 2 7975 953 8096 2 8032 953 8097 2 8033 953 8098 2
  8034 953 8099 2 8035 953 8100 2 8036 953 8101 2 8037 953 8102 2 8038 953 8103 2 8039 953 8104
  2 8032 953 8105 2 8033 953 8106 2 8034 953 8107 2 8035 953 8108 2 8036 953 8109 2 8037 953
  8110 2 8038 953 8111 2 8039 953 8114 2 8048 953 8115 2 945 953 8116 2 940 953 8119 2 8118 953
  8124 2 945 953 8125 2 32 787 8127 2 32 787 8128 2 32 834 8129 3 32 776 834 8130 2 8052 953
  8131 2 951 953 8132 2 942 953 8135 2 8134 953 8140 2 951 953 8141 3 32 787 768 8142 3 32 787
  769 8143 3 32 787 834 8157 3 32 788 768 8158 3 32 788 769 8159 3 32 788 834 8173 3 32 776 768
  8174 3 32 776 769 8178 2 8060 953 8179 2 969 953 8180 2 974 953 8183 2 8182 953 8188 2 969 953
  8189 2 32 769 8190 2 32 788 8215 2 32 819 8243 2 8242 8242 8244 3 8242 8242 8242 8246 2 8245
  8245 8247 3 8245 8245 8245 8252 2 33 33 8254 2 32 773 8263 2 63 63 8264 2 63 33 8265 2 33 63
  8279 4 8242 8242 8242 8242 8360 2 114 115 8448 3 97 47 99 8449 3 97 47 115 8451 2 176 99 8453
  3 99 47 111 8454 3 99 47 117 8457 2 176 102 8470 2 110 111 8480 2 115 109 8481 3 116 101 108
  8482 2 116 109 8507 3 102 97 120 8528 3 49 8260 55 8529 3 49 8260 57 8530 4 49 8260 49 48 8531
  3 49 8260 51 8532 3 50 8260 51 8533 3 49 8260 53 8534 3 50 8260 53 8535 3 51 8260 53 8536 3 52
  8260 53 8537 3 49 8260 54 8538 3 53 8260 54 8539 3 49 8260 56 8540 3 51 8260 56 8541 3 53 8260
  56 8542 3 55 8260 56 8543 2 49 8260 8545 2 105 105 8546 3 105 105 105 8547 2 105 118 8549 2
  118 105 8550 3 118 105 105 8551 4 118 105 105 105 8552 2 105 120 8554 2 120 105 8555 3 120 105
  105 8561 2 105 105 8562 3 105 105 105 8563 2 105 118 8565 2 118 105 8566 3 118 105 105 8567 4
  118 105 105 105 8568 2 105 120 8570 2 120 105 8571 3 120 105 105 8585 3 48 8260 51 8748 2 8747
  8747 8749 3 8747 8747 8747 8751 2 8750 8750 8752 3 8750 8750 8750 9321 2 49 48 9322 2 49 49
  9323 2 49 50 9324 2 49 51 9325 2 49 52 9326 2 49 53 9327 2 49 54 9328 2 49 55 9329 2 49 56
  9330 2 49 57 9331 2 50 48 9332 3 40 49 41 9333 3 40 50 41 9334 3 40 51 41 9335 3 40 52 41 9336
  3 40 53 41 9337 3 40 54 41 9338 3 40 55 41 9339 3 40 56 41 9340 3 40 57 41 9341 4 40 49 48 41
  9342 4 40 49 49 41 9343 4 40 49 50 41 9344 4 40 49 51 41 9345 4 40 49 52 41 9346 4 40 49 53 41
  9347 4 40 49 54 41 9348 4 40 49 55 41 9349 4 40 49 56 41 9350 4 40 49 57 41 9351 4 40 50 48 41
  9372 3 40 97 41 9373 3 40 98 41 9374 3 40 99 41 9375 3 40 100 41 9376 3 40 101 41 9377 3 40
  102 41 9378 3 40 103 41 9379 3 40 104 41 9380 3 40 105 41 9381 3 40 106 41 9382 3 40 107 41
  9383 3 40 108 41 9384 3 40 109 41 9385 3 40 110 41 9386 3 40 111 41 9387 3 40 112 41 9388 3 40
  113 41 9389 3 40 114 41 9390 3 40 115 41 9391 3 40 116 41 9392 3 40 117 41 9393 3 40 118 41
  9394 3 40 119 41 9395 3 40 120 41 9396 3 40 121 41 9397 3 40 122 41 10764 4 8747 8747 8747
  8747 10868 3 58 58 61 10869 2 61 61 10870 3 61 61 61 10972 2 10973 824 12443 2 32 12441 12444
  2 32 12442 12447 2 12424 12426 12543 2 12467 12488 12800 3 40 4352 41 12801 3 40 4354 41 12802
  3 40 4355 41 12803 3 40 4357 41 12804 3 40 4358 41 12805 3 40 4359 41 12806 3 40 4361 41 12807
  3 40 4363 41 12808 3 40 4364 41 12809 3 40 4366 41 12810 3 40 4367 41 12811 3 40 4368 41 12812
  3 40 4369 41 12813 3 40 4370 41 12814 3 40 44032 41 12815 3 40 45208 41 12816 3 40 45796 41
  12817 3 40 46972 41 12818 3 40 47560 41 12819 3 40 48148 41 12820 3 40 49324 41 12821 3 40
  50500 41 12822 3 40 51088 41 12823 3 40 52264 41 12824 3 40 52852 41 12825 3 40 53440 41 12826
  3 40 54028 41 12827 3 40 54616 41 12828 3 40 51452 41 12829 4 40 50724 51204 41 12830 4 40
  50724 54980 41 12832 3 40 19968 41 12833 3 40 20108 41 12834 3 40 19977 41 12835 3 40 22235 41
  12836 3 40 20116 41 12837 3 40 20845 41 12838 3 40 19971 41 12839 3 40 20843 41 12840 3 40
  20061 41 12841 3 40 21313 41 12842 3 40 26376 41 12843 3 40 28779 41 12844 3 40 27700 41 12845
  3 40 26408 41 12846 3 40 37329 41 12847 3 40 22303 41 12848 3 40 26085 41 12849 3 40 26666 41
  12850 3 40 26377 41 12851 3 40 31038 41 12852 3 40 21517 41 12853 3 40 29305 41 12854 3 40
  36001 41 12855 3 40 31069 41 12856 3 40 21172 41 12857 3 40 20195 41 12858 3 40 21628 41 12859
  3 40 23398 41 12860 3 40 30435 41 12861 3 40 20225 41 12862 3 40 36039 41 12863 3 40 21332 41
  12864 3 40 31085 41 12865 3 40 20241 41 12866 3 40 33258 41 12867 3 40 33267 41 12880 3 112
  116 101 12881 2 50 49 12882 2 50 50 12883 2 50 51 12884 2 50 52 12885 2 50 53 12886 2 50 54
  12887 2 50 55 12888 2 50 56 12889 2 50 57 12890 2 51 48 12891 2 51 49 12892 2 51 50 12893 2 51
  51 12894 2 51 52 12895 2 51 53 12924 2 52280 44256 12925 2 51452 51032 12977 2 51 54 12978 2
  51 55 12979 2 51 56 12980 2 51 57 12981 2 52 48 12982 2 52 49 12983 2 52 50 12984 2 52 51
  12985 2 52 52 12986 2 52 53 12987 2 52 54 12988 2 52 55 12989 2 52 56 12990 2 52 57 12991 2 53
  48 12992 2 49 26376 12993 2 50 26376 12994 2 51 26376 12995 2 52 26376 12996 2 53 26376 12997
  2 54 26376 12998 2 55 26376 12999 2 56 26376 13000 2 57 26376 13001 3 49 48 26376 13002 3 49
  49 26376 13003 3 49 50 26376 13004 2 104 103 13005 3 101 114 103 13006 2 101 118 13007 3 108
  116 100 13055 2 20196 21644 13056 4 12450 12497 12540 12488 13057 4 12450 12523 12501 12449
  13058 4 12450 12531 12506 12450 13059 3 12450 12540 12523 13060 4 12452 12491 12531 12464
  13061 3 12452 12531 12481 13062 3 12454 12457 12531 13063 5 12456 12473 12463 12540 12489
  13064 4 12456 12540 12459 12540 13065 3 12458 12531 12473 13066 3 12458 12540 12512 13067 3
  12459 12452 12522 13068 4 12459 12521 12483 12488 13069 4 12459 12525 12522 12540 13070 3
  12460 12525 12531 13071 3 12460 12531 12510 13072 2 12462 12460 13073 3 12462 12491 12540
  13074 4 12461 12517 12522 12540 13075 4 12462 12523 12480 12540 13076 2 12461 12525 13077 5
  12461 12525 12464 12521 12512 13078 6 12461 12525 12513 12540 12488 12523 13079 5 12461 12525
  12527 12483 12488 13080 3 12464 12521 12512 13081 5 12464 12521 12512 12488 12531 13082 5
  12463 12523 12476 12452 12525 13083 4 12463 12525 12540 12493 13084 3 12465 12540 12473 13085
  3 12467 12523 12490 13086 3 12467 12540 12509 13087 4 12469 12452 12463 12523 13088 5 12469
  12531 12481 12540 12512 13089 4 12471 12522 12531 12464 13090 3 12475 12531 12481 13091 3
  12475 12531 12488 13092 3 12480 12540 12473 13093 2 12487 12471 13094 2 12489 12523 13095 2
  12488 12531 13096 2 12490 12494 13097 3 12494 12483 12488 13098 3 12495 12452 12484 13099 5
  12497 12540 12475 12531 12488 13100 3 12497 12540 12484 13101 4 12496 12540 12524 12523 13102
  5 12500 12450 12473 12488 12523 13103 3 12500 12463 12523 13104 2 12500 12467 13105 2 12499
  12523 13106 5 12501 12449 12521 12483 12489 13107 4 12501 12451 12540 12488 13108 5 12502
  12483 12471 12455 12523 13109 3 12501 12521 12531 13110 5 12504 12463 12479 12540 12523 13111
  2 12506 12477 13112 3 12506 12491 12498 13113 3 12504 12523 12484 13114 3 12506 12531 12473
  13115 3 12506 12540 12472 13116 3 12505 12540 12479 13117 4 12509 12452 12531 12488 13118 3
  12508 12523 12488 13119 2 12507 12531 13120 3 12509 12531 12489 13121 3 12507 12540 12523
  13122 3 12507 12540 12531 13123 4 12510 12452 12463 12525 13124 3 12510 12452 12523 13125 3
  12510 12483 12495 13126 3 12510 12523 12463 13127 5 12510 12531 12471 12519 12531 13128 4
  12511 12463 12525 12531 13129 2 12511 12522 13130 5 12511 12522 12496 12540 12523 13131 2
  12513 12460 13132 4 12513 12460 12488 12531 13133 4 12513 12540 12488 12523 13134 3 12516
  12540 12489 13135 3 12516 12540 12523 13136 3 12518 12450 12531 13137 4 12522 12483 12488
  12523 13138 2 12522 12521 13139 3 12523 12500 12540 13140 4 12523 12540 12502 12523 13141 2
  12524 12512 13142 5 12524 12531 12488 12466 12531 13143 3 12527 12483 12488 13144 2 48 28857
  13145 2 49 28857 13146 2 50 28857 13147 2 51 28857 13148 2 52 28857 13149 2 53 28857 13150 2
  54 28857 13151 2 55 28857 13152 2 56 28857 13153 2 57 28857 13154 3 49 48 28857 13155 3 49 49
  28857 13156 3 49 50 28857 13157 3 49 51 28857 13158 3 49 52 28857 13159 3 49 53 28857 13160 3
  49 54 28857 13161 3 49 55 28857 13162 3 49 56 28857 13163 3 49 57 28857 13164 3 50 48 28857
  13165 3 50 49 28857 13166 3 50 50 28857 13167 3 50 51 28857 13168 3 50 52 28857 13169 3 104
  112 97 13170 2 100 97 13171 2 97 117 13172 3 98 97 114 13173 2 111 118 13174 2 112 99 13175 2
  100 109 13176 3 100 109 50 13177 3 100 109 51 13178 2 105 117 13179 2 24179 25104 13180 2
  26157 21644 13181 2 22823 27491 13182 2 26126 27835 13183 4 26666 24335 20250 31038 13184 2
  112 97 13185 2 110 97 13186 2 956 97 13187 2 109 97 13188 2 107 97 13189 2 107 98 13190 2 109
  98 13191 2 103 98 13192 3 99 97 108 13193 4 107 99 97 108 13194 2 112 102 13195 2 110 102
  13196 2 956 102 13197 2 956 103 13198 2 109 103 13199 2 107 103 13200 2 104 122 13201 3 107
  104 122 13202 3 109 104 122 13203 3 103 104 122 13204 3 116 104 122 13205 2 956 108 13206 2
  109 108 13207 2 100 108 13208 2 107 108 13209 2 102 109 13210 2 110 109 13211 2 956 109 13212
  2 109 109 13213 2 99 109 13214 2 107 109 13215 3 109 109 50 13216 3 99 109 50 13217 2 109 50
  13218 3 107 109 50 13219 3 109 109 51 13220 3 99 109 51 13221 2 109 51 13222 3 107 109 51
  13223 3 109 8725 115 13224 4 109 8725 115 50 13225 2 112 97 13226 3 107 112 97 13227 3 109 112
  97 13228 3 103 112 97 13229 3 114 97 100 13230 5 114 97 100 8725 115 13231 6 114 97 100 8725
  115 50 13232 2 112 115 13233 2 110 115 13234 2 956 115 13235 2 109 115 13236 2 112 118 13237 2
  110 118 13238 2 956 118 13239 2 109 118 13240 2 107 118 13241 2 109 118 13242 2 112 119 13243
  2 110 119 13244 2 956 119 13245 2 109 119 13246 2 107 119 13247 2 109 119 13248 2 107 969
  13249 2 109 969 13251 2 98 113 13252 2 99 99 13253 2 99 100 13254 4 99 8725 107 103 13256 2
  100 98 13257 2 103 121 13258 2 104 97 13259 2 104 112 13260 2 105 110 13261 2 107 107 13262 2
  107 109 13263 2 107 116 13264 2 108 109 13265 2 108 110 13266 3 108 111 103 13267 2 108 120
  13268 2 109 98 13269 3 109 105 108 13270 3 109 111 108 13271 2 112 104 13273 3 112 112 109
  13274 2 112 114 13275 2 115 114 13276 2 115 118 13277 2 119 98 13278 3 118 8725 109 13279 3 97
  8725 109 13280 2 49 26085 13281 2 50 26085 13282 2 51 26085 13283 2 52 26085 13284 2 53 26085
  13285 2 54 26085 13286 2 55 26085 13287 2 56 26085 13288 2 57 26085 13289 3 49 48 26085 13290
  3 49 49 26085 13291 3 49 50 26085 13292 3 49 51 26085 13293 3 49 52 26085 13294 3 49 53 26085
  13295 3 49 54 26085 13296 3 49 55 26085 13297 3 49 56 26085 13298 3 49 57 26085 13299 3 50 48
  26085 13300 3 50 49 26085 13301 3 50 50 26085 13302 3 50 51 26085 13303 3 50 52 26085 13304 3
  50 53 26085 13305 3 50 54 26085 13306 3 50 55 26085 13307 3 50 56 26085 13308 3 50 57 26085
  13309 3 51 48 26085 13310 3 51 49 26085 13311 3 103 97 108 64256 2 102 102 64257 2 102 105
  64258 2 102 108 64259 3 102 102 105 64260 3 102 102 108 64261 2 115 116 64262 2 115 116 64275
  2 1396 1398 64276 2 1396 1381 64277 2 1396 1387 64278 2 1406 1398 64279 2 1396 1389 64285 2
  1497 1460 64287 2 1522 1463 64298 2 1513 1473 64299 2 1513 1474 64300 3 1513 1468 1473 64301 3
  1513 1468 1474 64302 2 1488 1463 64303 2 1488 1464 64304 2 1488 1468 64305 2 1489 1468 64306 2
  1490 1468 64307 2 1491 1468 64308 2 1492 1468 64309 2 1493 1468 64310 2 1494 1468 64312 2 1496
  1468 64313 2 1497 1468 64314 2 1498 1468 64315 2 1499 1468 64316 2 1500 1468 64318 2 1502 1468
  64320 2 1504 1468 64321 2 1505 1468 64323 2 1507 1468 64324 2 1508 1468 64326 2 1510 1468
  64327 2 1511 1468 64328 2 1512 1468 64329 2 1513 1468 64330 2 1514 1468 64331 2 1493 1465
  64332 2 1489 1471 64333 2 1499 1471 64334 2 1508 1471 64335 2 1488 1500 64477 2 1735 1652
  64490 2 1574 1575 64491 2 1574 1575 64492 2 1574 1749 64493 2 1574 1749 64494 2 1574 1608
  64495 2 1574 1608 64496 2 1574 1735 64497 2 1574 1735 64498 2 1574 1734 64499 2 1574 1734
  64500 2 1574 1736 64501 2 1574 1736 64502 2 1574 1744 64503 2 1574 1744 64504 2 1574 1744
  64505 2 1574 1609 64506 2 1574 1609 64507 2 1574 1609 64512 2 1574 1580 64513 2 1574 1581
  64514 2 1574 1605 64515 2 1574 1609 64516 2 1574 1610 64517 2 1576 1580 64518 2 1576 1581
  64519 2 1576 1582 64520 2 1576 1605 64521 2 1576 1609 64522 2 1576 1610 64523 2 1578 1580
  64524 2 1578 1581 64525 2 1578 1582 64526 2 1578 1605 64527 2 1578 1609 64528 2 1578 1610
  64529 2 1579 1580 64530 2 1579 1605 64531 2 1579 1609 64532 2 1579 1610 64533 2 1580 1581
  64534 2 1580 1605 64535 2 1581 1580 64536 2 1581 1605 64537 2 1582 1580 64538 2 1582 1581
  64539 2 1582 1605 64540 2 1587 1580 64541 2 1587 1581 64542 2 1587 1582 64543 2 1587 1605
  64544 2 1589 1581 64545 2 1589 1605 64546 2 1590 1580 64547 2 1590 1581 64548 2 1590 1582
  64549 2 1590 1605 64550 2 1591 1581 64551 2 1591 1605 64552 2 1592 1605 64553 2 1593 1580
  64554 2 1593 1605 64555 2 1594 1580 64556 2 1594 1605 64557 2 1601 1580 64558 2 1601 1581
  64559 2 1601 1582 64560 2 1601 1605 64561 2 1601 1609 64562 2 1601 1610 64563 2 1602 1581
  64564 2 1602 1605 64565 2 1602 1609 64566 2 1602 1610 64567 2 1603 1575 64568 2 1603 1580
  64569 2 1603 1581 64570 2 1603 1582 64571 2 1603 1604 64572 2 1603 1605 64573 2 1603 1609
  64574 2 1603 1610 64575 2 1604 1580 64576 2 1604 1581 64577 2 1604 1582 64578 2 1604 1605
  64579 2 1604 1609 64580 2 1604 1610 64581 2 1605 1580 64582 2 1605 1581 64583 2 1605 1582
  64584 2 1605 1605 64585 2 1605 1609 64586 2 1605 1610 64587 2 1606 1580 64588 2 1606 1581
  64589 2 1606 1582 64590 2 1606 1605 64591 2 1606 1609 64592 2 1606 1610 64593 2 1607 1580
  64594 2 1607 1605 64595 2 1607 1609 64596 2 1607 1610 64597 2 1610 1580 64598 2 1610 1581
  64599 2 1610 1582 64600 2 1610 1605 64601 2 1610 1609 64602 2 1610 1610 64603 2 1584 1648
  64604 2 1585 1648 64605 2 1609 1648 64606 3 32 1612 1617 64607 3 32 1613 1617 64608 3 32 1614
  1617 64609 3 32 1615 1617 64610 3 32 1616 1617 64611 3 32 1617 1648 64612 2 1574 1585 64613 2
  1574 1586 64614 2 1574 1605 64615 2 1574 1606 64616 2 1574 1609 64617 2 1574 1610 64618 2 1576
  1585 64619 2 1576 1586 64620 2 1576 1605 64621 2 1576 1606 64622 2 1576 1609 64623 2 1576 1610
  64624 2 1578 1585 64625 2 1578 1586 64626 2 1578 1605 64627 2 1578 1606 64628 2 1578 1609
  64629 2 1578 1610 64630 2 1579 1585 64631 2 1579 1586 64632 2 1579 1605 64633 2 1579 1606
  64634 2 1579 1609 64635 2 1579 1610 64636 2 1601 1609 64637 2 1601 1610 64638 2 1602 1609
  64639 2 1602 1610 64640 2 1603 1575 64641 2 1603 1604 64642 2 1603 1605 64643 2 1603 1609
  64644 2 1603 1610 64645 2 1604 1605 64646 2 1604 1609 64647 2 1604 1610 64648 2 1605 1575
  64649 2 1605 1605 64650 2 1606 1585 64651 2 1606 1586 64652 2 1606 1605 64653 2 1606 1606
  64654 2 1606 1609 64655 2 1606 1610 64656 2 1609 1648 64657 2 1610 1585 64658 2 1610 1586
  64659 2 1610 1605 64660 2 1610 1606 64661 2 1610 1609 64662 2 1610 1610 64663 2 1574 1580
  64664 2 1574 1581 64665 2 1574 1582 64666 2 1574 1605 64667 2 1574 1607 64668 2 1576 1580
  64669 2 1576 1581 64670 2 1576 1582 64671 2 1576 1605 64672 2 1576 1607 64673 2 1578 1580
  64674 2 1578 1581 64675 2 1578 1582 64676 2 1578 1605 64677 2 1578 1607 64678 2 1579 1605
  64679 2 1580 1581 64680 2 1580 1605 64681 2 1581 1580 64682 2 1581 1605 64683 2 1582 1580
  64684 2 1582 1605 64685 2 1587 1580 64686 2 1587 1581 64687 2 1587 1582 64688 2 1587 1605
  64689 2 1589 1581 64690 2 1589 1582 64691 2 1589 1605 64692 2 1590 1580 64693 2 1590 1581
  64694 2 1590 1582 64695 2 1590 1605 64696 2 1591 1581 64697 2 1592 1605 64698 2 1593 1580
  64699 2 1593 1605 64700 2 1594 1580 64701 2 1594 1605 64702 2 1601 1580 64703 2 1601 1581
  64704 2 1601 1582 64705 2 1601 1605 64706 2 1602 1581 64707 2 1602 1605 64708 2 1603 1580
  64709 2 1603 1581 64710 2 1603 1582 64711 2 1603 1604 64712 2 1603 1605 64713 2 1604 1580
  64714 2 1604 1581 64715 2 1604 1582 64716 2 1604 1605 64717 2 1604 1607 64718 2 1605 1580
  64719 2 1605 1581 64720 2 1605 1582 64721 2 1605 1605 64722 2 1606 1580 64723 2 1606 1581
  64724 2 1606 1582 64725 2 1606 1605 64726 2 1606 1607 64727 2 1607 1580 64728 2 1607 1605
  64729 2 1607 1648 64730 2 1610 1580 64731 2 1610 1581 64732 2 1610 1582 64733 2 1610 1605
  64734 2 1610 1607 64735 2 1574 1605 64736 2 1574 1607 64737 2 1576 1605 64738 2 1576 1607
  64739 2 1578 1605 64740 2 1578 1607 64741 2 1579 1605 64742 2 1579 1607 64743 2 1587 1605
  64744 2 1587 1607 64745 2 1588 1605 64746 2 1588 1607 64747 2 1603 1604 64748 2 1603 1605
  64749 2 1604 1605 64750 2 1606 1605 64751 2 1606 1607 64752 2 1610 1605 64753 2 1610 1607
  64754 3 1600 1614 1617 64755 3 1600 1615 1617 64756 3 1600 1616 1617 64757 2 1591 1609 64758 2
  1591 1610 64759 2 1593 1609 64760 2 1593 1610 64761 2 1594 1609 64762 2 1594 1610 64763 2 1587
  1609 64764 2 1587 1610 64765 2 1588 1609 64766 2 1588 1610 64767 2 1581 1609 64768 2 1581 1610
  64769 2 1580 1609 64770 2 1580 1610 64771 2 1582 1609 64772 2 1582 1610 64773 2 1589 1609
  64774 2 1589 1610 64775 2 1590 1609 64776 2 1590 1610 64777 2 1588 1580 64778 2 1588 1581
  64779 2 1588 1582 64780 2 1588 1605 64781 2 1588 1585 64782 2 1587 1585 64783 2 1589 1585
  64784 2 1590 1585 64785 2 1591 1609 64786 2 1591 1610 64787 2 1593 1609 64788 2 1593 1610
  64789 2 1594 1609 64790 2 1594 1610 64791 2 1587 1609 64792 2 1587 1610 64793 2 1588 1609
  64794 2 1588 1610 64795 2 1581 1609 64796 2 1581 1610 64797 2 1580 1609 64798 2 1580 1610
  64799 2 1582 1609 64800 2 1582 1610 64801 2 1589 1609 64802 2 1589 1610 64803 2 1590 1609
  64804 2 1590 1610 64805 2 1588 1580 64806 2 1588 1581 64807 2 1588 1582 64808 2 1588 1605
  64809 2 1588 1585 64810 2 1587 1585 64811 2 1589 1585 64812 2 1590 1585 64813 2 1588 1580
  64814 2 1588 1581 64815 2 1588 1582 64816 2 1588 1605 64817 2 1587 1607 64818 2 1588 1607
  64819 2 1591 1605 64820 2 1587 1580 64821 2 1587 1581 64822 2 1587 1582 64823 2 1588 1580
  64824 2 1588 1581 64825 2 1588 1582 64826 2 1591 1605 64827 2 1592 1605 64828 2 1575 1611
  64829 2 1575 1611 64848 3 1578 1580 1605 64849 3 1578 1581 1580 64850 3 1578 1581 1580 64851 3
  1578 1581 1605 64852 3 1578 1582 1605 64853 3 1578 1605 1580 64854 3 1578 1605 1581 64855 3
  1578 1605 1582 64856 3 1580 1605 1581 64857 3 1580 1605 1581 64858 3 1581 1605 1610 64859 3
  1581 1605 1609 64860 3 1587 1581 1580 64861 3 1587 1580 1581 64862 3 1587 1580 1609 64863 3
  1587 1605 1581 64864 3 1587 1605 1581 64865 3 1587 1605 1580 64866 3 1587 1605 1605 64867 3
  1587 1605 1605 64868 3 1589 1581 1581 64869 3 1589 1581 1581 64870 3 1589 1605 1605 64871 3
  1588 1581 1605 64872 3 1588 1581 1605 64873 3 1588 1580 1610 64874 3 1588 1605 1582 64875 3
  1588 1605 1582 64876 3 1588 1605 1605 64877 3 1588 1605 1605 64878 3 1590 1581 1609 64879 3
  1590 1582 1605 64880 3 1590 1582 1605 64881 3 1591 1605 1581 64882 3 1591 1605 1581 64883 3
  1591 1605 1605 64884 3 1591 1605 1610 64885 3 1593 1580 1605 64886 3 1593 1605 1605 64887 3
  1593 1605 1605 64888 3 1593 1605 1609 64889 3 1594 1605 1605 64890 3 1594 1605 1610 64891 3
  1594 1605 1609 64892 3 1601 1582 1605 64893 3 1601 1582 1605 64894 3 1602 1605 1581 64895 3
  1602 1605 1605 64896 3 1604 1581 1605 64897 3 1604 1581 1610 64898 3 1604 1581 1609 64899 3
  1604 1580 1580 64900 3 1604 1580 1580 64901 3 1604 1582 1605 64902 3 1604 1582 1605 64903 3
  1604 1605 1581 64904 3 1604 1605 1581 64905 3 1605 1581 1580 64906 3 1605 1581 1605 64907 3
  1605 1581 1610 64908 3 1605 1580 1581 64909 3 1605 1580 1605 64910 3 1605 1582 1580 64911 3
  1605 1582 1605 64914 3 1605 1580 1582 64915 3 1607 1605 1580 64916 3 1607 1605 1605 64917 3
  1606 1581 1605 64918 3 1606 1581 1609 64919 3 1606 1580 1605 64920 3 1606 1580 1605 64921 3
  1606 1580 1609 64922 3 1606 1605 1610 64923 3 1606 1605 1609 64924 3 1610 1605 1605 64925 3
  1610 1605 1605 64926 3 1576 1582 1610 64927 3 1578 1580 1610 64928 3 1578 1580 1609 64929 3
  1578 1582 1610 64930 3 1578 1582 1609 64931 3 1578 1605 1610 64932 3 1578 1605 1609 64933 3
  1580 1605 1610 64934 3 1580 1581 1609 64935 3 1580 1605 1609 64936 3 1587 1582 1609 64937 3
  1589 1581 1610 64938 3 1588 1581 1610 64939 3 1590 1581 1610 64940 3 1604 1580 1610 64941 3
  1604 1605 1610 64942 3 1610 1581 1610 64943 3 1610 1580 1610 64944 3 1610 1605 1610 64945 3
  1605 1605 1610 64946 3 1602 1605 1610 64947 3 1606 1581 1610 64948 3 1602 1605 1581 64949 3
  1604 1581 1605 64950 3 1593 1605 1610 64951 3 1603 1605 1610 64952 3 1606 1580 1581 64953 3
  1605 1582 1610 64954 3 1604 1580 1605 64955 3 1603 1605 1605 64956 3 1604 1580 1605 64957 3
  1606 1580 1581 64958 3 1580 1581 1610 64959 3 1581 1580 1610 64960 3 1605 1580 1610 64961 3
  1601 1605 1610 64962 3 1576 1581 1610 64963 3 1603 1605 1605 64964 3 1593 1580 1605 64965 3
  1589 1605 1605 64966 3 1587 1582 1610 64967 3 1606 1580 1610 65008 3 1589 1604 1746 65009 3
  1602 1604 1746 65010 4 1575 1604 1604 1607 65011 4 1575 1603 1576 1585 65012 4 1605 1581 1605
  1583 65013 4 1589 1604 1593 1605 65014 4 1585 1587 1608 1604 65015 4 1593 1604 1610 1607 65016
  4 1608 1587 1604 1605 65017 3 1589 1604 1609 65018 18 1589 1604 1609 32 1575 1604 1604 1607 32
  1593 1604 1610 1607 32 1608 1587 1604 1605 65019 8 1580 1604 32 1580 1604 1575 1604 1607 65020
  4 1585 1740 1575 1604 65097 2 32 773 65098 2 32 773 65099 2 32 773 65100 2 32 773 65136 2 32
  1611 65137 2 1600 1611 65138 2 32 1612 65140 2 32 1613 65142 2 32 1614 65143 2 1600 1614 65144
  2 32 1615 65145 2 1600 1615 65146 2 32 1616 65147 2 1600 1616 65148 2 32 1617 65149 2 1600
  1617 65150 2 32 1618 65151 2 1600 1618 65269 2 1604 1570 65270 2 1604 1570 65271 2 1604 1571
  65272 2 1604 1571 65273 2 1604 1573 65274 2 1604 1573 65275 2 1604 1575 65276 2 1604 1575
  65507 2 32 772 119134 2 119127 119141 119135 2 119128 119141 119136 3 119128 119141 119150
  119137 3 119128 119141 119151 119138 3 119128 119141 119152 119139 3 119128 119141 119153
  119140 3 119128 119141 119154 119227 2 119225 119141 119228 2 119226 119141 119229 3 119225
  119141 119150 119230 3 119226 119141 119150 119231 3 119225 119141 119151 119232 3 119226
  119141 119151 127233 2 48 44 127234 2 49 44 127235 2 50 44 127236 2 51 44 127237 2 52 44
  127238 2 53 44 127239 2 54 44 127240 2 55 44 127241 2 56 44 127242 2 57 44 127248 3 40 97 41
  127249 3 40 98 41 127250 3 40 99 41 127251 3 40 100 41 127252 3 40 101 41 127253 3 40 102 41
  127254 3 40 103 41 127255 3 40 104 41 127256 3 40 105 41 127257 3 40 106 41 127258 3 40 107 41
  127259 3 40 108 41 127260 3 40 109 41 127261 3 40 110 41 127262 3 40 111 41 127263 3 40 112 41
  127264 3 40 113 41 127265 3 40 114 41 127266 3 40 115 41 127267 3 40 116 41 127268 3 40 117 41
  127269 3 40 118 41 127270 3 40 119 41 127271 3 40 120 41 127272 3 40 121 41 127273 3 40 122 41
  127274 3 12308 115 12309 127277 2 99 100 127278 2 119 122 127306 2 104 118 127307 2 109 118
  127308 2 115 100 127309 2 115 115 127310 3 112 112 118 127311 2 119 99 127338 2 109 99 127339
  2 109 100 127340 2 109 114 127376 2 100 106 127488 2 12411 12363 127489 2 12467 12467 127552 3
  12308 26412 12309 127553 3 12308 19977 12309 127554 3 12308 20108 12309 127555 3 12308 23433
  12309 127556 3 12308 28857 12309 127557 3 12308 25171 12309 127558 3 12308 30423 12309 127559
  3 12308 21213 12309 127560 3 12308 25943 12309".toList

end HostRouting.Idna
