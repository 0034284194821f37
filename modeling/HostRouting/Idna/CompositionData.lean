import HostRouting.Text.Runs

/-!
# Combining classes and compositions

The combining classes and the canonical compositions of the Unicode character database,
as far as they concern characters that are valid in domain names.
-/
namespace HostRouting.Idna

open Text (numbers)

/-- Stretches of characters of one combining class other than zero, three numbers each: the
first character, how many there are, and the class. -/
def combiningClasses : List Nat := numbers
  "768 21 230 789 1 232 790 4 220 794 1 232 795 1 216 796 5 220 801 2 202 803 4 220 807 2 202 809
  11 220 820 5 1 825 4 220 829 10 230 839 3 220 842 3 230 845 2 220 848 3 230 851 4 220 855 1
  230 856 1 232 857 2 220 859 1 230 860 1 233 861 2 234 863 1 233 864 2 234 866 1 233 867 13 230
  1155 5 230 1425 1 220 1426 4 230 1430 1 220 1431 3 230 1434 1 222 1435 1 220 1436 6 230 1442 6
  220 1448 2 230 1450 1 220 1451 2 230 1453 1 222 1454 1 228 1455 1 230 1456 1 10 1457 1 11 1458
  1 12 1459 1 13 1460 1 14 1461 1 15 1462 1 16 1463 1 17 1464 1 18 1465 2 19 1467 1 20 1468 1 21
  1469 1 22 1471 1 23 1473 1 24 1474 1 25 1476 1 230 1477 1 220 1479 1 18 1552 8 230 1560 1 30
  1561 1 31 1562 1 32 1611 1 27 1612 1 28 1613 1 29 1614 1 30 1615 1 31 1616 1 32 1617 1 33 1618
  1 34 1619 2 230 1621 2 220 1623 5 230 1628 1 220 1629 2 230 1631 1 220 1648 1 35 1750 7 230
  1759 4 230 1763 1 220 1764 1 230 1767 2 230 1770 1 220 1771 2 230 1773 1 220 1809 1 36 1840 1
  230 1841 1 220 1842 2 230 1844 1 220 1845 2 230 1847 3 220 1850 1 230 1851 2 220 1853 1 230
  1854 1 220 1855 3 230 1858 1 220 1859 1 230 1860 1 220 1861 1 230 1862 1 220 1863 1 230 1864 1
  220 1865 2 230 2027 7 230 2034 1 220 2035 1 230 2045 1 220 2070 4 230 2075 9 230 2085 3 230
  2089 5 230 2137 3 220 2200 1 230 2201 3 220 2204 4 230 2250 5 230 2255 5 220 2260 14 230 2275
  1 220 2276 2 230 2278 1 220 2279 2 230 2281 1 220 2282 3 230 2285 3 220 2288 1 27 2289 1 28
  2290 1 29 2291 3 230 2294 1 220 2295 2 230 2297 2 220 2299 5 230 2364 1 7 2381 1 9 2385 1 230
  2386 1 220 2387 2 230 2492 1 7 2509 1 9 2558 1 230 2620 1 7 2637 1 9 2748 1 7 2765 1 9 2876 1
  7 2893 1 9 3021 1 9 3132 1 7 3149 1 9 3157 1 84 3158 1 91 3260 1 7 3277 1 9 3387 2 9 3405 1 9
  3530 1 9 3640 2 103 3642 1 9 3656 4 107 3768 2 118 3770 1 9 3784 4 122 3864 2 220 3893 1 220
  3895 1 220 3897 1 216 3953 1 129 3954 1 130 3956 1 132 3962 4 130 3968 1 130 3970 2 230 3972 1
  9 3974 2 230 4038 1 220 4151 1 7 4153 2 9 4237 1 220 4957 3 230 5908 2 9 5940 1 9 6098 1 9
  6109 1 230 6313 1 228 6457 1 222 6458 1 230 6459 1 220 6679 1 230 6680 1 220 6752 1 9 6773 8
  230 6783 1 220 6832 5 230 6837 6 220 6843 2 230 6845 1 220 6847 2 220 6849 2 230 6851 2 220
  6853 5 230 6858 1 220 6859 4 230 6964 1 7 6980 1 9 7019 1 230 7020 1 220 7021 7 230 7082 2 9
  7142 1 7 7154 2 9 7223 1 7 7376 3 230 7380 1 1 7381 5 220 7386 2 230 7388 4 220 7392 1 230
  7394 7 1 7405 1 220 7412 1 230 7416 2 230 7616 2 230 7618 1 220 7619 7 230 7626 1 220 7627 2
  230 7629 1 234 7630 1 214 7631 1 220 7632 1 202 7633 37 230 7670 1 232 7671 2 228 7673 1 220
  7674 1 218 7675 1 230 7676 1 233 7677 1 220 7678 1 230 7679 1 220 8400 2 230 8402 2 1 8404 4
  230 8408 3 1 8411 2 230 8417 1 230 8421 2 1 8423 1 230 8424 1 220 8425 1 230 8426 2 1 8428 4
  220 8432 1 230 11503 3 230 11647 1 9 11744 32 230 12330 1 218 12331 1 228 12332 1 232 12333 1
  222 12334 2 224 12441 2 8 42607 1 230 42612 10 230 42654 2 230 42736 2 230 43014 1 9 43052 1 9
  43204 1 9 43232 18 230 43307 3 220 43347 1 9 43443 1 7 43456 1 9 43696 1 230 43698 2 230 43700
  1 220 43703 2 230 43710 2 230 43713 1 230 43766 1 9 44013 1 9 64286 1 26 65056 7 230 65063 7
  220 65070 2 230 66045 1 220 66272 1 220 66422 5 230 68109 1 220 68111 1 230 68152 1 230 68153
  1 1 68154 1 220 68159 1 9 68325 1 230 68326 1 220 68900 4 230 69291 2 230 69373 3 220 69446 2
  220 69448 3 230 69451 1 220 69452 1 230 69453 4 220 69506 1 230 69507 1 220 69508 1 230 69509
  1 220 69702 1 9 69744 1 9 69759 1 9 69817 1 9 69818 1 7 69888 3 230 69939 2 9 70003 1 7 70080
  1 9 70090 1 7 70197 1 9 70198 1 7 70377 1 7 70378 1 9 70459 2 7 70477 1 9 70502 15 230 70722 1
  9 70726 1 7 70750 1 230 70850 1 9 70851 1 7 71103 1 9 71104 1 7 71231 1 9 71350 1 9 71351 1 7
  71467 1 9 71737 1 9 71738 1 7 71997 2 9 72003 1 7 72160 1 9 72244 1 9 72263 1 9 72345 1 9
  72767 1 9 73026 1 7 73028 2 9 73111 1 9 73537 2 9 92912 5 1 92976 7 230 94192 2 6 113822 1 1
  119141 2 216 119143 3 1 119149 1 226 119150 5 216 119163 8 220 119173 5 230 119178 2 220
  119210 4 230 119362 3 230 122880 144 230 123184 7 230 123566 1 230 123628 4 230 124140 2 232
  124142 1 220 124143 1 230 125136 7 220 125252 6 230 125258 1 7".toList

/-- Two characters and the one that they make, three numbers each. -/
def compositions : List Nat := numbers
  "97 768 224 97 769 225 97 770 226 97 771 227 97 776 228 97 778 229 99 807 231 101 768 232 101
  769 233 101 770 234 101 776 235 105 768 236 105 769 237 105 770 238 105 776 239 110 771 241
  111 768 242 111 769 243 111 770 244 111 771 245 111 776 246 117 768 249 117 769 250 117 770
  251 117 776 252 121 769 253 121 776 255 97 772 257 97 774 259 97 808 261 99 769 263 99 770 265
  99 775 267 99 780 269 100 780 271 101 772 275 101 774 277 101 775 279 101 808 281 101 780 283
  103 770 285 103 774 287 103 775 289 103 807 291 104 770 293 105 771 297 105 772 299 105 774
  301 105 808 303 106 770 309 107 807 311 108 769 314 108 807 316 108 780 318 110 769 324 110
  807 326 110 780 328 111 772 333 111 774 335 111 779 337 114 769 341 114 807 343 114 780 345
  115 769 347 115 770 349 115 807 351 115 780 353 116 807 355 116 780 357 117 771 361 117 772
  363 117 774 365 117 778 367 117 779 369 117 808 371 119 770 373 121 770 375 122 769 378 122
  775 380 122 780 382 111 795 417 117 795 432 97 780 462 105 780 464 111 780 466 117 780 468 252
  772 470 252 769 472 252 780 474 252 768 476 228 772 479 551 772 481 230 772 483 103 780 487
  107 780 489 111 808 491 491 772 493 658 780 495 106 780 496 103 769 501 110 768 505 229 769
  507 230 769 509 248 769 511 97 783 513 97 785 515 101 783 517 101 785 519 105 783 521 105 785
  523 111 783 525 111 785 527 114 783 529 114 785 531 117 783 533 117 785 535 115 806 537 116
  806 539 104 780 543 97 775 551 101 807 553 246 772 555 245 772 557 111 775 559 559 772 561 121
  772 563 970 769 912 945 769 940 949 769 941 951 769 942 953 769 943 971 769 944 953 776 970
  965 776 971 959 769 972 965 769 973 969 769 974 1080 774 1081 1077 768 1104 1077 776 1105 1075
  769 1107 1110 776 1111 1082 769 1116 1080 768 1117 1091 774 1118 1141 783 1143 1078 774 1218
  1072 774 1233 1072 776 1235 1077 774 1239 1241 776 1243 1078 776 1245 1079 776 1247 1080 772
  1251 1080 776 1253 1086 776 1255 1257 776 1259 1101 776 1261 1091 772 1263 1091 776 1265 1091
  779 1267 1095 776 1269 1099 776 1273 1575 1619 1570 1575 1620 1571 1608 1620 1572 1575 1621
  1573 1610 1620 1574 1749 1620 1728 1729 1620 1730 1746 1620 1747 2344 2364 2345 2352 2364 2353
  2355 2364 2356 2503 2494 2507 2503 2519 2508 2887 2902 2888 2887 2878 2891 2887 2903 2892 2962
  3031 2964 3014 3006 3018 3015 3006 3019 3014 3031 3020 3142 3158 3144 3263 3285 3264 3270 3285
  3271 3270 3286 3272 3270 3266 3274 3274 3285 3275 3398 3390 3402 3399 3390 3403 3398 3415 3404
  3545 3530 3546 3545 3535 3548 3548 3530 3549 3545 3551 3550 4133 4142 4134 6917 6965 6918 6919
  6965 6920 6921 6965 6922 6923 6965 6924 6925 6965 6926 6929 6965 6930 6970 6965 6971 6972 6965
  6973 6974 6965 6976 6975 6965 6977 6978 6965 6979 97 805 7681 98 775 7683 98 803 7685 98 817
  7687 231 769 7689 100 775 7691 100 803 7693 100 817 7695 100 807 7697 100 813 7699 275 768
  7701 275 769 7703 101 813 7705 101 816 7707 553 774 7709 102 775 7711 103 772 7713 104 775
  7715 104 803 7717 104 776 7719 104 807 7721 104 814 7723 105 816 7725 239 769 7727 107 769
  7729 107 803 7731 107 817 7733 108 803 7735 7735 772 7737 108 817 7739 108 813 7741 109 769
  7743 109 775 7745 109 803 7747 110 775 7749 110 803 7751 110 817 7753 110 813 7755 245 769
  7757 245 776 7759 333 768 7761 333 769 7763 112 769 7765 112 775 7767 114 775 7769 114 803
  7771 7771 772 7773 114 817 7775 115 775 7777 115 803 7779 347 775 7781 353 775 7783 7779 775
  7785 116 775 7787 116 803 7789 116 817 7791 116 813 7793 117 804 7795 117 816 7797 117 813
  7799 361 769 7801 363 776 7803 118 771 7805 118 803 7807 119 768 7809 119 769 7811 119 776
  7813 119 775 7815 119 803 7817 120 775 7819 120 776 7821 121 775 7823 122 770 7825 122 803
  7827 122 817 7829 104 817 7830 116 776 7831 119 778 7832 121 778 7833 97 803 7841 97 777 7843
  226 769 7845 226 768 7847 226 777 7849 226 771 7851 7841 770 7853 259 769 7855 259 768 7857
  259 777 7859 259 771 7861 7841 774 7863 101 803 7865 101 777 7867 101 771 7869 234 769 7871
  234 768 7873 234 777 7875 234 771 7877 7865 770 7879 105 777 7881 105 803 7883 111 803 7885
  111 777 7887 244 769 7889 244 768 7891 244 777 7893 244 771 7895 7885 770 7897 417 769 7899
  417 768 7901 417 777 7903 417 771 7905 417 803 7907 117 803 7909 117 777 7911 432 769 7913 432
  768 7915 432 777 7917 432 771 7919 432 803 7921 121 768 7923 121 803 7925 121 777 7927 121 771
  7929 945 787 7936 945 788 7937 7936 768 7938 7937 768 7939 7936 769 7940 7937 769 7941 7936
  834 7942 7937 834 7943 949 787 7952 949 788 7953 7952 768 7954 7953 768 7955 7952 769 7956
  7953 769 7957 951 787 7968 951 788 7969 7968 768 7970 7969 768 7971 7968 769 7972 7969 769
  7973 7968 834 7974 7969 834 7975 953 787 7984 953 788 7985 7984 768 7986 7985 768 7987 7984
  769 7988 7985 769 7989 7984 834 7990 7985 834 7991 959 787 8000 959 788 8001 8000 768 8002
  8001 768 8003 8000 769 8004 8001 769 8005 965 787 8016 965 788 8017 8016 768 8018 8017 768
  8019 8016 769 8020 8017 769 8021 8016 834 8022 8017 834 8023 969 787 8032 969 788 8033 8032
  768 8034 8033 768 8035 8032 769 8036 8033 769 8037 8032 834 8038 8033 834 8039 945 768 8048
  949 768 8050 951 768 8052 953 768 8054 959 768 8056 965 768 8058 969 768 8060 945 774 8112 945
  772 8113 945 834 8118 951 834 8134 953 774 8144 953 772 8145 970 768 8146 953 834 8150 970 834
  8151 965 774 8160 965 772 8161 971 768 8162 961 787 8164 961 788 8165 965 834 8166 971 834
  8167 969 834 8182 8592 824 8602 8594 824 8603 8596 824 8622 8656 824 8653 8660 824 8654 8658
  824 8655 8707 824 8708 8712 824 8713 8715 824 8716 8739 824 8740 8741 824 8742 8764 824 8769
  8771 824 8772 8773 824 8775 8776 824 8777 61 824 8800 8801 824 8802 8781 824 8813 60 824 8814
  62 824 8815 8804 824 8816 8805 824 8817 8818 824 8820 8819 824 8821 8822 824 8824 8823 824
  8825 8826 824 8832 8827 824 8833 8834 824 8836 8835 824 8837 8838 824 8840 8839 824 8841 8866
  824 8876 8872 824 8877 8873 824 8878 8875 824 8879 8828 824 8928 8829 824 8929 8849 824 8930
  8850 824 8931 8882 824 8938 8883 824 8939 8884 824 8940 8885 824 8941 12363 12441 12364 12365
  12441 12366 12367 12441 12368 12369 12441 12370 12371 12441 12372 12373 12441 12374 12375
  12441 12376 12377 12441 12378 12379 12441 12380 12381 12441 12382 12383 12441 12384 12385
  12441 12386 12388 12441 12389 12390 12441 12391 12392 12441 12393 12399 12441 12400 12399
  12442 12401 12402 12441 12403 12402 12442 12404 12405 12441 12406 12405 12442 12407 12408
  12441 12409 12408 12442 12410 12411 12441 12412 12411 12442 12413 12358 12441 12436 12445
  12441 12446 12459 12441 12460 12461 12441 12462 12463 12441 12464 12465 12441 12466 12467
  12441 12468 12469 12441 12470 12471 12441 12472 12473 12441 12474 12475 12441 12476 12477
  12441 12478 12479 12441 12480 12481 12441 12482 12484 12441 12485 12486 12441 12487 12488
  12441 12489 12495 12441 12496 12495 12442 12497 12498 12441 12499 12498 12442 12500 12501
  12441 12502 12501 12442 12503 12504 12441 12505 12504 12442 12506 12507 12441 12508 12507
  12442 12509 12454 12441 12532 12527 12441 12535 12528 12441 12536 12529 12441 12537 12530
  12441 12538 12541 12441 12542 67026 775 67017 67034 775 67044 69785 69818 69786 69787 69818
  69788 69797 69818 69803 69937 69927 69934 69938 69927 69935 70471 70462 70475 70471 70487
  70476 70530 70601 70531 70532 70587 70533 70539 70594 70542 70544 70601 70545 70594 70594
  70597 70594 70584 70599 70594 70601 70600 70841 70842 70843 70841 70832 70844 70841 70845
  70846 71096 71087 71098 71097 71087 71099 71989 71984 71992 90398 90398 90401 90398 90409
  90402 90398 90399 90403 90409 90399 90404 90398 90400 90405 90401 90399 90406 90402 90399
  90407 90401 90400 90408 93543 93543 93544 93539 93543 93545 93545 93543 93546".toList

end HostRouting.Idna
