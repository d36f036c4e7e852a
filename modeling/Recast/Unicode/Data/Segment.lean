/-!
The break properties of every code point (Unicode 16.0): grapheme cluster, word and sentence
breaks, and the names of their values.

Each map lists, in increasing order, each code point at which the value changes, in
hexadecimal, followed by the value's short name; `XX` is the default value, `Other`.
-/

namespace Recast.Unicode.Data

/-- Where each grapheme cluster break value starts, with its short name. -/
def graphemeBreakStarts : String := String.join [
  "0 CN a LF b CN d CR e CN 20 XX 7f CN a0 XX ad CN ae XX 300 EX 370 XX 483 EX 48a XX 591 EX ",
  "5be XX 5bf EX 5c0 XX 5c1 EX 5c3 XX 5c4 EX 5c6 XX 5c7 EX 5c8 XX 600 PP 606 XX 610 EX 61b XX ",
  "61c CN 61d XX 64b EX 660 XX 670 EX 671 XX 6d6 EX 6dd PP 6de XX 6df EX 6e5 XX 6e7 EX 6e9 XX ",
  "6ea EX 6ee XX 70f PP 710 XX 711 EX 712 XX 730 EX 74b XX 7a6 EX 7b1 XX 7eb EX 7f4 XX 7fd EX ",
  "7fe XX 816 EX 81a XX 81b EX 824 XX 825 EX 828 XX 829 EX 82e XX 859 EX 85c XX 890 PP 892 XX ",
  "897 EX 8a0 XX 8ca EX 8e2 PP 8e3 EX 903 SM 904 XX 93a EX 93b SM 93c EX 93d XX 93e SM 941 EX ",
  "949 SM 94d EX 94e SM 950 XX 951 EX 958 XX 962 EX 964 XX 981 EX 982 SM 984 XX 9bc EX 9bd XX ",
  "9be EX 9bf SM 9c1 EX 9c5 XX 9c7 SM 9c9 XX 9cb SM 9cd EX 9ce XX 9d7 EX 9d8 XX 9e2 EX 9e4 XX ",
  "9fe EX 9ff XX a01 EX a03 SM a04 XX a3c EX a3d XX a3e SM a41 EX a43 XX a47 EX a49 XX a4b EX ",
  "a4e XX a51 EX a52 XX a70 EX a72 XX a75 EX a76 XX a81 EX a83 SM a84 XX abc EX abd XX abe SM ",
  "ac1 EX ac6 XX ac7 EX ac9 SM aca XX acb SM acd EX ace XX ae2 EX ae4 XX afa EX b00 XX b01 EX ",
  "b02 SM b04 XX b3c EX b3d XX b3e EX b40 SM b41 EX b45 XX b47 SM b49 XX b4b SM b4d EX b4e XX ",
  "b55 EX b58 XX b62 EX b64 XX b82 EX b83 XX bbe EX bbf SM bc0 EX bc1 SM bc3 XX bc6 SM bc9 XX ",
  "bca SM bcd EX bce XX bd7 EX bd8 XX c00 EX c01 SM c04 EX c05 XX c3c EX c3d XX c3e EX c41 SM ",
  "c45 XX c46 EX c49 XX c4a EX c4e XX c55 EX c57 XX c62 EX c64 XX c81 EX c82 SM c84 XX cbc EX ",
  "cbd XX cbe SM cbf EX cc1 SM cc2 EX cc3 SM cc5 XX cc6 EX cc9 XX cca EX cce XX cd5 EX cd7 XX ",
  "ce2 EX ce4 XX cf3 SM cf4 XX d00 EX d02 SM d04 XX d3b EX d3d XX d3e EX d3f SM d41 EX d45 XX ",
  "d46 SM d49 XX d4a SM d4d EX d4e PP d4f XX d57 EX d58 XX d62 EX d64 XX d81 EX d82 SM d84 XX ",
  "dca EX dcb XX dcf EX dd0 SM dd2 EX dd5 XX dd6 EX dd7 XX dd8 SM ddf EX de0 XX df2 SM df4 XX ",
  "e31 EX e32 XX e33 SM e34 EX e3b XX e47 EX e4f XX eb1 EX eb2 XX eb3 SM eb4 EX ebd XX ec8 EX ",
  "ecf XX f18 EX f1a XX f35 EX f36 XX f37 EX f38 XX f39 EX f3a XX f3e SM f40 XX f71 EX f7f SM ",
  "f80 EX f85 XX f86 EX f88 XX f8d EX f98 XX f99 EX fbd XX fc6 EX fc7 XX 102d EX 1031 SM 1032 ",
  "EX 1038 XX 1039 EX 103b SM 103d EX 103f XX 1056 SM 1058 EX 105a XX 105e EX 1061 XX 1071 EX ",
  "1075 XX 1082 EX 1083 XX 1084 SM 1085 EX 1087 XX 108d EX 108e XX 109d EX 109e XX 1100 L ",
  "1160 V 11a8 T 1200 XX 135d EX 1360 XX 1712 EX 1716 XX 1732 EX 1735 XX 1752 EX 1754 XX 1772 ",
  "EX 1774 XX 17b4 EX 17b6 SM 17b7 EX 17be SM 17c6 EX 17c7 SM 17c9 EX 17d4 XX 17dd EX 17de XX ",
  "180b EX 180e CN 180f EX 1810 XX 1885 EX 1887 XX 18a9 EX 18aa XX 1920 EX 1923 SM 1927 EX ",
  "1929 SM 192c XX 1930 SM 1932 EX 1933 SM 1939 EX 193c XX 1a17 EX 1a19 SM 1a1b EX 1a1c XX ",
  "1a55 SM 1a56 EX 1a57 SM 1a58 EX 1a5f XX 1a60 EX 1a61 XX 1a62 EX 1a63 XX 1a65 EX 1a6d SM ",
  "1a73 EX 1a7d XX 1a7f EX 1a80 XX 1ab0 EX 1acf XX 1b00 EX 1b04 SM 1b05 XX 1b34 EX 1b3e SM ",
  "1b42 EX 1b45 XX 1b6b EX 1b74 XX 1b80 EX 1b82 SM 1b83 XX 1ba1 SM 1ba2 EX 1ba6 SM 1ba8 EX ",
  "1bae XX 1be6 EX 1be7 SM 1be8 EX 1bea SM 1bed EX 1bee SM 1bef EX 1bf4 XX 1c24 SM 1c2c EX ",
  "1c34 SM 1c36 EX 1c38 XX 1cd0 EX 1cd3 XX 1cd4 EX 1ce1 SM 1ce2 EX 1ce9 XX 1ced EX 1cee XX ",
  "1cf4 EX 1cf5 XX 1cf7 SM 1cf8 EX 1cfa XX 1dc0 EX 1e00 XX 200b CN 200c EX 200d ZWJ 200e CN ",
  "2010 XX 2028 CN 202f XX 2060 CN 2070 XX 20d0 EX 20f1 XX 2cef EX 2cf2 XX 2d7f EX 2d80 XX ",
  "2de0 EX 2e00 XX 302a EX 3030 XX 3099 EX 309b XX a66f EX a673 XX a674 EX a67e XX a69e EX ",
  "a6a0 XX a6f0 EX a6f2 XX a802 EX a803 XX a806 EX a807 XX a80b EX a80c XX a823 SM a825 EX ",
  "a827 SM a828 XX a82c EX a82d XX a880 SM a882 XX a8b4 SM a8c4 EX a8c6 XX a8e0 EX a8f2 XX ",
  "a8ff EX a900 XX a926 EX a92e XX a947 EX a952 SM a953 EX a954 XX a960 L a97d XX a980 EX ",
  "a983 SM a984 XX a9b3 EX a9b4 SM a9b6 EX a9ba SM a9bc EX a9be SM a9c0 EX a9c1 XX a9e5 EX ",
  "a9e6 XX aa29 EX aa2f SM aa31 EX aa33 SM aa35 EX aa37 XX aa43 EX aa44 XX aa4c EX aa4d SM ",
  "aa4e XX aa7c EX aa7d XX aab0 EX aab1 XX aab2 EX aab5 XX aab7 EX aab9 XX aabe EX aac0 XX ",
  "aac1 EX aac2 XX aaeb SM aaec EX aaee SM aaf0 XX aaf5 SM aaf6 EX aaf7 XX abe3 SM abe5 EX ",
  "abe6 SM abe8 EX abe9 SM abeb XX abec SM abed EX abee XX ac00 LV ac01 LVT ac1c LV ac1d LVT ",
  "ac38 LV ac39 LVT ac54 LV ac55 LVT ac70 LV ac71 LVT ac8c LV ac8d LVT aca8 LV aca9 LVT acc4 ",
  "LV acc5 LVT ace0 LV ace1 LVT acfc LV acfd LVT ad18 LV ad19 LVT ad34 LV ad35 LVT ad50 LV ",
  "ad51 LVT ad6c LV ad6d LVT ad88 LV ad89 LVT ada4 LV ada5 LVT adc0 LV adc1 LVT addc LV addd ",
  "LVT adf8 LV adf9 LVT ae14 LV ae15 LVT ae30 LV ae31 LVT ae4c LV ae4d LVT ae68 LV ae69 LVT ",
  "ae84 LV ae85 LVT aea0 LV aea1 LVT aebc LV aebd LVT aed8 LV aed9 LVT aef4 LV aef5 LVT af10 ",
  "LV af11 LVT af2c LV af2d LVT af48 LV af49 LVT af64 LV af65 LVT af80 LV af81 LVT af9c LV ",
  "af9d LVT afb8 LV afb9 LVT afd4 LV afd5 LVT aff0 LV aff1 LVT b00c LV b00d LVT b028 LV b029 ",
  "LVT b044 LV b045 LVT b060 LV b061 LVT b07c LV b07d LVT b098 LV b099 LVT b0b4 LV b0b5 LVT ",
  "b0d0 LV b0d1 LVT b0ec LV b0ed LVT b108 LV b109 LVT b124 LV b125 LVT b140 LV b141 LVT b15c ",
  "LV b15d LVT b178 LV b179 LVT b194 LV b195 LVT b1b0 LV b1b1 LVT b1cc LV b1cd LVT b1e8 LV ",
  "b1e9 LVT b204 LV b205 LVT b220 LV b221 LVT b23c LV b23d LVT b258 LV b259 LVT b274 LV b275 ",
  "LVT b290 LV b291 LVT b2ac LV b2ad LVT b2c8 LV b2c9 LVT b2e4 LV b2e5 LVT b300 LV b301 LVT ",
  "b31c LV b31d LVT b338 LV b339 LVT b354 LV b355 LVT b370 LV b371 LVT b38c LV b38d LVT b3a8 ",
  "LV b3a9 LVT b3c4 LV b3c5 LVT b3e0 LV b3e1 LVT b3fc LV b3fd LVT b418 LV b419 LVT b434 LV ",
  "b435 LVT b450 LV b451 LVT b46c LV b46d LVT b488 LV b489 LVT b4a4 LV b4a5 LVT b4c0 LV b4c1 ",
  "LVT b4dc LV b4dd LVT b4f8 LV b4f9 LVT b514 LV b515 LVT b530 LV b531 LVT b54c LV b54d LVT ",
  "b568 LV b569 LVT b584 LV b585 LVT b5a0 LV b5a1 LVT b5bc LV b5bd LVT b5d8 LV b5d9 LVT b5f4 ",
  "LV b5f5 LVT b610 LV b611 LVT b62c LV b62d LVT b648 LV b649 LVT b664 LV b665 LVT b680 LV ",
  "b681 LVT b69c LV b69d LVT b6b8 LV b6b9 LVT b6d4 LV b6d5 LVT b6f0 LV b6f1 LVT b70c LV b70d ",
  "LVT b728 LV b729 LVT b744 LV b745 LVT b760 LV b761 LVT b77c LV b77d LVT b798 LV b799 LVT ",
  "b7b4 LV b7b5 LVT b7d0 LV b7d1 LVT b7ec LV b7ed LVT b808 LV b809 LVT b824 LV b825 LVT b840 ",
  "LV b841 LVT b85c LV b85d LVT b878 LV b879 LVT b894 LV b895 LVT b8b0 LV b8b1 LVT b8cc LV ",
  "b8cd LVT b8e8 LV b8e9 LVT b904 LV b905 LVT b920 LV b921 LVT b93c LV b93d LVT b958 LV b959 ",
  "LVT b974 LV b975 LVT b990 LV b991 LVT b9ac LV b9ad LVT b9c8 LV b9c9 LVT b9e4 LV b9e5 LVT ",
  "ba00 LV ba01 LVT ba1c LV ba1d LVT ba38 LV ba39 LVT ba54 LV ba55 LVT ba70 LV ba71 LVT ba8c ",
  "LV ba8d LVT baa8 LV baa9 LVT bac4 LV bac5 LVT bae0 LV bae1 LVT bafc LV bafd LVT bb18 LV ",
  "bb19 LVT bb34 LV bb35 LVT bb50 LV bb51 LVT bb6c LV bb6d LVT bb88 LV bb89 LVT bba4 LV bba5 ",
  "LVT bbc0 LV bbc1 LVT bbdc LV bbdd LVT bbf8 LV bbf9 LVT bc14 LV bc15 LVT bc30 LV bc31 LVT ",
  "bc4c LV bc4d LVT bc68 LV bc69 LVT bc84 LV bc85 LVT bca0 LV bca1 LVT bcbc LV bcbd LVT bcd8 ",
  "LV bcd9 LVT bcf4 LV bcf5 LVT bd10 LV bd11 LVT bd2c LV bd2d LVT bd48 LV bd49 LVT bd64 LV ",
  "bd65 LVT bd80 LV bd81 LVT bd9c LV bd9d LVT bdb8 LV bdb9 LVT bdd4 LV bdd5 LVT bdf0 LV bdf1 ",
  "LVT be0c LV be0d LVT be28 LV be29 LVT be44 LV be45 LVT be60 LV be61 LVT be7c LV be7d LVT ",
  "be98 LV be99 LVT beb4 LV beb5 LVT bed0 LV bed1 LVT beec LV beed LVT bf08 LV bf09 LVT bf24 ",
  "LV bf25 LVT bf40 LV bf41 LVT bf5c LV bf5d LVT bf78 LV bf79 LVT bf94 LV bf95 LVT bfb0 LV ",
  "bfb1 LVT bfcc LV bfcd LVT bfe8 LV bfe9 LVT c004 LV c005 LVT c020 LV c021 LVT c03c LV c03d ",
  "LVT c058 LV c059 LVT c074 LV c075 LVT c090 LV c091 LVT c0ac LV c0ad LVT c0c8 LV c0c9 LVT ",
  "c0e4 LV c0e5 LVT c100 LV c101 LVT c11c LV c11d LVT c138 LV c139 LVT c154 LV c155 LVT c170 ",
  "LV c171 LVT c18c LV c18d LVT c1a8 LV c1a9 LVT c1c4 LV c1c5 LVT c1e0 LV c1e1 LVT c1fc LV ",
  "c1fd LVT c218 LV c219 LVT c234 LV c235 LVT c250 LV c251 LVT c26c LV c26d LVT c288 LV c289 ",
  "LVT c2a4 LV c2a5 LVT c2c0 LV c2c1 LVT c2dc LV c2dd LVT c2f8 LV c2f9 LVT c314 LV c315 LVT ",
  "c330 LV c331 LVT c34c LV c34d LVT c368 LV c369 LVT c384 LV c385 LVT c3a0 LV c3a1 LVT c3bc ",
  "LV c3bd LVT c3d8 LV c3d9 LVT c3f4 LV c3f5 LVT c410 LV c411 LVT c42c LV c42d LVT c448 LV ",
  "c449 LVT c464 LV c465 LVT c480 LV c481 LVT c49c LV c49d LVT c4b8 LV c4b9 LVT c4d4 LV c4d5 ",
  "LVT c4f0 LV c4f1 LVT c50c LV c50d LVT c528 LV c529 LVT c544 LV c545 LVT c560 LV c561 LVT ",
  "c57c LV c57d LVT c598 LV c599 LVT c5b4 LV c5b5 LVT c5d0 LV c5d1 LVT c5ec LV c5ed LVT c608 ",
  "LV c609 LVT c624 LV c625 LVT c640 LV c641 LVT c65c LV c65d LVT c678 LV c679 LVT c694 LV ",
  "c695 LVT c6b0 LV c6b1 LVT c6cc LV c6cd LVT c6e8 LV c6e9 LVT c704 LV c705 LVT c720 LV c721 ",
  "LVT c73c LV c73d LVT c758 LV c759 LVT c774 LV c775 LVT c790 LV c791 LVT c7ac LV c7ad LVT ",
  "c7c8 LV c7c9 LVT c7e4 LV c7e5 LVT c800 LV c801 LVT c81c LV c81d LVT c838 LV c839 LVT c854 ",
  "LV c855 LVT c870 LV c871 LVT c88c LV c88d LVT c8a8 LV c8a9 LVT c8c4 LV c8c5 LVT c8e0 LV ",
  "c8e1 LVT c8fc LV c8fd LVT c918 LV c919 LVT c934 LV c935 LVT c950 LV c951 LVT c96c LV c96d ",
  "LVT c988 LV c989 LVT c9a4 LV c9a5 LVT c9c0 LV c9c1 LVT c9dc LV c9dd LVT c9f8 LV c9f9 LVT ",
  "ca14 LV ca15 LVT ca30 LV ca31 LVT ca4c LV ca4d LVT ca68 LV ca69 LVT ca84 LV ca85 LVT caa0 ",
  "LV caa1 LVT cabc LV cabd LVT cad8 LV cad9 LVT caf4 LV caf5 LVT cb10 LV cb11 LVT cb2c LV ",
  "cb2d LVT cb48 LV cb49 LVT cb64 LV cb65 LVT cb80 LV cb81 LVT cb9c LV cb9d LVT cbb8 LV cbb9 ",
  "LVT cbd4 LV cbd5 LVT cbf0 LV cbf1 LVT cc0c LV cc0d LVT cc28 LV cc29 LVT cc44 LV cc45 LVT ",
  "cc60 LV cc61 LVT cc7c LV cc7d LVT cc98 LV cc99 LVT ccb4 LV ccb5 LVT ccd0 LV ccd1 LVT ccec ",
  "LV cced LVT cd08 LV cd09 LVT cd24 LV cd25 LVT cd40 LV cd41 LVT cd5c LV cd5d LVT cd78 LV ",
  "cd79 LVT cd94 LV cd95 LVT cdb0 LV cdb1 LVT cdcc LV cdcd LVT cde8 LV cde9 LVT ce04 LV ce05 ",
  "LVT ce20 LV ce21 LVT ce3c LV ce3d LVT ce58 LV ce59 LVT ce74 LV ce75 LVT ce90 LV ce91 LVT ",
  "ceac LV cead LVT cec8 LV cec9 LVT cee4 LV cee5 LVT cf00 LV cf01 LVT cf1c LV cf1d LVT cf38 ",
  "LV cf39 LVT cf54 LV cf55 LVT cf70 LV cf71 LVT cf8c LV cf8d LVT cfa8 LV cfa9 LVT cfc4 LV ",
  "cfc5 LVT cfe0 LV cfe1 LVT cffc LV cffd LVT d018 LV d019 LVT d034 LV d035 LVT d050 LV d051 ",
  "LVT d06c LV d06d LVT d088 LV d089 LVT d0a4 LV d0a5 LVT d0c0 LV d0c1 LVT d0dc LV d0dd LVT ",
  "d0f8 LV d0f9 LVT d114 LV d115 LVT d130 LV d131 LVT d14c LV d14d LVT d168 LV d169 LVT d184 ",
  "LV d185 LVT d1a0 LV d1a1 LVT d1bc LV d1bd LVT d1d8 LV d1d9 LVT d1f4 LV d1f5 LVT d210 LV ",
  "d211 LVT d22c LV d22d LVT d248 LV d249 LVT d264 LV d265 LVT d280 LV d281 LVT d29c LV d29d ",
  "LVT d2b8 LV d2b9 LVT d2d4 LV d2d5 LVT d2f0 LV d2f1 LVT d30c LV d30d LVT d328 LV d329 LVT ",
  "d344 LV d345 LVT d360 LV d361 LVT d37c LV d37d LVT d398 LV d399 LVT d3b4 LV d3b5 LVT d3d0 ",
  "LV d3d1 LVT d3ec LV d3ed LVT d408 LV d409 LVT d424 LV d425 LVT d440 LV d441 LVT d45c LV ",
  "d45d LVT d478 LV d479 LVT d494 LV d495 LVT d4b0 LV d4b1 LVT d4cc LV d4cd LVT d4e8 LV d4e9 ",
  "LVT d504 LV d505 LVT d520 LV d521 LVT d53c LV d53d LVT d558 LV d559 LVT d574 LV d575 LVT ",
  "d590 LV d591 LVT d5ac LV d5ad LVT d5c8 LV d5c9 LVT d5e4 LV d5e5 LVT d600 LV d601 LVT d61c ",
  "LV d61d LVT d638 LV d639 LVT d654 LV d655 LVT d670 LV d671 LVT d68c LV d68d LVT d6a8 LV ",
  "d6a9 LVT d6c4 LV d6c5 LVT d6e0 LV d6e1 LVT d6fc LV d6fd LVT d718 LV d719 LVT d734 LV d735 ",
  "LVT d750 LV d751 LVT d76c LV d76d LVT d788 LV d789 LVT d7a4 XX d7b0 V d7c7 XX d7cb T d7fc ",
  "XX fb1e EX fb1f XX fe00 EX fe10 XX fe20 EX fe30 XX feff CN ff00 XX ff9e EX ffa0 XX fff0 CN ",
  "fffc XX 101fd EX 101fe XX 102e0 EX 102e1 XX 10376 EX 1037b XX 10a01 EX 10a04 XX 10a05 EX ",
  "10a07 XX 10a0c EX 10a10 XX 10a38 EX 10a3b XX 10a3f EX 10a40 XX 10ae5 EX 10ae7 XX 10d24 EX ",
  "10d28 XX 10d69 EX 10d6e XX 10eab EX 10ead XX 10efc EX 10f00 XX 10f46 EX 10f51 XX 10f82 EX ",
  "10f86 XX 11000 SM 11001 EX 11002 SM 11003 XX 11038 EX 11047 XX 11070 EX 11071 XX 11073 EX ",
  "11075 XX 1107f EX 11082 SM 11083 XX 110b0 SM 110b3 EX 110b7 SM 110b9 EX 110bb XX 110bd PP ",
  "110be XX 110c2 EX 110c3 XX 110cd PP 110ce XX 11100 EX 11103 XX 11127 EX 1112c SM 1112d EX ",
  "11135 XX 11145 SM 11147 XX 11173 EX 11174 XX 11180 EX 11182 SM 11183 XX 111b3 SM 111b6 EX ",
  "111bf SM 111c0 EX 111c1 XX 111c2 PP 111c4 XX 111c9 EX 111cd XX 111ce SM 111cf EX 111d0 XX ",
  "1122c SM 1122f EX 11232 SM 11234 EX 11238 XX 1123e EX 1123f XX 11241 EX 11242 XX 112df EX ",
  "112e0 SM 112e3 EX 112eb XX 11300 EX 11302 SM 11304 XX 1133b EX 1133d XX 1133e EX 1133f SM ",
  "11340 EX 11341 SM 11345 XX 11347 SM 11349 XX 1134b SM 1134d EX 1134e XX 11357 EX 11358 XX ",
  "11362 SM 11364 XX 11366 EX 1136d XX 11370 EX 11375 XX 113b8 EX 113b9 SM 113bb EX 113c1 XX ",
  "113c2 EX 113c3 XX 113c5 EX 113c6 XX 113c7 EX 113ca SM 113cb XX 113cc SM 113ce EX 113d1 PP ",
  "113d2 EX 113d3 XX 113e1 EX 113e3 XX 11435 SM 11438 EX 11440 SM 11442 EX 11445 SM 11446 EX ",
  "11447 XX 1145e EX 1145f XX 114b0 EX 114b1 SM 114b3 EX 114b9 SM 114ba EX 114bb SM 114bd EX ",
  "114be SM 114bf EX 114c1 SM 114c2 EX 114c4 XX 115af EX 115b0 SM 115b2 EX 115b6 XX 115b8 SM ",
  "115bc EX 115be SM 115bf EX 115c1 XX 115dc EX 115de XX 11630 SM 11633 EX 1163b SM 1163d EX ",
  "1163e SM 1163f EX 11641 XX 116ab EX 116ac SM 116ad EX 116ae SM 116b0 EX 116b8 XX 1171d EX ",
  "1171e SM 1171f EX 11720 XX 11722 EX 11726 SM 11727 EX 1172c XX 1182c SM 1182f EX 11838 SM ",
  "11839 EX 1183b XX 11930 EX 11931 SM 11936 XX 11937 SM 11939 XX 1193b EX 1193f PP 11940 SM ",
  "11941 PP 11942 SM 11943 EX 11944 XX 119d1 SM 119d4 EX 119d8 XX 119da EX 119dc SM 119e0 EX ",
  "119e1 XX 119e4 SM 119e5 XX 11a01 EX 11a0b XX 11a33 EX 11a39 SM 11a3a XX 11a3b EX 11a3f XX ",
  "11a47 EX 11a48 XX 11a51 EX 11a57 SM 11a59 EX 11a5c XX 11a84 PP 11a8a EX 11a97 SM 11a98 EX ",
  "11a9a XX 11c2f SM 11c30 EX 11c37 XX 11c38 EX 11c3e SM 11c3f EX 11c40 XX 11c92 EX 11ca8 XX ",
  "11ca9 SM 11caa EX 11cb1 SM 11cb2 EX 11cb4 SM 11cb5 EX 11cb7 XX 11d31 EX 11d37 XX 11d3a EX ",
  "11d3b XX 11d3c EX 11d3e XX 11d3f EX 11d46 PP 11d47 EX 11d48 XX 11d8a SM 11d8f XX 11d90 EX ",
  "11d92 XX 11d93 SM 11d95 EX 11d96 SM 11d97 EX 11d98 XX 11ef3 EX 11ef5 SM 11ef7 XX 11f00 EX ",
  "11f02 PP 11f03 SM 11f04 XX 11f34 SM 11f36 EX 11f3b XX 11f3e SM 11f40 EX 11f43 XX 11f5a EX ",
  "11f5b XX 13430 CN 13440 EX 13441 XX 13447 EX 13456 XX 1611e EX 1612a SM 1612d EX 16130 XX ",
  "16af0 EX 16af5 XX 16b30 EX 16b37 XX 16d63 V 16d64 XX 16d67 V 16d6b XX 16f4f EX 16f50 XX ",
  "16f51 SM 16f88 XX 16f8f EX 16f93 XX 16fe4 EX 16fe5 XX 16ff0 EX 16ff2 XX 1bc9d EX 1bc9f XX ",
  "1bca0 CN 1bca4 XX 1cf00 EX 1cf2e XX 1cf30 EX 1cf47 XX 1d165 EX 1d16a XX 1d16d EX 1d173 CN ",
  "1d17b EX 1d183 XX 1d185 EX 1d18c XX 1d1aa EX 1d1ae XX 1d242 EX 1d245 XX 1da00 EX 1da37 XX ",
  "1da3b EX 1da6d XX 1da75 EX 1da76 XX 1da84 EX 1da85 XX 1da9b EX 1daa0 XX 1daa1 EX 1dab0 XX ",
  "1e000 EX 1e007 XX 1e008 EX 1e019 XX 1e01b EX 1e022 XX 1e023 EX 1e025 XX 1e026 EX 1e02b XX ",
  "1e08f EX 1e090 XX 1e130 EX 1e137 XX 1e2ae EX 1e2af XX 1e2ec EX 1e2f0 XX 1e4ec EX 1e4f0 XX ",
  "1e5ee EX 1e5f0 XX 1e8d0 EX 1e8d7 XX 1e944 EX 1e94b XX 1f1e6 RI 1f200 XX 1f3fb EX 1f400 XX ",
  "e0000 CN e0020 EX e0080 CN e0100 EX e01f0 CN e1000 XX"]

/-- The names of every grapheme cluster break value: its short name first, then its other names, joined
by `/`. -/
def graphemeBreakNames : String := String.join [
  "CN/Control CR EB/E_Base EBG/E_Base_GAZ EM/E_Modifier EX/Extend GAZ/Glue_After_Zwj L LF LV ",
  "LVT PP/Prepend RI/Regional_Indicator SM/SpacingMark T V XX/Other ZWJ"]

/-- Where each word break value starts, with its short name. -/
def wordBreakStarts : String := String.join [
  "0 XX a LF b NL d CR e XX 20 WSegSpace 21 XX 22 DQ 23 XX 27 SQ 28 XX 2c MN 2d XX 2e MB 2f ",
  "XX 30 NU 3a ML 3b MN 3c XX 41 LE 5b XX 5f EX 60 XX 61 LE 7b XX 85 NL 86 XX aa LE ab XX ad ",
  "FO ae XX b5 LE b6 XX b7 ML b8 LE b9 XX ba LE bb XX c0 LE d7 XX d8 LE f7 XX f8 LE 2d8 XX ",
  "2de LE 300 Extend 370 LE 375 XX 376 LE 378 XX 37a LE 37e MN 37f LE 380 XX 386 LE 387 ML ",
  "388 LE 38b XX 38c LE 38d XX 38e LE 3a2 XX 3a3 LE 3f6 XX 3f7 LE 482 XX 483 Extend 48a LE ",
  "530 XX 531 LE 557 XX 559 LE 55d XX 55e LE 55f ML 560 LE 589 MN 58a LE 58b XX 591 Extend ",
  "5be XX 5bf Extend 5c0 XX 5c1 Extend 5c3 XX 5c4 Extend 5c6 XX 5c7 Extend 5c8 XX 5d0 HL 5eb ",
  "XX 5ef HL 5f3 LE 5f4 ML 5f5 XX 600 NU 606 XX 60c MN 60e XX 610 Extend 61b XX 61c FO 61d XX ",
  "620 LE 64b Extend 660 NU 66a XX 66b NU 66c MN 66d XX 66e LE 670 Extend 671 LE 6d4 XX 6d5 ",
  "LE 6d6 Extend 6dd NU 6de XX 6df Extend 6e5 LE 6e7 Extend 6e9 XX 6ea Extend 6ee LE 6f0 NU ",
  "6fa LE 6fd XX 6ff LE 700 XX 70f LE 711 Extend 712 LE 730 Extend 74b XX 74d LE 7a6 Extend ",
  "7b1 LE 7b2 XX 7c0 NU 7ca LE 7eb Extend 7f4 LE 7f6 XX 7f8 MN 7f9 XX 7fa LE 7fb XX 7fd ",
  "Extend 7fe XX 800 LE 816 Extend 81a LE 81b Extend 824 LE 825 Extend 828 LE 829 Extend 82e ",
  "XX 840 LE 859 Extend 85c XX 860 LE 86b XX 870 LE 888 XX 889 LE 88f XX 890 NU 892 XX 897 ",
  "Extend 8a0 LE 8ca Extend 8e2 NU 8e3 Extend 904 LE 93a Extend 93d LE 93e Extend 950 LE 951 ",
  "Extend 958 LE 962 Extend 964 XX 966 NU 970 XX 971 LE 981 Extend 984 XX 985 LE 98d XX 98f ",
  "LE 991 XX 993 LE 9a9 XX 9aa LE 9b1 XX 9b2 LE 9b3 XX 9b6 LE 9ba XX 9bc Extend 9bd LE 9be ",
  "Extend 9c5 XX 9c7 Extend 9c9 XX 9cb Extend 9ce LE 9cf XX 9d7 Extend 9d8 XX 9dc LE 9de XX ",
  "9df LE 9e2 Extend 9e4 XX 9e6 NU 9f0 LE 9f2 XX 9fc LE 9fd XX 9fe Extend 9ff XX a01 Extend ",
  "a04 XX a05 LE a0b XX a0f LE a11 XX a13 LE a29 XX a2a LE a31 XX a32 LE a34 XX a35 LE a37 XX ",
  "a38 LE a3a XX a3c Extend a3d XX a3e Extend a43 XX a47 Extend a49 XX a4b Extend a4e XX a51 ",
  "Extend a52 XX a59 LE a5d XX a5e LE a5f XX a66 NU a70 Extend a72 LE a75 Extend a76 XX a81 ",
  "Extend a84 XX a85 LE a8e XX a8f LE a92 XX a93 LE aa9 XX aaa LE ab1 XX ab2 LE ab4 XX ab5 LE ",
  "aba XX abc Extend abd LE abe Extend ac6 XX ac7 Extend aca XX acb Extend ace XX ad0 LE ad1 ",
  "XX ae0 LE ae2 Extend ae4 XX ae6 NU af0 XX af9 LE afa Extend b00 XX b01 Extend b04 XX b05 ",
  "LE b0d XX b0f LE b11 XX b13 LE b29 XX b2a LE b31 XX b32 LE b34 XX b35 LE b3a XX b3c Extend ",
  "b3d LE b3e Extend b45 XX b47 Extend b49 XX b4b Extend b4e XX b55 Extend b58 XX b5c LE b5e ",
  "XX b5f LE b62 Extend b64 XX b66 NU b70 XX b71 LE b72 XX b82 Extend b83 LE b84 XX b85 LE ",
  "b8b XX b8e LE b91 XX b92 LE b96 XX b99 LE b9b XX b9c LE b9d XX b9e LE ba0 XX ba3 LE ba5 XX ",
  "ba8 LE bab XX bae LE bba XX bbe Extend bc3 XX bc6 Extend bc9 XX bca Extend bce XX bd0 LE ",
  "bd1 XX bd7 Extend bd8 XX be6 NU bf0 XX c00 Extend c05 LE c0d XX c0e LE c11 XX c12 LE c29 ",
  "XX c2a LE c3a XX c3c Extend c3d LE c3e Extend c45 XX c46 Extend c49 XX c4a Extend c4e XX ",
  "c55 Extend c57 XX c58 LE c5b XX c5d LE c5e XX c60 LE c62 Extend c64 XX c66 NU c70 XX c80 ",
  "LE c81 Extend c84 XX c85 LE c8d XX c8e LE c91 XX c92 LE ca9 XX caa LE cb4 XX cb5 LE cba XX ",
  "cbc Extend cbd LE cbe Extend cc5 XX cc6 Extend cc9 XX cca Extend cce XX cd5 Extend cd7 XX ",
  "cdd LE cdf XX ce0 LE ce2 Extend ce4 XX ce6 NU cf0 XX cf1 LE cf3 Extend cf4 XX d00 Extend ",
  "d04 LE d0d XX d0e LE d11 XX d12 LE d3b Extend d3d LE d3e Extend d45 XX d46 Extend d49 XX ",
  "d4a Extend d4e LE d4f XX d54 LE d57 Extend d58 XX d5f LE d62 Extend d64 XX d66 NU d70 XX ",
  "d7a LE d80 XX d81 Extend d84 XX d85 LE d97 XX d9a LE db2 XX db3 LE dbc XX dbd LE dbe XX ",
  "dc0 LE dc7 XX dca Extend dcb XX dcf Extend dd5 XX dd6 Extend dd7 XX dd8 Extend de0 XX de6 ",
  "NU df0 XX df2 Extend df4 XX e31 Extend e32 XX e34 Extend e3b XX e47 Extend e4f XX e50 NU ",
  "e5a XX eb1 Extend eb2 XX eb4 Extend ebd XX ec8 Extend ecf XX ed0 NU eda XX f00 LE f01 XX ",
  "f18 Extend f1a XX f20 NU f2a XX f35 Extend f36 XX f37 Extend f38 XX f39 Extend f3a XX f3e ",
  "Extend f40 LE f48 XX f49 LE f6d XX f71 Extend f85 XX f86 Extend f88 LE f8d Extend f98 XX ",
  "f99 Extend fbd XX fc6 Extend fc7 XX 102b Extend 103f XX 1040 NU 104a XX 1056 Extend 105a ",
  "XX 105e Extend 1061 XX 1062 Extend 1065 XX 1067 Extend 106e XX 1071 Extend 1075 XX 1082 ",
  "Extend 108e XX 108f Extend 1090 NU 109a Extend 109e XX 10a0 LE 10c6 XX 10c7 LE 10c8 XX ",
  "10cd LE 10ce XX 10d0 LE 10fb XX 10fc LE 1249 XX 124a LE 124e XX 1250 LE 1257 XX 1258 LE ",
  "1259 XX 125a LE 125e XX 1260 LE 1289 XX 128a LE 128e XX 1290 LE 12b1 XX 12b2 LE 12b6 XX ",
  "12b8 LE 12bf XX 12c0 LE 12c1 XX 12c2 LE 12c6 XX 12c8 LE 12d7 XX 12d8 LE 1311 XX 1312 LE ",
  "1316 XX 1318 LE 135b XX 135d Extend 1360 XX 1380 LE 1390 XX 13a0 LE 13f6 XX 13f8 LE 13fe ",
  "XX 1401 LE 166d XX 166f LE 1680 WSegSpace 1681 LE 169b XX 16a0 LE 16eb XX 16ee LE 16f9 XX ",
  "1700 LE 1712 Extend 1716 XX 171f LE 1732 Extend 1735 XX 1740 LE 1752 Extend 1754 XX 1760 ",
  "LE 176d XX 176e LE 1771 XX 1772 Extend 1774 XX 17b4 Extend 17d4 XX 17dd Extend 17de XX ",
  "17e0 NU 17ea XX 180b Extend 180e FO 180f Extend 1810 NU 181a XX 1820 LE 1879 XX 1880 LE ",
  "1885 Extend 1887 LE 18a9 Extend 18aa LE 18ab XX 18b0 LE 18f6 XX 1900 LE 191f XX 1920 ",
  "Extend 192c XX 1930 Extend 193c XX 1946 NU 1950 XX 19d0 NU 19db XX 1a00 LE 1a17 Extend ",
  "1a1c XX 1a55 Extend 1a5f XX 1a60 Extend 1a7d XX 1a7f Extend 1a80 NU 1a8a XX 1a90 NU 1a9a ",
  "XX 1ab0 Extend 1acf XX 1b00 Extend 1b05 LE 1b34 Extend 1b45 LE 1b4d XX 1b50 NU 1b5a XX ",
  "1b6b Extend 1b74 XX 1b80 Extend 1b83 LE 1ba1 Extend 1bae LE 1bb0 NU 1bba LE 1be6 Extend ",
  "1bf4 XX 1c00 LE 1c24 Extend 1c38 XX 1c40 NU 1c4a XX 1c4d LE 1c50 NU 1c5a LE 1c7e XX 1c80 ",
  "LE 1c8b XX 1c90 LE 1cbb XX 1cbd LE 1cc0 XX 1cd0 Extend 1cd3 XX 1cd4 Extend 1ce9 LE 1ced ",
  "Extend 1cee LE 1cf4 Extend 1cf5 LE 1cf7 Extend 1cfa LE 1cfb XX 1d00 LE 1dc0 Extend 1e00 LE ",
  "1f16 XX 1f18 LE 1f1e XX 1f20 LE 1f46 XX 1f48 LE 1f4e XX 1f50 LE 1f58 XX 1f59 LE 1f5a XX ",
  "1f5b LE 1f5c XX 1f5d LE 1f5e XX 1f5f LE 1f7e XX 1f80 LE 1fb5 XX 1fb6 LE 1fbd XX 1fbe LE ",
  "1fbf XX 1fc2 LE 1fc5 XX 1fc6 LE 1fcd XX 1fd0 LE 1fd4 XX 1fd6 LE 1fdc XX 1fe0 LE 1fed XX ",
  "1ff2 LE 1ff5 XX 1ff6 LE 1ffd XX 2000 WSegSpace 2007 XX 2008 WSegSpace 200b XX 200c Extend ",
  "200d ZWJ 200e FO 2010 XX 2018 MB 201a XX 2024 MB 2025 XX 2027 ML 2028 NL 202a FO 202f EX ",
  "2030 XX 203f EX 2041 XX 2044 MN 2045 XX 2054 EX 2055 XX 205f WSegSpace 2060 FO 2065 XX ",
  "2066 FO 2070 XX 2071 LE 2072 XX 207f LE 2080 XX 2090 LE 209d XX 20d0 Extend 20f1 XX 2102 ",
  "LE 2103 XX 2107 LE 2108 XX 210a LE 2114 XX 2115 LE 2116 XX 2119 LE 211e XX 2124 LE 2125 XX ",
  "2126 LE 2127 XX 2128 LE 2129 XX 212a LE 212e XX 212f LE 213a XX 213c LE 2140 XX 2145 LE ",
  "214a XX 214e LE 214f XX 2160 LE 2189 XX 24b6 LE 24ea XX 2c00 LE 2ce5 XX 2ceb LE 2cef ",
  "Extend 2cf2 LE 2cf4 XX 2d00 LE 2d26 XX 2d27 LE 2d28 XX 2d2d LE 2d2e XX 2d30 LE 2d68 XX ",
  "2d6f LE 2d70 XX 2d7f Extend 2d80 LE 2d97 XX 2da0 LE 2da7 XX 2da8 LE 2daf XX 2db0 LE 2db7 ",
  "XX 2db8 LE 2dbf XX 2dc0 LE 2dc7 XX 2dc8 LE 2dcf XX 2dd0 LE 2dd7 XX 2dd8 LE 2ddf XX 2de0 ",
  "Extend 2e00 XX 2e2f LE 2e30 XX 3000 WSegSpace 3001 XX 3005 LE 3006 XX 302a Extend 3030 XX ",
  "3031 KA 3036 XX 303b LE 303d XX 3099 Extend 309b KA 309d XX 30a0 KA 30fb XX 30fc KA 3100 ",
  "XX 3105 LE 3130 XX 3131 LE 318f XX 31a0 LE 31c0 XX 31f0 KA 3200 XX 32d0 KA 32ff XX 3300 KA ",
  "3358 XX a000 LE a48d XX a4d0 LE a4fe XX a500 LE a60d XX a610 LE a620 NU a62a LE a62c XX ",
  "a640 LE a66f Extend a673 XX a674 Extend a67e XX a67f LE a69e Extend a6a0 LE a6f0 Extend ",
  "a6f2 XX a708 LE a7ce XX a7d0 LE a7d2 XX a7d3 LE a7d4 XX a7d5 LE a7dd XX a7f2 LE a802 ",
  "Extend a803 LE a806 Extend a807 LE a80b Extend a80c LE a823 Extend a828 XX a82c Extend ",
  "a82d XX a840 LE a874 XX a880 Extend a882 LE a8b4 Extend a8c6 XX a8d0 NU a8da XX a8e0 ",
  "Extend a8f2 LE a8f8 XX a8fb LE a8fc XX a8fd LE a8ff Extend a900 NU a90a LE a926 Extend ",
  "a92e XX a930 LE a947 Extend a954 XX a960 LE a97d XX a980 Extend a984 LE a9b3 Extend a9c1 ",
  "XX a9cf LE a9d0 NU a9da XX a9e5 Extend a9e6 XX a9f0 NU a9fa XX aa00 LE aa29 Extend aa37 XX ",
  "aa40 LE aa43 Extend aa44 LE aa4c Extend aa4e XX aa50 NU aa5a XX aa7b Extend aa7e XX aab0 ",
  "Extend aab1 XX aab2 Extend aab5 XX aab7 Extend aab9 XX aabe Extend aac0 XX aac1 Extend ",
  "aac2 XX aae0 LE aaeb Extend aaf0 XX aaf2 LE aaf5 Extend aaf7 XX ab01 LE ab07 XX ab09 LE ",
  "ab0f XX ab11 LE ab17 XX ab20 LE ab27 XX ab28 LE ab2f XX ab30 LE ab6a XX ab70 LE abe3 ",
  "Extend abeb XX abec Extend abee XX abf0 NU abfa XX ac00 LE d7a4 XX d7b0 LE d7c7 XX d7cb LE ",
  "d7fc XX fb00 LE fb07 XX fb13 LE fb18 XX fb1d HL fb1e Extend fb1f HL fb29 XX fb2a HL fb37 ",
  "XX fb38 HL fb3d XX fb3e HL fb3f XX fb40 HL fb42 XX fb43 HL fb45 XX fb46 HL fb50 LE fbb2 XX ",
  "fbd3 LE fd3e XX fd50 LE fd90 XX fd92 LE fdc8 XX fdf0 LE fdfc XX fe00 Extend fe10 XX fe13 ",
  "ML fe14 XX fe20 Extend fe30 XX fe33 EX fe35 XX fe4d EX fe50 MN fe51 XX fe52 MB fe53 XX ",
  "fe54 MN fe55 ML fe56 XX fe70 LE fe75 XX fe76 LE fefd XX feff FO ff00 XX ff07 MB ff08 XX ",
  "ff0c MN ff0d XX ff0e MB ff0f XX ff10 NU ff1a ML ff1b MN ff1c XX ff21 LE ff3b XX ff3f EX ",
  "ff40 XX ff41 LE ff5b XX ff66 KA ff9e Extend ffa0 LE ffbf XX ffc2 LE ffc8 XX ffca LE ffd0 ",
  "XX ffd2 LE ffd8 XX ffda LE ffdd XX fff9 FO fffc XX 10000 LE 1000c XX 1000d LE 10027 XX ",
  "10028 LE 1003b XX 1003c LE 1003e XX 1003f LE 1004e XX 10050 LE 1005e XX 10080 LE 100fb XX ",
  "10140 LE 10175 XX 101fd Extend 101fe XX 10280 LE 1029d XX 102a0 LE 102d1 XX 102e0 Extend ",
  "102e1 XX 10300 LE 10320 XX 1032d LE 1034b XX 10350 LE 10376 Extend 1037b XX 10380 LE 1039e ",
  "XX 103a0 LE 103c4 XX 103c8 LE 103d0 XX 103d1 LE 103d6 XX 10400 LE 1049e XX 104a0 NU 104aa ",
  "XX 104b0 LE 104d4 XX 104d8 LE 104fc XX 10500 LE 10528 XX 10530 LE 10564 XX 10570 LE 1057b ",
  "XX 1057c LE 1058b XX 1058c LE 10593 XX 10594 LE 10596 XX 10597 LE 105a2 XX 105a3 LE 105b2 ",
  "XX 105b3 LE 105ba XX 105bb LE 105bd XX 105c0 LE 105f4 XX 10600 LE 10737 XX 10740 LE 10756 ",
  "XX 10760 LE 10768 XX 10780 LE 10786 XX 10787 LE 107b1 XX 107b2 LE 107bb XX 10800 LE 10806 ",
  "XX 10808 LE 10809 XX 1080a LE 10836 XX 10837 LE 10839 XX 1083c LE 1083d XX 1083f LE 10856 ",
  "XX 10860 LE 10877 XX 10880 LE 1089f XX 108e0 LE 108f3 XX 108f4 LE 108f6 XX 10900 LE 10916 ",
  "XX 10920 LE 1093a XX 10980 LE 109b8 XX 109be LE 109c0 XX 10a00 LE 10a01 Extend 10a04 XX ",
  "10a05 Extend 10a07 XX 10a0c Extend 10a10 LE 10a14 XX 10a15 LE 10a18 XX 10a19 LE 10a36 XX ",
  "10a38 Extend 10a3b XX 10a3f Extend 10a40 XX 10a60 LE 10a7d XX 10a80 LE 10a9d XX 10ac0 LE ",
  "10ac8 XX 10ac9 LE 10ae5 Extend 10ae7 XX 10b00 LE 10b36 XX 10b40 LE 10b56 XX 10b60 LE 10b73 ",
  "XX 10b80 LE 10b92 XX 10c00 LE 10c49 XX 10c80 LE 10cb3 XX 10cc0 LE 10cf3 XX 10d00 LE 10d24 ",
  "Extend 10d28 XX 10d30 NU 10d3a XX 10d40 NU 10d4a LE 10d66 XX 10d69 Extend 10d6e XX 10d6f ",
  "LE 10d86 XX 10e80 LE 10eaa XX 10eab Extend 10ead XX 10eb0 LE 10eb2 XX 10ec2 LE 10ec5 XX ",
  "10efc Extend 10f00 LE 10f1d XX 10f27 LE 10f28 XX 10f30 LE 10f46 Extend 10f51 XX 10f70 LE ",
  "10f82 Extend 10f86 XX 10fb0 LE 10fc5 XX 10fe0 LE 10ff7 XX 11000 Extend 11003 LE 11038 ",
  "Extend 11047 XX 11066 NU 11070 Extend 11071 LE 11073 Extend 11075 LE 11076 XX 1107f Extend ",
  "11083 LE 110b0 Extend 110bb XX 110bd NU 110be XX 110c2 Extend 110c3 XX 110cd NU 110ce XX ",
  "110d0 LE 110e9 XX 110f0 NU 110fa XX 11100 Extend 11103 LE 11127 Extend 11135 XX 11136 NU ",
  "11140 XX 11144 LE 11145 Extend 11147 LE 11148 XX 11150 LE 11173 Extend 11174 XX 11176 LE ",
  "11177 XX 11180 Extend 11183 LE 111b3 Extend 111c1 LE 111c5 XX 111c9 Extend 111cd XX 111ce ",
  "Extend 111d0 NU 111da LE 111db XX 111dc LE 111dd XX 11200 LE 11212 XX 11213 LE 1122c ",
  "Extend 11238 XX 1123e Extend 1123f LE 11241 Extend 11242 XX 11280 LE 11287 XX 11288 LE ",
  "11289 XX 1128a LE 1128e XX 1128f LE 1129e XX 1129f LE 112a9 XX 112b0 LE 112df Extend 112eb ",
  "XX 112f0 NU 112fa XX 11300 Extend 11304 XX 11305 LE 1130d XX 1130f LE 11311 XX 11313 LE ",
  "11329 XX 1132a LE 11331 XX 11332 LE 11334 XX 11335 LE 1133a XX 1133b Extend 1133d LE 1133e ",
  "Extend 11345 XX 11347 Extend 11349 XX 1134b Extend 1134e XX 11350 LE 11351 XX 11357 Extend ",
  "11358 XX 1135d LE 11362 Extend 11364 XX 11366 Extend 1136d XX 11370 Extend 11375 XX 11380 ",
  "LE 1138a XX 1138b LE 1138c XX 1138e LE 1138f XX 11390 LE 113b6 XX 113b7 LE 113b8 Extend ",
  "113c1 XX 113c2 Extend 113c3 XX 113c5 Extend 113c6 XX 113c7 Extend 113cb XX 113cc Extend ",
  "113d1 LE 113d2 Extend 113d3 LE 113d4 XX 113e1 Extend 113e3 XX 11400 LE 11435 Extend 11447 ",
  "LE 1144b XX 11450 NU 1145a XX 1145e Extend 1145f LE 11462 XX 11480 LE 114b0 Extend 114c4 ",
  "LE 114c6 XX 114c7 LE 114c8 XX 114d0 NU 114da XX 11580 LE 115af Extend 115b6 XX 115b8 ",
  "Extend 115c1 XX 115d8 LE 115dc Extend 115de XX 11600 LE 11630 Extend 11641 XX 11644 LE ",
  "11645 XX 11650 NU 1165a XX 11680 LE 116ab Extend 116b8 LE 116b9 XX 116c0 NU 116ca XX 116d0 ",
  "NU 116e4 XX 1171d Extend 1172c XX 11730 NU 1173a XX 11800 LE 1182c Extend 1183b XX 118a0 ",
  "LE 118e0 NU 118ea XX 118ff LE 11907 XX 11909 LE 1190a XX 1190c LE 11914 XX 11915 LE 11917 ",
  "XX 11918 LE 11930 Extend 11936 XX 11937 Extend 11939 XX 1193b Extend 1193f LE 11940 Extend ",
  "11941 LE 11942 Extend 11944 XX 11950 NU 1195a XX 119a0 LE 119a8 XX 119aa LE 119d1 Extend ",
  "119d8 XX 119da Extend 119e1 LE 119e2 XX 119e3 LE 119e4 Extend 119e5 XX 11a00 LE 11a01 ",
  "Extend 11a0b LE 11a33 Extend 11a3a LE 11a3b Extend 11a3f XX 11a47 Extend 11a48 XX 11a50 LE ",
  "11a51 Extend 11a5c LE 11a8a Extend 11a9a XX 11a9d LE 11a9e XX 11ab0 LE 11af9 XX 11bc0 LE ",
  "11be1 XX 11bf0 NU 11bfa XX 11c00 LE 11c09 XX 11c0a LE 11c2f Extend 11c37 XX 11c38 Extend ",
  "11c40 LE 11c41 XX 11c50 NU 11c5a XX 11c72 LE 11c90 XX 11c92 Extend 11ca8 XX 11ca9 Extend ",
  "11cb7 XX 11d00 LE 11d07 XX 11d08 LE 11d0a XX 11d0b LE 11d31 Extend 11d37 XX 11d3a Extend ",
  "11d3b XX 11d3c Extend 11d3e XX 11d3f Extend 11d46 LE 11d47 Extend 11d48 XX 11d50 NU 11d5a ",
  "XX 11d60 LE 11d66 XX 11d67 LE 11d69 XX 11d6a LE 11d8a Extend 11d8f XX 11d90 Extend 11d92 ",
  "XX 11d93 Extend 11d98 LE 11d99 XX 11da0 NU 11daa XX 11ee0 LE 11ef3 Extend 11ef7 XX 11f00 ",
  "Extend 11f02 LE 11f03 Extend 11f04 LE 11f11 XX 11f12 LE 11f34 Extend 11f3b XX 11f3e Extend ",
  "11f43 XX 11f50 NU 11f5a Extend 11f5b XX 11fb0 LE 11fb1 XX 12000 LE 1239a XX 12400 LE 1246f ",
  "XX 12480 LE 12544 XX 12f90 LE 12ff1 XX 13000 LE 13430 FO 13440 Extend 13441 LE 13447 ",
  "Extend 13456 XX 13460 LE 143fb XX 14400 LE 14647 XX 16100 LE 1611e Extend 16130 NU 1613a ",
  "XX 16800 LE 16a39 XX 16a40 LE 16a5f XX 16a60 NU 16a6a XX 16a70 LE 16abf XX 16ac0 NU 16aca ",
  "XX 16ad0 LE 16aee XX 16af0 Extend 16af5 XX 16b00 LE 16b30 Extend 16b37 XX 16b40 LE 16b44 ",
  "XX 16b50 NU 16b5a XX 16b63 LE 16b78 XX 16b7d LE 16b90 XX 16d40 LE 16d6d XX 16d70 NU 16d7a ",
  "XX 16e40 LE 16e80 XX 16f00 LE 16f4b XX 16f4f Extend 16f50 LE 16f51 Extend 16f88 XX 16f8f ",
  "Extend 16f93 LE 16fa0 XX 16fe0 LE 16fe2 XX 16fe3 LE 16fe4 Extend 16fe5 XX 16ff0 Extend ",
  "16ff2 XX 1aff0 KA 1aff4 XX 1aff5 KA 1affc XX 1affd KA 1afff XX 1b000 KA 1b001 XX 1b120 KA ",
  "1b123 XX 1b155 KA 1b156 XX 1b164 KA 1b168 XX 1bc00 LE 1bc6b XX 1bc70 LE 1bc7d XX 1bc80 LE ",
  "1bc89 XX 1bc90 LE 1bc9a XX 1bc9d Extend 1bc9f XX 1bca0 FO 1bca4 XX 1ccf0 NU 1ccfa XX 1cf00 ",
  "Extend 1cf2e XX 1cf30 Extend 1cf47 XX 1d165 Extend 1d16a XX 1d16d Extend 1d173 FO 1d17b ",
  "Extend 1d183 XX 1d185 Extend 1d18c XX 1d1aa Extend 1d1ae XX 1d242 Extend 1d245 XX 1d400 LE ",
  "1d455 XX 1d456 LE 1d49d XX 1d49e LE 1d4a0 XX 1d4a2 LE 1d4a3 XX 1d4a5 LE 1d4a7 XX 1d4a9 LE ",
  "1d4ad XX 1d4ae LE 1d4ba XX 1d4bb LE 1d4bc XX 1d4bd LE 1d4c4 XX 1d4c5 LE 1d506 XX 1d507 LE ",
  "1d50b XX 1d50d LE 1d515 XX 1d516 LE 1d51d XX 1d51e LE 1d53a XX 1d53b LE 1d53f XX 1d540 LE ",
  "1d545 XX 1d546 LE 1d547 XX 1d54a LE 1d551 XX 1d552 LE 1d6a6 XX 1d6a8 LE 1d6c1 XX 1d6c2 LE ",
  "1d6db XX 1d6dc LE 1d6fb XX 1d6fc LE 1d715 XX 1d716 LE 1d735 XX 1d736 LE 1d74f XX 1d750 LE ",
  "1d76f XX 1d770 LE 1d789 XX 1d78a LE 1d7a9 XX 1d7aa LE 1d7c3 XX 1d7c4 LE 1d7cc XX 1d7ce NU ",
  "1d800 XX 1da00 Extend 1da37 XX 1da3b Extend 1da6d XX 1da75 Extend 1da76 XX 1da84 Extend ",
  "1da85 XX 1da9b Extend 1daa0 XX 1daa1 Extend 1dab0 XX 1df00 LE 1df1f XX 1df25 LE 1df2b XX ",
  "1e000 Extend 1e007 XX 1e008 Extend 1e019 XX 1e01b Extend 1e022 XX 1e023 Extend 1e025 XX ",
  "1e026 Extend 1e02b XX 1e030 LE 1e06e XX 1e08f Extend 1e090 XX 1e100 LE 1e12d XX 1e130 ",
  "Extend 1e137 LE 1e13e XX 1e140 NU 1e14a XX 1e14e LE 1e14f XX 1e290 LE 1e2ae Extend 1e2af ",
  "XX 1e2c0 LE 1e2ec Extend 1e2f0 NU 1e2fa XX 1e4d0 LE 1e4ec Extend 1e4f0 NU 1e4fa XX 1e5d0 ",
  "LE 1e5ee Extend 1e5f0 LE 1e5f1 NU 1e5fb XX 1e7e0 LE 1e7e7 XX 1e7e8 LE 1e7ec XX 1e7ed LE ",
  "1e7ef XX 1e7f0 LE 1e7ff XX 1e800 LE 1e8c5 XX 1e8d0 Extend 1e8d7 XX 1e900 LE 1e944 Extend ",
  "1e94b LE 1e94c XX 1e950 NU 1e95a XX 1ee00 LE 1ee04 XX 1ee05 LE 1ee20 XX 1ee21 LE 1ee23 XX ",
  "1ee24 LE 1ee25 XX 1ee27 LE 1ee28 XX 1ee29 LE 1ee33 XX 1ee34 LE 1ee38 XX 1ee39 LE 1ee3a XX ",
  "1ee3b LE 1ee3c XX 1ee42 LE 1ee43 XX 1ee47 LE 1ee48 XX 1ee49 LE 1ee4a XX 1ee4b LE 1ee4c XX ",
  "1ee4d LE 1ee50 XX 1ee51 LE 1ee53 XX 1ee54 LE 1ee55 XX 1ee57 LE 1ee58 XX 1ee59 LE 1ee5a XX ",
  "1ee5b LE 1ee5c XX 1ee5d LE 1ee5e XX 1ee5f LE 1ee60 XX 1ee61 LE 1ee63 XX 1ee64 LE 1ee65 XX ",
  "1ee67 LE 1ee6b XX 1ee6c LE 1ee73 XX 1ee74 LE 1ee78 XX 1ee79 LE 1ee7d XX 1ee7e LE 1ee7f XX ",
  "1ee80 LE 1ee8a XX 1ee8b LE 1ee9c XX 1eea1 LE 1eea4 XX 1eea5 LE 1eeaa XX 1eeab LE 1eebc XX ",
  "1f130 LE 1f14a XX 1f150 LE 1f16a XX 1f170 LE 1f18a XX 1f1e6 RI 1f200 XX 1f3fb Extend 1f400 ",
  "XX 1fbf0 NU 1fbfa XX e0001 FO e0002 XX e0020 Extend e0080 XX e0100 Extend e01f0 XX"]

/-- The names of every word break value: its short name first, then its other names, joined
by `/`. -/
def wordBreakNames : String := String.join [
  "CR DQ/Double_Quote EB/E_Base EBG/E_Base_GAZ EM/E_Modifier EX/ExtendNumLet Extend FO/Format ",
  "GAZ/Glue_After_Zwj HL/Hebrew_Letter KA/Katakana LE/ALetter LF MB/MidNumLet ML/MidLetter ",
  "MN/MidNum NL/Newline NU/Numeric RI/Regional_Indicator SQ/Single_Quote WSegSpace XX/Other ",
  "ZWJ"]

/-- Where each sentence break value starts, with its short name. -/
def sentenceBreakStarts : String := String.join [
  "0 XX 9 SP a LF b SP d CR e XX 20 SP 21 ST 22 CL 23 XX 27 CL 2a XX 2c SC 2e AT 2f XX 30 NU ",
  "3a SC 3c XX 3f ST 40 XX 41 UP 5b CL 5c XX 5d CL 5e XX 61 LO 7b CL 7c XX 7d CL 7e XX 85 SE ",
  "86 XX a0 SP a1 XX aa LO ab CL ac XX ad FO ae XX b5 LO b6 XX ba LO bb CL bc XX c0 UP d7 XX ",
  "d8 UP df LO f7 XX f8 LO 100 UP 101 LO 102 UP 103 LO 104 UP 105 LO 106 UP 107 LO 108 UP 109 ",
  "LO 10a UP 10b LO 10c UP 10d LO 10e UP 10f LO 110 UP 111 LO 112 UP 113 LO 114 UP 115 LO 116 ",
  "UP 117 LO 118 UP 119 LO 11a UP 11b LO 11c UP 11d LO 11e UP 11f LO 120 UP 121 LO 122 UP 123 ",
  "LO 124 UP 125 LO 126 UP 127 LO 128 UP 129 LO 12a UP 12b LO 12c UP 12d LO 12e UP 12f LO 130 ",
  "UP 131 LO 132 UP 133 LO 134 UP 135 LO 136 UP 137 LO 139 UP 13a LO 13b UP 13c LO 13d UP 13e ",
  "LO 13f UP 140 LO 141 UP 142 LO 143 UP 144 LO 145 UP 146 LO 147 UP 148 LO 14a UP 14b LO 14c ",
  "UP 14d LO 14e UP 14f LO 150 UP 151 LO 152 UP 153 LO 154 UP 155 LO 156 UP 157 LO 158 UP 159 ",
  "LO 15a UP 15b LO 15c UP 15d LO 15e UP 15f LO 160 UP 161 LO 162 UP 163 LO 164 UP 165 LO 166 ",
  "UP 167 LO 168 UP 169 LO 16a UP 16b LO 16c UP 16d LO 16e UP 16f LO 170 UP 171 LO 172 UP 173 ",
  "LO 174 UP 175 LO 176 UP 177 LO 178 UP 17a LO 17b UP 17c LO 17d UP 17e LO 181 UP 183 LO 184 ",
  "UP 185 LO 186 UP 188 LO 189 UP 18c LO 18e UP 192 LO 193 UP 195 LO 196 UP 199 LO 19c UP 19e ",
  "LO 19f UP 1a1 LO 1a2 UP 1a3 LO 1a4 UP 1a5 LO 1a6 UP 1a8 LO 1a9 UP 1aa LO 1ac UP 1ad LO 1ae ",
  "UP 1b0 LO 1b1 UP 1b4 LO 1b5 UP 1b6 LO 1b7 UP 1b9 LO 1bb LE 1bc UP 1bd LO 1c0 LE 1c4 UP 1c6 ",
  "LO 1c7 UP 1c9 LO 1ca UP 1cc LO 1cd UP 1ce LO 1cf UP 1d0 LO 1d1 UP 1d2 LO 1d3 UP 1d4 LO 1d5 ",
  "UP 1d6 LO 1d7 UP 1d8 LO 1d9 UP 1da LO 1db UP 1dc LO 1de UP 1df LO 1e0 UP 1e1 LO 1e2 UP 1e3 ",
  "LO 1e4 UP 1e5 LO 1e6 UP 1e7 LO 1e8 UP 1e9 LO 1ea UP 1eb LO 1ec UP 1ed LO 1ee UP 1ef LO 1f1 ",
  "UP 1f3 LO 1f4 UP 1f5 LO 1f6 UP 1f9 LO 1fa UP 1fb LO 1fc UP 1fd LO 1fe UP 1ff LO 200 UP 201 ",
  "LO 202 UP 203 LO 204 UP 205 LO 206 UP 207 LO 208 UP 209 LO 20a UP 20b LO 20c UP 20d LO 20e ",
  "UP 20f LO 210 UP 211 LO 212 UP 213 LO 214 UP 215 LO 216 UP 217 LO 218 UP 219 LO 21a UP 21b ",
  "LO 21c UP 21d LO 21e UP 21f LO 220 UP 221 LO 222 UP 223 LO 224 UP 225 LO 226 UP 227 LO 228 ",
  "UP 229 LO 22a UP 22b LO 22c UP 22d LO 22e UP 22f LO 230 UP 231 LO 232 UP 233 LO 23a UP 23c ",
  "LO 23d UP 23f LO 241 UP 242 LO 243 UP 247 LO 248 UP 249 LO 24a UP 24b LO 24c UP 24d LO 24e ",
  "UP 24f LO 294 LE 296 LO 2b9 LE 2c0 LO 2c2 XX 2c6 LE 2d2 XX 2e0 LO 2e5 XX 2ec LE 2ed XX 2ee ",
  "LE 2ef XX 300 EX 370 UP 371 LO 372 UP 373 LO 374 LE 375 XX 376 UP 377 LO 378 XX 37a LO 37e ",
  "SC 37f UP 380 XX 386 UP 387 XX 388 UP 38b XX 38c UP 38d XX 38e UP 390 LO 391 UP 3a2 XX 3a3 ",
  "UP 3ac LO 3cf UP 3d0 LO 3d2 UP 3d5 LO 3d8 UP 3d9 LO 3da UP 3db LO 3dc UP 3dd LO 3de UP 3df ",
  "LO 3e0 UP 3e1 LO 3e2 UP 3e3 LO 3e4 UP 3e5 LO 3e6 UP 3e7 LO 3e8 UP 3e9 LO 3ea UP 3eb LO 3ec ",
  "UP 3ed LO 3ee UP 3ef LO 3f4 UP 3f5 LO 3f6 XX 3f7 UP 3f8 LO 3f9 UP 3fb LO 3fd UP 430 LO 460 ",
  "UP 461 LO 462 UP 463 LO 464 UP 465 LO 466 UP 467 LO 468 UP 469 LO 46a UP 46b LO 46c UP 46d ",
  "LO 46e UP 46f LO 470 UP 471 LO 472 UP 473 LO 474 UP 475 LO 476 UP 477 LO 478 UP 479 LO 47a ",
  "UP 47b LO 47c UP 47d LO 47e UP 47f LO 480 UP 481 LO 482 XX 483 EX 48a UP 48b LO 48c UP 48d ",
  "LO 48e UP 48f LO 490 UP 491 LO 492 UP 493 LO 494 UP 495 LO 496 UP 497 LO 498 UP 499 LO 49a ",
  "UP 49b LO 49c UP 49d LO 49e UP 49f LO 4a0 UP 4a1 LO 4a2 UP 4a3 LO 4a4 UP 4a5 LO 4a6 UP 4a7 ",
  "LO 4a8 UP 4a9 LO 4aa UP 4ab LO 4ac UP 4ad LO 4ae UP 4af LO 4b0 UP 4b1 LO 4b2 UP 4b3 LO 4b4 ",
  "UP 4b5 LO 4b6 UP 4b7 LO 4b8 UP 4b9 LO 4ba UP 4bb LO 4bc UP 4bd LO 4be UP 4bf LO 4c0 UP 4c2 ",
  "LO 4c3 UP 4c4 LO 4c5 UP 4c6 LO 4c7 UP 4c8 LO 4c9 UP 4ca LO 4cb UP 4cc LO 4cd UP 4ce LO 4d0 ",
  "UP 4d1 LO 4d2 UP 4d3 LO 4d4 UP 4d5 LO 4d6 UP 4d7 LO 4d8 UP 4d9 LO 4da UP 4db LO 4dc UP 4dd ",
  "LO 4de UP 4df LO 4e0 UP 4e1 LO 4e2 UP 4e3 LO 4e4 UP 4e5 LO 4e6 UP 4e7 LO 4e8 UP 4e9 LO 4ea ",
  "UP 4eb LO 4ec UP 4ed LO 4ee UP 4ef LO 4f0 UP 4f1 LO 4f2 UP 4f3 LO 4f4 UP 4f5 LO 4f6 UP 4f7 ",
  "LO 4f8 UP 4f9 LO 4fa UP 4fb LO 4fc UP 4fd LO 4fe UP 4ff LO 500 UP 501 LO 502 UP 503 LO 504 ",
  "UP 505 LO 506 UP 507 LO 508 UP 509 LO 50a UP 50b LO 50c UP 50d LO 50e UP 50f LO 510 UP 511 ",
  "LO 512 UP 513 LO 514 UP 515 LO 516 UP 517 LO 518 UP 519 LO 51a UP 51b LO 51c UP 51d LO 51e ",
  "UP 51f LO 520 UP 521 LO 522 UP 523 LO 524 UP 525 LO 526 UP 527 LO 528 UP 529 LO 52a UP 52b ",
  "LO 52c UP 52d LO 52e UP 52f LO 530 XX 531 UP 557 XX 559 LE 55a XX 55d SC 55e XX 560 LO 589 ",
  "ST 58a XX 591 EX 5be XX 5bf EX 5c0 XX 5c1 EX 5c3 XX 5c4 EX 5c6 XX 5c7 EX 5c8 XX 5d0 LE 5eb ",
  "XX 5ef LE 5f4 XX 600 NU 606 XX 60c SC 60e XX 610 EX 61b XX 61c FO 61d ST 620 LE 64b EX 660 ",
  "NU 66a XX 66b NU 66d XX 66e LE 670 EX 671 LE 6d4 ST 6d5 LE 6d6 EX 6dd NU 6de XX 6df EX 6e5 ",
  "LE 6e7 EX 6e9 XX 6ea EX 6ee LE 6f0 NU 6fa LE 6fd XX 6ff LE 700 ST 703 XX 70f FO 710 LE 711 ",
  "EX 712 LE 730 EX 74b XX 74d LE 7a6 EX 7b1 LE 7b2 XX 7c0 NU 7ca LE 7eb EX 7f4 LE 7f6 XX 7f8 ",
  "SC 7f9 ST 7fa LE 7fb XX 7fd EX 7fe XX 800 LE 816 EX 81a LE 81b EX 824 LE 825 EX 828 LE 829 ",
  "EX 82e XX 837 ST 838 XX 839 ST 83a XX 83d ST 83f XX 840 LE 859 EX 85c XX 860 LE 86b XX 870 ",
  "LE 888 XX 889 LE 88f XX 890 NU 892 XX 897 EX 8a0 LE 8ca EX 8e2 NU 8e3 EX 904 LE 93a EX 93d ",
  "LE 93e EX 950 LE 951 EX 958 LE 962 EX 964 ST 966 NU 970 XX 971 LE 981 EX 984 XX 985 LE 98d ",
  "XX 98f LE 991 XX 993 LE 9a9 XX 9aa LE 9b1 XX 9b2 LE 9b3 XX 9b6 LE 9ba XX 9bc EX 9bd LE 9be ",
  "EX 9c5 XX 9c7 EX 9c9 XX 9cb EX 9ce LE 9cf XX 9d7 EX 9d8 XX 9dc LE 9de XX 9df LE 9e2 EX 9e4 ",
  "XX 9e6 NU 9f0 LE 9f2 XX 9fc LE 9fd XX 9fe EX 9ff XX a01 EX a04 XX a05 LE a0b XX a0f LE a11 ",
  "XX a13 LE a29 XX a2a LE a31 XX a32 LE a34 XX a35 LE a37 XX a38 LE a3a XX a3c EX a3d XX a3e ",
  "EX a43 XX a47 EX a49 XX a4b EX a4e XX a51 EX a52 XX a59 LE a5d XX a5e LE a5f XX a66 NU a70 ",
  "EX a72 LE a75 EX a76 XX a81 EX a84 XX a85 LE a8e XX a8f LE a92 XX a93 LE aa9 XX aaa LE ab1 ",
  "XX ab2 LE ab4 XX ab5 LE aba XX abc EX abd LE abe EX ac6 XX ac7 EX aca XX acb EX ace XX ad0 ",
  "LE ad1 XX ae0 LE ae2 EX ae4 XX ae6 NU af0 XX af9 LE afa EX b00 XX b01 EX b04 XX b05 LE b0d ",
  "XX b0f LE b11 XX b13 LE b29 XX b2a LE b31 XX b32 LE b34 XX b35 LE b3a XX b3c EX b3d LE b3e ",
  "EX b45 XX b47 EX b49 XX b4b EX b4e XX b55 EX b58 XX b5c LE b5e XX b5f LE b62 EX b64 XX b66 ",
  "NU b70 XX b71 LE b72 XX b82 EX b83 LE b84 XX b85 LE b8b XX b8e LE b91 XX b92 LE b96 XX b99 ",
  "LE b9b XX b9c LE b9d XX b9e LE ba0 XX ba3 LE ba5 XX ba8 LE bab XX bae LE bba XX bbe EX bc3 ",
  "XX bc6 EX bc9 XX bca EX bce XX bd0 LE bd1 XX bd7 EX bd8 XX be6 NU bf0 XX c00 EX c05 LE c0d ",
  "XX c0e LE c11 XX c12 LE c29 XX c2a LE c3a XX c3c EX c3d LE c3e EX c45 XX c46 EX c49 XX c4a ",
  "EX c4e XX c55 EX c57 XX c58 LE c5b XX c5d LE c5e XX c60 LE c62 EX c64 XX c66 NU c70 XX c80 ",
  "LE c81 EX c84 XX c85 LE c8d XX c8e LE c91 XX c92 LE ca9 XX caa LE cb4 XX cb5 LE cba XX cbc ",
  "EX cbd LE cbe EX cc5 XX cc6 EX cc9 XX cca EX cce XX cd5 EX cd7 XX cdd LE cdf XX ce0 LE ce2 ",
  "EX ce4 XX ce6 NU cf0 XX cf1 LE cf3 EX cf4 XX d00 EX d04 LE d0d XX d0e LE d11 XX d12 LE d3b ",
  "EX d3d LE d3e EX d45 XX d46 EX d49 XX d4a EX d4e LE d4f XX d54 LE d57 EX d58 XX d5f LE d62 ",
  "EX d64 XX d66 NU d70 XX d7a LE d80 XX d81 EX d84 XX d85 LE d97 XX d9a LE db2 XX db3 LE dbc ",
  "XX dbd LE dbe XX dc0 LE dc7 XX dca EX dcb XX dcf EX dd5 XX dd6 EX dd7 XX dd8 EX de0 XX de6 ",
  "NU df0 XX df2 EX df4 XX e01 LE e31 EX e32 LE e34 EX e3b XX e40 LE e47 EX e4f XX e50 NU e5a ",
  "XX e81 LE e83 XX e84 LE e85 XX e86 LE e8b XX e8c LE ea4 XX ea5 LE ea6 XX ea7 LE eb1 EX eb2 ",
  "LE eb4 EX ebd LE ebe XX ec0 LE ec5 XX ec6 LE ec7 XX ec8 EX ecf XX ed0 NU eda XX edc LE ee0 ",
  "XX f00 LE f01 XX f18 EX f1a XX f20 NU f2a XX f35 EX f36 XX f37 EX f38 XX f39 EX f3a CL f3e ",
  "EX f40 LE f48 XX f49 LE f6d XX f71 EX f85 XX f86 EX f88 LE f8d EX f98 XX f99 EX fbd XX fc6 ",
  "EX fc7 XX 1000 LE 102b EX 103f LE 1040 NU 104a ST 104c XX 1050 LE 1056 EX 105a LE 105e EX ",
  "1061 LE 1062 EX 1065 LE 1067 EX 106e LE 1071 EX 1075 LE 1082 EX 108e LE 108f EX 1090 NU ",
  "109a EX 109e XX 10a0 UP 10c6 XX 10c7 UP 10c8 XX 10cd UP 10ce XX 10d0 LE 10fb XX 10fc LO ",
  "10fd LE 1249 XX 124a LE 124e XX 1250 LE 1257 XX 1258 LE 1259 XX 125a LE 125e XX 1260 LE ",
  "1289 XX 128a LE 128e XX 1290 LE 12b1 XX 12b2 LE 12b6 XX 12b8 LE 12bf XX 12c0 LE 12c1 XX ",
  "12c2 LE 12c6 XX 12c8 LE 12d7 XX 12d8 LE 1311 XX 1312 LE 1316 XX 1318 LE 135b XX 135d EX ",
  "1360 XX 1362 ST 1363 XX 1367 ST 1369 XX 1380 LE 1390 XX 13a0 UP 13f6 XX 13f8 LO 13fe XX ",
  "1401 LE 166d XX 166e ST 166f LE 1680 SP 1681 LE 169b CL 169d XX 16a0 LE 16eb XX 16ee LE ",
  "16f9 XX 1700 LE 1712 EX 1716 XX 171f LE 1732 EX 1735 ST 1737 XX 1740 LE 1752 EX 1754 XX ",
  "1760 LE 176d XX 176e LE 1771 XX 1772 EX 1774 XX 1780 LE 17b4 EX 17d4 ST 17d6 XX 17d7 LE ",
  "17d8 XX 17dc LE 17dd EX 17de XX 17e0 NU 17ea XX 1802 SC 1803 ST 1804 XX 1808 SC 1809 ST ",
  "180a XX 180b EX 180e FO 180f EX 1810 NU 181a XX 1820 LE 1879 XX 1880 LE 1885 EX 1887 LE ",
  "18a9 EX 18aa LE 18ab XX 18b0 LE 18f6 XX 1900 LE 191f XX 1920 EX 192c XX 1930 EX 193c XX ",
  "1944 ST 1946 NU 1950 LE 196e XX 1970 LE 1975 XX 1980 LE 19ac XX 19b0 LE 19ca XX 19d0 NU ",
  "19db XX 1a00 LE 1a17 EX 1a1c XX 1a20 LE 1a55 EX 1a5f XX 1a60 EX 1a7d XX 1a7f EX 1a80 NU ",
  "1a8a XX 1a90 NU 1a9a XX 1aa7 LE 1aa8 ST 1aac XX 1ab0 EX 1acf XX 1b00 EX 1b05 LE 1b34 EX ",
  "1b45 LE 1b4d XX 1b4e ST 1b50 NU 1b5a ST 1b5c XX 1b5e ST 1b60 XX 1b6b EX 1b74 XX 1b7d ST ",
  "1b80 EX 1b83 LE 1ba1 EX 1bae LE 1bb0 NU 1bba LE 1be6 EX 1bf4 XX 1c00 LE 1c24 EX 1c38 XX ",
  "1c3b ST 1c3d XX 1c40 NU 1c4a XX 1c4d LE 1c50 NU 1c5a LE 1c7e ST 1c80 LO 1c89 UP 1c8a LO ",
  "1c8b XX 1c90 LE 1cbb XX 1cbd LE 1cc0 XX 1cd0 EX 1cd3 XX 1cd4 EX 1ce9 LE 1ced EX 1cee LE ",
  "1cf4 EX 1cf5 LE 1cf7 EX 1cfa LE 1cfb XX 1d00 LO 1dc0 EX 1e00 UP 1e01 LO 1e02 UP 1e03 LO ",
  "1e04 UP 1e05 LO 1e06 UP 1e07 LO 1e08 UP 1e09 LO 1e0a UP 1e0b LO 1e0c UP 1e0d LO 1e0e UP ",
  "1e0f LO 1e10 UP 1e11 LO 1e12 UP 1e13 LO 1e14 UP 1e15 LO 1e16 UP 1e17 LO 1e18 UP 1e19 LO ",
  "1e1a UP 1e1b LO 1e1c UP 1e1d LO 1e1e UP 1e1f LO 1e20 UP 1e21 LO 1e22 UP 1e23 LO 1e24 UP ",
  "1e25 LO 1e26 UP 1e27 LO 1e28 UP 1e29 LO 1e2a UP 1e2b LO 1e2c UP 1e2d LO 1e2e UP 1e2f LO ",
  "1e30 UP 1e31 LO 1e32 UP 1e33 LO 1e34 UP 1e35 LO 1e36 UP 1e37 LO 1e38 UP 1e39 LO 1e3a UP ",
  "1e3b LO 1e3c UP 1e3d LO 1e3e UP 1e3f LO 1e40 UP 1e41 LO 1e42 UP 1e43 LO 1e44 UP 1e45 LO ",
  "1e46 UP 1e47 LO 1e48 UP 1e49 LO 1e4a UP 1e4b LO 1e4c UP 1e4d LO 1e4e UP 1e4f LO 1e50 UP ",
  "1e51 LO 1e52 UP 1e53 LO 1e54 UP 1e55 LO 1e56 UP 1e57 LO 1e58 UP 1e59 LO 1e5a UP 1e5b LO ",
  "1e5c UP 1e5d LO 1e5e UP 1e5f LO 1e60 UP 1e61 LO 1e62 UP 1e63 LO 1e64 UP 1e65 LO 1e66 UP ",
  "1e67 LO 1e68 UP 1e69 LO 1e6a UP 1e6b LO 1e6c UP 1e6d LO 1e6e UP 1e6f LO 1e70 UP 1e71 LO ",
  "1e72 UP 1e73 LO 1e74 UP 1e75 LO 1e76 UP 1e77 LO 1e78 UP 1e79 LO 1e7a UP 1e7b LO 1e7c UP ",
  "1e7d LO 1e7e UP 1e7f LO 1e80 UP 1e81 LO 1e82 UP 1e83 LO 1e84 UP 1e85 LO 1e86 UP 1e87 LO ",
  "1e88 UP 1e89 LO 1e8a UP 1e8b LO 1e8c UP 1e8d LO 1e8e UP 1e8f LO 1e90 UP 1e91 LO 1e92 UP ",
  "1e93 LO 1e94 UP 1e95 LO 1e9e UP 1e9f LO 1ea0 UP 1ea1 LO 1ea2 UP 1ea3 LO 1ea4 UP 1ea5 LO ",
  "1ea6 UP 1ea7 LO 1ea8 UP 1ea9 LO 1eaa UP 1eab LO 1eac UP 1ead LO 1eae UP 1eaf LO 1eb0 UP ",
  "1eb1 LO 1eb2 UP 1eb3 LO 1eb4 UP 1eb5 LO 1eb6 UP 1eb7 LO 1eb8 UP 1eb9 LO 1eba UP 1ebb LO ",
  "1ebc UP 1ebd LO 1ebe UP 1ebf LO 1ec0 UP 1ec1 LO 1ec2 UP 1ec3 LO 1ec4 UP 1ec5 LO 1ec6 UP ",
  "1ec7 LO 1ec8 UP 1ec9 LO 1eca UP 1ecb LO 1ecc UP 1ecd LO 1ece UP 1ecf LO 1ed0 UP 1ed1 LO ",
  "1ed2 UP 1ed3 LO 1ed4 UP 1ed5 LO 1ed6 UP 1ed7 LO 1ed8 UP 1ed9 LO 1eda UP 1edb LO 1edc UP ",
  "1edd LO 1ede UP 1edf LO 1ee0 UP 1ee1 LO 1ee2 UP 1ee3 LO 1ee4 UP 1ee5 LO 1ee6 UP 1ee7 LO ",
  "1ee8 UP 1ee9 LO 1eea UP 1eeb LO 1eec UP 1eed LO 1eee UP 1eef LO 1ef0 UP 1ef1 LO 1ef2 UP ",
  "1ef3 LO 1ef4 UP 1ef5 LO 1ef6 UP 1ef7 LO 1ef8 UP 1ef9 LO 1efa UP 1efb LO 1efc UP 1efd LO ",
  "1efe UP 1eff LO 1f08 UP 1f10 LO 1f16 XX 1f18 UP 1f1e XX 1f20 LO 1f28 UP 1f30 LO 1f38 UP ",
  "1f40 LO 1f46 XX 1f48 UP 1f4e XX 1f50 LO 1f58 XX 1f59 UP 1f5a XX 1f5b UP 1f5c XX 1f5d UP ",
  "1f5e XX 1f5f UP 1f60 LO 1f68 UP 1f70 LO 1f7e XX 1f80 LO 1f88 UP 1f90 LO 1f98 UP 1fa0 LO ",
  "1fa8 UP 1fb0 LO 1fb5 XX 1fb6 LO 1fb8 UP 1fbd XX 1fbe LO 1fbf XX 1fc2 LO 1fc5 XX 1fc6 LO ",
  "1fc8 UP 1fcd XX 1fd0 LO 1fd4 XX 1fd6 LO 1fd8 UP 1fdc XX 1fe0 LO 1fe8 UP 1fed XX 1ff2 LO ",
  "1ff5 XX 1ff6 LO 1ff8 UP 1ffd XX 2000 SP 200b FO 200c EX 200e FO 2010 XX 2013 SC 2015 XX ",
  "2018 CL 2020 XX 2024 AT 2025 XX 2028 SE 202a FO 202f SP 2030 XX 2039 CL 203b XX 203c ST ",
  "203e XX 2045 CL 2047 ST 204a XX 205f SP 2060 FO 2065 XX 2066 FO 2070 XX 2071 LO 2072 XX ",
  "207d CL 207f LO 2080 XX 208d CL 208f XX 2090 LO 209d XX 20d0 EX 20f1 XX 2102 UP 2103 XX ",
  "2107 UP 2108 XX 210a LO 210b UP 210e LO 2110 UP 2113 LO 2114 XX 2115 UP 2116 XX 2119 UP ",
  "211e XX 2124 UP 2125 XX 2126 UP 2127 XX 2128 UP 2129 XX 212a UP 212e XX 212f LO 2130 UP ",
  "2134 LO 2135 LE 2139 LO 213a XX 213c LO 213e UP 2140 XX 2145 UP 2146 LO 214a XX 214e LO ",
  "214f XX 2160 UP 2170 LO 2180 LE 2183 UP 2184 LO 2185 LE 2189 XX 2308 CL 230c XX 2329 CL ",
  "232b XX 24b6 UP 24d0 LO 24ea XX 275b CL 2761 XX 2768 CL 2776 XX 27c5 CL 27c7 XX 27e6 CL ",
  "27f0 XX 2983 CL 2999 XX 29d8 CL 29dc XX 29fc CL 29fe XX 2c00 UP 2c30 LO 2c60 UP 2c61 LO ",
  "2c62 UP 2c65 LO 2c67 UP 2c68 LO 2c69 UP 2c6a LO 2c6b UP 2c6c LO 2c6d UP 2c71 LO 2c72 UP ",
  "2c73 LO 2c75 UP 2c76 LO 2c7e UP 2c81 LO 2c82 UP 2c83 LO 2c84 UP 2c85 LO 2c86 UP 2c87 LO ",
  "2c88 UP 2c89 LO 2c8a UP 2c8b LO 2c8c UP 2c8d LO 2c8e UP 2c8f LO 2c90 UP 2c91 LO 2c92 UP ",
  "2c93 LO 2c94 UP 2c95 LO 2c96 UP 2c97 LO 2c98 UP 2c99 LO 2c9a UP 2c9b LO 2c9c UP 2c9d LO ",
  "2c9e UP 2c9f LO 2ca0 UP 2ca1 LO 2ca2 UP 2ca3 LO 2ca4 UP 2ca5 LO 2ca6 UP 2ca7 LO 2ca8 UP ",
  "2ca9 LO 2caa UP 2cab LO 2cac UP 2cad LO 2cae UP 2caf LO 2cb0 UP 2cb1 LO 2cb2 UP 2cb3 LO ",
  "2cb4 UP 2cb5 LO 2cb6 UP 2cb7 LO 2cb8 UP 2cb9 LO 2cba UP 2cbb LO 2cbc UP 2cbd LO 2cbe UP ",
  "2cbf LO 2cc0 UP 2cc1 LO 2cc2 UP 2cc3 LO 2cc4 UP 2cc5 LO 2cc6 UP 2cc7 LO 2cc8 UP 2cc9 LO ",
  "2cca UP 2ccb LO 2ccc UP 2ccd LO 2cce UP 2ccf LO 2cd0 UP 2cd1 LO 2cd2 UP 2cd3 LO 2cd4 UP ",
  "2cd5 LO 2cd6 UP 2cd7 LO 2cd8 UP 2cd9 LO 2cda UP 2cdb LO 2cdc UP 2cdd LO 2cde UP 2cdf LO ",
  "2ce0 UP 2ce1 LO 2ce2 UP 2ce3 LO 2ce5 XX 2ceb UP 2cec LO 2ced UP 2cee LO 2cef EX 2cf2 UP ",
  "2cf3 LO 2cf4 XX 2cf9 ST 2cfc XX 2d00 LO 2d26 XX 2d27 LO 2d28 XX 2d2d LO 2d2e XX 2d30 LE ",
  "2d68 XX 2d6f LE 2d70 XX 2d7f EX 2d80 LE 2d97 XX 2da0 LE 2da7 XX 2da8 LE 2daf XX 2db0 LE ",
  "2db7 XX 2db8 LE 2dbf XX 2dc0 LE 2dc7 XX 2dc8 LE 2dcf XX 2dd0 LE 2dd7 XX 2dd8 LE 2ddf XX ",
  "2de0 EX 2e00 CL 2e0e XX 2e1c CL 2e1e XX 2e20 CL 2e2a XX 2e2e ST 2e2f LE 2e30 XX 2e3c ST ",
  "2e3d XX 2e42 CL 2e43 XX 2e53 ST 2e55 CL 2e5d XX 3000 SP 3001 SC 3002 ST 3003 XX 3005 LE ",
  "3008 CL 3012 XX 3014 CL 301c XX 301d CL 3020 XX 3021 LE 302a EX 3030 XX 3031 LE 3036 XX ",
  "3038 LE 303d XX 3041 LE 3097 XX 3099 EX 309b XX 309d LE 30a0 XX 30a1 LE 30fb XX 30fc LE ",
  "3100 XX 3105 LE 3130 XX 3131 LE 318f XX 31a0 LE 31c0 XX 31f0 LE 3200 XX 3400 LE 4dc0 XX ",
  "4e00 LE a48d XX a4d0 LE a4fe XX a4ff ST a500 LE a60d XX a60e ST a610 LE a620 NU a62a LE ",
  "a62c XX a640 UP a641 LO a642 UP a643 LO a644 UP a645 LO a646 UP a647 LO a648 UP a649 LO ",
  "a64a UP a64b LO a64c UP a64d LO a64e UP a64f LO a650 UP a651 LO a652 UP a653 LO a654 UP ",
  "a655 LO a656 UP a657 LO a658 UP a659 LO a65a UP a65b LO a65c UP a65d LO a65e UP a65f LO ",
  "a660 UP a661 LO a662 UP a663 LO a664 UP a665 LO a666 UP a667 LO a668 UP a669 LO a66a UP ",
  "a66b LO a66c UP a66d LO a66e LE a66f EX a673 XX a674 EX a67e XX a67f LE a680 UP a681 LO ",
  "a682 UP a683 LO a684 UP a685 LO a686 UP a687 LO a688 UP a689 LO a68a UP a68b LO a68c UP ",
  "a68d LO a68e UP a68f LO a690 UP a691 LO a692 UP a693 LO a694 UP a695 LO a696 UP a697 LO ",
  "a698 UP a699 LO a69a UP a69b LO a69e EX a6a0 LE a6f0 EX a6f2 XX a6f3 ST a6f4 XX a6f7 ST ",
  "a6f8 XX a717 LE a720 XX a722 UP a723 LO a724 UP a725 LO a726 UP a727 LO a728 UP a729 LO ",
  "a72a UP a72b LO a72c UP a72d LO a72e UP a72f LO a732 UP a733 LO a734 UP a735 LO a736 UP ",
  "a737 LO a738 UP a739 LO a73a UP a73b LO a73c UP a73d LO a73e UP a73f LO a740 UP a741 LO ",
  "a742 UP a743 LO a744 UP a745 LO a746 UP a747 LO a748 UP a749 LO a74a UP a74b LO a74c UP ",
  "a74d LO a74e UP a74f LO a750 UP a751 LO a752 UP a753 LO a754 UP a755 LO a756 UP a757 LO ",
  "a758 UP a759 LO a75a UP a75b LO a75c UP a75d LO a75e UP a75f LO a760 UP a761 LO a762 UP ",
  "a763 LO a764 UP a765 LO a766 UP a767 LO a768 UP a769 LO a76a UP a76b LO a76c UP a76d LO ",
  "a76e UP a76f LO a779 UP a77a LO a77b UP a77c LO a77d UP a77f LO a780 UP a781 LO a782 UP ",
  "a783 LO a784 UP a785 LO a786 UP a787 LO a788 LE a789 XX a78b UP a78c LO a78d UP a78e LO ",
  "a78f LE a790 UP a791 LO a792 UP a793 LO a796 UP a797 LO a798 UP a799 LO a79a UP a79b LO ",
  "a79c UP a79d LO a79e UP a79f LO a7a0 UP a7a1 LO a7a2 UP a7a3 LO a7a4 UP a7a5 LO a7a6 UP ",
  "a7a7 LO a7a8 UP a7a9 LO a7aa UP a7af LO a7b0 UP a7b5 LO a7b6 UP a7b7 LO a7b8 UP a7b9 LO ",
  "a7ba UP a7bb LO a7bc UP a7bd LO a7be UP a7bf LO a7c0 UP a7c1 LO a7c2 UP a7c3 LO a7c4 UP ",
  "a7c8 LO a7c9 UP a7ca LO a7cb UP a7cd LO a7ce XX a7d0 UP a7d1 LO a7d2 XX a7d3 LO a7d4 XX ",
  "a7d5 LO a7d6 UP a7d7 LO a7d8 UP a7d9 LO a7da UP a7db LO a7dc UP a7dd XX a7f2 LO a7f5 UP ",
  "a7f6 LO a7f7 LE a7f8 LO a7fb LE a802 EX a803 LE a806 EX a807 LE a80b EX a80c LE a823 EX ",
  "a828 XX a82c EX a82d XX a840 LE a874 XX a876 ST a878 XX a880 EX a882 LE a8b4 EX a8c6 XX ",
  "a8ce ST a8d0 NU a8da XX a8e0 EX a8f2 LE a8f8 XX a8fb LE a8fc XX a8fd LE a8ff EX a900 NU ",
  "a90a LE a926 EX a92e XX a92f ST a930 LE a947 EX a954 XX a960 LE a97d XX a980 EX a984 LE ",
  "a9b3 EX a9c1 XX a9c8 ST a9ca XX a9cf LE a9d0 NU a9da XX a9e0 LE a9e5 EX a9e6 LE a9f0 NU ",
  "a9fa LE a9ff XX aa00 LE aa29 EX aa37 XX aa40 LE aa43 EX aa44 LE aa4c EX aa4e XX aa50 NU ",
  "aa5a XX aa5d ST aa60 LE aa77 XX aa7a LE aa7b EX aa7e LE aab0 EX aab1 LE aab2 EX aab5 LE ",
  "aab7 EX aab9 LE aabe EX aac0 LE aac1 EX aac2 LE aac3 XX aadb LE aade XX aae0 LE aaeb EX ",
  "aaf0 ST aaf2 LE aaf5 EX aaf7 XX ab01 LE ab07 XX ab09 LE ab0f XX ab11 LE ab17 XX ab20 LE ",
  "ab27 XX ab28 LE ab2f XX ab30 LO ab5b XX ab5c LO ab6a XX ab70 LO abc0 LE abe3 EX abeb ST ",
  "abec EX abee XX abf0 NU abfa XX ac00 LE d7a4 XX d7b0 LE d7c7 XX d7cb LE d7fc XX f900 LE ",
  "fa6e XX fa70 LE fada XX fb00 LO fb07 XX fb13 LO fb18 XX fb1d LE fb1e EX fb1f LE fb29 XX ",
  "fb2a LE fb37 XX fb38 LE fb3d XX fb3e LE fb3f XX fb40 LE fb42 XX fb43 LE fb45 XX fb46 LE ",
  "fbb2 XX fbd3 LE fd3e CL fd40 XX fd50 LE fd90 XX fd92 LE fdc8 XX fdf0 LE fdfc XX fe00 EX ",
  "fe10 SC fe12 ST fe13 SC fe15 ST fe17 CL fe19 XX fe20 EX fe30 XX fe31 SC fe33 XX fe35 CL ",
  "fe45 XX fe47 CL fe49 XX fe50 SC fe52 AT fe53 XX fe54 SC fe56 ST fe58 SC fe59 CL fe5f XX ",
  "fe63 SC fe64 XX fe70 LE fe75 XX fe76 LE fefd XX feff FO ff00 XX ff01 ST ff02 XX ff08 CL ",
  "ff0a XX ff0c SC ff0e AT ff0f XX ff10 NU ff1a SC ff1c XX ff1f ST ff20 XX ff21 UP ff3b CL ",
  "ff3c XX ff3d CL ff3e XX ff41 LO ff5b CL ff5c XX ff5d CL ff5e XX ff5f CL ff61 ST ff62 CL ",
  "ff64 SC ff65 XX ff66 LE ff9e EX ffa0 LE ffbf XX ffc2 LE ffc8 XX ffca LE ffd0 XX ffd2 LE ",
  "ffd8 XX ffda LE ffdd XX fff9 FO fffc XX 10000 LE 1000c XX 1000d LE 10027 XX 10028 LE 1003b ",
  "XX 1003c LE 1003e XX 1003f LE 1004e XX 10050 LE 1005e XX 10080 LE 100fb XX 10140 LE 10175 ",
  "XX 101fd EX 101fe XX 10280 LE 1029d XX 102a0 LE 102d1 XX 102e0 EX 102e1 XX 10300 LE 10320 ",
  "XX 1032d LE 1034b XX 10350 LE 10376 EX 1037b XX 10380 LE 1039e XX 103a0 LE 103c4 XX 103c8 ",
  "LE 103d0 XX 103d1 LE 103d6 XX 10400 UP 10428 LO 10450 LE 1049e XX 104a0 NU 104aa XX 104b0 ",
  "UP 104d4 XX 104d8 LO 104fc XX 10500 LE 10528 XX 10530 LE 10564 XX 10570 UP 1057b XX 1057c ",
  "UP 1058b XX 1058c UP 10593 XX 10594 UP 10596 XX 10597 LO 105a2 XX 105a3 LO 105b2 XX 105b3 ",
  "LO 105ba XX 105bb LO 105bd XX 105c0 LE 105f4 XX 10600 LE 10737 XX 10740 LE 10756 XX 10760 ",
  "LE 10768 XX 10780 LO 10781 LE 10783 LO 10786 XX 10787 LO 107b1 XX 107b2 LO 107bb XX 10800 ",
  "LE 10806 XX 10808 LE 10809 XX 1080a LE 10836 XX 10837 LE 10839 XX 1083c LE 1083d XX 1083f ",
  "LE 10856 XX 10860 LE 10877 XX 10880 LE 1089f XX 108e0 LE 108f3 XX 108f4 LE 108f6 XX 10900 ",
  "LE 10916 XX 10920 LE 1093a XX 10980 LE 109b8 XX 109be LE 109c0 XX 10a00 LE 10a01 EX 10a04 ",
  "XX 10a05 EX 10a07 XX 10a0c EX 10a10 LE 10a14 XX 10a15 LE 10a18 XX 10a19 LE 10a36 XX 10a38 ",
  "EX 10a3b XX 10a3f EX 10a40 XX 10a56 ST 10a58 XX 10a60 LE 10a7d XX 10a80 LE 10a9d XX 10ac0 ",
  "LE 10ac8 XX 10ac9 LE 10ae5 EX 10ae7 XX 10b00 LE 10b36 XX 10b40 LE 10b56 XX 10b60 LE 10b73 ",
  "XX 10b80 LE 10b92 XX 10c00 LE 10c49 XX 10c80 UP 10cb3 XX 10cc0 LO 10cf3 XX 10d00 LE 10d24 ",
  "EX 10d28 XX 10d30 NU 10d3a XX 10d40 NU 10d4a LE 10d50 UP 10d66 XX 10d69 EX 10d6e XX 10d6f ",
  "LE 10d70 LO 10d86 XX 10e80 LE 10eaa XX 10eab EX 10ead XX 10eb0 LE 10eb2 XX 10ec2 LE 10ec5 ",
  "XX 10efc EX 10f00 LE 10f1d XX 10f27 LE 10f28 XX 10f30 LE 10f46 EX 10f51 XX 10f55 ST 10f5a ",
  "XX 10f70 LE 10f82 EX 10f86 ST 10f8a XX 10fb0 LE 10fc5 XX 10fe0 LE 10ff7 XX 11000 EX 11003 ",
  "LE 11038 EX 11047 ST 11049 XX 11066 NU 11070 EX 11071 LE 11073 EX 11075 LE 11076 XX 1107f ",
  "EX 11083 LE 110b0 EX 110bb XX 110bd NU 110be ST 110c2 EX 110c3 XX 110cd NU 110ce XX 110d0 ",
  "LE 110e9 XX 110f0 NU 110fa XX 11100 EX 11103 LE 11127 EX 11135 XX 11136 NU 11140 XX 11141 ",
  "ST 11144 LE 11145 EX 11147 LE 11148 XX 11150 LE 11173 EX 11174 XX 11176 LE 11177 XX 11180 ",
  "EX 11183 LE 111b3 EX 111c1 LE 111c5 ST 111c7 XX 111c9 EX 111cd ST 111ce EX 111d0 NU 111da ",
  "LE 111db XX 111dc LE 111dd XX 111de ST 111e0 XX 11200 LE 11212 XX 11213 LE 1122c EX 11238 ",
  "ST 1123a XX 1123b ST 1123d XX 1123e EX 1123f LE 11241 EX 11242 XX 11280 LE 11287 XX 11288 ",
  "LE 11289 XX 1128a LE 1128e XX 1128f LE 1129e XX 1129f LE 112a9 ST 112aa XX 112b0 LE 112df ",
  "EX 112eb XX 112f0 NU 112fa XX 11300 EX 11304 XX 11305 LE 1130d XX 1130f LE 11311 XX 11313 ",
  "LE 11329 XX 1132a LE 11331 XX 11332 LE 11334 XX 11335 LE 1133a XX 1133b EX 1133d LE 1133e ",
  "EX 11345 XX 11347 EX 11349 XX 1134b EX 1134e XX 11350 LE 11351 XX 11357 EX 11358 XX 1135d ",
  "LE 11362 EX 11364 XX 11366 EX 1136d XX 11370 EX 11375 XX 11380 LE 1138a XX 1138b LE 1138c ",
  "XX 1138e LE 1138f XX 11390 LE 113b6 XX 113b7 LE 113b8 EX 113c1 XX 113c2 EX 113c3 XX 113c5 ",
  "EX 113c6 XX 113c7 EX 113cb XX 113cc EX 113d1 LE 113d2 EX 113d3 LE 113d4 ST 113d6 XX 113e1 ",
  "EX 113e3 XX 11400 LE 11435 EX 11447 LE 1144b ST 1144d XX 11450 NU 1145a XX 1145e EX 1145f ",
  "LE 11462 XX 11480 LE 114b0 EX 114c4 LE 114c6 XX 114c7 LE 114c8 XX 114d0 NU 114da XX 11580 ",
  "LE 115af EX 115b6 XX 115b8 EX 115c1 XX 115c2 ST 115c4 XX 115c9 ST 115d8 LE 115dc EX 115de ",
  "XX 11600 LE 11630 EX 11641 ST 11643 XX 11644 LE 11645 XX 11650 NU 1165a XX 11680 LE 116ab ",
  "EX 116b8 LE 116b9 XX 116c0 NU 116ca XX 116d0 NU 116e4 XX 11700 LE 1171b XX 1171d EX 1172c ",
  "XX 11730 NU 1173a XX 1173c ST 1173f XX 11740 LE 11747 XX 11800 LE 1182c EX 1183b XX 118a0 ",
  "UP 118c0 LO 118e0 NU 118ea XX 118ff LE 11907 XX 11909 LE 1190a XX 1190c LE 11914 XX 11915 ",
  "LE 11917 XX 11918 LE 11930 EX 11936 XX 11937 EX 11939 XX 1193b EX 1193f LE 11940 EX 11941 ",
  "LE 11942 EX 11944 ST 11945 XX 11946 ST 11947 XX 11950 NU 1195a XX 119a0 LE 119a8 XX 119aa ",
  "LE 119d1 EX 119d8 XX 119da EX 119e1 LE 119e2 XX 119e3 LE 119e4 EX 119e5 XX 11a00 LE 11a01 ",
  "EX 11a0b LE 11a33 EX 11a3a LE 11a3b EX 11a3f XX 11a42 ST 11a44 XX 11a47 EX 11a48 XX 11a50 ",
  "LE 11a51 EX 11a5c LE 11a8a EX 11a9a XX 11a9b ST 11a9d LE 11a9e XX 11ab0 LE 11af9 XX 11bc0 ",
  "LE 11be1 XX 11bf0 NU 11bfa XX 11c00 LE 11c09 XX 11c0a LE 11c2f EX 11c37 XX 11c38 EX 11c40 ",
  "LE 11c41 ST 11c43 XX 11c50 NU 11c5a XX 11c72 LE 11c90 XX 11c92 EX 11ca8 XX 11ca9 EX 11cb7 ",
  "XX 11d00 LE 11d07 XX 11d08 LE 11d0a XX 11d0b LE 11d31 EX 11d37 XX 11d3a EX 11d3b XX 11d3c ",
  "EX 11d3e XX 11d3f EX 11d46 LE 11d47 EX 11d48 XX 11d50 NU 11d5a XX 11d60 LE 11d66 XX 11d67 ",
  "LE 11d69 XX 11d6a LE 11d8a EX 11d8f XX 11d90 EX 11d92 XX 11d93 EX 11d98 LE 11d99 XX 11da0 ",
  "NU 11daa XX 11ee0 LE 11ef3 EX 11ef7 ST 11ef9 XX 11f00 EX 11f02 LE 11f03 EX 11f04 LE 11f11 ",
  "XX 11f12 LE 11f34 EX 11f3b XX 11f3e EX 11f43 ST 11f45 XX 11f50 NU 11f5a EX 11f5b XX 11fb0 ",
  "LE 11fb1 XX 12000 LE 1239a XX 12400 LE 1246f XX 12480 LE 12544 XX 12f90 LE 12ff1 XX 13000 ",
  "LE 13430 FO 13440 EX 13441 LE 13447 EX 13456 XX 13460 LE 143fb XX 14400 LE 14647 XX 16100 ",
  "LE 1611e EX 16130 NU 1613a XX 16800 LE 16a39 XX 16a40 LE 16a5f XX 16a60 NU 16a6a XX 16a6e ",
  "ST 16a70 LE 16abf XX 16ac0 NU 16aca XX 16ad0 LE 16aee XX 16af0 EX 16af5 ST 16af6 XX 16b00 ",
  "LE 16b30 EX 16b37 ST 16b39 XX 16b40 LE 16b44 ST 16b45 XX 16b50 NU 16b5a XX 16b63 LE 16b78 ",
  "XX 16b7d LE 16b90 XX 16d40 LE 16d6d XX 16d6e ST 16d70 NU 16d7a XX 16e40 UP 16e60 LO 16e80 ",
  "XX 16e98 ST 16e99 XX 16f00 LE 16f4b XX 16f4f EX 16f50 LE 16f51 EX 16f88 XX 16f8f EX 16f93 ",
  "LE 16fa0 XX 16fe0 LE 16fe2 XX 16fe3 LE 16fe4 EX 16fe5 XX 16ff0 EX 16ff2 XX 17000 LE 187f8 ",
  "XX 18800 LE 18cd6 XX 18cff LE 18d09 XX 1aff0 LE 1aff4 XX 1aff5 LE 1affc XX 1affd LE 1afff ",
  "XX 1b000 LE 1b123 XX 1b132 LE 1b133 XX 1b150 LE 1b153 XX 1b155 LE 1b156 XX 1b164 LE 1b168 ",
  "XX 1b170 LE 1b2fc XX 1bc00 LE 1bc6b XX 1bc70 LE 1bc7d XX 1bc80 LE 1bc89 XX 1bc90 LE 1bc9a ",
  "XX 1bc9d EX 1bc9f ST 1bca0 FO 1bca4 XX 1ccf0 NU 1ccfa XX 1cf00 EX 1cf2e XX 1cf30 EX 1cf47 ",
  "XX 1d165 EX 1d16a XX 1d16d EX 1d173 FO 1d17b EX 1d183 XX 1d185 EX 1d18c XX 1d1aa EX 1d1ae ",
  "XX 1d242 EX 1d245 XX 1d400 UP 1d41a LO 1d434 UP 1d44e LO 1d455 XX 1d456 LO 1d468 UP 1d482 ",
  "LO 1d49c UP 1d49d XX 1d49e UP 1d4a0 XX 1d4a2 UP 1d4a3 XX 1d4a5 UP 1d4a7 XX 1d4a9 UP 1d4ad ",
  "XX 1d4ae UP 1d4b6 LO 1d4ba XX 1d4bb LO 1d4bc XX 1d4bd LO 1d4c4 XX 1d4c5 LO 1d4d0 UP 1d4ea ",
  "LO 1d504 UP 1d506 XX 1d507 UP 1d50b XX 1d50d UP 1d515 XX 1d516 UP 1d51d XX 1d51e LO 1d538 ",
  "UP 1d53a XX 1d53b UP 1d53f XX 1d540 UP 1d545 XX 1d546 UP 1d547 XX 1d54a UP 1d551 XX 1d552 ",
  "LO 1d56c UP 1d586 LO 1d5a0 UP 1d5ba LO 1d5d4 UP 1d5ee LO 1d608 UP 1d622 LO 1d63c UP 1d656 ",
  "LO 1d670 UP 1d68a LO 1d6a6 XX 1d6a8 UP 1d6c1 XX 1d6c2 LO 1d6db XX 1d6dc LO 1d6e2 UP 1d6fb ",
  "XX 1d6fc LO 1d715 XX 1d716 LO 1d71c UP 1d735 XX 1d736 LO 1d74f XX 1d750 LO 1d756 UP 1d76f ",
  "XX 1d770 LO 1d789 XX 1d78a LO 1d790 UP 1d7a9 XX 1d7aa LO 1d7c3 XX 1d7c4 LO 1d7ca UP 1d7cb ",
  "LO 1d7cc XX 1d7ce NU 1d800 XX 1da00 EX 1da37 XX 1da3b EX 1da6d XX 1da75 EX 1da76 XX 1da84 ",
  "EX 1da85 XX 1da88 ST 1da89 XX 1da9b EX 1daa0 XX 1daa1 EX 1dab0 XX 1df00 LO 1df0a LE 1df0b ",
  "LO 1df1f XX 1df25 LO 1df2b XX 1e000 EX 1e007 XX 1e008 EX 1e019 XX 1e01b EX 1e022 XX 1e023 ",
  "EX 1e025 XX 1e026 EX 1e02b XX 1e030 LO 1e06e XX 1e08f EX 1e090 XX 1e100 LE 1e12d XX 1e130 ",
  "EX 1e137 LE 1e13e XX 1e140 NU 1e14a XX 1e14e LE 1e14f XX 1e290 LE 1e2ae EX 1e2af XX 1e2c0 ",
  "LE 1e2ec EX 1e2f0 NU 1e2fa XX 1e4d0 LE 1e4ec EX 1e4f0 NU 1e4fa XX 1e5d0 LE 1e5ee EX 1e5f0 ",
  "LE 1e5f1 NU 1e5fb XX 1e7e0 LE 1e7e7 XX 1e7e8 LE 1e7ec XX 1e7ed LE 1e7ef XX 1e7f0 LE 1e7ff ",
  "XX 1e800 LE 1e8c5 XX 1e8d0 EX 1e8d7 XX 1e900 UP 1e922 LO 1e944 EX 1e94b LE 1e94c XX 1e950 ",
  "NU 1e95a XX 1ee00 LE 1ee04 XX 1ee05 LE 1ee20 XX 1ee21 LE 1ee23 XX 1ee24 LE 1ee25 XX 1ee27 ",
  "LE 1ee28 XX 1ee29 LE 1ee33 XX 1ee34 LE 1ee38 XX 1ee39 LE 1ee3a XX 1ee3b LE 1ee3c XX 1ee42 ",
  "LE 1ee43 XX 1ee47 LE 1ee48 XX 1ee49 LE 1ee4a XX 1ee4b LE 1ee4c XX 1ee4d LE 1ee50 XX 1ee51 ",
  "LE 1ee53 XX 1ee54 LE 1ee55 XX 1ee57 LE 1ee58 XX 1ee59 LE 1ee5a XX 1ee5b LE 1ee5c XX 1ee5d ",
  "LE 1ee5e XX 1ee5f LE 1ee60 XX 1ee61 LE 1ee63 XX 1ee64 LE 1ee65 XX 1ee67 LE 1ee6b XX 1ee6c ",
  "LE 1ee73 XX 1ee74 LE 1ee78 XX 1ee79 LE 1ee7d XX 1ee7e LE 1ee7f XX 1ee80 LE 1ee8a XX 1ee8b ",
  "LE 1ee9c XX 1eea1 LE 1eea4 XX 1eea5 LE 1eeaa XX 1eeab LE 1eebc XX 1f130 UP 1f14a XX 1f150 ",
  "UP 1f16a XX 1f170 UP 1f18a XX 1f676 CL 1f679 XX 1fbf0 NU 1fbfa XX 20000 LE 2a6e0 XX 2a700 ",
  "LE 2b73a XX 2b740 LE 2b81e XX 2b820 LE 2cea2 XX 2ceb0 LE 2ebe1 XX 2ebf0 LE 2ee5e XX 2f800 ",
  "LE 2fa1e XX 30000 LE 3134b XX 31350 LE 323b0 XX e0001 FO e0002 XX e0020 EX e0080 XX e0100 ",
  "EX e01f0 XX"]

/-- The names of every sentence break value: its short name first, then its other names, joined
by `/`. -/
def sentenceBreakNames : String := String.join [
  "AT/ATerm CL/Close CR EX/Extend FO/Format LE/OLetter LF LO/Lower NU/Numeric SC/SContinue ",
  "SE/Sep SP/Sp ST/STerm UP/Upper XX/Other"]

end Recast.Unicode.Data
