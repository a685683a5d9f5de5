import FilterQuery.Text.Table

namespace FilterQuery.Url.Domain

open FilterQuery.Text

def markText : List String :=
  ["300 370 483 48a 591 5be 5bf 5c0 5c1 5c3 5c4 5c6 5c7 5c8 610 61b 64b 660 670 671 6d6 6dd 6df",
   "6e5 6e7 6e9 6ea 6ee 711 712 730 74b 7a6 7b1 7eb 7f4 7fd 7fe 816 81a 81b 824 825 828 829 82e",
   "859 85c 897 8a0 8ca 8e2 8e3 904 93a 93d 93e 950 951 958 962 964 981 984 9bc 9bd 9be 9c5 9c7",
   "9c9 9cb 9ce 9d7 9d8 9e2 9e4 9fe 9ff a01 a04 a3c a3d a3e a43 a47 a49 a4b a4e a51 a52 a70 a72",
   "a75 a76 a81 a84 abc abd abe ac6 ac7 aca acb ace ae2 ae4 afa b00 b01 b04 b3c b3d b3e b45 b47",
   "b49 b4b b4e b55 b58 b62 b64 b82 b83 bbe bc3 bc6 bc9 bca bce bd7 bd8 c00 c05 c3c c3d c3e c45",
   "c46 c49 c4a c4e c55 c57 c62 c64 c81 c84 cbc cbd cbe cc5 cc6 cc9 cca cce cd5 cd7 ce2 ce4 cf3",
   "cf4 d00 d04 d3b d3d d3e d45 d46 d49 d4a d4e d57 d58 d62 d64 d81 d84 dca dcb dcf dd5 dd6 dd7",
   "dd8 de0 df2 df4 e31 e32 e34 e3b e47 e4f eb1 eb2 eb4 ebd ec8 ecf f18 f1a f35 f36 f37 f38 f39",
   "f3a f3e f40 f71 f85 f86 f88 f8d f98 f99 fbd fc6 fc7 102b 103f 1056 105a 105e 1061 1062 1065",
   "1067 106e 1071 1075 1082 108e 108f 1090 109a 109e 135d 1360 1712 1716 1732 1735 1752 1754",
   "1772 1774 17b4 17d4 17dd 17de 180b 180e 180f 1810 1885 1887 18a9 18aa 1920 192c 1930 193c",
   "1a17 1a1c 1a55 1a5f 1a60 1a7d 1a7f 1a80 1ab0 1ade 1ae0 1aec 1b00 1b05 1b34 1b45 1b6b 1b74",
   "1b80 1b83 1ba1 1bae 1be6 1bf4 1c24 1c38 1cd0 1cd3 1cd4 1ce9 1ced 1cee 1cf4 1cf5 1cf7 1cfa",
   "1dc0 1e00 20d0 20f1 2cef 2cf2 2d7f 2d80 2de0 2e00 302a 3030 3099 309b a66f a673 a674 a67e",
   "a69e a6a0 a6f0 a6f2 a802 a803 a806 a807 a80b a80c a823 a828 a82c a82d a880 a882 a8b4 a8c6",
   "a8e0 a8f2 a8ff a900 a926 a92e a947 a954 a980 a984 a9b3 a9c1 a9e5 a9e6 aa29 aa37 aa43 aa44",
   "aa4c aa4e aa7b aa7e aab0 aab1 aab2 aab5 aab7 aab9 aabe aac0 aac1 aac2 aaeb aaf0 aaf5 aaf7",
   "abe3 abeb abec abee fb1e fb1f fe00 fe10 fe20 fe30 101fd 101fe 102e0 102e1 10376 1037b 10a01",
   "10a04 10a05 10a07 10a0c 10a10 10a38 10a3b 10a3f 10a40 10ae5 10ae7 10d24 10d28 10d69 10d6e",
   "10eab 10ead 10efa 10f00 10f46 10f51 10f82 10f86 11000 11003 11038 11047 11070 11071 11073",
   "11075 1107f 11083 110b0 110bb 110c2 110c3 11100 11103 11127 11135 11145 11147 11173 11174",
   "11180 11183 111b3 111c1 111c9 111cd 111ce 111d0 1122c 11238 1123e 1123f 11241 11242 112df",
   "112eb 11300 11304 1133b 1133d 1133e 11345 11347 11349 1134b 1134e 11357 11358 11362 11364",
   "11366 1136d 11370 11375 113b8 113c1 113c2 113c3 113c5 113c6 113c7 113cb 113cc 113d1 113d2",
   "113d3 113e1 113e3 11435 11447 1145e 1145f 114b0 114c4 115af 115b6 115b8 115c1 115dc 115de",
   "11630 11641 116ab 116b8 1171d 1172c 1182c 1183b 11930 11936 11937 11939 1193b 1193f 11940",
   "11941 11942 11944 119d1 119d8 119da 119e1 119e4 119e5 11a01 11a0b 11a33 11a3a 11a3b 11a3f",
   "11a47 11a48 11a51 11a5c 11a8a 11a9a 11b60 11b68 11c2f 11c37 11c38 11c40 11c92 11ca8 11ca9",
   "11cb7 11d31 11d37 11d3a 11d3b 11d3c 11d3e 11d3f 11d46 11d47 11d48 11d8a 11d8f 11d90 11d92",
   "11d93 11d98 11ef3 11ef7 11f00 11f02 11f03 11f04 11f34 11f3b 11f3e 11f43 11f5a 11f5b 13440",
   "13441 13447 13456 1611e 16130 16af0 16af5 16b30 16b37 16f4f 16f50 16f51 16f88 16f8f 16f93",
   "16fe4 16fe5 16ff0 16ff2 1bc9d 1bc9f 1cf00 1cf2e 1cf30 1cf47 1d165 1d16a 1d16d 1d173 1d17b",
   "1d183 1d185 1d18c 1d1aa 1d1ae 1d242 1d245 1da00 1da37 1da3b 1da6d 1da75 1da76 1da84 1da85",
   "1da9b 1daa0 1daa1 1dab0 1e000 1e007 1e008 1e019 1e01b 1e022 1e023 1e025 1e026 1e02b 1e08f",
   "1e090 1e130 1e137 1e2ae 1e2af 1e2ec 1e2f0 1e4ec 1e4f0 1e5ee 1e5f0 1e6e3 1e6e4 1e6e6 1e6e7",
   "1e6ee 1e6f0 1e6f5 1e6f6 1e8d0 1e8d7 1e944 1e94b e0100 e01f0"]

def joinsNextText : List String :=
  ["620 621 626 627 628 629 62a 62f 633 640 641 648 649 64b 66e 670 678 688 69a 6c0 6c1 6c3 6cc",
   "6cd 6ce 6cf 6d0 6d2 6fa 6fd 6ff 700 712 715 71a 71e 71f 728 729 72a 72b 72c 72d 72f 74e 759",
   "75c 76b 76d 771 772 773 775 778 77a 780 7ca 7eb 841 846 848 849 84a 854 855 856 860 861 862",
   "866 868 869 886 887 889 88e 88f 890 8a0 8aa 8af 8b1 8b3 8b9 8ba 8c9 1807 1808 1820 1879",
   "1887 18a9 18aa 18ab a840 a873 10ac0 10ac5 10acd 10ace 10ad3 10add 10ade 10ae1 10aeb 10aef",
   "10b80 10b81 10b82 10b83 10b86 10b89 10b8a 10b8c 10b8d 10b8e 10b90 10b91 10bad 10baf 10d00",
   "10d22 10d23 10d24 10ec3 10ec5 10ec6 10ec8 10f30 10f33 10f34 10f45 10f51 10f54 10f70 10f74",
   "10f76 10f82 10fb0 10fb1 10fb2 10fb4 10fb8 10fb9 10fbb 10fbd 10fbe 10fc0 10fc1 10fc2 10fc4",
   "10fc5 10fca 10fcc 1e900 1e944"]

def joinsPreviousText : List String :=
  ["620 621 622 640 641 64b 66e 670 671 674 675 6d4 6d5 6d6 6ee 6f0 6fa 6fd 6ff 700 710 711 712",
   "730 74d 780 7ca 7eb 840 859 860 861 862 866 867 86b 870 883 886 887 889 890 8a0 8ad 8ae 8c9",
   "1807 1808 1820 1879 1887 18a9 18aa 18ab a840 a872 10ac0 10ac6 10ac7 10ac8 10ac9 10acb 10ace",
   "10ad7 10ad8 10ae2 10ae4 10ae5 10aeb 10af0 10b80 10b92 10ba9 10baf 10d01 10d24 10ec2 10ec5",
   "10ec6 10ec8 10f30 10f45 10f51 10f55 10f70 10f82 10fb0 10fb1 10fb2 10fb7 10fb8 10fc0 10fc1",
   "10fc5 10fc9 10fcb 1e900 1e944"]

def transparentText : List String :=
  ["ad ae 300 370 483 48a 591 5be 5bf 5c0 5c1 5c3 5c4 5c6 5c7 5c8 610 61b 61c 61d 64b 660 670",
   "671 6d6 6dd 6df 6e5 6e7 6e9 6ea 6ee 70f 710 711 712 730 74b 7a6 7b1 7eb 7f4 7fd 7fe 816 81a",
   "81b 824 825 828 829 82e 859 85c 897 8a0 8ca 8e2 8e3 903 93a 93b 93c 93d 941 949 94d 94e 951",
   "958 962 964 981 982 9bc 9bd 9c1 9c5 9cd 9ce 9e2 9e4 9fe 9ff a01 a03 a3c a3d a41 a43 a47 a49",
   "a4b a4e a51 a52 a70 a72 a75 a76 a81 a83 abc abd ac1 ac6 ac7 ac9 acd ace ae2 ae4 afa b00 b01",
   "b02 b3c b3d b3f b40 b41 b45 b4d b4e b55 b57 b62 b64 b82 b83 bc0 bc1 bcd bce c00 c01 c04 c05",
   "c3c c3d c3e c41 c46 c49 c4a c4e c55 c57 c62 c64 c81 c82 cbc cbd cbf cc0 cc6 cc7 ccc cce ce2",
   "ce4 d00 d02 d3b d3d d41 d45 d4d d4e d62 d64 d81 d82 dca dcb dd2 dd5 dd6 dd7 e31 e32 e34 e3b",
   "e47 e4f eb1 eb2 eb4 ebd ec8 ecf f18 f1a f35 f36 f37 f38 f39 f3a f71 f7f f80 f85 f86 f88 f8d",
   "f98 f99 fbd fc6 fc7 102d 1031 1032 1038 1039 103b 103d 103f 1058 105a 105e 1061 1071 1075",
   "1082 1083 1085 1087 108d 108e 109d 109e 135d 1360 1712 1715 1732 1734 1752 1754 1772 1774",
   "17b4 17b6 17b7 17be 17c6 17c7 17c9 17d4 17dd 17de 180b 180e 180f 1810 1885 1887 18a9 18aa",
   "1920 1923 1927 1929 1932 1933 1939 193c 1a17 1a19 1a1b 1a1c 1a56 1a57 1a58 1a5f 1a60 1a61",
   "1a62 1a63 1a65 1a6d 1a73 1a7d 1a7f 1a80 1ab0 1ade 1ae0 1aec 1b00 1b04 1b34 1b35 1b36 1b3b",
   "1b3c 1b3d 1b42 1b43 1b6b 1b74 1b80 1b82 1ba2 1ba6 1ba8 1baa 1bab 1bae 1be6 1be7 1be8 1bea",
   "1bed 1bee 1bef 1bf2 1c2c 1c34 1c36 1c38 1cd0 1cd3 1cd4 1ce1 1ce2 1ce9 1ced 1cee 1cf4 1cf5",
   "1cf8 1cfa 1dc0 1e00 200b 200c 200e 2010 202a 202f 2060 2065 206a 2070 20d0 20f1 2cef 2cf2",
   "2d7f 2d80 2de0 2e00 302a 302e 3099 309b a66f a673 a674 a67e a69e a6a0 a6f0 a6f2 a802 a803",
   "a806 a807 a80b a80c a825 a827 a82c a82d a8c4 a8c6 a8e0 a8f2 a8ff a900 a926 a92e a947 a952",
   "a980 a983 a9b3 a9b4 a9b6 a9ba a9bc a9be a9e5 a9e6 aa29 aa2f aa31 aa33 aa35 aa37 aa43 aa44",
   "aa4c aa4d aa7c aa7d aab0 aab1 aab2 aab5 aab7 aab9 aabe aac0 aac1 aac2 aaec aaee aaf6 aaf7",
   "abe5 abe6 abe8 abe9 abed abee fb1e fb1f fe00 fe10 fe20 fe30 feff ff00 fff9 fffc 101fd 101fe",
   "102e0 102e1 10376 1037b 10a01 10a04 10a05 10a07 10a0c 10a10 10a38 10a3b 10a3f 10a40 10ae5",
   "10ae7 10d24 10d28 10d69 10d6e 10eab 10ead 10efa 10f00 10f46 10f51 10f82 10f86 11001 11002",
   "11038 11047 11070 11071 11073 11075 1107f 11082 110b3 110b7 110b9 110bb 110c2 110c3 11100",
   "11103 11127 1112c 1112d 11135 11173 11174 11180 11182 111b6 111bf 111c9 111cd 111cf 111d0",
   "1122f 11232 11234 11235 11236 11238 1123e 1123f 11241 11242 112df 112e0 112e3 112eb 11300",
   "11302 1133b 1133d 11340 11341 11366 1136d 11370 11375 113bb 113c1 113ce 113cf 113d0 113d1",
   "113d2 113d3 113e1 113e3 11438 11440 11442 11445 11446 11447 1145e 1145f 114b3 114b9 114ba",
   "114bb 114bf 114c1 114c2 114c4 115b2 115b6 115bc 115be 115bf 115c1 115dc 115de 11633 1163b",
   "1163d 1163e 1163f 11641 116ab 116ac 116ad 116ae 116b0 116b6 116b7 116b8 1171d 1171e 1171f",
   "11720 11722 11726 11727 1172c 1182f 11838 11839 1183b 1193b 1193d 1193e 1193f 11943 11944",
   "119d4 119d8 119da 119dc 119e0 119e1 11a01 11a0b 11a33 11a39 11a3b 11a3f 11a47 11a48 11a51",
   "11a57 11a59 11a5c 11a8a 11a97 11a98 11a9a 11b60 11b61 11b62 11b65 11b66 11b67 11c30 11c37",
   "11c38 11c3e 11c3f 11c40 11c92 11ca8 11caa 11cb1 11cb2 11cb4 11cb5 11cb7 11d31 11d37 11d3a",
   "11d3b 11d3c 11d3e 11d3f 11d46 11d47 11d48 11d90 11d92 11d95 11d96 11d97 11d98 11ef3 11ef5",
   "11f00 11f02 11f36 11f3b 11f40 11f41 11f42 11f43 11f5a 11f5b 13430 13441 13447 13456 1611e",
   "1612a 1612d 16130 16af0 16af5 16b30 16b37 16f4f 16f50 16f8f 16f93 16fe4 16fe5 1bc9d 1bc9f",
   "1bca0 1bca4 1cf00 1cf2e 1cf30 1cf47 1d167 1d16a 1d173 1d183 1d185 1d18c 1d1aa 1d1ae 1d242",
   "1d245 1da00 1da37 1da3b 1da6d 1da75 1da76 1da84 1da85 1da9b 1daa0 1daa1 1dab0 1e000 1e007",
   "1e008 1e019 1e01b 1e022 1e023 1e025 1e026 1e02b 1e08f 1e090 1e130 1e137 1e2ae 1e2af 1e2ec",
   "1e2f0 1e4ec 1e4f0 1e5ee 1e5f0 1e6e3 1e6e4 1e6e6 1e6e7 1e6ee 1e6f0 1e6f5 1e6f6 1e8d0 1e8d7",
   "1e944 1e94c e0001 e0002 e0020 e0080 e0100 e01f0"]

def rightToLeftText : List String :=
  ["590 591 5be 5bf 5c0 5c1 5c3 5c4 5c6 5c7 5c8 600 608 609 60b 60c 60d 60e 61b 64b 66d 670 671",
   "6d6 6e5 6e7 6ee 6f0 6fa 711 712 730 74b 7a6 7b1 7eb 7f4 7f6 7fa 7fd 7fe 816 81a 81b 824 825",
   "828 829 82e 859 85c 890 892 897 8a0 8ca 200f 2010 fb1d fb1e fb1f fb29 fb2a fd3e fd50 fdcf",
   "fdf0 fdfd fe70 feff 10800 1091f 10920 10a01 10a04 10a05 10a07 10a0c 10a10 10a38 10a3b 10a3f",
   "10a40 10ae5 10ae7 10b39 10b40 10d24 10d28 10d30 10d3a 10d69 10d6e 10e60 10e7f 10eab 10ead",
   "10efa 10f00 10f46 10f51 10f82 10f86 11000 1e800 1e8d0 1e8d7 1e944 1e94b 1eef0 1eef2 1f000"]

def arabicNumberText : List String :=
  ["600 606 660 66a 66b 66d 6dd 6de 890 892 8e2 8e3 10d30 10d3a 10e60 10e7f"]

def europeanNumberText : List String :=
  ["30 3a b2 b4 b9 ba 6f0 6fa 2070 2071 2074 207a 2080 208a 2488 249c ff10 ff1a 102e1 102fc",
   "1d7ce 1d800 1f100 1f10b 1fbf0 1fbfa"]

/-- Characters without a direction of their own: separators, terminators and other neutral ones. -/
def neutralText : List String :=
  ["0 9 e 1c 21 30 3a 41 5b 61 7b 85 86 aa ab b2 b4 b5 b6 b9 bb c0 d7 d8 f7 f8 2b9 2bb 2c2 2d0",
   "2d2 2e0 2e5 2ee 2ef 300 374 376 37e 37f 384 386 387 388 3f6 3f7 58a 58b 58d 590 606 608 609",
   "60b 60c 60d 60e 610 66a 66b 6de 6df 6e9 6ea 7f6 7fa 9f2 9f4 9fb 9fc af1 af2 bf3 bfb c78 c7f",
   "e3f e40 f3a f3e 1390 139a 1400 1401 169b 169d 17db 17dc 17f0 17fa 1800 180b 180e 180f 1940",
   "1941 1944 1946 19de 1a00 1b4e 1b50 1b7f 1b80 1fbd 1fbe 1fbf 1fc2 1fcd 1fd0 1fdd 1fe0 1fed",
   "1ff0 1ffd 1fff 200b 200e 2010 2028 202f 205f 2060 2066 206a 2070 207a 207f 208a 208f 20a0",
   "20d0 2100 2102 2103 2107 2108 210a 2114 2115 2116 2119 211e 2124 2125 2126 2127 2128 2129",
   "212a 212e 212f 213a 213c 2140 2145 214a 214e 2150 2160 2189 218c 2190 2336 237b 2395 2396",
   "242a 2440 244b 2460 2488 24ea 26ac 26ad 2800 2900 2b74 2b76 2c00 2ce5 2ceb 2cf9 2d00 2e00",
   "2e5e 2e80 2e9a 2e9b 2ef4 2f00 2fd6 2ff0 3000 3001 3005 3008 3021 3030 3031 3036 3038 303d",
   "3040 309b 309d 30a0 30a1 30fb 30fc 31c0 31e6 31ef 31f0 321d 321f 3250 3260 327c 327f 32b1",
   "32c0 32cc 32d0 3377 337b 33de 33e0 33ff 3400 4dc0 4e00 a490 a4c7 a60d a610 a673 a674 a67e",
   "a680 a700 a722 a788 a789 a828 a82c a838 a83a a874 a878 ab6a ab6c fb29 fb2a fd3e fd50 fdcf",
   "fdf0 fdfd fe00 fe10 fe1a fe30 fe53 fe54 fe67 fe68 fe6c feff ff00 ff01 ff10 ff1a ff21 ff3b",
   "ff41 ff5b ff66 ffe0 ffe7 ffe8 ffef fff0 10000 10101 10102 10140 1018d 10190 1019d 101a0",
   "101a1 1091f 10920 10b39 10b40 11052 11066 113d4 113d6 113d7 113d9 11660 1166d 11be1 11be2",
   "11fd5 11ff2 16d6d 16d70 16fe2 16fe3 1bca0 1bca4 1cc00 1ccf0 1ccfa 1ccfd 1cd00 1ceb4 1ceba",
   "1ced1 1cee0 1cef1 1d173 1d17b 1d1e9 1d1eb 1d200 1d242 1d245 1d246 1d300 1d357 1d6db 1d6dc",
   "1d715 1d716 1d74f 1d750 1d789 1d78a 1d7c3 1d7c4 1e2ff 1e300 1e5ff 1e600 1eef0 1eef2 1f000",
   "1f02c 1f030 1f094 1f0a0 1f0af 1f0b1 1f0c0 1f0c1 1f0d0 1f0d1 1f0f6 1f10b 1f110 1f12f 1f130",
   "1f16a 1f170 1f1ad 1f1ae 1f260 1f266 1f300 1f6d9 1f6dc 1f6ed 1f6f0 1f6fd 1f700 1f7da 1f7e0",
   "1f7ec 1f7f0 1f7f1 1f800 1f80c 1f810 1f848 1f850 1f85a 1f860 1f888 1f890 1f8ae 1f8b0 1f8bc",
   "1f8c0 1f8c2 1f8d0 1f8d9 1f900 1fa58 1fa60 1fa6e 1fa70 1fa7d 1fa80 1fa8b 1fa8e 1fac7 1fac8",
   "1fac9 1facd 1fadd 1fadf 1faeb 1faef 1faf9 1fb00 1fb93 1fb94 1fbf0 1fbfa 1fbfb 1fffe 20000",
   "2fffe 30000 3fffe 40000 4fffe 50000 5fffe 60000 6fffe 70000 7fffe 80000 8fffe 90000 9fffe",
   "a0000 afffe b0000 bfffe c0000 cfffe d0000 dfffe e0100 e01f0 e1000 efffe f0000 ffffe 100000",
   "10fffe 110000"]

def nonspacingText : List String :=
  ["300 370 483 48a 591 5be 5bf 5c0 5c1 5c3 5c4 5c6 5c7 5c8 610 61b 64b 660 670 671 6d6 6dd 6df",
   "6e5 6e7 6e9 6ea 6ee 711 712 730 74b 7a6 7b1 7eb 7f4 7fd 7fe 816 81a 81b 824 825 828 829 82e",
   "859 85c 897 8a0 8ca 8e2 8e3 903 93a 93b 93c 93d 941 949 94d 94e 951 958 962 964 981 982 9bc",
   "9bd 9c1 9c5 9cd 9ce 9e2 9e4 9fe 9ff a01 a03 a3c a3d a41 a43 a47 a49 a4b a4e a51 a52 a70 a72",
   "a75 a76 a81 a83 abc abd ac1 ac6 ac7 ac9 acd ace ae2 ae4 afa b00 b01 b02 b3c b3d b3f b40 b41",
   "b45 b4d b4e b55 b57 b62 b64 b82 b83 bc0 bc1 bcd bce c00 c01 c04 c05 c3c c3d c3e c41 c46 c49",
   "c4a c4e c55 c57 c62 c64 c81 c82 cbc cbd ccc cce ce2 ce4 d00 d02 d3b d3d d41 d45 d4d d4e d62",
   "d64 d81 d82 dca dcb dd2 dd5 dd6 dd7 e31 e32 e34 e3b e47 e4f eb1 eb2 eb4 ebd ec8 ecf f18 f1a",
   "f35 f36 f37 f38 f39 f3a f71 f7f f80 f85 f86 f88 f8d f98 f99 fbd fc6 fc7 102d 1031 1032 1038",
   "1039 103b 103d 103f 1058 105a 105e 1061 1071 1075 1082 1083 1085 1087 108d 108e 109d 109e",
   "135d 1360 1712 1715 1732 1734 1752 1754 1772 1774 17b4 17b6 17b7 17be 17c6 17c7 17c9 17d4",
   "17dd 17de 180b 180e 180f 1810 1885 1887 18a9 18aa 1920 1923 1927 1929 1932 1933 1939 193c",
   "1a17 1a19 1a1b 1a1c 1a56 1a57 1a58 1a5f 1a60 1a61 1a62 1a63 1a65 1a6d 1a73 1a7d 1a7f 1a80",
   "1ab0 1ade 1ae0 1aec 1b00 1b04 1b34 1b35 1b36 1b3b 1b3c 1b3d 1b42 1b43 1b6b 1b74 1b80 1b82",
   "1ba2 1ba6 1ba8 1baa 1bab 1bae 1be6 1be7 1be8 1bea 1bed 1bee 1bef 1bf2 1c2c 1c34 1c36 1c38",
   "1cd0 1cd3 1cd4 1ce1 1ce2 1ce9 1ced 1cee 1cf4 1cf5 1cf8 1cfa 1dc0 1e00 20d0 20f1 2cef 2cf2",
   "2d7f 2d80 2de0 2e00 302a 302e 3099 309b a66f a673 a674 a67e a69e a6a0 a6f0 a6f2 a802 a803",
   "a806 a807 a80b a80c a825 a827 a82c a82d a8c4 a8c6 a8e0 a8f2 a8ff a900 a926 a92e a947 a952",
   "a980 a983 a9b3 a9b4 a9b6 a9ba a9bc a9be a9e5 a9e6 aa29 aa2f aa31 aa33 aa35 aa37 aa43 aa44",
   "aa4c aa4d aa7c aa7d aab0 aab1 aab2 aab5 aab7 aab9 aabe aac0 aac1 aac2 aaec aaee aaf6 aaf7",
   "abe5 abe6 abe8 abe9 abed abee fb1e fb1f fe00 fe10 fe20 fe30 101fd 101fe 102e0 102e1 10376",
   "1037b 10a01 10a04 10a05 10a07 10a0c 10a10 10a38 10a3b 10a3f 10a40 10ae5 10ae7 10d24 10d28",
   "10d69 10d6e 10eab 10ead 10efa 10f00 10f46 10f51 10f82 10f86 11001 11002 11038 11047 11070",
   "11071 11073 11075 1107f 11082 110b3 110b7 110b9 110bb 110c2 110c3 11100 11103 11127 1112c",
   "1112d 11135 11173 11174 11180 11182 111b6 111bf 111c9 111cd 111cf 111d0 1122f 11232 11234",
   "11235 11236 11238 1123e 1123f 11241 11242 112df 112e0 112e3 112eb 11300 11302 1133b 1133d",
   "11340 11341 11366 1136d 11370 11375 113bb 113c1 113ce 113cf 113d0 113d1 113d2 113d3 113e1",
   "113e3 11438 11440 11442 11445 11446 11447 1145e 1145f 114b3 114b9 114ba 114bb 114bf 114c1",
   "114c2 114c4 115b2 115b6 115bc 115be 115bf 115c1 115dc 115de 11633 1163b 1163d 1163e 1163f",
   "11641 116ab 116ac 116ad 116ae 116b0 116b6 116b7 116b8 1171d 11720 11722 11726 11727 1172c",
   "1182f 11838 11839 1183b 1193b 1193d 1193e 1193f 11943 11944 119d4 119d8 119da 119dc 119e0",
   "119e1 11a01 11a07 11a09 11a0b 11a33 11a39 11a3b 11a3f 11a47 11a48 11a51 11a57 11a59 11a5c",
   "11a8a 11a97 11a98 11a9a 11b60 11b61 11b62 11b65 11b66 11b67 11c30 11c37 11c38 11c3e 11c92",
   "11ca8 11caa 11cb1 11cb2 11cb4 11cb5 11cb7 11d31 11d37 11d3a 11d3b 11d3c 11d3e 11d3f 11d46",
   "11d47 11d48 11d90 11d92 11d95 11d96 11d97 11d98 11ef3 11ef5 11f00 11f02 11f36 11f3b 11f40",
   "11f41 11f42 11f43 11f5a 11f5b 13440 13441 13447 13456 1611e 1612a 1612d 16130 16af0 16af5",
   "16b30 16b37 16f4f 16f50 16f8f 16f93 16fe4 16fe5 1bc9d 1bc9f 1cf00 1cf2e 1cf30 1cf47 1d167",
   "1d16a 1d17b 1d183 1d185 1d18c 1d1aa 1d1ae 1d242 1d245 1da00 1da37 1da3b 1da6d 1da75 1da76",
   "1da84 1da85 1da9b 1daa0 1daa1 1dab0 1e000 1e007 1e008 1e019 1e01b 1e022 1e023 1e025 1e026",
   "1e02b 1e08f 1e090 1e130 1e137 1e2ae 1e2af 1e2ec 1e2f0 1e4ec 1e4f0 1e5ee 1e5f0 1e6e3 1e6e4",
   "1e6e6 1e6e7 1e6ee 1e6f0 1e6f5 1e6f6 1e8d0 1e8d7 1e944 1e94b e0100 e01f0"]

/-- Separators of lines and words, and characters that set a direction. -/
def separatorText : List String :=
  ["9 e 1c 21 85 86 1680 1681 2000 200b 2028 202f 205f 2060 2066 206a 3000 3001"]

def marks : List Nat := tableNumbers markText

def joinsNext : List Nat := tableNumbers joinsNextText

def joinsPrevious : List Nat := tableNumbers joinsPreviousText

def transparent : List Nat := tableNumbers transparentText

def rightToLeft : List Nat := tableNumbers rightToLeftText

def arabicNumbers : List Nat := tableNumbers arabicNumberText

def europeanNumbers : List Nat := tableNumbers europeanNumberText

def neutrals : List Nat := tableNumbers neutralText

def nonspacing : List Nat := tableNumbers nonspacingText

def separators : List Nat := tableNumbers separatorText

inductive Direction
  | leftToRight
  | rightToLeft
  | arabicNumber
  | europeanNumber
  | neutral
  | nonspacing
  | separator
deriving DecidableEq, Repr

def direction (c : Char) : Direction :=
  let n := c.toNat
  if within rightToLeft n then .rightToLeft
  else if within arabicNumbers n then .arabicNumber
  else if within europeanNumbers n then .europeanNumber
  else if within neutrals n then .neutral
  else if within nonspacing n then .nonspacing
  else if within separators n then .separator
  else .leftToRight

end FilterQuery.Url.Domain
