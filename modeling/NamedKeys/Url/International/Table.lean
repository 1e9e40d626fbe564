/-!
# Characters of international hosts

The characters beyond ASCII that labels of hosts may hold, by their direction of writing, and those with
a place in the rules for joiners and for some signs, as texts of ranges in hexadecimal numbers; `/2` marks
a range of which only every second character belongs to it.
-/

namespace NamedKeys.Url.International

/-- Letters and digits written from left to right. -/
def leftToRightRanges : String :=
  "df-f6 f8-ff 101-131/2 135 137-138 13a-13e/2 142-148/2 14b-177/2 17a-180/2 183 185 188
18c-18d 192 195 199-19b 19e 1a1-1a5/2 1a8 1aa-1ab 1ad 1b0 1b4 1b6 1b9-1bb 1bd-1c3 1ce-1da/2
1dc-1dd 1df-1ed/2 1ef-1f0 1f5 1f9-231/2 233-239 23c 23f-240 242 247-24d/2 24f-2af 2bb-2c1 2d0-2d1
2ee 371 373 377 37b-37d 390 3ac-3ce 3d7-3ef/2 3f3 3f8 3fb-3fc 430-45f 461-481/2 48b-4bf/2
4c2-4cc/2 4ce-4cf 4d1-52f/2 559 560-586 588 904-939 93d 950 960-961 966-96f 971-980 985-98c
98f-990 993-9a8 9aa-9b0 9b2 9b6-9b9 9bd 9ce 9e0-9e1 9e6-9f1 9fc a05-a0a a0f-a10 a13-a28 a2a-a30
a32 a35 a38-a39 a5c a66-a6f a72-a74 a85-a8d a8f-a91 a93-aa8 aaa-ab0 ab2-ab3 ab5-ab9 abd ad0
ae0-ae1 ae6-aef af9 b05-b0c b0f-b10 b13-b28 b2a-b30 b32-b33 b35-b39 b3d b5f-b61 b66-b6f b71 b83
b85-b8a b8e-b90 b92-b95 b99-b9a b9c b9e-b9f ba3-ba4 ba8-baa bae-bb9 bd0 be6-bef c05-c0c c0e-c10
c12-c28 c2a-c39 c3d c58-c5a c5d c60-c61 c66-c6f c80 c85-c8c c8e-c90 c92-ca8 caa-cb3 cb5-cb9 cbd
cdd-cde ce0-ce1 ce6-cef cf1-cf2 d04-d0c d0e-d10 d12-d3a d3d d4e d54-d56 d5f-d61 d66-d6f d7a-d7f
d85-d96 d9a-db1 db3-dbb dbd dc0-dc6 de6-def e01-e30 e32 e40-e46 e50-e59 e81-e82 e84 e86-e8a
e8c-ea3 ea5 ea7-eb0 eb2 ebd ec0-ec4 ec6 ed0-ed9 ede-edf f00 f0b f20-f29 f40-f42 f44-f47 f49-f4c
f4e-f51 f53-f56 f58-f5b f5d-f68 f6a-f6c f88-f8c 1000-102a 103f-1049 1050-1055 105a-105d 1061
1065-1066 106e-1070 1075-1081 108e 1090-1099 10d0-10fa 10fd-10ff 1200-1248 124a-124d 1250-1256
1258 125a-125d 1260-1288 128a-128d 1290-12b0 12b2-12b5 12b8-12be 12c0 12c2-12c5 12c8-12d6
12d8-1310 1312-1315 1318-135a 1380-138f 13a0-13f5 1401-166c 166f-167f 1681-169a 16a0-16ea
16f1-16f8 1700-1711 171f-1731 1740-1751 1760-176c 176e-1770 1780-17b3 17d7 17dc 17e0-17e9
1810-1819 1820-1878 1880-1884 1887-18a8 18aa 18b0-18f5 1900-191e 1946-196d 1970-1974 1980-19ab
19b0-19c9 19d0-19d9 1a00-1a16 1a20-1a54 1a80-1a89 1a90-1a99 1aa7 1b05-1b33 1b45-1b4c 1b50-1b59
1b83-1ba0 1bae-1be5 1c00-1c23 1c40-1c49 1c4d-1c7d 1ce9-1cec 1cee-1cf3 1cf5-1cf6 1cfa 1d00-1d2b
1d2f 1d3b 1d4e 1d6b-1d77 1d79-1d9a 1e01-1e93/2 1e95-1e99 1e9c-1e9d 1e9f-1efd/2 1eff-1f07 1f10-1f15
1f20-1f27 1f30-1f37 1f40-1f45 1f50-1f57 1f60-1f67 1f70-1f7c/2 1fb0-1fb1 1fb6 1fc6 1fd0-1fd2
1fd6-1fd7 1fe0-1fe2 1fe4-1fe7 1ff6 214e 2184 2c30-2c5f 2c61 2c65-2c66 2c68-2c6c/2 2c71 2c73-2c74
2c76-2c7b 2c81-2ce1/2 2ce3-2ce4 2cec 2cee 2cf3 2d00-2d25 2d27 2d2d 2d30-2d67 2d80-2d96 2da0-2da6
2da8-2dae 2db0-2db6 2db8-2dbe 2dc0-2dc6 2dc8-2dce 2dd0-2dd6 2dd8-2dde 3005-3007 303c 3041-3096
309d-309e 30a1-30fa 30fc-30fe 3105-312f 31a0-31bf 31f0-31ff 3400-4dbf 4e00-a48c a4d0-a4fd
a500-a60c a610-a62b a641-a66b/2 a66d-a66e a681-a69b/2 a6a0-a6e5 a723-a72d/2 a72f-a731 a733-a76f/2
a771-a778 a77a a77c a77f-a787/2 a78c a78e-a78f a791 a793-a795 a797-a7a9/2 a7af a7b5-a7c3/2 a7c8
a7ca a7d1-a7d9/2 a7f6-a7f7 a7fa-a801 a803-a805 a807-a80a a80c-a822 a840-a873 a882-a8b3 a8d0-a8d9
a8f2-a8f7 a8fb a8fd-a8fe a900-a925 a930-a946 a984-a9b2 a9cf-a9d9 a9e0-a9e4 a9e6-a9fe aa00-aa28
aa40-aa42 aa44-aa4b aa50-aa59 aa60-aa76 aa7a aa7e-aaaf aab1 aab5-aab6 aab9-aabd aac0 aac2
aadb-aadd aae0-aaea aaf2-aaf4 ab01-ab06 ab09-ab0e ab11-ab16 ab20-ab26 ab28-ab2e ab30-ab5a
ab60-ab68 abc0-abe2 abf0-abf9 ac00-d7a3 fa0e-fa0f fa11 fa13-fa14 fa1f fa21 fa23-fa24 fa27-fa29
10000-1000b 1000d-10026 10028-1003a 1003c-1003d 1003f-1004d 10050-1005d 10080-100fa 10280-1029c
102a0-102d0 10300-1031f 1032d-10340 10342-10349 10350-10375 10380-1039d 103a0-103c3 103c8-103cf
10428-1049d 104a0-104a9 104d8-104fb 10500-10527 10530-10563 10597-105a1 105a3-105b1 105b3-105b9
105bb-105bc 10600-10736 10740-10755 10760-10767 10780 11003-11037 11066-1106f 11071-11072 11075
11083-110af 110d0-110e8 110f0-110f9 11103-11126 11136-1113f 11144 11147 11150-11172 11176
11183-111b2 111c1-111c4 111d0-111da 111dc 11200-11211 11213-1122b 11280-11286 11288 1128a-1128d
1128f-1129d 1129f-112a8 112b0-112de 112f0-112f9 11305-1130c 1130f-11310 11313-11328 1132a-11330
11332-11333 11335-11339 1133d 11350 1135d-11361 11400-11434 11447-1144a 11450-11459 1145f-11461
11480-114af 114c4-114c5 114c7 114d0-114d9 11580-115ae 115d8-115db 11600-1162f 11644 11650-11659
11680-116aa 116b8 116c0-116c9 11700-1171a 11730-11739 11740-11746 11800-1182b 118c0-118e9
118ff-11906 11909 1190c-11913 11915-11916 11918-1192f 1193f 11941 11950-11959 119a0-119a7
119aa-119d0 119e1 119e3 11a00 11a0b-11a32 11a3a 11a50 11a5c-11a89 11a9d 11ab0-11af8 11c00-11c08
11c0a-11c2e 11c40 11c50-11c59 11c72-11c8f 11d00-11d06 11d08-11d09 11d0b-11d30 11d46 11d50-11d59
11d60-11d65 11d67-11d68 11d6a-11d89 11d98 11da0-11da9 11ee0-11ef2 11fb0 12000-12399 12480-12543
12f90-12ff0 13000-1342e 14400-14646 16800-16a38 16a40-16a5e 16a60-16a69 16a70-16abe 16ac0-16ac9
16ad0-16aed 16b00-16b2f 16b40-16b43 16b50-16b59 16b63-16b77 16b7d-16b8f 16e60-16e7f 16f00-16f4a
16f50 16f93-16f9f 16fe0-16fe1 16fe3 17000-187f7 18800-18cd5 18d00-18d08 1aff0-1aff3 1aff5-1affb
1affd-1affe 1b000-1b122 1b150-1b152 1b164-1b167 1b170-1b2fb 1bc00-1bc6a 1bc70-1bc7c 1bc80-1bc88
1bc90-1bc99 1df00-1df1e 1e100-1e12c 1e137-1e13d 1e140-1e149 1e14e 1e290-1e2ad 1e2c0-1e2eb
1e2f0-1e2f9 1e7e0-1e7e6 1e7e8-1e7eb 1e7ed-1e7ee 1e7f0-1e7fe 20000-2a6df 2a700-2b738 2b740-2b81d
2b820-2cea1 2ceb0-2ebe0 30000-3134a"

/-- Marks that take a place of their own, written from left to right. -/
def spacingMarkRanges : String :=
  "903 93b 93e-940 949-94c 94e-94f 982-983 9be-9c0 9c7-9c8 9cb-9cc 9d7 a03 a3e-a40 a83 abe-ac0 ac9
acb-acc b02-b03 b3e b40 b47-b48 b4b-b4c b57 bbe-bbf bc1-bc2 bc6-bc8 bca-bcc bd7 c01-c03 c41-c44
c82-c83 cbe-cc4 cc6-cc8 cca-ccb cd5-cd6 d02-d03 d3e-d40 d46-d48 d4a-d4c d57 d82-d83 dcf-dd1
dd8-ddf df2-df3 f3e-f3f f7f 102b-102c 1031 1038 103b-103c 1056-1057 1062-1064 1067-106d 1083-1084
1087-108c 108f 109a-109c 1715 1734 17b6 17be-17c5 17c7-17c8 1923-1926 1929-192b 1930-1931
1933-1938 1a19-1a1a 1a55 1a57 1a61 1a63-1a64 1a6d-1a72 1b04 1b35 1b3b 1b3d-1b41 1b43-1b44 1b82
1ba1 1ba6-1ba7 1baa 1be7 1bea-1bec 1bee 1bf2-1bf3 1c24-1c2b 1c34-1c35 1ce1 1cf7 a823-a824 a827
a880-a881 a8b4-a8c3 a952-a953 a983 a9b4-a9b5 a9ba-a9bb a9be-a9c0 aa2f-aa30 aa33-aa34 aa4d aa7b
aa7d aaeb aaee-aaef aaf5 abe3-abe4 abe6-abe7 abe9-abea abec 11000 11002 11082 110b0-110b2
110b7-110b8 1112c 11145-11146 11182 111b3-111b5 111bf-111c0 111ce 1122c-1122e 11232-11233 11235
112e0-112e2 11302-11303 1133e-1133f 11341-11344 11347-11348 1134b-1134d 11357 11362-11363
11435-11437 11440-11441 11445 114b0-114b2 114b9 114bb-114be 114c1 115af-115b1 115b8-115bb 115be
11630-11632 1163b-1163c 1163e 116ac 116ae-116af 116b6 11720-11721 11726 1182c-1182e 11838
11930-11935 11937-11938 1193d 11940 11942 119d1-119d3 119dc-119df 119e4 11a07-11a08 11a39
11a57-11a58 11a97 11c2f 11c3e-11c3f 11ca9 11cb1 11cb4 11d8a-11d8e 11d93-11d94 11d96 11ef5-11ef6
16f51-16f87 16ff0-16ff1"

/-- Marks that take no place of their own. -/
def markRanges : String :=
  "300-33f 342 346-34e 350-36f 483-487 591-5bd 5bf 5c1-5c2 5c4-5c5 5c7 610-61a 64b-65f 670 6d6-6dc
6df-6e4 6e7-6e8 6ea-6ed 711 730-74a 7a6-7b0 7eb-7f3 7fd 816-819 81b-823 825-827 829-82d 859-85b
898-89f 8ca-8e1 8e3-902 93a 93c 941-948 94d 951-957 962-963 981 9bc 9c1-9c4 9cd 9e2-9e3 9fe
a01-a02 a3c a41-a42 a47-a48 a4b-a4d a51 a70-a71 a75 a81-a82 abc ac1-ac5 ac7-ac8 acd ae2-ae3
afa-aff b01 b3c b3f b41-b44 b4d b55-b56 b62-b63 b82 bc0 bcd c00 c04 c3c c3e-c40 c46-c48 c4a-c4d
c55-c56 c62-c63 c81 cbc ccc-ccd ce2-ce3 d00-d01 d3b-d3c d41-d44 d4d d62-d63 d81 dca dd2-dd4 dd6
e31 e34-e3a e47-e4e eb1 eb4-ebc ec8-ecd f18-f19 f35-f39/2 f71-f72 f74 f7a-f7e f80 f82-f84 f86-f87
f8d-f92 f94-f97 f99-f9c f9e-fa1 fa3-fa6 fa8-fab fad-fb8 fba-fbc fc6 102d-1030 1032-1037 1039-103a
103d-103e 1058-1059 105e-1060 1071-1074 1082 1085-1086 108d 109d 135d-135f 1712-1714 1732-1733
1752-1753 1772-1773 17b7-17bd 17c6 17c9-17d3 17dd 1885-1886 18a9 1920-1922 1927-1928 1932
1939-193b 1a17-1a18 1a1b 1a56 1a58-1a5e 1a60 1a62 1a65-1a6c 1a73-1a7c 1a7f 1ab0-1abd 1abf-1ace
1b00-1b03 1b34 1b36-1b3a 1b3c 1b42 1b6b-1b73 1b80-1b81 1ba2-1ba5 1ba8-1ba9 1bab-1bad 1be6
1be8-1be9 1bed 1bef-1bf1 1c2c-1c33 1c36-1c37 1cd0-1cd2 1cd4-1ce0 1ce2-1ce8 1ced 1cf4 1cf8-1cf9
1dc0-1dff 2cef-2cf1 2d7f 2de0-2dff 302a-302d 3099-309a a66f a674-a67d a69e-a69f a6f0-a6f1 a802
a806 a80b a825-a826 a82c a8c4-a8c5 a8e0-a8f1 a8ff a926-a92d a947-a951 a980-a982 a9b3 a9b6-a9b9
a9bc-a9bd a9e5 aa29-aa2e aa31-aa32 aa35-aa36 aa43 aa4c aa7c aab0 aab2-aab4 aab7-aab8 aabe-aabf
aac1 aaec-aaed aaf6 abe5 abe8 abed fb1e fe20-fe2f 101fd 102e0 10376-1037a 10a01-10a03 10a05-10a06
10a0c-10a0f 10a38-10a3a 10a3f 10ae5-10ae6 10d24-10d27 10eab-10eac 10f46-10f50 10f82-10f85 11001
11038-11046 11070 11073-11074 1107f-11081 110b3-110b6 110b9-110ba 110c2 11100-11102 11127-1112b
1112d-11134 11173 11180-11181 111b6-111be 111c9-111cc 111cf 1122f-11231 11234 11236-11237 1123e
112df 112e3-112ea 11300-11301 1133b-1133c 11340 11366-1136c 11370-11374 11438-1143f 11442-11444
11446 1145e 114b3-114b8 114ba 114bf-114c0 114c2-114c3 115b2-115b5 115bc-115bd 115bf-115c0
115dc-115dd 11633-1163a 1163d 1163f-11640 116ab 116ad 116b0-116b5 116b7 1171d-1171f 11722-11725
11727-1172b 1182f-11837 11839-1183a 1193b-1193c 1193e 11943 119d4-119d7 119da-119db 119e0
11a01-11a06 11a09-11a0a 11a33-11a38 11a3b-11a3e 11a47 11a51-11a56 11a59-11a5b 11a8a-11a96
11a98-11a99 11c30-11c36 11c38-11c3d 11c92-11ca7 11caa-11cb0 11cb2-11cb3 11cb5-11cb6 11d31-11d36
11d3a 11d3c-11d3d 11d3f-11d45 11d47 11d90-11d91 11d95 11d97 11ef3-11ef4 16af0-16af4 16b30-16b36
16f4f 16f8f-16f92 16fe4 1bc9d-1bc9e 1cf00-1cf2d 1cf30-1cf46 1da00-1da36 1da3b-1da6c 1da75 1da84
1da9b-1da9f 1daa1-1daaf 1e000-1e006 1e008-1e018 1e01b-1e021 1e023-1e024 1e026-1e02a 1e130-1e136
1e2ae 1e2ec-1e2ef 1e8d0-1e8d6 1e944-1e94a"

/-- Letters written from right to left. -/
def rightToLeftRanges : String :=
  "5d0-5ea 5ef-5f2 620-63f 641-64a 66e-66f 671-674 679-6d3 6d5 6e5-6e6 6ee-6ef 6fa-6ff 710 712-72f
74d-7a5 7b1 7c0-7ea 7f4-7f5 800-815 81a 824 828 840-858 860-86a 870-887 889-88e 8a0-8c9 fe73
10800-10805 10808 1080a-10835 10837-10838 1083c 1083f-10855 10860-10876 10880-1089e 108e0-108f2
108f4-108f5 10900-10915 10920-10939 10980-109b7 109be-109bf 10a00 10a10-10a13 10a15-10a17
10a19-10a35 10a60-10a7c 10a80-10a9c 10ac0-10ac7 10ac9-10ae4 10b00-10b35 10b40-10b55 10b60-10b72
10b80-10b91 10c00-10c48 10cc0-10cf2 10d00-10d23 10e80-10ea9 10eb0-10eb1 10f00-10f1c 10f27
10f30-10f45 10f70-10f81 10fb0-10fc4 10fe0-10ff6 1e800-1e8c4 1e922-1e943 1e94b 1e950-1e959"

/-- Digits of texts written from right to left. -/
def arabicDigitRanges : String :=
  "10d30-10d39"

/-- Signs without a direction. -/
def neutralRanges : String :=
  "2b9-2ba 2c6-2cf 2ec 2e2f a67f a717-a71f a788"

/-- Letters that join the letters on both sides. -/
def joiningBothRanges : String :=
  "620 626 628 62a-62e 633-63f 641-647 649-64a 66e-66f 679-687 69a-6bf 6c1-6c2 6cc 6ce 6d0-6d1
6fa-6fc 6ff 712-714 71a-71d 71f-727 729 72b 72d-72e 74e-758 75c-76a 76d-770 772 775-777 77a-77f
7ca-7ea 841-845 848 84a-853 855 860 862-865 868 886 889-88d 8a0-8a9 8af-8b0 8b3-8b8 8ba-8c8
1820-1878 1887-18a8 18aa a840-a871 10ac0-10ac4 10ad3-10ad6 10ad8-10adc 10ade-10ae0 10b80 10b82
10b86-10b88 10b8a-10b8b 10b8d 10b90 10d01-10d21 10d23 10f30-10f32 10f34-10f44 10f70-10f73
10f76-10f81 10fb0 10fb2-10fb3 10fb8 10fbb-10fbc 10fbe-10fbf 10fc1 10fc4 1e922-1e943"

/-- Letters that join the letter to their right. -/
def joiningRightRanges : String :=
  "622-625 627 629 62f-632 648 671-673 688-699 6c0 6c3-6cb 6cd 6cf 6d2-6d3 6d5 6ee-6ef 710 715-719
71e 728-72c/2 72f 74d 759-75b 76b-76c 771 773-774 778-779 840 846-847 849 854 856-858 867 869-86a
870-882 88e 8aa-8ac 8ae 8b1-8b2 8b9 10ac5 10ac7 10ac9-10aca 10ace-10ad2 10add 10ae1 10ae4 10b81
10b83-10b85 10b89 10b8c 10b8e-10b8f 10b91 10d22 10f33 10f74-10f75 10fb4-10fb6 10fb9-10fba 10fbd
10fc2-10fc3"

/-- Letters that join the letter to their left. -/
def joiningLeftRanges : String :=
  "a872 10acd 10ad7 10d00"

def greekRanges : String :=
  "370-373 375-377 37a-37d 37f 384 386 388-38a 38c 38e-3a1 3a3-3e1 3f0-3ff 1d26-1d2a 1d5d-1d61
1d66-1d6a 1dbf 1f00-1f15 1f18-1f1d 1f20-1f45 1f48-1f4d 1f50-1f57 1f59-1f5d/2 1f5f-1f7d 1f80-1fb4
1fb6-1fc4 1fc6-1fd3 1fd6-1fdb 1fdd-1fef 1ff2-1ff4 1ff6-1ffe 2126 ab65 10140-1018e 101a0
1d200-1d245"

def hebrewRanges : String :=
  "591-5c7 5d0-5ea 5ef-5f4 fb1d-fb36 fb38-fb3c fb3e fb40-fb41 fb43-fb44 fb46-fb4f"

def japaneseRanges : String :=
  "2e80-2e99 2e9b-2ef3 2f00-2fd5 3005 3007 3021-3029 3038-303b 3041-3096 309d-309f 30a1-30fa
30fd-30ff 31f0-31ff 32d0-32fe 3300-3357 3400-4dbf 4e00-9fff f900-fa6d fa70-fad9 ff66-ff6f
ff71-ff9d 16fe2-16fe3 16ff0-16ff6 1aff0-1aff3 1aff5-1affb 1affd-1affe 1b000-1b122 1b132
1b150-1b152 1b155 1b164-1b167 1f200 20000-2a6df 2a700-2b81d 2b820-2cead 2ceb0-2ebe0 2ebf0-2ee5d
2f800-2fa1d 30000-3134a 31350-33479"

end NamedKeys.Url.International
