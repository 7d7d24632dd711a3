import WorkflowGraph.Text.Blank
import WorkflowGraph.Text.Category
import WorkflowGraph.Text.Identifier
import WorkflowGraph.Text.Uppercase

/-!
# Properties of characters

The properties of the Unicode standard that a character has or has not.
-/

namespace WorkflowGraph.Text

/-- Properties with their names, without case and blanks, and their code points. -/
def properties : List (List String × String) :=
  [
  (["ahex", "asciihexdigit"],
   "30-39 41-46 61-66"),
  (["alpha", "alphabetic"],
   "41-5a 61-7a aa b5 ba c0-d6 d8-f6 f8-2c1 2c6-2d1 2e0-2e4 2ec 2ee 345 370-374 376-377
   37a-37d 37f 386 388-38a 38c 38e-3a1 3a3-3f5 3f7-481 48a-52f 531-556 559 560-588 5b0-5bd
   5bf 5c1-5c2 5c4-5c5 5c7 5d0-5ea 5ef-5f2 610-61a 620-657 659-65f 66e-6d3 6d5-6dc 6e1-6e8
   6ed-6ef 6fa-6fc 6ff 710-73f 74d-7b1 7ca-7ea 7f4-7f5 7fa 800-817 81a-82c 840-858 860-86a
   870-887 889-88e 8a0-8c9 8d4-8df 8e3-8e9 8f0-93b 93d-94c 94e-950 955-963 971-983 985-98c
   98f-990 993-9a8 9aa-9b0 9b2 9b6-9b9 9bd-9c4 9c7-9c8 9cb-9cc 9ce 9d7 9dc-9dd 9df-9e3
   9f0-9f1 9fc a01-a03 a05-a0a a0f-a10 a13-a28 a2a-a30 a32-a33 a35-a36 a38-a39 a3e-a42
   a47-a48 a4b-a4c a51 a59-a5c a5e a70-a75 a81-a83 a85-a8d a8f-a91 a93-aa8 aaa-ab0 ab2-ab3
   ab5-ab9 abd-ac5 ac7-ac9 acb-acc ad0 ae0-ae3 af9-afc b01-b03 b05-b0c b0f-b10 b13-b28
   b2a-b30 b32-b33 b35-b39 b3d-b44 b47-b48 b4b-b4c b56-b57 b5c-b5d b5f-b63 b71 b82-b83
   b85-b8a b8e-b90 b92-b95 b99-b9a b9c b9e-b9f ba3-ba4 ba8-baa bae-bb9 bbe-bc2 bc6-bc8
   bca-bcc bd0 bd7 c00-c0c c0e-c10 c12-c28 c2a-c39 c3d-c44 c46-c48 c4a-c4c c55-c56 c58-c5a
   c5d c60-c63 c80-c83 c85-c8c c8e-c90 c92-ca8 caa-cb3 cb5-cb9 cbd-cc4 cc6-cc8 cca-ccc
   cd5-cd6 cdd-cde ce0-ce3 cf1-cf3 d00-d0c d0e-d10 d12-d3a d3d-d44 d46-d48 d4a-d4c d4e
   d54-d57 d5f-d63 d7a-d7f d81-d83 d85-d96 d9a-db1 db3-dbb dbd dc0-dc6 dcf-dd4 dd6 dd8-ddf
   df2-df3 e01-e3a e40-e46 e4d e81-e82 e84 e86-e8a e8c-ea3 ea5 ea7-eb9 ebb-ebd ec0-ec4 ec6
   ecd edc-edf f00 f40-f47 f49-f6c f71-f83 f88-f97 f99-fbc 1000-1036 1038 103b-103f 1050-108f
   109a-109d 10a0-10c5 10c7 10cd 10d0-10fa 10fc-1248 124a-124d 1250-1256 1258 125a-125d
   1260-1288 128a-128d 1290-12b0 12b2-12b5 12b8-12be 12c0 12c2-12c5 12c8-12d6 12d8-1310
   1312-1315 1318-135a 1380-138f 13a0-13f5 13f8-13fd 1401-166c 166f-167f 1681-169a 16a0-16ea
   16ee-16f8 1700-1713 171f-1733 1740-1753 1760-176c 176e-1770 1772-1773 1780-17b3 17b6-17c8
   17d7 17dc 1820-1878 1880-18aa 18b0-18f5 1900-191e 1920-192b 1930-1938 1950-196d 1970-1974
   1980-19ab 19b0-19c9 1a00-1a1b 1a20-1a5e 1a61-1a74 1aa7 1abf-1ac0 1acc-1ace 1b00-1b33
   1b35-1b43 1b45-1b4c 1b80-1ba9 1bac-1baf 1bba-1be5 1be7-1bf1 1c00-1c36 1c4d-1c4f 1c5a-1c7d
   1c80-1c88 1c90-1cba 1cbd-1cbf 1ce9-1cec 1cee-1cf3 1cf5-1cf6 1cfa 1d00-1dbf 1de7-1df4
   1e00-1f15 1f18-1f1d 1f20-1f45 1f48-1f4d 1f50-1f57 1f59 1f5b 1f5d 1f5f-1f7d 1f80-1fb4
   1fb6-1fbc 1fbe 1fc2-1fc4 1fc6-1fcc 1fd0-1fd3 1fd6-1fdb 1fe0-1fec 1ff2-1ff4 1ff6-1ffc 2071
   207f 2090-209c 2102 2107 210a-2113 2115 2119-211d 2124 2126 2128 212a-212d 212f-2139
   213c-213f 2145-2149 214e 2160-2188 24b6-24e9 2c00-2ce4 2ceb-2cee 2cf2-2cf3 2d00-2d25 2d27
   2d2d 2d30-2d67 2d6f 2d80-2d96 2da0-2da6 2da8-2dae 2db0-2db6 2db8-2dbe 2dc0-2dc6 2dc8-2dce
   2dd0-2dd6 2dd8-2dde 2de0-2dff 2e2f 3005-3007 3021-3029 3031-3035 3038-303c 3041-3096
   309d-309f 30a1-30fa 30fc-30ff 3105-312f 3131-318e 31a0-31bf 31f0-31ff 3400-4dbf 4e00-a48c
   a4d0-a4fd a500-a60c a610-a61f a62a-a62b a640-a66e a674-a67b a67f-a6ef a717-a71f a722-a788
   a78b-a7ca a7d0-a7d1 a7d3 a7d5-a7d9 a7f2-a805 a807-a827 a840-a873 a880-a8c3 a8c5 a8f2-a8f7
   a8fb a8fd-a8ff a90a-a92a a930-a952 a960-a97c a980-a9b2 a9b4-a9bf a9cf a9e0-a9ef a9fa-a9fe
   aa00-aa36 aa40-aa4d aa60-aa76 aa7a-aabe aac0 aac2 aadb-aadd aae0-aaef aaf2-aaf5 ab01-ab06
   ab09-ab0e ab11-ab16 ab20-ab26 ab28-ab2e ab30-ab5a ab5c-ab69 ab70-abea ac00-d7a3 d7b0-d7c6
   d7cb-d7fb f900-fa6d fa70-fad9 fb00-fb06 fb13-fb17 fb1d-fb28 fb2a-fb36 fb38-fb3c fb3e
   fb40-fb41 fb43-fb44 fb46-fbb1 fbd3-fd3d fd50-fd8f fd92-fdc7 fdf0-fdfb fe70-fe74 fe76-fefc
   ff21-ff3a ff41-ff5a ff66-ffbe ffc2-ffc7 ffca-ffcf ffd2-ffd7 ffda-ffdc 10000-1000b
   1000d-10026 10028-1003a 1003c-1003d 1003f-1004d 10050-1005d 10080-100fa 10140-10174
   10280-1029c 102a0-102d0 10300-1031f 1032d-1034a 10350-1037a 10380-1039d 103a0-103c3
   103c8-103cf 103d1-103d5 10400-1049d 104b0-104d3 104d8-104fb 10500-10527 10530-10563
   10570-1057a 1057c-1058a 1058c-10592 10594-10595 10597-105a1 105a3-105b1 105b3-105b9
   105bb-105bc 10600-10736 10740-10755 10760-10767 10780-10785 10787-107b0 107b2-107ba
   10800-10805 10808 1080a-10835 10837-10838 1083c 1083f-10855 10860-10876 10880-1089e
   108e0-108f2 108f4-108f5 10900-10915 10920-10939 10980-109b7 109be-109bf 10a00-10a03
   10a05-10a06 10a0c-10a13 10a15-10a17 10a19-10a35 10a60-10a7c 10a80-10a9c 10ac0-10ac7
   10ac9-10ae4 10b00-10b35 10b40-10b55 10b60-10b72 10b80-10b91 10c00-10c48 10c80-10cb2
   10cc0-10cf2 10d00-10d27 10e80-10ea9 10eab-10eac 10eb0-10eb1 10f00-10f1c 10f27 10f30-10f45
   10f70-10f81 10fb0-10fc4 10fe0-10ff6 11000-11045 11071-11075 11080-110b8 110c2 110d0-110e8
   11100-11132 11144-11147 11150-11172 11176 11180-111bf 111c1-111c4 111ce-111cf 111da 111dc
   11200-11211 11213-11234 11237 1123e-11241 11280-11286 11288 1128a-1128d 1128f-1129d
   1129f-112a8 112b0-112e8 11300-11303 11305-1130c 1130f-11310 11313-11328 1132a-11330
   11332-11333 11335-11339 1133d-11344 11347-11348 1134b-1134c 11350 11357 1135d-11363
   11400-11441 11443-11445 11447-1144a 1145f-11461 11480-114c1 114c4-114c5 114c7 11580-115b5
   115b8-115be 115d8-115dd 11600-1163e 11640 11644 11680-116b5 116b8 11700-1171a 1171d-1172a
   11740-11746 11800-11838 118a0-118df 118ff-11906 11909 1190c-11913 11915-11916 11918-11935
   11937-11938 1193b-1193c 1193f-11942 119a0-119a7 119aa-119d7 119da-119df 119e1 119e3-119e4
   11a00-11a32 11a35-11a3e 11a50-11a97 11a9d 11ab0-11af8 11c00-11c08 11c0a-11c36 11c38-11c3e
   11c40 11c72-11c8f 11c92-11ca7 11ca9-11cb6 11d00-11d06 11d08-11d09 11d0b-11d36 11d3a
   11d3c-11d3d 11d3f-11d41 11d43 11d46-11d47 11d60-11d65 11d67-11d68 11d6a-11d8e 11d90-11d91
   11d93-11d96 11d98 11ee0-11ef6 11f00-11f10 11f12-11f3a 11f3e-11f40 11fb0 12000-12399
   12400-1246e 12480-12543 12f90-12ff0 13000-1342f 13441-13446 14400-14646 16800-16a38
   16a40-16a5e 16a70-16abe 16ad0-16aed 16b00-16b2f 16b40-16b43 16b63-16b77 16b7d-16b8f
   16e40-16e7f 16f00-16f4a 16f4f-16f87 16f8f-16f9f 16fe0-16fe1 16fe3 16ff0-16ff1 17000-187f7
   18800-18cd5 18d00-18d08 1aff0-1aff3 1aff5-1affb 1affd-1affe 1b000-1b122 1b132 1b150-1b152
   1b155 1b164-1b167 1b170-1b2fb 1bc00-1bc6a 1bc70-1bc7c 1bc80-1bc88 1bc90-1bc99 1bc9e
   1d400-1d454 1d456-1d49c 1d49e-1d49f 1d4a2 1d4a5-1d4a6 1d4a9-1d4ac 1d4ae-1d4b9 1d4bb
   1d4bd-1d4c3 1d4c5-1d505 1d507-1d50a 1d50d-1d514 1d516-1d51c 1d51e-1d539 1d53b-1d53e
   1d540-1d544 1d546 1d54a-1d550 1d552-1d6a5 1d6a8-1d6c0 1d6c2-1d6da 1d6dc-1d6fa 1d6fc-1d714
   1d716-1d734 1d736-1d74e 1d750-1d76e 1d770-1d788 1d78a-1d7a8 1d7aa-1d7c2 1d7c4-1d7cb
   1df00-1df1e 1df25-1df2a 1e000-1e006 1e008-1e018 1e01b-1e021 1e023-1e024 1e026-1e02a
   1e030-1e06d 1e08f 1e100-1e12c 1e137-1e13d 1e14e 1e290-1e2ad 1e2c0-1e2eb 1e4d0-1e4eb
   1e7e0-1e7e6 1e7e8-1e7eb 1e7ed-1e7ee 1e7f0-1e7fe 1e800-1e8c4 1e900-1e943 1e947 1e94b
   1ee00-1ee03 1ee05-1ee1f 1ee21-1ee22 1ee24 1ee27 1ee29-1ee32 1ee34-1ee37 1ee39 1ee3b 1ee42
   1ee47 1ee49 1ee4b 1ee4d-1ee4f 1ee51-1ee52 1ee54 1ee57 1ee59 1ee5b 1ee5d 1ee5f 1ee61-1ee62
   1ee64 1ee67-1ee6a 1ee6c-1ee72 1ee74-1ee77 1ee79-1ee7c 1ee7e 1ee80-1ee89 1ee8b-1ee9b
   1eea1-1eea3 1eea5-1eea9 1eeab-1eebb 1f130-1f149 1f150-1f169 1f170-1f189 20000-2a6df
   2a700-2b739 2b740-2b81d 2b820-2cea1 2ceb0-2ebe0 2f800-2fa1d 30000-3134a 31350-323af"),
  (["bidic", "bidicontrol"],
   "61c 200e-200f 202a-202e 2066-2069"),
  (["bidim", "bidimirrored"],
   "28-29 3c 3e 5b 5d 7b 7d ab bb f3a-f3d 169b-169c 2039-203a 2045-2046 207d-207e 208d-208e
   2140 2201-2204 2208-220d 2211 2215-2216 221a-221d 221f-2222 2224 2226 222b-2233 2239
   223b-224c 2252-2255 225f-2260 2262 2264-226b 226e-228c 228f-2292 2298 22a2-22a3 22a6-22b8
   22be-22bf 22c9-22cd 22d0-22d1 22d6-22ed 22f0-22ff 2308-230b 2320-2321 2329-232a 2768-2775
   27c0 27c3-27c6 27c8-27c9 27cb-27cd 27d3-27d6 27dc-27de 27e2-27ef 2983-2998 299b-29a0
   29a2-29af 29b8 29c0-29c5 29c9 29ce-29d2 29d4-29d5 29d8-29dc 29e1 29e3-29e5 29e8-29e9
   29f4-29f9 29fc-29fd 2a0a-2a1c 2a1e-2a21 2a24 2a26 2a29 2a2b-2a2e 2a34-2a35 2a3c-2a3e
   2a57-2a58 2a64-2a65 2a6a-2a6d 2a6f-2a70 2a73-2a74 2a79-2aa3 2aa6-2aad 2aaf-2ad6 2adc 2ade
   2ae2-2ae6 2aec-2aee 2af3 2af7-2afb 2afd 2bfe 2e02-2e05 2e09-2e0a 2e0c-2e0d 2e1c-2e1d
   2e20-2e29 2e55-2e5c 3008-3011 3014-301b fe59-fe5e fe64-fe65 ff08-ff09 ff1c ff1e ff3b ff3d
   ff5b ff5d ff5f-ff60 ff62-ff63 1d6db 1d715 1d74f 1d789 1d7c3"),
  (["ci", "caseignorable"],
   "27 2e 3a 5e 60 a8 ad af b4 b7-b8 2b0-36f 374-375 37a 384-385 387 483-489 559 55f 591-5bd
   5bf 5c1-5c2 5c4-5c5 5c7 5f4 600-605 610-61a 61c 640 64b-65f 670 6d6-6dd 6df-6e8 6ea-6ed
   70f 711 730-74a 7a6-7b0 7eb-7f5 7fa 7fd 816-82d 859-85b 888 890-891 898-89f 8c9-902 93a
   93c 941-948 94d 951-957 962-963 971 981 9bc 9c1-9c4 9cd 9e2-9e3 9fe a01-a02 a3c a41-a42
   a47-a48 a4b-a4d a51 a70-a71 a75 a81-a82 abc ac1-ac5 ac7-ac8 acd ae2-ae3 afa-aff b01 b3c
   b3f b41-b44 b4d b55-b56 b62-b63 b82 bc0 bcd c00 c04 c3c c3e-c40 c46-c48 c4a-c4d c55-c56
   c62-c63 c81 cbc cbf cc6 ccc-ccd ce2-ce3 d00-d01 d3b-d3c d41-d44 d4d d62-d63 d81 dca
   dd2-dd4 dd6 e31 e34-e3a e46-e4e eb1 eb4-ebc ec6 ec8-ece f18-f19 f35 f37 f39 f71-f7e
   f80-f84 f86-f87 f8d-f97 f99-fbc fc6 102d-1030 1032-1037 1039-103a 103d-103e 1058-1059
   105e-1060 1071-1074 1082 1085-1086 108d 109d 10fc 135d-135f 1712-1714 1732-1733 1752-1753
   1772-1773 17b4-17b5 17b7-17bd 17c6 17c9-17d3 17d7 17dd 180b-180f 1843 1885-1886 18a9
   1920-1922 1927-1928 1932 1939-193b 1a17-1a18 1a1b 1a56 1a58-1a5e 1a60 1a62 1a65-1a6c
   1a73-1a7c 1a7f 1aa7 1ab0-1ace 1b00-1b03 1b34 1b36-1b3a 1b3c 1b42 1b6b-1b73 1b80-1b81
   1ba2-1ba5 1ba8-1ba9 1bab-1bad 1be6 1be8-1be9 1bed 1bef-1bf1 1c2c-1c33 1c36-1c37 1c78-1c7d
   1cd0-1cd2 1cd4-1ce0 1ce2-1ce8 1ced 1cf4 1cf8-1cf9 1d2c-1d6a 1d78 1d9b-1dff 1fbd 1fbf-1fc1
   1fcd-1fcf 1fdd-1fdf 1fed-1fef 1ffd-1ffe 200b-200f 2018-2019 2024 2027 202a-202e 2060-2064
   2066-206f 2071 207f 2090-209c 20d0-20f0 2c7c-2c7d 2cef-2cf1 2d6f 2d7f 2de0-2dff 2e2f 3005
   302a-302d 3031-3035 303b 3099-309e 30fc-30fe a015 a4f8-a4fd a60c a66f-a672 a674-a67d a67f
   a69c-a69f a6f0-a6f1 a700-a721 a770 a788-a78a a7f2-a7f4 a7f8-a7f9 a802 a806 a80b a825-a826
   a82c a8c4-a8c5 a8e0-a8f1 a8ff a926-a92d a947-a951 a980-a982 a9b3 a9b6-a9b9 a9bc-a9bd a9cf
   a9e5-a9e6 aa29-aa2e aa31-aa32 aa35-aa36 aa43 aa4c aa70 aa7c aab0 aab2-aab4 aab7-aab8
   aabe-aabf aac1 aadd aaec-aaed aaf3-aaf4 aaf6 ab5b-ab5f ab69-ab6b abe5 abe8 abed fb1e
   fbb2-fbc2 fe00-fe0f fe13 fe20-fe2f fe52 fe55 feff ff07 ff0e ff1a ff3e ff40 ff70 ff9e-ff9f
   ffe3 fff9-fffb 101fd 102e0 10376-1037a 10780-10785 10787-107b0 107b2-107ba 10a01-10a03
   10a05-10a06 10a0c-10a0f 10a38-10a3a 10a3f 10ae5-10ae6 10d24-10d27 10eab-10eac 10efd-10eff
   10f46-10f50 10f82-10f85 11001 11038-11046 11070 11073-11074 1107f-11081 110b3-110b6
   110b9-110ba 110bd 110c2 110cd 11100-11102 11127-1112b 1112d-11134 11173 11180-11181
   111b6-111be 111c9-111cc 111cf 1122f-11231 11234 11236-11237 1123e 11241 112df 112e3-112ea
   11300-11301 1133b-1133c 11340 11366-1136c 11370-11374 11438-1143f 11442-11444 11446 1145e
   114b3-114b8 114ba 114bf-114c0 114c2-114c3 115b2-115b5 115bc-115bd 115bf-115c0 115dc-115dd
   11633-1163a 1163d 1163f-11640 116ab 116ad 116b0-116b5 116b7 1171d-1171f 11722-11725
   11727-1172b 1182f-11837 11839-1183a 1193b-1193c 1193e 11943 119d4-119d7 119da-119db 119e0
   11a01-11a0a 11a33-11a38 11a3b-11a3e 11a47 11a51-11a56 11a59-11a5b 11a8a-11a96 11a98-11a99
   11c30-11c36 11c38-11c3d 11c3f 11c92-11ca7 11caa-11cb0 11cb2-11cb3 11cb5-11cb6 11d31-11d36
   11d3a 11d3c-11d3d 11d3f-11d45 11d47 11d90-11d91 11d95 11d97 11ef3-11ef4 11f00-11f01
   11f36-11f3a 11f40 11f42 13430-13440 13447-13455 16af0-16af4 16b30-16b36 16b40-16b43 16f4f
   16f8f-16f9f 16fe0-16fe1 16fe3-16fe4 1aff0-1aff3 1aff5-1affb 1affd-1affe 1bc9d-1bc9e
   1bca0-1bca3 1cf00-1cf2d 1cf30-1cf46 1d167-1d169 1d173-1d182 1d185-1d18b 1d1aa-1d1ad
   1d242-1d244 1da00-1da36 1da3b-1da6c 1da75 1da84 1da9b-1da9f 1daa1-1daaf 1e000-1e006
   1e008-1e018 1e01b-1e021 1e023-1e024 1e026-1e02a 1e030-1e06d 1e08f 1e130-1e13d 1e2ae
   1e2ec-1e2ef 1e4eb-1e4ef 1e8d0-1e8d6 1e944-1e94b 1f3fb-1f3ff e0001 e0020-e007f e0100-e01ef"),
  (["cased"],
   "41-5a 61-7a aa b5 ba c0-d6 d8-f6 f8-1ba 1bc-1bf 1c4-293 295-2b8 2c0-2c1 2e0-2e4 345
   370-373 376-377 37a-37d 37f 386 388-38a 38c 38e-3a1 3a3-3f5 3f7-481 48a-52f 531-556
   560-588 10a0-10c5 10c7 10cd 10d0-10fa 10fc-10ff 13a0-13f5 13f8-13fd 1c80-1c88 1c90-1cba
   1cbd-1cbf 1d00-1dbf 1e00-1f15 1f18-1f1d 1f20-1f45 1f48-1f4d 1f50-1f57 1f59 1f5b 1f5d
   1f5f-1f7d 1f80-1fb4 1fb6-1fbc 1fbe 1fc2-1fc4 1fc6-1fcc 1fd0-1fd3 1fd6-1fdb 1fe0-1fec
   1ff2-1ff4 1ff6-1ffc 2071 207f 2090-209c 2102 2107 210a-2113 2115 2119-211d 2124 2126 2128
   212a-212d 212f-2134 2139 213c-213f 2145-2149 214e 2160-217f 2183-2184 24b6-24e9 2c00-2ce4
   2ceb-2cee 2cf2-2cf3 2d00-2d25 2d27 2d2d a640-a66d a680-a69d a722-a787 a78b-a78e a790-a7ca
   a7d0-a7d1 a7d3 a7d5-a7d9 a7f2-a7f6 a7f8-a7fa ab30-ab5a ab5c-ab69 ab70-abbf fb00-fb06
   fb13-fb17 ff21-ff3a ff41-ff5a 10400-1044f 104b0-104d3 104d8-104fb 10570-1057a 1057c-1058a
   1058c-10592 10594-10595 10597-105a1 105a3-105b1 105b3-105b9 105bb-105bc 10780 10783-10785
   10787-107b0 107b2-107ba 10c80-10cb2 10cc0-10cf2 118a0-118df 16e40-16e7f 1d400-1d454
   1d456-1d49c 1d49e-1d49f 1d4a2 1d4a5-1d4a6 1d4a9-1d4ac 1d4ae-1d4b9 1d4bb 1d4bd-1d4c3
   1d4c5-1d505 1d507-1d50a 1d50d-1d514 1d516-1d51c 1d51e-1d539 1d53b-1d53e 1d540-1d544 1d546
   1d54a-1d550 1d552-1d6a5 1d6a8-1d6c0 1d6c2-1d6da 1d6dc-1d6fa 1d6fc-1d714 1d716-1d734
   1d736-1d74e 1d750-1d76e 1d770-1d788 1d78a-1d7a8 1d7aa-1d7c2 1d7c4-1d7cb 1df00-1df09
   1df0b-1df1e 1df25-1df2a 1e030-1e06d 1e900-1e943 1f130-1f149 1f150-1f169 1f170-1f189"),
  (["dash"],
   "2d 58a 5be 1400 1806 2010-2015 2053 207b 208b 2212 2e17 2e1a 2e3a-2e3b 2e40 2e5d 301c 3030
   30a0 fe31-fe32 fe58 fe63 ff0d 10ead"),
  (["di", "defaultignorablecodepoint"],
   "ad 34f 61c 115f-1160 17b4-17b5 180b-180f 200b-200f 202a-202e 2060-206f 3164 fe00-fe0f feff
   ffa0 fff0-fff8 1bca0-1bca3 1d173-1d17a e0000-e0fff"),
  (["dep", "deprecated"],
   "149 673 f77 f79 17a3-17a4 206a-206f 2329-232a e0001"),
  (["dia", "diacritic"],
   "5e 60 a8 af b4 b7-b8 2b0-34e 350-357 35d-362 374-375 37a 384-385 483-487 559 591-5a1
   5a3-5bd 5bf 5c1-5c2 5c4 64b-652 657-658 6df-6e0 6e5-6e6 6ea-6ec 730-74a 7a6-7b0 7eb-7f5
   818-819 898-89f 8c9-8d2 8e3-8fe 93c 94d 951-954 971 9bc 9cd a3c a4d abc acd afd-aff b3c
   b4d b55 bcd c3c c4d cbc ccd d3b-d3c d4d dca e47-e4c e4e eba ec8-ecc f18-f19 f35 f37 f39
   f3e-f3f f82-f84 f86-f87 fc6 1037 1039-103a 1063-1064 1069-106d 1087-108d 108f 109a-109b
   135d-135f 1714-1715 17c9-17d3 17dd 1939-193b 1a75-1a7c 1a7f 1ab0-1abe 1ac1-1acb 1b34 1b44
   1b6b-1b73 1baa-1bab 1c36-1c37 1c78-1c7d 1cd0-1ce8 1ced 1cf4 1cf7-1cf9 1d2c-1d6a 1dc4-1dcf
   1df5-1dff 1fbd 1fbf-1fc1 1fcd-1fcf 1fdd-1fdf 1fed-1fef 1ffd-1ffe 2cef-2cf1 2e2f 302a-302f
   3099-309c 30fc a66f a67c-a67d a67f a69c-a69d a6f0-a6f1 a700-a721 a788-a78a a7f8-a7f9 a8c4
   a8e0-a8f1 a92b-a92e a953 a9b3 a9c0 a9e5 aa7b-aa7d aabf-aac2 aaf6 ab5b-ab5f ab69-ab6b
   abec-abed fb1e fe20-fe2f ff3e ff40 ff70 ff9e-ff9f ffe3 102e0 10780-10785 10787-107b0
   107b2-107ba 10ae5-10ae6 10d22-10d27 10efd-10eff 10f46-10f50 10f82-10f85 11046 11070
   110b9-110ba 11133-11134 11173 111c0 111ca-111cc 11235-11236 112e9-112ea 1133c 1134d
   11366-1136c 11370-11374 11442 11446 114c2-114c3 115bf-115c0 1163f 116b6-116b7 1172b
   11839-1183a 1193d-1193e 11943 119e0 11a34 11a47 11a99 11c3f 11d42 11d44-11d45 11d97
   13447-13455 16af0-16af4 16b30-16b36 16f8f-16f9f 16ff0-16ff1 1aff0-1aff3 1aff5-1affb
   1affd-1affe 1cf00-1cf2d 1cf30-1cf46 1d167-1d169 1d16d-1d172 1d17b-1d182 1d185-1d18b
   1d1aa-1d1ad 1e030-1e06d 1e130-1e136 1e2ae 1e2ec-1e2ef 1e8d0-1e8d6 1e944-1e946 1e948-1e94a"),
  (["emoji"],
   "23 2a 30-39 a9 ae 203c 2049 2122 2139 2194-2199 21a9-21aa 231a-231b 2328 23cf 23e9-23f3
   23f8-23fa 24c2 25aa-25ab 25b6 25c0 25fb-25fe 2600-2604 260e 2611 2614-2615 2618 261d 2620
   2622-2623 2626 262a 262e-262f 2638-263a 2640 2642 2648-2653 265f-2660 2663 2665-2666 2668
   267b 267e-267f 2692-2697 2699 269b-269c 26a0-26a1 26a7 26aa-26ab 26b0-26b1 26bd-26be
   26c4-26c5 26c8 26ce-26cf 26d1 26d3-26d4 26e9-26ea 26f0-26f5 26f7-26fa 26fd 2702 2705
   2708-270d 270f 2712 2714 2716 271d 2721 2728 2733-2734 2744 2747 274c 274e 2753-2755 2757
   2763-2764 2795-2797 27a1 27b0 27bf 2934-2935 2b05-2b07 2b1b-2b1c 2b50 2b55 3030 303d 3297
   3299 1f004 1f0cf 1f170-1f171 1f17e-1f17f 1f18e 1f191-1f19a 1f1e6-1f1ff 1f201-1f202 1f21a
   1f22f 1f232-1f23a 1f250-1f251 1f300-1f321 1f324-1f393 1f396-1f397 1f399-1f39b 1f39e-1f3f0
   1f3f3-1f3f5 1f3f7-1f4fd 1f4ff-1f53d 1f549-1f54e 1f550-1f567 1f56f-1f570 1f573-1f57a 1f587
   1f58a-1f58d 1f590 1f595-1f596 1f5a4-1f5a5 1f5a8 1f5b1-1f5b2 1f5bc 1f5c2-1f5c4 1f5d1-1f5d3
   1f5dc-1f5de 1f5e1 1f5e3 1f5e8 1f5ef 1f5f3 1f5fa-1f64f 1f680-1f6c5 1f6cb-1f6d2 1f6d5-1f6d7
   1f6dc-1f6e5 1f6e9 1f6eb-1f6ec 1f6f0 1f6f3-1f6fc 1f7e0-1f7eb 1f7f0 1f90c-1f93a 1f93c-1f945
   1f947-1f9ff 1fa70-1fa7c 1fa80-1fa88 1fa90-1fabd 1fabf-1fac5 1face-1fadb 1fae0-1fae8
   1faf0-1faf8"),
  (["ecomp", "emojicomponent"],
   "23 2a 30-39 200d 20e3 fe0f 1f1e6-1f1ff 1f3fb-1f3ff 1f9b0-1f9b3 e0020-e007f"),
  (["emod", "emojimodifier"],
   "1f3fb-1f3ff"),
  (["ebase", "emojimodifierbase"],
   "261d 26f9 270a-270d 1f385 1f3c2-1f3c4 1f3c7 1f3ca-1f3cc 1f442-1f443 1f446-1f450
   1f466-1f478 1f47c 1f481-1f483 1f485-1f487 1f48f 1f491 1f4aa 1f574-1f575 1f57a 1f590
   1f595-1f596 1f645-1f647 1f64b-1f64f 1f6a3 1f6b4-1f6b6 1f6c0 1f6cc 1f90c 1f90f 1f918-1f91f
   1f926 1f930-1f939 1f93c-1f93e 1f977 1f9b5-1f9b6 1f9b8-1f9b9 1f9bb 1f9cd-1f9cf 1f9d1-1f9dd
   1fac3-1fac5 1faf0-1faf8"),
  (["epres", "emojipresentation"],
   "231a-231b 23e9-23ec 23f0 23f3 25fd-25fe 2614-2615 2648-2653 267f 2693 26a1 26aa-26ab
   26bd-26be 26c4-26c5 26ce 26d4 26ea 26f2-26f3 26f5 26fa 26fd 2705 270a-270b 2728 274c 274e
   2753-2755 2757 2795-2797 27b0 27bf 2b1b-2b1c 2b50 2b55 1f004 1f0cf 1f18e 1f191-1f19a
   1f1e6-1f1ff 1f201 1f21a 1f22f 1f232-1f236 1f238-1f23a 1f250-1f251 1f300-1f320 1f32d-1f335
   1f337-1f37c 1f37e-1f393 1f3a0-1f3ca 1f3cf-1f3d3 1f3e0-1f3f0 1f3f4 1f3f8-1f43e 1f440
   1f442-1f4fc 1f4ff-1f53d 1f54b-1f54e 1f550-1f567 1f57a 1f595-1f596 1f5a4 1f5fb-1f64f
   1f680-1f6c5 1f6cc 1f6d0-1f6d2 1f6d5-1f6d7 1f6dc-1f6df 1f6eb-1f6ec 1f6f4-1f6fc 1f7e0-1f7eb
   1f7f0 1f90c-1f93a 1f93c-1f945 1f947-1f9ff 1fa70-1fa7c 1fa80-1fa88 1fa90-1fabd 1fabf-1fac5
   1face-1fadb 1fae0-1fae8 1faf0-1faf8"),
  (["extpict", "extendedpictographic"],
   "a9 ae 203c 2049 2122 2139 2194-2199 21a9-21aa 231a-231b 2328 2388 23cf 23e9-23f3 23f8-23fa
   24c2 25aa-25ab 25b6 25c0 25fb-25fe 2600-2605 2607-2612 2614-2685 2690-2705 2708-2712 2714
   2716 271d 2721 2728 2733-2734 2744 2747 274c 274e 2753-2755 2757 2763-2767 2795-2797 27a1
   27b0 27bf 2934-2935 2b05-2b07 2b1b-2b1c 2b50 2b55 3030 303d 3297 3299 1f000-1f0ff
   1f10d-1f10f 1f12f 1f16c-1f171 1f17e-1f17f 1f18e 1f191-1f19a 1f1ad-1f1e5 1f201-1f20f 1f21a
   1f22f 1f232-1f23a 1f23c-1f23f 1f249-1f3fa 1f400-1f53d 1f546-1f64f 1f680-1f6ff 1f774-1f77f
   1f7d5-1f7ff 1f80c-1f80f 1f848-1f84f 1f85a-1f85f 1f888-1f88f 1f8ae-1f8ff 1f90c-1f93a
   1f93c-1f945 1f947-1faff 1fc00-1fffd"),
  (["ext", "extender"],
   "b7 2d0-2d1 640 7fa b55 e46 ec6 180a 1843 1aa7 1c36 1c7b 3005 3031-3035 309d-309e 30fc-30fe
   a015 a60c a9cf a9e6 aa70 aadd aaf3-aaf4 ff70 10781-10782 1135d 115c6-115c8 11a98
   16b42-16b43 16fe0-16fe1 16fe3 1e13c-1e13d 1e944-1e946"),
  (["grext", "graphemeextend"],
   "300-36f 483-489 591-5bd 5bf 5c1-5c2 5c4-5c5 5c7 610-61a 64b-65f 670 6d6-6dc 6df-6e4
   6e7-6e8 6ea-6ed 711 730-74a 7a6-7b0 7eb-7f3 7fd 816-819 81b-823 825-827 829-82d 859-85b
   898-89f 8ca-8e1 8e3-902 93a 93c 941-948 94d 951-957 962-963 981 9bc 9be 9c1-9c4 9cd 9d7
   9e2-9e3 9fe a01-a02 a3c a41-a42 a47-a48 a4b-a4d a51 a70-a71 a75 a81-a82 abc ac1-ac5
   ac7-ac8 acd ae2-ae3 afa-aff b01 b3c b3e-b3f b41-b44 b4d b55-b57 b62-b63 b82 bbe bc0 bcd
   bd7 c00 c04 c3c c3e-c40 c46-c48 c4a-c4d c55-c56 c62-c63 c81 cbc cbf cc2 cc6 ccc-ccd
   cd5-cd6 ce2-ce3 d00-d01 d3b-d3c d3e d41-d44 d4d d57 d62-d63 d81 dca dcf dd2-dd4 dd6 ddf
   e31 e34-e3a e47-e4e eb1 eb4-ebc ec8-ece f18-f19 f35 f37 f39 f71-f7e f80-f84 f86-f87
   f8d-f97 f99-fbc fc6 102d-1030 1032-1037 1039-103a 103d-103e 1058-1059 105e-1060 1071-1074
   1082 1085-1086 108d 109d 135d-135f 1712-1714 1732-1733 1752-1753 1772-1773 17b4-17b5
   17b7-17bd 17c6 17c9-17d3 17dd 180b-180d 180f 1885-1886 18a9 1920-1922 1927-1928 1932
   1939-193b 1a17-1a18 1a1b 1a56 1a58-1a5e 1a60 1a62 1a65-1a6c 1a73-1a7c 1a7f 1ab0-1ace
   1b00-1b03 1b34-1b3a 1b3c 1b42 1b6b-1b73 1b80-1b81 1ba2-1ba5 1ba8-1ba9 1bab-1bad 1be6
   1be8-1be9 1bed 1bef-1bf1 1c2c-1c33 1c36-1c37 1cd0-1cd2 1cd4-1ce0 1ce2-1ce8 1ced 1cf4
   1cf8-1cf9 1dc0-1dff 200c 20d0-20f0 2cef-2cf1 2d7f 2de0-2dff 302a-302f 3099-309a a66f-a672
   a674-a67d a69e-a69f a6f0-a6f1 a802 a806 a80b a825-a826 a82c a8c4-a8c5 a8e0-a8f1 a8ff
   a926-a92d a947-a951 a980-a982 a9b3 a9b6-a9b9 a9bc-a9bd a9e5 aa29-aa2e aa31-aa32 aa35-aa36
   aa43 aa4c aa7c aab0 aab2-aab4 aab7-aab8 aabe-aabf aac1 aaec-aaed aaf6 abe5 abe8 abed fb1e
   fe00-fe0f fe20-fe2f ff9e-ff9f 101fd 102e0 10376-1037a 10a01-10a03 10a05-10a06 10a0c-10a0f
   10a38-10a3a 10a3f 10ae5-10ae6 10d24-10d27 10eab-10eac 10efd-10eff 10f46-10f50 10f82-10f85
   11001 11038-11046 11070 11073-11074 1107f-11081 110b3-110b6 110b9-110ba 110c2 11100-11102
   11127-1112b 1112d-11134 11173 11180-11181 111b6-111be 111c9-111cc 111cf 1122f-11231 11234
   11236-11237 1123e 11241 112df 112e3-112ea 11300-11301 1133b-1133c 1133e 11340 11357
   11366-1136c 11370-11374 11438-1143f 11442-11444 11446 1145e 114b0 114b3-114b8 114ba 114bd
   114bf-114c0 114c2-114c3 115af 115b2-115b5 115bc-115bd 115bf-115c0 115dc-115dd 11633-1163a
   1163d 1163f-11640 116ab 116ad 116b0-116b5 116b7 1171d-1171f 11722-11725 11727-1172b
   1182f-11837 11839-1183a 11930 1193b-1193c 1193e 11943 119d4-119d7 119da-119db 119e0
   11a01-11a0a 11a33-11a38 11a3b-11a3e 11a47 11a51-11a56 11a59-11a5b 11a8a-11a96 11a98-11a99
   11c30-11c36 11c38-11c3d 11c3f 11c92-11ca7 11caa-11cb0 11cb2-11cb3 11cb5-11cb6 11d31-11d36
   11d3a 11d3c-11d3d 11d3f-11d45 11d47 11d90-11d91 11d95 11d97 11ef3-11ef4 11f00-11f01
   11f36-11f3a 11f40 11f42 13440 13447-13455 16af0-16af4 16b30-16b36 16f4f 16f8f-16f92 16fe4
   1bc9d-1bc9e 1cf00-1cf2d 1cf30-1cf46 1d165 1d167-1d169 1d16e-1d172 1d17b-1d182 1d185-1d18b
   1d1aa-1d1ad 1d242-1d244 1da00-1da36 1da3b-1da6c 1da75 1da84 1da9b-1da9f 1daa1-1daaf
   1e000-1e006 1e008-1e018 1e01b-1e021 1e023-1e024 1e026-1e02a 1e08f 1e130-1e136 1e2ae
   1e2ec-1e2ef 1e4ec-1e4ef 1e8d0-1e8d6 1e944-1e94a e0020-e007f e0100-e01ef"),
  (["hex", "hexdigit"],
   "30-39 41-46 61-66 ff10-ff19 ff21-ff26 ff41-ff46"),
  (["idsb", "idsbinaryoperator"],
   "2ff0-2ff1 2ff4-2ffb"),
  (["idst", "idstrinaryoperator"],
   "2ff2-2ff3"),
  (["idc", "idcontinue"],
   "30-39 41-5a 5f 61-7a aa b5 b7 ba c0-d6 d8-f6 f8-2c1 2c6-2d1 2e0-2e4 2ec 2ee 300-374
   376-377 37a-37d 37f 386-38a 38c 38e-3a1 3a3-3f5 3f7-481 483-487 48a-52f 531-556 559
   560-588 591-5bd 5bf 5c1-5c2 5c4-5c5 5c7 5d0-5ea 5ef-5f2 610-61a 620-669 66e-6d3 6d5-6dc
   6df-6e8 6ea-6fc 6ff 710-74a 74d-7b1 7c0-7f5 7fa 7fd 800-82d 840-85b 860-86a 870-887
   889-88e 898-8e1 8e3-963 966-96f 971-983 985-98c 98f-990 993-9a8 9aa-9b0 9b2 9b6-9b9
   9bc-9c4 9c7-9c8 9cb-9ce 9d7 9dc-9dd 9df-9e3 9e6-9f1 9fc 9fe a01-a03 a05-a0a a0f-a10
   a13-a28 a2a-a30 a32-a33 a35-a36 a38-a39 a3c a3e-a42 a47-a48 a4b-a4d a51 a59-a5c a5e
   a66-a75 a81-a83 a85-a8d a8f-a91 a93-aa8 aaa-ab0 ab2-ab3 ab5-ab9 abc-ac5 ac7-ac9 acb-acd
   ad0 ae0-ae3 ae6-aef af9-aff b01-b03 b05-b0c b0f-b10 b13-b28 b2a-b30 b32-b33 b35-b39
   b3c-b44 b47-b48 b4b-b4d b55-b57 b5c-b5d b5f-b63 b66-b6f b71 b82-b83 b85-b8a b8e-b90
   b92-b95 b99-b9a b9c b9e-b9f ba3-ba4 ba8-baa bae-bb9 bbe-bc2 bc6-bc8 bca-bcd bd0 bd7
   be6-bef c00-c0c c0e-c10 c12-c28 c2a-c39 c3c-c44 c46-c48 c4a-c4d c55-c56 c58-c5a c5d
   c60-c63 c66-c6f c80-c83 c85-c8c c8e-c90 c92-ca8 caa-cb3 cb5-cb9 cbc-cc4 cc6-cc8 cca-ccd
   cd5-cd6 cdd-cde ce0-ce3 ce6-cef cf1-cf3 d00-d0c d0e-d10 d12-d44 d46-d48 d4a-d4e d54-d57
   d5f-d63 d66-d6f d7a-d7f d81-d83 d85-d96 d9a-db1 db3-dbb dbd dc0-dc6 dca dcf-dd4 dd6
   dd8-ddf de6-def df2-df3 e01-e3a e40-e4e e50-e59 e81-e82 e84 e86-e8a e8c-ea3 ea5 ea7-ebd
   ec0-ec4 ec6 ec8-ece ed0-ed9 edc-edf f00 f18-f19 f20-f29 f35 f37 f39 f3e-f47 f49-f6c
   f71-f84 f86-f97 f99-fbc fc6 1000-1049 1050-109d 10a0-10c5 10c7 10cd 10d0-10fa 10fc-1248
   124a-124d 1250-1256 1258 125a-125d 1260-1288 128a-128d 1290-12b0 12b2-12b5 12b8-12be 12c0
   12c2-12c5 12c8-12d6 12d8-1310 1312-1315 1318-135a 135d-135f 1369-1371 1380-138f 13a0-13f5
   13f8-13fd 1401-166c 166f-167f 1681-169a 16a0-16ea 16ee-16f8 1700-1715 171f-1734 1740-1753
   1760-176c 176e-1770 1772-1773 1780-17d3 17d7 17dc-17dd 17e0-17e9 180b-180d 180f-1819
   1820-1878 1880-18aa 18b0-18f5 1900-191e 1920-192b 1930-193b 1946-196d 1970-1974 1980-19ab
   19b0-19c9 19d0-19da 1a00-1a1b 1a20-1a5e 1a60-1a7c 1a7f-1a89 1a90-1a99 1aa7 1ab0-1abd
   1abf-1ace 1b00-1b4c 1b50-1b59 1b6b-1b73 1b80-1bf3 1c00-1c37 1c40-1c49 1c4d-1c7d 1c80-1c88
   1c90-1cba 1cbd-1cbf 1cd0-1cd2 1cd4-1cfa 1d00-1f15 1f18-1f1d 1f20-1f45 1f48-1f4d 1f50-1f57
   1f59 1f5b 1f5d 1f5f-1f7d 1f80-1fb4 1fb6-1fbc 1fbe 1fc2-1fc4 1fc6-1fcc 1fd0-1fd3 1fd6-1fdb
   1fe0-1fec 1ff2-1ff4 1ff6-1ffc 203f-2040 2054 2071 207f 2090-209c 20d0-20dc 20e1 20e5-20f0
   2102 2107 210a-2113 2115 2118-211d 2124 2126 2128 212a-2139 213c-213f 2145-2149 214e
   2160-2188 2c00-2ce4 2ceb-2cf3 2d00-2d25 2d27 2d2d 2d30-2d67 2d6f 2d7f-2d96 2da0-2da6
   2da8-2dae 2db0-2db6 2db8-2dbe 2dc0-2dc6 2dc8-2dce 2dd0-2dd6 2dd8-2dde 2de0-2dff 3005-3007
   3021-302f 3031-3035 3038-303c 3041-3096 3099-309f 30a1-30fa 30fc-30ff 3105-312f 3131-318e
   31a0-31bf 31f0-31ff 3400-4dbf 4e00-a48c a4d0-a4fd a500-a60c a610-a62b a640-a66f a674-a67d
   a67f-a6f1 a717-a71f a722-a788 a78b-a7ca a7d0-a7d1 a7d3 a7d5-a7d9 a7f2-a827 a82c a840-a873
   a880-a8c5 a8d0-a8d9 a8e0-a8f7 a8fb a8fd-a92d a930-a953 a960-a97c a980-a9c0 a9cf-a9d9
   a9e0-a9fe aa00-aa36 aa40-aa4d aa50-aa59 aa60-aa76 aa7a-aac2 aadb-aadd aae0-aaef aaf2-aaf6
   ab01-ab06 ab09-ab0e ab11-ab16 ab20-ab26 ab28-ab2e ab30-ab5a ab5c-ab69 ab70-abea abec-abed
   abf0-abf9 ac00-d7a3 d7b0-d7c6 d7cb-d7fb f900-fa6d fa70-fad9 fb00-fb06 fb13-fb17 fb1d-fb28
   fb2a-fb36 fb38-fb3c fb3e fb40-fb41 fb43-fb44 fb46-fbb1 fbd3-fd3d fd50-fd8f fd92-fdc7
   fdf0-fdfb fe00-fe0f fe20-fe2f fe33-fe34 fe4d-fe4f fe70-fe74 fe76-fefc ff10-ff19 ff21-ff3a
   ff3f ff41-ff5a ff66-ffbe ffc2-ffc7 ffca-ffcf ffd2-ffd7 ffda-ffdc 10000-1000b 1000d-10026
   10028-1003a 1003c-1003d 1003f-1004d 10050-1005d 10080-100fa 10140-10174 101fd 10280-1029c
   102a0-102d0 102e0 10300-1031f 1032d-1034a 10350-1037a 10380-1039d 103a0-103c3 103c8-103cf
   103d1-103d5 10400-1049d 104a0-104a9 104b0-104d3 104d8-104fb 10500-10527 10530-10563
   10570-1057a 1057c-1058a 1058c-10592 10594-10595 10597-105a1 105a3-105b1 105b3-105b9
   105bb-105bc 10600-10736 10740-10755 10760-10767 10780-10785 10787-107b0 107b2-107ba
   10800-10805 10808 1080a-10835 10837-10838 1083c 1083f-10855 10860-10876 10880-1089e
   108e0-108f2 108f4-108f5 10900-10915 10920-10939 10980-109b7 109be-109bf 10a00-10a03
   10a05-10a06 10a0c-10a13 10a15-10a17 10a19-10a35 10a38-10a3a 10a3f 10a60-10a7c 10a80-10a9c
   10ac0-10ac7 10ac9-10ae6 10b00-10b35 10b40-10b55 10b60-10b72 10b80-10b91 10c00-10c48
   10c80-10cb2 10cc0-10cf2 10d00-10d27 10d30-10d39 10e80-10ea9 10eab-10eac 10eb0-10eb1
   10efd-10f1c 10f27 10f30-10f50 10f70-10f85 10fb0-10fc4 10fe0-10ff6 11000-11046 11066-11075
   1107f-110ba 110c2 110d0-110e8 110f0-110f9 11100-11134 11136-1113f 11144-11147 11150-11173
   11176 11180-111c4 111c9-111cc 111ce-111da 111dc 11200-11211 11213-11237 1123e-11241
   11280-11286 11288 1128a-1128d 1128f-1129d 1129f-112a8 112b0-112ea 112f0-112f9 11300-11303
   11305-1130c 1130f-11310 11313-11328 1132a-11330 11332-11333 11335-11339 1133b-11344
   11347-11348 1134b-1134d 11350 11357 1135d-11363 11366-1136c 11370-11374 11400-1144a
   11450-11459 1145e-11461 11480-114c5 114c7 114d0-114d9 11580-115b5 115b8-115c0 115d8-115dd
   11600-11640 11644 11650-11659 11680-116b8 116c0-116c9 11700-1171a 1171d-1172b 11730-11739
   11740-11746 11800-1183a 118a0-118e9 118ff-11906 11909 1190c-11913 11915-11916 11918-11935
   11937-11938 1193b-11943 11950-11959 119a0-119a7 119aa-119d7 119da-119e1 119e3-119e4
   11a00-11a3e 11a47 11a50-11a99 11a9d 11ab0-11af8 11c00-11c08 11c0a-11c36 11c38-11c40
   11c50-11c59 11c72-11c8f 11c92-11ca7 11ca9-11cb6 11d00-11d06 11d08-11d09 11d0b-11d36 11d3a
   11d3c-11d3d 11d3f-11d47 11d50-11d59 11d60-11d65 11d67-11d68 11d6a-11d8e 11d90-11d91
   11d93-11d98 11da0-11da9 11ee0-11ef6 11f00-11f10 11f12-11f3a 11f3e-11f42 11f50-11f59 11fb0
   12000-12399 12400-1246e 12480-12543 12f90-12ff0 13000-1342f 13440-13455 14400-14646
   16800-16a38 16a40-16a5e 16a60-16a69 16a70-16abe 16ac0-16ac9 16ad0-16aed 16af0-16af4
   16b00-16b36 16b40-16b43 16b50-16b59 16b63-16b77 16b7d-16b8f 16e40-16e7f 16f00-16f4a
   16f4f-16f87 16f8f-16f9f 16fe0-16fe1 16fe3-16fe4 16ff0-16ff1 17000-187f7 18800-18cd5
   18d00-18d08 1aff0-1aff3 1aff5-1affb 1affd-1affe 1b000-1b122 1b132 1b150-1b152 1b155
   1b164-1b167 1b170-1b2fb 1bc00-1bc6a 1bc70-1bc7c 1bc80-1bc88 1bc90-1bc99 1bc9d-1bc9e
   1cf00-1cf2d 1cf30-1cf46 1d165-1d169 1d16d-1d172 1d17b-1d182 1d185-1d18b 1d1aa-1d1ad
   1d242-1d244 1d400-1d454 1d456-1d49c 1d49e-1d49f 1d4a2 1d4a5-1d4a6 1d4a9-1d4ac 1d4ae-1d4b9
   1d4bb 1d4bd-1d4c3 1d4c5-1d505 1d507-1d50a 1d50d-1d514 1d516-1d51c 1d51e-1d539 1d53b-1d53e
   1d540-1d544 1d546 1d54a-1d550 1d552-1d6a5 1d6a8-1d6c0 1d6c2-1d6da 1d6dc-1d6fa 1d6fc-1d714
   1d716-1d734 1d736-1d74e 1d750-1d76e 1d770-1d788 1d78a-1d7a8 1d7aa-1d7c2 1d7c4-1d7cb
   1d7ce-1d7ff 1da00-1da36 1da3b-1da6c 1da75 1da84 1da9b-1da9f 1daa1-1daaf 1df00-1df1e
   1df25-1df2a 1e000-1e006 1e008-1e018 1e01b-1e021 1e023-1e024 1e026-1e02a 1e030-1e06d 1e08f
   1e100-1e12c 1e130-1e13d 1e140-1e149 1e14e 1e290-1e2ae 1e2c0-1e2f9 1e4d0-1e4f9 1e7e0-1e7e6
   1e7e8-1e7eb 1e7ed-1e7ee 1e7f0-1e7fe 1e800-1e8c4 1e8d0-1e8d6 1e900-1e94b 1e950-1e959
   1ee00-1ee03 1ee05-1ee1f 1ee21-1ee22 1ee24 1ee27 1ee29-1ee32 1ee34-1ee37 1ee39 1ee3b 1ee42
   1ee47 1ee49 1ee4b 1ee4d-1ee4f 1ee51-1ee52 1ee54 1ee57 1ee59 1ee5b 1ee5d 1ee5f 1ee61-1ee62
   1ee64 1ee67-1ee6a 1ee6c-1ee72 1ee74-1ee77 1ee79-1ee7c 1ee7e 1ee80-1ee89 1ee8b-1ee9b
   1eea1-1eea3 1eea5-1eea9 1eeab-1eebb 1fbf0-1fbf9 20000-2a6df 2a700-2b739 2b740-2b81d
   2b820-2cea1 2ceb0-2ebe0 2f800-2fa1d 30000-3134a 31350-323af e0100-e01ef"),
  (["ids", "idstart"],
   "41-5a 61-7a aa b5 ba c0-d6 d8-f6 f8-2c1 2c6-2d1 2e0-2e4 2ec 2ee 370-374 376-377 37a-37d
   37f 386 388-38a 38c 38e-3a1 3a3-3f5 3f7-481 48a-52f 531-556 559 560-588 5d0-5ea 5ef-5f2
   620-64a 66e-66f 671-6d3 6d5 6e5-6e6 6ee-6ef 6fa-6fc 6ff 710 712-72f 74d-7a5 7b1 7ca-7ea
   7f4-7f5 7fa 800-815 81a 824 828 840-858 860-86a 870-887 889-88e 8a0-8c9 904-939 93d 950
   958-961 971-980 985-98c 98f-990 993-9a8 9aa-9b0 9b2 9b6-9b9 9bd 9ce 9dc-9dd 9df-9e1
   9f0-9f1 9fc a05-a0a a0f-a10 a13-a28 a2a-a30 a32-a33 a35-a36 a38-a39 a59-a5c a5e a72-a74
   a85-a8d a8f-a91 a93-aa8 aaa-ab0 ab2-ab3 ab5-ab9 abd ad0 ae0-ae1 af9 b05-b0c b0f-b10
   b13-b28 b2a-b30 b32-b33 b35-b39 b3d b5c-b5d b5f-b61 b71 b83 b85-b8a b8e-b90 b92-b95
   b99-b9a b9c b9e-b9f ba3-ba4 ba8-baa bae-bb9 bd0 c05-c0c c0e-c10 c12-c28 c2a-c39 c3d
   c58-c5a c5d c60-c61 c80 c85-c8c c8e-c90 c92-ca8 caa-cb3 cb5-cb9 cbd cdd-cde ce0-ce1
   cf1-cf2 d04-d0c d0e-d10 d12-d3a d3d d4e d54-d56 d5f-d61 d7a-d7f d85-d96 d9a-db1 db3-dbb
   dbd dc0-dc6 e01-e30 e32-e33 e40-e46 e81-e82 e84 e86-e8a e8c-ea3 ea5 ea7-eb0 eb2-eb3 ebd
   ec0-ec4 ec6 edc-edf f00 f40-f47 f49-f6c f88-f8c 1000-102a 103f 1050-1055 105a-105d 1061
   1065-1066 106e-1070 1075-1081 108e 10a0-10c5 10c7 10cd 10d0-10fa 10fc-1248 124a-124d
   1250-1256 1258 125a-125d 1260-1288 128a-128d 1290-12b0 12b2-12b5 12b8-12be 12c0 12c2-12c5
   12c8-12d6 12d8-1310 1312-1315 1318-135a 1380-138f 13a0-13f5 13f8-13fd 1401-166c 166f-167f
   1681-169a 16a0-16ea 16ee-16f8 1700-1711 171f-1731 1740-1751 1760-176c 176e-1770 1780-17b3
   17d7 17dc 1820-1878 1880-18a8 18aa 18b0-18f5 1900-191e 1950-196d 1970-1974 1980-19ab
   19b0-19c9 1a00-1a16 1a20-1a54 1aa7 1b05-1b33 1b45-1b4c 1b83-1ba0 1bae-1baf 1bba-1be5
   1c00-1c23 1c4d-1c4f 1c5a-1c7d 1c80-1c88 1c90-1cba 1cbd-1cbf 1ce9-1cec 1cee-1cf3 1cf5-1cf6
   1cfa 1d00-1dbf 1e00-1f15 1f18-1f1d 1f20-1f45 1f48-1f4d 1f50-1f57 1f59 1f5b 1f5d 1f5f-1f7d
   1f80-1fb4 1fb6-1fbc 1fbe 1fc2-1fc4 1fc6-1fcc 1fd0-1fd3 1fd6-1fdb 1fe0-1fec 1ff2-1ff4
   1ff6-1ffc 2071 207f 2090-209c 2102 2107 210a-2113 2115 2118-211d 2124 2126 2128 212a-2139
   213c-213f 2145-2149 214e 2160-2188 2c00-2ce4 2ceb-2cee 2cf2-2cf3 2d00-2d25 2d27 2d2d
   2d30-2d67 2d6f 2d80-2d96 2da0-2da6 2da8-2dae 2db0-2db6 2db8-2dbe 2dc0-2dc6 2dc8-2dce
   2dd0-2dd6 2dd8-2dde 3005-3007 3021-3029 3031-3035 3038-303c 3041-3096 309b-309f 30a1-30fa
   30fc-30ff 3105-312f 3131-318e 31a0-31bf 31f0-31ff 3400-4dbf 4e00-a48c a4d0-a4fd a500-a60c
   a610-a61f a62a-a62b a640-a66e a67f-a69d a6a0-a6ef a717-a71f a722-a788 a78b-a7ca a7d0-a7d1
   a7d3 a7d5-a7d9 a7f2-a801 a803-a805 a807-a80a a80c-a822 a840-a873 a882-a8b3 a8f2-a8f7 a8fb
   a8fd-a8fe a90a-a925 a930-a946 a960-a97c a984-a9b2 a9cf a9e0-a9e4 a9e6-a9ef a9fa-a9fe
   aa00-aa28 aa40-aa42 aa44-aa4b aa60-aa76 aa7a aa7e-aaaf aab1 aab5-aab6 aab9-aabd aac0 aac2
   aadb-aadd aae0-aaea aaf2-aaf4 ab01-ab06 ab09-ab0e ab11-ab16 ab20-ab26 ab28-ab2e ab30-ab5a
   ab5c-ab69 ab70-abe2 ac00-d7a3 d7b0-d7c6 d7cb-d7fb f900-fa6d fa70-fad9 fb00-fb06 fb13-fb17
   fb1d fb1f-fb28 fb2a-fb36 fb38-fb3c fb3e fb40-fb41 fb43-fb44 fb46-fbb1 fbd3-fd3d fd50-fd8f
   fd92-fdc7 fdf0-fdfb fe70-fe74 fe76-fefc ff21-ff3a ff41-ff5a ff66-ffbe ffc2-ffc7 ffca-ffcf
   ffd2-ffd7 ffda-ffdc 10000-1000b 1000d-10026 10028-1003a 1003c-1003d 1003f-1004d
   10050-1005d 10080-100fa 10140-10174 10280-1029c 102a0-102d0 10300-1031f 1032d-1034a
   10350-10375 10380-1039d 103a0-103c3 103c8-103cf 103d1-103d5 10400-1049d 104b0-104d3
   104d8-104fb 10500-10527 10530-10563 10570-1057a 1057c-1058a 1058c-10592 10594-10595
   10597-105a1 105a3-105b1 105b3-105b9 105bb-105bc 10600-10736 10740-10755 10760-10767
   10780-10785 10787-107b0 107b2-107ba 10800-10805 10808 1080a-10835 10837-10838 1083c
   1083f-10855 10860-10876 10880-1089e 108e0-108f2 108f4-108f5 10900-10915 10920-10939
   10980-109b7 109be-109bf 10a00 10a10-10a13 10a15-10a17 10a19-10a35 10a60-10a7c 10a80-10a9c
   10ac0-10ac7 10ac9-10ae4 10b00-10b35 10b40-10b55 10b60-10b72 10b80-10b91 10c00-10c48
   10c80-10cb2 10cc0-10cf2 10d00-10d23 10e80-10ea9 10eb0-10eb1 10f00-10f1c 10f27 10f30-10f45
   10f70-10f81 10fb0-10fc4 10fe0-10ff6 11003-11037 11071-11072 11075 11083-110af 110d0-110e8
   11103-11126 11144 11147 11150-11172 11176 11183-111b2 111c1-111c4 111da 111dc 11200-11211
   11213-1122b 1123f-11240 11280-11286 11288 1128a-1128d 1128f-1129d 1129f-112a8 112b0-112de
   11305-1130c 1130f-11310 11313-11328 1132a-11330 11332-11333 11335-11339 1133d 11350
   1135d-11361 11400-11434 11447-1144a 1145f-11461 11480-114af 114c4-114c5 114c7 11580-115ae
   115d8-115db 11600-1162f 11644 11680-116aa 116b8 11700-1171a 11740-11746 11800-1182b
   118a0-118df 118ff-11906 11909 1190c-11913 11915-11916 11918-1192f 1193f 11941 119a0-119a7
   119aa-119d0 119e1 119e3 11a00 11a0b-11a32 11a3a 11a50 11a5c-11a89 11a9d 11ab0-11af8
   11c00-11c08 11c0a-11c2e 11c40 11c72-11c8f 11d00-11d06 11d08-11d09 11d0b-11d30 11d46
   11d60-11d65 11d67-11d68 11d6a-11d89 11d98 11ee0-11ef2 11f02 11f04-11f10 11f12-11f33 11fb0
   12000-12399 12400-1246e 12480-12543 12f90-12ff0 13000-1342f 13441-13446 14400-14646
   16800-16a38 16a40-16a5e 16a70-16abe 16ad0-16aed 16b00-16b2f 16b40-16b43 16b63-16b77
   16b7d-16b8f 16e40-16e7f 16f00-16f4a 16f50 16f93-16f9f 16fe0-16fe1 16fe3 17000-187f7
   18800-18cd5 18d00-18d08 1aff0-1aff3 1aff5-1affb 1affd-1affe 1b000-1b122 1b132 1b150-1b152
   1b155 1b164-1b167 1b170-1b2fb 1bc00-1bc6a 1bc70-1bc7c 1bc80-1bc88 1bc90-1bc99 1d400-1d454
   1d456-1d49c 1d49e-1d49f 1d4a2 1d4a5-1d4a6 1d4a9-1d4ac 1d4ae-1d4b9 1d4bb 1d4bd-1d4c3
   1d4c5-1d505 1d507-1d50a 1d50d-1d514 1d516-1d51c 1d51e-1d539 1d53b-1d53e 1d540-1d544 1d546
   1d54a-1d550 1d552-1d6a5 1d6a8-1d6c0 1d6c2-1d6da 1d6dc-1d6fa 1d6fc-1d714 1d716-1d734
   1d736-1d74e 1d750-1d76e 1d770-1d788 1d78a-1d7a8 1d7aa-1d7c2 1d7c4-1d7cb 1df00-1df1e
   1df25-1df2a 1e030-1e06d 1e100-1e12c 1e137-1e13d 1e14e 1e290-1e2ad 1e2c0-1e2eb 1e4d0-1e4eb
   1e7e0-1e7e6 1e7e8-1e7eb 1e7ed-1e7ee 1e7f0-1e7fe 1e800-1e8c4 1e900-1e943 1e94b 1ee00-1ee03
   1ee05-1ee1f 1ee21-1ee22 1ee24 1ee27 1ee29-1ee32 1ee34-1ee37 1ee39 1ee3b 1ee42 1ee47 1ee49
   1ee4b 1ee4d-1ee4f 1ee51-1ee52 1ee54 1ee57 1ee59 1ee5b 1ee5d 1ee5f 1ee61-1ee62 1ee64
   1ee67-1ee6a 1ee6c-1ee72 1ee74-1ee77 1ee79-1ee7c 1ee7e 1ee80-1ee89 1ee8b-1ee9b 1eea1-1eea3
   1eea5-1eea9 1eeab-1eebb 20000-2a6df 2a700-2b739 2b740-2b81d 2b820-2cea1 2ceb0-2ebe0
   2f800-2fa1d 30000-3134a 31350-323af"),
  (["ideo", "ideographic"],
   "3006-3007 3021-3029 3038-303a 3400-4dbf 4e00-9fff f900-fa6d fa70-fad9 16fe4 17000-187f7
   18800-18cd5 18d00-18d08 1b170-1b2fb 20000-2a6df 2a700-2b739 2b740-2b81d 2b820-2cea1
   2ceb0-2ebe0 2f800-2fa1d 30000-3134a 31350-323af"),
  (["joinc", "joincontrol"],
   "200c-200d"),
  (["loe", "logicalorderexception"],
   "e40-e44 ec0-ec4 19b5-19b7 19ba aab5-aab6 aab9 aabb-aabc"),
  (["lower", "lowercase"],
   "61-7a aa b5 ba df-f6 f8-ff 101 103 105 107 109 10b 10d 10f 111 113 115 117 119 11b 11d 11f
   121 123 125 127 129 12b 12d 12f 131 133 135 137-138 13a 13c 13e 140 142 144 146 148-149
   14b 14d 14f 151 153 155 157 159 15b 15d 15f 161 163 165 167 169 16b 16d 16f 171 173 175
   177 17a 17c 17e-180 183 185 188 18c-18d 192 195 199-19b 19e 1a1 1a3 1a5 1a8 1aa-1ab 1ad
   1b0 1b4 1b6 1b9-1ba 1bd-1bf 1c6 1c9 1cc 1ce 1d0 1d2 1d4 1d6 1d8 1da 1dc-1dd 1df 1e1 1e3
   1e5 1e7 1e9 1eb 1ed 1ef-1f0 1f3 1f5 1f9 1fb 1fd 1ff 201 203 205 207 209 20b 20d 20f 211
   213 215 217 219 21b 21d 21f 221 223 225 227 229 22b 22d 22f 231 233-239 23c 23f-240 242
   247 249 24b 24d 24f-293 295-2b8 2c0-2c1 2e0-2e4 345 371 373 377 37a-37d 390 3ac-3ce
   3d0-3d1 3d5-3d7 3d9 3db 3dd 3df 3e1 3e3 3e5 3e7 3e9 3eb 3ed 3ef-3f3 3f5 3f8 3fb-3fc
   430-45f 461 463 465 467 469 46b 46d 46f 471 473 475 477 479 47b 47d 47f 481 48b 48d 48f
   491 493 495 497 499 49b 49d 49f 4a1 4a3 4a5 4a7 4a9 4ab 4ad 4af 4b1 4b3 4b5 4b7 4b9 4bb
   4bd 4bf 4c2 4c4 4c6 4c8 4ca 4cc 4ce-4cf 4d1 4d3 4d5 4d7 4d9 4db 4dd 4df 4e1 4e3 4e5 4e7
   4e9 4eb 4ed 4ef 4f1 4f3 4f5 4f7 4f9 4fb 4fd 4ff 501 503 505 507 509 50b 50d 50f 511 513
   515 517 519 51b 51d 51f 521 523 525 527 529 52b 52d 52f 560-588 10d0-10fa 10fc-10ff
   13f8-13fd 1c80-1c88 1d00-1dbf 1e01 1e03 1e05 1e07 1e09 1e0b 1e0d 1e0f 1e11 1e13 1e15 1e17
   1e19 1e1b 1e1d 1e1f 1e21 1e23 1e25 1e27 1e29 1e2b 1e2d 1e2f 1e31 1e33 1e35 1e37 1e39 1e3b
   1e3d 1e3f 1e41 1e43 1e45 1e47 1e49 1e4b 1e4d 1e4f 1e51 1e53 1e55 1e57 1e59 1e5b 1e5d 1e5f
   1e61 1e63 1e65 1e67 1e69 1e6b 1e6d 1e6f 1e71 1e73 1e75 1e77 1e79 1e7b 1e7d 1e7f 1e81 1e83
   1e85 1e87 1e89 1e8b 1e8d 1e8f 1e91 1e93 1e95-1e9d 1e9f 1ea1 1ea3 1ea5 1ea7 1ea9 1eab 1ead
   1eaf 1eb1 1eb3 1eb5 1eb7 1eb9 1ebb 1ebd 1ebf 1ec1 1ec3 1ec5 1ec7 1ec9 1ecb 1ecd 1ecf 1ed1
   1ed3 1ed5 1ed7 1ed9 1edb 1edd 1edf 1ee1 1ee3 1ee5 1ee7 1ee9 1eeb 1eed 1eef 1ef1 1ef3 1ef5
   1ef7 1ef9 1efb 1efd 1eff-1f07 1f10-1f15 1f20-1f27 1f30-1f37 1f40-1f45 1f50-1f57 1f60-1f67
   1f70-1f7d 1f80-1f87 1f90-1f97 1fa0-1fa7 1fb0-1fb4 1fb6-1fb7 1fbe 1fc2-1fc4 1fc6-1fc7
   1fd0-1fd3 1fd6-1fd7 1fe0-1fe7 1ff2-1ff4 1ff6-1ff7 2071 207f 2090-209c 210a 210e-210f 2113
   212f 2134 2139 213c-213d 2146-2149 214e 2170-217f 2184 24d0-24e9 2c30-2c5f 2c61 2c65-2c66
   2c68 2c6a 2c6c 2c71 2c73-2c74 2c76-2c7d 2c81 2c83 2c85 2c87 2c89 2c8b 2c8d 2c8f 2c91 2c93
   2c95 2c97 2c99 2c9b 2c9d 2c9f 2ca1 2ca3 2ca5 2ca7 2ca9 2cab 2cad 2caf 2cb1 2cb3 2cb5 2cb7
   2cb9 2cbb 2cbd 2cbf 2cc1 2cc3 2cc5 2cc7 2cc9 2ccb 2ccd 2ccf 2cd1 2cd3 2cd5 2cd7 2cd9 2cdb
   2cdd 2cdf 2ce1 2ce3-2ce4 2cec 2cee 2cf3 2d00-2d25 2d27 2d2d a641 a643 a645 a647 a649 a64b
   a64d a64f a651 a653 a655 a657 a659 a65b a65d a65f a661 a663 a665 a667 a669 a66b a66d a681
   a683 a685 a687 a689 a68b a68d a68f a691 a693 a695 a697 a699 a69b-a69d a723 a725 a727 a729
   a72b a72d a72f-a731 a733 a735 a737 a739 a73b a73d a73f a741 a743 a745 a747 a749 a74b a74d
   a74f a751 a753 a755 a757 a759 a75b a75d a75f a761 a763 a765 a767 a769 a76b a76d a76f-a778
   a77a a77c a77f a781 a783 a785 a787 a78c a78e a791 a793-a795 a797 a799 a79b a79d a79f a7a1
   a7a3 a7a5 a7a7 a7a9 a7af a7b5 a7b7 a7b9 a7bb a7bd a7bf a7c1 a7c3 a7c8 a7ca a7d1 a7d3 a7d5
   a7d7 a7d9 a7f2-a7f4 a7f6 a7f8-a7fa ab30-ab5a ab5c-ab69 ab70-abbf fb00-fb06 fb13-fb17
   ff41-ff5a 10428-1044f 104d8-104fb 10597-105a1 105a3-105b1 105b3-105b9 105bb-105bc 10780
   10783-10785 10787-107b0 107b2-107ba 10cc0-10cf2 118c0-118df 16e60-16e7f 1d41a-1d433
   1d44e-1d454 1d456-1d467 1d482-1d49b 1d4b6-1d4b9 1d4bb 1d4bd-1d4c3 1d4c5-1d4cf 1d4ea-1d503
   1d51e-1d537 1d552-1d56b 1d586-1d59f 1d5ba-1d5d3 1d5ee-1d607 1d622-1d63b 1d656-1d66f
   1d68a-1d6a5 1d6c2-1d6da 1d6dc-1d6e1 1d6fc-1d714 1d716-1d71b 1d736-1d74e 1d750-1d755
   1d770-1d788 1d78a-1d78f 1d7aa-1d7c2 1d7c4-1d7c9 1d7cb 1df00-1df09 1df0b-1df1e 1df25-1df2a
   1e030-1e06d 1e922-1e943"),
  (["math"],
   "2b 3c-3e 5e 7c 7e ac b1 d7 f7 3d0-3d2 3d5 3f0-3f1 3f4-3f6 606-608 2016 2032-2034 2040 2044
   2052 2061-2064 207a-207e 208a-208e 20d0-20dc 20e1 20e5-20e6 20eb-20ef 2102 2107 210a-2113
   2115 2118-211d 2124 2128-2129 212c-212d 212f-2131 2133-2138 213c-2149 214b 2190-21a7
   21a9-21ae 21b0-21b1 21b6-21b7 21bc-21db 21dd 21e4-21e5 21f4-22ff 2308-230b 2320-2321 237c
   239b-23b5 23b7 23d0 23dc-23e2 25a0-25a1 25ae-25b7 25bc-25c1 25c6-25c7 25ca-25cb 25cf-25d3
   25e2 25e4 25e7-25ec 25f8-25ff 2605-2606 2640 2642 2660-2663 266d-266f 27c0-27ff 2900-2aff
   2b30-2b44 2b47-2b4c fb29 fe61-fe66 fe68 ff0b ff1c-ff1e ff3c ff3e ff5c ff5e ffe2 ffe9-ffec
   1d400-1d454 1d456-1d49c 1d49e-1d49f 1d4a2 1d4a5-1d4a6 1d4a9-1d4ac 1d4ae-1d4b9 1d4bb
   1d4bd-1d4c3 1d4c5-1d505 1d507-1d50a 1d50d-1d514 1d516-1d51c 1d51e-1d539 1d53b-1d53e
   1d540-1d544 1d546 1d54a-1d550 1d552-1d6a5 1d6a8-1d7cb 1d7ce-1d7ff 1ee00-1ee03 1ee05-1ee1f
   1ee21-1ee22 1ee24 1ee27 1ee29-1ee32 1ee34-1ee37 1ee39 1ee3b 1ee42 1ee47 1ee49 1ee4b
   1ee4d-1ee4f 1ee51-1ee52 1ee54 1ee57 1ee59 1ee5b 1ee5d 1ee5f 1ee61-1ee62 1ee64 1ee67-1ee6a
   1ee6c-1ee72 1ee74-1ee77 1ee79-1ee7c 1ee7e 1ee80-1ee89 1ee8b-1ee9b 1eea1-1eea3 1eea5-1eea9
   1eeab-1eebb 1eef0-1eef1"),
  (["nchar", "noncharactercodepoint"],
   "fdd0-fdef fffe-ffff 1fffe-1ffff 2fffe-2ffff 3fffe-3ffff 4fffe-4ffff 5fffe-5ffff
   6fffe-6ffff 7fffe-7ffff 8fffe-8ffff 9fffe-9ffff afffe-affff bfffe-bffff cfffe-cffff
   dfffe-dffff efffe-effff ffffe-fffff 10fffe-10ffff"),
  (["patsyn", "patternsyntax"],
   "21-2f 3a-40 5b-5e 60 7b-7e a1-a7 a9 ab-ac ae b0-b1 b6 bb bf d7 f7 2010-2027 2030-203e
   2041-2053 2055-205e 2190-245f 2500-2775 2794-2bff 2e00-2e7f 3001-3003 3008-3020 3030
   fd3e-fd3f fe45-fe46"),
  (["patws", "patternwhitespace"],
   "9-d 20 85 200e-200f 2028-2029"),
  (["pcm", "prependedconcatenationmark"],
   "600-605 6dd 70f 890-891 8e2 110bd 110cd"),
  (["qmark", "quotationmark"],
   "22 27 ab bb 2018-201f 2039-203a 2e42 300c-300f 301d-301f fe41-fe44 ff02 ff07 ff62-ff63"),
  (["radical"],
   "2e80-2e99 2e9b-2ef3 2f00-2fd5"),
  (["ri", "regionalindicator"],
   "1f1e6-1f1ff"),
  (["sterm", "sentenceterminal"],
   "21 2e 3f 589 61d-61f 6d4 700-702 7f9 837 839 83d-83e 964-965 104a-104b 1362 1367-1368 166e
   1735-1736 1803 1809 1944-1945 1aa8-1aab 1b5a-1b5b 1b5e-1b5f 1b7d-1b7e 1c3b-1c3c 1c7e-1c7f
   203c-203d 2047-2049 2e2e 2e3c 2e53-2e54 3002 a4ff a60e-a60f a6f3 a6f7 a876-a877 a8ce-a8cf
   a92f a9c8-a9c9 aa5d-aa5f aaf0-aaf1 abeb fe52 fe56-fe57 ff01 ff0e ff1f ff61 10a56-10a57
   10f55-10f59 10f86-10f89 11047-11048 110be-110c1 11141-11143 111c5-111c6 111cd 111de-111df
   11238-11239 1123b-1123c 112a9 1144b-1144c 115c2-115c3 115c9-115d7 11641-11642 1173c-1173e
   11944 11946 11a42-11a43 11a9b-11a9c 11c41-11c42 11ef7-11ef8 11f43-11f44 16a6e-16a6f 16af5
   16b37-16b38 16b44 16e98 1bc9f 1da88"),
  (["sd", "softdotted"],
   "69-6a 12f 249 268 29d 2b2 3f3 456 458 1d62 1d96 1da4 1da8 1e2d 1ecb 2071 2148-2149 2c7c
   1d422-1d423 1d456-1d457 1d48a-1d48b 1d4be-1d4bf 1d4f2-1d4f3 1d526-1d527 1d55a-1d55b
   1d58e-1d58f 1d5c2-1d5c3 1d5f6-1d5f7 1d62a-1d62b 1d65e-1d65f 1d692-1d693 1df1a 1e04c-1e04d
   1e068"),
  (["term", "terminalpunctuation"],
   "21 2c 2e 3a-3b 3f 37e 387 589 5c3 60c 61b 61d-61f 6d4 700-70a 70c 7f8-7f9 830-83e 85e
   964-965 e5a-e5b f08 f0d-f12 104a-104b 1361-1368 166e 16eb-16ed 1735-1736 17d4-17d6 17da
   1802-1805 1808-1809 1944-1945 1aa8-1aab 1b5a-1b5b 1b5d-1b5f 1b7d-1b7e 1c3b-1c3f 1c7e-1c7f
   203c-203d 2047-2049 2e2e 2e3c 2e41 2e4c 2e4e-2e4f 2e53-2e54 3001-3002 a4fe-a4ff a60d-a60f
   a6f3-a6f7 a876-a877 a8ce-a8cf a92f a9c7-a9c9 aa5d-aa5f aadf aaf0-aaf1 abeb fe50-fe52
   fe54-fe57 ff01 ff0c ff0e ff1a-ff1b ff1f ff61 ff64 1039f 103d0 10857 1091f 10a56-10a57
   10af0-10af5 10b3a-10b3f 10b99-10b9c 10f55-10f59 10f86-10f89 11047-1104d 110be-110c1
   11141-11143 111c5-111c6 111cd 111de-111df 11238-1123c 112a9 1144b-1144d 1145a-1145b
   115c2-115c5 115c9-115d7 11641-11642 1173c-1173e 11944 11946 11a42-11a43 11a9b-11a9c
   11aa1-11aa2 11c41-11c43 11c71 11ef7-11ef8 11f43-11f44 12470-12474 16a6e-16a6f 16af5
   16b37-16b39 16b44 16e97-16e98 1bc9f 1da87-1da8a"),
  (["uideo", "unifiedideograph"],
   "3400-4dbf 4e00-9fff fa0e-fa0f fa11 fa13-fa14 fa1f fa21 fa23-fa24 fa27-fa29 20000-2a6df
   2a700-2b739 2b740-2b81d 2b820-2cea1 2ceb0-2ebe0 30000-3134a 31350-323af"),
  (["vs", "variationselector"],
   "180b-180d 180f fe00-fe0f e0100-e01ef")]

/-- The characters of a property, for the properties that have a table of their own and for those
that others determine. -/
def derivedProperty? (name : String) : Option (Char → Bool) :=
  if name = "upper" || name = "uppercase" then some isUppercase
  else if name = "xids" || name = "xidstart" then some fun c => c != '_' && isIdentifierStart c
  else if name = "xidc" || name = "xidcontinue" then some isIdentifierContinue
  else if name = "wspace" || name = "whitespace" || name = "space" then some isBlank
  else none

/-- The characters of the property with the given name. -/
def property? (name : String) : Option (Char → Bool) :=
  match derivedProperty? name with
  | some isMember => some isMember
  | none =>
    (properties.find? fun entry => entry.1.contains name).map fun entry =>
      (Ranges.ofText entry.2).contains

end WorkflowGraph.Text
