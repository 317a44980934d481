import ProverInput.Text.Composed

set_option autoImplicit false

/-! # Labels of domain names

A label is fit if it does not start with a mark, if a joiner in it stands where one is needed, and
if letters of right-to-left scripts are not mixed with others.
-/

namespace ProverInput.Domain

/-! ## Tables -/

/-- Characters that belong to the one before. -/
def marks : Array CodePoints.Run := CodePoints.table "
300-33f 342 346-34e 350-36f 483-489 591-5bd 5bf 5c1-5c2 5c4-5c5 5c7 610-61a 64b-65f 670 6d6-6dc
6df-6e4 6e7-6e8 6ea-6ed 711 730-74a 7a6-7b0 7eb-7f3 7fd 816-819 81b-823 825-827 829-82d 859-85b
898-89f 8ca-8e1 8e3-903 93a-93c 93e-94f 951-957 962-963 981-983 9bc 9be-9c4 9c7-9c8 9cb-9cd 9d7
9e2-9e3 9fe a01-a03 a3c a3e-a42 a47-a48 a4b-a4d a51 a70-a71 a75 a81-a83 abc abe-ac5 ac7-ac9
acb-acd ae2-ae3 afa-aff b01-b03 b3c b3e-b44 b47-b48 b4b-b4d b55-b57 b62-b63 b82 bbe-bc2 bc6-bc8
bca-bcd bd7 c00-c04 c3c c3e-c44 c46-c48 c4a-c4d c55-c56 c62-c63 c81-c83 cbc cbe-cc4 cc6-cc8
cca-ccd cd5-cd6 ce2-ce3 cf3 d00-d03 d3b-d3c d3e-d44 d46-d48 d4a-d4d d57 d62-d63 d81-d83 dca
dcf-dd4 dd6 dd8-ddf df2-df3 e31 e34-e3a e47-e4e eb1 eb4-ebc ec8-ece f18-f19 f35 f37 f39 f3e-f3f
f71-f72 f74 f7a-f80 f82-f84 f86-f87 f8d-f92 f94-f97 f99-f9c f9e-fa1 fa3-fa6 fa8-fab fad-fb8
fba-fbc fc6 102b-103e 1056-1059 105e-1060 1062-1064 1067-106d 1071-1074 1082-108d 108f 109a-109d
135d-135f 1712-1715 1732-1734 1752-1753 1772-1773 17b6-17d3 17dd 1885-1886 18a9 1920-192b
1930-193b 1a17-1a1b 1a55-1a5e 1a60-1a7c 1a7f 1ab0-1ace 1b00-1b04 1b34-1b44 1b6b-1b73 1b80-1b82
1ba1-1bad 1be6-1bf3 1c24-1c37 1cd0-1cd2 1cd4-1ce8 1ced 1cf4 1cf7-1cf9 1dc0-1dff 20d0-20f0
2cef-2cf1 2d7f 2de0-2dff 302a-302f 3099-309a a66f-a672 a674-a67d a69e-a69f a6f0-a6f1 a802 a806
a80b a823-a827 a82c a880-a881 a8b4-a8c5 a8e0-a8f1 a8ff a926-a92d a947-a953 a980-a983 a9b3-a9c0
a9e5 aa29-aa36 aa43 aa4c-aa4d aa7b-aa7d aab0 aab2-aab4 aab7-aab8 aabe-aabf aac1 aaeb-aaef
aaf5-aaf6 abe3-abea abec-abed fb1e fe20-fe2f 101fd 102e0 10376-1037a 10a01-10a03 10a05-10a06
10a0c-10a0f 10a38-10a3a 10a3f 10ae5-10ae6 10d24-10d27 10eab-10eac 10efd-10eff 10f46-10f50
10f82-10f85 11000-11002 11038-11046 11070 11073-11074 1107f-11082 110b0-110ba 110c2 11100-11102
11127-11134 11145-11146 11173 11180-11182 111b3-111c0 111c9-111cc 111ce-111cf 1122c-11237 1123e
11241 112df-112ea 11300-11303 1133b-1133c 1133e-11344 11347-11348 1134b-1134d 11357 11362-11363
11366-1136c 11370-11374 11435-11446 1145e 114b0-114c3 115af-115b5 115b8-115c0 115dc-115dd
11630-11640 116ab-116b7 1171d-1172b 1182c-1183a 11930-11935 11937-11938 1193b-1193e 11940
11942-11943 119d1-119d7 119da-119e0 119e4 11a01-11a0a 11a33-11a39 11a3b-11a3e 11a47 11a51-11a5b
11a8a-11a99 11c2f-11c36 11c38-11c3f 11c92-11ca7 11ca9-11cb6 11d31-11d36 11d3a 11d3c-11d3d
11d3f-11d45 11d47 11d8a-11d8e 11d90-11d91 11d93-11d97 11ef3-11ef6 11f00-11f01 11f03 11f34-11f3a
11f3e-11f42 13440 13447-13455 16af0-16af4 16b30-16b36 16f4f 16f51-16f87 16f8f-16f92 16fe4
16ff0-16ff1 1bc9d-1bc9e 1cf00-1cf2d 1cf30-1cf46 1d165-1d169 1d16d-1d172 1d17b-1d182 1d185-1d18b
1d1aa-1d1ad 1d242-1d244 1da00-1da36 1da3b-1da6c 1da75 1da84 1da9b-1da9f 1daa1-1daaf 1e000-1e006
1e008-1e018 1e01b-1e021 1e023-1e024 1e026-1e02a 1e08f 1e130-1e136 1e2ae 1e2ec-1e2ef 1e4ec-1e4ef
1e8d0-1e8d6 1e944-1e94a"

/-- How letters join: to the next letter (1), to the one before (2), or to both (3). -/
def joining : Array CodePoints.Run := CodePoints.table "
620=3 622-625=2 626=3 627=2 628=3 629=2 62a-62e=3 62f-632=2 633-63f=3 641-647=3 648=2 649-64a=3
66e-66f=3 671-673=2 679-687=3 688-699=2 69a-6bf=3 6c0=2 6c1-6c2=3 6c3-6cb=2 6cc=3 6cd=2 6ce=3
6cf=2 6d0-6d1=3 6d2-6d3=2 6d5=2 6ee-6ef=2 6fa-6fc=3 6ff=3 710=2 712-714=3 715-719=2 71a-71d=3
71e=2 71f-727=3 728=2 729=3 72a=2 72b=3 72c=2 72d-72e=3 72f=2 74d=2 74e-758=3 759-75b=2 75c-76a=3
76b-76c=2 76d-770=3 771=2 772=3 773-774=2 775-777=3 778-779=2 77a-77f=3 7ca-7ea=3 840=2 841-845=3
846-847=2 848=3 849=2 84a-853=3 854=2 855=3 856-858=2 860=3 862-865=3 867=2 868=3 869-86a=2
870-882=2 886=3 889-88d=3 88e=2 8a0-8a9=3 8aa-8ac=2 8ae=2 8af-8b0=3 8b1-8b2=2 8b3-8b8=3 8b9=2
8ba-8c8=3 1807=3 1820-1878=3 1887-18a8=3 18aa=3 a840-a871=3 a872=1 10ac0-10ac4=3 10ac5=2 10ac7=2
10ac9-10aca=2 10acd=1 10ace-10ad2=2 10ad3-10ad6=3 10ad7=1 10ad8-10adc=3 10add=2 10ade-10ae0=3
10ae1=2 10ae4=2 10aeb-10aee=3 10aef=2 10b80=3 10b81=2 10b82=3 10b83-10b85=2 10b86-10b88=3 10b89=2
10b8a-10b8b=3 10b8c=2 10b8d=3 10b8e-10b8f=2 10b90=3 10b91=2 10ba9-10bac=2 10bad-10bae=3 10d00=1
10d01-10d21=3 10d22=2 10d23=3 10f30-10f32=3 10f33=2 10f34-10f44=3 10f51-10f53=3 10f54=2
10f70-10f73=3 10f74-10f75=2 10f76-10f81=3 10fb0=3 10fb2-10fb3=3 10fb4-10fb6=2 10fb8=3
10fb9-10fba=2 10fbb-10fbc=3 10fbd=2 10fbe-10fbf=3 10fc1=3 10fc2-10fc3=2 10fc4=3 10fc9=2 10fca=3
10fcb=1 1e922-1e943=3"

/-- Characters that are not written from left to right, by their `Direction`. -/
def directions : Array CodePoints.Run := CodePoints.table "
0-8=4 e-1b=4 21-2f=4 30-39=3 3a-40=4 5b-60=4 7b-7f=4 a1-a7=4 a9=4 ab-ac=4 ae=4 b0-b1=4 b6-b7=4
bb=4 bf=4 d7=4 f7=4 2b9-2ba=4 2c2-2cf=4 2d2-2d7=4 2de-2df=4 2e5-2ed=4 2ef-2ff=4 300-33f=5 342=5
346-34e=5 350-36f=5 375=4 3f6=4 483-489=5 58a=4 58d-58f=4 591-5bd=5 5be=1 5bf=5 5c0=1 5c1-5c2=5
5c3=1 5c4-5c5=5 5c6=1 5c7=5 5d0-5ea=1 5ef-5f4=1 606-607=4 608=1 609-60a=4 60b=1 60c=4 60d=1
60e-60f=4 610-61a=5 61b=1 61d-64a=1 64b-65f=5 660-669=2 66a=4 66b-66c=2 66d-66f=1 670=5 671-674=1
679-6d5=1 6d6-6dc=5 6de=4 6df-6e4=5 6e5-6e6=1 6e7-6e8=5 6e9=4 6ea-6ed=5 6ee-6ef=1 6f0-6f9=3
6fa-70d=1 710=1 711=5 712-72f=1 730-74a=5 74d-7a5=1 7a6-7b0=5 7b1=1 7c0-7ea=1 7eb-7f3=5 7f4-7f5=1
7f6-7f9=4 7fa=1 7fd=5 7fe-815=1 816-819=5 81a=1 81b-823=5 824=1 825-827=5 828=1 829-82d=5
830-83e=1 840-858=1 859-85b=5 85e=1 860-86a=1 870-88e=1 898-89f=5 8a0-8c9=1 8ca-8e1=5 8e3-902=5
93a=5 93c=5 941-948=5 94d=5 951-957=5 962-963=5 981=5 9bc=5 9c1-9c4=5 9cd=5 9e2-9e3=5 9f2-9f3=4
9fb=4 9fe=5 a01-a02=5 a3c=5 a41-a42=5 a47-a48=5 a4b-a4d=5 a51=5 a70-a71=5 a75=5 a81-a82=5 abc=5
ac1-ac5=5 ac7-ac8=5 acd=5 ae2-ae3=5 af1=4 afa-aff=5 b01=5 b3c=5 b3f=5 b41-b44=5 b4d=5 b55-b56=5
b62-b63=5 b82=5 bc0=5 bcd=5 bf3-bfa=4 c00=5 c04=5 c3c=5 c3e-c40=5 c46-c48=5 c4a-c4d=5 c55-c56=5
c62-c63=5 c78-c7e=4 c81=5 cbc=5 ccc-ccd=5 ce2-ce3=5 d00-d01=5 d3b-d3c=5 d41-d44=5 d4d=5 d62-d63=5
d81=5 dca=5 dd2-dd4=5 dd6=5 e31=5 e34-e3a=5 e3f=4 e47-e4e=5 eb1=5 eb4-ebc=5 ec8-ece=5 f18-f19=5
f35=5 f37=5 f39=5 f3a-f3d=4 f71-f72=5 f74=5 f7a-f7e=5 f80=5 f82-f84=5 f86-f87=5 f8d-f92=5
f94-f97=5 f99-f9c=5 f9e-fa1=5 fa3-fa6=5 fa8-fab=5 fad-fb8=5 fba-fbc=5 fc6=5 102d-1030=5
1032-1037=5 1039-103a=5 103d-103e=5 1058-1059=5 105e-1060=5 1071-1074=5 1082=5 1085-1086=5 108d=5
109d=5 135d-135f=5 1390-1399=4 1400=4 169b-169c=4 1712-1714=5 1732-1733=5 1752-1753=5 1772-1773=5
17b7-17bd=5 17c6=5 17c9-17d3=5 17db=4 17dd=5 17f0-17f9=4 1800-1805=4 1807-180a=4 1885-1886=5
18a9=5 1920-1922=5 1927-1928=5 1932=5 1939-193b=5 1940=4 1944-1945=4 19de-19ff=4 1a17-1a18=5
1a1b=5 1a56=5 1a58-1a5e=5 1a60=5 1a62=5 1a65-1a6c=5 1a73-1a7c=5 1a7f=5 1ab0-1ace=5 1b00-1b03=5
1b34=5 1b36-1b3a=5 1b3c=5 1b42=5 1b6b-1b73=5 1b80-1b81=5 1ba2-1ba5=5 1ba8-1ba9=5 1bab-1bad=5
1be6=5 1be8-1be9=5 1bed=5 1bef-1bf1=5 1c2c-1c33=5 1c36-1c37=5 1cd0-1cd2=5 1cd4-1ce0=5 1ce2-1ce8=5
1ced=5 1cf4=5 1cf8-1cf9=5 1dc0-1dff=5 200c-200d=4 2010=4 2012-2016=4 2018-2023=4 2027=4
2030-2032=4 2035=4 2038-203b=4 203d=4 203f-2046=4 204a-2056=4 2058-205e=4 20a0-20a7=4 20a9-20c0=4
20d0-20f0=5 2104=4 2108=4 2114=4 2117-2118=4 211e-211f=4 2123=4 2125=4 2127=4 2129=4 212e=4 213a=4
2141-2144=4 214a-214d=4 218a-218b=4 2190-222b=4 222e=4 2231-2328=4 232b-2335=4 237b-2394=4
2396-2426=4 2440-244a=4 24eb-26ab=4 26ad-27ff=4 2900-2a0b=4 2a0d-2a73=4 2a77-2adb=4 2add-2b73=4
2b76-2b95=4 2b97-2bff=4 2ce5-2cea=4 2cef-2cf1=5 2cf9-2cff=4 2d7f=5 2de0-2dff=5 2e00-2e5d=4
2e80-2e99=4 2e9b-2e9e=4 2ea0-2ef2=4 3001=4 3003-3004=4 3008-3020=4 302a-302d=5 3030=4 3037=4
303d-303f=4 3099-309a=5 30a0=4 30fb=4 31c0-31e3=4 4dc0-4dff=4 a490-a4c6=4 a60d-a60f=4 a66f-a672=5
a673=4 a674-a67d=5 a67e-a67f=4 a69e-a69f=5 a6f0-a6f1=5 a700-a721=4 a788=4 a802=5 a806=5 a80b=5
a825-a826=5 a828-a82b=4 a82c=5 a838-a839=4 a874-a877=4 a8c4-a8c5=5 a8e0-a8f1=5 a8ff=5 a926-a92d=5
a947-a951=5 a980-a982=5 a9b3=5 a9b6-a9b9=5 a9bc-a9bd=5 a9e5=5 aa29-aa2e=5 aa31-aa32=5 aa35-aa36=5
aa43=5 aa4c=5 aa7c=5 aab0=5 aab2-aab4=5 aab7-aab8=5 aabe-aabf=5 aac1=5 aaec-aaed=5 aaf6=5
ab6a-ab6b=4 abe5=5 abe8=5 abed=5 fb1e=5 fbb2-fbc2=1 fd3e-fd4f=4 fdcf=4 fdfd-fdff=4 fe20-fe2f=5
fe45-fe46=4 fe73=1 10101=4 10140-1018c=4 10190-1019c=4 101a0=4 101fd=5 102e0=5 102e1-102fb=3
10376-1037a=5 10800-10805=1 10808=1 1080a-10835=1 10837-10838=1 1083c=1 1083f-10855=1
10857-1089e=1 108a7-108af=1 108e0-108f2=1 108f4-108f5=1 108fb-1091b=1 1091f=4 10920-10939=1
1093f=1 10980-109b7=1 109bc-109cf=1 109d2-10a00=1 10a01-10a03=5 10a05-10a06=5 10a0c-10a0f=5
10a10-10a13=1 10a15-10a17=1 10a19-10a35=1 10a38-10a3a=5 10a3f=5 10a40-10a48=1 10a50-10a58=1
10a60-10a9f=1 10ac0-10ae4=1 10ae5-10ae6=5 10aeb-10af6=1 10b00-10b35=1 10b39-10b3f=4 10b40-10b55=1
10b58-10b72=1 10b78-10b91=1 10b99-10b9c=1 10ba9-10baf=1 10c00-10c48=1 10cc0-10cf2=1 10cfa-10d23=1
10d24-10d27=5 10d30-10d39=2 10e60-10e7e=2 10e80-10ea9=1 10eab-10eac=5 10ead=1 10eb0-10eb1=1
10efd-10eff=5 10f00-10f27=1 10f30-10f45=1 10f46-10f50=5 10f51-10f59=1 10f70-10f81=1 10f82-10f85=5
10f86-10f89=1 10fb0-10fcb=1 10fe0-10ff6=1 11001=5 11038-11046=5 11052-11065=4 11070=5
11073-11074=5 1107f-11081=5 110b3-110b6=5 110b9-110ba=5 110c2=5 11100-11102=5 11127-1112b=5
1112d-11134=5 11173=5 11180-11181=5 111b6-111be=5 111c9-111cc=5 111cf=5 1122f-11231=5 11234=5
11236-11237=5 1123e=5 11241=5 112df=5 112e3-112ea=5 11300-11301=5 1133b-1133c=5 11340=5
11366-1136c=5 11370-11374=5 11438-1143f=5 11442-11444=5 11446=5 1145e=5 114b3-114b8=5 114ba=5
114bf-114c0=5 114c2-114c3=5 115b2-115b5=5 115bc-115bd=5 115bf-115c0=5 115dc-115dd=5 11633-1163a=5
1163d=5 1163f-11640=5 11660-1166c=4 116ab=5 116ad=5 116b0-116b5=5 116b7=5 1171d-1171f=5
11722-11725=5 11727-1172b=5 1182f-11837=5 11839-1183a=5 1193b-1193c=5 1193e=5 11943=5
119d4-119d7=5 119da-119db=5 119e0=5 11a01-11a06=5 11a09-11a0a=5 11a33-11a38=5 11a3b-11a3e=5
11a47=5 11a51-11a56=5 11a59-11a5b=5 11a8a-11a96=5 11a98-11a99=5 11c30-11c36=5 11c38-11c3d=5
11c92-11ca7=5 11caa-11cb0=5 11cb2-11cb3=5 11cb5-11cb6=5 11d31-11d36=5 11d3a=5 11d3c-11d3d=5
11d3f-11d45=5 11d47=5 11d90-11d91=5 11d95=5 11d97=5 11ef3-11ef4=5 11f00-11f01=5 11f36-11f3a=5
11f40=5 11f42=5 11fd5-11ff1=4 13440=5 13447-13455=5 16af0-16af4=5 16b30-16b36=5 16f4f=5
16f8f-16f92=5 16fe2=4 16fe4=5 1bc9d-1bc9e=5 1cf00-1cf2d=5 1cf30-1cf46=5 1d167-1d169=5
1d17b-1d182=5 1d185-1d18b=5 1d1aa-1d1ad=5 1d1e9-1d1ea=4 1d200-1d241=4 1d242-1d244=5 1d245=4
1d300-1d356=4 1da00-1da36=5 1da3b-1da6c=5 1da75=5 1da84=5 1da9b-1da9f=5 1daa1-1daaf=5
1e000-1e006=5 1e008-1e018=5 1e01b-1e021=5 1e023-1e024=5 1e026-1e02a=5 1e08f=5 1e130-1e136=5
1e2ae=5 1e2ec-1e2ef=5 1e2ff=4 1e4ec-1e4ef=5 1e800-1e8c4=1 1e8c7-1e8cf=1 1e8d0-1e8d6=5
1e922-1e943=1 1e944-1e94a=5 1e94b=1 1e950-1e959=1 1e95e-1e95f=1 1ec71-1ecb4=1 1ed01-1ed3d=1
1eef0-1eef1=4 1f000-1f02b=4 1f030-1f093=4 1f0a0-1f0ae=4 1f0b1-1f0bf=4 1f0c1-1f0cf=4 1f0d1-1f0f5=4
1f10b-1f10f=4 1f12f=4 1f16d-1f16f=4 1f1ad=4 1f260-1f265=4 1f300-1f6d7=4 1f6dc-1f6ec=4
1f6f0-1f6fc=4 1f700-1f776=4 1f77b-1f7d9=4 1f7e0-1f7eb=4 1f7f0=4 1f800-1f80b=4 1f810-1f847=4
1f850-1f859=4 1f860-1f887=4 1f890-1f8ad=4 1f8b0-1f8b1=4 1f900-1fa53=4 1fa60-1fa6d=4 1fa70-1fa7c=4
1fa80-1fa88=4 1fa90-1fabd=4 1fabf-1fac5=4 1face-1fadb=4 1fae0-1fae8=4 1faf0-1faf8=4 1fb00-1fb92=4
1fb94-1fbca=4"

/-! ## Joiners -/

def isMark (c : Char) : Bool := (CodePoints.find? marks c).isSome

/-- The class of marks that cut a vowel off. -/
def isVirama (c : Char) : Bool := Composed.classOf c = 9

def joinsNext (c : Char) : Bool := CodePoints.valueOf joining c % 2 = 1

def joinsPrevious (c : Char) : Bool := 2 ≤ CodePoints.valueOf joining c

/-- Whether the first joiner of a label is fit, if there is one. It is behind a virama; a
non-joiner may also stand between letters that would join. What is in front is given backwards. -/
def joiner? (before : List Char) : List Char → Option Bool
  | [] => none
  | c :: rest =>
    let behindVirama := before.head?.any isVirama
    if c = '\u200c' then some (behindVirama || before.any joinsNext && rest.any joinsPrevious)
    else if c = '\u200d' then some behindVirama
    else joiner? (c :: before) rest

/-! ## Directions -/

/-- How a character takes part in the direction of a text. -/
inductive Direction where
  | leftToRight
  | rightToLeft
  | arabicNumber
  | europeanNumber
  | neutral
  /-- A mark, which follows its letter. -/
  | mark
deriving DecidableEq, Repr

def direction (c : Char) : Direction :=
  match CodePoints.valueOf directions c with
  | 1 => .rightToLeft
  | 2 => .arabicNumber
  | 3 => .europeanNumber
  | 4 => .neutral
  | 5 => .mark
  | _ => .leftToRight

/-- Whether there is more than marks and, where anything goes from right to left, nothing goes
from left to right, the last letter or number shows the end, and numbers are of one kind. -/
def hasOneDirection (label : List Char) : Bool :=
  let all := label.map direction
  match (all.reverse.dropWhile (· = .mark)).head? with
  | none => false
  | some last =>
    if all.contains .rightToLeft || all.contains .arabicNumber then
      !all.contains .leftToRight && last ≠ .neutral &&
        !(all.contains .arabicNumber && all.contains .europeanNumber)
    else true

/-- Whether a label that is not ASCII is fit. The first joiner decides if there is one. -/
def isLabel (label : List Char) : Bool :=
  match label with
  | [] => false
  | c :: _ => !isMark c && (joiner? [] label).getD (hasOneDirection label)

end ProverInput.Domain
