import Courier.Text.CodePoints

/-!
# Marks

A mark belongs to the character before it. Marks of different classes can follow one character
in any order and mean the same; a mark of class 0 keeps its place.
-/

namespace Courier.Mark

/-- The marks of each class. -/
def rows : List (Nat × List String) := [
  (0, [
    "34f 488-489 7a6-7b0 900-903 93a-93b 93e-94c 94e-94f 955-957 962-963 981-983 9be-9c4 9c7-9c8",
    "9cb-9cc 9d7 9e2-9e3 a01-a03 a3e-a42 a47-a48 a4b-a4c a51 a70-a71 a75 a81-a83 abe-ac5 ac7-ac9",
    "acb-acc ae2-ae3 afa-aff b01-b03 b3e-b44 b47-b48 b4b-b4c b55-b57 b62-b63 b82 bbe-bc2 bc6-bc8",
    "bca-bcc bd7 c00-c04 c3e-c44 c46-c48 c4a-c4c c62-c63 c81-c83 cbe-cc4 cc6-cc8 cca-ccc cd5-cd6",
    "ce2-ce3 cf3 d00-d03 d3e-d44 d46-d48 d4a-d4c d57 d62-d63 d81-d83 dcf-dd4 dd6 dd8-ddf df2-df3",
    "e31 e34-e37 e47 e4c-e4e eb1 eb4-eb7 ebb-ebc ecc-ece f3e-f3f f73 f75-f79 f7e-f7f f81 f8d-f97",
    "f99-fbc 102b-1036 1038 103b-103e 1056-1059 105e-1060 1062-1064 1067-106d 1071-1074",
    "1082-108c 108f 109a-109d 1712-1713 1732-1733 1752-1753 1772-1773 17b4-17d1 17d3 180b-180d",
    "180f 1885-1886 1920-192b 1930-1938 1a19-1a1b 1a55-1a5e 1a61-1a74 1abe 1b00-1b04 1b35-1b43",
    "1b80-1b82 1ba1-1ba9 1bac-1bad 1be7-1bf1 1c24-1c36 1ce1 1cf7 20dd-20e0 20e2-20e4 a670-a672",
    "a802 a80b a823-a827 a880-a881 a8b4-a8c3 a8c5 a8ff a926-a92a a947-a952 a980-a983 a9b4-a9bf",
    "a9e5 aa29-aa36 aa43 aa4c-aa4d aa7b-aa7d aaeb-aaef aaf5 abe3-abea abec fe00-fe0f 10a01-10a03",
    "10a05-10a06 10a0c 10a0e 10efc 11000-11002 11038-11045 11073-11074 11080-11082 110b0-110b8",
    "110c2 11127-11132 11145-11146 11180-11182 111b3-111bf 111c9 111cb-111cc 111ce-111cf",
    "1122c-11234 11237 1123e 11241 112df-112e8 11300-11303 1133e-11344 11347-11348 1134b-1134c",
    "11357 11362-11363 113b8-113c0 113c2 113c5 113c7-113ca 113cc-113cd 113d2 113e1-113e2",
    "11435-11441 11443-11445 114b0-114c1 115af-115b5 115b8-115be 115dc-115dd 11630-1163e 11640",
    "116ab-116b5 1171d-1172a 1182c-11838 11930-11935 11937-11938 1193b-1193c 11940 11942",
    "119d1-119d7 119da-119df 119e4 11a01-11a0a 11a33 11a35-11a39 11a3b-11a3e 11a51-11a5b",
    "11a8a-11a98 11b60-11b67 11c2f-11c36 11c38-11c3e 11c92-11ca7 11ca9-11cb6 11d31-11d36 11d3a",
    "11d3c-11d3d 11d3f-11d41 11d43 11d47 11d8a-11d8e 11d90-11d91 11d93-11d96 11ef3-11ef6",
    "11f00-11f01 11f03 11f34-11f3a 11f3e-11f40 11f5a 13440 13447-13455 1611e-1612e 16f4f",
    "16f51-16f87 16f8f-16f92 16fe4 1bc9d 1cf00-1cf2d 1cf30-1cf46 1da00-1da36 1da3b-1da6c 1da75",
    "1da84 1da9b-1da9f 1daa1-1daaf e0100-e01ef"]),
  (1, [
    "334-338 1cd4 1ce2-1ce8 20d2-20d3 20d8-20da 20e5-20e6 20ea-20eb 10a39 16af0-16af4 1bc9e",
    "1d167-1d169"]),
  (6, ["16ff0-16ff1"]),
  (7, [
    "93c 9bc a3c abc b3c c3c cbc 1037 1b34 1be6 1c37 a9b3 110ba 11173 111ca 11236 112e9",
    "1133b-1133c 11446 114c3 115c0 116b7 1183a 11943 11d42 1e94a"]),
  (8, ["3099-309a"]),
  (9, [
    "94d 9cd a4d acd b4d bcd c4d ccd d3b-d3c d4d dca e3a eba f84 1039-103a 1714-1715 1734 17d2",
    "1a60 1b44 1baa-1bab 1bf2-1bf3 2d7f a806 a82c a8c4 a953 a9c0 aaf6 abed 10a3f 11046 11070",
    "1107f 110b9 11133-11134 111c0 11235 112ea 1134d 113ce-113d0 11442 114c2 115bf 1163f 116b6",
    "1172b 11839 1193d-1193e 119e0 11a34 11a47 11a99 11c3f 11d44-11d45 11d97 11f41-11f42 1612f"]),
  (10, ["5b0"]),
  (11, ["5b1"]),
  (12, ["5b2"]),
  (13, ["5b3"]),
  (14, ["5b4"]),
  (15, ["5b5"]),
  (16, ["5b6"]),
  (17, ["5b7"]),
  (18, ["5b8 5c7"]),
  (19, ["5b9-5ba"]),
  (20, ["5bb"]),
  (21, ["5bc"]),
  (22, ["5bd"]),
  (23, ["5bf"]),
  (24, ["5c1"]),
  (25, ["5c2"]),
  (26, ["fb1e"]),
  (27, ["64b 8f0"]),
  (28, ["64c 8f1"]),
  (29, ["64d 8f2"]),
  (30, ["618 64e"]),
  (31, ["619 64f"]),
  (32, ["61a 650"]),
  (33, ["651"]),
  (34, ["652"]),
  (35, ["670"]),
  (36, ["711"]),
  (84, ["c55"]),
  (91, ["c56"]),
  (103, ["e38-e39"]),
  (107, ["e48-e4b"]),
  (118, ["eb8-eb9"]),
  (122, ["ec8-ecb"]),
  (129, ["f71"]),
  (130, ["f72 f7a-f7d f80"]),
  (132, ["f74"]),
  (202, ["321-322 327-328 1dd0"]),
  (214, ["1dce"]),
  (216, ["31b f39 1d165-1d166 1d16e-1d172"]),
  (218, ["1dfa 302a"]),
  (220, [
    "316-319 31c-320 323-326 329-333 339-33c 347-349 34d-34e 353-356 359-35a 591 596 59b 5a2-5a7",
    "5aa 5c5 655-656 65c 65f 6e3 6ea 6ed 731 734 737-739 73b-73c 73e 742 744 746 748 7f2 7fd",
    "859-85b 899-89b 8cf-8d3 8e3 8e6 8e9 8ed-8ef 8f6 8f9-8fa 952 f18-f19 f35 f37 fc6 108d 193b",
    "1a18 1a7f 1ab5-1aba 1abd 1abf-1ac0 1ac3-1ac4 1aca 1add 1ae6 1b6c 1cd5-1cd9 1cdc-1cdf 1ced",
    "1dc2 1dca 1dcf 1df9 1dfd 1dff 20e8 20ec-20ef a92b-a92d aab4 fe27-fe2d 101fd 102e0 10a0d",
    "10a3a 10ae6 10efa-10efb 10efd-10eff 10f46-10f47 10f4b 10f4d-10f50 10f83 10f85 1d17b-1d182",
    "1d18a-1d18b 1e4ee 1e5ef 1e8d0-1e8d6"]),
  (222, ["59a 5ad 1939 302d"]),
  (224, ["302e-302f"]),
  (226, ["1d16d"]),
  (228, ["5ae 18a9 1df7-1df8 302b"]),
  (230, [
    "300-314 33d-344 346 34a-34c 350-352 357 35b 363-36f 483-487 592-595 597-599 59c-5a1 5a8-5a9",
    "5ab-5ac 5af 5c4 610-617 653-654 657-65b 65d-65e 6d6-6dc 6df-6e2 6e4 6e7-6e8 6eb-6ec 730",
    "732-733 735-736 73a 73d 73f-741 743 745 747 749-74a 7eb-7f1 7f3 816-819 81b-823 825-827",
    "829-82d 897-898 89c-89f 8ca-8ce 8d4-8e1 8e4-8e5 8e7-8e8 8ea-8ec 8f3-8f5 8f7-8f8 8fb-8ff 951",
    "953-954 9fe f82-f83 f86-f87 135d-135f 17dd 193a 1a17 1a75-1a7c 1ab0-1ab4 1abb-1abc",
    "1ac1-1ac2 1ac5-1ac9 1acb-1adc 1ae0-1ae5 1ae7-1aea 1b6b 1b6d-1b73 1cd0-1cd2 1cda-1cdb 1ce0",
    "1cf4 1cf8-1cf9 1dc0-1dc1 1dc3-1dc9 1dcb-1dcc 1dd1-1df5 1dfb 1dfe 20d0-20d1 20d4-20d7",
    "20db-20dc 20e1 20e7 20e9 20f0 2cef-2cf1 2de0-2dff a66f a674-a67d a69e-a69f a6f0-a6f1",
    "a8e0-a8f1 aab0 aab2-aab3 aab7-aab8 aabe-aabf aac1 fe20-fe26 fe2e-fe2f 10376-1037a 10a0f",
    "10a38 10ae5 10d24-10d27 10d69-10d6d 10eab-10eac 10f48-10f4a 10f4c 10f82 10f84 11100-11102",
    "11366-1136c 11370-11374 1145e 16b30-16b36 1d185-1d189 1d1aa-1d1ad 1d242-1d244 1e000-1e006",
    "1e008-1e018 1e01b-1e021 1e023-1e024 1e026-1e02a 1e08f 1e130-1e136 1e2ae 1e2ec-1e2ef 1e4ef",
    "1e5ee 1e6e3 1e6e6 1e6ee-1e6ef 1e6f5 1e944-1e949"]),
  (232, ["315 31a 358 1df6 302c 1e4ec-1e4ed"]),
  (233, ["35c 35f 362 1dfc"]),
  (234, ["35d-35e 360-361 1aeb 1dcd"]),
  (240, ["345"])]

/-- The ranges of each class. -/
def table : List (Nat × List (Nat × Nat)) :=
  rows.map fun (k, rows) => (k, CodePoints.ranges rows)

/-- The class of a mark. -/
def class? (c : Char) : Option Nat :=
  if c.toNat < 0x300 then none
  else table.findSome? fun (k, ranges) =>
    if CodePoints.within ranges c.toNat then some k else none

/-- Whether a character is a mark. -/
def isMark (c : Char) : Bool :=
  (class? c).isSome

/-- How freely a character moves among the marks around it; with 0 it does not. -/
def order (c : Char) : Nat :=
  (class? c).getD 0

/-- The class of the signs that take the vowel from a consonant. -/
def vowelKiller : Nat := 9

end Courier.Mark
