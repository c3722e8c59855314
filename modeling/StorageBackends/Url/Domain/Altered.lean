import StorageBackends.Text.CodeSet

namespace StorageBackends.Url.Domain

open StorageBackends.Text

/-!
# Characters that do not stay

A domain keeps the characters of lower-case words. Others are dropped, and
others stand for their folded form.
-/

/-- The characters that are dropped. -/
def ignored : CodeSet :=
  .ofLines
   ["ad 34f 180b-180d 180f 200b 2060 2064 fe00-fe0f feff 1bca0-1bca3",
    "e0100-e01ef"]

/-- The characters beyond ASCII that are dropped or have a folded form. The
ranges also run over refused characters. -/
def altered : CodeSet :=
  .ofLines
   ["aa ad b2-b5 b9-ba bc-be c0-d6 d8-de 100 102 104 106 108 10a 10c 10e 110",
    "112 114 116 118 11a 11c 11e 120 122 124 126 128 12a 12c 12e 130 132-134",
    "136 139 13b 13d 13f-141 143 145 147 149-14a 14c 14e 150 152 154 156 158",
    "15a 15c 15e 160 162 164 166 168 16a 16c 16e 170 172 174 176 178-179 17b",
    "17d 17f 181-182 184 186-187 189-18b 18e-191 193-194 196-198 19c-19d",
    "19f-1a0 1a2 1a4 1a6-1a7 1a9 1ac 1ae-1af 1b1-1b3 1b5 1b7-1b8 1bc 1c4-1cd",
    "1cf 1d1 1d3 1d5 1d7 1d9 1db 1de 1e0 1e2 1e4 1e6 1e8 1ea 1ec 1ee 1f1-1f4",
    "1f6-1f8 1fa 1fc 1fe 200 202 204 206 208 20a 20c 20e 210 212 214 216 218",
    "21a 21c 21e 220 222 224 226 228 22a 22c 22e 230 232 23a-23b 23d-23e 241",
    "243-246 248 24a 24c 24e 2b0-2b8 2e0-2e4 340-341 343-345 34f 370 372 374",
    "376 37e-38f 391-3ab 3cf-3d6 3d8 3da 3dc 3de 3e0 3e2 3e4 3e6 3e8 3ea 3ec",
    "3ee 3f0-3f2 3f4-3f5 3f7 3f9-3fa 3fd-42f 460 462 464 466 468 46a 46c 46e",
    "470 472 474 476 478 47a 47c 47e 480 48a 48c 48e 490 492 494 496 498 49a",
    "49c 49e 4a0 4a2 4a4 4a6 4a8 4aa 4ac 4ae 4b0 4b2 4b4 4b6 4b8 4ba 4bc 4be",
    "4c1 4c3 4c5 4c7 4c9 4cb 4cd 4d0 4d2 4d4 4d6 4d8 4da 4dc 4de 4e0 4e2 4e4",
    "4e6 4e8 4ea 4ec 4ee 4f0 4f2 4f4 4f6 4f8 4fa 4fc 4fe 500 502 504 506 508",
    "50a 50c 50e 510 512 514 516 518 51a 51c 51e 520 522 524 526 528 52a 52c",
    "52e 531-556 587 675-678 958-95f 9dc-9df a33 a36 a59-a5b a5e b5c-b5d e33",
    "eb3 edc-edd f0c f43 f4d f52 f57 f5c f69 f73 f75-f79 f81 f93 f9d fa2 fa7",
    "fac fb9 10c7-10cd 10fc 13f8-13fd 180b-180f 1c80-1cbf 1d2c-1d2e 1d30-1d3a",
    "1d3c-1d4d 1d4f-1d6a 1d78 1d9b-1dbf 1e00 1e02 1e04 1e06 1e08 1e0a 1e0c",
    "1e0e 1e10 1e12 1e14 1e16 1e18 1e1a 1e1c 1e1e 1e20 1e22 1e24 1e26 1e28",
    "1e2a 1e2c 1e2e 1e30 1e32 1e34 1e36 1e38 1e3a 1e3c 1e3e 1e40 1e42 1e44",
    "1e46 1e48 1e4a 1e4c 1e4e 1e50 1e52 1e54 1e56 1e58 1e5a 1e5c 1e5e 1e60",
    "1e62 1e64 1e66 1e68 1e6a 1e6c 1e6e 1e70 1e72 1e74 1e76 1e78 1e7a 1e7c",
    "1e7e 1e80 1e82 1e84 1e86 1e88 1e8a 1e8c 1e8e 1e90 1e92 1e94 1e9a-1e9b",
    "1e9e 1ea0 1ea2 1ea4 1ea6 1ea8 1eaa 1eac 1eae 1eb0 1eb2 1eb4 1eb6 1eb8",
    "1eba 1ebc 1ebe 1ec0 1ec2 1ec4 1ec6 1ec8 1eca 1ecc 1ece 1ed0 1ed2 1ed4",
    "1ed6 1ed8 1eda 1edc 1ede 1ee0 1ee2 1ee4 1ee6 1ee8 1eea 1eec 1eee 1ef0",
    "1ef2 1ef4 1ef6 1ef8 1efa 1efc 1efe 1f08-1f0f 1f18-1f1d 1f28-1f2f",
    "1f38-1f3f 1f48-1f4d 1f59-1f5f 1f68-1f6f 1f71 1f73 1f75 1f77 1f79 1f7b",
    "1f7d-1faf 1fb2-1fb4 1fb7-1fc4 1fc7-1fcc 1fd3 1fd8-1fdb 1fe3 1fe8-1ff4",
    "1ff7-200b 2011 2033-2034 2036-2037 203c 2057 2060-209c 20a8 2102-2103",
    "2107 2109-2113 2115-2116 2119-211d 2120-2122 2124 2126 2128 212a-212d",
    "212f-2139 213b-2140 2145-2149 2150-217f 2189 222c-222d 222f-2230",
    "2329-232a 2460-24ea 2a0c 2a75-2a76 2adc 2c00-2c2f 2c60 2c62-2c64 2c67",
    "2c69 2c6b 2c6d-2c70 2c72 2c75 2c7c-2c80 2c82 2c84 2c86 2c88 2c8a 2c8c",
    "2c8e 2c90 2c92 2c94 2c96 2c98 2c9a 2c9c 2c9e 2ca0 2ca2 2ca4 2ca6 2ca8",
    "2caa 2cac 2cae 2cb0 2cb2 2cb4 2cb6 2cb8 2cba 2cbc 2cbe 2cc0 2cc2 2cc4",
    "2cc6 2cc8 2cca 2ccc 2cce 2cd0 2cd2 2cd4 2cd6 2cd8 2cda 2cdc 2cde 2ce0",
    "2ce2 2ceb 2ced 2cf2 2d6f 2e9f 2ef3-2fd5 3002 3036 3038-303a 309f 30ff",
    "3131-318e 3192-319f 3200-3247 3250-327e 3280-33ff a640 a642 a644 a646",
    "a648 a64a a64c a64e a650 a652 a654 a656 a658 a65a a65c a65e a660 a662",
    "a664 a666 a668 a66a a66c a680 a682 a684 a686 a688 a68a a68c a68e a690",
    "a692 a694 a696 a698 a69a a69c-a69d a722 a724 a726 a728 a72a a72c a72e",
    "a732 a734 a736 a738 a73a a73c a73e a740 a742 a744 a746 a748 a74a a74c",
    "a74e a750 a752 a754 a756 a758 a75a a75c a75e a760 a762 a764 a766 a768",
    "a76a a76c a76e a770 a779 a77b a77d-a77e a780 a782 a784 a786 a78b a78d",
    "a790 a792 a796 a798 a79a a79c a79e a7a0 a7a2 a7a4 a7a6 a7a8 a7aa-a7ae",
    "a7b0-a7b4 a7b6 a7b8 a7ba a7bc a7be a7c0 a7c2 a7c4-a7c7 a7c9 a7d0 a7d6",
    "a7d8 a7f2-a7f5 a7f8-a7f9 ab5c-ab5f ab69 ab70-abbf f900-fa0d fa10 fa12",
    "fa15-fa1e fa20 fa22 fa25-fa26 fa2a-fb1d fb1f-fbb1 fbd3-fd3d fd50-fdc7",
    "fdf0-fdfc fe00-fe18 fe31-fe44 fe4d-fe71 fe77-ffee 10400-10427 104b0-104d3",
    "10570-10595 10781-107ba 10c80-10cb2 118a0-118bf 16e40-16e5f 1bca0-1bca3",
    "1d15e-1d164 1d1bb-1d1c0 1d400-1d7ff 1e030-1e06d 1e900-1e921 1ee00-1eebb",
    "1f101-1f10a 1f110-1f12e 1f130-1f14f 1f16a-1f16c 1f190 1f200-1f251",
    "1fbf0-1fbf9 2f800-2fa1d e0100-e01ef"]

end StorageBackends.Url.Domain
