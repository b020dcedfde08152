import Accounts.Text.Lower

/-!
# Mapping of domain names

Before a domain name is looked at, compatibility forms of letters and digits become the plain
ones, capital letters become small ones, and invisible characters go away.  A character without a
mapping is kept.
-/

namespace Accounts.Unicode

open Text

/-- Consecutive characters with their replacements: the last character of the replacement moves
along. -/
structure ReplacementRun where
  first : Nat
  count : Nat
  text : List Nat

/-- The replacement of a code point of the run. -/
def ReplacementRun.apply (r : ReplacementRun) (n : Nat) : List Char :=
  match r.text.reverse with
  | [] => []
  | last :: before =>
    (before.reverse ++ [last + (n - r.first)]).map Char.ofNat

/-- Read runs back from a packed text: the code points skipped, the code points in the run, and
the replacement with `+` between its code points or `-` for none. -/
def ReplacementRun.unpack : Nat → List (List Char) → List ReplacementRun
  | start, skip :: count :: text :: rest =>
    let first := start + hexValue skip
    let parts := if text = ['-'] then [] else (text.splitOn '+').map hexValue
    ⟨first, hexValue count, parts⟩ :: unpack (first + hexValue count) rest
  | _, _ => []

/-- The characters with a replacement that is not their lowercase form. -/
def replacements : List ReplacementRun := ReplacementRun.unpack 0 (words
  "aa 1 61 2 1 - 4 2 32 1 1 3bc 3 1 31 0 1 6f 75 1 69+307 1 1 69+6a 0 1 69+6a b 1 6c+b7 0 1 6c+b7
  8 1 2bc+6e 35 1 73 44 1 64+17e 0 1 64+17e 0 1 64+17e 0 1 6c+6a 0 1 6c+6a 0 1 6c+6a 0 1 6e+6a 0
  1 6e+6a 0 1 6e+6a 24 1 64+7a 0 1 64+7a 0 1 64+7a bc 1 68 0 1 266 0 1 6a 0 1 72 0 1 279 0 1 27b
  0 1 281 0 1 77 0 1 79 27 1 263 0 1 6c 0 1 73 0 1 78 0 1 295 60 1 3b9 9 1 - 80 1 3b2 0 1 3b8 0 1
  3c5 0 1 3cd 0 1 3cb 0 1 3c6 0 1 3c0 19 1 3ba 0 1 3c1 0 1 3c3 2 1 3b5 3 1 3c3 18d 1 565+582 ed 1
  627+674 0 1 648+674 0 1 6c7+674 0 1 64a+674 7ba 1 e4d+e32 7f 1 ecd+eb2 28 1 eab+e99 0 1 eab+ea1
  2e 1 f0b 6a 1 fb2+f71+f80 1 1 fb3+f71+f80 182 1 10dc 62 2 - 23f 56 13a0 2 6 13f0 3b6 2 - 55 5 -
  470 1 432 0 1 434 0 1 43e 0 2 441 0 1 442 0 1 44a 0 1 463 0 1 a64b 0 1 1c8a a2 1 61 0 1 e6 0 1
  62 1 2 64 0 1 1dd 0 8 67 1 1 6f 0 1 223 0 1 70 0 1 72 0 2 74 0 1 77 0 1 61 0 2 250 0 1 1d02 0 1
  62 0 2 64 0 1 259 0 2 25b 0 1 67 1 1 6b 0 1 6d 0 1 14b 0 1 6f 0 1 254 0 2 1d16 0 1 70 0 2 74 0
  1 1d1d 0 1 26f 0 1 76 0 1 1d25 0 3 3b2 0 2 3c6 0 1 69 0 1 72 0 2 75 0 2 3b2 0 1 3c1 0 2 3c6 d 1
  43d 22 1 252 0 1 63 0 1 255 0 1 f0 0 1 25c 0 1 66 0 1 25f 0 1 261 0 1 265 0 3 268 0 1 1d7b 0 1
  29d 0 1 26d 0 1 1d85 0 1 29f 0 1 271 0 1 270 0 4 272 0 1 278 0 2 282 0 1 1ab 0 2 289 0 1 1d1c 0
  2 28b 0 1 7a 0 3 290 0 1 3b8 da 1 61+2be 0 1 1e61 e4 1 1f00+3b9 0 1 1f01+3b9 0 1 1f02+3b9 0 1
  1f03+3b9 0 1 1f04+3b9 0 1 1f05+3b9 0 1 1f06+3b9 0 1 1f07+3b9 0 1 1f00+3b9 0 1 1f01+3b9 0 1
  1f02+3b9 0 1 1f03+3b9 0 1 1f04+3b9 0 1 1f05+3b9 0 1 1f06+3b9 0 1 1f07+3b9 0 1 1f20+3b9 0 1
  1f21+3b9 0 1 1f22+3b9 0 1 1f23+3b9 0 1 1f24+3b9 0 1 1f25+3b9 0 1 1f26+3b9 0 1 1f27+3b9 0 1
  1f20+3b9 0 1 1f21+3b9 0 1 1f22+3b9 0 1 1f23+3b9 0 1 1f24+3b9 0 1 1f25+3b9 0 1 1f26+3b9 0 1
  1f27+3b9 0 1 1f60+3b9 0 1 1f61+3b9 0 1 1f62+3b9 0 1 1f63+3b9 0 1 1f64+3b9 0 1 1f65+3b9 0 1
  1f66+3b9 0 1 1f67+3b9 0 1 1f60+3b9 0 1 1f61+3b9 0 1 1f62+3b9 0 1 1f63+3b9 0 1 1f64+3b9 0 1
  1f65+3b9 0 1 1f66+3b9 0 1 1f67+3b9 2 1 1f70+3b9 0 1 3b1+3b9 0 1 3ac+3b9 2 1 1fb6+3b9 3 1 3ac 0
  1 3b1+3b9 5 1 1f74+3b9 0 1 3b7+3b9 0 1 3ae+3b9 2 1 1fc6+3b9 1 1 3ad 1 1 3ae 0 1 3b7+3b9 e 1 3af
  f 1 3cd 6 1 1f7c+3b9 0 1 3c9+3b9 0 1 3ce+3b9 2 1 1ff6+3b9 1 1 3cc 1 1 3ce 0 1 3c9+3b9 e 1 - 54
  5 - 5 6 - 0 1 30 0 1 69 2 6 34 5 1 6e 0 a 30 6 1 61 0 1 65 0 1 6f 0 1 78 0 1 259 0 1 68 0 4 6b
  0 1 70 0 2 73 b 1 72+73 59 1 63 4 1 25b 2 2 67 0 1 68 0 1 68 0 1 68 0 1 127 0 1 69 0 1 69 0 1
  6c 0 1 6c 1 1 6e 0 1 6e+6f 2 3 70 0 1 72 0 1 72 2 1 73+6d 0 1 74+65+6c 0 1 74+6d 1 1 7a 3 1 7a
  3 2 62 1 1 65 0 2 65 1 1 6d 0 1 6f 0 4 5d0 0 1 69 1 1 66+61+78 0 1 3c0 0 1 3b3 0 1 3b3 0 1 3c0
  5 1 64 0 2 64 0 2 69 16 1 69 0 1 69+69 0 1 69+69+69 0 1 69+76 0 1 76 0 1 76+69 0 1 76+69+69 0 1
  76+69+69+69 0 1 69+78 0 1 78 0 1 78+69 0 1 78+69+69 0 1 6c 0 2 63 0 1 6d 0 1 69 0 1 69+69 0 1
  69+69+69 0 1 69+76 0 1 76 0 1 76+69 0 1 76+69+69 0 1 76+69+69+69 0 1 69+78 0 1 78 0 1 78+69 0 1
  78+69+69 0 1 6c 0 2 63 0 1 6d 2e0 9 31 0 a 31+30 0 1 32+30 42 1a 61 0 1a 61 0 1 30 791 1 6a 0 1
  76 f1 1 2d61 12f 1 6bcd 53 1 9f9f c 1 4e00 0 1 4e28 0 1 4e36 0 1 4e3f 0 1 4e59 0 1 4e85 0 1
  4e8c 0 1 4ea0 0 1 4eba 0 1 513f 0 1 5165 0 1 516b 0 1 5182 0 1 5196 0 1 51ab 0 1 51e0 0 1 51f5
  0 1 5200 0 1 529b 0 1 52f9 0 1 5315 0 1 531a 0 1 5338 0 1 5341 0 1 535c 0 1 5369 0 1 5382 0 1
  53b6 0 1 53c8 0 1 53e3 0 1 56d7 0 1 571f 0 1 58eb 0 1 5902 0 1 590a 0 1 5915 0 1 5927 0 1 5973
  0 1 5b50 0 1 5b80 0 1 5bf8 0 1 5c0f 0 1 5c22 0 1 5c38 0 1 5c6e 0 1 5c71 0 1 5ddb 0 1 5de5 0 1
  5df1 0 1 5dfe 0 1 5e72 0 1 5e7a 0 1 5e7f 0 1 5ef4 0 1 5efe 0 1 5f0b 0 1 5f13 0 1 5f50 0 1 5f61
  0 1 5f73 0 1 5fc3 0 1 6208 0 1 6236 0 1 624b 0 1 652f 0 1 6534 0 1 6587 0 1 6597 0 1 65a4 0 1
  65b9 0 1 65e0 0 1 65e5 0 1 66f0 0 1 6708 0 1 6728 0 1 6b20 0 1 6b62 0 1 6b79 0 1 6bb3 0 1 6bcb
  0 1 6bd4 0 1 6bdb 0 1 6c0f 0 1 6c14 0 1 6c34 0 1 706b 0 1 722a 0 1 7236 0 1 723b 0 1 723f 0 1
  7247 0 1 7259 0 1 725b 0 1 72ac 0 1 7384 0 1 7389 0 1 74dc 0 1 74e6 0 1 7518 0 1 751f 0 1 7528
  0 1 7530 0 1 758b 0 1 7592 0 1 7676 0 1 767d 0 1 76ae 0 1 76bf 0 1 76ee 0 1 77db 0 1 77e2 0 1
  77f3 0 1 793a 0 1 79b8 0 1 79be 0 1 7a74 0 1 7acb 0 1 7af9 0 1 7c73 0 1 7cf8 0 1 7f36 0 1 7f51
  0 1 7f8a 0 1 7fbd 0 1 8001 0 1 800c 0 1 8012 0 1 8033 0 1 807f 0 1 8089 0 1 81e3 0 1 81ea 0 1
  81f3 0 1 81fc 0 1 820c 0 1 821b 0 1 821f 0 1 826e 0 1 8272 0 1 8278 0 1 864d 0 1 866b 0 1 8840
  0 1 884c 0 1 8863 0 1 897e 0 1 898b 0 1 89d2 0 1 8a00 0 1 8c37 0 1 8c46 0 1 8c55 0 1 8c78 0 1
  8c9d 0 1 8d64 0 1 8d70 0 1 8db3 0 1 8eab 0 1 8eca 0 1 8f9b 0 1 8fb0 0 1 8fb5 0 1 9091 0 1 9149
  0 1 91c6 0 1 91cc 0 1 91d1 0 1 9577 0 1 9580 0 1 961c 0 1 96b6 0 1 96b9 0 1 96e8 0 1 9751 0 1
  975e 0 1 9762 0 1 9769 0 1 97cb 0 1 97ed 0 1 97f3 0 1 9801 0 1 98a8 0 1 98db 0 1 98df 0 1 9996
  0 1 9999 0 1 99ac 0 1 9aa8 0 1 9ad8 0 1 9adf 0 1 9b25 0 1 9b2f 0 1 9b32 0 1 9b3c 0 1 9b5a 0 1
  9ce5 0 1 9e75 0 1 9e7f 0 1 9ea5 0 1 9ebb 0 1 9ec3 0 1 9ecd 0 1 9ed1 0 1 9ef9 0 1 9efd 0 1 9f0e
  0 1 9f13 0 1 9f20 0 1 9f3b 0 1 9f4a 0 1 9f52 0 1 9f8d 0 1 9f9c 0 1 9fa0 2c 1 2e 35 1 5341 0 2
  5344 64 1 3088+308a 5f 1 30b3+30c8 64 1 - 2d 1 4e00 0 1 4e8c 0 1 4e09 0 1 56db 0 1 4e0a 0 1
  4e2d 0 1 4e0b 0 1 7532 0 1 4e59 0 1 4e19 0 1 4e01 0 1 5929 0 1 5730 0 1 4eba a4 1 554f 0 1 5e7c
  0 1 6587 0 1 7b8f 8 1 70+74+65 0 9 32+31 0 6 33+30 e 1 ac00 0 1 b098 0 1 b2e4 0 1 b77c 0 1 b9c8
  0 1 bc14 0 1 c0ac 0 1 c544 0 1 c790 0 1 cc28 0 1 ce74 0 1 d0c0 0 1 d30c 0 1 d558 0 1 cc38+ace0
  0 1 c8fc+c758 0 1 c6b0 1 1 4e00 0 1 4e8c 0 1 4e09 0 1 56db 0 1 4e94 0 1 516d 0 1 4e03 0 1 516b
  0 1 4e5d 0 1 5341 0 1 6708 0 1 706b 0 1 6c34 0 1 6728 0 1 91d1 0 1 571f 0 1 65e5 0 1 682a 0 1
  6709 0 1 793e 0 1 540d 0 1 7279 0 1 8ca1 0 1 795d 0 1 52b4 0 1 79d8 0 1 7537 0 1 5973 0 1 9069
  0 1 512a 0 1 5370 0 1 6ce8 0 1 9805 0 1 4f11 0 1 5199 0 1 6b63 0 1 4e0a 0 1 4e2d 0 1 4e0b 0 1
  5de6 0 1 53f3 0 1 533b 0 1 5b97 0 1 5b66 0 1 76e3 0 1 4f01 0 1 8cc7 0 1 5354 0 1 591c 0 4 33+36
  0 a 34+30 0 1 35+30 0 1 31+6708 0 1 32+6708 0 1 33+6708 0 1 34+6708 0 1 35+6708 0 1 36+6708 0 1
  37+6708 0 1 38+6708 0 1 39+6708 0 1 31+30+6708 0 1 31+31+6708 0 1 31+32+6708 0 1 68+67 0 1
  65+72+67 0 1 65+76 0 1 6c+74+64 0 1 30a2 0 1 30a4 0 1 30a6 0 1 30a8 0 2 30aa 0 1 30ad 0 1 30af
  0 1 30b1 0 1 30b3 0 1 30b5 0 1 30b7 0 1 30b9 0 1 30bb 0 1 30bd 0 1 30bf 0 1 30c1 0 1 30c4 0 1
  30c6 0 1 30c8 0 6 30ca 0 1 30d2 0 1 30d5 0 1 30d8 0 1 30db 0 5 30de 0 1 30e4 0 1 30e6 0 6 30e8
  0 4 30ef 0 1 4ee4+548c 0 1 30a2+30d1+30fc+30c8 0 1 30a2+30eb+30d5+30a1 0 1 30a2+30f3+30da+30a2
  0 1 30a2+30fc+30eb 0 1 30a4+30cb+30f3+30b0 0 1 30a4+30f3+30c1 0 1 30a6+30a9+30f3 0 1
  30a8+30b9+30af+30fc+30c9 0 1 30a8+30fc+30ab+30fc 0 1 30aa+30f3+30b9 0 1 30aa+30fc+30e0 0 1
  30ab+30a4+30ea 0 1 30ab+30e9+30c3+30c8 0 1 30ab+30ed+30ea+30fc 0 1 30ac+30ed+30f3 0 1
  30ac+30f3+30de 0 1 30ae+30ac 0 1 30ae+30cb+30fc 0 1 30ad+30e5+30ea+30fc 0 1 30ae+30eb+30c0+30fc
  0 1 30ad+30ed 0 1 30ad+30ed+30b0+30e9+30e0 0 1 30ad+30ed+30e1+30fc+30c8+30eb 0 1
  30ad+30ed+30ef+30c3+30c8 0 1 30b0+30e9+30e0 0 1 30b0+30e9+30e0+30c8+30f3 0 1
  30af+30eb+30bc+30a4+30ed 0 1 30af+30ed+30fc+30cd 0 1 30b1+30fc+30b9 0 1 30b3+30eb+30ca 0 1
  30b3+30fc+30dd 0 1 30b5+30a4+30af+30eb 0 1 30b5+30f3+30c1+30fc+30e0 0 1 30b7+30ea+30f3+30b0 0 1
  30bb+30f3+30c1 0 1 30bb+30f3+30c8 0 1 30c0+30fc+30b9 0 1 30c7+30b7 0 1 30c9+30eb 0 1 30c8+30f3
  0 1 30ca+30ce 0 1 30ce+30c3+30c8 0 1 30cf+30a4+30c4 0 1 30d1+30fc+30bb+30f3+30c8 0 1
  30d1+30fc+30c4 0 1 30d0+30fc+30ec+30eb 0 1 30d4+30a2+30b9+30c8+30eb 0 1 30d4+30af+30eb 0 1
  30d4+30b3 0 1 30d3+30eb 0 1 30d5+30a1+30e9+30c3+30c9 0 1 30d5+30a3+30fc+30c8 0 1
  30d6+30c3+30b7+30a7+30eb 0 1 30d5+30e9+30f3 0 1 30d8+30af+30bf+30fc+30eb 0 1 30da+30bd 0 1
  30da+30cb+30d2 0 1 30d8+30eb+30c4 0 1 30da+30f3+30b9 0 1 30da+30fc+30b8 0 1 30d9+30fc+30bf 0 1
  30dd+30a4+30f3+30c8 0 1 30dc+30eb+30c8 0 1 30db+30f3 0 1 30dd+30f3+30c9 0 1 30db+30fc+30eb 0 1
  30db+30fc+30f3 0 1 30de+30a4+30af+30ed 0 1 30de+30a4+30eb 0 1 30de+30c3+30cf 0 1 30de+30eb+30af
  0 1 30de+30f3+30b7+30e7+30f3 0 1 30df+30af+30ed+30f3 0 1 30df+30ea 0 1 30df+30ea+30d0+30fc+30eb
  0 1 30e1+30ac 0 1 30e1+30ac+30c8+30f3 0 1 30e1+30fc+30c8+30eb 0 1 30e4+30fc+30c9 0 1
  30e4+30fc+30eb 0 1 30e6+30a2+30f3 0 1 30ea+30c3+30c8+30eb 0 1 30ea+30e9 0 1 30eb+30d4+30fc 0 1
  30eb+30fc+30d6+30eb 0 1 30ec+30e0 0 1 30ec+30f3+30c8+30b2+30f3 0 1 30ef+30c3+30c8 0 1 30+70b9 0
  1 31+70b9 0 1 32+70b9 0 1 33+70b9 0 1 34+70b9 0 1 35+70b9 0 1 36+70b9 0 1 37+70b9 0 1 38+70b9 0
  1 39+70b9 0 1 31+30+70b9 0 1 31+31+70b9 0 1 31+32+70b9 0 1 31+33+70b9 0 1 31+34+70b9 0 1
  31+35+70b9 0 1 31+36+70b9 0 1 31+37+70b9 0 1 31+38+70b9 0 1 31+39+70b9 0 1 32+30+70b9 0 1
  32+31+70b9 0 1 32+32+70b9 0 1 32+33+70b9 0 1 32+34+70b9 0 1 68+70+61 0 1 64+61 0 1 61+75 0 1
  62+61+72 0 1 6f+76 0 1 70+63 0 1 64+6d 0 2 64+6d+32 0 1 69+75 0 1 5e73+6210 0 1 662d+548c 0 1
  5927+6b63 0 1 660e+6cbb 0 1 682a+5f0f+4f1a+793e 0 1 70+61 0 1 6e+61 0 1 3bc+61 0 1 6d+61 0 2
  6b+61 0 1 6d+62 0 1 67+62 0 1 63+61+6c 0 1 6b+63+61+6c 0 1 70+66 0 1 6e+66 0 2 3bc+66 0 1 6d+67
  0 1 6b+67 0 1 68+7a 0 1 6b+68+7a 0 1 6d+68+7a 0 1 67+68+7a 0 1 74+68+7a 0 1 3bc+6c 0 1 6d+6c 0
  1 64+6c 0 1 6b+6c 0 1 66+6d 0 1 6e+6d 0 1 3bc+6d 0 1 6d+6d 0 1 63+6d 0 1 6b+6d 0 1 6d+6d+32 0 1
  63+6d+32 0 1 6d+32 0 1 6b+6d+32 0 1 6d+6d+33 0 1 63+6d+33 0 1 6d+33 0 1 6b+6d+33 2 1 70+61 0 1
  6b+70+61 0 1 6d+70+61 0 1 67+70+61 0 1 72+61+64 2 1 70+73 0 1 6e+73 0 1 3bc+73 0 1 6d+73 0 1
  70+76 0 1 6e+76 0 1 3bc+76 0 1 6d+76 0 1 6b+76 0 1 6d+76 0 1 70+77 0 1 6e+77 0 1 3bc+77 0 1
  6d+77 0 1 6b+77 0 1 6d+77 0 1 6b+3c9 0 1 6d+3c9 1 1 62+71 0 2 63+63 2 1 64+62 0 1 67+79 0 1
  68+61 0 1 68+70 0 1 69+6e 0 1 6b+6b 0 1 6b+6d 0 1 6b+74 0 2 6c+6d 0 1 6c+6f+67 0 1 6c+78 0 1
  6d+62 0 1 6d+69+6c 0 1 6d+6f+6c 0 1 70+68 1 1 70+70+6d 0 1 70+72 0 1 73+72 0 1 73+76 0 1 77+62
  2 1 31+65e5 0 1 32+65e5 0 1 33+65e5 0 1 34+65e5 0 1 35+65e5 0 1 36+65e5 0 1 37+65e5 0 1 38+65e5
  0 1 39+65e5 0 1 31+30+65e5 0 1 31+31+65e5 0 1 31+32+65e5 0 1 31+33+65e5 0 1 31+34+65e5 0 1
  31+35+65e5 0 1 31+36+65e5 0 1 31+37+65e5 0 1 31+38+65e5 0 1 31+39+65e5 0 1 32+30+65e5 0 1
  32+31+65e5 0 1 32+32+65e5 0 1 32+33+65e5 0 1 32+34+65e5 0 1 32+35+65e5 0 1 32+36+65e5 0 1
  32+37+65e5 0 1 32+38+65e5 0 1 32+39+65e5 0 1 33+30+65e5 0 1 33+31+65e5 0 1 67+61+6c 729c 1 44a
  0 1 44c d2 1 a76f 5a 1 264 0 1 a7cd 1 1 a7cf 3 1 a7d3 1 1 a7d5 5 1 a7db 1 1 19b 14 1 73 0 1 63
  0 1 66 0 1 71 3 1 127 0 1 153 362 1 a727 0 1 ab37 0 1 26b 0 1 ab52 9 1 28d 6 50 13a0 4f40 1
  66+66 0 1 66+69 0 1 66+6c 0 1 66+66+69 0 1 66+66+6c 0 1 73+74 0 1 73+74 c 1 574+576 0 1 574+565
  0 1 574+56b 0 1 57e+576 0 1 574+56d 8 1 5e2 0 1 5d0 0 2 5d3 0 3 5db 0 1 5e8 0 1 5ea 26 1
  5d0+5dc 0 1 671 0 1 671 0 1 67b 0 1 67b 0 1 67b 0 1 67b 0 1 67e 0 1 67e 0 1 67e 0 1 67e 0 1 680
  0 1 680 0 1 680 0 1 680 0 1 67a 0 1 67a 0 1 67a 0 1 67a 0 1 67f 0 1 67f 0 1 67f 0 1 67f 0 1 679
  0 1 679 0 1 679 0 1 679 0 1 6a4 0 1 6a4 0 1 6a4 0 1 6a4 0 1 6a6 0 1 6a6 0 1 6a6 0 1 6a6 0 1 684
  0 1 684 0 1 684 0 1 684 0 1 683 0 1 683 0 1 683 0 1 683 0 1 686 0 1 686 0 1 686 0 2 686 0 1 687
  0 1 687 0 1 687 0 1 68d 0 1 68d 0 1 68c 0 1 68c 0 1 68e 0 1 68e 0 1 688 0 1 688 0 1 698 0 1 698
  0 1 691 0 1 691 0 1 6a9 0 1 6a9 0 1 6a9 0 1 6a9 0 1 6af 0 1 6af 0 1 6af 0 1 6af 0 1 6b3 0 1 6b3
  0 1 6b3 0 1 6b3 0 1 6b1 0 1 6b1 0 1 6b1 0 1 6b1 0 1 6ba 0 2 6ba 0 1 6bb 0 1 6bb 0 1 6bb 0 1 6c0
  0 2 6c0 0 1 6c1 0 1 6c1 0 1 6c1 0 1 6be 0 1 6be 0 1 6be 0 1 6be 0 1 6d2 0 2 6d2 0 1 6d3 21 1
  6ad 0 1 6ad 0 1 6ad 0 1 6ad 0 1 6c7 0 1 6c7 0 1 6c6 0 1 6c6 0 1 6c8 0 1 6c8 0 1 6c7+674 0 1 6cb
  0 1 6cb 0 1 6c5 0 1 6c5 0 1 6c9 0 1 6c9 0 1 6d0 0 1 6d0 0 1 6d0 0 1 6d0 0 1 649 0 1 649 0 1
  626+627 0 1 626+627 0 1 626+6d5 0 1 626+6d5 0 1 626+648 0 1 626+648 0 1 626+6c7 0 1 626+6c7 0 1
  626+6c6 0 1 626+6c6 0 1 626+6c8 0 1 626+6c8 0 1 626+6d0 0 1 626+6d0 0 1 626+6d0 0 1 626+649 0 1
  626+649 0 1 626+649 0 1 6cc 0 1 6cc 0 1 6cc 0 1 6cc 0 2 626+62c 0 1 626+645 0 2 626+649 0 3
  628+62c 0 1 628+645 0 2 628+649 0 3 62a+62c 0 1 62a+645 0 2 62a+649 0 1 62b+62c 0 1 62b+645 0 2
  62b+649 0 1 62c+62d 0 1 62c+645 0 1 62d+62c 0 1 62d+645 0 2 62e+62c 0 1 62e+645 0 3 633+62c 0 1
  633+645 0 1 635+62d 0 1 635+645 0 3 636+62c 0 1 636+645 0 1 637+62d 0 1 637+645 0 1 638+645 0 1
  639+62c 0 1 639+645 0 1 63a+62c 0 1 63a+645 0 3 641+62c 0 1 641+645 0 2 641+649 0 1 642+62d 0 1
  642+645 0 2 642+649 0 1 643+627 0 3 643+62c 0 2 643+644 0 2 643+649 0 3 644+62c 0 1 644+645 0 2
  644+649 0 3 645+62c 0 1 645+645 0 2 645+649 0 3 646+62c 0 1 646+645 0 2 646+649 0 1 647+62c 0 1
  647+645 0 2 647+649 0 3 64a+62c 0 1 64a+645 0 2 64a+649 0 1 630+670 0 1 631+670 0 1 649+670 6 2
  626+631 0 2 626+645 0 2 626+649 0 2 628+631 0 2 628+645 0 2 628+649 0 2 62a+631 0 2 62a+645 0 2
  62a+649 0 2 62b+631 0 2 62b+645 0 2 62b+649 0 2 641+649 0 2 642+649 0 1 643+627 0 2 643+644 0 2
  643+649 0 1 644+645 0 2 644+649 0 1 645+627 0 1 645+645 0 2 646+631 0 2 646+645 0 2 646+649 0 1
  649+670 0 2 64a+631 0 2 64a+645 0 2 64a+649 0 3 626+62c 0 1 626+645 0 1 626+647 0 3 628+62c 0 1
  628+645 0 1 628+647 0 3 62a+62c 0 1 62a+645 0 1 62a+647 0 1 62b+645 0 1 62c+62d 0 1 62c+645 0 1
  62d+62c 0 1 62d+645 0 1 62e+62c 0 1 62e+645 0 3 633+62c 0 1 633+645 0 2 635+62d 0 1 635+645 0 3
  636+62c 0 1 636+645 0 1 637+62d 0 1 638+645 0 1 639+62c 0 1 639+645 0 1 63a+62c 0 1 63a+645 0 3
  641+62c 0 1 641+645 0 1 642+62d 0 1 642+645 0 3 643+62c 0 2 643+644 0 3 644+62c 0 1 644+645 0 1
  644+647 0 3 645+62c 0 1 645+645 0 3 646+62c 0 1 646+645 0 1 646+647 0 1 647+62c 0 1 647+645 0 1
  647+670 0 3 64a+62c 0 1 64a+645 0 1 64a+647 0 1 626+645 0 1 626+647 0 1 628+645 0 1 628+647 0 1
  62a+645 0 1 62a+647 0 1 62b+645 0 1 62b+647 0 1 633+645 0 1 633+647 0 1 634+645 0 1 634+647 0 2
  643+644 0 1 644+645 0 1 646+645 0 1 646+647 0 1 64a+645 0 1 64a+647 3 2 637+649 0 2 639+649 0 2
  63a+649 0 2 633+649 0 2 634+649 0 2 62d+649 0 2 62c+649 0 2 62e+649 0 2 635+649 0 2 636+649 0 3
  634+62c 0 1 634+645 0 1 634+631 0 1 633+631 0 1 635+631 0 1 636+631 0 2 637+649 0 2 639+649 0 2
  63a+649 0 2 633+649 0 2 634+649 0 2 62d+649 0 2 62c+649 0 2 62e+649 0 2 635+649 0 2 636+649 0 3
  634+62c 0 1 634+645 0 1 634+631 0 1 633+631 0 1 635+631 0 1 636+631 0 3 634+62c 0 1 634+645 0 1
  633+647 0 1 634+647 0 1 637+645 0 3 633+62c 0 3 634+62c 0 1 637+645 0 1 638+645 0 1 627+64b 0 1
  627+64b 12 1 62a+62c+645 0 1 62a+62d+62c 0 1 62a+62d+62c 0 1 62a+62d+645 0 1 62a+62e+645 0 3
  62a+645+62c 0 1 62c+645+62d 0 1 62c+645+62d 0 1 62d+645+64a 0 1 62d+645+649 0 1 633+62d+62c 0 1
  633+62c+62d 0 1 633+62c+649 0 1 633+645+62d 0 1 633+645+62d 0 1 633+645+62c 0 1 633+645+645 0 1
  633+645+645 0 1 635+62d+62d 0 1 635+62d+62d 0 1 635+645+645 0 1 634+62d+645 0 1 634+62d+645 0 1
  634+62c+64a 0 1 634+645+62e 0 1 634+645+62e 0 1 634+645+645 0 1 634+645+645 0 1 636+62d+649 0 1
  636+62e+645 0 1 636+62e+645 0 1 637+645+62d 0 1 637+645+62d 0 1 637+645+645 0 1 637+645+64a 0 1
  639+62c+645 0 1 639+645+645 0 1 639+645+645 0 1 639+645+649 0 1 63a+645+645 0 1 63a+645+64a 0 1
  63a+645+649 0 1 641+62e+645 0 1 641+62e+645 0 1 642+645+62d 0 1 642+645+645 0 1 644+62d+645 0 1
  644+62d+64a 0 1 644+62d+649 0 1 644+62c+62c 0 1 644+62c+62c 0 1 644+62e+645 0 1 644+62e+645 0 1
  644+645+62d 0 1 644+645+62d 0 1 645+62d+62c 0 1 645+62d+645 0 1 645+62d+64a 0 1 645+62c+62d 0 1
  645+62c+645 0 1 645+62e+62c 0 1 645+62e+645 2 1 645+62c+62e 0 1 647+645+62c 0 1 647+645+645 0 1
  646+62d+645 0 1 646+62d+649 0 1 646+62c+645 0 1 646+62c+645 0 1 646+62c+649 0 1 646+645+64a 0 1
  646+645+649 0 1 64a+645+645 0 1 64a+645+645 0 1 628+62e+64a 0 1 62a+62c+64a 0 1 62a+62c+649 0 1
  62a+62e+64a 0 1 62a+62e+649 0 1 62a+645+64a 0 1 62a+645+649 0 1 62c+645+64a 0 1 62c+62d+649 0 1
  62c+645+649 0 1 633+62e+649 0 1 635+62d+64a 0 1 634+62d+64a 0 1 636+62d+64a 0 1 644+62c+64a 0 1
  644+645+64a 0 1 64a+62d+64a 0 1 64a+62c+64a 0 1 64a+645+64a 0 1 645+645+64a 0 1 642+645+64a 0 1
  646+62d+64a 0 1 642+645+62d 0 1 644+62d+645 0 1 639+645+64a 0 1 643+645+64a 0 1 646+62c+62d 0 1
  645+62e+64a 0 1 644+62c+645 0 1 643+645+645 0 1 644+62c+645 0 1 646+62c+62d 0 1 62c+62d+64a 0 1
  62d+62c+64a 0 1 645+62c+64a 0 1 641+645+64a 0 1 628+62d+64a 0 1 643+645+645 0 1 639+62c+645 0 1
  635+645+645 0 1 633+62e+64a 0 1 646+62c+64a 28 1 635+644+6d2 0 1 642+644+6d2 0 1
  627+644+644+647 0 1 627+643+628+631 0 1 645+62d+645+62f 0 1 635+644+639+645 0 1 631+633+648+644
  0 1 639+644+64a+647 0 1 648+633+644+645 0 1 635+644+649 2 1 631+6cc+627+644 3 10 - 53 1 2d 1c 2
  621 0 2 622 0 2 623 0 2 624 0 2 625 0 1 626 0 1 626 0 2 626 0 2 627 0 1 628 0 1 628 0 2 628 0 2
  629 0 1 62a 0 1 62a 0 2 62a 0 1 62b 0 1 62b 0 2 62b 0 1 62c 0 1 62c 0 2 62c 0 1 62d 0 1 62d 0 2
  62d 0 1 62e 0 1 62e 0 2 62e 0 2 62f 0 2 630 0 2 631 0 2 632 0 1 633 0 1 633 0 2 633 0 1 634 0 1
  634 0 2 634 0 1 635 0 1 635 0 2 635 0 1 636 0 1 636 0 2 636 0 1 637 0 1 637 0 2 637 0 1 638 0 1
  638 0 2 638 0 1 639 0 1 639 0 2 639 0 1 63a 0 1 63a 0 1 63a 0 1 641 0 1 641 0 1 641 0 2 641 0 1
  642 0 1 642 0 2 642 0 1 643 0 1 643 0 2 643 0 1 644 0 1 644 0 2 644 0 1 645 0 1 645 0 2 645 0 1
  646 0 1 646 0 2 646 0 1 647 0 1 647 0 2 647 0 2 648 0 2 649 0 1 64a 0 1 64a 0 1 64a 0 1 644+622
  0 2 644+622 0 1 644+623 0 1 644+625 0 1 644+625 0 1 644+627 0 1 644+627 2 1 - d 2 2d 1 a 30 7
  1a 61 6 1a 61 6 1 2e 3 1 30fb 0 1 30f2 0 1 30a1 0 1 30a3 0 1 30a5 0 1 30a7 0 1 30a9 0 1 30e3 0
  1 30e5 0 1 30e7 0 1 30c3 0 1 30fc 0 1 30a2 0 1 30a4 0 1 30a6 0 1 30a8 0 2 30aa 0 1 30ad 0 1
  30af 0 1 30b1 0 1 30b3 0 1 30b5 0 1 30b7 0 1 30b9 0 1 30bb 0 1 30bd 0 1 30bf 0 1 30c1 0 1 30c4
  0 1 30c6 0 1 30c8 0 6 30ca 0 1 30d2 0 1 30d5 0 1 30d8 0 1 30db 0 5 30de 0 1 30e4 0 1 30e6 0 6
  30e8 0 1 30ef 0 1 30f3 0 2 3099 0 1 - 7e0 2 2d0 0 1 e6 0 1 299 0 1 253 1 1 2a3 0 1 ab66 0 1 2a5
  0 1 2a4 0 2 256 0 1 1d91 0 1 258 0 1 25e 0 1 2a9 0 1 264 0 1 262 0 1 260 0 1 29b 0 1 127 0 1
  29c 0 1 267 0 1 284 0 2 2aa 0 1 26c 0 1 1df04 0 1 a78e 0 1 26e 0 1 1df05 0 1 28e 0 1 1df06 0 1
  f8 0 2 276 0 1 71 0 1 27a 0 1 1df08 0 2 27d 0 1 280 0 1 2a8 0 1 2a6 0 1 ab67 0 1 2a7 0 1 288 0
  1 2c71 1 1 28f 0 2 2a1 0 1 298 0 3 1c0 0 1 1df0a 0 1 1df1e 595 16 10d70 613a 19 16ebb 4de7 4 -
  1032 1a 61 0 a 30 479 8 - 285 1a 61 0 1a 61 0 1a 61 0 7 61 1 12 69 0 1a 61 0 1a 61 0 1 61 1 2
  63 2 1 67 2 2 6a 2 4 6e 1 8 73 0 4 61 1 1 66 1 7 68 1 b 70 0 1a 61 0 1a 61 0 2 61 1 4 64 2 8 6a
  1 7 73 1 1a 61 0 2 61 1 4 64 1 5 69 1 1 6f 3 7 73 1 1a 61 0 1a 61 0 1a 61 0 1a 61 0 1a 61 0 1a
  61 0 1a 61 0 1a 61 0 1a 61 0 1a 61 0 1a 61 0 1a 61 0 1a 61 0 1 131 0 1 237 2 11 3b1 0 1 3b8 0 7
  3c3 1 11 3b1 0 1 3c3 0 7 3c3 1 1 3b5 0 1 3b8 0 1 3ba 0 1 3c6 0 1 3c1 0 1 3c0 0 11 3b1 0 1 3b8 0
  7 3c3 1 11 3b1 0 1 3c3 0 7 3c3 1 1 3b5 0 1 3b8 0 1 3ba 0 1 3c6 0 1 3c1 0 1 3c0 0 11 3b1 0 1 3b8
  0 7 3c3 1 11 3b1 0 1 3c3 0 7 3c3 1 1 3b5 0 1 3b8 0 1 3ba 0 1 3c6 0 1 3c1 0 1 3c0 0 11 3b1 0 1
  3b8 0 7 3c3 1 11 3b1 0 1 3c3 0 7 3c3 1 1 3b5 0 1 3b8 0 1 3ba 0 1 3c6 0 1 3c1 0 1 3c0 0 11 3b1 0
  1 3b8 0 7 3c3 1 11 3b1 0 1 3c3 0 7 3c3 1 1 3b5 0 1 3b8 0 1 3ba 0 1 3c6 0 1 3c1 0 1 3c0 0 1 3dd
  0 1 3dd 2 a 30 0 a 30 0 a 30 0 a 30 0 a 30 830 9 430 0 3 43a 0 b 43e 0 1 44b 0 2 44d 0 1 a689 0
  1 4d9 0 1 456 0 1 458 0 1 4e9 0 1 4af 0 1 4cf 0 9 430 0 2 43a 0 2 43e 0 1 441 0 6 443 0 2 44a 0
  1 491 0 1 456 0 1 455 0 1 45f 0 1 4ab 0 1 a651 0 1 4b1 d92 2 627 0 1 62c 0 1 62f 1 1 648 0 1
  632 0 1 62d 0 1 637 0 1 64a 0 4 643 0 1 633 0 1 639 0 1 641 0 1 635 0 1 642 0 1 631 0 1 634 0 2
  62a 0 1 62e 0 1 630 0 1 636 0 1 638 0 1 63a 0 1 66e 0 1 6ba 0 1 6a1 0 1 66f 1 1 628 0 1 62c 1 1
  647 2 1 62d 1 1 64a 0 4 643 0 1 633 0 1 639 0 1 641 0 1 635 0 1 642 1 1 634 0 2 62a 0 1 62e 1 1
  636 1 1 63a 6 1 62c 4 1 62d 1 1 64a 1 1 644 1 1 646 0 1 633 0 1 639 1 1 635 0 1 642 1 1 634 2 1
  62e 1 1 636 1 1 63a 1 1 6ba 1 1 66f 1 1 628 0 1 62c 1 1 647 2 1 62d 0 1 637 0 1 64a 0 1 643 1 2
  645 0 1 633 0 1 639 0 1 641 0 1 635 0 1 642 1 1 634 0 2 62a 0 1 62e 1 1 636 0 1 638 0 1 63a 0 1
  66e 1 1 6a1 1 2 627 0 1 62c 0 1 62f 0 2 647 0 1 632 0 1 62d 0 1 637 0 1 64a 1 3 644 0 1 633 0 1
  639 0 1 641 0 1 635 0 1 642 0 1 631 0 1 634 0 2 62a 0 1 62e 0 1 630 0 1 636 0 1 638 0 1 63a 5 1
  628 0 1 62c 0 1 62f 1 1 648 0 1 632 0 1 62d 0 1 637 0 1 64a 1 3 644 0 1 633 0 1 639 0 1 641 0 1
  635 0 1 642 0 1 631 0 1 634 0 2 62a 0 1 62e 0 1 630 0 1 636 0 1 638 0 1 63a 26f 1 63 0 1 72 0 1
  63+64 0 1 77+7a 1 1a 61 0 1 68+76 0 1 6d+76 0 1 73+64 0 1 73+73 0 1 70+70+76 0 1 77+63 1a 2
  6d+63 0 1 6d+72 23 1 64+6a 6f 1 307b+304b 0 1 30b3+30b3 0 1 30b5 d 1 624b 0 1 5b57 0 1 53cc 0 1
  30c7 0 1 4e8c 0 1 591a 0 1 89e3 0 1 5929 0 1 4ea4 0 1 6620 0 1 7121 0 1 6599 0 1 524d 0 1 5f8c
  0 1 518d 0 1 65b0 0 1 521d 0 1 7d42 0 1 751f 0 1 8ca9 0 1 58f0 0 1 5439 0 1 6f14 0 1 6295 0 1
  6355 0 1 4e00 0 1 4e09 0 1 904a 0 1 5de6 0 1 4e2d 0 1 53f3 0 1 6307 0 1 8d70 0 1 6253 0 1 7981
  0 1 7a7a 0 1 5408 0 1 6e80 0 1 6709 0 1 6708 0 1 7533 0 1 5272 0 1 55b6 0 1 914d 14 1 5f97 0 1
  53ef 99e a 30 c0506 f0 -")

/-- What a character of a domain name becomes.  No character of ASCII has a replacement. -/
def mapDomainChar (c : Char) : List Char :=
  if c.toNat < 128 then [lowerChar c]
  else
    match replacements.find? fun r => r.first ≤ c.toNat && c.toNat < r.first + r.count with
    | some r => r.apply c.toNat
    | none => [lowerChar c]

end Accounts.Unicode
