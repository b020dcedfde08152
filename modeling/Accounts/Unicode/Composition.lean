import Accounts.Text.Ranges

/-!
# Canonical decompositions and combining classes

The data of canonical equivalence.  `composites` are the characters that a base character and a
mark form together, `splits` are those that are only taken apart and never formed, `singletons`
stand for one other character.
-/

namespace Accounts.Unicode

open Text

/-- A character and the two that it is made of. -/
structure Composite where
  whole : Nat
  first : Nat
  second : Nat

/-- Read composites back from a packed text: the code points skipped, then the two parts. -/
def unpackComposites : Nat → List Nat → List Composite
  | start, skip :: a :: b :: rest =>
    ⟨start + skip, a, b⟩ :: unpackComposites (start + skip + 1) rest
  | _, _ => []

/-- The characters formed by two others. -/
def composites : List Composite := unpackComposites 0 (packedNumbers
  "c0 41 300 0 41 301 0 41 302 0 41 303 0 41 308 0 41 30a 1 43 327 0 45 300 0 45 301 0 45 302 0 45
  308 0 49 300 0 49 301 0 49 302 0 49 308 1 4e 303 0 4f 300 0 4f 301 0 4f 302 0 4f 303 0 4f 308 2
  55 300 0 55 301 0 55 302 0 55 308 0 59 301 2 61 300 0 61 301 0 61 302 0 61 303 0 61 308 0 61
  30a 1 63 327 0 65 300 0 65 301 0 65 302 0 65 308 0 69 300 0 69 301 0 69 302 0 69 308 1 6e 303 0
  6f 300 0 6f 301 0 6f 302 0 6f 303 0 6f 308 2 75 300 0 75 301 0 75 302 0 75 308 0 79 301 1 79
  308 0 41 304 0 61 304 0 41 306 0 61 306 0 41 328 0 61 328 0 43 301 0 63 301 0 43 302 0 63 302 0
  43 307 0 63 307 0 43 30c 0 63 30c 0 44 30c 0 64 30c 2 45 304 0 65 304 0 45 306 0 65 306 0 45
  307 0 65 307 0 45 328 0 65 328 0 45 30c 0 65 30c 0 47 302 0 67 302 0 47 306 0 67 306 0 47 307 0
  67 307 0 47 327 0 67 327 0 48 302 0 68 302 2 49 303 0 69 303 0 49 304 0 69 304 0 49 306 0 69
  306 0 49 328 0 69 328 0 49 307 3 4a 302 0 6a 302 0 4b 327 0 6b 327 1 4c 301 0 6c 301 0 4c 327 0
  6c 327 0 4c 30c 0 6c 30c 4 4e 301 0 6e 301 0 4e 327 0 6e 327 0 4e 30c 0 6e 30c 3 4f 304 0 6f
  304 0 4f 306 0 6f 306 0 4f 30b 0 6f 30b 2 52 301 0 72 301 0 52 327 0 72 327 0 52 30c 0 72 30c 0
  53 301 0 73 301 0 53 302 0 73 302 0 53 327 0 73 327 0 53 30c 0 73 30c 0 54 327 0 74 327 0 54
  30c 0 74 30c 2 55 303 0 75 303 0 55 304 0 75 304 0 55 306 0 75 306 0 55 30a 0 75 30a 0 55 30b 0
  75 30b 0 55 328 0 75 328 0 57 302 0 77 302 0 59 302 0 79 302 0 59 308 0 5a 301 0 7a 301 0 5a
  307 0 7a 307 0 5a 30c 0 7a 30c 21 4f 31b 0 6f 31b d 55 31b 0 75 31b 1c 41 30c 0 61 30c 0 49 30c
  0 69 30c 0 4f 30c 0 6f 30c 0 55 30c 0 75 30c 0 dc 304 0 fc 304 0 dc 301 0 fc 301 0 dc 30c 0 fc
  30c 0 dc 300 0 fc 300 1 c4 304 0 e4 304 0 226 304 0 227 304 0 c6 304 0 e6 304 2 47 30c 0 67 30c
  0 4b 30c 0 6b 30c 0 4f 328 0 6f 328 0 1ea 304 0 1eb 304 0 1b7 30c 0 292 30c 0 6a 30c 3 47 301 0
  67 301 2 4e 300 0 6e 300 0 c5 301 0 e5 301 0 c6 301 0 e6 301 0 d8 301 0 f8 301 0 41 30f 0 61
  30f 0 41 311 0 61 311 0 45 30f 0 65 30f 0 45 311 0 65 311 0 49 30f 0 69 30f 0 49 311 0 69 311 0
  4f 30f 0 6f 30f 0 4f 311 0 6f 311 0 52 30f 0 72 30f 0 52 311 0 72 311 0 55 30f 0 75 30f 0 55
  311 0 75 311 0 53 326 0 73 326 0 54 326 0 74 326 2 48 30c 0 68 30c 6 41 307 0 61 307 0 45 327 0
  65 327 0 d6 304 0 f6 304 0 d5 304 0 f5 304 0 4f 307 0 6f 307 0 22e 304 0 22f 304 0 59 304 0 79
  304 151 a8 301 0 391 301 1 395 301 0 397 301 0 399 301 1 39f 301 1 3a5 301 0 3a9 301 0 3ca 301
  19 399 308 0 3a5 308 0 3b1 301 0 3b5 301 0 3b7 301 0 3b9 301 0 3cb 301 19 3b9 308 0 3c5 308 0
  3bf 301 0 3c5 301 0 3c9 301 4 3d2 301 0 3d2 308 2b 415 300 0 415 308 1 413 301 3 406 308 4 41a
  301 0 418 300 0 423 306 a 418 306 1f 438 306 16 435 300 0 435 308 1 433 301 3 456 308 4 43a 301
  0 438 300 0 443 306 17 474 30f 0 475 30f 49 416 306 0 436 306 d 410 306 0 430 306 0 410 308 0
  430 308 2 415 306 0 435 306 2 4d8 308 0 4d9 308 0 416 308 0 436 308 0 417 308 0 437 308 2 418
  304 0 438 304 0 418 308 0 438 308 0 41e 308 0 43e 308 2 4e8 308 0 4e9 308 0 42d 308 0 44d 308 0
  423 304 0 443 304 0 423 308 0 443 308 0 423 30b 0 443 30b 0 427 308 0 447 308 2 42b 308 0 44b
  308 128 627 653 0 627 654 0 648 654 0 627 655 0 64a 654 99 6d5 654 1 6c1 654 10 6d2 654 255 928
  93c 7 930 93c 2 933 93c 96 9c7 9be 0 9c7 9d7 17b b47 b56 2 b47 b3e 0 b47 b57 47 b92 bd7 35 bc6
  bbe 0 bc7 bbe 0 bc6 bd7 7b c46 c56 77 cbf cd5 6 cc6 cd5 0 cc6 cd6 1 cc6 cc2 0 cca cd5 7e d46
  d3e 0 d47 d3e 0 d46 d57 8d dd9 dca 1 dd9 dcf 0 ddc dca 0 dd9 ddf 247 1025 102e adf 1b05 1b35 1
  1b07 1b35 1 1b09 1b35 1 1b0b 1b35 1 1b0d 1b35 3 1b11 1b35 28 1b3a 1b35 1 1b3c 1b35 2 1b3e 1b35
  0 1b3f 1b35 1 1b42 1b35 2bc 41 325 0 61 325 0 42 307 0 62 307 0 42 323 0 62 323 0 42 331 0 62
  331 0 c7 301 0 e7 301 0 44 307 0 64 307 0 44 323 0 64 323 0 44 331 0 64 331 0 44 327 0 64 327 0
  44 32d 0 64 32d 0 112 300 0 113 300 0 112 301 0 113 301 0 45 32d 0 65 32d 0 45 330 0 65 330 0
  228 306 0 229 306 0 46 307 0 66 307 0 47 304 0 67 304 0 48 307 0 68 307 0 48 323 0 68 323 0 48
  308 0 68 308 0 48 327 0 68 327 0 48 32e 0 68 32e 0 49 330 0 69 330 0 cf 301 0 ef 301 0 4b 301 0
  6b 301 0 4b 323 0 6b 323 0 4b 331 0 6b 331 0 4c 323 0 6c 323 0 1e36 304 0 1e37 304 0 4c 331 0
  6c 331 0 4c 32d 0 6c 32d 0 4d 301 0 6d 301 0 4d 307 0 6d 307 0 4d 323 0 6d 323 0 4e 307 0 6e
  307 0 4e 323 0 6e 323 0 4e 331 0 6e 331 0 4e 32d 0 6e 32d 0 d5 301 0 f5 301 0 d5 308 0 f5 308 0
  14c 300 0 14d 300 0 14c 301 0 14d 301 0 50 301 0 70 301 0 50 307 0 70 307 0 52 307 0 72 307 0
  52 323 0 72 323 0 1e5a 304 0 1e5b 304 0 52 331 0 72 331 0 53 307 0 73 307 0 53 323 0 73 323 0
  15a 307 0 15b 307 0 160 307 0 161 307 0 1e62 307 0 1e63 307 0 54 307 0 74 307 0 54 323 0 74 323
  0 54 331 0 74 331 0 54 32d 0 74 32d 0 55 324 0 75 324 0 55 330 0 75 330 0 55 32d 0 75 32d 0 168
  301 0 169 301 0 16a 308 0 16b 308 0 56 303 0 76 303 0 56 323 0 76 323 0 57 300 0 77 300 0 57
  301 0 77 301 0 57 308 0 77 308 0 57 307 0 77 307 0 57 323 0 77 323 0 58 307 0 78 307 0 58 308 0
  78 308 0 59 307 0 79 307 0 5a 302 0 7a 302 0 5a 323 0 7a 323 0 5a 331 0 7a 331 0 68 331 0 74
  308 0 77 30a 0 79 30a 1 17f 307 4 41 323 0 61 323 0 41 309 0 61 309 0 c2 301 0 e2 301 0 c2 300
  0 e2 300 0 c2 309 0 e2 309 0 c2 303 0 e2 303 0 1ea0 302 0 1ea1 302 0 102 301 0 103 301 0 102
  300 0 103 300 0 102 309 0 103 309 0 102 303 0 103 303 0 1ea0 306 0 1ea1 306 0 45 323 0 65 323 0
  45 309 0 65 309 0 45 303 0 65 303 0 ca 301 0 ea 301 0 ca 300 0 ea 300 0 ca 309 0 ea 309 0 ca
  303 0 ea 303 0 1eb8 302 0 1eb9 302 0 49 309 0 69 309 0 49 323 0 69 323 0 4f 323 0 6f 323 0 4f
  309 0 6f 309 0 d4 301 0 f4 301 0 d4 300 0 f4 300 0 d4 309 0 f4 309 0 d4 303 0 f4 303 0 1ecc 302
  0 1ecd 302 0 1a0 301 0 1a1 301 0 1a0 300 0 1a1 300 0 1a0 309 0 1a1 309 0 1a0 303 0 1a1 303 0
  1a0 323 0 1a1 323 0 55 323 0 75 323 0 55 309 0 75 309 0 1af 301 0 1b0 301 0 1af 300 0 1b0 300 0
  1af 309 0 1b0 309 0 1af 303 0 1b0 303 0 1af 323 0 1b0 323 0 59 300 0 79 300 0 59 323 0 79 323 0
  59 309 0 79 309 0 59 303 0 79 303 6 3b1 313 0 3b1 314 0 1f00 300 0 1f01 300 0 1f00 301 0 1f01
  301 0 1f00 342 0 1f01 342 0 391 313 0 391 314 0 1f08 300 0 1f09 300 0 1f08 301 0 1f09 301 0
  1f08 342 0 1f09 342 0 3b5 313 0 3b5 314 0 1f10 300 0 1f11 300 0 1f10 301 0 1f11 301 2 395 313 0
  395 314 0 1f18 300 0 1f19 300 0 1f18 301 0 1f19 301 2 3b7 313 0 3b7 314 0 1f20 300 0 1f21 300 0
  1f20 301 0 1f21 301 0 1f20 342 0 1f21 342 0 397 313 0 397 314 0 1f28 300 0 1f29 300 0 1f28 301
  0 1f29 301 0 1f28 342 0 1f29 342 0 3b9 313 0 3b9 314 0 1f30 300 0 1f31 300 0 1f30 301 0 1f31
  301 0 1f30 342 0 1f31 342 0 399 313 0 399 314 0 1f38 300 0 1f39 300 0 1f38 301 0 1f39 301 0
  1f38 342 0 1f39 342 0 3bf 313 0 3bf 314 0 1f40 300 0 1f41 300 0 1f40 301 0 1f41 301 2 39f 313 0
  39f 314 0 1f48 300 0 1f49 300 0 1f48 301 0 1f49 301 2 3c5 313 0 3c5 314 0 1f50 300 0 1f51 300 0
  1f50 301 0 1f51 301 0 1f50 342 0 1f51 342 1 3a5 314 1 1f59 300 1 1f59 301 1 1f59 342 0 3c9 313
  0 3c9 314 0 1f60 300 0 1f61 300 0 1f60 301 0 1f61 301 0 1f60 342 0 1f61 342 0 3a9 313 0 3a9 314
  0 1f68 300 0 1f69 300 0 1f68 301 0 1f69 301 0 1f68 342 0 1f69 342 0 3b1 300 1 3b5 300 1 3b7 300
  1 3b9 300 1 3bf 300 1 3c5 300 1 3c9 300 3 1f00 345 0 1f01 345 0 1f02 345 0 1f03 345 0 1f04 345
  0 1f05 345 0 1f06 345 0 1f07 345 0 1f08 345 0 1f09 345 0 1f0a 345 0 1f0b 345 0 1f0c 345 0 1f0d
  345 0 1f0e 345 0 1f0f 345 0 1f20 345 0 1f21 345 0 1f22 345 0 1f23 345 0 1f24 345 0 1f25 345 0
  1f26 345 0 1f27 345 0 1f28 345 0 1f29 345 0 1f2a 345 0 1f2b 345 0 1f2c 345 0 1f2d 345 0 1f2e
  345 0 1f2f 345 0 1f60 345 0 1f61 345 0 1f62 345 0 1f63 345 0 1f64 345 0 1f65 345 0 1f66 345 0
  1f67 345 0 1f68 345 0 1f69 345 0 1f6a 345 0 1f6b 345 0 1f6c 345 0 1f6d 345 0 1f6e 345 0 1f6f
  345 0 3b1 306 0 3b1 304 0 1f70 345 0 3b1 345 0 3ac 345 1 3b1 342 0 1fb6 345 0 391 306 0 391 304
  0 391 300 1 391 345 4 a8 342 0 1f74 345 0 3b7 345 0 3ae 345 1 3b7 342 0 1fc6 345 0 395 300 1
  397 300 1 397 345 0 1fbf 300 0 1fbf 301 0 1fbf 342 0 3b9 306 0 3b9 304 0 3ca 300 3 3b9 342 0
  3ca 342 0 399 306 0 399 304 0 399 300 2 1ffe 300 0 1ffe 301 0 1ffe 342 0 3c5 306 0 3c5 304 0
  3cb 300 1 3c1 313 0 3c1 314 0 3c5 342 0 3cb 342 0 3a5 306 0 3a5 304 0 3a5 300 1 3a1 314 0 a8
  300 4 1f7c 345 0 3c9 345 0 3ce 345 1 3c9 342 0 1ff6 345 0 39f 300 1 3a9 300 1 3a9 345 19d 2190
  338 0 2192 338 12 2194 338 1e 21d0 338 0 21d4 338 0 21d2 338 34 2203 338 4 2208 338 2 220b 338
  17 2223 338 1 2225 338 1a 223c 338 2 2243 338 2 2245 338 1 2248 338 16 3d 338 1 2261 338 a 224d
  338 0 3c 338 0 3e 338 0 2264 338 0 2265 338 2 2272 338 0 2273 338 2 2276 338 0 2277 338 6 227a
  338 0 227b 338 2 2282 338 0 2283 338 2 2286 338 0 2287 338 22 22a2 338 0 22a8 338 0 22a9 338 0
  22ab 338 30 227c 338 0 227d 338 0 2291 338 0 2292 338 6 22b2 338 0 22b3 338 0 22b4 338 0 22b5
  338 d5e 304b 3099 1 304d 3099 1 304f 3099 1 3051 3099 1 3053 3099 1 3055 3099 1 3057 3099 1
  3059 3099 1 305b 3099 1 305d 3099 1 305f 3099 1 3061 3099 2 3064 3099 1 3066 3099 1 3068 3099 6
  306f 3099 0 306f 309a 1 3072 3099 0 3072 309a 1 3075 3099 0 3075 309a 1 3078 3099 0 3078 309a 1
  307b 3099 0 307b 309a 16 3046 3099 9 309d 3099 d 30ab 3099 1 30ad 3099 1 30af 3099 1 30b1 3099
  1 30b3 3099 1 30b5 3099 1 30b7 3099 1 30b9 3099 1 30bb 3099 1 30bd 3099 1 30bf 3099 1 30c1 3099
  2 30c4 3099 1 30c6 3099 1 30c8 3099 6 30cf 3099 0 30cf 309a 1 30d2 3099 0 30d2 309a 1 30d5 3099
  0 30d5 309a 1 30d8 3099 0 30d8 309a 1 30db 3099 0 30db 309a 16 30a6 3099 2 30ef 3099 0 30f0
  3099 0 30f1 3099 0 30f2 3099 3 30fd 3099 df9b 11099 110ba 1 1109b 110ba e 110a5 110ba 82 11131
  11127 0 11132 11127 21b 11347 1133e 0 11347 11357 16e 114b9 114ba 0 114b9 114b0 1 114b9 114bd
  fb 115b8 115af 0 115b9 115af 37c 11935 11930")

/-- The characters that are taken apart into two and not formed again. -/
def splits : List Composite := unpackComposites 0 (packedNumbers
  "344 308 301 613 915 93c 0 916 93c 0 917 93c 0 91c 93c 0 921 93c 0 922 93c 0 92b 93c 0 92f 93c
  7c 9a1 9bc 0 9a2 9bc 1 9af 9bc 53 a32 a3c 2 a38 a3c 22 a16 a3c 0 a17 a3c 0 a1c a3c 2 a2b a3c fd
  b21 b3c 0 b22 b3c 3e5 f42 fb7 9 f4c fb7 4 f51 fb7 4 f56 fb7 4 f5b fb7 c f40 fb5 9 f71 f72 1 f71
  f74 0 fb2 f80 1 fb3 f80 8 f71 f80 11 f92 fb7 9 f9c fb7 4 fa1 fb7 4 fa6 fb7 4 fab fb7 c f90 fb5
  1b22 2add 338 d040 5d9 5b4 1 5f2 5b7 a 5e9 5c1 0 5e9 5c2 0 fb49 5c1 0 fb49 5c2 0 5d0 5b7 0 5d0
  5b8 0 5d0 5bc 0 5d1 5bc 0 5d2 5bc 0 5d3 5bc 0 5d4 5bc 0 5d5 5bc 0 5d6 5bc 1 5d8 5bc 0 5d9 5bc 0
  5da 5bc 0 5db 5bc 0 5dc 5bc 1 5de 5bc 1 5e0 5bc 0 5e1 5bc 1 5e3 5bc 0 5e4 5bc 1 5e6 5bc 0 5e7
  5bc 0 5e8 5bc 0 5e9 5bc 0 5ea 5bc 0 5d5 5b9 0 5d1 5bf 0 5db 5bf 0 5e4 5bf d60f 1d157 1d165 0
  1d158 1d165 0 1d15f 1d16e 0 1d15f 1d16f 0 1d15f 1d170 0 1d15f 1d171 0 1d15f 1d172 56 1d1b9
  1d165 0 1d1ba 1d165 0 1d1bb 1d16e 0 1d1bc 1d16e 0 1d1bb 1d16f 0 1d1bc 1d16f")

/-- Runs of characters that stand for one other each. -/
def singletons : List ValuedRun := ValuedRun.unpack 0 (packedNumbers
  "340 2 300 1 1 313 30 1 2b9 9 1 3b 8 1 b7 1be9 1 3ac 1 1 3ad 1 1 3ae 1 1 3af 1 1 3cc 1 1 3cd 1 1
  3ce 3d 1 386 2 1 3b9 a 1 388 1 1 389 7 1 390 7 1 38a 7 1 3b0 7 1 38e 2 1 385 0 1 60 9 1 38c 1 1
  38f 1 1 b4 2 2 2002 124 1 3a9 3 1 4b 0 1 c5 1fd 2 3008 d5d5 1 8c48 0 1 66f4 0 1 8eca 0 1 8cc8 0
  1 6ed1 0 1 4e32 0 1 53e5 0 1 9f9c 0 1 9f9c 0 1 5951 0 1 91d1 0 1 5587 0 1 5948 0 1 61f6 0 1
  7669 0 1 7f85 0 1 863f 0 1 87ba 0 1 88f8 0 1 908f 0 1 6a02 0 1 6d1b 0 1 70d9 0 1 73de 0 1 843d
  0 1 916a 0 1 99f1 0 1 4e82 0 1 5375 0 1 6b04 0 1 721b 0 1 862d 0 1 9e1e 0 1 5d50 0 1 6feb 0 1
  85cd 0 1 8964 0 1 62c9 0 1 81d8 0 1 881f 0 1 5eca 0 1 6717 0 1 6d6a 0 1 72fc 0 1 90ce 0 1 4f86
  0 1 51b7 0 1 52de 0 1 64c4 0 1 6ad3 0 1 7210 0 1 76e7 0 1 8001 0 1 8606 0 1 865c 0 1 8def 0 1
  9732 0 1 9b6f 0 1 9dfa 0 1 788c 0 1 797f 0 1 7da0 0 1 83c9 0 1 9304 0 1 9e7f 0 1 8ad6 0 1 58df
  0 1 5f04 0 1 7c60 0 1 807e 0 1 7262 0 1 78ca 0 1 8cc2 0 1 96f7 0 1 58d8 0 1 5c62 0 1 6a13 0 1
  6dda 0 1 6f0f 0 1 7d2f 0 1 7e37 0 1 964b 0 1 52d2 0 1 808b 0 1 51dc 0 1 51cc 0 1 7a1c 0 1 7dbe
  0 1 83f1 0 1 9675 0 1 8b80 0 1 62cf 0 1 6a02 0 1 8afe 0 1 4e39 0 1 5be7 0 1 6012 0 1 7387 0 1
  7570 0 1 5317 0 1 78fb 0 1 4fbf 0 1 5fa9 0 1 4e0d 0 1 6ccc 0 1 6578 0 1 7d22 0 1 53c3 0 1 585e
  0 1 7701 0 1 8449 0 1 8aaa 0 1 6bba 0 1 8fb0 0 1 6c88 0 1 62fe 0 1 82e5 0 1 63a0 0 1 7565 0 1
  4eae 0 1 5169 0 1 51c9 0 1 6881 0 1 7ce7 0 1 826f 0 1 8ad2 0 1 91cf 0 1 52f5 0 1 5442 0 1 5973
  0 1 5eec 0 1 65c5 0 1 6ffe 0 1 792a 0 1 95ad 0 1 9a6a 0 1 9e97 0 1 9ece 0 1 529b 0 1 66c6 0 1
  6b77 0 1 8f62 0 1 5e74 0 1 6190 0 1 6200 0 1 649a 0 1 6f23 0 1 7149 0 1 7489 0 1 79ca 0 1 7df4
  0 1 806f 0 1 8f26 0 1 84ee 0 1 9023 0 1 934a 0 1 5217 0 1 52a3 0 1 54bd 0 1 70c8 0 1 88c2 0 1
  8aaa 0 1 5ec9 0 1 5ff5 0 1 637b 0 1 6bae 0 1 7c3e 0 1 7375 0 1 4ee4 0 1 56f9 0 1 5be7 0 1 5dba
  0 1 601c 0 1 73b2 0 1 7469 0 1 7f9a 0 1 8046 0 1 9234 0 1 96f6 0 1 9748 0 1 9818 0 1 4f8b 0 1
  79ae 0 1 91b4 0 1 96b8 0 1 60e1 0 1 4e86 0 1 50da 0 1 5bee 0 1 5c3f 0 1 6599 0 1 6a02 0 1 71ce
  0 1 7642 0 1 84fc 0 1 907c 0 1 9f8d 0 1 6688 0 1 962e 0 1 5289 0 1 677b 0 1 67f3 0 1 6d41 0 1
  6e9c 0 1 7409 0 1 7559 0 1 786b 0 1 7d10 0 1 985e 0 1 516d 0 1 622e 0 1 9678 0 1 502b 0 1 5d19
  0 1 6dea 0 1 8f2a 0 1 5f8b 0 1 6144 0 1 6817 0 1 7387 0 1 9686 0 1 5229 0 1 540f 0 1 5c65 0 1
  6613 0 1 674e 0 1 68a8 0 1 6ce5 0 1 7406 0 1 75e2 0 1 7f79 0 1 88cf 0 1 88e1 0 1 91cc 0 1 96e2
  0 1 533f 0 1 6eba 0 1 541d 0 1 71d0 0 1 7498 0 1 85fa 0 1 96a3 0 1 9c57 0 1 9e9f 0 1 6797 0 1
  6dcb 0 1 81e8 0 1 7acb 0 1 7b20 0 1 7c92 0 1 72c0 0 1 7099 0 1 8b58 0 1 4ec0 0 1 8336 0 1 523a
  0 1 5207 0 1 5ea6 0 1 62d3 0 1 7cd6 0 1 5b85 0 1 6d1e 0 1 66b4 0 1 8f3b 0 1 884c 0 1 964d 0 1
  898b 0 1 5ed3 0 1 5140 0 1 55c0 2 1 585a 1 1 6674 2 1 51de 0 1 732a 0 1 76ca 0 1 793c 0 1 795e
  0 1 7965 0 1 798f 0 1 9756 0 1 7cbe 0 1 7fbd 1 1 8612 1 1 8af8 2 1 9038 0 1 90fd 3 1 98ef 0 1
  98fc 0 1 9928 0 1 9db4 0 1 90de 0 1 96b7 0 1 4fae 0 1 50e7 0 1 514d 0 1 52c9 0 1 52e4 0 1 5351
  0 1 559d 0 1 5606 0 1 5668 0 1 5840 0 1 58a8 0 1 5c64 0 1 5c6e 0 1 6094 0 1 6168 0 1 618e 0 1
  61f2 0 1 654f 0 1 65e2 0 1 6691 0 1 6885 0 1 6d77 0 1 6e1a 0 1 6f22 0 1 716e 0 1 722b 0 1 7422
  0 1 7891 0 1 793e 0 1 7949 0 1 7948 0 1 7950 0 1 7956 0 1 795d 0 2 798d 0 1 7a40 0 1 7a81 0 1
  7bc0 0 1 7df4 0 1 7e09 0 1 7e41 0 1 7f72 0 1 8005 0 1 81ed 0 1 8279 0 1 8279 0 1 8457 0 1 8910
  0 1 8996 0 1 8b01 0 1 8b39 0 1 8cd3 0 1 8d08 0 1 8fb6 0 1 9038 0 1 96e3 0 1 97ff 0 1 983b 0 1
  6075 0 1 242ee 0 1 8218 2 1 4e26 0 1 51b5 0 1 5168 0 1 4f80 0 1 5145 0 1 5180 0 1 52c7 0 1 52fa
  0 1 559d 0 1 5555 0 1 5599 0 1 55e2 0 1 585a 0 1 58b3 0 1 5944 0 1 5954 0 1 5a62 0 1 5b28 0 1
  5ed2 0 1 5ed9 0 1 5f69 0 1 5fad 0 1 60d8 0 1 614e 0 1 6108 0 1 618e 0 1 6160 0 1 61f2 0 1 6234
  0 1 63c4 0 1 641c 0 1 6452 0 1 6556 0 1 6674 0 1 6717 0 1 671b 0 1 6756 0 1 6b79 0 1 6bba 0 1
  6d41 0 1 6edb 0 1 6ecb 0 1 6f22 0 1 701e 0 1 716e 0 1 77a7 0 1 7235 0 1 72af 0 1 732a 0 1 7471
  0 1 7506 0 1 753b 0 1 761d 0 1 761f 0 1 76ca 0 1 76db 0 1 76f4 0 1 774a 0 1 7740 0 1 78cc 0 1
  7ab1 0 1 7bc0 0 1 7c7b 0 1 7d5b 0 1 7df4 0 1 7f3e 0 1 8005 0 1 8352 0 1 83ef 0 1 8779 0 1 8941
  0 1 8986 0 1 8996 0 1 8abf 0 1 8af8 0 1 8acb 0 1 8b01 0 1 8afe 0 1 8aed 0 1 8b39 0 1 8b8a 0 1
  8d08 0 1 8f38 0 1 9072 0 1 9199 0 1 9276 0 1 967c 0 1 96e3 0 1 9756 0 1 97db 0 1 97ff 0 1 980b
  0 1 983b 0 1 9b12 0 1 9f9c 0 1 2284a 0 1 22844 0 1 233d5 0 1 3b9d 0 1 4018 0 1 4039 0 1 25249 0
  1 25cd0 0 1 27ed3 0 1 9f43 0 1 9f8e 1fd26 1 4e3d 0 1 4e38 0 1 4e41 0 1 20122 0 1 4f60 0 1 4fae
  0 1 4fbb 0 1 5002 0 1 507a 0 1 5099 0 1 50e7 0 1 50cf 0 1 349e 0 1 2063a 0 1 514d 0 1 5154 0 1
  5164 0 1 5177 0 1 2051c 0 1 34b9 0 1 5167 0 1 518d 0 1 2054b 0 1 5197 0 1 51a4 0 1 4ecc 0 1
  51ac 0 1 51b5 0 1 291df 0 1 51f5 0 1 5203 0 1 34df 0 1 523b 0 1 5246 0 1 5272 0 1 5277 0 1 3515
  0 1 52c7 0 1 52c9 0 1 52e4 0 1 52fa 0 2 5305 0 1 5317 0 1 5349 0 1 5351 0 1 535a 0 1 5373 0 1
  537d 0 1 537f 0 1 537f 0 1 537f 0 1 20a2c 0 1 7070 0 1 53ca 0 1 53df 0 1 20b63 0 1 53eb 0 1
  53f1 0 1 5406 0 1 549e 0 1 5438 0 1 5448 0 1 5468 0 1 54a2 0 1 54f6 0 1 5510 0 1 5553 0 1 5563
  0 1 5584 0 1 5584 0 1 5599 0 1 55ab 0 1 55b3 0 1 55c2 0 1 5716 0 1 5606 0 1 5717 0 1 5651 0 1
  5674 0 1 5207 0 1 58ee 0 1 57ce 0 1 57f4 0 1 580d 0 1 578b 0 1 5832 0 1 5831 0 1 58ac 0 1 214e4
  0 1 58f2 0 1 58f7 0 1 5906 0 1 591a 0 1 5922 0 1 5962 0 1 216a8 0 1 216ea 0 1 59ec 0 1 5a1b 0 1
  5a27 0 1 59d8 0 1 5a66 0 1 36ee 0 1 36fc 0 1 5b08 0 1 5b3e 0 1 5b3e 0 1 219c8 0 1 5bc3 0 1 5bd8
  0 1 5be7 0 1 5bf3 0 1 21b18 0 1 5bff 0 1 5c06 0 1 5f53 0 1 5c22 0 1 3781 0 1 5c60 0 1 5c6e 0 1
  5cc0 0 1 5c8d 0 1 21de4 0 1 5d43 0 1 21de6 0 1 5d6e 0 1 5d6b 0 1 5d7c 0 2 5de1 0 1 382f 0 1
  5dfd 0 1 5e28 0 1 5e3d 0 1 5e69 0 1 3862 0 1 22183 0 1 387c 0 1 5eb0 0 1 5eb3 0 1 5eb6 0 1 5eca
  0 1 2a392 0 1 5efe 0 1 22331 0 1 22331 0 1 8201 0 1 5f22 0 1 5f22 0 1 38c7 0 1 232b8 0 1 261da
  0 1 5f62 0 1 5f6b 0 1 38e3 0 1 5f9a 0 1 5fcd 0 1 5fd7 0 1 5ff9 0 1 6081 0 1 393a 0 1 391c 0 1
  6094 0 1 226d4 0 1 60c7 0 1 6148 0 1 614c 0 1 614e 0 1 614c 0 1 617a 0 1 618e 0 1 61b2 0 1 61a4
  0 1 61af 0 1 61de 0 1 61f2 0 1 61f6 0 1 6210 0 1 621b 0 1 625d 0 1 62b1 0 1 62d4 0 1 6350 0 1
  22b0c 0 1 633d 0 1 62fc 0 1 6368 0 1 6383 0 1 63e4 0 1 22bf1 0 1 6422 0 1 63c5 0 1 63a9 0 1
  3a2e 0 1 6469 0 1 647e 0 1 649d 0 1 6477 0 1 3a6c 0 1 654f 0 1 656c 0 1 2300a 0 1 65e3 0 1 66f8
  0 1 6649 0 1 3b19 0 1 6691 0 1 3b08 0 1 3ae4 0 1 5192 0 1 5195 0 1 6700 0 1 669c 0 1 80ad 0 1
  43d9 0 1 6717 0 1 671b 0 1 6721 0 1 675e 0 1 6753 0 1 233c3 0 1 3b49 0 1 67fa 0 1 6785 0 1 6852
  0 1 6885 0 1 2346d 0 1 688e 0 1 681f 0 1 6914 0 1 3b9d 0 1 6942 0 1 69a3 0 1 69ea 0 1 6aa8 0 1
  236a3 0 1 6adb 0 1 3c18 0 1 6b21 0 1 238a7 0 1 6b54 0 1 3c4e 0 1 6b72 0 1 6b9f 0 2 6bba 0 1
  23a8d 0 1 21d0b 0 1 23afa 0 1 6c4e 0 1 23cbc 0 1 6cbf 0 1 6ccd 0 1 6c67 0 1 6d16 0 1 6d3e 0 1
  6d77 0 1 6d41 0 1 6d69 0 1 6d78 0 1 6d85 0 1 23d1e 0 1 6d34 0 1 6e2f 0 1 6e6e 0 1 3d33 0 1 6ecb
  0 1 6ec7 0 1 23ed1 0 1 6df9 0 1 6f6e 0 1 23f5e 0 1 23f8e 0 1 6fc6 0 1 7039 0 1 701e 0 1 701b 0
  1 3d96 0 1 704a 0 1 707d 0 1 7077 0 1 70ad 0 1 20525 0 1 7145 0 1 24263 0 1 719c 0 1 243ab 0 1
  7228 0 1 7235 0 1 7250 0 1 24608 0 1 7280 0 1 7295 0 1 24735 0 1 24814 0 1 737a 0 1 738b 0 1
  3eac 0 1 73a5 0 1 3eb8 0 1 3eb8 0 1 7447 0 1 745c 0 1 7471 0 1 7485 0 1 74ca 0 1 3f1b 0 1 7524
  0 1 24c36 0 1 753e 0 1 24c92 0 1 7570 0 1 2219f 0 1 7610 0 1 24fa1 0 1 24fb8 0 1 25044 0 1 3ffc
  0 1 4008 0 1 76f4 0 1 250f3 0 1 250f2 0 1 25119 0 1 25133 0 2 771e 0 1 771f 0 1 774a 0 1 4039 0
  1 778b 0 1 4046 0 1 4096 0 1 2541d 0 1 784e 0 1 788c 0 1 78cc 0 1 40e3 0 1 25626 0 1 7956 0 1
  2569a 0 1 256c5 0 1 798f 0 1 79eb 0 1 412f 0 1 7a40 0 1 7a4a 0 1 7a4f 0 1 2597c 0 1 25aa7 0 1
  25aa7 0 1 7aee 0 1 4202 0 1 25bab 0 1 7bc6 0 1 7bc9 0 1 4227 0 1 25c80 0 1 7cd2 0 1 42a0 0 1
  7ce8 0 1 7ce3 0 1 7d00 0 1 25f86 0 1 7d63 0 1 4301 0 1 7dc7 0 1 7e02 0 1 7e45 0 1 4334 0 1
  26228 0 1 26247 0 1 4359 0 1 262d9 0 1 7f7a 0 1 2633e 0 1 7f95 0 1 7ffa 0 1 8005 0 1 264da 0 1
  26523 0 1 8060 0 1 265a8 0 1 8070 0 1 2335f 0 1 43d5 0 1 80b2 0 1 8103 0 1 440b 0 1 813e 0 1
  5ab5 0 1 267a7 0 1 267b5 0 1 23393 0 1 2339c 0 1 8201 0 1 8204 0 1 8f9e 0 1 446b 0 1 8291 0 1
  828b 0 1 829d 0 1 52b3 0 1 82b1 0 1 82b3 0 1 82bd 0 1 82e6 0 1 26b3c 0 1 82e5 0 1 831d 0 1 8363
  0 1 83ad 0 1 8323 0 1 83bd 0 1 83e7 0 1 8457 0 1 8353 0 1 83ca 0 1 83cc 0 1 83dc 0 1 26c36 0 1
  26d6b 0 1 26cd5 0 1 452b 0 1 84f1 0 1 84f3 0 1 8516 0 1 273ca 0 1 8564 0 1 26f2c 0 1 455d 0 1
  4561 0 1 26fb1 0 1 270d2 0 1 456b 0 1 8650 0 1 865c 0 1 8667 0 1 8669 0 1 86a9 0 1 8688 0 1
  870e 0 1 86e2 0 1 8779 0 1 8728 0 1 876b 0 1 8786 0 1 45d7 0 1 87e1 0 1 8801 0 1 45f9 0 1 8860
  0 1 8863 0 1 27667 0 1 88d7 0 1 88de 0 1 4635 0 1 88fa 0 1 34bb 0 1 278ae 0 1 27966 0 1 46be 0
  1 46c7 0 1 8aa0 0 1 8aed 0 1 8b8a 0 1 8c55 0 1 27ca8 0 1 8cab 0 1 8cc1 0 1 8d1b 0 1 8d77 0 1
  27f2f 0 1 20804 0 1 8dcb 0 1 8dbc 0 1 8df0 0 1 208de 0 1 8ed4 0 1 8f38 0 1 285d2 0 1 285ed 0 1
  9094 0 1 90f1 0 1 9111 0 1 2872e 0 1 911b 0 1 9238 0 2 92d7 0 1 927c 0 1 93f9 0 1 9415 0 1
  28bfa 0 1 958b 0 1 4995 0 1 95b7 0 1 28d77 0 1 49e6 0 1 96c3 0 1 5db2 0 1 9723 0 1 29145 0 1
  2921a 0 1 4a6e 0 1 4a76 0 1 97e0 0 1 2940a 0 1 4ab2 0 1 29496 0 1 980b 0 1 980b 0 1 9829 0 1
  295b6 0 1 98e2 0 1 4b33 0 1 9929 0 1 99a7 0 1 99c2 0 1 99fe 0 1 4bce 0 1 29b30 0 1 9b12 0 1
  9c40 0 1 9cfd 0 1 4cce 0 1 4ced 0 1 9d67 0 1 2a0ce 0 1 4cf8 0 1 2a105 0 1 2a20e 0 1 2a291 0 1
  9ebb 0 1 4d56 0 1 9ef9 0 1 9efe 0 1 9f05 0 1 9f0f 0 1 9f16 0 1 9f3b 0 1 2a600")

/-- Runs of characters with a combining class other than zero. -/
def combiningClasses : List ValuedRun := ValuedRun.unpack 0 (packedNumbers
  "300 15 e6 0 1 e8 0 4 dc 0 1 e8 0 1 d8 0 5 dc 0 2 ca 0 4 dc 0 2 ca 0 b dc 0 5 1 0 4 dc 0 8 e6 0
  1 f0 0 1 e6 0 3 dc 0 3 e6 0 2 dc 1 3 e6 0 4 dc 0 1 e6 0 1 e8 0 2 dc 0 1 e6 0 1 e9 0 2 ea 0 1 e9
  0 2 ea 0 1 e9 0 d e6 113 5 e6 109 1 dc 0 4 e6 0 1 dc 0 3 e6 0 1 de 0 1 dc 0 6 e6 0 6 dc 0 2 e6
  0 1 dc 0 2 e6 0 1 de 0 1 e4 0 1 e6 0 1 a 0 1 b 0 1 c 0 1 d 0 1 e 0 1 f 0 1 10 0 1 11 0 1 12 0 2
  13 0 1 14 0 1 15 0 1 16 1 1 17 1 1 18 0 1 19 1 1 e6 0 1 dc 1 1 12 48 8 e6 0 1 1e 0 1 1f 0 1 20
  30 1 1b 0 1 1c 0 1 1d 0 1 1e 0 1 1f 0 1 20 0 1 21 0 1 22 0 2 e6 0 2 dc 0 5 e6 0 1 dc 0 2 e6 0 1
  dc 10 1 23 65 7 e6 2 4 e6 0 1 dc 0 1 e6 2 2 e6 1 1 dc 0 2 e6 0 1 dc 23 1 24 1e 1 e6 0 1 dc 0 2
  e6 0 1 dc 0 2 e6 0 3 dc 0 1 e6 0 2 dc 0 1 e6 0 1 dc 0 3 e6 0 1 dc 0 1 e6 0 1 dc 0 1 e6 0 1 dc 0
  1 e6 0 1 dc 0 2 e6 a0 7 e6 0 1 dc 0 1 e6 9 1 dc 18 4 e6 1 9 e6 1 3 e6 1 5 e6 2b 3 dc 3c 1 e6 0
  3 dc 0 4 e6 2a 5 e6 0 5 dc 0 e e6 1 1 dc 0 2 e6 0 1 dc 0 2 e6 0 1 dc 0 3 e6 0 3 dc 0 1 1b 0 1
  1c 0 1 1d 0 3 e6 0 1 dc 0 2 e6 0 2 dc 0 5 e6 3c 1 7 10 1 9 3 1 e6 0 1 dc 0 2 e6 67 1 7 10 1 9
  30 1 e6 3d 1 7 10 1 9 6e 1 7 10 1 9 6e 1 7 10 1 9 7f 1 9 6e 1 7 10 1 9 7 1 54 0 1 5b 65 1 7 10
  1 9 6d 2 9 10 1 9 7c 1 9 6d 2 67 0 1 9 d 4 6b 6c 2 76 0 1 9 d 4 7a 4c 2 dc 1b 1 dc 1 1 dc 1 1
  d8 37 1 81 0 1 82 1 1 84 5 4 82 2 1 82 1 2 e6 0 1 9 1 2 e6 3e 1 dc 70 1 7 1 2 9 52 1 dc 2cf 3
  e6 3b4 2 9 1e 1 9 9d 1 9 a 1 e6 cb 1 e4 8f 1 de 0 1 e6 0 1 dc db 1 e6 0 1 dc 47 1 9 14 8 e6 2 1
  dc 30 5 e6 0 6 dc 0 2 e6 0 1 dc 1 2 dc 0 2 e6 0 2 dc 0 5 e6 0 1 dc 0 4 e6 65 1 7 f 1 9 26 1 e6
  0 1 dc 0 7 e6 36 2 9 3a 1 7 b 2 9 43 1 7 98 3 e6 1 1 1 0 5 dc 0 2 e6 0 4 dc 0 1 e6 1 7 1 4 1 dc
  6 1 e6 3 2 e6 c6 2 e6 0 1 dc 0 7 e6 0 1 dc 0 2 e6 0 1 ea 0 1 d6 0 1 dc 0 1 ca 0 25 e6 0 1 e8 0
  2 e4 0 1 dc 0 1 da 0 1 e6 0 1 e9 0 1 dc 0 1 e6 0 1 dc 2d0 2 e6 0 2 1 0 4 e6 0 3 1 0 2 e6 4 1 e6
  3 2 1 0 1 e6 0 1 dc 0 1 e6 0 2 1 0 4 dc 0 1 e6 bfe 3 e6 8d 1 9 60 20 e6 22a 1 da 0 1 e4 0 1 e8
  0 1 de 0 2 e0 69 2 8 75d4 1 e6 4 a e6 20 2 e6 50 2 e6 114 1 9 25 1 9 97 1 9 1b 12 e6 39 3 dc 25
  1 9 5f 1 7 c 1 9 ef 1 e6 1 2 e6 0 1 dc 2 2 e6 5 2 e6 1 1 e6 34 1 9 f6 1 9 4f30 1 1a 301 7 e6 0
  7 dc 0 2 e6 3cd 1 dc e2 1 dc 95 5 e6 692 1 dc 1 1 e6 28 1 e6 0 1 1 0 1 dc 4 1 9 a5 1 e6 0 1 dc
  23d 4 e6 183 2 e6 99 2 dc 0 3 e6 0 1 dc 0 1 e6 0 4 dc 31 1 e6 0 1 dc 0 1 e6 0 1 dc c0 1 9 29 1
  9 e 1 9 39 1 9 0 1 7 45 3 e6 30 2 9 3e 1 7 4c 1 9 9 1 7 6a 1 9 0 1 7 b2 1 7 0 1 9 50 2 7 10 1 9
  18 7 e6 3 5 e6 cd 1 9 3 1 7 17 1 e6 63 1 9 0 1 7 fb 1 9 0 1 7 7e 1 9 76 1 9 0 1 7 73 1 9 10d 1
  9 0 1 7 102 2 9 4 1 7 9c 1 9 53 1 9 12 1 9 51 1 9 1a5 1 9 102 1 7 1 2 9 51 1 9 4d58 5 1 3b 7 e6
  4b9 2 6 4cac 1 1 14c6 2 d8 0 3 1 3 1 e2 0 5 d8 8 8 dc 2 5 e6 0 2 dc 1e 4 e6 94 3 e6 dbb 7 e6 1
  11 e6 2 7 e6 1 2 e6 1 5 e6 105 7 e6 177 1 e6 3d 4 e6 5e0 7 dc 6d 6 e6 0 1 7")

/-- The combining class of a code point. -/
def combiningClass (n : Nat) : Nat :=
  match combiningClasses.find? (·.has n) with
  | some r => r.value
  | none => 0

end Accounts.Unicode
