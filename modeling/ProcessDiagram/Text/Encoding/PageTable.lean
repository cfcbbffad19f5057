import ProcessDiagram.Text.Encoding.Basic

set_option autoImplicit false

namespace ProcessDiagram.Text.Encoding

def pages : List Page :=
  [⟨["iso-8859-1", "iso_8859-1", "iso8859-1", "iso-ir-100", "cp819", "ibm819", "latin1", "l1",
     "csisolatin1", "iso-latin-1"],
    []⟩,
   ⟨["iso-8859-2", "iso_8859-2", "iso8859-2", "iso-ir-101", "latin2", "l2", "csisolatin2",
     "iso-latin-2"],
    [(0xa0, "a0 104 2d8 141 a4 13d 15a a7 a8 160 15e 164 179 ad 17d 17b"),
     (0xb0, "b0 105 2db 142 b4 13e 15b 2c7 b8 161 15f 165 17a 2dd 17e 17c"),
     (0xc0, "154 c1 c2 102 c4 139 106 c7 10c c9 118 cb 11a cd ce 10e"),
     (0xd0, "110 143 147 d3 d4 150 d6 d7 158 16e da 170 dc dd 162 df"),
     (0xe0, "155 e1 e2 103 e4 13a 107 e7 10d e9 119 eb 11b ed ee 10f"),
     (0xf0, "111 144 148 f3 f4 151 f6 f7 159 16f fa 171 fc fd 163 2d9")]⟩,
   ⟨["iso-8859-3", "iso_8859-3", "iso8859-3", "iso-ir-109", "latin3", "l3", "csisolatin3"],
    [(0xa0, "a0 126 2d8 a3 a4 - 124 a7 a8 130 15e 11e 134 ad - 17b"),
     (0xb0, "b0 127 b2 b3 b4 b5 125 b7 b8 131 15f 11f 135 bd - 17c"),
     (0xc0, "c0 c1 c2 - c4 10a 108 c7 c8 c9 ca cb cc cd ce cf"),
     (0xd0, "- d1 d2 d3 d4 120 d6 d7 11c d9 da db dc 16c 15c df"),
     (0xe0, "e0 e1 e2 - e4 10b 109 e7 e8 e9 ea eb ec ed ee ef"),
     (0xf0, "- f1 f2 f3 f4 121 f6 f7 11d f9 fa fb fc 16d 15d 2d9")]⟩,
   ⟨["iso-8859-4", "iso_8859-4", "iso8859-4", "iso-ir-110", "latin4", "l4", "csisolatin4"],
    [(0xa0, "a0 104 138 156 a4 128 13b a7 a8 160 112 122 166 ad 17d af"),
     (0xb0, "b0 105 2db 157 b4 129 13c 2c7 b8 161 113 123 167 14a 17e 14b"),
     (0xc0, "100 c1 c2 c3 c4 c5 c6 12e 10c c9 118 cb 116 cd ce 12a"),
     (0xd0, "110 145 14c 136 d4 d5 d6 d7 d8 172 da db dc 168 16a df"),
     (0xe0, "101 e1 e2 e3 e4 e5 e6 12f 10d e9 119 eb 117 ed ee 12b"),
     (0xf0, "111 146 14d 137 f4 f5 f6 f7 f8 173 fa fb fc 169 16b 2d9")]⟩,
   ⟨["iso-8859-5", "iso_8859-5", "iso8859-5", "iso-ir-144", "cyrillic", "csisolatincyrillic"],
    [(0xa0, "a0 401 402 403 404 405 406 407 408 409 40a 40b 40c ad 40e 40f"),
     (0xb0, "410 411 412 413 414 415 416 417 418 419 41a 41b 41c 41d 41e 41f"),
     (0xc0, "420 421 422 423 424 425 426 427 428 429 42a 42b 42c 42d 42e 42f"),
     (0xd0, "430 431 432 433 434 435 436 437 438 439 43a 43b 43c 43d 43e 43f"),
     (0xe0, "440 441 442 443 444 445 446 447 448 449 44a 44b 44c 44d 44e 44f"),
     (0xf0, "2116 451 452 453 454 455 456 457 458 459 45a 45b 45c a7 45e 45f")]⟩,
   ⟨["iso-8859-6", "iso_8859-6", "iso8859-6", "iso-ir-127", "ecma-114", "asmo-708", "arabic",
     "csisolatinarabic"],
    [(0xa0, "a0 - - - a4 - - - - - - - 60c ad - -"),
     (0xb0, "- - - - - - - - - - - 61b - - - 61f"),
     (0xc0, "- 621 622 623 624 625 626 627 628 629 62a 62b 62c 62d 62e 62f"),
     (0xd0, "630 631 632 633 634 635 636 637 638 639 63a - - - - -"),
     (0xe0, "640 641 642 643 644 645 646 647 648 649 64a 64b 64c 64d 64e 64f"),
     (0xf0, "650 651 652 - - - - - - - - - - - - -")]⟩,
   ⟨["iso-8859-7", "iso_8859-7", "iso8859-7", "iso-ir-126", "ecma-118", "elot_928", "greek8",
     "greek", "csisolatingreek"],
    [(0xa0, "a0 2018 2019 a3 20ac 20af a6 a7 a8 a9 37a ab ac ad - 2015"),
     (0xb0, "b0 b1 b2 b3 384 385 386 b7 388 389 38a bb 38c bd 38e 38f"),
     (0xc0, "390 391 392 393 394 395 396 397 398 399 39a 39b 39c 39d 39e 39f"),
     (0xd0, "3a0 3a1 - 3a3 3a4 3a5 3a6 3a7 3a8 3a9 3aa 3ab 3ac 3ad 3ae 3af"),
     (0xe0, "3b0 3b1 3b2 3b3 3b4 3b5 3b6 3b7 3b8 3b9 3ba 3bb 3bc 3bd 3be 3bf"),
     (0xf0, "3c0 3c1 3c2 3c3 3c4 3c5 3c6 3c7 3c8 3c9 3ca 3cb 3cc 3cd 3ce -")]⟩,
   ⟨["iso-8859-8", "iso_8859-8", "iso8859-8", "iso-ir-138", "hebrew", "csisolatinhebrew"],
    [(0xa0, "a0 - a2 a3 a4 a5 a6 a7 a8 a9 d7 ab ac ad ae af"),
     (0xb0, "b0 b1 b2 b3 b4 b5 b6 b7 b8 b9 f7 bb bc bd be -"),
     (0xc0, "- - - - - - - - - - - - - - - -"),
     (0xd0, "- - - - - - - - - - - - - - - 2017"),
     (0xe0, "5d0 5d1 5d2 5d3 5d4 5d5 5d6 5d7 5d8 5d9 5da 5db 5dc 5dd 5de 5df"),
     (0xf0, "5e0 5e1 5e2 5e3 5e4 5e5 5e6 5e7 5e8 5e9 5ea - - 200e 200f -")]⟩,
   ⟨["iso-8859-9", "iso_8859-9", "iso8859-9", "iso-ir-148", "latin5", "l5", "csisolatin5"],
    [(0xd0, "11e d1 d2 d3 d4 d5 d6 d7 d8 d9 da db dc 130 15e df"),
     (0xf0, "11f f1 f2 f3 f4 f5 f6 f7 f8 f9 fa fb fc 131 15f ff")]⟩,
   ⟨["iso-8859-10", "iso_8859-10", "iso8859-10", "iso-ir-157", "latin6", "l6", "csisolatin6"],
    [(0xa0, "a0 104 112 122 12a 128 136 a7 13b 110 160 166 17d ad 16a 14a"),
     (0xb0, "b0 105 113 123 12b 129 137 b7 13c 111 161 167 17e 2015 16b 14b"),
     (0xc0, "100 c1 c2 c3 c4 c5 c6 12e 10c c9 118 cb 116 cd ce cf"),
     (0xd0, "d0 145 14c d3 d4 d5 d6 168 d8 172 da db dc dd de df"),
     (0xe0, "101 e1 e2 e3 e4 e5 e6 12f 10d e9 119 eb 117 ed ee ef"),
     (0xf0, "f0 146 14d f3 f4 f5 f6 169 f8 173 fa fb fc fd fe 138")]⟩,
   ⟨["iso-8859-11", "iso_8859-11", "iso8859-11"],
    [(0xa0, "a0 e01 e02 e03 e04 e05 e06 e07 e08 e09 e0a e0b e0c e0d e0e e0f"),
     (0xb0, "e10 e11 e12 e13 e14 e15 e16 e17 e18 e19 e1a e1b e1c e1d e1e e1f"),
     (0xc0, "e20 e21 e22 e23 e24 e25 e26 e27 e28 e29 e2a e2b e2c e2d e2e e2f"),
     (0xd0, "e30 e31 e32 e33 e34 e35 e36 e37 e38 e39 e3a - - - - e3f"),
     (0xe0, "e40 e41 e42 e43 e44 e45 e46 e47 e48 e49 e4a e4b e4c e4d e4e e4f"),
     (0xf0, "e50 e51 e52 e53 e54 e55 e56 e57 e58 e59 e5a e5b - - - -")]⟩,
   ⟨["iso-8859-13", "iso_8859-13", "iso8859-13", "iso-ir-179", "latin7", "l7"],
    [(0xa0, "a0 201d a2 a3 a4 201e a6 a7 d8 a9 156 ab ac ad ae c6"),
     (0xb0, "b0 b1 b2 b3 201c b5 b6 b7 f8 b9 157 bb bc bd be e6"),
     (0xc0, "104 12e 100 106 c4 c5 118 112 10c c9 179 116 122 136 12a 13b"),
     (0xd0, "160 143 145 d3 14c d5 d6 d7 172 141 15a 16a dc 17b 17d df"),
     (0xe0, "105 12f 101 107 e4 e5 119 113 10d e9 17a 117 123 137 12b 13c"),
     (0xf0, "161 144 146 f3 14d f5 f6 f7 173 142 15b 16b fc 17c 17e 2019")]⟩,
   ⟨["iso-8859-14", "iso_8859-14", "iso8859-14", "iso-ir-199", "latin8", "l8", "iso-celtic"],
    [(0xa0, "a0 1e02 1e03 a3 10a 10b 1e0a a7 1e80 a9 1e82 1e0b 1ef2 ad ae 178"),
     (0xb0, "1e1e 1e1f 120 121 1e40 1e41 b6 1e56 1e81 1e57 1e83 1e60 1ef3 1e84 1e85 1e61"),
     (0xd0, "174 d1 d2 d3 d4 d5 d6 1e6a d8 d9 da db dc dd 176 df"),
     (0xf0, "175 f1 f2 f3 f4 f5 f6 1e6b f8 f9 fa fb fc fd 177 ff")]⟩,
   ⟨["iso-8859-15", "iso_8859-15", "iso8859-15", "iso-ir-203", "latin-9"],
    [(0xa0, "a0 a1 a2 a3 20ac a5 160 a7 161 a9 aa ab ac ad ae af"),
     (0xb0, "b0 b1 b2 b3 17d b5 b6 b7 17e b9 ba bb 152 153 178 bf")]⟩,
   ⟨["iso-8859-16", "iso_8859-16", "iso8859-16", "iso-ir-226", "latin10", "l10"],
    [(0xa0, "a0 104 105 141 20ac 201e 160 a7 161 a9 218 ab 179 ad 17a 17b"),
     (0xb0, "b0 b1 10c 142 17d 201d b6 b7 17e 10d 219 bb 152 153 178 17c"),
     (0xc0, "c0 c1 c2 102 c4 106 c6 c7 c8 c9 ca cb cc cd ce cf"),
     (0xd0, "110 143 d2 d3 d4 150 d6 15a 170 d9 da db dc 118 21a df"),
     (0xe0, "e0 e1 e2 103 e4 107 e6 e7 e8 e9 ea eb ec ed ee ef"),
     (0xf0, "111 144 f2 f3 f4 151 f6 15b 171 f9 fa fb fc 119 21b ff")]⟩,
   ⟨["koi8-r", "cskoi8r"],
    [(0x80, "2500 2502 250c 2510 2514 2518 251c 2524 252c 2534 253c 2580 2584 2588 258c 2590"),
     (0x90, "2591 2592 2593 2320 25a0 2219 221a 2248 2264 2265 a0 2321 b0 b2 b7 f7"),
     (0xa0, "2550 2551 2552 451 2553 2554 2555 2556 2557 2558 2559 255a 255b 255c 255d 255e"),
     (0xb0, "255f 2560 2561 401 2562 2563 2564 2565 2566 2567 2568 2569 256a 256b 256c a9"),
     (0xc0, "44e 430 431 446 434 435 444 433 445 438 439 43a 43b 43c 43d 43e"),
     (0xd0, "43f 44f 440 441 442 443 436 432 44c 44b 437 448 44d 449 447 44a"),
     (0xe0, "42e 410 411 426 414 415 424 413 425 418 419 41a 41b 41c 41d 41e"),
     (0xf0, "41f 42f 420 421 422 423 416 412 42c 42b 417 428 42d 429 427 42a")]⟩,
   ⟨["koi8-u"],
    [(0x80, "2500 2502 250c 2510 2514 2518 251c 2524 252c 2534 253c 2580 2584 2588 258c 2590"),
     (0x90, "2591 2592 2593 2320 25a0 2219 221a 2248 2264 2265 a0 2321 b0 b2 b7 f7"),
     (0xa0, "2550 2551 2552 451 454 2554 456 457 2557 2558 2559 255a 255b 491 255d 255e"),
     (0xb0, "255f 2560 2561 401 404 2563 406 407 2566 2567 2568 2569 256a 490 256c a9"),
     (0xc0, "44e 430 431 446 434 435 444 433 445 438 439 43a 43b 43c 43d 43e"),
     (0xd0, "43f 44f 440 441 442 443 436 432 44c 44b 437 448 44d 449 447 44a"),
     (0xe0, "42e 410 411 426 414 415 424 413 425 418 419 41a 41b 41c 41d 41e"),
     (0xf0, "41f 42f 420 421 422 423 416 412 42c 42b 417 428 42d 429 427 42a")]⟩,
   ⟨["koi8-ru"],
    [(0x80, "2500 2502 250c 2510 2514 2518 251c 2524 252c 2534 253c 2580 2584 2588 258c 2590"),
     (0x90, "2591 2592 2593 2320 25a0 2219 221a 2248 2264 2265 a0 2321 b0 b2 b7 f7"),
     (0xa0, "2550 2551 2552 451 454 2554 456 457 2557 2558 2559 255a 255b 491 45e 255e"),
     (0xb0, "255f 2560 2561 401 404 2563 406 407 2566 2567 2568 2569 256a 490 40e a9"),
     (0xc0, "44e 430 431 446 434 435 444 433 445 438 439 43a 43b 43c 43d 43e"),
     (0xd0, "43f 44f 440 441 442 443 436 432 44c 44b 437 448 44d 449 447 44a"),
     (0xe0, "42e 410 411 426 414 415 424 413 425 418 419 41a 41b 41c 41d 41e"),
     (0xf0, "41f 42f 420 421 422 423 416 412 42c 42b 417 428 42d 429 427 42a")]⟩,
   ⟨["koi8-t"],
    [(0x80, "49b 493 201a 492 201e 2026 2020 2021 - 2030 4b3 2039 4b2 4b7 4b6 -"),
     (0x90, "49a 2018 2019 201c 201d 2022 2013 2014 - 2122 - 203a - - - -"),
     (0xa0, "- 4ef 4ee 451 a4 4e3 a6 a7 - - - ab ac ad ae -"),
     (0xb0, "b0 b1 b2 401 - 4e2 b6 b7 - 2116 - bb - - - a9"),
     (0xc0, "44e 430 431 446 434 435 444 433 445 438 439 43a 43b 43c 43d 43e"),
     (0xd0, "43f 44f 440 441 442 443 436 432 44c 44b 437 448 44d 449 447 44a"),
     (0xe0, "42e 410 411 426 414 415 424 413 425 418 419 41a 41b 41c 41d 41e"),
     (0xf0, "41f 42f 420 421 422 423 416 412 42c 42b 417 428 42d 429 427 42a")]⟩,
   ⟨["cp1250", "windows-1250", "ms-ee"],
    [(0x80, "20ac - 201a - 201e 2026 2020 2021 - 2030 160 2039 15a 164 17d 179"),
     (0x90, "- 2018 2019 201c 201d 2022 2013 2014 - 2122 161 203a 15b 165 17e 17a"),
     (0xa0, "a0 2c7 2d8 141 a4 104 a6 a7 a8 a9 15e ab ac ad ae 17b"),
     (0xb0, "b0 b1 2db 142 b4 b5 b6 b7 b8 105 15f bb 13d 2dd 13e 17c"),
     (0xc0, "154 c1 c2 102 c4 139 106 c7 10c c9 118 cb 11a cd ce 10e"),
     (0xd0, "110 143 147 d3 d4 150 d6 d7 158 16e da 170 dc dd 162 df"),
     (0xe0, "155 e1 e2 103 e4 13a 107 e7 10d e9 119 eb 11b ed ee 10f"),
     (0xf0, "111 144 148 f3 f4 151 f6 f7 159 16f fa 171 fc fd 163 2d9")]⟩,
   ⟨["cp1251", "windows-1251", "ms-cyrl"],
    [(0x80, "402 403 201a 453 201e 2026 2020 2021 20ac 2030 409 2039 40a 40c 40b 40f"),
     (0x90, "452 2018 2019 201c 201d 2022 2013 2014 - 2122 459 203a 45a 45c 45b 45f"),
     (0xa0, "a0 40e 45e 408 a4 490 a6 a7 401 a9 404 ab ac ad ae 407"),
     (0xb0, "b0 b1 406 456 491 b5 b6 b7 451 2116 454 bb 458 405 455 457"),
     (0xc0, "410 411 412 413 414 415 416 417 418 419 41a 41b 41c 41d 41e 41f"),
     (0xd0, "420 421 422 423 424 425 426 427 428 429 42a 42b 42c 42d 42e 42f"),
     (0xe0, "430 431 432 433 434 435 436 437 438 439 43a 43b 43c 43d 43e 43f"),
     (0xf0, "440 441 442 443 444 445 446 447 448 449 44a 44b 44c 44d 44e 44f")]⟩,
   ⟨["cp1252", "windows-1252", "ms-ansi"],
    [(0x80, "20ac - 201a 192 201e 2026 2020 2021 2c6 2030 160 2039 152 - 17d -"),
     (0x90, "- 2018 2019 201c 201d 2022 2013 2014 2dc 2122 161 203a 153 - 17e 178")]⟩,
   ⟨["cp1253", "windows-1253", "ms-greek"],
    [(0x80, "20ac - 201a 192 201e 2026 2020 2021 - 2030 - 2039 - - - -"),
     (0x90, "- 2018 2019 201c 201d 2022 2013 2014 - 2122 - 203a - - - -"),
     (0xa0, "a0 385 386 a3 a4 a5 a6 a7 a8 a9 - ab ac ad ae 2015"),
     (0xb0, "b0 b1 b2 b3 384 b5 b6 b7 388 389 38a bb 38c bd 38e 38f"),
     (0xc0, "390 391 392 393 394 395 396 397 398 399 39a 39b 39c 39d 39e 39f"),
     (0xd0, "3a0 3a1 - 3a3 3a4 3a5 3a6 3a7 3a8 3a9 3aa 3ab 3ac 3ad 3ae 3af"),
     (0xe0, "3b0 3b1 3b2 3b3 3b4 3b5 3b6 3b7 3b8 3b9 3ba 3bb 3bc 3bd 3be 3bf"),
     (0xf0, "3c0 3c1 3c2 3c3 3c4 3c5 3c6 3c7 3c8 3c9 3ca 3cb 3cc 3cd 3ce -")]⟩,
   ⟨["cp1254", "windows-1254", "ms-turk"],
    [(0x80, "20ac - 201a 192 201e 2026 2020 2021 2c6 2030 160 2039 152 - - -"),
     (0x90, "- 2018 2019 201c 201d 2022 2013 2014 2dc 2122 161 203a 153 - - 178"),
     (0xd0, "11e d1 d2 d3 d4 d5 d6 d7 d8 d9 da db dc 130 15e df"),
     (0xf0, "11f f1 f2 f3 f4 f5 f6 f7 f8 f9 fa fb fc 131 15f ff")]⟩,
   ⟨["cp1255", "windows-1255", "ms-hebr"],
    [(0x80, "20ac - 201a 192 201e 2026 2020 2021 2c6 2030 - 2039 - - - -"),
     (0x90, "- 2018 2019 201c 201d 2022 2013 2014 2dc 2122 - 203a - - - -"),
     (0xa0, "a0 a1 a2 a3 20aa a5 a6 a7 a8 a9 d7 ab ac ad ae af"),
     (0xb0, "b0 b1 b2 b3 b4 b5 b6 b7 b8 b9 f7 bb bc bd be bf"),
     (0xc0, "5b0 5b1 5b2 5b3 5b4 5b5 5b6 5b7 5b8 5b9 - 5bb 5bc 5bd 5be 5bf"),
     (0xd0, "5c0 5c1 5c2 5c3 5f0 5f1 5f2 5f3 5f4 - - - - - - -"),
     (0xe0, "5d0 5d1 5d2 5d3 5d4 5d5 5d6 5d7 5d8 5d9 5da 5db 5dc 5dd 5de 5df"),
     (0xf0, "5e0 5e1 5e2 5e3 5e4 5e5 5e6 5e7 5e8 5e9 5ea - - 200e 200f -")]⟩,
   ⟨["cp1256", "windows-1256", "ms-arab"],
    [(0x80, "20ac 67e 201a 192 201e 2026 2020 2021 2c6 2030 679 2039 152 686 698 688"),
     (0x90, "6af 2018 2019 201c 201d 2022 2013 2014 6a9 2122 691 203a 153 200c 200d 6ba"),
     (0xa0, "a0 60c a2 a3 a4 a5 a6 a7 a8 a9 6be ab ac ad ae af"),
     (0xb0, "b0 b1 b2 b3 b4 b5 b6 b7 b8 b9 61b bb bc bd be 61f"),
     (0xc0, "6c1 621 622 623 624 625 626 627 628 629 62a 62b 62c 62d 62e 62f"),
     (0xd0, "630 631 632 633 634 635 636 d7 637 638 639 63a 640 641 642 643"),
     (0xe0, "e0 644 e2 645 646 647 648 e7 e8 e9 ea eb 649 64a ee ef"),
     (0xf0, "64b 64c 64d 64e f4 64f 650 f7 651 f9 652 fb fc 200e 200f 6d2")]⟩,
   ⟨["cp1257", "windows-1257", "winbaltrim"],
    [(0x80, "20ac - 201a - 201e 2026 2020 2021 - 2030 - 2039 - a8 2c7 b8"),
     (0x90, "- 2018 2019 201c 201d 2022 2013 2014 - 2122 - 203a - af 2db -"),
     (0xa0, "a0 - a2 a3 a4 - a6 a7 d8 a9 156 ab ac ad ae c6"),
     (0xb0, "b0 b1 b2 b3 b4 b5 b6 b7 f8 b9 157 bb bc bd be e6"),
     (0xc0, "104 12e 100 106 c4 c5 118 112 10c c9 179 116 122 136 12a 13b"),
     (0xd0, "160 143 145 d3 14c d5 d6 d7 172 141 15a 16a dc 17b 17d df"),
     (0xe0, "105 12f 101 107 e4 e5 119 113 10d e9 17a 117 123 137 12b 13c"),
     (0xf0, "161 144 146 f3 14d f5 f6 f7 173 142 15b 16b fc 17c 17e 2d9")]⟩,
   ⟨["cp850", "ibm850", "cspc850multilingual"],
    [(0x80, "c7 fc e9 e2 e4 e0 e5 e7 ea eb e8 ef ee ec c4 c5"),
     (0x90, "c9 e6 c6 f4 f6 f2 fb f9 ff d6 dc f8 a3 d8 d7 192"),
     (0xa0, "e1 ed f3 fa f1 d1 aa ba bf ae ac bd bc a1 ab bb"),
     (0xb0, "2591 2592 2593 2502 2524 c1 c2 c0 a9 2563 2551 2557 255d a2 a5 2510"),
     (0xc0, "2514 2534 252c 251c 2500 253c e3 c3 255a 2554 2569 2566 2560 2550 256c a4"),
     (0xd0, "f0 d0 ca cb c8 131 cd ce cf 2518 250c 2588 2584 a6 cc 2580"),
     (0xe0, "d3 df d4 d2 f5 d5 b5 fe de da db d9 fd dd af b4"),
     (0xf0, "ad b1 2017 be b6 a7 f7 b8 b0 a8 b7 b9 b3 b2 25a0 a0")]⟩,
   ⟨["cp862", "ibm862", "cspc862latinhebrew"],
    [(0x80, "5d0 5d1 5d2 5d3 5d4 5d5 5d6 5d7 5d8 5d9 5da 5db 5dc 5dd 5de 5df"),
     (0x90, "5e0 5e1 5e2 5e3 5e4 5e5 5e6 5e7 5e8 5e9 5ea a2 a3 a5 20a7 192"),
     (0xa0, "e1 ed f3 fa f1 d1 aa ba bf 2310 ac bd bc a1 ab bb"),
     (0xb0, "2591 2592 2593 2502 2524 2561 2562 2556 2555 2563 2551 2557 255d 255c 255b 2510"),
     (0xc0, "2514 2534 252c 251c 2500 253c 255e 255f 255a 2554 2569 2566 2560 2550 256c 2567"),
     (0xd0, "2568 2564 2565 2559 2558 2552 2553 256b 256a 2518 250c 2588 2584 258c 2590 2580"),
     (0xe0, "3b1 df 393 3c0 3a3 3c3 b5 3c4 3a6 398 3a9 3b4 221e 3c6 3b5 2229"),
     (0xf0, "2261 b1 2265 2264 2320 2321 f7 2248 b0 2219 b7 221a 207f b2 25a0 a0")]⟩,
   ⟨["cp866", "ibm866", "csibm866"],
    [(0x80, "410 411 412 413 414 415 416 417 418 419 41a 41b 41c 41d 41e 41f"),
     (0x90, "420 421 422 423 424 425 426 427 428 429 42a 42b 42c 42d 42e 42f"),
     (0xa0, "430 431 432 433 434 435 436 437 438 439 43a 43b 43c 43d 43e 43f"),
     (0xb0, "2591 2592 2593 2502 2524 2561 2562 2556 2555 2563 2551 2557 255d 255c 255b 2510"),
     (0xc0, "2514 2534 252c 251c 2500 253c 255e 255f 255a 2554 2569 2566 2560 2550 256c 2567"),
     (0xd0, "2568 2564 2565 2559 2558 2552 2553 256b 256a 2518 250c 2588 2584 258c 2590 2580"),
     (0xe0, "440 441 442 443 444 445 446 447 448 449 44a 44b 44c 44d 44e 44f"),
     (0xf0, "401 451 404 454 407 457 40e 45e b0 2219 b7 221a 2116 a4 25a0 a0")]⟩,
   ⟨["macroman", "macintosh", "mac", "csmacintosh"],
    [(0x80, "c4 c5 c7 c9 d1 d6 dc e1 e0 e2 e4 e3 e5 e7 e9 e8"),
     (0x90, "ea eb ed ec ee ef f1 f3 f2 f4 f6 f5 fa f9 fb fc"),
     (0xa0, "2020 b0 a2 a3 a7 2022 b6 df ae a9 2122 b4 a8 2260 c6 d8"),
     (0xb0, "221e b1 2264 2265 a5 b5 2202 2211 220f 3c0 222b aa ba 2126 e6 f8"),
     (0xc0, "bf a1 ac 221a 192 2248 2206 ab bb 2026 a0 c0 c3 d5 152 153"),
     (0xd0, "2013 2014 201c 201d 2018 2019 f7 25ca ff 178 2044 a4 2039 203a fb01 fb02"),
     (0xe0, "2021 b7 201a 201e 2030 c2 ca c1 cb c8 cd ce cf cc d3 d4"),
     (0xf0, "- d2 da db d9 131 2c6 2dc af 2d8 2d9 2da b8 2dd 2db 2c7")]⟩,
   ⟨["maccentraleurope"],
    [(0x80, "c4 100 101 c9 104 d6 dc e1 105 10c e4 10d 106 107 e9 179"),
     (0x90, "17a 10e ed 10f 112 113 116 f3 117 f4 f6 f5 fa 11a 11b fc"),
     (0xa0, "2020 b0 118 a3 a7 2022 b6 df ae a9 2122 119 a8 2260 123 12e"),
     (0xb0, "12f 12a 2264 2265 12b 136 2202 2211 142 13b 13c 13d 13e 139 13a 145"),
     (0xc0, "146 143 ac 221a 144 147 2206 ab bb 2026 a0 148 150 d5 151 14c"),
     (0xd0, "2013 2014 201c 201d 2018 2019 f7 25ca 14d 154 155 158 2039 203a 159 156"),
     (0xe0, "157 160 201a 201e 161 15a 15b c1 164 165 cd 17d 17e 16a d3 d4"),
     (0xf0, "16b 16e da 16f 170 171 172 173 dd fd 137 17b 141 17c 122 2c7")]⟩,
   ⟨["maciceland"],
    [(0x80, "c4 c5 c7 c9 d1 d6 dc e1 e0 e2 e4 e3 e5 e7 e9 e8"),
     (0x90, "ea eb ed ec ee ef f1 f3 f2 f4 f6 f5 fa f9 fb fc"),
     (0xa0, "dd b0 a2 a3 a7 2022 b6 df ae a9 2122 b4 a8 2260 c6 d8"),
     (0xb0, "221e b1 2264 2265 a5 b5 2202 2211 220f 3c0 222b aa ba 2126 e6 f8"),
     (0xc0, "bf a1 ac 221a 192 2248 2206 ab bb 2026 a0 c0 c3 d5 152 153"),
     (0xd0, "2013 2014 201c 201d 2018 2019 f7 25ca ff 178 2044 a4 d0 f0 de fe"),
     (0xe0, "fd b7 201a 201e 2030 c2 ca c1 cb c8 cd ce cf cc d3 d4"),
     (0xf0, "- d2 da db d9 131 2c6 2dc af 2d8 2d9 2da b8 2dd 2db 2c7")]⟩,
   ⟨["maccroatian"],
    [(0x80, "c4 c5 c7 c9 d1 d6 dc e1 e0 e2 e4 e3 e5 e7 e9 e8"),
     (0x90, "ea eb ed ec ee ef f1 f3 f2 f4 f6 f5 fa f9 fb fc"),
     (0xa0, "2020 b0 a2 a3 a7 2022 b6 df ae 160 2122 b4 a8 2260 17d d8"),
     (0xb0, "221e b1 2264 2265 2206 b5 2202 2211 220f 161 222b aa ba 2126 17e f8"),
     (0xc0, "bf a1 ac 221a 192 2248 106 ab 10c 2026 a0 c0 c3 d5 152 153"),
     (0xd0, "110 2014 201c 201d 2018 2019 f7 25ca - a9 2044 a4 2039 203a c6 bb"),
     (0xe0, "2013 b7 201a 201e 2030 c2 107 c1 10d c8 cd ce cf cc d3 d4"),
     (0xf0, "111 d2 da db d9 131 2c6 2dc af 3c0 cb 2da b8 ca e6 2c7")]⟩,
   ⟨["macromania"],
    [(0x80, "c4 c5 c7 c9 d1 d6 dc e1 e0 e2 e4 e3 e5 e7 e9 e8"),
     (0x90, "ea eb ed ec ee ef f1 f3 f2 f4 f6 f5 fa f9 fb fc"),
     (0xa0, "2020 b0 a2 a3 a7 2022 b6 df ae a9 2122 b4 a8 2260 102 15e"),
     (0xb0, "221e b1 2264 2265 a5 b5 2202 2211 220f 3c0 222b aa ba 2126 103 15f"),
     (0xc0, "bf a1 ac 221a 192 2248 2206 ab bb 2026 a0 c0 c3 d5 152 153"),
     (0xd0, "2013 2014 201c 201d 2018 2019 f7 25ca ff 178 2044 a4 2039 203a 162 163"),
     (0xe0, "2021 b7 201a 201e 2030 c2 ca c1 cb c8 cd ce cf cc d3 d4"),
     (0xf0, "- d2 da db d9 131 2c6 2dc af 2d8 2d9 2da b8 2dd 2db 2c7")]⟩,
   ⟨["maccyrillic"],
    [(0x80, "410 411 412 413 414 415 416 417 418 419 41a 41b 41c 41d 41e 41f"),
     (0x90, "420 421 422 423 424 425 426 427 428 429 42a 42b 42c 42d 42e 42f"),
     (0xa0, "2020 b0 a2 a3 a7 2022 b6 406 ae a9 2122 402 452 2260 403 453"),
     (0xb0, "221e b1 2264 2265 456 b5 2202 408 404 454 407 457 409 459 40a 45a"),
     (0xc0, "458 405 ac 221a 192 2248 2206 ab bb 2026 a0 40b 45b 40c 45c 455"),
     (0xd0, "2013 2014 201c 201d 2018 2019 f7 201e 40e 45e 40f 45f 2116 401 451 44f"),
     (0xe0, "430 431 432 433 434 435 436 437 438 439 43a 43b 43c 43d 43e 43f"),
     (0xf0, "440 441 442 443 444 445 446 447 448 449 44a 44b 44c 44d 44e a4")]⟩,
   ⟨["macukraine"],
    [(0x80, "410 411 412 413 414 415 416 417 418 419 41a 41b 41c 41d 41e 41f"),
     (0x90, "420 421 422 423 424 425 426 427 428 429 42a 42b 42c 42d 42e 42f"),
     (0xa0, "2020 b0 490 a3 a7 2022 b6 406 ae a9 2122 402 452 2260 403 453"),
     (0xb0, "221e b1 2264 2265 456 b5 491 408 404 454 407 457 409 459 40a 45a"),
     (0xc0, "458 405 ac 221a 192 2248 2206 ab bb 2026 a0 40b 45b 40c 45c 455"),
     (0xd0, "2013 2014 201c 201d 2018 2019 f7 201e 40e 45e 40f 45f 2116 401 451 44f"),
     (0xe0, "430 431 432 433 434 435 436 437 438 439 43a 43b 43c 43d 43e 43f"),
     (0xf0, "440 441 442 443 444 445 446 447 448 449 44a 44b 44c 44d 44e a4")]⟩,
   ⟨["macgreek"],
    [(0x80, "c4 b9 b2 c9 b3 d6 dc 385 e0 e2 e4 384 a8 e7 e9 e8"),
     (0x90, "ea eb a3 2122 ee ef 2022 bd 2030 f4 f6 a6 ad f9 fb fc"),
     (0xa0, "2020 393 394 398 39b 39e 3a0 df ae a9 3a3 3aa a7 2260 b0 b7"),
     (0xb0, "391 b1 2264 2265 a5 392 395 396 397 399 39a 39c 3a6 3ab 3a8 3a9"),
     (0xc0, "3ac 39d ac 39f 3a1 2248 3a4 ab bb 2026 a0 3a5 3a7 386 388 153"),
     (0xd0, "2013 2015 201c 201d 2018 2019 f7 389 38a 38c 38e 3ad 3ae 3af 3cc 38f"),
     (0xe0, "3cd 3b1 3b2 3c8 3b4 3b5 3c6 3b3 3b7 3b9 3be 3ba 3bb 3bc 3bd 3bf"),
     (0xf0, "3c0 3ce 3c1 3c3 3c4 3b8 3c9 3c2 3c7 3c5 3b6 3ca 3cb 390 3b0 -")]⟩,
   ⟨["macturkish"],
    [(0x80, "c4 c5 c7 c9 d1 d6 dc e1 e0 e2 e4 e3 e5 e7 e9 e8"),
     (0x90, "ea eb ed ec ee ef f1 f3 f2 f4 f6 f5 fa f9 fb fc"),
     (0xa0, "2020 b0 a2 a3 a7 2022 b6 df ae a9 2122 b4 a8 2260 c6 d8"),
     (0xb0, "221e b1 2264 2265 a5 b5 2202 2211 220f 3c0 222b aa ba 2126 e6 f8"),
     (0xc0, "bf a1 ac 221a 192 2248 2206 ab bb 2026 a0 c0 c3 d5 152 153"),
     (0xd0, "2013 2014 201c 201d 2018 2019 f7 25ca ff 178 11e 11f 130 131 15e 15f"),
     (0xe0, "2021 b7 201a 201e 2030 c2 ca c1 cb c8 cd ce cf cc d3 d4"),
     (0xf0, "- d2 da db d9 - 2c6 2dc af 2d8 2d9 2da b8 2dd 2db 2c7")]⟩,
   ⟨["hp-roman8", "roman8", "r8", "cshproman8"],
    [(0xa0, "a0 c0 c2 c8 ca cb ce cf b4 2cb 2c6 a8 2dc d9 db 20a4"),
     (0xb0, "af dd fd b0 c7 e7 d1 f1 a1 bf a4 a3 a5 a7 192 a2"),
     (0xc0, "e2 ea f4 fb e1 e9 f3 fa e0 e8 f2 f9 e4 eb f6 fc"),
     (0xd0, "c5 ee d8 c6 e5 ed f8 e6 c4 ec d6 dc c9 ef df d4"),
     (0xe0, "c1 c3 e3 d0 f0 cd cc d3 d2 d5 f5 160 161 da 178 ff"),
     (0xf0, "de fe b7 b5 b6 be 2014 bc bd aa ba ab 25a0 bb b1 -")]⟩,
   ⟨["armscii-8"],
    [(0xa0, "a0 - 587 589 29 28 bb ab 2014 2e 55d 2c 2d 58a 2026 55c"),
     (0xb0, "55b 55e 531 561 532 562 533 563 534 564 535 565 536 566 537 567"),
     (0xc0, "538 568 539 569 53a 56a 53b 56b 53c 56c 53d 56d 53e 56e 53f 56f"),
     (0xd0, "540 570 541 571 542 572 543 573 544 574 545 575 546 576 547 577"),
     (0xe0, "548 578 549 579 54a 57a 54b 57b 54c 57c 54d 57d 54e 57e 54f 57f"),
     (0xf0, "550 580 551 581 552 582 553 583 554 584 555 585 556 586 55a -")]⟩,
   ⟨["georgian-academy"],
    [(0x80, "80 81 201a 192 201e 2026 2020 2021 2c6 2030 160 2039 152 8d 8e 8f"),
     (0x90, "90 2018 2019 201c 201d 2022 2013 2014 2dc 2122 161 203a 153 9d 9e 178"),
     (0xc0, "10d0 10d1 10d2 10d3 10d4 10d5 10d6 10d7 10d8 10d9 10da 10db 10dc 10dd 10de 10df"),
     (0xd0, "10e0 10e1 10e2 10e3 10e4 10e5 10e6 10e7 10e8 10e9 10ea 10eb 10ec 10ed 10ee 10ef"),
     (0xe0, "10f0 10f1 10f2 10f3 10f4 10f5 10f6 e7 e8 e9 ea eb ec ed ee ef")]⟩,
   ⟨["georgian-ps"],
    [(0x80, "80 81 201a 192 201e 2026 2020 2021 2c6 2030 160 2039 152 8d 8e 8f"),
     (0x90, "90 2018 2019 201c 201d 2022 2013 2014 2dc 2122 161 203a 153 9d 9e 178"),
     (0xc0, "10d0 10d1 10d2 10d3 10d4 10d5 10d6 10f1 10d7 10d8 10d9 10da 10db 10dc 10f2 10dd"),
     (0xd0, "10de 10df 10e0 10e1 10e2 10f3 10e3 10e4 10e5 10e6 10e7 10e8 10e9 10ea 10eb 10ec"),
     (0xe0, "10ed 10ee 10f4 10ef 10f0 10f5 e6 e7 e8 e9 ea eb ec ed ee ef")]⟩,
   ⟨["pt154", "ptcp154", "cp154", "cyrillic-asian", "csptcp154"],
    [(0x80, "496 492 4ee 493 201e 2026 4b6 4ae 4b2 4af 4a0 4e2 4a2 49a 4ba 4b8"),
     (0x90, "497 2018 2019 201c 201d 2022 2013 2014 4b3 4b7 4a1 4e3 4a3 49b 4bb 4b9"),
     (0xa0, "a0 40e 45e 408 4e8 498 4b0 a7 401 a9 4d8 ab ac 4ef ae 49c"),
     (0xb0, "b0 4b1 406 456 499 4e9 b6 b7 451 2116 4d9 bb 458 4aa 4ab 49d"),
     (0xc0, "410 411 412 413 414 415 416 417 418 419 41a 41b 41c 41d 41e 41f"),
     (0xd0, "420 421 422 423 424 425 426 427 428 429 42a 42b 42c 42d 42e 42f"),
     (0xe0, "430 431 432 433 434 435 436 437 438 439 43a 43b 43c 43d 43e 43f"),
     (0xf0, "440 441 442 443 444 445 446 447 448 449 44a 44b 44c 44d 44e 44f")]⟩,
   ⟨["rk1048", "strk1048-2002", "kz-1048", "cskz1048"],
    [(0x80, "402 403 201a 453 201e 2026 2020 2021 20ac 2030 409 2039 40a 49a 4ba 40f"),
     (0x90, "452 2018 2019 201c 201d 2022 2013 2014 - 2122 459 203a 45a 49b 4bb 45f"),
     (0xa0, "a0 4b0 4b1 4d8 a4 4e8 a6 a7 401 a9 492 ab ac ad ae 4ae"),
     (0xb0, "b0 b1 406 456 4e9 b5 b6 b7 451 2116 493 bb 4d9 4a2 4a3 4af"),
     (0xc0, "410 411 412 413 414 415 416 417 418 419 41a 41b 41c 41d 41e 41f"),
     (0xd0, "420 421 422 423 424 425 426 427 428 429 42a 42b 42c 42d 42e 42f"),
     (0xe0, "430 431 432 433 434 435 436 437 438 439 43a 43b 43c 43d 43e 43f"),
     (0xf0, "440 441 442 443 444 445 446 447 448 449 44a 44b 44c 44d 44e 44f")]⟩,
   ⟨["cp1133", "ibm-cp1133"],
    [(0xa0, "a0 e81 e82 e84 e87 e88 eaa e8a e8d e94 e95 e96 e97 e99 e9a e9b"),
     (0xb0, "e9c e9d e9e e9f ea1 ea2 ea3 ea5 ea7 eab ead eae - - - eaf"),
     (0xc0, "eb0 eb2 eb3 eb4 eb5 eb6 eb7 eb8 eb9 ebc eb1 ebb ebd - - -"),
     (0xd0, "ec0 ec1 ec2 ec3 ec4 ec8 ec9 eca ecb ecc ecd ec6 - edc edd 6b"),
     (0xe0, "- - - - - - - - - - - - - - - -"),
     (0xf0, "ed0 ed1 ed2 ed3 ed4 ed5 ed6 ed7 ed8 ed9 - - a2 ac a6 a0")]⟩,
   ⟨["tis-620", "tis620", "tis620-0", "tis620.2529-1", "tis620.2533-0", "tis620.2533-1",
     "iso-ir-166"],
    [(0x80, "- - - - - - - - - - - - - - - -"),
     (0x90, "- - - - - - - - - - - - - - - -"),
     (0xa0, "- e01 e02 e03 e04 e05 e06 e07 e08 e09 e0a e0b e0c e0d e0e e0f"),
     (0xb0, "e10 e11 e12 e13 e14 e15 e16 e17 e18 e19 e1a e1b e1c e1d e1e e1f"),
     (0xc0, "e20 e21 e22 e23 e24 e25 e26 e27 e28 e29 e2a e2b e2c e2d e2e e2f"),
     (0xd0, "e30 e31 e32 e33 e34 e35 e36 e37 e38 e39 e3a - - - - e3f"),
     (0xe0, "e40 e41 e42 e43 e44 e45 e46 e47 e48 e49 e4a e4b e4c e4d e4e e4f"),
     (0xf0, "e50 e51 e52 e53 e54 e55 e56 e57 e58 e59 e5a e5b - - - -")]⟩,
   ⟨["cp874", "windows-874"],
    [(0x80, "20ac - - - - 2026 - - - - - - - - - -"),
     (0x90, "- 2018 2019 201c 201d 2022 2013 2014 - - - - - - - -"),
     (0xa0, "a0 e01 e02 e03 e04 e05 e06 e07 e08 e09 e0a e0b e0c e0d e0e e0f"),
     (0xb0, "e10 e11 e12 e13 e14 e15 e16 e17 e18 e19 e1a e1b e1c e1d e1e e1f"),
     (0xc0, "e20 e21 e22 e23 e24 e25 e26 e27 e28 e29 e2a e2b e2c e2d e2e e2f"),
     (0xd0, "e30 e31 e32 e33 e34 e35 e36 e37 e38 e39 e3a - - - - e3f"),
     (0xe0, "e40 e41 e42 e43 e44 e45 e46 e47 e48 e49 e4a e4b e4c e4d e4e e4f"),
     (0xf0, "e50 e51 e52 e53 e54 e55 e56 e57 e58 e59 e5a e5b - - - -")]⟩,
   ⟨["viscii", "viscii1.1-1", "csviscii"],
    [(0x00, "0 1 1eb2 3 4 1eb4 1eaa 7 8 9 a b c d e f"),
     (0x10, "10 11 12 13 1ef6 15 16 17 18 1ef8 1a 1b 1c 1d 1ef4 1f"),
     (0x80, "1ea0 1eae 1eb0 1eb6 1ea4 1ea6 1ea8 1eac 1ebc 1eb8 1ebe 1ec0 1ec2 1ec4 1ec6 1ed0"),
     (0x90, "1ed2 1ed4 1ed6 1ed8 1ee2 1eda 1edc 1ede 1eca 1ece 1ecc 1ec8 1ee6 168 1ee4 1ef2"),
     (0xa0, "d5 1eaf 1eb1 1eb7 1ea5 1ea7 1ea9 1ead 1ebd 1eb9 1ebf 1ec1 1ec3 1ec5 1ec7 1ed1"),
     (0xb0, "1ed3 1ed5 1ed7 1ee0 1a0 1ed9 1edd 1edf 1ecb 1ef0 1ee8 1eea 1eec 1a1 1edb 1af"),
     (0xc0, "c0 c1 c2 c3 1ea2 102 1eb3 1eb5 c8 c9 ca 1eba cc cd 128 1ef3"),
     (0xd0, "110 1ee9 d2 d3 d4 1ea1 1ef7 1eeb 1eed d9 da 1ef9 1ef5 dd 1ee1 1b0"),
     (0xe0, "e0 e1 e2 e3 1ea3 103 1eef 1eab e8 e9 ea 1ebb ec ed 129 1ec9"),
     (0xf0, "111 1ef1 f2 f3 f4 f5 1ecf 1ecd 1ee5 f9 fa 169 1ee7 fd 1ee3 1eee")]⟩,
   ⟨["macarabic"],
    [(0x80, "c4 a0 c7 c9 d1 d6 dc e1 e0 e2 e4 6ba ab e7 e9 e8"),
     (0x90, "ea eb ed 2026 ee ef f1 f3 bb f4 f6 f7 fa f9 fb fc"),
     (0xa0, "- - - - - 66a - - - - - - 60c - - -"),
     (0xb0, "660 661 662 663 664 665 666 667 668 669 - 61b - - - 61f"),
     (0xc0, "- 621 622 623 624 625 626 627 628 629 62a 62b 62c 62d 62e 62f"),
     (0xd0, "630 631 632 633 634 635 636 637 638 639 63a - - - - -"),
     (0xe0, "640 641 642 643 644 645 646 647 648 649 64a 64b 64c 64d 64e 64f"),
     (0xf0, "650 651 652 67e 679 686 6d5 6a4 6af 688 691 - - - 698 6d2")]⟩,
   ⟨["machebrew"],
    [(0x80, "c4 - c7 c9 d1 d6 dc e1 e0 e2 e4 e3 e5 e7 e9 e8"),
     (0x90, "ea eb ed ec ee ef f1 f3 f2 f4 f6 f5 fa f9 fb fc"),
     (0xa0, "- - - - - - 20aa - - - - - - - - -"),
     (0xb0, "- - - - - - - - - - - - - - - -"),
     (0xc0, "- 201e - - - - 5bc fb4b - 2026 a0 5b8 5b7 5b5 5b6 5b4"),
     (0xd0, "2013 2014 201c 201d 2018 2019 fb2a fb2b 5bf 5b0 5b2 5b1 5bb 5b9 - 5b3"),
     (0xe0, "5d0 5d1 5d2 5d3 5d4 5d5 5d6 5d7 5d8 5d9 5da 5db 5dc 5dd 5de 5df"),
     (0xf0, "5e0 5e1 5e2 5e3 5e4 5e5 5e6 5e7 5e8 5e9 5ea - - - - -")]⟩,
   ⟨["macthai"],
    [(0x80, "ab bb 2026 f88c f88f f892 f895 f898 f88b f88e f891 f894 f897 201c 201d f899"),
     (0x90, "- 2022 f884 f889 f885 f886 f887 f888 f88a f88d f890 f893 f896 2018 2019 -"),
     (0xa0, "a0 e01 e02 e03 e04 e05 e06 e07 e08 e09 e0a e0b e0c e0d e0e e0f"),
     (0xb0, "e10 e11 e12 e13 e14 e15 e16 e17 e18 e19 e1a e1b e1c e1d e1e e1f"),
     (0xc0, "e20 e21 e22 e23 e24 e25 e26 e27 e28 e29 e2a e2b e2c e2d e2e e2f"),
     (0xd0, "e30 e31 e32 e33 e34 e35 e36 e37 e38 e39 e3a feff 200b 2013 2014 e3f"),
     (0xe0, "e40 e41 e42 e43 e44 e45 e46 e47 e48 e49 e4a e4b e4c e4d 2122 e4f"),
     (0xf0, "e50 e51 e52 e53 e54 e55 e56 e57 e58 e59 ae a9 - - - -")]⟩,
   ⟨["nextstep"],
    [(0x80, "a0 c0 c1 c2 c3 c4 c5 c7 c8 c9 ca cb cc cd ce cf"),
     (0x90, "d0 d1 d2 d3 d4 d5 d6 d9 da db dc dd de b5 d7 f7"),
     (0xa0, "a9 a1 a2 a3 2044 a5 192 a7 a4 2019 201c ab 2039 203a fb01 fb02"),
     (0xb0, "ae 2013 2020 2021 b7 a6 b6 2022 201a 201e 201d bb 2026 2030 ac bf"),
     (0xc0, "b9 2cb b4 2c6 2dc af 2d8 2d9 a8 b2 2da b8 b3 2dd 2db 2c7"),
     (0xd0, "2014 b1 bc bd be e0 e1 e2 e3 e4 e5 e7 e8 e9 ea eb"),
     (0xe0, "ec c6 ed aa ee ef f0 f1 141 d8 152 ba f2 f3 f4 f5"),
     (0xf0, "f6 e6 f9 fa fb 131 fc fd 142 f8 153 df fe ff - -")]⟩,
   ⟨["mulelao-1"],
    [(0xa0, "a0 e81 e82 - e84 - - e87 e88 - e8a - - e8d - -"),
     (0xb0, "- - - - e94 e95 e96 e97 - e99 e9a e9b e9c e9d e9e e9f"),
     (0xc0, "- ea1 ea2 ea3 - ea5 - ea7 - - eaa eab - ead eae eaf"),
     (0xd0, "eb0 eb1 eb2 eb3 eb4 eb5 eb6 eb7 eb8 eb9 - ebb ebc ebd - -"),
     (0xe0, "ec0 ec1 ec2 ec3 ec4 - ec6 - ec8 ec9 eca ecb ecc ecd - -"),
     (0xf0, "ed0 ed1 ed2 ed3 ed4 ed5 ed6 ed7 ed8 ed9 - - edc edd - -")]⟩,
   ⟨["cp1131"],
    [(0x80, "410 411 412 413 414 415 416 417 418 419 41a 41b 41c 41d 41e 41f"),
     (0x90, "420 421 422 423 424 425 426 427 428 429 42a 42b 42c 42d 42e 42f"),
     (0xa0, "430 431 432 433 434 435 436 437 438 439 43a 43b 43c 43d 43e 43f"),
     (0xb0, "2591 2592 2593 2502 2524 2561 2562 2556 2555 2563 2551 2557 255d 255c 255b 2510"),
     (0xc0, "2514 2534 252c 251c 2500 253c 255e 255f 255a 2554 2569 2566 2560 2550 256c 2567"),
     (0xd0, "2568 2564 2565 2559 2558 2552 2553 256b 256a 2518 250c 2588 2584 258c 2590 2580"),
     (0xe0, "440 441 442 443 444 445 446 447 448 449 44a 44b 44c 44d 44e 44f"),
     (0xf0, "401 451 404 454 407 457 40e 45e 406 456 b7 a4 490 491 2219 a0")]⟩,
   ⟨["us-ascii", "ascii", "iso646-us", "iso-ir-6", "ansi_x3.4-1968", "ansi_x3.4-1986", "cp367",
     "ibm367", "us", "csascii"],
    [(0x80, "- - - - - - - - - - - - - - - -"),
     (0x90, "- - - - - - - - - - - - - - - -"),
     (0xa0, "- - - - - - - - - - - - - - - -"),
     (0xb0, "- - - - - - - - - - - - - - - -"),
     (0xc0, "- - - - - - - - - - - - - - - -"),
     (0xd0, "- - - - - - - - - - - - - - - -"),
     (0xe0, "- - - - - - - - - - - - - - - -"),
     (0xf0, "- - - - - - - - - - - - - - - -")]⟩,
   ⟨["iso646-jp", "jp", "iso-ir-14", "jis_c6220-1969-ro", "csiso14jisc6220ro"],
    [(0x50, "50 51 52 53 54 55 56 57 58 59 5a 5b a5 5d 5e 5f"),
     (0x70, "70 71 72 73 74 75 76 77 78 79 7a 7b 7c 7d 203e 7f"),
     (0x80, "- - - - - - - - - - - - - - - -"),
     (0x90, "- - - - - - - - - - - - - - - -"),
     (0xa0, "- - - - - - - - - - - - - - - -"),
     (0xb0, "- - - - - - - - - - - - - - - -"),
     (0xc0, "- - - - - - - - - - - - - - - -"),
     (0xd0, "- - - - - - - - - - - - - - - -"),
     (0xe0, "- - - - - - - - - - - - - - - -"),
     (0xf0, "- - - - - - - - - - - - - - - -")]⟩,
   ⟨["iso646-cn", "cn", "gb_1988-80", "iso-ir-57", "csiso57gb1988"],
    [(0x20, "20 21 22 23 a5 25 26 27 28 29 2a 2b 2c 2d 2e 2f"),
     (0x70, "70 71 72 73 74 75 76 77 78 79 7a 7b 7c 7d 203e 7f"),
     (0x80, "- - - - - - - - - - - - - - - -"),
     (0x90, "- - - - - - - - - - - - - - - -"),
     (0xa0, "- - - - - - - - - - - - - - - -"),
     (0xb0, "- - - - - - - - - - - - - - - -"),
     (0xc0, "- - - - - - - - - - - - - - - -"),
     (0xd0, "- - - - - - - - - - - - - - - -"),
     (0xe0, "- - - - - - - - - - - - - - - -"),
     (0xf0, "- - - - - - - - - - - - - - - -")]⟩,
   ⟨["jis_x0201", "jisx0201-1976", "x0201", "cshalfwidthkatakana"],
    [(0x50, "50 51 52 53 54 55 56 57 58 59 5a 5b a5 5d 5e 5f"),
     (0x70, "70 71 72 73 74 75 76 77 78 79 7a 7b 7c 7d 203e 7f"),
     (0x80, "- - - - - - - - - - - - - - - -"),
     (0x90, "- - - - - - - - - - - - - - - -"),
     (0xa0, "- ff61 ff62 ff63 ff64 ff65 ff66 ff67 ff68 ff69 ff6a ff6b ff6c ff6d ff6e ff6f"),
     (0xb0, "ff70 ff71 ff72 ff73 ff74 ff75 ff76 ff77 ff78 ff79 ff7a ff7b ff7c ff7d ff7e ff7f"),
     (0xc0, "ff80 ff81 ff82 ff83 ff84 ff85 ff86 ff87 ff88 ff89 ff8a ff8b ff8c ff8d ff8e ff8f"),
     (0xd0, "ff90 ff91 ff92 ff93 ff94 ff95 ff96 ff97 ff98 ff99 ff9a ff9b ff9c ff9d ff9e ff9f"),
     (0xe0, "- - - - - - - - - - - - - - - -"),
     (0xf0, "- - - - - - - - - - - - - - - -")]⟩]

end ProcessDiagram.Text.Encoding
