import PhiCalculus.Pattern.Property.Named

/-!
# Script extensions

A character may be used in several scripts.  For most scripts this lists the characters that are
used in it besides its own; the common and the inherited characters are listed in full.
-/

set_option autoImplicit false

namespace PhiCalculus.Pattern.Property

/-- The characters that a script uses besides its own. -/
def scriptExtensions : List Named := [
  ⟨["adlm", "adlam"], "
    61f 640 204f 2e41"⟩,
  ⟨["aghb", "caucasianalbanian"], "
    304 331 35e"⟩,
  ⟨["arab", "arabic"], "
    60c 61b 61f 640 64b-655 670 204f 2e41 fd3e-fd3f 102e0-102fb"⟩,
  ⟨["armn", "armenian"], "
    308"⟩,
  ⟨["avst", "avestan"], "
    b7 2e30-2e31"⟩,
  ⟨["beng", "bengali"], "
    2bc 951-952 964-965 1cd0 1cd2 1cd5-1cd6 1cd8 1ce1 1cea 1ced 1cf2 1cf5-1cf7 a8f1"⟩,
  ⟨["bopo", "bopomofo"], "
    2c7 2c9-2cb 2d9 3001-3003 3008-3011 3013-301f 302a-302d 3030 3037 30fb fe45-fe46 ff61-ff65"⟩,
  ⟨["bugi", "buginese"], "
    a9cf"⟩,
  ⟨["buhd", "buhid"], "
    1735-1736"⟩,
  ⟨["cakm", "chakma"], "
    9e6-9ef 1040-1049"⟩,
  ⟨["cari", "carian"], "
    b7 205a 205d 2e31"⟩,
  ⟨["cher", "cherokee"], "
    300-302 304 30b-30c 323-324 330-331"⟩,
  ⟨["copt", "qaac", "coptic"], "
    b7 300 304-305 307 374-375 2e17 102e0-102fb"⟩,
  ⟨["cpmn", "cyprominoan"], "
    10100-10101"⟩,
  ⟨["cprt", "cypriot"], "
    10100-10102 10107-10133 10137-1013f"⟩,
  ⟨["cyrl", "cyrillic"], "
    2bc 300-302 304 306 308 30b 311 485-486 1df8 2e43"⟩,
  ⟨["deva", "devanagari"], "
    2bc 951-952 964-965 1cd0-1cf6 1cf8-1cf9 20f0 a830-a839"⟩,
  ⟨["dogr", "dogra"], "
    964-96f a830-a839"⟩,
  ⟨["dupl", "duployan"], "
    b7 307-308 30a 323-324 2e3c 1bca0-1bca3"⟩,
  ⟨["elba", "elbasan"], "
    b7 305"⟩,
  ⟨["ethi", "ethiopic"], "
    30e"⟩,
  ⟨["gara", "garay"], "
    60c 61b 61f"⟩,
  ⟨["geor", "georgian"], "
    b7 589 10fb 205a 2e31"⟩,
  ⟨["glag", "glagolitic"], "
    b7 303 305 484 487 589 10fb 205a 2e43 a66f"⟩,
  ⟨["gong", "gunjalagondi"], "
    b7 964-965"⟩,
  ⟨["gonm", "masaramgondi"], "
    964-965"⟩,
  ⟨["goth", "gothic"], "
    b7 304-305 308 331"⟩,
  ⟨["gran", "grantha"], "
    951-952 964-965 be6-bf3 1cd0 1cd2-1cd3 1cf2-1cf4 1cf8-1cf9 20f0 1133b 11fd0-11fd1 11fd3"⟩,
  ⟨["grek", "greek"], "
    b7 300-301 304 306 308 313 342 345 374 1dc0-1dc1 205d"⟩,
  ⟨["gujr", "gujarati"], "
    951-952 964-965 a830-a839"⟩,
  ⟨["gukh", "gurungkhema"], "
    965"⟩,
  ⟨["guru", "gurmukhi"], "
    951-952 964-965 a830-a839"⟩,
  ⟨["han", "hani"], "
    b7 2ff0-2fff 3001-3003 3006 3008-3011 3013-301f 302a-302d 3030 3037 303c-303f 30fb 3190-319f
    31c0-31e5 31ef 3220-3247 3280-32b0 32c0-32cb 32ff 3358-3370 337b-337f 33e0-33fe a700-a707
    fe45-fe46 ff61-ff65 1d360-1d371 1f250-1f251"⟩,
  ⟨["hang", "hangul"], "
    3001-3003 3008-3011 3013-301f 3030 3037 30fb fe45-fe46 ff61-ff65"⟩,
  ⟨["hano", "hanunoo"], "
    1735-1736"⟩,
  ⟨["hebr", "hebrew"], "
    307-308"⟩,
  ⟨["hira", "hiragana"], "
    3001-3003 3008-3011 3013-301f 3030-3035 3037 303c-303d 3099-309c 30a0 30fb-30fc fe45-fe46
    ff61-ff65 ff70 ff9e-ff9f"⟩,
  ⟨["hung", "oldhungarian"], "
    205a 205d 2e31 2e41"⟩,
  ⟨["java", "javanese"], "
    a9cf"⟩,
  ⟨["kali", "kayahli"], "
    a92e"⟩,
  ⟨["kana", "katakana"], "
    305 323 3001-3003 3008-3011 3013-301f 3030-3035 3037 303c-303d 3099-309c 30a0 30fb-30fc
    fe45-fe46 ff61-ff65 ff70 ff9e-ff9f"⟩,
  ⟨["khoj", "khojki"], "
    ae6-aef a830-a839"⟩,
  ⟨["knda", "kannada"], "
    951-952 964-965 1cd0 1cd2-1cd3 1cda 1cf2 1cf4 a830-a835"⟩,
  ⟨["kthi", "kaithi"], "
    966-96f 2e31 a830-a839"⟩,
  ⟨["latn", "latin"], "
    b7 2bc 2c7 2c9-2cb 2cd 2d7 2d9 300-30e 310-311 313 320 323-325 32d-32e 330-331 358 35e
    363-36f 485-486 951-952 10fb 1df8 202f 20f0 2e17 a700-a707 a92e"⟩,
  ⟨["limb", "limbu"], "
    965"⟩,
  ⟨["lina", "lineara"], "
    10107-10133"⟩,
  ⟨["linb", "linearb"], "
    10100-10102 10107-10133 10137-1013f"⟩,
  ⟨["lisu"], "
    2bc 2cd 300a-300b"⟩,
  ⟨["lyci", "lycian"], "
    205a"⟩,
  ⟨["lydi", "lydian"], "
    b7 2e31"⟩,
  ⟨["mahj", "mahajani"], "
    b7 964-96f a830-a839"⟩,
  ⟨["mand", "mandaic"], "
    640"⟩,
  ⟨["mani", "manichaean"], "
    640"⟩,
  ⟨["mero", "meroitichieroglyphs"], "
    205d"⟩,
  ⟨["mlym", "malayalam"], "
    951-952 964-965 1cda 1cf2 a830-a832"⟩,
  ⟨["modi"], "
    a830-a839"⟩,
  ⟨["mong", "mongolian"], "
    1802-1803 1805 202f 3001-3002 3008-300b"⟩,
  ⟨["mult", "multani"], "
    a66-a6f"⟩,
  ⟨["mymr", "myanmar"], "
    a92e"⟩,
  ⟨["nand", "nandinagari"], "
    964-965 ce6-cef 1ce9 1cf2 1cfa a830-a835"⟩,
  ⟨["nko", "nkoo"], "
    60c 61b 61f fd3e-fd3f"⟩,
  ⟨["onao", "olonal"], "
    964-965"⟩,
  ⟨["orkh", "oldturkic"], "
    205a 2e30"⟩,
  ⟨["orya", "oriya"], "
    951-952 964-965 1cda 1cf2"⟩,
  ⟨["osge", "osage"], "
    301 304 30b 358"⟩,
  ⟨["ougr", "olduyghur"], "
    640 10af2"⟩,
  ⟨["perm", "oldpermic"], "
    b7 300 306-308 313 483"⟩,
  ⟨["phag", "phagspa"], "
    1802-1803 1805 202f 3002"⟩,
  ⟨["phlp", "psalterpahlavi"], "
    640"⟩,
  ⟨["qaai", "zinh", "inherited"], "
    30f 312 314-31f 321-322 326-32c 32f 332-341 343-344 346-357 359-35d 35f-362 953-954
    1ab0-1ace 1dc2-1df7 1df9 1dfb-1dff 200c-200d 20d0-20ef fe00-fe0f fe20-fe2d 101fd 1cf00-1cf2d
    1cf30-1cf46 1d167-1d169 1d17b-1d182 1d185-1d18b 1d1aa-1d1ad e0100-e01ef"⟩,
  ⟨["rohg", "hanifirohingya"], "
    60c 61b 61f 640 6d4"⟩,
  ⟨["runr", "runic"], "
    16eb-16ed"⟩,
  ⟨["samr", "samaritan"], "
    2e31"⟩,
  ⟨["shaw", "shavian"], "
    b7"⟩,
  ⟨["shrd", "sharada"], "
    951 1cd7 1cd9 1cdc-1cdd 1ce0 a830-a835 a838"⟩,
  ⟨["sind", "khudawadi"], "
    964-965 a830-a839"⟩,
  ⟨["sinh", "sinhala"], "
    964-965 1cf2"⟩,
  ⟨["sogd", "sogdian"], "
    640"⟩,
  ⟨["sunu", "sunuwar"], "
    300-301 303 30d 310 32d 331"⟩,
  ⟨["sylo", "sylotinagri"], "
    964-965 9e6-9ef"⟩,
  ⟨["syrc", "syriac"], "
    303-304 307-308 30a 320 323-325 32d-32e 330 60c 61b-61c 61f 640 64b-655 670 1df8 1dfa"⟩,
  ⟨["tagb", "tagbanwa"], "
    1735-1736"⟩,
  ⟨["takr", "takri"], "
    964-965 a830-a839"⟩,
  ⟨["tale", "taile"], "
    300-301 307-308 30c 1040-1049"⟩,
  ⟨["taml", "tamil"], "
    951-952 964-965 1cda a8f3 11301 11303 1133b-1133c"⟩,
  ⟨["tang", "tangut"], "
    2ff0-2fff 31ef"⟩,
  ⟨["telu", "telugu"], "
    951-952 964-965 1cda 1cf2"⟩,
  ⟨["tfng", "tifinagh"], "
    302 304 307 309"⟩,
  ⟨["tglg", "tagalog"], "
    1735-1736"⟩,
  ⟨["thaa", "thaana"], "
    60c 61b-61c 61f 660-669 fdf2 fdfd"⟩,
  ⟨["thai"], "
    2bc 2d7 303 331"⟩,
  ⟨["tibt", "tibetan"], "
    3008-300b"⟩,
  ⟨["tirh", "tirhuta"], "
    951-952 964-965 1cf2 a830-a839"⟩,
  ⟨["todr", "todhri"], "
    301 304 307 311 313 35e"⟩,
  ⟨["toto"], "
    2bc"⟩,
  ⟨["tutg", "tulutigalari"], "
    ce6-cef 1cf2 1cf4 a830-a835 a8f1"⟩,
  ⟨["yezi", "yezidi"], "
    60c 61b 61f 660-669"⟩,
  ⟨["yi", "yiii"], "
    3001-3002 3008-3011 3014-301b 30fb ff61-ff65"⟩,
  ⟨["zyyy", "common"], "
    0-40 5b-60 7b-a9 ab-b6 b8-b9 bb-bf d7 f7 2b9-2bb 2bd-2c6 2c8 2cc 2ce-2d6 2d8 2da-2df 2e5-2e9
    2ec-2ff 37e 385 387 605 6dd 8e2 e3f fd5-fd8 2000-200b 200e-202e 2030-204e 2050-2059
    205b-205c 205e-2064 2066-2070 2074-207e 2080-208e 20a0-20c0 2100-2125 2127-2129 212c-2131
    2133-214d 214f-215f 2189-218b 2190-2429 2440-244a 2460-27ff 2900-2b73 2b76-2b95 2b97-2bff
    2e00-2e16 2e18-2e2f 2e32-2e3b 2e3d-2e40 2e42 2e44-2e5d 3000 3004 3012 3020 3036 3248-325f
    327f 32b1-32bf 32cc-32cf 3371-337a 3380-33df 33ff 4dc0-4dff a708-a721 a788-a78a ab5b
    ab6a-ab6b fe10-fe19 fe30-fe44 fe47-fe52 fe54-fe66 fe68-fe6b feff ff01-ff20 ff3b-ff40
    ff5b-ff60 ffe0-ffe6 ffe8-ffee fff9-fffd 10190-1019c 101d0-101fc 1cc00-1ccf9 1cd00-1ceb3
    1cf50-1cfc3 1d000-1d0f5 1d100-1d126 1d129-1d166 1d16a-1d17a 1d183-1d184 1d18c-1d1a9
    1d1ae-1d1ea 1d2c0-1d2d3 1d2e0-1d2f3 1d300-1d356 1d372-1d378 1d400-1d454 1d456-1d49c
    1d49e-1d49f 1d4a2 1d4a5-1d4a6 1d4a9-1d4ac 1d4ae-1d4b9 1d4bb 1d4bd-1d4c3 1d4c5-1d505
    1d507-1d50a 1d50d-1d514 1d516-1d51c 1d51e-1d539 1d53b-1d53e 1d540-1d544 1d546 1d54a-1d550
    1d552-1d6a5 1d6a8-1d7cb 1d7ce-1d7ff 1ec71-1ecb4 1ed01-1ed3d 1f000-1f02b 1f030-1f093
    1f0a0-1f0ae 1f0b1-1f0bf 1f0c1-1f0cf 1f0d1-1f0f5 1f100-1f1ad 1f1e6-1f1ff 1f201-1f202
    1f210-1f23b 1f240-1f248 1f260-1f265 1f300-1f6d7 1f6dc-1f6ec 1f6f0-1f6fc 1f700-1f776
    1f77b-1f7d9 1f7e0-1f7eb 1f7f0 1f800-1f80b 1f810-1f847 1f850-1f859 1f860-1f887 1f890-1f8ad
    1f8b0-1f8bb 1f8c0-1f8c1 1f900-1fa53 1fa60-1fa6d 1fa70-1fa7c 1fa80-1fa89 1fa8f-1fac6
    1face-1fadc 1fadf-1fae9 1faf0-1faf8 1fb00-1fb92 1fb94-1fbf9 e0001 e0020-e007f"⟩]

end PhiCalculus.Pattern.Property
