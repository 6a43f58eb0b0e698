/-! The scripts that characters are written in. -/
namespace Outline.Unicode

/-- The code points of each script under its names, written as ranges. -/
def scriptTexts : List (List String × String) := [
  (["adlam", "adlm"],
    "3Q8a2lejeb"),
  (["ahom"],
    "25OaWcoew"),
  (["anatolianhieroglyphs", "hluw"],
    "2H0aIg"),
  (["arabic", "arab"],
    "1Gaebfbnbcb-bjlzb3lb1b2q1p7q1bf2kbY1SIqFnc4p1ap3qeb4g3Rd+2dfii1bf1NOadbWbbbacabjbdbabagaeaba
     babcbbbacabababababbbacdbgbdbdbabjbqfcbebq1ub"),
  (["armenian", "armn"],
    "19r1fc1rcc1TCde"),
  (["avestan", "avst"],
    "22Oa1vdg"),
  (["balinese", "bali"],
    "6Oa2mb1r"),
  (["bamum", "bamu"],
    "19La2x1G8iHy"),
  (["bassavah", "bass"],
    "2QMqZcf"),
  (["batak", "batk"],
    "6Ua1tid"),
  (["bengali", "beng"],
    "2Cadbhcbcvbgbaddcicbcdiaebbecy"),
  (["beriaerfe", "berf"],
    "2RLaycy"),
  (["bhaiksuki", "bhks"],
    "270aib1mbnkY"),
  (["bopomofo", "bopo"],
    "NkbBGz1k3q-"),
  (["brahmi", "brah"],
    "240a2ne1dja"),
  (["braille", "brai"],
    "A0a7-"),
  (["buginese", "bugi"],
    "6GaXcb"),
  (["buhid", "buhd"],
    "5Qat"),
  (["canadianaboriginal", "cans"],
    "50aJ-Hq2f20DWp"),
  (["carian", "cari"],
    "20La1q"),
  (["caucasianalbanian", "aghb"],
    "219q1tla"),
  (["chakma", "cakm"],
    "248a1ubr"),
  (["cham"],
    "1AGa1wjncjcd"),
  (["cherokee", "cher"],
    "4Ta2vcf15Rs2p"),
  (["chorasmian", "chrs"],
    "23TqX"),
  (["common", "zyyy"],
    "a2aWfW1obobexa-aEb1gfect3uajagabaJZagaoada1aa4YaGea4bb16zaCvd9ca1Fpc2hb6lbba16nanahdbfbccaOfl
     c2wbkdkbor1b1+1fbccfbWbq1jceKzwkvS-8aJtc4jGa2ZCsubabyphed2Xbda2Wb4tp1a1fja1q1--2q1pa2y5h6Ea1-
     M8a1b3gc5fj7ua5aaClaobKEsb6qjw1cbsbd4tab-WfWkka1nb2agbgke8cce1mdi2qm1t1m7eW1EDed3QY7YdDtgwpq
     2-3t1Y7vk1gc1ZdqibhZe1Y6vtmtm2wjy4h2ub2gbbcacbcdblbabgb2abdchbgbXbdbebadgbAtc9dc1r53r2d2m1Y
     Mc1le3dmocobob1ek5n1yzbbn1leihbof4WUydqdmd6zgleaple1xijg1hiZcleboi1hAxincmdkd1ybaepclejh4sb3g
     O10ga+2-"),
  (["coptic", "copt", "qaac"],
    "VcnA4q3tfg"),
  (["cuneiform", "xsux"],
    "280aSz3g3obel6d"),
  (["cypriot", "cprt"],
    "220afcab1lbbdaca"),
  (["cyprominoan", "cpmn"],
    "2BSq3c"),
  (["cyrillic", "cyrl"],
    "10a4ec5i5Qqk5aa2ma43h-U2a2-LSob1OGa1Z1ba"),
  (["deseret", "dsrt"],
    "210a2p"),
  (["devanagari", "deva"],
    "28a2qeocz17Ra-SGaj"),
  (["divesakuru", "diak"],
    "268agcachbbbZbbcljj"),
  (["dogra", "dogr"],
    "260a1X"),
  (["duployan", "dupl"],
    "3F0a3kfmdihjcd"),
  (["egyptianhieroglyphs", "egyp"],
    "2C0a12vk3SW"),
  (["elbasan", "elba"],
    "218a1h"),
  (["elymaic", "elym"],
    "23Vaw"),
  (["ethiopic", "ethi"],
    "4Ga2ibdcgbabdc1ibdc1abdcgbabdcob1ybdc2cc-dz6FgwjgbgbgbgbgbgbgbgV9cfcfcfjgbg2F5rgbdbbbo"),
  (["garay", "gara"],
    "23Aa1fdYib"),
  (["georgian", "geor"],
    "45a1fbafac1kbd2Sq1kcc42a1fbafa"),
  (["glagolitic", "glag"],
    "B0a2-3CTagbqcgbbbe"),
  (["gothic", "goth"],
    "20PqW"),
  (["grantha", "gran"],
    "24Oadbhcbcvbgbbbecicbcccagafgcgde"),
  (["greek", "grek"],
    "Rqdbccdbaeababcbabtb1+op69ge1seee2uaAavcfc1fcfchbababab+c1ubobncfbsccbi9ha12H+aLEW2ora1K2-2f"),
  (["gujarati", "gujr"],
    "2Kbcbibcbvbgbbbecjbcbccapdclhg"),
  (["gunjalagondi", "gong"],
    "27Bafbbb1ebbbfhj"),
  (["gurmukhi", "guru"],
    "2Gbcbfebcvbgbbbbbbcabeebccdahdbahq"),
  (["gurungkhema", "gukh"],
    "2O8a1z"),
  (["han", "hani"],
    "BKazb2ym6v1pabaziodUe6D-2aKF-M8aBnc3jT8ibmg140j19M-1a48Zc5Knc79qpJn2DcGZ1Fc4Qkf89j"),
  (["hangul", "hang"],
    "48a7-7Hob8b2Z3r+2b+TNbYKdATdmwe1q9Te+dfcfcfcc"),
  (["hanifirohingya", "rohg"],
    "238a1hij"),
  (["hanunoo", "hano"],
    "5Pau"),
  (["hatran", "hatr"],
    "227asbbfe"),
  (["hebrew", "hebr"],
    "1Cr1wiWef1T9izbebabbbbbj"),
  (["hiragana", "hira"],
    "C2b2vgc2VRb8+saZcG5na"),
  (["imperialaramaic", "armi"],
    "222avbi"),
  (["inherited", "zinh", "qaai"],
    "Oa3p8vbEekWaNad4AX1nclFecbmbgeagadb6g1-Gmb6c1a3Pzd3lb1JBfpqnUpa7ca42Wa1EUe1ncwHacrhcg+dOBQs7p"),
  (["inscriptionalpahlavi", "phli"],
    "22Rasfh"),
  (["inscriptionalparthian", "prti"],
    "22Qavch"),
  (["javanese", "java"],
    "1ACa2ncjeb"),
  (["kaithi", "kthi"],
    "244a2cka"),
  (["kannada", "knda"],
    "34ambcbwbjbecibcbdhbfcbdcjbc"),
  (["katakana", "kana"],
    "C5b2zcc7qp6q1ob2x1J0ojb1m1C2sdbgbbba8-c1saod"),
  (["kawi"],
    "27Oaqb1idY"),
  (["kayahli", "kali"],
    "1A8a1nba"),
  (["kharoshthi", "khar"],
    "22GadbbfhbcbYccejhi"),
  (["khitansmallscript", "kits"],
    "2RVea6OXEv1ja"),
  (["khmer", "khmr"],
    "5Sa2ZcjgjFg-"),
  (["khojki", "khoj"],
    "24Garb1o"),
  (["khudawadi", "sind"],
    "24Lq1Wfj"),
  (["kiratrai", "krai"],
    "2RAa1z"),
  (["lao", "laoo"],
    "3Kbbbabebxbabwcebabgbjcd"),
  (["latin", "latn"],
    "2bzgz1papafwb+bEa1he6GX1fg1qfdfmb2f2b7-Branaqm4nbgaXar1i2Mx-ULc3fd2ruoPq1kbibdJSwg10Wzgz21ff
     b1jbi1LQf+gf"),
  (["lepcha", "lepc"],
    "70a1xdodc"),
  (["limbu", "limb"],
    "68a+bleleadl"),
  (["lineara", "lina"],
    "21Ga9wjvkh"),
  (["linearb", "linb"],
    "200albzbsbbbocn1c3W"),
  (["lisu"],
    "196q1pULqa"),
  (["lycian", "lyci"],
    "20KaY"),
  (["lydian", "lydi"],
    "229azfa"),
  (["mahajani", "mahj"],
    "24Aq1g"),
  (["makasar", "maka"],
    "27Nay"),
  (["malayalam", "mlym"],
    "38ambcb1sbcbfepcz"),
  (["mandaic", "mand"],
    "22aXca"),
  (["manichaean", "mani"],
    "22Ma1gel"),
  (["marchen", "marc"],
    "273q-cvbn"),
  (["masaramgondi", "gonm"],
    "278agbbb1ldabbbiij"),
  (["medefaidrin", "medf"],
    "2RIa2W"),
  (["meeteimayek", "mtei"],
    "1ANaw6j1ncj"),
  (["mendekikakui", "mend"],
    "3Q0a6ecp"),
  (["meroiticcursive", "merc"],
    "22Daxetc1n"),
  (["meroitichieroglyphs", "mero"],
    "22Ca-"),
  (["miao", "plrd"],
    "2ROa2ke1yhq"),
  (["modi"],
    "25Ga2elj"),
  (["mongolian", "mong"],
    "60abcabtg2yh1k1VDvm"),
  (["mro", "mroo"],
    "2QIa+bjeb"),
  (["multani", "mult"],
    "24Kagbabdbobk"),
  (["myanmar", "mymr"],
    "40a4-16Aa+3b-R2qt"),
  (["nabataean", "nbat"],
    "224a+ii"),
  (["nagmundari", "nagm"],
    "3P6q1j"),
  (["nandinagari", "nand"],
    "26Dahc1nck"),
  (["newtailue", "talu"],
    "6Ca1lezgkdb"),
  (["newa"],
    "250a2Xbe"),
  (["nko", "nkoo"],
    "1Ua1Wcc"),
  (["nushu", "nshu"],
    "2RVbaGCoCl"),
  (["nyiakengpuachuehmong", "hmnp"],
    "3O8a1mdncjeb"),
  (["ogham", "ogam"],
    "5KaY"),
  (["olchiki", "olck"],
    "72q1p"),
  (["olonal", "onao"],
    "3PEq1kea"),
  (["oldhungarian", "hung"],
    "234a1sn1shf"),
  (["olditalic", "ital"],
    "20Oa1djc"),
  (["oldnortharabian", "narb"],
    "22Ka-"),
  (["oldpermic", "perm"],
    "20Qq1k"),
  (["oldpersian", "xpeo"],
    "20Ta1den"),
  (["oldsogdian", "sogo"],
    "23Oa1h"),
  (["oldsoutharabian", "sarb"],
    "22Ja-"),
  (["oldturkic", "orkh"],
    "230a2i"),
  (["olduyghur", "ougr"],
    "23Rqz"),
  (["oriya", "orya"],
    "2Obcbhcbcvbgbbbecicbcchcebbecr"),
  (["osage", "osge"],
    "215q1de1d"),
  (["osmanya", "osma"],
    "214aZcj"),
  (["pahawhhmong", "hmng"],
    "2QOa2fkjbgbufs"),
  (["palmyrene", "palm"],
    "223a-"),
  (["paucinhau", "pauc"],
    "26Ma1y"),
  (["phagspa", "phag"],
    "1A2a1x"),
  (["phoenician", "phnx"],
    "228aXda"),
  (["psalterpahlavi", "phlp"],
    "22Sarhdmg"),
  (["rejang", "rjng"],
    "1A9q1dla"),
  (["runic", "runr"],
    "5La2kdk"),
  (["samaritan", "samr"],
    "20a1nco"),
  (["saurashtra", "saur"],
    "1A4a2fil"),
  (["sharada", "shrd"],
    "24Ca2-2Cah"),
  (["shavian", "shaw"],
    "212q1p"),
  (["siddham", "sidd"],
    "25Ca1vc1f"),
  (["sidetic", "sidt"],
    "22Aaz"),
  (["signwriting", "sgnw"],
    "3M0aKlpebo"),
  (["sinhala", "sinh"],
    "3Cbcbrdxbibacgdaefbabhgjcc20Vmt"),
  (["sogdian", "sogd"],
    "23Pq1j"),
  (["sorasompeng", "sora"],
    "246qyhj"),
  (["soyombo", "soyo"],
    "26Iq2s"),
  (["sundanese", "sund"],
    "6Sa1-8ah"),
  (["sunuwar", "sunu"],
    "26Ua1boj"),
  (["sylotinagri", "sylo"],
    "1A0a1m"),
  (["syriac", "syrc"],
    "1Oanb1Xcc8qk"),
  (["tagalog", "tglg"],
    "5Oavja"),
  (["tagbanwa", "tagb"],
    "5Rambcbb"),
  (["taile", "tale"],
    "6AqZce"),
  (["taitham", "lana"],
    "6Ha1+bYckgjgn"),
  (["taiviet", "tavt"],
    "1AKa2cye"),
  (["taiyo", "tayo"],
    "3PMa+bvib"),
  (["takri", "takr"],
    "25Ka1zgj"),
  (["tamil", "taml"],
    "2Scbbfdcbddbbabbdbdcdleedcbdcagaou24Uf1rna"),
  (["tangsa", "tnsa"],
    "2QJq2obj"),
  (["tangut", "tang"],
    "2RVaa-6N-Ga+3b3s"),
  (["telugu", "telu"],
    "30ambcbwbpcibcbdhbbcbbcdcjhi"),
  (["thaana", "thaa"],
    "1Sa1r"),
  (["thai"],
    "3Gb1zfX"),
  (["tibetan", "tibt"],
    "3Oa2hb1de1gb1dbobgeb"),
  (["tifinagh", "tfng"],
    "B9q1xhboa"),
  (["tirhuta", "tirh"],
    "254a2hij"),
  (["todhri", "todr"],
    "21Ea1t"),
  (["tolongsiki", "tols"],
    "27Dq1lej"),
  (["toto"],
    "3OKq+"),
  (["tulutigalari", "tutg"],
    "24Sajbacab1fbjbacabdbjbbib"),
  (["ugaritic", "ugar"],
    "20SaZba"),
  (["vai", "vaii"],
    "198a9l"),
  (["vithkuqi", "vith"],
    "21Bqkbobgbbbkbobgbb"),
  (["wancho", "wcho"],
    "3OMa1zfa"),
  (["warangciti", "wara"],
    "265a2sma"),
  (["yezidi", "yezi"],
    "23Ka1jbccb"),
  (["yi", "yiii"],
    "180a14md1w"),
  (["zanabazarsquare", "zanb"],
    "26Ga2h")]

end Outline.Unicode
