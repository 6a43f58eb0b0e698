/-! Characters that several scripts share. -/
namespace Outline.Unicode

/-- For a script the code points that it shares with others and, for the scripts of no language,
those that are shared, written as ranges. -/
def sharedTexts : List (List String × String) := [
  (["adlam", "adlm"],
    "1G-a1aa6Goa3Fra"),
  (["arabic", "arab"],
    "1Gmaoada1aakkWa6E+a3Fra1JNYb1DaX"),
  (["armenian", "armn"],
    "Oia"),
  (["avestan", "avst"],
    "5xaBByb"),
  (["bengali", "beng"],
    "LYa1Kubrb4Rkabacbbaiaiacaeacc12Vza"),
  (["bopomofo", "bopo"],
    "MhabcnaB9hcejbmkdcaga6da1JAjb8We"),
  (["buginese", "bugi"],
    "1AEpa"),
  (["buhid", "buhd"],
    "5Pvb"),
  (["carian", "cari"],
    "5xa7Tcaca3Eta"),
  (["caucasianalbanian", "aghb"],
    "Oea1ma1ma"),
  (["chakma", "cakm"],
    "2Fgj1Iqj"),
  (["cherokee", "cher"],
    "Oacbagbwblb"),
  (["common", "zyyy"],
    "5xaGeakabcbajaba4WaKxaoada1aaPdb1Sva1Fpc2hb6lbba16nanahdbfbccaPua-akaca3DzaybkaeabaDmpbccabj
     bmqfbaed2Xbda2Wb4tp1a1fja1q1h1y1qpl1ta2yyke3a+SObh9ij7ua5aaKRob8fb8Weka1nbBace1mdiDbW1EDed
     5LYr7M+b"),
  (["coptic", "copt", "qaac"],
    "5xaIiadbba3mbALba1L6iX"),
  (["cypriot", "cprt"],
    "208ace1mdi"),
  (["cyprominoan", "cpmn"],
    "208ab"),
  (["cyrillic", "cyrl"],
    "LYa2dcbababacafaBtb6Bra42ka"),
  (["devanagari", "deva"],
    "LYa1Kubrb4Rk1gbbVwa11P-j"),
  (["dogra", "dogr"],
    "2Bel17Maj"),
  (["duployan", "dupl"],
    "5xaIpbbaybAOxa33Jdd"),
  (["elbasan", "elba"],
    "5xaIna"),
  (["ethiopic", "ethi"],
    "Ooa"),
  (["garay", "gara"],
    "1Gmaoada"),
  (["georgian", "geor"],
    "5xa16ra2Rra3Q+a3Ewa"),
  (["glagolitic", "glag"],
    "5xaIlabaB+aca8ba2Rra3Q+a3FiaU1la"),
  (["gothic", "goth"],
    "5xaImbca1ia"),
  (["grantha", "gran"],
    "2ArbrbKan46Yabb+cdbVwa1SIka34ubba"),
  (["greek", "grek"],
    "5xaIibcababaka1oaca1oa6IlbKXa"),
  (["gujarati", "gujr"],
    "2Arbrb17Mkj"),
  (["gunjalagondi", "gong"],
    "5xa25mb"),
  (["gurmukhi", "guru"],
    "2Arbrb17Mkj"),
  (["gurungkhema", "gukh"],
    "2Bfa"),
  (["han", "hani"],
    "5xaBPypbccabjbmkdcagaed5Xa4up1a1fja1q1h1y1qpl1ta2yyke3a+SObhLPZb8We1KVWr7M+b"),
  (["hangul", "hang"],
    "C0bcejbmqaga6da1JAjb8We"),
  (["hanifirohingya", "rohg"],
    "1Gmaoada1aa4ta"),
  (["hanunoo", "hano"],
    "5Pvb"),
  (["hebrew", "hebr"],
    "Ohb"),
  (["hiragana", "hira"],
    "C0bcejbmqfbaeb2Xdda2Wb1JAib8Weka1nb"),
  (["inherited", "zinh", "qaai"],
    "Oaobbbapchbbbqacasafaem8vbEekWaNab4RZcbmbgeagadb6gb1wabaNva3Pzd3lb1KIfa42Wa"),
  (["javanese", "java"],
    "1AEpa"),
  (["kaithi", "kthi"],
    "2Bgj96baUF+j"),
  (["kannada", "knda"],
    "2Arbrb4Rkabbgaxaba12PXf"),
  (["katakana", "kana"],
    "OfaZaB6Zcejbmqfbaeb2Xdda2Wb1JAib8Weka1nb"),
  (["kayahli", "kali"],
    "1A9oa"),
  (["khojki", "khoj"],
    "2Ngj17Aaj"),
  (["khudawadi", "sind"],
    "2Beb17Mkj"),
  (["latin", "latn"],
    "5xaGeakabcbajaba1gobbbapchbbb1gafaem8vb16kb1Tia37YaHwa6aa39gaU7ihHga"),
  (["limbu", "limb"],
    "2Bfa"),
  (["lineara", "lina"],
    "208h1m"),
  (["linearb", "linb"],
    "208ace1mdi"),
  (["lisu"],
    "LYaqaB9Yb"),
  (["lycian", "lyci"],
    "82Wa"),
  (["lydian", "lydi"],
    "5xaBBza"),
  (["mahajani", "mahj"],
    "5xa25ml17Maj"),
  (["malayalam", "mlym"],
    "2Arbrb4Ruaxa12PZc"),
  (["mandaic", "mand"],
    "1Iaa"),
  (["manichaean", "mani"],
    "1Iaa"),
  (["masaramgondi", "gonm"],
    "2Beb"),
  (["meroitichieroglyphs", "mero"],
    "82Za"),
  (["modi"],
    "1A1qj"),
  (["mongolian", "mong"],
    "60cbba21ja3Urbfd"),
  (["multani", "mult"],
    "2Jgj"),
  (["myanmar", "mymr"],
    "1A9oa"),
  (["nandinagari", "nand"],
    "2ArasbSaj3Vzaiaha12Pvf"),
  (["newa"],
    "2Arb4Scabbjagababa"),
  (["nko", "nkoo"],
    "1Gmaoada1TO+b"),
  (["olonal", "onao"],
    "2Beb"),
  (["oldhungarian", "hung"],
    "82Waca3Etapa"),
  (["oldpermic", "perm"],
    "5xaIiafckaBpa"),
  (["oldturkic", "orkh"],
    "82Wa3Eva"),
  (["olduyghur", "ougr"],
    "1Iaa215ra"),
  (["oriya", "orya"],
    "2Arbrb4Ruaxa"),
  (["osage", "osge"],
    "Obacaga2ma"),
  (["phagspa", "phag"],
    "60cbba21ja3Usa"),
  (["psalterpahlavi", "phlp"],
    "1Iaa"),
  (["runic", "runr"],
    "5Nlc"),
  (["samaritan", "samr"],
    "BHra"),
  (["sharada", "shrd"],
    "2Ara4Sfabacbcajaca12Qcfca"),
  (["shavian", "shaw"],
    "5xa"),
  (["sinhala", "sinh"],
    "2Beb4Sma"),
  (["sogdian", "sogd"],
    "1Iaa"),
  (["sunuwar", "sunu"],
    "OabbajacaYada"),
  (["sylotinagri", "sylo"],
    "2Beb4aj"),
  (["syriac", "syrc"],
    "OdbcbbaychbbbMWaobca1aakkWa5Shaba"),
  (["tagalog", "tglg"],
    "5Pvb"),
  (["tagbanwa", "tagb"],
    "5Pvb"),
  (["taile", "tale"],
    "Oabfbda39tj"),
  (["takri", "takr"],
    "2Beb17Mkj"),
  (["tamil", "taml"],
    "2Arbrb4Rua130yaQGnaba1xb"),
  (["tangut", "tang"],
    "BVqpFpa"),
  (["telugu", "telu"],
    "2Arbrb4Rpbbabaxa"),
  (["thaana", "thaa"],
    "1Gmaobca2aj1TSiaka"),
  (["thai"],
    "LYaWa1la1na"),
  (["tibetan", "tibt"],
    "C0id"),
  (["tifinagh", "tfng"],
    "Ocababdza"),
  (["tirhuta", "tirh"],
    "2Arbrb4Rpamapa12PZj"),
  (["todhri", "todr"],
    "Obacacajaba2ka"),
  (["toto"],
    "LYa"),
  (["tulutigalari", "tutg"],
    "37gj40caba12PXf5Xa"),
  (["yezidi", "yezi"],
    "1Gmaoada2aj"),
  (["yi", "yiii"],
    "C0bbfjch6-a1JJfe")]

end Outline.Unicode
