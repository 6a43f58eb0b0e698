/-! The general categories of characters. -/
namespace Outline.Unicode

/-- The code points of each category under its names, written as ranges. -/
def categoryTexts : List (List String × String) := [
  (["lu", "uppercaseletter"],
    "2bz3fwbg1babababababababababababababababababababababababababababacabababababababacabababababa
     babababababababababababababababababbbabadbbabbbccdbbbcdbbbbababbbacabbbcbabbdahacacacabababa
     babababacababababababababacacabcbababababababababababababababababababababababababababababahb
     bbcabdbabababa9babadaiagabcbabbbqbi1daccdabababababababababababafacabbc1s1qababababababababa
     babababababababajabababababababababababababababababababababababababababbbabababababacabababa
     babababababababababababababababababababababababababababababababababababababababababababac1f
     2Qj1fbafaMs2v24tag1kccAaababababababababababababababababababababababababababababababababababa
     babababababababababababababababababababababababababababababababababababababababajabababababa
     bababababababababababababababababababababababababababababababababababababababababababajhifkh
     ihiflabababaih2idmdmdmeld8gaeadccccadegabababdcdkbfa1Za2JY1p1qabccabababdbacaicbababababababa
     babababababababababababababababababababababababababababababababababababababababababaiabaea
     UAnababababababababababababababababababababababatabababababababababababababa4hababababababada
     babababababababababababababababababababababababababababababakababbbabababaeabacabadababababa
     babababababebebabababababababdbabbbabababababababayaLPlz16f1h4i1d4Ykbobgbb1Nk1s4Zv2PW-LCa-2ay
     PAhzWzWzWabbcacbcdbhWzWbbdchbgXbbdbebadgXzWzWzWzWzWz+y1by1by1by1by1ba49v1b"),
  (["ll", "lowercaseletter"],
    "3bz1Wa1jxbhbabababababababababababababababababababababababababababbbabababababababbbababababa
     babababababababababababababababababacababccabacadbeacadccacababacabbbacadabacbccgacacabababa
     bababababbbababababababababbcabadabababababababababababababababababababababababababababababg
     cacbbaeabababab2ecz6babadadcsaX1cbbdcbabababababababababababebacacb1t1pbababababababababababa
     babababababajababababababababababababababababababababababababababacababababababbbabababababa
     babababababababababababababababababababababababababababababababababababababababababa1q1i2Qh1k
     ccNyf24ciba3v1l1-mb1b3gababababababababababababababababababababababababababababababababababa
     babababababababababababababababababababababababababababababababababababababababibabababababa
     bababababababababababababababababababababababababababababababababababababababababababiifkhih
     ifkhihinchihihiebbgadcbbidcbihkcbb8sadbdaXaeaeacbidea1va2Ll1pbadbbababaeabbbffabababababababa
     babababababababababababababababababababababababababababababababababababababababababbhabaeam1f
     bafaU8tababababababababababababababababababababababatabababababababababababababa4habababababa
     bcbabababababababababababababababababababababababababababababababhbabacababababaeabacabcbaba
     babababababababafafabababababababaeabacabababababababaWadaPv1kfih2pJQagme11jz16n1h4i1d4Xkbobg
     bb1Od1s3Zv2PW-LCa-1XyPAgzWgbrWzWdbabgbkWzWzWzWzWzWzWzWzWXYybfWybfWybfWybfWybfba1Pujbtgf2Fx1b"),
  (["lt", "titlecaseletter"],
    "Efacaca1ga7Cvhihihmapa1pa"),
  (["lm", "modifierletter"],
    "Lqreloehaba4fafaE+a7ga5eb8nbea-ajada5aa5ha16ua3-aHva1MWa3laJdaEqf5o1+na1c1eLranaqm2U-b7ra5-a
     Eva1lefa3bb2ZcROwa17cf8oa3saYb3zi2qaxa3iddbEvawa4ja3mavb3hdjaL0ga1nb1Vafb1jbi1Cta1aaAva3Ota
     JBgdFYc1ibHgm2abbaobFVYdbgbbC1r1Z6jgTnaGtaIla"),
  (["lo", "otherletter"],
    "5kapa8aaed6qbPWWed1n-bj1dbb3cbaybkccaqabZZ2ylay1avv1kyhkfxbgq1i1X1vdasahjqoehcbcvbgbadddaqanb
     bcobkaifebcvbgbbbbbb-dbatcqibcbvbgbbbedasapbxalhcbcvbgbbbeda+bbcparabfdcbddbbabbdbdcdlwa1uhbc
     bwbpdaWcbbcb+aehbcbwbjbeda+cbbpbribcb1icaqafcicyffrdxbibacg1W1pbbmf1Xbbabebxbabjbbjacexd1aa
     1-hb1dXe3t1kuaqfeddadbhcemma3rAibdcgbabdc1ibdc1abdcgbabdcob1ybdc2c1fp3rJlcqbzf2kghhrnsorombc
     p1t1ia2d1cb1uhec1bbaf2fk+1rZcel1lez1wwj1u5q1orh1wZnbk1lW1d1jckZ3rdbfbbda11Wd2Vx1xywjgbgbgbgbg
     bgbgbgHha1vae2viab2zeaf1kb2Zr-1qpGa6D-2aKGub13w2d1hi8lepkb2ca1r2f5ja3hadgbcbdbwZ1to1r1+fdabb
     lXkwzYh1o1necikeb1ixcbhupbfdad1rbadbcecabaybdkhaofcfcfjgbg4r1cZATdmwe1q88eBnc3j2dabjbmbebabb
     bbb3l1bBks1-c1v1il3ueb4g3jjb1mc+dfcfcfcc1dlbzbsbbbocn1c3WCfYd1q1p-ntbhg1fkZc1deh4a2n3c1hi1t
     2Y1tm9wjvkh4yfcab1lbbdacwkwj+2bsbbkvkzgz1g1xgb2aapdbcbY1kYdY1dhbXX1vkvksnr3o2i5x1d1gdba9q1jgb
     qcbb1yYkaiv1kr1ouXwm1u1zbcan1m1ayW1dZacai1cdam1podvaba1drbytb1-gbabdbobjh1o1ghcbcvbgbbbedasa
     me+jbacab1fbazaba1m1usduc+1pubba5y1o1jd1e1pua1X1kna2hW1fg5z1l6thcachbbbxpaba2+hc1gqabaYak1hha
     val1ntas2i6h1a-ib1era1rZ3qgbbb1fvazfbbb-oax1ibb8espabmb1b3Ya2pSz7g6d2Im3ap11prfz3SWfIg6LzZ
     1NcHyh+r2orZs1p1tufsDt1hCv2kfa5p76v1j-3b3s8Gn9cpaZccaodiCl28e3kfmdihj8JqaFv1m1baAbZs1lFeW7fZ
     ca6p+bcbbbgceja7bgbdbbbob6e19XdbWbbbacabjbdbabagaeabababcbbbacabababababbbacdbgbdbdbabjbqfcbe
     bq4Ae19M-1a48Zc5Knc79qpJn2DcGZ1Fc4Qkf89j"),
  (["mn", "nonspacingmark"],
    "Oa3p8te8j1mbabbbbba2ik1quqa3fgcfcbbd1da+W2Xk1Wijaydbibcbe1lc1Xi1kxb-1xabaeheadgkbZa1Waediaub
     Wacb1zaebebccda+bdalb1zaeebbeaubwfba1Wacabdiahblb+a1Zama1sada1xabcfcbdhblbZa1WacagafbubYb1zb
     ediaubZa2iahcba2Wacgmh3cacilg2jbXababa1xnbebbfkb1dja3gdbfbbcbzbecqdnacbgapaL-cTscZb+b+b2abbg
     iackja1ncba3vb1ca3wcebjagc6Xbca1Wabgbabachgjca1qnb+clud1qabebafa1iimb1adcbbc1yabbdabc1Whcb4yc
     bmbgeagadb6g1-Mqmeadl2V+c4na3a-Hkd3lbTEuaej1ab2qb8qadaeazbfa4xbWrna1ghzk1oc1qacdcb1ha2dfcbcb
     maia1pa1tabccbfbba1kbia7oacaeaJPqaNbpqpUna7ca4ve1Kgcbbfd1icea5fbHZd2be9Zb2nf2gk1rd3Xa1wo1jacb
     kc1rdcbha1Zc1eebh1+amb1uikdca2-ccabbgaca4Zadhvb1zbda1fgde2gfnababaob2vhccbaxa2ufbaebbb7odgbbb
     Xb2vhcabb3kabacfba3fabacdbe8dibb8abbaea4qdcbea1aj1ifcdiajfcc1ombb6gabcba6jgbfba2svcgbbbb3Wfda
     bbbgba2ibdabaAXblb1uefabaxa57fagoB6ildc2Eae1Xg10ya1-d2raJ5yb4Jb1ncwHacrhcg+d4uc1TX1we1riaoawe
     bo1Aqgbqcgbbbe3ea5agBxa1ZdFYd7+b7tacahbfaEWg3ngO5Tv7p"),
  (["mc", "spacingmark"],
    "28da1xaccidbb1sb1Wcgbcbka1la1Wc2ca1Wciabb1vb1Wabagbcbka3gbbbdcbcka1jc1Zd1Zb1WabecbbbjbYaob1Wc
     fcbcka1kb2lcghsbAkb1-a5lbeagacbzbkccgvbcfcakc1Jya+a4bahhbbAWdccebbf7ab1Wabajabbif4ra1qafabebb
     1Za+aebca1Yaccbadb1qhib5lava4PwbTVtbca2yb1sp4ob1pa1qbebcc3obcbya1naba3nacbfa7nbbbbbbaP0taba
     3-a1nceb3tayb1Xa1qcjbna2Zcdbba5kc-b1Wbbdcbccjakb2uchacabdbbba3fcibda3kcgabdca7ncgdca3rcibba
     3nabbga3habbea8fcja7xfbbeacaba4ocidea2uaZb1+a6jadaba6haoa3kahaca6veebbaA+bma1qbibbaGFic3He1w
     3ibOBtbgf"),
  (["me", "enclosingmark"],
    "14ib5Hua1G+dbc11Clc"),
  (["nd", "decimalnumber", "digit"],
    "1qj1Hgj4gj6gjCYj3wj3wj3wj3wj3wj3wj3wj3wj3wj3aj3wj2gj8wj2gj1Qgj1gj9mj4aj5gjgj5wj2wj4gjgj12Egj
     Lgj1gj6gjwj2wjCwjKOwj1Cgj24gjgjOYj4aj1Yj4qj8wjAwj3wjBwj3gjgt2mjDgj3gjKwj2wj7wj2gj1wjBgjGEwj
     29gj2wj4gjGwjNRwj2Mu1r2AajDgjFwj7xjQvj4Kwj"),
  (["nl", "letternumber"],
    "5Noc2Jp1ccd3J+aziocTLljMIq1uEmaia4ge81k3oISfc"),
  (["no", "othernumber"],
    "5sbfacc29vfByf3yc4fg6zgriDrj11vt13tjFaa1Kvadfgj6gp1jaMw1X2ovJwZ1Bja14ud4kj+hbo1aj1hoTBqfM6r1m
     2bdrbAvW1ed19uhzg1hi2lewf5abcpc1n2ai1ub+c2le3ihyh1jgAkfBa+4+j1kd3qg4gtBXt1AfbDoiRhsQtuISggO+w
     P1jtmt3my5AoiTb1Wbcbd2m1mboUcm"),
  (["pc", "connectorpunctuation"],
    "2-a7U-bta1NE+byc7pa"),
  (["pd", "dashpunctuation"],
    "1na1AYa1ta3Iba10fa20jf3Gbaca-beaYaD+ata3pa1JCqb1faka5ja3Jaa9+a"),
  (["ps", "openpunctuation"],
    "1ia1sa-a3L+aba1Q+a2B+ada1ga1xapaJWaba+a11+ababababababa2qa1aababababaCuababababababababababa
     2aaba1ba11fabababazasabababaDmababababadabababaca1J9ba6xaZabababababababadarababa5ka1sa-adaca"),
  (["pe", "closepunctuation"],
    "1ja1ta-a3LZaba1Q+a2Dja1xapaJWaba+a11+ababababababa2qa1aababababaCuababababababababababa2aaba
     1ba11fabababa1mabababaDmababababadabababacb1J8+a6zaZabababababababadarababa5ka1ta-acaca"),
  (["pi", "initialpunctuation"],
    "5la7Rmacbcaza3Eiabaeacapada"),
  (["pf", "finalpunctuation"],
    "5Xa7QZadaYa3Eiabaeacapada"),
  (["po", "otherpunctuation"],
    "1bcbccababbkbdbXa2eafaobhaL+aiaEsf1ja1wacaca1mbubbbnabc2kd3ga1ln7jc1wo-a8fbka4ma3ya3zaCgama
     Bpa2Wakb5ioba3qa2keeb3pf5laJeiOfa3Yc2hb4Zcbc1ffbd9zb6yb4agbf5abkgYc3Yd1Xe1+b2ahlaQcbihiicdcc
     dkbabj34Wdbb3qa4pbeccacibbbacbkebjcdbabmccDmc1za5ZaT0cb8nc3daka3tfBYd2wb1icba1rb1pa3bmqb3Yd
     3+bqb7zaKHegcawaubcddcbdhcgabb4vcbccababbkbdbXa1eacbCWcKYa1qaC+aNha6ha-a8qi1ga3qg2cg2zdPta4ee
     1md5Zg3nbbd3+d1qb2pdeanabc2yf3la9kbbb3sekbba3ia7Ww3jcYm2ma4cc7Ya8ic4Xa2Yh2tcbe2Zj6xa2-e1kbKfb
     2km5pa13qe2RYbEJXb4fa2beiaHic9hdAhaJ5Ya7Fhe2RtaQ+b"),
  (["sm", "mathsymbol"],
    "1laqc1Zaba1naea1fa-aN+aGpc6HXana1hcnc4la1hega2eefbeacacaha-bcaba-8l1ab2Wa+y1ifEvaja1wh3paAqe
     c+kp8a4cw1+e-c8b1qucf1JUYaPyabc5eaqc1Zaba4dagd3Dbb1GBaa1Uqaza-aza-aza-aza-aza5Pmb2E+i"),
  (["sc", "currencysymbol"],
    "1ea3Zd17ja3XaFsbFsbha7va8haIfa2CXa26e1b11RwaLEda3ma4Wa6Xbdb7Vwd1GO+a2Dqa"),
  (["sk", "modifiersymbol"],
    "2+aba2hagaeadaGjdmnfgbabq3vaob18ca5Puabclcncncnb44YbTJdwjb3hbUqaobK2gqRXaba5ca1T0xe"),
  (["so", "othersymbol"],
    "5gacaeabaUra8kb3-b6oakatb7xaGdaBva4cfba4ea6pa1jaChcpabccfuababa4fhbfbbfd6fbNqjMtaMsa4Z1bBbjji
     1Cdbbdbbkabbgfbababaealboabbba1Wbjecdbbbbbgb+cbbab+8mhetcgc2qbZz1hg2hwk2r2nw5wbib1vi3ob7x1m1l
     2a7-Ga1pvbg1gc4j7ffBfb1ozb2ym6vWpeanbmavbgbAqbej1a1fjaq+lZiap-k1gp9-6Ea1-LKq1wRbdkbbaHZcKAjp
     Bnp2ab1wh1ncFeadaebnb9zi1zqccbmda1p1m1JWbIpa10ih23ga24vheqIQkdfaKAwa3Rd7pkcdDtgwpp3a3t1Y7vk1g
     c1XfcwbhZe1Yv2bda5W2w15jF-1xd1shbnbb1Mia2QYa4baMr1le3dmocobob1ex5a1yYn1leihbof4W7WfMydqdmd6z
     gleaple1xijg1hiZcleb1+Axincmdkd1ybaepclejh4sb2Xka"),
  (["zs", "spaceseparator"],
    "1aa3-a5E-a2B-k1ea1pa3Taa"),
  (["zl", "lineseparator"],
    "81ia"),
  (["zp", "paragraphseparator"],
    "81ja"),
  (["cc", "control", "cntrl"],
    "a-2-1a"),
  (["cf", "format"],
    "5na1Asfwa6aa1raCab2qa3Pla1VYeWe1rebj1NKpa7zc46bapa8Rcp123ad56phOBKga+2-"),
  (["co", "privateuse"],
    "1O0a67-S1Oa1VVZc1VVZ")]

end Outline.Unicode
