/-! Properties that a character has or has not. -/
namespace Outline.Unicode

/-- The code points with each property under its names, written as ranges. -/
def propertyTexts : List (List String × String) := [
  (["asciihexdigit", "ahex"],
    "1qjhfWf"),
  (["alphabetic", "alpha"],
    "2bzgz1pakaeafwb+bEjeloehaba2waZrbbcdbagabcbabtb2sb4ki5fb1fcag1i1hnbabbbbbaiWedZkf1xbgo3fbheh
     eckccaq1pn3ey1ajbeafxcstyhkfxbghai1jkldgg2lbpbceonsbhcbcvbgbadddhcbcbbaiaebbembkaecbfebcvbgbb
     bbbbeeebcbeahdbarflcbibcbvbgbbbedibcbbdapdvdecbhcbcvbgbbbedhcbcbjbebbenaqbbfdcbddbbabbdbdcdl
     eedcbcdaga1imbcbwbpdhbcbcibbcbbcdYdbhbcbwbjbedhbcbcibfcbdncmmbcb1ichbcbcbafdhewfbcbrdxbibacg
     ifbabhsbn1zfgga1tbbabebxbabsbccebagaod1aa1-hb1desepb1d2d1wbaceq1-kdc1fbafac1kbAmbdcgbabdc1ibd
     c1abdcgbabdcob1ybdc2c1fpq2vcfdJlcqbzf2kdkhtlumtmmbcbbm1tcsoaea2d2yh1kf2fk+bleixZcel1lez1wXe1+
     ct1saxblc1r1tbobh1t1jcdk1lbko1wwck1dckf1kcc1jdbfbbdaf5-t1bl8vcfc1fcfchbababab+c1ubgbadcbgddcf
     emfcbg3uanaqm3faeacjbadegabababdbkcdfeear1iPn1t1Ow7egddbm1fbafac1xhaqwjgbgbgbgbgbgbgbgb-1pa
     Evczihecee2vgcb2zbdf1kb2Zr-1qpGa6D-2aLKm2d1nc8mdpkbu1ofhd3q1hic3gc2ruub1ay1tm2dba1mfdabck1a
     f1cnYd1sblpaqpkeb1wjnswd2ebabayccpcdlfcfcfjgbgb1kbng3WvATdmwe1q88eBnc3j1ggmeflbmbebabbbbb3l
     1bBks1-c1v1il3ueb4g1ezgzl2ydfcfcfcc1dlbzbsbbbocn1c3W2f1u8lYd1q1p-nZf1kfZc1dehbe1k4Zs1de1de1h
     i1tmkbobgbbbkbobgbbd1tm9wjvkhyfb1jbi2ffcab1lbbdacwkwj+2bsbbkvkzgz1g1xgb2adbbfhbcbY1kYdY1dhbX
     X1vkvksnr3o2i1x1sn1sn1h1cXdafw7W1jbbdbqf1scdYkaiv1kr1ouXwj2f1lek1yjanyx1srdi1cdaj1-bdjbkaba
     1drb1bcagd1+gbabdbobjh1yxdbhcbcvbgbbbedhcbcbdagafgYjbacab1fbjbacabdbbdaba1m2bbcbduc+2bcbba
     5y1vcgzf1c1+bada1X1vca2hWcnvg5z1y3h1--hcachbbbZbbcbcd2Zhc1ncfbabbX1scjr2hfas2i3hh2y1a-ib1mbg
     ba1rZcvbn2jgbbb1ldabbbcbacbyfbbb1ebbbdbax1l8ewjqb1idc3pa2pSz3g3or6d2Im3ap11prfz3SWfIg6Lz1o
     1MrHyh+r2orZs1pqd-ufsDq1m6t1-1aycy1m2ke1yhq2abbamgj76v1j-3b3s8FZdbgbbb9cpaZccaodiCl28e3kfmdi
     hjea5Rb2ub2gbbcacbcdblbabgb2abdchbgbXbdbebadgbAtcybyb+byb+byb+byb+bybh1Pu+gf6vgbqcgbbbef1Z1ba
     3q1mkgqaAbZs1lFeX7eZca6p+bvib7agbdbbbob6e1X2ddada15udbWbbbacabjbdbabagaeabababcbbbacababababa
     bbbacdbgbdbdbabjbqfcbebqJuzgzgz3Jw19M-1a48Zc5Knc79qpJn2DcGZ1Fc4Qkf89j"),
  (["bidicontrol", "bidic"],
    "1GYa6FrbWe1xd"),
  (["bidimirrored", "bidim"],
    "1ibsabaYabaZaba1napa3J+d1QZb2CYbkb1wbob5ra6addfdadbddbdbabaeifabrfdjbbabhb-cdfajbcsfbjecbexcp
     idubhb11Zn2kacdbbbcfdfcdnCtvcfbniahfdaeebbceeabccbkfcbmsbdcabacabdfbgcyblbedbbcbe1kchb1hfaba
     defceadeba8aaGdddbbbobcj1lhDljch1JHZffb5cbsabaYabaZababbbb1LRxa1za1za1za1za"),
  (["caseignorable", "ci"],
    "1hagala1daba2haeabaeacbFx5-ebeajbba7Xg6pafa1r1mbabbbbba1malfkkba1dakuqa3fhbjbd1baba+W2Xk1Wkea
     cayx1lc1mahbfi1j1z1xabaeheadgkbnapa1WaediaubWacb1zaebebccda+bdalb1zaeebbeaubwfba1Wacabdiahblb
     +a1Zama1sada1xabcfcbdhblbZa1WacagafbubYb1zbediaubZa2iahcba2Wacgli3cacijabg2jbXababa1xnbebbfk
     b1dja3gdbfbbcbzbecqdnacbgapa2+aJacTscZb+b+b2abbgiackdafa1ne1ta2bb1ca3wcebjagc6Xbca1Wabgbabach
     gjca1hai1nclud1qabebafa1iimb1adcbbc1yabbdabc1Whcb2af2scbmbgeagadb1s1+na1c3eDZabclcncncnbmeib
     kacace1rebjbanaqm1t1a2Slb3rc3Zapa3a-1paEva1eddefa2Zf2ZcROwa17cf8oa3cdbjbaYd2qbo1b2oaxc3gddbia
     daeazbfa4xbWrna1ghzk1oc1qacdcbravb2cfcbcbmaia1dala1tabccbfbbaXaobfbba3eejc3zacaeaJPqa4tqHZpda
     mp1caca5jahagala1daba1pa1nb2davcGba7ca4ve10ffb1jbiIgcbbfd1icea5fbHZd1gaWeba9Xbya1uf2gk1rd3Xa
     1wo1jacbkc1rdcbcaeaka1sc1eebh1+amb1uikdca2-ccabbgaca4Zadhvb1zbda1fgde2gfnababaob2vhccbaxa2uf
     baebbb7odgbbbXb2vhcabb3kabacfba3fabacdbe8dibb8abbaea4qdcbea1aj1ifcdiajfcc1ombb6gabcba6jgbfba
     2svcgbbbb3Wfdabbbgba2ibdaba2ba8zblb1uefabaxa56vqgoB6ildc2Eae1XgjdFYc1ibFca1-q2abbbnbFVYdbgbb
     34+bbd4IY1ncwHacjpcg+d4uc1TX1we1riaoawebo1Aqgbqcgbbbef1Z1ba5anBqa1ZdFXe7+b7tacahbfajaEqg3nh
     2LpeO30ba+2-4a7p"),
  (["cased"],
    "2bzgz1pakaeafwb+b6cbde6pc1chb+e3aa1kdcbcdbagabcbabtb2sb4ki5fb1fj1i2Ox1fbafac1kbdLa2vcf24ckf1k
     cc2a5-2a8vcfc1fcfchbababab+c1ubgbadcbgddcfemfcbg3uanaqm3faeacjbadegabababdbfeacdfeear-dbPr1t
     1Ow7egddbm1fbafaU8s1nsZ4e3fddb2mufbcPv1kbng2pJQagme10jzgz15f2p3a1de1d3ukbobgbbbkbobgbbEdacc
     b1jbi16f1sn1s2Zvkv2OW1-LBa1-1aycyP9m2ub2gbbcacbcdblbabgb2abdchbgbXbdbebadgbAtcybyb+byb+byb+by
     b+bybh1Pujbtgf8f1Z24s2d1Vmzgzgz"),
  (["changeswhencasefolded", "cwcf"],
    "2bz2Wakwbh1aabababababababababababababababababababababababababababacababababababababbbabababa
     bababababababababababababababababababbbabababbbabbbccdbbbcdbbbbababbbacabbbcbabbdahbbbbbbaba
     babababababacababababababababacbbabcbabababababababababababababababababababababababababababa
     bahbbbcabdbabababa7wa1kabadaiagabcbabbbqbiwamcdbbababababababababababababbcbbabbc1s1qabababa
     bababababababababababababajabababababababababababababababababababababababababababbbababababa
     bacababababababababababababababababababababababababababababababababababababababababababababa
     bababac1f1qa2Oy1fbafaPkf24cjg1kccAaababababababababababababababababababababababababababababa
     babababababababababababababababababababababababababababababababababababababababababababababa
     fbcababababababababababababababababababababababababababababababababababababababababababababa
     babababajhifkhihiflabababaihq1pcccffccfldmefccf9jadbga1nptaPsz1Pq1p1qabccabababdbacaicbababa
     babababababababababababababababababababababababababababababababababababababababababababababa
     iabaeaUAnababababababababababababababababababababababatabababababababababababababa4hababababa
     babadababababababababababababababababababababababababababababababakababbbabababaeabacabadaba
     bababababababababebebabababababababdbabbbabababababababayaRW2pJQagme10jz16f1h4i1d4Ykbobgbb
     1Nk1s4Zv2PW-LCa-2ayUIh1b"),
  (["changeswhencasemapped", "cwcm"],
    "2bzgz1Wakwb+b1-b2tbXcncbbae2YbrgWbbbabbdbbdbecabbcahacabbdffakb5ga1kdcbdcbagabcbabtb1od1abe
     b4ei5fb1fk1g2Oy1fbafac1kccLa2vcf24ckf1kcc5zadaqa3r4Xcab3vcfc1fcfchbababab+c1ubgbadcbgddcfemfc
     bg9jadbgaXar-dbPr1t1Ow3qbbbbh3fhddbm1fbafaU8s1nsX4gnc1Zjodccebyb1mybQYaY2pJQagme10jzgz15f2p
     3a1de1d3ukbobgbbbkbobgbb1Md1sn1s2Zvkv2OW1-LBa1-1aycyUHm2d"),
  (["changeswhenlowercased", "cwl"],
    "2bz3fwbg1babababababababababababababababababababababababababababacabababababababacabababababa
     babababababababababababababababababbbabadbbabbbccdbbbcdbbbbababbbacabbbcbabbdahbbbbbbabababa
     babababacababababababababacbbabcbababababababababababababababababababababababababababababahb
     bbcabdbabababa9babadaiagabcbabbbqbi1daiabababababababababababafacabbc1s1qabababababababababa
     bababababababajabababababababababababababababababababababababababababbbabababababacababababa
     bababababababababababababababababababababababababababababababababababababababababababac1f
     2Qj1fbafaMs2v24tag1kccAaababababababababababababababababababababababababababababababababababa
     babababababababababababababababababababababababababababababababababababababababajabababababa
     bababababababababababababababababababababababababababababababababababababababababababajhifkh
     ihiflabababaihyhihihieleldmele9jadbga1nptaPsz1Pq1p1qabccabababdbacaicbabababababababababababa
     bababababababababababababababababababababababababababababababababababababaiabaeaUAnababababa
     babababababababababababababababababatabababababababababababababa4hababababababadababababababa
     babababababababababababababababababababababababakababbbabababaeabacabadababababababababababe
     bebabababababababdbabbbabababababababayaLPlz16f1h4i1d4Ykbobgbb1Nk1s4Zv2PW-LCa-2ayUIh1b"),
  (["changeswhentitlecased", "cwt"],
    "3bz1Wa1jxbhbabababababababababababababababababababababababababababacabababababababbbababababa
     babababababababababababababababababacababccabacadafacadccacababacaeacadabacadabaeabbbbbababa
     babababababbbababababababababcbabadabababababababababababababababababababadababababababababa
     iacbbaeababababfbbbabbdbbdbecabbcahacabbdffakb5ga1labadadcsaX1cbbdcbabababababababababababeba
     caca1u1pbababababababababababababababababajababababababababababababababababababababababababa
     babacababababababbbababababababababababababababababababababababababababababababababababababa
     bababababababababababa1r1g3Jqf24ciba7oadaqa3sabababababababababababababababababababababababa
     babababababababababababababababababababababababababababababababababababababababababababababa
     bababababgfababababababababababababababababababababababababababababababababababababababababa
     bababababababiifkhihifkhihinchihihiebbgadcbbidcbihkcbbAwa1bpeaQlz1Qg1pbadbbababagacakabababa
     babababababababababababababababababababababababababababababababababababababababababababababa
     iabaeam1fbafaU8tababababababababababababababababababababababatabababababababababababababa4ha
     babababababadababababababababababababababababababababababababababababababakabacababababaeaea
     bbcabababababababababalabababababababaeabacabababababababaWaQYaY2pJQagme11jz16n1h4i1d4Xkbobg
     bb1Od1s3Zv2PW-LCa-1XyUIo1b"),
  (["changeswhenuppercased", "cwu"],
    "3bz1Wa1jxbhbabababababababababababababababababababababababababababacabababababababbbababababa
     babababababababababababababababababacababccabacadafacadccacababacaeacadabacadabafbbbbbbababa
     bababababbbababababababababbbbbadabababababababababababababababababababadababababababababaia
     cbbaeababababfbbbabbdbbdbecabbcahacabbdffakb5ga1labadadcsaX1cbbdcbabababababababababababebaca
     ca1u1pbababababababababababababababababajabababababababababababababababababababababababababa
     bacababababababbbabababababababababababababababababababababababababababababababababababababa
     babababababababababa1r1g2Qi1kccNyf24ciba7oadaqa3sabababababababababababababababababababababa
     babababababababababababababababababababababababababababababababababababababababababababababa
     bababababababgfababababababababababababababababababababababababababababababababababababababa
     bababababababababiifkhihifkhihinc1ubbeabadcbbeaddcbihkcbbeaAra1bpeaQlz1Qg1pbadbbababagacakaba
     babababababababababababababababababababababababababababababababababababababababababababababa
     babaiabaeam1fbafaU8tababababababababababababababababababababababatabababababababababababababa
     4hababababababadababababababababababababababababababababababababababababababakabacababababaea
     eabbcabababababababababalabababababababaeabacabababababababaWaQYaY2pJQagme11jz16n1h4i1d4Xkbo
     bgbb1Od1s3Zv2PW-LCa-1XyUIo1b"),
  (["dash"],
    "1na1AYa1ta3Iba10fa20jf1Za1hapaCga30eaca-beaYaD+ata3pa1JCqb1faka5ja3Jaa9+a"),
  (["defaultignorablecodepoint", "di"],
    "5naLbaMma2Qcb1Itb2ve1VXeWe1rp47ua1J4Xp7pa5aa2pi1F5hd56phOBKf3V-"),
  (["deprecated", "dep"],
    "Aja19ja28daba21jb26ffLzbRN6wa"),
  (["diacritic", "dia"],
    "2+aba2hagaeacbFx4+bhffrbeajb7Ze6ra1x1mbabbbbba4dheb4gbebdc2dW2Xk1Wk1cb3+h1jjqX1ZaqaddYa2kaqa
     3oaqa3oaqa1pc1Yaqaha3xa3oaqa3oaqa3nbqa3Ya3pamfba3lane2lbXababaeb2ccbb1+a3qabb1ibeezgbakbMbc
     Tub+a4ukjaAXc9eauhca1qockdocl2iapa1gi1wb1Walb2cb2af2syeagacc1s1+1q1dfl1fkDZabclcncncnb37qc9Za
     FWf3jd2-aTBsambbaYb2sbo1b3gc3gagbma1fa4xaXr1zd1ea2-ama1ea4vc2bd1ta3eejc4abJPqaObp8oaba1pa1nb
     2daNYa14-fb1jbiJZcea5fbHXf1gaWeCmacc2gk1rd6aa1ja2ib3yb1+a2majc3ib5sb2qbqaygde2zcbbnb2-ada3Xb
     7Xb3+a3wb3ta8nb8cbea4Ya2tasa2raDfa8cabb2ra2baBhbxa57moB6za2Eae1XgHubHcq2qbFV+dbgbb7Ob1ncwHac
     dfihcg+d3Kc1Z6cgBxa1ZdN+bNag3ncbc"),
  (["emoji"],
    "1dagafj3paea7Snama6yawa2WfpbBpbma5gazkec6ha7hbkaja1Wdbejacacbcaeacabbcadadbicfabafllbcabbbasa
     cbsfbabbdbfacbeblbfbcafbbabbubffbdcaeacacfbacababagadagakbpacaeabaecbalb1qcjaoaoaBubEpctb1ta
     ea16WamaIzaba3FBka6ka5abmboacj2lzbbxauacivb5o1bc3pcbbcc2sccb8gb1+lfbxhbchmacdcaebnbcaibjafcmc
     iccabaeagadag2v1q2ffhcddjdabbdacj7dlea8X1objb5y3qmdkd1ybaepclej"),
  (["emojicomponent", "ecomp"],
    "1dagafj7Uta6va1N9la1SUwzFXe1DqdO1Jm2-"),
  (["emojimodifier", "emod"],
    "3SVXe"),
  (["emojimodifierbase", "ebase"],
    "9GZa6Xaqd3J3xa1Yccacc3vbckvsdaecbchabaya6jbeavaeb5ocde2taqcjalaH-acaihgajjcc1ya1Zbbbbarcbm7fc
     1ki"),
  (["emojipresentation", "epres"],
    "8OWb6nddacaGjbvb1sl1latanaibrbfbiafavahbbaeacahaebYa1dabaecba1ZcyaoaQXb1taea3H5oa6ka5+acj2lz
     bayauacebcvb5o1amib2fbvm1keemqdad2gbab5Wc1+ndbxsaWbna2w2u1q2fgadccdddlbhi7dlea8X1objb5y3qmdk
     d1ybaepclej"),
  (["extendedpictographic", "extpict"],
    "5jaea7Snama6yawa2WfpbBpbma5gazkec6ha7hbkaja1Wdbejacacbcaeacabbcadadbicfabafllbcabbbasacbsfba
     bbdbfacbeblbfbcafbbabbubffbdcaeacacfbacababagadagakbpacaeabaecbalb1qcjaoaoaBubEpctb1taea16Wa
     maIzaba3FBka1hd3elpbpaob1fj3qbmboacjt1xXokauacibdjwg5Xc3pcbbcc2sccbdf7Zb1+lfbxhbchmacdcaebnb
     caibjafcmciccabaeagadag2v1q2ffhcqdabfcm6W1fmd1yhkf1ih+bmdcnj1gm1objb5y2yho4r8aVZ"),
  (["extender", "ext"],
    "5xaGybRoaDzaJwa4ja2zaNqa3-a2Ada1yaJdaCoa2ea4Sja1le3hb2ZcROwa1FwaUcawa4ja3mavbL3Xa20qb1ElaXaea
     16ha9fa3ubFsc16paQaaJBib14YbbaobSAib15raQuc"),
  (["graphemebase", "grbase"],
    "1a2+1bmbIr3qhcfegbabtb6-h5fb1fc1rcc1oabacacajWefrjlab1nvpb3eiagbcae-cabZZ2ylao1kjgdxeajadaho
     byfabkf-q1j1z1wbabdidbchjcYbbbhcbcvbgbadddabbgbcbbanbbcexfabfebcvbgbbbbbbecydbahjccbamabibcbv
     bgbbbeddiabbdapbelhaibbhcbcvbgbbbedacagbcbpbbcerlabfdcbddbbabbdbdcdlfabbdcbcdavugcbhbcbwbpda
     ddtcbbcbejhjbkbcbwbjbedbcabbxcbbejbcokbcb1icabbfcbcbbecbjezcbbrdxbibacgjbgghjccm1pbblhim1fbba
     bebxbabjbbjacebajjcd1axcWbababnb1dsaface1rhbfbm1f1meagacbcycddpembbcfbob1hbafacBybdcgbabdc1i
     bdc1abdcgbabdcob1ybdc2cfYdzg2vcfcKYd2yhrnsdbjrombcp1tcahhbblidjgjgkfjg2yhec1bbaf2fk+edccebbf
     had1jcel1lezgkd1ycbd1xbajabbifnjgjgn2w1pkddhbYjlc-ebg1xbaccban1pibfod1Zf1kcklanahdbfbccaf5-
     2a8vcfc1fcfchbababab+c1ubobncfbsccbibkfxh1qqbcWbmd1b1+4leKzwkv1OtcBydbf1mbafac1xhbpwjgbgbgbg
     bgbgbgbg1b2Z1czb2ym6vW1zgpb2ve3ef1kb2Zb2vj1pbSJmd1wjAXu1oeak-c2pcfi6Yuqbcbdbyceejg1xi2dklym
     b1fiylamZg1pbbebcbbmbkegbyb1igbcblcbhbacjc-b1sbadbcecabayqchlfcfcfjgbgb1Xe3ubbbddjgATdmwe1q
     88eBnc3j1ggmefabxbebabbbbbKj1apqjw1cbsbdeeb4ge4Yc+dfcfcfccdgbgnbclbzbsbbbocn1c3Wfce1md2xbmda
     1p1m4dYd1qqWe1djZf1fkZb1een1k4Zcjg1de1de1hi1tllbobgbbbkbobgbbd1tm9wjvkhyfb1jbi2ffcab1lbbdacw
     b2hii1qsbbf1adWfW1g1xetc1opdbcbYkihih1-1a1eglj1vdYcWfzhdmg2q2i1x1sn1sh1jmjg1fixib6q+b1jdacbqf
     ii1h1hivliwred1gXuwjab1vpgeZbbcam1qebcbbdoyhjj1dfajri1cbcl1tjabhebbpbtlrbXdbefbb1-gbabdbobk
     g1obcnjibbhcbcvbgbbbedababdcbcbdamgYjbacab1fbabbpabbdabcbb1h1xibdabubabc+1pbbgabbbacacdij5g1o
     bbgdcacW1e1sibbacdljgmt1kbabbibgjgtYWdabbeajw5z1ojaca3e2smhcachbbbxbebbgdbcjj2ghc1jidbdXak1h
     gbehjagbd1nnacin2ihj2xadaba2y1bojgib1foabfkYd-zahaca2lgbbb1fvajjgfbbb1eebbabahjg1lej7wscdjo
     b1dibdw2wap1rnSW3g3obel6d2Im3cn11prfz3SWfIg6LzZmcdj1MgHyh+bje2qbjgZhak1phokjbgbufsDq1z6g2Wfy
     cy1m2kf1xlm2adoej76v1j-3b3s8FZdbgbbb9cpaZccaodiCl28e3kfmdihjcaca3Ra7YdDtgwpq2-3t1Y7vk1gc1Xfc
     wbhZe1Yv2bda3Wtmtm2wjy4h2ub2gbbcacbcdblbabgb2abdchbgbXbdbebadgbAtc9dcHr1xd1shbnbg13u+gf8f1Z
     4s1mkgcjebAaZs1lejfaEqXej6wZckea6a+bcbbbgcejb7agbdbbbob6eci1q2dhaejebOr2d2m1Y6cdbWbbbacabjbd
     babagaeabababcbbbacabababababbbacdbgbdbdbabjbqfcbebq1ub8o1le3dmocobob1ek5n1yYn1leihbof4WUydq
     dmd6zgleaple1xijg1hiZcleboi1hAxincmdkd1ybaepclejh4sb3g10f19M-1a48Zc5Knc79qpJn2DcGZ1Fc4Qkf89j"),
  (["graphemeextend", "grext"],
    "Oa3p8tg8h1mbabbbbba2ik1quqa3fgcfcbbd1da+W2Xk1Wijaydbibcbe1lc1Xi1kxb-1xabaeheadgkbZa1Wabacdia
     jakbWacb1zaebebccda+bdalb1zaeebbeaubwfba1Wabbbdiahckb+a1Xabamaja1iada1xabcfcbdhblbZa1Wacbbadc
     bdhblbYb1zbbacdiajakbZa2iaeaccbaia2racgmh3cacilg2jbXababa1xnbebbfkb1dja3gdbfbbcbzbecqdnacbga
     paL-cTsdYcZb+b2abbgiackja1ncba3vb1ca3wcebjagc6Xbca1Wabgbabachgjca1q1nclud1qjec1gimb1adcf1yabb
     dabe1yhcb4ycbmbgeagadb6g1-Gma6d1a2V+c4na3a-Hkf3jbTEudbj1ab2qb8qadaeazbfa4xbWrna1ghzkba1mc1qa
     cdcbca1ea2dfcbcbmaia1pa1tabccbfbba1kbia7oacaeaJPqaNbpqpBobIZa7ca4ve1Kgcbbfd1icea5fbHZd2be9Zb
     2nf2gk1rd3Xa1wo1jacbkc1rdcbha1Zc1eebh1+amb1uibaidca2-ccdgaca4Zadhvb1zbbabamajaogde2dacfbacabc
     ecbaob2vhccbaxa2racfbacabbbb7lacdgbbbXb2vhcabb3kabach3fabacdbe8dibb7vakdea4qdcbea1aj1ifcdiajf
     cc1ombb6gabcba6jgbfba2svcgbbbb3Wfdabbbgba2ibdabaAXblb1uefcxa57fagoB6ildc2Eae1Xg10ya1-d2ralb
     J5lb4Jb1ncwG+edfihcg+d4uc1TX1we1riaoawebo1Aqgbqcgbbbe3ea5agBxa1ZdFYd7+b7tacahbfaEWg3ngO5Mv2-
     4a7p"),
  (["hexdigit", "hex"],
    "1qjhfWf1VLjjhfWf"),
  (["idsbinaryoperator", "idsb"],
    "BVqbcjFra"),
  (["idstrinaryoperator", "idst"],
    "BVsb"),
  (["idcontinue", "idc"],
    "1qjhzeabz1pakabacafwb+bEjeloehabar3ubbcdbagebabtb2sb4kbec5fb1fcag1ii1mbabbbbbaiWedZkf2je3fbh
     cjbscaq1Wc3eo1veacac1nsXekfxbgh2kb4acjbsbhcbcvbgbaddcicbcdiaebbeclkabaccbfebcvbgbbbbbbcabeeb
     ccdahdbahplcbibcbvbgbbbecjbcbccapdcjjgbcbhcbcvbgbbbecicbcchcebbecjbaqbbfdcbddbbabbdbdcdleedc
     bdcagaojqmbcbwbpcibcbdhbbcbbcdcjqdbhbcbwbjbecibcbdhbfcbdcjbcmmbcb1sbcbefdhecjkfbcbrdxbibacgda
     efbabhgjcbn1zfobj1hbbabebxbabwcebabgbjcd1aaxbgjlababaejb1detbrb1dja1z2jg2nc1fbafac1kbAmbdcgba
     bdc1ibdc1abdcgbabdcob1ybdc2cccjiopq2vcfdJlcqbzf2kdkhvjvltmmbcbbm2tdaebcj1bcbkg2yh1kf2fk+blel
     k1hcel1lezgk1fXe1+bYckgjnainb+clu2mdjrim3tm1xijd1qckf1kccqcb1gfGvcfc1fcfchbababab+c1ubgbadcbg
     ddcfemfcbgpb1rbtaYanaqm1tmeadlraeacjbacfgabababpcdfeear1i2Jx7egim1fbafac1xhapxjgbgbgbgbgbgbg
     bgb-Gfczobecee2vcgb2+f1kb2Zr-1qpGa6D-2aLKm2d1nc8mdXu1pejb3s1fic3gc2ru1weat1tm2fkjgxdab1qc1dmY
     d2aokg+b1wjncjgwd2iyccpcekfcfcfjgbgb1kbng3WbbcjgATdmwe1q88eBnc3j1ggmeflbmbebabbbbb3l1bBks1-
     c1v1ilepqpdbyc1aeb4gtjhzeabzk2zdfcfcfcc1dlbzbsbbbocn1c3W2f1u4ia4cYd1qpa--nZf1kfZc1dehbe1k4Zcj
     g1de1de1hi1tmkbobgbbbkbobgbbd1tm9wjvkhyfb1jbi2ffcab1lbbdacwkwj+2bsbbkvkzgz1g1xgb2adbbfhbcbYcc
     ea1aYdY1dhbZz1vkvksnr3o2i1x1sn1sn1hijg1fdebw7W1jbbdbqf1s1ckai1a-v1kuXwj2g-pj1Xhanyhjg1ubjed
     i1dcaj2eedbmba1drb1egd1+gbabdbobjh1Wfjgdbhcbcvbgbbbebjcbcccagafgcgdeljbacab1fbjbacabdbhnbZ2k
     fjed+2fbaij5g1vcixf1c2adalj1g1yhjgtYWcoejgg5z1W3f2jvhcachbbbZbbcimj2ghc1nchbbX1+iai2jdas2i3hh
     2y1apjgib1mbipjyZcvbn2jgbbb1ldabbbiijgfbbb1ebbbfhjg1lej7wwjqb1idenk2va2pSz3g3or6d2Im3ap11pqv
     k3SWfIg6Lz1z1MgHyh+bjg2objgZcel1wjdmjjufsDq1mdj6g1-1aycy1m2ke1yhq2abbblgj76v1j-3b3s8FZdbgbb
     b9cpaZccaodiCl28e3kfmdihjdb42rjGg1ncwG+edfihcg+d4ucDX2ub2gbbcacbcdblbabgb2abdchbgbXbdbebadg
     bAtcybyb+byb+byb+byb+bybhc1rGa1we1riaoawebo12q+gf6vgbqcgbbbef1Z1ba3q1mdncjeaAb+r1zEw1j6w1k6f+
     bvib7agbdbbbob6elg1j2lej15gdbWbbbacabjbdbabagaeabababcbbbacabababababbbacdbgbdbdbabjbqfcbebq
     39uj10g19M-1a48Zc5Knc79qpJn2DcGZ1Fc4Qkf89jLJ4g7p"),
  (["idstart", "ids"],
    "2bzgz1pakaeafwb+bEjeloehaba4bebbcdbagabcbabtb2sb4ki5fb1fcag1i2hWed1n1k1dbb3cbapbhbkccaqabZZ2y
     lay1ajbeafveajadaxyhkfxbgq1j1W1vdasahjppehcbcvbgbadddaqanbbcobkaifebcvbgbbbbbb-dbatcqibcbvbg
     bbbedasapbxalhcbcvbgbbbeda+bbcparabfdcbddbbabbdbdcdlwa1uhbcbwbpdaWcbbcb+aehbcbwbjbeda+cbbpbri
     bcb1icaqafcicyffrdxbibacg1W1pbbmg1Wbbabebxbabjbbjacebavd1aa1-hb1dXe3t1kuaqfeddadbhcemmar1fba
     fac1kbAmbdcgbabdc1ibdc1abdcgbabdcob1ybdc2c1fpq2vcfdJlcqbzf2kdkhrnsorombcp1t1daea2d2yh1ibaf2f
     k+1rZcel1lez1wwj1u2sa2Z1orh1wZnbk1lW1d1jck1dckf1kcc1jdbfbbdaf5-2a8vcfc1fcfchbababab+c1ubgbadc
     bgddcfemfcbg3uanaqm3faeacjbacfgabababpcdfeear1i2Jx7egddbm1fbafac1xhaqwjgbgbgbgbgbgbgbgHgczihe
     cee2veeb2zbdf1kb2Zr-1qpGa6D-2aLKm2d1nc8mdpkbu1oq+c2p1hic3gc2ruqbcbdbwZ1to1r1+fdabblXkwzYh1oYa
     qebjkeb1ixcbhuwdad1rbadbcecabaycckhcmfcfcfjgbgb1kbng3sZATdmwe1q88eBnc3j1ggmefabjbmbebabbbbb3l
     1bBks1-c1v1il3ueb4g1ezgzl2ydfcfcfcc1dlbzbsbbbocn1c3W2f1u8lYd1q1p-nZf1fkZc1dehbe1k4Zs1de1de1h
     i1tmkbobgbbbkbobgbbd1tm9wjvkhyfb1jbi2ffcab1lbbdacwkwj+2bsbbkvkzgz1g1xgb2aapdbcbY1kYdY1dhbXX1v
     kvksnr3o2i1x1sn1sn1d1gXjw7W1jgbqf1yYkaiv1kr1ouXwm1u1zbcan1m1ayW1dZacai1cdam1podvaba1drbytb1-g
     babdbobjh1o1ghcbcvbgbbbedasame+jbacab1fbazaba1m1usduc+1pubba5y1o1jd1e1pua1X1kna2hW1fg5z1l3u1-
     -hcachbbbxpaba2+hc1gqabaYak1hhaval1ntas2i6h1a-ib1era1rZ3qgbbb1fvazfbbb-oax1l8espabmb1b3Ya2pSz
     3g3or6d2Im3ap11prfz3SWfIg6LzZ1NcHyh+r2orZs1pqd-ufsDq1m6t1-1aycy1m2kfa2cm2abbaoej76v1j-3b3s
     8FZdbgbbb9cpaZccaodiCl28e3kfmdihj5Rg2ub2gbbcacbcdblbabgb2abdchbgbXbdbebadgbAtcybyb+byb+byb+by
     b+bybh1Pu+gf8f1Z4s1mkgqaAbZs1lFeX7eZca6p+bcbbbgcejb7agbdbbbob6e1X2dha15udbWbbbacabjbdbabagaea
     bababcbbbacabababababbbacdbgbdbdbabjbqfcbebq4Ae19M-1a48Zc5Knc79qpJn2DcGZ1Fc4Qkf89j"),
  (["ideographic", "ideo"],
    "C0gbziocUf6D-2aKF-M8aBnc3jT8kanej76v1j-3b3s8RZClJ8e19M-1a48Zc5Knc79qpJn2DcGZ1Fc4Qkf89j"),
  (["joincontrol", "joinc"],
    "80mb"),
  (["logicalorderexception", "loe"],
    "3Iae3Xe2Nqcca147Wbcabb"),
  (["lowercase", "lower"],
    "3bz1pakaea1exbhbabababababababababababababababababababababababababababbbabababababababbbababa
     babababababababababababababababababababacababccabacadbeacadccacababacabbbacadabacbccgacacaba
     bababababababbbababababababababbcabadabababababababababababababababababababababababababababa
     babgcacbbaeabababab2ec1chb+e3aa1labadacdsaX1cbbdcbabababababababababababebacacb1t1pbababababa
     babababababababababababajababababababababababababababababababababababababababacababababababb
     babababababababababababababababababababababababababababababababababababababababababababababa
     baba1q1i2Qh1kbdNyf24ciba3v5-2babababababababababababababababababababababababababababababababa
     bababababababababababababababababababababababababababababababababababababababababababibababa
     babababababababababababababababababababababababababababababababababababababababababababababi
     ifkhihifkhihinchihihiebbgadcbbidcbihkcbb3zanaqm3nadbdaXaeaeacbidea1bpeaQlz1Qg1pbadbbababaeabb
     bhdababababababababababababababababababababababababababababababababababababababababababababa
     bababababbhabaeam1fbafaU8tababababababababababababababababababababababatababababababababababa
     bababc4fababababababcbababababababababababababababababababababababababababababababjbabacababa
     babaeabacabcbabababababababababafafabababababababaeabacabababababababavdbabcPv1kbng2pJQagme
     11jz16n1h4i1d4XkbobgbbEdaccb1jbi18f1s3Zv2PW-LCa-1XyPAgzWgbrWzWdbabgbkWzWzWzWzWzWzWzWzWXYybfWy
     bfWybfWybfWybfba1Pujbtgf8f1Z25u1b"),
  (["math"],
    "1laqc-aZaba1naea1fa-aMyccaWbccGpc6GnaXcladanaodvele2bmeadbeesaeacjbacfgadbcbbcbfdnba2exbfbbeb
     e-bagbo8lidub2Wa+WbayalgDZbmjefebcbdeoabacflhfb1zabaZdjcAq1-8aF-1qucf1JUYaPxfba5caqcZabaZaba
     4dagd3Dbb1GBaa18p2ub2gbbcacbcdblbabgb2abdchbgbXbdbebadgbAtc9dc1r5GadbWbbbacabjbdbabagaeababa
     bcbbbacabababababbbacdbgbdbdbabjbqfcbebq1ub2E+i"),
  (["noncharactercodepoint", "nchar"],
    "1VEq-Gob1VV+b1VV+b1VV+b1VV+b1VV+b1VV+b1VV+b1VV+b1VV+b1VV+b1VV+b1VV+b1VV+b1VV+b1VV+b1VV+b"),
  (["patternsyntax", "patsyn"],
    "1bokgWdbaWd1cgbabbbabbeaeadaxa-a7Oyxiocsbj9rMp5aJv+13lGa3-Cbceypa1J8nb8fb"),
  (["patternwhitespace", "patws"],
    "jesa3ea7Sibyb"),
  (["quotationmark", "qmark"],
    "1caea4dapa7QYhzb3GhaEjdnc1JHbd5Zaea2Wb"),
  (["radical"],
    "BKazb2ym6v"),
  (["regionalindicator", "ri"],
    "3SFgz"),
  (["sentenceterminal", "sterm"],
    "1bamaqa1Aja4tc5ua1lc7wa1Zabadb9fb1NebOwaebOfa6gb4Zb1nafa9WbBcd5cbkbcbZc5Xb2bbTeaxbjc35pc9sana
     wbDnaT7Ya8ob7dadaB+b2wb2-a4yb4tc4qb7zaKHgacb1Xadb5jamaqa2ba2Nub17Ze1md5Zb3vd3-c4bbgaqb2ybbb
     3ma9kb3vbBvbfo3jb7zcGfaba7Xb2xbDebLub2kbIPjb4fa2bblaHjb9iaJGga7Fia"),
  (["softdotted", "sd"],
    "3jb6ea8za+a1uauaAaa3caba68ja1tanada4ea4ZaDfa6wb2Psa39Tfb1sb1sb1sb1sb1sb1sb1sb1sb1sb1sb1sb1sb
     24ga9rbWa"),
  (["terminalpunctuation", "term"],
    "1bakabalbdaP+aiaGba1za2iaoabc5ua1lkba7lb1wfbh-a8fb17ub5maef9xbOvhOfa3Yc2hb4Zcda1hdcb9WbBcd5cb
     kbbcZc5Xe1+bTeaxbjc35pc9sanaeakabbdbDmbT7Xb8nc7deB+b2wb2-a4xc4tc3-aqb7zaKHgacb1zcbd5jakabalb
     da2baca11Wa1qa14ga6ha9wb4yf2ef2zdTye1md5Zg3qd3-c4bbgaqb2ye3ma9kb3vcmbBgddo3jb7zcGfaba7Xb2xbeb
     C+c1naKfb2kb19leHFzb4fa2bckaHjb9hbJGga7Fhd"),
  (["unifiedideograph", "uideo"],
    "D0a6D-2aKF-MGobbabbkababbcc21Ew19M-1a48Zc5Knc79qpJn4Dc4Qkf89j"),
  (["uppercase", "upper"],
    "2bz3fwbg1babababababababababababababababababababababababababababacabababababababacabababababa
     babababababababababababababababababbbabadbbabbbccdbbbcdbbbbababbbacabbbcbabbdahacacacabababa
     babababacababababababababacacabcbababababababababababababababababababababababababababababahb
     bbcabdbabababa9babadaiagabcbabbbqbi1daccdabababababababababababafacabbc1s1qababababababababa
     babababababababajabababababababababababababababababababababababababababbbabababababacabababa
     babababababababababababababababababababababababababababababababababababababababababababac1f
     2Qj1fbafaMs2v24tag1kccAaababababababababababababababababababababababababababababababababababa
     babababababababababababababababababababababababababababababababababababababababajabababababa
     bababababababababababababababababababababababababababababababababababababababababababajhifkh
     ihiflabababaih2idmdmdmeld8gaeadccccadegabababdcdkbfaWptaPsz1Pq1p1qabccabababdbacaicbababababa
     babababababababababababababababababababababababababababababababababababababababababababaiaba
     eaUAnababababababababababababababababababababababatabababababababababababababa4hababababababa
     dababababababababababababababababababababababababababababababakababbbabababaeabacabadabababa
     bababababababebebabababababababdbabbbabababababababayaLPlz16f1h4i1d4Ykbobgbb1Nk1s4Zv2PW-LCa-
     2ayPAhzWzWzWabbcacbcdbhWzWbbdchbgXbbdbebadgXzWzWzWzWzWz+y1by1by1by1by1ba49v1b20ozgzgz"),
  (["variationselector", "vs"],
    "60lcba1PFqpQ0Nq7p"),
  (["whitespace", "wspace", "space"],
    "jesa3eaWa5E-a2B-kZbfa1pa3Taa"),
  (["xidcontinue", "xidc"],
    "1qjhzeabz1pakabacafwb+bEjeloehabar3ubbdcbagebabtb2sb4kbec5fb1fcag1ii1mbabbbbbaiWedZkf2je3fbh
     cjbscaq1Wc3eo1veacac1nsXekfxbgh2kb4acjbsbhcbcvbgbaddcicbcdiaebbeclkabaccbfebcvbgbbbbbbcabeeb
     ccdahdbahplcbibcbvbgbbbecjbcbccapdcjjgbcbhcbcvbgbbbecicbcchcebbecjbaqbbfdcbddbbabbdbdcdleedc
     bdcagaojqmbcbwbpcibcbdhbbcbbcdcjqdbhbcbwbjbecibcbdhbfcbdcjbcmmbcb1sbcbefdhecjkfbcbrdxbibacgda
     efbabhgjcbn1zfobj1hbbabebxbabwcebabgbjcd1aaxbgjlababaejb1detbrb1dja1z2jg2nc1fbafac1kbAmbdcgba
     bdc1ibdc1abdcgbabdcob1ybdc2cccjiopq2vcfdJlcqbzf2kdkhvjvltmmbcbbm2tdaebcj1bcbkg2yh1kf2fk+blel
     k1hcel1lezgk1fXe1+bYckgjnainb+clu2mdjrim3tm1xijd1qckf1kccqcb1gfGvcfc1fcfchbababab+c1ubgbadcbg
     ddcfemfcbgpb1rbtaYanaqm1tmeadlraeacjbacfgabababpcdfeear1i2Jx7egim1fbafac1xhapxjgbgbgbgbgbgbg
     bgb-Gfczobecee2vcbccb2+f1kb2Zr-1qpGa6D-2aLKm2d1nc8mdXu1pejb3s1fic3gc2ru1weat1tm2fkjgxdab1qc1d
     mYd2aokg+b1wjncjgwd2iyccpcekfcfcfjgbgb1kbng3WbbcjgATdmwe1q88eBnc3j1ggmeflbmbebabbbbb3l1b4kg6z
     s1-c1v1ijgpqpdbyc1babadabababab3Ztjhzeabzk2zdfcfcfcc1dlbzbsbbbocn1c3W2f1u4ia4cYd1qpa--nZf1kfZ
     c1dehbe1k4Zcjg1de1de1hi1tmkbobgbbbkbobgbbd1tm9wjvkhyfb1jbi2ffcab1lbbdacwkwj+2bsbbkvkzgz1g1xgb
     2adbbfhbcbYccea1aYdY1dhbZz1vkvksnr3o2i1x1sn1sn1hijg1fdebw7W1jbbdbqf1s1ckai1a-v1kuXwj2g-pj1Xha
     nyhjg1ubjedi1dcaj2eedbmba1drb1egd1+gbabdbobjh1Wfjgdbhcbcvbgbbbebjcbcccagafgcgdeljbacab1fbjba
     cabdbhnbZ2kfjed+2fbaij5g1vcixf1c2adalj1g1yhjgtYWcoejgg5z1W3f2jvhcachbbbZbbcimj2ghc1nchbbX1+ia
     i2jdas2i3hh2y1apjgib1mbipjyZcvbn2jgbbb1ldabbbiijgfbbb1ebbbfhjg1lej7wwjqb1idenk2va2pSz3g3or6d
     2Im3ap11pqvk3SWfIg6Lz1z1MgHyh+bjg2objgZcel1wjdmjjufsDq1mdj6g1-1aycy1m2ke1yhq2abbblgj76v1j-
     3b3s8FZdbgbbb9cpaZccaodiCl28e3kfmdihjdb42rjGg1ncwG+edfihcg+d4ucDX2ub2gbbcacbcdblbabgb2abdchbg
     bXbdbebadgbAtcybyb+byb+byb+byb+bybhc1rGa1we1riaoawebo12q+gf6vgbqcgbbbef1Z1ba3q1mdncjeaAb+r1z
     Ew1j6w1k6f+bvib7agbdbbbob6elg1j2lej15gdbWbbbacabjbdbabagaeabababcbbbacabababababbbacdbgbdbdba
     bjbqfcbebq39uj10g19M-1a48Zc5Knc79qpJn2DcGZ1Fc4Qkf89jLJ4g7p"),
  (["xidstart", "xids"],
    "2bzgz1pakaeafwb+bEjeloehaba4bebbdcbagabcbabtb2sb4ki5fb1fcag1i2hWed1n1k1dbb3cbapbhbkccaqabZZ2y
     lay1ajbeafveajadaxyhkfxbgq1j1W1vdasahjppehcbcvbgbadddaqanbbcobkaifebcvbgbbbbbb-dbatcqibcbvbg
     bbbedasapbxalhcbcvbgbbbeda+bbcparabfdcbddbbabbdbdcdlwa1uhbcbwbpdaWcbbcb+aehbcbwbjbeda+cbbpbri
     bcb1icaqafcicyffrdxbibacg1W1pbang1Wbbabebxbabjbakacebavd1aa1-hb1dXe3t1kuaqfeddadbhcemmar1fba
     fac1kbAmbdcgbabdc1ibdc1abdcgbabdcob1ybdc2c1fpq2vcfdJlcqbzf2kdkhrnsorombcp1t1daea2d2yh1ibaf2f
     k+1rZcel1lez1wwj1u2sa2Z1orh1wZnbk1lW1d1jck1dckf1kcc1jdbfbbdaf5-2a8vcfc1fcfchbababab+c1ubgbadc
     bgddcfemfcbg3uanaqm3faeacjbacfgabababpcdfeear1i2Jx7egddbm1fbafac1xhaqwjgbgbgbgbgbgbgbgHgczihe
     cee2vgcb2zbdf1kb2Zr-1qpGa6D-2aLKm2d1nc8mdpkbu1oq+c2p1hic3gc2ruqbcbdbwZ1to1r1+fdabblXkwzYh1oYa
     qebjkeb1ixcbhuwdad1rbadbcecabaycckhcmfcfcfjgbgb1kbng3sZATdmwe1q88eBnc3j1ggmefabjbmbebabbbbb3l
     1b4kg6zs1-c1v1ij3xabadabababab3Z1ezgzl1xc+dfcfcfcc1dlbzbsbbbocn1c3W2f1u8lYd1q1p-nZf1fkZc1deh
     be1k4Zs1de1de1hi1tmkbobgbbbkbobgbbd1tm9wjvkhyfb1jbi2ffcab1lbbdacwkwj+2bsbbkvkzgz1g1xgb2aapdbc
     bY1kYdY1dhbXX1vkvksnr3o2i1x1sn1sn1d1gXjw7W1jgbqf1yYkaiv1kr1ouXwm1u1zbcan1m1ayW1dZacai1cdam1p
     odvaba1drbytb1-gbabdbobjh1o1ghcbcvbgbbbedasame+jbacab1fbazaba1m1usduc+1pubba5y1o1jd1e1pua1X1k
     na2hW1fg5z1l3u1--hcachbbbxpaba2+hc1gqabaYak1hhaval1ntas2i6h1a-ib1era1rZ3qgbbb1fvazfbbb-oax1l
     8espabmb1b3Ya2pSz3g3or6d2Im3ap11prfz3SWfIg6LzZ1NcHyh+r2orZs1pqd-ufsDq1m6t1-1aycy1m2kfa2cm2ab
     baoej76v1j-3b3s8FZdbgbbb9cpaZccaodiCl28e3kfmdihj5Rg2ub2gbbcacbcdblbabgb2abdchbgbXbdbebadgbAt
     cybyb+byb+byb+byb+bybh1Pu+gf8f1Z4s1mkgqaAbZs1lFeX7eZca6p+bcbbbgcejb7agbdbbbob6e1X2dha15udbWbb
     bacabjbdbabagaeabababcbbbacabababababbbacdbgbdbdbabjbqfcbebq4Ae19M-1a48Zc5Knc79qpJn2DcGZ
     1Fc4Qkf89j")]

end Outline.Unicode
