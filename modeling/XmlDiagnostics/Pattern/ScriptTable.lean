/-! # Scripts

The tables of the scripts that characters belong to. -/

namespace XmlDiagnostics.CharTable

/-- The scripts, by their codes and names. -/
def scriptNames : List String := [
  "Adlm:adlam Aghb:caucasianalbanian Ahom:ahom Arab:arabic Armi:imperialaramaic Armn:armenian",
  "Avst:avestan Bali:balinese Bamu:bamum Bass:bassavah Batk:batak Beng:bengali Bhks:bhaiksuki",
  "Bopo:bopomofo Brah:brahmi Brai:braille Bugi:buginese Buhd:buhid Cakm:chakma Cans:canadianaboriginal",
  "Cari:carian Cham:cham Cher:cherokee Chrs:chorasmian Copt:coptic Cpmn:cyprominoan Cprt:cypriot",
  "Cyrl:cyrillic Deva:devanagari Diak:divesakuru Dogr:dogra Dsrt:deseret Dupl:duployan",
  "Egyp:egyptianhieroglyphs Elba:elbasan Elym:elymaic Ethi:ethiopic Gara:garay Geor:georgian",
  "Glag:glagolitic Gong:gunjalagondi Gonm:masaramgondi Goth:gothic Gran:grantha Grek:greek Gujr:gujarati",
  "Gukh:gurungkhema Guru:gurmukhi Hang:hangul Hani:han Hano:hanunoo Hatr:hatran Hebr:hebrew Hira:hiragana",
  "Hluw:anatolianhieroglyphs Hmng:pahawhhmong Hmnp:nyiakengpuachuehmong Hung:oldhungarian Ital:olditalic",
  "Java:javanese Kali:kayahli Kana:katakana Kawi:kawi Khar:kharoshthi Khmr:khmer Khoj:khojki",
  "Kits:khitansmallscript Knda:kannada Krai:kiratrai Kthi:kaithi Lana:taitham Laoo:lao Latn:latin",
  "Lepc:lepcha Limb:limbu Lina:lineara Linb:linearb Lisu:lisu Lyci:lycian Lydi:lydian Mahj:mahajani",
  "Maka:makasar Mand:mandaic Mani:manichaean Marc:marchen Medf:medefaidrin Mend:mendekikakui",
  "Merc:meroiticcursive Mero:meroitichieroglyphs Mlym:malayalam Modi:modi Mong:mongolian Mroo:mro",
  "Mtei:meeteimayek Mult:multani Mymr:myanmar Nagm:nagmundari Nand:nandinagari Narb:oldnortharabian",
  "Nbat:nabataean Newa:newa Nkoo:nko Nshu:nushu Ogam:ogham Olck:olchiki Onao:olonal Orkh:oldturkic",
  "Orya:oriya Osge:osage Osma:osmanya Ougr:olduyghur Palm:palmyrene Pauc:paucinhau Perm:oldpermic",
  "Phag:phagspa Phli:inscriptionalpahlavi Phlp:psalterpahlavi Phnx:phoenician Plrd:miao",
  "Prti:inscriptionalparthian Rjng:rejang Rohg:hanifirohingya Runr:runic Samr:samaritan",
  "Sarb:oldsoutharabian Saur:saurashtra Sgnw:signwriting Shaw:shavian Shrd:sharada Sidd:siddham",
  "Sind:khudawadi Sinh:sinhala Sogd:sogdian Sogo:oldsogdian Sora:sorasompeng Soyo:soyombo Sund:sundanese",
  "Sunu:sunuwar Sylo:sylotinagri Syrc:syriac Tagb:tagbanwa Takr:takri Tale:taile Talu:newtailue",
  "Taml:tamil Tang:tangut Tavt:taiviet Telu:telugu Tfng:tifinagh Tglg:tagalog Thaa:thaana Thai:thai",
  "Tibt:tibetan Tirh:tirhuta Tnsa:tangsa Todr:todhri Toto:toto Tutg:tulutigalari Ugar:ugaritic Vaii:vai",
  "Vith:vithkuqi Wara:warangciti Wcho:wancho Xpeo:oldpersian Xsux:cuneiform Yezi:yezidi Yiii:yi",
  "Zanb:zanabazarsquare Zinh:inherited Zyyy:common"]

/-- Where the characters of a script begin, by number, as far as there are characters. -/
def scriptRows : List String := [
  "0Zyyy 41Latn 5bZyyy 61Latn 7bZyyy aaLatn abZyyy baLatn bbZyyy c0Latn d7Zyyy d8Latn f7Zyyy f8Latn",
  "2b9Zyyy 2e0Latn 2e5Zyyy 2eaBopo 2ecZyyy 300Zinh 370Grek 374Zyyy 375Grek 37eZyyy 37fGrek 385Zyyy",
  "386Grek 387Zyyy 388Grek 3e2Copt 3f0Grek 400Cyrl 485Zinh 487Cyrl 531Armn 591Hebr 600Arab 605Zyyy",
  "606Arab 60cZyyy 60dArab 61bZyyy 61cArab 61fZyyy 620Arab 640Zyyy 641Arab 64bZinh 656Arab 670Zinh",
  "671Arab 6ddZyyy 6deArab 700Syrc 750Arab 780Thaa 7c0Nkoo 800Samr 840Mand 860Syrc 870Arab 8e2Zyyy",
  "8e3Arab 900Deva 951Zinh 955Deva 964Zyyy 966Deva 980Beng a01Guru a81Gujr b01Orya b82Taml c00Telu",
  "c80Knda d00Mlym d81Sinh e01Thai e3fZyyy e40Thai e81Laoo f00Tibt fd5Zyyy fd9Tibt 1000Mymr 10a0Geor",
  "10fbZyyy 10fcGeor 1100Hang 1200Ethi 13a0Cher 1400Cans 1680Ogam 16a0Runr 16ebZyyy 16eeRunr 1700Tglg",
  "1720Hano 1735Zyyy 1740Buhd 1760Tagb 1780Khmr 1800Mong 1802Zyyy 1804Mong 1805Zyyy 1806Mong 18b0Cans",
  "1900Limb 1950Tale 1980Talu 19e0Khmr 1a00Bugi 1a20Lana 1ab0Zinh 1b00Bali 1b80Sund 1bc0Batk 1c00Lepc",
  "1c50Olck 1c80Cyrl 1c90Geor 1cc0Sund 1cd0Zinh 1cd3Zyyy 1cd4Zinh 1ce1Zyyy 1ce2Zinh 1ce9Zyyy 1cedZinh",
  "1ceeZyyy 1cf4Zinh 1cf5Zyyy 1cf8Zinh 1cfaZyyy 1d00Latn 1d26Grek 1d2bCyrl 1d2cLatn 1d5dGrek 1d62Latn",
  "1d66Grek 1d6bLatn 1d78Cyrl 1d79Latn 1dbfGrek 1dc0Zinh 1e00Latn 1f00Grek 2000Zyyy 200cZinh 200eZyyy",
  "2071Latn 2074Zyyy 207fLatn 2080Zyyy 2090Latn 20a0Zyyy 20d0Zinh 2100Zyyy 2126Grek 2127Zyyy 212aLatn",
  "212cZyyy 2132Latn 2133Zyyy 214eLatn 214fZyyy 2160Latn 2189Zyyy 2800Brai 2900Zyyy 2c00Glag 2c60Latn",
  "2c80Copt 2d00Geor 2d30Tfng 2d80Ethi 2de0Cyrl 2e00Zyyy 2e80Hani 2ff0Zyyy 3005Hani 3006Zyyy 3007Hani",
  "3008Zyyy 3021Hani 302aZinh 302eHang 3030Zyyy 3038Hani 303cZyyy 3041Hira 3099Zinh 309bZyyy 309dHira",
  "30a0Zyyy 30a1Kana 30fbZyyy 30fdKana 3105Bopo 3131Hang 3190Zyyy 31a0Bopo 31c0Zyyy 31f0Kana 3200Hang",
  "3220Zyyy 3260Hang 327fZyyy 32d0Kana 32ffZyyy 3300Kana 3358Zyyy 3400Hani 4dc0Zyyy 4e00Hani a000Yiii",
  "a4d0Lisu a500Vaii a640Cyrl a6a0Bamu a700Zyyy a722Latn a788Zyyy a78bLatn a800Sylo a830Zyyy a840Phag",
  "a880Saur a8e0Deva a900Kali a92eZyyy a92fKali a930Rjng a960Hang a980Java a9cfZyyy a9d0Java a9e0Mymr",
  "aa00Cham aa60Mymr aa80Tavt aae0Mtei ab01Ethi ab30Latn ab5bZyyy ab5cLatn ab65Grek ab66Latn ab6aZyyy",
  "ab70Cher abc0Mtei ac00Hang d800Zzzz f900Hani fb00Latn fb13Armn fb1dHebr fb50Arab fd3eZyyy fd40Arab",
  "fe00Zinh fe10Zyyy fe20Zinh fe2eCyrl fe30Zyyy fe70Arab feffZyyy ff21Latn ff3bZyyy ff41Latn ff5bZyyy",
  "ff66Kana ff70Zyyy ff71Kana ff9eZyyy ffa0Hang ffe0Zyyy 10000Linb 10100Zyyy 10140Grek 10190Zyyy",
  "101a0Grek 101d0Zyyy 101fdZinh 10280Lyci 102a0Cari 102e0Zinh 102e1Zyyy 10300Ital 10330Goth 10350Perm",
  "10380Ugar 103a0Xpeo 10400Dsrt 10450Shaw 10480Osma 104b0Osge 10500Elba 10530Aghb 10570Vith 105c0Todr",
  "10600Lina 10780Latn 10800Cprt 10840Armi 10860Palm 10880Nbat 108e0Hatr 10900Phnx 10920Lydi 10980Mero",
  "109a0Merc 10a00Khar 10a60Sarb 10a80Narb 10ac0Mani 10b00Avst 10b40Prti 10b60Phli 10b80Phlp 10c00Orkh",
  "10c80Hung 10d00Rohg 10d40Gara 10e60Arab 10e80Yezi 10ec2Arab 10f00Sogo 10f30Sogd 10f70Ougr 10fb0Chrs",
  "10fe0Elym 11000Brah 11080Kthi 110d0Sora 11100Cakm 11150Mahj 11180Shrd 111e1Sinh 11200Khoj 11280Mult",
  "112b0Sind 11300Gran 1133bZinh 1133cGran 11380Tutg 11400Newa 11480Tirh 11580Sidd 11600Modi 11660Mong",
  "11680Takr 116d0Mymr 11700Ahom 11800Dogr 118a0Wara 11900Diak 119a0Nand 11a00Zanb 11a50Soyo 11ab0Cans",
  "11ac0Pauc 11b00Deva 11bc0Sunu 11c00Bhks 11c70Marc 11d00Gonm 11d60Gong 11ee0Maka 11f00Kawi 11fb0Lisu",
  "11fc0Taml 12000Xsux 12f90Cpmn 13000Egyp 14400Hluw 16100Gukh 16800Bamu 16a40Mroo 16a70Tnsa 16ad0Bass",
  "16b00Hmng 16d40Krai 16e40Medf 16f00Plrd 16fe0Tang 16fe1Nshu 16fe2Hani 16fe4Kits 16ff0Hani 17000Tang",
  "18b00Kits 18d00Tang 1aff0Kana 1b001Hira 1b120Kana 1b132Hira 1b155Kana 1b170Nshu 1bc00Dupl 1bca0Zyyy",
  "1cf00Zinh 1cf50Zyyy 1d167Zinh 1d16aZyyy 1d17bZinh 1d183Zyyy 1d185Zinh 1d18cZyyy 1d1aaZinh 1d1aeZyyy",
  "1d200Grek 1d2c0Zyyy 1d800Sgnw 1df00Latn 1e000Glag 1e030Cyrl 1e100Hmnp 1e290Toto 1e2c0Wcho 1e4d0Nagm",
  "1e5d0Onao 1e7e0Ethi 1e800Mend 1e900Adlm 1ec71Zyyy 1ee00Arab 1f000Zyyy 1f200Hira 1f201Zyyy 20000Hani",
  "e0001Zyyy e0100Zinh f0000Zzzz"]

/-- Characters that are used in other scripts than their own, with the codes of all of them. -/
def sharedRows : List String := [
  "b7:Avst,Cari,Copt,Dupl,Elba,Geor,Glag,Gong,Goth,Grek,Hani,Latn,Lydi,Mahj,Perm,Shaw",
  "2bc:Beng,Cyrl,Deva,Latn,Lisu,Thai,Toto 2c7:Bopo,Latn 2c9-2cb:Bopo,Latn 2cd:Latn,Lisu 2d7:Latn,Thai",
  "2d9:Bopo,Latn 300:Cher,Copt,Cyrl,Grek,Latn,Perm,Sunu,Tale 301:Cher,Cyrl,Grek,Latn,Osge,Sunu,Tale,Todr",
  "302:Cher,Cyrl,Latn,Tfng 303:Glag,Latn,Sunu,Syrc,Thai",
  "304:Aghb,Cher,Copt,Cyrl,Goth,Grek,Latn,Osge,Syrc,Tfng,Todr 305:Copt,Elba,Glag,Goth,Kana,Latn",
  "306:Cyrl,Grek,Latn,Perm,Tfng 307:Copt,Dupl,Hebr,Latn,Perm,Syrc,Tale,Tfng,Todr",
  "308:Armn,Cyrl,Dupl,Goth,Grek,Hebr,Latn,Perm,Syrc,Tale,Tfng 309:Latn,Tfng 30a:Dupl,Latn,Syrc",
  "30b:Cher,Cyrl,Latn,Osge 30c:Cher,Latn,Tale 30d:Latn,Sunu 30e:Ethi,Latn 310:Latn,Sunu",
  "311:Cyrl,Latn,Todr 313:Grek,Latn,Perm,Todr 323:Cher,Dupl,Kana,Latn,Syrc,Tfng 324:Cher,Dupl,Latn,Syrc",
  "325:Latn,Syrc 32d:Latn,Sunu,Syrc 32e:Latn,Syrc 330:Cher,Latn,Syrc",
  "331:Aghb,Cher,Goth,Latn,Sunu,Syrc,Thai 342:Grek 345:Grek 358:Latn,Osge 35e:Aghb,Latn,Todr 363-36f:Latn",
  "374-375:Copt,Grek 483:Cyrl,Perm 484:Cyrl,Glag 485-486:Cyrl,Latn 487:Cyrl,Glag 589:Armn,Geor,Glag",
  "60c:Arab,Gara,Nkoo,Rohg,Syrc,Thaa,Yezi 61b:Arab,Gara,Nkoo,Rohg,Syrc,Thaa,Yezi 61c:Arab,Syrc,Thaa",
  "61f:Adlm,Arab,Gara,Nkoo,Rohg,Syrc,Thaa,Yezi 640:Adlm,Arab,Mand,Mani,Ougr,Phlp,Rohg,Sogd,Syrc",
  "64b-655:Arab,Syrc 660-669:Arab,Thaa,Yezi 670:Arab,Syrc 6d4:Arab,Rohg",
  "951:Beng,Deva,Gran,Gujr,Guru,Knda,Latn,Mlym,Nand,Newa,Orya,Shrd,Taml,Telu,Tirh",
  "952:Beng,Deva,Gran,Gujr,Guru,Knda,Latn,Mlym,Newa,Orya,Taml,Telu,Tirh",
  "964:Beng,Deva,Dogr,Gong,Gonm,Gran,Gujr,Guru,Knda,Mahj,Mlym,Nand,Onao,Orya,Sind,Sinh,Sylo,Takr,Taml,Telu,Tirh",
  "965:Beng,Deva,Dogr,Gong,Gonm,Gran,Gujr,Gukh,Guru,Knda,Limb,Mahj,Mlym,Nand,Onao,Orya,Sind,Sinh,Sylo,Takr,Taml,Telu,Tirh",
  "966-96f:Deva,Dogr,Kthi,Mahj 9e6-9ef:Beng,Cakm,Sylo a66-a6f:Guru,Mult ae6-aef:Gujr,Khoj",
  "be6-bf3:Gran,Taml ce6-cef:Knda,Nand,Tutg 1040-1049:Cakm,Mymr,Tale 10fb:Geor,Glag,Latn 16eb-16ed:Runr",
  "1735-1736:Buhd,Hano,Tagb,Tglg 1802-1803:Mong,Phag 1805:Mong,Phag 1cd0:Beng,Deva,Gran,Knda 1cd1:Deva",
  "1cd2:Beng,Deva,Gran,Knda 1cd3:Deva,Gran,Knda 1cd4:Deva 1cd5:Beng,Deva,Newa,Telu,Tirh",
  "1cd6:Beng,Deva,Telu 1cd7:Deva,Newa,Shrd 1cd8:Beng,Deva,Newa,Telu 1cd9:Deva,Shrd",
  "1cda:Deva,Knda,Mlym,Orya,Taml,Telu 1cdb:Deva 1cdc-1cdd:Deva,Shrd 1cde-1cdf:Deva 1ce0:Deva,Shrd",
  "1ce1:Beng,Deva 1ce2:Deva,Newa,Tirh 1ce3-1ce8:Deva 1ce9:Deva,Nand,Newa 1cea:Beng,Deva,Shrd",
  "1ceb:Deva,Newa 1cec:Deva 1ced:Beng,Deva,Newa,Shrd 1cee-1cf1:Deva",
  "1cf2:Beng,Deva,Gran,Knda,Mlym,Nand,Orya,Sinh,Telu,Tirh,Tutg 1cf3:Deva,Gran 1cf4:Deva,Gran,Knda,Tutg",
  "1cf5-1cf6:Beng,Deva 1cf7:Beng 1cf8-1cf9:Deva,Gran 1cfa:Nand 1dc0-1dc1:Grek 1df8:Cyrl,Latn,Syrc",
  "1dfa:Syrc 202f:Latn,Mong,Phag 204f:Adlm,Arab 205a:Cari,Geor,Glag,Hung,Lyci,Orkh",
  "205d:Cari,Grek,Hung,Mero 20f0:Deva,Gran,Latn 2e17:Copt,Latn 2e30:Avst,Orkh",
  "2e31:Avst,Cari,Geor,Hung,Kthi,Lydi,Samr 2e3c:Dupl 2e41:Adlm,Arab,Hung 2e43:Cyrl,Glag",
  "2ff0-2fff:Hani,Tang 3001:Bopo,Hang,Hani,Hira,Kana,Mong,Yiii",
  "3002:Bopo,Hang,Hani,Hira,Kana,Mong,Phag,Yiii 3003:Bopo,Hang,Hani,Hira,Kana 3006:Hani",
  "3008-3009:Bopo,Hang,Hani,Hira,Kana,Mong,Tibt,Yiii",
  "300a-300b:Bopo,Hang,Hani,Hira,Kana,Lisu,Mong,Tibt,Yiii 300c-3011:Bopo,Hang,Hani,Hira,Kana,Yiii",
  "3013:Bopo,Hang,Hani,Hira,Kana 3014-301b:Bopo,Hang,Hani,Hira,Kana,Yiii",
  "301c-301f:Bopo,Hang,Hani,Hira,Kana 302a-302d:Bopo,Hani 3030:Bopo,Hang,Hani,Hira,Kana",
  "3031-3035:Hira,Kana 3037:Bopo,Hang,Hani,Hira,Kana 303c-303d:Hani,Hira,Kana 303e-303f:Hani",
  "3099-309c:Hira,Kana 30a0:Hira,Kana 30fb:Bopo,Hang,Hani,Hira,Kana,Yiii 30fc:Hira,Kana 3190-319f:Hani",
  "31c0-31e5:Hani 31ef:Hani,Tang 3220-3247:Hani 3280-32b0:Hani 32c0-32cb:Hani 32ff:Hani 3358-3370:Hani",
  "337b-337f:Hani 33e0-33fe:Hani a66f:Cyrl,Glag a700-a707:Hani,Latn",
  "a830-a832:Deva,Dogr,Gujr,Guru,Khoj,Knda,Kthi,Mahj,Mlym,Modi,Nand,Shrd,Sind,Takr,Tirh,Tutg",
  "a833-a835:Deva,Dogr,Gujr,Guru,Khoj,Knda,Kthi,Mahj,Modi,Nand,Shrd,Sind,Takr,Tirh,Tutg",
  "a836-a837:Deva,Dogr,Gujr,Guru,Khoj,Kthi,Mahj,Modi,Sind,Takr,Tirh",
  "a838:Deva,Dogr,Gujr,Guru,Khoj,Kthi,Mahj,Modi,Shrd,Sind,Takr,Tirh",
  "a839:Deva,Dogr,Gujr,Guru,Khoj,Kthi,Mahj,Modi,Sind,Takr,Tirh a8f1:Beng,Deva,Tutg a8f3:Deva,Taml",
  "a92e:Kali,Latn,Mymr a9cf:Bugi,Java fd3e-fd3f:Arab,Nkoo fdf2:Arab,Thaa fdfd:Arab,Thaa",
  "fe45-fe46:Bopo,Hang,Hani,Hira,Kana ff61-ff65:Bopo,Hang,Hani,Hira,Kana,Yiii ff70:Hira,Kana",
  "ff9e-ff9f:Hira,Kana 10100-10101:Cpmn,Cprt,Linb 10102:Cprt,Linb 10107-10133:Cprt,Lina,Linb",
  "10137-1013f:Cprt,Linb 102e0-102fb:Arab,Copt 10af2:Mani,Ougr 11301:Gran,Taml 11303:Gran,Taml",
  "1133b-1133c:Gran,Taml 11fd0-11fd1:Gran,Taml 11fd3:Gran,Taml 1bca0-1bca3:Dupl 1d360-1d371:Hani",
  "1f250-1f251:Hani"]

end XmlDiagnostics.CharTable
