/-
Module: TaintFlow.Text.CharName.Ancient
Purpose: Names of ancient and rare scripts (Unicode 14, 10000 to 1CFFF).
Main exports: Text.CharName.ancient
-/

namespace TaintFlow.Text.CharName

/-- The names of characters in a row, a line for each row: the number of the first, what all their names
    begin with, and how each goes on, parted by bars. -/
def ancient : String := "10000 LINEAR B SYLLABLE |B008 A|B038 E|B028 I
10003 LINEAR B SYLLABLE |B061 O|B010 U|B001 DA|B045 DE|B007 DI|B014 DO|B051 DU|B057 JA|B046 JE
1000D LINEAR B SYLLABLE |B036 JO|B065 JU|B077 KA|B044 KE|B067 KI|B070 KO|B081 KU|B080 MA
10015 LINEAR B SYLLABLE |B013 ME|B073 MI|B015 MO|B023 MU|B006 NA|B024 NE|B030 NI|B052 NO|B055 NU
1001E LINEAR B SYLLABLE |B003 PA|B072 PE|B039 PI|B011 PO|B050 PU|B016 QA|B078 QE|B021 QI|B032 QO
10028 LINEAR B SYLLABLE B060 |RA
10029 LINEAR B SYLLABLE |B027 RE|B053 RI|B002 RO|B026 RU|B031 SA|B009 SE|B041 SI|B012 SO|B058 SU
10032 LINEAR B SYLLABLE |B059 TA|B004 TE|B037 TI|B005 TO|B069 TU|B054 WA|B075 WE|B040 WI|B042 WO
1003C LINEAR B SYLLABLE |B017 ZA|B074 ZE
1003F LINEAR B SYLLABLE |B020 ZO|B025 A2|B043 A3|B085 AU|B071 DWE|B090 DWO|B048 NWA
10046 LINEAR B SYLLABLE |B029 PU2|B062 PTE|B076 RA2|B033 RA3|B068 RO2|B066 TA2|B087 TWE|B091 TWO
10050 LINEAR B SYMBOL |B018|B019|B022|B034|B047|B049|B056|B063|B064|B079|B082|B083|B086|B089
10080 LINEAR B IDEOGRAM |B100 MAN|B102 WOMAN|B104 DEER|B105 EQUID|B105F MARE|B105M STALLION
10086 LINEAR B IDEOGRAM |B106F EWE|B106M RAM|B107F SHE-GOAT|B107M HE-GOAT|B108F SOW|B108M BOAR
1008C LINEAR B IDEOGRAM |B109F COW|B109M BULL|B120 WHEAT|B121 BARLEY|B122 OLIVE|B123 SPICE
10092 LINEAR B |IDEOGRAM B125 CYPERUS|MONOGRAM B127 KAPO|MONOGRAM B128 KANAKO
10095 LINEAR B IDEOGRAM |B130 OIL|B131 WINE|B132
10098 LINEAR B MONOGRAM |B133 AREPA|B135 MERI
1009A LINEAR B IDEOGRAM |B140 BRONZE|B141 GOLD|B142|B145 WOOL|B146|B150|B151 HORN|B152|B153|B154
100A4 LINEAR B MONOGRAM B156 |TURO2
100A5 LINEAR B IDEOGRAM |B157|B158|B159 CLOTH|B160|B161|B162 GARMENT|B163 ARMOUR
100AC LINEAR B IDEOGRAM |B164|B165|B166|B167|B168|B169|B170|B171|B172|B173 MONTH|B174|B176 TREE
100B8 LINEAR B IDEOGRAM |B177|B178|B179|B180|B181|B182|B183|B184|B185|B189|B190|B191 HELMET
100C4 LINEAR B IDEOGRAM |B220 FOOTSTOOL|B225 BATHTUB|B230 SPEAR|B231 ARROW|B232|B233 SWORD|B234|B236
100CC LINEAR B IDEOGRAM |B240 WHEELED CHARIOT|B241 CHARIOT|B242 CHARIOT FRAME|B243 WHEEL|B245|B246
100D2 LINEAR B MONOGRAM B247 |DIPTE
100D3 LINEAR B IDEOGRAM |B248|B249|B251|B252|B253|B254 DART|B255|B256|B257|B258|B259
100DE LINEAR B IDEOGRAM VESSEL |B155|B200|B201
100E1 LINEAR B IDEOGRAM VESSEL |B202|B203|B204|B205|B206|B207|B208|B209|B210|B211|B212|B213|B214
100EE LINEAR B IDEOGRAM VESSEL |B215|B216|B217|B218|B219|B221|B222|B226|B227|B228|B229|B250|B305
10100 AEGEAN WORD SEPARATOR |LINE|DOT
10102 AEGEAN CHECK |MARK
10107 AEGEAN NUMBER |ONE|TWO|THREE|FOUR|FIVE|SIX|SEVEN|EIGHT
1010F AEGEAN NUMBER |NINE|TEN|TWENTY|THIRTY|FORTY|FIFTY|SIXTY|SEVENTY|EIGHTY|NINETY|ONE HUNDRED
1011A AEGEAN NUMBER |TWO HUNDRED|THREE HUNDRED|FOUR HUNDRED|FIVE HUNDRED|SIX HUNDRED|SEVEN HUNDRED
10120 AEGEAN NUMBER |EIGHT HUNDRED|NINE HUNDRED|ONE THOUSAND|TWO THOUSAND|THREE THOUSAND
10125 AEGEAN NUMBER |FOUR THOUSAND|FIVE THOUSAND|SIX THOUSAND|SEVEN THOUSAND|EIGHT THOUSAND
1012A AEGEAN NUMBER |NINE THOUSAND|TEN THOUSAND|TWENTY THOUSAND|THIRTY THOUSAND|FORTY THOUSAND
1012F AEGEAN NUMBER |FIFTY THOUSAND|SIXTY THOUSAND|SEVENTY THOUSAND|EIGHTY THOUSAND|NINETY THOUSAND
10137 AEGEAN WEIGHT |BASE UNIT|FIRST SUBUNIT|SECOND SUBUNIT|THIRD SUBUNIT|FOURTH SUBUNIT
1013C AEGEAN |DRY MEASURE FIRST SUBUNIT|LIQUID MEASURE FIRST SUBUNIT
1013E AEGEAN MEASURE |SECOND SUBUNIT|THIRD SUBUNIT
10140 GREEK ACROPHONIC ATTIC ONE |QUARTER|HALF|DRACHMA
10143 GREEK ACROPHONIC ATTIC |FIVE|FIFTY|FIVE HUNDRED|FIVE THOUSAND|FIFTY THOUSAND|FIVE TALENTS
10149 GREEK ACROPHONIC ATTIC |TEN TALENTS|FIFTY TALENTS|ONE HUNDRED TALENTS|FIVE HUNDRED TALENTS
1014D GREEK ACROPHONIC ATTIC |ONE THOUSAND TALENTS|FIVE THOUSAND TALENTS|FIVE STATERS
10150 GREEK ACROPHONIC ATTIC |TEN STATERS|FIFTY STATERS|ONE HUNDRED STATERS|FIVE HUNDRED STATERS
10154 GREEK ACROPHONIC ATTIC |ONE THOUSAND STATERS|TEN THOUSAND STATERS|FIFTY THOUSAND STATERS
10157 GREEK ACROPHONIC |ATTIC TEN MNAS|HERAEUM ONE PLETHRON|THESPIAN ONE|HERMIONIAN ONE
1015B GREEK ACROPHONIC |EPIDAUREAN TWO|THESPIAN TWO|CYRENAIC TWO DRACHMAS|EPIDAUREAN TWO DRACHMAS
1015F GREEK ACROPHONIC TROEZENIAN |FIVE|TEN|TEN ALTERNATE FORM
10162 GREEK ACROPHONIC |HERMIONIAN TEN|MESSENIAN TEN|THESPIAN TEN|THESPIAN THIRTY
10166 GREEK ACROPHONIC |TROEZENIAN FIFTY|TROEZENIAN FIFTY ALTERNATE FORM|HERMIONIAN FIFTY
10169 GREEK ACROPHONIC THESPIAN |FIFTY|ONE HUNDRED|THREE HUNDRED
1016C GREEK ACROPHONIC |EPIDAUREAN FIVE HUNDRED|TROEZENIAN FIVE HUNDRED|THESPIAN FIVE HUNDRED
1016F GREEK ACROPHONIC |CARYSTIAN FIVE HUNDRED|NAXIAN FIVE HUNDRED|THESPIAN ONE THOUSAND
10172 GREEK ACROPHONIC |THESPIAN FIVE THOUSAND|DELPHIC FIVE MNAS|STRATIAN FIFTY MNAS
10175 GREEK ONE HALF |SIGN|SIGN ALTERNATE FORM
10177 GREEK |TWO THIRDS SIGN|THREE QUARTERS SIGN|YEAR SIGN|TALENT SIGN|DRACHMA SIGN
1017C GREEK |OBOL SIGN|TWO OBOLS SIGN|THREE OBOLS SIGN|FOUR OBOLS SIGN|FIVE OBOLS SIGN|METRETES SIGN
10182 GREEK |KYATHOS BASE SIGN|LITRA SIGN|OUNKIA SIGN|XESTES SIGN|ARTABE SIGN|AROURA SIGN
10188 GREEK |GRAMMA SIGN|TRYBLION BASE SIGN|ZERO SIGN|ONE QUARTER SIGN|SINUSOID SIGN|INDICTION SIGN
1018E NOMISMA |SIGN
10190 ROMAN |SEXTANS SIGN|UNCIA SIGN|SEMUNCIA SIGN|SEXTULA SIGN|DIMIDIA SEXTULA SIGN|SILIQUA SIGN
10196 ROMAN |DENARIUS SIGN|QUINARIUS SIGN|SESTERTIUS SIGN|DUPONDIUS SIGN|AS SIGN|CENTURIAL SIGN
1019C ASCIA |SYMBOL
101A0 GREEK SYMBOL TAU |RHO
101D0 PHAISTOS DISC SIGN |PEDESTRIAN|PLUMED HEAD|TATTOOED HEAD|CAPTIVE|CHILD|WOMAN|HELMET
101D7 PHAISTOS DISC SIGN |GAUNTLET|TIARA|ARROW|BOW|SHIELD|CLUB|MANACLES|MATTOCK|SAW|LID|BOOMERANG
101E2 PHAISTOS DISC SIGN |CARPENTRY PLANE|DOLIUM|COMB|SLING|COLUMN|BEEHIVE|SHIP|HORN|HIDE|BULLS LEG
101EC PHAISTOS DISC SIGN |CAT|RAM|EAGLE|DOVE|TUNNY|BEE|PLANE TREE|VINE|PAPYRUS|ROSETTE|LILY
101F7 PHAISTOS DISC SIGN |OX BACK|FLUTE|GRATER|STRAINER|SMALL AXE|WAVY BAND|COMBINING OBLIQUE STROKE
10280 LYCIAN LETTER |A|E|B|BH|G|D|I|W|Z|TH|J|K|Q|L|M|N|MM|NN|U|P|KK|R|S|T|TT|AN|EN|H|X
102A0 CARIAN LETTER |A|P2|D|L|UUU|R|LD|A2|Q|B|M|O|D2|T|SH|SH2|S|C-18|U|NN|X|N|TT2|P|SS|I
102BA CARIAN LETTER |E|UUUU|K|K2|ND|UU|G|G2|ST|ST2|NG|II|C-39|TT|UUU2|RR|MB|MB2|MB3|MB4|LD2|E2|UUU3
102E0 COPTIC EPACT THOUSANDS |MARK
102E1 COPTIC EPACT DIGIT |ONE|TWO|THREE|FOUR|FIVE|SIX|SEVEN|EIGHT|NINE
102EA COPTIC EPACT NUMBER |TEN|TWENTY|THIRTY|FORTY|FIFTY|SIXTY
102F0 COPTIC EPACT NUMBER |SEVENTY|EIGHTY|NINETY|ONE HUNDRED|TWO HUNDRED|THREE HUNDRED|FOUR HUNDRED
102F7 COPTIC EPACT NUMBER |FIVE HUNDRED|SIX HUNDRED|SEVEN HUNDRED|EIGHT HUNDRED|NINE HUNDRED
10300 OLD ITALIC LETTER |A|BE|KE|DE|E|VE|ZE|HE|THE
10309 OLD ITALIC LETTER |I|KA|EL|EM|EN|ESH|O|PE|SHE|KU|ER|ES|TE|U|EKS|PHE|KHE|EF|ERS|CHE|II|UU|ESS
10320 OLD ITALIC NUMERAL |ONE|FIVE|TEN|FIFTY
1032D OLD ITALIC LETTER |YE|NORTHERN TSE|SOUTHERN TSE
10330 GOTHIC LETTER |AHSA|BAIRKAN|GIBA
10333 GOTHIC LETTER |DAGS|AIHVUS|QAIRTHRA|IUJA|HAGL|THIUTH|EIS|KUSMA|LAGUS|MANNA|NAUTHS|JER|URUS
10340 GOTHIC LETTER |PAIRTHRA|NINETY|RAIDA|SAUIL|TEIWS|WINJA|FAIHU|IGGWS|HWAIR|OTHAL|NINE HUNDRED
10350 OLD PERMIC LETTER |AN|BUR|GAI
10353 OLD PERMIC LETTER |DOI|E|ZHOI|DZHOI|ZATA|DZITA|I|KOKE|LEI|MENOE|NENOE|VOOI|PEEI|REI|SII|TAI
10363 OLD PERMIC LETTER |U|CHERY|SHOOI|SHCHOOI|YRY|YERU|O|OO|EF|HA|TSIU|VER|YER|YERI|YAT|IE|YU|YA|IA
10376 COMBINING OLD PERMIC LETTER |AN|DOI|ZATA|NENOE|SII
10380 UGARITIC LETTER |ALPA|BETA|GAMLA|KHA|DELTA|HO|WO|ZETA|HOTA|TET|YOD|KAF|SHIN
1038D UGARITIC LETTER |LAMDA|MEM|DHAL|NUN|ZU|SAMKA|AIN|PU|SADE|QOPA|RASHA|THANNA|GHAIN|TO|I|U|SSU
1039F UGARITIC WORD |DIVIDER
103A0 OLD PERSIAN SIGN |A|I|U|KA|KU|GA|GU|XA|CA|JA|JI|TA
103AC OLD PERSIAN SIGN |TU|DA|DI|DU|THA|PA|BA|FA|NA|NU|MA|MI|MU|YA|VA|VI|RA|RU|LA|SA|ZA|SHA|SSA|HA
103C8 OLD PERSIAN SIGN |AURAMAZDAA|AURAMAZDAA-2|AURAMAZDAAHA|XSHAAYATHIYA|DAHYAAUSH|DAHYAAUSH-2|BAGA
103CF OLD PERSIAN |SIGN BUUMISH|WORD DIVIDER
103D1 OLD PERSIAN NUMBER |ONE|TWO|TEN|TWENTY|HUNDRED
10400 DESERET CAPITAL LETTER LONG |I|E|A|AH|O|OO
10406 DESERET CAPITAL LETTER SHORT |I|E|A|AH|O|OO
1040C DESERET CAPITAL LETTER |AY|OW|WU|YEE|H|PEE|BEE|TEE|DEE
10415 DESERET CAPITAL LETTER |CHEE|JEE|KAY|GAY|EF|VEE|ETH|THEE|ES|ZEE|ESH|ZHEE|ER|EL|EM|EN|ENG|OI|EW
10428 DESERET SMALL LETTER LONG |I|E|A|AH|O|OO
1042E DESERET SMALL LETTER SHORT |I|E|A|AH|O|OO
10434 DESERET SMALL LETTER |AY|OW|WU|YEE|H|PEE|BEE|TEE|DEE
1043D DESERET SMALL LETTER |CHEE|JEE|KAY|GAY|EF|VEE|ETH|THEE|ES|ZEE|ESH|ZHEE|ER|EL|EM|EN|ENG|OI|EW
10450 SHAVIAN LETTER |PEEP|TOT|KICK|FEE|THIGH|SO|SURE|CHURCH|YEA|HUNG|BIB|DEAD
1045C SHAVIAN LETTER |GAG|VOW|THEY|ZOO|MEASURE|JUDGE|WOE|HA-HA|LOLL|MIME|IF|EGG|ASH|ADO|ON|WOOL|OUT
1046D SHAVIAN LETTER |AH|ROAR|NUN|EAT|AGE|ICE|UP|OAK|OOZE|OIL|AWE|ARE|OR|AIR|ERR|ARRAY|EAR|IAN|YEW
10480 OSMANYA LETTER |ALEF|BA|TA|JA|XA|KHA|DEEL|RA
10488 OSMANYA LETTER |SA|SHIIN|DHA|CAYN|GA|FA|QAAF|KAAF|LAAN|MIIN|NUUN|WAW|HA|YA|A|E|I|O|U|AA|EE|OO
104A0 OSMANYA DIGIT |ZERO|ONE|TWO|THREE|FOUR|FIVE|SIX|SEVEN|EIGHT|NINE
104B0 OSAGE CAPITAL LETTER |A|AI|AIN|AH|BRA|CHA|EHCHA|E|EIN|HA|HYA|I|KA|EHKA|KYA|LA|MA
104C1 OSAGE CAPITAL LETTER |NA|O|OIN|PA|EHPA|SA|SHA|TA|EHTA|TSA|EHTSA|TSHA|DHA|U|WA|KHA|GHA|ZA|ZHA
104D8 OSAGE SMALL LETTER |A|AI|AIN|AH|BRA|CHA|EHCHA|E|EIN|HA|HYA|I|KA|EHKA|KYA|LA
104E8 OSAGE SMALL LETTER |MA|NA|O|OIN|PA|EHPA|SA|SHA|TA|EHTA|TSA|EHTSA|TSHA|DHA|U|WA|KHA|GHA|ZA|ZHA
10500 ELBASAN LETTER |A|BE|CE|CHE|DE|NDE|DHE|EI|E|FE|GE|GJE|HE|I|JE|KE|LE
10511 ELBASAN LETTER |LLE|ME|NE|NA|NJE|O|PE|QE|RE|RRE|SE|SHE|TE|THE|U|VE|XE|Y|ZE|ZHE|GHE|GHAMMA|KHE
10530 CAUCASIAN ALBANIAN LETTER |ALT|BET|GIM|DAT|EB|ZARL|EYN|ZHIL
10538 CAUCASIAN ALBANIAN LETTER |TAS|CHA|YOWD|ZHA|IRB|SHA|LAN|INYA|XEYN|DYAN|CAR|JHOX|KAR|LYIT|HEYT
10547 CAUCASIAN ALBANIAN LETTER |QAY|AOR|CHOY|CHI|CYAY|MAQ|QAR|NOWC|DZYAY|SHAK|JAYN|ON|TYAY|FAM|DZAY
10556 CAUCASIAN ALBANIAN LETTER |CHAT|PEN|GHEYS|RAT|SEYK|VEYZ|TIWR|SHOY|IWN|CYAW|CAYN|YAYD|PIWR|KIW
1056F CAUCASIAN ALBANIAN CITATION |MARK
10570 VITHKUQI CAPITAL LETTER |A|BBE|BE|CE|CHE|DE|DHE|EI|E|FE|GA
1057C VITHKUQI CAPITAL LETTER |HA|HHA|I|IJE|JE|KA|LA|LLA|ME|NE|NJE|O|PE|QA|RE
1058C VITHKUQI CAPITAL LETTER |SE|SHE|TE|THE|U|VE|XE
10594 VITHKUQI CAPITAL LETTER |Y|ZE
10597 VITHKUQI SMALL LETTER |A|BBE|BE|CE|CHE|DE|DHE|EI|E|FE|GA
105A3 VITHKUQI SMALL LETTER |HA|HHA|I|IJE|JE|KA|LA|LLA|ME|NE|NJE|O|PE|QA|RE
105B3 VITHKUQI SMALL LETTER |SE|SHE|TE|THE|U|VE|XE
105BB VITHKUQI SMALL LETTER |Y|ZE
10600 LINEAR A SIGN |AB001
10601 LINEAR A SIGN |AB002|AB003|AB004|AB005|AB006|AB007|AB008|AB009|AB010|AB011|AB013|AB016|AB017
1060E LINEAR A SIGN |AB020|AB021|AB021F|AB021M|AB022|AB022F|AB022M|AB023|AB023M|AB024|AB026|AB027
1061A LINEAR A SIGN |AB028|A028B|AB029|AB030|AB031|AB034|AB037|AB038|AB039|AB040|AB041|AB044|AB045
10627 LINEAR A SIGN |AB046|AB047|AB048|AB049|AB050|AB051|AB053|AB054|AB055|AB056|AB057|AB058|AB059
10634 LINEAR A SIGN |AB060|AB061|AB065|AB066|AB067|AB069|AB070|AB073|AB074|AB076|AB077|AB078|AB079
10641 LINEAR A SIGN |AB080|AB081|AB082|AB085|AB086|AB087|A100-102|AB118|AB120|A120B|AB122|AB123
1064D LINEAR A SIGN |AB131A|AB131B|A131C|AB164|AB171|AB180|AB188|AB191|A301|A302|A303|A304|A305|A306
1065B LINEAR A SIGN |A307|A308|A309A|A309B|A309C|A310|A311|A312|A313A|A313B|A313C|A314|A315|A316
10669 LINEAR A SIGN |A317|A318|A319|A320|A321|A322|A323|A324|A325|A326|A327|A328|A329|A330|A331|A332
10679 LINEAR A SIGN |A333|A334|A335|A336|A337|A338|A339|A340|A341|A342|A343|A344|A345|A346|A347|A348
10689 LINEAR A SIGN |A349|A350|A351|A352|A353|A354|A355|A356|A357|A358|A359|A360|A361|A362|A363|A364
10699 LINEAR A SIGN |A365|A366|A367|A368|A369|A370|A371|A400-VAS|A401-VAS|A402-VAS|A403-VAS|A404-VAS
106A5 LINEAR A SIGN |A405-VAS|A406-VAS|A407-VAS|A408-VAS|A409-VAS|A410-VAS|A411-VAS|A412-VAS
106AD LINEAR A SIGN |A413-VAS|A414-VAS|A415-VAS|A416-VAS|A417-VAS|A418-VAS|A501|A502|A503|A504
106B7 LINEAR A SIGN |A505|A506|A508|A509|A510|A511|A512|A513|A515|A516|A520|A521|A523|A524|A525|A526
106C7 LINEAR A SIGN |A527|A528|A529|A530|A531|A532|A534|A535|A536|A537|A538|A539|A540|A541|A542|A545
106D7 LINEAR A SIGN |A547|A548|A549|A550|A551|A552|A553|A554|A555|A556|A557|A559|A563|A564|A565|A566
106E7 LINEAR A SIGN |A568|A569|A570|A571|A572|A573|A574|A575|A576|A577|A578|A579|A580|A581|A582|A583
106F7 LINEAR A SIGN |A584|A585|A586|A587|A588|A589|A591|A592|A594|A595|A596|A598|A600|A601|A602|A603
10707 LINEAR A SIGN |A604|A606|A608|A609|A610|A611|A612|A613|A614|A615|A616|A617|A618|A619|A620|A621
10717 LINEAR A SIGN |A622|A623|A624|A626|A627|A628|A629|A634|A637|A638|A640|A642|A643|A644|A645|A646
10727 LINEAR A SIGN |A648|A649|A651|A652|A653|A654|A655|A656|A657|A658|A659|A660|A661|A662|A663|A664
10740 LINEAR A SIGN |A701 A|A702 B|A703 D|A704 E|A705 F|A706 H|A707 J|A708 K|A709 L
10749 LINEAR A SIGN A709-|2 L2|3 L3|4 L4|6 L6
1074D LINEAR A SIGN |A710 W|A711 X|A712 Y|A713 OMEGA|A714 ABB|A715 BB|A717 DD|A726 EYYY|A732 JE
10760 LINEAR A SIGN |A800|A801|A802|A803|A804|A805|A806|A807
10780 MODIFIER LETTER SMALL CAPITAL |AA
10781 MODIFIER LETTER SUPERSCRIPT |TRIANGULAR COLON|HALF TRIANGULAR COLON
10783 MODIFIER LETTER SMALL |AE|CAPITAL B|B WITH HOOK
10787 MODIFIER LETTER SMALL DZ |DIGRAPH|DIGRAPH WITH RETROFLEX HOOK|DIGRAPH WITH CURL
1078A MODIFIER LETTER SMALL |DEZH DIGRAPH|D WITH TAIL
1078C MODIFIER LETTER SMALL |D WITH HOOK|D WITH HOOK AND TAIL|REVERSED E|CLOSED REVERSED OPEN E
10790 MODIFIER LETTER SMALL |FENG DIGRAPH|RAMS HORN|CAPITAL G|G WITH HOOK|CAPITAL G WITH HOOK
10795 MODIFIER LETTER SMALL |H WITH STROKE|CAPITAL H|HENG WITH HOOK|DOTLESS J WITH STROKE AND HOOK
10799 MODIFIER LETTER SMALL |LS DIGRAPH|LZ DIGRAPH|L WITH BELT|CAPITAL L WITH BELT
1079D MODIFIER LETTER SMALL |L WITH RETROFLEX HOOK AND BELT|LEZH|LEZH WITH RETROFLEX HOOK
107A0 MODIFIER LETTER SMALL |TURNED Y|TURNED Y WITH BELT|O WITH STROKE|CAPITAL OE|CLOSED OMEGA|Q
107A6 MODIFIER LETTER SMALL TURNED R WITH LONG |LEG|LEG AND RETROFLEX HOOK
107A8 MODIFIER LETTER SMALL |R WITH TAIL|R WITH FISHHOOK|CAPITAL R|TC DIGRAPH WITH CURL
107AC MODIFIER LETTER SMALL TS |DIGRAPH|DIGRAPH WITH RETROFLEX HOOK
107AE MODIFIER LETTER SMALL |TESH DIGRAPH|T WITH RETROFLEX HOOK|V WITH RIGHT HOOK
107B2 MODIFIER LETTER |SMALL CAPITAL Y|GLOTTAL STOP WITH STROKE
107B4 MODIFIER LETTER |REVERSED GLOTTAL STOP WITH STROKE|BILABIAL CLICK|DENTAL CLICK|LATERAL CLICK
107B8 MODIFIER LETTER |ALVEOLAR CLICK|RETROFLEX CLICK WITH RETROFLEX HOOK|SMALL S WITH CURL
10800 CYPRIOT SYLLABLE |A|E|I|O|U|JA
10808 CYPRIOT SYLLABLE |JO
1080A CYPRIOT SYLLABLE |KA|KE|KI|KO|KU|LA|LE|LI|LO|LU|MA|ME|MI|MO|MU|NA|NE|NI|NO
1081D CYPRIOT SYLLABLE |NU|PA|PE|PI|PO|PU|RA|RE|RI|RO|RU|SA|SE|SI|SO|SU|TA|TE|TI|TO|TU|WA|WE|WI|WO
10837 CYPRIOT SYLLABLE |XA|XE
1083C CYPRIOT SYLLABLE |ZA
1083F CYPRIOT SYLLABLE |ZO
10840 IMPERIAL ARAMAIC LETTER |ALEPH|BETH|GIMEL|DALETH|HE|WAW|ZAYIN|HETH
10848 IMPERIAL ARAMAIC LETTER |TETH|YODH|KAPH|LAMEDH|MEM|NUN|SAMEKH|AYIN|PE|SADHE|QOPH|RESH|SHIN|TAW
10857 IMPERIAL ARAMAIC SECTION |SIGN
10858 IMPERIAL ARAMAIC NUMBER |ONE|TWO|THREE|TEN|TWENTY|ONE HUNDRED|ONE THOUSAND|TEN THOUSAND
10860 PALMYRENE LETTER |ALEPH|BETH|GIMEL|DALETH|HE|WAW|ZAYIN|HETH|TETH
10869 PALMYRENE LETTER |YODH|KAPH|LAMEDH|MEM|FINAL NUN|NUN|SAMEKH|AYIN|PE|SADHE|QOPH|RESH|SHIN|TAW
10877 PALMYRENE |LEFT-POINTING FLEURON|RIGHT-POINTING FLEURON
10879 PALMYRENE NUMBER |ONE|TWO|THREE|FOUR|FIVE|TEN|TWENTY
10880 NABATAEAN LETTER |FINAL ALEPH|ALEPH|FINAL BETH|BETH|GIMEL|DALETH|FINAL HE|HE|WAW|ZAYIN
1088A NABATAEAN LETTER |HETH|TETH|FINAL YODH|YODH|FINAL KAPH|KAPH|FINAL LAMEDH|LAMEDH|FINAL MEM
10893 NABATAEAN LETTER |MEM|FINAL NUN|NUN|SAMEKH|AYIN|PE|SADHE|QOPH|RESH|FINAL SHIN|SHIN|TAW
108A7 NABATAEAN NUMBER |ONE|TWO|THREE|FOUR
108AB NABATAEAN CRUCIFORM NUMBER |FOUR
108AC NABATAEAN NUMBER |FIVE|TEN|TWENTY|ONE HUNDRED
108E0 HATRAN LETTER |ALEPH|BETH|GIMEL|DALETH-RESH
108E4 HATRAN LETTER |HE|WAW|ZAYN|HETH|TETH|YODH|KAPH|LAMEDH|MEM|NUN|SAMEKH|AYN|PE|SADHE|QOPH
108F4 HATRAN LETTER |SHIN|TAW
108FB HATRAN NUMBER |ONE|FIVE|TEN|TWENTY|ONE HUNDRED
10900 PHOENICIAN LETTER |ALF|BET|GAML|DELT
10904 PHOENICIAN LETTER |HE|WAU|ZAI|HET|TET|YOD|KAF|LAMD|MEM|NUN|SEMK|AIN|PE|SADE|QOF|ROSH|SHIN|TAU
10916 PHOENICIAN NUMBER |ONE|TEN|TWENTY|ONE HUNDRED|TWO|THREE
1091F PHOENICIAN WORD |SEPARATOR
10920 LYDIAN LETTER |A|B|G|D|E|V|I|Y|K|L|M|N|O|R|SS|T|U|F|Q|S|TT|AN|EN|LY|NN|C
1093F LYDIAN TRIANGULAR |MARK
10980 MEROITIC HIEROGLYPHIC LETTER |A|E|I|O|YA|WA|BA|BA-2|PA|MA|NA|NA-2|NE
1098D MEROITIC HIEROGLYPHIC LETTER |NE-2|RA|RA-2|LA|KHA|HHA|SA|SA-2|SE|KA|QA|TA|TA-2|TE|TE-2|TO|DA
1099E MEROITIC HIEROGLYPHIC SYMBOL |VIDJ|VIDJ-2
109A0 MEROITIC CURSIVE LETTER |A|E|I|O
109A4 MEROITIC CURSIVE LETTER |YA|WA|BA|PA|MA|NA|NE|RA|LA|KHA|HHA|SA|ARCHAIC SA|SE|KA|QA|TA|TE|TO|DA
109BC MEROITIC CURSIVE |FRACTION ELEVEN TWELFTHS|FRACTION ONE HALF|LOGOGRAM RMT|LOGOGRAM IMN
109C0 MEROITIC CURSIVE NUMBER |ONE|TWO|THREE|FOUR
109C4 MEROITIC CURSIVE NUMBER |FIVE|SIX|SEVEN|EIGHT|NINE|TEN|TWENTY|THIRTY|FORTY|FIFTY|SIXTY|SEVENTY
109D2 MEROITIC CURSIVE NUMBER |ONE HUNDRED|TWO HUNDRED|THREE HUNDRED|FOUR HUNDRED
109D6 MEROITIC CURSIVE NUMBER |FIVE HUNDRED|SIX HUNDRED|SEVEN HUNDRED|EIGHT HUNDRED|NINE HUNDRED
109DB MEROITIC CURSIVE NUMBER |ONE THOUSAND|TWO THOUSAND|THREE THOUSAND|FOUR THOUSAND|FIVE THOUSAND
109E0 MEROITIC CURSIVE NUMBER |SIX THOUSAND|SEVEN THOUSAND|EIGHT THOUSAND|NINE THOUSAND|TEN THOUSAND
109E5 MEROITIC CURSIVE NUMBER |TWENTY THOUSAND|THIRTY THOUSAND|FORTY THOUSAND|FIFTY THOUSAND
109E9 MEROITIC CURSIVE NUMBER |SIXTY THOUSAND|SEVENTY THOUSAND|EIGHTY THOUSAND|NINETY THOUSAND
109ED MEROITIC CURSIVE NUMBER |ONE HUNDRED THOUSAND|TWO HUNDRED THOUSAND|THREE HUNDRED THOUSAND
109F0 MEROITIC CURSIVE NUMBER |FOUR HUNDRED THOUSAND|FIVE HUNDRED THOUSAND|SIX HUNDRED THOUSAND
109F3 MEROITIC CURSIVE NUMBER |SEVEN HUNDRED THOUSAND|EIGHT HUNDRED THOUSAND|NINE HUNDRED THOUSAND
109F6 MEROITIC CURSIVE FRACTION |ONE TWELFTH|TWO TWELFTHS|THREE TWELFTHS|FOUR TWELFTHS|FIVE TWELFTHS
109FB MEROITIC CURSIVE FRACTION |SIX TWELFTHS|SEVEN TWELFTHS|EIGHT TWELFTHS|NINE TWELFTHS
109FF |MEROITIC CURSIVE FRACTION TEN TWELFTHS|KHAROSHTHI LETTER A
10A01 KHAROSHTHI VOWEL SIGN |I|U|VOCALIC R
10A05 KHAROSHTHI VOWEL SIGN |E|O
10A0C KHAROSHTHI |VOWEL LENGTH MARK|SIGN DOUBLE RING BELOW|SIGN ANUSVARA|SIGN VISARGA
10A10 KHAROSHTHI LETTER |KA|KHA|GA|GHA
10A15 KHAROSHTHI LETTER |CA|CHA|JA
10A19 KHAROSHTHI LETTER |NYA|TTA|TTHA|DDA|DDHA|NNA|TA|THA
10A21 KHAROSHTHI LETTER |DA|DHA|NA|PA|PHA|BA|BHA|MA|YA|RA|LA|VA|SHA|SSA|SA|ZA|HA|KKA|TTTHA|TTTA|VHA
10A38 KHAROSHTHI SIGN |BAR ABOVE|CAUDA|DOT BELOW
10A3F KHAROSHTHI |VIRAMA|DIGIT ONE|DIGIT TWO|DIGIT THREE|DIGIT FOUR
10A44 KHAROSHTHI NUMBER |TEN|TWENTY|ONE HUNDRED|ONE THOUSAND
10A48 KHAROSHTHI FRACTION ONE |HALF
10A50 KHAROSHTHI PUNCTUATION |DOT|SMALL CIRCLE
10A52 KHAROSHTHI PUNCTUATION |CIRCLE|CRESCENT BAR|MANGALAM|LOTUS|DANDA|DOUBLE DANDA|LINES
10A60 OLD SOUTH ARABIAN LETTER |HE|LAMEDH|HETH
10A63 OLD SOUTH ARABIAN LETTER |MEM|QOPH|WAW|SHIN|RESH|BETH|TAW|SAT|KAPH|NUN|KHETH|SADHE|SAMEKH|FE
10A71 OLD SOUTH ARABIAN LETTER |ALEF|AYN|DHADHE|GIMEL|DALETH|GHAYN|TETH|ZAYN|DHALETH|YODH|THAW|THETH
10A7D OLD SOUTH ARABIAN |NUMBER ONE|NUMBER FIFTY|NUMERIC INDICATOR
10A80 OLD NORTH ARABIAN LETTER |HEH|LAM|HAH|MEEM|QAF|WAW|ES-2|REH|BEH|TEH|ES-1|KAF|NOON|KHAH
10A8E OLD NORTH ARABIAN LETTER |SAD|ES-3|FEH|ALEF|AIN|DAD|GEEM|DAL|GHAIN|TAH|ZAIN|THAL|YEH|THEH|ZAH
10A9D OLD NORTH ARABIAN NUMBER |ONE|TEN|TWENTY
10AC0 MANICHAEAN LETTER |ALEPH|BETH|BHETH|GIMEL|GHIMEL|DALETH|HE|WAW
10AC8 MANICHAEAN |SIGN UD|LETTER ZAYIN
10ACA MANICHAEAN LETTER |ZHAYIN|JAYIN|JHAYIN|HETH|TETH|YODH|KAPH|XAPH|KHAPH|LAMEDH|DHAMEDH|THAMEDH
10AD6 MANICHAEAN LETTER |MEM|NUN|SAMEKH|AYIN|AAYIN|PE|FE|SADHE|QOPH|XOPH|QHOPH|RESH|SHIN|SSHIN|TAW
10AE5 MANICHAEAN ABBREVIATION MARK |ABOVE|BELOW
10AEB MANICHAEAN NUMBER |ONE|FIVE|TEN|TWENTY|ONE HUNDRED
10AF0 MANICHAEAN PUNCTUATION |STAR
10AF1 MANICHAEAN PUNCTUATION |FLEURON|DOUBLE DOT WITHIN DOT|DOT WITHIN DOT|DOT|TWO DOTS|LINE FILLER
10B00 AVESTAN LETTER |A|AA|AO|AAO|AN|AAN|AE|AEE
10B08 AVESTAN LETTER |E|EE|O|OO|I|II|U|UU|KE|XE|XYE|XVE|GE|GGE|GHE|CE|JE|TE|THE|DE|DHE|TTE|PE|FE|BE
10B21 AVESTAN LETTER |BHE|NGE|NGYE|NGVE|NE|NYE|NNE|ME|HME|YYE|YE|VE|RE|LE|SE|ZE|SHE|ZHE|SHYE|SSHE|HE
10B39 AVESTAN ABBREVIATION |MARK
10B3A |TINY TWO DOTS OVER ONE DOT PUNCTUATION|SMALL TWO DOTS OVER ONE DOT PUNCTUATION
10B3C LARGE |TWO DOTS OVER ONE DOT PUNCTUATION|ONE DOT OVER TWO DOTS PUNCTUATION
10B3E LARGE |TWO RINGS OVER ONE RING PUNCTUATION|ONE RING OVER TWO RINGS PUNCTUATION
10B40 INSCRIPTIONAL PARTHIAN LETTER |ALEPH|BETH|GIMEL|DALETH|HE|WAW|ZAYIN|HETH|TETH|YODH
10B4A INSCRIPTIONAL PARTHIAN LETTER |KAPH|LAMEDH|MEM|NUN|SAMEKH|AYIN|PE|SADHE|QOPH|RESH|SHIN|TAW
10B58 INSCRIPTIONAL PARTHIAN NUMBER |ONE|TWO|THREE|FOUR|TEN|TWENTY|ONE HUNDRED|ONE THOUSAND
10B60 INSCRIPTIONAL PAHLAVI LETTER |ALEPH|BETH|GIMEL|DALETH|HE|WAW-AYIN-RESH|ZAYIN
10B67 INSCRIPTIONAL PAHLAVI LETTER |HETH|TETH|YODH|KAPH|LAMEDH|MEM-QOPH|NUN|SAMEKH|PE|SADHE|SHIN|TAW
10B78 INSCRIPTIONAL PAHLAVI NUMBER |ONE|TWO|THREE|FOUR|TEN|TWENTY|ONE HUNDRED|ONE THOUSAND
10B80 PSALTER PAHLAVI LETTER |ALEPH|BETH|GIMEL|DALETH|HE|WAW-AYIN-RESH
10B86 PSALTER PAHLAVI LETTER |ZAYIN|HETH|YODH|KAPH|LAMEDH|MEM-QOPH|NUN|SAMEKH|PE|SADHE|SHIN|TAW
10B99 PSALTER PAHLAVI |SECTION MARK|TURNED SECTION MARK|FOUR DOTS WITH CROSS|FOUR DOTS WITH DOT
10BA9 PSALTER PAHLAVI NUMBER |ONE|TWO|THREE|FOUR|TEN|TWENTY|ONE HUNDRED
10C00 OLD TURKIC LETTER |ORKHON A|YENISEI A|YENISEI AE|ORKHON I|YENISEI I|YENISEI E
10C06 OLD TURKIC LETTER |ORKHON O|ORKHON OE|YENISEI OE|ORKHON AB|YENISEI AB|ORKHON AEB|YENISEI AEB
10C0D OLD TURKIC LETTER |ORKHON AG|YENISEI AG|ORKHON AEG|YENISEI AEG|ORKHON AD|YENISEI AD
10C13 OLD TURKIC LETTER |ORKHON AED|ORKHON EZ|YENISEI EZ|ORKHON AY|YENISEI AY|ORKHON AEY|YENISEI AEY
10C1A OLD TURKIC LETTER |ORKHON AEK|YENISEI AEK|ORKHON OEK|YENISEI OEK|ORKHON AL|YENISEI AL
10C20 OLD TURKIC LETTER ORKHON |AEL|ELT|EM|AN|AEN
10C25 OLD TURKIC LETTER |YENISEI AEN|ORKHON ENT|YENISEI ENT|ORKHON ENC
10C29 OLD TURKIC LETTER |YENISEI ENC|ORKHON ENY|YENISEI ENY|YENISEI ANG|ORKHON ENG|YENISEI AENG
10C2F OLD TURKIC LETTER ORKHON |EP|OP|IC|EC
10C33 OLD TURKIC LETTER |YENISEI EC|ORKHON AQ|YENISEI AQ|ORKHON IQ|YENISEI IQ|ORKHON OQ|YENISEI OQ
10C3A OLD TURKIC LETTER |ORKHON AR|YENISEI AR|ORKHON AER|ORKHON AS|ORKHON AES|ORKHON ASH|YENISEI ASH
10C41 OLD TURKIC LETTER |ORKHON ESH|YENISEI ESH|ORKHON AT|YENISEI AT|ORKHON AET|YENISEI AET
10C47 OLD TURKIC LETTER ORKHON |OT|BASH
10C80 OLD HUNGARIAN CAPITAL LETTER |A|AA|EB|AMB|EC|ENC|ECS|ED|AND|E|CLOSE E|EE|EF
10C8D OLD HUNGARIAN CAPITAL LETTER |EG|EGY|EH|I|II|EJ|EK|AK|UNK|EL|ELY|EM|EN|ENY|O|OO|NIKOLSBURG OE
10C9E OLD HUNGARIAN CAPITAL LETTER |RUDIMENTA OE|OEE|EP|EMP|ER|SHORT ER|ES|ESZ|ET|ENT|ETY
10CA9 OLD HUNGARIAN CAPITAL LETTER |ECH|U|UU|NIKOLSBURG UE|RUDIMENTA UE|EV|EZ|EZS|ENT-SHAPED SIGN|US
10CC0 OLD HUNGARIAN SMALL LETTER |A|AA|EB|AMB|EC|ENC|ECS|ED|AND|E|CLOSE E|EE
10CCC OLD HUNGARIAN SMALL LETTER |EF|EG|EGY|EH|I|II|EJ|EK|AK|UNK|EL|ELY|EM|EN|ENY|O|OO|NIKOLSBURG OE
10CDE OLD HUNGARIAN SMALL LETTER |RUDIMENTA OE|OEE|EP|EMP|ER|SHORT ER|ES|ESZ|ET|ENT|ETY
10CE9 OLD HUNGARIAN SMALL LETTER |ECH|U|UU|NIKOLSBURG UE|RUDIMENTA UE|EV|EZ|EZS|ENT-SHAPED SIGN|US
10CFA OLD HUNGARIAN NUMBER |ONE|FIVE|TEN|FIFTY|ONE HUNDRED|ONE THOUSAND
10D00 HANIFI ROHINGYA LETTER |A|BA|PA|TA|TTA|JA|CA|HA|KHA|FA|DA
10D0B HANIFI ROHINGYA LETTER |DDA|RA|RRA|ZA|SA|SHA|KA|GA|LA|MA|NA|WA|KINNA WA|YA|KINNA YA|NGA|NYA|VA
10D1D HANIFI ROHINGYA VOWEL |A|I|U|E|O
10D22 HANIFI ROHINGYA |MARK SAKIN|MARK NA KHONNA|SIGN HARBAHAY|SIGN TAHALA|SIGN TANA|SIGN TASSI
10D30 HANIFI ROHINGYA DIGIT |ZERO|ONE|TWO|THREE|FOUR|FIVE|SIX|SEVEN|EIGHT|NINE
10E60 RUMI DIGIT |ONE|TWO|THREE|FOUR|FIVE|SIX|SEVEN|EIGHT|NINE
10E69 RUMI NUMBER |TEN|TWENTY|THIRTY
10E6C RUMI NUMBER |FORTY|FIFTY|SIXTY|SEVENTY|EIGHTY|NINETY|ONE HUNDRED|TWO HUNDRED|THREE HUNDRED
10E75 RUMI NUMBER |FOUR HUNDRED|FIVE HUNDRED|SIX HUNDRED|SEVEN HUNDRED|EIGHT HUNDRED|NINE HUNDRED
10E7B RUMI FRACTION |ONE HALF|ONE QUARTER|ONE THIRD|TWO THIRDS
10E80 YEZIDI LETTER |ELIF|BE|PE|PHE|THE
10E85 YEZIDI LETTER |SE|CIM|CHIM|CHHIM|HHA|XA|DAL|ZAL|RA|RHA|ZA|JA|SIN|SHIN|SAD|DAD|TA|ZE|EYN|XHEYN
10E99 YEZIDI LETTER |FA|VA|VA ALTERNATE FORM|QAF|KAF|KHAF|GAF|LAM|MIM|NUN|UM|WAW|OW|EW|HAY|YOT|ET
10EAB YEZIDI |COMBINING HAMZA MARK|COMBINING MADDA MARK|HYPHENATION MARK
10EB0 YEZIDI LETTER |LAM WITH DOT ABOVE|YOT WITH CIRCUMFLEX ABOVE
10F00 OLD SOGDIAN LETTER |ALEPH|FINAL ALEPH|BETH|FINAL BETH|GIMEL|HE|FINAL HE|WAW|ZAYIN|HETH
10F0A OLD SOGDIAN LETTER |YODH|KAPH|LAMEDH|MEM|NUN|FINAL NUN|FINAL NUN WITH VERTICAL TAIL|SAMEKH
10F12 OLD SOGDIAN LETTER |AYIN|ALTERNATE AYIN|PE|SADHE|FINAL SADHE|FINAL SADHE WITH VERTICAL TAIL
10F18 OLD SOGDIAN LETTER |RESH-AYIN-DALETH|SHIN|TAW|FINAL TAW|FINAL TAW WITH VERTICAL TAIL
10F1D OLD SOGDIAN NUMBER |ONE|TWO|THREE|FOUR|FIVE|TEN|TWENTY|THIRTY|ONE HUNDRED
10F26 OLD SOGDIAN |FRACTION ONE HALF|LIGATURE AYIN-DALETH
10F30 SOGDIAN LETTER |ALEPH|BETH|GIMEL|HE|WAW|ZAYIN|HETH
10F37 SOGDIAN LETTER |YODH|KAPH|LAMEDH|MEM|NUN|SAMEKH|AYIN|PE|SADHE|RESH-AYIN|SHIN|TAW|FETH|LESH
10F45 SOGDIAN INDEPENDENT |SHIN
10F46 SOGDIAN COMBINING |DOT BELOW|TWO DOTS BELOW|DOT ABOVE|TWO DOTS ABOVE|CURVE ABOVE
10F4B SOGDIAN COMBINING |CURVE BELOW|HOOK ABOVE|HOOK BELOW|LONG HOOK BELOW|RESH BELOW|STROKE BELOW
10F51 SOGDIAN NUMBER |ONE|TEN|TWENTY|ONE HUNDRED
10F55 SOGDIAN PUNCTUATION TWO VERTICAL |BARS|BARS WITH DOTS
10F57 SOGDIAN PUNCTUATION |CIRCLE WITH DOT|TWO CIRCLES WITH DOTS|HALF CIRCLE WITH DOT
10F70 OLD UYGHUR LETTER |ALEPH|BETH|GIMEL-HETH|WAW|ZAYIN
10F75 OLD UYGHUR LETTER |FINAL HETH|YODH|KAPH|LAMEDH|MEM|NUN|SAMEKH|PE|SADHE|RESH|SHIN|TAW|LESH
10F82 OLD UYGHUR COMBINING |DOT ABOVE|DOT BELOW|TWO DOTS ABOVE|TWO DOTS BELOW
10F86 OLD UYGHUR PUNCTUATION |BAR|TWO BARS|TWO DOTS|FOUR DOTS
10FB0 CHORASMIAN LETTER |ALEPH|SMALL ALEPH|BETH|GIMEL|DALETH|HE|WAW
10FB7 CHORASMIAN LETTER |CURLED WAW|ZAYIN|HETH|YODH|KAPH|LAMEDH|MEM|NUN|SAMEKH|AYIN|PE|RESH|SHIN|TAW
10FC5 CHORASMIAN NUMBER |ONE|TWO|THREE|FOUR|TEN|TWENTY|ONE HUNDRED
10FE0 ELYMAIC LETTER |ALEPH|BETH|GIMEL|DALETH|HE|WAW|ZAYIN
10FE7 ELYMAIC LETTER |HETH|TETH|YODH|KAPH|LAMEDH|MEM|NUN|SAMEKH|AYIN|PE|SADHE|QOPH|RESH|SHIN|TAW
10FF6 ELYMAIC LIGATURE ZAYIN-|YODH
11000 BRAHMI SIGN |CANDRABINDU|ANUSVARA|VISARGA|JIHVAMULIYA|UPADHMANIYA
11005 BRAHMI LETTER |A|AA|I|II|U|UU
1100B BRAHMI LETTER VOCALIC |R|RR|L|LL
1100F BRAHMI LETTER |E|AI|O|AU|KA|KHA|GA|GHA|NGA|CA|CHA|JA|JHA|NYA|TTA|TTHA
1101F BRAHMI LETTER |DDA|DDHA|NNA|TA|THA|DA|DHA|NA|PA|PHA|BA|BHA|MA|YA|RA|LA|VA|SHA|SSA|SA|HA|LLA
11035 BRAHMI LETTER OLD TAMIL |LLLA|RRA|NNNA
11038 BRAHMI VOWEL SIGN |AA|BHATTIPROLU AA|I|II|U|UU|VOCALIC R|VOCALIC RR|VOCALIC L|VOCALIC LL|E|AI
11044 BRAHMI |VOWEL SIGN O|VOWEL SIGN AU|VIRAMA|DANDA|DOUBLE DANDA
11049 BRAHMI PUNCTUATION |DOT|DOUBLE DOT|LINE|CRESCENT BAR|LOTUS
11052 BRAHMI NUMBER |ONE|TWO|THREE|FOUR|FIVE|SIX|SEVEN|EIGHT|NINE|TEN
1105C BRAHMI NUMBER |TWENTY|THIRTY|FORTY|FIFTY|SIXTY|SEVENTY|EIGHTY|NINETY|ONE HUNDRED|ONE THOUSAND
11066 BRAHMI DIGIT |ZERO|ONE|TWO|THREE|FOUR|FIVE|SIX|SEVEN|EIGHT|NINE
11070 BRAHMI SIGN OLD TAMIL |VIRAMA
11071 BRAHMI LETTER OLD TAMIL SHORT |E|O
11073 BRAHMI VOWEL SIGN OLD TAMIL SHORT |E|O
11075 BRAHMI LETTER OLD TAMIL |LLA
1107F BRAHMI NUMBER |JOINER
11080 KAITHI SIGN |CANDRABINDU|ANUSVARA|VISARGA
11083 KAITHI LETTER |A|AA|I|II|U|UU|E|AI|O|AU|KA|KHA|GA|GHA|NGA|CA|CHA|JA|JHA|NYA|TTA|TTHA|DDA
1109A KAITHI LETTER |DDDHA|DDHA|RHA|NNA|TA|THA|DA|DHA|NA|PA|PHA|BA|BHA|MA|YA|RA|LA|VA|SHA|SSA|SA|HA
110B0 KAITHI VOWEL SIGN |AA|I|II|U|UU|E|AI|O|AU
110B9 KAITHI |SIGN VIRAMA|SIGN NUKTA|ABBREVIATION SIGN|ENUMERATION SIGN
110BD KAITHI |NUMBER SIGN|SECTION MARK|DOUBLE SECTION MARK|DANDA|DOUBLE DANDA|VOWEL SIGN VOCALIC R
110CD KAITHI NUMBER SIGN |ABOVE
110D0 SORA SOMPENG LETTER |SAH|TAH|BAH|CAH|DAH|GAH
110D6 SORA SOMPENG LETTER |MAH|NGAH|LAH|NAH|VAH|PAH|YAH|RAH|HAH|KAH|JAH|NYAH|AH|EEH|IH|UH|OH|EH|MAE
110F0 SORA SOMPENG DIGIT |ZERO|ONE|TWO|THREE|FOUR|FIVE|SIX|SEVEN|EIGHT|NINE
11100 CHAKMA SIGN |CANDRABINDU|ANUSVARA|VISARGA
11103 CHAKMA LETTER |AA|I|U|E|KAA|KHAA|GAA|GHAA|NGAA|CAA|CHAA|JAA|JHAA|NYAA|TTAA|TTHAA|DDAA|DDHAA
11115 CHAKMA LETTER |NNAA|TAA|THAA|DAA|DHAA|NAA|PAA|PHAA|BAA|BHAA|MAA|YYAA|YAA|RAA|LAA|WAA|SAA|HAA
11127 CHAKMA VOWEL SIGN |A|I|II|U|UU|E|AI|O|AU|OI
11131 CHAKMA |O MARK|AU MARK|VIRAMA|MAAYYAA
11136 CHAKMA DIGIT |ZERO|ONE|TWO|THREE|FOUR|FIVE|SIX|SEVEN|EIGHT|NINE
11140 CHAKMA SECTION |MARK
11141 CHAKMA |DANDA|DOUBLE DANDA|QUESTION MARK|LETTER LHAA|VOWEL SIGN AA|VOWEL SIGN EI|LETTER VAA
11150 MAHAJANI LETTER |A|I|U|E|O|KA|KHA|GA|GHA|CA|CHA|JA|JHA|NYA
1115E MAHAJANI LETTER |TTA|TTHA|DDA|DDHA|NNA|TA|THA|DA|DHA|NA|PA|PHA|BA|BHA|MA|RA|LA|VA|SA|HA|RRA
11173 MAHAJANI |SIGN NUKTA|ABBREVIATION SIGN|SECTION MARK|LIGATURE SHRI
11180 SHARADA SIGN |CANDRABINDU|ANUSVARA|VISARGA
11183 SHARADA LETTER |A|AA|I|II|U|UU
11189 SHARADA LETTER VOCALIC |R|RR|L|LL
1118D SHARADA LETTER |E|AI|O|AU|KA|KHA|GA|GHA|NGA|CA|CHA|JA|JHA|NYA|TTA|TTHA
1119D SHARADA LETTER |DDA|DDHA|NNA|TA|THA|DA|DHA|NA|PA|PHA|BA|BHA|MA|YA|RA|LA|LLA|VA|SHA|SSA|SA|HA
111B3 SHARADA VOWEL SIGN |AA|I|II|U|UU|VOCALIC R|VOCALIC RR|VOCALIC L|VOCALIC LL|E|AI|O|AU
111C0 SHARADA SIGN |VIRAMA|AVAGRAHA|JIHVAMULIYA|UPADHMANIYA
111C4 SHARADA |OM|DANDA|DOUBLE DANDA|ABBREVIATION SIGN
111C8 SHARADA |SEPARATOR|SANDHI MARK|SIGN NUKTA|VOWEL MODIFIER MARK|EXTRA SHORT VOWEL MARK
111CD SHARADA |SUTRA MARK|VOWEL SIGN PRISHTHAMATRA E|SIGN INVERTED CANDRABINDU
111D0 SHARADA DIGIT |ZERO|ONE|TWO|THREE|FOUR|FIVE|SIX|SEVEN|EIGHT|NINE
111DA SHARADA |EKAM|SIGN SIDDHAM|HEADSTROKE|CONTINUATION SIGN|SECTION MARK-1|SECTION MARK-2
111E1 SINHALA ARCHAIC DIGIT |ONE|TWO|THREE|FOUR|FIVE|SIX|SEVEN|EIGHT|NINE
111EA SINHALA ARCHAIC NUMBER |TEN|TWENTY|THIRTY|FORTY|FIFTY|SIXTY|SEVENTY|EIGHTY|NINETY
111F3 SINHALA ARCHAIC NUMBER ONE |HUNDRED|THOUSAND
11200 KHOJKI LETTER |A|AA|I|U|E|AI|O|AU|KA|KHA|GA|GGA|GHA|NGA|CA|CHA|JA|JJA
11213 KHOJKI LETTER |NYA|TTA|TTHA
11216 KHOJKI LETTER |DDA|DDHA|NNA|TA|THA|DA|DDDA|DHA|NA|PA|PHA|BA|BBA|BHA|MA|YA|RA|LA|VA|SA|HA|LLA
1122C KHOJKI VOWEL SIGN |AA|I|II|U|E|AI|O|AU
11234 KHOJKI SIGN |ANUSVARA|VIRAMA|NUKTA|SHADDA
11238 KHOJKI |DANDA|DOUBLE DANDA
1123A KHOJKI |WORD SEPARATOR|SECTION MARK|DOUBLE SECTION MARK|ABBREVIATION SIGN|SIGN SUKUN
11280 MULTANI LETTER |A|I|U|E|KA|KHA|GA
11288 MULTANI LETTER |GHA
1128A MULTANI LETTER |CA|CHA|JA|JJA
1128F MULTANI LETTER |NYA|TTA|TTHA|DDA|DDDA|DDHA|NNA|TA|THA|DA|DHA|NA|PA|PHA|BA
1129F MULTANI LETTER |BHA|MA|YA|RA|LA|VA|SA|HA|RRA|RHA
112A9 MULTANI SECTION |MARK
112B0 KHUDAWADI LETTER |A|AA|I|II|U|UU|E|AI|O|AU|KA|KHA|GA|GGA|GHA|NGA|CA|CHA|JA|JJA|JHA|NYA|TTA
112C7 KHUDAWADI LETTER |TTHA|DDA|DDDA|RRA|DDHA|NNA|TA|THA|DA|DHA|NA|PA|PHA|BA|BBA|BHA|MA|YA|RA|LA|VA
112DC KHUDAWADI |LETTER SHA|LETTER SA|LETTER HA|SIGN ANUSVARA
112E0 KHUDAWADI VOWEL SIGN |AA|I|II|U|UU|E|AI|O|AU
112E9 KHUDAWADI SIGN |NUKTA|VIRAMA
112F0 KHUDAWADI DIGIT |ZERO|ONE|TWO|THREE|FOUR|FIVE|SIX|SEVEN|EIGHT|NINE
11300 GRANTHA SIGN |COMBINING ANUSVARA ABOVE|CANDRABINDU|ANUSVARA|VISARGA
11305 GRANTHA LETTER |A|AA|I|II|U|UU|VOCALIC R|VOCALIC L
1130F GRANTHA LETTER |EE|AI
11313 GRANTHA LETTER |OO
11314 GRANTHA LETTER |AU|KA|KHA|GA|GHA|NGA|CA|CHA|JA|JHA|NYA|TTA|TTHA|DDA|DDHA|NNA|TA|THA|DA|DHA|NA
1132A GRANTHA LETTER |PA|PHA|BA|BHA|MA|YA|RA
11332 GRANTHA LETTER |LA|LLA
11335 GRANTHA LETTER |VA|SHA|SSA|SA|HA
1133B COMBINING BINDU |BELOW
1133C GRANTHA SIGN |NUKTA|AVAGRAHA
1133E GRANTHA VOWEL SIGN |AA|I|II|U|UU|VOCALIC R|VOCALIC RR
11347 GRANTHA VOWEL SIGN |EE|AI
1134B GRANTHA |VOWEL SIGN OO|VOWEL SIGN AU|SIGN VIRAMA
11350 GRANTHA |OM
11357 GRANTHA AU LENGTH |MARK
1135D GRANTHA SIGN |PLUTA
1135E GRANTHA LETTER |VEDIC ANUSVARA|VEDIC DOUBLE ANUSVARA|VOCALIC RR|VOCALIC LL
11362 GRANTHA VOWEL SIGN VOCALIC |L|LL
11366 COMBINING GRANTHA DIGIT |ZERO|ONE|TWO|THREE|FOUR|FIVE|SIX
11370 COMBINING GRANTHA LETTER |A|KA|NA|VI|PA
11400 NEWA LETTER |A|AA|I|II|U|UU
11406 NEWA LETTER VOCALIC |R|RR|L|LL
1140A NEWA LETTER |E|AI|O|AU|KA|KHA|GA|GHA|NGA|NGHA|CA|CHA|JA|JHA|NYA|NYHA|TTA|TTHA|DDA|DDHA
1141E NEWA LETTER |NNA|TA|THA|DA|DHA|NA|NHA|PA|PHA|BA|BHA|MA|MHA|YA|RA|RHA|LA|LHA|WA|SHA|SSA|SA|HA
11435 NEWA VOWEL SIGN |AA|I|II|U|UU|VOCALIC R|VOCALIC RR|VOCALIC L|VOCALIC LL|E|AI|O|AU
11442 NEWA SIGN |VIRAMA|CANDRABINDU|ANUSVARA|VISARGA|NUKTA|AVAGRAHA|FINAL ANUSVARA
11449 NEWA |OM|SIDDHI|DANDA|DOUBLE DANDA|COMMA|GAP FILLER|ABBREVIATION SIGN
11450 NEWA DIGIT |ZERO|ONE|TWO|THREE|FOUR|FIVE|SIX|SEVEN|EIGHT|NINE
1145A NEWA |DOUBLE COMMA|PLACEHOLDER MARK
1145D NEWA |INSERTION SIGN|SANDHI MARK|LETTER VEDIC ANUSVARA|SIGN JIHVAMULIYA|SIGN UPADHMANIYA
11480 TIRHUTA |ANJI
11481 TIRHUTA LETTER |A|AA|I|II|U|UU
11487 TIRHUTA LETTER VOCALIC |R|RR|L|LL
1148B TIRHUTA LETTER |E|AI|O|AU|KA|KHA|GA|GHA|NGA|CA|CHA|JA|JHA|NYA|TTA
1149A TIRHUTA LETTER |TTHA|DDA|DDHA|NNA|TA|THA|DA|DHA|NA|PA|PHA|BA|BHA|MA|YA|RA|LA|VA|SHA|SSA|SA|HA
114B0 TIRHUTA VOWEL SIGN |AA|I|II
114B3 TIRHUTA VOWEL SIGN |U|UU|VOCALIC R|VOCALIC RR|VOCALIC L|VOCALIC LL|E|SHORT E|AI|O|SHORT O|AU
114BF TIRHUTA SIGN |CANDRABINDU|ANUSVARA|VISARGA|VIRAMA|NUKTA|AVAGRAHA
114C5 TIRHUTA |GVANG|ABBREVIATION SIGN|OM
114D0 TIRHUTA DIGIT |ZERO|ONE|TWO|THREE|FOUR|FIVE|SIX|SEVEN|EIGHT|NINE
11580 SIDDHAM LETTER |A|AA|I|II|U|UU
11586 SIDDHAM LETTER VOCALIC |R|RR|L|LL
1158A SIDDHAM LETTER |E|AI|O|AU|KA|KHA|GA|GHA|NGA|CA|CHA|JA|JHA|NYA|TTA
11599 SIDDHAM LETTER |TTHA|DDA|DDHA|NNA|TA|THA|DA|DHA|NA|PA|PHA|BA|BHA|MA|YA|RA|LA|VA|SHA|SSA|SA|HA
115AF SIDDHAM VOWEL SIGN |AA|I|II|U|UU|VOCALIC R|VOCALIC RR
115B8 SIDDHAM VOWEL SIGN |E|AI|O|AU
115BC SIDDHAM SIGN |CANDRABINDU|ANUSVARA|VISARGA|VIRAMA|NUKTA|SIDDHAM
115C2 SIDDHAM |DANDA|DOUBLE DANDA|SEPARATOR DOT|SEPARATOR BAR
115C6 SIDDHAM REPETITION MARK-|1|2|3
115C9 SIDDHAM END OF TEXT |MARK
115CA SIDDHAM SECTION MARK WITH TRIDENT AND |U-SHAPED ORNAMENTS|DOTTED CRESCENTS
115CC SIDDHAM SECTION MARK WITH RAYS AND DOTTED |CRESCENTS|DOUBLE CRESCENTS|TRIPLE CRESCENTS
115CF SIDDHAM SECTION MARK |DOUBLE RING|DOUBLE RING WITH RAYS|WITH DOUBLE CRESCENTS
115D2 SIDDHAM SECTION MARK WITH |TRIPLE CRESCENTS|QUADRUPLE CRESCENTS|SEPTUPLE CRESCENTS
115D5 SIDDHAM SECTION MARK WITH CIRCLES AND |RAYS|TWO ENCLOSURES|FOUR ENCLOSURES
115D8 SIDDHAM LETTER THREE-CIRCLE ALTERNATE |I
115D9 SIDDHAM LETTER |TWO-CIRCLE ALTERNATE I|TWO-CIRCLE ALTERNATE II|ALTERNATE U
115DC SIDDHAM VOWEL SIGN ALTERNATE |U|UU
11600 MODI LETTER |A|AA|I|II|U|UU
11606 MODI LETTER VOCALIC |R|RR|L|LL
1160A MODI LETTER |E|AI|O|AU|KA|KHA|GA|GHA|NGA|CA|CHA|JA|JHA|NYA|TTA
11619 MODI LETTER |TTHA|DDA|DDHA|NNA|TA|THA|DA|DHA|NA|PA|PHA|BA|BHA|MA|YA|RA|LA|VA|SHA|SSA|SA|HA|LLA
11630 MODI VOWEL SIGN |AA|I|II|U|UU|VOCALIC R|VOCALIC RR|VOCALIC L|VOCALIC LL|E|AI|O|AU
1163D MODI SIGN |ANUSVARA|VISARGA|VIRAMA|ARDHACANDRA
11641 MODI |DANDA|DOUBLE DANDA|ABBREVIATION SIGN|SIGN HUVA
11650 MODI DIGIT |ZERO|ONE|TWO|THREE|FOUR|FIVE|SIX|SEVEN|EIGHT|NINE
11660 MONGOLIAN |BIRGA WITH ORNAMENT|ROTATED BIRGA
11662 MONGOLIAN |DOUBLE BIRGA WITH ORNAMENT|TRIPLE BIRGA WITH ORNAMENT|BIRGA WITH DOUBLE ORNAMENT
11665 MONGOLIAN ROTATED BIRGA WITH |ORNAMENT|DOUBLE ORNAMENT
11667 MONGOLIAN INVERTED |BIRGA|BIRGA WITH DOUBLE ORNAMENT
11669 MONGOLIAN SWIRL |BIRGA|BIRGA WITH ORNAMENT|BIRGA WITH DOUBLE ORNAMENT
1166C MONGOLIAN TURNED SWIRL BIRGA WITH DOUBLE |ORNAMENT
11680 TAKRI LETTER |A|AA|I|II|U|UU|E|AI|O|AU|KA|KHA|GA|GHA|NGA|CA|CHA|JA|JHA|NYA|TTA
11695 TAKRI LETTER |TTHA|DDA|DDHA|NNA|TA|THA|DA|DHA|NA|PA|PHA|BA|BHA|MA|YA|RA|LA|VA|SHA|SA|HA|RRA
116AB TAKRI SIGN |ANUSVARA|VISARGA
116AD TAKRI VOWEL SIGN |AA|I|II|U|UU|E|AI|O|AU
116B6 TAKRI |SIGN VIRAMA|SIGN NUKTA|LETTER ARCHAIC KHA|ABBREVIATION SIGN
116C0 TAKRI DIGIT |ZERO|ONE|TWO|THREE|FOUR|FIVE|SIX|SEVEN|EIGHT|NINE
11700 AHOM LETTER |KA|KHA|NGA|NA|TA|ALTERNATE TA|PA|PHA|BA
11709 AHOM LETTER |MA|JA|CHA|THA|RA|LA|SA|NYA|HA|A|DA|DHA|GA|ALTERNATE GA|GHA|BHA|JHA|ALTERNATE BA
1171D AHOM CONSONANT SIGN MEDIAL |LA|RA|LIGATING RA
11720 AHOM VOWEL SIGN |A|AA|I|II|U|UU|E|AW|O|AI|AM
1172B AHOM SIGN |KILLER
11730 AHOM DIGIT |ZERO|ONE|TWO|THREE|FOUR|FIVE|SIX|SEVEN|EIGHT|NINE
1173A AHOM |NUMBER TEN|NUMBER TWENTY|SIGN SMALL SECTION|SIGN SECTION|SIGN RULAI|SYMBOL VI
11740 AHOM LETTER |CA|TTA|TTHA|DDA|DDHA|NNA|LLA
11800 DOGRA LETTER |A|AA|I|II|U|UU|E|AI|O|AU|KA|KHA|GA|GHA|NGA|CA|CHA|JA|JHA|NYA|TTA|TTHA
11816 DOGRA LETTER |DDA|DDHA|NNA|TA|THA|DA|DHA|NA|PA|PHA|BA|BHA|MA|YA|RA|LA|VA|SHA|SSA|SA|HA|RRA
1182C DOGRA VOWEL SIGN |AA|I|II|U|UU|VOCALIC R|VOCALIC RR|E|AI|O|AU
11837 DOGRA SIGN |ANUSVARA|VISARGA|VIRAMA|NUKTA
1183B DOGRA ABBREVIATION |SIGN
118A0 WARANG CITI CAPITAL LETTER |NGAA|A|WI|YU|YA|YO|II|UU|E|O|ANG|GA|KO|ENY|YUJ|UC
118B0 WARANG CITI CAPITAL LETTER |ENN|ODD|TTE|NUNG|DA|AT|AM|BU|PU|HIYO|HOLO|HORR|HAR|SSUU|SII|VIYO
118C0 WARANG CITI SMALL LETTER |NGAA|A|WI|YU|YA|YO|II|UU|E|O|ANG|GA|KO|ENY|YUJ
118CF WARANG CITI SMALL LETTER |UC|ENN|ODD|TTE|NUNG|DA|AT|AM|BU|PU|HIYO|HOLO|HORR|HAR|SSUU|SII|VIYO
118E0 WARANG CITI DIGIT |ZERO|ONE|TWO|THREE|FOUR|FIVE|SIX|SEVEN|EIGHT|NINE
118EA WARANG CITI NUMBER |TEN|TWENTY|THIRTY|FORTY|FIFTY|SIXTY|SEVENTY|EIGHTY|NINETY
118FF WARANG CITI |OM
11900 DIVES AKURU LETTER |A|AA|I|II|U|UU|E
11909 DIVES AKURU LETTER |O
1190C DIVES AKURU LETTER |KA|KHA|GA|GHA|NGA|CA|CHA|JA
11915 DIVES AKURU LETTER |NYA|TTA
11918 DIVES AKURU LETTER |DDA|DDHA
1191A DIVES AKURU LETTER |NNA|TA|THA|DA|DHA|NA|PA|PHA|BA|BHA|MA|YA|YYA|RA|LA|VA|SHA|SSA|SA|HA|LLA|ZA
11930 DIVES AKURU VOWEL SIGN |AA|I|II|U|UU|E
11937 DIVES AKURU VOWEL SIGN |AI|O
1193B DIVES AKURU |SIGN ANUSVARA|SIGN CANDRABINDU|SIGN HALANTA|VIRAMA|PREFIXED NASAL SIGN|MEDIAL YA
11941 DIVES AKURU |INITIAL RA|MEDIAL RA|SIGN NUKTA|DOUBLE DANDA|GAP FILLER|END OF TEXT MARK
11950 DIVES AKURU DIGIT |ZERO|ONE|TWO|THREE|FOUR|FIVE|SIX|SEVEN|EIGHT|NINE
119A0 NANDINAGARI LETTER |A|AA|I|II|U|UU|VOCALIC R|VOCALIC RR
119AA NANDINAGARI LETTER |E|AI|O|AU|KA|KHA|GA|GHA|NGA|CA|CHA|JA|JHA|NYA|TTA|TTHA|DDA|DDHA
119BC NANDINAGARI LETTER |NNA|TA|THA|DA|DHA|NA|PA|PHA|BA|BHA|MA|YA|RA|LA|VA|SHA|SSA|SA|HA|LLA|RRA
119D1 NANDINAGARI VOWEL SIGN |AA|I|II|U|UU|VOCALIC R|VOCALIC RR
119DA NANDINAGARI VOWEL SIGN |E|AI|O|AU
119DE NANDINAGARI SIGN |ANUSVARA|VISARGA|VIRAMA|AVAGRAHA|SIDDHAM
119E3 NANDINAGARI |HEADSTROKE|VOWEL SIGN PRISHTHAMATRA E
11A00 ZANABAZAR SQUARE LETTER |A
11A01 ZANABAZAR SQUARE VOWEL SIGN |I|UE|U|E|OE|O|AI|AU|REVERSED I
11A0A ZANABAZAR SQUARE VOWEL LENGTH |MARK
11A0B ZANABAZAR SQUARE LETTER |KA|KHA|GA|GHA|NGA|CA|CHA|JA|NYA|TTA|TTHA|DDA|DDHA|NNA|TA|THA|DA|DHA
11A1D ZANABAZAR SQUARE LETTER |NA|PA|PHA|BA|BHA|MA|TSA|TSHA|DZA|DZHA|ZHA|ZA|-A|YA|RA|LA|VA|SHA|SSA
11A30 ZANABAZAR SQUARE |LETTER SA|LETTER HA|LETTER KSSA|FINAL CONSONANT MARK
11A34 ZANABAZAR SQUARE SIGN |VIRAMA|CANDRABINDU|CANDRABINDU WITH ORNAMENT|CANDRA WITH ORNAMENT
11A38 ZANABAZAR SQUARE |SIGN ANUSVARA|SIGN VISARGA|CLUSTER-INITIAL LETTER RA
11A3B ZANABAZAR SQUARE CLUSTER-FINAL LETTER |YA|RA|LA|VA
11A3F ZANABAZAR SQUARE |INITIAL HEAD MARK|CLOSING HEAD MARK
11A41 ZANABAZAR SQUARE MARK |TSHEG|SHAD|DOUBLE SHAD|LONG TSHEG
11A45 ZANABAZAR SQUARE |INITIAL DOUBLE-LINED HEAD MARK|CLOSING DOUBLE-LINED HEAD MARK|SUBJOINER
11A50 SOYOMBO LETTER |A
11A51 SOYOMBO VOWEL SIGN |I|UE|U|E|O|OE|AI|AU|VOCALIC R|VOCALIC L
11A5B SOYOMBO VOWEL LENGTH |MARK
11A5C SOYOMBO LETTER |KA|KHA|GA|GHA|NGA|CA|CHA|JA|JHA|NYA|TTA|TTHA|DDA|DDHA|NNA|TA|THA|DA
11A6E SOYOMBO LETTER |DHA|NA|PA|PHA|BA|BHA|MA|TSA|TSHA|DZA|ZHA|ZA|-A|YA|RA|LA|VA|SHA|SSA|SA|HA|KSSA
11A84 SOYOMBO SIGN |JIHVAMULIYA|UPADHMANIYA
11A86 SOYOMBO CLUSTER-INITIAL LETTER |RA|LA|SHA|SA
11A8A SOYOMBO FINAL CONSONANT SIGN |G|K|NG|D|N|B|M|R|L|SH|S|-A
11A96 SOYOMBO |SIGN ANUSVARA|SIGN VISARGA|GEMINATION MARK|SUBJOINER
11A9A SOYOMBO MARK |TSHEG|SHAD|DOUBLE SHAD|PLUTA
11A9E SOYOMBO HEAD MARK WITH MOON AND |SUN AND TRIPLE FLAME|SUN AND FLAME|SUN
11AA1 SOYOMBO TERMINAL MARK-|1|2
11AB0 CANADIAN SYLLABICS NATTILIK |HI|HII|HO|HOO|HA|HAA|SHRI|SHRII|SHRO|SHROO|SHRA|SHRAA
11ABC CANADIAN SYLLABICS |SPE|SPI|SPO|SPA
11AC0 PAU CIN HAU LETTER |PA|KA|LA
11AC3 PAU CIN HAU LETTER |MA|DA|ZA|VA|NGA|HA|GA|KHA|SA|BA|CA|TA|THA|NA|PHA|RA|FA|CHA|A|E|I|O|U|UA|IA
11ADC PAU CIN HAU LETTER FINAL |P|K|T|M|N|L|W|NG|Y
11AE5 PAU CIN HAU |RISING TONE LONG|RISING TONE|SANDHI GLOTTAL STOP
11AE8 PAU CIN HAU RISING TONE |LONG FINAL|FINAL
11AEA PAU CIN HAU SANDHI |GLOTTAL STOP FINAL|TONE LONG|TONE|TONE LONG FINAL|TONE FINAL
11AEF PAU CIN HAU |MID-LEVEL TONE|GLOTTAL STOP VARIANT|MID-LEVEL TONE LONG FINAL
11AF2 PAU CIN HAU |MID-LEVEL TONE FINAL|LOW-FALLING TONE LONG|LOW-FALLING TONE|GLOTTAL STOP
11AF6 PAU CIN HAU |LOW-FALLING TONE LONG FINAL|LOW-FALLING TONE FINAL|GLOTTAL STOP FINAL
11C00 BHAIKSUKI LETTER |A|AA|I|II|U|UU|VOCALIC R|VOCALIC RR|VOCALIC L
11C0A BHAIKSUKI LETTER |E|AI|O|AU|KA|KHA|GA|GHA|NGA|CA|CHA|JA|JHA|NYA|TTA|TTHA
11C1A BHAIKSUKI LETTER |DDA|DDHA|NNA|TA|THA|DA|DHA|NA|PA|PHA|BA|BHA|MA|YA|RA|LA|VA|SHA|SSA|SA|HA
11C2F BHAIKSUKI VOWEL SIGN |AA|I|II|U|UU|VOCALIC R|VOCALIC RR|VOCALIC L
11C38 BHAIKSUKI VOWEL SIGN |E|AI|O|AU
11C3C BHAIKSUKI SIGN |CANDRABINDU|ANUSVARA|VISARGA|VIRAMA|AVAGRAHA
11C41 BHAIKSUKI |DANDA|DOUBLE DANDA|WORD SEPARATOR|GAP FILLER-1|GAP FILLER-2
11C50 BHAIKSUKI DIGIT |ZERO|ONE|TWO|THREE|FOUR|FIVE|SIX|SEVEN|EIGHT|NINE
11C5A BHAIKSUKI NUMBER |ONE|TWO|THREE|FOUR|FIVE|SIX
11C60 BHAIKSUKI NUMBER |SEVEN|EIGHT|NINE|TEN|TWENTY|THIRTY|FORTY|FIFTY|SIXTY|SEVENTY|EIGHTY|NINETY
11C6C BHAIKSUKI HUNDREDS UNIT |MARK
11C70 MARCHEN |HEAD MARK|MARK SHAD
11C72 MARCHEN LETTER |KA|KHA|GA|NGA|CA|CHA|JA
11C79 MARCHEN LETTER |NYA|TA|THA|DA|NA|PA|PHA|BA|MA|TSA|TSHA|DZA|WA|ZHA|ZA|-A|YA|RA|LA|SHA|SA|HA|A
11C92 MARCHEN SUBJOINED LETTER |KA|KHA|GA
11C95 MARCHEN SUBJOINED LETTER |NGA|CA|CHA|JA|NYA|TA|THA|DA|NA|PA|PHA|BA|MA|TSA|TSHA|DZA|WA|ZHA|ZA
11CA9 MARCHEN SUBJOINED LETTER |YA|RA|LA|SHA|SA|HA|A
11CB0 MARCHEN VOWEL SIGN |AA|I|U|E|O
11CB5 MARCHEN SIGN |ANUSVARA|CANDRABINDU
11D00 MASARAM GONDI LETTER |A|AA|I|II|U|UU|E
11D08 MASARAM GONDI LETTER |AI|O
11D0B MASARAM GONDI LETTER |AU|KA|KHA|GA|GHA|NGA|CA|CHA|JA|JHA|NYA|TTA|TTHA|DDA|DDHA|NNA|TA|THA
11D1D MASARAM GONDI LETTER |DA|DHA|NA|PA|PHA|BA|BHA|MA|YA|RA|LA|VA|SHA|SSA|SA|HA|LLA|KSSA|JNYA|TRA
11D31 MASARAM GONDI VOWEL SIGN |AA|I|II|U|UU|VOCALIC R
11D3A MASARAM GONDI VOWEL SIGN |E
11D3C MASARAM GONDI VOWEL SIGN |AI|O
11D3F MASARAM GONDI |VOWEL SIGN AU|SIGN ANUSVARA
11D41 MASARAM GONDI |SIGN VISARGA|SIGN NUKTA|SIGN CANDRA|SIGN HALANTA|VIRAMA|REPHA|RA-KARA
11D50 MASARAM GONDI DIGIT |ZERO|ONE|TWO|THREE|FOUR|FIVE|SIX|SEVEN|EIGHT|NINE
11D60 GUNJALA GONDI LETTER |A|AA|I|II|U|UU
11D67 GUNJALA GONDI LETTER |EE|AI
11D6A GUNJALA GONDI LETTER |OO|AU|YA|VA|BA|BHA|MA|KA|KHA|TA|THA|LA
11D76 GUNJALA GONDI LETTER |GA|GHA|DA|DHA|NA|CA|CHA|TTA|TTHA|LLA|JA|JHA|DDA|DDHA|NGA|PA|PHA|HA|RA|SA
11D8A GUNJALA GONDI VOWEL SIGN |AA|I|II|U|UU
11D90 GUNJALA GONDI VOWEL SIGN |EE|AI
11D93 GUNJALA GONDI |VOWEL SIGN OO|VOWEL SIGN AU|SIGN ANUSVARA|SIGN VISARGA|VIRAMA|OM
11DA0 GUNJALA GONDI DIGIT |ZERO|ONE|TWO|THREE|FOUR|FIVE|SIX|SEVEN|EIGHT|NINE
11EE0 MAKASAR LETTER |KA|GA|NGA|PA|BA|MA|TA|DA|NA|CA|JA|NYA|YA|RA|LA|VA|SA|A
11EF2 MAKASAR |ANGKA
11EF3 MAKASAR VOWEL SIGN |I|U|E|O
11EF7 MAKASAR |PASSIMBANG|END OF SECTION
11FB0 LISU LETTER |YHA
11FC0 TAMIL FRACTION ONE THREE-HUNDRED-AND-|TWENTIETH
11FC1 TAMIL FRACTION ONE |ONE-HUNDRED-AND-SIXTIETH|EIGHTIETH|SIXTY-FOURTH|FORTIETH|THIRTY-SECOND
11FC6 TAMIL FRACTION THREE |EIGHTIETHS|SIXTY-FOURTHS
11FC8 TAMIL FRACTION ONE |TWENTIETH|SIXTEENTH-1|SIXTEENTH-2|TENTH|EIGHTH
11FCD TAMIL FRACTION |THREE TWENTIETHS|THREE SIXTEENTHS|ONE FIFTH
11FD0 TAMIL FRACTION |ONE QUARTER|ONE HALF-1|ONE HALF-2|THREE QUARTERS|DOWNSCALING FACTOR KIIZH
11FD5 TAMIL SIGN |NEL|CEVITU|AAZHAAKKU|UZHAKKU
11FD9 TAMIL SIGN |MUUVUZHAKKU|KURUNI|PATHAKKU|MUKKURUNI|KAACU|PANAM|PON|VARAAKAN|PAARAM|KUZHI|VELI
11FE4 TAMIL |WET CULTIVATION SIGN|DRY CULTIVATION SIGN|LAND SIGN|SALT PAN SIGN
11FE8 TAMIL TRADITIONAL |CREDIT SIGN|NUMBER SIGN
11FEA TAMIL |CURRENT SIGN|AND ODD SIGN|SPENT SIGN|TOTAL SIGN|IN POSSESSION SIGN|STARTING FROM SIGN
11FF0 TAMIL SIGN |MUTHALIYA|VAKAIYARAA
11FFF |TAMIL PUNCTUATION END OF TEXT|CUNEIFORM SIGN A
12001 CUNEIFORM SIGN A TIMES |A|BAD|GAN2 TENU|HA|IGI|LAGAR GUNU|MUSH|SAG
12009 CUNEIFORM SIGN |A2|AB
1200B CUNEIFORM SIGN AB TIMES |ASH2|DUN3 GUNU|GAL|GAN2 TENU|HA|IGI GUNU|IMIN|LAGAB|SHESH
12014 CUNEIFORM SIGN |AB TIMES U PLUS U PLUS U|AB GUNU|AB2
12017 CUNEIFORM SIGN AB2 TIMES |BALAG|GAN2 TENU|ME PLUS EN|SHA3|TAK4
1201C CUNEIFORM SIGN |AD|AK|AK TIMES ERIN2|AK TIMES SHITA PLUS GISH|AL
12021 CUNEIFORM SIGN AL TIMES |AL|DIM2|GISH|HA|KAD3|KI|SHE|USH
12029 CUNEIFORM SIGN |ALAN|ALEPH|AMAR|AMAR TIMES SHE|AN|AN OVER AN|AN THREE TIMES
12030 CUNEIFORM SIGN AN PLUS NAGA |OPPOSING AN PLUS NAGA|SQUARED
12032 CUNEIFORM SIGN |ANSHE|APIN|ARAD|ARAD TIMES KUR|ARKAB|ASAL2|ASH
12039 CUNEIFORM SIGN ASH |ZIDA TENU|KABA TENU|OVER ASH TUG2 OVER TUG2 TUG2 OVER TUG2 PAP
1203C CUNEIFORM SIGN ASH OVER ASH OVER |ASH|ASH CROSSING ASH OVER ASH OVER ASH
1203E CUNEIFORM SIGN |ASH2|ASHGAB|BA|BAD|BAG3|BAHAR2|BAL|BAL OVER BAL|BALAG|BAR|BARA2|BI
1204A CUNEIFORM SIGN BI TIMES |A|GAR|IGI GUNU
1204D CUNEIFORM SIGN |BU|BU OVER BU AB|BU OVER BU UN|BU CROSSING BU|BULUG|BULUG OVER BULUG
12053 CUNEIFORM SIGN |BUR|BUR2|DA|DAG|DAG KISIM5 TIMES A PLUS MASH|DAG KISIM5 TIMES AMAR
12059 CUNEIFORM SIGN DAG KISIM5 TIMES |BALAG|BI|GA|GA PLUS MASH|GI|GIR2|GUD|HA|IR|IR PLUS LU|KAK|LA
12065 CUNEIFORM SIGN DAG KISIM5 TIMES |LU|LU PLUS MASH2|LUM|NE|PAP PLUS PAP|SI|TAK4|U2 PLUS GIR2|USH
1206E CUNEIFORM SIGN |DAM
1206F CUNEIFORM SIGN |DAR|DARA3|DARA4|DI|DIB|DIM|DIM TIMES SHE|DIM2|DIN|DIN KASKAL U GUNU DISH|DISH
1207A CUNEIFORM SIGN |DU|DU OVER DU|DU GUNU|DU SHESHIG|DUB|DUB TIMES ESH2|DUB2|DUG|DUGUD|DUH|DUN
12085 CUNEIFORM SIGN |DUN3|DUN3 GUNU|DUN3 GUNU GUNU|DUN4|DUR2|E|E TIMES PAP|E OVER E NUN OVER NUN|E2
1208E CUNEIFORM SIGN E2 TIMES |A PLUS HA PLUS DA|GAR|MI|SAL|SHE|U
12094 CUNEIFORM SIGN |EDIN|EGIR|EL|EN
12098 CUNEIFORM SIGN EN |TIMES GAN2|TIMES GAN2 TENU|TIMES ME|CROSSING EN|OPPOSING EN|SQUARED
1209E CUNEIFORM SIGN |EREN|ERIN2|ESH2|EZEN|EZEN TIMES A|EZEN TIMES A PLUS LAL
120A4 CUNEIFORM SIGN EZEN TIMES |A PLUS LAL TIMES LAL|AN|BAD|DUN3 GUNU|DUN3 GUNU GUNU|HA|HA GUNU
120AB CUNEIFORM SIGN EZEN TIMES |IGI GUNU|KASKAL|KASKAL SQUARED|KU3|LA|LAL TIMES LAL|LI|LU|U2|UD
120B5 CUNEIFORM SIGN |GA|GA GUNU|GA2
120B8 CUNEIFORM SIGN GA2 TIMES |A PLUS DA PLUS HA|A PLUS HA|A PLUS IGI|AB2 TENU PLUS TAB
120BC CUNEIFORM SIGN GA2 TIMES |AN|ASH|ASH2 PLUS GAL|BAD|BAR PLUS RA|BUR|BUR PLUS RA|DA
120C4 CUNEIFORM SIGN GA2 TIMES |DI|DIM TIMES SHE|DUB|EL|EL PLUS LA|EN|EN TIMES GAN2 TENU|GAN2 TENU
120CC CUNEIFORM SIGN GA2 TIMES |GAR|GI|GI4|GI4 PLUS A|GIR2 PLUS SU|HA PLUS LU PLUS ESH2|HAL
120D3 CUNEIFORM SIGN GA2 TIMES |HAL PLUS LA|HI PLUS LI|HUB2|IGI GUNU|ISH PLUS HU PLUS ASH|KAK|KASKAL
120DA CUNEIFORM SIGN GA2 TIMES |KID|KID PLUS LAL|KU3 PLUS AN|LA|ME PLUS EN|MI|NUN|NUN OVER NUN
120E2 CUNEIFORM SIGN GA2 TIMES |PA|SAL|SAR|SHE|SHE PLUS TUR|SHID|SUM|TAK4|U|UD|UD PLUS DU
120ED CUNEIFORM SIGN |GA2 OVER GA2|GABA|GABA CROSSING GABA|GAD
120F1 CUNEIFORM SIGN |GAD OVER GAD GAR OVER GAR|GAL|GAL GAD OVER GAD GAR OVER GAR|GALAM|GAM|GAN|GAN2
120F8 CUNEIFORM SIGN GAN2 |TENU|OVER GAN2|CROSSING GAN2
120FB CUNEIFORM SIGN |GAR|GAR3|GASHAN|GESHTIN|GESHTIN TIMES KUR|GI|GI TIMES E|GI TIMES U
12103 CUNEIFORM SIGN |GI CROSSING GI|GI4|GI4 OVER GI4|GI4 CROSSING GI4|GIDIM|GIR2|GIR2 GUNU|GIR3
1210B CUNEIFORM SIGN GIR3 TIMES |A PLUS IGI|GAN2 TENU|IGI|LU PLUS IGI|PA
12110 CUNEIFORM SIGN |GISAL|GISH|GISH CROSSING GISH
12113 CUNEIFORM SIGN |GISH TIMES BAD|GISH TIMES TAK4|GISH TENU|GU|GU CROSSING GU|GU2
12119 CUNEIFORM SIGN GU2 TIMES |KAK|KAK TIMES IGI GUNU|NUN|SAL PLUS TUG2
1211D CUNEIFORM SIGN |GU2 GUNU|GUD|GUD TIMES A PLUS KUR|GUD TIMES KUR|GUD OVER GUD LUGAL
12122 CUNEIFORM SIGN |GUL|GUM|GUM TIMES SHE|GUR|GUR7|GURUN|GURUSH|HA|HA TENU|HA GUNU|HAL|HI
1212E CUNEIFORM SIGN HI TIMES |ASH|ASH2|BAD|DISH|GAD|KIN|NUN|SHE|U
12137 CUNEIFORM SIGN |HU|HUB2
12139 CUNEIFORM SIGN HUB2 TIMES |AN|HAL|KASKAL|LISH|UD
1213E CUNEIFORM SIGN |HUL2|I|I A|IB|IDIM|IDIM OVER IDIM BUR|IDIM OVER IDIM SQUARED|IG|IGI
12147 CUNEIFORM SIGN IGI |DIB|RI|OVER IGI SHIR OVER SHIR UD OVER UD|GUNU
1214B CUNEIFORM SIGN |IL|IL TIMES GAN2 TENU|IL2
1214E CUNEIFORM SIGN |IM|IM TIMES TAK4|IM CROSSING IM|IM OPPOSING IM|IM SQUARED|IMIN|IN|IR|ISH|KA
12158 CUNEIFORM SIGN KA TIMES |A|AD|AD PLUS KU3|ASH2
1215C CUNEIFORM SIGN KA TIMES |BAD|BALAG|BAR|BI|ERIN2|ESH2|GA|GAL|GAN2 TENU|GAR|GAR PLUS SHA3 PLUS A
12167 CUNEIFORM SIGN KA TIMES |GI|GIR2|GISH PLUS SAR|GISH CROSSING GISH|GU|GUR7|IGI|IM|KAK|KI|KID
12172 CUNEIFORM SIGN KA TIMES |LI|LU|ME|ME PLUS DU|ME PLUS GI|ME PLUS TE|MI|MI PLUS NUNUZ|NE|NUN|PI
1217D CUNEIFORM SIGN KA TIMES |RU|SA|SAR|SHA|SHE|SHID|SHU|SIG|SUHUR|TAR|U|U2|UD|UMUM TIMES PA|USH|ZI
1218D CUNEIFORM SIGN |KA2|KA2 CROSSING KA2|KAB
12190 CUNEIFORM SIGN |KAD2|KAD3|KAD4|KAD5|KAD5 OVER KAD5|KAK|KAK TIMES IGI GUNU|KAL|KAL TIMES BAD
12199 CUNEIFORM SIGN |KAL CROSSING KAL|KAM2|KAM4|KASKAL|KASKAL LAGAB TIMES U OVER LAGAB TIMES U
1219E CUNEIFORM SIGN |KASKAL OVER KASKAL LAGAB TIMES U OVER LAGAB TIMES U|KESH2|KI|KI TIMES BAD
121A2 CUNEIFORM SIGN |KI TIMES U|KI TIMES UD|KID|KIN|KISAL|KISH|KISIM5|KISIM5 OVER KISIM5
121AA CUNEIFORM SIGN |KU|KU OVER HI TIMES ASH2 KU OVER HI TIMES ASH2|KU3|KU4|KU4 VARIANT FORM
121AF CUNEIFORM SIGN |KU7|KUL|KUL GUNU|KUN|KUR|KUR OPPOSING KUR|KUSHU2|KWU318|LA|LAGAB
121B9 CUNEIFORM SIGN LAGAB TIMES |A|A PLUS DA PLUS HA|A PLUS GAR|A PLUS LAL|AL|AN|ASH ZIDA TENU
121C0 CUNEIFORM SIGN LAGAB TIMES |BAD|BI|DAR|EN|GA|GAR|GUD|GUD PLUS GUD|HA|HAL|HI TIMES NUN|IGI GUNU
121CC CUNEIFORM SIGN LAGAB TIMES |IM|IM PLUS HA|IM PLUS LU|KI|KIN|KU3|KUL|KUL PLUS HI PLUS A
121D4 CUNEIFORM SIGN LAGAB TIMES |LAGAB|LISH|LU|LUL|ME|ME PLUS EN|MUSH|NE|SHE PLUS SUM
121DD CUNEIFORM SIGN LAGAB TIMES SHITA PLUS GISH |PLUS ERIN2|TENU
121DF CUNEIFORM SIGN LAGAB TIMES |SHU2|SHU2 PLUS SHU2|SUM|TAG|TAK4|TE PLUS A PLUS SU PLUS NA
121E5 CUNEIFORM SIGN LAGAB TIMES |U|U PLUS A|U PLUS U PLUS U|U2 PLUS ASH|UD|USH
121EB CUNEIFORM SIGN |LAGAB SQUARED|LAGAR|LAGAR TIMES SHE|LAGAR TIMES SHE PLUS SUM|LAGAR GUNU
121F0 CUNEIFORM SIGN |LAGAR GUNU OVER LAGAR GUNU SHE|LAHSHU|LAL|LAL TIMES LAL|LAM|LAM TIMES KUR
121F6 CUNEIFORM SIGN |LAM TIMES KUR PLUS RU|LI|LIL|LIMMU2|LISH|LU|LU TIMES BAD|LU2|LU2 TIMES AL
121FF CUNEIFORM SIGN LU2 TIMES |BAD|ESH2|ESH2 TENU|GAN2 TENU|HI TIMES BAD|IM|KAD2|KAD3|KAD3 PLUS ASH
12208 CUNEIFORM SIGN LU2 TIMES |KI|LA PLUS ASH|LAGAB|ME PLUS EN|NE|NU|SI PLUS ASH|SIK2 PLUS BU|TUG2
12211 CUNEIFORM SIGN LU2 |TENU|CROSSING LU2|OPPOSING LU2|SQUARED|SHESHIG
12216 CUNEIFORM SIGN |LU3|LUGAL|LUGAL OVER LUGAL|LUGAL OPPOSING LUGAL|LUGAL SHESHIG|LUH
1221C CUNEIFORM SIGN |LUL|LUM|LUM OVER LUM|LUM OVER LUM GAR OVER GAR|MA|MA TIMES TAK4|MA GUNU|MA2
12224 CUNEIFORM SIGN |MAH|MAR|MASH|MASH2|ME|MES|MI|MIN|MU|MU OVER MU|MUG|MUG GUNU|MUNSUB|MURGU2|MUSH
12233 CUNEIFORM SIGN MUSH TIMES |A|KUR|ZA
12236 CUNEIFORM SIGN |MUSH OVER MUSH|MUSH OVER MUSH TIMES A PLUS NA|MUSH CROSSING MUSH|MUSH3
1223A CUNEIFORM SIGN MUSH3 TIMES |A|A PLUS DI|DI
1223D CUNEIFORM SIGN |MUSH3 GUNU|NA|NA2|NAGA|NAGA INVERTED|NAGA TIMES SHU TENU|NAGA OPPOSING NAGA
12244 CUNEIFORM SIGN |NAGAR|NAM NUTILLU|NAM|NAM2|NE|NE TIMES A|NE TIMES UD|NE SHESHIG
1224C CUNEIFORM SIGN |NI|NI TIMES E|NI2|NIM|NIM TIMES GAN2 TENU|NIM TIMES GAR PLUS GAN2 TENU|NINDA2
12253 CUNEIFORM SIGN NINDA2 TIMES |AN|ASH|ASH PLUS ASH|GUD|ME PLUS GAN2 TENU|NE|NUN|SHE
1225B CUNEIFORM SIGN NINDA2 TIMES |SHE PLUS A AN|SHE PLUS ASH|SHE PLUS ASH PLUS ASH|U2 PLUS ASH|USH
12260 CUNEIFORM SIGN |NISAG|NU|NU11|NUN
12264 CUNEIFORM SIGN NUN LAGAR TIMES |GAR|MASH|SAL|SAL OVER NUN LAGAR TIMES SAL|USH
12269 CUNEIFORM SIGN |NUN TENU|NUN OVER NUN|NUN CROSSING NUN|NUN CROSSING NUN LAGAR OVER LAGAR|NUNUZ
1226E CUNEIFORM SIGN NUNUZ AB2 TIMES |ASHGAB|BI|DUG|GUD|IGI GUNU|KAD3|LA|NE|SILA3|U2
12278 CUNEIFORM SIGN |NUNUZ KISIM5 TIMES BI|NUNUZ KISIM5 TIMES BI U|PA|PAD|PAN|PAP|PESH2|PI
12280 CUNEIFORM SIGN PI TIMES |A|AB|BI|BU|E|I|IB|U|U2
12289 CUNEIFORM SIGN |PI CROSSING PI|PIRIG
1228B CUNEIFORM SIGN PIRIG TIMES |KAL|UD|ZA
1228E CUNEIFORM SIGN |PIRIG OPPOSING PIRIG|RA|RAB|RI|RU|SA|SAG NUTILLU|SAG
12296 CUNEIFORM SIGN SAG TIMES |A|DU|DUB|HA|KAK|KUR|LUM|MI|NUN|SAL|SHID|TAB|U2|UB|UM|UR|USH
122A7 CUNEIFORM SIGN |SAG OVER SAG|SAG GUNU|SAL|SAL LAGAB TIMES ASH2|SANGA2|SAR|SHA|SHA3
122AF CUNEIFORM SIGN SHA3 TIMES |A|BAD|GISH|NE|SHU2|TUR|U|U PLUS A
122B7 CUNEIFORM SIGN |SHA6|SHAB6|SHAR2|SHE|SHE HU
122BC CUNEIFORM SIGN SHE OVER SHE |GAD OVER GAD GAR OVER GAR|TAB OVER TAB GAR OVER GAR
122BE CUNEIFORM SIGN |SHEG9|SHEN|SHESH|SHESH2|SHESHLAM|SHID|SHID TIMES A|SHID TIMES IM|SHIM
122C7 CUNEIFORM SIGN SHIM TIMES |A|BAL|BULUG|DIN|GAR|IGI|IGI GUNU|KUSHU2|LUL|MUG|SAL
122D2 CUNEIFORM SIGN |SHINIG|SHIR|SHIR TENU|SHIR OVER SHIR BUR OVER BUR|SHITA
122D7 CUNEIFORM SIGN |SHU|SHU OVER INVERTED SHU|SHU2|SHUBUR|SI|SI GUNU|SIG|SIG4|SIG4 OVER SIG4 SHU2
122E0 CUNEIFORM SIGN |SIK2|SILA3|SU|SU OVER SU|SUD|SUD2|SUHUR|SUM|SUMASH|SUR|SUR9|TA|TA ASTERISK
122ED CUNEIFORM SIGN TA TIMES |HI|MI
122EF CUNEIFORM SIGN |TA GUNU|TAB|TAB OVER TAB NI OVER NI DISH OVER DISH|TAB SQUARED|TAG
122F4 CUNEIFORM SIGN TAG TIMES |BI|GUD|SHE|SHU|TUG2|UD
122FA CUNEIFORM SIGN |TAK4|TAR|TE|TE GUNU|TI|TI TENU|TIL|TIR|TIR TIMES TAK4
12303 CUNEIFORM SIGN TIR OVER |TIR|TIR GAD OVER GAD GAR OVER GAR
12305 CUNEIFORM SIGN |TU|TUG2|TUK|TUM|TUR|TUR OVER TUR ZA OVER ZA|U|U GUD|U U U
1230E CUNEIFORM SIGN U OVER U |PA OVER PA GAR OVER GAR|SUR OVER SUR|U REVERSED OVER U REVERSED
12311 CUNEIFORM SIGN |U2|UB|UD|UD KUSHU2
12315 CUNEIFORM SIGN UD TIMES |BAD|MI|U PLUS U PLUS U|U PLUS U PLUS U GUNU
12319 CUNEIFORM SIGN UD |GUNU|SHESHIG|SHESHIG TIMES BAD
1231C CUNEIFORM SIGN |UDUG|UM|UM TIMES LAGAB|UM TIMES ME PLUS DA|UM TIMES SHA3|UM TIMES U|UMBIN|UMUM
12324 CUNEIFORM SIGN |UMUM TIMES KASKAL|UMUM TIMES PA|UN|UN GUNU|UR|UR CROSSING UR|UR SHESHIG|UR2
1232C CUNEIFORM SIGN UR2 TIMES |A PLUS HA|A PLUS NA|AL|HA|NUN|U2|U2 PLUS ASH|U2 PLUS BI
12334 CUNEIFORM SIGN |UR4|URI|URI3|URU
12338 CUNEIFORM SIGN URU TIMES |A|ASHGAB|BAR|DUN|GA|GAL|GAN2 TENU
1233F CUNEIFORM SIGN URU TIMES |GAR|GU|HA|IGI|IM|ISH|KI|LUM|MIN|PA|SHE|SIG4|TU|U PLUS GUD|UD|URUDA
1234F CUNEIFORM SIGN |URUDA|URUDA TIMES U|USH
12352 CUNEIFORM SIGN USH TIMES |A|KU|KUR|TAK4
12356 CUNEIFORM SIGN |USHX|USH2|USHUMX|UTUKI|UZ3|UZ3 TIMES KASKAL|UZU|ZA
1235E CUNEIFORM SIGN |ZA TENU|ZA SQUARED TIMES KUR|ZAG|ZAMX|ZE2|ZI|ZI OVER ZI|ZI3|ZIB|ZIB KABA TENU
12368 CUNEIFORM SIGN |ZIG|ZIZ2|ZU|ZU5|ZU5 TIMES A|ZUBUR|ZUM|KAP ELAMITE|AB TIMES NUN|AB2 TIMES A
12372 CUNEIFORM SIGN |AMAR TIMES KUG|DAG KISIM5 TIMES U2 PLUS MASH|DAG3|DISH PLUS SHU|DUB TIMES SHE
12377 CUNEIFORM SIGN EZEN TIMES |GUD|SHE
12379 CUNEIFORM SIGN |GA2 TIMES AN PLUS KAK PLUS A|GA2 TIMES ASH2|GE22|GIG|HUSH
1237E CUNEIFORM SIGN KA TIMES |ANSHE|ASH3|GISH|GUD|HI TIMES ASH2|LUM|PA|SHUL|TU|UR2
12388 CUNEIFORM SIGN |LAGAB TIMES GI|LU2 SHESHIG TIMES BAD
1238A CUNEIFORM SIGN |LU2 TIMES ESH2 PLUS LAL|LU2 TIMES SHU|MESH|MUSH3 TIMES ZA
1238E CUNEIFORM SIGN |NA4|NIN|NIN9|NINDA2 TIMES BAL|NINDA2 TIMES GI|NU11 ROTATED NINETY DEGREES
12394 CUNEIFORM SIGN |PESH2 ASTERISK|PIR2|SAG TIMES IGI GUNU|TI2|UM TIMES ME|U U
12400 CUNEIFORM NUMERIC SIGN |TWO ASH|THREE ASH|FOUR ASH|FIVE ASH|SIX ASH|SEVEN ASH|EIGHT ASH
12407 CUNEIFORM NUMERIC SIGN |NINE ASH|THREE DISH|FOUR DISH|FIVE DISH|SIX DISH|SEVEN DISH|EIGHT DISH
1240E CUNEIFORM NUMERIC SIGN |NINE DISH|FOUR U|FIVE U|SIX U|SEVEN U|EIGHT U|NINE U|ONE GESH2
12416 CUNEIFORM NUMERIC SIGN |TWO GESH2|THREE GESH2|FOUR GESH2|FIVE GESH2|SIX GESH2|SEVEN GESH2
1241C CUNEIFORM NUMERIC SIGN |EIGHT GESH2|NINE GESH2|ONE GESHU|TWO GESHU|THREE GESHU|FOUR GESHU
12422 CUNEIFORM NUMERIC SIGN |FIVE GESHU|TWO SHAR2|THREE SHAR2|THREE SHAR2 VARIANT FORM|FOUR SHAR2
12427 CUNEIFORM NUMERIC SIGN |FIVE SHAR2|SIX SHAR2|SEVEN SHAR2|EIGHT SHAR2|NINE SHAR2|ONE SHARU
1242D CUNEIFORM NUMERIC SIGN |TWO SHARU|THREE SHARU|THREE SHARU VARIANT FORM|FOUR SHARU|FIVE SHARU
12432 CUNEIFORM NUMERIC SIGN SHAR2 TIMES GAL PLUS |DISH|MIN
12434 CUNEIFORM NUMERIC SIGN |ONE BURU|TWO BURU|THREE BURU|THREE BURU VARIANT FORM
12438 CUNEIFORM NUMERIC SIGN |FOUR BURU|FIVE BURU|THREE VARIANT FORM ESH16|THREE VARIANT FORM ESH21
1243C CUNEIFORM NUMERIC SIGN FOUR VARIANT FORM |LIMMU|LIMMU4|LIMMU A|LIMMU B
12440 CUNEIFORM NUMERIC SIGN SIX VARIANT FORM |ASH9
12441 CUNEIFORM NUMERIC SIGN SEVEN VARIANT FORM |IMIN3|IMIN A|IMIN B
12444 CUNEIFORM NUMERIC SIGN EIGHT VARIANT FORM |USSU|USSU3
12446 CUNEIFORM NUMERIC SIGN NINE VARIANT FORM |ILIMMU|ILIMMU3|ILIMMU4|ILIMMU A
1244A CUNEIFORM NUMERIC SIGN |TWO ASH TENU|THREE ASH TENU|FOUR ASH TENU|FIVE ASH TENU|SIX ASH TENU
1244F CUNEIFORM NUMERIC SIGN |ONE BAN2|TWO BAN2|THREE BAN2|FOUR BAN2|FOUR BAN2 VARIANT FORM
12454 CUNEIFORM NUMERIC SIGN FIVE |BAN2|BAN2 VARIANT FORM
12456 CUNEIFORM NUMERIC SIGN |NIGIDAMIN|NIGIDAESH|ONE ESHE3|TWO ESHE3|ONE THIRD DISH|TWO THIRDS DISH
1245C CUNEIFORM NUMERIC SIGN |FIVE SIXTHS DISH|ONE THIRD VARIANT FORM A|TWO THIRDS VARIANT FORM A
1245F CUNEIFORM NUMERIC SIGN |ONE EIGHTH ASH|ONE QUARTER ASH|OLD ASSYRIAN ONE SIXTH
12462 CUNEIFORM NUMERIC SIGN |OLD ASSYRIAN ONE QUARTER|ONE QUARTER GUR|ONE HALF GUR
12465 CUNEIFORM NUMERIC SIGN ELAMITE |ONE THIRD|TWO THIRDS|FORTY|FIFTY
12469 CUNEIFORM NUMERIC SIGN |FOUR U VARIANT FORM|FIVE U VARIANT FORM|SIX U VARIANT FORM
1246C CUNEIFORM NUMERIC SIGN |SEVEN U VARIANT FORM|EIGHT U VARIANT FORM|NINE U VARIANT FORM
12470 CUNEIFORM PUNCTUATION SIGN |OLD ASSYRIAN WORD DIVIDER|VERTICAL COLON
12472 CUNEIFORM PUNCTUATION SIGN DIAGONAL |COLON|TRICOLON|QUADCOLON
12480 CUNEIFORM SIGN |AB TIMES NUN TENU|AB TIMES SHU2|AD TIMES ESH2|BAD TIMES DISH TENU
12484 CUNEIFORM SIGN BAHAR2 TIMES |AB2|NI|ZA
12487 CUNEIFORM SIGN BU OVER BU TIMES |NA2
12488 CUNEIFORM SIGN |DA TIMES TAK4|DAG TIMES KUR|DIM TIMES IGI|DIM TIMES U U U|DIM2 TIMES UD
1248D CUNEIFORM SIGN DUG TIMES |ANSHE|ASH|ASH AT LEFT|DIN|DUN|ERIN2|GA|GI|GIR2 GUNU
12496 CUNEIFORM SIGN DUG TIMES |GISH|HA|HI|IGI GUNU|KASKAL|KUR|KUSHU2|KUSHU2 PLUS KASKAL|LAK-020
1249F CUNEIFORM SIGN DUG TIMES |LAM|LAM TIMES KUR|LUH PLUS GISH|MASH|MES|MI|NI|PI|SHE|SI GUNU
124A9 CUNEIFORM SIGN |E2 TIMES KUR|E2 TIMES PAP|ERIN2 X|ESH2 CROSSING ESH2
124AD CUNEIFORM SIGN EZEN SHESHIG TIMES |ASH|HI|IGI GUNU|LA|LAL|ME|MES|SU
124B5 CUNEIFORM SIGN EZEN TIMES |SU
124B6 CUNEIFORM SIGN GA2 TIMES |BAHAR2|DIM GUNU|DUG TIMES IGI GUNU|DUG TIMES KASKAL
124BA CUNEIFORM SIGN GA2 TIMES |EREN|GA|GAR PLUS DI|GAR PLUS NE|HA PLUS A|KUSHU2 PLUS KASKAL
124C0 CUNEIFORM SIGN GA2 TIMES |LAM|LAM TIMES KUR|LUH|MUSH|NE|NE PLUS E2|NE PLUS GI|SHIM|ZIZ2
124C9 CUNEIFORM SIGN GABA ROTATED NINETY |DEGREES
124CA CUNEIFORM SIGN |GESHTIN TIMES U|GISH TIMES GISH CROSSING GISH|GU2 TIMES IGI GUNU
124CD CUNEIFORM SIGN |GUD PLUS GISH TIMES TAK4|HA TENU GUNU|HI TIMES ASH OVER HI TIMES ASH
124D0 CUNEIFORM SIGN KA TIMES |BU|KA|U U U|UR
124D4 CUNEIFORM SIGN LAGAB TIMES ZU OVER |ZU
124D5 CUNEIFORM SIGN LAK-|003|021|025|030|050|051|062|079 OVER LAK-079 GUNU|080|081 OVER LAK-081|092
124E0 CUNEIFORM SIGN LAK-|130|142|210|219|220|225|228|238|265|266|343|347|348|383|384|390|441|449
124F2 CUNEIFORM SIGN LAK-449 TIMES |GU|IGI|PAP PLUS LU3|PAP PLUS PAP PLUS LU3|U2 PLUS BA
124F7 CUNEIFORM SIGN LAK-|450|457|470|483|490|492|493|495|550|608|617
12502 CUNEIFORM SIGN LAK-617 TIMES |ASH|BAD|DUN3 GUNU GUNU|KU3|LA|TAR|TE|U2|UD|URUDA
1250C CUNEIFORM SIGN LAK-|636|648|648 TIMES DUB
1250F CUNEIFORM SIGN LAK-648 TIMES |GA|IGI|IGI GUNU|NI|PAP PLUS PAP PLUS LU3|SHESH PLUS KI|UD|URUDA
12517 CUNEIFORM SIGN |LAK-724|LAK-749|LU2 GUNU TIMES ASH
1251A CUNEIFORM SIGN LU2 TIMES |DISH|HAL|PAP|PAP PLUS PAP PLUS LU3|TAK4
1251F CUNEIFORM SIGN |MI PLUS ZA7|MUSH OVER MUSH TIMES GA|MUSH OVER MUSH TIMES KAK
12522 CUNEIFORM SIGN NINDA2 TIMES |DIM GUNU|GISH|GUL|HI|KESH2|LAK-050|MASH|PAP PLUS PAP|U|U PLUS U
1252C CUNEIFORM SIGN |NINDA2 TIMES URUDA|SAG GUNU TIMES HA|SAG TIMES EN|SAG TIMES SHE AT LEFT
12530 CUNEIFORM SIGN |SAG TIMES TAK4|SHA6 TENU|SHE OVER SHE|SHE PLUS HUB2|SHE PLUS NAM2|SHE PLUS SAR
12536 CUNEIFORM SIGN |SHU2 PLUS DUG TIMES NI|SHU2 PLUS E2 TIMES AN|SI TIMES TAK4|TAK4 PLUS SAG
1253A CUNEIFORM SIGN |TUM TIMES GAN2 TENU|TUM TIMES THREE DISH|UR2 INVERTED|UR2 TIMES UD
1253E CUNEIFORM SIGN URU TIMES |DARA3|LAK-668|LU3
12541 CUNEIFORM SIGN |ZA7|ZU OVER ZU PLUS SAR|ZU5 TIMES THREE DISH TENU
12F90 CYPRO-MINOAN SIGN |CM001|CM002|CM004
12F93 CYPRO-MINOAN SIGN |CM005|CM006|CM007|CM008|CM009|CM010|CM011|CM012|CM012B|CM013|CM015|CM017
12F9F CYPRO-MINOAN SIGN |CM019|CM021|CM023|CM024|CM025|CM026|CM027|CM028|CM029|CM030|CM033|CM034
12FAB CYPRO-MINOAN SIGN |CM035|CM036|CM037|CM038|CM039|CM040|CM041|CM044|CM046|CM047|CM049|CM050
12FB7 CYPRO-MINOAN SIGN |CM051|CM052|CM053|CM054|CM055|CM056|CM058|CM059|CM060|CM061|CM062|CM063
12FC3 CYPRO-MINOAN SIGN |CM064|CM066|CM067|CM068|CM069|CM070|CM071|CM072|CM073|CM074|CM075|CM075B
12FCF CYPRO-MINOAN SIGN |CM076|CM078|CM079|CM080|CM081|CM082|CM083|CM084|CM085|CM086|CM087|CM088
12FDB CYPRO-MINOAN SIGN |CM089|CM090|CM091|CM092|CM094|CM095|CM096|CM097|CM098|CM099|CM100|CM101
12FE7 CYPRO-MINOAN SIGN |CM102|CM103|CM104|CM105|CM107|CM108|CM109|CM110|CM112|CM114|CM301|CM302
13000 EGYPTIAN HIEROGLYPH |A001|A002|A003|A004|A005|A005A|A006|A006A|A006B|A007|A008|A009|A010|A011
1300E EGYPTIAN HIEROGLYPH |A012|A013|A014|A014A|A015|A016|A017|A017A|A018|A019|A020|A021|A022|A023
1301C EGYPTIAN HIEROGLYPH |A024|A025|A026|A027|A028|A029|A030|A031|A032|A032A|A033|A034|A035|A036
1302A EGYPTIAN HIEROGLYPH |A037|A038|A039|A040|A040A|A041|A042|A042A|A043|A043A|A044|A045|A045A|A046
13038 EGYPTIAN HIEROGLYPH |A047|A048|A049|A050|A051|A052|A053|A054|A055|A056|A057|A058|A059|A060
13046 EGYPTIAN HIEROGLYPH |A061|A062|A063|A064|A065|A066|A067|A068|A069|A070|B001|B002|B003|B004
13054 EGYPTIAN HIEROGLYPH |B005|B005A|B006|B007|B008|B009|C001|C002|C002A|C002B|C002C|C003|C004|C005
13062 EGYPTIAN HIEROGLYPH |C006|C007|C008|C009|C010|C010A|C011|C012|C013|C014|C015|C016|C017|C018
13070 EGYPTIAN HIEROGLYPH |C019|C020|C021|C022|C023|C024|D001|D002|D003|D004|D005|D006|D007|D008
1307E EGYPTIAN HIEROGLYPH |D008A|D009|D010|D011|D012|D013|D014|D015|D016|D017|D018|D019|D020|D021
1308C EGYPTIAN HIEROGLYPH |D022|D023|D024|D025|D026|D027|D027A|D028|D029|D030|D031|D031A|D032|D033
1309A EGYPTIAN HIEROGLYPH |D034|D034A|D035|D036|D037|D038|D039|D040|D041|D042|D043|D044|D045|D046
130A8 EGYPTIAN HIEROGLYPH |D046A|D047|D048|D048A|D049|D050|D050A|D050B|D050C|D050D|D050E|D050F|D050G
130B5 EGYPTIAN HIEROGLYPH |D050H|D050I|D051|D052|D052A|D053|D054|D054A|D055|D056|D057|D058|D059|D060
130C3 EGYPTIAN HIEROGLYPH |D061|D062|D063|D064|D065|D066|D067|D067A|D067B|D067C|D067D|D067E|D067F
130D0 EGYPTIAN HIEROGLYPH |D067G|D067H|E001|E002|E003|E004|E005|E006|E007|E008|E008A|E009|E009A
130DD EGYPTIAN HIEROGLYPH |E010|E011|E012|E013|E014|E015|E016|E016A|E017|E017A|E018|E019|E020|E020A
130EB EGYPTIAN HIEROGLYPH |E021|E022|E023|E024|E025|E026|E027|E028|E028A|E029|E030|E031|E032|E033
130F9 EGYPTIAN HIEROGLYPH |E034|E034A|E036|E037|E038|F001|F001A|F002|F003|F004|F005|F006|F007|F008
13107 EGYPTIAN HIEROGLYPH |F009|F010|F011|F012|F013|F013A|F014|F015|F016|F017|F018|F019|F020|F021
13115 EGYPTIAN HIEROGLYPH |F021A|F022|F023|F024|F025|F026|F027|F028|F029|F030|F031|F031A|F032|F033
13123 EGYPTIAN HIEROGLYPH |F034|F035|F036|F037|F037A|F038|F038A|F039|F040|F041|F042|F043|F044|F045
13131 EGYPTIAN HIEROGLYPH |F045A|F046|F046A|F047|F047A|F048|F049|F050|F051|F051A|F051B|F051C|F052
1313E EGYPTIAN HIEROGLYPH |F053|G001|G002|G003|G004|G005|G006|G006A|G007|G007A|G007B|G008|G009|G010
1314C EGYPTIAN HIEROGLYPH |G011|G011A|G012|G013|G014|G015|G016|G017|G018|G019|G020|G020A|G021|G022
1315A EGYPTIAN HIEROGLYPH |G023|G024|G025|G026|G026A|G027|G028|G029|G030|G031|G032|G033|G034|G035
13168 EGYPTIAN HIEROGLYPH |G036|G036A|G037|G037A|G038|G039|G040|G041|G042|G043|G043A|G044|G045|G045A
13176 EGYPTIAN HIEROGLYPH |G046|G047|G048|G049|G050|G051|G052|G053|G054|H001|H002|H003|H004|H005
13184 EGYPTIAN HIEROGLYPH |H006|H006A|H007|H008|I001|I002|I003|I004|I005|I005A|I006|I007|I008|I009
13192 EGYPTIAN HIEROGLYPH |I009A|I010|I010A|I011|I011A|I012|I013|I014|I015|K001|K002|K003|K004|K005
131A0 EGYPTIAN HIEROGLYPH |K006|K007|K008|L001|L002|L002A|L003|L004|L005|L006|L006A|L007|L008|M001
131AE EGYPTIAN HIEROGLYPH |M001A|M001B|M002|M003|M003A|M004|M005|M006|M007|M008|M009|M010|M010A|M011
131BC EGYPTIAN HIEROGLYPH |M012|M012A|M012B|M012C|M012D|M012E|M012F|M012G|M012H|M013|M014|M015|M015A
131C9 EGYPTIAN HIEROGLYPH |M016|M016A|M017|M017A|M018|M019|M020|M021|M022|M022A|M023|M024|M024A
131D6 EGYPTIAN HIEROGLYPH |M025|M026|M027|M028|M028A|M029|M030|M031|M031A|M032|M033|M033A|M033B
131E3 EGYPTIAN HIEROGLYPH |M034|M035|M036|M037|M038|M039|M040|M040A|M041|M042|M043|M044|N001|N002
131F1 EGYPTIAN HIEROGLYPH |N003|N004|N005|N006|N007|N008|N009|N010|N011|N012|N013|N014|N015|N016
131FF EGYPTIAN HIEROGLYPH |N017|N018|N018A|N018B|N019|N020|N021|N022|N023|N024|N025|N025A|N026|N027
1320D EGYPTIAN HIEROGLYPH |N028|N029|N030|N031|N032|N033|N033A|N034|N034A|N035|N035A|N036|N037|N037A
1321B EGYPTIAN HIEROGLYPH |N038|N039|N040|N041|N042|NL001|NL002|NL003|NL004|NL005|NL005A|NL006|NL007
13228 EGYPTIAN HIEROGLYPH |NL008|NL009|NL010|NL011|NL012|NL013|NL014|NL015|NL016|NL017|NL017A|NL018
13234 EGYPTIAN HIEROGLYPH |NL019|NL020|NU001|NU002|NU003|NU004|NU005|NU006|NU007|NU008|NU009|NU010
13240 EGYPTIAN HIEROGLYPH |NU010A|NU011|NU011A|NU012|NU013|NU014|NU015|NU016|NU017|NU018|NU018A
1324B EGYPTIAN HIEROGLYPH |NU019|NU020|NU021|NU022|NU022A|O001|O001A|O002|O003|O004|O005|O005A
13257 EGYPTIAN HIEROGLYPH |O006|O006A|O006B|O006C|O006D|O006E|O006F|O007|O008|O009|O010|O010A|O010B
13264 EGYPTIAN HIEROGLYPH |O010C|O011|O012|O013|O014|O015|O016|O017|O018|O019|O019A|O020|O020A|O021
13272 EGYPTIAN HIEROGLYPH |O022|O023|O024|O024A|O025|O025A|O026|O027|O028|O029|O029A|O030|O030A|O031
13280 EGYPTIAN HIEROGLYPH |O032|O033|O033A|O034|O035|O036|O036A|O036B|O036C|O036D|O037|O038|O039
1328D EGYPTIAN HIEROGLYPH |O040|O041|O042|O043|O044|O045|O046|O047|O048|O049|O050|O050A|O050B|O051
1329B EGYPTIAN HIEROGLYPH |P001|P001A|P002|P003|P003A|P004|P005|P006|P007|P008|P009|P010|P011|Q001
132A9 EGYPTIAN HIEROGLYPH |Q002|Q003|Q004|Q005|Q006|Q007|R001|R002|R002A|R003|R003A|R003B|R004|R005
132B7 EGYPTIAN HIEROGLYPH |R006|R007|R008|R009|R010|R010A|R011|R012|R013|R014|R015|R016|R016A|R017
132C5 EGYPTIAN HIEROGLYPH |R018|R019|R020|R021|R022|R023|R024|R025|R026|R027|R028|R029|S001|S002
132D3 EGYPTIAN HIEROGLYPH |S002A|S003|S004|S005|S006|S006A|S007|S008|S009|S010|S011|S012|S013|S014
132E1 EGYPTIAN HIEROGLYPH |S014A|S014B|S015|S016|S017|S017A|S018|S019|S020|S021|S022|S023|S024|S025
132EF EGYPTIAN HIEROGLYPH |S026|S026A|S026B|S027|S028|S029|S030|S031|S032|S033|S034|S035|S035A|S036
132FD EGYPTIAN HIEROGLYPH |S037|S038|S039|S040|S041|S042|S043|S044|S045|S046|T001|T002|T003|T003A
1330B EGYPTIAN HIEROGLYPH |T004|T005|T006|T007|T007A|T008|T008A|T009|T009A|T010|T011|T011A|T012
13318 EGYPTIAN HIEROGLYPH |T013|T014|T015|T016|T016A|T017|T018|T019|T020|T021|T022|T023|T024|T025
13326 EGYPTIAN HIEROGLYPH |T026|T027|T028|T029|T030|T031|T032|T032A|T033|T033A|T034|T035|T036|U001
13334 EGYPTIAN HIEROGLYPH |U002|U003|U004|U005|U006|U006A|U006B|U007|U008|U009|U010|U011|U012|U013
13342 EGYPTIAN HIEROGLYPH |U014|U015|U016|U017|U018|U019|U020|U021|U022|U023|U023A|U024|U025|U026
13350 EGYPTIAN HIEROGLYPH |U027|U028|U029|U029A|U030|U031|U032|U032A|U033|U034|U035|U036|U037|U038
1335E EGYPTIAN HIEROGLYPH |U039|U040|U041|U042|V001|V001A|V001B|V001C|V001D|V001E|V001F|V001G|V001H
1336B EGYPTIAN HIEROGLYPH |V001I|V002|V002A|V003|V004|V005|V006|V007|V007A|V007B|V008|V009|V010|V011
13379 EGYPTIAN HIEROGLYPH |V011A|V011B|V011C|V012|V012A|V012B|V013|V014|V015|V016|V017|V018|V019
13386 EGYPTIAN HIEROGLYPH |V020|V020A|V020B|V020C|V020D|V020E|V020F|V020G|V020H|V020I|V020J|V020K
13392 EGYPTIAN HIEROGLYPH |V020L|V021|V022|V023|V023A|V024|V025|V026|V027|V028|V028A|V029|V029A
1339F EGYPTIAN HIEROGLYPH |V030|V030A|V031|V031A|V032|V033|V033A|V034|V035|V036|V037|V037A|V038
133AC EGYPTIAN HIEROGLYPH |V039|V040|V040A|W001|W002|W003|W003A|W004|W005|W006|W007|W008|W009|W009A
133BA EGYPTIAN HIEROGLYPH |W010|W010A|W011|W012|W013|W014|W014A|W015|W016|W017|W017A|W018|W018A|W019
133C8 EGYPTIAN HIEROGLYPH |W020|W021|W022|W023|W024|W024A|W025|X001|X002|X003|X004|X004A|X004B|X005
133D6 EGYPTIAN HIEROGLYPH |X006|X006A|X007|X008|X008A|Y001|Y001A|Y002|Y003|Y004|Y005|Y006|Y007|Y008
133E4 EGYPTIAN HIEROGLYPH |Z001|Z002|Z002A|Z002B|Z002C|Z002D|Z003|Z003A|Z003B|Z004|Z004A|Z005|Z005A
133F1 EGYPTIAN HIEROGLYPH |Z006|Z007|Z008|Z009|Z010|Z011|Z012|Z013|Z014|Z015|Z015A|Z015B|Z015C|Z015D
133FF EGYPTIAN HIEROGLYPH |Z015E|Z015F|Z015G|Z015H|Z015I|Z016|Z016A|Z016B|Z016C|Z016D|Z016E|Z016F
1340B EGYPTIAN HIEROGLYPH |Z016G|Z016H|AA001|AA002|AA003|AA004|AA005|AA006|AA007|AA007A|AA007B|AA008
13417 EGYPTIAN HIEROGLYPH |AA009|AA010|AA011|AA012|AA013|AA014|AA015|AA016|AA017|AA018|AA019|AA020
13423 EGYPTIAN HIEROGLYPH |AA021|AA022|AA023|AA024|AA025|AA026|AA027|AA028|AA029|AA030|AA031|AA032
13430 EGYPTIAN HIEROGLYPH |VERTICAL JOINER|HORIZONTAL JOINER
13432 EGYPTIAN HIEROGLYPH INSERT AT |TOP START|BOTTOM START|TOP END|BOTTOM END
13436 EGYPTIAN HIEROGLYPH |OVERLAY MIDDLE|BEGIN SEGMENT|END SEGMENT
14400 ANATOLIAN HIEROGLYPH |A001|A002|A003|A004|A005|A006|A007|A008|A009|A010|A010A|A011
1440C ANATOLIAN HIEROGLYPH |A012|A013|A014|A015|A016|A017|A018|A019|A020|A021|A022|A023|A024|A025
1441A ANATOLIAN HIEROGLYPH |A026|A026A|A027|A028|A029|A030|A031|A032|A033|A034|A035|A036|A037|A038
14428 ANATOLIAN HIEROGLYPH |A039|A039A|A040|A041|A041A|A042|A043|A044|A045|A045A|A046|A046A|A046B
14435 ANATOLIAN HIEROGLYPH |A047|A048|A049|A050|A051|A052|A053|A054|A055|A056|A057|A058|A059|A060
14443 ANATOLIAN HIEROGLYPH |A061|A062|A063|A064|A065|A066|A066A|A066B|A066C|A067|A068|A069|A070|A071
14451 ANATOLIAN HIEROGLYPH |A072|A073|A074|A075|A076|A077|A078|A079|A080|A081|A082|A083|A084|A085
1445F ANATOLIAN HIEROGLYPH |A086|A087|A088|A089|A090|A091|A092|A093|A094|A095|A096|A097|A097A|A098
1446D ANATOLIAN HIEROGLYPH |A098A|A099|A100|A100A|A101|A101A|A102|A102A|A103|A104|A104A|A104B|A104C
1447A ANATOLIAN HIEROGLYPH |A105|A105A|A105B|A106|A107|A107A|A107B|A107C|A108|A109|A110|A110A|A110B
14487 ANATOLIAN HIEROGLYPH |A111|A112|A113|A114|A115|A115A|A116|A117|A118|A119|A120|A121|A122|A123
14495 ANATOLIAN HIEROGLYPH |A124|A125|A125A|A126|A127|A128|A129|A130|A131|A132|A133|A134|A135|A135A
144A3 ANATOLIAN HIEROGLYPH |A136|A137|A138|A139|A140|A141|A142|A143|A144|A145|A146|A147|A148|A149
144B1 ANATOLIAN HIEROGLYPH |A150|A151|A152|A153|A154|A155|A156|A157|A158|A159|A160|A161|A162|A163
144BF ANATOLIAN HIEROGLYPH |A164|A165|A166|A167|A168|A169|A170|A171|A172|A173|A174|A175|A176|A177
144CD ANATOLIAN HIEROGLYPH |A178|A179|A180|A181|A182|A183|A184|A185|A186|A187|A188|A189|A190|A191
144DB ANATOLIAN HIEROGLYPH |A192|A193|A194|A195|A196|A197|A198|A199|A200|A201|A202|A202A|A202B|A203
144E9 ANATOLIAN HIEROGLYPH |A204|A205|A206|A207|A207A|A208|A209|A209A|A210|A211|A212|A213|A214|A215
144F7 ANATOLIAN HIEROGLYPH |A215A|A216|A216A|A217|A218|A219|A220|A221|A222|A223|A224|A225|A226|A227
14505 ANATOLIAN HIEROGLYPH |A227A|A228|A229|A230|A231|A232|A233|A234|A235|A236|A237|A238|A239|A240
14513 ANATOLIAN HIEROGLYPH |A241|A242|A243|A244|A245|A246|A247|A248|A249|A250|A251|A252|A253|A254
14521 ANATOLIAN HIEROGLYPH |A255|A256|A257|A258|A259|A260|A261|A262|A263|A264|A265|A266|A267|A267A
1452F ANATOLIAN HIEROGLYPH |A268|A269|A270|A271|A272|A273|A274|A275|A276|A277|A278|A279|A280|A281
1453D ANATOLIAN HIEROGLYPH |A282|A283|A284|A285|A286|A287|A288|A289|A289A|A290|A291|A292|A293|A294
1454B ANATOLIAN HIEROGLYPH |A294A|A295|A296|A297|A298|A299|A299A|A300|A301|A302|A303|A304|A305|A306
14559 ANATOLIAN HIEROGLYPH |A307|A308|A309|A309A|A310|A311|A312|A313|A314|A315|A316|A317|A318|A319
14567 ANATOLIAN HIEROGLYPH |A320|A321|A322|A323|A324|A325|A326|A327|A328|A329|A329A|A330|A331|A332A
14575 ANATOLIAN HIEROGLYPH |A332B|A332C|A333|A334|A335|A336|A336A|A336B|A336C|A337|A338|A339|A340
14582 ANATOLIAN HIEROGLYPH |A341|A342|A343|A344|A345|A346|A347|A348|A349|A350|A351|A352|A353|A354
14590 ANATOLIAN HIEROGLYPH |A355|A356|A357|A358|A359|A359A|A360|A361|A362|A363|A364|A364A|A365|A366
1459E ANATOLIAN HIEROGLYPH |A367|A368|A368A|A369|A370|A371|A371A|A372|A373|A374|A375|A376|A377|A378
145AC ANATOLIAN HIEROGLYPH |A379|A380|A381|A381A|A382|A383 RA OR RI|A383A|A384|A385|A386|A386A|A387
145B8 ANATOLIAN HIEROGLYPH |A388|A389|A390|A391|A392|A393 EIGHT|A394|A395|A396|A397|A398|A399|A400
145C5 ANATOLIAN HIEROGLYPH |A401|A402|A403|A404|A405|A406|A407|A408|A409|A410 BEGIN LOGOGRAM MARK
145CF ANATOLIAN HIEROGLYPH |A410A END LOGOGRAM MARK|A411|A412|A413|A414|A415|A416|A417
145D7 ANATOLIAN HIEROGLYPH |A418|A419|A420|A421|A422|A423|A424|A425|A426|A427|A428|A429|A430|A431
145E5 ANATOLIAN HIEROGLYPH |A432|A433|A434|A435|A436|A437|A438|A439|A440|A441|A442|A443|A444|A445
145F3 ANATOLIAN HIEROGLYPH |A446|A447|A448|A449|A450|A450A|A451|A452|A453|A454|A455|A456|A457|A457A
14601 ANATOLIAN HIEROGLYPH |A458|A459|A460|A461|A462|A463|A464|A465|A466|A467|A468|A469|A470|A471
1460F ANATOLIAN HIEROGLYPH |A472|A473|A474|A475|A476|A477|A478|A479|A480|A481|A482|A483|A484|A485
1461D ANATOLIAN HIEROGLYPH |A486|A487|A488|A489|A490|A491|A492|A493|A494|A495|A496|A497|A501|A502
1462B ANATOLIAN HIEROGLYPH |A503|A504|A505|A506|A507|A508|A509|A510|A511|A512|A513|A514|A515|A516
14639 ANATOLIAN HIEROGLYPH |A517|A518|A519|A520|A521|A522|A523|A524|A525|A526|A527|A528|A529|A530
16800 BAMUM LETTER PHASE-A |NGKUE MFON|GBIEE FON|PON MFON PIPAEMGBIEE
16803 BAMUM LETTER PHASE-A |PON MFON PIPAEMBA|NAA MFON|SHUENSHUET|TITA MFON|NZA MFON|SHINDA PA NJI
16809 BAMUM LETTER PHASE-A PON PA NJI |PIPAEMGBIEE|PIPAEMBA
1680B BAMUM LETTER PHASE-A |MAEMBGBIEE|TU MAEMBA|NGANGU|MAEMVEUX|MANSUAE|MVEUAENGAM|SEUNYAM
16812 BAMUM LETTER PHASE-A |NTOQPEN|KEUKEUTNDA|NKINDI|SUU|NGKUENZEUM|LAPAQ|LET KUT|NTAP MFAA|MAEKEUP
1681B BAMUM LETTER PHASE-A |PASHAE|GHEUAERAE|PAMSHAE|MON NGGEUAET|NZUN MEUT|U YUQ NAE|GHEUAEGHEUAE
16822 BAMUM LETTER PHASE-A |NTAP NTAA|SISA|MGBASA|MEUNJOMNDEUQ|MOOMPUQ|KAFA|PA LEERAEWA|NDA LEERAEWA
1682A BAMUM LETTER PHASE-A |PET|MAEMKPEN|NIKA|PUP|TUAEP|LUAEP|SONJAM|TEUTEUWEN|MAENYI|KET
16834 BAMUM LETTER PHASE-A |NDAANGGEUAET|KUOQ|MOOMEUT|SHUM|LOMMAE|FIRI|ROM|KPOQ|SOQ|MAP PIEET|SHIRAE
1683F BAMUM LETTER PHASE-A |NTAP|SHOQ NSHUT YUM|NYIT MONGKEUAEQ|PAARAE|NKAARAE|UNKNOWN|NGGEN|MAESI
16847 BAMUM LETTER PHASE-A |NJAM|MBANYI|NYET|TEUAEN|SOT|PAAM|NSHIEE|MAEM|NYI|KAQ|NSHA|VEE|LU|NEN|NAQ
16856 BAMUM LETTER PHASE-|A MBAQ|B NSHUET|B TU MAEMGBIEE|B SIEE|B SET TU
1685B BAMUM LETTER PHASE-B |LOM NTEUM|MBA MAELEE|KIEEM|YEURAE|MBAARAE|KAM|PEESHI|YAFU LEERAEWA
16863 BAMUM LETTER PHASE-B |LAM NSHUT NYAM|NTIEE SHEUOQ|NDU NJAA|GHEUGHEUAEM|PIT|TU NSIEE|SHET NJAQ
1686A BAMUM LETTER PHASE-B |SHEUAEQTU|MFON TEUAEQ|MBIT MBAAKET|NYI NTEUM|KEUPUQ|GHEUGHEN|KEUYEUX
16871 BAMUM LETTER PHASE-B |LAANAE|PARUM|VEUM|NGKINDI MVOP|NGGEU MBU|WUAET|SAKEUAE|TAAM|MEUQ|NGGUOQ
1687B BAMUM LETTER PHASE-B |NGGUOQ LARGE|MFIYAQ|SUE|MBEURI|MONTIEEN|NYAEMAE|PUNGAAM|MEUT NGGEET
16883 BAMUM LETTER PHASE-B |FEUX|MBUOQ|FEE|KEUAEM|MA NJEUAENA|MA NJUQA|LET|NGGAAM|NSEN|MA|KIQ|NGOM
1688F BAMUM LETTER PHASE-C |NGKUE MAEMBA|NZA|YUM|WANGKUOQ|NGGEN
16894 BAMUM LETTER PHASE-C |NDEUAEREE|NGKAQ|GHARAE|MBEEKEET|GBAYI|NYIR MKPARAQ MEUN|NTU MBIT|MBEUM
1689C BAMUM LETTER PHASE-C |PIRIEEN|NDOMBU|MBAA CABBAGE-TREE|KEUSHEUAEP|GHAP|KEUKAQ|YU MUOMAE|NZEUM
168A4 BAMUM LETTER PHASE-C |MBUE|NSEUAEN|MBIT|YEUQ|KPARAQ|KAA|SEUX|NDIDA|TAASHAE|NJUEQ|TITA YUE
168AF BAMUM LETTER PHASE-C |SUAET|NGGUAEN NYAM|VEUX|NANSANAQ|MA KEUAERI|NTAA|NGGUON|LAP|MBIRIEEN
168B8 BAMUM LETTER PHASE-C |MGBASAQ|NTEUNGBA|TEUTEUX|NGGUM|FUE|NDEUT|NSA|NSHAQ|BUNG|VEUAEPEN
168C2 BAMUM LETTER PHASE-C |MBERAE|RU|NJAEM|LAM|TITUAEP|NSUOT NGOM|NJEEEE|KET|NGGU|MAESI|MBUAEM
168CD BAMUM LETTER PHASE-C |LU|KUT|NJAM|NGOM|WUP|NGGUEET|NSOM|NTEN|KUOP NKAARAE|NSUN|NDAM|MA NSIEE
168D9 BAMUM LETTER PHASE-C |YAA|NDAP|SHUEQ|SETFON|MBI|MAEMBA|MBANYI|KEUSEUX|MBEUX|KEUM|MBAA PICKET
168E4 BAMUM LETTER PHASE-C |YUWOQ|NJEUX|MIEE|MUAE|SHIQ|KEN LAW|KEN FATIGUE|NGAQ|NAQ|LIQ|PIN|PEN|TET
168F1 BAMUM LETTER PHASE-D |MBUO|WAP|NJI|MFON|NJIEE
168F6 BAMUM LETTER PHASE-D |LIEE|NJEUT|NSHEE|NGGAAMAE|NYAM|WUAEN|NGKUN|SHEE|NGKAP|KEUAETMEUN|TEUT
16901 BAMUM LETTER PHASE-D |SHEUAE|NJAP|SUE|KET|YAEMMAE|KUOM|SAP|MFEUT|NDEUX|MALEERI|MEUT|SEUAEQ
1690D BAMUM LETTER PHASE-D |YEN|NJEUAEM|KEUOT MBUAE|NGKEURI|TU|GHAA|NGKYEE|FEUFEUAET|NDEE|MGBOFUM
16917 BAMUM LETTER PHASE-D |LEUAEP|NDON|MONI|MGBEUN|PUUT|MGBIEE|MFO|LUM|NSIEEP|MBAA|KWAET|NYET
16923 BAMUM LETTER PHASE-D |TEUAEN|SOT|YUWOQ|KEUM|RAEM|TEEEE|NGKEUAEQ|MFEUAE|NSIEET|KEUP|PIP|PEUTAE
1692F BAMUM LETTER PHASE-D |NYUE|LET|NGGAAM|MFIEE|NGGWAEN|YUOM|PAP|YUOP|NDAM|NTEUM|SUAE|KUN|NGGEUX
1693C BAMUM LETTER PHASE-D |NGKIEE|TUOT|MEUN|KUQ|NSUM|TEUN|MAENJET|NGGAP|LEUM|NGGUOM|NSHUT|NJUEQ
16948 BAMUM LETTER PHASE-D |GHEUAE|KU|REN OLD|TAE|TOQ|NYI|RII|LEEEE|MEEEE|M|SUU|MU|SHII|SHEUX|KYEE
16957 BAMUM LETTER PHASE-D |NU|SHU|NTEE|PEE|NI|SHOQ|PUQ|MVOP|LOQ|REN MUCH|TI|NTUU|MBAA SEVEN|SAQ|FAA
16966 BAMUM LETTER PHASE-E |NDAP|TOON|MBEUM|LAP|VOM|LOON|PAA|SOM|RAQ|NSHUOP|NDUN|PUAE|TAM|NGKA
16974 BAMUM LETTER PHASE-E |KPEUX|WUO|SEE|NGGEUAET|PAAM|TOO|KUOP|LOM|NSHIEE|NGOP|MAEM|NGKEUX|NGOQ
16981 BAMUM LETTER PHASE-E |NSHUE|RIMGBA|NJEUX|PEEM|SAA|NGGURAE|MGBA|GHEUX|NGKEUAEM|NJAEMLI|MAP|LOOT
1698D BAMUM LETTER PHASE-E |NGGEEEE|NDIQ|TAEN NTEUM|SET|PUM|NDAA SOFTNESS|NGGUAESHAE NYAM|YIEE|GHEUN
16996 BAMUM LETTER PHASE-E |TUAE|YEUAE|PO|TUMAE|KEUAE|SUAEN|TEUAEQ|VEUAE|WEUX|LAAM|PU|TAAQ|GHAAMAE
169A3 BAMUM LETTER PHASE-E |NGEUREUT|SHEUAEQ|MGBEN|MBEE|NZAQ|NKOM|GBET|TUM|KUET|YAP|NYI CLEAVER|YIT
169AF BAMUM LETTER PHASE-E |MFEUQ|NDIAQ|PIEEQ|YUEQ|LEUAEM|FUE|GBEUX|NGKUP|KET|MAE|NGKAAMI|GHET|FA
169BC BAMUM LETTER PHASE-E |NTUM|PEUT|YEUM|NGGEUAE|NYI BETWEEN|NZUQ|POON|MIEE|FUET|NAE|MUAE|GHEUAE
169C8 BAMUM LETTER PHASE-E |FU I|MVI|PUAQ|NGKUM|KUT|PIET|NTAP|YEUAET|NGGUP|PA PEOPLE|FU CALL|FOM
169D4 BAMUM LETTER PHASE-E |NJEE|A|TOQ|O|I|LAQ|PA PLURAL|TAA|TAQ|NDAA MY HOUSE|SHIQ|YEUX|NGUAE|YUAEN
169E2 BAMUM LETTER PHASE-E |YOQ SWIMMING|YOQ COVER|YUQ|YUN|KEUX|PEUX|NJEE EPOCH|PUE|WUE|FEE|VEE|LU
169EE BAMUM LETTER PHASE-E |MI|REUX|RAE|NGUAET|NGA|SHO|SHOQ|FU REMEDY|NA|PI|LOQ|KO|MEN|MA|MAQ|TEU|KI
169FF BAMUM LETTER PHASE-|E MON|E TEN|E FAQ|E GHOM|F KA|F U|F KU|F EE
16A07 BAMUM LETTER PHASE-F |REE|TAE|NYI|LA|RII|RIEE|MEEEE|TAA|NDAA|NJAEM|M|SUU|SHII|SI|SEUX|KYEE|KET
16A18 BAMUM LETTER PHASE-F |NUAE|NU|NJUAE|YOQ|SHU|YA|NSHA|PEUX|NTEE|WUE|PEE|RU|NI|REUX|KEN|NGKWAEN
16A28 BAMUM LETTER PHASE-F |NGGA|SHO|PUAE|FOM|WA|LI|LOQ|KO|MBEN|REN|MA|MO|MBAA|TET|KPA|SAMBA|VUEQ
16A40 MRO LETTER |TA|NGI|YO|MIM|BA|DA|A|PHI|KHAI
16A49 MRO LETTER |HAO|DAI|CHU|KEAAE|OL|MAEM|NIN|PA|OO|O|RO|SHI|THEA|EA|WA|E|KO|LAN|LA|HAI|RI|TEK
16A60 MRO DIGIT |ZERO|ONE|TWO|THREE|FOUR|FIVE|SIX|SEVEN|EIGHT|NINE
16A6E MRO |DANDA|DOUBLE DANDA
16A70 TANGSA LETTER |OZ|OC|OQ|OX|AZ|AC|AQ|AX|VZ|VC|VQ|VX|EZ|EC|EQ|EX|IZ|IC|IQ|IX|UZ
16A85 TANGSA LETTER |UC|UQ|UX|AWZ|AWC|AWQ|AWX|UIZ|UIC|UIQ|UIX|FINAL NG|LONG UEX|SHORT UEZ|SHORT AWX
16A94 TANGSA LETTER |UEC|UEZ|UEQ|UEX|UIUZ|UIUC|UIUQ|UIUX|MZ|MC|MQ|MX|KA|KHA|GA|NGA|SA|YA|WA|PA|NYA
16AA9 TANGSA LETTER |PHA|BA|MA|NA|HA|LA|HTA|TA|DA|RA|NHA|SHA|CA|TSA|GHA|HTTA|THA|XA|FA|DHA|CHA|ZA
16AC0 TANGSA DIGIT |ZERO|ONE|TWO|THREE|FOUR|FIVE|SIX|SEVEN|EIGHT|NINE
16AD0 BASSA VAH LETTER |ENNI|KA|SE|FA|MBE|YIE|GAH
16AD7 BASSA VAH LETTER |DHII|KPAH|JO|HWAH|WA|ZO|GBU|DO|CE|UWU|TO|BA|VU|YEIN|PA|WADDA|A|O|OO|U|EE|E|I
16AF0 BASSA VAH COMBINING |HIGH TONE|LOW TONE|MID TONE|LOW-MID TONE|HIGH-LOW TONE
16AF5 BASSA VAH FULL |STOP
16B00 PAHAWH HMONG VOWEL |KEEB|KEEV|KIB|KIV|KAUB|KAUV|KUB|KUV|KEB|KEV|KAIB|KAIV
16B0C PAHAWH HMONG VOWEL |KOOB|KOOV|KAWB|KAWV|KUAB|KUAV|KOB|KOV|KIAB|KIAV|KAB|KAV|KWB|KWV|KAAB|KAAV
16B1C PAHAWH HMONG CONSONANT |VAU|NTSAU|LAU|HAU|NLAU
16B21 PAHAWH HMONG CONSONANT |RAU|NKAU|QHAU|YAU|HLAU|MAU|CHAU|NCHAU|HNAU|PLHAU|NTHAU|NAU|AU|XAU|CAU
16B30 PAHAWH HMONG MARK CIM |TUB|SO|KES|KHAV|SUAM|HOM|TAUM
16B37 PAHAWH HMONG SIGN |VOS THOM|VOS TSHAB CEEB|CIM CHEEM|VOS THIAB|VOS FEEM|XYEEM NTXIV|XYEEM RHO
16B3E PAHAWH HMONG SIGN |XYEEM TOV|XYEEM FAIB|VOS SEEV|MEEJ SUAB|VOS NRUA|IB YAM|XAUS|CIM TSOV ROG
16B50 PAHAWH HMONG DIGIT |ZERO|ONE|TWO|THREE|FOUR|FIVE|SIX|SEVEN|EIGHT|NINE
16B5B PAHAWH HMONG NUMBER |TENS
16B5C PAHAWH HMONG NUMBER |HUNDREDS|TEN THOUSANDS|MILLIONS|HUNDRED MILLIONS|TEN BILLIONS|TRILLIONS
16B63 PAHAWH HMONG SIGN |VOS LUB|XYOO|HLI|THIRD-STAGE HLI
16B67 PAHAWH HMONG SIGN |ZWJ THAJ|HNUB|NQIG|XIAB|NTUJ|AV|TXHEEJ CEEV|MEEJ TSEEB|TAU|LOS|MUS
16B72 PAHAWH HMONG SIGN CIM |HAIS LUS NTOG NTOG|CUAM TSHOOJ|TXWV|TXWV CHWV|PUB DAWB|NRES TOS
16B7D PAHAWH HMONG CLAN SIGN |TSHEEJ|YEEG|LIS|LAUJ
16B81 PAHAWH HMONG CLAN SIGN |XYOOJ|KOO|HAWJ|MUAS|THOJ|TSAB|PHAB|KHAB|HAM|VAJ|FAJ|YAJ|TSWB|KWM|VWJ
16E40 MEDEFAIDRIN CAPITAL LETTER |M|S|V
16E43 MEDEFAIDRIN CAPITAL LETTER |W|ATIU|Z|KP|P|T|G|F|I|K|A|J|E|B|C|U|YU|L|Q|HP|NY|X|D|OE|N|R|O|AI|Y
16E60 MEDEFAIDRIN SMALL LETTER |M|S
16E62 MEDEFAIDRIN SMALL LETTER |V|W|ATIU|Z|KP|P|T|G|F|I|K|A|J|E|B|C|U|YU|L|Q|HP|NY|X|D|OE|N|R|O|AI|Y
16E80 MEDEFAIDRIN DIGIT |ZERO|ONE|TWO|THREE|FOUR|FIVE|SIX|SEVEN|EIGHT|NINE
16E8A MEDEFAIDRIN NUMBER |TEN|ELEVEN|TWELVE|THIRTEEN|FOURTEEN|FIFTEEN|SIXTEEN|SEVENTEEN|EIGHTEEN
16E93 MEDEFAIDRIN |NUMBER NINETEEN|DIGIT ONE ALTERNATE FORM|DIGIT TWO ALTERNATE FORM
16E96 MEDEFAIDRIN |DIGIT THREE ALTERNATE FORM|COMMA|FULL STOP|SYMBOL AIVA|EXCLAMATION OH
16F00 MIAO LETTER |PA|BA|YI PA|PLA|MA|MHA|ARCHAIC MA|FA|VA|VFA
16F0A MIAO LETTER |TA|DA|YI TTA|YI TA|TTA|DDA|NA|NHA|YI NNA|ARCHAIC NA|NNA|NNHA|LA|LYA|LHA|LHYA|TLHA
16F1B MIAO LETTER |DLHA|TLHYA|DLHYA|KA|GA|YI KA|QA|QGA|NGA|NGHA|ARCHAIC NGA|HA|XA|GHA|GHHA|TSSA|DZZA
16F2C MIAO LETTER |NYA|NYHA|TSHA|DZHA|YI TSHA|YI DZHA|REFORMED TSHA|SHA|SSA|ZHA|ZSHA|TSA|DZA|YI TSA
16F3A MIAO LETTER |SA|ZA|ZSA|ZZA|ZZSA|ARCHAIC ZZA|ZZYA|ZZSYA|WA|AH|HHA|BRI|SYI|DZYI|TE|TSE|RTE
16F4F MIAO |SIGN CONSONANT MODIFIER BAR|LETTER NASALIZATION|SIGN ASPIRATION
16F52 MIAO SIGN REFORMED |VOICING|ASPIRATION
16F54 MIAO VOWEL SIGN |A|AA|AHH|AN|ANG|O|OO|WO|W|E|EN|ENG
16F60 MIAO VOWEL SIGN |OEY|I|IA|IAN|IANG|IO|IE|II|IU|ING|U|UA|UAN|UANG|UU|UEI|UNG|Y|YI|AE|AEE|ERR
16F76 MIAO VOWEL SIGN |ROUNDED ERR|ER|ROUNDED ER|AI|EI|AU|OU|N|NG|UOG|YUI|OG|OER|VW|IG|EA|IONG|UI
16F8F MIAO TONE |RIGHT|TOP RIGHT|ABOVE|BELOW
16F93 MIAO LETTER TONE-|2|3|4|5|6|7|8
16F9A MIAO LETTER REFORMED TONE-|1|2|4|5|6|8
16FE0 |TANGUT ITERATION MARK|NUSHU ITERATION MARK
16FE2 OLD CHINESE |HOOK MARK|ITERATION MARK
16FE4 KHITAN SMALL SCRIPT |FILLER
16FF0 VIETNAMESE ALTERNATE READING MARK |CA|NHAY
18800 TANGUT COMPONENT-|001|002|003|004|005|006|007|008
18808 TANGUT COMPONENT-|009|010|011|012|013|014|015|016|017|018|019|020|021|022|023|024|025|026|027
1881B TANGUT COMPONENT-|028|029|030|031|032|033|034|035|036|037|038|039|040|041|042|043|044|045|046
1882E TANGUT COMPONENT-|047|048|049|050|051|052|053|054|055|056|057|058|059|060|061|062|063|064|065
18841 TANGUT COMPONENT-|066|067|068|069|070|071|072|073|074|075|076|077|078|079|080|081|082|083|084
18854 TANGUT COMPONENT-|085|086|087|088|089|090|091|092|093|094|095|096|097|098|099|100|101|102|103
18867 TANGUT COMPONENT-|104|105|106|107|108|109|110|111|112|113|114|115|116|117|118|119|120|121|122
1887A TANGUT COMPONENT-|123|124|125|126|127|128|129|130|131|132|133|134|135|136|137|138|139|140|141
1888D TANGUT COMPONENT-|142|143|144|145|146|147|148|149|150|151|152|153|154|155|156|157|158|159|160
188A0 TANGUT COMPONENT-|161|162|163|164|165|166|167|168|169|170|171|172|173|174|175|176|177|178|179
188B3 TANGUT COMPONENT-|180|181|182|183|184|185|186|187|188|189|190|191|192|193|194|195|196|197|198
188C6 TANGUT COMPONENT-|199|200|201|202|203|204|205|206|207|208|209|210|211|212|213|214|215|216|217
188D9 TANGUT COMPONENT-|218|219|220|221|222|223|224|225|226|227|228|229|230|231|232|233|234|235|236
188EC TANGUT COMPONENT-|237|238|239|240|241|242|243|244|245|246|247|248|249|250|251|252|253|254|255
188FF TANGUT COMPONENT-|256|257|258|259|260|261|262|263|264|265|266|267|268|269|270|271|272|273|274
18912 TANGUT COMPONENT-|275|276|277|278|279|280|281|282|283|284|285|286|287|288|289|290|291|292|293
18925 TANGUT COMPONENT-|294|295|296|297|298|299|300|301|302|303|304|305|306|307|308|309|310|311|312
18938 TANGUT COMPONENT-|313|314|315|316|317|318|319|320|321|322|323|324|325|326|327|328|329|330|331
1894B TANGUT COMPONENT-|332|333|334|335|336|337|338|339|340|341|342|343|344|345|346|347|348|349|350
1895E TANGUT COMPONENT-|351|352|353|354|355|356|357|358|359|360|361|362|363|364|365|366|367|368|369
18971 TANGUT COMPONENT-|370|371|372|373|374|375|376|377|378|379|380|381|382|383|384|385|386|387|388
18984 TANGUT COMPONENT-|389|390|391|392|393|394|395|396|397|398|399|400|401|402|403|404|405|406|407
18997 TANGUT COMPONENT-|408|409|410|411|412|413|414|415|416|417|418|419|420|421|422|423|424|425|426
189AA TANGUT COMPONENT-|427|428|429|430|431|432|433|434|435|436|437|438|439|440|441|442|443|444|445
189BD TANGUT COMPONENT-|446|447|448|449|450|451|452|453|454|455|456|457|458|459|460|461|462|463|464
189D0 TANGUT COMPONENT-|465|466|467|468|469|470|471|472|473|474|475|476|477|478|479|480|481|482|483
189E3 TANGUT COMPONENT-|484|485|486|487|488|489|490|491|492|493|494|495|496|497|498|499|500|501|502
189F6 TANGUT COMPONENT-|503|504|505|506|507|508|509|510|511|512|513|514|515|516|517|518|519|520|521
18A09 TANGUT COMPONENT-|522|523|524|525|526|527|528|529|530|531|532|533|534|535|536|537|538|539|540
18A1C TANGUT COMPONENT-|541|542|543|544|545|546|547|548|549|550|551|552|553|554|555|556|557|558|559
18A2F TANGUT COMPONENT-|560|561|562|563|564|565|566|567|568|569|570|571|572|573|574|575|576|577|578
18A42 TANGUT COMPONENT-|579|580|581|582|583|584|585|586|587|588|589|590|591|592|593|594|595|596|597
18A55 TANGUT COMPONENT-|598|599|600|601|602|603|604|605|606|607|608|609|610|611|612|613|614|615|616
18A68 TANGUT COMPONENT-|617|618|619|620|621|622|623|624|625|626|627|628|629|630|631|632|633|634|635
18A7B TANGUT COMPONENT-|636|637|638|639|640|641|642|643|644|645|646|647|648|649|650|651|652|653|654
18A8E TANGUT COMPONENT-|655|656|657|658|659|660|661|662|663|664|665|666|667|668|669|670|671|672|673
18AA1 TANGUT COMPONENT-|674|675|676|677|678|679|680|681|682|683|684|685|686|687|688|689|690|691|692
18AB4 TANGUT COMPONENT-|693|694|695|696|697|698|699|700|701|702|703|704|705|706|707|708|709|710|711
18AC7 TANGUT COMPONENT-|712|713|714|715|716|717|718|719|720|721|722|723|724|725|726|727|728|729|730
18ADA TANGUT COMPONENT-|731|732|733|734|735|736|737|738|739|740|741|742|743|744|745|746|747|748|749
18AED TANGUT COMPONENT-|750|751|752|753|754|755|756|757|758|759|760|761|762|763|764|765|766|767|768
1AFF0 KATAKANA LETTER MINNAN TONE-|2|3|4|5
1AFF5 KATAKANA LETTER MINNAN TONE-|7|8
1AFF7 KATAKANA LETTER MINNAN NASALIZED TONE-|1|2|3|4|5
1AFFD KATAKANA LETTER MINNAN NASALIZED TONE-|7|8
1B000 |KATAKANA LETTER ARCHAIC E|HIRAGANA LETTER ARCHAIC YE
1B002 HENTAIGANA LETTER A-|1|2|3|WO
1B006 HENTAIGANA LETTER |I-1|I-2|I-3|I-4|U-1|U-2|U-3|U-4|U-5|E-2|E-3|E-4|E-5|E-6|O-1|O-2|O-3
1B017 HENTAIGANA LETTER KA-|1|2|3|4|5|6|7|8|9|10|11|KE
1B023 HENTAIGANA LETTER KI-|1|2|3|4|5|6|7|8
1B02B HENTAIGANA LETTER KU-|1|2|3|4|5|6|7
1B032 HENTAIGANA LETTER |KE-1|KE-2|KE-3|KE-4|KE-5|KE-6|KO-1|KO-2|KO-3|KO-KI
1B03C HENTAIGANA LETTER SA-|1|2|3|4|5|6|7|8
1B044 HENTAIGANA LETTER SI-|1|2|3|4|5|6
1B04A HENTAIGANA LETTER SU-|1|2|3|4|5|6|7|8
1B052 HENTAIGANA LETTER |SE-1|SE-2|SE-3|SE-4|SE-5|SO-1|SO-2|SO-3|SO-4|SO-5|SO-6|SO-7|TA-1
1B05F HENTAIGANA LETTER |TA-2|TA-3|TA-4|TI-1|TI-2|TI-3|TI-4|TI-5|TI-6|TI-7|TU-1|TU-2|TU-3|TU-4|TU-TO
1B06E HENTAIGANA LETTER TE-|1|2|3|4|5|6|7|8|9
1B077 HENTAIGANA LETTER TO-|1|2|3|4|5|6|RA
1B07E HENTAIGANA LETTER NA-|1|2|3|4|5|6|7|8|9
1B087 HENTAIGANA LETTER NI-|1|2|3|4|5|6|7|TE
1B08F HENTAIGANA LETTER |NU-1|NU-2|NU-3|NE-1|NE-2|NE-3|NE-4|NE-5|NE-6|NE-KO|NO-1|NO-2|NO-3|NO-4|NO-5
1B09E HENTAIGANA LETTER HA-|1|2|3|4|5|6|7|8|9|10|11
1B0A9 HENTAIGANA LETTER HI-|1|2|3|4|5|6|7
1B0B0 HENTAIGANA LETTER |HU-1|HU-2|HU-3|HE-1|HE-2|HE-3|HE-4|HE-5|HE-6|HE-7
1B0BA HENTAIGANA LETTER HO-|1|2|3|4|5|6|7|8
1B0C2 HENTAIGANA LETTER MA-|1|2|3|4|5|6|7
1B0C9 HENTAIGANA LETTER MI-|1|2|3|4|5|6|7
1B0D0 HENTAIGANA LETTER |MU-1|MU-2|MU-3|MU-4|ME-1|ME-2|ME-MA|MO-1|MO-2|MO-3|MO-4|MO-5|MO-6
1B0DD HENTAIGANA LETTER YA-|1|2|3|4|5|YO
1B0E3 HENTAIGANA LETTER |YU-1|YU-2|YU-3|YU-4|YO-1|YO-2|YO-3|YO-4|YO-5|YO-6|RA-1|RA-2|RA-3|RA-4
1B0F1 HENTAIGANA LETTER RI-|1|2|3|4|5|6|7
1B0F8 HENTAIGANA LETTER RU-|1|2|3|4|5|6
1B0FE HENTAIGANA LETTER |RE-1|RE-2|RE-3|RE-4|RO-1|RO-2|RO-3|RO-4|RO-5|RO-6|WA-1|WA-2|WA-3|WA-4|WA-5
1B10D HENTAIGANA LETTER WI-|1|2|3|4|5
1B112 HENTAIGANA LETTER |WE-1|WE-2|WE-3|WE-4|WO-1|WO-2|WO-3|WO-4|WO-5|WO-6|WO-7|N-MU-MO-1|N-MU-MO-2
1B11F HIRAGANA LETTER ARCHAIC |WU
1B120 KATAKANA LETTER ARCHAIC |YI|YE|WU
1B150 HIRAGANA LETTER SMALL |WI|WE|WO
1B164 KATAKANA LETTER SMALL |WI|WE|WO|N
1BC00 DUPLOYAN LETTER |H|X|P|T|F|K|L|B|D|V|G|R|P N|D S|F N|K M|R S|TH
1BC12 DUPLOYAN LETTER |SLOAN DH|DH|KK|SLOAN J|HL|LH|RH|M|N|J|S|M N|N M|J M|S J|M WITH DOT|N WITH DOT
1BC23 DUPLOYAN LETTER |J WITH DOT|J WITH DOTS INSIDE AND ABOVE|S WITH DOT|S WITH DOT BELOW
1BC27 DUPLOYAN LETTER |M S|N S|J S|S S|M N S|N M S|J M S|S J S|J S WITH DOT|J N|J N S|S T
1BC33 DUPLOYAN LETTER |S T R|S P|S P R|T S|T R S|W|WH|W R|S N|S M|K R S|G R S|S K|S K R|A|SLOAN OW
1BC43 DUPLOYAN LETTER |OA|O|AOU|I|E|IE|SHORT I|UI|EE|SLOAN EH|ROMANIAN I|SLOAN EE|LONG I|YE|U|EU|XW
1BC54 DUPLOYAN LETTER |U N|LONG U|ROMANIAN U|UH|SLOAN U|OOH|OW|OU|WA|WO|WI|WEI|WOW|NASAL U|NASAL O
1BC63 DUPLOYAN LETTER |NASAL I|NASAL A|PERNIN AN|PERNIN AM|SLOAN EN|SLOAN AN|SLOAN ON|VOCALIC M
1BC70 DUPLOYAN AFFIX |LEFT HORIZONTAL SECANT|MID HORIZONTAL SECANT|RIGHT HORIZONTAL SECANT
1BC73 DUPLOYAN AFFIX |LOW VERTICAL SECANT|MID VERTICAL SECANT|HIGH VERTICAL SECANT
1BC76 DUPLOYAN AFFIX ATTACHED |SECANT|LEFT-TO-RIGHT SECANT|TANGENT|TAIL|E HOOK|I HOOK|TANGENT HOOK
1BC80 DUPLOYAN AFFIX HIGH |ACUTE|TIGHT ACUTE|GRAVE|LONG GRAVE|DOT|CIRCLE|LINE|WAVE|VERTICAL
1BC90 DUPLOYAN AFFIX LOW |ACUTE|TIGHT ACUTE|GRAVE|LONG GRAVE|DOT|CIRCLE|LINE|WAVE|VERTICAL|ARROW
1BC9C DUPLOYAN |SIGN O WITH CROSS|THICK LETTER SELECTOR|DOUBLE MARK|PUNCTUATION CHINOOK FULL STOP
1BCA0 SHORTHAND FORMAT |LETTER OVERLAP|CONTINUING OVERLAP|DOWN STEP|UP STEP
1CF00 ZNAMENNY COMBINING MARK |GORAZDO NIZKO S KRYZHEM ON LEFT|NIZKO S KRYZHEM ON LEFT
1CF02 ZNAMENNY COMBINING MARK |TSATA ON LEFT|GORAZDO NIZKO ON LEFT|NIZKO ON LEFT
1CF05 ZNAMENNY COMBINING MARK |SREDNE ON LEFT|MALO POVYSHE ON LEFT|POVYSHE ON LEFT|VYSOKO ON LEFT
1CF09 ZNAMENNY COMBINING MARK |MALO POVYSHE S KHOKHLOM ON LEFT|POVYSHE S KHOKHLOM ON LEFT
1CF0B ZNAMENNY COMBINING MARK |VYSOKO S KHOKHLOM ON LEFT|GORAZDO NIZKO S KRYZHEM ON RIGHT
1CF0D ZNAMENNY COMBINING MARK |NIZKO S KRYZHEM ON RIGHT|TSATA ON RIGHT|GORAZDO NIZKO ON RIGHT
1CF10 ZNAMENNY COMBINING MARK |NIZKO ON RIGHT|SREDNE ON RIGHT|MALO POVYSHE ON RIGHT
1CF13 ZNAMENNY COMBINING MARK |POVYSHE ON RIGHT|VYSOKO ON RIGHT|MALO POVYSHE S KHOKHLOM ON RIGHT
1CF16 ZNAMENNY COMBINING MARK |POVYSHE S KHOKHLOM ON RIGHT|VYSOKO S KHOKHLOM ON RIGHT
1CF18 ZNAMENNY COMBINING MARK |TSATA S KRYZHEM|MALO POVYSHE S KRYZHEM|STRANNO MALO POVYSHE
1CF1B ZNAMENNY COMBINING MARK POVYSHE |S KRYZHEM|STRANNO
1CF1D ZNAMENNY COMBINING MARK |VYSOKO S KRYZHEM|MALO POVYSHE STRANNO
1CF1F ZNAMENNY COMBINING MARK |GORAZDO VYSOKO|ZELO|ON|RAVNO|TIKHAYA|BORZAYA|UDARKA
1CF26 ZNAMENNY COMBINING MARK |PODVERTKA|LOMKA|KUPNAYA|KACHKA|ZEVOK|SKOBA|RAZSEKA|KRYZH ON LEFT
1CF30 ZNAMENNY COMBINING TONAL RANGE MARK |MRACHNO|SVETLO|TRESVETLO
1CF33 ZNAMENNY COMBINING MARK |ZADERZHKA|DEMESTVENNY ZADERZHKA|OTSECHKA|PODCHASHIE
1CF37 ZNAMENNY COMBINING MARK |PODCHASHIE WITH VERTICAL STROKE|CHASHKA|CHASHKA POLNAYA|OBLACHKO
1CF3B ZNAMENNY COMBINING |MARK SOROCHYA NOZHKA|MARK TOCHKA|MARK DVOETOCHIE|ATTACHING VERTICAL OMET
1CF3F ZNAMENNY COMBINING |MARK CURVED OMET|MARK KRYZH|LOWER TONAL RANGE INDICATOR
1CF42 ZNAMENNY PRIZNAK MODIFIER |LEVEL-2|LEVEL-3|DIRECTION FLIP|KRYZH|ROG
1CF50 ZNAMENNY NEUME |KRYUK|KRYUK TIKHY|PARAKLIT|DVA V CHELNU
1CF54 ZNAMENNY NEUME |KLYUCH|ZANOZHEK|STOPITSA|STOPITSA S OCHKOM|PEREVODKA|PEREVODKA NEPOSTOYANNAYA
1CF5A ZNAMENNY NEUME |STOPITSA WITH SOROCHYA NOZHKA|CHELYUSTKA|PALKA|ZAPYATAYA
1CF5E ZNAMENNY NEUME GOLUBCHIK |BORZY|TIKHY|MRACHNY|SVETLY|TRESVETLY
1CF63 ZNAMENNY NEUME VRAKHIYA |PROSTAYA|MRACHNAYA|SVETLAYA|TRESVETLAYA
1CF67 ZNAMENNY NEUME VRAKHIYA KLYUCHEVAYA |PROSTAYA|MRACHNAYA|SVETLAYA|TRESVETLAYA
1CF6B ZNAMENNY NEUME |DOUBLE ZAPYATAYA|REVERSED CHELYUSTKA|DERBITSA|KHAMILO|CHASHKA|PODCHASHIE
1CF71 ZNAMENNY NEUME SKAMEYTSA |MRACHNAYA|SVETLAYA|TRESVETLAYA|TIKHAYA
1CF75 ZNAMENNY NEUME DEMESTVENNY |KLYUCH
1CF76 ZNAMENNY NEUME SKAMEYTSA |KLYUCHEVAYA SVETLAYA|KLYUCHENEPOSTOYANNAYA|KLYUCHEVAYA TIKHAYA
1CF79 ZNAMENNY NEUME SKAMEYTSA DVOECHELNAYA |PROSTAYA|SVETLAYA|NEPOSTOYANNAYA|KLYUCHEVAYA
1CF7D ZNAMENNY NEUME |SLOZHITIE|SLOZHITIE S ZAPYATOY
1CF7F ZNAMENNY NEUME |SLOZHITIE ZAKRYTOE|SLOZHITIE S KRYZHEM|KRYZH|ROG|FITA|KOBYLA|ZMEYTSA|STATYA
1CF87 ZNAMENNY NEUME STATYA S |ZAPYATOY|KRYZHEM|ZAPYATOY I KRYZHEM|KRYZHEM I ZAPYATOY
1CF8B ZNAMENNY NEUME STATYA |ZAKRYTAYA|ZAKRYTAYA S ZAPYATOY|S ROGOM|S DVUMYA ZAPYATYMI
1CF8F ZNAMENNY NEUME |STATYA S ZAPYATOY I PODCHASHIEM|POLKULIZMY|STATYA NEPOSTOYANNAYA
1CF92 ZNAMENNY NEUME STRELA |PROSTAYA|MRACHNOTIKHAYA|KRYZHEVAYA|POLUPOVODNAYA
1CF96 ZNAMENNY NEUME STRELA |POVODNAYA|NEPOSTOYANNAYA|KLYUCHEPOVODNAYA|KLYUCHENEPOSTOYANNAYA
1CF9A ZNAMENNY NEUME STRELA |TIKHAYA PUTNAYA|DVOECHELNAYA|DVOECHELNOKRYZHEVAYA|DVOECHELNOPOVODNAYA
1CF9E ZNAMENNY NEUME STRELA |DVOECHELNAYA KLYUCHEVAYA|DVOECHELNOPOVODNAYA KLYUCHEVAYA
1CFA0 ZNAMENNY NEUME STRELA |GROMNAYA WITH SINGLE ZAPYATAYA|GROMOPOVODNAYA WITH SINGLE ZAPYATAYA
1CFA2 ZNAMENNY NEUME STRELA |GROMNAYA|GROMOPOVODNAYA|GROMOPOVODNAYA WITH DOUBLE ZAPYATAYA
1CFA5 ZNAMENNY NEUME |STRELA GROMOKRYZHEVAYA|STRELA GROMOKRYZHEVAYA POVODNAYA|MECHIK
1CFA8 ZNAMENNY NEUME MECHIK |POVODNY|KLYUCHEVOY|KLYUCHEPOVODNY|KLYUCHENEPOSTOYANNY
1CFAC ZNAMENNY NEUME |STRELA TRYASOGLASNAYA|STRELA TRYASOPOVODNAYA|STRELA TRYASOSTRELNAYA|OSOKA
1CFB0 ZNAMENNY NEUME OSOKA |SVETLAYA|TRESVETLAYA|KRYUKOVAYA SVETLAYA|KLYUCHEVAYA SVETLAYA
1CFB4 ZNAMENNY NEUME |OSOKA KLYUCHEVAYA NEPOSTOYANNAYA|STRELA KRYUKOVAYA
1CFB6 ZNAMENNY NEUME STRELA KRYUKOVAYA |POVODNAYA|GROMNAYA WITH SINGLE ZAPYATAYA
1CFB8 ZNAMENNY NEUME STRELA KRYUKOVAYA GROMOPOVODNAYA WITH SINGLE |ZAPYATAYA
1CFB9 ZNAMENNY NEUME STRELA KRYUKOVAYA |GROMNAYA|GROMOPOVODNAYA|GROMOPOVODNAYA WITH DOUBLE ZAPYATAYA
1CFBC ZNAMENNY NEUME STRELA KRYUKOVAYA |GROMOKRYZHEVAYA|GROMOKRYZHEVAYA POVODNAYA|TRYASKA
1CFBF ZNAMENNY NEUME |KUFISMA|OBLAKO|DUDA|NEMKA|PAUK"

end TaintFlow.Text.CharName
