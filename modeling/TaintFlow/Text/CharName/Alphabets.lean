/-
Module: TaintFlow.Text.CharName.Alphabets
Purpose: Names of alphabets and the signs that go with them (Unicode 14, 0000 to 0FFF).
Main exports: Text.CharName.alphabets
-/

namespace TaintFlow.Text.CharName

/-- The names of characters in a row, a line for each row: the number of the first, what all their names
    begin with, and how each goes on, parted by bars. -/
def alphabets : String := "20 |SPACE
21 |EXCLAMATION MARK|QUOTATION MARK|NUMBER SIGN|DOLLAR SIGN|PERCENT SIGN|AMPERSAND|APOSTROPHE
28 |LEFT PARENTHESIS|RIGHT PARENTHESIS|ASTERISK|PLUS SIGN|COMMA|HYPHEN-MINUS|FULL STOP|SOLIDUS
30 DIGIT |ZERO|ONE|TWO|THREE|FOUR|FIVE|SIX|SEVEN|EIGHT|NINE
3A |COLON|SEMICOLON|LESS-THAN SIGN|EQUALS SIGN|GREATER-THAN SIGN|QUESTION MARK|COMMERCIAL AT
41 LATIN CAPITAL LETTER |A|B|C|D|E|F|G|H|I|J|K|L|M|N|O|P|Q|R|S|T|U|V|W|X|Y|Z
5B LEFT SQUARE |BRACKET
5C |REVERSE SOLIDUS|RIGHT SQUARE BRACKET|CIRCUMFLEX ACCENT|LOW LINE|GRAVE ACCENT
61 LATIN SMALL LETTER |A|B|C|D|E|F|G|H|I|J|K|L|M|N|O|P|Q|R|S|T|U|V|W|X|Y|Z
7B |LEFT CURLY BRACKET|VERTICAL LINE|RIGHT CURLY BRACKET|TILDE
A0 NO-BREAK |SPACE
A1 |INVERTED EXCLAMATION MARK|CENT SIGN|POUND SIGN|CURRENCY SIGN|YEN SIGN|BROKEN BAR|SECTION SIGN
A8 |DIAERESIS|COPYRIGHT SIGN|FEMININE ORDINAL INDICATOR|LEFT-POINTING DOUBLE ANGLE QUOTATION MARK
AC |NOT SIGN|SOFT HYPHEN|REGISTERED SIGN|MACRON|DEGREE SIGN|PLUS-MINUS SIGN
B2 SUPERSCRIPT |TWO|THREE
B4 |ACUTE ACCENT|MICRO SIGN|PILCROW SIGN|MIDDLE DOT|CEDILLA
B9 |SUPERSCRIPT ONE|MASCULINE ORDINAL INDICATOR|RIGHT-POINTING DOUBLE ANGLE QUOTATION MARK
BC VULGAR FRACTION |ONE QUARTER|ONE HALF|THREE QUARTERS
BF INVERTED QUESTION |MARK
C0 LATIN CAPITAL LETTER A WITH |GRAVE|ACUTE|CIRCUMFLEX|TILDE|DIAERESIS|RING ABOVE
C6 LATIN CAPITAL LETTER |AE|C WITH CEDILLA
C8 LATIN CAPITAL LETTER E WITH |GRAVE|ACUTE|CIRCUMFLEX|DIAERESIS
CC LATIN CAPITAL LETTER I WITH |GRAVE|ACUTE|CIRCUMFLEX|DIAERESIS
D0 LATIN CAPITAL LETTER |ETH|N WITH TILDE
D2 LATIN CAPITAL LETTER O WITH |GRAVE|ACUTE|CIRCUMFLEX|TILDE|DIAERESIS
D7 MULTIPLICATION |SIGN
D8 LATIN CAPITAL LETTER |O WITH STROKE|U WITH GRAVE
DA LATIN CAPITAL LETTER |U WITH ACUTE|U WITH CIRCUMFLEX|U WITH DIAERESIS|Y WITH ACUTE|THORN
DF LATIN SMALL LETTER SHARP |S
E0 LATIN SMALL LETTER A WITH |GRAVE|ACUTE|CIRCUMFLEX|TILDE|DIAERESIS|RING ABOVE
E6 LATIN SMALL LETTER |AE|C WITH CEDILLA
E8 LATIN SMALL LETTER E WITH |GRAVE|ACUTE|CIRCUMFLEX|DIAERESIS
EC LATIN SMALL LETTER I WITH |GRAVE|ACUTE|CIRCUMFLEX|DIAERESIS
F0 LATIN SMALL LETTER |ETH|N WITH TILDE
F2 LATIN SMALL LETTER O WITH |GRAVE|ACUTE|CIRCUMFLEX|TILDE|DIAERESIS
F7 |DIVISION SIGN|LATIN SMALL LETTER O WITH STROKE
F9 LATIN SMALL LETTER U WITH |GRAVE|ACUTE|CIRCUMFLEX|DIAERESIS
FD LATIN SMALL LETTER |Y WITH ACUTE|THORN|Y WITH DIAERESIS
100 LATIN |CAPITAL LETTER A WITH MACRON|SMALL LETTER A WITH MACRON|CAPITAL LETTER A WITH BREVE
103 LATIN |SMALL LETTER A WITH BREVE|CAPITAL LETTER A WITH OGONEK|SMALL LETTER A WITH OGONEK
106 LATIN |CAPITAL LETTER C WITH ACUTE|SMALL LETTER C WITH ACUTE|CAPITAL LETTER C WITH CIRCUMFLEX
109 LATIN |SMALL LETTER C WITH CIRCUMFLEX|CAPITAL LETTER C WITH DOT ABOVE
10B LATIN |SMALL LETTER C WITH DOT ABOVE|CAPITAL LETTER C WITH CARON|SMALL LETTER C WITH CARON
10E LATIN |CAPITAL LETTER D WITH CARON|SMALL LETTER D WITH CARON|CAPITAL LETTER D WITH STROKE
111 LATIN |SMALL LETTER D WITH STROKE|CAPITAL LETTER E WITH MACRON|SMALL LETTER E WITH MACRON
114 LATIN |CAPITAL LETTER E WITH BREVE|SMALL LETTER E WITH BREVE|CAPITAL LETTER E WITH DOT ABOVE
117 LATIN |SMALL LETTER E WITH DOT ABOVE|CAPITAL LETTER E WITH OGONEK
119 LATIN |SMALL LETTER E WITH OGONEK|CAPITAL LETTER E WITH CARON|SMALL LETTER E WITH CARON
11C LATIN |CAPITAL LETTER G WITH CIRCUMFLEX|SMALL LETTER G WITH CIRCUMFLEX
11E LATIN |CAPITAL LETTER G WITH BREVE|SMALL LETTER G WITH BREVE|CAPITAL LETTER G WITH DOT ABOVE
121 LATIN |SMALL LETTER G WITH DOT ABOVE|CAPITAL LETTER G WITH CEDILLA|SMALL LETTER G WITH CEDILLA
124 LATIN |CAPITAL LETTER H WITH CIRCUMFLEX|SMALL LETTER H WITH CIRCUMFLEX
126 LATIN |CAPITAL LETTER H WITH STROKE|SMALL LETTER H WITH STROKE|CAPITAL LETTER I WITH TILDE
129 LATIN |SMALL LETTER I WITH TILDE|CAPITAL LETTER I WITH MACRON|SMALL LETTER I WITH MACRON
12C LATIN |CAPITAL LETTER I WITH BREVE|SMALL LETTER I WITH BREVE|CAPITAL LETTER I WITH OGONEK
12F LATIN |SMALL LETTER I WITH OGONEK|CAPITAL LETTER I WITH DOT ABOVE|SMALL LETTER DOTLESS I
132 LATIN |CAPITAL LIGATURE IJ|SMALL LIGATURE IJ|CAPITAL LETTER J WITH CIRCUMFLEX
135 LATIN |SMALL LETTER J WITH CIRCUMFLEX|CAPITAL LETTER K WITH CEDILLA
137 LATIN |SMALL LETTER K WITH CEDILLA|SMALL LETTER KRA|CAPITAL LETTER L WITH ACUTE
13A LATIN |SMALL LETTER L WITH ACUTE|CAPITAL LETTER L WITH CEDILLA|SMALL LETTER L WITH CEDILLA
13D LATIN |CAPITAL LETTER L WITH CARON|SMALL LETTER L WITH CARON|CAPITAL LETTER L WITH MIDDLE DOT
140 LATIN |SMALL LETTER L WITH MIDDLE DOT|CAPITAL LETTER L WITH STROKE
142 LATIN |SMALL LETTER L WITH STROKE|CAPITAL LETTER N WITH ACUTE|SMALL LETTER N WITH ACUTE
145 LATIN |CAPITAL LETTER N WITH CEDILLA|SMALL LETTER N WITH CEDILLA|CAPITAL LETTER N WITH CARON
148 LATIN SMALL LETTER N |WITH CARON|PRECEDED BY APOSTROPHE
14A LATIN |CAPITAL LETTER ENG|SMALL LETTER ENG
14C LATIN |CAPITAL LETTER O WITH MACRON|SMALL LETTER O WITH MACRON|CAPITAL LETTER O WITH BREVE
14F LATIN |SMALL LETTER O WITH BREVE|CAPITAL LETTER O WITH DOUBLE ACUTE
151 LATIN |SMALL LETTER O WITH DOUBLE ACUTE|CAPITAL LIGATURE OE|SMALL LIGATURE OE
154 LATIN |CAPITAL LETTER R WITH ACUTE|SMALL LETTER R WITH ACUTE|CAPITAL LETTER R WITH CEDILLA
157 LATIN |SMALL LETTER R WITH CEDILLA|CAPITAL LETTER R WITH CARON|SMALL LETTER R WITH CARON
15A LATIN |CAPITAL LETTER S WITH ACUTE|SMALL LETTER S WITH ACUTE|CAPITAL LETTER S WITH CIRCUMFLEX
15D LATIN |SMALL LETTER S WITH CIRCUMFLEX|CAPITAL LETTER S WITH CEDILLA
15F LATIN |SMALL LETTER S WITH CEDILLA|CAPITAL LETTER S WITH CARON|SMALL LETTER S WITH CARON
162 LATIN |CAPITAL LETTER T WITH CEDILLA|SMALL LETTER T WITH CEDILLA|CAPITAL LETTER T WITH CARON
165 LATIN |SMALL LETTER T WITH CARON|CAPITAL LETTER T WITH STROKE|SMALL LETTER T WITH STROKE
168 LATIN |CAPITAL LETTER U WITH TILDE|SMALL LETTER U WITH TILDE|CAPITAL LETTER U WITH MACRON
16B LATIN |SMALL LETTER U WITH MACRON|CAPITAL LETTER U WITH BREVE|SMALL LETTER U WITH BREVE
16E LATIN |CAPITAL LETTER U WITH RING ABOVE|SMALL LETTER U WITH RING ABOVE
170 LATIN |CAPITAL LETTER U WITH DOUBLE ACUTE|SMALL LETTER U WITH DOUBLE ACUTE
172 LATIN |CAPITAL LETTER U WITH OGONEK|SMALL LETTER U WITH OGONEK
174 LATIN |CAPITAL LETTER W WITH CIRCUMFLEX|SMALL LETTER W WITH CIRCUMFLEX
176 LATIN |CAPITAL LETTER Y WITH CIRCUMFLEX|SMALL LETTER Y WITH CIRCUMFLEX
178 LATIN CAPITAL LETTER |Y WITH DIAERESIS|Z WITH ACUTE
17A LATIN |SMALL LETTER Z WITH ACUTE|CAPITAL LETTER Z WITH DOT ABOVE
17C LATIN |SMALL LETTER Z WITH DOT ABOVE|CAPITAL LETTER Z WITH CARON
17E LATIN SMALL LETTER |Z WITH CARON|LONG S|B WITH STROKE
181 LATIN CAPITAL LETTER B WITH |HOOK|TOPBAR
183 LATIN |SMALL LETTER B WITH TOPBAR|CAPITAL LETTER TONE SIX|SMALL LETTER TONE SIX
186 LATIN CAPITAL LETTER |OPEN O|C WITH HOOK
188 LATIN SMALL LETTER C WITH |HOOK
189 LATIN CAPITAL LETTER |AFRICAN D|D WITH HOOK|D WITH TOPBAR
18C LATIN SMALL LETTER |D WITH TOPBAR|TURNED DELTA
18E LATIN CAPITAL LETTER |REVERSED E|SCHWA|OPEN E|F WITH HOOK
192 LATIN SMALL LETTER F WITH |HOOK
193 LATIN CAPITAL LETTER |G WITH HOOK|GAMMA
195 LATIN SMALL LETTER |HV
196 LATIN CAPITAL LETTER |IOTA|I WITH STROKE|K WITH HOOK
199 LATIN SMALL LETTER |K WITH HOOK|L WITH BAR|LAMBDA WITH STROKE
19C LATIN CAPITAL LETTER |TURNED M|N WITH LEFT HOOK
19E LATIN SMALL LETTER N WITH LONG RIGHT |LEG
19F LATIN CAPITAL LETTER O WITH |MIDDLE TILDE|HORN
1A1 LATIN |SMALL LETTER O WITH HORN|CAPITAL LETTER OI|SMALL LETTER OI
1A4 LATIN |CAPITAL LETTER P WITH HOOK|SMALL LETTER P WITH HOOK|LETTER YR|CAPITAL LETTER TONE TWO
1A8 LATIN |SMALL LETTER TONE TWO|CAPITAL LETTER ESH|LETTER REVERSED ESH LOOP
1AB LATIN |SMALL LETTER T WITH PALATAL HOOK|CAPITAL LETTER T WITH HOOK|SMALL LETTER T WITH HOOK
1AE LATIN CAPITAL LETTER |T WITH RETROFLEX HOOK|U WITH HORN
1B0 LATIN SMALL LETTER U WITH |HORN
1B1 LATIN CAPITAL LETTER |UPSILON|V WITH HOOK|Y WITH HOOK
1B4 LATIN |SMALL LETTER Y WITH HOOK|CAPITAL LETTER Z WITH STROKE|SMALL LETTER Z WITH STROKE
1B7 LATIN CAPITAL LETTER |EZH|EZH REVERSED
1B9 LATIN SMALL LETTER EZH |REVERSED|WITH TAIL
1BB LATIN |LETTER TWO WITH STROKE|CAPITAL LETTER TONE FIVE
1BD LATIN |SMALL LETTER TONE FIVE|LETTER INVERTED GLOTTAL STOP WITH STROKE
1BF LATIN LETTER |WYNN|DENTAL CLICK|LATERAL CLICK|ALVEOLAR CLICK|RETROFLEX CLICK
1C4 LATIN CAPITAL LETTER |DZ WITH CARON|D WITH SMALL LETTER Z WITH CARON
1C6 LATIN SMALL LETTER DZ WITH |CARON
1C7 LATIN CAPITAL LETTER |LJ|L WITH SMALL LETTER J
1C9 LATIN SMALL LETTER |LJ
1CA LATIN CAPITAL LETTER |NJ|N WITH SMALL LETTER J
1CC LATIN |SMALL LETTER NJ|CAPITAL LETTER A WITH CARON
1CE LATIN |SMALL LETTER A WITH CARON|CAPITAL LETTER I WITH CARON|SMALL LETTER I WITH CARON
1D1 LATIN |CAPITAL LETTER O WITH CARON|SMALL LETTER O WITH CARON|CAPITAL LETTER U WITH CARON
1D4 LATIN |SMALL LETTER U WITH CARON|CAPITAL LETTER U WITH DIAERESIS AND MACRON
1D6 LATIN |SMALL LETTER U WITH DIAERESIS AND MACRON|CAPITAL LETTER U WITH DIAERESIS AND ACUTE
1D8 LATIN |SMALL LETTER U WITH DIAERESIS AND ACUTE|CAPITAL LETTER U WITH DIAERESIS AND CARON
1DA LATIN |SMALL LETTER U WITH DIAERESIS AND CARON|CAPITAL LETTER U WITH DIAERESIS AND GRAVE
1DC LATIN SMALL LETTER |U WITH DIAERESIS AND GRAVE|TURNED E
1DE LATIN |CAPITAL LETTER A WITH DIAERESIS AND MACRON|SMALL LETTER A WITH DIAERESIS AND MACRON
1E0 LATIN |CAPITAL LETTER A WITH DOT ABOVE AND MACRON|SMALL LETTER A WITH DOT ABOVE AND MACRON
1E2 LATIN |CAPITAL LETTER AE WITH MACRON|SMALL LETTER AE WITH MACRON|CAPITAL LETTER G WITH STROKE
1E5 LATIN |SMALL LETTER G WITH STROKE|CAPITAL LETTER G WITH CARON|SMALL LETTER G WITH CARON
1E8 LATIN |CAPITAL LETTER K WITH CARON|SMALL LETTER K WITH CARON|CAPITAL LETTER O WITH OGONEK
1EB LATIN |SMALL LETTER O WITH OGONEK|CAPITAL LETTER O WITH OGONEK AND MACRON
1ED LATIN |SMALL LETTER O WITH OGONEK AND MACRON|CAPITAL LETTER EZH WITH CARON
1EF LATIN SMALL LETTER |EZH WITH CARON|J WITH CARON
1F1 LATIN CAPITAL LETTER |DZ|D WITH SMALL LETTER Z
1F3 LATIN |SMALL LETTER DZ|CAPITAL LETTER G WITH ACUTE|SMALL LETTER G WITH ACUTE
1F6 LATIN CAPITAL LETTER |HWAIR|WYNN|N WITH GRAVE
1F9 LATIN SMALL LETTER N WITH |GRAVE
1FA LATIN |CAPITAL LETTER A WITH RING ABOVE AND ACUTE|SMALL LETTER A WITH RING ABOVE AND ACUTE
1FC LATIN |CAPITAL LETTER AE WITH ACUTE|SMALL LETTER AE WITH ACUTE
1FE LATIN |CAPITAL LETTER O WITH STROKE AND ACUTE|SMALL LETTER O WITH STROKE AND ACUTE
200 LATIN |CAPITAL LETTER A WITH DOUBLE GRAVE|SMALL LETTER A WITH DOUBLE GRAVE
202 LATIN |CAPITAL LETTER A WITH INVERTED BREVE|SMALL LETTER A WITH INVERTED BREVE
204 LATIN |CAPITAL LETTER E WITH DOUBLE GRAVE|SMALL LETTER E WITH DOUBLE GRAVE
206 LATIN |CAPITAL LETTER E WITH INVERTED BREVE|SMALL LETTER E WITH INVERTED BREVE
208 LATIN |CAPITAL LETTER I WITH DOUBLE GRAVE|SMALL LETTER I WITH DOUBLE GRAVE
20A LATIN |CAPITAL LETTER I WITH INVERTED BREVE|SMALL LETTER I WITH INVERTED BREVE
20C LATIN |CAPITAL LETTER O WITH DOUBLE GRAVE|SMALL LETTER O WITH DOUBLE GRAVE
20E LATIN |CAPITAL LETTER O WITH INVERTED BREVE|SMALL LETTER O WITH INVERTED BREVE
210 LATIN |CAPITAL LETTER R WITH DOUBLE GRAVE|SMALL LETTER R WITH DOUBLE GRAVE
212 LATIN |CAPITAL LETTER R WITH INVERTED BREVE|SMALL LETTER R WITH INVERTED BREVE
214 LATIN |CAPITAL LETTER U WITH DOUBLE GRAVE|SMALL LETTER U WITH DOUBLE GRAVE
216 LATIN |CAPITAL LETTER U WITH INVERTED BREVE|SMALL LETTER U WITH INVERTED BREVE
218 LATIN |CAPITAL LETTER S WITH COMMA BELOW|SMALL LETTER S WITH COMMA BELOW
21A LATIN |CAPITAL LETTER T WITH COMMA BELOW|SMALL LETTER T WITH COMMA BELOW
21C LATIN |CAPITAL LETTER YOGH|SMALL LETTER YOGH|CAPITAL LETTER H WITH CARON
21F LATIN |SMALL LETTER H WITH CARON|CAPITAL LETTER N WITH LONG RIGHT LEG
221 LATIN |SMALL LETTER D WITH CURL|CAPITAL LETTER OU|SMALL LETTER OU
224 LATIN |CAPITAL LETTER Z WITH HOOK|SMALL LETTER Z WITH HOOK|CAPITAL LETTER A WITH DOT ABOVE
227 LATIN |SMALL LETTER A WITH DOT ABOVE|CAPITAL LETTER E WITH CEDILLA|SMALL LETTER E WITH CEDILLA
22A LATIN |CAPITAL LETTER O WITH DIAERESIS AND MACRON|SMALL LETTER O WITH DIAERESIS AND MACRON
22C LATIN |CAPITAL LETTER O WITH TILDE AND MACRON|SMALL LETTER O WITH TILDE AND MACRON
22E LATIN |CAPITAL LETTER O WITH DOT ABOVE|SMALL LETTER O WITH DOT ABOVE
230 LATIN |CAPITAL LETTER O WITH DOT ABOVE AND MACRON|SMALL LETTER O WITH DOT ABOVE AND MACRON
232 LATIN |CAPITAL LETTER Y WITH MACRON|SMALL LETTER Y WITH MACRON
234 LATIN SMALL LETTER |L WITH CURL|N WITH CURL|T WITH CURL|DOTLESS J|DB DIGRAPH|QP DIGRAPH
23A LATIN CAPITAL LETTER |A WITH STROKE|C WITH STROKE
23C LATIN SMALL LETTER C WITH |STROKE
23D LATIN CAPITAL LETTER |L WITH BAR|T WITH DIAGONAL STROKE
23F LATIN SMALL LETTER |S WITH SWASH TAIL|Z WITH SWASH TAIL
241 LATIN |CAPITAL LETTER GLOTTAL STOP|SMALL LETTER GLOTTAL STOP
243 LATIN CAPITAL LETTER |B WITH STROKE|U BAR|TURNED V|E WITH STROKE
247 LATIN |SMALL LETTER E WITH STROKE|CAPITAL LETTER J WITH STROKE|SMALL LETTER J WITH STROKE
24A LATIN |CAPITAL LETTER SMALL Q WITH HOOK TAIL|SMALL LETTER Q WITH HOOK TAIL
24C LATIN |CAPITAL LETTER R WITH STROKE|SMALL LETTER R WITH STROKE|CAPITAL LETTER Y WITH STROKE
24F LATIN SMALL LETTER |Y WITH STROKE|TURNED A|ALPHA|TURNED ALPHA|B WITH HOOK|OPEN O|C WITH CURL
256 LATIN SMALL LETTER |D WITH TAIL|D WITH HOOK|REVERSED E|SCHWA|SCHWA WITH HOOK|OPEN E
25C LATIN SMALL LETTER REVERSED OPEN |E|E WITH HOOK
25E LATIN SMALL LETTER |CLOSED REVERSED OPEN E|DOTLESS J WITH STROKE|G WITH HOOK|SCRIPT G
262 LATIN LETTER SMALL CAPITAL |G
263 LATIN SMALL LETTER |GAMMA|RAMS HORN|TURNED H|H WITH HOOK|HENG WITH HOOK|I WITH STROKE|IOTA
26A LATIN LETTER SMALL CAPITAL |I
26B LATIN SMALL LETTER |L WITH MIDDLE TILDE|L WITH BELT|L WITH RETROFLEX HOOK|LEZH|TURNED M
270 LATIN SMALL LETTER |TURNED M WITH LONG LEG|M WITH HOOK|N WITH LEFT HOOK|N WITH RETROFLEX HOOK
274 LATIN |LETTER SMALL CAPITAL N|SMALL LETTER BARRED O|LETTER SMALL CAPITAL OE
277 LATIN SMALL LETTER |CLOSED OMEGA|PHI|TURNED R|TURNED R WITH LONG LEG|TURNED R WITH HOOK
27C LATIN SMALL LETTER |R WITH LONG LEG|R WITH TAIL|R WITH FISHHOOK|REVERSED R WITH FISHHOOK
280 LATIN LETTER SMALL CAPITAL |R|INVERTED R
282 LATIN SMALL LETTER |S WITH HOOK|ESH|DOTLESS J WITH STROKE AND HOOK|SQUAT REVERSED ESH
286 LATIN SMALL LETTER |ESH WITH CURL|TURNED T|T WITH RETROFLEX HOOK|U BAR|UPSILON|V WITH HOOK
28C LATIN SMALL LETTER TURNED |V|W|Y
28F LATIN LETTER SMALL CAPITAL |Y
290 LATIN SMALL LETTER |Z WITH RETROFLEX HOOK|Z WITH CURL|EZH|EZH WITH CURL
294 LATIN LETTER |GLOTTAL STOP|PHARYNGEAL VOICED FRICATIVE|INVERTED GLOTTAL STOP|STRETCHED C
298 LATIN |LETTER BILABIAL CLICK|LETTER SMALL CAPITAL B|SMALL LETTER CLOSED OPEN E
29B LATIN LETTER SMALL CAPITAL |G WITH HOOK|H
29D LATIN SMALL LETTER |J WITH CROSSED-TAIL|TURNED K
29F LATIN |LETTER SMALL CAPITAL L|SMALL LETTER Q WITH HOOK
2A1 LATIN LETTER |GLOTTAL STOP WITH STROKE|REVERSED GLOTTAL STOP WITH STROKE
2A3 LATIN SMALL LETTER |DZ DIGRAPH|DEZH DIGRAPH|DZ DIGRAPH WITH CURL|TS DIGRAPH
2A7 LATIN SMALL LETTER |TESH DIGRAPH|TC DIGRAPH WITH CURL|FENG DIGRAPH|LS DIGRAPH|LZ DIGRAPH
2AC LATIN LETTER |BILABIAL PERCUSSIVE|BIDENTAL PERCUSSIVE
2AE LATIN SMALL LETTER TURNED H WITH |FISHHOOK|FISHHOOK AND TAIL
2B0 MODIFIER LETTER SMALL |H|H WITH HOOK|J|R|TURNED R|TURNED R WITH HOOK|CAPITAL INVERTED R|W|Y
2B9 MODIFIER LETTER |PRIME|DOUBLE PRIME|TURNED COMMA|APOSTROPHE|REVERSED COMMA
2BE MODIFIER LETTER |RIGHT HALF RING|LEFT HALF RING|GLOTTAL STOP|REVERSED GLOTTAL STOP
2C2 MODIFIER LETTER |LEFT ARROWHEAD|RIGHT ARROWHEAD|UP ARROWHEAD|DOWN ARROWHEAD|CIRCUMFLEX ACCENT
2C7 |CARON
2C8 MODIFIER LETTER |VERTICAL LINE|MACRON|ACUTE ACCENT|GRAVE ACCENT
2CC MODIFIER LETTER LOW |VERTICAL LINE|MACRON|GRAVE ACCENT|ACUTE ACCENT
2D0 MODIFIER LETTER |TRIANGULAR COLON|HALF TRIANGULAR COLON|CENTRED RIGHT HALF RING
2D3 MODIFIER LETTER |CENTRED LEFT HALF RING|UP TACK|DOWN TACK|PLUS SIGN|MINUS SIGN
2D8 |BREVE|DOT ABOVE|RING ABOVE|OGONEK|SMALL TILDE|DOUBLE ACUTE ACCENT
2DE MODIFIER LETTER |RHOTIC HOOK|CROSS ACCENT
2E0 MODIFIER LETTER SMALL |GAMMA|L|S|X|REVERSED GLOTTAL STOP
2E5 MODIFIER LETTER |EXTRA-HIGH TONE BAR|HIGH TONE BAR
2E7 MODIFIER LETTER |MID TONE BAR|LOW TONE BAR|EXTRA-LOW TONE BAR|YIN DEPARTING TONE MARK
2EB MODIFIER LETTER |YANG DEPARTING TONE MARK|VOICING|UNASPIRATED|DOUBLE APOSTROPHE
2EF MODIFIER LETTER LOW |DOWN ARROWHEAD|UP ARROWHEAD|LEFT ARROWHEAD|RIGHT ARROWHEAD|RING
2F4 MODIFIER LETTER MIDDLE |GRAVE ACCENT|DOUBLE GRAVE ACCENT|DOUBLE ACUTE ACCENT
2F7 MODIFIER LETTER |LOW TILDE|RAISED COLON|BEGIN HIGH TONE
2FA MODIFIER LETTER |END HIGH TONE|BEGIN LOW TONE|END LOW TONE|SHELF|OPEN SHELF|LOW LEFT ARROW
300 COMBINING |GRAVE ACCENT|ACUTE ACCENT|CIRCUMFLEX ACCENT|TILDE|MACRON|OVERLINE|BREVE|DOT ABOVE
308 COMBINING |DIAERESIS|HOOK ABOVE|RING ABOVE|DOUBLE ACUTE ACCENT|CARON|VERTICAL LINE ABOVE
30E COMBINING DOUBLE |VERTICAL LINE ABOVE|GRAVE ACCENT
310 COMBINING |CANDRABINDU|INVERTED BREVE|TURNED COMMA ABOVE|COMMA ABOVE|REVERSED COMMA ABOVE
315 COMBINING |COMMA ABOVE RIGHT|GRAVE ACCENT BELOW|ACUTE ACCENT BELOW|LEFT TACK BELOW
319 COMBINING |RIGHT TACK BELOW|LEFT ANGLE ABOVE|HORN|LEFT HALF RING BELOW|UP TACK BELOW
31E COMBINING |DOWN TACK BELOW|PLUS SIGN BELOW|MINUS SIGN BELOW|PALATALIZED HOOK BELOW
322 COMBINING |RETROFLEX HOOK BELOW|DOT BELOW|DIAERESIS BELOW|RING BELOW|COMMA BELOW
327 COMBINING |CEDILLA|OGONEK|VERTICAL LINE BELOW|BRIDGE BELOW|INVERTED DOUBLE ARCH BELOW
32C COMBINING |CARON BELOW|CIRCUMFLEX ACCENT BELOW|BREVE BELOW|INVERTED BREVE BELOW
330 COMBINING |TILDE BELOW|MACRON BELOW|LOW LINE|DOUBLE LOW LINE|TILDE OVERLAY
335 COMBINING |SHORT STROKE OVERLAY|LONG STROKE OVERLAY|SHORT SOLIDUS OVERLAY|LONG SOLIDUS OVERLAY
339 COMBINING |RIGHT HALF RING BELOW|INVERTED BRIDGE BELOW|SQUARE BELOW|SEAGULL BELOW
33D COMBINING |X ABOVE|VERTICAL TILDE|DOUBLE OVERLINE|GRAVE TONE MARK|ACUTE TONE MARK
342 COMBINING GREEK |PERISPOMENI|KORONIS|DIALYTIKA TONOS|YPOGEGRAMMENI
346 COMBINING |BRIDGE ABOVE|EQUALS SIGN BELOW
348 COMBINING |DOUBLE VERTICAL LINE BELOW|LEFT ANGLE BELOW|NOT TILDE ABOVE|HOMOTHETIC ABOVE
34C COMBINING |ALMOST EQUAL TO ABOVE|LEFT RIGHT ARROW BELOW|UPWARDS ARROW BELOW|GRAPHEME JOINER
350 COMBINING |RIGHT ARROWHEAD ABOVE|LEFT HALF RING ABOVE|FERMATA|X BELOW|LEFT ARROWHEAD BELOW
355 COMBINING RIGHT |ARROWHEAD BELOW|ARROWHEAD AND UP ARROWHEAD BELOW|HALF RING ABOVE
358 COMBINING |DOT ABOVE RIGHT|ASTERISK BELOW|DOUBLE RING BELOW|ZIGZAG ABOVE|DOUBLE BREVE BELOW
35D COMBINING DOUBLE |BREVE|MACRON|MACRON BELOW|TILDE|INVERTED BREVE|RIGHTWARDS ARROW BELOW
363 COMBINING LATIN SMALL LETTER |A|E|I|O|U|C|D|H|M|R|T|V|X
370 GREEK CAPITAL LETTER |HETA
371 GREEK |SMALL LETTER HETA|CAPITAL LETTER ARCHAIC SAMPI|SMALL LETTER ARCHAIC SAMPI|NUMERAL SIGN
375 GREEK |LOWER NUMERAL SIGN|CAPITAL LETTER PAMPHYLIAN DIGAMMA|SMALL LETTER PAMPHYLIAN DIGAMMA
37A GREEK |YPOGEGRAMMENI|SMALL REVERSED LUNATE SIGMA SYMBOL|SMALL DOTTED LUNATE SIGMA SYMBOL
37D GREEK |SMALL REVERSED DOTTED LUNATE SIGMA SYMBOL|QUESTION MARK|CAPITAL LETTER YOT
384 GREEK |TONOS|DIALYTIKA TONOS|CAPITAL LETTER ALPHA WITH TONOS|ANO TELEIA
388 GREEK CAPITAL LETTER |EPSILON WITH TONOS|ETA WITH TONOS|IOTA WITH TONOS
38C GREEK CAPITAL LETTER OMICRON WITH |TONOS
38E GREEK CAPITAL LETTER |UPSILON WITH TONOS|OMEGA WITH TONOS
390 GREEK SMALL LETTER IOTA WITH DIALYTIKA AND |TONOS
391 GREEK CAPITAL LETTER |ALPHA|BETA|GAMMA
394 GREEK CAPITAL LETTER |DELTA|EPSILON|ZETA|ETA|THETA|IOTA|KAPPA|LAMDA|MU|NU|XI|OMICRON|PI|RHO
3A3 GREEK CAPITAL LETTER |SIGMA
3A4 GREEK CAPITAL LETTER |TAU|UPSILON|PHI|CHI|PSI|OMEGA|IOTA WITH DIALYTIKA|UPSILON WITH DIALYTIKA
3AC GREEK SMALL LETTER |ALPHA WITH TONOS|EPSILON WITH TONOS|ETA WITH TONOS|IOTA WITH TONOS
3B0 GREEK SMALL LETTER |UPSILON WITH DIALYTIKA AND TONOS|ALPHA|BETA|GAMMA|DELTA|EPSILON
3B6 GREEK SMALL LETTER |ZETA|ETA|THETA|IOTA|KAPPA|LAMDA|MU|NU|XI|OMICRON|PI|RHO|FINAL SIGMA|SIGMA
3C4 GREEK SMALL LETTER |TAU|UPSILON|PHI|CHI|PSI|OMEGA|IOTA WITH DIALYTIKA|UPSILON WITH DIALYTIKA
3CC GREEK SMALL LETTER |OMICRON WITH TONOS|UPSILON WITH TONOS|OMEGA WITH TONOS
3CF GREEK |CAPITAL KAI SYMBOL|BETA SYMBOL|THETA SYMBOL
3D2 GREEK UPSILON WITH |HOOK SYMBOL|ACUTE AND HOOK SYMBOL|DIAERESIS AND HOOK SYMBOL
3D5 GREEK |PHI SYMBOL|PI SYMBOL|KAI SYMBOL|LETTER ARCHAIC KOPPA
3D9 GREEK |SMALL LETTER ARCHAIC KOPPA|LETTER STIGMA|SMALL LETTER STIGMA|LETTER DIGAMMA
3DD GREEK |SMALL LETTER DIGAMMA|LETTER KOPPA|SMALL LETTER KOPPA|LETTER SAMPI|SMALL LETTER SAMPI
3E2 COPTIC |CAPITAL LETTER SHEI|SMALL LETTER SHEI
3E4 COPTIC |CAPITAL LETTER FEI|SMALL LETTER FEI|CAPITAL LETTER KHEI|SMALL LETTER KHEI
3E8 COPTIC |CAPITAL LETTER HORI|SMALL LETTER HORI|CAPITAL LETTER GANGIA|SMALL LETTER GANGIA
3EC COPTIC |CAPITAL LETTER SHIMA|SMALL LETTER SHIMA|CAPITAL LETTER DEI|SMALL LETTER DEI
3F0 GREEK |KAPPA SYMBOL|RHO SYMBOL|LUNATE SIGMA SYMBOL
3F3 GREEK |LETTER YOT|CAPITAL THETA SYMBOL|LUNATE EPSILON SYMBOL|REVERSED LUNATE EPSILON SYMBOL
3F7 GREEK |CAPITAL LETTER SHO|SMALL LETTER SHO|CAPITAL LUNATE SIGMA SYMBOL|CAPITAL LETTER SAN
3FB GREEK |SMALL LETTER SAN|RHO WITH STROKE SYMBOL|CAPITAL REVERSED LUNATE SIGMA SYMBOL
3FE GREEK CAPITAL |DOTTED LUNATE SIGMA SYMBOL|REVERSED DOTTED LUNATE SIGMA SYMBOL
400 CYRILLIC CAPITAL LETTER |IE WITH GRAVE|IO|DJE|GJE|UKRAINIAN IE
405 CYRILLIC CAPITAL LETTER |DZE|BYELORUSSIAN-UKRAINIAN I|YI|JE|LJE|NJE|TSHE|KJE|I WITH GRAVE
40E CYRILLIC CAPITAL LETTER |SHORT U|DZHE|A|BE|VE|GHE|DE|IE|ZHE|ZE|I|SHORT I|KA|EL|EM|EN|O|PE
420 CYRILLIC CAPITAL LETTER |ER|ES|TE|U|EF|HA|TSE|CHE|SHA|SHCHA|HARD SIGN|YERU|SOFT SIGN|E|YU|YA
430 CYRILLIC SMALL LETTER |A|BE|VE|GHE|DE|IE|ZHE|ZE|I|SHORT I|KA|EL|EM|EN
43E CYRILLIC SMALL LETTER |O|PE|ER|ES|TE|U|EF|HA|TSE|CHE|SHA|SHCHA|HARD SIGN|YERU|SOFT SIGN|E|YU
44F CYRILLIC SMALL LETTER |YA|IE WITH GRAVE|IO|DJE|GJE|UKRAINIAN IE|DZE|BYELORUSSIAN-UKRAINIAN I
457 CYRILLIC SMALL LETTER |YI|JE|LJE|NJE|TSHE|KJE|I WITH GRAVE|SHORT U|DZHE
460 CYRILLIC CAPITAL LETTER |OMEGA
461 CYRILLIC |SMALL LETTER OMEGA|CAPITAL LETTER YAT|SMALL LETTER YAT|CAPITAL LETTER IOTIFIED E
465 CYRILLIC |SMALL LETTER IOTIFIED E|CAPITAL LETTER LITTLE YUS|SMALL LETTER LITTLE YUS
468 CYRILLIC |CAPITAL LETTER IOTIFIED LITTLE YUS|SMALL LETTER IOTIFIED LITTLE YUS
46A CYRILLIC |CAPITAL LETTER BIG YUS|SMALL LETTER BIG YUS|CAPITAL LETTER IOTIFIED BIG YUS
46D CYRILLIC |SMALL LETTER IOTIFIED BIG YUS|CAPITAL LETTER KSI|SMALL LETTER KSI|CAPITAL LETTER PSI
471 CYRILLIC |SMALL LETTER PSI|CAPITAL LETTER FITA|SMALL LETTER FITA|CAPITAL LETTER IZHITSA
475 CYRILLIC |SMALL LETTER IZHITSA|CAPITAL LETTER IZHITSA WITH DOUBLE GRAVE ACCENT
477 CYRILLIC |SMALL LETTER IZHITSA WITH DOUBLE GRAVE ACCENT|CAPITAL LETTER UK
479 CYRILLIC |SMALL LETTER UK|CAPITAL LETTER ROUND OMEGA|SMALL LETTER ROUND OMEGA
47C CYRILLIC |CAPITAL LETTER OMEGA WITH TITLO|SMALL LETTER OMEGA WITH TITLO|CAPITAL LETTER OT
47F CYRILLIC |SMALL LETTER OT|CAPITAL LETTER KOPPA|SMALL LETTER KOPPA|THOUSANDS SIGN
483 COMBINING CYRILLIC |TITLO|PALATALIZATION|DASIA PNEUMATA
486 COMBINING CYRILLIC |PSILI PNEUMATA|POKRYTIE|HUNDRED THOUSANDS SIGN|MILLIONS SIGN
48A CYRILLIC |CAPITAL LETTER SHORT I WITH TAIL|SMALL LETTER SHORT I WITH TAIL
48C CYRILLIC |CAPITAL LETTER SEMISOFT SIGN|SMALL LETTER SEMISOFT SIGN
48E CYRILLIC |CAPITAL LETTER ER WITH TICK|SMALL LETTER ER WITH TICK|CAPITAL LETTER GHE WITH UPTURN
491 CYRILLIC |SMALL LETTER GHE WITH UPTURN|CAPITAL LETTER GHE WITH STROKE
493 CYRILLIC |SMALL LETTER GHE WITH STROKE|CAPITAL LETTER GHE WITH MIDDLE HOOK
495 CYRILLIC |SMALL LETTER GHE WITH MIDDLE HOOK|CAPITAL LETTER ZHE WITH DESCENDER
497 CYRILLIC |SMALL LETTER ZHE WITH DESCENDER|CAPITAL LETTER ZE WITH DESCENDER
499 CYRILLIC |SMALL LETTER ZE WITH DESCENDER|CAPITAL LETTER KA WITH DESCENDER
49B CYRILLIC |SMALL LETTER KA WITH DESCENDER|CAPITAL LETTER KA WITH VERTICAL STROKE
49D CYRILLIC |SMALL LETTER KA WITH VERTICAL STROKE|CAPITAL LETTER KA WITH STROKE
49F CYRILLIC |SMALL LETTER KA WITH STROKE|CAPITAL LETTER BASHKIR KA|SMALL LETTER BASHKIR KA
4A2 CYRILLIC |CAPITAL LETTER EN WITH DESCENDER|SMALL LETTER EN WITH DESCENDER
4A4 CYRILLIC |CAPITAL LIGATURE EN GHE|SMALL LIGATURE EN GHE|CAPITAL LETTER PE WITH MIDDLE HOOK
4A7 CYRILLIC |SMALL LETTER PE WITH MIDDLE HOOK|CAPITAL LETTER ABKHASIAN HA
4A9 CYRILLIC |SMALL LETTER ABKHASIAN HA|CAPITAL LETTER ES WITH DESCENDER
4AB CYRILLIC |SMALL LETTER ES WITH DESCENDER|CAPITAL LETTER TE WITH DESCENDER
4AD CYRILLIC |SMALL LETTER TE WITH DESCENDER|CAPITAL LETTER STRAIGHT U
4AF CYRILLIC |SMALL LETTER STRAIGHT U|CAPITAL LETTER STRAIGHT U WITH STROKE
4B1 CYRILLIC |SMALL LETTER STRAIGHT U WITH STROKE|CAPITAL LETTER HA WITH DESCENDER
4B3 CYRILLIC |SMALL LETTER HA WITH DESCENDER|CAPITAL LIGATURE TE TSE|SMALL LIGATURE TE TSE
4B6 CYRILLIC |CAPITAL LETTER CHE WITH DESCENDER|SMALL LETTER CHE WITH DESCENDER
4B8 CYRILLIC |CAPITAL LETTER CHE WITH VERTICAL STROKE|SMALL LETTER CHE WITH VERTICAL STROKE
4BA CYRILLIC |CAPITAL LETTER SHHA|SMALL LETTER SHHA|CAPITAL LETTER ABKHASIAN CHE
4BD CYRILLIC |SMALL LETTER ABKHASIAN CHE|CAPITAL LETTER ABKHASIAN CHE WITH DESCENDER
4BF CYRILLIC SMALL LETTER ABKHASIAN CHE WITH |DESCENDER
4C0 CYRILLIC |LETTER PALOCHKA|CAPITAL LETTER ZHE WITH BREVE|SMALL LETTER ZHE WITH BREVE
4C3 CYRILLIC |CAPITAL LETTER KA WITH HOOK|SMALL LETTER KA WITH HOOK|CAPITAL LETTER EL WITH TAIL
4C6 CYRILLIC |SMALL LETTER EL WITH TAIL|CAPITAL LETTER EN WITH HOOK|SMALL LETTER EN WITH HOOK
4C9 CYRILLIC |CAPITAL LETTER EN WITH TAIL|SMALL LETTER EN WITH TAIL|CAPITAL LETTER KHAKASSIAN CHE
4CC CYRILLIC |SMALL LETTER KHAKASSIAN CHE|CAPITAL LETTER EM WITH TAIL|SMALL LETTER EM WITH TAIL
4CF CYRILLIC |SMALL LETTER PALOCHKA|CAPITAL LETTER A WITH BREVE|SMALL LETTER A WITH BREVE
4D2 CYRILLIC |CAPITAL LETTER A WITH DIAERESIS|SMALL LETTER A WITH DIAERESIS
4D4 CYRILLIC |CAPITAL LIGATURE A IE|SMALL LIGATURE A IE|CAPITAL LETTER IE WITH BREVE
4D7 CYRILLIC |SMALL LETTER IE WITH BREVE|CAPITAL LETTER SCHWA|SMALL LETTER SCHWA
4DA CYRILLIC |CAPITAL LETTER SCHWA WITH DIAERESIS|SMALL LETTER SCHWA WITH DIAERESIS
4DC CYRILLIC |CAPITAL LETTER ZHE WITH DIAERESIS|SMALL LETTER ZHE WITH DIAERESIS
4DE CYRILLIC |CAPITAL LETTER ZE WITH DIAERESIS|SMALL LETTER ZE WITH DIAERESIS
4E0 CYRILLIC |CAPITAL LETTER ABKHASIAN DZE|SMALL LETTER ABKHASIAN DZE|CAPITAL LETTER I WITH MACRON
4E3 CYRILLIC |SMALL LETTER I WITH MACRON|CAPITAL LETTER I WITH DIAERESIS
4E5 CYRILLIC |SMALL LETTER I WITH DIAERESIS|CAPITAL LETTER O WITH DIAERESIS
4E7 CYRILLIC |SMALL LETTER O WITH DIAERESIS|CAPITAL LETTER BARRED O|SMALL LETTER BARRED O
4EA CYRILLIC |CAPITAL LETTER BARRED O WITH DIAERESIS|SMALL LETTER BARRED O WITH DIAERESIS
4EC CYRILLIC |CAPITAL LETTER E WITH DIAERESIS|SMALL LETTER E WITH DIAERESIS
4EE CYRILLIC |CAPITAL LETTER U WITH MACRON|SMALL LETTER U WITH MACRON
4F0 CYRILLIC |CAPITAL LETTER U WITH DIAERESIS|SMALL LETTER U WITH DIAERESIS
4F2 CYRILLIC |CAPITAL LETTER U WITH DOUBLE ACUTE|SMALL LETTER U WITH DOUBLE ACUTE
4F4 CYRILLIC |CAPITAL LETTER CHE WITH DIAERESIS|SMALL LETTER CHE WITH DIAERESIS
4F6 CYRILLIC |CAPITAL LETTER GHE WITH DESCENDER|SMALL LETTER GHE WITH DESCENDER
4F8 CYRILLIC |CAPITAL LETTER YERU WITH DIAERESIS|SMALL LETTER YERU WITH DIAERESIS
4FA CYRILLIC |CAPITAL LETTER GHE WITH STROKE AND HOOK|SMALL LETTER GHE WITH STROKE AND HOOK
4FC CYRILLIC |CAPITAL LETTER HA WITH HOOK|SMALL LETTER HA WITH HOOK|CAPITAL LETTER HA WITH STROKE
4FF CYRILLIC |SMALL LETTER HA WITH STROKE|CAPITAL LETTER KOMI DE|SMALL LETTER KOMI DE
502 CYRILLIC |CAPITAL LETTER KOMI DJE|SMALL LETTER KOMI DJE|CAPITAL LETTER KOMI ZJE
505 CYRILLIC |SMALL LETTER KOMI ZJE|CAPITAL LETTER KOMI DZJE|SMALL LETTER KOMI DZJE
508 CYRILLIC |CAPITAL LETTER KOMI LJE|SMALL LETTER KOMI LJE|CAPITAL LETTER KOMI NJE
50B CYRILLIC |SMALL LETTER KOMI NJE|CAPITAL LETTER KOMI SJE|SMALL LETTER KOMI SJE
50E CYRILLIC |CAPITAL LETTER KOMI TJE|SMALL LETTER KOMI TJE|CAPITAL LETTER REVERSED ZE
511 CYRILLIC |SMALL LETTER REVERSED ZE|CAPITAL LETTER EL WITH HOOK|SMALL LETTER EL WITH HOOK
514 CYRILLIC |CAPITAL LETTER LHA|SMALL LETTER LHA|CAPITAL LETTER RHA|SMALL LETTER RHA
518 CYRILLIC |CAPITAL LETTER YAE|SMALL LETTER YAE|CAPITAL LETTER QA|SMALL LETTER QA
51C CYRILLIC |CAPITAL LETTER WE|SMALL LETTER WE|CAPITAL LETTER ALEUT KA|SMALL LETTER ALEUT KA
520 CYRILLIC |CAPITAL LETTER EL WITH MIDDLE HOOK|SMALL LETTER EL WITH MIDDLE HOOK
522 CYRILLIC |CAPITAL LETTER EN WITH MIDDLE HOOK|SMALL LETTER EN WITH MIDDLE HOOK
524 CYRILLIC |CAPITAL LETTER PE WITH DESCENDER|SMALL LETTER PE WITH DESCENDER
526 CYRILLIC |CAPITAL LETTER SHHA WITH DESCENDER|SMALL LETTER SHHA WITH DESCENDER
528 CYRILLIC |CAPITAL LETTER EN WITH LEFT HOOK|SMALL LETTER EN WITH LEFT HOOK
52A CYRILLIC |CAPITAL LETTER DZZHE|SMALL LETTER DZZHE|CAPITAL LETTER DCHE
52D CYRILLIC |SMALL LETTER DCHE|CAPITAL LETTER EL WITH DESCENDER|SMALL LETTER EL WITH DESCENDER
531 ARMENIAN CAPITAL LETTER |AYB|BEN
533 ARMENIAN CAPITAL LETTER |GIM|DA|ECH|ZA|EH|ET|TO|ZHE|INI|LIWN|XEH|CA|KEN|HO|JA|GHAD|CHEH|MEN|YI
546 ARMENIAN CAPITAL LETTER |NOW|SHA|VO|CHA|PEH|JHEH|RA|SEH|VEW|TIWN|REH|CO|YIWN|PIWR|KEH|OH|FEH
559 ARMENIAN |MODIFIER LETTER LEFT HALF RING|APOSTROPHE|EMPHASIS MARK|EXCLAMATION MARK
55D ARMENIAN |COMMA|QUESTION MARK|ABBREVIATION MARK|SMALL LETTER TURNED AYB|SMALL LETTER AYB
562 ARMENIAN SMALL LETTER |BEN|GIM|DA|ECH|ZA|EH|ET|TO|ZHE|INI|LIWN|XEH|CA|KEN|HO|JA|GHAD|CHEH|MEN
575 ARMENIAN SMALL LETTER |YI|NOW|SHA|VO|CHA|PEH|JHEH|RA|SEH|VEW|TIWN|REH|CO|YIWN|PIWR|KEH|OH|FEH
587 ARMENIAN |SMALL LIGATURE ECH YIWN|SMALL LETTER YI WITH STROKE|FULL STOP|HYPHEN
58D |RIGHT-FACING ARMENIAN ETERNITY SIGN|LEFT-FACING ARMENIAN ETERNITY SIGN|ARMENIAN DRAM SIGN
591 HEBREW ACCENT |ETNAHTA|SEGOL|SHALSHELET|ZAQEF QATAN
595 HEBREW ACCENT |ZAQEF GADOL|TIPEHA|REVIA|ZARQA|PASHTA|YETIV|TEVIR|GERESH|GERESH MUQDAM
59E HEBREW ACCENT |GERSHAYIM|QARNEY PARA|TELISHA GEDOLA|PAZER|ATNAH HAFUKH|MUNAH|MAHAPAKH|MERKHA
5A6 HEBREW ACCENT |MERKHA KEFULA|DARGA|QADMA|TELISHA QETANA|YERAH BEN YOMO|OLE|ILUY|DEHI|ZINOR
5AF HEBREW |MARK MASORA CIRCLE|POINT SHEVA
5B1 HEBREW POINT HATAF |SEGOL|PATAH|QAMATS
5B4 HEBREW POINT |HIRIQ|TSERE|SEGOL|PATAH|QAMATS|HOLAM|HOLAM HASER FOR VAV|QUBUTS|DAGESH OR MAPIQ
5BD HEBREW |POINT METEG|PUNCTUATION MAQAF
5BF HEBREW |POINT RAFE|PUNCTUATION PASEQ|POINT SHIN DOT|POINT SIN DOT|PUNCTUATION SOF PASUQ
5C4 HEBREW |MARK UPPER DOT|MARK LOWER DOT|PUNCTUATION NUN HAFUKHA|POINT QAMATS QATAN
5D0 HEBREW LETTER |ALEF|BET|GIMEL|DALET|HE|VAV|ZAYIN|HET|TET|YOD|FINAL KAF|KAF|LAMED|FINAL MEM
5DE HEBREW LETTER |MEM|FINAL NUN|NUN|SAMEKH|AYIN|FINAL PE|PE|FINAL TSADI|TSADI|QOF|RESH|SHIN|TAV
5EF HEBREW YOD |TRIANGLE
5F0 HEBREW LIGATURE YIDDISH |DOUBLE VAV|VAV YOD|DOUBLE YOD
5F3 HEBREW PUNCTUATION |GERESH|GERSHAYIM
600 ARABIC |NUMBER SIGN|SIGN SANAH|FOOTNOTE MARKER|SIGN SAFHA|SIGN SAMVAT|NUMBER MARK ABOVE
606 ARABIC-INDIC |CUBE ROOT|FOURTH ROOT
608 ARABIC |RAY
609 ARABIC-INDIC PER |MILLE SIGN|TEN THOUSAND SIGN
60B AFGHANI |SIGN
60C ARABIC |COMMA|DATE SEPARATOR|POETIC VERSE SIGN|SIGN MISRA|SIGN SALLALLAHOU ALAYHE WASSALLAM
611 ARABIC SIGN |ALAYHE ASSALLAM|RAHMATULLAH ALAYHE|RADI ALLAHOU ANHU|TAKHALLUS
615 ARABIC SMALL |HIGH TAH|HIGH LIGATURE ALEF WITH LAM WITH YEH|HIGH ZAIN|FATHA|DAMMA|KASRA
61B ARABIC |SEMICOLON|LETTER MARK|END OF TEXT MARK|TRIPLE DOT PUNCTUATION MARK|QUESTION MARK
620 ARABIC LETTER |KASHMIRI YEH|HAMZA|ALEF WITH MADDA ABOVE|ALEF WITH HAMZA ABOVE
624 ARABIC LETTER |WAW WITH HAMZA ABOVE|ALEF WITH HAMZA BELOW|YEH WITH HAMZA ABOVE
627 ARABIC LETTER |ALEF|BEH|TEH MARBUTA|TEH|THEH|JEEM|HAH|KHAH|DAL|THAL|REH|ZAIN|SEEN|SHEEN
635 ARABIC LETTER |SAD|DAD|TAH|ZAH|AIN|GHAIN|KEHEH WITH TWO DOTS ABOVE|KEHEH WITH THREE DOTS BELOW
63D ARABIC LETTER FARSI YEH WITH |INVERTED V|TWO DOTS ABOVE|THREE DOTS ABOVE
640 ARABIC |TATWEEL
641 ARABIC LETTER |FEH|QAF|KAF|LAM|MEEM|NOON|HEH|WAW|ALEF MAKSURA|YEH
64B ARABIC |FATHATAN|DAMMATAN|KASRATAN|FATHA|DAMMA|KASRA|SHADDA|SUKUN|MADDAH ABOVE
654 ARABIC |HAMZA ABOVE|HAMZA BELOW|SUBSCRIPT ALEF|INVERTED DAMMA|MARK NOON GHUNNA|ZWARAKAY
65A ARABIC VOWEL SIGN |SMALL V ABOVE|INVERTED SMALL V ABOVE|DOT BELOW
65D ARABIC |REVERSED DAMMA|FATHA WITH TWO DOTS|WAVY HAMZA BELOW
660 ARABIC-INDIC DIGIT |ZERO|ONE|TWO|THREE|FOUR|FIVE|SIX|SEVEN|EIGHT|NINE
66A ARABIC |PERCENT SIGN|DECIMAL SEPARATOR|THOUSANDS SEPARATOR|FIVE POINTED STAR
66E ARABIC LETTER |DOTLESS BEH|DOTLESS QAF|SUPERSCRIPT ALEF|ALEF WASLA
672 ARABIC LETTER ALEF WITH WAVY HAMZA |ABOVE|BELOW
674 ARABIC LETTER |HIGH HAMZA|HIGH HAMZA ALEF|HIGH HAMZA WAW|U WITH HAMZA ABOVE|HIGH HAMZA YEH
679 ARABIC LETTER |TTEH|TTEHEH|BEEH|TEH WITH RING|TEH WITH THREE DOTS ABOVE DOWNWARDS
67E ARABIC LETTER |PEH|TEHEH|BEHEH|HAH WITH HAMZA ABOVE|HAH WITH TWO DOTS VERTICAL ABOVE
683 ARABIC LETTER |NYEH|DYEH|HAH WITH THREE DOTS ABOVE|TCHEH|TCHEHEH|DDAL
689 ARABIC LETTER DAL WITH |RING|DOT BELOW|DOT BELOW AND SMALL TAH
68C ARABIC LETTER |DAHAL|DDAHAL|DUL|DAL WITH THREE DOTS ABOVE DOWNWARDS
690 ARABIC LETTER |DAL WITH FOUR DOTS ABOVE|RREH|REH WITH SMALL V
693 ARABIC LETTER REH WITH |RING|DOT BELOW|SMALL V BELOW|DOT BELOW AND DOT ABOVE|TWO DOTS ABOVE
698 ARABIC LETTER |JEH|REH WITH FOUR DOTS ABOVE|SEEN WITH DOT BELOW AND DOT ABOVE
69B ARABIC LETTER SEEN WITH THREE DOTS |BELOW|BELOW AND THREE DOTS ABOVE
69D ARABIC LETTER SAD WITH |TWO DOTS BELOW|THREE DOTS ABOVE
69F ARABIC LETTER |TAH WITH THREE DOTS ABOVE|AIN WITH THREE DOTS ABOVE|DOTLESS FEH
6A2 ARABIC LETTER |FEH WITH DOT MOVED BELOW|FEH WITH DOT BELOW|VEH|FEH WITH THREE DOTS BELOW|PEHEH
6A7 ARABIC LETTER QAF WITH |DOT ABOVE|THREE DOTS ABOVE
6A9 ARABIC LETTER |KEHEH|SWASH KAF|KAF WITH RING|KAF WITH DOT ABOVE|NG|KAF WITH THREE DOTS BELOW
6AF ARABIC LETTER |GAF|GAF WITH RING|NGOEH|GAF WITH TWO DOTS BELOW|GUEH|GAF WITH THREE DOTS ABOVE
6B5 ARABIC LETTER LAM WITH |SMALL V|DOT ABOVE|THREE DOTS ABOVE|THREE DOTS BELOW
6B9 ARABIC LETTER |NOON WITH DOT BELOW|NOON GHUNNA|RNOON|NOON WITH RING|NOON WITH THREE DOTS ABOVE
6BE ARABIC LETTER |HEH DOACHASHMEE|TCHEH WITH DOT ABOVE|HEH WITH YEH ABOVE
6C1 ARABIC LETTER |HEH GOAL|HEH GOAL WITH HAMZA ABOVE|TEH MARBUTA GOAL|WAW WITH RING|KIRGHIZ OE
6C6 ARABIC LETTER |OE|U|YU|KIRGHIZ YU|WAW WITH TWO DOTS ABOVE|VE|FARSI YEH|YEH WITH TAIL
6CE ARABIC LETTER |YEH WITH SMALL V|WAW WITH DOT ABOVE|E|YEH WITH THREE DOTS BELOW|YEH BARREE
6D3 ARABIC |LETTER YEH BARREE WITH HAMZA ABOVE|FULL STOP|LETTER AE
6D6 ARABIC SMALL HIGH LIGATURE |SAD WITH LAM WITH ALEF MAKSURA|QAF WITH LAM WITH ALEF MAKSURA
6D8 ARABIC SMALL HIGH |MEEM INITIAL FORM|LAM ALEF|JEEM|THREE DOTS|SEEN
6DD ARABIC |END OF AYAH|START OF RUB EL HIZB
6DF ARABIC SMALL HIGH |ROUNDED ZERO|UPRIGHT RECTANGULAR ZERO|DOTLESS HEAD OF KHAH
6E2 ARABIC SMALL |HIGH MEEM ISOLATED FORM|LOW SEEN|HIGH MADDA|WAW|YEH|HIGH YEH|HIGH NOON
6E9 ARABIC |PLACE OF SAJDAH|EMPTY CENTRE LOW STOP
6EB ARABIC |EMPTY CENTRE HIGH STOP|ROUNDED HIGH STOP WITH FILLED CENTRE|SMALL LOW MEEM
6EE ARABIC LETTER |DAL WITH INVERTED V|REH WITH INVERTED V
6F0 EXTENDED ARABIC-INDIC DIGIT |ZERO|ONE|TWO|THREE|FOUR|FIVE|SIX|SEVEN|EIGHT|NINE
6FA ARABIC LETTER |SHEEN WITH DOT BELOW|DAD WITH DOT BELOW|GHAIN WITH DOT BELOW
6FD ARABIC |SIGN SINDHI AMPERSAND|SIGN SINDHI POSTPOSITION MEN|LETTER HEH WITH INVERTED V
700 SYRIAC |END OF PARAGRAPH|SUPRALINEAR FULL STOP|SUBLINEAR FULL STOP|SUPRALINEAR COLON
704 SYRIAC |SUBLINEAR COLON|HORIZONTAL COLON|COLON SKEWED LEFT|COLON SKEWED RIGHT
708 SYRIAC |SUPRALINEAR COLON SKEWED LEFT|SUBLINEAR COLON SKEWED RIGHT|CONTRACTION
70B SYRIAC HARKLEAN |OBELUS|METOBELUS|ASTERISCUS
70F SYRIAC ABBREVIATION |MARK
710 SYRIAC LETTER |ALAPH|SUPERSCRIPT ALAPH|BETH|GAMAL|GAMAL GARSHUNI|DALATH
716 SYRIAC LETTER |DOTLESS DALATH RISH|HE|WAW|ZAIN|HETH|TETH|TETH GARSHUNI|YUDH|YUDH HE|KAPH
720 SYRIAC LETTER |LAMADH|MIM|NUN|SEMKATH|FINAL SEMKATH|E|PE|REVERSED PE|SADHE|QAPH|RISH|SHIN|TAW
72D SYRIAC LETTER PERSIAN |BHETH|GHAMAL|DHALATH
730 SYRIAC PTHAHA |ABOVE|BELOW|DOTTED
733 SYRIAC ZQAPHA |ABOVE|BELOW|DOTTED
736 SYRIAC RBASA |ABOVE|BELOW
738 SYRIAC DOTTED ZLAMA |HORIZONTAL|ANGULAR
73A SYRIAC HBASA |ABOVE|BELOW
73C SYRIAC |HBASA-ESASA DOTTED|ESASA ABOVE|ESASA BELOW|RWAHA|FEMININE DOT|QUSHSHAYA|RUKKAKHA
743 SYRIAC TWO VERTICAL DOTS |ABOVE|BELOW
745 SYRIAC |THREE DOTS ABOVE|THREE DOTS BELOW|OBLIQUE LINE ABOVE|OBLIQUE LINE BELOW|MUSIC|BARREKH
74D SYRIAC LETTER SOGDIAN |ZHAIN|KHAPH|FE
750 ARABIC LETTER BEH WITH |THREE DOTS HORIZONTALLY BELOW|DOT BELOW AND THREE DOTS ABOVE
752 ARABIC LETTER BEH WITH THREE DOTS POINTING UPWARDS |BELOW|BELOW AND TWO DOTS ABOVE
754 ARABIC LETTER BEH WITH |TWO DOTS BELOW AND DOT ABOVE|INVERTED SMALL V BELOW|SMALL V
757 ARABIC LETTER HAH WITH |TWO DOTS ABOVE|THREE DOTS POINTING UPWARDS BELOW
759 ARABIC LETTER DAL WITH |TWO DOTS VERTICALLY BELOW AND SMALL TAH|INVERTED SMALL V BELOW
75B ARABIC LETTER |REH WITH STROKE|SEEN WITH FOUR DOTS ABOVE|AIN WITH TWO DOTS ABOVE
75E ARABIC LETTER AIN WITH |THREE DOTS POINTING DOWNWARDS ABOVE|TWO DOTS VERTICALLY ABOVE
760 ARABIC LETTER FEH WITH |TWO DOTS BELOW|THREE DOTS POINTING UPWARDS BELOW
762 ARABIC LETTER KEHEH WITH |DOT ABOVE|THREE DOTS ABOVE|THREE DOTS POINTING UPWARDS BELOW
765 ARABIC LETTER MEEM WITH DOT |ABOVE|BELOW
767 ARABIC LETTER NOON WITH |TWO DOTS BELOW|SMALL TAH|SMALL V
76A ARABIC LETTER |LAM WITH BAR|REH WITH TWO DOTS VERTICALLY ABOVE
76C ARABIC LETTER |REH WITH HAMZA ABOVE|SEEN WITH TWO DOTS VERTICALLY ABOVE
76E ARABIC LETTER HAH WITH SMALL ARABIC LETTER TAH |BELOW|AND TWO DOTS
770 ARABIC LETTER SEEN WITH SMALL ARABIC LETTER TAH AND TWO |DOTS
771 ARABIC LETTER REH WITH SMALL ARABIC LETTER TAH AND TWO |DOTS
772 ARABIC LETTER HAH WITH SMALL ARABIC LETTER TAH |ABOVE
773 ARABIC LETTER ALEF WITH EXTENDED ARABIC-INDIC DIGIT |TWO ABOVE|THREE ABOVE
775 ARABIC LETTER FARSI YEH WITH EXTENDED ARABIC-INDIC DIGIT |TWO ABOVE|THREE ABOVE|FOUR BELOW
778 ARABIC LETTER WAW WITH EXTENDED ARABIC-INDIC DIGIT |TWO ABOVE|THREE ABOVE
77A ARABIC LETTER YEH BARREE WITH EXTENDED ARABIC-INDIC DIGIT |TWO ABOVE|THREE ABOVE
77C ARABIC LETTER HAH WITH EXTENDED ARABIC-INDIC DIGIT FOUR |BELOW
77D ARABIC LETTER SEEN WITH |EXTENDED ARABIC-INDIC DIGIT FOUR ABOVE|INVERTED V
77F ARABIC LETTER KAF WITH TWO DOTS |ABOVE
780 THAANA LETTER |HAA|SHAVIYANI|NOONU|RAA|BAA|LHAVIYANI|KAAFU|ALIFU|VAAVU|MEEMU|FAAFU|DHAALU|THAA
78D THAANA LETTER |LAAMU|GAAFU|GNAVIYANI|SEENU|DAVIYANI|ZAVIYANI|TAVIYANI|YAA|PAVIYANI|JAVIYANI
797 THAANA LETTER |CHAVIYANI|TTAA|HHAA|KHAA|THAALU|ZAA|SHEENU|SAADHU|DAADHU|TO|ZO|AINU|GHAINU
7A4 THAANA |LETTER QAAFU|LETTER WAAVU|ABAFILI|AABAAFILI|IBIFILI
7A9 THAANA |EEBEEFILI|UBUFILI|OOBOOFILI|EBEFILI|EYBEYFILI|OBOFILI|OABOAFILI|SUKUN|LETTER NAA
7C0 NKO DIGIT |ZERO|ONE|TWO|THREE|FOUR|FIVE|SIX|SEVEN|EIGHT|NINE
7CA NKO LETTER |A|EE|I|E|U|OO|O|DAGBASINNA|N|BA|PA|TA|JA|CHA|DA|RA|RRA
7DB NKO LETTER |SA|GBA|FA|KA|LA|NA WOLOSO|MA|NYA|NA|HA|WA|YA|NYA WOLOSO|JONA JA|JONA CHA|JONA RA
7EB NKO COMBINING SHORT |HIGH TONE|LOW TONE|RISING TONE
7EE NKO COMBINING LONG |DESCENDING TONE|HIGH TONE|LOW TONE|RISING TONE
7F2 NKO |COMBINING NASALIZATION MARK|COMBINING DOUBLE DOT ABOVE|HIGH TONE APOSTROPHE
7F5 NKO |LOW TONE APOSTROPHE|SYMBOL OO DENNEN|SYMBOL GBAKURUNEN|COMMA|EXCLAMATION MARK|LAJANYALAN
7FD NKO |DANTAYALAN|DOROME SIGN|TAMAN SIGN
800 SAMARITAN LETTER |ALAF|BIT|GAMAN|DALAT|IY|BAA
806 SAMARITAN LETTER |ZEN|IT|TIT|YUT|KAAF|LABAT|MIM|NUN|SINGAAT|IN|FI|TSAADIY|QUF|RISH|SHAN|TAAF
816 SAMARITAN MARK |IN|IN-ALAF|OCCLUSION|DAGESH
81A SAMARITAN |MODIFIER LETTER EPENTHETIC YUT|MARK EPENTHETIC YUT
81C SAMARITAN VOWEL SIGN |LONG E|E|OVERLONG AA|LONG AA|AA|OVERLONG A|LONG A|A
824 SAMARITAN MODIFIER LETTER SHORT |A
825 SAMARITAN VOWEL SIGN |SHORT A|LONG U|U
828 SAMARITAN MODIFIER LETTER |I
829 SAMARITAN VOWEL SIGN |LONG I|I|O|SUKUN
82D SAMARITAN MARK |NEQUDAA
830 SAMARITAN PUNCTUATION |NEQUDAA|AFSAAQ|ANGED|BAU|ATMAAU|SHIYYAALAA
836 SAMARITAN ABBREVIATION |MARK
837 SAMARITAN PUNCTUATION |MELODIC QITSA|ZIQAA|QITSA|ZAEF|TURU|ARKAANU|SOF MASHFAAT|ANNAAU
840 MANDAIC LETTER |HALQA|AB|AG|AD|AH
845 MANDAIC LETTER |USHENNA|AZ|IT|ATT|AKSA|AK|AL|AM|AN|AS|IN|AP|ASZ|AQ|AR|ASH|AT|DUSHENNA|KAD|AIN
859 MANDAIC |AFFRICATION MARK|VOCALIZATION MARK|GEMINATION MARK
85E MANDAIC |PUNCTUATION
860 SYRIAC LETTER MALAYALAM |NGA|JA|NYA|TTA|NNA|NNNA|BHA|RA|LLA|LLLA|SSA
870 ARABIC LETTER ALEF WITH ATTACHED |FATHA|TOP RIGHT FATHA
872 ARABIC LETTER ALEF WITH |RIGHT MIDDLE STROKE|LEFT MIDDLE STROKE
874 ARABIC LETTER ALEF WITH ATTACHED |KASRA|BOTTOM RIGHT KASRA|ROUND DOT ABOVE
877 ARABIC LETTER ALEF WITH ATTACHED |RIGHT ROUND DOT|LEFT ROUND DOT|ROUND DOT BELOW
87A ARABIC LETTER ALEF WITH |DOT ABOVE|ATTACHED TOP RIGHT FATHA AND DOT ABOVE
87C ARABIC LETTER ALEF WITH RIGHT MIDDLE STROKE AND DOT |ABOVE
87D ARABIC LETTER ALEF WITH ATTACHED BOTTOM RIGHT KASRA AND DOT |ABOVE
87E ARABIC LETTER ALEF WITH ATTACHED TOP RIGHT FATHA AND LEFT |RING
87F ARABIC LETTER ALEF WITH RIGHT MIDDLE STROKE AND LEFT |RING
880 ARABIC LETTER ALEF WITH ATTACHED |BOTTOM RIGHT KASRA AND LEFT RING|RIGHT HAMZA|LEFT HAMZA
883 ARABIC TATWEEL WITH |OVERSTRUCK HAMZA|OVERSTRUCK WAW|TWO DOTS BELOW
886 ARABIC |LETTER THIN YEH|BASELINE ROUND DOT|RAISED ROUND DOT|LETTER NOON WITH INVERTED SMALL V
88A ARABIC LETTER |HAH WITH INVERTED SMALL V BELOW|TAH WITH DOT BELOW|TAH WITH THREE DOTS BELOW
88D ARABIC |LETTER KEHEH WITH TWO DOTS VERTICALLY BELOW|VERTICAL TAIL
890 ARABIC |POUND MARK ABOVE|PIASTRE MARK ABOVE
898 ARABIC SMALL |HIGH WORD AL-JUZ|LOW WORD ISHMAAM|LOW WORD IMAALA|LOW WORD TASHEEL
89C ARABIC |MADDA WAAJIB|SUPERSCRIPT ALEF MOKHASSAS|DOUBLED MADDA|HALF MADDA OVER MADDA
8A0 ARABIC LETTER |BEH WITH SMALL V BELOW|BEH WITH HAMZA ABOVE|JEEM WITH TWO DOTS ABOVE
8A3 ARABIC LETTER |TAH WITH TWO DOTS ABOVE|FEH WITH DOT BELOW AND THREE DOTS ABOVE
8A5 ARABIC LETTER |QAF WITH DOT BELOW|LAM WITH DOUBLE BAR|MEEM WITH THREE DOTS ABOVE
8A8 ARABIC LETTER YEH WITH TWO DOTS BELOW AND |HAMZA ABOVE|DOT ABOVE
8AA ARABIC LETTER |REH WITH LOOP|WAW WITH DOT WITHIN|ROHINGYA YEH|LOW ALEF
8AE ARABIC LETTER |DAL WITH THREE DOTS BELOW|SAD WITH THREE DOTS BELOW|GAF WITH INVERTED STROKE
8B1 ARABIC LETTER |STRAIGHT WAW|ZAIN WITH INVERTED V ABOVE|AIN WITH THREE DOTS BELOW
8B4 ARABIC LETTER |KAF WITH DOT BELOW|QAF WITH DOT BELOW AND NO DOTS ABOVE
8B6 ARABIC LETTER |BEH WITH SMALL MEEM ABOVE|PEH WITH SMALL MEEM ABOVE|TEH WITH SMALL TEH ABOVE
8B9 ARABIC LETTER |REH WITH SMALL NOON ABOVE|YEH WITH TWO DOTS BELOW AND SMALL NOON ABOVE
8BB ARABIC LETTER |AFRICAN FEH|AFRICAN QAF|AFRICAN NOON|PEH WITH SMALL V
8BF ARABIC LETTER |TEH WITH SMALL V|TTEH WITH SMALL V|TCHEH WITH SMALL V|KEHEH WITH SMALL V
8C3 ARABIC LETTER |GHAIN WITH THREE DOTS ABOVE|AFRICAN QAF WITH THREE DOTS ABOVE
8C5 ARABIC LETTER JEEM WITH THREE DOTS |ABOVE|BELOW
8C7 ARABIC |LETTER LAM WITH SMALL ARABIC LETTER TAH ABOVE|LETTER GRAF|SMALL FARSI YEH
8CA ARABIC SMALL HIGH |FARSI YEH|YEH BARREE WITH TWO DOTS BELOW|WORD SAH|ZAH
8CE ARABIC LARGE ROUND DOT |ABOVE|BELOW
8D0 ARABIC |SUKUN BELOW|LARGE CIRCLE BELOW|LARGE ROUND DOT INSIDE CIRCLE BELOW|SMALL LOW WAW
8D4 ARABIC SMALL HIGH |WORD AR-RUB|SAD|AIN|QAF|NOON WITH KASRA
8D9 ARABIC SMALL LOW NOON WITH |KASRA
8DA ARABIC SMALL HIGH WORD |ATH-THALATHA|AS-SAJDA|AN-NISF|SAKTA|QIF|WAQFA
8E0 ARABIC SMALL HIGH |FOOTNOTE MARKER|SIGN SAFHA
8E2 ARABIC |DISPUTED END OF AYAH|TURNED DAMMA BELOW
8E4 ARABIC CURLY |FATHA|DAMMA|KASRA|FATHATAN|DAMMATAN|KASRATAN
8EA ARABIC TONE |ONE DOT ABOVE|TWO DOTS ABOVE|LOOP ABOVE|ONE DOT BELOW|TWO DOTS BELOW|LOOP BELOW
8F0 ARABIC OPEN |FATHATAN|DAMMATAN|KASRATAN
8F3 ARABIC |SMALL HIGH WAW|FATHA WITH RING|FATHA WITH DOT ABOVE|KASRA WITH DOT BELOW
8F7 ARABIC |LEFT ARROWHEAD ABOVE|RIGHT ARROWHEAD ABOVE|LEFT ARROWHEAD BELOW|RIGHT ARROWHEAD BELOW
8FB ARABIC DOUBLE RIGHT ARROWHEAD |ABOVE|ABOVE WITH DOT
8FD ARABIC |RIGHT ARROWHEAD ABOVE WITH DOT|DAMMA WITH DOT|MARK SIDEWAYS NOON GHUNNA
900 DEVANAGARI SIGN |INVERTED CANDRABINDU|CANDRABINDU|ANUSVARA|VISARGA
904 DEVANAGARI LETTER |SHORT A|A|AA|I|II|U|UU|VOCALIC R|VOCALIC L|CANDRA E|SHORT E|E|AI|CANDRA O
912 DEVANAGARI LETTER |SHORT O|O|AU|KA|KHA|GA|GHA|NGA|CA|CHA|JA|JHA|NYA|TTA|TTHA|DDA|DDHA|NNA|TA
925 DEVANAGARI LETTER |THA|DA|DHA|NA|NNNA|PA|PHA|BA|BHA|MA|YA|RA|RRA|LA|LLA|LLLA|VA|SHA|SSA|SA|HA
93A DEVANAGARI |VOWEL SIGN OE|VOWEL SIGN OOE|SIGN NUKTA|SIGN AVAGRAHA|VOWEL SIGN AA
93F DEVANAGARI VOWEL SIGN |I|II|U|UU|VOCALIC R|VOCALIC RR|CANDRA E|SHORT E|E|AI|CANDRA O|SHORT O|O
94C DEVANAGARI |VOWEL SIGN AU|SIGN VIRAMA|VOWEL SIGN PRISHTHAMATRA E
94F DEVANAGARI |VOWEL SIGN AW|OM|STRESS SIGN UDATTA|STRESS SIGN ANUDATTA|GRAVE ACCENT|ACUTE ACCENT
955 DEVANAGARI VOWEL SIGN |CANDRA LONG E|UE|UUE
958 DEVANAGARI LETTER |QA|KHHA|GHHA|ZA|DDDHA|RHA|FA|YYA|VOCALIC RR|VOCALIC LL
962 DEVANAGARI VOWEL SIGN VOCALIC |L|LL
964 DEVANAGARI |DANDA|DOUBLE DANDA
966 DEVANAGARI DIGIT |ZERO|ONE|TWO|THREE|FOUR|FIVE|SIX|SEVEN|EIGHT|NINE
970 DEVANAGARI |ABBREVIATION SIGN|SIGN HIGH SPACING DOT|LETTER CANDRA A
973 DEVANAGARI LETTER |OE|OOE|AW|UE|UUE|MARWARI DDA|ZHA|HEAVY YA|GGA|JJA|GLOTTAL STOP|DDDA|BBA
980 BENGALI |ANJI|SIGN CANDRABINDU|SIGN ANUSVARA|SIGN VISARGA
985 BENGALI LETTER |A|AA|I|II|U|UU|VOCALIC R|VOCALIC L
98F BENGALI LETTER |E|AI
993 BENGALI LETTER |O
994 BENGALI LETTER |AU|KA|KHA|GA|GHA|NGA|CA|CHA|JA|JHA|NYA|TTA|TTHA|DDA|DDHA|NNA|TA|THA|DA|DHA|NA
9AA BENGALI LETTER |PA|PHA|BA|BHA|MA|YA|RA
9B2 BENGALI LETTER |LA
9B6 BENGALI LETTER |SHA|SSA|SA|HA
9BC BENGALI SIGN |NUKTA|AVAGRAHA
9BE BENGALI VOWEL SIGN |AA|I|II|U|UU|VOCALIC R|VOCALIC RR
9C7 BENGALI VOWEL SIGN |E|AI
9CB BENGALI |VOWEL SIGN O|VOWEL SIGN AU|SIGN VIRAMA|LETTER KHANDA TA
9D7 BENGALI AU LENGTH |MARK
9DC BENGALI LETTER |RRA|RHA
9DF BENGALI LETTER |YYA|VOCALIC RR|VOCALIC LL
9E2 BENGALI VOWEL SIGN VOCALIC |L|LL
9E6 BENGALI DIGIT |ZERO|ONE|TWO|THREE|FOUR|FIVE|SIX|SEVEN|EIGHT|NINE
9F0 BENGALI LETTER RA WITH |MIDDLE DIAGONAL|LOWER DIAGONAL
9F2 BENGALI RUPEE |MARK|SIGN
9F4 BENGALI CURRENCY NUMERATOR |ONE|TWO|THREE|FOUR|ONE LESS THAN THE DENOMINATOR
9F9 BENGALI CURRENCY DENOMINATOR |SIXTEEN
9FA BENGALI |ISSHAR|GANDA MARK|LETTER VEDIC ANUSVARA|ABBREVIATION SIGN|SANDHI MARK
A01 GURMUKHI SIGN |ADAK BINDI|BINDI|VISARGA
A05 GURMUKHI LETTER |A|AA|I|II|U|UU
A0F GURMUKHI LETTER |EE|AI
A13 GURMUKHI LETTER |OO
A14 GURMUKHI LETTER |AU|KA|KHA|GA|GHA|NGA|CA|CHA|JA|JHA|NYA|TTA|TTHA|DDA|DDHA|NNA|TA|THA|DA|DHA|NA
A2A GURMUKHI LETTER |PA|PHA|BA|BHA|MA|YA|RA
A32 GURMUKHI LETTER |LA|LLA
A35 GURMUKHI LETTER |VA|SHA
A38 GURMUKHI LETTER |SA|HA
A3C GURMUKHI SIGN |NUKTA
A3E GURMUKHI VOWEL SIGN |AA|I|II|U|UU
A47 GURMUKHI VOWEL SIGN |EE|AI
A4B GURMUKHI |VOWEL SIGN OO|VOWEL SIGN AU|SIGN VIRAMA
A51 GURMUKHI SIGN |UDAAT
A59 GURMUKHI LETTER |KHHA|GHHA|ZA|RRA
A5E GURMUKHI LETTER |FA
A66 GURMUKHI DIGIT |ZERO|ONE|TWO|THREE|FOUR|FIVE|SIX|SEVEN|EIGHT|NINE
A70 GURMUKHI |TIPPI|ADDAK|IRI|URA|EK ONKAR|SIGN YAKASH|ABBREVIATION SIGN
A81 GUJARATI SIGN |CANDRABINDU|ANUSVARA|VISARGA
A85 GUJARATI LETTER |A|AA|I|II|U|UU|VOCALIC R|VOCALIC L
A8D GUJARATI VOWEL CANDRA |E
A8F GUJARATI |LETTER E|LETTER AI|VOWEL CANDRA O
A93 GUJARATI LETTER |O
A94 GUJARATI LETTER |AU|KA|KHA|GA|GHA|NGA|CA|CHA|JA|JHA|NYA|TTA|TTHA|DDA|DDHA|NNA|TA|THA|DA|DHA|NA
AAA GUJARATI LETTER |PA|PHA|BA|BHA|MA|YA|RA
AB2 GUJARATI LETTER |LA|LLA
AB5 GUJARATI LETTER |VA|SHA|SSA|SA|HA
ABC GUJARATI SIGN |NUKTA|AVAGRAHA
ABE GUJARATI VOWEL SIGN |AA|I|II|U|UU|VOCALIC R|VOCALIC RR|CANDRA E
AC7 GUJARATI VOWEL SIGN |E|AI|CANDRA O
ACB GUJARATI |VOWEL SIGN O|VOWEL SIGN AU|SIGN VIRAMA
AD0 GUJARATI |OM
AE0 GUJARATI LETTER VOCALIC |RR|LL
AE2 GUJARATI VOWEL SIGN VOCALIC |L|LL
AE6 GUJARATI DIGIT |ZERO|ONE|TWO|THREE|FOUR|FIVE|SIX|SEVEN|EIGHT|NINE
AF0 GUJARATI |ABBREVIATION SIGN|RUPEE SIGN
AF9 GUJARATI |LETTER ZHA|SIGN SUKUN
AFB GUJARATI SIGN |SHADDA|MADDAH|THREE-DOT NUKTA ABOVE|CIRCLE NUKTA ABOVE|TWO-CIRCLE NUKTA ABOVE
B01 ORIYA SIGN |CANDRABINDU|ANUSVARA|VISARGA
B05 ORIYA LETTER |A|AA|I|II|U|UU|VOCALIC R|VOCALIC L
B0F ORIYA LETTER |E|AI
B13 ORIYA LETTER |O|AU|KA|KHA|GA|GHA|NGA|CA|CHA|JA|JHA|NYA|TTA|TTHA|DDA|DDHA|NNA|TA|THA|DA|DHA|NA
B2A ORIYA LETTER |PA|PHA|BA|BHA|MA|YA|RA
B32 ORIYA LETTER |LA|LLA
B35 ORIYA LETTER |VA|SHA|SSA|SA|HA
B3C ORIYA SIGN |NUKTA|AVAGRAHA
B3E ORIYA VOWEL SIGN |AA|I|II|U|UU|VOCALIC R|VOCALIC RR
B47 ORIYA VOWEL SIGN |E|AI
B4B ORIYA |VOWEL SIGN O|VOWEL SIGN AU|SIGN VIRAMA
B55 ORIYA |SIGN OVERLINE|AI LENGTH MARK|AU LENGTH MARK
B5C ORIYA LETTER |RRA|RHA
B5F ORIYA LETTER |YYA|VOCALIC RR|VOCALIC LL
B62 ORIYA VOWEL SIGN VOCALIC |L|LL
B66 ORIYA DIGIT |ZERO|ONE|TWO|THREE|FOUR|FIVE|SIX|SEVEN|EIGHT|NINE
B70 ORIYA |ISSHAR|LETTER WA
B72 ORIYA FRACTION |ONE QUARTER|ONE HALF|THREE QUARTERS|ONE SIXTEENTH|ONE EIGHTH|THREE SIXTEENTHS
B82 TAMIL SIGN |ANUSVARA|VISARGA
B85 TAMIL LETTER |A|AA|I|II|U|UU
B8E TAMIL LETTER |E|EE|AI
B92 TAMIL LETTER |O|OO|AU|KA
B99 TAMIL LETTER |NGA|CA
B9C TAMIL LETTER |JA
B9E TAMIL LETTER |NYA|TTA
BA3 TAMIL LETTER |NNA|TA
BA8 TAMIL LETTER |NA|NNNA|PA
BAE TAMIL LETTER |MA|YA|RA|RRA|LA|LLA|LLLA|VA|SHA|SSA|SA|HA
BBE TAMIL VOWEL SIGN |AA|I|II|U|UU
BC6 TAMIL VOWEL SIGN |E|EE|AI
BCA TAMIL VOWEL SIGN |O|OO|AU
BCD TAMIL SIGN |VIRAMA
BD0 TAMIL |OM
BD7 TAMIL AU LENGTH |MARK
BE6 TAMIL DIGIT |ZERO|ONE|TWO|THREE|FOUR|FIVE|SIX|SEVEN|EIGHT|NINE
BF0 TAMIL NUMBER |TEN|ONE HUNDRED|ONE THOUSAND
BF3 TAMIL DAY |SIGN
BF4 TAMIL |MONTH SIGN|YEAR SIGN|DEBIT SIGN|CREDIT SIGN|AS ABOVE SIGN|RUPEE SIGN|NUMBER SIGN
C00 TELUGU SIGN |COMBINING CANDRABINDU ABOVE|CANDRABINDU|ANUSVARA|VISARGA|COMBINING ANUSVARA ABOVE
C05 TELUGU LETTER |A|AA|I|II|U|UU|VOCALIC R|VOCALIC L
C0E TELUGU LETTER |E|EE|AI
C12 TELUGU LETTER |O|OO
C14 TELUGU LETTER |AU|KA|KHA|GA|GHA|NGA|CA|CHA|JA|JHA|NYA|TTA|TTHA|DDA|DDHA|NNA|TA|THA|DA|DHA|NA
C2A TELUGU LETTER |PA|PHA|BA|BHA|MA|YA|RA|RRA|LA|LLA|LLLA|VA|SHA|SSA|SA|HA
C3C TELUGU SIGN |NUKTA|AVAGRAHA
C3E TELUGU VOWEL SIGN |AA|I|II|U|UU|VOCALIC R|VOCALIC RR
C46 TELUGU VOWEL SIGN |E|EE|AI
C4A TELUGU VOWEL SIGN |O|OO|AU
C4D TELUGU SIGN |VIRAMA
C55 TELUGU |LENGTH MARK|AI LENGTH MARK
C58 TELUGU LETTER |TSA|DZA|RRRA
C5D TELUGU LETTER NAKAARA |POLLU
C60 TELUGU LETTER VOCALIC |RR|LL
C62 TELUGU VOWEL SIGN VOCALIC |L|LL
C66 TELUGU DIGIT |ZERO|ONE|TWO|THREE|FOUR|FIVE|SIX|SEVEN|EIGHT|NINE
C77 TELUGU SIGN |SIDDHAM
C78 TELUGU FRACTION DIGIT |ZERO FOR ODD POWERS OF FOUR|ONE FOR ODD POWERS OF FOUR
C7A TELUGU FRACTION DIGIT |TWO FOR ODD POWERS OF FOUR|THREE FOR ODD POWERS OF FOUR
C7C TELUGU FRACTION DIGIT |ONE FOR EVEN POWERS OF FOUR|TWO FOR EVEN POWERS OF FOUR
C7E TELUGU |FRACTION DIGIT THREE FOR EVEN POWERS OF FOUR|SIGN TUUMU
C80 KANNADA SIGN |SPACING CANDRABINDU|CANDRABINDU|ANUSVARA|VISARGA|SIDDHAM
C85 KANNADA LETTER |A|AA|I|II|U|UU|VOCALIC R|VOCALIC L
C8E KANNADA LETTER |E|EE|AI
C92 KANNADA LETTER |O|OO
C94 KANNADA LETTER |AU|KA|KHA|GA|GHA|NGA|CA|CHA|JA|JHA|NYA|TTA|TTHA|DDA|DDHA|NNA|TA|THA|DA|DHA|NA
CAA KANNADA LETTER |PA|PHA|BA|BHA|MA|YA|RA|RRA|LA|LLA
CB5 KANNADA LETTER |VA|SHA|SSA|SA|HA
CBC KANNADA SIGN |NUKTA|AVAGRAHA
CBE KANNADA VOWEL SIGN |AA|I|II|U|UU|VOCALIC R|VOCALIC RR
CC6 KANNADA VOWEL SIGN |E|EE|AI
CCA KANNADA VOWEL SIGN |O|OO|AU
CCD KANNADA SIGN |VIRAMA
CD5 KANNADA |LENGTH MARK|AI LENGTH MARK
CDD KANNADA LETTER |NAKAARA POLLU|FA
CE0 KANNADA LETTER VOCALIC |RR|LL
CE2 KANNADA VOWEL SIGN VOCALIC |L|LL
CE6 KANNADA DIGIT |ZERO|ONE|TWO|THREE|FOUR|FIVE|SIX|SEVEN|EIGHT|NINE
CF1 KANNADA SIGN |JIHVAMULIYA|UPADHMANIYA
D00 MALAYALAM SIGN |COMBINING ANUSVARA ABOVE|CANDRABINDU|ANUSVARA|VISARGA
D04 MALAYALAM LETTER |VEDIC ANUSVARA|A|AA|I|II|U|UU|VOCALIC R|VOCALIC L
D0E MALAYALAM LETTER |E|EE|AI
D12 MALAYALAM LETTER |O|OO|AU|KA|KHA|GA|GHA|NGA|CA|CHA|JA|JHA|NYA|TTA|TTHA|DDA|DDHA|NNA|TA|THA
D26 MALAYALAM LETTER |DA|DHA|NA|NNNA|PA|PHA|BA|BHA|MA|YA|RA|RRA|LA|LLA|LLLA|VA|SHA|SSA|SA|HA|TTTA
D3B MALAYALAM SIGN |VERTICAL BAR VIRAMA|CIRCULAR VIRAMA|AVAGRAHA
D3E MALAYALAM VOWEL SIGN |AA|I|II|U|UU|VOCALIC R|VOCALIC RR
D46 MALAYALAM VOWEL SIGN |E|EE|AI
D4A MALAYALAM VOWEL SIGN |O|OO|AU
D4D MALAYALAM |SIGN VIRAMA|LETTER DOT REPH|SIGN PARA
D54 MALAYALAM LETTER CHILLU |M|Y|LLL
D57 MALAYALAM |AU LENGTH MARK|FRACTION ONE ONE-HUNDRED-AND-SIXTIETH|FRACTION ONE FORTIETH
D5A MALAYALAM FRACTION |THREE EIGHTIETHS|ONE TWENTIETH|ONE TENTH|THREE TWENTIETHS|ONE FIFTH
D5F MALAYALAM LETTER |ARCHAIC II|VOCALIC RR|VOCALIC LL
D62 MALAYALAM VOWEL SIGN VOCALIC |L|LL
D66 MALAYALAM DIGIT |ZERO|ONE|TWO|THREE|FOUR|FIVE|SIX|SEVEN|EIGHT|NINE
D70 MALAYALAM NUMBER |TEN|ONE HUNDRED|ONE THOUSAND
D73 MALAYALAM FRACTION |ONE QUARTER|ONE HALF|THREE QUARTERS|ONE SIXTEENTH|ONE EIGHTH
D78 MALAYALAM |FRACTION THREE SIXTEENTHS|DATE MARK
D7A MALAYALAM LETTER CHILLU |NN|N|RR|L|LL|K
D81 SINHALA SIGN |CANDRABINDU|ANUSVARAYA|VISARGAYA
D85 SINHALA LETTER |AYANNA|AAYANNA|AEYANNA|AEEYANNA|IYANNA|IIYANNA|UYANNA|UUYANNA|IRUYANNA
D8E SINHALA LETTER |IRUUYANNA|ILUYANNA|ILUUYANNA|EYANNA|EEYANNA|AIYANNA|OYANNA|OOYANNA|AUYANNA
D9A SINHALA LETTER |ALPAPRAANA KAYANNA|MAHAAPRAANA KAYANNA
D9C SINHALA LETTER |ALPAPRAANA GAYANNA|MAHAAPRAANA GAYANNA|KANTAJA NAASIKYAYA|SANYAKA GAYANNA
DA0 SINHALA LETTER |ALPAPRAANA CAYANNA|MAHAAPRAANA CAYANNA|ALPAPRAANA JAYANNA|MAHAAPRAANA JAYANNA
DA4 SINHALA LETTER TAALUJA |NAASIKYAYA|SANYOOGA NAAKSIKYAYA
DA6 SINHALA LETTER |SANYAKA JAYANNA|ALPAPRAANA TTAYANNA|MAHAAPRAANA TTAYANNA|ALPAPRAANA DDAYANNA
DAA SINHALA LETTER |MAHAAPRAANA DDAYANNA|MUURDHAJA NAYANNA|SANYAKA DDAYANNA|ALPAPRAANA TAYANNA
DAE SINHALA LETTER |MAHAAPRAANA TAYANNA|ALPAPRAANA DAYANNA|MAHAAPRAANA DAYANNA|DANTAJA NAYANNA
DB3 SINHALA LETTER |SANYAKA DAYANNA|ALPAPRAANA PAYANNA|MAHAAPRAANA PAYANNA
DB6 SINHALA LETTER |ALPAPRAANA BAYANNA|MAHAAPRAANA BAYANNA|MAYANNA|AMBA BAYANNA|YAYANNA|RAYANNA
DBD SINHALA LETTER DANTAJA |LAYANNA
DC0 SINHALA LETTER |VAYANNA|TAALUJA SAYANNA
DC2 SINHALA LETTER |MUURDHAJA SAYANNA|DANTAJA SAYANNA|HAYANNA|MUURDHAJA LAYANNA|FAYANNA
DCA SINHALA SIGN AL-|LAKUNA
DCF SINHALA VOWEL SIGN |AELA-PILLA|KETTI AEDA-PILLA
DD1 SINHALA VOWEL SIGN |DIGA AEDA-PILLA|KETTI IS-PILLA|DIGA IS-PILLA|KETTI PAA-PILLA
DD6 SINHALA VOWEL SIGN DIGA PAA-|PILLA
DD8 SINHALA VOWEL SIGN |GAETTA-PILLA|KOMBUVA|DIGA KOMBUVA|KOMBU DEKA|KOMBUVA HAA AELA-PILLA
DDD SINHALA VOWEL SIGN |KOMBUVA HAA DIGA AELA-PILLA|KOMBUVA HAA GAYANUKITTA|GAYANUKITTA
DE6 SINHALA LITH DIGIT |ZERO|ONE|TWO|THREE|FOUR|FIVE|SIX|SEVEN|EIGHT|NINE
DF2 SINHALA VOWEL SIGN DIGA |GAETTA-PILLA|GAYANUKITTA
DF4 SINHALA PUNCTUATION |KUNDDALIYA
E01 THAI CHARACTER |KO KAI|KHO KHAI|KHO KHUAT|KHO KHWAI
E05 THAI CHARACTER |KHO KHON|KHO RAKHANG|NGO NGU|CHO CHAN|CHO CHING|CHO CHANG|SO SO|CHO CHOE
E0D THAI CHARACTER |YO YING|DO CHADA|TO PATAK|THO THAN|THO NANGMONTHO|THO PHUTHAO|NO NEN|DO DEK
E15 THAI CHARACTER |TO TAO|THO THUNG|THO THAHAN|THO THONG|NO NU|BO BAIMAI|PO PLA|PHO PHUNG|FO FA
E1E THAI CHARACTER |PHO PHAN|FO FAN|PHO SAMPHAO|MO MA|YO YAK|RO RUA|RU|LO LING|LU|WO WAEN|SO SALA
E29 THAI CHARACTER |SO RUSI|SO SUA|HO HIP|LO CHULA|O ANG|HO NOKHUK|PAIYANNOI|SARA A|MAI HAN-AKAT
E32 THAI CHARACTER SARA |AA|AM|I|II|UE|UEE|U|UU
E3A THAI CHARACTER |PHINTHU
E3F THAI CURRENCY SYMBOL |BAHT
E40 THAI CHARACTER SARA |E|AE|O|AI MAIMUAN|AI MAIMALAI
E45 THAI CHARACTER |LAKKHANGYAO|MAIYAMOK|MAITAIKHU
E48 THAI CHARACTER |MAI EK|MAI THO|MAI TRI|MAI CHATTAWA|THANTHAKHAT|NIKHAHIT|YAMAKKAN|FONGMAN
E50 THAI DIGIT |ZERO|ONE|TWO|THREE|FOUR|FIVE|SIX|SEVEN|EIGHT|NINE
E5A THAI CHARACTER |ANGKHANKHU|KHOMUT
E81 LAO LETTER |KO|KHO SUNG
E84 LAO LETTER KHO |TAM
E86 LAO LETTER |PALI GHA|NGO|CO|PALI CHA|SO TAM
E8C LAO LETTER |PALI JHA|NYO
E8E LAO LETTER PALI |NYA|TTA|TTHA|DDA|DDHA|NNA
E94 LAO LETTER |DO|TO|THO SUNG
E97 LAO LETTER |THO TAM|PALI DHA|NO|BO|PO|PHO SUNG|FO TAM|PHO TAM|FO SUNG|PALI BHA|MO|YO|LO LING
EA5 LAO LETTER LO |LOOT
EA7 LAO LETTER |WO|SANSKRIT SHA|SANSKRIT SSA|SO SUNG|HO SUNG|PALI LLA|O|HO TAM
EAF LAO |ELLIPSIS
EB0 LAO VOWEL SIGN |A|MAI KAN|AA|AM|I|II|Y|YY|U|UU
EBA LAO |SIGN PALI VIRAMA|VOWEL SIGN MAI KON
EBC LAO SEMIVOWEL SIGN |LO|NYO
EC0 LAO VOWEL SIGN |E|EI|O|AY|AI
EC6 LAO KO |LA
EC8 LAO TONE MAI |EK|THO|TI|CATAWA
ECC LAO |CANCELLATION MARK|NIGGAHITA
ED0 LAO DIGIT |ZERO|ONE|TWO|THREE|FOUR|FIVE|SIX|SEVEN|EIGHT|NINE
EDC LAO HO |NO|MO
EDE LAO LETTER KHMU |GO|NYO
F00 TIBETAN SYLLABLE |OM
F01 TIBETAN MARK GTER YIG MGO |TRUNCATED A|-UM RNAM BCAD MA|-UM GTER TSHEG MA
F04 TIBETAN MARK INITIAL YIG MGO MDUN |MA
F05 TIBETAN MARK |CLOSING YIG MGO SGAB MA|CARET YIG MGO PHUR SHAD MA|YIG MGO TSHEG SHAD MA
F08 TIBETAN MARK |SBRUL SHAD|BSKUR YIG MGO|BKA- SHOG YIG MGO|INTERSYLLABIC TSHEG
F0C TIBETAN MARK |DELIMITER TSHEG BSTAR|SHAD|NYIS SHAD|TSHEG SHAD|NYIS TSHEG SHAD
F11 TIBETAN MARK |RIN CHEN SPUNGS SHAD|RGYA GRAM SHAD|CARET -DZUD RTAGS ME LONG CAN|GTER TSHEG
F15 TIBETAN LOGOTYPE SIGN |CHAD RTAGS|LHAG RTAGS
F17 TIBETAN ASTROLOGICAL SIGN |SGRA GCAN -CHAR RTAGS|-KHYUD PA|SDONG TSHUGS
F1A TIBETAN SIGN RDEL |DKAR GCIG|DKAR GNYIS|DKAR GSUM|NAG GCIG|NAG GNYIS|DKAR RDEL NAG
F20 TIBETAN DIGIT |ZERO|ONE|TWO|THREE|FOUR|FIVE|SIX|SEVEN|EIGHT|NINE
F2A TIBETAN DIGIT HALF |ONE|TWO|THREE|FOUR|FIVE|SIX|SEVEN|EIGHT|NINE|ZERO
F34 TIBETAN MARK |BSDUS RTAGS|NGAS BZUNG NYI ZLA|CARET -DZUD RTAGS BZHI MIG CAN
F37 TIBETAN MARK |NGAS BZUNG SGOR RTAGS|CHE MGO|TSA -PHRU|GUG RTAGS GYON|GUG RTAGS GYAS
F3C TIBETAN MARK ANG KHANG |GYON|GYAS
F3E TIBETAN SIGN |YAR TSHES|MAR TSHES
F40 TIBETAN LETTER |KA|KHA|GA|GHA|NGA|CA|CHA|JA
F49 TIBETAN LETTER |NYA|TTA|TTHA|DDA|DDHA|NNA|TA|THA|DA|DHA|NA|PA|PHA|BA|BHA|MA|TSA
F5A TIBETAN LETTER |TSHA|DZA|DZHA|WA|ZHA|ZA|-A|YA|RA|LA|SHA|SSA|SA|HA|A|KSSA|FIXED-FORM RA|KKA|RRA
F71 TIBETAN VOWEL SIGN |AA|I|II|U|UU|VOCALIC R|VOCALIC RR|VOCALIC L|VOCALIC LL|E|EE|O|OO
F7E TIBETAN SIGN |RJES SU NGA RO|RNAM BCAD
F80 TIBETAN VOWEL SIGN REVERSED |I|II
F82 TIBETAN SIGN |NYI ZLA NAA DA|SNA LDAN
F84 TIBETAN |MARK HALANTA|MARK PALUTA|SIGN LCI RTAGS|SIGN YANG RTAGS
F88 TIBETAN SIGN |LCE TSA CAN|MCHU CAN|GRU CAN RGYINGS|GRU MED RGYINGS|INVERTED MCHU CAN
F8D TIBETAN SUBJOINED SIGN |LCE TSA CAN|MCHU CAN|INVERTED MCHU CAN
F90 TIBETAN SUBJOINED LETTER |KA|KHA|GA|GHA|NGA|CA|CHA|JA
F99 TIBETAN SUBJOINED LETTER |NYA|TTA|TTHA|DDA|DDHA|NNA|TA|THA|DA|DHA|NA|PA|PHA|BA
FA7 TIBETAN SUBJOINED LETTER |BHA|MA|TSA|TSHA|DZA|DZHA|WA|ZHA|ZA|-A|YA|RA|LA|SHA|SSA|SA|HA|A|KSSA
FBA TIBETAN SUBJOINED LETTER FIXED-FORM |WA|YA|RA
FBE TIBETAN KU RU |KHA|KHA BZHI MIG CAN
FC0 TIBETAN CANTILLATION SIGN |HEAVY BEAT|LIGHT BEAT|CANG TE-U|SBUB -CHAL
FC4 TIBETAN SYMBOL |DRIL BU|RDO RJE|PADMA GDAN|RDO RJE RGYA GRAM|PHUR PA|NOR BU
FCA TIBETAN SYMBOL NOR BU |NYIS -KHYIL|GSUM -KHYIL|BZHI -KHYIL
FCE TIBETAN SIGN RDEL NAG |RDEL DKAR|GSUM
FD0 TIBETAN MARK |BSKA- SHOG GI MGO RGYAN|MNYAM YIG GI MGO RGYAN|NYIS TSHEG
FD3 TIBETAN MARK |INITIAL BRDA RNYING YIG MGO MDUN MA|CLOSING BRDA RNYING YIG MGO SGAB MA
FD5 RIGHT-FACING SVASTI |SIGN
FD6 |LEFT-FACING SVASTI SIGN|RIGHT-FACING SVASTI SIGN WITH DOTS|LEFT-FACING SVASTI SIGN WITH DOTS
FD9 TIBETAN MARK |LEADING MCHAN RTAGS|TRAILING MCHAN RTAGS"

end TaintFlow.Text.CharName
