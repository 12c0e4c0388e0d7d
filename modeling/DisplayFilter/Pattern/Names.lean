/-
**Named character classes of patterns.**

The names a pattern may use for a class of characters: general categories and scripts of the 17.0
edition of the Unicode standard, a few names for large classes, and the names between colons that
only a bracket knows. In the name of a category or script the case of letters does not matter, nor
do hyphens, underscores and spaces.

* `isPropertyName`: whether a name stands for a category or script.
* `bracketClasses`: the classes with names between colons.
* `letterClasses`: the classes with a letter after a backslash.
-/

import DisplayFilter.Pattern.CharSet

namespace DisplayFilter.Pattern

/-- The names of large classes: every character, those that are assigned, and those of ASCII. -/
def wideNames : List String :=
  ["Any", "ASCII", "Assigned"]

/-- The general categories of the Unicode standard by their short names. -/
def categoryNames : List String :=
  ["C", "Cc", "Cf", "Cn", "Co", "Cs", "L", "LC", "Ll", "Lm", "Lo", "Lt", "Lu", "M", "Mc", "Me",
    "Mn", "N", "Nd", "Nl", "No", "P", "Pc", "Pd", "Pe", "Pf", "Pi", "Po", "Ps", "S", "Sc", "Sk",
    "Sm", "So", "Z", "Zl", "Zp", "Zs"]

/-- The general categories of the Unicode standard by their long names. -/
def longCategoryNames : List String :=
  ["Cased_Letter", "Close_Punctuation", "cntrl", "Combining_Mark", "Connector_Punctuation",
    "Control", "Currency_Symbol", "Dash_Punctuation", "Decimal_Number", "digit", "Enclosing_Mark",
    "Final_Punctuation", "Format", "Initial_Punctuation", "Letter", "Letter_Number",
    "Line_Separator", "Lowercase_Letter", "Mark", "Math_Symbol", "Modifier_Letter",
    "Modifier_Symbol", "Nonspacing_Mark", "Number", "Open_Punctuation", "Other", "Other_Letter",
    "Other_Number", "Other_Punctuation", "Other_Symbol", "Paragraph_Separator", "Private_Use",
    "punct", "Punctuation", "Separator", "Space_Separator", "Spacing_Mark", "Surrogate", "Symbol",
    "Titlecase_Letter", "Unassigned", "Uppercase_Letter"]

/-- The scripts of the Unicode standard. -/
def scriptNames : List String :=
  ["Adlam", "Ahom", "Anatolian_Hieroglyphs", "Arabic", "Armenian", "Avestan", "Balinese", "Bamum",
    "Bassa_Vah", "Batak", "Bengali", "Beria_Erfe", "Bhaiksuki", "Bopomofo", "Brahmi", "Braille",
    "Buginese", "Buhid", "Canadian_Aboriginal", "Carian", "Caucasian_Albanian", "Chakma", "Cham",
    "Cherokee", "Chorasmian", "Common", "Coptic", "Cuneiform", "Cypriot", "Cypro_Minoan",
    "Cyrillic", "Deseret", "Devanagari", "Dives_Akuru", "Dogra", "Duployan", "Egyptian_Hieroglyphs",
    "Elbasan", "Elymaic", "Ethiopic", "Garay", "Georgian", "Glagolitic", "Gothic", "Grantha",
    "Greek", "Gujarati", "Gunjala_Gondi", "Gurmukhi", "Gurung_Khema", "Han", "Hangul",
    "Hanifi_Rohingya", "Hanunoo", "Hatran", "Hebrew", "Hiragana", "Imperial_Aramaic", "Inherited",
    "Inscriptional_Pahlavi", "Inscriptional_Parthian", "Javanese", "Kaithi", "Kannada", "Katakana",
    "Kawi", "Kayah_Li", "Kharoshthi", "Khitan_Small_Script", "Khmer", "Khojki", "Khudawadi",
    "Kirat_Rai", "Lao", "Latin", "Lepcha", "Limbu", "Linear_A", "Linear_B", "Lisu", "Lycian",
    "Lydian", "Mahajani", "Makasar", "Malayalam", "Mandaic", "Manichaean", "Marchen",
    "Masaram_Gondi", "Medefaidrin", "Meetei_Mayek", "Mende_Kikakui", "Meroitic_Cursive",
    "Meroitic_Hieroglyphs", "Miao", "Modi", "Mongolian", "Mro", "Multani", "Myanmar", "Nabataean",
    "Nag_Mundari", "Nandinagari", "New_Tai_Lue", "Newa", "Nko", "Nushu", "Nyiakeng_Puachue_Hmong",
    "Ogham", "Ol_Chiki", "Ol_Onal", "Old_Hungarian", "Old_Italic", "Old_North_Arabian",
    "Old_Permic", "Old_Persian", "Old_Sogdian", "Old_South_Arabian", "Old_Turkic", "Old_Uyghur",
    "Oriya", "Osage", "Osmanya", "Pahawh_Hmong", "Palmyrene", "Pau_Cin_Hau", "Phags_Pa",
    "Phoenician", "Psalter_Pahlavi", "Rejang", "Runic", "Samaritan", "Saurashtra", "Sharada",
    "Shavian", "Siddham", "Sidetic", "SignWriting", "Sinhala", "Sogdian", "Sora_Sompeng", "Soyombo",
    "Sundanese", "Sunuwar", "Syloti_Nagri", "Syriac", "Tagalog", "Tagbanwa", "Tai_Le", "Tai_Tham",
    "Tai_Viet", "Tai_Yo", "Takri", "Tamil", "Tangsa", "Tangut", "Telugu", "Thaana", "Thai",
    "Tibetan", "Tifinagh", "Tirhuta", "Todhri", "Tolong_Siki", "Toto", "Tulu_Tigalari", "Ugaritic",
    "Vai", "Vithkuqi", "Wancho", "Warang_Citi", "Yezidi", "Yi", "Zanabazar_Square"]

/-- The classes that stand by their names between colons within brackets. -/
def bracketClasses : List (String × Ranges) :=
  [("alnum", [(0x30, 0x39), (0x41, 0x5A), (0x61, 0x7A)]),
    ("alpha", [(0x41, 0x5A), (0x61, 0x7A)]),
    ("ascii", [(0, 0x7F)]),
    ("blank", [(9, 9), (0x20, 0x20)]),
    ("cntrl", [(0, 0x1F), (0x7F, 0x7F)]),
    ("digit", [(0x30, 0x39)]),
    ("graph", [(0x21, 0x7E)]),
    ("lower", [(0x61, 0x7A)]),
    ("print", [(0x20, 0x7E)]),
    ("punct", [(0x21, 0x2F), (0x3A, 0x40), (0x5B, 0x60), (0x7B, 0x7E)]),
    ("space", [(9, 13), (0x20, 0x20)]),
    ("upper", [(0x41, 0x5A)]),
    ("word", [(0x30, 0x39), (0x41, 0x5A), (0x5F, 0x5F), (0x61, 0x7A)]),
    ("xdigit", [(0x30, 0x39), (0x41, 0x46), (0x61, 0x66)])]

/-- The classes that stand by a small letter after a backslash; the capital letter stands for all
other characters. -/
def letterClasses : List (Char × Ranges) :=
  [('d', [(0x30, 0x39)]),
    ('s', [(9, 10), (12, 13), (0x20, 0x20)]),
    ('w', [(0x30, 0x39), (0x41, 0x5A), (0x5F, 0x5F), (0x61, 0x7A)])]

/-- A name as it is compared: in lower case, without hyphens, underscores and spaces. -/
def comparedName (name : List Char) : List Char :=
  (name.filter fun character => character ≠ '_' && character ≠ '-' && character ≠ ' ').map
    Char.toLower

/-- Whether a name stands for a category or script. -/
def isPropertyName (name : List Char) : Bool :=
  (wideNames ++ categoryNames ++ longCategoryNames ++ scriptNames).any fun known =>
    comparedName known.toList = comparedName name

end DisplayFilter.Pattern
