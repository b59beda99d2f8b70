/-!
# Names of character properties

The properties, categories, scripts and break classes that a pattern may name, in normalized
spelling: lower case without blanks, hyphens, underscores and a leading `is`.
-/

namespace MeshDestination.Pattern

/-- The words of a text with single blanks between them. -/
def words (s : String) : List String := s.splitOn " "

/-- Properties that a character has or has not. -/
def binaryProperties : List String :=
    words "ahex asciihexdigit alpha alphabetic bidic bidicontrol bidim bidimirrored" ++
    words "caseignorable ci cased changeswhencasefolded cwcf changeswhencasemapped cwcm" ++
    words "changeswhenlowercased cwl changeswhentitlecased cwt changeswhenuppercased cwu dash" ++
    words "defaultignorablecodepoint di dep deprecated dia diacritic emoji ecomp emojicomponent" ++
    words "emod emojimodifier ebase emojimodifierbase emojipresentation epres" ++
    words "extendedpictographic extpict ext extender graphemebase grbase graphemeextend grext" ++
    words "graphemelink hex hexdigit hyphen idsb idsbinaryoperator idst idstrinaryoperator idc" ++
    words "idcontinue ids idstart ideo ideographic joinc joincontrol loe logicalorderexception" ++
    words "lower lowercase math nchar noncharactercodepoint otheralphabetic" ++
    words "otherdefaultignorablecodepoint othergraphemeextend otheridcontinue otheridstart" ++
    words "otherlowercase othermath otheruppercase patsyn patternsyntax patternwhitespace patws" ++
    words "pcm prependedconcatenationmark qmark quotationmark radical regionalindicator ri" ++
    words "sentenceterminal sterm sd softdotted term terminalpunctuation uideo unifiedideograph" ++
    words "upper uppercase variationselector vs space whitespace wspace xidc xidcontinue xids" ++
    words "xidstart idcompatmathstart idcompatmathcontinue incb modifiercombiningmark mcm" ++
    words "idsunaryoperator idsu"

/-- General categories and their unions. -/
def categories : List String :=
    words "c other cc cntrl control cf format cn unassigned co privateuse cs surrogate l letter" ++
    words "casedletter lc ll lowercaseletter lm modifierletter lo otherletter lt titlecaseletter" ++
    words "lu uppercaseletter combiningmark m mark mc spacingmark enclosingmark me mn" ++
    words "nonspacingmark n number decimalnumber digit nd letternumber nl no othernumber p punct" ++
    words "punctuation connectorpunctuation pc dashpunctuation pd closepunctuation pe" ++
    words "finalpunctuation pf initialpunctuation pi otherpunctuation po openpunctuation ps s" ++
    words "symbol currencysymbol sc modifiersymbol sk mathsymbol sm othersymbol so separator z" ++
    words "lineseparator zl paragraphseparator zp spaceseparator zs any assigned ascii"

/-- Scripts. -/
def scripts : List String :=
    words "adlam adlm aghb caucasianalbanian ahom arab arabic armi imperialaramaic armenian armn" ++
    words "avestan avst bali balinese bamu bamum bass bassavah batak batk beng bengali bhaiksuki" ++
    words "bhks bopo bopomofo brah brahmi brai braille bugi buginese buhd buhid cakm chakma" ++
    words "canadianaboriginal cans cari carian cham cher cherokee chorasmian chrs copt coptic" ++
    words "qaac cpmn cyprominoan cprt cypriot cyrillic cyrl deva devanagari diak divesakuru dogr" ++
    words "dogra deseret dsrt dupl duployan egyp egyptianhieroglyphs elba elbasan elym elymaic" ++
    words "ethi ethiopic geor georgian glag glagolitic gong gunjalagondi gonm masaramgondi goth" ++
    words "gothic gran grantha greek grek gujarati gujr gurmukhi guru hang hangul han hani hano" ++
    words "hanunoo hatr hatran hebr hebrew hira hiragana anatolianhieroglyphs hluw hmng" ++
    words "pahawhhmong hmnp nyiakengpuachuehmong hrkt hung oldhungarian ital olditalic java" ++
    words "javanese kali kayahli kana katakana kawi khar kharoshthi khmer khmr khoj khojki" ++
    words "khitansmallscript kits kannada knda kaithi kthi lana taitham lao laoo latin latn lepc" ++
    words "lepcha limb limbu lina lineara linb linearb lisu lyci lycian lydi lydian mahajani" ++
    words "mahj maka makasar mand mandaic mani manichaean marc marchen medefaidrin medf mend" ++
    words "mendekikakui merc meroiticcursive mero meroitichieroglyphs malayalam mlym modi mong" ++
    words "mongolian mro mroo meeteimayek mtei mult multani myanmar mymr nagm nagmundari nand" ++
    words "nandinagari narb oldnortharabian nabataean nbat newa nko nkoo nshu nushu ogam ogham" ++
    words "olchiki olck oldturkic orkh oriya orya osage osge osma osmanya olduyghur ougr palm" ++
    words "palmyrene pauc paucinhau oldpermic perm phag phagspa inscriptionalpahlavi phli phlp" ++
    words "psalterpahlavi phnx phoenician miao plrd inscriptionalparthian prti rejang rjng" ++
    words "hanifirohingya rohg runic runr samaritan samr oldsoutharabian sarb saur saurashtra" ++
    words "sgnw signwriting shavian shaw sharada shrd sidd siddham khudawadi sind sinh sinhala" ++
    words "sogd sogdian oldsogdian sogo sora sorasompeng soyo soyombo sund sundanese sylo" ++
    words "sylotinagri syrc syriac tagb tagbanwa takr takri taile tale newtailue talu tamil taml" ++
    words "tang tangut taiviet tavt telu telugu tfng tifinagh tagalog tglg thaa thaana thai" ++
    words "tibetan tibt tirh tirhuta tangsa tnsa toto ugar ugaritic vai vaii vith vithkuqi wara" ++
    words "warangciti wancho wcho oldpersian xpeo cuneiform xsux yezi yezidi yi yiii" ++
    words "zanabazarsquare zanb inherited qaai zinh common zyyy unknown zzzz gara garay gukh" ++
    words "gurungkhema krai kiratrai onao olonal sunu sunuwar todr todhri tutg tulutigalari"

/-- Classes of characters at grapheme boundaries. -/
def graphemeBreaks : List String :=
    words "cn control cr eb ebase ebasegaz ebg em emodifier ex extend gaz glueafterzwj l lf lv" ++
    words "lvt pp prepend regionalindicator ri sm spacingmark t v other xx zwj"

/-- Classes of characters at word boundaries. -/
def wordBreaks : List String :=
    words "cr doublequote dq eb ebase ebasegaz ebg em emodifier ex extendnumlet extend fo format" ++
    words "gaz glueafterzwj hebrewletter hl ka katakana aletter le lf mb midnumlet midletter ml" ++
    words "midnum mn newline nl nu numeric regionalindicator ri singlequote sq wsegspace other" ++
    words "xx zwj"

/-- Classes of characters at sentence boundaries. -/
def sentenceBreaks : List String :=
    words "at aterm cl close cr ex extend fo format le oletter lf lo lower nu numeric sc" ++
    words "scontinue se sep sp st sterm up upper other xx"

/-- Versions in which a character was assigned. -/
def ages : List String :=
    words "1.1 v11 10.0 v100 11.0 v110 12.0 v120 12.1 v121 13.0 v130 14.0 v140 15.0 v150 2.0 v20" ++
    words "2.1 v21 3.0 v30 3.1 v31 3.2 v32 4.0 v40 4.1 v41 5.0 v50 5.1 v51 5.2 v52 6.0 v60 6.1" ++
    words "v61 6.2 v62 6.3 v63 7.0 v70 8.0 v80 9.0 v90 15.1 v151 16.0 v160"

/-- The normalized spelling of a name. A lone `c` after the prefix keeps the prefix, since it is the
name of a property of its own. -/
def normalizeName (s : List Char) : String :=
  let lower := s.map Char.toLower
  let isPrefixed := lower.take 2 == ['i', 's']
  let body := if isPrefixed then lower.drop 2 else lower
  let kept := body.filter fun c => c.toNat < 0x80 && c != ' ' && c != '_' && c != '-'
  if isPrefixed && kept == ['c'] then "isc" else String.ofList kept

/-- Whether a single name is that of a property, category or script. -/
def isClassName (s : List Char) : Bool :=
  let n := normalizeName s
  binaryProperties.contains n || categories.contains n || scripts.contains n

/-- The values of a property that is not binary. -/
def valuesOf? (property : String) : Option (List String) :=
  if ["gc", "generalcategory", "category"].contains property then some categories
  else if ["sc", "script", "scx", "scriptextensions"].contains property then some scripts
  else if ["gcb", "graphemeclusterbreak"].contains property then some graphemeBreaks
  else if ["wb", "wordbreak"].contains property then some wordBreaks
  else if ["sb", "sentencebreak"].contains property then some sentenceBreaks
  else if property == "age" then some ages
  else none

/-- Whether a property has a value of a name. -/
def isClassValue (property value : List Char) : Bool :=
  match valuesOf? (normalizeName property) with
  | some values => values.contains (normalizeName value)
  | none => false

end MeshDestination.Pattern
