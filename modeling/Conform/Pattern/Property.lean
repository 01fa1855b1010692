import Conform.Pattern.Basic
import Conform.Pattern.Error
import Conform.Text.Category
import Conform.Text.Script
import Conform.Text.Binary
import Conform.Text.Age
import Conform.Text.Segment
/-!
Unicode property classes, written `\pL`, `\p{Name}` or `\p{name=value}`. Names are read
loosely: case, blanks, underscores and hyphens do not count, nor does an `is` in front.

A bare name is, in this order, a binary property (such as `Alphabetic` or `White_Space`), a
general category (such as `L`, `Lu` or `Letter`, and also `Any`, `Assigned` and `ASCII`) or a
script (such as `Greek`). The abbreviations `cf`, `sc` and `lc` are general categories, never
property names. A valued name `name=value` (or `name:value`, or `name!=value` for the
complement) asks for a general category, a script, the script extensions, an age (every code
point assigned up to a version) or a segmentation class (Grapheme_Cluster_Break, Word_Break,
Sentence_Break) by value; another property named by value has no values here.
-/
namespace Conform.Pattern

/-- How a property class names its property. -/
inductive PropertyName where
  | letter (c : Char)
  | named (name : String)
  | valued (negate : Bool) (name value : String)
  deriving Inhabited

namespace PropertyName

/-- The name written between the braces of `\p{...}`: `name!=value`, `name:value`,
`name=value` or a bare name, the first of these that fits. -/
def ofText (text : String) : PropertyName :=
  match text.splitOn "!=" with
  | name :: value :: more => .valued true name ("!=".intercalate (value :: more))
  | _ =>
    match text.splitOn ":" with
    | name :: value :: more => .valued false name (":".intercalate (value :: more))
    | _ =>
      match text.splitOn "=" with
      | name :: value :: more => .valued false name ("=".intercalate (value :: more))
      | _ => .named text

end PropertyName

/-- A name as it is compared: without an `is` in front, blanks, underscores, hyphens and
non-ASCII characters, and in lowercase. A lone `c` left after `is` stays `isc`. -/
def looseName (name : String) : String :=
  let cs := name.toList
  let (hadIs, rest) := match cs with
    | a :: b :: more =>
      if (a = 'i' ∨ a = 'I') ∧ (b = 's' ∨ b = 'S') then (true, more) else (false, cs)
    | _ => (false, cs)
  let kept := rest.filterMap fun c =>
    if c = ' ' ∨ c = '_' ∨ c = '-' then none
    else if 'A' ≤ c ∧ c ≤ 'Z' then some (Char.ofNat (c.toNat + 32))
    else if c.toNat ≤ 0x7F then some c
    else none
  let s := String.ofList kept
  if hadIs && s = "c" then "isc" else s

/-- Property names, written loosely, and the properties they name. -/
def propertyAliasText : String := String.join [
    "age=Age ahex=ASCII_Hex_Digit asciihexdigit=ASCII_Hex_Digit alpha=Alphabetic ",
    "alphabetic=Alphabetic bc=Bidi_Class bidiclass=Bidi_Class bidic=Bidi_Control ",
    "bidicontrol=Bidi_Control bidim=Bidi_Mirrored bidimirrored=Bidi_Mirrored blk=Block ",
    "block=Block bmg=Bidi_Mirroring_Glyph bidimirroringglyph=Bidi_Mirroring_Glyph ",
    "bpb=Bidi_Paired_Bracket bidipairedbracket=Bidi_Paired_Bracket ",
    "bpt=Bidi_Paired_Bracket_Type bidipairedbrackettype=Bidi_Paired_Bracket_Type cased=Cased ",
    "ccc=Canonical_Combining_Class canonicalcombiningclass=Canonical_Combining_Class ",
    "ce=Composition_Exclusion compositionexclusion=Composition_Exclusion cf=Case_Folding ",
    "casefolding=Case_Folding ci=Case_Ignorable caseignorable=Case_Ignorable ",
    "compex=Full_Composition_Exclusion fullcompositionexclusion=Full_Composition_Exclusion ",
    "cwcf=Changes_When_Casefolded changeswhencasefolded=Changes_When_Casefolded ",
    "cwcm=Changes_When_Casemapped changeswhencasemapped=Changes_When_Casemapped ",
    "cwkcf=Changes_When_NFKC_Casefolded ",
    "changeswhennfkccasefolded=Changes_When_NFKC_Casefolded cwl=Changes_When_Lowercased ",
    "changeswhenlowercased=Changes_When_Lowercased cwt=Changes_When_Titlecased ",
    "changeswhentitlecased=Changes_When_Titlecased cwu=Changes_When_Uppercased ",
    "changeswhenuppercased=Changes_When_Uppercased dash=Dash dep=Deprecated ",
    "deprecated=Deprecated di=Default_Ignorable_Code_Point ",
    "defaultignorablecodepoint=Default_Ignorable_Code_Point dia=Diacritic diacritic=Diacritic ",
    "dm=Decomposition_Mapping decompositionmapping=Decomposition_Mapping ",
    "dt=Decomposition_Type decompositiontype=Decomposition_Type ea=East_Asian_Width ",
    "eastasianwidth=East_Asian_Width ebase=Emoji_Modifier_Base ",
    "emojimodifierbase=Emoji_Modifier_Base ecomp=Emoji_Component ",
    "emojicomponent=Emoji_Component emod=Emoji_Modifier emojimodifier=Emoji_Modifier ",
    "emoji=Emoji epres=Emoji_Presentation emojipresentation=Emoji_Presentation ",
    "equideo=Equivalent_Unified_Ideograph ",
    "equivalentunifiedideograph=Equivalent_Unified_Ideograph ext=Extender extender=Extender ",
    "extpict=Extended_Pictographic extendedpictographic=Extended_Pictographic ",
    "gc=General_Category generalcategory=General_Category gcb=Grapheme_Cluster_Break ",
    "graphemeclusterbreak=Grapheme_Cluster_Break grbase=Grapheme_Base ",
    "graphemebase=Grapheme_Base grext=Grapheme_Extend graphemeextend=Grapheme_Extend ",
    "hex=Hex_Digit hexdigit=Hex_Digit hst=Hangul_Syllable_Type ",
    "hangulsyllabletype=Hangul_Syllable_Type hyphen=Hyphen idc=ID_Continue ",
    "idcontinue=ID_Continue ideo=Ideographic ideographic=Ideographic ids=ID_Start ",
    "idstart=ID_Start idsb=IDS_Binary_Operator idsbinaryoperator=IDS_Binary_Operator ",
    "idst=IDS_Trinary_Operator idstrinaryoperator=IDS_Trinary_Operator ",
    "inpc=Indic_Positional_Category indicpositionalcategory=Indic_Positional_Category ",
    "insc=Indic_Syllabic_Category indicsyllabiccategory=Indic_Syllabic_Category ",
    "isc=ISO_Comment ocomment=ISO_Comment jg=Joining_Group joininggroup=Joining_Group ",
    "joinc=Join_Control joincontrol=Join_Control jt=Joining_Type joiningtype=Joining_Type ",
    "lb=Line_Break linebreak=Line_Break lc=Lowercase_Mapping ",
    "lowercasemapping=Lowercase_Mapping loe=Logical_Order_Exception ",
    "logicalorderexception=Logical_Order_Exception lower=Lowercase lowercase=Lowercase ",
    "math=Math na=Name name=Name na1=Unicode_1_Name unicode1name=Unicode_1_Name ",
    "namealias=Name_Alias nchar=Noncharacter_Code_Point ",
    "noncharactercodepoint=Noncharacter_Code_Point nfcqc=NFC_Quick_Check ",
    "nfcquickcheck=NFC_Quick_Check nfdqc=NFD_Quick_Check nfdquickcheck=NFD_Quick_Check ",
    "nfkccf=NFKC_Casefold nfkccasefold=NFKC_Casefold nfkcqc=NFKC_Quick_Check ",
    "nfkcquickcheck=NFKC_Quick_Check nfkdqc=NFKD_Quick_Check nfkdquickcheck=NFKD_Quick_Check ",
    "nt=Numeric_Type numerictype=Numeric_Type nv=Numeric_Value numericvalue=Numeric_Value ",
    "patsyn=Pattern_Syntax patternsyntax=Pattern_Syntax patws=Pattern_White_Space ",
    "patternwhitespace=Pattern_White_Space pcm=Prepended_Concatenation_Mark ",
    "prependedconcatenationmark=Prepended_Concatenation_Mark qmark=Quotation_Mark ",
    "quotationmark=Quotation_Mark radical=Radical ri=Regional_Indicator ",
    "regionalindicator=Regional_Indicator sb=Sentence_Break sentencebreak=Sentence_Break ",
    "sc=Script script=Script scf=Simple_Case_Folding simplecasefolding=Simple_Case_Folding ",
    "sfc=Simple_Case_Folding scx=Script_Extensions scriptextensions=Script_Extensions ",
    "sd=Soft_Dotted softdotted=Soft_Dotted slc=Simple_Lowercase_Mapping ",
    "simplelowercasemapping=Simple_Lowercase_Mapping stc=Simple_Titlecase_Mapping ",
    "simpletitlecasemapping=Simple_Titlecase_Mapping sterm=Sentence_Terminal ",
    "sentenceterminal=Sentence_Terminal suc=Simple_Uppercase_Mapping ",
    "simpleuppercasemapping=Simple_Uppercase_Mapping tc=Titlecase_Mapping ",
    "titlecasemapping=Titlecase_Mapping term=Terminal_Punctuation ",
    "terminalpunctuation=Terminal_Punctuation uc=Uppercase_Mapping ",
    "uppercasemapping=Uppercase_Mapping uideo=Unified_Ideograph ",
    "unifiedideograph=Unified_Ideograph upper=Uppercase uppercase=Uppercase ",
    "vo=Vertical_Orientation verticalorientation=Vertical_Orientation vs=Variation_Selector ",
    "variationselector=Variation_Selector wb=Word_Break wordbreak=Word_Break ",
    "wspace=White_Space whitespace=White_Space space=White_Space xidc=XID_Continue ",
    "xidcontinue=XID_Continue xids=XID_Start xidstart=XID_Start ",
    "cjkaccountingnumeric=kAccountingNumeric kaccountingnumeric=kAccountingNumeric ",
    "cjkothernumeric=kOtherNumeric kothernumeric=kOtherNumeric ",
    "cjkprimarynumeric=kPrimaryNumeric kprimarynumeric=kPrimaryNumeric ",
    "cjkcompatibilityvariant=kCompatibilityVariant ",
    "kcompatibilityvariant=kCompatibilityVariant fcnfkc=FC_NFKC_Closure ",
    "fcnfkcclosure=FC_NFKC_Closure nfkcscf=NFKC_Simple_Casefold ",
    "nfkcsimplecasefold=NFKC_Simple_Casefold cjkiicore=kIICore kiicore=kIICore ",
    "cjkirggsource=kIRG_GSource kirggsource=kIRG_GSource cjkirghsource=kIRG_HSource ",
    "kirghsource=kIRG_HSource cjkirgjsource=kIRG_JSource kirgjsource=kIRG_JSource ",
    "cjkirgkpsource=kIRG_KPSource kirgkpsource=kIRG_KPSource cjkirgksource=kIRG_KSource ",
    "kirgksource=kIRG_KSource cjkirgmsource=kIRG_MSource kirgmsource=kIRG_MSource ",
    "cjkirgssource=kIRG_SSource kirgssource=kIRG_SSource cjkirgtsource=kIRG_TSource ",
    "kirgtsource=kIRG_TSource cjkirguksource=kIRG_UKSource kirguksource=kIRG_UKSource ",
    "cjkirgusource=kIRG_USource kirgusource=kIRG_USource cjkirgvsource=kIRG_VSource ",
    "kirgvsource=kIRG_VSource cjkrsunicode=kRSUnicode krsunicode=kRSUnicode ",
    "unicoderadicalstroke=kRSUnicode urs=kRSUnicode jsn=Jamo_Short_Name ",
    "jamoshortname=Jamo_Short_Name kehcat=kEH_Cat kehdesc=kEH_Desc kehhg=kEH_HG ",
    "kehifao=kEH_IFAO kehjsesh=kEH_JSesh kehnomirror=kEH_NoMirror kehnorotate=kEH_NoRotate ",
    "incb=Indic_Conjunct_Break indicconjunctbreak=Indic_Conjunct_Break grlink=Grapheme_Link ",
    "graphemelink=Grapheme_Link idsu=IDS_Unary_Operator idsunaryoperator=IDS_Unary_Operator ",
    "idcompatmathcontinue=ID_Compat_Math_Continue idcompatmathstart=ID_Compat_Math_Start ",
    "mcm=Modifier_Combining_Mark modifiercombiningmark=Modifier_Combining_Mark ",
    "oalpha=Other_Alphabetic otheralphabetic=Other_Alphabetic ",
    "odi=Other_Default_Ignorable_Code_Point ",
    "otherdefaultignorablecodepoint=Other_Default_Ignorable_Code_Point ",
    "ogrext=Other_Grapheme_Extend othergraphemeextend=Other_Grapheme_Extend ",
    "oidc=Other_ID_Continue otheridcontinue=Other_ID_Continue oids=Other_ID_Start ",
    "otheridstart=Other_ID_Start olower=Other_Lowercase otherlowercase=Other_Lowercase ",
    "omath=Other_Math othermath=Other_Math oupper=Other_Uppercase ",
    "otheruppercase=Other_Uppercase xonfc=Expands_On_NFC expandsonnfc=Expands_On_NFC ",
    "xonfd=Expands_On_NFD expandsonnfd=Expands_On_NFD xonfkc=Expands_On_NFKC ",
    "expandsonnfkc=Expands_On_NFKC xonfkd=Expands_On_NFKD expandsonnfkd=Expands_On_NFKD"]

/-- General category names, written loosely, and their short names. -/
def categoryAliasText : String := String.join [
    "c=C other=C cc=Cc control=Cc cntrl=Cc cf=Cf format=Cf cn=Cn unassigned=Cn co=Co ",
    "privateuse=Co cs=Cs surrogate=Cs l=L letter=L lc=LC casedletter=LC ll=Ll ",
    "lowercaseletter=Ll lm=Lm modifierletter=Lm lo=Lo otherletter=Lo lt=Lt titlecaseletter=Lt ",
    "lu=Lu uppercaseletter=Lu m=M mark=M combiningmark=M mc=Mc spacingmark=Mc me=Me ",
    "enclosingmark=Me mn=Mn nonspacingmark=Mn n=N number=N nd=Nd decimalnumber=Nd digit=Nd ",
    "nl=Nl letternumber=Nl no=No othernumber=No p=P punctuation=P punct=P pc=Pc ",
    "connectorpunctuation=Pc pd=Pd dashpunctuation=Pd pe=Pe closepunctuation=Pe pf=Pf ",
    "finalpunctuation=Pf pi=Pi initialpunctuation=Pi po=Po otherpunctuation=Po ps=Ps ",
    "openpunctuation=Ps s=S symbol=S sc=Sc currencysymbol=Sc sk=Sk modifiersymbol=Sk sm=Sm ",
    "mathsymbol=Sm so=So othersymbol=So z=Z separator=Z zl=Zl lineseparator=Zl zp=Zp ",
    "paragraphseparator=Zp zs=Zs spaceseparator=Zs"]

/-- Script names, written loosely, and the scripts they name. -/
def scriptAliasText : String := String.join [
    "= adlm=Adlam adlam=Adlam aghb=Caucasian_Albanian caucasianalbanian=Caucasian_Albanian ",
    "ahom=Ahom arab=Arabic arabic=Arabic armi=Imperial_Aramaic ",
    "imperialaramaic=Imperial_Aramaic armn=Armenian armenian=Armenian avst=Avestan ",
    "avestan=Avestan bali=Balinese balinese=Balinese bamu=Bamum bamum=Bamum bass=Bassa_Vah ",
    "bassavah=Bassa_Vah batk=Batak batak=Batak beng=Bengali bengali=Bengali bhks=Bhaiksuki ",
    "bhaiksuki=Bhaiksuki bopo=Bopomofo bopomofo=Bopomofo brah=Brahmi brahmi=Brahmi ",
    "brai=Braille braille=Braille bugi=Buginese buginese=Buginese buhd=Buhid buhid=Buhid ",
    "cakm=Chakma chakma=Chakma cans=Canadian_Aboriginal ",
    "canadianaboriginal=Canadian_Aboriginal cari=Carian carian=Carian cham=Cham cher=Cherokee ",
    "cherokee=Cherokee chrs=Chorasmian chorasmian=Chorasmian copt=Coptic coptic=Coptic ",
    "qaac=Coptic cpmn=Cypro_Minoan cyprominoan=Cypro_Minoan cprt=Cypriot cypriot=Cypriot ",
    "cyrl=Cyrillic cyrillic=Cyrillic deva=Devanagari devanagari=Devanagari diak=Dives_Akuru ",
    "divesakuru=Dives_Akuru dogr=Dogra dogra=Dogra dsrt=Deseret deseret=Deseret dupl=Duployan ",
    "duployan=Duployan egyp=Egyptian_Hieroglyphs egyptianhieroglyphs=Egyptian_Hieroglyphs ",
    "elba=Elbasan elbasan=Elbasan elym=Elymaic elymaic=Elymaic ethi=Ethiopic ",
    "ethiopic=Ethiopic gara=Garay garay=Garay geor=Georgian georgian=Georgian glag=Glagolitic ",
    "glagolitic=Glagolitic gong=Gunjala_Gondi gunjalagondi=Gunjala_Gondi gonm=Masaram_Gondi ",
    "masaramgondi=Masaram_Gondi goth=Gothic gothic=Gothic gran=Grantha grantha=Grantha ",
    "grek=Greek greek=Greek gujr=Gujarati gujarati=Gujarati gukh=Gurung_Khema ",
    "gurungkhema=Gurung_Khema guru=Gurmukhi gurmukhi=Gurmukhi hang=Hangul hangul=Hangul ",
    "hani=Han han=Han hano=Hanunoo hanunoo=Hanunoo hatr=Hatran hatran=Hatran hebr=Hebrew ",
    "hebrew=Hebrew hira=Hiragana hiragana=Hiragana hluw=Anatolian_Hieroglyphs ",
    "anatolianhieroglyphs=Anatolian_Hieroglyphs hmng=Pahawh_Hmong pahawhhmong=Pahawh_Hmong ",
    "hmnp=Nyiakeng_Puachue_Hmong nyiakengpuachuehmong=Nyiakeng_Puachue_Hmong ",
    "hung=Old_Hungarian oldhungarian=Old_Hungarian ital=Old_Italic olditalic=Old_Italic ",
    "java=Javanese javanese=Javanese kali=Kayah_Li kayahli=Kayah_Li kana=Katakana ",
    "katakana=Katakana kawi=Kawi khar=Kharoshthi kharoshthi=Kharoshthi khmr=Khmer khmer=Khmer ",
    "khoj=Khojki khojki=Khojki kits=Khitan_Small_Script khitansmallscript=Khitan_Small_Script ",
    "knda=Kannada kannada=Kannada krai=Kirat_Rai kiratrai=Kirat_Rai kthi=Kaithi kaithi=Kaithi ",
    "lana=Tai_Tham taitham=Tai_Tham laoo=Lao lao=Lao latn=Latin latin=Latin lepc=Lepcha ",
    "lepcha=Lepcha limb=Limbu limbu=Limbu lina=Linear_A lineara=Linear_A linb=Linear_B ",
    "linearb=Linear_B lisu=Lisu lyci=Lycian lycian=Lycian lydi=Lydian lydian=Lydian ",
    "mahj=Mahajani mahajani=Mahajani maka=Makasar makasar=Makasar mand=Mandaic ",
    "mandaic=Mandaic mani=Manichaean manichaean=Manichaean marc=Marchen marchen=Marchen ",
    "medf=Medefaidrin medefaidrin=Medefaidrin mend=Mende_Kikakui mendekikakui=Mende_Kikakui ",
    "merc=Meroitic_Cursive meroiticcursive=Meroitic_Cursive mero=Meroitic_Hieroglyphs ",
    "meroitichieroglyphs=Meroitic_Hieroglyphs mlym=Malayalam malayalam=Malayalam modi=Modi ",
    "mong=Mongolian mongolian=Mongolian mroo=Mro mro=Mro mtei=Meetei_Mayek ",
    "meeteimayek=Meetei_Mayek mult=Multani multani=Multani mymr=Myanmar myanmar=Myanmar ",
    "nagm=Nag_Mundari nagmundari=Nag_Mundari nand=Nandinagari nandinagari=Nandinagari ",
    "narb=Old_North_Arabian oldnortharabian=Old_North_Arabian nbat=Nabataean ",
    "nabataean=Nabataean newa=Newa nkoo=Nko nko=Nko nshu=Nushu nushu=Nushu ogam=Ogham ",
    "ogham=Ogham olck=Ol_Chiki olchiki=Ol_Chiki onao=Ol_Onal olonal=Ol_Onal orkh=Old_Turkic ",
    "oldturkic=Old_Turkic orya=Oriya oriya=Oriya osge=Osage osage=Osage osma=Osmanya ",
    "osmanya=Osmanya ougr=Old_Uyghur olduyghur=Old_Uyghur palm=Palmyrene palmyrene=Palmyrene ",
    "pauc=Pau_Cin_Hau paucinhau=Pau_Cin_Hau perm=Old_Permic oldpermic=Old_Permic ",
    "phag=Phags_Pa phagspa=Phags_Pa phli=Inscriptional_Pahlavi ",
    "inscriptionalpahlavi=Inscriptional_Pahlavi phlp=Psalter_Pahlavi ",
    "psalterpahlavi=Psalter_Pahlavi phnx=Phoenician phoenician=Phoenician plrd=Miao miao=Miao ",
    "prti=Inscriptional_Parthian inscriptionalparthian=Inscriptional_Parthian rjng=Rejang ",
    "rejang=Rejang rohg=Hanifi_Rohingya hanifirohingya=Hanifi_Rohingya runr=Runic runic=Runic ",
    "samr=Samaritan samaritan=Samaritan sarb=Old_South_Arabian ",
    "oldsoutharabian=Old_South_Arabian saur=Saurashtra saurashtra=Saurashtra sgnw=SignWriting ",
    "signwriting=SignWriting shaw=Shavian shavian=Shavian shrd=Sharada sharada=Sharada ",
    "sidd=Siddham siddham=Siddham sind=Khudawadi khudawadi=Khudawadi sinh=Sinhala ",
    "sinhala=Sinhala sogd=Sogdian sogdian=Sogdian sogo=Old_Sogdian oldsogdian=Old_Sogdian ",
    "sora=Sora_Sompeng sorasompeng=Sora_Sompeng soyo=Soyombo soyombo=Soyombo sund=Sundanese ",
    "sundanese=Sundanese sunu=Sunuwar sunuwar=Sunuwar sylo=Syloti_Nagri ",
    "sylotinagri=Syloti_Nagri syrc=Syriac syriac=Syriac tagb=Tagbanwa tagbanwa=Tagbanwa ",
    "takr=Takri takri=Takri tale=Tai_Le taile=Tai_Le talu=New_Tai_Lue newtailue=New_Tai_Lue ",
    "taml=Tamil tamil=Tamil tang=Tangut tangut=Tangut tavt=Tai_Viet taiviet=Tai_Viet ",
    "telu=Telugu telugu=Telugu tfng=Tifinagh tifinagh=Tifinagh tglg=Tagalog tagalog=Tagalog ",
    "thaa=Thaana thaana=Thaana thai=Thai tibt=Tibetan tibetan=Tibetan tirh=Tirhuta ",
    "tirhuta=Tirhuta tnsa=Tangsa tangsa=Tangsa todr=Todhri todhri=Todhri toto=Toto ",
    "tutg=Tulu_Tigalari tulutigalari=Tulu_Tigalari ugar=Ugaritic ugaritic=Ugaritic vaii=Vai ",
    "vai=Vai vith=Vithkuqi vithkuqi=Vithkuqi wara=Warang_Citi warangciti=Warang_Citi ",
    "wcho=Wancho wancho=Wancho xpeo=Old_Persian oldpersian=Old_Persian xsux=Cuneiform ",
    "cuneiform=Cuneiform yezi=Yezidi yezidi=Yezidi yiii=Yi yi=Yi zanb=Zanabazar_Square ",
    "zanabazarsquare=Zanabazar_Square zinh=Inherited inherited=Inherited qaai=Inherited ",
    "zyyy=Common common=Common zzzz=Unknown unknown=Unknown"]

/-- Version names, written loosely (`1.1` or `V1_1`), and the versions they name. -/
def ageAliasText : String := String.join [
    "1.1=V1_1 v11=V1_1 2.0=V2_0 v20=V2_0 2.1=V2_1 v21=V2_1 3.0=V3_0 v30=V3_0 3.1=V3_1 ",
    "v31=V3_1 3.2=V3_2 v32=V3_2 4.0=V4_0 v40=V4_0 4.1=V4_1 v41=V4_1 5.0=V5_0 v50=V5_0 ",
    "5.1=V5_1 v51=V5_1 5.2=V5_2 v52=V5_2 6.0=V6_0 v60=V6_0 6.1=V6_1 v61=V6_1 6.2=V6_2 ",
    "v62=V6_2 6.3=V6_3 v63=V6_3 7.0=V7_0 v70=V7_0 8.0=V8_0 v80=V8_0 9.0=V9_0 v90=V9_0 ",
    "10.0=V10_0 v100=V10_0 11.0=V11_0 v110=V11_0 12.0=V12_0 v120=V12_0 12.1=V12_1 v121=V12_1 ",
    "13.0=V13_0 v130=V13_0 14.0=V14_0 v140=V14_0 15.0=V15_0 v150=V15_0 15.1=V15_1 v151=V15_1 ",
    "16.0=V16_0 v160=V16_0 na=Unassigned unassigned=Unassigned"]

/-- Grapheme_Cluster_Break values, written loosely, and their long names. -/
def graphemeBreakAliasText : String := String.join [
    "cn=Control control=Control cr=CR eb=E_Base ebase=E_Base ebg=E_Base_GAZ ",
    "ebasegaz=E_Base_GAZ em=E_Modifier emodifier=E_Modifier ex=Extend extend=Extend ",
    "gaz=Glue_After_Zwj glueafterzwj=Glue_After_Zwj l=L lf=LF lv=LV lvt=LVT pp=Prepend ",
    "prepend=Prepend ri=Regional_Indicator regionalindicator=Regional_Indicator ",
    "sm=SpacingMark spacingmark=SpacingMark t=T v=V xx=Other other=Other zwj=ZWJ"]

def wordBreakAliasText : String := String.join [
    "cr=CR dq=Double_Quote doublequote=Double_Quote eb=E_Base ebase=E_Base ebg=E_Base_GAZ ",
    "ebasegaz=E_Base_GAZ em=E_Modifier emodifier=E_Modifier ex=ExtendNumLet ",
    "extendnumlet=ExtendNumLet extend=Extend fo=Format format=Format gaz=Glue_After_Zwj ",
    "glueafterzwj=Glue_After_Zwj hl=Hebrew_Letter hebrewletter=Hebrew_Letter ka=Katakana ",
    "katakana=Katakana le=ALetter aletter=ALetter lf=LF mb=MidNumLet midnumlet=MidNumLet ",
    "ml=MidLetter midletter=MidLetter mn=MidNum midnum=MidNum nl=Newline newline=Newline ",
    "nu=Numeric numeric=Numeric ri=Regional_Indicator regionalindicator=Regional_Indicator ",
    "sq=Single_Quote singlequote=Single_Quote wsegspace=WSegSpace xx=Other other=Other ",
    "zwj=ZWJ"]

def sentenceBreakAliasText : String := String.join [
    "at=ATerm aterm=ATerm cl=Close close=Close cr=CR ex=Extend extend=Extend fo=Format ",
    "format=Format le=OLetter oletter=OLetter lf=LF lo=Lower lower=Lower nu=Numeric ",
    "numeric=Numeric sc=SContinue scontinue=SContinue se=Sep sep=Sep sp=Sp st=STerm ",
    "sterm=STerm up=Upper upper=Upper xx=Other other=Other"]

/-- The entry for a key in an alias table of words `key=value`. -/
def aliasOf? (table key : String) : Option String :=
  (Text.words table).findSome? fun w =>
    match w.splitOn "=" with
    | [k, v] => if k = key then some v else none
    | _ => none

/-- The set of a general category, given loosely, with `Any`, `Assigned` and `ASCII`. -/
def categorySet? (loose : String) : Option CharSet :=
  if loose = "any" then some (.table ⟨#[(0, Text.RangeSet.maxCode)]⟩)
  else if loose = "assigned" then some (.table Text.assignedSet)
  else if loose = "ascii" then some (.table ⟨#[(0, 0x7F)]⟩)
  else (aliasOf? categoryAliasText loose).bind fun short => (Text.generalCategory? short).map .table

/-- The set of a script or of its extensions, given loosely. -/
def scriptSet? (extensions : Bool) (loose : String) : Option CharSet :=
  (aliasOf? scriptAliasText loose).bind fun name =>
    (if extensions then Text.scriptExtension? name else Text.script? name).map .table

/-- The set a bare property name stands for. -/
def namedSet (name : String) : Except Fault CharSet := do
  let loose := looseName name
  if loose != "cf" && loose != "sc" && loose != "lc" then
    if let some canon := aliasOf? propertyAliasText loose then
      return ← match Text.binaryProperty? canon with
        | some r => .ok (.table r)
        | none => .error .unicodePropertyNotFound
  match categorySet? loose with
  | some s => return s
  | none =>
    match scriptSet? false loose with
    | some s => return s
    | none => throw .unicodePropertyNotFound

/-- The set a property given by value stands for. -/
def valuedSet (name value : String) : Except Fault CharSet :=
  let tableSet := fun (aliases : String) (codePoints : String → Option Text.RangeSet) =>
    ((aliasOf? aliases (looseName value)).bind codePoints).map CharSet.table
  let found := fun (s : Option CharSet) =>
    match s with
    | some s => Except.ok s
    | none => .error .unicodePropertyValueNotFound
  match aliasOf? propertyAliasText (looseName name) with
  | none => .error .unicodePropertyNotFound
  | some "General_Category" => found (categorySet? (looseName value))
  | some "Script" => found (scriptSet? false (looseName value))
  | some "Script_Extensions" => found (scriptSet? true (looseName value))
  | some "Age" => found (tableSet ageAliasText Text.assignedBy?)
  | some "Grapheme_Cluster_Break" =>
    found (tableSet graphemeBreakAliasText Text.BreakProperty.grapheme.codePoints?)
  | some "Word_Break" => found (tableSet wordBreakAliasText Text.BreakProperty.word.codePoints?)
  | some "Sentence_Break" =>
    found (tableSet sentenceBreakAliasText Text.BreakProperty.sentence.codePoints?)
  | some _ => .error .unicodePropertyValueNotFound

/-- The set of characters a property class names. -/
def PropertyName.lookup : PropertyName → Except Fault CharSet
  | .letter c => namedSet c.toString
  | .named name => namedSet name
  | .valued _ name value => valuedSet name value

end Conform.Pattern
