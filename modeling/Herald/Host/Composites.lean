/-!
# Characters made of two others

For each second character the first ones it joins with, and what they make
together, in the same order.
-/

namespace Herald

namespace Composites

/-- Second characters, first characters and composites. -/
def listed : List (Nat × String × String) :=
  [(0x300, "aeinouwyâêôüăēōơưαεηιουωϊϋеиἀἁἐἑἠἡἰἱὀὁ", "àèìǹòùẁỳầềồǜằḕṑờừὰὲὴὶὸὺὼῒῢѐѝἂἃἒἓἢἣἲἳὂὃ"),
  (0x300, "ὐὑὠὡ", "ὒὓὢὣ"),
  (0x301, "acegiklmnoprsuwyzâåæçêïôõøüăēōũơưαεηιο", "áćéǵíḱĺḿńóṕŕśúẃýźấǻǽḉếḯốṍǿǘắḗṓṹớứάέήίό"),
  (0x301, "υωϊϋгкἀἁἐἑἠἡἰἱὀὁὐὑὠὡ", "ύώΐΰѓќἄἅἔἕἤἥἴἵὄὅὔὕὤὥ"),
  (0x302, "aceghijosuwyzạẹọ", "âĉêĝĥîĵôŝûŵŷẑậệộ"), (0x303, "aeinouvyâêôăơư", "ãẽĩñõũṽỹẫễỗẵỡữ"),
  (0x304, "aegiouyäæõöüǫȧȯαιυиуḷṛ", "āēḡīōūȳǟǣȭȫǖǭǡȱᾱῑῡӣӯḹṝ"),
  (0x306, "aegiouȩαιυаежиуạ", "ăĕğĭŏŭḝᾰῐῠӑӗӂйўặ"),
  (0x307, "abcdefghmnoprstwxyzśšṣ𐗒𐗚", "ȧḃċḋėḟġḣṁṅȯṗṙṡṫẇẋẏżṥṧṩ𐗉𐗤"),
  (0x308, "aehiotuwxyõūιυаежзиоучыэіәө", "äëḧïöẗüẅẍÿṏṻϊϋӓёӝӟӥӧӱӵӹӭїӛӫ"),
  (0x309, "aeiouyâêôăơư", "ảẻỉỏủỷẩểổẳởử"), (0x30a, "auwy", "åůẘẙ"), (0x30b, "ouу", "őűӳ"),
  (0x30c, "acdeghijklnorstuzüʒ", "ǎčďěǧȟǐǰǩľňǒřšťǔžǚǯ"), (0x30f, "aeioruѵ", "ȁȅȉȍȑȕѷ"),
  (0x311, "aeioru", "ȃȇȋȏȓȗ"), (0x313, "αεηιορυω", "ἀἐἠἰὀῤὐὠ"), (0x314, "αεηιορυω", "ἁἑἡἱὁῥὑὡ"),
  (0x31b, "ou", "ơư"), (0x323, "abdehiklmnorstuvwyzơư", "ạḅḍẹḥịḳḷṃṇọṛṣṭụṿẉỵẓợự"),
  (0x324, "u", "ṳ"), (0x325, "a", "ḁ"), (0x326, "st", "șț"), (0x327, "cdeghklnrst", "çḑȩģḩķļņŗşţ"),
  (0x328, "aeiou", "ąęįǫų"), (0x32d, "delntu", "ḓḙḽṋṱṷ"), (0x32e, "h", "ḫ"), (0x330, "eiu", "ḛḭṵ"),
  (0x331, "bdhklnrtz", "ḇḏẖḵḻṉṟṯẕ"),
  (0x338, "<=>←→↔⇐⇒⇔∃∈∋∣∥∼≃≅≈≍≡≤≥≲≳≶≷≺≻≼≽⊂⊃⊆⊇⊑⊒⊢⊨", "≮≠≯↚↛↮⇍⇏⇎∄∉∌∤∦≁≄≇≉≭≢≰≱≴≵≸≹⊀⊁⋠⋡⊄⊅⊈⊉⋢⋣⊬⊭"),
  (0x338, "⊩⊫⊲⊳⊴⊵", "⊮⊯⋪⋫⋬⋭"), (0x342, "αηιυωϊϋἀἁἠἡἰἱὐὑὠὡ", "ᾶῆῖῦῶῗῧἆἇἦἧἶἷὖὗὦὧ"),
  (0x653, "\u0627", "\u0622"),
  (0x654, "\u0627\u0648\u064a\u06c1\u06d2\u06d5", "\u0623\u0624\u0626\u06c2\u06d3\u06c0"),
  (0x655, "\u0627", "\u0625"), (0x93c, "नरळ", "ऩऱऴ"), (0x9be, "\u09c7", "\u09cb"),
  (0x9d7, "\u09c7", "\u09cc"), (0xb3e, "\u0b47", "\u0b4b"), (0xb56, "\u0b47", "\u0b48"),
  (0xb57, "\u0b47", "\u0b4c"), (0xbbe, "\u0bc6\u0bc7", "\u0bca\u0bcb"),
  (0xbd7, "ஒ\u0bc6", "ஔ\u0bcc"), (0xc56, "\u0c46", "\u0c48"), (0xcc2, "\u0cc6", "\u0cca"),
  (0xcd5, "\u0cbf\u0cc6\u0cca", "\u0cc0\u0cc7\u0ccb"), (0xcd6, "\u0cc6", "\u0cc8"),
  (0xd3e, "\u0d46\u0d47", "\u0d4a\u0d4b"), (0xd57, "\u0d46", "\u0d4c"),
  (0xdca, "\u0dd9\u0ddc", "\u0dda\u0ddd"), (0xdcf, "\u0dd9", "\u0ddc"),
  (0xddf, "\u0dd9", "\u0dde"), (0x102e, "ဥ", "ဦ"),
  (0x1b35, "ᬅᬇᬉᬋᬍᬑ\u1b3a\u1b3c\u1b3e\u1b3f\u1b42", "ᬆᬈᬊᬌᬎᬒ\u1b3b\u1b3d\u1b40\u1b41\u1b43"),
  (0x3099, "うかきくけこさしすせそたちつてとはひふへほゝウカキクケコサシスセソタチツテト", "ゔがぎぐげござじずぜぞだぢづでどばびぶべぼゞヴガギグゲゴザジズゼゾダヂヅデド"),
  (0x3099, "ハヒフヘホワヰヱヲヽ", "バビブベボヷヸヹヺヾ"), (0x309a, "はひふへほハヒフヘホ", "ぱぴぷぺぽパピプペポ"),
  (0x110ba, "𑂙𑂛𑂥", "𑂚𑂜𑂫"), (0x11127, "𑄱𑄲", "𑄮𑄯"), (0x1133e, "𑍇", "𑍋"), (0x11357, "𑍇", "𑍌"),
  (0x113b8, "𑏂", "𑏇"), (0x113bb, "𑎄", "𑎅"), (0x113c2, "𑎎", "𑎎𑏅"), (0x113c9, "𑎂𑎐𑏂", "𑎃𑎑𑏈"),
  (0x114b0, "𑒹", "𑒼"), (0x114ba, "𑒹", "𑒻"), (0x114bd, "𑒹", "𑒾"), (0x115af, "𑖸𑖹", "𑖺𑖻"),
  (0x11930, "𑤵", "𑤸"), (0x1611e, "𖄞", "𖄡"), (0x1611f, "𖄡𖄡𖄩𖄩", "𖄣𖄦𖄧𖄤"), (0x16120, "𖄡𖄞", "𖄥𖄨"),
  (0x16129, "𖄞", "𖄢"), (0x16d67, "𖵩𖵩", "𖵪𖵧𖵪")]

/-- What two characters make together by the list. -/
def listed? (a b : Char) : Option Char :=
  listed.findSome? fun g =>
    if g.1 = b.toNat then
      ((g.2.1.toList.zip g.2.2.toList).find? fun p => p.1 == a).map Prod.snd
    else none

/-- The two characters of which one is made, by the list. -/
def parts? (c : Char) : Option (Char × Char) :=
  listed.findSome? fun g =>
    ((g.2.1.toList.zip g.2.2.toList).find? fun p => p.2 == c).map fun p =>
      (p.1, Char.ofNat g.1)

end Composites

end Herald
