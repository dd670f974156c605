import PubSub.Unicode.Runs

/-!
# Directions

Each character has a direction in which it is written, or takes one from its neighbours.

* `Direction.ofChar`: the directional class of a character.
* `Direction.isOrderly`: the rule for labels that stand beside text written from right to left.
-/

namespace PubSub.Unicode.Direction

/-- The directional classes. -/
def table : String :=
  String.join [
    "0BN 9S aB bS cWS dB eBN 1cB 1fS 20WS 21ON 23ET 26ON 2bES 2cCS 2dES 2eCS 30EN 3aCS 3bON 41L 5bON ",
    "61L 7bON 7fBN 85B 86BN a0CS a1ON a2ET a6ON aaL abON adBN aeON b0ET b2EN b4ON b5L b6ON b9EN baL ",
    "bbON c0L d7ON d8L f7ON f8L 2b9ON 2bbL 2c2ON 2d0L 2d2ON 2e0L 2e5ON 2eeL 2efON 300NSM 370L 374ON ",
    "376L 37eON 37fL 384ON 386L 387ON 388L 3f6ON 3f7L 483NSM 48aL 58aON 58bL 58dON 58fET 590R 591NSM ",
    "5beR 5bfNSM 5c0R 5c1NSM 5c3R 5c4NSM 5c6R 5c7NSM 5c8R 600AN 606ON 608AL 609ET 60bAL 60cCS 60dAL ",
    "60eON 610NSM 61bAL 64bNSM 660AN 66aET 66bAN 66dAL 670NSM 671AL 6d6NSM 6ddAN 6deON 6dfNSM 6e5AL ",
    "6e7NSM 6e9ON 6eaNSM 6eeAL 6f0EN 6faAL 711NSM 712AL 730NSM 74bAL 7a6NSM 7b1AL 7c0R 7ebNSM 7f4R ",
    "7f6ON 7faR 7fdNSM 7feR 816NSM 81aR 81bNSM 824R 825NSM 828R 829NSM 82eR 859NSM 85cR 860AL 890AN ",
    "892AL 898NSM 8a0AL 8caNSM 8e2AN 8e3NSM 903L 93aNSM 93bL 93cNSM 93dL 941NSM 949L 94dNSM 94eL ",
    "951NSM 958L 962NSM 964L 981NSM 982L 9bcNSM 9bdL 9c1NSM 9c5L 9cdNSM 9ceL 9e2NSM 9e4L 9f2ET 9f4L ",
    "9fbET 9fcL 9feNSM 9ffL a01NSM a03L a3cNSM a3dL a41NSM a43L a47NSM a49L a4bNSM a4eL a51NSM a52L ",
    "a70NSM a72L a75NSM a76L a81NSM a83L abcNSM abdL ac1NSM ac6L ac7NSM ac9L acdNSM aceL ae2NSM ae4L ",
    "af1ET af2L afaNSM b00L b01NSM b02L b3cNSM b3dL b3fNSM b40L b41NSM b45L b4dNSM b4eL b55NSM b57L ",
    "b62NSM b64L b82NSM b83L bc0NSM bc1L bcdNSM bceL bf3ON bf9ET bfaON bfbL c00NSM c01L c04NSM c05L ",
    "c3cNSM c3dL c3eNSM c41L c46NSM c49L c4aNSM c4eL c55NSM c57L c62NSM c64L c78ON c7fL c81NSM c82L ",
    "cbcNSM cbdL cccNSM cceL ce2NSM ce4L d00NSM d02L d3bNSM d3dL d41NSM d45L d4dNSM d4eL d62NSM d64L ",
    "d81NSM d82L dcaNSM dcbL dd2NSM dd5L dd6NSM dd7L e31NSM e32L e34NSM e3bL e3fET e40L e47NSM e4fL ",
    "eb1NSM eb2L eb4NSM ebdL ec8NSM ecfL f18NSM f1aL f35NSM f36L f37NSM f38L f39NSM f3aON f3eL f71NSM ",
    "f7fL f80NSM f85L f86NSM f88L f8dNSM f98L f99NSM fbdL fc6NSM fc7L 102dNSM 1031L 1032NSM 1038L ",
    "1039NSM 103bL 103dNSM 103fL 1058NSM 105aL 105eNSM 1061L 1071NSM 1075L 1082NSM 1083L 1085NSM ",
    "1087L 108dNSM 108eL 109dNSM 109eL 135dNSM 1360L 1390ON 139aL 1400ON 1401L 1680WS 1681L 169bON ",
    "169dL 1712NSM 1715L 1732NSM 1734L 1752NSM 1754L 1772NSM 1774L 17b4NSM 17b6L 17b7NSM 17beL ",
    "17c6NSM 17c7L 17c9NSM 17d4L 17dbET 17dcL 17ddNSM 17deL 17f0ON 17faL 1800ON 180bNSM 180eBN ",
    "180fNSM 1810L 1885NSM 1887L 18a9NSM 18aaL 1920NSM 1923L 1927NSM 1929L 1932NSM 1933L 1939NSM ",
    "193cL 1940ON 1941L 1944ON 1946L 19deON 1a00L 1a17NSM 1a19L 1a1bNSM 1a1cL 1a56NSM 1a57L 1a58NSM ",
    "1a5fL 1a60NSM 1a61L 1a62NSM 1a63L 1a65NSM 1a6dL 1a73NSM 1a7dL 1a7fNSM 1a80L 1ab0NSM 1acfL ",
    "1b00NSM 1b04L 1b34NSM 1b35L 1b36NSM 1b3bL 1b3cNSM 1b3dL 1b42NSM 1b43L 1b6bNSM 1b74L 1b80NSM ",
    "1b82L 1ba2NSM 1ba6L 1ba8NSM 1baaL 1babNSM 1baeL 1be6NSM 1be7L 1be8NSM 1beaL 1bedNSM 1beeL ",
    "1befNSM 1bf2L 1c2cNSM 1c34L 1c36NSM 1c38L 1cd0NSM 1cd3L 1cd4NSM 1ce1L 1ce2NSM 1ce9L 1cedNSM ",
    "1ceeL 1cf4NSM 1cf5L 1cf8NSM 1cfaL 1dc0NSM 1e00L 1fbdON 1fbeL 1fbfON 1fc2L 1fcdON 1fd0L 1fddON ",
    "1fe0L 1fedON 1ff0L 1ffdON 1fffL 2000WS 200bBN 200eL 200fR 2010ON 2028WS 2029B 202aLRE 202bRLE ",
    "202cPDF 202dLRO 202eRLO 202fCS 2030ET 2035ON 2044CS 2045ON 205fWS 2060BN 2066LRI 2067RLI 2068FSI ",
    "2069PDI 206aBN 2070EN 2071L 2074EN 207aES 207cON 207fL 2080EN 208aES 208cON 208fL 20a0ET 20d0NSM ",
    "20f1L 2100ON 2102L 2103ON 2107L 2108ON 210aL 2114ON 2115L 2116ON 2119L 211eON 2124L 2125ON 2126L ",
    "2127ON 2128L 2129ON 212aL 212eET 212fL 213aON 213cL 2140ON 2145L 214aON 214eL 2150ON 2160L ",
    "2189ON 218cL 2190ON 2212ES 2213ET 2214ON 2336L 237bON 2395L 2396ON 2427L 2440ON 244bL 2460ON ",
    "2488EN 249cL 24eaON 26acL 26adON 2800L 2900ON 2b74L 2b76ON 2b96L 2b97ON 2c00L 2ce5ON 2cebL ",
    "2cefNSM 2cf2L 2cf9ON 2d00L 2d7fNSM 2d80L 2de0NSM 2e00ON 2e5eL 2e80ON 2e9aL 2e9bON 2ef4L 2f00ON ",
    "2fd6L 2ff0ON 2ffcL 3000WS 3001ON 3005L 3008ON 3021L 302aNSM 302eL 3030ON 3031L 3036ON 3038L ",
    "303dON 3040L 3099NSM 309bON 309dL 30a0ON 30a1L 30fbON 30fcL 31c0ON 31e4L 321dON 321fL 3250ON ",
    "3260L 327cON 327fL 32b1ON 32c0L 32ccON 32d0L 3377ON 337bL 33deON 33e0L 33ffON 3400L 4dc0ON 4e00L ",
    "a490ON a4c7L a60dON a610L a66fNSM a673ON a674NSM a67eON a680L a69eNSM a6a0L a6f0NSM a6f2L a700ON ",
    "a722L a788ON a789L a802NSM a803L a806NSM a807L a80bNSM a80cL a825NSM a827L a828ON a82cNSM a82dL ",
    "a838ET a83aL a874ON a878L a8c4NSM a8c6L a8e0NSM a8f2L a8ffNSM a900L a926NSM a92eL a947NSM a952L ",
    "a980NSM a983L a9b3NSM a9b4L a9b6NSM a9baL a9bcNSM a9beL a9e5NSM a9e6L aa29NSM aa2fL aa31NSM ",
    "aa33L aa35NSM aa37L aa43NSM aa44L aa4cNSM aa4dL aa7cNSM aa7dL aab0NSM aab1L aab2NSM aab5L ",
    "aab7NSM aab9L aabeNSM aac0L aac1NSM aac2L aaecNSM aaeeL aaf6NSM aaf7L ab6aON ab6cL abe5NSM abe6L ",
    "abe8NSM abe9L abedNSM abeeL fb1dR fb1eNSM fb1fR fb29ES fb2aR fb50AL fd3eON fd50AL fdcfON fdd0BN ",
    "fdf0AL fdfdON fe00NSM fe10ON fe1aL fe20NSM fe30ON fe50CS fe51ON fe52CS fe53L fe54ON fe55CS ",
    "fe56ON fe5fET fe60ON fe62ES fe64ON fe67L fe68ON fe69ET fe6bON fe6cL fe70AL feffBN ff00L ff01ON ",
    "ff03ET ff06ON ff0bES ff0cCS ff0dES ff0eCS ff10EN ff1aCS ff1bON ff21L ff3bON ff41L ff5bON ff66L ",
    "ffe0ET ffe2ON ffe5ET ffe7L ffe8ON ffefL fff0BN fff9ON fffeBN 10000L 10101ON 10102L 10140ON ",
    "1018dL 10190ON 1019dL 101a0ON 101a1L 101fdNSM 101feL 102e0NSM 102e1EN 102fcL 10376NSM 1037bL ",
    "10800R 1091fON 10920R 10a01NSM 10a04R 10a05NSM 10a07R 10a0cNSM 10a10R 10a38NSM 10a3bR 10a3fNSM ",
    "10a40R 10ae5NSM 10ae7R 10b39ON 10b40R 10d00AL 10d24NSM 10d28AL 10d30AN 10d3aAL 10d40R 10e60AN ",
    "10e7fR 10eabNSM 10eadR 10ec0AL 10efdNSM 10f00R 10f30AL 10f46NSM 10f51AL 10f70R 10f82NSM 10f86R ",
    "11000L 11001NSM 11002L 11038NSM 11047L 11052ON 11066L 11070NSM 11071L 11073NSM 11075L 1107fNSM ",
    "11082L 110b3NSM 110b7L 110b9NSM 110bbL 110c2NSM 110c3L 11100NSM 11103L 11127NSM 1112cL 1112dNSM ",
    "11135L 11173NSM 11174L 11180NSM 11182L 111b6NSM 111bfL 111c9NSM 111cdL 111cfNSM 111d0L 1122fNSM ",
    "11232L 11234NSM 11235L 11236NSM 11238L 1123eNSM 1123fL 11241NSM 11242L 112dfNSM 112e0L 112e3NSM ",
    "112ebL 11300NSM 11302L 1133bNSM 1133dL 11340NSM 11341L 11366NSM 1136dL 11370NSM 11375L 11438NSM ",
    "11440L 11442NSM 11445L 11446NSM 11447L 1145eNSM 1145fL 114b3NSM 114b9L 114baNSM 114bbL 114bfNSM ",
    "114c1L 114c2NSM 114c4L 115b2NSM 115b6L 115bcNSM 115beL 115bfNSM 115c1L 115dcNSM 115deL 11633NSM ",
    "1163bL 1163dNSM 1163eL 1163fNSM 11641L 11660ON 1166dL 116abNSM 116acL 116adNSM 116aeL 116b0NSM ",
    "116b6L 116b7NSM 116b8L 1171dNSM 11720L 11722NSM 11726L 11727NSM 1172cL 1182fNSM 11838L 11839NSM ",
    "1183bL 1193bNSM 1193dL 1193eNSM 1193fL 11943NSM 11944L 119d4NSM 119d8L 119daNSM 119dcL 119e0NSM ",
    "119e1L 11a01NSM 11a07L 11a09NSM 11a0bL 11a33NSM 11a39L 11a3bNSM 11a3fL 11a47NSM 11a48L 11a51NSM ",
    "11a57L 11a59NSM 11a5cL 11a8aNSM 11a97L 11a98NSM 11a9aL 11c30NSM 11c37L 11c38NSM 11c3eL 11c92NSM ",
    "11ca8L 11caaNSM 11cb1L 11cb2NSM 11cb4L 11cb5NSM 11cb7L 11d31NSM 11d37L 11d3aNSM 11d3bL 11d3cNSM ",
    "11d3eL 11d3fNSM 11d46L 11d47NSM 11d48L 11d90NSM 11d92L 11d95NSM 11d96L 11d97NSM 11d98L 11ef3NSM ",
    "11ef5L 11f00NSM 11f02L 11f36NSM 11f3bL 11f40NSM 11f41L 11f42NSM 11f43L 11fd5ON 11fddET 11fe1ON ",
    "11ff2L 13440NSM 13441L 13447NSM 13456L 16af0NSM 16af5L 16b30NSM 16b37L 16f4fNSM 16f50L 16f8fNSM ",
    "16f93L 16fe2ON 16fe3L 16fe4NSM 16fe5L 1bc9dNSM 1bc9fL 1bca0BN 1bca4L 1cf00NSM 1cf2eL 1cf30NSM ",
    "1cf47L 1d167NSM 1d16aL 1d173BN 1d17bNSM 1d183L 1d185NSM 1d18cL 1d1aaNSM 1d1aeL 1d1e9ON 1d1ebL ",
    "1d200ON 1d242NSM 1d245ON 1d246L 1d300ON 1d357L 1d6dbON 1d6dcL 1d715ON 1d716L 1d74fON 1d750L ",
    "1d789ON 1d78aL 1d7c3ON 1d7c4L 1d7ceEN 1d800L 1da00NSM 1da37L 1da3bNSM 1da6dL 1da75NSM 1da76L ",
    "1da84NSM 1da85L 1da9bNSM 1daa0L 1daa1NSM 1dab0L 1e000NSM 1e007L 1e008NSM 1e019L 1e01bNSM 1e022L ",
    "1e023NSM 1e025L 1e026NSM 1e02bL 1e08fNSM 1e090L 1e130NSM 1e137L 1e2aeNSM 1e2afL 1e2ecNSM 1e2f0L ",
    "1e2ffET 1e300L 1e4ecNSM 1e4f0L 1e800R 1e8d0NSM 1e8d7R 1e944NSM 1e94bR 1ec70AL 1ecc0R 1ed00AL ",
    "1ed50R 1ee00AL 1eef0ON 1eef2AL 1ef00R 1f000ON 1f02cL 1f030ON 1f094L 1f0a0ON 1f0afL 1f0b1ON ",
    "1f0c0L 1f0c1ON 1f0d0L 1f0d1ON 1f0f6L 1f100EN 1f10bON 1f110L 1f12fON 1f130L 1f16aON 1f170L ",
    "1f1adON 1f1aeL 1f260ON 1f266L 1f300ON 1f6d8L 1f6dcON 1f6edL 1f6f0ON 1f6fdL 1f700ON 1f777L ",
    "1f77bON 1f7daL 1f7e0ON 1f7ecL 1f7f0ON 1f7f1L 1f800ON 1f80cL 1f810ON 1f848L 1f850ON 1f85aL ",
    "1f860ON 1f888L 1f890ON 1f8aeL 1f8b0ON 1f8b2L 1f900ON 1fa54L 1fa60ON 1fa6eL 1fa70ON 1fa7dL ",
    "1fa80ON 1fa89L 1fa90ON 1fabeL 1fabfON 1fac6L 1faceON 1fadcL 1fae0ON 1fae9L 1faf0ON 1faf9L ",
    "1fb00ON 1fb93L 1fb94ON 1fbcbL 1fbf0EN 1fbfaL 1fffeBN 20000L 2fffeBN 30000L 3fffeBN 40000L ",
    "4fffeBN 50000L 5fffeBN 60000L 6fffeBN 70000L 7fffeBN 80000L 8fffeBN 90000L 9fffeBN a0000L ",
    "afffeBN b0000L bfffeBN c0000L cfffeBN d0000L dfffeBN e0100NSM e01f0BN e1000L efffeBN f0000L ",
    "ffffeBN 100000L 10fffeBN 110000L"]

/-- The directional classes of all code points. -/
def runs : Runs String := .ofText String.ofList table

/-- The directional class of a character. -/
def ofChar (c : Char) : String := (runs.at? c.toNat).getD "L"

/-- Whether a character calls for the rule. -/
def isRightToLeft (c : Char) : Bool := ["R", "AL", "AN"].contains (ofChar c)

/-- The last class that is not that of a mark. -/
def lastClass (classes : List String) : Option String := (classes.filter (· != "NSM")).getLast?

/-- The rule for a label, by its classes: it starts with a letter and holds only what goes with its direction; it ends,
marks apart, in a letter or a digit of that direction; and it does not mix the two kinds of digits. -/
def isOrderlyRow (classes : List String) : Bool :=
  match classes with
  | [] => true
  | first :: _ =>
    let neutral := ["EN", "ES", "CS", "ET", "ON", "BN", "NSM"]
    let last := (lastClass classes).getD ""
    if first == "R" || first == "AL" then
      classes.all (fun k => (["R", "AL", "AN"] ++ neutral).contains k) && ["R", "AL", "EN", "AN"].contains last &&
        !(classes.contains "EN" && classes.contains "AN")
    else if first == "L" then
      classes.all (fun k => ("L" :: neutral).contains k) && ["L", "EN"].contains last
    else false

/-- The rule for a label. -/
def isOrderly (label : List Char) : Bool := isOrderlyRow (label.map ofChar)

end PubSub.Unicode.Direction
