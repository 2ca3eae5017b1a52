/-! # What the characters of a name are read as

The case and the shape of a character do not count in a domain name: a capital letter is read as a
small one, a wide letter as a narrow one, and a sign that stands for several letters as those
letters. The tables say as what, for every character that is not read as itself.

* `foldRuns`   letters that follow one another, as letters that follow one another
* `foldIdeographs`   ideographs, each as one ideograph
* `foldTexts`   all others, each as some characters
* `passedOver`   characters that are read as nothing
* `unnamed`   printable characters that no name can hold -/

namespace Nodewright.Url

/-- Letters in runs: the first and the last letter of a run, the step between letters, and the first
    letter that they are read as. -/
def foldRuns : List (Nat × Nat × Nat × Nat) := [
  (0x41, 0x5a, 1, 0x61), (0xc0, 0xd6, 1, 0xe0), (0xd8, 0xde, 1, 0xf8), (0x100, 0x12e, 2, 0x101),
  (0x139, 0x13d, 2, 0x13a), (0x141, 0x147, 2, 0x142), (0x14a, 0x176, 2, 0x14b),
  (0x179, 0x17d, 2, 0x17a), (0x1a0, 0x1a4, 2, 0x1a1), (0x1cd, 0x1db, 2, 0x1ce),
  (0x1de, 0x1ee, 2, 0x1df), (0x1f8, 0x21e, 2, 0x1f9), (0x222, 0x232, 2, 0x223),
  (0x246, 0x24e, 2, 0x247), (0x388, 0x38a, 1, 0x3ad), (0x391, 0x3a1, 1, 0x3b1),
  (0x3a3, 0x3ab, 1, 0x3c3), (0x3d8, 0x3ee, 2, 0x3d9), (0x3fd, 0x3ff, 1, 0x37b),
  (0x400, 0x40f, 1, 0x450), (0x410, 0x42f, 1, 0x430), (0x460, 0x480, 2, 0x461),
  (0x48a, 0x4be, 2, 0x48b), (0x4c1, 0x4cd, 2, 0x4c2), (0x4d0, 0x52e, 2, 0x4d1),
  (0x531, 0x556, 1, 0x561), (0x10a0, 0x10c5, 1, 0x2d00), (0x13f8, 0x13fd, 1, 0x13f0),
  (0x1c90, 0x1cba, 1, 0x10d0), (0x1cbd, 0x1cbf, 1, 0x10fd), (0x1d31, 0x1d39, 2, 0x65),
  (0x1d34, 0x1d3a, 2, 0x68), (0x1d5d, 0x1d5f, 1, 0x3b2), (0x1da4, 0x1da6, 1, 0x268),
  (0x1dae, 0x1db1, 1, 0x272), (0x1dbc, 0x1dbe, 1, 0x290), (0x1e00, 0x1e94, 2, 0x1e01),
  (0x1ea0, 0x1efe, 2, 0x1ea1), (0x1f08, 0x1f0f, 1, 0x1f00), (0x1f18, 0x1f1d, 1, 0x1f10),
  (0x1f28, 0x1f2f, 1, 0x1f20), (0x1f38, 0x1f3f, 1, 0x1f30), (0x1f48, 0x1f4d, 1, 0x1f40),
  (0x1f59, 0x1f5f, 2, 0x1f51), (0x1f68, 0x1f6f, 1, 0x1f60), (0x2074, 0x2079, 1, 0x34),
  (0x2080, 0x2089, 1, 0x30), (0x2096, 0x2099, 1, 0x6b), (0x2119, 0x211b, 1, 0x70),
  (0x2135, 0x2138, 1, 0x5d0), (0x2460, 0x2468, 1, 0x31), (0x24b6, 0x24cf, 1, 0x61),
  (0x24d0, 0x24e9, 1, 0x61), (0x2c00, 0x2c2f, 1, 0x2c30), (0x2c67, 0x2c6b, 2, 0x2c68),
  (0x2c80, 0x2ce2, 2, 0x2c81), (0x3137, 0x3139, 1, 0x1103), (0x313a, 0x313f, 1, 0x11b0),
  (0x3141, 0x3143, 1, 0x1106), (0x3145, 0x314e, 1, 0x1109), (0x314f, 0x3163, 1, 0x1161),
  (0x3178, 0x317c, 1, 0x112b), (0x3184, 0x3186, 1, 0x1157), (0x3263, 0x3265, 1, 0x1105),
  (0x3269, 0x326d, 1, 0x110e), (0x32e4, 0x32e9, 1, 0x30ca), (0x32ee, 0x32f2, 1, 0x30de),
  (0x32f5, 0x32fa, 1, 0x30e8), (0x32fb, 0x32fe, 1, 0x30ef), (0xa640, 0xa66c, 2, 0xa641),
  (0xa680, 0xa69a, 2, 0xa681), (0xa722, 0xa72e, 2, 0xa723), (0xa732, 0xa76e, 2, 0xa733),
  (0xa77e, 0xa786, 2, 0xa77f), (0xa796, 0xa7a8, 2, 0xa797), (0xa7b4, 0xa7c2, 2, 0xa7b5),
  (0xa7cc, 0xa7da, 2, 0xa7cd), (0xab70, 0xabbf, 1, 0x13a0), (0xfb24, 0xfb26, 1, 0x5db),
  (0xfe41, 0xfe44, 1, 0x300c), (0xff01, 0xff20, 1, 0x21), (0xff21, 0xff3a, 1, 0x61),
  (0xff3b, 0xff5e, 1, 0x5b), (0xff85, 0xff8a, 1, 0x30ca), (0xff8f, 0xff93, 1, 0x30de),
  (0xff96, 0xff9b, 1, 0x30e8), (0xffa7, 0xffa9, 1, 0x1103), (0xffaa, 0xffaf, 1, 0x11b0),
  (0xffb1, 0xffb3, 1, 0x1106), (0xffb5, 0xffbe, 1, 0x1109), (0xffc2, 0xffc7, 1, 0x1161),
  (0xffca, 0xffcf, 1, 0x1167), (0xffd2, 0xffd7, 1, 0x116d), (0xffda, 0xffdc, 1, 0x1173),
  (0xffe9, 0xffec, 1, 0x2190), (0x10400, 0x10427, 1, 0x10428), (0x104b0, 0x104d3, 1, 0x104d8),
  (0x10570, 0x10594, 2, 0x10597), (0x10571, 0x10579, 2, 0x10598), (0x1057d, 0x10589, 2, 0x105a4),
  (0x1058d, 0x10591, 2, 0x105b4), (0x107b6, 0x107b8, 1, 0x1c0), (0x10c80, 0x10cb2, 1, 0x10cc0),
  (0x10d50, 0x10d65, 1, 0x10d70), (0x118a0, 0x118bf, 1, 0x118c0), (0x16e40, 0x16e5f, 1, 0x16e60),
  (0x16ea0, 0x16eb8, 1, 0x16ebb), (0x1ccd6, 0x1ccef, 1, 0x61), (0x1ccf0, 0x1ccf9, 1, 0x30),
  (0x1d400, 0x1d419, 1, 0x61), (0x1d41a, 0x1d433, 1, 0x61), (0x1d434, 0x1d44d, 1, 0x61),
  (0x1d44e, 0x1d466, 2, 0x61), (0x1d44f, 0x1d453, 2, 0x62), (0x1d457, 0x1d467, 2, 0x6a),
  (0x1d468, 0x1d481, 1, 0x61), (0x1d482, 0x1d49b, 1, 0x61), (0x1d4a9, 0x1d4ac, 1, 0x6e),
  (0x1d4ae, 0x1d4b5, 1, 0x73), (0x1d4b6, 0x1d4b9, 1, 0x61), (0x1d4bb, 0x1d4cf, 2, 0x66),
  (0x1d4be, 0x1d4c2, 2, 0x69), (0x1d4c6, 0x1d4ce, 2, 0x71), (0x1d4d0, 0x1d4e9, 1, 0x61),
  (0x1d4ea, 0x1d503, 1, 0x61), (0x1d505, 0x1d509, 2, 0x62), (0x1d50d, 0x1d514, 1, 0x6a),
  (0x1d516, 0x1d51c, 1, 0x73), (0x1d51e, 0x1d537, 1, 0x61), (0x1d539, 0x1d53d, 2, 0x62),
  (0x1d53c, 0x1d546, 2, 0x65), (0x1d54a, 0x1d550, 1, 0x73), (0x1d552, 0x1d56b, 1, 0x61),
  (0x1d56c, 0x1d585, 1, 0x61), (0x1d586, 0x1d59f, 1, 0x61), (0x1d5a0, 0x1d5b9, 1, 0x61),
  (0x1d5ba, 0x1d5d3, 1, 0x61), (0x1d5d4, 0x1d5ed, 1, 0x61), (0x1d5ee, 0x1d607, 1, 0x61),
  (0x1d608, 0x1d621, 1, 0x61), (0x1d622, 0x1d63b, 1, 0x61), (0x1d63c, 0x1d655, 1, 0x61),
  (0x1d656, 0x1d66f, 1, 0x61), (0x1d670, 0x1d689, 1, 0x61), (0x1d68a, 0x1d6a3, 1, 0x61),
  (0x1d6a8, 0x1d6b8, 1, 0x3b1), (0x1d6ba, 0x1d6c0, 1, 0x3c3), (0x1d6c2, 0x1d6d2, 1, 0x3b1),
  (0x1d6d4, 0x1d6da, 1, 0x3c3), (0x1d6e2, 0x1d6f2, 1, 0x3b1), (0x1d6f4, 0x1d6fa, 1, 0x3c3),
  (0x1d6fc, 0x1d70c, 1, 0x3b1), (0x1d70e, 0x1d714, 1, 0x3c3), (0x1d71c, 0x1d72c, 1, 0x3b1),
  (0x1d72e, 0x1d734, 1, 0x3c3), (0x1d736, 0x1d746, 1, 0x3b1), (0x1d748, 0x1d74e, 1, 0x3c3),
  (0x1d756, 0x1d766, 1, 0x3b1), (0x1d768, 0x1d76e, 1, 0x3c3), (0x1d770, 0x1d780, 1, 0x3b1),
  (0x1d782, 0x1d788, 1, 0x3c3), (0x1d790, 0x1d7a0, 1, 0x3b1), (0x1d7a2, 0x1d7a8, 1, 0x3c3),
  (0x1d7aa, 0x1d7ba, 1, 0x3b1), (0x1d7bc, 0x1d7c2, 1, 0x3c3), (0x1d7ce, 0x1d7d7, 1, 0x30),
  (0x1d7d8, 0x1d7e1, 1, 0x30), (0x1d7e2, 0x1d7eb, 1, 0x30), (0x1d7ec, 0x1d7f5, 1, 0x30),
  (0x1d7f6, 0x1d7ff, 1, 0x30), (0x1e030, 0x1e038, 1, 0x430), (0x1e039, 0x1e03b, 1, 0x43a),
  (0x1e03c, 0x1e046, 1, 0x43e), (0x1e051, 0x1e059, 1, 0x430), (0x1e05f, 0x1e064, 1, 0x443),
  (0x1e900, 0x1e921, 1, 0x1e922), (0x1ee0a, 0x1ee0d, 1, 0x643), (0x1ee2a, 0x1ee2d, 1, 0x643),
  (0x1ee8b, 0x1ee8d, 1, 0x644), (0x1eeab, 0x1eead, 1, 0x644), (0x1f130, 0x1f149, 1, 0x61),
  (0x1fbf0, 0x1fbf9, 1, 0x30)]

/-- Ideographs that follow one another: the first one, and as what each of them is read. -/
def foldIdeographs : List (Nat × String) := [
  (0x2329, "〈〉"),
  (0x2e9f, "母"),
  (0x2ef3, "龟"),
  (0x2f00, "一丨丶丿乙亅二亠人儿入八冂冖冫几凵刀力勹匕匚匸十卜卩厂厶又口囗土士夂夊夕大女" ++
    "子宀寸小尢尸屮山巛工己巾干幺广廴廾弋弓彐彡彳心戈戶手支攴文斗斤方无日曰月木欠止歹殳毋比" ++
    "毛氏气水火爪父爻爿片牙牛犬玄玉瓜瓦甘生用田疋疒癶白皮皿目矛矢石示禸禾穴立竹米糸缶网羊羽" ++
    "老而耒耳聿肉臣自至臼舌舛舟艮色艸虍虫血行衣襾見角言谷豆豕豸貝赤走足身車辛辰辵邑酉釆里金" ++
    "長門阜隶隹雨靑非面革韋韭音頁風飛食首香馬骨高髟鬥鬯鬲鬼魚鳥鹵鹿麥麻黃黍黑黹黽鼎鼓鼠鼻齊" ++
    "齒龍龜龠"),
  (0x3036, "〒"),
  (0x3038, "十卄卅"),
  (0x3192, "一二三四上中下甲乙丙丁天地人"),
  (0x3244, "問幼文箏"),
  (0x3280, "一二三四五六七八九十月火水木金土日株有社名特財祝労秘男女適優印注項休写正上中" ++
    "下左右医宗学監企資協夜"),
  (0xf900, "豈更車賈滑串句龜龜契金喇奈懶癩羅蘿螺裸邏樂洛烙珞落酪駱亂卵欄爛蘭鸞嵐濫藍襤拉" ++
    "臘蠟廊朗浪狼郎來冷勞擄櫓爐盧老蘆虜路露魯鷺碌祿綠菉錄鹿論壟弄籠聾牢磊賂雷壘屢樓淚漏累縷" ++
    "陋勒肋凜凌稜綾菱陵讀拏樂諾丹寧怒率異北磻便復不泌數索參塞省葉說殺辰沈拾若掠略亮兩凉梁糧" ++
    "良諒量勵呂女廬旅濾礪閭驪麗黎力曆歷轢年憐戀撚漣煉璉秊練聯輦蓮連鍊列劣咽烈裂說廉念捻殮簾" ++
    "獵令囹寧嶺怜玲瑩羚聆鈴零靈領例禮醴隸惡了僚寮尿料樂燎療蓼遼龍暈阮劉杻柳流溜琉留硫紐類六" ++
    "戮陸倫崙淪輪律慄栗率隆利吏履易李梨泥理痢罹裏裡里離匿溺吝燐璘藺隣鱗麟林淋臨立笠粒狀炙識" ++
    "什茶刺切度拓糖宅洞暴輻行降見廓兀嗀"),
  (0xfa10, "塚"),
  (0xfa12, "晴"),
  (0xfa15, "凞猪益礼神祥福靖精羽"),
  (0xfa20, "蘒"),
  (0xfa22, "諸"),
  (0xfa25, "逸都"),
  (0xfa2a, "飯飼館鶴郞隷侮僧免勉勤卑喝嘆器塀墨層屮悔慨憎懲敏既暑梅海渚漢煮爫琢碑社祉祈祐" ++
    "祖祝禍禎穀突節練縉繁署者臭艹艹著褐視謁謹賓贈辶逸難響頻恵𤋮舘"),
  (0xfa70, "並况全侀充冀勇勺喝啕喙嗢塚墳奄奔婢嬨廒廙彩徭惘慎愈憎慠懲戴揄搜摒敖晴朗望杖歹" ++
    "殺流滛滋漢瀞煮瞧爵犯猪瑱甆画瘝瘟益盛直睊着磌窱節类絛練缾者荒華蝹襁覆視調諸請謁諾諭謹變" ++
    "贈輸遲醙鉶陼難靖韛響頋頻鬒龜𢡊𢡄𣏕㮝䀘䀹𥉉𥳐𧻓齃龎"),
  (0xfe17, "〖〗"),
  (0xfe39, "〔〕【】《》〈〉"),
  (0xfe5d, "〔〕"),
  (0xff62, "「」"),
  (0x1f210, "手字双"),
  (0x1f214, "二多解天交映無料前後再新初終生販声吹演投捕一三遊左中右指走打禁空合満有月申割" ++
    "営配"),
  (0x1f250, "得可"),
  (0x2f800, "丽丸乁𠄢你侮侻倂偺備僧像㒞𠘺免兔兤具𠔜㒹內再𠕋冗冤仌冬况𩇟凵刃㓟刻剆割剷㔕勇" ++
    "勉勤勺包匆北卉卑博即卽卿卿卿𠨬灰及叟𠭣叫叱吆咞吸呈周咢哶唐啓啣善善喙喫喳嗂圖嘆圗噑噴切" ++
    "壮城埴堍型堲報墬𡓤売壷夆多夢奢𡚨𡛪姬娛娧姘婦㛮㛼嬈嬾嬾𡧈寃寘寧寳𡬘寿将当尢㞁屠屮峀岍𡷤" ++
    "嵃𡷦嵮嵫嵼巡巢㠯巽帨帽幩㡢𢆃㡼庰庳庶廊𪎒廾𢌱𢌱舁弢弢㣇𣊸𦇚形彫㣣徚忍志忹悁㤺㤜悔𢛔惇慈" ++
    "慌慎慌慺憎憲憤憯懞懲懶成戛扝抱拔捐𢬌挽拼捨掃揤𢯱搢揅掩㨮摩摾撝摷㩬敏敬𣀊旣書晉㬙暑㬈㫤" ++
    "冒冕最暜肭䏙朗望朡杞杓𣏃㭉柺枅桒梅𣑭梎栟椔㮝楂榣槪檨𣚣櫛㰘次𣢧歔㱎歲殟殺殻𣪍𡴋𣫺汎𣲼沿" ++
    "泍汧洖派海流浩浸涅𣴞洴港湮㴳滋滇𣻑淹潮𣽞𣾎濆瀹瀞瀛㶖灊災灷炭𠔥煅𤉣熜𤎫爨爵牐𤘈犀犕𤜵𤠔" ++
    "獺王㺬玥㺸㺸瑇瑜瑱璅瓊㼛甤𤰶甾𤲒異𢆟瘐𤾡𤾸𥁄㿼䀈直𥃳𥃲𥄙𥄳眞真真睊䀹瞋䁆䂖𥐝硎碌磌䃣𥘦" ++
    "祖𥚚𥛅福秫䄯穀穊穏𥥼𥪧𥪧竮䈂𥮫篆築䈧𥲀糒䊠糨糣紀𥾆絣䌁緇縂繅䌴𦈨𦉇䍙𦋙罺𦌾羕翺者𦓚𦔣聠" ++
    "𦖨聰𣍟䏕育脃䐋脾媵𦞧𦞵𣎓𣎜舁舄辞䑫芑芋芝劳花芳芽苦𦬼若茝荣莭茣莽菧著荓菊菌菜𦰶𦵫𦳕䔫蓱" ++
    "蓳蔖𧏊蕤𦼬䕝䕡𦾱𧃒䕫虐虜虧虩蚩蚈蜎蛢蝹蜨蝫螆䗗蟡蠁䗹衠衣𧙧裗裞䘵裺㒻𧢮𧥦䚾䛇誠諭變豕𧲨" ++
    "貫賁贛起𧼯𠠄跋趼跰𠣞軔輸𨗒𨗭邔郱鄑𨜮鄛鈸鋗鋘鉼鏹鐕𨯺開䦕閷𨵷䧦雃嶲霣𩅅𩈚䩮䩶韠𩐊䪲𩒖頋" ++
    "頋頩𩖶飢䬳餩馧駂駾䯎𩬰鬒鱀鳽䳎䳭鵧𪃎䳸𪄅𪈎𪊑麻䵖黹黾鼅鼏鼖鼻𪘀")]

/-- Letters of the alphabets. -/
def foldLetters : List (Nat × List (List Nat)) := [
  (0xa0, [[0x20]]),
  (0xa8, [[0x20, 0x308]]),
  (0xaa, [[0x61]]),
  (0xaf, [[0x20, 0x304]]),
  (0xb2, [[0x32], [0x33], [0x20, 0x301], [0x3bc]]),
  (0xb8, [[0x20, 0x327], [0x31], [0x6f]]),
  (0xbc, [[0x31, 0x2044, 0x34], [0x31, 0x2044, 0x32], [0x33, 0x2044, 0x34]]),
  (0x130, [[0x69, 0x307]]),
  (0x132, [[0x69, 0x6a], [0x69, 0x6a], [0x135]]),
  (0x136, [[0x137]]),
  (0x13f, [[0x6c, 0xb7], [0x6c, 0xb7]]),
  (0x149, [[0x2bc, 0x6e]]),
  (0x178, [[0xff]]),
  (0x17f, [[0x73]]),
  (0x181, [[0x253], [0x183]]),
  (0x184, [[0x185]]),
  (0x186, [[0x254], [0x188]]),
  (0x189, [[0x256], [0x257], [0x18c]]),
  (0x18e, [[0x1dd], [0x259], [0x25b], [0x192]]),
  (0x193, [[0x260], [0x263]]),
  (0x196, [[0x269], [0x268], [0x199]]),
  (0x19c, [[0x26f], [0x272]]),
  (0x19f, [[0x275]]),
  (0x1a6, [[0x280], [0x1a8]]),
  (0x1a9, [[0x283]]),
  (0x1ac, [[0x1ad]]),
  (0x1ae, [[0x288], [0x1b0]]),
  (0x1b1, [[0x28a], [0x28b], [0x1b4]]),
  (0x1b5, [[0x1b6]]),
  (0x1b7, [[0x292], [0x1b9]]),
  (0x1bc, [[0x1bd]]),
  (0x1c4, [
    [0x64, 0x17e], [0x64, 0x17e], [0x64, 0x17e], [0x6c, 0x6a], [0x6c, 0x6a], [0x6c, 0x6a],
    [0x6e, 0x6a], [0x6e, 0x6a], [0x6e, 0x6a]]),
  (0x1f1, [[0x64, 0x7a], [0x64, 0x7a], [0x64, 0x7a], [0x1f5]]),
  (0x1f6, [[0x195], [0x1bf]]),
  (0x220, [[0x19e]]),
  (0x23a, [[0x2c65], [0x23c]]),
  (0x23d, [[0x19a], [0x2c66]]),
  (0x241, [[0x242]]),
  (0x243, [[0x180], [0x289], [0x28c]]),
  (0x2b0, [[0x68], [0x266], [0x6a], [0x72], [0x279], [0x27b], [0x281], [0x77], [0x79]]),
  (0x2d8, [
    [0x20, 0x306], [0x20, 0x307], [0x20, 0x30a], [0x20, 0x328], [0x20, 0x303], [0x20, 0x30b]]),
  (0x2e0, [[0x263], [0x6c], [0x73], [0x78], [0x295]]),
  (0x340, [[0x300], [0x301]]),
  (0x343, [[0x313], [0x308, 0x301], [0x3b9]]),
  (0x370, [[0x371]]),
  (0x372, [[0x373]]),
  (0x374, [[0x2b9]]),
  (0x376, [[0x377]]),
  (0x37a, [[0x20, 0x3b9]]),
  (0x37e, [[0x3b], [0x3f3]]),
  (0x384, [[0x20, 0x301], [0x20, 0x308, 0x301], [0x3ac], [0xb7]]),
  (0x38c, [[0x3cc]]),
  (0x38e, [[0x3cd], [0x3ce]]),
  (0x3cf, [[0x3d7], [0x3b2], [0x3b8], [0x3c5], [0x3cd], [0x3cb], [0x3c6], [0x3c0]]),
  (0x3f0, [[0x3ba], [0x3c1], [0x3c3]]),
  (0x3f4, [[0x3b8], [0x3b5]]),
  (0x3f7, [[0x3f8]]),
  (0x3f9, [[0x3c3], [0x3fb]]),
  (0x4c0, [[0x4cf]]),
  (0x587, [[0x565, 0x582]]),
  (0x675, [[0x627, 0x674], [0x648, 0x674], [0x6c7, 0x674], [0x64a, 0x674]]),
  (0x958, [
    [0x915, 0x93c], [0x916, 0x93c], [0x917, 0x93c], [0x91c, 0x93c], [0x921, 0x93c],
    [0x922, 0x93c], [0x92b, 0x93c], [0x92f, 0x93c]]),
  (0x9dc, [[0x9a1, 0x9bc], [0x9a2, 0x9bc]]),
  (0x9df, [[0x9af, 0x9bc]]),
  (0xa33, [[0xa32, 0xa3c]]),
  (0xa36, [[0xa38, 0xa3c]]),
  (0xa59, [[0xa16, 0xa3c], [0xa17, 0xa3c], [0xa1c, 0xa3c]]),
  (0xa5e, [[0xa2b, 0xa3c]]),
  (0xb5c, [[0xb21, 0xb3c], [0xb22, 0xb3c]]),
  (0xe33, [[0xe4d, 0xe32]]),
  (0xeb3, [[0xecd, 0xeb2]]),
  (0xedc, [[0xeab, 0xe99], [0xeab, 0xea1]]),
  (0xf0c, [[0xf0b]]),
  (0xf43, [[0xf42, 0xfb7]]),
  (0xf4d, [[0xf4c, 0xfb7]]),
  (0xf52, [[0xf51, 0xfb7]]),
  (0xf57, [[0xf56, 0xfb7]]),
  (0xf5c, [[0xf5b, 0xfb7]]),
  (0xf69, [[0xf40, 0xfb5]]),
  (0xf73, [[0xf71, 0xf72]]),
  (0xf75, [
    [0xf71, 0xf74], [0xfb2, 0xf80], [0xfb2, 0xf71, 0xf80], [0xfb3, 0xf80], [0xfb3, 0xf71, 0xf80]]),
  (0xf81, [[0xf71, 0xf80]]),
  (0xf93, [[0xf92, 0xfb7]]),
  (0xf9d, [[0xf9c, 0xfb7]]),
  (0xfa2, [[0xfa1, 0xfb7]]),
  (0xfa7, [[0xfa6, 0xfb7]]),
  (0xfac, [[0xfab, 0xfb7]]),
  (0xfb9, [[0xf90, 0xfb5]]),
  (0x10c7, [[0x2d27]]),
  (0x10cd, [[0x2d2d]]),
  (0x10fc, [[0x10dc]]),
  (0x1c80, [
    [0x432], [0x434], [0x43e], [0x441], [0x442], [0x442], [0x44a], [0x463], [0xa64b], [0x1c8a]]),
  (0x1d2c, [[0x61], [0xe6], [0x62]]),
  (0x1d30, [[0x64]]),
  (0x1d32, [[0x1dd]]),
  (0x1d3c, [
    [0x6f], [0x223], [0x70], [0x72], [0x74], [0x75], [0x77], [0x61], [0x250], [0x251], [0x1d02],
    [0x62], [0x64], [0x65], [0x259], [0x25b], [0x25c], [0x67]]),
  (0x1d4f, [
    [0x6b], [0x6d], [0x14b], [0x6f], [0x254], [0x1d16], [0x1d17], [0x70], [0x74], [0x75],
    [0x1d1d], [0x26f], [0x76], [0x1d25]]),
  (0x1d60, [
    [0x3c6], [0x3c7], [0x69], [0x72], [0x75], [0x76], [0x3b2], [0x3b3], [0x3c1], [0x3c6], [0x3c7]]),
  (0x1d78, [[0x43d]]),
  (0x1d9b, [[0x252], [0x63], [0x255], [0xf0], [0x25c], [0x66], [0x25f], [0x261], [0x265]]),
  (0x1da7, [[0x1d7b], [0x29d], [0x26d], [0x1d85], [0x29f], [0x271], [0x270]]),
  (0x1db2, [
    [0x278], [0x282], [0x283], [0x1ab], [0x289], [0x28a], [0x1d1c], [0x28b], [0x28c], [0x7a]]),
  (0x1dbf, [[0x3b8]]),
  (0x1e9a, [[0x61, 0x2be], [0x1e61]]),
  (0x1e9e, [[0xdf]]),
  (0x1f71, [[0x3ac]]),
  (0x1f73, [[0x3ad]]),
  (0x1f75, [[0x3ae]]),
  (0x1f77, [[0x3af]]),
  (0x1f79, [[0x3cc]]),
  (0x1f7b, [[0x3cd]]),
  (0x1f7d, [[0x3ce]]),
  (0x1f80, [
    [0x1f00, 0x3b9], [0x1f01, 0x3b9], [0x1f02, 0x3b9], [0x1f03, 0x3b9], [0x1f04, 0x3b9],
    [0x1f05, 0x3b9], [0x1f06, 0x3b9], [0x1f07, 0x3b9], [0x1f00, 0x3b9], [0x1f01, 0x3b9],
    [0x1f02, 0x3b9], [0x1f03, 0x3b9], [0x1f04, 0x3b9], [0x1f05, 0x3b9], [0x1f06, 0x3b9],
    [0x1f07, 0x3b9], [0x1f20, 0x3b9], [0x1f21, 0x3b9], [0x1f22, 0x3b9], [0x1f23, 0x3b9],
    [0x1f24, 0x3b9], [0x1f25, 0x3b9], [0x1f26, 0x3b9], [0x1f27, 0x3b9], [0x1f20, 0x3b9],
    [0x1f21, 0x3b9], [0x1f22, 0x3b9], [0x1f23, 0x3b9], [0x1f24, 0x3b9], [0x1f25, 0x3b9],
    [0x1f26, 0x3b9], [0x1f27, 0x3b9], [0x1f60, 0x3b9], [0x1f61, 0x3b9], [0x1f62, 0x3b9],
    [0x1f63, 0x3b9], [0x1f64, 0x3b9], [0x1f65, 0x3b9], [0x1f66, 0x3b9], [0x1f67, 0x3b9],
    [0x1f60, 0x3b9], [0x1f61, 0x3b9], [0x1f62, 0x3b9], [0x1f63, 0x3b9], [0x1f64, 0x3b9],
    [0x1f65, 0x3b9], [0x1f66, 0x3b9], [0x1f67, 0x3b9]]),
  (0x1fb2, [[0x1f70, 0x3b9], [0x3b1, 0x3b9], [0x3ac, 0x3b9]]),
  (0x1fb7, [
    [0x1fb6, 0x3b9], [0x1fb0], [0x1fb1], [0x1f70], [0x3ac], [0x3b1, 0x3b9], [0x20, 0x313],
    [0x3b9], [0x20, 0x313], [0x20, 0x342], [0x20, 0x308, 0x342], [0x1f74, 0x3b9], [0x3b7, 0x3b9],
    [0x3ae, 0x3b9]]),
  (0x1fc7, [
    [0x1fc6, 0x3b9], [0x1f72], [0x3ad], [0x1f74], [0x3ae], [0x3b7, 0x3b9], [0x20, 0x313, 0x300],
    [0x20, 0x313, 0x301], [0x20, 0x313, 0x342]]),
  (0x1fd3, [[0x390]]),
  (0x1fd8, [[0x1fd0], [0x1fd1], [0x1f76], [0x3af]]),
  (0x1fdd, [[0x20, 0x314, 0x300], [0x20, 0x314, 0x301], [0x20, 0x314, 0x342]]),
  (0x1fe3, [[0x3b0]]),
  (0x1fe8, [
    [0x1fe0], [0x1fe1], [0x1f7a], [0x3cd], [0x1fe5], [0x20, 0x308, 0x300], [0x20, 0x308, 0x301],
    [0x60]]),
  (0x1ff2, [[0x1f7c, 0x3b9], [0x3c9, 0x3b9], [0x3ce, 0x3b9]]),
  (0x1ff7, [
    [0x1ff6, 0x3b9], [0x1f78], [0x3cc], [0x1f7c], [0x3ce], [0x3c9, 0x3b9], [0x20, 0x301],
    [0x20, 0x314]])]

/-- Signs, letters in circles or brackets, and squared words. -/
def foldSigns : List (Nat × List (List Nat)) := [
  (0x2000, [
    [0x20], [0x20], [0x20], [0x20], [0x20], [0x20], [0x20], [0x20], [0x20], [0x20], [0x20]]),
  (0x2011, [[0x2010]]),
  (0x2017, [[0x20, 0x333]]),
  (0x202f, [[0x20]]),
  (0x2033, [[0x2032, 0x2032], [0x2032, 0x2032, 0x2032]]),
  (0x2036, [[0x2035, 0x2035], [0x2035, 0x2035, 0x2035]]),
  (0x203c, [[0x21, 0x21]]),
  (0x203e, [[0x20, 0x305]]),
  (0x2047, [[0x3f, 0x3f], [0x3f, 0x21], [0x21, 0x3f]]),
  (0x2057, [[0x2032, 0x2032, 0x2032, 0x2032]]),
  (0x205f, [[0x20]]),
  (0x2070, [[0x30], [0x69]]),
  (0x207a, [[0x2b], [0x2212], [0x3d], [0x28], [0x29], [0x6e]]),
  (0x208a, [[0x2b], [0x2212], [0x3d], [0x28], [0x29]]),
  (0x2090, [[0x61], [0x65], [0x6f], [0x78], [0x259], [0x68]]),
  (0x209a, [[0x70], [0x73], [0x74]]),
  (0x20a8, [[0x72, 0x73]]),
  (0x2100, [[0x61, 0x2f, 0x63], [0x61, 0x2f, 0x73], [0x63], [0xb0, 0x63]]),
  (0x2105, [[0x63, 0x2f, 0x6f], [0x63, 0x2f, 0x75], [0x25b]]),
  (0x2109, [
    [0xb0, 0x66], [0x67], [0x68], [0x68], [0x68], [0x68], [0x127], [0x69], [0x69], [0x6c], [0x6c]]),
  (0x2115, [[0x6e], [0x6e, 0x6f]]),
  (0x211c, [[0x72], [0x72]]),
  (0x2120, [[0x73, 0x6d], [0x74, 0x65, 0x6c], [0x74, 0x6d]]),
  (0x2124, [[0x7a]]),
  (0x2126, [[0x3c9]]),
  (0x2128, [[0x7a]]),
  (0x212a, [[0x6b], [0xe5], [0x62], [0x63]]),
  (0x212f, [[0x65], [0x65], [0x66], [0x214e], [0x6d], [0x6f]]),
  (0x2139, [[0x69]]),
  (0x213b, [[0x66, 0x61, 0x78], [0x3c0], [0x3b3], [0x3b3], [0x3c0], [0x2211]]),
  (0x2145, [[0x64], [0x64], [0x65], [0x69], [0x6a]]),
  (0x2150, [
    [0x31, 0x2044, 0x37], [0x31, 0x2044, 0x39], [0x31, 0x2044, 0x31, 0x30], [0x31, 0x2044, 0x33],
    [0x32, 0x2044, 0x33], [0x31, 0x2044, 0x35], [0x32, 0x2044, 0x35], [0x33, 0x2044, 0x35],
    [0x34, 0x2044, 0x35], [0x31, 0x2044, 0x36], [0x35, 0x2044, 0x36], [0x31, 0x2044, 0x38],
    [0x33, 0x2044, 0x38], [0x35, 0x2044, 0x38], [0x37, 0x2044, 0x38], [0x31, 0x2044], [0x69],
    [0x69, 0x69], [0x69, 0x69, 0x69], [0x69, 0x76], [0x76], [0x76, 0x69], [0x76, 0x69, 0x69],
    [0x76, 0x69, 0x69, 0x69], [0x69, 0x78], [0x78], [0x78, 0x69], [0x78, 0x69, 0x69], [0x6c],
    [0x63], [0x64], [0x6d], [0x69], [0x69, 0x69], [0x69, 0x69, 0x69], [0x69, 0x76], [0x76],
    [0x76, 0x69], [0x76, 0x69, 0x69], [0x76, 0x69, 0x69, 0x69], [0x69, 0x78], [0x78],
    [0x78, 0x69], [0x78, 0x69, 0x69], [0x6c], [0x63], [0x64], [0x6d]]),
  (0x2183, [[0x2184]]),
  (0x2189, [[0x30, 0x2044, 0x33]]),
  (0x222c, [[0x222b, 0x222b], [0x222b, 0x222b, 0x222b]]),
  (0x222f, [[0x222e, 0x222e], [0x222e, 0x222e, 0x222e]]),
  (0x2469, [
    [0x31, 0x30], [0x31, 0x31], [0x31, 0x32], [0x31, 0x33], [0x31, 0x34], [0x31, 0x35],
    [0x31, 0x36], [0x31, 0x37], [0x31, 0x38], [0x31, 0x39], [0x32, 0x30], [0x28, 0x31, 0x29],
    [0x28, 0x32, 0x29], [0x28, 0x33, 0x29], [0x28, 0x34, 0x29], [0x28, 0x35, 0x29],
    [0x28, 0x36, 0x29], [0x28, 0x37, 0x29], [0x28, 0x38, 0x29], [0x28, 0x39, 0x29],
    [0x28, 0x31, 0x30, 0x29], [0x28, 0x31, 0x31, 0x29], [0x28, 0x31, 0x32, 0x29],
    [0x28, 0x31, 0x33, 0x29], [0x28, 0x31, 0x34, 0x29], [0x28, 0x31, 0x35, 0x29],
    [0x28, 0x31, 0x36, 0x29], [0x28, 0x31, 0x37, 0x29], [0x28, 0x31, 0x38, 0x29],
    [0x28, 0x31, 0x39, 0x29], [0x28, 0x32, 0x30, 0x29]]),
  (0x249c, [
    [0x28, 0x61, 0x29], [0x28, 0x62, 0x29], [0x28, 0x63, 0x29], [0x28, 0x64, 0x29],
    [0x28, 0x65, 0x29], [0x28, 0x66, 0x29], [0x28, 0x67, 0x29], [0x28, 0x68, 0x29],
    [0x28, 0x69, 0x29], [0x28, 0x6a, 0x29], [0x28, 0x6b, 0x29], [0x28, 0x6c, 0x29],
    [0x28, 0x6d, 0x29], [0x28, 0x6e, 0x29], [0x28, 0x6f, 0x29], [0x28, 0x70, 0x29],
    [0x28, 0x71, 0x29], [0x28, 0x72, 0x29], [0x28, 0x73, 0x29], [0x28, 0x74, 0x29],
    [0x28, 0x75, 0x29], [0x28, 0x76, 0x29], [0x28, 0x77, 0x29], [0x28, 0x78, 0x29],
    [0x28, 0x79, 0x29], [0x28, 0x7a, 0x29]]),
  (0x24ea, [[0x30]]),
  (0x2a0c, [[0x222b, 0x222b, 0x222b, 0x222b]]),
  (0x2a74, [[0x3a, 0x3a, 0x3d], [0x3d, 0x3d], [0x3d, 0x3d, 0x3d]]),
  (0x2adc, [[0x2add, 0x338]]),
  (0x2c60, [[0x2c61]]),
  (0x2c62, [[0x26b], [0x1d7d], [0x27d]]),
  (0x2c6d, [[0x251], [0x271], [0x250], [0x252]]),
  (0x2c72, [[0x2c73]]),
  (0x2c75, [[0x2c76]]),
  (0x2c7c, [[0x6a], [0x76], [0x23f], [0x240]]),
  (0x2ceb, [[0x2cec]]),
  (0x2ced, [[0x2cee]]),
  (0x2cf2, [[0x2cf3]]),
  (0x2d6f, [[0x2d61]]),
  (0x3000, [[0x20]]),
  (0x3002, [[0x2e]]),
  (0x309b, [[0x20, 0x3099], [0x20, 0x309a]]),
  (0x309f, [[0x3088, 0x308a]]),
  (0x30ff, [[0x30b3, 0x30c8]]),
  (0x3131, [[0x1100], [0x1101], [0x11aa], [0x1102], [0x11ac], [0x11ad]]),
  (0x3140, [[0x111a]]),
  (0x3144, [[0x1121]]),
  (0x3165, [
    [0x1114], [0x1115], [0x11c7], [0x11c8], [0x11cc], [0x11ce], [0x11d3], [0x11d7], [0x11d9],
    [0x111c], [0x11dd], [0x11df], [0x111d], [0x111e], [0x1120], [0x1122], [0x1123], [0x1127],
    [0x1129]]),
  (0x317d, [[0x1132], [0x1136], [0x1140], [0x1147], [0x114c], [0x11f1], [0x11f2]]),
  (0x3187, [[0x1184], [0x1185], [0x1188], [0x1191], [0x1192], [0x1194], [0x119e], [0x11a1]])]

/-- Letters in circles, and words in one square. -/
def foldSquares : List (Nat × List (List Nat)) := [
  (0x3200, [
    [0x28, 0x1100, 0x29], [0x28, 0x1102, 0x29], [0x28, 0x1103, 0x29], [0x28, 0x1105, 0x29],
    [0x28, 0x1106, 0x29], [0x28, 0x1107, 0x29], [0x28, 0x1109, 0x29], [0x28, 0x110b, 0x29],
    [0x28, 0x110c, 0x29], [0x28, 0x110e, 0x29], [0x28, 0x110f, 0x29], [0x28, 0x1110, 0x29],
    [0x28, 0x1111, 0x29], [0x28, 0x1112, 0x29], [0x28, 0xac00, 0x29], [0x28, 0xb098, 0x29],
    [0x28, 0xb2e4, 0x29], [0x28, 0xb77c, 0x29], [0x28, 0xb9c8, 0x29], [0x28, 0xbc14, 0x29],
    [0x28, 0xc0ac, 0x29], [0x28, 0xc544, 0x29], [0x28, 0xc790, 0x29], [0x28, 0xcc28, 0x29],
    [0x28, 0xce74, 0x29], [0x28, 0xd0c0, 0x29], [0x28, 0xd30c, 0x29], [0x28, 0xd558, 0x29],
    [0x28, 0xc8fc, 0x29], [0x28, 0xc624, 0xc804, 0x29], [0x28, 0xc624, 0xd6c4, 0x29]]),
  (0x3220, [
    [0x28, 0x4e00, 0x29], [0x28, 0x4e8c, 0x29], [0x28, 0x4e09, 0x29], [0x28, 0x56db, 0x29],
    [0x28, 0x4e94, 0x29], [0x28, 0x516d, 0x29], [0x28, 0x4e03, 0x29], [0x28, 0x516b, 0x29],
    [0x28, 0x4e5d, 0x29], [0x28, 0x5341, 0x29], [0x28, 0x6708, 0x29], [0x28, 0x706b, 0x29],
    [0x28, 0x6c34, 0x29], [0x28, 0x6728, 0x29], [0x28, 0x91d1, 0x29], [0x28, 0x571f, 0x29],
    [0x28, 0x65e5, 0x29], [0x28, 0x682a, 0x29], [0x28, 0x6709, 0x29], [0x28, 0x793e, 0x29],
    [0x28, 0x540d, 0x29], [0x28, 0x7279, 0x29], [0x28, 0x8ca1, 0x29], [0x28, 0x795d, 0x29],
    [0x28, 0x52b4, 0x29], [0x28, 0x4ee3, 0x29], [0x28, 0x547c, 0x29], [0x28, 0x5b66, 0x29],
    [0x28, 0x76e3, 0x29], [0x28, 0x4f01, 0x29], [0x28, 0x8cc7, 0x29], [0x28, 0x5354, 0x29],
    [0x28, 0x796d, 0x29], [0x28, 0x4f11, 0x29], [0x28, 0x81ea, 0x29], [0x28, 0x81f3, 0x29]]),
  (0x3250, [
    [0x70, 0x74, 0x65], [0x32, 0x31], [0x32, 0x32], [0x32, 0x33], [0x32, 0x34], [0x32, 0x35],
    [0x32, 0x36], [0x32, 0x37], [0x32, 0x38], [0x32, 0x39], [0x33, 0x30], [0x33, 0x31],
    [0x33, 0x32], [0x33, 0x33], [0x33, 0x34], [0x33, 0x35], [0x1100], [0x1102], [0x1103]]),
  (0x3266, [[0x1109], [0x110b], [0x110c]]),
  (0x326e, [
    [0xac00], [0xb098], [0xb2e4], [0xb77c], [0xb9c8], [0xbc14], [0xc0ac], [0xc544], [0xc790],
    [0xcc28], [0xce74], [0xd0c0], [0xd30c], [0xd558], [0xcc38, 0xace0], [0xc8fc, 0xc758],
    [0xc6b0]]),
  (0x32b1, [
    [0x33, 0x36], [0x33, 0x37], [0x33, 0x38], [0x33, 0x39], [0x34, 0x30], [0x34, 0x31],
    [0x34, 0x32], [0x34, 0x33], [0x34, 0x34], [0x34, 0x35], [0x34, 0x36], [0x34, 0x37],
    [0x34, 0x38], [0x34, 0x39], [0x35, 0x30], [0x31, 0x6708], [0x32, 0x6708], [0x33, 0x6708],
    [0x34, 0x6708], [0x35, 0x6708], [0x36, 0x6708], [0x37, 0x6708], [0x38, 0x6708],
    [0x39, 0x6708], [0x31, 0x30, 0x6708], [0x31, 0x31, 0x6708], [0x31, 0x32, 0x6708],
    [0x68, 0x67], [0x65, 0x72, 0x67], [0x65, 0x76], [0x6c, 0x74, 0x64], [0x30a2], [0x30a4],
    [0x30a6], [0x30a8], [0x30aa], [0x30ab], [0x30ad], [0x30af], [0x30b1], [0x30b3], [0x30b5],
    [0x30b7], [0x30b9], [0x30bb], [0x30bd], [0x30bf], [0x30c1], [0x30c4], [0x30c6], [0x30c8]]),
  (0x32ea, [[0x30d2], [0x30d5], [0x30d8], [0x30db]]),
  (0x32f3, [[0x30e4], [0x30e6]]),
  (0x32ff, [
    [0x4ee4, 0x548c], [0x30a2, 0x30d1, 0x30fc, 0x30c8], [0x30a2, 0x30eb, 0x30d5, 0x30a1],
    [0x30a2, 0x30f3, 0x30da, 0x30a2], [0x30a2, 0x30fc, 0x30eb], [0x30a4, 0x30cb, 0x30f3, 0x30b0],
    [0x30a4, 0x30f3, 0x30c1], [0x30a6, 0x30a9, 0x30f3], [0x30a8, 0x30b9, 0x30af, 0x30fc, 0x30c9],
    [0x30a8, 0x30fc, 0x30ab, 0x30fc], [0x30aa, 0x30f3, 0x30b9], [0x30aa, 0x30fc, 0x30e0],
    [0x30ab, 0x30a4, 0x30ea], [0x30ab, 0x30e9, 0x30c3, 0x30c8], [0x30ab, 0x30ed, 0x30ea, 0x30fc],
    [0x30ac, 0x30ed, 0x30f3], [0x30ac, 0x30f3, 0x30de], [0x30ae, 0x30ac],
    [0x30ae, 0x30cb, 0x30fc], [0x30ad, 0x30e5, 0x30ea, 0x30fc], [0x30ae, 0x30eb, 0x30c0, 0x30fc],
    [0x30ad, 0x30ed], [0x30ad, 0x30ed, 0x30b0, 0x30e9, 0x30e0],
    [0x30ad, 0x30ed, 0x30e1, 0x30fc, 0x30c8, 0x30eb], [0x30ad, 0x30ed, 0x30ef, 0x30c3, 0x30c8],
    [0x30b0, 0x30e9, 0x30e0], [0x30b0, 0x30e9, 0x30e0, 0x30c8, 0x30f3],
    [0x30af, 0x30eb, 0x30bc, 0x30a4, 0x30ed], [0x30af, 0x30ed, 0x30fc, 0x30cd],
    [0x30b1, 0x30fc, 0x30b9], [0x30b3, 0x30eb, 0x30ca], [0x30b3, 0x30fc, 0x30dd],
    [0x30b5, 0x30a4, 0x30af, 0x30eb], [0x30b5, 0x30f3, 0x30c1, 0x30fc, 0x30e0],
    [0x30b7, 0x30ea, 0x30f3, 0x30b0], [0x30bb, 0x30f3, 0x30c1], [0x30bb, 0x30f3, 0x30c8],
    [0x30c0, 0x30fc, 0x30b9], [0x30c7, 0x30b7], [0x30c9, 0x30eb], [0x30c8, 0x30f3],
    [0x30ca, 0x30ce], [0x30ce, 0x30c3, 0x30c8], [0x30cf, 0x30a4, 0x30c4],
    [0x30d1, 0x30fc, 0x30bb, 0x30f3, 0x30c8], [0x30d1, 0x30fc, 0x30c4],
    [0x30d0, 0x30fc, 0x30ec, 0x30eb], [0x30d4, 0x30a2, 0x30b9, 0x30c8, 0x30eb],
    [0x30d4, 0x30af, 0x30eb], [0x30d4, 0x30b3], [0x30d3, 0x30eb],
    [0x30d5, 0x30a1, 0x30e9, 0x30c3, 0x30c9], [0x30d5, 0x30a3, 0x30fc, 0x30c8],
    [0x30d6, 0x30c3, 0x30b7, 0x30a7, 0x30eb], [0x30d5, 0x30e9, 0x30f3],
    [0x30d8, 0x30af, 0x30bf, 0x30fc, 0x30eb], [0x30da, 0x30bd], [0x30da, 0x30cb, 0x30d2],
    [0x30d8, 0x30eb, 0x30c4], [0x30da, 0x30f3, 0x30b9], [0x30da, 0x30fc, 0x30b8],
    [0x30d9, 0x30fc, 0x30bf], [0x30dd, 0x30a4, 0x30f3, 0x30c8], [0x30dc, 0x30eb, 0x30c8],
    [0x30db, 0x30f3], [0x30dd, 0x30f3, 0x30c9], [0x30db, 0x30fc, 0x30eb],
    [0x30db, 0x30fc, 0x30f3], [0x30de, 0x30a4, 0x30af, 0x30ed], [0x30de, 0x30a4, 0x30eb],
    [0x30de, 0x30c3, 0x30cf], [0x30de, 0x30eb, 0x30af], [0x30de, 0x30f3, 0x30b7, 0x30e7, 0x30f3],
    [0x30df, 0x30af, 0x30ed, 0x30f3], [0x30df, 0x30ea], [0x30df, 0x30ea, 0x30d0, 0x30fc, 0x30eb],
    [0x30e1, 0x30ac], [0x30e1, 0x30ac, 0x30c8, 0x30f3], [0x30e1, 0x30fc, 0x30c8, 0x30eb],
    [0x30e4, 0x30fc, 0x30c9], [0x30e4, 0x30fc, 0x30eb], [0x30e6, 0x30a2, 0x30f3],
    [0x30ea, 0x30c3, 0x30c8, 0x30eb], [0x30ea, 0x30e9], [0x30eb, 0x30d4, 0x30fc],
    [0x30eb, 0x30fc, 0x30d6, 0x30eb], [0x30ec, 0x30e0], [0x30ec, 0x30f3, 0x30c8, 0x30b2, 0x30f3],
    [0x30ef, 0x30c3, 0x30c8], [0x30, 0x70b9], [0x31, 0x70b9], [0x32, 0x70b9], [0x33, 0x70b9],
    [0x34, 0x70b9], [0x35, 0x70b9], [0x36, 0x70b9], [0x37, 0x70b9], [0x38, 0x70b9],
    [0x39, 0x70b9], [0x31, 0x30, 0x70b9], [0x31, 0x31, 0x70b9], [0x31, 0x32, 0x70b9],
    [0x31, 0x33, 0x70b9], [0x31, 0x34, 0x70b9], [0x31, 0x35, 0x70b9], [0x31, 0x36, 0x70b9],
    [0x31, 0x37, 0x70b9], [0x31, 0x38, 0x70b9], [0x31, 0x39, 0x70b9], [0x32, 0x30, 0x70b9],
    [0x32, 0x31, 0x70b9], [0x32, 0x32, 0x70b9], [0x32, 0x33, 0x70b9], [0x32, 0x34, 0x70b9],
    [0x68, 0x70, 0x61], [0x64, 0x61], [0x61, 0x75], [0x62, 0x61, 0x72], [0x6f, 0x76],
    [0x70, 0x63], [0x64, 0x6d], [0x64, 0x6d, 0x32], [0x64, 0x6d, 0x33], [0x69, 0x75],
    [0x5e73, 0x6210], [0x662d, 0x548c], [0x5927, 0x6b63], [0x660e, 0x6cbb],
    [0x682a, 0x5f0f, 0x4f1a, 0x793e], [0x70, 0x61], [0x6e, 0x61], [0x3bc, 0x61], [0x6d, 0x61],
    [0x6b, 0x61], [0x6b, 0x62], [0x6d, 0x62], [0x67, 0x62], [0x63, 0x61, 0x6c],
    [0x6b, 0x63, 0x61, 0x6c], [0x70, 0x66], [0x6e, 0x66], [0x3bc, 0x66], [0x3bc, 0x67],
    [0x6d, 0x67], [0x6b, 0x67], [0x68, 0x7a], [0x6b, 0x68, 0x7a], [0x6d, 0x68, 0x7a],
    [0x67, 0x68, 0x7a], [0x74, 0x68, 0x7a], [0x3bc, 0x6c], [0x6d, 0x6c], [0x64, 0x6c],
    [0x6b, 0x6c], [0x66, 0x6d], [0x6e, 0x6d], [0x3bc, 0x6d], [0x6d, 0x6d], [0x63, 0x6d],
    [0x6b, 0x6d], [0x6d, 0x6d, 0x32], [0x63, 0x6d, 0x32], [0x6d, 0x32], [0x6b, 0x6d, 0x32],
    [0x6d, 0x6d, 0x33], [0x63, 0x6d, 0x33], [0x6d, 0x33], [0x6b, 0x6d, 0x33],
    [0x6d, 0x2215, 0x73], [0x6d, 0x2215, 0x73, 0x32], [0x70, 0x61], [0x6b, 0x70, 0x61],
    [0x6d, 0x70, 0x61], [0x67, 0x70, 0x61], [0x72, 0x61, 0x64], [0x72, 0x61, 0x64, 0x2215, 0x73],
    [0x72, 0x61, 0x64, 0x2215, 0x73, 0x32], [0x70, 0x73], [0x6e, 0x73], [0x3bc, 0x73],
    [0x6d, 0x73], [0x70, 0x76], [0x6e, 0x76], [0x3bc, 0x76], [0x6d, 0x76], [0x6b, 0x76],
    [0x6d, 0x76], [0x70, 0x77], [0x6e, 0x77], [0x3bc, 0x77], [0x6d, 0x77], [0x6b, 0x77],
    [0x6d, 0x77], [0x6b, 0x3c9], [0x6d, 0x3c9]]),
  (0x33c3, [[0x62, 0x71], [0x63, 0x63], [0x63, 0x64], [0x63, 0x2215, 0x6b, 0x67]]),
  (0x33c8, [
    [0x64, 0x62], [0x67, 0x79], [0x68, 0x61], [0x68, 0x70], [0x69, 0x6e], [0x6b, 0x6b],
    [0x6b, 0x6d], [0x6b, 0x74], [0x6c, 0x6d], [0x6c, 0x6e], [0x6c, 0x6f, 0x67], [0x6c, 0x78],
    [0x6d, 0x62], [0x6d, 0x69, 0x6c], [0x6d, 0x6f, 0x6c], [0x70, 0x68]]),
  (0x33d9, [
    [0x70, 0x70, 0x6d], [0x70, 0x72], [0x73, 0x72], [0x73, 0x76], [0x77, 0x62],
    [0x76, 0x2215, 0x6d], [0x61, 0x2215, 0x6d], [0x31, 0x65e5], [0x32, 0x65e5], [0x33, 0x65e5],
    [0x34, 0x65e5], [0x35, 0x65e5], [0x36, 0x65e5], [0x37, 0x65e5], [0x38, 0x65e5],
    [0x39, 0x65e5], [0x31, 0x30, 0x65e5], [0x31, 0x31, 0x65e5], [0x31, 0x32, 0x65e5],
    [0x31, 0x33, 0x65e5], [0x31, 0x34, 0x65e5], [0x31, 0x35, 0x65e5], [0x31, 0x36, 0x65e5],
    [0x31, 0x37, 0x65e5], [0x31, 0x38, 0x65e5], [0x31, 0x39, 0x65e5], [0x32, 0x30, 0x65e5],
    [0x32, 0x31, 0x65e5], [0x32, 0x32, 0x65e5], [0x32, 0x33, 0x65e5], [0x32, 0x34, 0x65e5],
    [0x32, 0x35, 0x65e5], [0x32, 0x36, 0x65e5], [0x32, 0x37, 0x65e5], [0x32, 0x38, 0x65e5],
    [0x32, 0x39, 0x65e5], [0x33, 0x30, 0x65e5], [0x33, 0x31, 0x65e5], [0x67, 0x61, 0x6c]])]

/-- Forms that letters take within a word, and ligatures. -/
def foldForms : List (Nat × List (List Nat)) := [
  (0xa69c, [[0x44a], [0x44c]]),
  (0xa770, [[0xa76f]]),
  (0xa779, [[0xa77a]]),
  (0xa77b, [[0xa77c]]),
  (0xa77d, [[0x1d79]]),
  (0xa78b, [[0xa78c]]),
  (0xa78d, [[0x265]]),
  (0xa790, [[0xa791]]),
  (0xa792, [[0xa793]]),
  (0xa7aa, [[0x266], [0x25c], [0x261], [0x26c], [0x26a]]),
  (0xa7b0, [[0x29e], [0x287], [0x29d], [0xab53]]),
  (0xa7c4, [[0xa794], [0x282], [0x1d8e], [0xa7c8]]),
  (0xa7c9, [[0xa7ca]]),
  (0xa7cb, [[0x264]]),
  (0xa7dc, [[0x19b]]),
  (0xa7f1, [[0x73], [0x63], [0x66], [0x71], [0xa7f6]]),
  (0xa7f8, [[0x127], [0x153]]),
  (0xab5c, [[0xa727], [0xab37], [0x26b], [0xab52]]),
  (0xab69, [[0x28d]]),
  (0xfb00, [
    [0x66, 0x66], [0x66, 0x69], [0x66, 0x6c], [0x66, 0x66, 0x69], [0x66, 0x66, 0x6c],
    [0x73, 0x74], [0x73, 0x74]]),
  (0xfb13, [[0x574, 0x576], [0x574, 0x565], [0x574, 0x56b], [0x57e, 0x576], [0x574, 0x56d]]),
  (0xfb1d, [[0x5d9, 0x5b4]]),
  (0xfb1f, [[0x5f2, 0x5b7], [0x5e2], [0x5d0], [0x5d3], [0x5d4]]),
  (0xfb27, [
    [0x5e8], [0x5ea], [0x2b], [0x5e9, 0x5c1], [0x5e9, 0x5c2], [0x5e9, 0x5bc, 0x5c1],
    [0x5e9, 0x5bc, 0x5c2], [0x5d0, 0x5b7], [0x5d0, 0x5b8], [0x5d0, 0x5bc], [0x5d1, 0x5bc],
    [0x5d2, 0x5bc], [0x5d3, 0x5bc], [0x5d4, 0x5bc], [0x5d5, 0x5bc], [0x5d6, 0x5bc]]),
  (0xfb38, [[0x5d8, 0x5bc], [0x5d9, 0x5bc], [0x5da, 0x5bc], [0x5db, 0x5bc], [0x5dc, 0x5bc]]),
  (0xfb3e, [[0x5de, 0x5bc]]),
  (0xfb40, [[0x5e0, 0x5bc], [0x5e1, 0x5bc]]),
  (0xfb43, [[0x5e3, 0x5bc], [0x5e4, 0x5bc]]),
  (0xfb46, [
    [0x5e6, 0x5bc], [0x5e7, 0x5bc], [0x5e8, 0x5bc], [0x5e9, 0x5bc], [0x5ea, 0x5bc],
    [0x5d5, 0x5b9], [0x5d1, 0x5bf], [0x5db, 0x5bf], [0x5e4, 0x5bf], [0x5d0, 0x5dc], [0x671],
    [0x671], [0x67b], [0x67b], [0x67b], [0x67b], [0x67e], [0x67e], [0x67e], [0x67e], [0x680],
    [0x680], [0x680], [0x680], [0x67a], [0x67a], [0x67a], [0x67a], [0x67f], [0x67f], [0x67f],
    [0x67f], [0x679], [0x679], [0x679], [0x679], [0x6a4], [0x6a4], [0x6a4], [0x6a4], [0x6a6],
    [0x6a6], [0x6a6], [0x6a6], [0x684], [0x684], [0x684], [0x684], [0x683], [0x683], [0x683],
    [0x683], [0x686], [0x686], [0x686], [0x686], [0x687], [0x687], [0x687], [0x687], [0x68d],
    [0x68d], [0x68c], [0x68c], [0x68e], [0x68e], [0x688], [0x688], [0x698], [0x698], [0x691],
    [0x691], [0x6a9], [0x6a9], [0x6a9], [0x6a9], [0x6af], [0x6af], [0x6af], [0x6af], [0x6b3],
    [0x6b3], [0x6b3], [0x6b3], [0x6b1], [0x6b1], [0x6b1], [0x6b1], [0x6ba], [0x6ba], [0x6bb],
    [0x6bb], [0x6bb], [0x6bb], [0x6c0], [0x6c0], [0x6c1], [0x6c1], [0x6c1], [0x6c1], [0x6be],
    [0x6be], [0x6be], [0x6be], [0x6d2], [0x6d2], [0x6d3], [0x6d3]]),
  (0xfbd3, [
    [0x6ad], [0x6ad], [0x6ad], [0x6ad], [0x6c7], [0x6c7], [0x6c6], [0x6c6], [0x6c8], [0x6c8],
    [0x6c7, 0x674], [0x6cb], [0x6cb], [0x6c5], [0x6c5], [0x6c9], [0x6c9], [0x6d0], [0x6d0],
    [0x6d0], [0x6d0], [0x649], [0x649], [0x626, 0x627], [0x626, 0x627], [0x626, 0x6d5],
    [0x626, 0x6d5], [0x626, 0x648], [0x626, 0x648], [0x626, 0x6c7], [0x626, 0x6c7],
    [0x626, 0x6c6], [0x626, 0x6c6], [0x626, 0x6c8], [0x626, 0x6c8], [0x626, 0x6d0],
    [0x626, 0x6d0], [0x626, 0x6d0], [0x626, 0x649], [0x626, 0x649], [0x626, 0x649], [0x6cc],
    [0x6cc], [0x6cc], [0x6cc], [0x626, 0x62c], [0x626, 0x62d], [0x626, 0x645], [0x626, 0x649],
    [0x626, 0x64a], [0x628, 0x62c], [0x628, 0x62d], [0x628, 0x62e], [0x628, 0x645],
    [0x628, 0x649], [0x628, 0x64a], [0x62a, 0x62c], [0x62a, 0x62d], [0x62a, 0x62e],
    [0x62a, 0x645], [0x62a, 0x649], [0x62a, 0x64a], [0x62b, 0x62c], [0x62b, 0x645],
    [0x62b, 0x649], [0x62b, 0x64a], [0x62c, 0x62d], [0x62c, 0x645], [0x62d, 0x62c],
    [0x62d, 0x645], [0x62e, 0x62c], [0x62e, 0x62d], [0x62e, 0x645], [0x633, 0x62c],
    [0x633, 0x62d], [0x633, 0x62e], [0x633, 0x645], [0x635, 0x62d], [0x635, 0x645],
    [0x636, 0x62c], [0x636, 0x62d], [0x636, 0x62e], [0x636, 0x645], [0x637, 0x62d],
    [0x637, 0x645], [0x638, 0x645], [0x639, 0x62c], [0x639, 0x645], [0x63a, 0x62c],
    [0x63a, 0x645], [0x641, 0x62c], [0x641, 0x62d], [0x641, 0x62e], [0x641, 0x645],
    [0x641, 0x649], [0x641, 0x64a], [0x642, 0x62d], [0x642, 0x645], [0x642, 0x649],
    [0x642, 0x64a], [0x643, 0x627], [0x643, 0x62c], [0x643, 0x62d], [0x643, 0x62e],
    [0x643, 0x644], [0x643, 0x645], [0x643, 0x649], [0x643, 0x64a], [0x644, 0x62c],
    [0x644, 0x62d], [0x644, 0x62e], [0x644, 0x645], [0x644, 0x649], [0x644, 0x64a],
    [0x645, 0x62c], [0x645, 0x62d], [0x645, 0x62e], [0x645, 0x645], [0x645, 0x649],
    [0x645, 0x64a], [0x646, 0x62c], [0x646, 0x62d], [0x646, 0x62e], [0x646, 0x645],
    [0x646, 0x649], [0x646, 0x64a], [0x647, 0x62c], [0x647, 0x645], [0x647, 0x649],
    [0x647, 0x64a], [0x64a, 0x62c], [0x64a, 0x62d], [0x64a, 0x62e], [0x64a, 0x645],
    [0x64a, 0x649], [0x64a, 0x64a], [0x630, 0x670], [0x631, 0x670], [0x649, 0x670],
    [0x20, 0x64c, 0x651], [0x20, 0x64d, 0x651], [0x20, 0x64e, 0x651], [0x20, 0x64f, 0x651],
    [0x20, 0x650, 0x651], [0x20, 0x651, 0x670], [0x626, 0x631], [0x626, 0x632], [0x626, 0x645],
    [0x626, 0x646], [0x626, 0x649], [0x626, 0x64a], [0x628, 0x631], [0x628, 0x632],
    [0x628, 0x645], [0x628, 0x646], [0x628, 0x649], [0x628, 0x64a], [0x62a, 0x631],
    [0x62a, 0x632], [0x62a, 0x645], [0x62a, 0x646], [0x62a, 0x649], [0x62a, 0x64a],
    [0x62b, 0x631], [0x62b, 0x632], [0x62b, 0x645], [0x62b, 0x646], [0x62b, 0x649],
    [0x62b, 0x64a], [0x641, 0x649], [0x641, 0x64a], [0x642, 0x649], [0x642, 0x64a],
    [0x643, 0x627], [0x643, 0x644], [0x643, 0x645], [0x643, 0x649], [0x643, 0x64a],
    [0x644, 0x645], [0x644, 0x649], [0x644, 0x64a], [0x645, 0x627], [0x645, 0x645],
    [0x646, 0x631], [0x646, 0x632], [0x646, 0x645], [0x646, 0x646], [0x646, 0x649],
    [0x646, 0x64a], [0x649, 0x670], [0x64a, 0x631], [0x64a, 0x632], [0x64a, 0x645],
    [0x64a, 0x646], [0x64a, 0x649], [0x64a, 0x64a], [0x626, 0x62c], [0x626, 0x62d],
    [0x626, 0x62e], [0x626, 0x645], [0x626, 0x647], [0x628, 0x62c], [0x628, 0x62d],
    [0x628, 0x62e], [0x628, 0x645], [0x628, 0x647], [0x62a, 0x62c], [0x62a, 0x62d],
    [0x62a, 0x62e], [0x62a, 0x645], [0x62a, 0x647], [0x62b, 0x645], [0x62c, 0x62d],
    [0x62c, 0x645], [0x62d, 0x62c], [0x62d, 0x645], [0x62e, 0x62c], [0x62e, 0x645],
    [0x633, 0x62c], [0x633, 0x62d], [0x633, 0x62e], [0x633, 0x645], [0x635, 0x62d],
    [0x635, 0x62e], [0x635, 0x645], [0x636, 0x62c], [0x636, 0x62d], [0x636, 0x62e],
    [0x636, 0x645], [0x637, 0x62d], [0x638, 0x645], [0x639, 0x62c], [0x639, 0x645],
    [0x63a, 0x62c], [0x63a, 0x645], [0x641, 0x62c], [0x641, 0x62d], [0x641, 0x62e],
    [0x641, 0x645], [0x642, 0x62d], [0x642, 0x645], [0x643, 0x62c], [0x643, 0x62d],
    [0x643, 0x62e], [0x643, 0x644], [0x643, 0x645], [0x644, 0x62c], [0x644, 0x62d],
    [0x644, 0x62e], [0x644, 0x645], [0x644, 0x647], [0x645, 0x62c], [0x645, 0x62d],
    [0x645, 0x62e], [0x645, 0x645], [0x646, 0x62c], [0x646, 0x62d], [0x646, 0x62e],
    [0x646, 0x645], [0x646, 0x647], [0x647, 0x62c], [0x647, 0x645], [0x647, 0x670],
    [0x64a, 0x62c], [0x64a, 0x62d], [0x64a, 0x62e], [0x64a, 0x645], [0x64a, 0x647],
    [0x626, 0x645], [0x626, 0x647], [0x628, 0x645], [0x628, 0x647], [0x62a, 0x645],
    [0x62a, 0x647], [0x62b, 0x645], [0x62b, 0x647], [0x633, 0x645], [0x633, 0x647],
    [0x634, 0x645], [0x634, 0x647], [0x643, 0x644], [0x643, 0x645], [0x644, 0x645],
    [0x646, 0x645], [0x646, 0x647], [0x64a, 0x645], [0x64a, 0x647], [0x640, 0x64e, 0x651],
    [0x640, 0x64f, 0x651], [0x640, 0x650, 0x651], [0x637, 0x649], [0x637, 0x64a], [0x639, 0x649],
    [0x639, 0x64a], [0x63a, 0x649], [0x63a, 0x64a], [0x633, 0x649], [0x633, 0x64a],
    [0x634, 0x649], [0x634, 0x64a], [0x62d, 0x649], [0x62d, 0x64a], [0x62c, 0x649],
    [0x62c, 0x64a], [0x62e, 0x649], [0x62e, 0x64a], [0x635, 0x649], [0x635, 0x64a],
    [0x636, 0x649], [0x636, 0x64a], [0x634, 0x62c], [0x634, 0x62d], [0x634, 0x62e],
    [0x634, 0x645], [0x634, 0x631], [0x633, 0x631], [0x635, 0x631], [0x636, 0x631],
    [0x637, 0x649], [0x637, 0x64a], [0x639, 0x649], [0x639, 0x64a], [0x63a, 0x649],
    [0x63a, 0x64a], [0x633, 0x649], [0x633, 0x64a], [0x634, 0x649], [0x634, 0x64a],
    [0x62d, 0x649], [0x62d, 0x64a], [0x62c, 0x649], [0x62c, 0x64a], [0x62e, 0x649],
    [0x62e, 0x64a], [0x635, 0x649], [0x635, 0x64a], [0x636, 0x649], [0x636, 0x64a],
    [0x634, 0x62c], [0x634, 0x62d], [0x634, 0x62e], [0x634, 0x645], [0x634, 0x631],
    [0x633, 0x631], [0x635, 0x631], [0x636, 0x631], [0x634, 0x62c], [0x634, 0x62d],
    [0x634, 0x62e], [0x634, 0x645], [0x633, 0x647], [0x634, 0x647], [0x637, 0x645],
    [0x633, 0x62c], [0x633, 0x62d], [0x633, 0x62e], [0x634, 0x62c], [0x634, 0x62d],
    [0x634, 0x62e], [0x637, 0x645], [0x638, 0x645], [0x627, 0x64b], [0x627, 0x64b]]),
  (0xfd50, [
    [0x62a, 0x62c, 0x645], [0x62a, 0x62d, 0x62c], [0x62a, 0x62d, 0x62c], [0x62a, 0x62d, 0x645],
    [0x62a, 0x62e, 0x645], [0x62a, 0x645, 0x62c], [0x62a, 0x645, 0x62d], [0x62a, 0x645, 0x62e],
    [0x62c, 0x645, 0x62d], [0x62c, 0x645, 0x62d], [0x62d, 0x645, 0x64a], [0x62d, 0x645, 0x649],
    [0x633, 0x62d, 0x62c], [0x633, 0x62c, 0x62d], [0x633, 0x62c, 0x649], [0x633, 0x645, 0x62d],
    [0x633, 0x645, 0x62d], [0x633, 0x645, 0x62c], [0x633, 0x645, 0x645], [0x633, 0x645, 0x645],
    [0x635, 0x62d, 0x62d], [0x635, 0x62d, 0x62d], [0x635, 0x645, 0x645], [0x634, 0x62d, 0x645],
    [0x634, 0x62d, 0x645], [0x634, 0x62c, 0x64a], [0x634, 0x645, 0x62e], [0x634, 0x645, 0x62e],
    [0x634, 0x645, 0x645], [0x634, 0x645, 0x645], [0x636, 0x62d, 0x649], [0x636, 0x62e, 0x645],
    [0x636, 0x62e, 0x645], [0x637, 0x645, 0x62d], [0x637, 0x645, 0x62d], [0x637, 0x645, 0x645],
    [0x637, 0x645, 0x64a], [0x639, 0x62c, 0x645], [0x639, 0x645, 0x645], [0x639, 0x645, 0x645],
    [0x639, 0x645, 0x649], [0x63a, 0x645, 0x645], [0x63a, 0x645, 0x64a], [0x63a, 0x645, 0x649],
    [0x641, 0x62e, 0x645], [0x641, 0x62e, 0x645], [0x642, 0x645, 0x62d], [0x642, 0x645, 0x645],
    [0x644, 0x62d, 0x645], [0x644, 0x62d, 0x64a], [0x644, 0x62d, 0x649], [0x644, 0x62c, 0x62c],
    [0x644, 0x62c, 0x62c], [0x644, 0x62e, 0x645], [0x644, 0x62e, 0x645], [0x644, 0x645, 0x62d],
    [0x644, 0x645, 0x62d], [0x645, 0x62d, 0x62c], [0x645, 0x62d, 0x645], [0x645, 0x62d, 0x64a],
    [0x645, 0x62c, 0x62d], [0x645, 0x62c, 0x645], [0x645, 0x62e, 0x62c], [0x645, 0x62e, 0x645]]),
  (0xfd92, [
    [0x645, 0x62c, 0x62e], [0x647, 0x645, 0x62c], [0x647, 0x645, 0x645], [0x646, 0x62d, 0x645],
    [0x646, 0x62d, 0x649], [0x646, 0x62c, 0x645], [0x646, 0x62c, 0x645], [0x646, 0x62c, 0x649],
    [0x646, 0x645, 0x64a], [0x646, 0x645, 0x649], [0x64a, 0x645, 0x645], [0x64a, 0x645, 0x645],
    [0x628, 0x62e, 0x64a], [0x62a, 0x62c, 0x64a], [0x62a, 0x62c, 0x649], [0x62a, 0x62e, 0x64a],
    [0x62a, 0x62e, 0x649], [0x62a, 0x645, 0x64a], [0x62a, 0x645, 0x649], [0x62c, 0x645, 0x64a],
    [0x62c, 0x62d, 0x649], [0x62c, 0x645, 0x649], [0x633, 0x62e, 0x649], [0x635, 0x62d, 0x64a],
    [0x634, 0x62d, 0x64a], [0x636, 0x62d, 0x64a], [0x644, 0x62c, 0x64a], [0x644, 0x645, 0x64a],
    [0x64a, 0x62d, 0x64a], [0x64a, 0x62c, 0x64a], [0x64a, 0x645, 0x64a], [0x645, 0x645, 0x64a],
    [0x642, 0x645, 0x64a], [0x646, 0x62d, 0x64a], [0x642, 0x645, 0x62d], [0x644, 0x62d, 0x645],
    [0x639, 0x645, 0x64a], [0x643, 0x645, 0x64a], [0x646, 0x62c, 0x62d], [0x645, 0x62e, 0x64a],
    [0x644, 0x62c, 0x645], [0x643, 0x645, 0x645], [0x644, 0x62c, 0x645], [0x646, 0x62c, 0x62d],
    [0x62c, 0x62d, 0x64a], [0x62d, 0x62c, 0x64a], [0x645, 0x62c, 0x64a], [0x641, 0x645, 0x64a],
    [0x628, 0x62d, 0x64a], [0x643, 0x645, 0x645], [0x639, 0x62c, 0x645], [0x635, 0x645, 0x645],
    [0x633, 0x62e, 0x64a], [0x646, 0x62c, 0x64a]]),
  (0xfdf0, [
    [0x635, 0x644, 0x6d2], [0x642, 0x644, 0x6d2], [0x627, 0x644, 0x644, 0x647],
    [0x627, 0x643, 0x628, 0x631], [0x645, 0x62d, 0x645, 0x62f], [0x635, 0x644, 0x639, 0x645],
    [0x631, 0x633, 0x648, 0x644], [0x639, 0x644, 0x64a, 0x647], [0x648, 0x633, 0x644, 0x645],
    [0x635, 0x644, 0x649],
    [0x635, 0x644, 0x649, 0x20, 0x627, 0x644, 0x644, 0x647, 0x20, 0x639, 0x644, 0x64a, 0x647, 0x20,
      0x648, 0x633, 0x644, 0x645],
    [0x62c, 0x644, 0x20, 0x62c, 0x644, 0x627, 0x644, 0x647], [0x631, 0x6cc, 0x627, 0x644]]),
  (0xfe10, [[0x2c], [0x3001]]),
  (0xfe13, [[0x3a], [0x3b], [0x21], [0x3f]]),
  (0xfe31, [[0x2014], [0x2013], [0x5f], [0x5f], [0x28], [0x29], [0x7b], [0x7d]]),
  (0xfe47, [
    [0x5b], [0x5d], [0x20, 0x305], [0x20, 0x305], [0x20, 0x305], [0x20, 0x305], [0x5f], [0x5f],
    [0x5f], [0x2c], [0x3001]]),
  (0xfe54, [[0x3b], [0x3a], [0x3f], [0x21], [0x2014], [0x28], [0x29], [0x7b], [0x7d]]),
  (0xfe5f, [[0x23], [0x26], [0x2a], [0x2b], [0x2d], [0x3c], [0x3e], [0x3d]]),
  (0xfe68, [[0x5c], [0x24], [0x25], [0x40]]),
  (0xfe70, [[0x20, 0x64b], [0x640, 0x64b], [0x20, 0x64c]]),
  (0xfe74, [[0x20, 0x64d]]),
  (0xfe76, [
    [0x20, 0x64e], [0x640, 0x64e], [0x20, 0x64f], [0x640, 0x64f], [0x20, 0x650], [0x640, 0x650],
    [0x20, 0x651], [0x640, 0x651], [0x20, 0x652], [0x640, 0x652], [0x621], [0x622], [0x622],
    [0x623], [0x623], [0x624], [0x624], [0x625], [0x625], [0x626], [0x626], [0x626], [0x626],
    [0x627], [0x627], [0x628], [0x628], [0x628], [0x628], [0x629], [0x629], [0x62a], [0x62a],
    [0x62a], [0x62a], [0x62b], [0x62b], [0x62b], [0x62b], [0x62c], [0x62c], [0x62c], [0x62c],
    [0x62d], [0x62d], [0x62d], [0x62d], [0x62e], [0x62e], [0x62e], [0x62e], [0x62f], [0x62f],
    [0x630], [0x630], [0x631], [0x631], [0x632], [0x632], [0x633], [0x633], [0x633], [0x633],
    [0x634], [0x634], [0x634], [0x634], [0x635], [0x635], [0x635], [0x635], [0x636], [0x636],
    [0x636], [0x636], [0x637], [0x637], [0x637], [0x637], [0x638], [0x638], [0x638], [0x638],
    [0x639], [0x639], [0x639], [0x639], [0x63a], [0x63a], [0x63a], [0x63a], [0x641], [0x641],
    [0x641], [0x641], [0x642], [0x642], [0x642], [0x642], [0x643], [0x643], [0x643], [0x643],
    [0x644], [0x644], [0x644], [0x644], [0x645], [0x645], [0x645], [0x645], [0x646], [0x646],
    [0x646], [0x646], [0x647], [0x647], [0x647], [0x647], [0x648], [0x648], [0x649], [0x649],
    [0x64a], [0x64a], [0x64a], [0x64a], [0x644, 0x622], [0x644, 0x622], [0x644, 0x623],
    [0x644, 0x623], [0x644, 0x625], [0x644, 0x625], [0x644, 0x627], [0x644, 0x627]]),
  (0xff5f, [[0x2985], [0x2986], [0x2e]]),
  (0xff64, [
    [0x3001], [0x30fb], [0x30f2], [0x30a1], [0x30a3], [0x30a5], [0x30a7], [0x30a9], [0x30e3],
    [0x30e5], [0x30e7], [0x30c3], [0x30fc], [0x30a2], [0x30a4], [0x30a6], [0x30a8], [0x30aa],
    [0x30ab], [0x30ad], [0x30af], [0x30b1], [0x30b3], [0x30b5], [0x30b7], [0x30b9], [0x30bb],
    [0x30bd], [0x30bf], [0x30c1], [0x30c4], [0x30c6], [0x30c8]]),
  (0xff8b, [[0x30d2], [0x30d5], [0x30d8], [0x30db]]),
  (0xff94, [[0x30e4], [0x30e6]]),
  (0xff9c, [[0x30ef], [0x30f3], [0x3099], [0x309a]]),
  (0xffa1, [[0x1100], [0x1101], [0x11aa], [0x1102], [0x11ac], [0x11ad]]),
  (0xffb0, [[0x111a]]),
  (0xffb4, [[0x1121]]),
  (0xffe0, [[0xa2], [0xa3], [0xac], [0x20, 0x304], [0xa6], [0xa5], [0x20a9]]),
  (0xffe8, [[0x2502]]),
  (0xffed, [[0x25a0], [0x25cb]])]

/-- Characters beyond the first plane. -/
def foldBeyond : List (Nat × List (List Nat)) := [
  (0x10595, [[0x105bc]]),
  (0x10781, [[0x2d0], [0x2d1], [0xe6], [0x299], [0x253]]),
  (0x10787, [
    [0x2a3], [0xab66], [0x2a5], [0x2a4], [0x256], [0x257], [0x1d91], [0x258], [0x25e], [0x2a9],
    [0x264], [0x262], [0x260], [0x29b], [0x127], [0x29c], [0x267], [0x284], [0x2aa], [0x2ab],
    [0x26c], [0x1df04], [0xa78e], [0x26e], [0x1df05], [0x28e], [0x1df06], [0xf8], [0x276],
    [0x277], [0x71], [0x27a], [0x1df08], [0x27d], [0x27e], [0x280], [0x2a8], [0x2a6], [0xab67],
    [0x2a7], [0x288], [0x2c71]]),
  (0x107b2, [[0x28f], [0x2a1], [0x2a2], [0x298]]),
  (0x107b9, [[0x1df0a], [0x1df1e]]),
  (0x1d15e, [
    [0x1d157, 0x1d165], [0x1d158, 0x1d165], [0x1d158, 0x1d165, 0x1d16e],
    [0x1d158, 0x1d165, 0x1d16f], [0x1d158, 0x1d165, 0x1d170], [0x1d158, 0x1d165, 0x1d171],
    [0x1d158, 0x1d165, 0x1d172]]),
  (0x1d1bb, [
    [0x1d1b9, 0x1d165], [0x1d1ba, 0x1d165], [0x1d1b9, 0x1d165, 0x1d16e],
    [0x1d1ba, 0x1d165, 0x1d16e], [0x1d1b9, 0x1d165, 0x1d16f], [0x1d1ba, 0x1d165, 0x1d16f]]),
  (0x1d49c, [[0x61]]),
  (0x1d49e, [[0x63], [0x64]]),
  (0x1d4a2, [[0x67]]),
  (0x1d4a5, [[0x6a], [0x6b]]),
  (0x1d504, [[0x61]]),
  (0x1d508, [[0x65]]),
  (0x1d50a, [[0x67]]),
  (0x1d538, [[0x61]]),
  (0x1d541, [[0x6a]]),
  (0x1d543, [[0x6c]]),
  (0x1d6a4, [[0x131], [0x237]]),
  (0x1d6b9, [[0x3b8]]),
  (0x1d6c1, [[0x2207]]),
  (0x1d6d3, [[0x3c3]]),
  (0x1d6db, [[0x2202], [0x3b5], [0x3b8], [0x3ba], [0x3c6], [0x3c1], [0x3c0]]),
  (0x1d6f3, [[0x3b8]]),
  (0x1d6fb, [[0x2207]]),
  (0x1d70d, [[0x3c3]]),
  (0x1d715, [[0x2202], [0x3b5], [0x3b8], [0x3ba], [0x3c6], [0x3c1], [0x3c0]]),
  (0x1d72d, [[0x3b8]]),
  (0x1d735, [[0x2207]]),
  (0x1d747, [[0x3c3]]),
  (0x1d74f, [[0x2202], [0x3b5], [0x3b8], [0x3ba], [0x3c6], [0x3c1], [0x3c0]]),
  (0x1d767, [[0x3b8]]),
  (0x1d76f, [[0x2207]]),
  (0x1d781, [[0x3c3]]),
  (0x1d789, [[0x2202], [0x3b5], [0x3b8], [0x3ba], [0x3c6], [0x3c1], [0x3c0]]),
  (0x1d7a1, [[0x3b8]]),
  (0x1d7a9, [[0x2207]]),
  (0x1d7bb, [[0x3c3]]),
  (0x1d7c3, [[0x2202], [0x3b5], [0x3b8], [0x3ba], [0x3c6], [0x3c1], [0x3c0], [0x3dd], [0x3dd]]),
  (0x1e047, [
    [0x44b], [0x44d], [0x44e], [0xa689], [0x4d9], [0x456], [0x458], [0x4e9], [0x4af], [0x4cf]]),
  (0x1e05a, [[0x43a], [0x43b], [0x43e], [0x43f], [0x441]]),
  (0x1e065, [[0x44a], [0x44b], [0x491], [0x456], [0x455], [0x45f], [0x4ab], [0xa651], [0x4b1]]),
  (0x1ee00, [[0x627], [0x628], [0x62c], [0x62f]]),
  (0x1ee05, [[0x648], [0x632], [0x62d], [0x637], [0x64a]]),
  (0x1ee0e, [
    [0x633], [0x639], [0x641], [0x635], [0x642], [0x631], [0x634], [0x62a], [0x62b], [0x62e],
    [0x630], [0x636], [0x638], [0x63a], [0x66e], [0x6ba], [0x6a1], [0x66f]]),
  (0x1ee21, [[0x628], [0x62c]]),
  (0x1ee24, [[0x647]]),
  (0x1ee27, [[0x62d]]),
  (0x1ee29, [[0x64a]]),
  (0x1ee2e, [[0x633], [0x639], [0x641], [0x635], [0x642]]),
  (0x1ee34, [[0x634], [0x62a], [0x62b], [0x62e]]),
  (0x1ee39, [[0x636]]),
  (0x1ee3b, [[0x63a]]),
  (0x1ee42, [[0x62c]]),
  (0x1ee47, [[0x62d]]),
  (0x1ee49, [[0x64a]]),
  (0x1ee4b, [[0x644]]),
  (0x1ee4d, [[0x646], [0x633], [0x639]]),
  (0x1ee51, [[0x635], [0x642]]),
  (0x1ee54, [[0x634]]),
  (0x1ee57, [[0x62e]]),
  (0x1ee59, [[0x636]]),
  (0x1ee5b, [[0x63a]]),
  (0x1ee5d, [[0x6ba]]),
  (0x1ee5f, [[0x66f]]),
  (0x1ee61, [[0x628], [0x62c]]),
  (0x1ee64, [[0x647]]),
  (0x1ee67, [[0x62d], [0x637], [0x64a], [0x643]]),
  (0x1ee6c, [[0x645], [0x646], [0x633], [0x639], [0x641], [0x635], [0x642]]),
  (0x1ee74, [[0x634], [0x62a], [0x62b], [0x62e]]),
  (0x1ee79, [[0x636], [0x638], [0x63a], [0x66e]]),
  (0x1ee7e, [[0x6a1]]),
  (0x1ee80, [
    [0x627], [0x628], [0x62c], [0x62f], [0x647], [0x648], [0x632], [0x62d], [0x637], [0x64a]]),
  (0x1ee8e, [
    [0x633], [0x639], [0x641], [0x635], [0x642], [0x631], [0x634], [0x62a], [0x62b], [0x62e],
    [0x630], [0x636], [0x638], [0x63a]]),
  (0x1eea1, [[0x628], [0x62c], [0x62f]]),
  (0x1eea5, [[0x648], [0x632], [0x62d], [0x637], [0x64a]]),
  (0x1eeae, [
    [0x633], [0x639], [0x641], [0x635], [0x642], [0x631], [0x634], [0x62a], [0x62b], [0x62e],
    [0x630], [0x636], [0x638], [0x63a]]),
  (0x1f101, [
    [0x30, 0x2c], [0x31, 0x2c], [0x32, 0x2c], [0x33, 0x2c], [0x34, 0x2c], [0x35, 0x2c],
    [0x36, 0x2c], [0x37, 0x2c], [0x38, 0x2c], [0x39, 0x2c]]),
  (0x1f110, [
    [0x28, 0x61, 0x29], [0x28, 0x62, 0x29], [0x28, 0x63, 0x29], [0x28, 0x64, 0x29],
    [0x28, 0x65, 0x29], [0x28, 0x66, 0x29], [0x28, 0x67, 0x29], [0x28, 0x68, 0x29],
    [0x28, 0x69, 0x29], [0x28, 0x6a, 0x29], [0x28, 0x6b, 0x29], [0x28, 0x6c, 0x29],
    [0x28, 0x6d, 0x29], [0x28, 0x6e, 0x29], [0x28, 0x6f, 0x29], [0x28, 0x70, 0x29],
    [0x28, 0x71, 0x29], [0x28, 0x72, 0x29], [0x28, 0x73, 0x29], [0x28, 0x74, 0x29],
    [0x28, 0x75, 0x29], [0x28, 0x76, 0x29], [0x28, 0x77, 0x29], [0x28, 0x78, 0x29],
    [0x28, 0x79, 0x29], [0x28, 0x7a, 0x29], [0x3014, 0x73, 0x3015], [0x63], [0x72], [0x63, 0x64],
    [0x77, 0x7a]]),
  (0x1f14a, [
    [0x68, 0x76], [0x6d, 0x76], [0x73, 0x64], [0x73, 0x73], [0x70, 0x70, 0x76], [0x77, 0x63]]),
  (0x1f16a, [[0x6d, 0x63], [0x6d, 0x64], [0x6d, 0x72]]),
  (0x1f190, [[0x64, 0x6a]]),
  (0x1f200, [[0x307b, 0x304b], [0x30b3, 0x30b3], [0x30b5]]),
  (0x1f213, [[0x30c7]]),
  (0x1f240, [
    [0x3014, 0x672c, 0x3015], [0x3014, 0x4e09, 0x3015], [0x3014, 0x4e8c, 0x3015],
    [0x3014, 0x5b89, 0x3015], [0x3014, 0x70b9, 0x3015], [0x3014, 0x6253, 0x3015],
    [0x3014, 0x76d7, 0x3015], [0x3014, 0x52dd, 0x3015], [0x3014, 0x6557, 0x3015]])]

/-- Characters that follow one another: the first one, and as what characters each of them is
    read. -/
def foldTexts : List (Nat × List (List Nat)) :=
  foldLetters ++ foldSigns ++ foldSquares ++ foldForms ++ foldBeyond

/-- Characters that are read as nothing: they have no shape, or only say which shape another
    character has. -/
def passedOver : List (Nat × Nat) := [
  (0xad, 0xad), (0x34f, 0x34f), (0x115f, 0x1160), (0x17b4, 0x17b5), (0x180b, 0x180f),
  (0x200b, 0x200b), (0x2060, 0x2064), (0x206a, 0x206f), (0x3164, 0x3164), (0xfe00, 0xfe0f),
  (0xfeff, 0xfeff), (0xffa0, 0xffa0), (0x1bca0, 0x1bca3), (0x1d173, 0x1d17a), (0xe0100, 0xe01ef)]

/-- Printable characters beyond ASCII that no name can hold. -/
def unnamed : List (Nat × Nat) := [
  (0x2024, 0x2026), (0x2488, 0x249b), (0x2ff0, 0x2fff), (0x31ef, 0x31ef), (0x33c2, 0x33c2),
  (0x33c7, 0x33c7), (0x33d8, 0x33d8), (0xfe12, 0xfe12), (0xfe19, 0xfe19), (0xfe30, 0xfe30),
  (0xfe52, 0xfe52), (0xfffc, 0xfffd), (0x1f100, 0x1f100)]

end Nodewright.Url
