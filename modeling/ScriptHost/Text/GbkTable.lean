/-!
# The table of the double-byte code GBK

Written out are the characters of GB2312 and a few additions: one line for each lead byte from A1 to
F7, in order, with the characters of the trail bytes A1 to FE. A space marks a pair without a
character, and a line may end early. Runs of characters that follow each other in the character set
are shortened to their first character and a plain digit or letter: `0` for one more, `1` for two
more, and so on in the order of the character set. A mark of `gapMarks` stands for the character so
many places behind the last one.
-/

namespace ScriptHost.Text

/-- The marks for characters that come one, two, three and more places after the next one. -/
def gapMarks : List Char := "!#$%&'()*+,-./:;<=>?@[]^_|~".toList

/-- The symbols with the lead bytes A8 and A9 and trail bytes below A1. -/
def symbolRows : List String := [
  "ˊ0.–!::℅$↖2∕*$≒>0⊿═R.93$1▼0◢2☉⊕〒+0",
  "〡7㊣㎎0-1#㏄*#0#︰￢! ℡㈱ ‐   ー゛0ヽ0〆ゝ0﹉8!2!92!2             〇"]

/-- The ideographs that stand behind those of the main block. -/
def lateIdeographs : String :=
  "郎凉~裏*|2!!0$'1!0#1"

/-- The characters of each lead byte from A1 to F7, with their runs. -/
def basicRows : List String := [
  "　1·ˉˇ¨〃!—～‖:‘0#0〔0〈6'0【0±×÷∶∧0∑∏|∩∈∷√⊥∥∠⌒⊙∫#≡≌≈∽∝≠.0≤0∞[∴♂♀°′0℃＄¤￠0‰§№☆★○$◎◇◆□■=▲※→←0!〓",
  "ⅰ8      ⒈B⑴B①8  ㈠8  Ⅰ90",
  "！1￥％z92￣",
  "ぁz6",
  "ァz9",
  "Α95!5        (95!5       ︵0#0%0︽0#2  ︻0︷0︱ !0",
  "А4Ё?H               5~жH",
  "āáǎàēéěèīíǐìōóǒòūúǔùǖ!!!üêɑ ń$ ɡ    ㄅS",
  "   ─z",
  "",
  "",
  "",
  "",
  "",
  "",
  "啊阿埃挨哎唉哀皑癌蔼矮艾碍爱隘鞍氨安俺按暗岸胺案肮昂盎凹敖熬翱袄傲奥懊澳芭捌扒叭吧笆八疤巴拔跋靶把耙坝霸罢爸白柏百摆佰败拜稗斑班搬扳般颁板版扮拌伴瓣半办绊邦帮梆榜膀绑棒磅蚌镑傍谤苞胞包褒剥",
  "薄雹保堡饱宝抱报暴豹鲍爆杯碑悲卑北辈背贝钡倍狈备惫焙被奔苯本笨崩绷甭泵蹦迸逼鼻比鄙笔彼碧蓖蔽毕$毖币庇痹闭敝弊必辟壁臂避陛鞭边编贬扁便变卞辨0!遍标彪膘表鳖憋别瘪彬斌濒滨宾摈兵冰柄丙秉饼炳",
  "病并玻菠播拨钵波博勃搏铂箔伯帛舶脖膊渤泊驳捕卜哺补埠不布步簿部怖擦猜裁材才财睬踩采彩菜蔡餐参蚕残惭惨灿苍舱仓沧藏操糙槽曹草厕策侧册测层蹭插叉茬*查碴搽察岔差诧拆柴豺搀掺蝉馋谗缠铲产阐颤昌猖",
  "场尝常长偿肠厂敞畅唱倡超抄钞朝嘲潮巢吵炒车扯撤掣彻澈郴臣辰尘晨忱沉陈趁衬撑称城橙成呈乘程惩澄诚承逞骋秤吃痴持匙池迟弛驰耻齿侈尺赤翅斥炽充冲虫崇宠抽酬畴踌稠愁筹仇绸瞅丑臭初出橱厨躇锄雏滁除楚",
  "础储矗搐触处揣川穿椽传船喘串疮窗幢床闯创吹炊捶锤垂春椿醇唇淳纯蠢戳绰疵茨磁雌辞慈瓷词此刺赐次聪葱囱匆从丛凑粗醋簇促蹿篡窜摧崔催脆瘁粹淬翠村存寸磋撮搓措挫错搭达答瘩打大呆歹傣戴带殆代贷袋待逮",
  "怠耽担丹单郸掸胆旦氮但惮淡诞弹蛋当挡党荡档刀捣蹈倒岛祷导到稻悼道盗德得的蹬灯登等瞪凳邓堤低滴迪敌笛狄涤翟嫡抵底地蒂第帝弟递缔颠掂滇碘点典靛垫电佃甸店惦奠淀殿碉叼雕凋刁掉吊钓调跌爹碟蝶迭谍叠",
  "丁盯叮钉顶鼎锭定订丢东冬董懂动栋侗恫冻洞兜抖斗陡豆逗痘都督毒犊独读堵睹赌杜镀肚度渡妒端短锻段断缎堆兑队对墩吨蹲敦顿囤钝盾遁掇哆多夺垛躲朵跺舵剁惰堕蛾峨鹅俄额讹娥恶厄扼遏鄂饿恩而儿耳尔饵洱二",
  "贰发罚筏伐乏阀法珐藩帆番翻樊矾钒繁凡烦反返范贩犯饭泛坊芳方肪房防妨仿访纺放菲非啡飞肥匪诽吠肺废沸费芬酚吩氛分纷坟焚汾粉奋份忿愤粪丰封枫蜂峰锋风疯烽逢冯缝讽奉凤佛否夫敷肤孵扶拂辐幅氟符伏俘服",
  "浮涪福袱弗甫抚辅俯釜斧脯腑府腐赴副覆赋复傅付阜父腹负富讣附妇缚咐噶嘎该改概钙盖溉干甘杆柑竿肝赶感秆敢赣冈刚钢缸肛纲岗港杠篙皋高膏羔糕搞镐稿告哥歌搁戈鸽胳疙割革葛格蛤阁隔铬个各给根跟耕更庚羹",
  "埂耿梗工攻功恭龚供躬公宫弓巩汞拱贡共钩勾沟苟狗垢构购够辜菇咕箍估沽孤姑鼓古蛊骨谷股故顾固雇刮瓜剐寡挂褂乖拐怪棺关官冠观管馆罐惯灌贯光广逛瑰规圭硅归龟闺轨鬼诡癸桂柜跪贵刽辊滚棍锅郭国果裹过哈",
  "骸孩海氦亥害骇酣憨邯韩含涵寒函喊罕翰撼捍旱憾悍焊汗汉夯杭航壕嚎豪毫郝好耗号浩呵喝荷菏核禾和何合盒貉阂河涸赫褐鹤贺嘿黑痕很狠恨哼亨横衡恒轰哄烘虹鸿洪宏弘红喉侯猴吼厚候后呼乎忽瑚壶葫胡蝴狐糊湖",
  "弧虎唬护互沪户花哗华猾滑画划化话槐徊怀淮坏欢环桓还缓换患唤痪豢焕涣宦幻荒慌黄磺蝗簧皇凰惶煌晃幌恍谎灰挥辉徽恢蛔回毁悔慧卉惠晦贿秽会烩汇讳诲绘荤昏婚魂浑混豁活伙火获或惑霍货祸击圾基机畸稽积箕",
  "肌饥迹激讥鸡姬绩缉吉极棘辑籍集及急疾汲即嫉级挤几脊己蓟技冀季伎祭剂悸济寄寂计/既忌际妓继纪嘉枷夹佳家加荚颊贾甲钾假稼价架驾嫁歼监坚尖笺间煎兼肩艰奸缄茧检柬碱硷拣捡简俭剪减荐槛鉴践贱见键箭件",
  "健舰剑饯渐溅涧建僵姜将浆江疆蒋桨奖讲匠酱降蕉椒礁焦胶交郊浇骄娇嚼搅铰矫侥脚狡角饺缴绞剿教酵轿$叫窖揭接皆秸街阶截劫节桔杰捷睫竭洁结解姐戒藉芥界借介疥诫届巾筋斤金今津襟紧锦仅谨进靳晋禁近烬浸",
  "尽劲荆兢茎睛晶鲸京惊精粳经井警景颈静境敬镜径痉靖竟竞净炯窘揪究纠玖韭久灸九酒厩救旧臼)咎就疚鞠拘狙疽居驹菊局咀矩举沮聚拒据巨具距踞锯俱句惧炬剧捐鹃娟倦眷卷绢撅攫抉掘倔爵觉决诀绝均菌钧军君峻",
  "俊竣浚郡骏喀咖卡咯开揩楷凯慨刊堪勘坎砍看康慷糠扛抗亢炕考拷烤靠坷苛柯棵磕颗科壳咳可渴克刻客课肯啃垦恳坑吭空恐孔控抠口扣寇枯哭窟苦酷库裤夸垮挎跨胯块筷侩快宽款匡筐狂框矿眶旷况亏盔岿窥葵奎魁傀",
  "馈愧溃坤昆捆困括扩廓阔垃拉喇蜡腊辣啦莱来赖蓝婪栏拦篮阑兰澜谰揽览懒缆烂滥琅榔狼廊郎朗浪捞劳牢老佬姥酪烙涝勒乐雷镭蕾磊累儡垒擂肋类泪棱楞冷厘梨犁黎篱狸离漓理李里鲤礼莉荔吏栗丽厉励砾历利傈例俐",
  "痢立粒沥隶力璃哩俩联莲连镰廉怜涟帘敛脸链恋炼练粮凉梁粱良两辆量晾亮谅撩聊僚疗燎寥辽潦了撂镣廖料列裂烈劣猎琳林磷霖临邻鳞淋凛赁吝拎玲菱零龄铃伶羚凌灵陵岭领另令溜琉榴硫馏留刘瘤流柳六龙聋咙笼窿",
  "隆垄拢陇楼娄搂篓漏陋芦卢颅庐炉掳卤虏鲁麓碌露路赂鹿潞禄录陆戮驴吕铝侣旅履屡缕虑氯律率滤绿峦挛孪滦卵乱掠略抡轮伦仑沦纶论萝螺罗逻锣箩骡裸落洛骆络妈麻玛码蚂马@嘛吗埋买麦卖迈脉瞒馒蛮满蔓曼慢漫",
  "谩芒茫盲氓忙莽猫茅锚毛矛铆卯茂冒帽貌贸么玫枚梅酶霉煤没眉媒镁每美昧寐妹媚门/们萌蒙檬盟锰猛梦孟眯醚靡糜迷谜弥米秘觅泌蜜密幂棉眠绵冕免勉娩缅面苗描瞄藐秒渺庙妙蔑灭民抿皿敏悯闽明螟鸣铭名命谬摸",
  "摹蘑模膜磨摩魔抹末莫墨默沫漠寞陌谋牟某拇牡亩姆母墓暮幕募慕木目睦牧穆拿哪呐钠那娜纳氖乃奶耐奈南男难囊挠脑恼闹淖呢馁内嫩能妮霓倪泥尼拟你匿腻逆溺蔫拈年碾撵捻念娘酿鸟尿捏聂孽啮镊#涅您柠狞凝宁",
  "拧泞牛扭钮纽脓浓农弄奴努怒女暖虐疟挪懦糯诺哦欧鸥殴藕呕偶沤啪趴爬帕怕琶拍排牌徘湃派攀潘盘磐盼畔判叛乓庞旁耪胖抛咆刨炮袍跑泡呸胚培裴赔陪配佩沛喷盆砰抨烹澎彭蓬棚硼篷膨朋鹏捧碰坯砒霹批披劈琵毗",
  "啤脾疲皮匹痞僻屁譬篇偏片骗飘漂瓢票撇瞥拼频贫品聘乒坪苹萍平凭瓶评屏坡泼颇婆破魄迫粕剖扑铺仆莆葡菩蒲埔朴圃普浦谱曝瀑期欺栖戚妻七凄漆柒沏其棋奇歧畦崎脐齐旗祈祁骑起岂乞企启契砌器气迄弃汽泣讫掐",
  "恰洽牵扦钎铅千迁签仟谦乾黔钱!前潜遣浅谴堑嵌欠歉枪呛腔羌墙蔷强抢橇锹敲悄桥瞧乔侨巧鞘撬翘峭俏窍切茄且怯窃钦侵亲秦琴勤芹擒禽寝沁青轻氢倾卿清擎晴氰情顷请庆琼穷秋丘邱球求囚酋泅趋区蛆曲躯屈驱渠",
  "取娶龋趣去圈颧权醛泉全痊拳犬券劝缺炔瘸却鹊榷确雀裙群然燃冉染瓤壤攘嚷让饶扰绕惹热壬仁人忍韧任认刃妊纫扔仍日戎茸蓉荣融熔溶容绒冗揉柔肉茹蠕儒孺如辱乳汝入褥软阮蕊瑞锐闰润若弱撒洒萨腮鳃塞赛三叁",
  "伞散桑嗓丧搔骚扫嫂瑟色涩森僧莎砂杀刹沙纱傻啥煞筛晒珊苫杉山删煽衫闪陕擅赡膳善汕扇缮墒伤商赏晌上尚裳梢捎稍烧芍勺韶少哨邵绍奢赊蛇舌0赦摄射慑涉社设砷申呻伸身深娠绅神沈审婶甚肾慎渗声生&牲升绳",
  "省盛剩胜圣师失狮施湿诗尸虱十石拾时什食蚀实识史矢使屎驶始式示士世柿事拭誓逝势是嗜噬适仕侍释饰氏市恃室视试收手首守寿授售受瘦兽蔬枢梳殊抒输叔舒淑疏书赎孰熟薯暑曙署蜀黍鼠属术述树束戍竖墅庶数漱",
  "恕刷耍摔衰甩帅栓拴霜双爽谁水睡税吮瞬顺舜说硕朔烁斯撕嘶思私司丝死肆寺嗣四伺!饲巳松耸怂颂送宋讼诵搜艘擞嗽苏酥俗素速粟僳塑溯宿诉肃酸蒜算虽隋$绥髓碎岁穗遂隧祟孙损笋蓑梭唆缩琐索锁所塌他它她塔",
  "獭挞蹋踏胎苔抬台泰酞太态汰坍摊贪瘫滩坛檀痰潭谭谈坦毯袒碳探叹炭汤塘搪堂棠膛唐糖倘躺淌趟烫掏涛滔绦萄桃逃淘陶讨套特藤腾疼誊梯剔踢锑提题蹄啼体替嚏惕涕剃屉天添填田甜恬舔腆挑条迢眺跳贴铁帖厅听烃",
  "汀廷停亭庭挺艇通桐酮瞳同铜彤童桶捅筒统痛偷投头透凸秃突图徒途涂屠土吐兔湍团推颓腿蜕褪退吞屯臀拖托脱鸵陀驮.椭妥拓唾挖哇蛙洼娃瓦袜歪外豌弯湾玩顽丸烷完碗挽晚皖惋宛婉万腕汪王亡枉网往旺望忘妄威",
  "巍微危韦违桅围唯惟为潍维苇萎委伟+尾纬未蔚味畏胃喂魏位渭谓尉慰卫瘟温蚊文闻纹吻稳紊问嗡翁瓮挝蜗涡窝我斡卧握沃巫呜钨乌污诬屋无芜梧吾吴毋武五捂午舞伍侮坞戊雾晤物勿务悟误昔熙析西硒矽晰嘻吸锡牺",
  "稀息希悉膝夕惜熄烯溪汐犀檄袭席习媳喜铣洗系隙戏细瞎虾匣霞辖暇峡侠狭下厦夏吓掀锨先仙鲜纤咸贤衔舷闲涎弦嫌显险现献县腺馅羡宪陷限线相厢镶香箱襄湘乡翔祥详想响享项巷橡像向象萧硝霄削哮嚣销消宵淆晓",
  "小孝校肖啸笑效楔些歇蝎鞋协挟携邪斜胁谐写械卸蟹懈泄泻谢屑薪芯锌欣辛新忻心信衅星腥猩惺兴刑型形邢行醒幸杏性姓兄凶胸匈汹雄熊休修羞朽嗅锈秀袖绣墟戌需虚嘘须徐许蓄酗叙旭序畜恤絮婿绪#轩喧宣悬旋玄",
  "选癣眩绚靴薛学穴雪血勋熏循旬询寻驯巡殉汛训!逊迅压押鸦'呀丫芽牙蚜崖衙涯雅哑亚讶焉咽阉烟淹盐严研蜒岩延言颜阎炎沿奄掩眼衍演艳堰燕厌砚雁唁彦焰宴谚验殃央鸯秧杨扬佯疡羊洋阳氧仰痒养样漾邀腰妖瑶",
  "摇尧遥窑谣姚咬舀药要耀椰噎耶爷野冶也页掖业叶曳腋夜液一壹医揖铱依伊衣颐夷遗移仪胰疑沂宜姨彝椅蚁倚已乙矣以艺抑易邑屹亿役臆逸肄疫亦裔意毅忆义益溢诣议谊译异翼翌绎茵荫因殷音阴姻吟银淫寅饮尹引隐",
  "印英樱婴鹰应缨莹萤0荧蝇迎赢盈影颖硬映哟拥佣臃痈庸雍踊蛹咏泳涌永恿勇用幽优悠忧尤由邮铀犹油游酉有友右佑釉诱又幼迂淤于盂榆虞愚舆余俞逾鱼愉渝渔隅予娱雨与屿禹宇语羽玉域芋郁吁遇喻峪御愈欲狱育誉",
  "浴寓裕预豫驭鸳渊冤元垣袁原援辕园员圆猿源缘远苑愿怨院曰约越跃钥岳粤月悦阅耘云郧匀陨允运蕴酝晕韵孕匝砸杂栽哉灾宰载再在咱攒暂赞赃脏葬遭糟凿藻枣早澡蚤躁噪造皂灶燥责择则泽贼怎增憎曾赠扎喳渣札轧",
  "铡闸眨栅榨咋乍炸诈摘斋宅窄债寨瞻毡詹粘沾盏斩辗崭展蘸栈占战站湛绽樟章彰漳张掌涨杖丈帐账仗胀瘴障招昭找沼赵照罩兆肇召遮折哲蛰辙者锗蔗这浙珍斟真甄砧臻贞针侦枕疹诊震振镇阵蒸挣睁征狰争怔整拯正政",
  "帧症郑证芝枝支吱蜘知肢脂汁之织职直植殖执值侄址指止趾只旨纸志挚掷至0置帜峙制智秩稚质炙痔滞治窒中盅忠钟衷终种肿重仲众舟周州洲诌粥轴肘帚咒皱宙昼骤珠株蛛朱猪诸诛逐竹烛煮拄瞩嘱主著柱助蛀贮铸筑",
  "住注祝驻抓爪拽专砖转撰赚篆桩庄装妆撞壮状椎锥追赘坠缀谆准捉拙卓桌琢茁酌啄着灼浊兹咨资姿滋淄孜紫仔籽滓子自渍字鬃棕踪宗综总纵邹走奏揍租足卒族祖诅阻组钻纂嘴醉最罪尊遵昨左佐柞做作坐座",
  "亍丌兀丐廿卅丕亘丞鬲孬噩丨禺丿匕乇夭爻卮氐囟胤馗毓睾鼗丶亟鼐乜-亓芈孛啬嘏仄厍:&!)靥赝匚叵匦(:赜卦卣刂&&刭&,0,<#剜蒯剽%劁/#冂罔亻(&仂仨仡*仞伛仳伢佤仵伥!伉伫佞)攸佚#",
  "佟佗伲+佶佴侑侉侃,佾佻侪佼侬侔俦!!俅?)俜俑.^倩偌俳倬倏倮倭俾倜倌^#偾偃<偈&偬/傥!!;~儆僭僬僦(^$仝氽佘-俎龠汆籴兮巽黉馘冁夔勹>訇匐凫夙兕亠兖亳衮袤亵脔裒禀嬴蠃羸冫&,冼",
  "凇冖,#讠&0#*0!+0($诎$1!!0##0$$0%!#####0!!#%#!0!1#!谘%!1$!#0#0#0!0卩;阝%阡:阪=阼&'++(%&!>%*^邗$!邙=邡=邳#$",
  "邸邰郏郅邾<郄#,=郢郜郗$:$/&鄢鄞%.鄯**#刍奂劢*0;哿勐&_叟燮矍廴凵'鬯厶弁畚巯坌垩垡塾墼),圩#圪)&圮0坜圻'坩~坫|坼坻坨%)坳垭垤垌垲埏垧-垓-埕#!埙埒垸埴埯)埤埝",
  "堋!埽埭=堞堙塄堠塥'?(;墀馨鼙懿艹$!:芊芨芄*#&!<-&芰]!^芘芷芮苋0苁芩+芡)芟苄*芤苡茉苷苤茏茇苜]苒&茌苻苓茑)茆.0苠苕茜荑*0茈莒茼茴茱莛荞茯荏荇荃~荀茗荠茭-茳荦荥",
  "荨茛荩#荪#0莰荸莳0莠*莓)莅荼莶莩荽莸荻莘&*<!%萁菥菘堇萘萋菝菽菖萜~萑萆菔+萏萃菸0菪菅菀萦菰菡葜葑)葙_>0葺/葸萼*葩-@!萱葭蓁,#@蒽@蓊蒿蒺蓠蒡]蒴蒗蓥蓣蔌甍蔸蓰蔹蔟|",
  "蕖蔻蓿蓼蕙蕈蕨蕤蕞~瞢蕃蕲)薤$薇(蕹薮薜薅薹薷薰藓藁|藿蘧蘅蘩蘖蘼廾*夼%耷奕%奘匏尢#'(扌扪抟~/:拗[挢拶挹<捃掭揶捱)>掴捭掬掊捩掮.揲&揠揿揄_揎摒揆掾摅摁搋:%搌_搡摞撄摭撖",
  "摺撷0撙撺&:'-擢攉~)弋忒甙弑卟叱,叩叨=[$吆呋'1!呃吡呗!吣/咂<呷呱呤咚0咄呶呦咝哐咭?咴哒咧咦哓0呲咣哕咻$--0!咩0咤哝哏/唛哧唠哽[哳唢0唏!@#啧喏喵啉啭啁>唿;唼",
  "唷啖啵1唳唰啜喋嗒喃喱(喈喁喟啾嗖喑啻嗟喽0喔%嗪-嗉嘟嗑_0嗔<嗝嗄嗯嗥-0嗌0|-嗤辔嘞嘈$嘁嘤嘣嗾!嘧&噘嘹噗嘬噍?噙#噌(嚆噤-噫:0).~囔#&$>囫.&%&圉=帏*帔帑帱*0",
  "帷-:'##岌屺=#&岈:0岑)!^岢|岬岫&岣峁岷-.<峋_崂0崧崦(崤崞崆?嵘崾崴)嵬嵛>嵝.嵋嵊嵩+.[$豳嶷.彳$+%!#)$#,%('衢彡犭#$#0+狁-狍%@'狩)!#*狳:狺",
  "狻~猓.猊>猝猕-[猥',猱獐獍*),#/舛夥飧夤夂饣$4(#&#$####0!1庀;庋+/庠^庵)庳赓廒廑*-!膺忄%-忏怃忮@忡#_'0忪#+怙~怦怛怏怍~!怊怿怡恸0!恺恂",
  "恪=^$=悝悃/悌/惬悻悱惝惘惆>悴愠&愕.惴,.愫慊慵憬憔=:懔懵忝隳闩!&!!0&!%0!!!2!##1!0丬爿戕氵汔(汊沣沅+$沌汨0+!:沩泐$沭泷0泱泗沲泠泖泺泫#沱泓~/",
  "洹洧洌浃%洇洄?洎洫浍洮'洚浏#!洳涑浯涞!浞涓0浜$~浣渚淇淅^渎涿淠渑淦淝淙渖涫渌涮渫湮湎湫溲湟溆湓0渲渥湄滟溱溘滠漭滢溥!@溻溷滗溴|溏滂溟潢潆0漤漕滹漯'?潴漪漉漩澉$澌潸潲*潺濑",
  "濉澧<澶,濡-濞!/瀚)瀛瀹瀵_/宀$;宓<=甯骞搴寤*褰寰蹇謇辶迓!:)迤%迦-迨逅逄'|逑逍)+>0逭!?-0遐]遘*遛暹遴)%&邃(彐'彖!尻咫屐)孱屣#羼弪弩$艴弼鬻屮妁!*~0妣",
  "妗姊妫妞&姒妲妯姗妾娅0姝娈姣姘姹=娉娲!娑<娓婀婧婊+娼婢=胬媪媛婷#媾嫫媲嫒!媸嫠#.嫖:嫘$嬉.嬖~%)尕'孚+.孑!/驵!0!%驽#0$#!&!0#!#1!0!0!!纟!!!#0",
  "纭#.!1'!0$$#$%0'##0!0|绶$0##1$0#0#!0%!#缛$!5#2!3!幺畿巛甾邕玎#玮玢玟珏珂/玷玳-)珈珥珙顼琊珩珧珞玺珲琏|瑛琦琥#(琮琬",
  "琛琚瑁|瑗瑕$瑷瑭;璜璎璀0&$=*0璐[瓒璺韪1杌'+杈杩枥枇杪)枘/杵枨枞/枋杷%柰^柘栊柩枰栌柙枵柚枳柝栀柃枸柢栎柁柽栲0桠0桎>桄桤梃栝桕;桁桧桀栾,桉栩梵梏桴#~桫棂楮棼椟0棹",
  "椤棰|椁楗棣椐楱椹楠楂|榄楫?]楸椴槌榇0槎榉楦楣@榛,>榫!槔榱:)?榕槠榍槿樯槭樗0橥槲橄樾檠橐+樵檎橹樽樨橘橼?檐^檗>猷|殁0%殄.0殍-0&)轫!$1!0!轷!0!!#0!#$",
  "辍1)!軎戋,$$#戡$戤(臧瓯%+:!!攴旮1_/杲昃<昀炅曷昝[昱%昵耆晟晔晁.'+晗晷-(|暝暾曛0*#贲0#%!#%0!0赇&($觇#1!2牮犟牝))/0%'!!#挈挲掰",
  "搿擘耄毪)*毵$,!氆'(#1'(氤&(攵敕@牍%$爰虢刖肟肜肓肼朊肽肱肫!'#胧2胛胂!?胍*朐胝.&#胭脍0胲*朕脒豚脶脞.脘_@$'腴腙0[腠)=0腭腧塍媵膈膂/滕膣'臌朦臊膻",
  "臁膦欤=!*#=飑1!$0殳彀毂觳斐齑斓於*旄旃)!$$炀~炖'炻%炷炫&烨烊焐##^!煳煜,煅煲煊煸!熘|!熨熠燠燔=<爝+灬焘煦熹戾戽&%0礻%&#<0祓'(祗)/祧=+%:-,忑忐",
  "怼恝恚-恁]*悫愆'慝憩憝懋&戆肀聿沓泶淼矶!().0砑斫砭砜0~1砟砼砥'砣&硎硭硖0砦硐硇%硪碛碓'碇?%!/'碥磔%磉磬&=磴礓;礞@龛黹!0盱=)盹.0<(眙>眦/#]0睇睃[.",
  "睢#_.睽#,%.0:%(町&.畋畈=['*罘)罟詈罨,罱((罾盍]蠲钅1$钊!0!0$#钕%1'0'钪#钬#0!!!3!0!%$5!1#1!铘##1!!0!0!",
  "铩!#0$1!!#0!$锂$0!0#1#3!#!1#(0锩#%0!!1$!0#锵/1##!0#1!2!#0镝$0!7#!1锺矧%雉秕]秣(|嵇稃稂~稔",
  "稹稷_黏馥穰皈&%&+瓞!甬鸠!&3&鸱%!鸷!0$#0!!2!0!#$!#1!%#5%鹭&疒!!*疝/疣:0$,疱疰=痂>痍@%痦痤'痧~痱+#;瘀%'+瘊|瘘瘕$",
  "瘛瘼瘢瘠癀瘭#/瘵.瘾瘳_;癔(癖?$翊竦穸0'&!-;窠,窨%&衤%)+!#袢裆袷%-^裎?!,褚裼裨@裰褡褙褓(褊褴褫++襦?疋胥皲!矜耒!!&$!#1!耨)耋耵.#'%[(覃顸(#",
  "颉#0!%&0#0!0#0虍']!;虺!虻蚨蚍蚋蚬蚝*蚣'蚓@-.蚵^蚰*蚱蚯_&蚴蛩(0蛭&蛐蜓蛞@蛟蛘蛑蜃$蛸:!#蜉_]蜞')蜚蜾*蜴蜱蜩.(螂蜢蝽0蝻蝠:蝌蝮螋蝓:^蝤蝙,螓~螨蟒",
  "蟆螈螅螭螗螃螫蟥螬)螳](螽>蟀*;/蟠.蠖蠓蟾,;&]#缶,!0舐竺#+笃0;笊笫笏筇笸笪笙?#笠%笤/+笞筘!筅筵筌;#.-筢:筱箐@0;箬箝+箅箪箜&))篑篁+;篚+0$簌篾篼='簋",
  "簟+簦<)籀臾#0!臬衄舡1*!舨#-#舳0*&%!$+%)衾'#裘'襞羝!((0!籼敉粑,粜!$:*0$&%0糈糅<;艮暨羿/':翡%#%%糸絷綦(繇纛麸麴赳;:趑趱赧&豇!酊&酎0?",
  "酢酡/酩&.0酲!%=醅+醍$;0'#1&醴&豕鹾趸跫_蹙:趵*趼趺*<0#$跎0,跆跬+0跣@!跤踉跽[)!-!踣,+&踹踵(踱]蹁0/0蹊蹰&&蹯%;*%躐,!豸*(貅=貔斛觖(觚!",
  "觥&$訾謦靓雩*雯[霁''霎~##.龀#!4!黾-!隹#0;$瞿雠銎銮_錾鍪鏊鎏鐾鑫鱿##2稣鲋#!1!0%0#4!3!!0!6#2'2#0",
  "鳌3#1!1#0!#靼),0!|鞫鞣/!骱骰'鹘骶$!%髀%髂)0%魅魃$!魈%$飨餍餮饕饔髟!%)髫:髭,/'$,$麽0縻麂%0#'鏖麝!黛1#黟#'黧黥%%鼢*#*鼷&0&"]

end ScriptHost.Text
