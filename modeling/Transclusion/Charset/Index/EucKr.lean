import Transclusion.Charset.Index

/-!
# The index of EUC-KR

The characters of EUC-KR with all syllables of Hangul, by pointer: 190 to a first byte.
-/

namespace Transclusion.Index

@[irreducible] def eucKr : Index := .ofStretches
  [.text "갂갃갅갆갋갌갍갎갏갘갞갟갡갢갣갥갦갧갨갩갪갫갮갲갳갴", .gap 6, .text "갵갶갷갺갻갽갾갿걁걂걃걄걅걆걇걈걉걊걌걎걏걐걑걒걓걕", .gap 6,
    .text "걖걗걙걚걛", .run 0xAC5D 19,
    .text "걲걳걵걶걹걻걼걽걾걿겂겇겈겍겎겏겑겒겓겕겖겗겘겙겚겛겞겢겣겤겥겦겧겫겭겮겱겲겳겴겵겶겷겺겾겿곀곂곃곅곆곇곉곊곋곍곎곏곐곑곒곓곔곖곘곙곚곛곜곝곞곟곢곣곥곦곩곫곭곮곲곴곷곸",
    .text "곹곺곻곾곿괁괂괃괅괇괈괉괊괋괎괐괒괓괔괕괖괗괙괚괛괝괞괟괡괢괣괤괥괦괧괨괪괫괮괯괰괱괲괳", .gap 6,
    .text "괶괷괹괺괻괽괾괿굀굁굂굃굆굈굊굋굌굍굎굏굑굒굓굕굖굗", .gap 6,
    .text "굙굚굛굜굝굞굟굠굢굤굥굦굧굨굩굪굫굮굯굱굲굷굸굹굺굾궀궃궄궅궆궇궊궋궍궎궏궑궒궓궔궕궖궗궘궙궚궛궞궟궠궡궢궣", .run 0xADA5 18,
    .text "궸궹궺궻궼궽궾궿귂귃귅귆귇귉귊귋귌귍귎귏귒귔귕귖귗귘귙귚귛귝귞귟귡귢귣", .run 0xADE5 19,
    .text "귺귻귽귾긂긃긄긅긆긇긊긌긎긏긐긑긒긓긕긖긗긘긙긚긛긜", .gap 6, .run 0xAE1D 19, .text "긲긳긵긶긹긻긼", .gap 6,
    .text "긽긾긿깂깄깇깈깉깋깏깑깒깓깕깗깘깙깚깛깞깢깣깤깦깧깪깫깭깮깯깱깲깳깴깵깶깷깺깾깿꺀꺁꺂꺃꺆꺇꺈꺉꺊꺋", .run 0xAE8D 47,
    .text "꺿껁껂껃껅껆껇껈껉껊껋껎껒껓껔껕껖껗껚껛껝껞껟껠껡껢껣껤껥껦껧껩껪껬껮껯껰껱껲껳껵껶껷껹껺껻껽껾껿꼀꼁꼂꼃꼄꼅", .gap 6, .text "꼆꼉꼊꼋꼌꼎꼏",
    .run 0xAF11 19, .gap 6, .text "꼤꼥꼦꼧꼨꼩꼪꼫꼮꼯꼱꼳꼵꼶꼷꼸꼹꼺꼻꼾꽀꽄꽅꽆꽇꽊꽋꽌꽍꽎꽏꽑꽒꽓꽔꽕꽖꽗꽘꽙꽚꽛꽞꽟꽠꽡꽢꽣",
    .run 0xAF66 19, .text "꽺꽻꽼꽽꽾꽿꾁꾂꾃꾅꾆꾇꾉꾊꾋꾌꾍꾎꾏꾒꾓꾔꾖꾗꾘꾙꾚꾛", .run 0xAF9D 27,
    .text "꾺꾻꾽꾾꾿꿁꿂꿃꿄꿅꿆꿊꿌꿏꿐꿑꿒꿓꿕꿖꿗꿘꿙꿚꿛꿝꿞꿟꿠꿡", .gap 6, .text "꿢꿣꿤꿥꿦꿧꿪꿫꿬꿭꿮꿯꿲꿳꿵꿶꿷꿹꿺꿻꿼꿽꿾꿿뀂뀃", .gap 6,
    .text "뀅뀆뀇뀈뀉뀊뀋뀍뀎뀏뀑뀒뀓뀕뀖뀗뀘뀙뀚뀛뀞뀟뀠뀡뀢뀣뀤뀥뀦뀧", .run 0xB029 27, .text "끆끇끉끋끍끏끐끑끒끖끘끚끛끜", .run 0xB05E 30,
    .text "끾끿낁낂낃낅낆낇낈낉낊낋낎낐낒낓낔낕낖낗낛낝낞낣낤낥낦낧낪낰낲낶낷낹낺낻낽낾낿냀냁냂냃냆냊냋냌냍냎냏냒", .gap 6,
    .text "냓냕냖냗냙냚냛냜냝냞냟냡냢냣냤냦냧냨냩냪냫냬냭냮냯냰", .gap 6, .run 0xB0F1 23,
    .text "넊넍넎넏넑넔넕넖넗넚넞넟넠넡넢넦넧넩넪넫넭넮넯넰넱넲넳넶넺넻넼넽넾넿녂녃녅녆녇녉녊녋녌녍녎녏녒녓녖녗녙녚녛녝녞녟", .run 0xB161 23,
    .text "녺녻녽녾녿놁놃놄놅놆놇놊놌놎놏놐놑놕놖놗놙놚놛놝놞놟놠놡놢놣놤놥놦놧", .run 0xB1A9 16, .gap 6, .run 0xB1B9 19,
    .text "뇍뇎뇏뇑뇒뇓뇕", .gap 6, .text "뇖뇗뇘뇙뇚뇛뇞뇠뇡뇢뇣뇤뇥뇦뇧뇪뇫뇭뇮뇯뇱뇲뇳뇴뇵뇶뇷뇸뇺뇼뇾뇿눀눁눂눃눆눇눉눊눍눎눏눐눑눒눓눖눘눚눛눜눝눞눟",
    .run 0xB221 19, .text "눵눶눷눸눹눺눻", .run 0xB23D 27,
    .text "뉙뉚뉛뉝뉞뉟뉡뉢뉣뉤뉥뉦뉧뉪뉫뉬뉭뉮뉯뉰뉱뉲뉳뉶뉷뉸뉹뉺뉻뉽뉾뉿늀늁늂늃늆늇늈늊늋늌늍늎", .gap 6,
    .text "늏늒늓늕늖늗늛늜늝늞늟늢늤늧늨늩늫늭늮늯늱늲늳늵늶늷", .gap 6, .run 0xB2B8 16,
    .text "닊닋닍닎닏닑닓닔닕닖닗닚닜닞닟닠닡닣닧닩닪닰닱닲닶닼닽닾댂댃댅댆댇댉댊댋댌댍댎댏댒댖댗댘댙댚댛", .run 0xB31D 55,
    .text "덗덙덚덝덠덡덢덣덦덨덪덬덭덯덲덳덵덶덷덹덺덻덼덽덾덿뎂뎆뎇뎈뎉뎊뎋뎍", .gap 6, .text "뎎뎏뎑뎒뎓뎕뎖뎗뎘뎙뎚뎛뎜뎝뎞뎟뎢뎣뎤뎥뎦뎧뎩뎪뎫뎭", .gap 6,
    .run 0xB3AE 22, .text "돆돇돉돊돍돏돑돒돓돖돘돚돜돞돟돡돢돣돥돦돧", .run 0xB3E9 19, .run 0xB3FD 19,
    .text "됑됒됓됔됕됖됗됙됚됛됝됞됟됡됢됣됤됥됦됧됪됬됭됮됯됰됱됲됳", .run 0xB435 27, .text "둒둓둕둖둗둙둚둛둜둝둞둟둢둤둦", .gap 6,
    .text "둧둨둩둪둫", .run 0xB46D 19, .text "뒁뒂", .gap 6, .text "뒃뒄뒅뒆뒇", .run 0xB489 20,
    .text "뒞뒟뒠뒡뒢뒣뒥뒦뒧뒩뒪뒫뒭뒮뒯뒰뒱뒲뒳뒴뒶뒸뒺뒻뒼뒽뒾뒿듁듂듃듅듆듇듉듊듋듌듍듎듏듑듒듓듔듖듗듘듙듚듛듞듟듡듢듥듧듨듩듪듫듮듰듲듳듴듵듶듷", .run 0xB4F9 27,
    .text "딖딗딙딚딝딞딟딠딡딢딣딦딫딬딭딮딯딲딳딵딶딷딹딺딻딼딽딾딿땂땆", .gap 6, .text "땇땈땉땊땎땏땑땒땓땕땖땗땘땙땚땛땞땢땣땤땥땦땧땨땩땪", .gap 6,
    .run 0xB56B 53, .text "떢떣떥떦떧떩떬떭떮떯떲떶떷떸떹떺떾떿뗁뗂뗃뗅뗆뗇뗈뗉뗊뗋뗎뗒뗓뗔뗕뗖뗗", .run 0xB5D9 19, .run 0xB5ED 35,
    .text "똒똓똕똖똗똙똚똛똜똝", .gap 6, .text "똞똟똠똡똢똣똤똦똧똨똩똪똫똭똮똯똰똱똲똳똵똶똷똸똹똺", .gap 6, .run 0xB63B 13,
    .run 0xB649 27, .text "뙥뙦뙧", .run 0xB669 51, .text "뚞뚟뚡뚢뚣뚥뚦뚧뚨뚩뚪뚭뚮뚯뚰", .run 0xB6B2 34,
    .text "뛕뛖뛗뛘뛙뛚뛛뛜뛝", .gap 6, .run 0xB6DE 18, .text "뛱뛲뛳뛵뛶뛷뛹뛺", .gap 6, .text "뛻뛼뛽뛾뛿뜂뜃뜄",
    .run 0xB706 34,
    .text "뜪뜫뜭뜮뜱뜲뜳뜴뜵뜶뜷뜺뜼뜽뜾뜿띀띁띂띃띅띆띇띉띊띋띍띎띏띐띑띒띓띖띗띘띙띚띛띜띝띞띟띡띢띣띥띦띧띩띪띫띬띭띮띯띲띴띶띷띸띹띺띻띾띿랁랂랃랅랆랇랈랉랊랋랎랓랔랕랚랛랝랞",
    .text "랟랡랢랣랤랥랦랧랪랮랯랰랱랲랳랶랷랹랺랻랼랽랾랿럀럁", .gap 6, .text "럂럃럄럅럆럈", .run 0xB7CA 20, .gap 6,
    .run 0xB7DE 14, .text "럮럯럱럲럳럵럶럷럸럹럺럻럾렂렃렄렅렆렊렋렍렎렏렑렒렓렔렕렖렗렚렜렞렟렠렡렢렣렦렧렩렪렫렭렮렯렰렱렲렳렶렺렻렼렽렾렿롁롂롃",
    .run 0xB845 12, .text "롒롔롕롖롗롘롙롚롛롞롟롡롢롣롥롦롧롨롩롪롫롮롰롲롳롴롵롶롷롹롺롻", .run 0xB87D 16, .run 0xB88E 18,
    .gap 6, .text "뢠뢡뢢뢣뢤뢥뢦뢧뢩뢪뢫뢬뢭뢮뢯뢱뢲뢳뢵뢶뢷뢹뢺뢻뢼뢽", .gap 6,
    .text "뢾뢿룂룄룆룇룈룉룊룋룍룎룏룑룒룓룕룖룗룘룙룚룛룜룞룠룢룣룤룥룦룧룪룫룭룮룯룱룲룳룴룵룶룷룺룼룾룿뤀뤁뤂뤃", .run 0xB905 19, .text "뤙뤚뤛뤜뤝뤞뤟",
    .run 0xB921 27, .text "뤾뤿륁륂륃륅륆륇륈륉륊륋륍륎륐륒륓륔륕륖륗륚륛륝륞륟륡륢륣륤륥륦륧륪륬륮륯륰륱륲륳륶륷륹륺륻륽", .gap 6,
    .text "륾륿릀릁릂릃릆릈릋릌", .run 0xB98F 16, .gap 6, .run 0xB99F 13,
    .text "릮릯릱릲릳릵릶릷릸릹릺릻릾맀맂맃맄맅맆맇맊맋맍맓맔맕맖맗맚맜맟맠맢맦맧맩맪맫맭맮맯맰맱맲맳맶맻맼맽맾맿먂먃먄먅먆먇", .run 0xBA09 12,
    .run 0xBA16 34, .text "먺먻먽먾먿멁멃멄멅멆멇멊멌멏멐멑멒멖멗멙멚멛멝멞멟멠멡멢멣멦멪멫멬멭멮멯", .gap 6,
    .text "멲멳멵멶멷멹멺멻멼멽멾멿몀몁몂몆몈몉몊몋몍몎몏몐몑몒", .gap 6, .run 0xBA93 21, .text "몪몭몮몯몱몳몴몵몶몷몺몼몾몿뫀뫁뫂뫃뫅뫆뫇",
    .run 0xBAC9 15, .run 0xBADA 34,
    .text "뫽뫾뫿묁묂묃묅묆묇묈묉묊묋묌묎묐묒묓묔묕묖묗묙묚묛묝묞묟묡묢묣묤묥묦묧묨묪묬묭묮묯묰묱묲묳묷묹묺묿뭀뭁뭂뭃뭆뭈뭊뭋뭌뭎뭑뭒", .gap 6,
    .text "뭓뭕뭖뭗뭙뭚뭛뭜뭝뭞뭟뭠뭢뭤뭥뭦뭧뭨뭩뭪뭫뭭뭮뭯뭰뭱", .gap 6, .run 0xBB72 22, .text "뮉뮊뮋뮍뮎뮏", .run 0xBB91 19,
    .text "뮥뮦뮧뮩뮪뮫뮭뮮뮯뮰뮱뮲뮳뮵뮶뮸뮹뮺뮻뮼뮽뮾뮿믁믂믃믅믆믇믉믊믋믌믍믎믏믑믒", .run 0xBBD4 36,
    .text "믺믻믽믾밁밃밄밅밆밇밊밎밐밒밓밙밚밠밡밢밣밦밨밪밫밬밮밯밲밳밵", .gap 6, .text "밶밷밹밺밻밼밽밾밿뱂뱆뱇뱈뱊뱋뱎뱏뱑뱒뱓뱔뱕뱖뱗뱘뱙", .gap 6,
    .text "뱚뱛뱜", .run 0xBC5E 38, .text "벆벇벉벊벍벏벐벑벒벓벖벘벛벜벝벞벟벢벣벥벦벩벪벫벬벭벮벯벲벶벷벸벹벺벻벾벿볁볂볃볅볆볇볈볉볊볋볌볎볒볓볔볖볗볙볚볛",
    .run 0xBCDD 23, .text "볷볹볺볻볽볾볿봀봁봂봃봆봈봊봋봌봍봎봏봑봒봓봕봖봗봘봙봚봛봜봝", .gap 6, .text "봞봟봠봡봢봣봥봦봧봨봩봪봫",
    .run 0xBD2D 13, .gap 6, .text "봺봻봼봽봾봿뵁뵂뵃뵄뵅뵆뵇뵊뵋뵍뵎뵏뵑뵒뵓뵔뵕뵖뵗뵚뵛뵜뵝뵞뵟뵠뵡뵢뵣뵥뵦뵧", .run 0xBD69 23,
    .text "붂붃붅붆붋붌붍붎붏붒붔붖붗붘붛붝붞붟붠붡붢붣붥붦붧붨붩붪붫붬붭붮붯붱붲붳붴붵붶붷", .run 0xBDB9 27, .text "뷖뷗뷙뷚뷛",
    .run 0xBDDD 12, .text "뷪뷫뷬뷭뷮뷯뷱", .gap 6, .text "뷲뷳뷵뷶뷷뷹뷺뷻뷼뷽뷾뷿븁븂븄븆븇븈븉븊븋븎븏븑븒븓", .gap 6,
    .text "븕븖븗븘븙븚븛븞", .run 0xBE20 36,
    .text "빆빇빉빊빋빍빏빐빑빒빓빖빘빜빝빞빟빢빣빥빦빧빩빫빬빭빮빯빲빶빷빸빹빺빾빿뺁뺂뺃뺅뺆뺇뺈뺉뺊뺋뺎뺒뺓뺔뺕뺖뺗", .run 0xBE9A 14, .run 0xBEA9 39,
    .text "뻒뻓", .gap 6, .text "뻕뻖뻙뻚뻛뻜뻝뻞뻟뻡뻢뻦뻧뻨뻩뻪뻫뻭뻮뻯뻰뻱뻲뻳뻴뻵", .gap 6, .text "뻶뻷뻸뻹뻺뻻뻼뻽뻾뻿뼀뼂뼃뼄뼅뼆뼇",
    .run 0xBF0A 14, .text "뼚", .run 0xBF1E 34, .text "뽂뽃뽅뽆뽇뽉뽊뽋뽌뽍뽎뽏뽒뽓뽔", .run 0xBF56 62,
    .text "뾕뾖뾗뾘뾙뾚뾛뾜뾝", .gap 6, .run 0xBF9E 18, .text "뾱뾲뾳뾴뾵뾶뾷뾸", .gap 6, .run 0xBFB9 12,
    .text "뿆뿇뿈뿉뿊뿋뿎뿏뿑뿒뿓뿕뿖뿗뿘뿙뿚뿛뿝뿞뿠", .run 0xBFE2 90, .run 0xC03D 20, .text "쁒쁓쁔쁕쁖쁗쁙쁚쁛", .gap 6,
    .text "쁝쁞쁟쁡쁢쁣쁤쁥쁦쁧", .run 0xC06A 16, .gap 6, .run 0xC07A 22,
    .text "삒삓삕삖삗삙삚삛삜삝삞삟삢삤삦삧삨삩삪삫삮삱삲삷삸삹삺삻삾샂샃샄샆샇샊샋샍샎샏샑샒샓샔샕샖샗샚샞샟샠샡샢샣샦샧샩샪샫샭샮샯샰샱샲샳샶샸샺샻샼샽샾샿섁섂섃섅섆섇섉섊섋섌섍",
    .text "섎섏섑섒섓섔섖섗섘섙섚섛섡섢섥섨섩섪섫섮섲섳섴섵섷섺섻섽섾섿셁셂셃셄셅셆셇셊셎셏셐셑셒셓셖셗", .gap 6,
    .text "셙셚셛셝셞셟셠셡셢셣셦셪셫셬셭셮셯셱셲셳셵셶셷셹셺셻", .gap 6, .text "셼셽셾셿솀솁솂솃솄솆솇솈솉솊솋솏솑솒솓솕솗솘솙솚솛솞솠솢솣솤솦솧솪솫솭솮솯",
    .run 0xC1B1 12,
    .text "솾솿쇀쇁쇂쇃쇅쇆쇇쇉쇊쇋쇍쇎쇏쇐쇑쇒쇓쇕쇖쇙쇚쇛쇜쇝쇞쇟쇡쇢쇣쇥쇦쇧쇩쇪쇫쇬쇭쇮쇯쇲쇴쇵쇶쇷쇸쇹쇺쇻쇾쇿숁숂숃숅숆숇숈숉숊숋숎숐숒숓숔숕숖숗숚숛숝숞숡숢숣숤숥숦숧숪숬숮",
    .text "숰숳", .run 0xC235 17, .gap 6, .text "쉆쉇쉉쉊쉋쉌쉍쉎쉏쉒쉓쉕쉖쉗쉙쉚쉛쉜쉝쉞쉟쉡쉢쉣쉤쉦", .gap 6,
    .text "쉧쉨쉩쉪쉫쉮쉯쉱쉲쉳쉵쉶쉷쉸쉹쉺쉻쉾슀슂슃슄슅슆슇슊슋슌슍슎슏슑슒슓슔슕슖슗슙슚슜슞슟슠슡슢슣슦슧슩슪슫슮슯슰슱슲슳슶슸", .run 0xC2BA 34,
    .text "싞싟싡싢싥싦싧싨싩싪싮싰싲싳싴싵싷싺싽싾싿쌁쌂쌃쌄쌅쌆쌇쌊쌋쌎쌏쌐쌑쌒쌖쌗쌙쌚쌛쌝쌞쌟쌠쌡쌢쌣쌦쌧쌪쌫쌬쌭쌮쌯쌰쌱쌲", .gap 6, .run 0xC333 18,
    .text "썆썇썈썉썊썋썌썍", .gap 6, .run 0xC34E 26, .text "썪썫썭썮썯썱썳썴썵썶썷썺썻썾썿쎀쎁쎂쎃쎅쎆쎇쎉쎊쎋", .run 0xC38D 51,
    .run 0xC3C1 23, .text "쏚쏛쏝쏞쏡쏣쏤쏥쏦쏧쏪쏫쏬쏮쏯쏰쏱쏲쏳쏶쏷쏹쏺쏻쏼쏽쏾", .gap 6,
    .text "쏿쐀쐁쐂쐃쐄쐅쐆쐇쐉쐊쐋쐌쐍쐎쐏쐑쐒쐓쐔쐕쐖쐗쐘쐙쐚", .gap 6, .text "쐛쐜쐝쐞쐟쐠쐡쐢쐣쐥쐦쐧쐨쐩쐪쐫쐭쐮쐯쐱쐲쐳쐵쐶쐷쐸쐹쐺쐻쐾쐿쑀쑁쑂쑃쑄쑅쑆쑇",
    .run 0xC449 27, .text "쑦쑧쑩쑪쑫쑭쑮쑯쑰쑱쑲쑳쑶쑷쑸쑺쑻쑼쑽쑾쑿", .run 0xC481 19, .text "쒕쒖쒗쒘쒙쒚쒛", .run 0xC49D 27,
    .text "쒹쒺쒻쒽쒾쒿쓀쓁쓂쓃쓄쓅", .gap 6, .run 0xC4C6 26, .gap 6,
    .text "쓠쓡쓢쓣쓤쓥쓦쓧쓨쓪쓫쓬쓭쓮쓯쓲쓳쓵쓶쓷쓹쓻쓼쓽쓾씂씃씄씅씆씇씈씉씊씋씍씎씏씑씒씓씕씖씗씘씙씚씛씝씞씟씠씡씢씣씤씥씦씧씪씫씭씮씯씱씲씳씴씵씶씷씺씼씾씿앀앁앂앃앆앇앋앏앐",
    .text "앑앒앖앚앛앜앟앢앣앥앦앧앩앪앫앬앭앮앯앲앶앷앸앹앺앻앾앿얁얂얃얅얆얈얉얊얋얎얐얒얓얔얖얙얚얛얝얞얟얡얢얣얤얥얦얧얨얪얫얬얭얮얯얰얱얲얳얶", .gap 6,
    .text "얷얺얿엀엁엂엃엋엍엏엒엓엕엖엗엙엚엛엜엝엞엟엢엤엦엧", .gap 6,
    .text "엨엩엪엫엯엱엲엳엵엸엹엺엻옂옃옄옉옊옋옍옎옏옑옒옓옔옕옖옗옚옝옞옟옠옡옢옣옦옧옩옪옫옯옱옲옶옸옺옼옽옾옿왂왃왅왆왇왉왊왋왌왍왎왏왒왖왗왘왙왚왛왞왟왡왢왣왤왥왦왧왨왩왪왫",
    .text "왭왮왰왲왳왴왵왶왷왺왻왽왾왿욁욂욃욄욅욆욇욊욌욎욏욐욑욒욓욖욗욙욚욛욝욞욟욠욡욢욣욦욨욪욫욬욭욮욯욲욳욵욶욷욻욼욽욾욿웂웄웆웇웈웉웊웋웎", .gap 6,
    .text "웏웑웒웓웕웖웗웘웙웚웛웞웟웢웣웤웥웦웧웪웫웭웮웯웱웲", .gap 6,
    .text "웳웴웵웶웷웺웻웼웾웿윀윁윂윃윆윇윉윊윋윍윎윏윐윑윒윓윖윘윚윛윜윝윞윟윢윣윥윦윧윩윪윫윬윭윮윯윲윴윶윸윹윺윻윾윿읁읂읃읅읆읇읈읉읋읎읐읙읚읛읝읞읟읡읢읣읤읥읦읧읩읪읬읭읮",
    .text "읯읰읱읲읳읶읷읹읺읻읿잀잁잂잆잋잌잍잏잒잓잕잙잛잜잝잞잟잢잧잨잩잪잫잮잯잱잲잳잵잶잷잸잹잺잻잾쟂쟃쟄쟅쟆쟇쟊쟋쟍쟏쟑쟒쟓쟔쟕쟖쟗쟙쟚쟛쟜", .gap 6,
    .text "쟞쟟쟠쟡쟢쟣쟥쟦쟧쟩쟪쟫", .run 0xC7ED 14, .gap 6,
    .text "쟻쟼쟽쟾쟿젂젃젅젆젇젉젋젌젍젎젏젒젔젗젘젙젚젛젞젟젡젢젣젥젦젧젨젩젪젫젮젰젲젳젴젵젶젷젹젺젻젽젾젿졁졂졃졄졅졆졇졊졋졎졏졐졑졒졓", .run 0xC855 27,
    .text "졲졳졵졶졷졹졻졼졽졾졿좂좄좈좉좊좎좏좐좑좒좓좕좖좗좘좙좚좛좜좞좠좢좣좤좥좦좧", .run 0xC8A9 19, .text "좾좿죀죁", .gap 6,
    .text "죂죃죅죆죇죉죊죋죍죎죏죐죑죒죓죖죘죚죛죜죝죞죟죢죣죥", .gap 6, .run 0xC8E6 15, .text "죶죷죸죹죺죻죾죿줁줂줃줇줈줉줊줋줎",
    .run 0x3000 3, .text "·‥…", .run 0xA8 1, .text "〃", .run 0xAD 1,
    .text "―∥＼∼‘’“”〔〕〈〉《》「」『』【】±×÷≠≤≥∞∴°′″℃", .run 0x212B 1,
    .text "￠￡￥♂♀∠⊥⌒∂∇≡≒§※☆★○●◎◇◆□■△▲▽▼→←↑↓↔〓≪≫√∽∝∵∫∬∈∋⊆⊇⊂⊃∪∩∧∨￢줐줒줓줔줕줖줗", .run 0xC919 19, .gap 6,
    .text "줭줮줯줰줱줲줳", .run 0xC935 19, .gap 6, .text "쥈쥉쥊쥋쥌쥍쥎쥏쥒쥓쥕쥖쥗쥙쥚쥛쥜쥝쥞쥟쥢쥤쥥쥦쥧쥨쥩쥪쥫쥭쥮쥯⇒⇔∀∃",
    .run 0xB4 1, .text "～", .run 0x2C7 1, .run 0x2D8 1, .run 0x2DD 1, .run 0x2DA 1, .run 0x2D9 1,
    .run 0xB8 1, .run 0x2DB 1, .text "¡¿", .run 0x2D0 1,
    .text "∮∑∏¤℉‰◁◀▷▶♤♠♡♥♧♣⊙◈▣◐◑▒▤▥▨▧▦▩♨☏☎☜☞¶†‡↕↗↙↖↘♭♩♪♬㉿㈜№㏇™㏂㏘℡€®", .gap 23,
    .text "쥱쥲쥳쥵쥶쥷쥸쥹쥺쥻쥽쥾쥿즀즁즂즃즄즅즆즇즊즋즍즎즏", .gap 6, .text "즑즒즓즔즕즖즗즚즜", .run 0xC99E 17, .gap 6,
    .run 0xC9AF 17, .text "짂짃짅짆짉짋짌짍짎짏짒짔짗짘짛", .run 0xFF01 59, .text "￦", .run 0xFF3D 33,
    .run 0xFFE3 1, .text "짞짟짡짣짥짦짨짩짪짫짮짲짳짴짵짶짷짺짻짽짾짿쨁쨂쨃쨄", .gap 6, .text "쨅쨆쨇쨊쨎쨏쨐쨑쨒쨓쨕쨖쨗",
    .run 0xCA19 13, .gap 6, .text "쨦쨧쨨", .run 0xCA2A 29, .run 0x3131 94,
    .text "쩇쩈쩉쩊쩋쩎쩏쩑쩒쩓쩕쩖쩗쩘쩙쩚쩛쩞쩢쩣쩤쩥쩦쩧쩩쩪", .gap 6, .run 0xCA6B 18, .text "쩾쩿쪀쪁쪂쪃쪅쪆", .gap 6,
    .run 0xCA87 17, .run 0xCA99 15, .text "ⅰⅱⅲⅳⅴⅵⅶⅷⅸⅹ", .gap 5, .text "ⅠⅡⅢⅣⅤⅥⅦⅧⅨⅩ", .gap 7,
    .run 0x391 17, .text "ΣΤΥΦΧΨΩ", .gap 8, .run 0x3B1 17, .text "στυφχψω", .gap 6, .run 0xCAA8 20,
    .text "쪾쪿쫁쫂쫃쫅", .gap 6, .text "쫆쫇쫈쫉쫊쫋쫎쫐쫒쫔쫕쫖쫗쫚쫛쫜쫝쫞쫟쫡쫢쫣쫤쫥쫦쫧", .gap 6, .text "쫨쫩쫪쫫쫭쫮쫯쫰쫱쫲쫳",
    .run 0xCAF5 19, .text "쬉쬊─│┌┐┘└├┬┤┴┼━┃┏┓┛┗┣┳┫┻╋┠┯┨┷┿┝┰┥┸╂┒┑┚┙┖┕┎┍┞┟┡┢┦┧┩┪┭┮┱┲┵┶┹┺┽┾╀╁╃╄╅╆╇╈╉╊",
    .gap 26, .text "쬋쬌쬍쬎쬏쬑쬒쬓쬕쬖쬗쬙쬚쬛쬜쬝쬞쬟쬢쬣쬤쬥쬦쬧쬨쬩", .gap 6, .run 0xCB2A 23, .text "쭂쭃쭄", .gap 6,
    .text "쭅쭆쭇쭊쭋쭍쭎쭏쭑쭒쭓쭔쭕쭖쭗쭚쭛쭜쭞쭟쭠쭡쭢쭣쭥쭦쭧쭨쭩쭪쭫쭬㎕㎖㎗ℓ㎘㏄㎣㎤㎥㎦㎙㎚㎛㎜㎝㎞㎟㎠㎡㎢㏊㎍㎎㎏㏏㎈㎉㏈㎧㎨㎰㎱㎲㎳㎴㎵㎶㎷㎸㎹㎀㎁㎂㎃㎄㎺㎻㎼㎽㎾㎿㎐",
    .text "㎑㎒㎓㎔", .run 0x2126 1, .text "㏀㏁㎊㎋㎌㏖㏅㎭㎮㎯㏛㎩㎪㎫㎬㏝㏐㏓㏃㏉㏜㏆", .gap 15, .text "쭭쭮쭯쭰쭱쭲쭳쭴쭵쭶쭷",
    .run 0xCB7A 15, .gap 6, .run 0xCB89 19, .text "쮝쮞쮟쮠쮡쮢쮣", .gap 6, .run 0xCBA4 20,
    .run 0xCBB9 12, .text "ÆÐªĦ", .gap 1, .text "Ĳ", .gap 1, .text "ĿŁØŒºÞŦŊ", .gap 1,
    .run 0x3260 28, .run 0x24D0 26, .run 0x2460 15, .text "½⅓⅔¼¾⅛⅜⅝⅞", .run 0xCBC5 15,
    .text "쯕쯖쯗쯘쯙쯚쯛쯜쯝쯞쯟", .gap 6, .text "쯠쯡쯢쯣쯥쯦쯨", .run 0xCBEA 19, .gap 6, .run 0xCBFD 15,
    .text "찎찏찑찒찓찕찖찗찘찙찚찛찞찟찠찣찤æđðħıĳĸŀłøœßþŧŋŉ", .run 0x3200 28, .run 0x249C 26, .run 0x2474 15,
    .text "¹²³⁴", .run 0x207F 1, .text "₁₂₃₄찥찦찪찫찭찯찱찲찳찴찵찶찷찺찿챀챁챂챃챆챇챉챊챋챍챎", .gap 6,
    .text "챏챐챑챒챓챖챚챛챜챝챞챟챡챢챣챥챧챩챪챫챬챭챮챯챱챲", .gap 6, .text "챳챴", .run 0xCC76 30, .run 0x3041 83,
    .gap 11, .text "첔첕첖첗첚첛첝첞첟첡첢첣첤첥첦첧첪첮첯첰첱첲첳첶첷첹", .gap 6, .text "첺첻첽첾첿쳀쳁쳂쳃쳆쳈쳊쳋쳌쳍쳎쳏쳑쳒쳓쳕쳖쳗쳘쳙쳚",
    .gap 6, .text "쳛쳜쳝쳞쳟쳠쳡쳢쳣쳥쳦쳧쳨쳩쳪쳫쳭쳮쳯", .run 0xCCF1 13, .run 0x30A1 86, .gap 8,
    .text "쳾쳿촀촂촃촄촅촆촇촊촋촍촎촏촑촒촓촔촕촖촗촚촜촞촟촠", .gap 6, .text "촡촢촣촥촦촧촩촪촫", .run 0xCD2D 12, .text "촺촻촼촽촾",
    .gap 6, .run 0xCD3F 29, .text "쵝쵞쵟АБВГДЕЁ", .run 0x416 26, .gap 15, .text "абвгдеё",
    .run 0x436 26, .gap 13, .text "쵡쵢쵣쵥쵦쵧쵨쵩쵪쵫쵮쵰쵲쵳쵴쵵쵶쵷쵹쵺쵻쵼쵽쵾쵿춀", .gap 6,
    .text "춁춂춃춄춅춆춇춉춊춋춌춍춎춏춐춑춒춓춖춗춙춚춛춝춞춟", .gap 6, .text "춠춡춢춣춦춨춪춫춬춭춮춯", .run 0xCDB1 19, .text "췅",
    .gap 94, .text "췆췇췈췉췊췋췍췎췏", .run 0xCDD1 17, .gap 6, .text "췢췣췤췥췦췧췩췪췫췭췮췯췱췲췳췴췵췶췷췺췼췾췿츀츁츂", .gap 6,
    .text "츃츅츆츇츉츊츋츍츎츏츐츑츒츓츕츖츗츘츚츛츜츝츞츟츢츣츥츦츧츩츪츫", .gap 94, .text "츬츭츮츯츲츴", .run 0xCE36 20, .gap 6,
    .run 0xCE4A 14, .text "칚칛칝칞칢칣칤칥칦칧칪칬", .gap 6, .text "칮칯칰칱칲칳칶칷칹칺칻칽칾칿캀캁캂캃캆캈캊캋캌캍캎캏캒캓캕캖캗캙",
    .gap 94, .text "캚캛캜캝캞캟캢캦캧캨캩캪캫", .run 0xCEAE 13, .gap 6, .text "캻캼캽캾캿컀", .run 0xCEC2 20, .gap 6,
    .run 0xCED6 14,
    .text "컦컧컩컪컭컮컯컰컱컲컳컶컺컻컼컽컾컿가각간갇갈갉갊감갑값갓갔강갖갗같갚갛개객갠갤갬갭갯갰갱갸갹갼걀걋걍걔걘걜거걱건걷걸걺검겁것겄겅겆겉겊겋게겐겔겜겝겟겠겡겨격겪견겯결겸",
    .text "겹겻겼경곁계곈곌곕곗고곡곤곧골곪곬곯곰곱곳공곶과곽관괄괆켂켃켅켆켇켉켊켋켌켍켎켏켒켔켖켗켘켙켚켛켝켞켟켡켢켣", .gap 6, .text "켥켦켧켨켩켪켫켮켲켳켴켵켶켷",
    .run 0xCF39 12, .gap 6, .run 0xCF45 15,
    .text "콖콗콙콚콛콝콞콟콠콡콢콣콦콨콪콫콬괌괍괏광괘괜괠괩괬괭괴괵괸괼굄굅굇굉교굔굘굡굣구국군굳굴굵굶굻굼굽굿궁궂궈궉권궐궜궝궤궷귀귁귄귈귐귑귓규균귤그극근귿글긁금급긋긍긔기긱",
    .text "긴긷길긺김깁깃깅깆깊까깍깎깐깔깖깜깝깟깠깡깥깨깩깬깰깸콭콮콯콲콳콵콶콷콹콺콻콼콽콾콿쾁쾂쾃쾄쾆쾇쾈쾉쾊쾋쾍", .gap 6, .run 0xCF8E 19,
    .text "쾢쾣쾤쾥쾦쾧쾩", .gap 6, .text "쾪쾫쾬쾭쾮쾯", .run 0xCFB1 19,
    .text "쿅쿆쿇쿈쿉쿊쿋깹깻깼깽꺄꺅꺌꺼꺽꺾껀껄껌껍껏껐껑께껙껜껨껫껭껴껸껼꼇꼈꼍꼐꼬꼭꼰꼲꼴꼼꼽꼿꽁꽂꽃꽈꽉꽐꽜꽝꽤꽥꽹꾀꾄꾈꾐꾑꾕꾜꾸꾹꾼꿀꿇꿈꿉꿋꿍꿎꿔꿜꿨꿩꿰꿱꿴꿸뀀뀁뀄",
    .text "뀌뀐뀔뀜뀝뀨끄끅끈끊끌끎끓끔끕끗끙", .run 0xCFCC 20, .text "쿢쿣쿥쿦쿧쿩", .gap 6,
    .text "쿪쿫쿬쿭쿮쿯쿲쿴쿶쿷쿸쿹쿺쿻쿽쿾쿿퀁퀂퀃퀅퀆퀇퀈퀉퀊", .gap 6, .text "퀋퀌퀍퀎퀏퀐퀒퀓퀔퀕퀖퀗", .run 0xD019 20,
    .text "끝끼끽낀낄낌낍낏낑나낙낚난낟날낡낢남납낫났낭낮낯낱낳내낵낸낼냄냅냇냈냉냐냑냔냘냠냥너넉넋넌널넒넓넘넙넛넜넝넣네넥넨넬넴넵넷넸넹녀녁년녈념녑녔녕녘녜녠노녹논놀놂놈놉놋농높",
    .text "놓놔놘놜놨뇌뇐뇔뇜뇝퀮퀯퀰퀱퀲퀳퀶퀷퀹퀺퀻퀽퀾퀿큀큁큂큃큆큈큊큋큌큍큎큏", .gap 6, .text "큑큒큓큕큖큗큙큚큛큜큝큞큟큡큢큣큤큥큦큧큨큩큪큫큮큯",
    .gap 6, .text "큱큲큳큵큶큷큸큹큺큻큾큿킀", .run 0xD082 19,
    .text "뇟뇨뇩뇬뇰뇹뇻뇽누눅눈눋눌눔눕눗눙눠눴눼뉘뉜뉠뉨뉩뉴뉵뉼늄늅늉느늑는늘늙늚늠늡늣능늦늪늬늰늴니닉닌닐닒님닙닛닝닢다닥닦단닫달닭닮닯닳담답닷닸당닺닻닿대댁댄댈댐댑댓댔댕댜",
    .text "더덕덖던덛덜덞덟덤덥", .run 0xD095 15, .text "킦킧킩킪킫킭킮킯킰킱킲", .gap 6,
    .text "킳킶킸킺킻킼킽킾킿탂탃탅탆탇탊탋탌탍탎탏탒탖탗탘탙탚", .gap 6, .text "탛탞탟탡탢탣탥탦탧탨탩탪탫탮탲탳탴탵탶탷", .run 0xD0F9 12,
    .text "덧덩덫덮데덱덴델뎀뎁뎃뎄뎅뎌뎐뎔뎠뎡뎨뎬도독돈돋돌돎돐돔돕돗동돛돝돠돤돨돼됐되된될됨됩됫됴두둑둔둘둠둡둣둥둬뒀뒈뒝뒤뒨뒬뒵뒷뒹듀듄듈듐듕드득든듣들듦듬듭듯등듸디딕딘딛딜",
    .text "딤딥딧딨딩딪따딱딴딸턅턆턇턈턉턊턋턌", .run 0xD10E 18, .gap 6, .run 0xD120 16, .text "턲턳턵턶턷턹턻턼턽턾", .gap 6,
    .text "턿텂텆텇텈텉텊텋텎텏텑텒텓텕텖텗텘텙텚텛텞텠텢텣텤텥텦텧텩텪텫텭땀땁땃땄땅땋때땍땐땔땜땝땟땠땡떠떡떤떨떪떫떰떱떳떴떵떻떼떽뗀뗄뗌뗍뗏뗐뗑뗘뗬또똑똔똘똥똬똴뙈뙤뙨뚜뚝뚠뚤",
    .text "뚫뚬뚱뛔뛰뛴뛸뜀뜁뜅뜨뜩뜬뜯뜰뜸뜹뜻띄띈띌띔띕띠띤띨띰띱띳띵라락란랄람랍랏랐랑랒랖랗", .run 0xD16E 14, .text "텽텾텿톀톁톂톃톅톆톇톉톊",
    .gap 6, .run 0xD18B 21, .text "톢톣톥톦톧", .gap 6, .text "톩톪톫톬톭톮톯톲톴톶톷톸톹톻톽톾톿", .run 0xD1C1 15,
    .text "래랙랜랠램랩랫랬랭랴략랸럇량러럭런럴럼럽럿렀렁렇레렉렌렐렘렙렛렝려력련렬렴렵렷렸령례롄롑롓로록론롤롬롭롯롱롸롼뢍뢨뢰뢴뢸룀룁룃룅료룐룔룝룟룡루룩룬룰룸룹룻룽뤄뤘뤠뤼뤽륀",
    .text "륄륌륏륑류륙륜률륨륩퇐퇑퇒퇓퇔퇕퇖퇗", .run 0xD1D9 18, .gap 6, .text "퇫퇬퇭퇮퇯퇰퇱퇲퇳퇵퇶퇷", .run 0xD1F9 14,
    .gap 6, .text "툈툊툋툌툍툎툏", .run 0xD211 25,
    .text "륫륭르륵른를름릅릇릉릊릍릎리릭린릴림립릿링마막만많맏말맑맒맘맙맛망맞맡맣매맥맨맬맴맵맷맸맹맺먀먁먈먕머먹먼멀멂멈멉멋멍멎멓메멕멘멜멤멥멧멨멩며멱면멸몃몄명몇몌모목몫몬몰",
    .text "몲몸몹못몽뫄뫈뫘뫙뫼툪툫툮툯툱툲툳툵툶툷툸툹툺툻툾퉀퉂퉃퉄퉅퉆퉇퉉퉊퉋퉌", .gap 6, .run 0xD24D 15, .text "퉝퉞퉟퉠퉡퉢퉣퉥퉦퉧퉨",
    .gap 6, .run 0xD269 23,
    .text "튂튃튅튆튇튉튊튋튌묀묄묍묏묑묘묜묠묩묫무묵묶문묻물묽묾뭄뭅뭇뭉뭍뭏뭐뭔뭘뭡뭣뭬뮈뮌뮐뮤뮨뮬뮴뮷므믄믈믐믓미믹민믿밀밂밈밉밋밌밍및밑바박밖밗반받발밝밞밟밤밥밧방밭배백밴밸",
    .text "뱀뱁뱃뱄뱅뱉뱌뱍뱐뱝버벅번벋벌벎범법벗튍튎튏튒튓튔튖튗튘튙튚튛튝튞튟튡튢튣튥튦튧튨튩튪튫튭", .gap 6,
    .text "튮튯튰튲튳튴튵튶튷튺튻튽튾틁틃틄틅틆틇틊틌틍틎틏틐틑", .gap 6,
    .text "틒틓틕틖틗틙틚틛틝틞틟틠틡틢틣틦틧틨틩틪틫틬틭틮틯틲틳틵틶틷틹틺벙벚베벡벤벧벨벰벱벳벴벵벼벽변별볍볏볐병볕볘볜보복볶본볼봄봅봇봉봐봔봤봬뵀뵈뵉뵌뵐뵘뵙뵤뵨부북분붇불붉붊",
    .text "붐붑붓붕붙붚붜붤붰붸뷔뷕뷘뷜뷩뷰뷴뷸븀븃븅브븍븐블븜븝븟비빅빈빌빎빔빕빗빙빚빛빠빡빤틻틼틽틾틿팂팄팆팇팈팉팊팋팏팑팒팓팕팗팘팙팚팛팞팢팣", .gap 6,
    .text "팤팦팧팪팫팭팮팯팱팲팳팴팵팶팷팺팾팿퍀퍁퍂퍃퍆퍇퍈퍉", .gap 6, .run 0xD34A 32,
    .text "빨빪빰빱빳빴빵빻빼빽뺀뺄뺌뺍뺏뺐뺑뺘뺙뺨뻐뻑뻔뻗뻘뻠뻣뻤뻥뻬뼁뼈뼉뼘뼙뼛뼜뼝뽀뽁뽄뽈뽐뽑뽕뾔뾰뿅뿌뿍뿐뿔뿜뿟뿡쀼쁑쁘쁜쁠쁨쁩삐삑삔삘삠삡삣삥사삭삯산삳살삵삶삼삽삿샀상샅",
    .text "새색샌샐샘샙샛샜생샤", .run 0xD36A 18, .text "퍾퍿펁펂펃펅펆펇", .gap 6,
    .text "펈펉펊펋펎펒펓펔펕펖펗펚펛펝펞펟펡펢펣펤펥펦펧펪펬펮", .gap 6,
    .text "펯펰펱펲펳펵펶펷펹펺펻펽펾펿폀폁폂폃폆폇폊폋폌폍폎폏폑폒폓폔폕폖샥샨샬샴샵샷샹섀섄섈섐섕서석섞섟선섣설섦섧섬섭섯섰성섶세섹센셀셈셉셋셌셍셔셕션셜셤셥셧셨셩셰셴셸솅소속솎",
    .text "손솔솖솜솝솟송솥솨솩솬솰솽쇄쇈쇌쇔쇗쇘쇠쇤쇨쇰쇱쇳쇼쇽숀숄숌숍숏숑수숙순숟술숨숩숫숭폗폙폚폛폜폝폞폟폠폢폤폥폦폧폨폩폪폫폮폯폱폲폳폵폶폷", .gap 6,
    .text "폸폹폺폻폾퐀퐂퐃퐄퐅퐆퐇", .run 0xD409 14, .gap 6, .text "퐗퐘퐙퐚퐛퐜", .run 0xD41E 26,
    .text "숯숱숲숴쉈쉐쉑쉔쉘쉠쉥쉬쉭쉰쉴쉼쉽쉿슁슈슉슐슘슛슝스슥슨슬슭슴습슷승시식신싣실싫심십싯싱싶싸싹싻싼쌀쌈쌉쌌쌍쌓쌔쌕쌘쌜쌤쌥쌨쌩썅써썩썬썰썲썸썹썼썽쎄쎈쎌쏀쏘쏙쏜쏟쏠쏢쏨",
    .text "쏩쏭쏴쏵쏸쐈쐐쐤쐬쐰퐸퐹퐺퐻퐼퐽퐾퐿푁푂푃", .run 0xD445 15, .gap 6, .text "푔푕푖푗푘푙푚푛푝푞푟푡푢푣푥푦푧푨푩푪푫푬푮푰푱푲",
    .gap 6,
    .text "푳푴푵푶푷푺푻푽푾풁풃풄풅풆풇풊풌풎풏풐풑풒풓풕풖풗풘풙풚풛풜풝쐴쐼쐽쑈쑤쑥쑨쑬쑴쑵쑹쒀쒔쒜쒸쒼쓩쓰쓱쓴쓸쓺쓿씀씁씌씐씔씜씨씩씬씰씸씹씻씽아악안앉않알앍앎앓암압앗았앙앝",
    .text "앞애액앤앨앰앱앳앴앵야약얀얄얇얌얍얏양얕얗얘얜얠얩어억언얹얻얼얽얾엄업없엇었엉엊엌엎풞풟풠풡풢풣풤풥풦풧풨", .run 0xD4AA 15, .gap 6,
    .run 0xD4B9 19, .text "퓍퓎퓏퓑퓒퓓퓕", .gap 6,
    .text "퓖퓗퓘퓙퓚퓛퓝퓞퓠퓡퓢퓣퓤퓥퓦퓧퓩퓪퓫퓭퓮퓯퓱퓲퓳퓴퓵퓶퓷퓹퓺퓼에엑엔엘엠엡엣엥여역엮연열엶엷염엽엾엿였영옅옆옇예옌옐옘옙옛옜오옥온올옭옮옰옳옴옵옷옹옻와왁완왈왐왑왓왔",
    .text "왕왜왝왠왬왯왱외왹왼욀욈욉욋욍요욕욘욜욤욥욧용우욱운울욹욺움웁웃웅워웍원월웜웝웠웡웨퓾퓿픀픁픂픃픅픆픇픉픊픋픍픎픏픐픑픒픓픖픘픙픚픛픜픝", .gap 6,
    .run 0xD51E 26, .gap 6,
    .text "픸픹픺픻픾픿핁핂핃핅핆핇핈핉핊핋핎핐핒핓핔핕핖핗핚핛핝핞핟핡핢핣웩웬웰웸웹웽위윅윈윌윔윕윗윙유육윤율윰윱윳융윷으윽은을읊음읍읏응읒읓읔읕읖읗의읜읠읨읫이익인일읽읾잃임입",
    .text "잇있잉잊잎자작잔잖잗잘잚잠잡잣잤장잦재잭잰잴잼잽잿쟀쟁쟈쟉쟌쟎쟐쟘쟝쟤쟨쟬저적전절젊핤핦핧핪핬핮핯핰핱핲핳핶핷핹핺핻핽핾핿햀햁햂햃햆햊햋", .gap 6,
    .text "햌햍햎햏", .run 0xD591 20, .text "햦햧", .gap 6, .run 0xD5A8 32,
    .text "점접젓정젖제젝젠젤젬젭젯젱져젼졀졈졉졌졍졔조족존졸졺좀좁좃종좆좇좋좌좍좔좝좟좡좨좼좽죄죈죌죔죕죗죙죠죡죤죵주죽준줄줅줆줌줍줏중줘줬줴쥐쥑쥔쥘쥠쥡쥣쥬쥰쥴쥼즈즉즌즐즘즙즛",
    .text "증지직진짇질짊짐집짓헊헋헍헎헏헑헓헔헕헖헗헚헜헞헟헠헡헢헣헦헧헩헪헫헭헮", .gap 6, .text "헯헰헱헲헳헶헸헺헻헼헽헾헿혂혃혅혆혇혉혊혋혌혍혎혏혒",
    .gap 6,
    .text "혖혗혘혙혚혛혝혞혟혡혢혣혥혦혧혨혩혪혫혬혮혯혰혱혲혳혴혵혶혷혺혻징짖짙짚짜짝짠짢짤짧짬짭짯짰짱째짹짼쨀쨈쨉쨋쨌쨍쨔쨘쨩쩌쩍쩐쩔쩜쩝쩟쩠쩡쩨쩽쪄쪘쪼쪽쫀쫄쫌쫍쫏쫑쫓쫘쫙쫠",
    .text "쫬쫴쬈쬐쬔쬘쬠쬡쭁쭈쭉쭌쭐쭘쭙쭝쭤쭸쭹쮜쮸쯔쯤쯧쯩찌찍찐찔찜찝찡찢찧차착찬찮찰참찹찻혽혾혿홁홂홃홄홆홇홊홌홎홏홐홒홓홖홗홙홚홛홝홞홟홠홡", .gap 6,
    .text "홢홣홤홥홦홨홪홫홬홭홮홯홲홳", .run 0xD675 12, .gap 6,
    .text "횁횂횄횆횇횈횉횊횋횎횏횑횒횓횕횖횗횘횙횚횛횜횞횠횢횣횤횥횦횧횩횪찼창찾채책챈챌챔챕챗챘챙챠챤챦챨챰챵처척천철첨첩첫첬청체첵첸첼쳄쳅쳇쳉쳐쳔쳤쳬쳰촁초촉촌촐촘촙촛총촤촨촬",
    .text "촹최쵠쵤쵬쵭쵯쵱쵸춈추축춘출춤춥춧충춰췄췌췐취췬췰췸췹췻췽츄츈츌츔츙츠측츤츨츰츱츳층횫횭횮횯횱횲횳횴횵횶횷횸횺횼횽횾횿훀훁훂훃훆훇훉훊훋", .gap 6,
    .text "훍훎훏훐훒훓훕훖훘훚훛훜훝훞훟훡훢훣훥훦훧훩훪훫훬훭", .gap 6, .text "훮훯훱훲훳훴훶훷훸훹훺훻훾훿휁휂휃", .run 0xD705 12,
    .text "휒휓휔치칙친칟칠칡침칩칫칭카칵칸칼캄캅캇캉캐캑캔캘캠캡캣캤캥캬캭컁커컥컨컫컬컴컵컷컸컹케켁켄켈켐켑켓켕켜켠켤켬켭켯켰켱켸코콕콘콜콤콥콧콩콰콱콴콸쾀쾅쾌쾡쾨쾰쿄쿠쿡쿤쿨쿰",
    .text "쿱쿳쿵쿼퀀퀄퀑퀘퀭퀴퀵퀸퀼휕휖휗휚휛휝휞휟휡휢휣휤휥휦휧휪휬휮휯휰휱휲휳휶휷휹", .gap 6, .text "휺휻휽휾휿흀흁흂흃흅흆흈흊흋흌흍흎흏흒흓흕흚흛흜흝흞",
    .gap 6,
    .text "흟흢흤흦흧흨흪흫흭흮흯흱흲흳흵흶흷흸흹흺흻흾흿힀힂힃힄힅힆힇힊힋큄큅큇큉큐큔큘큠크큭큰클큼큽킁키킥킨킬킴킵킷킹타탁탄탈탉탐탑탓탔탕태택탠탤탬탭탯탰탱탸턍터턱턴털턺텀텁텃",
    .text "텄텅테텍텐텔템텝텟텡텨텬텼톄톈토톡톤톨톰톱톳통톺톼퇀퇘퇴퇸툇툉툐투툭툰툴툼툽툿퉁퉈퉜힍힎힏힑힒힓힔힕힖힗힚힜힞힟힠힡힢힣", .gap 78,
    .text "퉤튀튁튄튈튐튑튕튜튠튤튬튱트특튼튿틀틂틈틉틋틔틘틜틤틥티틱틴틸팀팁팃팅파팍팎판팔팖팜팝팟팠팡팥패팩팬팰팸팹팻팼팽퍄퍅퍼퍽펀펄펌펍펏펐펑페펙펜펠펨펩펫펭펴편펼폄폅폈평폐폘",
    .text "폡폣포폭폰폴폼폽폿퐁", .gap 96,
    .text "퐈퐝푀푄표푠푤푭푯푸푹푼푿풀풂품풉풋풍풔풩퓌퓐퓔퓜퓟퓨퓬퓰퓸퓻퓽프픈플픔픕픗피픽핀필핌핍핏핑하학한할핥함합핫항해핵핸핼햄햅햇했행햐향허헉헌헐헒험헙헛헝헤헥헨헬헴헵헷헹혀",
    .text "혁현혈혐협혓혔형혜혠", .gap 96,
    .text "혤혭호혹혼홀홅홈홉홋홍홑화확환활홧황홰홱홴횃횅회획횐횔횝횟횡효횬횰횹횻후훅훈훌훑훔훗훙훠훤훨훰훵훼훽휀휄휑휘휙휜휠휨휩휫휭휴휵휸휼흄흇흉흐흑흔흖흗흘흙흠흡흣흥흩희흰흴흼",
    .text "흽힁히힉힌힐힘힙힛힝", .gap 286,
    .text "伽佳假價加可呵哥嘉嫁家暇架枷柯歌珂痂稼苛茄街袈訶賈跏軻迦駕刻却各恪慤殼珏脚覺角閣侃刊墾奸姦干幹懇揀杆柬桿澗癎看磵稈竿簡肝艮艱諫間乫喝曷渴碣竭葛褐蝎鞨勘坎堪嵌感憾戡敢柑橄",
    .text "減甘疳監瞰紺邯鑑鑒龕", .gap 96, .text "匣岬甲胛鉀閘剛堈姜岡崗康强彊慷江畺疆糠絳綱羌腔舡薑襁講鋼降鱇介价個凱塏愷愾慨改槪漑疥皆盖箇芥蓋",
    .run 0xF900 1, .text "鎧開喀客坑", .run 0xF901 1, .text "粳羹醵倨去居巨拒据據擧渠炬祛距踞", .run 0xF902 1,
    .text "遽鉅鋸乾件健巾建愆楗腱虔蹇鍵騫乞傑杰桀儉劍劒檢", .gap 96,
    .text "瞼鈐黔劫怯迲偈憩揭擊格檄激膈覡隔堅牽犬甄絹繭肩見譴遣鵑抉決潔結缺訣兼慊箝謙鉗鎌京俓倞傾儆勁勍卿坰境庚徑慶憬擎敬景暻更梗涇炅烱璟璥瓊痙硬磬竟競絅經耕耿脛莖警輕逕鏡頃頸驚鯨",
    .text "係啓堺契季屆悸戒桂械", .gap 96, .text "棨溪界癸磎稽系繫繼計誡谿階鷄古叩告呱固姑孤尻庫拷攷故敲暠枯槁沽痼皐睾稿羔考股膏苦苽菰藁蠱袴誥",
    .run 0xF903 1, .text "辜錮雇顧高鼓哭斛曲梏穀谷鵠困坤崑昆梱棍滾琨袞鯤汨", .run 0xF904 1, .text "骨供公共功孔工恐恭拱控攻珙空蚣貢鞏串寡戈果瓜",
    .gap 96, .text "科菓誇課跨過鍋顆廓槨藿郭", .run 0xF905 1,
    .text "冠官寬慣棺款灌琯瓘管罐菅觀貫關館刮恝括适侊光匡壙廣曠洸炚狂珖筐胱鑛卦掛罫乖傀塊壞怪愧拐槐魁宏紘肱轟交僑咬喬嬌嶠巧攪敎校橋狡皎矯絞翹膠蕎蛟較轎郊餃驕鮫丘久九仇俱具勾",
    .gap 96,
    .text "區口句咎嘔坵垢寇嶇廐懼拘救枸柩構歐毆毬求溝灸狗玖球瞿矩究絿耉臼舅舊苟衢謳購軀逑邱鉤銶駒驅鳩鷗龜國局菊鞠鞫麴君窘群裙軍郡堀屈掘窟宮弓穹窮芎躬倦券勸卷圈拳捲權淃眷厥獗蕨蹶闕",
    .text "机櫃潰詭軌饋", .run 0xF906 1, .text "晷歸貴", .gap 96, .text "鬼", .run 0xF907 1,
    .text "叫圭奎揆槻珪硅窺竅糾葵規赳逵閨勻均畇筠菌鈞", .run 0xF908 1, .text "橘克剋劇戟棘極隙僅劤勤懃斤根槿瑾筋芹菫覲謹近饉", .run 0xF909 1,
    .text "今妗擒昑檎琴禁禽芩衾衿襟", .run 0xF90A 1, .text "錦伋及急扱汲級給亘兢矜肯企伎其冀嗜器圻基埼夔奇妓寄岐崎己幾忌技旗旣", .gap 96,
    .text "朞期杞棋棄機欺氣汽沂淇玘琦琪璂璣畸畿碁磯祁祇祈祺箕紀綺羈耆耭肌記譏豈起錡錤飢饑騎騏驥麒緊佶吉拮桔金喫儺", .run 0xF90B 2, .text "娜懦",
    .run 0xF90D 1, .text "拏拿", .run 0xF90E 6, .text "那", .run 0xF914 5, .text "諾", .run 0xF919 4,
    .text "暖", .run 0xF91D 1, .text "煖", .run 0xF91E 2, .text "難", .run 0xF920 1, .text "捏捺南",
    .run 0xF921 1, .text "枏楠湳", .run 0xF922 1, .text "男", .run 0xF923 3, .gap 96, .text "納",
    .run 0xF926 2, .text "衲囊娘", .run 0xF928 5, .text "乃", .run 0xF92D 1, .text "內奈柰耐",
    .run 0xF92E 1, .text "女年撚秊念恬拈捻寧寗努", .run 0xF92F 1, .text "奴弩怒", .run 0xF930 3, .text "瑙",
    .run 0xF933 6, .text "駑", .run 0xF939 11, .text "濃", .run 0xF944 2, .text "膿農惱", .run 0xF946 2,
    .text "腦", .run 0xF948 2, .text "尿", .run 0xF94A 8, .text "嫩訥杻紐", .run 0xF952 6, .text "能",
    .run 0xF958 2, .text "尼泥匿溺多茶", .gap 96,
    .text "丹亶但單團壇彖斷旦檀段湍短端簞緞蛋袒鄲鍛撻澾獺疸達啖坍憺擔曇淡湛潭澹痰聃膽蕁覃談譚錟沓畓答踏遝唐堂塘幢戇撞棠當糖螳黨代垈坮大對岱帶待戴擡玳臺袋貸隊黛宅德悳倒刀到圖堵塗導",
    .text "屠島嶋度徒悼挑掉搗桃", .gap 96,
    .text "棹櫂淘渡滔濤燾盜睹禱稻萄覩賭跳蹈逃途道都鍍陶韜毒瀆牘犢獨督禿篤纛讀墩惇敦旽暾沌焞燉豚頓乭突仝冬凍動同憧東桐棟洞潼疼瞳童胴董銅兜斗杜枓痘竇荳", .run 0xF95A 1,
    .text "豆逗頭屯臀芚遁遯鈍得嶝橙燈登等藤謄鄧騰喇懶", .run 0xF95B 1, .text "癩羅", .gap 96, .text "蘿螺裸邏", .run 0xF95C 1,
    .text "洛烙珞絡落", .run 0xF95D 1, .text "酪駱", .run 0xF95E 1,
    .text "亂卵欄欒瀾爛蘭鸞剌辣嵐擥攬欖濫籃纜藍襤覽拉臘蠟廊朗浪狼琅瑯螂郞來崍徠萊冷掠略亮倆兩凉梁樑粮粱糧良諒輛量侶儷勵呂廬慮戾旅櫚濾礪藜蠣閭驢驪麗黎力曆歷瀝礫轢靂憐戀攣漣",
    .gap 96, .text "煉璉練聯蓮輦連鍊冽列劣洌烈裂廉斂殮濂簾獵令伶囹", .run 0xF95F 1, .text "岺嶺怜玲笭羚翎聆逞鈴零靈領齡例澧禮醴隷勞",
    .run 0xF960 1, .text "撈擄櫓潞瀘爐盧老蘆虜路輅露魯鷺鹵碌祿綠菉錄鹿麓論壟弄朧瀧瓏籠聾儡瀨牢磊賂賚賴雷了僚寮廖料燎療瞭聊蓼", .gap 96,
    .text "遼鬧龍壘婁屢樓淚漏瘻累縷蔞褸鏤陋劉旒柳榴流溜瀏琉瑠留瘤硫謬類六戮陸侖倫崙淪綸輪律慄栗", .run 0xF961 1,
    .text "隆勒肋凜凌楞稜綾菱陵俚利厘吏唎履悧李梨浬犁狸理璃", .run 0xF962 1, .text "痢籬罹羸莉裏裡里釐離鯉吝潾燐璘藺躪隣鱗麟林淋琳臨霖砬", .gap 96,
    .text "立笠粒摩瑪痲碼磨馬魔麻寞幕漠膜莫邈万卍娩巒彎慢挽晩曼滿漫灣瞞萬蔓蠻輓饅鰻唜抹末沫茉襪靺亡妄忘忙望網罔芒茫莽輞邙埋妹媒寐昧枚梅每煤罵買賣邁魅脈貊陌驀麥孟氓猛盲盟萌冪覓免冕",
    .text "勉棉沔眄眠綿緬面麵滅", .gap 96,
    .text "蔑冥名命明暝椧溟皿瞑茗蓂螟酩銘鳴袂侮冒募姆帽慕摸摹暮某模母毛牟牡瑁眸矛耗芼茅謀謨貌木沐牧目睦穆鶩歿沒夢朦蒙卯墓妙廟描昴杳渺猫竗苗錨務巫憮懋戊拇撫无楙武毋無珷畝繆舞茂蕪誣",
    .text "貿霧鵡墨默們刎吻問文", .gap 96,
    .text "汶紊紋聞蚊門雯勿沕物味媚尾嵋彌微未梶楣渼湄眉米美薇謎迷靡黴岷悶愍憫敏旻旼民泯玟珉緡閔密蜜謐剝博拍搏撲朴樸泊珀璞箔粕縛膊舶薄迫雹駁伴半反叛拌搬攀斑槃泮潘班畔瘢盤盼磐磻礬絆",
    .text "般蟠返頒飯勃拔撥渤潑", .gap 96, .text "發跋醱鉢髮魃倣傍坊妨尨幇彷房放方旁昉枋榜滂磅紡肪膀舫芳蒡蚌訪謗邦防龐倍俳", .run 0xF963 1,
    .text "培徘拜排杯湃焙盃背胚裴裵褙賠輩配陪伯佰帛柏栢白百魄幡樊煩燔番", .run 0xF964 1, .text "繁蕃藩飜伐筏罰閥凡帆梵氾汎泛犯範范法琺僻劈壁擘檗璧癖",
    .gap 96, .text "碧蘗闢霹", .run 0xF965 1,
    .text "卞弁變辨辯邊別瞥鱉鼈丙倂兵屛幷昞昺柄棅炳甁病秉竝輧餠騈保堡報寶普步洑湺潽珤甫菩補褓譜輔伏僕匐卜宓復服福腹茯蔔複覆輹輻馥鰒本乶俸奉封峯峰捧棒烽熢琫縫蓬蜂逢鋒鳳不付俯傅剖副",
    .text "否咐埠夫婦", .gap 96, .text "孚孵富府", .run 0xF966 1,
    .text "扶敷斧浮溥父符簿缶腐腑膚艀芙莩訃負賦賻赴趺部釜阜附駙鳧北分吩噴墳奔奮忿憤扮昐汾焚盆粉糞紛芬賁雰", .run 0xF967 1,
    .text "佛弗彿拂崩朋棚硼繃鵬丕備匕匪卑妃婢庇悲憊扉批斐枇榧比毖毗毘沸", .run 0xF968 1, .text "琵痺砒碑秕秘粃緋翡肥", .gap 96,
    .text "脾臂菲蜚裨誹譬費鄙非飛鼻嚬嬪彬斌檳殯浜濱瀕牝玭貧賓頻憑氷聘騁乍事些仕伺似使俟僿史司唆嗣四士奢娑寫寺射巳師徙思捨斜斯柶査梭死沙泗渣瀉獅砂社祀祠私篩紗絲肆舍莎蓑蛇裟詐詞謝賜",
    .text "赦辭邪飼駟麝削", .run 0xF969 1, .text "朔", .run 0xF96A 1, .gap 96, .text "傘刪山散汕珊産疝算蒜酸霰乷撒殺煞薩三",
    .run 0xF96B 1, .text "杉森渗芟蔘衫揷澁鈒颯上傷像償商喪嘗孀尙峠常床庠廂想桑橡湘爽牀狀相祥箱翔裳觴詳象賞霜塞璽賽嗇", .run 0xF96C 1,
    .text "穡索色牲生甥", .run 0xF96D 1, .text "笙墅壻嶼序庶徐恕抒捿敍暑曙書栖棲犀瑞筮絮緖署", .gap 96,
    .text "胥舒薯西誓逝鋤黍鼠夕奭席惜昔晳析汐淅潟石碩蓆釋錫仙僊先善嬋宣扇敾旋渲煽琁瑄璇璿癬禪線繕羨腺膳船蘚蟬詵跣選銑鐥饍鮮卨屑楔泄洩渫舌薛褻設說雪齧剡暹殲纖蟾贍閃陝攝涉燮",
    .run 0xF96E 1, .text "城姓宬性惺成星晟猩珹盛省筬", .gap 96, .text "聖聲腥誠醒世勢歲洗稅笹細", .run 0xF96F 1,
    .text "貰召嘯塑宵小少巢所掃搔昭梳沼消溯瀟炤燒甦疏疎瘙笑篠簫素紹蔬蕭蘇訴逍遡邵銷韶騷俗屬束涑粟續謖贖速孫巽損蓀遜飡率宋悚松淞訟誦送頌刷", .run 0xF970 1,
    .text "灑碎鎖衰釗修受嗽囚垂壽嫂守岫峀帥愁", .gap 96,
    .text "戍手授搜收數樹殊水洙漱燧狩獸琇璲瘦睡秀穗竪粹綏綬繡羞脩茱蒐蓚藪袖誰讐輸遂邃酬銖銹隋隧隨雖需須首髓鬚叔塾夙孰宿淑潚熟琡璹肅菽巡徇循恂旬栒楯橓殉洵淳珣盾瞬筍純脣舜荀蓴蕣詢諄",
    .text "醇錞順馴戌術述鉥崇崧", .gap 96,
    .text "嵩瑟膝蝨濕拾習褶襲丞乘僧勝升承昇繩蠅陞侍匙嘶始媤尸屎屍市弑恃施是時枾柴猜矢示翅蒔蓍視試詩諡豕豺埴寔式息拭植殖湜熄篒蝕識軾食飾伸侁信呻娠宸愼新晨燼申神紳腎臣莘薪藎蜃訊身辛",
    .run 0xF971 1, .text "迅失室實悉審尋心沁", .gap 96, .run 0xF972 1, .text "深瀋甚芯諶什十", .run 0xF973 1,
    .text "雙氏亞俄兒啞娥峨我牙芽莪蛾衙訝阿雅餓鴉鵝堊岳嶽幄惡愕握樂渥鄂鍔顎鰐齷安岸按晏案眼雁鞍顔鮟斡謁軋閼唵岩巖庵暗癌菴闇壓押狎鴨仰央怏昻殃秧鴦厓哀埃崖愛曖涯碍艾隘靄厄扼掖液縊腋",
    .text "額", .gap 96, .text "櫻罌鶯鸚也倻冶夜惹揶椰爺耶", .run 0xF974 1, .text "野弱", .run 0xF975 2,
    .text "約若葯蒻藥躍", .run 0xF977 1, .text "佯", .run 0xF978 2, .text "壤孃恙揚攘敭暘", .run 0xF97A 1,
    .text "楊樣洋瀁煬痒瘍禳穰", .run 0xF97B 1, .text "羊", .run 0xF97C 1, .text "襄", .run 0xF97D 1,
    .text "讓釀陽", .run 0xF97E 1, .text "養圄御於漁瘀禦語馭魚齬億憶抑檍臆偃堰彦焉言諺孼蘖俺儼嚴奄掩淹嶪業円予余", .run 0xF97F 3,
    .text "如", .run 0xF982 1, .gap 96, .run 0xF983 1, .text "歟汝", .run 0xF984 1, .text "璵礖",
    .run 0xF985 1, .text "與艅茹輿轝", .run 0xF986 1, .text "餘", .run 0xF987 3, .text "亦",
    .run 0xF98A 1, .text "域役易", .run 0xF98B 2, .text "疫繹譯", .run 0xF98D 1, .text "逆驛嚥堧姸娟宴",
    .run 0xF98E 1, .text "延", .run 0xF98F 2, .text "捐挻", .run 0xF991 1, .text "椽沇沿涎涓淵演",
    .run 0xF992 1, .text "烟然煙", .run 0xF993 1, .text "燃燕", .run 0xF994 1, .text "硏硯",
    .run 0xF995 1, .text "筵緣", .run 0xF996 1, .text "縯", .run 0xF997 1, .text "衍軟", .run 0xF998 3,
    .text "鉛", .run 0xF99B 1, .text "鳶", .run 0xF99C 3, .text "悅涅", .run 0xF99F 1, .text "熱",
    .run 0xF9A0 2, .text "閱厭", .run 0xF9A2 3, .text "染", .run 0xF9A5 1, .text "炎焰琰艶苒", .gap 96,
    .run 0xF9A6 1, .text "閻髥鹽曄", .run 0xF9A7 1, .text "燁葉", .run 0xF9A8 2, .text "塋",
    .run 0xF9AA 2, .text "嶸影", .run 0xF9AC 1, .text "映暎楹榮永泳渶潁濚瀛瀯煐營獰", .run 0xF9AD 1, .text "瑛",
    .run 0xF9AE 1, .text "瓔盈穎纓", .run 0xF9AF 2, .text "英詠迎", .run 0xF9B1 1, .text "鍈",
    .run 0xF9B2 1, .text "霙", .run 0xF9B3 2, .text "乂倪", .run 0xF9B5 1, .text "刈叡曳汭濊猊睿穢芮藝蘂",
    .run 0xF9B6 1, .text "裔詣譽豫", .run 0xF9B7 1, .text "銳", .run 0xF9B8 1, .text "霓預五伍俉傲午吾吳嗚塢墺奧娛寤悟",
    .run 0xF9B9 1, .text "懊敖旿晤梧汚澳", .gap 96,
    .text "烏熬獒筽蜈誤鰲鼇屋沃獄玉鈺溫瑥瘟穩縕蘊兀壅擁瓮甕癰翁邕雍饔渦瓦窩窪臥蛙蝸訛婉完宛梡椀浣玩琓琬碗緩翫脘腕莞豌阮頑曰往旺枉汪王倭娃歪矮外嵬巍猥畏", .run 0xF9BA 2,
    .text "僥凹堯夭妖姚寥", .run 0xF9BC 2, .text "嶢拗搖撓擾", .run 0xF9BE 1, .text "曜", .run 0xF9BF 1,
    .text "橈", .run 0xF9C0 1, .text "燿瑤", .run 0xF9C1 1, .gap 96, .text "窈窯繇繞耀腰", .run 0xF9C2 1,
    .text "蟯要謠遙", .run 0xF9C3 1, .text "邀饒慾欲浴縟褥辱俑傭冗勇埇墉容庸慂榕涌湧溶熔瑢用甬聳茸蓉踊鎔鏞", .run 0xF9C4 1,
    .text "于佑偶優又友右宇寓尤愚憂旴牛玗瑀盂祐禑禹紆羽芋藕虞迂遇郵釪隅雨雩勖彧旭昱栯煜稶郁頊云", .run 0xF9C5 1, .text "橒殞澐熉耘芸蕓", .gap 96,
    .text "運隕雲韻蔚鬱亐熊雄元原員圓園垣媛嫄寃怨愿援沅洹湲源爰猿瑗苑袁轅遠", .run 0xF9C6 1,
    .text "院願鴛月越鉞位偉僞危圍委威尉慰暐渭爲瑋緯胃萎葦蔿蝟衛褘謂違韋魏乳侑儒兪", .run 0xF9C7 1, .text "唯喩孺宥幼幽庾悠惟愈愉揄攸有",
    .run 0xF9C8 1, .text "柔柚", .run 0xF9C9 1, .text "楡楢油洧", .run 0xF9CA 1, .text "游",
    .run 0xF9CB 1, .gap 96, .text "濡猶猷", .run 0xF9CC 1, .text "瑜由", .run 0xF9CD 1, .text "癒",
    .run 0xF9CE 2, .text "維臾萸裕誘諛諭踰蹂遊逾遺酉釉鍮", .run 0xF9D0 2, .text "堉", .run 0xF9D2 1, .text "毓肉育",
    .run 0xF9D3 2, .text "允奫尹", .run 0xF9D5 2, .text "潤玧胤贇", .run 0xF9D7 1, .text "鈗閏",
    .run 0xF9D8 4, .text "聿戎瀜絨融", .run 0xF9DC 1, .text "垠恩慇殷誾銀隱乙吟淫蔭陰音飮揖泣邑凝應膺鷹依倚儀宜意懿擬椅毅疑矣義艤薏蟻衣誼",
    .gap 96, .text "議醫二以伊", .run 0xF9DD 2, .text "夷姨", .run 0xF9DF 1, .text "已弛彛怡", .run 0xF9E0 4,
    .text "爾珥", .run 0xF9E4 1, .text "異痍", .run 0xF9E5 1, .text "移", .run 0xF9E6 1, .text "而耳肄苡荑",
    .run 0xF9E7 2, .text "貽貳邇", .run 0xF9E9 2, .text "飴餌", .run 0xF9EB 2, .text "瀷益翊翌翼謚人仁刃印",
    .run 0xF9ED 1, .text "咽因姻寅引忍湮", .run 0xF9EE 2, .text "絪茵", .run 0xF9F0 1, .text "蚓認",
    .run 0xF9F1 1, .text "靭靷", .run 0xF9F2 2, .text "一佚佾壹日溢逸鎰馹任壬妊姙恁", .run 0xF9F4 2, .text "稔",
    .run 0xF9F6 1, .text "荏賃入卄", .gap 96, .run 0xF9F7 3,
    .text "仍剩孕芿仔刺咨姉姿子字孜恣慈滋炙煮玆瓷疵磁紫者自茨蔗藉諮資雌作勺嚼斫昨灼炸爵綽芍酌雀鵲孱棧殘潺盞岑暫潛箴簪蠶雜丈仗匠場墻壯奬將帳庄張掌暲杖樟檣欌漿牆",
    .run 0xF9FA 1, .text "獐璋章粧腸臟臧莊葬蔣薔藏裝贓醬長", .gap 96,
    .text "障再哉在宰才材栽梓渽滓災縡裁財載齋齎爭箏諍錚佇低儲咀姐底抵杵楮樗沮渚狙猪疽箸紵苧菹著藷詛貯躇這邸雎齟勣吊嫡寂摘敵滴狄", .run 0xF9FB 1,
    .text "的積笛籍績翟荻謫賊赤跡蹟迪迹適鏑佃佺傳全典前剪塡塼奠專展廛悛戰栓殿氈澱", .gap 96,
    .text "煎琠田甸畑癲筌箋箭篆纏詮輾轉鈿銓錢鐫電顚顫餞切截折浙癤竊節絶占岾店漸点粘霑鮎點接摺蝶丁井亭停偵呈姃定幀庭廷征情挺政整旌晶晸柾楨檉正汀淀淨渟湞瀞炡玎珽町睛碇禎程穽精綎艇訂",
    .text "諪貞鄭酊釘鉦鋌錠霆靖", .gap 96,
    .text "靜頂鼎制劑啼堤帝弟悌提梯濟祭第臍薺製諸蹄醍除際霽題齊俎兆凋助嘲弔彫措操早晁曺曹朝條棗槽漕潮照燥爪璪眺祖祚租稠窕粗糟組繰肇藻蚤詔調趙躁造遭釣阻雕鳥族簇足鏃存尊卒拙猝倧宗從",
    .text "悰慫棕淙琮種終綜縱腫", .gap 96,
    .text "踪踵鍾鐘佐坐左座挫罪主住侏做姝胄呪周嗾奏宙州廚晝朱柱株注洲湊澍炷珠疇籌紂紬綢舟蛛註誅走躊輳週酎酒鑄駐竹粥俊儁准埈寯峻晙樽浚準濬焌畯竣蠢逡遵雋駿茁中仲衆重卽櫛楫汁葺增憎曾",
    .text "拯烝甑症繒蒸證贈之只", .gap 96, .text "咫地址志持指摯支旨智枝枳止池沚漬知砥祉祗紙肢脂至芝芷蜘誌", .run 0xF9FC 1,
    .text "贄趾遲直稙稷織職唇嗔塵振搢晉晋桭榛殄津溱珍瑨璡畛疹盡眞瞋秦縉縝臻蔯袗診賑軫辰進鎭陣陳震侄叱姪嫉帙桎瓆疾秩窒膣蛭質跌迭斟朕", .run 0xF9FD 1,
    .text "執潗緝輯", .gap 96, .text "鏶集徵懲澄且侘借叉嗟嵯差次此磋箚", .run 0xF9FE 1,
    .text "蹉車遮捉搾着窄錯鑿齪撰澯燦璨瓚竄簒纂粲纘讚贊鑽餐饌刹察擦札紮僭參塹慘慙懺斬站讒讖倉倡創唱娼廠彰愴敞昌昶暢槍滄漲猖瘡窓脹艙菖蒼債埰寀寨彩採砦綵菜蔡采釵冊柵策", .gap 96,
    .text "責凄妻悽處倜", .run 0xF9FF 1,
    .text "剔尺慽戚拓擲斥滌瘠脊蹠陟隻仟千喘天川擅泉淺玔穿舛薦賤踐遷釧闡阡韆凸哲喆徹撤澈綴輟轍鐵僉尖沾添甛瞻簽籤詹諂堞妾帖捷牒疊睫諜貼輒廳晴淸聽菁請靑鯖", .run 0xFA00 1,
    .text "剃替涕滯締諦逮遞體初剿哨憔抄招梢", .gap 96,
    .text "椒楚樵炒焦硝礁礎秒稍肖艸苕草蕉貂超酢醋醮促囑燭矗蜀觸寸忖村邨叢塚寵悤憁摠總聰蔥銃撮催崔最墜抽推椎楸樞湫皺秋芻萩諏趨追鄒酋醜錐錘鎚雛騶鰍丑畜祝竺筑築縮蓄蹙蹴軸逐春椿瑃出朮",
    .text "黜充忠沖蟲衝衷悴膵萃", .gap 96,
    .text "贅取吹嘴娶就炊翠聚脆臭趣醉驟鷲側仄厠惻測層侈値嗤峙幟恥梔治淄熾痔痴癡稚穉緇緻置致蚩輜雉馳齒則勅飭親七柒漆侵寢枕沈浸琛砧針鍼蟄秤稱快他咤唾墮妥惰打拖朶楕舵陀馱駝倬卓啄坼",
    .run 0xFA01 1, .text "托", .run 0xFA02 1, .text "擢晫柝濁濯琢琸託", .gap 96,
    .text "鐸呑嘆坦彈憚歎灘炭綻誕奪脫探眈耽貪塔搭榻宕帑湯", .run 0xFA03 1, .text "蕩兌台太怠態殆汰泰笞胎苔跆邰颱", .run 0xFA04 1,
    .text "擇澤撑攄兎吐土討慟桶", .run 0xFA05 1, .text "痛筒統通堆槌腿褪退頹偸套妬投透鬪慝特闖坡婆巴把播擺杷波派爬琶破罷芭跛頗判坂板版瓣販辦鈑",
    .gap 96, .text "阪八叭捌佩唄悖敗沛浿牌狽稗覇貝彭澎烹膨愎便偏扁片篇編翩遍鞭騙貶坪平枰萍評吠嬖幣廢弊斃肺蔽閉陛佈包匍匏咆哺圃布怖抛抱捕", .run 0xFA06 1,
    .text "泡浦疱砲胞脯苞葡蒲袍褒逋鋪飽鮑幅暴曝瀑爆", .run 0xFA07 1, .text "俵剽彪慓杓標漂瓢票表豹飇飄驃", .gap 96,
    .text "品稟楓諷豊風馮彼披疲皮被避陂匹弼必泌珌畢疋筆苾馝乏逼下何厦夏廈昰河瑕荷蝦賀遐霞鰕壑學虐謔鶴寒恨悍旱汗漢澣瀚罕翰閑閒限韓割轄函含咸啣喊檻涵緘艦銜陷鹹合哈盒蛤閤闔陜亢伉姮嫦",
    .text "巷恒抗杭桁沆港缸肛航", .gap 96, .run 0xFA08 2,
    .text "項亥偕咳垓奚孩害懈楷海瀣蟹解該諧邂駭骸劾核倖幸杏荇行享向嚮珦鄕響餉饗香噓墟虛許憲櫶獻軒歇險驗奕爀赫革俔峴弦懸晛泫炫玄玹現眩睍絃絢縣舷衒", .run 0xFA0A 1,
    .text "賢鉉顯孑穴血頁嫌俠協夾峽挾浹狹脅脇莢鋏頰亨兄刑型", .gap 96,
    .text "形泂滎瀅灐炯熒珩瑩荊螢衡逈邢鎣馨兮彗惠慧暳蕙蹊醯鞋乎互呼壕壺好岵弧戶扈昊晧毫浩淏湖滸澔濠濩灝狐琥瑚瓠皓祜糊縞胡芦葫蒿虎號蝴護豪鎬頀顥惑或酷婚昏混渾琿魂忽惚笏哄弘汞泓洪烘",
    .text "紅虹訌鴻化和嬅樺火畵", .gap 96, .text "禍禾花華話譁貨靴", .run 0xFA0B 1,
    .text "擴攫確碻穫丸喚奐宦幻患換歡晥桓渙煥環紈還驩鰥活滑猾豁闊凰幌徨恍惶愰慌晃晄榥況湟滉潢煌璜皇篁簧荒蝗遑隍黃匯回廻徊恢悔懷晦會檜淮澮灰獪繪膾茴蛔誨賄劃獲宖橫鐄哮嚆孝效斅曉梟涍",
    .text "淆", .gap 96,
    .text "爻肴酵驍侯候厚后吼喉嗅帿後朽煦珝逅勛勳塤壎焄熏燻薰訓暈薨喧暄煊萱卉喙毁彙徽揮暉煇諱輝麾休携烋畦虧恤譎鷸兇凶匈洶胸黑昕欣炘痕吃屹紇訖欠欽歆吸恰洽翕興僖凞喜噫囍姬嬉希憙憘戱",
    .text "晞曦熙熹熺犧禧稀羲詰"]

end Transclusion.Index
