import ElectionReadiness.TimeZone.Zones.Africa
import ElectionReadiness.TimeZone.Zones.Antarctica
import ElectionReadiness.TimeZone.Zones.Asia
import ElectionReadiness.TimeZone.Zones.Atlantic
import ElectionReadiness.TimeZone.Zones.Australia
import ElectionReadiness.TimeZone.Zones.Europe
import ElectionReadiness.TimeZone.Zones.Indian
import ElectionReadiness.TimeZone.Zones.NorthAmerica
import ElectionReadiness.TimeZone.Zones.Pacific
import ElectionReadiness.TimeZone.Zones.SouthAmerica
import ElectionReadiness.TimeZone.Zones.Standard

/-!
# The catalog of zones

All names of zones with their histories, in the order of the names.  Several names
may stand for one history.
-/

set_option autoImplicit false

namespace ElectionReadiness.TimeZone

/-- The named zones. -/
def catalog : List (String × ZoneHistory) := [
  ("Africa/Abidjan", Africa.abidjan),
  ("Africa/Accra", Africa.abidjan),
  ("Africa/Addis_Ababa", Africa.nairobi),
  ("Africa/Algiers", Africa.algiers),
  ("Africa/Asmara", Africa.nairobi),
  ("Africa/Asmera", Africa.nairobi),
  ("Africa/Bamako", Africa.abidjan),
  ("Africa/Bangui", Africa.lagos),
  ("Africa/Banjul", Africa.abidjan),
  ("Africa/Bissau", Africa.bissau),
  ("Africa/Blantyre", Africa.maputo),
  ("Africa/Brazzaville", Africa.lagos),
  ("Africa/Bujumbura", Africa.maputo),
  ("Africa/Cairo", Africa.cairo),
  ("Africa/Casablanca", Africa.casablanca),
  ("Africa/Ceuta", Africa.ceuta),
  ("Africa/Conakry", Africa.abidjan),
  ("Africa/Dakar", Africa.abidjan),
  ("Africa/Dar_es_Salaam", Africa.nairobi),
  ("Africa/Djibouti", Africa.nairobi),
  ("Africa/Douala", Africa.lagos),
  ("Africa/El_Aaiun", Africa.elAaiun),
  ("Africa/Freetown", Africa.abidjan),
  ("Africa/Gaborone", Africa.maputo),
  ("Africa/Harare", Africa.maputo),
  ("Africa/Johannesburg", Africa.johannesburg),
  ("Africa/Juba", Africa.juba),
  ("Africa/Kampala", Africa.nairobi),
  ("Africa/Khartoum", Africa.khartoum),
  ("Africa/Kigali", Africa.maputo),
  ("Africa/Kinshasa", Africa.lagos),
  ("Africa/Lagos", Africa.lagos),
  ("Africa/Libreville", Africa.lagos),
  ("Africa/Lome", Africa.abidjan),
  ("Africa/Luanda", Africa.lagos),
  ("Africa/Lubumbashi", Africa.maputo),
  ("Africa/Lusaka", Africa.maputo),
  ("Africa/Malabo", Africa.lagos),
  ("Africa/Maputo", Africa.maputo),
  ("Africa/Maseru", Africa.johannesburg),
  ("Africa/Mbabane", Africa.johannesburg),
  ("Africa/Mogadishu", Africa.nairobi),
  ("Africa/Monrovia", Africa.monrovia),
  ("Africa/Nairobi", Africa.nairobi),
  ("Africa/Ndjamena", Africa.ndjamena),
  ("Africa/Niamey", Africa.lagos),
  ("Africa/Nouakchott", Africa.abidjan),
  ("Africa/Ouagadougou", Africa.abidjan),
  ("Africa/Porto-Novo", Africa.lagos),
  ("Africa/Sao_Tome", Africa.saoTome),
  ("Africa/Timbuktu", Africa.abidjan),
  ("Africa/Tripoli", Africa.tripoli),
  ("Africa/Tunis", Africa.tunis),
  ("Africa/Windhoek", Africa.windhoek),
  ("America/Adak", NorthAmerica.adak),
  ("America/Anchorage", NorthAmerica.anchorage),
  ("America/Anguilla", NorthAmerica.puertoRico),
  ("America/Antigua", NorthAmerica.puertoRico),
  ("America/Araguaina", SouthAmerica.araguaina),
  ("America/Argentina/Buenos_Aires", SouthAmerica.argentinaBuenosAires),
  ("America/Argentina/Catamarca", SouthAmerica.argentinaCatamarca),
  ("America/Argentina/ComodRivadavia", SouthAmerica.argentinaCatamarca),
  ("America/Argentina/Cordoba", SouthAmerica.argentinaCordoba),
  ("America/Argentina/Jujuy", SouthAmerica.argentinaJujuy),
  ("America/Argentina/La_Rioja", SouthAmerica.argentinaLaRioja),
  ("America/Argentina/Mendoza", SouthAmerica.argentinaMendoza),
  ("America/Argentina/Rio_Gallegos", SouthAmerica.argentinaRioGallegos),
  ("America/Argentina/Salta", SouthAmerica.argentinaSalta),
  ("America/Argentina/San_Juan", SouthAmerica.argentinaSanJuan),
  ("America/Argentina/San_Luis", SouthAmerica.argentinaSanLuis),
  ("America/Argentina/Tucuman", SouthAmerica.argentinaTucuman),
  ("America/Argentina/Ushuaia", SouthAmerica.argentinaUshuaia),
  ("America/Aruba", NorthAmerica.puertoRico),
  ("America/Asuncion", SouthAmerica.asuncion),
  ("America/Atikokan", NorthAmerica.panama),
  ("America/Atka", NorthAmerica.adak),
  ("America/Bahia", SouthAmerica.bahia),
  ("America/Bahia_Banderas", NorthAmerica.bahiaBanderas),
  ("America/Barbados", NorthAmerica.barbados),
  ("America/Belem", SouthAmerica.belem),
  ("America/Belize", NorthAmerica.belize),
  ("America/Blanc-Sablon", NorthAmerica.puertoRico),
  ("America/Boa_Vista", SouthAmerica.boaVista),
  ("America/Bogota", SouthAmerica.bogota),
  ("America/Boise", NorthAmerica.boise),
  ("America/Buenos_Aires", SouthAmerica.argentinaBuenosAires),
  ("America/Cambridge_Bay", NorthAmerica.cambridgeBay),
  ("America/Campo_Grande", SouthAmerica.campoGrande),
  ("America/Cancun", NorthAmerica.cancun),
  ("America/Caracas", SouthAmerica.caracas),
  ("America/Catamarca", SouthAmerica.argentinaCatamarca),
  ("America/Cayenne", SouthAmerica.cayenne),
  ("America/Cayman", NorthAmerica.panama),
  ("America/Chicago", NorthAmerica.chicago),
  ("America/Chihuahua", NorthAmerica.chihuahua),
  ("America/Ciudad_Juarez", NorthAmerica.ciudadJuarez),
  ("America/Coral_Harbour", NorthAmerica.panama),
  ("America/Cordoba", SouthAmerica.argentinaCordoba),
  ("America/Costa_Rica", NorthAmerica.costaRica),
  ("America/Creston", NorthAmerica.phoenix),
  ("America/Cuiaba", SouthAmerica.cuiaba),
  ("America/Curacao", NorthAmerica.puertoRico),
  ("America/Danmarkshavn", NorthAmerica.danmarkshavn),
  ("America/Dawson", NorthAmerica.dawson),
  ("America/Dawson_Creek", NorthAmerica.dawsonCreek),
  ("America/Denver", NorthAmerica.denver),
  ("America/Detroit", NorthAmerica.detroit),
  ("America/Dominica", NorthAmerica.puertoRico),
  ("America/Edmonton", NorthAmerica.edmonton),
  ("America/Eirunepe", SouthAmerica.eirunepe),
  ("America/El_Salvador", NorthAmerica.elSalvador),
  ("America/Ensenada", NorthAmerica.tijuana),
  ("America/Fort_Nelson", NorthAmerica.fortNelson),
  ("America/Fort_Wayne", NorthAmerica.indianaIndianapolis),
  ("America/Fortaleza", SouthAmerica.fortaleza),
  ("America/Glace_Bay", NorthAmerica.glaceBay),
  ("America/Godthab", NorthAmerica.nuuk),
  ("America/Goose_Bay", NorthAmerica.gooseBay),
  ("America/Grand_Turk", NorthAmerica.grandTurk),
  ("America/Grenada", NorthAmerica.puertoRico),
  ("America/Guadeloupe", NorthAmerica.puertoRico),
  ("America/Guatemala", NorthAmerica.guatemala),
  ("America/Guayaquil", SouthAmerica.guayaquil),
  ("America/Guyana", SouthAmerica.guyana),
  ("America/Halifax", NorthAmerica.halifax),
  ("America/Havana", NorthAmerica.havana),
  ("America/Hermosillo", NorthAmerica.hermosillo),
  ("America/Indiana/Indianapolis", NorthAmerica.indianaIndianapolis),
  ("America/Indiana/Knox", NorthAmerica.indianaKnox),
  ("America/Indiana/Marengo", NorthAmerica.indianaMarengo),
  ("America/Indiana/Petersburg", NorthAmerica.indianaPetersburg),
  ("America/Indiana/Tell_City", NorthAmerica.indianaTellCity),
  ("America/Indiana/Vevay", NorthAmerica.indianaVevay),
  ("America/Indiana/Vincennes", NorthAmerica.indianaVincennes),
  ("America/Indiana/Winamac", NorthAmerica.indianaWinamac),
  ("America/Indianapolis", NorthAmerica.indianaIndianapolis),
  ("America/Inuvik", NorthAmerica.inuvik),
  ("America/Iqaluit", NorthAmerica.iqaluit),
  ("America/Jamaica", NorthAmerica.jamaica),
  ("America/Jujuy", SouthAmerica.argentinaJujuy),
  ("America/Juneau", NorthAmerica.juneau),
  ("America/Kentucky/Louisville", NorthAmerica.kentuckyLouisville),
  ("America/Kentucky/Monticello", NorthAmerica.kentuckyMonticello),
  ("America/Knox_IN", NorthAmerica.indianaKnox),
  ("America/Kralendijk", NorthAmerica.puertoRico),
  ("America/La_Paz", SouthAmerica.laPaz),
  ("America/Lima", SouthAmerica.lima),
  ("America/Los_Angeles", NorthAmerica.losAngeles),
  ("America/Louisville", NorthAmerica.kentuckyLouisville),
  ("America/Lower_Princes", NorthAmerica.puertoRico),
  ("America/Maceio", SouthAmerica.maceio),
  ("America/Managua", NorthAmerica.managua),
  ("America/Manaus", SouthAmerica.manaus),
  ("America/Marigot", NorthAmerica.puertoRico),
  ("America/Martinique", NorthAmerica.martinique),
  ("America/Matamoros", NorthAmerica.matamoros),
  ("America/Mazatlan", NorthAmerica.mazatlan),
  ("America/Mendoza", SouthAmerica.argentinaMendoza),
  ("America/Menominee", NorthAmerica.menominee),
  ("America/Merida", NorthAmerica.merida),
  ("America/Metlakatla", NorthAmerica.metlakatla),
  ("America/Mexico_City", NorthAmerica.mexicoCity),
  ("America/Miquelon", NorthAmerica.miquelon),
  ("America/Moncton", NorthAmerica.moncton),
  ("America/Monterrey", NorthAmerica.monterrey),
  ("America/Montevideo", SouthAmerica.montevideo),
  ("America/Montreal", NorthAmerica.toronto),
  ("America/Montserrat", NorthAmerica.puertoRico),
  ("America/Nassau", NorthAmerica.toronto),
  ("America/New_York", NorthAmerica.newYork),
  ("America/Nipigon", NorthAmerica.toronto),
  ("America/Nome", NorthAmerica.nome),
  ("America/Noronha", SouthAmerica.noronha),
  ("America/North_Dakota/Beulah", NorthAmerica.northDakotaBeulah),
  ("America/North_Dakota/Center", NorthAmerica.northDakotaCenter),
  ("America/North_Dakota/New_Salem", NorthAmerica.northDakotaNewSalem),
  ("America/Nuuk", NorthAmerica.nuuk),
  ("America/Ojinaga", NorthAmerica.ojinaga),
  ("America/Panama", NorthAmerica.panama),
  ("America/Pangnirtung", NorthAmerica.iqaluit),
  ("America/Paramaribo", SouthAmerica.paramaribo),
  ("America/Phoenix", NorthAmerica.phoenix),
  ("America/Port-au-Prince", NorthAmerica.portAuPrince),
  ("America/Port_of_Spain", NorthAmerica.puertoRico),
  ("America/Porto_Acre", SouthAmerica.rioBranco),
  ("America/Porto_Velho", SouthAmerica.portoVelho),
  ("America/Puerto_Rico", NorthAmerica.puertoRico),
  ("America/Punta_Arenas", SouthAmerica.puntaArenas),
  ("America/Rainy_River", NorthAmerica.winnipeg),
  ("America/Rankin_Inlet", NorthAmerica.rankinInlet),
  ("America/Recife", SouthAmerica.recife),
  ("America/Regina", NorthAmerica.regina),
  ("America/Resolute", NorthAmerica.resolute),
  ("America/Rio_Branco", SouthAmerica.rioBranco),
  ("America/Rosario", SouthAmerica.argentinaCordoba),
  ("America/Santa_Isabel", NorthAmerica.tijuana),
  ("America/Santarem", SouthAmerica.santarem),
  ("America/Santiago", SouthAmerica.santiago),
  ("America/Santo_Domingo", NorthAmerica.santoDomingo),
  ("America/Sao_Paulo", SouthAmerica.saoPaulo),
  ("America/Scoresbysund", NorthAmerica.scoresbysund),
  ("America/Shiprock", NorthAmerica.denver),
  ("America/Sitka", NorthAmerica.sitka),
  ("America/St_Barthelemy", NorthAmerica.puertoRico),
  ("America/St_Johns", NorthAmerica.stJohns),
  ("America/St_Kitts", NorthAmerica.puertoRico),
  ("America/St_Lucia", NorthAmerica.puertoRico),
  ("America/St_Thomas", NorthAmerica.puertoRico),
  ("America/St_Vincent", NorthAmerica.puertoRico),
  ("America/Swift_Current", NorthAmerica.swiftCurrent),
  ("America/Tegucigalpa", NorthAmerica.tegucigalpa),
  ("America/Thule", NorthAmerica.thule),
  ("America/Thunder_Bay", NorthAmerica.toronto),
  ("America/Tijuana", NorthAmerica.tijuana),
  ("America/Toronto", NorthAmerica.toronto),
  ("America/Tortola", NorthAmerica.puertoRico),
  ("America/Vancouver", NorthAmerica.vancouver),
  ("America/Virgin", NorthAmerica.puertoRico),
  ("America/Whitehorse", NorthAmerica.whitehorse),
  ("America/Winnipeg", NorthAmerica.winnipeg),
  ("America/Yakutat", NorthAmerica.yakutat),
  ("America/Yellowknife", NorthAmerica.edmonton),
  ("Antarctica/Casey", Antarctica.casey),
  ("Antarctica/Davis", Antarctica.davis),
  ("Antarctica/DumontDUrville", Pacific.portMoresby),
  ("Antarctica/Macquarie", Antarctica.macquarie),
  ("Antarctica/Mawson", Antarctica.mawson),
  ("Antarctica/McMurdo", Pacific.auckland),
  ("Antarctica/Palmer", Antarctica.palmer),
  ("Antarctica/Rothera", Antarctica.rothera),
  ("Antarctica/South_Pole", Pacific.auckland),
  ("Antarctica/Syowa", Asia.riyadh),
  ("Antarctica/Troll", Antarctica.troll),
  ("Antarctica/Vostok", Antarctica.vostok),
  ("Arctic/Longyearbyen", Europe.berlin),
  ("Asia/Aden", Asia.riyadh),
  ("Asia/Almaty", Asia.almaty),
  ("Asia/Amman", Asia.amman),
  ("Asia/Anadyr", Asia.anadyr),
  ("Asia/Aqtau", Asia.aqtau),
  ("Asia/Aqtobe", Asia.aqtobe),
  ("Asia/Ashgabat", Asia.ashgabat),
  ("Asia/Ashkhabad", Asia.ashgabat),
  ("Asia/Atyrau", Asia.atyrau),
  ("Asia/Baghdad", Asia.baghdad),
  ("Asia/Bahrain", Asia.qatar),
  ("Asia/Baku", Asia.baku),
  ("Asia/Bangkok", Asia.bangkok),
  ("Asia/Barnaul", Asia.barnaul),
  ("Asia/Beirut", Asia.beirut),
  ("Asia/Bishkek", Asia.bishkek),
  ("Asia/Brunei", Asia.kuching),
  ("Asia/Calcutta", Asia.kolkata),
  ("Asia/Chita", Asia.chita),
  ("Asia/Choibalsan", Asia.choibalsan),
  ("Asia/Chongqing", Asia.shanghai),
  ("Asia/Chungking", Asia.shanghai),
  ("Asia/Colombo", Asia.colombo),
  ("Asia/Dacca", Asia.dhaka),
  ("Asia/Damascus", Asia.damascus),
  ("Asia/Dhaka", Asia.dhaka),
  ("Asia/Dili", Asia.dili),
  ("Asia/Dubai", Asia.dubai),
  ("Asia/Dushanbe", Asia.dushanbe),
  ("Asia/Famagusta", Asia.famagusta),
  ("Asia/Gaza", Asia.gaza),
  ("Asia/Harbin", Asia.shanghai),
  ("Asia/Hebron", Asia.hebron),
  ("Asia/Ho_Chi_Minh", Asia.hoChiMinh),
  ("Asia/Hong_Kong", Asia.hongKong),
  ("Asia/Hovd", Asia.hovd),
  ("Asia/Irkutsk", Asia.irkutsk),
  ("Asia/Istanbul", Europe.istanbul),
  ("Asia/Jakarta", Asia.jakarta),
  ("Asia/Jayapura", Asia.jayapura),
  ("Asia/Jerusalem", Asia.jerusalem),
  ("Asia/Kabul", Asia.kabul),
  ("Asia/Kamchatka", Asia.kamchatka),
  ("Asia/Karachi", Asia.karachi),
  ("Asia/Kashgar", Asia.urumqi),
  ("Asia/Kathmandu", Asia.kathmandu),
  ("Asia/Katmandu", Asia.kathmandu),
  ("Asia/Khandyga", Asia.khandyga),
  ("Asia/Kolkata", Asia.kolkata),
  ("Asia/Krasnoyarsk", Asia.krasnoyarsk),
  ("Asia/Kuala_Lumpur", Asia.singapore),
  ("Asia/Kuching", Asia.kuching),
  ("Asia/Kuwait", Asia.riyadh),
  ("Asia/Macao", Asia.macau),
  ("Asia/Macau", Asia.macau),
  ("Asia/Magadan", Asia.magadan),
  ("Asia/Makassar", Asia.makassar),
  ("Asia/Manila", Asia.manila),
  ("Asia/Muscat", Asia.dubai),
  ("Asia/Nicosia", Asia.nicosia),
  ("Asia/Novokuznetsk", Asia.novokuznetsk),
  ("Asia/Novosibirsk", Asia.novosibirsk),
  ("Asia/Omsk", Asia.omsk),
  ("Asia/Oral", Asia.oral),
  ("Asia/Phnom_Penh", Asia.bangkok),
  ("Asia/Pontianak", Asia.pontianak),
  ("Asia/Pyongyang", Asia.pyongyang),
  ("Asia/Qatar", Asia.qatar),
  ("Asia/Qostanay", Asia.qostanay),
  ("Asia/Qyzylorda", Asia.qyzylorda),
  ("Asia/Rangoon", Asia.yangon),
  ("Asia/Riyadh", Asia.riyadh),
  ("Asia/Saigon", Asia.hoChiMinh),
  ("Asia/Sakhalin", Asia.sakhalin),
  ("Asia/Samarkand", Asia.samarkand),
  ("Asia/Seoul", Asia.seoul),
  ("Asia/Shanghai", Asia.shanghai),
  ("Asia/Singapore", Asia.singapore),
  ("Asia/Srednekolymsk", Asia.srednekolymsk),
  ("Asia/Taipei", Asia.taipei),
  ("Asia/Tashkent", Asia.tashkent),
  ("Asia/Tbilisi", Asia.tbilisi),
  ("Asia/Tehran", Asia.tehran),
  ("Asia/Tel_Aviv", Asia.jerusalem),
  ("Asia/Thimbu", Asia.thimphu),
  ("Asia/Thimphu", Asia.thimphu),
  ("Asia/Tokyo", Asia.tokyo),
  ("Asia/Tomsk", Asia.tomsk),
  ("Asia/Ujung_Pandang", Asia.makassar),
  ("Asia/Ulaanbaatar", Asia.ulaanbaatar),
  ("Asia/Ulan_Bator", Asia.ulaanbaatar),
  ("Asia/Urumqi", Asia.urumqi),
  ("Asia/Ust-Nera", Asia.ustNera),
  ("Asia/Vientiane", Asia.bangkok),
  ("Asia/Vladivostok", Asia.vladivostok),
  ("Asia/Yakutsk", Asia.yakutsk),
  ("Asia/Yangon", Asia.yangon),
  ("Asia/Yekaterinburg", Asia.yekaterinburg),
  ("Asia/Yerevan", Asia.yerevan),
  ("Atlantic/Azores", Atlantic.azores),
  ("Atlantic/Bermuda", Atlantic.bermuda),
  ("Atlantic/Canary", Atlantic.canary),
  ("Atlantic/Cape_Verde", Atlantic.capeVerde),
  ("Atlantic/Faeroe", Atlantic.faroe),
  ("Atlantic/Faroe", Atlantic.faroe),
  ("Atlantic/Jan_Mayen", Europe.berlin),
  ("Atlantic/Madeira", Atlantic.madeira),
  ("Atlantic/Reykjavik", Africa.abidjan),
  ("Atlantic/South_Georgia", Atlantic.southGeorgia),
  ("Atlantic/St_Helena", Africa.abidjan),
  ("Atlantic/Stanley", Atlantic.stanley),
  ("Australia/ACT", Australia.sydney),
  ("Australia/Adelaide", Australia.adelaide),
  ("Australia/Brisbane", Australia.brisbane),
  ("Australia/Broken_Hill", Australia.brokenHill),
  ("Australia/Canberra", Australia.sydney),
  ("Australia/Currie", Australia.hobart),
  ("Australia/Darwin", Australia.darwin),
  ("Australia/Eucla", Australia.eucla),
  ("Australia/Hobart", Australia.hobart),
  ("Australia/LHI", Australia.lordHowe),
  ("Australia/Lindeman", Australia.lindeman),
  ("Australia/Lord_Howe", Australia.lordHowe),
  ("Australia/Melbourne", Australia.melbourne),
  ("Australia/NSW", Australia.sydney),
  ("Australia/North", Australia.darwin),
  ("Australia/Perth", Australia.perth),
  ("Australia/Queensland", Australia.brisbane),
  ("Australia/South", Australia.adelaide),
  ("Australia/Sydney", Australia.sydney),
  ("Australia/Tasmania", Australia.hobart),
  ("Australia/Victoria", Australia.melbourne),
  ("Australia/West", Australia.perth),
  ("Australia/Yancowinna", Australia.brokenHill),
  ("Brazil/Acre", SouthAmerica.rioBranco),
  ("Brazil/DeNoronha", SouthAmerica.noronha),
  ("Brazil/East", SouthAmerica.saoPaulo),
  ("Brazil/West", SouthAmerica.manaus),
  ("CET", Standard.cet),
  ("CST6CDT", Standard.cst6cdt),
  ("Canada/Atlantic", NorthAmerica.halifax),
  ("Canada/Central", NorthAmerica.winnipeg),
  ("Canada/Eastern", NorthAmerica.toronto),
  ("Canada/Mountain", NorthAmerica.edmonton),
  ("Canada/Newfoundland", NorthAmerica.stJohns),
  ("Canada/Pacific", NorthAmerica.vancouver),
  ("Canada/Saskatchewan", NorthAmerica.regina),
  ("Canada/Yukon", NorthAmerica.whitehorse),
  ("Chile/Continental", SouthAmerica.santiago),
  ("Chile/EasterIsland", Pacific.easter),
  ("Cuba", NorthAmerica.havana),
  ("EET", Standard.eet),
  ("EST", Standard.est),
  ("EST5EDT", Standard.est5edt),
  ("Egypt", Africa.cairo),
  ("Eire", Europe.dublin),
  ("Etc/GMT", .constant (east 0 0 0)),
  ("Etc/GMT+0", .constant (east 0 0 0)),
  ("Etc/GMT+1", .constant (west 1 0 0)),
  ("Etc/GMT+10", .constant (west 10 0 0)),
  ("Etc/GMT+11", .constant (west 11 0 0)),
  ("Etc/GMT+12", .constant (west 12 0 0)),
  ("Etc/GMT+2", .constant (west 2 0 0)),
  ("Etc/GMT+3", .constant (west 3 0 0)),
  ("Etc/GMT+4", .constant (west 4 0 0)),
  ("Etc/GMT+5", .constant (west 5 0 0)),
  ("Etc/GMT+6", .constant (west 6 0 0)),
  ("Etc/GMT+7", .constant (west 7 0 0)),
  ("Etc/GMT+8", .constant (west 8 0 0)),
  ("Etc/GMT+9", .constant (west 9 0 0)),
  ("Etc/GMT-0", .constant (east 0 0 0)),
  ("Etc/GMT-1", .constant (east 1 0 0)),
  ("Etc/GMT-10", .constant (east 10 0 0)),
  ("Etc/GMT-11", .constant (east 11 0 0)),
  ("Etc/GMT-12", .constant (east 12 0 0)),
  ("Etc/GMT-13", .constant (east 13 0 0)),
  ("Etc/GMT-14", .constant (east 14 0 0)),
  ("Etc/GMT-2", .constant (east 2 0 0)),
  ("Etc/GMT-3", .constant (east 3 0 0)),
  ("Etc/GMT-4", .constant (east 4 0 0)),
  ("Etc/GMT-5", .constant (east 5 0 0)),
  ("Etc/GMT-6", .constant (east 6 0 0)),
  ("Etc/GMT-7", .constant (east 7 0 0)),
  ("Etc/GMT-8", .constant (east 8 0 0)),
  ("Etc/GMT-9", .constant (east 9 0 0)),
  ("Etc/GMT0", .constant (east 0 0 0)),
  ("Etc/Greenwich", .constant (east 0 0 0)),
  ("Etc/UCT", .constant (east 0 0 0)),
  ("Etc/UTC", .constant (east 0 0 0)),
  ("Etc/Universal", .constant (east 0 0 0)),
  ("Etc/Zulu", .constant (east 0 0 0)),
  ("Europe/Amsterdam", Europe.brussels),
  ("Europe/Andorra", Europe.andorra),
  ("Europe/Astrakhan", Europe.astrakhan),
  ("Europe/Athens", Europe.athens),
  ("Europe/Belfast", Europe.london),
  ("Europe/Belgrade", Europe.belgrade),
  ("Europe/Berlin", Europe.berlin),
  ("Europe/Bratislava", Europe.prague),
  ("Europe/Brussels", Europe.brussels),
  ("Europe/Bucharest", Europe.bucharest),
  ("Europe/Budapest", Europe.budapest),
  ("Europe/Busingen", Europe.zurich),
  ("Europe/Chisinau", Europe.chisinau),
  ("Europe/Copenhagen", Europe.berlin),
  ("Europe/Dublin", Europe.dublin),
  ("Europe/Gibraltar", Europe.gibraltar),
  ("Europe/Guernsey", Europe.london),
  ("Europe/Helsinki", Europe.helsinki),
  ("Europe/Isle_of_Man", Europe.london),
  ("Europe/Istanbul", Europe.istanbul),
  ("Europe/Jersey", Europe.london),
  ("Europe/Kaliningrad", Europe.kaliningrad),
  ("Europe/Kiev", Europe.kyiv),
  ("Europe/Kirov", Europe.kirov),
  ("Europe/Kyiv", Europe.kyiv),
  ("Europe/Lisbon", Europe.lisbon),
  ("Europe/Ljubljana", Europe.belgrade),
  ("Europe/London", Europe.london),
  ("Europe/Luxembourg", Europe.brussels),
  ("Europe/Madrid", Europe.madrid),
  ("Europe/Malta", Europe.malta),
  ("Europe/Mariehamn", Europe.helsinki),
  ("Europe/Minsk", Europe.minsk),
  ("Europe/Monaco", Europe.paris),
  ("Europe/Moscow", Europe.moscow),
  ("Europe/Nicosia", Asia.nicosia),
  ("Europe/Oslo", Europe.berlin),
  ("Europe/Paris", Europe.paris),
  ("Europe/Podgorica", Europe.belgrade),
  ("Europe/Prague", Europe.prague),
  ("Europe/Riga", Europe.riga),
  ("Europe/Rome", Europe.rome),
  ("Europe/Samara", Europe.samara),
  ("Europe/San_Marino", Europe.rome),
  ("Europe/Sarajevo", Europe.belgrade),
  ("Europe/Saratov", Europe.saratov),
  ("Europe/Simferopol", Europe.simferopol),
  ("Europe/Skopje", Europe.belgrade),
  ("Europe/Sofia", Europe.sofia),
  ("Europe/Stockholm", Europe.berlin),
  ("Europe/Tallinn", Europe.tallinn),
  ("Europe/Tirane", Europe.tirane),
  ("Europe/Tiraspol", Europe.chisinau),
  ("Europe/Ulyanovsk", Europe.ulyanovsk),
  ("Europe/Uzhgorod", Europe.kyiv),
  ("Europe/Vaduz", Europe.zurich),
  ("Europe/Vatican", Europe.rome),
  ("Europe/Vienna", Europe.vienna),
  ("Europe/Vilnius", Europe.vilnius),
  ("Europe/Volgograd", Europe.volgograd),
  ("Europe/Warsaw", Europe.warsaw),
  ("Europe/Zagreb", Europe.belgrade),
  ("Europe/Zaporozhye", Europe.kyiv),
  ("Europe/Zurich", Europe.zurich),
  ("GB", Europe.london),
  ("GB-Eire", Europe.london),
  ("GMT", .constant (east 0 0 0)),
  ("GMT+0", .constant (east 0 0 0)),
  ("GMT-0", .constant (east 0 0 0)),
  ("GMT0", .constant (east 0 0 0)),
  ("Greenwich", .constant (east 0 0 0)),
  ("HST", Standard.hst),
  ("Hongkong", Asia.hongKong),
  ("Iceland", Africa.abidjan),
  ("Indian/Antananarivo", Africa.nairobi),
  ("Indian/Chagos", Indian.chagos),
  ("Indian/Christmas", Asia.bangkok),
  ("Indian/Cocos", Asia.yangon),
  ("Indian/Comoro", Africa.nairobi),
  ("Indian/Kerguelen", Indian.maldives),
  ("Indian/Mahe", Asia.dubai),
  ("Indian/Maldives", Indian.maldives),
  ("Indian/Mauritius", Indian.mauritius),
  ("Indian/Mayotte", Africa.nairobi),
  ("Indian/Reunion", Asia.dubai),
  ("Iran", Asia.tehran),
  ("Israel", Asia.jerusalem),
  ("Jamaica", NorthAmerica.jamaica),
  ("Japan", Asia.tokyo),
  ("Kwajalein", Pacific.kwajalein),
  ("Libya", Africa.tripoli),
  ("MET", Standard.met),
  ("MST", Standard.mst),
  ("MST7MDT", Standard.mst7mdt),
  ("Mexico/BajaNorte", NorthAmerica.tijuana),
  ("Mexico/BajaSur", NorthAmerica.mazatlan),
  ("Mexico/General", NorthAmerica.mexicoCity),
  ("NZ", Pacific.auckland),
  ("NZ-CHAT", Pacific.chatham),
  ("Navajo", NorthAmerica.denver),
  ("PRC", Asia.shanghai),
  ("PST8PDT", Standard.pst8pdt),
  ("Pacific/Apia", Pacific.apia),
  ("Pacific/Auckland", Pacific.auckland),
  ("Pacific/Bougainville", Pacific.bougainville),
  ("Pacific/Chatham", Pacific.chatham),
  ("Pacific/Chuuk", Pacific.portMoresby),
  ("Pacific/Easter", Pacific.easter),
  ("Pacific/Efate", Pacific.efate),
  ("Pacific/Enderbury", Pacific.kanton),
  ("Pacific/Fakaofo", Pacific.fakaofo),
  ("Pacific/Fiji", Pacific.fiji),
  ("Pacific/Funafuti", Pacific.tarawa),
  ("Pacific/Galapagos", Pacific.galapagos),
  ("Pacific/Gambier", Pacific.gambier),
  ("Pacific/Guadalcanal", Pacific.guadalcanal),
  ("Pacific/Guam", Pacific.guam),
  ("Pacific/Honolulu", Pacific.honolulu),
  ("Pacific/Johnston", Pacific.honolulu),
  ("Pacific/Kanton", Pacific.kanton),
  ("Pacific/Kiritimati", Pacific.kiritimati),
  ("Pacific/Kosrae", Pacific.kosrae),
  ("Pacific/Kwajalein", Pacific.kwajalein),
  ("Pacific/Majuro", Pacific.tarawa),
  ("Pacific/Marquesas", Pacific.marquesas),
  ("Pacific/Midway", Pacific.pagoPago),
  ("Pacific/Nauru", Pacific.nauru),
  ("Pacific/Niue", Pacific.niue),
  ("Pacific/Norfolk", Pacific.norfolk),
  ("Pacific/Noumea", Pacific.noumea),
  ("Pacific/Pago_Pago", Pacific.pagoPago),
  ("Pacific/Palau", Pacific.palau),
  ("Pacific/Pitcairn", Pacific.pitcairn),
  ("Pacific/Pohnpei", Pacific.guadalcanal),
  ("Pacific/Ponape", Pacific.guadalcanal),
  ("Pacific/Port_Moresby", Pacific.portMoresby),
  ("Pacific/Rarotonga", Pacific.rarotonga),
  ("Pacific/Saipan", Pacific.guam),
  ("Pacific/Samoa", Pacific.pagoPago),
  ("Pacific/Tahiti", Pacific.tahiti),
  ("Pacific/Tarawa", Pacific.tarawa),
  ("Pacific/Tongatapu", Pacific.tongatapu),
  ("Pacific/Truk", Pacific.portMoresby),
  ("Pacific/Wake", Pacific.tarawa),
  ("Pacific/Wallis", Pacific.tarawa),
  ("Pacific/Yap", Pacific.portMoresby),
  ("Poland", Europe.warsaw),
  ("Portugal", Europe.lisbon),
  ("ROC", Asia.taipei),
  ("ROK", Asia.seoul),
  ("Singapore", Asia.singapore),
  ("Turkey", Europe.istanbul),
  ("UCT", .constant (east 0 0 0)),
  ("US/Alaska", NorthAmerica.anchorage),
  ("US/Aleutian", NorthAmerica.adak),
  ("US/Arizona", NorthAmerica.phoenix),
  ("US/Central", NorthAmerica.chicago),
  ("US/East-Indiana", NorthAmerica.indianaIndianapolis),
  ("US/Eastern", NorthAmerica.newYork),
  ("US/Hawaii", Pacific.honolulu),
  ("US/Indiana-Starke", NorthAmerica.indianaKnox),
  ("US/Michigan", NorthAmerica.detroit),
  ("US/Mountain", NorthAmerica.denver),
  ("US/Pacific", NorthAmerica.losAngeles),
  ("US/Samoa", Pacific.pagoPago),
  ("UTC", .constant (east 0 0 0)),
  ("Universal", .constant (east 0 0 0)),
  ("W-SU", Europe.moscow),
  ("WET", Standard.wet),
  ("Zulu", .constant (east 0 0 0))
]

end ElectionReadiness.TimeZone
