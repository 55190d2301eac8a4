import NodeInventory.Calendar.Zone
import NodeInventory.Fault

/-!
# The zones

Every zone with its present-day rule, grouped by rule, and looking a zone up by its name in letters
of any case.
-/

namespace NodeInventory

/-- The zones under each rule. -/
def zoneTable : List (ZoneRule × List String) := [
  (.always ⟨"GMT", 0⟩,
    ["Africa/Abidjan", "Africa/Accra", "Africa/Bamako", "Africa/Banjul", "Africa/Bissau",
     "Africa/Conakry", "Africa/Dakar", "Africa/Freetown", "Africa/Lome", "Africa/Monrovia",
     "Africa/Nouakchott", "Africa/Ouagadougou", "Africa/Sao_Tome", "Africa/Timbuktu",
     "America/Danmarkshavn", "Atlantic/Reykjavik", "Atlantic/St_Helena", "Etc/GMT", "Etc/GMT+0",
     "Etc/GMT-0", "Etc/GMT0", "Etc/Greenwich", "GMT", "GMT+0", "GMT-0", "GMT0", "Greenwich",
     "Iceland"]),
  (.always ⟨"EAT", 10800⟩,
    ["Africa/Addis_Ababa", "Africa/Asmara", "Africa/Asmera", "Africa/Dar_es_Salaam",
     "Africa/Djibouti", "Africa/Kampala", "Africa/Mogadishu", "Africa/Nairobi",
     "Indian/Antananarivo", "Indian/Comoro", "Indian/Mayotte"]),
  (.always ⟨"CET", 3600⟩,
    ["Africa/Algiers", "Africa/Tunis"]),
  (.always ⟨"WAT", 3600⟩,
    ["Africa/Bangui", "Africa/Brazzaville", "Africa/Douala", "Africa/Kinshasa", "Africa/Lagos",
     "Africa/Libreville", "Africa/Luanda", "Africa/Malabo", "Africa/Ndjamena", "Africa/Niamey",
     "Africa/Porto-Novo"]),
  (.always ⟨"CAT", 7200⟩,
    ["Africa/Blantyre", "Africa/Bujumbura", "Africa/Gaborone", "Africa/Harare", "Africa/Juba",
     "Africa/Khartoum", "Africa/Kigali", "Africa/Lubumbashi", "Africa/Lusaka", "Africa/Maputo",
     "Africa/Windhoek"]),
  (.seasonal ⟨"EET", 7200⟩ ⟨"EEST", 10800⟩ ⟨4, 5, 4, 0⟩ ⟨10, 5, 3, 86400⟩,
    ["Africa/Cairo", "Egypt"]),
  (.always ⟨"+01", 3600⟩,
    ["Africa/Casablanca", "Africa/El_Aaiun", "Etc/GMT-1"]),
  (.seasonal ⟨"CET", 3600⟩ ⟨"CEST", 7200⟩ ⟨3, 5, 6, 7200⟩ ⟨10, 5, 6, 10800⟩,
    ["Africa/Ceuta", "Arctic/Longyearbyen", "Atlantic/Jan_Mayen", "CET", "Europe/Amsterdam",
     "Europe/Andorra", "Europe/Belgrade", "Europe/Berlin", "Europe/Bratislava",
     "Europe/Brussels", "Europe/Budapest", "Europe/Busingen", "Europe/Copenhagen",
     "Europe/Gibraltar", "Europe/Ljubljana", "Europe/Luxembourg", "Europe/Madrid",
     "Europe/Malta", "Europe/Monaco", "Europe/Oslo", "Europe/Paris", "Europe/Podgorica",
     "Europe/Prague", "Europe/Rome", "Europe/San_Marino", "Europe/Sarajevo", "Europe/Skopje",
     "Europe/Stockholm", "Europe/Tirane", "Europe/Vaduz", "Europe/Vatican", "Europe/Vienna",
     "Europe/Warsaw", "Europe/Zagreb", "Europe/Zurich", "Poland"]),
  (.always ⟨"SAST", 7200⟩,
    ["Africa/Johannesburg", "Africa/Maseru", "Africa/Mbabane"]),
  (.always ⟨"EET", 7200⟩,
    ["Africa/Tripoli", "Europe/Kaliningrad", "Libya"]),
  (.seasonal ⟨"HST", -36000⟩ ⟨"HDT", -32400⟩ ⟨3, 2, 6, 7200⟩ ⟨11, 1, 6, 7200⟩,
    ["America/Adak", "America/Atka", "US/Aleutian"]),
  (.seasonal ⟨"AKST", -32400⟩ ⟨"AKDT", -28800⟩ ⟨3, 2, 6, 7200⟩ ⟨11, 1, 6, 7200⟩,
    ["America/Anchorage", "America/Juneau", "America/Metlakatla", "America/Nome",
     "America/Sitka", "America/Yakutat", "US/Alaska"]),
  (.always ⟨"AST", -14400⟩,
    ["America/Anguilla", "America/Antigua", "America/Aruba", "America/Barbados",
     "America/Blanc-Sablon", "America/Curacao", "America/Dominica", "America/Grenada",
     "America/Guadeloupe", "America/Kralendijk", "America/Lower_Princes", "America/Marigot",
     "America/Martinique", "America/Montserrat", "America/Port_of_Spain", "America/Puerto_Rico",
     "America/Santo_Domingo", "America/St_Barthelemy", "America/St_Kitts", "America/St_Lucia",
     "America/St_Thomas", "America/St_Vincent", "America/Tortola", "America/Virgin"]),
  (.always ⟨"-03", -10800⟩,
    ["America/Araguaina", "America/Argentina/Buenos_Aires", "America/Argentina/Catamarca",
     "America/Argentina/ComodRivadavia", "America/Argentina/Cordoba", "America/Argentina/Jujuy",
     "America/Argentina/La_Rioja", "America/Argentina/Mendoza", "America/Argentina/Rio_Gallegos",
     "America/Argentina/Salta", "America/Argentina/San_Juan", "America/Argentina/San_Luis",
     "America/Argentina/Tucuman", "America/Argentina/Ushuaia", "America/Asuncion",
     "America/Bahia", "America/Belem", "America/Buenos_Aires", "America/Catamarca",
     "America/Cayenne", "America/Cordoba", "America/Coyhaique", "America/Fortaleza",
     "America/Jujuy", "America/Maceio", "America/Mendoza", "America/Montevideo",
     "America/Paramaribo", "America/Punta_Arenas", "America/Recife", "America/Rosario",
     "America/Santarem", "America/Sao_Paulo", "Antarctica/Palmer", "Antarctica/Rothera",
     "Atlantic/Stanley", "Brazil/East", "Etc/GMT+3"]),
  (.always ⟨"EST", -18000⟩,
    ["America/Atikokan", "America/Cancun", "America/Cayman", "America/Coral_Harbour",
     "America/Jamaica", "America/Panama", "EST", "Jamaica"]),
  (.always ⟨"CST", -21600⟩,
    ["America/Bahia_Banderas", "America/Belize", "America/Chihuahua", "America/Costa_Rica",
     "America/El_Salvador", "America/Guatemala", "America/Managua", "America/Merida",
     "America/Mexico_City", "America/Monterrey", "America/Regina", "America/Swift_Current",
     "America/Tegucigalpa", "Canada/Saskatchewan", "Mexico/General"]),
  (.always ⟨"-04", -14400⟩,
    ["America/Boa_Vista", "America/Campo_Grande", "America/Caracas", "America/Cuiaba",
     "America/Guyana", "America/La_Paz", "America/Manaus", "America/Porto_Velho", "Brazil/West",
     "Etc/GMT+4"]),
  (.always ⟨"-05", -18000⟩,
    ["America/Bogota", "America/Eirunepe", "America/Guayaquil", "America/Lima",
     "America/Porto_Acre", "America/Rio_Branco", "Brazil/Acre", "Etc/GMT+5"]),
  (.seasonal ⟨"MST", -25200⟩ ⟨"MDT", -21600⟩ ⟨3, 2, 6, 7200⟩ ⟨11, 1, 6, 7200⟩,
    ["America/Boise", "America/Cambridge_Bay", "America/Ciudad_Juarez", "America/Denver",
     "America/Edmonton", "America/Inuvik", "America/Shiprock", "America/Yellowknife",
     "Canada/Mountain", "MST7MDT", "Navajo", "US/Mountain"]),
  (.seasonal ⟨"CST", -21600⟩ ⟨"CDT", -18000⟩ ⟨3, 2, 6, 7200⟩ ⟨11, 1, 6, 7200⟩,
    ["America/Chicago", "America/Indiana/Knox", "America/Indiana/Tell_City", "America/Knox_IN",
     "America/Matamoros", "America/Menominee", "America/North_Dakota/Beulah",
     "America/North_Dakota/Center", "America/North_Dakota/New_Salem", "America/Ojinaga",
     "America/Rainy_River", "America/Rankin_Inlet", "America/Resolute", "America/Winnipeg",
     "CST6CDT", "Canada/Central", "US/Central", "US/Indiana-Starke"]),
  (.always ⟨"MST", -25200⟩,
    ["America/Creston", "America/Dawson", "America/Dawson_Creek", "America/Fort_Nelson",
     "America/Hermosillo", "America/Mazatlan", "America/Phoenix", "America/Whitehorse",
     "Canada/Yukon", "MST", "Mexico/BajaSur", "US/Arizona"]),
  (.seasonal ⟨"EST", -18000⟩ ⟨"EDT", -14400⟩ ⟨3, 2, 6, 7200⟩ ⟨11, 1, 6, 7200⟩,
    ["America/Detroit", "America/Fort_Wayne", "America/Grand_Turk",
     "America/Indiana/Indianapolis", "America/Indiana/Marengo", "America/Indiana/Petersburg",
     "America/Indiana/Vevay", "America/Indiana/Vincennes", "America/Indiana/Winamac",
     "America/Indianapolis", "America/Iqaluit", "America/Kentucky/Louisville",
     "America/Kentucky/Monticello", "America/Louisville", "America/Montreal", "America/Nassau",
     "America/New_York", "America/Nipigon", "America/Pangnirtung", "America/Port-au-Prince",
     "America/Thunder_Bay", "America/Toronto", "Canada/Eastern", "EST5EDT", "US/East-Indiana",
     "US/Eastern", "US/Michigan"]),
  (.seasonal ⟨"PST", -28800⟩ ⟨"PDT", -25200⟩ ⟨3, 2, 6, 7200⟩ ⟨11, 1, 6, 7200⟩,
    ["America/Ensenada", "America/Los_Angeles", "America/Santa_Isabel", "America/Tijuana",
     "America/Vancouver", "Canada/Pacific", "Mexico/BajaNorte", "PST8PDT", "US/Pacific"]),
  (.seasonal ⟨"AST", -14400⟩ ⟨"ADT", -10800⟩ ⟨3, 2, 6, 7200⟩ ⟨11, 1, 6, 7200⟩,
    ["America/Glace_Bay", "America/Goose_Bay", "America/Halifax", "America/Moncton",
     "America/Thule", "Atlantic/Bermuda", "Canada/Atlantic"]),
  (.seasonal ⟨"-02", -7200⟩ ⟨"-01", -3600⟩ ⟨3, 5, 6, -3600⟩ ⟨10, 5, 6, 0⟩,
    ["America/Godthab", "America/Nuuk", "America/Scoresbysund"]),
  (.seasonal ⟨"CST", -18000⟩ ⟨"CDT", -14400⟩ ⟨3, 2, 6, 0⟩ ⟨11, 1, 6, 3600⟩,
    ["America/Havana", "Cuba"]),
  (.seasonal ⟨"-03", -10800⟩ ⟨"-02", -7200⟩ ⟨3, 2, 6, 7200⟩ ⟨11, 1, 6, 7200⟩,
    ["America/Miquelon"]),
  (.always ⟨"-02", -7200⟩,
    ["America/Noronha", "Atlantic/South_Georgia", "Brazil/DeNoronha", "Etc/GMT+2"]),
  (.seasonal ⟨"-04", -14400⟩ ⟨"-03", -10800⟩ ⟨9, 1, 5, 86400⟩ ⟨4, 1, 5, 86400⟩,
    ["America/Santiago", "Chile/Continental"]),
  (.seasonal ⟨"NST", -12600⟩ ⟨"NDT", -9000⟩ ⟨3, 2, 6, 7200⟩ ⟨11, 1, 6, 7200⟩,
    ["America/St_Johns", "Canada/Newfoundland"]),
  (.always ⟨"+08", 28800⟩,
    ["Antarctica/Casey", "Asia/Brunei", "Asia/Choibalsan", "Asia/Irkutsk", "Asia/Kuala_Lumpur",
     "Asia/Kuching", "Asia/Singapore", "Asia/Ulaanbaatar", "Asia/Ulan_Bator", "Etc/GMT-8",
     "Singapore"]),
  (.always ⟨"+07", 25200⟩,
    ["Antarctica/Davis", "Asia/Bangkok", "Asia/Barnaul", "Asia/Ho_Chi_Minh", "Asia/Hovd",
     "Asia/Krasnoyarsk", "Asia/Novokuznetsk", "Asia/Novosibirsk", "Asia/Phnom_Penh",
     "Asia/Saigon", "Asia/Tomsk", "Asia/Vientiane", "Etc/GMT-7", "Indian/Christmas"]),
  (.always ⟨"+10", 36000⟩,
    ["Antarctica/DumontDUrville", "Asia/Ust-Nera", "Asia/Vladivostok", "Etc/GMT-10",
     "Pacific/Chuuk", "Pacific/Port_Moresby", "Pacific/Truk", "Pacific/Yap"]),
  (.seasonal ⟨"AEST", 36000⟩ ⟨"AEDT", 39600⟩ ⟨10, 1, 6, 7200⟩ ⟨4, 1, 6, 10800⟩,
    ["Antarctica/Macquarie", "Australia/ACT", "Australia/Canberra", "Australia/Currie",
     "Australia/Hobart", "Australia/Melbourne", "Australia/NSW", "Australia/Sydney",
     "Australia/Tasmania", "Australia/Victoria"]),
  (.always ⟨"+05", 18000⟩,
    ["Antarctica/Mawson", "Antarctica/Vostok", "Asia/Almaty", "Asia/Aqtau", "Asia/Aqtobe",
     "Asia/Ashgabat", "Asia/Ashkhabad", "Asia/Atyrau", "Asia/Dushanbe", "Asia/Oral",
     "Asia/Qostanay", "Asia/Qyzylorda", "Asia/Samarkand", "Asia/Tashkent", "Asia/Yekaterinburg",
     "Etc/GMT-5", "Indian/Kerguelen", "Indian/Maldives"]),
  (.seasonal ⟨"NZST", 43200⟩ ⟨"NZDT", 46800⟩ ⟨9, 5, 6, 7200⟩ ⟨4, 1, 6, 10800⟩,
    ["Antarctica/McMurdo", "Antarctica/South_Pole", "NZ", "Pacific/Auckland"]),
  (.always ⟨"+03", 10800⟩,
    ["Antarctica/Syowa", "Asia/Aden", "Asia/Amman", "Asia/Baghdad", "Asia/Bahrain",
     "Asia/Damascus", "Asia/Istanbul", "Asia/Kuwait", "Asia/Qatar", "Asia/Riyadh", "Etc/GMT-3",
     "Europe/Istanbul", "Europe/Minsk", "Turkey"]),
  (.seasonal ⟨"+00", 0⟩ ⟨"+02", 7200⟩ ⟨3, 5, 6, 3600⟩ ⟨10, 5, 6, 10800⟩,
    ["Antarctica/Troll"]),
  (.always ⟨"+12", 43200⟩,
    ["Asia/Anadyr", "Asia/Kamchatka", "Etc/GMT-12", "Kwajalein", "Pacific/Fiji",
     "Pacific/Funafuti", "Pacific/Kwajalein", "Pacific/Majuro", "Pacific/Nauru",
     "Pacific/Tarawa", "Pacific/Wake", "Pacific/Wallis"]),
  (.always ⟨"+04", 14400⟩,
    ["Asia/Baku", "Asia/Dubai", "Asia/Muscat", "Asia/Tbilisi", "Asia/Yerevan", "Etc/GMT-4",
     "Europe/Astrakhan", "Europe/Samara", "Europe/Saratov", "Europe/Ulyanovsk", "Indian/Mahe",
     "Indian/Mauritius", "Indian/Reunion"]),
  (.seasonal ⟨"EET", 7200⟩ ⟨"EEST", 10800⟩ ⟨3, 5, 6, 0⟩ ⟨10, 5, 6, 0⟩,
    ["Asia/Beirut"]),
  (.always ⟨"+06", 21600⟩,
    ["Asia/Bishkek", "Asia/Dacca", "Asia/Dhaka", "Asia/Kashgar", "Asia/Omsk", "Asia/Thimbu",
     "Asia/Thimphu", "Asia/Urumqi", "Etc/GMT-6", "Indian/Chagos"]),
  (.always ⟨"IST", 19800⟩,
    ["Asia/Calcutta", "Asia/Kolkata"]),
  (.always ⟨"+09", 32400⟩,
    ["Asia/Chita", "Asia/Dili", "Asia/Khandyga", "Asia/Yakutsk", "Etc/GMT-9", "Pacific/Palau"]),
  (.always ⟨"CST", 28800⟩,
    ["Asia/Chongqing", "Asia/Chungking", "Asia/Harbin", "Asia/Macao", "Asia/Macau",
     "Asia/Shanghai", "Asia/Taipei", "PRC", "ROC"]),
  (.always ⟨"+0530", 19800⟩,
    ["Asia/Colombo"]),
  (.seasonal ⟨"EET", 7200⟩ ⟨"EEST", 10800⟩ ⟨3, 5, 6, 10800⟩ ⟨10, 5, 6, 14400⟩,
    ["Asia/Famagusta", "Asia/Nicosia", "EET", "Europe/Athens", "Europe/Bucharest",
     "Europe/Chisinau", "Europe/Helsinki", "Europe/Kiev", "Europe/Kyiv", "Europe/Mariehamn",
     "Europe/Nicosia", "Europe/Riga", "Europe/Sofia", "Europe/Tallinn", "Europe/Tiraspol",
     "Europe/Uzhgorod", "Europe/Vilnius", "Europe/Zaporozhye"]),
  (.seasonal ⟨"EET", 7200⟩ ⟨"EEST", 10800⟩ ⟨3, 4, 3, 180000⟩ ⟨10, 4, 3, 180000⟩,
    ["Asia/Gaza", "Asia/Hebron"]),
  (.always ⟨"HKT", 28800⟩,
    ["Asia/Hong_Kong", "Hongkong"]),
  (.always ⟨"WIB", 25200⟩,
    ["Asia/Jakarta", "Asia/Pontianak"]),
  (.always ⟨"WIT", 32400⟩,
    ["Asia/Jayapura"]),
  (.seasonal ⟨"IST", 7200⟩ ⟨"IDT", 10800⟩ ⟨3, 4, 3, 93600⟩ ⟨10, 5, 6, 7200⟩,
    ["Asia/Jerusalem", "Asia/Tel_Aviv", "Israel"]),
  (.always ⟨"+0430", 16200⟩,
    ["Asia/Kabul"]),
  (.always ⟨"PKT", 18000⟩,
    ["Asia/Karachi"]),
  (.always ⟨"+0545", 20700⟩,
    ["Asia/Kathmandu", "Asia/Katmandu"]),
  (.always ⟨"+11", 39600⟩,
    ["Asia/Magadan", "Asia/Sakhalin", "Asia/Srednekolymsk", "Etc/GMT-11",
     "Pacific/Bougainville", "Pacific/Efate", "Pacific/Guadalcanal", "Pacific/Kosrae",
     "Pacific/Noumea", "Pacific/Pohnpei", "Pacific/Ponape"]),
  (.always ⟨"WITA", 28800⟩,
    ["Asia/Makassar", "Asia/Ujung_Pandang"]),
  (.always ⟨"PST", 28800⟩,
    ["Asia/Manila"]),
  (.always ⟨"KST", 32400⟩,
    ["Asia/Pyongyang", "Asia/Seoul", "ROK"]),
  (.always ⟨"+0630", 23400⟩,
    ["Asia/Rangoon", "Asia/Yangon", "Indian/Cocos"]),
  (.always ⟨"+0330", 12600⟩,
    ["Asia/Tehran", "Iran"]),
  (.always ⟨"JST", 32400⟩,
    ["Asia/Tokyo", "Japan"]),
  (.seasonal ⟨"-01", -3600⟩ ⟨"+00", 0⟩ ⟨3, 5, 6, 0⟩ ⟨10, 5, 6, 3600⟩,
    ["Atlantic/Azores"]),
  (.seasonal ⟨"WET", 0⟩ ⟨"WEST", 3600⟩ ⟨3, 5, 6, 3600⟩ ⟨10, 5, 6, 7200⟩,
    ["Atlantic/Canary", "Atlantic/Faeroe", "Atlantic/Faroe", "Atlantic/Madeira",
     "Europe/Lisbon", "Portugal", "WET"]),
  (.always ⟨"-01", -3600⟩,
    ["Atlantic/Cape_Verde", "Etc/GMT+1"]),
  (.seasonal ⟨"ACST", 34200⟩ ⟨"ACDT", 37800⟩ ⟨10, 1, 6, 7200⟩ ⟨4, 1, 6, 10800⟩,
    ["Australia/Adelaide", "Australia/Broken_Hill", "Australia/South", "Australia/Yancowinna"]),
  (.always ⟨"AEST", 36000⟩,
    ["Australia/Brisbane", "Australia/Lindeman", "Australia/Queensland"]),
  (.always ⟨"ACST", 34200⟩,
    ["Australia/Darwin", "Australia/North"]),
  (.always ⟨"+0845", 31500⟩,
    ["Australia/Eucla"]),
  (.seasonal ⟨"+1030", 37800⟩ ⟨"+11", 39600⟩ ⟨10, 1, 6, 7200⟩ ⟨4, 1, 6, 7200⟩,
    ["Australia/LHI", "Australia/Lord_Howe"]),
  (.always ⟨"AWST", 28800⟩,
    ["Australia/Perth", "Australia/West"]),
  (.seasonal ⟨"-06", -21600⟩ ⟨"-05", -18000⟩ ⟨9, 1, 5, 79200⟩ ⟨4, 1, 5, 79200⟩,
    ["Chile/EasterIsland", "Pacific/Easter"]),
  (.seasonal ⟨"GMT", 0⟩ ⟨"IST", 3600⟩ ⟨3, 5, 6, 3600⟩ ⟨10, 5, 6, 7200⟩,
    ["Eire", "Europe/Dublin"]),
  (.always ⟨"-10", -36000⟩,
    ["Etc/GMT+10", "Pacific/Rarotonga", "Pacific/Tahiti"]),
  (.always ⟨"-11", -39600⟩,
    ["Etc/GMT+11", "Pacific/Niue"]),
  (.always ⟨"-12", -43200⟩,
    ["Etc/GMT+12"]),
  (.always ⟨"-06", -21600⟩,
    ["Etc/GMT+6", "Pacific/Galapagos"]),
  (.always ⟨"-07", -25200⟩,
    ["Etc/GMT+7"]),
  (.always ⟨"-08", -28800⟩,
    ["Etc/GMT+8", "Pacific/Pitcairn"]),
  (.always ⟨"-09", -32400⟩,
    ["Etc/GMT+9", "Pacific/Gambier"]),
  (.always ⟨"+13", 46800⟩,
    ["Etc/GMT-13", "Pacific/Apia", "Pacific/Enderbury", "Pacific/Fakaofo", "Pacific/Kanton",
     "Pacific/Tongatapu"]),
  (.always ⟨"+14", 50400⟩,
    ["Etc/GMT-14", "Pacific/Kiritimati"]),
  (.always ⟨"+02", 7200⟩,
    ["Etc/GMT-2"]),
  (.always ⟨"UTC", 0⟩,
    ["Etc/UCT", "Etc/UTC", "Etc/Universal", "Etc/Zulu", "UCT", "UTC", "Universal", "Zulu"]),
  (.seasonal ⟨"GMT", 0⟩ ⟨"BST", 3600⟩ ⟨3, 5, 6, 3600⟩ ⟨10, 5, 6, 7200⟩,
    ["Europe/Belfast", "Europe/Guernsey", "Europe/Isle_of_Man", "Europe/Jersey",
     "Europe/London", "GB", "GB-Eire"]),
  (.always ⟨"MSK", 10800⟩,
    ["Europe/Kirov", "Europe/Moscow", "Europe/Simferopol", "Europe/Volgograd", "W-SU"]),
  (.always ⟨"-00", 0⟩,
    ["Factory"]),
  (.always ⟨"HST", -36000⟩,
    ["HST", "Pacific/Honolulu", "Pacific/Johnston", "US/Hawaii"]),
  (.seasonal ⟨"MET", 3600⟩ ⟨"MEST", 7200⟩ ⟨3, 5, 6, 7200⟩ ⟨10, 5, 6, 10800⟩,
    ["MET"]),
  (.seasonal ⟨"+1245", 45900⟩ ⟨"+1345", 49500⟩ ⟨9, 5, 6, 9900⟩ ⟨4, 1, 6, 13500⟩,
    ["NZ-CHAT", "Pacific/Chatham"]),
  (.always ⟨"ChST", 36000⟩,
    ["Pacific/Guam", "Pacific/Saipan"]),
  (.always ⟨"-0930", -34200⟩,
    ["Pacific/Marquesas"]),
  (.always ⟨"SST", -39600⟩,
    ["Pacific/Midway", "Pacific/Pago_Pago", "Pacific/Samoa", "US/Samoa"]),
  (.seasonal ⟨"+11", 39600⟩ ⟨"+12", 43200⟩ ⟨10, 1, 6, 7200⟩ ⟨4, 1, 6, 10800⟩,
    ["Pacific/Norfolk"])
]

/-- A name with the words for plus and minus replaced by the signs they stand for. -/
def signedName (name : String) : String :=
  "-".intercalate (("+".intercalate (name.splitOn "_plus_")).splitOn "_minus_")

/-- The zone of a name that is written in ASCII. -/
def zoneOfName? (name : String) : Option Zone :=
  let wanted := (signedName name).toLower
  zoneTable.findSome? fun (rule, names) =>
    (names.find? fun known => known.toLower == wanted).map fun known => ⟨known, rule⟩

/-- The zone that a value names. -/
def zoneOf (name : Value) : Outcome Zone :=
  match name with
  | .text s =>
      match if s.toList.all fun c => c.toNat < 128 then zoneOfName? s else none with
      | some zone => .ok zone
      | none => .error (.unknownZone s)
  | v => .error (.unknownZone v.shown)

end NodeInventory
