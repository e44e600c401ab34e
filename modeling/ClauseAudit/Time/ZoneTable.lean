import ClauseAudit.Time.Zone

/-!
# Table of time zones

The history of every named time zone up to the year 2037. Zones with one history stand in one
entry. See `ZoneEntry` for how changes are written.
-/

namespace ClauseAudit.Time

def zoneEntries1 : List ZoneEntry := [
  {
    names := ["Africa/Abidjan"]
    kinds := [(-960, false), (0, false)]
    changes := ["!0Ivf981"] },
  {
    names := ["Africa/Accra"]
    kinds := [(-60, false), (0, false), (1200, true), (1800, false), (1800, true)]
    changes := [
      "!0Q7PGq1!07eo1C2!00CZ1m1!01GRAm2!00eD9G1!01G64m2!00eD9G1!01G64m2!00eD9G1!01G64m2!00eD9G1!01G",
      "RAm2!00eD9G1!01G64m2!00eD9G1!01G64m2!00eD9G1!01G64m2!00eD9G1!01GRAm2!00eD9G1!01G64m2!00eD9G1",
      "!01G64m2!00eD9G1!01G64m2!00eD9G1!01GRAm2!00eD9G1!01G64m2!00eD9G1!01G64m2!00eD9G1!01G64m2!00e",
      "D9G1!01GRAm2!00eD9G1!01G64m2!00eD9G1!01G64m2!00eD9G1!01G64m2!00eD9G1!00duem2!01GlhG1!00dZYm2",
      "!01GlhG1!00CW6G3XT-1dqg42s-15iY42s-15k242s-15iY42s-15iY42s-15iY42s-1"] },
  {
    names := ["Africa/Addis_Ababa"]
    kinds := [(9300, false), (10800, false)]
    changes := ["!10h_AO1"] },
  {
    names := ["Africa/Algiers"]
    kinds := [(720, false), (540, false), (0, false), (3600, true), (3600, false), (7200, true)]
    changes := [
      "0001!0HO51F2!09voYX32ZW245034dW23bW34yW23R03570236035w023L032KW2!0YHm0031c422J84Z8S54Py44845",
      "3wO49302!0HWykG4zhy2!0F714033d02m0433xy43d454H449MO24H434Ra24Gy4"] },
  {
    names := ["Africa/Asmara", "Africa/Asmera"]
    kinds := [(9360, false), (9300, false), (10800, false)]
    changes := ["0001!10h_AO2"] },
  {
    names := ["Africa/Bamako", "Africa/Timbuktu"]
    kinds := [(-1920, false), (0, false), (-3600, false)]
    changes := ["!0IvfO01!0fh2A02!0nViwG1"] },
  {
    names := ["Africa/Bangui"]
    kinds := [(4440, false), (3600, false)]
    changes := ["!0IvdqK1"] },
  {
    names := ["Africa/Banjul"]
    kinds := [(-4020, false), (-3600, false), (0, false)]
    changes := ["!0wtcUS1!0GdwXq2"] },
  {
    names := ["Africa/Bissau"]
    kinds := [(-3720, false), (-3600, false), (0, false)]
    changes := ["!0IvfoG1!1sWCI02"] },
  {
    names := ["Africa/Blantyre"]
    kinds := [(8400, false), (8460, false), (7200, false)]
    changes := ["!0I4Ymm1!0QDyH42"] },
  {
    names := ["Africa/Brazzaville"]
    kinds := [(3660, false), (3600, false)]
    changes := ["!0Ive0i1"] },
  {
    names := ["Africa/Bujumbura"]
    kinds := [(7020, false), (7200, false)]
    changes := ["0001"] },
  {
    names := ["Africa/Cairo", "Egypt"]
    kinds := [(7500, false), (7200, false), (10800, true)]
    changes := [
      "0001!18axJW21qy14c423cy14da24vS13g4250y13a4250y13v424gS1!0LgxOG23Ny14-423bS14-823a4150y23a41",
      "4_S23a414_S23a414_S23a4150y23a414_S23a414_S23ba14zy23ba14_S23ba14zy23ba14zy23ba14zy23ba14_S2",
      "3ba14zy23ba14zy23ba14zy23ba14_S23ba14zy23ba14zy23ba14zy23ba14_S23ba14zy23ba16zS21c416fy21va1",
      "4_S23ba14zy23ba14zy23ba14zy23ba14_S23ba155S23U414zy23ba14zy23ba14_S23ba14zy23ba14zy23ba14vO2",
      "3cy14x423cy14x423cy14x423cy155a23cy14x423cy14x423cy14x423cy14x423cy155a23cy14x423cy14x423SS1",
      "55a237S15Qa22yy15b422oS15w422QS10j420VS1V0a20-y10qa21Jy1!0G9cuG24Gy14H424RS146a24RS146a24RS1",
      "4H424Gy14H424Gy14H424Gy14H424RS146a24RS14H424Gy14H424Gy14H424Gy14H424Gy14H424RS146a24RS1"] },
  {
    names := ["Africa/Casablanca"]
    kinds := [(-1800, false), (0, false), (3600, true), (3600, false)]
    changes := [
      "!0MKVcS1!0mhHha21by12J42n3S1d3423Hy1!0VDqfG22pC1vd421dS1EG4229y16Pa23Wy15n421Vy1m4a3FNy1!0gA",
      "NQG229y16Pa21vS15z422Iy15b422oS16Pi21x010kW20zW14x021f010p021r013d0227010qW21_W13d021pW10qW2",
      "2J013d021f010qW22e013SW21K010_022oW13SW219W10qW27Z010qW27OW10_027OW10qW27OW10_027OW10qW27Z01",
      "0qW27OW10_027OW10qW27Z010qW27OW10_027OW10qW27OW10_027OW10qW27Z010qW27OW10_027OW10qW27OW10_02",
      "7OW10_027OW10qW27OW10_02"] },
  {
    names := ["Africa/Ceuta"]
    kinds := [(-1260, false), (0, false), (3600, true), (3600, false), (7200, true)]
    changes := [
      "0001!0UrdLm23cy1lJ4240a1D7y23y414RS246a14c0246W1!18jK7022pC1vd421dS1EG4229y16Pa23Wy15n421Vy1",
      "m4a3HS444H034H044H034H044H034H044H034H044RW34H044H034H044H034H044H034H044H034H044H034RW44x03",
      "3d044x033d044x033d0455W33SW455W33SW455W33d044x033d044x033d0455W33SW455W33SW455W33SW455W33d04",
      "4x033d044x033d0455W33SW455W33SW455W33d044x033d044x033d044x033d0455W33SW455W33SW455W33d044x03",
      "3d044x033d0455W33SW455W33SW455W33d044x033d044x033d044x033d0455W33SW455W33SW455W33d044x033d04",
      "4x033d0455W33SW455W33SW455W33SW455W33d044x033d044x03"] },
  {
    names := ["Africa/Conakry"]
    kinds := [(-3300, false), (0, false), (-3600, false)]
    changes := ["!0IvfjS1!0fh1qa2!0mdLuG1"] },
  {
    names := ["Africa/Dakar"]
    kinds := [(-4200, false), (-3600, false), (0, false)]
    changes := ["!0IvfxO1!0tL76u2"] },
  {
    names := ["Africa/Dar_es_Salaam"]
    kinds := [(9420, false), (10800, false), (9900, false)]
    changes := ["!0sezEi1!0V-Qma2!0OTES41"] },
  {
    names := ["Africa/Djibouti"]
    kinds := [(10380, false), (10800, false)]
    changes := ["!0Hyz8C1"] },
  {
    names := ["Africa/Douala"]
    kinds := [(2340, false), (3600, false)]
    changes := ["!0IveLe1"] },
  {
    names := ["Africa/El_Aaiun"]
    kinds := [(-3180, false), (-3600, false), (0, false), (3600, true)]
    changes := [
      "!0yIF3W1!1FYB-m20PS329y26Pa33Wy25n431Vy2!0u6aCG329y26Pa31vS25z432Iy25b432oS26Pi31x020kW30zW2",
      "4x031f020p031r023d0327020qW31_W23d031pW20qW32J023d031f020qW32e023SW31K020_032oW23SW319W20qW3",
      "7Z020qW37OW20_037OW20qW37OW20_037OW20qW37Z020qW37OW20_037OW20qW37Z020qW37OW20_037OW20qW37OW2",
      "0_037OW20qW37Z020qW37OW20_037OW20qW37OW20_037OW20_037OW20qW37OW20_03"] },
  {
    names := ["Africa/Freetown"]
    kinds := [(-3180, false), (-3600, false), (-2400, true), (0, false)]
    changes := [
      "!0Ljxzi1!0aXo4a2!00du3G1!00oRem2!015tbG1!00oRem2!015tbG1!00oRem2!016ChG1!00oRem2!015tbG1!00o",
      "Rem2!015tbG1!00oRem2!01P-JG1!00UKwm2!001K5G1!04FbYm3"] },
  {
    names := ["Africa/Gaborone"]
    kinds := [(6240, false), (5400, false), (7200, false), (10800, true)]
    changes := ["0001!02Hize2!1CHvyO34Gy2"] },
  {
    names := ["Africa/Harare"]
    kinds := [(7440, false), (7200, false)]
    changes := ["!02HiTa1"] },
  {
    names := ["Africa/Johannesburg"]
    kinds := [(6720, false), (5400, false), (7200, false), (10800, true)]
    changes := ["0001!02Hize2!1APxqO34Gy24H434Gy2"] },
  {
    names := ["Africa/Juba"]
    kinds := [(7560, false), (7200, false), (10800, true), (10800, false)]
    changes := [
      "!0sezhS1!19-Zq423wS14da23xy14f423xy14c423zS14aa23-y14Z4240S14Xa243S14Ua244y14da23xy14c423zS1",
      "4aa240S14Xa241y14W4243S14Ua244y14da23zS14aa23-y1!0QpiPG3!0dbjKm1"] },
  {
    names := ["Africa/Kampala"]
    kinds := [(7800, false), (10800, false), (9000, false), (9900, false)]
    changes := ["!0nxjyS1!02qxkq2!0Xskm83!0Gxi1y1"] },
  {
    names := ["Africa/Khartoum"]
    kinds := [(7800, false), (7200, false), (10800, true), (10800, false)]
    changes := [
      "!0seze01!19-ZtW23wS14da23xy14f423xy14c423zS14aa23-y14Z4240S14Xa243S14Ua244y14da23xy14c423zS1",
      "4aa240S14Xa241y14W4243S14Ua244y14da23zS14aa23-y1!0QpiPG3!0XU9ym1"] },
  {
    names := ["Africa/Kigali"]
    kinds := [(7200, false)]
    changes := [] },
  {
    names := ["Africa/Kinshasa"]
    kinds := [(3660, false), (3600, false)]
    changes := ["0001"] },
  {
    names := ["Africa/Lagos"]
    kinds := [(840, false), (0, false), (1800, false), (3600, false)]
    changes := ["!06gt3H1!05fEyl0!0AMUFH2!0Afwkd3"] },
  {
    names := ["Africa/Libreville"]
    kinds := [(2280, false), (3600, false)]
    changes := ["!0IveMa1"] },
  {
    names := ["Africa/Lome"]
    kinds := [(300, false), (0, false)]
    changes := ["0001"] },
  {
    names := ["Africa/Luanda"]
    kinds := [(3180, false), (3120, false), (3600, false)]
    changes := ["0001!0Ive1m2"] },
  {
    names := ["Africa/Lubumbashi"]
    kinds := [(6600, false), (3600, false), (7200, false)]
    changes := ["0001!0YYblm2"] },
  {
    names := ["Africa/Lusaka"]
    kinds := [(6780, false), (7200, false)]
    changes := ["!02Hidy1"] },
  {
    names := ["Africa/Malabo"]
    kinds := [(2100, false), (0, false), (3600, false)]
    changes := ["!0IveP41!1XkJWy2"] },
  {
    names := ["Africa/Maputo"]
    kinds := [(7800, false), (7200, false)]
    changes := ["!0DGjLs1"] },
  {
    names := ["Africa/Maseru"]
    kinds := [(6600, false), (7200, false), (10800, true)]
    changes := ["!02Higu1!1CHwF824Gy1"] },
  {
    names := ["Africa/Mbabane"]
    kinds := [(7440, false), (7200, false)]
    changes := ["!02HiTO1"] },
  {
    names := ["Africa/Mogadishu"]
    kinds := [(10860, false), (10800, false), (9000, false)]
    changes := ["0001!0seyvG2!0mw7o81"] },
  {
    names := ["Africa/Monrovia"]
    kinds := [(-2580, false), (-2640, false), (0, false)]
    changes := ["!0WNsoS1!1ZQktI2"] },
  {
    names := ["Africa/Nairobi"]
    kinds := [(8820, false), (9000, false), (10800, false), (9900, false)]
    changes := ["!0B_z7y1!0bxmXS2CzU1xrY3lm_2"] },
  {
    names := ["Africa/Ndjamena"]
    kinds := [(3600, false), (7200, true)]
    changes := ["!2IPd5m13Qy0"] },
  {
    names := ["Africa/Niamey"]
    kinds := [(480, false), (-3600, false), (0, false), (3600, false)]
    changes := ["!0Iveo41!0fh3eC2!0mdK7m3"] },
  {
    names := ["Africa/Nouakchott"]
    kinds := [(-3840, false), (0, false), (-3600, false)]
    changes := ["!0Ivfrq1!0fh1iC2!0oKn0G1"] },
  {
    names := ["Africa/Ouagadougou"]
    kinds := [(-360, false), (0, false)]
    changes := ["!0Ive_i1"] },
  {
    names := ["Africa/Porto-Novo"]
    kinds := [(600, false), (0, false), (3600, false)]
    changes := ["!0IvemC1!0fh2nq2"] },
  {
    names := ["Africa/Sao_Tome"]
    kinds := [(1620, false), (-2220, false), (0, false), (3600, false)]
    changes := ["0001!0Ivew02!37OlcG38ZW2"] },
  {
    names := ["Africa/Tripoli", "Libya"]
    kinds := [(3180, false), (3600, false), (7200, true), (7200, false)]
    changes := [
      "!0Xyi4a1!0xoE_i21sK1FAi21zq1Exa22BS1Pi43!0hGtjm127424IS14H424IS14Ia24IS14Oa24Ay14La24Gy14E42",
      "4IS14Ia24IS14H424IS152a3stS14N424IS3!0SQ2uW13GW24x03"] },
  {
    names := ["Africa/Tunis"]
    kinds := [(2460, false), (540, false), (3600, false), (7200, true)]
    changes := [
      "0001!0HO51F2!0qsZYH355W22KW3Do023d435b823SW30SS20C433oy24H434Pq248C33wK2!0xUScG33SW258W33bW2",
      "!0IBo2032k024H034H0258W33a02!0RRkQ033a4249a355W23SW355W23d034x02"] },
  {
    names := ["Africa/Windhoek"]
    kinds := [
      (4080, false), (5400, false), (7200, false), (10800, true), (3600, false), (7200, true)]
    changes := [
      "0001!02Hize2!1APxqO34Gy2!1VxbVm43wi54wy43d4555S43Sa555S43d454wy43d454wy43d454wy43d454wy43d45",
      "55S43Sa555S43d454wy43d454wy43d454wy43d454wy43d4555S43d454wy43d454wy43d454wy43d454wy43d4555S4",
      "3Sa555S43d454wy43d454wy43d454wy43d451CK2"] },
  {
    names := ["America/Adak", "America/Atka", "US/Aleutian"]
    kinds := [(43980, false), (-39600, false), (-36000, true), (-36000, false), (-32400, true)]
    changes := [
      "0001!1BYKJG2V9S1!0iLo4G24Gy14H424Gy14H424RS14H424Gy14H424Gy11f426uy12oa25lS14H424RS146a24RS1",
      "4H424Gy14H424Gy14H424Gy14H424Gy14H424RS146a24RS34H044Gy34H444Gy34H444Gy33na44mS33na44wy33d44",
      "4wy33d444wy33na44mS33na44mS33na44wy33d444wy33d444wy33na44mS33na44mS33na44mS33na44wy33d444wy3",
      "3d444wy33na44mS33na44mS33na44wy33d444wy33d444wy337a45ay32z445ay32z445ay337a45ay32z445ay32z44",
      "5ay32z445ay32z445ay32z445ay337a45ay32z445ay32z445ay32z445ay32z445ay337a45ay32z445ay32z445ay3",
      "2z445ay32z445ay32z445ay337a45ay32z445ay32z445ay32z445ay32z445ay337a45ay32z445ay32z445ay32z44",
      "5ay32z445ay32z445ay3"] },
  {
    names := ["America/Anchorage", "US/Alaska"]
    kinds := [(50400, false), (-36000, false), (-32400, true), (-32400, false), (-28800, true)]
    changes := [
      "0001!1BYJR02V9S1!0iLo4G24Gy14H424Gy14H424RS14H424Gy14H424Gy11f426uy12oa25lS14H424RS146a24RS1",
      "4H424Gy14H424Gy14H424Gy14H424Gy14H424RS146a24RS34H044Gy34H444Gy34H444Gy33na44mS33na44wy33d44",
      "4wy33d444wy33na44mS33na44mS33na44wy33d444wy33d444wy33na44mS33na44mS33na44mS33na44wy33d444wy3",
      "3d444wy33na44mS33na44mS33na44wy33d444wy33d444wy337a45ay32z445ay32z445ay337a45ay32z445ay32z44",
      "5ay32z445ay32z445ay32z445ay337a45ay32z445ay32z445ay32z445ay32z445ay337a45ay32z445ay32z445ay3",
      "2z445ay32z445ay32z445ay337a45ay32z445ay32z445ay32z445ay32z445ay337a45ay32z445ay32z445ay32z44",
      "5ay32z445ay32z445ay3"] },
  {
    names := ["America/Anguilla"]
    kinds := [(-15120, false), (-14400, false)]
    changes := ["!0JDpKW1"] },
  {
    names := ["America/Antigua"]
    kinds := [(-14820, false), (-18000, false), (-14400, false)]
    changes := ["!0JDpFm1!192wXW2"] },
  {
    names := ["America/Araguaina"]
    kinds := [(-11580, false), (-10800, false), (-7200, true)]
    changes := [
      "!0MgdGm1!0XPDMm24Em14La24Dy1!0VMZeG23C015NW22rS15k422sy15k4226y1!0KGyoG21yS17u421OS15la226y1",
      "5la22py15la22rS1!0XFX2G237S15G422dy15xa22TS15w422TS164a22oS1ma422oS15b4237S15S423Qy15G4237S1",
      "5G423SS15G4237S15b422yy164a22TS1!0ID7IG22oS1"] },
  {
    names := ["America/Argentina/Buenos_Aires", "America/Buenos_Aires"]
    kinds := [
      (-14040, false), (-15420, false), (-14400, false), (-10800, true), (-10800, false),
      (-7200, true)]
    changes := [
      "0001!0Yaeym2!0JwCCG32rS24da33Ey25la32py25la32py25la32py25la32rS25la32py25la32py25la32py25la3",
      "2rS22t438BS22t43FMS21ma3KLy25143!0V-QDm21ma31pS25M433DS25M433DS25M433zS24H434RS24H434Gy24H44",
      "aqS52Iy4!0RS4OG52Cy45G453Hy45Qa537S45Qa537S45Qa53Hy4!0RtRAG51pS455a53SS4"] },
  {
    names := [
      "America/Argentina/Catamarca", "America/Argentina/ComodRivadavia", "America/Catamarca"]
    kinds := [
      (-15780, false), (-15420, false), (-14400, false), (-10800, true), (-10800, false),
      (-7200, true)]
    changes := [
      "0001!0Yaeym2!0JwCCG32rS24da33Ey25la32py25la32py25la32py25la32rS25la32py25la32py25la32py25la3",
      "2rS22t438BS22t43FMS21ma3KLy25143!0V-QDm21ma31pS25M433DS25M433DS25M433zS24H434RS24H434Gy24H44",
      "aqS52Iy4!0RS4OG52Cy45G453Hy45Qa537S25Qe537O45Qa53Hy4uHa33a04aMW20Sa4UBy51pS4"] },
  {
    names := ["America/Argentina/Cordoba", "America/Cordoba", "America/Rosario"]
    kinds := [(-15420, false), (-14400, false), (-10800, true), (-10800, false), (-7200, true)]
    changes := [
      "!0Yaeym1!0JwCCG22rS14da23Ey15la22py15la22py15la22py15la22rS15la22py15la22py15la22py15la22rS1",
      "2t428BS12t42FMS11ma2KLy15142!0V-QDm11ma21pS15M423DS15M423DS15M423zS14H424RS14H424Gy14H43aqS4",
      "2Iy3!0RS4OG42Cy35G443Hy35Qa437S15Qe437O35Qa43Hy3!0RtRAG41pS355a43SS3"] }
  ]

def zoneEntries2 : List ZoneEntry := [
  {
    names := ["America/Argentina/Jujuy", "America/Jujuy"]
    kinds := [
      (-15660, false), (-15420, false), (-14400, false), (-10800, true), (-10800, false),
      (-7200, true)]
    changes := [
      "0001!0Yaeym2!0JwCCG32rS24da33Ey25la32py25la32py25la32py25la32rS25la32py25la32py25la32py25la3",
      "2rS22t438BS22t43FMS21ma3KLy25143!0V-QDm21ma31pS25M433DS25M433DS25M433zS24H434RS24H434Gy24H44",
      "aqS52Iy4!0RS4OG52Cy45G453Hy25b833Hy24ma53SO45Qa53Hy4!0RtRAG51pS4"] },
  {
    names := ["America/Argentina/La_Rioja"]
    kinds := [
      (-16020, false), (-15420, false), (-14400, false), (-10800, true), (-10800, false),
      (-7200, true)]
    changes := [
      "0001!0Yaeym2!0JwCCG32rS24da33Ey25la32py25la32py25la32py25la32rS25la32py25la32py25la32py25la3",
      "2rS22t438BS22t43FMS21ma3KLy25143!0V-QDm21ma31pS25M433DS25M433DS25M433zS24H434RS24H434Gy24H44",
      "aqS52Iy4!0RS4OG52Cy45G453Hy45Qa534S21ae43uy537S45Qa53Hy4uHa33a04aMW20Sa4UBy51pS4"] },
  {
    names := ["America/Argentina/Mendoza", "America/Mendoza"]
    kinds := [
      (-16500, false), (-15420, false), (-14400, false), (-10800, true), (-10800, false),
      (-7200, true)]
    changes := [
      "0001!0Yaeym2!0JwCCG32rS24da33Ey25la32py25la32py25la32py25la32rS25la32py25la32py25la32py25la3",
      "2rS22t438BS22t43FMS21ma3KLy25143!0V-QDm21ma31pS25M433DS25M433DS25M433zS24H434RS24H434Gy24H44",
      "aqS52Iy4!0RS4OG52Cy45G453Hy25He33DS25M433Ey25Qa53Hu4uHa33a04a9022z44Ruy51pS4"] },
  {
    names := ["America/Argentina/Rio_Gallegos"]
    kinds := [
      (-16620, false), (-15420, false), (-14400, false), (-10800, true), (-10800, false),
      (-7200, true)]
    changes := [
      "0001!0Yaeym2!0JwCCG32rS24da33Ey25la32py25la32py25la32py25la32rS25la32py25la32py25la32py25la3",
      "2rS22t438BS22t43FMS21ma3KLy25143!0V-QDm21ma31pS25M433DS25M433DS25M433zS24H434RS24H434Gy24H44",
      "aqS52Iy4!0RS4OG52Cy45G453Hy45Qa537S45Qa537S45Qa53Hy4uHa33a04aMW20Sa4UBy51pS4"] },
  {
    names := ["America/Argentina/Salta"]
    kinds := [
      (-15720, false), (-15420, false), (-14400, false), (-10800, true), (-10800, false),
      (-7200, true)]
    changes := [
      "0001!0Yaeym2!0JwCCG32rS24da33Ey25la32py25la32py25la32py25la32rS25la32py25la32py25la32py25la3",
      "2rS22t438BS22t43FMS21ma3KLy25143!0V-QDm21ma31pS25M433DS25M433DS25M433zS24H434RS24H434Gy24H44",
      "aqS52Iy4!0RS4OG52Cy45G453Hy45Qa537S25Qe537O45Qa53Hy4!0RtRAG51pS4"] },
  {
    names := ["America/Argentina/San_Juan"]
    kinds := [
      (-16440, false), (-15420, false), (-14400, false), (-10800, true), (-10800, false),
      (-7200, true)]
    changes := [
      "0001!0Yaeym2!0JwCCG32rS24da33Ey25la32py25la32py25la32py25la32rS25la32py25la32py25la32py25la3",
      "2rS22t438BS22t43FMS21ma3KLy25143!0V-QDm21ma31pS25M433DS25M433DS25M433zS24H434RS24H434Gy24H44",
      "aqS52Iy4!0RS4OG52Cy45G453Hy45Qa534S21ae43uy537S45Qa53Hy4uHa33a04aL021Ia4TNS51pS4"] },
  {
    names := ["America/Argentina/San_Luis"]
    kinds := [
      (-15900, false), (-15420, false), (-14400, false), (-10800, true), (-10800, false),
      (-7200, true)]
    changes := [
      "0001!0Yaeym2!0JwCCG32rS24da33Ey25la32py25la32py25la32py25la32rS25la32py25la32py25la32py25la3",
      "2rS22t438BS22t43FMS21ma3KLy25143!0V-QDm21ma31pS25M433DS25M433DS25M433zS24H434RS24H434Gy24H44",
      "aqS52Iy4!0RS4OG52Cy45G453Wy252e33DS22A44!0Fhwhm33a04aL021Ia4TNS50Wy3184255a33SS255a4"] },
  {
    names := ["America/Argentina/Tucuman"]
    kinds := [
      (-15660, false), (-15420, false), (-14400, false), (-10800, true), (-10800, false),
      (-7200, true)]
    changes := [
      "0001!0Yaeym2!0JwCCG32rS24da33Ey25la32py25la32py25la32py25la32rS25la32py25la32py25la32py25la3",
      "2rS22t438BS22t43FMS21ma3KLy25143!0V-QDm21ma31pS25M433DS25M433DS25M433zS24H434RS24H434Gy24H44",
      "aqS52Iy4!0RS4OG52Cy45G453Hy45Qa537S25Qe537O45Qa53Hy4uHa33a04aMW20I44UMS51pS455a53SS4"] },
  {
    names := ["America/Argentina/Ushuaia"]
    kinds := [
      (-16380, false), (-15420, false), (-14400, false), (-10800, true), (-10800, false),
      (-7200, true)]
    changes := [
      "0001!0Yaeym2!0JwCCG32rS24da33Ey25la32py25la32py25la32py25la32rS25la32py25la32py25la32py25la3",
      "2rS22t438BS22t43FMS21ma3KLy25143!0V-QDm21ma31pS25M433DS25M433DS25M433zS24H434RS24H434Gy24H44",
      "aqS52Iy4!0RS4OG52Cy45G453Hy45Qa537S45Qa537S45Qa53Hy4uHa33a04aJW20Va4UBy51pS4"] },
  {
    names := ["America/Aruba"]
    kinds := [(-16800, false), (-16200, false), (-14400, false)]
    changes := ["!0J7Yyu1!1ZUhqG2"] },
  {
    names := ["America/Asuncion"]
    kinds := [(-13860, false), (-14400, false), (-10800, false), (-10800, true)]
    changes := [
      "!0u5_MG1!1D4-Im2CqS1Cs433Zy151433YS151433YS151434Gy14Ia34IS14Ia34Gy14Ia34Gy14Ia34Gy14Ia34IS1",
      "4Ia34Gy14Ia34Gy14Ia34Gy14Ia34IS14Ia34Gy14o433nS14Ia34Gy14Q433SS1574349S14K433VS154433Ty155a3",
      "3Zy158a33Hy15G433SS155a33cy14x433cy14x433cy155a34Gy13Sa355S13d434wy14c433SS155a33SS155a33SS1",
      "5G433Hy15G433Hy15G4346S146a34RS146a34RS14H433xy14c433xy14c433xy14c4346S14Ra346S14Ra346S14c43",
      "3xy14c433xy14c4346S14Ra346S14Ra346S14Ra346S14c430DS2"] },
  {
    names := ["America/Atikokan", "America/Coral_Harbour"]
    kinds := [(-21960, false), (-21600, false), (-18000, true), (-18000, false)]
    changes := ["0001!0UkA6024by1!0fFLtm2gqa3"] },
  {
    names := ["America/Bahia"]
    kinds := [(-9240, false), (-10800, false), (-7200, true)]
    changes := [
      "!0MgciS1!0XPDx424Em14La24Dy1!0VMZeG23C015NW22rS15k422sy15k4226y1!0KGyoG21yS17u421OS15la226y1",
      "5la22py15la22rS1!0XFX2G237S15G422dy15xa22TS15w422TS164a22oS15w422oS15la22dy164a22Iy164a22yy1",
      "5b422yy15b422oS15b4237S15S423Qy15G4237S15G423SS15G4237S15b422yy164a22TS1!0GIrWG237S1"] },
  {
    names := ["America/Bahia_Banderas"]
    kinds := [(-25260, false), (-25200, false), (-21600, false), (-21600, true), (-18000, true)]
    changes := [
      "!0bjkXm1kZ02TOy13v433cy14Ia2!0IxEfm1!1bVHAm34mS13na34mS13na34mS13na34wy13d434wy14Ra33SS14Ra3",
      "4mS13na34mS13na34wy13d434wy13d434wy13d434wy13na34mS13na34mS13na44wu23d444wy23d444wy23na44mS2",
      "3na44mS23na44mS23na44wy23d444wy23d444wy23na44mS23na44mS23na44wy23d444wy2"] },
  {
    names := ["America/Barbados"]
    kinds := [(-14280, false), (-14400, false), (-10800, true), (-12600, true)]
    changes := ["!0IGAbb1!0veo9h239415jy22z4156y33ba1!0zcuY022dy14c423xy14c423xy14ma23iy1"] },
  {
    names := ["America/Belem"]
    kinds := [(-11640, false), (-10800, false), (-7200, true)]
    changes := [
      "!0MgdHq1!0XPDLi24Em14La24Dy1!0VMZeG23C015NW22rS15k422sy15k4226y1!0KGyoG21yS17u421OS15la226y1",
      "5la22py15la22rS1!0XFX2G237S15G422dy15xa22TS1"] },
  {
    names := ["America/Belize"]
    kinds := [(-21180, false), (-21600, false), (-19800, true), (-18000, true)]
    changes := [
      "!0JNjcm1!0CG68m22y-15b2237U15QY237U15QY237U15b222y-15b222y-15b2237U15QY237U15QY237U15QY237U1",
      "5b222y-15b222y-15b2237U15QY237U15QY237U15b222y-15b222y-15b222y-15b2237U15QY237U15QY237U15b22",
      "2y-15b222y-15b2237U137Y3TiS1FR4237U15QY237U15QY237U15b222y-15b222y-15b2237U15QY237U15QY237U1",
      "5QY237U15b222y-15b222y-15b2237U15QY237U15QY237U15b222y-15b222y-15b222y-15b2237U15QY237U15QY2",
      "37U15b222y-1no231Yy1!0Gfw4G31Jy1"] },
  {
    names := ["America/Blanc-Sablon"]
    kinds := [(-13680, false), (-14400, false), (-10800, true)]
    changes := ["0001!0Uk8LW24by1!0hpWKG2V9S1"] },
  {
    names := ["America/Boa_Vista"]
    kinds := [(-14580, false), (-14400, false), (-10800, true)]
    changes := [
      "!0Mgd_W1!0XPDWG24Em14La24Dy1!0VMZeG23C015NW22rS15k422sy15k4226y1!0KGyoG21yS17u421OS15la226y1",
      "5la22py15la22rS1!0XFX2G237S15G422dy15xa22TS1!0LwluG23SS15G420AS1"] },
  {
    names := ["America/Bogota"]
    kinds := [(-17760, false), (-18000, false), (-14400, true)]
    changes := ["!0OM5Lm1!2HgntW26Zy1"] },
  {
    names := ["America/Boise"]
    kinds := [(-27900, false), (-28800, false), (-25200, true), (-25200, false), (-21600, true)]
    changes := [
      "0001!0UfaYW24wy13d424wy1UMa3!0ZGi1m4V9S3!0ebrqG44Gy34H444Gy34H444Gy34H444Gy34H444RS34H444Gy3",
      "4H444Gy32J446Ey32oa45lS34H444RS346a44RS34H444Gy34H444Gy34H444Gy34H444Gy34H444RS346a44RS34H44",
      "4Gy34H444Gy34H444Gy33na44mS33na44wy33d444wy33d444wy33na44mS33na44mS33na44wy33d444wy33d444wy3",
      "3na44mS33na44mS33na44mS33na44wy33d444wy33d444wy33na44mS33na44mS33na44wy33d444wy33d444wy337a4",
      "5ay32z445ay32z445ay337a45ay32z445ay32z445ay32z445ay32z445ay32z445ay337a45ay32z445ay32z445ay3",
      "2z445ay32z445ay337a45ay32z445ay32z445ay32z445ay32z445ay32z445ay337a45ay32z445ay32z445ay32z44",
      "5ay32z445ay337a45ay32z445ay32z445ay32z445ay32z445ay32z445ay3"] },
  {
    names := ["America/Cambridge_Bay"]
    kinds := [
      (0, false), (-25200, false), (-21600, true), (-21600, false), (-18000, true), (-18000, false)]
    changes := [
      "!0Xyis01!0fbZyG2V9S1!0o006G24Gy14H424Gy14H424Gy14H424Gy14H424RS146a24RS14H424Gy14H424Gy14H42",
      "4Gy14H424Gy14H424RS146a24RS14H424Gy14H424Gy14H424Gy13na24mS13na24wy13d424wy13d424wy13na24mS1",
      "3na24mS13na24wy13d424wy13d424wy13na24mS13na24mS13na24mS13na24wy33d044wy50AO33Sm24wy13na24mS1",
      "3na24mS13na24wy13d424wy13d424wy137a25ay12z425ay12z425ay137a25ay12z425ay12z425ay12z425ay12z42",
      "5ay12z425ay137a25ay12z425ay12z425ay12z425ay12z425ay137a25ay12z425ay12z425ay12z425ay12z425ay1",
      "2z425ay137a25ay12z425ay12z425ay12z425ay12z425ay137a25ay12z425ay12z425ay12z425ay12z425ay12z42",
      "5ay1"] },
  {
    names := ["America/Campo_Grande"]
    kinds := [(-13080, false), (-14400, false), (-10800, true)]
    changes := [
      "!0Mgdeq1!0XPDsy24Em14La24Dy1!0VMZeG23C015NW22rS15k422sy15k4226y1!0KGyoG21yS17u421OS15la226y1",
      "5la22py15la22rS1!0XFX2G237S15G422dy15xa22TS15w422TS164a22oS15w422oS15la22dy164a22Iy164a22yy1",
      "5b422yy15b422oS15b4237S15S423Qy15G4237S15G423SS15G4237S15b422yy164a22TS15la22oS167a22ay15b42",
      "2yy164a22dy15Qa22yy15la22oS15la22yy15b422yy15b4237S15b422oS15la22oS15la22yy15b422yy15b422yy1",
      "5b422yy164a22TS1"] },
  {
    names := ["America/Cancun"]
    kinds := [(-20820, false), (-21600, false), (-18000, false), (-18000, true), (-14400, true)]
    changes := [
      "!0bjjfW1!1mr0kW28mq1!0Oxwam34mS13na34mS23nW42oS31-413na34wy13d434wy14Ra33SS14Ra34mS13na34mS1",
      "3na34wy13d434wy13d434wy13d434wy13na34mS13na34mS13na34wy13d434wy13d434wy13na34mS13na34mS12J42"] },
  {
    names := ["America/Caracas"]
    kinds := [(-16080, false), (-16200, false), (-14400, false)]
    changes := ["!0J7Ymy1!1ZUi0C2!1GmgOe1!0FoXS02"] },
  {
    names := ["America/Cayenne"]
    kinds := [(-12540, false), (-14400, false), (-10800, false)]
    changes := ["!0Hz2kG1!1fpmem2"] },
  {
    names := ["America/Cayman"]
    kinds := [(-19560, false), (-18420, false), (-18000, false)]
    changes := ["0001!0J3xJ-2"] },
  {
    names := ["America/Chicago", "US/Central"]
    kinds := [(-21060, false), (-21600, false), (-18000, true), (-18000, false)]
    changes := [
      "0001!0UfYo024wy13d424wy15Qa23Hy13Sa255S14H423SS155a23cy14x423cy14x423cy14x423cy14x423cy155a2",
      "3cy14x423cy14x423cy14x423cy14x423cy155a23SS155a23cy14x423cy13d4364S13na23cy14x423cy155a23SS1",
      "55a23cy14x423cy13942V9S14x423cy14x423cy14x423cy14x423cy155a23SS155a23cy14x423cy14x423cy14x42",
      "3cy14x424RS14H424Gy14H424Gy14H424Gy14H424Gy14H424RS14H424Gy14H424Gy14H424Gy14H424Gy14H424RS1",
      "46a24RS14H424Gy14H424Gy14H424Gy14H424Gy14H424RS14H424Gy14H424Gy11f426uy12oa25lS14H424RS146a2",
      "4RS14H424Gy14H424Gy14H424Gy14H424Gy14H424RS146a24RS14H424Gy14H424Gy14H424Gy13na24mS13na24wy1",
      "3d424wy13d424wy13na24mS13na24mS13na24wy13d424wy13d424wy13na24mS13na24mS13na24mS13na24wy13d42",
      "4wy13d424wy13na24mS13na24mS13na24wy13d424wy13d424wy137a25ay12z425ay12z425ay137a25ay12z425ay1",
      "2z425ay12z425ay12z425ay12z425ay137a25ay12z425ay12z425ay12z425ay12z425ay137a25ay12z425ay12z42",
      "5ay12z425ay12z425ay12z425ay137a25ay12z425ay12z425ay12z425ay12z425ay137a25ay12z425ay12z425ay1",
      "2z425ay12z425ay12z425ay1"] },
  {
    names := ["America/Chihuahua"]
    kinds := [(-25440, false), (-25200, false), (-21600, false), (-21600, true), (-18000, true)]
    changes := [
      "!0bjkXm1kZ02TOy13v433cy14Ia2!1uQUyG44mS23na44mS23ne34mS13na34wy13d434wy14Ra33SS14Ra34mS13na3",
      "4mS13na34wy13d434wy13d434wy13d434wy13na34mS13na34mS13na34wy13d434wy13d434wy13na34mS13na34mS1",
      "3na34mS13na34wy13d434wy13d434wy13na34mS13na34mS13na34wy13d434wy2"] },
  {
    names := ["America/Ciudad_Juarez"]
    kinds := [(-25560, false), (-25200, false), (-21600, false), (-21600, true), (-18000, true)]
    changes := [
      "!0bjkXm1kZ02TOy13v433cy14Ia2!1uQUyG44mS23na44mS23ne34mS13na34wy13d434wy14Ra33SS14Ra34mS13na3",
      "4mS13na34wy13d434wy13d434wy13d434wy13na34mS13na34mS13I435ay12z435ay12z435ay12z435ay12z435ay1",
      "2z435ay137a35ay12z435ay12z435ay12z435ay12z435ay137a35ay12z435QS20kO12PC35ay12z435ay12z435ay1",
      "2z435ay137a35ay12z435ay12z435ay12z435ay12z435ay137a35ay12z435ay12z435ay12z435ay12z435ay12z43",
      "5ay1"] },
  {
    names := ["America/Costa_Rica"]
    kinds := [(-20160, false), (-21600, false), (-18000, true)]
    changes := ["!0Zw1PD1!1jJZCJ22Iy16F422Iy1!0K090G23qS14ja21LS1"] },
  {
    names := ["America/Coyhaique"]
    kinds := [
      (-17280, false), (-16980, false), (-18000, false), (-14400, false), (-14400, true),
      (-10800, true), (-10800, false)]
    changes := [
      "0001!0FC4T52!0CB9uB1!047_rr3!01Wuxx1!0FNWO54!016CLx23ba44zy23ba44zy23ba44zy23ba44_S23ba3!0IL",
      "Ktm21Ra3YvS452W21CW3!0eMge053SS35b452yy34c453cy34x453cy355a53SS34ma53nS355a53SS355a53cy34x45",
      "3cy34x453cy355a53SS355a53SS355a53cy34x453cy34x453cy34x453cy355a53SS355a53SS355a54Gy34H453cy3",
      "4x453cy355a53SS34Ra546S355a53cy34x453cy34x453cy34x453cy355a53SS355a53xy34c453cy34c454RS34Ra5",
      "3cy355a53SS355a53SS355a53SS355a53cy34x453cy34x453cy355a53SS355a53xy34c453cy34x4546S34Ra54wy3",
      "2Ta55vy32z455ay337a55QS337a5ERy328a56PS328a56PS328a55ay33d454wy33d454wy33d454wy33na54mS33d45",
      "55S33d454XS6"] },
  {
    names := ["America/Creston"]
    kinds := [(-27960, false), (-25200, false), (-28800, false)]
    changes := ["0001!0Rrajm2EHa1"] },
  {
    names := ["America/Cuiaba"]
    kinds := [(-13440, false), (-14400, false), (-10800, true)]
    changes := [
      "!0MgdkK1!0XPDnS24Em14La24Dy1!0VMZeG23C015NW22rS15k422sy15k4226y1!0KGyoG21yS17u421OS15la226y1",
      "5la22py15la22rS1!0XFX2G237S15G422dy15xa22TS15w422TS164a22oS15w422oS15la22dy164a22Iy164a22yy1",
      "5b422yy15b422oS15b4237S15S423Qy15G4237S15G423SS15G4237S15b422yy164a22TS1Efa22ay15b422yy164a2",
      "2dy15Qa22yy15la22oS15la22yy15b422yy15b4237S15b422oS15la22oS15la22yy15b422yy15b422yy15b422yy1",
      "64a22TS1"] },
  {
    names := ["America/Curacao", "America/Kralendijk", "America/Lower_Princes"]
    kinds := [(-16560, false), (-16200, false), (-14400, false)]
    changes := ["!0J7YuZ1!1ZUhub2"] },
  {
    names := ["America/Danmarkshavn"]
    kinds := [(-4500, false), (-10800, false), (-7200, true), (0, false)]
    changes := [
      "!0RW4a01!1tpJDG246G14H024H014H024H014H024H014H024RW14H024H014H024H014H024H014H024H014H024H01",
      "4H024RW14H024H014H024H014H024H014H024H014H024H012Ke3"] },
  {
    names := ["America/Dawson"]
    kinds := [
      (-33480, false), (-32400, false), (-28800, true), (-25200, true), (-28800, false),
      (-25200, false)]
    changes := [
      "0001!0UkCkm24by14x423lq1!0fvbOm2V9S1!0apa9m34RW1!0F24g04tda34Gy44H434Gy44H434RS446a34RS44H43",
      "4Gy44H434Gy44H434Gy43na34mS43na34wy43d434wy43d434wy43na34mS43na34mS43na34wy43d434wy43d434wy4",
      "3na34mS43na34mS43na34mS43na34wy43d434wy43d434wy43na34mS43na34mS43na34wy43d434wy43d434wy437a3",
      "5ay42z435ay42z435ay437a35ay42z435ay42z435ay42z435ay42z435ay42z435ay437a35ay42z435ay42z435ay4",
      "2z435ay42z435aq5"] },
  {
    names := ["America/Dawson_Creek"]
    kinds := [(-28860, false), (-28800, false), (-25200, true), (-25200, false)]
    changes := [
      "0001!0UkBsW24by1!0hpWKG2V9S1DT423cy14x423cy14x423cy155a23SS155a23cy14x423cy14x423cy14x423cy1",
      "4x423cy155a23cy14x423cy14x423cy14x423cy14x423cy155a23SS155a24Gy14H424Gy14H424Gy14H424RS146a2",
      "4RS14H424Gy14H424Gy14H424Gy14H424Gy14H424RS14H422sy3"] },
  {
    names := ["America/Denver", "America/Shiprock", "Navajo", "US/Mountain"]
    kinds := [(-25200, false), (-21600, true)]
    changes := [
      "!0UfZgG14wy03d414wy03d4155S03Sa11Jy0!0c-MOG1V9S0!0apbwG14RS046a14RS04H414Gy04H414Gy04H414Gy0",
      "4H414Gy04H414RS04H414Gy04H414Gy01f416uy02oa15lS04H414RS046a14RS04H414Gy04H414Gy04H414Gy04H41",
      "4Gy04H414RS046a14RS04H414Gy04H414Gy04H414Gy03na14mS03na14wy03d414wy03d414wy03na14mS03na14mS0",
      "3na14wy03d414wy03d414wy03na14mS03na14mS03na14mS03na14wy03d414wy03d414wy03na14mS03na14mS03na1",
      "4wy03d414wy03d414wy037a15ay02z415ay02z415ay037a15ay02z415ay02z415ay02z415ay02z415ay02z415ay0",
      "37a15ay02z415ay02z415ay02z415ay02z415ay037a15ay02z415ay02z415ay02z415ay02z415ay02z415ay037a1",
      "5ay02z415ay02z415ay02z415ay02z415ay037a15ay02z415ay02z415ay02z415ay02z415ay02z415ay0"] },
  {
    names := ["America/Detroit", "US/Michigan"]
    kinds := [(-19920, false), (-21600, false), (-18000, false), (-14400, true)]
    changes := [
      "!05lI9R1!0JVt6b2!0oJ5nm3V9S2L_433cy2!0ZCkwi3!00jAjK24H434Gy2cZa34Gy21f436uy24H434Gy24H434RS2",
      "46a34RS24H434Gy24H434Gy24H434Gy24H434Gy24H434RS246a34RS24H434Gy24H434Gy24H434Gy23na34mS23na3",
      "4wy23d434wy23d434wy23na34mS23na34mS23na34wy23d434wy23d434wy23na34mS23na34mS23na34mS23na34wy2",
      "3d434wy23d434wy23na34mS23na34mS23na34wy23d434wy23d434wy237a35ay22z435ay22z435ay237a35ay22z43",
      "5ay22z435ay22z435ay22z435ay22z435ay237a35ay22z435ay22z435ay22z435ay22z435ay237a35ay22z435ay2",
      "2z435ay22z435ay22z435ay22z435ay237a35ay22z435ay22z435ay22z435ay22z435ay237a35ay22z435ay22z43",
      "5ay22z435ay22z435ay22z435ay2"] },
  {
    names := ["America/Dominica"]
    kinds := [(-14760, false), (-14400, false)]
    changes := ["!0Hz3HC1"] },
  {
    names := ["America/Edmonton", "America/Yellowknife", "Canada/Mountain"]
    kinds := [(-27240, false), (-25200, false), (-21600, true)]
    changes := [
      "!08tixW1!0LsU2m24by13y4211y17r424RS146a23cy155a23SS155a23cy1!0YYagG2V9S1DT423cy1!0kG3sG24Gy1",
      "4H424Gy14H424Gy14H424Gy14H424RS146a24RS14H424Gy14H424Gy14H424Gy14H424Gy14H424RS146a24RS14H42",
      "4Gy14H424Gy14H424Gy13na24mS13na24wy13d424wy13d424wy13na24mS13na24mS13na24wy13d424wy13d424wy1",
      "3na24mS13na24mS13na24mS13na24wy13d424wy13d424wy13na24mS13na24mS13na24wy13d424wy13d424wy137a2",
      "5ay12z425ay12z425ay137a25ay12z425ay12z425ay12z425ay12z425ay12z425ay137a25ay12z425ay12z425ay1",
      "2z425ay12z425ay137a25ay12z425ay12z425ay12z425ay12z425ay12z425ay137a25ay12z425ay12z425ay12z42",
      "5ay12z425ay137a25ay12z425ay12z425ay12z425ay12z425ay12z425ay1"] },
  {
    names := ["America/Eirunepe"]
    kinds := [(-16740, false), (-18000, false), (-14400, true), (-14400, false)]
    changes := [
      "!0MgeY01!0XPDs024Em14La24Dy1!0VMZeG23C015NW22rS15k422sy15k4226y1!0KGyoG21yS17u421OS15la226y1",
      "5la22py15la22rS1!0XFX2G237S15G422dy15xa22TS1mka22yy1!0Q-PyG3k3S1"] },
  {
    names := ["America/El_Salvador"]
    kinds := [(-21420, false), (-21600, false), (-18000, true)]
    changes := ["!0ZrQOW1!1ynJR023SS155a23SS1"] },
  {
    names := ["America/Ensenada", "America/Santa_Isabel", "America/Tijuana", "Mexico/BajaNorte"]
    kinds := [(-28080, false), (-25200, false), (-28800, false), (-25200, true)]
    changes := [
      "!0bjkXm1H702TS41TOy23Da34Gy2!0JtvgG3UVS2KS436fy2B4433Qy255i33cy24x433cy24x033d024x033d024x03",
      "3d0255W33d024x033d024x033d024x033d024x033d0255W33SW255W34H024H034H024H034H024H034RW246W34RW2",
      "4H434Gy24H434Gy24H434Gy24H434Gy24H434RS24H434Gy24H434Gy21f436uy22oa35lS24H434RS246a34RS24H43",
      "4Gy24H434Gy24H434Gy24H434Gy24H434RS246a34RS24H434Gy24H434Gy24H434Gy23na34mS23na34wy23d434wy2",
      "3d434wy23na34mS23na34mS23na34wy23d434wy23d434wy23na34mS23na34mS23na34mS23na34wy23d434wy23d43",
      "4wy23na34mS23na34mS23na34wy23d434wy23d434wy23d434wy23na34mS23na34mS23I435ay22z435ay22z435ay2",
      "2z435ay22z435ay22z435ay237a35ay22z435ay22z435ay22z435ay22z435ay237a35ay22z435ay22z435ay22z43",
      "5ay22z435ay22z435ay237a35ay22z435ay22z435ay22z435ay22z435ay237a35ay22z435ay22z435ay22z435ay2",
      "2z435ay22z435ay2"] },
  {
    names := ["America/Fort_Nelson"]
    kinds := [(-29460, false), (-28800, false), (-25200, true), (-25200, false)]
    changes := [
      "0001!0UkBsW24by1!0hpWKG2V9S1DT423cy14x423cy14x423cy155a23SS155a23cy14x423cy14x423cy14x423cy1",
      "4x423cy155a23cy14x423cy14x423cy14x423cy14x423cy155a23SS155a24Gy14H424Gy14H424Gy14H424RS146a2",
      "4RS14H424Gy14H424Gy14H424Gy14H424Gy14H424RS14H424Gy14H424Gy14H424Gy14H424Gy14H424RS146a24RS1",
      "4H424Gy14H424Gy14H424Gy14H424Gy14H424RS146a24RS14H424Gy14H424Gy14H424Gy13na24mS13na24wy13d42",
      "4wy13d424wy13na24mS13na24mS13na24wy13d424wy13d424wy13na24mS13na24mS13na24mS13na24wy13d424wy1",
      "3d424wy13na24mS13na24mS13na24wy13d424wy13d424wy137a25ay12z425ay12z425ay137a25ay12z425ay12z42",
      "5ay12z425ay12z425ay12z43"] },
  {
    names := [
      "America/Fort_Wayne", "America/Indiana/Indianapolis", "America/Indianapolis",
      "US/East-Indiana"]
    kinds := [(-20700, false), (-21600, false), (-18000, true), (-18000, false), (-14400, true)]
    changes := [
      "0001!0UfYo024wy13d424wy1!0el4SG22Iy13942V9S14x423cy14x423cy14x423cy14x423cy155a23SS155a23cy1",
      "4x423cy14x423cy14x423cy14x43KrS14x43!0KiHpm44Gy34H444Gy3!12fvIG44wy337a45ay32z445ay32z445ay3",
      "37a45ay32z445ay32z445ay32z445ay32z445ay32z445ay337a45ay32z445ay32z445ay32z445ay32z445ay337a4",
      "5ay32z445ay32z445ay32z445ay32z445ay32z445ay337a45ay32z445ay32z445ay32z445ay32z445ay337a45ay3",
      "2z445ay32z445ay32z445ay32z445ay32z445ay3"] },
  {
    names := ["America/Fortaleza"]
    kinds := [(-9240, false), (-10800, false), (-7200, true)]
    changes := [
      "!0MgciO1!0XPDx824Em14La24Dy1!0VMZeG23C015NW22rS15k422sy15k4226y1!0KGyoG21yS17u421OS15la226y1",
      "5la22py15la22rS1!0XFX2G237S15G422dy15xa22TS15w422TS164a22oS1!0I8V-G23SS15G420Ky18Na22yy1"] },
  {
    names := ["America/Glace_Bay"]
    kinds := [(-14400, false), (-10800, true)]
    changes := [
      "!0Uk8LW14by0!0hpWKG1V9S0!0EFL6G13cy0!0YzxSG14Gy04H414Gy04H414Gy04H414Gy04H414RS046a14RS04H41",
      "4Gy04H414Gy04H414Gy04H414Gy04H414RS046a14RS04H414Gy04H414Gy04H414Gy03na14mS03na14wy03d414wy0",
      "3d414wy03na14mS03na14mS03na14wy03d414wy03d414wy03na14mS03na14mS03na14mS03na14wy03d414wy03d41",
      "4wy03na14mS03na14mS03na14wy03d414wy03d414wy037a15ay02z415ay02z415ay037a15ay02z415ay02z415ay0",
      "2z415ay02z415ay02z415ay037a15ay02z415ay02z415ay02z415ay02z415ay037a15ay02z415ay02z415ay02z41",
      "5ay02z415ay02z415ay037a15ay02z415ay02z415ay02z415ay02z415ay037a15ay02z415ay02z415ay02z415ay0",
      "2z415ay02z415ay0"] },
  {
    names := ["America/Godthab", "America/Nuuk"]
    kinds := [(-12420, false), (-10800, false), (-7200, true), (-7200, false), (-3600, true)]
    changes := [
      "!0RW6W01!1tpHHG246G14H024H014H024H014H024H014H024RW14H024H014H024H014H024H014H024H014H024H01",
      "4H024RW14H024H014H024H014H024H014H024H014H024H014RW24x013d024x013d024x013d0255W13SW255W13SW2",
      "55W13d024x013d024x013d0255W13SW255W13SW255W13SW255W13d024x013d024x013d0255W13SW255W13SW255W1",
      "3d024x013d024x013d024x013d0255W13SW255W13SW255W13d024x013d024x013d0255W13SW255W13SW38iW44x03",
      "3d044x033d044x033d0455W33SW455W33SW455W33d044x033d044x033d0455W33SW455W33SW455W33SW455W33d04",
      "4x033d044x03"] },
  {
    names := ["America/Goose_Bay"]
    kinds := [
      (-14520, false), (-12660, false), (-9060, true), (-12600, false), (-9000, true),
      (-14400, false), (-10800, true), (-7200, true)]
    changes := [
      "0001!0Uk7wC24by1!0UutRm3!026UFC43SS355a43SS355a43SS35G443Hy35G443SS355a43SS355a4T1435G443SS3",
      "55a43SS355a43SS355a43SS35G443SS34ma43cy34x443cy34x443cy34x443cy34x443cy355a43cy34x443cy34x44",
      "3cy34x443cy34x444RS34H444Gy34H444Gy34H444Gy34H444Gy34H444RS33Aa50y264RS54H464Gy54H464Gy54H46",
      "4Gy54H464Gy54H464RS54H464Gy54H464Gy54H464Gy54H464Gy54H464RS546a64RS54H464Gy54H464Gy54H464Gy5",
      "4H464Gy54H464RS546a64RS54H464Gy54H464Gy54H464Gy5!00r3Ei64mS53na74wu53d864wy53d464wy53na64mS5",
      "3na64mS53na64wy53d464wy53d464wy53na64mS53na64mS53na64mS53na64wy53d464wy53d464wy53na64mS53na6",
      "4mS53na64wy53d464wy53d464wy537a65ay52z465ay52z465ay537a65ay52z46!01ETBK52z465ay52z465ay52z46",
      "5ay52z465ay537a65ay52z465ay52z465ay52z465ay52z465ay537a65ay52z465ay52z465ay52z465ay52z465ay5",
      "2z465ay537a65ay52z465ay52z465ay52z465ay52z465ay537a65ay52z465ay52z465ay52z465ay52z465ay52z46",
      "5ay5"] },
  {
    names := ["America/Grand_Turk"]
    kinds := [(-17100, false), (-18420, false), (-18000, false), (-14400, true), (-14400, false)]
    changes := [
      "0001!0J3xJ-2!1-UR3o34Gy24H434Gy24H434Gy24H434RS246a34RS24H434Gy24H434Gy24H434Gy23na34mS23na3",
      "4wy23d434wy23d434wy23na34mS23na34mS23na34wy23d434wy23d434wy23na34mS23na34mS23na34mS23na34wy2",
      "3d434wy23d434wy23na34mS23na34mS23na34wy23d434wy23d434wy237a35ay22z435ay22z435ay237a35ay22z43",
      "5ay22z435ay22z435ay22z435ay22z44PmW35ay22z435ay22z435ay237a35ay22z435ay22z435ay22z435ay22z43",
      "5ay22z435ay237a35ay22z435ay22z435ay22z435ay22z435ay237a35ay22z435ay22z435ay22z435ay22z435ay2",
      "2z435ay2"] },
  {
    names := ["America/Grenada"]
    kinds := [(-14820, false), (-14400, false)]
    changes := ["!0Hz3Ha1"] },
  {
    names := ["America/Guadeloupe"]
    kinds := [(-14760, false), (-14400, false)]
    changes := ["!0HrU6m1"] },
  {
    names := ["America/Guatemala"]
    kinds := [(-21720, false), (-21600, false), (-18000, true)]
    changes := ["!0VdUhS1!1djy64228S1!0HNk6G22vy1!0E6mgG23xy1!0RY_MG23cy1"] },
  {
    names := ["America/Guayaquil"]
    kinds := [(-19140, false), (-18840, false), (-18000, false), (-14400, true)]
    changes := ["0001!0sf48O2!1qShgu31dS2"] },
  {
    names := ["America/Guyana"]
    kinds := [(-13980, false), (-14400, false), (-13500, false), (-10800, false)]
    changes := ["!0I7G-71!06l6kv2!1nfOfy3!0VLZi41"] },
  {
    names := ["America/Halifax", "Canada/Atlantic"]
    kinds := [(-15240, false), (-14400, false), (-10800, true)]
    changes := [
      "!00yQkW1!0PypCW24IS1D8C24by1D7y22dy15t422sy15Za22_y15ia22rS15ia238y15P423Ty15P422py15P423Ty1",
      "5P422oS15la22gy15t422-S15Za23JS154423Ty154423eS15P422oS164a22py15la22TS15P423Ty154423Ty15k42",
      "2py15Ea23Ty154423Ty137i2V9S14x423cy14x423cy14x423cy14x423cy1Dda23cy14x423cy14x423cy14x423cy1",
      "Dda23cy14x423cy14x423cy14x423cy1M9a24Gy14H424Gy14H424Gy14H424RS146a24RS14H424Gy14H424Gy14H42",
      "4Gy14H424Gy14H424RS14H424Gy14H424Gy14H424Gy14H424Gy14H424RS146a24RS14H424Gy14H424Gy14H424Gy1",
      "4H424Gy14H424RS146a24RS14H424Gy14H424Gy14H424Gy13na24mS13na24wy13d424wy13d424wy13na24mS13na2",
      "4mS13na24wy13d424wy13d424wy13na24mS13na24mS13na24mS13na24wy13d424wy13d424wy13na24mS13na24mS1",
      "3na24wy13d424wy13d424wy137a25ay12z425ay12z425ay137a25ay12z425ay12z425ay12z425ay12z425ay12z42",
      "5ay137a25ay12z425ay12z425ay12z425ay12z425ay137a25ay12z425ay12z425ay12z425ay12z425ay12z425ay1",
      "37a25ay12z425ay12z425ay12z425ay12z425ay137a25ay12z425ay12z425ay12z425ay12z425ay12z425ay1"] },
  {
    names := ["America/Havana", "Cuba"]
    kinds := [(-19740, false), (-19800, false), (-18000, false), (-14400, true)]
    changes := [
      "0001!0iOiA02!05SD7G32sy2!0LvmcG328S26Pa32Iy26Pa328S2NTa328S26Pa328S2!0ZH2uG32rS25fa32yy24Q43",
      "3eS255a33SS25Qa34Gy24H434Gy24H434RS24H433nS24ma33oy24l433qS24ja34Gy24H434RS246a34RS24Ra33cy2",
      "3na34wy23d434wy24x433cy24x433cy24x433cy24x433nS24ma33nS23d434wy23d434wy23na34mS23na34mS246a3",
      "4by246a34RW246W34RW246W34RW246W34RW246W34RW24H034H024H034RW23y034x023d0355W23d034x023d034x02",
      "3nW34mW23nW34mW23d03M9W237W35QW23I035G0237W35QW23I035QW23I035b023I0355W22z035b022z035b022z03",
      "5b0237W35b022z035b022z035b022z035b022z035b0237W35b022z035b022z035b022z035b022z035b022z035b02",
      "37W35b022z035b022z035b022z035b022z035b0237W35b022z035b022z035b022z035b022z035b022z035b02"] },
  {
    names := ["America/Hermosillo"]
    kinds := [(-26640, false), (-25200, false), (-21600, false), (-21600, true)]
    changes := ["!0bjkXm1kZ02TOy13v433cy14Ia2!0IxEfm1!1bVHAm34mS13na34mS13na34mS1"] }
  ]

def zoneEntries3 : List ZoneEntry := [
  {
    names := ["America/Indiana/Knox", "America/Knox_IN", "US/Indiana-Starke"]
    kinds := [(-20760, false), (-21600, false), (-18000, true), (-18000, false)]
    changes := [
      "0001!0UfYo024wy13d424wy1!0fxYCG2V9S1DT423cy14x423cy14x423cy155a23SS155a23cy14x423cy14x423cy1",
      "4x423cy14x424RS14H424Gy14H423cy14x423cy14x424Gy14H424RS14H424Gy14H43Coy1U1a24Gy14H424Gy14H42",
      "4Gy14H424Gy14H424RS14H424Gy14H424Gy11f426uy12oa25lS14H424RS146a24RS14H424Gy14H424Gy14H424Gy1",
      "4H424Gy14H424RS146a24RS14H424Gy14H424Gy14H424Gy13na24mS13na24wy13d424wy13d424wy13na24mS3!0R9",
      "HA024x0137a25ay12z425ay12z425ay137a25ay12z425ay12z425ay12z425ay12z425ay12z425ay137a25ay12z42",
      "5ay12z425ay12z425ay12z425ay137a25ay12z425ay12z425ay12z425ay12z425ay12z425ay137a25ay12z425ay1",
      "2z425ay12z425ay12z425ay137a25ay12z425ay12z425ay12z425ay12z425ay12z425ay1"] },
  {
    names := ["America/Indiana/Marengo"]
    kinds := [(-20700, false), (-21600, false), (-18000, true), (-18000, false), (-14400, true)]
    changes := [
      "0001!0UfYo024wy13d424wy1!0fxYCG2V9S1lla23cy1L_423cy14x423cy155a23cy14x423cy14x423cy14x423cy1",
      "4x423cy155a3!0F23nm44Gy34H444Gy34H444RS34H444Gy34H444Gy3BKa45lS3!0vFl0G44wy337a45ay32z445ay3",
      "2z445ay337a45ay32z445ay32z445ay32z445ay32z445ay32z445ay337a45ay32z445ay32z445ay32z445ay32z44",
      "5ay337a45ay32z445ay32z445ay32z445ay32z445ay32z445ay337a45ay32z445ay32z445ay32z445ay32z445ay3",
      "37a45ay32z445ay32z445ay32z445ay32z445ay32z445ay3"] },
  {
    names := ["America/Indiana/Petersburg"]
    kinds := [(-20940, false), (-21600, false), (-18000, true), (-18000, false), (-14400, true)]
    changes := [
      "0001!0UfYo024wy13d424wy1!0fxYCG2V9S1!0I1ZFm23Sa155a23cy14x423cy14x423cy14x423cy14x423cy155a2",
      "4Gy14H424Gy14H424Gy14H424Gy14H43CzS14H424Gy14H424Gy14H424Gy14H424Gy14H424RS14H424Gy14H424Gy1",
      "1f426uy12oa25lS14H424RS146a24RS3!0rTUE024x0137a25ay32z045ay32z445ay337a45ay32z445ay32z445ay3",
      "2z445ay32z445ay32z445ay337a45ay32z445ay32z445ay32z445ay32z445ay337a45ay32z445ay32z445ay32z44",
      "5ay32z445ay32z445ay337a45ay32z445ay32z445ay32z445ay32z445ay337a45ay32z445ay32z445ay32z445ay3",
      "2z445ay32z445ay3"] },
  {
    names := ["America/Indiana/Tell_City"]
    kinds := [(-20820, false), (-21600, false), (-18000, true), (-18000, false), (-14400, true)]
    changes := [
      "0001!0UfYo024wy13d424wy1!0fxYCG2V9S1!0I1ZFm23Sa155a23cy14x423cy14x423cy14x423cy14x423cy155a2",
      "4Gy14H424Gy14H424Gy14H43U1S14H424Gy14H444Gu34H444Gy3!12fvIG24x0137a25ay12z425ay12z425ay137a2",
      "5ay12z425ay12z425ay12z425ay12z425ay12z425ay137a25ay12z425ay12z425ay12z425ay12z425ay137a25ay1",
      "2z425ay12z425ay12z425ay12z425ay12z425ay137a25ay12z425ay12z425ay12z425ay12z425ay137a25ay12z42",
      "5ay12z425ay12z425ay12z425ay12z425ay1"] },
  {
    names := ["America/Indiana/Vevay"]
    kinds := [(-20400, false), (-21600, false), (-18000, true), (-18000, false), (-14400, true)]
    changes := [
      "0001!0UfYo024wy13d424wy1!0fxYCG2V9S1!0G7JEG3!0SETzm44Gy34H444Gy34H444RS34H444Gy3!0-tfOG44wy3",
      "37a45ay32z445ay32z445ay337a45ay32z445ay32z445ay32z445ay32z445ay32z445ay337a45ay32z445ay32z44",
      "5ay32z445ay32z445ay337a45ay32z445ay32z445ay32z445ay32z445ay32z445ay337a45ay32z445ay32z445ay3",
      "2z445ay32z445ay337a45ay32z445ay32z445ay32z445ay32z445ay32z445ay3"] },
  {
    names := ["America/Indiana/Vincennes"]
    kinds := [(-21000, false), (-21600, false), (-18000, true), (-18000, false), (-14400, true)]
    changes := [
      "0001!0UfYo024wy13d424wy1!0fxYCG2V9S14x423cy1uHa23cy14x423cy155S23Sa155a23cy14x423cy14x423cy1",
      "4x423cy14x424RS14H423SS155a24Gy14H424Gy14H43gqS44Gy34H444Gy3!12fvIG24x0137a25ay32z045ay32z44",
      "5ay337a45ay32z445ay32z445ay32z445ay32z445ay32z445ay337a45ay32z445ay32z445ay32z445ay32z445ay3",
      "37a45ay32z445ay32z445ay32z445ay32z445ay32z445ay337a45ay32z445ay32z445ay32z445ay32z445ay337a4",
      "5ay32z445ay32z445ay32z445ay32z445ay32z445ay3"] },
  {
    names := ["America/Indiana/Winamac"]
    kinds := [(-20760, false), (-21600, false), (-18000, true), (-18000, false), (-14400, true)]
    changes := [
      "0001!0UfYo024wy13d424wy1!0fxYCG2V9S14x423cy14x423cy14x423cy14x423cy155a23SS155a23cy14x423cy1",
      "4x423cy14x423cy14x424RS14H424Gy14H423cy14x423cy14x423cy14x423cy155a3!0F23nm44Gy34H444Gy3!12f",
      "vIG24x0137a45au32z445ay32z445ay337a45ay32z445ay32z445ay32z445ay32z445ay32z445ay337a45ay32z44",
      "5ay32z445ay32z445ay32z445ay337a45ay32z445ay32z445ay32z445ay32z445ay32z445ay337a45ay32z445ay3",
      "2z445ay32z445ay32z445ay337a45ay32z445ay32z445ay32z445ay32z445ay32z445ay3"] },
  {
    names := ["America/Inuvik"]
    kinds := [(0, false), (-28800, false), (-25200, true), (-21600, true), (-25200, false)]
    changes := [
      "!1W1aw01!0aMjaW24Gy14H424Gy14H424Gy14H424Gy14H424RS146a24RS14H424Gy14H434Gu44H434Gy44H434Gy4",
      "4H434RS446a34RS44H434Gy44H434Gy44H434Gy43na34mS43na34wy43d434wy43d434wy43na34mS43na34mS43na3",
      "4wy43d434wy43d434wy43na34mS43na34mS43na34mS43na34wy43d434wy43d434wy43na34mS43na34mS43na34wy4",
      "3d434wy43d434wy437a35ay42z435ay42z435ay437a35ay42z435ay42z435ay42z435ay42z435ay42z435ay437a3",
      "5ay42z435ay42z435ay42z435ay42z435ay437a35ay42z435ay42z435ay42z435ay42z435ay42z435ay437a35ay4",
      "2z435ay42z435ay42z435ay42z435ay437a35ay42z435ay42z435ay42z435ay42z435ay42z435ay4"] },
  {
    names := ["America/Iqaluit", "America/Pangnirtung"]
    kinds := [(0, false), (-14400, true), (-18000, false), (-21600, false), (-18000, true)]
    changes := [
      "!1CRA601R6O2!0o006G14Gy24H414Gy24H414Gy24H414Gy24H414RS246a14RS24H414Gy24H414Gy24H414Gy24H41",
      "4Gy24H414RS246a14RS24H414Gy24H414Gy24H414Gy23na14mS23na14wy23d414wy23d414wy23na14mS23na14mS2",
      "3na14wy23d414wy23d414wy23na14mS23na14mS23na14mS23na14wy33d844wy23d014wy23na14mS23na14mS23na1",
      "4wy23d414wy23d414wy237a15ay22z415ay22z415ay237a15ay22z415ay22z415ay22z415ay22z415ay22z415ay2",
      "37a15ay22z415ay22z415ay22z415ay22z415ay237a15ay22z415ay22z415ay22z415ay22z415ay22z415ay237a1",
      "5ay22z415ay22z415ay22z415ay22z415ay237a15ay22z415ay22z415ay22z415ay22z415ay22z415ay2"] },
  {
    names := ["America/Jamaica", "Jamaica"]
    kinds := [(-18420, false), (-18000, false), (-14400, true)]
    changes := ["!0J3xJ-1!1qVMHo26uy12oa25lS14H424RS146a24RS14H424Gy14H424Gy14H424Gy14H424Gy14H424RS146a24RS1"] },
  {
    names := ["America/Juneau"]
    kinds := [(54120, false), (-28800, false), (-25200, true), (-28800, true), (-32400, false)]
    changes := [
      "0001!1BYHgW2V9S1!0iLo4G24Gy14H424Gy14H424RS14H424Gy14H424Gy11f426uy12oa25lS14H424RS146a24RS1",
      "4H424Gy14H424Gy14H434H014H024Gy14H424RS146a24RS44H834Gy44H434Gy44H434Gy43na34mS43na34wy43d43",
      "4wy43d434wy43na34mS43na34mS43na34wy43d434wy43d434wy43na34mS43na34mS43na34mS43na34wy43d434wy4",
      "3d434wy43na34mS43na34mS43na34wy43d434wy43d434wy437a35ay42z435ay42z435ay437a35ay42z435ay42z43",
      "5ay42z435ay42z435ay42z435ay437a35ay42z435ay42z435ay42z435ay42z435ay437a35ay42z435ay42z435ay4",
      "2z435ay42z435ay42z435ay437a35ay42z435ay42z435ay42z435ay42z435ay437a35ay42z435ay42z435ay42z43",
      "5ay42z435ay42z435ay4"] },
  {
    names := ["America/Kentucky/Louisville", "America/Louisville"]
    kinds := [(-20580, false), (-21600, false), (-18000, true), (-18000, false), (-14400, true)]
    changes := [
      "0001!0UfYo024wy13d424wy1Cza22uS1!0azpqG23cy13942V9S1!015Cqi2!00BZ9K1XU423SS155a23cy14x423cy1",
      "4x423cy14x423cy14x423cy155a24Gy14H424Gy14H424Gy14H424Gy14H424RS14H421zy3vwW44Gy34H444Gy34H44",
      "4Gy34H444RS34H444Gy34H444Gy3BKa45lS34H444RS346a44RS34H444Gy34H444Gy34H444Gy34H444Gy34H444RS3",
      "46a44RS34H444Gy34H444Gy34H444Gy33na44mS33na44wy33d444wy33d444wy33na44mS33na44mS33na44wy33d44",
      "4wy33d444wy33na44mS33na44mS33na44mS33na44wy33d444wy33d444wy33na44mS33na44mS33na44wy33d444wy3",
      "3d444wy337a45ay32z445ay32z445ay337a45ay32z445ay32z445ay32z445ay32z445ay32z445ay337a45ay32z44",
      "5ay32z445ay32z445ay32z445ay337a45ay32z445ay32z445ay32z445ay32z445ay32z445ay337a45ay32z445ay3",
      "2z445ay32z445ay32z445ay337a45ay32z445ay32z445ay32z445ay32z445ay32z445ay3"] },
  {
    names := ["America/Kentucky/Monticello"]
    kinds := [(-20340, false), (-21600, false), (-18000, true), (-18000, false), (-14400, true)]
    changes := [
      "0001!0UfYo024wy13d424wy1!0fxYCG2V9S1!0gTpyG24Gy14H424Gy14H424Gy14H424RS14H424Gy14H424Gy11f42",
      "6uy12oa25lS14H424RS146a24RS14H424Gy14H424Gy14H424Gy14H424Gy14H424RS146a24RS14H424Gy14H424Gy1",
      "4H424Gy13na24mS13na24wy13d424wy13d424wy13na24mS13na24mS13na24wy13d424wy13d424wy13na24mS13na2",
      "4mS13na24mS13na24wy13d424wy33d044wy33na44mS33na44mS33na44wy33d444wy33d444wy337a45ay32z445ay3",
      "2z445ay337a45ay32z445ay32z445ay32z445ay32z445ay32z445ay337a45ay32z445ay32z445ay32z445ay32z44",
      "5ay337a45ay32z445ay32z445ay32z445ay32z445ay32z445ay337a45ay32z445ay32z445ay32z445ay32z445ay3",
      "37a45ay32z445ay32z445ay32z445ay32z445ay32z445ay3"] },
  {
    names := ["America/La_Paz"]
    kinds := [(-16380, false), (-12780, true), (-14400, false)]
    changes := ["!0u7fRa13iy2"] },
  {
    names := ["America/Lima"]
    kinds := [(-18480, false), (-18540, false), (-18000, false), (-14400, true)]
    changes := ["0001!0CT43K2!0tMmby326y249a34Gy24H434Gy2!1M6RIG326y26Sa326y2Nb4326y2W8a326y2"] },
  {
    names := ["America/Los_Angeles", "US/Pacific"]
    kinds := [(-28380, false), (-28800, false), (-25200, true)]
    changes := [
      "0001!0UfaYW24wy13d424wy1!0fxYCG2V9S1!04dKvC2!01WZaq1BM023SW155W23d014x023d014x023d014x023d01",
      "4x023d0155W23d014x023d014x023d014x023d014x023d0155W23SW155W24H014H024H014H024H014H024RW146W2",
      "4RW14H424Gy14H424Gy14H424Gy14H424Gy14H424RS14H424Gy14H424Gy11f426uy12oa25lS14H424RS146a24RS1",
      "4H424Gy14H424Gy14H424Gy14H424Gy14H424RS146a24RS14H424Gy14H424Gy14H424Gy13na24mS13na24wy13d42",
      "4wy13d424wy13na24mS13na24mS13na24wy13d424wy13d424wy13na24mS13na24mS13na24mS13na24wy13d424wy1",
      "3d424wy13na24mS13na24mS13na24wy13d424wy13d424wy137a25ay12z425ay12z425ay137a25ay12z425ay12z42",
      "5ay12z425ay12z425ay12z425ay137a25ay12z425ay12z425ay12z425ay12z425ay137a25ay12z425ay12z425ay1",
      "2z425ay12z425ay12z425ay137a25ay12z425ay12z425ay12z425ay12z425ay137a25ay12z425ay12z425ay12z42",
      "5ay12z425ay12z425ay1"] },
  {
    names := ["America/Maceio"]
    kinds := [(-8580, false), (-10800, false), (-7200, true)]
    changes := [
      "!0MgcXy1!0XPE5a24Em14La24Dy1!0VMZeG23C015NW22rS15k422sy15k4226y1!0KGyoG21yS17u421OS15la226y1",
      "5la22py15la22rS1!0XFX2G237S15G422dy15xa22TS15w422TS164a22oS1ma422oS1VB423SS15G420Ky18Na22yy1"] },
  {
    names := ["America/Managua"]
    kinds := [(-20700, false), (-21600, false), (-18000, false), (-18000, true)]
    changes := ["!0zBKZe1!195Yju2FNy1Yya32KS16Da32KS1!0LhJ_G26GC12Ka2YFS1!0FZj6G346S14xC33cu1"] },
  {
    names := ["America/Manaus", "Brazil/West"]
    kinds := [(-14400, false), (-10800, true)]
    changes := [
      "!0u3rVm14Em04La14Dy0!0VMZeG13C005NW12rS05k412sy05k4126y0!0KGyoG11yS07u411OS05la126y05la12py0",
      "5la12rS0!0XFX2G137S05G412dy05xa12TS0mka12yy0"] },
  {
    names := ["America/Marigot", "America/Port_of_Spain", "America/St_Barthelemy"]
    kinds := [(-14760, false), (-14400, false)]
    changes := ["!0JDpEi1"] },
  {
    names := ["America/Martinique"]
    kinds := [(-14640, false), (-14400, false), (-10800, true)]
    changes := ["!0HeyX41!21gQNy246S1"] },
  {
    names := ["America/Matamoros"]
    kinds := [(-23400, false), (-21600, false), (-18000, true)]
    changes := [
      "!0bjjfW1!1ydnQW24wy1_g424mS13na24mS13na24mS13na24wy13d424wy14Ra23SS14Ra24mS13na24mS13na24wy1",
      "3d424wy13d424wy13d424wy13na24mS13na24mS13I425ay12z425ay12z425ay12z425ay12z425ay12z425ay137a2",
      "5ay12z425ay12z425ay12z425ay12z425ay137a25ay12z425ay12z425ay12z425ay12z425ay12z425ay137a25ay1",
      "2z425ay12z425ay12z425ay12z425ay137a25ay12z425ay12z425ay12z425ay12z425ay12z425ay1"] },
  {
    names := ["America/Mazatlan", "Mexico/BajaSur"]
    kinds := [(-25560, false), (-25200, false), (-21600, false), (-21600, true)]
    changes := [
      "!0bjkXm1kZ02TOy13v433cy14Ia2!0IxEfm1!1bVHAm34mS13na34mS13na34mS13na34wy13d434wy14Ra33SS14Ra3",
      "4mS13na34mS13na34wy13d434wy13d434wy13d434wy13na34mS13na34mS13na34wy13d434wy13d434wy13na34mS1",
      "3na34mS13na34mS13na34wy13d434wy13d434wy13na34mS13na34mS13na34wy13d434wy1"] },
  {
    names := ["America/Menominee"]
    kinds := [(-21000, false), (-21600, false), (-18000, true), (-18000, false)]
    changes := [
      "0001!0UfYo024wy13d424wy1!0fxYCG2V9S14x423cy1!0apbwG24RS1LL43YIS24H011f426uy12oa25lS14H424RS1",
      "46a24RS14H424Gy14H424Gy14H424Gy14H424Gy14H424RS146a24RS14H424Gy14H424Gy14H424Gy13na24mS13na2",
      "4wy13d424wy13d424wy13na24mS13na24mS13na24wy13d424wy13d424wy13na24mS13na24mS13na24mS13na24wy1",
      "3d424wy13d424wy13na24mS13na24mS13na24wy13d424wy13d424wy137a25ay12z425ay12z425ay137a25ay12z42",
      "5ay12z425ay12z425ay12z425ay12z425ay137a25ay12z425ay12z425ay12z425ay12z425ay137a25ay12z425ay1",
      "2z425ay12z425ay12z425ay12z425ay137a25ay12z425ay12z425ay12z425ay12z425ay137a25ay12z425ay12z42",
      "5ay12z425ay12z425ay12z425ay1"] },
  {
    names := ["America/Merida"]
    kinds := [(-21480, false), (-21600, false), (-18000, false), (-18000, true)]
    changes := [
      "!0bjjfW1!1mr0kW27IS1!0PGfkG34mS13na34mS13na34mS13na34wy13d434wy14Ra33SS14Ra34mS13na34mS13na3",
      "4wy13d434wy13d434wy13d434wy13na34mS13na34mS13na34wy13d434wy13d434wy13na34mS13na34mS13na34mS1",
      "3na34wy13d434wy13d434wy13na34mS13na34mS13na34wy13d434wy1"] },
  {
    names := ["America/Metlakatla"]
    kinds := [(54840, false), (-28800, false), (-25200, true), (-32400, false), (-28800, true)]
    changes := [
      "0001!1BYHgW2V9S1!0iLo4G24Gy14H424Gy14H424RS14H424Gy14H424Gy11f426uy12oa25lS14H424RS146a24RS1",
      "4H424Gy14H424Gy14H424Gy14H424Gy14H424RS146a24RS1!0yCwqG337a45ay32z445ay32z445ay11pW319a45ay3",
      "2z445ay337a45ay32z445ay32z445ay32z445ay32z445ay32z445ay337a45ay32z445ay32z445ay32z445ay32z44",
      "5ay337a45ay32z445ay32z445ay32z445ay32z445ay32z445ay3"] },
  {
    names := ["America/Mexico_City", "Mexico/General"]
    kinds := [(-23820, false), (-25200, false), (-21600, false), (-21600, true), (-18000, true)]
    changes := [
      "!0bjkXm1kZ02TOy13v433cy14Ia2wdS43Hy2CVa42fS2NBa43DS2nXa43xy2!1LyF8m44mS23na44mS23na44mS23na4",
      "4wy23d444wy24Ra43SS24Ra44mS23na44mS23na44wy23d444wy23d444wy23d444wy23na44mS23na44mS23na44wy2",
      "3d444wy23d444wy23na44mS23na44mS23na44mS23na44wy23d444wy23d444wy23na44mS23na44mS23na44wy23d44",
      "4wy2"] },
  {
    names := ["America/Miquelon"]
    kinds := [(-13500, false), (-14400, false), (-10800, false), (-7200, true)]
    changes := [
      "!0HtnSe1!21ZqoO2xJ434mS23na34wy23d434wy23d434wy23na34mS23na34mS23na34wy23d434wy23d434wy23na3",
      "4mS23na34mS23na34mS23na34wy23d434wy23d434wy23na34mS23na34mS23na34wy23d434wy23d434wy237a35ay2",
      "2z435ay22z435ay237a35ay22z435ay22z435ay22z435ay22z435ay22z435ay237a35ay22z435ay22z435ay22z43",
      "5ay22z435ay237a35ay22z435ay22z435ay22z435ay22z435ay22z435ay237a35ay22z435ay22z435ay22z435ay2",
      "2z435ay237a35ay22z435ay22z435ay22z435ay22z435ay22z435ay2"] },
  {
    names := ["America/Moncton"]
    kinds := [(-15540, false), (-18000, false), (-14400, false), (-10800, true)]
    changes := [
      "0001!00yRPG2!0TniyG34by2!0RWLk0328S26Pa328S26Pa328S26Pa328S26Pa328S26Pa328S26Da32oS25ca32xS2",
      "5Ha33Qy23Ae3V9S24x433cy24x433cy24x433cy24x433cy255a33SS255a33cy24x433cy24x433cy24x433cy24x43",
      "3cy255a33cy24x434Gy24H434Gy24H434Gy24H434RS24H434Gy24H434Gy24H434Gy24H434Gy24H434RS246a34RS2",
      "4H434Gy24H434Gy24H434Gy24H434Gy24H434RS24H434Gy2Cp434Gy24H434Gy24H434RS246a34RS24H434Gy24H43",
      "4Gy24H434Gy24H434Gy24H434RS246a34RS24H434Gy24H434Gy24H434Gy23na34mS23na34wy23d434wy23d434wy2",
      "3na34mS23na34mS2!00r3Ei34wy23d434wy23d434wy23na34mS23na34mS23na34mS23na34wy23d434wy23d434wy2",
      "3na34mS23na34mS23na34wy23d434wy23d434wy2!00hu5q35ay22z435ay22z435ay237a35ay22z435ay22z435ay2",
      "2z435ay22z435ay22z435ay237a35ay22z435ay22z435ay22z435ay22z435ay237a35ay22z435ay22z435ay22z43",
      "5ay22z435ay22z435ay237a35ay22z435ay22z435ay22z435ay22z435ay237a35ay22z435ay22z435ay22z435ay2",
      "2z435ay22z435ay2"] },
  {
    names := ["America/Monterrey"]
    kinds := [(-24060, false), (-25200, false), (-21600, false), (-21600, true), (-18000, true)]
    changes := [
      "!0bjjfW1kZ42TOy13v433cy14Ia2!1fM6eG44wy2_g444mS23na44mS23na44mS23na44wy23d444wy24Ra43SS24Ra4",
      "4mS23na44mS23na44wy23d444wy23d444wy23d444wy23na44mS23na44mS23na44wy23d444wy23d444wy23na44mS2",
      "3na44mS23na44mS23na44wy23d444wy23d444wy23na44mS23na44mS23na44wy23d444wy2"] },
  {
    names := ["America/Montevideo"]
    kinds := [
      (-13500, false), (-14400, false), (-10800, true), (-12600, false), (-9000, true),
      (-10800, false), (-7200, true), (-5400, true)]
    changes := [
      "!0YaeUp1!06RLED24IS34IY24G-34IY24G-3!0EGJy823c-34x223c-34x223c-34x223c-355Y23SU355Y23SU34RY2",
      "4G-34x223c-32w22Bj-426-5!0UTX-8446U51UY619S5hUa646S5Mr444P-5Bz261Ay5Fwa61zy5Cp471Jw446a52e26",
      "2Iy5En461pS56Pa628S56ka61pS51K467Yy5!0EaR6G61ny56ka61zy55b462oS55b4637S55b462yy55Qa637S5!0Ll",
      "DcG64Ra54c463cy54ma63nS54x463cy54x463cy54x463nS54ma63nS54ma63nS54x463cy54x463cy54x463cy5"] },
  {
    names := [
      "America/Montreal", "America/Nipigon", "America/Thunder_Bay", "America/Toronto",
      "Canada/Eastern"]
    kinds := [(-19080, false), (-18000, false), (-14400, true)]
    changes := [
      "0001!0Uk9Dm24by13eQ24vU14Ri23SK15Qi22uS15fa22yy15b422yy15Qa23Hy15G423Hy15G423Hy15G423SS155a2",
      "3cy14x423cy14x423cy14x423cy155a23SS155a23cy14x423cy14x423cy14x423cy14x423cy14x423cy155a23SS1",
      "55a2kRS14x423cy14x423cy14x423cy14x4255S13d424wy13d423cy14x423cy14x423cy14x423cy14x423cy155a2",
      "3cy14x424Gy14H424Gy14H424Gy14H424RS14H424Gy14H424Gy14H424Gy14H424Gy14H424RS146a24RS14H424Gy1",
      "4H424Gy14H424Gy14H424Gy14H424RS14H424Gy14H424Gy14H424Gy14H424Gy14H424RS146a24RS14H424Gy14H42",
      "4Gy14H424Gy14H424Gy14H424RS146a24RS14H424Gy14H424Gy14H424Gy13na24mS13na24wy13d424wy13d424wy1",
      "3na24mS13na24mS13na24wy13d424wy13d424wy13na24mS13na24mS13na24mS13na24wy13d424wy13d424wy13na2",
      "4mS13na24mS13na24wy13d424wy13d424wy137a25ay12z425ay12z425ay137a25ay12z425ay12z425ay12z425ay1",
      "2z425ay12z425ay137a25ay12z425ay12z425ay12z425ay12z425ay137a25ay12z425ay12z425ay12z425ay12z42",
      "5ay12z425ay137a25ay12z425ay12z425ay12z425ay12z425ay137a25ay12z425ay12z425ay12z425ay12z425ay1",
      "2z425ay1"] },
  {
    names := ["America/Montserrat"]
    kinds := [(-14940, false), (-14400, false)]
    changes := ["!0Hz3KG1"] },
  {
    names := ["America/Nassau"]
    kinds := [(-18540, false), (-18000, false), (-14400, true)]
    changes := [
      "!0JDqAA1!0ulQp62MsS10ka264S1!0Yrjsm24Gy14H424RS146a24RS14H424Gy14H424Gy14H424Gy14H424Gy14H42",
      "4RS14H424Gy14H424Gy14H424Gy14H424Gy14H424RS146a24RS14H424Gy14H424Gy14H424Gy14H424Gy14H424RS1",
      "46a24RS14H424Gy14H424Gy14H424Gy13na24mS13na24wy13d424wy13d424wy13na24mS13na24mS13na24wy13d42",
      "4wy13d424wy13na24mS13na24mS13na24mS13na24wy13d424wy13d424wy13na24mS13na24mS13na24wy13d424wy1",
      "3d424wy137a25ay12z425ay12z425ay137a25ay12z425ay12z425ay12z425ay12z425ay12z425ay137a25ay12z42",
      "5ay12z425ay12z425ay12z425ay137a25ay12z425ay12z425ay12z425ay12z425ay12z425ay137a25ay12z425ay1",
      "2z425ay12z425ay12z425ay137a25ay12z425ay12z425ay12z425ay12z425ay12z425ay1"] },
  {
    names := ["America/New_York", "US/Eastern"]
    kinds := [(-17760, false), (-18000, false), (-14400, true)]
    changes := [
      "0001!0UfXvm24wy13d424wy13d4255S146a23cy155a23SS155a23cy14x423cy14x423cy14x423cy14x423cy155a2",
      "3cy14x423cy14x423cy14x423cy14x423cy155a23SS155a23cy14x423cy14x423cy14x423cy14x423cy155a23SS1",
      "55a23cy14x423cy13942V9S14x423cy14x423cy14x423cy14x423cy155a23SS155a23cy14x423cy14x423cy14x42",
      "3cy14x424RS14H424Gy14H424Gy14H424Gy14H424Gy14H424RS14H424Gy14H424Gy14H424Gy14H424Gy14H424RS1",
      "46a24RS14H424Gy14H424Gy14H424Gy14H424Gy14H424RS14H424Gy14H424Gy11f426uy12oa25lS14H424RS146a2",
      "4RS14H424Gy14H424Gy14H424Gy14H424Gy14H424RS146a24RS14H424Gy14H424Gy14H424Gy13na24mS13na24wy1",
      "3d424wy13d424wy13na24mS13na24mS13na24wy13d424wy13d424wy13na24mS13na24mS13na24mS13na24wy13d42",
      "4wy13d424wy13na24mS13na24mS13na24wy13d424wy13d424wy137a25ay12z425ay12z425ay137a25ay12z425ay1",
      "2z425ay12z425ay12z425ay12z425ay137a25ay12z425ay12z425ay12z425ay12z425ay137a25ay12z425ay12z42",
      "5ay12z425ay12z425ay12z425ay137a25ay12z425ay12z425ay12z425ay12z425ay137a25ay12z425ay12z425ay1",
      "2z425ay12z425ay12z425ay1"] },
  {
    names := ["America/Nome"]
    kinds := [(46680, false), (-39600, false), (-36000, true), (-32400, false), (-28800, true)]
    changes := [
      "0001!1BYKJG2V9S1!0iLo4G24Gy14H424Gy14H424RS14H424Gy14H424Gy11f426uy12oa25lS14H424RS146a24RS1",
      "4H424Gy14H424Gy14H424Gy14H424Gy14H424RS146a24RS34Gy44Gy34H444Gy34H444Gy33na44mS33na44wy33d44",
      "4wy33d444wy33na44mS33na44mS33na44wy33d444wy33d444wy33na44mS33na44mS33na44mS33na44wy33d444wy3",
      "3d444wy33na44mS33na44mS33na44wy33d444wy33d444wy337a45ay32z445ay32z445ay337a45ay32z445ay32z44",
      "5ay32z445ay32z445ay32z445ay337a45ay32z445ay32z445ay32z445ay32z445ay337a45ay32z445ay32z445ay3",
      "2z445ay32z445ay32z445ay337a45ay32z445ay32z445ay32z445ay32z445ay337a45ay32z445ay32z445ay32z44",
      "5ay32z445ay32z445ay3"] },
  {
    names := ["America/Noronha", "Brazil/DeNoronha"]
    kinds := [(-7800, false), (-7200, false), (-3600, true)]
    changes := [
      "!0MgcLa1!0XPDPi24Em14La24Dy1!0VMZeG23C015NW22rS15k422sy15k4226y1!0KGyoG21yS17u421OS15la226y1",
      "5la22py15la22rS1!0XFX2G237S15G422dy15xa22TS15w422TS164a22oS1!0I8V-G23SS15G420AS18Y422yy1"] },
  {
    names := ["America/North_Dakota/Beulah"]
    kinds := [(-24420, false), (-25200, false), (-21600, true), (-21600, false), (-18000, true)]
    changes := [
      "0001!0UfZgG24wy13d424wy1!0fxYCG2V9S1!0ebrqG24Gy14H424Gy14H424Gy14H424Gy14H424RS14H424Gy14H42",
      "4Gy11f426uy12oa25lS14H424RS146a24RS14H424Gy14H424Gy14H424Gy14H424Gy14H424RS146a24RS14H424Gy1",
      "4H424Gy14H424Gy13na24mS13na24wy13d424wy13d424wy13na24mS13na24mS13na24wy13d424wy13d424wy13na2",
      "4mS13na24mS13na24mS13na24wy13d424wy13d424wy13na24mS13na24mS13na24wy13d424wy13d424wy137a25ay1",
      "2z425ay12z425ay137a25ay32z045ay32z445ay32z445ay32z445ay32z445ay337a45ay32z445ay32z445ay32z44",
      "5ay32z445ay337a45ay32z445ay32z445ay32z445ay32z445ay32z445ay337a45ay32z445ay32z445ay32z445ay3",
      "2z445ay337a45ay32z445ay32z445ay32z445ay32z445ay32z445ay3"] },
  {
    names := ["America/North_Dakota/Center"]
    kinds := [(-24300, false), (-25200, false), (-21600, true), (-21600, false), (-18000, true)]
    changes := [
      "0001!0UfZgG24wy13d424wy1!0fxYCG2V9S1!0ebrqG24Gy14H424Gy14H424Gy14H424Gy14H424RS14H424Gy14H42",
      "4Gy11f426uy12oa25lS14H424RS146a24RS14H424Gy14H424Gy14H424Gy14H424Gy14H424RS146a24RS14H424Gy1",
      "4H424Gy14H424Gy13na24mS13na24wy13d424wy13d424wy13na24mS13na24mS33nW44wy33d444wy33d444wy33na4",
      "4mS33na44mS33na44mS33na44wy33d444wy33d444wy33na44mS33na44mS33na44wy33d444wy33d444wy337a45ay3",
      "2z445ay32z445ay337a45ay32z445ay32z445ay32z445ay32z445ay32z445ay337a45ay32z445ay32z445ay32z44",
      "5ay32z445ay337a45ay32z445ay32z445ay32z445ay32z445ay32z445ay337a45ay32z445ay32z445ay32z445ay3",
      "2z445ay337a45ay32z445ay32z445ay32z445ay32z445ay32z445ay3"] },
  {
    names := ["America/North_Dakota/New_Salem"]
    kinds := [(-24360, false), (-25200, false), (-21600, true), (-21600, false), (-18000, true)]
    changes := [
      "0001!0UfZgG24wy13d424wy1!0fxYCG2V9S1!0ebrqG24Gy14H424Gy14H424Gy14H424Gy14H424RS14H424Gy14H42",
      "4Gy11f426uy12oa25lS14H424RS146a24RS14H424Gy14H424Gy14H424Gy14H424Gy14H424RS146a24RS14H424Gy1",
      "4H424Gy14H424Gy13na24mS13na24wy13d424wy13d424wy13na24mS13na24mS13na24wy13d424wy13d424wy13na2",
      "4mS13na24mS13na24mS13na24wy13d424wy13d424wy13na24mS13na24mS33nW44wy33d444wy33d444wy337a45ay3",
      "2z445ay32z445ay337a45ay32z445ay32z445ay32z445ay32z445ay32z445ay337a45ay32z445ay32z445ay32z44",
      "5ay32z445ay337a45ay32z445ay32z445ay32z445ay32z445ay32z445ay337a45ay32z445ay32z445ay32z445ay3",
      "2z445ay337a45ay32z445ay32z445ay32z445ay32z445ay32z445ay3"] },
  {
    names := ["America/Ojinaga"]
    kinds := [(-25080, false), (-25200, false), (-21600, false), (-21600, true), (-18000, true)]
    changes := [
      "!0bjkXm1kZ02TOy13v433cy14Ia2!1uQUyG44mS23na44mS23ne34mS13na34wy13d434wy14Ra33SS14Ra34mS13na3",
      "4mS13na34wy13d434wy13d434wy13d434wy13na34mS13na34mS13I435ay12z435ay12z435ay12z435ay12z435ay1",
      "2z435ay137a35ay12z435ay12z435ay12z435ay12z435ay137a35ay12z435QS237W45ay22z445ay22z445ay22z44",
      "5ay237a45ay22z445ay22z445ay22z445ay22z445ay237a45ay22z445ay22z445ay22z445ay22z445ay22z445ay2"] },
  {
    names := ["America/Panama"]
    kinds := [(-19080, false), (-19200, false), (-18000, false)]
    changes := ["0001!0Bz67e2"] },
  {
    names := ["America/Paramaribo"]
    kinds := [(-13260, false), (-12600, false), (-10800, false)]
    changes := ["!1IOYoq1!19N0K42"] },
  {
    names := ["America/Phoenix", "US/Arizona"]
    kinds := [(-26880, false), (-25200, false), (-21600, true)]
    changes := ["0001!0UfZgG24wy13d424wy1!0fxYCG2!03ZjAC128a24IS1!0gTrhq24Gy1"] },
  {
    names := ["America/Port-au-Prince"]
    kinds := [(-17340, false), (-18000, false), (-14400, true)]
    changes := [
      "!0SRd7y1!1yhDJK246S14H424Gy14H424Gy14H424Gy14H424Gy13ne24x013d024x013d024x013nW24mW13nW24mW1",
      "3nW24x013d024x013d024x013nW24mW13nW24mW1_fy24wy13d424wy1jyC25ay12z425ay12z425ay12z425ay1Bfa2",
      "5ay12z425ay12z425ay12z425ay137a25ay12z425ay12z425ay12z425ay12z425ay12z425ay137a25ay12z425ay1",
      "2z425ay12z425ay12z425ay137a25ay12z425ay12z425ay12z425ay12z425ay12z425ay1"] },
  {
    names := ["America/Porto_Acre", "America/Rio_Branco", "Brazil/Acre"]
    kinds := [(-16260, false), (-18000, false), (-14400, true), (-14400, false)]
    changes := [
      "!0MgeQG1!0XPDzm24Em14La24Dy1!0VMZeG23C015NW22rS15k422sy15k4226y1!0KGyoG21yS17u421OS15la226y1",
      "5la22py15la22rS1!0XFX2G237S15G422dy15xa22TS1!0cL9gG3k3S1"] },
  {
    names := ["America/Porto_Velho"]
    kinds := [(-15360, false), (-14400, false), (-10800, true)]
    changes := [
      "!0MgeBe1!0XPDK824Em14La24Dy1!0VMZeG23C015NW22rS15k422sy15k4226y1!0KGyoG21yS17u421OS15la226y1",
      "5la22py15la22rS1!0XFX2G237S15G422dy15xa22TS1"] },
  {
    names := ["America/Puerto_Rico"]
    kinds := [(-15840, false), (-14400, false), (-10800, true)]
    changes := ["0001!1BzZB02TD41"] },
  {
    names := ["America/Punta_Arenas"]
    kinds := [
      (-17040, false), (-16980, false), (-18000, false), (-14400, false), (-14400, true),
      (-10800, true), (-10800, false)]
    changes := [
      "0001!0FC4T52!0CB9uB1!047_rr3!01Wuxx1!0FNWO54!016CLx23ba44zy23ba44zy23ba44zy23ba44_S23ba3!0IL",
      "Ktm21Ra3YvS452W21CW3!0eMge053SS35b452yy34c453cy34x453cy355a53SS34ma53nS355a53SS355a53cy34x45",
      "3cy34x453cy355a53SS355a53SS355a53cy34x453cy34x453cy34x453cy355a53SS355a53SS355a54Gy34H453cy3",
      "4x453cy355a53SS34Ra546S355a53cy34x453cy34x453cy34x453cy355a53SS355a53xy34c453cy34c454RS34Ra5",
      "3cy355a53SS355a53SS355a53SS355a53cy34x453cy34x453cy355a53SS355a53xy34c453cy34x4546S34Ra54wy3",
      "2Ta55vy32z455ay337a55QS337a5ERy328a52dy6"] },
  {
    names := ["America/Rainy_River", "America/Winnipeg", "Canada/Central"]
    kinds := [(-23340, false), (-21600, false), (-18000, true)]
    changes := [
      "0001!0R0VlW23SS1DTC24by1!0YvK8G237S1bRa2V9S15G423cy14c423cy14x423cy14x423cy157423Zy14ya23cy1",
      "4x423cy14x423cy14x423cy14x423cy155a23cy14x423cy14x423cy14x424Gy14H423cy1M9a23SS1M9a24RW14H02",
      "4H014H024H014H024H014H024H014H024RW14H024H014H024H014H024H014H024H014H024RW146W24RW14H024H01",
      "4H024H014H024H014H024H014H024RW146W24RW14H024H014H024H014H024H013nW24mW13nW24x013d024x013d02",
      "4x013nW24mW13nW24mW13nW24x013d024x013d024x013nW24mW13nW24mW13nW24mW13nW24x013d024x013d024x01",
      "3nW24mW13nW24mW13nW24x013d024x013d024wy137a25ay12z425ay12z425ay137a25ay12z425ay12z425ay12z42",
      "5ay12z425ay12z425ay137a25ay12z425ay12z425ay12z425ay12z425ay137a25ay12z425ay12z425ay12z425ay1",
      "2z425ay12z425ay137a25ay12z425ay12z425ay12z425ay12z425ay137a25ay12z425ay12z425ay12z425ay12z42",
      "5ay12z425ay1"] },
  {
    names := ["America/Rankin_Inlet"]
    kinds := [(0, false), (-21600, false), (-18000, true), (-18000, false)]
    changes := [
      "!1dZ6u01!0Sr9s024Gy14H424Gy14H424Gy14H424Gy14H424RS146a24RS14H424Gy14H424Gy14H424Gy14H424Gy1",
      "4H424RS146a24RS14H424Gy14H424Gy14H424Gy13na24mS13na24wy13d424wy13d424wy13na24mS13na24mS13na2",
      "4wy13d424wy13d424wy13na24mS13na24mS13na24mS13na24wy13d424wy33d424wy13na24mS13na24mS13na24wy1",
      "3d424wy13d424wy137a25ay12z425ay12z425ay137a25ay12z425ay12z425ay12z425ay12z425ay12z425ay137a2",
      "5ay12z425ay12z425ay12z425ay12z425ay137a25ay12z425ay12z425ay12z425ay12z425ay12z425ay137a25ay1",
      "2z425ay12z425ay12z425ay12z425ay137a25ay12z425ay12z425ay12z425ay12z425ay12z425ay1"] },
  {
    names := ["America/Recife"]
    kinds := [(-8400, false), (-10800, false), (-7200, true)]
    changes := [
      "!0MgcUu1!0XPE8e24Em14La24Dy1!0VMZeG23C015NW22rS15k422sy15k4226y1!0KGyoG21yS17u421OS15la226y1",
      "5la22py15la22rS1!0XFX2G237S15G422dy15xa22TS15w422TS164a22oS1!0I8V-G23SS15G420AS18Y422yy1"] },
  {
    names := ["America/Regina", "Canada/Saskatchewan"]
    kinds := [(-25140, false), (-25200, false), (-21600, true), (-21600, false)]
    changes := [
      "!06_PCS1!0Nknnq24by1!0LgaXm23cy14x423cy14x423cy155a23SS155a23cy1LVa24Gy14H4246S14Ra24Gy14Ra2",
      "4Gy14H424Gy12qC2V9S14c424Gy14c423cy14x423cy14x423cy155a23SS155a23cy14x423cy14x423cy14x423cy1",
      "4x423cy155a23cy14x423cy1DT424Gy14H43"] },
  {
    names := ["America/Resolute"]
    kinds := [(0, false), (-21600, false), (-18000, true), (-18000, false)]
    changes := [
      "!1L-u601!0kPOe024Gy14H424Gy14H424Gy14H424Gy14H424RS146a24RS14H424Gy14H424Gy14H424Gy14H424Gy1",
      "4H424RS146a24RS14H424Gy14H424Gy14H424Gy13na24mS13na24wy13d424wy13d424wy13na24mS13na24mS13na2",
      "4wy13d424wy13d424wy13na24mS13na24mS13na24mS13na24wy13d424wy33d424wy13na24mS13na24mS13na24wy1",
      "3d424wy13d424wy337a25ay12z425ay12z425ay137a25ay12z425ay12z425ay12z425ay12z425ay12z425ay137a2",
      "5ay12z425ay12z425ay12z425ay12z425ay137a25ay12z425ay12z425ay12z425ay12z425ay12z425ay137a25ay1",
      "2z425ay12z425ay12z425ay12z425ay137a25ay12z425ay12z425ay12z425ay12z425ay12z425ay1"] },
  {
    names := ["America/Santarem"]
    kinds := [(-13140, false), (-14400, false), (-10800, true), (-10800, false)]
    changes := [
      "!0Mgdf81!0XPDse24Em14La24Dy1!0VMZeG23C015NW22rS15k422sy15k4226y1!0KGyoG21yS17u421OS15la226y1",
      "5la22py15la22rS1!0XFX2G237S15G422dy15xa22TS1!0cL9gG3"] },
  {
    names := ["America/Santiago", "Chile/Continental"]
    kinds := [(-16980, false), (-18000, false), (-14400, false), (-14400, true), (-10800, true)]
    changes := [
      "!0FC4T51!0CB9uB0!047_rr2!01Wuxx0!0FNWO53!016CLx13ba34zy13ba34zy13ba34zy13ba34_S13ba2!0ILKtm1",
      "1Ra2Xry413S352a11CW2!0eMge043SS25b442yy24c443cy24x443cy255a43SS24ma43nS255a43SS255a43cy24x44",
      "3cy24x443cy255a43SS255a43SS255a43cy24x443cy24x443cy24x443cy255a43SS255a43SS255a44Gy24H443cy2",
      "4x443cy255a43SS24Ra446S255a43cy24x443cy24x443cy24x443cy255a43SS255a43xy24c443cy24c444RS24Ra4",
      "3cy255a43SS255a43SS255a43SS255a43cy24x443cy24x443cy255a43SS255a43xy24c443cy24x4446S24Ra44wy2",
      "2Ta45vy22z445ay237a45QS237a4ERy228a46PS228a46PS228a45ay23d444wy23d444wy23d444wy23na44mS23d44",
      "55S23d444wy23d444wy23d444wy23d444wy23d4455S23Sa455S23d444wy23d444wy23d444wy23d444wy23d4455S2",
      "3Sa455S23d444wy23d44"] },
  {
    names := ["America/Santo_Domingo"]
    kinds := [(-16800, false), (-18000, false), (-14400, true), (-16200, true), (-14400, false)]
    changes := ["!0wtq9W1!0_AGbm22rS1Mma32m-15n2322U16g231w-16d231z-16a231_U16YY4!0mwoQG10qW4"] },
  {
    names := ["America/Sao_Paulo", "Brazil/East"]
    kinds := [(-11160, false), (-10800, false), (-7200, true)]
    changes := [
      "!0MgdAq1!0XPDSi24Em14La24Dy1!0VMZeG23C015NW22rS15k422sy15k4226y1!0K1TOG232y17u421OS15la226y1",
      "5la22py15la22rS1!0XFX2G237S15G422dy15xa22TS15w422TS164a22oS15w422oS15la22dy164a22Iy164a22yy1",
      "5b422yy15b422oS15b4237S15S423Qy15G4237S15G423SS15G4237S15b422yy164a22TS15la22oS167a22ay15b42",
      "2yy164a22dy15Qa22yy15la22oS15la22yy15b422yy15b4237S15b422oS15la22oS15la22yy15b422yy15b422yy1",
      "5b422yy164a22TS1"] },
  {
    names := ["America/Scoresbysund"]
    kinds := [(-5280, false), (-7200, false), (-3600, true), (0, true), (-3600, false)]
    changes := [
      "!0RW4mO1!1tpI8e246W14Gu34Gy44H034H044H034H044H034RW44H034H044H034H044H034H044H034H044H034H04",
      "4H034RW44H034H044H034H044H034H044H034H044H034H044RW34x043d034x043d034x043d0355W43SW355W43SW3",
      "55W43d034x043d034x043d0355W43SW355W43SW355W43SW355W43d034x043d034x043d0355W43SW355W43SW355W4",
      "3d034x043d034x043d034x043d0355W43SW355W43SW355W43d034x043d034x043d0355W43SW355W43SW355W43d02",
      "4x013d024x013d024x013d0255W13SW255W13SW255W13d024x013d024x013d0255W13SW255W13SW255W13SW255W1",
      "3d024x013d024x01"] },
  {
    names := ["America/Sitka"]
    kinds := [(53940, false), (-28800, false), (-25200, true), (-32400, false), (-28800, true)]
    changes := [
      "0001!1BYHgW2V9S1!0iLo4G24Gy14H424Gy14H424RS14H424Gy14H424Gy11f426uy12oa25lS14H424RS146a24RS1",
      "4H424Gy14H424Gy14H424Gy14H424Gy14H424RS146a24RS34H844Gy34H444Gy34H444Gy33na44mS33na44wy33d44",
      "4wy33d444wy33na44mS33na44mS33na44wy33d444wy33d444wy33na44mS33na44mS33na44mS33na44wy33d444wy3",
      "3d444wy33na44mS33na44mS33na44wy33d444wy33d444wy337a45ay32z445ay32z445ay337a45ay32z445ay32z44",
      "5ay32z445ay32z445ay32z445ay337a45ay32z445ay32z445ay32z445ay32z445ay337a45ay32z445ay32z445ay3",
      "2z445ay32z445ay32z445ay337a45ay32z445ay32z445ay32z445ay32z445ay337a45ay32z445ay32z445ay32z44",
      "5ay32z445ay32z445ay3"] }
  ]

def zoneEntries4 : List ZoneEntry := [
  {
    names := ["America/St_Johns", "Canada/Newfoundland"]
    kinds := [(-12660, false), (-9060, true), (-12600, false), (-9000, true), (-5400, true)]
    changes := [
      "!0Sps8C13oy04va14by04UO12KS06C414Gy04H414Gy04Ra146S04Ra146S04Ra146S04Ra146S04Ra14Gy04H414Gy0",
      "4Ra146S04Ra146S04Ra146S04Ra146S04Ra14Gy04Ra146S04Ra146S03a82!00CBay346S24c833SS255a33SS255a3",
      "3SS25G433Hy25G433SS255a33SS255a3T1425G433SS255a33SS255a33SS255a33SS25G433SS24ma33cy24x433cy2",
      "4x433cy24x433cy24x433cy255a33cy24x433cy24x433cy24x433cy24x434RS24H434Gy24H434Gy24H434Gy24H43",
      "4Gy24H434RS246a34RS24H434Gy24H434Gy24H434Gy24H434Gy24H434RS24H434Gy24H434Gy24H434Gy24H434Gy2",
      "4H434RS246a34RS24H434Gy24H434Gy24H434Gy24H434Gy24H434RS246a34RS24H434Gy24H434Gy24H434Gy2!00r",
      "3Ei34mS23na44wu23d834wy23d434wy23na34mS23na34mS23na34wy23d434wy23d434wy23na34mS23na34mS23na3",
      "4mS23na34wy23d434wy23d434wy23na34mS23na34mS23na34wy23d434wy23d434wy237a35ay22z435ay22z435ay2",
      "37a35ay22z43!01ETBK22z435ay22z435ay22z435ay22z435ay237a35ay22z435ay22z435ay22z435ay22z435ay2",
      "37a35ay22z435ay22z435ay22z435ay22z435ay22z435ay237a35ay22z435ay22z435ay22z435ay22z435ay237a3",
      "5ay22z435ay22z435ay22z435ay22z435ay22z435ay2"] },
  {
    names := ["America/St_Kitts"]
    kinds := [(-15060, false), (-14400, false)]
    changes := ["!0JDpJC1"] },
  {
    names := ["America/St_Lucia"]
    kinds := [(-14640, false), (-14400, false)]
    changes := ["!0IviUm1"] },
  {
    names := ["America/St_Thomas", "America/Virgin"]
    kinds := [(-15600, false), (-14400, false)]
    changes := ["!0Hz3TW1"] },
  {
    names := ["America/St_Vincent"]
    kinds := [(-14700, false), (-14400, false)]
    changes := ["!0IviVe1"] },
  {
    names := ["America/Swift_Current"]
    kinds := [(-25860, false), (-25200, false), (-21600, true), (-21600, false)]
    changes := [
      "!06_POO1!0Nknbu24by1!0hpWKG2V9S14x423xy14c423cy14x423cy14x423cy1!0EHemG24Gy1Cp424Gy14H423cy1",
      "55a23SS1!0JxsoG3"] },
  {
    names := ["America/Tegucigalpa"]
    kinds := [(-20940, false), (-21600, false), (-18000, true)]
    changes := ["!0aJ4j41!1yJf6S23SS155a23SS1!0X8G-G229y1"] },
  {
    names := ["America/Thule"]
    kinds := [(-16500, false), (-14400, false), (-10800, true)]
    changes := [
      "!0RW7Vy1!2CTGBa24Gy14H424Gy14Ra24wy13d424wy13d424wy13na24mS13na24mS13na24mS13na24wy13d424wy1",
      "3d424wy13na24mS13na24mS13na24wy13d424wy13d424wy137a25ay12z425ay12z425ay137a25ay12z425ay12z42",
      "5ay12z425ay12z425ay12z425ay137a25ay12z425ay12z425ay12z425ay12z425ay137a25ay12z425ay12z425ay1",
      "2z425ay12z425ay12z425ay137a25ay12z425ay12z425ay12z425ay12z425ay137a25ay12z425ay12z425ay12z42",
      "5ay12z425ay12z425ay1"] },
  {
    names := ["America/Tortola"]
    kinds := [(-15480, false), (-14400, false)]
    changes := ["!0Hz3SK1"] },
  {
    names := ["America/Vancouver", "Canada/Pacific"]
    kinds := [(-29520, false), (-28800, false), (-25200, true)]
    changes := [
      "0001!0UkBsW24by1!0hpWKG2V9S14x423cy14x423cy14x423cy14x423cy155a23SS155a23cy14x423cy14x423cy1",
      "4x423cy14x423cy155a23cy14x423cy14x423cy14x423cy14x423cy155a23SS155a24Gy14H424Gy14H424Gy14H42",
      "4RS146a24RS14H424Gy14H424Gy14H424Gy14H424Gy14H424RS14H424Gy14H424Gy14H424Gy14H424Gy14H424RS1",
      "46a24RS14H424Gy14H424Gy14H424Gy14H424Gy14H424RS146a24RS14H424Gy14H424Gy14H424Gy13na24mS13na2",
      "4wy13d424wy13d424wy13na24mS13na24mS13na24wy13d424wy13d424wy13na24mS13na24mS13na24mS13na24wy1",
      "3d424wy13d424wy13na24mS13na24mS13na24wy13d424wy13d424wy137a25ay12z425ay12z425ay137a25ay12z42",
      "5ay12z425ay12z425ay12z425ay12z425ay137a25ay12z425ay12z425ay12z425ay12z425ay137a25ay12z425ay1",
      "2z425ay12z425ay12z425ay12z425ay137a25ay12z425ay12z425ay12z425ay12z425ay137a25ay12z425ay12z42",
      "5ay12z425ay12z425ay12z425ay1"] },
  {
    names := ["America/Whitehorse", "Canada/Yukon"]
    kinds := [(-32400, false), (-28800, true), (-25200, true), (-28800, false), (-25200, false)]
    changes := [
      "!0UkCkm14by04x413lq0!0fvbOm1V9S0!0apa9m24RW02oW3!0Qe-sG24Gy34H424Gy34H424RS346a24RS34H424Gy3",
      "4H424Gy34H424Gy33na24mS33na24wy33d424wy33d424wy33na24mS33na24mS33na24wy33d424wy33d424wy33na2",
      "4mS33na24mS33na24mS33na24wy33d424wy33d424wy33na24mS33na24mS33na24wy33d424wy33d424wy337a25ay3",
      "2z425ay32z425ay337a25ay32z425ay32z425ay32z425ay32z425ay32z425ay337a25ay32z425ay32z425ay32z42",
      "5ay32z425aq4"] },
  {
    names := ["America/Yakutat"]
    kinds := [(52860, false), (-32400, false), (-28800, true)]
    changes := [
      "0001!1BYIYm2V9S1!0iLo4G24Gy14H424Gy14H424RS14H424Gy14H424Gy11f426uy12oa25lS14H424RS146a24RS1",
      "4H424Gy14H424Gy14H424Gy14H424Gy14H424RS146a24RS14H424Gy14H424Gy14H424Gy13na24mS13na24wy13d42",
      "4wy13d424wy13na24mS13na24mS13na24wy13d424wy13d424wy13na24mS13na24mS13na24mS13na24wy13d424wy1",
      "3d424wy13na24mS13na24mS13na24wy13d424wy13d424wy137a25ay12z425ay12z425ay137a25ay12z425ay12z42",
      "5ay12z425ay12z425ay12z425ay137a25ay12z425ay12z425ay12z425ay12z425ay137a25ay12z425ay12z425ay1",
      "2z425ay12z425ay12z425ay137a25ay12z425ay12z425ay12z425ay12z425ay137a25ay12z425ay12z425ay12z42",
      "5ay12z425ay12z425ay1"] },
  {
    names := ["Antarctica/Casey"]
    kinds := [(0, false), (28800, false), (39600, false)]
    changes := [
      "!1-7io01!1CkpcW23Eq1E7C22lS1dxy2Bra14xC23nG14ji23fq1!015Diy2!00r1SK1!012yhi2!00r1SK1!012yhi2",
      "!00q4p41"] },
  {
    names := ["Antarctica/Davis"]
    kinds := [(0, false), (25200, false), (18000, false)]
    changes := ["!1dd4001!0EgvyG0aPy1!1Cacam23O41Dzy22la1"] },
  {
    names := ["Antarctica/DumontDUrville"]
    kinds := [(0, false), (36000, false)]
    changes := ["!1Kl7Q01h5u0f681"] },
  {
    names := ["Antarctica/Macquarie"]
    kinds := [(0, false), (36000, false), (39600, true)]
    changes := [
      "0001!0RrNY0246W1HHO0!0sXBEW1!0ajYK024H014x0237W15QW237W15QW23I015QW22oW15lW22z015b022z015b02",
      "2z015b0237W15b022z015b022z015b022z015b022z015b022z015b023d0155W23SW155W22z015b022z015b022z01",
      "5QW23SW15G023SW15G023I015G023I015G023d014RW246W14RW246W14RW246W14RW246W14RW24H014RW246W14RW2",
      "46W14RW246W14RW246W13d024x014c0246W14RW246W14RW246W14RW246W14RW24H014H0246W14c024H014H024H01",
      "4H02Cp014H024H014RW24H014H024H014H024H014H024H014H024H014H024H014RW24H014H024H014H024H014H02",
      "4H014H024H014H024RW14H024H014H024H014H024H014H024H014H024H014RW24H014H024H014H024H014H024H01",
      "4H024H014H024H014RW24H014H024H014H02"] },
  {
    names := ["Antarctica/Mawson"]
    kinds := [(0, false), (21600, false), (18000, false)]
    changes := ["!1Y83A01!1ekU_02"] },
  {
    names := ["Antarctica/McMurdo", "Antarctica/South_Pole"]
    kinds := [(0, false), (43200, false), (46800, true)]
    changes := [
      "!1bgUa01!0ZRnJW22e015lW237W15b022z015b022z015b022z015b022z015b022z015b0237W15b022z015b022z01",
      "5b022z015b022z015b022z015b0237W15b022z0155W23nW14mW23nW14mW23nW14mW23y014c023y014c023y014c02",
      "3y014mW23nW14mW23nW14mW23y014c023y014c023y014mW23nW14mW23nW14mW23y014c023y014c023y014c023y01",
      "4c024RW146W24RW146W24RW146W24RW146W24RW14H024RW146W24RW146W24RW146W24RW146W24RW146W24RW14H02",
      "4RW146W24RW146W24RW146W24RW146W24RW146W24c0146W24RW146W24RW146W24RW146W24RW146W24RW14H024RW1",
      "46W24RW146W24RW146W24RW146W24RW146W24RW14H024RW146W24RW146W2"] },
  {
    names := ["Antarctica/Palmer"]
    kinds := [(0, false), (-10800, true), (-14400, false), (-10800, false), (-7200, true)]
    changes := [
      "!1scAq011Oi25M413DS25M413zS24H414RS24H414Gy24H43aqS42Iy3!0F34qG23p413cy24x413cy255a13SS255a1",
      "3SS255a14Gy24H413cy24x413cy255a13SS24Ra146S255a13cy24x413cy24x413cy24x413cy255a13SS255a13xy2",
      "4c413cy24c414RS24Ra13cy255a13SS255a13SS255a13SS255a13cy24x413cy24x413cy255a13SS255a13xy24c41",
      "3cy24x4146S24Ra14wy22Ta15vy22z415ay237a15QS237a1ERy228a12dy3"] },
  {
    names := ["Antarctica/Rothera"]
    kinds := [(0, false), (-10800, false)]
    changes := ["!2D0Yq01"] },
  {
    names := ["Antarctica/Syowa"]
    kinds := [(0, false), (10800, false)]
    changes := ["!1diLW01"] },
  {
    names := ["Antarctica/Troll"]
    kinds := [(0, false), (7200, true)]
    changes := [
      "!32HWMG155W03SW155W03SW155W03d014x003d014x003d0155W03SW155W03SW155W03d014x003d014x003d014x00",
      "3d0155W03SW155W03SW155W03d014x003d014x003d0155W03SW155W03SW155W03d014x003d014x003d014x003d01",
      "55W03SW155W03SW155W03d014x003d014x003d0155W03SW155W03SW155W03SW155W03d014x003d014x00"] },
  {
    names := ["Antarctica/Vostok"]
    kinds := [(0, false), (25200, false), (18000, false)]
    changes := ["!1fM8c01!13zA-G06Py1!0soS0m2"] },
  {
    names := ["Arctic/Longyearbyen", "Atlantic/Jan_Mayen", "Europe/Oslo"]
    kinds := [(2580, false), (3600, false), (7200, true)]
    changes := [
      "0001!0R9-C0234O1!0iuj802J3i13SW24RW14H024H014H024H01!0PJHc024RW14H024H014H024H014H024H014H02",
      "4H014H024RW155W23SW1!0RN760246W14H024H014H024H014H024H014H024RW14H024H014H024H014H024H014H02",
      "4H014H024H014H024RW14H024H014H024H014H024H014H024H014H024H014RW24x013d024x013d024x013d0255W1",
      "3SW255W13SW255W13d024x013d024x013d0255W13SW255W13SW255W13SW255W13d024x013d024x013d0255W13SW2",
      "55W13SW255W13d024x013d024x013d024x013d0255W13SW255W13SW255W13d024x013d024x013d0255W13SW255W1",
      "3SW255W13d024x013d024x013d024x013d0255W13SW255W13SW255W13d024x013d024x013d0255W13SW255W13SW2",
      "55W13SW255W13d024x013d024x01"] },
  {
    names := ["Asia/Aden"]
    kinds := [(10800, false)]
    changes := [] },
  {
    names := ["Asia/Almaty"]
    kinds := [(18480, false), (18000, false), (21600, false), (25200, true), (21600, true)]
    changes := [
      "!0g6NlS1!0BYdDK2!1VWuvm34IS24H434IS24H434IS24Ia34H824H034H024H034H024H034H024H034H024H034H02",
      "4H034RW24H044H412e021ey34H024H034H024H034H024H034H024RW34x023d034x023d034x023d0355W23SW355W2",
      "3SW355W23d034x023d034x023d0355W2!0aNDDW1"] },
  {
    names := ["Asia/Amman"]
    kinds := [(8640, false), (7200, false), (10800, true), (10800, false)]
    changes := [
      "!0sezRG1!1FpgCG22lS14-423bS14-423bS14_a24Jy14Fa23bS14ya23bS1tga24IS14La24Gy14H424Gy14H424RS1",
      "4_a23YS14ma23nS14Z423qS14c4246S14H424Gy14H423xy14ma23nW14mW23y014c023y014c023y016j021_W14Q02",
      "4IW14FW24IW14H024H014H024x013d024mW13y024H014H024x013d024x013d0255W13SW255W13SW255W13d024x01",
      "3d02Emy12J4255W13SW255W13d024x013d024x013d024x013d024x013d0255W13SW255W12oW25lW3"] },
  {
    names := ["Asia/Anadyr"]
    kinds := [
      (42600, false), (43200, false), (46800, false), (50400, true), (46800, true), (43200, true),
      (39600, false)]
    changes := [
      "!0g6HsS1!0BYcya2!1VWuvm34IS24H444IW14H444IS14Ia44H814H044H014H044H014H044H014H044H014H044H01",
      "4H044RW14H054H462e011ey44H014H044H014H044H014H044H014RW44x013d044x013d044x013d0455W13SW455W1",
      "3SW455W13d044x013d044x013d0455W13SW455W13SW455W13SW455W13d044x013d044x013d0555a63SW1"] },
  {
    names := ["Asia/Aqtau"]
    kinds := [
      (12060, false), (14400, false), (18000, false), (21600, false), (21600, true), (18000, true)]
    changes := [
      "!0g6PJW1!0BYcXW2!1WTD3m34Gy44IW24H444IS24Ia44H824H044H024H044H024H044H024H044H024H044H024H04",
      "4RW24H054H412e021ey44H024H044H024H044H014H454H014RW54x013d054x013d054x013d0555W13SW555W13SW5",
      "55W13d054x013d054x013d0555W2"] },
  {
    names := ["Asia/Aqtobe"]
    kinds := [
      (13740, false), (14400, false), (18000, false), (21600, true), (21600, false), (18000, true)]
    changes := [
      "!0g6Ove1!0BYcxO2!1VWuvm34IS44H034IW24H434IS24Ia34H824H034H024H034H024H034H024H034H024H034H02",
      "4H034RW24H054H412e021ey34H024H034H024H034H024H034H024RW34x023d034x023d034x023d0355W23SW355W2",
      "3SW355W23d034x023d034x023d0355W2"] },
  {
    names := ["Asia/Ashgabat", "Asia/Ashkhabad"]
    kinds := [(14040, false), (14400, false), (18000, false), (21600, true), (18000, true)]
    changes := [
      "!0g6Or41!0BYc_y2!1VWuvm34IS24H434IS24H434IS24Ia34H824H034H024H034H024H034H024H034H024H034H02",
      "4H034RW24H044H412e02"] },
  {
    names := ["Asia/Atyrau"]
    kinds := [
      (12480, false), (10800, false), (18000, false), (21600, false), (21600, true), (18000, true),
      (14400, false)]
    changes := [
      "!0g6PDG1!0BYdW02!1WTCBW34Gy44IW24H444IS24Ia44H824H044H024H044H024H044H024H044H024H044H024H04",
      "4RW24H054H462e021ey44H024H044H024H044H024H044H024RW44x023d044x023d044x023d0555a63SW555W63SW5",
      "55W63d054x063d054x063d0555W2"] },
  {
    names := ["Asia/Baghdad"]
    kinds := [(10680, false), (10800, false), (14400, true)]
    changes := [
      "!0UC3pW1!1v02jm23bS14Fa24Jy14Ia24IS14H424Fa14H024H014H024H014H024H014H024H014H024RW14Ie24IW1",
      "4IW24IW14H024IW14H024IW14H024IW14IW24IW14H024IW14H024IW14H024IW14IW24IW14H024IW14H024IW14H02",
      "4IW14IW24IW14H024IW14H024IW14H024IW1"] },
  {
    names := ["Asia/Bahrain"]
    kinds := [(12120, false), (12600, false), (14400, false), (10800, false)]
    changes := ["!1AUsoK1!04c-oq2!0rSpbu3"] },
  {
    names := ["Asia/Baku"]
    kinds := [(11940, false), (10800, false), (14400, false), (18000, true), (14400, true)]
    changes := [
      "!0g6PL41!0zm7SC2!0jJOrm34IS24H434IS24H434IS24Ia34H824H034H024H034H024H034H024H034H024H034H02",
      "4H034RW24H044H414H044H02U1e34x023cy34x023d034x023d0355W23SW355W23SW355W23d034x023d034x023d03",
      "55W23SW355W23SW355W23SW355W23d034x023d034x023d0355W23SW355W23SW355W23d034x023d034x023d034x02"] },
  {
    names := ["Asia/Bangkok"]
    kinds := [(24120, false), (25200, false)]
    changes := ["!0YQcV41"] },
  {
    names := ["Asia/Barnaul"]
    kinds := [(20100, false), (21600, false), (25200, false), (28800, true), (25200, true)]
    changes := [
      "!0XrNty1!0JpcCa2!1VWuvm34IS24H434IS24H434IS24Ia34H824H034H024H034H024H034H024H034H024H034H02",
      "4H034RW24H044H412e021ey34H024H034H024H034H024H031UK42om14RW44x013d044x013d044x013d0455W13SW4",
      "55W13SW455W13d044x013d044x013d0455W13SW455W13SW455W13SW455W13d044x013d044x013d0455W13SW2UhS1",
      "C942"] },
  {
    names := ["Asia/Beirut"]
    kinds := [(8520, false), (7200, false), (10800, true)]
    changes := [
      "0001!0YPMFW24yS13m424IS145424by14c423SS1!0_FjEG23bS14-423bS14-423bS14_a23bS14-423bS1!0KB16G2",
      "2NS14-423bS14-423bS14-423bS14_a23bS14-423bS14ya23bS1lq423xy14da23xy14da23xy14da23xy15Na23DS1",
      "4r423kS14da23xy14da23xy14f423fy146a24Gy14H424Gy14H424Gy14Ra24Gy14H424Gy14H424Gy14H4255S13Sa2",
      "55S13Sa255S13d424wy13d424wy13d4255S13Sa255S13Sa255S13Sa255S13d424wy13d424wy13d4255S13Sa255S1",
      "3Sa255S13d424wy13d424wy13d424wy13d4255S13Sa255S13Sa255S13d424wy13d424wy13d4255S13Sa255S13Sa2",
      "55S13d424wy13d424wy13d424wy13d4255S13Sa255S13Sa255S13d424wy13d424wy13d4255S13Sa255S13Sa255S1",
      "3Sa255S13d424wy13d424wy1"] },
  {
    names := ["Asia/Bishkek"]
    kinds := [(17880, false), (18000, false), (21600, false), (25200, true), (21600, true)]
    changes := [
      "!0g6NuG1!0BYd4W2!1VWuvm34IS24H434IS24H434IS24Ia34H824H034H024H034H024H034H024H034H024H034H02",
      "4H034RW24H043bW15HS43xy14c443xy14c443xy14c443xy14c4446S14HE44wy13d444wy13d4455S13Sa455S13Sa4",
      "55S13d444wy13d444wy13d4455S13Sa43Eo2"] },
  {
    names := ["Asia/Brunei"]
    kinds := [(27600, false), (27000, false), (28800, false)]
    changes := ["!0jYW941!0CtKL42"] },
  {
    names := ["Asia/Calcutta", "Asia/Kolkata"]
    kinds := [(21180, false), (19260, false), (19800, false), (23400, true)]
    changes := ["0001!07dRow2!13FSzk35Iy22Za3Qjy2"] },
  {
    names := ["Asia/Chita"]
    kinds := [
      (27240, false), (28800, false), (32400, false), (36000, true), (32400, true), (36000, false)]
    changes := [
      "!0Xs_cW1!0JnyjW2!1VWuvm34IS24H434IS24H434IS24Ia34H824H034H024H034H024H034H024H034H024H034H02",
      "4H034RW24H044H412e021ey34H024H034H024H034H024H034H024RW34x023d034x023d034x023d0355W23SW355W2",
      "3SW355W23d034x023d034x023d0355W23SW355W23SW355W23SW355W23d034x023d034x023d0355W23SW5UhS1C982"] },
  {
    names := ["Asia/Choibalsan", "Asia/Ulaanbaatar", "Asia/Ulan_Bator"]
    kinds := [(25680, false), (25200, false), (28800, false), (32400, true)]
    changes := [
      "!06q-vC1!28D-v42ivy34IS24Ia34Gy24H434Gy24H434Gy24H434Gy24H434Gy24H434Gy24H434RS24H434Gy24H43",
      "4Gy24H434Gy24H434Gy24H434Gy24Ra34Gy24H434Gy24H434Gy2M8C33cy24H434Gy24H434Gy24H434Gy24H434Gy2",
      "4H434RS2!0F-4cG34Gq24HC34Gq2"] },
  {
    names := ["Asia/Chongqing", "Asia/Chungking", "Asia/Harbin", "Asia/Shanghai", "PRC"]
    kinds := [(29160, false), (28800, false), (32400, true)]
    changes := [
      "0001!0WbwA0240S1!0cu5cG238y13ba25Ry12742Uiy15-a23GS14c424hy14H423bS14-420eS1!15UDKm237S14x42",
      "3cy155a23SS155a23cy14x423cy14x423cy1"] },
  {
    names := ["Asia/Colombo"]
    kinds := [
      (19140, false), (19200, false), (19800, false), (21600, true), (23400, true), (23400, false),
      (21600, false)]
    changes := ["0001!07dRqS2!13l5yC35cU4Qlc2!1VC7_m53c-6!0Hpke82"] },
  {
    names := ["Asia/Dacca", "Asia/Dhaka"]
    kinds := [
      (21720, false), (21180, false), (23400, false), (19800, false), (21600, false), (25200, true)]
    changes := ["0001!1AsuQm2!01AUfe32Za2!0H4v_m4!1ial5u54aW4"] },
  {
    names := ["Asia/Damascus"]
    kinds := [(8700, false), (7200, false), (10800, true), (10800, false)]
    changes := [
      "!0Xygju1!00ZeG823xy14c423xy14c423xy14c4246S1!18XzGG23eS14-423Zy151423bS14-423Zy14r423ly14-42",
      "3bS14_a23bS14-423bS14-423bS14-423bS14_a23bS14-423bS14-423bS14-423bS14_a23bS14-422uS15h422uS1",
      "dPa246S14Ua246S1Boa25WS13Ma25jy13C425Oy13Ya24Jy14H424Gy14IS24IS14T4247y148424IS14Q424IS14H42",
      "4IS14Ia24IS14Fa24Jy14E424LS14H424IS14Ia24IS14H424IS14H424IS14H424IS14Ia24IS14H424IS14H4244y1",
      "4Ra255S13d424yS13R4255S13d424wy13d424wy13d424wy13d424wy13d4255S13Sa255S13Sa255S13d424wy13d42",
      "4wy13d424wy13d4255S13Sa255S13Sa255S3"] },
  {
    names := ["Asia/Dili"]
    kinds := [(30120, false), (28800, false), (32400, false)]
    changes := ["!0IvXu01!0uinJm2!10KFs01!0jsMYG2"] },
  {
    names := ["Asia/Dubai"]
    kinds := [(13260, false), (14400, false)]
    changes := ["!0Xyfce1"] },
  {
    names := ["Asia/Dushanbe"]
    kinds := [(16500, false), (18000, false), (21600, false), (25200, true), (21600, true)]
    changes := [
      "!0g6OE01!0BYckm2!1VWuvm34IS24H434IS24H434IS24Ia34H824H034H024H034H024H034H024H034H024H034H02",
      "4H034RW24H043p41"] },
  {
    names := ["Asia/Famagusta"]
    kinds := [(8160, false), (7200, false), (10800, true), (10800, false)]
    changes := [
      "!0bTnui1!1aTf6q24Gy154423VS1454246S14Ra24IS14Fa24Gy14Ra246S14H424Gy14H424Gy14H424Gy14H424RS1",
      "4H424Gy14H424Gy14H424Gy14H424Gy14H424Gy14H424RS14H424Gy14H424Gy14H424Gy14H424Gy14H424Gy14Ra2",
      "4Gy14H424Gy14H424xC13d0255W13SW255W13SW255W13d024x013d024x013d0255W13SW255W13SW255W13SW255W1",
      "3d024x013d024x013d0255W13SW255W13SW255W13d024x013d024x013d024x013d023tG39mG13SW255W13d024x01",
      "3d024x013d0255W13SW255W13SW255W13d024x013d024x013d024x013d0255W13SW255W13SW255W13d024x013d02",
      "4x013d0255W13SW255W13SW255W13SW255W13d024x013d024x01"] },
  {
    names := ["Asia/Gaza"]
    kinds := [(8280, false), (7200, false), (10800, true)]
    changes := [
      "0001!18MSy022t0116W2Gl013YW251013a0251013v024gW13v024gW1!0JobXW23Ny14-423bS14-823a4150y23a41",
      "4_S23a414_S23a414_S23a4150y23a414_S23a414_S23ba14zy20qO1yha22Iy14Ra237S1gAa20_01VB022e015QW2",
      "3Hy164a22dy15A423YS14x423SS15b422yy14ma23cy14x423nS14x423nS14u423fy14u423VS152a23fy152a23y01",
      "4c023y014c023y014x024Gy14Ra24Gy14H424Gy14H424Gy14H424Gy14H423y014c0242414CS244y14Ua23ta14dS2",
      "3cy14x423nW1!013F8y2!00j8yq1!01CplC2!00eCYq15h4246W14RW24Gy14H424wy13ea24vW13ea255S13Sa255S1",
      "3Sa255S13bW24yS13d424x013d0254013VW254414H424Gy146a24RS13y424by13d424wy13d4255S13Sa255S13Sa2",
      "55S13d424wy13d424wy13d4255S13Sa255S13Sa255S13Sa255S13d424mS13na24by1"] },
  {
    names := ["Asia/Hebron"]
    kinds := [(8400, false), (7200, false), (10800, true)]
    changes := [
      "0001!18MSy022t0116W2Gl013YW251013a0251013v024gW13v024gW1!0JobXW23Ny14-423bS14-823a4150y23a41",
      "4_S23a414_S23a414_S23a4150y23a414_S23a414_S23ba14zy20qO1yha22Iy14Ra237S1gAa20_01VB022e015QW2",
      "3Hy164a22dy15A423YS14x423SS15b422yy14ma23cy14x423nS14x423nS14u423fy14u423VS152a23fy152a23y01",
      "4c023y014c023y014x024Gy14Ra24Gy14H424Gy14H424Gy14H424Gy14H423y014c0242414CS244y14Ua23ta14dS2",
      "3hS14sa23nW14mW23Ey1!01CplC2!00eCYq10ha20kS14H4246W14RW24Gy14H424wy13ea24vW13ea255S13Sa255S1",
      "3Sa255S13bW24yS13d424x013d0254013VW254414H424Gy146a24RS13y424by13d424wy13d4255S13Sa255S13Sa2",
      "55S13d424wy13d424wy13d4255S13Sa255S13Sa255S13Sa255S13d424mS13na24by1"] },
  {
    names := ["Asia/Ho_Chi_Minh", "Asia/Saigon"]
    kinds := [(25620, false), (25200, false), (28800, false), (32400, false)]
    changes := ["!0HeoiA1!0xahjs2Iry340W1DW82!0FX3U01cZS2!0T3Yy01"] },
  {
    names := ["Asia/Hong_Kong", "Hongkong"]
    kinds := [(27420, false), (28800, false), (32400, true), (30600, true), (32400, false)]
    changes := [
      "!05QMEG1!14uysW22Y031_I4XO613cy25GE137W25QW13d024H013d024x013d024x013d024x013nW24x013d024wy1",
      "3I425Fy13I425QS137a25QS13I425Fy13I425Fy13I425Fy13I425QS137a25QS137a25QS13I425Fy13I425Fy13y42",
      "4Gy14H424Gy14H424RS14H424Gy14H424Gy14H424Gy14H424Gy14H424RS14H424Gy11f426uy14H424Gy14H424Gy1",
      "L_423nS1"] },
  {
    names := ["Asia/Hovd"]
    kinds := [(22020, false), (21600, false), (25200, false), (28800, true)]
    changes := [
      "!06q_oK1!28D-uC2ivy34IS24Ia34Gy24H434Gy24H434Gy24H434Gy24H434Gy24H434Gy24H434RS24H434Gy24H43",
      "4Gy24H434Gy24H434Gy24H434Gy24Ra34Gy24H434Gy24H434Gy2M8C33cy24H434Gy24H434Gy24H434Gy24H434Gy2",
      "4H434RS2!0F-4cG34Gq24HC34Gq2"] },
  {
    names := ["Asia/Irkutsk"]
    kinds := [
      (25020, false), (25200, false), (28800, false), (32400, true), (28800, true), (32400, false)]
    changes := [
      "!0Y4W-_1!0JaSDH2!1VWuvm34IS24H434IS24H434IS24Ia34H824H034H024H034H024H034H024H034H024H034H02",
      "4H034RW24H044H412e021ey34H024H034H024H034H024H034H024RW34x023d034x023d034x023d0355W23SW355W2",
      "3SW355W23d034x023d034x023d0355W23SW355W23SW355W23SW355W23d034x023d034x023d0355W23SW5UhS2"] },
  {
    names := ["Asia/Istanbul", "Europe/Istanbul", "Turkey"]
    kinds := [
      (6960, false), (7020, false), (7200, false), (10800, true), (10800, false), (14400, true)]
    changes := [
      "0001!0GY_MO2!0AW27833bS2Tt434yS23m434IS245434by2Dga33JS24-433bS2!0RlWwG32HS21K436uy24W43U8y2",
      "5Y432sy24ja33xy24c433xy24Ra346S24c4346S24c433xy2!0KGdiG3B3y24f433GS2!0GJrgW33d023Sa355S23Ga3",
      "5HS23I435Fy23d434by23y4323q4hZ851US49I423_033nW24IW34H024H034H024H034H024H034H024H034RW24H03",
      "4H024H034H024H034H0246W34RW24H034H024RW34x023d034x023d034x023d0355W23SW355W23SW355W23d034x02",
      "3d034x023d0355W23SW355W23SW355W23Se355W23d034x023d034x023d0355W23U0354023SW355W23d034x023eW3",
      "4vW23d035G023I033rm4"] },
  {
    names := ["Asia/Jakarta"]
    kinds := [
      (25620, false), (26400, false), (27000, false), (32400, false), (28800, false), (25200, false)]
    changes := ["!0fU8NW1!0GdbY02!0HgAKe3T_w2MIc4H6-2!0PjfY85"] },
  {
    names := ["Asia/Jayapura"]
    kinds := [(33780, false), (32400, false), (34200, false)]
    changes := ["!0w5i6O1!0MGVXO2!0aNEXu1"] }
  ]

def zoneEntries5 : List ZoneEntry := [
  {
    names := ["Asia/Jerusalem", "Asia/Tel_Aviv", "Israel"]
    kinds := [(8460, false), (7200, false), (10800, true), (14400, true)]
    changes := [
      "!0UC4M81!0gAObu22t0116W2Gl013YW251013a0251013v024gW13v024gW1DLW32NW21RW14FW24K013v023a014f02",
      "5G013nW24H0146W23d016PW228W16PW228W16F022oW14x023SW1!0Vb17W22Iy14Ra237S1gAa20_01VB022e015QW2",
      "3Hy164a22dy15A423YS14x423SS15b422yy14ma23cy14x423nS14x423nS14u423fy14u423VS152a23fy14Z424LS1",
      "4N4249S14Oa23-y14uC23cy15G4246O14La23xy14N424Vy142424RS14Oa23xy14Ue24US143a24Jy14E423-y14Z42",
      "4US143a24Jy14E423-y14ja24Jy14E4249S14Oa24zy13a424zy13a424zy13a4258S13Pa258S13Pa258S13a424zy1",
      "3a424zy13a4258S13Pa258S13Pa258S13a424zy13a424zy13a424zy13a4258S13Pa258S13Pa258S13a424zy13a42",
      "4zy13a4258S13Pa258S13Pa258S13Pa258S13a424zy13a424zy1"] },
  {
    names := ["Asia/Kabul"]
    kinds := [(16620, false), (14400, false), (16200, false)]
    changes := ["0001!1G-TT02"] },
  {
    names := ["Asia/Kamchatka"]
    kinds := [(38100, false), (39600, false), (43200, false), (46800, true), (43200, true)]
    changes := [
      "!0dKfR41!0EKGGC2!1VWuvm34IS24H434IS24H434IS24Ia34H824H034H024H034H024H034H024H034H024H034H02",
      "4H034RW24H044H412e021ey34H024H034H024H034H024H034H024RW34x023d034x023d034x023d0355W23SW355W2",
      "3SW355W23d034x023d034x023d0355W23SW355W23SW355W23SW355W23d034x023d034x023d0455a13SW2"] },
  {
    names := ["Asia/Karachi"]
    kinds := [(16080, false), (19800, false), (23400, true), (18000, false), (21600, true)]
    changes := ["!09Vloa1!135ZO42Qjy1p043!1V1cK844Gy3mPa43bS33ta44hy3"] },
  {
    names := ["Asia/Kashgar", "Asia/Urumqi"]
    kinds := [(21000, false), (21600, false)]
    changes := ["!0m_hfa1"] },
  {
    names := ["Asia/Kathmandu", "Asia/Katmandu"]
    kinds := [(20460, false), (19800, false), (20700, false)]
    changes := ["!0Xyds41!1y9RCa2"] },
  {
    names := ["Asia/Khandyga"]
    kinds := [
      (32520, false), (28800, false), (32400, false), (36000, true), (32400, true), (36000, false),
      (39600, true), (39600, false)]
    changes := [
      "!0Xs-Jh1!0Jn-0L2!1VWuvm34IS24H434IS24H434IS24Ia34H824H034H024H034H024H034H024H034H024H034H02",
      "4H034RW24H044H412e021ey34H024H034H024H034H024H034H024RW34x023d034x023d034x023d0355W23SW355W2",
      "3SW355W23d034x023d034x021aO522a655W53SW655W53SW655W53SW655W53d064x053d064x053d0655W53SW73-q5",
      "Qii2"] },
  {
    names := ["Asia/Krasnoyarsk"]
    kinds := [
      (22260, false), (21600, false), (25200, false), (28800, true), (25200, true), (28800, false)]
    changes := [
      "!0X-Gto1!0JgjCk2!1VWuvm34IS24H434IS24H434IS24Ia34H824H034H024H034H024H034H024H034H024H034H02",
      "4H034RW24H044H412e021ey34H024H034H024H034H024H034H024RW34x023d034x023d034x023d0355W23SW355W2",
      "3SW355W23d034x023d034x023d0355W23SW355W23SW355W23SW355W23d034x023d034x023d0355W23SW5UhS2"] },
  {
    names := ["Asia/Kuala_Lumpur"]
    kinds := [
      (24420, false), (24900, false), (25200, false), (26400, true), (26400, false), (27000, false),
      (32400, false), (28800, false)]
    changes := ["0001!06WuMZ2!0puyZj3!05evNG4mX05!00tNce6UZw5!14IO0G7"] },
  {
    names := ["Asia/Kuching"]
    kinds := [(26460, false), (27000, false), (28800, false), (30000, true), (32400, false)]
    changes := [
      "!0jYWQG1!0CtK3u2N6-3!00T_FG2!01Qf4m3!00T_FG2!01QJ-m3!00T_FG2!01QJ-m3!00T_FG2!01QJ-m3!00T_FG2",
      "!01Qf4m3!00T_FG2!01QJ-m3!00T_FG2!00L6Im4UZy2"] },
  {
    names := ["Asia/Kuwait"]
    kinds := [(11520, false), (10800, false)]
    changes := ["!1QOJM41"] },
  {
    names := ["Asia/Macao", "Asia/Macau"]
    kinds := [(27240, false), (28800, false), (32400, false), (36000, true), (32400, true)]
    changes := [
      "!05QLkE1!15tXfY232y34jS23s433bS2H8e14-043bW14jW45HW13d044H013bW44x013d044x013d044yW13m044x01",
      "3d044x013I045G013I045QW137W45Qk13I445Fy13I445Fy13I445Fy13I445QS137a45QS137a45QS13I445Fy13I44",
      "5Fy13y444Gu14H844Gu14H844RS14H444Gy14H444Gy14H444Gy14H444Gy14H444RS14H444Gy11f446uy14H444Gy1",
      "4H444Gy1L_443nS1"] },
  {
    names := ["Asia/Magadan"]
    kinds := [
      (36180, false), (36000, false), (39600, false), (43200, true), (39600, true), (43200, false)]
    changes := [
      "!0g6JQW1!0BYd902!1VWuvm34IS24H434IS24H434IS24Ia34H824H034H024H034H024H034H024H034H024H034H02",
      "4H034RW24H044H412e021ey34H024H034H024H034H024H034H024RW34x023d034x023d034x023d0355W23SW355W2",
      "3SW355W23d034x023d034x023d0355W23SW355W23SW355W23SW355W23d034x023d034x023d0355W23SW5UhS1Cp82"] },
  {
    names := ["Asia/Makassar", "Asia/Ujung_Pandang"]
    kinds := [(28680, false), (28800, false), (32400, false)]
    changes := ["!0w5jMG1!0HSKVm2U-y1"] },
  {
    names := ["Asia/Manila"]
    kinds := [(-57360, false), (28800, false), (32400, true), (32400, false)]
    changes := ["0001!11dFI021ny1g4a21My3QA026O01!0FkbCG21Gy1!0gwA0G24Ay1!0Nq2OG21dS1"] },
  {
    names := ["Asia/Muscat"]
    kinds := [(14040, false), (14400, false)]
    changes := ["!0XyfQG1"] },
  {
    names := ["Asia/Nicosia", "Europe/Nicosia"]
    kinds := [(7980, false), (7200, false), (10800, true)]
    changes := [
      "!0bTnwu1!1aTf4e24Gy154423VS1454246S14Ra24IS14Fa24Gy14Ra246S14H424Gy14H424Gy14H424Gy14H424RS1",
      "4H424Gy14H424Gy14H424Gy14H424Gy14H424Gy14H424RS14H424Gy14H424Gy14H424Gy14H424Gy14H424Gy14Ra2",
      "4Gy14H424Gy14H424xC13d0255W13SW255W13SW255W13d024x013d024x013d0255W13SW255W13SW255W13SW255W1",
      "3d024x013d024x013d0255W13SW255W13SW255W13d024x013d024x013d024x013d0255W13SW255W13SW255W13d02",
      "4x013d024x013d0255W13SW255W13SW255W13d024x013d024x013d024x013d0255W13SW255W13SW255W13d024x01",
      "3d024x013d0255W13SW255W13SW255W13SW255W13d024x013d024x01"] },
  {
    names := ["Asia/Novokuznetsk"]
    kinds := [(20940, false), (21600, false), (25200, false), (28800, true), (25200, true)]
    changes := [
      "!0g62301!0BYy1W2!1VWuvm34IS24H434IS24H434IS24Ia34H824H034H024H034H024H034H024H034H024H034H02",
      "4H034RW24H044H412e021ey34H024H034H024H034H024H034H024RW34x023d034x023d034x023d0355W23SW355W2",
      "3SW355W23d034x023d034x023d0355W23SW355W23SW355W23SW355W23d034x023d034x023d0455a13SW2"] },
  {
    names := ["Asia/Novosibirsk"]
    kinds := [(19920, false), (21600, false), (25200, false), (28800, true), (25200, true)]
    changes := [
      "!0Xsnaa1!0JoCVy2!1VWuvm34IS24H434IS24H434IS24Ia34H824H034H024H034H024H034H024H034H024H034H02",
      "4H034RW24H044H412e021ey34H024H031Jq42zG14H044H014H044H014RW44x013d044x013d044x013d0455W13SW4",
      "55W13SW455W13d044x013d044x013d0455W13SW455W13SW455W13SW455W13d044x013d044x013d0455W13SW2UhS1",
      "Exa2"] },
  {
    names := ["Asia/Omsk"]
    kinds := [
      (17640, false), (18000, false), (21600, false), (25200, true), (21600, true), (25200, false)]
    changes := [
      "!0Xiq2s1!0JyAvw2!1VWuvm34IS24H434IS24H434IS24Ia34H824H034H024H034H024H034H024H034H024H034H02",
      "4H034RW24H044H412e021ey34H024H034H024H034H024H034H024RW34x023d034x023d034x023d0355W23SW355W2",
      "3SW355W23d034x023d034x023d0355W23SW355W23SW355W23SW355W23d034x023d034x023d0355W23SW5UhS2"] },
  {
    names := ["Asia/Oral"]
    kinds := [
      (12300, false), (10800, false), (18000, false), (21600, true), (21600, false), (18000, true),
      (14400, false)]
    changes := [
      "!0g6PFS1!0BYdTq2!1VWu1W34IS44H034IW24H434IS24Ia34H824H034H024H034H024H034H024H034H024H054H46",
      "4H054RW64H054H062e021ey54H464H054H064H054H064H054H064RW54x063d054x063d054x063d0555W63SW555W6",
      "3SW555W63d054x063d054x063d0555W2"] },
  {
    names := ["Asia/Phnom_Penh"]
    kinds := [(25200, false), (25620, false), (28800, false), (32400, false)]
    changes := ["!08Z4Ka1!095kNc0!0xahjs2Iry340W0"] },
  {
    names := ["Asia/Pontianak"]
    kinds := [(26220, false), (27000, false), (32400, false), (28800, false), (25200, false)]
    changes := ["!0w5jy01!0HOiK82VFQ1MIc3H6-1!0PjfY83!0j9BNu4"] },
  {
    names := ["Asia/Pyongyang"]
    kinds := [(30180, false), (30600, false), (32400, false)]
    changes := ["!0Br_6S1!073YLS2!32v-ju1NJ02"] },
  {
    names := ["Asia/Qatar"]
    kinds := [(12360, false), (14400, false), (10800, false)]
    changes := ["!0Xyfqm1!1Yb_MG2"] },
  {
    names := ["Asia/Qostanay"]
    kinds := [
      (15240, false), (14400, false), (18000, false), (21600, true), (21600, false), (18000, true)]
    changes := [
      "!0g6OXS1!0BYdJa2!1VWuvm34IS44H034IW24H434IS24Ia34H824H034H024H034H024H034H024H034H024H034H02",
      "4H034RW24H054H412e021ey34H024H034H024H034H024H034H024RW34x023d034x023d034x023d0355W23SW355W2",
      "3SW355W23d034x023d034x023d0355W4!0aNCLG2"] },
  {
    names := ["Asia/Qyzylorda"]
    kinds := [(15720, false), (14400, false), (18000, false), (21600, true), (21600, false)]
    changes := [
      "!0g6OQW1!0BYdQW2!1VWuvm34IS44H034IW24H434IS24Ia34H824H034H024H034H024H034H024H034H024H034H02",
      "4H034RW2BA041ey34H424H034H024H034H024H034H024RW34x023d034x023d034x023d0355W23SW355W23SW355W2",
      "3d034x023d034x023d0355W4!0QbzVG2"] },
  {
    names := ["Asia/Rangoon", "Asia/Yangon"]
    kinds := [(23100, false), (23400, false), (32400, false)]
    changes := ["!0XydDH1!0g08Z72Pks1"] },
  {
    names := ["Asia/Riyadh"]
    kinds := [(11220, false), (10800, false)]
    changes := ["!1L6pQq1"] },
  {
    names := ["Asia/Sakhalin"]
    kinds := [
      (34260, false), (32400, false), (39600, false), (43200, true), (39600, true), (36000, false)]
    changes := [
      "!06yCsu1!1BF-Ku2!12zeHW34IS24H434IS24H434IS24Ia34H824H034H024H034H024H034H024H034H024H034H02",
      "4H034RW24H044H452e021ey34H024H034H024H034H024H034H024RW34x023d044x453d044x053d0455W53SW455W5",
      "3SW455W53d044x053d044x053d0455W53SW455W53SW455W53SW455W53d044x053d044x053d0455W53SW2UhS5C942"] },
  {
    names := ["Asia/Samarkand"]
    kinds := [(16080, false), (14400, false), (18000, false), (21600, true), (21600, false)]
    changes := [
      "!0g6OKt1!0BYdW92!1VWuvm34IS44H034IW24H434IS24Ia34H824H034H024H034H024H034H024H034H024H034H02",
      "4H034RW24H034H02"] },
  {
    names := ["Asia/Seoul", "ROK"]
    kinds := [(30480, false), (30600, false), (32400, false), (36000, true), (34200, true)]
    changes := [
      "!0Br_1u1!073YQ02!14VtXu32Ry24l433nS24l433oy25b432yy2Lg419d242-S15z4437S155a43Hy15G443Hy15G44",
      "3Hy15G443Hy17f42!0mRUyO33d024x033d02"] },
  {
    names := ["Asia/Singapore", "Singapore"]
    kinds := [
      (24900, false), (25200, false), (26400, true), (26400, false), (27000, false), (32400, false),
      (28800, false)]
    changes := ["!06WuMZ1!0puyZj2!05evNG3mX04!00tNce5UZw4!14IO0G6"] },
  {
    names := ["Asia/Srednekolymsk"]
    kinds := [
      (36900, false), (36000, false), (39600, false), (43200, true), (39600, true), (43200, false)]
    changes := [
      "!0g6JFa1!0BYdJy2!1VWuvm34IS24H434IS24H434IS24Ia34H824H034H024H034H024H034H024H034H024H034H02",
      "4H034RW24H044H412e021ey34H024H034H024H034H024H034H024RW34x023d034x023d034x023d0355W23SW355W2",
      "3SW355W23d034x023d034x023d0355W23SW355W23SW355W23SW355W23d034x023d034x023d0355W23SW5UhS2"] },
  {
    names := ["Asia/Taipei", "ROC"]
    kinds := [(29160, false), (28800, false), (32400, false), (32400, true)]
    changes := [
      "0001!13LKc02!0E_n0015Y033GS14c434hy14H433bS14-433bS14-433bS14-433bS13a435lS13Ya350y13Ya350y1",
      "3Ya34IS14Ia34IS14H434IS14H434IS14H434IS15k432sy15ia32sy1!0NWbsG34IS14H434IS1W5a329y1"] },
  {
    names := ["Asia/Tashkent"]
    kinds := [(16620, false), (18000, false), (21600, false), (25200, true), (21600, true)]
    changes := [
      "!0g6OC91!0BYcmd2!1VWuvm34IS24H434IS24H434IS24Ia34H824H034H024H034H024H034H024H034H024H034H02",
      "4H034RW24H044H41"] },
  {
    names := ["Asia/Tbilisi"]
    kinds := [(10740, false), (10800, false), (14400, false), (18000, true), (14400, true)]
    changes := [
      "!0g6Pe11!0zm79F2!0jJOrm34IS24H434IS24H434IS24Ia34H824H034H024H034H024H034H024H034H024H034H02",
      "4H034RW24H044H414Gu44Gy14H444Gy14H444Gy24H034Gy24Ra3DSy23d434wy23d4355S23Sa355S23Sa355S23d43",
      "4wy23d434wy23d4328S42zG13SW2"] },
  {
    names := ["Asia/Tehran", "Iran"]
    kinds := [(12360, false), (12600, false), (16200, true), (14400, false), (18000, true)]
    changes := [
      "!0_0Cn81!1EatVm24_W33eY437W32J014dY22iS14K424My1!0Jys4G23Ky14H424Jy14Fa24Jy14Fa24Jy14Fa24Jy1",
      "4Fa24Jy14H424Jy14Fa24Jy14Fa24Jy14Fa24Jy14H424Jy14Fa24Jy14Fa24Jy14Fa24Jy14H424Jy1LMa24Jy14H42",
      "4Jy14Fa24Jy14Fa24Jy14Fa24Jy14H424Jy14Fa24Jy14Fa24Jy14Fa24Jy14H424Jy14Fa24Jy14Fa24Jy14Fa24Jy1",
      "4H424Jy14Fa24Jy1"] },
  {
    names := ["Asia/Thimbu", "Asia/Thimphu"]
    kinds := [(21540, false), (19800, false), (21600, false)]
    changes := ["!1LvXLq1!1BUpWq2"] },
  {
    names := ["Asia/Tokyo", "Japan"]
    kinds := [(33540, false), (32400, false), (36000, true)]
    changes := ["0001!1NFW9m237W14mW23nW15b022z015b022z01"] },
  {
    names := ["Asia/Tomsk"]
    kinds := [(20400, false), (21600, false), (25200, false), (28800, true), (25200, true)]
    changes := [
      "!0XvKxP1!0Jlf972!1VWuvm34IS24H434IS24H434IS24Ia34H824H034H024H034H024H034H024H034H024H034H02",
      "4H034RW24H044H412e021ey34H024H034H024H034H024H034H024RW34x023d034x023d034x023d0355W23SW355W2",
      "3SW355W23d030kW44Ca13d044x013d0455W13SW455W13SW455W13SW455W13d044x013d044x013d0455W13SW2UhS1",
      "Dda2"] },
  {
    names := ["Asia/Ust-Nera"]
    kinds := [
      (34380, false), (28800, false), (32400, false), (43200, true), (39600, false), (39600, true),
      (36000, false), (43200, false)]
    changes := [
      "!0Xszsw1!0Jn-T62!1VWuvm34IK44H434IS44H434IS44Ia34H844H034H044H034H044H034H044H034H044H034H04",
      "4H034RW44H054H462e041ey34H044H034H044H034H044H034H044RW34x043d034x043d034x043d0355W43SW355W4",
      "3SW355W43d034x043d034x043d0355W43SW355W43SW355W43SW355W43d034x043d034x043d0355W43SW73-q4Qii6"] },
  {
    names := ["Asia/Vientiane"]
    kinds := [(24600, false), (25620, false), (25200, false), (28800, false), (32400, false)]
    changes := ["!08Z4TG1!095kEw2!0xahjs3Iry440W2DW83!0F7gNm2"] },
  {
    names := ["Asia/Vladivostok"]
    kinds := [
      (31680, false), (32400, false), (36000, false), (39600, true), (36000, true), (39600, false)]
    changes := [
      "!0dMKTT1!0EIc-J2!1VWuvm34IS24H434IS24H434IS24Ia34H824H034H024H034H024H034H024H034H024H034H02",
      "4H034RW24H044H412e021ey34H024H034H024H034H024H034H024RW34x023d034x023d034x023d0355W23SW355W2",
      "3SW355W23d034x023d034x023d0355W23SW355W23SW355W23SW355W23d034x023d034x023d0355W23SW5UhS2"] },
  {
    names := ["Asia/Yakutsk"]
    kinds := [
      (31140, false), (28800, false), (32400, false), (36000, true), (32400, true), (36000, false)]
    changes := [
      "!0Xs-fU1!0JnzgY2!1VWuvm34IS24H434IS24H434IS24Ia34H824H034H024H034H024H034H024H034H024H034H02",
      "4H034RW24H044H412e021ey34H024H034H024H034H024H034H024RW34x023d034x023d034x023d0355W23SW355W2",
      "3SW355W23d034x023d034x023d0355W23SW355W23SW355W23SW355W23d034x023d034x023d0355W23SW5UhS2"] },
  {
    names := ["Asia/Yekaterinburg"]
    kinds := [
      (14580, false), (13500, false), (14400, false), (18000, false), (21600, true), (18000, true),
      (21600, false)]
    changes := [
      "!0RNmad1!05iwZO2!0KaKj13!1VWuvm44IS34H444IS34H444IS34Ia44H834H044H034H044H034H044H034H044H03",
      "4H044H034H044RW34H054H422e031ey44H034H044H034H044H034H044H034RW44x033d044x033d044x033d0455W3",
      "3SW455W33SW455W33d044x033d044x033d0455W33SW455W33SW455W33SW455W33d044x033d044x033d0455W33SW6",
      "UhS3"] },
  {
    names := ["Asia/Yerevan"]
    kinds := [(10680, false), (10800, false), (14400, false), (18000, true), (14400, true)]
    changes := [
      "!0g6Pf81!0zm7882!0jJOrm34IS24H434IS24H434IS24Ia34H824H034H024H034H024H034H024H034H024H034H02",
      "4H034RW24H044H414H044H014H044H014H044H014H044H02CzS34x023d034x023d0355W23SW355W23SW355W23d03",
      "4x023d034x023d0355W23SW355W23SW355W23SW355W23d034x023d034x023d0355W23SW355W2"] },
  {
    names := ["Atlantic/Azores"]
    kinds := [
      (-6180, false), (-6900, false), (-7200, false), (-3600, true), (0, true), (-3600, false),
      (0, false), (3600, true)]
    changes := [
      "0001!0IvggW2cCy33C422q035Ly23Da35Ly23Da35Ly23F435Ly23Da35Ly2LSW340W2D8033y024RW346W24c0346W2",
      "4c033y02D8033y024H034H02CzW34H0246W34RW24c033y024H034H0246W34RW24c0355W22J035J024E034IW23m03",
      "0-y42e031f423I030qS437W31Ua237W30-y42z031Ua237W30-y42z031Ua23nW34H024HC34H024H034H024H034H02",
      "4H034H024H034RW24H034H024H034H024H034H024H034H024H034RW24H034H024H034H024H034H024H034H024H03",
      "4H024H034RW24H034H024H034H024H034H024H034H05!0T87dG44H054H044H054H044RW54H044H054H044H054H04",
      "4H054H044H054H044H054H044RW54H044H054H044H0528a628S71vW42NW54H044H054H044H054RW44x053d044x05",
      "3d044x053d0455W53SW455W53SW455W53d044x053d044x053d0455W53SW455W53SW455W53SW455W53d044x053d04",
      "4x053d0455W53SW455W53SW455W53d044x053d044x053d044x053d0455W53SW455W53SW455W53d044x053d044x05",
      "3d0455W53SW455W53SW455W53d044x053d044x053d044x053d0455W53SW455W53SW455W53d044x053d044x053d04",
      "55W53SW455W53SW455W53SW455W53d044x053d044x05"] },
  {
    names := ["Atlantic/Bermuda"]
    kinds := [(-15540, false), (-11940, true), (-14400, false), (-10800, true)]
    changes := [
      "!0SpAv614Ay04aa13eS0!0LFcMm2!0MduZw36Zy23d435Fy237a35ay22z435ay2D8432oS25w432TS264a32TS26F43",
      "2Iy26F432Iy26F432TS2Vr433cy2!0WwR2G34Gy24H434Gy24H434RS246a34RS24H434Gy24H434Gy24H434Gy24H43",
      "4Gy24H434RS246a34RS24H434Gy24H434Gy24H434Gy23na34mS23na34wy23d434wy23d434wy23na34mS23na34mS2",
      "3na34wy23d434wy23d434wy23na34mS23na34mS23na34mS23na34wy23d434wy23d434wy23na34mS23na34mS23na3",
      "4wy23d434wy23d434wy237a35ay22z435ay22z435ay237a35ay22z435ay22z435ay22z435ay22z435ay22z435ay2",
      "37a35ay22z435ay22z435ay22z435ay22z435ay237a35ay22z435ay22z435ay22z435ay22z435ay22z435ay237a3",
      "5ay22z435ay22z435ay22z435ay22z435ay237a35ay22z435ay22z435ay22z435ay22z435ay22z435ay2"] },
  {
    names := ["Atlantic/Canary"]
    kinds := [(-3720, false), (-3600, false), (0, false), (3600, true)]
    changes := [
      "!0c15pm1!0kFPem2!0_2pxW346a24H034H024H034H024H034H024H034RW24H034H024H034H024H034H024H034H02",
      "4H034H024H034RW24H034H024H034H024H034H024H034H024H034H024RW34x023d034x023d034x023d0355W23SW3",
      "55W23SW355W23d034x023d034x023d0355W23SW355W23SW355W23SW355W23d034x023d034x023d0355W23SW355W2",
      "3SW355W23d034x023d034x023d034x023d0355W23SW355W23SW355W23d034x023d034x023d0355W23SW355W23SW3",
      "55W23d034x023d034x023d034x023d0355W23SW355W23SW355W23d034x023d034x023d0355W23SW355W23SW355W2",
      "3SW355W23d034x023d034x02"] },
  {
    names := ["Atlantic/Cape_Verde"]
    kinds := [(-5640, false), (-7200, false), (-3600, true), (-3600, false)]
    changes := ["!0IvggW1!0vhl602Qjy1!0uetim3"] },
  {
    names := ["Atlantic/Faeroe", "Atlantic/Faroe"]
    kinds := [(-1620, false), (0, false), (3600, true)]
    changes := [
      "!0BRQHO1!29jaSu24H014H024H014H024H014H024RW14H024H014H024H014H024H014H024H014H024H014H024RW1",
      "4H024H014H024H014H024H014H024H014H024H014RW24x013d024x013d024x013d0255W13SW255W13SW255W13d02",
      "4x013d024x013d0255W13SW255W13SW255W13SW255W13d024x013d024x013d0255W13SW255W13SW255W13d024x01",
      "3d024x013d024x013d0255W13SW255W13SW255W13d024x013d024x013d0255W13SW255W13SW255W13d024x013d02",
      "4x013d024x013d0255W13SW255W13SW255W13d024x013d024x013d0255W13SW255W13SW255W13SW255W13d024x01",
      "3d024x01"] },
  {
    names := ["Atlantic/Madeira"]
    kinds := [(-4080, false), (-3600, false), (0, true), (3600, true), (0, false)]
    changes := [
      "!0IvfoG1cCy23C412q025Ly13Da25Ly13Da25Ly13F425Ly13Da25Ly1LSW240W1D8023y014RW246W14c0246W14c02",
      "3y01D8023y014H024H01CzW24H0146W24RW14c023y014H024H0146W24RW14c0255W12J025J014E024IW13m020-y3",
      "2e021f413I020qS337W21Ua137W20-y32z021Ua137W20-y32z021Ua13nW24H014HC24H014H024H014H024H014H02",
      "4H014H024RW14H024H014H024H014H024H014H024H014H024RW14H024H014H024H014H024H014H024H014H024H01",
      "4H024RW14H024H014H024H014H024H014H024H04!0TARHG346W44H034H044H034RW44H034H044H034H444H034H04",
      "4H034H044H034H044H034RW44H034H044H034H044H034H044H034H044H034H044RW34x043d034x043d034x043d03",
      "55W43SW355W43SW355W43d034x043d034x043d0355W43SW355W43SW355W43SW355W43d034x043d034x043d0355W4",
      "3SW355W43SW355W43d034x043d034x043d034x043d0355W43SW355W43SW355W43d034x043d034x043d0355W43SW3",
      "55W43SW355W43d034x043d034x043d034x043d0355W43SW355W43SW355W43d034x043d034x043d0355W43SW355W4",
      "3SW355W43SW355W43d034x043d034x04"] },
  {
    names := ["Atlantic/Reykjavik", "Iceland"]
    kinds := [(-5280, false), (-3600, false), (0, true), (0, false)]
    changes := [
      "!0BO8EW1!0HC9fW25ia12sy26Ja12Fy26Ja1BUy22Ea1!0XawNm24H812oa25vy12oW25lW12z025QW137W25QW137W2",
      "5QW137W25b012z025b013nW24mW13nW24mW13nW24x013d024mW13nW24x013nW24mW13nW24mW13nW24mW13nW24mW1",
      "3nW24x013nW24mW13nW24mW13nW24mW13nW24mW13nW24mW13nW24x013nW24mW13nW24mW13nW24mW13nW24mW13nW2",
      "4x013nW3"] },
  {
    names := ["Atlantic/South_Georgia"]
    kinds := [(-8760, false), (-7200, false)]
    changes := ["0001"] },
  {
    names := ["Atlantic/St_Helena"]
    kinds := [(-1380, false), (0, false)]
    changes := ["!1SGfjO1"] },
  {
    names := ["Atlantic/Stanley"]
    kinds := [(-13860, false), (-14400, false), (-10800, true), (-10800, false), (-7200, true)]
    changes := [
      "!0JH5yy1!0m2lk4246S14Ra246S14c4246S14Ra246S14Ra246S14Ra22Fy1!1BstqG33SS455S33I445Fy33I4255W1",
      "3Sa255S13Sa255S13Sa255S13Sa25Fy13I425Fy13Sa255S13Sa255S13Sa255S13Sa255S13Sa25Fy13Sa255S13Sa2",
      "55S13Sa255S13Sa255S13Sa255a13I425QS137a25QS13I425Fy13I425Fy13I425Fy13I425Fy13I425QS13I425Fy1",
      "3I425Fy13I43"] },
  {
    names := ["Australia/ACT", "Australia/Canberra", "Australia/NSW", "Australia/Sydney"]
    kinds := [(36300, false), (36000, false), (39600, true)]
    changes := [
      "0001!0SJiA021yW1!0kc8G0222W14H024H014RW246W1!0pwH0022oW15lW22z015b022z015b022z015b0237W15b02",
      "2z015b022z015b022z015b022z015b022z015b023nW14x022z015b022z015b022z015b023I0155W23SW15G023SW1",
      "5G023I015G022z015b022z015b022z015b0237W15b022z015b022z015b023d014x023d014x023d014x023d0155W2",
      "3SW13d024x0155W23d014x023d014x023d0155W23SW155W23d014x023SW155W23nW14H024H014H024H014H024H01",
      "4H024H014RW24H014H024H014H024H014H024H014H024H014H024H014RW24H014H024H014H024H014H024H014H02",
      "4H014H024RW14H024H014H024H014H024H014H024H014H024H014RW24H014H024H014H024H014H024H014H024H01",
      "4H024H014RW24H014H024H014H02"] },
  {
    names := ["Australia/Adelaide", "Australia/South"]
    kinds := [(33240, false), (34200, false), (37800, true)]
    changes := [
      "0001!0SJic821yW1!0kc8G0222W14H024H014RW246W1!0pwH0022oW15lW22z015b022z015b022z015b0237W15b02",
      "2z015b022z015b022z015b022z015b022z015b0237W15b022z015b022z015b022z015b023I0155W23SW15G023SW1",
      "5G023I015G023I015G022z015b023SW155W237W15b023I015G023SW155W23d014x023d014x023d014x023d0155W2",
      "3SW155W23SW155W23d014x023d014x023d0155W23SW155W23d014x023SW155W23nW14H024H014H024H014H024H01",
      "4H024H014RW24H014H024H014H024H014H024H014H024H014H024H014RW24H014H024H014H024H014H024H014H02",
      "4H014H024RW14H024H014H024H014H024H014H024H014H024H014RW24H014H024H014H024H014H024H014H024H01",
      "4H024H014RW24H014H024H014H02"] },
  {
    names := ["Australia/Brisbane", "Australia/Queensland"]
    kinds := [(36720, false), (36000, false), (39600, true)]
    changes := ["0001!0SJiA021yW1!0kc8G0222W14H024H014RW246W1!0pwH0022oW1!0XFB4022z015b022z015b022z01"] }
  ]

def zoneEntries6 : List ZoneEntry := [
  {
    names := ["Australia/Broken_Hill", "Australia/Yancowinna"]
    kinds := [(33960, false), (34200, false), (37800, true)]
    changes := [
      "0001!0SJic821yW1!0kc8G0222W14H024H014RW246W1!0pwH0022oW15lW22z015b022z015b022z015b0237W15b02",
      "2z015b022z015b022z015b022z015b022z015b023nW14x022z015b022z015b022z015b023I0155W23SW15G023SW1",
      "5G023I015G022z015b022z015b022z015b0237W15b022z015b022z015b023d014x023d014x023d014x023d0155W2",
      "3SW155W23SW155W23d014x023d014x023d0155W23SW155W23d014x023SW155W23nW14H024H014H024H014H024H01",
      "4H024H014RW24H014H024H014H024H014H024H014H024H014H024H014RW24H014H024H014H024H014H024H014H02",
      "4H014H024RW14H024H014H024H014H024H014H024H014H024H014RW24H014H024H014H024H014H024H014H024H01",
      "4H024H014RW24H014H024H014H02"] },
  {
    names := ["Australia/Currie", "Australia/Hobart", "Australia/Tasmania"]
    kinds := [(35340, false), (36000, false), (39600, true)]
    changes := [
      "0001!0RrNY0246W155W22z015b022z01!0gz6-0222W14H024H014RW246W1!0iEsE024H014x0237W15QW237W15QW2",
      "3I015QW22oW15lW22z015b022z015b022z015b0237W15b022z015b022z015b022z015b022z015b022z015b023d01",
      "55W23SW155W22z015b022z015b022z015QW23SW15G023SW15G023I015G023I015G023d014RW246W14RW246W14RW2",
      "46W14RW246W14RW24H014RW246W14RW246W14RW246W14RW246W13d024x014c0246W14RW246W14RW246W14RW246W1",
      "4RW24H014H0246W14c024H014H024H014H024H014H024H014H024H014RW24H014H024H014H024H014H024H014H02",
      "4H014H024H014RW24H014H024H014H024H014H024H014H024H014H024RW14H024H014H024H014H024H014H024H01",
      "4H024H014RW24H014H024H014H024H014H024H014H024H014H024H014RW24H014H024H014H02"] },
  {
    names := ["Australia/Darwin", "Australia/North"]
    kinds := [(31380, false), (34200, false), (37800, true)]
    changes := ["0001!0SJic821yW1!0kc8G0222W14H024H014RW246W1"] },
  {
    names := ["Australia/Eucla"]
    kinds := [(30900, false), (31500, false), (35100, true)]
    changes := [
      "0001!0SJjGK21yW1!0kc8G0222W14H024H01!0xQ9W022z01!0GIqe022z01!0EVTq022TW1!0RmVK022e0155W23d01",
      "4x023d01"] },
  {
    names := ["Australia/LHI", "Australia/Lord_Howe"]
    kinds := [(38160, false), (36000, false), (37800, false), (41400, true), (39600, true)]
    changes := [
      "0001!2K_cRW25b6337S25b432yy25b432yy25b432yy25b443H-255Y43SU25G243SU25G243H-25G242y-25b242y-2",
      "5b242y-25b2437U25b242y-25b242y-25b243c-24x243c-24x243c-24x243c-255Y43SU23d244w-255Y43c-24x24",
      "3c-24x243c-255Y43SU255Y43c-24x243SU255Y43nU24H244G-24H244G-24H244G-24H244G-24RY44G-24H244G-2",
      "4H244G-24H244G-24H244G-24H244G-24RY44G-24H244G-24H244G-24H244G-24H244G-24H244RU24H244G-24H24",
      "4G-24H244G-24H244G-24H244G-24RY44G-24H244G-24H244G-24H244G-24H244G-24H244G-24RY44G-24H244G-2",
      "4H24"] },
  {
    names := ["Australia/Lindeman"]
    kinds := [(35760, false), (36000, false), (39600, true)]
    changes := [
      "0001!0SJiA021yW1!0kc8G0222W14H024H014RW246W1!0pwH0022oW1!0XFB4022z015b022z015b022z015b0237W1",
      "5b022z01"] },
  {
    names := ["Australia/Melbourne", "Australia/Victoria"]
    kinds := [(34800, false), (36000, false), (39600, true)]
    changes := [
      "0001!0SJiA021yW1!0kc8G0222W14H024H014RW246W1!0pwH0022oW15lW22z015b022z015b022z015b0237W15b02",
      "2z015b022z015b022z015b022z015b022z015b0237W15b022z015b022z015b022z015b023I0155W23SW155W23d01",
      "5G023I015G023I015G022z015b022z015b0237W15b022z015b023SW155W23d014x023d014x023d014x023d0155W2",
      "3SW13d024x0155W23d014x023d014x023d0155W23SW155W23d014x023SW155W23nW14H024H014H024H014H024H01",
      "4H024H014RW24H014H024H014H024H014H024H014H024H014H024H014RW24H014H024H014H024H014H024H014H02",
      "4H014H024RW14H024H014H024H014H024H014H024H014H024H014RW24H014H024H014H024H014H024H014H024H01",
      "4H024H014RW24H014H024H014H02"] },
  {
    names := ["Australia/Perth", "Australia/West"]
    kinds := [(27780, false), (28800, false), (32400, true)]
    changes := [
      "0001!0SJjwW21yW1!0kc8G0222W14H024H01!0xQ9W022z01!0GIqe022z01!0EVTq022TW1!0RmVK022e0155W23d01",
      "4x023d01"] },
  {
    names := ["CET", "MET"]
    kinds := [(3600, false), (7200, true)]
    changes := [
      "!0R31TW13ba04de13d004x013d00!0eXDe01M9W03SW14RW04H014H004H013wW0!0xLYC0146W04RW14H004H014H00",
      "4RW146W04H014H004H014H004H014H004H014RW04H014H004H014H004H014H004H014H004H014H004H014RW04H01",
      "4H004H014H004H014H004H014H004H014H004RW14x003d014x003d014x003d0155W03SW155W03SW155W03d014x00",
      "3d014x003d0155W03SW155W03SW155W03SW155W03d014x003d014x003d0155W03SW155W03SW155W03d014x003d01",
      "4x003d014x003d0155W03SW155W03SW155W03d014x003d014x003d0155W03SW155W03SW155W03d014x003d014x00",
      "3d014x003d0155W03SW155W03SW155W03d014x003d014x003d0155W03SW155W03SW155W03SW155W03d014x003d01",
      "4x00"] },
  {
    names := ["CST6CDT"]
    kinds := [(-21600, false), (-18000, true)]
    changes := [
      "!0UfYo014wy03d414wy0!0fxYCG1V9S0!0ebrqG14Gy04H414Gy04H414Gy04H414Gy04H414RS04H414Gy04H414Gy0",
      "1f416uy02oa15lS04H414RS046a14RS04H414Gy04H414Gy04H414Gy04H414Gy04H414RS046a14RS04H414Gy04H41",
      "4Gy04H414Gy03na14mS03na14wy03d414wy03d414wy03na14mS03na14mS03na14wy03d414wy03d414wy03na14mS0",
      "3na14mS03na14mS03na14wy03d414wy03d414wy03na14mS03na14mS03na14wy03d414wy03d414wy037a15ay02z41",
      "5ay02z415ay037a15ay02z415ay02z415ay02z415ay02z415ay02z415ay037a15ay02z415ay02z415ay02z415ay0",
      "2z415ay037a15ay02z415ay02z415ay02z415ay02z415ay02z415ay037a15ay02z415ay02z415ay02z415ay02z41",
      "5ay037a15ay02z415ay02z415ay02z415ay02z415ay02z415ay0"] },
  {
    names := ["Chile/EasterIsland", "Pacific/Easter"]
    kinds := [(-26220, false), (-25200, false), (-21600, true), (-21600, false), (-18000, true)]
    changes := [
      "!0vnq281!142Vku23SS15b422yy14c423cy14x423cy155a23SS14ma23nS155a23SS155a23cy14x423cy14x423cy1",
      "55a23SS155a23SS155a23cy14x423cy34x443cy34x443cy355a43SS355a43SS355a44Gy34H443cy34x443cy355a4",
      "3SS34Ra446S355a43cy34x443cy34x443cy34x443cy355a43SS355a43xy34c443cy34c444RS34Ra43cy355a43SS3",
      "55a43SS355a43SS355a43cy34x443cy34x443cy355a43SS355a43xy34c443cy34x4446S34Ra44wy32Ta45vy32z44",
      "5ay337a45QS337a4ERy328a46PS328a46PS328a45ay33d444wy33d444wy33d444wy33na44mS33d4455S33d444wy3",
      "3d444wy33d444wy33d444wy33d4455S33Sa455S33d444wy33d444wy33d444wy33d444wy33d4455S33Sa455S33d44",
      "4wy33d44"] },
  {
    names := ["EET"]
    kinds := [(7200, false), (10800, true)]
    changes := [
      "!2Df6EG146W04RW14H004H014H004RW146W04H014H004H014H004H014H004H014RW04H014H004H014H004H014H00",
      "4H014H004H014H004H014RW04H014H004H014H004H014H004H014H004H014H004RW14x003d014x003d014x003d01",
      "55W03SW155W03SW155W03d014x003d014x003d0155W03SW155W03SW155W03SW155W03d014x003d014x003d0155W0",
      "3SW155W03SW155W03d014x003d014x003d014x003d0155W03SW155W03SW155W03d014x003d014x003d0155W03SW1",
      "55W03SW155W03d014x003d014x003d014x003d0155W03SW155W03SW155W03d014x003d014x003d0155W03SW155W0",
      "3SW155W03SW155W03d014x003d014x00"] },
  {
    names := ["EST", "Etc/GMT+5"]
    kinds := [(-18000, false)]
    changes := [] },
  {
    names := ["EST5EDT"]
    kinds := [(-18000, false), (-14400, true)]
    changes := [
      "!0UfXvm14wy03d414wy0!0fxYCG1V9S0!0ebrqG14Gy04H414Gy04H414Gy04H414Gy04H414RS04H414Gy04H414Gy0",
      "1f416uy02oa15lS04H414RS046a14RS04H414Gy04H414Gy04H414Gy04H414Gy04H414RS046a14RS04H414Gy04H41",
      "4Gy04H414Gy03na14mS03na14wy03d414wy03d414wy03na14mS03na14mS03na14wy03d414wy03d414wy03na14mS0",
      "3na14mS03na14mS03na14wy03d414wy03d414wy03na14mS03na14mS03na14wy03d414wy03d414wy037a15ay02z41",
      "5ay02z415ay037a15ay02z415ay02z415ay02z415ay02z415ay02z415ay037a15ay02z415ay02z415ay02z415ay0",
      "2z415ay037a15ay02z415ay02z415ay02z415ay02z415ay02z415ay037a15ay02z415ay02z415ay02z415ay02z41",
      "5ay037a15ay02z415ay02z415ay02z415ay02z415ay02z415ay0"] },
  {
    names := ["Eire", "Europe/Dublin"]
    kinds := [(-1500, false), (2100, true), (0, false), (3600, true), (3600, false)]
    changes := [
      "!0R9hEH137W2!00-IMF33p024Q034T024FW34IW24FW34yW23m034IW245034c024c033SW24x033nW24x033y024c03",
      "3y024RW346W24mW33y024c033y024RW346W24c033y024c033y024RW34H024c033y024RW346W24c033y024c033y02",
      "4RW346W24c0355W22J03ucW23nW35QW23y034c023d034x023y034RW246W34RW24H034RW246W33y024RW346W24c03",
      "3y024mW33y024RW346W24c033y024c033y024RW346W246W355W23SW355W23d034x023SW355W23SW355W23SW355W2",
      "3SW35G022e035vq4Pmi23I035G023I035G023I035G023I035G023SW355W23SW355W23SW35G023I035G023I035G02",
      "3cy34x023d034x023d034x023d0355W23d034x023d034x023d034x023d034x023d0355W23SW355W23d034x023d03",
      "4x023d034x023d034x023d034x023nW34x023d034x023d034x023d0355W23SW355W23SW355W23d034x023d034x02",
      "3d0355W23SW355W23SW355W23SW355W23d034x023d034x023d0355W23SW355W23SW355W23d034x023d034x023d03",
      "4x023d0355W23SW355W23SW355W23d034x023d034x023d0355W23SW355W23SW355W23d034x023d034x023d034x02",
      "3d0355W23SW355W23SW355W23d034x023d034x023d0355W23SW355W23SW355W23SW355W23d034x023d034x02"] },
  {
    names := [
      "Etc/GMT", "Etc/GMT+0", "Etc/GMT-0", "Etc/GMT0", "Etc/Greenwich", "Etc/UCT", "Etc/UTC",
      "Etc/Universal", "Etc/Zulu", "GMT", "GMT+0", "GMT-0", "GMT0", "Greenwich", "UCT", "UTC",
      "Universal", "Zulu"]
    kinds := [(0, false)]
    changes := [] },
  {
    names := ["Etc/GMT+1"]
    kinds := [(-3600, false)]
    changes := [] },
  {
    names := ["Etc/GMT+10", "HST"]
    kinds := [(-36000, false)]
    changes := [] },
  {
    names := ["Etc/GMT+11"]
    kinds := [(-39600, false)]
    changes := [] },
  {
    names := ["Etc/GMT+12"]
    kinds := [(-43200, false)]
    changes := [] },
  {
    names := ["Etc/GMT+2"]
    kinds := [(-7200, false)]
    changes := [] },
  {
    names := ["Etc/GMT+3"]
    kinds := [(-10800, false)]
    changes := [] },
  {
    names := ["Etc/GMT+4"]
    kinds := [(-14400, false)]
    changes := [] },
  {
    names := ["Etc/GMT+6"]
    kinds := [(-21600, false)]
    changes := [] },
  {
    names := ["Etc/GMT+7", "MST"]
    kinds := [(-25200, false)]
    changes := [] },
  {
    names := ["Etc/GMT+8"]
    kinds := [(-28800, false)]
    changes := [] },
  {
    names := ["Etc/GMT+9"]
    kinds := [(-32400, false)]
    changes := [] },
  {
    names := ["Etc/GMT-1"]
    kinds := [(3600, false)]
    changes := [] },
  {
    names := ["Etc/GMT-10"]
    kinds := [(36000, false)]
    changes := [] },
  {
    names := ["Etc/GMT-11"]
    kinds := [(39600, false)]
    changes := [] },
  {
    names := ["Etc/GMT-12"]
    kinds := [(43200, false)]
    changes := [] },
  {
    names := ["Etc/GMT-13"]
    kinds := [(46800, false)]
    changes := [] },
  {
    names := ["Etc/GMT-14"]
    kinds := [(50400, false)]
    changes := [] },
  {
    names := ["Etc/GMT-2"]
    kinds := [(7200, false)]
    changes := [] },
  {
    names := ["Etc/GMT-3"]
    kinds := [(10800, false)]
    changes := [] },
  {
    names := ["Etc/GMT-4"]
    kinds := [(14400, false)]
    changes := [] },
  {
    names := ["Etc/GMT-5"]
    kinds := [(18000, false)]
    changes := [] },
  {
    names := ["Etc/GMT-6"]
    kinds := [(21600, false)]
    changes := [] },
  {
    names := ["Etc/GMT-7"]
    kinds := [(25200, false)]
    changes := [] },
  {
    names := ["Etc/GMT-8"]
    kinds := [(28800, false)]
    changes := [] },
  {
    names := ["Etc/GMT-9"]
    kinds := [(32400, false)]
    changes := [] },
  {
    names := ["Europe/Amsterdam"]
    kinds := [(1200, false), (4800, true), (7200, true), (3600, false)]
    changes := [
      "!0R32xi13bS04di13d004c014H004RW146W04RW146W04RW146W04FW14c005Y01300046W14RW05iW12rW05EW13JW0",
      "5G013I005J013PW05A013O005BW13MW05D013L005QW137W05HW13R0058W13PW05A013O005D013L005P01!00iAZa0",
      "5G013I005HW13R005BO2!04efZ033SW24RW34H024H034H023wW3!0xLYC0246W34RW24H034H024H034RW246W34H02",
      "4H034H024H034H024H034H024RW34H024H034H024H034H024H034H024H034H024H034H024RW34H024H034H024H03",
      "4H024H034H024H034H024H034RW24x033d024x033d024x033d0255W33SW255W33SW255W33d024x033d024x033d02",
      "55W33SW255W33SW255W33SW255W33d024x033d024x033d0255W33SW255W33SW255W33d024x033d024x033d024x03",
      "3d0255W33SW255W33SW255W33d024x033d024x033d0255W33SW255W33SW255W33d024x033d024x033d024x033d02",
      "55W33SW255W33SW255W33d024x033d024x033d0255W33SW255W33SW255W33SW255W33d024x033d024x03"] },
  {
    names := ["Europe/Andorra"]
    kinds := [(360, false), (0, false), (3600, false), (7200, true)]
    changes := [
      "0001!1KGTi02!18QjCG34H024H034H024H034H024H034H024H034H024H034RW24H034H024H034H024H034H024H03",
      "4H024H034H024RW34x023d034x023d034x023d0355W23SW355W23SW355W23d034x023d034x023d0355W23SW355W2",
      "3SW355W23SW355W23d034x023d034x023d0355W23SW355W23SW355W23d034x023d034x023d034x023d0355W23SW3",
      "55W23SW355W23d034x023d034x023d0355W23SW355W23SW355W23d034x023d034x023d034x023d0355W23SW355W2",
      "3SW355W23d034x023d034x023d0355W23SW355W23SW355W23SW355W23d034x023d034x02"] },
  {
    names := ["Europe/Astrakhan"]
    kinds := [(11520, false), (10800, false), (14400, false), (18000, true), (14400, true)]
    changes := [
      "!0g64Lq1!0BYyNS2!1VWuvm34IS24H434IS24H434IS24Ia34H824H034H024H034H024H034H024H034H024H044H41",
      "4H044RW14H028Xy44H414H044H014H044H014H044H014RW44x013d044x013d044x013d0455W13SW455W13SW455W1",
      "3d044x013d044x013d0455W13SW455W13SW455W13SW455W13d044x013d044x013d0455W13SW2UhS1C942"] },
  {
    names := ["Europe/Athens"]
    kinds := [(5700, false), (7200, false), (10800, true), (7200, true), (3600, false)]
    changes := [
      "!0RW2601!0T_CXW21Jy1!0GAxGG20YS3Cwm43Tu34Py44Ia1!0FW3Jm22vy1!0gDLGG25M013De24H0146W248014Q02",
      "46a14Ru24F014LS24Dy14HG24H014H024H014H024H014H024RW14H024H014H024H014H024H014H024H014H024H01",
      "4H024RW14H024H014H024H014H024H014H024H014H024H014RW24x013d024x013d024x013d0255W13SW255W13SW2",
      "55W13d024x013d024x013d0255W13SW255W13SW255W13SW255W13d024x013d024x013d0255W13SW255W13SW255W1",
      "3d024x013d024x013d024x013d0255W13SW255W13SW255W13d024x013d024x013d0255W13SW255W13SW255W13d02",
      "4x013d024x013d024x013d0255W13SW255W13SW255W13d024x013d024x013d0255W13SW255W13SW255W13SW255W1",
      "3d024x013d024x01"] },
  {
    names := ["Europe/Belfast", "Europe/London", "GB", "GB-Eire"]
    kinds := [(-60, false), (0, false), (3600, true), (7200, true), (3600, false)]
    changes := [
      "0001!0R9gsW237W14RW23p014Q024T014FW24IW14FW24yW13m024IW145024c014c023SW14x023nW14x023y014c02",
      "3y014RW246W14mW23y014c023y014RW246W14c023y014c023y014RW24H014c023y014RW246W14c023y014c023y01",
      "4RW246W14c0255W12J02AAy32J025b032z025b0337W25QW33y024dW32S021-414RW246W13nW20fy32oW21-4137W2",
      "5QW13d024x013y024RW146W24RW14H024RW146W23y014RW246W14c023y014mW23y014RW246W14c023y014c023y01",
      "4RW246W146W255W13SW255W13d024x013SW255W13SW255W13SW255W13SW25G012e025vq4Pmi13I025G013I025G01",
      "3I025G013I025G013SW255W13SW255W13SW25G013I025G013I025G013cy24x013d024x013d024x013d0255W13d02",
      "4x013d024x013d024x013d024x013d0255W13SW255W13d024x013d024x013d024x013d024x013d024x013nW24x01",
      "3d024x013d024x013d0255W13SW255W13SW255W13d024x013d024x013d0255W13SW255W13SW255W13SW255W13d02",
      "4x013d024x013d0255W13SW255W13SW255W13d024x013d024x013d024x013d0255W13SW255W13SW255W13d024x01",
      "3d024x013d0255W13SW255W13SW255W13d024x013d024x013d024x013d0255W13SW255W13SW255W13d024x013d02",
      "4x013d0255W13SW255W13SW255W13SW255W13d024x013d024x01"] },
  {
    names := ["Europe/Belgrade", "Europe/Podgorica"]
    kinds := [(4920, false), (3600, false), (7200, true)]
    changes := [
      "0001!1A0ZNW2DBC13SW24RW14H024H01570234W1!16bMy024H014H024RW14H024H014H024H014H024H014H024H01",
      "4H024H014H024RW14H024H014H024H014H024H014H024H014H024H014RW24x013d024x013d024x013d0255W13SW2",
      "55W13SW255W13d024x013d024x013d0255W13SW255W13SW255W13SW255W13d024x013d024x013d0255W13SW255W1",
      "3SW255W13d024x013d024x013d024x013d0255W13SW255W13SW255W13d024x013d024x013d0255W13SW255W13SW2",
      "55W13d024x013d024x013d024x013d0255W13SW255W13SW255W13d024x013d024x013d0255W13SW255W13SW255W1",
      "3SW255W13d024x013d024x01"] },
  {
    names := ["Europe/Berlin"]
    kinds := [(3180, false), (3600, false), (7200, true), (10800, true)]
    changes := [
      "0001!0R31TW23ba14de23d014x023d01!0eXDe02M9W13SW24RW14H024H014H021Dy32uW21Ia13SW248014Fa20qS3",
      "19S22J414c023y014RW246W1!0vOym0246W14H024H014H024H014H024H014H024RW14H024H014H024H014H024H01",
      "4H024H014H024H014H024RW14H024H014H024H014H024H014H024H014H024H014RW24x013d024x013d024x013d02",
      "55W13SW255W13SW255W13d024x013d024x013d0255W13SW255W13SW255W13SW255W13d024x013d024x013d0255W1",
      "3SW255W13SW255W13d024x013d024x013d024x013d0255W13SW255W13SW255W13d024x013d024x013d0255W13SW2",
      "55W13SW255W13d024x013d024x013d024x013d0255W13SW255W13SW255W13d024x013d024x013d0255W13SW255W1",
      "3SW255W13SW255W13d024x013d024x01"] },
  {
    names := ["Europe/Bratislava", "Europe/Prague"]
    kinds := [(3480, false), (3600, false), (7200, true), (0, false)]
    changes := [
      "0001!0R31TW23ba14de23d014x023d01!0eXDe02M9W13SW24RW14H024H014H024H0155W23bW11K431-011Jy23y01",
      "4c023y014Q024801!0tUg-024H014RW246W14H024H014H024H014H024H014H024RW14H024H014H024H014H024H01",
      "4H024H014H024H014H024RW14H024H014H024H014H024H014H024H014H024H014RW24x013d024x013d024x013d02",
      "55W13SW255W13SW255W13d024x013d024x013d0255W13SW255W13SW255W13SW255W13d024x013d024x013d0255W1",
      "3SW255W13SW255W13d024x013d024x013d024x013d0255W13SW255W13SW255W13d024x013d024x013d0255W13SW2",
      "55W13SW255W13d024x013d024x013d024x013d0255W13SW255W13SW255W13d024x013d024x013d0255W13SW255W1",
      "3SW255W13SW255W13d024x013d024x01"] },
  {
    names := ["Europe/Brussels"]
    kinds := [(1080, false), (0, false), (3600, false), (7200, true), (3600, true)]
    changes := [
      "0001!0OH4c02Cfy33bW24de33d024x033d021Ke12bm455W137W45w013L045HW13YW44c014c043y0146W44RW14H04",
      "4H014c043y014RW446W14c0446i14c043y014RW446W14c043y014H044H0146W44c014H044H0146W44RW14c043y01",
      "4H044H0146W44RW14c0455W12J041_W3K_y23SW34RW24H033wW24dW33wW25lW33JW2!0vMK00346W24RW34H024H03",
      "4H024RW346W24H034H024H034H024H034H024H034RW24H034H024H034H024H034H024H034H024H034H024H034RW2",
      "4H034H024H034H024H034H024H034H024H034H024RW34x023d034x023d034x023d0355W23SW355W23SW355W23d03",
      "4x023d034x023d0355W23SW355W23SW355W23SW355W23d034x023d034x023d0355W23SW355W23SW355W23d034x02",
      "3d034x023d034x023d0355W23SW355W23SW355W23d034x023d034x023d0355W23SW355W23SW355W23d034x023d03",
      "4x023d034x023d0355W23SW355W23SW355W23d034x023d034x023d0355W23SW355W23SW355W23SW355W23d034x02",
      "3d034x02"] },
  {
    names := ["Europe/Bucharest"]
    kinds := [(6240, false), (7200, false), (10800, true)]
    changes := [
      "!0tiD881!01ZY5O239014H024H014RW24H014H024H014H024H014H024H014H024H014H024H01!1AbSo022yy14RW2",
      "46a14H824H014H024H014H024H014H024RW14H024H014H024H014H024H014H024H014H024H014H024RW14Gu24H01",
      "4H024H014H024H014H024Gy14H424Gy14Ra24wy13dG24x013d024x013d0255W13SW255W13SW255W13d024x013d02",
      "4x013d0255W13SW255W13SW255W13SW255W13d024x013d024x013d0255W13SW255W13SW255W13d024x013d024x01",
      "3d024x013d0255W13SW255W13SW255W13d024x013d024x013d0255W13SW255W13SW255W13d024x013d024x013d02",
      "4x013d0255W13SW255W13SW255W13d024x013d024x013d0255W13SW255W13SW255W13SW255W13d024x013d024x01"] },
  {
    names := ["Europe/Budapest"]
    kinds := [(4560, false), (3600, false), (7200, true)]
    changes := [
      "0001!0R31TW23ba14de23d014x023d014yW23bW14mW23y01!0cfXzG2DRi13SW24RW14H024H014zq24Ia13X824Sy1",
      "4Fa24H014H024H014RW246W1diu237S15Qi237W15lW22oW15lW22oW1!0gMsLW246W14H024H014H024H014H024H01",
      "4H824RW14H024H014H024H014H024H014H024H014H024H014H024RW14H024H014H024H014H024H014H024H014H02",
      "4H014RW24x013d024x013d024x013d0255W13SW255W13SW255W13d024x013d024x013d0255W13SW255W13SW255W1",
      "3SW255W13d024x013d024x013d0255W13SW255W13SW255W13d024x013d024x013d024x013d0255W13SW255W13SW2",
      "55W13d024x013d024x013d0255W13SW255W13SW255W13d024x013d024x013d024x013d0255W13SW255W13SW255W1",
      "3d024x013d024x013d0255W13SW255W13SW255W13SW255W13d024x013d024x01"] },
  {
    names := ["Europe/Busingen", "Europe/Zurich"]
    kinds := [(2040, false), (3600, false), (7200, true)]
    changes := [
      "0001!1A5se023d014x023d01!18OPYG24H014H024H014H024H014H024RW14H024H014H024H014H024H014H024H01",
      "4H024H014H024RW14H024H014H024H014H024H014H024H014H024H014RW24x013d024x013d024x013d0255W13SW2",
      "55W13SW255W13d024x013d024x013d0255W13SW255W13SW255W13SW255W13d024x013d024x013d0255W13SW255W1",
      "3SW255W13d024x013d024x013d024x013d0255W13SW255W13SW255W13d024x013d024x013d0255W13SW255W13SW2",
      "55W13d024x013d024x013d024x013d0255W13SW255W13SW255W13d024x013d024x013d0255W13SW255W13SW255W1",
      "3SW255W13d024x013d024x01"] },
  {
    names := ["Europe/Chisinau", "Europe/Tiraspol"]
    kinds := [
      (6900, false), (6240, false), (7200, false), (10800, true), (7200, true), (3600, false),
      (10800, false), (14400, true)]
    changes := [
      "!0UQvyC1!0PHJBy2!01ZY5O339024H034H024RW34H024H034H024H034H024H034H024H034H024H034H027UW37ty4",
      "B5m53SW44RW54H043MK6!14sHTm74IS64H474IS64H474IS64Ia74H864H074H064H074H064H074H064H074H064H07",
      "4H064H070-y33Se24H034H024Gu34Gy24H434Gy24H434Gy24H434Gy24Ra34wy23dC34x023d034x023d0355W23SW3",
      "55W23SW355W23d034x023d034x023d0355W23SW355W23SW355W23SW355W23d034x023d034x023d0355W23SW355W2",
      "3SW355W23d034x023d034x023d034x023d0355W23SW355W23SW355W23d034x023d034x023d0355W23Sa355W23SW3",
      "55W23d034x023d034x023d034x023d0355W23SW355W23SW355W23d034x023d034x023d0355W23SW355W23SW355W2",
      "3SW355W23d034x023d034x02"] },
  {
    names := ["Europe/Copenhagen"]
    kinds := [(3000, false), (3600, false), (7200, true)]
    changes := [
      "0001!0R7enW23GS1!0iRPYW2L7e13SW24RW14H024H014H023AW164W22uW15lW22J016PW228W1!0xZO80246W14H02",
      "4H014H024H014H024H014H024RW14H024H014H024H014H024H014H024H014H024H014H024RW14H024H014H024H01",
      "4H024H014H024H014H024H014RW24x013d024x013d024x013d0255W13SW255W13SW255W13d024x013d024x013d02",
      "55W13SW255W13SW255W13SW255W13d024x013d024x013d0255W13SW255W13SW255W13d024x013d024x013d024x01",
      "3d0255W13SW255W13SW255W13d024x013d024x013d0255W13SW255W13SW255W13d024x013d024x013d024x013d02",
      "55W13SW255W13SW255W13d024x013d024x013d0255W13SW255W13SW255W13SW255W13d024x013d024x01"] },
  {
    names := ["Europe/Gibraltar"]
    kinds := [(-1260, false), (0, false), (3600, true), (7200, true), (3600, false)]
    changes := [
      "0001!0R9gsW237W14RW23p014Q024T014FW24IW14FW24yW13m024IW145024c014c023SW14x023nW14x023y014c02",
      "3y014RW246W14mW23y014c023y014RW246W14c023y014c023y014RW24H014c023y014RW246W14c023y014c023y01",
      "4RW246W14c0255W12J02AAy32J025b032z025b0337W25QW33y024dW32S021-414RW246W13nW20fy32oW21-4137W2",
      "5QW13d024x013y024RW146W24RW14H024RW146W23y014RW246W14c023y014mW23y014RW4!0kxtZm34H044H034H04",
      "4H034RW44H034H044H034H044H034H044H034H044H034H044H034RW44H034H044H034H044H034H044H034H044H03",
      "4H044RW34x043d034x043d034x043d0355W43SW355W43SW355W43d034x043d034x043d0355W43SW355W43SW355W4",
      "3SW355W43d034x043d034x043d0355W43SW355W43SW355W43d034x043d034x043d034x043d0355W43SW355W43SW3",
      "55W43d034x043d034x043d0355W43SW355W43SW355W43d034x043d034x043d034x043d0355W43SW355W43SW355W4",
      "3d034x043d034x043d0355W43SW355W43SW355W43SW355W43d034x043d034x04"] },
  {
    names := ["Europe/Guernsey"]
    kinds := [(-600, false), (0, false), (3600, true), (7200, true), (3600, false)]
    changes := [
      "!0Lff7X1!05W1k_237W14RW23p014Q024T014FW24IW14FW24yW13m024IW145024c014c023SW14x023nW14x023y01",
      "4c023y014RW246W14mW23y014c023y014RW246W14c023y014c023y014RW24H014c023y014RW246W14c023y014c02",
      "3y014RW246W14c0255W12J022_q3J_e43SW34RW44H034H044H032S021-414RW246W13nW20fy32oW21-4137W25QW1",
      "3d024x013y024RW146W24RW14H024RW146W23y014RW246W14c023y014mW23y014RW246W14c023y014c023y014RW2",
      "46W146W255W13SW255W13d024x013SW255W13SW255W13SW255W13SW25G012e025vq4Pmi13I025G013I025G013I02",
      "5G013I025G013SW255W13SW255W13SW25G013I025G013I025G013cy24x013d024x013d024x013d0255W13d024x01",
      "3d024x013d024x013d024x013d0255W13SW255W13d024x013d024x013d024x013d024x013d024x013nW24x013d02",
      "4x013d024x013d0255W13SW255W13SW255W13d024x013d024x013d0255W13SW255W13SW255W13SW255W13d024x01",
      "3d024x013d0255W13SW255W13SW255W13d024x013d024x013d024x013d0255W13SW255W13SW255W13d024x013d02",
      "4x013d0255W13SW255W13SW255W13d024x013d024x013d024x013d0255W13SW255W13SW255W13d024x013d024x01",
      "3d0255W13SW255W13SW255W13SW255W13d024x013d024x01"] },
  {
    names := ["Europe/Helsinki", "Europe/Mariehamn"]
    kinds := [(6000, false), (7200, false), (10800, true)]
    changes := [
      "!0aSsyR1!0dMk9524K01!18OlWW24H014H024H014H424H014H024RW14H024H014H024H014H024H014H024H014H02",
      "4H014H024RW14H024H014H024H014H024H014H024H014H024H014RW24x013d024x013d024x013d0255W13SW255W1",
      "3SW255W13d024x013d024x013d0255W13SW255W13SW255W13SW255W13d024x013d024x013d0255W13SW255W13SW2",
      "55W13d024x013d024x013d024x013d0255W13SW255W13SW255W13d024x013d024x013d0255W13SW255W13SW255W1",
      "3d024x013d024x013d024x013d0255W13SW255W13SW255W13d024x013d024x013d0255W13SW255W13SW255W13SW2",
      "55W13d024x013d024x01"] },
  {
    names := ["Europe/Isle_of_Man"]
    kinds := [(-1080, false), (0, false), (3600, true), (7200, true), (3600, false)]
    changes := [
      "0001!0R9gsW237W14RW23p014Q024T014FW24IW14FW24yW13m024IW145024c014c023SW14x023nW14x023y014c02",
      "3y014RW246W14mW23y014c023y014RW246W14c023y014c023y014RW24H014c023y014RW246W14c023y014c023y01",
      "4RW246W14c0255W12J02AAy32J025b032z025b0337W25QW33y024dW32S021-414RW246W13nW20fy32oW21-4137W2",
      "5QW13d024x013y024RW146W24RW14H024RW146W23y014RW246W14c023y014mW23y014RW246W14c023y014c023y01",
      "4RW246W146W255W13SW255W13d024x013SW255W13SW255W13SW255W13SW25G012e025vq4Pmi13I025G013I025G01",
      "3I025G013I025G013SW255W13SW255W13SW25G013I025G013I025G013cy24x013d024x013d024x013d0255W13d02",
      "4x013d024x013d024x013d024x013d0255W13SW255W13d024x013d024x013d024x013d024x013d024x013nW24x01",
      "3d024x013d024x013d0255W13SW255W13SW255W13d024x013d024x013d0255W13SW255W13SW255W13SW255W13d02",
      "4x013d024x013d0255W13SW255W13SW255W13d024x013d024x013d024x013d0255W13SW255W13SW255W13d024x01",
      "3d024x013d0255W13SW255W13SW255W13d024x013d024x013d024x013d0255W13SW255W13SW255W13d024x013d02",
      "4x013d0255W13SW255W13SW255W13SW255W13d024x013d024x01"] },
  {
    names := ["Europe/Jersey"]
    kinds := [(-480, false), (0, false), (3600, true), (7200, true), (3600, false)]
    changes := [
      "0001!0R9gsW237W14RW23p014Q024T014FW24IW14FW24yW13m024IW145024c014c023SW14x023nW14x023y014c02",
      "3y014RW246W14mW23y014c023y014RW246W14c023y014c023y014RW24H014c023y014RW246W14c023y014c023y01",
      "4RW246W14c0255W12J022_q3J_e43SW34RW44H034H044H032S021-414RW246W13nW20fy32oW21-4137W25QW13d02",
      "4x013y024RW146W24RW14H024RW146W23y014RW246W14c023y014mW23y014RW246W14c023y014c023y014RW246W1",
      "46W255W13SW255W13d024x013SW255W13SW255W13SW255W13SW25G012e025vq4Pmi13I025G013I025G013I025G01",
      "3I025G013SW255W13SW255W13SW25G013I025G013I025G013cy24x013d024x013d024x013d0255W13d024x013d02",
      "4x013d024x013d024x013d0255W13SW255W13d024x013d024x013d024x013d024x013d024x013nW24x013d024x01",
      "3d024x013d0255W13SW255W13SW255W13d024x013d024x013d0255W13SW255W13SW255W13SW255W13d024x013d02",
      "4x013d0255W13SW255W13SW255W13d024x013d024x013d024x013d0255W13SW255W13SW255W13d024x013d024x01",
      "3d0255W13SW255W13SW255W13d024x013d024x013d024x013d0255W13SW255W13SW255W13d024x013d024x013d02",
      "55W13SW255W13SW255W13SW255W13d024x013d024x01"] }
  ]

def zoneEntries7 : List ZoneEntry := [
  {
    names := ["Europe/Kaliningrad"]
    kinds := [
      (4920, false), (3600, false), (7200, true), (7200, false), (10800, true), (10800, false),
      (14400, true)]
    changes := [
      "0001!0R31TW23ba14de23d014x023d01!0eXDe02M9W13SW24RW14H024H014H020Bq30SW44My33ha5!11pV3m64IS5",
      "4H464IS54H464IS54Ia64H854H064H054H064H054H064H054H064H054H044H434H044RW34H044H034H044H034H04",
      "4H034H044H034H044H034RW44x033d044x033d044x033d0455W33SW455W33SW455W33d044x033d044x033d0455W3",
      "3SW455W33SW455W33SW455W33d044x033d044x033d0455W33SW5UhS3"] },
  {
    names := ["Europe/Kiev", "Europe/Kyiv", "Europe/Uzhgorod", "Europe/Zaporozhye"]
    kinds := [
      (7320, false), (7200, false), (10800, false), (7200, true), (3600, false), (14400, true),
      (10800, true)]
    changes := [
      "!0g6QTa1!0BYd7y2!0LAHLm39aG43SW34RW40nO2!16MVzW54IS24H454IS24H454IS24Ia54H824H054H024H054H02",
      "4H054H024H054H024H054H024H052Iy6Age14H064H014H064H014H064H014H064H014RW64x413d064x013d064x01",
      "3d0655W13SW655W13SW655W13d064x013d064x013d0655W13SW655W13SW655W13SW655W13d064x013d064x013d06",
      "55W13SW655W13SW655W13d064x013d064x013d064x013d0655W13SW655W13SW655W13d064x013d064x013d0655W1",
      "3SW655W13SW655W13d064x013d064x013d064x013d0655W13SW655W13SW655W13d064x013d064x013d0655W13SW6",
      "55W13SW655W13SW655W13d064x013d064x01"] },
  {
    names := ["Europe/Kirov"]
    kinds := [(11940, false), (10800, false), (14400, false), (18000, true), (14400, true)]
    changes := [
      "!0X03c01!0Kez7G2!1VWuvm34IS24H434IS24H434IS24Ia34H824H034H024H034H024H034H024H034H024H044H41",
      "4H044RW14H028Xy44H414H044H014H044H014H044H014RW44x013d044x013d044x013d0455W13SW455W13SW455W1",
      "3d044x013d044x013d0455W13SW455W13SW455W13SW455W13d044x013d044x013d0455W13SW2UhS1"] },
  {
    names := ["Europe/Lisbon", "Portugal"]
    kinds := [(-2220, false), (0, false), (3600, true), (7200, true), (3600, false)]
    changes := [
      "!0Ivew01cCy23C412q025Ly13Da25Ly13Da25Ly13F425Ly13Da25Ly1LSW240W1D8023y014RW246W14c0246W14c02",
      "3y01D8023y014H024H01CzW24H0146W24RW14c023y014H024H0146W24RW14c0255W12J025J014E024IW13m020-y3",
      "2e021f413I020qS337W21Ua137W20-y32z021Ua137W20-y32z021Ua13nW24H014HC24H014H024H014H024H014H02",
      "4H014H024RW14H024H014H024H014H024H014H024H014H024RW14H024H014H024H014H024H014H024H014H024H01",
      "4H024RW14H024H014H024H014H024H014H024H04!0In_9W14H024H014Ra24H014H024H014RW246W14Gy24H014H02",
      "4H014H024H014H024RW14H024H014H424H014H024H014H024H014H024H014H024RW14H024H014H024H044H034H04",
      "4H034H044H034H044RW24x013d024x013d024x013d0255W13SW255W13SW255W13d024x013d024x013d0255W13SW2",
      "55W13SW255W13SW255W13d024x013d024x013d0255W13SW255W13SW255W13d024x013d024x013d024x013d0255W1",
      "3SW255W13SW255W13d024x013d024x013d0255W13SW255W13SW255W13d024x013d024x013d024x013d0255W13SW2",
      "55W13SW255W13d024x013d024x013d0255W13SW255W13SW255W13SW255W13d024x013d024x01"] },
  {
    names := ["Europe/Ljubljana"]
    kinds := [(3480, false), (3600, false), (7200, true)]
    changes := [
      "0001!1A0ZNW2DBC13SW24RW14H024H014H023wW1!16bMy024H014H024RW14H024H014H024H014H024H014H024H01",
      "4H024H014H024RW14H024H014H024H014H024H014H024H014H024H014RW24x013d024x013d024x013d0255W13SW2",
      "55W13SW255W13d024x013d024x013d0255W13SW255W13SW255W13SW255W13d024x013d024x013d0255W13SW255W1",
      "3SW255W13d024x013d024x013d024x013d0255W13SW255W13SW255W13d024x013d024x013d0255W13SW255W13SW2",
      "55W13d024x013d024x013d024x013d0255W13SW255W13SW255W13d024x013d024x013d0255W13SW255W13SW255W1",
      "3SW255W13d024x013d024x01"] },
  {
    names := ["Europe/Luxembourg"]
    kinds := [(1500, false), (3600, false), (7200, true), (0, false), (3600, true)]
    changes := [
      "!04egsy1!0MUzwa23Ga14wy23Ja14x823d011eu32HW455i337K45w833Ku45He33YO44c434by43y8346O44Ra34IS4",
      "4Fa34by43y434RS446a34by446a34by43yC34RW446W34c043y034H044H0346W44c034H044H0346W44RW34c043y03",
      "4H044H0346W44RW34c0455W32J041sW2L8y13SW24RW14H023y014c023wW15lW23JW1!0vMK00246W14RW24H014H02",
      "4H014RW246W14H024H014H024H014H024H014H024RW14H024H014H024H014H024H014H024H014H024H014H024RW1",
      "4H024H014H024H014H024H014H024H014H024H014RW24x013d024x013d024x013d0255W13SW255W13SW255W13d02",
      "4x013d024x013d0255W13SW255W13SW255W13SW255W13d024x013d024x013d0255W13SW255W13SW255W13d024x01",
      "3d024x013d024x013d0255W13SW255W13SW255W13d024x013d024x013d0255W13SW255W13SW255W13d024x013d02",
      "4x013d024x013d0255W13SW255W13SW255W13d024x013d024x013d0255W13SW255W13SW255W13SW255W13d024x01",
      "3d024x01"] },
  {
    names := ["Europe/Madrid"]
    kinds := [(-900, false), (0, false), (3600, true), (7200, true), (3600, false)]
    changes := [
      "0001!0UkiNm245414Gy24Ia1cmy240a1D7y23y414RS246a14c0246W14by23y41!0EUTfm22Y414Gy20fy33eW28h81",
      "3nS4IDS32ra45NS33y444by33y444by33y444by33y44M9S33d44!0k977m346a44RS346a446S34H444RS346a44Re3",
      "4H044H034H044RW346W44H034H044H034H044H034H044H034RW44H034H044H034H044H034H044H034H044H034H04",
      "4H034RW44H034H044H034H044H034H044H034H044H034H044RW34x043d034x043d034x043d0355W43SW355W43SW3",
      "55W43d034x043d034x043d0355W43SW355W43SW355W43SW355W43d034x043d034x043d0355W43SW355W43SW355W4",
      "3d034x043d034x043d034x043d0355W43SW355W43SW355W43d034x043d034x043d0355W43SW355W43SW355W43d03",
      "4x043d034x043d034x043d0355W43SW355W43SW355W43d034x043d034x043d0355W43SW355W43SW355W43SW355W4",
      "3d034x043d034x04"] },
  {
    names := ["Europe/Malta"]
    kinds := [(3480, false), (3600, false), (7200, true)]
    changes := [
      "0001!0REFXm22oS14H424IS13m424yS13R4255S13y424Gy1!0b81kG2KP813SW24RW14FW23y014dW23uu14Ie24mW1",
      "3nO24mW13Se255W1!0XAX_W22yy15la22oW15lW22oW15w022oW15lW22oW15b022z015lW22z014FW24H014o023U01",
      "54823cy14x423cy14x423cy14x423cy14x423cy14da244y14Ra24H014H024H014H024H014H024RW14H024H014H02",
      "4H014H024H014H024H014H024H014H024RW14H024H014H024H014H024H014H024H014H024H014RW24x013d024x01",
      "3d024x013d0255W13SW255W13SW255W13d024x013d024x013d0255W13SW255W13SW255W13SW255W13d024x013d02",
      "4x013d0255W13SW255W13SW255W13d024x013d024x013d024x013d0255W13SW255W13SW255W13d024x013d024x01",
      "3d0255W13SW255W13SW255W13d024x013d024x013d024x013d0255W13SW255W13SW255W13d024x013d024x013d02",
      "55W13SW255W13SW255W13SW255W13d024x013d024x01"] },
  {
    names := ["Europe/Minsk"]
    kinds := [
      (6600, false), (7200, false), (10800, false), (7200, true), (3600, false), (14400, true),
      (10800, true)]
    changes := [
      "!0g6Qeu1!0BYcye2!0KkbTm3BYG43SW34RW44H0328K2!157QLm54IS24H454IS24H454IS24Ia54H824H054H024H05",
      "4H024H054H024H054H024H054H02CzW64H414H064H014H064H014H064H014H064H014RW64x013d064x013d064x01",
      "3d0655W13SW655W13SW655W13d064x013d064x013d0655W13SW655W13SW655W13SW655W13d064x013d064x013d06",
      "55W13SW2"] },
  {
    names := ["Europe/Monaco"]
    kinds := [(1800, false), (540, false), (0, false), (3600, true), (7200, true), (3600, false)]
    changes := [
      "0001!0HU0jF2!09pssX32ZW245034dW23bW34yW23R03570236035w023L035HW23YW34c025QW337W246W34RW24H03",
      "4H024c033y024RW346W24c0346W24c033y024RW346W24c033y024H034H0246W34c024H034H0246W34RW24c033y02",
      "4H034H0246W34RW24c0355W22JC3ACK43cy33d445b833SW44RW34H044Pu348843wW5!0vRFXm44Gy54Re446W54RW4",
      "4H054H044H054RW446W54H044H054H044H054H044H054H044RW54H044H054H044H054H044H054H044H054H044H05",
      "4H044RW54H044H054H044H054H044H054H044H054H044H054RW44x053d044x053d044x053d0455W53SW455W53SW4",
      "55W53d044x053d044x053d0455W53SW455W53SW455W53SW455W53d044x053d044x053d0455W53SW455W53SW455W5",
      "3d044x053d044x053d044x053d0455W53SW455W53SW455W53d044x053d044x053d0455W53SW455W53SW455W53d04",
      "4x053d044x053d044x053d0455W53SW455W53SW455W53d044x053d044x053d0455W53SW455W53SW455W53SW455W5",
      "3d044x053d044x05"] },
  {
    names := ["Europe/Moscow", "W-SU"]
    kinds := [
      (9000, false), (9060, false), (12660, true), (16260, true), (14400, true), (10800, false),
      (18000, true), (7200, false), (10800, true), (14400, false)]
    changes := [
      "!0RNnx71!01tzEo24CW13eS32Wa262y3!009yoN414m5CtW40oy63s040j458Za7!0EXTGG5!1VWuvm44IS54H444IS5",
      "4H444IS54Ia44H854H044H054H044H054H044H054H044H054H044H054H044RW54H084H472e051ey44H054H044H05",
      "4H044H054H044H054RW44x053d044x053d044x053d0455W53SW455W53SW455W53d044x053d044x053d0455W53SW4",
      "55W53SW455W53SW455W53d044x053d044x053d0455W53SW9UhS5"] },
  {
    names := ["Europe/Paris"]
    kinds := [(540, false), (0, false), (3600, true), (7200, true), (3600, false)]
    changes := [
      "!0HO51F1!09voYX22ZW145024dW13bW24yW13R02570136025w013L025HW13YW24c015QW237W146W24RW14H024H01",
      "4c023y014RW246W14c0246W14c023y014RW246W14c023y014H024H0146W24c014H024H0146W24RW14c023y014H02",
      "4H0146W24RW14c0255W12JC22cG3KPC43SW34RW44H034Pu448833wW4!0vRFXm34Gy44Re346W44RW34H044H034H04",
      "4RW346W44H034H044H034H044H034H044H034RW44H034H044H034H044H034H044H034H044H034H044H034RW44H03",
      "4H044H034H044H034H044H034H044H034H044RW34x043d034x043d034x043d0355W43SW355W43SW355W43d034x04",
      "3d034x043d0355W43SW355W43SW355W43SW355W43d034x043d034x043d0355W43SW355W43SW355W43d034x043d03",
      "4x043d034x043d0355W43SW355W43SW355W43d034x043d034x043d0355W43SW355W43SW355W43d034x043d034x04",
      "3d034x043d0355W43SW355W43SW355W43d034x043d034x043d0355W43SW355W43SW355W43SW355W43d034x043d03",
      "4x04"] },
  {
    names := ["Europe/Riga"]
    kinds := [
      (5820, false), (9420, true), (7200, false), (10800, false), (7200, true), (3600, false),
      (14400, true), (10800, true)]
    changes := [
      "!0UkOV-13d004dW11CW0xgu2!0QntA237ky4BTm53SW44RW54H044H050GO3!14bnvW64IS34H464IS34H464IS34Ia6",
      "4H834H064H034H064H034H064H034H064H034H074H424H074RW24H074H024H074H024H074H024H074H024H074H02",
      "4RW74H024H474x023d074x023d0755W2B-W755W23d074x023d074x023d0755W23SW755W23SW755W23SW755W23d07",
      "4x023d074x023d0755W23SW755W23SW755W23d074x023d074x023d074x023d0755W23SW755W23SW755W23d074x02",
      "3d074x023d0755W23SW755W23SW755W23d074x023d074x023d074x023d0755W23SW755W23SW755W23d074x023d07",
      "4x023d0755W23SW755W23SW755W23SW755W23d074x023d074x02"] },
  {
    names := ["Europe/Rome", "Europe/San_Marino", "Europe/Vatican"]
    kinds := [(3000, false), (3600, false), (7200, true)]
    changes := [
      "0001!0REFXm22oS14H424IS13m424yS13R4255S13y424Gy1!0b81kG2KP813SW24RW14H023wW14dW23uu14Ie24mW1",
      "3nO24mW13Se255W1!0XAX_W22yy15la22oW15lW22oW15w022oW15lW22oW15b022z015lW22z015lW22oW15b022z01",
      "5lW22oW15lW22oW15b022z015lW22z015b022z014Re246W14H024H014H024H014H024H014H024RW14H024H014H02",
      "4H014H024H014H024H014H024H014H024RW14H024H014H024H014H024H014H024H014H024H014RW24x013d024x01",
      "3d024x013d0255W13SW255W13SW255W13d024x013d024x013d0255W13SW255W13SW255W13SW255W13d024x013d02",
      "4x013d0255W13SW255W13SW255W13d024x013d024x013d024x013d0255W13SW255W13SW255W13d024x013d024x01",
      "3d0255W13SW255W13SW255W13d024x013d024x013d024x013d0255W13SW255W13SW255W13d024x013d024x013d02",
      "55W13SW255W13SW255W13SW255W13d024x013d024x01"] },
  {
    names := ["Europe/Samara"]
    kinds := [
      (12000, false), (10800, false), (14400, false), (18000, true), (14400, true), (10800, true)]
    changes := [
      "!0X03c01!0Kez7G2!1VWuvm34IS24H434IS24H434IS24Ia34H824H034H024H034H024H034H024H034H024H044H41",
      "4H044RW14H054H410VW23nO34H024H034H024H034H024H034H024RW34x023d034x023d034x023d0355W23SW355W2",
      "3SW355W23d034x023d034x023d0355W23SW355W23SW355W23SW355W23d034x023d034x023d0455a13SW2"] },
  {
    names := ["Europe/Sarajevo"]
    kinds := [(4440, false), (3600, false), (7200, true)]
    changes := [
      "0001!1A0ZNW2DBC13SW24RW14H024H014H023wW1!16bMy024H014H024RW14H024H014H024H014H024H014H024H01",
      "4H024H014H024RW14H024H014H024H014H024H014H024H014H024H014RW24x013d024x013d024x013d0255W13SW2",
      "55W13SW255W13d024x013d024x013d0255W13SW255W13SW255W13SW255W13d024x013d024x013d0255W13SW255W1",
      "3SW255W13d024x013d024x013d024x013d0255W13SW255W13SW255W13d024x013d024x013d0255W13SW255W13SW2",
      "55W13d024x013d024x013d024x013d0255W13SW255W13SW255W13d024x013d024x013d0255W13SW255W13SW255W1",
      "3SW255W13d024x013d024x01"] },
  {
    names := ["Europe/Saratov"]
    kinds := [(11040, false), (10800, false), (14400, false), (18000, true), (14400, true)]
    changes := [
      "!0X03c01!0Kez7G2!1VWuvm34IS24H434IS24H434IS24Ia34H824H034H024H034H024H034H024H044H414H044H01",
      "4H044RW14H028Xy44H414H044H014H044H014H044H014RW44x013d044x013d044x013d0455W13SW455W13SW455W1",
      "3d044x013d044x013d0455W13SW455W13SW455W13SW455W13d044x013d044x013d0455W13SW2UhS1I342"] },
  {
    names := ["Europe/Simferopol"]
    kinds := [
      (8160, false), (7200, false), (10800, false), (7200, true), (3600, false), (14400, true),
      (10800, true), (14400, false)]
    changes := [
      "!0g6QGW1!0BYdL02!0LO7Hm38bG43SW34RW44H030Eq2!15Y6xm54IS24H454IS24H454IS24Ia54H824H054H024H05",
      "4H024H054H024H054H024H054H026a01Exa64H014H064H014H060qK53Se24H054H024RO54xC23d464x013d064x01",
      "3d0655W13SW655W13SW655W13d064x013d064x013d0655W13SW655W13SW655W13SW655W13d064x013d064x013d06",
      "55W13SW655W13SW655W13d064x013cy74wu2"] },
  {
    names := ["Europe/Skopje"]
    kinds := [(5160, false), (3600, false), (7200, true)]
    changes := [
      "0001!1A0ZNW2DBC13SW24RW14H024H014H023wW1!16bMy024H014H024RW14H024H014H024H014H024H014H024H01",
      "4H024H014H024RW14H024H014H024H014H024H014H024H014H024H014RW24x013d024x013d024x013d0255W13SW2",
      "55W13SW255W13d024x013d024x013d0255W13SW255W13SW255W13SW255W13d024x013d024x013d0255W13SW255W1",
      "3SW255W13d024x013d024x013d024x013d0255W13SW255W13SW255W13d024x013d024x013d0255W13SW255W13SW2",
      "55W13d024x013d024x013d024x013d0255W13SW255W13SW255W13d024x013d024x013d0255W13SW255W13SW255W1",
      "3SW255W13d024x013d024x01"] },
  {
    names := ["Europe/Sofia"]
    kinds := [(5580, false), (7200, false), (3600, false), (7200, true), (10800, true)]
    changes := [
      "0001!1CvqiG23SW34RW24H034H024H41!0_ySim44Ia14Py448414Py446e14RO446i14H044H014H044RW14H044H01",
      "4H044H014H044H014H044H014H044H014H044RW14Gu44Gy14H444Gy14H444Gy14H444Gy14H444Gy14Ra44wy13dG4",
      "4x013d044x013d0455W13SW455W13SW455W13d044x013d044x013d0455W13SW455W13SW455W13SW455W13d044x01",
      "3d044x013d0455W13SW455W13SW455W13d044x013d044x013d044x013d0455W13SW455W13SW455W13d044x013d04",
      "4x013d0455W13SW455W13SW455W13d044x013d044x013d044x013d0455W13SW455W13SW455W13d044x013d044x01",
      "3d0455W13SW455W13SW455W13SW455W13d044x013d044x01"] },
  {
    names := ["Europe/Stockholm"]
    kinds := [(4320, false), (3600, false), (7200, true)]
    changes := [
      "0001!0R7enW23Ga1!1tTsaW246W14H024H014H024H014H024H014H024RW14H024H014H024H014H024H014H024H01",
      "4H024H014H024RW14H024H014H024H014H024H014H024H014H024H014RW24x013d024x013d024x013d0255W13SW2",
      "55W13SW255W13d024x013d024x013d0255W13SW255W13SW255W13SW255W13d024x013d024x013d0255W13SW255W1",
      "3SW255W13d024x013d024x013d024x013d0255W13SW255W13SW255W13d024x013d024x013d0255W13SW255W13SW2",
      "55W13d024x013d024x013d024x013d0255W13SW255W13SW255W13d024x013d024x013d0255W13SW255W13SW255W1",
      "3SW255W13d024x013d024x01"] },
  {
    names := ["Europe/Tallinn"]
    kinds := [
      (5940, false), (3600, false), (7200, true), (7200, false), (10800, false), (14400, true),
      (10800, true)]
    changes := [
      "!0UMItC1!00O6B423d016lu0!03SqFS3!0aFKQK49VS29hm13SW24RW14H0241q4!14ijlm54IS44H454IS44H454IS4",
      "4Ia54H844H054H044H054H044H054H044H054H044H064H434H064RW34H064H034H064H034H064H034H064H034H06",
      "4H034RW64x033d064x033d064x433d0655W3Kh064x033d064x033d0655W33SW655W33SW655W33SW655W33d064x03",
      "3d064x033d0655W33SW655W33SW655W33d064x033d064x033d064x033d0655W33SW655W33SW655W33d064x033d06",
      "4x033d0655W33SW655W33SW655W33d064x033d064x033d064x033d0655W33SW655W33SW655W33d064x033d064x03",
      "3d0655W33SW655W33SW655W33SW655W33d064x033d064x03"] },
  {
    names := ["Europe/Tirane"]
    kinds := [(4740, false), (3600, false), (7200, true)]
    changes := [
      "!0MgZHe1!0nmrC82KNe13SW20I01!0wRr1W23YS14ya23cy14_a23cy155a23SS154423Ty154423Ty154423cy14o42",
      "3cy155a23cy14da23uy14Ia24H814H024H014H024H014H024H014H024H014H024H014H024RW14H024H014H024H01",
      "4H024H014H024H014H024H014RW24x013d024x013d024x013d0255W13SW255W13SW255W13d024x013d024x013d02",
      "55W13SW255W13SW255W13SW255W13d024x013d024x013d0255W13SW255W13SW255W13d024x013d024x013d024x01",
      "3d0255W13SW255W13SW255W13d024x013d024x013d0255W13SW255W13SW255W13d024x013d024x013d024x013d02",
      "55W13SW255W13SW255W13d024x013d024x013d0255W13SW255W13SW255W13SW255W13d024x013d024x01"] },
  {
    names := ["Europe/Ulyanovsk"]
    kinds := [
      (11640, false), (10800, false), (14400, false), (18000, true), (14400, true), (10800, true),
      (7200, false)]
    changes := [
      "!0X03c01!0Kez7G2!1VWuvm34IS24H434IS24H434IS24Ia34H824H034H024H034H024H034H024H034H024H044H41",
      "4H044RW14H054H462e011ey44H014H044H014H044H014H044H014RW44x013d044x013d044x013d0455W13SW455W1",
      "3SW455W13d044x013d044x013d0455W13SW455W13SW455W13SW455W13d044x013d044x013d0455W13SW2UhS1C942"] },
  {
    names := ["Europe/Vaduz"]
    kinds := [(2280, false), (3600, false), (7200, true)]
    changes := [
      "0001!1A5se023d014x023d01!18OPYG24H014H024H014H024H014H024RW14H024H014H024H014H024H014H024H01",
      "4H024H014H024RW14H024H014H024H014H024H014H024H014H024H014RW24x013d024x013d024x013d0255W13SW2",
      "55W13SW255W13d024x013d024x013d0255W13SW255W13SW255W13SW255W13d024x013d024x013d0255W13SW255W1",
      "3SW255W13d024x013d024x013d024x013d0255W13SW255W13SW255W13d024x013d024x013d0255W13SW255W13SW2",
      "55W13d024x013d024x013d024x013d0255W13SW255W13SW255W13d024x013d024x013d0255W13SW255W13SW255W1",
      "3SW255W13d024x013d024x01"] },
  {
    names := ["Europe/Vienna"]
    kinds := [(3900, false), (3600, false), (7200, true)]
    changes := [
      "0001!0R31TW23ba14de23d014x023d01DIW23nW1!0anHO02M9W13SW24RW14H024H014H020F018cW248014FW24H01",
      "4c023y01!0xGv7W246S14HC24H014H024H014H024H014H024RW14H024H014H024H014H024H014H024H014H024H01",
      "4H024RW14H024H014H024H014H024H014H024H014H024H014RW24x013d024x013d024x013d0255W13SW255W13SW2",
      "55W13d024x013d024x013d0255W13SW255W13SW255W13SW255W13d024x013d024x013d0255W13SW255W13SW255W1",
      "3d024x013d024x013d024x013d0255W13SW255W13SW255W13d024x013d024x013d0255W13SW255W13SW255W13d02",
      "4x013d024x013d024x013d0255W13SW255W13SW255W13d024x013d024x013d0255W13SW255W13SW255W13SW255W1",
      "3d024x013d024x01"] },
  {
    names := ["Europe/Vilnius"]
    kinds := [
      (6060, false), (5040, false), (5760, false), (3600, false), (7200, false), (10800, false),
      (7200, true), (14400, true), (10800, true)]
    changes := [
      "0001!0SJnzG2!05DYj83!01Q-PO425S3!0bHbSG57dO6BeG33SW64RW34H062pq5!14zsdm74IS54H474IS54H474IS5",
      "4Ia74H854H074H054H074H054H074H054H074H054H084H444H084RW44H084H044H084H044H084H044H084H044H08",
      "4H044RW84x043d084x043d464x033d0655W4TD084x043d0855W43SW855W43SW855W43SW855W43d084x043d084x04",
      "3d0855W43SW855W43SW855W43d084x043d084x043d084x043d0855W43SW855W43SW855W43d084x043d084x043d08",
      "55W43SW855W43SW855W43d084x043d084x043d084x043d0855W43SW855W43SW855W43d084x043d084x043d0855W4",
      "3SW855W43SW855W43SW855W43d084x043d084x04"] },
  {
    names := ["Europe/Volgograd"]
    kinds := [(10680, false), (10800, false), (14400, false), (18000, true), (14400, true)]
    changes := [
      "!0XzKRS1!0JhiHq2!1VWuvm34IS24H434IS24H434IS24Ia34H824H034H024H034H024H034H024H044H414H044H01",
      "4H044RW14H028Xy44H414H044H014H044H014H044H014RW44x013d044x013d044x013d0455W13SW455W13SW455W1",
      "3d044x013d044x013d0455W13SW455W13SW455W13SW455W13d044x013d044x013d0455W13SW2UhS1YIa2IYS1"] },
  {
    names := ["Europe/Warsaw", "Poland"]
    kinds := [(5040, false), (3600, false), (7200, true), (7200, false), (10800, true)]
    changes := [
      "!0Pg2hG1!01O-oG23ba14de23d014x023d034yS43d03NBO1!0X-M6m2KD013SW24RW14H024Jy14sS24My13s424881",
      "4vW23d014c023y014RW246W1!0EQrdm22oW14H024H015lW22z014H024H015b022z015b022z015b022z015lW22oW1",
      "!0NYZY0246W14RW24H014H024H014RW246W14H024H014H024H014H024H014H024RW14H024H014H024H014H024H01",
      "4H424H014H024H014H024RW14H024H014H024H014H024H014H024H014H024H014RW24x013d024x013d024x013d02",
      "55W13SW255W13SW255W13d024x013d024x013d0255W13SW255W13SW255W13SW255W13d024x013d024x013d0255W1",
      "3SW255W13SW255W13d024x013d024x013d024x013d0255W13SW255W13SW255W13d024x013d024x013d0255W13SW2",
      "55W13SW255W13d024x013d024x013d024x013d0255W13SW255W13SW255W13d024x013d024x013d0255W13SW255W1",
      "3SW255W13SW255W13d024x013d024x01"] },
  {
    names := ["Europe/Zagreb"]
    kinds := [(3840, false), (3600, false), (7200, true)]
    changes := [
      "0001!1A0ZNW2DBC13SW24RW14H024H014H023wW1!16bMy024H014H024RW14H024H014H024H014H024H014H024H01",
      "4H024H014H024RW14H024H014H024H014H024H014H024H014H024H014RW24x013d024x013d024x013d0255W13SW2",
      "55W13SW255W13d024x013d024x013d0255W13SW255W13SW255W13SW255W13d024x013d024x013d0255W13SW255W1",
      "3SW255W13d024x013d024x013d024x013d0255W13SW255W13SW255W13d024x013d024x013d0255W13SW255W13SW2",
      "55W13d024x013d024x013d024x013d0255W13SW255W13SW255W13d024x013d024x013d0255W13SW255W13SW255W1",
      "3SW255W13d024x013d024x01"] },
  {
    names := ["Indian/Antananarivo"]
    kinds := [(11400, false), (10800, false), (14400, true)]
    changes := ["!0Hyytq1!1GF_BC228W1"] },
  {
    names := ["Indian/Chagos"]
    kinds := [(17400, false), (18000, false), (21600, false)]
    changes := ["!09VlUS1!2dP-OK2"] },
  {
    names := ["Indian/Christmas"]
    kinds := [(25380, false), (25200, false)]
    changes := ["0001"] },
  {
    names := ["Indian/Cocos"]
    kinds := [(23280, false), (23400, false)]
    changes := ["0001"] },
  {
    names := ["Indian/Comoro"]
    kinds := [(10380, false), (10800, false)]
    changes := ["!0Hyz7m1"] },
  {
    names := ["Indian/Kerguelen"]
    kinds := [(0, false), (18000, false)]
    changes := ["!1QOMA01"] },
  {
    names := ["Indian/Mahe"]
    kinds := [(13320, false), (14400, false)]
    changes := ["!09VmU41"] },
  {
    names := ["Indian/Maldives"]
    kinds := [(17640, false), (18000, false)]
    changes := ["!1jByEO1"] },
  {
    names := ["Indian/Mauritius"]
    kinds := [(13800, false), (14400, false), (18000, true)]
    changes := ["!09VmMO1!2EXkUe23oy1!0mA2Im23cy1"] },
  {
    names := ["Indian/Mayotte"]
    kinds := [(10860, false), (10800, false)]
    changes := ["!0Hyz0O1"] },
  {
    names := ["Indian/Reunion"]
    kinds := [(13320, false), (14400, false)]
    changes := ["!0Hp3c01"] },
  {
    names := ["Kwajalein", "Pacific/Kwajalein"]
    kinds := [
      (40140, false), (39600, false), (36000, false), (32400, false), (-43200, false),
      (43200, false)]
    changes := ["0001!11xJNG2aMa3OPa1!0mFvbW4!0ix_Bm5"] },
  {
    names := ["MST7MDT"]
    kinds := [(-25200, false), (-21600, true)]
    changes := [
      "!0UfZgG14wy03d414wy0!0fxYCG1V9S0!0ebrqG14Gy04H414Gy04H414Gy04H414Gy04H414RS04H414Gy04H414Gy0",
      "1f416uy02oa15lS04H414RS046a14RS04H414Gy04H414Gy04H414Gy04H414Gy04H414RS046a14RS04H414Gy04H41",
      "4Gy04H414Gy03na14mS03na14wy03d414wy03d414wy03na14mS03na14mS03na14wy03d414wy03d414wy03na14mS0",
      "3na14mS03na14mS03na14wy03d414wy03d414wy03na14mS03na14mS03na14wy03d414wy03d414wy037a15ay02z41",
      "5ay02z415ay037a15ay02z415ay02z415ay02z415ay02z415ay02z415ay037a15ay02z415ay02z415ay02z415ay0",
      "2z415ay037a15ay02z415ay02z415ay02z415ay02z415ay02z415ay037a15ay02z415ay02z415ay02z415ay02z41",
      "5ay037a15ay02z415ay02z415ay02z415ay02z415ay02z415ay0"] },
  {
    names := ["NZ", "Pacific/Auckland"]
    kinds := [
      (41940, false), (41400, false), (45000, true), (43200, true), (43200, false), (46800, true)]
    changes := [
      "0001!0mjBBe22oS15G433c-14x233c-14x233c-14x233nU14mY33nU14mY34mU13d234w-13d234w-13d234w-13d23",
      "4w-13d2355U13SY355U13d23i_s4!0sFcEW52e045lW537W45b052z045b052z045b052z045b052z045b052z045b05",
      "37W45b052z045b052z045b052z045b052z045b052z045b0537W45b052z0455W53nW44mW53nW44mW53nW44mW53y04",
      "4c053y044c053y044c053y044mW53nW44mW53nW44mW53y044c053y044c053y044mW53nW44mW53nW44mW53y044c05",
      "3y044c053y044c053y044c054RW446W54RW446W54RW446W54RW446W54RW44H054RW446W54RW446W54RW446W54RW4",
      "46W54RW446W54RW44H054RW446W54RW446W54RW446W54RW446W54RW446W54c0446W54RW446W54RW446W54RW446W5",
      "4RW446W54RW44H054RW446W54RW446W54RW446W54RW446W54RW446W54RW44H054RW446W54RW446W5"] },
  {
    names := ["NZ-CHAT", "Pacific/Chatham"]
    kinds := [(44040, false), (44100, false), (45900, false), (49500, true)]
    changes := [
      "0001!1IsfQy2!0sFcSa32e025lW337W25b032z025b032z025b032z025b032z025b032z025b0337W25b032z025b03",
      "2z025b032z025b032z025b032z025b0337W25b032z0255W33nW24mW33nW24mW33nW24mW33y024c033y024c033y02",
      "4c033y024mW33nW24mW33nW24mW33y024c033y024c033y024mW33nW24mW33nW24mW33y024c033y024c033y024c03",
      "3y024c034RW246W34RW246W34RW246W34RW246W34RW24H034RW246W34RW246W34RW246W34RW246W34RW246W34RW2",
      "4H034RW246W34RW246W34RW246W34RW246W34RW246W34c0246W34RW246W34RW246W34RW246W34RW246W34RW24H03",
      "4RW246W34RW246W34RW246W34RW246W34RW246W34RW24H034RW246W34RW246W3"] },
  {
    names := ["PST8PDT"]
    kinds := [(-28800, false), (-25200, true)]
    changes := [
      "!0UfaYW14wy03d414wy0!0fxYCG1V9S0!0ebrqG14Gy04H414Gy04H414Gy04H414Gy04H414RS04H414Gy04H414Gy0",
      "1f416uy02oa15lS04H414RS046a14RS04H414Gy04H414Gy04H414Gy04H414Gy04H414RS046a14RS04H414Gy04H41",
      "4Gy04H414Gy03na14mS03na14wy03d414wy03d414wy03na14mS03na14mS03na14wy03d414wy03d414wy03na14mS0",
      "3na14mS03na14mS03na14wy03d414wy03d414wy03na14mS03na14mS03na14wy03d414wy03d414wy037a15ay02z41",
      "5ay02z415ay037a15ay02z415ay02z415ay02z415ay02z415ay02z415ay037a15ay02z415ay02z415ay02z415ay0",
      "2z415ay037a15ay02z415ay02z415ay02z415ay02z415ay02z415ay037a15ay02z415ay02z415ay02z415ay02z41",
      "5ay037a15ay02z415ay02z415ay02z415ay02z415ay02z415ay0"] },
  {
    names := ["Pacific/Apia"]
    kinds := [
      (45180, false), (-41220, false), (-41400, false), (-39600, false), (-36000, true),
      (50400, true), (46800, false)]
    changes := [
      "0001!0H1Vm02!19N0Wu3!1oFIDu44QC346W42HG52AG64H054RW646W54RW646W54RW646W54RW646W54RW646W54RW6",
      "4H054RW646W54RW646W54RW6"] },
  {
    names := ["Pacific/Bougainville"]
    kinds := [(37320, false), (36000, false), (32400, false), (39600, false)]
    changes := ["0001!1CGpPW2Qua1!22SsgG3"] },
  {
    names := ["Pacific/Chuuk", "Pacific/Truk", "Pacific/Yap"]
    kinds := [(-49980, false), (36000, false), (32400, false)]
    changes := ["0001!0O4QFW2b841!0fi11m2b6a1"] },
  {
    names := ["Pacific/Efate"]
    kinds := [(40380, false), (39600, false), (43200, true)]
    changes := [
      "!0IzSAq1!1qWzQC22J01!0Hs2kG24Gy14H424Gy14Ra246S14Ra24Gy14H424Gy14H424Gy14H424Gy14H424Gy14Ra2",
      "2oS16Pa228S1"] },
  {
    names := ["Pacific/Enderbury", "Pacific/Kanton"]
    kinds := [(0, false), (-43200, false), (-39600, false), (46800, false)]
    changes := ["!13BDk01!1FAIb02!0ShpJm3"] },
  {
    names := ["Pacific/Fakaofo"]
    kinds := [(-41100, false), (-39600, false), (46800, false)]
    changes := ["0001!3E_Pcm2"] },
  {
    names := ["Pacific/Fiji"]
    kinds := [(42960, false), (43200, false), (46800, true)]
    changes := [
      "!0Q4x701!2S9sOW22oW15w022e01!0IML2022oW14x0237W15QW228W16PW228W16a021zy16ka21pW16kW21pW16v02",
      "1f016v021f016v021f0173W21UW182W20g01"] },
  {
    names := ["Pacific/Funafuti"]
    kinds := [(43020, false), (43200, false)]
    changes := ["0001"] },
  {
    names := ["Pacific/Galapagos"]
    kinds := [(-21480, false), (-18000, false), (-21600, false), (-18000, true)]
    changes := ["!0sf4o01!1dT7VG2x8a31dS2"] },
  {
    names := ["Pacific/Gambier"]
    kinds := [(-32400, false)]
    changes := [] },
  {
    names := ["Pacific/Guadalcanal"]
    kinds := [(38400, false), (39600, false)]
    changes := ["!0KJpEC1"] },
  {
    names := ["Pacific/Guam"]
    kinds := [(-51660, false), (36000, false), (32400, false), (39600, true)]
    changes := [
      "0001!1BDvNW2Mc41!0S2JGG3Dey1uP43!02f2UC1!00mVPq31ey15b4337S15Qa337S1JXa31ey1JH43!00S_Oi1!01G",
      "mrK32yy1"] },
  {
    names := ["Pacific/Honolulu", "Pacific/Johnston", "US/Hawaii"]
    kinds := [(-37860, false), (-37800, false), (-34200, true), (-36000, false)]
    changes := ["0001!0x1KD820W41!0GPynm2V9S1ES43"] },
  {
    names := ["Pacific/Kiritimati"]
    kinds := [(-37740, false), (-38400, false), (-36000, false), (50400, false)]
    changes := ["0001!2ILV802!0ShpcW3"] }
  ]

def zoneEntries8 : List ZoneEntry := [
  {
    names := ["Pacific/Kosrae"]
    kinds := [(-47280, false), (39600, false), (32400, false), (36000, false), (43200, false)]
    changes := ["0001!0O4PNG2b881!0XiplW3aMa2b6a1!0jTGnW4!0t1Klm1"] },
  {
    names := ["Pacific/Majuro"]
    kinds := [(41100, false), (39600, false), (32400, false), (36000, false), (43200, false)]
    changes := ["0001!0O4PNG2b881!0XiplW3aMa2OF41!0mIDFW4"] },
  {
    names := ["Pacific/Marquesas"]
    kinds := [(-33480, false), (-34200, false)]
    changes := ["!0KK4n81"] },
  {
    names := ["Pacific/Midway"]
    kinds := [(-42540, false), (-39600, false), (-36000, true)]
    changes := ["0001!1cTOgm228S1"] },
  {
    names := ["Pacific/Nauru"]
    kinds := [(40080, false), (41400, false), (32400, false), (43200, false)]
    changes := ["!0Zvoi41!0egRx42PxA1!0-te3u3"] },
  {
    names := ["Pacific/Niue"]
    kinds := [(-40800, false), (-39600, false)]
    changes := ["!1rfhXW1"] },
  {
    names := ["Pacific/Norfolk"]
    kinds := [(40320, false), (41400, false), (45000, true), (39600, false), (43200, true)]
    changes := [
      "!1SGVY01!0ipT7e22z01!1CMVy03YIY44H034H044H034H044H034H044H034H044RW34H044H034H044H034H044H03",
      "4H044H034H044H034RW44H034H044H034H044H034H044H034H044H034H044H034RW44H034H044H034H04"] },
  {
    names := ["Pacific/Noumea"]
    kinds := [(39960, false), (39600, false), (43200, true)]
    changes := ["!0IzSHq1!1xyFNS21_S16Ya220y1!0XQ5om228W1"] },
  {
    names := ["Pacific/Pago_Pago", "Pacific/Samoa", "US/Samoa"]
    kinds := [(45420, false), (-40980, false), (-39600, false)]
    changes := ["0001!0H1Vi82"] },
  {
    names := ["Pacific/Palau"]
    kinds := [(-54120, false), (32400, false)]
    changes := ["0001"] },
  {
    names := ["Pacific/Pitcairn"]
    kinds := [(-31200, false), (-30600, false), (-28800, false)]
    changes := ["0001!2rH4882"] },
  {
    names := ["Pacific/Pohnpei", "Pacific/Ponape"]
    kinds := [(-48420, false), (39600, false), (32400, false), (36000, false)]
    changes := ["0001!0O4PNG2b881!0XiplW3aMa2b6a1"] },
  {
    names := ["Pacific/Port_Moresby"]
    kinds := [(35340, false), (36000, false)]
    changes := ["0001"] },
  {
    names := ["Pacific/Rarotonga"]
    kinds := [(48060, false), (-38340, false), (-37800, false), (-34200, true), (-36000, false)]
    changes := [
      "0001!1VeM382!0n2hfW32dy45b232y-45b232y-45b2337U45b232y-45b232y-45b232y-45b232y-45b232y-45b23",
      "37U45b232y-45b232y-45b232y-4"] },
  {
    names := ["Pacific/Saipan"]
    kinds := [(-51420, false), (32400, false), (36000, false), (39600, true)]
    changes := [
      "0001!1G4OZm2!0S9ZKG3Dey2uP43!02f2UC2!00mVPq31ey25b4337S25Qa337S2JXa31ey2JH43!00S_Oi2!01GmrK3",
      "2yy2"] },
  {
    names := ["Pacific/Tahiti"]
    kinds := [(-35880, false), (-36000, false)]
    changes := ["!0KK5Mu1"] },
  {
    names := ["Pacific/Tarawa"]
    kinds := [(41520, false), (43200, false)]
    changes := ["0001"] },
  {
    names := ["Pacific/Tongatapu"]
    kinds := [(44340, false), (44400, false), (46800, false), (50400, true)]
    changes := ["!1IHPn01!0Sp4FG2!18wMV033s025QW31zy26a431zy2!0RopsG31f02"] },
  {
    names := ["Pacific/Wake"]
    kinds := [(39960, false), (43200, false)]
    changes := ["0001"] },
  {
    names := ["Pacific/Wallis"]
    kinds := [(44100, false), (43200, false)]
    changes := ["0001"] },
  {
    names := ["WET"]
    kinds := [(0, false), (3600, true)]
    changes := [
      "!2Df6EG146W04RW14H004H014H004RW146W04H014H004H014H004H014H004H014RW04H014H004H014H004H014H00",
      "4H014H004H014H004H014RW04H014H004H014H004H014H004H014H004H014H004RW14x003d014x003d014x003d01",
      "55W03SW155W03SW155W03d014x003d014x003d0155W03SW155W03SW155W03SW155W03d014x003d014x003d0155W0",
      "3SW155W03SW155W03d014x003d014x003d014x003d0155W03SW155W03SW155W03d014x003d014x003d0155W03SW1",
      "55W03SW155W03d014x003d014x003d014x003d0155W03SW155W03SW155W03d014x003d014x003d0155W03SW155W0",
      "3SW155W03SW155W03d014x003d014x00"] }
  ]

def zoneEntries : List ZoneEntry :=
  zoneEntries1 ++ zoneEntries2 ++ zoneEntries3 ++ zoneEntries4 ++ zoneEntries5 ++ zoneEntries6 ++ zoneEntries7 ++ zoneEntries8

end ClauseAudit.Time
