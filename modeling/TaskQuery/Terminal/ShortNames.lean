import TaskQuery.Text.Blank
import TaskQuery.Text.Casing
import TaskQuery.Text.Reading

/-!
# Short names of pictographs

A terminal shows `:name:` as the pictograph of that name, when there is one.  A name may end in
`-emoji` or `-text`, which asks for the coloured or the plain form.

The table has a word for each pictograph: its names with bars between them, a colon, and its code
points, or two capital letters for a flag.  A name with a tilde stands for six: itself, and itself
with each of the skin tones behind it.
-/

namespace TaskQuery.Terminal

/-- The names, and the code points of the pictographs. -/
def shortNameTable : String := "
  +1|thumbs_up~|thumbsup:1f44d -1|__1|thumbs_down~|thumbsdown:1f44e 100|hundred_points:1f4af
  1234|input_numbers:1f522 1st_place_medal:1f947 2nd_place_medal:1f948 3rd_place_medal:1f949
  8ball|pool_8_ball:1f3b1 abacus:1f9ee abcd|input_latin_lowercase:1f521
  abc|input_latin_letters:1f524 ab|ab_button_(blood_type):1f18e
  accept|japanese_acceptable_button:1f251 adhesive_bandage:1fa79 admission_tickets:1f39f
  adult~:1f9d1 aerial_tramway:1f6a1 afghanistan|flag_for_afghanistan:AF airplane:2708
  airplane_arrival|airplane_arriving:1f6ec airplane_departure:1f6eb alarm_clock:23f0
  albania|flag_for_albania:AL alembic:2697 algeria|flag_for_algeria:DZ alien:1f47d
  alien_monster|space_invader:1f47e ambulance:1f691 american_football|football:1f3c8
  american_samoa|flag_for_american_samoa:AS amphora:1f3fa anchor:2693 andorra|flag_for_andorra:AD
  angel|baby_angel~:1f47c anger|anger_symbol:1f4a2 angola|flag_for_angola:AO
  angry_face_with_horns|imp:1f47f angry|angry_face:1f620 anguilla|flag_for_anguilla:AI
  anguished|anguished_face:1f627 ant:1f41c antarctica|flag_for_antarctica:AQ
  antenna_bars|signal_strength:1f4f6 antigua_&_barbuda|flag_for_antigua_&_barbuda:AG
  anxious_face_with_sweat|cold_sweat:1f630 apple|red_apple:1f34e aquarius:2652
  argentina|flag_for_argentina:AR aries:2648 armenia|flag_for_armenia:AM
  arrow_backward|reverse_button:25c0 arrow_double_down|fast_down_button:23ec
  arrow_double_up|fast_up_button:23eb arrow_down_small|downwards_button:1f53d
  arrow_down|down_arrow:2b07 arrow_forward|play_button:25b6
  arrow_heading_down|right_arrow_curving_down:2935 arrow_heading_up|right_arrow_curving_up:2934
  arrow_left|left_arrow:2b05 arrow_lower_left|down-left_arrow:2199
  arrow_lower_right|down-right_arrow:2198 arrow_right_hook|left_arrow_curving_right:21aa
  arrow_right|right_arrow:27a1 arrow_up_down|up-down_arrow:2195 arrow_up_small|upwards_button:1f53c
  arrow_upper_left|up-left_arrow:2196 arrow_upper_right|up-right_arrow:2197 arrow_up|up_arrow:2b06
  arrows_clockwise|clockwise_vertical_arrows:1f503
  arrows_counterclockwise|counterclockwise_arrows_button:1f504 articulated_lorry:1f69b
  art|artist_palette:1f3a8 aruba|flag_for_aruba:AW ascension_island|flag_for_ascension_island:AC
  astonished|astonished_face:1f632 athletic_shoe|running_shoe:1f45f atm|atm_sign:1f3e7
  atom_symbol:269b australia|flag_for_australia:AU austria|flag_for_austria:AT auto_rickshaw:1f6fa
  automobile|car|red_car:1f697 avocado:1f951 axe:1fa93 azerbaijan|flag_for_azerbaijan:AZ
  a|a_button_(blood_type):1f170 baby_bottle:1f37c baby_chick:1f424 baby_symbol:1f6bc baby~:1f476
  backhand_index_pointing_down~|point_down:1f447 backhand_index_pointing_left~|point_left:1f448
  backhand_index_pointing_right~|point_right:1f449 backhand_index_pointing_up~|point_up_2:1f446
  back|back_arrow:1f519 bacon:1f953 badger:1f9a1 badminton|badminton_racquet_and_shuttlecock:1f3f8
  bagel:1f96f baggage_claim:1f6c4 baguette_bread:1f956 bahamas|flag_for_bahamas:BS
  bahrain|flag_for_bahrain:BH balance_scale|scales:2696 bald:1f9b2 bald_man:1f468,200d,1f9b2
  bald_woman:1f469,200d,1f9b2 ballet_shoes:1fa70 balloon:1f388 ballot_box_with_ballot:1f5f3
  ballot_box_with_check:2611 bamboo|pine_decoration:1f38d banana:1f34c
  bangbang|double_exclamation_mark:203c bangladesh|flag_for_bangladesh:BD banjo:1fa95 bank:1f3e6
  bar_chart:1f4ca barbados|flag_for_barbados:BB barber|barber_pole:1f488 baseball:26be basket:1f9fa
  basketball:1f3c0 bat:1f987 bathtub:1f6c1 bath|person_taking_bath~:1f6c0 battery:1f50b
  beach_with_umbrella:1f3d6 beaming_face_with_smiling_eyes|grin:1f601 bearded_person~:1f9d4
  bear|bear_face:1f43b beating_heart|heartbeat:1f493 bed:1f6cf beers|clinking_beer_mugs:1f37b
  beer|beer_mug:1f37a beetle|lady_beetle:1f41e bee|honeybee:1f41d
  beginner|japanese_symbol_for_beginner:1f530 belarus|flag_for_belarus:BY
  belgium|flag_for_belgium:BE belize|flag_for_belize:BZ bell:1f514 bell_with_slash|no_bell:1f515
  bellhop_bell:1f6ce benin|flag_for_benin:BJ bento|bento_box:1f371 bermuda|flag_for_bermuda:BM
  beverage_box:1f9c3 bhutan|flag_for_bhutan:BT bicycle|bike:1f6b2 bicyclist|person_biking~:1f6b4
  bikini:1f459 billed_cap:1f9e2 biohazard|biohazard_sign:2623 bird:1f426
  birthday|birthday_cake:1f382 black_circle:26ab black_circle_for_record|record_button:23fa
  black_flag|waving_black_flag:1f3f4 black_heart:1f5a4 black_joker|joker:1f0cf
  black_large_square:2b1b
  black_left__pointing_double_triangle_with_vertical_bar|last_track_button:23ee
  black_medium-small_square|black_medium_small_square:25fe black_medium_square:25fc black_nib:2712
  black_right__pointing_double_triangle_with_vertical_bar|next_track_button:23ed
  black_right__pointing_triangle_with_double_vertical_bar|play_or_pause_button:23ef
  black_small_square:25aa black_square_button:1f532 black_square_for_stop|stop_button:23f9
  blond-haired_man~:1f471,200d,2642,fe0f blond-haired_person~|person_with_blond_hair:1f471
  blond-haired_woman~:1f471,200d,2640,fe0f blossom:1f33c blowfish:1f421 blue_book:1f4d8
  blue_car|sport_utility_vehicle:1f699 blue_circle|large_blue_circle:1f535 blue_heart:1f499
  blue_square:1f7e6 blush|smiling_face_with_smiling_eyes:1f60a boar:1f417 boat|sailboat:26f5
  bolivia|flag_for_bolivia:BO bomb:1f4a3 bone:1f9b4 bookmark:1f516 bookmark_tabs:1f4d1 books:1f4da
  book|open_book:1f4d6 boom|collision:1f4a5 boot|woman’s_boot:1f462
  bosnia_&_herzegovina|flag_for_bosnia_&_herzegovina:BA botswana|flag_for_botswana:BW
  bottle_with_popping_cork:1f37e bouquet:1f490 bouvet_island|flag_for_bouvet_island:BV
  bow_and_arrow:1f3f9 bowl_with_spoon:1f963 bowling:1f3b3 bow|person_bowing~:1f647
  boxing_glove:1f94a boy~:1f466 brain:1f9e0 brazil|flag_for_brazil:BR bread:1f35e
  breast-feeding~:1f931 brick:1f9f1 bride_with_veil~:1f470 bridge_at_night:1f309 briefcase:1f4bc
  briefs:1fa72 bright_button|high_brightness:1f506
  british_indian_ocean_territory|flag_for_british_indian_ocean_territory:IO
  british_virgin_islands|flag_for_british_virgin_islands:VG broccoli:1f966 broken_heart:1f494
  broom:1f9f9 brown_circle:1f7e4 brown_heart:1f90e brown_square:1f7eb brunei|flag_for_brunei:BN
  bug:1f41b building_construction:1f3d7 bulb|light_bulb:1f4a1 bulgaria|flag_for_bulgaria:BG
  bullet_train|bullettrain_front:1f685 bullettrain_side|high-speed_train:1f684
  burkina_faso|flag_for_burkina_faso:BF burrito:1f32f burundi|flag_for_burundi:BI bus:1f68c
  bus_stop|busstop:1f68f bust_in_silhouette:1f464 busts_in_silhouette:1f465 butter:1f9c8
  butterfly:1f98b b|b_button_(blood_type):1f171 cactus:1f335 cake|shortcake:1f370
  calendar|tear-off_calendar:1f4c6 call_me_hand~:1f919 calling|mobile_phone_with_arrow:1f4f2
  cambodia|flag_for_cambodia:KH camel|two-hump_camel:1f42b camera:1f4f7 camera_with_flash:1f4f8
  cameroon|flag_for_cameroon:CM camping:1f3d5 canada|flag_for_canada:CA
  canary_islands|flag_for_canary_islands:IC cancer:264b candle:1f56f candy:1f36c canned_food:1f96b
  canoe:1f6f6 cape_verde|flag_for_cape_verde:CV capital_abcd|input_latin_uppercase:1f520
  capricorn:2651 card_file_box:1f5c3 card_index:1f4c7 card_index_dividers:1f5c2
  caribbean_netherlands|flag_for_caribbean_netherlands:BQ carousel_horse:1f3a0
  carp_streamer|flags:1f38f carrot:1f955 castle|european_castle:1f3f0 cat2:1f408
  cat_face_with_tears_of_joy|joy_cat:1f639 cat_face_with_wry_smile|smirk_cat:1f63c
  cat|cat_face:1f431 cayman_islands|flag_for_cayman_islands:KY cd|optical_disk:1f4bf
  central_african_republic|flag_for_central_african_republic:CF
  ceuta_&_melilla|flag_for_ceuta_&_melilla:EA chad|flag_for_chad:TD chains:26d3 chair:1fa91
  chart_decreasing|chart_with_downwards_trend:1f4c9 chart_increasing|chart_with_upwards_trend:1f4c8
  chart|chart_increasing_with_yen:1f4b9 checkered_flag|chequered_flag:1f3c1 cheese_wedge:1f9c0
  cherries:1f352 cherry_blossom:1f338 chess_pawn:265f chestnut:1f330 chicken:1f414
  children_crossing:1f6b8 child~:1f9d2 chile|flag_for_chile:CL china|flag_for_china:CN
  chipmunk:1f43f chocolate_bar:1f36b chopsticks:1f962 christmas_island|flag_for_christmas_island:CX
  christmas_tree:1f384 church:26ea cigarette|smoking:1f6ac cinema:1f3a6 circled_m|m:24c2
  circus_tent:1f3aa city_sunrise|sunset:1f307 city_sunset|cityscape_at_dusk:1f306 cityscape:1f3d9
  clamp|compression:1f5dc clapper|clapper_board:1f3ac clap|clapping_hands~:1f44f
  classical_building:1f3db clinking_glasses:1f942 clipboard:1f4cb
  clipperton_island|flag_for_clipperton_island:CP clock1030|ten-thirty:1f565
  clock10|ten_o’clock:1f559 clock1130|eleven-thirty:1f566 clock11|eleven_o’clock:1f55a
  clock1230|twelve-thirty:1f567 clock12|twelve_o’clock:1f55b clock130|one-thirty:1f55c
  clock1|one_o’clock:1f550 clock230|two-thirty:1f55d clock2|two_o’clock:1f551
  clock330|three-thirty:1f55e clock3|three_o’clock:1f552 clock430|four-thirty:1f55f
  clock4|four_o’clock:1f553 clock530|five-thirty:1f560 clock5|five_o’clock:1f554
  clock630|six-thirty:1f561 clock6|six_o’clock:1f555 clock730|seven-thirty:1f562
  clock7|seven_o’clock:1f556 clock830|eight-thirty:1f563 clock8|eight_o’clock:1f557
  clock930|nine-thirty:1f564 clock9|nine_o’clock:1f558 closed_book:1f4d5
  closed_lock_with_key|locked_with_key:1f510 closed_mailbox_with_lowered_flag|mailbox_closed:1f4ea
  closed_mailbox_with_raised_flag|mailbox:1f4eb closed_umbrella:1f302 cloud:2601
  cloud_with_lightning:1f329 cloud_with_lightning_and_rain|thunder_cloud_and_rain:26c8
  cloud_with_rain:1f327 cloud_with_snow:1f328 cloud_with_tornado|tornado:1f32a clown_face:1f921
  club_suit|clubs:2663 clutch_bag|pouch:1f45d cl|cl_button:1f191 coat:1f9e5
  cocktail|cocktail_glass:1f378 coconut:1f965 cocos_(keeling)_islands|flag_for_cocos__islands:CC
  coffee|hot_beverage:2615 coffin:26b0 cold_face:1f976 colombia|flag_for_colombia:CO comet:2604
  comoros|flag_for_comoros:KM compass:1f9ed computer_disk|minidisc:1f4bd
  computer_mouse|three_button_mouse:1f5b1 computer|laptop_computer:1f4bb confetti_ball:1f38a
  confounded|confounded_face:1f616 confused|confused_face:1f615
  congo_-_brazzaville|flag_for_congo____brazzaville:CG
  congo_-_kinshasa|flag_for_congo____kinshasa:CD
  congratulations|japanese_congratulations_button:3297 construction:1f6a7 construction_worker~:1f477
  control_knobs:1f39b convenience_store:1f3ea cook_islands|flag_for_cook_islands:CK
  cooked_rice|rice:1f35a cookie:1f36a cooking|egg:1f373 cool|cool_button:1f192 copyright:a9
  cop|police_officer~:1f46e corn|ear_of_corn:1f33d costa_rica|flag_for_costa_rica:CR
  couch_and_lamp:1f6cb couple_with_heart:1f491
  couple_with_heart_man_man:1f468,200d,2764,fe0f,200d,1f468
  couple_with_heart_woman_man:1f469,200d,2764,fe0f,200d,1f468
  couple_with_heart_woman_woman:1f469,200d,2764,fe0f,200d,1f469 couplekiss:1f48f
  couple|man_and_woman_holding_hands:1f46b cow2:1f404 cowboy_hat_face:1f920 cow|cow_face:1f42e
  crab:1f980 crayon|lower_left_crayon:1f58d credit_card:1f4b3 crescent_moon:1f319 cricket:1f997
  cricket_bat_and_ball|cricket_game:1f3cf croatia|flag_for_croatia:HR crocodile:1f40a
  croissant:1f950 cross_mark_button|negative_squared_cross_mark:274e cross_mark|x:274c
  crossed_fingers~:1f91e crossed_flags:1f38c crossed_swords:2694 crown:1f451 crying_cat_face:1f63f
  crystal_ball:1f52e cry|crying_face:1f622 cuba|flag_for_cuba:CU cucumber:1f952 cup_with_straw:1f964
  cupcake:1f9c1 cupid|heart_with_arrow:1f498 curaçao|flag_for_curaçao:CW curling_stone:1f94c
  curly-haired_man:1f468,200d,1f9b1 curly-haired_woman:1f469,200d,1f9b1 curly_hair:1f9b1
  curly_loop:27b0 currency_exchange:1f4b1 curry|curry_rice:1f35b custard:1f36e customs:1f6c3
  cut_of_meat:1f969 cyclone:1f300 cyprus|flag_for_cyprus:CY czechia|flag_for_czech_republic:CZ
  côte_d’ivoire|flag_for_côte_d’ivoire:CI dagger|dagger_knife:1f5e1
  dancers|people_with_bunny_ears:1f46f dancer|woman_dancing~:1f483 dango:1f361
  dark_skin_tone|emoji_modifier_fitzpatrick_type__6:1f3ff dark_sunglasses:1f576
  dart|direct_hit:1f3af dash|dashing_away:1f4a8 date:1f4c5 deaf_person:1f9cf deciduous_tree:1f333
  deer:1f98c delivery_truck|truck:1f69a denmark|flag_for_denmark:DK department_store:1f3ec
  derelict_house|derelict_house_building:1f3da desert:1f3dc desert_island:1f3dd
  desktop_computer:1f5a5 detective~|sleuth_or_spy:1f575
  diamond_shape_with_a_dot_inside|diamond_with_a_dot:1f4a0 diamond_suit|diamonds:2666
  diego_garcia|flag_for_diego_garcia:DG dim_button|low_brightness:1f505
  disappointed_relieved|sad_but_relieved_face:1f625 disappointed|disappointed_face:1f61e
  diving_mask:1f93f diya_lamp:1fa94 dizzy:1f4ab dizzy_face:1f635 djibouti|flag_for_djibouti:DJ
  dna:1f9ec do_not_litter|no_littering:1f6af dog2:1f415 dog|dog_face:1f436
  dollar|dollar_banknote:1f4b5 dolls|japanese_dolls:1f38e dolphin|flipper:1f42c
  dominican_republic|flag_for_dominican_republic:DO dominica|flag_for_dominica:DM door:1f6aa
  dotted_six-pointed_star|six_pointed_star:1f52f double_curly_loop|loop:27bf
  double_vertical_bar|pause_button:23f8 doughnut:1f369 dove|dove_of_peace:1f54a
  downcast_face_with_sweat|sweat:1f613 dragon:1f409 dragon_face:1f432 dress:1f457
  dromedary_camel:1f42a drooling_face:1f924 drop_of_blood:1fa78 droplet:1f4a7 drum:1f941 duck:1f986
  dumpling:1f95f dvd:1f4c0 e-mail|e__mail:1f4e7 eagle:1f985 ear_of_rice|sheaf_of_rice:1f33e
  ear_with_hearing_aid:1f9bb earth_africa|globe_showing_europe-africa:1f30d
  earth_americas|globe_showing_americas:1f30e earth_asia|globe_showing_asia-australia:1f30f
  ear~:1f442 ecuador|flag_for_ecuador:EC eggplant:1f346 egypt|flag_for_egypt:EG
  eight-pointed_star|eight_pointed_black_star:2734 eight-spoked_asterisk|eight_spoked_asterisk:2733
  eight|keycap_8:38,fe0f,20e3 eject_button|eject_symbol:23cf el_salvador|flag_for_el_salvador:SV
  electric_plug:1f50c elephant:1f418 elf~:1f9dd email|envelope:2709
  emoji_modifier_fitzpatrick_type__1__2|light_skin_tone:1f3fb
  emoji_modifier_fitzpatrick_type__3|medium_light_skin_tone:1f3fc
  emoji_modifier_fitzpatrick_type__4|medium_skin_tone:1f3fd
  emoji_modifier_fitzpatrick_type__5|medium_dark_skin_tone:1f3fe end|end_arrow:1f51a
  england:1f3f4,e0067,e0062,e0065,e006e,e0067,e007f envelope_with_arrow:1f4e9
  equatorial_guinea|flag_for_equatorial_guinea:GQ eritrea|flag_for_eritrea:ER
  estonia|flag_for_estonia:EE ethiopia|flag_for_ethiopia:ET european_post_office:1f3e4
  european_union|flag_for_european_union:EU euro|euro_banknote:1f4b6 evergreen_tree:1f332
  ewe|sheep:1f411 exclamation_question_mark|interrobang:2049
  exclamation|exclamation_mark|heavy_exclamation_mark:2757 exploding_head:1f92f
  expressionless|expressionless_face:1f611 eye:1f441 eye_in_speech_bubble:1f441,fe0f,200d,1f5e8,fe0f
  eyeglasses|glasses:1f453 eyes:1f440 face_blowing_a_kiss|kissing_heart:1f618
  face_savoring_food|yum:1f60b face_screaming_in_fear|scream:1f631 face_vomiting:1f92e
  face_with_hand_over_mouth:1f92d face_with_head-bandage|face_with_head__bandage:1f915
  face_with_medical_mask|mask:1f637 face_with_monocle:1f9d0 face_with_open_mouth|open_mouth:1f62e
  face_with_raised_eyebrow:1f928 face_with_rolling_eyes:1f644
  face_with_steam_from_nose|triumph:1f624 face_with_symbols_on_mouth:1f92c
  face_with_tears_of_joy|joy:1f602 face_with_thermometer:1f912
  face_with_tongue|stuck_out_tongue:1f61b face_without_mouth|no_mouth:1f636
  facepunch|oncoming_fist~|punch:1f44a factory:1f3ed fairy~:1f9da falafel:1f9c6
  falkland_islands|flag_for_falkland_islands:FK fallen_leaf:1f342 family:1f46a
  family_man_boy:1f468,200d,1f466 family_man_boy_boy:1f468,200d,1f466,200d,1f466
  family_man_girl:1f468,200d,1f467 family_man_girl_boy:1f468,200d,1f467,200d,1f466
  family_man_girl_girl:1f468,200d,1f467,200d,1f467 family_man_man_boy:1f468,200d,1f468,200d,1f466
  family_man_man_boy_boy:1f468,200d,1f468,200d,1f466,200d,1f466
  family_man_man_girl:1f468,200d,1f468,200d,1f467
  family_man_man_girl_boy:1f468,200d,1f468,200d,1f467,200d,1f466
  family_man_man_girl_girl:1f468,200d,1f468,200d,1f467,200d,1f467
  family_man_woman_boy:1f468,200d,1f469,200d,1f466
  family_man_woman_boy_boy:1f468,200d,1f469,200d,1f466,200d,1f466
  family_man_woman_girl:1f468,200d,1f469,200d,1f467
  family_man_woman_girl_boy:1f468,200d,1f469,200d,1f467,200d,1f466
  family_man_woman_girl_girl:1f468,200d,1f469,200d,1f467,200d,1f467
  family_woman_boy:1f469,200d,1f466 family_woman_boy_boy:1f469,200d,1f466,200d,1f466
  family_woman_girl:1f469,200d,1f467 family_woman_girl_boy:1f469,200d,1f467,200d,1f466
  family_woman_girl_girl:1f469,200d,1f467,200d,1f467
  family_woman_woman_boy:1f469,200d,1f469,200d,1f466
  family_woman_woman_boy_boy:1f469,200d,1f469,200d,1f466,200d,1f466
  family_woman_woman_girl:1f469,200d,1f469,200d,1f467
  family_woman_woman_girl_boy:1f469,200d,1f469,200d,1f467,200d,1f466
  family_woman_woman_girl_girl:1f469,200d,1f469,200d,1f467,200d,1f467
  faroe_islands|flag_for_faroe_islands:FO fast-forward_button|fast_forward:23e9
  fast_reverse_button|rewind:23ea fax|fax_machine:1f4e0 fearful|fearful_face:1f628
  feet|paw_prints:1f43e female_sign:2640 ferris_wheel:1f3a1 ferry:26f4
  field_hockey|field_hockey_stick_and_ball:1f3d1 fiji|flag_for_fiji:FJ file_cabinet:1f5c4
  file_folder:1f4c1 film_frames:1f39e film_projector:1f4fd finland|flag_for_finland:FI fire:1f525
  fire_engine:1f692 fire_extinguisher:1f9ef firecracker:1f9e8 fireworks:1f386
  first_quarter_moon:1f313 first_quarter_moon_face|first_quarter_moon_with_face:1f31b fish:1f41f
  fish_cake|fish_cake_with_swirl:1f365 fishing_pole|fishing_pole_and_fish:1f3a3
  fist|raised_fist~:270a five|keycap_5:35,fe0f,20e3 flag_for_france|france:FR
  flag_for_french_guiana|french_guiana:GF flag_for_french_polynesia|french_polynesia:PF
  flag_for_french_southern_territories|french_southern_territories:TF flag_for_gabon|gabon:GA
  flag_for_gambia|gambia:GM flag_for_georgia|georgia:GE flag_for_germany|germany:DE
  flag_for_ghana|ghana:GH flag_for_gibraltar|gibraltar:GI flag_for_greece|greece:GR
  flag_for_greenland|greenland:GL flag_for_grenada|grenada:GD flag_for_guadeloupe|guadeloupe:GP
  flag_for_guam|guam:GU flag_for_guatemala|guatemala:GT flag_for_guernsey|guernsey:GG
  flag_for_guinea__bissau|guinea-bissau:GW flag_for_guinea|guinea:GN flag_for_guyana|guyana:GY
  flag_for_haiti|haiti:HT flag_for_heard_&_mcdonald_islands|heard_&_mcdonald_islands:HM
  flag_for_honduras|honduras:HN flag_for_hong_kong|hong_kong_sar_china:HK
  flag_for_hungary|hungary:HU flag_for_iceland|iceland:IS flag_for_india|india:IN
  flag_for_indonesia|indonesia:ID flag_for_iran|iran:IR flag_for_iraq|iraq:IQ
  flag_for_ireland|ireland:IE flag_for_isle_of_man|isle_of_man:IM flag_for_israel|israel:IL
  flag_for_italy|italy:IT flag_for_jamaica|jamaica:JM flag_for_japan:JP flag_for_jersey|jersey:JE
  flag_for_jordan|jordan:JO flag_for_kazakhstan|kazakhstan:KZ flag_for_kenya|kenya:KE
  flag_for_kiribati|kiribati:KI flag_for_kosovo|kosovo:XK flag_for_kuwait|kuwait:KW
  flag_for_kyrgyzstan|kyrgyzstan:KG flag_for_laos|laos:LA flag_for_latvia|latvia:LV
  flag_for_lebanon|lebanon:LB flag_for_lesotho|lesotho:LS flag_for_liberia|liberia:LR
  flag_for_libya|libya:LY flag_for_liechtenstein|liechtenstein:LI flag_for_lithuania|lithuania:LT
  flag_for_luxembourg|luxembourg:LU flag_for_macau|macau_sar_china:MO
  flag_for_macedonia|macedonia:MK flag_for_madagascar|madagascar:MG flag_for_malawi|malawi:MW
  flag_for_malaysia|malaysia:MY flag_for_maldives|maldives:MV flag_for_mali|mali:ML
  flag_for_malta|malta:MT flag_for_marshall_islands|marshall_islands:MH
  flag_for_martinique|martinique:MQ flag_for_mauritania|mauritania:MR
  flag_for_mauritius|mauritius:MU flag_for_mayotte|mayotte:YT flag_for_mexico|mexico:MX
  flag_for_micronesia|micronesia:FM flag_for_moldova|moldova:MD flag_for_monaco|monaco:MC
  flag_for_mongolia|mongolia:MN flag_for_montenegro|montenegro:ME flag_for_montserrat|montserrat:MS
  flag_for_morocco|morocco:MA flag_for_mozambique|mozambique:MZ flag_for_myanmar|myanmar_(burma):MM
  flag_for_namibia|namibia:NA flag_for_nauru|nauru:NR flag_for_nepal|nepal:NP
  flag_for_netherlands|netherlands:NL flag_for_new_caledonia|new_caledonia:NC
  flag_for_new_zealand|new_zealand:NZ flag_for_nicaragua|nicaragua:NI flag_for_nigeria|nigeria:NG
  flag_for_niger|niger:NE flag_for_niue|niue:NU flag_for_norfolk_island|norfolk_island:NF
  flag_for_north_korea|north_korea:KP flag_for_northern_mariana_islands|northern_mariana_islands:MP
  flag_for_norway|norway:NO flag_for_oman|oman:OM flag_for_pakistan|pakistan:PK
  flag_for_palau|palau:PW flag_for_palestinian_territories|palestinian_territories:PS
  flag_for_panama|panama:PA flag_for_papua_new_guinea|papua_new_guinea:PG
  flag_for_paraguay|paraguay:PY flag_for_peru|peru:PE flag_for_philippines|philippines:PH
  flag_for_pitcairn_islands|pitcairn_islands:PN flag_for_poland|poland:PL
  flag_for_portugal|portugal:PT flag_for_puerto_rico|puerto_rico:PR flag_for_qatar|qatar:QA
  flag_for_romania|romania:RO flag_for_russia|russia:RU flag_for_rwanda|rwanda:RW
  flag_for_réunion|réunion:RE flag_for_samoa|samoa:WS flag_for_san_marino|san_marino:SM
  flag_for_saudi_arabia|saudi_arabia:SA flag_for_senegal|senegal:SN flag_for_serbia|serbia:RS
  flag_for_seychelles|seychelles:SC flag_for_sierra_leone|sierra_leone:SL
  flag_for_singapore|singapore:SG flag_for_sint_maarten|sint_maarten:SX
  flag_for_slovakia|slovakia:SK flag_for_slovenia|slovenia:SI
  flag_for_solomon_islands|solomon_islands:SB flag_for_somalia|somalia:SO
  flag_for_south_africa|south_africa:ZA
  flag_for_south_georgia_&_south_sandwich_islands|south_georgia_&_south_sandwich_islands:GS
  flag_for_south_korea|south_korea:KR flag_for_south_sudan|south_sudan:SS flag_for_spain|spain:ES
  flag_for_sri_lanka|sri_lanka:LK flag_for_st._barthélemy|st._barthélemy:BL
  flag_for_st._helena|st._helena:SH flag_for_st._kitts_&_nevis|st._kitts_&_nevis:KN
  flag_for_st._lucia|st._lucia:LC flag_for_st._martin|st._martin:MF
  flag_for_st._pierre_&_miquelon|st._pierre_&_miquelon:PM
  flag_for_st._vincent_&_grenadines|st._vincent_&_grenadines:VC flag_for_sudan|sudan:SD
  flag_for_suriname|suriname:SR flag_for_svalbard_&_jan_mayen|svalbard_&_jan_mayen:SJ
  flag_for_swaziland|swaziland:SZ flag_for_sweden|sweden:SE flag_for_switzerland|switzerland:CH
  flag_for_syria|syria:SY flag_for_são_tomé_&_príncipe|são_tomé_&_príncipe:ST
  flag_for_taiwan|taiwan:TW flag_for_tajikistan|tajikistan:TJ flag_for_tanzania|tanzania:TZ
  flag_for_thailand|thailand:TH flag_for_timor__leste|timor-leste:TL flag_for_togo|togo:TG
  flag_for_tokelau|tokelau:TK flag_for_tonga|tonga:TO
  flag_for_trinidad_&_tobago|trinidad_&_tobago:TT flag_for_tristan_da_cunha|tristan_da_cunha:TA
  flag_for_tunisia|tunisia:TN flag_for_turkey:TR flag_for_turkmenistan|turkmenistan:TM
  flag_for_turks_&_caicos_islands|turks_&_caicos_islands:TC flag_for_tuvalu|tuvalu:TV
  flag_for_u.s._outlying_islands|u.s._outlying_islands:UM
  flag_for_u.s._virgin_islands|u.s._virgin_islands:VI flag_for_uganda|uganda:UG
  flag_for_ukraine|ukraine:UA flag_for_united_arab_emirates|united_arab_emirates:AE
  flag_for_united_kingdom|united_kingdom:GB flag_for_united_states|united_states:US
  flag_for_uruguay|uruguay:UY flag_for_uzbekistan|uzbekistan:UZ flag_for_vanuatu|vanuatu:VU
  flag_for_vatican_city|vatican_city:VA flag_for_venezuela|venezuela:VE flag_for_vietnam|vietnam:VN
  flag_for_wallis_&_futuna|wallis_&_futuna:WF flag_for_western_sahara|western_sahara:EH
  flag_for_yemen|yemen:YE flag_for_zambia|zambia:ZM flag_for_zimbabwe|zimbabwe:ZW
  flag_for_åland_islands|åland_islands:AX flag_in_hole|golf:26f3 flamingo:1f9a9 flashlight:1f526
  flat_shoe:1f97f fleur-de-lis|fleur__de__lis:269c flexed_biceps~|muscle:1f4aa floppy_disk:1f4be
  flower_playing_cards:1f3b4 flushed|flushed_face:1f633 flying_disc:1f94f flying_saucer:1f6f8
  fog:1f32b foggy:1f301 folded_hands~|pray:1f64f foot:1f9b6 footprints:1f463 fork_and_knife:1f374
  fork_and_knife_with_plate:1f37d fortune_cookie:1f960 fountain:26f2
  fountain_pen|lower_left_fountain_pen:1f58b four_leaf_clover:1f340 four|keycap_4:34,fe0f,20e3
  fox_face:1f98a frame_with_picture|framed_picture:1f5bc free|free_button:1f193
  french_fries|fries:1f35f fried_shrimp:1f364 frog|frog_face:1f438
  front-facing_baby_chick|hatched_chick:1f425 frowning_face|white_frowning_face:2639
  frowning|frowning_face_with_open_mouth:1f626 fuel_pump|fuelpump:26fd full_moon:1f315
  full_moon_face|full_moon_with_face:1f31d funeral_urn:26b1 game_die:1f3b2 garlic:1f9c4 gear:2699
  gemini:264a gem|gem_stone:1f48e genie:1f9de ghost:1f47b gift_heart|heart_with_ribbon:1f49d
  gift|wrapped_gift:1f381 giraffe:1f992 girl~:1f467 glass_of_milk:1f95b globe_with_meridians:1f310
  gloves:1f9e4 glowing_star|star2:1f31f goal_net:1f945 goat:1f410 goblin|japanese_goblin:1f47a
  goggles:1f97d golfer|person_golfing~:1f3cc gorilla:1f98d graduation_cap|mortar_board:1f393
  grapes:1f347 green_apple:1f34f green_book:1f4d7 green_circle:1f7e2 green_heart:1f49a
  green_salad:1f957 green_square:1f7e9 grey_exclamation|white_exclamation_mark:2755
  grey_question|white_question_mark:2754 grimacing|grimacing_face:1f62c
  grinning_cat_face_with_smiling_eyes|smile_cat:1f638 grinning_cat_face|smiley_cat:1f63a
  grinning_face_with_big_eyes|smiley:1f603 grinning_face_with_smiling_eyes|smile:1f604
  grinning_face_with_sweat|sweat_smile:1f605 grinning_squinting_face|laughing|satisfied:1f606
  grinning|grinning_face:1f600 growing_heart|heartpulse:1f497 guard~|guardsman:1f482 guide_dog:1f9ae
  guitar:1f3b8 gun|pistol:1f52b haircut|person_getting_haircut~:1f487 hamburger:1f354 hammer:1f528
  hammer_and_pick:2692 hammer_and_wrench:1f6e0 hamster|hamster_face:1f439
  hand_with_fingers_splayed~|raised_hand_with_fingers_splayed:1f590 handbag:1f45c handshake:1f91d
  hand|raised_hand~:270b hankey|pile_of_poo|poop|shit:1f4a9 hatching_chick:1f423
  headphone|headphones:1f3a7 hear-no-evil_monkey|hear_no_evil:1f649 heart_decoration:1f49f
  heart_eyes_cat|smiling_cat_face_with_heart-eyes:1f63b
  heart_eyes|smiling_face_with_heart-eyes:1f60d heart_suit|hearts:2665 heart|red_heart:2764
  heavy_check_mark:2714 heavy_division_sign:2797 heavy_dollar_sign:1f4b2
  heavy_heart_exclamation|heavy_heart_exclamation_mark_ornament:2763 heavy_large_circle|o:2b55
  heavy_minus_sign:2796 heavy_multiplication_x:2716 heavy_plus_sign:2795 hedgehog:1f994
  helicopter:1f681 helm_symbol:2388 helmet_with_white_cross|rescue_worker’s_helmet:26d1 herb:1f33f
  hibiscus:1f33a high-heeled_shoe|high_heel:1f460 high_voltage|zap:26a1 hiking_boot:1f97e
  hindu_temple:1f6d5 hippopotamus:1f99b hocho|kitchen_knife|knife:1f52a hole:1f573 honey_pot:1f36f
  horizontal_traffic_light|traffic_light:1f6a5 horse_racing~:1f3c7 horse|horse_face:1f434
  hospital:1f3e5 hot_dog:1f32d hot_face:1f975 hot_pepper:1f336 hot_springs|hotsprings:2668
  hotel:1f3e8 hourglass_flowing_sand|hourglass_not_done:23f3 hourglass|hourglass_done:231b
  house:1f3e0 house_buildings|houses:1f3d8 house_with_garden:1f3e1 hugging_face:1f917
  hushed|hushed_face:1f62f ice:1f9ca ice_cream:1f368 ice_hockey|ice_hockey_stick_and_puck:1f3d2
  ice_skate:26f8 icecream|soft_ice_cream:1f366 ideograph_advantage|japanese_bargain_button:1f250
  id|id_button:1f194 inbox_tray:1f4e5 incoming_envelope:1f4e8 index_pointing_up~|point_up:261d
  infinity:267e information_desk_person|person_tipping_hand~:1f481
  information|information_source:2139 innocent|smiling_face_with_halo:1f607
  input_symbols|symbols:1f523 iphone|mobile_phone:1f4f1
  izakaya_lantern|lantern|red_paper_lantern:1f3ee jack-o-lantern|jack_o_lantern:1f383
  japanese_application_button|u7533:1f238 japanese_castle:1f3ef japanese_discount_button|u5272:1f239
  japanese_free_of_charge_button|u7121:1f21a japanese_here_button|koko:1f201
  japanese_monthly_amount_button|u6708:1f237 japanese_no_vacancy_button|u6e80:1f235
  japanese_not_free_of_charge_button|u6709:1f236 japanese_ogre|ogre:1f479
  japanese_open_for_business_button|u55b6:1f23a japanese_passing_grade_button|u5408:1f234
  japanese_post_office|post_office:1f3e3 japanese_prohibited_button|u7981:1f232
  japanese_reserved_button|u6307:1f22f japanese_secret_button|secret:3299
  japanese_service_charge_button|sa:1f202 japanese_vacancy_button|u7a7a:1f233
  japan|map_of_japan:1f5fe jeans:1f456 jigsaw:1f9e9 joystick:1f579 kaaba:1f54b kangaroo:1f998
  key:1f511 keyboard:2328 keycap_#:23,fe0f,20e3 keycap_*:2a,fe0f,20e3 keycap_0|zero:30,fe0f,20e3
  keycap_10|ten:1f51f keycap_1|one:31,fe0f,20e3 keycap_2|two:32,fe0f,20e3
  keycap_3|three:33,fe0f,20e3 keycap_6|six:36,fe0f,20e3 keycap_7|seven:37,fe0f,20e3
  keycap_9|nine:39,fe0f,20e3 keycap_asterisk:2a,20e3 keycap_digit_eight:38,20e3
  keycap_digit_five:35,20e3 keycap_digit_four:34,20e3 keycap_digit_nine:39,20e3
  keycap_digit_one:31,20e3 keycap_digit_seven:37,20e3 keycap_digit_six:36,20e3
  keycap_digit_three:33,20e3 keycap_digit_two:32,20e3 keycap_digit_zero:30,20e3
  keycap_number_sign:23,20e3 kick_scooter:1f6f4 kimono:1f458
  kiss_man_man:1f468,200d,2764,fe0f,200d,1f48b,200d,1f468
  kiss_woman_man:1f469,200d,2764,fe0f,200d,1f48b,200d,1f468
  kiss_woman_woman:1f469,200d,2764,fe0f,200d,1f48b,200d,1f469 kissing_cat|kissing_cat_face:1f63d
  kissing_closed_eyes|kissing_face_with_closed_eyes:1f61a
  kissing_face_with_smiling_eyes|kissing_smiling_eyes:1f619 kissing|kissing_face:1f617
  kiss|kiss_mark:1f48b kite:1fa81 kiwi_fruit:1f95d koala:1f428 lab_coat:1f97c label:1f3f7
  lacrosse:1f94d large_blue_diamond:1f537 large_orange_diamond:1f536 last_quarter_moon:1f317
  last_quarter_moon_face|last_quarter_moon_with_face:1f31c latin_cross:271d
  leaf_fluttering_in_wind|leaves:1f343 leafy_green:1f96c ledger:1f4d2 left-facing_fist~:1f91b
  left-right_arrow|left_right_arrow:2194 left_luggage:1f6c5 left_speech_bubble:1f5e8
  leftwards_arrow_with_hook|right_arrow_curving_left:21a9 leg:1f9b5 lemon:1f34b leo:264c
  leopard:1f406 level_slider:1f39a libra:264e light_rail:1f688 link:1f517 linked_paperclips:1f587
  lion_face:1f981 lipstick:1f484 lips|mouth:1f444 litter_in_bin_sign|put_litter_in_its_place:1f6ae
  lizard:1f98e llama:1f999 lobster:1f99e lock_with_ink_pen|locked_with_pen:1f50f lock|locked:1f512
  locomotive|steam_locomotive:1f682 lollipop:1f36d lotion_bottle:1f9f4
  loud_sound|speaker_high_volume:1f50a loudly_crying_face|sob:1f62d loudspeaker:1f4e2
  love-you_gesture~:1f91f love_hotel:1f3e9 love_letter:1f48c lower_left_ballpoint_pen|pen:1f58a
  lower_left_paintbrush|paintbrush:1f58c luggage:1f9f3 lying_face:1f925
  mag_right|magnifying_glass_tilted_right:1f50e mage~:1f9d9 magnet:1f9f2
  mag|magnifying_glass_tilted_left:1f50d mahjong|mahjong_red_dragon:1f004
  mailbox_with_mail|open_mailbox_with_raised_flag:1f4ec
  mailbox_with_no_mail|open_mailbox_with_lowered_flag:1f4ed male_sign:2642
  man_artist~:1f468,200d,1f3a8 man_astronaut~:1f468,200d,1f680 man_biking~:1f6b4,200d,2642,fe0f
  man_bouncing_ball~:26f9,fe0f,200d,2642,fe0f man_bowing~:1f647,200d,2642,fe0f
  man_cartwheeling~:1f938,200d,2642,fe0f man_climbing~:1f9d7,200d,2642,fe0f
  man_construction_worker~:1f477,200d,2642,fe0f man_cook~:1f468,200d,1f373 man_dancing~:1f57a
  man_detective~:1f575,fe0f,200d,2642,fe0f man_elf~:1f9dd,200d,2642,fe0f
  man_facepalming~:1f926,200d,2642,fe0f man_factory_worker~:1f468,200d,1f3ed
  man_fairy~:1f9da,200d,2642,fe0f man_farmer~:1f468,200d,1f33e man_firefighter~:1f468,200d,1f692
  man_frowning~:1f64d,200d,2642,fe0f man_genie:1f9de,200d,2642,fe0f
  man_gesturing_no~:1f645,200d,2642,fe0f man_gesturing_ok~:1f646,200d,2642,fe0f
  man_getting_haircut~:1f487,200d,2642,fe0f man_getting_massage~:1f486,200d,2642,fe0f
  man_golfing~:1f3cc,fe0f,200d,2642,fe0f man_guard~:1f482,200d,2642,fe0f
  man_health_worker~:1f468,200d,2695,fe0f
  man_in_business_suit_levitating|man_in_suit_levitating~:1f574
  man_in_lotus_position~:1f9d8,200d,2642,fe0f man_in_manual_wheelchair:1f468,200d,1f9bd
  man_in_motorized_wheelchair:1f468,200d,1f9bc man_in_steamy_room~:1f9d6,200d,2642,fe0f
  man_in_tuxedo~:1f935 man_judge~:1f468,200d,2696,fe0f man_juggling~:1f939,200d,2642,fe0f
  man_lifting_weights~:1f3cb,fe0f,200d,2642,fe0f man_mage~:1f9d9,200d,2642,fe0f
  man_mechanic~:1f468,200d,1f527 man_mountain_biking~:1f6b5,200d,2642,fe0f
  man_office_worker~:1f468,200d,1f4bc man_pilot~:1f468,200d,2708,fe0f
  man_playing_handball~:1f93e,200d,2642,fe0f man_playing_water_polo~:1f93d,200d,2642,fe0f
  man_police_officer~:1f46e,200d,2642,fe0f man_pouting~:1f64e,200d,2642,fe0f
  man_raising_hand~:1f64b,200d,2642,fe0f man_rowing_boat~:1f6a3,200d,2642,fe0f
  man_running~:1f3c3,200d,2642,fe0f man_scientist~:1f468,200d,1f52c
  man_shrugging~:1f937,200d,2642,fe0f man_singer~:1f468,200d,1f3a4 man_student~:1f468,200d,1f393
  man_surfing~:1f3c4,200d,2642,fe0f man_swimming~:1f3ca,200d,2642,fe0f man_teacher~:1f468,200d,1f3eb
  man_technologist~:1f468,200d,1f4bb man_tipping_hand~:1f481,200d,2642,fe0f
  man_vampire~:1f9db,200d,2642,fe0f man_walking~:1f6b6,200d,2642,fe0f
  man_wearing_turban~:1f473,200d,2642,fe0f man_with_chinese_cap~|man_with_gua_pi_mao:1f472
  man_with_probing_cane:1f468,200d,1f9af man_with_turban|person_wearing_turban~:1f473
  man_zombie:1f9df,200d,2642,fe0f mango:1f96d mans_shoe|man’s_shoe|shoe:1f45e
  mantelpiece_clock:1f570 manual_wheelchair:1f9bd man~:1f468 maple_leaf:1f341
  martial_arts_uniform:1f94b massage|person_getting_massage~:1f486 mate:1f9c9 meat_on_bone:1f356
  mechanical_arm:1f9be mechanical_leg:1f9bf medical_symbol:2695 mega|megaphone:1f4e3 melon:1f348
  memo|pencil:1f4dd men_with_bunny_ears:1f46f,200d,2642,fe0f men_wrestling:1f93c,200d,2642,fe0f
  menorah|menorah_with_nine_branches:1f54e mens|men’s_room:1f6b9 mermaid~:1f9dc,200d,2640,fe0f
  merman~:1f9dc,200d,2642,fe0f merperson~:1f9dc metro:1f687 microbe:1f9a0 microphone:1f3a4
  microscope:1f52c middle_finger~|reversed_hand_with_middle_finger_extended:1f595
  military_medal:1f396 milky_way:1f30c minibus:1f690 moai|moyai:1f5ff mobile_phone_off:1f4f4
  money-mouth_face|money__mouth_face:1f911 money_bag|moneybag:1f4b0 money_with_wings:1f4b8
  monkey:1f412 monkey_face:1f435 monorail:1f69d moon_cake:1f96e
  moon_viewing_ceremony|rice_scene:1f391 moon|waxing_gibbous_moon:1f314 mosque:1f54c mosquito:1f99f
  motor_boat:1f6e5 motor_scooter:1f6f5 motorcycle|racing_motorcycle:1f3cd motorized_wheelchair:1f9bc
  motorway:1f6e3 mount_fuji:1f5fb mountain:26f0 mountain_bicyclist|person_mountain_biking~:1f6b5
  mountain_cableway:1f6a0 mountain_railway:1f69e mouse2:1f401 mouse|mouse_face:1f42d
  movie_camera:1f3a5 mrs._claus~:1f936 mushroom:1f344 musical_keyboard:1f3b9 musical_note:1f3b5
  musical_notes|notes:1f3b6 musical_score:1f3bc mute|muted_speaker:1f507
  nail_care|nail_polish~:1f485 name_badge:1f4db national_park:1f3de nauseated_face:1f922
  nazar_amulet:1f9ff necktie:1f454 nerd_face:1f913 neutral_face:1f610 new_moon:1f311
  new_moon_face|new_moon_with_face:1f31a newspaper:1f4f0 new|new_button:1f195 ng|ng_button:1f196
  night_with_stars:1f303 no_bicycles:1f6b3 no_entry:26d4 no_entry_sign|prohibited:1f6ab
  no_good|person_gesturing_no~:1f645 no_mobile_phones:1f4f5 no_one_under_eighteen|underage:1f51e
  no_pedestrians:1f6b7 no_smoking:1f6ad non-potable_water|non__potable_water:1f6b1 nose~:1f443
  notebook:1f4d3 notebook_with_decorative_cover:1f4d4 nut_and_bolt:1f529
  o2|o_button_(blood_type):1f17e ocean|water_wave:1f30a octopus:1f419 oden:1f362
  office|office_building:1f3e2 oil_drum:1f6e2 ok_hand~:1f44c ok_woman|person_gesturing_ok~:1f646
  ok|ok_button:1f197 old_key:1f5dd old_man~|older_man:1f474 old_woman~|older_woman:1f475
  older_adult~:1f9d3 om|om_symbol:1f549 oncoming_automobile:1f698 oncoming_bus:1f68d
  oncoming_police_car:1f694 oncoming_taxi:1f696 one-piece_swimsuit:1fa71 onion:1f9c5
  on|on!_arrow:1f51b open_file_folder:1f4c2 open_hands~:1f450 ophiuchus:26ce orange_book:1f4d9
  orange_circle:1f7e0 orange_heart:1f9e1 orange_square:1f7e7 orangutan:1f9a7 orthodox_cross:2626
  otter:1f9a6 outbox_tray:1f4e4 owl:1f989 ox:1f402 oyster:1f9aa p_button|parking:1f17f package:1f4e6
  page_facing_up:1f4c4 page_with_curl:1f4c3 pager:1f4df palm_tree:1f334 palms_up_together~:1f932
  pancakes:1f95e panda_face:1f43c paperclip:1f4ce parrot:1f99c part_alternation_mark:303d
  partly_sunny|sun_behind_cloud:26c5 party_popper|tada:1f389 partying_face:1f973
  passenger_ship:1f6f3 passport_control:1f6c2 peace_symbol:262e peach:1f351 peacock:1f99a
  peanuts:1f95c pear:1f350 pencil2:270f penguin:1f427 pensive|pensive_face:1f614
  people_holding_hands:1f9d1,200d,1f91d,200d,1f9d1 people_wrestling:1f93c performing_arts:1f3ad
  persevere|persevering_face:1f623 person_bouncing_ball~|person_with_ball:26f9
  person_cartwheeling~:1f938 person_climbing~:1f9d7 person_facepalming~:1f926 person_fencing:1f93a
  person_frowning~:1f64d person_in_bed~|sleeping_accommodation:1f6cc person_in_lotus_position~:1f9d8
  person_in_steamy_room~:1f9d6 person_juggling~:1f939 person_kneeling:1f9ce
  person_lifting_weights~|weight_lifter:1f3cb person_playing_handball~:1f93e
  person_playing_water_polo~:1f93d person_pouting~|person_with_pouting_face:1f64e
  person_raising_hand~|raising_hand:1f64b person_rowing_boat~|rowboat:1f6a3
  person_running~|runner|running:1f3c3 person_shrugging~:1f937 person_standing:1f9cd
  person_surfing~|surfer:1f3c4 person_swimming~|swimmer:1f3ca person_walking~|walking:1f6b6
  petri_dish:1f9eb phone|telephone:260e pick:26cf pie:1f967 pig2:1f416 pig_nose:1f43d
  pig|pig_face:1f437 pill:1f48a pinching_hand:1f90f pineapple:1f34d
  ping_pong|table_tennis_paddle_and_ball:1f3d3 pirate_flag:1f3f4,200d,2620,fe0f pisces:2653
  pizza:1f355 place_of_worship:1f6d0 pleading_face:1f97a police_car:1f693
  police_car_light|rotating_light:1f6a8 poodle:1f429 popcorn:1f37f postal_horn:1f4ef postbox:1f4ee
  pot_of_food|stew:1f372 potable_water:1f6b0 potato:1f954 poultry_leg:1f357
  pound|pound_banknote:1f4b7 pouting_cat|pouting_cat_face:1f63e pouting_face|rage:1f621
  prayer_beads:1f4ff pregnant_woman~:1f930 pretzel:1f968 princess~:1f478 prince~:1f934 printer:1f5a8
  probing_cane:1f9af purple_circle:1f7e3 purple_heart:1f49c purple_square:1f7ea purse:1f45b
  pushpin:1f4cc question|question_mark:2753 rabbit2:1f407 rabbit|rabbit_face:1f430 raccoon:1f99d
  racehorse:1f40e racing_car:1f3ce radio:1f4fb radio_button:1f518 radioactive|radioactive_sign:2622
  railway_car:1f683 railway_track:1f6e4 rainbow:1f308 rainbow_flag:1f3f3,fe0f,200d,1f308
  raised_back_of_hand~:1f91a
  raised_hand_with_part_between_middle_and_ring_fingers|vulcan_salute~:1f596
  raised_hands|raising_hands~:1f64c ram:1f40f ramen|steaming_bowl:1f35c rat:1f400 razor:1fa92
  receipt:1f9fe recycle|recycling_symbol:267b red-haired_man:1f468,200d,1f9b0
  red-haired_woman:1f469,200d,1f9b0 red_circle:1f534 red_envelope:1f9e7 red_hair:1f9b0
  red_square:1f7e5 red_triangle_pointed_down|small_red_triangle_down:1f53b
  red_triangle_pointed_up|small_red_triangle:1f53a
  regional_indicator_a|regional_indicator_symbol_letter_a:1f1e6
  regional_indicator_b|regional_indicator_symbol_letter_b:1f1e7
  regional_indicator_c|regional_indicator_symbol_letter_c:1f1e8
  regional_indicator_d|regional_indicator_symbol_letter_d:1f1e9
  regional_indicator_e|regional_indicator_symbol_letter_e:1f1ea
  regional_indicator_f|regional_indicator_symbol_letter_f:1f1eb
  regional_indicator_g|regional_indicator_symbol_letter_g:1f1ec
  regional_indicator_h|regional_indicator_symbol_letter_h:1f1ed
  regional_indicator_i|regional_indicator_symbol_letter_i:1f1ee
  regional_indicator_j|regional_indicator_symbol_letter_j:1f1ef
  regional_indicator_k|regional_indicator_symbol_letter_k:1f1f0
  regional_indicator_l|regional_indicator_symbol_letter_l:1f1f1
  regional_indicator_m|regional_indicator_symbol_letter_m:1f1f2
  regional_indicator_n|regional_indicator_symbol_letter_n:1f1f3
  regional_indicator_o|regional_indicator_symbol_letter_o:1f1f4
  regional_indicator_p|regional_indicator_symbol_letter_p:1f1f5
  regional_indicator_q|regional_indicator_symbol_letter_q:1f1f6
  regional_indicator_r|regional_indicator_symbol_letter_r:1f1f7
  regional_indicator_symbol_letter_t|regional_indicator_t:1f1f9
  regional_indicator_symbol_letter_u|regional_indicator_u:1f1fa
  regional_indicator_symbol_letter_v|regional_indicator_v:1f1fb
  regional_indicator_symbol_letter_w|regional_indicator_w:1f1fc
  regional_indicator_symbol_letter_x|regional_indicator_x:1f1fd
  regional_indicator_symbol_letter_y|regional_indicator_y:1f1fe
  regional_indicator_symbol_letter_z|regional_indicator_z:1f1ff
  regional_indicator_s|regional_indicator_symbol_letter_s:1f1f8 registered:ae
  relaxed|smiling_face:263a relieved|relieved_face:1f60c reminder_ribbon:1f397
  repeat_one|repeat_single_button:1f502 repeat|repeat_button:1f501 restroom:1f6bb
  revolving_hearts:1f49e rhinoceros:1f98f ribbon:1f380 rice_ball:1f359 rice_cracker:1f358
  right-facing_fist~:1f91c right_anger_bubble:1f5ef ring:1f48d ringed_planet:1fa90
  roasted_sweet_potato|sweet_potato:1f360 robot|robot_face:1f916 rocket:1f680 roll_of_paper:1f9fb
  rolled-up_newspaper|rolled__up_newspaper:1f5de roller_coaster:1f3a2
  rolling_on_the_floor_laughing:1f923 rooster:1f413 rose:1f339 rosette:1f3f5 round_pushpin:1f4cd
  rugby_football:1f3c9 running_shirt|running_shirt_with_sash:1f3bd safety_pin:1f9f7
  safety_vest:1f9ba sagittarius:2650 sake:1f376 salt:1f9c2 sandal|woman’s_sandal:1f461
  sandwich:1f96a santa|santa_claus~:1f385 sari:1f97b satellite|satellite_antenna:1f4e1
  sauropod:1f995 saxophone:1f3b7 scarf:1f9e3 school:1f3eb school_backpack|school_satchel:1f392
  scissors:2702 scorpion:1f982 scorpio|scorpius:264f
  scotland:1f3f4,e0067,e0062,e0073,e0063,e0074,e007f scream_cat|weary_cat_face:1f640 scroll:1f4dc
  seat:1f4ba see-no-evil_monkey|see_no_evil:1f648 seedling:1f331 selfie~:1f933
  service_dog:1f415,200d,1f9ba shallow_pan_of_food:1f958 shamrock:2618 shark:1f988 shaved_ice:1f367
  shell|spiral_shell:1f41a shield:1f6e1 shinto_shrine:26e9 ship:1f6a2 shirt|t-shirt|tshirt:1f455
  shooting_star|stars:1f320 shopping_bags:1f6cd shopping_cart:1f6d2 shorts:1fa73 shower:1f6bf
  shrimp:1f990 shuffle_tracks_button|twisted_rightwards_arrows:1f500 shushing_face:1f92b
  sign_of_the_horns~:1f918 skateboard:1f6f9 skier:26f7 ski|skis:1f3bf skull:1f480
  skull_and_crossbones:2620 skunk:1f9a8 sled:1f6f7 sleeping|sleeping_face:1f634
  sleepy|sleepy_face:1f62a slightly_frowning_face:1f641 slightly_smiling_face:1f642
  slot_machine:1f3b0 sloth:1f9a5 small_airplane:1f6e9 small_blue_diamond:1f539
  small_orange_diamond:1f538 smiling_face_with_3_hearts:1f970
  smiling_face_with_horns|smiling_imp:1f608 smiling_face_with_sunglasses|sunglasses:1f60e
  smirk|smirking_face:1f60f snail:1f40c snake:1f40d sneezing_face:1f927
  snow-capped_mountain|snow_capped_mountain:1f3d4 snowboarder~:1f3c2 snowflake:2744 snowman:2603
  snowman_without_snow:26c4 soap:1f9fc soccer|soccer_ball:26bd socks:1f9e6 softball:1f94e
  soon|soon_arrow:1f51c sos|sos_button:1f198 sound|speaker_medium_volume:1f509
  spade_suit|spades:2660 spaghetti:1f35d sparkle:2747 sparkler:1f387 sparkles:2728
  sparkling_heart:1f496 speak-no-evil_monkey|speak_no_evil:1f64a speaker|speaker_low_volume:1f508
  speaking_head|speaking_head_in_silhouette:1f5e3 speech_balloon:1f4ac speedboat:1f6a4 spider:1f577
  spider_web:1f578 spiral_calendar|spiral_calendar_pad:1f5d3 spiral_note_pad|spiral_notepad:1f5d2
  sponge:1f9fd spoon:1f944 sports_medal:1f3c5 spouting_whale|whale:1f433 squid:1f991
  squinting_face_with_tongue|stuck_out_tongue_closed_eyes:1f61d stadium:1f3df star-struck:1f929
  star_and_crescent:262a star_of_david:2721 star|white_medium_star:2b50 station:1f689
  statue_of_liberty:1f5fd stethoscope:1fa7a stop_sign:1f6d1 stopwatch:23f1 straight_ruler:1f4cf
  strawberry:1f353 stuck_out_tongue_winking_eye|winking_face_with_tongue:1f61c
  studio_microphone:1f399 stuffed_flatbread:1f959
  sun_behind_large_cloud|white_sun_behind_cloud:1f325
  sun_behind_rain_cloud|white_sun_behind_cloud_with_rain:1f326
  sun_behind_small_cloud|white_sun_with_small_cloud:1f324 sun_with_face:1f31e sunflower:1f33b
  sunrise:1f305 sunrise_over_mountains:1f304 sun|sunny:2600 superhero:1f9b8 supervillain:1f9b9
  sushi:1f363 suspension_railway:1f69f swan:1f9a2 sweat_droplets|sweat_drops:1f4a6 synagogue:1f54d
  syringe:1f489 t-rex:1f996 taco:1f32e takeout_box:1f961 tanabata_tree:1f38b tangerine:1f34a
  taurus:2649 taxi:1f695 tea|teacup_without_handle:1f375 teddy_bear:1f9f8 telephone_receiver:1f4de
  telescope:1f52d television|tv:1f4fa tennis:1f3be tent:26fa test_tube:1f9ea thermometer:1f321
  thinking_face:1f914 thought_balloon:1f4ad thread:1f9f5 ticket:1f3ab tiger2:1f405
  tiger|tiger_face:1f42f timer_clock:23f2 tired_face:1f62b tm|trade_mark:2122 toilet:1f6bd
  tokyo_tower:1f5fc tomato:1f345 tongue:1f445 toolbox:1f9f0 tooth:1f9b7 top_hat|tophat:1f3a9
  top|top_arrow:1f51d trackball:1f5b2 tractor:1f69c train2:1f686 train|tram_car:1f68b tram:1f68a
  triangular_flag|triangular_flag_on_post:1f6a9 triangular_ruler:1f4d0 trident|trident_emblem:1f531
  trolleybus:1f68e trophy:1f3c6 tropical_drink:1f379 tropical_fish:1f420 trumpet:1f3ba tulip:1f337
  tumbler_glass:1f943 turkey:1f983 turtle:1f422 two_hearts:1f495 two_men_holding_hands:1f46c
  two_women_holding_hands:1f46d umbrella:2602 umbrella_on_ground:26f1 umbrella_with_rain_drops:2614
  unamused|unamused_face:1f612 unicorn_face:1f984 united_nations:UN unlock|unlocked:1f513
  upside-down_face|upside__down_face:1f643 up|up!_button:1f199 vampire~:1f9db
  vertical_traffic_light:1f6a6 vhs|videocassette:1f4fc vibration_mode:1f4f3 video_camera:1f4f9
  video_game:1f3ae violin:1f3bb virgo:264d volcano:1f30b volleyball:1f3d0 vs|vs_button:1f19a
  v|victory_hand~:270c waffle:1f9c7 wales:1f3f4,e0067,e0062,e0077,e006c,e0073,e007f
  waning_crescent_moon:1f318 waning_gibbous_moon:1f316 warning:26a0 wastebasket:1f5d1 watch:231a
  water_buffalo:1f403 water_closet|wc:1f6be watermelon:1f349 wave|waving_hand~:1f44b
  waving_white_flag|white_flag:1f3f3 wavy_dash:3030 waxing_crescent_moon:1f312
  weary|weary_face:1f629 wedding:1f492 whale2:1f40b wheel_of_dharma:2638
  wheelchair|wheelchair_symbol:267f white-haired_man:1f468,200d,1f9b3
  white-haired_woman:1f469,200d,1f9b3 white_check_mark|white_heavy_check_mark:2705 white_circle:26aa
  white_flower:1f4ae white_hair:1f9b3 white_heart:1f90d white_large_square:2b1c
  white_medium-small_square|white_medium_small_square:25fd white_medium_square:25fb
  white_small_square:25ab white_square_button:1f533 wilted_flower:1f940
  wind_blowing_face|wind_face:1f32c wind_chime:1f390 wine_glass:1f377 wink|winking_face:1f609
  wolf|wolf_face:1f43a woman_artist~:1f469,200d,1f3a8 woman_astronaut~:1f469,200d,1f680
  woman_biking~:1f6b4,200d,2640,fe0f woman_bouncing_ball~:26f9,fe0f,200d,2640,fe0f
  woman_bowing~:1f647,200d,2640,fe0f woman_cartwheeling~:1f938,200d,2640,fe0f
  woman_climbing~:1f9d7,200d,2640,fe0f woman_construction_worker~:1f477,200d,2640,fe0f
  woman_cook~:1f469,200d,1f373 woman_detective~:1f575,fe0f,200d,2640,fe0f
  woman_elf~:1f9dd,200d,2640,fe0f woman_facepalming~:1f926,200d,2640,fe0f
  woman_factory_worker~:1f469,200d,1f3ed woman_fairy~:1f9da,200d,2640,fe0f
  woman_farmer~:1f469,200d,1f33e woman_firefighter~:1f469,200d,1f692
  woman_frowning~:1f64d,200d,2640,fe0f woman_genie:1f9de,200d,2640,fe0f
  woman_gesturing_no~:1f645,200d,2640,fe0f woman_gesturing_ok~:1f646,200d,2640,fe0f
  woman_getting_haircut~:1f487,200d,2640,fe0f woman_getting_massage~:1f486,200d,2640,fe0f
  woman_golfing~:1f3cc,fe0f,200d,2640,fe0f woman_guard~:1f482,200d,2640,fe0f
  woman_health_worker~:1f469,200d,2695,fe0f woman_in_lotus_position~:1f9d8,200d,2640,fe0f
  woman_in_manual_wheelchair:1f469,200d,1f9bd woman_in_motorized_wheelchair:1f469,200d,1f9bc
  woman_in_steamy_room~:1f9d6,200d,2640,fe0f woman_judge~:1f469,200d,2696,fe0f
  woman_juggling~:1f939,200d,2640,fe0f woman_lifting_weights~:1f3cb,fe0f,200d,2640,fe0f
  woman_mage~:1f9d9,200d,2640,fe0f woman_mechanic~:1f469,200d,1f527
  woman_mountain_biking~:1f6b5,200d,2640,fe0f woman_office_worker~:1f469,200d,1f4bc
  woman_pilot~:1f469,200d,2708,fe0f woman_playing_handball~:1f93e,200d,2640,fe0f
  woman_playing_water_polo~:1f93d,200d,2640,fe0f woman_police_officer~:1f46e,200d,2640,fe0f
  woman_pouting~:1f64e,200d,2640,fe0f woman_raising_hand~:1f64b,200d,2640,fe0f
  woman_rowing_boat~:1f6a3,200d,2640,fe0f woman_running~:1f3c3,200d,2640,fe0f
  woman_scientist~:1f469,200d,1f52c woman_shrugging~:1f937,200d,2640,fe0f
  woman_singer~:1f469,200d,1f3a4 woman_student~:1f469,200d,1f393 woman_surfing~:1f3c4,200d,2640,fe0f
  woman_swimming~:1f3ca,200d,2640,fe0f woman_teacher~:1f469,200d,1f3eb
  woman_technologist~:1f469,200d,1f4bb woman_tipping_hand~:1f481,200d,2640,fe0f
  woman_vampire~:1f9db,200d,2640,fe0f woman_walking~:1f6b6,200d,2640,fe0f
  woman_wearing_turban~:1f473,200d,2640,fe0f woman_with_headscarf~:1f9d5
  woman_with_probing_cane:1f469,200d,1f9af woman_zombie:1f9df,200d,2640,fe0f
  womans_clothes|woman’s_clothes:1f45a womans_hat|woman’s_hat:1f452 woman~:1f469
  women_with_bunny_ears:1f46f,200d,2640,fe0f women_wrestling:1f93c,200d,2640,fe0f
  womens|women’s_room:1f6ba woozy_face:1f974 world_map:1f5fa worried|worried_face:1f61f wrench:1f527
  writing_hand~:270d yarn:1f9f6 yawning_face:1f971 yellow_circle:1f7e1 yellow_heart:1f49b
  yellow_square:1f7e8 yen|yen_banknote:1f4b4 yin_yang:262f yo-yo:1fa80 zany_face:1f92a zebra:1f993
  zipper-mouth_face|zipper__mouth_face:1f910 zombie:1f9df zzz:1f4a4"

/-- A name of a pictograph. -/
structure ShortName where
  /-- The name. -/
  name : List Char
  /-- Whether there are names for its skin tones. -/
  hasTones : Bool
  /-- The pictograph. -/
  pictograph : List Char

/-- The letter of a flag. -/
def flagLetter (c : Char) : Char := Char.ofNat (0x1f1e6 + (c.toNat - 'A'.toNat))

/-- The characters that code points write, with commas between them, or the letters of a flag. -/
def pictographOf (codes : List Char) : List Char :=
  if codes.all Char.isUpper then codes.map flagLetter
  else (Text.splitOn [','] codes).filterMap fun code => (Text.hexNumber? code).map Char.ofNat

/-- The names that a word of the table lists. -/
def ShortName.ofWord (word : List Char) : List ShortName :=
  match Text.cut? [':'] word with
  | none => []
  | some (names, codes) => (Text.splitOn ['|'] names).map fun name =>
    { name := name.filter (· ≠ '~'), hasTones := name.contains '~'
      pictograph := pictographOf codes }

/-- The names of the table. -/
def shortNames : List ShortName := (Text.words shortNameTable.toList).flatMap ShortName.ofWord

/-- The skin tones: the ending of a name for each, and its character. -/
def skinTones : List (List Char × Char) :=
  [("_light_skin_tone", 0x1f3fb), ("_medium-light_skin_tone", 0x1f3fc),
    ("_medium_skin_tone", 0x1f3fd), ("_medium-dark_skin_tone", 0x1f3fe),
    ("_dark_skin_tone", 0x1f3ff)].map fun (ending, code) => (ending.toList, Char.ofNat code)

/-- A pictograph in a skin tone, which stands behind its first character and takes the place of
the selector of the coloured form there. -/
def inTone (tone : Char) : List Char → List Char
  | c :: '\ufe0f' :: cs => c :: tone :: cs
  | c :: cs => c :: tone :: cs
  | [] => [tone]

/-- The part before an ending. -/
def without? (ending s : List Char) : Option (List Char) :=
  if ending.isSuffixOf s then some (s.take (s.length - ending.length)) else none

/-- The pictograph with a name of the table. -/
def listed? (name : List Char) : Option (List Char) :=
  (shortNames.find? fun n => n.name = name).map ShortName.pictograph

/-- The pictograph with a name that ends in a skin tone. -/
def toned? (name : List Char) : Option (List Char) :=
  skinTones.findSome? fun (ending, tone) => do
    let base ← without? ending name
    let n ← shortNames.find? fun n => n.hasTones && n.name = base
    return inTone tone n.pictograph

/-- The pictograph with a short name, in any letter case. -/
def pictograph? (name : List Char) : Option (List Char) :=
  let name := Text.lower name
  (listed? name).or (toned? name)

/-- What the text between two colons stands for. -/
def named? (name : List Char) : Option (List Char) :=
  match without? "-emoji".toList name, without? "-text".toList name with
  | some base, _ => (pictograph? base).map (· ++ ['\ufe0f'])
  | none, some base => (pictograph? base).map (· ++ ['\ufe0e'])
  | none, none => pictograph? name

/-- The name before the next colon, and the text after that colon; none where a blank or the end
of the text comes first. -/
def shortName? (s : List Char) : Option (List Char × List Char) :=
  let name := s.takeWhile fun c => c ≠ ':' && !Text.isBlank c
  match s.drop name.length with
  | ':' :: rest => some (name, rest)
  | _ => none

/-- A short name takes characters away. -/
theorem length_of_shortName? {s name rest : List Char} (h : shortName? s = some (name, rest)) :
    rest.length < s.length := by
  simp only [shortName?] at h
  split at h
  · next hd =>
    obtain ⟨-, rfl⟩ := Prod.mk.inj (Option.some.inj h)
    have := congrArg List.length hd
    rw [List.length_drop, List.length_cons] at this
    omega
  · exact absurd h nofun

/-- A text with pictographs in the place of their short names.  A name is what stands between two
colons without blanks; one that is unknown stays, with both of its colons. -/
def withPictographs (s : List Char) : List Char :=
  match s with
  | [] => []
  | c :: cs =>
    if c = ':' then
      match _h : shortName? cs with
      | some (name, rest) => (named? name).getD (':' :: name ++ [':']) ++ withPictographs rest
      | none => c :: withPictographs cs
    else c :: withPictographs cs
termination_by s.length
decreasing_by
  · exact Nat.lt_succ_of_lt (length_of_shortName? _h)
  · exact Nat.lt_succ_self _
  · exact Nat.lt_succ_self _

end TaskQuery.Terminal
