/-!
# Emoji codes from G to O

Behind the name of each picture stand, in hexadecimal digits, the code points of the
characters that show it.
-/

namespace LogMarkup

/-- The emoji codes that begin with letters from G to O. -/
def emojiCodesGToO : String := "
gabon=1F1EC-1F1E6 gambia=1F1EC-1F1F2 game_die=1F3B2 garlic=1F9C4 gear=2699 gem=1F48E gem_stone=1F48E
gemini=264A genie=1F9DE georgia=1F1EC-1F1EA germany=1F1E9-1F1EA ghana=1F1EC-1F1ED ghost=1F47B
gibraltar=1F1EC-1F1EE gift=1F381 gift_heart=1F49D giraffe=1F992 girl=1F467
girl_dark_skin_tone=1F467-1F3FF girl_light_skin_tone=1F467-1F3FB
girl_medium-dark_skin_tone=1F467-1F3FE girl_medium-light_skin_tone=1F467-1F3FC
girl_medium_skin_tone=1F467-1F3FD glass_of_milk=1F95B glasses=1F453 globe_showing_americas=1F30E
globe_showing_asia-australia=1F30F globe_showing_europe-africa=1F30D globe_with_meridians=1F310
gloves=1F9E4 glowing_star=1F31F goal_net=1F945 goat=1F410 goblin=1F47A goggles=1F97D golf=26F3
golfer=1F3CC gorilla=1F98D graduation_cap=1F393 grapes=1F347 greece=1F1EC-1F1F7 green_apple=1F34F
green_book=1F4D7 green_circle=1F7E2 green_heart=1F49A green_salad=1F957 green_square=1F7E9
greenland=1F1EC-1F1F1 grenada=1F1EC-1F1E9 grey_exclamation=2755 grey_question=2754 grimacing=1F62C
grimacing_face=1F62C grin=1F601 grinning=1F600 grinning_cat_face=1F63A
grinning_cat_face_with_smiling_eyes=1F638 grinning_face=1F600 grinning_face_with_big_eyes=1F603
grinning_face_with_smiling_eyes=1F604 grinning_face_with_sweat=1F605 grinning_squinting_face=1F606
growing_heart=1F497 guadeloupe=1F1EC-1F1F5 guam=1F1EC-1F1FA guard=1F482
guard_dark_skin_tone=1F482-1F3FF guard_light_skin_tone=1F482-1F3FB
guard_medium-dark_skin_tone=1F482-1F3FE guard_medium-light_skin_tone=1F482-1F3FC
guard_medium_skin_tone=1F482-1F3FD guardsman=1F482 guatemala=1F1EC-1F1F9 guernsey=1F1EC-1F1EC
guide_dog=1F9AE guinea=1F1EC-1F1F3 guinea-bissau=1F1EC-1F1FC guitar=1F3B8 gun=1F52B
guyana=1F1EC-1F1FE haircut=1F487 haiti=1F1ED-1F1F9 hamburger=1F354 hammer=1F528 hammer_and_pick=2692
hammer_and_wrench=1F6E0 hamster=1F439 hamster_face=1F439 hand=270B hand_with_fingers_splayed=1F590
hand_with_fingers_splayed_dark_skin_tone=1F590-1F3FF
hand_with_fingers_splayed_light_skin_tone=1F590-1F3FB
hand_with_fingers_splayed_medium-dark_skin_tone=1F590-1F3FE
hand_with_fingers_splayed_medium-light_skin_tone=1F590-1F3FC
hand_with_fingers_splayed_medium_skin_tone=1F590-1F3FD handbag=1F45C handshake=1F91D hankey=1F4A9
hatched_chick=1F425 hatching_chick=1F423 headphone=1F3A7 headphones=1F3A7 hear-no-evil_monkey=1F649
hear_no_evil=1F649 heard_&_mcdonald_islands=1F1ED-1F1F2 heart=2764 heart_decoration=1F49F
heart_eyes=1F60D heart_eyes_cat=1F63B heart_suit=2665 heart_with_arrow=1F498 heart_with_ribbon=1F49D
heartbeat=1F493 heartpulse=1F497 hearts=2665 heavy_check_mark=2714 heavy_division_sign=2797
heavy_dollar_sign=1F4B2 heavy_exclamation_mark=2757 heavy_heart_exclamation=2763
heavy_heart_exclamation_mark_ornament=2763 heavy_large_circle=2B55 heavy_minus_sign=2796
heavy_multiplication_x=2716 heavy_plus_sign=2795 hedgehog=1F994 helicopter=1F681 helm_symbol=2388
helmet_with_white_cross=26D1 herb=1F33F hibiscus=1F33A high-heeled_shoe=1F460 high-speed_train=1F684
high_brightness=1F506 high_heel=1F460 high_voltage=26A1 hiking_boot=1F97E hindu_temple=1F6D5
hippopotamus=1F99B hocho=1F52A hole=1F573 honduras=1F1ED-1F1F3 honey_pot=1F36F honeybee=1F41D
hong_kong_sar_china=1F1ED-1F1F0 horizontal_traffic_light=1F6A5 horse=1F434 horse_face=1F434
horse_racing=1F3C7 horse_racing_dark_skin_tone=1F3C7-1F3FF horse_racing_light_skin_tone=1F3C7-1F3FB
horse_racing_medium-dark_skin_tone=1F3C7-1F3FE horse_racing_medium-light_skin_tone=1F3C7-1F3FC
horse_racing_medium_skin_tone=1F3C7-1F3FD hospital=1F3E5 hot_beverage=2615 hot_dog=1F32D
hot_face=1F975 hot_pepper=1F336 hot_springs=2668 hotel=1F3E8 hotsprings=2668 hourglass=231B
hourglass_done=231B hourglass_flowing_sand=23F3 hourglass_not_done=23F3 house=1F3E0
house_buildings=1F3D8 house_with_garden=1F3E1 houses=1F3D8 hugging_face=1F917 hundred_points=1F4AF
hungary=1F1ED-1F1FA hushed=1F62F hushed_face=1F62F ice=1F9CA ice_cream=1F368 ice_hockey=1F3D2
ice_hockey_stick_and_puck=1F3D2 ice_skate=26F8 icecream=1F366 iceland=1F1EE-1F1F8 id=1F194
id_button=1F194 ideograph_advantage=1F250 imp=1F47F inbox_tray=1F4E5 incoming_envelope=1F4E8
index_pointing_up=261D index_pointing_up_dark_skin_tone=261D-1F3FF
index_pointing_up_light_skin_tone=261D-1F3FB index_pointing_up_medium-dark_skin_tone=261D-1F3FE
index_pointing_up_medium-light_skin_tone=261D-1F3FC index_pointing_up_medium_skin_tone=261D-1F3FD
india=1F1EE-1F1F3 indonesia=1F1EE-1F1E9 infinity=267E information=2139 information_desk_person=1F481
information_source=2139 innocent=1F607 input_latin_letters=1F524 input_latin_lowercase=1F521
input_latin_uppercase=1F520 input_numbers=1F522 input_symbols=1F523 interrobang=2049 iphone=1F4F1
iran=1F1EE-1F1F7 iraq=1F1EE-1F1F6 ireland=1F1EE-1F1EA isle_of_man=1F1EE-1F1F2 israel=1F1EE-1F1F1
italy=1F1EE-1F1F9 izakaya_lantern=1F3EE jack-o-lantern=1F383 jack_o_lantern=1F383
jamaica=1F1EF-1F1F2 japan=1F5FE japanese_acceptable_button=1F251 japanese_application_button=1F238
japanese_bargain_button=1F250 japanese_castle=1F3EF japanese_congratulations_button=3297
japanese_discount_button=1F239 japanese_dolls=1F38E japanese_free_of_charge_button=1F21A
japanese_goblin=1F47A japanese_here_button=1F201 japanese_monthly_amount_button=1F237
japanese_no_vacancy_button=1F235 japanese_not_free_of_charge_button=1F236 japanese_ogre=1F479
japanese_open_for_business_button=1F23A japanese_passing_grade_button=1F234
japanese_post_office=1F3E3 japanese_prohibited_button=1F232 japanese_reserved_button=1F22F
japanese_secret_button=3299 japanese_service_charge_button=1F202 japanese_symbol_for_beginner=1F530
japanese_vacancy_button=1F233 jeans=1F456 jersey=1F1EF-1F1EA jigsaw=1F9E9 joker=1F0CF
jordan=1F1EF-1F1F4 joy=1F602 joy_cat=1F639 joystick=1F579 kaaba=1F54B kangaroo=1F998
kazakhstan=1F1F0-1F1FF kenya=1F1F0-1F1EA key=1F511 keyboard=2328 keycap_#=23-FE0F-20E3
keycap_*=2A-FE0F-20E3 keycap_0=30-FE0F-20E3 keycap_1=31-FE0F-20E3 keycap_10=1F51F
keycap_2=32-FE0F-20E3 keycap_3=33-FE0F-20E3 keycap_4=34-FE0F-20E3 keycap_5=35-FE0F-20E3
keycap_6=36-FE0F-20E3 keycap_7=37-FE0F-20E3 keycap_8=38-FE0F-20E3 keycap_9=39-FE0F-20E3
keycap_asterisk=2A-20E3 keycap_digit_eight=38-20E3 keycap_digit_five=35-20E3
keycap_digit_four=34-20E3 keycap_digit_nine=39-20E3 keycap_digit_one=31-20E3
keycap_digit_seven=37-20E3 keycap_digit_six=36-20E3 keycap_digit_three=33-20E3
keycap_digit_two=32-20E3 keycap_digit_zero=30-20E3 keycap_number_sign=23-20E3 kick_scooter=1F6F4
kimono=1F458 kiribati=1F1F0-1F1EE kiss=1F48B kiss_man_man=1F468-200D-2764-FE0F-200D-1F48B-200D-1F468
kiss_mark=1F48B kiss_woman_man=1F469-200D-2764-FE0F-200D-1F48B-200D-1F468
kiss_woman_woman=1F469-200D-2764-FE0F-200D-1F48B-200D-1F469 kissing=1F617 kissing_cat=1F63D
kissing_cat_face=1F63D kissing_closed_eyes=1F61A kissing_face=1F617
kissing_face_with_closed_eyes=1F61A kissing_face_with_smiling_eyes=1F619 kissing_heart=1F618
kissing_smiling_eyes=1F619 kitchen_knife=1F52A kite=1FA81 kiwi_fruit=1F95D knife=1F52A koala=1F428
koko=1F201 kosovo=1F1FD-1F1F0 kuwait=1F1F0-1F1FC kyrgyzstan=1F1F0-1F1EC lab_coat=1F97C label=1F3F7
lacrosse=1F94D lady_beetle=1F41E lantern=1F3EE laos=1F1F1-1F1E6 laptop_computer=1F4BB
large_blue_circle=1F535 large_blue_diamond=1F537 large_orange_diamond=1F536 last_quarter_moon=1F317
last_quarter_moon_face=1F31C last_quarter_moon_with_face=1F31C last_track_button=23EE
latin_cross=271D latvia=1F1F1-1F1FB laughing=1F606 leaf_fluttering_in_wind=1F343 leafy_green=1F96C
leaves=1F343 lebanon=1F1F1-1F1E7 ledger=1F4D2 left-facing_fist=1F91B
left-facing_fist_dark_skin_tone=1F91B-1F3FF left-facing_fist_light_skin_tone=1F91B-1F3FB
left-facing_fist_medium-dark_skin_tone=1F91B-1F3FE
left-facing_fist_medium-light_skin_tone=1F91B-1F3FC left-facing_fist_medium_skin_tone=1F91B-1F3FD
left-right_arrow=2194 left_arrow=2B05 left_arrow_curving_right=21AA left_luggage=1F6C5
left_right_arrow=2194 left_speech_bubble=1F5E8 leftwards_arrow_with_hook=21A9 leg=1F9B5 lemon=1F34B
leo=264C leopard=1F406 lesotho=1F1F1-1F1F8 level_slider=1F39A liberia=1F1F1-1F1F7 libra=264E
libya=1F1F1-1F1FE liechtenstein=1F1F1-1F1EE light_bulb=1F4A1 light_rail=1F688 light_skin_tone=1F3FB
link=1F517 linked_paperclips=1F587 lion_face=1F981 lips=1F444 lipstick=1F484 lithuania=1F1F1-1F1F9
litter_in_bin_sign=1F6AE lizard=1F98E llama=1F999 lobster=1F99E lock=1F512 lock_with_ink_pen=1F50F
locked=1F512 locked_with_key=1F510 locked_with_pen=1F50F locomotive=1F682 lollipop=1F36D loop=27BF
lotion_bottle=1F9F4 loud_sound=1F50A loudly_crying_face=1F62D loudspeaker=1F4E2
love-you_gesture=1F91F love-you_gesture_dark_skin_tone=1F91F-1F3FF
love-you_gesture_light_skin_tone=1F91F-1F3FB love-you_gesture_medium-dark_skin_tone=1F91F-1F3FE
love-you_gesture_medium-light_skin_tone=1F91F-1F3FC love-you_gesture_medium_skin_tone=1F91F-1F3FD
love_hotel=1F3E9 love_letter=1F48C low_brightness=1F505 lower_left_ballpoint_pen=1F58A
lower_left_crayon=1F58D lower_left_fountain_pen=1F58B lower_left_paintbrush=1F58C luggage=1F9F3
luxembourg=1F1F1-1F1FA lying_face=1F925 m=24C2 macau_sar_china=1F1F2-1F1F4 macedonia=1F1F2-1F1F0
madagascar=1F1F2-1F1EC mag=1F50D mag_right=1F50E mage=1F9D9 mage_dark_skin_tone=1F9D9-1F3FF
mage_light_skin_tone=1F9D9-1F3FB mage_medium-dark_skin_tone=1F9D9-1F3FE
mage_medium-light_skin_tone=1F9D9-1F3FC mage_medium_skin_tone=1F9D9-1F3FD magnet=1F9F2
magnifying_glass_tilted_left=1F50D magnifying_glass_tilted_right=1F50E mahjong=1F004
mahjong_red_dragon=1F004 mailbox=1F4EB mailbox_closed=1F4EA mailbox_with_mail=1F4EC
mailbox_with_no_mail=1F4ED malawi=1F1F2-1F1FC malaysia=1F1F2-1F1FE maldives=1F1F2-1F1FB
male_sign=2642 mali=1F1F2-1F1F1 malta=1F1F2-1F1F9 man=1F468 man_and_woman_holding_hands=1F46B
man_artist=1F468-200D-1F3A8 man_artist_dark_skin_tone=1F468-1F3FF-200D-1F3A8
man_artist_light_skin_tone=1F468-1F3FB-200D-1F3A8
man_artist_medium-dark_skin_tone=1F468-1F3FE-200D-1F3A8
man_artist_medium-light_skin_tone=1F468-1F3FC-200D-1F3A8
man_artist_medium_skin_tone=1F468-1F3FD-200D-1F3A8 man_astronaut=1F468-200D-1F680
man_astronaut_dark_skin_tone=1F468-1F3FF-200D-1F680
man_astronaut_light_skin_tone=1F468-1F3FB-200D-1F680
man_astronaut_medium-dark_skin_tone=1F468-1F3FE-200D-1F680
man_astronaut_medium-light_skin_tone=1F468-1F3FC-200D-1F680
man_astronaut_medium_skin_tone=1F468-1F3FD-200D-1F680 man_biking=1F6B4-200D-2642-FE0F
man_biking_dark_skin_tone=1F6B4-1F3FF-200D-2642-FE0F
man_biking_light_skin_tone=1F6B4-1F3FB-200D-2642-FE0F
man_biking_medium-dark_skin_tone=1F6B4-1F3FE-200D-2642-FE0F
man_biking_medium-light_skin_tone=1F6B4-1F3FC-200D-2642-FE0F
man_biking_medium_skin_tone=1F6B4-1F3FD-200D-2642-FE0F man_bouncing_ball=26F9-FE0F-200D-2642-FE0F
man_bouncing_ball_dark_skin_tone=26F9-1F3FF-200D-2642-FE0F
man_bouncing_ball_light_skin_tone=26F9-1F3FB-200D-2642-FE0F
man_bouncing_ball_medium-dark_skin_tone=26F9-1F3FE-200D-2642-FE0F
man_bouncing_ball_medium-light_skin_tone=26F9-1F3FC-200D-2642-FE0F
man_bouncing_ball_medium_skin_tone=26F9-1F3FD-200D-2642-FE0F man_bowing=1F647-200D-2642-FE0F
man_bowing_dark_skin_tone=1F647-1F3FF-200D-2642-FE0F
man_bowing_light_skin_tone=1F647-1F3FB-200D-2642-FE0F
man_bowing_medium-dark_skin_tone=1F647-1F3FE-200D-2642-FE0F
man_bowing_medium-light_skin_tone=1F647-1F3FC-200D-2642-FE0F
man_bowing_medium_skin_tone=1F647-1F3FD-200D-2642-FE0F man_cartwheeling=1F938-200D-2642-FE0F
man_cartwheeling_dark_skin_tone=1F938-1F3FF-200D-2642-FE0F
man_cartwheeling_light_skin_tone=1F938-1F3FB-200D-2642-FE0F
man_cartwheeling_medium-dark_skin_tone=1F938-1F3FE-200D-2642-FE0F
man_cartwheeling_medium-light_skin_tone=1F938-1F3FC-200D-2642-FE0F
man_cartwheeling_medium_skin_tone=1F938-1F3FD-200D-2642-FE0F man_climbing=1F9D7-200D-2642-FE0F
man_climbing_dark_skin_tone=1F9D7-1F3FF-200D-2642-FE0F
man_climbing_light_skin_tone=1F9D7-1F3FB-200D-2642-FE0F
man_climbing_medium-dark_skin_tone=1F9D7-1F3FE-200D-2642-FE0F
man_climbing_medium-light_skin_tone=1F9D7-1F3FC-200D-2642-FE0F
man_climbing_medium_skin_tone=1F9D7-1F3FD-200D-2642-FE0F
man_construction_worker=1F477-200D-2642-FE0F
man_construction_worker_dark_skin_tone=1F477-1F3FF-200D-2642-FE0F
man_construction_worker_light_skin_tone=1F477-1F3FB-200D-2642-FE0F
man_construction_worker_medium-dark_skin_tone=1F477-1F3FE-200D-2642-FE0F
man_construction_worker_medium-light_skin_tone=1F477-1F3FC-200D-2642-FE0F
man_construction_worker_medium_skin_tone=1F477-1F3FD-200D-2642-FE0F man_cook=1F468-200D-1F373
man_cook_dark_skin_tone=1F468-1F3FF-200D-1F373 man_cook_light_skin_tone=1F468-1F3FB-200D-1F373
man_cook_medium-dark_skin_tone=1F468-1F3FE-200D-1F373
man_cook_medium-light_skin_tone=1F468-1F3FC-200D-1F373
man_cook_medium_skin_tone=1F468-1F3FD-200D-1F373 man_dancing=1F57A
man_dancing_dark_skin_tone=1F57A-1F3FF man_dancing_light_skin_tone=1F57A-1F3FB
man_dancing_medium-dark_skin_tone=1F57A-1F3FE man_dancing_medium-light_skin_tone=1F57A-1F3FC
man_dancing_medium_skin_tone=1F57A-1F3FD man_dark_skin_tone=1F468-1F3FF
man_detective=1F575-FE0F-200D-2642-FE0F man_detective_dark_skin_tone=1F575-1F3FF-200D-2642-FE0F
man_detective_light_skin_tone=1F575-1F3FB-200D-2642-FE0F
man_detective_medium-dark_skin_tone=1F575-1F3FE-200D-2642-FE0F
man_detective_medium-light_skin_tone=1F575-1F3FC-200D-2642-FE0F
man_detective_medium_skin_tone=1F575-1F3FD-200D-2642-FE0F man_elf=1F9DD-200D-2642-FE0F
man_elf_dark_skin_tone=1F9DD-1F3FF-200D-2642-FE0F man_elf_light_skin_tone=1F9DD-1F3FB-200D-2642-FE0F
man_elf_medium-dark_skin_tone=1F9DD-1F3FE-200D-2642-FE0F
man_elf_medium-light_skin_tone=1F9DD-1F3FC-200D-2642-FE0F
man_elf_medium_skin_tone=1F9DD-1F3FD-200D-2642-FE0F man_facepalming=1F926-200D-2642-FE0F
man_facepalming_dark_skin_tone=1F926-1F3FF-200D-2642-FE0F
man_facepalming_light_skin_tone=1F926-1F3FB-200D-2642-FE0F
man_facepalming_medium-dark_skin_tone=1F926-1F3FE-200D-2642-FE0F
man_facepalming_medium-light_skin_tone=1F926-1F3FC-200D-2642-FE0F
man_facepalming_medium_skin_tone=1F926-1F3FD-200D-2642-FE0F man_factory_worker=1F468-200D-1F3ED
man_factory_worker_dark_skin_tone=1F468-1F3FF-200D-1F3ED
man_factory_worker_light_skin_tone=1F468-1F3FB-200D-1F3ED
man_factory_worker_medium-dark_skin_tone=1F468-1F3FE-200D-1F3ED
man_factory_worker_medium-light_skin_tone=1F468-1F3FC-200D-1F3ED
man_factory_worker_medium_skin_tone=1F468-1F3FD-200D-1F3ED man_fairy=1F9DA-200D-2642-FE0F
man_fairy_dark_skin_tone=1F9DA-1F3FF-200D-2642-FE0F
man_fairy_light_skin_tone=1F9DA-1F3FB-200D-2642-FE0F
man_fairy_medium-dark_skin_tone=1F9DA-1F3FE-200D-2642-FE0F
man_fairy_medium-light_skin_tone=1F9DA-1F3FC-200D-2642-FE0F
man_fairy_medium_skin_tone=1F9DA-1F3FD-200D-2642-FE0F man_farmer=1F468-200D-1F33E
man_farmer_dark_skin_tone=1F468-1F3FF-200D-1F33E man_farmer_light_skin_tone=1F468-1F3FB-200D-1F33E
man_farmer_medium-dark_skin_tone=1F468-1F3FE-200D-1F33E
man_farmer_medium-light_skin_tone=1F468-1F3FC-200D-1F33E
man_farmer_medium_skin_tone=1F468-1F3FD-200D-1F33E man_firefighter=1F468-200D-1F692
man_firefighter_dark_skin_tone=1F468-1F3FF-200D-1F692
man_firefighter_light_skin_tone=1F468-1F3FB-200D-1F692
man_firefighter_medium-dark_skin_tone=1F468-1F3FE-200D-1F692
man_firefighter_medium-light_skin_tone=1F468-1F3FC-200D-1F692
man_firefighter_medium_skin_tone=1F468-1F3FD-200D-1F692 man_frowning=1F64D-200D-2642-FE0F
man_frowning_dark_skin_tone=1F64D-1F3FF-200D-2642-FE0F
man_frowning_light_skin_tone=1F64D-1F3FB-200D-2642-FE0F
man_frowning_medium-dark_skin_tone=1F64D-1F3FE-200D-2642-FE0F
man_frowning_medium-light_skin_tone=1F64D-1F3FC-200D-2642-FE0F
man_frowning_medium_skin_tone=1F64D-1F3FD-200D-2642-FE0F man_genie=1F9DE-200D-2642-FE0F
man_gesturing_no=1F645-200D-2642-FE0F man_gesturing_no_dark_skin_tone=1F645-1F3FF-200D-2642-FE0F
man_gesturing_no_light_skin_tone=1F645-1F3FB-200D-2642-FE0F
man_gesturing_no_medium-dark_skin_tone=1F645-1F3FE-200D-2642-FE0F
man_gesturing_no_medium-light_skin_tone=1F645-1F3FC-200D-2642-FE0F
man_gesturing_no_medium_skin_tone=1F645-1F3FD-200D-2642-FE0F man_gesturing_ok=1F646-200D-2642-FE0F
man_gesturing_ok_dark_skin_tone=1F646-1F3FF-200D-2642-FE0F
man_gesturing_ok_light_skin_tone=1F646-1F3FB-200D-2642-FE0F
man_gesturing_ok_medium-dark_skin_tone=1F646-1F3FE-200D-2642-FE0F
man_gesturing_ok_medium-light_skin_tone=1F646-1F3FC-200D-2642-FE0F
man_gesturing_ok_medium_skin_tone=1F646-1F3FD-200D-2642-FE0F
man_getting_haircut=1F487-200D-2642-FE0F
man_getting_haircut_dark_skin_tone=1F487-1F3FF-200D-2642-FE0F
man_getting_haircut_light_skin_tone=1F487-1F3FB-200D-2642-FE0F
man_getting_haircut_medium-dark_skin_tone=1F487-1F3FE-200D-2642-FE0F
man_getting_haircut_medium-light_skin_tone=1F487-1F3FC-200D-2642-FE0F
man_getting_haircut_medium_skin_tone=1F487-1F3FD-200D-2642-FE0F
man_getting_massage=1F486-200D-2642-FE0F
man_getting_massage_dark_skin_tone=1F486-1F3FF-200D-2642-FE0F
man_getting_massage_light_skin_tone=1F486-1F3FB-200D-2642-FE0F
man_getting_massage_medium-dark_skin_tone=1F486-1F3FE-200D-2642-FE0F
man_getting_massage_medium-light_skin_tone=1F486-1F3FC-200D-2642-FE0F
man_getting_massage_medium_skin_tone=1F486-1F3FD-200D-2642-FE0F
man_golfing=1F3CC-FE0F-200D-2642-FE0F man_golfing_dark_skin_tone=1F3CC-1F3FF-200D-2642-FE0F
man_golfing_light_skin_tone=1F3CC-1F3FB-200D-2642-FE0F
man_golfing_medium-dark_skin_tone=1F3CC-1F3FE-200D-2642-FE0F
man_golfing_medium-light_skin_tone=1F3CC-1F3FC-200D-2642-FE0F
man_golfing_medium_skin_tone=1F3CC-1F3FD-200D-2642-FE0F man_guard=1F482-200D-2642-FE0F
man_guard_dark_skin_tone=1F482-1F3FF-200D-2642-FE0F
man_guard_light_skin_tone=1F482-1F3FB-200D-2642-FE0F
man_guard_medium-dark_skin_tone=1F482-1F3FE-200D-2642-FE0F
man_guard_medium-light_skin_tone=1F482-1F3FC-200D-2642-FE0F
man_guard_medium_skin_tone=1F482-1F3FD-200D-2642-FE0F man_health_worker=1F468-200D-2695-FE0F
man_health_worker_dark_skin_tone=1F468-1F3FF-200D-2695-FE0F
man_health_worker_light_skin_tone=1F468-1F3FB-200D-2695-FE0F
man_health_worker_medium-dark_skin_tone=1F468-1F3FE-200D-2695-FE0F
man_health_worker_medium-light_skin_tone=1F468-1F3FC-200D-2695-FE0F
man_health_worker_medium_skin_tone=1F468-1F3FD-200D-2695-FE0F man_in_business_suit_levitating=1F574
man_in_lotus_position=1F9D8-200D-2642-FE0F
man_in_lotus_position_dark_skin_tone=1F9D8-1F3FF-200D-2642-FE0F
man_in_lotus_position_light_skin_tone=1F9D8-1F3FB-200D-2642-FE0F
man_in_lotus_position_medium-dark_skin_tone=1F9D8-1F3FE-200D-2642-FE0F
man_in_lotus_position_medium-light_skin_tone=1F9D8-1F3FC-200D-2642-FE0F
man_in_lotus_position_medium_skin_tone=1F9D8-1F3FD-200D-2642-FE0F
man_in_manual_wheelchair=1F468-200D-1F9BD man_in_motorized_wheelchair=1F468-200D-1F9BC
man_in_steamy_room=1F9D6-200D-2642-FE0F man_in_steamy_room_dark_skin_tone=1F9D6-1F3FF-200D-2642-FE0F
man_in_steamy_room_light_skin_tone=1F9D6-1F3FB-200D-2642-FE0F
man_in_steamy_room_medium-dark_skin_tone=1F9D6-1F3FE-200D-2642-FE0F
man_in_steamy_room_medium-light_skin_tone=1F9D6-1F3FC-200D-2642-FE0F
man_in_steamy_room_medium_skin_tone=1F9D6-1F3FD-200D-2642-FE0F man_in_suit_levitating=1F574
man_in_suit_levitating_dark_skin_tone=1F574-1F3FF man_in_suit_levitating_light_skin_tone=1F574-1F3FB
man_in_suit_levitating_medium-dark_skin_tone=1F574-1F3FE
man_in_suit_levitating_medium-light_skin_tone=1F574-1F3FC
man_in_suit_levitating_medium_skin_tone=1F574-1F3FD man_in_tuxedo=1F935
man_in_tuxedo_dark_skin_tone=1F935-1F3FF man_in_tuxedo_light_skin_tone=1F935-1F3FB
man_in_tuxedo_medium-dark_skin_tone=1F935-1F3FE man_in_tuxedo_medium-light_skin_tone=1F935-1F3FC
man_in_tuxedo_medium_skin_tone=1F935-1F3FD man_judge=1F468-200D-2696-FE0F
man_judge_dark_skin_tone=1F468-1F3FF-200D-2696-FE0F
man_judge_light_skin_tone=1F468-1F3FB-200D-2696-FE0F
man_judge_medium-dark_skin_tone=1F468-1F3FE-200D-2696-FE0F
man_judge_medium-light_skin_tone=1F468-1F3FC-200D-2696-FE0F
man_judge_medium_skin_tone=1F468-1F3FD-200D-2696-FE0F man_juggling=1F939-200D-2642-FE0F
man_juggling_dark_skin_tone=1F939-1F3FF-200D-2642-FE0F
man_juggling_light_skin_tone=1F939-1F3FB-200D-2642-FE0F
man_juggling_medium-dark_skin_tone=1F939-1F3FE-200D-2642-FE0F
man_juggling_medium-light_skin_tone=1F939-1F3FC-200D-2642-FE0F
man_juggling_medium_skin_tone=1F939-1F3FD-200D-2642-FE0F
man_lifting_weights=1F3CB-FE0F-200D-2642-FE0F
man_lifting_weights_dark_skin_tone=1F3CB-1F3FF-200D-2642-FE0F
man_lifting_weights_light_skin_tone=1F3CB-1F3FB-200D-2642-FE0F
man_lifting_weights_medium-dark_skin_tone=1F3CB-1F3FE-200D-2642-FE0F
man_lifting_weights_medium-light_skin_tone=1F3CB-1F3FC-200D-2642-FE0F
man_lifting_weights_medium_skin_tone=1F3CB-1F3FD-200D-2642-FE0F man_light_skin_tone=1F468-1F3FB
man_mage=1F9D9-200D-2642-FE0F man_mage_dark_skin_tone=1F9D9-1F3FF-200D-2642-FE0F
man_mage_light_skin_tone=1F9D9-1F3FB-200D-2642-FE0F
man_mage_medium-dark_skin_tone=1F9D9-1F3FE-200D-2642-FE0F
man_mage_medium-light_skin_tone=1F9D9-1F3FC-200D-2642-FE0F
man_mage_medium_skin_tone=1F9D9-1F3FD-200D-2642-FE0F man_mechanic=1F468-200D-1F527
man_mechanic_dark_skin_tone=1F468-1F3FF-200D-1F527
man_mechanic_light_skin_tone=1F468-1F3FB-200D-1F527
man_mechanic_medium-dark_skin_tone=1F468-1F3FE-200D-1F527
man_mechanic_medium-light_skin_tone=1F468-1F3FC-200D-1F527
man_mechanic_medium_skin_tone=1F468-1F3FD-200D-1F527 man_medium-dark_skin_tone=1F468-1F3FE
man_medium-light_skin_tone=1F468-1F3FC man_medium_skin_tone=1F468-1F3FD
man_mountain_biking=1F6B5-200D-2642-FE0F
man_mountain_biking_dark_skin_tone=1F6B5-1F3FF-200D-2642-FE0F
man_mountain_biking_light_skin_tone=1F6B5-1F3FB-200D-2642-FE0F
man_mountain_biking_medium-dark_skin_tone=1F6B5-1F3FE-200D-2642-FE0F
man_mountain_biking_medium-light_skin_tone=1F6B5-1F3FC-200D-2642-FE0F
man_mountain_biking_medium_skin_tone=1F6B5-1F3FD-200D-2642-FE0F man_office_worker=1F468-200D-1F4BC
man_office_worker_dark_skin_tone=1F468-1F3FF-200D-1F4BC
man_office_worker_light_skin_tone=1F468-1F3FB-200D-1F4BC
man_office_worker_medium-dark_skin_tone=1F468-1F3FE-200D-1F4BC
man_office_worker_medium-light_skin_tone=1F468-1F3FC-200D-1F4BC
man_office_worker_medium_skin_tone=1F468-1F3FD-200D-1F4BC man_pilot=1F468-200D-2708-FE0F
man_pilot_dark_skin_tone=1F468-1F3FF-200D-2708-FE0F
man_pilot_light_skin_tone=1F468-1F3FB-200D-2708-FE0F
man_pilot_medium-dark_skin_tone=1F468-1F3FE-200D-2708-FE0F
man_pilot_medium-light_skin_tone=1F468-1F3FC-200D-2708-FE0F
man_pilot_medium_skin_tone=1F468-1F3FD-200D-2708-FE0F man_playing_handball=1F93E-200D-2642-FE0F
man_playing_handball_dark_skin_tone=1F93E-1F3FF-200D-2642-FE0F
man_playing_handball_light_skin_tone=1F93E-1F3FB-200D-2642-FE0F
man_playing_handball_medium-dark_skin_tone=1F93E-1F3FE-200D-2642-FE0F
man_playing_handball_medium-light_skin_tone=1F93E-1F3FC-200D-2642-FE0F
man_playing_handball_medium_skin_tone=1F93E-1F3FD-200D-2642-FE0F
man_playing_water_polo=1F93D-200D-2642-FE0F
man_playing_water_polo_dark_skin_tone=1F93D-1F3FF-200D-2642-FE0F
man_playing_water_polo_light_skin_tone=1F93D-1F3FB-200D-2642-FE0F
man_playing_water_polo_medium-dark_skin_tone=1F93D-1F3FE-200D-2642-FE0F
man_playing_water_polo_medium-light_skin_tone=1F93D-1F3FC-200D-2642-FE0F
man_playing_water_polo_medium_skin_tone=1F93D-1F3FD-200D-2642-FE0F
man_police_officer=1F46E-200D-2642-FE0F man_police_officer_dark_skin_tone=1F46E-1F3FF-200D-2642-FE0F
man_police_officer_light_skin_tone=1F46E-1F3FB-200D-2642-FE0F
man_police_officer_medium-dark_skin_tone=1F46E-1F3FE-200D-2642-FE0F
man_police_officer_medium-light_skin_tone=1F46E-1F3FC-200D-2642-FE0F
man_police_officer_medium_skin_tone=1F46E-1F3FD-200D-2642-FE0F man_pouting=1F64E-200D-2642-FE0F
man_pouting_dark_skin_tone=1F64E-1F3FF-200D-2642-FE0F
man_pouting_light_skin_tone=1F64E-1F3FB-200D-2642-FE0F
man_pouting_medium-dark_skin_tone=1F64E-1F3FE-200D-2642-FE0F
man_pouting_medium-light_skin_tone=1F64E-1F3FC-200D-2642-FE0F
man_pouting_medium_skin_tone=1F64E-1F3FD-200D-2642-FE0F man_raising_hand=1F64B-200D-2642-FE0F
man_raising_hand_dark_skin_tone=1F64B-1F3FF-200D-2642-FE0F
man_raising_hand_light_skin_tone=1F64B-1F3FB-200D-2642-FE0F
man_raising_hand_medium-dark_skin_tone=1F64B-1F3FE-200D-2642-FE0F
man_raising_hand_medium-light_skin_tone=1F64B-1F3FC-200D-2642-FE0F
man_raising_hand_medium_skin_tone=1F64B-1F3FD-200D-2642-FE0F man_rowing_boat=1F6A3-200D-2642-FE0F
man_rowing_boat_dark_skin_tone=1F6A3-1F3FF-200D-2642-FE0F
man_rowing_boat_light_skin_tone=1F6A3-1F3FB-200D-2642-FE0F
man_rowing_boat_medium-dark_skin_tone=1F6A3-1F3FE-200D-2642-FE0F
man_rowing_boat_medium-light_skin_tone=1F6A3-1F3FC-200D-2642-FE0F
man_rowing_boat_medium_skin_tone=1F6A3-1F3FD-200D-2642-FE0F man_running=1F3C3-200D-2642-FE0F
man_running_dark_skin_tone=1F3C3-1F3FF-200D-2642-FE0F
man_running_light_skin_tone=1F3C3-1F3FB-200D-2642-FE0F
man_running_medium-dark_skin_tone=1F3C3-1F3FE-200D-2642-FE0F
man_running_medium-light_skin_tone=1F3C3-1F3FC-200D-2642-FE0F
man_running_medium_skin_tone=1F3C3-1F3FD-200D-2642-FE0F man_scientist=1F468-200D-1F52C
man_scientist_dark_skin_tone=1F468-1F3FF-200D-1F52C
man_scientist_light_skin_tone=1F468-1F3FB-200D-1F52C
man_scientist_medium-dark_skin_tone=1F468-1F3FE-200D-1F52C
man_scientist_medium-light_skin_tone=1F468-1F3FC-200D-1F52C
man_scientist_medium_skin_tone=1F468-1F3FD-200D-1F52C man_shrugging=1F937-200D-2642-FE0F
man_shrugging_dark_skin_tone=1F937-1F3FF-200D-2642-FE0F
man_shrugging_light_skin_tone=1F937-1F3FB-200D-2642-FE0F
man_shrugging_medium-dark_skin_tone=1F937-1F3FE-200D-2642-FE0F
man_shrugging_medium-light_skin_tone=1F937-1F3FC-200D-2642-FE0F
man_shrugging_medium_skin_tone=1F937-1F3FD-200D-2642-FE0F man_singer=1F468-200D-1F3A4
man_singer_dark_skin_tone=1F468-1F3FF-200D-1F3A4 man_singer_light_skin_tone=1F468-1F3FB-200D-1F3A4
man_singer_medium-dark_skin_tone=1F468-1F3FE-200D-1F3A4
man_singer_medium-light_skin_tone=1F468-1F3FC-200D-1F3A4
man_singer_medium_skin_tone=1F468-1F3FD-200D-1F3A4 man_student=1F468-200D-1F393
man_student_dark_skin_tone=1F468-1F3FF-200D-1F393 man_student_light_skin_tone=1F468-1F3FB-200D-1F393
man_student_medium-dark_skin_tone=1F468-1F3FE-200D-1F393
man_student_medium-light_skin_tone=1F468-1F3FC-200D-1F393
man_student_medium_skin_tone=1F468-1F3FD-200D-1F393 man_surfing=1F3C4-200D-2642-FE0F
man_surfing_dark_skin_tone=1F3C4-1F3FF-200D-2642-FE0F
man_surfing_light_skin_tone=1F3C4-1F3FB-200D-2642-FE0F
man_surfing_medium-dark_skin_tone=1F3C4-1F3FE-200D-2642-FE0F
man_surfing_medium-light_skin_tone=1F3C4-1F3FC-200D-2642-FE0F
man_surfing_medium_skin_tone=1F3C4-1F3FD-200D-2642-FE0F man_swimming=1F3CA-200D-2642-FE0F
man_swimming_dark_skin_tone=1F3CA-1F3FF-200D-2642-FE0F
man_swimming_light_skin_tone=1F3CA-1F3FB-200D-2642-FE0F
man_swimming_medium-dark_skin_tone=1F3CA-1F3FE-200D-2642-FE0F
man_swimming_medium-light_skin_tone=1F3CA-1F3FC-200D-2642-FE0F
man_swimming_medium_skin_tone=1F3CA-1F3FD-200D-2642-FE0F man_teacher=1F468-200D-1F3EB
man_teacher_dark_skin_tone=1F468-1F3FF-200D-1F3EB man_teacher_light_skin_tone=1F468-1F3FB-200D-1F3EB
man_teacher_medium-dark_skin_tone=1F468-1F3FE-200D-1F3EB
man_teacher_medium-light_skin_tone=1F468-1F3FC-200D-1F3EB
man_teacher_medium_skin_tone=1F468-1F3FD-200D-1F3EB man_technologist=1F468-200D-1F4BB
man_technologist_dark_skin_tone=1F468-1F3FF-200D-1F4BB
man_technologist_light_skin_tone=1F468-1F3FB-200D-1F4BB
man_technologist_medium-dark_skin_tone=1F468-1F3FE-200D-1F4BB
man_technologist_medium-light_skin_tone=1F468-1F3FC-200D-1F4BB
man_technologist_medium_skin_tone=1F468-1F3FD-200D-1F4BB man_tipping_hand=1F481-200D-2642-FE0F
man_tipping_hand_dark_skin_tone=1F481-1F3FF-200D-2642-FE0F
man_tipping_hand_light_skin_tone=1F481-1F3FB-200D-2642-FE0F
man_tipping_hand_medium-dark_skin_tone=1F481-1F3FE-200D-2642-FE0F
man_tipping_hand_medium-light_skin_tone=1F481-1F3FC-200D-2642-FE0F
man_tipping_hand_medium_skin_tone=1F481-1F3FD-200D-2642-FE0F man_vampire=1F9DB-200D-2642-FE0F
man_vampire_dark_skin_tone=1F9DB-1F3FF-200D-2642-FE0F
man_vampire_light_skin_tone=1F9DB-1F3FB-200D-2642-FE0F
man_vampire_medium-dark_skin_tone=1F9DB-1F3FE-200D-2642-FE0F
man_vampire_medium-light_skin_tone=1F9DB-1F3FC-200D-2642-FE0F
man_vampire_medium_skin_tone=1F9DB-1F3FD-200D-2642-FE0F man_walking=1F6B6-200D-2642-FE0F
man_walking_dark_skin_tone=1F6B6-1F3FF-200D-2642-FE0F
man_walking_light_skin_tone=1F6B6-1F3FB-200D-2642-FE0F
man_walking_medium-dark_skin_tone=1F6B6-1F3FE-200D-2642-FE0F
man_walking_medium-light_skin_tone=1F6B6-1F3FC-200D-2642-FE0F
man_walking_medium_skin_tone=1F6B6-1F3FD-200D-2642-FE0F man_wearing_turban=1F473-200D-2642-FE0F
man_wearing_turban_dark_skin_tone=1F473-1F3FF-200D-2642-FE0F
man_wearing_turban_light_skin_tone=1F473-1F3FB-200D-2642-FE0F
man_wearing_turban_medium-dark_skin_tone=1F473-1F3FE-200D-2642-FE0F
man_wearing_turban_medium-light_skin_tone=1F473-1F3FC-200D-2642-FE0F
man_wearing_turban_medium_skin_tone=1F473-1F3FD-200D-2642-FE0F man_with_chinese_cap=1F472
man_with_chinese_cap_dark_skin_tone=1F472-1F3FF man_with_chinese_cap_light_skin_tone=1F472-1F3FB
man_with_chinese_cap_medium-dark_skin_tone=1F472-1F3FE
man_with_chinese_cap_medium-light_skin_tone=1F472-1F3FC
man_with_chinese_cap_medium_skin_tone=1F472-1F3FD man_with_gua_pi_mao=1F472
man_with_probing_cane=1F468-200D-1F9AF man_with_turban=1F473 man_zombie=1F9DF-200D-2642-FE0F
mango=1F96D mans_shoe=1F45E mantelpiece_clock=1F570 manual_wheelchair=1F9BD man’s_shoe=1F45E
map_of_japan=1F5FE maple_leaf=1F341 marshall_islands=1F1F2-1F1ED martial_arts_uniform=1F94B
martinique=1F1F2-1F1F6 mask=1F637 massage=1F486 mate=1F9C9 mauritania=1F1F2-1F1F7
mauritius=1F1F2-1F1FA mayotte=1F1FE-1F1F9 meat_on_bone=1F356 mechanical_arm=1F9BE
mechanical_leg=1F9BF medical_symbol=2695 medium_dark_skin_tone=1F3FE medium_light_skin_tone=1F3FC
medium_skin_tone=1F3FD mega=1F4E3 megaphone=1F4E3 melon=1F348 memo=1F4DD
men_with_bunny_ears=1F46F-200D-2642-FE0F men_wrestling=1F93C-200D-2642-FE0F menorah=1F54E
menorah_with_nine_branches=1F54E mens=1F6B9 men’s_room=1F6B9 mermaid=1F9DC-200D-2640-FE0F
mermaid_dark_skin_tone=1F9DC-1F3FF-200D-2640-FE0F mermaid_light_skin_tone=1F9DC-1F3FB-200D-2640-FE0F
mermaid_medium-dark_skin_tone=1F9DC-1F3FE-200D-2640-FE0F
mermaid_medium-light_skin_tone=1F9DC-1F3FC-200D-2640-FE0F
mermaid_medium_skin_tone=1F9DC-1F3FD-200D-2640-FE0F merman=1F9DC-200D-2642-FE0F
merman_dark_skin_tone=1F9DC-1F3FF-200D-2642-FE0F merman_light_skin_tone=1F9DC-1F3FB-200D-2642-FE0F
merman_medium-dark_skin_tone=1F9DC-1F3FE-200D-2642-FE0F
merman_medium-light_skin_tone=1F9DC-1F3FC-200D-2642-FE0F
merman_medium_skin_tone=1F9DC-1F3FD-200D-2642-FE0F merperson=1F9DC
merperson_dark_skin_tone=1F9DC-1F3FF merperson_light_skin_tone=1F9DC-1F3FB
merperson_medium-dark_skin_tone=1F9DC-1F3FE merperson_medium-light_skin_tone=1F9DC-1F3FC
merperson_medium_skin_tone=1F9DC-1F3FD metro=1F687 mexico=1F1F2-1F1FD microbe=1F9A0
micronesia=1F1EB-1F1F2 microphone=1F3A4 microscope=1F52C middle_finger=1F595
middle_finger_dark_skin_tone=1F595-1F3FF middle_finger_light_skin_tone=1F595-1F3FB
middle_finger_medium-dark_skin_tone=1F595-1F3FE middle_finger_medium-light_skin_tone=1F595-1F3FC
middle_finger_medium_skin_tone=1F595-1F3FD military_medal=1F396 milky_way=1F30C minibus=1F690
minidisc=1F4BD moai=1F5FF mobile_phone=1F4F1 mobile_phone_off=1F4F4 mobile_phone_with_arrow=1F4F2
moldova=1F1F2-1F1E9 monaco=1F1F2-1F1E8 money-mouth_face=1F911 money__mouth_face=1F911
money_bag=1F4B0 money_with_wings=1F4B8 moneybag=1F4B0 mongolia=1F1F2-1F1F3 monkey=1F412
monkey_face=1F435 monorail=1F69D montenegro=1F1F2-1F1EA montserrat=1F1F2-1F1F8 moon=1F314
moon_cake=1F96E moon_viewing_ceremony=1F391 morocco=1F1F2-1F1E6 mortar_board=1F393 mosque=1F54C
mosquito=1F99F motor_boat=1F6E5 motor_scooter=1F6F5 motorcycle=1F3CD motorized_wheelchair=1F9BC
motorway=1F6E3 mount_fuji=1F5FB mountain=26F0 mountain_bicyclist=1F6B5 mountain_cableway=1F6A0
mountain_railway=1F69E mouse=1F42D mouse2=1F401 mouse_face=1F42D mouth=1F444 movie_camera=1F3A5
moyai=1F5FF mozambique=1F1F2-1F1FF mrs._claus=1F936 mrs._claus_dark_skin_tone=1F936-1F3FF
mrs._claus_light_skin_tone=1F936-1F3FB mrs._claus_medium-dark_skin_tone=1F936-1F3FE
mrs._claus_medium-light_skin_tone=1F936-1F3FC mrs._claus_medium_skin_tone=1F936-1F3FD muscle=1F4AA
mushroom=1F344 musical_keyboard=1F3B9 musical_note=1F3B5 musical_notes=1F3B6 musical_score=1F3BC
mute=1F507 muted_speaker=1F507 myanmar_(burma)=1F1F2-1F1F2 nail_care=1F485 nail_polish=1F485
nail_polish_dark_skin_tone=1F485-1F3FF nail_polish_light_skin_tone=1F485-1F3FB
nail_polish_medium-dark_skin_tone=1F485-1F3FE nail_polish_medium-light_skin_tone=1F485-1F3FC
nail_polish_medium_skin_tone=1F485-1F3FD name_badge=1F4DB namibia=1F1F3-1F1E6 national_park=1F3DE
nauru=1F1F3-1F1F7 nauseated_face=1F922 nazar_amulet=1F9FF necktie=1F454
negative_squared_cross_mark=274E nepal=1F1F3-1F1F5 nerd_face=1F913 netherlands=1F1F3-1F1F1
neutral_face=1F610 new=1F195 new_button=1F195 new_caledonia=1F1F3-1F1E8 new_moon=1F311
new_moon_face=1F31A new_moon_with_face=1F31A new_zealand=1F1F3-1F1FF newspaper=1F4F0
next_track_button=23ED ng=1F196 ng_button=1F196 nicaragua=1F1F3-1F1EE niger=1F1F3-1F1EA
nigeria=1F1F3-1F1EC night_with_stars=1F303 nine=39-FE0F-20E3 nine-thirty=1F564 nine_o’clock=1F558
niue=1F1F3-1F1FA no_bell=1F515 no_bicycles=1F6B3 no_entry=26D4 no_entry_sign=1F6AB no_good=1F645
no_littering=1F6AF no_mobile_phones=1F4F5 no_mouth=1F636 no_one_under_eighteen=1F51E
no_pedestrians=1F6B7 no_smoking=1F6AD non-potable_water=1F6B1 non__potable_water=1F6B1
norfolk_island=1F1F3-1F1EB north_korea=1F1F0-1F1F5 northern_mariana_islands=1F1F2-1F1F5
norway=1F1F3-1F1F4 nose=1F443 nose_dark_skin_tone=1F443-1F3FF nose_light_skin_tone=1F443-1F3FB
nose_medium-dark_skin_tone=1F443-1F3FE nose_medium-light_skin_tone=1F443-1F3FC
nose_medium_skin_tone=1F443-1F3FD notebook=1F4D3 notebook_with_decorative_cover=1F4D4 notes=1F3B6
nut_and_bolt=1F529 o=2B55 o2=1F17E o_button_(blood_type)=1F17E ocean=1F30A octopus=1F419 oden=1F362
office=1F3E2 office_building=1F3E2 ogre=1F479 oil_drum=1F6E2 ok=1F197 ok_button=1F197 ok_hand=1F44C
ok_hand_dark_skin_tone=1F44C-1F3FF ok_hand_light_skin_tone=1F44C-1F3FB
ok_hand_medium-dark_skin_tone=1F44C-1F3FE ok_hand_medium-light_skin_tone=1F44C-1F3FC
ok_hand_medium_skin_tone=1F44C-1F3FD ok_woman=1F646 old_key=1F5DD old_man=1F474
old_man_dark_skin_tone=1F474-1F3FF old_man_light_skin_tone=1F474-1F3FB
old_man_medium-dark_skin_tone=1F474-1F3FE old_man_medium-light_skin_tone=1F474-1F3FC
old_man_medium_skin_tone=1F474-1F3FD old_woman=1F475 old_woman_dark_skin_tone=1F475-1F3FF
old_woman_light_skin_tone=1F475-1F3FB old_woman_medium-dark_skin_tone=1F475-1F3FE
old_woman_medium-light_skin_tone=1F475-1F3FC old_woman_medium_skin_tone=1F475-1F3FD
older_adult=1F9D3 older_adult_dark_skin_tone=1F9D3-1F3FF older_adult_light_skin_tone=1F9D3-1F3FB
older_adult_medium-dark_skin_tone=1F9D3-1F3FE older_adult_medium-light_skin_tone=1F9D3-1F3FC
older_adult_medium_skin_tone=1F9D3-1F3FD older_man=1F474 older_woman=1F475 om=1F549 om_symbol=1F549
oman=1F1F4-1F1F2 on=1F51B on!_arrow=1F51B oncoming_automobile=1F698 oncoming_bus=1F68D
oncoming_fist=1F44A oncoming_fist_dark_skin_tone=1F44A-1F3FF
oncoming_fist_light_skin_tone=1F44A-1F3FB oncoming_fist_medium-dark_skin_tone=1F44A-1F3FE
oncoming_fist_medium-light_skin_tone=1F44A-1F3FC oncoming_fist_medium_skin_tone=1F44A-1F3FD
oncoming_police_car=1F694 oncoming_taxi=1F696 one=31-FE0F-20E3 one-piece_swimsuit=1FA71
one-thirty=1F55C one_o’clock=1F550 onion=1F9C5 open_book=1F4D6 open_file_folder=1F4C2
open_hands=1F450 open_hands_dark_skin_tone=1F450-1F3FF open_hands_light_skin_tone=1F450-1F3FB
open_hands_medium-dark_skin_tone=1F450-1F3FE open_hands_medium-light_skin_tone=1F450-1F3FC
open_hands_medium_skin_tone=1F450-1F3FD open_mailbox_with_lowered_flag=1F4ED
open_mailbox_with_raised_flag=1F4EC open_mouth=1F62E ophiuchus=26CE optical_disk=1F4BF
orange_book=1F4D9 orange_circle=1F7E0 orange_heart=1F9E1 orange_square=1F7E7 orangutan=1F9A7
orthodox_cross=2626 otter=1F9A6 outbox_tray=1F4E4 owl=1F989 ox=1F402 oyster=1F9AA
"

end LogMarkup
