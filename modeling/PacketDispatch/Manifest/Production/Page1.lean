import PacketDispatch.Manifest.Row

/-!
# Production manifest, opcodes 0x100 to 0x1FF

The rows of one page of opcodes, in the order of their opcodes.
-/

namespace PacketDispatch
namespace Manifest
namespace Production

/-- The rows from 0x100 to 0x1FF. -/
def page1 : List Row := [
  .client 0x100 "CMSG_TUTORIAL_RESET" .loggedIn .world "tutorial_reset",
  .client 0x101 "CMSG_STANDSTATECHANGE" .loggedIn .world "stand_state_change",
  .client 0x102 "CMSG_EMOTE" .loggedIn .pool "emote",
  .server 0x103 "SMSG_EMOTE" .never,
  .client 0x104 "CMSG_TEXT_EMOTE" .loggedIn .pool "text_emote",
  .server 0x105 "SMSG_TEXT_EMOTE" .never,
  .client 0x106 "CMSG_AUTOEQUIP_GROUND_ITEM" .never .inPlace nullKey,
  .client 0x107 "CMSG_AUTOSTORE_GROUND_ITEM" .never .inPlace nullKey,
  .client 0x108 "CMSG_AUTOSTORE_LOOT_ITEM" .loggedIn .inPlace "autostore_loot_item",
  .client 0x109 "CMSG_STORE_LOOT_IN_SLOT" .never .inPlace nullKey,
  .client 0x10A "CMSG_AUTOEQUIP_ITEM" .loggedIn .inPlace "auto_equip_item",
  .client 0x10B "CMSG_AUTOSTORE_BAG_ITEM" .loggedIn .inPlace "auto_store_bag_item",
  .client 0x10C "CMSG_SWAP_ITEM" .loggedIn .inPlace "swap_item",
  .client 0x10D "CMSG_SWAP_INV_ITEM" .loggedIn .inPlace "swap_inv_item",
  .client 0x10E "CMSG_SPLIT_ITEM" .loggedIn .inPlace "split_item",
  .client 0x10F "CMSG_AUTOEQUIP_ITEM_SLOT" .loggedIn .inPlace "auto_equip_item_slot",
  .client 0x110 "CMSG_UNCLAIM_LICENSE" .never .inPlace nullKey,
  .client 0x111 "CMSG_DESTROYITEM" .loggedIn .inPlace "destroy_item",
  .server 0x112 "SMSG_INVENTORY_CHANGE_FAILURE" .never,
  .server 0x113 "SMSG_OPEN_CONTAINER" .never,
  .client 0x114 "CMSG_INSPECT" .loggedIn .inPlace "inspect",
  .server 0x115 "SMSG_INSPECT_RESULTS_UPDATE" .never,
  .client 0x116 "CMSG_INITIATE_TRADE" .loggedIn .world "initiate_trade",
  .client 0x117 "CMSG_BEGIN_TRADE" .loggedIn .world "begin_trade",
  .client 0x118 "CMSG_BUSY_TRADE" .loggedIn .world "busy_trade",
  .client 0x119 "CMSG_IGNORE_TRADE" .loggedIn .world "ignore_trade",
  .client 0x11A "CMSG_ACCEPT_TRADE" .loggedIn .world "accept_trade",
  .client 0x11B "CMSG_UNACCEPT_TRADE" .loggedIn .world "unaccept_trade",
  .client 0x11C "CMSG_CANCEL_TRADE" .loggedInOrRecent .world "cancel_trade",
  .client 0x11D "CMSG_SET_TRADE_ITEM" .loggedIn .world "set_trade_item",
  .client 0x11E "CMSG_CLEAR_TRADE_ITEM" .loggedIn .world "clear_trade_item",
  .client 0x11F "CMSG_SET_TRADE_GOLD" .loggedIn .world "set_trade_gold",
  .server 0x120 "SMSG_TRADE_STATUS" .never,
  .server 0x121 "SMSG_TRADE_STATUS_EXTENDED" .never,
  .server 0x122 "SMSG_INITIALIZE_FACTIONS" .never,
  .server 0x123 "SMSG_SET_FACTION_VISIBLE" .never,
  .server 0x124 "SMSG_SET_FACTION_STANDING" .never,
  .client 0x125 "CMSG_SET_FACTION_ATWAR" .loggedIn .world "set_faction_at_war",
  .client 0x126 "CMSG_SET_FACTION_CHEAT" .loggedIn .world "set_faction_cheat",
  .server 0x127 "SMSG_SET_PROFICIENCY" .never,
  .client 0x128 "CMSG_SET_ACTION_BUTTON" .loggedIn .world "set_action_button",
  .server 0x129 "SMSG_ACTION_BUTTONS" .never,
  .server 0x12A "SMSG_INITIAL_SPELLS" .never,
  .server 0x12B "SMSG_LEARNED_SPELL" .never,
  .server 0x12C "SMSG_SUPERCEDED_SPELL" .never,
  .client 0x12D "CMSG_NEW_SPELL_SLOT" .never .inPlace nullKey,
  .client 0x12E "CMSG_CAST_SPELL" .loggedIn .pool "cast_spell",
  .client 0x12F "CMSG_CANCEL_CAST" .loggedIn .pool "cancel_cast",
  .server 0x130 "SMSG_CAST_FAILED" .never,
  .server 0x131 "SMSG_SPELL_START" .never,
  .server 0x132 "SMSG_SPELL_GO" .never,
  .server 0x133 "SMSG_SPELL_FAILURE" .never,
  .server 0x134 "SMSG_SPELL_COOLDOWN" .never,
  .server 0x135 "SMSG_COOLDOWN_EVENT" .never,
  .client 0x136 "CMSG_CANCEL_AURA" .loggedIn .inPlace "cancel_aura",
  .server 0x137 "SMSG_EQUIPMENT_SET_SAVED" .never,
  .server 0x138 "SMSG_PET_CAST_FAILED" .never,
  .client 0x139 "MSG_CHANNEL_START" .never .inPlace nullKey,
  .client 0x13A "MSG_CHANNEL_UPDATE" .never .inPlace nullKey,
  .client 0x13B "CMSG_CANCEL_CHANNELLING" .loggedIn .inPlace "cancel_channeling",
  .server 0x13C "SMSG_AI_REACTION" .never,
  .client 0x13D "CMSG_SET_SELECTION" .loggedIn .pool "set_selection",
  .client 0x13E "CMSG_DELETEEQUIPMENT_SET" .loggedIn .world "equipment_set_delete",
  .client 0x13F "CMSG_INSTANCE_LOCK_RESPONSE" .loggedIn .world "instance_lock_response",
  .client 0x140 "CMSG_DEBUG_PASSIVE_AURA" .never .inPlace nullKey,
  .client 0x141 "CMSG_ATTACKSWING" .loggedIn .pool "attack_swing",
  .client 0x142 "CMSG_ATTACKSTOP" .loggedIn .pool "attack_stop",
  .server 0x143 "SMSG_ATTACKSTART" .never,
  .server 0x144 "SMSG_ATTACKSTOP" .never,
  .server 0x145 "SMSG_ATTACKSWING_NOTINRANGE" .never,
  .server 0x146 "SMSG_ATTACKSWING_BADFACING" .never,
  .server 0x147 "SMSG_INSTANCE_LOCK_WARNING_QUERY" .never,
  .server 0x148 "SMSG_ATTACKSWING_DEADTARGET" .never,
  .server 0x149 "SMSG_ATTACKSWING_CANT_ATTACK" .never,
  .server 0x14A "SMSG_ATTACKERSTATEUPDATE" .never,
  .server 0x14B "SMSG_BATTLEFIELD_PORT_DENIED" .never,
  .client 0x14C "CMSG_PERFORM_ACTION_SET" .never .inPlace nullKey,
  .server 0x14D "SMSG_RESUME_CAST_BAR" .never,
  .server 0x14E "SMSG_CANCEL_COMBAT" .never,
  .server 0x14F "SMSG_SPELLBREAKLOG" .never,
  .server 0x150 "SMSG_SPELLHEALLOG" .never,
  .server 0x151 "SMSG_SPELLENERGIZELOG" .never,
  .server 0x152 "SMSG_BREAK_TARGET" .never,
  .client 0x153 "CMSG_SAVE_PLAYER" .never .inPlace nullKey,
  .client 0x154 "CMSG_SETDEATHBINDPOINT" .never .inPlace nullKey,
  .server 0x155 "SMSG_BINDPOINTUPDATE" .never,
  .client 0x156 "CMSG_GETDEATHBINDZONE" .never .inPlace nullKey,
  .server 0x157 "SMSG_BINDZONEREPLY" .never,
  .server 0x158 "SMSG_PLAYERBOUND" .never,
  .server 0x159 "SMSG_CLIENT_CONTROL_UPDATE" .never,
  .client 0x15A "CMSG_REPOP_REQUEST" .loggedIn .pool "repop_request",
  .server 0x15B "SMSG_RESURRECT_REQUEST" .never,
  .client 0x15C "CMSG_RESURRECT_RESPONSE" .loggedIn .pool "resurrect_response",
  .client 0x15D "CMSG_LOOT" .loggedIn .world "loot",
  .client 0x15E "CMSG_LOOT_MONEY" .loggedIn .world "loot_money",
  .client 0x15F "CMSG_LOOT_RELEASE" .loggedIn .world "loot_release",
  .server 0x160 "SMSG_LOOT_RESPONSE" .never,
  .server 0x161 "SMSG_LOOT_RELEASE_RESPONSE" .never,
  .server 0x162 "SMSG_LOOT_REMOVED" .never,
  .server 0x163 "SMSG_LOOT_MONEY_NOTIFY" .never,
  .server 0x164 "SMSG_LOOT_ITEM_NOTIFY" .never,
  .server 0x165 "SMSG_LOOT_CLEAR_MONEY" .never,
  .server 0x166 "SMSG_ITEM_PUSH_RESULT" .never,
  .server 0x167 "SMSG_DUEL_REQUESTED" .never,
  .server 0x168 "SMSG_DUEL_OUTOFBOUNDS" .never,
  .server 0x169 "SMSG_DUEL_INBOUNDS" .never,
  .server 0x16A "SMSG_DUEL_COMPLETE" .never,
  .server 0x16B "SMSG_DUEL_WINNER" .never,
  .client 0x16C "CMSG_DUEL_ACCEPTED" .loggedIn .world "duel_accepted",
  .client 0x16D "CMSG_DUEL_CANCELLED" .loggedIn .world "duel_cancelled",
  .server 0x16E "SMSG_MOUNTRESULT" .never,
  .server 0x16F "SMSG_DISMOUNTRESULT" .never,
  .server 0x170 "SMSG_REMOVED_FROM_PVP_QUEUE" .never,
  .client 0x171 "CMSG_MOUNTSPECIAL_ANIM" .loggedIn .world "mount_special_anim",
  .server 0x172 "SMSG_MOUNTSPECIAL_ANIM" .never,
  .server 0x173 "SMSG_PET_TAME_FAILURE" .never,
  .client 0x174 "CMSG_PET_SET_ACTION" .loggedIn .world "pet_set_action",
  .client 0x175 "CMSG_PET_ACTION" .loggedIn .pool "pet_action",
  .client 0x176 "CMSG_PET_ABANDON" .loggedIn .world "pet_abandon",
  .client 0x177 "CMSG_PET_RENAME" .loggedIn .world "pet_rename",
  .server 0x178 "SMSG_PET_NAME_INVALID" .never,
  .server 0x179 "SMSG_PET_SPELLS" .never,
  .server 0x17A "SMSG_PET_MODE" .never,
  .client 0x17B "CMSG_GOSSIP_HELLO" .loggedIn .inPlace "gossip_hello",
  .client 0x17C "CMSG_GOSSIP_SELECT_OPTION" .loggedIn .world "gossip_select_option",
  .server 0x17D "SMSG_GOSSIP_MESSAGE" .never,
  .server 0x17E "SMSG_GOSSIP_COMPLETE" .never,
  .client 0x17F "CMSG_NPC_TEXT_QUERY" .loggedIn .inPlace "npc_text_query",
  .server 0x180 "SMSG_NPC_TEXT_UPDATE" .never,
  .server 0x181 "SMSG_NPC_WONT_TALK" .never,
  .client 0x182 "CMSG_QUESTGIVER_STATUS_QUERY" .loggedIn .pool "questgiver_status_query",
  .server 0x183 "SMSG_QUESTGIVER_STATUS" .never,
  .client 0x184 "CMSG_QUESTGIVER_HELLO" .loggedIn .inPlace "questgiver_hello",
  .server 0x185 "SMSG_QUESTGIVER_QUEST_LIST" .never,
  .client 0x186 "CMSG_QUESTGIVER_QUERY_QUEST" .loggedIn .inPlace "questgiver_query_quest",
  .client 0x187 "CMSG_QUESTGIVER_QUEST_AUTOLAUNCH" .loggedIn .inPlace
    "questgiver_quest_auto_launch",
  .server 0x188 "SMSG_QUESTGIVER_QUEST_DETAILS" .never,
  .client 0x189 "CMSG_QUESTGIVER_ACCEPT_QUEST" .loggedIn .inPlace "questgiver_accept_quest",
  .client 0x18A "CMSG_QUESTGIVER_COMPLETE_QUEST" .loggedIn .inPlace "questgiver_complete_quest",
  .server 0x18B "SMSG_QUESTGIVER_REQUEST_ITEMS" .never,
  .client 0x18C "CMSG_QUESTGIVER_REQUEST_REWARD" .loggedIn .inPlace "questgiver_request_reward",
  .server 0x18D "SMSG_QUESTGIVER_OFFER_REWARD" .never,
  .client 0x18E "CMSG_QUESTGIVER_CHOOSE_REWARD" .loggedIn .inPlace "questgiver_choose_reward",
  .server 0x18F "SMSG_QUESTGIVER_QUEST_INVALID" .never,
  .client 0x190 "CMSG_QUESTGIVER_CANCEL" .loggedIn .inPlace "questgiver_cancel",
  .server 0x191 "SMSG_QUESTGIVER_QUEST_COMPLETE" .never,
  .server 0x192 "SMSG_QUESTGIVER_QUEST_FAILED" .never,
  .client 0x193 "CMSG_QUESTLOG_SWAP_QUEST" .loggedIn .inPlace "quest_log_swap_quest",
  .client 0x194 "CMSG_QUESTLOG_REMOVE_QUEST" .loggedIn .inPlace "quest_log_remove_quest",
  .server 0x195 "SMSG_QUESTLOG_FULL" .never,
  .server 0x196 "SMSG_QUESTUPDATE_FAILED" .never,
  .server 0x197 "SMSG_QUESTUPDATE_FAILEDTIMER" .never,
  .server 0x198 "SMSG_QUESTUPDATE_COMPLETE" .never,
  .server 0x199 "SMSG_QUESTUPDATE_ADD_KILL" .never,
  .server 0x19A "SMSG_QUESTUPDATE_ADD_ITEM" .never,
  .client 0x19B "CMSG_QUEST_CONFIRM_ACCEPT" .loggedIn .world "quest_confirm_accept",
  .server 0x19C "SMSG_QUEST_CONFIRM_ACCEPT" .never,
  .client 0x19D "CMSG_PUSHQUESTTOPARTY" .loggedIn .world "push_quest_to_party",
  .client 0x19E "CMSG_LIST_INVENTORY" .loggedIn .inPlace "list_inventory",
  .server 0x19F "SMSG_LIST_INVENTORY" .never,
  .client 0x1A0 "CMSG_SELL_ITEM" .loggedIn .inPlace "sell_item",
  .server 0x1A1 "SMSG_SELL_ITEM" .never,
  .client 0x1A2 "CMSG_BUY_ITEM" .loggedIn .inPlace "buy_item",
  .client 0x1A3 "CMSG_BUY_ITEM_IN_SLOT" .loggedIn .inPlace "buy_item_in_slot",
  .server 0x1A4 "SMSG_BUY_ITEM" .never,
  .server 0x1A5 "SMSG_BUY_FAILED" .never,
  .client 0x1A6 "CMSG_TAXICLEARALLNODES" .never .inPlace nullKey,
  .client 0x1A7 "CMSG_TAXIENABLEALLNODES" .never .inPlace nullKey,
  .client 0x1A8 "CMSG_TAXISHOWNODES" .never .inPlace nullKey,
  .server 0x1A9 "SMSG_SHOWTAXINODES" .never,
  .client 0x1AA "CMSG_TAXINODE_STATUS_QUERY" .loggedIn .pool "taxi_node_status_query",
  .server 0x1AB "SMSG_TAXINODE_STATUS" .never,
  .client 0x1AC "CMSG_TAXIQUERYAVAILABLENODES" .loggedIn .pool "taxi_query_available_nodes",
  .client 0x1AD "CMSG_ACTIVATETAXI" .loggedIn .pool "activate_taxi",
  .server 0x1AE "SMSG_ACTIVATETAXIREPLY" .never,
  .server 0x1AF "SMSG_NEW_TAXI_PATH" .never,
  .client 0x1B0 "CMSG_TRAINER_LIST" .loggedIn .inPlace "trainer_list",
  .server 0x1B1 "SMSG_TRAINER_LIST" .never,
  .client 0x1B2 "CMSG_TRAINER_BUY_SPELL" .loggedIn .inPlace "trainer_buy_spell",
  .server 0x1B3 "SMSG_TRAINER_BUY_SUCCEEDED" .never,
  .server 0x1B4 "SMSG_TRAINER_BUY_FAILED" .never,
  .client 0x1B5 "CMSG_BINDER_ACTIVATE" .loggedIn .inPlace "binder_activate",
  .server 0x1B6 "SMSG_PLAYERBINDERROR" .never,
  .client 0x1B7 "CMSG_BANKER_ACTIVATE" .loggedIn .inPlace "banker_activate",
  .server 0x1B8 "SMSG_SHOW_BANK" .never,
  .client 0x1B9 "CMSG_BUY_BANK_SLOT" .loggedIn .inPlace "buy_bank_slot",
  .server 0x1BA "SMSG_BUY_BANK_SLOT_RESULT" .never,
  .client 0x1BB "CMSG_PETITION_SHOWLIST" .loggedIn .pool "petition_show_list",
  .server 0x1BC "SMSG_PETITION_SHOWLIST" .never,
  .client 0x1BD "CMSG_PETITION_BUY" .loggedIn .pool "petition_buy",
  .client 0x1BE "CMSG_PETITION_SHOW_SIGNATURES" .loggedIn .pool "petition_show_sign",
  .server 0x1BF "SMSG_PETITION_SHOW_SIGNATURES" .never,
  .client 0x1C0 "CMSG_PETITION_SIGN" .loggedIn .pool "petition_sign",
  .server 0x1C1 "SMSG_PETITION_SIGN_RESULTS" .never,
  .client 0x1C2 "MSG_PETITION_DECLINE" .loggedIn .pool "petition_decline",
  .client 0x1C3 "CMSG_OFFER_PETITION" .loggedIn .pool "offer_petition",
  .client 0x1C4 "CMSG_TURN_IN_PETITION" .loggedIn .world "turn_in_petition",
  .server 0x1C5 "SMSG_TURN_IN_PETITION_RESULTS" .never,
  .client 0x1C6 "CMSG_PETITION_QUERY" .loggedIn .pool "petition_query",
  .server 0x1C7 "SMSG_PETITION_QUERY_RESPONSE" .never,
  .server 0x1C8 "SMSG_FISH_NOT_HOOKED" .never,
  .server 0x1C9 "SMSG_FISH_ESCAPED" .never,
  .client 0x1CA "CMSG_BUG" .loggedIn .world "bug",
  .server 0x1CB "SMSG_NOTIFICATION" .never,
  .client 0x1CC "CMSG_PLAYED_TIME" .loggedIn .inPlace "played_time",
  .server 0x1CD "SMSG_PLAYED_TIME" .never,
  .client 0x1CE "CMSG_QUERY_TIME" .loggedIn .inPlace "query_time",
  .server 0x1CF "SMSG_QUERY_TIME_RESPONSE" .never,
  .server 0x1D0 "SMSG_LOG_XPGAIN" .never,
  .server 0x1D1 "SMSG_AURACASTLOG" .never,
  .client 0x1D2 "CMSG_RECLAIM_CORPSE" .loggedIn .pool "reclaim_corpse",
  .client 0x1D3 "CMSG_WRAP_ITEM" .loggedIn .pool "wrap_item",
  .server 0x1D4 "SMSG_LEVELUP_INFO" .never,
  .client 0x1D5 "MSG_MINIMAP_PING" .loggedIn .world "minimap_ping",
  .server 0x1D6 "SMSG_RESISTLOG" .never,
  .server 0x1D7 "SMSG_ENCHANTMENTLOG" .never,
  .client 0x1D8 "CMSG_SET_SKILL_CHEAT" .never .inPlace nullKey,
  .server 0x1D9 "SMSG_START_MIRROR_TIMER" .never,
  .server 0x1DA "SMSG_PAUSE_MIRROR_TIMER" .never,
  .server 0x1DB "SMSG_STOP_MIRROR_TIMER" .never,
  .client 0x1DC "CMSG_PING" .never .inPlace earlyKey,
  .server 0x1DD "SMSG_PONG" .never,
  .server 0x1DE "SMSG_CLEAR_COOLDOWN" .never,
  .server 0x1DF "SMSG_GAMEOBJECT_PAGETEXT" .never,
  .client 0x1E0 "CMSG_SET_SHEATHED" .loggedIn .pool "set_sheathed",
  .server 0x1E1 "SMSG_COOLDOWN_CHEAT" .never,
  .server 0x1E2 "SMSG_SPELL_DELAYED" .never,
  .client 0x1E3 "CMSG_QUEST_POI_QUERY" .loggedIn .inPlace "quest_poi_query",
  .server 0x1E4 "SMSG_QUEST_POI_QUERY_RESPONSE" .never,
  .client 0x1E5 "CMSG_GHOST" .never .inPlace nullKey,
  .client 0x1E6 "CMSG_GM_INVIS" .never .inPlace nullKey,
  .server 0x1E7 "SMSG_INVALID_PROMOTION_CODE" .never,
  .client 0x1E8 "MSG_GM_BIND_OTHER" .never .inPlace nullKey,
  .client 0x1E9 "MSG_GM_SUMMON" .never .inPlace nullKey,
  .server 0x1EA "SMSG_ITEM_TIME_UPDATE" .never,
  .server 0x1EB "SMSG_ITEM_ENCHANT_TIME_UPDATE" .never,
  .server 0x1EC "SMSG_AUTH_CHALLENGE" .never,
  .client 0x1ED "CMSG_AUTH_SESSION" .never .world earlyKey,
  .server 0x1EE "SMSG_AUTH_RESPONSE" .never,
  .client 0x1EF "MSG_GM_SHOWLABEL" .never .inPlace nullKey,
  .client 0x1F0 "CMSG_PET_CAST_SPELL" .loggedIn .inPlace "pet_cast_spell",
  .client 0x1F1 "MSG_SAVE_GUILD_EMBLEM" .loggedIn .world "save_guild_emblem",
  .client 0x1F2 "MSG_TABARDVENDOR_ACTIVATE" .loggedIn .inPlace "tabard_vendor_activate",
  .server 0x1F3 "SMSG_PLAY_SPELL_VISUAL" .never,
  .client 0x1F4 "CMSG_ZONEUPDATE" .loggedIn .inPlace "zone_update",
  .server 0x1F5 "SMSG_PARTYKILLLOG" .never,
  .server 0x1F6 "SMSG_COMPRESSED_UPDATE_OBJECT" .never,
  .server 0x1F7 "SMSG_PLAY_SPELL_IMPACT" .never,
  .server 0x1F8 "SMSG_EXPLORATION_EXPERIENCE" .never,
  .client 0x1F9 "CMSG_GM_SET_SECURITY_GROUP" .never .inPlace nullKey,
  .client 0x1FA "CMSG_GM_NUKE" .never .inPlace nullKey,
  .client 0x1FB "MSG_RANDOM_ROLL" .loggedIn .pool "random_roll",
  .server 0x1FC "SMSG_ENVIRONMENTAL_DAMAGE_LOG" .never,
  .client 0x1FD "CMSG_CHANGEPLAYER_DIFFICULTY" .never .inPlace nullKey,
  .server 0x1FE "SMSG_RWHOIS" .never,
  .server 0x1FF "SMSG_LFG_PLAYER_REWARD" .never
]

end Production
end Manifest
end PacketDispatch
