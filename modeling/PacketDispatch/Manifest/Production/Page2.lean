import PacketDispatch.Manifest.Row

/-!
# Production manifest, opcodes 0x200 to 0x2FF

The rows of one page of opcodes, in the order of their opcodes.
-/

namespace PacketDispatch
namespace Manifest
namespace Production

/-- The rows from 0x200 to 0x2FF. -/
def page2 : List Row := [
  .server 0x200 "SMSG_LFG_TELEPORT_DENIED" .never,
  .client 0x201 "CMSG_UNLEARN_SPELL" .never .inPlace nullKey,
  .client 0x202 "CMSG_UNLEARN_SKILL" .loggedIn .inPlace "unlearn_skill",
  .server 0x203 "SMSG_REMOVED_SPELL" .never,
  .client 0x204 "CMSG_DECHARGE" .never .inPlace nullKey,
  .client 0x205 "CMSG_GMTICKET_CREATE" .loggedIn .world "gm_ticket_create",
  .server 0x206 "SMSG_GMTICKET_CREATE" .never,
  .client 0x207 "CMSG_GMTICKET_UPDATETEXT" .loggedIn .world "gm_ticket_update",
  .server 0x208 "SMSG_GMTICKET_UPDATETEXT" .never,
  .server 0x209 "SMSG_ACCOUNT_DATA_TIMES" .never,
  .client 0x20A "CMSG_REQUEST_ACCOUNT_DATA" .authed .world "request_account_data",
  .client 0x20B "CMSG_UPDATE_ACCOUNT_DATA" .authed .world "update_account_data",
  .server 0x20C "SMSG_UPDATE_ACCOUNT_DATA" .never,
  .server 0x20D "SMSG_CLEAR_FAR_SIGHT_IMMEDIATE" .never,
  .server 0x20E "SMSG_CHANGEPLAYER_DIFFICULTY_RESULT" .never,
  .client 0x20F "CMSG_GM_TEACH" .never .inPlace nullKey,
  .client 0x210 "CMSG_GM_CREATE_ITEM_TARGET" .never .inPlace nullKey,
  .client 0x211 "CMSG_GMTICKET_GETTICKET" .loggedIn .world "gm_ticket_get_ticket",
  .server 0x212 "SMSG_GMTICKET_GETTICKET" .never,
  .client 0x213 "CMSG_UNLEARN_TALENTS" .never .inPlace nullKey,
  .server 0x214 "SMSG_UPDATE_INSTANCE_ENCOUNTER_UNIT" .never,
  .server 0x215 "SMSG_GAMEOBJECT_DESPAWN_ANIM" .never,
  .client 0x216 "MSG_CORPSE_QUERY" .loggedIn .world "corpse_query",
  .client 0x217 "CMSG_GMTICKET_DELETETICKET" .loggedIn .world "gm_ticket_delete",
  .server 0x218 "SMSG_GMTICKET_DELETETICKET" .never,
  .server 0x219 "SMSG_CHAT_WRONG_FACTION" .never,
  .client 0x21A "CMSG_GMTICKET_SYSTEMSTATUS" .loggedIn .world "gm_ticket_system_status",
  .server 0x21B "SMSG_GMTICKET_SYSTEMSTATUS" .never,
  (Row.client 0x21C "CMSG_SPIRIT_HEALER_ACTIVATE" .loggedIn .world "spirit_healer_activate").because
    "corpse lookup crosses maps and touches grid state",
  .client 0x21D "CMSG_SET_STAT_CHEAT" .never .inPlace nullKey,
  .server 0x21E "SMSG_QUEST_FORCE_REMOVE" .never,
  .client 0x21F "CMSG_SKILL_BUY_STEP" .never .inPlace nullKey,
  .client 0x220 "CMSG_SKILL_BUY_RANK" .never .inPlace nullKey,
  .client 0x221 "CMSG_XP_CHEAT" .never .inPlace nullKey,
  .server 0x222 "SMSG_SPIRIT_HEALER_CONFIRM" .never,
  .client 0x223 "CMSG_CHARACTER_POINT_CHEAT" .never .inPlace nullKey,
  .server 0x224 "SMSG_GOSSIP_POI" .never,
  .client 0x225 "CMSG_CHAT_IGNORED" .loggedIn .world "chat_ignored",
  .client 0x226 "CMSG_GM_VISION" .never .inPlace nullKey,
  .client 0x227 "CMSG_SERVER_COMMAND" .never .inPlace nullKey,
  .client 0x228 "CMSG_GM_SILENCE" .never .inPlace nullKey,
  .client 0x229 "CMSG_GM_REVEALTO" .never .inPlace nullKey,
  .client 0x22A "CMSG_GM_RESURRECT" .never .inPlace nullKey,
  .client 0x22B "CMSG_GM_SUMMONMOB" .never .inPlace nullKey,
  .client 0x22C "CMSG_GM_MOVECORPSE" .never .inPlace nullKey,
  .client 0x22D "CMSG_GM_FREEZE" .never .inPlace nullKey,
  .client 0x22E "CMSG_GM_UBERINVIS" .never .inPlace nullKey,
  .client 0x22F "CMSG_GM_REQUEST_PLAYER_INFO" .never .inPlace nullKey,
  .server 0x230 "SMSG_GM_PLAYER_INFO" .never,
  .client 0x231 "CMSG_GUILD_RANK" .loggedIn .world "guild_rank",
  .client 0x232 "CMSG_GUILD_ADD_RANK" .loggedIn .world "guild_add_rank",
  .client 0x233 "CMSG_GUILD_DEL_RANK" .loggedIn .world "guild_del_rank",
  .client 0x234 "CMSG_GUILD_SET_PUBLIC_NOTE" .loggedIn .world "guild_set_public_note",
  .client 0x235 "CMSG_GUILD_SET_OFFICER_NOTE" .loggedIn .world "guild_set_officer_note",
  .server 0x236 "SMSG_LOGIN_VERIFY_WORLD" .never,
  .client 0x237 "CMSG_CLEAR_EXPLORATION" .never .inPlace nullKey,
  .client 0x238 "CMSG_SEND_MAIL" .loggedIn .world "send_mail",
  .server 0x239 "SMSG_SEND_MAIL_RESULT" .never,
  .client 0x23A "CMSG_GET_MAIL_LIST" .loggedIn .world "get_mail_list",
  .server 0x23B "SMSG_MAIL_LIST_RESULT" .never,
  .client 0x23C "CMSG_BATTLEFIELD_LIST" .loggedIn .world "battlefield_list",
  .server 0x23D "SMSG_BATTLEFIELD_LIST" .never,
  .client 0x23E "CMSG_BATTLEFIELD_JOIN" .never .inPlace nullKey,
  .server 0x23F "SMSG_FORCE_SET_VEHICLE_REC_ID" .never,
  .client 0x240 "CMSG_SET_VEHICLE_REC_ID_ACK" .never .inPlace nullKey,
  .client 0x241 "CMSG_TAXICLEARNODE" .never .inPlace nullKey,
  .client 0x242 "CMSG_TAXIENABLENODE" .never .inPlace nullKey,
  .client 0x243 "CMSG_ITEM_TEXT_QUERY" .loggedIn .inPlace "item_text_query",
  .server 0x244 "SMSG_ITEM_TEXT_QUERY_RESPONSE" .never,
  .client 0x245 "CMSG_MAIL_TAKE_MONEY" .loggedIn .world "mail_take_money",
  .client 0x246 "CMSG_MAIL_TAKE_ITEM" .loggedIn .world "mail_take_item",
  .client 0x247 "CMSG_MAIL_MARK_AS_READ" .loggedIn .world "mail_mark_as_read",
  .client 0x248 "CMSG_MAIL_RETURN_TO_SENDER" .loggedIn .world "mail_return_to_sender",
  .client 0x249 "CMSG_MAIL_DELETE" .loggedIn .world "mail_delete",
  .client 0x24A "CMSG_MAIL_CREATE_TEXT_ITEM" .loggedIn .world "mail_create_text_item",
  .server 0x24B "SMSG_SPELLLOGMISS" .never,
  .server 0x24C "SMSG_SPELLLOGEXECUTE" .never,
  .server 0x24D "SMSG_DEBUGAURAPROC" .never,
  .server 0x24E "SMSG_PERIODICAURALOG" .never,
  .server 0x24F "SMSG_SPELLDAMAGESHIELD" .never,
  .server 0x250 "SMSG_SPELLNONMELEEDAMAGELOG" .never,
  .client 0x251 "CMSG_LEARN_TALENT" .loggedIn .inPlace "learn_talent",
  .server 0x252 "SMSG_RESURRECT_FAILED" .never,
  .client 0x253 "CMSG_TOGGLE_PVP" .loggedIn .world "toggle_pvp",
  .server 0x254 "SMSG_ZONE_UNDER_ATTACK" .never,
  .client 0x255 "MSG_AUCTION_HELLO" .loggedIn .world "auction_hello",
  .client 0x256 "CMSG_AUCTION_SELL_ITEM" .loggedIn .world "auction_sell_item",
  .client 0x257 "CMSG_AUCTION_REMOVE_ITEM" .loggedIn .world "auction_remove_item",
  .client 0x258 "CMSG_AUCTION_LIST_ITEMS" .loggedIn .pool "auction_list_items",
  .client 0x259 "CMSG_AUCTION_LIST_OWNER_ITEMS" .loggedIn .pool "auction_list_owner_items",
  .client 0x25A "CMSG_AUCTION_PLACE_BID" .loggedIn .world "auction_place_bid",
  .server 0x25B "SMSG_AUCTION_COMMAND_RESULT" .never,
  .server 0x25C "SMSG_AUCTION_LIST_RESULT" .never,
  .server 0x25D "SMSG_AUCTION_OWNER_LIST_RESULT" .never,
  .server 0x25E "SMSG_AUCTION_BIDDER_NOTIFICATION" .never,
  .server 0x25F "SMSG_AUCTION_OWNER_NOTIFICATION" .never,
  .server 0x260 "SMSG_PROCRESIST" .never,
  .server 0x261 "SMSG_COMBAT_EVENT_FAILED" .never,
  .server 0x262 "SMSG_DISPEL_FAILED" .never,
  .server 0x263 "SMSG_SPELLORDAMAGE_IMMUNE" .never,
  .client 0x264 "CMSG_AUCTION_LIST_BIDDER_ITEMS" .loggedIn .pool "auction_list_bidder_items",
  .server 0x265 "SMSG_AUCTION_BIDDER_LIST_RESULT" .never,
  .server 0x266 "SMSG_SET_FLAT_SPELL_MODIFIER" .never,
  .server 0x267 "SMSG_SET_PCT_SPELL_MODIFIER" .never,
  .client 0x268 "CMSG_SET_AMMO" .loggedIn .inPlace "set_ammo",
  .server 0x269 "SMSG_CORPSE_RECLAIM_DELAY" .never,
  .client 0x26A "CMSG_SET_ACTIVE_MOVER" .loggedIn .world "set_active_mover",
  .client 0x26B "CMSG_PET_CANCEL_AURA" .loggedIn .inPlace "pet_cancel_aura",
  .client 0x26C "CMSG_PLAYER_AI_CHEAT" .never .inPlace nullKey,
  .client 0x26D "CMSG_CANCEL_AUTO_REPEAT_SPELL" .loggedIn .inPlace "cancel_auto_repeat_spell",
  .client 0x26E "MSG_GM_ACCOUNT_ONLINE" .never .inPlace nullKey,
  .client 0x26F "MSG_LIST_STABLED_PETS" .loggedIn .world "list_stabled_pets",
  .client 0x270 "CMSG_STABLE_PET" .loggedIn .world "stable_pet",
  .client 0x271 "CMSG_UNSTABLE_PET" .loggedIn .world "unstable_pet",
  .client 0x272 "CMSG_BUY_STABLE_SLOT" .loggedIn .world "buy_stable_slot",
  .server 0x273 "SMSG_STABLE_RESULT" .never,
  .client 0x274 "CMSG_STABLE_REVIVE_PET" .loggedIn .world "stable_revive_pet",
  .client 0x275 "CMSG_STABLE_SWAP_PET" .loggedIn .world "stable_swap_pet",
  .client 0x276 "MSG_QUEST_PUSH_RESULT" .loggedIn .world "quest_push_result",
  .server 0x277 "SMSG_PLAY_MUSIC" .never,
  .server 0x278 "SMSG_PLAY_OBJECT_SOUND" .never,
  .client 0x279 "CMSG_REQUEST_PET_INFO" .loggedIn .world "request_pet_info",
  .client 0x27A "CMSG_FAR_SIGHT" .loggedIn .world "far_sight",
  .server 0x27B "SMSG_SPELLDISPELLOG" .never,
  .server 0x27C "SMSG_DAMAGE_CALC_LOG" .never,
  .client 0x27D "CMSG_ENABLE_DAMAGE_LOG" .never .inPlace nullKey,
  .client 0x27E "CMSG_GROUP_CHANGE_SUB_GROUP" .loggedIn .world "group_change_sub_group",
  .client 0x27F "CMSG_REQUEST_PARTY_MEMBER_STATS" .loggedIn .world "request_party_member_stats",
  .client 0x280 "CMSG_GROUP_SWAP_SUB_GROUP" .loggedIn .world "group_swap_sub_group",
  .client 0x281 "CMSG_RESET_FACTION_CHEAT" .never .inPlace nullKey,
  .client 0x282 "CMSG_AUTOSTORE_BANK_ITEM" .loggedIn .inPlace "auto_store_bank_item",
  .client 0x283 "CMSG_AUTOBANK_ITEM" .loggedIn .inPlace "auto_bank_item",
  .client 0x284 "MSG_QUERY_NEXT_MAIL_TIME" .loggedIn .world "query_next_mail_time",
  .server 0x285 "SMSG_RECEIVED_MAIL" .never,
  .server 0x286 "SMSG_RAID_GROUP_ONLY" .never,
  .client 0x287 "CMSG_SET_DURABILITY_CHEAT" .never .inPlace nullKey,
  .client 0x288 "CMSG_SET_PVP_RANK_CHEAT" .never .inPlace nullKey,
  .client 0x289 "CMSG_ADD_PVP_MEDAL_CHEAT" .never .inPlace nullKey,
  .client 0x28A "CMSG_DEL_PVP_MEDAL_CHEAT" .never .inPlace nullKey,
  .client 0x28B "CMSG_SET_PVP_TITLE" .never .inPlace nullKey,
  .server 0x28C "SMSG_PVP_CREDIT" .never,
  .server 0x28D "SMSG_AUCTION_REMOVED_NOTIFICATION" .never,
  .client 0x28E "CMSG_GROUP_RAID_CONVERT" .loggedIn .world "group_raid_convert",
  .client 0x28F "CMSG_GROUP_ASSISTANT_LEADER" .loggedIn .world "group_assistant_leader",
  .client 0x290 "CMSG_BUYBACK_ITEM" .loggedIn .inPlace "buyback_item",
  .server 0x291 "SMSG_CHAT_SERVER_MESSAGE" .never,
  .client 0x292 "CMSG_SET_SAVED_INSTANCE_EXTEND" .loggedIn .world "set_saved_instance_extend",
  .server 0x293 "SMSG_LFG_OFFER_CONTINUE" .never,
  .client 0x294 "CMSG_TEST_DROP_RATE" .never .inPlace nullKey,
  .server 0x295 "SMSG_TEST_DROP_RATE_RESULT" .never,
  .client 0x296 "CMSG_LFG_GET_STATUS" .loggedIn .world "lfg_get_status",
  .server 0x297 "SMSG_SHOW_MAILBOX" .never,
  .server 0x298 "SMSG_RESET_RANGED_COMBAT_TIMER" .never,
  .server 0x299 "SMSG_CHAT_NOT_IN_PARTY" .never,
  .server 0x29A "CMSG_GMTICKETSYSTEM_TOGGLE" .never,
  .client 0x29B "CMSG_CANCEL_GROWTH_AURA" .loggedIn .world "cancel_growth_aura",
  .server 0x29C "SMSG_CANCEL_AUTO_REPEAT" .never,
  .server 0x29D "SMSG_STANDSTATE_UPDATE" .never,
  .server 0x29E "SMSG_LOOT_ALL_PASSED" .never,
  .server 0x29F "SMSG_LOOT_ROLL_WON" .never,
  .client 0x2A0 "CMSG_LOOT_ROLL" .loggedIn .world "loot_roll",
  .server 0x2A1 "SMSG_LOOT_START_ROLL" .never,
  .server 0x2A2 "SMSG_LOOT_ROLL" .never,
  .client 0x2A3 "CMSG_LOOT_MASTER_GIVE" .loggedIn .pool "loot_master_give",
  .server 0x2A4 "SMSG_LOOT_MASTER_LIST" .never,
  .server 0x2A5 "SMSG_SET_FORCED_REACTIONS" .never,
  .server 0x2A6 "SMSG_SPELL_FAILED_OTHER" .never,
  .server 0x2A7 "SMSG_GAMEOBJECT_RESET_STATE" .never,
  .client 0x2A8 "CMSG_REPAIR_ITEM" .loggedIn .inPlace "repair_item",
  .server 0x2A9 "SMSG_CHAT_PLAYER_NOT_FOUND" .never,
  .client 0x2AA "MSG_TALENT_WIPE_CONFIRM" .loggedIn .inPlace "talent_wipe_confirm",
  .server 0x2AB "SMSG_SUMMON_REQUEST" .never,
  .client 0x2AC "CMSG_SUMMON_RESPONSE" .loggedIn .world "summon_response",
  .client 0x2AD "MSG_DEV_SHOWLABEL" .never .inPlace nullKey,
  .server 0x2AE "SMSG_MONSTER_MOVE_TRANSPORT" .never,
  .server 0x2AF "SMSG_PET_BROKEN" .never,
  .client 0x2B0 "MSG_MOVE_FEATHER_FALL" .never .inPlace nullKey,
  .client 0x2B1 "MSG_MOVE_WATER_WALK" .never .inPlace nullKey,
  .client 0x2B2 "CMSG_SERVER_BROADCAST" .never .inPlace nullKey,
  .client 0x2B3 "CMSG_SELF_RES" .loggedIn .pool "self_res",
  .server 0x2B4 "SMSG_FEIGN_DEATH_RESISTED" .never,
  .client 0x2B5 "CMSG_RUN_SCRIPT" .never .inPlace nullKey,
  .server 0x2B6 "SMSG_SCRIPT_MESSAGE" .never,
  .server 0x2B7 "SMSG_DUEL_COUNTDOWN" .never,
  .server 0x2B8 "SMSG_AREA_TRIGGER_MESSAGE" .never,
  .client 0x2B9 "CMSG_SHOWING_HELM" .loggedIn .inPlace "showing_helm",
  .client 0x2BA "CMSG_SHOWING_CLOAK" .loggedIn .inPlace "showing_cloak",
  .server 0x2BB "SMSG_LFG_ROLE_CHOSEN" .never,
  .server 0x2BC "SMSG_PLAYER_SKINNED" .never,
  .server 0x2BD "SMSG_DURABILITY_DAMAGE_DEATH" .never,
  .client 0x2BE "CMSG_SET_EXPLORATION" .never .inPlace nullKey,
  .client 0x2BF "CMSG_SET_ACTIONBAR_TOGGLES" .authed .world "set_action_bar_toggles",
  .client 0x2C0 "UMSG_DELETE_GUILD_CHARTER" .never .inPlace nullKey,
  .client 0x2C1 "MSG_PETITION_RENAME" .loggedIn .pool "petition_rename",
  .server 0x2C2 "SMSG_INIT_WORLD_STATES" .never,
  .server 0x2C3 "SMSG_UPDATE_WORLD_STATE" .never,
  .client 0x2C4 "CMSG_ITEM_NAME_QUERY" .loggedIn .inPlace "item_name_query",
  .server 0x2C5 "SMSG_ITEM_NAME_QUERY_RESPONSE" .never,
  .server 0x2C6 "SMSG_PET_ACTION_FEEDBACK" .never,
  .client 0x2C7 "CMSG_CHAR_RENAME" .authed .world "char_rename",
  .server 0x2C8 "SMSG_CHAR_RENAME" .never,
  .client 0x2C9 "CMSG_MOVE_SPLINE_DONE" .loggedIn .pool "move_spline_done",
  .client 0x2CA "CMSG_MOVE_FALL_RESET" .loggedIn .pool "movement",
  .server 0x2CB "SMSG_INSTANCE_SAVE_CREATED" .never,
  .server 0x2CC "SMSG_RAID_INSTANCE_INFO" .never,
  .client 0x2CD "CMSG_REQUEST_RAID_INFO" .loggedIn .world "request_raid_info",
  .client 0x2CE "CMSG_MOVE_TIME_SKIPPED" .loggedIn .pool "move_time_skipped",
  .client 0x2CF "CMSG_MOVE_FEATHER_FALL_ACK" .loggedIn .pool "feather_fall_ack",
  .client 0x2D0 "CMSG_MOVE_WATER_WALK_ACK" .loggedIn .pool "move_water_walk_ack",
  .client 0x2D1 "CMSG_MOVE_NOT_ACTIVE_MOVER" .loggedIn .pool "move_not_active_mover",
  .server 0x2D2 "SMSG_PLAY_SOUND" .never,
  .client 0x2D3 "CMSG_BATTLEFIELD_STATUS" .loggedIn .world "battlefield_status",
  .server 0x2D4 "SMSG_BATTLEFIELD_STATUS" .never,
  .client 0x2D5 "CMSG_BATTLEFIELD_PORT" .loggedIn .world "battle_field_port",
  .client 0x2D6 "MSG_INSPECT_HONOR_STATS" .loggedIn .inPlace "inspect_honor_stats",
  .client 0x2D7 "CMSG_BATTLEMASTER_HELLO" .loggedIn .world "battlemaster_hello",
  .client 0x2D8 "CMSG_MOVE_START_SWIM_CHEAT" .never .inPlace nullKey,
  .client 0x2D9 "CMSG_MOVE_STOP_SWIM_CHEAT" .never .inPlace nullKey,
  .server 0x2DA "SMSG_FORCE_WALK_SPEED_CHANGE" .never,
  .client 0x2DB "CMSG_FORCE_WALK_SPEED_CHANGE_ACK" .loggedIn .pool "force_speed_change_ack",
  .server 0x2DC "SMSG_FORCE_SWIM_BACK_SPEED_CHANGE" .never,
  .client 0x2DD "CMSG_FORCE_SWIM_BACK_SPEED_CHANGE_ACK" .loggedIn .pool "force_speed_change_ack",
  .server 0x2DE "SMSG_FORCE_TURN_RATE_CHANGE" .never,
  .client 0x2DF "CMSG_FORCE_TURN_RATE_CHANGE_ACK" .loggedIn .pool "force_speed_change_ack",
  .client 0x2E0 "MSG_PVP_LOG_DATA" .loggedIn .world "pvp_log_data",
  .client 0x2E1 "CMSG_LEAVE_BATTLEFIELD" .loggedIn .world "battlefield_leave",
  .client 0x2E2 "CMSG_AREA_SPIRIT_HEALER_QUERY" .loggedIn .world "area_spirit_healer_query",
  .client 0x2E3 "CMSG_AREA_SPIRIT_HEALER_QUEUE" .loggedIn .world "area_spirit_healer_queue",
  .server 0x2E4 "SMSG_AREA_SPIRIT_HEALER_TIME" .never,
  .client 0x2E5 "CMSG_GM_UNTEACH" .never .inPlace nullKey,
  .server 0x2E6 "SMSG_WARDEN_DATA" .never,
  .client 0x2E7 "CMSG_WARDEN_DATA" .authed .pool "warden_data",
  .server 0x2E8 "SMSG_GROUP_JOINED_BATTLEGROUND" .never,
  .client 0x2E9 "MSG_BATTLEGROUND_PLAYER_POSITIONS" .loggedIn .world
    "battleground_player_positions",
  .client 0x2EA "CMSG_PET_STOP_ATTACK" .loggedIn .inPlace "pet_stop_attack",
  .server 0x2EB "SMSG_BINDER_CONFIRM" .never,
  .server 0x2EC "SMSG_BATTLEGROUND_PLAYER_JOINED" .never,
  .server 0x2ED "SMSG_BATTLEGROUND_PLAYER_LEFT" .never,
  .client 0x2EE "CMSG_BATTLEMASTER_JOIN" .loggedIn .world "battlemaster_join",
  .server 0x2EF "SMSG_ADDON_INFO" .never,
  .client 0x2F0 "CMSG_PET_UNLEARN" .never .inPlace nullKey,
  .server 0x2F1 "SMSG_PET_UNLEARN_CONFIRM" .never,
  .server 0x2F2 "SMSG_PARTY_MEMBER_STATS_FULL" .never,
  .client 0x2F3 "CMSG_PET_SPELL_AUTOCAST" .loggedIn .inPlace "pet_spell_autocast",
  .server 0x2F4 "SMSG_WEATHER" .never,
  .server 0x2F5 "SMSG_PLAY_TIME_WARNING" .never,
  .server 0x2F6 "SMSG_MINIGAME_SETUP" .never,
  .server 0x2F7 "SMSG_MINIGAME_STATE" .never,
  .client 0x2F8 "CMSG_MINIGAME_MOVE" .never .inPlace nullKey,
  .server 0x2F9 "SMSG_MINIGAME_MOVE_FAILED" .never,
  .server 0x2FA "SMSG_RAID_INSTANCE_MESSAGE" .never,
  .server 0x2FB "SMSG_COMPRESSED_MOVES" .never,
  .client 0x2FC "CMSG_GUILD_INFO_TEXT" .loggedIn .world "guild_change_info_text",
  .server 0x2FD "SMSG_CHAT_RESTRICTED" .never,
  .server 0x2FE "SMSG_SPLINE_SET_RUN_SPEED" .never,
  .server 0x2FF "SMSG_SPLINE_SET_RUN_BACK_SPEED" .never
]

end Production
end Manifest
end PacketDispatch
