import PacketDispatch.Manifest.Row

/-!
# Production manifest, opcodes 0x300 to 0x3FF

The rows of one page of opcodes, in the order of their opcodes.
-/

namespace PacketDispatch
namespace Manifest
namespace Production

/-- The rows from 0x300 to 0x3FF. -/
def page3 : List Row := [
  .server 0x300 "SMSG_SPLINE_SET_SWIM_SPEED" .never,
  .server 0x301 "SMSG_SPLINE_SET_WALK_SPEED" .never,
  .server 0x302 "SMSG_SPLINE_SET_SWIM_BACK_SPEED" .never,
  .server 0x303 "SMSG_SPLINE_SET_TURN_RATE" .never,
  .server 0x304 "SMSG_SPLINE_MOVE_UNROOT" .never,
  .server 0x305 "SMSG_SPLINE_MOVE_FEATHER_FALL" .never,
  .server 0x306 "SMSG_SPLINE_MOVE_NORMAL_FALL" .never,
  .server 0x307 "SMSG_SPLINE_MOVE_SET_HOVER" .never,
  .server 0x308 "SMSG_SPLINE_MOVE_UNSET_HOVER" .never,
  .server 0x309 "SMSG_SPLINE_MOVE_WATER_WALK" .never,
  .server 0x30A "SMSG_SPLINE_MOVE_LAND_WALK" .never,
  .server 0x30B "SMSG_SPLINE_MOVE_START_SWIM" .never,
  .server 0x30C "SMSG_SPLINE_MOVE_STOP_SWIM" .never,
  .server 0x30D "SMSG_SPLINE_MOVE_SET_RUN_MODE" .never,
  .server 0x30E "SMSG_SPLINE_MOVE_SET_WALK_MODE" .never,
  .client 0x30F "CMSG_GM_NUKE_ACCOUNT" .never .inPlace nullKey,
  .client 0x310 "MSG_GM_DESTROY_CORPSE" .never .inPlace nullKey,
  .client 0x311 "CMSG_GM_DESTROY_ONLINE_CORPSE" .never .inPlace nullKey,
  .client 0x312 "CMSG_ACTIVATETAXIEXPRESS" .loggedIn .pool "activate_taxi_express",
  .server 0x313 "SMSG_SET_FACTION_ATWAR" .never,
  .server 0x314 "SMSG_GAMETIMEBIAS_SET" .never,
  .client 0x315 "CMSG_DEBUG_ACTIONS_START" .never .inPlace nullKey,
  .client 0x316 "CMSG_DEBUG_ACTIONS_STOP" .never .inPlace nullKey,
  .client 0x317 "CMSG_SET_FACTION_INACTIVE" .loggedIn .world "set_faction_inactive",
  .client 0x318 "CMSG_SET_WATCHED_FACTION" .loggedIn .world "set_watched_faction",
  .client 0x319 "MSG_MOVE_TIME_SKIPPED" .never .inPlace nullKey,
  .server 0x31A "SMSG_SPLINE_MOVE_ROOT" .never,
  .client 0x31B "CMSG_SET_EXPLORATION_ALL" .never .inPlace nullKey,
  .server 0x31C "SMSG_INVALIDATE_PLAYER" .never,
  .client 0x31D "CMSG_RESET_INSTANCES" .loggedIn .world "reset_instances",
  .server 0x31E "SMSG_INSTANCE_RESET" .never,
  .server 0x31F "SMSG_INSTANCE_RESET_FAILED" .never,
  .server 0x320 "SMSG_UPDATE_LAST_INSTANCE" .never,
  .client 0x321 "MSG_RAID_TARGET_UPDATE" .loggedIn .world "raid_target_update",
  .client 0x322 "MSG_RAID_READY_CHECK" .loggedIn .world "raid_ready_check",
  .client 0x323 "CMSG_LUA_USAGE" .never .inPlace nullKey,
  .server 0x324 "SMSG_PET_ACTION_SOUND" .never,
  .server 0x325 "SMSG_PET_DISMISS_SOUND" .never,
  .server 0x326 "SMSG_GHOSTEE_GONE" .never,
  .client 0x327 "CMSG_GM_UPDATE_TICKET_STATUS" .never .inPlace nullKey,
  .server 0x328 "SMSG_GM_TICKET_STATUS_UPDATE" .never,
  .client 0x329 "MSG_SET_DUNGEON_DIFFICULTY" .loggedIn .world "set_dungeon_difficulty",
  .client 0x32A "CMSG_GMSURVEY_SUBMIT" .loggedIn .world "gm_survey_submit",
  .server 0x32B "SMSG_UPDATE_INSTANCE_OWNERSHIP" .never,
  .client 0x32C "CMSG_IGNORE_KNOCKBACK_CHEAT" .never .inPlace nullKey,
  .server 0x32D "SMSG_CHAT_PLAYER_AMBIGUOUS" .never,
  .client 0x32E "MSG_DELAY_GHOST_TELEPORT" .never .inPlace nullKey,
  .server 0x32F "SMSG_SPELLINSTAKILLLOG" .never,
  .server 0x330 "SMSG_SPELL_UPDATE_CHAIN_TARGETS" .never,
  .client 0x331 "CMSG_CHAT_FILTERED" .never .inPlace nullKey,
  .server 0x332 "SMSG_EXPECTED_SPAM_RECORDS" .never,
  .server 0x333 "SMSG_SPELLSTEALLOG" .never,
  .client 0x334 "CMSG_LOTTERY_QUERY_OBSOLETE" .never .inPlace nullKey,
  .server 0x335 "SMSG_LOTTERY_QUERY_RESULT_OBSOLETE" .never,
  .client 0x336 "CMSG_BUY_LOTTERY_TICKET_OBSOLETE" .never .inPlace nullKey,
  .server 0x337 "SMSG_LOTTERY_RESULT_OBSOLETE" .never,
  .server 0x338 "SMSG_CHARACTER_PROFILE" .never,
  .server 0x339 "SMSG_CHARACTER_PROFILE_REALM_CONNECTED" .never,
  .server 0x33A "SMSG_DEFENSE_MESSAGE" .never,
  .server 0x33B "SMSG_INSTANCE_DIFFICULTY" .never,
  .client 0x33C "MSG_GM_RESETINSTANCELIMIT" .never .inPlace nullKey,
  .server 0x33D "SMSG_MOTD" .never,
  .server 0x33E "SMSG_MOVE_SET_CAN_TRANSITION_BETWEEN_SWIM_AND_FLY" .never,
  .server 0x33F "SMSG_MOVE_UNSET_CAN_TRANSITION_BETWEEN_SWIM_AND_FLY" .never,
  .client 0x340 "CMSG_MOVE_SET_CAN_TRANSITION_BETWEEN_SWIM_AND_FLY_ACK" .never .inPlace nullKey,
  .client 0x341 "MSG_MOVE_START_SWIM_CHEAT" .never .inPlace nullKey,
  .client 0x342 "MSG_MOVE_STOP_SWIM_CHEAT" .never .inPlace nullKey,
  .server 0x343 "SMSG_MOVE_SET_CAN_FLY" .never,
  .server 0x344 "SMSG_MOVE_UNSET_CAN_FLY" .never,
  .client 0x345 "CMSG_MOVE_SET_CAN_FLY_ACK" .loggedIn .pool "move_set_can_fly_ack",
  .client 0x346 "CMSG_MOVE_SET_FLY" .loggedIn .pool "movement",
  .client 0x347 "CMSG_SOCKET_GEMS" .loggedIn .inPlace "socket",
  .client 0x348 "CMSG_ARENA_TEAM_CREATE" .never .inPlace nullKey,
  .server 0x349 "SMSG_ARENA_TEAM_COMMAND_RESULT" .never,
  .client 0x34A "MSG_MOVE_UPDATE_CAN_TRANSITION_BETWEEN_SWIM_AND_FLY" .never .inPlace nullKey,
  .client 0x34B "CMSG_ARENA_TEAM_QUERY" .loggedIn .pool "arena_team_query",
  .server 0x34C "SMSG_ARENA_TEAM_QUERY_RESPONSE" .never,
  .client 0x34D "CMSG_ARENA_TEAM_ROSTER" .loggedIn .pool "arena_team_roster",
  .server 0x34E "SMSG_ARENA_TEAM_ROSTER" .never,
  .client 0x34F "CMSG_ARENA_TEAM_INVITE" .loggedIn .world "arena_team_invite",
  .server 0x350 "SMSG_ARENA_TEAM_INVITE" .never,
  .client 0x351 "CMSG_ARENA_TEAM_ACCEPT" .loggedIn .world "arena_team_accept",
  .client 0x352 "CMSG_ARENA_TEAM_DECLINE" .loggedIn .world "arena_team_decline",
  .client 0x353 "CMSG_ARENA_TEAM_LEAVE" .loggedIn .world "arena_team_leave",
  .client 0x354 "CMSG_ARENA_TEAM_REMOVE" .loggedIn .world "arena_team_remove",
  .client 0x355 "CMSG_ARENA_TEAM_DISBAND" .loggedIn .world "arena_team_disband",
  .client 0x356 "CMSG_ARENA_TEAM_LEADER" .loggedIn .world "arena_team_leader",
  .server 0x357 "SMSG_ARENA_TEAM_EVENT" .never,
  .client 0x358 "CMSG_BATTLEMASTER_JOIN_ARENA" .loggedIn .world "battlemaster_join_arena",
  .client 0x359 "MSG_MOVE_START_ASCEND" .loggedIn .pool "movement",
  .client 0x35A "MSG_MOVE_STOP_ASCEND" .loggedIn .pool "movement",
  .server 0x35B "SMSG_ARENA_TEAM_STATS" .never,
  .client 0x35C "CMSG_LFG_JOIN" .loggedIn .world "lfg_join",
  .client 0x35D "CMSG_LFG_LEAVE" .loggedIn .world "lfg_leave",
  .client 0x35E "CMSG_SEARCH_LFG_JOIN" .loggedIn .world "lfr_search_join",
  .client 0x35F "CMSG_SEARCH_LFG_LEAVE" .loggedIn .world "lfr_search_leave",
  .server 0x360 "SMSG_UPDATE_LFG_LIST" .never,
  .server 0x361 "SMSG_LFG_PROPOSAL_UPDATE" .never,
  .client 0x362 "CMSG_LFG_PROPOSAL_RESULT" .loggedIn .world "lfg_proposal_result",
  .server 0x363 "SMSG_LFG_ROLE_CHECK_UPDATE" .never,
  .server 0x364 "SMSG_LFG_JOIN_RESULT" .never,
  .server 0x365 "SMSG_LFG_QUEUE_STATUS" .never,
  .client 0x366 "CMSG_SET_LFG_COMMENT" .loggedIn .world "lfg_set_comment",
  .server 0x367 "SMSG_LFG_UPDATE_PLAYER" .never,
  .server 0x368 "SMSG_LFG_UPDATE_PARTY" .never,
  .server 0x369 "SMSG_LFG_UPDATE_SEARCH" .never,
  .client 0x36A "CMSG_LFG_SET_ROLES" .loggedIn .world "lfg_set_roles",
  .client 0x36B "CMSG_LFG_SET_NEEDS" .never .inPlace nullKey,
  .client 0x36C "CMSG_LFG_SET_BOOT_VOTE" .loggedIn .world "lfg_set_boot_vote",
  .server 0x36D "SMSG_LFG_BOOT_PROPOSAL_UPDATE" .never,
  .client 0x36E "CMSG_LFD_PLAYER_LOCK_INFO_REQUEST" .loggedIn .world "lfg_player_lock_info_request",
  .server 0x36F "SMSG_LFG_PLAYER_INFO" .never,
  .client 0x370 "CMSG_LFG_TELEPORT" .loggedIn .world "lfg_teleport",
  .client 0x371 "CMSG_LFD_PARTY_LOCK_INFO_REQUEST" .loggedIn .world "lfg_party_lock_info_request",
  .server 0x372 "SMSG_LFG_PARTY_INFO" .never,
  .server 0x373 "SMSG_TITLE_EARNED" .never,
  .client 0x374 "CMSG_SET_TITLE" .loggedIn .inPlace "set_title",
  .client 0x375 "CMSG_CANCEL_MOUNT_AURA" .loggedIn .inPlace "cancel_mount_aura",
  .server 0x376 "SMSG_ARENA_ERROR" .never,
  .client 0x377 "MSG_INSPECT_ARENA_TEAMS" .loggedIn .inPlace "inspect_arena_teams",
  .server 0x378 "SMSG_DEATH_RELEASE_LOC" .never,
  .client 0x379 "CMSG_CANCEL_TEMP_ENCHANTMENT" .loggedIn .inPlace "cancel_temp_enchantment",
  .server 0x37A "SMSG_FORCED_DEATH_UPDATE" .never,
  .client 0x37B "CMSG_CHEAT_SET_HONOR_CURRENCY" .never .inPlace nullKey,
  .client 0x37C "CMSG_CHEAT_SET_ARENA_CURRENCY" .never .inPlace nullKey,
  .client 0x37D "MSG_MOVE_SET_FLIGHT_SPEED_CHEAT" .never .inPlace nullKey,
  .client 0x37E "MSG_MOVE_SET_FLIGHT_SPEED" .never .inPlace nullKey,
  .client 0x37F "MSG_MOVE_SET_FLIGHT_BACK_SPEED_CHEAT" .never .inPlace nullKey,
  .client 0x380 "MSG_MOVE_SET_FLIGHT_BACK_SPEED" .never .inPlace nullKey,
  .server 0x381 "SMSG_FORCE_FLIGHT_SPEED_CHANGE" .never,
  .client 0x382 "CMSG_FORCE_FLIGHT_SPEED_CHANGE_ACK" .loggedIn .pool "force_speed_change_ack",
  .server 0x383 "SMSG_FORCE_FLIGHT_BACK_SPEED_CHANGE" .never,
  .client 0x384 "CMSG_FORCE_FLIGHT_BACK_SPEED_CHANGE_ACK" .loggedIn .pool "force_speed_change_ack",
  .server 0x385 "SMSG_SPLINE_SET_FLIGHT_SPEED" .never,
  .server 0x386 "SMSG_SPLINE_SET_FLIGHT_BACK_SPEED" .never,
  .client 0x387 "CMSG_MAELSTROM_INVALIDATE_CACHE" .never .inPlace nullKey,
  .server 0x388 "SMSG_FLIGHT_SPLINE_SYNC" .never,
  .client 0x389 "CMSG_SET_TAXI_BENCHMARK_MODE" .loggedIn .world "set_taxi_benchmark",
  .server 0x38A "SMSG_JOINED_BATTLEGROUND_QUEUE" .never,
  .server 0x38B "SMSG_REALM_SPLIT" .never,
  .client 0x38C "CMSG_REALM_SPLIT" .authed .world "realm_split",
  .client 0x38D "CMSG_MOVE_CHNG_TRANSPORT" .loggedIn .pool "movement",
  .client 0x38E "MSG_PARTY_ASSIGNMENT" .loggedIn .world "party_assignment",
  .server 0x38F "SMSG_OFFER_PETITION_ERROR" .never,
  .server 0x390 "SMSG_TIME_SYNC_REQ" .never,
  .client 0x391 "CMSG_TIME_SYNC_RESP" .loggedIn .pool "time_sync_resp",
  .client 0x392 "CMSG_SEND_LOCAL_EVENT" .never .inPlace nullKey,
  .client 0x393 "CMSG_SEND_GENERAL_TRIGGER" .never .inPlace nullKey,
  .client 0x394 "CMSG_SEND_COMBAT_TRIGGER" .never .inPlace nullKey,
  .client 0x395 "CMSG_MAELSTROM_GM_SENT_MAIL" .never .inPlace nullKey,
  .server 0x396 "SMSG_RESET_FAILED_NOTIFY" .never,
  .server 0x397 "SMSG_REAL_GROUP_UPDATE" .never,
  .server 0x398 "SMSG_LFG_DISABLED" .never,
  .client 0x399 "CMSG_ACTIVE_PVP_CHEAT" .never .inPlace nullKey,
  .client 0x39A "CMSG_CHEAT_DUMP_ITEMS_DEBUG_ONLY" .never .inPlace nullKey,
  .server 0x39B "SMSG_CHEAT_DUMP_ITEMS_DEBUG_ONLY_RESPONSE" .never,
  .server 0x39C "SMSG_CHEAT_DUMP_ITEMS_DEBUG_ONLY_RESPONSE_WRITE_FILE" .never,
  .server 0x39D "SMSG_UPDATE_COMBO_POINTS" .never,
  .server 0x39E "SMSG_VOICE_SESSION_ROSTER_UPDATE" .never,
  .server 0x39F "SMSG_VOICE_SESSION_LEAVE" .never,
  .server 0x3A0 "SMSG_VOICE_SESSION_ADJUST_PRIORITY" .never,
  .client 0x3A1 "CMSG_VOICE_SET_TALKER_MUTED_REQUEST" .never .inPlace nullKey,
  .server 0x3A2 "SMSG_VOICE_SET_TALKER_MUTED" .never,
  .server 0x3A3 "SMSG_INIT_EXTRA_AURA_INFO_OBSOLETE" .never,
  .server 0x3A4 "SMSG_SET_EXTRA_AURA_INFO_OBSOLETE" .never,
  .server 0x3A5 "SMSG_SET_EXTRA_AURA_INFO_NEED_UPDATE_OBSOLETE" .never,
  .server 0x3A6 "SMSG_CLEAR_EXTRA_AURA_INFO_OBSOLETE" .never,
  .client 0x3A7 "MSG_MOVE_START_DESCEND" .loggedIn .pool "movement",
  .client 0x3A8 "CMSG_IGNORE_REQUIREMENTS_CHEAT" .never .inPlace nullKey,
  .server 0x3A9 "SMSG_IGNORE_REQUIREMENTS_CHEAT" .never,
  .server 0x3AA "SMSG_SPELL_CHANCE_PROC_LOG" .never,
  .client 0x3AB "CMSG_MOVE_SET_RUN_SPEED" .never .inPlace nullKey,
  .server 0x3AC "SMSG_DISMOUNT" .never,
  .client 0x3AD "MSG_MOVE_UPDATE_CAN_FLY" .never .inPlace nullKey,
  .client 0x3AE "MSG_RAID_READY_CHECK_CONFIRM" .never .inPlace nullKey,
  .client 0x3AF "CMSG_VOICE_SESSION_ENABLE" .authed .world "voice_session_enable",
  .server 0x3B0 "SMSG_VOICE_SESSION_ENABLE" .never,
  .server 0x3B1 "SMSG_VOICE_PARENTAL_CONTROLS" .never,
  .client 0x3B2 "CMSG_GM_WHISPER" .never .inPlace nullKey,
  .server 0x3B3 "SMSG_GM_MESSAGECHAT" .never,
  .client 0x3B4 "MSG_GM_GEARRATING" .never .inPlace nullKey,
  .client 0x3B5 "CMSG_COMMENTATOR_ENABLE" .never .inPlace nullKey,
  .server 0x3B6 "SMSG_COMMENTATOR_STATE_CHANGED" .never,
  .client 0x3B7 "CMSG_COMMENTATOR_GET_MAP_INFO" .never .inPlace nullKey,
  .server 0x3B8 "SMSG_COMMENTATOR_MAP_INFO" .never,
  .client 0x3B9 "CMSG_COMMENTATOR_GET_PLAYER_INFO" .never .inPlace nullKey,
  .server 0x3BA "SMSG_COMMENTATOR_GET_PLAYER_INFO" .never,
  .server 0x3BB "SMSG_COMMENTATOR_PLAYER_INFO" .never,
  .client 0x3BC "CMSG_COMMENTATOR_ENTER_INSTANCE" .never .inPlace nullKey,
  .client 0x3BD "CMSG_COMMENTATOR_EXIT_INSTANCE" .never .inPlace nullKey,
  .client 0x3BE "CMSG_COMMENTATOR_INSTANCE_COMMAND" .never .inPlace nullKey,
  .server 0x3BF "SMSG_CLEAR_TARGET" .never,
  .client 0x3C0 "CMSG_BOT_DETECTED" .never .inPlace nullKey,
  .server 0x3C1 "SMSG_CROSSED_INEBRIATION_THRESHOLD" .never,
  .client 0x3C2 "CMSG_CHEAT_PLAYER_LOGIN" .never .inPlace nullKey,
  .client 0x3C3 "CMSG_CHEAT_PLAYER_LOOKUP" .never .inPlace nullKey,
  .server 0x3C4 "SMSG_CHEAT_PLAYER_LOOKUP" .never,
  .server 0x3C5 "SMSG_KICK_REASON" .never,
  .client 0x3C6 "MSG_RAID_READY_CHECK_FINISHED" .loggedIn .world "raid_ready_check_finished",
  .client 0x3C7 "CMSG_COMPLAIN" .loggedIn .world "complain",
  .server 0x3C8 "SMSG_COMPLAIN_RESULT" .never,
  .server 0x3C9 "SMSG_FEATURE_SYSTEM_STATUS" .never,
  .client 0x3CA "CMSG_GM_SHOW_COMPLAINTS" .never .inPlace nullKey,
  .client 0x3CB "CMSG_GM_UNSQUELCH" .never .inPlace nullKey,
  .client 0x3CC "CMSG_CHANNEL_SILENCE_VOICE" .never .inPlace nullKey,
  .client 0x3CD "CMSG_CHANNEL_SILENCE_ALL" .never .inPlace nullKey,
  .client 0x3CE "CMSG_CHANNEL_UNSILENCE_VOICE" .never .inPlace nullKey,
  .client 0x3CF "CMSG_CHANNEL_UNSILENCE_ALL" .never .inPlace nullKey,
  .client 0x3D0 "CMSG_TARGET_CAST" .never .inPlace nullKey,
  .client 0x3D1 "CMSG_TARGET_SCRIPT_CAST" .never .inPlace nullKey,
  .client 0x3D2 "CMSG_CHANNEL_DISPLAY_LIST" .loggedIn .pool "channel_display_list_query",
  .client 0x3D3 "CMSG_SET_ACTIVE_VOICE_CHANNEL" .authed .world "set_active_voice_channel",
  .client 0x3D4 "CMSG_GET_CHANNEL_MEMBER_COUNT" .loggedIn .pool "get_channel_member_count",
  .server 0x3D5 "SMSG_CHANNEL_MEMBER_COUNT" .never,
  .client 0x3D6 "CMSG_CHANNEL_VOICE_ON" .loggedIn .pool "channel_voice_on",
  .client 0x3D7 "CMSG_CHANNEL_VOICE_OFF" .never .inPlace nullKey,
  .client 0x3D8 "CMSG_DEBUG_LIST_TARGETS" .never .inPlace nullKey,
  .server 0x3D9 "SMSG_DEBUG_LIST_TARGETS" .never,
  .server 0x3DA "SMSG_AVAILABLE_VOICE_CHANNEL" .never,
  .client 0x3DB "CMSG_ADD_VOICE_IGNORE" .never .inPlace nullKey,
  .client 0x3DC "CMSG_DEL_VOICE_IGNORE" .never .inPlace nullKey,
  .client 0x3DD "CMSG_PARTY_SILENCE" .never .inPlace nullKey,
  .client 0x3DE "CMSG_PARTY_UNSILENCE" .never .inPlace nullKey,
  .client 0x3DF "MSG_NOTIFY_PARTY_SQUELCH" .never .inPlace nullKey,
  .server 0x3E0 "SMSG_COMSAT_RECONNECT_TRY" .never,
  .server 0x3E1 "SMSG_COMSAT_DISCONNECT" .never,
  .server 0x3E2 "SMSG_COMSAT_CONNECT_FAIL" .never,
  .server 0x3E3 "SMSG_VOICE_CHAT_STATUS" .never,
  .client 0x3E4 "CMSG_REPORT_PVP_AFK" .loggedIn .world "report_pvp_afk",
  .server 0x3E5 "SMSG_REPORT_PVP_AFK_RESULT" .never,
  .client 0x3E6 "CMSG_GUILD_BANKER_ACTIVATE" .loggedIn .world "guild_banker_activate",
  .client 0x3E7 "CMSG_GUILD_BANK_QUERY_TAB" .loggedIn .world "guild_bank_query_tab",
  .server 0x3E8 "SMSG_GUILD_BANK_LIST" .never,
  .client 0x3E9 "CMSG_GUILD_BANK_SWAP_ITEMS" .loggedIn .world "guild_bank_swap_items",
  .client 0x3EA "CMSG_GUILD_BANK_BUY_TAB" .loggedIn .world "guild_bank_buy_tab",
  .client 0x3EB "CMSG_GUILD_BANK_UPDATE_TAB" .loggedIn .world "guild_bank_update_tab",
  .client 0x3EC "CMSG_GUILD_BANK_DEPOSIT_MONEY" .loggedIn .world "guild_bank_deposit_money",
  .client 0x3ED "CMSG_GUILD_BANK_WITHDRAW_MONEY" .loggedIn .world "guild_bank_withdraw_money",
  .client 0x3EE "MSG_GUILD_BANK_LOG_QUERY" .loggedIn .world "guild_bank_log_query",
  .client 0x3EF "CMSG_SET_CHANNEL_WATCH" .loggedIn .world "set_channel_watch",
  .server 0x3F0 "SMSG_USERLIST_ADD" .never,
  .server 0x3F1 "SMSG_USERLIST_REMOVE" .never,
  .server 0x3F2 "SMSG_USERLIST_UPDATE" .never,
  .client 0x3F3 "CMSG_CLEAR_CHANNEL_WATCH" .loggedIn .world "clear_channel_watch",
  .server 0x3F4 "SMSG_INSPECT_TALENT" .never,
  .server 0x3F5 "SMSG_GOGOGO_OBSOLETE" .never,
  .server 0x3F6 "SMSG_ECHO_PARTY_SQUELCH" .never,
  .client 0x3F7 "CMSG_SET_TITLE_SUFFIX" .never .inPlace nullKey,
  .client 0x3F8 "CMSG_SPELLCLICK" .loggedIn .inPlace "spell_click",
  .server 0x3F9 "SMSG_LOOT_LIST" .never,
  .client 0x3FA "CMSG_GM_CHARACTER_RESTORE" .never .inPlace nullKey,
  .client 0x3FB "CMSG_GM_CHARACTER_SAVE" .never .inPlace nullKey,
  .server 0x3FC "SMSG_VOICESESSION_FULL" .never,
  .client 0x3FD "MSG_GUILD_PERMISSIONS" .loggedIn .world "guild_permissions",
  .client 0x3FE "MSG_GUILD_BANK_MONEY_WITHDRAWN" .loggedIn .world "guild_bank_money_withdrawn",
  .client 0x3FF "MSG_GUILD_EVENT_LOG_QUERY" .loggedIn .world "guild_event_log_query"
]

end Production
end Manifest
end PacketDispatch
