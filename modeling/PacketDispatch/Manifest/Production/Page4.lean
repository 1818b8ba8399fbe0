import PacketDispatch.Manifest.Row

/-!
# Production manifest, opcodes 0x400 to 0x4FF

The rows of one page of opcodes, in the order of their opcodes.
-/

namespace PacketDispatch
namespace Manifest
namespace Production

/-- The rows from 0x400 to 0x4FF. -/
def page4 : List Row := [
  .client 0x400 "CMSG_MAELSTROM_RENAME_GUILD" .never .inPlace nullKey,
  .client 0x401 "CMSG_GET_MIRRORIMAGE_DATA" .loggedIn .world "mirror_image_data_request",
  .server 0x402 "SMSG_MIRRORIMAGE_DATA" .never,
  .server 0x403 "SMSG_FORCE_DISPLAY_UPDATE" .never,
  .server 0x404 "SMSG_SPELL_CHANCE_RESIST_PUSHBACK" .never,
  .client 0x405 "CMSG_IGNORE_DIMINISHING_RETURNS_CHEAT" .never .inPlace nullKey,
  .server 0x406 "SMSG_IGNORE_DIMINISHING_RETURNS_CHEAT" .never,
  .client 0x407 "CMSG_KEEP_ALIVE" .never .world earlyKey,
  .server 0x408 "SMSG_RAID_READY_CHECK_ERROR" .never,
  .client 0x409 "CMSG_OPT_OUT_OF_LOOT" .authed .world "opt_out_of_loot",
  .client 0x40A "MSG_QUERY_GUILD_BANK_TEXT" .loggedIn .world "query_guild_bank_tab_text",
  .client 0x40B "CMSG_SET_GUILD_BANK_TEXT" .loggedIn .world "set_guild_bank_tab_text",
  .client 0x40C "CMSG_SET_GRANTABLE_LEVELS" .never .inPlace nullKey,
  .client 0x40D "CMSG_GRANT_LEVEL" .loggedIn .world "grant_level",
  .client 0x40E "CMSG_REFER_A_FRIEND" .never .inPlace nullKey,
  .client 0x40F "MSG_GM_CHANGE_ARENA_RATING" .never .inPlace nullKey,
  .client 0x410 "CMSG_DECLINE_CHANNEL_INVITE" .loggedIn .inPlace "channel_decline_invite",
  .server 0x411 "SMSG_GROUPACTION_THROTTLED" .never,
  .server 0x412 "SMSG_OVERRIDE_LIGHT" .never,
  .server 0x413 "SMSG_TOTEM_CREATED" .never,
  .client 0x414 "CMSG_TOTEM_DESTROYED" .loggedIn .inPlace "totem_destroyed",
  .client 0x415 "CMSG_EXPIRE_RAID_INSTANCE" .never .inPlace nullKey,
  .client 0x416 "CMSG_NO_SPELL_VARIANCE" .never .inPlace nullKey,
  .client 0x417 "CMSG_QUESTGIVER_STATUS_MULTIPLE_QUERY" .loggedIn .world
    "questgiver_status_multiple_query",
  .server 0x418 "SMSG_QUESTGIVER_STATUS_MULTIPLE" .never,
  .client 0x419 "CMSG_SET_PLAYER_DECLINED_NAMES" .authed .world "set_player_declined_names",
  .server 0x41A "SMSG_SET_PLAYER_DECLINED_NAMES_RESULT" .never,
  .client 0x41B "CMSG_QUERY_SERVER_BUCK_DATA" .never .inPlace nullKey,
  .client 0x41C "CMSG_CLEAR_SERVER_BUCK_DATA" .never .inPlace nullKey,
  .server 0x41D "SMSG_SERVER_BUCK_DATA" .never,
  .server 0x41E "SMSG_SEND_UNLEARN_SPELLS" .never,
  .server 0x41F "SMSG_PROPOSE_LEVEL_GRANT" .never,
  .client 0x420 "CMSG_ACCEPT_LEVEL_GRANT" .loggedIn .world "accept_grant_level",
  .server 0x421 "SMSG_REFER_A_FRIEND_FAILURE" .never,
  .server 0x422 "SMSG_SPLINE_MOVE_SET_FLYING" .never,
  .server 0x423 "SMSG_SPLINE_MOVE_UNSET_FLYING" .never,
  .server 0x424 "SMSG_SUMMON_CANCEL" .never,
  .client 0x425 "CMSG_CHANGE_PERSONAL_ARENA_RATING" .never .inPlace nullKey,
  .client 0x426 "CMSG_ALTER_APPEARANCE" .loggedIn .world "alter_appearance",
  .server 0x427 "SMSG_ENABLE_BARBER_SHOP" .never,
  .server 0x428 "SMSG_BARBER_SHOP_RESULT" .never,
  .client 0x429 "CMSG_CALENDAR_GET_CALENDAR" .loggedIn .world "calendar_get_calendar",
  .client 0x42A "CMSG_CALENDAR_GET_EVENT" .loggedIn .world "calendar_get_event",
  .client 0x42B "CMSG_CALENDAR_GUILD_FILTER" .loggedIn .world "calendar_guild_filter",
  .client 0x42C "CMSG_CALENDAR_ARENA_TEAM" .loggedIn .world "calendar_arena_team",
  .client 0x42D "CMSG_CALENDAR_ADD_EVENT" .loggedIn .world "calendar_add_event",
  .client 0x42E "CMSG_CALENDAR_UPDATE_EVENT" .loggedIn .world "calendar_update_event",
  .client 0x42F "CMSG_CALENDAR_REMOVE_EVENT" .loggedIn .world "calendar_remove_event",
  .client 0x430 "CMSG_CALENDAR_COPY_EVENT" .loggedIn .world "calendar_copy_event",
  .client 0x431 "CMSG_CALENDAR_EVENT_INVITE" .loggedIn .world "calendar_event_invite",
  .client 0x432 "CMSG_CALENDAR_EVENT_RSVP" .loggedIn .world "calendar_event_rsvp",
  .client 0x433 "CMSG_CALENDAR_EVENT_REMOVE_INVITE" .loggedIn .world "calendar_event_remove_invite",
  .client 0x434 "CMSG_CALENDAR_EVENT_STATUS" .loggedIn .world "calendar_event_status",
  .client 0x435 "CMSG_CALENDAR_EVENT_MODERATOR_STATUS" .loggedIn .world
    "calendar_event_moderator_status",
  .server 0x436 "SMSG_CALENDAR_SEND_CALENDAR" .never,
  .server 0x437 "SMSG_CALENDAR_SEND_EVENT" .never,
  .server 0x438 "SMSG_CALENDAR_FILTER_GUILD" .never,
  .server 0x439 "SMSG_CALENDAR_ARENA_TEAM" .never,
  .server 0x43A "SMSG_CALENDAR_EVENT_INVITE" .never,
  .server 0x43B "SMSG_CALENDAR_EVENT_INVITE_REMOVED" .never,
  .server 0x43C "SMSG_CALENDAR_EVENT_STATUS" .never,
  .server 0x43D "SMSG_CALENDAR_COMMAND_RESULT" .never,
  .server 0x43E "SMSG_CALENDAR_RAID_LOCKOUT_ADDED" .never,
  .server 0x43F "SMSG_CALENDAR_RAID_LOCKOUT_REMOVED" .never,
  .server 0x440 "SMSG_CALENDAR_EVENT_INVITE_ALERT" .never,
  .server 0x441 "SMSG_CALENDAR_EVENT_INVITE_REMOVED_ALERT" .never,
  .server 0x442 "SMSG_CALENDAR_EVENT_INVITE_STATUS_ALERT" .never,
  .server 0x443 "SMSG_CALENDAR_EVENT_REMOVED_ALERT" .never,
  .server 0x444 "SMSG_CALENDAR_EVENT_UPDATED_ALERT" .never,
  .server 0x445 "SMSG_CALENDAR_EVENT_MODERATOR_STATUS_ALERT" .never,
  .client 0x446 "CMSG_CALENDAR_COMPLAIN" .loggedIn .world "calendar_complain",
  .client 0x447 "CMSG_CALENDAR_GET_NUM_PENDING" .loggedIn .world "calendar_get_num_pending",
  .server 0x448 "SMSG_CALENDAR_SEND_NUM_PENDING" .never,
  .client 0x449 "CMSG_SAVE_DANCE" .never .inPlace nullKey,
  .server 0x44A "SMSG_NOTIFY_DANCE" .never,
  .client 0x44B "CMSG_PLAY_DANCE" .never .inPlace nullKey,
  .server 0x44C "SMSG_PLAY_DANCE" .never,
  .client 0x44D "CMSG_LOAD_DANCES" .never .inPlace nullKey,
  .client 0x44E "CMSG_STOP_DANCE" .never .inPlace nullKey,
  .server 0x44F "SMSG_STOP_DANCE" .never,
  .client 0x450 "CMSG_SYNC_DANCE" .never .inPlace nullKey,
  .client 0x451 "CMSG_DANCE_QUERY" .never .inPlace nullKey,
  .server 0x452 "SMSG_DANCE_QUERY_RESPONSE" .never,
  .server 0x453 "SMSG_INVALIDATE_DANCE" .never,
  .client 0x454 "CMSG_DELETE_DANCE" .never .inPlace nullKey,
  .server 0x455 "SMSG_LEARNED_DANCE_MOVES" .never,
  .client 0x456 "CMSG_LEARN_DANCE_MOVE" .never .inPlace nullKey,
  .client 0x457 "CMSG_UNLEARN_DANCE_MOVE" .never .inPlace nullKey,
  .client 0x458 "CMSG_SET_RUNE_COUNT" .never .inPlace nullKey,
  .client 0x459 "CMSG_SET_RUNE_COOLDOWN" .never .inPlace nullKey,
  .client 0x45A "MSG_MOVE_SET_PITCH_RATE_CHEAT" .never .inPlace nullKey,
  .client 0x45B "MSG_MOVE_SET_PITCH_RATE" .never .inPlace nullKey,
  .server 0x45C "SMSG_FORCE_PITCH_RATE_CHANGE" .never,
  .client 0x45D "CMSG_FORCE_PITCH_RATE_CHANGE_ACK" .never .inPlace nullKey,
  .server 0x45E "SMSG_SPLINE_SET_PITCH_RATE" .never,
  .client 0x45F "CMSG_CALENDAR_EVENT_INVITE_NOTES" .never .inPlace nullKey,
  .server 0x460 "SMSG_CALENDAR_EVENT_INVITE_NOTES" .never,
  .server 0x461 "SMSG_CALENDAR_EVENT_INVITE_NOTES_ALERT" .never,
  .client 0x462 "CMSG_UPDATE_MISSILE_TRAJECTORY" .loggedIn .world "update_missile_trajectory",
  .server 0x463 "SMSG_UPDATE_ACCOUNT_DATA_COMPLETE" .never,
  .server 0x464 "SMSG_TRIGGER_MOVIE" .never,
  .client 0x465 "CMSG_COMPLETE_MOVIE" .never .inPlace nullKey,
  .client 0x466 "CMSG_SET_GLYPH_SLOT" .never .inPlace nullKey,
  .client 0x467 "CMSG_SET_GLYPH" .never .inPlace nullKey,
  .server 0x468 "SMSG_ACHIEVEMENT_EARNED" .never,
  .server 0x469 "SMSG_DYNAMIC_DROP_ROLL_RESULT" .never,
  .server 0x46A "SMSG_CRITERIA_UPDATE" .never,
  .client 0x46B "CMSG_QUERY_INSPECT_ACHIEVEMENTS" .loggedIn .inPlace "query_inspect_achievements",
  .server 0x46C "SMSG_RESPOND_INSPECT_ACHIEVEMENTS" .never,
  .client 0x46D "CMSG_DISMISS_CONTROLLED_VEHICLE" .loggedIn .inPlace "dismiss_controlled_vehicle",
  .client 0x46E "CMSG_COMPLETE_ACHIEVEMENT_CHEAT" .never .inPlace nullKey,
  .server 0x46F "SMSG_QUESTUPDATE_ADD_PVP_KILL" .never,
  .client 0x470 "CMSG_SET_CRITERIA_CHEAT" .never .inPlace nullKey,
  .server 0x471 "SMSG_CALENDAR_RAID_LOCKOUT_UPDATED" .never,
  .client 0x472 "CMSG_UNITANIMTIER_CHEAT" .never .inPlace nullKey,
  .client 0x473 "CMSG_CHAR_CUSTOMIZE" .authed .world "char_customize",
  .server 0x474 "SMSG_CHAR_CUSTOMIZE" .never,
  .server 0x475 "SMSG_PET_RENAMEABLE" .never,
  .client 0x476 "CMSG_REQUEST_VEHICLE_EXIT" .loggedIn .inPlace "request_vehicle_exit",
  .client 0x477 "CMSG_REQUEST_VEHICLE_PREV_SEAT" .loggedIn .inPlace
    "change_seats_on_controlled_vehicle",
  .client 0x478 "CMSG_REQUEST_VEHICLE_NEXT_SEAT" .loggedIn .inPlace
    "change_seats_on_controlled_vehicle",
  .client 0x479 "CMSG_REQUEST_VEHICLE_SWITCH_SEAT" .loggedIn .inPlace
    "change_seats_on_controlled_vehicle",
  .client 0x47A "CMSG_PET_LEARN_TALENT" .loggedIn .inPlace "pet_learn_talent",
  .client 0x47B "CMSG_PET_UNLEARN_TALENTS" .never .inPlace nullKey,
  .server 0x47C "SMSG_SET_PHASE_SHIFT" .never,
  .server 0x47D "SMSG_ALL_ACHIEVEMENT_DATA" .never,
  .client 0x47E "CMSG_FORCE_SAY_CHEAT" .never .inPlace nullKey,
  .server 0x47F "SMSG_HEALTH_UPDATE" .never,
  .server 0x480 "SMSG_POWER_UPDATE" .never,
  .client 0x481 "CMSG_GAMEOBJ_REPORT_USE" .loggedIn .inPlace "gameobject_report_use",
  .server 0x482 "SMSG_HIGHEST_THREAT_UPDATE" .never,
  .server 0x483 "SMSG_THREAT_UPDATE" .never,
  .server 0x484 "SMSG_THREAT_REMOVE" .never,
  .server 0x485 "SMSG_THREAT_CLEAR" .never,
  .server 0x486 "SMSG_CONVERT_RUNE" .never,
  .server 0x487 "SMSG_RESYNC_RUNES" .never,
  .server 0x488 "SMSG_ADD_RUNE_POWER" .never,
  .client 0x489 "CMSG_START_QUEST" .never .inPlace nullKey,
  .client 0x48A "CMSG_REMOVE_GLYPH" .loggedIn .inPlace "remove_glyph",
  .client 0x48B "CMSG_DUMP_OBJECTS" .never .inPlace nullKey,
  .server 0x48C "SMSG_DUMP_OBJECTS_DATA" .never,
  .client 0x48D "CMSG_DISMISS_CRITTER" .loggedIn .world "dismiss_critter",
  .server 0x48E "SMSG_NOTIFY_DEST_LOC_SPELL_CAST" .never,
  .client 0x48F "CMSG_AUCTION_LIST_PENDING_SALES" .loggedIn .world "auction_list_pending_sales",
  .server 0x490 "SMSG_AUCTION_LIST_PENDING_SALES" .never,
  .server 0x491 "SMSG_MODIFY_COOLDOWN" .never,
  .server 0x492 "SMSG_PET_UPDATE_COMBO_POINTS" .never,
  .client 0x493 "CMSG_ENABLETAXI" .loggedIn .pool "taxi_query_available_nodes",
  .server 0x494 "SMSG_PRE_RESURRECT" .never,
  .server 0x495 "SMSG_AURA_UPDATE_ALL" .never,
  .server 0x496 "SMSG_AURA_UPDATE" .never,
  .client 0x497 "CMSG_FLOOD_GRACE_CHEAT" .never .inPlace nullKey,
  .server 0x498 "SMSG_SERVER_FIRST_ACHIEVEMENT" .never,
  .server 0x499 "SMSG_PET_LEARNED_SPELL" .never,
  .server 0x49A "SMSG_PET_UNLEARNED_SPELL" .never,
  .client 0x49B "CMSG_CHANGE_SEATS_ON_CONTROLLED_VEHICLE" .loggedIn .inPlace
    "change_seats_on_controlled_vehicle",
  .client 0x49C "CMSG_HEARTH_AND_RESURRECT" .loggedIn .pool "hearth_and_resurrect",
  .server 0x49D "SMSG_ON_CANCEL_EXPECTED_RIDE_VEHICLE_AURA" .never,
  .server 0x49E "SMSG_CRITERIA_DELETED" .never,
  .server 0x49F "SMSG_ACHIEVEMENT_DELETED" .never,
  .client 0x4A0 "CMSG_SERVER_INFO_QUERY" .never .inPlace nullKey,
  .server 0x4A1 "SMSG_SERVER_INFO_RESPONSE" .never,
  .client 0x4A2 "CMSG_CHECK_LOGIN_CRITERIA" .never .inPlace nullKey,
  .server 0x4A3 "SMSG_SERVER_BUCK_DATA_START" .never,
  .client 0x4A4 "CMSG_SET_BREATH" .never .inPlace nullKey,
  .client 0x4A5 "CMSG_QUERY_VEHICLE_STATUS" .never .inPlace nullKey,
  .server 0x4A6 "SMSG_BATTLEGROUND_INFO_THROTTLED" .never,
  .server 0x4A7 "SMSG_PLAYER_VEHICLE_DATA" .never,
  .client 0x4A8 "CMSG_PLAYER_VEHICLE_ENTER" .loggedIn .world "enter_player_vehicle",
  .client 0x4A9 "CMSG_CONTROLLER_EJECT_PASSENGER" .loggedIn .world "eject_passenger",
  .server 0x4AA "SMSG_PET_GUIDS" .never,
  .server 0x4AB "SMSG_CLIENTCACHE_VERSION" .never,
  .client 0x4AC "CMSG_CHANGE_GDF_ARENA_RATING" .never .inPlace nullKey,
  .client 0x4AD "CMSG_SET_ARENA_TEAM_RATING_BY_INDEX" .never .inPlace nullKey,
  .client 0x4AE "CMSG_SET_ARENA_TEAM_WEEKLY_GAMES" .never .inPlace nullKey,
  .client 0x4AF "CMSG_SET_ARENA_TEAM_SEASON_GAMES" .never .inPlace nullKey,
  .client 0x4B0 "CMSG_SET_ARENA_MEMBER_WEEKLY_GAMES" .never .inPlace nullKey,
  .client 0x4B1 "CMSG_SET_ARENA_MEMBER_SEASON_GAMES" .never .inPlace nullKey,
  .server 0x4B2 "SMSG_ITEM_REFUND_INFO_RESPONSE" .never,
  .client 0x4B3 "CMSG_ITEM_REFUND_INFO" .loggedIn .inPlace "item_refund_info_request",
  .client 0x4B4 "CMSG_ITEM_REFUND" .loggedIn .inPlace "item_refund",
  .server 0x4B5 "SMSG_ITEM_REFUND_RESULT" .never,
  .client 0x4B6 "CMSG_CORPSE_MAP_POSITION_QUERY" .loggedIn .world "corpse_map_position_query",
  .server 0x4B7 "SMSG_CORPSE_MAP_POSITION_QUERY_RESPONSE" .never,
  .client 0x4B8 "CMSG_UNUSED5" .loggedIn .world nullKey,
  .client 0x4B9 "CMSG_UNUSED6" .never .inPlace nullKey,
  .client 0x4BA "CMSG_CALENDAR_EVENT_SIGNUP" .loggedIn .world "calendar_event_signup",
  .server 0x4BB "SMSG_CALENDAR_CLEAR_PENDING_ACTION" .never,
  .server 0x4BC "SMSG_EQUIPMENT_SET_LIST" .never,
  .client 0x4BD "CMSG_EQUIPMENT_SET_SAVE" .loggedIn .world "equipment_set_save",
  .client 0x4BE "CMSG_UPDATE_PROJECTILE_POSITION" .loggedIn .world "update_projectile_position",
  .server 0x4BF "SMSG_SET_PROJECTILE_POSITION" .never,
  .server 0x4C0 "SMSG_TALENTS_INFO" .never,
  .client 0x4C1 "CMSG_LEARN_PREVIEW_TALENTS" .loggedIn .inPlace "learn_preview_talents",
  .client 0x4C2 "CMSG_LEARN_PREVIEW_TALENTS_PET" .loggedIn .inPlace "learn_preview_talents_pet",
  .client 0x4C3 "CMSG_SET_ACTIVE_TALENT_GROUP_OBSOLETE" .never .inPlace nullKey,
  .client 0x4C4 "CMSG_GM_GRANT_ACHIEVEMENT" .never .inPlace nullKey,
  .client 0x4C5 "CMSG_GM_REMOVE_ACHIEVEMENT" .never .inPlace nullKey,
  .client 0x4C6 "CMSG_GM_SET_CRITERIA_FOR_PLAYER" .never .inPlace nullKey,
  .server 0x4C7 "SMSG_ARENA_UNIT_DESTROYED" .never,
  .server 0x4C8 "SMSG_ARENA_TEAM_CHANGE_FAILED_QUEUED" .never,
  .client 0x4C9 "CMSG_PROFILEDATA_REQUEST" .never .inPlace nullKey,
  .server 0x4CA "SMSG_PROFILEDATA_RESPONSE" .never,
  .client 0x4CB "CMSG_START_BATTLEFIELD_CHEAT" .never .inPlace nullKey,
  .client 0x4CC "CMSG_END_BATTLEFIELD_CHEAT" .never .inPlace nullKey,
  .server 0x4CD "SMSG_MULTIPLE_PACKETS" .never,
  .server 0x4CE "SMSG_MOVE_GRAVITY_DISABLE" .never,
  .client 0x4CF "CMSG_MOVE_GRAVITY_DISABLE_ACK" .never .inPlace nullKey,
  .server 0x4D0 "SMSG_MOVE_GRAVITY_ENABLE" .never,
  .client 0x4D1 "CMSG_MOVE_GRAVITY_ENABLE_ACK" .never .inPlace nullKey,
  .server 0x4D2 "MSG_MOVE_GRAVITY_CHNG" .never,
  .server 0x4D3 "SMSG_SPLINE_MOVE_GRAVITY_DISABLE" .never,
  .server 0x4D4 "SMSG_SPLINE_MOVE_GRAVITY_ENABLE" .never,
  .client 0x4D5 "CMSG_EQUIPMENT_SET_USE" .loggedIn .inPlace "equipment_set_use",
  .server 0x4D6 "SMSG_EQUIPMENT_SET_USE_RESULT" .never,
  .client 0x4D7 "CMSG_FORCE_ANIM" .never .inPlace nullKey,
  .server 0x4D8 "SMSG_FORCE_ANIM" .never,
  .client 0x4D9 "CMSG_CHAR_FACTION_CHANGE" .authed .world "char_faction_or_race_change",
  .server 0x4DA "SMSG_CHAR_FACTION_CHANGE" .never,
  .client 0x4DB "CMSG_PVP_QUEUE_STATS_REQUEST" .never .inPlace nullKey,
  .server 0x4DC "SMSG_PVP_QUEUE_STATS" .never,
  .client 0x4DD "CMSG_SET_PAID_SERVICE_CHEAT" .never .inPlace nullKey,
  .server 0x4DE "SMSG_BATTLEFIELD_MGR_ENTRY_INVITE" .never,
  (Row.client 0x4DF "CMSG_BATTLEFIELD_MGR_ENTRY_INVITE_RESPONSE" .loggedIn .world
      "bf_entry_invite_response").because
    "changes group and battlefield membership",
  .server 0x4E0 "SMSG_BATTLEFIELD_MGR_ENTERED" .never,
  .server 0x4E1 "SMSG_BATTLEFIELD_MGR_QUEUE_INVITE" .never,
  .client 0x4E2 "CMSG_BATTLEFIELD_MGR_QUEUE_INVITE_RESPONSE" .loggedIn .world
    "bf_queue_invite_response",
  .client 0x4E3 "CMSG_BATTLEFIELD_MGR_QUEUE_REQUEST" .never .inPlace nullKey,
  .server 0x4E4 "SMSG_BATTLEFIELD_MGR_QUEUE_REQUEST_RESPONSE" .never,
  .server 0x4E5 "SMSG_BATTLEFIELD_MGR_EJECT_PENDING" .never,
  .server 0x4E6 "SMSG_BATTLEFIELD_MGR_EJECTED" .never,
  .client 0x4E7 "CMSG_BATTLEFIELD_MGR_EXIT_REQUEST" .loggedIn .world "bf_exit_request",
  .server 0x4E8 "SMSG_BATTLEFIELD_MGR_STATE_CHANGE" .never,
  .client 0x4E9 "CMSG_BATTLEFIELD_MANAGER_ADVANCE_STATE" .never .inPlace nullKey,
  .client 0x4EA "CMSG_BATTLEFIELD_MANAGER_SET_NEXT_TRANSITION_TIME" .never .inPlace nullKey,
  .client 0x4EB "MSG_SET_RAID_DIFFICULTY" .loggedIn .world "set_raid_difficulty",
  .client 0x4EC "CMSG_TOGGLE_XP_GAIN" .never .inPlace nullKey,
  .server 0x4ED "SMSG_TOGGLE_XP_GAIN" .never,
  .server 0x4EE "SMSG_GMRESPONSE_DB_ERROR" .never,
  .server 0x4EF "SMSG_GMRESPONSE_RECEIVED" .never,
  .client 0x4F0 "CMSG_GMRESPONSE_RESOLVE" .loggedIn .world "gm_response_resolve",
  .server 0x4F1 "SMSG_GMRESPONSE_STATUS_UPDATE" .never,
  .server 0x4F2 "SMSG_GMRESPONSE_CREATE_TICKET" .never,
  .client 0x4F3 "CMSG_GMRESPONSE_CREATE_TICKET" .never .inPlace nullKey,
  .client 0x4F4 "CMSG_SERVERINFO" .never .inPlace nullKey,
  .server 0x4F5 "SMSG_SERVERINFO" .never,
  .client 0x4F6 "CMSG_WORLD_STATE_UI_TIMER_UPDATE" .loggedIn .inPlace "world_state_ui_timer_update",
  .server 0x4F7 "SMSG_WORLD_STATE_UI_TIMER_UPDATE" .never,
  .client 0x4F8 "CMSG_CHAR_RACE_CHANGE" .authed .world "char_faction_or_race_change",
  .client 0x4F9 "MSG_VIEW_PHASE_SHIFT" .never .inPlace nullKey,
  .server 0x4FA "SMSG_TALENTS_INVOLUNTARILY_RESET" .never,
  .client 0x4FB "CMSG_DEBUG_SERVER_GEO" .never .inPlace nullKey,
  .server 0x4FC "SMSG_DEBUG_SERVER_GEO" .never,
  .server 0x4FD "SMSG_LOOT_SLOT_CHANGED" .never,
  .client 0x4FE "UMSG_UPDATE_GROUP_INFO" .never .inPlace nullKey,
  .client 0x4FF "CMSG_READY_FOR_ACCOUNT_DATA_TIMES" .authed .world "ready_for_account_data_times"
]

end Production
end Manifest
end PacketDispatch
