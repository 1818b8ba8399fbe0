import PacketDispatch.Manifest.Row

/-!
# Production manifest, opcodes 0x000 to 0x0FF

The rows of one page of opcodes, in the order of their opcodes.
-/

namespace PacketDispatch
namespace Manifest
namespace Production

/-- The rows from 0x000 to 0x0FF. -/
def page0 : List Row := [
  .client 0x001 "CMSG_BOOTME" .never .inPlace nullKey,
  .client 0x002 "CMSG_DBLOOKUP" .never .inPlace nullKey,
  .server 0x003 "SMSG_DBLOOKUP" .never,
  .client 0x004 "CMSG_QUERY_OBJECT_POSITION" .never .inPlace nullKey,
  .server 0x005 "SMSG_QUERY_OBJECT_POSITION" .never,
  .client 0x006 "CMSG_QUERY_OBJECT_ROTATION" .never .inPlace nullKey,
  .server 0x007 "SMSG_QUERY_OBJECT_ROTATION" .never,
  .client 0x008 "CMSG_WORLD_TELEPORT" .loggedIn .world "world_teleport",
  .client 0x009 "CMSG_TELEPORT_TO_UNIT" .loggedIn .inPlace nullKey,
  .client 0x00A "CMSG_ZONE_MAP" .never .inPlace nullKey,
  .server 0x00B "SMSG_ZONE_MAP" .never,
  .client 0x00C "CMSG_DEBUG_CHANGECELLZONE" .never .inPlace nullKey,
  .client 0x00D "CMSG_MOVE_CHARACTER_CHEAT" .never .inPlace nullKey,
  .server 0x00E "SMSG_MOVE_CHARACTER_CHEAT" .never,
  .client 0x00F "CMSG_RECHARGE" .never .inPlace nullKey,
  .client 0x010 "CMSG_LEARN_SPELL" .never .inPlace nullKey,
  .client 0x011 "CMSG_CREATEMONSTER" .never .inPlace nullKey,
  .client 0x012 "CMSG_DESTROYMONSTER" .never .inPlace nullKey,
  .client 0x013 "CMSG_CREATEITEM" .never .inPlace nullKey,
  .client 0x014 "CMSG_CREATEGAMEOBJECT" .never .inPlace nullKey,
  .server 0x015 "SMSG_CHECK_FOR_BOTS" .never,
  .client 0x016 "CMSG_MAKEMONSTERATTACKGUID" .never .inPlace nullKey,
  .client 0x017 "CMSG_BOT_DETECTED2" .never .inPlace nullKey,
  .client 0x018 "CMSG_FORCEACTION" .never .inPlace nullKey,
  .client 0x019 "CMSG_FORCEACTIONONOTHER" .never .inPlace nullKey,
  .client 0x01A "CMSG_FORCEACTIONSHOW" .never .inPlace nullKey,
  .server 0x01B "SMSG_FORCEACTIONSHOW" .never,
  .client 0x01C "CMSG_PETGODMODE" .never .inPlace nullKey,
  .server 0x01D "SMSG_PETGODMODE" .never,
  .server 0x01E "SMSG_REFER_A_FRIEND_EXPIRED" .never,
  .client 0x01F "CMSG_WEATHER_SPEED_CHEAT" .never .inPlace nullKey,
  .client 0x020 "CMSG_UNDRESSPLAYER" .never .inPlace nullKey,
  .client 0x021 "CMSG_BEASTMASTER" .never .inPlace nullKey,
  .client 0x022 "CMSG_GODMODE" .never .inPlace nullKey,
  .server 0x023 "SMSG_GODMODE" .never,
  .client 0x024 "CMSG_CHEAT_SETMONEY" .never .inPlace nullKey,
  .client 0x025 "CMSG_LEVEL_CHEAT" .never .inPlace nullKey,
  .client 0x026 "CMSG_PET_LEVEL_CHEAT" .never .inPlace nullKey,
  .client 0x027 "CMSG_SET_WORLDSTATE" .never .inPlace nullKey,
  .client 0x028 "CMSG_COOLDOWN_CHEAT" .never .inPlace nullKey,
  .client 0x029 "CMSG_USE_SKILL_CHEAT" .never .inPlace nullKey,
  .client 0x02A "CMSG_FLAG_QUEST" .never .inPlace nullKey,
  .client 0x02B "CMSG_FLAG_QUEST_FINISH" .never .inPlace nullKey,
  .client 0x02C "CMSG_CLEAR_QUEST" .never .inPlace nullKey,
  .client 0x02D "CMSG_SEND_EVENT" .never .inPlace nullKey,
  .client 0x02E "CMSG_DEBUG_AISTATE" .never .inPlace nullKey,
  .server 0x02F "SMSG_DEBUG_AISTATE" .never,
  .client 0x030 "CMSG_DISABLE_PVP_CHEAT" .never .inPlace nullKey,
  .client 0x031 "CMSG_ADVANCE_SPAWN_TIME" .never .inPlace nullKey,
  .server 0x032 "SMSG_DESTRUCTIBLE_BUILDING_DAMAGE" .never,
  .client 0x033 "CMSG_AUTH_SRP6_BEGIN" .never .inPlace nullKey,
  .client 0x034 "CMSG_AUTH_SRP6_PROOF" .never .inPlace nullKey,
  .client 0x035 "CMSG_AUTH_SRP6_RECODE" .never .inPlace nullKey,
  .client 0x036 "CMSG_CHAR_CREATE" .authed .world "char_create",
  .client 0x037 "CMSG_CHAR_ENUM" .authed .world "char_enum",
  .client 0x038 "CMSG_CHAR_DELETE" .authed .world "char_delete",
  .server 0x039 "SMSG_AUTH_SRP6_RESPONSE" .never,
  .server 0x03A "SMSG_CHAR_CREATE" .never,
  .server 0x03B "SMSG_CHAR_ENUM" .never,
  .server 0x03C "SMSG_CHAR_DELETE" .never,
  .client 0x03D "CMSG_PLAYER_LOGIN" .authed .world "player_login",
  .server 0x03E "SMSG_NEW_WORLD" .never,
  .server 0x03F "SMSG_TRANSFER_PENDING" .never,
  .server 0x040 "SMSG_TRANSFER_ABORTED" .never,
  .server 0x041 "SMSG_CHARACTER_LOGIN_FAILED" .never,
  .server 0x042 "SMSG_LOGIN_SETTIMESPEED" .never,
  .server 0x043 "SMSG_GAMETIME_UPDATE" .never,
  .client 0x044 "CMSG_GAMETIME_SET" .never .inPlace nullKey,
  .server 0x045 "SMSG_GAMETIME_SET" .never,
  .client 0x046 "CMSG_GAMESPEED_SET" .never .inPlace nullKey,
  .server 0x047 "SMSG_GAMESPEED_SET" .never,
  .client 0x048 "CMSG_SERVERTIME" .never .inPlace nullKey,
  .server 0x049 "SMSG_SERVERTIME" .never,
  .client 0x04A "CMSG_PLAYER_LOGOUT" .loggedIn .world "player_logout",
  .client 0x04B "CMSG_LOGOUT_REQUEST" .loggedIn .world "logout_request",
  .server 0x04C "SMSG_LOGOUT_RESPONSE" .never,
  .server 0x04D "SMSG_LOGOUT_COMPLETE" .never,
  .client 0x04E "CMSG_LOGOUT_CANCEL" .loggedInOrRecent .world "logout_cancel",
  .server 0x04F "SMSG_LOGOUT_CANCEL_ACK" .never,
  .client 0x050 "CMSG_NAME_QUERY" .loggedIn .inPlace "name_query",
  .server 0x051 "SMSG_NAME_QUERY_RESPONSE" .never,
  .client 0x052 "CMSG_PET_NAME_QUERY" .loggedIn .inPlace "pet_name_query",
  .server 0x053 "SMSG_PET_NAME_QUERY_RESPONSE" .never,
  .client 0x054 "CMSG_GUILD_QUERY" .authed .world "guild_query",
  .server 0x055 "SMSG_GUILD_QUERY_RESPONSE" .never,
  .client 0x056 "CMSG_ITEM_QUERY_SINGLE" .loggedIn .pool "item_query_single",
  .client 0x057 "CMSG_ITEM_QUERY_MULTIPLE" .never .inPlace nullKey,
  .server 0x058 "SMSG_ITEM_QUERY_SINGLE_RESPONSE" .never,
  .server 0x059 "SMSG_ITEM_QUERY_MULTIPLE_RESPONSE" .never,
  .client 0x05A "CMSG_PAGE_TEXT_QUERY" .loggedIn .inPlace "page_text_query",
  .server 0x05B "SMSG_PAGE_TEXT_QUERY_RESPONSE" .never,
  .client 0x05C "CMSG_QUEST_QUERY" .loggedIn .inPlace "quest_query",
  .server 0x05D "SMSG_QUEST_QUERY_RESPONSE" .never,
  .client 0x05E "CMSG_GAMEOBJECT_QUERY" .loggedIn .pool "game_object_query",
  .server 0x05F "SMSG_GAMEOBJECT_QUERY_RESPONSE" .never,
  .client 0x060 "CMSG_CREATURE_QUERY" .loggedIn .pool "creature_query",
  .server 0x061 "SMSG_CREATURE_QUERY_RESPONSE" .never,
  .client 0x062 "CMSG_WHO" .loggedIn .pool "who",
  .server 0x063 "SMSG_WHO" .never,
  .client 0x064 "CMSG_WHOIS" .loggedIn .world "whois",
  .server 0x065 "SMSG_WHOIS" .never,
  .client 0x066 "CMSG_CONTACT_LIST" .loggedIn .pool "contact_list",
  .server 0x067 "SMSG_CONTACT_LIST" .never,
  .server 0x068 "SMSG_FRIEND_STATUS" .never,
  .client 0x069 "CMSG_ADD_FRIEND" .loggedIn .world "add_friend",
  .client 0x06A "CMSG_DEL_FRIEND" .loggedIn .world "del_friend",
  .client 0x06B "CMSG_SET_CONTACT_NOTES" .loggedIn .world "set_contact_notes",
  .client 0x06C "CMSG_ADD_IGNORE" .loggedIn .world "add_ignore",
  .client 0x06D "CMSG_DEL_IGNORE" .loggedIn .world "del_ignore",
  .client 0x06E "CMSG_GROUP_INVITE" .loggedIn .world "group_invite",
  .server 0x06F "SMSG_GROUP_INVITE" .never,
  .client 0x070 "CMSG_GROUP_CANCEL" .loggedIn .inPlace nullKey,
  .server 0x071 "SMSG_GROUP_CANCEL" .never,
  .client 0x072 "CMSG_GROUP_ACCEPT" .loggedIn .world "group_accept",
  .client 0x073 "CMSG_GROUP_DECLINE" .loggedIn .world "group_decline",
  .server 0x074 "SMSG_GROUP_DECLINE" .never,
  .client 0x075 "CMSG_GROUP_UNINVITE" .loggedIn .world "group_uninvite",
  .client 0x076 "CMSG_GROUP_UNINVITE_GUID" .loggedIn .world "group_uninvite_guid",
  .server 0x077 "SMSG_GROUP_UNINVITE" .never,
  .client 0x078 "CMSG_GROUP_SET_LEADER" .loggedIn .world "group_set_leader",
  .server 0x079 "SMSG_GROUP_SET_LEADER" .never,
  .client 0x07A "CMSG_LOOT_METHOD" .loggedIn .world "loot_method",
  .client 0x07B "CMSG_GROUP_DISBAND" .loggedIn .world "group_disband",
  .server 0x07C "SMSG_GROUP_DESTROYED" .never,
  .server 0x07D "SMSG_GROUP_LIST" .never,
  .server 0x07E "SMSG_PARTY_MEMBER_STATS" .never,
  .server 0x07F "SMSG_PARTY_COMMAND_RESULT" .never,
  .client 0x080 "UMSG_UPDATE_GROUP_MEMBERS" .never .inPlace nullKey,
  .client 0x081 "CMSG_GUILD_CREATE" .loggedIn .world "guild_create",
  .client 0x082 "CMSG_GUILD_INVITE" .loggedIn .world "guild_invite",
  .server 0x083 "SMSG_GUILD_INVITE" .never,
  .client 0x084 "CMSG_GUILD_ACCEPT" .loggedIn .world "guild_accept",
  .client 0x085 "CMSG_GUILD_DECLINE" .loggedIn .world "guild_decline",
  .server 0x086 "SMSG_GUILD_DECLINE" .never,
  .client 0x087 "CMSG_GUILD_INFO" .loggedIn .world "guild_info",
  .server 0x088 "SMSG_GUILD_INFO" .never,
  .client 0x089 "CMSG_GUILD_ROSTER" .loggedIn .world "guild_roster",
  .server 0x08A "SMSG_GUILD_ROSTER" .never,
  .client 0x08B "CMSG_GUILD_PROMOTE" .loggedIn .world "guild_promote",
  .client 0x08C "CMSG_GUILD_DEMOTE" .loggedIn .world "guild_demote",
  .client 0x08D "CMSG_GUILD_LEAVE" .loggedIn .world "guild_leave",
  .client 0x08E "CMSG_GUILD_REMOVE" .loggedIn .world "guild_remove",
  .client 0x08F "CMSG_GUILD_DISBAND" .loggedIn .world "guild_disband",
  .client 0x090 "CMSG_GUILD_LEADER" .loggedIn .world "guild_leader",
  .client 0x091 "CMSG_GUILD_MOTD" .loggedIn .world "guild_motd",
  .server 0x092 "SMSG_GUILD_EVENT" .never,
  .server 0x093 "SMSG_GUILD_COMMAND_RESULT" .never,
  .client 0x094 "UMSG_UPDATE_GUILD" .never .inPlace nullKey,
  .client 0x095 "CMSG_MESSAGECHAT" .loggedIn .world "messagechat",
  .server 0x096 "SMSG_MESSAGECHAT" .never,
  .client 0x097 "CMSG_JOIN_CHANNEL" .loggedIn .world "join_channel",
  .client 0x098 "CMSG_LEAVE_CHANNEL" .loggedIn .world "leave_channel",
  .server 0x099 "SMSG_CHANNEL_NOTIFY" .never,
  .client 0x09A "CMSG_CHANNEL_LIST" .loggedIn .world "channel_list",
  .server 0x09B "SMSG_CHANNEL_LIST" .never,
  .client 0x09C "CMSG_CHANNEL_PASSWORD" .loggedIn .world "channel_password",
  .client 0x09D "CMSG_CHANNEL_SET_OWNER" .loggedIn .world "channel_set_owner",
  .client 0x09E "CMSG_CHANNEL_OWNER" .loggedIn .world "channel_owner",
  .client 0x09F "CMSG_CHANNEL_MODERATOR" .loggedIn .world "channel_moderator",
  .client 0x0A0 "CMSG_CHANNEL_UNMODERATOR" .loggedIn .world "channel_unmoderator",
  .client 0x0A1 "CMSG_CHANNEL_MUTE" .loggedIn .world "channel_mute",
  .client 0x0A2 "CMSG_CHANNEL_UNMUTE" .loggedIn .world "channel_unmute",
  .client 0x0A3 "CMSG_CHANNEL_INVITE" .loggedIn .world "channel_invite",
  .client 0x0A4 "CMSG_CHANNEL_KICK" .loggedIn .world "channel_kick",
  .client 0x0A5 "CMSG_CHANNEL_BAN" .loggedIn .world "channel_ban",
  .client 0x0A6 "CMSG_CHANNEL_UNBAN" .loggedIn .world "channel_unban",
  .client 0x0A7 "CMSG_CHANNEL_ANNOUNCEMENTS" .loggedIn .world "channel_announcements",
  .client 0x0A8 "CMSG_CHANNEL_MODERATE" .loggedIn .world "channel_moderate",
  .server 0x0A9 "SMSG_UPDATE_OBJECT" .never,
  .server 0x0AA "SMSG_DESTROY_OBJECT" .never,
  .client 0x0AB "CMSG_USE_ITEM" .loggedIn .inPlace "use_item",
  .client 0x0AC "CMSG_OPEN_ITEM" .loggedIn .inPlace "open_item",
  .client 0x0AD "CMSG_READ_ITEM" .loggedIn .inPlace "read_item",
  .server 0x0AE "SMSG_READ_ITEM_OK" .never,
  .server 0x0AF "SMSG_READ_ITEM_FAILED" .never,
  .server 0x0B0 "SMSG_ITEM_COOLDOWN" .never,
  .client 0x0B1 "CMSG_GAMEOBJ_USE" .loggedIn .inPlace "game_object_use",
  .client 0x0B2 "CMSG_DESTROY_ITEMS" .never .inPlace nullKey,
  .server 0x0B3 "SMSG_GAMEOBJECT_CUSTOM_ANIM" .never,
  .client 0x0B4 "CMSG_AREATRIGGER" .loggedIn .inPlace "area_trigger",
  .client 0x0B5 "MSG_MOVE_START_FORWARD" .loggedIn .pool "movement",
  .client 0x0B6 "MSG_MOVE_START_BACKWARD" .loggedIn .pool "movement",
  .client 0x0B7 "MSG_MOVE_STOP" .loggedIn .pool "movement",
  .client 0x0B8 "MSG_MOVE_START_STRAFE_LEFT" .loggedIn .pool "movement",
  .client 0x0B9 "MSG_MOVE_START_STRAFE_RIGHT" .loggedIn .pool "movement",
  .client 0x0BA "MSG_MOVE_STOP_STRAFE" .loggedIn .pool "movement",
  .client 0x0BB "MSG_MOVE_JUMP" .loggedIn .pool "movement",
  .client 0x0BC "MSG_MOVE_START_TURN_LEFT" .loggedIn .pool "movement",
  .client 0x0BD "MSG_MOVE_START_TURN_RIGHT" .loggedIn .pool "movement",
  .client 0x0BE "MSG_MOVE_STOP_TURN" .loggedIn .pool "movement",
  .client 0x0BF "MSG_MOVE_START_PITCH_UP" .loggedIn .pool "movement",
  .client 0x0C0 "MSG_MOVE_START_PITCH_DOWN" .loggedIn .pool "movement",
  .client 0x0C1 "MSG_MOVE_STOP_PITCH" .loggedIn .pool "movement",
  .client 0x0C2 "MSG_MOVE_SET_RUN_MODE" .loggedIn .pool "movement",
  .client 0x0C3 "MSG_MOVE_SET_WALK_MODE" .loggedIn .pool "movement",
  .client 0x0C4 "MSG_MOVE_TOGGLE_LOGGING" .never .inPlace nullKey,
  .client 0x0C5 "MSG_MOVE_TELEPORT" .never .inPlace nullKey,
  .client 0x0C6 "MSG_MOVE_TELEPORT_CHEAT" .never .inPlace nullKey,
  .client 0x0C7 "MSG_MOVE_TELEPORT_ACK" .loggedIn .pool "move_teleport_ack",
  .client 0x0C8 "MSG_MOVE_TOGGLE_FALL_LOGGING" .never .inPlace nullKey,
  .client 0x0C9 "MSG_MOVE_FALL_LAND" .loggedIn .pool "movement",
  .client 0x0CA "MSG_MOVE_START_SWIM" .loggedIn .pool "movement",
  .client 0x0CB "MSG_MOVE_STOP_SWIM" .loggedIn .pool "movement",
  .client 0x0CC "MSG_MOVE_SET_RUN_SPEED_CHEAT" .never .inPlace nullKey,
  .client 0x0CD "MSG_MOVE_SET_RUN_SPEED" .never .inPlace nullKey,
  .client 0x0CE "MSG_MOVE_SET_RUN_BACK_SPEED_CHEAT" .never .inPlace nullKey,
  .client 0x0CF "MSG_MOVE_SET_RUN_BACK_SPEED" .never .inPlace nullKey,
  .client 0x0D0 "MSG_MOVE_SET_WALK_SPEED_CHEAT" .never .inPlace nullKey,
  .client 0x0D1 "MSG_MOVE_SET_WALK_SPEED" .never .inPlace nullKey,
  .client 0x0D2 "MSG_MOVE_SET_SWIM_SPEED_CHEAT" .never .inPlace nullKey,
  .client 0x0D3 "MSG_MOVE_SET_SWIM_SPEED" .never .inPlace nullKey,
  .client 0x0D4 "MSG_MOVE_SET_SWIM_BACK_SPEED_CHEAT" .never .inPlace nullKey,
  .client 0x0D5 "MSG_MOVE_SET_SWIM_BACK_SPEED" .never .inPlace nullKey,
  .client 0x0D6 "MSG_MOVE_SET_ALL_SPEED_CHEAT" .never .inPlace nullKey,
  .client 0x0D7 "MSG_MOVE_SET_TURN_RATE_CHEAT" .never .inPlace nullKey,
  .client 0x0D8 "MSG_MOVE_SET_TURN_RATE" .never .inPlace nullKey,
  .client 0x0D9 "MSG_MOVE_TOGGLE_COLLISION_CHEAT" .never .inPlace nullKey,
  .client 0x0DA "MSG_MOVE_SET_FACING" .loggedIn .pool "movement",
  .client 0x0DB "MSG_MOVE_SET_PITCH" .loggedIn .pool "movement",
  .client 0x0DC "MSG_MOVE_WORLDPORT_ACK" .transfer .world "move_worldport_ack",
  .server 0x0DD "SMSG_MONSTER_MOVE" .never,
  .server 0x0DE "SMSG_MOVE_WATER_WALK" .never,
  .server 0x0DF "SMSG_MOVE_LAND_WALK" .never,
  .client 0x0E0 "CMSG_MOVE_CHARM_PORT_CHEAT" .never .inPlace nullKey,
  .client 0x0E1 "CMSG_MOVE_SET_RAW_POSITION" .never .inPlace nullKey,
  .server 0x0E2 "SMSG_FORCE_RUN_SPEED_CHANGE" .never,
  .client 0x0E3 "CMSG_FORCE_RUN_SPEED_CHANGE_ACK" .loggedIn .pool "force_speed_change_ack",
  .server 0x0E4 "SMSG_FORCE_RUN_BACK_SPEED_CHANGE" .never,
  .client 0x0E5 "CMSG_FORCE_RUN_BACK_SPEED_CHANGE_ACK" .loggedIn .pool "force_speed_change_ack",
  .server 0x0E6 "SMSG_FORCE_SWIM_SPEED_CHANGE" .never,
  .client 0x0E7 "CMSG_FORCE_SWIM_SPEED_CHANGE_ACK" .loggedIn .pool "force_speed_change_ack",
  .server 0x0E8 "SMSG_FORCE_MOVE_ROOT" .never,
  .client 0x0E9 "CMSG_FORCE_MOVE_ROOT_ACK" .loggedIn .pool "move_root_ack",
  .server 0x0EA "SMSG_FORCE_MOVE_UNROOT" .never,
  .client 0x0EB "CMSG_FORCE_MOVE_UNROOT_ACK" .loggedIn .pool "move_un_root_ack",
  .client 0x0EC "MSG_MOVE_ROOT" .never .inPlace nullKey,
  .client 0x0ED "MSG_MOVE_UNROOT" .never .inPlace nullKey,
  .client 0x0EE "MSG_MOVE_HEARTBEAT" .loggedIn .pool "movement",
  .server 0x0EF "SMSG_MOVE_KNOCK_BACK" .never,
  .client 0x0F0 "CMSG_MOVE_KNOCK_BACK_ACK" .loggedIn .pool "move_knock_back_ack",
  .client 0x0F1 "MSG_MOVE_KNOCK_BACK" .never .inPlace nullKey,
  .server 0x0F2 "SMSG_MOVE_FEATHER_FALL" .never,
  .server 0x0F3 "SMSG_MOVE_NORMAL_FALL" .never,
  .server 0x0F4 "SMSG_MOVE_SET_HOVER" .never,
  .server 0x0F5 "SMSG_MOVE_UNSET_HOVER" .never,
  .client 0x0F6 "CMSG_MOVE_HOVER_ACK" .loggedIn .world "move_hover_ack",
  .server 0x0F7 "MSG_MOVE_HOVER" .never,
  .client 0x0F8 "CMSG_TRIGGER_CINEMATIC_CHEAT" .never .inPlace nullKey,
  .client 0x0F9 "CMSG_OPENING_CINEMATIC" .never .inPlace nullKey,
  .server 0x0FA "SMSG_TRIGGER_CINEMATIC" .never,
  .client 0x0FB "CMSG_NEXT_CINEMATIC_CAMERA" .loggedIn .world "next_cinematic_camera",
  .client 0x0FC "CMSG_COMPLETE_CINEMATIC" .loggedIn .world "complete_cinematic",
  .server 0x0FD "SMSG_TUTORIAL_FLAGS" .never,
  .client 0x0FE "CMSG_TUTORIAL_FLAG" .loggedIn .world "tutorial_flag",
  .client 0x0FF "CMSG_TUTORIAL_CLEAR" .loggedIn .world "tutorial_clear"
]

end Production
end Manifest
end PacketDispatch
