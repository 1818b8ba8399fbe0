import PacketDispatch.Manifest.Row

/-!
# Production manifest, opcodes 0x500 to 0x5FF

The rows of one page of opcodes, in the order of their opcodes.
-/

namespace PacketDispatch
namespace Manifest
namespace Production

/-- The rows from 0x500 to 0x5FF. -/
def page5 : List Row := [
  .client 0x500 "CMSG_QUERY_QUESTS_COMPLETED" .loggedIn .inPlace "query_quests_completed",
  .server 0x501 "SMSG_QUERY_QUESTS_COMPLETED_RESPONSE" .never,
  .client 0x502 "CMSG_GM_REPORT_LAG" .loggedIn .world "report_lag",
  .client 0x503 "CMSG_AFK_MONITOR_INFO_REQUEST" .never .inPlace nullKey,
  .server 0x504 "SMSG_AFK_MONITOR_INFO_RESPONSE" .never,
  .client 0x505 "CMSG_AFK_MONITOR_INFO_CLEAR" .never .inPlace nullKey,
  .server 0x506 "SMSG_CORPSE_NOT_IN_INSTANCE" .never,
  .client 0x507 "CMSG_GM_NUKE_CHARACTER" .never .inPlace nullKey,
  .client 0x508 "CMSG_SET_ALLOW_LOW_LEVEL_RAID1" .never .inPlace nullKey,
  .client 0x509 "CMSG_SET_ALLOW_LOW_LEVEL_RAID2" .never .inPlace nullKey,
  .server 0x50A "SMSG_CAMERA_SHAKE" .never,
  .server 0x50B "SMSG_SOCKET_GEMS_RESULT" .never,
  .client 0x50C "CMSG_SET_CHARACTER_MODEL" .never .inPlace nullKey,
  .server 0x50D "SMSG_REDIRECT_CLIENT" .never,
  .client 0x50E "CMSG_REDIRECTION_FAILED" .never .inPlace nullKey,
  .server 0x50F "SMSG_SUSPEND_COMMS" .never,
  .client 0x510 "CMSG_SUSPEND_COMMS_ACK" .never .inPlace nullKey,
  .server 0x511 "SMSG_FORCE_SEND_QUEUED_PACKETS" .never,
  .client 0x512 "CMSG_REDIRECTION_AUTH_PROOF" .never .inPlace nullKey,
  .client 0x513 "CMSG_DROP_NEW_CONNECTION" .never .inPlace nullKey,
  .server 0x514 "SMSG_SEND_ALL_COMBAT_LOG" .never,
  .server 0x515 "SMSG_OPEN_LFG_DUNGEON_FINDER" .never,
  .server 0x516 "SMSG_MOVE_SET_COLLISION_HGT" .never,
  .client 0x517 "CMSG_MOVE_SET_COLLISION_HGT_ACK" .unhandled .inPlace nullKey,
  .client 0x518 "MSG_MOVE_SET_COLLISION_HGT" .never .inPlace nullKey,
  .client 0x519 "CMSG_CLEAR_RANDOM_BG_WIN_TIME" .never .inPlace nullKey,
  .client 0x51A "CMSG_CLEAR_HOLIDAY_BG_WIN_TIME" .never .inPlace nullKey,
  .client 0x51B "CMSG_COMMENTATOR_SKIRMISH_QUEUE_COMMAND" .never .inPlace nullKey,
  .server 0x51C "SMSG_COMMENTATOR_SKIRMISH_QUEUE_RESULT1" .never,
  .server 0x51D "SMSG_COMMENTATOR_SKIRMISH_QUEUE_RESULT2" .never,
  .server 0x51E "SMSG_MULTIPLE_MOVES" .never
]

end Production
end Manifest
end PacketDispatch
