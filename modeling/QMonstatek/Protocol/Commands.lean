import Mathlib.Data.List.Basic

/-!
# Command identifiers

`rpc_protocol.h`: the commands, the error codes of a NACK and the sizes the handlers compare with.
-/

namespace QMon.Rpc

/-! ## System (0x00-0x0F) -/

def CMD_PING : UInt8 := 0x01
def CMD_PONG : UInt8 := 0x02
def CMD_GET_DEVICE_INFO : UInt8 := 0x03
def CMD_DEVICE_INFO_RESP : UInt8 := 0x04
def CMD_REBOOT : UInt8 := 0x05
def CMD_ACK : UInt8 := 0x06
def CMD_NACK : UInt8 := 0x07
def CMD_POWER_OFF : UInt8 := 0x08

/-! ## Screen (0x10-0x1F) and input (0x20-0x2F) -/

def CMD_SCREEN_START : UInt8 := 0x10
def CMD_SCREEN_STOP : UInt8 := 0x11
def CMD_SCREEN_CAPTURE : UInt8 := 0x13
def CMD_BUTTON_PRESS : UInt8 := 0x20
def CMD_BUTTON_RELEASE : UInt8 := 0x21
def CMD_BUTTON_CLICK : UInt8 := 0x22

/-! ## Files (0x30-0x3F) -/

def CMD_FILE_LIST : UInt8 := 0x30
def CMD_FILE_READ : UInt8 := 0x32
def CMD_FILE_READ_DATA : UInt8 := 0x33
def CMD_FILE_WRITE_START : UInt8 := 0x34
def CMD_FILE_WRITE_DATA : UInt8 := 0x35
def CMD_FILE_WRITE_FINISH : UInt8 := 0x36
def CMD_FILE_DELETE : UInt8 := 0x37
def CMD_FILE_MKDIR : UInt8 := 0x38
def CMD_SD_UNMOUNT : UInt8 := 0x3B
def CMD_SD_MOUNT : UInt8 := 0x3C
def CMD_FILE_RENAME : UInt8 := 0x3D
def CMD_FILE_DELETE_TREE : UInt8 := 0x3E

/-! ## Firmware (0x40-0x4F) and ESP32 (0x50-0x5F) -/

def CMD_FW_INFO : UInt8 := 0x40
def CMD_FW_UPDATE_START : UInt8 := 0x42
def CMD_FW_UPDATE_DATA : UInt8 := 0x43
def CMD_FW_UPDATE_FINISH : UInt8 := 0x44
def CMD_FW_BANK_SWAP : UInt8 := 0x45
def CMD_FW_DFU_ENTER : UInt8 := 0x46
def CMD_FW_BANK_ERASE : UInt8 := 0x47
def CMD_ESP_INFO : UInt8 := 0x50
def CMD_ESP_UPDATE_START : UInt8 := 0x52
def CMD_ESP_UPDATE_DATA : UInt8 := 0x53
def CMD_ESP_UPDATE_FINISH : UInt8 := 0x54

/-! ## Debug / CLI (0x60-0x6F) -/

def CMD_CLI_EXEC : UInt8 := 0x60
def CMD_ESP_UART_SNOOP : UInt8 := 0x62
def CMD_SET_LOG_LEVEL : UInt8 := 0x65

/-! ## NACK error codes -/

def ERR_UNKNOWN_CMD : UInt8 := 0x01
def ERR_INVALID_PAYLOAD : UInt8 := 0x02
def ERR_BUSY : UInt8 := 0x03
def ERR_SD_NOT_READY : UInt8 := 0x04
def ERR_FILE_NOT_FOUND : UInt8 := 0x05
def ERR_FLASH_ERROR : UInt8 := 0x07
def ERR_CRC_MISMATCH : UInt8 := 0x08
def ERR_SIZE_TOO_LARGE : UInt8 := 0x09
def ERR_BANK_EMPTY : UInt8 := 0x0A
def ERR_ESP_FLASH : UInt8 := 0x0B
def ERR_DIR_NOT_EMPTY : UInt8 := 0x0C

def ESP_SUB_CONNECT : UInt8 := 0x01
def ESP_SUB_ERASE : UInt8 := 0x02
def ESP_SUB_WRITE : UInt8 := 0x03
def ESP_SUB_VERIFY : UInt8 := 0x04

/-! ## Device info -/

def DEVICE_INFO_MAGIC : UInt32 := 0x4D314649
def DEVICE_INFO_BASE_SIZE : Nat := 58

end QMon.Rpc
