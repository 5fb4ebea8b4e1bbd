import Mathlib.Data.List.Basic
import Mathlib.Tactic.Common

/-!
# CRC-16/CCITT in two dialects

`crc16.cpp`: the lookup tables, the byte loop over them and the session state of the dialect
handshake.  The legacy table is the one old firmware ships; it differs from the correct one at
the indices `0x40`-`0x5F` and `0xD7`-`0xE4`.
-/

-- the two tables are literals of 256 entries
set_option maxRecDepth 4000

namespace QMon.Rpc

/-- `static const uint16_t crc16_table[256]` -/
def crc16Table : Vector UInt16 256 := #v[
  0x0000, 0x1021, 0x2042, 0x3063, 0x4084, 0x50A5, 0x60C6, 0x70E7,
  0x8108, 0x9129, 0xA14A, 0xB16B, 0xC18C, 0xD1AD, 0xE1CE, 0xF1EF,
  0x1231, 0x0210, 0x3273, 0x2252, 0x52B5, 0x4294, 0x72F7, 0x62D6,
  0x9339, 0x8318, 0xB37B, 0xA35A, 0xD3BD, 0xC39C, 0xF3FF, 0xE3DE,
  0x2462, 0x3443, 0x0420, 0x1401, 0x64E6, 0x74C7, 0x44A4, 0x5485,
  0xA56A, 0xB54B, 0x8528, 0x9509, 0xE5EE, 0xF5CF, 0xC5AC, 0xD58D,
  0x3653, 0x2672, 0x1611, 0x0630, 0x76D7, 0x66F6, 0x5695, 0x46B4,
  0xB75B, 0xA77A, 0x9719, 0x8738, 0xF7DF, 0xE7FE, 0xD79D, 0xC7BC,
  0x48C4, 0x58E5, 0x6886, 0x78A7, 0x0840, 0x1861, 0x2802, 0x3823,
  0xC9CC, 0xD9ED, 0xE98E, 0xF9AF, 0x8948, 0x9969, 0xA90A, 0xB92B,
  0x5AF5, 0x4AD4, 0x7AB7, 0x6A96, 0x1A71, 0x0A50, 0x3A33, 0x2A12,
  0xDBFD, 0xCBDC, 0xFBBF, 0xEB9E, 0x9B79, 0x8B58, 0xBB3B, 0xAB1A,
  0x6CA6, 0x7C87, 0x4CE4, 0x5CC5, 0x2C22, 0x3C03, 0x0C60, 0x1C41,
  0xEDAE, 0xFD8F, 0xCDEC, 0xDDCD, 0xAD2A, 0xBD0B, 0x8D68, 0x9D49,
  0x7E97, 0x6EB6, 0x5ED5, 0x4EF4, 0x3E13, 0x2E32, 0x1E51, 0x0E70,
  0xFF9F, 0xEFBE, 0xDFDD, 0xCFFC, 0xBF1B, 0xAF3A, 0x9F59, 0x8F78,
  0x9188, 0x81A9, 0xB1CA, 0xA1EB, 0xD10C, 0xC12D, 0xF14E, 0xE16F,
  0x1080, 0x00A1, 0x30C2, 0x20E3, 0x5004, 0x4025, 0x7046, 0x6067,
  0x83B9, 0x9398, 0xA3FB, 0xB3DA, 0xC33D, 0xD31C, 0xE37F, 0xF35E,
  0x02B1, 0x1290, 0x22F3, 0x32D2, 0x4235, 0x5214, 0x6277, 0x7256,
  0xB5EA, 0xA5CB, 0x95A8, 0x8589, 0xF56E, 0xE54F, 0xD52C, 0xC50D,
  0x34E2, 0x24C3, 0x14A0, 0x0481, 0x7466, 0x6447, 0x5424, 0x4405,
  0xA7DB, 0xB7FA, 0x8799, 0x97B8, 0xE75F, 0xF77E, 0xC71D, 0xD73C,
  0x26D3, 0x36F2, 0x0691, 0x16B0, 0x6657, 0x7676, 0x4615, 0x5634,
  0xD94C, 0xC96D, 0xF90E, 0xE92F, 0x99C8, 0x89E9, 0xB98A, 0xA9AB,
  0x5844, 0x4865, 0x7806, 0x6827, 0x18C0, 0x08E1, 0x3882, 0x28A3,
  0xCB7D, 0xDB5C, 0xEB3F, 0xFB1E, 0x8BF9, 0x9BD8, 0xABBB, 0xBB9A,
  0x4A75, 0x5A54, 0x6A37, 0x7A16, 0x0AF1, 0x1AD0, 0x2AB3, 0x3A92,
  0xFD2E, 0xED0F, 0xDD6C, 0xCD4D, 0xBDAA, 0xAD8B, 0x9DE8, 0x8DC9,
  0x7C26, 0x6C07, 0x5C64, 0x4C45, 0x3CA2, 0x2C83, 0x1CE0, 0x0CC1,
  0xEF1F, 0xFF3E, 0xCF5D, 0xDF7C, 0xAF9B, 0xBFBA, 0x8FD9, 0x9FF8,
  0x6E17, 0x7E36, 0x4E55, 0x5E74, 0x2E93, 0x3EB2, 0x0ED1, 0x1EF0
  ]

/-- `static const uint16_t crc16_table_legacy[256]` -/
def crc16TableLegacy : Vector UInt16 256 := #v[
  0x0000, 0x1021, 0x2042, 0x3063, 0x4084, 0x50A5, 0x60C6, 0x70E7,
  0x8108, 0x9129, 0xA14A, 0xB16B, 0xC18C, 0xD1AD, 0xE1CE, 0xF1EF,
  0x1231, 0x0210, 0x3273, 0x2252, 0x52B5, 0x4294, 0x72F7, 0x62D6,
  0x9339, 0x8318, 0xB37B, 0xA35A, 0xD3BD, 0xC39C, 0xF3FF, 0xE3DE,
  0x2462, 0x3443, 0x0420, 0x1401, 0x64E6, 0x74C7, 0x44A4, 0x5485,
  0xA56A, 0xB54B, 0x8528, 0x9509, 0xE5EE, 0xF5CF, 0xC5AC, 0xD58D,
  0x3653, 0x2672, 0x1611, 0x0630, 0x76D7, 0x66F6, 0x5695, 0x46B4,
  0xB75B, 0xA77A, 0x9719, 0x8738, 0xF7DF, 0xE7FE, 0xD79D, 0xC7BC,
  0x4864, 0x5845, 0x6826, 0x7807, 0x08E0, 0x18C1, 0x28A2, 0x38C3,
  0xC92C, 0xD90D, 0xE96E, 0xF94F, 0x89A8, 0x9989, 0xA9EA, 0xB9CB,
  0x5A15, 0x4A34, 0x7A57, 0x6A76, 0x1A91, 0x0AB0, 0x3AD3, 0x2AF2,
  0xDB1D, 0xCB3C, 0xFB5F, 0xEB7E, 0x9B99, 0x8BB8, 0xBBDB, 0xABFA,
  0x6CA6, 0x7C87, 0x4CE4, 0x5CC5, 0x2C22, 0x3C03, 0x0C60, 0x1C41,
  0xEDAE, 0xFD8F, 0xCDEC, 0xDDCD, 0xAD2A, 0xBD0B, 0x8D68, 0x9D49,
  0x7E97, 0x6EB6, 0x5ED5, 0x4EF4, 0x3E13, 0x2E32, 0x1E51, 0x0E70,
  0xFF9F, 0xEFBE, 0xDFDD, 0xCFFC, 0xBF1B, 0xAF3A, 0x9F59, 0x8F78,
  0x9188, 0x81A9, 0xB1CA, 0xA1EB, 0xD10C, 0xC12D, 0xF14E, 0xE16F,
  0x1080, 0x00A1, 0x30C2, 0x20E3, 0x5004, 0x4025, 0x7046, 0x6067,
  0x83B9, 0x9398, 0xA3FB, 0xB3DA, 0xC33D, 0xD31C, 0xE37F, 0xF35E,
  0x02B1, 0x1290, 0x22F3, 0x32D2, 0x4235, 0x5214, 0x6277, 0x7256,
  0xB5EA, 0xA5CB, 0x95A8, 0x8589, 0xF56E, 0xE54F, 0xD52C, 0xC50D,
  0x34E2, 0x24C3, 0x14A0, 0x0481, 0x7466, 0x6447, 0x5424, 0x4405,
  0xA7DB, 0xB7FA, 0x8799, 0x97B8, 0xE75F, 0xF77E, 0xC71D, 0xD73C,
  0x26D3, 0x36F2, 0x0691, 0x16B0, 0x6657, 0x7676, 0x4615, 0x5634,
  0xD94C, 0xC96D, 0xF90E, 0xE92F, 0x99C8, 0x89E9, 0xB98A, 0xA9AB,
  0x5844, 0x4865, 0x7806, 0x6827, 0x18C0, 0x08E1, 0x3882, 0x28A3,
  0xCB7D, 0xDB5C, 0xEB3F, 0xFB1E, 0x8BF9, 0x9BD8, 0xABBB, 0xBBBA,
  0x4A55, 0x5A74, 0x6A17, 0x7A36, 0x0AD1, 0x1AF0, 0x2A93, 0x3AB2,
  0xFD0E, 0xED2F, 0xDD4C, 0xCD6D, 0xBD8A, 0xAD8B, 0x9DE8, 0x8DC9,
  0x7C26, 0x6C07, 0x5C64, 0x4C45, 0x3CA2, 0x2C83, 0x1CE0, 0x0CC1,
  0xEF1F, 0xFF3E, 0xCF5D, 0xDF7C, 0xAF9B, 0xBFBA, 0x8FD9, 0x9FF8,
  0x6E17, 0x7E36, 0x4E55, 0x5E74, 0x2E93, 0x3EB2, 0x0ED1, 0x1EF0
  ]

/-- one turn of the byte loop: `(crc << 8) ^ table[((crc >> 8) ^ b) & 0xFF]` -/
def crcStep (table : Vector UInt16 256) (crc : UInt16) (b : UInt8) : UInt16 :=
  (crc <<< 8) ^^^ table.get ((crc >>> 8).toUInt8 ^^^ b).toFin

def crcLoop (table : Vector UInt16 256) (data : List UInt8) (crc : UInt16) : UInt16 :=
  data.foldl (crcStep table) crc

def crc16Ccitt (data : List UInt8) (crc : UInt16) : UInt16 := crcLoop crc16Table data crc

def crc16CcittLegacy (data : List UInt8) (crc : UInt16) : UInt16 :=
  crcLoop crc16TableLegacy data crc

/-- the default of the `init` argument -/
def crcInit : UInt16 := 0xFFFF

inductive CrcDialect where
  | Correct
  | Legacy
  deriving DecidableEq, Repr

/-- the CRC of a frame body in a given dialect -/
def CrcDialect.crc : CrcDialect → List UInt8 → UInt16
  | .Correct, data => crc16Ccitt data crcInit
  | .Legacy, data => crc16CcittLegacy data crcInit

/-- the dialect the ping timer tries next -/
def CrcDialect.other : CrcDialect → CrcDialect
  | .Correct => .Legacy
  | .Legacy => .Correct

/-- `g_txDialect` and `g_dialectLocked` -/
structure CrcSession where
  txDialect : CrcDialect := .Correct
  dialectLocked : Bool := false
  deriving DecidableEq, Repr

def setTxCrcDialect (d : CrcDialect) (s : CrcSession) : CrcSession := { s with txDialect := d }

def resetCrcDialect (_ : CrcSession) : CrcSession :=
  { txDialect := .Correct, dialectLocked := false }

/-- `if (!g_dialectLocked.exchange(true)) setTxCrcDialect(d)` -/
def latchDialect (d : CrcDialect) (s : CrcSession) : CrcSession :=
  if s.dialectLocked then s else setTxCrcDialect d { s with dialectLocked := true }

/-- `crc16ValidateRx`: the verdict and the session state after it -/
def crc16ValidateRx (data : List UInt8) (received : UInt16) (s : CrcSession) :
    Bool × CrcSession :=
  if crc16Ccitt data crcInit = received then (true, latchDialect .Correct s)
  else if crc16CcittLegacy data crcInit = received then (true, latchDialect .Legacy s)
  else (false, s)

/-- `crc16_ccitt_tx` with the default `init` -/
def crc16CcittTx (data : List UInt8) (s : CrcSession) : UInt16 := s.txDialect.crc data

/-- the ping timer's part of the handshake: another dialect each ping until one is latched -/
def alternateTxDialect (s : CrcSession) : CrcSession :=
  if s.dialectLocked then s else setTxCrcDialect s.txDialect.other s

/-! ## What a validated frame does to the latch -/

/-- the verdict: one of the two CRCs matches, whatever the latch holds -/
theorem crc16ValidateRx_fst (data : List UInt8) (received : UInt16) (s : CrcSession) :
    (crc16ValidateRx data received s).1 = true
      ↔ CrcDialect.crc .Correct data = received ∨ CrcDialect.crc .Legacy data = received := by
  unfold crc16ValidateRx CrcDialect.crc
  by_cases h : crc16Ccitt data crcInit = received
  · simp [h]
  · by_cases h' : crc16CcittLegacy data crcInit = received <;> simp [h, h']

/-- which dialect a frame of dialect `d` is taken for: the correct table is tried first -/
def CrcDialect.takenFor (d : CrcDialect) (data : List UInt8) : CrcDialect :=
  if CrcDialect.crc .Correct data = d.crc data then .Correct else d

theorem crc16ValidateRx_crc (d : CrcDialect) (data : List UInt8) (s : CrcSession) :
    crc16ValidateRx data (d.crc data) s = (true, latchDialect (d.takenFor data) s) := by
  unfold crc16ValidateRx CrcDialect.takenFor
  cases d with
  | Correct => simp [CrcDialect.crc]
  | Legacy =>
    by_cases h : crc16Ccitt data crcInit = crc16CcittLegacy data crcInit <;>
      simp [CrcDialect.crc, h]

end QMon.Rpc
