import QMonstatek.Protocol.CrcError

/-!
# The CRC of the correct table is the CRC of the polynomial

`crc16Bitwise` takes the message one bit at a time, the most significant bit of a byte first, with
no table, no reflection and no final exclusive or.  `crc16_ccitt` computes the same
(`crc16Ccitt_polynomial`), so it inherits what holds of remainders: two messages that differ
within two bytes in a row have different CRCs (`crc16Ccitt_burst`).
-/

namespace QMon.Rpc

/-- the bits of a message, each byte with its most significant bit first -/
def messageBits (data : List UInt8) : List Bool := data.flatMap fun b => Crc.byteBits b.toBitVec

def crc16Bitwise (data : List UInt8) (crc : UInt16) : UInt16 :=
  .ofBitVec (Crc.feedBits polynomial crc.toBitVec (messageBits data))

/-- **The table is the polynomial's**, and the CRC can be computed in parts. -/
theorem crc16Ccitt_polynomial :
    (∀ (data : List UInt8) (crc : UInt16), crc16Ccitt data crc = crc16Bitwise data crc) ∧
      ∀ (x y : List UInt8) (crc : UInt16),
        crc16Ccitt (x ++ y) crc = crc16Ccitt y (crc16Ccitt x crc) := by
  refine ⟨fun data crc => ?_, fun x y crc => crcLoop_append crc16Table x y crc⟩
  apply UInt16.toBitVec_inj.mp
  show (crcLoop crc16Table data crc).toBitVec = Crc.feedBits polynomial crc.toBitVec _
  rw [crcLoop_toBitVec, Crc.run_eq_feedBits (by decide), List.flatMap_map]
  rfl

theorem crcLoop_burst {x y : List UInt8} (hlen : x.length = y.length) (k : Nat)
    (hburst : ∀ i, x[i]? ≠ y[i]? → k ≤ i ∧ i < k + 2) (crc : UInt16)
    (h : crcLoop crc16Table x crc = crcLoop crc16Table y crc) : x = y := by
  have hrun := congrArg UInt16.toBitVec h
  rw [crcLoop_toBitVec, crcLoop_toBitVec] at hrun
  have hbits : x.map UInt8.toBitVec = y.map UInt8.toBitVec := by
    refine Crc.run_burst (p := polynomial) (by decide) (by decide) (by simpa using hlen) k 2
      (by decide) (fun i hi => hburst i fun hsame => hi ?_) crc.toBitVec hrun
    rw [List.getElem?_map, List.getElem?_map, hsame]
  exact List.map_injective_iff.mpr (fun a b => UInt8.toBitVec_inj.mp) hbits

/-- **A burst of two bytes** changes the CRC, whatever the loop starts from; where it hits the body
of a frame, the CRC that comes with it is not the one of the Correct dialect. -/
theorem crc16Ccitt_burst (x y : List UInt8) (k : Nat) (hlen : x.length = y.length) (hne : x ≠ y)
    (hburst : ∀ i, x[i]? ≠ y[i]? → k ≤ i ∧ i < k + 2) :
    (∀ crc, crc16Ccitt x crc ≠ crc16Ccitt y crc) ∧
      ∀ lo hi, le16 (CrcDialect.crc .Correct x) = [lo, hi] →
        CrcDialect.crc .Correct y ≠ ofLe16 lo hi := by
  have hall (crc : UInt16) : crc16Ccitt x crc ≠ crc16Ccitt y crc :=
    fun h => hne (crcLoop_burst hlen k hburst crc h)
  refine ⟨hall, fun lo hi hsent hread => ?_⟩
  have hback := ofLe16_le16 (CrcDialect.crc .Correct x)
  rw [hsent] at hback
  exact hall crcInit (hback.symm.trans hread.symm)

/-- two bytes of a payload changed -/
theorem crc16Ccitt_burst_payload :
    let x : List UInt8 := [0x07, 0x14, 0x01, 0x00, 0x02]
    let y : List UInt8 := [0x07, 0x14, 0x01, 0x3C, 0x22]
    ∀ crc, crc16Ccitt x crc ≠ crc16Ccitt y crc :=
  (crc16Ccitt_burst [0x07, 0x14, 0x01, 0x00, 0x02] [0x07, 0x14, 0x01, 0x3C, 0x22] 3 rfl (by decide)
    (by intro i hi
        match i with
        | 0 | 1 | 2 => exact absurd rfl hi
        | 3 | 4 => decide
        | _ + 5 => exact absurd rfl hi)).1

end QMon.Rpc
