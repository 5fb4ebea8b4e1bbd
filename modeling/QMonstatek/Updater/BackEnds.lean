import QMonstatek.Lib.Run
import QMonstatek.Updater.DfuFlasher
import QMonstatek.Updater.DfuHelper

/-!
# The two ways to a DFU device

`Board`         two physical banks and SWAP_BANK;
`helperStep`, `cliStep`   one operation of the flasher through the bundled helper and through
                `STM32_Programmer_CLI`, each with the arguments the flasher passes it;
`SameBoard`     the same contents of both banks, and the same bank boots;
`Plain op b`    the operation comes out alike on `b`.

`backEnds_iff`: after every operation of a sequence the boards are the same iff each is plain where
it comes.  The helper reads SWAP_BANK, writes the physical bank and lets it boot; the other path
passes a fixed address for each target, leaves SWAP_BANK as it is, and sets it to 1 to swap.
-/

namespace QMon.Updater

/-- what `write` makes of the contents of a bank is left open -/
structure Board (β : Type) where
  bank1 : β
  bank2 : β
  swapBank : Bool
  deriving DecidableEq, Repr

inductive FlashTarget where
  | inactive
  | bank1
  | bank2
  deriving DecidableEq, Repr

def FlashTarget.name : FlashTarget → String
  | .inactive => "inactive"
  | .bank1 => "bank1"
  | .bank2 => "bank2"

inductive FlashOp (ι : Type) where
  /-- `startFlash`, with the firmware that the file holds -/
  | flash (binFilePath : String) (image : ι) (target : FlashTarget)
  | swapBank
  deriving DecidableEq, Repr

section
variable {ι β : Type} (write : ι → β → β) (native : String → String)

namespace Board

/-- the bank that boots -/
def boots (b : Board β) : Nat := if b.swapBank then 2 else 1

/-- a download to a logical address -/
def download (image : ι) (address : Nat) (b : Board β) : Board β :=
  if address = 0x08000000 then
    if b.swapBank then { b with bank2 := write image b.bank2 }
    else { b with bank1 := write image b.bank1 }
  else if address = 0x08100000 then
    if b.swapBank then { b with bank1 := write image b.bank1 }
    else { b with bank2 := write image b.bank2 }
  else b

/-- an option byte command -/
def setOption (option : String) (b : Board β) : Board β :=
  if option = "SWAP_BANK=0" then { b with swapBank := false }
  else if option = "SWAP_BANK=1" then { b with swapBank := true }
  else b

/-- what a call of the API does to the board, which takes over the option byte commands `takes` -/
def perform (files : String → Option ι) (takes : String → Bool) (b : Board β) : ApiCall → Board β
  | .downloadFile path address =>
    match files path with
    | some image => b.download write image address
    | none => b
  | .sendOptionBytesCmd cmd =>
    if takes cmd ∧ "-ob ".toList.isPrefixOf cmd.toList then
      b.setOption (String.ofList (cmd.toList.drop 4))
    else b
  | _ => b

/-- what `STM32_Programmer_CLI` does on these arguments -/
def commandLine (files : String → Option ι) (b : Board β) : List String → Board β
  | "-d" :: path :: address :: rest =>
    commandLine files (match files path with
      | some image =>
        b.download write image
          (if address = "0x08000000" then 0x08000000
          else if address = "0x08100000" then 0x08100000 else 0)
      | none => b) rest
  | "-ob" :: option :: rest => commandLine files (b.setOption option) rest
  | _ :: rest => commandLine files b rest
  | [] => b

end Board

/-- the arguments the flasher passes -/
def FlashOp.args (useCliDirect : Bool) : FlashOp ι → List String
  | .flash binFilePath _ target => flashArgs useCliDirect (native binFilePath) target.name
  | .swapBank => swapArgs useCliDirect

/-- the firmware files while the operation goes on -/
def FlashOp.files : FlashOp ι → String → Option ι
  | .flash binFilePath image _, path => if path = native binFilePath then some image else none
  | .swapBank, _ => none

/-- an option byte command that is answered with success -/
def CubeApi.takes (api : CubeApi) (cmd : String) : Bool := api.sendOptionBytesCmd cmd == 0

/-- the helper runs over the API that answers for this SWAP_BANK -/
def helperStep (api : Bool → CubeApi) (op : FlashOp ι) (b : Board β) : Board β :=
  (main (.ok (api b.swapBank)) (op.args native false)).calls.foldl
    (Board.perform write (op.files native) (api b.swapBank).takes) b

def cliStep (op : FlashOp ι) (b : Board β) : Board β :=
  b.commandLine write (op.files native) (op.args native true)

/-- both boards after the same operation -/
def bothStep (api : Bool → CubeApi) (op : FlashOp ι) (s : Board β × Board β) :
    Board β × Board β :=
  (helperStep write native api op s.1, cliStep write native op s.2)

structure SameBoard (s : Board β × Board β) : Prop where
  bank1 : s.1.bank1 = s.2.bank1
  bank2 : s.1.bank2 = s.2.bank2
  boots : s.1.boots = s.2.boots

/-- bank 1 where it boots, bank 2 where it boots and a download changes neither bank, and a swap
from bank 1 -/
def Plain (op : FlashOp ι) (b : Board β) : Prop :=
  match op with
  | .flash _ image target =>
    target = .bank1 ∧ b.swapBank = false ∨
      target = .bank2 ∧ b.swapBank = true ∧ write image b.bank1 = b.bank1 ∧
        write image b.bank2 = b.bank2
  | .swapBank => b.swapBank = false

/-- the API finds a device with a SWAP_BANK bit, and every call of it succeeds -/
structure Succeeds (api : Bool → CubeApi) : Prop where
  found : ∀ swapBank, (api swapBank).devices ≠ []
  connects : ∀ swapBank usbIndex, (api swapBank).connectDfuBootloader usbIndex = 0
  reads : ∀ swapBank, readSwapBank (api swapBank).initOptionBytesInterface =
    if swapBank then 1 else 0
  downloads : ∀ swapBank path address, (api swapBank).downloadFile path address = 0
  options : ∀ swapBank cmd, (api swapBank).sendOptionBytesCmd cmd = 0

theorem Succeeds.takes {api : Bool → CubeApi} (h : Succeeds api) (swapBank : Bool) (cmd : String) :
    (api swapBank).takes cmd = true :=
  beq_iff_eq.mpr (h.options swapBank cmd)

end

/-! ## One operation through the helper -/

section
variable {ι β : Type} {write : ι → β → β} {native : String → String} {api : Bool → CubeApi}

theorem attach_ok (h : Succeeds api) (swapBank : Bool) : ∃ r : HelperRun, r.calls = [] ∧
    (api swapBank).attach = .ok (r, if swapBank then 1 else 0) := by
  unfold CubeApi.attach
  cases hd : (api swapBank).devices with
  | nil => exact absurd hd (h.found swapBank)
  | cons d devices =>
    dsimp only
    rw [h.connects, h.reads]
    exact ⟨_, rfl, rfl⟩

/-- the command as the helper prints it -/
def swapCommand (value : Int) : String := "-ob SWAP_BANK=" ++ toString value

theorem perform_option (files : String → Option ι) (takes : String → Bool) (b : Board β)
    (value : Int) (swapBank : Bool) (hv : value = if swapBank then 1 else 0) :
    b.perform write files takes (.sendOptionBytesCmd (swapCommand value)) =
      if takes (swapCommand value) then { b with swapBank := swapBank } else b := by
  have hprefix : "-ob ".toList.isPrefixOf (swapCommand value).toList = true := by
    rw [hv]
    cases swapBank <;> decide +kernel
  have hopt : b.setOption (String.ofList ((swapCommand value).toList.drop 4)) =
      { b with swapBank := swapBank } := by
    rw [hv]
    cases swapBank with
    | false =>
      have hopt : String.ofList ((swapCommand 0).toList.drop 4) = "SWAP_BANK=0" := by
        decide +kernel
      exact (congrArg b.setOption hopt).trans rfl
    | true =>
      have hopt : String.ofList ((swapCommand 1).toList.drop 4) = "SWAP_BANK=1" := by
        decide +kernel
      exact (congrArg b.setOption hopt).trans rfl
  unfold Board.perform
  dsimp only
  rw [hopt, if_congr (and_iff_left hprefix) rfl rfl]

/-- the calls of a flash that goes well: the download, then SWAP_BANK where it has to change -/
theorem cmdFlash_calls (h : Succeeds api) (swapBank : Bool) (binPath target : String) :
    let value : Int := if swapBank then 1 else 0
    let bank := CubeApi.targetBank target value
    let final : Int := if bank = 1 then 0 else 1
    ((api swapBank).cmdFlash binPath target).calls =
      [.downloadFile binPath (CubeApi.flashAddr bank value),
        if final ≠ value then .sendOptionBytesCmd (swapCommand final)
        else .execute (CubeApi.flashAddr bank value),
        .disconnect, .deleteInterfaceList] := by
  intro value bank final
  obtain ⟨r, hcalls, hattach⟩ := attach_ok h swapBank
  have hread : ¬ value < 0 := by
    unfold value
    cases swapBank <;> decide
  unfold CubeApi.cmdFlash
  rw [show (api swapBank).attach = .ok (r, value) from hattach]
  dsimp only
  rw [if_neg hread, h.downloads, if_neg (show ¬ (0 : Int) ≠ 0 from fun h => h rfl)]
  by_cases hchange : final ≠ value
  · rw [if_pos hchange, if_pos hchange]
    show r.calls ++ _ ++ _ ++ _ = _
    rw [hcalls]
    rfl
  · rw [if_neg hchange, if_neg hchange]
    show r.calls ++ _ ++ _ ++ _ = _
    rw [hcalls]
    rfl

/-- the helper's address is that of the physical bank -/
theorem download_flashAddr (image : ι) (bank : Nat) (b : Board β) :
    b.download write image (CubeApi.flashAddr bank (if b.swapBank then 1 else 0)) =
      if bank = 1 then { b with bank1 := write image b.bank1 }
      else { b with bank2 := write image b.bank2 } := by
  unfold CubeApi.flashAddr Board.download
  rcases b with ⟨b1, b2, _ | _⟩ <;> by_cases hbank : bank = 1 <;> simp [hbank]

theorem targetBank_name (target : FlashTarget) (swapBank : Bool) :
    CubeApi.targetBank target.name (if swapBank then 1 else 0) =
      if target = .bank2 ∨ target = .inactive ∧ swapBank = false then 2 else 1 := by
  cases target <;> cases swapBank <;> decide +kernel

theorem flash_files (binFilePath : String) (image : ι) (target : FlashTarget) :
    (FlashOp.flash binFilePath image target).files native (native binFilePath) = some image :=
  if_pos rfl

/-- SWAP_BANK as it should be in the end, sent only where it differs -/
theorem perform_final (write : ι → β → β) (files : String → Option ι) (takes : String → Bool)
    (b : Board β) (address : Nat) (final : Int) (swapBank : Bool)
    (hfinal : final = if swapBank then 1 else 0) :
    b.perform write files takes
      (if final ≠ (if b.swapBank then 1 else 0) then .sendOptionBytesCmd (swapCommand final)
      else .execute address) =
      if takes (swapCommand final) then { b with swapBank := swapBank } else b := by
  by_cases hchange : final ≠ (if b.swapBank then 1 else 0)
  · rw [if_pos hchange]
    exact perform_option files takes b final swapBank hfinal
  · have hs : b.swapBank = swapBank := by
      rw [hfinal] at hchange
      revert hchange
      cases swapBank <;> cases b.swapBank <;> decide
    rw [if_neg hchange, ← hs, ite_self]
    rfl

/-- **A flash through the helper** writes the physical bank and lets it boot. -/
theorem helperStep_flash (h : Succeeds api) (binFilePath : String) (image : ι)
    (target : FlashTarget) (b : Board β) :
    helperStep write native api (.flash binFilePath image target) b =
      if target = .bank2 ∨ target = .inactive ∧ b.swapBank = false then
        { b with bank2 := write image b.bank2, swapBank := true }
      else { b with bank1 := write image b.bank1, swapBank := false } := by
  let files := (FlashOp.flash binFilePath image target).files native
  have hmain : main (.ok (api b.swapBank)) ["flash", native binFilePath, target.name] =
      (api b.swapBank).cmdFlash (native binFilePath) target.name := rfl
  let takes := (api b.swapBank).takes
  have hdown (address : Nat) :
      b.perform write files takes (.downloadFile (native binFilePath) address) =
        b.download write image address := by
    unfold Board.perform
    dsimp only
    rw [show files (native binFilePath) = some image from flash_files ..]
  show (main (.ok (api b.swapBank)) ["flash", native binFilePath, target.name]).calls.foldl
    (Board.perform write files takes) b = _
  rw [hmain, cmdFlash_calls h, targetBank_name, List.foldl_cons, List.foldl_cons, hdown,
    download_flashAddr]
  split
  · rw [if_neg (show ¬ 2 = 1 by decide)]
    have hlast := perform_final write files takes { b with bank2 := write image b.bank2 }
      (CubeApi.flashAddr 2 (if b.swapBank then 1 else 0)) 1 true rfl
    rw [if_pos (h.takes _ _)] at hlast
    exact congrArg (fun c => List.foldl (Board.perform write files takes) c _) hlast
  · rw [if_pos (show 1 = 1 from rfl)]
    have hlast := perform_final write files takes { b with bank1 := write image b.bank1 }
      (CubeApi.flashAddr 1 (if b.swapBank then 1 else 0)) 0 false rfl
    rw [if_pos (h.takes _ _)] at hlast
    exact congrArg (fun c => List.foldl (Board.perform write files takes) c _) hlast

/-- **A swap through the helper** toggles SWAP_BANK. -/
theorem helperStep_swapBank (h : Succeeds api) (b : Board β) :
    helperStep write native api (.swapBank : FlashOp ι) b = { b with swapBank := !b.swapBank } := by
  obtain ⟨r, hcalls, hattach⟩ := attach_ok h b.swapBank
  have hcmd : (api b.swapBank).cmdSwapBank.calls =
      [.sendOptionBytesCmd (swapCommand (if (if b.swapBank then 1 else 0 : Int) = 0 then 1 else 0)),
        .disconnect, .deleteInterfaceList] := by
    have hread : ¬ (if b.swapBank then 1 else 0 : Int) < 0 := by
      cases b.swapBank <;> decide
    unfold CubeApi.cmdSwapBank
    rw [hattach]
    dsimp only
    rw [if_neg hread]
    show r.calls ++ _ = _
    rw [hcalls]
    rfl
  show (api b.swapBank).cmdSwapBank.calls.foldl
    (Board.perform write _ (api b.swapBank).takes) b = _
  rw [hcmd, List.foldl_cons, perform_option _ _ b _ (!b.swapBank) (by cases b.swapBank <;> rfl),
    if_pos (h.takes _ _)]
  rfl

/-! ## One operation through the command line -/

theorem cliStep_flash (binFilePath : String) (image : ι) (target : FlashTarget) (b : Board β) :
    cliStep write native (.flash binFilePath image target) b =
      b.download write image (if target = .bank1 then 0x08000000 else 0x08100000) := by
  have hfile : (FlashOp.flash binFilePath image target).files native (native binFilePath) =
      some image := flash_files ..
  have haddress (address : String) :
      b.commandLine write ((FlashOp.flash binFilePath image target).files native)
        ["-c", "port=USB1", "-d", native binFilePath, address, "-v", "-rst"] =
        b.download write image (if address = "0x08000000" then 0x08000000
          else if address = "0x08100000" then 0x08100000 else 0) := by
    simp [Board.commandLine, hfile]
  refine (haddress _).trans ?_
  cases target <;> rfl

theorem cliStep_swapBank (b : Board β) :
    cliStep write native (.swapBank : FlashOp ι) b = { b with swapBank := true } := by
  simp [cliStep, FlashOp.args, swapArgs, Board.commandLine, Board.setOption]

/-! ## Both -/

theorem sameBoard_iff (s : Board β × Board β) : SameBoard s ↔ s.1 = s.2 := by
  obtain ⟨⟨a1, a2, a⟩, ⟨b1, b2, b⟩⟩ := s
  constructor
  · rintro ⟨h1, h2, hboots⟩
    have hswap : a = b := by
      revert hboots
      unfold Board.boots
      cases a <;> cases b <;> simp
    show (⟨a1, a2, a⟩ : Board β) = ⟨b1, b2, b⟩
    rw [show a1 = b1 from h1, show a2 = b2 from h2, hswap]
  · intro h
    cases h
    exact ⟨rfl, rfl, rfl⟩

/-- **One operation.** -/
theorem bothStep_iff (h : Succeeds api) (op : FlashOp ι) (b : Board β) :
    SameBoard (bothStep write native api op (b, b)) ↔ Plain write op b := by
  rw [sameBoard_iff]
  unfold bothStep
  dsimp only
  cases op with
  | swapBank =>
    rw [helperStep_swapBank h, cliStep_swapBank]
    unfold Plain
    rcases b with ⟨b1, b2, _ | _⟩ <;> simp
  | flash binFilePath image target =>
    rw [helperStep_flash h, cliStep_flash]
    unfold Plain Board.download
    -- what each of the two writes, for either mapping
    rcases b with ⟨b1, b2, _ | _⟩ <;> cases target <;> simp [eq_comm]

/-- **The two ways**, exactly: the boards are the same after every operation of a sequence iff each
operation is plain on the board it comes to. -/
theorem backEnds_iff (write : ι → β → β) (native : String → String) (api : Bool → CubeApi)
    (h : Succeeds api) (ops : List (FlashOp ι)) (b : Board β) :
    Run.Throughout (bothStep write native api) SameBoard ops (b, b) ↔
      Run.Along (bothStep write native api) (fun op s => Plain write op s.1) ops (b, b) := by
  refine Run.throughout_iff_along _ (I := fun _ => True) (fun _ _ _ => trivial) ?_ ops _ trivial
    ⟨rfl, rfl, rfl⟩
  intro op s _ hs
  obtain ⟨s₁, s₂⟩ := s
  obtain rfl : s₁ = s₂ := (sameBoard_iff _).mp hs
  exact bothStep_iff h op s₁

end

/-- one device, every call a success -/
def plainApi (swapBank : Bool) : CubeApi where
  devices := [{ usbIndex := "USB1", serialNumber := "20", productId := "DFU" }]
  connectDfuBootloader := fun _ => 0
  initOptionBytesInterface := some
    { banks := [{ categories := [{ bits :=
      [{ name := "SWAP_BANK", bitValue := if swapBank then 1 else 0 }] }] }] }
  downloadFile := fun _ _ => 0
  sendOptionBytesCmd := fun _ => 0
  loadBar := [(1, 2)]

theorem plainApi_succeeds : Succeeds plainApi where
  found := fun _ => List.cons_ne_nil _ _
  connects := fun _ _ => rfl
  reads := fun swapBank => by cases swapBank <;> decide +kernel
  downloads := fun _ _ _ => rfl
  options := fun _ _ => rfl

/-- bank 1 is written where it boots, then the other bank swapped in -/
theorem backEnds_swapAfterBank1 :
    let ops : List (FlashOp Nat) := [.flash "m1.bin" 7 .bank1, .swapBank]
    Run.Throughout (bothStep (fun image _ => image) id plainApi) SameBoard ops
      (⟨1, 2, false⟩, ⟨1, 2, false⟩) :=
  (backEnds_iff (fun image _ => image) id plainApi plainApi_succeeds _ ⟨1, 2, false⟩).mpr
    ⟨Or.inl ⟨rfl, rfl⟩, rfl, trivial⟩

/-- a flash of the inactive bank: both write bank 2, and only the helper lets it boot -/
theorem flash_inactive :
    let s := bothStep (fun image (_ : Nat) => image) id plainApi (.flash "m1.bin" 7 .inactive)
      (⟨1, 2, false⟩, ⟨1, 2, false⟩)
    s.1 = ⟨1, 7, true⟩ ∧ s.2 = ⟨1, 7, false⟩ := by
  decide +kernel

end QMon.Updater
