import QMonstatek.Device.Keepalive

/-!
# Relations closed under what the handlers do

`Framed P R`   `R` is reflexive and transitive, holds across every change of a state that leaves
               the link, the screen, the download and the outputs alone, and across every output
               that `P` allows; `P` allows a frame, a request about the screen and a signal that
               reports nothing done;
`Closed P R`   the same with any change of the screen.

`Handled P R`  the same, but only across changes that leave the count of missed pongs alone too.

For such a relation: every handler that neither connects nor downloads keeps to it, an ACK if `P`
allows the signals of an ACK (`Handled.onFrameReceived`).  With `HandledLink` so do the handlers
that work on the link, and with `HandledTcp` those that ask the WiFi worker (`FramedTcp.step`).
What starts the screen stream or stops it (`Event.StopsScreen`) and what changes the WiFi target
(`Event.Retargets`) keeps to `R` if `R` holds across that (`Showing`, `Stopping`, `Retargeting`), as
it does for `Closed`, `Relinking` and `Linking`.
-/

namespace QMon.Device
open Rpc

/-- the signal reports that a command was done -/
def Signal.isDone : Signal → Bool
  | .fileDownloadComplete _ => true
  | .fileUploadComplete => true
  | .fileDeleteComplete => true
  | .fileRenameComplete => true
  | .fileMkdirComplete => true
  | .sdMountChanged _ => true
  | .fwUpdateComplete => true
  | .bankSwapStarted => true
  | .bankEraseComplete => true
  | .espUpdateComplete => true
  | _ => false

def Signal.isDownload : Signal → Bool
  | .fileDownloadComplete _ => true
  | _ => false

def Out.isQuiet : Out → Bool
  | .signal s => !s.isDone
  | .tx _ _ _ => true
  | .txRejected _ => true
  | .requestArm => true
  | .requestDisarm => true
  | _ => false

/-- the ping timer finds the link dead: six pongs in a row missed, or nothing came for 20 s -/
def Dev.linkDead (d : Dev) : Prop :=
  d.isConnected = true ∧ d.keep.suspended = false ∧
    (d.keep.missedPongs + 1 ≥ 6 ∨ d.env.now - d.keep.lastInboundMs > 20000)

/-- the handler of `e` stops the screen stream -/
def Event.StopsScreen (e : Event) (d : Dev) : Prop :=
  match e with
  | .call .stopScreenStream => True
  | .call .disconnect => d.screen.streaming = true
  | .expire .ping => d.keep.pingTimer ≠ none ∧ d.linkDead ∧ d.screen.streaming = true
  | _ => False

/-- what the loss of the link clears, up to the plan for the reconnect -/
def Dev.dropSession (d : Dev) : Dev :=
  let d := { d with keep := { d.keep with suspended := false, pingTimer := none } }
  let d := d.resetCodec
  let d := { d with
    deviceInfo := {}
    screen := { d.screen with streaming := false }
    ops := { d.ops with bankSwapPending := false } }
  let d := d.dropTransfer .fwUpdate
    (.fwUpdateError "Device disconnected during firmware update")
  let d := { d with ops := { d.ops with espUpdateStaleNack := false } }
  let d := d.dropTransfer .espUpdate
    (.espUpdateError "Device disconnected during ESP32 update")
  let d := d.dropTransfer .fileUpload
    (.fileOperationError "Device disconnected during file upload")
  let d := { d with ops := { d.ops with
    uploadQueue := [], uploadQueueIndex := -1, mkdirQueue := [], mkdirQueueIndex := -1
    sdMounted := true } }
  d.emit (.screenStreamingChanged false)

theorem onTransportConnected_false_eq (d : Dev) : d.onTransportConnected false =
    Dev.emit { d.dropSession.planReconnect d.link.targetName with
      link := { (d.dropSession.planReconnect d.link.targetName).link with
        userDisconnecting := false } } (.connectionChanged false) := by
  unfold Dev.onTransportConnected Dev.dropSession
  dsimp only

/-- the handler of `e` may change the WiFi target -/
def Event.Retargets : Event → Prop
  | .call (.connectToDeviceWifi _) => True
  | .expire t => t = .wifiReconnect
  | .serviceFound _ _ => True
  | _ => False

structure Framed (P : Out → Prop) (R : Dev → Dev → Prop) : Prop where
  refl : ∀ d, R d d
  trans : ∀ {a b c}, R a b → R b c → R a c
  same : ∀ {d d'}, d'.link = d.link → d'.screen = d.screen → d'.download = d.download →
    d'.out = d.out → R d d'
  put : ∀ d o, P o → R d (d.put o)
  quiet : ∀ o, o.isQuiet = true → P o

/-- as `Framed`, but only across changes that leave the count of missed pongs alone too -/
structure Handled (P : Out → Prop) (R : Dev → Dev → Prop) : Prop where
  refl : ∀ d, R d d
  trans : ∀ {a b c}, R a b → R b c → R a c
  same : ∀ {d d'}, d'.link = d.link → d'.screen = d.screen → d'.download = d.download →
    d'.out = d.out → d'.keep.missedPongs = d.keep.missedPongs → R d d'
  put : ∀ d o, P o → R d (d.put o)
  quiet : ∀ o, o.isQuiet = true → P o

theorem Framed.handled {P : Out → Prop} {R : Dev → Dev → Prop} (h : Framed P R) : Handled P R where
  refl := h.refl
  trans := h.trans
  same hl hs hd ho _ := h.same hl hs hd ho
  put := h.put
  quiet := h.quiet

/-- `R` also holds across a PONG -/
def Ponging (R : Dev → Dev → Prop) : Prop :=
  ∀ d : Dev, R d { d with keep := { d.keep with missedPongs := 0 } }

/-- `R` also holds across the start of the screen stream -/
def Showing (R : Dev → Dev → Prop) : Prop := ∀ (d : Dev) (fps : Int),
  R d { d with screen := { streaming := true, wanted := true, fps := fps } }

/-- `R` also holds across the end of the screen stream -/
def Stopping (R : Dev → Dev → Prop) : Prop :=
  ∀ d : Dev, R d { d with screen := { d.screen with streaming := false, wanted := false } }

/-- `R` also holds across a change of the WiFi target -/
def Retargeting (R : Dev → Dev → Prop) : Prop :=
  ∀ (d : Dev) (target : String), R d { d with link := { d.link with wifiTarget := target } }

structure Closed (P : Out → Prop) (R : Dev → Dev → Prop) : Prop where
  refl : ∀ d, R d d
  trans : ∀ {a b c}, R a b → R b c → R a c
  update : ∀ {d d'}, d'.link = d.link → d'.download = d.download → d'.out = d.out → R d d'
  put : ∀ d o, P o → R d (d.put o)
  quiet : ∀ o, o.isQuiet = true → P o

theorem Closed.framed {P : Out → Prop} {R : Dev → Dev → Prop} (h : Closed P R) : Framed P R where
  refl := h.refl
  trans := h.trans
  same hl _ hd ho := h.update hl hd ho
  put := h.put
  quiet := h.quiet

theorem Closed.handled {P : Out → Prop} {R : Dev → Dev → Prop} (h : Closed P R) : Handled P R :=
  h.framed.handled

theorem Closed.showing {P : Out → Prop} {R : Dev → Dev → Prop} (h : Closed P R) : Showing R :=
  fun _ _ => h.update rfl rfl rfl

theorem Closed.stopping {P : Out → Prop} {R : Dev → Dev → Prop} (h : Closed P R) : Stopping R :=
  fun _ => h.update rfl rfl rfl

/-- `P` allows what the ACK of a command reports -/
def Closed.Acks (P : Out → Prop) : Prop := ∀ s : Signal, s.isDownload = false → P (.signal s)

namespace Handled

variable {P : Out → Prop} {R : Dev → Dev → Prop} {d d' : Dev}

/-! ## Pieces -/

section
variable (h : Handled P R)
include h

theorem emit (d : Dev) {s : Signal} (hs : s.isDone = false) : R d (d.emit s) :=
  h.put d _ (h.quiet _ (by rw [Out.isQuiet, hs]; rfl))

theorem send (d : Dev) (cmd : UInt8) (payload : List UInt8) :
    R d (d.sendCommand cmd payload) := by
  let d1 : Dev := { d with seqCounter := d.seqCounter + 1 }
  have h1 : R d d1 := h.same rfl rfl rfl rfl rfl
  unfold Dev.sendCommand Dev.transportSend
  cases d.link.transport with
  | serial =>
    dsimp only
    split
    · exact h.trans h1 (h.put d1 _ (h.quiet _ rfl))
    · exact h.trans h1 (h.put d1 _ (h.quiet _ rfl))
  | wifi => exact h.trans h1 (h.put d1 _ (h.quiet _ rfl))

theorem setTransfer (k : Kind) (t : Transfer) (d : Dev) : R d (d.setTransfer k t) :=
  h.same rfl rfl rfl rfl rfl

theorem startShot (d : Dev) (s : Shot) : R d (d.startShot s) := h.same rfl rfl rfl rfl rfl

theorem suspend (d : Dev) : R d d.suspendKeepalive := by
  unfold Dev.suspendKeepalive
  split
  · exact h.refl d
  · exact h.same rfl rfl rfl rfl rfl

theorem resume (d : Dev) : R d d.resumeKeepaliveIfIdle := by
  unfold Dev.resumeKeepaliveIfIdle
  split
  · exact h.refl d
  · split
    · exact h.refl d
    · split <;> exact h.same rfl rfl rfl rfl rfl

theorem chunkClosed (k : Kind) : ChunkClosed k R where
  refl := h.refl
  trans := h.trans
  set d t _ := h.setTransfer k t d
  emit d s hs := h.emit d (by cases s <;> first | rfl | exact Bool.noConfusion hs)
  send d cmd payload _ _ := h.send d cmd payload

theorem emitAll {l : List Signal} (hl : ∀ s ∈ l, s.isProgress = true) (d : Dev) :
    R d (d.emitAll l) := (h.chunkClosed .fwUpdate).emitAll hl d

/-- the end of an operation: the keepalive is resumed and the outcome told -/
theorem resumed (hd : R d d') {s : Signal} (hs : P (.signal s)) :
    R d (d'.resumeKeepaliveIfIdle.emit s) :=
  h.trans (h.trans hd (h.resume d')) (h.put _ _ hs)

theorem failed (s : Signal) (hs : s.isDone = false) : P (.signal s) :=
  h.quiet _ (by rw [Out.isQuiet, hs]; rfl)

theorem dropTransfer (k : Kind) {err : Signal} (herr : err.isDone = false) (d : Dev) :
    R d (d.dropTransfer k err) := by
  unfold Dev.dropTransfer
  split
  · exact h.trans (h.setTransfer k _ d) (h.emit _ herr)
  · exact h.setTransfer k _ d

theorem dropSession
    (hlost : ∀ d : Dev, R d { d with screen := { d.screen with streaming := false } }) (d : Dev) :
    R d d.dropSession := by
  let d1 : Dev := { d.resetCodec with
    keep := { d.keep with suspended := false, pingTimer := none }
    deviceInfo := {}
    screen := { d.screen with streaming := false }
    ops := { d.ops with bankSwapPending := false } }
  have h1 : R d d1 := h.trans (hlost d) (h.same rfl rfl rfl rfl rfl)
  let d2 := d1.dropTransfer .fwUpdate
    (.fwUpdateError "Device disconnected during firmware update")
  let d3 : Dev := { d2 with ops := { d2.ops with espUpdateStaleNack := false } }
  let d4 := d3.dropTransfer .espUpdate
    (.espUpdateError "Device disconnected during ESP32 update")
  let d5 := d4.dropTransfer .fileUpload
    (.fileOperationError "Device disconnected during file upload")
  let d6 : Dev := { d5 with ops := { d5.ops with
    uploadQueue := [], uploadQueueIndex := -1, mkdirQueue := [], mkdirQueueIndex := -1
    sdMounted := true } }
  have h2 : R d d2 := h.trans h1 (h.dropTransfer .fwUpdate rfl d1)
  have h3 : R d d3 := h.trans h2 (h.same rfl rfl rfl rfl rfl)
  have h4 : R d d4 := h.trans h3 (h.dropTransfer .espUpdate rfl d3)
  have h5 : R d d5 := h.trans h4 (h.dropTransfer .fileUpload rfl d4)
  have h6 : R d d6 := h.trans h5 (h.same rfl rfl rfl rfl rfl)
  exact h.trans h6 (h.emit d6 rfl)

/-! ## Operations -/

theorem startBranch {k : Kind} {path : String} (hb : StartBranch k path d d') : R d d' := by
  have herror (message : String) : (k.error message).isDone = false := by cases k <;> rfl
  cases hb with
  | refused message busy => exact h.emit d (herror _)
  | rejected flashAddr data t message idle read after empty =>
    refine h.trans ?_ (h.emit _ (herror _))
    exact h.same rfl rfl rfl rfl rfl
  | started flashAddr data payload t status idle alone read size image progress =>
    refine h.trans (h.trans (h.trans ?_ (h.suspend _)) (h.send _ _ _)) (h.emitAll progress _)
    exact h.same rfl rfl rfl rfl rfl

theorem fileCommand (cmd : UInt8) (payload : List UInt8) (d : Dev) :
    R d (d.fileCommand cmd payload) := by
  unfold Dev.fileCommand
  refine h.trans ?_ (h.send _ _ _)
  exact h.same rfl rfl rfl rfl rfl

theorem swapBanks (d : Dev) : R d d.swapBanks := by
  unfold Dev.swapBanks
  refine h.trans ?_ (h.send _ _ _)
  exact h.same rfl rfl rfl rfl rfl

theorem eraseInactiveBank (d : Dev) : R d d.eraseInactiveBank := by
  unfold Dev.eraseInactiveBank
  split
  · exact h.emit d rfl
  · refine h.trans (h.trans ?_ (h.suspend _)) (h.send _ _ _)
    exact h.same rfl rfl rfl rfl rfl

theorem uploadItem (index : Int) (item : UploadQueueItem) (d : Dev) :
    R d (d.uploadItem index item) := by
  unfold Dev.uploadItem
  refine h.trans (h.trans ?_ (h.emit _ rfl)) (h.startBranch (uploadFile_branch _ _ _))
  exact h.same rfl rfl rfl rfl rfl

theorem startUploadQueue (d : Dev) : R d d.startUploadQueue := by
  unfold Dev.startUploadQueue
  split
  · exact h.emit d rfl
  · exact h.uploadItem _ _ d

theorem advanceUploadQueue (d : Dev) : R d d.advanceUploadQueue := by
  unfold Dev.advanceUploadQueue
  dsimp only
  split
  · refine h.trans ?_ (h.emit _ rfl)
    exact h.same rfl rfl rfl rfl rfl
  · exact h.uploadItem _ _ d

theorem advanceMkdirQueue (d : Dev) : R d d.advanceMkdirQueue := by
  unfold Dev.advanceMkdirQueue
  dsimp only
  split
  · split
    · refine h.trans ?_ (h.startUploadQueue _)
      exact h.same rfl rfl rfl rfl rfl
    · refine h.trans ?_ (h.emit _ rfl)
      exact h.same rfl rfl rfl rfl rfl
  · refine h.trans ?_ (h.fileCommand _ _ _)
    exact h.same rfl rfl rfl rfl rfl

theorem uploadFiles (fileUrls : List String) (remotePath : String) (d : Dev) :
    R d (d.uploadFiles fileUrls remotePath) := by
  unfold Dev.uploadFiles
  split
  · exact h.emit d rfl
  · dsimp only
    split
    · refine h.trans ?_ (h.emit _ rfl)
      exact h.same rfl rfl rfl rfl rfl
    · refine h.trans ?_ (h.startUploadQueue _)
      exact h.same rfl rfl rfl rfl rfl

theorem uploadFolder (localFolderUrl remotePath : String) (d : Dev) :
    R d (d.uploadFolder localFolderUrl remotePath) := by
  unfold Dev.uploadFolder
  split
  · exact h.emit d rfl
  · dsimp only
    split
    · exact h.emit d rfl
    · split
      · split
        · refine h.trans ?_ (h.emit _ rfl)
          exact h.same rfl rfl rfl rfl rfl
        · refine h.trans ?_ (h.startUploadQueue _)
          exact h.same rfl rfl rfl rfl rfl
      · refine h.trans (h.trans ?_ (h.emit _ rfl)) (h.fileCommand _ _ _)
        exact h.same rfl rfl rfl rfl rfl

/-! ## Replies -/

theorem ackFileCommand (hs : Closed.Acks P) (d : Dev) : R d d.ackFileCommand := by
  have clear : R d d.clearPending := h.same rfl rfl rfl rfl rfl
  have branch := ackFileCommand_branch d
  generalize d.ackFileCommand = d' at branch
  cases branch with
  | deleted pending => exact h.trans clear (h.put _ _ (hs _ rfl))
  | renamed pending => exact h.trans clear (h.put _ _ (hs _ rfl))
  | nextDirectory pending queue => exact h.trans clear (h.advanceMkdirQueue _)
  | madeDirectory pending queue => exact h.trans clear (h.put _ _ (hs _ rfl))
  | mounted on pending =>
    refine h.trans ?_ (h.put _ _ (hs _ rfl))
    exact h.same rfl rfl rfl rfl rfl
  | late pending => exact h.same rfl rfl rfl rfl rfl

theorem handleAck (hs : Closed.Acks P) (d : Dev) : R d d.handleAck := by
  have branch := handleAck_branch d
  generalize d.handleAck = d' at branch
  cases branch with
  | bankErase pending =>
    refine h.resumed ?_ (hs _ rfl)
    exact h.same rfl rfl rfl rfl rfl
  | bankSwap pending =>
    refine h.trans (h.trans ?_ (h.put _ _ (hs _ rfl))) (h.startShot _ _)
    exact h.same rfl rfl rfl rfl rfl
  | chunk k status mine before progress => exact (h.chunkClosed k).ackChunk progress d
  | finished k mine before =>
    exact h.resumed (h.setTransfer k _ d) (hs _ (by cases k <;> rfl))
  | nextFile mine before queue =>
    exact h.trans (h.setTransfer _ _ d) (h.advanceUploadQueue _)
  | fileCommand mine idle => exact h.ackFileCommand hs d

theorem handleNack (payload : List UInt8) (d : Dev) : R d (d.handleNack payload) := by
  have branch := handleNack_branch payload d
  generalize d.handleNack payload = d' at branch
  cases branch with
  | bankErase pending =>
    refine h.resumed ?_ (h.failed _ rfl)
    exact h.same rfl rfl rfl rfl rfl
  | bankSwap pending =>
    refine h.trans ?_ (h.emit _ rfl)
    exact h.same rfl rfl rfl rfl rfl
  | update k hk before =>
    exact h.resumed (h.setTransfer k _ d) (h.failed _ (by cases k <;> rfl))
  | upload mine before =>
    have ended : R d (d.endTransfer .fileUpload).resumeKeepaliveIfIdle :=
      h.trans (h.setTransfer _ _ d) (h.resume _)
    refine h.trans ended (h.trans ?_ (h.emit _ rfl))
    exact h.same rfl rfl rfl rfl rfl
  | late mine idle stale => exact h.same rfl rfl rfl rfl rfl
  | fileCommand mine idle stale =>
    refine h.trans ?_ (h.emit _ rfl)
    exact h.same rfl rfl rfl rfl rfl

theorem timeoutBranch {k : Kind} (hb : TimeoutBranch k d d') : R d d' := by
  have herror (message : String) : (k.error message).isDone = false := by cases k <;> rfl
  have stop : R d (d.stopTimeout k) := h.setTransfer k _ d
  cases hb with
  | idle before => exact stop
  | ended message hk before =>
    refine h.resumed ?_ (h.failed _ (herror _))
    exact h.setTransfer k _ d
  | cleanup message hk before d1 sent =>
    have hs : R d d1 := by
      rw [sent]
      exact h.trans stop (h.send _ _ _)
    refine h.resumed (h.trans hs ?_) (h.failed _ (herror _))
    exact h.same rfl rfl rfl rfl rfl

theorem noted (d : Dev) : R d d.noted := by
  unfold Dev.noted Dev.resolveDialect
  split
  · refine h.trans (h.trans ?_ (h.emit _ rfl)) (h.send _ _ _)
    split
    · refine h.trans ?_ (h.emit _ rfl)
      exact h.same rfl rfl rfl rfl rfl
    · exact h.same rfl rfl rfl rfl rfl
  · exact h.same rfl rfl rfl rfl rfl

theorem handleDeviceInfoResp (payload : List UInt8) (d : Dev) :
    R d (d.handleDeviceInfoResp payload) := by
  unfold Dev.handleDeviceInfoResp
  split
  · exact h.refl d
  · refine h.trans ?_ (h.emit _ rfl)
    exact h.same rfl rfl rfl rfl rfl

theorem onFrameReceived (f : Frame) (d : Dev) (hack : f.cmd = CMD_ACK → Closed.Acks P)
    (hpong : f.cmd = CMD_PONG → Ponging R)
    (hdata : f.cmd = CMD_FILE_READ_DATA → R d.noted (d.noted.handleFileReadData f.payload)) :
    R d (d.onFrameReceived f) := by
  have branch := onFrameReceived_branch f d
  generalize d.onFrameReceived f = d' at branch
  cases branch with
  | pong hp => exact h.trans (h.noted d) (h.trans (hpong hp _) (h.emit _ rfl))
  | deviceInfo hinfo => exact h.trans (h.noted d) (h.handleDeviceInfoResp _ _)
  | fileData hd => exact h.trans (h.noted d) (hdata hd)
  | ack ha => exact h.trans (h.noted d) (h.handleAck (hack ha) _)
  | nack hn => exact h.trans (h.noted d) (h.handleNack _ _)
  | report ha hn => exact h.noted d

/-! ## Calls that neither connect nor download -/

theorem disarm (d : Dev) : R d (if d.onWifi then d.put .requestDisarm else d) := by
  split
  · exact h.put d _ (h.quiet _ rfl)
  · exact h.refl d

theorem stopScreenStream (hs : Stopping R) (d : Dev) : R d d.stopScreenStream := by
  have asked := h.trans (h.disarm d) (h.send _ CMD_SCREEN_STOP [])
  unfold Dev.stopScreenStream
  exact h.trans (h.trans asked (hs _)) (h.emit _ rfl)

theorem startScreenStream (hs : Showing R) (fps : Int) (d : Dev) :
    R d (d.startScreenStream fps) := by
  have sent (payload armed : List UInt8) : R d (if d.onWifi
      then (d.put .requestArm).sendCommand CMD_SCREEN_START armed
      else d.sendCommand CMD_SCREEN_START payload) := by
    split
    · exact h.trans (h.put d _ (h.quiet _ rfl)) (h.send _ _ _)
    · exact h.send d _ _
  unfold Dev.startScreenStream
  exact h.trans (h.trans (sent _ _) (hs _ _)) (h.emit _ rfl)

theorem stopStreaming (d : Dev) (hs : d.screen.streaming = true → Stopping R) :
    R d (if d.screen.streaming then d.stopScreenStream else d) := by
  split
  next on => exact h.stopScreenStream (hs on) d
  next => exact h.refl d

theorem setDeviceLogVerbose (on : Bool) (d : Dev) : R d (d.setDeviceLogVerbose on) := by
  unfold Dev.setDeviceLogVerbose
  refine h.trans ?_ (h.emit _ rfl)
  split
  · refine h.trans ?_ (h.send _ _ _)
    exact h.same rfl rfl rfl rfl rfl
  · exact h.same rfl rfl rfl rfl rfl

end
end Handled

/-- the calls that work on the link -/
def Call.Links : Call → Prop
  | .connectToDevice _ | .connectToDeviceWifi _ | .disconnect | .setPreferredSerialPort _ => True
  | _ => False

def Call.Downloads : Call → Prop
  | .downloadFile _ _ => True
  | _ => False

theorem Handled.call {P : Out → Prop} {R : Dev → Dev → Prop} (h : Handled P R) (c : Call) (d : Dev)
    (hl : ¬ c.Links) (hd : ¬ c.Downloads) (hshow : Showing R)
    (hstop : c = .stopScreenStream → Stopping R) :
    R d (d.call c) := by
  have shot {d' : Dev} (hd : R d d') (s : Shot) : R d (d'.startShot s) :=
    h.trans hd (h.startShot d' s)
  unfold Dev.call
  cases c with
  | connectToDevice p => exact absurd trivial hl
  | connectToDeviceWifi hp => exact absurd trivial hl
  | disconnect => exact absurd trivial hl
  | setPreferredSerialPort p => exact absurd trivial hl
  | downloadFile r l => exact absurd trivial hd
  | setDeviceLogVerbose on => exact h.setDeviceLogVerbose on d
  | startScreenStream fps => exact h.startScreenStream hshow fps d
  | stopScreenStream => exact h.stopScreenStream (hstop rfl) d
  | uploadFile l r => exact h.startBranch (uploadFile_branch l d r)
  | uploadFiles us r => exact h.uploadFiles us r d
  | uploadFolder u r => exact h.uploadFolder u r d
  | deleteFile r => exact h.fileCommand _ _ d
  | deleteTree r => exact h.fileCommand _ _ d
  | renameFile o n => exact h.fileCommand _ _ d
  | makeDirectory r => exact h.fileCommand _ _ d
  | mountSdCard => exact h.fileCommand _ _ d
  | unmountSdCard => exact h.fileCommand _ _ d
  | startFwUpdate p => exact h.startBranch (startFwUpdate_branch p d)
  | swapBanks => exact h.swapBanks d
  | eraseInactiveBank => exact h.eraseInactiveBank d
  | startEspUpdate p addr force => exact h.startBranch (startEspUpdate_branch p d addr force)
  | reboot => exact shot (h.send d _ _) _
  | initEsp32 => exact shot (h.send d _ _) _
  | rebootEsp32 => exact shot (h.send d _ _) _
  | _ => exact h.send d _ _

/-! ## The link -/

/-- a request to the port discovery or to mDNS -/
def Out.asksPorts : Out → Bool
  | .forgetPort _ => true
  | .startScan => true
  | _ => false

/-- a request to the TCP socket of the worker -/
def Out.asksTcp : Out → Bool
  | .requestConnect _ _ => true
  | .requestDisconnect => true
  | _ => false

/-- `R` also holds across a change of the link that keeps the WiFi target, and across the end of the
stream with the link -/
structure FramedLink (P : Out → Prop) (R : Dev → Dev → Prop) : Prop extends Framed P R where
  relink : ∀ (d : Dev) (l : Link), l.wifiTarget = d.link.wifiTarget → R d { d with link := l }
  lost : ∀ d : Dev, R d { d with screen := { d.screen with streaming := false } }

/-- as `FramedLink`, for `Handled`; `R` also holds across the start of a session -/
structure HandledLink (P : Out → Prop) (R : Dev → Dev → Prop) : Prop extends Handled P R where
  relink : ∀ (d : Dev) (l : Link), l.wifiTarget = d.link.wifiTarget → R d { d with link := l }
  lost : ∀ d : Dev, R d { d with screen := { d.screen with streaming := false } }
  startSession : ∀ d : Dev, R d d.startSession

/-- `R` also holds across a change of the link -/
structure Relinking (P : Out → Prop) (R : Dev → Dev → Prop) : Prop extends Closed P R where
  relink : ∀ (d : Dev) (l : Link), R d { d with link := l }
  ports : ∀ o, o.asksPorts = true → P o

theorem FramedLink.startSession {P : Out → Prop} {R : Dev → Dev → Prop} (h : FramedLink P R)
    (d : Dev) : R d d.startSession := by
  let d1 : Dev := { d.resetCodec with
    keep := { d.keep with suspended := false, missedPongs := 0, lastInboundMs := d.env.now }
    crc := resetCrcDialect d.crc
    dialectResolved := false }
  let dp := d1.sendCommand CMD_PING []
  let d2 := dp.sendCommand CMD_SET_LOG_LEVEL [if dp.deviceLogVerbose then 3 else 0]
  have hh := h.toFramed.handled
  have h1 : R d d1 := h.same rfl rfl rfl rfl
  have h2 : R d d2 := h.trans (h.trans h1 (hh.send d1 CMD_PING [])) (hh.send _ _ _)
  let d3 := d2.startShot .requestDeviceInfo
  have h3 : R d2 d3 := hh.startShot d2 _
  have h4 : R d3 { d3 with keep := { d3.keep with pingTimer := some 3000 } } :=
    h.same rfl rfl rfl rfl
  exact h.trans h2 (h.trans h3 h4)

theorem FramedLink.handled {P : Out → Prop} {R : Dev → Dev → Prop} (h : FramedLink P R) :
    HandledLink P R where
  toHandled := h.toFramed.handled
  relink := h.relink
  lost := h.lost
  startSession := h.startSession

namespace HandledLink

variable {P : Out → Prop} {R : Dev → Dev → Prop} {d d' : Dev} (h : HandledLink P R)
include h

theorem relinked (ht : d'.link.wifiTarget = d.link.wifiTarget) (hs : d'.screen = d.screen)
    (hd : d'.download = d.download) (ho : d'.out = d.out)
    (hm : d'.keep.missedPongs = d.keep.missedPongs) : R d d' :=
  h.trans (h.relink d d'.link ht) (h.same rfl hs hd ho hm)

theorem scheduleSerialReconnect (portName : String) (delayMs : Int) (d : Dev) :
    R d (d.scheduleSerialReconnect portName delayMs) := by
  unfold Dev.scheduleSerialReconnect
  split
  · exact h.refl d
  · split <;> exact h.relink d _ (by rfl)

theorem onTransportConnected_true (d : Dev) : R d (d.onTransportConnected true) := by
  have noted : R d (if d.onWifi then { d with link := { d.link with
      wifiWasConnected := true, wifiReconnectAttempts := 0, wifiReconnectTimer := none } }
      else d) := by
    split
    · exact h.relink d _ (by rfl)
    · exact h.refl d
  have started (d1 : Dev) : R d1 (if d1.link.pendingSessionStart then
      Dev.startSession { d1 with link := { d1.link with pendingSessionStart := false } }
      else d1) := by
    split
    · exact h.trans (h.relink d1 _ (by rfl)) (h.startSession _)
    · exact h.refl d1
  have rearmed (d1 : Dev) :
      R d1 (if d1.onWifi ∧ d1.screen.wanted then d1.startShot .rearmScreen else d1) := by
    split
    · exact h.startShot d1 _
    · exact h.refl d1
  unfold Dev.onTransportConnected
  exact h.trans (h.trans (h.trans noted (started _)) (rearmed _)) (h.emit _ rfl)

theorem setPreferredSerialPort (portName : String) (d : Dev) :
    R d (d.setPreferredSerialPort portName) := by
  unfold Dev.setPreferredSerialPort
  dsimp only
  split
  · exact h.relink d _ (by rfl)
  · exact h.trans (h.trans (h.relink d _ (by rfl)) (h.relink _ _ (by rfl))) (h.startShot _ _)

theorem onServiceFound (hr : Retargeting R) (address : String) (port : Int) (d : Dev) :
    R d (d.onServiceFound address port) := by
  unfold Dev.onServiceFound
  split
  · exact h.refl d
  · exact hr d _

theorem onWorkerConnected (d : Dev) : R d d.onWorkerConnected := by
  unfold Dev.onWorkerConnected
  dsimp only
  split
  · exact h.trans (h.relink d _ (by rfl)) (h.onTransportConnected_true _)
  · exact h.relink d _ (by rfl)

end HandledLink

/-- `R` also holds across a request to the port discovery or to mDNS -/
structure FramedPorts (P : Out → Prop) (R : Dev → Dev → Prop) : Prop extends FramedLink P R where
  ports : ∀ o, o.asksPorts = true → P o

/-- as `FramedPorts`, for `Handled` -/
structure HandledPorts (P : Out → Prop) (R : Dev → Dev → Prop) : Prop extends HandledLink P R where
  ports : ∀ o, o.asksPorts = true → P o

theorem FramedPorts.handled {P : Out → Prop} {R : Dev → Dev → Prop} (h : FramedPorts P R) :
    HandledPorts P R where
  toHandledLink := h.toFramedLink.handled
  ports := h.ports

theorem Relinking.retargeting {P : Out → Prop} {R : Dev → Dev → Prop} (h : Relinking P R) :
    Retargeting R := fun d _ => h.relink d _

theorem Relinking.framed {P : Out → Prop} {R : Dev → Dev → Prop} (h : Relinking P R) :
    FramedPorts P R where
  toFramed := h.toClosed.framed
  relink d l _ := h.relink d l
  lost _ := h.update rfl rfl rfl
  ports := h.ports

namespace HandledPorts

variable {P : Out → Prop} {R : Dev → Dev → Prop} (h : HandledPorts P R)
include h

theorem askPorts (d : Dev) {o : Out} (ho : o.asksPorts = true) : R d (d.put o) :=
  h.put d o (h.ports o ho)

theorem planReconnect (lastPort : String) (d : Dev) : R d (d.planReconnect lastPort) := by
  unfold Dev.planReconnect
  split
  · split
    · refine h.trans ?_ (h.relink _ _ (by rfl))
      split
      · exact h.askPorts d rfl
      · exact h.refl d
    · exact h.refl d
  · split
    · exact h.trans (h.trans (h.askPorts d rfl) (h.relink _ _ (by rfl)))
        (h.scheduleSerialReconnect _ _ _)
    · exact h.refl d

theorem onTransportConnected_false (d : Dev) : R d (d.onTransportConnected false) := by
  have planned := h.trans (h.dropSession h.lost d) (h.planReconnect d.link.targetName _)
  rw [onTransportConnected_false_eq]
  exact h.trans (h.trans planned (h.relink _ _ (by rfl))) (h.emit _ rfl)

/-! ## Transports -/

theorem serialClose (d : Dev) : R d d.serialClose := by
  unfold Dev.serialClose
  split
  · dsimp only
    split
    · exact h.relink d _ (by rfl)
    · exact h.trans (h.relink d _ (by rfl)) (h.onTransportConnected_false _)
  · exact h.refl d

theorem serialOpenPort (portName : String) (d : Dev) : R d (d.serialOpenPort portName).1 := by
  have closed : R d { d.serialClose with link := { d.serialClose.link with
      serialPort := d.serialClose.link.shortPortName portName } } :=
    h.trans (h.serialClose d) (h.relink _ _ (by rfl))
  unfold Dev.serialOpenPort
  dsimp only
  split
  · exact h.trans (h.trans closed (h.relink _ _ (by rfl))) (h.onTransportConnected_true _)
  · exact h.trans closed (h.emit _ rfl)

/-! ## Connecting -/

theorem connectToDevice (portName : String) (d : Dev) : R d (d.connectToDevice portName).1 := by
  have opened : R d ((d.setTransport .serial).serialOpenPort portName).1 :=
    h.trans (h.relink d _ (by rfl)) (h.serialOpenPort _ _)
  unfold Dev.connectToDevice
  dsimp only
  split
  · exact h.trans (h.trans (h.trans opened (h.relink _ _ (by rfl))) (h.relink _ _ (by rfl)))
      (h.startSession _)
  · exact opened

theorem trySerialReconnect (d : Dev) : R d d.trySerialReconnect := by
  unfold Dev.trySerialReconnect
  split
  · exact h.refl d
  · split
    · exact h.relink d _ (by rfl)
    · dsimp only
      have tried := h.trans (h.relink d { d.link with
        serialReconnectAttempts := d.link.serialReconnectAttempts + 1 } rfl)
        (h.connectToDevice d.link.serialReconnectPort _)
      split
      · exact tried
      · exact h.trans tried (h.relink _ _ (by rfl))

theorem onDeviceFound (portName : String) (d : Dev) : R d (d.onDeviceFound portName) := by
  unfold Dev.onDeviceFound
  split
  · exact h.refl d
  · split
    · exact h.refl d
    · split
      · exact h.relink d _ (by rfl)
      · dsimp only
        split
        · exact h.connectToDevice portName d
        · exact h.trans (h.trans (h.connectToDevice portName d) (h.relink _ _ (by rfl)))
            (h.scheduleSerialReconnect _ _ _)

theorem onWorkerDisconnected (d : Dev) : R d d.onWorkerDisconnected := by
  unfold Dev.onWorkerDisconnected
  split
  · dsimp only
    split
    · exact h.trans (h.relink d _ (by rfl)) (h.onTransportConnected_false _)
    · exact h.relink d _ (by rfl)
  · exact h.refl d

end HandledPorts

/-- `R` also holds across a request to the TCP socket of the worker -/
structure FramedTcp (P : Out → Prop) (R : Dev → Dev → Prop) : Prop extends FramedPorts P R where
  asks : ∀ o, o.asksTcp = true → P o

/-- as `FramedTcp`, for `Handled` -/
structure HandledTcp (P : Out → Prop) (R : Dev → Dev → Prop) : Prop extends HandledPorts P R where
  asks : ∀ o, o.asksTcp = true → P o

theorem FramedTcp.handled {P : Out → Prop} {R : Dev → Dev → Prop} (h : FramedTcp P R) :
    HandledTcp P R where
  toHandledPorts := h.toFramedPorts.handled
  asks := h.asks

/-- `R` also holds across a request to the TCP socket of the worker -/
structure Linking (P : Out → Prop) (R : Dev → Dev → Prop) : Prop extends Relinking P R where
  asks : ∀ o, o.asksTcp = true → P o

theorem Linking.framed {P : Out → Prop} {R : Dev → Dev → Prop} (h : Linking P R) :
    FramedTcp P R where
  toFramedPorts := h.toRelinking.framed
  asks := h.asks

namespace HandledTcp

variable {P : Out → Prop} {R : Dev → Dev → Prop} (h : HandledTcp P R)
include h

theorem ask (d : Dev) {o : Out} (ho : o.asksTcp = true) : R d (d.put o) := h.put d o (h.asks o ho)

theorem transportClose (d : Dev) : R d d.transportClose := by
  unfold Dev.transportClose
  split
  · exact h.ask d rfl
  · exact h.serialClose d

theorem wifiOpen (target : String) (d : Dev) : R d (d.wifiOpen target).1 := by
  unfold Dev.wifiOpen
  split
  · exact h.emit d rfl
  · exact h.trans (h.relink d _ (by rfl)) (h.ask _ rfl)

theorem connectToDeviceWifi (hr : Retargeting R) (hostPort : String) (d : Dev) :
    R d (d.connectToDeviceWifi hostPort) := by
  let d1 : Dev := { d.clearSerialReconnect with link := { d.clearSerialReconnect.link with
    wifiCreated := true, transport := .wifi, wifiTarget := hostPort
    userDisconnecting := false, pendingSessionStart := true } }
  have aimed : R d d1 := h.trans (hr d hostPort) (h.relink _ _ (by rfl))
  have opened : R d (d1.wifiOpen hostPort).1 := h.trans aimed (h.wifiOpen hostPort d1)
  unfold Dev.connectToDeviceWifi
  dsimp only
  split
  · exact opened
  · exact h.trans (h.trans opened (h.relink _ _ (by rfl))) (h.relink _ _ (by rfl))

theorem disconnect (d : Dev) (hs : d.screen.streaming = true → Stopping R) :
    R d d.disconnect := by
  let d1 : Dev := { d.clearSerialReconnect with
    keep := { d.keep with suspended := false, pingTimer := none }
    link := { d.clearSerialReconnect.link with
      wifiReconnectTimer := none, wifiWasConnected := false, wifiReconnectAttempts := 0 } }
  have h1 : R d d1 := h.relinked rfl rfl rfl rfl rfl
  have h2 := h.trans h1 (h.stopStreaming d1 hs)
  unfold Dev.disconnect
  exact h.trans (h.trans (h.trans h2 (h.relink _ _ (by rfl))) (h.transportClose _))
    (h.same rfl rfl rfl rfl rfl)

theorem tryWifiReconnect (hr : Retargeting R) (d : Dev) : R d d.tryWifiReconnect := by
  unfold Dev.tryWifiReconnect
  split
  · exact h.refl d
  · exact h.trans (h.relink d _ (by rfl)) (h.connectToDeviceWifi hr _ _)

theorem onDeviceLost (portName : String) (d : Dev) : R d (d.onDeviceLost portName) := by
  let d1 : Dev := { d with keep := { d.keep with pingTimer := none } }
  have h1 : R d d1 := h.same rfl rfl rfl rfl rfl
  unfold Dev.onDeviceLost
  split
  · exact h.trans h1 (h.transportClose d1)
  · exact h.refl d

theorem expire (t : TimerId) (d : Dev)
    (hping : t = .ping → d.keep.pingTimer ≠ none → R d d.onPingTimer)
    (hr : t = .wifiReconnect → Retargeting R) : R d (d.expire t) := by
  unfold Dev.expire
  split
  next => exact h.refl d
  next armed =>
    cases t with
    | ping => exact hping rfl armed
    | transfer k => exact h.timeoutBranch (onTransferTimeout_branch k d)
    | wifiReconnect => exact h.trans (h.relink d _ (by rfl)) (h.tryWifiReconnect (hr rfl) _)
    | serialReconnect => exact h.trans (h.relink d _ (by rfl)) (h.trySerialReconnect _)

theorem shot (hshow : Showing R) (s : Shot) (d : Dev) : R d (d.shot s) := by
  let d1 : Dev := { d with shots := d.shots.erase s }
  have h1 : R d d1 := h.same rfl rfl rfl rfl rfl
  unfold Dev.shot
  split
  · exact h.refl d
  · cases s with
    | requestDeviceInfo => exact h.trans h1 (h.send d1 _ _)
    | closeLink =>
      dsimp only
      split
      · exact h.trans h1 (h.transportClose d1)
      · exact h1
    | rearmScreen =>
      dsimp only
      split
      · exact h.trans h1 (h.startScreenStream hshow _ d1)
      · exact h1
    | trySerialReconnect => exact h.trans h1 (h.trySerialReconnect d1)

theorem call (hshow : Showing R) (c : Call) (d : Dev) (hd : ¬ c.Downloads)
    (hs : (Event.call c).StopsScreen d → Stopping R)
    (hr : (Event.call c).Retargets → Retargeting R) : R d (d.call c) := by
  cases c with
  | connectToDevice p => exact h.connectToDevice p d
  | connectToDeviceWifi hp => exact h.connectToDeviceWifi (hr trivial) hp d
  | disconnect => exact h.disconnect d hs
  | setPreferredSerialPort p => exact h.setPreferredSerialPort p d
  | stopScreenStream => exact h.stopScreenStream (hs trivial) d
  | _ => exact Handled.call h.toHandled _ d id hd hshow Call.noConfusion

/-! ## Steps -/

/-- **A step keeps to `R`**, a download, the ACKs, a PONG and the ping timer apart. -/
theorem step (hshow : Showing R) (e : Event) (d : Dev) (hstop : e.StopsScreen d → Stopping R)
    (hr : e.Retargets → Retargeting R)
    (hping : e = .expire .ping → d.keep.pingTimer ≠ none → R d.fresh d.fresh.onPingTimer)
    (hcall : ∀ c, e = .call c → ¬ c.Downloads)
    (hframe : ∀ f dialect, e = .frame f dialect → (f.cmd = CMD_ACK → Closed.Acks P) ∧
      (f.cmd = CMD_PONG → Ponging R) ∧
      (f.cmd = CMD_FILE_READ_DATA → ∀ a : Dev, R a (a.handleFileReadData f.payload))) :
    R d.fresh (step e d) := by
  unfold Device.step Dev.handle
  cases e with
  | call c => exact h.call hshow c d.fresh (hcall c rfl) hstop hr
  | frame f dialect =>
    obtain ⟨hack, hpong, hdata⟩ := hframe f dialect rfl
    let d1 : Dev := d.fresh.validated dialect
    have h1 : R d.fresh d1 := h.same rfl rfl rfl rfl rfl
    dsimp only
    split
    · exact h.trans h1 (h.onFrameReceived f d1 hack hpong fun hd => hdata hd _)
    · exact h.refl d.fresh
  | workerValidated dialect =>
    dsimp only
    split
    · exact h.same rfl rfl rfl rfl rfl
    · exact h.refl _
  | expire t => exact h.expire t _ (fun ht => hping (congrArg Event.expire ht)) fun ht => hr ht
  | shot s => exact h.shot hshow s _
  | serialError => exact h.serialClose _
  | transportError msg => exact h.emit _ rfl
  | workerConnected =>
    dsimp only
    split
    · exact h.onWorkerConnected _
    · exact h.refl _
  | workerDisconnected => exact h.onWorkerDisconnected _
  | screenPortReady port =>
    dsimp only
    split
    · exact h.relink _ _ (by rfl)
    · exact h.refl _
  | inboundActivity =>
    dsimp only
    split
    · exact h.same rfl rfl rfl rfl rfl
    · exact h.refl _
  | deviceFound p => exact h.onDeviceFound p _
  | deviceLost p => exact h.onDeviceLost p _
  | setMdnsDiscovery present => exact h.relink _ _ (by rfl)
  | serviceFound address port =>
    dsimp only
    split
    · exact h.onServiceFound (hr trivial) _ _ _
    · exact h.refl _
  | env e => exact h.same rfl rfl rfl rfl rfl

end HandledTcp

namespace FramedTcp

variable {P : Out → Prop} {R : Dev → Dev → Prop} (h : FramedTcp P R)
include h

theorem onPingTimer (d : Dev) (hs : d.linkDead → d.screen.streaming = true → Stopping R) :
    R d d.onPingTimer := by
  let d1 : Dev := { d with keep := { d.keep with missedPongs := d.keep.missedPongs + 1 } }
  have h1 : R d d1 := h.same rfl rfl rfl rfl
  unfold Dev.onPingTimer
  split
  next => exact h.refl d
  next idle =>
    have alive : d.isConnected = true ∧ d.keep.suspended = false := by simpa using idle
    dsimp only
    split
    next silent =>
      have dead : d.linkDead := ⟨alive.1, alive.2, silent⟩
      exact h.trans (h.trans h1 (h.handled.stopStreaming d1 (hs dead))) (h.handled.transportClose _)
    next =>
      let d2 : Dev := { d1 with
        crc := alternateTxDialect d1.crc
        keep := { d1.keep with lastPingTime := d1.env.now } }
      have h2 : R d d2 := h.same rfl rfl rfl rfl
      exact h.trans h2 (h.handled.send d2 CMD_PING [])

/-- **A step keeps to `R`**, a download and the ACKs apart. -/
theorem step (hshow : Showing R) (e : Event) (d : Dev) (hstop : e.StopsScreen d → Stopping R)
    (hr : e.Retargets → Retargeting R)
    (hcall : ∀ c, e = .call c → ¬ c.Downloads)
    (hframe : ∀ f dialect, e = .frame f dialect → (f.cmd = CMD_ACK → Closed.Acks P) ∧
      (f.cmd = CMD_FILE_READ_DATA → ∀ a : Dev, R a (a.handleFileReadData f.payload))) :
    R d.fresh (step e d) := by
  refine h.handled.step hshow e d hstop hr (fun he armed => ?_) hcall fun f dialect hf => ?_
  · subst he
    exact h.onPingTimer d.fresh fun dead on => hstop ⟨armed, dead, on⟩
  · obtain ⟨hack, hdata⟩ := hframe f dialect hf
    exact ⟨hack, fun _ d => h.same rfl rfl rfl rfl, hdata⟩

end FramedTcp

theorem Linking.step {P : Out → Prop} {R : Dev → Dev → Prop} (h : Linking P R) (e : Event) (d : Dev)
    (hcall : ∀ c, e = .call c → ¬ c.Downloads)
    (hframe : ∀ f dialect, e = .frame f dialect → (f.cmd = CMD_ACK → Closed.Acks P) ∧
      (f.cmd = CMD_FILE_READ_DATA → ∀ a : Dev, R a (a.handleFileReadData f.payload))) :
    R d.fresh (step e d) :=
  h.framed.step h.showing e d (fun _ => h.stopping) (fun _ => h.retargeting) hcall hframe

/-! ## Every output allowed -/

section
variable {R : Dev → Dev → Prop} (h : HandledTcp (fun _ => True) R)
  (hdown : ∀ (d : Dev) (dl : Download), R d { d with download := dl })
include h hdown

theorem HandledTcp.handleFileReadData (payload : List UInt8) (d : Dev) :
    R d (d.handleFileReadData payload) := by
  have put {a : Dev} (ha : R d a) (o : Out) : R d (a.put o) := h.trans ha (h.put a o trivial)
  unfold Dev.handleFileReadData
  split
  · exact h.refl d
  · dsimp only
    split
    · split
      · exact put (put (hdown d _) _) _
      · exact put (hdown d _) _
    · exact hdown d _

/-- **A step keeps to `R`** where `R` also holds across a change of the download, a PONG and the
ping timer apart. -/
theorem HandledTcp.step_all (hshow : Showing R) (e : Event) (d : Dev)
    (hstop : e.StopsScreen d → Stopping R) (hr : e.Retargets → Retargeting R)
    (hping : e = .expire .ping → d.keep.pingTimer ≠ none → R d.fresh d.fresh.onPingTimer)
    (hpong : ∀ f dialect, e = .frame f dialect → f.cmd = CMD_PONG → Ponging R) :
    R d.fresh (Device.step e d) := by
  by_cases hd : ∃ remotePath localPath, e = .call (.downloadFile remotePath localPath)
  · obtain ⟨remotePath, localPath, rfl⟩ := hd
    exact h.trans (hdown d.fresh _) (h.send _ _ _)
  · refine h.step hshow e d hstop hr hping (fun c hc hdown => ?_) fun f dialect hf =>
      ⟨fun _ _ _ => trivial, hpong f dialect hf, fun _ a => h.handleFileReadData hdown f.payload a⟩
    cases c with
    | downloadFile remotePath localPath => exact hd ⟨remotePath, localPath, hc⟩
    | _ => exact hdown

end

/-- **A step keeps to `R`** where `R` also holds across a change of the download. -/
theorem FramedTcp.step_all {R : Dev → Dev → Prop} (h : FramedTcp (fun _ => True) R)
    (hdown : ∀ (d : Dev) (dl : Download), R d { d with download := dl }) (hshow : Showing R)
    (e : Event) (d : Dev) (hstop : e.StopsScreen d → Stopping R)
    (hr : e.Retargets → Retargeting R) : R d.fresh (Device.step e d) := by
  refine h.handled.step_all hdown hshow e d hstop hr (fun he armed => ?_) fun _ _ _ _ d => ?_
  · subst he
    exact h.onPingTimer d.fresh fun dead on => hstop ⟨armed, dead, on⟩
  · exact h.same rfl rfl rfl rfl

end QMon.Device
