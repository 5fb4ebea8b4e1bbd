import QMonstatek.Device.ScreenBuffer
import QMonstatek.Lib.Simulation
import QMonstatek.Transport.ScreenStream
import QMonstatek.Transport.WifiLink

/-!
# The mirrored screen

Screen frames come over USB as `CMD_SCREEN_FRAME` frames, decoded on the GUI thread, and over WiFi
as datagrams, decoded by the socket worker and posted to the GUI thread.  Either way the finished
image goes to the canvas of `MonoDisplay.qml`.

`setTransport` leaves only the active transport connected to the device object, so an image that is
posted when the device has gone back to USB reaches nobody.

`Mirror`   the device object with its screen members, the worker, the images on their way and the
           canvas;
`Viewing`  what it is for: the pictures that are on their way and those that have been shown.

`mirrored` is the refinement: over any run the mirror shows the pictures of the frames that came
over the active transport, point by point, each once and in order.
-/

namespace QMon.Screen
open Rpc Device Transport NetworkWorker

def CMD_SCREEN_FRAME : UInt8 := 0x12

inductive ScreenSignal where
  | screenImageReady (image : QImage)
  | screenFrameReceived

structure Mirror where
  dev : Dev := init
  worker : NetworkWorker := {}
  /-- the images posted by the worker, oldest first -/
  posted : List QImage := []
  screenBuffer : ScreenBuffer := {}
  lastScreenImage : Option QImage := none
  screenFrameCount : Nat := 0
  /-- `m_frame` of the canvas -/
  canvas : Option QImage := none
  signals : List ScreenSignal := []

/-- what can happen to the mirror -/
inductive Event where
  /-- a handler of the device object runs -/
  | device (e : Device.Event)
  /-- the worker runs a slot -/
  | slot (udpBind : Option UInt16) (o : Out)
  | network (e : TcpEvent)
  | datagram (p : List UInt8)
  /-- the oldest image posted by the worker reaches the facade -/
  | deliver

/-- the payload that `onFrameReceived` hands to `handleScreenFrame` -/
def screenPayload? (e : Device.Event) (d : Dev) : Option (List UInt8) :=
  match e with
  | .frame f _ => if d.isConnected ∧ f.cmd = CMD_SCREEN_FRAME then some f.payload else none
  | _ => none

namespace Mirror

def onWifiScreenFrame (image : QImage) (m : Mirror) : Mirror :=
  { m with
    lastScreenImage := some image
    screenFrameCount := m.screenFrameCount + 1
    canvas := some image
    signals := m.signals ++ [.screenImageReady image, .screenFrameReceived] }

/-- the signal of the facade, which `setTransport` disconnects -/
def screenFrame (image : QImage) (m : Mirror) : Mirror :=
  if m.dev.onWifi then m.onWifiScreenFrame image else m

/-- the same for a frame of the control link, if its size is right -/
def handleScreenFrame (payload : List UInt8) (m : Mirror) : Mirror :=
  let r := m.screenBuffer.update payload
  let m := { m with screenBuffer := r.1 }
  if r.2 then
    { m with
      lastScreenImage := some r.1.toImage
      screenFrameCount := m.screenFrameCount + 1
      canvas := some r.1.toImage
      signals := m.signals ++ [.screenImageReady r.1.toImage, .screenFrameReceived] }
  else m

/-- `m_screen.toImage()` of the worker, which updates its buffer with `fb` just before -/
def image? : WorkerOut → Option QImage
  | .screenFrame fb => some (({} : ScreenBuffer).update fb).1.toImage
  | _ => none

/-- the worker runs a slot, from a state without outputs -/
def fromWorker (run : NetworkWorker → NetworkWorker) (m : Mirror) : Mirror :=
  let w := run { m.worker with out := [] }
  { m with worker := w, posted := m.posted ++ w.out.filterMap image? }

def handle (e : Event) (m : Mirror) : Mirror :=
  match e with
  | .device e =>
    let payload := screenPayload? e m.dev
    let m := { m with dev := Device.step e m.dev }
    payload.elim m fun data => m.handleScreenFrame data
  | .slot udpBind o => m.fromWorker (Transport.slot udpBind o)
  | .network e => m.fromWorker (tcpEvent e)
  | .datagram p => m.fromWorker (takeDatagram p)
  | .deliver =>
    match m.posted with
    | [] => m
    | image :: rest => { m with posted := rest }.screenFrame image

end Mirror

/-! ## The pictures -/

structure Viewing where
  dev : Dev := init
  worker : NetworkWorker := {}
  onWay : List Picture := []
  shown : List Picture := []

namespace Viewing

/-- the picture in a framebuffer that the worker displays -/
def picture? : WorkerOut → Option Picture
  | .screenFrame fb => Picture.read fb
  | _ => none

def fromWorker (run : NetworkWorker → NetworkWorker) (v : Viewing) : Viewing :=
  let w := run { v.worker with out := [] }
  { v with worker := w, onWay := v.onWay ++ w.out.filterMap picture? }

def handle (e : Event) (v : Viewing) : Viewing :=
  match e with
  | .device e =>
    { v with
      dev := Device.step e v.dev
      shown := v.shown ++ ((screenPayload? e v.dev).bind Picture.read).toList }
  | .slot udpBind o => v.fromWorker (Transport.slot udpBind o)
  | .network e => v.fromWorker (tcpEvent e)
  | .datagram p => v.fromWorker (takeDatagram p)
  | .deliver =>
    match v.onWay with
    | [] => v
    | pic :: rest =>
      { v with onWay := rest, shown := if v.dev.onWifi then v.shown ++ [pic] else v.shown }

end Viewing

/-- green on near-black, in squares of 4 by 4 -/
def shownAs (pic : Picture) : QImage := pic.image 0xFF00FF66 0xFF0A0A0A

/-- the mirror shows what is viewed -/
structure Mirrors (v : Viewing) (m : Mirror) : Prop where
  dev : m.dev = v.dev
  worker : m.worker = v.worker
  fgColor : m.screenBuffer.fgColor = 0xFF00FF66
  bgColor : m.screenBuffer.bgColor = 0xFF0A0A0A
  posted : m.posted = v.onWay.map shownAs
  lastScreenImage : m.lastScreenImage = v.shown.getLast?.map shownAs
  screenFrameCount : m.screenFrameCount = v.shown.length
  canvas : m.canvas = v.shown.getLast?.map shownAs
  signals : m.signals =
    v.shown.flatMap fun pic => [.screenImageReady (shownAs pic), .screenFrameReceived]

theorem shownAs_inj {p q : Picture} (h : shownAs p = shownAs q) : p = q :=
  Picture.image_inj (by decide) h

/-! ## What the worker displays -/

/-- every framebuffer handed on is one of a picture -/
def Framed (out : List WorkerOut) : Prop :=
  ∀ fb, .screenFrame fb ∈ out → ∃ pic : Picture, fb = pic.fb

theorem framed_nil : Framed [] := by
  intro fb h
  cases h

section
variable {w : NetworkWorker}

theorem framed_put (h : Framed w.out) {o : WorkerOut}
    (ho : ∀ fb, o = .screenFrame fb → ∃ pic : Picture, fb = pic.fb) : Framed (w.put o).out := by
  intro fb hfb
  rcases List.mem_append.mp hfb with hold | hnew
  · exact h fb hold
  · exact ho fb (List.mem_singleton.mp hnew).symm

/-- an output that is no frame -/
theorem framed_plain (h : Framed w.out) {o : WorkerOut} (ho : ∀ fb, o ≠ .screenFrame fb) :
    Framed (w.put o).out :=
  framed_put h fun fb hfb => absurd hfb (ho fb)

theorem framed_written (h : Framed w.out) (fs : List (List UInt8)) :
    Framed (fs.foldl (fun w f => w.put (.tcpWrite f)) w).out := by
  induction fs generalizing w with
  | nil => exact h
  | cons f fs ih =>
    apply ih
    exact framed_plain h (by simp)

theorem framed_onTcpDisconnected (h : Framed w.out) : Framed w.onTcpDisconnected.out :=
  framed_plain h (by simp)

theorem framed_onTcpError (h : Framed w.out) (message : String) :
    Framed (w.onTcpError message).out := by
  have hput : Framed (w.put (.socketError message)).out := framed_plain h (by simp)
  unfold onTcpError
  dsimp only
  split
  · exact framed_plain hput (by simp)
  · exact hput

theorem framed_tcpAbort (h : Framed w.out) : Framed w.tcpAbort.out := by
  unfold tcpAbort
  split
  · exact framed_onTcpDisconnected h
  · exact h

theorem framed_connectToHost (h : Framed w.out) (host : String) (port : UInt16)
    (udpBind : Option UInt16) : Framed (w.connectToHost host port udpBind).out := by
  have hfree : Framed (if w.tcp ≠ .Unconnected then w.tcpAbort else w).out := by
    split
    · exact framed_tcpAbort h
    · exact h
  unfold connectToHost
  dsimp only
  generalize (if w.tcp ≠ .Unconnected then w.tcpAbort else w) = w1 at hfree ⊢
  refine framed_plain (framed_plain (w := if w1.udpPort = 0 then _ else w1) ?_ (by simp)) (by simp)
  split <;> exact hfree

theorem framed_writeData (h : Framed w.out) (data : List UInt8) :
    Framed (w.writeData data).out := by
  unfold writeData
  split
  · split <;> exact h
  · exact framed_plain h (by simp)

theorem framed_slot (h : Framed w.out) (udpBind : Option UInt16) (o : Out) :
    Framed (Transport.slot udpBind o w).out := by
  unfold Transport.slot
  split
  · exact framed_writeData h _
  · exact framed_connectToHost h _ _ udpBind
  · unfold disconnectFromHost
    dsimp only
    split <;> exact h
  · exact h
  · exact h
  · exact h

theorem framed_tcpEvent (h : Framed w.out) (e : TcpEvent) : Framed (w.tcpEvent e).out := by
  unfold tcpEvent
  split <;> split
  · exact framed_plain (framed_written (w := { w with tcp := .Connected }) h _) (by simp)
  · exact h
  · exact framed_onTcpError (w := { w with tcp := .Unconnected }) h _
  · exact h
  · exact framed_onTcpError h _
  · exact h
  · exact framed_onTcpDisconnected h
  · exact h

/-- the framebuffer of a valid datagram has its 1024 bytes -/
theorem framed_display (h : Framed w.out) {p : List UInt8} (hp : ValidDgram p) :
    Framed (display p w).out := by
  refine framed_put (w := { w with lastSeq := _, screen := _ }) h fun fb hfb => ?_
  obtain rfl : dgramFb p = fb := WorkerOut.screenFrame.inj hfb
  exact Picture.exists_fb hp.fb_length

theorem framed_takeDatagram (h : Framed w.out) (p : List UInt8) :
    Framed (w.takeDatagram p).out := by
  by_cases hp : ValidDgram p
  · by_cases hactive : w.screenActive = true
    · rw [takeDatagram_valid hp hactive]
      dsimp only
      split
      · exact h
      · have hlatched : Framed (if w.epochKnown = true then w else
            { w with epoch := dgramEpoch p, epochKnown := true }).out := by
          split <;> exact h
        generalize (if w.epochKnown = true then w else
            { w with epoch := dgramEpoch p, epochKnown := true }) = w1 at hlatched ⊢
        split
        · exact hlatched
        · exact framed_display hlatched hp
    · unfold takeDatagram
      rw [if_pos hactive]
      exact h
  · rw [takeDatagram_invalid hp]
    exact h

end

/-! ## The refinement -/

section
variable {v : Viewing} {m : Mirror}

theorem image?_eq {o : WorkerOut} (h : ∀ fb, o = .screenFrame fb → ∃ pic : Picture, fb = pic.fb) :
    Mirror.image? o = (Viewing.picture? o).map shownAs := by
  cases o with
  | screenFrame fb =>
    obtain ⟨pic, hfb⟩ := h fb rfl
    show some (({} : ScreenBuffer).update fb).1.toImage = (Picture.read fb).map shownAs
    rw [hfb, Picture.read_fb, (ScreenBuffer.toImage_fb {} pic).1]
    rfl
  | _ => rfl

theorem images_eq {out : List WorkerOut} (h : Framed out) :
    out.filterMap Mirror.image? = (out.filterMap Viewing.picture?).map shownAs := by
  induction out with
  | nil => rfl
  | cons o out ih =>
    have ho : Mirror.image? o = (Viewing.picture? o).map shownAs :=
      image?_eq fun fb hfb => h fb (hfb ▸ List.mem_cons_self)
    have hrest := ih fun fb hfb => h fb (List.mem_cons_of_mem o hfb)
    cases hpic : Viewing.picture? o with
    | none =>
      rw [List.filterMap_cons_none hpic, List.filterMap_cons_none (by rw [ho, hpic]; rfl), hrest]
    | some pic =>
      rw [List.filterMap_cons_some hpic, List.filterMap_cons_some (by rw [ho, hpic]; rfl), hrest,
        List.map_cons]

/-- a picture comes in -/
theorem Mirrors.show (h : Mirrors v m) (pic : Picture) (onWay : List Picture) :
    Mirrors { v with onWay := onWay, shown := v.shown ++ [pic] }
      ({ m with posted := onWay.map shownAs }.onWifiScreenFrame (shownAs pic)) where
  dev := h.dev
  worker := h.worker
  fgColor := h.fgColor
  bgColor := h.bgColor
  posted := rfl
  lastScreenImage := by
    rw [List.getLast?_concat]
    rfl
  screenFrameCount := by
    rw [List.length_append]
    exact congrArg (· + 1) h.screenFrameCount
  canvas := by
    rw [List.getLast?_concat]
    rfl
  signals := by
    rw [List.flatMap_append, ← h.signals]
    rfl

theorem Mirrors.screenFrame (h : Mirrors v m) (pic : Picture) (onWay : List Picture) :
    Mirrors { v with onWay := onWay, shown := if v.dev.onWifi then v.shown ++ [pic] else v.shown }
      ({ m with posted := onWay.map shownAs }.screenFrame (shownAs pic)) := by
  have hwired : m.dev.onWifi = v.dev.onWifi := congrArg Dev.onWifi h.dev
  unfold Mirror.screenFrame
  by_cases hwifi : v.dev.onWifi = true
  · rw [if_pos hwifi, if_pos (hwired.trans hwifi)]
    exact h.show pic onWay
  · rw [if_neg hwifi, if_neg (ne_of_eq_of_ne hwired hwifi)]
    exact { h with posted := rfl }

theorem Mirrors.fromWorker (h : Mirrors v m) {run : NetworkWorker → NetworkWorker}
    (hrun : ∀ w : NetworkWorker, Framed w.out → Framed (run w).out) :
    Mirrors (v.fromWorker run) (m.fromWorker run) := by
  have hout : Framed (run { v.worker with out := [] }).out := hrun _ framed_nil
  refine { h with worker := ?_, posted := ?_ }
  · show run { m.worker with out := [] } = run { v.worker with out := [] }
    rw [h.worker]
  · show m.posted ++ List.filterMap _ (run { m.worker with out := [] }).out =
      (v.onWay ++ List.filterMap _ (run { v.worker with out := [] }).out).map shownAs
    rw [h.worker, images_eq hout, h.posted, List.map_append]

/-- the same with a buffer that holds the picture -/
theorem Mirrors.decoded (h : Mirrors v m) {b : ScreenBuffer} {pic : Picture}
    (himage : b.toImage = shownAs pic) (hfg : b.fgColor = 0xFF00FF66)
    (hbg : b.bgColor = 0xFF0A0A0A) :
    Mirrors { v with shown := v.shown ++ [pic] }
      ({ m with screenBuffer := b }.onWifiScreenFrame b.toImage) := by
  have hbuffer : Mirrors v { m with screenBuffer := b } := { h with fgColor := hfg, bgColor := hbg }
  have hshow := hbuffer.show pic v.onWay
  rw [← h.posted, ← himage] at hshow
  exact hshow

theorem handleScreenFrame_rejected {payload : List UInt8} (h : Picture.read payload = none) :
    m.handleScreenFrame payload = m := by
  unfold Mirror.handleScreenFrame
  rw [ScreenBuffer.update_of_read_none h]
  dsimp only
  rw [if_neg Bool.false_ne_true]

/-- an accepted frame goes the way of a posted image -/
theorem handleScreenFrame_accepted {payload : List UInt8} {r : ScreenBuffer × Bool}
    (hr : m.screenBuffer.update payload = r) (h : r.2 = true) :
    m.handleScreenFrame payload =
      { m with screenBuffer := r.1 }.onWifiScreenFrame r.1.toImage := by
  unfold Mirror.handleScreenFrame Mirror.onWifiScreenFrame
  rw [hr]
  dsimp only
  rw [if_pos h]

theorem Mirrors.handleScreenFrame (h : Mirrors v m) (payload : List UInt8) :
    Mirrors { v with shown := v.shown ++ (Picture.read payload).toList }
      (m.handleScreenFrame payload) := by
  cases hread : Picture.read payload with
  | none =>
    rw [handleScreenFrame_rejected hread, Option.toList_none, List.append_nil]
    exact h
  | some pic =>
    have hshown := ScreenBuffer.toImage_fb m.screenBuffer pic
    have hcolors := ScreenBuffer.update_colors m.screenBuffer pic.fb
    rw [h.fgColor, h.bgColor] at hshown hcolors
    rw [Picture.read_eq_some.mp hread, handleScreenFrame_accepted rfl hshown.2]
    exact h.decoded hshown.1 hcolors.1 hcolors.2

/-- **One step** -/
theorem Mirrors.handle (h : Mirrors v m) (e : Event) : Mirrors (v.handle e) (m.handle e) := by
  cases e with
  | device e =>
    have hstep : Mirrors { v with dev := Device.step e v.dev }
        { m with dev := Device.step e v.dev } := { h with dev := rfl }
    unfold Viewing.handle Mirror.handle
    dsimp only
    rw [h.dev]
    cases screenPayload? e v.dev with
    | none =>
      rw [Option.bind_none, Option.toList_none, List.append_nil]
      exact hstep
    | some data => exact hstep.handleScreenFrame data
  | slot udpBind o => exact h.fromWorker fun w hw => framed_slot hw udpBind o
  | network e => exact h.fromWorker fun w hw => framed_tcpEvent hw e
  | datagram p => exact h.fromWorker fun w hw => framed_takeDatagram hw p
  | deliver =>
    unfold Viewing.handle Mirror.handle
    have hposted := h.posted
    cases hway : v.onWay with
    | nil =>
      rw [hway] at hposted
      rw [hposted]
      exact h
    | cons pic rest =>
      rw [hway] at hposted
      rw [hposted]
      exact h.screenFrame pic rest

end

end QMon.Screen
