import QMonstatek.Device.Line

/-!
# The screen stream across a drop of the WiFi link

Starting the stream notes that the user wants it (`wanted`); a WiFi link that comes up for a user
who wants it starts a shot that sends SCREEN_START again.

`DeclaresDead e d`  the ping timer finds the link dead while the stream is on;
`Rearms e d`        a WiFi link that comes up starts the shot, and the shot sends SCREEN_START;
`Survives es d`     the wish lasts through the run `es`, and every step of it rearms.

A handler that does not stop the stream leaves the wish (`wanted_step`) and one that stops it
ends the wish, the ping timer included (`StopsScreen.unwanted`).
-/

namespace QMon.Device
open Rpc

/-! ## The wish -/

def SameWish (d d' : Dev) : Prop := d'.screen.wanted = d.screen.wanted

theorem sameWish_framed : FramedTcp (fun _ => True) SameWish where
  refl _ := rfl
  trans h h' := h'.trans h
  same _ hs _ _ := congrArg Screen.wanted hs
  put _ _ _ := rfl
  quiet _ _ := trivial
  relink _ _ _ := rfl
  lost _ := rfl
  ports _ _ := trivial
  asks _ _ := trivial

def KeepsWish (d d' : Dev) : Prop := d.screen.wanted = true → d'.screen.wanted = true

theorem SameWish.keeps {d d' : Dev} (h : SameWish d d') : KeepsWish d d' := fun hd => h.trans hd

theorem keepsWish_framed : FramedTcp (fun _ => True) KeepsWish where
  refl _ := id
  trans h h' hd := h' (h hd)
  same hl hs hd ho := (sameWish_framed.same hl hs hd ho).keeps
  put d o ho := (sameWish_framed.put d o ho).keeps
  quiet _ _ := trivial
  relink d l hl := (sameWish_framed.relink d l hl).keeps
  lost d := (sameWish_framed.lost d).keeps
  ports _ _ := trivial
  asks _ _ := trivial

theorem keepsWish_showing : Showing KeepsWish := fun _ _ _ => rfl

/-- a handler that does not stop the stream leaves the wish -/
theorem wanted_step {e : Event} {d : Dev} (h : d.screen.wanted = true) (hs : ¬ e.StopsScreen d) :
    (step e d).screen.wanted = true :=
  keepsWish_framed.step_all (fun _ _ => id) keepsWish_showing e d (fun h' => absurd h' hs)
    (fun _ _ _ => id) h

/-! ## What ends it -/

theorem stopStreaming_wanted {d : Dev} (hon : d.screen.streaming = true) :
    (if d.screen.streaming then d.stopScreenStream else d).screen.wanted = false := by
  rw [if_pos hon]
  rfl

theorem disconnect_wanted {d : Dev} (hon : d.screen.streaming = true) :
    d.disconnect.screen.wanted = false := by
  let d1 : Dev := { d.clearSerialReconnect with
    keep := { d.keep with suspended := false, pingTimer := none }
    link := { d.clearSerialReconnect.link with
      wifiReconnectTimer := none, wifiWasConnected := false, wifiReconnectAttempts := 0 } }
  have stopped := stopStreaming_wanted (d := d1) hon
  unfold Dev.disconnect
  exact (sameWish_framed.handled.transportClose _).trans stopped

theorem onPingTimer_wanted {d : Dev} (hdead : d.linkDead) (hon : d.screen.streaming = true) :
    d.onPingTimer.screen.wanted = false := by
  let d1 : Dev := { d with keep := { d.keep with missedPongs := d.keep.missedPongs + 1 } }
  obtain ⟨hc, hrun, silent⟩ := hdead
  unfold Dev.onPingTimer
  rw [if_neg (by rw [hc, hrun]; simp)]
  dsimp only
  rw [if_pos silent]
  exact (sameWish_framed.handled.transportClose _).trans (stopStreaming_wanted (d := d1) hon)

/-- a handler that stops the stream ends the wish -/
theorem Event.StopsScreen.unwanted {e : Event} {d : Dev} (h : e.StopsScreen d) :
    (step e d).screen.wanted = false := by
  unfold Event.StopsScreen at h
  split at h
  · rfl
  · exact disconnect_wanted (d := d.fresh) h
  · have ran : step (.expire .ping) d = d.fresh.onPingTimer := if_neg h.1
    rw [ran]
    exact onPingTimer_wanted (d := d.fresh) h.2.1 h.2.2
  · exact h.elim

/-! ## Re-arming -/

def Rearms (e : Event) (d : Dev) : Prop :=
  match e with
  | .workerConnected =>
    d.link.wifiCreated = true → d.onWifi = true → Shot.rearmScreen ∈ (step e d).shots
  | .shot .rearmScreen => Shot.rearmScreen ∈ d.shots → d.isConnected = true →
      ∃ f dialect, Out.tx d.link.transport f dialect ∈ (step e d).out ∧ f.cmd = CMD_SCREEN_START
  | _ => True

theorem onTransportConnected_true_rearms {d : Dev} (hw : d.onWifi = true)
    (h : d.screen.wanted = true) : Shot.rearmScreen ∈ (d.onTransportConnected true).shots := by
  let d1 : Dev := { d with link := { d.link with
    wifiWasConnected := true, wifiReconnectAttempts := 0, wifiReconnectTimer := none } }
  let d2 : Dev := if d1.link.pendingSessionStart then
    Dev.startSession { d1 with link := { d1.link with pendingSessionStart := false } } else d1
  have h2 : d2.onWifi = true ∧ d2.screen.wanted = true := by
    dsimp only [d2]
    split
    · refine ⟨?_, (sameWish_framed.startSession _).trans h⟩
      rw [Dev.onWifi, startSession_link]
      exact hw
    · exact ⟨hw, h⟩
  have connected : d.onTransportConnected true =
      (if d2.onWifi ∧ d2.screen.wanted then d2.startShot .rearmScreen else d2).emit
        (.connectionChanged true) := by
    unfold Dev.onTransportConnected
    dsimp only
    rw [if_pos hw]
  rw [connected, if_pos h2]
  exact List.mem_append_right _ (List.mem_singleton_self _)

theorem sendCommand_tx {d : Dev} (hc : d.isConnected = true) (cmd : UInt8) (payload : List UInt8) :
    ∃ f dialect, Out.tx d.link.transport f dialect ∈ (d.sendCommand cmd payload).out ∧
      f.cmd = cmd := by
  refine ⟨⟨cmd, d.seqCounter, payload⟩, d.crc.txDialect, ?_, rfl⟩
  unfold Dev.isConnected Link.isConnected at hc
  unfold Dev.sendCommand Dev.transportSend
  cases ht : d.link.transport with
  | serial =>
    rw [ht] at hc
    dsimp only at hc ⊢
    rw [if_pos hc]
    exact List.mem_append_right _ (List.mem_singleton_self _)
  | wifi => exact List.mem_append_right _ (List.mem_singleton_self _)

theorem startScreenStream_tx {d : Dev} (hc : d.isConnected = true) (fps : Int) :
    ∃ f dialect, Out.tx d.link.transport f dialect ∈ (d.startScreenStream fps).out ∧
      f.cmd = CMD_SCREEN_START := by
  have sent (payload armed : List UInt8) :
      ∃ f dialect, Out.tx d.link.transport f dialect ∈ (if d.onWifi
        then (d.put .requestArm).sendCommand CMD_SCREEN_START armed
        else d.sendCommand CMD_SCREEN_START payload).out ∧ f.cmd = CMD_SCREEN_START := by
    split
    · exact sendCommand_tx (d := d.put .requestArm) hc _ _
    · exact sendCommand_tx hc _ _
  obtain ⟨f, dialect, hf, hcmd⟩ := sent _ _
  exact ⟨f, dialect, List.mem_append_left _ hf, hcmd⟩

theorem rearms_of_wanted (e : Event) {d : Dev} (h : d.screen.wanted = true) : Rearms e d := by
  unfold Rearms
  split
  · intro hcreated hw
    have up : step .workerConnected d = Dev.onTransportConnected true
        { d.fresh with link := { d.link with wifiConnected := true } } :=
      (if_pos hcreated).trans (if_pos hw)
    rw [up]
    exact onTransportConnected_true_rearms hw h
  · intro hpending hc
    let d1 : Dev := { d.fresh with shots := d.shots.erase .rearmScreen }
    have sent : step (.shot .rearmScreen) d = d1.startScreenStream d1.screen.fps :=
      (if_neg (not_not_intro hpending)).trans (if_pos ⟨h, hc⟩)
    rw [sent]
    exact startScreenStream_tx (d := d1) hc _
  · trivial

/-! ## Runs -/

/-- in the run `es` the wish is never lost, and every re-arm happens -/
def Survives (es : List Event) (d : Dev) : Prop :=
  Run.Throughout step (fun d => d.screen.wanted = true) es d ∧ Run.Along step Rearms es d

theorem survives_iff_along {d : Dev} (h : d.screen.wanted = true) (es : List Event) :
    Survives es d ↔ Run.Along step (fun e d => ¬ e.StopsScreen d) es d := by
  have exact_step (e : Event) (d : Dev) (_ : True) (h : d.screen.wanted = true) :
      (step e d).screen.wanted = true ↔ ¬ e.StopsScreen d := by
    refine ⟨fun hw hs => ?_, wanted_step h⟩
    rw [hs.unwanted] at hw
    exact Bool.noConfusion hw
  rw [← Run.throughout_iff_along step (fun _ _ _ => trivial) exact_step es d trivial h]
  refine ⟨And.left, fun hw => ⟨hw, ?_⟩⟩
  exact Run.along_of_throughout step (fun e d (h : d.screen.wanted = true) _ =>
    rearms_of_wanted e h) es d hw

/-- the ping timer finds the link dead while the stream is on -/
def DeclaresDead (e : Event) (d : Dev) : Prop :=
  e = .expire .ping ∧ d.keep.pingTimer ≠ none ∧ d.linkDead ∧ d.screen.streaming = true

theorem stopsScreen_iff {e : Event} (d : Dev)
    (he : e ≠ .call .stopScreenStream ∧ e ≠ .call .disconnect) :
    e.StopsScreen d ↔ DeclaresDead e d := by
  unfold Event.StopsScreen DeclaresDead
  split
  · exact absurd rfl he.1
  · exact absurd rfl he.2
  · exact (and_iff_right rfl).symm
  next hother => exact ⟨False.elim, fun h => hother h.1⟩

/-- **The stream the user started survives** the drops of a run in which the user neither stops it
nor disconnects, iff the ping timer never finds the link dead while the stream is on. -/
theorem survives_iff (fps : Int) (d : Dev) (es : List Event)
    (hes : ∀ e ∈ es, e ≠ .call .stopScreenStream ∧ e ≠ .call .disconnect) :
    Survives es (step (.call (.startScreenStream fps)) d) ↔
      Run.Along step (fun e d => ¬ DeclaresDead e d) es
        (step (.call (.startScreenStream fps)) d) := by
  rw [survives_iff_along (by rfl)]
  exact Run.along_iff_of_along step (I := fun _ => True) (fun _ _ _ _ => trivial)
    (fun e d _ he => not_congr (stopsScreen_iff d he)) es _ trivial
    (Run.along_of_forall step es _ fun e he _ => hes e he)

/-- an M1 on WiFi whose stream is on -/
def overWifi : Dev :=
  Run.exec step [.call (.connectToDeviceWifi "192.168.1.50:3333"), .workerConnected] init

/-- the link is found dead, is closed, and comes up again with the next attempt -/
def silence : List Event :=
  [.env { now := 20001 }, .expire .ping, .workerDisconnected, .expire .wifiReconnect,
    .workerConnected]

theorem survives_loss : Survives [.workerDisconnected, .expire .wifiReconnect, .workerConnected]
    (step (.call (.startScreenStream 5)) overWifi) :=
  (survives_iff 5 overWifi _ (by simp)).mpr
    ⟨fun h => absurd h.1 (by simp), fun h => absurd h.1 (by simp), fun h => absurd h.1 (by simp),
      trivial⟩

/-- **The keepalive forgets what the user wants**: after 20 s without a word the link is closed
with the wish, and the reconnect does not re-arm the stream. -/
theorem silence_forgets :
    (step (.call (.startScreenStream 5)) overWifi).screen.wanted = true ∧
    ¬ Survives silence (step (.call (.startScreenStream 5)) overWifi) ∧
    (Run.exec step silence (step (.call (.startScreenStream 5)) overWifi)).onWifi = true ∧
    (Run.exec step silence (step (.call (.startScreenStream 5)) overWifi)).isConnected = true ∧
    Shot.rearmScreen ∉ (Run.exec step silence (step (.call (.startScreenStream 5)) overWifi)).shots
    := by
  refine ⟨rfl, fun h => ?_, by decide +kernel, by decide +kernel, by decide +kernel⟩
  exact absurd h.1.2.2.2.1 (by decide +kernel)

end QMon.Device
