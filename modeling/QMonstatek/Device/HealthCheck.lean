import QMonstatek.Device.Line

/-!
# The health check

The ping timer closes a link on six missed pongs or 20 s of silence, and sends a PING otherwise.
The count and the clock go on over an operation that suspends the timer: the first tick after it is
resumed may close the link before the device was asked anything.

`Health`          the device object with an account of its PINGs: `unanswered` since the timer was
                  last started, and the missed pongs that start found (`carried`);
`Closes d`        a tick of the ping timer closes the link;
`GivesChance e x` it does so only after a PING that no PONG has answered;
`Rested e x`      a tick before any PING was started with at most four missed pongs, and finds at
                  most 20 s of silence.

`givesChance_iff`: along every run the ticks give the device a chance iff they are rested.
-/

namespace QMon.Device
open Rpc

/-! ## The account -/

/-- the PINGs in `out`: the link is up where one is sent, and none is rejected -/
def pings (out : List Out) : Nat := (out.filterMap Out.command?).count (CMD_PING, [])

theorem pings_append (a b : List Out) : pings (a ++ b) = pings a + pings b := by
  rw [pings, List.filterMap_append, List.count_append]
  rfl

structure Health where
  dev : Dev := init
  /-- since the ping timer was last started, and no PONG has answered them -/
  unanswered : Nat := 0
  /-- the missed pongs at that start, none once a PONG came -/
  carried : Nat := 0

/-- from `d` to `d'` the ping timer was started: by a session, which sends its PING before, or by
the keepalive that is resumed -/
def Starts (d d' : Dev) : Prop :=
  0 < pings d'.out ∨ d.keep.pingTimer = none ∧ d'.keep.pingTimer ≠ none

instance (d d' : Dev) : Decidable (Starts d d') := inferInstanceAs (Decidable (_ ∨ _))

def Event.isPong : Event → Bool
  | .frame f _ => f.cmd == CMD_PONG
  | _ => false

def Event.isTick : Event → Bool
  | .expire .ping => true
  | _ => false

def Health.step (e : Event) (x : Health) : Health :=
  let d := Device.step e x.dev
  if e.isTick then { x with dev := d, unanswered := x.unanswered + pings d.out }
  else if e.isPong ∧ x.dev.isConnected then { dev := d }
  else if Starts x.dev d then { dev := d, carried := d.keep.missedPongs }
  else { x with dev := d }

/-- the ping timer closes the link: the serial port at once, the WiFi link by a request -/
def Closes (d : Dev) : Prop :=
  d.isConnected = true ∧ (step (.expire .ping) d).isConnected = false ∨
    .requestDisconnect ∈ (step (.expire .ping) d).out

instance (d : Dev) : Decidable (Closes d) := inferInstanceAs (Decidable (_ ∨ _))

def GivesChance (e : Event) (x : Health) : Prop :=
  e.isTick = true → Closes x.dev → 0 < x.unanswered

/-- the slot of the ping timer does something -/
structure Dev.Ticks (d : Dev) : Prop where
  timer : d.keep.pingTimer ≠ none
  up : d.isConnected = true
  running : d.keep.suspended = false

def Rested (e : Event) (x : Health) : Prop :=
  e.isTick = true → x.dev.Ticks → x.unanswered = 0 →
    x.carried ≤ 4 ∧ x.dev.env.now - x.dev.keep.lastInboundMs ≤ 20000

/-! ## A tick -/

section
variable {d : Dev}

theorem tick_idle (h : ¬ d.Ticks) : step (.expire .ping) d = d.fresh := by
  show d.fresh.expire .ping = d.fresh
  unfold Dev.expire
  split
  next => rfl
  next harmed =>
    refine if_pos ?_
    by_contra hup
    rw [not_or, not_not, Bool.not_eq_true] at hup
    exact h ⟨harmed, hup.1, hup.2⟩

theorem tick_eq (h : d.Ticks) : step (.expire .ping) d = d.fresh.onPingTimer := if_neg h.timer

theorem Dev.Ticks.not_idle (h : d.Ticks) :
    ¬ (¬ d.isConnected = true ∨ d.keep.suspended = true) := by
  rintro (hdown | hs)
  · exact hdown h.up
  · exact Bool.false_ne_true (h.running.symm.trans hs)

theorem tick_dead (h : d.Ticks) (hdead : d.linkDead) : Closes d := by
  let d1 : Dev := { d.fresh with keep := { d.keep with missedPongs := d.keep.missedPongs + 1 } }
  let d2 : Dev := if d1.screen.streaming then d1.stopScreenStream else d1
  have hlink : d2.link = d.link := (stopStreaming_sameLink d1).link
  have hclose : step (.expire .ping) d = d2.transportClose := by
    rw [tick_eq h]
    exact (if_neg h.not_idle).trans (if_pos hdead.2.2)
  unfold Closes
  rw [hclose, Dev.transportClose]
  split
  next hwifi => exact .inr (List.mem_append_right _ List.mem_cons_self)
  next hserial =>
    have ht : d2.link.transport = .serial := (not_onWifi_iff d2).mp hserial
    obtain ⟨hs, hline⟩ := serialClose_line d2
    refine .inl ⟨h.up, ?_⟩
    rw [Dev.isConnected, Link.isConnected, hline, ht]
    exact hs

theorem tick_alive (h : d.Ticks) (hdead : ¬ d.linkDead) :
    (step (.expire .ping) d).link = d.link ∧
      ∃ o, o.command? = some (CMD_PING, []) ∧ (step (.expire .ping) d).out = [o] := by
  let d1 : Dev := { d.fresh with
    keep := { d.keep with missedPongs := d.keep.missedPongs + 1, lastPingTime := d.env.now }
    crc := alternateTxDialect d.crc }
  have hsend : step (.expire .ping) d = d1.sendCommand CMD_PING [] := by
    rw [tick_eq h]
    have hheard : ¬ (d.keep.missedPongs + 1 ≥ 6 ∨ d.env.now - d.keep.lastInboundMs > 20000) :=
      fun hsilent => hdead ⟨h.up, h.running, hsilent⟩
    exact (if_neg h.not_idle).trans (if_neg hheard)
  obtain ⟨o, ho, -, hput⟩ := d1.sendCommand_eq CMD_PING []
  rw [hsend, hput]
  exact ⟨rfl, o, ho, rfl⟩

/-- **The ping timer closes the link** iff its slot runs and finds the link dead. -/
theorem closes_iff (d : Dev) : Closes d ↔ d.Ticks ∧ d.linkDead := by
  constructor
  · intro hclose
    by_cases h : d.Ticks
    · refine ⟨h, ?_⟩
      by_contra hdead
      obtain ⟨hlink, o, ho, hout⟩ := tick_alive h hdead
      rcases hclose with ⟨-, hdown⟩ | hmem
      · rw [Dev.isConnected, hlink] at hdown
        exact Bool.false_ne_true (hdown.symm.trans h.up)
      · rw [hout, List.mem_singleton] at hmem
        rw [← hmem] at ho
        cases ho
    · unfold Closes at hclose
      rw [tick_idle h] at hclose
      rcases hclose with ⟨hup, hdown⟩ | hmem
      · exact absurd (hdown.symm.trans hup) Bool.false_ne_true
      · exact absurd hmem List.not_mem_nil
  · rintro ⟨h, hdead⟩
    exact tick_dead h hdead

end

/-! ## What leaves the count alone -/

/-- the count of missed pongs is kept, or a PING was put out -/
structure Counted (d d' : Dev) : Prop where
  grows : pings d.out ≤ pings d'.out
  missed : d'.keep.missedPongs = d.keep.missedPongs ∨ 0 < pings d'.out

theorem Counted.of_same {d d' : Dev} (ho : d'.out = d.out)
    (hm : d'.keep.missedPongs = d.keep.missedPongs) : Counted d d' :=
  ⟨by rw [ho], .inl hm⟩

theorem Counted.trans {a b c : Dev} (h : Counted a b) (h' : Counted b c) : Counted a c := by
  refine ⟨h.grows.trans h'.grows, ?_⟩
  rcases h'.missed with hm' | hp'
  · rcases h.missed with hm | hp
    · exact .inl (hm'.trans hm)
    · exact .inr (Nat.lt_of_lt_of_le hp h'.grows)
  · exact .inr hp'

theorem Counted.put (d : Dev) (o : Out) : Counted d (d.put o) := by
  refine ⟨?_, .inl rfl⟩
  show pings d.out ≤ pings (d.out ++ [o])
  rw [pings_append]
  exact Nat.le_add_right _ _

/-- a session starts the count again, with a PING -/
theorem startSession_counted (d : Dev) : Counted d d.startSession := by
  let d1 : Dev := { d.resetCodec with
    keep := { d.keep with suspended := false, missedPongs := 0, lastInboundMs := d.env.now }
    crc := resetCrcDialect d.crc
    dialectResolved := false }
  let dp := d1.sendCommand CMD_PING []
  obtain ⟨o, ho, -, hping⟩ := d1.sendCommand_eq CMD_PING []
  obtain ⟨o', -, -, hlog⟩ := dp.sendCommand_eq CMD_SET_LOG_LEVEL
    [if dp.deviceLogVerbose then 3 else 0]
  have hout : d.startSession.out = d.out ++ [o] ++ [o'] := by
    show (dp.sendCommand CMD_SET_LOG_LEVEL [if dp.deviceLogVerbose then 3 else 0]).out = _
    rw [hlog]
    show dp.out ++ [o'] = _
    rw [show dp.out = d.out ++ [o] from congrArg Dev.out hping]
  have hone : pings [o] = 1 := by
    rw [pings, List.filterMap_cons_some ho]
    rfl
  have hpings : pings d.startSession.out = pings d.out + 1 + pings [o'] := by
    rw [hout, pings_append, pings_append, hone]
  exact ⟨by omega, .inr (by omega)⟩

theorem counted_handled : HandledTcp (fun _ => True) Counted where
  refl _ := .of_same rfl rfl
  trans := Counted.trans
  same _ _ _ ho hm := .of_same ho hm
  put d o _ := .put d o
  quiet _ _ := trivial
  relink _ _ _ := .of_same rfl rfl
  lost _ := .of_same rfl rfl
  startSession := startSession_counted
  ports _ _ := trivial
  asks _ _ := trivial

theorem step_counted {e : Event} (d : Dev) (htick : e.isTick = false) (hpong : e.isPong = false) :
    Counted d.fresh (step e d) := by
  refine counted_handled.step_all (fun _ _ => .of_same rfl rfl) (fun _ _ => .of_same rfl rfl) e d
    (fun _ _ => .of_same rfl rfl) (fun _ _ _ => .of_same rfl rfl) (fun he _ => ?_)
    fun f dialect he hcmd => ?_
  · subst he
    cases htick
  · subst he
    rw [Event.isPong, hcmd] at hpong
    cases hpong

/-- a frame that comes while the link is down goes unheard -/
theorem step_pong_down {e : Event} {d : Dev} (hpong : e.isPong = true)
    (hdown : ¬ d.isConnected = true) : step e d = d.fresh := by
  cases e with
  | frame f dialect => exact if_neg hdown
  | _ => cases hpong

theorem step_pong_missed {e : Event} {d : Dev} (hpong : e.isPong = true)
    (hup : d.isConnected = true) : (step e d).keep.missedPongs = 0 := by
  cases e with
  | frame f dialect =>
    have hcmd : f.cmd = CMD_PONG := eq_of_beq hpong
    let d1 : Dev := d.fresh.validated dialect
    have hstep : step (.frame f dialect) d = d1.noted.handlePong :=
      (if_pos hup).trans (if_pos hcmd)
    rw [hstep]
    rfl
  | _ => cases hpong

/-! ## Runs -/

/-- before any PING the count is what the start of the timer found -/
def Health.Carries (x : Health) : Prop :=
  x.dev.keep.pingTimer ≠ none → x.unanswered = 0 → x.dev.keep.missedPongs = x.carried

/-- a tick that closes the link comes after a PING, and any other one sends its own -/
theorem tick_carries {e : Event} {x : Health} (htick : e.isTick = true) (h : x.Carries)
    (hchance : GivesChance e x) : (Health.step e x).Carries := by
  have he : e = .expire .ping := by
    unfold Event.isTick at htick
    split at htick
    · rfl
    · cases htick
  subst he
  intro htimer hnone
  have hnone' : x.unanswered + pings (step (.expire .ping) x.dev).out = 0 := hnone
  have hopen : ¬ Closes x.dev := fun hclose =>
    absurd (hchance rfl hclose) (by omega)
  show (step (.expire .ping) x.dev).keep.missedPongs = x.carried
  by_cases hticks : x.dev.Ticks
  · have hdead : ¬ x.dev.linkDead := fun hdead => hopen ((closes_iff x.dev).mpr ⟨hticks, hdead⟩)
    obtain ⟨-, o, ho, hout⟩ := tick_alive hticks hdead
    rw [hout, pings, List.filterMap_cons_some ho] at hnone'
    cases hnone'
  · have htimer' : (step (.expire .ping) x.dev).keep.pingTimer ≠ none := htimer
    rw [tick_idle hticks] at htimer' ⊢
    exact h htimer' (by omega)

/-- **Step lemma** of the account. -/
theorem step_carries (e : Event) (x : Health) (h : x.Carries) (hchance : GivesChance e x) :
    (Health.step e x).Carries := by
  cases htick : e.isTick with
  | true => exact tick_carries htick h hchance
  | false =>
    unfold Health.step
    rw [if_neg (by rw [htick]; exact Bool.false_ne_true)]
    split
    next hpong =>
      intro _ _
      exact step_pong_missed hpong.1 hpong.2
    next hno =>
      split
      next hstarts =>
        intro _ _
        rfl
      next hkept =>
        rw [Starts, not_or] at hkept
        intro htimer hnone
        have htimer' : x.dev.keep.pingTimer ≠ none := fun hn => hkept.2 ⟨hn, htimer⟩
        show (step e x.dev).keep.missedPongs = x.carried
        rw [← h htimer' hnone]
        cases hpong : e.isPong with
        | true =>
          rw [step_pong_down hpong fun hup => hno ⟨hpong, hup⟩]
          rfl
        | false => exact (step_counted x.dev htick hpong).missed.resolve_right hkept.1

theorem givesChance_iff_rested (e : Event) (x : Health) (h : x.Carries) :
    GivesChance e x ↔ Rested e x := by
  have hdead (hticks : x.dev.Ticks) (hnone : x.unanswered = 0) : x.dev.linkDead ↔
      ¬ (x.carried ≤ 4 ∧ x.dev.env.now - x.dev.keep.lastInboundMs ≤ 20000) := by
    have hm : x.dev.keep.missedPongs = x.carried := h hticks.timer hnone
    rw [Dev.linkDead, hm, and_iff_right hticks.up, and_iff_right hticks.running]
    omega
  constructor
  · intro hchance htick hticks hnone
    by_contra hlate
    have hclose : Closes x.dev :=
      (closes_iff x.dev).mpr ⟨hticks, (hdead hticks hnone).mpr hlate⟩
    exact absurd (hchance htick hclose) (by omega)
  · intro hrested htick hclose
    obtain ⟨hticks, hlink⟩ := (closes_iff x.dev).mp hclose
    by_contra hnone
    have hnone' : x.unanswered = 0 := by omega
    exact (hdead hticks hnone').mp hlink (hrested htick hticks hnone')

/-- **The health check gives the device a chance** iff it is rested, in every run of the device
object. -/
theorem givesChance_iff (es : List Event) :
    Run.Along Health.step GivesChance es {} ↔ Run.Along Health.step Rested es {} := by
  have h0 : Health.Carries {} := fun htimer _ => absurd rfl htimer
  exact Run.along_iff_of_kept Health.step (I := Health.Carries) step_carries givesChance_iff_rested
    es {} h0

def clockAt (now : Int) : Env := { now := now, serialOpens := fun _ => true }

/-- five ticks without a PONG, and an erase of the inactive bank that the device acknowledges within
a second -/
def erased : List Event :=
  [.env (clockAt 0), .call (.connectToDevice "COM3")] ++
    (List.range 5).flatMap (fun i => [.env (clockAt (3000 * (i + 1))), .expire .ping]) ++
    [.call .eraseInactiveBank, .env (clockAt 16000), .frame { cmd := CMD_ACK, seq := 0 } .Correct,
      .env (clockAt 19000)]

/-- **The tick after the erase closes the link**, 3 s after the device answered and with no PING
since the timer was started. -/
theorem erased_closes :
    let x := Run.exec Health.step erased {}
    x.dev.keep.pingTimer = some 3000 ∧ x.dev.env.now - x.dev.keep.lastInboundMs = 3000 ∧
      x.carried = 5 ∧ x.unanswered = 0 ∧ Closes x.dev ∧
      ¬ Run.Along Health.step GivesChance (erased ++ [.expire .ping]) {} := by
  have hclose : Closes (Run.exec Health.step erased {}).dev := by decide +kernel
  have hnone : (Run.exec Health.step erased {}).unanswered = 0 := by decide +kernel
  refine ⟨by decide +kernel, by decide +kernel, by decide +kernel, hnone, hclose, fun h => ?_⟩
  have hlast := ((Run.along_append Health.step erased [.expire .ping] {}).mp h).2.1 rfl hclose
  omega

end QMon.Device
