import QMonstatek.Device.Ledger

/-!
# What a view hears of a flash

`signals d`   the signals of a handler, in order; the views hear each of them.

A flash that is active, or asked for, is active after the step or its outcome is among the signals
(`goes_on`); the calls that start one, and the reboot, report nothing done (`startFwUpdate_undone`).
-/

namespace QMon.Views
open Device Rpc

def signal? : Out → Option Signal
  | .signal s => some s
  | _ => none

def signals (d : Dev) : List Signal := d.out.filterMap signal?

theorem signals_put (d : Dev) (o : Out) :
    signals (d.put o) = signals d ++ (signal? o).toList := d.filterMap_put _ o

/-- the signal is an outcome of the task -/
def Ends (t : Task) (s : Signal) : Prop := t.outcome (.signal s) = true

instance (t : Task) (s : Signal) : Decidable (Ends t s) := inferInstanceAs (Decidable (_ = _))

theorem exists_ends {t : Task} {d : Dev} (h : t.answers d.out ≠ 0) :
    ∃ s ∈ signals d, Ends t s := by
  obtain ⟨o, ho, hout⟩ := List.countP_pos_iff.mp (Nat.pos_of_ne_zero h)
  cases o with
  | signal s => exact ⟨s, List.mem_filterMap.mpr ⟨_, ho, rfl⟩, hout⟩
  | _ => cases t <;> exact absurd hout Bool.false_ne_true

/-- **A flash goes on until its outcome is told.** -/
theorem goes_on (t : Task) (e : Event) (d : Dev) (h : d.Active t.operation ∨ t.asked e ≠ 0) :
    (Device.step e d).Active t.operation ∨ ∃ s ∈ signals (Device.step e d), Ends t s := by
  by_cases ha : t.answers (Device.step e d).out = 0
  · left
    have hb := balanced_step t e d
    have hdue : 0 < t.asked e + t.pending d := by
      rcases h with h | h
      · unfold Task.pending
        rw [if_pos h]
        omega
      · omega
    by_contra hn
    have hp : t.pending (Device.step e d) = 0 := if_neg hn
    omega
  · exact .inr (exists_ends ha)

/-! ## Calls that report nothing done -/

/-- nothing is reported done -/
def Undone (d : Dev) : Prop := ∀ s ∈ signals d, s.isDone = false

theorem undone_handled :
    Handled (fun o => ∀ s ∈ signal? o, s.isDone = false) (fun d d' => Undone d → Undone d')
    where
  refl _ := id
  trans h h' := h' ∘ h
  same _ _ _ ho _ h := by
    unfold Undone signals at *
    rwa [ho]
  put d o ho h s hs := by
    rw [signals_put] at hs
    rcases List.mem_append.mp hs with hs | hs
    · exact h s hs
    · exact ho s (Option.mem_toList.mp hs)
  quiet o ho s hs := by
    cases o with
    | signal s' =>
      obtain rfl := Option.some.inj hs
      simpa [Out.isQuiet] using ho
    | _ => exact absurd hs (by simp [signal?])

theorem undone_fresh (d : Dev) : Undone d.fresh := fun _ hs => absurd hs List.not_mem_nil

theorem startFwUpdate_undone (path : String) (d : Dev) :
    Undone (Device.step (.call (.startFwUpdate path)) d) :=
  undone_handled.startBranch (startFwUpdate_branch path d.fresh) (undone_fresh d)

theorem startEspUpdate_undone (path : String) (flashAddr : UInt32) (force : Bool) (d : Dev) :
    Undone (Device.step (.call (.startEspUpdate path flashAddr force)) d) :=
  undone_handled.startBranch (startEspUpdate_branch path d.fresh flashAddr force) (undone_fresh d)

theorem reboot_undone (d : Dev) : Undone (Device.step (.call .reboot) d) := by
  refine undone_handled.trans (undone_handled.send d.fresh CMD_REBOOT []) ?_ (undone_fresh d)
  exact undone_handled.startShot _ _

theorem swapBanks_undone (d : Dev) : Undone (Device.step (.call .swapBanks) d) :=
  undone_handled.swapBanks d.fresh (undone_fresh d)

/-- the least image that is taken for a full one: magic, partition table, nothing behind them -/
def factoryImage : List UInt8 := 0xE9 :: (List.replicate 0x7FFF 0 ++ [0xAA, 0x50])

end QMon.Views
