import QMonstatek.Lib.Rows
import QMonstatek.Protocol.Dialect

/-!
# The log of the application

`log_model.cpp`: the lines of the debug log, at most 5000, with the list view that shows them.
The lines change on the thread that logs.  The view lives on the GUI thread: it hears the notices of
that thread at once, with the lines as they are then, and those of the socket worker's thread when
they are delivered.

`Following m`: by the notices on their way the view catches up with the lines, which
`append_following`, `clear_following` and `deliver_following` keep as long as no line goes, and
the log is not cleared, while a notice is on its way.
-/

namespace QMon.Device
open Rows
open Rpc (Thread)

def MAX_LINES : Nat := 5000

inductive LogSignal where
  | countChanged
  | lineAppended (line : String)
  deriving DecidableEq, Repr

structure LogModel where
  lines : List String := []
  /-- the rows of the list view -/
  view : List String := []
  /-- the notices that are queued for the list view, oldest first -/
  posted : List Notice := []
  signals : List LogSignal := []

namespace LogModel

/-- `endRemoveRows`, `endInsertRows`, `endResetModel` -/
def notify (t : Thread) (n : Notice) (m : LogModel) : LogModel :=
  match t with
  | .gui => { m with view := n.follow m.lines m.view }
  | .worker => { m with posted := m.posted ++ [n] }

def emit (s : LogSignal) (m : LogModel) : LogModel := { m with signals := m.signals ++ [s] }

def append (t : Thread) (line : String) (m : LogModel) : LogModel :=
  let m :=
    if m.lines.length ≥ MAX_LINES then
      { m with lines := m.lines.tail }.notify t (.removed 0 0)
    else m
  let row := m.lines.length
  let m := { m with lines := m.lines ++ [line] }.notify t (.inserted row row)
  (m.emit .countChanged).emit (.lineAppended line)

/-- the button of the view -/
def clear (m : LogModel) : LogModel :=
  ({ m with lines := [] }.notify .gui .reset).emit .countChanged

/-- the oldest notice that is queued reaches the view -/
def deliver (m : LogModel) : LogModel :=
  match m.posted with
  | [] => m
  | n :: rest => { m with posted := rest, view := n.follow m.lines m.view }

/-! ## The lines -/

variable {all : List String} {m : LogModel}

@[simp] theorem notify_lines (t : Thread) (n : Notice) (m : LogModel) :
    (m.notify t n).lines = m.lines := by
  cases t <;> rfl

@[simp] theorem emit_lines (s : LogSignal) (m : LogModel) : (m.emit s).lines = m.lines := rfl

@[simp] theorem deliver_lines (m : LogModel) : m.deliver.lines = m.lines := by
  unfold deliver
  split <;> rfl

theorem append_lines (t : Thread) (line : String) (m : LogModel) :
    (m.append t line).lines = room MAX_LINES m.lines ++ [line] := by
  unfold append room
  simp only [emit_lines, notify_lines]
  split
  · rw [notify_lines]
  · rfl

/-- the model keeps the end of the whole log -/
theorem append_rtake (h : m.lines = all.rtake MAX_LINES) (t : Thread) (line : String) :
    (m.append t line).lines = (all ++ [line]).rtake MAX_LINES := by
  rw [append_lines, h, room_append MAX_LINES (by decide)]

/-- lines appended one after the other -/
theorem append_all (h : m.lines = all.rtake MAX_LINES) (t : Thread) (lines : List String) :
    (lines.foldl (fun m line => m.append t line) m).lines =
      (all ++ lines).rtake MAX_LINES := by
  induction lines generalizing all m with
  | nil => rwa [List.append_nil]
  | cons line lines ih =>
    have hrest := ih (append_rtake h t line)
    rwa [List.append_assoc] at hrest

/-! ## The view -/

/-- what the view shows once the notices on their way have reached it -/
def caughtUp (m : LogModel) : List String := Rows.caughtUp m.lines m.posted m.view

/-- by the notices on their way the view catches up; a line has gone only where there was no room -/
structure Following (m : LogModel) : Prop where
  due : Due m.lines m.posted m.view
  room : m.lines.length < MAX_LINES → ∀ n ∈ m.posted, n ≠ .removed 0 0

/-- `k` lines find nothing on its way, or room -/
def Fits (k : Nat) (m : LogModel) : Prop := m.posted = [] ∨ m.lines.length + k ≤ MAX_LINES

theorem following_init : Following {} := ⟨.done, fun _ _ h => absurd h List.not_mem_nil⟩

theorem Following.view_eq (h : Following m) (hnil : m.posted = []) : m.view = m.lines := by
  have hdue := h.due
  rw [hnil] at hdue
  exact hdue.followed

/-- the oldest line goes from a view that shows them all -/
theorem removed_due (hnil : m.posted = []) (hview : m.view = m.lines) (hne : m.lines ≠ [])
    (t : Thread) :
    let m' := { m with lines := m.lines.tail }.notify t (.removed 0 0)
    Due m'.lines m'.posted m'.view ∧ (t = .gui → m'.view.length ≤ m'.lines.length) := by
  obtain ⟨a, rest, hlines⟩ := List.exists_cons_of_ne_nil hne
  rw [hlines] at hview ⊢
  cases t with
  | gui =>
    show Due rest m.posted (Notice.follow rest m.view (.removed 0 0)) ∧
      (_ → (Notice.follow rest m.view (.removed 0 0)).length ≤ rest.length)
    rw [follow_first, hview, hnil]
    exact ⟨.done, fun _ => Nat.le_refl _⟩
  | worker =>
    show Due rest (m.posted ++ [.removed 0 0]) m.view ∧ _
    rw [hnil, hview]
    exact ⟨.went .done, fun ht => Thread.noConfusion ht⟩

/-- a line comes behind the last one -/
theorem inserted_due (h : Due m.lines m.posted m.view) (t : Thread)
    (hlen : t = .gui → m.view.length ≤ m.lines.length) (line : String) :
    let m' := { m with lines := m.lines ++ [line] }.notify t
      (.inserted m.lines.length m.lines.length)
    Due m'.lines m'.posted m'.view := by
  cases t with
  | gui =>
    show Due (m.lines ++ [line]) m.posted
      (Notice.follow (m.lines ++ [line]) m.view (.inserted m.lines.length m.lines.length))
    rw [follow_last_of_le (hlen rfl)]
    exact h.told line
  | worker => exact h.posted line

theorem append_following (h : Following m) (hfits : m.Fits 1) (t : Thread) (line : String) :
    Following (m.append t line) := by
  by_cases hfull : m.lines.length ≥ MAX_LINES
  · have hnil : m.posted = [] := hfits.resolve_right (by omega)
    have hne : m.lines ≠ [] :=
      List.ne_nil_of_length_pos (Nat.lt_of_lt_of_le (by decide) hfull)
    obtain ⟨hdue, hlen⟩ := removed_due hnil (h.view_eq hnil) hne t
    have hstay : ¬ (m.append t line).lines.length < MAX_LINES := by
      rw [append_lines, room, if_pos hfull, List.length_append, List.length_tail,
        List.length_singleton]
      omega
    refine ⟨?_, fun hroom => absurd hroom hstay⟩
    unfold append
    dsimp only
    rw [if_pos hfull]
    exact inserted_due hdue t hlen line
  · have hold := h.room (Nat.lt_of_not_le hfull)
    unfold append
    dsimp only
    rw [if_neg hfull]
    refine ⟨inserted_due h.due t (fun _ => h.due.length_le hold) line, fun _ n hn => ?_⟩
    cases t with
    | gui => exact hold n hn
    | worker =>
      rcases List.mem_append.mp hn with hn | hn
      · exact hold n hn
      · rw [List.mem_singleton.mp hn]
        exact Notice.noConfusion

/-- the GUI thread posts nothing -/
theorem append_gui_posted (line : String) (m : LogModel) :
    (m.append .gui line).posted = m.posted := by
  unfold append
  dsimp only
  split <;> rfl

theorem append_all_gui_posted (lines : List String) (m : LogModel) :
    (lines.foldl (fun m line => m.append .gui line) m).posted = m.posted := by
  induction lines generalizing m with
  | nil => rfl
  | cons line lines ih => exact (ih (m.append .gui line)).trans (append_gui_posted line m)

/-- a line of the GUI thread takes its room -/
theorem append_fits {k : Nat} (h : m.Fits (k + 1)) (line : String) :
    (m.append .gui line).Fits k := by
  unfold Fits
  rw [append_gui_posted, append_lines]
  refine h.imp id fun hle => ?_
  unfold room
  rw [if_neg (by omega), List.length_append, List.length_singleton]
  omega

theorem append_all_following (h : Following m) (lines : List String) (hfits : m.Fits lines.length) :
    Following (lines.foldl (fun m line => m.append .gui line) m) := by
  induction lines generalizing m with
  | nil => exact h
  | cons line lines ih =>
    have hone : m.Fits 1 := hfits.imp id fun hle => by
      rw [List.length_cons] at hle
      omega
    exact ih (append_following h hone .gui line) (append_fits hfits line)

theorem clear_following (hnil : m.posted = []) : Following m.clear := by
  have hposted : m.clear.posted = [] := hnil
  refine ⟨?_, fun _ n hn => ?_⟩
  · rw [hposted]
    exact .done
  · rw [hposted] at hn
    exact absurd hn List.not_mem_nil

theorem deliver_following (h : Following m) : Following m.deliver := by
  have hdue := h.due
  have hroom := h.room
  unfold deliver
  cases hposted : m.posted with
  | nil => exact h
  | cons n rest =>
    rw [hposted] at hdue hroom
    exact ⟨hdue.deliver, fun hlt n hn => hroom hlt n (List.mem_cons_of_mem _ hn)⟩

end LogModel

end QMon.Device
