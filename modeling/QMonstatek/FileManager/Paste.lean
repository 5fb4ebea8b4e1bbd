import QMonstatek.Lib.Run
import QMonstatek.Lib.Batch
import QMonstatek.FileManager.Batches

/-!
# Cut and paste

`Cut`          the names that were cut last, and the folder they were cut from;
`Paste`        a paste: the cut it moves, the folder that was current when it was started, and the
               rename commands it has issued;
`Paste.Kept`   the commands move the first names, one each, from the one folder to the other;
`StaysAt e x`  a completion that brings the next command finds the destination current.

`kept_iff`: a run keeps source and destination of every paste iff every completion of it finds the
destination current.  The source folder is a member of its own; the destination is read from the
current folder each time.
-/

namespace QMon.FileManager
open Device FileManagerView

def moveCall (source destination name : String) : Call :=
  .renameFile (pathJoin source name) (pathJoin destination name)

structure Cut where
  folder : String := ""
  names : List String := []
  deriving DecidableEq, Repr

structure Paste where
  cut : Cut := {}
  destination : String := ""
  issued : List Call := []
  deriving DecidableEq, Repr

def Paste.Kept (p : Paste) : Prop :=
  Batch.InOrder (moveCall p.cut.folder p.destination) p.cut.names p.issued

/-- the view, the last cut and the last paste that was started -/
structure Moving where
  view : FileManagerView := {}
  cut : Cut := {}
  paste : Paste := {}

/-- the commands of a paste are that of its start and those of the completions after it -/
def move (e : ViewEvent) (x : Moving) : Moving :=
  let v := FileManagerView.step e x.view
  let renames := v.calls.filter isRename
  match e with
  | .cutSelection =>
    if x.view.getSelectedNames = [] then { x with view := v }
    else
      { x with
        view := v
        cut := { folder := x.view.currentPath, names := x.view.getSelectedNames } }
  | .startPaste =>
    if renames = [] then { x with view := v }
    else
      { x with
        view := v
        paste := { cut := x.cut, destination := x.view.currentPath, issued := renames } }
  | .signal .fileRenameComplete =>
    { x with view := v, paste := { x.paste with issued := x.paste.issued ++ renames } }
  | _ => { x with view := v }

def StaysAt (e : ViewEvent) (x : Moving) : Prop :=
  e = .signal .fileRenameComplete → x.view.moveQueue ≠ [] →
    withSlash x.view.currentPath = withSlash x.paste.destination

/-! ## The handlers of a move -/

theorem moveCall_destination_iff (source p q name : String) :
    moveCall source p name = moveCall source q name ↔ withSlash p = withSlash q := by
  have hjoin : pathJoin p name = pathJoin q name ↔ withSlash p = withSlash q :=
    String.append_left_inj name
  unfold moveCall
  rw [Call.renameFile.injEq, hjoin]
  exact and_iff_right rfl

section
variable (v : FileManagerView)

/-- a paste starts with the first name, or does nothing -/
theorem startPaste_cases : v.startPaste = v ∨ ∃ name rest, v.clipboardNames = name :: rest ∧
    v.startPaste = make (moveCall v.clipboardSourcePath v.currentPath name)
      { v with moveSrcPath := v.clipboardSourcePath, moveQueue := rest,
               moveTotal := v.clipboardNames.length } := by
  unfold startPaste
  split
  · exact .inl rfl
  · rename_i name rest hnames
    split
    · exact .inl rfl
    · exact .inr ⟨name, rest, hnames, rfl⟩

theorem onFileRenameComplete_next {next : String} {rest : List String}
    (h : v.moveQueue = next :: rest) :
    v.onFileRenameComplete = make (moveCall v.moveSrcPath v.currentPath next)
      { v with moveQueue := rest } := by
  unfold onFileRenameComplete
  rw [h]
  rfl

/-- the last completion may empty the clipboard -/
theorem onFileRenameComplete_last (h : v.moveQueue = []) :
    v.onFileRenameComplete.calls.filter isRename = v.calls.filter isRename ∧
      (v.onFileRenameComplete.batchState = v.batchState ∨
        v.onFileRenameComplete.batchState
          = { v.batchState with clipboardNames := [], clipboardSourcePath := "" }) := by
  unfold onFileRenameComplete
  split
  · rename_i hq
    exact absurd (h.symm.trans hq) (List.cons_ne_nil _ _).symm
  · split
    · exact ⟨refresh_calls _ fun _ => rfl, .inr (refresh_batchState _)⟩
    · exact ⟨refresh_calls _ fun _ => rfl, .inl (refresh_batchState _)⟩

/-- the other handlers work on the bulk delete at most -/
theorem handle_noMove {e : ViewEvent} (hcut : e ≠ .cutSelection) (hpaste : e ≠ .startPaste)
    (hrename : e ≠ .signal .fileRenameComplete) :
    ∃ q, (v.handle e).batchState = { v.batchState with bulkDeleteQueue := q } := by
  cases hw : e.worksOnBatch with
  | false => exact ⟨_, handle_batchState v hw⟩
  | true =>
    unfold ViewEvent.worksOnBatch at hw
    split at hw
    · show ∃ q, (bulkDelete v.bulkDeleteConfirm v.clearSelection).batchState = _
      unfold bulkDelete
      split
      · exact ⟨_, rfl⟩
      · unfold deleteEntry
        split <;> exact ⟨_, rfl⟩
    · exact absurd rfl hcut
    · exact absurd rfl hpaste
    · show ∃ q, v.onFileDeleteComplete.batchState = _
      unfold onFileDeleteComplete
      split
      · unfold deleteEntry
        split <;> exact ⟨_, rfl⟩
      · rw [refresh_batchState]
        exact ⟨_, rfl⟩
    · exact absurd rfl hrename
    · exact Bool.noConfusion hw

end

/-! ## Steps -/

/-- the clipboard holds the last cut, and the queue what the paste has not moved -/
structure Moving.Ok (x : Moving) : Prop where
  clipboard : x.view.clipboardNames ≠ [] →
    x.view.clipboardNames = x.cut.names ∧ x.view.clipboardSourcePath = x.cut.folder
  queue : x.view.moveQueue = x.paste.cut.names.drop x.paste.issued.length
  source : x.view.moveSrcPath = x.paste.cut.folder

section
variable (e : ViewEvent) (x : Moving)

/-- the events of no move -/
theorem move_other (hcut : e ≠ .cutSelection) (hpaste : e ≠ .startPaste)
    (hrename : e ≠ .signal .fileRenameComplete) :
    move e x = { x with view := FileManagerView.step e x.view } := by
  unfold move
  cases e with
  | cutSelection => exact absurd rfl hcut
  | startPaste => exact absurd rfl hpaste
  | signal s =>
    cases s with
    | fileRenameComplete => exact absurd rfl hrename
    | _ => rfl
  | _ => rfl

/-- a cut of selected names replaces the one before -/
theorem move_cut (hn : x.view.getSelectedNames ≠ []) : move .cutSelection x =
    { x with
      view := { x.view with calls := [], clipboardNames := x.view.getSelectedNames,
                            clipboardSourcePath := x.view.currentPath }.clearSelection
      cut := { folder := x.view.currentPath, names := x.view.getSelectedNames } } := by
  have hv : FileManagerView.step .cutSelection x.view =
      { x.view with calls := [], clipboardNames := x.view.getSelectedNames,
                    clipboardSourcePath := x.view.currentPath }.clearSelection := if_neg hn
  unfold move
  dsimp only
  rw [if_neg hn, hv]

theorem move_cut_nothing (hn : x.view.getSelectedNames = []) :
    move .cutSelection x = { x with view := { x.view with calls := [] } } := by
  have hv : FileManagerView.step .cutSelection x.view = { x.view with calls := [] } := if_pos hn
  unfold move
  dsimp only
  rw [if_pos hn, hv]

/-- a paste starts with its first command, or does nothing -/
theorem move_start : move .startPaste x = { x with view := { x.view with calls := [] } } ∨
    ∃ name rest, x.view.clipboardNames = name :: rest ∧
      (move .startPaste x).cut = x.cut ∧
      (move .startPaste x).paste =
        { cut := x.cut, destination := x.view.currentPath,
          issued := [moveCall x.view.clipboardSourcePath x.view.currentPath name] } ∧
      (move .startPaste x).view.batchState = { x.view.batchState with
        moveSrcPath := x.view.clipboardSourcePath, moveQueue := rest } := by
  have nothing (hv : FileManagerView.step .startPaste x.view = { x.view with calls := [] }) :
      move .startPaste x = { x with view := { x.view with calls := [] } } := by
    unfold move
    dsimp only
    rw [hv]
    rfl
  by_cases hu : x.view.usable = true
  · have hv : FileManagerView.step .startPaste x.view = startPaste { x.view with calls := [] } :=
      if_pos hu
    rcases startPaste_cases { x.view with calls := [] } with hs | ⟨name, rest, hnames, hs⟩
    · exact .inl (nothing (hv.trans hs))
    · refine .inr ⟨name, rest, hnames, ?_⟩
      unfold move
      dsimp only
      rw [hv, hs]
      exact ⟨rfl, rfl, rfl⟩
  · exact .inl (nothing (if_neg hu))

/-- a completion brings the command of the next name, to the folder current now -/
theorem move_next {next : String} {rest : List String} (h : x.view.moveQueue = next :: rest) :
    move (.signal .fileRenameComplete) x =
      { x with
        view := make (moveCall x.view.moveSrcPath x.view.currentPath next)
          { x.view with calls := [], moveQueue := rest }
        paste := { x.paste with issued :=
          x.paste.issued ++ [moveCall x.view.moveSrcPath x.view.currentPath next] } } := by
  have hv : FileManagerView.step (.signal .fileRenameComplete) x.view =
      make (moveCall x.view.moveSrcPath x.view.currentPath next)
        { x.view with calls := [], moveQueue := rest } :=
    onFileRenameComplete_next { x.view with calls := [] } h
  unfold move
  dsimp only
  rw [hv]
  rfl

theorem move_last (h : x.view.moveQueue = []) :
    (move (.signal .fileRenameComplete) x).cut = x.cut ∧
      (move (.signal .fileRenameComplete) x).paste = x.paste ∧
      ((move (.signal .fileRenameComplete) x).view.batchState = x.view.batchState ∨
        (move (.signal .fileRenameComplete) x).view.batchState
          = { x.view.batchState with clipboardNames := [], clipboardSourcePath := "" }) := by
  obtain ⟨hcalls, hb⟩ := onFileRenameComplete_last { x.view with calls := [] } h
  refine ⟨rfl, ?_, hb⟩
  show { x.paste with issued := x.paste.issued ++
    (onFileRenameComplete { x.view with calls := [] }).calls.filter isRename } = _
  rw [hcalls]
  exact congrArg (Paste.mk x.paste.cut x.paste.destination) (List.append_nil _)

theorem Moving.Ok.of_batchState {x y : Moving} (h : x.Ok)
    (hb : ∃ q, y.view.batchState = { x.view.batchState with bulkDeleteQueue := q })
    (hcut : y.cut = x.cut) (hpaste : y.paste = x.paste) : y.Ok := by
  obtain ⟨q, hb⟩ := hb
  have hnames : y.view.clipboardNames = x.view.clipboardNames :=
    congrArg BatchState.clipboardNames hb
  have hsource : y.view.clipboardSourcePath = x.view.clipboardSourcePath :=
    congrArg BatchState.clipboardSourcePath hb
  have hqueue : y.view.moveQueue = x.view.moveQueue := congrArg BatchState.moveQueue hb
  have hsrc : y.view.moveSrcPath = x.view.moveSrcPath := congrArg BatchState.moveSrcPath hb
  refine ⟨?_, ?_, ?_⟩
  · rw [hnames, hsource, hcut]
    exact h.clipboard
  · rw [hqueue, hpaste]
    exact h.queue
  · rw [hsrc, hpaste]
    exact h.source

/-- an event cuts, starts a paste, completes a command, or is of no move -/
theorem event_cases : e = .cutSelection ∨ e = .startPaste ∨ e = .signal .fileRenameComplete ∨
    (move e x).cut = x.cut ∧ (move e x).paste = x.paste ∧
      (∃ q, (move e x).view.batchState = { x.view.batchState with bulkDeleteQueue := q }) ∧
      e ≠ .signal .fileRenameComplete := by
  by_cases hcut : e = .cutSelection
  · exact .inl hcut
  by_cases hpaste : e = .startPaste
  · exact .inr (.inl hpaste)
  by_cases hrename : e = .signal .fileRenameComplete
  · exact .inr (.inr (.inl hrename))
  · rw [move_other e x hcut hpaste hrename]
    exact .inr (.inr (.inr ⟨rfl, rfl,
      handle_noMove { x.view with calls := [] } hcut hpaste hrename, hrename⟩))

theorem ok_move (h : x.Ok) : (move e x).Ok := by
  rcases event_cases e x with rfl | rfl | rfl | ⟨hcut, hpaste, hb, -⟩
  · by_cases hn : x.view.getSelectedNames = []
    · rw [move_cut_nothing x hn]
      exact h.of_batchState ⟨_, rfl⟩ rfl rfl
    · rw [move_cut x hn]
      exact ⟨fun _ => ⟨rfl, rfl⟩, h.queue, h.source⟩
  · rcases move_start x with hs | ⟨name, rest, hnames, hcut, hpaste, hb⟩
    · rw [hs]
      exact h.of_batchState ⟨_, rfl⟩ rfl rfl
    · obtain ⟨hclip, hfolder⟩ := h.clipboard (by rw [hnames]; exact List.cons_ne_nil _ _)
      have hkeep : (move .startPaste x).view.clipboardNames = x.view.clipboardNames :=
        congrArg BatchState.clipboardNames hb
      have hkeep' : (move .startPaste x).view.clipboardSourcePath = x.view.clipboardSourcePath :=
        congrArg BatchState.clipboardSourcePath hb
      refine ⟨?_, ?_, ?_⟩
      · rw [hkeep, hkeep', hcut]
        exact h.clipboard
      · rw [hpaste]
        show _ = x.cut.names.drop 1
        rw [← hclip, hnames]
        exact congrArg BatchState.moveQueue hb
      · rw [hpaste]
        exact (congrArg BatchState.moveSrcPath hb).trans hfolder
  · cases hq : x.view.moveQueue with
    | nil =>
      obtain ⟨hcut, hpaste, hb | hb⟩ := move_last x hq
      · exact h.of_batchState ⟨_, hb⟩ hcut hpaste
      · have hqueue : (move (.signal .fileRenameComplete) x).view.moveQueue = x.view.moveQueue :=
          congrArg BatchState.moveQueue hb
        have hsrc : (move (.signal .fileRenameComplete) x).view.moveSrcPath
            = x.view.moveSrcPath := congrArg BatchState.moveSrcPath hb
        refine ⟨fun hne => absurd (congrArg BatchState.clipboardNames hb) hne, ?_, ?_⟩
        · rw [hqueue, hpaste]
          exact h.queue
        · rw [hsrc, hpaste]
          exact h.source
    | cons next rest =>
      rw [move_next x hq]
      exact ⟨h.clipboard, (Batch.drop_append (h.queue.symm.trans hq) _).symm, h.source⟩
  · exact h.of_batchState hb hcut hpaste

theorem kept_move_iff (h : x.Ok) (hp : x.paste.Kept) :
    (move e x).paste.Kept ↔ StaysAt e x := by
  rcases event_cases e x with rfl | rfl | rfl | ⟨-, hpaste, -, hrename⟩
  · refine iff_of_true ?_ fun h => ViewEvent.noConfusion h
    by_cases hn : x.view.getSelectedNames = []
    · rw [move_cut_nothing x hn]
      exact hp
    · rw [move_cut x hn]
      exact hp
  · refine iff_of_true ?_ fun h => ViewEvent.noConfusion h
    rcases move_start x with hs | ⟨name, rest, hnames, -, hpaste, -⟩
    · rw [hs]
      exact hp
    · obtain ⟨hclip, hfolder⟩ := h.clipboard (by rw [hnames]; exact List.cons_ne_nil _ _)
      rw [hpaste, hfolder]
      unfold Paste.Kept
      rw [← hclip, hnames]
      exact Batch.inOrder_singleton _ name rest
  · cases hq : x.view.moveQueue with
    | nil =>
      rw [(move_last x hq).2.1]
      exact iff_of_true hp fun _ hne => absurd hq hne
    | cons next rest =>
      have hnext := Batch.inOrder_append_iff (moveCall x.paste.cut.folder x.paste.destination) hp
        (h.queue.symm.trans hq) (moveCall x.view.moveSrcPath x.view.currentPath next)
      rw [move_next x hq]
      refine hnext.trans ?_
      rw [h.source, moveCall_destination_iff]
      unfold StaysAt
      rw [hq]
      exact ⟨fun h _ _ => h, fun h => h rfl (List.cons_ne_nil _ _)⟩
  · rw [hpaste]
    exact iff_of_true hp fun he => absurd he hrename

end

/-- **Cut and paste keeps source and destination** throughout a run iff every completion that
brings the next command finds the destination current. -/
theorem kept_iff (es : List ViewEvent) :
    Run.Throughout move (fun x => x.paste.Kept) es {} ↔ Run.Along move StaysAt es {} :=
  Run.throughout_iff_along move ok_move kept_move_iff es {}
    ⟨fun h => absurd rfl h, rfl, rfl⟩ rfl

/-- two files are cut and pasted; before the first is moved the user opens another folder, and
the second is moved there -/
theorem kept_moved :
    let x := Run.exec move [.device true true,
      .fileListReceived "0:/IR/" [⟨"a", false⟩, ⟨"b", false⟩], .selectAll, .cutSelection,
      .fileListReceived "0:/NFC/" [], .startPaste, .navigateUp, .fileListReceived "0:/" [],
      .signal .fileRenameComplete] {}
    x.paste.cut = { folder := "0:/IR/", names := ["a", "b"] } ∧
      x.paste.destination = "0:/NFC/" ∧
      x.paste.issued = [.renameFile "0:/IR/a" "0:/NFC/a", .renameFile "0:/IR/b" "0:/b"] ∧
      ¬ x.paste.Kept := by
  intro x
  have hcut : x.paste.cut = { folder := "0:/IR/", names := ["a", "b"] } := by decide +kernel
  have hdestination : x.paste.destination = "0:/NFC/" := by decide +kernel
  have hissued : x.paste.issued
      = [.renameFile "0:/IR/a" "0:/NFC/a", .renameFile "0:/IR/b" "0:/b"] := by decide +kernel
  refine ⟨hcut, hdestination, hissued, fun h => ?_⟩
  unfold Paste.Kept Batch.InOrder at h
  rw [hcut, hdestination, hissued] at h
  exact absurd h (by decide +kernel)

end QMon.FileManager
