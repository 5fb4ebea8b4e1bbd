import QMonstatek.Device.Transfer

/-!
# Local folder trees

`Contents`          what is in a local folder, hidden items marked;
`t.listed root ""`  what `QDirIterator` reports of it: no hidden item, and nothing below one;
`t.visible`         the tree without them;
`t.edges`           parent and child, as remote paths, for every folder of the tree;
`t.files`           the files with their remote paths; `name` writes a local name for the device.

`remoteDirs_perm`, `folderFiles_perm`: `uploadFolder` finds the visible tree, with backslashes
written as slashes.  `parent_before`: in the order of the MKDIR queue, every folder comes after
its parent.
-/

namespace QMon.Device

/-- the items of a folder: the first one, what is in it, and the others; no symbolic links -/
inductive Contents where
  | nil
  | file (name : String) (hidden : Bool) (rest : Contents)
  | folder (name : String) (hidden : Bool) (inner rest : Contents)
  deriving DecidableEq, Repr

namespace Contents

/-- `QDirIterator(root, Files | Dirs | NoDotAndDotDot, Subdirectories)` below `root ++ pre` -/
def listed (root pre : String) : Contents → List FolderEntry
  | nil => []
  | file name hidden rest =>
    if hidden then rest.listed root pre
    else ⟨root ++ (pre ++ name), pre ++ name, false⟩ :: rest.listed root pre
  | folder name hidden inner rest =>
    if hidden then rest.listed root pre
    else ⟨root ++ (pre ++ name), pre ++ name, true⟩ ::
      (inner.listed root (pre ++ name ++ "/") ++ rest.listed root pre)

def visible : Contents → Contents
  | nil => nil
  | file name hidden rest => if hidden then rest.visible else file name hidden rest.visible
  | folder name hidden inner rest =>
    if hidden then rest.visible else folder name hidden inner.visible rest.visible

section
variable (name : String → String)

/-- parent and child, for every folder below the remote folder `remote` -/
def edges (remote : String) : Contents → List (String × String)
  | nil => []
  | file _ _ rest => rest.edges remote
  | folder n _ inner rest =>
    (remote, remote ++ "/" ++ name n) ::
      (inner.edges (remote ++ "/" ++ name n) ++ rest.edges remote)

def subfolders (remote : String) (t : Contents) : List String :=
  (t.edges name remote).map Prod.snd

/-- the files, each with its remote path; `pre` is the local path of the folder, with a slash -/
def files (pre remote : String) : Contents → List UploadQueueItem
  | nil => []
  | file n _ rest => ⟨pre ++ n, remote ++ "/" ++ name n⟩ :: rest.files pre remote
  | folder n _ inner rest =>
    inner.files (pre ++ n ++ "/") (remote ++ "/" ++ name n) ++ rest.files pre remote

theorem subfolders_folder (n : String) (hidden : Bool) (inner rest : Contents) (remote : String) :
    (folder n hidden inner rest).subfolders name remote = (remote ++ "/" ++ name n) ::
      (inner.subfolders name (remote ++ "/" ++ name n) ++ rest.subfolders name remote) := by
  unfold subfolders
  rw [← List.map_append]
  rfl

end

end Contents

/-! ## Strings -/

theorem qLength_append (a b : String) : qLength (a ++ b) = qLength a + qLength b := by
  unfold qLength
  rw [String.toList_append, List.map_append, List.sum_append]

theorem forwardSlashes_empty : forwardSlashes "" = "" := by
  unfold forwardSlashes
  simp

theorem forwardSlashes_append (a b : String) :
    forwardSlashes (a ++ b) = forwardSlashes a ++ forwardSlashes b := by
  unfold forwardSlashes
  rw [String.toList_append, List.map_append, String.ofList_append]

/-! ## The edges -/

section
variable {name : String → String} {t : Contents} {remote parent dir : String}

theorem edge_parent (h : (parent, dir) ∈ t.edges name remote) :
    parent ∈ remote :: t.subfolders name remote := by
  induction t generalizing remote with
  | nil => exact absurd h List.not_mem_nil
  | file n hidden rest ih => exact ih h
  | folder n hidden inner rest ihInner ihRest =>
    rw [Contents.subfolders_folder]
    rcases List.mem_cons.mp h with heq | h
    · rw [(Prod.mk.inj heq).1]
      exact List.mem_cons_self
    · rcases List.mem_append.mp h with h | h
      · rcases List.mem_cons.mp (ihInner h) with heq | hm
        · rw [heq]
          exact List.mem_cons_of_mem _ List.mem_cons_self
        · exact List.mem_cons_of_mem _ (List.mem_cons_of_mem _ (List.mem_append_left _ hm))
      · rcases List.mem_cons.mp (ihRest h) with heq | hm
        · rw [heq]
          exact List.mem_cons_self
        · exact List.mem_cons_of_mem _ (List.mem_cons_of_mem _ (List.mem_append_right _ hm))

/-- the path of a folder is longer than that of its parent -/
theorem edge_length (h : (parent, dir) ∈ t.edges name remote) : qLength parent < qLength dir := by
  induction t generalizing remote with
  | nil => exact absurd h List.not_mem_nil
  | file n hidden rest ih => exact ih h
  | folder n hidden inner rest ihInner ihRest =>
    unfold Contents.edges at h
    rcases List.mem_cons.mp h with heq | h
    · obtain ⟨rfl, rfl⟩ := Prod.mk.inj heq
      have hslash : qLength "/" = 1 := by decide
      rw [qLength_append, qLength_append]
      omega
    · rcases List.mem_append.mp h with h | h
      · exact ihInner h
      · exact ihRest h

end

/-! ## What the iterator finds -/

section
variable {base pre remote : String} (root : String) (t : Contents)

/-- the remote path the code makes of an item's relative path -/
theorem remote_item (hpre : base ++ "/" ++ forwardSlashes pre = remote ++ "/") (n : String) :
    base ++ "/" ++ forwardSlashes (pre ++ n) = remote ++ "/" ++ forwardSlashes n := by
  rw [forwardSlashes_append, ← String.append_assoc, hpre]

theorem remote_inner (hpre : base ++ "/" ++ forwardSlashes pre = remote ++ "/") (n : String) :
    base ++ "/" ++ forwardSlashes (pre ++ n ++ "/")
      = remote ++ "/" ++ forwardSlashes n ++ "/" := by
  rw [forwardSlashes_append, ← String.append_assoc, remote_item hpre]
  rfl

theorem remote_root (base : String) : base ++ "/" ++ forwardSlashes "" = base ++ "/" := by
  rw [forwardSlashes_empty, String.append_empty]

theorem listed_subfolders (hpre : base ++ "/" ++ forwardSlashes pre = remote ++ "/") :
    ((t.listed root pre).filter (·.isDir)).map
        (fun e => base ++ "/" ++ forwardSlashes e.relPath)
      = t.visible.subfolders forwardSlashes remote := by
  induction t generalizing pre remote with
  | nil => rfl
  | file n hidden rest ih =>
    cases hidden with
    | true => exact ih hpre
    | false => exact ih hpre
  | folder n hidden inner rest ihInner ihRest =>
    cases hidden with
    | true => exact ihRest hpre
    | false =>
      have hinner := ihInner (remote_inner hpre n)
      have hrest := ihRest hpre
      show (base ++ "/" ++ forwardSlashes (pre ++ n)) :: List.map _ (List.filter _ (_ ++ _)) = _
      rw [List.filter_append, List.map_append, hinner, hrest, remote_item hpre]
      exact (Contents.subfolders_folder forwardSlashes n false inner.visible rest.visible
        remote).symm

theorem listed_files (hpre : base ++ "/" ++ forwardSlashes pre = remote ++ "/") :
    ((t.listed root pre).filter (fun e => !e.isDir)).map (fun e =>
        ({ localPath := e.filePath, remotePath := base ++ "/" ++ forwardSlashes e.relPath } :
          UploadQueueItem))
      = t.visible.files forwardSlashes (root ++ pre) remote := by
  induction t generalizing pre remote with
  | nil => rfl
  | file n hidden rest ih =>
    cases hidden with
    | true => exact ih hpre
    | false =>
      have hrest := ih hpre
      show (⟨root ++ (pre ++ n), base ++ "/" ++ forwardSlashes (pre ++ n)⟩ : UploadQueueItem) ::
        List.map _ (List.filter _ (rest.listed root pre)) = _
      rw [hrest, remote_item hpre, ← String.append_assoc]
      rfl
  | folder n hidden inner rest ihInner ihRest =>
    cases hidden with
    | true => exact ihRest hpre
    | false =>
      have hinner := ihInner (remote_inner hpre n)
      have hrest := ihRest hpre
      show List.map _ (List.filter _
        (inner.listed root (pre ++ n ++ "/") ++ rest.listed root pre)) = _
      rw [List.filter_append, List.map_append, hinner, hrest, ← String.append_assoc,
        ← String.append_assoc]
      rfl

end

section
variable {folder : LocalFolder} {t : Contents} {root : String} (base : String)
  (listing : folder.entries.Perm (t.listed root ""))
include listing

/-- the MKDIR queue: the base folder and every visible subfolder -/
theorem remoteDirs_perm : (remoteDirs base folder).Perm
    (base :: t.visible.subfolders forwardSlashes base) := by
  unfold remoteDirs
  refine (List.mergeSort_perm _ _).trans (List.Perm.cons _ ?_)
  rw [← listed_subfolders root t (remote_root base)]
  exact (listing.filter _).map _

/-- the upload queue: every visible file -/
theorem folderFiles_perm : (folderFiles base folder).Perm
    (t.visible.files forwardSlashes root base) := by
  unfold folderFiles
  have h := listed_files root t (remote_root base)
  rw [String.append_empty] at h
  rw [← h]
  exact (listing.filter _).map _

omit listing in
theorem remoteDirs_sorted (folder : LocalFolder) :
    (remoteDirs base folder).Pairwise (qLength · ≤ qLength ·) := by
  unfold remoteDirs
  refine List.Pairwise.imp ?_ (List.pairwise_mergeSort ?_ ?_ _)
  · exact fun h => of_decide_eq_true h
  · intro a b c hab hbc
    exact decide_eq_true (Nat.le_trans (of_decide_eq_true hab) (of_decide_eq_true hbc))
  · intro a b
    simp [Nat.le_total]

/-- **Parents before their children**, because the queue is sorted by length. -/
theorem parent_before {parent dir : String}
    (hedge : (parent, dir) ∈ t.visible.edges forwardSlashes base) {before after : List String}
    (hsplit : remoteDirs base folder = before ++ dir :: after) : parent ∈ before := by
  have hlt := edge_length hedge
  have hmem : parent ∈ before ++ dir :: after := by
    rw [← hsplit]
    exact (remoteDirs_perm base listing).mem_iff.mpr (edge_parent hedge)
  rcases List.mem_append.mp hmem with hbefore | hafter
  · exact hbefore
  · have hsorted := remoteDirs_sorted base folder
    rw [hsplit] at hsorted
    have htail := (List.pairwise_append.mp hsorted).2.1
    rcases List.mem_cons.mp hafter with heq | hlater
    · rw [heq] at hlt
      exact absurd hlt (Nat.lt_irrefl _)
    · exact absurd (List.rel_of_pairwise_cons htail hlater) (Nat.not_le.mpr hlt)

end

end QMon.Device
