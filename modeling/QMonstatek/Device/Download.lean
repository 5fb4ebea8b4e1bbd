import QMonstatek.Device.Closed
import QMonstatek.Device.Exchange
import QMonstatek.Lib.Blocks

/-!
# Downloads

The device answers FILE_READ of a file with READ_DATA frames: an offset and a piece of the file
each, the last piece shorter than 512 bytes.  On the way frames are lost, and those of an earlier
download may still arrive.

`Reading`            the device object, the frames in flight, the file of the last download call
                     and the pieces that have reached the buffer since it was cleared;
`SavesFile m r`      a download that the move `m` completes has saved that file;
`WholeFile m r`      a piece that ends a download is the last of exactly the pieces of the file.

`savesFile_iff`: a run saves the files iff every download in it ends with the whole file.  The
offset of a piece is never looked at, and the end of the file is inferred from a short piece.
-/

namespace QMon.Device
open Rpc Blocks

/-! ## The device and the way -/

/-- the data pieces of a file are shorter than this only at its end -/
def READ_CHUNK : Nat := 512

/-- the payload of the READ_DATA frame with piece `i` -/
def readData (i : Nat) (piece : List UInt8) : List UInt8 :=
  le32 (UInt32.ofNat (i * READ_CHUNK)) ++ piece

/-- the answer to FILE_READ of `file` -/
def readAnswer (file : List UInt8) : List (List UInt8) :=
  (pieces READ_CHUNK file).mapIdx readData

structure Reading where
  dev : Dev := init
  /-- the payloads of the READ_DATA frames in flight -/
  inFlight : List (List UInt8) := []
  /-- the file the last download call asks for -/
  file : List UInt8 := []
  /-- the pieces in `m_fileDownloadBuf` -/
  got : List (List UInt8) := []

inductive ReadMove where
  /-- any event but a READ_DATA frame -/
  | host (e : Event)
  /-- frame `i` of those in flight arrives -/
  | deliver (i : Nat) (seq : UInt8) (dialect : CrcDialect)
  /-- it does not: its CRC is bad, or the link drops it -/
  | lose (i : Nat)

def Event.isReadData : Event → Bool
  | .frame f _ => f.cmd == CMD_FILE_READ_DATA
  | _ => false

section
variable (contents : List UInt8 → List UInt8)

/-- what the device sends for the commands in `out`; `contents` is the file a FILE_READ names -/
def readAnswers (out : List Out) : List (List UInt8) :=
  (txFrames out).flatMap fun f =>
    if f.cmd = CMD_FILE_READ then readAnswer (contents f.payload) else []

/-- the state after a handler -/
def Reading.after (r : Reading) (d : Dev) : Reading :=
  { r with dev := d, inFlight := r.inFlight ++ readAnswers contents d.out }

/-- a download call clears the buffer -/
def Reading.noteCall (e : Event) (r : Reading) : Reading :=
  match e with
  | .call (.downloadFile remotePath _) =>
    { r with file := contents (pathBytes remotePath), got := [] }
  | _ => r

/-- a piece reaches the buffer, and a short one clears it -/
def Reading.noteArrival (payload : List UInt8) (r : Reading) : Reading :=
  if r.dev.isConnected then
    let piece := payload.drop 4
    { r with got := if piece.length < READ_CHUNK then [] else r.got ++ [piece] }
  else r

def read (m : ReadMove) (r : Reading) : Reading :=
  match m with
  | .host e =>
    if e.isReadData then { r with dev := r.dev.fresh }
    else (r.noteCall contents e).after contents (step e r.dev)
  | .deliver i seq dialect =>
    match r.inFlight[i]? with
    | none => { r with dev := r.dev.fresh }
    | some payload =>
      let e : Event := .frame { cmd := CMD_FILE_READ_DATA, seq := seq, payload := payload } dialect
      Reading.after contents { r.noteArrival payload with inFlight := r.inFlight.eraseIdx i }
        (step e r.dev)
  | .lose i => { r with dev := r.dev.fresh, inFlight := r.inFlight.eraseIdx i }

/-! ## What is saved -/

/-- the files written, with their bytes -/
def saved (out : List Out) : List (String × List UInt8) :=
  out.filterMap fun
    | .writeFile path data => some (path, data)
    | _ => none

/-- a download that is reported complete has saved the file it asked for -/
def SavesFile (m : ReadMove) (r : Reading) : Prop :=
  ∀ path, .signal (.fileDownloadComplete path) ∈ (read contents m r).dev.out →
    saved (read contents m r).dev.out = [(path, r.file)]

/-- a short piece that reaches a destination that can be written completes the pieces of the
file, and nothing but them -/
def WholeFile (m : ReadMove) (r : Reading) : Prop :=
  ∀ i seq dialect payload, m = .deliver i seq dialect → r.inFlight[i]? = some payload →
    r.dev.isConnected = true → r.dev.env.canWrite r.dev.download.dest = true →
    (payload.drop 4).length < READ_CHUNK →
      r.got ++ [payload.drop 4] = pieces READ_CHUNK r.file

end

/-! ## Steps that save nothing -/

def Out.isDownload : Out → Bool
  | .signal s => s.isDownload
  | .writeFile _ _ => true
  | _ => false

/-- from `d` to `d'` the buffer and the destination are untouched and nothing is saved -/
structure SameDownload (d d' : Dev) : Prop where
  download : d'.download = d.download
  out : d'.out.filter Out.isDownload = d.out.filter Out.isDownload

theorem sameDownload_linking : Linking (fun o => o.isDownload = false) SameDownload where
  refl _ := ⟨rfl, rfl⟩
  trans h h' := ⟨h'.download.trans h.download, h'.out.trans h.out⟩
  update _ hd ho := ⟨hd, by rw [ho]⟩
  put d o ho := by
    refine ⟨rfl, ?_⟩
    show List.filter _ (d.out ++ [o]) = _
    rw [List.filter_append, List.filter_cons, ho]
    exact List.append_nil _
  quiet o ho := by
    cases o with
    | signal s => cases s <;> first | rfl | exact absurd ho Bool.false_ne_true
    | _ => first | rfl | exact absurd ho Bool.false_ne_true
  relink d l := ⟨rfl, rfl⟩
  ports o ho := by cases o <;> first | rfl | exact absurd ho Bool.false_ne_true
  asks o ho := by cases o <;> first | rfl | exact absurd ho Bool.false_ne_true

theorem step_sameDownload (e : Event) (d : Dev) (hcall : ∀ c, e = .call c → ¬ c.Downloads)
    (hdata : e.isReadData = false) : SameDownload d.fresh (step e d) := by
  refine sameDownload_linking.step e d hcall fun f dialect he => ⟨fun _ s hs => hs, fun hf => ?_⟩
  rw [he] at hdata
  exact absurd hdata (by simp [Event.isReadData, hf])

theorem step_downloadFile (remotePath localPath : String) (d : Dev) :
    (step (.call (.downloadFile remotePath localPath)) d).download = ⟨[], localPath⟩ ∧
      (step (.call (.downloadFile remotePath localPath)) d).out.filter Out.isDownload = [] := by
  let d1 : Dev := { d.fresh with download := { buf := [], dest := localPath } }
  have h := sameDownload_linking.framed.handled.send d1 CMD_FILE_READ (pathBytes remotePath)
  exact ⟨h.download, h.out⟩

/-- an event that brings no data is a download call or leaves the downloads alone -/
theorem step_host (e : Event) (d : Dev) (hdata : e.isReadData = false) :
    (∃ remotePath localPath, e = .call (.downloadFile remotePath localPath)) ∨
      (∀ c, e = .call c → ¬ c.Downloads) ∧ SameDownload d.fresh (step e d) := by
  by_cases hcall : ∀ c, e = .call c → ¬ c.Downloads
  · exact .inr ⟨hcall, step_sameDownload e d hcall hdata⟩
  · push Not at hcall
    obtain ⟨c, rfl, hc⟩ := hcall
    cases c with
    | downloadFile remotePath localPath => exact .inl ⟨remotePath, localPath, rfl⟩
    | _ => exact absurd hc id

theorem not_complete {out : List Out} (h : out.filter Out.isDownload = []) (path : String) :
    .signal (.fileDownloadComplete path) ∉ out := by
  intro hm
  have hf : Out.signal (.fileDownloadComplete path) ∈ out.filter Out.isDownload :=
    List.mem_filter.mpr ⟨hm, rfl⟩
  rw [h] at hf
  exact List.not_mem_nil hf

theorem saved_filter (out : List Out) : saved (out.filter Out.isDownload) = saved out := by
  unfold saved
  rw [List.filterMap_filter]
  refine List.filterMap_congr fun o _ => ?_
  cases o with
  | signal s => exact ite_self _
  | _ => rfl

/-! ## The arrival of a piece -/

theorem heard_sameDownload (dialect : CrcDialect) (d : Dev) :
    SameDownload d.fresh (d.heard dialect) := by
  let d1 : Dev := d.fresh.validated dialect
  have h1 : SameDownload d.fresh d1 := ⟨rfl, rfl⟩
  exact sameDownload_linking.trans h1 (sameDownload_linking.framed.handled.noted d1)

/-- what the handler of a data frame makes of the state it finds -/
inductive Arrival (b : Dev) (piece : List UInt8) : Dev → Prop
  | kept (full : READ_CHUNK ≤ piece.length) :
      Arrival b piece { b with download := { b.download with buf := b.download.buf ++ piece } }
  | completed (short : piece.length < READ_CHUNK) (opens : b.env.canWrite b.download.dest = true) :
      Arrival b piece
        ((Dev.put { b with download := { b.download with buf := [] } }
          (.writeFile b.download.dest (b.download.buf ++ piece))).emit
            (.fileDownloadComplete b.download.dest))
  | refused (short : piece.length < READ_CHUNK) (message : String)
      (opens : b.env.canWrite b.download.dest ≠ true) :
      Arrival b piece (Dev.emit { b with download := { b.download with buf := [] } }
        (.fileOperationError message))

theorem handleFileReadData_arrival {payload : List UInt8} (h : 4 ≤ payload.length) (b : Dev) :
    Arrival b (payload.drop 4) (b.handleFileReadData payload) := by
  have hlen := List.length_drop (i := 4) (l := payload)
  have hpiece : mid payload 4 (-1) = payload.drop 4 := mid_rest payload 4 h
  unfold Dev.handleFileReadData
  rw [if_neg (by omega), hpiece]
  dsimp only
  split
  · rename_i hshort
    have short : (payload.drop 4).length < READ_CHUNK := by
      unfold READ_CHUNK
      omega
    split
    · rename_i hopens
      exact .completed short hopens
    · rename_i hopens
      exact .refused short _ hopens
  · refine .kept ?_
    unfold READ_CHUNK
    omega

theorem Arrival.buf {b d : Dev} {piece : List UInt8} (h : Arrival b piece d) :
    d.download.buf = if piece.length < READ_CHUNK then [] else b.download.buf ++ piece := by
  cases h with
  | kept full => rw [if_neg (Nat.not_lt.mpr full)]
  | completed short opens => rw [if_pos short]; rfl
  | refused short message opens => rw [if_pos short]; rfl

/-- a download is reported complete on a short piece, and has saved the buffer with it -/
theorem Arrival.saves_iff {b d : Dev} {piece file : List UInt8} (h : Arrival b piece d)
    (hb : b.out.filter Out.isDownload = []) :
    (∀ path, .signal (.fileDownloadComplete path) ∈ d.out → saved d.out = [(path, file)]) ↔
      (b.env.canWrite b.download.dest = true → piece.length < READ_CHUNK →
        b.download.buf ++ piece = file) := by
  cases h with
  | kept full =>
    exact ⟨fun _ _ hs => absurd hs (Nat.not_lt.mpr full),
      fun _ path hm => absurd hm (not_complete hb path)⟩
  | completed short opens =>
    have hsaved : saved (b.out ++ [.writeFile b.download.dest (b.download.buf ++ piece)] ++
        [.signal (.fileDownloadComplete b.download.dest)])
        = [(b.download.dest, b.download.buf ++ piece)] := by
      rw [← saved_filter, List.filter_append, List.filter_append, hb]
      rfl
    constructor
    · intro hall _ _
      have hone := hall b.download.dest (List.mem_append_right _ List.mem_cons_self)
      exact (Prod.mk.inj (List.cons.inj (hsaved.symm.trans hone)).1).2
    · intro hfile path hm
      have hpath : path = b.download.dest := by
        rcases List.mem_append.mp hm with hm | hm
        · rcases List.mem_append.mp hm with hm | hm
          · exact absurd hm (not_complete hb path)
          · exact absurd (List.mem_singleton.mp hm) (by simp)
        · simpa using hm
      rw [hpath, ← hfile opens short]
      exact hsaved
  | refused short message opens =>
    refine ⟨fun _ hw _ => absurd hw opens, fun _ path hm => absurd hm (not_complete ?_ path)⟩
    show (b.out ++ [_]).filter Out.isDownload = []
    rw [List.filter_append, hb]
    rfl

theorem step_readData (f : Frame) (dialect : CrcDialect) (d : Dev)
    (hf : f.cmd = CMD_FILE_READ_DATA) (hup : d.isConnected = true) :
    step (.frame f dialect) d = (d.heard dialect).handleFileReadData f.payload := by
  unfold step Dev.handle
  dsimp only
  rw [if_pos (show d.fresh.isConnected = true from hup)]
  unfold Dev.onFrameReceived
  dsimp only
  rw [hf, if_neg (by decide), if_neg (by decide), if_pos rfl]
  rfl

/-! ## The invariant -/

theorem length_readData (i : Nat) (piece : List UInt8) :
    (readData i piece).length = 4 + piece.length := by
  unfold readData le32
  simp
  omega

theorem drop_readData (i : Nat) (piece : List UInt8) : (readData i piece).drop 4 = piece := rfl

structure Reading.Ok (r : Reading) : Prop where
  buf : r.dev.download.buf = r.got.flatten
  full : ∀ p ∈ r.got, p.length = READ_CHUNK
  sized : ∀ p ∈ r.inFlight, 4 ≤ p.length ∧ (p.drop 4).length ≤ READ_CHUNK

section
variable {contents : List UInt8 → List UInt8} {r : Reading}

theorem readAnswers_sized (out : List Out) : ∀ p ∈ readAnswers contents out,
    4 ≤ p.length ∧ (p.drop 4).length ≤ READ_CHUNK := by
  intro p hp
  obtain ⟨f, -, hp⟩ := List.mem_flatMap.mp hp
  split at hp
  · obtain ⟨i, hi, rfl⟩ := List.mem_mapIdx.mp hp
    rw [length_readData, drop_readData]
    exact ⟨Nat.le_add_right _ _, length_le_of_mem_pieces (List.getElem_mem hi)⟩
  · exact absurd hp List.not_mem_nil

/-- what is in flight stays well formed, whatever the handler sends -/
theorem Reading.Ok.after (h : r.Ok) {d : Dev} {got flight : List (List UInt8)}
    {file : List UInt8} (hbuf : d.download.buf = got.flatten)
    (hfull : ∀ p ∈ got, p.length = READ_CHUNK) (hflight : flight.Sublist r.inFlight) :
    (Reading.after contents { r with got := got, file := file, inFlight := flight } d).Ok := by
  refine ⟨hbuf, hfull, fun p hp => ?_⟩
  rcases List.mem_append.mp hp with hp | hp
  · exact h.sized p (hflight.subset hp)
  · exact readAnswers_sized _ p hp

/-- a state whose buffer has not changed -/
theorem Reading.Ok.same (h : r.Ok) {d : Dev} (hd : d.download = r.dev.download)
    {flight : List (List UInt8)} (hflight : flight.Sublist r.inFlight) :
    ({ r with dev := d, inFlight := flight } : Reading).Ok :=
  ⟨by rw [hd]; exact h.buf, h.full, fun p hp => h.sized p (hflight.subset hp)⟩

theorem Reading.Ok.arrived (h : r.Ok) {f : Frame} (hf : f.cmd = CMD_FILE_READ_DATA)
    (hsized : 4 ≤ f.payload.length ∧ (f.payload.drop 4).length ≤ READ_CHUNK)
    (dialect : CrcDialect) {flight : List (List UInt8)} (hflight : flight.Sublist r.inFlight) :
    (Reading.after contents { r.noteArrival f.payload with inFlight := flight }
      (step (.frame f dialect) r.dev)).Ok := by
  unfold Reading.noteArrival
  split
  · rename_i hup
    have hbuf := (handleFileReadData_arrival hsized.1 (r.dev.heard dialect)).buf
    rw [← step_readData f dialect r.dev hf hup, (heard_sameDownload dialect r.dev).download]
      at hbuf
    refine h.after ?_ ?_ hflight
    · rw [hbuf]
      dsimp only
      split
      · rfl
      · show r.dev.download.buf ++ _ = (r.got ++ [_]).flatten
        rw [h.buf, List.flatten_append, List.flatten_singleton]
    · intro p hp
      dsimp only at hp
      split at hp
      · exact absurd hp List.not_mem_nil
      · rename_i hfull
        rcases List.mem_append.mp hp with hp | hp
        · exact h.full p hp
        · rw [List.mem_singleton.mp hp]
          exact Nat.le_antisymm hsized.2 (Nat.not_lt.mp hfull)
  · rename_i hdown
    have hstep : step (.frame f dialect) r.dev = r.dev.fresh := if_neg hdown
    rw [hstep]
    exact h.after h.buf h.full hflight

theorem Reading.Ok.saves_iff (h : r.Ok) {f : Frame} (hf : f.cmd = CMD_FILE_READ_DATA)
    (hsized : 4 ≤ f.payload.length) (dialect : CrcDialect) :
    (∀ path, .signal (.fileDownloadComplete path) ∈ (step (.frame f dialect) r.dev).out →
        saved (step (.frame f dialect) r.dev).out = [(path, r.file)]) ↔
      (r.dev.isConnected = true → r.dev.env.canWrite r.dev.download.dest = true →
        (f.payload.drop 4).length < READ_CHUNK →
          r.got ++ [f.payload.drop 4] = pieces READ_CHUNK r.file) := by
  by_cases hup : r.dev.isConnected = true
  · have hd : (r.dev.heard dialect).download = r.dev.download :=
      (heard_sameDownload dialect r.dev).download
    have hb : (r.dev.heard dialect).out.filter Out.isDownload = [] :=
      (heard_sameDownload dialect r.dev).out
    rw [step_readData f dialect r.dev hf hup,
      (handleFileReadData_arrival hsized (r.dev.heard dialect)).saves_iff hb, hd, heard_env, h.buf]
    have hcut (hs : (f.payload.drop 4).length < READ_CHUNK) :=
      eq_pieces_iff (l := r.file) (by decide : 0 < READ_CHUNK) h.full hs
    exact ⟨fun hsave _ hw hs => (hcut hs).mpr (hsave hw hs),
      fun hwhole hw hs => (hcut hs).mp (hwhole hup hw hs)⟩
  · have hstep : step (.frame f dialect) r.dev = r.dev.fresh := if_neg hup
    rw [hstep]
    exact ⟨fun _ hx => absurd hx hup, fun _ path hm => absurd hm List.not_mem_nil⟩

/-! ## Moves -/

theorem ok_read (m : ReadMove) (r : Reading) (h : r.Ok) : (read contents m r).Ok := by
  unfold read
  cases m with
  | host e =>
    dsimp only
    split
    · exact h.same (d := r.dev.fresh) rfl (List.Sublist.refl _)
    · rename_i hdata
      rcases step_host e r.dev ((Bool.not_eq_true _).mp hdata) with
        ⟨remotePath, localPath, rfl⟩ | ⟨hcall, hd⟩
      · refine h.after ?_ (fun p hp => absurd hp List.not_mem_nil) (List.Sublist.refl _)
        rw [(step_downloadFile remotePath localPath r.dev).1]
        rfl
      · have hnote : r.noteCall contents e = r := by
          unfold Reading.noteCall
          split
          · exact absurd trivial (hcall _ rfl)
          · rfl
        rw [hnote]
        refine h.after ?_ h.full (List.Sublist.refl _)
        rw [hd.download]
        exact h.buf
  | deliver i seq dialect =>
    dsimp only
    split
    · exact h.same (d := r.dev.fresh) rfl (List.Sublist.refl _)
    · rename_i payload hp
      exact h.arrived rfl (h.sized payload (List.mem_of_getElem? hp)) dialect
        (List.eraseIdx_sublist _ _)
  | lose i => exact h.same (d := r.dev.fresh) rfl (List.eraseIdx_sublist _ _)

/-- a move that reports no download -/
theorem savesFile_of_silent {m : ReadMove}
    (h : (read contents m r).dev.out.filter Out.isDownload = []) : SavesFile contents m r :=
  fun path hm => absurd hm (not_complete h path)

theorem savesFile_move_iff (m : ReadMove) (r : Reading) (h : r.Ok) :
    SavesFile contents m r ↔ WholeFile m r := by
  cases m with
  | host e =>
    refine iff_of_true (savesFile_of_silent ?_) fun i seq dialect payload hm =>
      ReadMove.noConfusion hm
    unfold read
    dsimp only
    split
    · rfl
    · rename_i hdata
      rcases step_host e r.dev ((Bool.not_eq_true _).mp hdata) with
        ⟨remotePath, localPath, rfl⟩ | ⟨-, hd⟩
      · exact (step_downloadFile remotePath localPath r.dev).2
      · exact hd.out
  | deliver i seq dialect =>
    cases hp : r.inFlight[i]? with
    | none =>
      have hread : read contents (.deliver i seq dialect) r = { r with dev := r.dev.fresh } := by
        unfold read
        dsimp only
        rw [hp]
      refine iff_of_true (savesFile_of_silent (by rw [hread]; rfl)) ?_
      intro i' seq' dialect' payload hm hpay
      obtain ⟨rfl, -, -⟩ := ReadMove.deliver.inj hm
      exact absurd (hp.symm.trans hpay) (by simp)
    | some payload =>
      let f : Frame := { cmd := CMD_FILE_READ_DATA, seq := seq, payload := payload }
      have hread :
          (read contents (.deliver i seq dialect) r).dev = step (.frame f dialect) r.dev := by
        unfold read
        dsimp only
        rw [hp]
        rfl
      have hiff := h.saves_iff (f := f) rfl (h.sized payload (List.mem_of_getElem? hp)).1 dialect
      unfold SavesFile
      rw [hread, hiff]
      constructor
      · intro hwhole i' seq' dialect' payload' hm hpay
        obtain ⟨rfl, -, -⟩ := ReadMove.deliver.inj hm
        rw [← Option.some.inj (hp.symm.trans hpay)]
        exact hwhole
      · exact fun hwhole => hwhole i seq dialect payload rfl hp
  | lose i =>
    exact iff_of_true (savesFile_of_silent rfl) fun i seq dialect payload hm =>
      ReadMove.noConfusion hm

end

/-- **A completed download is the file**, in a run iff every download of the run ends with exactly
the pieces of its file. -/
theorem savesFile_iff (contents : List UInt8 → List UInt8) (ms : List ReadMove) :
    Run.Along (read contents) (SavesFile contents) ms {} ↔
      Run.Along (read contents) WholeFile ms {} := by
  have h0 : Reading.Ok {} :=
    ⟨rfl, fun p hp => absurd hp List.not_mem_nil, fun p hp => absurd hp List.not_mem_nil⟩
  exact Run.along_iff _ ok_read savesFile_move_iff ms {} h0

/-- a file of two pieces, the first of them lost: the second is saved as the file -/
theorem savesFile_lost :
    let contents (_ : List UInt8) : List UInt8 := List.replicate 512 0xAA ++ [1, 2, 3]
    let r := Run.exec (read contents) [
      .host (.env { serialOpens := fun _ => true, canWrite := fun _ => true }),
      .host (.call (.connectToDevice "COM3")),
      .host (.call (.downloadFile "/log.txt" "log.txt")), .lose 0] {}
    let m := ReadMove.deliver 0 0 .Correct
    r.file.length = 515 ∧
      .signal (.fileDownloadComplete "log.txt") ∈ (read contents m r).dev.out ∧
      saved (read contents m r).dev.out = [("log.txt", [1, 2, 3])] ∧
      ¬ SavesFile contents m r := by
  intro contents r m
  have hlen : r.file.length = 515 := by decide +kernel
  have hcomplete : .signal (.fileDownloadComplete "log.txt") ∈ (read contents m r).dev.out := by
    decide +kernel
  have hsaved : saved (read contents m r).dev.out = [("log.txt", [1, 2, 3])] := by decide +kernel
  refine ⟨hlen, hcomplete, hsaved, fun h => ?_⟩
  have hfile : [1, 2, 3] = r.file :=
    (Prod.mk.inj (List.cons.inj (hsaved.symm.trans (h "log.txt" hcomplete))).1).2
  rw [← hfile] at hlen
  exact absurd hlen (by decide)

end QMon.Device
