import QMonstatek.Device.FileCommands
import QMonstatek.Device.FolderTree
import QMonstatek.Device.Stream
import QMonstatek.Lib.StopAndWait

/-!
# The upload of a folder

`uploaded out`   the commands of the operations handed to an open transport, and the ends of
                 queues, oldest first;
`Puts w d d'`    from `d` to `d'` the disk and the connection stay, and `w` is put out of these;
`o.Left cs`      the operations while `cs` is left to send: in the MKDIR queue, in the blocks of a
                 file, or behind its FINISH;
`Aside e d`      an event that leaves the upload alone.

`folderUpload_sender`: the queues are a sender with one command on its way.  So a run that
acknowledges everything makes every folder, parents first, sends every file whole and reports the
end once (`uploadFolder_complete`).
-/

namespace QMon.Device
open Rpc Blocks StopAndWait

abbrev Command := UInt8 × List UInt8

def Out.upload? : Out → Option (Command ⊕ Nat)
  | .tx _ f _ => if f.cmd ∈ opCommands then some (.inl (f.cmd, f.payload)) else none
  | .signal (.multiUploadComplete totalFiles) => some (.inr totalFiles)
  | _ => none

def uploaded (out : List Out) : List (Command ⊕ Nat) := out.filterMap Out.upload?

/-! ## The commands of a folder -/

def mkdirCommand (dir : String) : Command := (CMD_FILE_MKDIR, pathBytes dir)

/-- size and path -/
def startCommand (file : List UInt8) (remotePath : String) : Command :=
  (CMD_FILE_WRITE_START, le32 (UInt32.ofNat file.length) ++ utf8 remotePath ++ [0])

/-- one file, from START to FINISH; `contents` holds the local files -/
def fileCommands (contents : String → List UInt8) (item : UploadQueueItem) : List Command :=
  startCommand (contents item.localPath) item.remotePath ::
    (dataStream .fileUpload (contents item.localPath) ++ [finishCommand .fileUpload])

/-! ## What is put out -/

structure Puts (w : List (Command ⊕ Nat)) (d d' : Dev) : Prop where
  env : d'.env = d.env
  connected : d'.isConnected = d.isConnected
  out : uploaded d'.out = uploaded d.out ++ w

section
variable {w : List (Command ⊕ Nat)} {a b c d d' : Dev}

theorem Puts.of_same (he : d'.env = d.env) (hl : d'.link = d.link) (ho : d'.out = d.out) :
    Puts [] d d' :=
  ⟨he, congrArg Link.isConnected hl, by rw [ho, List.append_nil]⟩

theorem Puts.put (d : Dev) (o : Out) : Puts o.upload?.toList d (d.put o) :=
  ⟨rfl, rfl, d.filterMap_put _ o⟩

theorem Puts.after (h : Puts [] a b) (h' : Puts w b c) : Puts w a c :=
  ⟨h'.env.trans h.env, h'.connected.trans h.connected, by
    rw [h'.out, h.out, List.append_nil]⟩

theorem Puts.followed (h : Puts w a b) (h' : Puts [] b c) : Puts w a c :=
  ⟨h'.env.trans h.env, h'.connected.trans h.connected, by
    rw [h'.out, h.out, List.append_nil]⟩

theorem Puts.seen (h : Puts w d d') (hd : uploaded d.out = []) : uploaded d'.out = w := by
  rw [h.out, hd]
  rfl

theorem Puts.emit (d : Dev) {s : Signal} (hs : (Out.signal s).upload? = none) :
    Puts [] d (d.emit s) := by
  have h := Puts.put d (.signal s)
  rw [hs] at h
  exact h

theorem Puts.setTransfer (k : Kind) (t : Transfer) (d : Dev) : Puts [] d (d.setTransfer k t) :=
  .of_same rfl rfl rfl

/-- an open transport takes the frame -/
theorem Puts.send {cmd : UInt8} (hc : d.isConnected = true) (hm : cmd ∈ opCommands)
    (payload : List UInt8) : Puts [.inl (cmd, payload)] d (d.sendCommand cmd payload) := by
  let d1 : Dev := { d with seqCounter := d.seqCounter + 1 }
  let f : Frame := ⟨cmd, d.seqCounter, payload⟩
  have hput (via : Transport) :
      Puts [.inl (cmd, payload)] d (d1.put (.tx via f d.crc.txDialect)) := by
    have h := Puts.put d1 (.tx via f d.crc.txDialect)
    have hup : (Out.tx via f d.crc.txDialect).upload? = some (.inl (cmd, payload)) := if_pos hm
    rw [hup] at h
    exact ⟨h.env, h.connected, h.out⟩
  unfold Dev.sendCommand Dev.transportSend
  cases ht : d.link.transport with
  | serial =>
    have hopen : d.link.serialOpen = true := by
      unfold Dev.isConnected Link.isConnected at hc
      rw [ht] at hc
      exact hc
    dsimp only
    rw [if_pos hopen]
    exact hput .serial
  | wifi => exact hput .wifi

theorem Puts.sendOther {cmd : UInt8} (hm : cmd ∉ opCommands) (payload : List UInt8) (d : Dev) :
    Puts [] d (d.sendCommand cmd payload) := by
  obtain ⟨o, ho, -, heq⟩ := d.sendCommand_eq cmd payload
  have hup : o.upload? = none := by
    cases o with
    | tx via f dialect => exact if_neg (by rw [(Prod.mk.inj (Option.some.inj ho)).1]; exact hm)
    | txRejected f => rfl
    | _ => exact absurd ho (by simp [Out.command?])
  have h := Puts.put { d with seqCounter := d.seqCounter + 1 } o
  rw [hup] at h
  rw [heq]
  exact ⟨h.env, h.connected, h.out⟩

theorem Puts.suspend (d : Dev) : Puts [] d d.suspendKeepalive := by
  unfold Dev.suspendKeepalive
  split <;> exact .of_same rfl rfl rfl

theorem Puts.emitAll {l : List Signal} (hl : ∀ s ∈ l, s.isProgress = true) (d : Dev) :
    Puts [] d (d.emitAll l) := by
  induction l generalizing d with
  | nil => exact .of_same rfl rfl rfl
  | cons s l ih =>
    have hs : (Out.signal s).upload? = none := by
      have hprogress := hl s List.mem_cons_self
      cases s <;> first | rfl | exact absurd hprogress Bool.false_ne_true
    exact (Puts.emit d hs).after (ih (fun s' hm => hl s' (List.mem_cons_of_mem s hm)) _)

end

/-! ## The pieces of the upload -/

section
variable {d : Dev} (hc : d.isConnected = true)
include hc

theorem makeDirectory_puts (dir : String) :
    Puts [.inl (mkdirCommand dir)] d (d.makeDirectory dir) := by
  let d1 : Dev := { d with ops := { d.ops with pendingFileCmd := CMD_FILE_MKDIR } }
  have h1 : Puts [] d d1 := .of_same rfl rfl rfl
  have hc1 : d1.isConnected = true := hc
  have hm : CMD_FILE_MKDIR ∈ opCommands := by decide
  exact h1.after (.send hc1 hm (pathBytes dir))

theorem sendStart_puts (k : Kind) (payload : List UInt8) :
    Puts [.inl (k.machine.cmdStart, payload)] d (d.sendStart k payload) := by
  unfold Dev.sendStart
  have h1 := (Puts.setTransfer k { d.get k with
    offset := 0, state := .WaitingStartAck, timeout := some k.machine.startMs } d).after
      (.suspend _)
  exact h1.after (.send (h1.connected.trans hc) k.cmdStart_mem payload)

theorem ackChunk_puts (k : Kind) {status : List Signal}
    (hs : ∀ s ∈ status, s.isProgress = true) :
    Puts [.inl ((d.get k).nextCommand k)] d (d.ackChunk k status) := by
  have finish : ∀ s ∈ k.machine.finishStatus, s.isProgress = true := by
    cases k <;> simp [Kind.machine, Signal.isProgress]
  let t : Transfer := { d.get k with state := .SendingData, timeout := some k.machine.chunkMs }
  let d1 := (d.setTransfer k t).emitAll status
  have h1 : Puts [] d d1 := (Puts.setTransfer k t d).after (.emitAll hs _)
  have hc1 : d1.isConnected = true := h1.connected.trans hc
  have hget : d1.get k = t := by
    unfold Dev.get
    rw [Dev.emitAll_ops, Dev.setTransfer_ops, Operations.get_set, if_pos rfl]
  show Puts _ d (d1.sendNextChunk k)
  unfold Dev.sendNextChunk Transfer.nextCommand
  dsimp only
  rw [hget]
  by_cases hlast : (d.get k).offset ≥ (d.get k).size
  · rw [if_pos hlast, if_pos hlast]
    have h2 := (Puts.setTransfer k { t with
      state := .WaitingFinishAck, timeout := some (k.machine.finishMs t.size) } d1).after
        (.emitAll finish _)
    exact (h1.after h2).after (.send (h2.connected.trans hc1) k.cmdFinish_mem [])
  · rw [if_neg hlast, if_neg hlast]
    refine h1.after ((Puts.send hc1 k.cmdData_mem _).followed ?_)
    exact (Puts.setTransfer k _ _).after (.emit _ (by cases k <;> rfl))

omit hc in
/-- a file that is there and can be taken -/
theorem uploadFile_eq {file : List UInt8} {localPath : String} (remotePath : String)
    (alone : d.Alone .fileUpload) (idle : d.ops.fileUpload.state = .Idle)
    (read : d.env.readFile localPath = some file) (size : UInt32.ofNat file.length ≠ 0) :
    d.uploadFile localPath remotePath = (d.setTransfer .fileUpload { d.get .fileUpload with
      data := file, size := UInt32.ofNat file.length, offset := 0 }).sendStart .fileUpload
        (startCommand file remotePath).2 := by
  have busy : ¬ (d.ops.fwUpdate.state ≠ .Idle ∨ d.ops.espUpdate.state ≠ .Idle ∨
      d.ops.bankErasePending = true) := by
    rintro (h | h | h)
    · exact h (alone.idle .fwUpdate (by decide))
    · exact h (alone.idle .espUpdate (by decide))
    · exact Bool.false_ne_true (alone.erase.symm.trans h)
  unfold Dev.uploadFile
  rw [if_neg (not_not.mpr idle), if_neg busy, read]
  dsimp only
  rw [if_neg size]
  rfl

theorem uploadItem_puts {file : List UInt8} (index : Int) (item : UploadQueueItem)
    (mine : d.ops.Unclaimed) (idle : d.ops.fileUpload.state = .Idle)
    (read : d.env.readFile item.localPath = some file) (size : UInt32.ofNat file.length ≠ 0) :
    Puts [.inl (startCommand file item.remotePath)] d (d.uploadItem index item) ∧
      (d.uploadItem index item).ops = { d.ops with
        uploadQueueIndex := index, fileUpload := .fresh .fileUpload file } := by
  let d0 : Dev := { d with ops := { d.ops with uploadQueueIndex := index } }
  let d1 : Dev := d0.emit
    (.multiUploadProgress (index + 1).toNat d.ops.uploadQueue.length (fileName item.localPath))
  have h0 : Puts [] d d0 := .of_same rfl rfl rfl
  have h1 : Puts [] d d1 := h0.after (.emit _ rfl)
  have alone : d1.Alone .fileUpload := (alone_iff _ _).mpr
    ⟨fun _ => mine.fwUpdate, fun _ => mine.espUpdate, fun h => absurd rfl h, mine.erase⟩
  have heq := uploadFile_eq (d := d1) item.remotePath alone idle read size
  have h2 := h1.after (.setTransfer .fileUpload { d1.get .fileUpload with
    data := file, size := UInt32.ofNat file.length, offset := 0 } d1)
  show Puts _ d (d1.uploadFile item.localPath item.remotePath) ∧
    (d1.uploadFile item.localPath item.remotePath).ops = _
  rw [heq]
  refine ⟨h2.after (sendStart_puts (h2.connected.trans hc) .fileUpload _), ?_⟩
  rw [sendStart_ops]
  rfl

end

/-! ## What is left to send -/

section
variable (dirs : List String) (files : List UploadQueueItem) (contents : String → List UInt8)

/-- the MKDIR queue is done with -/
structure Operations.Made (o : Operations) : Prop where
  queue : o.mkdirQueue = []
  index : o.mkdirQueueIndex = -1
  pending : o.pendingFileCmd = 0

inductive Operations.Left (o : Operations) : List Command → Prop
  /-- MKDIR of `dir` is on its way -/
  | mkdir (made : List String) (dir : String) (rest : List String)
      (split : dirs = made ++ dir :: rest) (queue : o.mkdirQueue = dirs)
      (index : o.mkdirQueueIndex = made.length) (pending : o.pendingFileCmd = CMD_FILE_MKDIR)
      (idle : o.fileUpload.state = .Idle) (inactive : o.uploadQueueIndex = -1) :
      o.Left (rest.map mkdirCommand ++ files.flatMap (fileCommands contents))
  /-- START of `item` is, or its block before block `n` -/
  | block (sent : List UploadQueueItem) (item : UploadQueueItem) (rest : List UploadQueueItem)
      (n : Nat) (split : files = sent ++ item :: rest) (index : o.uploadQueueIndex = sent.length)
      (state : o.fileUpload.state = .WaitingStartAck ∨ o.fileUpload.state = .SendingData)
      (position : AtBlock .fileUpload (contents item.localPath) n o.fileUpload)
      (made : o.Made) :
      o.Left ((dataStream .fileUpload (contents item.localPath)).drop n ++
        finishCommand .fileUpload :: rest.flatMap (fileCommands contents))
  /-- FINISH of `item` is -/
  | finish (sent : List UploadQueueItem) (item : UploadQueueItem) (rest : List UploadQueueItem)
      (split : files = sent ++ item :: rest) (index : o.uploadQueueIndex = sent.length)
      (state : o.fileUpload.state = .WaitingFinishAck) (made : o.Made) :
      o.Left (rest.flatMap (fileCommands contents))

/-- the file can be read, and is neither empty nor too long for an `int` -/
def Env.Holds (env : Env) (localPath : String) (file : List UInt8) : Prop :=
  env.readFile localPath = some file ∧ file ≠ [] ∧ file.length < 2 ^ 31

/-- ACKs reach the upload, and its files are there -/
structure Dev.Carries (d : Dev) : Prop where
  connected : d.isConnected = true
  mine : d.ops.Unclaimed
  queue : d.ops.uploadQueue = files
  readable : ∀ item ∈ files, d.env.Holds item.localPath (contents item.localPath)

structure Uploading (cs : List Command) (d : Dev) : Prop where
  carries : d.Carries files contents
  left : d.ops.Left dirs files contents cs

/-- no queue is left, and no command of one -/
structure Uploaded (d : Dev) : Prop where
  connected : d.isConnected = true
  mine : d.ops.Unclaimed
  idle : d.ops.fileUpload.state = .Idle
  queue : d.ops.uploadQueue = []
  index : d.ops.uploadQueueIndex = -1
  made : d.ops.Made

end

/-! ## An ACK -/

section
variable {dirs : List String} {files : List UploadQueueItem} {contents : String → List UInt8}
  {cs : List Command} {d : Dev}

theorem Env.Holds.size_ne {env : Env} {localPath : String} {file : List UInt8}
    (h : env.Holds localPath file) : UInt32.ofNat file.length ≠ 0 := by
  obtain ⟨-, hne, hlen⟩ := h
  have hpos := List.length_pos_iff.mpr hne
  intro hzero
  have hnat := congrArg UInt32.toNat hzero
  rw [UInt32.toNat_ofNat', Nat.mod_eq_of_lt (by omega)] at hnat
  have h0 : (0 : UInt32).toNat = 0 := rfl
  omega

/-- the item after `x` in a queue -/
theorem getElem?_after {α : Type*} {l before after : List α} {x : α}
    (h : l = before ++ x :: after) : l[((before.length : Int) + 1).toNat]? = after.head? := by
  have hi : ((before.length : Int) + 1).toNat = before.length + 1 := by omega
  rw [h, hi, List.getElem?_append_right (Nat.le_succ _), Nat.succ_sub (Nat.le_refl _), Nat.sub_self]
  cases after <;> rfl

/-- a piece that puts out `w` and leaves the queue -/
theorem Dev.Carries.puts {w : List (Command ⊕ Nat)} {d' : Dev} (h : d.Carries files contents)
    (puts : Puts w d d') (mine : d'.ops.Unclaimed)
    (queue : d'.ops.uploadQueue = d.ops.uploadQueue) : d'.Carries files contents := by
  refine ⟨puts.connected.trans h.connected, mine, queue.trans h.queue, ?_⟩
  rw [puts.env]
  exact h.readable

/-- the first file, or the next one -/
theorem uploadItem_answered {sent rest : List UploadQueueItem} {item : UploadQueueItem}
    (h : d.Carries files contents) (hout : uploaded d.out = [])
    (idle : d.ops.fileUpload.state = .Idle) (made : d.ops.Made)
    (split : files = sent ++ item :: rest) :
    Answered (fun d => uploaded d.out) (Uploading dirs files contents) Uploaded files.length
      ((item :: rest).flatMap (fileCommands contents)) (d.uploadItem sent.length item) := by
  have mine := h.mine
  have holds := h.readable item (by rw [split]; simp)
  obtain ⟨puts, ops⟩ :=
    uploadItem_puts h.connected sent.length item mine idle holds.1 holds.size_ne
  have hcs : (dataStream .fileUpload (contents item.localPath) ++ [finishCommand .fileUpload])
      ++ rest.flatMap (fileCommands contents) =
      (dataStream .fileUpload (contents item.localPath)).drop 0 ++
        finishCommand .fileUpload :: rest.flatMap (fileCommands contents) := by
    rw [List.append_assoc]
    rfl
  have left : (d.uploadItem sent.length item).ops.Left dirs files contents
      ((dataStream .fileUpload (contents item.localPath)).drop 0 ++
        finishCommand .fileUpload :: rest.flatMap (fileCommands contents)) := by
    rw [ops]
    exact .block sent item rest 0 split rfl (.inl rfl) (.fresh _ _) ⟨made.queue, made.index,
      made.pending⟩
  rw [← hcs] at left
  refine ⟨puts.seen hout, h.puts puts ?_ ?_, left⟩
  · rw [ops]
    exact ⟨mine.erase, mine.swap, mine.fwUpdate, mine.espUpdate⟩
  · rw [ops]

/-- the end of the queue, or its next file -/
theorem advanceUploadQueue_answered {sent rest : List UploadQueueItem} {item : UploadQueueItem}
    (h : d.Carries files contents) (hout : uploaded d.out = [])
    (idle : d.ops.fileUpload.state = .Idle) (made : d.ops.Made)
    (index : d.ops.uploadQueueIndex = sent.length) (split : files = sent ++ item :: rest) :
    Answered (fun d => uploaded d.out) (Uploading dirs files contents) Uploaded files.length
      (rest.flatMap (fileCommands contents)) d.advanceUploadQueue := by
  have mine := h.mine
  have hnext : d.ops.uploadQueue[(d.ops.uploadQueueIndex + 1).toNat]? = rest.head? := by
    rw [h.queue, index]
    exact getElem?_after split
  unfold Dev.advanceUploadQueue
  dsimp only
  rw [hnext]
  cases rest with
  | nil =>
    have hdone := Puts.put
      { d with ops := { d.ops with uploadQueue := [], uploadQueueIndex := -1 } }
      (.signal (.multiUploadComplete d.ops.uploadQueue.length))
    refine ⟨?_, h.connected, ⟨mine.erase, mine.swap, mine.fwUpdate, mine.espUpdate⟩, idle, rfl,
      rfl, ⟨made.queue, made.index, made.pending⟩⟩
    rw [← h.queue]
    exact hdone.seen hout
  | cons next rest =>
    have hsplit : files = (sent ++ [item]) ++ next :: rest := by
      rw [split, List.append_assoc]
      rfl
    have hindex : d.ops.uploadQueueIndex + 1 = ((sent ++ [item]).length : Int) := by
      rw [index, List.length_append]
      rfl
    show Answered _ _ _ _ _ (d.uploadItem (d.ops.uploadQueueIndex + 1) next)
    rw [hindex]
    exact uploadItem_answered h hout idle made hsplit

/-- the files follow the last MKDIR -/
theorem startUploadQueue_answered (h : d.Carries files contents) (hout : uploaded d.out = [])
    (idle : d.ops.fileUpload.state = .Idle) (made : d.ops.Made)
    (inactive : d.ops.uploadQueueIndex = -1) :
    Answered (fun d => uploaded d.out) (Uploading dirs files contents) Uploaded files.length
      (files.flatMap (fileCommands contents))
      (if d.ops.uploadQueue ≠ [] then d.startUploadQueue else d.emit (.multiUploadComplete 0)) := by
  have queue := h.queue
  cases files with
  | nil =>
    have hdone := Puts.put d (.signal (.multiUploadComplete 0))
    rw [if_neg (not_not.mpr queue)]
    exact ⟨hdone.seen hout, h.connected, h.mine, idle, queue, inactive, made⟩
  | cons item files =>
    have hstart : d.startUploadQueue =
        d.uploadItem (([] : List UploadQueueItem).length : Int) item := by
      unfold Dev.startUploadQueue
      rw [queue]
      rfl
    rw [if_pos (by rw [queue]; simp), hstart]
    have split : item :: files = [] ++ item :: files := rfl
    exact uploadItem_answered h hout idle made split

/-- the next folder, or the files -/
theorem advanceMkdirQueue_answered {made rest : List String} {dir : String}
    (h : d.Carries files contents) (hout : uploaded d.out = [])
    (idle : d.ops.fileUpload.state = .Idle) (inactive : d.ops.uploadQueueIndex = -1)
    (queue : d.ops.mkdirQueue = dirs) (index : d.ops.mkdirQueueIndex = made.length)
    (pending : d.ops.pendingFileCmd = 0) (split : dirs = made ++ dir :: rest) :
    Answered (fun d => uploaded d.out) (Uploading dirs files contents) Uploaded files.length
      (rest.map mkdirCommand ++ files.flatMap (fileCommands contents)) d.advanceMkdirQueue := by
  have mine := h.mine
  have hnext : d.ops.mkdirQueue[(d.ops.mkdirQueueIndex + 1).toNat]? = rest.head? := by
    rw [queue, index]
    exact getElem?_after split
  unfold Dev.advanceMkdirQueue
  dsimp only
  rw [hnext]
  cases rest with
  | nil =>
    let d1 : Dev := { d with ops := { d.ops with mkdirQueue := [], mkdirQueueIndex := -1 } }
    have h1 : d1.Carries files contents := ⟨h.connected, ⟨mine.erase, mine.swap, mine.fwUpdate,
      mine.espUpdate⟩, h.queue, h.readable⟩
    exact startUploadQueue_answered h1 hout idle ⟨rfl, rfl, pending⟩ inactive
  | cons next rest =>
    let d1 : Dev := { d with ops := { d.ops with mkdirQueueIndex := d.ops.mkdirQueueIndex + 1 } }
    have puts : Puts _ d (d1.makeDirectory next) :=
      (Puts.of_same rfl rfl rfl : Puts [] d d1).after
        (makeDirectory_puts (d := d1) h.connected next)
    have hops : (d1.makeDirectory next).ops = { d1.ops with pendingFileCmd := CMD_FILE_MKDIR } :=
      Dev.fileCommand_ops _ _ _
    have hsplit : dirs = (made ++ [dir]) ++ next :: rest := by
      rw [split, List.append_assoc]
      rfl
    show Answered _ _ _ _ _ (d1.makeDirectory next)
    refine ⟨puts.seen hout, h.puts puts ?_ ?_, ?_⟩
    · rw [hops]
      exact ⟨mine.erase, mine.swap, mine.fwUpdate, mine.espUpdate⟩
    · rw [hops]
    · show (d1.makeDirectory next).ops.Left dirs files contents _
      rw [hops]
      refine .mkdir (made ++ [dir]) next rest hsplit queue ?_ rfl idle inactive
      show d.ops.mkdirQueueIndex + 1 = _
      rw [index, List.length_append]
      rfl

/-- the next block, or FINISH behind the last one -/
theorem ackChunk_answered {sent rest : List UploadQueueItem} {item : UploadQueueItem} {n : Nat}
    (h : d.Carries files contents) (hout : uploaded d.out = []) (made : d.ops.Made)
    (index : d.ops.uploadQueueIndex = sent.length) (split : files = sent ++ item :: rest)
    (position : AtBlock .fileUpload (contents item.localPath) n d.ops.fileUpload) :
    Answered (fun d => uploaded d.out) (Uploading dirs files contents) Uploaded files.length
      ((dataStream .fileUpload (contents item.localPath)).drop n ++
        finishCommand .fileUpload :: rest.flatMap (fileCommands contents))
      (d.ackChunk .fileUpload []) := by
  obtain ⟨-, -, hlen⟩ := h.readable item (by rw [split]; simp)
  have mine := h.mine
  have puts : Puts _ d (d.ackChunk .fileUpload []) :=
    ackChunk_puts h.connected .fileUpload (by simp)
  have ops := ackChunk_ops .fileUpload [] d
  have carries : (d.ackChunk .fileUpload []).Carries files contents := by
    refine h.puts puts ?_ ?_
    · rw [ops]
      exact ⟨mine.erase, mine.swap, mine.fwUpdate, mine.espUpdate⟩
    · rw [ops]
      rfl
  have made' : (d.ops.set .fileUpload ((d.get .fileUpload).next .fileUpload)).Made :=
    ⟨made.queue, made.index, made.pending⟩
  by_cases hlast : n = blockCount (Kind.machine .fileUpload).CHUNK_SIZE (contents item.localPath)
  · have hge := (position.finish_iff hlen).mpr hlast
    have hcmd : (d.get .fileUpload).nextCommand .fileUpload = finishCommand .fileUpload :=
      if_pos hge
    have hstate : ((d.get .fileUpload).next .fileUpload).state = .WaitingFinishAck := by
      unfold Transfer.next
      exact congrArg Transfer.state (if_pos hge)
    rw [dataStream_drop_all _ _ (Nat.le_of_eq hlast.symm)]
    rw [hcmd] at puts
    refine ⟨puts.seen hout, carries, ?_⟩
    rw [ops]
    exact .finish sent item rest split index hstate made'
  · have hlt := Nat.lt_of_le_of_ne position.count hlast
    obtain ⟨next, hstate⟩ := position.next hlen hlt
    have hcmd : (d.get .fileUpload).nextCommand .fileUpload
        = dataCommand .fileUpload (contents item.localPath) n := position.nextCommand hlen hlt
    rw [dataStream_drop _ _ hlt]
    rw [hcmd] at puts
    refine ⟨puts.seen hout, carries, ?_⟩
    rw [ops]
    exact .block sent item rest (n + 1) split index (.inr hstate) next made'

/-- **An ACK sends the next command**, or ends the upload. -/
theorem handleAck_answered (h : Uploading dirs files contents cs d) (hout : uploaded d.out = []) :
    Answered (fun d => uploaded d.out) (Uploading dirs files contents) Uploaded files.length cs
      d.handleAck := by
  obtain ⟨carries, left⟩ := h
  have mine := carries.mine
  rw [mine.handleAck]
  cases left with
  | mkdir made dir rest split queue index pending idle inactive =>
    let d1 : Dev := { d with ops := { d.ops with pendingFileCmd := 0 } }
    have h1 : d1.Carries files contents := ⟨carries.connected, ⟨mine.erase, mine.swap,
      mine.fwUpdate, mine.espUpdate⟩, carries.queue, carries.readable⟩
    have hack : d.ackFileCommand = d1.advanceMkdirQueue := by
      unfold Dev.ackFileCommand
      dsimp only
      rw [pending, if_neg (by decide), if_neg (by decide), if_pos rfl,
        if_pos (by rw [index]; omega)]
    rw [if_neg (not_not.mpr idle), hack]
    exact advanceMkdirQueue_answered h1 hout idle inactive queue index rfl split
  | block sent item rest n split index state position made =>
    have hack : d.ackFileUpload = d.ackChunk .fileUpload [] := by
      unfold Dev.ackFileUpload
      rcases state with state | state <;> rw [state]
    have hactive : d.ops.fileUpload.state ≠ .Idle := by
      rcases state with state | state <;> rw [state] <;> decide
    rw [if_pos hactive, hack]
    exact ackChunk_answered carries hout made index split position
  | finish sent item rest split index state made =>
    have h1 : (d.endTransfer .fileUpload).Carries files contents := ⟨carries.connected,
      ⟨mine.erase, mine.swap, mine.fwUpdate, mine.espUpdate⟩, carries.queue, carries.readable⟩
    have hack : d.ackFileUpload = (d.endTransfer .fileUpload).advanceUploadQueue := by
      unfold Dev.ackFileUpload
      rw [state]
      exact if_pos (by
        show d.ops.uploadQueueIndex ≥ 0
        rw [index]
        omega)
    rw [if_pos (by rw [state]; decide), hack]
    exact advanceUploadQueue_answered h1 hout rfl ⟨made.queue, made.index, made.pending⟩ index split

theorem handleAck_uploaded (h : Uploaded d) : Puts [] d d.handleAck ∧ Uploaded d.handleAck := by
  have mine := h.mine
  have hack : d.handleAck = { d with ops := { d.ops with
      pendingFileCmd := 0, espUpdateStaleNack := false } } := by
    rw [mine.handleAck, if_neg (not_not.mpr h.idle)]
    unfold Dev.ackFileCommand
    dsimp only
    rw [h.made.pending, if_neg (by decide), if_neg (by decide), if_neg (by decide),
      if_neg (by decide), if_neg (by decide)]
  rw [hack]
  exact ⟨.of_same rfl rfl rfl, h.connected, ⟨mine.erase, mine.swap, mine.fwUpdate,
    mine.espUpdate⟩, h.idle, h.queue, h.index, ⟨h.made.queue, h.made.index, rfl⟩⟩

end

/-! ## Runs -/

/-- an event that leaves the upload, the connection and the local files alone -/
structure Aside (e : Event) (d : Dev) : Prop where
  ops : (step e d).ops = d.ops
  connected : (step e d).isConnected = d.isConnected
  readFile : (step e d).env.readFile = d.env.readFile
  silent : uploaded (step e d).out = []

instance : DecidablePred Event.IsAck := fun e =>
  match e with
  | .frame f dialect => decidable_of_iff (f.cmd = CMD_ACK) (by simp [Event.IsAck])
  | .workerValidated _ => isFalse (by simp [Event.IsAck])
  | .call _ => isFalse (by simp [Event.IsAck])
  | .expire _ => isFalse (by simp [Event.IsAck])
  | .shot _ => isFalse (by simp [Event.IsAck])
  | .serialError => isFalse (by simp [Event.IsAck])
  | .transportError _ => isFalse (by simp [Event.IsAck])
  | .workerConnected => isFalse (by simp [Event.IsAck])
  | .workerDisconnected => isFalse (by simp [Event.IsAck])
  | .screenPortReady _ => isFalse (by simp [Event.IsAck])
  | .inboundActivity => isFalse (by simp [Event.IsAck])
  | .deviceFound _ => isFalse (by simp [Event.IsAck])
  | .deviceLost _ => isFalse (by simp [Event.IsAck])
  | .setMdnsDiscovery _ => isFalse (by simp [Event.IsAck])
  | .serviceFound _ _ => isFalse (by simp [Event.IsAck])
  | .env _ => isFalse (by simp [Event.IsAck])

theorem resolveDialect_puts (d : Dev) : Puts [] d d.resolveDialect := by
  unfold Dev.resolveDialect
  split
  · let legacy := d.crc.txDialect == .Legacy
    let d1 : Dev := { d with dialectResolved := true, legacyCompatMode := legacy }
    have h1 : Puts [] d d1 := .of_same rfl rfl rfl
    have h2 : Puts [] d1 (if legacy then d1.emit .legacyFirmwareDetected else d1) := by
      split
      · exact .emit d1 rfl
      · exact .of_same rfl rfl rfl
    exact ((h1.after h2).after (.emit _ rfl)).after (.sendOther (by decide) [] _)
  · exact .of_same rfl rfl rfl

theorem noted_puts (d : Dev) : Puts [] d d.noted :=
  (Puts.of_same rfl rfl rfl : Puts [] d { d with keep := { d.keep with
    lastInboundMs := d.env.now } }).after (resolveDialect_puts _)

theorem heard_puts (dialect : CrcDialect) (d : Dev) : Puts [] d.fresh (d.heard dialect) :=
  (Puts.of_same rfl rfl rfl : Puts [] d.fresh (d.fresh.validated dialect)).after (noted_puts _)

section
variable (dirs : List String) (files : List UploadQueueItem) (contents : String → List UInt8)

/-- **The queues are a sender with one command on its way.** -/
theorem folderUpload_sender : Sender step (fun d => uploaded d.out) Event.IsAck Aside
    (Uploading dirs files contents) Uploaded files.length where
  acked := by
    rintro cs e d h ⟨f, dialect, rfl, hf⟩
    obtain ⟨carries, left⟩ := h
    have ops := heard_ops dialect d
    have puts := heard_puts dialect d
    rw [step_ack dialect hf carries.connected]
    refine handleAck_answered ⟨?_, ?_⟩ (puts.seen rfl)
    · refine Dev.Carries.puts (d := d.fresh) ⟨carries.connected, carries.mine, carries.queue,
        carries.readable⟩ puts ?_ ?_
      · rw [ops]
        exact carries.mine
      · rw [ops]
        rfl
    · rw [ops]
      exact left
  waits := by
    intro cs e d h aside
    obtain ⟨carries, left⟩ := h
    refine ⟨aside.silent, ⟨aside.connected.trans carries.connected, ?_, ?_, ?_⟩, ?_⟩
    · rw [aside.ops]
      exact carries.mine
    · rw [aside.ops]
      exact carries.queue
    · unfold Env.Holds
      rw [aside.readFile]
      exact carries.readable
    · rw [aside.ops]
      exact left
  rests := by
    intro e d h he
    have moved {d' : Dev} (hops : d'.ops = d.ops) (hc : d'.isConnected = d.isConnected) :
        Uploaded d' := by
      refine ⟨hc.trans h.connected, ?_, ?_, ?_, ?_, ?_⟩ <;> rw [hops]
      · exact h.mine
      · exact h.idle
      · exact h.queue
      · exact h.index
      · exact h.made
    rcases he with ⟨f, dialect, rfl, hf⟩ | aside
    · have puts := heard_puts dialect d
      rw [step_ack dialect hf h.connected]
      obtain ⟨hputs, hdone⟩ := handleAck_uploaded
        (moved (heard_ops dialect d) puts.connected)
      exact ⟨hputs.seen (puts.seen rfl), hdone⟩
    · exact ⟨aside.silent, moved aside.ops aside.connected⟩

end

/-! ## The call -/

/-- the base folder is made first -/
theorem uploadFolder_eq {d : Dev} (url remotePath : String) {folder : LocalFolder} {dir : String}
    {rest : List String} (inactive : d.ops.uploadQueueIndex = -1)
    (idle : d.ops.fileUpload.state = .Idle)
    (found : d.env.folder (d.env.localPath url) = some folder)
    (hdirs : remoteDirs (withSlash remotePath ++ folder.dirName) folder = dir :: rest) :
    d.uploadFolder url remotePath = Dev.makeDirectory dir (Dev.emit { d with ops := { d.ops with
      uploadQueue := folderFiles (withSlash remotePath ++ folder.dirName) folder
      mkdirQueue := dir :: rest, mkdirQueueIndex := 0 } } (.multiUploadProgress 0
        (folderFiles (withSlash remotePath ++ folder.dirName) folder).length
        "Creating directories...")) := by
  have hfree : ¬ (d.ops.uploadQueueIndex ≥ 0 ∨ d.ops.fileUpload.state ≠ .Idle) := by
    rintro (h | h)
    · omega
    · exact h idle
  unfold Dev.uploadFolder
  dsimp only
  rw [if_neg hfree, found]
  dsimp only
  rw [hdirs]

theorem step_uploadFolder_eq {d : Dev} (url remotePath : String) {folder : LocalFolder}
    {dir : String} {rest : List String} (inactive : d.ops.uploadQueueIndex = -1)
    (idle : d.ops.fileUpload.state = .Idle)
    (found : d.env.folder (d.env.localPath url) = some folder)
    (hdirs : remoteDirs (withSlash remotePath ++ folder.dirName) folder = dir :: rest) :
    step (.call (.uploadFolder url remotePath)) d =
      Dev.makeDirectory dir (Dev.emit { d.fresh with ops := { d.ops with
        uploadQueue := folderFiles (withSlash remotePath ++ folder.dirName) folder
        mkdirQueue := dir :: rest, mkdirQueueIndex := 0 } } (.multiUploadProgress 0
          (folderFiles (withSlash remotePath ++ folder.dirName) folder).length
          "Creating directories...")) :=
  uploadFolder_eq (d := d.fresh) url remotePath inactive idle found hdirs

theorem uploadFolder_started {d : Dev} {url remotePath : String} {folder : LocalFolder}
    (contents : String → List UInt8) {dir : String} {rest : List String}
    (idle : d.NoTransfer) (inactive : d.ops.uploadQueueIndex = -1)
    (connected : d.isConnected = true)
    (found : d.env.folder (d.env.localPath url) = some folder)
    (hdirs : remoteDirs (withSlash remotePath ++ folder.dirName) folder = dir :: rest)
    (readable : ∀ item ∈ folderFiles (withSlash remotePath ++ folder.dirName) folder,
      d.env.Holds item.localPath (contents item.localPath)) :
    uploaded (step (.call (.uploadFolder url remotePath)) d).out = [.inl (mkdirCommand dir)] ∧
      Uploading (dir :: rest) (folderFiles (withSlash remotePath ++ folder.dirName) folder) contents
        (rest.map mkdirCommand ++ (folderFiles (withSlash remotePath ++ folder.dirName)
          folder).flatMap (fileCommands contents))
        (step (.call (.uploadFolder url remotePath)) d) := by
  have mine := idle.unclaimed
  have heq := step_uploadFolder_eq url remotePath inactive (idle.idle .fileUpload) found hdirs
  generalize folderFiles (withSlash remotePath ++ folder.dirName) folder = files at heq readable
  let d1 : Dev := { d.fresh with ops := { d.ops with
    uploadQueue := files, mkdirQueue := dir :: rest, mkdirQueueIndex := 0 } }
  let d2 := d1.emit (.multiUploadProgress 0 files.length "Creating directories...")
  have puts : Puts [.inl (mkdirCommand dir)] d.fresh (d2.makeDirectory dir) :=
    ((Puts.of_same rfl rfl rfl : Puts [] d.fresh d1).after (.emit d1 rfl)).after
      (makeDirectory_puts (d := d2) connected dir)
  have ops : (d2.makeDirectory dir).ops = { d1.ops with pendingFileCmd := CMD_FILE_MKDIR } :=
    Dev.fileCommand_ops _ _ _
  rw [heq]
  show uploaded (d2.makeDirectory dir).out = _ ∧ Uploading _ _ _ _ (d2.makeDirectory dir)
  refine ⟨puts.seen rfl, ⟨puts.connected.trans connected, ?_, ?_, ?_⟩, ?_⟩
  · rw [ops]
    exact ⟨mine.erase, mine.swap, mine.fwUpdate, mine.espUpdate⟩
  · rw [ops]
  · rw [puts.env]
    exact readable
  · rw [ops]
    exact .mkdir [] dir rest rfl rfl rfl rfl (idle.idle .fileUpload) inactive

/-- a run that makes the folders of the tree, parents before their children, sends each file
whole, one after the other, and reports the number of files once, at its end -/
def CopiesTree (name : String → String) (t : Contents) (root base : String)
    (contents : String → List UInt8) (w : List (Command ⊕ Nat)) : Prop :=
  ∃ (dirs : List String) (files : List UploadQueueItem),
    dirs.Perm (base :: t.subfolders name base) ∧
    (∀ parent dir, (parent, dir) ∈ t.edges name base →
      ∀ before after, dirs = before ++ dir :: after → parent ∈ before) ∧
    files.Perm (t.files name root base) ∧
    w = (dirs.map mkdirCommand ++ files.flatMap (fileCommands contents)).map .inl ++
      [.inr files.length]

/-- **The upload of a folder is complete and in order**: where every command is acknowledged, the
visible part of the tree is copied, and both queues are left empty. -/
theorem uploadFolder_complete {d : Dev} {url remotePath root : String} {folder : LocalFolder}
    {t : Contents} {contents : String → List UInt8} {es : List Event} (idle : d.NoTransfer)
    (inactive : d.ops.uploadQueueIndex = -1) (connected : d.isConnected = true)
    (found : d.env.folder (d.env.localPath url) = some folder)
    (listing : folder.entries.Perm (t.listed root ""))
    (readable : ∀ item ∈ t.visible.files forwardSlashes root
        (withSlash remotePath ++ folder.dirName),
      d.env.Holds item.localPath (contents item.localPath))
    (turns : Run.Along step (fun e d => e.IsAck ∨ Aside e d) es
      (step (.call (.uploadFolder url remotePath)) d))
    (acked : (commands (history step (fun d => uploaded d.out)
      (.call (.uploadFolder url remotePath) :: es) d)).length ≤ es.countP (·.IsAck)) :
    let run := Event.call (.uploadFolder url remotePath) :: es
    CopiesTree forwardSlashes t.visible root (withSlash remotePath ++ folder.dirName) contents
        (history step (fun d => uploaded d.out) run d) ∧
      (Run.exec step run d).ops.uploadQueue = [] ∧
      (Run.exec step run d).ops.uploadQueueIndex = -1 ∧
      (Run.exec step run d).ops.mkdirQueue = [] ∧
      (Run.exec step run d).ops.mkdirQueueIndex = -1 := by
  intro run
  have hfiles := folderFiles_perm (withSlash remotePath ++ folder.dirName) listing
  obtain ⟨dir, rest, hdirs⟩ := List.exists_cons_of_ne_nil
    (remoteDirs_ne_nil (withSlash remotePath ++ folder.dirName) folder)
  obtain ⟨hfirst, huploading⟩ := uploadFolder_started contents idle inactive connected found
    hdirs fun item hm => readable item (hfiles.mem_iff.mp hm)
  have hsent : (commands (history step (fun d => uploaded d.out) es
      (step (.call (.uploadFolder url remotePath)) d))).length < es.countP (·.IsAck) := by
    unfold history at acked
    rw [commands_append, List.length_append, hfirst] at acked
    exact Nat.lt_of_lt_of_le (Nat.lt_add_of_pos_left Nat.one_pos) acked
  obtain ⟨hrun, hdone⟩ := (folderUpload_sender _ _ contents).complete es huploading turns hsent
  refine ⟨⟨dir :: rest, _, ?_, fun parent child hedge before after hsplit => ?_, hfiles, ?_⟩,
    hdone.queue, hdone.index, hdone.made.queue, hdone.made.index⟩
  · rw [← hdirs]
    exact remoteDirs_perm _ listing
  · exact parent_before _ listing hedge (hdirs.trans hsplit)
  · show uploaded _ ++ history _ _ es _ = _
    rw [hfirst, hrun]
    rfl

/-- connected, with a folder of two files, one of them in a subfolder -/
theorem uploadFolder_twoFiles :
    let t : Contents := .folder "b" false (.file "x" false .nil) (.file "y" false .nil)
    let d := Run.exec step [.env { serialOpens := fun _ => true, readFile := fun _ => some [1]
                                   folder := fun _ => some ⟨"d", t.listed "/home/d/" ""⟩ },
      .call (.connectToDevice "COM3")] init
    let es := List.replicate 8 (Event.frame ⟨CMD_ACK, 0, []⟩ .Correct)
    let run := Event.call (.uploadFolder "/home/d" "/") :: es
    CopiesTree forwardSlashes t.visible "/home/d/" (withSlash "/" ++ "d") (fun _ => [1])
        (history step (fun d => uploaded d.out) run d) ∧
      (Run.exec step run d).ops.uploadQueue = [] ∧
      (Run.exec step run d).ops.uploadQueueIndex = -1 ∧
      (Run.exec step run d).ops.mkdirQueue = [] ∧
      (Run.exec step run d).ops.mkdirQueueIndex = -1 := by
  intro t d es run
  have found : d.env.folder (d.env.localPath "/home/d") = some ⟨"d", t.listed "/home/d/" ""⟩ := rfl
  have turns : Run.Along step (fun e d => e.IsAck ∨ Aside e d) es
      (step (.call (.uploadFolder "/home/d" "/")) d) := by
    refine Run.along_of_forall step es _ fun e he _ => .inl ?_
    rw [List.eq_of_mem_replicate he]
    exact ⟨_, _, rfl, rfl⟩
  have hdirs : remoteDirs (withSlash "/" ++ "d") ⟨"d", t.listed "/home/d/" ""⟩
      = ["/d", "/d/b"] := by
    have hbase : withSlash "/" ++ "d" = "/d" := by decide +kernel
    rw [hbase]
    exact List.mergeSort_of_pairwise (by decide +kernel)
  have hfirst := step_uploadFolder_eq "/home/d" "/" (by decide +kernel) (by decide +kernel) found
    hdirs
  have acked : (commands (history step (fun d => uploaded d.out) run d)).length
      ≤ es.countP (·.IsAck) := by
    show (commands (uploaded (step (.call (.uploadFolder "/home/d" "/")) d).out ++
      history step _ es (step (.call (.uploadFolder "/home/d" "/")) d))).length ≤ _
    rw [hfirst]
    decide +kernel
  have idle : d.NoTransfer := by decide +kernel
  have connected : d.isConnected = true := by decide +kernel
  have readable (path : String) : d.env.Holds path [1] := ⟨rfl, by decide, by decide⟩
  have inactive : d.ops.uploadQueueIndex = -1 := by decide +kernel
  -- all that is needed of the state is said
  clear_value d
  exact uploadFolder_complete idle inactive connected found (List.Perm.refl _)
    (fun item _ => readable item.localPath) turns acked

/-- a hidden file is left out of the copy, and a backslash in a name makes a folder of it -/
theorem uploadFolder_leaves_hidden :
    let t : Contents := .file ".env" true (.file "a\\b" false .nil)
    let d := Run.exec step [.env { serialOpens := fun _ => true, readFile := fun _ => some [1]
                                   folder := fun _ => some ⟨"d", t.listed "/home/d/" ""⟩ },
      .call (.connectToDevice "COM3")] init
    let es := List.replicate 4 (Event.frame ⟨CMD_ACK, 0, []⟩ .Correct)
    let w := history step (fun d => uploaded d.out)
      (Event.call (.uploadFolder "/home/d" "/") :: es) d
    d.NoTransfer ∧ d.ops.uploadQueueIndex = -1 ∧ d.isConnected = true ∧
      d.env.folder (d.env.localPath "/home/d") = some ⟨"d", t.listed "/home/d/" ""⟩ ∧
      (∀ path, d.env.Holds path [1]) ∧ (commands w).length ≤ es.countP (·.IsAck) ∧
      (∀ name, ¬ CopiesTree name t "/home/d/" "/d" (fun _ => [1]) w) ∧
      ¬ CopiesTree id t.visible "/home/d/" "/d" (fun _ => [1]) w := by
  intro t d es w
  have found : d.env.folder (d.env.localPath "/home/d") = some ⟨"d", t.listed "/home/d/" ""⟩ := rfl
  have hdirs : remoteDirs (withSlash "/" ++ "d") ⟨"d", t.listed "/home/d/" ""⟩ = ["/d"] := by
    have hbase : withSlash "/" ++ "d" = "/d" := by decide +kernel
    rw [hbase]
    exact List.mergeSort_of_pairwise (by decide +kernel)
  have hfirst := step_uploadFolder_eq "/home/d" "/" (by decide +kernel) (by decide +kernel) found
    hdirs
  -- MKDIR, START, DATA and FINISH of one file, and the count
  have hw : w = [.inl (mkdirCommand "/d"), .inl (startCommand [1] "/d/a/b"),
      .inl (dataCommand .fileUpload [1] 0), .inl (finishCommand .fileUpload), .inr 1] := by
    show uploaded (step (.call (.uploadFolder "/home/d" "/")) d).out ++
      history step _ es (step (.call (.uploadFolder "/home/d" "/")) d) = _
    rw [hfirst]
    decide +kernel
  refine ⟨by decide +kernel, by decide +kernel, by decide +kernel, found,
    fun _ => ⟨rfl, by decide, by decide⟩, ?_, fun name => ?_, ?_⟩
  · rw [hw]
    decide +kernel
  · rintro ⟨dirs, files, -, -, hfiles, heq⟩
    have hlen : files.length = 2 := hfiles.length_eq
    have hlast := congrArg List.getLast? heq
    rw [hw, List.getLast?_concat, hlen] at hlast
    exact absurd hlast (by decide)
  · rintro ⟨dirs, files, hdirs, -, hfiles, heq⟩
    have hone : files = [⟨"/home/d/a\\b", "/d/a\\b"⟩] := by
      have hvisible : t.visible.files id "/home/d/" "/d"
          = [⟨"/home/d/a\\b", "/d/a\\b"⟩] := by decide +kernel
      rw [hvisible] at hfiles
      exact List.perm_singleton.mp hfiles
    have hdir : dirs = ["/d"] := List.perm_singleton.mp hdirs
    rw [hw, hone, hdir] at heq
    revert heq
    decide +kernel

end QMon.Device
