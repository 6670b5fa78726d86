import Switchboard.Proofs.Web.RequestIds

/-!
# Files that are sent

To send a file is to look for it and to write what has been found. The file system is asked for the path, and
for the index file below it where the path leads to a directory; nothing else about it makes a difference.
-/

namespace Switchboard

variable {ε : Type}

namespace State

/-! ## Looking -/

theorem fileFor?_congr {files files' : FileTree} {index path : String}
    (hpath : files.find? path = files'.find? path)
    (hindex : files.find? path = some .directory →
      files.find? (FileTree.join path index) = files'.find? (FileTree.join path index)) :
    fileFor? files index path = fileFor? files' index path := by
  unfold fileFor?
  rw [← hpath]
  cases hfound : files.find? path with
  | none => rfl
  | some entry =>
    cases entry with
    | directory =>
      dsimp only
      rw [hindex hfound]
    | _ => rfl

/-! ## Writing -/

def offerType (s : State ε) (contentType : String) : State ε :=
  if (s.response.header.first? "content-type").isNone then s.setContentType contentType else s

/-- Commits, and writes the content unless the head alone is asked for. -/
def deliver (s : State ε) (content : Bytes) : State ε :=
  if (s.writeHeader 200).request.method = "HEAD" then s.writeHeader 200
  else (s.writeHeader 200).write content

def sendFound (s : State ε) : Option (String × FileEntry) → Except Error Unit × State ε
  | none => (.error (.http HttpError.notFound), s)
  | some (name, entry) =>
    match entry.read with
    | .error detail => (.error (.io detail), s)
    | .ok content =>
      (.ok (), (s.offerType (ContentType.ofExtension (FileTree.extension name)).value).deliver content)

theorem sendFile_eq (s : State ε) (path : String) :
    s.sendFile path = s.sendFound (fileFor? s.world.files s.indexFile path) := by
  unfold sendFile
  cases fileFor? s.world.files s.indexFile path <;> rfl

theorem sendFile_of_read {s : State ε} {path name : String} {entry : FileEntry} {content : Bytes}
    (hfound : fileFor? s.world.files s.indexFile path = some (name, entry))
    (hread : entry.read = .ok content) : (s.sendFile path).1 = .ok () := by
  rw [sendFile_eq, hfound]
  simp only [sendFound, hread]

section shows

variable {field : String} {values : List String} {s : State ε}
  (hs : s.response.Shows field values)
include hs

theorem offerType_shows (hfield : Header.name? "content-type" ≠ Header.name? field)
    (contentType : String) : (s.offerType contentType).response.Shows field values := by
  unfold offerType
  split
  · exact step_shows (w := .setHeader "content-type" contentType) hs hfield
  · exact hs

theorem deliver_shows (content : Bytes) : (s.deliver content).response.Shows field values := by
  have hcommitted := step_shows (w := .writeHeader 200) hs id
  unfold deliver
  split
  · exact hcommitted
  · exact step_shows (w := .write content) hcommitted id

theorem sendFile_shows (hfield : Header.name? "content-type" ≠ Header.name? field) (path : String) :
    (s.sendFile path).2.response.Shows field values := by
  rw [sendFile_eq]
  fun_cases sendFound s (fileFor? s.world.files s.indexFile path) with
  | case1 | case2 => exact hs
  | case3 => exact deliver_shows (offerType_shows hs hfield _) _

end shows

/-! ## Other files -/

def withFiles (s : State ε) (files : FileTree) : State ε :=
  { s with world := { s.world with files } }

/-- Steps of the writer do not look at files, and leave them alone. -/
theorem step_withFiles (s : State ε) (files : FileTree) (w : WriterStep) :
    (s.withFiles files).step w = (s.step w).withFiles files := by
  have hnoted (notes : List WriterNote) (world : World ε) (capturing : Bool) :
      notes.foldl (noted · capturing) { world with files } =
        { notes.foldl (noted · capturing) world with files } := by
    induction notes generalizing world with
    | nil => rfl
    | cons n notes ih =>
      have hnote : noted { world with files } capturing n = { noted world capturing n with files } := by
        cases n <;> rfl
      rw [List.foldl_cons, hnote, ih, List.foldl_cons]
  unfold step withResponse
  simp only [withFiles, response, hnoted]

theorem files_step (s : State ε) (w : WriterStep) : (s.step w).world.files = s.world.files :=
  congrArg (·.world.files) (step_withFiles s s.world.files w)

theorem offerType_withFiles (s : State ε) (files : FileTree) (contentType : String) :
    (s.withFiles files).offerType contentType = (s.offerType contentType).withFiles files := by
  have hheader : (s.withFiles files).response.header = s.response.header := rfl
  unfold offerType
  rw [hheader]
  split
  · exact step_withFiles s files _
  · rfl

theorem deliver_withFiles (s : State ε) (files : FileTree) (content : Bytes) :
    (s.withFiles files).deliver content = (s.deliver content).withFiles files := by
  have hcommitted : (s.withFiles files).writeHeader 200 = (s.writeHeader 200).withFiles files :=
    step_withFiles s files _
  have hmethod : ((s.writeHeader 200).withFiles files).request.method =
      (s.writeHeader 200).request.method := rfl
  unfold deliver
  rw [hcommitted, hmethod]
  split
  · rfl
  · exact step_withFiles _ files _

theorem sendFound_withFiles (s : State ε) (files : FileTree) (found : Option (String × FileEntry)) :
    (s.withFiles files).sendFound found =
      ((s.sendFound found).1, (s.sendFound found).2.withFiles files) := by
  fun_cases sendFound s found with
  | case1 => rfl
  | case2 name entry detail hread => simp only [sendFound, hread]
  | case3 name entry content hread =>
    simp only [sendFound, hread, offerType_withFiles, deliver_withFiles]

/-- Before files that do not differ in what is looked for, the same is sent. -/
theorem sendFile_withFiles (s : State ε) {files files' : FileTree} {path : String}
    (hfound : fileFor? files s.indexFile path = fileFor? files' s.indexFile path) :
    (s.withFiles files').sendFile path =
      (((s.withFiles files).sendFile path).1, ((s.withFiles files).sendFile path).2.withFiles files') := by
  have hsent (files : FileTree) : (s.withFiles files).sendFile path =
      ((s.sendFound (fileFor? files s.indexFile path)).1,
        (s.sendFound (fileFor? files s.indexFile path)).2.withFiles files) := by
    rw [sendFile_eq]
    exact sendFound_withFiles s files _
  rw [hsent, hsent, hfound]
  rfl

end State

end Switchboard
