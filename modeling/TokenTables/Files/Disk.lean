import TokenTables.Files.Path
/-!
# Files and directories

Directories and files by their location under the root, and the operations on them by path.  A path
is followed segment by segment, and every segment, an idle one too, is looked up in a directory.
-/

namespace TokenTables.Files

/-- What a file holds. -/
inductive Content
  | text (text : String)
  /-- Bytes that are no text in UTF-8. -/
  | binary (bytes : ByteArray)

def Content.ofBytes (bytes : ByteArray) : Content :=
  match String.fromUTF8? bytes with
  | some written => text written
  | none => binary bytes

inductive Entry
  | directory
  | file (content : Content)

def Entry.isDirectory : Entry → Bool
  | directory => true
  | file _ => false

/-- The names on the way from the root. -/
abbrev Location := List String

/-- Why an operation on a path is refused. -/
inductive FileError
  | missing
  | alreadyExists
  | notDirectory
  | isDirectory
  /-- The path or a name in it is too long. -/
  | tooLong
  /-- The path has a NUL, which no path can have. -/
  | nulInPath
  /-- The file is no text in UTF-8. -/
  | notText
  /-- Any other reason of the system, in its words. -/
  | other (message : String)
deriving DecidableEq, Repr

def FileError.message : FileError → String
  | missing => "No such file or directory (os error 2)"
  | alreadyExists => "File exists (os error 17)"
  | notDirectory => "Not a directory (os error 20)"
  | isDirectory => "Is a directory (os error 21)"
  | tooLong => "File name too long (os error 36)"
  | nulInPath => "file name contained an unexpected NUL byte"
  | notText => "stream did not contain valid UTF-8"
  | other message => message

/-- All entries, and the directory that relative paths start from. -/
structure Disk where
  entries : List (Location × Entry)
  workingDirectory : Location

namespace Disk

/-- Nothing but a working directory. -/
def empty (workingDirectory : Location) : Disk :=
  ⟨[], workingDirectory⟩

/-! ## Entries -/

/-- What is at a location.  The working directory and those above it are always there. -/
def find? (disk : Disk) (location : Location) : Option Entry :=
  if location.isPrefixOf disk.workingDirectory then some .directory
  else disk.entries.lookup location

/-- The disk with an entry at a location, in place of one that was there. -/
def insert (disk : Disk) (location : Location) (entry : Entry) : Disk :=
  { disk with entries := (location, entry) :: disk.entries.filter (·.1 != location) }

def erase (disk : Disk) (location : Location) : Disk :=
  { disk with entries := disk.entries.filter (·.1 != location) }

/-- The entries under the working directory, by their path from it. -/
def listing (disk : Disk) : List (Path × Entry) :=
  disk.entries.filterMap fun (location, entry) =>
    let depth := disk.workingDirectory.length
    if disk.workingDirectory.isPrefixOf location && depth < location.length then
      some (Path.ofSegments (location.drop depth), entry)
    else none

/-! ## Following a path -/

/-- How many bytes a name can have. -/
def nameCapacity : Nat := 255

/-- How many bytes the text of a path can have. -/
def pathCapacity : Nat := 4095

/-- What can be said of a path from its text alone: with a NUL, too many bytes or no text at all it
leads nowhere. -/
def readable (path : Path) : Except FileError Unit :=
  if path.text.toList.contains '\x00' then .error .nulInPath
  else if pathCapacity < path.text.utf8ByteSize then .error .tooLong
  else if path.isEmpty then .error .missing
  else .ok ()

/-- There is a directory at a location. -/
def enter (disk : Disk) (location : Location) : Except FileError Unit :=
  match disk.find? location with
  | none => .error .missing
  | some (.file _) => .error .notDirectory
  | some .directory => .ok ()

/-- The location that a segment leads to from a directory. -/
def step (disk : Disk) (location : Location) (segment : String) : Except FileError Location :=
  (disk.enter location).bind fun _ =>
    if nameCapacity < segment.utf8ByteSize then .error .tooLong
    else .ok (if Path.isIdle segment then location
      else if segment == ".." then location.dropLast
      else location ++ [segment])

def follow (disk : Disk) (location : Location) : List String → Except FileError Location
  | [] => .ok location
  | segment :: rest => (disk.step location segment).bind fun next => disk.follow next rest

/-- Where a path starts, and the segments to follow from there. -/
def route (disk : Disk) (path : Path) : Location × List String :=
  if path.isAbsolute then ([], path.rest) else (disk.workingDirectory, path.segments)

def locate (disk : Disk) (path : Path) : Except FileError Location :=
  (readable path).bind fun _ => disk.follow (disk.route path).1 (disk.route path).2

/-- The directory that a path leads to with its last segment left out, slashes after it apart, and
that segment, which need not be there yet; none for a path that ends in no name. -/
def locateNew? (disk : Disk) (path : Path) : Except FileError (Option (Location × String)) :=
  (readable path).bind fun _ =>
    match (disk.route path).2.reverse.dropWhile String.isEmpty with
    | [] => .ok none
    | last :: before =>
      (disk.follow (disk.route path).1 before.reverse).bind fun directory =>
        (disk.enter directory).map fun _ =>
          if last == "." || last == ".." then none else some (directory, last)

/-! ## Operations -/

def isDirectory (disk : Disk) (path : Path) : Bool :=
  match disk.locate path with
  | .ok location => ((disk.find? location).map Entry.isDirectory).getD false
  | .error _ => false

def readText (disk : Disk) (path : Path) : Except FileError String :=
  (disk.locate path).bind fun location =>
    match disk.find? location with
    | none => .error .missing
    | some .directory => .error .isDirectory
    | some (.file (.binary _)) => .error .notText
    | some (.file (.text written)) => .ok written

def write (disk : Disk) (path : Path) (content : Content) : Except FileError Disk :=
  (disk.locateNew? path).bind fun
    | none => .error .isDirectory
    | some (directory, name) =>
      if path.endsInSlash then .error .isDirectory
      else
        (disk.step directory name).bind fun location =>
          if ((disk.find? location).map Entry.isDirectory).getD false then .error .isDirectory
          else .ok (disk.insert location (.file content))

/-- Makes one directory, in one that is there. -/
def createDirectory (disk : Disk) (path : Path) : Except FileError Disk :=
  (disk.locateNew? path).bind fun
    | none => .error .alreadyExists
    | some (directory, name) =>
      (disk.step directory name).bind fun location =>
        if (disk.find? location).isSome then .error .alreadyExists
        else .ok (disk.insert location .directory)

/-- Makes a directory with all that are missing above it.  What was made stays, even if a later
step is refused. -/
def createDirectories (disk : Disk) (path : Path) : Except FileError Unit × Disk :=
  let settle (disk : Disk) (reason : FileError) : Except FileError Unit × Disk :=
    (if disk.isDirectory path then .ok () else .error reason, disk)
  if path.isEmpty then (.ok (), disk)
  else
    match disk.createDirectory path with
    | .ok made => (.ok (), made)
    | .error .missing =>
      match _h : path.parent? with
      | none => (.error .missing, disk)
      | some parent =>
        match disk.createDirectories parent with
        | (.error reason, made) => (.error reason, made)
        | (.ok (), made) =>
          match made.createDirectory path with
          | .ok all => (.ok (), all)
          | .error reason => settle made reason
    | .error reason => settle disk reason
termination_by path.depth
decreasing_by exact Path.depth_lt_of_parent? _h

def removeFile (disk : Disk) (path : Path) : Except FileError Disk :=
  (disk.locate path).bind fun location =>
    match disk.find? location with
    | none => .error .missing
    | some .directory => .error .isDirectory
    | some (.file _) => .ok (disk.erase location)

/-! ## Entries after a change -/

theorem lookup_filter_ne {location other : Location} (h : other ≠ location)
    (entries : List (Location × Entry)) :
    (entries.filter (·.1 != location)).lookup other = entries.lookup other := by
  induction entries with
  | nil => rfl
  | cons head rest ih =>
    obtain ⟨place, found⟩ := head
    by_cases hplace : place = location
    · subst hplace
      simp [List.lookup_cons, ih, beq_eq_false_iff_ne.2 h]
    · simp [List.lookup_cons, ih, hplace]

theorem find?_insert_of_ne {disk : Disk} {location other : Location} (entry : Entry)
    (h : other ≠ location) : (disk.insert location entry).find? other = disk.find? other := by
  simp [find?, insert, List.lookup_cons, beq_eq_false_iff_ne.2 h, lookup_filter_ne h]

theorem find?_insert_self {disk : Disk} {location : Location} (entry : Entry)
    (h : ¬ location.isPrefixOf disk.workingDirectory) :
    (disk.insert location entry).find? location = some entry := by
  simp [find?, insert, h]

end Disk

end TokenTables.Files
