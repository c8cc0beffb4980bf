import Soap.Source
import Soap.Text.Split
import Soap.Text.Utf8

/-!
# Files

A store of files as a file system shows it: a location is walked component by component from the
root or from the working directory, every component but the last must be a directory, and a location
that is too long names nothing. The limit on the length is why a store serves finitely many
locations.
-/

namespace Soap

/-- Files by their paths from the root, and a working directory. The directories are those that the
files and the working directory imply. -/
structure FileStore where
  files : List (List String × String)
  workingDirectory : List String
deriving DecidableEq, Repr

inductive FileError where
  | absent
  | notDirectory
  | isDirectory
  | nameTooLong
  | nulInName
deriving DecidableEq, Repr

def FileError.message : FileError → String
  | .absent => "No such file or directory (os error 2)"
  | .notDirectory => "Not a directory (os error 20)"
  | .isDirectory => "Is a directory (os error 21)"
  | .nameTooLong => "File name too long (os error 36)"
  | .nulInName => "file name contained an unexpected NUL byte"

namespace FileStore

/-- The longest location that names a file, and the longest name of one component, in bytes. -/
def maxLocation : Nat := 4095

@[inherit_doc maxLocation]
def maxComponent : Nat := 255

/-- The contents of the file at a path; of two the later counts. -/
def file? (fs : FileStore) (path : List String) : Option String :=
  (fs.files.reverse.find? fun f => f.1 == path).map Prod.snd

def isDirectory (fs : FileStore) (path : List String) : Bool :=
  path.isPrefixOf fs.workingDirectory ||
    fs.files.any fun f => path.isPrefixOf f.1 && path.length < f.1.length

def walk (fs : FileStore) (here : List String) : List String → Except FileError (List String)
  | [] => .ok here
  | component :: rest =>
    if fs.isDirectory here then
      if maxComponent < Utf8.length component.toList then .error .nameTooLong
      else if component = "." then walk fs here rest
      else if component = ".." then walk fs here.dropLast rest
      else walk fs (here ++ [component]) rest
    else if (fs.file? here).isSome then .error .notDirectory
    else .error .absent

/-- Read the file that a location of acceptable length names. -/
def readNamed (fs : FileStore) (cs : List Char) : Except FileError String := do
  let components := ((Text.pieces (· == '/') cs).filter (!·.isEmpty)).map String.ofList
  let path ← fs.walk (if cs.head? = some '/' then [] else fs.workingDirectory) components
  if fs.isDirectory path then throw .isDirectory
  match fs.file? path with
  | none => throw .absent
  | some text => if cs.getLast? = some '/' then throw .notDirectory else return text

def read (fs : FileStore) (location : String) : Except FileError String :=
  let cs := location.toList
  if cs.contains '\x00' then .error .nulInName
  else if cs.isEmpty then .error .absent
  else if maxLocation < Utf8.length cs then .error .nameTooLong
  else fs.readNamed cs

end FileStore

/-! ### Finitely many locations -/

/-- Finitely many texts are no longer than `n` characters. -/
theorem exists_short_texts (n : Nat) :
    ∃ texts : List (List Char), ∀ cs : List Char, cs.length ≤ n → cs ∈ texts := by
  have hall : ∀ c : Char, c ∈ (List.range 0x110000).map Char.ofNat := fun c => by
    refine List.mem_map.2 ⟨c.toNat, List.mem_range.2 ?_, Char.ofNat_toNat c⟩
    have := c.valid
    simp only [UInt32.isValidChar, Nat.isValidChar] at this
    simp only [Char.toNat]
    omega
  generalize (List.range 0x110000).map Char.ofNat = alphabet at hall
  induction n with
  | zero => exact ⟨[[]], fun cs h => by simp [List.eq_nil_of_length_eq_zero (Nat.le_zero.1 h)]⟩
  | succ n ih =>
    obtain ⟨shorter, hshorter⟩ := ih
    refine ⟨[] :: shorter.flatMap fun cs => alphabet.map (· :: cs), fun cs h => ?_⟩
    cases cs with
    | nil => simp
    | cons c rest =>
      refine List.mem_cons_of_mem _ (List.mem_flatMap.2 ⟨rest, hshorter rest ?_, ?_⟩)
      · simpa using h
      · exact List.mem_map.2 ⟨c, hall c, rfl⟩

theorem length_le_utf8Length (cs : List Char) : cs.length ≤ Utf8.length cs := by
  suffices h : ∀ n, n + cs.length ≤ cs.foldl (fun n c => n + c.utf8Size) n by
    simpa [Utf8.length] using h 0
  induction cs with
  | nil => simp
  | cons c rest ih =>
    intro n
    have hc := c.utf8Size_pos
    have := ih (n + c.utf8Size)
    simp only [List.length_cons, List.foldl_cons]
    omega

/-- What can be read has a location of bounded length. -/
theorem FileStore.utf8Length_le_of_read {fs : FileStore} {location text : String}
    (h : fs.read location = .ok text) : Utf8.length location.toList ≤ maxLocation := by
  simp only [FileStore.read] at h
  split at h
  · cases h
  split at h
  · cases h
  split at h
  · cases h
  · omega

namespace Source

def withoutMark (mark location : String) : String :=
  ((Text.afterLead? mark.toList location.toList).map String.ofList).getD location

/-- A file of a store, by its path or by a URL. Nothing is fetched over the network. -/
def fetchFile (fs : FileStore) (location : String) : Except FetchError String :=
  let begins (mark : String) : Bool := mark.toList.isPrefixOf location.toList
  if begins "http://" || begins "https://" then .error (.unsupported location)
  else (fs.read (withoutMark "file://" location)).mapError fun e => .unreadable location e.message

/-- A mark that is left out has seven characters. -/
theorem length_le_withoutMark (location : String) :
    location.toList.length ≤ (withoutMark "file://" location).toList.length + 7 := by
  unfold withoutMark
  cases hcut : Text.afterLead? "file://".toList location.toList with
  | none => simp
  | some rest =>
    have hlength := Text.length_of_afterLead? hcut
    have hseven : "file://".toList.length = 7 := by decide
    simp only [Option.map_some, Option.getD_some, String.toList_ofList]
    omega

/-- There are only so many locations that are short enough for a file. -/
theorem finite_fetchFile (fs : FileStore) :
    ∃ served : List String, ∀ location text, fetchFile fs location = .ok text →
    location ∈ served := by
  obtain ⟨texts, htexts⟩ := exists_short_texts (FileStore.maxLocation + 7)
  refine ⟨texts.map String.ofList, fun location text h => ?_⟩
  simp only [fetchFile] at h
  split at h
  · cases h
  refine List.mem_map.2 ⟨location.toList, htexts _ ?_, String.ofList_toList⟩
  cases hread : fs.read (withoutMark "file://" location) with
  | error e =>
    rw [hread] at h
    cases h
  | ok t =>
    have hlen := FileStore.utf8Length_le_of_read hread
    have hle := length_le_utf8Length (withoutMark "file://" location).toList
    have hmark := length_le_withoutMark location
    omega

/-- The files of a store, by path or by the URL of one. -/
def ofFiles (fs : FileStore) : Source where
  fetch := fetchFile fs
  finite := finite_fetchFile fs

end Source

end Soap
