import HtmlTemplate.FileSystem
import HtmlTemplate.Proofs.Outcome

/-!
# Reading and writing files

What a path reads as is told by the file that it leads to (`readText_eq_ok_iff`). A path leads
through directories only (`walk_eq_ok_iff`), so it leads to the same place for as long as they are
there (`locate_of_directories`). Writing puts a file where there was none or where another file was, never
in the place of a directory (`exists_writtenAt_of_writeText`). So every path that led somewhere
still does, and the path that was written to reads as the text (`WrittenAt.readText`).
-/

set_option autoImplicit false

namespace HtmlTemplate

variable {fs after : FileSystem} {path text : String} {location target : List String}

theorem decodeText_eq_ok_iff {bytes : ByteArray} :
    decodeText bytes = .ok text ↔ bytes = text.toUTF8 := by
  by_cases valid : bytes.IsValidUTF8
  · have decoded : String.fromUTF8? bytes = some (.fromUTF8 bytes valid) := dif_pos valid
    simp only [decodeText, decoded, Except.ok.injEq]
    constructor
    · rintro rfl
      rfl
    · rintro rfl
      rfl
  · have refused : String.fromUTF8? bytes = none := dif_neg valid
    simp only [decodeText, refused]
    refine ⟨nofun, ?_⟩
    rintro rfl
    exact absurd text.isValidUTF8 valid

namespace FileSystem

/-! ## Where paths lead -/

/-- Parts of a path lead from a location to another. Every part needs a directory to start from. -/
inductive Leads (fs : FileSystem) : List String → List String → List String → Prop
  | here (location : List String) : Leads fs location [] location
  | stay {location rest target : List String} {part : String} :
      fs.entry? location = some .directory → part = "" ∨ part = "." →
      Leads fs location rest target → Leads fs location (part :: rest) target
  | up {location rest target : List String} :
      fs.entry? location = some .directory → Leads fs location.dropLast rest target →
      Leads fs location (".." :: rest) target
  | down {location rest target : List String} {part : String} :
      fs.entry? location = some .directory → part ≠ "" → part ≠ "." → part ≠ ".." →
      part.utf8ByteSize ≤ 255 → Leads fs (location ++ [part]) rest target →
      Leads fs location (part :: rest) target

theorem leads_of_walk : ∀ {parts location : List String},
    fs.walk location parts = .ok target → fs.Leads location parts target
  | [], location, walked => by
    cases walked
    exact .here _
  | part :: rest, location, walked => by
    unfold walk at walked
    split at walked
    · cases walked
    · cases walked
    · next directory =>
      by_cases stays : part = "" ∨ part = "."
      · rw [if_pos (by simpa using stays)] at walked
        exact .stay directory stays (leads_of_walk walked)
      · rw [if_neg (by simpa using stays)] at walked
        by_cases above : part = ".."
        · subst above
          exact .up directory (leads_of_walk walked)
        · rw [if_neg above] at walked
          split at walked
          · cases walked
          · next short =>
            obtain ⟨nonempty, other⟩ := not_or.mp stays
            exact .down directory nonempty other above (Nat.le_of_not_lt short)
              (leads_of_walk walked)

theorem Leads.walk_eq {parts : List String} (leads : fs.Leads location parts target) :
    fs.walk location parts = .ok target := by
  induction leads with
  | here location => rfl
  | stay directory stays _ ih => simp [walk, directory, stays, ih]
  | up directory _ ih => simp [walk, directory, ih]
  | down directory nonempty other below short _ ih =>
    simp [walk, directory, nonempty, other, below, maxNameSize, Nat.not_lt.mpr short, ih]

theorem walk_eq_ok_iff {parts : List String} :
    fs.walk location parts = .ok target ↔ fs.Leads location parts target :=
  ⟨leads_of_walk, Leads.walk_eq⟩

/-- Parts of a path lead to the same place as long as all directories stay. -/
theorem Leads.of_directories {parts : List String}
    (kept : ∀ location, fs.entry? location = some .directory →
      after.entry? location = some .directory)
    (leads : fs.Leads location parts target) : after.Leads location parts target := by
  induction leads with
  | here location => exact .here location
  | stay directory stays _ ih => exact .stay (kept _ directory) stays ih
  | up directory _ ih => exact .up (kept _ directory) ih
  | down directory nonempty other below short _ ih =>
    exact .down (kept _ directory) nonempty other below short ih

theorem locate_eq_ok_iff : fs.locate path = .ok location ↔ path ≠ "" ∧ '\x00' ∉ path.toList ∧
    fs.walk (if path.startsWith "/" then [] else fs.workingDirectory) (Text.splitAt '/' path) =
      .ok location := by
  unfold locate
  by_cases empty : path = ""
  · simp [empty]
  · by_cases zero : '\x00' ∈ path.toList
    · simp [empty, zero]
    · simp [empty, zero]

theorem locate_of_directories
    (kept : ∀ location, fs.entry? location = some .directory →
      after.entry? location = some .directory)
    (start : after.workingDirectory = fs.workingDirectory)
    (leads : fs.locate path = .ok location) : after.locate path = .ok location := by
  obtain ⟨nonempty, whole, walked⟩ := locate_eq_ok_iff.mp leads
  rw [← start] at walked
  exact locate_eq_ok_iff.mpr
    ⟨nonempty, whole, ((walk_eq_ok_iff.mp walked).of_directories kept).walk_eq⟩

/-! ## Reading -/

theorem status_eq_ok_iff {entry : Entry} :
    fs.status path = .ok entry ↔ ∃ location, fs.locate path = .ok location ∧
      fs.entry? location = some entry := by
  refine Except.bind_eq_ok_iff.trans (exists_congr fun location => and_congr_right fun _ => ?_)
  cases fs.entry? location <;> simp

theorem exists?_eq_true_iff : fs.exists? path = true ↔ ∃ location entry,
    fs.locate path = .ok location ∧ fs.entry? location = some entry := by
  have found : fs.exists? path = true ↔ ∃ entry, fs.status path = .ok entry := by
    unfold exists?
    cases fs.status path <;> simp
  simp only [found, status_eq_ok_iff]
  exact exists_comm

theorem isFile_eq_true_iff : fs.isFile path = true ↔ ∃ location content,
    fs.locate path = .ok location ∧ fs.entry? location = some (.file content) := by
  have found : fs.isFile path = true ↔ ∃ content, fs.status path = .ok (.file content) := by
    unfold isFile
    rcases fs.status path with _ | _ | _ <;> simp
  simp only [found, status_eq_ok_iff]
  exact exists_comm

/-- The text of a path is what the file that it leads to encodes. -/
theorem readText_eq_ok_iff : fs.readText path = .ok text ↔ ∃ location,
    fs.locate path = .ok location ∧ fs.entry? location = some (.file text.toUTF8) := by
  have found (content : ByteArray) :
      fs.read path = .ok content ↔ fs.status path = .ok (.file content) := by
    refine Except.bind_eq_ok_iff.trans ⟨?_, fun held => ⟨_, held, rfl⟩⟩
    rintro ⟨content' | _, held, ⟨⟩⟩
    exact held
  rw [← status_eq_ok_iff, ← found]
  refine Except.bind_eq_ok_iff.trans ⟨?_, fun held => ⟨_, held, decodeText_eq_ok_iff.mpr rfl⟩⟩
  rintro ⟨content, held, decoded⟩
  rw [held, decodeText_eq_ok_iff.mp decoded]

theorem exists?_of_readText (read : fs.readText path = .ok text) : fs.exists? path = true := by
  obtain ⟨location, leads, held⟩ := readText_eq_ok_iff.mp read
  exact exists?_eq_true_iff.mpr ⟨location, _, leads, held⟩

/-! ## Writing -/

/-- The text is at the location, and everything else is as it was. -/
structure WrittenAt (fs : FileSystem) (location : List String) (text : String)
    (after : FileSystem) : Prop where
  written : after.entry? location = some (.file text.toUTF8)
  others : ∀ other ≠ location, after.entry? other = fs.entry? other
  workingDirectory : after.workingDirectory = fs.workingDirectory

theorem withoutSlashes_eq_self_iff :
    withoutSlashes path = path ↔ path.toList.getLast? ≠ some '/' := by
  have reversed : withoutSlashes path = path ↔
      path.toList.reverse.dropWhile (· = '/') = path.toList.reverse := by
    rw [withoutSlashes, ← String.toList_inj, String.toList_ofList, List.reverse_eq_iff]
  rw [reversed, ← List.head?_reverse]
  cases path.toList.reverse with
  | nil => simp
  | cons c cs =>
    by_cases slash : c = '/'
    · rw [slash, List.dropWhile_cons_of_pos (by simp)]
      have shorter : (cs.dropWhile (· = '/')).length ≤ cs.length :=
        (List.dropWhile_suffix _).length_le
      refine iff_of_false (fun whole => ?_) (by simp)
      rw [whole, List.length_cons] at shorter
      omega
    · simp [slash]

/-- A path with a slash at its end cannot be written to, and any other is written to where it
leads. -/
theorem locateForWriting_eq_ok_iff : fs.locateForWriting path = .ok location ↔
    path.toList.getLast? ≠ some '/' ∧ fs.locate path = .ok location := by
  rw [← withoutSlashes_eq_self_iff]
  simp only [locateForWriting]
  by_cases plain : withoutSlashes path = path
  · rw [if_pos plain, and_iff_right plain]
  · rw [if_neg plain]
    refine ⟨fun written => ?_, fun both => absurd both.1 plain⟩
    split at written
    · cases written
    · obtain ⟨_, _, refused⟩ := Except.bind_eq_ok_iff.mp written
      cases refused

/-- Writing changes what is at the location that the path leads to, and a directory is never
there. -/
theorem exists_writtenAt_of_writeText (done : fs.writeText path text = .ok after) :
    ∃ location, fs.locate path = .ok location ∧ fs.entry? location ≠ some .directory ∧
      fs.WrittenAt location text after := by
  obtain ⟨location, leads, done⟩ := Except.bind_eq_ok_iff.mp done
  refine ⟨location, (locateForWriting_eq_ok_iff.mp leads).2, ?_⟩
  split at done
  · cases done
  · next free =>
    cases done
    exact ⟨free, ⟨if_pos rfl, fun other ne => if_neg ne, rfl⟩⟩

/-- A path without a slash at its end can be written to unless it leads to a directory. -/
theorem writeText_of_locate (plain : path.toList.getLast? ≠ some '/')
    (leads : fs.locate path = .ok location) (free : fs.entry? location ≠ some .directory) :
    fs.writeText path text = .ok (fs.set location (.file text.toUTF8)) := by
  refine Except.bind_eq_ok_iff.mpr ⟨location, locateForWriting_eq_ok_iff.mpr ⟨plain, leads⟩, ?_⟩
  split
  · next directory => exact absurd directory free
  · rfl

theorem WrittenAt.directories (written : fs.WrittenAt location text after)
    (free : fs.entry? location ≠ some .directory) {other : List String}
    (directory : fs.entry? other = some .directory) : after.entry? other = some .directory := by
  have elsewhere : other ≠ location := by
    rintro rfl
    exact free directory
  rw [written.others other elsewhere, directory]

theorem WrittenAt.readText (written : fs.WrittenAt location text after)
    (free : fs.entry? location ≠ some .directory) (leads : fs.locate path = .ok location) :
    after.readText path = .ok text := by
  have leads' : after.locate path = .ok location :=
    locate_of_directories (fun _ => written.directories free) written.workingDirectory leads
  exact readText_eq_ok_iff.mpr ⟨location, leads', written.written⟩

end FileSystem

end HtmlTemplate
